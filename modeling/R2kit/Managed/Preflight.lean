import R2kit.Managed.Adaptive
import R2kit.Object.PresignUpload

/-!
# Part sizes that grow with the file

`UploadFileBuilder::send` and `Bucket::presign_upload_with_options` both raise the part size
until the file fits into 10,000 parts. The raised size always has a plan; it has not been
through the memory budget that the configured size was checked against.
-/

namespace R2kit

open Misc

/-- What a scaled part size is for a file: permitted, sufficient, and the least from the
    configured size on. -/
structure Scales (partSize fileSize size : Nat) : Prop where
  inRange : minMultipartPartSize ≤ size ∧ size ≤ maxMultipartPartSize
  planned : ∃ plan, MultipartPlan.new fileSize size = .ok plan
  least : IsLeast {larger | partSize ≤ larger ∧ fileSize ⌈/⌉ larger ≤ 10000} size

theorem scaledPartSize_scales {partSize fileSize : Nat}
    (valid : validatePartSize partSize = .ok ()) (positive : 1 ≤ fileSize)
    (storable : fileSize ≤ maxMultipartObjectSize) :
    Scales partSize fileSize (scaledPartSize partSize fileSize) where
  inRange := validatePartSize_ok_iff.mp (scaledPartSize_valid valid storable)
  planned := new_scaledPartSize valid (Nat.one_le_iff_ne_zero.mp positive) storable
  least := scaledPartSize_isLeast valid

/-- Both ways of scaling a part size give the least one that does, and the size of the file
    alone decides what `presign_upload` plans. -/
theorem presignUpload_by_size :
    (∀ (builder : UploadFileBuilder) (fileSize : Nat),
      validatePartSize builder.partSize = .ok () → 1 ≤ fileSize →
      fileSize ≤ maxMultipartObjectSize →
      Scales builder.partSize fileSize (builder.effectivePartSize fileSize)) ∧
    (∀ fileSize, 1 ≤ fileSize → fileSize ≤ maxMultipartObjectSize →
      Scales UploadThreshold.defaultBytes fileSize (presignedPartSize fileSize)) ∧
    ∀ (crates : Crates) (sign : Signer) (now : SystemTime) (answer : CreateAnswer)
      (bucket : BucketName) (key : ObjectKey) (fileSize : Nat) (expiresIn : Duration)
      (options : ObjectUploadOptions),
      validateExpiry expiresIn = .ok () → AcceptsOptions crates fileSize options →
      (∀ input, ∃ signed, sign input expiresIn = some signed) →
      (∀ input, ∃ uploadId, answer input = .ok (some uploadId)) →
      let run := presignUploadWithOptions crates sign now answer bucket (.ok key) fileSize
        expiresIn options
      ((∃ put, run.1 = .ok (.single put)) ↔ fileSize < 8 * 1024 * 1024) ∧
        ((∃ session, run.1 = .ok (.multipart session)) ↔
          8 * 1024 * 1024 ≤ fileSize ∧ fileSize ≤ maxMultipartObjectSize) ∧
        (∀ session, run.1 = .ok (.multipart session) →
          MultipartPlan.new fileSize (presignedPartSize fileSize) = .ok session.plan) ∧
        (maxMultipartObjectSize < fileSize → run = (.error (.validation
          (.multipartObjectTooLarge fileSize maxMultipartObjectSize)), [])) := by
  refine ⟨?_, ?_, ?_⟩
  · intro builder fileSize valid positive storable
    exact scaledPartSize_scales valid positive storable
  · intro fileSize positive storable
    rw [presignedPartSize_eq]
    exact scaledPartSize_scales (by decide) positive storable
  · intro crates sign now answer bucket key fileSize expiresIn options expiry accepted signs
      creates run
    have limits : 8 * 1024 * 1024 < maxMultipartObjectSize := by decide
    by_cases small : fileSize < 8 * 1024 * 1024
    · obtain ⟨put, single⟩ : ∃ put, run = (.ok (.single put), []) :=
        presignUpload_single expiry accepted small signs
      rw [single]
      exact ⟨iff_of_true ⟨put, rfl⟩ small, iff_of_false (by simp) (by omega), by simp, by omega⟩
    · by_cases storable : fileSize ≤ maxMultipartObjectSize
      · obtain ⟨session, input, multipart, planned⟩ :
            ∃ session input, run = (.ok (.multipart session), [.create input]) ∧
              MultipartPlan.new fileSize (presignedPartSize fileSize) = .ok session.plan :=
          presignUpload_multipart expiry accepted small storable creates
        rw [multipart]
        refine ⟨iff_of_false (by simp) small, iff_of_true ⟨session, rfl⟩ (by omega), ?_, by omega⟩
        rintro other ⟨⟩
        exact planned
      · have failed : run = (.error (.validation
            (.multipartObjectTooLarge fileSize maxMultipartObjectSize)), []) :=
          presignUpload_too_large expiry accepted (by omega)
        rw [failed]
        exact ⟨iff_of_false (by simp) small, iff_of_false (by simp) (by omega), by simp,
          fun _ => rfl⟩

/-- A signer for the small runs. -/
def Signer.plain : Signer := fun _ _ => some ⟨"PUT", "https://r2.example/media/clip", []⟩

/-- An object of 100 GiB comes to a session, whatever its part size. -/
theorem presignUpload_hundred_gibibytes :
    ∃ session, (presignUploadWithOptions Crates.minimal Signer.plain 0 (fun _ => .ok (some "u"))
      PresignedMultipart.tiny.bucket (.ok .clip) 107374182400 (Duration.fromSecs 3600) {}).1 =
        .ok (.multipart session) :=
  ((presignUpload_by_size.2.2 Crates.minimal Signer.plain 0 (fun _ => .ok (some "u"))
    PresignedMultipart.tiny.bucket .clip 107374182400 (Duration.fromSecs 3600) {} rfl
    ⟨rfl, rfl⟩ (fun _ => ⟨_, rfl⟩) (fun _ => ⟨_, rfl⟩)).2.1).mpr (by decide)

section Budget

variable {crates : Crates} {builder : UploadFileBuilder}

theorem UploadFileBuilder.validate_ok_iff :
    builder.validate crates = .ok () ↔
      builder.options.validate crates = .ok () ∧ validatePartSize builder.partSize = .ok () ∧
        ManagedMultipartBuilder.validateLimits builder.partSize builder.concurrency
          builder.maxAttempts builder.maxBufferedBytes = .ok () := by
  simp only [UploadFileBuilder.validate, bind_unit_eq_ok_iff]

/-- The raised part size stays in the budget when the size that the file needs does. -/
theorem effectivePartSize_budget (valid : builder.validate crates = .ok ()) {fileSize : Nat}
    (storable : fileSize ≤ maxMultipartObjectSize) :
    requiredBufferBytes (builder.effectivePartSize fileSize) builder.concurrency ≤
        builder.maxBufferedBytes ↔
      (fileSize ⌈/⌉ 10000) * builder.concurrency ≤ builder.maxBufferedBytes := by
  obtain ⟨-, sized, limits⟩ := UploadFileBuilder.validate_ok_iff.mp valid
  obtain ⟨⟨-, bounded⟩, -, budget⟩ := ManagedMultipartBuilder.validateLimits_ok_iff.mp limits
  have configured := (validatePartSize_ok_iff.mp sized).2
  have raised : builder.effectivePartSize fileSize ≤ maxMultipartPartSize :=
    (validatePartSize_ok_iff.mp (scaledPartSize_valid sized storable)).2
  have needed : divCeil fileSize maxParts = fileSize ⌈/⌉ 10000 :=
    divCeil_eq_ceilDiv (by decide)
  rw [requiredBufferBytes_eq configured bounded] at budget
  rw [requiredBufferBytes_eq raised bounded, UploadFileBuilder.effectivePartSize,
    ← Nat.mul_max_mul_right, needed, Nat.max_le]
  exact and_iff_right budget

/-- The builder that `send` goes on with is accepted exactly when the part size that the file
    needs fits the budget; nothing else about it was not checked before. -/
theorem dispatch_validate_iff (crates : Crates) (builder : UploadFileBuilder) (key : ObjectKey)
    (file : Metadata) (valid : builder.validate crates = .ok ())
    (supported : builder.options.checksum = none ∧ builder.options.ifMatch = none ∧
      builder.options.ifNoneMatch = none)
    (large : builder.threshold.bytes ≤ file.len) (storable : file.len ≤ maxMultipartObjectSize) :
    ∃ managed, dispatch crates builder key file = (.multipart key managed .ready, []) ∧
      (managed.validate crates = .ok () ↔
        (file.len ⌈/⌉ (10000 : Nat)) * builder.concurrency ≤ builder.maxBufferedBytes) := by
  have nonempty : file.len ≠ 0 := by
    have least := builder.threshold.valid.1
    simp only [UploadThreshold.minBytes] at least
    omega
  have selected : builder.strategy file.len =
      .multipart (builder.effectivePartSize file.len) := by
    rw [UploadFileBuilder.strategy, if_neg nonempty, if_neg (Nat.not_lt.mpr large)]
  refine ⟨_, by rw [dispatch, selected]; rfl, ?_⟩
  obtain ⟨options, sized, limits⟩ := UploadFileBuilder.validate_ok_iff.mp valid
  obtain ⟨bounded, attempts, -⟩ := ManagedMultipartBuilder.validateLimits_ok_iff.mp limits
  have raised := scaledPartSize_valid sized storable
  rw [ManagedMultipartBuilder.validate_ok_iff, ManagedMultipartBuilder.validateLimits_ok_iff,
    ← effectivePartSize_budget valid storable]
  constructor
  · rintro ⟨-, ⟨-, -, budget⟩, -⟩
    exact budget
  · intro budget
    exact ⟨raised, ⟨bounded, attempts, budget⟩, options, supported, by simp⟩

end Budget

/-- A regular file of this size. -/
def Metadata.ofSize (len : Nat) : Metadata where
  isFile := true
  len := len
  modified := none
  device := 0
  inode := 0

/-- A file of 640 GiB fits the default budget of 256 MiB with four parts in flight. -/
theorem dispatch_validate_default_budget :
    ∃ managed, dispatch Crates.minimal .clip .clip (.ofSize 671088640000) =
        (.multipart .clip managed .ready, []) ∧
      (managed.validate Crates.minimal = .ok () ↔
        (671088640000 ⌈/⌉ (10000 : Nat)) * defaultConcurrency ≤ defaultMaxBufferedBytes) :=
  dispatch_validate_iff Crates.minimal .clip .clip (.ofSize 671088640000) rfl
    ⟨rfl, rfl, rfl⟩ (by decide) (by decide)

/-- One byte more and the defaults, which pass the preflight, fail the same check later. -/
theorem dispatch_rejects_default_budget :
    UploadFileBuilder.clip.validate Crates.minimal = .ok () ∧
      UploadFileBuilder.clip.threshold.bytes ≤ 671088640001 ∧
      671088640001 ≤ maxMultipartObjectSize ∧
      ∃ managed, dispatch Crates.minimal .clip .clip (.ofSize 671088640001) =
          (.multipart .clip managed .ready, []) ∧
        managed.validate Crates.minimal =
          .error (.validation (.managedMemoryBudgetExceeded 268435460 268435456)) :=
  ⟨rfl, by decide, by decide, _, rfl, rfl⟩

end R2kit
