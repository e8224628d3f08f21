import R2kit.Multipart.Create
import R2kit.Multipart.Tiling
import R2kit.Object.Requests

/-!
# Presigned upload plans

`Bucket::presign_upload_with_options` of `src/object.rs`: a presigned PUT for objects below the
default threshold, a multipart session for the others. A PUT is signed locally; the session is
created by the only request there is.
-/

namespace R2kit

/-- What the SDK's signer returns. -/
structure SignedRequest where
  method : String
  uri : String
  headers : List (String × String)

/-- An HTTP request signed for temporary direct access to R2. -/
structure PresignedRequest where
  method : String
  url : String
  requiredHeaders : List (String × String)
  expiresAt : SystemTime

/-- What the SDK has signed, with the time until which it is valid. -/
def PresignedRequest.fromSdk (now : SystemTime) (signed : SignedRequest)
    (expiresIn : Duration) : PresignedRequest where
  method := signed.method
  url := signed.uri
  requiredHeaders := signed.headers
  expiresAt := now + expiresIn

/-- A presigned PUT and the length that it is for. -/
structure PresignedPutObject where
  contentLength : Nat
  request : PresignedRequest

/-- A presigned upload coordination plan. -/
inductive PresignedUploadPlan where
  | single (put : PresignedPutObject)
  | multipart (session : PresignedMultipart)

/-- The SDK's signer. -/
abbrev Signer := PutObjectInput → Duration → Option SignedRequest

section Presign

variable (crates : Crates) (sign : Signer) (now : SystemTime) (answer : CreateAnswer)
  (bucket : BucketName) (key : Except Error ObjectKey) (size : Nat) (expiresIn : Duration)
  (options : ObjectUploadOptions)

/-- `presign_put_with_options` with its signature. -/
def presignPut : Except Error PresignedPutObject := do
  let input ← presignPutWithOptions crates bucket key size expiresIn options
  match sign input expiresIn with
  | none => .error .presign
  | some signed => .ok ⟨size, PresignedRequest.fromSdk now signed expiresIn⟩

/-- The part size of the multipart branch. -/
def presignedPartSize (fileSize : Nat) : Nat :=
  max (divCeil fileSize maxParts) UploadThreshold.defaultBytes

/-- The settings of the multipart branch. -/
def PresignedMultipartBuilder.forUpload (builder : PresignedMultipartBuilder) :
    PresignedMultipartBuilder :=
  { builder with
    fileSize := some size
    partSize := some (presignedPartSize size)
    options }

/-- `presign_upload_with_options`, with what it sends. -/
def presignUploadWithOptions : Except Error PresignedUploadPlan × List Effect :=
  match validateExpiry expiresIn with
  | .error error => (.error error, [])
  | .ok () =>
      match key with
      | .error error => (.error error, [])
      | .ok key =>
          if size < UploadThreshold.default.bytes then
            ((presignPut crates sign now bucket (.ok key) size expiresIn options).map .single, [])
          else
            match bucket.presignedMultipart (.ok key) with
            | .error error => (.error error, [])
            | .ok builder =>
                let created := (builder.forUpload size options).createWith crates answer
                (created.1.map .multipart, created.2)

/-- The options that the branch for this size takes. -/
def AcceptsOptions : Prop :=
  options.validate crates = .ok () ∧
    if size < UploadThreshold.default.bytes then rejectStreamChecksum options = .ok ()
    else PresignedMultipartBuilder.rejectUnsupported options = .ok ()

end Presign

section Branches

variable {crates : Crates} {sign : Signer} {now : SystemTime} {answer : CreateAnswer}
  {bucket : BucketName} {key : ObjectKey} {size : Nat} {expiresIn : Duration}
  {options : ObjectUploadOptions}

theorem presignUpload_single (expiry : validateExpiry expiresIn = .ok ())
    (accepted : AcceptsOptions crates size options) (small : size < UploadThreshold.defaultBytes)
    (signs : ∀ input, ∃ signed, sign input expiresIn = some signed) :
    ∃ put, presignUploadWithOptions crates sign now answer bucket (.ok key) size expiresIn
      options = (.ok (.single put), []) := by
  have below : size < UploadThreshold.default.bytes := small
  rw [AcceptsOptions, if_pos below] at accepted
  have sent : ∃ input, presignPutWithOptions crates bucket (.ok key) size expiresIn options =
      .ok input := by
    refine ⟨_, presignPutWithOptions_eq_ok_iff.mpr ⟨expiry, putStreamWithOptions_eq_ok_iff.mpr
      ⟨key, rfl, accepted.1, rejectStreamChecksum_ok_iff.mp accepted.2, ?_, rfl⟩⟩⟩
    exact Nat.le_trans (Nat.le_of_lt small) (by decide)
  obtain ⟨input, sent⟩ := sent
  obtain ⟨signed, signature⟩ := signs input
  refine ⟨⟨size, PresignedRequest.fromSdk now signed expiresIn⟩, ?_⟩
  simp only [presignUploadWithOptions, expiry, if_pos below, presignPut, sent, signature, bind,
    Except.bind, Except.map]

/-- The multipart branch is what `create` makes of its settings. -/
theorem presignUpload_large (expiry : validateExpiry expiresIn = .ok ())
    (large : ¬ size < UploadThreshold.defaultBytes) :
    presignUploadWithOptions crates sign now answer bucket (.ok key) size expiresIn options =
      let builder : PresignedMultipartBuilder := { bucket, key }
      let created := (builder.forUpload size options).createWith crates answer
      (created.1.map .multipart, created.2) := by
  have above : ¬ size < UploadThreshold.default.bytes := large
  simp only [presignUploadWithOptions, expiry, if_neg above, BucketName.presignedMultipart, bind,
    Except.bind]

theorem presignedPartSize_eq (size : Nat) :
    presignedPartSize size = scaledPartSize UploadThreshold.defaultBytes size :=
  Nat.max_comm _ _

theorem presignUpload_multipart (expiry : validateExpiry expiresIn = .ok ())
    (accepted : AcceptsOptions crates size options)
    (large : ¬ size < UploadThreshold.defaultBytes) (storable : size ≤ maxMultipartObjectSize)
    (creates : ∀ input, ∃ uploadId, answer input = .ok (some uploadId)) :
    ∃ session input, presignUploadWithOptions crates sign now answer bucket (.ok key) size
        expiresIn options = (.ok (.multipart session), [.create input]) ∧
      MultipartPlan.new size (presignedPartSize size) = .ok session.plan := by
  have positive : size ≠ 0 := by
    simp only [UploadThreshold.defaultBytes] at large
    omega
  have least : validatePartSize UploadThreshold.defaultBytes = .ok () := by decide
  obtain ⟨plan, planned⟩ := new_scaledPartSize least positive storable
  rw [← presignedPartSize_eq] at planned
  have above : ¬ size < UploadThreshold.default.bytes := large
  rw [AcceptsOptions, if_neg above] at accepted
  let builder := PresignedMultipartBuilder.forUpload size options { bucket, key }
  have built : builder.create crates = .ok (plan, builder.createInput) :=
    PresignedMultipartBuilder.create_eq_ok_iff.mpr ⟨accepted.1,
      ⟨size, presignedPartSize size, rfl, rfl, planned⟩,
      PresignedMultipartBuilder.rejectUnsupported_ok_iff.mp accepted.2, rfl⟩
  obtain ⟨uploadId, answered⟩ := creates builder.createInput
  refine ⟨{ bucket, key := key.value, uploadId, plan }, builder.createInput, ?_, planned⟩
  rw [presignUpload_large expiry large]
  show ((builder.createWith crates answer).1.map PresignedUploadPlan.multipart,
    (builder.createWith crates answer).2) = _
  simp only [PresignedMultipartBuilder.createWith, built, answered]
  rfl

/-- A file that no plan can hold is rejected before anything is sent. -/
theorem presignUpload_too_large (expiry : validateExpiry expiresIn = .ok ())
    (accepted : AcceptsOptions crates size options) (oversized : maxMultipartObjectSize < size) :
    presignUploadWithOptions crates sign now answer bucket (.ok key) size expiresIn options =
      (.error (.validation (.multipartObjectTooLarge size maxMultipartObjectSize)), []) := by
  have large : ¬ size < UploadThreshold.defaultBytes := by
    simp only [UploadThreshold.defaultBytes]
    simp only [maxMultipartObjectSize] at oversized
    omega
  have rejected : MultipartPlan.new size (presignedPartSize size) =
      .error (.validation (.multipartObjectTooLarge size maxMultipartObjectSize)) := by
    rw [MultipartPlan.new, dif_neg (by omega), dif_pos oversized]
  let builder := PresignedMultipartBuilder.forUpload size options { bucket, key }
  have refused : builder.create crates =
      .error (.validation (.multipartObjectTooLarge size maxMultipartObjectSize)) := by
    show (do
      options.validate crates
      let plan ← MultipartPlan.new size (presignedPartSize size)
      _) = _
    simp only [accepted.1, rejected, bind, Except.bind]
  rw [presignUpload_large expiry large]
  show ((builder.createWith crates answer).1.map PresignedUploadPlan.multipart,
    (builder.createWith crates answer).2) = _
  simp only [PresignedMultipartBuilder.createWith, refused]
  rfl

end Branches

end R2kit
