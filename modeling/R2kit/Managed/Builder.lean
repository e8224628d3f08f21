import R2kit.Multipart.Create

/-!
# The managed multipart builder

`ManagedMultipartBuilder` of `src/managed.rs`: its limits, `validate`, and what `upload_file` and
`upload_stream` do before they have a session. Callbacks and cancellation tokens are kept as
whether there is one. A builder carries where it was obtained from.
-/

namespace R2kit

/-- `DEFAULT_PART_SIZE`. -/
def defaultPartSize : Nat := 8 * 1024 * 1024

/-- `DEFAULT_CONCURRENCY`. -/
def defaultConcurrency : Nat := 4

/-- `DEFAULT_MAX_ATTEMPTS`. -/
def defaultMaxAttempts : Nat := 3

/-- `DEFAULT_MAX_BUFFERED_BYTES`. -/
def defaultMaxBufferedBytes : Nat := 256 * 1024 * 1024

/-- `MAX_CONCURRENCY`. -/
def maxConcurrency : Nat := 64

/-- `MAX_ATTEMPTS`. -/
def maxAttemptsLimit : Nat := 10

/-- What the crate reads of a file's metadata, on Unix. -/
structure Metadata where
  isFile : Bool
  len : Nat
  modified : Option SystemTime
  device : Nat
  inode : Nat
  deriving DecidableEq

/-- What a source file is recognised by. -/
structure SourceFileFingerprint where
  len : Nat
  modified : Option SystemTime
  device : Nat
  inode : Nat
  deriving DecidableEq

namespace SourceFileFingerprint

/-- `from_metadata`. -/
def fromMetadata (metadata : Metadata) : SourceFileFingerprint where
  len := metadata.len
  modified := metadata.modified
  device := metadata.device
  inode := metadata.inode

/-- `SourceFileFingerprint::matches`. -/
def matchesMetadata (fingerprint : SourceFileFingerprint) (metadata : Metadata) : Bool :=
  fingerprint == fromMetadata metadata

end SourceFileFingerprint

/-- `u64::saturating_mul` of the part size with the concurrency. -/
def requiredBufferBytes (partSize concurrency : Nat) : Nat :=
  min (partSize * concurrency) u64Max

/-- With parts of a permitted size the product does not saturate. -/
theorem requiredBufferBytes_eq {partSize concurrency : Nat}
    (sized : partSize ≤ maxMultipartPartSize) (bounded : concurrency ≤ maxConcurrency) :
    requiredBufferBytes partSize concurrency = partSize * concurrency := by
  apply Nat.min_eq_left
  calc partSize * concurrency
      ≤ maxMultipartPartSize * maxConcurrency := Nat.mul_le_mul sized bounded
    _ ≤ u64Max := by decide

/-- Where a builder comes from: `managed_multipart` with a valid key, or
    `resume_managed_multipart` with a snapshot that could be resumed. -/
def ManagedOrigin (bucket : BucketName) (key : String) :
    Option MultipartSessionSnapshot → Prop
  | none => ∃ valid : ObjectKey, valid.value = key
  | some snapshot => key = snapshot.key ∧
      ∃ session, bucket.resumePresignedMultipart snapshot = .ok session

/-- `ManagedMultipartBuilder` with its defaults. -/
structure ManagedMultipartBuilder where
  bucket : BucketName
  key : String
  partSize : Nat := defaultPartSize
  concurrency : Nat := defaultConcurrency
  maxAttempts : Nat := defaultMaxAttempts
  maxBufferedBytes : Nat := defaultMaxBufferedBytes
  abortOnError : Bool := true
  resume : Option MultipartSessionSnapshot := none
  progress : Bool := false
  cancellation : Bool := false
  options : ObjectUploadOptions := {}
  origin : ManagedOrigin bucket key resume

/-- `Bucket::managed_multipart`. -/
def BucketName.managedMultipart (bucket : BucketName) (key : Except Error ObjectKey) :
    Except Error ManagedMultipartBuilder := do
  let key ← key
  .ok { bucket, key := key.value, resume := none, origin := ⟨key, rfl⟩ }

/-- `Bucket::resume_managed_multipart`. -/
def BucketName.resumeManagedMultipart (bucket : BucketName)
    (snapshot : MultipartSessionSnapshot) : Except Error ManagedMultipartBuilder :=
  match h : bucket.resumePresignedMultipart snapshot with
  | .error error => .error error
  | .ok session =>
      .ok {
        bucket, key := snapshot.key
        partSize := snapshot.partSize
        resume := some snapshot
        origin := ⟨rfl, session, h⟩ }

/-- The two ways to a builder give every bucket, key and snapshot that a builder can have. -/
theorem ManagedOrigin.made {bucket : BucketName} {key : String}
    {resume : Option MultipartSessionSnapshot} (origin : ManagedOrigin bucket key resume) :
    ∃ managed : ManagedMultipartBuilder,
      ((∃ valid, bucket.managedMultipart (.ok valid) = .ok managed) ∨
        ∃ snapshot, bucket.resumeManagedMultipart snapshot = .ok managed) ∧
      managed.bucket = bucket ∧ managed.key = key ∧ managed.resume = resume := by
  cases resume with
  | none =>
      obtain ⟨valid, rfl⟩ := origin
      exact ⟨_, Or.inl ⟨valid, rfl⟩, rfl, rfl, rfl⟩
  | some snapshot =>
      obtain ⟨rfl, session, resumed⟩ := origin
      have made : ∃ managed, bucket.resumeManagedMultipart snapshot = .ok managed ∧
          managed.bucket = bucket ∧ managed.key = snapshot.key ∧ managed.resume = snapshot := by
        unfold BucketName.resumeManagedMultipart
        split
        · rename_i failed
          rw [resumed] at failed
          cases failed
        · exact ⟨_, rfl, rfl, rfl, rfl⟩
      obtain ⟨managed, accepted, same⟩ := made
      exact ⟨managed, Or.inr ⟨snapshot, accepted⟩, same⟩

/-- What `managed_multipart("clip")` gives, with all its defaults. -/
def ManagedMultipartBuilder.clip : ManagedMultipartBuilder where
  bucket := PresignedMultipart.tiny.bucket
  key := "clip"
  resume := none
  origin := ⟨.clip, rfl⟩

/-- The builder whose session is `PresignedMultipart.tiny`, for a file of three bytes. -/
def ManagedMultipartBuilder.tiny : ManagedMultipartBuilder :=
  { ManagedMultipartBuilder.clip with partSize := minMultipartPartSize }

namespace ManagedMultipartBuilder

/-- The limits on concurrency, attempts and memory. -/
def validateLimits (partSize concurrency maxAttempts maxBufferedBytes : Nat) :
    Except Error Unit :=
  if concurrency = 0 ∨ maxConcurrency < concurrency then
    .error (.validation (.concurrencyOutOfRange concurrency 1 maxConcurrency))
  else if maxAttempts = 0 ∨ maxAttemptsLimit < maxAttempts then
    .error (.validation (.attemptsOutOfRange maxAttempts 1 maxAttemptsLimit))
  else if maxBufferedBytes < requiredBufferBytes partSize concurrency then
    .error (.validation (.managedMemoryBudgetExceeded
      (requiredBufferBytes partSize concurrency) maxBufferedBytes))
  else .ok ()

/-- The options that a managed upload does not support. -/
def rejectUnsupported (options : ObjectUploadOptions) : Except Error Unit :=
  if options.checksum.isSome then
    .error (.invalidInput "checksum"
      "checksum verification is not supported on managed multipart uploads")
  else if options.ifMatch.isSome ∨ options.ifNoneMatch.isSome then
    .error (.invalidInput "if_match"
      "conditional match headers are not supported on managed multipart uploads")
  else .ok ()

/-- What is checked before a call looks at its file or sends anything. -/
def validate (crates : Crates) (builder : ManagedMultipartBuilder) : Except Error Unit := do
  validatePartSize builder.partSize
  validateLimits builder.partSize builder.concurrency builder.maxAttempts
    builder.maxBufferedBytes
  builder.options.validate crates
  rejectUnsupported builder.options
  if builder.resume.isSome ∧ ¬ builder.options.isEmpty then
    .error (.invalidInput "upload_options"
      "cannot change metadata while resuming a multipart session")
  else .ok ()

/-- The session builder that a new managed upload goes through. -/
def sessionBuilder (builder : ManagedMultipartBuilder) (fileSize : Nat) :
    Except Error PresignedMultipartBuilder := do
  let key ← ObjectKey.new builder.key
  .ok {
    bucket := builder.bucket, key
    fileSize := some fileSize
    partSize := some builder.partSize
    options := builder.options }

/-- What an upload has come to before it has a session: an error, a request for a new
    session, or a resumed one. -/
inductive Begin where
  | failed (error : Error)
  | creating (request : PresignedMultipartBuilder) (plan : MultipartPlan)
      (input : CreateMultipartUploadInput)
  | resumed (session : PresignedMultipart)

/-- The way of a new session. -/
def beginNew (crates : Crates) (builder : ManagedMultipartBuilder) (fileSize : Nat) : Begin :=
  match builder.sessionBuilder fileSize with
  | .error error => .failed error
  | .ok request =>
      match request.create crates with
      | .error error => .failed error
      | .ok (plan, input) => .creating request plan input

/-- The way of a saved session. -/
def beginResumed (builder : ManagedMultipartBuilder) (snapshot : MultipartSessionSnapshot)
    (fileSize : Nat) : Begin :=
  if snapshot.fileSize ≠ fileSize ∨ snapshot.partSize ≠ builder.partSize then
    .failed (.invalidInput "path" "file size or part size differs from the saved session")
  else
    match builder.bucket.resumePresignedMultipart snapshot with
    | .error error => .failed error
    | .ok session => .resumed session

/-- `upload_file` before it has a session. The metadata is `none` when it cannot be read;
    `cancelled` is what the token says, if there is one. -/
def beginFile (crates : Crates) (builder : ManagedMultipartBuilder)
    (metadata : Option Metadata) (cancelled : Bool) : Begin :=
  match builder.validate crates with
  | .error error => .failed error
  | .ok () =>
      match metadata with
      | none => .failed (.io "metadata")
      | some metadata =>
          if ¬ metadata.isFile then
            .failed (.invalidInput "path" "must identify a regular file")
          else if builder.cancellation ∧ cancelled then .failed .cancelled
          else
            match builder.resume with
            | some snapshot => builder.beginResumed snapshot metadata.len
            | none => builder.beginNew crates metadata.len

/-- `upload_stream` before it has a session. -/
def beginStream (crates : Crates) (builder : ManagedMultipartBuilder) (fileSize : Nat)
    (cancelled : Bool) : Begin :=
  match builder.validate crates with
  | .error error => .failed error
  | .ok () =>
      if builder.cancellation ∧ cancelled then .failed .cancelled
      else if builder.resume.isSome then
        .failed (.invalidInput "resume"
          "streaming uploads cannot resume an existing multipart session; use upload_file for resumable transfers")
      else builder.beginNew crates fileSize

variable {crates : Crates} {builder : ManagedMultipartBuilder}

theorem rejectUnsupported_ok_iff {options : ObjectUploadOptions} :
    rejectUnsupported options = .ok () ↔
      options.checksum = none ∧ options.ifMatch = none ∧ options.ifNoneMatch = none := by
  unfold rejectUnsupported
  cases options.checksum <;> cases options.ifMatch <;> cases options.ifNoneMatch <;> simp

theorem validateLimits_ok_iff {partSize concurrency maxAttempts maxBufferedBytes : Nat} :
    validateLimits partSize concurrency maxAttempts maxBufferedBytes = .ok () ↔
      (1 ≤ concurrency ∧ concurrency ≤ maxConcurrency) ∧
        (1 ≤ maxAttempts ∧ maxAttempts ≤ maxAttemptsLimit) ∧
        requiredBufferBytes partSize concurrency ≤ maxBufferedBytes := by
  unfold validateLimits
  split
  · simp only [reduceCtorEq, false_iff]
    omega
  · split
    · simp only [reduceCtorEq, false_iff]
      omega
    · split
      · simp only [reduceCtorEq, false_iff]
        omega
      · simp only [true_iff]
        omega

theorem validate_ok_iff :
    builder.validate crates = .ok () ↔
      validatePartSize builder.partSize = .ok () ∧
        validateLimits builder.partSize builder.concurrency builder.maxAttempts
          builder.maxBufferedBytes = .ok () ∧
        builder.options.validate crates = .ok () ∧
        (builder.options.checksum = none ∧ builder.options.ifMatch = none ∧
          builder.options.ifNoneMatch = none) ∧
        (builder.resume.isSome → builder.options.isEmpty) := by
  have changes : (if builder.resume.isSome ∧ ¬ builder.options.isEmpty then
      Except.error (.invalidInput "upload_options"
        "cannot change metadata while resuming a multipart session")
      else Except.ok () : Except Error Unit) = .ok () ↔
      (builder.resume.isSome → builder.options.isEmpty) := by
    split
    · rename_i changed
      simp only [reduceCtorEq, false_iff]
      exact fun kept => changed.2 (kept changed.1)
    · rename_i kept
      simp only [true_iff]
      intro resumed
      by_contra changed
      exact kept ⟨resumed, changed⟩
  simp only [validate, bind_eq_ok_iff, changes]
  constructor
  · rintro ⟨⟨⟩, size, ⟨⟩, limits, ⟨⟩, valid, ⟨⟩, supported, kept⟩
    exact ⟨size, limits, valid, rejectUnsupported_ok_iff.mp supported, kept⟩
  · rintro ⟨size, limits, valid, supported, kept⟩
    exact ⟨(), size, (), limits, (), valid, (), rejectUnsupported_ok_iff.mpr supported, kept⟩

/-- A builder for a new upload has a valid key. -/
theorem sessionBuilder_of_new (fresh : builder.resume = none) (fileSize : Nat) :
    ∃ key, builder.sessionBuilder fileSize = .ok {
      bucket := builder.bucket, key
      fileSize := some fileSize
      partSize := some builder.partSize
      options := builder.options } := by
  have origin := builder.origin
  rw [fresh] at origin
  obtain ⟨valid, same⟩ := origin
  refine ⟨valid, ?_⟩
  have accepted : ObjectKey.new builder.key = .ok valid := by
    rw [ObjectKey.new, dif_pos (same ▸ valid.valid)]
    cases valid
    cases same
    rfl
  rw [sessionBuilder, bind_eq_ok_iff]
  exact ⟨valid, accepted, rfl⟩

theorem beginNew_eq_creating_iff {fileSize : Nat} {request : PresignedMultipartBuilder}
    {plan : MultipartPlan} {input : CreateMultipartUploadInput} :
    builder.beginNew crates fileSize = .creating request plan input ↔
      builder.sessionBuilder fileSize = .ok request ∧
        request.create crates = .ok (plan, input) := by
  unfold beginNew
  cases built : builder.sessionBuilder fileSize with
  | error error => simp
  | ok found =>
      cases made : found.create crates with
      | error error =>
          simp only [made, reduceCtorEq, Except.ok.injEq, false_iff, not_and]
          rintro rfl
          simp [made]
      | ok result =>
          obtain ⟨planned, sent⟩ := result
          simp only [made, Begin.creating.injEq, Except.ok.injEq]
          constructor
          · rintro ⟨rfl, rfl, rfl⟩
            exact ⟨rfl, made⟩
          · rintro ⟨rfl, accepted⟩
            rw [made] at accepted
            cases accepted
            exact ⟨rfl, rfl, rfl⟩

/-- The session that is asked for is the builder's own. -/
theorem request_of_beginNew {fileSize : Nat} {request : PresignedMultipartBuilder}
    {plan : MultipartPlan} {input : CreateMultipartUploadInput}
    (begun : builder.beginNew crates fileSize = .creating request plan input) :
    request.bucket = builder.bucket ∧ request.key.value = builder.key ∧
      plan.fileSize = fileSize ∧ plan.partSize = builder.partSize := by
  obtain ⟨built, made⟩ := beginNew_eq_creating_iff.mp begun
  rw [sessionBuilder, bind_eq_ok_iff] at built
  obtain ⟨key, valid, same⟩ := built
  cases same
  obtain ⟨-, ⟨size, part, is_size, is_part, planned⟩, -, -⟩ :=
    PresignedMultipartBuilder.create_eq_ok_iff.mp made
  cases is_size
  cases is_part
  obtain ⟨size_eq, part_eq⟩ := MultipartPlan.new_eq_ok_iff.mp planned
  refine ⟨rfl, ?_, size_eq, part_eq⟩
  rw [ObjectKey.new] at valid
  split at valid
  · cases valid
    rfl
  · cases valid

theorem options_of_beginNew {fileSize : Nat} {request : PresignedMultipartBuilder}
    {plan : MultipartPlan} {input : CreateMultipartUploadInput}
    (begun : builder.beginNew crates fileSize = .creating request plan input) :
    request.options = builder.options := by
  obtain ⟨built, -⟩ := beginNew_eq_creating_iff.mp begun
  rw [sessionBuilder, bind_eq_ok_iff] at built
  obtain ⟨key, -, same⟩ := built
  cases same
  rfl

theorem beginNew_ne_resumed {fileSize : Nat} {session : PresignedMultipart} :
    builder.beginNew crates fileSize ≠ .resumed session := by
  unfold beginNew
  split
  · simp
  · split <;> simp

theorem beginResumed_eq_resumed_iff {snapshot : MultipartSessionSnapshot} {fileSize : Nat}
    {session : PresignedMultipart} :
    builder.beginResumed snapshot fileSize = .resumed session ↔
      snapshot.fileSize = fileSize ∧ snapshot.partSize = builder.partSize ∧
        builder.bucket.resumePresignedMultipart snapshot = .ok session := by
  unfold beginResumed
  split
  · rename_i differs
    simp only [reduceCtorEq, false_iff]
    rintro ⟨file, part, -⟩
    exact differs.elim (fun h => h file) (fun h => h part)
  · rename_i agrees
    simp only [ne_eq, not_or, not_not] at agrees
    cases builder.bucket.resumePresignedMultipart snapshot with
    | error error => simp
    | ok found => simp [agrees.1, agrees.2]

theorem beginResumed_ne_creating {snapshot : MultipartSessionSnapshot} {fileSize : Nat}
    {request : PresignedMultipartBuilder} {plan : MultipartPlan}
    {input : CreateMultipartUploadInput} :
    builder.beginResumed snapshot fileSize ≠ .creating request plan input := by
  unfold beginResumed
  split
  · simp
  · split <;> simp

/-- When `upload_file` comes as far as looking at its snapshot. -/
def ReachesSnapshot (crates : Crates) (builder : ManagedMultipartBuilder)
    (metadata : Option Metadata) (cancelled : Bool) (file : Metadata) : Prop :=
  builder.validate crates = .ok () ∧ metadata = some file ∧ file.isFile = true ∧
    ¬ (builder.cancellation = true ∧ cancelled = true)

theorem beginFile_of_reaches {metadata : Option Metadata} {cancelled : Bool} {file : Metadata}
    (reached : ReachesSnapshot crates builder metadata cancelled file) :
    builder.beginFile crates metadata cancelled =
      match builder.resume with
      | some snapshot => builder.beginResumed snapshot file.len
      | none => builder.beginNew crates file.len := by
  obtain ⟨valid, rfl, regular, active⟩ := reached
  simp only [beginFile, valid]
  rw [if_neg (by simp [regular]), if_neg active]

/-- Without that, `upload_file` has failed. -/
theorem reaches_of_beginFile {metadata : Option Metadata} {cancelled : Bool}
    (passed : ∀ error, builder.beginFile crates metadata cancelled ≠ .failed error) :
    ∃ file, ReachesSnapshot crates builder metadata cancelled file := by
  unfold beginFile at passed
  split at passed
  · exact absurd rfl (passed _)
  · rename_i valid
    split at passed
    · exact absurd rfl (passed _)
    · rename_i file
      split at passed
      · exact absurd rfl (passed _)
      · rename_i regular
        split at passed
        · exact absurd rfl (passed _)
        · rename_i active
          exact ⟨file, valid, rfl, by simpa using regular, active⟩

theorem beginStream_of_new {fileSize : Nat} {cancelled : Bool}
    (valid : builder.validate crates = .ok ())
    (active : ¬ (builder.cancellation = true ∧ cancelled = true))
    (fresh : builder.resume = none) :
    builder.beginStream crates fileSize cancelled = builder.beginNew crates fileSize := by
  simp only [beginStream, valid]
  rw [if_neg active, if_neg (by simp [fresh])]

theorem new_of_beginStream {fileSize : Nat} {cancelled : Bool}
    (passed : ∀ error, builder.beginStream crates fileSize cancelled ≠ .failed error) :
    builder.validate crates = .ok () ∧
      ¬ (builder.cancellation = true ∧ cancelled = true) ∧ builder.resume = none := by
  unfold beginStream at passed
  split at passed
  · exact absurd rfl (passed _)
  · rename_i valid
    split at passed
    · exact absurd rfl (passed _)
    · rename_i active
      split at passed
      · exact absurd rfl (passed _)
      · rename_i fresh
        exact ⟨valid, active, by simpa using fresh⟩

end ManagedMultipartBuilder

end R2kit
