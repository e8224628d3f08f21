import R2kit.Multipart.Session
import R2kit.Object.UploadOptions

/-!
# Creating a multipart session

`PresignedMultipartBuilder::create` of `src/multipart.rs`: the local checks with the request
they lead to, and the session made from the answer.
-/

namespace R2kit

/-- `PresignedMultipartBuilder` as its setters leave it. -/
structure PresignedMultipartBuilder where
  bucket : BucketName
  key : ObjectKey
  fileSize : Option Nat := none
  partSize : Option Nat := none
  options : ObjectUploadOptions := {}

/-- `CreateMultipartUpload` as the SDK's builder holds it. -/
structure CreateMultipartUploadInput where
  bucket : String
  key : String
  headers : MetadataHeaders
  metadata : Option (List (String × String))
  deriving DecidableEq

/-- A setting that `create` insists on. -/
def required (field : String) (value : Option Nat) : Except Error Nat :=
  match value with
  | some value => .ok value
  | none => .error (.invalidInput field "is required")

namespace PresignedMultipartBuilder

/-- The options that a multipart session does not support. -/
def rejectUnsupported (options : ObjectUploadOptions) : Except Error Unit :=
  if options.checksum.isSome then
    .error (.invalidInput "checksum"
      "checksum verification is not supported on multipart upload sessions; verify individual parts using MD5 or SHA")
  else if options.ifMatch.isSome ∨ options.ifNoneMatch.isSome then
    .error (.invalidInput "if_match"
      "conditional match headers are not supported on multipart upload sessions")
  else .ok ()

/-- The request that opens the session. -/
def createInput (builder : PresignedMultipartBuilder) : CreateMultipartUploadInput where
  bucket := builder.bucket.value
  key := builder.key.value
  headers := builder.options.applyTo
  metadata := builder.options.customMetadataValues

/-- `create` up to the request. -/
def create (crates : Crates) (builder : PresignedMultipartBuilder) :
    Except Error (MultipartPlan × CreateMultipartUploadInput) := do
  builder.options.validate crates
  let fileSize ← required "file_size" builder.fileSize
  let partSize ← required "part_size" builder.partSize
  let plan ← MultipartPlan.new fileSize partSize
  builder.options.validate crates
  rejectUnsupported builder.options
  .ok (plan, builder.createInput)

/-- `create` from the answer on. -/
def created (builder : PresignedMultipartBuilder) (plan : MultipartPlan)
    (answer : Except SdkError (Option String)) : Except Error PresignedMultipart :=
  match answer with
  | .error error => .error (.remoteError "CreateMultipartUpload" error)
  | .ok none => .error (.service "CreateMultipartUpload")
  | .ok (some uploadId) =>
      .ok { bucket := builder.bucket, key := builder.key.value, uploadId, plan }

theorem rejectUnsupported_ok_iff {options : ObjectUploadOptions} :
    rejectUnsupported options = .ok () ↔
      options.checksum = none ∧ options.ifMatch = none ∧ options.ifNoneMatch = none := by
  unfold rejectUnsupported
  cases options.checksum <;> cases options.ifMatch <;> cases options.ifNoneMatch <;> simp

theorem required_eq_ok_iff {field : String} {value : Option Nat} {given : Nat} :
    required field value = .ok given ↔ value = some given := by
  cases value <;> simp [required]

theorem create_eq_ok_iff {crates : Crates} {builder : PresignedMultipartBuilder}
    {plan : MultipartPlan} {input : CreateMultipartUploadInput} :
    builder.create crates = .ok (plan, input) ↔
      builder.options.validate crates = .ok () ∧
        (∃ fileSize partSize, builder.fileSize = some fileSize ∧
          builder.partSize = some partSize ∧ MultipartPlan.new fileSize partSize = .ok plan) ∧
        (builder.options.checksum = none ∧ builder.options.ifMatch = none ∧
          builder.options.ifNoneMatch = none) ∧
        input = builder.createInput := by
  simp only [create, bind_eq_ok_iff, required_eq_ok_iff]
  constructor
  · rintro ⟨⟨⟩, valid, fileSize, hfile, partSize, hpart, planned, hplan, ⟨⟩, -, ⟨⟩, supported,
      accepted⟩
    cases accepted
    exact ⟨valid, ⟨fileSize, partSize, hfile, hpart, hplan⟩,
      rejectUnsupported_ok_iff.mp supported, rfl⟩
  · rintro ⟨valid, ⟨fileSize, partSize, hfile, hpart, hplan⟩, supported, rfl⟩
    exact ⟨(), valid, fileSize, hfile, partSize, hpart, plan, hplan, (), valid, (),
      rejectUnsupported_ok_iff.mpr supported, rfl⟩

/-- A session is made from the upload ID in the answer, and from nothing else. -/
theorem created_eq_ok_iff {builder : PresignedMultipartBuilder} {plan : MultipartPlan}
    {answer : Except SdkError (Option String)} {session : PresignedMultipart} :
    builder.created plan answer = .ok session ↔
      ∃ uploadId, answer = .ok (some uploadId) ∧
        session = { bucket := builder.bucket, key := builder.key.value, uploadId, plan } := by
  unfold created
  split
  · simp
  · simp
  · simp [eq_comm]

end PresignedMultipartBuilder

/-- `Bucket::presigned_multipart`. -/
def BucketName.presignedMultipart (bucket : BucketName) (key : Except Error ObjectKey) :
    Except Error PresignedMultipartBuilder := do
  let key ← key
  .ok { bucket, key }

/-- A point-in-time progress update of a managed multipart upload. -/
structure ManagedUploadProgress where
  completedParts : Nat
  totalParts : Nat
  transferredBytes : Nat
  totalBytes : Nat
  deriving DecidableEq

/-- What a multipart operation does to the outside: a request, or a progress callback. -/
inductive Effect where
  | create (input : CreateMultipartUploadInput)
  | send (request : Request)
  | report (progress : ManagedUploadProgress)
  deriving DecidableEq

/-- What answers `CreateMultipartUpload`. -/
abbrev CreateAnswer := CreateMultipartUploadInput → Except SdkError (Option String)

/-- All of `create`, with what it sends. -/
def PresignedMultipartBuilder.createWith (crates : Crates) (answer : CreateAnswer)
    (builder : PresignedMultipartBuilder) : Except Error PresignedMultipart × List Effect :=
  match builder.create crates with
  | .error error => (.error error, [])
  | .ok (plan, input) => (builder.created plan (answer input), [.create input])

end R2kit
