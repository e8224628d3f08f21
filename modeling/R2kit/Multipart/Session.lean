import R2kit.Multipart.Manifest

/-!
# Multipart sessions and their requests

`PresignedMultipart` and `MultipartSessionSnapshot` of `src/multipart.rs`, with the requests a
session sends. Every request of a session carries the session's own bucket, key and upload
ID.
-/

namespace R2kit

/-- What an upload is addressed by in every request about it. -/
structure Address where
  bucket : String
  key : String
  uploadId : String
  deriving DecidableEq

/-- One entry of the part list of `CompleteMultipartUpload`. -/
structure CompletedPart where
  partNumber : Nat
  eTag : String
  deriving DecidableEq

/-- What a request about a session asks for. -/
inductive Operation where
  | listParts (maxParts : Nat) (marker : Option String)
  | uploadPart (partNumber contentLength : Nat) (body : List UInt8)
  | completeMultipartUpload (parts : List CompletedPart)
  | abortMultipartUpload
  deriving DecidableEq

/-- An operation on a session. -/
structure Request where
  address : Address
  operation : Operation
  deriving DecidableEq

/-- One part in a page of `ListParts`. -/
structure RemotePart where
  partNumber : Option Int
  size : Option Int
  eTag : Option String
  deriving DecidableEq

/-- One page of `ListParts`. -/
structure ListPartsOutput where
  parts : List RemotePart
  isTruncated : Option Bool
  nextPartNumberMarker : Option String
  deriving DecidableEq

/-- What a request that succeeded is answered with. -/
inductive Response where
  | createMultipartUpload (uploadId : Option String)
  | listParts (output : ListPartsOutput)
  | uploadPart (eTag : Option String)
  | completeMultipartUpload (eTag : Option String)
  | abortMultipartUpload
  deriving DecidableEq

/-- Metadata of a completed multipart object. -/
structure CompletedObject where
  etag : Option String
  deriving DecidableEq

/-- What is kept of a session to resume it later. -/
structure MultipartSessionSnapshot where
  bucket : String
  key : String
  uploadId : String
  fileSize : Nat
  partSize : Nat
  deriving DecidableEq

/-- The versioned record that persists a snapshot. -/
structure MultipartSessionRecord where
  version : Nat
  bucket : String
  key : String
  uploadId : String
  fileSize : Nat
  partSize : Nat
  deriving DecidableEq

namespace MultipartSessionSnapshot

/-- `restore`: bucket, key, plan and upload id are checked, in this order. -/
def restore (bucket key uploadId : String) (fileSize partSize : Nat) :
    Except Error MultipartSessionSnapshot := do
  let bucket ← BucketName.new bucket
  let key ← ObjectKey.new key
  let _ ← MultipartPlan.new fileSize partSize
  if uploadId = "" then .error (.invalidInput "upload_id" "must not be empty")
  else .ok { bucket := bucket.value, key := key.value, uploadId, fileSize, partSize }

/-- `from_persistence_record`: only version 1 is read. -/
def fromPersistenceRecord (record : MultipartSessionRecord) :
    Except Error MultipartSessionSnapshot :=
  if record.version ≠ 1 then
    .error (.invalidInput "version" "unsupported multipart session record version")
  else restore record.bucket record.key record.uploadId record.fileSize record.partSize

/-- `into_persistence_record`. -/
def intoPersistenceRecord (snapshot : MultipartSessionSnapshot) : MultipartSessionRecord where
  version := 1
  bucket := snapshot.bucket
  key := snapshot.key
  uploadId := snapshot.uploadId
  fileSize := snapshot.fileSize
  partSize := snapshot.partSize

end MultipartSessionSnapshot

/-- An active multipart upload. -/
structure PresignedMultipart where
  bucket : BucketName
  key : String
  uploadId : String
  plan : MultipartPlan
  deriving DecidableEq

namespace PresignedMultipart

/-- What is needed to resume the session. -/
def snapshot (session : PresignedMultipart) : MultipartSessionSnapshot where
  bucket := session.bucket.value
  key := session.key
  uploadId := session.uploadId
  fileSize := session.plan.fileSize
  partSize := session.plan.partSize

/-- The session as R2 knows it. -/
def address (session : PresignedMultipart) : Address where
  bucket := session.bucket.value
  key := session.key
  uploadId := session.uploadId

/-- A request about this session. -/
def request (session : PresignedMultipart) (operation : Operation) : Request :=
  ⟨session.address, operation⟩

/-- `part_count`. -/
def partCount (session : PresignedMultipart) : Nat := session.plan.partCount

/-- `part_length`. -/
def partLength (session : PresignedMultipart) (number : PartNumber) : Except Error Nat :=
  session.plan.partLength number

/-- What `complete` asks of the manifest: every planned part exactly once, in order. -/
def coversPlan (session : PresignedMultipart) (manifest : CompletionManifest) : Bool :=
  manifest.parts.length == session.plan.partCount &&
    manifest.parts.zipIdx.all (fun entry => entry.1.partNumber.get == entry.2 + 1)

/-- `complete` up to the request: the manifest check and the part list that is sent. -/
def completeRequest (session : PresignedMultipart) (manifest : CompletionManifest) :
    Except Error Request :=
  if session.coversPlan manifest then
    .ok (session.request (.completeMultipartUpload
      (manifest.parts.map (fun part => ⟨part.partNumber.get, part.etag⟩))))
  else .error (.invalidInput "parts" "must include every planned part exactly once")

/-- `complete` from the answer on. -/
def completeAnswer (answer : Except SdkError (Option String)) :
    Except Error CompletedObject :=
  match answer with
  | .error error => .error (.remoteError "CompleteMultipartUpload" error)
  | .ok etag => .ok ⟨etag⟩

/-- The check of `complete` asks for exactly the planned numbers. -/
theorem coversPlan_iff {session : PresignedMultipart} {manifest : CompletionManifest} :
    session.coversPlan manifest = true ↔
      manifest.parts.map UploadedPart.partNumber = session.plan.numbers := by
  have number_at : ∀ index (h : index < session.plan.numbers.length),
      session.plan.numbers[index].get = index + 1 := by
    intro index h
    simp [MultipartPlan.numbers]
  simp only [coversPlan, Bool.and_eq_true, beq_iff_eq, List.all_eq_true]
  constructor
  · rintro ⟨length, numbered⟩
    apply List.ext_getElem
    · rw [List.length_map, length, MultipartPlan.length_numbers]
    · intro index hparts hnumbers
      apply PartNumber.ext
      rw [number_at index hnumbers, List.getElem_map]
      rw [List.length_map] at hparts
      exact numbered (manifest.parts[index], index)
        (List.mk_mem_zipIdx_iff_getElem?.mpr (List.getElem?_eq_getElem hparts))
  · intro same
    have length : manifest.parts.length = session.plan.partCount := by
      have lengths := congrArg List.length same
      rwa [List.length_map, MultipartPlan.length_numbers] at lengths
    refine ⟨length, ?_⟩
    rintro ⟨part, index⟩ member
    obtain ⟨hindex, rfl⟩ := List.getElem?_eq_some_iff.mp
      (List.mk_mem_zipIdx_iff_getElem?.mp member)
    have planned : index < session.plan.numbers.length := by
      rw [MultipartPlan.length_numbers, ← length]
      exact hindex
    rw [← number_at index planned]
    congr 1
    simp only [← same, List.getElem_map]

theorem completeRequest_eq_ok_iff {session : PresignedMultipart}
    {manifest : CompletionManifest} {request : Request} :
    session.completeRequest manifest = .ok request ↔
      manifest.parts.map UploadedPart.partNumber = session.plan.numbers ∧
        request = session.request (.completeMultipartUpload
          (manifest.parts.map (fun part => ⟨part.partNumber.get, part.etag⟩))) := by
  rw [← coversPlan_iff]
  simp only [completeRequest]
  split
  · rename_i covers
    simp [covers, eq_comm]
  · rename_i fails
    simp [fails]

/-- What aborts the session. -/
def abortRequest (session : PresignedMultipart) : Request :=
  session.request .abortMultipartUpload

/-- `abort` from the answer on. -/
def abortAnswer (answer : Except SdkError Unit) : Except Error Unit :=
  match answer with
  | .error error => .error (.remoteError "AbortMultipartUpload" error)
  | .ok () => .ok ()

end PresignedMultipart

/-- The key of the small runs. -/
def ObjectKey.clip : ObjectKey := ⟨"clip", by decide⟩

/-- A session of a three-byte file in a single part. -/
def PresignedMultipart.tiny : PresignedMultipart where
  bucket := ⟨"media", by decide, by decide⟩
  key := "clip"
  uploadId := "u"
  plan := {
    fileSize := 3
    partSize := minMultipartPartSize
    partCount := 1
    fileSize_pos := by decide
    fileSize_le := by decide
    partSize_valid := by decide
    count_le := by decide
    partCount_narrowed := by decide }

/-- The session of a file in three parts, the last one of three bytes. -/
def PresignedMultipart.three : PresignedMultipart :=
  { PresignedMultipart.tiny with plan := {
      fileSize := 2 * minMultipartPartSize + 3
      partSize := minMultipartPartSize
      partCount := 3
      fileSize_pos := by decide
      fileSize_le := by decide
      partSize_valid := by decide
      count_le := by decide
      partCount_narrowed := by decide } }

/-- `Bucket::resume_presigned_multipart`. -/
def BucketName.resumePresignedMultipart (bucket : BucketName)
    (snapshot : MultipartSessionSnapshot) : Except Error PresignedMultipart :=
  if snapshot.bucket ≠ bucket.value then
    .error (.invalidInput "bucket" "snapshot belongs to another bucket")
  else do
    let plan ← MultipartPlan.new snapshot.fileSize snapshot.partSize
    .ok { bucket, key := snapshot.key, uploadId := snapshot.uploadId, plan }

end R2kit
