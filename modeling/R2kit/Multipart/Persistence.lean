import R2kit.Multipart.Create

/-!
# Persisting and resuming sessions

The two ways into a session of `src/multipart.rs`: `create`, which takes the upload ID from the
answer of the server, and `resume_presigned_multipart`, which takes it from a snapshot. A
snapshot is restored from its fields, decoded from a record, or taken of an earlier session.
Only the restored and decoded ones have been through `restore`.
-/

namespace R2kit

namespace MultipartSessionSnapshot

/-- What `restore` accepts. -/
theorem restore_eq_ok_iff {bucket key uploadId : String} {fileSize partSize : Nat}
    {snapshot : MultipartSessionSnapshot} :
    restore bucket key uploadId fileSize partSize = .ok snapshot ↔
      (∃ name : BucketName, name.value = bucket) ∧ (∃ valid : ObjectKey, valid.value = key) ∧
        (∃ plan, MultipartPlan.new fileSize partSize = .ok plan) ∧ uploadId ≠ "" ∧
        snapshot = ⟨bucket, key, uploadId, fileSize, partSize⟩ := by
  simp only [restore, bind_eq_ok_iff, BucketName.new_eq_ok_iff, ObjectKey.new_eq_ok_iff]
  constructor
  · rintro ⟨name, rfl, valid, rfl, plan, planned, accepted⟩
    by_cases empty : uploadId = ""
    · rw [if_pos empty] at accepted
      cases accepted
    · rw [if_neg empty] at accepted
      cases accepted
      exact ⟨⟨name, rfl⟩, ⟨valid, rfl⟩, ⟨plan, planned⟩, empty, rfl⟩
  · rintro ⟨⟨name, rfl⟩, ⟨valid, rfl⟩, ⟨plan, planned⟩, nonempty, rfl⟩
    exact ⟨name, rfl, valid, rfl, plan, planned, if_neg nonempty⟩

theorem fromPersistenceRecord_eq_ok_iff {record : MultipartSessionRecord}
    {snapshot : MultipartSessionSnapshot} :
    fromPersistenceRecord record = .ok snapshot ↔ record.version = 1 ∧
      restore record.bucket record.key record.uploadId record.fileSize record.partSize =
        .ok snapshot := by
  by_cases current : record.version = 1 <;> simp [fromPersistenceRecord, current]

/-- A record is decoded exactly when it is the record of a snapshot that `restore` makes. -/
theorem fromPersistenceRecord_ok_iff (record : MultipartSessionRecord) :
    (∃ snapshot, fromPersistenceRecord record = .ok snapshot) ↔
      ∃ snapshot bucket key uploadId fileSize partSize,
        restore bucket key uploadId fileSize partSize = .ok snapshot ∧
          snapshot.intoPersistenceRecord = record := by
  obtain ⟨version, bucket, key, uploadId, fileSize, partSize⟩ := record
  constructor
  · intro ⟨snapshot, decoded⟩
    obtain ⟨current, restored⟩ := fromPersistenceRecord_eq_ok_iff.mp decoded
    cases current
    obtain ⟨-, -, -, -, rfl⟩ := restore_eq_ok_iff.mp restored
    exact ⟨_, bucket, key, uploadId, fileSize, partSize, restored, rfl⟩
  · rintro ⟨snapshot, _, _, _, _, _, restored, same⟩
    obtain ⟨-, -, -, -, rfl⟩ := restore_eq_ok_iff.mp restored
    cases same
    exact ⟨_, restored⟩

end MultipartSessionSnapshot

/-- The sessions that are handed out. The index is what `CreateMultipartUpload` was answered
    with when the upload was created, for sessions that go back to a `create`. -/
inductive Opened : Option (Except SdkError (Option String)) → PresignedMultipart → Prop
  | created {crates : Crates} {answer : CreateAnswer} {builder : PresignedMultipartBuilder}
      {input : CreateMultipartUploadInput} {session : PresignedMultipart}
      (made : builder.createWith crates answer = (.ok session, [.create input])) :
      Opened (some (answer input)) session
  | restored {bucket : BucketName} {name key uploadId : String} {fileSize partSize : Nat}
      {snapshot : MultipartSessionSnapshot} {session : PresignedMultipart}
      (valid : MultipartSessionSnapshot.restore name key uploadId fileSize partSize =
        .ok snapshot)
      (resumed : bucket.resumePresignedMultipart snapshot = .ok session) : Opened none session
  | decoded {bucket : BucketName} {record : MultipartSessionRecord}
      {snapshot : MultipartSessionSnapshot} {session : PresignedMultipart}
      (valid : MultipartSessionSnapshot.fromPersistenceRecord record = .ok snapshot)
      (resumed : bucket.resumePresignedMultipart snapshot = .ok session) : Opened none session
  | reopened {answer} {bucket : BucketName} {earlier session : PresignedMultipart}
      (before : Opened answer earlier)
      (resumed : bucket.resumePresignedMultipart earlier.snapshot = .ok session) :
      Opened answer session

namespace PresignedMultipart

/-- What makes a session one that can be persisted and resumed. -/
structure Persistable (session : PresignedMultipart) : Prop where
  roundTrip : MultipartSessionSnapshot.fromPersistenceRecord
    session.snapshot.intoPersistenceRecord = .ok session.snapshot
  resumes : ∃ resumed, session.bucket.resumePresignedMultipart session.snapshot = .ok resumed ∧
    resumed.key = session.key ∧ resumed.uploadId = session.uploadId ∧
    resumed.partCount = session.partCount ∧
    (∀ number, resumed.partLength number = session.partLength number) ∧
    resumed.snapshot = session.snapshot

end PresignedMultipart

/-- A session is resumed from its own snapshot and from no other. -/
theorem resumePresignedMultipart_eq_ok_iff {bucket : BucketName}
    {snapshot : MultipartSessionSnapshot} {session : PresignedMultipart} :
    bucket.resumePresignedMultipart snapshot = .ok session ↔
      session.bucket = bucket ∧ session.snapshot = snapshot := by
  constructor
  · intro resumed
    by_cases foreign : snapshot.bucket = bucket.value
    · rw [BucketName.resumePresignedMultipart, if_neg (not_not.mpr foreign), bind_eq_ok_iff]
        at resumed
      obtain ⟨plan, planned, made⟩ := resumed
      cases made
      obtain ⟨fileSize, partSize⟩ := MultipartPlan.new_eq_ok_iff.mp planned
      refine ⟨rfl, ?_⟩
      rw [PresignedMultipart.snapshot, fileSize, partSize, ← foreign]
    · rw [BucketName.resumePresignedMultipart, if_pos foreign] at resumed
      cases resumed
  · rintro ⟨rfl, rfl⟩
    have own : ¬ session.snapshot.bucket ≠ session.bucket.value := not_not.mpr rfl
    rw [BucketName.resumePresignedMultipart, if_neg own, bind_eq_ok_iff]
    exact ⟨session.plan, session.plan.new_eq, rfl⟩

theorem PresignedMultipartBuilder.createWith_eq_ok_iff {crates : Crates} {answer : CreateAnswer}
    {builder : PresignedMultipartBuilder} {session : PresignedMultipart} {out : List Effect}
    (made : builder.createWith crates answer = (.ok session, out)) :
    ∃ plan input, builder.created plan (answer input) = .ok session ∧ out = [.create input] := by
  unfold createWith at made
  split at made
  · cases made
  · rename_i plan input _
    obtain ⟨created, sent⟩ := Prod.ext_iff.mp made
    exact ⟨plan, input, created, sent.symm⟩

/-- The invariant of all sessions: the key is valid, and the upload ID is empty only where the
    answer to `CreateMultipartUpload` had an empty one. -/
structure Sound (answer : Option (Except SdkError (Option String)))
    (session : PresignedMultipart) : Prop where
  key : ∃ valid : ObjectKey, valid.value = session.key
  uploadId : session.uploadId = "" ↔ answer = some (.ok (some ""))

theorem Opened.sound {answer : Option (Except SdkError (Option String))}
    {session : PresignedMultipart} (opened : Opened answer session) : Sound answer session := by
  have resumed_sound : ∀ {bucket : BucketName} {snapshot : MultipartSessionSnapshot}
      {session : PresignedMultipart} {name key uploadId : String} {fileSize partSize : Nat},
      MultipartSessionSnapshot.restore name key uploadId fileSize partSize = .ok snapshot →
      bucket.resumePresignedMultipart snapshot = .ok session → Sound none session := by
    intro bucket snapshot session name key uploadId fileSize partSize valid resumed
    obtain ⟨-, hkey, -, nonempty, rfl⟩ :=
      MultipartSessionSnapshot.restore_eq_ok_iff.mp valid
    obtain ⟨-, same⟩ := resumePresignedMultipart_eq_ok_iff.mp resumed
    have keys : session.key = key := congrArg MultipartSessionSnapshot.key same
    have ids : session.uploadId = uploadId := congrArg MultipartSessionSnapshot.uploadId same
    exact ⟨keys ▸ hkey, by simp [ids, nonempty]⟩
  induction opened with
  | @created crates answer builder input session made =>
      obtain ⟨plan, sent, created, same⟩ :=
        PresignedMultipartBuilder.createWith_eq_ok_iff made
      cases same
      obtain ⟨uploadId, answered, rfl⟩ :=
        PresignedMultipartBuilder.created_eq_ok_iff.mp created
      exact ⟨⟨builder.key, rfl⟩, by simp [answered]⟩
  | restored valid resumed => exact resumed_sound valid resumed
  | @decoded bucket record snapshot session valid resumed =>
      obtain ⟨-, restored⟩ :=
        MultipartSessionSnapshot.fromPersistenceRecord_eq_ok_iff.mp valid
      exact resumed_sound restored resumed
  | @reopened answer bucket earlier session _ resumed ih =>
      obtain ⟨-, same⟩ := resumePresignedMultipart_eq_ok_iff.mp resumed
      have keys : session.key = earlier.key := congrArg MultipartSessionSnapshot.key same
      have ids : session.uploadId = earlier.uploadId :=
        congrArg MultipartSessionSnapshot.uploadId same
      exact ⟨keys ▸ ih.key, ids ▸ ih.uploadId⟩

/-- The snapshot of a session is resumed as the same session, whatever its upload ID. -/
theorem resume_snapshot (session : PresignedMultipart) :
    session.bucket.resumePresignedMultipart session.snapshot = .ok session :=
  resumePresignedMultipart_eq_ok_iff.mpr ⟨rfl, rfl⟩

/-- The sessions that can be persisted and resumed are those whose upload ID did not come
    empty in the answer to `CreateMultipartUpload`; and the records that can be decoded are
    those of restored snapshots. -/
theorem persistable_iff {answer : Option (Except SdkError (Option String))}
    {session : PresignedMultipart} (opened : Opened answer session) :
    (session.Persistable ↔ answer ≠ some (.ok (some ""))) ∧
    ∀ record, (∃ snapshot, MultipartSessionSnapshot.fromPersistenceRecord record = .ok snapshot) ↔
      ∃ snapshot bucket key uploadId fileSize partSize,
        MultipartSessionSnapshot.restore bucket key uploadId fileSize partSize = .ok snapshot ∧
          snapshot.intoPersistenceRecord = record := by
  refine ⟨?_, MultipartSessionSnapshot.fromPersistenceRecord_ok_iff⟩
  have sound := opened.sound
  have decodes : MultipartSessionSnapshot.fromPersistenceRecord
      session.snapshot.intoPersistenceRecord = .ok session.snapshot ↔ session.uploadId ≠ "" := by
    rw [MultipartSessionSnapshot.fromPersistenceRecord_eq_ok_iff,
      MultipartSessionSnapshot.restore_eq_ok_iff]
    exact ⟨fun valid => valid.2.2.2.2.1, fun nonempty => ⟨rfl, ⟨session.bucket, rfl⟩, sound.key,
      ⟨session.plan, session.plan.new_eq⟩, nonempty, rfl⟩⟩
  rw [Ne, ← sound.uploadId]
  constructor
  · intro persistable
    exact decodes.mp persistable.roundTrip
  · intro nonempty
    exact ⟨decodes.mpr nonempty, session, resume_snapshot session, rfl, rfl, rfl,
      fun _ => rfl, rfl⟩

/-- A builder for a file of three bytes. -/
def PresignedMultipartBuilder.tiny : PresignedMultipartBuilder where
  bucket := PresignedMultipart.tiny.bucket
  key := .clip
  fileSize := some 3
  partSize := some minMultipartPartSize

/-- With the upload ID "u" it becomes the small session, which can be persisted. -/
theorem persistable_tiny : PresignedMultipart.tiny.Persistable :=
  (persistable_iff (@Opened.created .minimal (fun _ => .ok (some "u")) .tiny
    PresignedMultipartBuilder.tiny.createInput .tiny rfl)).1.mpr (by decide)

/-- An empty upload ID is accepted by `create`, and the record of the session is not. -/
theorem persistable_fails_empty_id :
    ∃ session : PresignedMultipart,
      (PresignedMultipartBuilder.tiny.createWith .minimal (fun _ => .ok (some ""))).1 =
        .ok session ∧
      MultipartSessionSnapshot.fromPersistenceRecord session.snapshot.intoPersistenceRecord =
        .error (.invalidInput "upload_id" "must not be empty") :=
  ⟨_, rfl, rfl⟩

end R2kit
