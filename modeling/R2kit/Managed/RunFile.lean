import R2kit.Managed.Uploads
import R2kit.Multipart.Reconcile

/-!
# The upload of a file

`ManagedMultipartBuilder::run` of `src/managed.rs` as a machine that waits for one thing at
a time, apart from the parts in flight, of which any may go on next. What is already stored
is listed first, then every other part is uploaded, then the file is looked at again, and
only then is the session completed.
-/

namespace R2kit

open Misc

/-- Where `run` is waiting. -/
inductive RunState where
  | ready
  | listing (state : ReconcileState)
  | uploading (reused : PartMap) (queue : List (PartNumber × Nat)) (uploads : Uploads)
  | checking (manifest : PartMap) (uploadedCount reusedCount : Nat)
  | ending (ending : Ending)

/-- What can happen while `run` is polled. -/
inductive RunEvent where
  | poll
  | listed (answer : Except SdkError ListPartsOutput)
  | start
  | task (number : PartNumber) (event : TaskEvent)
  | checked (metadata : Option Metadata)
  | completed (answer : Except SdkError (Option String))
  deriving DecidableEq

/-- `run` has returned an error. -/
def RunState.failed (error : Error) : RunState := .ending (.finished (.error (.error error)))

/-- The loop over the existing parts, with the map and the bytes so far. -/
def collectExisting (session : PresignedMultipart) (manifest : PartMap) (reusedBytes : Nat) :
    List UploadedPart → Except Error (PartMap × Nat)
  | [] => .ok (manifest, reusedBytes)
  | part :: rest =>
      match session.partLength part.partNumber with
      | .error error => .error error
      | .ok expected =>
          if u64Max < reusedBytes + expected then .error (.service "ListParts")
          else
            collectExisting session (manifest.insert part.partNumber part)
              (reusedBytes + expected) rest

/-- The parts to upload, in order, each with its length. -/
def missingParts (session : PresignedMultipart) (manifest : PartMap) :
    Except Error (List (PartNumber × Nat)) := do
  let numbers ← (List.range' 1 session.partCount).mapM PartNumber.tryFrom
  (numbers.filter (fun number => ¬ manifest.contains number)).mapM (fun number => do
    let length ← session.partLength number
    .ok (number, length))

section Planned

variable {session : PresignedMultipart}

/-- The lengths of the parts that are already stored. -/
def existingBytes (plan : MultipartPlan) (existing : List UploadedPart) : Nat :=
  ((existing.map UploadedPart.partNumber).map (fun number =>
    blockLength plan.fileSize plan.partSize number.index)).sum

/-- Planned parts are collected without an error as long as their bytes can be counted. -/
theorem collectExisting_eq {existing : List UploadedPart} {manifest : PartMap}
    {reusedBytes : Nat}
    (planned : ∀ part ∈ existing, part.partNumber.get ≤ session.plan.partCount)
    (fits : reusedBytes + existingBytes session.plan existing ≤ u64Max) :
    collectExisting session manifest reusedBytes existing =
      .ok (insertAll UploadedPart.partNumber manifest existing,
        reusedBytes + existingBytes session.plan existing) := by
  induction existing generalizing manifest reusedBytes with
  | nil => rfl
  | cons part rest ih =>
      have length := session.plan.partLength_eq (planned part List.mem_cons_self)
      have total : existingBytes session.plan (part :: rest) =
          blockLength session.plan.fileSize session.plan.partSize part.partNumber.index +
            existingBytes session.plan rest := by
        simp [existingBytes]
      rw [total] at fits ⊢
      simp only [collectExisting, PresignedMultipart.partLength, length]
      rw [if_neg (by omega), ih (fun other member => planned other
        (List.mem_cons_of_mem _ member)) (by omega)]
      rw [insertAll_cons, Nat.add_assoc]

/-- What is missing is every planned part that is not in the map, with its length. -/
theorem missingParts_eq (manifest : PartMap) :
    missingParts session manifest =
      .ok ((session.plan.numbers.filter (fun number => ¬ manifest.contains number)).map
        (fun number => (number,
          blockLength session.plan.fileSize session.plan.partSize number.index))) := by
  have numbers : (List.range' 1 session.partCount).mapM PartNumber.tryFrom =
      .ok session.plan.numbers := by
    rw [PresignedMultipart.partCount, ← MultipartPlan.map_get_numbers, List.mapM_map]
    have each : session.plan.numbers.mapM (PartNumber.tryFrom ∘ PartNumber.get) =
        pure (session.plan.numbers.map id) :=
      mapM_eq_pure (fun number _ => PartNumber.tryFrom_get number)
    rwa [List.map_id] at each
  rw [missingParts, bind_eq_ok_iff]
  refine ⟨_, numbers, mapM_eq_pure ?_⟩
  intro number member
  have planned := session.plan.mem_numbers.mp (List.mem_filter.mp member).1
  rw [PresignedMultipart.partLength, session.plan.partLength_eq planned]
  rfl

end Planned

namespace Transfer

variable (transfer : Transfer)

/-- Goes on with the parts as long as there are any; then the uploaded ones join the
    reused ones. -/
def afterUploads (reused : PartMap) (queue : List (PartNumber × Nat)) (uploads : Uploads) :
    RunState :=
  if queue = [] ∧ uploads.inFlight = [] then
    .checking (insertAll UploadedPart.partNumber reused uploads.uploaded)
      (asU16 uploads.uploaded.length) (asU16 reused.size)
  else .uploading reused queue uploads

/-- From the existing parts to the parts in flight. -/
def prepare (existing : List UploadedPart) : RunState × List Effect :=
  match collectExisting transfer.session ∅ 0 existing with
  | .error error => (.failed error, [])
  | .ok (manifest, reusedBytes) =>
      let uploads : Uploads := {
        inFlight := []
        uploaded := []
        completedParts := asU16 manifest.size
        transferredBytes := reusedBytes }
      match missingParts transfer.session manifest with
      | .error error => (.failed error, uploads.progress transfer)
      | .ok queue => (afterUploads manifest queue uploads, uploads.progress transfer)

/-- `ManagedMultipartBuilder::run`. -/
def runFile (fingerprint : SourceFileFingerprint) : Machine RunState RunEvent Effect where
  step
    | .ready, .poll =>
        if transfer.builder.resume.isSome then
          let state := ReconcileState.start transfer.session.plan
          some (.listing state, [.send (state.request transfer.session)])
        else some (transfer.prepare [])
    | .listing state, .listed answer =>
        match state.onAnswer transfer.session.plan answer with
        | .error fault => some (.ending (.finished (.error fault)), [])
        | .ok (.listing state) =>
            some (.listing state, [.send (state.request transfer.session)])
        | .ok (.done reconciliation) => some (transfer.prepare reconciliation.uploadedParts)
    | .uploading reused ((number, length) :: queue) uploads, .start =>
        if uploads.inFlight.length < transfer.builder.concurrency then
          some (.uploading reused queue
            { uploads with inFlight := uploads.inFlight ++ [⟨number, length, .reading⟩] }, [])
        else none
    | .uploading reused queue uploads, .task number event =>
        match uploads.onTask transfer number event with
        | none => none
        | some (.failed error) => some (.failed error, [])
        | some (.running uploads out) => some (afterUploads reused queue uploads, out)
    | .checking manifest uploadedCount reusedCount, .checked metadata =>
        match metadata with
        | none => some (.failed (.io "metadata"), [])
        | some metadata =>
            if fingerprint.matchesMetadata metadata then
              let (ending, out) :=
                Ending.start transfer.session manifest uploadedCount reusedCount
              some (.ending ending, out)
            else some (.failed (.invalidInput "path" "file changed during upload"), [])
    | .ending (.completing _ uploadedParts reusedParts), .completed answer =>
        some (.ending (Ending.onCompleted transfer.session uploadedParts reusedParts answer), [])
    | _, _ => none

/-- The request whose answer an event hands in. An error needs no answer: it may come from
    anywhere between the client and the server. -/
def runConsumes : RunState → RunEvent → Option (Effect × Response)
  | .listing state, .listed (.ok output) =>
      some (.send (state.request transfer.session), .listParts output)
  | .uploading _ _ uploads, .task number (.answered _ (.ok etag)) =>
      (uploads.awaited transfer.session number).map
        (fun request => (.send request, .uploadPart etag))
  | .ending (.completing request _ _), .completed (.ok etag) =>
      some (.send request, .completeMultipartUpload etag)
  | _, _ => none

/-- What `run` fails with when it does not find the file that it began with. -/
def sourceError : Option Metadata → Error
  | none => .io "metadata"
  | some _ => .invalidInput "path" "file changed during upload"

/-- Everything one step of `run` can be. -/
inductive RunStep (fingerprint : SourceFileFingerprint) :
    RunState → RunEvent → RunState → List Effect → Prop
  | list (resumed : transfer.builder.resume.isSome = true) :
      RunStep fingerprint .ready .poll (.listing (ReconcileState.start transfer.session.plan))
        [.send ((ReconcileState.start transfer.session.plan).request transfer.session)]
  | fresh (new : transfer.builder.resume = none) :
      RunStep fingerprint .ready .poll (transfer.prepare []).1 (transfer.prepare []).2
  | unlisted {state answer fault}
      (failed : state.onAnswer transfer.session.plan answer = .error fault) :
      RunStep fingerprint (.listing state) (.listed answer)
        (.ending (.finished (.error fault))) []
  | page {state output next}
      (accepted : state.onAnswer transfer.session.plan (.ok output) = .ok (.listing next)) :
      RunStep fingerprint (.listing state) (.listed (.ok output)) (.listing next)
        [.send (next.request transfer.session)]
  | lastPage {state output reconciliation}
      (accepted : state.onAnswer transfer.session.plan (.ok output) =
        .ok (.done reconciliation)) :
      RunStep fingerprint (.listing state) (.listed (.ok output))
        (transfer.prepare reconciliation.uploadedParts).1
        (transfer.prepare reconciliation.uploadedParts).2
  | start {reused number length queue uploads}
      (room : uploads.inFlight.length < transfer.builder.concurrency) :
      RunStep fingerprint (.uploading reused ((number, length) :: queue) uploads) .start
        (.uploading reused queue
          { uploads with inFlight := uploads.inFlight ++ [⟨number, length, .reading⟩] }) []
  | partFailed {reused queue uploads number event error}
      (failed : uploads.onTask transfer number event = some (.failed error)) :
      RunStep fingerprint (.uploading reused queue uploads) (.task number event)
        (.failed error) []
  | part {reused queue uploads number event next out}
      (moved : uploads.onTask transfer number event = some (.running next out)) :
      RunStep fingerprint (.uploading reused queue uploads) (.task number event)
        (afterUploads reused queue next) out
  | changed {manifest uploadedCount reusedCount metadata}
      (differs : ∀ found, metadata = some found → fingerprint.matchesMetadata found = false) :
      RunStep fingerprint (.checking manifest uploadedCount reusedCount) (.checked metadata)
        (.failed (sourceError metadata)) []
  | unchanged {manifest uploadedCount reusedCount metadata}
      (same : fingerprint.matchesMetadata metadata = true) :
      RunStep fingerprint (.checking manifest uploadedCount reusedCount)
        (.checked (some metadata))
        (.ending (Ending.start transfer.session manifest uploadedCount reusedCount).1)
        (Ending.start transfer.session manifest uploadedCount reusedCount).2
  | completed {request uploadedParts reusedParts answer} :
      RunStep fingerprint (.ending (.completing request uploadedParts reusedParts))
        (.completed answer)
        (.ending (Ending.onCompleted transfer.session uploadedParts reusedParts answer)) []

variable {transfer} {fingerprint : SourceFileFingerprint}

/-- The last page of the listing. -/
theorem runFile_listed {state : ReconcileState} {answer : Except SdkError ListPartsOutput}
    {reconciliation : MultipartReconciliation}
    (accepted : state.onAnswer transfer.session.plan answer = .ok (.done reconciliation)) :
    (transfer.runFile fingerprint).step (.listing state) (.listed answer) =
      some (transfer.prepare reconciliation.uploadedParts) := by
  simp only [runFile, accepted]

/-- A part in flight goes on. -/
theorem runFile_part {reused : PartMap} {queue : List (PartNumber × Nat)}
    {uploads next : Uploads} {number : PartNumber} {event : TaskEvent} {out : List Effect}
    (moved : uploads.onTask transfer number event = some (.running next out)) :
    (transfer.runFile fingerprint).step (.uploading reused queue uploads) (.task number event) =
      some (afterUploads reused queue next, out) := by
  simp only [runFile, moved]

/-- The source is as it was. -/
theorem runFile_unchanged {manifest : PartMap} {uploadedCount reusedCount : Nat}
    {metadata : Metadata} (same : fingerprint.matchesMetadata metadata = true) :
    (transfer.runFile fingerprint).step (.checking manifest uploadedCount reusedCount)
      (.checked (some metadata)) =
        some (.ending (Ending.start transfer.session manifest uploadedCount reusedCount).1,
          (Ending.start transfer.session manifest uploadedCount reusedCount).2) := by
  simp only [runFile, if_pos same]

theorem runStep_of_step {s s' : RunState} {event : RunEvent} {out : List Effect}
    (taken : (transfer.runFile fingerprint).step s event = some (s', out)) :
    transfer.RunStep fingerprint s event s' out := by
  simp only [runFile] at taken
  split at taken
  · split at taken
    · rename_i resumed
      cases taken
      exact .list resumed
    · rename_i fresh
      have step : transfer.RunStep fingerprint .ready .poll (transfer.prepare []).1
          (transfer.prepare []).2 := .fresh (by simpa using fresh)
      rwa [Option.some.inj taken] at step
  · rename_i state answer
    split at taken
    · rename_i fault failed
      cases taken
      exact .unlisted failed
    · rename_i next accepted
      cases taken
      cases answer with
      | error error => cases accepted
      | ok output => exact .page accepted
    · rename_i reconciliation accepted
      cases answer with
      | error error => cases accepted
      | ok output =>
          have step : transfer.RunStep fingerprint (.listing state) (.listed (.ok output))
              (transfer.prepare reconciliation.uploadedParts).1
              (transfer.prepare reconciliation.uploadedParts).2 := .lastPage accepted
          rwa [Option.some.inj taken] at step
  · split at taken
    · rename_i room
      cases taken
      exact .start room
    · cases taken
  · split at taken
    · cases taken
    · rename_i error failed
      cases taken
      exact .partFailed failed
    · rename_i next out moved
      cases taken
      exact .part moved
  · split at taken
    · cases taken
      exact .changed (by simp)
    · rename_i metadata
      split at taken
      · rename_i same
        cases taken
        exact .unchanged same
      · rename_i differs
        cases taken
        refine .changed ?_
        rintro found ⟨⟩
        simpa using differs
  · cases taken
    exact .completed
  · cases taken

end Transfer

end R2kit
