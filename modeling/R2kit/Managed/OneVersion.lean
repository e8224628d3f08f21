import R2kit.Managed.Adaptive
import R2kit.Managed.FileVersions
import R2kit.Managed.Snapshot

/-!
# One version of the file

`ManagedMultipartBuilder::upload_file` and `UploadFileBuilder::send` of `src/managed.rs`, by any
strategy, while the file at the path changes between any two of their steps. `send` takes the
metadata and `upload_file` takes it again; a call that returns a result has sent the bytes of the
version whose metadata was taken last.
-/

namespace R2kit

open Misc

section Call

variable {crates : Crates} {builder : ManagedMultipartBuilder} {path next : SourcePath}
  {outputs out : List Effect}

/-- What the event of `upload_file` has to do with the path. -/
def callAccess : CallEvent FileBoot RunEvent → Access
  | .poll boot => .begins boot.metadata
  | .inner event => event.access
  | _ => .other

/-- The call has taken the metadata of the version that was there when it began. -/
def Began (path : SourcePath) (boot : FileBoot) : Prop :=
  ∃ base, path.marked = some base ∧ boot.metadata = some base.metadata

theorem Began.changed {boot : FileBoot} {version : Option FileVersion} (began : Began path boot)
    (changed : path.change FileVersion.fingerprint version = some next) : Began next boot := by
  obtain ⟨base, marked, taken⟩ := began
  exact ⟨base, Versions.marked_change changed marked, taken⟩

theorem fingerprint_of_metadata {boot : FileBoot} {base : FileVersion}
    (taken : boot.metadata = some base.metadata) : boot.fingerprint = base.fingerprint := by
  rw [FileBoot.fingerprint, taken]
  rfl

/-- The plan is for the file that was found. -/
structure SizedFor (builder : ManagedMultipartBuilder) (boot : FileBoot) (plan : MultipartPlan) :
    Prop where
  fileSize : plan.fileSize = boot.fingerprint.len
  partSize : plan.partSize = builder.partSize

/-- A result is that of one version. -/
def ResultFrom (builder : ManagedMultipartBuilder) (outputs : List Effect) (path : SourcePath)
    (result : ManagedUploadResult) : Prop :=
  ∃ base, OneVersion builder.partSize outputs path base ∧ result.fileSize = base.content.length

/-- The invariant of `upload_file`. -/
def CallFrom (builder : ManagedMultipartBuilder) (outputs : List Effect) (path : SourcePath) :
    CallState FileBoot RunState → Prop
  | .ready => outputs = []
  | .creating boot _ plan => SendsFrom builder.partSize path.since outputs ∧ Began path boot ∧
      SizedFor builder boot plan
  | .running boot session inner => Began path boot ∧ SizedFor builder boot session.plan ∧
      RunFrom session.plan outputs path inner
  | .returned (.ok result) => ResultFrom builder outputs path result
  | _ => True

theorem CallFrom.changed {call : CallState FileBoot RunState} {version : Option FileVersion}
    (holds : CallFrom builder outputs path call)
    (changed : path.change FileVersion.fingerprint version = some next) :
    CallFrom builder outputs next call := by
  have among : path.since ⊆ next.since := (Versions.since_prefix changed).subset
  cases call with
  | ready => exact holds
  | creating boot request plan =>
      exact ⟨holds.1.mono among, holds.2.1.changed changed, holds.2.2⟩
  | running boot session inner =>
      exact ⟨holds.1.changed changed, holds.2.1, holds.2.2.changed changed⟩
  | aborting session error => trivial
  | returned result =>
      cases result with
      | error failure => trivial
      | ok result =>
          obtain ⟨base, one, size⟩ := holds
          exact ⟨base, one.changed changed, size⟩
  | panicked site => trivial

/-- A call that does not fail at once has found a file. -/
theorem began_of_start {boot : FileBoot} (agrees : (Access.begins boot.metadata).Agrees path)
    (passed : ∀ error, (uploadFile crates builder).start boot ≠ .failed error) :
    Began path.mark boot := by
  obtain ⟨file, -, found, -⟩ := ManagedMultipartBuilder.reaches_of_beginFile passed
  rw [found] at agrees
  rcases agrees with none_there | there
  · cases none_there
  · obtain ⟨version, now, same⟩ := Option.map_eq_some_iff.mp there.symm
    refine ⟨version, ?_, ?_⟩
    · rw [Versions.marked_mark, now]
    · rw [found, same]

theorem sizedFor_of_resumed {boot : FileBoot} {session : PresignedMultipart}
    (resumed : (uploadFile crates builder).start boot = .resumed session) :
    SizedFor builder boot session.plan := by
  obtain ⟨file, reached⟩ := ManagedMultipartBuilder.reaches_of_beginFile
    (fun error failed => nomatch resumed.symm.trans failed)
  have begins := ManagedMultipartBuilder.beginFile_of_reaches reached
  rw [show builder.beginFile crates boot.metadata boot.cancelled = _ from resumed] at begins
  have length : boot.fingerprint.len = file.len := by
    rw [FileBoot.fingerprint, reached.2.1]
    rfl
  cases resume : builder.resume with
  | none =>
      rw [resume] at begins
      exact absurd begins.symm ManagedMultipartBuilder.beginNew_ne_resumed
  | some snapshot =>
      rw [resume] at begins
      obtain ⟨size, part, accepted⟩ :=
        ManagedMultipartBuilder.beginResumed_eq_resumed_iff.mp begins.symm
      rw [← snapshot_of_resume accepted] at size part
      exact ⟨size.trans length.symm, part⟩

/-- Only the start of the call takes the metadata. -/
theorem RunEvent.mark_access (event : RunEvent) (path : SourcePath) :
    event.access.mark path = path := by
  cases event with
  | task number event =>
      cases event with
      | read view => cases view <;> rfl
      | answered random answer => rfl
      | woken => rfl
  | poll => rfl
  | listed answer => rfl
  | start => rfl
  | checked metadata => rfl
  | completed answer => rfl

theorem ending_eq_some_iff {s : RunState} {ending : Ending} :
    (uploadFile crates builder).ending s = some ending ↔ s = .ending ending := by
  cases s <;> simp [uploadFile]

/-- After an error there is nothing to keep. -/
theorem callFrom_afterStartError {session : PresignedMultipart} {error : Error}
    {call : CallState FileBoot RunState} {sent : List Effect}
    (left : afterStartError builder session error = (call, sent)) :
    CallFrom builder outputs path call := by
  unfold afterStartError at left
  split at left
  · cases left
    trivial
  · cases left
    trivial

/-- One step of `upload_file` keeps the invariant. -/
theorem callFrom_step {call next : CallState FileBoot RunState}
    {event : CallEvent FileBoot RunEvent} (sound : path.Sound FileVersion.fingerprint)
    (agrees : (callAccess event).Agrees path) (holds : CallFrom builder outputs path call)
    (taken : (managedCall builder (uploadFile crates builder)).step call event =
      some (next, out)) :
    CallFrom builder (outputs ++ out) ((callAccess event).mark path) next := by
  cases callStep_of_step taken with
  | failed failed => trivial
  | @create boot request plan input new =>
      obtain rfl : outputs = [] := holds
      obtain ⟨-, -, -, size, part⟩ := uploadFile_faithful.creating boot request plan input new
      refine ⟨?_, began_of_start agrees (by rw [new]; simp), ⟨size, part⟩⟩
      apply sendsFrom_of_none
      intro request member
      simp at member
  | @resume boot session resumed =>
      obtain rfl : outputs = [] := holds
      exact ⟨began_of_start agrees (by rw [resumed]; simp), sizedFor_of_resumed resumed,
        sendsFrom_nil⟩
  | uncreated failed => trivial
  | @created boot request plan answer session made =>
      obtain ⟨sends, began, sized⟩ := holds
      obtain ⟨uploadId, -, rfl⟩ := PresignedMultipartBuilder.created_eq_ok_iff.mp made
      refine ⟨began, sized, ?_⟩
      show SendsFrom plan.partSize path.since (outputs ++ [])
      rw [sized.partSize, List.append_nil]
      exact sends
  | @inner boot session inner event next out moved unsettled =>
      obtain ⟨⟨base, marked, found⟩, sized, inner_holds⟩ := holds
      have kept := @runFrom_step ⟨builder, session⟩ _ _ _ _ _ _ _ _ sound agrees marked
        (fingerprint_of_metadata found) inner_holds moved
      rw [callAccess, event.mark_access]
      exact ⟨⟨base, marked, found⟩, sized, kept⟩
  | @settled boot session inner event next out result state sent moved finished left =>
      obtain ⟨⟨base, marked, found⟩, sized, inner_holds⟩ := holds
      have kept := @runFrom_step ⟨builder, session⟩ _ _ _ _ _ _ _ _ sound agrees marked
        (fingerprint_of_metadata found) inner_holds moved
      obtain rfl := ending_eq_some_iff.mp finished
      rw [callAccess, event.mark_access]
      cases result with
      | error fault =>
          cases fault with
          | panic site =>
              cases left
              trivial
          | error error => exact callFrom_afterStartError left
      | ok result =>
          cases left
          obtain ⟨⟨base', one⟩, size⟩ := kept
          obtain rfl := Option.some.inj (one.marked.symm.trans marked)
          refine ⟨base', ?_, ?_⟩
          · rw [← sized.partSize, List.append_nil]
            exact one
          · rw [size, sized.fileSize, fingerprint_of_metadata found]
            exact base'.sized
  | cancelled token left => exact callFrom_afterStartError left
  | aborted => trivial

end Call

section Send

variable {crates : Crates} {builder : UploadFileBuilder} {path next : SourcePath}
  {events : List SendEvent} {outputs out : List SendEffect}

/-- What the event of `send` has to do with the path. -/
def sendAccess : SendEvent → Access
  | .poll _ metadata => .begins metadata
  | .put body _ => .reads body
  | .checked metadata => .looks metadata
  | .call event => callAccess event
  | _ => .other

/-- The body of a single PUT. -/
def SendEvent.putBody : SendEvent → Option (List UInt8)
  | .put body _ => some body
  | _ => none

/-- The body of every part that was sent is the piece of this version at its offset. -/
def PartsOf (partSize : Nat) (base : FileVersion) (outputs : List SendEffect) : Prop :=
  ∀ address number length body,
    .send ⟨address, .uploadPart number length body⟩ ∈ outputs →
    body <+: base.content.drop ((number - 1) * partSize)

/-- No part was sent. -/
def NoParts (outputs : List SendEffect) : Prop :=
  ∀ address number length body, .send ⟨address, .uploadPart number length body⟩ ∉ outputs

/-- A result is that of one version: the one whose metadata was taken last. -/
def TransferFrom (events : List SendEvent) (outputs : List SendEffect) (path : SourcePath)
    (result : TransferResult) : Prop :=
  ∃ base partSize, path.marked = some base ∧ PartsOf partSize base outputs ∧
    (∀ body ∈ events.filterMap SendEvent.putBody, body = base.content) ∧
    result.size = base.content.length

/-- The metadata that the call goes by are of the version it began with. -/
def Taken (path : SourcePath) (file : Metadata) : Prop :=
  ∃ base, path.marked = some base ∧ base.metadata = file

/-- The invariant of `send`. -/
def SendFrom (events : List SendEvent) (outputs : List SendEffect) (path : SourcePath) :
    SendState → Prop
  | .ready => events = [] ∧ outputs = []
  | .opening _ file => Taken path file ∧ events.filterMap SendEvent.putBody = [] ∧
      NoParts outputs
  | .putting _ file input => Taken path file ∧ events.filterMap SendEvent.putBody = [] ∧
      NoParts outputs ∧ input.contentLength = file.len
  | .checking _ file _ => Taken path file ∧ NoParts outputs ∧
      ∃ body, events.filterMap SendEvent.putBody = [body] ∧ body.length = file.len ∧
        CameFrom path.since 0 body
  | .multipart _ managed call => events.filterMap SendEvent.putBody = [] ∧
      ∃ sent, outputs = sent.map SendEffect.ofManaged ∧ CallFrom managed sent path call
  | .returned (.ok result) => TransferFrom events outputs path result
  | _ => True

theorem Taken.changed {file : Metadata} {version : Option FileVersion} (taken : Taken path file)
    (changed : path.change FileVersion.fingerprint version = some next) : Taken next file := by
  obtain ⟨base, marked, same⟩ := taken
  exact ⟨base, Versions.marked_change changed marked, same⟩

theorem SendFrom.changed {s : SendState} {version : Option FileVersion}
    (holds : SendFrom events outputs path s)
    (changed : path.change FileVersion.fingerprint version = some next) :
    SendFrom events outputs next s := by
  cases s with
  | ready => exact holds
  | opening key file => exact ⟨holds.1.changed changed, holds.2⟩
  | putting key file input => exact ⟨holds.1.changed changed, holds.2⟩
  | checking key file etag =>
      obtain ⟨taken, unsent, body, put, length, came⟩ := holds
      exact ⟨taken.changed changed, unsent, body, put, length,
        came.mono (Versions.since_prefix changed).subset⟩
  | deleting key => trivial
  | multipart key managed call =>
      obtain ⟨unput, sent, same, holds⟩ := holds
      exact ⟨unput, sent, same, holds.changed changed⟩
  | returned result =>
      cases result with
      | error error => trivial
      | ok result =>
          obtain ⟨base, partSize, marked, rest⟩ := holds
          exact ⟨base, partSize, Versions.marked_change changed marked, rest⟩
  | panicked site => trivial

theorem NoParts.append (unsent : NoParts outputs) (new : NoParts out) :
    NoParts (outputs ++ out) := by
  intro address number length body member
  rcases List.mem_append.mp member with before | now
  · exact unsent address number length body before
  · exact new address number length body now

theorem contentLength_of_stream {key : ObjectKey} {length : Nat} {input : PutObjectInput}
    {bucket : BucketName} {options : ObjectUploadOptions}
    (accepted : putStreamWithOptions crates bucket (.ok key) length options = .ok input) :
    input.contentLength = length := by
  obtain ⟨valid, -, -, -, -, rfl⟩ := putStreamWithOptions_eq_ok_iff.mp accepted
  exact (fields_putObjectInput _ _ _ _).1

theorem noParts_put (input : PutObjectInput) : NoParts [.put input] := by
  intro address number length body member
  simp at member

theorem noParts_nil : NoParts [] := fun _ _ _ _ member => nomatch member

/-- Parts of one version that the multipart branch sent. -/
theorem partsOf_ofManaged {sent : List Effect} {partSize : Nat} {base : FileVersion}
    (sends : SendsFrom partSize [base] sent) :
    PartsOf partSize base (sent.map SendEffect.ofManaged) := by
  intro address number length body member
  obtain ⟨effect, among, same⟩ := List.mem_map.mp member
  cases effect with
  | send request =>
      cases same
      exact cameFrom_singleton_iff.mp (sends address number length body among)
  | create input => cases same
  | report progress => cases same

/-- The start of `send`. -/
theorem sendFrom_begin {cancelled : Bool} {metadata : Option Metadata} {s : SendState}
    (agrees : (Access.begins metadata).Agrees path)
    (begun : beginSend crates builder cancelled metadata = (s, out)) :
    SendFrom [.poll cancelled metadata] out path.mark s := by
  rcases beginSend_cases begun with ⟨error, rfl, rfl⟩ | ⟨key, file, rfl, -, -, dispatched⟩
  · trivial
  · have taken : Taken path.mark file := by
      rcases agrees with none_there | there
      · cases none_there
      · obtain ⟨version, now, same⟩ := Option.map_eq_some_iff.mp there.symm
        exact ⟨version, by rw [Versions.marked_mark, now], same⟩
    rcases dispatch_cases dispatched with ⟨error, rfl, rfl⟩ |
      ⟨empty, input, accepted, rfl, rfl⟩ | ⟨below, rfl, rfl⟩ | ⟨reached, managed, rfl, rfl⟩
    · trivial
    · obtain ⟨options, -, streamed⟩ := bind_eq_ok_iff.mp accepted
      refine ⟨taken, rfl, noParts_put input, ?_⟩
      rw [empty]
      exact contentLength_of_stream streamed
    · exact ⟨taken, rfl, noParts_nil⟩
    · exact ⟨rfl, [], rfl, rfl⟩

/-- The multipart branch going on. -/
theorem sendFrom_onCall {key : ObjectKey} {managed : ManagedMultipartBuilder}
    {call : CallState FileBoot RunState} {sent : List Effect}
    (unput : events.filterMap SendEvent.putBody = []) (holds : CallFrom managed sent path call) :
    SendFrom events (sent.map SendEffect.ofManaged) path (onCall key managed call) := by
  cases call with
  | returned result =>
      cases result with
      | error failure => trivial
      | ok result =>
          obtain ⟨base, one, size⟩ := holds
          refine ⟨base, managed.partSize, one.marked, partsOf_ofManaged one.sends, ?_, size⟩
          rw [unput]
          exact List.forall_mem_nil _
  | panicked site => trivial
  | ready => exact ⟨unput, sent, rfl, holds⟩
  | creating boot request plan => exact ⟨unput, sent, rfl, holds⟩
  | running boot session inner => exact ⟨unput, sent, rfl, holds⟩
  | aborting session error => exact ⟨unput, sent, rfl, holds⟩

/-- The check after a single PUT. -/
theorem sendFrom_checkSource {key : ObjectKey} {file : Metadata} {etag : Option String}
    {metadata : Option Metadata} {s : SendState}
    (sound : path.Sound FileVersion.fingerprint)
    (agrees : (Access.looks metadata).Agrees path)
    (holds : SendFrom events outputs path (.checking key file etag))
    (found : checkSource builder key file etag metadata = (s, out)) :
    SendFrom (events ++ [.checked metadata]) (outputs ++ out) path s := by
  obtain ⟨⟨base, marked, rfl⟩, unsent, body, put, length, came⟩ := holds
  unfold checkSource at found
  split at found
  · cases found
    trivial
  · rename_i metadata
    split at found
    · cases found
      trivial
    · rename_i same
      rw [not_not] at same
      have since := since_of_check sound agrees marked rfl same
      rw [since, cameFrom_singleton_iff, List.drop_zero] at came
      have whole : body = base.content :=
        came.eq_of_length (length.trans base.sized)
      cases found
      refine ⟨base, 0, marked, ?_, ?_, base.sized⟩
      · intro address number length other member
        exact absurd member (unsent.append (by
          intro address number length body reported
          split at reported <;> simp at reported) address number length other)
      · rw [List.filterMap_append, put]
        simpa [SendEvent.putBody] using whole

/-- One step of `send` keeps the invariant. -/
theorem sendFrom_step {s s' : SendState} {event : SendEvent}
    (sound : path.Sound FileVersion.fingerprint) (agrees : (sendAccess event).Agrees path)
    (holds : SendFrom events outputs path s)
    (taken : (send crates builder).step s event = some (s', out)) :
    SendFrom (events ++ [event]) (outputs ++ out) ((sendAccess event).mark path) s' := by
  cases sendStep_of_step taken with
  | start begun =>
      obtain ⟨rfl, rfl⟩ := holds
      exact sendFrom_begin agrees begun
  | @opened key file state out sent =>
      obtain ⟨taken_file, unput, unsent⟩ := holds
      rcases sendPut_cases sent with ⟨error, rfl, rfl⟩ | ⟨input, accepted, rfl, rfl⟩
      · trivial
      · refine ⟨taken_file, ?_, unsent.append (noParts_put input),
          contentLength_of_stream accepted⟩
        rw [List.filterMap_append, unput]
        rfl
  | unopened => trivial
  | putFailed failed => trivial
  | @put key file input body etag length =>
      obtain ⟨taken_file, unput, unsent, size⟩ := holds
      refine ⟨taken_file, unsent.append noParts_nil, body, ?_, length.trans size, agrees⟩
      rw [List.filterMap_append, unput]
      rfl
  | cancelled token => trivial
  | checked found => exact sendFrom_checkSource sound agrees holds found
  | deleted => trivial
  | @call key managed call event next out moved =>
      obtain ⟨unput, sent, rfl, call_holds⟩ := holds
      have kept := callFrom_step sound agrees call_holds moved
      rw [← List.map_append]
      refine sendFrom_onCall ?_ kept
      rw [List.filterMap_append, unput]
      rfl

end Send

/-- A successful upload never mixes versions of the file: every byte it has sent came from the
    version whose metadata was taken at the start of the transfer, and the size it reports is
    that of this version. -/
theorem upload_one_version (crates : Crates) :
    (∀ (builder : ManagedMultipartBuilder) now history path result,
      (withPath callAccess (managedCall builder (uploadFile crates builder))).Reaches
        (Versions.start now, .ready) history (path, .returned (.ok result)) →
      ∃ base, path.marked = some base ∧
        (∀ address number length body,
          .send ⟨address, .uploadPart number length body⟩ ∈ history.outputs →
          body <+: base.content.drop ((number - 1) * builder.partSize)) ∧
        result.fileSize = base.content.length) ∧
    ∀ (builder : UploadFileBuilder) now history path result,
      (withPath sendAccess (send crates builder)).Reaches
        (Versions.start now, .ready) history (path, .returned (.ok result)) →
      TransferFrom (callEvents history) history.outputs path result := by
  constructor
  · intro builder now history path result run
    have started : CallFrom builder [] (Versions.start now) .ready := rfl
    have holds := withPath_invariant (P := fun _ outputs path call =>
      CallFrom builder outputs path call) started
      (fun _ _ _ _ _ _ holds changed => holds.changed changed)
      (fun _ _ _ _ _ _ _ holds sound agrees moved => callFrom_step sound agrees holds moved) run
    obtain ⟨base, one, size⟩ := holds
    exact ⟨base, one.marked, fun address number length body member =>
      cameFrom_singleton_iff.mp (one.sends address number length body member), size⟩
  · intro builder now history path result run
    have started : SendFrom [] [] (Versions.start now) .ready := ⟨rfl, rfl⟩
    exact withPath_invariant (P := SendFrom) started
      (fun _ _ _ _ _ _ holds changed => holds.changed changed)
      (fun _ _ _ _ _ _ _ holds sound agrees moved => sendFrom_step sound agrees holds moved) run

/-- The result of a call that has succeeded. -/
def uploadedOf : CallState FileBoot RunState → Option ManagedUploadResult
  | .returned (.ok result) => some result
  | _ => none

/-- The result of a `send` that has succeeded. -/
def transferredOf : SendState → Option TransferResult
  | .returned (.ok result) => some result
  | _ => none

theorem returned_of_uploadedOf {s : CallState FileBoot RunState} {result : ManagedUploadResult}
    (is : uploadedOf s = some result) : s = .returned (.ok result) := by
  cases s with
  | returned returned =>
      cases returned with
      | ok value => rw [Option.some.inj is]
      | error failure => cases is
  | _ => cases is

theorem returned_of_transferredOf {s : SendState} {result : TransferResult}
    (is : transferredOf s = some result) : s = .returned (.ok result) := by
  cases s with
  | returned returned =>
      cases returned with
      | ok value => rw [Option.some.inj is]
      | error error => cases is
  | _ => cases is

/-- A file of three bytes that is replaced before its upload, and again when the check of the
    source has passed: in parts, and in a single PUT. -/
theorem upload_one_version_replaced :
    (∃ history path result,
      (withPath callAccess (managedCall .tiny (uploadFile .minimal .tiny))).Reaches
        (Versions.start none, .ready) history (path, .returned (.ok result)) ∧
      ∃ base, path.marked = some base ∧
        (∀ address number length body,
          .send ⟨address, .uploadPart number length body⟩ ∈ history.outputs →
          body <+: base.content.drop ((number - 1) * minMultipartPartSize)) ∧
        result.fileSize = base.content.length) ∧
    ∃ history path result,
      (withPath sendAccess (send .minimal .clip)).Reaches
        (Versions.start none, .ready) history (path, .returned (.ok result)) ∧
      TransferFrom (callEvents history) history.outputs path result := by
  let file : FileVersion := ⟨⟨true, 3, some 1, 0, 0⟩, [1, 2, 3], rfl⟩
  let other : FileVersion := ⟨⟨true, 2, some 2, 0, 0⟩, [4, 5], rfl⟩
  constructor
  · let inner (event : RunEvent) : PathEvent (CallEvent FileBoot RunEvent) :=
      .client (.inner event)
    let part (event : TaskEvent) := inner (.task ⟨1, by decide⟩ event)
    have executed : ((withPath callAccess (managedCall .tiny (uploadFile .minimal .tiny))).exec
        (Versions.start none, .ready)
        [.changed (some other), .changed (some file), .client (.poll ⟨some file.metadata, false⟩),
          .client (.created (.ok (some "u"))), inner .poll, inner .start,
          part (.read (.content [1, 2, 3])), part (.answered 0 (.ok (some "e"))),
          inner (.checked (some file.metadata)), .changed none,
          inner (.completed (.ok none))]).bind (fun final => uploadedOf final.2.2) =
            some ⟨⟨none⟩, 3, 1, 1, 0⟩ := by decide
    obtain ⟨⟨history, path, s⟩, reached, is⟩ := Option.bind_eq_some_iff.mp executed
    obtain rfl := returned_of_uploadedOf is
    have run := Machine.reaches_of_exec reached
    exact ⟨history, path, _, run, (upload_one_version .minimal).1 .tiny none history path _ run⟩
  · have executed : ((withPath sendAccess (send .minimal .clip)).exec
        (Versions.start none, .ready)
        [.changed (some other), .changed (some file), .client (.poll false (some file.metadata)),
          .client (.opened true), .client (.put [1, 2, 3] (.ok (some "e"))),
          .client (.checked (some file.metadata)), .changed none]).bind
            (fun final => transferredOf final.2.2) = some (putResult .clip 3 (some "e")) := by
      decide
    obtain ⟨⟨history, path, s⟩, reached, is⟩ := Option.bind_eq_some_iff.mp executed
    obtain rfl := returned_of_transferredOf is
    have run := Machine.reaches_of_exec reached
    exact ⟨history, path, _, run, (upload_one_version .minimal).2 .clip none history path _ run⟩

end R2kit
