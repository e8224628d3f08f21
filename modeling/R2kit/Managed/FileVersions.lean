import R2kit.Managed.Accounting
import R2kit.Misc.Versions

/-!
# Versions of the file

`ManagedMultipartBuilder::run` of `src/managed.rs` while the file at the path is changed, replaced
or removed. Every part opens the path anew and is read byte by byte, so that what is read may be
put together from all the versions there have been since the metadata was taken. A run that
passes the check of the source has sent the bytes of one of them only.
-/

namespace R2kit

open Misc

/-- What is at a path: the metadata, and as many bytes as it says. -/
structure FileVersion where
  metadata : Metadata
  content : List UInt8
  sized : metadata.len = content.length

/-- The fingerprint that is taken of this version. -/
def FileVersion.fingerprint (version : FileVersion) : SourceFileFingerprint :=
  .fromMetadata version.metadata

/-- The path of the file. Each version has a fingerprint that none before it had. -/
abbrev SourcePath := Versions FileVersion

/-- Every byte of this data was at its offset in one of these versions. -/
def CameFrom (versions : List FileVersion) (offset : Nat) (data : List UInt8) : Prop :=
  ∀ index < data.length, ∃ version ∈ versions, version.content[offset + index]? = data[index]?

instance (versions : List FileVersion) (offset : Nat) (data : List UInt8) :
    Decidable (CameFrom versions offset data) :=
  inferInstanceAs (Decidable (∀ index < data.length, _))

/-- What an event of a call has to do with the path. -/
inductive Access where
  | begins (metadata : Option Metadata)
  | looks (metadata : Option Metadata)
  | reads (data : List UInt8)
  | other
  deriving DecidableEq

namespace Access

/-- Metadata is that of the version that is there, if it can be had at all; data is read from
    the versions there have been since the call took the metadata. -/
def Agrees (path : SourcePath) : Access → Prop
  | begins metadata | looks metadata =>
      metadata = none ∨ metadata = path.now.map FileVersion.metadata
  | reads data => CameFrom path.since 0 data
  | other => True

instance (path : SourcePath) : (access : Access) → Decidable (access.Agrees path)
  | begins _ => inferInstanceAs (Decidable (_ ∨ _))
  | looks _ => inferInstanceAs (Decidable (_ ∨ _))
  | reads _ => inferInstanceAs (Decidable (CameFrom _ _ _))
  | other => inferInstanceAs (Decidable True)

/-- The path once a call has begun to look at it. -/
def mark (path : SourcePath) : Access → SourcePath
  | begins _ => path.mark
  | _ => path

end Access

/-- Either the path changes, or the call goes on. -/
inductive PathEvent (E : Type) where
  | changed (version : Option FileVersion)
  | client (event : E)

section Path

variable {S E O : Type}

/-- A machine that reads the file at a path, and the path. -/
def withPath (access : E → Access) (m : Machine S E O) :
    Machine (SourcePath × S) (PathEvent E) O where
  step
    | (path, s), .changed version =>
        (path.change FileVersion.fingerprint version).map (fun path => ((path, s), []))
    | (path, s), .client event =>
        if (access event).Agrees path then
          (m.step s event).map (fun next => (((access event).mark path, next.1), next.2))
        else none

/-- The event of the client, if it is one. -/
def PathEvent.client? : PathEvent E → Option E
  | changed _ => none
  | client event => some event

/-- The events of the call. -/
def callEvents (history : History (PathEvent E) O) : List E :=
  history.events.filterMap PathEvent.client?

@[simp] theorem callEvents_changed (history : History (PathEvent E) O)
    (version : Option FileVersion) (out : List O) :
    callEvents (history ++ [(.changed version, out)]) = callEvents history := by
  rw [callEvents, History.events_append, List.filterMap_append]
  exact List.append_nil _

@[simp] theorem callEvents_client (history : History (PathEvent E) O) (event : E)
    (out : List O) :
    callEvents (history ++ [(.client event, out)]) = callEvents history ++ [event] := by
  rw [callEvents, History.events_append, List.filterMap_append]
  rfl

variable {access : E → Access} {m : Machine S E O}

/-- The induction rule for runs with a path: a property of what the call has done, of the path
    and of the state of the call. -/
theorem withPath_invariant {P : List E → List O → SourcePath → S → Prop} {initial : S}
    {now : Option FileVersion} (started : P [] [] (.start now) initial)
    (changes : ∀ events outputs path s version next, P events outputs path s →
      path.change FileVersion.fingerprint version = some next → P events outputs next s)
    (steps : ∀ events outputs path s event s' out, P events outputs path s →
      path.Sound FileVersion.fingerprint → (access event).Agrees path →
      m.step s event = some (s', out) →
      P (events ++ [event]) (outputs ++ out) ((access event).mark path) s')
    {history : History (PathEvent E) O} {path : SourcePath} {s : S}
    (run : (withPath access m).Reaches (.start now, initial) history (path, s)) :
    P (callEvents history) history.outputs path s := by
  have initially : (Versions.start now).Sound FileVersion.fingerprint ∧
      P (callEvents ([] : History (PathEvent E) O)) [] (.start now) initial :=
    ⟨Versions.sound_start now, started⟩
  refine (run.invariant (P := fun history state => state.1.Sound FileVersion.fingerprint ∧
    P (callEvents history) history.outputs state.1 state.2) initially ?_).2
  rintro before ⟨path, s⟩ event ⟨path', s'⟩ out - ⟨sound, holds⟩ taken
  cases event with
  | changed version =>
      obtain ⟨next, changed, same⟩ := Option.map_eq_some_iff.mp taken
      cases same
      refine ⟨sound.change changed, ?_⟩
      rw [callEvents_changed, History.outputs_snoc,
        List.append_nil]
      exact changes _ _ _ _ _ _ holds changed
  | client event =>
      simp only [withPath] at taken
      split at taken
      · rename_i agrees
        obtain ⟨⟨next, sent⟩, moved, same⟩ := Option.map_eq_some_iff.mp taken
        cases same
        refine ⟨?_, ?_⟩
        · cases at_access : access event with
          | begins metadata => exact sound.mark
          | looks metadata => exact sound
          | reads data => exact sound
          | other => exact sound
        · rw [callEvents_client, History.outputs_snoc]
          exact steps _ _ _ _ _ _ _ holds sound agrees moved
      · cases taken

end Path

section Parts

variable {versions more : List FileVersion} {partSize : Nat} {outputs out : List Effect}

theorem CameFrom.mono {offset : Nat} {data : List UInt8} (came : CameFrom versions offset data)
    (among : versions ⊆ more) : CameFrom more offset data := by
  intro index inside
  obtain ⟨version, member, same⟩ := came index inside
  exact ⟨version, among member, same⟩

/-- A slice of what was read came from the same versions. -/
theorem CameFrom.slice {data : List UInt8} (came : CameFrom versions 0 data)
    (offset length : Nat) : CameFrom versions offset ((data.drop offset).take length) := by
  intro index inside
  rw [List.length_take, List.length_drop] at inside
  obtain ⟨version, member, same⟩ := came (offset + index) (by omega)
  refine ⟨version, member, ?_⟩
  rw [List.getElem?_take_of_lt (by omega), List.getElem?_drop]
  rwa [Nat.zero_add] at same

/-- Data of one version only is a piece of it. -/
theorem cameFrom_singleton_iff {version : FileVersion} {offset : Nat} {data : List UInt8} :
    CameFrom [version] offset data ↔ data <+: version.content.drop offset := by
  rw [List.prefix_iff_getElem?]
  constructor
  · intro came index inside
    obtain ⟨found, member, same⟩ := came index inside
    obtain rfl := List.mem_singleton.mp member
    rw [List.getElem?_drop, same, List.getElem?_eq_getElem inside]
  · intro piece index inside
    refine ⟨version, List.mem_singleton_self _, ?_⟩
    rw [← List.getElem?_drop, piece index inside, List.getElem?_eq_getElem inside]

/-- The body of every part that was sent came from these versions, at the offset of the part. -/
def SendsFrom (partSize : Nat) (versions : List FileVersion) (outputs : List Effect) : Prop :=
  ∀ address number length body,
    .send ⟨address, .uploadPart number length body⟩ ∈ outputs →
    CameFrom versions ((number - 1) * partSize) body

theorem SendsFrom.mono (sends : SendsFrom partSize versions outputs) (among : versions ⊆ more) :
    SendsFrom partSize more outputs :=
  fun address number length body member => (sends address number length body member).mono among

theorem SendsFrom.append (sends : SendsFrom partSize versions outputs)
    (new : SendsFrom partSize versions out) : SendsFrom partSize versions (outputs ++ out) := by
  intro address number length body member
  rcases List.mem_append.mp member with before | now
  · exact sends address number length body before
  · exact new address number length body now

theorem sendsFrom_of_none
    (none_sent : ∀ request, .send request ∈ out → request.operation.isUploadPart = false) :
    SendsFrom partSize versions out := by
  intro address number length body member
  cases none_sent _ member

theorem sendsFrom_nil : SendsFrom partSize versions [] :=
  sendsFrom_of_none (fun _ member => nomatch member)

theorem sendsFrom_singleton {request : Request}
    (other : request.operation.isUploadPart = false) :
    SendsFrom partSize versions [.send request] :=
  sendsFrom_of_none (no_part_in_singleton other)

/-- What a part in flight holds came from these versions. -/
def PartTask.BodyFrom (partSize : Nat) (versions : List FileVersion) (task : PartTask) : Prop :=
  match task.phase with
  | .reading => True
  | .requesting body _ | .sleeping body _ _ => CameFrom versions (task.number.index * partSize) body

theorem PartTask.BodyFrom.mono {task : PartTask} (holds : task.BodyFrom partSize versions)
    (among : versions ⊆ more) : task.BodyFrom partSize more := by
  unfold PartTask.BodyFrom at holds ⊢
  split
  · trivial
  · rename_i at_phase
    rw [at_phase] at holds
    exact holds.mono among
  · rename_i at_phase
    rw [at_phase] at holds
    exact holds.mono among

/-- What the event of a part has to do with the path. -/
def TaskEvent.access : TaskEvent → Access
  | .read (.content data) => .reads data
  | _ => .other

/-- A part that was read is a slice of what there was to read. -/
theorem readPart_slice {view : FileView} {number : PartNumber} {length : Nat}
    {body : List UInt8} (read : readPart view partSize number length = .ok body) :
    ∃ data, view = .content data ∧
      body = (data.drop (number.index * partSize)).take body.length := by
  cases view with
  | content data =>
      refine ⟨data, rfl, ?_⟩
      simp only [readPart, reduceCtorEq, if_false] at read
      split at read
      · cases read
      · split at read
        · cases read
        · rename_i capacity _
          split at read
          · rename_i filled
            cases read
            rw [filled]
            rfl
          · cases read
  | unopened => cases read
  | unseekable =>
      simp only [readPart, reduceCtorEq, if_false, if_true] at read
      split at read <;> cases read
  | unreadable =>
      simp only [readPart, reduceCtorEq, if_false] at read
      split at read
      · cases read
      · split at read <;> cases read

section Task

variable {session : PresignedMultipart} {maxAttempts : Nat} {path : SourcePath}

theorem sendsFrom_uploadPart {number : PartNumber} {body : List UInt8}
    (came : CameFrom versions (number.index * partSize) body) :
    SendsFrom partSize versions [.send (uploadPartRequest session number body)] := by
  intro address sent length other member
  rw [List.mem_singleton, uploadPartRequest, PresignedMultipart.request] at member
  cases member
  exact came

theorem PartTask.bodyFrom_step {task next : PartTask} {event : TaskEvent}
    (stepped : task.step session maxAttempts event = some (.pending next out))
    (agrees : event.access.Agrees path)
    (holds : task.BodyFrom session.plan.partSize path.since) :
    next.BodyFrom session.plan.partSize path.since ∧
      SendsFrom session.plan.partSize path.since out := by
  unfold PartTask.BodyFrom at holds
  rcases PartTask.pending_cases stepped with ⟨view, body, reading, rfl, read, rfl, rfl⟩ |
    ⟨body, attempt, random, error, delay, phase, rfl, -, rfl, rfl⟩ |
    ⟨body, attempt, delay, phase, rfl, rfl, rfl⟩
  · obtain ⟨data, rfl, slice⟩ := readPart_slice read
    have came : CameFrom path.since (task.number.index * session.plan.partSize) body := by
      rw [slice]
      exact CameFrom.slice agrees _ _
    exact ⟨came, sendsFrom_uploadPart came⟩
  · rw [phase] at holds
    exact ⟨holds, sendsFrom_nil⟩
  · rw [phase] at holds
    exact ⟨holds, sendsFrom_uploadPart holds⟩

end Task

/-- A step of the pool sends and keeps only what came from the same versions. -/
theorem Uploads.bodyFrom_onTask {transfer : Transfer} {uploads next : Uploads}
    {number : PartNumber} {event : TaskEvent} {path : SourcePath}
    (moved : uploads.onTask transfer number event = some (.running next out))
    (agrees : event.access.Agrees path)
    (holds : ∀ task ∈ uploads.inFlight, task.BodyFrom transfer.session.plan.partSize path.since) :
    (∀ task ∈ next.inFlight, task.BodyFrom transfer.session.plan.partSize path.since) ∧
      SendsFrom transfer.session.plan.partSize path.since out := by
  obtain ⟨before, task, after, shape, rfl, ⟨still, stepped, rfl⟩ | ⟨part, stepped, rfl, rfl⟩⟩ :=
    Uploads.running_cases moved
  · rw [shape, List.forall_mem_append, List.forall_mem_cons] at holds
    obtain ⟨kept, sends⟩ := PartTask.bodyFrom_step stepped agrees holds.2.1
    rw [List.forall_mem_append, List.forall_mem_cons]
    exact ⟨⟨holds.1, kept, holds.2.2⟩, sends⟩
  · rw [shape, List.forall_mem_append, List.forall_mem_cons] at holds
    rw [List.forall_mem_append]
    refine ⟨⟨holds.1, holds.2.2⟩, sendsFrom_of_none ?_⟩
    intro request member
    obtain ⟨progress, report⟩ := Uploads.progress_report member
    cases report

end Parts

section Run

variable {transfer : Transfer} {path : SourcePath} {outputs out : List Effect}

/-- What the event of `run` has to do with the path. -/
def RunEvent.access : RunEvent → Access
  | .task _ event => event.access
  | .checked metadata => .looks metadata
  | _ => .other

/-- All parts that were sent came from the version whose metadata the call took. -/
structure OneVersion (partSize : Nat) (outputs : List Effect) (path : SourcePath)
    (base : FileVersion) : Prop where
  marked : path.marked = some base
  sends : SendsFrom partSize [base] outputs

/-- The invariant of `run`: up to the check of the source, what is sent came from the versions
    there have been since the metadata was taken; after it, from that version. -/
def RunFrom (plan : MultipartPlan) (outputs : List Effect) (path : SourcePath) :
    RunState → Prop
  | .uploading _ _ uploads => SendsFrom plan.partSize path.since outputs ∧
      ∀ task ∈ uploads.inFlight, task.BodyFrom plan.partSize path.since
  | .ready | .listing _ | .checking _ _ _ => SendsFrom plan.partSize path.since outputs
  | .ending (.completing _ _ _) => ∃ base, OneVersion plan.partSize outputs path base
  | .ending (.finished (.ok result)) =>
      (∃ base, OneVersion plan.partSize outputs path base) ∧ result.fileSize = plan.fileSize
  | .ending (.finished (.error _)) => True

/-- A change of the path adds a version. -/
theorem OneVersion.changed {partSize : Nat} {next : SourcePath} {base : FileVersion}
    {version : Option FileVersion} (one : OneVersion partSize outputs path base)
    (changed : path.change FileVersion.fingerprint version = some next) :
    OneVersion partSize outputs next base :=
  ⟨Versions.marked_change changed one.marked, one.sends⟩

theorem OneVersion.append {partSize : Nat} {base : FileVersion}
    (one : OneVersion partSize outputs path base)
    (new : SendsFrom partSize [base] out) : OneVersion partSize (outputs ++ out) path base :=
  ⟨one.marked, one.sends.append new⟩

theorem RunFrom.changed {plan : MultipartPlan} {s : RunState} {next : SourcePath}
    {version : Option FileVersion} (holds : RunFrom plan outputs path s)
    (changed : path.change FileVersion.fingerprint version = some next) :
    RunFrom plan outputs next s := by
  have among : path.since ⊆ next.since := (Versions.since_prefix changed).subset
  cases s with
  | ready => exact holds.mono among
  | listing state => exact holds.mono among
  | uploading reused queue uploads =>
      exact ⟨holds.1.mono among, fun task member => (holds.2 task member).mono among⟩
  | checking manifest uploadedCount reusedCount => exact holds.mono among
  | ending ending =>
      match ending, holds with
      | .completing _ _ _, ⟨base, one⟩ => exact ⟨base, one.changed changed⟩
      | .finished (.ok _), ⟨⟨base, one⟩, size⟩ => exact ⟨⟨base, one.changed changed⟩, size⟩
      | .finished (.error _), _ => trivial

theorem afterUploads_from {reused : PartMap} {queue : List (PartNumber × Nat)}
    {uploads : Uploads} {plan : MultipartPlan}
    (holds : RunFrom plan outputs path (.uploading reused queue uploads)) :
    RunFrom plan outputs path (Transfer.afterUploads reused queue uploads) := by
  unfold Transfer.afterUploads
  split
  · exact holds.1
  · exact holds

theorem sendsFrom_progress {partSize : Nat} {versions : List FileVersion} {uploads : Uploads} :
    SendsFrom partSize versions (uploads.progress transfer) := by
  apply sendsFrom_of_none
  intro request member
  obtain ⟨progress, report⟩ := Uploads.progress_report member
  cases report

/-- Going on to the parts sends none. -/
theorem prepare_from {plan : MultipartPlan} {existing : List UploadedPart}
    (sends : SendsFrom plan.partSize path.since outputs) :
    RunFrom plan (outputs ++ (transfer.prepare existing).2) path (transfer.prepare existing).1 := by
  unfold Transfer.prepare
  split
  · trivial
  · dsimp only
    split
    · trivial
    · apply afterUploads_from
      exact ⟨sends.append sendsFrom_progress, List.forall_mem_nil _⟩

theorem sendsFrom_start {partSize : Nat} {versions : List FileVersion} (manifest : PartMap)
    (uploadedParts reusedParts : Nat) :
    SendsFrom partSize versions
      (Ending.start transfer.session manifest uploadedParts reusedParts).2 := by
  rcases Ending.start_cases transfer.session manifest uploadedParts reusedParts with
    ⟨error, shape⟩ | ⟨completion, sent, accepted, shape⟩
  · rw [shape]
    exact sendsFrom_nil
  · rw [shape]
    obtain ⟨-, rfl⟩ := PresignedMultipart.completeRequest_eq_ok_iff.mp accepted
    exact sendsFrom_singleton rfl

/-- A check of the source that passes: there has been only the one version. -/
theorem since_of_check {fingerprint : SourceFileFingerprint} {metadata : Metadata}
    {base : FileVersion} (sound : path.Sound FileVersion.fingerprint)
    (agrees : (Access.looks (some metadata)).Agrees path)
    (marked : path.marked = some base) (taken : fingerprint = base.fingerprint)
    (same : fingerprint.matchesMetadata metadata = true) : path.since = [base] := by
  rcases agrees with none_there | there
  · cases none_there
  · obtain ⟨version, now, rfl⟩ := Option.map_eq_some_iff.mp there.symm
    rw [SourceFileFingerprint.matchesMetadata, beq_iff_eq] at same
    exact sound.unchanged now marked (same.symm.trans taken)

/-- One step of `run` keeps the invariant. -/
theorem runFrom_step {fingerprint : SourceFileFingerprint} {s s' : RunState} {event : RunEvent}
    {base : FileVersion} (sound : path.Sound FileVersion.fingerprint)
    (agrees : event.access.Agrees path) (marked : path.marked = some base)
    (taken_at_start : fingerprint = base.fingerprint)
    (holds : RunFrom transfer.session.plan outputs path s)
    (taken : (transfer.runFile fingerprint).step s event = some (s', out)) :
    RunFrom transfer.session.plan (outputs ++ out) path s' := by
  cases Transfer.runStep_of_step taken with
  | list resumed => exact SendsFrom.append holds (sendsFrom_singleton rfl)
  | fresh new => exact prepare_from holds
  | unlisted failed => trivial
  | page accepted => exact SendsFrom.append holds (sendsFrom_singleton rfl)
  | lastPage accepted => exact prepare_from holds
  | start room =>
      refine ⟨holds.1.append sendsFrom_nil, ?_⟩
      rw [List.forall_mem_append, List.forall_mem_singleton]
      exact ⟨holds.2, trivial⟩
  | partFailed failed => trivial
  | part moved =>
      obtain ⟨kept, sends⟩ := Uploads.bodyFrom_onTask moved agrees holds.2
      apply afterUploads_from
      exact ⟨holds.1.append sends, kept⟩
  | changed differs => trivial
  | @unchanged manifest uploadedCount reusedCount metadata same =>
      have since := since_of_check sound agrees marked taken_at_start same
      have sends : SendsFrom transfer.session.plan.partSize path.since outputs := holds
      rw [since] at sends
      have one : OneVersion transfer.session.plan.partSize (outputs ++
          (Ending.start transfer.session manifest uploadedCount reusedCount).2) path base :=
        ⟨marked, sends.append (sendsFrom_start _ _ _)⟩
      rcases Ending.start_cases transfer.session manifest uploadedCount reusedCount with
        ⟨error, shape⟩ | ⟨completion, sent, accepted, shape⟩
      · rw [shape]
        trivial
      · rw [shape] at one ⊢
        exact ⟨base, one⟩
  | completed =>
      obtain ⟨base, one⟩ := holds
      unfold Ending.onCompleted
      split
      · trivial
      · exact ⟨⟨base, one.append sendsFrom_nil⟩, rfl⟩

end Run

end R2kit
