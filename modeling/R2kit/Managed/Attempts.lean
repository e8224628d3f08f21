import R2kit.Managed.Call
import R2kit.Managed.Reports

/-!
# How often a part is tried

A part is sent for the first time when it has been read, or has come out of the channel, and
again only after an answer that can be retried. The counter of `retry_with_policy` belongs
to the future of the part, so it says how often the part has been sent however the parts
are interleaved.
-/

namespace R2kit

open Misc

/-- Whether an effect sends this part. -/
def Effect.sendsPart (number : PartNumber) : Effect → Bool
  | .send ⟨_, .uploadPart sent _ _⟩ => sent == number.get
  | _ => false

/-- How often a part was sent. -/
def tries (number : PartNumber) (outputs : List Effect) : Nat :=
  outputs.countP (Effect.sendsPart number)

/-- Whether the event of a part is a failure that can be retried. -/
def TaskEvent.retryable : TaskEvent → Bool
  | .answered _ (.error error) => isRetryable error
  | _ => false

/-- An answer after which a part is tried again. -/
def RunEvent.failsPart (number : PartNumber) : RunEvent → Bool
  | .task named event => named == number && event.retryable
  | _ => false

/-- The same of a stream. -/
def StreamEvent.failsPart (number : PartNumber) : StreamEvent → Bool
  | .task named event => named == number && event.retryable
  | _ => false

/-- How often a part failed in a way that can be retried. -/
def failures {Event : Type} (failsPart : Event → Bool) (events : List Event) : Nat :=
  events.countP failsPart

section Counts

variable {transfer : Transfer} {number : PartNumber} {outputs out : List Effect}

theorem tries_append : tries number (outputs ++ out) = tries number outputs + tries number out :=
  List.countP_append

theorem failures_snoc {Event : Type} {failsPart : Event → Bool} {events : List Event}
    {event : Event} : failures failsPart (events ++ [event]) =
      failures failsPart events + (failsPart event).toNat := by
  rw [failures, failures, List.countP_append, List.countP_singleton]
  cases failsPart event <;> rfl

theorem tries_upload {session : PresignedMultipart} {other : PartNumber} {body : List UInt8} :
    tries number [.send (uploadPartRequest session other body)] =
      if other = number then 1 else 0 := by
  by_cases same : other = number
  · subst same
    simp [tries, Effect.sendsPart, uploadPartRequest, PresignedMultipart.request]
  · have different : other.get ≠ number.get := fun equal => same (PartNumber.ext equal)
    simp [tries, Effect.sendsPart, uploadPartRequest, PresignedMultipart.request, same, different]

/-- Outputs without an `UploadPart` send no part. -/
theorem tries_of_none
    (none_sent : ∀ request, .send request ∈ out → request.operation.isUploadPart = false) :
    tries number out = 0 := by
  rw [tries, List.countP_eq_zero]
  intro effect member sends
  unfold Effect.sendsPart at sends
  split at sends
  · cases none_sent _ member
  · cases sends

theorem tries_progress {uploads : Uploads} : tries number (uploads.progress transfer) = 0 := by
  apply tries_of_none
  intro request member
  obtain ⟨progress, report⟩ := Uploads.progress_report member
  cases report

theorem tries_start {session : PresignedMultipart} {manifest : PartMap}
    {uploadedParts reusedParts : Nat} :
    tries number (Ending.start session manifest uploadedParts reusedParts).2 = 0 := by
  rcases Ending.start_cases session manifest uploadedParts reusedParts with
    ⟨error, started⟩ | ⟨completion, request, accepted, started⟩
  · rw [started]
    rfl
  · obtain ⟨-, rfl⟩ := PresignedMultipart.completeRequest_eq_ok_iff.mp accepted
    rw [started]
    rfl

theorem tries_prepare {existing : List UploadedPart} :
    tries number (transfer.prepare existing).2 = 0 := by
  unfold Transfer.prepare
  split
  · rfl
  · split
    · exact tries_progress
    · exact tries_progress

end Counts

section Pool

variable {transfer : Transfer} {maxAttempts sent failed : Nat} {sends fails : PartNumber → Nat}
  {uploads next : Uploads} {number : PartNumber} {event : TaskEvent} {out : List Effect}

/-- The counter of a part in flight, by how often the part was sent and how often it failed. -/
def PartTask.Tallied (maxAttempts sent failed : Nat) (task : PartTask) : Prop :=
  match task.phase with
  | .reading => sent = 0 ∧ failed = 0
  | .requesting _ attempt => sent = attempt ∧ failed + 1 = attempt ∧ attempt ≤ maxAttempts
  | .sleeping _ attempt _ => sent + 1 = attempt ∧ failed + 1 = attempt ∧ attempt ≤ maxAttempts

theorem PartTask.Tallied.bounds {task : PartTask} (tallied : task.Tallied maxAttempts sent failed) :
    sent ≤ maxAttempts ∧ sent ≤ failed + 1 := by
  unfold PartTask.Tallied at tallied
  split at tallied <;> omega

/-- A part is sent again only after a failure that can be retried. -/
theorem PartTask.retryable_of_pending {session : PresignedMultipart} {task moved : PartTask}
    {body : List UInt8} {attempt random : Nat} {error : SdkError}
    (phase : task.phase = .requesting body attempt)
    (stepped : task.step session maxAttempts (.answered random (.error error)) =
      some (.pending moved out)) : isRetryable error = true := by
  simp only [PartTask.step, phase] at stepped
  split at stepped
  · cases stepped
  · rename_i delay later slept
    obtain ⟨-, -, found, same, classified⟩ := retryStep_eq_sleep slept
    cases same
    exact classified

/-- A part that stays in flight counts its own attempts, and sends no other part. -/
theorem PartTask.tallied_step {session : PresignedMultipart} {task moved : PartTask}
    (positive : 0 < maxAttempts) (tallied : task.Tallied maxAttempts sent failed)
    (stepped : task.step session maxAttempts event = some (.pending moved out)) :
    moved.Tallied maxAttempts (sent + tries task.number out) (failed + event.retryable.toNat) ∧
      ∀ other, other ≠ task.number → tries other out = 0 := by
  unfold PartTask.Tallied at tallied
  rcases PartTask.pending_cases stepped with ⟨view, body, phase, rfl, -, rfl, rfl⟩ |
    ⟨body, attempt, random, error, delay, phase, rfl, below, rfl, rfl⟩ |
    ⟨body, attempt, delay, phase, rfl, rfl, rfl⟩
  · rw [phase] at tallied
    refine ⟨?_, fun other different => by rw [tries_upload, if_neg different.symm]⟩
    rw [tries_upload, if_pos rfl]
    simp only [PartTask.Tallied, TaskEvent.retryable, Bool.toNat_false]
    omega
  · rw [phase] at tallied
    refine ⟨?_, fun other _ => rfl⟩
    have retried := PartTask.retryable_of_pending phase stepped
    simp only [PartTask.Tallied, TaskEvent.retryable, retried, Bool.toNat_true, tries,
      List.countP_nil]
    omega
  · rw [phase] at tallied
    refine ⟨?_, fun other different => by rw [tries_upload, if_neg different.symm]⟩
    rw [tries_upload, if_pos rfl]
    simp only [PartTask.Tallied, TaskEvent.retryable, Bool.toNat_false]
    omega

/-- The counters of all parts: one that is neither in flight nor uploaded was never sent. -/
structure Tally (maxAttempts : Nat) (sends fails : PartNumber → Nat) (uploads : Uploads) :
    Prop where
  flying : ∀ task ∈ uploads.inFlight,
    task.Tallied maxAttempts (sends task.number) (fails task.number)
  fresh : ∀ number, number ∉ uploads.inFlight.map PartTask.number → number ∉ uploads.numbers →
    sends number = 0 ∧ fails number = 0
  bounded : ∀ number, sends number ≤ maxAttempts ∧ sends number ≤ fails number + 1

theorem tally_start (nothing : ∀ number, sends number = 0 ∧ fails number = 0)
    (none_yet : uploads.inFlight = []) : Tally maxAttempts sends fails uploads := by
  refine ⟨?_, fun number _ _ => nothing number, ?_⟩
  · rw [none_yet]
    exact List.forall_mem_nil _
  · intro number
    obtain ⟨unsent, -⟩ := nothing number
    omega

/-- The event that ends the pool sends nothing. -/
theorem Tally.stopped (tally : Tally maxAttempts sends fails uploads) {more : PartNumber → Nat} :
    ∀ number, sends number + tries number [] ≤ maxAttempts ∧
      sends number + tries number [] ≤ fails number + more number + 1 := by
  intro number
  have before := tally.bounded number
  simp only [tries, List.countP_nil]
  omega

/-- A part that was never sent comes into flight, with its first attempt or before it. -/
theorem Tally.enter {task : PartTask} (tally : Tally maxAttempts sends fails uploads)
    (new : task.number ∉ uploads.inFlight.map PartTask.number)
    (left : task.number ∉ uploads.numbers)
    (entered : task.Tallied maxAttempts (tries task.number out) 0)
    (others : ∀ number, number ≠ task.number → tries number out = 0) :
    Tally maxAttempts (fun number => sends number + tries number out) fails
      { uploads with inFlight := uploads.inFlight ++ [task] } := by
  obtain ⟨unsent, unfailed⟩ := tally.fresh task.number new left
  constructor
  · rw [List.forall_mem_append, List.forall_mem_singleton]
    constructor
    · intro other member
      have different : other.number ≠ task.number := by
        intro same
        exact new (same ▸ List.mem_map_of_mem member)
      rw [others _ different, Nat.add_zero]
      exact tally.flying other member
    · rw [unsent, unfailed, Nat.zero_add]
      exact entered
  · intro number absent unfinished
    rw [List.map_append, List.mem_append, not_or] at absent
    have different : number ≠ task.number := by
      rintro rfl
      exact absent.2 (by simp)
    rw [others _ different]
    exact tally.fresh number absent.1 unfinished
  · intro number
    by_cases same : number = task.number
    · subst same
      rw [unsent, unfailed, Nat.zero_add]
      exact entered.bounds
    · rw [others _ same]
      exact tally.bounded number

/-- A step of the pool keeps the counters. -/
theorem Tally.onTask (positive : 0 < transfer.builder.maxAttempts)
    (tally : Tally transfer.builder.maxAttempts sends fails uploads)
    (distinct : (uploads.inFlight.map PartTask.number ++ uploads.numbers).Nodup)
    (moved : uploads.onTask transfer number event = some (.running next out)) :
    Tally transfer.builder.maxAttempts (fun other => sends other + tries other out)
      (fun other => fails other + (number == other && event.retryable).toNat) next := by
  obtain ⟨before, task, after, shape, rfl, cases⟩ := Uploads.running_cases moved
  have among : task ∈ uploads.inFlight := (Uploads.mem_inFlight_iff shape).mpr (Or.inl rfl)
  have others : ∀ other, other ∈ before ∨ other ∈ after →
      other ∈ uploads.inFlight ∧ other.number ≠ task.number := by
    intro other member
    refine ⟨(Uploads.mem_inFlight_iff shape).mpr (Or.inr member), ?_⟩
    have alone := (List.nodup_append.mp distinct).1
    rw [shape, List.map_append, List.map_cons] at alone
    have apart := (List.nodup_middle.mp alone).notMem
    intro same
    apply apart
    rw [← same, ← List.map_append]
    exact List.mem_map_of_mem (List.mem_append.mpr member)
  -- an event of one part leaves the counters of the others alone
  have unmoved : ∀ other, other ≠ task.number →
      (task.number == other && event.retryable).toNat = 0 := by
    intro other different
    simp [different.symm]
  have own : (task.number == task.number && event.retryable).toNat = event.retryable.toNat := by
    simp
  rcases cases with ⟨still, stepped, rfl⟩ | ⟨part, stepped, rfl, rfl⟩
  · obtain ⟨tallied, alone⟩ := PartTask.tallied_step positive (tally.flying task among) stepped
    obtain ⟨number_eq, -, -, -⟩ := PartTask.step_waits stepped
    have kept : ∀ other, other ∈ uploads.inFlight ∧ other.number ≠ task.number →
        other.Tallied transfer.builder.maxAttempts (sends other.number + tries other.number out)
          (fails other.number + (task.number == other.number && event.retryable).toNat) := by
      rintro other ⟨member, different⟩
      rw [alone _ different, unmoved _ different]
      exact tally.flying other member
    constructor
    · intro other member
      rcases List.mem_append.mp member with first | rest
      · exact kept other (others other (Or.inl first))
      · rcases List.mem_cons.mp rest with rfl | last
        · simp only [number_eq, own]
          exact tallied
        · exact kept other (others other (Or.inr last))
    · intro other absent unfinished
      have different : other ≠ task.number := by
        rintro rfl
        exact absent (by simp [number_eq])
      simp only [alone _ different, unmoved _ different, Nat.add_zero]
      apply tally.fresh other _ unfinished
      simpa [shape, number_eq] using absent
    · intro other
      by_cases same : other = task.number
      · subst same
        simp only [own]
        exact tallied.bounds
      · simp only [alone _ same, unmoved _ same, Nat.add_zero]
        exact tally.bounded other
  · have quiet : event.retryable = false := by
      rcases PartTask.finished_cases stepped with ⟨_, _, -, failed⟩ |
        ⟨_, _, answer, done, rfl, stopped, same⟩
      · cases failed
      · obtain ⟨-, rfl⟩ := uploadPartAnswer_eq_ok_iff.mp same.symm
        obtain rfl := retryStep_eq_done stopped
        rfl
    have named := (PartTask.step_uploaded stepped).1
    simp only [quiet, Bool.and_false, Bool.toNat_false, Nat.add_zero, tries_progress]
    constructor
    · intro other member
      exact tally.flying other (others other (List.mem_append.mp member)).1
    · intro other absent unfinished
      simp only [Uploads.numbers, List.map_append, List.map_cons, List.map_nil, List.mem_append,
        List.mem_singleton, not_or, named] at unfinished absent
      apply tally.fresh other _ unfinished.1
      simp only [shape, List.map_append, List.map_cons, List.mem_append, List.mem_cons, not_or]
      exact ⟨absent.1, unfinished.2, absent.2⟩
    · exact tally.bounded

end Pool

section Histories

variable {Event : Type} {failsPart : PartNumber → Event → Bool} {history : History Event Effect}
  {event : Event} {out : List Effect}

/-- How often each part was sent in a run. -/
def sendsIn (history : History Event Effect) (number : PartNumber) : Nat :=
  tries number history.outputs

/-- How often each part failed in a run, in a way that can be retried. -/
def failuresIn (failsPart : PartNumber → Event → Bool) (history : History Event Effect)
    (number : PartNumber) : Nat :=
  failures (failsPart number) history.events

theorem sendsIn_snoc : sendsIn (history ++ [(event, out)]) =
    fun number => sendsIn history number + tries number out := by
  funext number
  rw [sendsIn, History.outputs_snoc, tries_append]
  rfl

theorem failuresIn_snoc : failuresIn failsPart (history ++ [(event, out)]) =
    fun number => failuresIn failsPart history number + (failsPart number event).toNat := by
  funext number
  rw [failuresIn, History.events_append, History.events_singleton, failures_snoc]
  rfl

/-- No part was sent more often than allowed, or again without a failure. -/
def Restrained (maxAttempts : Nat) (failsPart : PartNumber → Event → Bool)
    (history : History Event Effect) : Prop :=
  ∀ number, sendsIn history number ≤ maxAttempts ∧
    sendsIn history number ≤ failuresIn failsPart history number + 1

/-- Nothing was sent, and nothing failed. -/
def Untried (failsPart : PartNumber → Event → Bool) (history : History Event Effect) : Prop :=
  ∀ number, sendsIn history number = 0 ∧ failuresIn failsPart history number = 0

theorem Restrained.snoc {maxAttempts : Nat} (restrained : Restrained maxAttempts failsPart history)
    (silent : ∀ number, tries number out = 0) :
    Restrained maxAttempts failsPart (history ++ [(event, out)]) := by
  intro number
  have before := restrained number
  simp only [sendsIn_snoc, failuresIn_snoc, silent number]
  omega

theorem Untried.restrained {maxAttempts : Nat} (untried : Untried failsPart history) :
    Restrained maxAttempts failsPart history := by
  intro number
  obtain ⟨unsent, -⟩ := untried number
  omega

theorem Untried.snoc (untried : Untried failsPart history) (silent : ∀ number, tries number out = 0)
    (quiet : ∀ number, failsPart number event = false) :
    Untried failsPart (history ++ [(event, out)]) := by
  intro number
  simp only [sendsIn_snoc, failuresIn_snoc, silent number, quiet number, Bool.toNat_false,
    Nat.add_zero]
  exact untried number

end Histories

section File

variable {transfer : Transfer} {history : History RunEvent Effect}

/-- The invariant of `run`. -/
def FileTally (transfer : Transfer) (history : History RunEvent Effect) : RunState → Prop
  | .ready | .listing _ => Untried RunEvent.failsPart history
  | .uploading _ _ uploads => Tally transfer.builder.maxAttempts (sendsIn history)
      (failuresIn RunEvent.failsPart history) uploads
  | .checking _ _ _ | .ending _ =>
      Restrained transfer.builder.maxAttempts RunEvent.failsPart history

theorem afterUploads_tally {reused : PartMap} {queue : List (PartNumber × Nat)}
    {uploads : Uploads} (tally : Tally transfer.builder.maxAttempts (sendsIn history)
      (failuresIn RunEvent.failsPart history) uploads) :
    FileTally transfer history (Transfer.afterUploads reused queue uploads) := by
  unfold Transfer.afterUploads
  split
  · exact tally.bounded
  · exact tally

theorem prepare_tally {existing : List UploadedPart} {event : RunEvent}
    (untried : Untried RunEvent.failsPart history)
    (quiet : ∀ number, event.failsPart number = false) :
    FileTally transfer (history ++ [(event, (transfer.prepare existing).2)])
      (transfer.prepare existing).1 := by
  have next : Untried RunEvent.failsPart (history ++ [(event, (transfer.prepare existing).2)]) :=
    untried.snoc (fun _ => tries_prepare) quiet
  generalize (transfer.prepare existing).2 = out at next ⊢
  unfold Transfer.prepare
  split
  · exact next.restrained
  · dsimp only
    split
    · exact next.restrained
    · exact afterUploads_tally (tally_start next rfl)

/-- One step of `run` keeps the counters. -/
theorem fileTally_step {fingerprint : SourceFileFingerprint} {s s' : RunState} {event : RunEvent}
    {out : List Effect} (positive : 0 < transfer.builder.maxAttempts)
    (pooled : ReportInvariant transfer history s) (holds : FileTally transfer history s)
    (taken : (transfer.runFile fingerprint).step s event = some (s', out)) :
    FileTally transfer (history ++ [(event, out)]) s' := by
  cases Transfer.runStep_of_step taken with
  | list resumed => exact Untried.snoc holds (fun _ => rfl) (fun _ => rfl)
  | fresh new => exact prepare_tally holds (fun _ => rfl)
  | unlisted failed => exact (Untried.restrained holds).snoc (fun _ => rfl)
  | page accepted => exact Untried.snoc holds (fun _ => rfl) (fun _ => rfl)
  | lastPage accepted => exact prepare_tally holds (fun _ => rfl)
  | @start reused number length queue uploads room =>
      have apart := pooled.parts.distinct
      have alone : number ∉ uploads.inFlight.map PartTask.number ∧ number ∉ uploads.numbers := by
        simp only [List.map_cons, List.nodup_append, List.nodup_cons, List.mem_append,
          List.mem_cons] at apart
        grind
      have entered : Tally transfer.builder.maxAttempts
          (fun other => sendsIn history other + tries other [])
          (failuresIn RunEvent.failsPart history)
          { uploads with inFlight := uploads.inFlight ++ [⟨number, length, .reading⟩] } :=
        Tally.enter holds alone.1 alone.2 ⟨rfl, rfl⟩ (fun _ _ => rfl)
      rw [FileTally, sendsIn_snoc, failuresIn_snoc]
      exact entered
  | partFailed failed => exact Restrained.snoc holds.bounded (fun _ => rfl)
  | @part reused queue uploads number event next out moved =>
      have apart := pooled.parts.distinct
      have alone : (uploads.inFlight.map PartTask.number ++ uploads.numbers).Nodup := by
        rw [List.nodup_append, List.nodup_append, List.nodup_append] at apart
        rw [List.nodup_append]
        grind
      apply afterUploads_tally
      rw [sendsIn_snoc, failuresIn_snoc]
      exact Tally.onTask positive holds alone moved
  | changed differs => exact Restrained.snoc holds (fun _ => rfl)
  | unchanged same => exact Restrained.snoc holds (fun _ => tries_start)
  | completed => exact Restrained.snoc holds (fun _ => rfl)

theorem fileTally_of_reaches {fingerprint : SourceFileFingerprint} {s : RunState}
    (positive : 0 < transfer.builder.maxAttempts)
    (run : (transfer.runFile fingerprint).Reaches .ready history s) :
    FileTally transfer history s := by
  have initial : FileTally transfer [] .ready := fun _ => ⟨rfl, rfl⟩
  exact run.invariant initial (fun _ _ _ _ _ before holds taken =>
    fileTally_step positive (reportInvariant_of_reaches before) holds taken)

theorem FileTally.restrained {s : RunState} (holds : FileTally transfer history s) :
    Restrained transfer.builder.maxAttempts RunEvent.failsPart history := by
  cases s with
  | ready => exact Untried.restrained holds
  | listing state => exact Untried.restrained holds
  | uploading reused queue uploads => exact holds.bounded
  | checking manifest uploadedCount reusedCount => exact holds
  | ending ending => exact holds

end File

section Stream

variable {transfer : Transfer} {content : List UInt8} {history : History StreamEvent Effect}

/-- The invariant of `run_stream`. -/
def StreamTally (transfer : Transfer) (history : History StreamEvent Effect) :
    StreamState → Prop
  | .running pipeline => Tally transfer.builder.maxAttempts (sendsIn history)
      (failuresIn StreamEvent.failsPart history) pipeline.uploads
  | .ending _ => Restrained transfer.builder.maxAttempts StreamEvent.failsPart history

/-- A buffer comes out of the channel once. -/
theorem PipelineInvariant.recv_fresh {plan : MultipartPlan} {received queue : List StreamPart}
    {reader : ReaderState} {part : StreamPart} {uploads : Uploads}
    (holds : PipelineInvariant plan content received ⟨reader, part :: queue, uploads⟩) :
    part.1 ∉ uploads.inFlight.map PartTask.number ∧ part.1 ∉ uploads.numbers := by
  obtain ⟨count, -, emitted⟩ := holds.reader.emitted_eq
  have distinct : ((received ++ part :: queue).map Prod.fst).Nodup := by
    have numbers : (received ++ part :: queue).map Prod.fst = plan.numbers.take count := by
      rw [emitted, List.map_map]
      exact List.map_id _
    rw [numbers]
    exact plan.nodup_numbers.sublist (List.take_sublist _ _)
  rw [List.map_append, List.map_cons, List.nodup_append] at distinct
  have unseen : part.1 ∉ received.map Prod.fst := by
    intro member
    exact distinct.2.2 part.1 member part.1 List.mem_cons_self rfl
  constructor
  · intro member
    exact unseen (holds.numbers.subset (List.mem_append_left _ member))
  · intro member
    exact unseen (holds.numbers.subset (List.mem_append_right _ member))

/-- One step of `run_stream` keeps the counters. -/
theorem streamTally_step {s s' : StreamState} {event : StreamEvent} {out : List Effect}
    (positive : 0 < transfer.builder.maxAttempts)
    (stream : StreamInvariant transfer content history s) (holds : StreamTally transfer history s)
    (taken : transfer.runStream.step s event = some (s', out)) :
    StreamTally transfer (history ++ [(event, out)]) s' := by
  cases Transfer.streamStep_of_step taken with
  | @reader pipeline event reader sent isOpen moved room =>
      rw [StreamTally, sendsIn_snoc, failuresIn_snoc]
      exact holds
  | @recv reader part queue uploads room =>
      obtain ⟨received, sound⟩ := stream.pipeline _ rfl
      rw [StreamTally, sendsIn_snoc, failuresIn_snoc]
      refine @Tally.enter _ _ _ _ _ (receivedTask part) holds sound.recv_fresh.1
        sound.recv_fresh.2 ?_ ?_
      · rw [tries_upload]
        exact ⟨if_pos rfl, rfl, positive⟩
      · intro number different
        rw [tries_upload]
        exact if_neg different.symm
  | partFailed failed => exact Restrained.snoc holds.bounded (fun _ => rfl)
  | @part pipeline number event uploads out moved =>
      obtain ⟨received, sound⟩ := stream.pipeline _ rfl
      have apart := sound.parts.distinct
      rw [List.nil_append, List.nodup_append_comm] at apart
      rw [StreamTally, sendsIn_snoc, failuresIn_snoc]
      exact Tally.onTask positive holds apart moved
  | @drained pipeline result joined queue_empty none_left =>
      cases result with
      | error error => exact Restrained.snoc holds.bounded (fun _ => rfl)
      | ok passed => exact Restrained.snoc holds.bounded (fun _ => tries_start)
  | completed => exact Restrained.snoc holds (fun _ => rfl)

theorem streamTally_of_reaches {s : StreamState} (positive : 0 < transfer.builder.maxAttempts)
    (run : transfer.runStream.Reaches (StreamState.start transfer.session.plan content)
      history s) : StreamTally transfer history s := by
  have initial : StreamTally transfer [] (StreamState.start transfer.session.plan content) :=
    tally_start (fun _ => ⟨rfl, rfl⟩) rfl
  exact run.invariant initial (fun _ _ _ _ _ before holds taken =>
    streamTally_step positive (streamInvariant_of_reaches before) holds taken)

theorem StreamTally.restrained {s : StreamState} (holds : StreamTally transfer history s) :
    Restrained transfer.builder.maxAttempts StreamEvent.failsPart history := by
  cases s with
  | running pipeline => exact holds.bounded
  | ending ending => exact holds

end Stream

section Call

variable {Boot S E : Type} {builder : ManagedMultipartBuilder} {entry : Entry Boot S E}
  {history : History (CallEvent Boot E) Effect}

/-- The event of the future of a call, if it is one. -/
def CallEvent.inner? : CallEvent Boot E → Option E
  | .inner event => some event
  | _ => none

/-- The same of a whole call. -/
def CallEvent.failsPart (failsPart : PartNumber → E → Bool) (number : PartNumber) :
    CallEvent Boot E → Bool
  | .inner event => failsPart number event
  | _ => false

/-- The ways in which a call comes to its session. -/
inductive Entry.Opens (entry : Entry Boot S E) (boot : Boot) : PresignedMultipart → Prop
  | resumed {session} (known : entry.start boot = .resumed session) : Opens entry boot session
  | created {request plan input answer session}
      (begun : entry.start boot = .creating request plan input)
      (made : request.created plan answer = .ok session) : Opens entry boot session

theorem Entry.Opens.passed {boot : Boot} {session : PresignedMultipart}
    (opens : entry.Opens boot session) (error : Error) : entry.start boot ≠ .failed error := by
  cases opens with
  | resumed known =>
      rw [known]
      exact nofun
  | created begun made =>
      rw [begun]
      exact nofun

/-- The run of the future of a call: it takes the inner events, and sends the parts. -/
structure Ran (entry : Entry Boot S E) (history : History (CallEvent Boot E) Effect)
    (boot : Boot) (session : PresignedMultipart) (ran : History E Effect) (inner : S) : Prop where
  opens : entry.Opens boot session
  reached : (entry.machine boot session).Reaches (entry.initial session) ran inner
  events : ran.events = history.events.filterMap CallEvent.inner?
  sends : sendsIn ran = sendsIn history

/-- Before the future of a call there are no inner events, and no parts. -/
structure Unstarted (history : History (CallEvent Boot E) Effect) : Prop where
  events : history.events.filterMap CallEvent.inner? = []
  sends : ∀ number, sendsIn history number = 0

theorem Ran.snoc {boot : Boot} {session : PresignedMultipart} {ran : History E Effect} {inner : S}
    {event : CallEvent Boot E} {out : List Effect} (past : Ran entry history boot session ran inner)
    (outside : event.inner? = none) (silent : ∀ number, tries number out = 0) :
    Ran entry (history ++ [(event, out)]) boot session ran inner := by
  refine ⟨past.opens, past.reached, ?_, ?_⟩
  · rw [past.events, History.events_append, List.filterMap_append, History.events_singleton]
    simp [outside]
  · rw [past.sends, sendsIn_snoc]
    simp [silent]

theorem Ran.inner {boot : Boot} {session : PresignedMultipart} {ran : History E Effect}
    {inner next : S} {event : E} {out more : List Effect}
    (past : Ran entry history boot session ran inner)
    (moved : (entry.machine boot session).step inner event = some (next, out))
    (silent : ∀ number, tries number more = 0) :
    Ran entry (history ++ [(.inner event, out ++ more)]) boot session (ran ++ [(event, out)])
      next := by
  refine ⟨past.opens, past.reached.snoc moved, ?_, ?_⟩
  · rw [History.events_append, past.events, History.events_append, List.filterMap_append,
      History.events_singleton, History.events_singleton]
    rfl
  · rw [sendsIn_snoc, sendsIn_snoc, past.sends]
    funext number
    rw [tries_append, silent number, Nat.add_zero]

theorem Unstarted.snoc {event : CallEvent Boot E} {out : List Effect}
    (unstarted : Unstarted history) (outside : event.inner? = none)
    (silent : ∀ number, tries number out = 0) : Unstarted (history ++ [(event, out)]) := by
  constructor
  · rw [History.events_append, List.filterMap_append, unstarted.events, History.events_singleton]
    simp [outside]
  · intro number
    simp only [sendsIn_snoc, unstarted.sends number, silent number]

theorem Unstarted.starts {event : CallEvent Boot E} {out : List Effect} {boot : Boot}
    {session : PresignedMultipart} (unstarted : Unstarted (history ++ [(event, out)]))
    (opens : entry.Opens boot session) :
    Ran entry (history ++ [(event, out)]) boot session [] (entry.initial session) := by
  refine ⟨opens, .refl, unstarted.events.symm, ?_⟩
  funext number
  rw [unstarted.sends number]
  rfl

/-- What a call knows of its future. -/
def Knows (entry : Entry Boot S E) (history : History (CallEvent Boot E) Effect) :
    CallState Boot S → Prop
  | .ready => Unstarted history
  | .creating boot request plan => Unstarted history ∧
      ∃ input, entry.start boot = .creating request plan input
  | .running boot session inner => ∃ ran, Ran entry history boot session ran inner
  | .aborting _ _ | .returned _ | .panicked _ => Unstarted history ∨
      ∃ boot session ran inner, Ran entry history boot session ran inner

theorem afterStartError_knows {session : PresignedMultipart} {error : Error}
    {state : CallState Boot S} {sent : List Effect}
    (left : afterStartError builder session error = (state, sent)) :
    (∀ number, tries number sent = 0) ∧ ∀ past : History (CallEvent Boot E) Effect,
      (∃ boot session ran inner, Ran entry past boot session ran inner) →
        Knows entry past state := by
  unfold afterStartError at left
  split at left
  · cases left
    exact ⟨fun _ => rfl, fun _ ran => Or.inr ran⟩
  · cases left
    exact ⟨fun _ => rfl, fun _ ran => Or.inr ran⟩

theorem settle_knows {session : PresignedMultipart} {result : Outcome ManagedUploadResult}
    {state : CallState Boot S} {sent : List Effect}
    (left : settle builder session result = (state, sent)) :
    (∀ number, tries number sent = 0) ∧ ∀ past : History (CallEvent Boot E) Effect,
      (∃ boot session ran inner, Ran entry past boot session ran inner) →
        Knows entry past state := by
  unfold settle at left
  split at left
  · cases left
    exact ⟨fun _ => rfl, fun _ ran => Or.inr ran⟩
  · cases left
    exact ⟨fun _ => rfl, fun _ ran => Or.inr ran⟩
  · exact afterStartError_knows left

theorem knows_step {s s' : CallState Boot S} {event : CallEvent Boot E} {out : List Effect}
    (knows : Knows entry history s)
    (taken : (managedCall builder entry).step s event = some (s', out)) :
    Knows entry (history ++ [(event, out)]) s' := by
  cases callStep_of_step taken with
  | failed failed => exact Or.inl (Unstarted.snoc knows rfl (fun _ => rfl))
  | create new =>
      exact ⟨Unstarted.snoc knows rfl (fun _ => rfl), _, new⟩
  | resume resumed =>
      exact ⟨_, (Unstarted.snoc knows rfl (fun _ => rfl)).starts (.resumed resumed)⟩
  | uncreated failed => exact Or.inl (knows.1.snoc rfl (fun _ => rfl))
  | created made =>
      obtain ⟨unstarted, input, begun⟩ := knows
      exact ⟨_, (unstarted.snoc rfl (fun _ => rfl)).starts (.created begun made)⟩
  | @inner _ _ _ event _ out moved unsettled =>
      obtain ⟨ran, past⟩ := knows
      have grown : Ran entry _ _ _ _ _ :=
        past.inner moved (fun number => show tries number [] = 0 from rfl)
      rw [List.append_nil] at grown
      exact ⟨_, grown⟩
  | settled moved finished left =>
      obtain ⟨ran, past⟩ := knows
      obtain ⟨silent, after⟩ := @settle_knows _ _ _ _ entry _ _ _ _ left
      exact after _ ⟨_, _, _, _, past.inner moved silent⟩
  | cancelled token left =>
      obtain ⟨ran, past⟩ := knows
      obtain ⟨silent, after⟩ := @afterStartError_knows _ _ _ _ entry _ _ _ _ left
      exact after _ ⟨_, _, _, _, past.snoc rfl silent⟩
  | aborted =>
      rcases knows with unstarted | ⟨boot, session, ran, inner, past⟩
      · exact Or.inl (unstarted.snoc rfl (fun _ => rfl))
      · exact Or.inr ⟨boot, session, ran, inner, past.snoc rfl (fun _ => rfl)⟩

theorem knows_of_reaches {s : CallState Boot S}
    (run : (managedCall builder entry).Reaches .ready history s) : Knows entry history s := by
  have initial : Knows entry [] .ready := ⟨rfl, fun _ => rfl⟩
  exact run.invariant initial (fun _ _ _ _ _ _ knows taken => knows_step knows taken)

/-- Only inner events are failures of parts. -/
theorem failures_inner {failsPart : PartNumber → E → Bool} {number : PartNumber}
    {events : List (CallEvent Boot E)} :
    failures (CallEvent.failsPart failsPart number) events =
      failures (failsPart number) (events.filterMap CallEvent.inner?) := by
  induction events with
  | nil => rfl
  | cons event rest ih =>
      have split_first : failures (CallEvent.failsPart failsPart number) (event :: rest) =
          failures (CallEvent.failsPart failsPart number) rest +
            if CallEvent.failsPart failsPart number event then 1 else 0 := List.countP_cons
      rw [split_first, ih]
      cases event with
      | inner event =>
          rw [List.filterMap_cons_some (show CallEvent.inner? (.inner event) = some event from rfl)]
          exact (List.countP_cons).symm
      | poll boot => rfl
      | created answer => rfl
      | cancelled => rfl
      | aborted answer => rfl

/-- What holds of every run of the future of a call holds of the call. -/
theorem restrained_of_ran {failsPart : PartNumber → E → Bool} {s : CallState Boot S}
    (inside : ∀ boot session ran inner, entry.Opens boot session →
      (entry.machine boot session).Reaches (entry.initial session) ran inner →
      Restrained builder.maxAttempts failsPart ran)
    (run : (managedCall builder entry).Reaches .ready history s) :
    Restrained builder.maxAttempts (CallEvent.failsPart failsPart) history := by
  have either : Unstarted history ∨ ∃ boot session ran inner,
      Ran entry history boot session ran inner := by
    have knows := knows_of_reaches run
    cases s with
    | ready => exact Or.inl knows
    | creating boot request plan => exact Or.inl knows.1
    | running boot session inner =>
        obtain ⟨ran, past⟩ := knows
        exact Or.inr ⟨boot, session, ran, inner, past⟩
    | aborting session error => exact knows
    | returned result => exact knows
    | panicked site => exact knows
  intro number
  rcases either with unstarted | ⟨boot, session, ran, inner, past⟩
  · rw [unstarted.sends number]
    omega
  · have within := inside boot session ran inner past.opens past.reached number
    rwa [failuresIn, past.events, ← failures_inner, past.sends] at within

/-- In every run of a call of `upload_file` or `upload_stream`, at every moment: each part has
    been sent at most `max_attempts` times, and again only after a failure that can be
    retried. -/
theorem parts_tried_at_most (crates : Crates) (builder : ManagedMultipartBuilder) :
    (∀ history s,
      (managedCall builder (uploadFile crates builder)).Reaches .ready history s →
      Restrained builder.maxAttempts (CallEvent.failsPart RunEvent.failsPart) history) ∧
    ∀ content fileSize history s,
      (managedCall builder (uploadStream crates builder content fileSize)).Reaches .ready
        history s →
      Restrained builder.maxAttempts (CallEvent.failsPart StreamEvent.failsPart) history := by
  have positive : builder.validate crates = .ok () → 0 < builder.maxAttempts := by
    intro valid
    obtain ⟨-, limits, -⟩ := ManagedMultipartBuilder.validate_ok_iff.mp valid
    exact (ManagedMultipartBuilder.validateLimits_ok_iff.mp limits).2.1.1
  constructor
  · intro history s run
    apply restrained_of_ran _ run
    intro boot session ran inner opens reached
    obtain ⟨file, valid, -⟩ := ManagedMultipartBuilder.reaches_of_beginFile opens.passed
    have tally : FileTally ⟨builder, session⟩ ran inner :=
      fileTally_of_reaches (positive valid) reached
    exact tally.restrained
  · intro content fileSize history s run
    apply restrained_of_ran _ run
    intro boot session ran inner opens reached
    obtain ⟨valid, -⟩ := ManagedMultipartBuilder.new_of_beginStream opens.passed
    have tally : StreamTally ⟨builder, session⟩ ran inner :=
      streamTally_of_reaches (positive valid) reached
    exact tally.restrained

end Call

end R2kit
