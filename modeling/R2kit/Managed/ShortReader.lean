import R2kit.Managed.PartsSent

/-!
# Readers that end early

A call to `upload_stream` over a reader that delivers less than it said. Whatever the order
in which reader, channel and uploads go on, the call goes on until it has returned an error:
every step leaves less to do, and no state but the error is stuck.
-/

namespace R2kit

open Misc

section Work

variable {transfer : Transfer} {content : List UInt8} {maxAttempts : Nat}

/-- What a part in flight has still to do, in steps. -/
def PartTask.work (maxAttempts : Nat) (task : PartTask) : Nat :=
  match task.phase with
  | .reading => 2 * maxAttempts + 2
  | .requesting _ attempt => 2 * (maxAttempts - attempt) + 1
  | .sleeping _ attempt _ => 2 * (maxAttempts - attempt) + 2

theorem PartTask.work_pos (task : PartTask) : 0 < task.work maxAttempts := by
  unfold PartTask.work
  split <;> omega

theorem PartTask.step_work {session : PresignedMultipart} {task next : PartTask}
    {event : TaskEvent} {out : List Effect}
    (stepped : task.step session maxAttempts event = some (.pending next out)) :
    next.work maxAttempts < task.work maxAttempts := by
  unfold PartTask.work
  rcases PartTask.pending_cases stepped with ⟨_, _, phase, -, -, rfl, -⟩ |
    ⟨_, attempt, _, _, _, phase, -, below, rfl, -⟩ | ⟨_, _, _, phase, -, rfl, -⟩
  · simp only [phase]
    omega
  · simp only [phase]
    omega
  · simp only [phase]
    omega

/-- The steps left to all parts in flight. -/
def Uploads.work (maxAttempts : Nat) (uploads : Uploads) : Nat :=
  (uploads.inFlight.map (PartTask.work maxAttempts)).sum

/-- A step of the pool leaves less to do. -/
theorem Uploads.onTask_work {uploads next : Uploads} {number : PartNumber} {event : TaskEvent}
    {out : List Effect}
    (taken : uploads.onTask transfer number event = some (.running next out)) :
    next.work transfer.builder.maxAttempts < uploads.work transfer.builder.maxAttempts := by
  obtain ⟨before, task, after, shape, -, ⟨moved, stepped, rfl⟩ | ⟨part, -, rfl, -⟩⟩ :=
    Uploads.running_cases taken
  · have less := PartTask.step_work stepped
    simp only [Uploads.work, shape, List.map_append, List.map_cons, List.sum_append,
      List.sum_cons]
    omega
  · have positive := @PartTask.work_pos transfer.builder.maxAttempts task
    simp only [Uploads.work, shape, List.map_append, List.map_cons, List.sum_append,
      List.sum_cons]
    omega

/-- A buffer is more work in the channel than in flight, and more in the reader than in the
    channel. -/
def Pipeline.work (maxAttempts : Nat) (pipeline : Pipeline) : Nat :=
  (2 * maxAttempts + 3) * pipeline.reader.work + (2 * maxAttempts + 2) * pipeline.queue.length +
    pipeline.uploads.work maxAttempts

/-- The steps left to `run_stream` at most. -/
def StreamState.work (maxAttempts : Nat) : StreamState → Nat
  | .running pipeline => pipeline.work maxAttempts + 2
  | .ending (.completing _ _ _) => 1
  | .ending (.finished _) => 0

theorem StreamState.work_ending (ending : Ending) :
    StreamState.work maxAttempts (.ending ending) ≤ 1 := by
  cases ending <;> simp [StreamState.work]

/-- One turn of the reader task puts at most one buffer into the channel. -/
theorem readerLoop_length_le {plan : MultipartPlan} {state next : ReaderState}
    {event : ReaderEvent} {out : List StreamPart}
    (taken : (readerLoop plan).step state event = some (next, out)) : out.length ≤ 1 := by
  cases readerStep_of_step taken <;> simp

/-- Every step of `run_stream` leaves less to do. -/
theorem runStream_work {history : History StreamEvent Effect} {s s' : StreamState}
    {event : StreamEvent} {out : List Effect}
    (holds : StreamInvariant transfer content history s)
    (taken : transfer.runStream.step s event = some (s', out)) :
    s'.work transfer.builder.maxAttempts < s.work transfer.builder.maxAttempts := by
  cases Transfer.streamStep_of_step taken with
  | @reader pipeline event reader sent isOpen moved room =>
      obtain ⟨received, sound⟩ := holds.pipeline _ rfl
      have less := readerLoop_work sound.reader moved
      have most := readerLoop_length_le moved
      have scaled := Nat.mul_le_mul_left (2 * transfer.builder.maxAttempts + 3) less
      have queued := Nat.mul_le_mul_left (2 * transfer.builder.maxAttempts + 2) most
      simp only [Nat.mul_succ] at scaled
      simp only [StreamState.work, Pipeline.work, List.length_append, Nat.mul_add]
      omega
  | @recv reader part queue uploads room =>
      simp only [StreamState.work, Pipeline.work, Uploads.work, List.map_append, List.map_cons,
        List.map_nil, List.sum_append, List.sum_cons, List.sum_nil, List.length_cons,
        Nat.mul_succ, PartTask.work, receivedTask]
      omega
  | partFailed failed =>
      simp only [StreamState.failed, StreamState.work]
      omega
  | part moved =>
      have less := Uploads.onTask_work moved
      simp only [StreamState.work, Pipeline.work]
      omega
  | @drained pipeline result joined queue_empty none_left =>
      have ends : (transfer.join result pipeline.uploads).1.work
          transfer.builder.maxAttempts ≤ 1 := by
        cases result with
        | error error => exact StreamState.work_ending _
        | ok passed => exact StreamState.work_ending _
      simp only [StreamState.work] at ends ⊢
      omega
  | @completed request uploadedParts reusedParts answer =>
      cases answer <;> simp [StreamState.work, Ending.onCompleted,
        PresignedMultipart.completeAnswer]

/-- A part with its buffer always has something to wait for. -/
theorem Uploads.goes_on {uploads : Uploads} {task : PartTask} {rest : List PartTask}
    (shape : uploads.inFlight = task :: rest) (buffered : task.phase ≠ .reading) :
    ∃ event step, uploads.onTask transfer task.number event = some step := by
  have accepted : ∃ event outcome,
      task.step transfer.session transfer.builder.maxAttempts event = some outcome := by
    cases phase : task.phase with
    | reading => exact absurd phase buffered
    | requesting body attempt =>
        refine ⟨.answered 0 (.ok none), .finished (uploadPartAnswer task.number (.ok none)), ?_⟩
        simp only [PartTask.step, phase, retryStep]
    | sleeping body attempt delay =>
        exact ⟨.woken, _, by simp only [PartTask.step, phase]; rfl⟩
  obtain ⟨event, outcome, stepped⟩ := accepted
  exact ⟨event, Uploads.onTask_head shape stepped⟩

end Work

section Call

variable {crates : Crates} {builder : ManagedMultipartBuilder} {content : List UInt8}
  {fileSize : Nat}

/-- The work of a whole pipeline before anything has been read. -/
def startWork (maxAttempts fileSize : Nat) : Nat :=
  (2 * maxAttempts + 3) * (3 * fileSize + 1) + 2

theorem work_start (maxAttempts : Nat) (plan : MultipartPlan) :
    (StreamState.start plan content).work maxAttempts = startWork maxAttempts plan.fileSize :=
  rfl

/-- The steps left to a call of `upload_stream` at most. -/
def callWork (builder : ManagedMultipartBuilder) (fileSize : Nat) :
    CallState Bool StreamState → Nat
  | .ready => startWork builder.maxAttempts fileSize + 4
  | .creating _ _ plan => startWork builder.maxAttempts plan.fileSize + 3
  | .running _ _ inner => inner.work builder.maxAttempts + 2
  | .aborting _ _ => 1
  | .returned _ => 0
  | .panicked _ => 0

/-- The invariant of a call over a reader that ends early. -/
def ShortCall (builder : ManagedMultipartBuilder) (content : List UInt8) (fileSize : Nat) :
    CallState Bool StreamState → Prop
  | .ready => True
  | .creating _ _ plan => plan.fileSize = fileSize ∧ 0 < builder.concurrency
  | .running _ session inner => session.plan.fileSize = fileSize ∧ 0 < builder.concurrency ∧
      (∃ pipeline, inner = .running pipeline) ∧
      ∃ history, (Transfer.mk builder session).runStream.Reaches
        (StreamState.start session.plan content) history inner
  | .aborting _ _ => True
  | .returned (.ok _) => False
  | .returned (.error _) => True
  | .panicked _ => False

/-- After an error the call is as good as over. -/
theorem shortCall_afterStartError {session : PresignedMultipart} {error : Error}
    {state : CallState Bool StreamState} {sent : List Effect}
    (left : afterStartError builder session error = (state, sent)) :
    ShortCall builder content fileSize state ∧ Uncompleted sent ∧
      callWork builder fileSize state ≤ 1 := by
  unfold afterStartError at left
  split at left
  · cases left
    refine ⟨trivial, ?_, Nat.le_refl 1⟩
    exact List.forall_mem_singleton.mpr rfl
  · cases left
    exact ⟨trivial, uncompleted_nil, Nat.zero_le 1⟩

/-- What is sent over a short reader are parts. -/
theorem StreamInvariant.uncompleted {transfer : Transfer}
    {history : History StreamEvent Effect} {s : StreamState} {event : StreamEvent}
    {out : List Effect}
    (holds : StreamInvariant transfer content (history ++ [(event, out)]) s)
    (short : content.length < transfer.session.plan.fileSize) : Uncompleted out := by
  intro effect member
  unfold Effect.isCompletion
  split
  · rename_i address parts
    have upload := (holds.short short).1 ⟨address, .completeMultipartUpload parts⟩ (by
      rw [History.outputs_snoc]
      exact List.mem_append_right _ member)
    cases upload
  · rfl

theorem beginStream_creating {cancelled : Bool} {request : PresignedMultipartBuilder}
    {plan : MultipartPlan} {input : CreateMultipartUploadInput}
    (begun : builder.beginStream crates fileSize cancelled = .creating request plan input) :
    plan.fileSize = fileSize ∧ 0 < builder.concurrency := by
  have passed : ∀ error, builder.beginStream crates fileSize cancelled ≠ .failed error := by
    rw [begun]
    simp
  obtain ⟨valid, active, fresh⟩ := ManagedMultipartBuilder.new_of_beginStream passed
  rw [ManagedMultipartBuilder.beginStream_of_new valid active fresh] at begun
  obtain ⟨-, -, size, -⟩ := ManagedMultipartBuilder.request_of_beginNew begun
  refine ⟨size, Nat.pos_of_ne_zero ?_⟩
  intro zero
  have limits := (ManagedMultipartBuilder.validate_ok_iff.mp valid).2.1
  rw [ManagedMultipartBuilder.validateLimits, if_pos (Or.inl zero)] at limits
  cases limits

theorem beginStream_ne_resumed {cancelled : Bool} {session : PresignedMultipart} :
    builder.beginStream crates fileSize cancelled ≠ .resumed session := by
  intro begun
  have passed : ∀ error, builder.beginStream crates fileSize cancelled ≠ .failed error := by
    rw [begun]
    simp
  obtain ⟨valid, active, fresh⟩ := ManagedMultipartBuilder.new_of_beginStream passed
  rw [ManagedMultipartBuilder.beginStream_of_new valid active fresh] at begun
  exact ManagedMultipartBuilder.beginNew_ne_resumed begun

end Call

section Summary

end Summary

end R2kit
