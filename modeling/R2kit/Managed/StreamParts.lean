import R2kit.Managed.Accounting
import R2kit.Managed.RunStream

/-!
# The parts of a stream

The invariant of the pipeline: what the reader task has emitted are the first parts of the
plan, and each of them is in the channel, in flight or uploaded. So the streaming path
sends the parts that the file path would read, and a reader that ends early never leads to
a completion.
-/

namespace R2kit

open Misc

section Invariant

variable {transfer : Transfer} {content : List UInt8} {history : History StreamEvent Effect}

/-- A buffer in flight is the part of its number. -/
structure Streamed (plan : MultipartPlan) (content : List UInt8) (task : PartTask) : Prop where
  buffered : task.phase ≠ .reading
  holds : task.Holds (fun number => (streamPart plan content number).2)
  length_eq : task.length = (streamPart plan content task.number).2.length

/-- The invariant of the pipeline; `received` is what has left the channel. -/
structure PipelineInvariant (plan : MultipartPlan) (content : List UInt8)
    (received : List StreamPart) (pipeline : Pipeline) : Prop where
  reader : ReaderInvariant plan content (received ++ pipeline.queue) pipeline.reader
  numbers : (pipeline.uploads.inFlight.map PartTask.number ++
    pipeline.uploads.uploaded.map UploadedPart.partNumber).Perm (received.map Prod.fst)
  tasks : ∀ task ∈ pipeline.uploads.inFlight, Streamed plan content task

/-- What is emitted are the first parts of the plan. -/
theorem ReaderInvariant.emitted_eq {plan : MultipartPlan} {emitted : List StreamPart}
    {state : ReaderState} (holds : ReaderInvariant plan content emitted state) :
    ∃ count, count ≤ plan.partCount ∧
      emitted = (plan.numbers.take count).map (streamPart plan content) := by
  obtain ⟨⟨count, planned, -, -, same, -⟩, -⟩ := holds
  exact ⟨count, planned, same⟩

theorem ReaderInvariant.part_of_mem {plan : MultipartPlan} {emitted : List StreamPart}
    {state : ReaderState} (holds : ReaderInvariant plan content emitted state)
    {part : StreamPart} (member : part ∈ emitted) :
    part.1 ∈ plan.numbers ∧ part = streamPart plan content part.1 := by
  obtain ⟨count, -, rfl⟩ := holds.emitted_eq
  obtain ⟨number, among, rfl⟩ := List.mem_map.mp member
  exact ⟨List.mem_of_mem_take among, rfl⟩

theorem pipelineInvariant_start {plan : MultipartPlan} :
    PipelineInvariant plan content [] (Pipeline.start plan content) := by
  refine ⟨readerInvariant_start, .refl _, ?_⟩
  exact List.forall_mem_nil _

/-- A step of the parts in flight keeps the invariant. -/
theorem PipelineInvariant.part {received : List StreamPart} {pipeline : Pipeline}
    {number : PartNumber} {event : TaskEvent} {next : Uploads} {out : List Effect}
    (holds : PipelineInvariant transfer.session.plan content received pipeline)
    (moved : pipeline.uploads.onTask transfer number event = some (.running next out)) :
    PipelineInvariant transfer.session.plan content received { pipeline with uploads := next } ∧
      Uploads.Advances transfer (fun number => (streamPart transfer.session.plan content number).2)
        number event pipeline.uploads next out := by
  have advances := Uploads.onTask_advances moved
    (fun task member => (holds.tasks task member).holds)
    (fun task member reading => absurd reading (holds.tasks task member).buffered)
  refine ⟨⟨holds.reader, advances.numbers.trans holds.numbers, ?_⟩, advances⟩
  intro task member
  obtain ⟨old, among, number_eq, length_eq, buffered⟩ := advances.tasks task member
  have was := holds.tasks old among
  refine ⟨buffered was.buffered, advances.holds task member, ?_⟩
  rw [← number_eq, ← length_eq]
  exact was.length_eq

/-- A buffer leaves the channel and becomes a part in flight. -/
theorem PipelineInvariant.recv {plan : MultipartPlan} {received queue : List StreamPart}
    {reader : ReaderState} {part : StreamPart} {uploads : Uploads}
    (holds : PipelineInvariant plan content received ⟨reader, part :: queue, uploads⟩) :
    PipelineInvariant plan content (received ++ [part]) ⟨reader, queue,
      { uploads with inFlight := uploads.inFlight ++ [receivedTask part] }⟩ := by
  have is_part := holds.reader.part_of_mem
    (List.mem_append_right received (List.mem_cons_self (a := part)))
  refine ⟨?_, ?_, ?_⟩
  · rw [List.append_assoc]
    exact holds.reader
  · simp only [List.map_append, List.map_cons, List.map_nil]
    refine List.Perm.trans ?_ (holds.numbers.append_right _)
    simp only [List.append_assoc]
    apply List.Perm.append_left
    exact List.perm_append_comm
  · intro task member
    rcases List.mem_append.mp member with before | new
    · exact holds.tasks task before
    · rw [List.mem_singleton] at new
      rw [new]
      have body : part.2 = (streamPart plan content part.1).2 := congrArg Prod.snd is_part.2
      exact ⟨by simp [receivedTask], body, congrArg List.length body⟩

/-- The task has returned without an error only if the reader delivered the whole file. -/
theorem ReaderInvariant.length_le {plan : MultipartPlan} {emitted : List StreamPart}
    {state : ReaderState} (holds : ReaderInvariant plan content emitted state)
    (returned : state.phase = .returned (.ok ())) : plan.fileSize ≤ content.length := by
  obtain ⟨⟨count, -, -, -, -, phase⟩, delivered⟩ := holds
  simp only [PhaseInvariant, returned] at phase
  omega

/-- When the task has returned without an error, every part is out. -/
theorem ReaderInvariant.emitted_all {plan : MultipartPlan} {emitted : List StreamPart}
    {state : ReaderState} (holds : ReaderInvariant plan content emitted state)
    (returned : state.phase = .returned (.ok ())) :
    emitted = plan.numbers.map (streamPart plan content) := by
  obtain ⟨⟨count, planned, -, left, rfl, phase⟩, -⟩ := holds
  simp only [PhaseInvariant, returned] at phase
  have all : plan.partCount ≤ count := by
    rw [plan.partCount_eq, ceilDiv_le_iff_le_mul plan.partSize_pos, Nat.mul_comm]
    omega
  rw [List.take_of_length_le (by rwa [plan.length_numbers])]

/-- Once the channel is empty and nothing is in flight, every part is uploaded. -/
theorem PipelineInvariant.uploaded_all {plan : MultipartPlan} {received : List StreamPart}
    {pipeline : Pipeline} (holds : PipelineInvariant plan content received pipeline)
    (returned : pipeline.reader.phase = .returned (.ok ())) (queue_empty : pipeline.queue = [])
    (none_left : pipeline.uploads.inFlight = []) :
    (pipeline.uploads.uploaded.map UploadedPart.partNumber).Perm plan.numbers := by
  have emitted := holds.reader.emitted_all returned
  rw [queue_empty, List.append_nil] at emitted
  have numbers := holds.numbers
  rw [none_left, emitted, List.map_map] at numbers
  have same : Prod.fst ∘ streamPart plan content = id := rfl
  rwa [same, List.map_id, List.map_nil, List.nil_append] at numbers

/-- The invariant of `run_stream`. With a reader that ends early, nothing but parts is sent
    and the only way to end is an error. -/
structure StreamInvariant (transfer : Transfer) (content : List UInt8)
    (history : History StreamEvent Effect) (s : StreamState) : Prop where
  sends : SendsSlices transfer.session (content.take transfer.session.plan.fileSize)
    transfer.session.plan.numbers history.outputs
  pipeline : ∀ pipeline, s = .running pipeline →
    ∃ received, PipelineInvariant transfer.session.plan content received pipeline
  short : content.length < transfer.session.plan.fileSize →
    (∀ request, .send request ∈ history.outputs → request.operation.isUploadPart = true) ∧
      ∀ ending, s = .ending ending → ∃ error, ending = .finished (.error (.error error))

theorem streamInvariant_start :
    StreamInvariant transfer content [] (StreamState.start transfer.session.plan content) := by
  refine ⟨sendsSlices_nil _, ?_, ?_⟩
  · rintro pipeline ⟨⟩
    exact ⟨[], pipelineInvariant_start⟩
  · rintro -
    exact ⟨fun request member => absurd member List.not_mem_nil, fun ending other => nomatch other⟩

/-- A step that sends parts of the plan and leaves the pipeline running. -/
theorem StreamInvariant.running {s : StreamState} {pipeline : Pipeline} {event : StreamEvent}
    {out : List Effect} {received : List StreamPart}
    (holds : StreamInvariant transfer content history s)
    (sound : PipelineInvariant transfer.session.plan content received pipeline)
    (sends : ∀ effect ∈ out, (∃ progress, effect = .report progress) ∨
      ∃ number ∈ transfer.session.plan.numbers, effect =
        .send (uploadPartRequest transfer.session number
          (streamPart transfer.session.plan content number).2)) :
    StreamInvariant transfer content (history ++ [(event, out)]) (.running pipeline) := by
  constructor
  · rw [History.outputs_snoc]
    refine holds.sends.append (fun number member => member) ?_
    intro request member upload
    rcases sends _ member with ⟨progress, report⟩ | ⟨number, planned, same⟩
    · cases report
    · rw [Effect.send.injEq] at same
      exact ⟨number, planned, same⟩
  · rintro other ⟨⟩
    exact ⟨received, sound⟩
  · intro short
    refine ⟨?_, fun ending other => nomatch other⟩
    intro request member
    rcases History.mem_outputs_snoc.mp member with before | now
    · exact (holds.short short).1 request before
    · rcases sends _ now with ⟨progress, report⟩ | ⟨number, planned, same⟩
      · cases report
      · rw [Effect.send.injEq] at same
        rw [same]
        rfl

/-- A step to the end that sends nothing. -/
theorem StreamInvariant.failed {s : StreamState} {event : StreamEvent} {error : Error}
    (holds : StreamInvariant transfer content history s) :
    StreamInvariant transfer content (history ++ [(event, [])]) (.failed error) := by
  have same : History.outputs (history ++ [(event, ([] : List Effect))]) = history.outputs := by
    simp
  constructor
  · rw [same]
    exact holds.sends
  · exact fun pipeline other => nomatch other
  · intro short
    rw [same]
    refine ⟨(holds.short short).1, ?_⟩
    rintro ending ⟨⟩
    exact ⟨error, rfl⟩

/-- One step of `run_stream` keeps the invariant. -/
theorem streamInvariant_step {s s' : StreamState} {event : StreamEvent} {out : List Effect}
    (holds : StreamInvariant transfer content history s)
    (taken : transfer.runStream.step s event = some (s', out)) :
    StreamInvariant transfer content (history ++ [(event, out)]) s' := by
  cases Transfer.streamStep_of_step taken with
  | @reader pipeline event reader sent isOpen moved room =>
      obtain ⟨received, sound⟩ := holds.pipeline _ rfl
      refine @StreamInvariant.running _ _ _ _ _ _ _ received holds
        ⟨?_, sound.numbers, sound.tasks⟩ (by simp)
      rw [← List.append_assoc]
      exact readerInvariant_step isOpen sound.reader moved
  | @recv reader part queue uploads room =>
      obtain ⟨received, sound⟩ := holds.pipeline _ rfl
      apply holds.running sound.recv
      intro effect member
      obtain ⟨planned, same⟩ := sound.reader.part_of_mem
        (List.mem_append_right received (List.mem_cons_self (a := part)))
      rw [List.mem_singleton] at member
      refine Or.inr ⟨part.1, planned, ?_⟩
      rw [member, ← congrArg Prod.snd same]
  | partFailed failed => exact holds.failed
  | part moved =>
      obtain ⟨received, sound⟩ := holds.pipeline _ rfl
      obtain ⟨next, advances⟩ := sound.part moved
      apply holds.running next
      intro effect member
      rcases advances.sends effect member with report | ⟨task, among, same⟩
      · exact Or.inl report
      · refine Or.inr ⟨task.number, ?_, same⟩
        have number_received := sound.numbers.subset
          (List.mem_append_left _ (List.mem_map_of_mem among))
        obtain ⟨part, was_received, named⟩ := List.mem_map.mp number_received
        rw [← named]
        exact (sound.reader.part_of_mem (List.mem_append_left _ was_received)).1
  | @drained pipeline result joined queue_empty none_left =>
      obtain ⟨received, sound⟩ := holds.pipeline _ rfl
      cases result with
      | error error => exact holds.failed
      | ok passed =>
          constructor
          · rw [History.outputs_snoc]
            exact holds.sends.append (fun number member => member) (sendsSlices_start _ _ _)
          · exact fun other running => nomatch running
          · intro short
            exact absurd short (Nat.not_lt.mpr (sound.reader.length_le joined))
  | completed =>
      constructor
      · rw [History.outputs_snoc, List.append_nil]
        exact holds.sends
      · exact fun other running => nomatch running
      · intro short
        obtain ⟨error, other⟩ := (holds.short short).2 _ rfl
        cases other

theorem streamInvariant_of_reaches {s : StreamState}
    (run : transfer.runStream.Reaches (StreamState.start transfer.session.plan content)
      history s) : StreamInvariant transfer content history s :=
  run.invariant streamInvariant_start (fun _ _ _ _ _ _ holds taken =>
    streamInvariant_step holds taken)

end Invariant

end R2kit
