import R2kit.Managed.StreamParts

/-!
# The memory a streaming upload holds

Part buffers are held by the reader task, by the channel and by the parts in flight. With
`concurrency` parts in flight and the channel full, the task holds one buffer more, and
these are more bytes than `max_buffered_bytes` whatever the budget is. So the budget is
kept exactly when the reader never gets to allocate more than that in the whole upload.
-/

namespace R2kit

open Misc

/-- The bytes of the buffer the task is filling or sending. -/
def ReaderState.held (state : ReaderState) : Nat :=
  match state.phase with
  | .filling bufLen _ => bufLen
  | .sending _ buf => buf.length
  | _ => 0

/-- The bytes a part in flight owns. -/
def PartTask.held (task : PartTask) : Nat :=
  match task.phase with
  | .reading => 0
  | .requesting body _ => body.length
  | .sleeping body _ _ => body.length

/-- The bytes of all part buffers. -/
def Pipeline.held (pipeline : Pipeline) : Nat :=
  pipeline.reader.held + (pipeline.queue.map (fun part => part.2.length)).sum +
    (pipeline.uploads.inFlight.map PartTask.held).sum

/-- The bytes of all buffers that the task ever gets to allocate, for a reader that
    delivers this many bytes. -/
def allocated (plan : MultipartPlan) (delivered : Nat) : Nat :=
  min plan.fileSize (plan.partSize * (delivered / plan.partSize + 1))

section Bound

variable {plan : MultipartPlan} {content : List UInt8}

/-- The parts emitted so far are the beginning of the file. -/
theorem sum_emitted (count : Nat) :
    (((plan.numbers.take count).map (streamPart plan content)).map
      (fun part => part.2.length)).sum =
        min (min count plan.partCount * plan.partSize) (min plan.fileSize content.length) := by
  have cut := flatMap_block plan.partSize (min count plan.partCount)
    (content.take plan.fileSize)
  have lengths := congrArg List.length cut
  rw [List.length_flatMap, List.length_take, List.length_take, ← List.take_range,
    ← plan.map_index_numbers, ← List.map_take, List.map_map] at lengths
  rw [List.map_map, ← lengths]
  rfl

/-- What the task holds comes after what it has emitted. -/
theorem reader_held_le {emitted : List StreamPart} {state : ReaderState}
    (holds : ReaderInvariant plan content emitted state) :
    (emitted.map (fun part => part.2.length)).sum + state.held ≤
      allocated plan content.length := by
  obtain ⟨⟨count, planned, -, left, rfl, phase⟩, delivered⟩ := holds
  rw [sum_emitted, Nat.min_eq_left planned]
  have longer : content.length < plan.partSize * (content.length / plan.partSize + 1) :=
    Nat.lt_mul_div_succ _ plan.partSize_pos
  have next : 0 < state.remaining →
      count * plan.partSize + plan.partSize ≤
        plan.partSize * (content.length / plan.partSize + 1) := by
    intro more
    have below : count ≤ content.length / plan.partSize := by
      rw [Nat.le_div_iff_mul_le plan.partSize_pos]
      omega
    calc count * plan.partSize + plan.partSize = plan.partSize * (count + 1) := by
          rw [Nat.mul_succ, Nat.mul_comm]
      _ ≤ plan.partSize * (content.length / plan.partSize + 1) :=
          Nat.mul_le_mul_left _ (Nat.succ_le_succ below)
  unfold PhaseInvariant at phase
  unfold ReaderState.held allocated
  split at phase
  · simp only [*]
    omega
  · rename_i bufLen filled at_phase
    obtain ⟨more, bufLen_eq, -, -⟩ := phase
    have := next more
    simp only [at_phase]
    omega
  · rename_i number buf at_phase
    obtain ⟨more, -, -, buf_eq, -⟩ := phase
    have := next more
    simp only [at_phase]
    omega
  · simp only [*]
    omega
  · simp only [*]
    omega

theorem Streamed.held_eq {task : PartTask} (holds : Streamed plan content task) :
    task.held = (streamPart plan content task.number).2.length := by
  obtain ⟨buffered, slice, -⟩ := holds
  obtain ⟨number, length, phase⟩ := task
  cases phase with
  | reading => exact absurd rfl buffered
  | requesting body attempt => exact congrArg List.length slice
  | sleeping body attempt delay => exact congrArg List.length slice

/-- No more is ever held than is allocated altogether. -/
theorem PipelineInvariant.held_le {received : List StreamPart} {pipeline : Pipeline}
    (holds : PipelineInvariant plan content received pipeline) :
    pipeline.held ≤ allocated plan content.length := by
  let size (number : PartNumber) : Nat := (streamPart plan content number).2.length
  have in_flight : (pipeline.uploads.inFlight.map PartTask.held).sum =
      ((pipeline.uploads.inFlight.map PartTask.number).map size).sum := by
    rw [List.map_map]
    refine congrArg List.sum (List.map_congr_left ?_)
    exact fun task member => (holds.tasks task member).held_eq
  have out : (received.map (fun part => part.2.length)).sum =
      ((received.map Prod.fst).map size).sum := by
    rw [List.map_map]
    refine congrArg List.sum (List.map_congr_left ?_)
    intro part member
    have same := (holds.reader.part_of_mem (List.mem_append_left _ member)).2
    exact congrArg (fun part => part.2.length) same
  have split := (holds.numbers.map size).sum_eq
  rw [List.map_append, List.sum_append] at split
  have bound := reader_held_le holds.reader
  rw [List.map_append, List.sum_append] at bound
  unfold Pipeline.held
  omega

end Bound

section Filling

variable {transfer : Transfer}

/-- From one head of the loop to the next, with a part of full size in between. -/
theorem reaches_sent {start : StreamState} {history : History StreamEvent Effect}
    {count : Nat} {source : List UInt8} {queue : List StreamPart} {uploads : Uploads}
    (run : transfer.runStream.Reaches start history (.running
      ⟨⟨transfer.session.plan.fileSize - count * transfer.session.plan.partSize, count + 1,
        .looping, source⟩, queue, uploads⟩))
    (more : (count + 1) * transfer.session.plan.partSize < transfer.session.plan.fileSize)
    (enough : transfer.session.plan.partSize ≤ source.length)
    (room : queue.length + 1 ≤ channelSize transfer.builder) :
    ∃ history' number, transfer.runStream.Reaches start history' (.running
      ⟨⟨transfer.session.plan.fileSize - (count + 1) * transfer.session.plan.partSize,
        count + 1 + 1, .looping, source.drop transfer.session.plan.partSize⟩,
        queue ++ [(number, source.take transfer.session.plan.partSize)], uploads⟩) := by
  have positive := transfer.session.plan.partSize_pos
  have product : (count + 1) * transfer.session.plan.partSize =
      count * transfer.session.plan.partSize + transfer.session.plan.partSize := Nat.succ_mul _ _
  have bound := transfer.session.plan.partCount_le
  have planned : count + 1 < transfer.session.plan.partCount := by
    rw [transfer.session.plan.partCount_eq, lt_ceilDiv_iff positive]
    exact more
  have valid : count + 1 ≤ maxParts := by omega
  have full : min (transfer.session.plan.fileSize - count * transfer.session.plan.partSize)
      transfer.session.plan.partSize = transfer.session.plan.partSize := by omega
  have sent := reaches_turn run (by omega) (by rwa [full]) valid room
  have left : transfer.session.plan.fileSize - count * transfer.session.plan.partSize -
      transfer.session.plan.partSize =
        transfer.session.plan.fileSize - (count + 1) * transfer.session.plan.partSize := by omega
  rw [full, left] at sent
  exact ⟨_, _, sent⟩

/-- A state at the head of the loop after `count` full parts, none of which is uploaded:
    as many as may be are in flight, the others are in the channel. -/
structure Stuffed (transfer : Transfer) (content : List UInt8) (count : Nat)
    (pipeline : Pipeline) : Prop where
  reader : pipeline.reader = ⟨transfer.session.plan.fileSize -
    count * transfer.session.plan.partSize, count + 1, .looping,
    content.drop (count * transfer.session.plan.partSize)⟩
  inFlight : pipeline.uploads.inFlight.length = min count transfer.builder.concurrency
  queue : pipeline.queue.length = count - transfer.builder.concurrency
  held : pipeline.held = count * transfer.session.plan.partSize

/-- Nothing forces a part to finish, so the stages can be filled up to the brim. -/
theorem reaches_stuffed {content : List UInt8} (count : Nat)
    (room : count ≤ transfer.builder.concurrency + channelSize transfer.builder)
    (more : count * transfer.session.plan.partSize < transfer.session.plan.fileSize)
    (enough : count * transfer.session.plan.partSize ≤ content.length) :
    ∃ history pipeline, transfer.runStream.Reaches
        (StreamState.start transfer.session.plan content) history (.running pipeline) ∧
      Stuffed transfer content count pipeline := by
  induction count with
  | zero =>
      refine ⟨[], _, .refl, ?_, ?_, ?_, ?_⟩
      · simp [Pipeline.start, ReaderState.start]
      · simp [Pipeline.start]
      · simp [Pipeline.start]
      · simp [Pipeline.held, Pipeline.start, ReaderState.start, ReaderState.held]
  | succ count ih =>
      have product : (count + 1) * transfer.session.plan.partSize =
          count * transfer.session.plan.partSize + transfer.session.plan.partSize :=
        Nat.succ_mul _ _
      obtain ⟨history, ⟨reader, queue, uploads⟩, run, stuffed⟩ :=
        ih (by omega) (by omega) (by omega)
      obtain ⟨rfl, in_flight, queued, held⟩ := stuffed
      simp only at in_flight queued
      have enough' : transfer.session.plan.partSize ≤
          (content.drop (count * transfer.session.plan.partSize)).length := by
        rw [List.length_drop]
        omega
      have capacity : 1 ≤ channelSize transfer.builder := Nat.le_max_right _ _
      obtain ⟨history', number, sent⟩ := reaches_sent run more enough' (by omega)
      rw [List.drop_drop, ← product] at sent
      simp only [Pipeline.held, ReaderState.held] at held
      by_cases free : count < transfer.builder.concurrency
      · -- the channel was empty: the new part goes on into flight
        obtain rfl : queue = [] := List.length_eq_zero_iff.mp (by omega)
        rw [List.nil_append] at sent
        have received := sent.snoc (runStream_recv (by omega))
        refine ⟨_, _, received, rfl, ?_, ?_, ?_⟩
        · simp only [List.length_append, List.length_singleton]
          omega
        · simp only [List.length_nil]
          omega
        · simp only [Pipeline.held, ReaderState.held, List.map_nil, List.sum_nil,
            List.map_append, List.sum_append, List.map_cons, receivedTask, PartTask.held,
            List.length_take, List.sum_cons] at held ⊢
          omega
      · refine ⟨_, _, sent, rfl, ?_, ?_, ?_⟩
        · simp only
          omega
        · simp only [List.length_append, List.length_singleton]
          omega
        · simp only [Pipeline.held, ReaderState.held, List.map_nil, List.sum_nil,
            List.map_append, List.sum_append, List.map_cons, List.length_take,
            List.sum_cons] at held ⊢
          omega

/-- More than the budget is allocated by the time that the stages are full or nothing is left
    to allocate: after `last` full parts and the buffer of the next one. -/
theorem exists_last_part {content : List UInt8}
    (size : transfer.session.plan.partSize = transfer.builder.partSize)
    (exceeds : transfer.builder.maxBufferedBytes <
      allocated transfer.session.plan content.length) :
    ∃ last, last ≤ transfer.builder.concurrency + channelSize transfer.builder ∧
      last * transfer.session.plan.partSize < transfer.session.plan.fileSize ∧
      last * transfer.session.plan.partSize ≤ content.length ∧
      transfer.builder.maxBufferedBytes <
        min transfer.session.plan.fileSize ((last + 1) * transfer.session.plan.partSize) := by
  have positive := transfer.session.plan.partSize_pos
  obtain ⟨stages, stages_eq⟩ : ∃ stages, stages =
      transfer.builder.concurrency + channelSize transfer.builder + 1 := ⟨_, rfl⟩
  obtain ⟨full, full_eq⟩ : ∃ full, full = content.length / transfer.session.plan.partSize :=
    ⟨_, rfl⟩
  have used := transfer.session.plan.partCount_pos
  obtain ⟨last, shape⟩ : ∃ last,
      min stages (min transfer.session.plan.partCount (full + 1)) = last + 1 :=
    Nat.exists_eq_add_one.mpr (by omega)
  refine ⟨last, by omega, ?_, ?_, ?_⟩
  · rw [← lt_ceilDiv_iff positive, ← transfer.session.plan.partCount_eq]
    omega
  · rw [← Nat.le_div_iff_mul_le positive, ← full_eq]
    omega
  · rw [allocated, ← full_eq] at exceeds
    rw [← shape]
    refine Nat.lt_min.mpr ⟨by omega, ?_⟩
    rcases Nat.le_total stages (min transfer.session.plan.partCount (full + 1)) with brim | all
    · rw [Nat.min_eq_left brim]
      have capacity : transfer.builder.maxBufferedBytes / transfer.session.plan.partSize + 1 ≤
          stages := by
        simp only [stages_eq, channelSize, size]
        omega
      calc transfer.builder.maxBufferedBytes
          < transfer.session.plan.partSize *
              (transfer.builder.maxBufferedBytes / transfer.session.plan.partSize + 1) :=
            Nat.lt_mul_div_succ _ positive
        _ ≤ stages * transfer.session.plan.partSize := by
            rw [Nat.mul_comm]
            exact Nat.mul_le_mul_right _ capacity
    · rw [Nat.min_eq_right all]
      rcases Nat.le_total transfer.session.plan.partCount (full + 1) with whole | short
      · have covered := le_ceilDiv_mul positive transfer.session.plan.fileSize
        rw [← transfer.session.plan.partCount_eq] at covered
        rw [Nat.min_eq_left whole]
        omega
      · rw [Nat.min_eq_right short, Nat.mul_comm]
        omega

/-- The stages together hold more than the budget, or everything that is allocated. -/
theorem reaches_over_budget {content : List UInt8}
    (size : transfer.session.plan.partSize = transfer.builder.partSize)
    (exceeds : transfer.builder.maxBufferedBytes <
      allocated transfer.session.plan content.length) :
    ∃ history pipeline, transfer.runStream.Reaches
        (StreamState.start transfer.session.plan content) history (.running pipeline) ∧
      transfer.builder.maxBufferedBytes < pipeline.held := by
  obtain ⟨last, stages, more, enough, exceeds⟩ := exists_last_part size exceeds
  have product : (last + 1) * transfer.session.plan.partSize =
      last * transfer.session.plan.partSize + transfer.session.plan.partSize := Nat.succ_mul _ _
  obtain ⟨history, ⟨reader, queue, uploads⟩, run, stuffed⟩ :=
    reaches_stuffed last stages more enough
  obtain ⟨rfl, -, queued, held⟩ := stuffed
  have room : queue.length + ([] : List StreamPart).length ≤ channelSize transfer.builder := by
    simp only [List.length_nil] at queued ⊢
    omega
  have allocating := run.snoc
    (runStream_reader (by simp) (readerLoop_loop (by omega)) room)
  refine ⟨_, _, allocating, ?_⟩
  simp only [Pipeline.held, ReaderState.held, List.append_nil] at held ⊢
  omega

end Filling

section Budget

/-- The bytes of all part buffers in any state: the end holds none. -/
def StreamState.held : StreamState → Nat
  | .running pipeline => pipeline.held
  | .ending _ => 0

theorem StreamInvariant.held_le {transfer : Transfer} {content : List UInt8}
    {history : History StreamEvent Effect} {s : StreamState}
    (holds : StreamInvariant transfer content history s) :
    s.held ≤ allocated transfer.session.plan content.length := by
  cases s with
  | running pipeline =>
      obtain ⟨received, sound⟩ := holds.pipeline _ rfl
      exact sound.held_le
  | ending ending => exact Nat.zero_le _

/-- The session that `upload_stream` creates has the part size of the builder. -/
theorem partSize_of_created {crates : Crates} {builder : ManagedMultipartBuilder}
    {fileSize : Nat} {cancelled : Bool} {request : PresignedMultipartBuilder}
    {plan : MultipartPlan} {input : CreateMultipartUploadInput}
    {answer : Except SdkError (Option String)} {session : PresignedMultipart}
    (begun : builder.beginStream crates fileSize cancelled = .creating request plan input)
    (created : request.created plan answer = .ok session) :
    session.plan.partSize = builder.partSize := by
  have passed : ∀ error, builder.beginStream crates fileSize cancelled ≠ .failed error := by
    intro error failed
    rw [failed] at begun
    cases begun
  obtain ⟨valid, active, fresh⟩ := ManagedMultipartBuilder.new_of_beginStream passed
  rw [ManagedMultipartBuilder.beginStream_of_new valid active fresh] at begun
  obtain ⟨-, -, -, part_eq⟩ := ManagedMultipartBuilder.request_of_beginNew begun
  obtain ⟨uploadId, -, rfl⟩ := PresignedMultipartBuilder.created_eq_ok_iff.mp created
  exact part_eq

/-- A streaming upload keeps its memory budget in every state it can come to exactly when
    the buffers it ever allocates fit into the budget all together. -/
theorem runStream_budget_iff (crates : Crates) (builder : ManagedMultipartBuilder)
    (fileSize : Nat) (cancelled : Bool) (request : PresignedMultipartBuilder)
    (plan : MultipartPlan) (input : CreateMultipartUploadInput)
    (answer : Except SdkError (Option String)) (session : PresignedMultipart)
    (content : List UInt8)
    (begun : builder.beginStream crates fileSize cancelled = .creating request plan input)
    (created : request.created plan answer = .ok session) :
    (∀ history s, (Transfer.mk builder session).runStream.Reaches
        (StreamState.start session.plan content) history s → s.held ≤ builder.maxBufferedBytes) ↔
      allocated session.plan content.length ≤ builder.maxBufferedBytes := by
  constructor
  · intro keeps
    by_contra exceeds
    obtain ⟨history, pipeline, run, exceeds⟩ :=
      @reaches_over_budget ⟨builder, session⟩ content (partSize_of_created begun created)
        (Nat.not_le.mp exceeds)
    exact Nat.not_le.mpr exceeds (keeps history (.running pipeline) run)
  · intro fits history s run
    exact Nat.le_trans (streamInvariant_of_reaches run).held_le fits

/-- A stream of three parts never fills the default budget. -/
theorem runStream_budget_three :
    ManagedMultipartBuilder.tiny.validate .minimal = .ok () ∧
    PresignedMultipart.three.plan.partCount = 3 ∧
    ∀ history s, (Transfer.mk .tiny .three).runStream.Reaches
      (StreamState.start PresignedMultipart.three.plan
        (List.replicate (2 * minMultipartPartSize + 3) 0)) history s →
      s.held ≤ ManagedMultipartBuilder.tiny.maxBufferedBytes := by
  have begun : ∃ request input,
      ManagedMultipartBuilder.tiny.beginStream .minimal (2 * minMultipartPartSize + 3) false =
        .creating request PresignedMultipart.three.plan input ∧
      request.created PresignedMultipart.three.plan (.ok (some "u")) = .ok .three :=
    ⟨_, _, rfl, rfl⟩
  obtain ⟨request, input, begun, created⟩ := begun
  have fits : allocated PresignedMultipart.three.plan
      (List.replicate (2 * minMultipartPartSize + 3) (0 : UInt8)).length ≤
        ManagedMultipartBuilder.tiny.maxBufferedBytes := by
    rw [List.length_replicate]
    decide
  exact ⟨rfl, rfl, (runStream_budget_iff .minimal .tiny (2 * minMultipartPartSize + 3) false request
    _ input _ .three _ begun created).mpr fits⟩

/-- With the default builder, 33 buffers of 8 MiB are held at once: four in flight, 28 in
    the channel and one in the reader task. -/
theorem runStream_exceeds_default_budget :
    ∃ request plan input session history s,
      ManagedMultipartBuilder.clip.beginStream .minimal (264 * 1024 * 1024) false =
        .creating request plan input ∧
      request.created plan (.ok (some "u")) = .ok session ∧
      (Transfer.mk .clip session).runStream.Reaches
        (StreamState.start session.plan (List.replicate (264 * 1024 * 1024) 0)) history s ∧
      ManagedMultipartBuilder.clip.maxBufferedBytes < s.held := by
  let plan : MultipartPlan := {
    fileSize := 264 * 1024 * 1024
    partSize := 8 * 1024 * 1024
    partCount := 33
    fileSize_pos := by decide
    fileSize_le := by decide
    partSize_valid := by decide
    count_le := by decide
    partCount_narrowed := by decide }
  let session : PresignedMultipart := { PresignedMultipart.tiny with plan }
  have exceeds : ManagedMultipartBuilder.clip.maxBufferedBytes <
      allocated plan (List.replicate (264 * 1024 * 1024) (0 : UInt8)).length := by
    rw [List.length_replicate]
    decide
  obtain ⟨history, pipeline, run, exceeds⟩ :=
    @reaches_over_budget ⟨.clip, session⟩ _ rfl exceeds
  refine ⟨_, plan, _, session, history, .running pipeline, rfl, ?_, run, exceeds⟩
  rfl

end Budget

end R2kit
