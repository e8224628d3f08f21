import R2kit.Managed.Uploads

/-!
# The reader loop of a streaming upload

The task that `run_stream` of `src/managed.rs` spawns: it fills one buffer after the other
from the reader and hands each to the channel. The reader is what it has still to deliver;
how much of it one read returns is open, and what happens at its end is too. The loop
emits the parts of the plan, cut out of the first `file_size` bytes.
-/

namespace R2kit

open Misc

/-- What comes of a read when the reader has nothing more to deliver. -/
inductive ReaderStop where
  | ended
  | failed
  | panicked
  deriving DecidableEq

/-- The error the call ends with, in the case of a panic that of joining the task. -/
def ReaderStop.error : ReaderStop → Error
  | .ended | .failed => .io "read_exact"
  | .panicked => .io "reader_task_panic"

/-- Where the task is: at the head of the loop, in `read_exact`, in `send`, or done. -/
inductive ReaderPhase where
  | looping
  | filling (bufLen : Nat) (filled : List UInt8)
  | sending (number : PartNumber) (buf : List UInt8)
  | returned (result : Except Error Unit)
  deriving DecidableEq

/-- The loop variables, and the bytes the reader has still to deliver. -/
structure ReaderState where
  remaining : Nat
  number : Nat
  phase : ReaderPhase
  source : List UInt8
  deriving DecidableEq

/-- What the task is resumed with. -/
inductive ReaderEvent where
  | loop
  | chunk (length : Nat)
  | stopped (stop : ReaderStop)
  | sent (isOpen : Bool)
  deriving DecidableEq

/-- What the task hands to the channel. -/
abbrev StreamPart := PartNumber × List UInt8

/-- The reader before its first turn. -/
def ReaderState.start (plan : MultipartPlan) (source : List UInt8) : ReaderState where
  remaining := plan.fileSize
  number := 1
  phase := .looping
  source := source

/-- A buffer that is full goes to the channel under the next number. -/
def ReaderState.full (state : ReaderState) (buf : List UInt8) : ReaderPhase :=
  match PartNumber.tryFrom state.number with
  | .error _ => .returned (.error (.invalidInput "part_number" "exceeded maximum parts"))
  | .ok number => .sending number buf

/-- The reader loop, which emits what it hands to the channel. -/
def readerLoop (plan : MultipartPlan) : Machine ReaderState ReaderEvent StreamPart where
  step state event :=
    match state.phase, event with
    | .looping, .loop =>
        if state.remaining = 0 then some ({ state with phase := .returned (.ok ()) }, [])
        else
          match usizeTryFrom (min state.remaining plan.partSize) with
          | none =>
              some ({ state with phase := .returned (.error (.invalidInput "part_size"
                "part size exceeds platform addressable memory")) }, [])
          | some bufLen => some ({ state with phase := .filling bufLen [] }, [])
    | .filling bufLen filled, .chunk length =>
        if 0 < length ∧ length ≤ state.source.length ∧ filled.length + length ≤ bufLen then
          let filled := filled ++ state.source.take length
          let source := state.source.drop length
          if filled.length < bufLen then
            some ({ state with phase := .filling bufLen filled, source }, [])
          else some ({ state with phase := state.full filled, source }, [])
        else none
    | .filling _ _, .stopped stop =>
        if state.source = [] then
          some ({ state with phase := .returned (.error stop.error) }, [])
        else none
    | .sending number buf, .sent isOpen =>
        if isOpen then
          some ({
            state with
            remaining := state.remaining - min state.remaining plan.partSize
            number := asU16 (state.number + 1)
            phase := .looping }, [(number, buf)])
        else some ({ state with phase := .returned (.ok ()) }, [])
    | _, _ => none

section Steps

variable {plan : MultipartPlan}

/-- Everything one turn of the task can be. -/
inductive ReaderStep (plan : MultipartPlan) (state : ReaderState) :
    ReaderEvent → ReaderState → List StreamPart → Prop
  | finish (at_phase : state.phase = .looping) (finished : state.remaining = 0) :
      ReaderStep plan state .loop { state with phase := .returned (.ok ()) } []
  | oversized (at_phase : state.phase = .looping) (more : state.remaining ≠ 0)
      (exceeds : usizeTryFrom (min state.remaining plan.partSize) = none) :
      ReaderStep plan state .loop { state with phase := .returned (.error
        (.invalidInput "part_size" "part size exceeds platform addressable memory")) } []
  | allocate {bufLen} (at_phase : state.phase = .looping) (more : state.remaining ≠ 0)
      (fits : usizeTryFrom (min state.remaining plan.partSize) = some bufLen) :
      ReaderStep plan state .loop { state with phase := .filling bufLen [] } []
  | chunk {bufLen filled length} (at_phase : state.phase = .filling bufLen filled)
      (fits : 0 < length ∧ length ≤ state.source.length ∧ filled.length + length ≤ bufLen)
      (below : (filled ++ state.source.take length).length < bufLen) :
      ReaderStep plan state (.chunk length) {
        state with
        phase := .filling bufLen (filled ++ state.source.take length)
        source := state.source.drop length } []
  | fill {bufLen filled length} (at_phase : state.phase = .filling bufLen filled)
      (fits : 0 < length ∧ length ≤ state.source.length ∧ filled.length + length ≤ bufLen)
      (reached : ¬ (filled ++ state.source.take length).length < bufLen) :
      ReaderStep plan state (.chunk length) {
        state with
        phase := state.full (filled ++ state.source.take length)
        source := state.source.drop length } []
  | stopped {bufLen filled stop} (at_phase : state.phase = .filling bufLen filled)
      (empty : state.source = []) :
      ReaderStep plan state (.stopped stop)
        { state with phase := .returned (.error stop.error) } []
  | sent {number buf} (at_phase : state.phase = .sending number buf) :
      ReaderStep plan state (.sent true) {
        state with
        remaining := state.remaining - min state.remaining plan.partSize
        number := asU16 (state.number + 1)
        phase := .looping } [(number, buf)]
  | closed {number buf} (at_phase : state.phase = .sending number buf) :
      ReaderStep plan state (.sent false) { state with phase := .returned (.ok ()) } []

theorem readerStep_of_step {state next : ReaderState} {event : ReaderEvent}
    {out : List StreamPart} (taken : (readerLoop plan).step state event = some (next, out)) :
    ReaderStep plan state event next out := by
  simp only [readerLoop] at taken
  split at taken
  · rename_i at_phase
    split at taken
    · rename_i finished
      cases taken
      exact .finish at_phase finished
    · rename_i more
      split at taken
      · rename_i exceeds
        cases taken
        exact .oversized at_phase more exceeds
      · rename_i bufLen fits
        cases taken
        exact .allocate at_phase more fits
  · rename_i at_phase
    split at taken
    · rename_i fits
      split at taken
      · rename_i below
        cases taken
        exact .chunk at_phase fits below
      · rename_i reached
        cases taken
        exact .fill at_phase fits reached
    · cases taken
  · rename_i at_phase
    split at taken
    · rename_i empty
      cases taken
      exact .stopped at_phase empty
    · cases taken
  · rename_i number buf isOpen at_phase
    cases isOpen with
    | true =>
        cases taken
        exact .sent at_phase
    | false =>
        cases taken
        exact .closed at_phase
  · cases taken

/-- The head of the loop with bytes left: a buffer is allocated. -/
theorem readerLoop_loop {remaining number : Nat} {source : List UInt8} (more : remaining ≠ 0) :
    (readerLoop plan).step ⟨remaining, number, .looping, source⟩ .loop =
      some (⟨remaining, number, .filling (min remaining plan.partSize) [], source⟩, []) := by
  have part := plan.partSize_valid.2
  simp only [maxMultipartPartSize, maxUploadSize, minMultipartPartSize] at part
  have fits : usizeTryFrom (min remaining plan.partSize) = some (min remaining plan.partSize) := by
    rw [usizeTryFrom, if_pos]
    simp only [usizeMax]
    omega
  simp only [readerLoop, fits]
  rw [if_neg more]

/-- A read that fills the whole buffer. -/
theorem readerLoop_chunk {remaining count bufLen : Nat} {source : List UInt8}
    (nonempty : 0 < bufLen) (enough : bufLen ≤ source.length) (valid : count + 1 ≤ maxParts) :
    (readerLoop plan).step ⟨remaining, count + 1, .filling bufLen [], source⟩ (.chunk bufLen) =
      some (⟨remaining, count + 1,
        .sending ⟨count + 1, Nat.le_add_left 1 count, valid⟩ (source.take bufLen),
        source.drop bufLen⟩, []) := by
  have length : (source.take bufLen).length = bufLen := by
    rw [List.length_take, Nat.min_eq_left enough]
  have number : PartNumber.tryFrom (count + 1) =
      .ok ⟨count + 1, Nat.le_add_left 1 count, valid⟩ := PartNumber.tryFrom_eq_ok_iff.mpr rfl
  simp only [readerLoop, List.length_nil, Nat.zero_add, List.nil_append, length,
    ReaderState.full, number]
  rw [if_pos ⟨nonempty, enough, Nat.le_refl _⟩, if_neg (Nat.lt_irrefl _)]

theorem readerLoop_sent {remaining count : Nat} {number : PartNumber} {buf source : List UInt8} :
    (readerLoop plan).step ⟨remaining, count, .sending number buf, source⟩ (.sent true) =
      some (⟨remaining - min remaining plan.partSize, asU16 (count + 1), .looping, source⟩,
        [(number, buf)]) := rfl

end Steps

section Parts

variable {plan : MultipartPlan} {content : List UInt8}

/-- The part of the first `file_size` bytes with this number. -/
def streamPart (plan : MultipartPlan) (content : List UInt8) (number : PartNumber) :
    StreamPart :=
  (number, block plan.partSize number.index (content.take plan.fileSize))

/-- What holds in a phase after `count` parts. -/
def PhaseInvariant (plan : MultipartPlan) (content : List UInt8) (count : Nat)
    (state : ReaderState) : Prop :=
  match state.phase with
  | .looping => state.source = content.drop (count * plan.partSize) ∨ state.remaining = 0
  | .filling bufLen filled => 0 < state.remaining ∧
      bufLen = min state.remaining plan.partSize ∧ filled.length < bufLen ∧
      filled ++ state.source = content.drop (count * plan.partSize)
  | .sending number buf => 0 < state.remaining ∧ number.get = count + 1 ∧
      (number, buf) = streamPart plan content number ∧
      buf.length = min state.remaining plan.partSize ∧
      buf ++ state.source = content.drop (count * plan.partSize)
  | .returned (.ok ()) => state.remaining = 0
  | .returned (.error error) => content.length < plan.fileSize ∧
      ∃ stop : ReaderStop, error = stop.error

/-- The loop invariant: the first `count` parts of the plan are out. -/
structure ReaderInvariant (plan : MultipartPlan) (content : List UInt8)
    (emitted : List StreamPart) (state : ReaderState) : Prop where
  counted : ∃ count, count ≤ plan.partCount ∧ state.number = count + 1 ∧
    state.remaining = plan.fileSize - count * plan.partSize ∧
    emitted = (plan.numbers.take count).map (streamPart plan content) ∧
    PhaseInvariant plan content count state
  delivered : plan.fileSize - state.remaining ≤ content.length

theorem readerInvariant_start :
    ReaderInvariant plan content [] (ReaderState.start plan content) := by
  constructor
  · refine ⟨0, Nat.zero_le _, rfl, ?_, rfl, Or.inl ?_⟩
    · simp [ReaderState.start]
    · simp [ReaderState.start]
  · simp [ReaderState.start]

/-- While bytes remain, another part is planned. -/
theorem lt_partCount_of_remaining {count : Nat}
    (remaining : 0 < plan.fileSize - count * plan.partSize) : count < plan.partCount := by
  rw [plan.partCount_eq, lt_ceilDiv_iff plan.partSize_pos]
  omega

/-- A chunk that fits makes the buffer longer by its length. -/
theorem length_chunk {filled source : List UInt8} {length : Nat} (fits : length ≤ source.length) :
    (filled ++ source.take length).length = filled.length + length := by
  rw [List.length_append, List.length_take, Nat.min_eq_left fits]

/-- A full buffer is the next part. -/
theorem full_eq {count : Nat} {state : ReaderState} {buf : List UInt8}
    (number : state.number = count + 1)
    (left : state.remaining = plan.fileSize - count * plan.partSize)
    (more : 0 < state.remaining) (filled : buf.length = min state.remaining plan.partSize)
    (cut : buf ++ state.source = content.drop (count * plan.partSize)) :
    PhaseInvariant plan content count { state with phase := state.full buf } := by
  have planned := @lt_partCount_of_remaining plan count (left ▸ more)
  have bound := plan.partCount_le
  have accepted : PartNumber.tryFrom state.number = .ok ⟨count + 1, by omega, by omega⟩ := by
    rw [number, PartNumber.tryFrom_eq_ok_iff]
  have slice : buf = block plan.partSize count (content.take plan.fileSize) := by
    rw [block, List.drop_take, List.take_take, ← cut, ← left, Nat.min_comm, ← filled,
      List.take_left]
  simp only [PhaseInvariant, ReaderState.full, accepted]
  refine ⟨more, trivial, ?_, filled, cut⟩
  rw [streamPart, PartNumber.index, slice]
  rfl

/-- The part with a given number is the next one to take. -/
theorem take_numbers_succ {count : Nat} {number : PartNumber} (planned : count < plan.partCount)
    (next : number.get = count + 1) :
    plan.numbers.take (count + 1) = plan.numbers.take count ++ [number] := by
  have inside : count < plan.numbers.length := by rwa [plan.length_numbers]
  have at_count : plan.numbers[count] = number := by
    apply PartNumber.ext
    rw [next]
    simp [MultipartPlan.numbers]
  rw [List.take_succ_eq_append_getElem inside, at_count]

/-- The memory of this platform holds a buffer of any planned size. -/
theorem usizeTryFrom_min (remaining : Nat) :
    usizeTryFrom (min remaining plan.partSize) = some (min remaining plan.partSize) := by
  have part := plan.partSize_valid.2
  simp only [maxMultipartPartSize, maxUploadSize, minMultipartPartSize] at part
  rw [usizeTryFrom, if_pos]
  simp only [usizeMax]
  omega

/-- What is left over of the reader when a part has gone out. -/
theorem drop_of_sent {count : Nat} {buf source : List UInt8}
    (filled : buf.length = plan.partSize)
    (cut : buf ++ source = content.drop (count * plan.partSize)) :
    source = content.drop ((count + 1) * plan.partSize) := by
  rw [Nat.succ_mul, ← List.drop_drop, ← cut, List.drop_append_of_le_length (by omega),
    List.drop_of_length_le (by omega), List.nil_append]

/-- One turn of the task keeps the loop invariant, as long as the channel is open. -/
theorem readerInvariant_step {emitted out : List StreamPart} {state next : ReaderState}
    {event : ReaderEvent} (isOpen : event ≠ .sent false)
    (holds : ReaderInvariant plan content emitted state)
    (taken : (readerLoop plan).step state event = some (next, out)) :
    ReaderInvariant plan content (emitted ++ out) next := by
  obtain ⟨⟨count, planned, number, left, same, phase⟩, delivered⟩ := holds
  unfold PhaseInvariant at phase
  cases readerStep_of_step taken with
  | finish at_phase finished =>
      rw [List.append_nil]
      exact ⟨⟨count, planned, number, left, same, finished⟩, delivered⟩
  | oversized at_phase more exceeds =>
      rw [usizeTryFrom_min] at exceeds
      cases exceeds
  | allocate at_phase more fits =>
      rw [usizeTryFrom_min] at fits
      cases fits
      simp only [at_phase] at phase
      have positive := plan.partSize_pos
      rw [List.append_nil]
      refine ⟨⟨count, planned, number, left, same, ?_⟩, delivered⟩
      refine ⟨Nat.pos_of_ne_zero more, rfl, ?_, phase.resolve_right more⟩
      simp only [List.length_nil]
      omega
  | @chunk bufLen filled length at_phase fits below =>
      simp only [at_phase] at phase
      obtain ⟨more, bufLen_eq, short, cut⟩ := phase
      rw [List.append_nil]
      refine ⟨⟨count, planned, number, left, same, more, bufLen_eq, below, ?_⟩, delivered⟩
      rw [List.append_assoc, List.take_append_drop, cut]
  | @fill bufLen filled length at_phase fits reached =>
      simp only [at_phase] at phase
      obtain ⟨more, bufLen_eq, short, cut⟩ := phase
      have full : (filled ++ state.source.take length).length =
          min state.remaining plan.partSize := by
        rw [length_chunk fits.2.1] at reached ⊢
        omega
      have moved : filled ++ state.source.take length ++ state.source.drop length =
          content.drop (count * plan.partSize) := by
        rw [List.append_assoc, List.take_append_drop, cut]
      rw [List.append_nil]
      refine ⟨⟨count, planned, number, left, same, ?_⟩, delivered⟩
      exact @full_eq plan content count { state with source := state.source.drop length } _
        number left more full moved
  | @stopped bufLen filled stop at_phase empty =>
      simp only [at_phase] at phase
      obtain ⟨more, bufLen_eq, short, cut⟩ := phase
      rw [List.append_nil]
      refine ⟨⟨count, planned, number, left, same, ?_, stop, rfl⟩, delivered⟩
      have lengths := congrArg List.length cut
      rw [empty, List.append_nil, List.length_drop] at lengths
      omega
  | @sent part buf at_phase =>
      simp only [at_phase] at phase
      obtain ⟨more, next_number, slice, filled, cut⟩ := phase
      have inside := @lt_partCount_of_remaining plan count (left ▸ more)
      have bound := plan.partCount_le
      simp only [maxParts] at bound
      have lengths := congrArg List.length cut
      rw [List.length_append, List.length_drop] at lengths
      refine ⟨⟨count + 1, inside, ?_, ?_, ?_, ?_⟩, ?_⟩
      · rw [number]
        exact asU16_eq (by omega)
      · simp only [left, Nat.succ_mul]
        omega
      · rw [take_numbers_succ inside next_number, List.map_append, same, slice]
        rfl
      · by_cases last : state.remaining ≤ plan.partSize
        · refine Or.inr ?_
          simp only
          omega
        · exact Or.inl (drop_of_sent (by omega) cut)
      · simp only
        omega
  | closed at_phase => exact absurd rfl isOpen

/-- What the task has still to do, in steps. -/
def ReaderState.work (state : ReaderState) : Nat :=
  match state.phase with
  | .looping => 3 * state.remaining + 1
  | .filling _ filled => 3 * state.remaining - filled.length
  | .sending _ buf => 3 * state.remaining - buf.length
  | .returned _ => 0

/-- Every turn of the task leaves less to do. -/
theorem readerLoop_work {emitted out : List StreamPart} {state next : ReaderState}
    {event : ReaderEvent} (holds : ReaderInvariant plan content emitted state)
    (taken : (readerLoop plan).step state event = some (next, out)) : next.work < state.work := by
  obtain ⟨⟨count, -, -, -, -, phase⟩, -⟩ := holds
  have positive := plan.partSize_pos
  unfold PhaseInvariant at phase
  unfold ReaderState.work
  cases readerStep_of_step taken with
  | finish at_phase finished => simp [at_phase]
  | oversized at_phase more exceeds => simp [at_phase]
  | allocate at_phase more fits => simp [at_phase]
  | chunk at_phase fits below =>
      simp only [at_phase] at phase ⊢
      rw [length_chunk fits.2.1]
      omega
  | @fill bufLen filled length at_phase fits reached =>
      simp only [at_phase] at phase ⊢
      unfold ReaderState.full
      cases PartNumber.tryFrom state.number with
      | error error =>
          simp only
          omega
      | ok part =>
          simp only [length_chunk fits.2.1]
          omega
  | stopped at_phase empty =>
      simp only [at_phase] at phase ⊢
      omega
  | sent at_phase =>
      simp only [at_phase] at phase ⊢
      omega
  | closed at_phase =>
      simp only [at_phase] at phase ⊢
      omega

/-- The task can go on until it returns, if the channel takes what it sends. -/
theorem readerLoop_progress {emitted : List StreamPart} {state : ReaderState}
    (holds : ReaderInvariant plan content emitted state)
    (unreturned : ∀ result, state.phase ≠ .returned result) :
    ∃ event next out, event ≠ .sent false ∧
      (readerLoop plan).step state event = some (next, out) := by
  obtain ⟨⟨count, -, -, -, -, phase⟩, -⟩ := holds
  obtain ⟨remaining, number, at_phase, source⟩ := state
  cases at_phase with
  | looping =>
      refine ⟨.loop, ?_⟩
      by_cases finished : remaining = 0
      · exact ⟨_, _, by simp, by simp only [readerLoop]; rw [if_pos finished]⟩
      · cases fits : usizeTryFrom (min remaining plan.partSize) with
        | none => exact ⟨_, _, by simp, by simp only [readerLoop, fits]; rw [if_neg finished]⟩
        | some bufLen =>
            exact ⟨_, _, by simp, by simp only [readerLoop, fits]; rw [if_neg finished]⟩
  | filling bufLen filled =>
      cases source with
      | nil => exact ⟨.stopped .ended, _, _, by simp, by simp only [readerLoop]; rfl⟩
      | cons byte rest =>
          refine ⟨.chunk 1, ?_⟩
          have fits : 0 < 1 ∧ 1 ≤ (byte :: rest).length ∧ filled.length + 1 ≤ bufLen := by
            have short := phase.2.2.1
            refine ⟨Nat.one_pos, by simp, short⟩
          by_cases below : (filled ++ (byte :: rest).take 1).length < bufLen
          · exact ⟨_, _, by simp, by simp only [readerLoop]; rw [if_pos fits, if_pos below]⟩
          · exact ⟨_, _, by simp, by simp only [readerLoop]; rw [if_pos fits, if_neg below]⟩
  | sending part buf => exact ⟨.sent true, _, _, by simp, rfl⟩
  | returned result => exact absurd rfl (unreturned result)

end Parts

end R2kit
