import R2kit.Managed.Builder
import R2kit.Managed.Retry
import R2kit.Misc.Machine

/-!
# Parts in flight

What `run` and `run_stream` of `src/managed.rs` share: reading a part, uploading it with
retries, the `buffer_unordered` pool whose parts finish in any order, and the ending in
`complete`. A part task is driven by the outcomes of its own awaits.
-/

namespace R2kit

open Misc

/-- What `read_part` meets when it opens, seeks and reads the file. -/
inductive FileView where
  | unopened
  | unseekable
  | unreadable
  | content (data : List UInt8)
  deriving DecidableEq

/-- `read_part`: open, seek and read exactly so many bytes. -/
def readPart (view : FileView) (partSize : Nat) (number : PartNumber) (length : Nat) :
    Except Error (List UInt8) :=
  if view = .unopened then .error (.io "open")
  else if u64Max < (number.get - 1) * partSize then
    .error (.invalidInput "part_number" "part offset overflowed")
  else if view = .unseekable then .error (.io "seek")
  else
    match usizeTryFrom length with
    | none =>
        .error (.invalidInput "part_size" "does not fit this platform's address space")
    | some capacity =>
        match view with
        | .content data =>
            if ((data.drop ((number.get - 1) * partSize)).take capacity).length = capacity then
              .ok ((data.drop ((number.get - 1) * partSize)).take capacity)
            else .error (.io "read")
        | _ => .error (.io "read")

/-- Where the future of one part is. -/
inductive Phase where
  | reading
  | requesting (body : List UInt8) (attempt : Nat)
  | sleeping (body : List UInt8) (attempt : Nat) (delay : Duration)
  deriving DecidableEq

/-- A part in flight. -/
structure PartTask where
  number : PartNumber
  length : Nat
  phase : Phase
  deriving DecidableEq

/-- What the future of a part is waiting for. -/
inductive TaskEvent where
  | read (view : FileView)
  | answered (random : Nat) (answer : Except SdkError (Option String))
  | woken
  deriving DecidableEq

/-- What one event makes of a part in flight. -/
inductive TaskStep where
  | pending (task : PartTask) (out : List Effect)
  | finished (result : Except Error UploadedPart)
  deriving DecidableEq

/-- The request of one attempt. The source's `expect` cannot fail: no vector is longer than
    `i64::MAX`. -/
def uploadPartRequest (session : PresignedMultipart) (number : PartNumber)
    (body : List UInt8) : Request :=
  session.request (.uploadPart number.get body.length body)

/-- `upload_part_with_retry` after the loop. -/
def uploadPartAnswer (number : PartNumber) (answer : Except SdkError (Option String)) :
    Except Error UploadedPart :=
  match answer with
  | .error error => .error (.remoteError "UploadPart" error)
  | .ok none => .error (.service "UploadPart")
  | .ok (some etag) => UploadedPart.new number etag

/-- One step of the future of a part. -/
def PartTask.step (session : PresignedMultipart) (maxAttempts : Nat) (task : PartTask)
    (event : TaskEvent) : Option TaskStep :=
  match task.phase, event with
  | .reading, .read view =>
      match readPart view session.plan.partSize task.number task.length with
      | .error error => some (.finished (.error error))
      | .ok body =>
          some (.pending { task with phase := .requesting body 1 }
            [.send (uploadPartRequest session task.number body)])
  | .requesting body attempt, .answered random answer =>
      match retryStep maxAttempts isRetryable sdkRetryAfter attempt random answer with
      | .done result => some (.finished (uploadPartAnswer task.number result))
      | .sleep delay next => some (.pending { task with phase := .sleeping body next delay } [])
  | .sleeping body attempt _, .woken =>
      some (.pending { task with phase := .requesting body attempt }
        [.send (uploadPartRequest session task.number body)])
  | _, _ => none

/-- The parts in flight and what has come of the others, with the progress counters. -/
structure Uploads where
  inFlight : List PartTask
  uploaded : List UploadedPart
  completedParts : Nat
  transferredBytes : Nat
  deriving DecidableEq

/-- The arguments of `run` and `run_stream` that the parts need. -/
structure Transfer where
  builder : ManagedMultipartBuilder
  session : PresignedMultipart

/-- What one event makes of all of them. -/
inductive UploadsStep where
  | running (uploads : Uploads) (out : List Effect)
  | failed (error : Error)

namespace Uploads

/-- The callback, if one is registered. -/
def progress (transfer : Transfer) (uploads : Uploads) : List Effect :=
  if transfer.builder.progress then
    [.report {
      completedParts := uploads.completedParts
      totalParts := transfer.session.partCount
      transferredBytes := uploads.transferredBytes
      totalBytes := transfer.session.plan.fileSize }]
  else []

/-- A part that was uploaded leaves the pool; the counters are atomics that wrap. -/
def finish (uploads : Uploads) (index length : Nat) (part : UploadedPart) : Uploads where
  inFlight := uploads.inFlight.eraseIdx index
  uploaded := uploads.uploaded ++ [part]
  completedParts := asU16 (uploads.completedParts + 1)
  transferredBytes := (uploads.transferredBytes + length) % 2 ^ 64

/-- One step of a part in flight. The first error ends the pool. -/
def onTask (transfer : Transfer) (uploads : Uploads) (number : PartNumber)
    (event : TaskEvent) : Option UploadsStep :=
  match uploads.inFlight.findIdx? (fun task => task.number == number) with
  | none => none
  | some index =>
      match uploads.inFlight[index]? with
      | none => none
      | some task =>
          match task.step transfer.session transfer.builder.maxAttempts event with
          | none => none
          | some (.pending task out) =>
              some (.running { uploads with inFlight := uploads.inFlight.set index task } out)
          | some (.finished (.error error)) => some (.failed error)
          | some (.finished (.ok part)) =>
              let uploads := uploads.finish index task.length part
              some (.running uploads (uploads.progress transfer))

end Uploads

/-- Successful outcome of a managed upload. -/
structure ManagedUploadResult where
  object : CompletedObject
  fileSize : Nat
  partCount : Nat
  uploadedParts : Nat
  reusedParts : Nat
  deriving DecidableEq

/-- The end of `run` and of `run_stream`: waiting for the completion, or returned. -/
inductive Ending where
  | completing (request : Request) (uploadedParts reusedParts : Nat)
  | finished (result : Outcome ManagedUploadResult)
  deriving DecidableEq

/-- Whether the upload has ended in an error. -/
def Ending.failed : Ending → Bool
  | .finished (.error _) => true
  | _ => false

/-- The request that a part in flight is waiting for. -/
def Uploads.awaited (session : PresignedMultipart) (uploads : Uploads) (number : PartNumber) :
    Option Request :=
  match uploads.inFlight.find? (fun task => task.number == number) with
  | some ⟨number, _, .requesting body _⟩ => some (uploadPartRequest session number body)
  | _ => none

section Steps

variable {transfer : Transfer} {session : PresignedMultipart} {maxAttempts : Nat}

/-- Reading a planned part of a file of the planned size gives the slice of the file. -/
theorem readPart_eq {plan : MultipartPlan} {content : List UInt8} {number : PartNumber}
    (size : content.length = plan.fileSize) (planned : number.get ≤ plan.partCount) :
    readPart (.content content) plan.partSize number
        (blockLength plan.fileSize plan.partSize number.index) =
      .ok (block plan.partSize number.index content) := by
  have offset : number.index * plan.partSize < plan.fileSize := by
    rw [← lt_ceilDiv_iff plan.partSize_pos, ← plan.partCount_eq]
    exact plan.index_lt planned
  have large := plan.fileSize_le
  simp only [maxMultipartObjectSize] at large
  have short := blockLength_le plan.fileSize plan.partSize number.index
  have part := plan.partSize_valid.2
  simp only [maxMultipartPartSize, maxUploadSize, minMultipartPartSize] at part
  have capacity : usizeTryFrom (blockLength plan.fileSize plan.partSize number.index) =
      some (blockLength plan.fileSize plan.partSize number.index) := by
    rw [usizeTryFrom, if_pos]
    simp only [usizeMax]
    omega
  have slice : (content.drop ((number.get - 1) * plan.partSize)).take
      (blockLength plan.fileSize plan.partSize number.index) =
        block plan.partSize number.index content := by
    rw [← PartNumber.index, block, ← size, blockLength, Nat.min_comm, ← List.length_drop,
      ← List.take_eq_take_min]
  have start : (number.get - 1) * plan.partSize ≤ u64Max := by
    rw [← PartNumber.index]
    simp only [u64Max]
    omega
  simp only [readPart, reduceCtorEq, if_false, capacity, slice]
  rw [if_neg (Nat.not_lt.mpr start), if_pos]
  rw [length_block, size]

/-- Everything one step of the future of a part can be. -/
theorem PartTask.step_cases {task : PartTask} {event : TaskEvent} {outcome : TaskStep}
    (taken : task.step session maxAttempts event = some outcome) :
    (∃ view error, task.phase = .reading ∧ event = .read view ∧
      readPart view session.plan.partSize task.number task.length = .error error ∧
      outcome = .finished (.error error)) ∨
    (∃ view body, task.phase = .reading ∧ event = .read view ∧
      readPart view session.plan.partSize task.number task.length = .ok body ∧
      outcome = .pending { task with phase := .requesting body 1 }
        [.send (uploadPartRequest session task.number body)]) ∨
    (∃ body attempt random answer result, task.phase = .requesting body attempt ∧
      event = .answered random answer ∧
      retryStep maxAttempts isRetryable sdkRetryAfter attempt random answer = .done result ∧
      outcome = .finished (uploadPartAnswer task.number result)) ∨
    (∃ body attempt random error delay, task.phase = .requesting body attempt ∧
      event = .answered random (.error error) ∧ attempt < maxAttempts ∧
      outcome = .pending { task with phase := .sleeping body (attempt + 1) delay } []) ∨
    (∃ body attempt delay, task.phase = .sleeping body attempt delay ∧ event = .woken ∧
      outcome = .pending { task with phase := .requesting body attempt }
        [.send (uploadPartRequest session task.number body)]) := by
  unfold PartTask.step at taken
  split at taken
  · rename_i view phase
    split at taken
    · rename_i error failed
      cases taken
      exact Or.inl ⟨view, error, phase, rfl, failed, rfl⟩
    · rename_i body bytes
      cases taken
      exact Or.inr (Or.inl ⟨view, body, phase, rfl, bytes, rfl⟩)
  · rename_i body attempt random answer phase
    split at taken
    · rename_i result ended
      cases taken
      exact Or.inr (Or.inr (Or.inl ⟨body, attempt, random, answer, result, phase, rfl, ended, rfl⟩))
    · rename_i delay next slept
      cases taken
      obtain ⟨rfl, below, error, rfl, -⟩ := retryStep_eq_sleep slept
      exact Or.inr (Or.inr (Or.inr (Or.inl
        ⟨body, attempt, random, error, delay, phase, rfl, below, rfl⟩)))
  · rename_i body attempt delay phase
    cases taken
    exact Or.inr (Or.inr (Or.inr (Or.inr ⟨body, attempt, delay, phase, rfl, rfl⟩)))
  · cases taken

/-- A part that has been read is sent. -/
theorem PartTask.step_read {task : PartTask} {view : FileView} {body : List UInt8}
    (reading : task.phase = .reading)
    (read : readPart view session.plan.partSize task.number task.length = .ok body) :
    task.step session maxAttempts (.read view) =
      some (.pending { task with phase := .requesting body 1 }
        [.send (uploadPartRequest session task.number body)]) := by
  simp only [PartTask.step, reading, read]

/-- A part is uploaded with the ETag of its answer. -/
theorem PartTask.step_answered {task : PartTask} {body : List UInt8} {attempt random : Nat}
    {etag : String} (requesting : task.phase = .requesting body attempt) (named : etag ≠ "") :
    task.step session maxAttempts (.answered random (.ok (some etag))) =
      some (.finished (.ok ⟨task.number, etag, named⟩)) := by
  simp only [PartTask.step, requesting, retryStep, uploadPartAnswer, UploadedPart.new]
  rw [dif_neg named]

/-- A part that stays in flight has been read, waits for another attempt, or makes it. -/
theorem PartTask.pending_cases {task next : PartTask} {event : TaskEvent} {out : List Effect}
    (taken : task.step session maxAttempts event = some (.pending next out)) :
    (∃ view body, task.phase = .reading ∧ event = .read view ∧
      readPart view session.plan.partSize task.number task.length = .ok body ∧
      next = { task with phase := .requesting body 1 } ∧
      out = [.send (uploadPartRequest session task.number body)]) ∨
    (∃ body attempt random error delay, task.phase = .requesting body attempt ∧
      event = .answered random (.error error) ∧ attempt < maxAttempts ∧
      next = { task with phase := .sleeping body (attempt + 1) delay } ∧ out = []) ∨
    ∃ body attempt delay, task.phase = .sleeping body attempt delay ∧ event = .woken ∧
      next = { task with phase := .requesting body attempt } ∧
      out = [.send (uploadPartRequest session task.number body)] := by
  rcases PartTask.step_cases taken with ⟨_, _, -, -, -, ended⟩ |
    ⟨view, body, reading, read, bytes, same⟩ | ⟨_, _, _, _, _, -, -, -, ended⟩ |
    ⟨body, attempt, random, error, delay, phase, failed, below, same⟩ |
    ⟨body, attempt, delay, phase, woken, same⟩
  · cases ended
  · cases same
    exact Or.inl ⟨view, body, reading, read, bytes, rfl, rfl⟩
  · cases ended
  · cases same
    exact Or.inr (Or.inl ⟨body, attempt, random, error, delay, phase, failed, below, rfl, rfl⟩)
  · cases same
    exact Or.inr (Or.inr ⟨body, attempt, delay, phase, woken, rfl, rfl⟩)

/-- A part that ends could not be read, or has its last answer. -/
theorem PartTask.finished_cases {task : PartTask} {event : TaskEvent}
    {result : Except Error UploadedPart}
    (taken : task.step session maxAttempts event = some (.finished result)) :
    (∃ view error, event = .read view ∧ result = .error error) ∨
    ∃ attempt random answer done, event = .answered random answer ∧
      retryStep maxAttempts isRetryable sdkRetryAfter attempt random answer = .done done ∧
      result = uploadPartAnswer task.number done := by
  rcases PartTask.step_cases taken with ⟨view, error, -, read, -, same⟩ | ⟨_, _, -, -, -, ended⟩ |
    ⟨_, attempt, random, answer, done, -, answered, stopped, same⟩ |
    ⟨_, _, _, _, _, -, -, -, ended⟩ | ⟨_, _, _, -, -, ended⟩
  · cases same
    exact Or.inl ⟨view, error, read, rfl⟩
  · cases ended
  · cases same
    exact Or.inr ⟨attempt, random, answer, done, answered, stopped, rfl⟩
  · cases ended
  · cases ended

/-- Everything one step of the pool can be; `before` and `after` are the other parts in
    flight. -/
theorem Uploads.onTask_cases {uploads : Uploads} {number : PartNumber} {event : TaskEvent}
    {step : UploadsStep} (taken : uploads.onTask transfer number event = some step) :
    ∃ before task after, uploads.inFlight = before ++ task :: after ∧ task.number = number ∧
      uploads.inFlight.find? (fun task => task.number == number) = some task ∧
      ((∃ next out, task.step transfer.session transfer.builder.maxAttempts event =
          some (.pending next out) ∧
        step = .running { uploads with inFlight := before ++ next :: after } out) ∨
      (∃ error, task.step transfer.session transfer.builder.maxAttempts event =
          some (.finished (.error error)) ∧ step = .failed error) ∨
      (∃ part left, task.step transfer.session transfer.builder.maxAttempts event =
          some (.finished (.ok part)) ∧
        left = {
          inFlight := before ++ after
          uploaded := uploads.uploaded ++ [part]
          completedParts := asU16 (uploads.completedParts + 1)
          transferredBytes := (uploads.transferredBytes + task.length) % 2 ^ 64 } ∧
        step = .running left (left.progress transfer))) := by
  unfold Uploads.onTask at taken
  split at taken
  · cases taken
  · rename_i index found
    split at taken
    · cases taken
    · rename_i task at_index
      obtain ⟨inside, rfl⟩ := List.getElem?_eq_some_iff.mp at_index
      obtain ⟨_, test, earlier⟩ := List.findIdx?_eq_some_iff_getElem.mp found
      have named : uploads.inFlight[index].number = number := by simpa using test
      have split_at : uploads.inFlight = uploads.inFlight.take index ++
          uploads.inFlight[index] :: uploads.inFlight.drop (index + 1) := by
        rw [List.getElem_cons_drop, List.take_append_drop]
      refine ⟨uploads.inFlight.take index, uploads.inFlight[index],
        uploads.inFlight.drop (index + 1), split_at, named, ?_, ?_⟩
      · rw [List.find?_eq_some_iff_append]
        refine ⟨test, _, _, split_at, ?_⟩
        intro other member
        obtain ⟨position, below, rfl⟩ := List.mem_take_iff_getElem.mp member
        have skipped := earlier position (Nat.lt_of_lt_of_le below (Nat.min_le_left _ _))
        simpa using skipped
      split at taken
      · cases taken
      · rename_i next out stepped
        cases taken
        refine Or.inl ⟨next, out, stepped, ?_⟩
        rw [List.set_eq_take_append_cons_drop, if_pos inside]
      · rename_i error stepped
        cases taken
        exact Or.inr (Or.inl ⟨error, stepped, rfl⟩)
      · rename_i part stepped
        cases taken
        refine Or.inr (Or.inr ⟨part, _, stepped, rfl, ?_⟩)
        simp only [Uploads.finish, List.eraseIdx_eq_take_drop_succ]

/-- A step that leaves the pool running: a part stays in flight, or is uploaded. -/
theorem Uploads.running_cases {uploads next : Uploads} {number : PartNumber}
    {event : TaskEvent} {out : List Effect}
    (taken : uploads.onTask transfer number event = some (.running next out)) :
    ∃ before task after, uploads.inFlight = before ++ task :: after ∧ task.number = number ∧
      ((∃ moved, task.step transfer.session transfer.builder.maxAttempts event =
          some (.pending moved out) ∧
        next = { uploads with inFlight := before ++ moved :: after }) ∨
      (∃ part, task.step transfer.session transfer.builder.maxAttempts event =
          some (.finished (.ok part)) ∧
        next = {
          inFlight := before ++ after
          uploaded := uploads.uploaded ++ [part]
          completedParts := asU16 (uploads.completedParts + 1)
          transferredBytes := (uploads.transferredBytes + task.length) % 2 ^ 64 } ∧
        out = next.progress transfer)) := by
  obtain ⟨before, task, after, shape, named, -, cases⟩ := Uploads.onTask_cases taken
  refine ⟨before, task, after, shape, named, ?_⟩
  rcases cases with ⟨moved, sent, stepped, same⟩ | ⟨error, -, same⟩ |
    ⟨part, left, stepped, rfl, same⟩
  · cases same
    exact Or.inl ⟨moved, stepped, rfl⟩
  · cases same
  · cases same
    exact Or.inr ⟨part, stepped, rfl, rfl⟩

/-- Where a part in flight is found. -/
theorem Uploads.found_at {uploads : Uploads} {before after : List PartTask} {task : PartTask}
    (shape : uploads.inFlight = before ++ task :: after)
    (first : ∀ other ∈ before, other.number ≠ task.number) :
    uploads.inFlight.findIdx? (fun other => other.number == task.number) = some before.length ∧
      uploads.inFlight[before.length]? = some task := by
  have skipped : before.findIdx? (fun other => other.number == task.number) = none :=
    List.findIdx?_eq_none_iff.mpr (by simpa using first)
  rw [shape, List.findIdx?_append, skipped, List.findIdx?_cons]
  simp

/-- A part that stays in flight. -/
theorem Uploads.onTask_pending {uploads : Uploads} {before after : List PartTask}
    {task moved : PartTask} {event : TaskEvent} {out : List Effect}
    (shape : uploads.inFlight = before ++ task :: after)
    (first : ∀ other ∈ before, other.number ≠ task.number)
    (stepped : task.step transfer.session transfer.builder.maxAttempts event =
      some (.pending moved out)) :
    uploads.onTask transfer task.number event =
      some (.running { uploads with inFlight := before ++ moved :: after } out) := by
  obtain ⟨found, there⟩ := Uploads.found_at shape first
  simp only [Uploads.onTask, found, there, stepped]
  rw [shape, List.set_append_right _ _ (Nat.le_refl _), Nat.sub_self, List.set_cons_zero]

/-- A part that leaves the pool. -/
theorem Uploads.onTask_uploaded {uploads next : Uploads} {before after : List PartTask}
    {task : PartTask} {event : TaskEvent} {part : UploadedPart}
    (shape : uploads.inFlight = before ++ task :: after)
    (first : ∀ other ∈ before, other.number ≠ task.number)
    (stepped : task.step transfer.session transfer.builder.maxAttempts event =
      some (.finished (.ok part)))
    (left : next = {
      inFlight := before ++ after
      uploaded := uploads.uploaded ++ [part]
      completedParts := asU16 (uploads.completedParts + 1)
      transferredBytes := (uploads.transferredBytes + task.length) % 2 ^ 64 }) :
    uploads.onTask transfer task.number event =
      some (.running next (next.progress transfer)) := by
  obtain ⟨found, there⟩ := Uploads.found_at shape first
  have erased : uploads.inFlight.eraseIdx before.length = before ++ after := by
    rw [shape, List.eraseIdx_append_of_length_le (Nat.le_refl _), Nat.sub_self,
      List.eraseIdx_cons_zero]
  subst left
  simp only [Uploads.onTask, found, there, stepped, Uploads.finish, erased]

/-- The pool ends with the error of a part in flight. -/
theorem Uploads.failed_cases {uploads : Uploads} {number : PartNumber} {event : TaskEvent}
    {error : Error} (taken : uploads.onTask transfer number event = some (.failed error)) :
    ∃ task ∈ uploads.inFlight, task.number = number ∧
      task.step transfer.session transfer.builder.maxAttempts event =
        some (.finished (.error error)) := by
  obtain ⟨before, task, after, shape, named, -, cases⟩ := Uploads.onTask_cases taken
  refine ⟨task, by simp [shape], named, ?_⟩
  rcases cases with ⟨_, _, -, other⟩ | ⟨_, ended, same⟩ | ⟨_, _, -, -, other⟩
  · cases other
  · cases same
    exact ended
  · cases other

/-- The part that was first taken into flight may go on. -/
theorem Uploads.onTask_head {uploads : Uploads} {task : PartTask} {rest : List PartTask}
    {event : TaskEvent} {outcome : TaskStep} (shape : uploads.inFlight = task :: rest)
    (stepped : task.step transfer.session transfer.builder.maxAttempts event = some outcome) :
    ∃ step, uploads.onTask transfer task.number event = some step := by
  have found : uploads.inFlight.findIdx? (fun other => other.number == task.number) = some 0 := by
    rw [shape, List.findIdx?_cons]
    simp
  have first : uploads.inFlight[0]? = some task := by rw [shape]; rfl
  simp only [Uploads.onTask, found, first, stepped]
  cases outcome with
  | pending next out => exact ⟨_, rfl⟩
  | finished result => cases result <;> exact ⟨_, rfl⟩

theorem Uploads.mem_inFlight_iff {uploads : Uploads} {before after : List PartTask}
    {task other : PartTask} (shape : uploads.inFlight = before ++ task :: after) :
    other ∈ uploads.inFlight ↔ other = task ∨ other ∈ before ∨ other ∈ after := by
  rw [shape, List.mem_append, List.mem_cons]
  exact or_left_comm

/-- The ETag of a successful answer, with the part it was for. -/
def TaskEvent.success (number : PartNumber) :
    TaskEvent → List (PartNumber × Option String)
  | .answered _ (.ok etag) => [(number, etag)]
  | _ => []

/-- The answer a part was recorded from. -/
def UploadedPart.answer (part : UploadedPart) : PartNumber × Option String :=
  (part.partNumber, some part.etag)

/-- A part that has been read holds its slice. -/
def PartTask.Holds (slice : PartNumber → List UInt8) (task : PartTask) : Prop :=
  match task.phase with
  | .reading => True
  | .requesting body _ => body = slice task.number
  | .sleeping body _ _ => body = slice task.number

theorem uploadPartAnswer_eq_ok_iff {number : PartNumber}
    {answer : Except SdkError (Option String)} {part : UploadedPart} :
    uploadPartAnswer number answer = .ok part ↔
      part.partNumber = number ∧ answer = .ok (some part.etag) := by
  unfold uploadPartAnswer
  split
  · simp
  · simp
  · rename_i etag
    rw [UploadedPart.new_eq_ok_iff]
    simp [eq_comm]

/-- A part that stays in flight keeps its number and its slice, and sends nothing else. -/
theorem PartTask.step_pending {slice : PartNumber → List UInt8} {task next : PartTask}
    {event : TaskEvent} {out : List Effect}
    (stepped : task.step session maxAttempts event = some (.pending next out))
    (holds : task.Holds slice)
    (reads : task.phase = .reading → ∀ view body, event = .read view →
      readPart view session.plan.partSize task.number task.length = .ok body →
      body = slice task.number) :
    next.number = task.number ∧ next.length = task.length ∧ next.phase ≠ .reading ∧
      next.Holds slice ∧ event.success task.number = [] ∧ ∀ effect ∈ out, effect =
        .send (uploadPartRequest session task.number (slice task.number)) := by
  rcases PartTask.pending_cases stepped with ⟨view, body, reading, rfl, read, rfl, rfl⟩ |
    ⟨body, attempt, random, error, delay, phase, rfl, -, rfl, rfl⟩ |
    ⟨body, attempt, delay, phase, rfl, rfl, rfl⟩
  · obtain rfl := reads reading view body rfl read
    exact ⟨rfl, rfl, by simp, rfl, rfl, by simp⟩
  · simp only [PartTask.Holds, phase] at holds
    exact ⟨rfl, rfl, by simp, holds, rfl, by simp⟩
  · simp only [PartTask.Holds, phase] at holds
    subst holds
    exact ⟨rfl, rfl, by simp, rfl, rfl, by simp⟩

/-- A part ends well only on a successful answer with its ETag. -/
theorem PartTask.step_uploaded {task : PartTask} {event : TaskEvent} {part : UploadedPart}
    (stepped : task.step session maxAttempts event = some (.finished (.ok part))) :
    part.partNumber = task.number ∧ event.success task.number = [part.answer] := by
  rcases PartTask.finished_cases stepped with ⟨_, _, -, failed⟩ |
    ⟨attempt, random, answer, done, rfl, stopped, same⟩
  · cases failed
  · obtain ⟨named, rfl⟩ := uploadPartAnswer_eq_ok_iff.mp same.symm
    obtain rfl := retryStep_eq_done stopped
    exact ⟨named, by simp [TaskEvent.success, UploadedPart.answer, named]⟩

/-- What a step that leaves the pool running does: the numbers only move from the parts in
    flight to the uploaded ones, on a successful answer, and what is sent is a slice. -/
structure Uploads.Advances (transfer : Transfer) (slice : PartNumber → List UInt8)
    (number : PartNumber) (event : TaskEvent) (uploads next : Uploads) (out : List Effect) :
    Prop where
  holds : ∀ task ∈ next.inFlight, task.Holds slice
  tasks : ∀ task ∈ next.inFlight, ∃ old ∈ uploads.inFlight,
    old.number = task.number ∧ old.length = task.length ∧
      (old.phase ≠ .reading → task.phase ≠ .reading)
  numbers : (next.inFlight.map PartTask.number ++
      next.uploaded.map UploadedPart.partNumber).Perm
    (uploads.inFlight.map PartTask.number ++ uploads.uploaded.map UploadedPart.partNumber)
  results : next.uploaded.map UploadedPart.answer =
    uploads.uploaded.map UploadedPart.answer ++ event.success number
  sends : ∀ effect ∈ out, (∃ progress, effect = .report progress) ∨
    ∃ task ∈ uploads.inFlight, effect =
      .send (uploadPartRequest transfer.session task.number (slice task.number))

theorem Uploads.progress_report {uploads : Uploads} {effect : Effect}
    (reported : effect ∈ uploads.progress transfer) : ∃ progress, effect = .report progress := by
  unfold Uploads.progress at reported
  split at reported
  · exact ⟨_, List.mem_singleton.mp reported⟩
  · cases reported

/-- The rule for the pool: a step that does not end it advances it. -/
theorem Uploads.onTask_advances {slice : PartNumber → List UInt8} {uploads next : Uploads}
    {number : PartNumber} {event : TaskEvent} {out : List Effect}
    (taken : uploads.onTask transfer number event = some (.running next out))
    (holds : ∀ task ∈ uploads.inFlight, task.Holds slice)
    (reads : ∀ task ∈ uploads.inFlight, task.phase = .reading → ∀ view body,
      event = .read view →
      readPart view transfer.session.plan.partSize task.number task.length = .ok body →
      body = slice task.number) :
    Uploads.Advances transfer slice number event uploads next out := by
  obtain ⟨before, task, after, shape, rfl, cases⟩ := Uploads.running_cases taken
  have among : task ∈ uploads.inFlight := (Uploads.mem_inFlight_iff shape).mpr (Or.inl rfl)
  have others : ∀ other, other ∈ before ∨ other ∈ after → other ∈ uploads.inFlight :=
    fun other member => (Uploads.mem_inFlight_iff shape).mpr (Or.inr member)
  rcases cases with ⟨moved, stepped, rfl⟩ | ⟨part, stepped, rfl, rfl⟩
  · obtain ⟨number_eq, length_eq, buffered, held, quiet, sends⟩ :=
      PartTask.step_pending stepped (holds task among) (reads task among)
    constructor
    · intro other member
      rcases List.mem_append.mp member with first | rest
      · exact holds other (others other (Or.inl first))
      · rcases List.mem_cons.mp rest with rfl | last
        · exact held
        · exact holds other (others other (Or.inr last))
    · intro other member
      rcases List.mem_append.mp member with first | rest
      · exact ⟨other, others other (Or.inl first), rfl, rfl, id⟩
      · rcases List.mem_cons.mp rest with rfl | last
        · exact ⟨task, among, number_eq.symm, length_eq.symm, fun _ => buffered⟩
        · exact ⟨other, others other (Or.inr last), rfl, rfl, id⟩
    · simp [shape, number_eq]
    · simp [quiet]
    · intro effect member
      exact Or.inr ⟨task, among, sends effect member⟩
  · obtain ⟨named, success⟩ := PartTask.step_uploaded stepped
    constructor
    · intro other member
      exact holds other (others other (List.mem_append.mp member))
    · intro other member
      exact ⟨other, others other (List.mem_append.mp member), rfl, rfl, id⟩
    · simp only [shape, List.map_append, List.map_cons, List.map_nil, named]
      grind
    · simp [success]
    · intro effect member
      exact Or.inl (Uploads.progress_report member)

/-- A part that takes an answer was waiting for it, with its slice. -/
theorem Uploads.awaited_eq {slice : PartNumber → List UInt8} {uploads : Uploads}
    {number : PartNumber} {random : Nat} {answer : Except SdkError (Option String)}
    {step : UploadsStep}
    (taken : uploads.onTask transfer number (.answered random answer) = some step)
    (holds : ∀ task ∈ uploads.inFlight, task.Holds slice) :
    uploads.awaited transfer.session number =
      some (uploadPartRequest transfer.session number (slice number)) := by
  obtain ⟨before, task, after, shape, rfl, found, cases⟩ := Uploads.onTask_cases taken
  have accepted : ∃ outcome, task.step transfer.session transfer.builder.maxAttempts
      (.answered random answer) = some outcome := by
    rcases cases with ⟨_, _, stepped, -⟩ | ⟨_, stepped, -⟩ | ⟨_, _, stepped, -, -⟩
    · exact ⟨_, stepped⟩
    · exact ⟨_, stepped⟩
    · exact ⟨_, stepped⟩
  have requesting : ∃ body attempt, task.phase = .requesting body attempt := by
    obtain ⟨outcome, stepped⟩ := accepted
    rcases PartTask.step_cases stepped with ⟨_, _, -, other, -⟩ | ⟨_, _, -, other, -⟩ |
      ⟨body, attempt, _, _, _, phase, -⟩ | ⟨body, attempt, _, _, _, phase, -⟩ |
      ⟨_, _, _, -, other, -⟩
    · cases other
    · cases other
    · exact ⟨body, attempt, phase⟩
    · exact ⟨body, attempt, phase⟩
    · cases other
  obtain ⟨body, attempt, phase⟩ := requesting
  have held := holds task ((Uploads.mem_inFlight_iff shape).mpr (Or.inl rfl))
  obtain ⟨number, length, _⟩ := task
  subst phase
  obtain rfl : body = slice number := held
  rw [Uploads.awaited, found]

end Steps

namespace Ending

/-- From the map of all parts to `complete`. -/
def start (session : PresignedMultipart) (manifest : PartMap)
    (uploadedParts reusedParts : Nat) : Ending × List Effect :=
  match CompletionManifest.tryFromParts (intoValues manifest) with
  | .error error => (.finished (.error (.error error)), [])
  | .ok completion =>
      match session.completeRequest completion with
      | .error error => (.finished (.error (.error error)), [])
      | .ok request => (.completing request uploadedParts reusedParts, [.send request])

/-- From the answer to `complete` to the result. -/
def onCompleted (session : PresignedMultipart) (uploadedParts reusedParts : Nat)
    (answer : Except SdkError (Option String)) : Ending :=
  match PresignedMultipart.completeAnswer answer with
  | .error error => .finished (.error (.error error))
  | .ok object =>
      .finished (.ok {
        object
        fileSize := session.plan.fileSize
        partCount := session.partCount
        uploadedParts, reusedParts })

/-- Either there is an error, or the request to complete is all that is sent. -/
theorem start_cases (session : PresignedMultipart) (manifest : PartMap)
    (uploadedParts reusedParts : Nat) :
    (∃ error, start session manifest uploadedParts reusedParts =
      (.finished (.error (.error error)), [])) ∨
    ∃ completion request, session.completeRequest completion = .ok request ∧
      start session manifest uploadedParts reusedParts =
        (.completing request uploadedParts reusedParts, [.send request]) := by
  unfold start
  split
  · rename_i error _
    exact Or.inl ⟨error, rfl⟩
  · rename_i completion _
    split
    · rename_i error _
      exact Or.inl ⟨error, rfl⟩
    · rename_i request accepted
      exact Or.inr ⟨completion, request, accepted, rfl⟩

/-- A map that holds exactly the planned parts passes both checks on the way to the
    request. -/
theorem start_of_planned {session : PresignedMultipart} {manifest : PartMap}
    (keyed : Keyed UploadedPart.partNumber manifest) (uploadedParts reusedParts : Nat)
    (planned : ((intoValues manifest).map UploadedPart.partNumber).Perm session.plan.numbers) :
    ∃ (completion : CompletionManifest) (request : Request),
      completion.parts = intoValues manifest ∧ session.coversPlan completion = true ∧
      session.completeRequest completion = .ok request ∧
      start session manifest uploadedParts reusedParts =
        (.completing request uploadedParts reusedParts, [.send request]) := by
  have ascending := keyed.pairwise_intoValues
  have numbers : (intoValues manifest).map UploadedPart.partNumber = session.plan.numbers := by
    have sorted : ((intoValues manifest).map UploadedPart.partNumber).Pairwise
        (fun first second => compare first second = .lt) := by
      rw [List.pairwise_map]
      exact ascending
    exact @eq_of_perm_of_ascending _ _ _ _ id _ _ sorted session.plan.ascending_numbers planned
  have nonempty : intoValues manifest ≠ [] := by
    intro empty
    have count := congrArg List.length numbers
    rw [empty, List.map_nil, MultipartPlan.length_numbers] at count
    exact absurd count.symm (Nat.ne_of_gt session.plan.partCount_pos)
  let completion : CompletionManifest := ⟨intoValues manifest, nonempty, ascending⟩
  have made : CompletionManifest.tryFromParts (intoValues manifest) = .ok completion := by
    rw [CompletionManifest.tryFromParts_eq_ok_iff]
    refine ⟨?_, .refl _⟩
    rw [numbers]
    exact session.plan.nodup_numbers
  have covers : session.coversPlan completion = true :=
    PresignedMultipart.coversPlan_iff.mpr numbers
  have accepted : session.completeRequest completion =
      .ok (session.request (.completeMultipartUpload
        (completion.parts.map (fun part => ⟨part.partNumber.get, part.etag⟩)))) :=
    PresignedMultipart.completeRequest_eq_ok_iff.mpr ⟨numbers, rfl⟩
  refine ⟨completion, _, rfl, covers, accepted, ?_⟩
  simp only [start, made, accepted]

end Ending

end R2kit
