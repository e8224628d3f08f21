import R2kit.Managed.Attempts
import R2kit.Managed.Memory
import R2kit.Managed.Snapshot

/-!
# The memory an upload of a file holds

On the file path a buffer is allocated by the future of its part, so there are never more
than `concurrency` of them. What `validate` asks of `max_buffered_bytes` is then enough.
-/

namespace R2kit

open Misc

section Buffers

variable {transfer : Transfer} {history : History RunEvent Effect}

/-- A part in flight holds at most the buffer that was allocated for it, of at most a part. -/
structure PartTask.Buffered (partSize : Nat) (task : PartTask) : Prop where
  held : task.held ≤ task.length
  sized : task.length ≤ partSize

/-- Few parts in flight, none of them larger than a part. -/
structure Uploads.Bounded (transfer : Transfer) (uploads : Uploads) : Prop where
  parallel : uploads.inFlight.length ≤ transfer.builder.concurrency
  buffered : ∀ task ∈ uploads.inFlight, task.Buffered transfer.session.plan.partSize

/-- The bytes of all buffers: each is there from before its part is read until the part is
    done with. -/
def RunState.buffers : RunState → Nat
  | .uploading _ _ uploads => (uploads.inFlight.map PartTask.length).sum
  | _ => 0

/-- The bytes that the buffers hold of the file. -/
def RunState.held : RunState → Nat
  | .uploading _ _ uploads => (uploads.inFlight.map PartTask.held).sum
  | _ => 0

/-- Where parts are uploaded, what is in flight is bounded. -/
def FileBounded (transfer : Transfer) : RunState → Prop
  | .uploading _ _ uploads => uploads.Bounded transfer
  | _ => True

/-- What is read fills the buffer. -/
theorem length_of_readPart {view : FileView} {partSize length : Nat} {number : PartNumber}
    {body : List UInt8} (read : readPart view partSize number length = .ok body) :
    body.length = length := by
  unfold readPart at read
  split at read
  · cases read
  · split at read
    · cases read
    · split at read
      · cases read
      · split at read
        · cases read
        · rename_i capacity fits
          have same : capacity = length := by
            rw [usizeTryFrom] at fits
            split at fits
            · exact (Option.some.inj fits).symm
            · cases fits
          split at read
          · split at read
            · rename_i filled
              cases read
              rw [filled, same]
            · cases read
          · cases read

theorem PartTask.Buffered.step {session : PresignedMultipart} {maxAttempts partSize : Nat}
    {task moved : PartTask} {event : TaskEvent} {out : List Effect}
    (buffered : task.Buffered partSize)
    (stepped : task.step session maxAttempts event = some (.pending moved out)) :
    moved.Buffered partSize := by
  obtain ⟨held, sized⟩ := buffered
  rcases PartTask.pending_cases stepped with ⟨view, body, phase, rfl, read, rfl, rfl⟩ |
    ⟨body, attempt, random, error, delay, phase, rfl, below, rfl, rfl⟩ |
    ⟨body, attempt, delay, phase, rfl, rfl, rfl⟩
  · exact ⟨Nat.le_of_eq (length_of_readPart read), sized⟩
  · rw [PartTask.held, phase] at held
    exact ⟨held, sized⟩
  · rw [PartTask.held, phase] at held
    exact ⟨held, sized⟩

/-- A step of the pool takes no buffer more. -/
theorem Uploads.Bounded.onTask {uploads next : Uploads} {number : PartNumber} {event : TaskEvent}
    {out : List Effect} (bounded : uploads.Bounded transfer)
    (moved : uploads.onTask transfer number event = some (.running next out)) :
    next.Bounded transfer := by
  obtain ⟨parallel, buffered⟩ := bounded
  obtain ⟨before, task, after, shape, -, ⟨still, stepped, rfl⟩ | ⟨part, -, rfl, -⟩⟩ :=
    Uploads.running_cases moved
  · rw [shape, List.forall_mem_append, List.forall_mem_cons] at buffered
    rw [shape] at parallel
    constructor
    · simpa using parallel
    · rw [List.forall_mem_append, List.forall_mem_cons]
      exact ⟨buffered.1, buffered.2.1.step stepped, buffered.2.2⟩
  · rw [shape, List.forall_mem_append, List.forall_mem_cons] at buffered
    rw [shape] at parallel
    constructor
    · simp only [List.length_append, List.length_cons] at parallel ⊢
      omega
    · rw [List.forall_mem_append]
      exact ⟨buffered.1, buffered.2.2⟩

theorem afterUploads_bounded {reused : PartMap} {queue : List (PartNumber × Nat)}
    {uploads : Uploads} (bounded : uploads.Bounded transfer) :
    FileBounded transfer (Transfer.afterUploads reused queue uploads) := by
  unfold Transfer.afterUploads
  split
  · trivial
  · exact bounded

theorem prepare_bounded {existing : List UploadedPart} :
    FileBounded transfer (transfer.prepare existing).1 := by
  unfold Transfer.prepare
  split
  · trivial
  · dsimp only
    split
    · trivial
    · exact afterUploads_bounded ⟨Nat.zero_le _, List.forall_mem_nil _⟩

theorem fileBounded_step {fingerprint : SourceFileFingerprint} {s s' : RunState}
    {event : RunEvent} {out : List Effect} (pooled : ReportInvariant transfer history s)
    (bounded : FileBounded transfer s)
    (taken : (transfer.runFile fingerprint).step s event = some (s', out)) :
    FileBounded transfer s' := by
  cases Transfer.runStep_of_step taken with
  | list resumed => trivial
  | fresh new => exact prepare_bounded
  | unlisted failed => trivial
  | page accepted => trivial
  | lastPage accepted => exact prepare_bounded
  | @start reused number length queue uploads room =>
      have planned : number.get ≤ transfer.session.plan.partCount := by
        apply pooled.parts.planned
        simp
      have small : length ≤ transfer.session.plan.partSize := by
        have sized : length = transfer.session.plan.bytesOf number :=
          pooled.sized (number, length) List.mem_cons_self
        rw [sized, bytesOf_eq planned]
        exact blockLength_le _ _ _
      constructor
      · rw [List.length_append, List.length_singleton]
        exact room
      · rw [List.forall_mem_append, List.forall_mem_singleton]
        exact ⟨bounded.buffered, Nat.zero_le _, small⟩
  | partFailed failed => trivial
  | part moved => exact afterUploads_bounded (Uploads.Bounded.onTask bounded moved)
  | changed differs => trivial
  | unchanged same => trivial
  | completed => trivial

theorem fileBounded_of_reaches {fingerprint : SourceFileFingerprint} {s : RunState}
    (run : (transfer.runFile fingerprint).Reaches .ready history s) :
    FileBounded transfer s := by
  have initial : FileBounded transfer .ready := trivial
  exact run.invariant (P := fun _ s => FileBounded transfer s) initial
    (fun _ _ _ _ _ before bounded taken =>
      fileBounded_step (reportInvariant_of_reaches before) bounded taken)

/-- The buffers hold no more than they are large, and that is no more than a part each. -/
theorem FileBounded.buffers_le {s : RunState} (bounded : FileBounded transfer s) :
    s.held ≤ s.buffers ∧
      s.buffers ≤ transfer.builder.concurrency * transfer.session.plan.partSize := by
  cases s with
  | uploading reused queue uploads =>
      obtain ⟨parallel, buffered⟩ := bounded
      constructor
      · exact List.sum_le_sum (fun task member => (buffered task member).held)
      · have most := List.sum_le_card_nsmul (uploads.inFlight.map PartTask.length)
          transfer.session.plan.partSize (by
            intro length member
            obtain ⟨task, among, rfl⟩ := List.mem_map.mp member
            exact (buffered task among).sized)
        rw [List.length_map, smul_eq_mul] at most
        exact Nat.le_trans most (Nat.mul_le_mul_right _ parallel)
  | ready => exact ⟨Nat.le_refl 0, Nat.zero_le _⟩
  | listing state => exact ⟨Nat.le_refl 0, Nat.zero_le _⟩
  | checking manifest uploadedCount reusedCount => exact ⟨Nat.le_refl 0, Nat.zero_le _⟩
  | ending ending => exact ⟨Nat.le_refl 0, Nat.zero_le _⟩

end Buffers

section Call

variable {crates : Crates} {builder : ManagedMultipartBuilder}

/-- New or resumed, the session of an upload of a file has the part size of its builder. -/
theorem partSize_of_opens {boot : FileBoot} {session : PresignedMultipart}
    (opens : (uploadFile crates builder).Opens boot session) :
    session.plan.partSize = builder.partSize := by
  cases opens with
  | resumed known =>
      obtain ⟨file, reached⟩ :=
        ManagedMultipartBuilder.reaches_of_beginFile (Entry.Opens.resumed known).passed
      have begins := ManagedMultipartBuilder.beginFile_of_reaches reached
      rw [show builder.beginFile crates boot.metadata boot.cancelled = _ from known] at begins
      cases resume : builder.resume with
      | some snapshot =>
          rw [resume] at begins
          obtain ⟨-, part_eq, same⟩ :=
            ManagedMultipartBuilder.beginResumed_eq_resumed_iff.mp begins.symm
          rw [← part_eq, ← snapshot_of_resume same]
          rfl
      | none =>
          rw [resume] at begins
          exact absurd begins.symm ManagedMultipartBuilder.beginNew_ne_resumed
  | @created request plan input answer _ begun made =>
      obtain ⟨-, -, -, -, part_eq⟩ := uploadFile_faithful.creating boot request plan input begun
      obtain ⟨uploadId, -, rfl⟩ := PresignedMultipartBuilder.created_eq_ok_iff.mp made
      exact part_eq

/-- An upload of a file keeps its memory budget: in every state that a call comes to, new or
    resumed and whatever the order in which its parts go on, the buffers of the parts in
    flight are no larger together than `max_buffered_bytes`. The product that `validate`
    compares with it has not saturated. -/
theorem uploadFile_budget (crates : Crates) (builder : ManagedMultipartBuilder) :
    ∀ history boot session s,
      (managedCall builder (uploadFile crates builder)).Reaches .ready history
        (.running boot session s) →
      requiredBufferBytes builder.partSize builder.concurrency =
          builder.partSize * builder.concurrency ∧
        s.held ≤ s.buffers ∧ s.buffers ≤ builder.maxBufferedBytes := by
  intro history boot session s run
  obtain ⟨ran, past⟩ := knows_of_reaches run
  have bounded : FileBounded ⟨builder, session⟩ s := fileBounded_of_reaches past.reached
  obtain ⟨held, buffers⟩ := bounded.buffers_le
  obtain ⟨file, valid, -⟩ := ManagedMultipartBuilder.reaches_of_beginFile past.opens.passed
  obtain ⟨-, limits, -⟩ := ManagedMultipartBuilder.validate_ok_iff.mp valid
  obtain ⟨⟨-, few⟩, -, budget⟩ := ManagedMultipartBuilder.validateLimits_ok_iff.mp limits
  have part_eq := partSize_of_opens past.opens
  have small := session.plan.partSize_valid.2
  rw [part_eq] at small buffers
  have product := requiredBufferBytes_eq small few
  refine ⟨product, held, ?_⟩
  rw [product, Nat.mul_comm] at budget
  exact Nat.le_trans buffers budget

/-- A call whose only part has been read. -/
theorem uploadFile_budget_reading :
    ∃ history boot session s,
      (managedCall .tiny (uploadFile .minimal .tiny)).Reaches .ready history
        (.running boot session s) ∧
      s.buffers = 3 ∧
      requiredBufferBytes ManagedMultipartBuilder.tiny.partSize
          ManagedMultipartBuilder.tiny.concurrency =
        ManagedMultipartBuilder.tiny.partSize * ManagedMultipartBuilder.tiny.concurrency ∧
      s.held ≤ s.buffers ∧ s.buffers ≤ ManagedMultipartBuilder.tiny.maxBufferedBytes := by
  let events : List (CallEvent FileBoot RunEvent) := [
    .poll ⟨some ⟨true, 3, some 0, 0, 0⟩, false⟩, .created (.ok (some "u")), .inner .poll,
    .inner .start, .inner (.task ⟨1, by decide⟩ (.read (.content [1, 2, 3])))]
  have executed : (((managedCall .tiny (uploadFile .minimal .tiny)).exec .ready events).bind
      (fun final => final.2.run?)).map (fun running => running.2.2.buffers) = some 3 := by decide
  obtain ⟨⟨boot, session, s⟩, running, size⟩ := Option.map_eq_some_iff.mp executed
  obtain ⟨⟨history, final⟩, reached, is⟩ := Option.bind_eq_some_iff.mp running
  have at_final : final = .running boot session s := running_of_run? is
  have run := Machine.reaches_of_exec reached
  rw [at_final] at run
  exact ⟨history, boot, session, s, run, size,
    uploadFile_budget .minimal .tiny history boot session s run⟩

end Call

end R2kit
