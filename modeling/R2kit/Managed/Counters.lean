import Mathlib.Data.List.Chain
import R2kit.Managed.Accounting

/-!
# The progress counters

The counters of the parts that `run` and `run_stream` of `src/managed.rs` have in common, and
what is reported from them. A report is a function of the reused parts and of the parts that
have completed so far, in the order of their completion; everything else about the reports (that
they grow, that they stay within the totals, that the 16-bit and the 64-bit counter do not wrap)
follows from the plan.
-/

namespace R2kit

open Misc

/-- The planned length of a part, as a number. -/
def MultipartPlan.bytesOf (plan : MultipartPlan) (number : PartNumber) : Nat :=
  match plan.partLength number with
  | .ok length => length
  | .error _ => 0

/-- What is reported when these parts are there. -/
def reportOf (plan : MultipartPlan) (done : List PartNumber) : ManagedUploadProgress where
  completedParts := done.length
  totalParts := plan.partCount
  transferredBytes := (done.map plan.bytesOf).sum
  totalBytes := plan.fileSize

/-- The progress that an effect reports. -/
def Effect.progress? : Effect → Option ManagedUploadProgress
  | .report progress => some progress
  | _ => none

/-- The callbacks of a run, in order. -/
def reports {Event : Type} (history : History Event Effect) : List ManagedUploadProgress :=
  history.outputs.filterMap Effect.progress?

/-- The part that an event completes: one whose upload is answered with an ETag. -/
def TaskEvent.completion (number : PartNumber) : TaskEvent → List PartNumber
  | .answered _ (.ok (some etag)) => if etag = "" then [] else [number]
  | _ => []

section Plan

variable {plan : MultipartPlan} {done : List PartNumber}

theorem bytesOf_eq {number : PartNumber} (planned : number.get ≤ plan.partCount) :
    plan.bytesOf number = blockLength plan.fileSize plan.partSize number.index := by
  rw [MultipartPlan.bytesOf, plan.partLength_eq planned]

theorem bytesOf_pos {number : PartNumber} (planned : number.get ≤ plan.partCount) :
    0 < plan.bytesOf number := by
  rw [bytesOf_eq planned]
  apply blockLength_pos plan.partSize_pos
  rw [← plan.partCount_eq]
  exact plan.index_lt planned

/-- Some of the planned parts, each at most once. -/
structure Parts (plan : MultipartPlan) (done : List PartNumber) : Prop where
  distinct : done.Nodup
  planned : ∀ number ∈ done, number.get ≤ plan.partCount

theorem Parts.sum_eq (parts : Parts plan done) :
    (done.map plan.bytesOf).sum = (done.map (fun number =>
      blockLength plan.fileSize plan.partSize number.index)).sum := by
  congr 1
  apply List.map_congr_left
  intro number member
  exact bytesOf_eq (parts.planned number member)

theorem Parts.sublist {some : List PartNumber} (parts : Parts plan done)
    (among : some.Sublist done) : Parts plan some :=
  ⟨among.nodup parts.distinct, fun number member => parts.planned number (among.subset member)⟩

theorem Parts.perm {other : List PartNumber} (parts : Parts plan done) (same : other.Perm done) :
    Parts plan other :=
  ⟨same.nodup_iff.mpr parts.distinct, fun number member =>
    parts.planned number (same.subset member)⟩

/-- One part more is one more in the report, with its bytes. -/
theorem reportOf_snoc (done : List PartNumber) (number : PartNumber) :
    (reportOf plan (done ++ [number])).completedParts = (reportOf plan done).completedParts + 1 ∧
      (reportOf plan (done ++ [number])).transferredBytes =
        (reportOf plan done).transferredBytes + plan.bytesOf number := by
  refine ⟨?_, ?_⟩
  · simp only [reportOf, List.length_append, List.length_singleton]
  · simp only [reportOf, List.map_append, List.sum_append, List.map_cons, List.map_nil,
      List.sum_cons, List.sum_nil, Nat.add_zero]

/-- A report stays within its totals, and these within their machine integers. -/
theorem Parts.bounds (parts : Parts plan done) :
    (reportOf plan done).completedParts ≤ (reportOf plan done).totalParts ∧
      (reportOf plan done).transferredBytes ≤ (reportOf plan done).totalBytes ∧
      (reportOf plan done).totalParts < 2 ^ 16 ∧ (reportOf plan done).totalBytes < 2 ^ 64 := by
  refine ⟨?_, ?_, Nat.lt_of_le_of_lt plan.partCount_le (by decide),
    Nat.lt_of_le_of_lt plan.fileSize_le (by decide)⟩
  · show done.length ≤ plan.partCount
    rw [← plan.length_numbers]
    exact (parts.distinct.subperm (fun number member =>
      plan.mem_numbers.mpr (parts.planned number member))).length_le
  · show (done.map plan.bytesOf).sum ≤ plan.fileSize
    rw [parts.sum_eq]
    exact plan.sum_partLength_le parts.distinct parts.planned

/-- When every part is there, the report says so exactly. -/
theorem Parts.complete (parts : Parts plan done) (all_there : ∀ number ∈ plan.numbers,
    number ∈ done) :
    reportOf plan done = ⟨plan.partCount, plan.partCount, plan.fileSize, plan.fileSize⟩ := by
  have same : done.Perm plan.numbers := by
    rw [List.perm_ext_iff_of_nodup parts.distinct plan.nodup_numbers]
    intro number
    exact ⟨fun member => plan.mem_numbers.mpr (parts.planned number member), all_there number⟩
  have count : done.length = plan.partCount := by
    rw [same.length_eq, plan.length_numbers]
  have bytes : (done.map plan.bytesOf).sum = plan.fileSize := by
    rw [parts.sum_eq, (same.map _).sum_eq, plan.sum_partLength]
  rw [reportOf, count, bytes]

end Plan

section Pool

variable {transfer : Transfer} {uploads next : Uploads} {number : PartNumber}
  {event : TaskEvent} {out : List Effect}

/-- The numbers of the parts that have been uploaded, in the order of their completion. -/
def Uploads.numbers (uploads : Uploads) : List PartNumber :=
  uploads.uploaded.map UploadedPart.partNumber

/-- A part that stays in flight keeps its number and its length, completes nothing and makes
    no report. -/
theorem PartTask.step_waits {task moved : PartTask}
    (stepped : task.step transfer.session transfer.builder.maxAttempts event =
      some (.pending moved out)) :
    moved.number = task.number ∧ moved.length = task.length ∧
      event.completion task.number = [] ∧ out.filterMap Effect.progress? = [] := by
  rcases PartTask.pending_cases stepped with ⟨_, _, -, rfl, -, rfl, rfl⟩ |
    ⟨_, _, _, _, _, -, rfl, -, rfl, rfl⟩ | ⟨_, _, _, -, rfl, rfl, rfl⟩
  · exact ⟨rfl, rfl, rfl, rfl⟩
  · exact ⟨rfl, rfl, rfl, rfl⟩
  · exact ⟨rfl, rfl, rfl, rfl⟩

/-- A part ends exactly as the answer says: uploaded when it has an ETag, failed otherwise. -/
theorem PartTask.step_ended {task : PartTask} {result : Except Error UploadedPart}
    (stepped : task.step transfer.session transfer.builder.maxAttempts event =
      some (.finished result)) :
    (∃ error, result = .error error ∧ event.completion task.number = []) ∨
      ∃ part, result = .ok part ∧ part.partNumber = task.number ∧
        event.completion task.number = [task.number] := by
  rcases PartTask.finished_cases stepped with ⟨_, error, rfl, rfl⟩ |
    ⟨_, _, answer, done, rfl, stopped, ended⟩
  · exact Or.inl ⟨error, rfl, rfl⟩
  · obtain rfl := retryStep_eq_done stopped
    cases outcome : uploadPartAnswer task.number done with
    | error error =>
        refine Or.inl ⟨error, by rw [ended, outcome], ?_⟩
        cases done with
        | error failed => rfl
        | ok etag =>
            cases etag with
            | none => rfl
            | some etag =>
                by_cases empty : etag = ""
                · exact if_pos empty
                · rw [uploadPartAnswer, UploadedPart.new, dif_neg empty] at outcome
                  cases outcome
    | ok part =>
        obtain ⟨named, rfl⟩ := uploadPartAnswer_eq_ok_iff.mp outcome
        exact Or.inr ⟨part, by rw [ended, outcome], named, if_neg part.etag_ne⟩

/-- The counters of the pool: what a report of the reused and the uploaded parts says. -/
structure Counted (plan : MultipartPlan) (reused : List PartNumber) (uploads : Uploads) :
    Prop where
  parts : uploads.completedParts = (reportOf plan (reused ++ uploads.numbers)).completedParts
  bytes : uploads.transferredBytes = (reportOf plan (reused ++ uploads.numbers)).transferredBytes
  sized : ∀ task ∈ uploads.inFlight, task.length = plan.bytesOf task.number

theorem Counted.progress_eq {reused : List PartNumber}
    (counted : Counted transfer.session.plan reused uploads) :
    (uploads.progress transfer).filterMap Effect.progress? =
      if transfer.builder.progress then [reportOf transfer.session.plan (reused ++ uploads.numbers)]
      else [] := by
  rw [Uploads.progress, counted.parts, counted.bytes]
  split <;> rfl

/-- What a step of the pool does to the counters and to the callbacks: a part that completes is
    counted and reported, and nothing else is. -/
structure Settles (transfer : Transfer) (reused : List PartNumber) (number : PartNumber)
    (event : TaskEvent) (uploads next : Uploads) (out : List Effect) : Prop where
  counted : Counted transfer.session.plan reused next
  numbers : next.numbers = uploads.numbers ++ event.completion number
  moved : (next.numbers ++ next.inFlight.map PartTask.number).Perm
    (uploads.numbers ++ uploads.inFlight.map PartTask.number)
  reports : out.filterMap Effect.progress? =
    if transfer.builder.progress then (event.completion number).map (fun _ =>
      reportOf transfer.session.plan (reused ++ next.numbers))
    else []

/-- The counters do not wrap as long as the parts are parts of the plan. -/
theorem Counted.completes {reused : List PartNumber} {task : PartTask} {part : UploadedPart}
    {left : List PartTask} (counted : Counted transfer.session.plan reused uploads)
    (among : task ∈ uploads.inFlight) (rest : left ⊆ uploads.inFlight)
    (named : part.partNumber = task.number)
    (room : Parts transfer.session.plan (reused ++ (uploads.numbers ++ [task.number]))) :
    Counted transfer.session.plan reused {
      inFlight := left
      uploaded := uploads.uploaded ++ [part]
      completedParts := asU16 (uploads.completedParts + 1)
      transferredBytes := (uploads.transferredBytes + task.length) % 2 ^ 64 } := by
  have numbers : (uploads.uploaded ++ [part]).map UploadedPart.partNumber =
      uploads.numbers ++ [task.number] := by
    rw [List.map_append, List.map_singleton, named]
    rfl
  obtain ⟨parts_le, bytes_le, small, large⟩ := room.bounds
  obtain ⟨count, bytes⟩ := @reportOf_snoc transfer.session.plan (reused ++ uploads.numbers)
    task.number
  rw [List.append_assoc] at count bytes
  constructor
  · rw [Uploads.numbers, numbers, count]
    show asU16 (uploads.completedParts + 1) = _
    rw [counted.parts]
    exact asU16_eq (by omega)
  · rw [Uploads.numbers, numbers, bytes]
    show (uploads.transferredBytes + task.length) % 2 ^ 64 = _
    rw [counted.bytes, counted.sized task among]
    exact Nat.mod_eq_of_lt (by omega)
  · intro other member
    exact counted.sized other (rest member)

/-- One step of the pool, of which all parts are parts of the plan. -/
theorem Counted.onTask {reused : List PartNumber}
    (counted : Counted transfer.session.plan reused uploads)
    (room : Parts transfer.session.plan
      (reused ++ (uploads.numbers ++ uploads.inFlight.map PartTask.number)))
    (moved : uploads.onTask transfer number event = some (.running next out)) :
    Settles transfer reused number event uploads next out := by
  obtain ⟨before, task, after, shape, rfl, cases⟩ := Uploads.running_cases moved
  have among : task ∈ uploads.inFlight := (Uploads.mem_inFlight_iff shape).mpr (Or.inl rfl)
  have others : ∀ other, other ∈ before ∨ other ∈ after → other ∈ uploads.inFlight :=
    fun other member => (Uploads.mem_inFlight_iff shape).mpr (Or.inr member)
  rcases cases with ⟨still, stepped, rfl⟩ | ⟨part, stepped, rfl, rfl⟩
  · obtain ⟨number_eq, length_eq, quiet, silent⟩ := PartTask.step_waits stepped
    refine ⟨⟨counted.parts, counted.bytes, ?_⟩, by simp [quiet, Uploads.numbers], ?_, ?_⟩
    · intro other member
      rcases List.mem_append.mp member with first | rest
      · exact counted.sized other (others other (Or.inl first))
      · rcases List.mem_cons.mp rest with rfl | last
        · rw [number_eq, length_eq]
          exact counted.sized task among
        · exact counted.sized other (others other (Or.inr last))
    · simp [shape, number_eq, Uploads.numbers]
    · rw [quiet, silent]
      simp
  · obtain ⟨named, completes⟩ : part.partNumber = task.number ∧
        event.completion task.number = [task.number] := by
      rcases PartTask.step_ended stepped with ⟨_, failed, -⟩ | ⟨found, done, named, completes⟩
      · cases failed
      · cases done
        exact ⟨named, completes⟩
    have upto : Parts transfer.session.plan (reused ++ (uploads.numbers ++ [task.number])) := by
      have one : [task.number].Sublist (uploads.inFlight.map PartTask.number) :=
        List.singleton_sublist.mpr (List.mem_map_of_mem among)
      exact room.sublist ((one.append_left uploads.numbers).append_left reused)
    have after_counted := counted.completes among
      (fun other member => others other (List.mem_append.mp member)) named upto
    refine ⟨after_counted, by simp [completes, Uploads.numbers, named], ?_, ?_⟩
    · rw [shape]
      simp only [Uploads.numbers, List.map_append, List.map_cons, List.map_nil, named]
      grind
    · rw [after_counted.progress_eq, completes]
      rfl

/-- The event that ends the pool completes nothing. -/
theorem Uploads.completion_of_failed {error : Error}
    (failed : uploads.onTask transfer number event = some (.failed error)) :
    event.completion number = [] := by
  obtain ⟨_, task, _, -, rfl, -, ⟨_, _, -, same⟩ | ⟨_, stepped, -⟩ | ⟨_, _, -, -, same⟩⟩ :=
    Uploads.onTask_cases failed
  · cases same
  · rcases PartTask.step_ended stepped with ⟨_, -, quiet⟩ | ⟨_, done, -, -⟩
    · exact quiet
    · cases done
  · cases same

end Pool

/-- How one report follows another: one part more, and its bytes. -/
def Rises (first second : ManagedUploadProgress) : Prop :=
  second.completedParts = first.completedParts + 1 ∧
    first.transferredBytes < second.transferredBytes

/-- What the callbacks have told: a report for each completed part, with the reused and the
    completed parts up to it; before them one with the reused parts, unless there is none to
    make. -/
structure Told (plan : MultipartPlan) (reused completed : List PartNumber)
    (told : List ManagedUploadProgress) : Prop where
  parts : Parts plan (reused ++ completed)
  reports : told = completed.inits.map (fun done => reportOf plan (reused ++ done)) ∨
    reused = [] ∧ told = completed.inits.tail.map (reportOf plan)

section Told

variable {plan : MultipartPlan} {reused completed : List PartNumber}
  {told : List ManagedUploadProgress}

/-- The reports of growing prefixes rise. -/
theorem isChain_inits (parts : Parts plan (reused ++ completed)) :
    (completed.inits.map (fun done => reportOf plan (reused ++ done))).IsChain Rises := by
  rw [List.isChain_iff_getElem]
  intro index inside
  simp only [List.length_map, List.length_inits] at inside
  have used : index < completed.length := by omega
  have planned : completed[index].get ≤ plan.partCount :=
    parts.planned _ (List.mem_append_right _ (List.getElem_mem used))
  have positive := bytesOf_pos planned
  rw [List.getElem_map, List.getElem_map, List.getElem_inits, List.getElem_inits,
    ← List.take_append_getElem used, ← List.append_assoc]
  obtain ⟨count, bytes⟩ := @reportOf_snoc plan (reused ++ completed.take index) completed[index]
  exact ⟨count, by omega⟩

/-- A report for each part that completes keeps what has been told. -/
theorem Told.extend {more : List PartNumber} (said : Told plan reused completed told)
    (parts : Parts plan (reused ++ (completed ++ more))) (one : more.length ≤ 1) :
    Told plan reused (completed ++ more)
      (told ++ more.map (fun _ => reportOf plan (reused ++ (completed ++ more)))) := by
  refine ⟨parts, ?_⟩
  match more, one with
  | [], _ => simpa using said.reports
  | [number], _ =>
      rcases said.reports with rfl | ⟨rfl, rfl⟩
      · left
        simp [List.inits_append]
      · right
        have whole : completed.inits ≠ [] := by
          intro none_there
          have count := congrArg List.length none_there
          simp at count
        simp [List.inits_append, List.tail_append_of_ne_nil whole]

theorem Told.rises (said : Told plan reused completed told) : told.IsChain Rises := by
  rcases said.reports with rfl | ⟨rfl, rfl⟩
  · exact isChain_inits said.parts
  · have chain := isChain_inits said.parts
    rw [List.map_tail]
    exact chain.tail

/-- Every report is that of the reused parts and of a first part of the completed ones. -/
theorem Told.exact (said : Told plan reused completed told) :
    ∀ report ∈ told, ∃ done, done <+: completed ∧ report = reportOf plan (reused ++ done) := by
  intro report member
  rcases said.reports with rfl | ⟨rfl, rfl⟩
  · obtain ⟨done, among, rfl⟩ := List.mem_map.mp member
    exact ⟨done, (List.mem_inits _ _).mp among, rfl⟩
  · obtain ⟨done, among, rfl⟩ := List.mem_map.mp member
    exact ⟨done, (List.mem_inits _ _).mp (List.mem_of_mem_tail among), rfl⟩

theorem Told.bounded (said : Told plan reused completed told) :
    ∀ report ∈ told, report.completedParts ≤ report.totalParts ∧
      report.transferredBytes ≤ report.totalBytes ∧ report.totalParts < 2 ^ 16 ∧
      report.totalBytes < 2 ^ 64 := by
  intro report member
  obtain ⟨done, before, rfl⟩ := said.exact report member
  exact (said.parts.sublist (before.sublist.append_left reused)).bounds

/-- The last report, if there is one, is that of everything that is there. -/
theorem Told.last (said : Told plan reused completed told) (some_told : told ≠ []) :
    told.getLast? = some (reportOf plan (reused ++ completed)) := by
  have whole : (completed.inits.map (fun done => reportOf plan (reused ++ done))).getLast? =
      some (reportOf plan (reused ++ completed)) := by
    rw [List.getLast?_eq_getElem?, List.getElem?_eq_getElem (by simp)]
    simp
  rcases said.reports with rfl | ⟨rfl, rfl⟩
  · exact whole
  · rw [List.map_tail] at some_told ⊢
    rw [List.getLast?_tail, if_neg]
    · exact whole
    · intro single
      apply some_told
      rw [← List.length_eq_zero_iff, List.length_tail, single]

/-- When all parts are there, the last report is the whole file. -/
theorem Told.complete (said : Told plan reused completed told)
    (all_there : ∀ number ∈ plan.numbers, number ∈ reused ++ completed) :
    told.getLast? = some ⟨plan.partCount, plan.partCount, plan.fileSize, plan.fileSize⟩ := by
  rw [← said.parts.complete all_there]
  apply said.last
  intro none_told
  rcases said.reports with rfl | ⟨rfl, rfl⟩
  · have count := congrArg List.length none_told
    simp at count
  · have count := congrArg List.length none_told
    have none_done : completed = [] := by simpa using count
    have planned : 0 < plan.numbers.length := by
      rw [plan.length_numbers]
      exact plan.partCount_pos
    obtain ⟨number, member⟩ := List.exists_mem_of_length_pos planned
    have found := all_there number member
    rw [none_done] at found
    cases found

theorem TaskEvent.length_completion (number : PartNumber) (event : TaskEvent) :
    (event.completion number).length ≤ 1 := by
  unfold TaskEvent.completion
  split
  · split <;> simp
  · simp

/-- A step of the pool reports the part that it completes. -/
theorem Told.settles {transfer : Transfer} {uploads next : Uploads} {number : PartNumber}
    {event : TaskEvent} {out : List Effect}
    (said : Told transfer.session.plan reused uploads.numbers told)
    (registered : transfer.builder.progress = true)
    (settles : Settles transfer reused number event uploads next out)
    (parts : Parts transfer.session.plan (reused ++ next.numbers)) :
    Told transfer.session.plan reused next.numbers
      (told ++ out.filterMap Effect.progress?) := by
  rw [settles.numbers] at parts
  rw [settles.reports, if_pos registered, settles.numbers]
  exact said.extend parts (event.length_completion number)

end Told

end R2kit
