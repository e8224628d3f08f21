import R2kit.Managed.Assembly
import R2kit.Managed.Counters
import R2kit.Managed.StreamParts

/-!
# Progress reports

The callbacks of `run` and `run_stream` of `src/managed.rs`, over whole runs: new or resumed,
from a file or from a stream, with the parts completing in any order.
-/

namespace R2kit

open Misc

section File

variable {transfer : Transfer} {history : History RunEvent Effect}

/-- The part that an event completes, if it does. -/
def RunEvent.completion : RunEvent → List PartNumber
  | .task number event => event.completion number
  | _ => []

/-- The parts that were uploaded in a run, in the order of their completion. -/
def completions {Event : Type} (completion : Event → List PartNumber)
    (history : History Event Effect) : List PartNumber :=
  history.events.flatMap completion

/-- The planned parts that the server already had. -/
def reusedParts (plan : MultipartPlan) (history : History RunEvent Effect) : List PartNumber :=
  present plan (remoteParts history)

@[simp] theorem completions_snoc {Event : Type} (completion : Event → List PartNumber)
    (history : History Event Effect) (event : Event) (out : List Effect) :
    completions completion (history ++ [(event, out)]) =
      completions completion history ++ completion event := by
  simp [completions]

@[simp] theorem reports_snoc {Event : Type} (history : History Event Effect) (event : Event)
    (out : List Effect) :
    reports (history ++ [(event, out)]) = reports history ++ out.filterMap Effect.progress? := by
  simp [reports]

theorem reusedParts_snoc {plan : MultipartPlan} {event : RunEvent} {out : List Effect}
    (quiet : event.listedParts = []) :
    reusedParts plan (history ++ [(event, out)]) = reusedParts plan history := by
  simp [reusedParts, quiet]

theorem reusedParts_listed {plan : MultipartPlan} {event : RunEvent} {out : List Effect} :
    reusedParts plan (history ++ [(event, out)]) =
      present plan (remoteParts history ++ event.listedParts) := by
  rw [reusedParts, remoteParts_snoc]

/-- The parts taken over are the planned ones that were listed. -/
theorem Existing.perm_present {plan : MultipartPlan} {remote : List RemotePart}
    {existing : List UploadedPart} (sound : Existing plan remote existing) :
    (existing.map UploadedPart.partNumber).Perm (present plan remote) := by
  have distinct : (present plan remote).Nodup := plan.nodup_numbers.filter _
  rw [List.perm_ext_iff_of_nodup sound.distinct distinct]
  intro number
  rw [present, List.mem_filter, sound.listedIn_iff]
  refine (and_iff_right_of_imp ?_).symm
  intro member
  obtain ⟨part, among, rfl⟩ := List.mem_map.mp member
  exact plan.mem_numbers.mpr (sound.planned part among)

theorem parts_present {plan : MultipartPlan} (remote : List RemotePart) :
    Parts plan (present plan remote) where
  distinct := plan.nodup_numbers.filter _
  planned _ member := plan.mem_numbers.mp (List.mem_filter.mp member).1

/-- Nothing has completed and nothing has been told. -/
def Silent (history : History RunEvent Effect) : Prop :=
  completions RunEvent.completion history = [] ∧ reports history = []

/-- What has been told, if there is a callback. -/
def Reported (transfer : Transfer) (history : History RunEvent Effect) : Prop :=
  transfer.builder.progress = true → Told transfer.session.plan
    (reusedParts transfer.session.plan history) (completions RunEvent.completion history)
    (reports history)

theorem Silent.snoc {event : RunEvent} {out : List Effect} (silent : Silent history)
    (quiet : event.completion = []) (unheard : out.filterMap Effect.progress? = []) :
    Silent (history ++ [(event, out)]) := by
  rw [Silent, completions_snoc, reports_snoc, silent.1, silent.2, quiet, unheard]
  exact ⟨rfl, rfl⟩

/-- A step that lists, completes and reports nothing leaves what has been told. -/
theorem Reported.snoc {event : RunEvent} {out : List Effect}
    (reported : Reported transfer history) (unlisted : event.listedParts = [])
    (quiet : event.completion = []) (unheard : out.filterMap Effect.progress? = []) :
    Reported transfer (history ++ [(event, out)]) := by
  intro registered
  rw [reusedParts_snoc unlisted, completions_snoc, reports_snoc, quiet, unheard,
    List.append_nil, List.append_nil]
  exact reported registered

/-- What holds while parts are waiting or in flight. -/
structure Pooled (transfer : Transfer) (history : History RunEvent Effect) (reused : PartMap)
    (queue : List (PartNumber × Nat)) (uploads : Uploads) : Prop where
  reported : Reported transfer history
  numbers : uploads.numbers = completions RunEvent.completion history
  counted : Counted transfer.session.plan (reusedParts transfer.session.plan history) uploads
  parts : Parts transfer.session.plan (reusedParts transfer.session.plan history ++
    (uploads.numbers ++ (uploads.inFlight.map PartTask.number ++ queue.map Prod.fst)))
  covers : transfer.session.plan.numbers ⊆ reusedParts transfer.session.plan history ++
    (uploads.numbers ++ (uploads.inFlight.map PartTask.number ++ queue.map Prod.fst))
  sized : ∀ entry ∈ queue, entry.2 = transfer.session.plan.bytesOf entry.1
  taken_over : reused.size = (reusedParts transfer.session.plan history).length

/-- What holds once all parts have been uploaded; the two counts go into the result. -/
structure Settled (transfer : Transfer) (history : History RunEvent Effect)
    (uploadedCount reusedCount : Nat) : Prop where
  reported : Reported transfer history
  covers : transfer.session.plan.numbers ⊆ reusedParts transfer.session.plan history ++
    completions RunEvent.completion history
  uploaded : uploadedCount = (completions RunEvent.completion history).length
  reused : reusedCount = (reusedParts transfer.session.plan history).length

/-- The invariant of the counters and the callbacks of `run`. -/
def ReportInvariant (transfer : Transfer) (history : History RunEvent Effect) :
    RunState → Prop
  | .ready => history = []
  | .listing state =>
      Silent history ∧
      state.Sound transfer.session.plan
        (fun part => ∃ listed ∈ remoteParts history, Describes transfer.session.plan listed part) ∧
      ∀ listed ∈ remoteParts history, ∃ part ∈ recorded state.uploaded,
        Describes transfer.session.plan listed part
  | .uploading reused queue uploads => Pooled transfer history reused queue uploads
  | .checking _ uploadedCount reusedCount
  | .ending (.completing _ uploadedCount reusedCount) =>
      Settled transfer history uploadedCount reusedCount
  | .ending (.finished (.ok result)) =>
      Settled transfer history result.uploadedParts result.reusedParts
  | .ending (.finished (.error _)) => Silent history ∨ Reported transfer history

/-- Going on with the parts, or past them, keeps the invariant. -/
theorem afterUploads_reports {reused : PartMap} {queue : List (PartNumber × Nat)}
    {uploads : Uploads} (pooled : Pooled transfer history reused queue uploads) :
    ReportInvariant transfer history (Transfer.afterUploads reused queue uploads) := by
  unfold Transfer.afterUploads
  split
  · rename_i drained
    obtain ⟨some_reused, -, few, -⟩ := pooled.parts.bounds
    have length : uploads.uploaded.length = (completions RunEvent.completion history).length := by
      rw [← pooled.numbers, Uploads.numbers, List.length_map]
    have total : (reusedParts transfer.session.plan history).length + uploads.uploaded.length ≤
        (reportOf transfer.session.plan (reusedParts transfer.session.plan history ++
          (uploads.numbers ++ (uploads.inFlight.map PartTask.number ++
            queue.map Prod.fst)))).completedParts := by
      simp only [reportOf, Uploads.numbers, List.length_append, List.length_map]
      omega
    refine ⟨pooled.reported, ?_, ?_, ?_⟩
    · have covers := pooled.covers
      rw [drained.1, drained.2, List.map_nil, List.map_nil, List.append_nil, List.append_nil,
        pooled.numbers] at covers
      exact covers
    · rw [← length]
      exact asU16_eq (by omega)
    · rw [← pooled.taken_over]
      exact asU16_eq (by have := pooled.taken_over; omega)
  · exact pooled

/-- The first counters are those of the reused parts. -/
theorem counted_start {plan : MultipartPlan} {remote : List RemotePart}
    {existing : List UploadedPart} (sound : Existing plan remote existing) :
    Counted plan (present plan remote) {
      inFlight := []
      uploaded := []
      completedParts := asU16 (insertAll UploadedPart.partNumber ∅ existing).size
      transferredBytes := existingBytes plan existing } := by
  have same := sound.perm_present
  have parts := @parts_present plan remote
  have few := parts.bounds
  constructor
  · show asU16 (insertAll UploadedPart.partNumber ∅ existing).size =
      (present plan remote ++ []).length
    rw [size_insertAll sound.distinct, List.append_nil, ← same.length_eq, List.length_map]
    apply asU16_eq
    rw [← List.length_map UploadedPart.partNumber, same.length_eq]
    exact Nat.lt_of_le_of_lt few.1 few.2.2.1
  · show existingBytes plan existing = ((present plan remote ++ []).map plan.bytesOf).sum
    rw [List.append_nil, parts.sum_eq, existingBytes]
    exact (same.map _).sum_eq
  · exact List.forall_mem_nil _

/-- Before any part has completed, the one callback is that of the reused parts. -/
theorem told_start {plan : MultipartPlan} {reused : List PartNumber}
    (parts : Parts plan reused) : Told plan reused [] [reportOf plan reused] := by
  refine ⟨by rwa [List.append_nil], Or.inl ?_⟩
  simp

/-- From the listed parts to the missing ones: the counters and the first callback are those
    of the reused parts. -/
theorem prepare_reports {existing : List UploadedPart} {event : RunEvent}
    (sound : Existing transfer.session.plan (remoteParts history ++ event.listedParts) existing)
    (silent : Silent history) (quiet : event.completion = []) :
    ReportInvariant transfer (history ++ [(event, (transfer.prepare existing).2)])
      (transfer.prepare existing).1 := by
  have shape := @prepare_eq transfer _ sound.planned sound.distinct
  dsimp only at shape
  rw [shape]
  have counted := counted_start sound
  have parts := @parts_present transfer.session.plan
    (remoteParts history ++ event.listedParts)
  have reused := fun out => @reusedParts_listed history transfer.session.plan event out
  have first : Prod.fst ∘ (fun number => (number,
      blockLength transfer.session.plan.fileSize transfer.session.plan.partSize
        (PartNumber.index number))) = id := rfl
  have whole : (present transfer.session.plan (remoteParts history ++ event.listedParts) ++
      transfer.session.plan.numbers.filter (fun number =>
        number ∉ existing.map UploadedPart.partNumber)).Perm transfer.session.plan.numbers := by
    refine (sound.perm_present.symm.append_right _).trans ?_
    apply perm_append_filter sound.distinct transfer.session.plan.nodup_numbers
    exact fun number member => (List.mem_filter.mp (sound.perm_present.subset member)).1
  apply afterUploads_reports
  refine ⟨?_, ?_, ?_, ?_, ?_, ?_, ?_⟩
  · intro registered
    rw [reused, completions_snoc, reports_snoc, silent.1, silent.2, quiet, counted.progress_eq,
      if_pos registered]
    have told := told_start parts
    simpa [Uploads.numbers] using told
  · rw [completions_snoc, silent.1, quiet]
    rfl
  · rw [reused]
    exact counted
  · rw [reused]
    simp only [Uploads.numbers, List.map_map, List.map_nil, List.nil_append]
    rw [first, List.map_id, filter_not_contains]
    exact ⟨whole.nodup_iff.mpr transfer.session.plan.nodup_numbers,
      fun number member => transfer.session.plan.mem_numbers.mp (whole.subset member)⟩
  · rw [reused]
    simp only [Uploads.numbers, List.map_map, List.map_nil, List.nil_append]
    rw [first, List.map_id, filter_not_contains]
    exact whole.symm.subset
  · intro entry member
    obtain ⟨number, among, rfl⟩ := List.mem_map.mp member
    have planned := transfer.session.plan.mem_numbers.mp (List.mem_filter.mp among).1
    exact (bytesOf_eq planned).symm
  · rw [reused, size_insertAll sound.distinct, ← sound.perm_present.length_eq, List.length_map]

/-- A step of the parts in flight counts and reports the part that it completes, if any. -/
theorem Pooled.part {reused : PartMap} {queue : List (PartNumber × Nat)}
    {uploads next : Uploads} {number : PartNumber} {event : TaskEvent} {out : List Effect}
    (pooled : Pooled transfer history reused queue uploads)
    (moved : uploads.onTask transfer number event = some (.running next out)) :
    Pooled transfer (history ++ [(.task number event, out)]) reused queue next := by
  have room := pooled.parts.sublist (List.Sublist.append_left (List.Sublist.append_left
    (List.sublist_append_left _ (queue.map Prod.fst)) _) _)
  have settles := pooled.counted.onTask room moved
  have same : reusedParts transfer.session.plan
      (history ++ [(RunEvent.task number event, out)]) =
    reusedParts transfer.session.plan history := reusedParts_snoc rfl
  have moves : (reusedParts transfer.session.plan history ++
      (next.numbers ++ (next.inFlight.map PartTask.number ++ queue.map Prod.fst))).Perm
    (reusedParts transfer.session.plan history ++ (uploads.numbers ++
      (uploads.inFlight.map PartTask.number ++ queue.map Prod.fst))) := by
    refine List.Perm.append_left _ ?_
    rw [← List.append_assoc, ← List.append_assoc]
    exact settles.moved.append_right _
  have parts := pooled.parts.perm moves
  have numbers : next.numbers =
      completions RunEvent.completion (history ++ [(.task number event, out)]) := by
    rw [completions_snoc, settles.numbers, pooled.numbers]
    rfl
  constructor
  · intro registered
    have said := pooled.reported registered
    rw [← pooled.numbers] at said
    rw [same, ← numbers, reports_snoc]
    apply said.settles registered settles
    exact parts.sublist ((List.sublist_append_left next.numbers _).append_left _)
  · exact numbers
  · rw [same]
    exact settles.counted
  · rw [same]
    exact parts
  · rw [same]
    exact fun number planned => moves.symm.subset (pooled.covers planned)
  · exact pooled.sized
  · rw [same]
    exact pooled.taken_over

theorem Settled.snoc {uploadedCount reusedCount : Nat} {event : RunEvent}
    (settled : Settled transfer history uploadedCount reusedCount)
    (unlisted : event.listedParts = []) (quiet : event.completion = []) {out : List Effect}
    (unheard : out.filterMap Effect.progress? = []) :
    Settled transfer (history ++ [(event, out)]) uploadedCount reusedCount := by
  refine ⟨settled.reported.snoc unlisted quiet unheard, ?_, ?_, ?_⟩
  · rw [completions_snoc, quiet, List.append_nil, reusedParts_snoc unlisted]
    exact settled.covers
  · rw [completions_snoc, quiet, List.append_nil, settled.uploaded]
  · rw [reusedParts_snoc unlisted, settled.reused]

/-- The end of the parts is neither a completion of one nor a callback. -/
theorem Settled.start {uploadedCount reusedCount : Nat} {manifest : PartMap}
    {event : RunEvent} (settled : Settled transfer history uploadedCount reusedCount)
    (unlisted : event.listedParts = []) (quiet : event.completion = []) :
    ReportInvariant transfer
      (history ++ [(event, (Ending.start transfer.session manifest uploadedCount reusedCount).2)])
      (.ending (Ending.start transfer.session manifest uploadedCount reusedCount).1) := by
  rcases Ending.start_cases transfer.session manifest uploadedCount reusedCount with
    ⟨error, shape⟩ | ⟨completion, sent, accepted, shape⟩
  · rw [shape]
    exact Or.inr (settled.reported.snoc unlisted quiet rfl)
  · rw [shape]
    exact settled.snoc unlisted quiet rfl

/-- One step of `run` keeps the invariant. -/
theorem reportInvariant_step {fingerprint : SourceFileFingerprint} {s s' : RunState}
    {event : RunEvent} {out : List Effect} (holds : ReportInvariant transfer history s)
    (taken : (transfer.runFile fingerprint).step s event = some (s', out)) :
    ReportInvariant transfer (history ++ [(event, out)]) s' := by
  cases Transfer.runStep_of_step taken with
  | list resumed =>
      obtain rfl : history = [] := holds
      refine ⟨⟨rfl, rfl⟩, sound_start, ?_⟩
      simp [remoteParts, RunEvent.listedParts]
  | fresh new =>
      obtain rfl : history = [] := holds
      apply prepare_reports
      · constructor <;> simp [remoteParts, RunEvent.listedParts]
      · exact ⟨rfl, rfl⟩
      · rfl
  | unlisted failed =>
      obtain ⟨silent, -, -⟩ := holds
      exact Or.inl (silent.snoc rfl rfl)
  | page accepted =>
      obtain ⟨silent, sound, covers⟩ := holds
      obtain ⟨sound, covers⟩ := page_sound sound covers accepted
      rw [ReportInvariant, remoteParts_snoc]
      exact ⟨silent.snoc rfl rfl, sound, covers⟩
  | lastPage accepted =>
      obtain ⟨silent, sound, covers⟩ := holds
      obtain ⟨sound, covers⟩ := page_sound sound covers accepted
      exact prepare_reports ⟨sound.planned, sound.distinct, sound.holds, covers⟩ silent rfl
  | @start reused number length queue uploads room =>
      have pooled : Pooled transfer history reused ((number, length) :: queue) uploads := holds
      have same : reusedParts transfer.session.plan (history ++ [(RunEvent.start, [])]) =
        reusedParts transfer.session.plan history := reusedParts_snoc rfl
      refine ⟨pooled.reported.snoc rfl rfl rfl, ?_, ?_, ?_, ?_, ?_,
        by rw [same, pooled.taken_over]⟩
      · rw [completions_snoc, ← pooled.numbers]
        exact (List.append_nil _).symm
      · rw [same]
        refine ⟨pooled.counted.parts, pooled.counted.bytes, ?_⟩
        rw [List.forall_mem_append, List.forall_mem_singleton]
        exact ⟨pooled.counted.sized, pooled.sized _ List.mem_cons_self⟩
      · rw [same]
        simpa [Uploads.numbers] using pooled.parts
      · rw [same]
        simpa [Uploads.numbers] using pooled.covers
      · exact fun entry member => pooled.sized entry (List.mem_cons_of_mem _ member)
  | partFailed failed =>
      exact Or.inr (holds.reported.snoc rfl (Uploads.completion_of_failed failed) rfl)
  | part moved => exact afterUploads_reports (Pooled.part holds moved)
  | changed differs => exact Or.inr (holds.reported.snoc rfl rfl rfl)
  | @unchanged manifest uploadedCount reusedCount metadata same =>
      exact Settled.start holds rfl rfl
  | @completed request uploadedParts reusedParts answer =>
      have settled : Settled transfer (history ++ [(.completed answer, [])]) uploadedParts
        reusedParts := Settled.snoc holds rfl rfl rfl
      unfold Ending.onCompleted
      split
      · exact Or.inr settled.reported
      · exact settled

theorem reportInvariant_of_reaches {fingerprint : SourceFileFingerprint} {s : RunState}
    (run : (transfer.runFile fingerprint).Reaches .ready history s) :
    ReportInvariant transfer history s := by
  have initial : ReportInvariant transfer [] .ready := rfl
  exact run.invariant initial (fun _ _ _ _ _ _ holds taken => reportInvariant_step holds taken)

end File

section Stream

variable {transfer : Transfer} {content : List UInt8} {history : History StreamEvent Effect}

/-- The same of a stream. -/
def StreamEvent.completion : StreamEvent → List PartNumber
  | .task number event => event.completion number
  | _ => []

/-- A part that is out of the reader has its planned length, even if the reader ends early. -/
theorem ReaderInvariant.length_part {plan : MultipartPlan} {emitted : List StreamPart}
    {state : ReaderState} (holds : ReaderInvariant plan content emitted state)
    {part : StreamPart} (member : part ∈ emitted) : part.2.length = plan.bytesOf part.1 := by
  obtain ⟨⟨count, planned, -, left, rfl, -⟩, delivered⟩ := holds
  obtain ⟨number, among, rfl⟩ := List.mem_map.mp member
  have in_plan := plan.mem_numbers.mp (List.mem_of_mem_take among)
  have before : number.index + 1 ≤ count := by
    obtain ⟨index, inside, rfl⟩ := List.mem_take_iff_getElem.mp among
    have below := Nat.lt_of_lt_of_le inside (Nat.min_le_left _ _)
    have position : plan.numbers[index].index = index := by
      simp [MultipartPlan.numbers, PartNumber.index]
    omega
  have upto := Nat.mul_le_mul_right plan.partSize before
  rw [Nat.succ_mul] at upto
  show (block plan.partSize number.index (content.take plan.fileSize)).length = plan.bytesOf number
  rw [bytesOf_eq in_plan, length_block, List.length_take, blockLength, blockLength]
  omega

/-- The parts in flight and the uploaded ones are parts of the plan, each at most once. -/
theorem PipelineInvariant.parts {plan : MultipartPlan} {received : List StreamPart}
    {pipeline : Pipeline} (holds : PipelineInvariant plan content received pipeline) :
    Parts plan ([] ++ (pipeline.uploads.numbers ++
      pipeline.uploads.inFlight.map PartTask.number)) := by
  obtain ⟨count, -, emitted⟩ := holds.reader.emitted_eq
  have among : (received.map Prod.fst).Sublist plan.numbers := by
    refine ((List.sublist_append_left received pipeline.queue).map Prod.fst).trans ?_
    rw [emitted, List.map_map]
    show ((plan.numbers.take count).map id).Sublist _
    rw [List.map_id]
    exact List.take_sublist _ _
  have received_parts : Parts plan (received.map Prod.fst) :=
    ⟨among.nodup plan.nodup_numbers, fun number member =>
      plan.mem_numbers.mp (among.subset member)⟩
  rw [List.nil_append]
  exact received_parts.perm (List.perm_append_comm.trans holds.numbers)

/-- The counters and the callbacks of `run_stream`. -/
structure StreamReports (transfer : Transfer) (history : History StreamEvent Effect)
    (s : StreamState) : Prop where
  reported : transfer.builder.progress = true → Told transfer.session.plan []
    (completions StreamEvent.completion history) (reports history)
  counters : ∀ pipeline, s = .running pipeline →
    pipeline.uploads.numbers = completions StreamEvent.completion history ∧
      Counted transfer.session.plan [] pipeline.uploads
  counts : ∀ request uploadedParts reusedParts,
    s = .ending (.completing request uploadedParts reusedParts) →
    uploadedParts = (completions StreamEvent.completion history).length ∧ reusedParts = 0
  covers : ∀ ending, s = .ending ending → ending.failed = false →
    transfer.session.plan.numbers ⊆ completions StreamEvent.completion history

theorem streamReports_start :
    StreamReports transfer [] (StreamState.start transfer.session.plan content) := by
  refine ⟨?_, ?_, ?_, ?_⟩
  · intro registered
    exact ⟨⟨List.nodup_nil, List.forall_mem_nil _⟩, Or.inr ⟨rfl, rfl⟩⟩
  · rintro pipeline ⟨⟩
    exact ⟨rfl, rfl, rfl, List.forall_mem_nil _⟩
  · intro request uploadedParts reusedParts other
    cases other
  · intro ending other
    cases other

/-- A step that completes and reports nothing, and does not end the parts. -/
theorem StreamReports.quiet {s s' : StreamState} {event : StreamEvent} {out : List Effect}
    (holds : StreamReports transfer history s) (quiet : event.completion = [])
    (unheard : out.filterMap Effect.progress? = [])
    (counters : ∀ pipeline, s' = .running pipeline →
      pipeline.uploads.numbers = completions StreamEvent.completion history ∧
        Counted transfer.session.plan [] pipeline.uploads)
    (counts : ∀ request uploadedParts reusedParts,
      s' = .ending (.completing request uploadedParts reusedParts) →
      uploadedParts = (completions StreamEvent.completion history).length ∧ reusedParts = 0)
    (covers : ∀ ending, s' = .ending ending → ending.failed = false →
      transfer.session.plan.numbers ⊆ completions StreamEvent.completion history) :
    StreamReports transfer (history ++ [(event, out)]) s' := by
  refine ⟨?_, ?_, ?_, ?_⟩
  · rw [completions_snoc, reports_snoc, quiet, unheard, List.append_nil, List.append_nil]
    exact holds.reported
  · rw [completions_snoc, quiet, List.append_nil]
    exact counters
  · rw [completions_snoc, quiet, List.append_nil]
    exact counts
  · rw [completions_snoc, quiet, List.append_nil]
    exact covers

/-- A step to an error that completes and reports nothing. -/
theorem StreamReports.failed {s : StreamState} {event : StreamEvent} {out : List Effect}
    {fault : Fault} (holds : StreamReports transfer history s)
    (quiet : event.completion = []) (unheard : out.filterMap Effect.progress? = []) :
    StreamReports transfer (history ++ [(event, out)]) (.ending (.finished (.error fault))) := by
  apply holds.quiet quiet unheard
  · intro _ other
    cases other
  · intro _ _ _ other
    cases other
  · rintro _ ⟨⟩ passed
    cases passed

/-- A part that goes on, or completes. -/
theorem StreamReports.part {pipeline : Pipeline} {received : List StreamPart}
    {number : PartNumber} {event : TaskEvent} {next : Uploads} {out : List Effect}
    (holds : StreamReports transfer history (.running pipeline))
    (sound : PipelineInvariant transfer.session.plan content received pipeline)
    (moved : pipeline.uploads.onTask transfer number event = some (.running next out)) :
    StreamReports transfer (history ++ [(.task number event, out)])
      (.running { pipeline with uploads := next }) := by
  obtain ⟨numbers, counted⟩ := holds.counters _ rfl
  have settles := counted.onTask sound.parts moved
  obtain ⟨later, -⟩ := sound.part moved
  have numbers_next : next.numbers =
      completions StreamEvent.completion (history ++ [(.task number event, out)]) := by
    rw [completions_snoc, settles.numbers, numbers]
    rfl
  refine ⟨?_, ?_, ?_, ?_⟩
  · intro registered
    have said := holds.reported registered
    rw [← numbers] at said
    rw [← numbers_next, reports_snoc]
    apply said.settles registered settles
    exact later.parts.sublist (List.sublist_append_left next.numbers _)
  · rintro other ⟨⟩
    exact ⟨numbers_next, settles.counted⟩
  · intro _ _ _ other
    cases other
  · intro _ other
    cases other

/-- All parts are in: the completion is asked for with the number of the uploaded ones. -/
theorem StreamReports.drained {pipeline : Pipeline} {received : List StreamPart}
    (holds : StreamReports transfer history (.running pipeline))
    (sound : PipelineInvariant transfer.session.plan content received pipeline)
    {joined : Except Error Unit} (returned : pipeline.reader.phase = .returned joined)
    (queue_empty : pipeline.queue = []) (none_left : pipeline.uploads.inFlight = []) :
    StreamReports transfer (history ++ [(.drained, (transfer.join joined pipeline.uploads).2)])
      (transfer.join joined pipeline.uploads).1 := by
  obtain ⟨numbers, counted⟩ := holds.counters _ rfl
  cases joined with
  | error error => exact holds.failed rfl rfl
  | ok passed =>
      have covers := (sound.uploaded_all returned queue_empty none_left).symm.subset
      rw [← Uploads.numbers, numbers] at covers
      have few := sound.parts.bounds
      have fits : asU16 pipeline.uploads.uploaded.length =
          (completions StreamEvent.completion history).length := by
        rw [← numbers, Uploads.numbers, List.length_map]
        apply asU16_eq
        simp only [reportOf, Uploads.numbers, List.length_append, List.length_map] at few
        omega
      rcases Ending.start_cases transfer.session
        (insertAll UploadedPart.partNumber ∅ pipeline.uploads.uploaded)
        (asU16 pipeline.uploads.uploaded.length) 0 with ⟨error, shape⟩ |
          ⟨completion, sent, -, shape⟩
      · simp only [Transfer.join, shape]
        exact holds.failed rfl rfl
      · simp only [Transfer.join, shape]
        apply holds.quiet rfl rfl
        · intro _ other
          cases other
        · rintro _ _ _ ⟨⟩
          exact ⟨fits, rfl⟩
        · exact fun _ _ _ => covers

/-- One step of `run_stream` keeps the invariant. -/
theorem streamReports_step {s s' : StreamState} {event : StreamEvent} {out : List Effect}
    (holds : StreamReports transfer history s)
    (sound : ∀ pipeline, s = .running pipeline →
      ∃ received, PipelineInvariant transfer.session.plan content received pipeline)
    (taken : transfer.runStream.step s event = some (s', out)) :
    StreamReports transfer (history ++ [(event, out)]) s' := by
  cases Transfer.streamStep_of_step taken with
  | @reader pipeline event reader sent isOpen moved room =>
      apply holds.quiet rfl rfl
      · rintro next ⟨⟩
        exact holds.counters pipeline rfl
      · intro _ _ _ other
        cases other
      · intro _ other
        cases other
  | @recv reader part queue uploads room =>
      obtain ⟨received, pipeline⟩ := sound _ rfl
      obtain ⟨numbers, counted⟩ := holds.counters _ rfl
      have planned := pipeline.reader.length_part
        (List.mem_append_right received (List.mem_cons_self (a := part)))
      apply holds.quiet rfl rfl
      · rintro next ⟨⟩
        refine ⟨numbers, counted.parts, counted.bytes, ?_⟩
        rw [List.forall_mem_append, List.forall_mem_singleton]
        exact ⟨counted.sized, planned⟩
      · intro _ _ _ other
        cases other
      · intro _ other
        cases other
  | @partFailed pipeline number event error failed =>
      have quiet : (StreamEvent.task number event).completion = [] :=
        Uploads.completion_of_failed failed
      exact holds.failed quiet rfl
  | part moved =>
      obtain ⟨received, pipeline⟩ := sound _ rfl
      exact holds.part pipeline moved
  | drained joined queue_empty none_left =>
      obtain ⟨received, pipeline⟩ := sound _ rfl
      exact holds.drained pipeline joined queue_empty none_left
  | completed =>
      unfold Ending.onCompleted
      split
      · exact holds.failed rfl rfl
      · apply holds.quiet rfl rfl
        · intro _ other
          cases other
        · intro _ _ _ other
          cases other
        · exact fun _ _ _ => holds.covers _ rfl rfl

theorem streamReports_of_reaches {s : StreamState}
    (run : transfer.runStream.Reaches (StreamState.start transfer.session.plan content)
      history s) : StreamReports transfer history s := by
  apply run.invariant streamReports_start
  intro before s event s' out earlier holds taken
  exact streamReports_step holds (streamInvariant_of_reaches earlier).pipeline taken

end Stream

section Progress

/-- Counters that have not wrapped: the number of these parts and their bytes. -/
structure Unwrapped (plan : MultipartPlan) (done : List PartNumber) (uploads : Uploads) :
    Prop where
  parts : uploads.completedParts = done.length
  bytes : uploads.transferredBytes = (done.map plan.bytesOf).sum

/-- What is said of the callbacks of a run. -/
structure Exact (plan : MultipartPlan) (reused completed : List PartNumber)
    (told : List ManagedUploadProgress) : Prop extends Told plan reused completed told where
  rises : told.IsChain Rises
  sums : ∀ report ∈ told, ∃ done, done <+: completed ∧ report = reportOf plan (reused ++ done)
  bounded : ∀ report ∈ told, report.completedParts ≤ report.totalParts ∧
    report.transferredBytes ≤ report.totalBytes ∧ report.totalParts < 2 ^ 16 ∧
    report.totalBytes < 2 ^ 64
  last : told ≠ [] → told.getLast? = some (reportOf plan (reused ++ completed))
  complete : (∀ number ∈ plan.numbers, number ∈ reused ++ completed) →
    told.getLast? = some ⟨plan.partCount, plan.partCount, plan.fileSize, plan.fileSize⟩

theorem Told.is_exact {plan : MultipartPlan} {reused completed : List PartNumber}
    {told : List ManagedUploadProgress} (said : Told plan reused completed told) :
    Exact plan reused completed told :=
  { said with
    rises := said.rises
    sums := said.exact
    bounded := said.bounded
    last := said.last
    complete := said.complete }

/-- `run` has not come to the parts, or has ended in an error. -/
def RunState.Unprepared : RunState → Prop
  | .ready | .listing _ | .ending (.finished (.error _)) => True
  | _ => False

variable (transfer : Transfer)

/-- The progress of `run`: its callbacks, its two counters before and after every step of a
    part, and the two counts of its result. -/
structure FileProgress (history : History RunEvent Effect) (s : RunState) : Prop where
  callbacks : transfer.builder.progress = true →
    s.Unprepared ∧ Silent history ∨
      Exact transfer.session.plan (reusedParts transfer.session.plan history)
        (completions RunEvent.completion history) (reports history)
  counters : ∀ reused queue uploads, s = .uploading reused queue uploads →
    Unwrapped transfer.session.plan (reusedParts transfer.session.plan history ++
      completions RunEvent.completion history) uploads
  counted : ∀ reused queue uploads number event next out,
    s = .uploading reused queue uploads →
    uploads.onTask transfer number event = some (.running next out) →
    Unwrapped transfer.session.plan (reusedParts transfer.session.plan history ++
      (completions RunEvent.completion history ++ event.completion number)) next
  counts : ∀ result, s = .ending (.finished (.ok result)) →
    result.uploadedParts = (completions RunEvent.completion history).length ∧
      result.reusedParts = (reusedParts transfer.session.plan history).length
  finished : ∀ ending, s = .ending ending → ending.failed = false →
    transfer.session.plan.numbers ⊆ reusedParts transfer.session.plan history ++
      completions RunEvent.completion history

/-- The progress of `run_stream`, which reuses nothing. -/
structure StreamProgress (history : History StreamEvent Effect) (s : StreamState) : Prop where
  callbacks : transfer.builder.progress = true →
    Exact transfer.session.plan [] (completions StreamEvent.completion history)
      (reports history)
  counters : ∀ pipeline, s = .running pipeline →
    Unwrapped transfer.session.plan (completions StreamEvent.completion history)
      pipeline.uploads
  counted : ∀ pipeline number event next out, s = .running pipeline →
    pipeline.uploads.onTask transfer number event = some (.running next out) →
    Unwrapped transfer.session.plan
      (completions StreamEvent.completion history ++ event.completion number) next
  counts : ∀ request uploadedParts reusedParts,
    s = .ending (.completing request uploadedParts reusedParts) →
    uploadedParts = (completions StreamEvent.completion history).length ∧ reusedParts = 0
  finished : ∀ ending, s = .ending ending → ending.failed = false →
    transfer.session.plan.numbers ⊆ completions StreamEvent.completion history

variable {transfer}

theorem Counted.unwrapped {plan : MultipartPlan} {reused : List PartNumber} {uploads : Uploads}
    (counted : Counted plan reused uploads) :
    Unwrapped plan (reused ++ uploads.numbers) uploads :=
  ⟨counted.parts, counted.bytes⟩

theorem ReportInvariant.progress {history : History RunEvent Effect} {s : RunState}
    (holds : ReportInvariant transfer history s) : FileProgress transfer history s := by
  constructor
  · intro registered
    cases s with
    | ready =>
        obtain rfl : history = [] := holds
        exact Or.inl ⟨trivial, rfl, rfl⟩
    | listing state => exact Or.inl ⟨trivial, holds.1⟩
    | uploading reused queue uploads => exact Or.inr (holds.reported registered).is_exact
    | checking manifest uploadedCount reusedCount =>
        exact Or.inr (holds.reported registered).is_exact
    | ending ending =>
        match ending with
        | .completing _ _ _ => exact Or.inr (holds.reported registered).is_exact
        | .finished (.ok _) => exact Or.inr (holds.reported registered).is_exact
        | .finished (.error _) =>
            rcases holds with silent | reported
            · exact Or.inl ⟨trivial, silent⟩
            · exact Or.inr (reported registered).is_exact
  · rintro reused queue uploads rfl
    rw [← holds.numbers]
    exact holds.counted.unwrapped
  · rintro reused queue uploads number event next out rfl moved
    have after := holds.part moved
    have unwrapped := after.counted.unwrapped
    rwa [after.numbers, reusedParts_snoc rfl, completions_snoc] at unwrapped
  · rintro result rfl
    exact ⟨holds.uploaded, holds.reused⟩
  · rintro ending rfl passed
    match ending with
    | .completing _ _ _ => exact holds.covers
    | .finished (.ok _) => exact holds.covers
    | .finished (.error _) => cases passed

theorem StreamReports.progress {history : History StreamEvent Effect} {s : StreamState}
    {content : List UInt8} (holds : StreamReports transfer history s)
    (sound : ∀ pipeline, s = .running pipeline →
      ∃ received, PipelineInvariant transfer.session.plan content received pipeline) :
    StreamProgress transfer history s := by
  constructor
  · intro registered
    exact (holds.reported registered).is_exact
  · rintro pipeline rfl
    obtain ⟨numbers, counted⟩ := holds.counters pipeline rfl
    rw [← numbers]
    exact counted.unwrapped
  · rintro pipeline number event next out rfl moved
    obtain ⟨numbers, counted⟩ := holds.counters pipeline rfl
    obtain ⟨received, pipeline_sound⟩ := sound pipeline rfl
    have settles := counted.onTask pipeline_sound.parts moved
    rw [← numbers, ← settles.numbers]
    exact settles.counted.unwrapped
  · exact holds.counts
  · exact holds.covers

variable (transfer)

/-- Progress reports are monotone and exact: in every run of `run` and of `run_stream`, in
    whatever order the parts complete. A run that asks for its completion, or has it, has
    completed every planned part that was not reused. -/
theorem progress_exact :
    (∀ fingerprint history s, (transfer.runFile fingerprint).Reaches .ready history s →
      FileProgress transfer history s) ∧
    ∀ content history s, transfer.runStream.Reaches
      (StreamState.start transfer.session.plan content) history s →
      StreamProgress transfer history s := by
  constructor
  · intro fingerprint history s run
    exact (reportInvariant_of_reaches run).progress
  · intro content history s run
    exact (streamReports_of_reaches run).progress (streamInvariant_of_reaches run).pipeline

/-- A new upload of `PresignedMultipart.three`, with a callback. -/
def Transfer.freshThree : Transfer :=
  ⟨{ ManagedMultipartBuilder.tiny with progress := true }, .three⟩

/-- Three parts of a stream, all of them in flight. -/
def received (first second : List UInt8) : List PartTask :=
  [receivedTask (.first, first), receivedTask (.second, second),
    receivedTask (.third, [97, 98, 99])]

theorem reaches_three {first second : List UInt8} (first_full : first.length = minMultipartPartSize)
    (second_full : second.length = minMultipartPartSize) :
    ∃ history, Transfer.freshThree.runStream.Reaches
        (StreamState.start PresignedMultipart.three.plan (first ++ (second ++ [97, 98, 99])))
        history (.running ⟨⟨0, 4, .looping, []⟩, [], ⟨received first second, [], 0, 0⟩⟩) ∧
      reports history = [] := by
  have start : Transfer.freshThree.runStream.Reaches
      (StreamState.start PresignedMultipart.three.plan (first ++ (second ++ [97, 98, 99]))) []
      (.running ⟨⟨2 * minMultipartPartSize + 3, 0 + 1, .looping, first ++ (second ++ [97, 98, 99])⟩,
        [], ⟨[], [], 0, 0⟩⟩) := .refl
  obtain ⟨one, one_eq, run⟩ := reaches_received start (by rw [first_full]; decide) (by decide)
    (by decide) (by decide)
  obtain rfl : one = .first := PartNumber.ext one_eq
  have left : 2 * minMultipartPartSize + 3 - first.length = minMultipartPartSize + 3 := by
    rw [first_full]
    decide
  rw [left] at run
  obtain ⟨two, two_eq, run⟩ := reaches_received run (by rw [second_full]; decide) (by decide)
    (by decide) (show 1 < 4 by decide)
  obtain rfl : two = .second := PartNumber.ext two_eq
  have last : minMultipartPartSize + 3 - second.length = 3 := by
    rw [second_full]
    decide
  rw [last, ← List.append_nil [97, 98, 99]] at run
  obtain ⟨three, three_eq, run⟩ := reaches_received run (by decide) (by decide) (by decide)
    (show 2 < 4 by decide)
  obtain rfl : three = .third := PartNumber.ext three_eq
  exact ⟨_, run, rfl⟩

/-- The callbacks of a resumed file and of a stream of three parts, the first part being the last
    one that completes. -/
theorem progress_exact_three :
    (∃ fingerprint history s, (Transfer.three.runFile fingerprint).Reaches .ready history s ∧
      reports history = [⟨1, 3, 3, 2 * minMultipartPartSize + 3⟩,
        ⟨2, 3, minMultipartPartSize + 3, 2 * minMultipartPartSize + 3⟩,
        ⟨3, 3, 2 * minMultipartPartSize + 3, 2 * minMultipartPartSize + 3⟩] ∧
      FileProgress .three history s) ∧
    ∃ content history s, Transfer.freshThree.runStream.Reaches
        (StreamState.start PresignedMultipart.three.plan content) history s ∧
      reports history = [⟨1, 3, minMultipartPartSize, 2 * minMultipartPartSize + 3⟩,
        ⟨2, 3, minMultipartPartSize + 3, 2 * minMultipartPartSize + 3⟩,
        ⟨3, 3, 2 * minMultipartPartSize + 3, 2 * minMultipartPartSize + 3⟩] ∧
      StreamProgress .freshThree history s := by
  constructor
  · let fingerprint : SourceFileFingerprint := .fromMetadata ⟨true, 3, some 0, 0, 0⟩
    have read_first := @readPart_eq _ _ .first length_threeContent (by decide)
    have read_second := @readPart_eq _ _ .second length_threeContent (by decide)
    obtain ⟨parts, sent, answers, server, run⟩ :=
      @reaches_threeHistory fingerprint _ _ read_first read_second
    have run := Protocol.machine_reaches run
    exact ⟨fingerprint, _, _, run, rfl, (progress_exact .three).1 fingerprint _ _ run⟩
  · obtain ⟨part, part_full⟩ : ∃ part : List UInt8, part.length = minMultipartPartSize :=
      ⟨List.replicate minMultipartPartSize 0, List.length_replicate⟩
    obtain ⟨history, run, silent⟩ := reaches_three part_full part_full
    have two_parts : (minMultipartPartSize + 3) % 2 ^ 64 = minMultipartPartSize + 3 := rfl
    have three_parts : (minMultipartPartSize + 3 + part.length) % 2 ^ 64 =
        2 * minMultipartPartSize + 3 := by rw [part_full]; rfl
    have one_part : (0 + part.length) % 2 ^ 64 = minMultipartPartSize := by rw [part_full]; rfl
    have second_done := run.snoc (runStream_task (@Uploads.onTask_uploaded .freshThree _
      ⟨[receivedTask (.first, part), receivedTask (.third, [97, 98, 99])],
        [⟨.second, "b", by decide⟩], 1, minMultipartPartSize⟩ [receivedTask (.first, part)]
      [receivedTask (.third, [97, 98, 99])] (receivedTask (.second, part))
      (.answered 0 (.ok (some "b"))) _ rfl
      (List.forall_mem_singleton.mpr PartNumber.first_ne_second)
      (PartTask.step_answered rfl (by decide)) (congrArg (Uploads.mk _ _ 1) one_part.symm)))
    have third_done := second_done.snoc (runStream_task (@Uploads.onTask_uploaded .freshThree _
      ⟨[receivedTask (.first, part)], [⟨.second, "b", by decide⟩, ⟨.third, "c", by decide⟩], 2,
        minMultipartPartSize + 3⟩ [receivedTask (.first, part)] []
      (receivedTask (.third, [97, 98, 99])) (.answered 0 (.ok (some "c"))) _ rfl
      (List.forall_mem_singleton.mpr PartNumber.first_ne_third)
      (PartTask.step_answered rfl (by decide)) (congrArg (Uploads.mk _ _ 2) two_parts.symm)))
    have first_done := third_done.snoc (runStream_task (@Uploads.onTask_uploaded .freshThree _
      ⟨[], [⟨.second, "b", by decide⟩, ⟨.third, "c", by decide⟩, ⟨.first, "a", by decide⟩], 3,
        2 * minMultipartPartSize + 3⟩ [] [] (receivedTask (.first, part))
      (.answered 0 (.ok (some "a"))) _ rfl (List.forall_mem_nil _)
      (PartTask.step_answered rfl (by decide)) (congrArg (Uploads.mk _ _ 3) three_parts.symm)))
    refine ⟨_, _, _, first_done, ?_, (progress_exact .freshThree).2 _ _ _ first_done⟩
    simp only [reports_snoc, silent]
    rfl

end Progress

end R2kit
