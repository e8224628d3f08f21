import R2kit.Managed.RunFile

/-!
# Accounting for every part of a file

The invariant of `run`: every planned part is reused, waiting, in flight or uploaded, and
is exactly one of these. It holds whatever order the parts finish in and however often an
attempt is repeated.
-/

namespace R2kit

open Misc

section Accounting

/-- The parts that the pages of a run listed. -/
def RunEvent.listedParts : RunEvent → List RemotePart
  | .listed (.ok output) => output.parts
  | _ => []

/-- The successful answer to `UploadPart` that an event hands in. -/
def RunEvent.success : RunEvent → List (PartNumber × Option String)
  | .task number event => event.success number
  | _ => []

/-- An event that reads the file reads this content. -/
def RunEvent.Reads (content : List UInt8) : RunEvent → Prop
  | .task _ (.read view) => view = .content content
  | _ => True

/-- The remote parts in the order of their pages. -/
def remoteParts (history : History RunEvent Effect) : List RemotePart :=
  history.events.flatMap RunEvent.listedParts

/-- The successful answers to `UploadPart` in a run. -/
def successes (history : History RunEvent Effect) : List (PartNumber × Option String) :=
  history.events.flatMap RunEvent.success

@[simp] theorem remoteParts_snoc (history : History RunEvent Effect) (event : RunEvent)
    (out : List Effect) :
    remoteParts (history ++ [(event, out)]) = remoteParts history ++ event.listedParts := by
  simp [remoteParts]

@[simp] theorem successes_snoc (history : History RunEvent Effect) (event : RunEvent)
    (out : List Effect) :
    successes (history ++ [(event, out)]) = successes history ++ event.success := by
  simp [successes]

/-- Whether a part is among those listed. -/
def listedIn (remote : List RemotePart) (number : PartNumber) : Bool :=
  remote.any (fun part => part.partNumber == some (number.get : Int))

/-- The planned parts that were listed. -/
def present (plan : MultipartPlan) (remote : List RemotePart) : List PartNumber :=
  plan.numbers.filter (listedIn remote)

/-- The planned parts that were not. -/
def absent (plan : MultipartPlan) (remote : List RemotePart) : List PartNumber :=
  plan.numbers.filter (fun number => ¬ listedIn remote number)

/-- An `UploadPart`. -/
def Operation.isUploadPart : Operation → Bool
  | .uploadPart _ _ _ => true
  | _ => false

/-- What is sent as a part is a slice of the file, of one of these parts. -/
def SendsSlices (session : PresignedMultipart) (content : List UInt8)
    (numbers : List PartNumber) (outputs : List Effect) : Prop :=
  ∀ request, .send request ∈ outputs → request.operation.isUploadPart = true →
    ∃ number ∈ numbers, request = uploadPartRequest session number
      (block session.plan.partSize number.index content)

/-- The parts taken over from the listing are the listed ones. -/
structure Existing (plan : MultipartPlan) (remote : List RemotePart)
    (existing : List UploadedPart) : Prop where
  planned : ∀ part ∈ existing, part.partNumber.get ≤ plan.partCount
  distinct : (existing.map UploadedPart.partNumber).Nodup
  sources : ∀ part ∈ existing, ∃ listed ∈ remote, Describes plan listed part
  covers : ∀ listed ∈ remote, ∃ part ∈ existing, Describes plan listed part

/-- Where every planned part is: reused, pending or uploaded. -/
structure Accounted (session : PresignedMultipart) (content : List UInt8)
    (history : History RunEvent Effect) (existing uploaded : List UploadedPart)
    (pending : List PartNumber) : Prop where
  listed : Existing session.plan (remoteParts history) existing
  numbers : (existing.map UploadedPart.partNumber ++ pending ++
    uploaded.map UploadedPart.partNumber).Perm session.plan.numbers
  results : successes history = uploaded.map UploadedPart.answer
  sends : SendsSlices session content (absent session.plan (remoteParts history))
    history.outputs

/-- What is known of the parts that are waiting or in flight. -/
structure Loaded (plan : MultipartPlan) (content : List UInt8)
    (queue : List (PartNumber × Nat)) (uploads : Uploads) : Prop where
  queued : ∀ entry ∈ queue, entry.2 = blockLength plan.fileSize plan.partSize entry.1.index
  sized : ∀ task ∈ uploads.inFlight,
    task.length = blockLength plan.fileSize plan.partSize task.number.index
  holds : ∀ task ∈ uploads.inFlight,
    task.Holds (fun number => block plan.partSize number.index content)

/-- The invariant of `run`. -/
def FileInvariant (transfer : Transfer) (content : List UInt8)
    (history : History RunEvent Effect) : RunState → Prop
  | .ready => history = []
  | .listing state =>
      transfer.builder.resume.isSome ∧
      state.Sound transfer.session.plan
        (fun part => ∃ listed ∈ remoteParts history, Describes transfer.session.plan listed part) ∧
      (∀ listed ∈ remoteParts history, ∃ part ∈ recorded state.uploaded,
        Describes transfer.session.plan listed part) ∧
      successes history = [] ∧ SendsSlices transfer.session content [] history.outputs
  | .uploading reused queue uploads => ∃ existing,
      reused = insertAll UploadedPart.partNumber ∅ existing ∧
      Accounted transfer.session content history existing uploads.uploaded
        (queue.map Prod.fst ++ uploads.inFlight.map PartTask.number) ∧
      Loaded transfer.session.plan content queue uploads
  | .checking manifest uploadedCount reusedCount => ∃ existing uploaded,
      manifest = insertAll UploadedPart.partNumber ∅ (existing ++ uploaded) ∧
      uploadedCount = uploaded.length ∧ reusedCount = existing.length ∧
      Accounted transfer.session content history existing uploaded []
  | .ending _ => SendsSlices transfer.session content
      (absent transfer.session.plan (remoteParts history)) history.outputs

variable {transfer : Transfer} {session : PresignedMultipart} {plan : MultipartPlan}
  {content : List UInt8} {history : History RunEvent Effect}

theorem SendsSlices.append {numbers more : List PartNumber} {outputs out : List Effect}
    (sends : SendsSlices session content numbers outputs) (among : numbers ⊆ more)
    (new : SendsSlices session content more out) :
    SendsSlices session content more (outputs ++ out) := by
  intro request member upload
  rcases List.mem_append.mp member with before | now
  · obtain ⟨number, within, same⟩ := sends request before upload
    exact ⟨number, among within, same⟩
  · exact new request now upload

/-- Outputs without an `UploadPart` send no slice. -/
theorem sendsSlices_of_none {numbers : List PartNumber} {out : List Effect}
    (none_sent : ∀ request, .send request ∈ out → request.operation.isUploadPart = false) :
    SendsSlices session content numbers out := by
  intro request member upload
  rw [none_sent request member] at upload
  cases upload

/-- The parts taken over are those that were listed. -/
theorem Existing.listedIn_iff {remote : List RemotePart} {existing : List UploadedPart}
    (sound : Existing plan remote existing) (number : PartNumber) :
    listedIn remote number = true ↔ number ∈ existing.map UploadedPart.partNumber := by
  rw [listedIn, List.any_eq_true, List.mem_map]
  constructor
  · rintro ⟨listed, member, same⟩
    obtain ⟨part, among, describes⟩ := sound.covers listed member
    refine ⟨part, among, ?_⟩
    rw [beq_iff_eq, describes.number, Option.some.injEq, Int.natCast_inj] at same
    exact PartNumber.ext same
  · rintro ⟨part, among, rfl⟩
    obtain ⟨listed, member, describes⟩ := sound.sources part among
    exact ⟨listed, member, by rw [describes.number, beq_self_eq_true]⟩

theorem Existing.mem_absent {remote : List RemotePart} {existing : List UploadedPart}
    (sound : Existing plan remote existing) {number : PartNumber} :
    number ∈ absent plan remote ↔
      number ∈ plan.numbers ∧ number ∉ existing.map UploadedPart.partNumber := by
  rw [absent, List.mem_filter, decide_eq_true_eq, sound.listedIn_iff]

/-- A part that is not settled yet was not listed. -/
theorem Accounted.pending_absent {existing uploaded : List UploadedPart}
    {pending : List PartNumber}
    (accounted : Accounted session content history existing uploaded pending)
    {number : PartNumber} (member : number ∈ pending) :
    number ∈ absent session.plan (remoteParts history) := by
  have distinct := accounted.numbers.nodup_iff.mpr session.plan.nodup_numbers
  rw [List.append_assoc, List.nodup_append] at distinct
  rw [accounted.listed.mem_absent]
  constructor
  · apply accounted.numbers.subset
    exact List.mem_append_left _ (List.mem_append_right _ member)
  · intro reused
    exact distinct.2.2 number reused number (List.mem_append_left _ member) rfl

/-- One step that lists nothing: the pending and the uploaded parts are the same together,
    and what is uploaded grows by the answer the event hands in. -/
theorem Accounted.step {existing uploaded next : List UploadedPart}
    {pending rest : List PartNumber} {event : RunEvent} {out : List Effect}
    (accounted : Accounted session content history existing uploaded pending)
    (quiet : event.listedParts = [])
    (numbers : (rest ++ next.map UploadedPart.partNumber).Perm
      (pending ++ uploaded.map UploadedPart.partNumber))
    (results : next.map UploadedPart.answer = uploaded.map UploadedPart.answer ++ event.success)
    (sends : SendsSlices session content pending out) :
    Accounted session content (history ++ [(event, out)]) existing next rest := by
  have same : remoteParts (history ++ [(event, out)]) = remoteParts history := by
    simp [quiet]
  constructor
  · rw [same]
    exact accounted.listed
  · refine List.Perm.trans ?_ accounted.numbers
    rw [List.append_assoc, List.append_assoc]
    exact numbers.append_left _
  · rw [successes_snoc, accounted.results, results]
  · rw [same, History.outputs_snoc]
    refine accounted.sends.append (fun number member => member) ?_
    intro request member upload
    obtain ⟨number, within, shape⟩ := sends request member upload
    exact ⟨number, accounted.pending_absent within, shape⟩

/-- Some distinct elements of a list and the others make up the list. -/
theorem perm_append_filter {α : Type} [DecidableEq α] {some all : List α}
    (distinct : some.Nodup) (whole : all.Nodup) (among : some ⊆ all) :
    (some ++ all.filter (fun element => element ∉ some)).Perm all := by
  rw [List.perm_ext_iff_of_nodup ?_ whole]
  · intro element
    rw [List.mem_append, List.mem_filter, decide_eq_true_eq]
    constructor
    · rintro (member | ⟨member, -⟩)
      · exact among member
      · exact member
    · intro member
      by_cases within : element ∈ some
      · exact Or.inl within
      · exact Or.inr ⟨member, within⟩
  · rw [List.nodup_append]
    refine ⟨distinct, whole.filter _, ?_⟩
    rintro element within other others rfl
    rw [List.mem_filter, decide_eq_true_eq] at others
    exact others.2 within

/-- Going on with the parts, or past them, keeps the invariant. -/
theorem afterUploads_invariant {existing : List UploadedPart}
    {queue : List (PartNumber × Nat)} {uploads : Uploads}
    (accounted : Accounted transfer.session content history existing uploads.uploaded
      (queue.map Prod.fst ++ uploads.inFlight.map PartTask.number))
    (loaded : Loaded transfer.session.plan content queue uploads) :
    FileInvariant transfer content history
      (Transfer.afterUploads (insertAll UploadedPart.partNumber ∅ existing) queue uploads) := by
  unfold Transfer.afterUploads
  split
  · rename_i drained
    rw [drained.1, drained.2] at accounted
    have total := accounted.numbers.length_eq
    have bound := transfer.session.plan.partCount_le
    rw [MultipartPlan.length_numbers] at total
    simp only [List.length_append, List.length_map, List.length_nil] at total
    simp only [maxParts] at bound
    refine ⟨existing, uploads.uploaded, insertAll_append _ _ |>.symm, ?_, ?_, accounted⟩
    · exact asU16_eq (by omega)
    · rw [size_insertAll accounted.listed.distinct]
      exact asU16_eq (by omega)
  · exact ⟨existing, rfl, accounted, loaded⟩

/-- From the listed parts to the missing ones, without an error. -/
theorem prepare_eq {existing : List UploadedPart}
    (planned : ∀ part ∈ existing, part.partNumber.get ≤ transfer.session.plan.partCount)
    (distinct : (existing.map UploadedPart.partNumber).Nodup) :
    let reused := insertAll UploadedPart.partNumber ∅ existing
    let uploads : Uploads := {
      inFlight := []
      uploaded := []
      completedParts := asU16 reused.size
      transferredBytes := existingBytes transfer.session.plan existing }
    transfer.prepare existing =
      (Transfer.afterUploads reused
        ((transfer.session.plan.numbers.filter (fun number => ¬ reused.contains number)).map
          (fun number => (number, blockLength transfer.session.plan.fileSize
            transfer.session.plan.partSize number.index))) uploads, uploads.progress transfer) := by
  have small := transfer.session.plan.sum_partLength_le distinct (by
    intro number member
    obtain ⟨part, among, rfl⟩ := List.mem_map.mp member
    exact planned part among)
  have large := transfer.session.plan.fileSize_le
  have fits : 0 + existingBytes transfer.session.plan existing ≤ u64Max := by
    rw [Nat.zero_add, existingBytes]
    refine Nat.le_trans small (Nat.le_trans large ?_)
    decide
  simp only [Transfer.prepare, collectExisting_eq planned fits, missingParts_eq, Nat.zero_add]

/-- What is missing from the map is what was not taken over. -/
theorem filter_not_contains (existing : List UploadedPart) (numbers : List PartNumber) :
    (numbers.filter (fun number =>
      ¬ (insertAll UploadedPart.partNumber ∅ existing).contains number)) =
      numbers.filter (fun number => number ∉ existing.map UploadedPart.partNumber) := by
  apply List.filter_congr
  intro number _
  rw [decide_eq_decide, ← Std.TreeMap.mem_iff_contains, mem_insertAll]
  simp

/-- Every planned part with its length, in order. -/
def plannedQueue (plan : MultipartPlan) : List (PartNumber × Nat) :=
  plan.numbers.map (fun number => (number, blockLength plan.fileSize plan.partSize number.index))

/-- Without stored parts every planned part is to be uploaded. -/
theorem prepare_nil : transfer.prepare [] =
    (.uploading ∅ (plannedQueue transfer.session.plan) ⟨[], [], 0, 0⟩,
      Uploads.progress transfer ⟨[], [], 0, 0⟩) := by
  have prepared := @prepare_eq transfer [] (List.forall_mem_nil _) List.nodup_nil
  have every : transfer.session.plan.numbers.filter (fun number =>
      ¬ (insertAll UploadedPart.partNumber (∅ : PartMap) []).contains number) =
        transfer.session.plan.numbers := by
    rw [List.filter_eq_self]
    simp [insertAll]
  have some_left : plannedQueue transfer.session.plan ≠ [] := by
    intro empty
    have count := transfer.session.plan.length_numbers
    rw [List.map_eq_nil_iff.mp empty] at count
    exact absurd count (Nat.ne_of_lt transfer.session.plan.partCount_pos)
  dsimp only at prepared
  rw [every, ← plannedQueue, Transfer.afterUploads, if_neg (by simp [some_left])] at prepared
  exact prepared

/-- A new upload begins with every planned part. -/
theorem runFile_fresh {fingerprint : SourceFileFingerprint}
    (fresh : transfer.builder.resume = none) :
    (transfer.runFile fingerprint).step .ready .poll =
      some (.uploading ∅ (plannedQueue transfer.session.plan) ⟨[], [], 0, 0⟩,
        Uploads.progress transfer ⟨[], [], 0, 0⟩) := by
  simp only [Transfer.runFile, fresh, prepare_nil]
  rfl

theorem prepare_invariant {existing : List UploadedPart} {event : RunEvent}
    (sound : Existing transfer.session.plan
      (remoteParts (history ++ [(event, (transfer.prepare existing).2)])) existing)
    (quiet : successes history ++ event.success = [])
    (sends : SendsSlices transfer.session content [] history.outputs) :
    FileInvariant transfer content (history ++ [(event, (transfer.prepare existing).2)])
      (transfer.prepare existing).1 := by
  have shape := @prepare_eq transfer _ sound.planned sound.distinct
  dsimp only at shape
  rw [shape] at sound ⊢
  apply afterUploads_invariant
  · constructor
    · exact sound
    · have among : existing.map UploadedPart.partNumber ⊆ transfer.session.plan.numbers := by
        intro number member
        obtain ⟨part, within, rfl⟩ := List.mem_map.mp member
        exact transfer.session.plan.mem_numbers.mpr (sound.planned part within)
      have first : Prod.fst ∘ (fun number => (number,
          blockLength transfer.session.plan.fileSize transfer.session.plan.partSize
            (PartNumber.index number))) = id := rfl
      simp only [List.map_map, List.map_nil, List.append_nil]
      rw [first, List.map_id, filter_not_contains]
      exact perm_append_filter sound.distinct transfer.session.plan.nodup_numbers among
    · simpa using quiet
    · rw [History.outputs_snoc]
      refine sends.append (List.nil_subset _) (sendsSlices_of_none ?_)
      intro request member
      obtain ⟨progress, report⟩ := Uploads.progress_report member
      cases report
  · constructor
    · intro entry member
      obtain ⟨number, -, rfl⟩ := List.mem_map.mp member
      rfl
    · simp
    · simp

theorem no_part_in_singleton {request : Request} (other : request.operation.isUploadPart = false) :
    ∀ sent, .send sent ∈ [Effect.send request] → sent.operation.isUploadPart = false := by
  intro sent member
  rw [List.mem_singleton, Effect.send.injEq] at member
  rw [member]
  exact other

/-- A request that is no `UploadPart` sends no slice. -/
theorem sendsSlices_singleton {numbers : List PartNumber} {request : Request}
    (other : request.operation.isUploadPart = false) :
    SendsSlices session content numbers [.send request] :=
  sendsSlices_of_none (no_part_in_singleton other)

theorem sendsSlices_nil (numbers : List PartNumber) :
    SendsSlices session content numbers [] :=
  sendsSlices_of_none (by simp)

/-- Neither a completion nor an end sends a part. -/
theorem sendsSlices_start {numbers : List PartNumber} (manifest : PartMap)
    (uploadedParts reusedParts : Nat) :
    SendsSlices session content numbers
      (Ending.start session manifest uploadedParts reusedParts).2 := by
  rcases Ending.start_cases session manifest uploadedParts reusedParts with
    ⟨error, shape⟩ | ⟨completion, sent, accepted, shape⟩
  · rw [shape]
    exact sendsSlices_nil _
  · rw [shape]
    obtain ⟨-, rfl⟩ := PresignedMultipart.completeRequest_eq_ok_iff.mp accepted
    exact sendsSlices_singleton rfl

/-- What is sent stays sent, and no part of it was listed since. -/
theorem SendsSlices.quiet {numbers : List PartNumber} {event : RunEvent} {out : List Effect}
    (sends : SendsSlices session content numbers history.outputs)
    (among : numbers ⊆ absent session.plan (remoteParts history))
    (quiet : event.listedParts = [])
    (new : ∀ numbers, SendsSlices session content numbers out) :
    SendsSlices session content
      (absent session.plan (remoteParts (history ++ [(event, out)])))
      (History.outputs (history ++ [(event, out)])) := by
  have same : remoteParts (history ++ [(event, out)]) = remoteParts history := by
    simp [quiet]
  rw [same, History.outputs_snoc]
  exact sends.append among (new _)

/-- The first part that waits is taken into flight. -/
theorem Loaded.start {number : PartNumber} {length : Nat} {queue : List (PartNumber × Nat)}
    {uploads : Uploads} (loaded : Loaded plan content ((number, length) :: queue) uploads) :
    Loaded plan content queue
      { uploads with inFlight := uploads.inFlight ++ [⟨number, length, .reading⟩] } := by
  constructor
  · intro entry member
    exact loaded.queued entry (List.mem_cons_of_mem _ member)
  · rw [List.forall_mem_append, List.forall_mem_singleton]
    exact ⟨loaded.sized, loaded.queued _ List.mem_cons_self⟩
  · rw [List.forall_mem_append, List.forall_mem_singleton]
    exact ⟨loaded.holds, trivial⟩

/-- What is read of a part in flight is its slice of the file. -/
theorem part_reads {existing : List UploadedPart} {queue : List (PartNumber × Nat)}
    {uploads : Uploads} {number : PartNumber} {event : TaskEvent}
    (size : content.length = transfer.session.plan.fileSize)
    (reads : (RunEvent.task number event).Reads content)
    (accounted : Accounted transfer.session content history existing uploads.uploaded
      (queue.map Prod.fst ++ uploads.inFlight.map PartTask.number))
    (loaded : Loaded transfer.session.plan content queue uploads) :
    ∀ task ∈ uploads.inFlight, task.phase = .reading → ∀ view body, event = .read view →
      readPart view transfer.session.plan.partSize task.number task.length = .ok body →
      body = block transfer.session.plan.partSize task.number.index content := by
  rintro task member - view body rfl read
  have planned : task.number.get ≤ transfer.session.plan.partCount := by
    rw [← MultipartPlan.mem_numbers]
    apply accounted.numbers.subset
    simp only [List.mem_append]
    exact Or.inl (Or.inr (Or.inr (List.mem_map_of_mem member)))
  obtain rfl : view = .content content := reads
  rw [loaded.sized task member, readPart_eq size planned] at read
  cases read
  rfl

/-- A step of the parts in flight keeps the invariant. -/
theorem part_invariant {existing : List UploadedPart} {queue : List (PartNumber × Nat)}
    {uploads next : Uploads} {number : PartNumber} {event : TaskEvent} {out : List Effect}
    (size : content.length = transfer.session.plan.fileSize)
    (reads : (RunEvent.task number event).Reads content)
    (accounted : Accounted transfer.session content history existing uploads.uploaded
      (queue.map Prod.fst ++ uploads.inFlight.map PartTask.number))
    (loaded : Loaded transfer.session.plan content queue uploads)
    (moved : uploads.onTask transfer number event = some (.running next out)) :
    FileInvariant transfer content (history ++ [(.task number event, out)])
      (Transfer.afterUploads (insertAll UploadedPart.partNumber ∅ existing) queue next) := by
  have advances := Uploads.onTask_advances moved loaded.holds
    (part_reads size reads accounted loaded)
  apply afterUploads_invariant
  · refine accounted.step rfl ?_ advances.results ?_
    · rw [List.append_assoc, List.append_assoc]
      exact advances.numbers.append_left _
    · intro request member upload
      rcases advances.sends _ member with ⟨progress, report⟩ | ⟨task, among, same⟩
      · cases report
      · rw [Effect.send.injEq] at same
        exact ⟨task.number, List.mem_append_right _ (List.mem_map_of_mem among), same⟩
  · refine ⟨loaded.queued, ?_, advances.holds⟩
    intro task member
    obtain ⟨old, among, number_eq, length_eq, -⟩ := advances.tasks task member
    rw [← number_eq, ← length_eq]
    exact loaded.sized old among

/-- A page adds what it lists to what is known, and nothing else. -/
theorem page_sound {remote : List RemotePart} {state : ReconcileState}
    {output : ListPartsOutput} {next : ReconcileState.Next}
    (sound : state.Sound plan (fun part => ∃ listed ∈ remote, Describes plan listed part))
    (covers : ∀ listed ∈ remote, ∃ part ∈ recorded state.uploaded, Describes plan listed part)
    (accepted : state.onAnswer plan (.ok output) = .ok next) :
    next.Sound plan (fun part => ∃ listed ∈ remote ++ output.parts, Describes plan listed part) ∧
      ∀ listed ∈ remote ++ output.parts, ∃ part ∈ next.recorded, Describes plan listed part := by
  obtain ⟨kept, added⟩ := onAnswer_records sound.slotted accepted
  constructor
  · refine onAnswer_ok ⟨sound.slotted, ?_⟩ ?_ accepted
    · intro part member
      obtain ⟨listed, among, describes⟩ := sound.holds part member
      exact ⟨listed, List.mem_append_left _ among, describes⟩
    · rintro found ⟨⟩ listed among part describes
      exact ⟨listed, List.mem_append_right _ among, describes⟩
  · intro listed member
    rcases List.mem_append.mp member with before | new
    · obtain ⟨part, among, describes⟩ := covers listed before
      exact ⟨part, kept part among, describes⟩
    · exact added listed new

/-- One step of `run` keeps the invariant. -/
theorem fileInvariant_step {fingerprint : SourceFileFingerprint} {s s' : RunState}
    {event : RunEvent} {out : List Effect}
    (size : content.length = transfer.session.plan.fileSize)
    (reads : event.Reads content) (holds : FileInvariant transfer content history s)
    (taken : (transfer.runFile fingerprint).step s event = some (s', out)) :
    FileInvariant transfer content (history ++ [(event, out)]) s' := by
  cases Transfer.runStep_of_step taken with
  | list resumed =>
      obtain rfl : history = [] := holds
      refine ⟨resumed, sound_start, ?_, rfl, sendsSlices_singleton rfl⟩
      simp [remoteParts, RunEvent.listedParts]
  | fresh new =>
      obtain rfl : history = [] := holds
      apply prepare_invariant
      · constructor <;> simp [remoteParts, RunEvent.listedParts]
      · rfl
      · exact sendsSlices_nil []
  | unlisted failed =>
      obtain ⟨-, -, -, -, sends⟩ := holds
      rw [FileInvariant, History.outputs_append]
      exact sends.append (List.nil_subset _) (sendsSlices_nil _)
  | @page _ _ next accepted =>
      obtain ⟨resumed, sound, covers, quiet, sends⟩ := holds
      obtain ⟨sound, covers⟩ := page_sound sound covers accepted
      rw [FileInvariant, remoteParts_snoc, successes_snoc, quiet, History.outputs_append]
      exact ⟨resumed, sound, covers, rfl,
        sends.append (List.nil_subset _) (sendsSlices_singleton rfl)⟩
  | lastPage accepted =>
      obtain ⟨resumed, sound, covers, quiet, sends⟩ := holds
      obtain ⟨sound, covers⟩ := page_sound sound covers accepted
      refine prepare_invariant ?_ (by rw [quiet]; rfl) sends
      rw [remoteParts_snoc]
      exact ⟨sound.planned, sound.distinct, sound.holds, covers⟩
  | start room =>
      obtain ⟨existing, rfl, accounted, loaded⟩ := holds
      refine ⟨existing, rfl, accounted.step rfl ?_ ?_ (sendsSlices_nil _), loaded.start⟩
      · simp only [List.map_cons, List.map_append, List.map_nil]
        grind
      · simp [RunEvent.success]
  | partFailed failed =>
      obtain ⟨existing, -, accounted, -⟩ := holds
      exact accounted.sends.quiet (fun number member => member) rfl sendsSlices_nil
  | part moved =>
      obtain ⟨existing, rfl, accounted, loaded⟩ := holds
      exact part_invariant size reads accounted loaded moved
  | changed differs =>
      obtain ⟨existing, uploaded, -, -, -, accounted⟩ := holds
      exact accounted.sends.quiet (fun number member => member) rfl sendsSlices_nil
  | unchanged same =>
      obtain ⟨existing, uploaded, -, -, -, accounted⟩ := holds
      exact accounted.sends.quiet (fun number member => member) rfl
        (fun numbers => sendsSlices_start _ _ _)
  | completed =>
      exact SendsSlices.quiet holds (fun number member => member) rfl sendsSlices_nil

/-- Whatever `run` has come to, only slices of planned parts were sent. -/
theorem FileInvariant.sends {s : RunState} (holds : FileInvariant transfer content history s) :
    SendsSlices transfer.session content transfer.session.plan.numbers history.outputs := by
  have planned : absent transfer.session.plan (remoteParts history) ⊆
      transfer.session.plan.numbers := fun number member => (List.mem_filter.mp member).1
  have widen : ∀ {numbers}, numbers ⊆ transfer.session.plan.numbers →
      SendsSlices transfer.session content numbers history.outputs →
      SendsSlices transfer.session content transfer.session.plan.numbers history.outputs := by
    intro numbers among sends request member upload
    obtain ⟨number, within, same⟩ := sends request member upload
    exact ⟨number, among within, same⟩
  cases s with
  | ready =>
      obtain rfl : history = [] := holds
      exact sendsSlices_nil _
  | listing state => exact widen (List.nil_subset _) holds.2.2.2.2
  | uploading reused queue uploads =>
      obtain ⟨existing, -, accounted, -⟩ := holds
      exact widen planned accounted.sends
  | checking manifest uploadedCount reusedCount =>
      obtain ⟨existing, uploaded, -, -, -, accounted⟩ := holds
      exact widen planned accounted.sends
  | ending ending => exact widen planned holds

/-- Once nothing is pending, the manifest holds every planned part. -/
theorem FileInvariant.gathered {manifest : PartMap} {uploadedCount reusedCount : Nat}
    (holds : FileInvariant transfer content history
      (.checking manifest uploadedCount reusedCount)) :
    ∃ existing uploaded, Accounted transfer.session content history existing uploaded [] ∧
      uploadedCount = uploaded.length ∧ reusedCount = existing.length ∧
      Keyed UploadedPart.partNumber manifest ∧
      (intoValues manifest).Perm (existing ++ uploaded) ∧
      ((intoValues manifest).map UploadedPart.partNumber).Perm transfer.session.plan.numbers := by
  obtain ⟨existing, uploaded, rfl, rfl, rfl, accounted⟩ := holds
  have numbers := accounted.numbers
  rw [List.append_nil, ← List.map_append] at numbers
  have distinct := numbers.nodup_iff.mpr transfer.session.plan.nodup_numbers
  have gathered := intoValues_insertAll (m := ∅) (existing ++ uploaded) distinct (by simp)
  rw [intoValues_empty, List.append_nil] at gathered
  exact ⟨existing, uploaded, accounted, rfl, rfl, keyed_empty.insertAll (existing ++ uploaded),
    gathered, (gathered.map UploadedPart.partNumber).trans numbers⟩

/-- Then every part was either reused or uploaded. -/
theorem Accounted.count_eq {existing uploaded : List UploadedPart}
    (accounted : Accounted session content history existing uploaded []) :
    uploaded.length + existing.length = session.partCount := by
  have total := accounted.numbers.length_eq
  rw [List.append_nil, List.length_append, List.length_map, List.length_map,
    MultipartPlan.length_numbers] at total
  rw [PresignedMultipart.partCount, ← total, Nat.add_comm]

end Accounting

end R2kit
