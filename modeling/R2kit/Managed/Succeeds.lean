import R2kit.Managed.Attempts
import R2kit.Managed.ShortReader
import R2kit.Multipart.Paging

/-!
# Uploads that succeed

`run` of `src/managed.rs` fails for reasons from outside only: a file that is not what it was,
an answer that is an error for good, a listing that contradicts the plan. Its own checks,
the sums that might overflow, the manifest, the coverage of the plan, always pass. And it
never waits for something that cannot come.
-/

namespace R2kit

open Misc

section Reasons

variable (transfer : Transfer) (fingerprint : SourceFileFingerprint) (content : List UInt8)

/-- An event that gives `run` no reason to fail by itself. -/
def RunEvent.Good : RunEvent → Prop
  | .listed answer => ∃ output, answer = .ok output ∧
      (output.isTruncated = some true → ∃ marker, output.nextPartNumberMarker = some marker)
  | .task _ (.read view) => view = .content content
  | .task _ (.answered _ (.ok etag)) => ∃ text, etag = some text ∧ text ≠ ""
  | .task _ (.answered _ (.error error)) => isRetryable error = true
  | .checked metadata => ∃ found, metadata = some found ∧
      fingerprint.matchesMetadata found = true
  | .completed answer => ∃ etag, answer = .ok etag
  | .poll | .start | .task _ .woken => True

/-- The parts that events list. -/
def listedBy (events : List RunEvent) : List RemotePart := events.flatMap RunEvent.listedParts

/-- Events that give `run` no reason to fail: each is good, no part fails as often as it may be
    tried, and what is listed agrees with the plan. -/
structure Healthy (events : List RunEvent) : Prop where
  good : ∀ event ∈ events, event.Good fingerprint content
  retries : ∀ number, failures (RunEvent.failsPart number) events < transfer.builder.maxAttempts
  listing : Acceptable transfer.session.plan (listedBy events)

variable {transfer fingerprint content}

theorem Acceptable.left {plan : MultipartPlan} {first second : List RemotePart}
    (acceptable : Acceptable plan (first ++ second)) : Acceptable plan first := by
  refine ⟨fun remote member => acceptable.1 remote (List.mem_append_left _ member), ?_⟩
  have distinct := acceptable.2
  rw [List.map_append] at distinct
  exact (List.nodup_append.mp distinct).1

theorem Healthy.before {events : List RunEvent} {event : RunEvent}
    (healthy : Healthy transfer fingerprint content (events ++ [event])) :
    Healthy transfer fingerprint content events := by
  refine ⟨fun other member => healthy.good other (List.mem_append_left _ member), ?_, ?_⟩
  · intro number
    have fewer := healthy.retries number
    rw [failures_snoc] at fewer
    omega
  · have listing := healthy.listing
    rw [listedBy, List.flatMap_append] at listing
    exact listing.left

/-- A good event that is no failure and lists nothing keeps what has happened healthy. -/
theorem Healthy.snoc {events : List RunEvent} {event : RunEvent}
    (healthy : Healthy transfer fingerprint content events)
    (good : event.Good fingerprint content) (unfailed : ∀ number, event.failsPart number = false)
    (unlisted : event.listedParts = []) :
    Healthy transfer fingerprint content (events ++ [event]) := by
  constructor
  · rw [List.forall_mem_append, List.forall_mem_singleton]
    exact ⟨healthy.good, good⟩
  · intro number
    rw [failures_snoc, unfailed number]
    exact healthy.retries number
  · rw [listedBy, List.flatMap_append, List.flatMap_singleton, unlisted, List.append_nil]
    exact healthy.listing

end Reasons

section Listing

variable {plan : MultipartPlan}

/-- A page is read if what has been listed so far agrees with the plan. -/
theorem exists_read {before after : List RemotePart} {uploaded : Slots}
    (read_before : readPage plan (ReconcileState.start plan).uploaded before = .ok uploaded)
    (acceptable : Acceptable plan (before ++ after)) :
    ∃ read, readPage plan uploaded after = .ok read ∧
      readPage plan (ReconcileState.start plan).uploaded (before ++ after) = .ok read := by
  obtain ⟨read, accepted⟩ := readPage_start_ok_iff.mpr acceptable
  refine ⟨read, ?_, accepted⟩
  rw [readPage_append, read_before] at accepted
  exact accepted

/-- The next page, or the result, of a listing that agrees with the plan. -/
theorem onAnswer_of_acceptable {before : List RemotePart} {state : ReconcileState}
    {output : ListPartsOutput}
    (read_before : readPage plan (ReconcileState.start plan).uploaded before =
      .ok state.uploaded)
    (marked : output.isTruncated = some true → ∃ marker, output.nextPartNumberMarker = some marker)
    (acceptable : Acceptable plan (before ++ output.parts)) :
    ∃ next, state.onAnswer plan (.ok output) = .ok next ∧ ∀ later, next = .listing later →
      readPage plan (ReconcileState.start plan).uploaded (before ++ output.parts) =
        .ok later.uploaded := by
  obtain ⟨read, page, all⟩ := exists_read read_before acceptable
  have slotted := (readPage_ok slotted_start all).1
  simp only [ReconcileState.onAnswer, page]
  split
  · obtain ⟨missing, split_eq, -⟩ := slotted.specified
    rw [split_eq]
    refine ⟨_, rfl, ?_⟩
    intro later other
    cases other
  · rename_i truncated
    obtain ⟨marker, is⟩ := marked (by simpa using truncated)
    rw [is]
    refine ⟨_, rfl, ?_⟩
    rintro later ⟨⟩
    exact all

end Listing

section Pool

variable {transfer : Transfer} {sends fails : PartNumber → Nat} {uploads : Uploads}
  {number : PartNumber} {event : TaskEvent} {error : Error}

/-- The pool of parts ends with an error for three reasons: a part that cannot be read, an
    answer without an ETag to go by, and an error that is final or came too often. -/
theorem Tally.failed_cases (tally : Tally transfer.builder.maxAttempts sends fails uploads)
    (failed : uploads.onTask transfer number event = some (.failed error)) :
    (∃ task view, task ∈ uploads.inFlight ∧ task.phase = .reading ∧ task.number = number ∧
      event = .read view ∧ readPart view transfer.session.plan.partSize task.number task.length =
        .error error) ∨
    (∃ random etag, event = .answered random (.ok etag) ∧
      uploadPartAnswer number (.ok etag) = .error error) ∨
    ∃ random reason, event = .answered random (.error reason) ∧
      (isRetryable reason = true → transfer.builder.maxAttempts ≤ fails number + 1) := by
  obtain ⟨task, among, rfl, stepped⟩ := Uploads.failed_cases failed
  rcases PartTask.step_cases stepped with ⟨view, _, phase, rfl, unread, same⟩ |
    ⟨_, _, -, -, -, other⟩ | ⟨body, attempt, random, answer, done, phase, rfl, stopped, same⟩ |
    ⟨_, _, _, _, _, -, -, -, other⟩ | ⟨_, _, _, -, -, other⟩
  · cases same
    exact Or.inl ⟨task, view, among, phase, rfl, rfl, unread⟩
  · cases other
  · obtain rfl := retryStep_eq_done stopped
    cases done with
    | ok etag => exact Or.inr (Or.inl ⟨random, etag, rfl, (TaskStep.finished.inj same).symm⟩)
    | error reason =>
        refine Or.inr (Or.inr ⟨random, reason, rfl, fun retryable => ?_⟩)
        have tallied := tally.flying task among
        simp only [PartTask.Tallied, phase] at tallied
        simp only [retryStep, retryable, and_true] at stopped
        split at stopped
        · cases stopped
        · omega
  · cases other
  · cases other

end Pool

section Course

variable {transfer : Transfer} {fingerprint : SourceFileFingerprint} {content : List UInt8}
  {history : History RunEvent Effect} {out : List Effect}

/-- On the way to a result: what is read of the listing, that something is left to do while
    parts are being uploaded, and how many parts there were. -/
def OnCourse (transfer : Transfer) (history : History RunEvent Effect) : RunState → Prop
  | .ready | .checking _ _ _ => True
  | .listing state => readPage transfer.session.plan
      (ReconcileState.start transfer.session.plan).uploaded (listedBy history.events) =
        .ok state.uploaded
  | .uploading _ queue uploads => ¬ (queue = [] ∧ uploads.inFlight = [])
  | .ending (.completing _ uploadedParts reusedParts) =>
      uploadedParts + reusedParts = transfer.session.partCount
  | .ending (.finished (.ok result)) => result.fileSize = transfer.session.plan.fileSize ∧
      result.partCount = transfer.session.partCount ∧
      result.uploadedParts + result.reusedParts = transfer.session.partCount
  | .ending (.finished (.error _)) => False

theorem afterUploads_onCourse {reused : PartMap} {queue : List (PartNumber × Nat)}
    {uploads : Uploads} : OnCourse transfer history
      (Transfer.afterUploads reused queue uploads) := by
  unfold Transfer.afterUploads
  split
  · trivial
  · rename_i something
    exact something

theorem prepare_onCourse {existing : List UploadedPart}
    (planned : ∀ part ∈ existing, part.partNumber.get ≤ transfer.session.plan.partCount)
    (distinct : (existing.map UploadedPart.partNumber).Nodup) :
    OnCourse transfer history (transfer.prepare existing).1 := by
  have shape := @prepare_eq transfer _ planned distinct
  dsimp only at shape
  rw [shape]
  exact afterUploads_onCourse

/-- A good event of a part that may still be tried does not end the pool. -/
theorem onTask_not_failed {existing : List UploadedPart} {queue : List (PartNumber × Nat)}
    {uploads : Uploads} {number : PartNumber} {event : TaskEvent} {error : Error}
    (size : content.length = transfer.session.plan.fileSize)
    (accounted : Accounted transfer.session content history existing uploads.uploaded
      (queue.map Prod.fst ++ uploads.inFlight.map PartTask.number))
    (loaded : Loaded transfer.session.plan content queue uploads)
    (tally : Tally transfer.builder.maxAttempts (sendsIn history)
      (failuresIn RunEvent.failsPart history) uploads)
    (good : (RunEvent.task number event).Good fingerprint content)
    (retried : failures (RunEvent.failsPart number) (history.events ++ [.task number event]) <
      transfer.builder.maxAttempts) :
    uploads.onTask transfer number event ≠ some (.failed error) := by
  intro failed
  rcases tally.failed_cases failed with ⟨task, view, among, -, -, rfl, unread⟩ |
    ⟨random, etag, rfl, unusable⟩ | ⟨random, reason, rfl, spent_after⟩
  · have planned : task.number.get ≤ transfer.session.plan.partCount := by
      rw [← MultipartPlan.mem_numbers]
      apply accounted.numbers.subset
      simp only [List.mem_append]
      exact Or.inl (Or.inr (Or.inr (List.mem_map_of_mem among)))
    obtain rfl : view = .content content := good
    rw [loaded.sized task among, readPart_eq size planned] at unread
    cases unread
  · obtain ⟨text, rfl, nonempty⟩ := good
    simp [uploadPartAnswer, UploadedPart.new, nonempty] at unusable
  · have retryable : isRetryable reason = true := good
    have spent := spent_after retryable
    rw [failures_snoc] at retried
    simp only [RunEvent.failsPart, beq_self_eq_true, TaskEvent.retryable, retryable,
      Bool.and_self, Bool.toNat_true] at retried
    simp only [failuresIn] at spent
    omega

/-- A step on a healthy event stays on course. -/
theorem onCourse_step {s s' : RunState} {event : RunEvent}
    (size : content.length = transfer.session.plan.fileSize)
    (healthy : Healthy transfer fingerprint content (history.events ++ [event]))
    (invariant : FileInvariant transfer content history s) (tally : FileTally transfer history s)
    (course : OnCourse transfer history s)
    (taken : (transfer.runFile fingerprint).step s event = some (s', out)) :
    OnCourse transfer (history ++ [(event, out)]) s' := by
  have good : event.Good fingerprint content := healthy.good event (by simp)
  have events : (history ++ [(event, out)]).events = history.events ++ [event] := by simp
  have listing := healthy.listing
  rw [listedBy, List.flatMap_append, List.flatMap_singleton] at listing
  cases Transfer.runStep_of_step taken with
  | list resumed =>
      obtain rfl : history = [] := invariant
      rfl
  | fresh new => exact prepare_onCourse (List.forall_mem_nil _) List.nodup_nil
  | @unlisted state answer fault failed =>
      obtain ⟨output, rfl, marked⟩ := good
      obtain ⟨next, accepted, -⟩ := onAnswer_of_acceptable course marked listing
      rw [failed] at accepted
      cases accepted
  | @page state output next accepted =>
      obtain ⟨found, same, marked⟩ := good
      cases same
      obtain ⟨other, accepted', read⟩ := onAnswer_of_acceptable course marked listing
      rw [accepted] at accepted'
      cases accepted'
      have all := read next rfl
      rw [OnCourse, events, listedBy, List.flatMap_append, List.flatMap_singleton]
      exact all
  | lastPage accepted =>
      obtain ⟨-, sound, covers, -, -⟩ := invariant
      obtain ⟨reconciled, -⟩ := page_sound sound covers accepted
      exact prepare_onCourse reconciled.planned reconciled.distinct
  | start room =>
      rintro ⟨-, empty⟩
      simp at empty
  | @partFailed reused queue uploads number event error failed =>
      obtain ⟨existing, -, accounted, loaded⟩ := invariant
      exact absurd failed (onTask_not_failed size accounted loaded tally good
        (healthy.retries number))
  | part moved => exact afterUploads_onCourse
  | changed differs =>
      obtain ⟨found, rfl, same⟩ := good
      rw [differs found rfl] at same
      cases same
  | unchanged same =>
      obtain ⟨existing, uploaded, accounted, rfl, rfl, keyed, -, numbers⟩ := invariant.gathered
      obtain ⟨completion, request, -, -, -, started⟩ :=
        Ending.start_of_planned keyed uploaded.length existing.length numbers
      rw [started]
      exact accounted.count_eq
  | completed =>
      obtain ⟨etag, rfl⟩ := good
      exact ⟨rfl, rfl, course⟩

theorem onCourse_of_reaches {s : RunState}
    (size : content.length = transfer.session.plan.fileSize)
    (healthy : Healthy transfer fingerprint content history.events)
    (run : (transfer.runFile fingerprint).Reaches .ready history s) :
    FileInvariant transfer content history s ∧ OnCourse transfer history s := by
  induction run with
  | refl => exact ⟨rfl, trivial⟩
  | @snoc history s event s' out before taken ih =>
      rw [History.events_append, History.events_singleton] at healthy
      obtain ⟨invariant, course⟩ := ih healthy.before
      have positive : 0 < transfer.builder.maxAttempts :=
        Nat.lt_of_le_of_lt (Nat.zero_le _) (healthy.retries ⟨1, by decide⟩)
      have reads : event.Reads content := by
        have good : event.Good fingerprint content := healthy.good event (by simp)
        unfold RunEvent.Reads
        split
        · exact good
        · trivial
      exact ⟨fileInvariant_step size reads invariant taken, onCourse_step size healthy invariant
        (fileTally_of_reaches positive before) course taken⟩

end Course

section Progress

variable {transfer : Transfer} {fingerprint : SourceFileFingerprint} {content : List UInt8}
  {history : History RunEvent Effect}

/-- A part in flight can go on with a good event that is no failure. -/
theorem PartTask.goes_on_well {task : PartTask} :
    ∃ event outcome, task.step transfer.session transfer.builder.maxAttempts event =
        some outcome ∧ (RunEvent.task task.number event).Good fingerprint content ∧
      event.retryable = false := by
  cases phase : task.phase with
  | reading =>
      refine ⟨.read (.content content), ?_⟩
      cases read : readPart (.content content) transfer.session.plan.partSize task.number
          task.length with
      | error error => exact ⟨_, by simp only [PartTask.step, phase, read]; rfl, rfl, rfl⟩
      | ok body => exact ⟨_, by simp only [PartTask.step, phase, read]; rfl, rfl, rfl⟩
  | requesting body attempt =>
      exact ⟨.answered 0 (.ok (some "e")), _, by simp only [PartTask.step, phase, retryStep]; rfl,
        ⟨"e", rfl, by decide⟩, rfl⟩
  | sleeping body attempt delay =>
      exact ⟨.woken, _, by simp only [PartTask.step, phase]; rfl, trivial, rfl⟩

/-- Unless `run` has returned, something healthy can happen next. -/
theorem run_goes_on {s : RunState} (parallel : 0 < transfer.builder.concurrency)
    (healthy : Healthy transfer fingerprint content history.events)
    (course : OnCourse transfer history s) :
    (∃ result, s = .ending (.finished (.ok result))) ∨ ∃ event s' out,
      (transfer.runFile fingerprint).step s event = some (s', out) ∧
        Healthy transfer fingerprint content (history.events ++ [event]) := by
  cases s with
  | ready =>
      refine Or.inr ⟨.poll, ?_⟩
      have next : Healthy transfer fingerprint content (history.events ++ [.poll]) :=
        healthy.snoc trivial (fun _ => rfl) rfl
      simp only [Transfer.runFile]
      split
      · exact ⟨_, _, rfl, next⟩
      · exact ⟨_, _, rfl, next⟩
  | listing state =>
      refine Or.inr ⟨.listed (.ok (.lastPage [])), ?_⟩
      have good : (RunEvent.listed (.ok (.lastPage []))).Good fingerprint content :=
        ⟨_, rfl, by simp [ListPartsOutput.lastPage]⟩
      have next := healthy.snoc good (fun _ => rfl) rfl
      cases answered : state.onAnswer transfer.session.plan (.ok (.lastPage [])) with
      | error fault => exact ⟨_, _, by simp only [Transfer.runFile, answered]; rfl, next⟩
      | ok outcome =>
          cases outcome with
          | listing later => exact ⟨_, _, by simp only [Transfer.runFile, answered]; rfl, next⟩
          | done reconciliation =>
              exact ⟨_, _, by simp only [Transfer.runFile, answered]; rfl, next⟩
  | uploading reused queue uploads =>
      refine Or.inr ?_
      cases flying : uploads.inFlight with
      | nil =>
          cases queue with
          | nil => exact absurd ⟨rfl, flying⟩ course
          | cons entry queue =>
              obtain ⟨number, length⟩ := entry
              refine ⟨.start, ?_⟩
              simp only [Transfer.runFile]
              rw [if_pos (by simpa [flying] using parallel)]
              exact ⟨_, _, rfl, healthy.snoc trivial (fun _ => rfl) rfl⟩
      | cons task rest =>
          obtain ⟨event, outcome, stepped, good, unfailed⟩ :=
            @PartTask.goes_on_well transfer fingerprint content task
          obtain ⟨step, moved⟩ := Uploads.onTask_head flying stepped
          have next := healthy.snoc good
            (fun number => by simp [RunEvent.failsPart, unfailed]) rfl
          refine ⟨.task task.number event, ?_⟩
          simp only [Transfer.runFile, moved]
          cases step with
          | running uploads out => exact ⟨_, _, rfl, next⟩
          | failed error => exact ⟨_, _, rfl, next⟩
  | checking manifest uploadedCount reusedCount =>
      let metadata : Metadata := ⟨true, fingerprint.len, fingerprint.modified,
        fingerprint.device, fingerprint.inode⟩
      have same : fingerprint.matchesMetadata metadata = true :=
        beq_iff_eq.mpr rfl
      refine Or.inr ⟨.checked (some metadata), ?_⟩
      simp only [Transfer.runFile]
      rw [if_pos same]
      exact ⟨_, _, rfl, healthy.snoc ⟨metadata, rfl, same⟩ (fun _ => rfl) rfl⟩
  | ending ending =>
      cases ending with
      | completing request uploadedParts reusedParts =>
          exact Or.inr ⟨.completed (.ok none), _, _, rfl,
            healthy.snoc ⟨none, rfl⟩ (fun _ => rfl) rfl⟩
      | finished outcome =>
          cases outcome with
          | ok result => exact Or.inl ⟨result, rfl⟩
          | error fault => exact course.elim

end Progress

section Length

variable {transfer : Transfer} {fingerprint : SourceFileFingerprint}
  {history : History RunEvent Effect} {out : List Effect}

/-- What there is to do for one part before it is in flight. -/
def partWork (maxAttempts : Nat) : Nat := 2 * maxAttempts + 3

/-- What `run` has still to do, in steps, once the parts are listed. -/
def RunState.work (transfer : Transfer) : RunState → Nat
  | .ready => partWork transfer.builder.maxAttempts * transfer.session.partCount + 4
  | .listing _ => partWork transfer.builder.maxAttempts * transfer.session.partCount + 3
  | .uploading _ queue uploads => partWork transfer.builder.maxAttempts * queue.length +
      uploads.work transfer.builder.maxAttempts + 3
  | .checking _ _ _ => 2
  | .ending (.completing _ _ _) => 1
  | .ending (.finished _) => 0

/-- Whether an event is a page of a listing. -/
def RunEvent.isPage : RunEvent → Bool
  | .listed _ => true
  | _ => false

theorem RunState.work_ending {ending : Ending} :
    RunState.work transfer (.ending ending) ≤ 1 := by
  cases ending <;> simp [RunState.work]

theorem afterUploads_work {reused : PartMap} {queue : List (PartNumber × Nat)}
    {uploads : Uploads} : (Transfer.afterUploads reused queue uploads).work transfer ≤
      partWork transfer.builder.maxAttempts * queue.length +
        uploads.work transfer.builder.maxAttempts + 3 := by
  unfold Transfer.afterUploads
  split
  · simp only [RunState.work]
    omega
  · exact Nat.le_refl _

/-- No more parts are missing than are planned. -/
theorem prepare_work {existing : List UploadedPart} :
    (transfer.prepare existing).1.work transfer ≤
      partWork transfer.builder.maxAttempts * transfer.session.partCount + 3 := by
  unfold Transfer.prepare
  split
  · simp [RunState.failed, RunState.work]
  · rename_i manifest reusedBytes _
    rw [missingParts_eq]
    dsimp only
    refine Nat.le_trans afterUploads_work ?_
    have fewer := List.length_filter_le (fun number => ¬ manifest.contains number)
      transfer.session.plan.numbers
    rw [MultipartPlan.length_numbers] at fewer
    have scaled := Nat.mul_le_mul_left (partWork transfer.builder.maxAttempts) fewer
    simp only [List.length_map, Uploads.work, List.map_nil, List.sum_nil,
      PresignedMultipart.partCount]
    omega

/-- Every step but a page of the listing leaves less to do, and that one no more. -/
theorem run_work {s s' : RunState} {event : RunEvent}
    (taken : (transfer.runFile fingerprint).step s event = some (s', out)) :
    s'.work transfer + 1 ≤ s.work transfer + event.isPage.toNat := by
  cases Transfer.runStep_of_step taken with
  | list resumed => exact Nat.le_refl _
  | fresh new =>
      have less := @prepare_work transfer []
      show _ ≤ partWork transfer.builder.maxAttempts * transfer.session.partCount + 4 + 0
      omega
  | unlisted failed =>
      simp only [RunState.work, RunEvent.isPage, Bool.toNat_true]
      omega
  | page accepted => exact Nat.le_refl _
  | @lastPage state output reconciliation accepted =>
      have less := @prepare_work transfer reconciliation.uploadedParts
      show _ ≤ partWork transfer.builder.maxAttempts * transfer.session.partCount + 3 + 1
      omega
  | start room =>
      simp only [RunState.work, Uploads.work, List.map_append, List.map_cons, List.map_nil,
        List.sum_append, List.sum_cons, List.sum_nil, List.length_cons, Nat.mul_succ,
        PartTask.work, partWork, RunEvent.isPage, Bool.toNat_false]
      omega
  | partFailed failed =>
      simp only [RunState.failed, RunState.work]
      omega
  | @part reused queue uploads number event next out moved =>
      have less := Uploads.onTask_work moved
      have most := @afterUploads_work transfer reused queue next
      show _ ≤ partWork transfer.builder.maxAttempts * queue.length +
        uploads.work transfer.builder.maxAttempts + 3 + 0
      omega
  | changed differs =>
      simp only [RunState.failed, RunState.work]
      omega
  | @unchanged manifest uploadedCount reusedCount metadata same =>
      have less := @RunState.work_ending transfer
        (Ending.start transfer.session manifest uploadedCount reusedCount).1
      simp only [RunState.work, RunEvent.isPage, Bool.toNat_false] at less ⊢
      omega
  | @completed request uploadedParts reusedParts answer =>
      cases answer <;> simp [RunState.work, Ending.onCompleted,
        PresignedMultipart.completeAnswer]

/-- Apart from the pages of the listing, a run has no more steps than its parts can need. -/
theorem run_length_le {s : RunState}
    (run : (transfer.runFile fingerprint).Reaches .ready history s) :
    history.length + s.work transfer ≤ RunState.work transfer .ready +
      history.events.countP RunEvent.isPage := by
  induction run with
  | refl => simp
  | @snoc history s event s' out before taken ih =>
      have less := run_work taken
      have counted : (history ++ [(event, out)]).events.countP RunEvent.isPage =
          history.events.countP RunEvent.isPage + event.isPage.toNat := by
        rw [History.events_append, History.events_singleton, List.countP_append,
          List.countP_singleton]
        cases event.isPage <;> rfl
      rw [counted, List.length_append, List.length_singleton]
      omega

/-- A run of the upload of a file that is given no reason to fail has a bounded number of steps
    beside the pages of the listing, never waits for something that cannot come, and can
    end only with a result, in which every planned part was uploaded or reused. -/
theorem run_succeeds (transfer : Transfer) (fingerprint : SourceFileFingerprint)
    (content : List UInt8) (history : History RunEvent Effect) (s : RunState)
    (size : content.length = transfer.session.plan.fileSize)
    (parallel : 0 < transfer.builder.concurrency)
    (healthy : Healthy transfer fingerprint content history.events)
    (run : (transfer.runFile fingerprint).Reaches .ready history s) :
    history.length ≤ history.events.countP RunEvent.isPage +
        partWork transfer.builder.maxAttempts * transfer.session.partCount + 4 ∧
      ((∃ result, s = .ending (.finished (.ok result)) ∧ result.fileSize = content.length ∧
          result.partCount = transfer.session.partCount ∧
          result.uploadedParts + result.reusedParts = transfer.session.partCount) ∨
        ∃ event s' out, (transfer.runFile fingerprint).step s event = some (s', out) ∧
          Healthy transfer fingerprint content (history.events ++ [event])) := by
  obtain ⟨invariant, course⟩ := onCourse_of_reaches size healthy run
  constructor
  · have bound := run_length_le run
    simp only [RunState.work] at bound
    omega
  · rcases run_goes_on parallel healthy course with ⟨result, rfl⟩ | more
    · obtain ⟨file_size, count, total⟩ := course
      exact Or.inl ⟨result, rfl, file_size.trans size.symm, count, total⟩
    · exact Or.inr more

/-- What a run has returned, if it is a result. -/
def RunState.result? : RunState → Option ManagedUploadResult
  | .ending (.finished (.ok result)) => some result
  | _ => none

/-- A run in which the first attempt of the only part times out. -/
theorem run_succeeds_retried :
    ∃ (fingerprint : SourceFileFingerprint) (history : History RunEvent Effect) (s : RunState),
      s.result? = some ⟨⟨none⟩, 3, 1, 1, 0⟩ ∧
        history.length ≤ history.events.countP RunEvent.isPage + partWork 3 * 1 + 4 ∧
        ((∃ result, s = .ending (.finished (.ok result)) ∧ result.fileSize = 3 ∧
            result.partCount = 1 ∧ result.uploadedParts + result.reusedParts = 1) ∨
          ∃ event s' out,
            ((Transfer.mk .tiny .tiny).runFile fingerprint).step s event = some (s', out) ∧
              Healthy ⟨.tiny, .tiny⟩ fingerprint [1, 2, 3] (history.events ++ [event])) := by
  let transfer : Transfer := ⟨.tiny, .tiny⟩
  let metadata : Metadata := ⟨true, 3, some 0, 0, 0⟩
  let fingerprint := SourceFileFingerprint.fromMetadata metadata
  let part (event : TaskEvent) : RunEvent := .task ⟨1, by decide⟩ event
  let events := [.poll, .start, part (.read (.content [1, 2, 3])),
    part (.answered 0 (.error .timeoutError)), part .woken, part (.answered 0 (.ok (some "e"))),
    .checked (some metadata), .completed (.ok none)]
  have executed : ((transfer.runFile fingerprint).exec .ready events).map
      (fun final => final.2.result?) = some (some ⟨⟨none⟩, 3, 1, 1, 0⟩) := by decide
  obtain ⟨⟨history, s⟩, reached, is⟩ := Option.map_eq_some_iff.mp executed
  have healthy : Healthy transfer fingerprint [1, 2, 3] history.events := by
    rw [Machine.events_of_exec reached]
    constructor
    · simp [events, part, RunEvent.Good, isRetryable, fingerprint,
        SourceFileFingerprint.matchesMetadata]
    · intro number
      by_cases same : (⟨1, by decide⟩ : PartNumber) = number
      · subst same
        decide
      · simp [events, part, failures, RunEvent.failsPart, TaskEvent.retryable, same, transfer]
        decide
    · exact ⟨List.forall_mem_nil _, List.nodup_nil⟩
  exact ⟨fingerprint, history, s, is, run_succeeds transfer fingerprint [1, 2, 3] history s rfl
    (by decide) healthy (Machine.reaches_of_exec reached)⟩

end Length

end R2kit
