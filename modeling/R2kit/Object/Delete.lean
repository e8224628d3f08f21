import R2kit.Types

/-!
# Batch deletion

`Bucket::delete_objects` of `src/object.rs`: the keys are validated, cut into batches, and
deleted by one request after the other. What the answers report is accumulated, and an error
returns what was accumulated before it.
-/

namespace R2kit

open Misc

/-- `MAX_DELETE_KEYS`. -/
def maxDeleteKeys : Nat := 1000

/-- A key that was not deleted, and why. -/
structure DeleteObjectFailure where
  key : String
  code : Option String
  message : Option String
  deriving DecidableEq, Repr

/-- What all batches together have come to. -/
structure DeleteObjectsResult where
  deletedKeys : List String := []
  failures : List DeleteObjectFailure := []
  requestCount : Nat := 0
  deriving DecidableEq, Repr

/-- `is_complete`: no failure was reported. -/
def DeleteObjectsResult.isComplete (result : DeleteObjectsResult) : Bool :=
  result.failures.isEmpty

/-- The error of a batch, with the result of the batches before it. -/
structure BatchDeleteError where
  error : Error
  partialResult : DeleteObjectsResult
  deriving DecidableEq, Repr

/-- How `delete_objects` can fail to return a result: with an error, or by a failed `expect`. -/
inductive DeleteFault where
  | batch (error : BatchDeleteError)
  | panic (site : String)
  deriving DecidableEq, Repr

/-- A key in a request. -/
structure ObjectIdentifier where
  key : String
  deriving DecidableEq, Repr

/-- The SDK's builder, which needs the key. -/
def ObjectIdentifier.build (key : Option String) : Option ObjectIdentifier :=
  key.map ObjectIdentifier.mk

/-- The keys of one request. -/
structure Delete where
  objects : List ObjectIdentifier
  quiet : Option Bool
  deriving DecidableEq, Repr

/-- The SDK's builder, which needs the objects. -/
def Delete.build (objects : Option (List ObjectIdentifier)) (quiet : Option Bool) :
    Option Delete :=
  objects.map (fun objects => { objects, quiet })

/-- `DeleteObjects` as the SDK's builder holds it. -/
structure DeleteObjectsInput where
  bucket : String
  delete : Delete
  deriving DecidableEq, Repr

/-- An entry of `Errors` in an answer. -/
structure DeleteErrorEntry where
  key : Option String
  code : Option String
  message : Option String
  deriving DecidableEq, Repr

/-- An answer: the keys of its `Deleted` entries, where they have one, and its `Errors`. -/
structure DeleteObjectsOutput where
  deleted : List (Option String)
  errors : List DeleteErrorEntry
  deriving DecidableEq, Repr

/-- `Option::expect` and `Result::expect`. -/
def expectSome {α : Type} (site : String) (value : Option α) : Except DeleteFault α :=
  match value with
  | some value => .ok value
  | none => .error (.panic site)

/-- `delete_batches`: `slice::chunks`. -/
def deleteBatches (keys : List String) : List (List String) :=
  (List.range (divCeil keys.length maxDeleteKeys)).map
    (fun index => block maxDeleteKeys index keys)

/-- The request for one batch. -/
def deleteRequest (bucket : BucketName) (keys : List String) :
    Except DeleteFault DeleteObjectsInput := do
  let objects ← keys.mapM (fun key =>
    expectSome "validated object identifiers contain keys" (ObjectIdentifier.build (some key)))
  let delete ← expectSome "each delete batch contains at least one key"
    (Delete.build (some objects) (some false))
  .ok { bucket := bucket.value, delete }

namespace DeleteObjectsResult

/-- The loop over the error entries of an answer. -/
def recordFailures (result : DeleteObjectsResult) :
    List DeleteErrorEntry → Except DeleteFault DeleteObjectsResult
  | [] => .ok result
  | failure :: rest =>
      match failure.key with
      | none =>
          .error (.batch { error := .service "DeleteObjects", partialResult := result })
      | some key =>
          recordFailures { result with
            failures := result.failures ++
              [{ key, code := failure.code, message := failure.message }] } rest

/-- What an answer adds to the result. -/
def record (result : DeleteObjectsResult) (output : DeleteObjectsOutput) :
    Except DeleteFault DeleteObjectsResult :=
  recordFailures { result with
    requestCount := result.requestCount + 1
    deletedKeys := result.deletedKeys ++ output.deleted.filterMap id } output.errors

end DeleteObjectsResult

/-- The requests that were sent and what was returned. -/
structure DeleteRun where
  requests : List DeleteObjectsInput
  outcome : Except DeleteFault DeleteObjectsResult

/-- A run that other requests come before. -/
def DeleteRun.after (run : DeleteRun) (requests : List DeleteObjectsInput) : DeleteRun :=
  { run with requests := requests ++ run.requests }

section Loop

variable (bucket : BucketName) (responses : Nat → Except SdkError DeleteObjectsOutput)

/-- The loop over the batches, the next request being answered by `responses index`. -/
def deleteLoop (index : Nat) (result : DeleteObjectsResult) : List (List String) → DeleteRun
  | [] => { requests := [], outcome := .ok result }
  | keys :: rest =>
      match deleteRequest bucket keys with
      | .error fault => { requests := [], outcome := .error fault }
      | .ok request =>
          match responses index with
          | .error error =>
              { requests := [request]
                outcome := .error (.batch {
                  error := Error.remoteError "DeleteObjects" error, partialResult := result }) }
          | .ok output =>
              match result.record output with
              | .error fault => { requests := [request], outcome := .error fault }
              | .ok result => (deleteLoop (index + 1) result rest).after [request]

/-- `Bucket::delete_objects`, given the keys as `into_object_key` returns them. -/
def deleteObjects (keys : List (Except Error ObjectKey)) : DeleteRun :=
  match keys.mapM (Except.map ObjectKey.value) with
  | .error error =>
      { requests := [], outcome := .error (.batch { error, partialResult := {} }) }
  | .ok keys => deleteLoop bucket responses 0 {} (deleteBatches keys)

end Loop

section Batches

variable (keys : List String)

theorem deleteBatches_eq : deleteBatches keys =
    (List.range (keys.length ⌈/⌉ maxDeleteKeys)).map
      (fun index => block maxDeleteKeys index keys) := by
  rw [deleteBatches, divCeil_eq_ceilDiv (by decide)]

/-- The batches are consecutive slices of the keys. -/
theorem flatten_deleteBatches : (deleteBatches keys).flatten = keys := by
  rw [deleteBatches_eq, ← List.flatMap_def]
  exact flatMap_block_ceilDiv (by decide) keys

theorem length_deleteBatches :
    (deleteBatches keys).length = keys.length ⌈/⌉ maxDeleteKeys := by
  rw [deleteBatches_eq, List.length_map, List.length_range]

theorem length_of_mem_deleteBatches {batch : List String} (member : batch ∈ deleteBatches keys) :
    1 ≤ batch.length ∧ batch.length ≤ maxDeleteKeys := by
  rw [deleteBatches_eq] at member
  obtain ⟨index, used, rfl⟩ := List.mem_map.mp member
  rw [length_block]
  exact ⟨blockLength_pos (by decide) (List.mem_range.mp used), blockLength_le _ _ _⟩

end Batches

/-- The request for a batch, as the builders make it. -/
def batchRequest (bucket : BucketName) (keys : List String) : DeleteObjectsInput where
  bucket := bucket.value
  delete := { objects := keys.map ObjectIdentifier.mk, quiet := some false }

/-- The `expect`s do not fail. -/
theorem deleteRequest_eq (bucket : BucketName) (keys : List String) :
    deleteRequest bucket keys = .ok (batchRequest bucket keys) := by
  have objects : keys.mapM (fun key =>
      expectSome "validated object identifiers contain keys" (ObjectIdentifier.build (some key))) =
        .ok (keys.map ObjectIdentifier.mk) :=
    mapM_eq_pure (fun _ _ => rfl)
  rw [deleteRequest, objects]
  rfl

/-- The failure an error entry reports, if it says of which key. -/
def DeleteErrorEntry.named (entry : DeleteErrorEntry) : Option DeleteObjectFailure :=
  entry.key.map (fun key => { key, code := entry.code, message := entry.message })

/-- The keys an answer reports as deleted. -/
def reportedDeleted : Except SdkError DeleteObjectsOutput → List String
  | .ok output => output.deleted.filterMap id
  | .error _ => []

/-- The failures an answer reports. -/
def reportedFailures : Except SdkError DeleteObjectsOutput → List DeleteObjectFailure
  | .ok output => output.errors.filterMap DeleteErrorEntry.named
  | .error _ => []

/-- What the first answers report together. -/
def accumulated (responses : Nat → Except SdkError DeleteObjectsOutput) (count : Nat) :
    DeleteObjectsResult where
  deletedKeys := (List.range count).flatMap (fun index => reportedDeleted (responses index))
  failures := (List.range count).flatMap (fun index => reportedFailures (responses index))
  requestCount := count

/-- A request succeeds and each error entry of its answer names a key. -/
def Answered (response : Except SdkError DeleteObjectsOutput) : Prop :=
  ∃ output, response = .ok output ∧ ∀ entry ∈ output.errors, entry.key ≠ none

section Record

theorem recordFailures_named {entries : List DeleteErrorEntry}
    (named : ∀ entry ∈ entries, entry.key ≠ none) (rest : List DeleteErrorEntry)
    (result : DeleteObjectsResult) :
    result.recordFailures (entries ++ rest) =
      DeleteObjectsResult.recordFailures { result with
        failures := result.failures ++ entries.filterMap DeleteErrorEntry.named } rest := by
  induction entries generalizing result with
  | nil => simp
  | cons entry later ih =>
      obtain ⟨key, given⟩ := Option.ne_none_iff_exists'.mp (named entry List.mem_cons_self)
      have own : entry.named = some { key, code := entry.code, message := entry.message } := by
        rw [DeleteErrorEntry.named, given]
        rfl
      rw [List.cons_append, DeleteObjectsResult.recordFailures, given]
      simp only
      rw [ih (fun other member => named other (List.mem_cons_of_mem _ member)),
        List.filterMap_cons_some own, List.append_assoc]
      rfl

variable {responses : Nat → Except SdkError DeleteObjectsOutput} {count : Nat}

theorem accumulated_succ :
    accumulated responses (count + 1) =
      { deletedKeys := (accumulated responses count).deletedKeys ++
          reportedDeleted (responses count)
        failures := (accumulated responses count).failures ++ reportedFailures (responses count)
        requestCount := count + 1 } := by
  simp [accumulated, List.range_succ]

/-- A usable answer adds what it reports. -/
theorem record_accumulated {output : DeleteObjectsOutput} (answer : responses count = .ok output)
    (named : ∀ entry ∈ output.errors, entry.key ≠ none) :
    (accumulated responses count).record output = .ok (accumulated responses (count + 1)) := by
  have all := recordFailures_named named [] { accumulated responses count with
    requestCount := count + 1
    deletedKeys := (accumulated responses count).deletedKeys ++ output.deleted.filterMap id }
  rw [List.append_nil] at all
  rw [DeleteObjectsResult.record, accumulated_succ, answer]
  exact all

/-- An answer with a nameless error entry ends the call. What it reports before that entry is
    part of the result that is returned. -/
theorem record_nameless {output : DeleteObjectsOutput} {before after : List DeleteErrorEntry}
    {entry : DeleteErrorEntry} (result : DeleteObjectsResult)
    (errors : output.errors = before ++ entry :: after)
    (named : ∀ earlier ∈ before, earlier.key ≠ none) (nameless : entry.key = none) :
    result.record output = .error (.batch {
      error := .service "DeleteObjects"
      partialResult := {
        deletedKeys := result.deletedKeys ++ output.deleted.filterMap id
        failures := result.failures ++ before.filterMap DeleteErrorEntry.named
        requestCount := result.requestCount + 1 } }) := by
  rw [DeleteObjectsResult.record, errors, recordFailures_named named,
    DeleteObjectsResult.recordFailures, nameless]

end Record

section Run

variable {bucket : BucketName} {responses : Nat → Except SdkError DeleteObjectsOutput}

/-- The loop goes past the batches whose answers are usable. -/
theorem deleteLoop_append {first : List (List String)} {index : Nat}
    (answered : ∀ offset < first.length, Answered (responses (index + offset)))
    (rest : List (List String)) :
    deleteLoop bucket responses index (accumulated responses index) (first ++ rest) =
      (deleteLoop bucket responses (index + first.length)
        (accumulated responses (index + first.length)) rest).after
          (first.map (batchRequest bucket)) := by
  induction first generalizing index with
  | nil => rfl
  | cons keys later ih =>
      obtain ⟨output, answer, named⟩ := answered 0 (Nat.zero_lt_succ _)
      rw [Nat.add_zero] at answer
      have next : ∀ offset < later.length, Answered (responses (index + 1 + offset)) := by
        intro offset inside
        have held := answered (offset + 1) (Nat.succ_lt_succ inside)
        rwa [← Nat.add_assoc, Nat.add_right_comm] at held
      have shift : index + 1 + later.length = index + (keys :: later).length := by
        rw [List.length_cons]
        omega
      have step := ih next
      rw [shift] at step
      rw [List.cons_append, deleteLoop, deleteRequest_eq]
      simp only [answer, record_accumulated answer named, step]
      rfl

/-- The whole run when every answer is usable. -/
theorem deleteLoop_answered {batches : List (List String)}
    (answered : ∀ index < batches.length, Answered (responses index)) :
    deleteLoop bucket responses 0 {} batches =
      { requests := batches.map (batchRequest bucket)
        outcome := .ok (accumulated responses batches.length) } := by
  have shifted : ∀ offset < batches.length, Answered (responses (0 + offset)) := by
    intro offset inside
    rw [Nat.zero_add]
    exact answered offset inside
  have run : deleteLoop bucket responses 0 {} (batches ++ []) = _ :=
    deleteLoop_append shifted []
  rw [List.append_nil, Nat.zero_add] at run
  rw [run, deleteLoop, DeleteRun.after, List.append_nil]

/-- The run up to the first answer that is not usable: nothing is sent after its request. -/
theorem deleteLoop_stopped {batches : List (List String)} {index : Nat}
    (inside : index < batches.length) (answered : ∀ earlier < index, Answered (responses earlier))
    {fault : DeleteFault}
    (stops : ∀ keys rest, deleteLoop bucket responses index (accumulated responses index)
      (keys :: rest) = { requests := [batchRequest bucket keys], outcome := .error fault }) :
    deleteLoop bucket responses 0 {} batches =
      { requests := (batches.take (index + 1)).map (batchRequest bucket)
        outcome := .error fault } := by
  have length : (batches.take index).length = index := List.length_take_of_le inside.le
  have shifted : ∀ offset < (batches.take index).length, Answered (responses (0 + offset)) := by
    intro offset earlier
    rw [length] at earlier
    rw [Nat.zero_add]
    exact answered offset earlier
  have run : deleteLoop bucket responses 0 {}
      (batches.take index ++ batches[index] :: batches.drop (index + 1)) = _ :=
    deleteLoop_append shifted _
  rw [← List.drop_eq_getElem_cons inside, List.take_append_drop, length, Nat.zero_add,
    List.drop_eq_getElem_cons inside, stops] at run
  rw [run, DeleteRun.after, List.take_succ_eq_append_getElem inside, List.map_append]
  rfl

theorem stops_at_error {index : Nat} {error : SdkError} (fails : responses index = .error error)
    (keys : List String) (rest : List (List String)) :
    deleteLoop bucket responses index (accumulated responses index) (keys :: rest) =
      { requests := [batchRequest bucket keys]
        outcome := .error (.batch {
          error := Error.remoteError "DeleteObjects" error
          partialResult := accumulated responses index }) } := by
  rw [deleteLoop, deleteRequest_eq]
  simp only [fails]

theorem stops_at_nameless {index : Nat} {output : DeleteObjectsOutput}
    {before after : List DeleteErrorEntry} {entry : DeleteErrorEntry}
    (answer : responses index = .ok output) (errors : output.errors = before ++ entry :: after)
    (named : ∀ earlier ∈ before, earlier.key ≠ none) (nameless : entry.key = none)
    (keys : List String) (rest : List (List String)) :
    deleteLoop bucket responses index (accumulated responses index) (keys :: rest) =
      { requests := [batchRequest bucket keys]
        outcome := .error (.batch {
          error := .service "DeleteObjects"
          partialResult := {
            deletedKeys := (accumulated responses index).deletedKeys ++ reportedDeleted (.ok output)
            failures := (accumulated responses index).failures ++
              before.filterMap DeleteErrorEntry.named
            requestCount := index + 1 } }) } := by
  rw [deleteLoop, deleteRequest_eq]
  simp only [answer, record_nameless _ errors named nameless]
  rfl

/-- The error entries up to the first without a key, if there is one. -/
theorem named_or_split (entries : List DeleteErrorEntry) :
    (∀ entry ∈ entries, entry.key ≠ none) ∨
      ∃ before entry after, entries = before ++ entry :: after ∧
        (∀ earlier ∈ before, earlier.key ≠ none) ∧ entry.key = none := by
  induction entries with
  | nil => exact Or.inl (by simp)
  | cons entry rest ih =>
      by_cases nameless : entry.key = none
      · exact Or.inr ⟨[], entry, rest, rfl, by simp, nameless⟩
      · rcases ih with all | ⟨before, other, after, rfl, named, found⟩
        · exact Or.inl (List.forall_mem_cons.mpr ⟨nameless, all⟩)
        · exact Or.inr ⟨entry :: before, other, after, rfl,
            List.forall_mem_cons.mpr ⟨nameless, named⟩, found⟩

/-- An answer that is not usable is an error or has a nameless error entry. -/
theorem not_answered {response : Except SdkError DeleteObjectsOutput}
    (unusable : ¬ Answered response) :
    (∃ error, response = .error error) ∨
      ∃ output before entry after, response = .ok output ∧
        output.errors = before ++ entry :: after ∧
        (∀ earlier ∈ before, earlier.key ≠ none) ∧ entry.key = none := by
  cases response with
  | error error => exact Or.inl ⟨error, rfl⟩
  | ok output =>
      rcases named_or_split output.errors with named | ⟨before, entry, after, split⟩
      · exact absurd ⟨output, rfl, named⟩ unusable
      · exact Or.inr ⟨output, before, entry, after, rfl, split⟩

/-- The answers are usable up to the first that is not. -/
theorem answered_or_first (responses : Nat → Except SdkError DeleteObjectsOutput) (count : Nat) :
    (∀ index < count, Answered (responses index)) ∨
      ∃ index < count, (∀ earlier < index, Answered (responses earlier)) ∧
        ¬ Answered (responses index) := by
  induction count with
  | zero => exact Or.inl (by simp)
  | succ count ih =>
      rcases ih with all | ⟨index, inside, first⟩
      · by_cases last : Answered (responses count)
        · refine Or.inl ?_
          intro index inside
          rcases Nat.lt_succ_iff_lt_or_eq.mp inside with earlier | rfl
          · exact all index earlier
          · exact last
        · exact Or.inr ⟨count, Nat.lt_succ_self count, all, last⟩
      · exact Or.inr ⟨index, Nat.lt_succ_of_lt inside, first⟩

/-- A run ends with the whole result, or with an error at the first unusable answer. -/
theorem deleteLoop_cases (bucket : BucketName)
    (responses : Nat → Except SdkError DeleteObjectsOutput) (batches : List (List String)) :
    ((∀ index < batches.length, Answered (responses index)) ∧
        (deleteLoop bucket responses 0 {} batches).outcome =
          .ok (accumulated responses batches.length)) ∨
      ∃ index < batches.length, ¬ Answered (responses index) ∧
        ∃ error, (deleteLoop bucket responses 0 {} batches).outcome = .error (.batch error) := by
  rcases answered_or_first responses batches.length with
    answered | ⟨index, inside, answered, unusable⟩
  · refine Or.inl ⟨answered, ?_⟩
    rw [deleteLoop_answered answered]
  · refine Or.inr ⟨index, inside, unusable, ?_⟩
    rcases not_answered unusable with ⟨error, fails⟩ | ⟨output, before, entry, after, answer,
      errors, named, nameless⟩
    · rw [deleteLoop_stopped inside answered (stops_at_error fails)]
      exact ⟨_, rfl⟩
    · rw [deleteLoop_stopped inside answered (stops_at_nameless answer errors named nameless)]
      exact ⟨_, rfl⟩

theorem deleteObjects_valid (keys : List ObjectKey) :
    deleteObjects bucket responses (keys.map .ok) =
      deleteLoop bucket responses 0 {} (deleteBatches (keys.map ObjectKey.value)) := by
  have collected : (keys.map Except.ok).mapM (Except.map ObjectKey.value) =
      (.ok (keys.map ObjectKey.value) : Except Error (List String)) := by
    rw [List.mapM_map]
    exact mapM_eq_pure (fun _ _ => rfl)
  rw [deleteObjects, collected]

/-- With an invalid key nothing is sent. -/
theorem deleteObjects_invalid {keys : List (Except Error ObjectKey)}
    (invalid : ∃ error, .error error ∈ keys) :
    ∃ error, .error error ∈ keys ∧ deleteObjects bucket responses keys =
      { requests := [], outcome := .error (.batch { error, partialResult := {} }) } := by
  have first : ∃ error, .error error ∈ keys ∧
      keys.mapM (Except.map ObjectKey.value) = .error error := by
    induction keys with
    | nil => simp at invalid
    | cons item rest ih =>
        cases item with
        | error error => exact ⟨error, List.mem_cons_self, rfl⟩
        | ok key =>
            obtain ⟨error, member⟩ := invalid
            obtain ⟨found, among, collected⟩ :=
              ih ⟨error, List.mem_of_ne_of_mem (by simp) member⟩
            refine ⟨found, List.mem_cons_of_mem _ among, ?_⟩
            rw [List.mapM_cons, collected]
            rfl
  obtain ⟨error, member, collected⟩ := first
  refine ⟨error, member, ?_⟩
  rw [deleteObjects, collected]

end Run

/-- Batch deletion partitions the keys and reports progress faithfully. An invalid key keeps
    everything from being sent. Otherwise the batches are consecutive slices of the keys; when
    every answer is usable the result is what the answers reported, in order; and when a
    request fails nothing is sent after it and the result returned with the error is what the
    batches before it reported. The last case is an answer that does not say which key an
    error is about. -/
theorem deleteObjects_reports (bucket : BucketName)
    (responses : Nat → Except SdkError DeleteObjectsOutput) :
    (∀ keys : List (Except Error ObjectKey), (∃ error, .error error ∈ keys) →
      ∃ error, .error error ∈ keys ∧ deleteObjects bucket responses keys =
        { requests := [], outcome := .error (.batch { error, partialResult := {} }) }) ∧
    ∀ (keys : List ObjectKey) (batches : List (List String)) (run : DeleteRun),
      batches = deleteBatches (keys.map ObjectKey.value) →
      run = deleteObjects bucket responses (keys.map .ok) →
      (batches.flatten = keys.map ObjectKey.value ∧
        (∀ batch ∈ batches, 1 ≤ batch.length ∧ batch.length ≤ maxDeleteKeys) ∧
        batches.length = keys.length ⌈/⌉ maxDeleteKeys) ∧
      (∀ site, run.outcome ≠ .error (.panic site)) ∧
      ((∀ index < batches.length, Answered (responses index)) →
        run = {
          requests := batches.map (batchRequest bucket)
          outcome := .ok (accumulated responses batches.length) }) ∧
      (∀ result, run.outcome = .ok result →
        ∀ index < batches.length, Answered (responses index)) ∧
      ∀ index < batches.length, (∀ earlier < index, Answered (responses earlier)) →
        (∀ error, responses index = .error error →
          run = {
            requests := (batches.take (index + 1)).map (batchRequest bucket)
            outcome := .error (.batch {
              error := Error.remoteError "DeleteObjects" error
              partialResult := accumulated responses index }) }) ∧
        ∀ output before entry after, responses index = .ok output →
          output.errors = before ++ entry :: after →
          (∀ earlier ∈ before, earlier.key ≠ none) → entry.key = none →
          run = {
            requests := (batches.take (index + 1)).map (batchRequest bucket)
            outcome := .error (.batch {
              error := .service "DeleteObjects"
              partialResult := {
                deletedKeys :=
                  (accumulated responses index).deletedKeys ++ reportedDeleted (.ok output)
                failures := (accumulated responses index).failures ++
                  before.filterMap DeleteErrorEntry.named
                requestCount := index + 1 } }) } := by
  refine ⟨fun _ invalid => deleteObjects_invalid invalid, ?_⟩
  rintro keys batches run rfl rfl
  rw [deleteObjects_valid]
  refine ⟨⟨flatten_deleteBatches _, fun _ => length_of_mem_deleteBatches _, ?_⟩, ?_,
    deleteLoop_answered, ?_, ?_⟩
  · rw [length_deleteBatches, List.length_map]
  · intro site panics
    rcases deleteLoop_cases bucket responses _ with ⟨_, done⟩ | ⟨_, _, _, _, failed⟩
    · rw [done] at panics
      cases panics
    · rw [failed] at panics
      cases panics
  · intro result done
    rcases deleteLoop_cases bucket responses _ with ⟨answered, _⟩ | ⟨_, _, _, _, failed⟩
    · exact answered
    · rw [failed] at done
      cases done
  · intro index inside answered
    refine ⟨?_, ?_⟩
    · intro error fails
      exact deleteLoop_stopped inside answered (stops_at_error fails)
    · intro output before entry after answer errors named nameless
      exact deleteLoop_stopped inside answered
        (stops_at_nameless answer errors named nameless)

end R2kit
