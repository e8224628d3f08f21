import R2kit.Object.DeleteComplete
import R2kit.Object.Shelf

/-!
# Deleting from a bucket

`Bucket::delete_objects` on the objects of a bucket. The server may refuse single keys, and the
answer to a request may be lost whatever the request has done. What the caller is told is then
compared with what is gone.
-/

namespace R2kit

open Misc

/-- What becomes of a request: the keys that the server does not remove, with the code and the
    message it reports for them, and whether the answer is lost. -/
structure DeleteFate where
  refuses : String → Option (Option String × Option String)
  lost : Option SdkError

namespace DeleteFate

/-- The key is deleted by a request that meets this fate. -/
def removes (fate : DeleteFate) (key : String) : Bool := (fate.refuses key).isNone

/-- The answer to a request for these keys. -/
def answer (fate : DeleteFate) (keys : List String) : Except SdkError DeleteObjectsOutput :=
  match fate.lost with
  | some error => .error error
  | none => .ok {
      deleted := (keys.filter fate.removes).map some
      errors := keys.filterMap (fun key =>
        (fate.refuses key).map (fun reason => ⟨some key, reason.1, reason.2⟩)) }

end DeleteFate

namespace Shelf

/-- The shelf after a request. -/
def afterDelete (fate : DeleteFate) (shelf : Shelf) (keys : List String) : Shelf where
  objects := shelf.objects.filter (fun object =>
    !(decide (object.key ∈ keys) && fate.removes object.key))
  ascending := shelf.ascending.filter _
  keys object member := shelf.keys object (List.mem_of_mem_filter member)

/-- The shelf after the requests that were sent, the first of them with this index. -/
def afterDeletes (fates : Nat → DeleteFate) : Nat → Shelf → List DeleteObjectsInput → Shelf
  | _, shelf, [] => shelf
  | index, shelf, request :: rest =>
      afterDeletes fates (index + 1)
        (shelf.afterDelete (fates index) (request.delete.objects.map ObjectIdentifier.key)) rest

end Shelf

/-- The answers to the batches of these keys. -/
def deleteAnswers (fates : Nat → DeleteFate) (keys : List String) :
    Nat → Except SdkError DeleteObjectsOutput :=
  fun index => (fates index).answer ((deleteBatches keys).getD index [])

section Deletes

variable {fates : Nat → DeleteFate} {shelf : Shelf} {bucket : BucketName}

theorem mem_afterDelete {fate : DeleteFate} {keys : List String} {object : ObjectSummary} :
    object ∈ (shelf.afterDelete fate keys).objects ↔
      object ∈ shelf.objects ∧ ¬ (object.key ∈ keys ∧ fate.removes object.key = true) := by
  rw [Shelf.afterDelete, List.mem_filter, Bool.not_eq_true', ← Bool.not_eq_true,
    Bool.and_eq_true, decide_eq_true_iff]

/-- The keys in the request for a batch. -/
theorem texts_batchRequest (bucket : BucketName) (keys : List String) :
    (batchRequest bucket keys).delete.objects.map ObjectIdentifier.key = keys := by
  simp [batchRequest, Function.comp_def]

/-- What is still there after the requests for some batches. -/
theorem mem_afterDeletes {batches : List (List String)} {index : Nat} {object : ObjectSummary} :
    object ∈ (shelf.afterDeletes fates index (batches.map (batchRequest bucket))).objects ↔
      object ∈ shelf.objects ∧ ∀ offset batch, batches[offset]? = some batch →
        ¬ (object.key ∈ batch ∧ (fates (index + offset)).removes object.key = true) := by
  induction batches generalizing shelf index with
  | nil => simp [Shelf.afterDeletes]
  | cons batch rest ih =>
      rw [List.map_cons, Shelf.afterDeletes, texts_batchRequest, ih, mem_afterDelete]
      constructor
      · rintro ⟨⟨there, here⟩, later⟩
        refine ⟨there, fun offset other found => ?_⟩
        cases offset with
        | zero =>
            cases found
            exact here
        | succ offset =>
            have kept := later offset other found
            rwa [Nat.add_assoc, Nat.add_comm 1] at kept
      · rintro ⟨there, all⟩
        refine ⟨⟨there, all 0 batch rfl⟩, fun offset other found => ?_⟩
        have kept := all (offset + 1) other found
        rwa [Nat.add_assoc, Nat.add_comm 1]

theorem answer_eq_ok {fate : DeleteFate} {keys : List String} {output : DeleteObjectsOutput} :
    fate.answer keys = .ok output ↔ fate.lost = none ∧ output = {
      deleted := (keys.filter fate.removes).map some
      errors := keys.filterMap (fun key =>
        (fate.refuses key).map (fun reason => ⟨some key, reason.1, reason.2⟩)) } := by
  unfold DeleteFate.answer
  cases fate.lost with
  | some error => simp
  | none => simp [eq_comm]

/-- An answer that arrives names every key that it is about. -/
theorem answered_iff {keys : List String} {index : Nat} :
    Answered (deleteAnswers fates keys index) ↔ (fates index).lost = none := by
  constructor
  · rintro ⟨output, answer, -⟩
    exact (answer_eq_ok.mp answer).1
  · intro arrives
    refine ⟨_, answer_eq_ok.mpr ⟨arrives, rfl⟩, ?_⟩
    intro entry member
    obtain ⟨key, -, is⟩ := List.mem_filterMap.mp member
    obtain ⟨reason, -, rfl⟩ := Option.map_eq_some_iff.mp is
    exact Option.some_ne_none key

variable {keys : List String} {count : Nat} {key : String}

/-- The batch with an index, as the answers look it up. -/
theorem mem_getD_iff {index : Nat} :
    key ∈ (deleteBatches keys).getD index [] ↔
      ∃ batch, (deleteBatches keys)[index]? = some batch ∧ key ∈ batch := by
  rw [List.getD_eq_getElem?_getD]
  cases (deleteBatches keys)[index]? with
  | none => simp
  | some batch => simp

/-- The keys that the first answers report as deleted. -/
theorem mem_deletedKeys :
    key ∈ (accumulated (deleteAnswers fates keys) count).deletedKeys ↔
      ∃ index < count, (fates index).lost = none ∧ (fates index).removes key = true ∧
        ∃ batch, (deleteBatches keys)[index]? = some batch ∧ key ∈ batch := by
  rw [mem_accumulated]
  constructor
  · rintro ⟨index, inside, output, answer, named⟩
    obtain ⟨arrives, rfl⟩ := answer_eq_ok.mp answer
    obtain ⟨other, member, same⟩ := List.mem_map.mp named
    cases same
    obtain ⟨among, removed⟩ := List.mem_filter.mp member
    exact ⟨index, inside, arrives, removed, mem_getD_iff.mp among⟩
  · rintro ⟨index, inside, arrives, removed, among⟩
    refine ⟨index, inside, _, answer_eq_ok.mpr ⟨arrives, rfl⟩, ?_⟩
    exact List.mem_map.mpr ⟨key, List.mem_filter.mpr ⟨mem_getD_iff.mpr among, removed⟩, rfl⟩

theorem mem_reportedFailures {response : Except SdkError DeleteObjectsOutput} :
    key ∈ (reportedFailures response).map DeleteObjectFailure.key ↔
      ∃ output, response = .ok output ∧ ∃ entry ∈ output.errors, entry.key = some key := by
  cases response with
  | error error => simp [reportedFailures]
  | ok output =>
      simp only [reportedFailures, List.mem_map, List.mem_filterMap, DeleteErrorEntry.named,
        Option.map_eq_some_iff]
      constructor
      · rintro ⟨failure, ⟨entry, member, named, is, rfl⟩, rfl⟩
        exact ⟨output, rfl, entry, member, is⟩
      · rintro ⟨other, same, entry, member, is⟩
        cases same
        exact ⟨_, ⟨entry, member, key, is, rfl⟩, rfl⟩

/-- The keys that the first answers report as failures. -/
theorem mem_failures :
    key ∈ (accumulated (deleteAnswers fates keys) count).failures.map DeleteObjectFailure.key ↔
      ∃ index < count, (fates index).lost = none ∧ (fates index).removes key = false ∧
        ∃ batch, (deleteBatches keys)[index]? = some batch ∧ key ∈ batch := by
  rw [accumulated, List.map_flatMap, List.mem_flatMap]
  simp only [List.mem_range, mem_reportedFailures]
  constructor
  · rintro ⟨index, inside, output, answer, entry, member, named⟩
    obtain ⟨arrives, rfl⟩ := answer_eq_ok.mp answer
    obtain ⟨other, among, is⟩ := List.mem_filterMap.mp member
    obtain ⟨reason, refused, rfl⟩ := Option.map_eq_some_iff.mp is
    cases named
    refine ⟨index, inside, arrives, ?_, mem_getD_iff.mp among⟩
    rw [DeleteFate.removes, refused]
    rfl
  · rintro ⟨index, inside, arrives, refused, among⟩
    rw [DeleteFate.removes, Option.isNone_eq_false_iff, Option.isSome_iff_exists] at refused
    obtain ⟨reason, is⟩ := refused
    refine ⟨index, inside, _, answer_eq_ok.mpr ⟨arrives, rfl⟩,
      ⟨some key, reason.1, reason.2⟩, ?_, rfl⟩
    exact List.mem_filterMap.mpr ⟨key, mem_getD_iff.mpr among, by rw [is]; rfl⟩

theorem mem_keys_iff :
    key ∈ keys ↔ ∃ (index : Nat) (batch : List String),
      (deleteBatches keys)[index]? = some batch ∧ key ∈ batch := by
  conv_lhs => rw [← flatten_deleteBatches keys, List.mem_flatten]
  constructor
  · rintro ⟨batch, member, among⟩
    obtain ⟨index, found⟩ := List.mem_iff_getElem?.mp member
    exact ⟨index, batch, found, among⟩
  · rintro ⟨index, batch, found, among⟩
    exact ⟨batch, List.mem_of_getElem? found, among⟩

/-- When every answer has arrived, each key is in one list or the other. -/
theorem mem_keys_of_answered
    (arrive : ∀ index < (deleteBatches keys).length, (fates index).lost = none) :
    key ∈ keys ↔
      key ∈ (accumulated (deleteAnswers fates keys) (deleteBatches keys).length).deletedKeys ∨
      key ∈ (accumulated (deleteAnswers fates keys) (deleteBatches keys).length).failures.map
        DeleteObjectFailure.key := by
  rw [mem_keys_iff, mem_deletedKeys, mem_failures]
  constructor
  · rintro ⟨index, batch, found, among⟩
    have inside := (List.getElem?_eq_some_iff.mp found).1
    cases removed : (fates index).removes key with
    | true => exact Or.inl ⟨index, inside, arrive index inside, removed, batch, found, among⟩
    | false => exact Or.inr ⟨index, inside, arrive index inside, removed, batch, found, among⟩
  · rintro (⟨index, -, -, -, batch, found, among⟩ | ⟨index, -, -, -, batch, found, among⟩)
    · exact ⟨index, batch, found, among⟩
    · exact ⟨index, batch, found, among⟩

/-- What is there after batches whose answers have arrived. -/
theorem mem_after_answered (arrive : ∀ index < count, (fates index).lost = none)
    {object : ObjectSummary} :
    object ∈ (shelf.afterDeletes fates 0
        (((deleteBatches keys).take count).map (batchRequest bucket))).objects ↔
      object ∈ shelf.objects ∧
        object.key ∉ (accumulated (deleteAnswers fates keys) count).deletedKeys := by
  rw [mem_afterDeletes, mem_deletedKeys]
  refine and_congr_right (fun _ => ?_)
  constructor
  · rintro kept ⟨index, inside, -, removed, batch, found, among⟩
    refine kept index batch ?_ ⟨among, by rwa [Nat.zero_add]⟩
    rw [List.getElem?_take_of_lt inside, found]
  · rintro unnamed index batch found ⟨among, removed⟩
    rw [Nat.zero_add] at removed
    rw [List.getElem?_take] at found
    split at found
    · rename_i inside
      exact unnamed ⟨index, inside, arrive index inside, removed, batch, found, among⟩
    · cases found

/-- The last of the requests acts on what those before it have left. -/
theorem mem_after_last {index : Nat} {batch : List String}
    (found : (deleteBatches keys)[index]? = some batch) {object : ObjectSummary} :
    object ∈ (shelf.afterDeletes fates 0
        (((deleteBatches keys).take (index + 1)).map (batchRequest bucket))).objects ↔
      object ∈ (shelf.afterDeletes fates 0
        (((deleteBatches keys).take index).map (batchRequest bucket))).objects ∧
        ¬ (object.key ∈ batch ∧ (fates index).removes object.key = true) := by
  rw [mem_afterDeletes, mem_afterDeletes, and_assoc]
  refine and_congr_right (fun _ => ?_)
  constructor
  · intro kept
    refine ⟨fun offset other there => ?_, ?_⟩
    · rw [List.getElem?_take] at there
      split at there
      · rename_i before
        refine kept offset other ?_
        rw [List.getElem?_take_of_lt (Nat.lt_succ_of_lt before), there]
      · cases there
    · have last := kept index batch (by rw [List.getElem?_take_of_lt index.lt_succ_self, found])
      rwa [Nat.zero_add] at last
  · rintro ⟨kept, last⟩ offset other there
    rw [List.getElem?_take] at there
    split at there
    · rename_i inside
      rcases Nat.lt_succ_iff_lt_or_eq.mp inside with before | rfl
      · refine kept offset other ?_
        rw [List.getElem?_take_of_lt before, there]
      · rw [found] at there
        cases there
        rwa [Nat.zero_add]
    · cases there

/-- The keys of objects that are deleted together. -/
def keyTexts (keys : List ObjectKey) : List String := keys.map ObjectKey.value

/-- A run ends with its last answer, or with the first that is lost. -/
theorem deleteRun_cases (bucket : BucketName) (fates : Nat → DeleteFate) (keys : List ObjectKey) :
    ((∀ index < (deleteBatches (keyTexts keys)).length, (fates index).lost = none) ∧
      deleteObjects bucket (deleteAnswers fates (keyTexts keys)) (keys.map .ok) = {
        requests := (deleteBatches (keyTexts keys)).map (batchRequest bucket)
        outcome := .ok (accumulated (deleteAnswers fates (keyTexts keys))
          (deleteBatches (keyTexts keys)).length) }) ∨
    ∃ index batch error, (deleteBatches (keyTexts keys))[index]? = some batch ∧
      (∀ earlier < index, (fates earlier).lost = none) ∧
      deleteObjects bucket (deleteAnswers fates (keyTexts keys)) (keys.map .ok) = {
        requests := ((deleteBatches (keyTexts keys)).take (index + 1)).map (batchRequest bucket)
        outcome := .error (.batch {
          error := .remoteError "DeleteObjects" error
          partialResult := accumulated (deleteAnswers fates (keyTexts keys)) index }) } := by
  rw [deleteObjects_valid]
  rcases answered_or_first (deleteAnswers fates (keyTexts keys))
      (deleteBatches (keyTexts keys)).length with
    answered | ⟨index, inside, answered, unusable⟩
  · exact Or.inl ⟨fun index inside => answered_iff.mp (answered index inside),
      deleteLoop_answered answered⟩
  · have lost : (fates index).lost ≠ none := fun arrives => unusable (answered_iff.mpr arrives)
    obtain ⟨error, is⟩ := Option.ne_none_iff_exists'.mp lost
    have fails : deleteAnswers fates (keyTexts keys) index = .error error := by
      rw [deleteAnswers, DeleteFate.answer, is]
    exact Or.inr ⟨index, _, error, List.getElem?_eq_getElem inside,
      fun earlier before => answered_iff.mp (answered earlier before),
      deleteLoop_stopped inside answered (stops_at_error fails)⟩

/-- What a run with a result has reported and left. -/
theorem deleted_of_ok (shelf : Shelf) {keys : List ObjectKey} {run : DeleteRun}
    {result : DeleteObjectsResult}
    (ran : run = deleteObjects bucket (deleteAnswers fates (keyTexts keys)) (keys.map .ok))
    (done : run.outcome = .ok result) :
    (∀ key, key ∈ keyTexts keys ↔
      key ∈ result.deletedKeys ∨ key ∈ result.failures.map DeleteObjectFailure.key) ∧
    ∀ object, object ∈ (shelf.afterDeletes fates 0 run.requests).objects ↔
      object ∈ shelf.objects ∧ object.key ∉ result.deletedKeys := by
  rcases deleteRun_cases bucket fates keys with ⟨arrive, whole⟩ | ⟨_, _, _, -, -, stopped⟩
  · rw [whole] at ran
    subst ran
    cases done
    refine ⟨fun key => mem_keys_of_answered arrive, fun object => ?_⟩
    conv_lhs => rw [← List.take_length (l := deleteBatches (keyTexts keys))]
    exact mem_after_answered arrive
  · rw [stopped] at ran
    subst ran
    cases done

/-- A full batch, and one for the keys that are left. -/
theorem deleteBatches_two {first rest : List String} (full : first.length = maxDeleteKeys)
    (left : rest ≠ []) (fits : rest.length ≤ maxDeleteKeys) :
    deleteBatches (first ++ rest) = [first, rest] := by
  have positive : 0 < rest.length := List.length_pos_iff.mpr left
  have count : (first ++ rest).length ⌈/⌉ maxDeleteKeys = 2 := by
    rw [List.length_append, full, Nat.ceilDiv_eq_add_pred_div]
    simp only [maxDeleteKeys] at fits ⊢
    omega
  rw [deleteBatches_eq, count]
  change [block maxDeleteKeys 0 (first ++ rest), block maxDeleteKeys 1 (first ++ rest)] = _
  rw [block, block, Nat.zero_mul, Nat.one_mul, List.drop_zero, List.take_left' full,
    List.drop_left' full, List.take_of_length_le fits]

end Deletes

/-- Batch deletion says what it has done. When it returns a result, every key was reported as
    deleted or as a failure, and what is gone from the bucket is exactly what was reported as
    deleted. When it returns an error, that was about the last request sent; of the objects
    whose keys are not in that one batch, exactly those are gone that the result with the
    error names. -/
theorem delete_objects_exact (bucket : BucketName) (fates : Nat → DeleteFate) (shelf : Shelf)
    (keys : List ObjectKey) (run : DeleteRun) (after : Shelf)
    (ran : run = deleteObjects bucket (deleteAnswers fates (keyTexts keys)) (keys.map .ok))
    (left : after = shelf.afterDeletes fates 0 run.requests) :
    (∀ result, run.outcome = .ok result →
      (∀ key, key ∈ keyTexts keys ↔
        key ∈ result.deletedKeys ∨ key ∈ result.failures.map DeleteObjectFailure.key) ∧
      ∀ object, object ∈ after.objects ↔
        object ∈ shelf.objects ∧ object.key ∉ result.deletedKeys) ∧
    ∀ fault, run.outcome = .error fault → ∃ error result batch,
      fault = .batch ⟨.remoteError "DeleteObjects" error, result⟩ ∧
      batch ∈ deleteBatches (keyTexts keys) ∧
      run.requests.getLast? = some (batchRequest bucket batch) ∧
      (∀ object ∈ after.objects, object ∈ shelf.objects ∧ object.key ∉ result.deletedKeys) ∧
      ∀ object ∈ shelf.objects, object.key ∉ result.deletedKeys → object.key ∉ batch →
        object ∈ after.objects := by
  subst left
  refine ⟨fun result done => deleted_of_ok shelf ran done, fun fault failed => ?_⟩
  rcases deleteRun_cases bucket fates keys with ⟨-, whole⟩ |
    ⟨index, batch, error, found, arrive, stopped⟩
  · rw [whole] at ran
    subst ran
    cases failed
  · rw [stopped] at ran
    subst ran
    cases failed
    refine ⟨error, _, batch, rfl, List.mem_of_getElem? found, ?_, ?_, ?_⟩
    · obtain ⟨inside, rfl⟩ := List.getElem?_eq_some_iff.mp found
      rw [List.take_succ_eq_append_getElem inside, List.map_append]
      exact List.getLast?_concat
    · intro object member
      rw [mem_after_last found, mem_after_answered arrive] at member
      exact member.1
    · intro object there unnamed outside
      rw [mem_after_last found, mem_after_answered arrive]
      exact ⟨⟨there, unnamed⟩, fun both => outside both.1⟩

/-- A request that does all that it was asked for. -/
def DeleteFate.granted : DeleteFate := ⟨fun _ => none, none⟩

/-- A request that leaves one object. -/
def DeleteFate.keepsC : DeleteFate where
  refuses key := if key = "c" then some (some "AccessDenied", none) else none
  lost := none

/-- The first request leaves one object; the answer to the second is lost, whatever it did. -/
def DeleteFate.secondLost (index : Nat) : DeleteFate :=
  if index = 0 then .keepsC else ⟨fun _ => none, some .timeoutError⟩

/-- More keys than one request holds: the last of them goes into a batch of its own. -/
def manyKeys : List ObjectKey :=
  List.replicate 999 ⟨"a", by decide⟩ ++ [⟨"c", by decide⟩, ⟨"b/1", by decide⟩]

theorem deleteBatches_manyKeys :
    deleteBatches (keyTexts manyKeys) = [List.replicate 999 "a" ++ ["c"], ["b/1"]] := by
  have shape : keyTexts manyKeys = (List.replicate 999 "a" ++ ["c"]) ++ ["b/1"] := by
    simp only [keyTexts, manyKeys, List.map_append, List.map_replicate, List.map_cons,
      List.map_nil, List.append_assoc, List.cons_append, List.nil_append]
  have full : (List.replicate 999 "a" ++ ["c"]).length = maxDeleteKeys := by
    rw [List.length_append, List.length_replicate]
    rfl
  rw [shape]
  exact deleteBatches_two full (List.cons_ne_nil _ _) (by decide)

/-- The error is that of the second request. What the first one deleted is named, what it was
    refused is still there; of what the second one was about nothing is known. -/
theorem delete_objects_exact_lost :
    let run := deleteObjects shelfBucket (deleteAnswers .secondLost (keyTexts manyKeys))
      (manyKeys.map .ok)
    let after := Shelf.small.afterDeletes .secondLost 0 run.requests
    (∃ result, run.outcome = .error (.batch ⟨.remoteError "DeleteObjects" .timeoutError, result⟩) ∧
      run.requests.getLast? = some (batchRequest shelfBucket ["b/1"])) ∧
    (∀ object ∈ after.objects, object.key ≠ "a") ∧
    ∀ object ∈ Shelf.small.objects, object.key = "c" → object ∈ after.objects := by
  have answered : ∀ earlier < 1,
      Answered (deleteAnswers .secondLost (keyTexts manyKeys) earlier) := by
    intro earlier before
    rw [Nat.lt_one_iff.mp before]
    exact answered_iff.mpr rfl
  have fails : deleteAnswers .secondLost (keyTexts manyKeys) 1 = .error .timeoutError := rfl
  intro run after
  have stopped : run = {
      requests := ((deleteBatches (keyTexts manyKeys)).take 2).map (batchRequest shelfBucket)
      outcome := .error (.batch {
        error := .remoteError "DeleteObjects" .timeoutError
        partialResult := accumulated (deleteAnswers .secondLost (keyTexts manyKeys)) 1 }) } := by
    refine (deleteObjects_valid manyKeys).trans (deleteLoop_stopped ?_ answered
      (stops_at_error fails))
    change 1 < (deleteBatches (keyTexts manyKeys)).length
    rw [deleteBatches_manyKeys]
    decide
  have failed := congrArg DeleteRun.outcome stopped
  obtain ⟨-, told⟩ := delete_objects_exact shelfBucket .secondLost .small manyKeys run after rfl rfl
  obtain ⟨error, result, batch, same, -, last, named, kept⟩ := told _ failed
  injection same with parts
  injection parts with _ is
  subst is
  have first : ∀ key, key ∈ (accumulated (deleteAnswers .secondLost (keyTexts manyKeys))
      1).deletedKeys ↔ key = "a" := by
    intro key
    rw [mem_deletedKeys, deleteBatches_manyKeys]
    constructor
    · rintro ⟨index, before, -, removed, batch, found, among⟩
      obtain rfl := Nat.lt_one_iff.mp before
      cases found
      rcases List.mem_append.mp among with many | one
      · exact List.eq_of_mem_replicate many
      · rw [List.mem_singleton.mp one] at removed
        cases removed
    · rintro rfl
      exact ⟨0, Nat.one_pos, rfl, rfl, _, rfl,
        List.mem_append_left _ (List.mem_replicate.mpr ⟨by decide, rfl⟩)⟩
  have only : batch = ["b/1"] := by
    have final :
        some (batchRequest shelfBucket ["b/1"]) = some (batchRequest shelfBucket batch) := by
      rw [← last, stopped, deleteBatches_manyKeys]
      rfl
    rw [← texts_batchRequest shelfBucket batch, ← Option.some.inj final, texts_batchRequest]
  refine ⟨⟨_, failed, by rw [last, only]⟩, ?_, ?_⟩
  · intro object there is
    exact (named object there).2 ((first _).mpr is)
  · intro object there is
    refine kept object there ?_ ?_
    · rw [first, is]
      decide
    · rw [only, is]
      decide

/-- The keys of the objects that a listing shows, as `delete_objects` takes them. -/
def listedKeys (objects : List ObjectSummary) : List (Except Error ObjectKey) :=
  objects.map (fun object => ObjectKey.new object.key)

/-- The keys that stand in a bucket are valid. -/
theorem listedKeys_valid {shelf : Shelf} {objects : List ObjectSummary}
    (there : ∀ object ∈ objects, object ∈ shelf.objects) :
    ∃ keys : List ObjectKey, listedKeys objects = keys.map .ok ∧
      keyTexts keys = objects.map ObjectSummary.key := by
  induction objects with
  | nil => exact ⟨[], rfl, rfl⟩
  | cons object rest ih =>
      obtain ⟨here, later⟩ := List.forall_mem_cons.mp there
      obtain ⟨keys, listed, texts⟩ := ih later
      refine ⟨⟨object.key, shelf.keys object here⟩ :: keys, ?_, ?_⟩
      · have new : ObjectKey.new object.key = .ok ⟨object.key, shelf.keys object here⟩ :=
          ObjectKey.new_eq_ok_iff.mpr rfl
        rw [listedKeys, List.map_cons, List.map_cons, new]
        exact congrArg _ listed
      · exact congrArg _ texts

/-- Objects with the same key on a shelf are one object. -/
theorem Shelf.eq_of_key {shelf : Shelf} {first second : ObjectSummary}
    (one : first ∈ shelf.objects) (other : second ∈ shelf.objects)
    (same : first.key = second.key) : first = second := by
  have apart : (shelf.objects.map ObjectSummary.key).Nodup :=
    List.pairwise_map.mpr (shelf.ascending.imp (fun {first second} before same => by
      rw [same] at before
      exact String.lt_irrefl _ before))
  exact List.inj_on_of_nodup_map apart one other same

/-- Deleting what a listing has yielded. If the result is complete, the same listing shows
    nothing any more, and every other object is still there. -/
theorem purge_empties (shelf : Shelf) (bucket : BucketName) (choices : ListingChoices)
    (builder : ListObjectsBuilder) (same : builder.bucket = bucket)
    (checked : builder.check = .ok ()) (fresh : builder.continuationToken = none)
    (requests : List ListObjectsV2Input) (objects : List ObjectSummary)
    (given : (ListObjectsBuilder.intoStream (shelf.serve bucket choices)).Gives
      ([], some (some builder)) requests (objects.map .ok))
    (fates : Nat → DeleteFate) (run : DeleteRun) (result : DeleteObjectsResult) (after : Shelf)
    (ran : run = deleteObjects bucket (deleteAnswers fates (objects.map ObjectSummary.key))
      (listedKeys objects))
    (done : run.outcome = .ok result) (complete : result.isComplete = true)
    (left : after = shelf.afterDeletes fates 0 run.requests) :
    (∃ again, (ListObjectsBuilder.intoStream (after.serve bucket choices)).Gives
      ([], some (some builder)) again []) ∧
    ∀ object ∈ shelf.objects, object ∉ objects → object ∈ after.objects := by
  obtain ⟨others, whole⟩ := intoStream_gives_listed shelf choices same checked fresh
  obtain ⟨-, yielded⟩ := given.unique whole
  have is : objects = shelf.listed builder.keyPrefix builder.delimiter :=
    List.map_injective_iff.mpr (fun _ _ => Except.ok.inj) yielded
  subst is
  have there : ∀ object ∈ shelf.listed builder.keyPrefix builder.delimiter,
      object ∈ shelf.objects := fun object member => List.mem_of_mem_filter member
  obtain ⟨keys, listed, texts⟩ := listedKeys_valid there
  rw [listed, ← texts] at ran
  obtain ⟨reported, kept⟩ := deleted_of_ok shelf ran done
  rw [← left] at kept
  have failures : result.failures = [] := List.isEmpty_iff.mp complete
  have deleted : ∀ key, key ∈ result.deletedKeys ↔
      ∃ object ∈ shelf.listed builder.keyPrefix builder.delimiter, object.key = key := by
    intro key
    have named := reported key
    rw [failures, List.map_nil, texts, List.mem_map] at named
    simpa using named.symm
  constructor
  · obtain ⟨again, shown⟩ := intoStream_gives_listed after choices same checked fresh
    have nothing : after.listed builder.keyPrefix builder.delimiter = [] := by
      refine List.filter_eq_nil_iff.mpr ?_
      intro object member shown
      obtain ⟨there, unnamed⟩ := (kept object).mp member
      exact unnamed ((deleted _).mpr ⟨object, List.mem_filter.mpr ⟨there, shown⟩, rfl⟩)
    rw [nothing] at shown
    exact ⟨again, shown⟩
  · intro object there unlisted
    refine (kept object).mpr ⟨there, fun named => ?_⟩
    obtain ⟨other, among, is⟩ := (deleted _).mp named
    rw [shelf.eq_of_key (List.mem_of_mem_filter among) there is] at among
    exact unlisted among

theorem repeated_lt {first second : Nat} (less : first < second) :
    repeated first < repeated second := by
  change (repeated first).toList < (repeated second).toList
  obtain ⟨more, rfl⟩ := Nat.exists_eq_add_of_lt less
  rw [repeated, repeated, String.toList_ofList, String.toList_ofList, Nat.add_assoc,
    ← List.replicate_append_replicate]
  conv_lhs => rw [← List.append_nil (List.replicate first 'a')]
  exact List.append_left_lt (List.nil_lt_cons _ _)

/-- Where nothing is refused, nothing is reported as a failure. -/
theorem complete_of_granted {keys : List String} {count : Nat} :
    (accumulated (deleteAnswers (fun _ => .granted) keys) count).isComplete = true := by
  have failures : ∀ key, key ∉ (accumulated (deleteAnswers (fun _ => .granted) keys)
      count).failures.map DeleteObjectFailure.key := by
    intro key named
    obtain ⟨index, -, -, refused, -⟩ := mem_failures.mp named
    cases refused
  exact List.isEmpty_iff.mpr (List.map_eq_nil_iff.mp
    (List.eq_nil_iff_forall_not_mem.mpr failures))

/-- More objects than one request deletes. -/
def underRepeated : List ObjectSummary :=
  (List.range 1001).map (fun index => ⟨repeated (index + 1), 1, none, none⟩)

/-- An object that is not under their prefix. -/
def objectB : ObjectSummary := ⟨"b", 1, none, none⟩

theorem ascending_underRepeated :
    (underRepeated ++ [objectB]).Pairwise
      (fun first second => first.key < second.key) := by
  refine List.pairwise_append.mpr ⟨List.pairwise_map.mpr (List.pairwise_lt_range.imp ?_),
    List.pairwise_singleton _ _, ?_⟩
  · intro first second less
    exact repeated_lt (Nat.succ_lt_succ less)
  · intro first under other last
    obtain ⟨index, -, rfl⟩ := List.mem_map.mp under
    rw [List.mem_singleton.mp last]
    change (repeated (index + 1)).toList < "b".toList
    rw [repeated, String.toList_ofList]
    exact List.Lex.rel (by decide)

theorem keys_underRepeated :
    ∀ object ∈ underRepeated ++ [objectB],
      object.key.utf8ByteSize ≠ 0 ∧ object.key.utf8ByteSize ≤ maxKeyBytes := by
  intro object member
  rcases List.mem_append.mp member with under | other
  · obtain ⟨index, inside, rfl⟩ := List.mem_map.mp under
    have few := List.mem_range.mp inside
    rw [utf8ByteSize_repeated, maxKeyBytes]
    omega
  · rw [List.mem_singleton.mp other]
    decide

/-- The bucket of all these objects. -/
def Shelf.crowded : Shelf where
  objects := underRepeated ++ [objectB]
  ascending := ascending_underRepeated
  keys := keys_underRepeated

theorem listed_crowded : Shelf.crowded.listed (some "a") none = underRepeated := by
  rw [Shelf.listed, Shelf.crowded, List.filter_append]
  have all : underRepeated.filter (fun object =>
      hasPrefix (some "a") object.key && (rolledUp (some "a") none object.key).isNone) =
        underRepeated := by
    refine List.filter_eq_self.mpr ?_
    intro object member
    obtain ⟨index, -, rfl⟩ := List.mem_map.mp member
    have starts : hasPrefix (some "a") (repeated (index + 1)) = true := by
      rw [hasPrefix, repeated, String.toList_ofList, List.replicate_succ]
      rfl
    rw [starts]
    rfl
  rw [all]
  exact List.append_nil _

/-- Two requests delete all that stands under the prefix, and nothing else. -/
theorem purge_empties_crowded :
    ∃ run result,
      run = deleteObjects shelfBucket
        (deleteAnswers (fun _ => .granted) (underRepeated.map ObjectSummary.key))
        (listedKeys underRepeated) ∧
      run.requests.length = 2 ∧ run.outcome = .ok result ∧
      (∃ again, (ListObjectsBuilder.intoStream
        ((Shelf.crowded.afterDeletes (fun _ => .granted) 0 run.requests).serve shelfBucket
          .single)).Gives
        ([], some (some { bucket := shelfBucket, keyPrefix := some "a" })) again []) ∧
      objectB ∈
        (Shelf.crowded.afterDeletes (fun _ => .granted) 0 run.requests).objects := by
  let builder : ListObjectsBuilder := { bucket := shelfBucket, keyPrefix := some "a" }
  have checked : builder.check = .ok () := by decide
  obtain ⟨requests, given⟩ := intoStream_gives_listed .crowded .single rfl checked rfl
  rw [listed_crowded] at given
  have there : ∀ object ∈ underRepeated, object ∈ Shelf.crowded.objects :=
    fun object member => List.mem_append_left _ member
  obtain ⟨keys, listed, texts⟩ := listedKeys_valid there
  have ran : deleteObjects shelfBucket
      (deleteAnswers (fun _ => .granted) (underRepeated.map ObjectSummary.key))
      (listedKeys underRepeated) = {
        requests := (deleteBatches (underRepeated.map ObjectSummary.key)).map
          (batchRequest shelfBucket)
        outcome := .ok (accumulated
          (deleteAnswers (fun _ => .granted) (underRepeated.map ObjectSummary.key))
          (deleteBatches (underRepeated.map ObjectSummary.key)).length) } := by
    rw [listed, deleteObjects_valid, ← texts]
    exact deleteLoop_answered (fun index _ => answered_iff.mpr rfl)
  obtain ⟨again, kept⟩ := purge_empties .crowded shelfBucket .single builder rfl checked rfl
    requests _ given (fun _ => .granted) _ _ _ rfl
    (congrArg DeleteRun.outcome ran)
    complete_of_granted rfl
  refine ⟨_, _, rfl, ?_, congrArg DeleteRun.outcome ran, again, kept _ ?_ ?_⟩
  · rw [ran, List.length_map, length_deleteBatches, List.length_map, underRepeated,
      List.length_map, List.length_range]
    rfl
  · exact List.mem_append_right _ List.mem_cons_self
  · intro among
    rw [← listed_crowded] at among
    exact absurd (List.mem_filter.mp among).2 (by decide)

end R2kit
