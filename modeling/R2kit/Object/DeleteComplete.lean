import R2kit.Object.Delete

/-!
# Complete batch deletions

`DeleteObjectsResult::is_complete` promises that every requested key was reported as deleted.
It looks at the failures alone, so it depends on answers that mention every key.
-/

namespace R2kit

section Complete

variable (bucket : BucketName) (responses : Nat → Except SdkError DeleteObjectsOutput)

/-- A complete result names every requested key as deleted. -/
def CompleteCovers (keys : List ObjectKey) : Prop :=
  ∀ result, (deleteObjects bucket responses (keys.map .ok)).outcome = .ok result →
    result.isComplete = true → ∀ key ∈ keys, key.value ∈ result.deletedKeys

/-- A request fails, an answer has an error entry, or the answers name every key. -/
def NothingOmitted (keys : List ObjectKey) : Prop :=
  (∃ index < keys.length ⌈/⌉ maxDeleteKeys,
    ∀ output, responses index = .ok output → output.errors ≠ []) ∨
  ∀ key ∈ keys, ∃ index < keys.length ⌈/⌉ maxDeleteKeys,
    ∃ output, responses index = .ok output ∧ some key.value ∈ output.deleted

variable {bucket responses}

theorem mem_reportedDeleted {response : Except SdkError DeleteObjectsOutput} {key : String} :
    key ∈ reportedDeleted response ↔
      ∃ output, response = .ok output ∧ some key ∈ output.deleted := by
  cases response with
  | error error => simp [reportedDeleted]
  | ok output => simp [reportedDeleted]

/-- No entry is left out when the entries that name a key are counted as failures. -/
theorem errors_eq_nil {output : DeleteObjectsOutput}
    (named : ∀ entry ∈ output.errors, entry.key ≠ none)
    (none_reported : reportedFailures (.ok output) = []) : output.errors = [] := by
  rw [reportedFailures, List.filterMap_eq_nil_iff] at none_reported
  rw [List.eq_nil_iff_forall_not_mem]
  intro entry member
  have unnamed := none_reported entry member
  rw [DeleteErrorEntry.named, Option.map_eq_none_iff] at unnamed
  exact named entry member unnamed

theorem isComplete_accumulated {count : Nat} :
    (accumulated responses count).isComplete = true ↔
      ∀ index < count, reportedFailures (responses index) = [] := by
  rw [DeleteObjectsResult.isComplete, List.isEmpty_iff, accumulated, List.flatMap_eq_nil_iff]
  simp

theorem mem_accumulated {count : Nat} {key : String} :
    key ∈ (accumulated responses count).deletedKeys ↔
      ∃ index < count, ∃ output, responses index = .ok output ∧ some key ∈ output.deleted := by
  rw [accumulated, List.mem_flatMap]
  simp only [List.mem_range, mem_reportedDeleted]

theorem covers_of_nothingOmitted {keys : List ObjectKey}
    (nothing : NothingOmitted responses keys) : CompleteCovers bucket responses keys := by
  intro result done complete
  have count := length_deleteBatches (keys.map ObjectKey.value)
  rw [List.length_map] at count
  rw [deleteObjects_valid] at done
  rcases deleteLoop_cases bucket responses (deleteBatches (keys.map ObjectKey.value)) with
    ⟨answered, outcome⟩ | ⟨_, _, _, _, failed⟩
  · rw [count] at answered outcome
    rw [outcome] at done
    cases done
    rw [isComplete_accumulated] at complete
    rcases nothing with ⟨index, inside, erroneous⟩ | named
    · obtain ⟨output, answer, keyed⟩ := answered index inside
      have reported := complete index inside
      rw [answer] at reported
      exact absurd (errors_eq_nil keyed reported) (erroneous output answer)
    · intro key member
      exact mem_accumulated.mpr (named key member)
  · rw [failed] at done
    cases done

theorem nothingOmitted_of_covers {keys : List ObjectKey}
    (covers : CompleteCovers bucket responses keys) : NothingOmitted responses keys := by
  have count := length_deleteBatches (keys.map ObjectKey.value)
  rw [List.length_map] at count
  by_cases erroneous : ∃ index < keys.length ⌈/⌉ maxDeleteKeys,
      ∀ output, responses index = .ok output → output.errors ≠ []
  · exact Or.inl erroneous
  · push Not at erroneous
    have answered : ∀ index < (deleteBatches (keys.map ObjectKey.value)).length,
        Answered (responses index) := by
      intro index inside
      rw [count] at inside
      obtain ⟨output, answer, clean⟩ := erroneous index inside
      exact ⟨output, answer, by simp [clean]⟩
    have outcome : (deleteObjects bucket responses (keys.map .ok)).outcome =
        .ok (accumulated responses (keys.length ⌈/⌉ maxDeleteKeys)) := by
      rw [deleteObjects_valid, deleteLoop_answered answered, count]
    have complete : (accumulated responses
        (keys.length ⌈/⌉ maxDeleteKeys)).isComplete = true := by
      rw [isComplete_accumulated]
      intro index inside
      obtain ⟨output, answer, clean⟩ := erroneous index inside
      rw [answer, reportedFailures, clean]
      rfl
    refine Or.inr ?_
    intro key member
    exact mem_accumulated.mp (covers _ outcome complete key member)

/-- Completeness looks at the failures alone, so it covers every key exactly when no answer
    leaves a key out of both of its lists. -/
theorem completeCovers_iff (bucket : BucketName)
    (responses : Nat → Except SdkError DeleteObjectsOutput) (keys : List ObjectKey) :
    CompleteCovers bucket responses keys ↔ NothingOmitted responses keys :=
  ⟨nothingOmitted_of_covers, covers_of_nothingOmitted⟩

end Complete

/-- An answer that mentions no key at all. -/
def silentAnswer : DeleteObjectsOutput := { deleted := [], errors := [] }

/-- The answer to a request for one key leaves the key out, and the result is complete. -/
theorem complete_omits_key :
    ∃ (bucket : BucketName) (key : ObjectKey) (result : DeleteObjectsResult),
      (deleteObjects bucket (fun _ => .ok silentAnswer) [.ok key]).outcome = .ok result ∧
        result.isComplete = true ∧ key.value ∉ result.deletedKeys :=
  ⟨⟨"media", by decide, by decide⟩, ⟨"a", by decide⟩, { requestCount := 1 }, by decide, by decide,
    by decide⟩

end R2kit
