import Mathlib.Data.List.Basic

/-!
# Streams of items

A stream is polled: a step makes some calls and yields an item, moves on without one, or is
done. `Gives` is the whole of what a stream does when it is polled to its end; a stream that
never ends gives nothing. `tryUnfold` and `flatMap` are the combinators of the same purpose.
-/

namespace R2kit.Misc

variable {State Call Item Error A B : Type}

/-- What a step of a stream comes to. -/
inductive Progress (State Item : Type) where
  | yields (item : Item) (next : State)
  | moves (next : State)
  | done

/-- A stream: from each state, the calls of one poll and where it leads. -/
structure ItemStream (State Call Item : Type) where
  step : State → List Call × Progress State Item

namespace ItemStream

/-- Polled to its end from this state, the stream makes these calls and yields these items. -/
inductive Gives (m : ItemStream State Call Item) : State → List Call → List Item → Prop
  | done {s calls} (stepped : m.step s = (calls, .done)) : Gives m s calls []
  | yields {s calls item next later items} (stepped : m.step s = (calls, .yields item next))
      (rest : Gives m next later items) : Gives m s (calls ++ later) (item :: items)
  | moves {s calls next later items} (stepped : m.step s = (calls, .moves next))
      (rest : Gives m next later items) : Gives m s (calls ++ later) items

/-- The stream ends. -/
def Ends (m : ItemStream State Call Item) (s : State) : Prop := ∃ calls items, m.Gives s calls items

/-- `stream::try_unfold`: an error is yielded, and nothing after it. -/
def tryUnfold (next : State → List Call × Except Error (Option (Item × State))) :
    ItemStream (Option State) Call (Except Error Item) where
  step
    | none => ([], .done)
    | some s =>
        match next s with
        | (calls, .error error) => (calls, .yields (.error error) none)
        | (calls, .ok none) => (calls, .done)
        | (calls, .ok (some (item, s))) => (calls, .yields (.ok item) (some s))

/-- `StreamExt::map` into lists and `StreamExt::flatten`: the items of a list are yielded one
    by one before the stream is polled again. -/
def flatMap (m : ItemStream State Call A) (list : A → List B) :
    ItemStream (List B × State) Call B where
  step
    | (item :: queue, s) => ([], .yields item (queue, s))
    | ([], s) =>
        match m.step s with
        | (calls, .yields item next) => (calls, .moves (list item, next))
        | (calls, .moves next) => (calls, .moves ([], next))
        | (calls, .done) => (calls, .done)

section Gives

variable {m : ItemStream State Call Item} {s : State} {calls : List Call} {items : List Item}

/-- What a stream does is determined by its state. -/
theorem Gives.unique {otherCalls : List Call} {otherItems : List Item}
    (first : m.Gives s calls items) (second : m.Gives s otherCalls otherItems) :
    calls = otherCalls ∧ items = otherItems := by
  induction first generalizing otherCalls otherItems with
  | done stepped =>
      cases second with
      | done again =>
          rw [stepped] at again
          cases again
          exact ⟨rfl, rfl⟩
      | yields again _ | moves again _ =>
          rw [stepped] at again
          cases again
  | yields stepped _ ih =>
      cases second with
      | done again | moves again _ =>
          rw [stepped] at again
          cases again
      | yields again rest =>
          rw [stepped] at again
          cases again
          obtain ⟨rfl, rfl⟩ := ih rest
          exact ⟨rfl, rfl⟩
  | moves stepped _ ih =>
      cases second with
      | done again | yields again _ =>
          rw [stepped] at again
          cases again
      | moves again rest =>
          rw [stepped] at again
          cases again
          obtain ⟨rfl, rfl⟩ := ih rest
          exact ⟨rfl, rfl⟩

end Gives

section FlatMap

variable {m : ItemStream State Call A} {list : A → List B} {s : State} {calls : List Call}

/-- The queue is yielded without a call. -/
theorem flatMap_queue {items : List B} (queue : List B)
    (given : (m.flatMap list).Gives ([], s) calls items) :
    (m.flatMap list).Gives (queue, s) calls (queue ++ items) := by
  induction queue with
  | nil => exact given
  | cons item rest ih =>
      have stepped : (m.flatMap list).step (item :: rest, s) = ([], .yields item (rest, s)) := rfl
      exact Gives.yields stepped ih

/-- Flattening a stream concatenates what it yields, through empty lists too. -/
theorem Gives.flatMap {items : List A} (given : m.Gives s calls items) :
    (m.flatMap list).Gives ([], s) calls (items.flatMap list) := by
  induction given with
  | done stepped =>
      refine Gives.done ?_
      simp only [ItemStream.flatMap, stepped]
  | yields stepped _ ih =>
      refine Gives.moves ?_ (flatMap_queue (list _) ih)
      simp only [ItemStream.flatMap, stepped]
  | moves stepped _ ih =>
      refine Gives.moves ?_ ih
      simp only [ItemStream.flatMap, stepped]

end FlatMap

section TryUnfold

variable {next : State → List Call × Except Error (Option (Item × State))} {s : State}
  {calls : List Call}

theorem tryUnfold_over : (tryUnfold next).Gives none [] [] := Gives.done rfl

theorem tryUnfold_error {error : Error} (failed : next s = (calls, .error error)) :
    (tryUnfold next).Gives (some s) calls [.error error] := by
  have stepped : (tryUnfold next).step (some s) = (calls, .yields (.error error) none) := by
    simp only [tryUnfold, failed]
  rw [← List.append_nil calls]
  exact Gives.yields stepped tryUnfold_over

theorem tryUnfold_done (ended : next s = (calls, .ok none)) :
    (tryUnfold next).Gives (some s) calls [] := by
  refine Gives.done ?_
  simp only [tryUnfold, ended]

theorem tryUnfold_item {item : Item} {after : State} {later : List Call}
    {items : List (Except Error Item)} (given : next s = (calls, .ok (some (item, after))))
    (rest : (tryUnfold next).Gives (some after) later items) :
    (tryUnfold next).Gives (some s) (calls ++ later) (.ok item :: items) := by
  refine Gives.yields ?_ rest
  simp only [tryUnfold, given]

/-- The ways an unfolded stream can go. -/
theorem tryUnfold_cases {items : List (Except Error Item)}
    (given : (tryUnfold next).Gives (some s) calls items) :
    (∃ error, next s = (calls, .error error) ∧ items = [.error error]) ∨
      (next s = (calls, .ok none) ∧ items = []) ∨
      ∃ first later item after rest, next s = (first, .ok (some (item, after))) ∧
        calls = first ++ later ∧ items = .ok item :: rest ∧
        (tryUnfold next).Gives (some after) later rest := by
  rcases stepped : next s with ⟨made, result⟩
  rcases result with error | result
  · obtain ⟨rfl, rfl⟩ := given.unique (tryUnfold_error stepped)
    exact Or.inl ⟨error, rfl, rfl⟩
  · rcases result with none | ⟨item, after⟩
    · obtain ⟨rfl, rfl⟩ := given.unique (tryUnfold_done stepped)
      exact Or.inr (Or.inl ⟨rfl, rfl⟩)
    · have step : (tryUnfold next).step (some s) = (made, .yields (.ok item) (some after)) := by
        simp only [tryUnfold, stepped]
      cases given with
      | done again | moves again _ =>
          rw [step] at again
          cases again
      | yields again rest =>
          rw [step] at again
          cases again
          exact Or.inr (Or.inr ⟨_, _, item, after, _, rfl, rfl, rfl, rest⟩)

end TryUnfold

end ItemStream

end R2kit.Misc
