import Mathlib.Data.List.Basic
import Std.Data.TreeMap.Lemmas

/-!
# Ordered maps of values that carry their own key

A list of values is collected into an ordered map under the key each value carries. If the
keys are distinct, nothing is overwritten: the values of the map are a permutation of the
list, ascending by key, and that determines them.
-/

namespace R2kit.Misc

open Std

variable {α β : Type} [Ord α] [TransOrd α] [LawfulEqOrd α] (key : β → α)

/-- The values of a map, ascending by key. -/
def intoValues (m : TreeMap α β) : List β := m.toList.map Prod.snd

/-- Every value is stored under its own key. -/
def Keyed (m : TreeMap α β) : Prop := ∀ k v, m[k]? = some v → key v = k

/-- Inserts the values one after the other; a later one replaces an earlier one. -/
def insertAll (m : TreeMap α β) (values : List β) : TreeMap α β :=
  values.foldl (fun m value => m.insert (key value) value) m

/-- Inserts the values one after the other, giving up at the first key already present. -/
def insertDistinct (m : TreeMap α β) : List β → Option (TreeMap α β)
  | [] => some m
  | value :: rest =>
      if m.contains (key value) then none
      else insertDistinct (m.insert (key value) value) rest

variable {key} {m : TreeMap α β}

omit [TransOrd α] [LawfulEqOrd α] in
@[simp] theorem insertAll_cons (value : β) (rest : List β) :
    insertAll key m (value :: rest) = insertAll key (m.insert (key value) value) rest := rfl

omit [TransOrd α] [LawfulEqOrd α] in
@[simp] theorem insertAll_nil : insertAll key m [] = m := rfl

omit [TransOrd α] [LawfulEqOrd α] in
@[simp] theorem intoValues_empty : intoValues (∅ : TreeMap α β) = [] := rfl

omit [LawfulEqOrd α] in
theorem keyed_empty : Keyed key (∅ : TreeMap α β) := by
  intro k v found
  simp at found

theorem Keyed.insert (h : Keyed key m) (value : β) :
    Keyed key (m.insert (key value) value) := by
  intro k v found
  rw [TreeMap.getElem?_insert] at found
  split at found
  · rename_i same
    cases found
    exact Std.compare_eq_iff_eq.mp same
  · exact h k v found

theorem Keyed.insertAll (h : Keyed key m) (values : List β) :
    Keyed key (insertAll key m values) := by
  induction values generalizing m with
  | nil => exact h
  | cons value rest ih => exact ih (h.insert value)

/-- Inserting under a fresh key adds the value and keeps the others. -/
theorem intoValues_insert (value : β) (fresh : key value ∉ m) :
    (intoValues (m.insert (key value) value)).Perm (value :: intoValues m) := by
  let equality : BEq α := ⟨fun a b => compare a b == .eq⟩
  have lawful : LawfulBEqCmp (compare : α → α → Ordering) := ⟨beq_iff_eq.symm⟩
  have grown := TreeMap.toList_insert_perm (t := m) (k := key value) (v := value)
  have unchanged : m.toList.filter (fun entry => decide ¬(key value == entry.1) = true) =
      m.toList := by
    rw [List.filter_eq_self]
    intro entry member
    have present : entry.1 ∈ m := by
      rw [TreeMap.mem_iff_isSome_getElem?]
      have found := TreeMap.mem_toList_iff_getElem?_eq_some.mp member
      simp [found]
    simp only [decide_eq_true_eq, Bool.not_eq_true]
    by_contra same
    have equal : key value = entry.1 := by
      simpa [BEq.beq, Std.compare_eq_iff_eq] using same
    exact fresh (equal ▸ present)
  rw [unchanged] at grown
  simpa [intoValues] using grown.map Prod.snd

/-- Values with new, distinct keys are all kept. -/
theorem intoValues_insertAll (values : List β) (distinct : (values.map key).Nodup)
    (fresh : ∀ value ∈ values, key value ∉ m) :
    (intoValues (insertAll key m values)).Perm (values ++ intoValues m) := by
  induction values generalizing m with
  | nil => simp
  | cons value rest ih =>
      rw [List.map_cons, List.nodup_cons] at distinct
      have later : ∀ other ∈ rest, key other ∉ m.insert (key value) value := by
        intro other member present
        rw [TreeMap.mem_insert, Std.compare_eq_iff_eq] at present
        rcases present with same | present
        · exact distinct.1 (same ▸ List.mem_map_of_mem member)
        · exact fresh other (List.mem_cons_of_mem _ member) present
      have step := ih distinct.2 later
      have inserted := intoValues_insert value (fresh value List.mem_cons_self)
      exact step.trans ((inserted.append_left rest).trans List.perm_middle)

omit [TransOrd α] [LawfulEqOrd α] in
theorem insertAll_append (first second : List β) :
    insertAll key m (first ++ second) = insertAll key (insertAll key m first) second :=
  List.foldl_append

/-- The keys of a map that was filled are the keys of what was put in. -/
theorem mem_insertAll {values : List β} {k : α} :
    k ∈ insertAll key m values ↔ k ∈ values.map key ∨ k ∈ m := by
  induction values generalizing m with
  | nil => simp
  | cons value rest ih =>
      rw [insertAll_cons, ih, TreeMap.mem_insert, Std.compare_eq_iff_eq, List.map_cons,
        List.mem_cons]
      constructor
      · rintro (later | same | before)
        · exact Or.inl (Or.inr later)
        · exact Or.inl (Or.inl same.symm)
        · exact Or.inr before
      · rintro ((same | later) | before)
        · exact Or.inr (Or.inl same.symm)
        · exact Or.inl later
        · exact Or.inr (Or.inr before)

/-- Distinct keys make as many entries as there are values. -/
theorem size_insertAll {values : List β} (distinct : (values.map key).Nodup) :
    (insertAll key ∅ values).size = values.length := by
  have kept := intoValues_insertAll (m := ∅) values distinct (by simp)
  rw [intoValues_empty, List.append_nil] at kept
  rw [← kept.length_eq, intoValues, List.length_map, TreeMap.length_toList]

theorem insertDistinct_eq_some_iff {values : List β} {m' : TreeMap α β} :
    insertDistinct key m values = some m' ↔
      (values.map key).Nodup ∧ (∀ value ∈ values, key value ∉ m) ∧
        m' = insertAll key m values := by
  induction values generalizing m with
  | nil => simp [insertDistinct, eq_comm]
  | cons value rest ih =>
      simp only [insertDistinct, insertAll_cons, List.map_cons, List.nodup_cons]
      by_cases present : m.contains (key value) = true
      · rw [if_pos present]
        simp only [reduceCtorEq, false_iff, not_and]
        intro _ fresh
        exact absurd (TreeMap.mem_iff_contains.mpr present) (fresh value List.mem_cons_self)
      · rw [if_neg present, ih]
        constructor
        · rintro ⟨distinct, fresh, rfl⟩
          refine ⟨⟨?_, distinct⟩, ?_, rfl⟩
          · intro member
            obtain ⟨other, among, same⟩ := List.mem_map.mp member
            apply fresh other among
            rw [TreeMap.mem_insert, Std.compare_eq_iff_eq]
            exact Or.inl same.symm
          · intro other member
            rcases List.mem_cons.mp member with rfl | member
            · rwa [TreeMap.mem_iff_contains]
            · intro among
              apply fresh other member
              rw [TreeMap.mem_insert]
              exact Or.inr among
        · rintro ⟨⟨absent, distinct⟩, fresh, rfl⟩
          refine ⟨distinct, ?_, rfl⟩
          intro other member among
          rw [TreeMap.mem_insert, Std.compare_eq_iff_eq] at among
          rcases among with same | among
          · exact absent (same ▸ List.mem_map_of_mem member)
          · exact fresh other (List.mem_cons_of_mem _ member) among

/-- The values of a keyed map ascend strictly by key. -/
theorem Keyed.pairwise_intoValues (h : Keyed key m) :
    (intoValues m).Pairwise (fun a b => compare (key a) (key b) = .lt) := by
  rw [intoValues, List.pairwise_map]
  apply TreeMap.ordered_keys_toList.imp_of_mem
  intro a b amem bmem ordered
  rw [h _ _ (TreeMap.mem_toList_iff_getElem?_eq_some.mp amem),
    h _ _ (TreeMap.mem_toList_iff_getElem?_eq_some.mp bmem)]
  exact ordered

omit [LawfulEqOrd α] in
/-- Two lists that ascend strictly by key and hold the same values are equal. -/
theorem eq_of_perm_of_ascending {first second : List β}
    (hfirst : first.Pairwise (fun a b => compare (key a) (key b) = .lt))
    (hsecond : second.Pairwise (fun a b => compare (key a) (key b) = .lt))
    (same : first.Perm second) : first = second := by
  refine same.eq_of_pairwise ?_ hfirst hsecond
  intro a b _ _ less greater
  have swapped : compare (key b) (key a) = .gt := OrientedCmp.gt_of_lt less
  rw [greater] at swapped
  cases swapped

end R2kit.Misc
