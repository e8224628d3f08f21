import Mathlib.Data.List.Induction
import Mathlib.Data.List.Nodup
import Std.Data.HashMap.Lemmas
import Std.Data.TreeMap.Lemmas

/-!
# Maps filled one entry after the other

A list of entries is put into an ordered map or a hash map, a later entry replacing an earlier
one with its key. What is found under a key is the last value given for it, so the map depends
on the entries of each key alone; and entries with distinct keys are all kept, in either map.
-/

namespace R2kit.Misc

open Std

variable {α β : Type}

/-- The last value given for a key. -/
def lastValue [DecidableEq α] (entries : List (α × β)) (key : α) : Option β :=
  ((entries.filter (fun entry => entry.1 = key)).getLast?).map Prod.snd

theorem lastValue_concat [DecidableEq α] (earlier : List (α × β)) (entry : α × β) (key : α) :
    lastValue (earlier ++ [entry]) key =
      if entry.1 = key then some entry.2 else lastValue earlier key := by
  rw [lastValue, lastValue, List.filter_append, List.filter_singleton]
  by_cases same : entry.1 = key
  · simp [same]
  · simp [same]

section Ordered

variable [Ord α]

/-- Inserts the entries one after the other. -/
def putAll (map : TreeMap α β) (entries : List (α × β)) : TreeMap α β :=
  entries.foldl (fun map entry => map.insert entry.1 entry.2) map

@[simp] theorem putAll_nil (map : TreeMap α β) : putAll map [] = map := rfl

@[simp] theorem putAll_cons (map : TreeMap α β) (entry : α × β) (rest : List (α × β)) :
    putAll map (entry :: rest) = putAll (map.insert entry.1 entry.2) rest := rfl

variable [TransOrd α] [LawfulEqOrd α]

theorem getElem?_putAll [DecidableEq α] (map : TreeMap α β) (entries : List (α × β)) (key : α) :
    (putAll map entries)[key]? = (lastValue entries key).or map[key]? := by
  induction entries using List.reverseRecOn with
  | nil => rfl
  | append_singleton earlier entry ih =>
      have last : putAll map (earlier ++ [entry]) =
          (putAll map earlier).insert entry.1 entry.2 := List.foldl_append
      rw [last, TreeMap.getElem?_insert, ih, lastValue_concat]
      by_cases same : entry.1 = key
      · rw [if_pos (Std.compare_eq_iff_eq.mpr same), if_pos same]
        rfl
      · rw [if_neg (fun equal => same (Std.compare_eq_iff_eq.mp equal)), if_neg same]

omit [LawfulEqOrd α] in
theorem nodup_keys_toList (map : TreeMap α β) : (map.toList.map Prod.fst).Nodup := by
  rw [TreeMap.map_fst_toList_eq_keys]
  exact TreeMap.nodup_keys

omit [LawfulEqOrd α] in
theorem nodup_toList (map : TreeMap α β) : map.toList.Nodup :=
  List.Nodup.of_map Prod.fst (nodup_keys_toList map)

/-- Two maps with the same lookups list the same entries in the same order. -/
theorem toList_eq_of_getElem? {first second : TreeMap α β}
    (same : ∀ key : α, first[key]? = second[key]?) : first.toList = second.toList := by
  rw [← TreeMap.equiv_iff_toList_eq, TreeMap.equiv_iff_toList_perm,
    List.perm_ext_iff_of_nodup (nodup_toList first) (nodup_toList second)]
  intro entry
  rw [TreeMap.mem_toList_iff_getElem?_eq_some, TreeMap.mem_toList_iff_getElem?_eq_some,
    same entry.1]

/-- The order of two entries matters only where they share a key. -/
theorem toList_putAll_congr [DecidableEq α] {m : TreeMap α β} {first second : List (α × β)}
    (same : ∀ key, first.filter (fun entry => entry.1 = key) =
      second.filter (fun entry => entry.1 = key)) :
    (putAll m first).toList = (putAll m second).toList := by
  refine toList_eq_of_getElem? ?_
  intro key
  rw [getElem?_putAll, getElem?_putAll, lastValue, lastValue, same key]

end Ordered

section Distinct

variable [DecidableEq α] {entries : List (α × β)}

/-- Where no key is given twice, a key has one value and it is the last. -/
theorem lastValue_eq_some_iff (distinct : (entries.map Prod.fst).Nodup) {key : α} {value : β} :
    lastValue entries key = some value ↔ (key, value) ∈ entries := by
  induction entries with
  | nil => simp [lastValue]
  | cons entry rest ih =>
      rw [List.map_cons, List.nodup_cons] at distinct
      have later := ih distinct.2
      rw [lastValue] at later
      rw [lastValue, List.filter_cons, List.mem_cons, ← later]
      by_cases same : entry.1 = key
      · subst same
        have alone : rest.filter (fun other => other.1 = entry.1) = [] := by
          rw [List.filter_eq_nil_iff]
          intro other member
          rw [decide_eq_true_eq]
          intro again
          exact distinct.1 (List.mem_map.mpr ⟨other, member, again⟩)
        rw [alone, if_pos (by simp), Prod.ext_iff]
        simp [eq_comm]
      · rw [if_neg (by simpa using same)]
        have other : ¬ (key, value) = entry := by
          rintro rfl
          exact same rfl
        simp [other]

/-- An ordered map keeps entries with distinct keys, and sorts them. -/
theorem toList_putAll_perm [Ord α] [TransOrd α] [LawfulEqOrd α]
    (distinct : (entries.map Prod.fst).Nodup) : (putAll ∅ entries).toList.Perm entries := by
  rw [List.perm_ext_iff_of_nodup (nodup_toList _) (List.Nodup.of_map Prod.fst distinct)]
  intro entry
  rw [TreeMap.mem_toList_iff_getElem?_eq_some, getElem?_putAll,
    ← lastValue_eq_some_iff distinct]
  simp

end Distinct

section Hashed

variable [DecidableEq α] [Hashable α]

/-- `collect` into a hash map. -/
def collectHash (entries : List (α × β)) : HashMap α β :=
  entries.foldl (fun map entry => map.insert entry.1 entry.2) ∅

theorem getElem?_collectHash (entries : List (α × β)) (key : α) :
    (collectHash entries)[key]? = lastValue entries key := by
  induction entries using List.reverseRecOn with
  | nil => simp [collectHash, lastValue]
  | append_singleton earlier entry ih =>
      have last : collectHash (earlier ++ [entry]) =
          (collectHash earlier).insert entry.1 entry.2 := List.foldl_append
      rw [last, HashMap.getElem?_insert, ih, lastValue_concat]
      by_cases same : entry.1 = key
      · rw [if_pos (beq_iff_eq.mpr same), if_pos same]
      · rw [if_neg (fun equal => same (beq_iff_eq.mp equal)), if_neg same]

/-- A hash map keeps entries with distinct keys, in an order of its own. -/
theorem toList_collectHash_perm {entries : List (α × β)}
    (distinct : (entries.map Prod.fst).Nodup) : (collectHash entries).toList.Perm entries := by
  have distinctKeys : (collectHash entries).toList.Nodup := by
    refine List.Nodup.of_map Prod.fst ?_
    rw [HashMap.map_fst_toList_eq_keys]
    exact HashMap.nodup_keys
  rw [List.perm_ext_iff_of_nodup distinctKeys (List.Nodup.of_map Prod.fst distinct)]
  intro entry
  rw [HashMap.mem_toList_iff_getElem?_eq_some, getElem?_collectHash,
    lastValue_eq_some_iff distinct]

end Hashed

end R2kit.Misc
