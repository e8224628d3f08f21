import Mathlib.Data.List.Nodup

/-!
# A place whose value is replaced

What is at a place is replaced, or taken away, by somebody else; each new value has a print that
none before it had. An observer that marks the place, and later finds the print of what was
there then, knows that there has been nothing else in between.
-/

namespace R2kit.Misc

/-- A place: what is there now, everything that has been there, and what has been there since
    the place was marked. -/
structure Versions (V : Type) where
  now : Option V
  past : List V
  since : List V

namespace Versions

variable {V F : Type}

/-- What is there now is all there was. -/
def start (now : Option V) : Versions V where
  now := now
  past := now.toList
  since := now.toList

/-- Nothing, or something new, comes to the place. -/
def change [DecidableEq F] (print : V → F) (versions : Versions V) : Option V → Option (Versions V)
  | none => some { versions with now := none }
  | some version =>
      if print version ∈ versions.past.map print then none
      else some ⟨some version, versions.past ++ [version], versions.since ++ [version]⟩

/-- From here on the versions are counted again. -/
def mark (versions : Versions V) : Versions V :=
  { versions with since := versions.now.toList }

/-- What was there when the place was marked. -/
def marked (versions : Versions V) : Option V := versions.since.head?

/-- Every value has had its own print, and what is there now came last. -/
structure Sound (print : V → F) (versions : Versions V) : Prop where
  fresh : (versions.past.map print).Nodup
  last : ∀ version, versions.now = some version → versions.past.getLast? = some version
  since : versions.since <:+ versions.past

variable {print : V → F} {versions next : Versions V}

theorem sound_start (now : Option V) : Sound print (start now) := by
  cases now with
  | none => exact ⟨List.nodup_nil, (fun _ other => nomatch other), List.suffix_rfl⟩
  | some version =>
      exact ⟨List.nodup_singleton _, fun _ same => same, List.suffix_rfl⟩

section Change

variable [DecidableEq F]

theorem Sound.change {version : Option V} (sound : Sound print versions)
    (changed : versions.change print version = some next) : Sound print next := by
  cases version with
  | none =>
      cases changed
      exact ⟨sound.fresh, (fun _ other => nomatch other), sound.since⟩
  | some version =>
      simp only [Versions.change] at changed
      split at changed
      · cases changed
      · rename_i new
        cases changed
        refine ⟨?_, ?_, ?_⟩
        · rw [List.map_append, List.nodup_append]
          refine ⟨sound.fresh, List.nodup_singleton _, ?_⟩
          rintro earlier member _ last rfl
          exact new (List.mem_singleton.mp last ▸ member)
        · rintro _ ⟨⟩
          exact List.getLast?_concat
        · obtain ⟨before, whole⟩ := sound.since
          exact ⟨before, by rw [← List.append_assoc, whole]⟩

/-- What has been there since the mark only becomes more. -/
theorem since_prefix {version : Option V} (changed : versions.change print version = some next) :
    versions.since <+: next.since := by
  cases version with
  | none =>
      cases changed
      exact List.prefix_rfl
  | some version =>
      simp only [Versions.change] at changed
      split at changed
      · cases changed
      · cases changed
        exact List.prefix_append _ _

theorem marked_change {version : Option V} {base : V}
    (changed : versions.change print version = some next)
    (marked : versions.marked = some base) : next.marked = some base := by
  obtain ⟨more, whole⟩ := since_prefix changed
  rw [Versions.marked] at marked ⊢
  rw [← whole]
  cases since : versions.since with
  | nil => simp [since] at marked
  | cons first rest => simpa [since] using marked

end Change

theorem Sound.mark (sound : Sound print versions) : Sound print versions.mark := by
  refine ⟨sound.fresh, sound.last, ?_⟩
  cases now : versions.now with
  | none => simp [Versions.mark, now]
  | some version =>
      have last := sound.last version now
      obtain ⟨before, whole⟩ := List.getLast?_eq_some_iff.mp last
      exact ⟨before, by simp [Versions.mark, now, whole]⟩

@[simp] theorem marked_mark (versions : Versions V) : versions.mark.marked = versions.now := by
  cases now : versions.now <;> simp [mark, marked, now]

/-- The print of what was marked is only found if it is all there has been since. -/
theorem Sound.unchanged {version base : V} (sound : Sound print versions)
    (now : versions.now = some version) (marked : versions.marked = some base)
    (same : print version = print base) : versions.since = [base] := by
  obtain ⟨before, whole⟩ := sound.since
  obtain ⟨rest, since⟩ := List.head?_eq_some_iff.mp marked
  rw [since] at whole ⊢
  have last := sound.last version now
  have fresh := sound.fresh
  rw [← whole] at last fresh
  by_cases none_later : rest = []
  · rw [none_later]
  · obtain ⟨middle, final, rfl⟩ := (List.eq_nil_or_concat rest).resolve_left none_later
    have at_end : before ++ base :: middle.concat final =
        (before ++ base :: middle) ++ [final] := by simp
    rw [at_end, List.getLast?_concat, Option.some.injEq] at last
    rw [at_end, List.map_append, List.nodup_append] at fresh
    have earlier : print base ∈ (before ++ base :: middle).map print :=
      List.mem_map_of_mem (List.mem_append_right _ List.mem_cons_self)
    have later : print base ∈ [final].map print := by
      rw [← same, ← last]
      exact List.mem_singleton_self _
    exact absurd rfl (fresh.2.2 _ earlier _ later)

end Versions

end R2kit.Misc
