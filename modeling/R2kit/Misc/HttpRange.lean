import Mathlib.Data.List.Forall2
import Mathlib.Data.List.TakeWhile

/-!
# Byte ranges of HTTP

The value of a `Range` header that asks for one range: how it is written, how it is read, and
what it selects of a content. A value that is not well formed is no range at all, and a server
then answers as if there was none.
-/

namespace R2kit.Misc.HttpRange

/-- From one byte to another one inclusive, from one byte on, or the last bytes. -/
inductive Spec where
  | between (start stop : Nat)
  | onwards (start : Nat)
  | last (length : Nat)
  deriving DecidableEq

namespace Spec

/-- The specification is well formed: it does not end before it starts. -/
def Formed : Spec → Prop
  | between start stop => start ≤ stop
  | onwards _ | last _ => True

instance (spec : Spec) : Decidable spec.Formed := by
  cases spec <;> unfold Formed <;> infer_instance

/-- How a specification is written after the unit. -/
def render : Spec → List Char
  | between start stop => Nat.toDigits 10 start ++ '-' :: Nat.toDigits 10 stop
  | onwards start => Nat.toDigits 10 start ++ ['-']
  | last length => '-' :: Nat.toDigits 10 length

/-- What a range selects, if it can be satisfied. -/
def select {α : Type} : Spec → List α → Option (List α)
  | between start stop, content =>
      if start < content.length then some ((content.drop start).take (stop + 1 - start)) else none
  | onwards start, content =>
      if start < content.length then some (content.drop start) else none
  | last length, content =>
      if length = 0 then none else some (content.drop (content.length - length))

end Spec

/-- A number in decimal digits. -/
def number (chars : List Char) : Option Nat :=
  if chars ≠ [] ∧ chars.all Char.isDigit = true then some (Nat.ofDigitChars 10 chars 0) else none

/-- The texts before and after the first dash. -/
def splitDash (chars : List Char) : Option (List Char × List Char) :=
  match chars.dropWhile (· ≠ '-') with
  | [] => none
  | _ :: rest => some (chars.takeWhile (· ≠ '-'), rest)

/-- What is written after the unit. -/
def readSpec (chars : List Char) : Option Spec :=
  match splitDash chars with
  | none => none
  | some ([], length) => (number length).map .last
  | some (start, []) => (number start).map .onwards
  | some (start, stop) =>
      (number start).bind (fun start => (number stop).bind (fun stop =>
        if start ≤ stop then some (.between start stop) else none))

/-- The unit of byte ranges. -/
def unit : List Char := "bytes=".toList

/-- The range that the value of a header asks for. -/
def read (chars : List Char) : Option Spec :=
  if unit.isPrefixOf chars = true then readSpec (chars.drop unit.length) else none

section RoundTrip

theorem number_toDigits (value : Nat) : number (Nat.toDigits 10 value) = some value := by
  have digits : (Nat.toDigits 10 value).all Char.isDigit = true :=
    List.all_eq_true.mpr (fun _ => Nat.isDigit_of_mem_toDigits (by decide) (by decide))
  rw [number, if_pos ⟨Nat.toDigits_ne_nil, digits⟩, Nat.ofDigitChars_ten_toDigits]

theorem dash_not_digit {value : Nat} {char : Char} (member : char ∈ Nat.toDigits 10 value) :
    decide (char ≠ '-') = true := by
  have digit := Nat.isDigit_of_mem_toDigits (by decide) (by decide) member
  rw [decide_eq_true_eq]
  rintro rfl
  cases digit

theorem splitDash_append {before after : List Char}
    (plain : ∀ char ∈ before, decide (char ≠ '-') = true) :
    splitDash (before ++ '-' :: after) = some (before, after) := by
  rw [splitDash, List.dropWhile_append_of_pos plain, List.takeWhile_append_of_pos plain]
  simp

/-- A range that was written is read again if it is well formed, and is no range otherwise. -/
theorem readSpec_render (spec : Spec) :
    readSpec spec.render = if spec.Formed then some spec else none := by
  cases spec with
  | between start stop =>
      obtain ⟨head, tail, shape⟩ := List.exists_cons_of_ne_nil (@Nat.toDigits_ne_nil start 10)
      obtain ⟨head', tail', shape'⟩ := List.exists_cons_of_ne_nil (@Nat.toDigits_ne_nil stop 10)
      rw [readSpec, Spec.render, splitDash_append (fun _ => dash_not_digit)]
      have one := number_toDigits start
      have other := number_toDigits stop
      rw [shape] at one ⊢
      rw [shape'] at other ⊢
      simp only [one, other, Option.bind_some, Spec.Formed]
  | onwards start =>
      obtain ⟨head, tail, shape⟩ := List.exists_cons_of_ne_nil (@Nat.toDigits_ne_nil start 10)
      rw [readSpec, Spec.render, splitDash_append (fun _ => dash_not_digit)]
      have one := number_toDigits start
      rw [shape] at one ⊢
      have formed : (Spec.onwards start).Formed := trivial
      simp only [one, Option.map_some, if_pos formed]
  | last length =>
      rw [readSpec, Spec.render, ← List.nil_append ('-' :: _), splitDash_append (by simp)]
      have formed : (Spec.last length).Formed := trivial
      simp only [number_toDigits, Option.map_some, if_pos formed]

theorem read_unit (spec : Spec) :
    read (unit ++ spec.render) = if spec.Formed then some spec else none := by
  rw [read, if_pos (List.isPrefixOf_iff_prefix.mpr (List.prefix_append _ _)),
    List.drop_left, readSpec_render]

end RoundTrip

section Selections

variable {α : Type} {content : List α}

/-- The ranges between cuts, from a place on, and the last one to the end. -/
def tiles : Nat → List Nat → List Spec
  | place, [] => [.onwards place]
  | place, cut :: cuts => .between place (cut - 1) :: tiles cut cuts

/-- What ascending ranges select one after the other is the content from their start on. -/
theorem flatten_tiles {place : Nat} {cuts : List Nat} {pieces : List (List α)}
    (ascending : (place :: cuts).Pairwise (· < ·))
    (taken : List.Forall₂ (fun spec piece => spec.select content = some piece)
      (tiles place cuts) pieces) : pieces.flatten = content.drop place := by
  induction cuts generalizing place pieces with
  | nil =>
      cases taken with
      | cons here rest =>
          cases rest
          simp only [Spec.select] at here
          split at here
          · cases here
            rw [List.flatten_singleton]
          · cases here
  | cons cut cuts ih =>
      cases taken with
      | cons here rest =>
          obtain ⟨first, later⟩ := List.pairwise_cons.mp ascending
          have before : place < cut := first cut List.mem_cons_self
          simp only [Spec.select] at here
          split at here
          · cases here
            have length : cut - 1 + 1 - place = cut - place := by omega
            have whole := List.take_append_drop (cut - place) (content.drop place)
            rw [List.drop_drop, Nat.add_sub_cancel' (Nat.le_of_lt before)] at whole
            rw [List.flatten_cons, ih later rest, length, whole]
          · cases here

end Selections

end R2kit.Misc.HttpRange
