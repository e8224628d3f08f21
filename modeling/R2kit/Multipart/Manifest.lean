import R2kit.Misc.KeyedMap
import R2kit.Multipart.Plan

/-!
# Uploaded parts and completion manifests

`UploadedPart`, `MultipartPartReceipt` and `CompletionManifest` of `src/multipart.rs`. The
`BTreeMap` of the source is an ordered map keyed by part number; a manifest carries that
its parts are not empty and ascend strictly.
-/

namespace R2kit

open Misc

instance : Ord PartNumber := ⟨fun first second => compare first.get second.get⟩

theorem PartNumber.compare_eq (first second : PartNumber) :
    compare first second = compare first.get second.get := rfl

instance : Std.TransOrd PartNumber where
  eq_swap {first second} := by
    rw [PartNumber.compare_eq, PartNumber.compare_eq]
    exact Std.OrientedCmp.eq_swap
  isLE_trans {first second third} := by
    rw [PartNumber.compare_eq, PartNumber.compare_eq, PartNumber.compare_eq]
    exact Std.TransCmp.isLE_trans

instance : Std.LawfulEqOrd PartNumber where
  eq_of_compare same := PartNumber.ext (Nat.compare_eq_eq.mp same)

/-- The planned numbers ascend. -/
theorem MultipartPlan.ascending_numbers (plan : MultipartPlan) :
    plan.numbers.Pairwise (fun first second => compare first second = .lt) := by
  have ordered : (plan.numbers.map PartNumber.index).Pairwise (· < ·) := by
    rw [plan.map_index_numbers]
    exact List.pairwise_lt_range
  rw [List.pairwise_map] at ordered
  apply ordered.imp
  intro first second less
  have := first.index_add_one
  have := second.index_add_one
  rw [PartNumber.compare_eq, Nat.compare_eq_lt]
  omega

/-- A part that was uploaded, with the nonempty ETag it got. -/
structure UploadedPart where
  partNumber : PartNumber
  etag : String
  etag_ne : etag ≠ ""
  deriving DecidableEq

/-- `UploadedPart::new`: an ETag must not be empty. -/
def UploadedPart.new (partNumber : PartNumber) (etag : String) : Except Error UploadedPart :=
  if h : etag = "" then .error (.invalidInput "etag" "must not be empty")
  else .ok ⟨partNumber, etag, h⟩

theorem UploadedPart.new_eq_ok_iff {number : PartNumber} {etag : String}
    {part : UploadedPart} :
    UploadedPart.new number etag = .ok part ↔ part.partNumber = number ∧ part.etag = etag := by
  simp only [UploadedPart.new]
  split
  · rename_i empty
    simp only [reduceCtorEq, false_iff, not_and]
    rintro _ rfl
    exact part.etag_ne empty
  · constructor
    · intro accepted
      cases accepted
      exact ⟨rfl, rfl⟩
    · rintro ⟨rfl, rfl⟩
      rfl

/-- What an uploader reports, unchecked. -/
structure MultipartPartReceipt where
  partNumber : Nat
  etag : String
  deriving DecidableEq

/-- The part of a receipt: its number is checked before its ETag. -/
def MultipartPartReceipt.tryIntoUploadedPart (receipt : MultipartPartReceipt) :
    Except Error UploadedPart :=
  match PartNumber.tryFrom receipt.partNumber with
  | .error error => .error error
  | .ok number => UploadedPart.new number receipt.etag

/-- `BTreeMap<PartNumber, UploadedPart>`. -/
abbrev PartMap := Std.TreeMap PartNumber UploadedPart

/-- A manifest: at least one part, ascending strictly by number. -/
structure CompletionManifest where
  parts : List UploadedPart
  nonempty : parts ≠ []
  ascending : parts.Pairwise (fun first second =>
    compare first.partNumber second.partNumber = .lt)
  deriving DecidableEq

namespace CompletionManifest

/-- Makes a manifest from the values of a map, in the map's order. -/
def ofMap (canonical : PartMap) (h : Keyed UploadedPart.partNumber canonical) :
    Except Error CompletionManifest :=
  if hempty : intoValues canonical = [] then
    .error (.invalidInput "parts" "must contain at least one uploaded part")
  else .ok ⟨intoValues canonical, hempty, h.pairwise_intoValues⟩

/-- Parts in ascending order; two of one number are refused. -/
def tryFromParts (parts : List UploadedPart) : Except Error CompletionManifest :=
  match h : insertDistinct UploadedPart.partNumber ∅ parts with
  | none => .error (.invalidInput "parts" "contains a duplicate part number")
  | some canonical =>
      ofMap canonical (by
        obtain ⟨-, -, rfl⟩ := insertDistinct_eq_some_iff.mp h
        exact keyed_empty.insertAll parts)

/-- `try_from_receipts`: all receipts are checked before duplicates are. -/
def tryFromReceipts (receipts : List MultipartPartReceipt) :
    Except Error CompletionManifest :=
  match receipts.mapM MultipartPartReceipt.tryIntoUploadedPart with
  | .error error => .error error
  | .ok parts => tryFromParts parts

@[ext] theorem ext {first second : CompletionManifest} (same : first.parts = second.parts) :
    first = second := by
  cases first
  cases second
  simp_all

/-- A list of parts makes a manifest exactly when its numbers are distinct and it is not
    empty, and the manifest is its ascending permutation. -/
theorem tryFromParts_eq_ok_iff {parts : List UploadedPart} {manifest : CompletionManifest} :
    tryFromParts parts = .ok manifest ↔
      (parts.map UploadedPart.partNumber).Nodup ∧ manifest.parts.Perm parts := by
  constructor
  · intro accepted
    unfold tryFromParts at accepted
    split at accepted
    · cases accepted
    · rename_i canonical collected
      obtain ⟨distinct, -, rfl⟩ := insertDistinct_eq_some_iff.mp collected
      have kept := intoValues_insertAll (m := ∅) parts distinct (by simp)
      unfold ofMap at accepted
      split at accepted
      · cases accepted
      · cases accepted
        rw [intoValues_empty, List.append_nil] at kept
        exact ⟨distinct, kept⟩
  · rintro ⟨distinct, same⟩
    have kept := intoValues_insertAll (m := ∅) parts distinct (by simp)
    have values : intoValues (insertAll UploadedPart.partNumber ∅ parts) = manifest.parts := by
      refine eq_of_perm_of_ascending (keyed_empty.insertAll parts).pairwise_intoValues
        manifest.ascending ?_
      rw [intoValues_empty, List.append_nil] at kept
      exact kept.trans same.symm
    have collected := (insertDistinct_eq_some_iff (m := ∅)).mpr ⟨distinct, by simp, rfl⟩
    unfold tryFromParts
    split
    · rename_i failed
      rw [collected] at failed
      cases failed
    · rename_i canonical found
      rw [collected] at found
      cases found
      rw [ofMap, dif_neg (by rw [values]; exact manifest.nonempty)]
      congr

end CompletionManifest

end R2kit
