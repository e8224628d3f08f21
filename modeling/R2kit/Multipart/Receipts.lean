import Mathlib.Data.Set.List
import R2kit.Multipart.Session

/-!
# Manifests from receipts

`CompletionManifest::try_from_receipts` of `src/multipart.rs`. A manifest is determined by the
set of its receipts: the order in which they were reported does not matter, and whether it
completes a plan depends on their numbers alone.
-/

namespace R2kit

open Misc

/-- What an uploader reports of an uploaded part. -/
def UploadedPart.receipt (part : UploadedPart) : MultipartPartReceipt :=
  ⟨part.partNumber.get, part.etag⟩

/-- A receipt that can become a part. -/
structure MultipartPartReceipt.Valid (receipt : MultipartPartReceipt) : Prop where
  number : 1 ≤ receipt.partNumber ∧ receipt.partNumber ≤ 10000
  etag : receipt.etag ≠ ""

namespace UploadedPart

theorem receipt_inj {first second : UploadedPart} (same : first.receipt = second.receipt) :
    first = second := by
  obtain ⟨number, etag, nonempty⟩ := first
  obtain ⟨number', etag', nonempty'⟩ := second
  simp only [receipt, MultipartPartReceipt.mk.injEq] at same
  obtain rfl := PartNumber.ext same.1
  obtain rfl := same.2
  rfl

theorem receipt_valid (part : UploadedPart) : part.receipt.Valid :=
  ⟨part.partNumber.valid, part.etag_ne⟩

end UploadedPart

section Receipts

variable {receipts others : List MultipartPartReceipt} {parts : List UploadedPart}
  {manifest : CompletionManifest}

/-- A receipt becomes the part that it is the receipt of. -/
theorem tryIntoUploadedPart_eq_ok_iff {receipt : MultipartPartReceipt} {part : UploadedPart} :
    receipt.tryIntoUploadedPart = .ok part ↔ part.receipt = receipt := by
  obtain ⟨value, etag⟩ := receipt
  simp only [MultipartPartReceipt.tryIntoUploadedPart, UploadedPart.receipt,
    MultipartPartReceipt.mk.injEq]
  rw [← PartNumber.tryFrom_eq_ok_iff]
  cases parsed : PartNumber.tryFrom value with
  | error error => simp
  | ok number =>
      simp only [Except.ok.injEq]
      rw [UploadedPart.new_eq_ok_iff]
      exact and_congr_left (fun _ => eq_comm)

/-- All receipts become parts, or none does. -/
theorem mapM_receipts_eq_ok_iff :
    receipts.mapM MultipartPartReceipt.tryIntoUploadedPart = .ok parts ↔
      parts.map UploadedPart.receipt = receipts := by
  induction receipts generalizing parts with
  | nil => simp [pure, Except.pure, eq_comm]
  | cons receipt rest ih =>
      simp only [List.mapM_cons, bind_eq_ok_iff, tryIntoUploadedPart_eq_ok_iff, ih]
      constructor
      · rintro ⟨part, rfl, later, rfl, whole⟩
        cases whole
        rfl
      · intro whole
        obtain ⟨part, later, rfl, first, rest⟩ := List.map_eq_cons_iff.mp whole
        exact ⟨part, first, later, rest, rfl⟩

theorem exists_parts_iff :
    (∃ parts : List UploadedPart, parts.map UploadedPart.receipt = receipts) ↔
      ∀ receipt ∈ receipts, receipt.Valid := by
  constructor
  · rintro ⟨parts, rfl⟩
    rw [List.forall_mem_map]
    exact fun part _ => part.receipt_valid
  · intro valid
    have covered : receipts ∈ Set.range (List.map UploadedPart.receipt) := by
      rw [Set.range_list_map]
      intro receipt member
      obtain ⟨number, etag⟩ := valid receipt member
      exact ⟨⟨⟨receipt.partNumber, number⟩, receipt.etag, etag⟩, rfl⟩
    exact covered

/-- The numbers of the receipts are those of the parts. -/
theorem numbers_receipts (parts : List UploadedPart) :
    (parts.map UploadedPart.receipt).map MultipartPartReceipt.partNumber =
      (parts.map UploadedPart.partNumber).map PartNumber.get := by
  rw [List.map_map, List.map_map]
  rfl

theorem nodup_receipts :
    ((parts.map UploadedPart.receipt).map MultipartPartReceipt.partNumber).Nodup ↔
      (parts.map UploadedPart.partNumber).Nodup := by
  rw [numbers_receipts, List.nodup_map_iff (fun _ _ => PartNumber.ext)]

/-- Parts with distinct numbers have an ascending permutation. -/
theorem exists_manifest (some_parts : parts ≠ [])
    (distinct : (parts.map UploadedPart.partNumber).Nodup) :
    ∃ manifest : CompletionManifest, manifest.parts.Perm parts := by
  have kept := intoValues_insertAll (m := ∅) parts distinct (by simp)
  rw [intoValues_empty, List.append_nil] at kept
  have nonempty : intoValues (insertAll UploadedPart.partNumber ∅ parts) ≠ [] := by
    intro empty
    rw [empty] at kept
    exact some_parts kept.symm.eq_nil
  exact ⟨⟨_, nonempty, (keyed_empty.insertAll parts).pairwise_intoValues⟩, kept⟩

/-- A manifest of these receipts is an ascending permutation of them, and there is one as soon
    as the numbers are distinct. -/
theorem tryFromReceipts_eq_ok_iff :
    CompletionManifest.tryFromReceipts receipts = .ok manifest ↔
      (receipts.map MultipartPartReceipt.partNumber).Nodup ∧
        (manifest.parts.map UploadedPart.receipt).Perm receipts := by
  constructor
  · intro accepted
    unfold CompletionManifest.tryFromReceipts at accepted
    split at accepted
    · cases accepted
    · rename_i parts made
      obtain rfl := mapM_receipts_eq_ok_iff.mp made
      obtain ⟨distinct, same⟩ := CompletionManifest.tryFromParts_eq_ok_iff.mp accepted
      exact ⟨nodup_receipts.mpr distinct, same.map _⟩
  · rintro ⟨distinct, same⟩
    obtain ⟨parts, rfl⟩ : ∃ parts : List UploadedPart,
        parts.map UploadedPart.receipt = receipts := by
      rw [exists_parts_iff]
      intro receipt member
      obtain ⟨part, -, rfl⟩ := List.mem_map.mp (same.mem_iff.mpr member)
      exact part.receipt_valid
    rw [CompletionManifest.tryFromReceipts, mapM_receipts_eq_ok_iff.mpr rfl]
    apply CompletionManifest.tryFromParts_eq_ok_iff.mpr
    refine ⟨nodup_receipts.mp distinct, ?_⟩
    exact (List.map_perm_map_iff (fun _ _ => UploadedPart.receipt_inj)).mp same

/-- The numbers of a manifest ascend. -/
theorem CompletionManifest.ascending_receipts (manifest : CompletionManifest) :
    (manifest.parts.map UploadedPart.receipt).Pairwise
      (fun first second => first.partNumber < second.partNumber) := by
  rw [List.pairwise_map]
  apply manifest.ascending.imp
  intro first second less
  exact Nat.compare_eq_lt.mp less

/-- The check of `complete` looks at the set of the numbers only. -/
theorem completes_iff {session : PresignedMultipart} :
    (∃ request, session.completeRequest manifest = .ok request) ↔
      ∀ value, value ∈ (manifest.parts.map UploadedPart.receipt).map
        MultipartPartReceipt.partNumber ↔ 1 ≤ value ∧ value ≤ session.plan.partCount := by
  have planned : ∀ value, value ∈ session.plan.numbers.map PartNumber.get ↔
      1 ≤ value ∧ value ≤ session.plan.partCount := by
    intro value
    rw [session.plan.map_get_numbers, List.mem_range'_1]
    omega
  simp only [PresignedMultipart.completeRequest_eq_ok_iff, exists_and_left, exists_eq, and_true]
  rw [numbers_receipts]
  simp only [← planned]
  constructor
  · intro same value
    rw [same]
  · intro same
    apply List.map_injective_iff.mpr (fun _ _ => PartNumber.ext)
    -- two ascending lists with the same members
    apply List.Pairwise.eq_of_mem_iff (r := (· < ·)) ?_ ?_ (fun value => same value)
    · rw [← numbers_receipts, List.pairwise_map]
      exact manifest.ascending_receipts
    · rw [session.plan.map_get_numbers]
      exact List.pairwise_lt_range'

end Receipts

/-- The manifest of some receipts: it is there exactly when they are valid and distinct, it is
    their ascending permutation and that of every other order of them, and it completes the
    plans that have just these parts. -/
theorem receipts_canonical (receipts : List MultipartPartReceipt) :
    ((∃ manifest, CompletionManifest.tryFromReceipts receipts = .ok manifest) ↔
      receipts ≠ [] ∧ (∀ receipt ∈ receipts, receipt.Valid) ∧
        (receipts.map MultipartPartReceipt.partNumber).Nodup) ∧
    (∀ manifest, CompletionManifest.tryFromReceipts receipts = .ok manifest →
      (manifest.parts.map UploadedPart.receipt).Perm receipts ∧
        (manifest.parts.map UploadedPart.receipt).Pairwise
          (fun first second => first.partNumber < second.partNumber) ∧
        ∀ session : PresignedMultipart,
          (∃ request, session.completeRequest manifest = .ok request) ↔
            ∀ value, value ∈ receipts.map MultipartPartReceipt.partNumber ↔
              1 ≤ value ∧ value ≤ session.plan.partCount) ∧
    ∀ others manifest, others.Perm receipts →
      (CompletionManifest.tryFromReceipts others = .ok manifest ↔
        CompletionManifest.tryFromReceipts receipts = .ok manifest) := by
  refine ⟨?_, ?_, ?_⟩
  · constructor
    · rintro ⟨manifest, accepted⟩
      obtain ⟨distinct, same⟩ := tryFromReceipts_eq_ok_iff.mp accepted
      refine ⟨?_, ?_, distinct⟩
      · rintro rfl
        exact manifest.nonempty (List.map_eq_nil_iff.mp same.eq_nil)
      · intro receipt member
        obtain ⟨part, -, rfl⟩ := List.mem_map.mp (same.mem_iff.mpr member)
        exact part.receipt_valid
    · rintro ⟨nonempty, valid, distinct⟩
      obtain ⟨parts, rfl⟩ := exists_parts_iff.mpr valid
      have some_parts : parts ≠ [] := fun empty => nonempty (List.map_eq_nil_iff.mpr empty)
      obtain ⟨manifest, same⟩ := exists_manifest some_parts (nodup_receipts.mp distinct)
      exact ⟨manifest, tryFromReceipts_eq_ok_iff.mpr ⟨distinct, same.map _⟩⟩
  · intro manifest accepted
    obtain ⟨-, same⟩ := tryFromReceipts_eq_ok_iff.mp accepted
    refine ⟨same, manifest.ascending_receipts, ?_⟩
    intro session
    rw [completes_iff]
    simp only [(same.map MultipartPartReceipt.partNumber).mem_iff]
  · intro others manifest same
    rw [tryFromReceipts_eq_ok_iff, tryFromReceipts_eq_ok_iff,
      (same.map MultipartPartReceipt.partNumber).nodup_iff]
    exact and_congr_right (fun _ => ⟨fun found => found.trans same,
      fun found => found.trans same.symm⟩)

end R2kit
