import Mathlib.Order.Bounds.Basic
import R2kit.Multipart.Plan

/-!
# A plan tiles the object

What an accepted plan says about the bytes of the file: part `i` stands for the interval that
starts at `(i - 1) * part_size` and has the length `part_length` gives. The intervals of the
planned parts are disjoint and cover the file. A part size is scaled so that a file of any
size that R2 stores has such a plan.
-/

namespace R2kit

open Misc

namespace MultipartPlan

variable (plan : MultipartPlan)

/-- Where the part with this number starts in the file. -/
def start (number : PartNumber) : Nat := (number.get - 1) * plan.partSize

/-- The byte at this offset of the file belongs to the part with this number. -/
def Holds (number : PartNumber) (offset : Nat) : Prop :=
  ∃ length, plan.partLength number = .ok length ∧
    plan.start number ≤ offset ∧ offset < plan.start number + length

/-- What holds of an accepted plan and the sizes it was made from. -/
structure Tiles (fileSize partSize : Nat) : Prop where
  fileSize_eq : plan.fileSize = fileSize
  partSize_eq : plan.partSize = partSize
  /-- The 16-bit part count is the 64-bit quotient. -/
  narrowed : plan.partCount = fileSize ⌈/⌉ partSize
  succeeds : ∀ value, (∃ number length, PartNumber.tryFrom value = .ok number ∧
    plan.partLength number = .ok length) ↔ 1 ≤ value ∧ value ≤ plan.partCount
  /-- Neither the product nor the difference leaves the 64-bit range. -/
  exact : ∀ number length, plan.partLength number = .ok length →
    plan.start number < 2 ^ 64 ∧ plan.start number < fileSize ∧ fileSize < 2 ^ 64 ∧
      length = min (fileSize - plan.start number) partSize
  length_pos : ∀ number length, plan.partLength number = .ok length → 0 < length
  length_le : ∀ number length, plan.partLength number = .ok length → length ≤ partSize
  length_eq : ∀ number length, plan.partLength number = .ok length →
    number.get < plan.partCount → length = partSize
  covers : ∀ offset, offset < fileSize → ∃! number, plan.Holds number offset
  within : ∀ number offset, plan.Holds number offset → offset < fileSize

theorem tryFrom_partLength_iff (value : Nat) :
    (∃ number length, PartNumber.tryFrom value = .ok number ∧
      plan.partLength number = .ok length) ↔ 1 ≤ value ∧ value ≤ plan.partCount := by
  constructor
  · intro ⟨number, length, parsed, accepted⟩
    have planned := (plan.partLength_eq_ok_iff.mp accepted).1
    rw [PartNumber.tryFrom_eq_ok_iff] at parsed
    subst parsed
    exact ⟨number.valid.1, planned⟩
  · intro ⟨positive, planned⟩
    have valid : 1 ≤ value ∧ value ≤ maxParts :=
      ⟨positive, Nat.le_trans planned plan.partCount_le⟩
    refine ⟨⟨value, valid⟩, _, ?_, plan.partLength_eq planned⟩
    rw [PartNumber.tryFrom_eq_ok_iff]

theorem start_lt {number : PartNumber} (planned : number.get ≤ plan.partCount) :
    plan.start number < plan.fileSize := by
  show number.index * plan.partSize < plan.fileSize
  rw [← lt_ceilDiv_iff plan.partSize_pos, ← plan.partCount_eq]
  exact plan.index_lt planned

/-- A byte belongs to the part whose index is the quotient of its offset. -/
theorem holds_iff {number : PartNumber} {offset : Nat} :
    plan.Holds number offset ↔ offset < plan.fileSize ∧ offset / plan.partSize = number.index := by
  rw [← mem_block_iff plan.partSize_pos]
  constructor
  · intro ⟨length, accepted, inside⟩
    obtain ⟨-, rfl⟩ := plan.partLength_eq_ok_iff.mp accepted
    exact inside
  · intro inside
    have planned : number.get ≤ plan.partCount := by
      obtain ⟨_, quotient⟩ := (mem_block_iff plan.partSize_pos).mp inside
      have used : number.index < plan.fileSize ⌈/⌉ plan.partSize := by
        rw [lt_ceilDiv_iff plan.partSize_pos]
        omega
      rw [← plan.partCount_eq] at used
      have := number.index_add_one
      omega
    exact ⟨_, plan.partLength_eq planned, inside⟩

/-- Every byte of the file belongs to one part. -/
theorem existsUnique_holds {offset : Nat} (inside : offset < plan.fileSize) :
    ∃! number, plan.Holds number offset := by
  have used : offset / plan.partSize < plan.partCount := by
    rw [plan.partCount_eq, lt_ceilDiv_iff plan.partSize_pos]
    exact Nat.lt_of_le_of_lt (Nat.div_mul_le_self offset plan.partSize) inside
  have number : ∃ number : PartNumber, number.index = offset / plan.partSize :=
    ⟨⟨offset / plan.partSize + 1, Nat.le_add_left 1 _, Nat.le_trans used plan.partCount_le⟩, rfl⟩
  obtain ⟨number, index⟩ := number
  refine ⟨number, plan.holds_iff.mpr ⟨inside, index.symm⟩, ?_⟩
  intro other holds
  apply PartNumber.index_inj
  rw [index, (plan.holds_iff.mp holds).2]

theorem tiles : plan.Tiles plan.fileSize plan.partSize where
  fileSize_eq := rfl
  partSize_eq := rfl
  narrowed := plan.partCount_eq
  succeeds := plan.tryFrom_partLength_iff
  exact number length accepted := by
    obtain ⟨planned, rfl⟩ := plan.partLength_eq_ok_iff.mp accepted
    have before := plan.start_lt planned
    have stored : plan.fileSize < 2 ^ 64 := Nat.lt_of_le_of_lt plan.fileSize_le (by decide)
    exact ⟨Nat.lt_trans before stored, before, stored, rfl⟩
  length_pos number length accepted := by
    obtain ⟨planned, rfl⟩ := plan.partLength_eq_ok_iff.mp accepted
    apply blockLength_pos plan.partSize_pos
    rw [← plan.partCount_eq]
    exact plan.index_lt planned
  length_le number length accepted := by
    obtain ⟨planned, rfl⟩ := plan.partLength_eq_ok_iff.mp accepted
    exact blockLength_le _ _ _
  length_eq number length accepted inner := by
    obtain ⟨planned, rfl⟩ := plan.partLength_eq_ok_iff.mp accepted
    apply blockLength_eq_size plan.partSize_pos
    rw [← plan.partCount_eq, number.index_add_one]
    exact inner
  covers offset inside := plan.existsUnique_holds inside
  within number offset holds := (plan.holds_iff.mp holds).1

/-- `new` accepts the sizes R2 accepts, and an accepted plan tiles the file. -/
theorem new_tiles (fileSize partSize : Nat) :
    ((∃ plan, new fileSize partSize = .ok plan) ↔
      (1 ≤ fileSize ∧ fileSize ≤ maxMultipartObjectSize) ∧
        (minMultipartPartSize ≤ partSize ∧ partSize ≤ maxMultipartPartSize) ∧
        fileSize ⌈/⌉ partSize ≤ 10000) ∧
      ∀ plan, new fileSize partSize = .ok plan → plan.Tiles fileSize partSize := by
  refine ⟨?_, ?_⟩
  · rw [new_ok_iff, Nat.one_le_iff_ne_zero]
    exact and_assoc.symm
  · intro plan accepted
    obtain ⟨rfl, rfl⟩ := new_eq_ok_iff.mp accepted
    exact plan.tiles

/-- A file of 12 MiB in parts of 5 MiB has three of them, and its last byte is in the third. -/
theorem new_tiles_twelve_mebibytes :
    ∃ plan, new 12582912 5242880 = .ok plan ∧ plan.Tiles 12582912 5242880 ∧
      plan.partCount = 3 := by
  obtain ⟨plan, accepted⟩ := (new_tiles 12582912 5242880).1.mpr (by decide)
  have tiles := (new_tiles 12582912 5242880).2 plan accepted
  exact ⟨plan, accepted, tiles, by rw [tiles.narrowed]; decide⟩

end MultipartPlan

/-- A part size raised as far as the file needs to fit into 10,000 parts. -/
def scaledPartSize (partSize fileSize : Nat) : Nat := max partSize (divCeil fileSize maxParts)

section Scaling

variable {partSize fileSize : Nat} (valid : validatePartSize partSize = .ok ())
include valid

/-- No size from `partSize` on that does is smaller. -/
theorem scaledPartSize_isLeast :
    IsLeast {size | partSize ≤ size ∧ fileSize ⌈/⌉ size ≤ maxParts}
      (scaledPartSize partSize fileSize) := by
  have parts : 0 < maxParts := by decide
  have positive : ∀ size, partSize ≤ size → 0 < size := by
    intro size larger
    have least := (validatePartSize_ok_iff.mp valid).1
    simp only [minMultipartPartSize] at least
    omega
  -- both bounds on the number of parts say that the file is no longer than the product
  have enough : ∀ size, partSize ≤ size →
      (fileSize ⌈/⌉ size ≤ maxParts ↔ divCeil fileSize maxParts ≤ size) := by
    intro size larger
    rw [divCeil_eq_ceilDiv parts, ceilDiv_le_iff_le_mul (positive size larger),
      ceilDiv_le_iff_le_mul parts, Nat.mul_comm]
  have above : partSize ≤ scaledPartSize partSize fileSize := Nat.le_max_left _ _
  refine ⟨⟨above, (enough _ above).mpr (Nat.le_max_right _ _)⟩, ?_⟩
  rintro size ⟨larger, fits⟩
  exact Nat.max_le.mpr ⟨larger, (enough size larger).mp fits⟩

theorem scaledPartSize_valid (storable : fileSize ≤ maxMultipartObjectSize) :
    validatePartSize (scaledPartSize partSize fileSize) = .ok () := by
  have bounds := validatePartSize_ok_iff.mp valid
  have parts : 0 < maxParts := by decide
  have smallest : divCeil fileSize maxParts ≤ maxMultipartPartSize := by
    rw [divCeil_eq_ceilDiv parts, ceilDiv_le_iff_le_mul parts]
    apply Nat.le_trans storable
    decide
  rw [validatePartSize_ok_iff]
  exact ⟨Nat.le_trans bounds.1 (Nat.le_max_left _ _), Nat.max_le.mpr ⟨bounds.2, smallest⟩⟩

/-- A file of any size that R2 stores has a plan with the scaled part size. -/
theorem new_scaledPartSize (positive : fileSize ≠ 0)
    (storable : fileSize ≤ maxMultipartObjectSize) :
    ∃ plan, MultipartPlan.new fileSize (scaledPartSize partSize fileSize) = .ok plan := by
  have sized := scaledPartSize_valid valid storable
  have fits := (@scaledPartSize_isLeast _ fileSize valid).1.2
  exact MultipartPlan.new_ok_iff.mpr
    ⟨positive, storable, validatePartSize_ok_iff.mp sized, fits⟩

end Scaling

end R2kit
