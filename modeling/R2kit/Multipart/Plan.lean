import Mathlib.Algebra.Order.BigOperators.Group.List
import Mathlib.Data.List.Perm.Subperm
import R2kit.Types

/-!
# Part numbers and multipart plans

`PartNumber` and `MultipartPlan` of `src/multipart.rs`. A plan carries the facts that
`MultipartPlan::new` checked, so every value of the type is an accepted plan. The plan
cuts the file into the blocks of `R2kit.Misc.Blocks`: part `i` is the block of index
`i - 1`.
-/

namespace R2kit

open Misc

/-- A part number in `1..=10_000`. -/
structure PartNumber where
  get : Nat
  valid : 1 ≤ get ∧ get ≤ maxParts
  deriving DecidableEq

namespace PartNumber

/-- `PartNumber::try_from`. -/
def tryFrom (value : Nat) : Except Error PartNumber :=
  if h : 1 ≤ value ∧ value ≤ maxParts then .ok ⟨value, h⟩
  else .error (.validation (.partNumberOutOfRange value 1 maxParts))

/-- The position of the part in the file, the first one being 0. -/
def index (number : PartNumber) : Nat := number.get - 1

@[ext] theorem ext {first second : PartNumber} (same : first.get = second.get) :
    first = second := by
  cases first
  cases second
  simp_all

theorem tryFrom_get (number : PartNumber) : tryFrom number.get = .ok number := by
  simp [tryFrom, number.valid]

theorem tryFrom_eq_ok_iff {value : Nat} {number : PartNumber} :
    tryFrom value = .ok number ↔ number.get = value := by
  constructor
  · intro accepted
    simp only [tryFrom] at accepted
    split at accepted
    · cases accepted
      rfl
    · cases accepted
  · rintro rfl
    exact tryFrom_get number

theorem index_add_one (number : PartNumber) : number.index + 1 = number.get :=
  Nat.sub_add_cancel number.valid.1

theorem index_inj {first second : PartNumber} (same : first.index = second.index) :
    first = second := by
  apply ext
  rw [← index_add_one, ← index_add_one, same]

theorem first_valid : 1 ≤ 1 ∧ 1 ≤ maxParts := by decide

theorem second_valid : 1 ≤ 2 ∧ 2 ≤ maxParts := by decide

theorem third_valid : 1 ≤ 3 ∧ 3 ≤ maxParts := by decide

/-- The part numbers of a file in three parts. -/
def first : PartNumber := ⟨1, first_valid⟩

/-- The second of them. -/
def second : PartNumber := ⟨2, second_valid⟩

/-- The last of them. -/
def third : PartNumber := ⟨3, third_valid⟩

theorem first_ne_second : first ≠ second := by decide

theorem first_ne_third : first ≠ third := by decide

end PartNumber

/-- An accepted multipart plan. -/
structure MultipartPlan where
  fileSize : Nat
  partSize : Nat
  partCount : Nat
  fileSize_pos : fileSize ≠ 0
  fileSize_le : fileSize ≤ maxMultipartObjectSize
  partSize_valid : minMultipartPartSize ≤ partSize ∧ partSize ≤ maxMultipartPartSize
  count_le : divCeil fileSize partSize ≤ maxParts
  partCount_narrowed : partCount = asU16 (divCeil fileSize partSize)
  deriving DecidableEq

namespace MultipartPlan

/-- `MultipartPlan::new`: the size, the part size and the count are checked in this order. -/
def new (fileSize partSize : Nat) : Except Error MultipartPlan :=
  if hzero : fileSize = 0 then .error (.validation .multipartFileSizeZero)
  else if hlarge : maxMultipartObjectSize < fileSize then
    .error (.validation (.multipartObjectTooLarge fileSize maxMultipartObjectSize))
  else
    match hsize : validatePartSize partSize with
    | .error error => .error error
    | .ok () =>
        if hcount : maxParts < divCeil fileSize partSize then
          .error (.validation (.tooManyParts (divCeil fileSize partSize) maxParts))
        else
          .ok {
            fileSize, partSize
            partCount := asU16 (divCeil fileSize partSize)
            fileSize_pos := hzero
            fileSize_le := Nat.le_of_not_lt hlarge
            partSize_valid := validatePartSize_ok_iff.mp hsize
            count_le := Nat.le_of_not_lt hcount
            partCount_narrowed := rfl }

/-- `part_length`: only the last part may be shorter. -/
def partLength (plan : MultipartPlan) (number : PartNumber) : Except Error Nat :=
  if plan.partCount < number.get then
    .error (.invalidInput "part_number" "exceeds this upload's planned part count")
  else
    let start := u64Mul (number.get - 1) plan.partSize
    .ok (min (u64Sub plan.fileSize start) plan.partSize)

variable (plan : MultipartPlan)

theorem partSize_pos : 0 < plan.partSize := by
  have := plan.partSize_valid.1
  simp only [minMultipartPartSize] at this
  omega

/-- The narrowing of the part count loses nothing. -/
theorem partCount_eq : plan.partCount = plan.fileSize ⌈/⌉ plan.partSize := by
  have bound := plan.count_le
  simp only [maxParts] at bound
  rw [plan.partCount_narrowed, asU16_eq (by omega), divCeil_eq_ceilDiv plan.partSize_pos]

theorem partCount_le : plan.partCount ≤ maxParts := by
  have bound := plan.count_le
  rwa [divCeil_eq_ceilDiv plan.partSize_pos, ← plan.partCount_eq] at bound

theorem partCount_pos : 0 < plan.partCount := by
  rw [plan.partCount_eq, lt_ceilDiv_iff plan.partSize_pos]
  have := plan.fileSize_pos
  omega

theorem index_lt {number : PartNumber} (planned : number.get ≤ plan.partCount) :
    number.index < plan.partCount := by
  have := number.valid
  simp only [PartNumber.index]
  omega

/-- A planned part has the length of its block; no 64-bit operation wraps on the way. -/
theorem partLength_eq {number : PartNumber} (planned : number.get ≤ plan.partCount) :
    plan.partLength number = .ok (blockLength plan.fileSize plan.partSize number.index) := by
  have offset : number.index * plan.partSize < plan.fileSize := by
    rw [← lt_ceilDiv_iff plan.partSize_pos, ← plan.partCount_eq]
    exact plan.index_lt planned
  have size := plan.fileSize_le
  simp only [maxMultipartObjectSize] at size
  simp only [PartNumber.index] at offset
  rw [partLength, if_neg (by omega)]
  simp only [PartNumber.index, blockLength]
  rw [u64Mul_eq (by omega), u64Sub_eq (by omega) (by omega)]

theorem partLength_eq_ok_iff {number : PartNumber} {length : Nat} :
    plan.partLength number = .ok length ↔
      number.get ≤ plan.partCount ∧
        length = blockLength plan.fileSize plan.partSize number.index := by
  constructor
  · intro accepted
    by_cases planned : number.get ≤ plan.partCount
    · rw [plan.partLength_eq planned] at accepted
      cases accepted
      exact ⟨planned, rfl⟩
    · rw [partLength, if_pos (by omega)] at accepted
      cases accepted
  · rintro ⟨planned, rfl⟩
    exact plan.partLength_eq planned

/-- An accepted plan is what `new` returns on its own sizes. -/
theorem new_eq : new plan.fileSize plan.partSize = .ok plan := by
  have size := validatePartSize_ok_iff.mpr plan.partSize_valid
  have large := plan.fileSize_le
  have count := plan.count_le
  unfold new
  rw [dif_neg plan.fileSize_pos, dif_neg (by omega)]
  split
  · rename_i error failed
    rw [size] at failed
    cases failed
  · rw [dif_neg (by omega)]
    congr
    exact plan.partCount_narrowed.symm

theorem new_eq_ok_iff {fileSize partSize : Nat} {plan : MultipartPlan} :
    new fileSize partSize = .ok plan ↔
      plan.fileSize = fileSize ∧ plan.partSize = partSize := by
  constructor
  · intro accepted
    unfold new at accepted
    split at accepted
    · cases accepted
    · split at accepted
      · cases accepted
      · split at accepted
        · cases accepted
        · split at accepted
          · cases accepted
          · cases accepted
            exact ⟨rfl, rfl⟩
  · rintro ⟨rfl, rfl⟩
    exact new_eq plan

/-- The sizes `new` accepts. -/
theorem new_ok_iff {fileSize partSize : Nat} :
    (∃ plan, new fileSize partSize = .ok plan) ↔
      fileSize ≠ 0 ∧ fileSize ≤ maxMultipartObjectSize ∧
        (minMultipartPartSize ≤ partSize ∧ partSize ≤ maxMultipartPartSize) ∧
        fileSize ⌈/⌉ partSize ≤ maxParts := by
  constructor
  · rintro ⟨plan, accepted⟩
    obtain ⟨rfl, rfl⟩ := new_eq_ok_iff.mp accepted
    refine ⟨plan.fileSize_pos, plan.fileSize_le, plan.partSize_valid, ?_⟩
    rw [← plan.partCount_eq]
    exact plan.partCount_le
  · rintro ⟨hzero, hlarge, hsize, hcount⟩
    have hpos : 0 < partSize := by
      have := hsize.1
      simp only [minMultipartPartSize] at this
      omega
    rw [← divCeil_eq_ceilDiv hpos] at hcount
    exact ⟨⟨fileSize, partSize, _, hzero, hlarge, hsize, hcount, rfl⟩,
      new_eq_ok_iff.mpr ⟨rfl, rfl⟩⟩

/-- The planned part numbers `1..=part_count` in order. -/
def numbers : List PartNumber :=
  List.ofFn (fun index : Fin plan.partCount =>
    ⟨index + 1, Nat.le_add_left 1 index, Nat.le_trans index.isLt plan.partCount_le⟩)

theorem length_numbers : plan.numbers.length = plan.partCount := by
  simp [numbers]

theorem map_index_numbers : plan.numbers.map PartNumber.index = List.range plan.partCount := by
  apply List.ext_getElem
  · simp [numbers]
  · intro index _ _
    simp [numbers, PartNumber.index]

theorem map_get_numbers : plan.numbers.map PartNumber.get = List.range' 1 plan.partCount := by
  apply List.ext_getElem
  · simp [numbers]
  · intro index _ _
    simp [numbers, Nat.add_comm]

theorem mem_numbers {number : PartNumber} :
    number ∈ plan.numbers ↔ number.get ≤ plan.partCount := by
  rw [numbers, List.mem_ofFn]
  constructor
  · rintro ⟨index, rfl⟩
    exact index.isLt
  · intro planned
    exact ⟨⟨number.index, plan.index_lt planned⟩, PartNumber.ext number.index_add_one⟩

theorem nodup_numbers : plan.numbers.Nodup := by
  apply List.Nodup.of_map PartNumber.index
  rw [map_index_numbers]
  exact List.nodup_range

/-- The lengths of the planned parts add up to the file size. -/
theorem sum_partLength :
    (plan.numbers.map (fun number =>
      blockLength plan.fileSize plan.partSize number.index)).sum = plan.fileSize := by
  have cut := sum_blockLength_ceilDiv plan.partSize_pos plan.fileSize
  rw [← plan.partCount_eq, ← map_index_numbers, List.map_map] at cut
  exact cut

/-- Some of the planned parts are no longer than the file. -/
theorem sum_partLength_le {numbers : List PartNumber} (distinct : numbers.Nodup)
    (planned : ∀ number ∈ numbers, number.get ≤ plan.partCount) :
    (numbers.map (fun number =>
      blockLength plan.fileSize plan.partSize number.index)).sum ≤ plan.fileSize := by
  have among : numbers ⊆ plan.numbers :=
    fun number member => plan.mem_numbers.mpr (planned number member)
  obtain ⟨some, same, within⟩ := distinct.subperm among
  calc
    _ = (some.map (fun number =>
          blockLength plan.fileSize plan.partSize number.index)).sum := (same.symm.map _).sum_eq
    _ ≤ (plan.numbers.map (fun number =>
          blockLength plan.fileSize plan.partSize number.index)).sum :=
        (within.map _).sum_le_sum (fun length _ => Nat.zero_le length)
    _ = plan.fileSize := plan.sum_partLength

/-- The slices of a file of the planned size concatenate to the file. -/
theorem flatMap_block_numbers {content : List UInt8}
    (hlength : content.length = plan.fileSize) :
    plan.numbers.flatMap (fun number => block plan.partSize number.index content) =
      content := by
  have cut := flatMap_block_ceilDiv plan.partSize_pos content
  rw [hlength, ← plan.partCount_eq, ← map_index_numbers, List.flatMap_map] at cut
  exact cut

end MultipartPlan

end R2kit
