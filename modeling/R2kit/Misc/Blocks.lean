import Mathlib.Algebra.Order.Floor.Div
import Mathlib.Algebra.BigOperators.Group.List.Basic

/-!
# Cutting into blocks of one size

A total is cut into consecutive blocks of `size`, the last one shorter when `size` does not
divide the total. The lengths add up to the total and the blocks of a list concatenate to
the list, as soon as there are at least `total ⌈/⌉ size` of them.
-/

namespace R2kit.Misc

variable {α : Type}

/-- The length of the block with this index, the first one having index 0. -/
def blockLength (total size index : Nat) : Nat :=
  min (total - index * size) size

/-- The block of a list with this index. -/
def block (size index : Nat) (data : List α) : List α :=
  (data.drop (index * size)).take size

theorem length_block (size index : Nat) (data : List α) :
    (block size index data).length = blockLength data.length size index := by
  simp only [block, blockLength, List.length_take, List.length_drop]
  exact Nat.min_comm _ _

theorem blockLength_le (total size index : Nat) : blockLength total size index ≤ size :=
  Nat.min_le_right _ _

/-- The first `count` blocks hold `count * size`, or everything. -/
theorem sum_blockLength (total size count : Nat) :
    ((List.range count).map (blockLength total size)).sum = min total (count * size) := by
  induction count with
  | zero => simp
  | succ count ih =>
      rw [List.range_succ, List.map_append, List.sum_append, ih, Nat.succ_mul]
      simp only [List.map_cons, List.map_nil, List.sum_cons, List.sum_nil, blockLength]
      omega

/-- The first `count` blocks of a list are its first `count * size` elements. -/
theorem flatMap_block (size count : Nat) (data : List α) :
    (List.range count).flatMap (fun index => block size index data) =
      data.take (count * size) := by
  induction count with
  | zero => simp
  | succ count ih =>
      rw [List.range_succ, List.flatMap_append, ih, Nat.succ_mul, List.take_add]
      simp [block]

section Ceil

variable {total size : Nat} (hsize : 0 < size)
include hsize

theorem le_ceilDiv_mul (total : Nat) : total ≤ (total ⌈/⌉ size) * size := by
  rw [Nat.mul_comm]
  exact le_smul_ceilDiv hsize

/-- A block index is in use exactly when its offset lies in the total. -/
theorem lt_ceilDiv_iff {index : Nat} : index < total ⌈/⌉ size ↔ index * size < total := by
  have bound := ceilDiv_le_iff_le_mul (b := total) (c := index) hsize
  rw [Nat.mul_comm] at bound
  omega

/-- Every block in use is nonempty. -/
theorem blockLength_pos {index : Nat} (used : index < total ⌈/⌉ size) :
    0 < blockLength total size index := by
  have offset := (lt_ceilDiv_iff hsize).mp used
  simp only [blockLength]
  omega

/-- Every block in use but the last has the full size. -/
theorem blockLength_eq_size {index : Nat} (used : index + 1 < total ⌈/⌉ size) :
    blockLength total size index = size := by
  have offset := (lt_ceilDiv_iff hsize).mp used
  rw [Nat.succ_mul] at offset
  simp only [blockLength]
  omega

/-- A position of the total lies in one block, the one its quotient names. -/
theorem mem_block_iff {index offset : Nat} :
    index * size ≤ offset ∧ offset < index * size + blockLength total size index ↔
      offset < total ∧ offset / size = index := by
  constructor
  · intro ⟨above, below⟩
    simp only [blockLength] at below
    refine ⟨by omega, ?_⟩
    apply Nat.div_eq_of_lt_le above
    rw [Nat.succ_mul]
    omega
  · intro ⟨inside, quotient⟩
    subst quotient
    have split := Nat.div_add_mod' offset size
    have rest := Nat.mod_lt offset hsize
    simp only [blockLength]
    omega

/-- The blocks in use hold exactly the total. -/
theorem sum_blockLength_ceilDiv (total : Nat) :
    ((List.range (total ⌈/⌉ size)).map (blockLength total size)).sum = total := by
  rw [sum_blockLength]
  exact Nat.min_eq_left (le_ceilDiv_mul hsize total)

/-- The blocks in use concatenate to the list. -/
theorem flatMap_block_ceilDiv (data : List α) :
    (List.range (data.length ⌈/⌉ size)).flatMap (fun index => block size index data) = data := by
  rw [flatMap_block]
  exact List.take_of_length_le (le_ceilDiv_mul hsize data.length)

end Ceil

end R2kit.Misc
