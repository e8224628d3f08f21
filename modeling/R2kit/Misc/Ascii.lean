/-!
# Bytes of ASCII text

In UTF-8 an ASCII character is the one byte with its number, and every other character has a
byte that is not ASCII. So a property that only ASCII bytes have holds of the bytes of a text
exactly when it holds of its characters, and is then a finite check.
-/

namespace R2kit.Misc.Ascii

theorem utf8EncodeChar_eq {char : Char} (ascii : char.toNat < 0x80) :
    String.utf8EncodeChar char = [UInt8.ofNat char.toNat] := by
  have small : char.val.toNat ≤ 0x7f := Nat.le_of_lt_succ ascii
  simp only [String.utf8EncodeChar]
  rw [if_pos small]
  rfl

/-- The last byte of a character that is not ASCII is not ASCII either. -/
theorem exists_mem_utf8EncodeChar {char : Char} (other : 0x80 ≤ char.toNat) :
    ∃ byte ∈ String.utf8EncodeChar char, 0x80 ≤ byte := by
  have large : ¬ char.val.toNat ≤ 0x7f := Nat.not_le.mpr other
  have last : 0x80 ≤ UInt8.ofNat (char.val.toNat % 0x40 + 0x80) := by
    have fits : char.val.toNat % 0x40 + 0x80 < UInt8.size := by
      simp only [UInt8.size]
      omega
    rw [UInt8.le_ofNat_iff fits]
    exact Nat.le_add_left _ _
  refine ⟨_, ?_, last⟩
  simp only [String.utf8EncodeChar]
  rw [if_neg large]
  split
  · simp
  · split <;> simp

/-- A property that only ASCII bytes have, of the bytes of a text. -/
theorem forall_utf8_iff {P : UInt8 → Prop} (ascii : ∀ byte, P byte → byte < 0x80)
    {chars : List Char} :
    (∀ byte ∈ chars.flatMap String.utf8EncodeChar, P byte) ↔
      ∀ char ∈ chars, char.toNat < 0x80 ∧ P (UInt8.ofNat char.toNat) := by
  constructor
  · intro bytes char member
    have own : ∀ byte ∈ String.utf8EncodeChar char, P byte :=
      fun byte among => bytes byte (List.mem_flatMap_of_mem member among)
    by_cases small : char.toNat < 0x80
    · rw [utf8EncodeChar_eq small, List.forall_mem_singleton] at own
      exact ⟨small, own⟩
    · obtain ⟨byte, among, large⟩ := exists_mem_utf8EncodeChar (Nat.not_lt.mp small)
      exact absurd (ascii byte (own byte among)) (UInt8.not_lt.mpr large)
  · intro holds byte member
    obtain ⟨char, among, encoded⟩ := List.mem_flatMap.mp member
    obtain ⟨small, property⟩ := holds char among
    rw [utf8EncodeChar_eq small, List.mem_singleton] at encoded
    rw [encoded]
    exact property

/-- A property of ASCII characters, checked for each of them. -/
theorem forall_char_of_lt {P : Char → Prop} (checked : ∀ number < 0x80, P (Char.ofNat number))
    {char : Char} (ascii : char.toNat < 0x80) : P char := by
  have holds := checked char.toNat ascii
  rwa [Char.ofNat_toNat] at holds

end R2kit.Misc.Ascii
