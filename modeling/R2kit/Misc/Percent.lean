import R2kit.Misc.Ascii

/-!
# Percent encoding

Some bytes are written as a percent sign and two hexadecimal digits, the others as themselves.
If the percent sign and every byte that is not ASCII are among the first, decoding gives the
bytes back, and a character that is escaped does not occur in the encoding.
-/

namespace R2kit.Misc.Percent

/-- The digit of a four-bit value. -/
def digit (value : Nat) : Char := "0123456789ABCDEF".toList.getD value '0'

/-- The value of a digit, in either case. -/
def value (char : Char) : Option Nat :=
  ("0123456789ABCDEF".toList.idxOf? char).or ("0123456789abcdef".toList.idxOf? char)

/-- A byte as a percent sign and two digits. -/
def escape (byte : UInt8) : List Char :=
  ['%', digit (byte.toNat / 16), digit (byte.toNat % 16)]

/-- The bytes with those of a set escaped. -/
def encode (escapes : UInt8 → Bool) (data : List UInt8) : List Char :=
  data.flatMap (fun byte => if escapes byte then escape byte else [Char.ofNat byte.toNat])

/-- The bytes of an escaped text. A percent sign that no two digits follow stands for itself,
    as every other character does. -/
def decode : List Char → List UInt8
  | '%' :: high :: low :: rest =>
      match value high, value low with
      | some high, some low => UInt8.ofNat (high * 16 + low) :: decode rest
      | _, _ => String.utf8EncodeChar '%' ++ decode (high :: low :: rest)
  | char :: rest => String.utf8EncodeChar char ++ decode rest
  | [] => []

theorem value_digit {number : Nat} (four_bits : number < 16) :
    value (digit number) = some number := by
  have checked : ∀ number < 16, value (digit number) = some number := by decide +kernel
  exact checked number four_bits

theorem decode_escape (byte : UInt8) (rest : List Char) :
    decode (escape byte ++ rest) = byte :: decode rest := by
  have high : byte.toNat / 16 < 16 := by
    have := byte.toNat_lt
    omega
  have low : byte.toNat % 16 < 16 := Nat.mod_lt _ (by decide)
  simp only [escape, List.cons_append, List.nil_append, decode, value_digit high,
    value_digit low, Nat.div_add_mod', UInt8.ofNat_toNat]

/-- A character other than the percent sign stands for itself. -/
theorem decode_cons {char : Char} (literal : char ≠ '%') (rest : List Char) :
    decode (char :: rest) = String.utf8EncodeChar char ++ decode rest := by
  rw [decode]
  intro high low later same
  exact absurd same literal

section Literal

variable {byte : UInt8} (ascii : byte < 0x80)

include ascii

theorem toNat_literal : (Char.ofNat byte.toNat).toNat = byte.toNat := by
  have small : byte.toNat < 0x80 := UInt8.lt_iff_toNat_lt.mp ascii
  have valid : byte.toNat.isValidChar := Or.inl (by omega)
  rw [Char.ofNat, dif_pos valid]
  rfl

theorem utf8EncodeChar_literal : String.utf8EncodeChar (Char.ofNat byte.toNat) = [byte] := by
  have small : (Char.ofNat byte.toNat).toNat < 0x80 := by
    rw [toNat_literal ascii]
    exact UInt8.lt_iff_toNat_lt.mp ascii
  rw [Ascii.utf8EncodeChar_eq small, toNat_literal ascii, UInt8.ofNat_toNat]

/-- A byte that is not escaped is written as the character with its number. -/
theorem literal_ne {char : Char} (other : UInt8.ofNat char.toNat ≠ byte) :
    Char.ofNat byte.toNat ≠ char := by
  rintro rfl
  rw [toNat_literal ascii, UInt8.ofNat_toNat] at other
  exact other rfl

end Literal

section Escapes

variable {escapes : UInt8 → Bool}

/-- What was encoded is decoded to itself, whatever follows. -/
theorem decode_encode_append (percent : escapes 0x25 = true)
    (literal : ∀ byte, escapes byte = false → byte < 0x80) (data : List UInt8)
    (rest : List Char) : decode (encode escapes data ++ rest) = data ++ decode rest := by
  induction data with
  | nil => rfl
  | cons byte later ih =>
      rw [encode, List.flatMap_cons, List.append_assoc, ← encode, List.cons_append, ← ih]
      by_cases escaped : escapes byte = true
      · rw [if_pos escaped, decode_escape]
      · rw [Bool.not_eq_true] at escaped
        have ascii := literal byte escaped
        have other : UInt8.ofNat '%'.toNat ≠ byte := by
          rintro rfl
          rw [show UInt8.ofNat '%'.toNat = 0x25 from rfl, percent] at escaped
          cases escaped
        rw [escaped, if_neg (by decide), List.singleton_append,
          decode_cons (literal_ne ascii other), utf8EncodeChar_literal ascii]
        rfl

theorem decode_encode (percent : escapes 0x25 = true)
    (literal : ∀ byte, escapes byte = false → byte < 0x80) (data : List UInt8) :
    decode (encode escapes data) = data := by
  have decoded := decode_encode_append percent literal data []
  rwa [List.append_nil, show decode [] = [] from rfl, List.append_nil] at decoded

theorem digit_mem (number : Nat) : digit number ∈ "0123456789ABCDEF".toList := by
  rw [digit, List.getD_eq_getElem?_getD]
  cases found : "0123456789ABCDEF".toList[number]? with
  | none => decide
  | some char => exact List.mem_of_getElem? found

/-- An escaped character does not occur in the encoding, unless escaping writes it. -/
theorem not_mem_encode {char : Char} (literal : ∀ byte, escapes byte = false → byte < 0x80)
    (escaped : escapes (UInt8.ofNat char.toNat) = true) (percent : char ≠ '%')
    (no_digit : char ∉ "0123456789ABCDEF".toList) (data : List UInt8) :
    char ∉ encode escapes data := by
  rw [encode, List.mem_flatMap, not_exists]
  intro byte member
  obtain ⟨-, written⟩ := member
  by_cases own : escapes byte = true
  · rw [if_pos own, escape] at written
    rcases List.mem_cons.mp written with same | written
    · exact percent same
    · rcases List.mem_cons.mp written with same | written
      · exact no_digit (same ▸ digit_mem _)
      · exact no_digit (List.mem_singleton.mp written ▸ digit_mem _)
  · rw [if_neg own, List.mem_singleton] at written
    rw [Bool.not_eq_true] at own
    have other : UInt8.ofNat char.toNat ≠ byte := by
      rintro rfl
      rw [own] at escaped
      cases escaped
    exact literal_ne (literal byte own) other written.symm

end Escapes

end R2kit.Misc.Percent
