/-!
# Base64

The standard padded encoding of RFC 4648. The decoder accepts canonical text only: full
groups, padding where it belongs and nowhere else, and no stray bits under the padding.
-/

namespace R2kit.Misc.Base64

/-- The digits of the standard alphabet. -/
def alphabet : List Char :=
  "ABCDEFGHIJKLMNOPQRSTUVWXYZabcdefghijklmnopqrstuvwxyz0123456789+/".toList

/-- The character of a six-bit value. -/
def digit (value : Nat) : Char := alphabet.getD value 'A'

/-- The six-bit value of a character. -/
def value (char : Char) : Option Nat := alphabet.idxOf? char

/-- The encoding as a list of characters, three bytes at a time. -/
def encodeChars : List UInt8 → List Char
  | [] => []
  | [a] => [digit (a.toNat / 4), digit (a.toNat % 4 * 16), '=', '=']
  | [a, b] =>
      [digit (a.toNat / 4), digit (a.toNat % 4 * 16 + b.toNat / 16),
        digit (b.toNat % 16 * 4), '=']
  | a :: b :: c :: rest =>
      digit (a.toNat / 4) :: digit (a.toNat % 4 * 16 + b.toNat / 16) ::
        digit (b.toNat % 16 * 4 + c.toNat / 64) :: digit (c.toNat % 64) :: encodeChars rest

/-- The standard encoding, with padding. -/
def encode (data : List UInt8) : String := String.ofList (encodeChars data)

/-- The last group: one to three bytes, the padding exactly where bytes are missing. -/
def decodeLast (first second : Nat) (third fourth : Char) : Option (List UInt8) :=
  if fourth = '=' then
    if third = '=' then
      if second % 16 = 0 then some [UInt8.ofNat (first * 4 + second / 16)] else none
    else
      match value third with
      | none => none
      | some third =>
          if third % 4 = 0 then
            some [UInt8.ofNat (first * 4 + second / 16),
              UInt8.ofNat (second % 16 * 16 + third / 4)]
          else none
  else
    match value third, value fourth with
    | some third, some fourth =>
        some [UInt8.ofNat (first * 4 + second / 16), UInt8.ofNat (second % 16 * 16 + third / 4),
          UInt8.ofNat (third % 4 * 64 + fourth)]
    | _, _ => none

/-- The decoding of a list of characters, four at a time. -/
def decodeChars : List Char → Option (List UInt8)
  | [] => some []
  | a :: b :: c :: d :: rest =>
      match value a, value b with
      | some first, some second =>
          if rest = [] then decodeLast first second c d
          else if c = '=' ∨ d = '=' then none
          else
            match decodeLast first second c d, decodeChars rest with
            | some group, some later => some (group ++ later)
            | _, _ => none
      | _, _ => none
  | _ => none

/-- The bytes of a canonical encoding. -/
def decode (text : String) : Option (List UInt8) := decodeChars text.toList

theorem value_digit {number : Nat} (six_bits : number < 64) :
    value (digit number) = some number := by
  have checked : ∀ number < 64, value (digit number) = some number := by decide +kernel
  exact checked number six_bits

theorem digit_ne_padding {number : Nat} (six_bits : number < 64) : digit number ≠ '=' := by
  have checked : ∀ number < 64, digit number ≠ '=' := by decide +kernel
  exact checked number six_bits

/-- Reading a byte from its two halves, however they are cut. -/
theorem ofNat_halves (byte : UInt8) (unit : Nat) :
    UInt8.ofNat (byte.toNat / unit * unit + byte.toNat % unit) = byte := by
  rw [Nat.div_add_mod', UInt8.ofNat_toNat]

theorem encodeChars_eq_nil_iff {data : List UInt8} : encodeChars data = [] ↔ data = [] := by
  cases data using encodeChars.fun_cases <;> simp [encodeChars]

section Group

variable (a b c : UInt8)

theorem first_lt : a.toNat / 4 < 64 := by
  have := a.toNat_lt
  omega

theorem second_lt : a.toNat % 4 * 16 + b.toNat / 16 < 64 := by
  have := b.toNat_lt
  omega

theorem third_lt : b.toNat % 16 * 4 + c.toNat / 64 < 64 := by
  have := c.toNat_lt
  omega

theorem fourth_lt : c.toNat % 64 < 64 := Nat.mod_lt _ (by decide)

theorem decodeLast_one :
    decodeLast (a.toNat / 4) (a.toNat % 4 * 16) '=' '=' = some [a] := by
  have low : a.toNat % 4 * 16 / 16 = a.toNat % 4 := Nat.mul_div_cancel _ (by decide)
  have stray : a.toNat % 4 * 16 % 16 = 0 := Nat.mul_mod_left _ _
  rw [decodeLast, if_pos rfl, if_pos rfl, if_pos stray, low, ofNat_halves]

theorem decodeLast_two :
    decodeLast (a.toNat / 4) (a.toNat % 4 * 16 + b.toNat / 16) (digit (b.toNat % 16 * 4)) '=' =
      some [a, b] := by
  have := b.toNat_lt
  have low : (a.toNat % 4 * 16 + b.toNat / 16) / 16 = a.toNat % 4 := by omega
  have rest : (a.toNat % 4 * 16 + b.toNat / 16) % 16 = b.toNat / 16 := by omega
  have last : b.toNat % 16 * 4 / 4 = b.toNat % 16 := Nat.mul_div_cancel _ (by decide)
  have stray : b.toNat % 16 * 4 % 4 = 0 := Nat.mul_mod_left _ _
  have six_bits : b.toNat % 16 * 4 < 64 := by omega
  simp only [decodeLast, value_digit six_bits, digit_ne_padding six_bits, stray, low, rest, last,
    if_true, if_false, ofNat_halves]

theorem decodeLast_three :
    decodeLast (a.toNat / 4) (a.toNat % 4 * 16 + b.toNat / 16)
      (digit (b.toNat % 16 * 4 + c.toNat / 64)) (digit (c.toNat % 64)) = some [a, b, c] := by
  have := b.toNat_lt
  have := c.toNat_lt
  have low : (a.toNat % 4 * 16 + b.toNat / 16) / 16 = a.toNat % 4 := by omega
  have rest : (a.toNat % 4 * 16 + b.toNat / 16) % 16 = b.toNat / 16 := by omega
  have last : (b.toNat % 16 * 4 + c.toNat / 64) / 4 = b.toNat % 16 := by omega
  have top : (b.toNat % 16 * 4 + c.toNat / 64) % 4 = c.toNat / 64 := by omega
  simp only [decodeLast, value_digit (third_lt b c), value_digit (fourth_lt c),
    digit_ne_padding (fourth_lt c), low, rest, last, top, if_false, ofNat_halves]

end Group

/-- What was encoded is decoded to itself. -/
theorem decodeChars_encodeChars (data : List UInt8) :
    decodeChars (encodeChars data) = some data := by
  induction data using encodeChars.induct with
  | case1 => rfl
  | case2 a =>
      have second : a.toNat % 4 * 16 < 64 := second_lt a 0
      simp only [encodeChars, decodeChars, value_digit (first_lt a), value_digit second,
        decodeLast_one, if_true]
  | case3 a b =>
      simp only [encodeChars, decodeChars, value_digit (first_lt a),
        value_digit (second_lt a b), decodeLast_two, if_true]
  | case4 a b c rest ih =>
      rw [encodeChars, decodeChars, value_digit (first_lt a), value_digit (second_lt a b)]
      by_cases last : rest = []
      · simp only [last, encodeChars, decodeLast_three, if_true]
      · simp only [encodeChars_eq_nil_iff, last, digit_ne_padding (third_lt b c),
          digit_ne_padding (fourth_lt c), decodeLast_three, ih, or_self, if_false,
          List.cons_append, List.nil_append]

theorem decode_encode (data : List UInt8) : decode (encode data) = some data := by
  rw [decode, encode, String.toList_ofList, decodeChars_encodeChars]

/-- No two sequences of bytes have the same encoding. -/
theorem encode_inj {first second : List UInt8} (same : encode first = encode second) :
    first = second := by
  have decoded := decode_encode first
  rw [same, decode_encode] at decoded
  exact (Option.some.inj decoded).symm

example : encode [77, 97] = "TWE=" := by decide

example : decode "TWE=" = some [77, 97] ∧ decode "TWF=" = none := by decide

end R2kit.Misc.Base64
