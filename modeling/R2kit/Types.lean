import R2kit.Error
import R2kit.Misc.Blocks

/-!
# Limits and value types

`src/types.rs`: R2's numeric limits, the validators of single values, and the types whose
values are valid by construction. Machine integers are natural numbers; where the source
narrows or saturates, the definition says so.
-/

namespace R2kit

/-- `MAX_KEY_BYTES`. -/
def maxKeyBytes : Nat := 1024

/-- `MIN_BUCKET_NAME_LEN`. -/
def minBucketNameLen : Nat := 3

/-- `MAX_BUCKET_NAME_LEN`. -/
def maxBucketNameLen : Nat := 63

/-- `MIN_MULTIPART_PART_SIZE`: 5 MiB. -/
def minMultipartPartSize : Nat := 5 * 1024 * 1024

/-- `MAX_UPLOAD_SIZE`: 5 MiB below 5 GiB. -/
def maxUploadSize : Nat := 5 * 1024 * 1024 * 1024 - minMultipartPartSize

/-- `MAX_MULTIPART_PART_SIZE`. -/
def maxMultipartPartSize : Nat := maxUploadSize

/-- `MAX_MULTIPART_OBJECT_SIZE`: 5 GiB below 5 TiB. -/
def maxMultipartObjectSize : Nat :=
  5 * 1024 * 1024 * 1024 * 1024 - 5 * 1024 * 1024 * 1024

/-- `MAX_PRESIGN_SECONDS`: a week. -/
def maxPresignSeconds : Nat := 7 * 24 * 60 * 60

/-- `MAX_PARTS`. -/
def maxParts : Nat := 10000

/-- `u64::MAX`. -/
def u64Max : Nat := 2 ^ 64 - 1

/-- The UTF-8 bytes of a string. -/
def bytes (value : String) : List UInt8 :=
  value.toList.flatMap String.utf8EncodeChar

theorem toByteArray_bytes (value : String) :
    (bytes value).toByteArray = value.toByteArray := by
  rw [bytes, ← String.utf8Encode_toList]
  rfl

theorem length_bytes (value : String) : (bytes value).length = value.utf8ByteSize := by
  rw [← String.size_toByteArray, ← toByteArray_bytes, List.size_toByteArray]

theorem bytes_append (first second : String) :
    bytes (first ++ second) = bytes first ++ bytes second := by
  simp [bytes]

theorem bytes_inj {first second : String} (same : bytes first = bytes second) : first = second := by
  rw [← String.toByteArray_inj, ← toByteArray_bytes, ← toByteArray_bytes, same]

/-- A text of one letter. -/
def repeated (length : Nat) : String := String.ofList (List.replicate length 'a')

theorem bytes_repeated (length : Nat) : bytes (repeated length) = List.replicate length 0x61 := by
  have one : String.utf8EncodeChar 'a' = [0x61] := by decide
  rw [bytes, repeated, String.toList_ofList, List.flatMap_replicate, one]
  induction length with
  | zero => rfl
  | succ length ih =>
      rw [List.replicate_succ, List.flatten_cons, ih]
      rfl

theorem utf8ByteSize_repeated (length : Nat) : (repeated length).utf8ByteSize = length := by
  rw [← length_bytes, bytes_repeated, List.length_replicate]

/-- `u64::div_ceil`. -/
def divCeil (value divisor : Nat) : Nat :=
  if value % divisor = 0 then value / divisor else value / divisor + 1

/-- `as u16`. -/
def asU16 (value : Nat) : Nat := value % 2 ^ 16

/-- `u64` multiplication as a release build computes it. -/
def u64Mul (left right : Nat) : Nat := left * right % 2 ^ 64

/-- `u64` subtraction as a release build computes it. -/
def u64Sub (left right : Nat) : Nat := (left + 2 ^ 64 - right) % 2 ^ 64

/-- `usize::MAX` of a 64-bit platform. -/
def usizeMax : Nat := 2 ^ 64 - 1

/-- `usize::try_from(u64)`. -/
def usizeTryFrom (value : Nat) : Option Nat :=
  if value ≤ usizeMax then some value else none

/-- A validity between a second and a week. -/
def validateExpiry (expiresIn : Duration) : Except Error Unit :=
  if expiresIn < Duration.fromSecs 1 ∨ Duration.fromSecs maxPresignSeconds < expiresIn then
    .error (.validation (.presignExpiryOutOfRange expiresIn (Duration.fromSecs 1)
      (Duration.fromSecs maxPresignSeconds)))
  else .ok ()

theorem validateExpiry_ok_iff {expiresIn : Duration} :
    validateExpiry expiresIn = .ok () ↔
      Duration.fromSecs 1 ≤ expiresIn ∧ expiresIn ≤ Duration.fromSecs maxPresignSeconds := by
  unfold validateExpiry
  split
  · rename_i outside
    simp only [reduceCtorEq, false_iff, not_and_or, Nat.not_le]
    exact outside
  · rename_i inside
    simp only [not_or, Nat.not_lt] at inside
    simp only [true_iff]
    exact inside

/-- A part size within R2's limits. -/
def validatePartSize (partSize : Nat) : Except Error Unit :=
  if minMultipartPartSize ≤ partSize ∧ partSize ≤ maxMultipartPartSize then .ok ()
  else
    .error (.validation
      (.partSizeOutOfRange partSize minMultipartPartSize maxMultipartPartSize))

theorem divCeil_eq_ceilDiv {value divisor : Nat} (hdivisor : 0 < divisor) :
    divCeil value divisor = value ⌈/⌉ divisor := by
  have split := Nat.div_add_mod value divisor
  have rest := Nat.mod_lt value hdivisor
  have commute := Nat.mul_comm divisor (value / divisor)
  rw [divCeil, Nat.ceilDiv_eq_add_pred_div]
  by_cases exact : value % divisor = 0
  · have shape : value + divisor - 1 = divisor - 1 + value / divisor * divisor := by omega
    have small : (divisor - 1) / divisor = 0 := Nat.div_eq_of_lt (by omega)
    rw [if_pos exact, shape, Nat.add_mul_div_right _ _ hdivisor, small, Nat.zero_add]
  · have shape : value + divisor - 1 =
        value % divisor - 1 + (value / divisor + 1) * divisor := by
      rw [Nat.succ_mul]
      omega
    have small : (value % divisor - 1) / divisor = 0 := Nat.div_eq_of_lt (by omega)
    rw [if_neg exact, shape, Nat.add_mul_div_right _ _ hdivisor, small, Nat.zero_add]

theorem u64Mul_eq {left right : Nat} (fits : left * right < 2 ^ 64) :
    u64Mul left right = left * right :=
  Nat.mod_eq_of_lt fits

theorem u64Sub_eq {left right : Nat} (ordered : right ≤ left) (fits : left < 2 ^ 64) :
    u64Sub left right = left - right := by
  have shape : left + 2 ^ 64 - right = left - right + 2 ^ 64 := by omega
  rw [u64Sub, shape, Nat.add_mod_right]
  exact Nat.mod_eq_of_lt (by omega)

theorem asU16_eq {value : Nat} (fits : value < 2 ^ 16) : asU16 value = value :=
  Nat.mod_eq_of_lt fits

theorem validatePartSize_ok_iff {partSize : Nat} :
    validatePartSize partSize = .ok () ↔
      minMultipartPartSize ≤ partSize ∧ partSize ≤ maxMultipartPartSize := by
  simp only [validatePartSize]
  split <;> simp_all

/-- An object key: between 1 and 1,024 UTF-8 bytes. -/
structure ObjectKey where
  value : String
  valid : value.utf8ByteSize ≠ 0 ∧ value.utf8ByteSize ≤ maxKeyBytes
  deriving DecidableEq

/-- `ObjectKey::new`. -/
def ObjectKey.new (key : String) : Except Error ObjectKey :=
  if h : key.utf8ByteSize ≠ 0 ∧ key.utf8ByteSize ≤ maxKeyBytes then .ok ⟨key, h⟩
  else .error (.invalidInput "key" "must contain between 1 and 1,024 UTF-8 bytes")

theorem ObjectKey.new_eq_ok_iff {key : String} {valid : ObjectKey} :
    ObjectKey.new key = .ok valid ↔ valid.value = key := by
  constructor
  · intro accepted
    unfold ObjectKey.new at accepted
    split at accepted <;> cases accepted
    rfl
  · rintro rfl
    exact dif_pos valid.valid

/-- A prefix that a key can have. -/
def validatePrefix (value : String) : Except Error Unit :=
  if maxKeyBytes < value.utf8ByteSize then
    .error (.invalidInput "prefix" "must not exceed 1,024 UTF-8 bytes")
  else .ok ()

/-- The bytes a bucket name may use. -/
def bucketNameByte (byte : UInt8) : Bool :=
  (0x61 ≤ byte && byte ≤ 0x7a) || (0x30 ≤ byte && byte ≤ 0x39) || byte == 0x2d

/-- What `validate_bucket_name_str` checks of the characters. -/
def bucketNameChars (name : String) : Bool :=
  (bytes name).all bucketNameByte && name.toList.head? != some '-'
    && name.toList.getLast? != some '-'

/-- A bucket name: 3 to 63 lowercase letters, digits or interior hyphens. -/
structure BucketName where
  value : String
  length_valid : minBucketNameLen ≤ value.utf8ByteSize ∧ value.utf8ByteSize ≤ maxBucketNameLen
  chars_valid : bucketNameChars value = true
  deriving DecidableEq

/-- `BucketName::new`: the length is checked before the characters. -/
def BucketName.new (name : String) : Except Error BucketName :=
  if hlength : minBucketNameLen ≤ name.utf8ByteSize ∧ name.utf8ByteSize ≤ maxBucketNameLen then
    if hchars : bucketNameChars name = true then .ok ⟨name, hlength, hchars⟩
    else
      .error (.invalidInput "bucket"
        "must use lowercase ASCII letters, digits, or interior hyphens")
  else .error (.invalidInput "bucket" "must contain between 3 and 63 bytes")

theorem BucketName.new_eq_ok_iff {name : String} {valid : BucketName} :
    BucketName.new name = .ok valid ↔ valid.value = name := by
  constructor
  · intro accepted
    unfold BucketName.new at accepted
    split at accepted
    · split at accepted <;> cases accepted
      rfl
    · cases accepted
  · rintro rfl
    rw [BucketName.new, dif_pos valid.length_valid, dif_pos valid.chars_valid]

/-- `UploadThreshold::MIN_BYTES`. -/
def UploadThreshold.minBytes : Nat := 5 * 1024 * 1024

/-- `UploadThreshold::DEFAULT_BYTES`. -/
def UploadThreshold.defaultBytes : Nat := 8 * 1024 * 1024

/-- The size that separates a single PUT from a multipart upload. -/
structure UploadThreshold where
  bytes : Nat
  valid : UploadThreshold.minBytes ≤ bytes ∧ bytes ≤ maxMultipartObjectSize
  deriving DecidableEq

namespace UploadThreshold

/-- `UploadThreshold::new`. -/
def new (bytes : Nat) : Except ValidationError UploadThreshold :=
  if h : minBytes ≤ bytes ∧ bytes ≤ maxMultipartObjectSize then .ok ⟨bytes, h⟩
  else .error (.partSizeOutOfRange bytes minBytes maxMultipartObjectSize)

/-- `UploadThreshold::DEFAULT`. -/
def default : UploadThreshold := ⟨defaultBytes, by decide⟩

end UploadThreshold

end R2kit
