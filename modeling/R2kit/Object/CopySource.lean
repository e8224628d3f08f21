import Mathlib.Data.List.TakeWhile
import R2kit.Misc.Percent
import R2kit.Object.Requests

/-!
# The copy source

`CopyObjectBuilder::send` names the object it copies in one header: the bucket, a slash, and
the key with some of its bytes escaped. A service splits the value at the first slash and
decodes the rest, and some read a plus sign as a space or end the key at a question mark.
-/

namespace R2kit

open Misc

/-- The value of `x-amz-copy-source`. -/
def copySource (bucket : BucketName) (key : ObjectKey) : String :=
  bucket.value ++ "/" ++ percentEncode key.value

/-- UTF-8 decoding. -/
def fromUtf8 (data : List UInt8) : Option String := String.fromUTF8? data.toByteArray

/-- How a service reads the part after the slash before it decodes it. -/
structure SourceReader where
  plusAsSpace : Bool
  cutsQuery : Bool

namespace SourceReader

/-- What a reader leaves of the query. -/
def cut (reader : SourceReader) (chars : List Char) : List Char :=
  if reader.cutsQuery then chars.takeWhile (· ≠ '?') else chars

/-- What a reader makes of pluses. -/
def unplus (reader : SourceReader) (chars : List Char) : List Char :=
  if reader.plusAsSpace then chars.map (fun char => if char = '+' then ' ' else char) else chars

/-- The bucket and the key a service reads in a copy source. -/
def read (reader : SourceReader) (value : String) : Option (String × String) :=
  match value.toList.dropWhile (· ≠ '/') with
  | [] => none
  | _ :: rest =>
      (fromUtf8 (Percent.decode (reader.unplus (reader.cut rest)))).map
        (fun key => (String.ofList (value.toList.takeWhile (· ≠ '/')), key))

end SourceReader

theorem fromUtf8_bytes (value : String) : fromUtf8 (bytes value) = some value := by
  rw [fromUtf8, toByteArray_bytes, String.fromUTF8?, dif_pos value.isValidUTF8]
  rfl

theorem percentEncode_eq (text : String) :
    percentEncode text = String.ofList (Percent.encode copySourceEncodes (bytes text)) := rfl

/-- Only ASCII bytes are left as they are. -/
theorem ascii_of_not_copySourceEncodes {byte : UInt8}
    (literal : copySourceEncodes byte = false) : byte < 0x80 := by
  simp only [copySourceEncodes, Bool.or_eq_false_iff, decide_eq_false_iff_not] at literal
  exact UInt8.lt_trans (UInt8.not_le.mp literal.1.2) (by decide)

theorem decode_encode_key (key : String) :
    fromUtf8 (Percent.decode (Percent.encode copySourceEncodes (bytes key))) = some key := by
  rw [Percent.decode_encode (by decide) (fun _ => ascii_of_not_copySourceEncodes),
    fromUtf8_bytes]

theorem plus_not_mem (key : String) :
    '+' ∉ Percent.encode copySourceEncodes (bytes key) :=
  Percent.not_mem_encode (fun _ => ascii_of_not_copySourceEncodes) (by decide) (by decide)
    (by decide) _

theorem query_not_mem (key : String) :
    '?' ∉ Percent.encode copySourceEncodes (bytes key) :=
  Percent.not_mem_encode (fun _ => ascii_of_not_copySourceEncodes) (by decide) (by decide)
    (by decide) _

/-- No reader finds a plus sign or a question mark to act on. -/
theorem SourceReader.prepare_encode (reader : SourceReader) (key : String) :
    reader.unplus (reader.cut (Percent.encode copySourceEncodes (bytes key))) =
      Percent.encode copySourceEncodes (bytes key) := by
  have whole : reader.cut (Percent.encode copySourceEncodes (bytes key)) =
      Percent.encode copySourceEncodes (bytes key) := by
    rw [SourceReader.cut]
    split
    · rw [List.takeWhile_eq_self_iff]
      intro char member
      rw [decide_eq_true_eq]
      rintro rfl
      exact query_not_mem key member
    · rfl
  rw [whole, SourceReader.unplus]
  split
  · refine (List.map_congr_left ?_).trans (List.map_id _)
    intro char member
    rw [if_neg, id]
    rintro rfl
    exact plus_not_mem key member
  · rfl

theorem slash_not_mem (bucket : BucketName) : '/' ∉ bucket.value.toList := by
  intro member
  have allowed := bucket.chars_valid
  simp only [bucketNameChars, Bool.and_eq_true, List.all_eq_true] at allowed
  have byte : (0x2f : UInt8) ∈ bytes bucket.value :=
    List.mem_flatMap.mpr ⟨'/', member, by decide⟩
  exact absurd (allowed.1.1 0x2f byte) (by decide)

/-- Splitting at the first slash gives the bucket and the escaped key. -/
theorem copySource_split (bucket : BucketName) (key : ObjectKey) :
    (copySource bucket key).toList.takeWhile (· ≠ '/') = bucket.value.toList ∧
      (copySource bucket key).toList.dropWhile (· ≠ '/') =
        '/' :: Percent.encode copySourceEncodes (bytes key.value) := by
  have shape : (copySource bucket key).toList =
      bucket.value.toList ++ '/' :: Percent.encode copySourceEncodes (bytes key.value) := by
    have slash : "/".toList = ['/'] := rfl
    rw [copySource, percentEncode_eq, String.toList_append, String.toList_append, slash,
      String.toList_ofList, List.append_assoc, List.singleton_append]
  have before : ∀ char ∈ bucket.value.toList, (decide (char ≠ '/')) = true := by
    intro char member
    rw [decide_eq_true_eq]
    rintro rfl
    exact slash_not_mem bucket member
  rw [shape, List.takeWhile_append_of_pos before, List.dropWhile_append_of_pos before]
  simp

theorem read_copySource (reader : SourceReader) (bucket : BucketName) (key : ObjectKey) :
    reader.read (copySource bucket key) = some (bucket.value, key.value) := by
  obtain ⟨before, after⟩ := copySource_split bucket key
  rw [SourceReader.read, after]
  simp only [before, reader.prepare_encode, decode_encode_key, Option.map_some,
    String.ofList_toList]

theorem send_copySource {crates : Crates} {builder : CopyObjectBuilder} {input : CopyObjectInput}
    (sent : builder.send crates = .ok input) :
    ∃ sourceKey sourceBucket, builder.sourceKey = .ok sourceKey ∧
      CopyObjectBuilder.unpackBucket builder.sourceBucket = .ok sourceBucket ∧
      input.copySource = copySource (sourceBucket.getD builder.bucket) sourceKey := by
  simp only [CopyObjectBuilder.send, bind_eq_ok_iff] at sent
  obtain ⟨sourceKey, key, _, -, sourceBucket, bucket, _, -, _, -, _, -, built⟩ := sent
  cases built
  exact ⟨sourceKey, sourceBucket, key, bucket, rfl⟩

/-- The copy source identifies exactly one object: every request names its source by
    `copySource`, every reader recovers the bucket and the key from that value, and different
    objects have different values. -/
theorem copySource_identifies :
    (∀ crates builder input, CopyObjectBuilder.send crates builder = .ok input →
      ∃ sourceKey sourceBucket, builder.sourceKey = .ok sourceKey ∧
        CopyObjectBuilder.unpackBucket builder.sourceBucket = .ok sourceBucket ∧
        input.copySource = copySource (sourceBucket.getD builder.bucket) sourceKey) ∧
      (∀ (reader : SourceReader) (bucket : BucketName) (key : ObjectKey),
        reader.read (copySource bucket key) = some (bucket.value, key.value)) ∧
      ∀ (bucket other : BucketName) (key otherKey : ObjectKey),
        copySource bucket key = copySource other otherKey → bucket = other ∧ key = otherKey := by
  refine ⟨fun _ _ _ sent => send_copySource sent, read_copySource, ?_⟩
  intro bucket other key otherKey same
  have read := read_copySource ⟨false, false⟩ bucket key
  rw [same, read_copySource, Option.some.injEq, Prod.mk.injEq] at read
  obtain ⟨sameBucket, sameKey⟩ := read
  constructor
  · cases bucket
    cases other
    cases sameBucket
    rfl
  · cases key
    cases otherKey
    cases sameKey
    rfl

end R2kit
