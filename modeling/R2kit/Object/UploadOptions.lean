import R2kit.Misc.Base64
import R2kit.Misc.KeyedMap
import R2kit.Types

/-!
# Upload options

`ObjectUploadOptions` of `src/object.rs`: the options, their validation, and the headers they
are turned into. The typed MIME and cache-control values are kept as the text their crates
render; what else the crate takes from third-party packages is in `Crates`.
-/

namespace R2kit

open Misc

/-- The algorithms that a caller can pick. -/
inductive ChecksumAlgorithm where
  | crc32
  | crc32c
  | sha1
  | sha256
  deriving DecidableEq, Repr

namespace ChecksumAlgorithm

/-- The header that carries the digest. -/
def headerName : ChecksumAlgorithm → String
  | crc32 => "x-amz-checksum-crc32"
  | crc32c => "x-amz-checksum-crc32c"
  | sha1 => "x-amz-checksum-sha1"
  | sha256 => "x-amz-checksum-sha256"

/-- How many bytes a digest has. -/
def digestLength : ChecksumAlgorithm → Nat
  | crc32 | crc32c => 4
  | sha1 => 20
  | sha256 => 32

end ChecksumAlgorithm

/-- What the crate uses of other packages and of its build: the parser of language tags, the
    digests, and whether the `checksum` feature is on. -/
structure Crates where
  languageTagParses : String → Bool
  digest : ChecksumAlgorithm → List UInt8 → List UInt8
  checksumFeature : Bool

/-- A build without the `checksum` feature that takes every language tag. -/
def Crates.minimal : Crates where
  languageTagParses _ := true
  digest _ _ := []
  checksumFeature := false

/-- The digest of a content as it is sent. -/
def computeChecksum (crates : Crates) (content : List UInt8) (algorithm : ChecksumAlgorithm) :
    String :=
  Base64.encode (crates.digest algorithm content)

/-- A parsed media type, as its rendering. -/
structure Mime where
  rendered : String
  deriving DecidableEq

/-- A cache policy, as the one header value it encodes to. -/
structure CacheControl where
  encoded : String
  deriving DecidableEq

/-- `ObjectUploadOptions` as its setters leave it. -/
structure ObjectUploadOptions where
  contentType : Option (Except Error Mime) := none
  cacheControl : Option CacheControl := none
  contentDisposition : Option String := none
  contentEncoding : Option String := none
  contentLanguage : Option String := none
  expires : Option SystemTime := none
  custom : Std.TreeMap String String := ∅
  ifMatch : Option String := none
  ifNoneMatch : Option String := none
  checksum : Option ChecksumAlgorithm := none
  checksumValue : Option (ChecksumAlgorithm × String) := none

/-- `str::to_ascii_lowercase`. -/
def toAsciiLowercase (text : String) : String := String.ofList (text.toList.map Char.toLower)

/-- The characters with the Unicode property `White_Space`. -/
def isWhitespace (char : Char) : Bool :=
  (0x9 ≤ char.toNat && char.toNat ≤ 0xd) || (0x2000 ≤ char.toNat && char.toNat ≤ 0x200a) ||
    char.toNat ∈ [0x20, 0x85, 0xa0, 0x1680, 0x2028, 0x2029, 0x202f, 0x205f, 0x3000]

/-- `str::trim`. -/
def trim (chars : List Char) : List Char :=
  (((chars.dropWhile isWhitespace).reverse).dropWhile isWhitespace).reverse

/-- A header value: not empty, and printable ASCII or tabs. -/
def validateMetadataHeader (field value : String) : Except Error Unit :=
  if value = "" then .error (.invalidInput field "must not be empty")
  else if (bytes value).all (fun byte => byte == 0x9 || (0x20 ≤ byte && byte ≤ 0x7e)) then
    .ok ()
  else .error (.invalidInput field "must contain only visible ASCII or horizontal tabs")

/-- A header value that is a list of language tags. -/
def validateContentLanguage (crates : Crates) (value : String) : Except Error Unit := do
  validateMetadataHeader "content_language" value
  if (value.toList.splitOn ',').any (fun tag =>
      trim tag = [] || !crates.languageTagParses (String.ofList (trim tag))) then
    .error (.invalidInput "content_language"
      "must contain one or more well-formed BCP 47 language tags")
  else .ok ()

/-- The bytes a metadata key may use. -/
def metadataKeyByte (byte : UInt8) : Bool :=
  (0x30 ≤ byte && byte ≤ 0x39) || (0x41 ≤ byte && byte ≤ 0x5a) ||
    (0x61 ≤ byte && byte ≤ 0x7a) || byte ∈ [0x2d, 0x5f, 0x2e]

/-- A key of custom metadata: not empty, without R2's prefix, of few ASCII characters. -/
def validateMetadataKey (key : String) : Except Error Unit :=
  if key = "" then .error (.invalidInput "custom_metadata" "keys must not be empty")
  else if "x-amz-meta-".toList.isPrefixOf (toAsciiLowercase key).toList then
    .error (.invalidInput "custom_metadata" "keys must omit the x-amz-meta- prefix")
  else if (bytes key).all metadataKeyByte then .ok ()
  else
    .error (.invalidInput "custom_metadata"
      "keys must use ASCII letters, digits, hyphens, underscores, or periods")

/-- The digest given with `with_checksum_value`, checked. -/
def validateChecksumValue (algorithm : ChecksumAlgorithm) (base64Val : String) :
    Except Error Unit :=
  match Base64.decode base64Val with
  | none => .error (.invalidInput "checksum" "must be canonical Base64")
  | some decoded =>
      if decoded.length ≠ algorithm.digestLength ∨ Base64.encode decoded ≠ base64Val then
        .error (.invalidInput "checksum"
          "checksum digest length or encoding does not match algorithm")
      else .ok ()

/-- An optional value checked when it is there. -/
def whenSome {α : Type} (value : Option α) (check : α → Except Error Unit) :
    Except Error Unit :=
  match value with
  | none => .ok ()
  | some value => check value

/-- `MAX_OBJECT_METADATA_BYTES`. -/
def maxObjectMetadataBytes : Nat := 8192

/-- `usize::saturating_add` on a 64-bit platform. -/
def saturatingAdd (left right : Nat) : Nat := min (left + right) u64Max

/-- The bytes of a header that is set. -/
def headerBytes (name : String) (value : Option String) : Nat :=
  match value with
  | none => 0
  | some value => name.utf8ByteSize + value.utf8ByteSize

namespace ObjectUploadOptions

/-- `ObjectUploadOptions::content_type`. -/
def mime (options : ObjectUploadOptions) : Option Mime :=
  match options.contentType with
  | some (.ok mime) => some mime
  | _ => none

/-- `is_empty`. -/
def isEmpty (options : ObjectUploadOptions) : Bool :=
  options.contentType.isNone && options.cacheControl.isNone &&
    options.contentDisposition.isNone && options.contentEncoding.isNone &&
    options.contentLanguage.isNone && options.expires.isNone && options.custom.isEmpty &&
    options.ifMatch.isNone && options.ifNoneMatch.isNone && options.checksum.isNone &&
    options.checksumValue.isNone

/-- The loop over the custom metadata: the keys seen so far and the byte count. -/
def countCustom (normalized : Std.TreeMap String Unit) (totalBytes : Nat) :
    List (String × String) → Except Error Nat
  | [] => .ok totalBytes
  | (key, value) :: rest => do
      validateMetadataKey key
      validateMetadataHeader "custom_metadata" value
      if normalized.contains (toAsciiLowercase key) then
        .error (.invalidInput "custom_metadata"
          "contains duplicate keys after ASCII case normalization")
      else
        countCustom (normalized.insert (toAsciiLowercase key) ())
          (saturatingAdd (saturatingAdd (saturatingAdd totalBytes "x-amz-meta-".utf8ByteSize)
            (toAsciiLowercase key).utf8ByteSize) value.utf8ByteSize) rest

/-- `ObjectUploadOptions::validate`: each field in the source's order, then the total size. -/
def validate (crates : Crates) (options : ObjectUploadOptions) : Except Error Unit := do
  whenSome options.contentType (fun parsed =>
    match parsed with
    | .ok _ => .ok ()
    | .error error => .error error)
  whenSome options.contentDisposition (validateMetadataHeader "content_disposition")
  whenSome options.contentEncoding (validateMetadataHeader "content_encoding")
  whenSome options.ifMatch (validateMetadataHeader "if_match")
  whenSome options.ifNoneMatch (validateMetadataHeader "if_none_match")
  whenSome options.contentLanguage (validateContentLanguage crates)
  whenSome options.checksumValue (fun value => validateChecksumValue value.1 value.2)
  let totalBytes :=
    headerBytes "content-type" (options.mime.map Mime.rendered) +
    headerBytes "cache-control" (options.cacheControl.map CacheControl.encoded) +
    headerBytes "content-disposition" options.contentDisposition +
    headerBytes "content-encoding" options.contentEncoding +
    headerBytes "content-language" options.contentLanguage
  let totalBytes ← countCustom ∅ totalBytes options.custom.toList
  if maxObjectMetadataBytes < totalBytes then
    .error (.invalidInput "upload_options"
      "metadata exceeds R2's 8,192-byte object metadata limit")
  else .ok ()

end ObjectUploadOptions

/-- The fields of a request that `SetObjectMetadata` sets. -/
structure MetadataHeaders where
  contentType : Option String
  cacheControl : Option String
  contentDisposition : Option String
  contentEncoding : Option String
  contentLanguage : Option String
  expires : Option SystemTime
  deriving DecidableEq

namespace ObjectUploadOptions

/-- The typed headers that the options put on a request. -/
def applyTo (options : ObjectUploadOptions) : MetadataHeaders where
  contentType := options.mime.map Mime.rendered
  cacheControl := options.cacheControl.map CacheControl.encoded
  contentDisposition := options.contentDisposition
  contentEncoding := options.contentEncoding
  contentLanguage := options.contentLanguage
  expires := options.expires

/-- The hash map of the source, as its entries in ascending order. -/
def customMetadataValues (options : ObjectUploadOptions) : Option (List (String × String)) :=
  if options.custom.isEmpty then none
  else
    some (options.custom.toList.foldl
      (fun values entry => values.insert (toAsciiLowercase entry.1) entry.2)
      (∅ : Std.TreeMap String String)).toList

/-- An accepted loop has seen no two keys that agree up to ASCII case. -/
theorem countCustom_ok {normalized : Std.TreeMap String Unit} {totalBytes total : Nat}
    {entries : List (String × String)}
    (accepted : countCustom normalized totalBytes entries = .ok total) :
    (entries.map (fun entry => toAsciiLowercase entry.1)).Nodup ∧
      ∀ entry ∈ entries, toAsciiLowercase entry.1 ∉ normalized := by
  induction entries generalizing normalized totalBytes with
  | nil => simp
  | cons entry rest ih =>
      obtain ⟨key, value⟩ := entry
      simp only [countCustom, bind_eq_ok_iff] at accepted
      obtain ⟨_, -, _, -, accepted⟩ := accepted
      split at accepted
      · cases accepted
      · rename_i fresh
        obtain ⟨distinct, unseen⟩ := ih accepted
        rw [← Std.TreeMap.mem_iff_contains] at fresh
        simp only [Std.TreeMap.mem_insert, Std.compare_eq_iff_eq, not_or] at unseen
        refine ⟨?_, ?_⟩
        · rw [List.map_cons, List.nodup_cons]
          refine ⟨?_, distinct⟩
          intro member
          obtain ⟨other, among, same⟩ := List.mem_map.mp member
          exact (unseen other among).1 same.symm
        · intro other member
          rcases List.mem_cons.mp member with rfl | among
          · exact fresh
          · exact (unseen other among).2

/-- Inserting entries whose keys stay distinct keeps every one of them. -/
theorem getElem?_insertEntries {entries : List (String × String)}
    {values : Std.TreeMap String String}
    (distinct : (entries.map (fun entry => toAsciiLowercase entry.1)).Nodup) :
    (∀ entry ∈ entries,
      (entries.foldl (fun values entry => values.insert (toAsciiLowercase entry.1) entry.2)
        values)[toAsciiLowercase entry.1]? = some entry.2) ∧
    ∀ key ∉ entries.map (fun entry => toAsciiLowercase entry.1),
      (entries.foldl (fun values entry => values.insert (toAsciiLowercase entry.1) entry.2)
        values)[key]? = values[key]? := by
  induction entries generalizing values with
  | nil => simp
  | cons entry rest ih =>
      rw [List.map_cons, List.nodup_cons] at distinct
      have later := @ih (values.insert (toAsciiLowercase entry.1) entry.2) distinct.2
      refine ⟨?_, ?_⟩
      · intro other member
        rcases List.mem_cons.mp member with rfl | among
        · rw [List.foldl_cons, later.2 _ distinct.1]
          exact Std.TreeMap.getElem?_insert_self
        · exact later.1 other among
      · intro key outside
        rw [List.map_cons, List.mem_cons, not_or] at outside
        rw [List.foldl_cons, later.2 key outside.2, Std.TreeMap.getElem?_insert,
          if_neg (by rw [Std.compare_eq_iff_eq]; exact fun same => outside.1 same.symm)]

/-- Validated options count their custom metadata without an error. -/
theorem validate_countCustom {crates : Crates} {options : ObjectUploadOptions}
    (valid : options.validate crates = .ok ()) :
    ∃ before total, countCustom ∅ before options.custom.toList = .ok total := by
  simp only [validate, bind_eq_ok_iff] at valid
  obtain ⟨_, -, _, -, _, -, _, -, _, -, _, -, _, -, total, counted, -⟩ := valid
  exact ⟨_, total, counted⟩

/-- A media type that did not parse makes the options invalid. -/
theorem contentType_of_validate {crates : Crates} {options : ObjectUploadOptions}
    (valid : options.validate crates = .ok ()) {parsed : Except Error Mime}
    (given : options.contentType = some parsed) : ∃ mime, parsed = .ok mime := by
  simp only [validate, given, whenSome, bind_eq_ok_iff] at valid
  obtain ⟨_, checked, -⟩ := valid
  cases parsed with
  | error error => cases checked
  | ok mime => exact ⟨mime, rfl⟩

/-- Every entry of validated options is sent, under its lowercase key. -/
theorem customMetadataValues_of_validate {crates : Crates} {options : ObjectUploadOptions}
    (valid : options.validate crates = .ok ()) {key value : String}
    (entry : options.custom[key]? = some value) :
    ∃ values, options.customMetadataValues = some values ∧
      (toAsciiLowercase key, value) ∈ values := by
  obtain ⟨_, _, counted⟩ := validate_countCustom valid
  have member : (key, value) ∈ options.custom.toList :=
    Std.TreeMap.mem_toList_iff_getElem?_eq_some.mpr entry
  have nonempty : options.custom.isEmpty = false := by
    rw [Std.TreeMap.isEmpty_eq_false_iff_exists_mem]
    refine ⟨key, ?_⟩
    rw [Std.TreeMap.mem_iff_isSome_getElem?, entry]
    rfl
  refine ⟨_, by rw [customMetadataValues, if_neg (by simp [nonempty])], ?_⟩
  rw [Std.TreeMap.mem_toList_iff_getElem?_eq_some]
  exact (getElem?_insertEntries (countCustom_ok counted).1).1 (key, value) member

/-- Options with typed headers, a date and a custom entry. -/
def labelled : ObjectUploadOptions where
  contentType := some (.ok ⟨"text/plain"⟩)
  contentDisposition := some "inline"
  expires := some 0
  custom := (∅ : Std.TreeMap String String).insert "Owner" "ada"

theorem validate_labelled : labelled.validate Crates.minimal = .ok () := by decide

end ObjectUploadOptions

end R2kit
