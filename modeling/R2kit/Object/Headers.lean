import R2kit.Misc.Ascii
import R2kit.Multipart.Presign
import R2kit.Multipart.Create
import R2kit.Object.Download

/-!
# Header values

Every header that the crate sets from a caller's string, on every operation that has one, is
visible ASCII or tabs and not empty. Most of these strings are checked for just that; a checksum,
an MD5 digest and a copy source are safe because of how they are encoded. The media type and the
cache policy are rendered by their crates and left out, and so is what is no string (times, the
content length, the metadata directive).
-/

namespace R2kit

open Misc

/-- A byte that a header value may have. -/
def VisibleByte (byte : UInt8) : Prop := byte = 0x9 ∨ 0x20 ≤ byte ∧ byte ≤ 0x7e

instance (byte : UInt8) : Decidable (VisibleByte byte) :=
  inferInstanceAs (Decidable (_ ∨ _))

/-- Text that can be a header: not empty, and nothing but tabs and visible ASCII. -/
structure HeaderText (text : String) : Prop where
  nonempty : text ≠ ""
  visible : ∀ byte ∈ bytes text, VisibleByte byte

-- Decided along the bytes of the text, not over all bytes there are.
instance (text : String) : Decidable (HeaderText text) :=
  decidable_of_iff (text ≠ "" ∧ (bytes text).all (fun byte => decide (VisibleByte byte)) = true)
    ⟨fun ⟨nonempty, checked⟩ => ⟨nonempty, fun byte member =>
      of_decide_eq_true (List.all_eq_true.mp checked byte member)⟩,
    fun text => ⟨text.nonempty, List.all_eq_true.mpr
      (fun byte member => decide_eq_true (text.visible byte member))⟩⟩

/-- A header as it is sent: its name and its value. -/
abbrev Header := String × String

/-- No request line is broken, no header is added, by such a header. -/
structure SafeHeader (sent : Header) : Prop where
  name : HeaderText sent.1
  value : HeaderText sent.2
  clean : ∀ byte ∈ bytes sent.1 ++ bytes sent.2,
    byte ≠ 0xd ∧ byte ≠ 0xa ∧ byte ≠ 0x0 ∧ byte < 0x80

/-- A header that is set when there is a value. -/
def header (name : String) (value : Option String) : List Header :=
  value.toList.map (fun value => (name, value))

/-- The headers of custom metadata. -/
def metadataHeaders (metadata : Option (List (String × String))) : List Header :=
  (metadata.getD []).map (fun entry => ("x-amz-meta-" ++ entry.1, entry.2))

/-- The headers set from the strings of upload options. -/
def MetadataHeaders.texts (headers : MetadataHeaders) : List Header :=
  header "content-disposition" headers.contentDisposition ++
    header "content-encoding" headers.contentEncoding ++
    header "content-language" headers.contentLanguage

/-- The headers of a PUT that come from the caller's texts. -/
def PutObjectInput.texts (input : PutObjectInput) : List Header :=
  input.headers.texts ++ metadataHeaders input.metadata ++ header "if-match" input.ifMatch ++
    header "if-none-match" input.ifNoneMatch ++
    [ChecksumAlgorithm.crc32, .crc32c, .sha1, .sha256].flatMap (fun algorithm =>
      header algorithm.headerName (input.checksums algorithm))

/-- Those of a new session. -/
def CreateMultipartUploadInput.texts (input : CreateMultipartUploadInput) : List Header :=
  input.headers.texts ++ metadataHeaders input.metadata

/-- Those of a copy. -/
def CopyObjectInput.texts (input : CopyObjectInput) : List Header :=
  header "x-amz-copy-source" (some input.copySource) ++
    header "x-amz-copy-source-if-match" input.copySourceIfMatch ++
    header "x-amz-copy-source-if-none-match" input.copySourceIfNoneMatch ++
    input.headers.toList.flatMap MetadataHeaders.texts ++ metadataHeaders input.metadata

/-- Those of a download. -/
def GetObjectInput.texts (input : GetObjectInput) : List Header :=
  header "range" input.range ++ header "if-match" input.ifMatch ++
    header "if-none-match" input.ifNoneMatch

/-- Those of a `HEAD`. -/
def HeadObjectInput.texts (input : HeadObjectInput) : List Header :=
  header "if-match" input.ifMatch ++ header "if-none-match" input.ifNoneMatch

/-- Those of a presigned part. -/
def UploadPartInput.texts (input : UploadPartInput) : List Header :=
  header "content-md5" input.contentMd5

section Text

theorem VisibleByte.ascii {byte : UInt8} (visible : VisibleByte byte) : byte < 0x80 := by
  unfold VisibleByte at visible
  grind

/-- Only tabs and visible ASCII: no line break, no NUL, nothing that is not ASCII. -/
theorem VisibleByte.clean {byte : UInt8} (visible : VisibleByte byte) :
    byte ≠ 0xd ∧ byte ≠ 0xa ∧ byte ≠ 0x0 ∧ byte < 0x80 := by
  refine ⟨?_, ?_, ?_, visible.ascii⟩ <;> rintro rfl <;> exact absurd visible (by decide)

theorem HeaderText.safe {name value : String} (named : HeaderText name)
    (valued : HeaderText value) : SafeHeader (name, value) := by
  refine ⟨named, valued, ?_⟩
  intro byte member
  rcases List.mem_append.mp member with first | second
  · exact (named.visible byte first).clean
  · exact (valued.visible byte second).clean

/-- A property of ASCII bytes, of the bytes of a text: it is one of the characters. -/
theorem forall_bytes_iff {P : UInt8 → Prop} (ascii : ∀ byte, P byte → byte < 0x80)
    {text : String} :
    (∀ byte ∈ bytes text, P byte) ↔
      ∀ char ∈ text.toList, char.toNat < 0x80 ∧ P (UInt8.ofNat char.toNat) :=
  Ascii.forall_utf8_iff ascii

/-- The check is exactly this. -/
theorem validateMetadataHeader_ok_iff {field value : String} :
    validateMetadataHeader field value = .ok () ↔ HeaderText value := by
  have checked : (bytes value).all (fun byte => byte == 0x9 || (0x20 ≤ byte && byte ≤ 0x7e)) =
      true ↔ ∀ byte ∈ bytes value, VisibleByte byte := by
    simp [VisibleByte]
  unfold validateMetadataHeader
  by_cases empty : value = ""
  · rw [if_pos empty]
    simp only [reduceCtorEq, false_iff]
    exact fun text => text.nonempty empty
  · rw [if_neg empty]
    by_cases visible : ∀ byte ∈ bytes value, VisibleByte byte
    · rw [if_pos (checked.mpr visible)]
      exact iff_of_true rfl ⟨empty, visible⟩
    · rw [if_neg (fun accepted => visible (checked.mp accepted))]
      exact iff_of_false (by simp) (fun text => visible text.visible)

/-- A printable ASCII character, or a blank. -/
def VisibleChar (char : Char) : Prop := 0x20 ≤ char.toNat ∧ char.toNat ≤ 0x7e

instance (char : Char) : Decidable (VisibleChar char) :=
  inferInstanceAs (Decidable (_ ∧ _))

theorem VisibleChar.byte {char : Char} (visible : VisibleChar char) :
    char.toNat < 0x80 ∧ VisibleByte (UInt8.ofNat char.toNat) := by
  have small : char.toNat < UInt8.size := Nat.lt_of_le_of_lt visible.2 (by decide)
  refine ⟨Nat.lt_of_le_of_lt visible.2 (by decide), Or.inr ⟨?_, ?_⟩⟩
  · exact (UInt8.le_ofNat_iff small).mpr visible.1
  · exact (UInt8.ofNat_le_iff small).mpr visible.2

/-- Checked along a list of characters. -/
theorem visibleChar_of_all {chars : List Char}
    (checked : chars.all (fun char => decide (VisibleChar char)) = true) :
    ∀ char ∈ chars, VisibleChar char :=
  fun char member => of_decide_eq_true (List.all_eq_true.mp checked char member)

theorem visible_of_chars {text : String} (visible : ∀ char ∈ text.toList, VisibleChar char) :
    ∀ byte ∈ bytes text, VisibleByte byte := by
  rw [forall_bytes_iff (fun _ seen => seen.ascii)]
  intro char member
  exact (visible char member).byte

/-- Text of such characters can be a header. -/
theorem headerText_of_chars {text : String} (nonempty : text ≠ "")
    (visible : ∀ char ∈ text.toList, VisibleChar char) : HeaderText text :=
  ⟨nonempty, visible_of_chars visible⟩

theorem HeaderText.append {first second : String} (text : HeaderText first)
    (visible : ∀ byte ∈ bytes second, VisibleByte byte) : HeaderText (first ++ second) := by
  refine ⟨?_, ?_⟩
  · intro empty
    exact text.nonempty (String.append_eq_empty_iff.mp empty).1
  · intro byte member
    rw [bytes, String.toList_append, List.flatMap_append, List.mem_append] at member
    rcases member with before | after
    · exact text.visible byte before
    · exact visible byte after

theorem getD_mem {α : Type} {list : List α} {default : α} (member : default ∈ list)
    (index : Nat) : list.getD index default ∈ list := by
  rw [List.getD_eq_getElem?_getD]
  cases found : list[index]? with
  | none => exact member
  | some value => exact List.mem_of_getElem? found

end Text

section Encoded

/-- The encoder writes letters, digits, `+`, `/` and the padding. -/
theorem visibleChar_encodeChars (data : List UInt8) :
    ∀ char ∈ Base64.encodeChars data, VisibleChar char := by
  have alphabet : ∀ char ∈ Base64.alphabet, VisibleChar char := visibleChar_of_all (by decide)
  have digit : ∀ value, VisibleChar (Base64.digit value) :=
    fun value => alphabet _ (getD_mem (by decide) value)
  have padding : VisibleChar '=' := by decide
  induction data using Base64.encodeChars.induct with
  | case1 => simp [Base64.encodeChars]
  | case2 a => simp [Base64.encodeChars, digit, padding]
  | case3 a b => simp [Base64.encodeChars, digit, padding]
  | case4 a b c rest ih => simpa [Base64.encodeChars, digit] using ih

/-- Canonical Base64 of something is a header text. -/
theorem headerText_encode {data : List UInt8} (some_data : data ≠ []) :
    HeaderText (Base64.encode data) := by
  have chars : (Base64.encode data).toList = Base64.encodeChars data := String.toList_ofList
  apply headerText_of_chars
  · intro empty
    rw [empty] at chars
    apply some_data
    cases data using Base64.encodeChars.fun_cases with
    | case1 => rfl
    | case2 a => cases chars
    | case3 a b => cases chars
    | case4 a b c rest => cases chars
  · rw [chars]
    exact visibleChar_encodeChars data

/-- A checked digest is one that the encoder writes. -/
theorem headerText_of_validateChecksumValue {algorithm : ChecksumAlgorithm} {value : String}
    (accepted : validateChecksumValue algorithm value = .ok ()) : HeaderText value := by
  unfold validateChecksumValue at accepted
  split at accepted
  · cases accepted
  · rename_i decoded _
    split at accepted
    · cases accepted
    · rename_i canonical
      simp only [not_or, not_not] at canonical
      rw [← canonical.2]
      apply headerText_encode
      rintro rfl
      cases algorithm <;> simp [ChecksumAlgorithm.digestLength] at canonical

theorem PartMd5.headerText (digest : PartMd5) : HeaderText digest.value := by
  obtain ⟨decoded, -, length, canonical⟩ := digest.valid
  rw [← canonical]
  apply headerText_encode
  rintro rfl
  simp at length

/-- The percent encoding of any text is visible ASCII. -/
theorem visibleChar_percentEncode (text : String) :
    ∀ char ∈ (percentEncode text).toList, VisibleChar char := by
  have hex : ∀ value, VisibleChar (hexDigit value) := by
    have digits : ∀ char ∈ "0123456789ABCDEF".toList, VisibleChar char :=
      visibleChar_of_all (by decide)
    exact fun value => digits _ (getD_mem (by decide) value)
  intro char member
  rw [percentEncode, String.toList_ofList, List.mem_flatMap] at member
  obtain ⟨byte, -, member⟩ := member
  by_cases encodes : copySourceEncodes byte
  · rw [if_pos encodes] at member
    simp only [List.mem_cons, List.not_mem_nil, or_false] at member
    rcases member with rfl | rfl | rfl
    · decide
    · exact hex _
    · exact hex _
  · rw [if_neg encodes, List.mem_singleton] at member
    have range : 0x20 ≤ byte.toNat ∧ byte.toNat < 0x7f := by
      simp only [copySourceEncodes, Bool.or_eq_true, decide_eq_true_eq, not_or,
        UInt8.not_lt, UInt8.not_le] at encodes
      exact ⟨UInt8.le_iff_toNat_le.mp encodes.1.1, UInt8.lt_iff_toNat_lt.mp encodes.1.2⟩
    have kept : ∀ number < 0x7f, 0x20 ≤ number → VisibleChar (Char.ofNat number) := by decide
    rw [member]
    exact kept byte.toNat range.2 range.1

/-- A bucket name is visible ASCII, and so is a copy source. -/
theorem BucketName.headerText (bucket : BucketName) : HeaderText bucket.value := by
  have named := bucket.chars_valid
  simp only [bucketNameChars, Bool.and_eq_true, List.all_eq_true] at named
  refine ⟨?_, ?_⟩
  · intro empty
    have long := bucket.length_valid.1
    rw [empty] at long
    exact absurd long (by decide)
  · intro byte member
    have allowed := named.1.1 byte member
    unfold bucketNameByte at allowed
    unfold VisibleByte
    grind

theorem headerText_copySource (bucket : BucketName) (key : String) :
    HeaderText (bucket.value ++ "/" ++ percentEncode key) := by
  rw [String.append_assoc]
  apply bucket.headerText.append
  apply visible_of_chars
  rw [String.toList_append, List.forall_mem_append]
  exact ⟨visibleChar_of_all (by decide), visibleChar_percentEncode key⟩

theorem visibleChar_toString (number : Nat) :
    ∀ char ∈ (toString number).toList, VisibleChar char := by
  intro char member
  rw [Nat.toString_eq_ofList_toDigits, String.toList_ofList] at member
  have digit := Nat.isDigit_of_mem_toDigits (by decide) (by decide) member
  rw [Char.isDigit_iff_toNat] at digit
  exact ⟨Nat.le_trans (by decide) digit.1, Nat.le_trans digit.2 (by decide)⟩

theorem ByteRange.headerText (range : ByteRange) : HeaderText range.asHeaderValue := by
  have unit : HeaderText "bytes=" := by decide
  have last : HeaderText "bytes=-" := by decide
  have number := fun value => visible_of_chars (visibleChar_toString value)
  have dash : HeaderText "-" := by decide
  cases range with
  | bounded start stop =>
      exact ((unit.append (number start)).append dash.visible).append (number stop)
  | fromOffset offset => exact (unit.append (number offset)).append dash.visible
  | suffix length => exact last.append (number length)

theorem metadataKeyByte_ascii {byte : UInt8} (allowed : metadataKeyByte byte = true) :
    byte < 0x80 := by
  simp only [metadataKeyByte, Bool.or_eq_true, Bool.and_eq_true, decide_eq_true_eq] at allowed
  grind

/-- The lower case of a text whose bytes may be in a metadata key. -/
theorem headerText_metadataName {key : String} (accepted : validateMetadataKey key = .ok ()) :
    HeaderText ("x-amz-meta-" ++ toAsciiLowercase key) := by
  have allowed : ∀ byte ∈ bytes key, metadataKeyByte byte = true := by
    unfold validateMetadataKey at accepted
    split at accepted
    · cases accepted
    · split at accepted
      · cases accepted
      · split at accepted
        · rename_i allowed
          exact List.all_eq_true.mp allowed
        · cases accepted
  have prefixed : HeaderText "x-amz-meta-" := by decide
  have lower : ∀ number < 0x80, metadataKeyByte (UInt8.ofNat (Char.ofNat number).toNat) = true →
      VisibleChar (Char.ofNat number).toLower := by decide
  apply prefixed.append
  apply visible_of_chars
  rw [toAsciiLowercase, String.toList_ofList, List.forall_mem_map]
  rw [forall_bytes_iff (fun _ allowed => metadataKeyByte_ascii allowed)] at allowed
  intro char member
  obtain ⟨ascii, key_byte⟩ := allowed char member
  exact @Ascii.forall_char_of_lt (fun char => metadataKeyByte (UInt8.ofNat char.toNat) = true →
    VisibleChar char.toLower) lower char ascii key_byte

end Encoded

section Options

variable {crates : Crates} {options : ObjectUploadOptions}

/-- A check that passes on the value that is there. -/
theorem whenSome_ok_iff {α : Type} {value : Option α} {check : α → Except Error Unit} :
    whenSome value check = .ok () ↔ ∀ given, value = some given → check given = .ok () := by
  cases value <;> simp [whenSome]

/-- A header whose value has been checked is safe. -/
theorem safe_header {name : String} {value : Option String} (named : HeaderText name)
    (checked : ∀ given, value = some given → HeaderText given) :
    ∀ sent ∈ header name value, SafeHeader sent := by
  intro sent member
  obtain ⟨given, among, rfl⟩ := List.mem_map.mp member
  exact named.safe (checked given (Option.mem_toList.mp among))

/-- Every string of the options that becomes a header can be one. -/
structure CheckedOptions (options : ObjectUploadOptions) : Prop where
  disposition : ∀ given, options.contentDisposition = some given → HeaderText given
  encoding : ∀ given, options.contentEncoding = some given → HeaderText given
  language : ∀ given, options.contentLanguage = some given → HeaderText given
  ifMatch : ∀ given, options.ifMatch = some given → HeaderText given
  ifNoneMatch : ∀ given, options.ifNoneMatch = some given → HeaderText given
  checksum : ∀ given, options.checksumValue = some given → HeaderText given.2
  custom : ∀ entry ∈ options.custom.toList,
    HeaderText ("x-amz-meta-" ++ toAsciiLowercase entry.1) ∧ HeaderText entry.2

/-- The loop over the custom metadata checks every entry. -/
theorem countCustom_checks {normalized : Std.TreeMap String Unit} {totalBytes total : Nat}
    {entries : List (String × String)}
    (accepted : ObjectUploadOptions.countCustom normalized totalBytes entries = .ok total) :
    ∀ entry ∈ entries,
      HeaderText ("x-amz-meta-" ++ toAsciiLowercase entry.1) ∧ HeaderText entry.2 := by
  induction entries generalizing normalized totalBytes with
  | nil => exact List.forall_mem_nil _
  | cons entry rest ih =>
      obtain ⟨key, value⟩ := entry
      simp only [ObjectUploadOptions.countCustom, bind_eq_ok_iff] at accepted
      obtain ⟨⟨⟩, named, ⟨⟩, valued, accepted⟩ := accepted
      split at accepted
      · cases accepted
      · rw [List.forall_mem_cons]
        exact ⟨⟨headerText_metadataName named, validateMetadataHeader_ok_iff.mp valued⟩,
          ih accepted⟩

theorem checkedOptions_of_validate (valid : options.validate crates = .ok ()) :
    CheckedOptions options := by
  have checked : ∀ {field : String} {value : Option String},
      whenSome value (validateMetadataHeader field) = .ok () →
      ∀ given, value = some given → HeaderText given :=
    fun accepted given is_given =>
      validateMetadataHeader_ok_iff.mp (whenSome_ok_iff.mp accepted given is_given)
  simp only [ObjectUploadOptions.validate, bind_eq_ok_iff] at valid
  obtain ⟨⟨⟩, -, ⟨⟩, disposition, ⟨⟩, encoding, ⟨⟩, matches_etag, ⟨⟩, none_matches, ⟨⟩, language,
    ⟨⟩, digest, total, counted, -⟩ := valid
  refine ⟨checked disposition, checked encoding, ?_, checked matches_etag, checked none_matches,
    ?_, countCustom_checks counted⟩
  · intro given is_given
    have accepted := whenSome_ok_iff.mp language given is_given
    simp only [validateContentLanguage, bind_eq_ok_iff] at accepted
    obtain ⟨⟨⟩, text, -⟩ := accepted
    exact validateMetadataHeader_ok_iff.mp text
  · intro given is_given
    exact headerText_of_validateChecksumValue (whenSome_ok_iff.mp digest given is_given)

/-- What is collected under the lower-case keys are the entries themselves. -/
theorem mem_insertEntries {entries : List (String × String)}
    {values : Std.TreeMap String String} {key value : String}
    (found : (entries.foldl (fun values entry =>
      values.insert (toAsciiLowercase entry.1) entry.2) values)[key]? = some value) :
    values[key]? = some value ∨
      ∃ entry ∈ entries, toAsciiLowercase entry.1 = key ∧ entry.2 = value := by
  induction entries generalizing values with
  | nil => exact Or.inl found
  | cons entry rest ih =>
      rcases ih found with before | ⟨other, among, same⟩
      · rw [Std.TreeMap.getElem?_insert] at before
        by_cases here : toAsciiLowercase entry.1 = key
        · rw [if_pos (Std.compare_eq_iff_eq.mpr here)] at before
          exact Or.inr ⟨entry, List.mem_cons_self, here, Option.some.inj before⟩
        · rw [if_neg (fun equal => here (Std.compare_eq_iff_eq.mp equal))] at before
          exact Or.inl before
      · exact Or.inr ⟨other, List.mem_cons_of_mem _ among, same⟩

theorem CheckedOptions.safe_metadata (checked : CheckedOptions options) :
    ∀ sent ∈ metadataHeaders options.customMetadataValues, SafeHeader sent := by
  intro sent member
  rw [metadataHeaders, ObjectUploadOptions.customMetadataValues] at member
  split at member
  · cases member
  · obtain ⟨⟨key, value⟩, among, rfl⟩ := List.mem_map.mp member
    rw [Option.getD_some, Std.TreeMap.mem_toList_iff_getElem?_eq_some] at among
    rcases mem_insertEntries among with none_before | ⟨entry, given, rfl, rfl⟩
    · simp at none_before
    · obtain ⟨named, valued⟩ := checked.custom entry given
      exact named.safe valued

theorem CheckedOptions.safe_texts (checked : CheckedOptions options) :
    ∀ sent ∈ options.applyTo.texts, SafeHeader sent := by
  rw [MetadataHeaders.texts, List.forall_mem_append, List.forall_mem_append]
  exact ⟨⟨safe_header (by decide) checked.disposition, safe_header (by decide) checked.encoding⟩,
    safe_header (by decide) checked.language⟩

end Options

/-- Whatever a request sets from strings is safe. -/
def Safe (sent : List Header) : Prop := ∀ one ∈ sent, SafeHeader one

theorem Safe.append {first second : List Header} (before : Safe first) (after : Safe second) :
    Safe (first ++ second) :=
  List.forall_mem_append.mpr ⟨before, after⟩

section Operations

variable {crates : Crates} {bucket : BucketName} {key : Except Error ObjectKey}
  {options : ObjectUploadOptions}

theorem safe_conditions {ifMatch ifNoneMatch : Option String}
    (accepted : checkConditions ifMatch ifNoneMatch = .ok ()) :
    Safe (header "if-match" ifMatch ++ header "if-none-match" ifNoneMatch) := by
  simp only [checkConditions, bind_eq_ok_iff] at accepted
  obtain ⟨⟨⟩, first, second⟩ := accepted
  rw [whenSome_ok_iff] at first second
  apply Safe.append
  · exact safe_header (by decide) (fun given is_given =>
      validateMetadataHeader_ok_iff.mp (first given is_given))
  · exact safe_header (by decide) (fun given is_given =>
      validateMetadataHeader_ok_iff.mp (second given is_given))

theorem safe_getObject {builder : GetObjectBuilder} {input : GetObjectInput}
    (sent : builder.send = .ok input) : Safe input.texts := by
  obtain ⟨_, -, -, conditions, rfl⟩ := GetObjectBuilder.send_eq_ok_iff.mp sent
  rw [GetObjectInput.texts, List.append_assoc]
  refine Safe.append (safe_header (by decide) ?_) (safe_conditions conditions)
  intro given is_given
  obtain ⟨range, -, rfl⟩ := Option.map_eq_some_iff.mp is_given
  exact range.headerText

theorem safe_headObject {builder : HeadObjectBuilder} {input : HeadObjectInput}
    (sent : builder.send = .ok input) : Safe input.texts := by
  obtain ⟨_, -, conditions, rfl⟩ := HeadObjectBuilder.send_eq_ok_iff.mp sent
  exact safe_conditions conditions

theorem safe_putObjectInput {key : ObjectKey} {contentLength : Nat}
    (checked : CheckedOptions options) :
    Safe (putObjectInput bucket key contentLength options).texts := by
  obtain ⟨-, headers, metadata, if_match, if_none_match⟩ :=
    fields_putObjectInput bucket key contentLength options
  rw [PutObjectInput.texts, headers, metadata, if_match, if_none_match]
  refine Safe.append (Safe.append (Safe.append (Safe.append checked.safe_texts
    checked.safe_metadata) (safe_header (by decide) checked.ifMatch))
    (safe_header (by decide) checked.ifNoneMatch)) ?_
  intro sent member
  obtain ⟨algorithm, -, among⟩ := List.mem_flatMap.mp member
  have named : HeaderText algorithm.headerName := by cases algorithm <;> decide
  refine safe_header named ?_ sent among
  intro given is_given
  rw [checksums_putObjectInput, Option.bind_eq_some_iff] at is_given
  obtain ⟨digest, present, chosen⟩ := is_given
  split at chosen
  · cases chosen
    exact checked.checksum digest present
  · cases chosen

theorem safe_putStream {contentLength : Nat} {input : PutObjectInput}
    (sent : putStreamWithOptions crates bucket key contentLength options = .ok input) :
    Safe input.texts := by
  obtain ⟨_, -, valid, -, -, rfl⟩ := putStreamWithOptions_eq_ok_iff.mp sent
  exact safe_putObjectInput (checkedOptions_of_validate valid)

/-- A digest that is computed is checked like one that is given. -/
theorem safe_putBytes {content : List UInt8} {input : PutObjectInput}
    (sent : putBytesWithOptions crates bucket key content options = .ok input) :
    Safe input.texts := by
  simp only [putBytesWithOptions, bind_eq_ok_iff] at sent
  obtain ⟨resolved, -, sent⟩ := sent
  exact safe_putStream sent

theorem safe_presignPut {contentLength : Nat} {expiresIn : Duration} {input : PutObjectInput}
    (sent : presignPutWithOptions crates bucket key contentLength expiresIn options =
      .ok input) : Safe input.texts :=
  safe_putStream (presignPutWithOptions_eq_ok_iff.mp sent).2

theorem safe_create {builder : PresignedMultipartBuilder} {plan : MultipartPlan}
    {input : CreateMultipartUploadInput} (sent : builder.create crates = .ok (plan, input)) :
    Safe input.texts := by
  obtain ⟨valid, -, -, rfl⟩ := PresignedMultipartBuilder.create_eq_ok_iff.mp sent
  have checked := checkedOptions_of_validate valid
  exact Safe.append checked.safe_texts checked.safe_metadata

theorem safe_copy {builder : CopyObjectBuilder} {input : CopyObjectInput}
    (sent : builder.send crates = .ok input) : Safe input.texts := by
  simp only [CopyObjectBuilder.send, bind_eq_ok_iff] at sent
  obtain ⟨source, -, destination, -, other, -, ⟨⟩, matches_etag, ⟨⟩, none_matches, ⟨⟩, replaced,
    sent⟩ := sent
  cases sent
  rw [whenSome_ok_iff] at matches_etag none_matches replaced
  have checked : ∀ options, builder.metadataOptions = some options → CheckedOptions options := by
    intro options given
    exact checkedOptions_of_validate (CopyObjectBuilder.checkOptions_ok_iff.mp
      (replaced options given)).1
  refine Safe.append (Safe.append (Safe.append (Safe.append ?_ ?_) ?_) ?_) ?_
  · apply safe_header (by decide)
    rintro _ ⟨⟩
    exact headerText_copySource _ _
  · exact safe_header (by decide) (fun given is_given =>
      validateMetadataHeader_ok_iff.mp (matches_etag given is_given))
  · exact safe_header (by decide) (fun given is_given =>
      validateMetadataHeader_ok_iff.mp (none_matches given is_given))
  · cases given : builder.metadataOptions with
    | none => exact List.forall_mem_nil _
    | some options => simpa [Safe] using (checked options given).safe_texts
  · cases given : builder.metadataOptions with
    | none => exact List.forall_mem_nil _
    | some options => exact (checked options given).safe_metadata

theorem safe_presignPart {session : PresignedMultipart} {number : PartNumber}
    {contentMd5 : PartMd5} {expiresIn : Duration} {presigned : PresignedUploadPart}
    (sent : session.presignPartWithMd5 number contentMd5 expiresIn = .ok presigned) :
    Safe presigned.request.texts := by
  obtain ⟨-, -, rfl⟩ := presignPartInner_eq_ok_iff.mp sent
  apply safe_header (by decide)
  rintro _ ⟨⟩
  exact contentMd5.headerText

end Operations

/-- No caller's string injects or corrupts a header: on every operation that takes one, whatever
    gets past the local checks is sent as safe headers only. -/
theorem headers_safe (crates : Crates) :
    (∀ (builder : GetObjectBuilder) input, builder.send = .ok input → Safe input.texts) ∧
    (∀ (builder : HeadObjectBuilder) input, builder.send = .ok input → Safe input.texts) ∧
    (∀ (builder : CopyObjectBuilder) input, builder.send crates = .ok input →
      Safe input.texts) ∧
    (∀ bucket key contentLength options input,
      putStreamWithOptions crates bucket key contentLength options = .ok input →
      Safe input.texts) ∧
    (∀ bucket key content options input,
      putBytesWithOptions crates bucket key content options = .ok input → Safe input.texts) ∧
    (∀ bucket key contentLength expiresIn options input,
      presignPutWithOptions crates bucket key contentLength expiresIn options = .ok input →
      Safe input.texts) ∧
    (∀ (builder : PresignedMultipartBuilder) plan input,
      builder.create crates = .ok (plan, input) → Safe input.texts) ∧
    ∀ (session : PresignedMultipart) number text contentMd5 expiresIn presigned,
      PartMd5.tryFrom text = .ok contentMd5 →
      session.presignPartWithMd5 number contentMd5 expiresIn = .ok presigned →
      Safe presigned.request.texts :=
  ⟨fun _ _ => safe_getObject, fun _ _ => safe_headObject, fun _ _ => safe_copy,
    fun _ _ _ _ _ => safe_putStream, fun _ _ _ _ _ => safe_putBytes,
    fun _ _ _ _ _ _ => safe_presignPut, fun _ _ _ => safe_create,
    fun _ _ _ _ _ _ _ => safe_presignPart⟩

/-- A line break in a source key is sent percent-encoded. -/
theorem headers_safe_line_break :
    ∃ (builder : CopyObjectBuilder) (input : CopyObjectInput),
      builder.sourceKey = ObjectKey.new "a\r\nb" ∧ builder.send .minimal = .ok input ∧
        input.copySource = builder.bucket.value ++ "/a%0D%0Ab" ∧ Safe input.texts :=
  let builder : CopyObjectBuilder := {
    bucket := PresignedMultipart.tiny.bucket
    sourceKey := ObjectKey.new "a\r\nb"
    destinationKey := .ok .clip }
  ⟨builder, _, rfl, rfl, by decide, (headers_safe .minimal).2.2.1 builder _ rfl⟩

end R2kit
