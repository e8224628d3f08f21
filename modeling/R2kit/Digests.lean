import R2kit.Multipart.Presign
import R2kit.Object.Metadata

/-!
# Digests given as text

`PartMd5::try_from` of `src/multipart.rs` and the precomputed checksum of `src/object.rs`.
Both decode the text, test the length, and encode again: what is accepted is the padded
standard encoding of one sequence of bytes of the right length.
-/

namespace R2kit

open Misc

/-- `PartMd5::as_base64`. -/
def PartMd5.asBase64 (md5 : PartMd5) : String := md5.value

/-- `ObjectUploadOptions::with_checksum_value`. -/
def ObjectUploadOptions.withChecksumValue (options : ObjectUploadOptions)
    (algorithm : ChecksumAlgorithm) (base64Value : String) : ObjectUploadOptions :=
  { options with checksumValue := some (algorithm, base64Value) }

/-- `text` is the padded standard encoding of these bytes, of which there are `length`. -/
def EncodesDigest (length : Nat) (data : List UInt8) (text : String) : Prop :=
  data.length = length ∧ Base64.encode data = text

section Encoding

variable {length : Nat} {data : List UInt8} {text : String}

theorem EncodesDigest.decode (encoded : EncodesDigest length data text) :
    Base64.decode text = some data := by
  rw [← encoded.2, Base64.decode_encode]

/-- The text says which bytes it encodes. -/
theorem EncodesDigest.unique {other : List UInt8} {otherLength : Nat}
    (encoded : EncodesDigest length data text) (again : EncodesDigest otherLength other text) :
    data = other :=
  Base64.encode_inj (encoded.2.trans again.2.symm)

/-- The bytes say which text encodes them. -/
theorem EncodesDigest.text_eq {other : List UInt8} {otherLength : Nat} {otherText : String}
    (encoded : EncodesDigest length data text)
    (again : EncodesDigest otherLength other otherText)
    (same : Base64.decode text = Base64.decode otherText) : text = otherText := by
  rw [encoded.decode, again.decode] at same
  rw [← encoded.2, ← again.2, Option.some.inj same]

theorem EncodesDigest.existsUnique (encoded : ∃ data, EncodesDigest length data text) :
    ∃! data, EncodesDigest length data text := by
  obtain ⟨data, encoded⟩ := encoded
  refine ⟨data, encoded, ?_⟩
  intro other again
  exact again.unique encoded

/-- Decoding, the length test and encoding again pass exactly the encoded digests. -/
theorem encodesDigest_iff :
    (∃ data, EncodesDigest length data text) ↔
      ∃ decoded, Base64.decode text = some decoded ∧ decoded.length = length ∧
        Base64.encode decoded = text := by
  constructor
  · intro encoded
    obtain ⟨data, encoded⟩ := encoded
    exact ⟨data, encoded.decode, encoded⟩
  · intro checked
    obtain ⟨decoded, -, canonical⟩ := checked
    exact ⟨decoded, canonical⟩

end Encoding

theorem PartMd5.tryFrom_eq_ok_iff {text : String} {md5 : PartMd5} :
    PartMd5.tryFrom text = .ok md5 ↔ md5.asBase64 = text := by
  constructor
  · intro accepted
    unfold PartMd5.tryFrom at accepted
    split at accepted
    · cases accepted
    · split at accepted <;> cases accepted
      rfl
  · intro same
    obtain ⟨value, valid⟩ := md5
    obtain ⟨decoded, decodes, canonical⟩ := valid
    change value = text at same
    subst same
    unfold PartMd5.tryFrom
    split
    · rename_i fails
      rw [fails] at decodes
      cases decodes
    · rename_i found finds
      rw [decodes] at finds
      cases finds
      rw [dif_pos canonical]

/-- `PartMd5::try_from` accepts the encodings of 16 bytes and nothing else. -/
theorem PartMd5.tryFrom_accepts_iff {text : String} :
    (∃ md5, PartMd5.tryFrom text = .ok md5) ↔ ∃ data, EncodesDigest 16 data text := by
  rw [encodesDigest_iff]
  constructor
  · intro accepted
    obtain ⟨md5, accepted⟩ := accepted
    have valid := md5.valid
    rw [PartMd5.tryFrom_eq_ok_iff] at accepted
    change md5.value = text at accepted
    rwa [accepted] at valid
  · intro canonical
    exact ⟨⟨text, canonical⟩, PartMd5.tryFrom_eq_ok_iff.mpr rfl⟩

theorem validateChecksumValue_ok_iff {algorithm : ChecksumAlgorithm} {text : String} :
    validateChecksumValue algorithm text = .ok () ↔
      ∃ data, EncodesDigest algorithm.digestLength data text := by
  rw [encodesDigest_iff]
  cases decodes : Base64.decode text with
  | none => simp [validateChecksumValue, decodes]
  | some decoded =>
      by_cases canonical :
          decoded.length = algorithm.digestLength ∧ Base64.encode decoded = text
      · simp [validateChecksumValue, decodes, canonical]
      · rw [validateChecksumValue, decodes]
        simp only [ne_eq, ← not_and_or, canonical, not_false_eq_true, if_true, reduceCtorEq,
          Option.some.injEq, exists_eq_left']

/-- The digest is checked on its own: the other options are accepted or not without it. -/
theorem validate_withChecksumValue {crates : Crates} {options : ObjectUploadOptions}
    {algorithm : ChecksumAlgorithm} {text : String} :
    (options.withChecksumValue algorithm text).validate crates = .ok () ↔
      ObjectUploadOptions.validate crates { options with checksumValue := none } = .ok () ∧
        validateChecksumValue algorithm text = .ok () := by
  simp only [ObjectUploadOptions.validate_eq_ok_iff, ObjectUploadOptions.withChecksumValue,
    ObjectUploadOptions.typedBytes, ObjectUploadOptions.mime]
  rw [whenSome, whenSome]
  tauto

/-- Digest text is accepted exactly when it is canonical: the padded standard encoding of
    bytes of the right number, which it determines and which determine it. -/
theorem digests_canonical (crates : Crates) :
    (∀ text : String,
        ((∃ md5, PartMd5.tryFrom text = .ok md5) ↔ ∃ data, EncodesDigest 16 data text) ∧
          ∀ md5, PartMd5.tryFrom text = .ok md5 →
            md5.asBase64 = text ∧ ∃! data, EncodesDigest 16 data text) ∧
      (∀ first second : PartMd5,
        Base64.decode first.asBase64 = Base64.decode second.asBase64 →
          first.asBase64 = second.asBase64) ∧
      (∀ (options : ObjectUploadOptions) (algorithm : ChecksumAlgorithm) (text : String),
        ((options.withChecksumValue algorithm text).validate crates = .ok () ↔
          ObjectUploadOptions.validate crates { options with checksumValue := none } = .ok () ∧
            ∃ data, EncodesDigest algorithm.digestLength data text) ∧
          ((options.withChecksumValue algorithm text).validate crates = .ok () →
            ∃! data, EncodesDigest algorithm.digestLength data text)) ∧
      ∀ (options other : ObjectUploadOptions) (algorithm otherAlgorithm : ChecksumAlgorithm)
        (first second : String),
        (options.withChecksumValue algorithm first).validate crates = .ok () →
          (other.withChecksumValue otherAlgorithm second).validate crates = .ok () →
            Base64.decode first = Base64.decode second → first = second := by
  refine ⟨?_, ?_, ?_, ?_⟩
  · intro text
    refine ⟨PartMd5.tryFrom_accepts_iff, ?_⟩
    intro md5 accepted
    exact ⟨PartMd5.tryFrom_eq_ok_iff.mp accepted,
      EncodesDigest.existsUnique (PartMd5.tryFrom_accepts_iff.mp ⟨md5, accepted⟩)⟩
  · intro first second same
    obtain ⟨data, encoded⟩ := encodesDigest_iff.mpr first.valid
    obtain ⟨other, again⟩ := encodesDigest_iff.mpr second.valid
    exact encoded.text_eq again same
  · intro options algorithm text
    have accepted : (options.withChecksumValue algorithm text).validate crates = .ok () ↔
        ObjectUploadOptions.validate crates { options with checksumValue := none } = .ok () ∧
          ∃ data, EncodesDigest algorithm.digestLength data text := by
      rw [validate_withChecksumValue, validateChecksumValue_ok_iff]
    exact ⟨accepted, fun valid => EncodesDigest.existsUnique (accepted.mp valid).2⟩
  · intro options other algorithm otherAlgorithm first second valid validOther same
    rw [validate_withChecksumValue, validateChecksumValue_ok_iff] at valid validOther
    obtain ⟨data, encoded⟩ := valid.2
    obtain ⟨otherData, again⟩ := validOther.2
    exact encoded.text_eq again same

end R2kit
