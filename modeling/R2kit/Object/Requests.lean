import R2kit.Object.UploadOptions

/-!
# Requests for whole objects

The parts of `put_bytes_with_options`, `put_stream_with_options`, `presign_put_with_options` and
`CopyObjectBuilder::send` of `src/object.rs` that run before the request is sent: the checks,
in their order, and the request that is built.
-/

namespace R2kit

open Misc

/-- `PutObject` as the SDK's builder holds it, without the body. -/
structure PutObjectInput where
  bucket : String
  key : String
  contentLength : Nat
  headers : MetadataHeaders
  metadata : Option (List (String × String))
  ifMatch : Option String
  ifNoneMatch : Option String
  checksumCrc32 : Option String := none
  checksumCrc32c : Option String := none
  checksumSha1 : Option String := none
  checksumSha256 : Option String := none
  deriving DecidableEq

namespace PutObjectInput

/-- The setter picked by the algorithm of a precomputed digest. -/
def setChecksum (input : PutObjectInput) (algorithm : ChecksumAlgorithm) (value : String) :
    PutObjectInput :=
  match algorithm with
  | .crc32 => { input with checksumCrc32 := some value }
  | .crc32c => { input with checksumCrc32c := some value }
  | .sha1 => { input with checksumSha1 := some value }
  | .sha256 => { input with checksumSha256 := some value }

/-- The digest sent for an algorithm. -/
def checksums (input : PutObjectInput) : ChecksumAlgorithm → Option String
  | .crc32 => input.checksumCrc32
  | .crc32c => input.checksumCrc32c
  | .sha1 => input.checksumSha1
  | .sha256 => input.checksumSha256

end PutObjectInput

/-- The request built for a single PUT; the two operations that send one agree on it. -/
def putObjectInput (bucket : BucketName) (key : ObjectKey) (contentLength : Nat)
    (options : ObjectUploadOptions) : PutObjectInput :=
  let input : PutObjectInput := {
    bucket := bucket.value, key := key.value, contentLength
    headers := options.applyTo
    metadata := options.customMetadataValues
    ifMatch := options.ifMatch
    ifNoneMatch := options.ifNoneMatch }
  match options.checksumValue with
  | none => input
  | some (algorithm, value) => input.setChecksum algorithm value

section PutInput

variable (bucket : BucketName) (key : ObjectKey) (contentLength : Nat)
  (options : ObjectUploadOptions)

/-- The digest of a single PUT: the given one, under the given algorithm alone. -/
theorem checksums_putObjectInput (algorithm : ChecksumAlgorithm) :
    (putObjectInput bucket key contentLength options).checksums algorithm =
      options.checksumValue.bind
        (fun given => if given.1 = algorithm then some given.2 else none) := by
  unfold putObjectInput
  cases options.checksumValue with
  | none => cases algorithm <;> rfl
  | some given =>
      obtain ⟨named, value⟩ := given
      cases named <;> cases algorithm <;> rfl

/-- The other fields do not depend on the digest. -/
theorem fields_putObjectInput :
    (putObjectInput bucket key contentLength options).contentLength = contentLength ∧
      (putObjectInput bucket key contentLength options).headers = options.applyTo ∧
      (putObjectInput bucket key contentLength options).metadata =
        options.customMetadataValues ∧
      (putObjectInput bucket key contentLength options).ifMatch = options.ifMatch ∧
      (putObjectInput bucket key contentLength options).ifNoneMatch = options.ifNoneMatch := by
  unfold putObjectInput
  cases options.checksumValue with
  | none => exact ⟨rfl, rfl, rfl, rfl, rfl⟩
  | some given =>
      obtain ⟨named, value⟩ := given
      cases named <;> exact ⟨rfl, rfl, rfl, rfl, rfl⟩

end PutInput

/-- A requested digest that would have to be computed from a body that is not in memory. -/
def rejectStreamChecksum (options : ObjectUploadOptions) : Except Error Unit :=
  if options.checksum.isSome ∧ options.checksumValue.isNone then
    .error (.invalidInput "checksum"
      "auto-computing checksums is only supported for in-memory bytes; provide a precomputed digest using with_checksum_value")
  else .ok ()

/-- A body above the limit of a single PUT. -/
def rejectLargePut (contentLength : Nat) : Except Error Unit :=
  if maxUploadSize < contentLength then
    .error (.validation (.singleUploadTooLarge contentLength maxUploadSize))
  else .ok ()

/-- `put_stream_with_options` up to the request. -/
def putStreamWithOptions (crates : Crates) (bucket : BucketName) (key : Except Error ObjectKey)
    (contentLength : Nat) (options : ObjectUploadOptions) : Except Error PutObjectInput := do
  let key ← key
  options.validate crates
  rejectStreamChecksum options
  rejectLargePut contentLength
  .ok (putObjectInput bucket key contentLength options)

theorem rejectStreamChecksum_ok_iff {options : ObjectUploadOptions} :
    rejectStreamChecksum options = .ok () ↔
      (options.checksum.isSome → options.checksumValue.isSome) := by
  unfold rejectStreamChecksum
  split
  · rename_i uncomputed
    simp [uncomputed.1, uncomputed.2]
  · rename_i given
    simp only [true_iff]
    simpa only [not_and, Bool.not_eq_true, Option.isNone_eq_false_iff] using given

theorem rejectLargePut_ok_iff {contentLength : Nat} :
    rejectLargePut contentLength = .ok () ↔ contentLength ≤ maxUploadSize := by
  unfold rejectLargePut
  split
  · rename_i large
    simp only [reduceCtorEq, false_iff]
    omega
  · rename_i small
    simp only [true_iff]
    omega

theorem putStreamWithOptions_eq_ok_iff {crates : Crates} {bucket : BucketName}
    {key : Except Error ObjectKey} {contentLength : Nat} {options : ObjectUploadOptions}
    {input : PutObjectInput} :
    putStreamWithOptions crates bucket key contentLength options = .ok input ↔
      ∃ valid, key = .ok valid ∧ options.validate crates = .ok () ∧
        (options.checksum.isSome → options.checksumValue.isSome) ∧
        contentLength ≤ maxUploadSize ∧
        input = putObjectInput bucket valid contentLength options := by
  simp only [putStreamWithOptions, bind_eq_ok_iff]
  constructor
  · rintro ⟨valid, hkey, ⟨⟩, hoptions, ⟨⟩, hstream, ⟨⟩, hlength, accepted⟩
    cases accepted
    exact ⟨valid, hkey, hoptions, rejectStreamChecksum_ok_iff.mp hstream,
      rejectLargePut_ok_iff.mp hlength, rfl⟩
  · rintro ⟨valid, hkey, hoptions, hstream, hlength, rfl⟩
    exact ⟨valid, hkey, (), hoptions, (), rejectStreamChecksum_ok_iff.mpr hstream, (),
      rejectLargePut_ok_iff.mpr hlength, rfl⟩

/-- The options `put_bytes_with_options` goes on with: the digest computed where it is asked
    for, when the crate is built to compute digests. -/
def resolveChecksum (crates : Crates) (content : List UInt8) (options : ObjectUploadOptions) :
    Except Error ObjectUploadOptions :=
  match options.checksum, options.checksumValue with
  | some algorithm, none =>
      if crates.checksumFeature then
        .ok { options with
          checksumValue := some (algorithm, computeChecksum crates content algorithm) }
      else
        .error (.invalidInput "checksum"
          "auto-computing checksums requires the 'checksum' crate feature")
  | _, _ => .ok options

/-- `put_bytes_with_options` up to the request. -/
def putBytesWithOptions (crates : Crates) (bucket : BucketName) (key : Except Error ObjectKey)
    (content : List UInt8) (options : ObjectUploadOptions) : Except Error PutObjectInput := do
  let options ← resolveChecksum crates content options
  putStreamWithOptions crates bucket key content.length options

/-- `PresigningConfig::expires_in`: the SDK signs for at most a week. -/
def presigningConfig (expiresIn : Duration) : Except Error Unit :=
  if Duration.fromSecs (7 * 24 * 60 * 60) < expiresIn then .error .presign else .ok ()

/-- `presign_put_with_options` up to the signature. -/
def presignPutWithOptions (crates : Crates) (bucket : BucketName)
    (key : Except Error ObjectKey) (contentLength : Nat) (expiresIn : Duration)
    (options : ObjectUploadOptions) : Except Error PutObjectInput := do
  let key ← key
  validateExpiry expiresIn
  options.validate crates
  rejectStreamChecksum options
  rejectLargePut contentLength
  presigningConfig expiresIn
  .ok (putObjectInput bucket key contentLength options)

theorem presignPutWithOptions_eq_ok_iff {crates : Crates} {bucket : BucketName}
    {key : Except Error ObjectKey} {contentLength : Nat} {expiresIn : Duration}
    {options : ObjectUploadOptions} {input : PutObjectInput} :
    presignPutWithOptions crates bucket key contentLength expiresIn options = .ok input ↔
      validateExpiry expiresIn = .ok () ∧
        putStreamWithOptions crates bucket key contentLength options = .ok input := by
  rw [putStreamWithOptions_eq_ok_iff]
  simp only [presignPutWithOptions, bind_eq_ok_iff]
  constructor
  · rintro ⟨valid, hkey, ⟨⟩, htime, ⟨⟩, hoptions, ⟨⟩, hstream, ⟨⟩, hlength, -, -, accepted⟩
    cases accepted
    exact ⟨htime, valid, hkey, hoptions, rejectStreamChecksum_ok_iff.mp hstream,
      rejectLargePut_ok_iff.mp hlength, rfl⟩
  · rintro ⟨htime, valid, hkey, hoptions, hstream, hlength, rfl⟩
    refine ⟨valid, hkey, (), htime, (), hoptions, (), rejectStreamChecksum_ok_iff.mpr hstream, (),
      rejectLargePut_ok_iff.mpr hlength, (), ?_, rfl⟩
    exact if_neg (Nat.not_lt.mpr (validateExpiry_ok_iff.mp htime).2)

/-- What `put_stream_with_options` makes of a failure. -/
def putObjectError (error : SdkError) : Error :=
  if error.status = some 412 then .preconditionFailed else .remoteError "PutObject" error

/-- What `PutObject` ends in: `put_stream_with_options` from the answer on. -/
def putObjectAnswer (answer : Except SdkError (Option String)) : Except Error (Option String) :=
  match answer with
  | .ok etag => .ok etag
  | .error error => .error (putObjectError error)

/-- Whether a copy keeps the metadata of its source. -/
inductive MetadataDirective where
  | copy
  | replace
  deriving DecidableEq, Repr

/-- `COPY_SOURCE_ENCODE_SET` and the bytes that are always encoded: the controls and
    everything that is not ASCII. -/
def copySourceEncodes (byte : UInt8) : Bool :=
  byte < 0x20 || 0x7f ≤ byte ||
    byte ∈ [0x20, 0x22, 0x23, 0x25, 0x26, 0x2b, 0x3f, 0x5c, 0x5e, 0x60, 0x7b, 0x7c, 0x7d]

/-- An uppercase hexadecimal digit. -/
def hexDigit (value : Nat) : Char := "0123456789ABCDEF".toList.getD value '0'

/-- `utf8_percent_encode` with the set above. -/
def percentEncode (text : String) : String :=
  String.ofList ((bytes text).flatMap (fun byte =>
    if copySourceEncodes byte then
      ['%', hexDigit (byte.toNat / 16), hexDigit (byte.toNat % 16)]
    else [Char.ofNat byte.toNat]))

/-- `CopyObjectBuilder` as its setters leave it. -/
structure CopyObjectBuilder where
  bucket : BucketName
  sourceKey : Except Error ObjectKey
  destinationKey : Except Error ObjectKey
  sourceBucket : Option (Except Error BucketName) := none
  sourceIfMatch : Option String := none
  sourceIfNoneMatch : Option String := none
  sourceIfModifiedSince : Option SystemTime := none
  sourceIfUnmodifiedSince : Option SystemTime := none
  metadataDirective : Option MetadataDirective := none
  metadataOptions : Option ObjectUploadOptions := none

/-- `CopyObject` as the SDK's builder holds it. -/
structure CopyObjectInput where
  bucket : String
  key : String
  copySource : String
  copySourceIfMatch : Option String
  copySourceIfNoneMatch : Option String
  copySourceIfModifiedSince : Option SystemTime
  copySourceIfUnmodifiedSince : Option SystemTime
  metadataDirective : MetadataDirective
  headers : Option MetadataHeaders
  metadata : Option (List (String × String))
  deriving DecidableEq

namespace CopyObjectBuilder

/-- What `send` asks of the replacement metadata. -/
def checkOptions (crates : Crates) (builder : CopyObjectBuilder)
    (options : ObjectUploadOptions) : Except Error Unit := do
  options.validate crates
  if builder.metadataDirective = some .copy then
    .error (.invalidInput "metadata_directive"
      "cannot specify upload_options when metadata_directive is Copy")
  else if options.checksum.isSome then
    .error (.invalidInput "checksum"
      "checksum verification is not supported on CopyObject operations")
  else if options.ifMatch.isSome ∨ options.ifNoneMatch.isSome then
    .error (.invalidInput "if_match"
      "conditional match headers in upload_options are not supported for CopyObject; use source_if_match or source_if_none_match")
  else .ok ()

theorem checkOptions_ok_iff {crates : Crates} {builder : CopyObjectBuilder}
    {options : ObjectUploadOptions} :
    builder.checkOptions crates options = .ok () ↔
      options.validate crates = .ok () ∧ builder.metadataDirective ≠ some .copy ∧
        options.checksum = none ∧ options.ifMatch = none ∧ options.ifNoneMatch = none := by
  simp only [checkOptions, bind_unit_eq_ok_iff]
  by_cases directive : builder.metadataDirective = some .copy
  · simp [directive]
  · cases options.checksum <;> cases options.ifMatch <;> cases options.ifNoneMatch <;>
      simp [directive]

/-- `source_bucket` as `send` unpacks it. -/
def unpackBucket (sourceBucket : Option (Except Error BucketName)) :
    Except Error (Option BucketName) :=
  match sourceBucket with
  | some parsed => parsed.map some
  | none => .ok none

/-- `send` up to the request. -/
def send (crates : Crates) (builder : CopyObjectBuilder) : Except Error CopyObjectInput := do
  let sourceKey ← builder.sourceKey
  let destinationKey ← builder.destinationKey
  let sourceBucket ← unpackBucket builder.sourceBucket
  whenSome builder.sourceIfMatch (validateMetadataHeader "source_if_match")
  whenSome builder.sourceIfNoneMatch (validateMetadataHeader "source_if_none_match")
  whenSome builder.metadataOptions (builder.checkOptions crates)
  .ok {
    bucket := builder.bucket.value
    key := destinationKey.value
    copySource := (sourceBucket.getD builder.bucket).value ++ "/" ++ percentEncode sourceKey.value
    copySourceIfMatch := builder.sourceIfMatch
    copySourceIfNoneMatch := builder.sourceIfNoneMatch
    copySourceIfModifiedSince := builder.sourceIfModifiedSince
    copySourceIfUnmodifiedSince := builder.sourceIfUnmodifiedSince
    metadataDirective := builder.metadataDirective.getD
      (if builder.metadataOptions.isSome then .replace else .copy)
    headers := builder.metadataOptions.map ObjectUploadOptions.applyTo
    metadata := builder.metadataOptions.bind ObjectUploadOptions.customMetadataValues }

end CopyObjectBuilder

end R2kit
