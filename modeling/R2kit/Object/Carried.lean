import R2kit.Managed.Builder
import R2kit.Object.Requests

/-!
# Which options a request carries

The operations that take `ObjectUploadOptions`, each as the local checks and the request it
goes on to send, against the promise that nothing set in the options is dropped. The one thing
that can be lost is a digest: a precomputed value where no operation sends one, or a
requested algorithm where a value of another algorithm is given.
-/

namespace R2kit

open PresignedMultipartBuilder (create_eq_ok_iff)

/-- The fields of a request that options can set. -/
structure SentFields where
  headers : MetadataHeaders
  metadata : Option (List (String × String))
  ifMatch : Option String
  ifNoneMatch : Option String
  checksums : ChecksumAlgorithm → Option String

/-- The fields of a PUT that come from options. -/
def PutObjectInput.sent (input : PutObjectInput) : SentFields where
  headers := input.headers
  metadata := input.metadata
  ifMatch := input.ifMatch
  ifNoneMatch := input.ifNoneMatch
  checksums := input.checksums

/-- Those of a new session. -/
def CreateMultipartUploadInput.sent (input : CreateMultipartUploadInput) : SentFields where
  headers := input.headers
  metadata := input.metadata
  ifMatch := none
  ifNoneMatch := none
  checksums := fun _ => none

/-- Those of a copy. -/
def CopyObjectInput.sent (input : CopyObjectInput) : SentFields where
  headers := input.headers.getD (ObjectUploadOptions.applyTo {})
  metadata := input.metadata
  ifMatch := none
  ifNoneMatch := none
  checksums := fun _ => none

/-- A request that has no room for options, such as the first one about a resumed session. -/
def SentFields.empty : SentFields where
  headers := ObjectUploadOptions.applyTo {}
  metadata := none
  ifMatch := none
  ifNoneMatch := none
  checksums := fun _ => none

/-- Every field that is set in the options is in the request. -/
structure Carries (options : ObjectUploadOptions) (sent : SentFields) : Prop where
  contentType : ∀ parsed, options.contentType = some parsed →
    ∃ mime, parsed = .ok mime ∧ sent.headers.contentType = some mime.rendered
  cacheControl : ∀ value, options.cacheControl = some value →
    sent.headers.cacheControl = some value.encoded
  contentDisposition : ∀ value, options.contentDisposition = some value →
    sent.headers.contentDisposition = some value
  contentEncoding : ∀ value, options.contentEncoding = some value →
    sent.headers.contentEncoding = some value
  contentLanguage : ∀ value, options.contentLanguage = some value →
    sent.headers.contentLanguage = some value
  expires : ∀ value, options.expires = some value → sent.headers.expires = some value
  custom : ∀ key value, options.custom[key]? = some value → ∃ metadata,
    sent.metadata = some metadata ∧ (toAsciiLowercase key, value) ∈ metadata
  ifMatch : ∀ value, options.ifMatch = some value → sent.ifMatch = some value
  ifNoneMatch : ∀ value, options.ifNoneMatch = some value → sent.ifNoneMatch = some value
  checksum : ∀ algorithm, options.checksum = some algorithm →
    ∃ digest, sent.checksums algorithm = some digest
  checksumValue : ∀ algorithm value, options.checksumValue = some (algorithm, value) →
    sent.checksums algorithm = some value

/-- The operations that take options, each with its other arguments. -/
inductive UploadOperation where
  | putBytes (bucket : BucketName) (key : Except Error ObjectKey) (content : List UInt8)
  | putStream (bucket : BucketName) (key : Except Error ObjectKey) (contentLength : Nat)
  | presignPut (bucket : BucketName) (key : Except Error ObjectKey) (contentLength : Nat)
      (expiresIn : Duration)
  | createMultipart (builder : PresignedMultipartBuilder)
  | uploadFile (builder : ManagedMultipartBuilder) (metadata : Option Metadata)
      (cancelled : Bool)
  | uploadStream (builder : ManagedMultipartBuilder) (fileSize : Nat) (cancelled : Bool)
  | copy (builder : CopyObjectBuilder)

/-- What a managed upload sends first. -/
def ManagedMultipartBuilder.Begin.sent : ManagedMultipartBuilder.Begin → Except Error SentFields
  | .failed error => .error error
  | .creating _ _ input => .ok input.sent
  | .resumed _ => .ok .empty

/-- The error before any request, or the option fields of the request that is sent. -/
def UploadOperation.request (crates : Crates) (options : ObjectUploadOptions) :
    UploadOperation → Except Error SentFields
  | .putBytes bucket key content =>
      (putBytesWithOptions crates bucket key content options).map PutObjectInput.sent
  | .putStream bucket key contentLength =>
      (putStreamWithOptions crates bucket key contentLength options).map PutObjectInput.sent
  | .presignPut bucket key contentLength expiresIn =>
      (presignPutWithOptions crates bucket key contentLength expiresIn options).map
        PutObjectInput.sent
  | .createMultipart builder =>
      (({ builder with options }).create crates).map
        (fun (created : MultipartPlan × CreateMultipartUploadInput) => created.2.sent)
  | .uploadFile builder metadata cancelled =>
      (({ builder with options }).beginFile crates metadata cancelled).sent
  | .uploadStream builder fileSize cancelled =>
      (({ builder with options }).beginStream crates fileSize cancelled).sent
  | .copy builder =>
      (({ builder with metadataOptions := some options }).send crates).map CopyObjectInput.sent

/-- A requested algorithm next to a precomputed digest of another one. -/
def DigestsDiffer (options : ObjectUploadOptions) : Prop :=
  ∃ requested given value, options.checksum = some requested ∧
    options.checksumValue = some (given, value) ∧ requested ≠ given

/-- A precomputed digest alone: neither an algorithm nor a condition is requested. -/
def DigestAlone (options : ObjectUploadOptions) : Prop :=
  options.checksumValue.isSome ∧ options.checksum = none ∧ options.ifMatch = none ∧
    options.ifNoneMatch = none

/-- When an operation sends a request that drops a digest. Everything but the first condition
    says that no local check rejects the call. -/
def UploadOperation.Loses (crates : Crates) (options : ObjectUploadOptions) :
    UploadOperation → Prop
  | .putBytes _ key content => DigestsDiffer options ∧ (∃ valid, key = .ok valid) ∧
      options.validate crates = .ok () ∧ content.length ≤ maxUploadSize
  | .putStream _ key contentLength => DigestsDiffer options ∧ (∃ valid, key = .ok valid) ∧
      options.validate crates = .ok () ∧ contentLength ≤ maxUploadSize
  | .presignPut _ key contentLength expiresIn =>
      DigestsDiffer options ∧ (∃ valid, key = .ok valid) ∧
      options.validate crates = .ok () ∧ contentLength ≤ maxUploadSize ∧
      validateExpiry expiresIn = .ok ()
  | .createMultipart builder => DigestAlone options ∧ options.validate crates = .ok () ∧
      ∃ fileSize partSize, builder.fileSize = some fileSize ∧
        builder.partSize = some partSize ∧ ∃ plan, MultipartPlan.new fileSize partSize = .ok plan
  | .uploadFile builder metadata cancelled =>
      DigestAlone options ∧ ({ builder with options }).validate crates = .ok () ∧
      ¬ (builder.cancellation ∧ cancelled) ∧ builder.resume = none ∧
      ∃ file, metadata = some file ∧ file.isFile ∧
        ∃ plan, MultipartPlan.new file.len builder.partSize = .ok plan
  | .uploadStream builder fileSize cancelled =>
      DigestAlone options ∧ ({ builder with options }).validate crates = .ok () ∧
      ¬ (builder.cancellation ∧ cancelled) ∧ builder.resume = none ∧
      ∃ plan, MultipartPlan.new fileSize builder.partSize = .ok plan
  | .copy builder => DigestAlone options ∧ options.validate crates = .ok () ∧
      (∃ valid, builder.sourceKey = .ok valid) ∧ (∃ valid, builder.destinationKey = .ok valid) ∧
      (∃ unpacked, CopyObjectBuilder.unpackBucket builder.sourceBucket = .ok unpacked) ∧
      whenSome builder.sourceIfMatch (validateMetadataHeader "source_if_match") = .ok () ∧
      whenSome builder.sourceIfNoneMatch (validateMetadataHeader "source_if_none_match") =
        .ok () ∧
      builder.metadataDirective ≠ some .copy

section Carrying

variable {crates : Crates} {options : ObjectUploadOptions} {sent : SentFields}

/-- A request with the headers and the metadata of valid options carries them; what is left
    to see to are the conditions and the digests. -/
theorem carries_of_headers (valid : options.validate crates = .ok ())
    (headers : sent.headers = options.applyTo)
    (metadata : sent.metadata = options.customMetadataValues)
    (ifMatch : ∀ value, options.ifMatch = some value → sent.ifMatch = some value)
    (ifNoneMatch : ∀ value, options.ifNoneMatch = some value → sent.ifNoneMatch = some value)
    (checksum : ∀ algorithm, options.checksum = some algorithm →
      ∃ digest, sent.checksums algorithm = some digest)
    (checksumValue : ∀ algorithm value, options.checksumValue = some (algorithm, value) →
      sent.checksums algorithm = some value) : Carries options sent where
  contentType parsed given := by
    obtain ⟨mime, rfl⟩ := ObjectUploadOptions.contentType_of_validate valid given
    refine ⟨mime, rfl, ?_⟩
    rw [headers, ObjectUploadOptions.applyTo, ObjectUploadOptions.mime, given]
    rfl
  cacheControl value given := by rw [headers, ObjectUploadOptions.applyTo, given]; rfl
  contentDisposition value given := by rw [headers, ObjectUploadOptions.applyTo, given]
  contentEncoding value given := by rw [headers, ObjectUploadOptions.applyTo, given]
  contentLanguage value given := by rw [headers, ObjectUploadOptions.applyTo, given]
  expires value given := by rw [headers, ObjectUploadOptions.applyTo, given]
  custom key value entry := by
    rw [metadata]
    exact ObjectUploadOptions.customMetadataValues_of_validate valid entry
  ifMatch := ifMatch
  ifNoneMatch := ifNoneMatch
  checksum := checksum
  checksumValue := checksumValue

theorem carries_putObjectInput {bucket : BucketName} {key : ObjectKey} {contentLength : Nat}
    (valid : options.validate crates = .ok ())
    (given : options.checksum.isSome → options.checksumValue.isSome)
    (agree : ¬ DigestsDiffer options) :
    Carries options (putObjectInput bucket key contentLength options).sent := by
  obtain ⟨-, headers, metadata, ifMatch, ifNoneMatch⟩ :=
    fields_putObjectInput bucket key contentLength options
  refine carries_of_headers valid headers metadata ?_ ?_ ?_ ?_
  · intro value set
    exact ifMatch.trans set
  · intro value set
    exact ifNoneMatch.trans set
  · intro requested asked
    obtain ⟨⟨named, value⟩, present⟩ := Option.isSome_iff_exists.mp (given (by rw [asked]; rfl))
    have same : requested = named := by
      by_contra differ
      exact agree ⟨requested, named, value, asked, present, differ⟩
    refine ⟨value, (checksums_putObjectInput _ _ _ _ requested).trans ?_⟩
    rw [present, Option.bind_some, if_pos same.symm]
  · intro algorithm value present
    apply (checksums_putObjectInput _ _ _ _ algorithm).trans
    rw [present, Option.bind_some, if_pos rfl]

/-- The requested algorithm is the one that is lost. -/
theorem not_carries_putObjectInput {bucket : BucketName} {key : ObjectKey}
    {contentLength : Nat} (differ : DigestsDiffer options) :
    ¬ Carries options (putObjectInput bucket key contentLength options).sent := by
  intro carried
  obtain ⟨requested, named, value, asked, present, different⟩ := differ
  obtain ⟨digest, found⟩ := carried.checksum requested asked
  have none_sent := (checksums_putObjectInput _ _ _ _ requested).symm.trans found
  rw [present, Option.bind_some, if_neg (Ne.symm different)] at none_sent
  cases none_sent

/-- A request without conditions and digests carries valid options that set none. -/
theorem carries_metadata (valid : options.validate crates = .ok ())
    (headers : sent.headers = options.applyTo)
    (metadata : sent.metadata = options.customMetadataValues)
    (noMatch : options.ifMatch = none) (noNoneMatch : options.ifNoneMatch = none)
    (noChecksum : options.checksum = none) (noValue : options.checksumValue = none) :
    Carries options sent := by
  refine carries_of_headers valid headers metadata ?_ ?_ ?_ ?_
  · intro value set
    rw [noMatch] at set
    cases set
  · intro value set
    rw [noNoneMatch] at set
    cases set
  · intro algorithm set
    rw [noChecksum] at set
    cases set
  · intro algorithm value set
    rw [noValue] at set
    cases set

/-- A request without digests drops one that is given. -/
theorem not_carries_of_digest (given : options.checksumValue.isSome)
    (unsent : ∀ algorithm, sent.checksums algorithm = none) : ¬ Carries options sent := by
  intro carried
  obtain ⟨⟨algorithm, value⟩, present⟩ := Option.isSome_iff_exists.mp given
  have found := carried.checksumValue algorithm value present
  rw [unsent algorithm] at found
  cases found

theorem putStream_carries_iff (bucket : BucketName) {key : Except Error ObjectKey}
    {contentLength : Nat} :
    (∀ input, putStreamWithOptions crates bucket key contentLength options = .ok input →
        Carries options input.sent) ↔
      ¬ (DigestsDiffer options ∧ (∃ valid, key = .ok valid) ∧
        options.validate crates = .ok () ∧ contentLength ≤ maxUploadSize) := by
  constructor
  · rintro carried ⟨differ, ⟨valid, hkey⟩, hoptions, hlength⟩
    have given : options.checksum.isSome → options.checksumValue.isSome := by
      obtain ⟨_, _, _, _, present, _⟩ := differ
      intro _
      rw [present]
      rfl
    have accepted : putStreamWithOptions crates bucket key contentLength options =
        .ok (putObjectInput bucket valid contentLength options) :=
      putStreamWithOptions_eq_ok_iff.mpr ⟨valid, hkey, hoptions, given, hlength, rfl⟩
    exact not_carries_putObjectInput differ (carried _ accepted)
  · intro kept input accepted
    obtain ⟨valid, hkey, hoptions, given, hlength, rfl⟩ :=
      putStreamWithOptions_eq_ok_iff.mp accepted
    apply carries_putObjectInput hoptions given
    intro differ
    exact kept ⟨differ, ⟨valid, hkey⟩, hoptions, hlength⟩

/-- The options `put_bytes_with_options` goes on with: its own, or with a digest of the
    requested algorithm added. -/
theorem resolveChecksum_eq_ok {content : List UInt8} {resolved : ObjectUploadOptions}
    (accepted : resolveChecksum crates content options = .ok resolved) :
    resolved = options ∨ ∃ algorithm value, options.checksum = some algorithm ∧
      options.checksumValue = none ∧
      resolved = { options with checksumValue := some (algorithm, value) } := by
  unfold resolveChecksum at accepted
  split at accepted
  · rename_i algorithm asked absent
    split at accepted
    · cases accepted
      exact Or.inr ⟨algorithm, _, asked, absent, rfl⟩
    · cases accepted
  · cases accepted
    exact Or.inl rfl

/-- What carries the options with a computed digest carries the options. -/
theorem Carries.of_computed {algorithm : ChecksumAlgorithm} {value : String}
    (absent : options.checksumValue = none)
    (carried : Carries { options with checksumValue := some (algorithm, value) } sent) :
    Carries options sent where
  contentType := carried.contentType
  cacheControl := carried.cacheControl
  contentDisposition := carried.contentDisposition
  contentEncoding := carried.contentEncoding
  contentLanguage := carried.contentLanguage
  expires := carried.expires
  custom := carried.custom
  ifMatch := carried.ifMatch
  ifNoneMatch := carried.ifNoneMatch
  checksum := carried.checksum
  checksumValue _ _ given := by
    rw [absent] at given
    cases given

theorem putBytes_carries_iff {bucket : BucketName} {key : Except Error ObjectKey}
    {content : List UInt8} :
    (∀ input, putBytesWithOptions crates bucket key content options = .ok input →
        Carries options input.sent) ↔
      ¬ (DigestsDiffer options ∧ (∃ valid, key = .ok valid) ∧
        options.validate crates = .ok () ∧ content.length ≤ maxUploadSize) := by
  rw [← putStream_carries_iff bucket]
  constructor
  · intro carried input accepted
    obtain ⟨valid, hkey, hoptions, given, hlength, rfl⟩ :=
      putStreamWithOptions_eq_ok_iff.mp accepted
    apply carried
    rw [putBytesWithOptions, bind_eq_ok_iff]
    refine ⟨options, ?_, accepted⟩
    unfold resolveChecksum
    split
    · rename_i asked absent
      rw [asked, absent] at given
      exact absurd (given rfl) (by simp)
    · rfl
  · intro carried input accepted
    rw [putBytesWithOptions, bind_eq_ok_iff] at accepted
    obtain ⟨resolved, hresolved, accepted⟩ := accepted
    rcases resolveChecksum_eq_ok hresolved with rfl | ⟨algorithm, value, asked, absent, rfl⟩
    · exact carried input accepted
    · refine Carries.of_computed absent ((putStream_carries_iff bucket).mpr ?_ input accepted)
      rintro ⟨⟨requested, named, given, hrequested, hgiven, differ⟩, -⟩
      rw [asked] at hrequested
      cases hrequested
      cases hgiven
      exact differ rfl

theorem presignPut_carries_iff {bucket : BucketName} {key : Except Error ObjectKey}
    {contentLength : Nat} {expiresIn : Duration} :
    (∀ input, presignPutWithOptions crates bucket key contentLength expiresIn options =
        .ok input → Carries options input.sent) ↔
      ¬ (DigestsDiffer options ∧ (∃ valid, key = .ok valid) ∧
        options.validate crates = .ok () ∧ contentLength ≤ maxUploadSize ∧
        validateExpiry expiresIn = .ok ()) := by
  constructor
  · rintro carried ⟨differ, valid, hoptions, hlength, htime⟩
    refine (putStream_carries_iff bucket).mp ?_ ⟨differ, valid, hoptions, hlength⟩
    intro input accepted
    exact carried input (presignPutWithOptions_eq_ok_iff.mpr ⟨htime, accepted⟩)
  · intro kept input accepted
    obtain ⟨htime, accepted⟩ := presignPutWithOptions_eq_ok_iff.mp accepted
    refine (putStream_carries_iff bucket).mpr ?_ input accepted
    rintro ⟨differ, valid, hoptions, hlength⟩
    exact kept ⟨differ, valid, hoptions, hlength, htime⟩

/-- A session is created with everything but a digest that is given alone. -/
theorem create_carries_iff {builder : PresignedMultipartBuilder} :
    (∀ plan input, builder.create crates = .ok (plan, input) →
        Carries builder.options input.sent) ↔
      ¬ (DigestAlone builder.options ∧ builder.options.validate crates = .ok () ∧
        ∃ fileSize partSize, builder.fileSize = some fileSize ∧
          builder.partSize = some partSize ∧
          ∃ plan, MultipartPlan.new fileSize partSize = .ok plan) := by
  constructor
  · rintro carried ⟨⟨given, noChecksum, noMatch, noNoneMatch⟩, valid, fileSize, partSize, hfile,
      hpart, plan, hplan⟩
    have accepted := create_eq_ok_iff.mpr ⟨valid, ⟨fileSize, partSize, hfile, hpart, hplan⟩,
      ⟨noChecksum, noMatch, noNoneMatch⟩, rfl⟩
    exact not_carries_of_digest given (fun _ => rfl) (carried plan _ accepted)
  · intro kept plan input accepted
    obtain ⟨valid, ⟨fileSize, partSize, hfile, hpart, hplan⟩, ⟨noChecksum, noMatch, noNoneMatch⟩,
      rfl⟩ := create_eq_ok_iff.mp accepted
    have noValue : builder.options.checksumValue = none := by
      by_contra given
      exact kept ⟨⟨Option.isSome_iff_ne_none.mpr given, noChecksum, noMatch, noNoneMatch⟩, valid,
        fileSize, partSize, hfile, hpart, plan, hplan⟩
    exact carries_metadata valid rfl rfl noMatch noNoneMatch noChecksum noValue

theorem begin_sent_eq_ok {start : ManagedMultipartBuilder.Begin}
    (accepted : start.sent = .ok sent) :
    (∃ request plan input, start = .creating request plan input ∧ sent = input.sent) ∨
      ∃ session, start = .resumed session ∧ sent = .empty := by
  cases start with
  | failed error => cases accepted
  | creating request plan input =>
      cases accepted
      exact Or.inl ⟨request, plan, input, rfl, rfl⟩
  | resumed session =>
      cases accepted
      exact Or.inr ⟨session, rfl, rfl⟩

/-- A managed upload creates its session as `create` does. -/
theorem beginNew_carries_iff {builder : ManagedMultipartBuilder} {fileSize : Nat}
    (fresh : builder.resume = none) :
    (∀ sent, (builder.beginNew crates fileSize).sent = .ok sent →
        Carries builder.options sent) ↔
      ¬ (DigestAlone builder.options ∧ builder.options.validate crates = .ok () ∧
        ∃ plan, MultipartPlan.new fileSize builder.partSize = .ok plan) := by
  obtain ⟨key, built⟩ := ManagedMultipartBuilder.sessionBuilder_of_new fresh fileSize
  constructor
  · rintro carried ⟨alone, valid, planned⟩
    let request : PresignedMultipartBuilder := {
      bucket := builder.bucket, key
      fileSize := some fileSize
      partSize := some builder.partSize
      options := builder.options }
    have created : ∀ plan input, request.create crates = .ok (plan, input) →
        Carries request.options input.sent := by
      intro plan input made
      apply carried
      rw [ManagedMultipartBuilder.beginNew_eq_creating_iff.mpr ⟨built, made⟩]
      rfl
    exact create_carries_iff.mp created
      ⟨alone, valid, fileSize, builder.partSize, rfl, rfl, planned⟩
  · intro kept sent accepted
    rcases begin_sent_eq_ok accepted with ⟨request, plan, input, started, rfl⟩ | ⟨_, started, -⟩
    · obtain ⟨same, made⟩ := ManagedMultipartBuilder.beginNew_eq_creating_iff.mp started
      rw [built, Except.ok.injEq] at same
      subst same
      refine create_carries_iff.mpr ?_ plan input made
      rintro ⟨alone, valid, _, _, hfile, hpart, hplan⟩
      cases hfile
      cases hpart
      exact kept ⟨alone, valid, hplan⟩
    · exact absurd started ManagedMultipartBuilder.beginNew_ne_resumed

/-- Options that are empty are carried by any request. -/
theorem carries_of_isEmpty (unset : options.isEmpty) : Carries options sent := by
  simp only [ObjectUploadOptions.isEmpty, Bool.and_eq_true, Option.isNone_iff_eq_none,
    Std.TreeMap.isEmpty_iff_forall_not_mem] at unset
  obtain ⟨⟨⟨⟨⟨⟨⟨⟨⟨⟨h1, h2⟩, h3⟩, h4⟩, h5⟩, h6⟩, custom⟩, h8⟩, h9⟩, h10⟩, h11⟩ := unset
  constructor
  case custom =>
    intro key value entry
    refine absurd ?_ (custom key)
    rw [Std.TreeMap.mem_iff_isSome_getElem?, entry]
    rfl
  all_goals simp [h1, h2, h3, h4, h5, h6, h8, h9, h10, h11]

theorem uploadFile_carries_iff {builder : ManagedMultipartBuilder} {metadata : Option Metadata}
    {cancelled : Bool} :
    (∀ sent, (builder.beginFile crates metadata cancelled).sent = .ok sent →
        Carries builder.options sent) ↔
      ¬ (DigestAlone builder.options ∧ builder.validate crates = .ok () ∧
        ¬ (builder.cancellation ∧ cancelled) ∧ builder.resume = none ∧
        ∃ file, metadata = some file ∧ file.isFile ∧
          ∃ plan, MultipartPlan.new file.len builder.partSize = .ok plan) := by
  constructor
  · rintro carried ⟨alone, valid, active, fresh, file, hfile, regular, plan⟩
    have options_valid := (ManagedMultipartBuilder.validate_ok_iff.mp valid).2.2.1
    have started := ManagedMultipartBuilder.beginFile_of_reaches ⟨valid, hfile, regular, active⟩
    rw [fresh] at started
    rw [started] at carried
    exact (beginNew_carries_iff fresh).mp carried ⟨alone, options_valid, plan⟩
  · intro kept sent accepted
    obtain ⟨file, reached⟩ := ManagedMultipartBuilder.reaches_of_beginFile (by
      intro error failed
      rw [failed] at accepted
      cases accepted)
    rw [ManagedMultipartBuilder.beginFile_of_reaches reached] at accepted
    obtain ⟨valid, hfile, regular, active⟩ := reached
    cases saved : builder.resume with
    | none =>
        rw [saved] at accepted
        refine (beginNew_carries_iff saved).mpr ?_ sent accepted
        rintro ⟨alone, -, plan⟩
        exact kept ⟨alone, valid, active, saved, file, hfile, regular, plan⟩
    | some snapshot =>
        have unset := (ManagedMultipartBuilder.validate_ok_iff.mp valid).2.2.2.2
        exact carries_of_isEmpty (unset (by rw [saved]; rfl))

theorem uploadStream_carries_iff {builder : ManagedMultipartBuilder} {fileSize : Nat}
    {cancelled : Bool} :
    (∀ sent, (builder.beginStream crates fileSize cancelled).sent = .ok sent →
        Carries builder.options sent) ↔
      ¬ (DigestAlone builder.options ∧ builder.validate crates = .ok () ∧
        ¬ (builder.cancellation ∧ cancelled) ∧ builder.resume = none ∧
        ∃ plan, MultipartPlan.new fileSize builder.partSize = .ok plan) := by
  constructor
  · rintro carried ⟨alone, valid, active, fresh, plan⟩
    have options_valid := (ManagedMultipartBuilder.validate_ok_iff.mp valid).2.2.1
    rw [ManagedMultipartBuilder.beginStream_of_new valid active fresh] at carried
    exact (beginNew_carries_iff fresh).mp carried ⟨alone, options_valid, plan⟩
  · intro kept sent accepted
    obtain ⟨valid, active, fresh⟩ := ManagedMultipartBuilder.new_of_beginStream (by
      intro error failed
      rw [failed] at accepted
      cases accepted)
    rw [ManagedMultipartBuilder.beginStream_of_new valid active fresh] at accepted
    refine (beginNew_carries_iff fresh).mpr ?_ sent accepted
    rintro ⟨alone, -, plan⟩
    exact kept ⟨alone, valid, active, fresh, plan⟩

theorem copy_carries_iff {builder : CopyObjectBuilder}
    (given : builder.metadataOptions = some options) :
    (∀ input, builder.send crates = .ok input → Carries options input.sent) ↔
      ¬ (DigestAlone options ∧ options.validate crates = .ok () ∧
        (∃ valid, builder.sourceKey = .ok valid) ∧
        (∃ valid, builder.destinationKey = .ok valid) ∧
        (∃ unpacked, CopyObjectBuilder.unpackBucket builder.sourceBucket = .ok unpacked) ∧
        whenSome builder.sourceIfMatch (validateMetadataHeader "source_if_match") = .ok () ∧
        whenSome builder.sourceIfNoneMatch (validateMetadataHeader "source_if_none_match") =
          .ok () ∧
        builder.metadataDirective ≠ some .copy) := by
  simp only [CopyObjectBuilder.send, given, whenSome.eq_2, bind_eq_ok_iff]
  constructor
  · rintro carried ⟨⟨set, noChecksum, noMatch, noNoneMatch⟩, valid, ⟨source, hsource⟩,
      ⟨destination, hdestination⟩, ⟨bucket, hbucket⟩, hmatch, hnone, directive⟩
    have checked := CopyObjectBuilder.checkOptions_ok_iff.mpr
      ⟨valid, directive, noChecksum, noMatch, noNoneMatch⟩
    refine not_carries_of_digest set (fun _ => rfl) (carried _ ⟨source, hsource, destination,
      hdestination, bucket, hbucket, (), hmatch, (), hnone, (), checked, rfl⟩)
  · rintro kept input ⟨source, hsource, destination, hdestination, bucket, hbucket, ⟨⟩, hmatch, ⟨⟩,
      hnone, ⟨⟩, checked, accepted⟩
    cases accepted
    obtain ⟨valid, directive, noChecksum, noMatch, noNoneMatch⟩ :=
      CopyObjectBuilder.checkOptions_ok_iff.mp checked
    have noValue : options.checksumValue = none := by
      by_contra set
      exact kept ⟨⟨Option.isSome_iff_ne_none.mpr set, noChecksum, noMatch, noNoneMatch⟩, valid,
        ⟨source, hsource⟩, ⟨destination, hdestination⟩, ⟨bucket, hbucket⟩, hmatch, hnone,
        directive⟩
    exact carries_metadata valid rfl rfl noMatch noNoneMatch noChecksum noValue

theorem forall_map_ok {α : Type} {result : Except Error α} {view : α → SentFields}
    {P : SentFields → Prop} :
    (∀ sent, result.map view = .ok sent → P sent) ↔
      ∀ input, result = .ok input → P (view input) := by
  constructor
  · intro holds input accepted
    exact holds _ (map_eq_ok_iff.mpr ⟨input, accepted, rfl⟩)
  · intro holds sent accepted
    obtain ⟨input, made, rfl⟩ := map_eq_ok_iff.mp accepted
    exact holds input made

/-- An operation carries every option that is set, or fails before it sends anything,
    exactly when it does not drop a digest. -/
theorem upload_options_carried_iff (crates : Crates) (options : ObjectUploadOptions)
    (operation : UploadOperation) :
    (∀ sent, operation.request crates options = .ok sent → Carries options sent) ↔
      ¬ operation.Loses crates options := by
  cases operation with
  | putBytes bucket key content => exact forall_map_ok.trans (putBytes_carries_iff)
  | putStream bucket key contentLength => exact forall_map_ok.trans (putStream_carries_iff bucket)
  | presignPut bucket key contentLength expiresIn =>
      exact forall_map_ok.trans presignPut_carries_iff
  | createMultipart builder =>
      rw [UploadOperation.request, forall_map_ok, Prod.forall]
      exact create_carries_iff
  | uploadFile builder metadata cancelled => exact uploadFile_carries_iff
  | uploadStream builder fileSize cancelled => exact uploadStream_carries_iff
  | copy builder => exact forall_map_ok.trans (copy_carries_iff rfl)

/-- A session that is created with a precomputed digest: the request has no digest. -/
theorem create_drops_checksumValue :
    ∃ sent, (UploadOperation.createMultipart {
        bucket := PresignedMultipart.tiny.bucket
        key := .clip
        fileSize := some 3
        partSize := some minMultipartPartSize }).request .minimal
        { checksumValue := some (.crc32, "AAAAAA==") } = .ok sent ∧
      ¬ Carries { checksumValue := some (.crc32, "AAAAAA==") } sent := by
  let builder : PresignedMultipartBuilder := {
    bucket := PresignedMultipart.tiny.bucket
    key := .clip
    fileSize := some 3
    partSize := some minMultipartPartSize
    options := { checksumValue := some (.crc32, "AAAAAA==") } }
  have created : builder.create .minimal =
      .ok (PresignedMultipart.tiny.plan, builder.createInput) := by decide
  refine ⟨builder.createInput.sent, ?_, not_carries_of_digest rfl (fun _ => rfl)⟩
  rw [UploadOperation.request, map_eq_ok_iff]
  exact ⟨(PresignedMultipart.tiny.plan, builder.createInput), created, rfl⟩

end Carrying

end R2kit
