import R2kit.FailureKinds
import R2kit.Listing
import R2kit.Managed.SourceCheck
import R2kit.Object.Download
import R2kit.Object.Metadata

/-!
# Reading what an upload has written

`ObjectMetadata` of `src/object.rs`, as `GetObjectBuilder::send` and `HeadObjectBuilder::send` read
it off an answer, and what an answer reports of a stored object. A header field is carried
without the blanks around it, an HTTP date without fractions of a second.
-/

namespace R2kit

open Misc

/-- An instant without the fraction of its second. -/
def wholeSeconds (time : SystemTime) : SystemTime := time / 1000000000 * 1000000000

/-- The SDK's rendering and parsing of HTTP dates. -/
structure HttpDates where
  format : SystemTime → Option String
  parse : String → Option DateTime
  parse_format : ∀ time text, format time = some text →
    parse text = some ⟨some (wholeSeconds time)⟩

/-- The metadata of an object, as the crate returns it. -/
structure ObjectMetadata where
  size : Nat
  etag : Option String
  contentType : Option String
  cacheControl : Option String
  contentDisposition : Option String
  contentEncoding : Option String
  contentLanguage : Option String
  expires : Option SystemTime
  lastModified : Option SystemTime
  custom : Std.TreeMap String String

/-- What is read of a `GetObject` or a `HeadObject` answer. The metadata are the entries of a
    hash map, in any order. -/
structure ObjectOutput where
  contentLength : Option Int
  eTag : Option String
  contentType : Option String
  cacheControl : Option String
  contentDisposition : Option String
  contentEncoding : Option String
  contentLanguage : Option String
  expiresString : Option String
  lastModified : Option DateTime
  metadata : Option (List (String × String))
  deriving DecidableEq

section Reading

variable (dates : HttpDates)

/-- A date in a header, which may be absent but must parse. -/
def optionalHttpDate (value : Option String) (operation : String) :
    Except Error (Option SystemTime) :=
  match value with
  | none => .ok none
  | some text =>
      match dates.parse text with
      | none => .error (.service operation)
      | some time => optionalSystemTime (some time) operation

/-- The metadata in an answer to `GetObject` or to `HeadObject`. -/
def readMetadata (operation : String) (output : ObjectOutput) : Except Error ObjectMetadata := do
  let size ← nonNegativeSize output.contentLength operation
  let expires ← optionalHttpDate dates output.expiresString operation
  let lastModified ← optionalSystemTime output.lastModified operation
  .ok {
    size
    etag := output.eTag
    contentType := output.contentType
    cacheControl := output.cacheControl
    contentDisposition := output.contentDisposition
    contentEncoding := output.contentEncoding
    contentLanguage := output.contentLanguage
    expires
    lastModified
    custom := putAll ∅ (output.metadata.getD []) }

/-- The rest of both operations, after the answer. -/
def objectAnswer (operation : String) (answer : Except SdkError ObjectOutput) :
    Except Error ObjectMetadata :=
  match answer with
  | .error error => .error (mapObjectError operation error)
  | .ok output => readMetadata dates operation output

/-- The rest of `GetObjectBuilder::send`, without the body. -/
def GetObjectBuilder.answered : Except SdkError ObjectOutput → Except Error ObjectMetadata :=
  objectAnswer dates "GetObject"

/-- The rest of `HeadObjectBuilder::send`. -/
def HeadObjectBuilder.answered : Except SdkError ObjectOutput → Except Error ObjectMetadata :=
  objectAnswer dates "HeadObject"

end Reading

section Reports

/-- A text as a header field carries it. -/
def fieldValue (text : String) : String :=
  String.ofList (((text.toList.dropWhile blank).reverse.dropWhile blank).reverse)
where
  blank (char : Char) : Bool := char == ' ' || char == '\t'

/-- A header that was stored is sent back. -/
def Returned (stored answered : Option String) : Prop :=
  stored.isSome → answered = stored

instance (stored answered : Option String) : Decidable (Returned stored answered) :=
  inferInstanceAs (Decidable (_ → _))

/-- What an answer says of a stored object, where R2 has no choice. -/
@[mk_iff]
structure StoredObject.Reports (dates : HttpDates) (object : StoredObject)
    (output : ObjectOutput) : Prop where
  size : output.contentLength = some (object.body.length : Int)
  contentType : Returned (object.headers.contentType.map fieldValue) output.contentType
  cacheControl : Returned (object.headers.cacheControl.map fieldValue) output.cacheControl
  contentDisposition :
    Returned (object.headers.contentDisposition.map fieldValue) output.contentDisposition
  contentEncoding :
    Returned (object.headers.contentEncoding.map fieldValue) output.contentEncoding
  contentLanguage :
    Returned (object.headers.contentLanguage.map fieldValue) output.contentLanguage
  expires : Returned (object.headers.expires.bind dates.format) output.expiresString
  metadata : (output.metadata.getD []).Perm
    ((object.metadata.getD []).map (Prod.map id fieldValue))

instance (dates : HttpDates) (object : StoredObject) (output : ObjectOutput) :
    Decidable (object.Reports dates output) :=
  decidable_of_iff _ (StoredObject.reports_iff dates object output).symm

/-- An answer that says of an object all that is stored with it. -/
def StoredObject.output (dates : HttpDates) (object : StoredObject) : ObjectOutput where
  contentLength := some object.body.length
  eTag := none
  contentType := object.headers.contentType.map fieldValue
  cacheControl := object.headers.cacheControl.map fieldValue
  contentDisposition := object.headers.contentDisposition.map fieldValue
  contentEncoding := object.headers.contentEncoding.map fieldValue
  contentLanguage := object.headers.contentLanguage.map fieldValue
  expiresString := object.headers.expires.bind dates.format
  lastModified := none
  metadata := some ((object.metadata.getD []).map (Prod.map id fieldValue))

theorem StoredObject.reports_output (dates : HttpDates) (object : StoredObject) :
    object.Reports dates (object.output dates) :=
  ⟨rfl, fun _ => rfl, fun _ => rfl, fun _ => rfl, fun _ => rfl, fun _ => rfl, fun _ => rfl,
    List.Perm.refl _⟩

end Reports

/-- The metadata say what the options and the content of an upload were. -/
structure ObjectMetadata.ReadsBack (dates : HttpDates) (options : ObjectUploadOptions)
    (content : List UInt8) (metadata : ObjectMetadata) : Prop where
  size : metadata.size = content.length
  contentType : ∀ mime, options.mime = some mime →
    metadata.contentType = some (fieldValue mime.rendered)
  cacheControl : ∀ cache, options.cacheControl = some cache →
    metadata.cacheControl = some (fieldValue cache.encoded)
  contentDisposition : ∀ value, options.contentDisposition = some value →
    metadata.contentDisposition = some (fieldValue value)
  contentEncoding : ∀ value, options.contentEncoding = some value →
    metadata.contentEncoding = some (fieldValue value)
  contentLanguage : ∀ value, options.contentLanguage = some value →
    metadata.contentLanguage = some (fieldValue value)
  expires : ∀ time text, options.expires = some time → dates.format time = some text →
    metadata.expires = some (wholeSeconds time)
  /-- Each configured entry is there under its lowercase key, and no other is. -/
  custom : ∀ name value, metadata.custom[name]? = some value ↔
    ∃ key sent, options.custom[key]? = some sent ∧ toAsciiLowercase key = name ∧
      fieldValue sent = value

section RoundTrip

variable {dates : HttpDates} {operation : String} {output : ObjectOutput}
  {metadata : ObjectMetadata}

theorem readMetadata_eq_ok_iff :
    readMetadata dates operation output = .ok metadata ↔
      ∃ size expires lastModified,
        nonNegativeSize output.contentLength operation = .ok size ∧
        optionalHttpDate dates output.expiresString operation = .ok expires ∧
        optionalSystemTime output.lastModified operation = .ok lastModified ∧
        metadata = ⟨size, output.eTag, output.contentType, output.cacheControl,
          output.contentDisposition, output.contentEncoding, output.contentLanguage, expires,
          lastModified, putAll ∅ (output.metadata.getD [])⟩ := by
  simp only [readMetadata, bind_eq_ok_iff]
  constructor
  · rintro ⟨size, sized, expires, expiring, lastModified, modified, same⟩
    cases same
    exact ⟨size, expires, lastModified, sized, expiring, modified, rfl⟩
  · rintro ⟨size, expires, lastModified, sized, expiring, modified, rfl⟩
    exact ⟨size, sized, expires, expiring, lastModified, modified, rfl⟩

theorem nonNegativeSize_length (length : Nat) :
    nonNegativeSize (some (length : Int)) operation = .ok length := by
  simp [nonNegativeSize, okOrService]

/-- Such an answer is read without an error. -/
theorem readMetadata_output (dates : HttpDates) (operation : String) (object : StoredObject) :
    ∃ metadata, readMetadata dates operation (object.output dates) = .ok metadata := by
  have expiring : ∃ expires,
      optionalHttpDate dates (object.output dates).expiresString operation = .ok expires := by
    cases formatted : object.headers.expires.bind dates.format with
    | none =>
        rw [StoredObject.output, formatted]
        exact ⟨none, rfl⟩
    | some text =>
        obtain ⟨time, -, sent⟩ := Option.bind_eq_some_iff.mp formatted
        rw [StoredObject.output, formatted, optionalHttpDate, dates.parse_format time text sent]
        exact ⟨_, rfl⟩
  obtain ⟨expires, expiring⟩ := expiring
  exact ⟨_, readMetadata_eq_ok_iff.mpr ⟨_, expires, none, nonNegativeSize_length _, expiring, rfl,
    rfl⟩⟩

/-- A header that is sent back is read as it was stored. -/
theorem Returned.eq {stored answered : Option String} (returned : Returned stored answered)
    {value : String} (is : stored = some value) : answered = some value := by
  rw [returned (by rw [is]; rfl), is]

/-- A date that was sent is read back in whole seconds. -/
theorem expires_of_returned {stored : Option SystemTime} {answered : Option String}
    {expires : Option SystemTime} {time : SystemTime} {text : String}
    (returned : Returned (stored.bind dates.format) answered) (is : stored = some time)
    (sent : dates.format time = some text)
    (read : optionalHttpDate dates answered operation = .ok expires) :
    expires = some (wholeSeconds time) := by
  have formatted : stored.bind dates.format = some text := by
    rw [is, Option.bind_some, sent]
  rw [returned.eq formatted, optionalHttpDate, dates.parse_format time text sent] at read
  cases read
  rfl

theorem customMetadataValues_listed {crates : Crates} {options : ObjectUploadOptions}
    (valid : options.validate crates = .ok ()) :
    (options.customMetadataValues.getD []).Perm
      (options.custom.toList.map ObjectUploadOptions.lowercased) := by
  cases sent : options.customMetadataValues with
  | some values => exact (options.sentWhole_of_validate valid).ascending values sent
  | none =>
      rw [ObjectUploadOptions.customMetadataValues] at sent
      split at sent
      · rename_i nothing
        rw [← Std.TreeMap.isEmpty_toList, List.isEmpty_iff] at nothing
        rw [nothing]
        exact List.Perm.refl []
      · cases sent

/-- The entries of valid options that are sent, in whatever order they come back. -/
theorem custom_of_returned {crates : Crates} {options : ObjectUploadOptions}
    (valid : options.validate crates = .ok ()) {answered : List (String × String)}
    (returned : answered.Perm
      ((options.customMetadataValues.getD []).map (Prod.map id fieldValue)))
    (name value : String) :
    (putAll (∅ : Std.TreeMap String String) answered)[name]? = some value ↔
      ∃ key sent, options.custom[key]? = some sent ∧ toAsciiLowercase key = name ∧
        fieldValue sent = value := by
  have listed : answered.Perm ((options.custom.toList.map ObjectUploadOptions.lowercased).map
      (Prod.map id fieldValue)) :=
    returned.trans ((customMetadataValues_listed valid).map _)
  have distinct : (answered.map Prod.fst).Nodup := by
    rw [(listed.map Prod.fst).nodup_iff, List.map_map]
    exact ObjectUploadOptions.nodup_lowercased valid
  rw [getElem?_putAll, Std.TreeMap.getElem?_emptyc, Option.or_none, lastValue_eq_some_iff distinct,
    listed.mem_iff, List.mem_map]
  constructor
  · rintro ⟨lowered, member, same⟩
    obtain ⟨⟨key, sent⟩, configured, rfl⟩ := List.mem_map.mp member
    cases same
    exact ⟨key, sent, Std.TreeMap.mem_toList_iff_getElem?_eq_some.mp configured, rfl, rfl⟩
  · rintro ⟨key, sent, configured, rfl, rfl⟩
    exact ⟨(toAsciiLowercase key, sent), List.mem_map.mpr
      ⟨(key, sent), ObjectUploadOptions.mem_custom_toList configured, rfl⟩, rfl⟩

/-- What an upload has written is read back: every header and every custom entry of its options,
    with the blanks around a value gone, the fraction of a second cut off a date, and the keys of
    the metadata in lower case. -/
theorem readsBack_of_reports {crates : Crates} {options : ObjectUploadOptions}
    {content : List UInt8} (valid : options.validate crates = .ok ())
    (reports : StoredObject.Reports dates
      ⟨content, options.applyTo, options.customMetadataValues⟩ output)
    (read : readMetadata dates operation output = .ok metadata) :
    metadata.ReadsBack dates options content := by
  obtain ⟨size, expires, lastModified, sized, expiring, -, rfl⟩ := readMetadata_eq_ok_iff.mp read
  constructor
  · rw [reports.size, nonNegativeSize_length] at sized
    exact (Except.ok.inj sized).symm
  · intro mime given
    exact reports.contentType.eq (by rw [ObjectUploadOptions.applyTo, given]; rfl)
  · intro cache given
    exact reports.cacheControl.eq (by rw [ObjectUploadOptions.applyTo, given]; rfl)
  · intro value given
    exact reports.contentDisposition.eq (by rw [ObjectUploadOptions.applyTo, given]; rfl)
  · intro value given
    exact reports.contentEncoding.eq (by rw [ObjectUploadOptions.applyTo, given]; rfl)
  · intro value given
    exact reports.contentLanguage.eq (by rw [ObjectUploadOptions.applyTo, given]; rfl)
  · intro time text given sent
    exact expires_of_returned reports.expires given sent expiring
  · exact custom_of_returned valid reports.metadata

/-- What the labelled options say of type and owner is read back. -/
theorem ObjectMetadata.ReadsBack.labels {content : List UInt8}
    (reads : metadata.ReadsBack dates .labelled content) :
    metadata.contentType = some "text/plain" ∧ metadata.custom["owner"]? = some "ada" := by
  refine ⟨reads.contentType ⟨"text/plain"⟩ rfl, (reads.custom _ _).mpr ?_⟩
  exact ⟨"Owner", "ada", by decide, by decide, by decide⟩

end RoundTrip

end R2kit
