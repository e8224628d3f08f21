import R2kit.Misc.HttpRange
import R2kit.Object.DownloadFile
import R2kit.Remote

/-!
# Downloads of byte ranges

`ByteRange` and `GetObjectBuilder::send` of `src/object.rs` against a server that reads the
`Range` header for itself. A range that passes the check is never ignored, and ranges that are
asked for under one ETag fit together, whatever is written in between.
-/

namespace R2kit

open Misc

namespace ByteRange

/-- The range that is meant. -/
def spec : ByteRange → HttpRange.Spec
  | bounded start stop => .between start stop
  | fromOffset offset => .onwards offset
  | suffix length => .last length

theorem toList_asHeaderValue (range : ByteRange) :
    range.asHeaderValue.toList = HttpRange.unit ++ range.spec.render := by
  have unit : "bytes=".toList = HttpRange.unit := rfl
  have dash : "-".toList = ['-'] := rfl
  have last : "bytes=-".toList = HttpRange.unit ++ ['-'] := rfl
  cases range <;>
    simp only [asHeaderValue, spec, HttpRange.Spec.render, String.toList_append,
      Nat.toString_eq_ofList_toDigits, String.toList_ofList, unit, dash, last,
      List.append_assoc, List.singleton_append]

theorem validate_ok_iff (range : ByteRange) :
    range.validate = .ok () ↔ range.spec.Formed ∧ range ≠ .suffix 0 := by
  cases range with
  | bounded start stop =>
      simp only [validate, spec, HttpRange.Spec.Formed]
      split
      · simp
        omega
      · simp
        omega
  | fromOffset offset => simp [validate, spec, HttpRange.Spec.Formed]
  | suffix length => cases length <;> simp [validate, spec, HttpRange.Spec.Formed]

/-- The header of a range that was accepted asks for that range. -/
theorem read_asHeaderValue {range : ByteRange} (accepted : range.validate = .ok ()) :
    HttpRange.read range.asHeaderValue.toList = some range.spec := by
  rw [toList_asHeaderValue, HttpRange.read_unit, if_pos (range.validate_ok_iff.mp accepted).1]

end ByteRange

/-- `DownloadedObject`, with the body as it is once all of it has arrived. -/
structure DownloadedObject where
  metadata : ObjectMetadata
  body : List UInt8

/-- `GetObjectBuilder::send`, with what is answered to a request. -/
def GetObjectBuilder.get (dates : HttpDates) (builder : GetObjectBuilder)
    (answer : GetObjectInput → Except SdkError (ObjectOutput × List UInt8)) :
    Except Error DownloadedObject := do
  let input ← builder.send
  match answer input with
  | .error error => .error (mapObjectError "GetObject" error)
  | .ok (output, body) => do
      let metadata ← GetObjectBuilder.answered dates (.ok output)
      .ok { metadata, body }

section Server

/-- The object with another body. -/
def StoredObject.withBody (object : StoredObject) (body : List UInt8) : StoredObject :=
  { object with body }

/-- What a server of objects is free to choose: which requests it fails, also on the conditions
    about time, and what the header fields are in which it is not bound. -/
structure ReadChoices (dates : HttpDates) (scheme : EtagScheme) where
  refuses : GetObjectInput → StoredObject → Option SdkError
  fields : GetObjectInput → StoredObject → List UInt8 → ObjectOutput
  reports : ∀ input (object : StoredObject) body,
    (object.withBody body).Reports dates (fields input object body)
  tagged : ∀ input (object : StoredObject) body,
    (fields input object body).eTag = some (scheme.etag object.body)

/-- Whether the value of `If-Match` or of `If-None-Match` names an ETag. -/
def namesEtag (value etag : String) : Bool := value == "*" || value == etag

/-- The part of a content that a `Range` header asks for. One that is no range is ignored. -/
def selectedBy (header : Option String) (content : List UInt8) : Option (List UInt8) :=
  match header.bind (fun value => HttpRange.read value.toList) with
  | none => some content
  | some spec => spec.select content

variable {dates : HttpDates} {scheme : EtagScheme}

/-- `GetObject` on objects. -/
def ReadChoices.serve (choices : ReadChoices dates scheme)
    (objects : String × String → Option StoredObject) (input : GetObjectInput) :
    Except SdkError (ObjectOutput × List UInt8) :=
  match objects (input.bucket, input.key) with
  | none => .error (.serviceError (some "NoSuchKey") ⟨404, none, none⟩)
  | some object =>
      let etag := scheme.etag object.body
      if input.ifMatch.all (namesEtag · etag) = false then
        .error (.serviceError (some "PreconditionFailed") ⟨412, none, none⟩)
      else if input.ifNoneMatch.any (namesEtag · etag) = true then
        .error (.responseError ⟨304, none, none⟩)
      else
        match choices.refuses input object, selectedBy input.range object.body with
        | some error, _ => .error error
        | none, none => .error (.serviceError (some "InvalidRange") ⟨416, none, none⟩)
        | none, some body => .ok (choices.fields input object body, body)

/-- What a server answers with success is about an object that meets the conditions, and is the
    part of it that was asked for. -/
theorem ReadChoices.serve_ok {choices : ReadChoices dates scheme}
    {objects : String × String → Option StoredObject} {input : GetObjectInput}
    {output : ObjectOutput} {body : List UInt8}
    (served : choices.serve objects input = .ok (output, body)) :
    ∃ object, objects (input.bucket, input.key) = some object ∧
      (∀ value, input.ifMatch = some value → namesEtag value (scheme.etag object.body) = true) ∧
      (∀ value, input.ifNoneMatch = some value →
        namesEtag value (scheme.etag object.body) = false) ∧
      selectedBy input.range object.body = some body ∧
      output = choices.fields input object body := by
  unfold ReadChoices.serve at served
  split at served
  · cases served
  · rename_i object found
    dsimp only at served
    split at served
    · cases served
    · rename_i matched
      split at served
      · cases served
      · rename_i unmatched
        split at served
        · cases served
        · cases served
        · rename_i selected
          cases served
          refine ⟨object, found, ?_, ?_, selected, rfl⟩
          · intro value given
            simpa [given] using matched
          · intro value given
            simpa [given] using unmatched

/-- What a download has read: an object at its key that meets the conditions, and of it exactly
    the bytes that the range asks for, with their number and the ETag of the whole object. -/
structure Reads (scheme : EtagScheme) (builder : GetObjectBuilder)
    (objects : String × String → Option StoredObject) (got : DownloadedObject)
    (key : ObjectKey) (object : StoredObject) : Prop where
  key_eq : builder.key = .ok key
  found : objects (builder.bucket.value, key.value) = some object
  matched : ∀ value, builder.ifMatch = some value →
    namesEtag value (scheme.etag object.body) = true
  unmatched : ∀ value, builder.ifNoneMatch = some value →
    namesEtag value (scheme.etag object.body) = false
  selected : builder.range.elim (some object.body)
    (fun range => range.spec.select object.body) = some got.body
  size : got.metadata.size = got.body.length
  etag : got.metadata.etag = some (scheme.etag object.body)

/-- The range of a request that `send` makes is in its header, and the header says that range. -/
theorem GetObjectBuilder.range_of_send {builder : GetObjectBuilder} {input : GetObjectInput}
    {range : ByteRange} (sent : builder.send = .ok input) (asked : builder.range = some range) :
    ∃ header, input.range = some header ∧ HttpRange.read header.toList = some range.spec := by
  obtain ⟨key, -, ranged, -, rfl⟩ := GetObjectBuilder.send_eq_ok_iff.mp sent
  rw [asked] at ranged
  refine ⟨range.asHeaderValue, ?_, ByteRange.read_asHeaderValue ranged⟩
  rw [GetObjectBuilder.input, asked]
  rfl

/-- A download that succeeds has read what it asked for. -/
theorem reads_of_get {choices : ReadChoices dates scheme} {builder : GetObjectBuilder}
    {objects : String × String → Option StoredObject} {got : DownloadedObject}
    (read : builder.get dates (choices.serve objects) = .ok got) :
    ∃ key object, Reads scheme builder objects got key object := by
  rw [GetObjectBuilder.get, bind_eq_ok_iff] at read
  obtain ⟨input, sent, read⟩ := read
  obtain ⟨key, given, ranged, -, rfl⟩ := GetObjectBuilder.send_eq_ok_iff.mp sent
  split at read
  · cases read
  · rename_i output body served
    obtain ⟨metadata, described, same⟩ := bind_eq_ok_iff.mp read
    cases same
    obtain ⟨object, found, matched, unmatched, selected, rfl⟩ := choices.serve_ok served
    obtain ⟨size, expires, lastModified, sized, -, -, rfl⟩ := readMetadata_eq_ok_iff.mp described
    refine ⟨key, object, given, found, matched, unmatched, ?_, ?_, choices.tagged _ _ _⟩
    · rw [← selected, GetObjectBuilder.input, selectedBy]
      cases asked : builder.range with
      | none => rfl
      | some range =>
          rw [asked] at ranged
          simp only [Option.map_some, Option.bind_some, Option.elim_some,
            ByteRange.read_asHeaderValue ranged]
    · rw [(choices.reports _ _ _).size, nonNegativeSize_length] at sized
      exact (Except.ok.inj sized).symm

end Server

section Tiles

/-- The ranges between cuts, from a place on, and the last one to the end. -/
def ByteRange.tiles : Nat → List Nat → List ByteRange
  | place, [] => [.fromOffset place]
  | place, cut :: cuts => .bounded place (cut - 1) :: tiles cut cuts

theorem ByteRange.map_spec_tiles (place : Nat) (cuts : List Nat) :
    (ByteRange.tiles place cuts).map ByteRange.spec = HttpRange.tiles place cuts := by
  induction cuts generalizing place with
  | nil => rfl
  | cons cut cuts ih => exact congrArg _ (ih cut)

/-- A download at one moment: what stands in the account then, what the server chooses, and
    what is downloaded. -/
structure Moment (dates : HttpDates) (scheme : EtagScheme) where
  objects : String × String → Option StoredObject
  choices : ReadChoices dates scheme
  got : DownloadedObject

/-- The download of one range of the object that has an ETag. -/
def rangedGet (bucket : BucketName) (key : ObjectKey) (etag : String) (range : ByteRange) :
    GetObjectBuilder :=
  { bucket, key := .ok key, range := some range, ifMatch := some etag }

variable {dates : HttpDates} {scheme : EtagScheme} {bucket : BucketName} {key : ObjectKey}
  {etag : String}

/-- Under one ETag every download reads the same content. -/
theorem same_content {range : ByteRange} {moment : Moment dates scheme} {content : List UInt8}
    (single : etag ≠ "*") (known : scheme.etag content = etag)
    (read : (rangedGet bucket key etag range).get dates (moment.choices.serve moment.objects) =
      .ok moment.got) :
    (moment.objects (bucket.value, key.value)).map StoredObject.body = some content ∧
      range.spec.select content = some moment.got.body ∧
      moment.got.metadata.size = moment.got.body.length := by
  obtain ⟨other, object, reads⟩ := reads_of_get read
  obtain rfl : key = other := Except.ok.inj reads.key_eq
  have named := reads.matched etag rfl
  rw [namesEtag, Bool.or_eq_true, beq_iff_eq, beq_iff_eq] at named
  obtain rfl : object.body = content := by
    refine scheme.distinct _ _ ?_
    rw [known]
    exact (named.resolve_left single).symm
  exact ⟨congrArg (Option.map StoredObject.body) reads.found, reads.selected, reads.size⟩

/-- The bytes of downloads one after the other. -/
def assembled (moments : List (Moment dates scheme)) : List UInt8 :=
  (moments.map (fun moment => moment.got.body)).flatten

/-- Downloads of the ranges between cuts, all of the object that has an ETag. -/
def RangedGets (bucket : BucketName) (key : ObjectKey) (etag : String) (cuts : List Nat)
    (moments : List (Moment dates scheme)) : Prop :=
  List.Forall₂ (fun range (moment : Moment dates scheme) =>
    (rangedGet bucket key etag range).get dates (moment.choices.serve moment.objects) =
      .ok moment.got) (ByteRange.tiles 0 cuts) moments

/-- Downloads under one ETag that is none for all are of a content that has it. -/
theorem exists_content {cuts : List Nat} {moments : List (Moment dates scheme)}
    (single : etag ≠ "*") (reads : RangedGets bucket key etag cuts moments) :
    ∃ content, scheme.etag content = etag := by
  have some_range : ∃ range rest, ByteRange.tiles 0 cuts = range :: rest := by
    cases cuts with
    | nil => exact ⟨_, _, rfl⟩
    | cons cut cuts => exact ⟨_, _, rfl⟩
  obtain ⟨range, rest, shape⟩ := some_range
  rw [RangedGets, shape] at reads
  cases reads with
  | cons here _ =>
      obtain ⟨other, object, found⟩ := reads_of_get here
      have named := found.matched etag rfl
      rw [namesEtag, Bool.or_eq_true, beq_iff_eq, beq_iff_eq] at named
      exact ⟨object.body, (named.resolve_left single).symm⟩

/-- They are of one version of the object, each byte once and in its place. -/
theorem assembled_of_reads {cuts : List Nat} {moments : List (Moment dates scheme)}
    (ascending : (0 :: cuts).Pairwise (· < ·)) (single : etag ≠ "*")
    (reads : RangedGets bucket key etag cuts moments) :
    scheme.etag (assembled moments) = etag ∧
      (∀ moment ∈ moments, (moment.objects (bucket.value, key.value)).map StoredObject.body =
        some (assembled moments)) ∧
      (moments.map (fun moment => moment.got.metadata.size)).sum = (assembled moments).length := by
  obtain ⟨content, known⟩ := exists_content single reads
  have each := reads.imp (fun range moment read => same_content single known read)
  have whole : assembled moments = content := by
    have pieces : List.Forall₂ (fun spec piece => spec.select content = some piece)
        (HttpRange.tiles 0 cuts) (moments.map (fun moment => moment.got.body)) := by
      rw [← ByteRange.map_spec_tiles, List.forall₂_map_left_iff, List.forall₂_map_right_iff]
      exact each.imp (fun _ _ told => told.2.1)
    rw [assembled, HttpRange.flatten_tiles ascending pieces, List.drop_zero]
  have told : ∀ moment ∈ moments, (moment.objects (bucket.value, key.value)).map
      StoredObject.body = some content ∧ moment.got.metadata.size = moment.got.body.length := by
    have turned : List.Forall₂ (fun (moment : Moment dates scheme) (_ : ByteRange) =>
        ((moment.objects (bucket.value, key.value)).map StoredObject.body = some content ∧
          moment.got.metadata.size = moment.got.body.length) ∧ True)
        moments (ByteRange.tiles 0 cuts) :=
      List.Forall₂.flip (each.imp (fun _ _ one => ⟨⟨one.1, one.2.2⟩, trivial⟩))
    exact ((List.forall₂_and_left _ _).mp turned).1
  refine ⟨by rw [whole, known], ?_, ?_⟩
  · rw [whole]
    exact fun moment member => (told moment member).1
  · rw [assembled, List.length_flatten, List.map_map]
    congr 1
    exact List.map_congr_left (fun moment member => (told moment member).2)

/-- A range that is accepted is never ignored: its header is read back as that range, and a
    download gives exactly the bytes it asks for of an object that meets its conditions. And an
    object that is downloaded in ranges under one ETag, in any number of requests and with
    anything written to the account between them, comes out as one version of it: the content
    that has the ETag, each byte once and in its place. -/
theorem ranged_download_whole (dates : HttpDates) (scheme : EtagScheme) :
    (∀ (builder : GetObjectBuilder) (range : ByteRange) (input : GetObjectInput),
      builder.range = some range → builder.send = .ok input →
      ∃ header, input.range = some header ∧
        HttpRange.read header.toList = some range.spec) ∧
    (∀ (choices : ReadChoices dates scheme) (builder : GetObjectBuilder)
      (objects : String × String → Option StoredObject) (got : DownloadedObject),
      builder.get dates (choices.serve objects) = .ok got →
      ∃ key object, Reads scheme builder objects got key object) ∧
    ∀ (bucket : BucketName) (key : ObjectKey) (etag : String) (cuts : List Nat)
      (moments : List (Moment dates scheme)), (0 :: cuts).Pairwise (· < ·) → etag ≠ "*" →
      RangedGets bucket key etag cuts moments →
      scheme.etag (assembled moments) = etag ∧
        (∀ moment ∈ moments, (moment.objects (bucket.value, key.value)).map StoredObject.body =
          some (assembled moments)) ∧
        (moments.map (fun moment => moment.got.metadata.size)).sum =
          (assembled moments).length := by
  refine ⟨?_, ?_, ?_⟩
  · intro builder range input asked sent
    exact GetObjectBuilder.range_of_send sent asked
  · intro choices builder objects got read
    exact reads_of_get read
  · intro bucket key etag cuts moments ascending single reads
    exact assembled_of_reads ascending single reads

/-- A server that reports all that it has stored, and refuses nothing. -/
def ReadChoices.faithful (dates : HttpDates) (scheme : EtagScheme) : ReadChoices dates scheme where
  refuses _ _ := none
  fields _ object body := {
    contentLength := some body.length
    eTag := some (scheme.etag object.body)
    contentType := object.headers.contentType.map fieldValue
    cacheControl := object.headers.cacheControl.map fieldValue
    contentDisposition := object.headers.contentDisposition.map fieldValue
    contentEncoding := object.headers.contentEncoding.map fieldValue
    contentLanguage := object.headers.contentLanguage.map fieldValue
    expiresString := object.headers.expires.bind dates.format
    lastModified := none
    metadata := some ((object.metadata.getD []).map (Prod.map id fieldValue)) }
  reports _ _ _ := ⟨rfl, fun _ => rfl, fun _ => rfl, fun _ => rfl, fun _ => rfl,
    fun _ => rfl, fun _ => rfl, List.Perm.refl _⟩
  tagged _ _ _ := rfl

theorem ok_of_toOption {α : Type} {result : Except Error α} {got : α}
    (is : result.toOption = some got) : result = .ok got := by
  cases result with
  | error error => cases is
  | ok found => exact congrArg Except.ok (Option.some.inj is)

/-- Three bytes in two requests, between which another object is written, and the last two of
    them under a condition that they meet. -/
theorem ranged_download_whole_clip :
    (∃ moments : List (Moment .epoch .plain), moments.length = 2 ∧
      assembled moments = [65, 66, 67] ∧
      (moments.map (fun moment => moment.got.metadata.size)).sum = 3) ∧
    ∃ (builder : GetObjectBuilder) (input : GetObjectInput) (header : String)
      (got : DownloadedObject), builder.range = some (.suffix 2) ∧
      builder.ifNoneMatch = some "other" ∧ builder.send = .ok input ∧
      input.range = some header ∧ HttpRange.read header.toList = some (.last 2) ∧
      got.body = [66, 67] ∧ got.metadata.size = 2 := by
  let bucket := UploadFileBuilder.clip.bucket
  let etag := EtagScheme.plain.etag [65, 66, 67]
  let clip := UploadFileBuilder.clip.written [65, 66, 67]
  let before : String × String → Option StoredObject :=
    fun place => if place.2 = "clip" then some clip else none
  let after : String × String → Option StoredObject :=
    fun place => if place.2 = "clip" then some clip else some (clip.withBody [1])
  let choices : ReadChoices .epoch .plain := .faithful .epoch .plain
  obtain ⟨asks, gives, whole⟩ := ranged_download_whole .epoch .plain
  have downloaded : ∀ (builder : GetObjectBuilder) objects body,
      (builder.get .epoch (choices.serve objects)).toOption.map DownloadedObject.body =
        some body →
      ∃ got, builder.get .epoch (choices.serve objects) = .ok got ∧ got.body = body := by
    intro builder objects body executed
    obtain ⟨got, is, same⟩ := Option.map_eq_some_iff.mp executed
    exact ⟨got, ok_of_toOption is, same⟩
  constructor
  · obtain ⟨one, first, -⟩ := downloaded (rangedGet bucket .clip etag (.bounded 0 1)) before
      [65, 66] (by decide)
    obtain ⟨two, second, -⟩ := downloaded (rangedGet bucket .clip etag (.fromOffset 2)) after
      [67] (by decide)
    let moments : List (Moment .epoch .plain) := [⟨before, choices, one⟩, ⟨after, choices, two⟩]
    obtain ⟨-, same, sizes⟩ := whole bucket .clip etag [2] moments
      (by decide) (by decide) (.cons first (.cons second .nil))
    have content : assembled moments = [65, 66, 67] :=
      (Option.some.inj (same ⟨before, choices, one⟩ List.mem_cons_self)).symm
    rw [content] at sizes
    exact ⟨moments, rfl, content, sizes⟩
  · let builder : GetObjectBuilder :=
      { bucket, key := .ok .clip, range := some (.suffix 2), ifNoneMatch := some "other" }
    obtain ⟨header, carried, means⟩ := asks builder (.suffix 2) (builder.input .clip) rfl rfl
    obtain ⟨got, read, same⟩ := downloaded builder before [66, 67] (by decide)
    obtain ⟨key, object, reads⟩ := gives choices builder before got read
    have size := reads.size
    rw [same] at size
    exact ⟨builder, _, header, got, rfl, rfl, rfl, carried, means, same, size⟩

end Tiles

end R2kit
