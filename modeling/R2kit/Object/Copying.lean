import R2kit.Managed.RoundTrip
import R2kit.Object.CopySource
import R2kit.Object.Ranges

/-!
# Copies of objects

`CopyObjectBuilder::send` of `src/object.rs` with the server that carries the copy out. The server
finds the source by the header alone. What a copy leaves of the metadata is said by the builder,
over any number of copies of copies.
-/

namespace R2kit

open Misc

/-- `CopyObjectResult` in an answer. -/
structure CopiedOutput where
  eTag : Option String
  lastModified : Option DateTime

/-- `CopyObject` in an answer. -/
structure CopyObjectOutput where
  copyObjectResult : Option CopiedOutput

/-- `CopyObjectResult` as the crate returns it. -/
structure CopyObjectResult where
  etag : Option String
  lastModified : Option SystemTime

/-- `CopyObjectBuilder::send` from the answer on. -/
def copyAnswer (answer : Except SdkError CopyObjectOutput) : Except Error CopyObjectResult :=
  match answer with
  | .error error => .error (mapObjectError "CopyObject" error)
  | .ok output => do
      let result ← okOrService "CopyObject" output.copyObjectResult
      let lastModified ← optionalSystemTime result.lastModified "CopyObject"
      .ok { etag := result.eTag, lastModified }

/-- What stands at the places of an account. -/
abbrev Objects := String × String → Option StoredObject

/-- The object that a copy writes. -/
def CopyObjectInput.copied (input : CopyObjectInput) (source : StoredObject) : StoredObject :=
  match input.metadataDirective with
  | .copy => source
  | .replace => {
      body := source.body
      headers := input.headers.getD (ObjectUploadOptions.applyTo {})
      metadata := input.metadata }

/-- What a server is free to choose when it copies: how it reads a source, what it fails before
    it has acted, also on the conditions about the source, and what it answers afterwards. -/
structure CopyChoices where
  reader : SourceReader
  refuses : CopyObjectInput → StoredObject → Option SdkError
  answers : CopyObjectInput → StoredObject → Except SdkError CopyObjectOutput

/-- `CopyObject` on objects. -/
def CopyChoices.serve (choices : CopyChoices) (objects : Objects) (input : CopyObjectInput) :
    Objects × Except SdkError CopyObjectOutput :=
  match (choices.reader.read input.copySource).bind objects with
  | none => (objects, .error (.serviceError (some "NoSuchKey") ⟨404, none, none⟩))
  | some source =>
      match choices.refuses input source with
      | some error => (objects, .error error)
      | none =>
          (Function.update objects (input.bucket, input.key) (some (input.copied source)),
            choices.answers input source)

namespace CopyObjectBuilder

/-- `send`, on objects. -/
def copy (crates : Crates) (choices : CopyChoices) (objects : Objects)
    (builder : CopyObjectBuilder) : Objects × Except Error CopyObjectResult :=
  match builder.send crates with
  | .error error => (objects, .error error)
  | .ok input => Prod.map id copyAnswer (choices.serve objects input)

/-- The place that is copied from. -/
def origin (builder : CopyObjectBuilder) : Option (String × String) :=
  match builder.sourceKey, unpackBucket builder.sourceBucket with
  | .ok key, .ok bucket => some ((bucket.getD builder.bucket).value, key.value)
  | _, _ => none

/-- The place that is copied to. -/
def target (builder : CopyObjectBuilder) : Option (String × String) :=
  builder.destinationKey.toOption.map (fun key => (builder.bucket.value, key.value))

/-- The options that the copy of an object with these options has. -/
def leaves (options : ObjectUploadOptions) (builder : CopyObjectBuilder) : ObjectUploadOptions :=
  match builder.metadataOptions with
  | some replacement => replacement
  | none => if builder.metadataDirective = some .replace then {} else options

end CopyObjectBuilder

/-- An object as it is written under these options. -/
def ObjectUploadOptions.stored (options : ObjectUploadOptions) (content : List UInt8) :
    StoredObject where
  body := content
  headers := options.applyTo
  metadata := options.customMetadataValues

section Copy

variable {crates : Crates} {choices : CopyChoices} {objects after : Objects}
  {builder : CopyObjectBuilder} {outcome : Except Error CopyObjectResult}

/-- A server leaves everything as it is, or has found the source and written its copy. -/
theorem CopyChoices.serve_cases (choices : CopyChoices) (objects : Objects)
    (input : CopyObjectInput) :
    (∃ error, choices.serve objects input = (objects, .error error)) ∨
      ∃ source, (choices.reader.read input.copySource).bind objects = some source ∧
        choices.serve objects input =
          (Function.update objects (input.bucket, input.key) (some (input.copied source)),
            choices.answers input source) := by
  unfold CopyChoices.serve
  split
  · exact Or.inl ⟨_, rfl⟩
  · rename_i source found
    split
    · exact Or.inl ⟨_, rfl⟩
    · exact Or.inr ⟨source, found, rfl⟩

/-- Everything a copy can come to. -/
inductive Copied (crates : Crates) (objects : Objects) (builder : CopyObjectBuilder) :
    Objects → Except Error CopyObjectResult → Prop
  | failed {error} : Copied crates objects builder objects (.error error)
  | written {input place destination source outcome} (sent : builder.send crates = .ok input)
      (from_place : builder.origin = some place) (to_place : builder.target = some destination)
      (found : objects place = some source) :
      Copied crates objects builder
        (Function.update objects destination (some (input.copied source))) outcome

theorem copied_of_copy (ran : builder.copy crates choices objects = (after, outcome)) :
    Copied crates objects builder after outcome := by
  unfold CopyObjectBuilder.copy at ran
  split at ran
  · cases ran
    exact .failed
  · rename_i input sent
    obtain ⟨sourceKey, sourceBucket, given, unpacked, source_eq⟩ := send_copySource sent
    have from_place : builder.origin =
        some ((sourceBucket.getD builder.bucket).value, sourceKey.value) := by
      rw [CopyObjectBuilder.origin, given, unpacked]
    have to_place : builder.target = some (input.bucket, input.key) := by
      have built := sent
      simp only [CopyObjectBuilder.send, bind_eq_ok_iff] at built
      obtain ⟨_, -, destination, named, _, -, _, -, _, -, _, -, same⟩ := built
      cases same
      rw [CopyObjectBuilder.target, named]
      rfl
    rcases choices.serve_cases objects input with ⟨error, served⟩ | ⟨source, found, served⟩
    · rw [served] at ran
      cases ran
      exact .failed
    · rw [source_eq, read_copySource, Option.bind_some] at found
      rw [served] at ran
      cases ran
      exact .written sent from_place to_place found

/-- The copy of an object that was written under options is one that is written under the
    options that the builder leaves. -/
theorem copied_stored {input : CopyObjectInput} {options : ObjectUploadOptions}
    (sent : builder.send crates = .ok input) (content : List UInt8) :
    input.copied (options.stored content) = (builder.leaves options).stored content := by
  simp only [CopyObjectBuilder.send, bind_eq_ok_iff] at sent
  obtain ⟨_, -, _, -, _, -, _, -, _, -, _, checked, built⟩ := sent
  cases built
  cases given : builder.metadataOptions with
  | none =>
      cases directive : builder.metadataDirective with
      | none => simp [CopyObjectInput.copied, CopyObjectBuilder.leaves, given, directive]
      | some asked =>
          cases asked with
          | copy => simp [CopyObjectInput.copied, CopyObjectBuilder.leaves, given, directive]
          | replace =>
              simp [CopyObjectInput.copied, CopyObjectBuilder.leaves, given, directive,
                ObjectUploadOptions.stored]
              rfl
  | some replacement =>
      rw [given] at checked
      have kept := (CopyObjectBuilder.checkOptions_ok_iff.mp checked).2.1
      cases directive : builder.metadataDirective with
      | none => simp [CopyObjectInput.copied, CopyObjectBuilder.leaves, given,
          ObjectUploadOptions.stored]
      | some asked =>
          cases asked with
          | copy => exact absurd directive kept
          | replace => simp [CopyObjectInput.copied, CopyObjectBuilder.leaves, given,
              ObjectUploadOptions.stored]

/-- The options that a copy leaves are valid. -/
theorem valid_leaves {input : CopyObjectInput} {options : ObjectUploadOptions}
    (sent : builder.send crates = .ok input) (valid : options.validate crates = .ok ()) :
    (builder.leaves options).validate crates = .ok () := by
  simp only [CopyObjectBuilder.send, bind_eq_ok_iff] at sent
  obtain ⟨_, -, _, -, _, -, _, -, _, -, _, checked, -⟩ := sent
  unfold CopyObjectBuilder.leaves
  split
  · rename_i replacement given
    rw [given] at checked
    exact (CopyObjectBuilder.checkOptions_ok_iff.mp checked).1
  · split
    · rfl
    · exact valid

end Copy

section Chains

/-- Copies of copies, from one place to another one. Between them anything may be written to the
    account but to the place that is copied from next. -/
inductive Copies (crates : Crates) :
    Objects → String × String → List CopyObjectBuilder → Objects → String × String → Prop
  | done {objects place} : Copies crates objects place [] objects place
  | copied {objects builder choices after result meanwhile place next rest final last}
      (origin : builder.origin = some place) (target : builder.target = some next)
      (ran : builder.copy crates choices objects = (after, .ok result))
      (kept : meanwhile next = after next)
      (later : Copies crates meanwhile next rest final last) :
      Copies crates objects place (builder :: rest) final last

variable {crates : Crates} {choices : CopyChoices} {objects after final : Objects}
  {builder : CopyObjectBuilder} {outcome : Except Error CopyObjectResult}
  {place last : String × String}

/-- Whatever comes of a copy, only its target is written, and only with all of its source. -/
theorem copy_frame (ran : builder.copy crates choices objects = (after, outcome))
    (other : String × String) :
    after other = objects other ∨ builder.target = some other ∧ ∃ origin source,
      builder.origin = some origin ∧ objects origin = some source ∧
        (after other).map StoredObject.body = some source.body := by
  cases copied_of_copy ran with
  | failed => exact Or.inl rfl
  | @written input origin destination source _ sent from_place to_place found =>
      by_cases same : other = destination
      · subst same
        refine Or.inr ⟨to_place, origin, source, from_place, found, ?_⟩
        rw [Function.update_self, CopyObjectInput.copied]
        split <;> rfl
      · exact Or.inl (Function.update_of_ne same _ _)

/-- At the end of a chain of copies stands the content of its start, under the options that the
    copies leave. -/
theorem stored_of_copies {builders : List CopyObjectBuilder} {options : ObjectUploadOptions}
    {content : List UInt8} (run : Copies crates objects place builders final last)
    (valid : options.validate crates = .ok ())
    (stands : objects place = some (options.stored content)) :
    (builders.foldl CopyObjectBuilder.leaves options).validate crates = .ok () ∧
      final last = some ((builders.foldl CopyObjectBuilder.leaves options).stored content) := by
  induction run generalizing options with
  | done => exact ⟨valid, stands⟩
  | @copied objects builder choices after result meanwhile place next rest final last origin
      target ran kept later ih =>
      cases copied_of_copy ran with
      | @written input place' destination source _ sent from_place to_place found =>
          cases origin.symm.trans from_place
          cases target.symm.trans to_place
          cases stands.symm.trans found
          refine ih (valid_leaves sent valid) ?_
          rw [kept, Function.update_self, copied_stored sent]

/-- A server that refuses no copy. -/
def CopyChoices.plain : CopyChoices where
  reader := ⟨false, false⟩
  refuses _ _ := none
  answers _ _ := .ok ⟨some ⟨none, none⟩⟩

/-- A copy that is sent for an object that stands is carried out. -/
theorem copy_written {input : CopyObjectInput} {source : StoredObject}
    (sent : builder.send crates = .ok input) (origin : builder.origin = some place)
    (found : objects place = some source) :
    builder.copy crates .plain objects =
      (Function.update objects (input.bucket, input.key) (some (input.copied source)),
        .ok ⟨none, none⟩) := by
  obtain ⟨sourceKey, sourceBucket, given, unpacked, source_eq⟩ := send_copySource sent
  have from_place : builder.origin =
      some ((sourceBucket.getD builder.bucket).value, sourceKey.value) := by
    rw [CopyObjectBuilder.origin, given, unpacked]
  cases origin.symm.trans from_place
  have read : (CopyChoices.plain.reader.read input.copySource).bind objects = some source := by
    rw [source_eq, read_copySource, Option.bind_some]
    exact found
  simp only [CopyObjectBuilder.copy, sent, CopyChoices.serve, read]
  rfl

end Chains

/-- An upload that has returned a result, copies of it and of its copies in any number, and any
    download of the last one that returns a result: the file holds the bytes that were
    uploaded, and the metadata say what the last options said that were given. A copy that
    fails, like every other one, leaves all places but its target alone. -/
theorem copies_come_back (dates : HttpDates) (crates : Crates) (builder : UploadFileBuilder)
    (scheme : EtagScheme) (content : List UInt8) (key last : ObjectKey) (account : Account)
    (uploaded : History (NetEvent SendEvent StoreChoice Empty) SendEffect)
    (net : Net SendState SendEffect StoreAnswer Account) (result : TransferResult)
    (builders : List CopyObjectBuilder) (final : Objects) (bucket : BucketName)
    (prior : Option (List UInt8)) (downloaded : History DownloadEvent GetObjectInput)
    (world : DownloadWorld) (metadata : ObjectMetadata) (given : builder.key = .ok key)
    (steady : ∀ event ∈ uploaded.events, Steady content event)
    (up : (sendProtocol crates builder scheme).net.Reaches (Net.start .ready account) uploaded
      net) (returned : net.client = .returned (.ok result))
    (copies : Copies crates net.server.objects (builder.place key) builders final
      (bucket.value, last.value))
    (down : (downloadWorld dates bucket (.ok last) final).Reaches (.start prior) downloaded world)
    (done : world.client = .returned (.ok metadata)) :
    (world.file = some content ∧ metadata.size = result.size ∧
      metadata.ReadsBack dates (builders.foldl CopyObjectBuilder.leaves builder.options) content) ∧
    ∀ (choices : CopyChoices) (objects : Objects) (copy : CopyObjectBuilder) (after : Objects)
      (outcome : Except Error CopyObjectResult),
      copy.copy crates choices objects = (after, outcome) → ∀ place,
        after place = objects place ∨ copy.target = some place ∧ ∃ origin source,
          copy.origin = some origin ∧ objects origin = some source ∧
            (after place).map StoredObject.body = some source.body := by
  obtain ⟨-, size, stands⟩ := (sending_of_reaches given steady up).delivers returned
  have valid := valid_of_returned up returned
  obtain ⟨left_valid, left⟩ := stored_of_copies copies valid stands
  obtain ⟨file, reads⟩ := downloaded_of_stored left_valid left down done
  exact ⟨⟨file, reads.size.trans size.symm, reads⟩, fun _ _ _ _ _ ran => copy_frame ran⟩

/-- A key to copy to. -/
def ObjectKey.copied : ObjectKey := ⟨"copied", by decide⟩

/-- Another one. -/
def ObjectKey.relabelled : ObjectKey := ⟨"relabelled", by decide⟩

/-- A copy that keeps the metadata. -/
def CopyObjectBuilder.keeping : CopyObjectBuilder where
  bucket := UploadFileBuilder.labelled.bucket
  sourceKey := .ok .clip
  destinationKey := .ok .copied

/-- Options with another typed header and another custom entry. -/
def ObjectUploadOptions.relabelled : ObjectUploadOptions where
  contentDisposition := some "attachment"
  custom := (∅ : Std.TreeMap String String).insert "Editor" "bob"

/-- A copy of that copy, with these options. -/
def CopyObjectBuilder.relabelling : CopyObjectBuilder where
  bucket := UploadFileBuilder.labelled.bucket
  sourceKey := .ok .copied
  destinationKey := .ok .relabelled
  metadataOptions := some .relabelled

/-- A file of three parts up, copied, the copy copied with other metadata, and both down. -/
theorem copies_come_back_labelled :
    ∃ (first second : DownloadWorld) (kept changed : ObjectMetadata),
      first.client = .returned (.ok kept) ∧ first.file = some threeContent ∧
      kept.contentType = some "text/plain" ∧ kept.custom["owner"]? = some "ada" ∧
      second.client = .returned (.ok changed) ∧ second.file = some threeContent ∧
      changed.contentDisposition = some "attachment" ∧
      changed.custom["editor"]? = some "bob" := by
  obtain ⟨uploaded, net, up, returned, steady⟩ := reaches_labelled length_threeContent
  have stands := ((sending_of_reaches rfl steady up).delivers returned).2.2
  let bucket := UploadFileBuilder.labelled.bucket
  let copied : Objects := Function.update net.server.objects (bucket.value, "copied")
    (some (ObjectUploadOptions.labelled.stored threeContent))
  let changed : Objects := Function.update copied (bucket.value, "relabelled")
    (some (ObjectUploadOptions.relabelled.stored threeContent))
  have once : Copies .minimal net.server.objects (UploadFileBuilder.labelled.place .clip)
      [.keeping] copied (bucket.value, "copied") :=
    .copied rfl rfl (copy_written rfl rfl stands) rfl .done
  have twice : Copies .minimal net.server.objects (UploadFileBuilder.labelled.place .clip)
      [.keeping, .relabelling] changed (bucket.value, "relabelled") := by
    refine .copied rfl rfl (copy_written rfl rfl stands) rfl ?_
    exact .copied rfl rfl (copy_written rfl rfl (Function.update_self _ _ _)) rfl .done
  obtain ⟨begun, first, kept, down, done, -⟩ :=
    @download_finishes .epoch copied bucket (.ok .copied) _
      ⟨.copied, rfl, Function.update_self _ _ _⟩ none
  obtain ⟨⟨file, -, reads⟩, -⟩ := copies_come_back .epoch .minimal .labelled .plain threeContent
    .clip .copied .empty uploaded net _ [.keeping] copied bucket none begun first kept rfl steady
    up returned once down done
  obtain ⟨again, second, given, down', done', -⟩ :=
    @download_finishes .epoch changed bucket (.ok .relabelled) _
      ⟨.relabelled, rfl, Function.update_self _ _ _⟩ none
  obtain ⟨⟨file', -, reads'⟩, -⟩ := copies_come_back .epoch .minimal .labelled .plain
    threeContent .clip .relabelled .empty uploaded net _ [.keeping, .relabelling] changed bucket
    none again second given rfl steady up returned twice down' done'
  have editor : ∃ key sent, ObjectUploadOptions.relabelled.custom[key]? = some sent ∧
      toAsciiLowercase key = "editor" ∧ fieldValue sent = "bob" :=
    ⟨"Editor", "bob", by decide, by decide, by decide⟩
  exact ⟨first, second, kept, given, done, file, reads.labels.1, reads.labels.2, done', file',
    reads'.contentDisposition "attachment" rfl, (reads'.custom _ _).mpr editor⟩

end R2kit
