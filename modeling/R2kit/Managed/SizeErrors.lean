import R2kit.Managed.Accounting
import R2kit.Managed.Adaptive
import R2kit.Object.Carried

/-!
# Errors about sizes

`UploadFileBuilder::send` of `src/managed.rs` ends in an error about a size only where the selected
branch cannot carry the file: every other check on the way, local or after an answer, has an
error of another kind.
-/

namespace R2kit

open Misc

/-- The errors that turn a size down: of a file, of a part, or of the number of parts. -/
def Error.isSizeLimit : Error → Bool
  | .validation (.partSizeOutOfRange _ _ _) => true
  | .validation .multipartFileSizeZero => true
  | .validation (.multipartObjectTooLarge _ _) => true
  | .validation (.tooManyParts _ _) => true
  | .validation (.singleUploadTooLarge _ _) => true
  | _ => false

/-- Whatever the check fails with, it is not about a size. -/
def Unsized {α : Type} (checked : Except Error α) : Prop :=
  ∀ error, checked = .error error → error.isSizeLimit = false

section Checks

variable {α β : Type} {crates : Crates} {options : ObjectUploadOptions}

theorem unsized_ok (value : α) : Unsized (.ok value) := nofun

theorem unsized_of_eq_ok {checked : Except Error α} {value : α} (passed : checked = .ok value) :
    Unsized checked := by
  rw [passed]
  exact unsized_ok value

theorem unsized_error {error : Error} (other : error.isSizeLimit = false) :
    Unsized (.error error : Except Error α) := by
  rintro _ ⟨⟩
  exact other

theorem Unsized.bind {first : Except Error α} {next : α → Except Error β}
    (checked : Unsized first) (later : ∀ value, first = .ok value → Unsized (next value)) :
    Unsized (first >>= next) := by
  intro error failed
  rcases bind_eq_error_iff.mp failed with here | ⟨value, passed, there⟩
  · exact checked error here
  · exact later value passed error there

theorem unsized_whenSome {value : Option α} {check : α → Except Error Unit}
    (checked : ∀ given, value = some given → Unsized (check given)) :
    Unsized (whenSome value check) := by
  cases value with
  | none => exact unsized_ok ()
  | some given => exact checked given rfl

theorem unsized_validateMetadataHeader (field value : String) :
    Unsized (validateMetadataHeader field value) := by
  unfold validateMetadataHeader
  split
  · exact unsized_error rfl
  · split
    · exact unsized_ok ()
    · exact unsized_error rfl

theorem unsized_validateContentLanguage (value : String) :
    Unsized (validateContentLanguage crates value) := by
  refine (unsized_validateMetadataHeader _ value).bind (fun _ _ => ?_)
  split
  · exact unsized_error rfl
  · exact unsized_ok ()

theorem unsized_validateMetadataKey (key : String) : Unsized (validateMetadataKey key) := by
  unfold validateMetadataKey
  split
  · exact unsized_error rfl
  · split
    · exact unsized_error rfl
    · split
      · exact unsized_ok ()
      · exact unsized_error rfl

theorem unsized_validateChecksumValue (algorithm : ChecksumAlgorithm) (value : String) :
    Unsized (validateChecksumValue algorithm value) := by
  unfold validateChecksumValue
  split
  · exact unsized_error rfl
  · split
    · exact unsized_error rfl
    · exact unsized_ok ()

theorem unsized_countCustom (entries : List (String × String))
    {normalized : Std.TreeMap String Unit} {totalBytes : Nat} :
    Unsized (ObjectUploadOptions.countCustom normalized totalBytes entries) := by
  induction entries generalizing normalized totalBytes with
  | nil => exact unsized_ok totalBytes
  | cons entry rest ih =>
      obtain ⟨key, value⟩ := entry
      refine (unsized_validateMetadataKey key).bind (fun _ _ =>
        (unsized_validateMetadataHeader _ value).bind (fun _ _ => ?_))
      split
      · exact unsized_error rfl
      · exact ih

/-- The content type was given, or could not be parsed, for a reason other than a size. -/
def ObjectUploadOptions.ParsedType (options : ObjectUploadOptions) : Prop :=
  ∀ parsed, options.contentType = some parsed → Unsized parsed

theorem unsized_validate (parsed : options.ParsedType) : Unsized (options.validate crates) := by
  have header (field : String) {value : Option String} :
      Unsized (whenSome value (validateMetadataHeader field)) :=
    unsized_whenSome (fun given _ => unsized_validateMetadataHeader field given)
  unfold ObjectUploadOptions.validate
  refine Unsized.bind (unsized_whenSome (fun given is => ?_)) (fun _ _ =>
    (header "content_disposition").bind (fun _ _ => (header "content_encoding").bind (fun _ _ =>
    (header "if_match").bind (fun _ _ => (header "if_none_match").bind (fun _ _ => Unsized.bind
    (unsized_whenSome (fun given _ => unsized_validateContentLanguage given)) (fun _ _ =>
    Unsized.bind (unsized_whenSome (fun given _ => unsized_validateChecksumValue given.1 given.2))
    (fun _ _ => (unsized_countCustom _).bind (fun _ _ => ?_))))))))
  · cases given with
    | ok mime => exact unsized_ok ()
    | error error => exact unsized_error (parsed _ is error rfl)
  · split
    · exact unsized_error rfl
    · exact unsized_ok ()

theorem unsized_validateLimits (partSize concurrency maxAttempts maxBufferedBytes : Nat) :
    Unsized (ManagedMultipartBuilder.validateLimits partSize concurrency maxAttempts
      maxBufferedBytes) := by
  unfold ManagedMultipartBuilder.validateLimits
  split
  · exact unsized_error rfl
  · split
    · exact unsized_error rfl
    · split
      · exact unsized_error rfl
      · exact unsized_ok ()

theorem unsized_rejectStreamChecksum : Unsized (rejectStreamChecksum options) := by
  unfold rejectStreamChecksum
  split
  · exact unsized_error rfl
  · exact unsized_ok ()

theorem unsized_rejectUnsupported :
    Unsized (ManagedMultipartBuilder.rejectUnsupported options) ∧
      Unsized (PresignedMultipartBuilder.rejectUnsupported options) := by
  unfold ManagedMultipartBuilder.rejectUnsupported PresignedMultipartBuilder.rejectUnsupported
  constructor
  · split
    · exact unsized_error rfl
    · split
      · exact unsized_error rfl
      · exact unsized_ok ()
  · split
    · exact unsized_error rfl
    · split
      · exact unsized_error rfl
      · exact unsized_ok ()

/-- A single PUT is turned down for its size only beyond what it may hold. -/
theorem unsized_putStream {bucket : BucketName} {key : ObjectKey} {contentLength : Nat}
    (parsed : options.ParsedType) (small : contentLength ≤ maxUploadSize) :
    Unsized (putStreamWithOptions crates bucket (.ok key) contentLength options) :=
  (unsized_ok key).bind (fun _ _ => (unsized_validate parsed).bind (fun _ _ =>
    unsized_rejectStreamChecksum.bind (fun _ _ =>
      (unsized_of_eq_ok (rejectLargePut_ok_iff.mpr small)).bind (fun _ _ => unsized_ok _))))

theorem unsized_putBytes {bucket : BucketName} {key : ObjectKey} (parsed : options.ParsedType) :
    Unsized (putBytesWithOptions crates bucket (.ok key) [] options) := by
  refine Unsized.bind ?_ (fun resolved accepted => unsized_putStream ?_ (Nat.zero_le _))
  · unfold resolveChecksum
    split
    · split
      · exact unsized_ok _
      · exact unsized_error rfl
    · exact unsized_ok options
  · rcases resolveChecksum_eq_ok accepted with rfl | ⟨algorithm, value, -, -, rfl⟩
    · exact parsed
    · exact parsed

end Checks

section Session

variable {transfer : Transfer} {fingerprint : SourceFileFingerprint}

/-- An outcome of the upload whose error, if it has one, is not about a size. -/
def Ending.Unsized : Ending → Prop
  | .finished (.error (.error error)) => error.isSizeLimit = false
  | _ => True

theorem unsized_start (session : PresignedMultipart) (manifest : PartMap)
    (uploadedParts reusedParts : Nat) :
    (Ending.start session manifest uploadedParts reusedParts).1.Unsized := by
  have manifests : R2kit.Unsized (CompletionManifest.tryFromParts (intoValues manifest)) := by
    unfold CompletionManifest.tryFromParts
    split
    · exact unsized_error rfl
    · unfold CompletionManifest.ofMap
      split
      · exact unsized_error rfl
      · exact unsized_ok _
  unfold Ending.start
  split
  · rename_i error failed
    exact manifests error failed
  · split
    · rename_i completion _ error failed
      unfold PresignedMultipart.completeRequest at failed
      split at failed
      · cases failed
      · cases failed
        rfl
    · trivial

theorem unsized_onCompleted (session : PresignedMultipart) (uploadedParts reusedParts : Nat)
    (answer : Except SdkError (Option String)) :
    (Ending.onCompleted session uploadedParts reusedParts answer).Unsized := by
  cases answer with
  | error error => rfl
  | ok etag => trivial

theorem unsized_readPart (view : FileView) (partSize : Nat) (number : PartNumber)
    (length : Nat) : Unsized (readPart view partSize number length) := by
  unfold readPart
  split
  · exact unsized_error rfl
  · split
    · exact unsized_error rfl
    · split
      · exact unsized_error rfl
      · split
        · exact unsized_error rfl
        · split
          · split
            · exact unsized_ok _
            · exact unsized_error rfl
          · exact unsized_error rfl

theorem unsized_uploadPartAnswer (number : PartNumber)
    (answer : Except SdkError (Option String)) : Unsized (uploadPartAnswer number answer) := by
  unfold uploadPartAnswer
  split
  · exact unsized_error rfl
  · exact unsized_error rfl
  · unfold UploadedPart.new
    split
    · exact unsized_error rfl
    · exact unsized_ok _

/-- The future of a part fails for its file or for its answer. -/
theorem unsized_onTask {uploads : Uploads} {number : PartNumber} {event : TaskEvent}
    {error : Error} (failed : uploads.onTask transfer number event = some (.failed error)) :
    error.isSizeLimit = false := by
  obtain ⟨task, -, -, stepped⟩ := Uploads.failed_cases failed
  rcases PartTask.step_cases stepped with ⟨_, _, -, -, unread, same⟩ | ⟨_, _, -, -, -, other⟩ |
    ⟨_, _, _, _, _, -, -, -, same⟩ | ⟨_, _, _, _, _, -, -, -, other⟩ | ⟨_, _, _, -, -, other⟩
  · cases same
    exact unsized_readPart _ _ _ _ _ unread
  · cases other
  · exact unsized_uploadPartAnswer _ _ _ (TaskStep.finished.inj same).symm
  · cases other
  · cases other

/-- A new upload lists nothing, and ends in no error about a size. -/
def RunState.Unsized : RunState → Prop
  | .listing _ => False
  | .ending outcome => outcome.Unsized
  | _ => True

theorem failed_unsized {error : Error} (other : error.isSizeLimit = false) :
    (RunState.failed error).Unsized :=
  other

theorem afterUploads_unsized {reused : PartMap} {queue : List (PartNumber × Nat)}
    {uploads : Uploads} : (Transfer.afterUploads reused queue uploads).Unsized := by
  unfold Transfer.afterUploads
  split <;> trivial

theorem runFile_unsized_step {s s' : RunState} {event : RunEvent} {out : List Effect}
    (fresh : transfer.builder.resume = none) (holds : s.Unsized)
    (taken : (transfer.runFile fingerprint).step s event = some (s', out)) : s'.Unsized := by
  cases Transfer.runStep_of_step taken with
  | list resumed =>
      rw [fresh] at resumed
      cases resumed
  | fresh new =>
      have shape := @prepare_eq transfer [] (List.forall_mem_nil _) List.nodup_nil
      dsimp only at shape
      rw [shape]
      exact afterUploads_unsized
  | unlisted failed => exact holds.elim
  | page accepted => exact holds.elim
  | lastPage accepted => exact holds.elim
  | start room => trivial
  | partFailed failed => exact unsized_onTask failed
  | part moved => exact afterUploads_unsized
  | changed differs =>
      rename_i metadata
      cases metadata <;> exact failed_unsized rfl
  | unchanged same => exact unsized_start _ _ _ _
  | completed => exact unsized_onCompleted _ _ _ _

end Session

section Call

variable {crates : Crates} {managed : ManagedMultipartBuilder} {fileSize : Nat}

/-- A new upload that has a plan for a file of this size. -/
structure ManagedMultipartBuilder.Fits (managed : ManagedMultipartBuilder) (fileSize : Nat) :
    Prop where
  fresh : managed.resume = none
  parsed : managed.options.ParsedType
  partSize : validatePartSize managed.partSize = .ok ()
  planned : ∃ plan, MultipartPlan.new fileSize managed.partSize = .ok plan

theorem ManagedMultipartBuilder.Fits.validate (fits : managed.Fits fileSize) :
    Unsized (managed.validate crates) := by
  refine (unsized_of_eq_ok fits.partSize).bind (fun _ _ =>
    (unsized_validateLimits _ _ _ _).bind (fun _ _ =>
    (unsized_validate fits.parsed).bind (fun _ _ =>
    unsized_rejectUnsupported.1.bind (fun _ _ => ?_))))
  split
  · exact unsized_error rfl
  · exact unsized_ok ()

/-- What `create` turns down is not the size, which has a plan. -/
theorem ManagedMultipartBuilder.Fits.create (fits : managed.Fits fileSize)
    {request : PresignedMultipartBuilder}
    (built : managed.sessionBuilder fileSize = .ok request) : Unsized (request.create crates) := by
  obtain ⟨plan, planned⟩ := fits.planned
  obtain ⟨key, same⟩ := ManagedMultipartBuilder.sessionBuilder_of_new fits.fresh fileSize
  rw [built] at same
  cases same
  refine (unsized_validate fits.parsed).bind (fun _ _ =>
    (unsized_ok fileSize).bind (fun _ is => ?_))
  cases is
  refine (unsized_ok managed.partSize).bind (fun _ is => ?_)
  cases is
  exact (unsized_of_eq_ok planned).bind (fun _ _ => (unsized_validate fits.parsed).bind
    (fun _ _ => unsized_rejectUnsupported.2.bind (fun _ _ => unsized_ok _)))

theorem ManagedMultipartBuilder.Fits.start (fits : managed.Fits fileSize) {boot : FileBoot}
    (sized : ∀ file, boot.metadata = some file → file.len = fileSize) {error : Error}
    (failed : managed.beginFile crates boot.metadata boot.cancelled = .failed error) :
    error.isSizeLimit = false := by
  unfold ManagedMultipartBuilder.beginFile at failed
  split at failed
  · rename_i invalid
    cases failed
    exact fits.validate error invalid
  · split at failed
    · cases failed
      rfl
    · rename_i file found
      split at failed
      · cases failed
        rfl
      · split at failed
        · cases failed
          rfl
        · rw [fits.fresh, sized file found] at failed
          obtain ⟨key, built⟩ :=
            ManagedMultipartBuilder.sessionBuilder_of_new fits.fresh fileSize
          simp only [ManagedMultipartBuilder.beginNew, built] at failed
          split at failed
          · rename_i rejected
            cases failed
            exact fits.create built error rejected
          · cases failed

/-- A call whose error, when it has one, is not about a size. -/
def CallUnsized : CallState FileBoot RunState → Prop
  | .running _ _ inner => inner.Unsized
  | .aborting _ error => error.isSizeLimit = false
  | .returned (.error failure) => failure.error.isSizeLimit = false
  | _ => True

theorem afterStartError_unsized {session : PresignedMultipart} {error : Error}
    {state : CallState FileBoot RunState} {out : List Effect}
    (other : error.isSizeLimit = false)
    (left : afterStartError managed session error = (state, out)) : CallUnsized state := by
  unfold afterStartError at left
  split at left
  · cases left
    exact other
  · cases left
    exact other

/-- What `run` ends in is what the call goes on with. -/
theorem settle_unsized {session : PresignedMultipart} {inner : RunState}
    {result : Outcome ManagedUploadResult} {state : CallState FileBoot RunState}
    {out : List Effect} (holds : inner.Unsized)
    (finished : (uploadFile crates managed).ending inner = some (.finished result))
    (left : settle managed session result = (state, out)) : CallUnsized state := by
  have ended : inner = .ending (.finished result) := by
    cases inner with
    | ending outcome =>
        cases finished
        rfl
    | ready | listing _ | uploading _ _ _ | checking _ _ _ => cases finished
  subst ended
  cases result with
  | ok result =>
      cases left
      trivial
  | error fault =>
      cases fault with
      | error error => exact afterStartError_unsized holds left
      | panic site =>
          cases left
          trivial

theorem callUnsized_step (fits : managed.Fits fileSize) {s s' : CallState FileBoot RunState}
    {event : CallEvent FileBoot RunEvent} {out : List Effect}
    (sized : ∀ boot file, event = .poll boot → boot.metadata = some file → file.len = fileSize)
    (holds : CallUnsized s)
    (taken : (managedCall managed (uploadFile crates managed)).step s event = some (s', out)) :
    CallUnsized s' := by
  cases callStep_of_step taken with
  | failed failed => exact fits.start (fun file => sized _ file rfl) failed
  | create new => trivial
  | resume resumed => trivial
  | uncreated failed =>
      rename_i answer error
      unfold PresignedMultipartBuilder.created at failed
      split at failed
      · cases failed
        rfl
      · cases failed
        rfl
      · cases failed
  | created made => trivial
  | inner moved unsettled => exact runFile_unsized_step fits.fresh holds moved
  | settled moved finished left =>
      exact settle_unsized (runFile_unsized_step fits.fresh holds moved) finished left
  | cancelled token left => exact afterStartError_unsized rfl left
  | aborted =>
      rename_i answer
      cases answer <;> exact holds

end Call

section Send

variable {crates : Crates} {builder : UploadFileBuilder} {fileSize : Nat}

/-- The metadata from which an event of `send` takes the size of the file. -/
def SendEvent.sized : SendEvent → Option Metadata
  | .poll _ metadata => metadata
  | .call (.poll boot) => boot.metadata
  | _ => none

/-- A builder whose key and content type were turned down, if at all, for something other than
    a size: `ObjectKey::new` and the parser of media types know no other errors. -/
structure UploadFileBuilder.Parsed (builder : UploadFileBuilder) : Prop where
  key : Unsized builder.key
  contentType : builder.options.ParsedType

/-- Where `send` is with a file of this size, when its branch can carry it. -/
def SendUnsized (fileSize : Nat) : SendState → Prop
  | .opening _ file => file.len = fileSize ∧ fileSize ≤ maxUploadSize
  | .multipart _ managed call => managed.Fits fileSize ∧ CallUnsized call
  | .returned (.error error) => error.isSizeLimit = false
  | _ => True

theorem SendState.failed_unsized {error : Error} (other : error.isSizeLimit = false) :
    SendUnsized fileSize (.failed error) :=
  other

theorem managed_fits {key : ObjectKey} {partSize : Nat} {managed : ManagedMultipartBuilder}
    (parsed : builder.options.ParsedType)
    (carries : TransferStrategy.Carries fileSize (.multipart partSize))
    (made : builder.managed key partSize = .ok managed) : managed.Fits fileSize := by
  cases made
  exact ⟨rfl, parsed, carries.1, carries.2⟩

/-- The selected branch goes on with a file that it can carry. -/
theorem dispatch_unsized {key : ObjectKey} {file : Metadata} {state : SendState}
    {out : List SendEffect} (parsed : builder.options.ParsedType)
    (carries : (builder.strategy file.len).Carries file.len)
    (dispatched : dispatch crates builder key file = (state, out)) :
    SendUnsized file.len state := by
  unfold dispatch at dispatched
  split at dispatched
  · cases checked : putBytesWithOptions crates builder.bucket (.ok key) [] builder.options with
    | error error =>
        rw [checked] at dispatched
        cases dispatched
        exact unsized_putBytes parsed error checked
    | ok input =>
        rw [checked] at dispatched
        cases dispatched
        trivial
  · rename_i selected
    rw [selected] at carries
    cases dispatched
    exact ⟨rfl, rejectLargePut_ok_iff.mp carries⟩
  · rename_i partSize selected
    rw [selected] at carries
    split at dispatched
    · rename_i failed
      cases failed
    · rename_i managed made
      cases dispatched
      exact ⟨managed_fits parsed carries made, trivial⟩

theorem beginSend_unsized (parsed : builder.Parsed)
    (valid : validatePartSize builder.partSize = .ok ())
    (carries : (builder.strategy fileSize).Carries fileSize) {cancelled : Bool}
    {metadata : Option Metadata} (sized : ∀ file, metadata = some file → file.len = fileSize)
    {state : SendState} {out : List SendEffect}
    (begun : beginSend crates builder cancelled metadata = (state, out)) :
    SendUnsized fileSize state := by
  have checks : Unsized (builder.validate crates) :=
    (unsized_validate parsed.contentType).bind (fun _ _ =>
      (unsized_of_eq_ok valid).bind (fun _ _ => unsized_validateLimits _ _ _ _))
  unfold beginSend at begun
  split at begun
  · rename_i error failed
    cases begun
    exact checks error failed
  · split at begun
    · rename_i error failed
      cases begun
      exact parsed.key error failed
    · split at begun
      · cases begun
        exact SendState.failed_unsized rfl
      · split at begun
        · cases begun
          exact SendState.failed_unsized rfl
        · rename_i file
          split at begun
          · cases begun
            exact SendState.failed_unsized rfl
          · obtain rfl := sized file rfl
            exact dispatch_unsized parsed.contentType carries begun

theorem sendUnsized_step (parsed : builder.Parsed)
    (valid : validatePartSize builder.partSize = .ok ())
    (carries : (builder.strategy fileSize).Carries fileSize) {s s' : SendState}
    {event : SendEvent} {out : List SendEffect}
    (sized : ∀ file, event.sized = some file → file.len = fileSize)
    (holds : SendUnsized fileSize s)
    (taken : (send crates builder).step s event = some (s', out)) : SendUnsized fileSize s' := by
  cases sendStep_of_step taken with
  | start begun => exact beginSend_unsized parsed valid carries sized begun
  | opened sent =>
      rename_i key file
      cases checked : putStreamWithOptions crates builder.bucket (.ok key) file.len
          builder.options with
      | error error =>
          rw [checked] at sent
          cases sent
          exact unsized_putStream parsed.contentType (holds.1 ▸ holds.2) error checked
      | ok input =>
          rw [checked] at sent
          cases sent
          trivial
  | unopened | cancelled _ | deleted => exact SendState.failed_unsized rfl
  | putFailed failed =>
      rename_i answer _
      cases answer with
      | ok etag => cases failed
      | error reason =>
          cases failed
          unfold putObjectError
          split <;> exact SendState.failed_unsized rfl
  | put length => trivial
  | checked found =>
      unfold checkSource at found
      split at found
      · cases found
        exact SendState.failed_unsized rfl
      · split at found <;> cases found <;> trivial
  | call moved =>
      rename_i key managed call event next out
      have kept : CallUnsized next := by
        refine callUnsized_step holds.1 ?_ holds.2 moved
        rintro boot file rfl found
        exact sized file found
      unfold onCall
      split
      · trivial
      · exact kept
      · trivial
      · exact ⟨holds.1, kept⟩

/-- No run of `send` that finds one size ends in an error about a size, for a part size that the
    crate accepts and a file that R2 can store, unless it comes to a single PUT for more than one
    may hold. -/
theorem send_never_rejects_size (valid : validatePartSize builder.partSize = .ok ())
    (storable : fileSize ≤ maxMultipartObjectSize)
    (fits : ¬ (maxUploadSize < fileSize ∧ fileSize < builder.threshold.bytes))
    (parsed : builder.Parsed) {history : History SendEvent SendEffect} {error : Error}
    (run : (send crates builder).Reaches .ready history (.returned (.error error)))
    (sized : ∀ event ∈ history.events, ∀ file, event.sized = some file → file.len = fileSize) :
    error.isSizeLimit = false := by
  have carries := strategy_carries valid storable fits
  have holds : SendUnsized fileSize (.returned (.error error)) := by
    refine run.invariant (P := fun history state =>
      (∀ event ∈ history.events, ∀ file, event.sized = some file → file.len = fileSize) →
        SendUnsized fileSize state) ?_ ?_ sized
    · intro _
      trivial
    · intro history s event s' out _ ih taken sized
      rw [History.forall_events_snoc] at sized
      exact sendUnsized_step parsed valid carries sized.2 (ih sized.1) taken
  exact holds

end Send

end R2kit
