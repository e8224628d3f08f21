import R2kit.Managed.Call
import R2kit.Multipart.Tiling
import R2kit.Object.Requests

/-!
# The adaptive upload of a file

`UploadFileBuilder::send` of `src/managed.rs` as a machine that waits for one thing at a
time: a single PUT for files below the threshold, `ManagedMultipartBuilder::upload_file` for
the others. The options go through either way.
-/

namespace R2kit

open Misc

/-- `UploadFileBuilder` with its defaults; the key is what parsing it has given. -/
structure UploadFileBuilder where
  bucket : BucketName
  key : Except Error ObjectKey
  options : ObjectUploadOptions := {}
  threshold : UploadThreshold := .default
  partSize : Nat := defaultPartSize
  concurrency : Nat := defaultConcurrency
  maxAttempts : Nat := defaultMaxAttempts
  maxBufferedBytes : Nat := defaultMaxBufferedBytes
  cancellation : Bool := false
  progress : Bool := false

/-- The way that a file took, as the result reports it. -/
inductive TransferStrategyUsed where
  | singlePut
  | multipart (partCount : Nat)
  deriving DecidableEq

/-- Successful outcome of an adaptive upload. -/
structure TransferResult where
  key : ObjectKey
  etag : String
  size : Nat
  strategy : TransferStrategyUsed
  deriving DecidableEq

/-- What the progress callback of an adaptive upload is told. -/
structure TransferProgress where
  transferredBytes : Nat
  totalBytes : Nat
  isMultipart : Bool
  deriving DecidableEq

/-- The branches of `send`. -/
inductive TransferStrategy where
  | emptyPut
  | streamPut
  | multipart (partSize : Nat)
  deriving DecidableEq

namespace UploadFileBuilder

/-- `UploadFileBuilder::validate`, before the file is looked at. -/
def validate (crates : Crates) (builder : UploadFileBuilder) : Except Error Unit := do
  builder.options.validate crates
  validatePartSize builder.partSize
  ManagedMultipartBuilder.validateLimits builder.partSize builder.concurrency
    builder.maxAttempts builder.maxBufferedBytes

/-- The part size that fits the file into 10,000 parts. -/
def effectivePartSize (builder : UploadFileBuilder) (fileSize : Nat) : Nat :=
  max builder.partSize (divCeil fileSize maxParts)

/-- The branch that `send` takes for a file of this size. -/
def strategy (builder : UploadFileBuilder) (fileSize : Nat) : TransferStrategy :=
  if fileSize = 0 then .emptyPut
  else if fileSize < builder.threshold.bytes then .streamPut
  else .multipart (builder.effectivePartSize fileSize)

/-- The builder that the multipart branch goes on with. -/
def managed (builder : UploadFileBuilder) (key : ObjectKey) (partSize : Nat) :
    Except Error ManagedMultipartBuilder := do
  let managed ← builder.bucket.managedMultipart (.ok key)
  .ok {
    managed with
    options := builder.options
    partSize
    concurrency := builder.concurrency
    maxAttempts := builder.maxAttempts
    maxBufferedBytes := builder.maxBufferedBytes
    cancellation := builder.cancellation
    progress := builder.progress }

end UploadFileBuilder

/-- What `send` does to the outside. -/
inductive SendEffect where
  | put (input : PutObjectInput)
  | delete (bucket key : String)
  | report (progress : TransferProgress)
  | create (input : CreateMultipartUploadInput)
  | send (request : Request)
  deriving DecidableEq

/-- An effect of the multipart branch; its progress is passed on in another form. -/
def SendEffect.ofManaged : Effect → SendEffect
  | .create input => .create input
  | .send request => .send request
  | .report progress => .report {
      transferredBytes := progress.transferredBytes
      totalBytes := progress.totalBytes
      isMultipart := true }

/-- Where `send` is. -/
inductive SendState where
  | ready
  | opening (key : ObjectKey) (file : Metadata)
  | putting (key : ObjectKey) (file : Metadata) (input : PutObjectInput)
  | checking (key : ObjectKey) (file : Metadata) (etag : Option String)
  | deleting (key : ObjectKey)
  | multipart (key : ObjectKey) (managed : ManagedMultipartBuilder)
      (call : CallState FileBoot RunState)
  | returned (result : Except Error TransferResult)
  | panicked (site : String)

/-- What `send` waits for. A PUT reads its body from the file while it is sent. -/
inductive SendEvent where
  | poll (cancelled : Bool) (metadata : Option Metadata)
  | opened (succeeded : Bool)
  | put (body : List UInt8) (answer : Except SdkError (Option String))
  | cancelled
  | checked (metadata : Option Metadata)
  | deleted (answer : Except SdkError Unit)
  | call (event : CallEvent FileBoot RunEvent)
  deriving DecidableEq

/-- `send` has returned an error. -/
def SendState.failed (error : Error) : SendState := .returned (.error error)

/-- What an answered `PutObject` and an unchanged file make. -/
def putResult (key : ObjectKey) (size : Nat) (etag : Option String) : TransferResult where
  key := key
  etag := etag.getD ""
  size := size
  strategy := .singlePut

section Send

variable (crates : Crates) (builder : UploadFileBuilder)

/-- A PUT that has passed its local checks is sent. -/
def sendPut (key : ObjectKey) (file : Metadata) (checked : Except Error PutObjectInput) :
    SendState × List SendEffect :=
  match checked with
  | .error error => (.failed error, [])
  | .ok input => (.putting key file input, [.put input])

/-- From the metadata of the file to the first thing the branch waits for. -/
def dispatch (key : ObjectKey) (file : Metadata) : SendState × List SendEffect :=
  match builder.strategy file.len with
  | .emptyPut =>
      sendPut key file (putBytesWithOptions crates builder.bucket (.ok key) [] builder.options)
  | .streamPut => (.opening key file, [])
  | .multipart partSize =>
      match builder.managed key partSize with
      | .error error => (.failed error, [])
      | .ok managed => (.multipart key managed .ready, [])

/-- The start of `send`, in the order of its checks. -/
def beginSend (cancelled : Bool) (metadata : Option Metadata) : SendState × List SendEffect :=
  match builder.validate crates with
  | .error error => (.failed error, [])
  | .ok () =>
      match builder.key with
      | .error error => (.failed error, [])
      | .ok key =>
          if builder.cancellation ∧ cancelled then (.failed .cancelled, [])
          else
            match metadata with
            | none => (.failed (.io "metadata"), [])
            | some file =>
                if ¬ file.isFile then
                  (.failed (.invalidInput "path" "must identify a regular file"), [])
                else dispatch crates builder key file

/-- The check of the source after a PUT: only a change that can be seen is cleaned up. -/
def checkSource (key : ObjectKey) (file : Metadata) (etag : Option String)
    (metadata : Option Metadata) : SendState × List SendEffect :=
  match metadata with
  | none => (.failed (.io "metadata"), [])
  | some found =>
      if ¬ (SourceFileFingerprint.fromMetadata file).matchesMetadata found then
        (.deleting key, [.delete builder.bucket.value key.value])
      else
        (.returned (.ok (putResult key file.len etag)),
          if builder.progress then [.report ⟨file.len, file.len, false⟩] else [])

/-- The multipart branch going on. -/
def onCall (key : ObjectKey) (managed : ManagedMultipartBuilder) :
    CallState FileBoot RunState → SendState
  | .returned (.ok result) => .returned (.ok {
      key
      etag := result.object.etag.getD ""
      size := result.fileSize
      strategy := .multipart result.partCount })
  | .returned (.error failure) => .failed failure.error
  | .panicked site => .panicked site
  | call => .multipart key managed call

/-- `UploadFileBuilder::send`. -/
def send : Machine SendState SendEvent SendEffect where
  step
    | .ready, .poll cancelled metadata => some (beginSend crates builder cancelled metadata)
    | .opening key file, .opened succeeded =>
        if succeeded then
          some (sendPut key file (putStreamWithOptions crates builder.bucket (.ok key) file.len
            builder.options))
        else some (.failed (.io "open"), [])
    | .putting key file input, .put body answer =>
        match putObjectAnswer answer with
        | .error error => some (.failed error, [])
        | .ok etag =>
            if body.length = input.contentLength then some (.checking key file etag, [])
            else none
    | .putting _ _ _, .cancelled =>
        if builder.cancellation then some (.failed .cancelled, []) else none
    | .checking key file etag, .checked metadata =>
        some (checkSource builder key file etag metadata)
    | .deleting _, .deleted _ =>
        some (.failed (.invalidInput "path" "file changed during upload"), [])
    | .multipart key managed call, .call event =>
        match (managedCall managed (uploadFile crates managed)).step call event with
        | none => none
        | some (call, out) => some (onCall key managed call, out.map SendEffect.ofManaged)
    | _, _ => none

end Send

section Steps

variable {crates : Crates} {builder : UploadFileBuilder}

/-- Everything one step of `send` can be. -/
inductive SendStep (crates : Crates) (builder : UploadFileBuilder) :
    SendState → SendEvent → SendState → List SendEffect → Prop
  | start {cancelled metadata state out}
      (begun : beginSend crates builder cancelled metadata = (state, out)) :
      SendStep crates builder .ready (.poll cancelled metadata) state out
  | opened {key file state out}
      (sent : sendPut key file (putStreamWithOptions crates builder.bucket (.ok key) file.len
        builder.options) = (state, out)) :
      SendStep crates builder (.opening key file) (.opened true) state out
  | unopened {key file} :
      SendStep crates builder (.opening key file) (.opened false) (.failed (.io "open")) []
  | putFailed {key file input body answer error}
      (failed : putObjectAnswer answer = .error error) :
      SendStep crates builder (.putting key file input) (.put body answer) (.failed error) []
  | put {key file input body etag} (length : body.length = input.contentLength) :
      SendStep crates builder (.putting key file input) (.put body (.ok etag))
        (.checking key file etag) []
  | cancelled {key file input} (token : builder.cancellation = true) :
      SendStep crates builder (.putting key file input) .cancelled (.failed .cancelled) []
  | checked {key file etag metadata state out}
      (found : checkSource builder key file etag metadata = (state, out)) :
      SendStep crates builder (.checking key file etag) (.checked metadata) state out
  | deleted {key answer} :
      SendStep crates builder (.deleting key) (.deleted answer)
        (.failed (.invalidInput "path" "file changed during upload")) []
  | call {key managed call event next out}
      (moved : (managedCall managed (uploadFile crates managed)).step call event =
        some (next, out)) :
      SendStep crates builder (.multipart key managed call) (.call event)
        (onCall key managed next) (out.map SendEffect.ofManaged)

theorem putObjectAnswer_eq_ok_iff {answer : Except SdkError (Option String)}
    {etag : Option String} : putObjectAnswer answer = .ok etag ↔ answer = .ok etag := by
  cases answer <;> simp [putObjectAnswer]

theorem sendStep_of_step {s s' : SendState} {event : SendEvent} {out : List SendEffect}
    (taken : (send crates builder).step s event = some (s', out)) :
    SendStep crates builder s event s' out := by
  simp only [send] at taken
  split at taken
  · exact .start (Option.some.inj taken)
  · rename_i key file succeeded
    cases succeeded with
    | true => exact .opened (Option.some.inj taken)
    | false =>
        cases taken
        exact .unopened
  · split at taken
    · rename_i error failed
      cases taken
      exact .putFailed failed
    · rename_i etag accepted
      obtain rfl := putObjectAnswer_eq_ok_iff.mp accepted
      split at taken
      · rename_i length
        cases taken
        exact .put length
      · cases taken
  · split at taken
    · rename_i token
      cases taken
      exact .cancelled token
    · cases taken
  · exact .checked (Option.some.inj taken)
  · cases taken
    exact .deleted
  · split at taken
    · cases taken
    · rename_i call sent moved
      cases taken
      exact .call moved
  · cases taken

/-- A PUT that fails its local checks ends the call, any other is sent. -/
theorem sendPut_cases {key : ObjectKey} {file : Metadata}
    {checked : Except Error PutObjectInput} {state : SendState} {out : List SendEffect}
    (sent : sendPut key file checked = (state, out)) :
    (∃ error, state = .failed error ∧ out = []) ∨
      ∃ input, checked = .ok input ∧ state = .putting key file input ∧ out = [.put input] := by
  cases checked with
  | error error =>
      cases sent
      exact Or.inl ⟨error, rfl, rfl⟩
  | ok input =>
      cases sent
      exact Or.inr ⟨input, rfl, rfl, rfl⟩

/-- The start fails, or its checks pass and it comes to the branch for the size of the file. -/
theorem beginSend_cases {cancelled : Bool} {metadata : Option Metadata} {state : SendState}
    {out : List SendEffect} (begun : beginSend crates builder cancelled metadata = (state, out)) :
    (∃ error, state = .failed error ∧ out = []) ∨
      ∃ key file, metadata = some file ∧ builder.validate crates = .ok () ∧
        builder.key = .ok key ∧ dispatch crates builder key file = (state, out) := by
  unfold beginSend at begun
  split at begun
  · cases begun
    exact Or.inl ⟨_, rfl, rfl⟩
  · rename_i valid
    split at begun
    · cases begun
      exact Or.inl ⟨_, rfl, rfl⟩
    · rename_i key given
      split at begun
      · cases begun
        exact Or.inl ⟨_, rfl, rfl⟩
      · split at begun
        · cases begun
          exact Or.inl ⟨_, rfl, rfl⟩
        · rename_i file
          split at begun
          · cases begun
            exact Or.inl ⟨_, rfl, rfl⟩
          · exact Or.inr ⟨key, file, rfl, valid, given, begun⟩

/-- The multipart branch is for the files from the threshold on. -/
theorem strategy_eq_multipart_iff {fileSize : Nat} :
    (∃ partSize, builder.strategy fileSize = .multipart partSize) ↔
      builder.threshold.bytes ≤ fileSize := by
  have least := builder.threshold.valid.1
  simp only [UploadThreshold.minBytes] at least
  unfold UploadFileBuilder.strategy
  by_cases empty : fileSize = 0
  · rw [if_pos empty]
    simp only [reduceCtorEq, exists_false, false_iff]
    omega
  · rw [if_neg empty]
    by_cases below : fileSize < builder.threshold.bytes
    · rw [if_pos below]
      simp only [reduceCtorEq, exists_false, false_iff]
      omega
    · rw [if_neg below]
      simp only [TransferStrategy.multipart.injEq, exists_eq', true_iff]
      omega

theorem lt_threshold_of_strategy {fileSize : Nat}
    (single : ∀ partSize, builder.strategy fileSize ≠ .multipart partSize) :
    fileSize < builder.threshold.bytes := by
  refine Nat.not_le.mp (fun reached => ?_)
  obtain ⟨partSize, selected⟩ := strategy_eq_multipart_iff.mpr reached
  exact single partSize selected

theorem strategy_eq_emptyPut {fileSize : Nat} (selected : builder.strategy fileSize = .emptyPut) :
    fileSize = 0 := by
  by_contra some_bytes
  rw [UploadFileBuilder.strategy, if_neg some_bytes] at selected
  split at selected <;> cases selected

/-- The branches, by the size of the file against the threshold. -/
theorem dispatch_cases {key : ObjectKey} {file : Metadata} {state : SendState}
    {out : List SendEffect} (dispatched : dispatch crates builder key file = (state, out)) :
    (∃ error, state = .failed error ∧ out = []) ∨
    (file.len = 0 ∧ ∃ input,
      putBytesWithOptions crates builder.bucket (.ok key) [] builder.options = .ok input ∧
      state = .putting key file input ∧ out = [.put input]) ∨
    (file.len < builder.threshold.bytes ∧ state = .opening key file ∧ out = []) ∨
    (builder.threshold.bytes ≤ file.len ∧ ∃ managed,
      state = .multipart key managed .ready ∧ out = []) := by
  unfold dispatch at dispatched
  split at dispatched
  · rename_i selected
    rcases sendPut_cases dispatched with failed | ⟨input, accepted, rfl, rfl⟩
    · exact Or.inl failed
    · exact Or.inr (Or.inl ⟨strategy_eq_emptyPut selected, input, accepted, rfl, rfl⟩)
  · rename_i selected
    cases dispatched
    refine Or.inr (Or.inr (Or.inl ⟨lt_threshold_of_strategy ?_, rfl, rfl⟩))
    simp [selected]
  · rename_i partSize selected
    split at dispatched
    · cases dispatched
      exact Or.inl ⟨_, rfl, rfl⟩
    · rename_i managed _
      cases dispatched
      exact Or.inr (Or.inr (Or.inr
        ⟨strategy_eq_multipart_iff.mp ⟨partSize, selected⟩, managed, rfl, rfl⟩))

end Steps

section Dispatch

variable {builder : UploadFileBuilder} {fileSize : Nat}

/-- Whether a branch passes the checks on sizes that are on its way. -/
def TransferStrategy.Carries (fileSize : Nat) : TransferStrategy → Prop
  | .emptyPut => fileSize = 0 ∧ rejectLargePut 0 = .ok ()
  | .streamPut => rejectLargePut fileSize = .ok ()
  | .multipart partSize => validatePartSize partSize = .ok () ∧
      ∃ plan, MultipartPlan.new fileSize partSize = .ok plan

/-- A file of any size that R2 stores has parts of a permitted size, and at most 10,000. -/
theorem effectivePartSize_carries (valid : validatePartSize builder.partSize = .ok ())
    (positive : fileSize ≠ 0) (storable : fileSize ≤ maxMultipartObjectSize) :
    TransferStrategy.Carries fileSize (.multipart (builder.effectivePartSize fileSize)) := by
  exact ⟨scaledPartSize_valid valid storable, new_scaledPartSize valid positive storable⟩

/-- A branch that is not a single PUT for too much carries the file. -/
theorem strategy_carries (valid : validatePartSize builder.partSize = .ok ())
    (storable : fileSize ≤ maxMultipartObjectSize)
    (fits : ¬ (maxUploadSize < fileSize ∧ fileSize < builder.threshold.bytes)) :
    (builder.strategy fileSize).Carries fileSize := by
  unfold UploadFileBuilder.strategy
  by_cases empty : fileSize = 0
  · rw [if_pos empty]
    exact ⟨empty, rfl⟩
  · rw [if_neg empty]
    by_cases below : fileSize < builder.threshold.bytes
    · rw [if_pos below]
      exact rejectLargePut_ok_iff.mpr (Nat.not_lt.mp (fun large => fits ⟨large, below⟩))
    · rw [if_neg below]
      exact effectivePartSize_carries valid empty storable

/-- The selected strategy can carry the file exactly when no single PUT is selected for more
    than a single PUT may hold. -/
theorem strategy_carries_iff (builder : UploadFileBuilder) (fileSize : Nat)
    (valid : validatePartSize builder.partSize = .ok ())
    (storable : fileSize ≤ maxMultipartObjectSize) :
    (builder.strategy fileSize).Carries fileSize ↔
      ¬ (maxUploadSize < fileSize ∧ fileSize < builder.threshold.bytes) := by
  constructor
  · rintro carries ⟨large, below⟩
    rw [UploadFileBuilder.strategy, if_neg (Nat.ne_zero_of_lt large), if_pos below] at carries
    exact Nat.not_lt.mpr (rejectLargePut_ok_iff.mp carries) large
  · exact strategy_carries valid storable

/-- What `Bucket::upload_file` gives for a key, with all its defaults. -/
def UploadFileBuilder.clip : UploadFileBuilder where
  bucket := PresignedMultipart.tiny.bucket
  key := .ok .clip

/-- A file of one tebibyte with the default threshold: 10,000 parts of the least size that
    does. -/
theorem strategy_carries_tebibyte :
    UploadFileBuilder.clip.strategy (1024 * 1024 * 1024 * 1024) = .multipart 109951163 ∧
    ((UploadFileBuilder.clip.strategy (1024 * 1024 * 1024 * 1024)).Carries
        (1024 * 1024 * 1024 * 1024) ↔
      ¬ (maxUploadSize < 1024 * 1024 * 1024 * 1024 ∧
        1024 * 1024 * 1024 * 1024 < UploadThreshold.defaultBytes)) :=
  ⟨by decide, strategy_carries_iff .clip _ rfl (by decide)⟩

/-- The same builder with a threshold of 6 GiB, which `UploadThreshold::new` accepts. -/
def UploadFileBuilder.clipBelowSixGib : UploadFileBuilder :=
  { UploadFileBuilder.clip with threshold := ⟨6 * 1024 * 1024 * 1024, by decide⟩ }

/-- A file of 5 GiB goes to the single PUT, which rejects it. -/
theorem strategy_rejects_five_gib :
    UploadThreshold.new (6 * 1024 * 1024 * 1024) =
      .ok UploadFileBuilder.clipBelowSixGib.threshold ∧
    validatePartSize UploadFileBuilder.clipBelowSixGib.partSize = .ok () ∧
    5 * 1024 * 1024 * 1024 ≤ maxMultipartObjectSize ∧
    UploadFileBuilder.clipBelowSixGib.strategy (5 * 1024 * 1024 * 1024) = .streamPut ∧
    ¬ TransferStrategy.Carries (5 * 1024 * 1024 * 1024) .streamPut ∧
    ∀ crates : Crates, putStreamWithOptions crates UploadFileBuilder.clipBelowSixGib.bucket
        UploadFileBuilder.clipBelowSixGib.key (5 * 1024 * 1024 * 1024)
        UploadFileBuilder.clipBelowSixGib.options =
      .error (.validation (.singleUploadTooLarge (5 * 1024 * 1024 * 1024) maxUploadSize)) :=
  ⟨by decide, rfl, by decide, by decide, by simp [TransferStrategy.Carries, rejectLargePut,
    maxUploadSize, minMultipartPartSize], fun _ => rfl⟩

end Dispatch

end R2kit
