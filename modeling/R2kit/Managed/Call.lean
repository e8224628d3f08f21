import R2kit.Managed.RunFile
import R2kit.Managed.RunStream

/-!
# The call around a managed upload

`upload_file` and `upload_stream` of `src/managed.rs` differ in what they check before they
have a session and in the future they then run. What is around it is the same: the session
is created or resumed, the future is raced against the cancellation token, and an error
after the start leads to `after_start_error`. A cancelled future is dropped where it is.
-/

namespace R2kit

open Misc

/-- An error with what is left to resume from, and whether the session was aborted. -/
structure ManagedUploadError where
  error : Error
  snapshot : Option MultipartSessionSnapshot
  aborted : Bool
  deriving DecidableEq

/-- `ManagedUploadError::before_start`. -/
def ManagedUploadError.beforeStart (error : Error) : ManagedUploadError where
  error := error
  snapshot := none
  aborted := false

/-- What tells `upload_file` and `upload_stream` apart: the way to a session, and the future
    that is run with it. `Boot` is what the call finds when it starts. -/
structure Entry (Boot S E : Type) where
  start : Boot → ManagedMultipartBuilder.Begin
  machine : Boot → PresignedMultipart → Machine S E Effect
  initial : PresignedMultipart → S
  ending : S → Option Ending
  consumes : PresignedMultipart → S → E → Option (Effect × Response)

/-- Where a call is. -/
inductive CallState (Boot S : Type) where
  | ready
  | creating (boot : Boot) (request : PresignedMultipartBuilder) (plan : MultipartPlan)
  | running (boot : Boot) (session : PresignedMultipart) (inner : S)
  | aborting (session : PresignedMultipart) (error : Error)
  | returned (result : Except ManagedUploadError ManagedUploadResult)
  | panicked (site : String)

/-- What a call holds while it is running. -/
def CallState.run? {Boot S : Type} : CallState Boot S → Option (Boot × PresignedMultipart × S)
  | .running boot session inner => some (boot, session, inner)
  | _ => none

theorem running_of_run? {Boot S : Type} {state : CallState Boot S} {boot : Boot}
    {session : PresignedMultipart} {inner : S} (is : state.run? = some (boot, session, inner)) :
    state = .running boot session inner := by
  unfold CallState.run? at is
  split at is
  · cases is
    rfl
  · cases is

/-- What can happen to a call around its upload: the events of `upload_file` itself. -/
inductive CallEvent (Boot E : Type) where
  | poll (boot : Boot)
  | created (answer : Except SdkError (Option String))
  | inner (event : E)
  | cancelled
  | aborted (answer : Except SdkError Unit)
  deriving DecidableEq

section Call

variable {Boot S E : Type} (builder : ManagedMultipartBuilder)

/-- `after_start_error` up to the answer to the abort. -/
def afterStartError (session : PresignedMultipart) (error : Error) :
    CallState Boot S × List Effect :=
  if builder.abortOnError then (.aborting session error, [.send session.abortRequest])
  else (.returned (.error ⟨error, some session.snapshot, false⟩), [])

/-- `after_start_error` from that answer on. -/
def afterAbort (session : PresignedMultipart) (error : Error) (answer : Except SdkError Unit) :
    ManagedUploadError :=
  match PresignedMultipart.abortAnswer answer with
  | .ok () => ⟨error, none, true⟩
  | .error _ => ⟨error, some session.snapshot, false⟩

/-- What the outcome of the future leads to. -/
def settle (session : PresignedMultipart) : Outcome ManagedUploadResult →
    CallState Boot S × List Effect
  | .ok result => (.returned (.ok result), [])
  | .error (.panic site) => (.panicked site, [])
  | .error (.error error) => afterStartError builder session error

/-- `upload_file` or `upload_stream`. -/
def managedCall (entry : Entry Boot S E) :
    Machine (CallState Boot S) (CallEvent Boot E) Effect where
  step
    | .ready, .poll boot =>
        match entry.start boot with
        | .failed error => some (.returned (.error (.beforeStart error)), [])
        | .creating request plan input => some (.creating boot request plan, [.create input])
        | .resumed session => some (.running boot session (entry.initial session), [])
    | .creating boot request plan, .created answer =>
        match request.created plan answer with
        | .error error => some (.returned (.error (.beforeStart error)), [])
        | .ok session => some (.running boot session (entry.initial session), [])
    | .running boot session inner, .inner event =>
        match (entry.machine boot session).step inner event with
        | none => none
        | some (next, out) =>
            match entry.ending next with
            | some (.finished result) =>
                let (state, sent) := settle builder session result
                some (state, out ++ sent)
            | _ => some (.running boot session next, out)
    | .running _ session _, .cancelled =>
        if builder.cancellation then some (afterStartError builder session .cancelled) else none
    | .aborting session error, .aborted answer =>
        some (.returned (.error (afterAbort session error answer)), [])
    | _, _ => none

/-- The request whose answer an event hands in. -/
def callConsumes (entry : Entry Boot S E) :
    CallState Boot S → CallEvent Boot E → Option (Effect × Response)
  | .creating _ request _, .created (.ok uploadId) =>
      some (.create request.createInput, .createMultipartUpload uploadId)
  | .running _ session inner, .inner event => entry.consumes session inner event
  | .aborting session _, .aborted (.ok ()) =>
      some (.send session.abortRequest, .abortMultipartUpload)
  | _, _ => none

/-- Everything one step of a call can be. -/
inductive CallStep (entry : Entry Boot S E) :
    CallState Boot S → CallEvent Boot E → CallState Boot S → List Effect → Prop
  | failed {boot error} (failed : entry.start boot = .failed error) :
      CallStep entry .ready (.poll boot) (.returned (.error (.beforeStart error))) []
  | create {boot request plan input} (new : entry.start boot = .creating request plan input) :
      CallStep entry .ready (.poll boot) (.creating boot request plan) [.create input]
  | resume {boot session} (resumed : entry.start boot = .resumed session) :
      CallStep entry .ready (.poll boot) (.running boot session (entry.initial session)) []
  | uncreated {boot request plan answer error}
      (failed : request.created plan answer = .error error) :
      CallStep entry (.creating boot request plan) (.created answer)
        (.returned (.error (.beforeStart error))) []
  | created {boot request plan answer session}
      (made : request.created plan answer = .ok session) :
      CallStep entry (.creating boot request plan) (.created answer)
        (.running boot session (entry.initial session)) []
  | inner {boot session inner event next out}
      (moved : (entry.machine boot session).step inner event = some (next, out))
      (unsettled : ∀ result, entry.ending next ≠ some (.finished result)) :
      CallStep entry (.running boot session inner) (.inner event) (.running boot session next)
        out
  | settled {boot session inner event next out result state sent}
      (moved : (entry.machine boot session).step inner event = some (next, out))
      (finished : entry.ending next = some (.finished result))
      (left : settle builder session result = (state, sent)) :
      CallStep entry (.running boot session inner) (.inner event) state (out ++ sent)
  | cancelled {boot session inner state sent} (token : builder.cancellation = true)
      (left : afterStartError builder session .cancelled = (state, sent)) :
      CallStep entry (.running boot session inner) .cancelled state sent
  | aborted {session error answer} :
      CallStep entry (.aborting session error) (.aborted answer)
        (.returned (.error (afterAbort session error answer))) []

variable {builder}

theorem callStep_of_step {entry : Entry Boot S E} {s s' : CallState Boot S}
    {event : CallEvent Boot E} {out : List Effect}
    (taken : (managedCall builder entry).step s event = some (s', out)) :
    CallStep builder entry s event s' out := by
  simp only [managedCall] at taken
  split at taken
  · split at taken
    · rename_i error failed
      cases taken
      exact .failed failed
    · rename_i request plan input new
      cases taken
      exact .create new
    · rename_i session resumed
      cases taken
      exact .resume resumed
  · split at taken
    · rename_i error failed
      cases taken
      exact .uncreated failed
    · rename_i session made
      cases taken
      exact .created made
  · split at taken
    · cases taken
    · rename_i next sent moved
      split at taken
      · rename_i result finished
        cases taken
        exact .settled moved finished rfl
      · rename_i unsettled
        cases taken
        exact .inner moved (fun result other => unsettled result other)
  · split at taken
    · rename_i token
      exact .cancelled token (Option.some.inj taken)
    · cases taken
  · cases taken
    exact .aborted
  · cases taken

end Call

/-- What `upload_file` finds: the metadata of the path, and what the token says. -/
structure FileBoot where
  metadata : Option Metadata
  cancelled : Bool
  deriving DecidableEq

/-- The fingerprint taken at the start; without metadata the call has failed before. -/
def FileBoot.fingerprint (boot : FileBoot) : SourceFileFingerprint :=
  match boot.metadata with
  | some metadata => .fromMetadata metadata
  | none => ⟨0, none, 0, 0⟩

/-- `ManagedMultipartBuilder::upload_file`. -/
def uploadFile (crates : Crates) (builder : ManagedMultipartBuilder) :
    Entry FileBoot RunState RunEvent where
  start boot := builder.beginFile crates boot.metadata boot.cancelled
  machine boot session := (Transfer.mk builder session).runFile boot.fingerprint
  initial _ := .ready
  ending
    | .ending ending => some ending
    | _ => none
  consumes session := (Transfer.mk builder session).runConsumes

/-- `ManagedMultipartBuilder::upload_stream`, with what the reader will deliver. It finds only
    what the token says. -/
def uploadStream (crates : Crates) (builder : ManagedMultipartBuilder) (content : List UInt8)
    (fileSize : Nat) : Entry Bool StreamState StreamEvent where
  start cancelled := builder.beginStream crates fileSize cancelled
  machine _ session := (Transfer.mk builder session).runStream
  initial session := StreamState.start session.plan content
  ending
    | .ending ending => some ending
    | _ => none
  consumes session := (Transfer.mk builder session).streamConsumes

end R2kit
