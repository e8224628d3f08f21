import R2kit.Managed.Abort
import R2kit.Managed.Adaptive

/-!
# A source that changes during an adaptive upload

What stands at the key when `UploadFileBuilder::send` finds after the transfer that the file has
changed. The single PUT has replaced the object by then, and what is cleaned up is the new
one; the multipart branch looks at the file before it completes.
-/

namespace R2kit

open Misc

/-- What is stored at a key. -/
structure StoredObject where
  body : List UInt8
  headers : MetadataHeaders
  metadata : Option (List (String × String))
  deriving DecidableEq

/-- The object that a PUT with this body leaves. -/
def PutObjectInput.stored (input : PutObjectInput) (body : List UInt8) : StoredObject where
  body := body
  headers := input.headers
  metadata := input.metadata

/-- A `CompleteMultipartUpload`. -/
def SendEffect.isCompletion : SendEffect → Bool
  | .send ⟨_, .completeMultipartUpload _⟩ => true
  | _ => false

/-- A call to `send`, the object at its key, and whether a completion is on its way. -/
structure SendWorld where
  client : SendState
  object : Option StoredObject
  completing : Bool

/-- `send` is about to start; this object stands at its key. -/
def SendWorld.start (prior : Option StoredObject) : SendWorld where
  client := .ready
  object := prior
  completing := false

/-- What an answered request has done to the object at the key. -/
def objectAfter : SendState → SendEvent → Option StoredObject → Option StoredObject
  | .putting _ _ input, .put body (.ok _), _ => some (input.stored body)
  | .deleting _, .deleted (.ok ()), _ => none
  | _, _, object => object

/-- Either the call goes on, or a completion that was sent takes effect. -/
inductive WorldEvent where
  | client (event : SendEvent)
  | committed (object : StoredObject)
  deriving DecidableEq

/-- `send` and the object at its key, which nobody else touches. -/
def sendWorld (crates : Crates) (builder : UploadFileBuilder) :
    Machine SendWorld WorldEvent SendEffect where
  step world
    | .client event =>
        match (send crates builder).step world.client event with
        | none => none
        | some (client, out) =>
            some ({
              client
              object := objectAfter world.client event world.object
              completing := world.completing || out.any SendEffect.isCompletion }, out)
    | .committed object =>
        if world.completing then some ({ world with object := some object }, []) else none

/-- The check of the source after the transfer: what the file was, and what it is now. -/
def sourceCheck : SendState → SendEvent → Option (SourceFileFingerprint × Option Metadata)
  | .checking _ file _, .checked metadata => some (.fromMetadata file, metadata)
  | .multipart _ _ (.running boot _ (.checking _ _ _)), .call (.inner (.checked metadata)) =>
      some (boot.fingerprint, metadata)
  | _, _ => none

theorem sourceCheck_cases {client : SendState} {event : SendEvent}
    {fingerprint : SourceFileFingerprint} {metadata : Option Metadata}
    (checked : sourceCheck client event = some (fingerprint, metadata)) :
    (∃ key file etag, client = .checking key file etag ∧ event = .checked metadata ∧
      fingerprint = .fromMetadata file) ∨
    ∃ key managed boot session manifest uploadedCount reusedCount,
      client = .multipart key managed
        (.running boot session (.checking manifest uploadedCount reusedCount)) ∧
      event = .call (.inner (.checked metadata)) ∧ fingerprint = boot.fingerprint := by
  unfold sourceCheck at checked
  split at checked
  · cases checked
    exact Or.inl ⟨_, _, _, rfl, rfl, rfl⟩
  · cases checked
    exact Or.inr ⟨_, _, _, _, _, _, _, rfl, rfl, rfl⟩
  · cases checked

/-- The check finds that the file cannot be read or is not what it was. -/
def DetectsChange (client : SendState) (event : SendEvent) (metadata : Option Metadata) : Prop :=
  ∃ fingerprint, sourceCheck client event = some (fingerprint, metadata) ∧
    ∀ found, metadata = some found → fingerprint.matchesMetadata found = false

/-- A cleanup request that is answered is answered well. -/
def WorldEvent.CleansUp : WorldEvent → Prop
  | .client (.deleted answer) => answer = .ok ()
  | .client (.call (.aborted answer)) => answer = .ok ()
  | _ => True

section Calls

variable {Boot S E : Type} {builder : ManagedMultipartBuilder} {entry : Entry Boot S E}

/-- A call that has not asked for its completion. -/
def CallState.Early (entry : Entry Boot S E) : CallState Boot S → Prop
  | .ready => True
  | .creating _ _ _ => True
  | .running _ _ inner => entry.ending inner = none
  | _ => False

theorem not_early_afterStartError {session : PresignedMultipart} {error : Error}
    {state : CallState Boot S} {sent : List Effect}
    (left : afterStartError builder session error = (state, sent)) : ¬ state.Early entry := by
  unfold afterStartError at left
  split at left
  · cases left
    exact id
  · cases left
    exact id

/-- Such a call was one before, and the step to it has not asked either. -/
theorem early_of_step {call next : CallState Boot S} {event : CallEvent Boot E}
    {out : List Effect} (disciplined : entry.Disciplined)
    (taken : (managedCall builder entry).step call event = some (next, out))
    (early : next.Early entry) : call.Early entry ∧ Uncompleted out := by
  cases callStep_of_step taken with
  | failed failed => exact early.elim
  | create new =>
      refine ⟨trivial, ?_⟩
      exact List.forall_mem_singleton.mpr rfl
  | resume resumed => exact ⟨trivial, uncompleted_nil⟩
  | uncreated failed => exact early.elim
  | created made => exact ⟨trivial, uncompleted_nil⟩
  | @inner boot session inner event next out moved unsettled =>
      have ends := disciplined.step _ _ _ _ _ _ moved
      rw [show entry.ending next = none from early] at ends
      simp only [CallState.Early]
      generalize entry.ending inner = was at ends
      cases ends with
      | busy quiet => exact ⟨rfl, fun effect member => (quiet effect member).1⟩
  | @settled _ session _ _ _ _ result _ _ moved finished left =>
      cases result with
      | ok result =>
          cases left
          exact early.elim
      | error fault =>
          cases fault with
          | panic site =>
              cases left
              exact early.elim
          | error error => exact absurd early (not_early_afterStartError left)
  | cancelled token left => exact absurd early (not_early_afterStartError left)
  | aborted => exact early.elim

end Calls

section Written

variable {crates : Crates} {builder : UploadFileBuilder}

/-- The object that a PUT of these bytes makes. -/
def UploadFileBuilder.written (builder : UploadFileBuilder) (body : List UInt8) : StoredObject where
  body := body
  headers := builder.options.applyTo
  metadata := builder.options.customMetadataValues

theorem stored_putObjectInput {bucket : BucketName} {key : ObjectKey} {length : Nat}
    {options : ObjectUploadOptions} {body : List UInt8} :
    (putObjectInput bucket key length options).stored body =
      ⟨body, options.applyTo, options.customMetadataValues⟩ := by
  simp only [putObjectInput]
  cases options.checksumValue with
  | none => rfl
  | some value =>
      obtain ⟨algorithm, digest⟩ := value
      cases algorithm <;> rfl

theorem stored_of_stream {key : ObjectKey} {length : Nat} {input : PutObjectInput}
    (accepted : putStreamWithOptions crates builder.bucket (.ok key) length builder.options =
      .ok input) (body : List UInt8) : input.stored body = builder.written body := by
  obtain ⟨valid, -, -, -, -, rfl⟩ := putStreamWithOptions_eq_ok_iff.mp accepted
  exact stored_putObjectInput

/-- A computed digest is no part of what is stored. -/
theorem stored_of_bytes {key : ObjectKey} {content : List UInt8} {input : PutObjectInput}
    (accepted : putBytesWithOptions crates builder.bucket (.ok key) content builder.options =
      .ok input) (body : List UInt8) : input.stored body = builder.written body := by
  obtain ⟨options, resolved, sent⟩ := bind_eq_ok_iff.mp accepted
  obtain ⟨valid, -, -, -, -, rfl⟩ := putStreamWithOptions_eq_ok_iff.mp sent
  rw [stored_putObjectInput]
  unfold resolveChecksum at resolved
  split at resolved
  · split at resolved
    · cases resolved
      rfl
    · cases resolved
  · cases resolved
    rfl

end Written

section BeforeCheck

variable {crates : Crates} {builder : UploadFileBuilder} {prior : Option StoredObject}

/-- Everything one step of the world can be. -/
theorem world_step_cases {world after : SendWorld} {event : WorldEvent} {out : List SendEffect}
    (taken : (sendWorld crates builder).step world event = some (after, out)) :
    (∃ e client, event = .client e ∧ SendStep crates builder world.client e client out ∧
      after = {
        client
        object := objectAfter world.client e world.object
        completing := world.completing || out.any SendEffect.isCompletion }) ∨
    (∃ object, event = .committed object ∧ world.completing = true ∧ out = [] ∧
      after = { world with object := some object }) := by
  cases event with
  | client e =>
      simp only [sendWorld] at taken
      split at taken
      · cases taken
      · rename_i client sent stepped
        cases taken
        exact Or.inl ⟨e, client, rfl, sendStep_of_step stepped, rfl⟩
  | committed object =>
      simp only [sendWorld] at taken
      split at taken
      · rename_i completing
        cases taken
        exact Or.inr ⟨object, rfl, completing, rfl, rfl⟩
      · cases taken

/-- The body of a PUT that was answered well. -/
def WorldEvent.body : WorldEvent → Option (List UInt8)
  | .client (.put body (.ok _)) => some body
  | _ => none

theorem mem_bodies_iff {events : List WorldEvent} {body : List UInt8} :
    body ∈ events.filterMap WorldEvent.body ↔
      ∃ etag, .client (.put body (.ok etag)) ∈ events := by
  rw [List.mem_filterMap]
  constructor
  · rintro ⟨event, member, isBody⟩
    unfold WorldEvent.body at isBody
    split at isBody
    · cases isBody
      exact ⟨_, member⟩
    · cases isBody
  · rintro ⟨etag, member⟩
    exact ⟨_, member, rfl⟩

/-- Nothing but this file was found at the start. -/
def Polled (events : List WorldEvent) (file : Metadata) : Prop :=
  ∀ cancelled metadata, .client (.poll cancelled metadata) ∈ events → metadata = some file

/-- The object is as before, and nothing is on its way to it. -/
def SendWorld.Untouched (prior : Option StoredObject) (world : SendWorld) : Prop :=
  world.object = prior ∧ world.completing = false

theorem untouched_iff {client : SendState} {object : Option StoredObject} {completing : Bool} :
    SendWorld.Untouched prior ⟨client, object, completing⟩ ↔
      object = prior ∧ completing = false := Iff.rfl

/-- The invariant up to the check of the source. -/
def SendInvariant (crates : Crates) (builder : UploadFileBuilder) (prior : Option StoredObject)
    (events : List WorldEvent) (world : SendWorld) : Prop :=
  match world.client with
  | .ready => events = [] ∧ world.Untouched prior
  | .opening _ file => Polled events file ∧ file.len < builder.threshold.bytes ∧
      world.Untouched prior ∧ events.filterMap WorldEvent.body = []
  | .putting _ file input => Polled events file ∧ file.len < builder.threshold.bytes ∧
      world.Untouched prior ∧ events.filterMap WorldEvent.body = [] ∧
      ∀ body, input.stored body = builder.written body
  | .checking _ file _ => Polled events file ∧ file.len < builder.threshold.bytes ∧
      world.completing = false ∧ ∃ body, events.filterMap WorldEvent.body = [body] ∧
        world.object = some (builder.written body)
  | .multipart _ managed call => (∃ file, Polled events file ∧
      builder.threshold.bytes ≤ file.len) ∧
      (call.Early (uploadFile crates managed) → world.Untouched prior)
  | _ => True

theorem Polled.snoc {events : List WorldEvent} {event : WorldEvent} {file : Metadata}
    (polled : Polled events file)
    (other : ∀ cancelled metadata, event ≠ .client (.poll cancelled metadata)) :
    Polled (events ++ [event]) file := by
  intro cancelled metadata member
  rcases List.mem_append.mp member with earlier | now
  · exact polled cancelled metadata earlier
  · exact absurd (List.mem_singleton.mp now).symm (other cancelled metadata)

theorem isCompletion_ofManaged (effect : Effect) :
    (SendEffect.ofManaged effect).isCompletion = effect.isCompletion := by
  cases effect with
  | create input => rfl
  | report progress => rfl
  | send request =>
      obtain ⟨address, operation⟩ := request
      cases operation <;> rfl

theorem Uncompleted.any_ofManaged {out : List Effect} (quiet : Uncompleted out) :
    (out.map SendEffect.ofManaged).any SendEffect.isCompletion = false := by
  rw [List.any_map, List.any_eq_false]
  intro effect member
  rw [Function.comp_apply, isCompletion_ofManaged, quiet effect member]
  simp

/-- The start of `send`. -/
theorem sendInvariant_begin {cancelled : Bool} {metadata : Option Metadata}
    {client : SendState} {out : List SendEffect}
    (begun : beginSend crates builder cancelled metadata = (client, out)) :
    SendInvariant crates builder prior [.client (.poll cancelled metadata)]
      ⟨client, prior, out.any SendEffect.isCompletion⟩ := by
  rcases beginSend_cases begun with ⟨error, rfl, rfl⟩ | ⟨key, file, rfl, -, -, dispatched⟩
  · trivial
  · have polled : Polled [.client (.poll cancelled (some file))] file := by
      intro cancelled' metadata member
      simp only [List.mem_singleton, WorldEvent.client.injEq, SendEvent.poll.injEq] at member
      exact member.2
    rcases dispatch_cases dispatched with ⟨error, rfl, rfl⟩ |
      ⟨empty, input, accepted, rfl, rfl⟩ | ⟨below, rfl, rfl⟩ | ⟨reached, managed, rfl, rfl⟩
    · trivial
    · have below : file.len < builder.threshold.bytes := by
        rw [empty]
        exact Nat.lt_of_lt_of_le (by decide) builder.threshold.valid.1
      exact ⟨polled, below, ⟨rfl, rfl⟩, rfl, stored_of_bytes accepted⟩
    · exact ⟨polled, below, ⟨rfl, rfl⟩, rfl⟩
    · exact ⟨⟨file, polled, reached⟩, fun _ => ⟨rfl, rfl⟩⟩

/-- The multipart branch going on. -/
theorem sendInvariant_call {events : List WorldEvent} {key : ObjectKey}
    {managed : ManagedMultipartBuilder} {call next : CallState FileBoot RunState}
    {event : CallEvent FileBoot RunEvent} {out : List Effect} {object : Option StoredObject}
    {completing : Bool}
    (holds : SendInvariant crates builder prior events
      ⟨.multipart key managed call, object, completing⟩)
    (moved : (managedCall managed (uploadFile crates managed)).step call event =
      some (next, out)) :
    SendInvariant crates builder prior (events ++ [.client (.call event)])
      ⟨onCall key managed next, object,
        completing || (out.map SendEffect.ofManaged).any SendEffect.isCompletion⟩ := by
  obtain ⟨⟨file, polled, reached⟩, untouched⟩ := holds
  have later : next.Early (uploadFile crates managed) → object = prior ∧
      (completing || (out.map SendEffect.ofManaged).any SendEffect.isCompletion) = false := by
    intro early
    obtain ⟨was_early, quiet⟩ := early_of_step uploadFile_disciplined moved early
    obtain ⟨same, still⟩ := untouched was_early
    refine ⟨same, ?_⟩
    rw [show completing = false from still, quiet.any_ofManaged]
    rfl
  have goes_on : Polled (events ++ [.client (.call event)]) file := polled.snoc (by simp)
  cases next with
  | returned result => cases result <;> trivial
  | panicked site => trivial
  | ready => exact ⟨⟨file, goes_on, reached⟩, later⟩
  | creating boot request plan => exact ⟨⟨file, goes_on, reached⟩, later⟩
  | running boot session inner => exact ⟨⟨file, goes_on, reached⟩, later⟩
  | aborting session error => exact ⟨⟨file, goes_on, reached⟩, later⟩

/-- A completion that takes effect has been asked for. -/
theorem sendInvariant_committed {events : List WorldEvent} {client : SendState}
    {object : Option StoredObject}
    (holds : SendInvariant crates builder prior events ⟨client, object, true⟩)
    (committed : StoredObject) :
    SendInvariant crates builder prior (events ++ [.committed committed])
      ⟨client, some committed, true⟩ := by
  cases client with
  | ready =>
      obtain ⟨-, untouched⟩ := holds
      cases (untouched_iff.mp untouched).2
  | opening key file =>
      obtain ⟨-, -, untouched, -⟩ := holds
      cases (untouched_iff.mp untouched).2
  | putting key file input =>
      obtain ⟨-, -, untouched, -⟩ := holds
      cases (untouched_iff.mp untouched).2
  | checking key file etag =>
      obtain ⟨-, -, still, -⟩ := holds
      cases still
  | multipart key managed call =>
      obtain ⟨⟨file, polled, reached⟩, untouched⟩ := holds
      refine ⟨⟨file, polled.snoc (by simp), reached⟩, ?_⟩
      intro early
      cases (untouched_iff.mp (untouched early)).2
  | deleting key => trivial
  | returned result => trivial
  | panicked site => trivial

theorem sendInvariant_step {events : List WorldEvent} {world after : SendWorld}
    {event : WorldEvent} {out : List SendEffect}
    (holds : SendInvariant crates builder prior events world)
    (taken : (sendWorld crates builder).step world event = some (after, out)) :
    SendInvariant crates builder prior (events ++ [event]) after := by
  obtain ⟨client, object, completing⟩ := world
  rcases world_step_cases taken with ⟨e, next, rfl, stepped, rfl⟩ |
    ⟨committed, rfl, completes, rfl, rfl⟩
  · clear taken
    dsimp only at stepped ⊢
    cases stepped with
    | start begun =>
        obtain ⟨rfl, untouched⟩ := holds
        obtain ⟨rfl, rfl⟩ := untouched_iff.mp untouched
        exact sendInvariant_begin begun
    | opened sent =>
        obtain ⟨polled, below, untouched, none_yet⟩ := holds
        obtain ⟨rfl, rfl⟩ := untouched_iff.mp untouched
        rcases sendPut_cases sent with ⟨error, rfl, rfl⟩ | ⟨input, accepted, rfl, rfl⟩
        · trivial
        · refine ⟨polled.snoc (by simp), below, ⟨rfl, rfl⟩, ?_, stored_of_stream accepted⟩
          rw [List.filterMap_append, none_yet]
          rfl
    | unopened => trivial
    | putFailed failed => trivial
    | @put key file input body etag length =>
        obtain ⟨polled, below, untouched, none_yet, stored⟩ := holds
        obtain ⟨rfl, rfl⟩ := untouched_iff.mp untouched
        refine ⟨polled.snoc (by simp), below, rfl, body, ?_, ?_⟩
        · rw [List.filterMap_append, none_yet]
          rfl
        · exact congrArg some (stored body)
    | cancelled token => trivial
    | checked found =>
        unfold checkSource at found
        split at found
        · cases found
          trivial
        · split at found
          · cases found
            trivial
          · cases found
            trivial
    | deleted => trivial
    | call moved => exact sendInvariant_call holds moved
  · obtain rfl : completing = true := completes
    exact sendInvariant_committed holds committed

theorem sendInvariant_of_reaches {history : History WorldEvent SendEffect} {world : SendWorld}
    (run : (sendWorld crates builder).Reaches (SendWorld.start prior) history world) :
    SendInvariant crates builder prior history.events world := by
  induction run with
  | refl => exact ⟨rfl, rfl, rfl⟩
  | snoc before taken ih =>
      rw [History.events_append]
      exact sendInvariant_step ih taken

end BeforeCheck

section AfterCheck

variable {crates : Crates} {builder : UploadFileBuilder} {prior object : Option StoredObject}
  {world after : SendWorld} {event : WorldEvent} {out : List SendEffect}

/-- The call has failed, or will when the answer to the abort is there. -/
def SendState.Leaving (client : SendState) : Prop :=
  (∃ key managed session error, client = .multipart key managed (.aborting session error)) ∨
    ∃ error, client = .failed error

/-- From there on nothing happens at the key. -/
theorem leaving_step (leaving : world.client.Leaving) (untouched : world.Untouched object)
    (taken : (sendWorld crates builder).step world event = some (after, out)) :
    after.client.Leaving ∧ after.Untouched object := by
  obtain ⟨client, stored, completing⟩ := world
  obtain ⟨rfl, rfl⟩ := untouched_iff.mp untouched
  dsimp only at leaving
  rcases world_step_cases taken with ⟨e, next, rfl, stepped, rfl⟩ |
    ⟨committed, rfl, completes, rfl, rfl⟩
  · dsimp only at stepped ⊢
    rcases leaving with ⟨key, managed, session, error, rfl⟩ | ⟨error, rfl⟩
    · cases stepped with
      | call moved =>
          cases callStep_of_step moved with
          | aborted => exact ⟨Or.inr ⟨_, rfl⟩, rfl, rfl⟩
    · cases stepped
  · cases completes

/-- After the PUT of a file that has changed: the new object is there until it is deleted. -/
def SendWorld.CleaningUp (world : SendWorld) : Prop :=
  world.completing = false ∧ ((∃ key, world.client = .deleting key) ∨
    (∃ error, world.client = .failed error) ∧ world.object = none)

theorem cleaningUp_step (cleaning : world.CleaningUp) (cleans : event.CleansUp)
    (taken : (sendWorld crates builder).step world event = some (after, out)) :
    after.CleaningUp := by
  obtain ⟨client, stored, completing⟩ := world
  obtain ⟨still, shape⟩ := cleaning
  dsimp only at still shape
  subst still
  rcases world_step_cases taken with ⟨e, next, rfl, stepped, rfl⟩ |
    ⟨committed, rfl, completes, rfl, rfl⟩
  · dsimp only at stepped ⊢
    rcases shape with ⟨key, rfl⟩ | ⟨⟨error, rfl⟩, -⟩
    · cases stepped with
      | @deleted _ answer =>
          obtain rfl : answer = .ok () := cleans
          exact ⟨rfl, Or.inr ⟨⟨_, rfl⟩, rfl⟩⟩
    · cases stepped
  · cases completes

/-- A failed source check of the multipart branch leads to the abort or out of the call, and
    has not asked for the completion. -/
theorem leaving_of_check {key : ObjectKey} {managed : ManagedMultipartBuilder} {boot : FileBoot}
    {session : PresignedMultipart} {manifest : PartMap} {uploadedCount reusedCount : Nat}
    {metadata : Option Metadata}
    {next : CallState FileBoot RunState} {sent : List Effect}
    (changed : ∀ found, metadata = some found →
      boot.fingerprint.matchesMetadata found = false)
    (moved : (managedCall managed (uploadFile crates managed)).step
      (.running boot session (.checking manifest uploadedCount reusedCount))
      (.inner (.checked metadata)) = some (next, sent)) :
    (onCall key managed next).Leaving ∧ Uncompleted sent := by
  have fails : ∀ {inner out},
      ((uploadFile crates managed).machine boot session).step
        (.checking manifest uploadedCount reusedCount) (.checked metadata) = some (inner, out) →
      (∃ error, inner = .failed error) ∧ out = [] := by
    intro inner out stepped
    cases Transfer.runStep_of_step stepped with
    | changed differs => exact ⟨⟨_, rfl⟩, rfl⟩
    | unchanged same =>
        rw [changed _ rfl] at same
        cases same
  cases callStep_of_step moved with
  | inner stepped unsettled =>
      obtain ⟨⟨error, rfl⟩, -⟩ := fails stepped
      exact absurd rfl (unsettled _)
  | settled stepped finished left =>
      obtain ⟨⟨error, rfl⟩, rfl⟩ := fails stepped
      cases finished
      simp only [settle, afterStartError] at left
      split at left
      · cases left
        refine ⟨Or.inl ⟨_, _, _, _, rfl⟩, ?_⟩
        intro effect member
        rw [List.nil_append, List.mem_singleton] at member
        subst member
        rfl
      · cases left
        exact ⟨Or.inr ⟨_, rfl⟩, uncompleted_nil⟩

theorem untouched_of_leaving {rest : History WorldEvent SendEffect} {last : SendWorld}
    (leaving : world.client.Leaving) (untouched : world.Untouched object)
    (run : (sendWorld crates builder).Reaches world rest last) : last.object = object := by
  have kept : last.client.Leaving ∧ last.Untouched object :=
    run.state_invariant ⟨leaving, untouched⟩
      (fun _ _ _ _ holds taken => leaving_step holds.1 holds.2 taken)
  exact kept.2.1

/-- A failed call that was cleaning up has deleted the object. -/
theorem gone_of_cleaningUp {rest : History WorldEvent SendEffect} {last : SendWorld}
    {error : Error} (cleaning : world.CleaningUp)
    (run : (sendWorld crates builder).Reaches world rest last)
    (cleaned : ∀ event ∈ rest.events, event.CleansUp) (failed : last.client = .failed error) :
    last.object = none := by
  have still : last.CleaningUp := by
    clear failed
    induction run with
    | refl => exact cleaning
    | snoc before taken ih =>
        obtain ⟨earlier, cleans⟩ := History.forall_events_snoc.mp cleaned
        exact cleaningUp_step (ih earlier) cleans taken
  obtain ⟨-, ⟨key, deleting⟩ | ⟨-, gone⟩⟩ := still
  · rw [failed] at deleting
    cases deleting
  · exact gone

section Detected

variable {events : List WorldEvent} {metadata : Option Metadata} {file : Metadata}
  {last : SendWorld} {rest : History WorldEvent SendEffect} {error : Error}
  {object : Option StoredObject} {completing : Bool}

/-- After a PUT the new object is deleted, or left if the file could not be looked at. -/
theorem object_after_put_check {key : ObjectKey} {etag : Option String}
    (holds : SendInvariant crates builder prior events
      ⟨.checking key file etag, object, completing⟩)
    (changed : ∀ found, metadata = some found →
      (SourceFileFingerprint.fromMetadata file).matchesMetadata found = false)
    (taken : (sendWorld crates builder).step ⟨.checking key file etag, object, completing⟩
      (.client (.checked metadata)) = some (after, out))
    (run : (sendWorld crates builder).Reaches after rest last)
    (cleaned : ∀ event ∈ rest.events, event.CleansUp) (failed : last.client = .failed error) :
    file.len < builder.threshold.bytes ∧ ∃ body, events.filterMap WorldEvent.body = [body] ∧
      last.object = if metadata.isSome then none else some (builder.written body) := by
  obtain ⟨-, below, still, body, bodies, stored⟩ := holds
  dsimp only at still stored
  subst still stored
  refine ⟨below, body, bodies, ?_⟩
  cases metadata with
  | none =>
      cases taken
      rw [untouched_of_leaving (Or.inr ⟨_, rfl⟩) ⟨rfl, rfl⟩ run]
      rfl
  | some found =>
      simp only [sendWorld, send, checkSource, changed found rfl] at taken
      cases taken
      rw [gone_of_cleaningUp ⟨rfl, Or.inl ⟨key, rfl⟩⟩ run cleaned failed]
      rfl

/-- In the multipart branch nothing has been asked to appear at the key. -/
theorem object_after_call_check {key : ObjectKey} {managed : ManagedMultipartBuilder}
    {boot : FileBoot} {session : PresignedMultipart} {manifest : PartMap}
    {uploadedCount reusedCount : Nat}
    (holds : SendInvariant crates builder prior events ⟨.multipart key managed
      (.running boot session (.checking manifest uploadedCount reusedCount)), object, completing⟩)
    (changed : ∀ found, metadata = some found →
      boot.fingerprint.matchesMetadata found = false)
    (taken : (sendWorld crates builder).step ⟨.multipart key managed
      (.running boot session (.checking manifest uploadedCount reusedCount)), object, completing⟩
      (.client (.call (.inner (.checked metadata)))) = some (after, out))
    (run : (sendWorld crates builder).Reaches after rest last) :
    last.object = prior := by
  obtain ⟨-, untouched⟩ := holds
  obtain ⟨rfl, rfl⟩ := untouched_iff.mp (untouched rfl)
  rcases world_step_cases taken with ⟨event, client, here, stepped, rfl⟩ | ⟨_, committed, -⟩
  · cases here
    cases stepped with
    | call moved =>
        obtain ⟨leaving, quiet⟩ := leaving_of_check changed moved
        exact untouched_of_leaving leaving ⟨rfl, quiet.any_ofManaged⟩ run
  · cases committed

end Detected

/-- A call that has failed at the check of the source: the run up to the check, the check, and
    the run to the end with a cleanup that worked. -/
structure SourceChange (crates : Crates) (builder : UploadFileBuilder)
    (prior : Option StoredObject) where
  before : History WorldEvent SendEffect
  world : SendWorld
  ran : (sendWorld crates builder).Reaches (SendWorld.start prior) before world
  cancelled : Bool
  file : Metadata
  polled : .client (.poll cancelled (some file)) ∈ before.events
  event : SendEvent
  metadata : Option Metadata
  detected : DetectsChange world.client event metadata
  next : SendWorld
  out : List SendEffect
  taken : (sendWorld crates builder).step world (.client event) = some (next, out)
  rest : History WorldEvent SendEffect
  last : SendWorld
  run : (sendWorld crates builder).Reaches next rest last
  cleaned : ∀ event ∈ rest.events, event.CleansUp
  error : Error
  failed : last.client = .failed error

/-- Exactly then the key is as it was before: if the multipart branch was taken, or nothing
    stood there and the change could be seen, or the file could not be looked at and the very
    same object stood there. -/
theorem source_change_untouched_iff (change : SourceChange crates builder prior) :
    change.last.object = prior ↔
      builder.threshold.bytes ≤ change.file.len ∨ (prior = none ∧ change.metadata ≠ none) ∨
      (change.metadata = none ∧ ∃ body etag,
        .client (.put body (.ok etag)) ∈ change.before.events ∧
        prior = some (builder.written body)) := by
  obtain ⟨before, world, ran, cancelled, file, polled, event, metadata, detected, next, out, taken,
    rest, last, run, cleaned, error, failed⟩ := change
  dsimp only
  have invariant := sendInvariant_of_reaches ran
  have same_file : ∀ {other}, Polled before.events other → other = file :=
    fun other => Option.some.inj (other cancelled (some file) polled).symm
  obtain ⟨now, object, completing⟩ := world
  obtain ⟨fingerprint, checked, changed⟩ := detected
  rcases sourceCheck_cases checked with ⟨key, at_start, etag, rfl, rfl, rfl⟩ |
    ⟨key, managed, boot, session, manifest, uploadedCount, reusedCount, rfl, rfl, rfl⟩
  · obtain rfl := same_file invariant.1
    obtain ⟨below, body, bodies, stands⟩ :=
      object_after_put_check invariant changed taken run cleaned failed
    have put_iff : ∀ other, (∃ etag, .client (.put other (.ok etag)) ∈ before.events) ↔
        other = body := by
      intro other
      rw [← mem_bodies_iff, bodies, List.mem_singleton]
    rw [stands]
    cases metadata with
    | none =>
        constructor
        · intro left
          obtain ⟨etag, put⟩ := (put_iff body).mpr rfl
          exact Or.inr (Or.inr ⟨rfl, body, etag, put, left.symm⟩)
        · rintro (reached | ⟨-, found⟩ | ⟨-, other, etag, put, same⟩)
          · omega
          · exact absurd rfl found
          · obtain rfl := (put_iff other).mp ⟨etag, put⟩
            exact same.symm
    | some found =>
        constructor
        · intro gone
          exact Or.inr (Or.inl ⟨gone.symm, Option.some_ne_none found⟩)
        · rintro (reached | ⟨absent, -⟩ | ⟨unreadable, -⟩)
          · omega
          · exact absent.symm
          · cases unreadable
  · obtain ⟨other, found, reached⟩ := invariant.1
    obtain rfl := same_file found
    exact iff_of_true (object_after_call_check invariant changed taken run) (Or.inl reached)

end AfterCheck

/-- A file of three bytes that is written to after it was sent. The object is deleted. -/
def SourceChange.ofClip (prior : Option StoredObject) :
    SourceChange .minimal .clip prior where
  before := [
    (.client (.poll false (some ⟨true, 3, some 0, 0, 0⟩)), []),
    (.client (.opened true),
      [.put (putObjectInput UploadFileBuilder.clip.bucket .clip 3 {})]),
    (.client (.put [1, 2, 3] (.ok none)), [])]
  world := ⟨.checking .clip ⟨true, 3, some 0, 0, 0⟩ none,
    some (UploadFileBuilder.clip.written [1, 2, 3]), false⟩
  ran := Machine.reaches_of_replay rfl
  cancelled := false
  file := ⟨true, 3, some 0, 0, 0⟩
  polled := List.mem_cons_self
  event := .checked (some ⟨true, 3, some 1, 0, 0⟩)
  metadata := some ⟨true, 3, some 1, 0, 0⟩
  detected := by
    refine ⟨_, rfl, ?_⟩
    rintro found ⟨⟩
    rfl
  next := ⟨.deleting .clip, some (UploadFileBuilder.clip.written [1, 2, 3]), false⟩
  out := [.delete UploadFileBuilder.clip.bucket.value "clip"]
  taken := rfl
  rest := [(.client (.deleted (.ok ())), [])]
  last := ⟨.failed (.invalidInput "path" "file changed during upload"), none, false⟩
  run := Machine.reaches_of_replay rfl
  cleaned := List.forall_mem_singleton.mpr rfl
  error := .invalidInput "path" "file changed during upload"
  failed := rfl

/-- Where nothing stood before, nothing stands after. -/
theorem source_change_untouched_iff_new_key :
    (SourceChange.ofClip none).last.object = none ∧
    ((SourceChange.ofClip none).last.object = none ↔
      UploadFileBuilder.clip.threshold.bytes ≤ (SourceChange.ofClip none).file.len ∨
      ((none : Option StoredObject) = none ∧ (SourceChange.ofClip none).metadata ≠ none) ∨
      ((SourceChange.ofClip none).metadata = none ∧ ∃ body etag,
        .client (.put body (.ok etag)) ∈ (SourceChange.ofClip none).before.events ∧
        none = some (UploadFileBuilder.clip.written body))) :=
  ⟨rfl, source_change_untouched_iff (.ofClip none)⟩

/-- The object that stood at the key of a file below the threshold is lost. -/
theorem source_change_loses_object :
    ∃ (prior : StoredObject)
      (change : SourceChange .minimal UploadFileBuilder.clip (some prior)),
      change.file.len < UploadFileBuilder.clip.threshold.bytes ∧ change.last.object ≠ some prior :=
  ⟨UploadFileBuilder.clip.written [4, 5], .ofClip _, by decide, nofun⟩

end R2kit
