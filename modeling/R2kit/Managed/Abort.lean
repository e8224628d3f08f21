import R2kit.Managed.Call
import R2kit.Misc.Network
import R2kit.Remote

/-!
# Completion against abort

The call on an account where every message of a dropped future may still arrive, late and
more than once, and where others send requests of their own. What decides is the order in
which the call itself asks: the completion once, the abort once and as the very last
request.
-/

namespace R2kit

open Misc

/-- A `CompleteMultipartUpload`. -/
def Effect.isCompletion : Effect → Bool
  | .send ⟨_, .completeMultipartUpload _⟩ => true
  | _ => false

/-- An `AbortMultipartUpload`. -/
def Effect.isAbort : Effect → Bool
  | .send ⟨_, .abortMultipartUpload⟩ => true
  | _ => false

/-- An effect that does not end a session. -/
def Effect.Quiet (effect : Effect) : Prop :=
  effect.isCompletion = false ∧ effect.isAbort = false

/-- What a step of the future of a call can mean for its session, by where the future was,
    where it comes to, what it sends and which answer it takes. -/
inductive EndsBy (session : PresignedMultipart) : Option Ending → Option Ending →
    List Effect → Option (Effect × Response) → Prop
  | busy {out answer} (quiet : ∀ effect ∈ out, effect.Quiet) :
      EndsBy session none none out answer
  | fails {out answer fault} (quiet : ∀ effect ∈ out, effect.Quiet) :
      EndsBy session none (some (.finished (.error fault))) out answer
  | asks {completion request answer uploadedParts reusedParts}
      (accepted : session.completeRequest completion = .ok request) :
      EndsBy session none (some (.completing request uploadedParts reusedParts))
        [.send request] answer
  | completes {request uploadedParts reusedParts result etag} :
      EndsBy session (some (.completing request uploadedParts reusedParts))
        (some (.finished (.ok result))) []
        (some (.send request, .completeMultipartUpload etag))
  | refused {request uploadedParts reusedParts answer fault} :
      EndsBy session (some (.completing request uploadedParts reusedParts))
        (some (.finished (.error fault))) [] answer

/-- A future that asks for the completion at its end, and for an abort never. -/
structure Entry.Disciplined {Boot S E : Type} (entry : Entry Boot S E) : Prop where
  initial : ∀ session, entry.ending (entry.initial session) = none
  step : ∀ boot session inner event next out,
    (entry.machine boot session).step inner event = some (next, out) →
    EndsBy session (entry.ending inner) (entry.ending next) out
      (entry.consumes session inner event)

section Futures

variable {transfer : Transfer} {crates : Crates} {builder : ManagedMultipartBuilder}

/-- A part in flight sends its own upload. -/
theorem PartTask.step_quiet {session : PresignedMultipart} {maxAttempts : Nat}
    {task next : PartTask} {event : TaskEvent} {out : List Effect}
    (stepped : task.step session maxAttempts event = some (.pending next out)) :
    ∀ effect ∈ out, effect.Quiet := by
  rcases PartTask.pending_cases stepped with ⟨_, body, -, -, -, -, rfl⟩ |
    ⟨_, _, _, _, _, -, -, -, -, rfl⟩ | ⟨body, _, _, -, -, -, rfl⟩
  · exact List.forall_mem_singleton.mpr ⟨rfl, rfl⟩
  · intro effect member
    cases member
  · exact List.forall_mem_singleton.mpr ⟨rfl, rfl⟩

theorem Uploads.progress_quiet {uploads : Uploads} :
    ∀ effect ∈ uploads.progress transfer, effect.Quiet := by
  intro effect reported
  obtain ⟨progress, rfl⟩ := Uploads.progress_report reported
  exact ⟨rfl, rfl⟩

theorem Uploads.onTask_quiet {uploads next : Uploads} {number : PartNumber}
    {event : TaskEvent} {out : List Effect}
    (taken : uploads.onTask transfer number event = some (.running next out)) :
    ∀ effect ∈ out, effect.Quiet := by
  obtain ⟨_, task, _, -, -, ⟨moved, stepped, -⟩ | ⟨part, -, -, rfl⟩⟩ :=
    Uploads.running_cases taken
  · exact PartTask.step_quiet stepped
  · exact Uploads.progress_quiet

/-- The step to the completion. -/
theorem endsBy_start (session : PresignedMultipart) (manifest : PartMap)
    (uploadedParts reusedParts : Nat) (answer : Option (Effect × Response)) :
    EndsBy session none (some (Ending.start session manifest uploadedParts reusedParts).1)
      (Ending.start session manifest uploadedParts reusedParts).2 answer := by
  rcases Ending.start_cases session manifest uploadedParts reusedParts with
    ⟨error, started⟩ | ⟨completion, request, accepted, started⟩
  · rw [started]
    exact .fails (List.forall_mem_nil _)
  · rw [started]
    exact .asks accepted

/-- The step on the answer to it: only a completion that was answered ends well. -/
theorem endsBy_completed {session : PresignedMultipart} {request : Request}
    {uploadedParts reusedParts : Nat} {answer : Except SdkError (Option String)}
    {handed : Option (Effect × Response)}
    (hands : ∀ etag, answer = .ok etag →
      handed = some (.send request, .completeMultipartUpload etag)) :
    EndsBy session (some (.completing request uploadedParts reusedParts))
      (some (Ending.onCompleted session uploadedParts reusedParts answer)) [] handed := by
  cases answer with
  | error error => exact .refused
  | ok etag =>
      rw [hands etag rfl]
      exact .completes

theorem ending_afterUploads {reused : PartMap} {queue : List (PartNumber × Nat)}
    {uploads : Uploads} :
    (uploadFile crates builder).ending (Transfer.afterUploads reused queue uploads) = none := by
  unfold Transfer.afterUploads
  split <;> rfl

theorem endsBy_prepare (existing : List UploadedPart) (answer : Option (Effect × Response)) :
    EndsBy transfer.session none ((uploadFile crates builder).ending (transfer.prepare existing).1)
      (transfer.prepare existing).2 answer := by
  unfold Transfer.prepare
  split
  · exact .fails (List.forall_mem_nil _)
  · split
    · exact .fails Uploads.progress_quiet
    · rw [ending_afterUploads]
      exact .busy Uploads.progress_quiet

theorem uploadFile_disciplined : (uploadFile crates builder).Disciplined := by
  constructor
  · intro session
    rfl
  · intro boot session inner event next out taken
    cases Transfer.runStep_of_step taken with
    | list resumed =>
        exact .busy (List.forall_mem_singleton.mpr ⟨rfl, rfl⟩)
    | fresh new => exact @endsBy_prepare ⟨builder, session⟩ crates builder [] _
    | unlisted failed => exact .fails (List.forall_mem_nil _)
    | page accepted =>
        exact .busy (List.forall_mem_singleton.mpr ⟨rfl, rfl⟩)
    | lastPage accepted => exact @endsBy_prepare ⟨builder, session⟩ crates builder _ _
    | start room => exact .busy (List.forall_mem_nil _)
    | partFailed failed => exact .fails (List.forall_mem_nil _)
    | part moved =>
        rw [ending_afterUploads]
        exact .busy (Uploads.onTask_quiet moved)
    | changed differs => exact .fails (List.forall_mem_nil _)
    | unchanged same => exact endsBy_start session _ _ _ _
    | completed =>
        apply endsBy_completed
        rintro etag rfl
        rfl

theorem endsBy_join {result : Except Error Unit} {uploads : Uploads}
    {content : List UInt8} {fileSize : Nat} {answer : Option (Effect × Response)} :
    EndsBy transfer.session none
      ((uploadStream crates builder content fileSize).ending (transfer.join result uploads).1)
      (transfer.join result uploads).2 answer := by
  cases result with
  | error error => exact .fails (List.forall_mem_nil _)
  | ok done => exact endsBy_start transfer.session _ _ _ _

theorem uploadStream_disciplined {content : List UInt8} {fileSize : Nat} :
    (uploadStream crates builder content fileSize).Disciplined := by
  constructor
  · intro session
    rfl
  · intro boot session inner event next out taken
    cases Transfer.streamStep_of_step taken with
    | reader isOpen moved room => exact .busy (List.forall_mem_nil _)
    | recv room =>
        exact .busy (List.forall_mem_singleton.mpr ⟨rfl, rfl⟩)
    | partFailed failed => exact .fails (List.forall_mem_nil _)
    | part moved => exact .busy (Uploads.onTask_quiet moved)
    | drained joined queue_empty none_left =>
        exact @endsBy_join ⟨builder, session⟩ crates builder _ _ content fileSize _
    | completed =>
        apply endsBy_completed
        rintro etag rfl
        rfl

end Futures

section Sent

/-- What a call may send: the completion at most once, and an abort only as the last
    request. -/
structure Orderly (sent : List Effect) : Prop where
  completions : (sent.filter Effect.isCompletion).length ≤ 1
  last : ∀ before effect after, sent = before ++ effect :: after → effect.isAbort = true →
    after = []

/-- No abort was sent. -/
def Unaborted (sent : List Effect) : Prop := ∀ effect ∈ sent, effect.isAbort = false

/-- No completion was sent. -/
def Uncompleted (sent : List Effect) : Prop := ∀ effect ∈ sent, effect.isCompletion = false

variable {sent out : List Effect}

theorem uncompleted_nil : Uncompleted [] := List.forall_mem_nil _

theorem Uncompleted.append (earlier : Uncompleted sent) (later : Uncompleted out) :
    Uncompleted (sent ++ out) :=
  List.forall_mem_append.mpr ⟨earlier, later⟩

theorem Unaborted.append (earlier : Unaborted sent) (later : Unaborted out) :
    Unaborted (sent ++ out) :=
  List.forall_mem_append.mpr ⟨earlier, later⟩

theorem unaborted_of_quiet (quiet : ∀ effect ∈ out, effect.Quiet) : Unaborted out :=
  fun effect member => (quiet effect member).2

theorem completions_of_quiet (quiet : ∀ effect ∈ out, effect.Quiet) :
    (sent ++ out).filter Effect.isCompletion = sent.filter Effect.isCompletion := by
  have none_left : out.filter Effect.isCompletion = [] := by
    rw [List.filter_eq_nil_iff]
    intro effect member
    simp [(quiet effect member).1]
  rw [List.filter_append, none_left, List.append_nil]

/-- Without an abort only the completions count. -/
theorem Unaborted.orderly (unaborted : Unaborted sent)
    (completions : (sent.filter Effect.isCompletion).length ≤ 1) : Orderly sent := by
  refine ⟨completions, ?_⟩
  intro before effect after shape abort
  rw [unaborted effect (by simp [shape])] at abort
  cases abort

/-- The abort may come last. -/
theorem Unaborted.orderly_abort (unaborted : Unaborted sent)
    (completions : (sent.filter Effect.isCompletion).length ≤ 1)
    (session : PresignedMultipart) : Orderly (sent ++ [.send session.abortRequest]) := by
  constructor
  · rw [List.filter_append]
    simpa [Effect.isCompletion, PresignedMultipart.abortRequest, PresignedMultipart.request]
      using completions
  · intro before effect after shape abort
    rcases List.eq_nil_or_concat after with rfl | ⟨front, final, rfl⟩
    · rfl
    · rw [List.concat_eq_append, ← List.cons_append, ← List.append_assoc] at shape
      obtain ⟨rfl, -⟩ := List.append_inj' shape rfl
      rw [unaborted effect (by simp)] at abort
      cases abort

end Sent

section ClosedSystem

variable {Boot S E : Type}

/-- The session that a call is about, told from what has happened to the call. -/
def onSession (entry : Entry Boot S E) : List (CallEvent Boot E) → Option PresignedMultipart
  | .poll boot :: rest =>
      match entry.start boot with
      | .resumed session => some session
      | .creating request plan _ =>
          match rest with
          | .created answer :: _ => (request.created plan answer).toOption
          | _ => none
      | .failed _ => none
  | _ => none

/-- Once it is known, the session stays the same. -/
theorem onSession_append {entry : Entry Boot S E} {events : List (CallEvent Boot E)}
    {session : PresignedMultipart} (known : onSession entry events = some session)
    (more : List (CallEvent Boot E)) : onSession entry (events ++ more) = some session := by
  unfold onSession at known
  split at known
  · rename_i boot rest
    split at known
    · rename_i found start
      simp only [List.cons_append, onSession, start]
      exact known
    · rename_i start
      split at known
      · simp only [List.cons_append, onSession, start]
        exact known
      · cases known
    · cases known
  · cases known

/-- A call on an account where others send requests of their own at any moment. -/
def callProtocol (builder : ManagedMultipartBuilder) (entry : Entry Boot S E)
    (scheme : EtagScheme) :
    Protocol (CallState Boot S) (CallEvent Boot E) Effect Response Remote Choice
      (Effect × Choice) where
  machine := managedCall builder entry
  consumes := callConsumes entry
  serve := Remote.serve scheme
  outside remote action := (remote.serve scheme action.1 action.2).map Prod.fst

/-- The request that completes a session. -/
def IsCompletionOf (session : PresignedMultipart) (request : Request) : Prop :=
  ∃ parts, request = session.request (.completeMultipartUpload parts)

/-- The invariant of the client, given what has happened to it, what it has sent and what was
    answered. -/
def ClientInvariant (entry : Entry Boot S E) (events : List (CallEvent Boot E))
    (sent : List Effect) (answers : List (Effect × Response)) : CallState Boot S → Prop
  | .ready => events = [] ∧ sent = []
  | .creating boot request plan => events = [.poll boot] ∧
      (∃ input, entry.start boot = .creating request plan input ∧ sent = [.create input])
  | .running _ session inner => onSession entry events = some session ∧ Unaborted sent ∧
      match entry.ending inner with
      | none => sent.filter Effect.isCompletion = []
      | some (.completing request _ _) => IsCompletionOf session request ∧
          (sent.filter Effect.isCompletion).length ≤ 1
      | some (.finished _) => False
  | .aborting session _ => onSession entry events = some session ∧ Orderly sent
  | .returned (.ok _) => (∃ session request etag, onSession entry events = some session ∧
        IsCompletionOf session request ∧
        (.send request, .completeMultipartUpload etag) ∈ answers) ∧
      Unaborted sent ∧ Orderly sent
  | .returned (.error failure) => Orderly sent ∧
      (failure.aborted = true → ∃ session, onSession entry events = some session ∧
        (.send session.abortRequest, .abortMultipartUpload) ∈ answers)
  | .panicked _ => Orderly sent

variable {builder : ManagedMultipartBuilder} {entry : Entry Boot S E} {scheme : EtagScheme}
  {events : List (CallEvent Boot E)} {sent out : List Effect}
  {answers more : List (Effect × Response)}

theorem ClientInvariant.mono {s : CallState Boot S}
    (holds : ClientInvariant entry events sent answers s) :
    ClientInvariant entry events sent (answers ++ more) s := by
  cases s with
  | returned result =>
      cases result with
      | ok result =>
          obtain ⟨⟨session, request, etag, known, of_session, member⟩, rest⟩ := holds
          exact ⟨⟨session, request, etag, known, of_session, List.mem_append_left _ member⟩, rest⟩
      | error failure =>
          obtain ⟨orderly, gone⟩ := holds
          refine ⟨orderly, fun aborted => ?_⟩
          obtain ⟨session, known, member⟩ := gone aborted
          exact ⟨session, known, List.mem_append_left _ member⟩
  | ready => exact holds
  | creating boot request plan => exact holds
  | running boot session inner => exact holds
  | aborting session error => exact holds
  | panicked site => exact holds

/-- A running call has asked for its completion once at most. -/
theorem ClientInvariant.completions_le {boot : Boot} {session : PresignedMultipart} {inner : S}
    (holds : ClientInvariant entry events sent answers (.running boot session inner)) :
    (sent.filter Effect.isCompletion).length ≤ 1 := by
  obtain ⟨-, -, progress⟩ := holds
  split at progress
  · rw [show sent.filter Effect.isCompletion = [] from progress]
    exact Nat.zero_le _
  · exact progress.2
  · exact progress.elim

/-- An error after the start leads to the abort, or to none. -/
theorem clientInvariant_afterStartError {session : PresignedMultipart} {error : Error}
    {state : CallState Boot S} (left : afterStartError builder session error = (state, out))
    (known : onSession entry events = some session) (unaborted : Unaborted sent)
    (completions : (sent.filter Effect.isCompletion).length ≤ 1) :
    ClientInvariant entry events (sent ++ out) answers state := by
  unfold afterStartError at left
  split at left
  · cases left
    exact ⟨known, unaborted.orderly_abort completions session⟩
  · cases left
    rw [List.append_nil]
    exact ⟨unaborted.orderly completions, fun aborted => absurd aborted (by simp)⟩

/-- The future going on without an outcome. -/
theorem clientInvariant_inner {boot : Boot} {session : PresignedMultipart} {inner next : S}
    {answer : Option (Effect × Response)}
    (holds : ClientInvariant entry events sent answers (.running boot session inner))
    (ends : EndsBy session (entry.ending inner) (entry.ending next) out answer)
    (unsettled : ∀ result, entry.ending next ≠ some (.finished result)) :
    ClientInvariant entry events (sent ++ out) answers (.running boot session next) := by
  obtain ⟨known, unaborted, progress⟩ := holds
  simp only [ClientInvariant]
  generalize entry.ending inner = before at ends progress
  generalize entry.ending next = after at ends unsettled
  cases ends with
  | busy quiet =>
      refine ⟨known, unaborted.append (unaborted_of_quiet quiet), ?_⟩
      show (sent ++ out).filter Effect.isCompletion = []
      rwa [completions_of_quiet quiet]
  | asks accepted =>
      obtain ⟨-, rfl⟩ := PresignedMultipart.completeRequest_eq_ok_iff.mp accepted
      refine ⟨known, unaborted.append ?_, ⟨_, rfl⟩, ?_⟩
      · exact List.forall_mem_singleton.mpr rfl
      · rw [List.filter_append, show sent.filter Effect.isCompletion = [] from progress]
        exact List.length_filter_le _ _
  | fails quiet => exact absurd rfl (unsettled _)
  | completes => exact absurd rfl (unsettled _)
  | refused => exact absurd rfl (unsettled _)

/-- The future coming to its outcome. -/
theorem clientInvariant_settled {boot : Boot} {session : PresignedMultipart} {inner next : S}
    {answer : Option (Effect × Response)} {result : Outcome ManagedUploadResult}
    {state : CallState Boot S} {last : List Effect}
    (holds : ClientInvariant entry events sent answers (.running boot session inner))
    (ends : EndsBy session (entry.ending inner) (entry.ending next) out answer)
    (answered : ∀ handed, answer = some handed → handed ∈ answers)
    (finished : entry.ending next = some (.finished result))
    (left : settle builder session result = (state, last)) :
    ClientInvariant entry events (sent ++ (out ++ last)) answers state := by
  obtain ⟨known, unaborted, progress⟩ := holds
  rw [finished] at ends
  generalize entry.ending inner = before at ends progress
  have failing : (sent ++ out).filter Effect.isCompletion = sent.filter Effect.isCompletion →
      (sent.filter Effect.isCompletion).length ≤ 1 → Unaborted out →
      ∀ fault, result = .error fault →
      ClientInvariant entry events (sent ++ (out ++ last)) answers state := by
    rintro same completions still fault rfl
    rw [← List.append_assoc]
    cases fault with
    | panic site =>
        cases left
        rw [List.append_nil]
        exact (unaborted.append still).orderly (by rwa [same])
    | error error =>
        exact clientInvariant_afterStartError left known (unaborted.append still) (by rwa [same])
  cases ends with
  | @fails _ _ fault quiet =>
      refine failing (completions_of_quiet quiet) ?_ (unaborted_of_quiet quiet) fault rfl
      rw [show sent.filter Effect.isCompletion = [] from progress]
      exact Nat.zero_le _
  | @refused _ _ _ _ fault =>
      exact failing (by rw [List.append_nil]) progress.2
        (List.forall_mem_nil _) fault rfl
  | completes =>
      obtain ⟨of_session, completions⟩ := progress
      cases left
      rw [List.append_nil, List.append_nil]
      exact ⟨⟨session, _, _, known, of_session, answered _ rfl⟩, unaborted,
        unaborted.orderly completions⟩

theorem clientInvariant_step {s s' : CallState Boot S} {event : CallEvent Boot E}
    (disciplined : entry.Disciplined) (holds : ClientInvariant entry events sent answers s)
    (answered : ∀ handed, callConsumes entry s event = some handed → handed ∈ answers)
    (taken : (managedCall builder entry).step s event = some (s', out)) :
    ClientInvariant entry (events ++ [event]) (sent ++ out) answers s' := by
  cases callStep_of_step taken with
  | failed failed =>
      obtain ⟨rfl, rfl⟩ := holds
      exact ⟨Unaborted.orderly (List.forall_mem_nil _) (by simp),
        fun aborted => absurd aborted (by simp [ManagedUploadError.beforeStart])⟩
  | create new =>
      obtain ⟨rfl, rfl⟩ := holds
      exact ⟨rfl, _, new, rfl⟩
  | resume resumed =>
      obtain ⟨rfl, rfl⟩ := holds
      refine ⟨?_, List.forall_mem_nil _, ?_⟩
      · simp [onSession, resumed]
      · rw [disciplined.initial]
        rfl
  | uncreated failed =>
      obtain ⟨rfl, input, new, rfl⟩ := holds
      refine ⟨Unaborted.orderly ?_ ?_,
        fun aborted => absurd aborted (by simp [ManagedUploadError.beforeStart])⟩
      · simp [Unaborted, Effect.isAbort]
      · simp [Effect.isCompletion]
  | created made =>
      obtain ⟨rfl, input, new, rfl⟩ := holds
      refine ⟨?_, ?_, ?_⟩
      · simp [onSession, new, made, Except.toOption]
      · simp [Unaborted, Effect.isAbort]
      · rw [disciplined.initial]
        rfl
  | inner moved unsettled =>
      refine clientInvariant_inner ?_ (disciplined.step _ _ _ _ _ _ moved) unsettled
      exact ⟨onSession_append holds.1 _, holds.2⟩
  | @settled boot session inner event next _ _ _ _ moved finished left =>
      have running : ClientInvariant entry (events ++ [.inner event]) sent answers
          (.running boot session inner) := ⟨onSession_append holds.1 _, holds.2⟩
      exact clientInvariant_settled running (disciplined.step _ _ _ _ _ _ moved) answered
        finished left
  | @cancelled boot session inner _ _ token left =>
      -- the future is dropped where it is, also while the completion is in flight
      exact clientInvariant_afterStartError left (onSession_append holds.1 _) holds.2.1
        holds.completions_le
  | @aborted session error answer =>
      obtain ⟨known, orderly⟩ := holds
      rw [List.append_nil]
      refine ⟨orderly, ?_⟩
      intro aborted
      cases answer with
      | error fault => cases aborted
      | ok done => exact ⟨session, onSession_append known _, answered _ rfl⟩

/-- What a call and the account have come to together. -/
structure Consistent (builder : ManagedMultipartBuilder) (entry : Entry Boot S E)
    (scheme : EtagScheme) (events : List (CallEvent Boot E))
    (net : Net (CallState Boot S) Effect Response Remote) : Prop where
  orderly : Orderly net.sent
  committed : ∀ result, net.client = .returned (.ok result) →
    ∃ session object, onSession entry events = some session ∧
      net.server.status session.address = some (.committed object) ∧ Unaborted net.sent
  aborted : ∀ failure, net.client = .returned (.error failure) → failure.aborted = true →
    ∃ session, onSession entry events = some session ∧ ∀ history later,
      (callProtocol builder entry scheme).net.Reaches net history later →
      later.server.status session.address = some .aborted

theorem clientInvariant_of_reaches {remote : Remote}
    {history : History (NetEvent (CallEvent Boot E) Choice (Effect × Choice)) Effect}
    {net : Net (CallState Boot S) Effect Response Remote} (disciplined : entry.Disciplined)
    (run : (callProtocol builder entry scheme).net.Reaches (Net.start .ready remote) history
      net) :
    ClientInvariant entry (clientHistory history).events net.sent net.answers net.client := by
  induction run with
  | refl => exact ⟨rfl, rfl⟩
  | snoc before taken ih =>
      rw [clientHistory_append, History.events_append]
      rcases Protocol.net_step_cases taken with ⟨event, client, rfl, allowed, stepped, rfl⟩ |
        ⟨_, _, _, _, _, rfl, -, -, -, rfl⟩ | ⟨_, _, rfl, -, -, rfl⟩
      · refine clientInvariant_step disciplined ih ?_ stepped
        intro answer hands
        have made := Protocol.mem_answers_of_answered allowed hands
        exact made
      · rw [clientHistory_serve, History.events_nil, List.append_nil]
        exact ih.mono
      · rw [clientHistory_outside, History.events_nil, List.append_nil]
        exact ih

theorem outside_leads {remote after : Remote} {action : Effect × Choice}
    (acted : (callProtocol builder entry scheme).outside remote action = some after)
    (address : Address) : Remote.Leads (remote.status address) (after.status address) := by
  obtain ⟨⟨next, response⟩, served, rfl⟩ := Option.map_eq_some_iff.mp acted
  exact Remote.serve_leads served address

/-- What the answers say stays true of the account. -/
theorem answered_of_reaches {remote : Remote}
    {history : History (NetEvent (CallEvent Boot E) Choice (Effect × Choice)) Effect}
    {net : Net (CallState Boot S) Effect Response Remote}
    (run : (callProtocol builder entry scheme).net.Reaches (Net.start .ready remote) history
      net) : ∀ answer ∈ net.answers, Remote.Answered scheme net.server answer := by
  refine Protocol.server_invariant (P := fun server answers =>
    ∀ answer ∈ answers, Remote.Answered scheme server answer) ?_ ?_ ?_ run
  · exact List.forall_mem_nil _
  · intro server answers msg choice server' response holds served answer member
    rcases List.mem_append.mp member with earlier | now
    · exact (holds answer earlier).leads (Remote.serve_leads served)
    · rw [List.mem_singleton] at now
      subst now
      exact Remote.serve_answered served
  · intro server answers action server' holds acted answer member
    exact (holds answer member).leads (outside_leads acted)

/-- An aborted session stays aborted. -/
theorem stays_aborted {address : Address}
    {history : History (NetEvent (CallEvent Boot E) Choice (Effect × Choice)) Effect}
    {net later : Net (CallState Boot S) Effect Response Remote}
    (aborted : net.server.status address = some .aborted)
    (run : (callProtocol builder entry scheme).net.Reaches net history later) :
    later.server.status address = some .aborted := by
  have keeps : ∀ before after : Option Status, before = some .aborted →
      Remote.Leads before after → after = some .aborted := by
    rintro before after rfl (same | absent | live)
    · exact same
    · cases absent
    · cases live
  refine Protocol.server_invariant (P := fun server _ => server.status address = some .aborted)
    aborted ?_ ?_ run
  · intro server answers msg choice server' response holds served
    exact keeps _ _ holds (Remote.serve_leads served address)
  · intro server answers action server' holds acted
    exact keeps _ _ holds (outside_leads acted address)

theorem consistent_of_reaches {remote : Remote}
    {history : History (NetEvent (CallEvent Boot E) Choice (Effect × Choice)) Effect}
    {net : Net (CallState Boot S) Effect Response Remote} (disciplined : entry.Disciplined)
    (run : (callProtocol builder entry scheme).net.Reaches (Net.start .ready remote) history
      net) :
    Consistent builder entry scheme (clientHistory history).events net := by
  have client := clientInvariant_of_reaches disciplined run
  have answered := answered_of_reaches run
  constructor
  · generalize net.client = s at client
    cases s with
    | ready =>
        rw [client.2]
        exact Unaborted.orderly (List.forall_mem_nil _) (by simp)
    | creating boot request plan =>
        obtain ⟨-, input, -, sent⟩ := client
        rw [sent]
        exact Unaborted.orderly (by simp [Unaborted, Effect.isAbort])
          (by simp [Effect.isCompletion])
    | running boot session inner => exact client.2.1.orderly client.completions_le
    | aborting session error => exact client.2
    | returned result =>
        cases result with
        | ok result => exact client.2.2
        | error failure => exact client.1
    | panicked site => exact client
  · intro result returned
    rw [returned] at client
    obtain ⟨⟨session, request, etag, known, ⟨parts, rfl⟩, member⟩, unaborted, -⟩ := client
    obtain ⟨object, committed, -⟩ := answered _ member
    exact ⟨session, object, known, committed, unaborted⟩
  · intro failure returned aborted
    rw [returned] at client
    obtain ⟨session, known, member⟩ := client.2 aborted
    exact ⟨session, known, fun _ _ after => stays_aborted (answered _ member) after⟩

/-- In every run of either upload, at every moment and whatever of its messages arrives when:
    the completion is asked for at most once and an abort at most once, as the last request;
    a result means that the session is committed and that no abort was sent; an aborted
    session is never committed. -/
theorem completion_excludes_abort (crates : Crates) (builder : ManagedMultipartBuilder)
    (scheme : EtagScheme) (remote : Remote) :
    (∀ history net,
      (callProtocol builder (uploadFile crates builder) scheme).net.Reaches
        (Net.start .ready remote) history net →
      Consistent builder (uploadFile crates builder) scheme (clientHistory history).events
        net) ∧
    ∀ content fileSize history net,
      (callProtocol builder (uploadStream crates builder content fileSize) scheme).net.Reaches
        (Net.start .ready remote) history net →
      Consistent builder (uploadStream crates builder content fileSize) scheme
        (clientHistory history).events net := by
  constructor
  · intro history net run
    exact consistent_of_reaches uploadFile_disciplined run
  · intro content fileSize history net run
    exact consistent_of_reaches uploadStream_disciplined run

/-- What a failed call returned. -/
def failureOf : CallState Boot S → Option ManagedUploadError
  | .returned (.error failure) => some failure
  | _ => none

end ClosedSystem

/-- A call that is cancelled while the completion is in flight, and aborts. -/
theorem completion_excludes_abort_cancelled :
    ∃ (builder : ManagedMultipartBuilder)
      (history : History (NetEvent (CallEvent FileBoot RunEvent) Choice (Effect × Choice)) Effect)
      (net : Net (CallState FileBoot RunState) Effect Response Remote),
      failureOf net.client = some ⟨.cancelled, none, true⟩ ∧
      (net.sent.filter Effect.isCompletion).length = 1 ∧
      Consistent builder (uploadFile .minimal builder) .plain (clientHistory history).events
        net := by
  let builder : ManagedMultipartBuilder :=
    { ManagedMultipartBuilder.tiny with cancellation := true }
  let metadata : Metadata := ⟨true, 3, some 0, 0, 0⟩
  let inner (event : RunEvent) :
      NetEvent (CallEvent FileBoot RunEvent) Choice (Effect × Choice) := .client (.inner event)
  let part (event : TaskEvent) : RunEvent := .task ⟨1, by decide⟩ event
  let etag := some (EtagScheme.plain.etag [1, 2, 3])
  let events := [.client (.poll ⟨some metadata, false⟩), .serve 0 (.created (some "u")),
    .client (.created (.ok (some "u"))), inner .poll, inner .start,
    inner (part (.read (.content [1, 2, 3]))), .serve 1 (.etag etag),
    inner (part (.answered 0 (.ok etag))), inner (.checked (some metadata)),
    .client .cancelled, .serve 3 .done, .client (.aborted (.ok ()))]
  have executed : (((callProtocol builder (uploadFile .minimal builder) .plain).net.exec
      (Net.start .ready (fun _ => none)) events).map (fun final =>
        (failureOf final.2.client, (final.2.sent.filter Effect.isCompletion).length))) =
        some (some ⟨.cancelled, none, true⟩, 1) := by decide
  obtain ⟨⟨history, net⟩, reached, same⟩ := Option.map_eq_some_iff.mp executed
  rw [Prod.mk.injEq] at same
  exact ⟨builder, history, net, same.1, same.2,
    (completion_excludes_abort .minimal builder .plain (fun _ => none)).1 history net
      (Machine.reaches_of_exec reached)⟩

end R2kit
