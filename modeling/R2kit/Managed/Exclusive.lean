import R2kit.Managed.Abort
import R2kit.Managed.Snapshot
import R2kit.Misc.Team

/-!
# Calls that compete for one session

Any number of managed uploads, of files and of streams, on one account: some crashed and
resumed by others, some at the same time. R2 commits a session once, so what the calls
return can be told apart by who asked first.
-/

namespace R2kit

open Misc

/-- One managed upload, with what a stream will deliver and how many bytes it declares. -/
inductive UploadCall where
  | file (builder : ManagedMultipartBuilder)
  | stream (builder : ManagedMultipartBuilder) (content : List UInt8) (fileSize : Nat)

namespace UploadCall

/-- The builder that the call was made on. -/
def builder : UploadCall → ManagedMultipartBuilder
  | .file builder => builder
  | .stream builder _ _ => builder

/-- What a call is handed when it starts. -/
abbrev Boot : UploadCall → Type
  | .file _ => FileBoot
  | .stream _ _ _ => Bool

/-- The state of its upload. -/
abbrev Inner : UploadCall → Type
  | .file _ => RunState
  | .stream _ _ _ => StreamState

/-- What can happen to its upload. -/
abbrev InnerEvent : UploadCall → Type
  | .file _ => RunEvent
  | .stream _ _ _ => StreamEvent

/-- The entry point that the call goes through. -/
def entry (crates : Crates) : (call : UploadCall) → Entry call.Boot call.Inner call.InnerEvent
  | .file builder => uploadFile crates builder
  | .stream builder content fileSize => uploadStream crates builder content fileSize

theorem entry_disciplined (crates : Crates) (call : UploadCall) :
    (call.entry crates).Disciplined := by
  cases call with
  | file builder => exact uploadFile_disciplined
  | stream builder content fileSize => exact uploadStream_disciplined

end UploadCall

variable {ι : Type}

/-- The states of the calls of a team. -/
abbrev CallStates (calls : ι → UploadCall) (i : ι) : Type :=
  CallState (calls i).Boot (calls i).Inner

/-- The events of one call of a team. -/
abbrev CallEvents (calls : ι → UploadCall) (i : ι) : Type :=
  CallEvent (calls i).Boot (calls i).InnerEvent

/-- The calls on one account. -/
def callTeam (crates : Crates) (calls : ι → UploadCall) (scheme : EtagScheme) :
    Team ι (CallStates calls) (CallEvents calls) Effect Response Remote Choice where
  machine i := managedCall (calls i).builder ((calls i).entry crates)
  consumes i := callConsumes ((calls i).entry crates)
  serve := Remote.serve scheme

/-- An answer that says that the session at an address was completed. -/
def CompletedAt (address : Address) : Effect × Response → Prop
  | (.send ⟨target, .completeMultipartUpload _⟩, .completeMultipartUpload _) => target = address
  | _ => False

/-- Only a live session is completed. -/
theorem live_of_completed {scheme : EtagScheme} {remote after : Remote} {effect : Effect}
    {choice : Choice} {response : Response} {address : Address}
    (served : remote.serve scheme effect choice = some (after, response))
    (completed : CompletedAt address (effect, response)) :
    remote.status address = some .live := by
  cases Remote.serves_of_serve served with
  | unnamed => exact completed.elim
  | created fresh => exact completed.elim
  | acted found serves =>
      cases serves with
      | page live listed => exact completed.elim
      | stored live sized told => exact completed.elim
      | committed live matched =>
          obtain rfl : _ = address := completed
          rw [Remote.status, found, Option.map_some, live]
      | aborted uncommitted => exact completed.elim

/-- A completed session is committed from then on. -/
theorem committed_of_completed {scheme : EtagScheme} {remote : Remote} {address : Address}
    {answer : Effect × Response} (answered : Remote.Answered scheme remote answer)
    (completed : CompletedAt address answer) :
    ∃ object, remote.status address = some (.committed object) := by
  obtain ⟨effect, response⟩ := answer
  unfold CompletedAt at completed
  split at completed
  · rename_i target parts etag same
    cases same
    obtain ⟨object, committed, -⟩ := answered
    exact ⟨object, by rw [← completed, committed]⟩
  · exact completed.elim

section Team

variable [DecidableEq ι] {crates : Crates} {calls : ι → UploadCall} {scheme : EtagScheme}

/-- What the answers to a team say, and that no two members were told of one completion. -/
structure AnsweredOnce (scheme : EtagScheme) (answers : ι → List (Effect × Response))
    (remote : Remote) : Prop where
  holds : ∀ i, ∀ answer ∈ answers i, Remote.Answered scheme remote answer
  once : ∀ address i j, ∀ first ∈ answers i, ∀ second ∈ answers j,
    CompletedAt address first → CompletedAt address second → i = j

theorem answeredOnce_serve {answers : ι → List (Effect × Response)} {remote after : Remote}
    {i : ι} {effect : Effect} {choice : Choice} {response : Response}
    (before : AnsweredOnce scheme answers remote)
    (served : remote.serve scheme effect choice = some (after, response)) :
    AnsweredOnce scheme (Function.update answers i (answers i ++ [(effect, response)])) after := by
  -- a completion that is answered now finds the session live, so none was answered before
  have first : ∀ address j, ∀ answer ∈ answers j, CompletedAt address answer →
      ¬ CompletedAt address (effect, response) := by
    intro address j answer member earlier now
    obtain ⟨object, committed⟩ := committed_of_completed (before.holds j answer member) earlier
    rw [live_of_completed served now] at committed
    cases committed
  constructor
  · intro j answer member
    rcases mem_update_append.mp member with earlier | ⟨rfl, now⟩
    · exact (before.holds j answer earlier).leads (Remote.serve_leads served)
    · rw [List.mem_singleton] at now
      subst now
      exact Remote.serve_answered served
  · intro address j k answer member other member' completed completed'
    rcases mem_update_append.mp member with earlier | ⟨rfl, now⟩
    · rcases mem_update_append.mp member' with earlier' | ⟨rfl, now'⟩
      · exact before.once address j k answer earlier other earlier' completed completed'
      · rw [List.mem_singleton] at now'
        subst now'
        exact absurd completed' (first address j answer earlier completed)
    · rcases mem_update_append.mp member' with earlier' | ⟨rfl, now'⟩
      · rw [List.mem_singleton] at now
        subst now
        exact absurd completed (first address k other earlier' completed')
      · rfl

theorem answeredOnce_of_reaches {remote : Remote}
    {history : History (TeamEvent ι (CallEvents calls) Choice) Effect}
    {net : TeamNet ι (CallStates calls) Effect Response Remote}
    (run : (callTeam crates calls scheme).net.Reaches
      (TeamNet.start (fun _ => .ready) remote) history net) :
    AnsweredOnce scheme net.answers net.server := by
  refine Team.server_invariant (P := AnsweredOnce scheme) ?_ ?_ run
  · constructor
    · intro i
      exact List.forall_mem_nil _
    · intro address i j first member
      cases member
  · intro answers remote i effect choice after response before served
    exact answeredOnce_serve before served

/-- The session that a call of the team works on. -/
def WorksOn (crates : Crates) (calls : ι → UploadCall)
    (history : History (TeamEvent ι (CallEvents calls) Choice) Effect) (i : ι)
    (session : PresignedMultipart) : Prop :=
  onSession ((calls i).entry crates) (memberHistory i history).events = some session

theorem WorksOn.mono {history more : History (TeamEvent ι (CallEvents calls) Choice) Effect}
    {i : ι} {session : PresignedMultipart} (works : WorksOn crates calls history i session) :
    WorksOn crates calls (history ++ more) i session := by
  rw [WorksOn, memberHistory_append, History.events_append]
  exact onSession_append works _

/-- What a call has come to in a team is what it can come to alone. -/
theorem clientInvariant_of_team {remote : Remote}
    {history : History (TeamEvent ι (CallEvents calls) Choice) Effect}
    {net : TeamNet ι (CallStates calls) Effect Response Remote}
    (run : (callTeam crates calls scheme).net.Reaches
      (TeamNet.start (fun _ => .ready) remote) history net) (i : ι) :
    ClientInvariant ((calls i).entry crates) (memberHistory i history).events (net.sent i)
      (net.answers i) (net.clients i) := by
  obtain ⟨seen, reached, same⟩ := Team.reaches_member i run
  rw [← same]
  exact clientInvariant_of_reaches (UploadCall.entry_disciplined crates (calls i)) reached

/-- Of any number of calls on one session, whatever of their messages arrives when, at most
    one returns a result, the session is then committed for good, and no call has aborted
    it. -/
theorem one_call_commits (crates : Crates) (calls : ι → UploadCall) (scheme : EtagScheme)
    (remote : Remote) (history : History (TeamEvent ι (CallEvents calls) Choice) Effect)
    (net : TeamNet ι (CallStates calls) Effect Response Remote)
    (run : (callTeam crates calls scheme).net.Reaches
      (TeamNet.start (fun _ => .ready) remote) history net)
    (i : ι) (result : ManagedUploadResult) (returned : net.clients i = .returned (.ok result)) :
    ∃ session object, WorksOn crates calls history i session ∧
      net.server.status session.address = some (.committed object) ∧
      ∀ j other, WorksOn crates calls history j other → other.address = session.address →
        (∀ second, net.clients j = .returned (.ok second) → j = i) ∧
        ∀ failure, net.clients j = .returned (.error failure) → failure.aborted = false := by
  have answered := answeredOnce_of_reaches run
  have client := clientInvariant_of_team run i
  rw [returned] at client
  obtain ⟨⟨session, request, etag, known, ⟨parts, rfl⟩, member⟩, -, -⟩ := client
  obtain ⟨object, committed, -⟩ := answered.holds i _ member
  refine ⟨session, object, known, committed, ?_⟩
  intro j other works addressed
  have rival := clientInvariant_of_team run j
  constructor
  · intro second returned'
    rw [returned'] at rival
    obtain ⟨⟨session', request', etag', known', ⟨parts', rfl⟩, member'⟩, -, -⟩ := rival
    obtain rfl : other = session' := Option.some.inj (works.symm.trans known')
    exact answered.once session.address j i _ member' _ member addressed rfl
  · intro failure returned'
    rw [returned'] at rival
    by_contra gone
    obtain ⟨session', known', member'⟩ := rival.2 (by simpa using gone)
    obtain rfl : other = session' := Option.some.inj (works.symm.trans known')
    have aborted : net.server.status other.address = some .aborted := answered.holds j _ member'
    rw [addressed, show net.server.status session.address = _ from committed] at aborted
    cases aborted

end Team

/-- The result of a call that has one. -/
def resultOf {Boot S : Type} : CallState Boot S → Option ManagedUploadResult
  | .returned (.ok result) => some result
  | _ => none

theorem returned_of_resultOf {Boot S : Type} {state : CallState Boot S}
    {result : ManagedUploadResult} (is : resultOf state = some result) :
    state = .returned (.ok result) := by
  unfold resultOf at is
  split at is
  · cases is
    rfl
  · cases is

/-- A call that is gone after its part has been stored, and the one that resumes it. -/
def resumedCalls (resumes : Bool) : UploadCall := .file (bif resumes then .resumedTiny else .tiny)

/-- The first call is gone once its part is stored; the second one resumes it and completes. -/
def resumedEvents : List (TeamEvent Bool (CallEvents resumedCalls) Choice) :=
  let metadata : Metadata := ⟨true, 3, some 0, 0, 0⟩
  let etag := EtagScheme.plain.etag [1, 2, 3]
  let page : ListPartsOutput := ⟨[⟨some 1, some 3, some etag⟩], some false, none⟩
  let first (event : CallEvents resumedCalls false) :
      TeamEvent Bool (CallEvents resumedCalls) Choice := .client false event
  let second (event : CallEvents resumedCalls true) :
      TeamEvent Bool (CallEvents resumedCalls) Choice := .client true event
  [first (.poll ⟨some metadata, false⟩), .serve false 0 (.created (some "u")),
    first (.created (.ok (some "u"))), first (.inner .poll), first (.inner .start),
    first (.inner (.task ⟨1, by decide⟩ (.read (.content [1, 2, 3])))),
    .serve false 1 (.etag (some etag)), second (.poll ⟨some metadata, false⟩),
    second (.inner .poll), .serve true 0 (.page page), second (.inner (.listed (.ok page))),
    second (.inner (.checked (some metadata))), .serve true 1 (.etag none),
    second (.inner (.completed (.ok none)))]

theorem one_call_commits_resumed :
    ∃ (history : History (TeamEvent Bool (CallEvents resumedCalls) Choice) Effect)
      (net : TeamNet Bool (CallStates resumedCalls) Effect Response Remote)
      (session : PresignedMultipart) (object : CommittedObject),
      WorksOn .minimal resumedCalls history true session ∧
        net.server.status session.address = some (.committed object) ∧
        ∀ j other, WorksOn .minimal resumedCalls history j other →
          other.address = session.address →
          (∀ second, net.clients j = .returned (.ok second) → j = true) ∧
          ∀ failure, net.clients j = .returned (.error failure) → failure.aborted = false := by
  have executed : (((callTeam .minimal resumedCalls .plain).net.exec
      (TeamNet.start (fun _ => .ready) (fun _ => none)) resumedEvents).map
        (fun final => resultOf (final.2.clients true))) =
          some (some ⟨⟨none⟩, 3, 1, 0, 1⟩) := by decide
  obtain ⟨⟨history, net⟩, reached, is⟩ := Option.map_eq_some_iff.mp executed
  exact ⟨history, net, one_call_commits .minimal resumedCalls .plain (fun _ => none) history net
    (Machine.reaches_of_exec reached) true _ (returned_of_resultOf is)⟩

end R2kit
