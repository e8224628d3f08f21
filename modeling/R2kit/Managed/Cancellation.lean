import R2kit.Managed.Exclusive
import R2kit.Misc.Watch

/-!
# Calls that share a cancellation token

`ManagedUploadCancellation` of `src/managed.rs`: a watch channel that its clones share. Any
number of uploads may hold a clone, and any clone may be cancelled at any moment, between any
two steps of the others.
-/

namespace R2kit

open Misc

/-- The channel that the clones of a token share. -/
abbrev ManagedUploadCancellation := Watch Bool

namespace ManagedUploadCancellation

/-- A token that nobody has cancelled. -/
def new : ManagedUploadCancellation := ⟨false, 0⟩

/-- `cancel` sends `true`, also when it was sent before. -/
def cancel (token : ManagedUploadCancellation) : ManagedUploadCancellation :=
  token.sendReplace true

/-- `is_cancelled`. -/
def isCancelled (token : ManagedUploadCancellation) : Bool := token.value

/-- `cancelled`, which subscribes first and then looks and waits by turns. The token that it is
    called on is a sender, so that waiting never ends for want of one. -/
def cancelled (token : ManagedUploadCancellation) (waiter : Waiter) : Option Waiter :=
  waiter.step id token

end ManagedUploadCancellation

section Calls

variable {ι : Type}

/-- What the token says when a call starts. -/
def UploadCall.tokenSays : (call : UploadCall) → call.Boot → Bool
  | .file _, boot => boot.cancelled
  | .stream _ _ _, cancelled => cancelled

/-- The token, and each call with what it awaits beside its future. -/
structure TokenNet (calls : ι → UploadCall) where
  token : ManagedUploadCancellation
  states : ∀ i, CallStates calls i
  waiters : ι → Waiter

/-- All calls are about to start, and the token is new. -/
def TokenNet.start (calls : ι → UploadCall) : TokenNet calls where
  token := .new
  states _ := .ready
  waiters _ := .starting

/-- Someone cancels, the wait of a call goes on, or the call itself does. -/
inductive TokenEvent (calls : ι → UploadCall) where
  | cancel
  | wait (member : ι)
  | call (member : ι) (event : CallEvents calls member)

/-- Whether an event of a call may happen: it finds in the token what is there, and `select`
    drops the future when the wait has returned. -/
def UploadCall.Allowed (call : UploadCall) (token : ManagedUploadCancellation)
    (waiter : Waiter) : CallEvent call.Boot call.InnerEvent → Prop
  | .poll boot => call.tokenSays boot = token.isCancelled
  | .inner _ => waiter ≠ .returned
  | .cancelled => waiter = .returned
  | _ => True

instance (call : UploadCall) (token : ManagedUploadCancellation) (waiter : Waiter)
    (event : CallEvent call.Boot call.InnerEvent) :
    Decidable (call.Allowed token waiter event) := by
  unfold UploadCall.Allowed
  split <;> infer_instance

variable [DecidableEq ι]

/-- The calls with one token. A call waits on it while its future is running. -/
def tokenTeam (crates : Crates) (calls : ι → UploadCall) :
    Machine (TokenNet calls) (TokenEvent calls) Effect where
  step net
    | .cancel => some ({ net with token := net.token.cancel }, [])
    | .wait i =>
        match net.states i with
        | .running _ _ _ =>
            if (calls i).builder.cancellation then
              match net.token.cancelled (net.waiters i) with
              | none => none
              | some waiter =>
                  some ({ net with waiters := Function.update net.waiters i waiter }, [])
            else none
        | _ => none
    | .call i event =>
        if (calls i).Allowed net.token (net.waiters i) event then
          match (managedCall (calls i).builder ((calls i).entry crates)).step (net.states i)
            event with
          | none => none
          | some (state, out) =>
              some ({ net with states := Function.update net.states i state }, out)
        else none

variable {crates : Crates} {calls : ι → UploadCall} {net net' : TokenNet calls}
  {event : TokenEvent calls} {out : List Effect}

/-- Everything one step of the calls and their token can be. -/
theorem tokenTeam_cases (taken : (tokenTeam crates calls).step net event = some (net', out)) :
    (event = .cancel ∧ net' = { net with token := net.token.cancel } ∧ out = []) ∨
    (∃ i boot session inner waiter, event = .wait i ∧
      net.states i = .running boot session inner ∧ (calls i).builder.cancellation = true ∧
      (net.waiters i).step id net.token = some waiter ∧
      net' = { net with waiters := Function.update net.waiters i waiter } ∧ out = []) ∨
    (∃ i e state, event = .call i e ∧ (calls i).Allowed net.token (net.waiters i) e ∧
      (managedCall (calls i).builder ((calls i).entry crates)).step (net.states i) e =
        some (state, out) ∧
      net' = { net with states := Function.update net.states i state }) := by
  cases event with
  | cancel =>
      cases taken
      exact Or.inl ⟨rfl, rfl, rfl⟩
  | wait i =>
      simp only [tokenTeam] at taken
      split at taken
      · rename_i boot session inner running
        split at taken
        · rename_i holds
          split at taken
          · cases taken
          · rename_i waiter moved
            cases taken
            exact Or.inr (Or.inl ⟨i, boot, session, inner, waiter, rfl, running, holds, moved,
              rfl, rfl⟩)
        · cases taken
      · cases taken
  | call i e =>
      simp only [tokenTeam] at taken
      split at taken
      · rename_i allowed
        split at taken
        · cases taken
        · rename_i state sent moved
          cases taken
          exact Or.inr (Or.inr ⟨i, e, state, rfl, allowed, moved, rfl⟩)
      · cases taken

/-- What the token, the waits and the history have to do with each other. -/
structure TokenNet.Kept (history : History (TokenEvent calls) Effect)
    (net : TokenNet calls) : Prop where
  said : net.token.isCancelled = true ↔ .cancel ∈ history.events
  sound : ∀ i, (net.waiters i).Sound id net.token
  returned : ∀ i, net.waiters i = .returned → net.token.isCancelled = true
  dropped : ∀ i, .call i .cancelled ∈ history.events → .cancel ∈ history.events

theorem TokenNet.kept {history : History (TokenEvent calls) Effect}
    (run : (tokenTeam crates calls).Reaches (.start calls) history net) : net.Kept history := by
  refine run.invariant (P := fun history net => net.Kept history) ?_ ?_
  · exact {
      said := ⟨Bool.noConfusion, fun sent => absurd sent List.not_mem_nil⟩
      sound := fun _ => trivial
      returned := fun _ done => by cases done
      dropped := fun _ sent => absurd sent List.not_mem_nil }
  · intro history net event net' out _ kept taken
    rcases tokenTeam_cases taken with ⟨rfl, rfl, rfl⟩ |
      ⟨i, _, _, _, waiter, rfl, -, -, moved, rfl, rfl⟩ | ⟨i, e, state, rfl, allowed, -, rfl⟩
    · have sent : .cancel ∈ History.events (history ++ [((.cancel : TokenEvent calls),
          ([] : List Effect))]) := History.mem_events_snoc.mpr (Or.inr rfl)
      exact {
        said := ⟨fun _ => sent, fun _ => rfl⟩
        sound := fun j => (kept.sound j).sendReplace true
        returned := fun _ _ => rfl
        dropped := fun _ _ => sent }
    · constructor
      · rw [kept.said, History.mem_events_snoc]
        simp only [reduceCtorEq, or_false]
      · intro j
        by_cases same : j = i
        · subst same
          simp only [Function.update_self]
          exact Waiter.Sound.step moved
        · simp only [Function.update_of_ne same]
          exact kept.sound j
      · intro j done
        by_cases same : j = i
        · subst same
          simp only [Function.update_self] at done
          rw [done] at moved
          exact Waiter.returned_step moved
        · simp only [Function.update_of_ne same] at done
          exact kept.returned j done
      · intro j dropped
        rcases History.mem_events_snoc.mp dropped with earlier | now
        · exact History.mem_events_snoc.mpr (Or.inl (kept.dropped j earlier))
        · cases now
    · refine ⟨?_, kept.sound, kept.returned, ?_⟩
      · rw [kept.said, History.mem_events_snoc]
        simp only [reduceCtorEq, or_false]
      · intro j dropped
        refine History.mem_events_snoc.mpr (Or.inl ?_)
        rcases History.mem_events_snoc.mp dropped with earlier | now
        · exact kept.dropped j earlier
        · cases now
          exact kept.said.mp (kept.returned i allowed)

/-- A token that says so goes on saying so. -/
theorem TokenNet.stays_cancelled {history : History (TokenEvent calls) Effect}
    (run : (tokenTeam crates calls).Reaches net history net')
    (cancelled : net.token.isCancelled = true) : net'.token.isCancelled = true := by
  refine run.state_invariant (P := fun net => net.token.isCancelled = true) cancelled ?_
  intro s e s' out holds taken
  rcases tokenTeam_cases taken with ⟨-, rfl, -⟩ | ⟨_, _, _, _, _, -, -, -, -, rfl, -⟩ |
    ⟨_, _, _, -, -, -, rfl⟩
  · rfl
  · exact holds
  · exact holds

/-- A call that finds the token cancelled fails before it has a session. -/
theorem UploadCall.start_cancelled {call : UploadCall} (holds : call.builder.cancellation = true)
    {boot : call.Boot} (says_so : call.tokenSays boot = true) :
    ∃ error, (call.entry crates).start boot = .failed error := by
  cases call with
  | file builder =>
      have there : builder.cancellation = true := holds
      have found : boot.cancelled = true := says_so
      show ∃ error, builder.beginFile crates boot.metadata boot.cancelled = .failed error
      unfold ManagedMultipartBuilder.beginFile
      split
      · exact ⟨_, rfl⟩
      · split
        · exact ⟨_, rfl⟩
        · split
          · exact ⟨_, rfl⟩
          · exact ⟨_, if_pos ⟨there, found⟩⟩
  | stream builder content fileSize =>
      have there : builder.cancellation = true := holds
      have found : boot = true := says_so
      show ∃ error, builder.beginStream crates fileSize boot = .failed error
      unfold ManagedMultipartBuilder.beginStream
      split
      · exact ⟨_, rfl⟩
      · exact ⟨_, if_pos ⟨there, found⟩⟩

/-- Whether an event is a look at the token, or a wake, of this call. -/
def TokenEvent.isWait (i : ι) : TokenEvent calls → Bool
  | .wait j => decide (j = i)
  | _ => false

/-- Once the token is cancelled, every look and wake of a call brings its wait nearer to the
    end, and nothing sets it back. -/
theorem TokenNet.distance_run {history : History (TokenEvent calls) Effect}
    (run : (tokenTeam crates calls).Reaches net history net')
    (cancelled : net.token.isCancelled = true) (i : ι) :
    (net'.waiters i).distance + history.events.countP (TokenEvent.isWait i) =
      (net.waiters i).distance := by
  induction run with
  | refl => rfl
  | snoc before taken ih =>
      have still := TokenNet.stays_cancelled before cancelled
      rw [History.events_append, History.events_singleton, List.countP_append]
      rcases tokenTeam_cases taken with ⟨rfl, rfl, -⟩ |
        ⟨j, _, _, _, waiter, rfl, -, -, moved, rfl, -⟩ | ⟨_, _, _, rfl, -, -, rfl⟩
      · exact ih
      · have will_do : id _ = true := still
        have nearer := Waiter.distance_step will_do moved
        by_cases same : j = i
        · subst same
          have counted : List.countP (TokenEvent.isWait j) [(.wait j : TokenEvent calls)] = 1 :=
            List.countP_cons_of_pos (decide_eq_true rfl)
          simp only [Function.update_self, counted]
          omega
        · have other : i ≠ j := fun equal => same equal.symm
          have uncounted : List.countP (TokenEvent.isWait i) [(.wait j : TokenEvent calls)] = 0 :=
            List.countP_cons_of_neg (by simpa [TokenEvent.isWait] using same)
          simp only [Function.update_of_ne other, uncounted]
          exact ih
      · exact ih

/-- A call that has sent nothing. -/
def SilentIn (history : History (TokenEvent calls) Effect) (i : ι) : Prop :=
  ∀ event sent, (.call i event, sent) ∈ history → sent = []

omit [DecidableEq ι] in
theorem SilentIn.snoc {history : History (TokenEvent calls) Effect} {i : ι}
    (silent : SilentIn history i) (now : ∀ e, event = .call i e → out = []) :
    SilentIn (history ++ [(event, out)]) i := by
  intro e sent member
  rcases List.mem_append.mp member with earlier | last
  · exact silent e sent earlier
  · obtain ⟨rfl, rfl⟩ := Prod.mk.inj (List.mem_singleton.mp last)
    exact now e rfl

/-- A call that holds the token and has not started when it is cancelled comes to nothing. -/
theorem TokenNet.ready_run {history : History (TokenEvent calls) Effect}
    (run : (tokenTeam crates calls).Reaches net history net')
    (cancelled : net.token.isCancelled = true) {i : ι}
    (holds : (calls i).builder.cancellation = true) (ready : net.states i = .ready) :
    (net'.states i = .ready ∨ ∃ error,
      net'.states i = .returned (.error (.beforeStart error))) ∧ SilentIn history i := by
  induction run with
  | refl => exact ⟨Or.inl ready, fun _ _ none => absurd none List.not_mem_nil⟩
  | snoc before taken ih =>
      obtain ⟨state, silent⟩ := ih
      have still := TokenNet.stays_cancelled before cancelled
      rcases tokenTeam_cases taken with ⟨rfl, rfl, rfl⟩ |
        ⟨_, _, _, _, _, rfl, -, -, -, rfl, rfl⟩ | ⟨j, e, next, rfl, allowed, moved, rfl⟩
      · exact ⟨state, silent.snoc (fun _ _ => rfl)⟩
      · exact ⟨state, silent.snoc (fun _ _ => rfl)⟩
      · by_cases same : j = i
        · subst same
          rcases state with at_ready | ⟨error, at_end⟩
          · rw [at_ready] at moved
            cases callStep_of_step moved with
            | failed failed =>
                rename_i error
                simp only [Function.update_self]
                exact ⟨Or.inr ⟨error, rfl⟩, silent.snoc (fun _ _ => rfl)⟩
            | create new =>
                obtain ⟨error, failed⟩ := UploadCall.start_cancelled holds (allowed.trans still)
                rw [failed] at new
                cases new
            | resume resumed =>
                obtain ⟨error, failed⟩ := UploadCall.start_cancelled holds (allowed.trans still)
                rw [failed] at resumed
                cases resumed
          · rw [at_end] at moved
            cases callStep_of_step moved
        · have other : i ≠ j := fun equal => same equal.symm
          simp only [Function.update_of_ne other]
          refine ⟨state, silent.snoc (fun e' theirs => ?_)⟩
          cases theirs
          exact absurd rfl same

/-- A cancellation reaches whoever holds the token, and reaches no one unasked. The token is
    cancelled exactly when someone cancelled it, and a call is dropped for it only then. Once
    it is, a call that has not started will send nothing and have no session; the wait of a
    running call is not stuck; and when that wait has gone on twice, the only thing left for
    the call to do is to be dropped. -/
theorem cancellation_heard {first second : History (TokenEvent calls) Effect}
    (before : (tokenTeam crates calls).Reaches (.start calls) first net)
    (after : (tokenTeam crates calls).Reaches net second net') (i : ι) :
    (net.token.isCancelled = true ↔ .cancel ∈ first.events) ∧
    (.call i .cancelled ∈ first.events → .cancel ∈ first.events) ∧
    (.cancel ∈ first.events → (calls i).builder.cancellation = true →
      (net.states i = .ready → SilentIn second i ∧ (net'.states i = .ready ∨
        ∃ error, net'.states i = .returned (.error (.beforeStart error)))) ∧
      ∀ boot session inner, net'.states i = .running boot session inner →
        (net'.waiters i = .returned ∨
          ((tokenTeam crates calls).step net' (.wait i)).isSome = true) ∧
        (2 ≤ second.events.countP (TokenEvent.isWait i) →
          ∀ event, ((tokenTeam crates calls).step net' (.call i event)).isSome = true ↔
            event = .cancelled)) := by
  have kept := TokenNet.kept before
  have kept' := TokenNet.kept (before.trans after)
  refine ⟨kept.said, kept.dropped i, fun sent holds => ?_⟩
  have cancelled := kept.said.mpr sent
  have still := TokenNet.stays_cancelled after cancelled
  refine ⟨fun ready => (TokenNet.ready_run after cancelled holds ready).symm, ?_⟩
  intro boot session inner running
  refine ⟨?_, fun twice => ?_⟩
  · rcases (kept'.sound i).goes_on still with done | ⟨waiter, moved⟩
    · exact Or.inl done
    · refine Or.inr ?_
      have goes : net'.token.cancelled (net'.waiters i) = some waiter := moved
      simp only [tokenTeam, running, holds, goes, if_true, Option.isSome_some]
  · have far : (net.waiters i).distance ≤ 2 := by
      cases net.waiters i <;> simp [Waiter.distance]
    have counted := TokenNet.distance_run after cancelled i
    have returned : net'.waiters i = .returned :=
      Waiter.eq_returned_of_distance (by omega)
    intro event
    constructor
    · intro taken
      obtain ⟨⟨later, out⟩, taken⟩ := Option.isSome_iff_exists.mp taken
      rcases tokenTeam_cases taken with ⟨none, -⟩ | ⟨_, _, _, _, _, none, -⟩ |
        ⟨j, e, state, same, allowed, moved, -⟩
      · cases none
      · cases none
      · cases same
        rw [running] at moved
        cases callStep_of_step moved with
        | inner _ _ => exact absurd returned allowed
        | settled _ _ _ => exact absurd returned allowed
        | cancelled _ _ => rfl
    · rintro rfl
      have dropped : (managedCall (calls i).builder ((calls i).entry crates)).step
          (net'.states i) .cancelled =
            some (afterStartError (calls i).builder session .cancelled) := by
        rw [running]
        exact if_pos holds
      have allowed : (calls i).Allowed net'.token (net'.waiters i) .cancelled := returned
      simp only [tokenTeam, if_pos allowed, dropped, Option.isSome_some]

end Calls

/-- Two uploads with clones of one token. -/
def sharedCalls : Bool → UploadCall := fun _ =>
  .file { ManagedMultipartBuilder.tiny with cancellation := true }

/-- The call has not started yet. -/
def CallState.isReady {Boot S : Type} : CallState Boot S → Bool
  | .ready => true
  | _ => false

theorem ready_of_isReady {Boot S : Type} {state : CallState Boot S}
    (is : state.isReady = true) : state = .ready := by
  cases state with
  | ready => rfl
  | creating boot request plan => cases is
  | running boot session inner => cases is
  | aborting session error => cases is
  | returned result => cases is
  | panicked site => cases is

/-- One of the two is waiting when the token is cancelled, the other starts too late. -/
theorem cancellation_heard_two :
    ∃ (first second : History (TokenEvent sharedCalls) Effect)
      (net net' : TokenNet sharedCalls),
      (tokenTeam .minimal sharedCalls).Reaches (.start sharedCalls) first net ∧
        (tokenTeam .minimal sharedCalls).Reaches net second net' ∧
        net.token.isCancelled = true ∧ SilentIn second false ∧
        ((tokenTeam .minimal sharedCalls).step net' (.call true .cancelled)).isSome = true := by
  let metadata : Metadata := ⟨true, 3, some 0, 0, 0⟩
  let firstEvents : List (TokenEvent sharedCalls) := [
    .call true (.poll ⟨some metadata, false⟩), .call true (.created (.ok (some "u"))),
    .wait true, .wait true, .cancel]
  let secondEvents : List (TokenEvent sharedCalls) := [
    .wait true, .call false (.poll ⟨some metadata, true⟩), .wait true]
  have executed : ((tokenTeam .minimal sharedCalls).exec (.start sharedCalls) firstEvents).bind
      (fun first => ((tokenTeam .minimal sharedCalls).exec first.2 secondEvents).map
        (fun second => ((first.2.states false).isReady, (second.2.states true).run?.isSome))) =
          some (true, true) := by decide
  obtain ⟨⟨first, net⟩, began, rest⟩ := Option.bind_eq_some_iff.mp executed
  obtain ⟨⟨second, net'⟩, went, is⟩ := Option.map_eq_some_iff.mp rest
  have before := Machine.reaches_of_exec began
  have after := Machine.reaches_of_exec went
  obtain ⟨ready_then, running_now⟩ := Prod.mk.inj is
  have sent : .cancel ∈ first.events := by
    rw [Machine.events_of_exec began]
    exact .tail _ (.tail _ (.tail _ (.tail _ (.head _))))
  have waits : 2 ≤ second.events.countP (TokenEvent.isWait true) := by
    rw [Machine.events_of_exec went]
    decide
  obtain ⟨said, -, heard⟩ := cancellation_heard before after false
  obtain ⟨late, -⟩ := heard sent rfl
  obtain ⟨-, -, heard⟩ := cancellation_heard before after true
  obtain ⟨-, going⟩ := heard sent rfl
  obtain ⟨⟨boot, session, inner⟩, held⟩ := Option.isSome_iff_exists.mp running_now
  obtain ⟨-, drops⟩ := going boot session inner (running_of_run? held)
  exact ⟨first, second, net, net', before, after, said.mpr sent,
    (late (ready_of_isReady ready_then)).1, (drops waits .cancelled).mpr rfl⟩

end R2kit
