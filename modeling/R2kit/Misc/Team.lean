import R2kit.Misc.Network
import Mathlib.Logic.Function.Basic

/-!
# Machines that share one server

Any number of machines, each of a kind of its own, send to the same server. Every message
stays deliverable for ever, and an answer goes to the machine whose message it is about. What
one member sees is a closed system of its own in which the messages of the others are
actions from outside (`Team.reaches_member`), so that what holds of one machine against
any environment holds of every member.
-/

namespace R2kit.Misc

/-- The machines, the answers their events hand in, and the server they share. -/
structure Team (ι : Type) (State Event : ι → Type) (Msg Ans Srv Choice : Type) where
  machine : ∀ i, Machine (State i) (Event i) Msg
  consumes : ∀ i, State i → Event i → Option (Msg × Ans)
  serve : Srv → Msg → Choice → Option (Srv × Ans)

/-- Machines that share one server, each with its own messages and answers. -/
structure TeamNet (ι : Type) (State : ι → Type) (Msg Ans Srv : Type) where
  clients : ∀ i, State i
  sent : ι → List Msg
  answers : ι → List (Msg × Ans)
  server : Srv

/-- A member moves, or the server takes one of its messages. -/
inductive TeamEvent (ι : Type) (Event : ι → Type) (Choice : Type) where
  | client (member : ι) (event : Event member)
  | serve (member : ι) (index : Nat) (choice : Choice)

section Views

variable {ι : Type} {State Event : ι → Type} {Msg Ans Srv Choice : Type}

/-- A team in which nothing has been sent yet. -/
def TeamNet.start (clients : ∀ i, State i) (server : Srv) : TeamNet ι State Msg Ans Srv where
  clients := clients
  sent _ := []
  answers _ := []
  server := server

/-- What one member sees of the team. -/
def TeamNet.view (net : TeamNet ι State Msg Ans Srv) (i : ι) : Net (State i) Msg Ans Srv where
  client := net.clients i
  sent := net.sent i
  answers := net.answers i
  server := net.server

variable [DecidableEq ι]

/-- What a step of the team is for a member. -/
def memberEntry (i : ι) : TeamEvent ι Event Choice × List Msg → Option (Event i × List Msg)
  | (.client j event, out) => if h : j = i then some (h ▸ event, out) else none
  | (.serve _ _ _, _) => none

/-- The part that a member has in a history. -/
def memberHistory (i : ι) (history : History (TeamEvent ι Event Choice) Msg) :
    History (Event i) Msg :=
  history.filterMap (memberEntry i)

@[simp] theorem memberHistory_append (i : ι)
    (first second : History (TeamEvent ι Event Choice) Msg) :
    memberHistory i (first ++ second) = memberHistory i first ++ memberHistory i second :=
  List.filterMap_append

@[simp] theorem memberHistory_self (i : ι) (event : Event i) (out : List Msg) :
    memberHistory i [((.client i event : TeamEvent ι Event Choice), out)] = [(event, out)] := by
  simp [memberHistory, memberEntry]

theorem memberHistory_other {i j : ι} (different : j ≠ i) (event : Event j) (out : List Msg) :
    memberHistory i [((.client j event : TeamEvent ι Event Choice), out)] = [] := by
  simp [memberHistory, memberEntry, different]

@[simp] theorem memberHistory_serve (i j : ι) (index : Nat) (choice : Choice) (out : List Msg) :
    memberHistory i [((.serve j index choice : TeamEvent ι Event Choice), out)] = [] := rfl

/-- The event of a member, if it is one. -/
def memberEvent (i : ι) : TeamEvent ι Event Choice → Option (Event i)
  | .client j event => if h : j = i then some (h ▸ event) else none
  | .serve _ _ _ => none

theorem events_memberHistory (i : ι) (history : History (TeamEvent ι Event Choice) Msg) :
    (memberHistory i history).events = history.events.filterMap (memberEvent i) := by
  induction history with
  | nil => rfl
  | cons entry rest ih =>
      obtain ⟨event, out⟩ := entry
      cases event with
      | client j event =>
          by_cases same : j = i
          · subst same
            simpa [memberHistory, memberEntry, memberEvent, History.events] using ih
          · simpa [memberHistory, memberEntry, memberEvent, History.events, same] using ih
      | serve j index choice => exact ih

/-- What is in the lists of a team after one member's has grown. -/
theorem mem_update_append {α : Type} {lists : ι → List α} {i k : ι} {a : α} {more : List α} :
    a ∈ Function.update lists k (lists k ++ more) i ↔ a ∈ lists i ∨ i = k ∧ a ∈ more := by
  by_cases same : i = k
  · subst same
    simp
  · simp [same]

end Views

namespace Team

variable {ι : Type} {State Event : ι → Type} {Msg Ans Srv Choice : Type}

/-- A member among the others, whose messages reach the server from outside. -/
def member (t : Team ι State Event Msg Ans Srv Choice) (i : ι) :
    Protocol (State i) (Event i) Msg Ans Srv Choice (Msg × Choice) where
  machine := t.machine i
  consumes := t.consumes i
  serve := t.serve
  outside server action := (t.serve server action.1 action.2).map Prod.fst

variable [DecidableEq ι] [DecidableEq Msg] [DecidableEq Ans]

/-- The team as a machine that emits the messages of its members. -/
def net (t : Team ι State Event Msg Ans Srv Choice) :
    Machine (TeamNet ι State Msg Ans Srv) (TeamEvent ι Event Choice) Msg where
  step net
    | .client i event =>
        if (t.member i).answered (net.view i) event then
          match (t.machine i).step (net.clients i) event with
          | none => none
          | some (client, out) =>
              some ({ net with
                clients := Function.update net.clients i client
                sent := Function.update net.sent i (net.sent i ++ out) }, out)
        else none
    | .serve i index choice =>
        match (net.sent i)[index]? with
        | none => none
        | some msg =>
            match t.serve net.server msg choice with
            | none => none
            | some (server, ans) =>
                some ({ net with
                  answers := Function.update net.answers i (net.answers i ++ [(msg, ans)])
                  server }, [])

variable {t : Team ι State Event Msg Ans Srv Choice}
  {before after start : TeamNet ι State Msg Ans Srv} {out : List Msg}

/-- Everything one step of the team can be. -/
theorem net_step_cases {event : TeamEvent ι Event Choice}
    (taken : t.net.step before event = some (after, out)) :
    (∃ i e client, event = .client i e ∧
      (∀ answer, t.consumes i (before.clients i) e = some answer → answer ∈ before.answers i) ∧
      (t.machine i).step (before.clients i) e = some (client, out) ∧
      after = { before with
        clients := Function.update before.clients i client
        sent := Function.update before.sent i (before.sent i ++ out) }) ∨
    (∃ i index choice msg server ans, event = .serve i index choice ∧ msg ∈ before.sent i ∧
      t.serve before.server msg choice = some (server, ans) ∧ out = [] ∧
      after = { before with
        answers := Function.update before.answers i (before.answers i ++ [(msg, ans)])
        server }) := by
  cases event with
  | client i e =>
      simp only [net] at taken
      split at taken
      · rename_i allowed
        split at taken
        · cases taken
        · rename_i client emitted stepped
          simp only [Option.some.injEq, Prod.mk.injEq] at taken
          obtain ⟨rfl, rfl⟩ := taken
          refine Or.inl ⟨i, e, client, rfl, ?_, stepped, rfl⟩
          intro answer hands
          exact Protocol.mem_answers_of_answered allowed hands
      · cases taken
  | serve i index choice =>
      simp only [net] at taken
      split at taken
      · cases taken
      · rename_i msg found
        split at taken
        · cases taken
        · rename_i server ans served
          simp only [Option.some.injEq, Prod.mk.injEq] at taken
          obtain ⟨rfl, rfl⟩ := taken
          exact Or.inr ⟨i, index, choice, msg, server, ans, rfl,
            List.mem_of_getElem? found, served, rfl, rfl⟩

/-- An event of a member happens if the answer that it hands in was made. -/
theorem client_step {i : ι} {event : Event i} {client : State i}
    (answered : ∀ answer, t.consumes i (before.clients i) event = some answer →
      answer ∈ before.answers i)
    (stepped : (t.machine i).step (before.clients i) event = some (client, out)) :
    t.net.step before (.client i event) = some ({ before with
      clients := Function.update before.clients i client
      sent := Function.update before.sent i (before.sent i ++ out) }, out) := by
  have allowed : (t.member i).answered (before.view i) event = true := by
    unfold Protocol.answered
    split
    · rfl
    · rename_i answer hands
      exact decide_eq_true (answered answer hands)
  simp only [net, if_pos allowed, stepped]

theorem serve_step {i : ι} {index : Nat} {choice : Choice} {msg : Msg} {server : Srv} {ans : Ans}
    (sent : (before.sent i)[index]? = some msg)
    (served : t.serve before.server msg choice = some (server, ans)) :
    t.net.step before (.serve i index choice) = some ({ before with
      answers := Function.update before.answers i (before.answers i ++ [(msg, ans)])
      server }, []) := by
  simp only [net, sent, served]

/-- Only what a member has sent is answered to it. -/
theorem answers_sent {clients : ∀ i, State i} {server : Srv}
    {history : History (TeamEvent ι Event Choice) Msg}
    (run : t.net.Reaches (TeamNet.start clients server) history after) :
    ∀ i, ∀ answer ∈ after.answers i, answer.1 ∈ after.sent i := by
  refine run.state_invariant (P := fun net => ∀ i, ∀ answer ∈ net.answers i,
    answer.1 ∈ net.sent i) (fun _ => List.forall_mem_nil _) ?_
  intro s event s' out holds taken
  rcases net_step_cases taken with ⟨_, _, _, -, -, -, rfl⟩ |
    ⟨_, _, _, _, _, _, -, sent, -, -, rfl⟩
  · intro i answer member
    exact mem_update_append.mpr (Or.inl (holds i answer member))
  · intro i answer member
    rcases mem_update_append.mp member with earlier | ⟨rfl, now⟩
    · exact holds i answer earlier
    · rw [List.mem_singleton.mp now]
      exact sent

/-- One step of the team is at most one step of what a member sees. -/
theorem step_member (i : ι) {event : TeamEvent ι Event Choice}
    (taken : t.net.step before event = some (after, out)) :
    (after.view i = before.view i ∧ memberHistory i [(event, out)] = []) ∨
    ∃ e, (t.member i).net.step (before.view i) e = some (after.view i, out) ∧
      memberHistory i [(event, out)] = clientHistory [(e, out)] := by
  cases event with
  | client j e =>
      simp only [net] at taken
      split at taken
      · rename_i allowed
        split at taken
        · cases taken
        · rename_i client emitted stepped
          cases taken
          by_cases same : j = i
          · subst same
            refine Or.inr ⟨.client e, ?_, memberHistory_self j e _⟩
            have moved : (t.member j).machine.step (before.view j).client e =
                some (client, out) := stepped
            simp only [Protocol.net, if_pos allowed, moved]
            simp only [TeamNet.view, Function.update_self]
          · refine Or.inl ⟨?_, memberHistory_other same e _⟩
            have other : i ≠ j := fun equal => same equal.symm
            simp only [TeamNet.view, Function.update_of_ne other]
      · cases taken
  | serve j index choice =>
      simp only [net] at taken
      split at taken
      · cases taken
      · rename_i msg found
        split at taken
        · cases taken
        · rename_i server ans served
          cases taken
          by_cases same : j = i
          · subst same
            refine Or.inr ⟨.serve index choice, ?_, rfl⟩
            have at_index : (before.view j).sent[index]? = some msg := found
            have answered : (t.member j).serve (before.view j).server msg choice =
                some (server, ans) := served
            simp only [Protocol.net, at_index, answered]
            simp only [TeamNet.view, Function.update_self]
          · refine Or.inr ⟨.outside (msg, choice), ?_, rfl⟩
            have other : i ≠ j := fun equal => same equal.symm
            have acted : (t.member i).outside (before.view i).server (msg, choice) =
                some server := by
              simp only [member, TeamNet.view, served, Option.map_some]
            simp only [Protocol.net, acted]
            simp only [TeamNet.view, Function.update_of_ne other]

/-- A run of the team is a run of the closed system that a member sees. -/
theorem reaches_member (i : ι) {history : History (TeamEvent ι Event Choice) Msg}
    (run : t.net.Reaches start history after) :
    ∃ seen, (t.member i).net.Reaches (start.view i) seen (after.view i) ∧
      clientHistory seen = memberHistory i history := by
  induction run with
  | refl => exact ⟨[], .refl, rfl⟩
  | snoc _ taken ih =>
      obtain ⟨seen, reached, same⟩ := ih
      rw [memberHistory_append]
      rcases step_member i taken with ⟨unchanged, nothing⟩ | ⟨e, stepped, entry⟩
      · refine ⟨seen, ?_, by rw [nothing, List.append_nil, same]⟩
        rw [unchanged]
        exact reached
      · exact ⟨seen ++ [(e, _)], reached.snoc stepped, by
          rw [clientHistory_append, same, entry]⟩

/-- The induction rule for what the messages, the answers and the server keep, given what
    each message satisfies when it is sent. -/
theorem server_invariant {P : (ι → List (Msg × Ans)) → Srv → Prop}
    (initial : P start.answers start.server)
    (serves : ∀ answers server i msg choice server' ans, P answers server →
      t.serve server msg choice = some (server', ans) →
      P (Function.update answers i (answers i ++ [(msg, ans)])) server')
    {history : History (TeamEvent ι Event Choice) Msg}
    (run : t.net.Reaches start history after) : P after.answers after.server := by
  refine run.state_invariant (P := fun net => P net.answers net.server) initial ?_
  intro s event s' out holds taken
  rcases net_step_cases taken with ⟨_, _, _, -, -, -, rfl⟩ |
    ⟨_, _, _, _, _, _, -, -, served, -, rfl⟩
  · exact holds
  · exact serves _ _ _ _ _ _ _ holds served

end Team

end R2kit.Misc
