import R2kit.Misc.Machine

/-!
# A machine and a server with messages that may arrive late

The messages a machine emits stay deliverable for ever: the server may process each of
them at any later moment, in any order and any number of times, also after the machine has
given up on the answer. What the server answers is kept beside the message, and an event
that hands an answer to the machine must name one of those. The environment may change the
server on its own (`outside`).
-/

namespace R2kit.Misc

/-- A machine, the answer each of its events hands in (to the message that is pending in its
    state), and a server for its messages. -/
structure Protocol (State Event Msg Ans Srv Choice Outside : Type) where
  machine : Machine State Event Msg
  consumes : State → Event → Option (Msg × Ans)
  serve : Srv → Msg → Choice → Option (Srv × Ans)
  outside : Srv → Outside → Option Srv

/-- The client's state, what it has sent, what was answered, and the server's state. -/
structure Net (State Msg Ans Srv : Type) where
  client : State
  sent : List Msg
  answers : List (Msg × Ans)
  server : Srv

/-- A closed system in which nothing has been sent yet. -/
def Net.start {State Msg Ans Srv : Type} (client : State) (server : Srv) :
    Net State Msg Ans Srv where
  client := client
  sent := []
  answers := []
  server := server

/-- Who acts next. -/
inductive NetEvent (Event Choice Outside : Type) where
  | client (event : Event)
  | serve (index : Nat) (choice : Choice)
  | outside (action : Outside)

section ClientHistory

variable {Event Msg Choice Outside : Type}

/-- What a step of the closed system is for the client. -/
def clientEntry :
    NetEvent Event Choice Outside × List Msg → Option (Event × List Msg)
  | (.client event, out) => some (event, out)
  | _ => none

/-- The event of the client, if it is one. -/
def clientEvent : NetEvent Event Choice Outside → Option Event
  | .client event => some event
  | _ => none

/-- The client's part of a history. -/
def clientHistory (history : History (NetEvent Event Choice Outside) Msg) :
    History Event Msg :=
  history.filterMap clientEntry

@[simp] theorem clientHistory_append
    (first second : History (NetEvent Event Choice Outside) Msg) :
    clientHistory (first ++ second) = clientHistory first ++ clientHistory second :=
  List.filterMap_append

@[simp] theorem clientHistory_client (event : Event) (out : List Msg) :
    clientHistory [((.client event : NetEvent Event Choice Outside), out)] =
      [(event, out)] := rfl

@[simp] theorem clientHistory_serve (index : Nat) (choice : Choice) (out : List Msg) :
    clientHistory [((.serve index choice : NetEvent Event Choice Outside), out)] = [] := rfl

@[simp] theorem clientHistory_outside (action : Outside) (out : List Msg) :
    clientHistory [((.outside action : NetEvent Event Choice Outside), out)] = [] := rfl

theorem events_clientHistory (history : History (NetEvent Event Choice Outside) Msg) :
    (clientHistory history).events = history.events.filterMap clientEvent := by
  induction history with
  | nil => rfl
  | cons entry rest ih =>
      obtain ⟨event, out⟩ := entry
      cases event with
      | client event => exact congrArg (List.cons event) ih
      | serve index choice => exact ih
      | outside action => exact ih

end ClientHistory

namespace Protocol

variable {State Event Msg Ans Srv Choice Outside : Type} [DecidableEq Msg] [DecidableEq Ans]

/-- Whether an event may happen: an answer it hands in was really made. -/
def answered (p : Protocol State Event Msg Ans Srv Choice Outside)
    (net : Net State Msg Ans Srv) (event : Event) : Bool :=
  match p.consumes net.client event with
  | none => true
  | some answer => answer ∈ net.answers

/-- The closed system as a machine that emits the client's messages. -/
def net (p : Protocol State Event Msg Ans Srv Choice Outside) :
    Machine (Net State Msg Ans Srv) (NetEvent Event Choice Outside) Msg where
  step net
    | .client event =>
        if p.answered net event then
          match p.machine.step net.client event with
          | none => none
          | some (client, out) => some ({ net with client, sent := net.sent ++ out }, out)
        else none
    | .serve index choice =>
        match net.sent[index]? with
        | none => none
        | some msg =>
            match p.serve net.server msg choice with
            | none => none
            | some (server, ans) =>
                some ({ net with server, answers := net.answers ++ [(msg, ans)] }, [])
    | .outside action =>
        match p.outside net.server action with
        | none => none
        | some server => some ({ net with server }, [])

variable {p : Protocol State Event Msg Ans Srv Choice Outside}
  {before after start : Net State Msg Ans Srv} {out : List Msg}

/-- Everything one step of the closed system can be. -/
theorem net_step_cases {event : NetEvent Event Choice Outside}
    (taken : p.net.step before event = some (after, out)) :
    (∃ e client, event = .client e ∧ p.answered before e = true ∧
      p.machine.step before.client e = some (client, out) ∧
      after = { before with client, sent := before.sent ++ out }) ∨
    (∃ index choice msg server ans, event = .serve index choice ∧ msg ∈ before.sent ∧
      p.serve before.server msg choice = some (server, ans) ∧ out = [] ∧
      after = { before with server, answers := before.answers ++ [(msg, ans)] }) ∨
    (∃ action server, event = .outside action ∧
      p.outside before.server action = some server ∧ out = [] ∧
      after = { before with server }) := by
  cases event with
  | client e =>
      simp only [net] at taken
      split at taken
      · rename_i allowed
        split at taken
        · cases taken
        · rename_i client emitted stepped
          simp only [Option.some.injEq, Prod.mk.injEq] at taken
          obtain ⟨rfl, rfl⟩ := taken
          exact Or.inl ⟨e, client, rfl, allowed, stepped, rfl⟩
      · cases taken
  | serve index choice =>
      simp only [net] at taken
      split at taken
      · cases taken
      · rename_i msg found
        split at taken
        · cases taken
        · rename_i server ans served
          simp only [Option.some.injEq, Prod.mk.injEq] at taken
          obtain ⟨rfl, rfl⟩ := taken
          exact Or.inr (Or.inl ⟨index, choice, msg, server, ans, rfl,
            List.mem_of_getElem? found, served, rfl, rfl⟩)
  | outside action =>
      simp only [net] at taken
      split at taken
      · cases taken
      · rename_i server acted
        simp only [Option.some.injEq, Prod.mk.injEq] at taken
        obtain ⟨rfl, rfl⟩ := taken
        exact Or.inr (Or.inr ⟨action, server, rfl, acted, rfl, rfl⟩)

/-- An event of the client happens if the answer that it hands in was made. -/
theorem client_step {event : Event} {client : State}
    (answered : ∀ answer, p.consumes before.client event = some answer → answer ∈ before.answers)
    (stepped : p.machine.step before.client event = some (client, out)) :
    p.net.step before (.client event) =
      some ({ before with client, sent := before.sent ++ out }, out) := by
  have allowed : p.answered before event = true := by
    unfold Protocol.answered
    split
    · rfl
    · rename_i answer hands
      exact decide_eq_true (answered answer hands)
  simp only [net, if_pos allowed, stepped]

/-- A message that was sent can be served. -/
theorem serve_step {msg : Msg} {choice : Choice} {server : Srv} {ans : Ans}
    (sent : msg ∈ before.sent) (served : p.serve before.server msg choice = some (server, ans)) :
    ∃ index, p.net.step before (.serve index choice) =
      some ({ before with server, answers := before.answers ++ [(msg, ans)] }, []) := by
  obtain ⟨index, found⟩ := List.mem_iff_getElem?.mp sent
  refine ⟨index, ?_⟩
  simp only [net, found, served]

/-- The induction rule for what the server and its answers keep, whatever the client is. -/
theorem server_invariant {P : Srv → List (Msg × Ans) → Prop}
    (initial : P start.server start.answers)
    (serves : ∀ server answers msg choice server' ans, P server answers →
      p.serve server msg choice = some (server', ans) → P server' (answers ++ [(msg, ans)]))
    (acts : ∀ server answers action server', P server answers →
      p.outside server action = some server' → P server' answers)
    {history : History (NetEvent Event Choice Outside) Msg}
    (run : p.net.Reaches start history after) : P after.server after.answers := by
  refine run.state_invariant (P := fun net => P net.server net.answers) initial ?_
  intro s event s' out holds taken
  rcases net_step_cases taken with ⟨_, _, -, -, -, rfl⟩ |
    ⟨_, _, _, _, _, -, -, served, -, rfl⟩ | ⟨_, _, -, acted, -, rfl⟩
  · exact holds
  · exact serves _ _ _ _ _ _ holds served
  · exact acts _ _ _ _ holds acted

section Runs

variable {history : History (NetEvent Event Choice Outside) Msg} {current next : State}
  {sent : List Msg} {answers : List (Msg × Ans)} {server : Srv}

/-- A run goes on with a step of the client. -/
theorem reaches_client (run : p.net.Reaches start history ⟨current, sent, answers, server⟩)
    (event : Event) (stepped : p.machine.step current event = some (next, out))
    (answered : ∀ answer, p.consumes current event = some answer → answer ∈ answers) :
    p.net.Reaches start (history ++ [(.client event, out)])
      ⟨next, sent ++ out, answers, server⟩ :=
  run.snoc (@client_step _ _ _ _ _ _ _ _ _ p ⟨current, sent, answers, server⟩ _ _ _ answered
    stepped)

/-- A run goes on with the server answering what was sent. -/
theorem reaches_serve {changed : Srv} {msg : Msg} {ans : Ans}
    (run : p.net.Reaches start history ⟨current, sent, answers, server⟩) (index : Nat)
    (choice : Choice) (asked : sent[index]? = some msg)
    (served : p.serve server msg choice = some (changed, ans)) :
    p.net.Reaches start (history ++ [(.serve index choice, [])])
      ⟨current, sent, answers ++ [(msg, ans)], changed⟩ := by
  refine run.snoc ?_
  simp only [net, asked, served]

/-- The client alone can take the same steps. -/
theorem machine_reaches {net : Net State Msg Ans Srv} (run : p.net.Reaches start history net) :
    p.machine.Reaches start.client (clientHistory history) net.client := by
  induction run with
  | refl => exact .refl
  | @snoc earlier before event after out _ taken ih =>
      rw [clientHistory_append]
      rcases net_step_cases taken with ⟨event, client, rfl, -, stepped, rfl⟩ |
        ⟨_, _, _, _, _, rfl, -, -, rfl, rfl⟩ | ⟨_, _, rfl, -, rfl, rfl⟩
      · exact ih.snoc stepped
      · rw [clientHistory_serve, List.append_nil]
        exact ih
      · rw [clientHistory_outside, List.append_nil]
        exact ih

end Runs

/-- An answer that an event hands in is one the server made. -/
theorem mem_answers_of_answered {net : Net State Msg Ans Srv} {event : Event}
    {answer : Msg × Ans} (allowed : p.answered net event = true)
    (hands : p.consumes net.client event = some answer) : answer ∈ net.answers := by
  simpa [answered, hands] using allowed

end Protocol

end R2kit.Misc
