/-!
# Event-driven machines

A machine takes one event at a time and emits outputs; what the environment does is the
choice of the events. Runs carry their whole history, so that a property of a run (which
outputs were emitted, in which order, on which answers) is a property of a reachable pair
of history and state, proved by the induction rule `Machine.Reaches.invariant`.
-/

namespace R2kit.Misc

variable {State Event Output : Type}

/-- A sequential agent. An event that `step` accepts yields the next state and the outputs
    emitted on the way there. -/
structure Machine (State Event Output : Type) where
  step : State → Event → Option (State × List Output)

/-- The events a machine took, each with the outputs emitted on it, oldest first. -/
abbrev History (Event Output : Type) := List (Event × List Output)

/-- Everything emitted in a history, in order. -/
def History.outputs (history : History Event Output) : List Output :=
  history.flatMap Prod.snd

/-- The events of a history, in order. -/
def History.events (history : History Event Output) : List Event :=
  history.map Prod.fst

@[simp] theorem History.outputs_nil : History.outputs ([] : History Event Output) = [] := rfl

@[simp] theorem History.outputs_append (first second : History Event Output) :
    History.outputs (first ++ second) = first.outputs ++ second.outputs :=
  List.flatMap_append

@[simp] theorem History.outputs_singleton (event : Event) (out : List Output) :
    History.outputs [(event, out)] = out := by
  simp [History.outputs]

@[simp] theorem History.events_nil : History.events ([] : History Event Output) = [] := rfl

@[simp] theorem History.events_append (first second : History Event Output) :
    History.events (first ++ second) = first.events ++ second.events :=
  List.map_append

@[simp] theorem History.events_singleton (event : Event) (out : List Output) :
    History.events [(event, out)] = [event] := rfl

theorem History.outputs_snoc {history : History Event Output} {added : Event}
    {out : List Output} :
    History.outputs (history ++ [(added, out)]) = history.outputs ++ out := by
  rw [History.outputs_append, History.outputs_singleton]

theorem History.mem_outputs_snoc {history : History Event Output} {added : Event}
    {output : Output} {out : List Output} :
    output ∈ History.outputs (history ++ [(added, out)]) ↔
      output ∈ history.outputs ∨ output ∈ out := by
  rw [History.outputs_snoc, List.mem_append]

theorem History.mem_events_snoc {history : History Event Output} {event added : Event}
    {out : List Output} :
    event ∈ History.events (history ++ [(added, out)]) ↔
      event ∈ history.events ∨ event = added := by
  rw [History.events_append, List.mem_append, History.events_singleton, List.mem_singleton]

theorem History.forall_events_snoc {P : Event → Prop} {history : History Event Output}
    {added : Event} {out : List Output} :
    (∀ event ∈ History.events (history ++ [(added, out)]), P event) ↔
      (∀ event ∈ history.events, P event) ∧ P added := by
  rw [History.events_append, List.forall_mem_append, History.events_singleton,
    List.forall_mem_singleton]

namespace Machine

/-- `m.Reaches start history s`: from `start` the machine can take the events of `history`
    and is then in `s`. -/
inductive Reaches (m : Machine State Event Output) (start : State) :
    History Event Output → State → Prop
  | refl : Reaches m start [] start
  | snoc {history s event s' out} (before : Reaches m start history s)
      (taken : m.step s event = some (s', out)) :
      Reaches m start (history ++ [(event, out)]) s'

/-- Runs the machine on a list of events, collecting the history. -/
def exec (m : Machine State Event Output) :
    State → List Event → Option (History Event Output × State)
  | s, [] => some ([], s)
  | s, event :: events =>
      match m.step s event with
      | none => none
      | some (s', out) =>
          match m.exec s' events with
          | none => none
          | some (history, final) => some ((event, out) :: history, final)

variable {m : Machine State Event Output} {start : State}

/-- The induction rule for runs: what holds at the start and is kept by every step holds
    of every run. -/
theorem Reaches.invariant {P : History Event Output → State → Prop} (initial : P [] start)
    (preserves : ∀ history s event s' out, m.Reaches start history s → P history s →
      m.step s event = some (s', out) → P (history ++ [(event, out)]) s')
    {history : History Event Output} {s : State} (run : m.Reaches start history s) :
    P history s := by
  induction run with
  | refl => exact initial
  | snoc before taken ih => exact preserves _ _ _ _ _ before ih taken

/-- The induction rule for a property of states alone. -/
theorem Reaches.state_invariant {P : State → Prop} (initial : P start)
    (preserves : ∀ s event s' out, P s → m.step s event = some (s', out) → P s')
    {history : History Event Output} {s : State} (run : m.Reaches start history s) : P s := by
  induction run with
  | refl => exact initial
  | snoc _ taken ih => exact preserves _ _ _ _ ih taken

theorem Reaches.trans {first second : History Event Output} {middle final : State}
    (before : m.Reaches start first middle) (after : m.Reaches middle second final) :
    m.Reaches start (first ++ second) final := by
  induction after with
  | refl => simpa using before
  | snoc _ taken ih =>
      rw [← List.append_assoc]
      exact ih.snoc taken

/-- A single accepted event is a run. -/
theorem Reaches.single {event : Event} {s' : State} {out : List Output}
    (taken : m.step start event = some (s', out)) :
    m.Reaches start [(event, out)] s' :=
  Reaches.refl.snoc taken

/-- The last step of a run. -/
theorem Reaches.last {history : History Event Output} {event : Event} {out : List Output}
    {s' : State} (run : m.Reaches start (history ++ [(event, out)]) s') :
    ∃ s, m.Reaches start history s ∧ m.step s event = some (s', out) := by
  generalize shape : history ++ [(event, out)] = whole at run
  cases run with
  | refl => simp at shape
  | snoc before taken =>
      obtain ⟨rfl, last⟩ := List.append_inj' shape rfl
      rw [List.singleton_inj, Prod.mk.injEq] at last
      obtain ⟨rfl, rfl⟩ := last
      exact ⟨_, before, taken⟩

/-- A quantity that every step of a run lowers bounds the length of the run. -/
theorem Reaches.length_le {measure : State → Nat}
    (lowers : ∀ history s event s' out, m.Reaches start history s →
      m.step s event = some (s', out) → measure s' < measure s)
    {history : History Event Output} {s : State} (run : m.Reaches start history s) :
    history.length + measure s ≤ measure start := by
  induction run with
  | refl => simp
  | snoc before taken ih =>
      have := lowers _ _ _ _ _ before taken
      simp only [List.length_append, List.length_singleton]
      omega

/-- Executing a list of events is a run through them. -/
theorem reaches_of_exec {events : List Event} {history : History Event Output} {s : State}
    (executed : m.exec start events = some (history, s)) : m.Reaches start history s := by
  induction events generalizing start history with
  | nil =>
      simp only [exec, Option.some.injEq, Prod.mk.injEq] at executed
      obtain ⟨rfl, rfl⟩ := executed
      exact .refl
  | cons event events ih =>
      simp only [exec] at executed
      split at executed
      · cases executed
      · rename_i s' out taken
        split at executed
        · cases executed
        · rename_i rest final later
          simp only [Option.some.injEq, Prod.mk.injEq] at executed
          obtain ⟨rfl, rfl⟩ := executed
          exact (Reaches.single taken).trans (ih later)

/-- A history that is what its events execute to is a run. -/
theorem reaches_of_replay {history : History Event Output} {s : State}
    (executed : m.exec start history.events = some (history, s)) : m.Reaches start history s :=
  reaches_of_exec executed

/-- The history of an execution has the events that were executed. -/
theorem events_of_exec {events : List Event} {history : History Event Output} {s : State}
    (executed : m.exec start events = some (history, s)) : history.events = events := by
  induction events generalizing start history with
  | nil =>
      simp only [exec, Option.some.injEq, Prod.mk.injEq] at executed
      rw [← executed.1]
      rfl
  | cons event events ih =>
      simp only [exec] at executed
      split at executed
      · cases executed
      · split at executed
        · cases executed
        · rename_i rest final later
          simp only [Option.some.injEq, Prod.mk.injEq] at executed
          rw [← executed.1, ← ih (by rw [later, executed.2])]
          rfl

end Machine

end R2kit.Misc
