import R2kit.Multipart.Paging

/-!
# How long `reconcile` goes on listing

A page with entries fills slots, so there are no more of them than planned parts. A page
without entries that asks to go on fills none, and nothing in the loop counts such pages or
compares markers: they decide how long the loop runs, and whether it ends.
-/

namespace R2kit

namespace PresignedMultipart

/-- The empty pages that the loop goes on after, within its first `fuel` requests. -/
def emptyPages (session : PresignedMultipart) (server : ListServer) :
    (fuel : Nat) → (sent : List Request) → ReconcileState → Nat
  | 0, _, _ => 0
  | fuel + 1, sent, state =>
      let sent := sent ++ [state.request session]
      match state.onAnswer session.plan (server sent) with
      | .ok (.listing next) =>
          (if (server sent).map ListPartsOutput.parts = .ok [] then 1 else 0) +
            session.emptyPages server fuel sent next
      | _ => 0

/-- The loop ends, with a value or an error, after at most this many requests. -/
def ReturnsWithin (session : PresignedMultipart) (server : ListServer) (bound : Nat) : Prop :=
  ∃ run, session.reconcile server bound = some run ∧ run.requests.length ≤ bound ∧
    ∀ site, run.result ≠ .error (.panic site)

end PresignedMultipart

section Progress

variable {session : PresignedMultipart} {server : ListServer}

/-- The slots that are still free. -/
def free (plan : MultipartPlan) (uploaded : Slots) : Nat :=
  plan.partCount - (recorded uploaded).length

/-- A page fills as many slots as it has entries. -/
theorem free_readPage {plan : MultipartPlan} {uploaded read : Slots} {parts : List RemotePart}
    (slotted : Slotted plan uploaded) (accepted : readPage plan uploaded parts = .ok read) :
    free plan read + parts.length = free plan uploaded := by
  obtain ⟨listed, describes, same⟩ := readPage_perm accepted
  have entries := describes.length_eq
  have filled := same.length_eq
  rw [List.length_append] at filled
  have room : (recorded read).length ≤ plan.partCount := by
    rw [← (readPage_ok slotted accepted).1.1]
    exact List.reduceOption_length_le read
  simp only [free]
  omega

/-- What the loop goes on with after a page. -/
theorem listing_iff {plan : MultipartPlan} {state next : ReconcileState}
    {answer : Except SdkError ListPartsOutput}
    (onward : state.onAnswer plan answer = .ok (.listing next)) :
    ∃ output, answer = .ok output ∧
      readPage plan state.uploaded output.parts = .ok next.uploaded := by
  unfold ReconcileState.onAnswer at onward
  cases answer with
  | error error => cases onward
  | ok output =>
      dsimp only at onward
      split at onward
      · cases onward
      · rename_i read page
        split at onward
        · split at onward <;> cases onward
        · split at onward
          · cases onward
          · cases onward
            exact ⟨output, rfl, page⟩

/-- As long as the loop runs, its requests are accounted for by the slots it has filled and
    by the empty pages. -/
theorem fuel_le_of_running {fuel : Nat} {sent : List Request} {state : ReconcileState}
    (slotted : Slotted session.plan state.uploaded)
    (running : session.reconcileLoop server fuel sent state = none) :
    fuel ≤ free session.plan state.uploaded + session.emptyPages server fuel sent state := by
  induction fuel generalizing sent state with
  | zero => exact Nat.zero_le _
  | succ fuel ih =>
      simp only [PresignedMultipart.reconcileLoop] at running
      simp only [PresignedMultipart.emptyPages]
      cases turn : state.onAnswer session.plan (server (sent ++ [state.request session])) with
      | error fault =>
          rw [turn] at running
          cases running
      | ok moved =>
          rw [turn] at running
          cases moved with
          | done reconciliation => cases running
          | listing next =>
              obtain ⟨output, answer, page⟩ := listing_iff turn
              have later := ih (readPage_ok slotted page).1 running
              have filled := free_readPage slotted page
              dsimp only
              by_cases empty : output.parts = []
              · have counted : (server (sent ++ [state.request session])).map
                    ListPartsOutput.parts = .ok [] := by
                  rw [answer, ← empty]
                  rfl
                rw [if_pos counted]
                omega
              · have some_entry := List.length_pos_iff.mpr empty
                omega

/-- A run sends one request for each unit of fuel it needs. -/
theorem requests_le {fuel : Nat} {sent : List Request} {state : ReconcileState}
    {run : ReconcileRun} (returned : session.reconcileLoop server fuel sent state = some run) :
    run.requests.length ≤ sent.length + fuel := by
  induction fuel generalizing sent state with
  | zero => cases returned
  | succ fuel ih =>
      simp only [PresignedMultipart.reconcileLoop] at returned
      split at returned
      · cases returned
        simp
      · cases returned
        simp
      · have later := ih returned
        simp only [List.length_append, List.length_singleton] at later
        omega

/-- Of a loop that has returned, no more empty pages are known than it sent requests. -/
theorem emptyPages_le {fuel : Nat} {sent : List Request} {state : ReconcileState}
    {run : ReconcileRun} (returned : session.reconcileLoop server fuel sent state = some run)
    (turns : Nat) : session.emptyPages server turns sent state ≤ fuel := by
  induction fuel generalizing sent state turns with
  | zero => cases returned
  | succ fuel ih =>
      cases turns with
      | zero => exact Nat.zero_le _
      | succ turns =>
          simp only [PresignedMultipart.reconcileLoop] at returned
          simp only [PresignedMultipart.emptyPages]
          split
          · rename_i next turn
            rw [turn] at returned
            have later := ih returned turns
            split <;> omega
          · exact Nat.zero_le _

theorem reconcileLoop_not_panic {fuel : Nat} {sent : List Request} {state : ReconcileState}
    {run : ReconcileRun} (slotted : Slotted session.plan state.uploaded)
    (returned : session.reconcileLoop server fuel sent state = some run) (site : String) :
    run.result ≠ .error (.panic site) := by
  induction fuel generalizing sent state with
  | zero => cases returned
  | succ fuel ih =>
      simp only [PresignedMultipart.reconcileLoop] at returned
      split at returned
      · rename_i fault turn
        cases returned
        intro failed
        cases failed
        exact onAnswer_not_panic slotted turn
      · cases returned
        simp
      · rename_i next turn
        obtain ⟨output, -, page⟩ := listing_iff turn
        exact ih (readPage_ok slotted page).1 returned

/-- With this many empty pages at most, the loop ends after one request for each planned part,
    one for each empty page, and the last one. -/
theorem returnsWithin_of_emptyPages {limit : Nat}
    (limited : ∀ fuel,
      session.emptyPages server fuel [] (ReconcileState.start session.plan) ≤ limit) :
    session.ReturnsWithin server (session.plan.partCount + limit + 1) := by
  cases running : session.reconcile server (session.plan.partCount + limit + 1) with
  | none =>
      have accounted := fuel_le_of_running slotted_start running
      have counted := limited (session.plan.partCount + limit + 1)
      have room : free session.plan (ReconcileState.start session.plan).uploaded ≤
        session.plan.partCount := Nat.sub_le _ _
      omega
  | some run =>
      have sent := requests_le running
      rw [List.length_nil, Nat.zero_add] at sent
      exact ⟨run, running, sent, reconcileLoop_not_panic slotted_start running⟩

end Progress

/-- Against a class of servers, the loop ends after a number of requests that the part count
    bounds exactly when the part count bounds the empty pages they have it go on after. -/
theorem reconcile_bounded_iff (servers : PresignedMultipart → ListServer → Prop) :
    (∃ bound : Nat → Nat, ∀ session server, servers session server →
      session.ReturnsWithin server (bound session.partCount)) ↔
    ∃ limit : Nat → Nat, ∀ session server, servers session server → ∀ fuel,
      session.emptyPages server fuel [] (ReconcileState.start session.plan) ≤
        limit session.partCount := by
  constructor
  · intro ⟨bound, returns⟩
    refine ⟨bound, ?_⟩
    intro session server member fuel
    obtain ⟨run, returned, -⟩ := returns session server member
    exact emptyPages_le returned fuel
  · intro ⟨limit, limited⟩
    refine ⟨fun count => count + limit count + 1, ?_⟩
    intro session server member
    exact returnsWithin_of_emptyPages (limited session server member)

/-- A server that answers every request with an empty page and the same marker. -/
def ListServer.stalled : ListServer := fun _ => .ok ⟨[], some true, some "1"⟩

theorem reconcileLoop_stalled {session : PresignedMultipart} (fuel : Nat) (sent : List Request)
    (state : ReconcileState) : session.reconcileLoop .stalled fuel sent state = none := by
  induction fuel generalizing sent state with
  | zero => rfl
  | succ fuel ih => exact ih _ _

/-- Against that server `reconcile` of the small session never returns. -/
theorem reconcile_stalls :
    ¬ ∃ bound, PresignedMultipart.tiny.ReturnsWithin .stalled bound := by
  rintro ⟨bound, run, returned, -⟩
  rw [PresignedMultipart.reconcile, reconcileLoop_stalled] at returned
  cases returned

end R2kit
