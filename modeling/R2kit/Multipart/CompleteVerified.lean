import R2kit.Misc.Network
import R2kit.Multipart.Reconcile
import R2kit.Remote

/-!
# Verified completion

`PresignedMultipart::complete_verified` of `src/multipart.rs` as a machine that waits for
answers, run against the account while others keep writing parts. What a page lists need
not be stored any more when the session is completed; that the ETags still match is what
carries the listed sizes over to the committed object.
-/

namespace R2kit

open Misc

/-- Where `complete_verified` is waiting. -/
inductive VerifyState where
  | ready
  | listing (state : ReconcileState)
  | completing (request : Request)
  | returned (result : Outcome CompletedObject)
  deriving DecidableEq

/-- What can happen while `complete_verified` is polled. -/
inductive VerifyEvent where
  | poll
  | listed (answer : Except SdkError ListPartsOutput)
  | completed (answer : Except SdkError (Option String))
  deriving DecidableEq

namespace PresignedMultipart

variable (session : PresignedMultipart) (manifest : CompletionManifest)

/-- `complete_verified` after the reconciliation: the comparison, then `complete`. -/
def verify (reconciliation : MultipartReconciliation) : VerifyState × List Effect :=
  if ¬ reconciliation.isComplete ∨ reconciliation.uploadedParts ≠ manifest.parts then
    (.returned (.error (.error (.invalidInput "parts"
      "does not match the parts currently stored by R2"))), [])
  else
    match session.completeRequest manifest with
    | .error error => (.returned (.error (.error error)), [])
    | .ok request => (.completing request, [.send request])

/-- `complete_verified`: all pages are reconciled, then the session is completed. -/
def completeVerified : Machine VerifyState VerifyEvent Effect where
  step
    | .ready, .poll =>
        let state := ReconcileState.start session.plan
        some (.listing state, [.send (state.request session)])
    | .listing state, .listed answer =>
        match state.onAnswer session.plan answer with
        | .error fault => some (.returned (.error fault), [])
        | .ok (.listing state) => some (.listing state, [.send (state.request session)])
        | .ok (.done reconciliation) => some (session.verify manifest reconciliation)
    | .completing _, .completed answer =>
        match completeAnswer answer with
        | .error error => some (.returned (.error (.error error)), [])
        | .ok object => some (.returned (.ok object), [])
    | _, _ => none

/-- The request whose answer an event hands in. An error needs no answer: it may come from
    anywhere between the client and the server. -/
def verifyConsumes : VerifyState → VerifyEvent → Option (Effect × Response)
  | .listing state, .listed (.ok output) =>
      some (.send (state.request session), .listParts output)
  | .completing request, .completed (.ok etag) =>
      some (.send request, .completeMultipartUpload etag)
  | _, _ => none

/-- `complete_verified` on an account in which others write parts at any moment. -/
def verifyProtocol (scheme : EtagScheme) :
    Protocol VerifyState VerifyEvent Effect Response Remote Choice Remote.UploaderPut where
  machine := session.completeVerified manifest
  consumes := session.verifyConsumes
  serve := Remote.serve scheme
  outside := Remote.uploaderPut

end PresignedMultipart

section Safety

variable {session : PresignedMultipart} {manifest : CompletionManifest} {scheme : EtagScheme}

/-- Some content of the planned length has the ETag of the part. -/
def Sized (scheme : EtagScheme) (plan : MultipartPlan) (part : UploadedPart) : Prop :=
  ∃ body : List UInt8, plan.partLength part.partNumber = .ok body.length ∧
    part.etag = scheme.etag body

/-- What the comparison with the manifest has established. -/
structure Verified (scheme : EtagScheme) (session : PresignedMultipart)
    (manifest : CompletionManifest) : Prop where
  numbers : manifest.parts.map UploadedPart.partNumber = session.plan.numbers
  sized : ∀ part ∈ manifest.parts, Sized scheme session.plan part

/-- The completion request of a manifest. -/
def completion (session : PresignedMultipart) (manifest : CompletionManifest) : Request :=
  session.request (.completeMultipartUpload
    (manifest.parts.map (fun part => ⟨part.partNumber.get, part.etag⟩)))

/-- The invariant of the client, given what has been answered. -/
def VerifyInvariant (scheme : EtagScheme) (session : PresignedMultipart)
    (manifest : CompletionManifest) (answers : List (Effect × Response)) : VerifyState → Prop
  | .ready => True
  | .listing state => state.Sound session.plan (Sized scheme session.plan)
  | .completing request =>
      request = completion session manifest ∧ Verified scheme session manifest
  | .returned (.error _) => True
  | .returned (.ok _) => Verified scheme session manifest ∧
      ∃ etag, (.send (completion session manifest), .completeMultipartUpload etag) ∈ answers

/-- A listed part that matches the plan is a part of the planned length. -/
theorem sized_of_describes {remote : RemotePart} {part : UploadedPart}
    (describes : Describes session.plan remote part)
    (listed : ∃ body : List UInt8,
      remote.size = some (body.length : Int) ∧ remote.eTag = some (scheme.etag body)) :
    Sized scheme session.plan part := by
  obtain ⟨body, hsize, hetag⟩ := listed
  obtain ⟨length, expected, hlength⟩ := describes.size
  rw [hsize, Option.some.injEq, Int.natCast_inj] at expected
  have etag := describes.etag
  rw [hetag, Option.some.injEq] at etag
  exact ⟨body, by rw [hlength, expected], etag.symm⟩

theorem verify_invariant {reconciliation : MultipartReconciliation}
    {answers : List (Effect × Response)}
    (sound : Reconciled session.plan (Sized scheme session.plan) reconciliation) :
    VerifyInvariant scheme session manifest answers
      (session.verify manifest reconciliation).1 := by
  unfold PresignedMultipart.verify
  split
  · trivial
  · rename_i agrees
    rw [not_or, not_not, not_not] at agrees
    obtain ⟨complete, same⟩ := agrees
    split
    · trivial
    · rename_i request accepted
      obtain ⟨numbers, rfl⟩ := PresignedMultipart.completeRequest_eq_ok_iff.mp accepted
      refine ⟨rfl, numbers, ?_⟩
      rw [← same]
      exact sound.holds

/-- One step of the client, on answers that say what `Remote.Answered` says. -/
theorem completeVerified_step {state next : VerifyState} {event : VerifyEvent}
    {out : List Effect} {answers : List (Effect × Response)} {remote : Remote}
    (invariant : VerifyInvariant scheme session manifest answers state)
    (true_answers : ∀ answer ∈ answers, Remote.Answered scheme remote answer)
    (allowed : ∀ answer, session.verifyConsumes state event = some answer → answer ∈ answers)
    (taken : (session.completeVerified manifest).step state event = some (next, out)) :
    VerifyInvariant scheme session manifest answers next := by
  unfold PresignedMultipart.completeVerified at taken
  dsimp only at taken
  split at taken
  · cases taken
    exact sound_start
  · rename_i state answer
    have pages : ∀ output, answer = .ok output → ∀ remote ∈ output.parts, ∀ part,
        Describes session.plan remote part → Sized scheme session.plan part := by
      rintro output rfl remote member part describes
      have answered := true_answers _ (allowed _ rfl)
      exact sized_of_describes describes (answered remote member)
    split at taken
    · cases taken
      trivial
    · rename_i next read
      cases taken
      exact onAnswer_ok invariant pages read
    · rename_i reconciliation read
      have kept : VerifyInvariant scheme session manifest answers
          (session.verify manifest reconciliation).1 :=
        verify_invariant (onAnswer_ok invariant pages read)
      rw [Option.some.injEq] at taken
      rwa [taken] at kept
  · rename_i request answer
    obtain ⟨rfl, verified⟩ := invariant
    cases answer with
    | error error =>
        cases taken
        trivial
    | ok etag =>
        cases taken
        exact ⟨verified, etag, allowed _ rfl⟩
  · cases taken

/-- The invariant of the closed system: the answers say what they say, and the client has
    learned only from them. -/
structure VerifySystem (scheme : EtagScheme) (session : PresignedMultipart)
    (manifest : CompletionManifest) (net : Net VerifyState Effect Response Remote) : Prop where
  answered : ∀ answer ∈ net.answers, Remote.Answered scheme net.server answer
  client : VerifyInvariant scheme session manifest net.answers net.client

theorem VerifyInvariant.mono {state : VerifyState} {before after : List (Effect × Response)}
    (invariant : VerifyInvariant scheme session manifest before state)
    (grows : ∀ answer ∈ before, answer ∈ after) :
    VerifyInvariant scheme session manifest after state := by
  unfold VerifyInvariant at invariant ⊢
  split
  · trivial
  · exact invariant
  · exact invariant
  · trivial
  · obtain ⟨verified, etag, member⟩ := invariant
    exact ⟨verified, etag, grows _ member⟩

/-- `complete_verified` about to start, on an account in any state. -/
def verifyStart (remote : Remote) : Net VerifyState Effect Response Remote where
  client := .ready
  sent := []
  answers := []
  server := remote

theorem verifySystem_of_reaches {remote : Remote}
    {history : History (NetEvent VerifyEvent Choice Remote.UploaderPut) Effect}
    {net : Net VerifyState Effect Response Remote}
    (run : (session.verifyProtocol manifest scheme).net.Reaches (verifyStart remote) history net) :
    VerifySystem scheme session manifest net := by
  have initial : VerifySystem scheme session manifest (verifyStart remote) :=
    ⟨List.forall_mem_nil _, trivial⟩
  apply run.state_invariant initial
  intro before event after out system taken
  rcases Protocol.net_step_cases taken with ⟨e, client, -, allowed, stepped, rfl⟩ |
    ⟨_, choice, effect, server, response, -, -, served, -, rfl⟩ |
    ⟨put, server, -, acted, -, rfl⟩
  · refine ⟨system.answered, ?_⟩
    refine completeVerified_step system.client system.answered ?_ stepped
    intro answer hands
    have made := Protocol.mem_answers_of_answered allowed hands
    exact made
  · refine ⟨?_, system.client.mono (fun answer member => List.mem_append_left _ member)⟩
    intro answer member
    rcases List.mem_append.mp member with earlier | new
    · exact (system.answered answer earlier).leads (Remote.serve_leads served)
    · rw [List.mem_singleton] at new
      subst new
      exact Remote.serve_answered served
  · refine ⟨?_, system.client⟩
    intro answer member
    exact (system.answered answer member).leads (Remote.uploaderPut_leads acted)

/-- Parts of the planned lengths make an object of the planned lengths: contents with the
    same ETag are the same. -/
theorem lengths_of_matches {object : CommittedObject} {parts : List UploadedPart}
    (matched : Remote.Matches scheme object
      (parts.map (fun part => ⟨part.partNumber.get, part.etag⟩)))
    (sized : ∀ part ∈ parts, Sized scheme session.plan part) :
    object.map (fun stored => (stored.1, stored.2.length)) =
      parts.map (fun part => (part.partNumber.get,
        blockLength session.plan.fileSize session.plan.partSize part.partNumber.index)) := by
  unfold Remote.Matches at matched
  induction object generalizing parts with
  | nil =>
      cases parts with
      | nil => rfl
      | cons part rest => cases matched
  | cons stored others ih =>
      cases parts with
      | nil => cases matched
      | cons part rest =>
          simp only [List.map_cons, List.cons.injEq, Prod.mk.injEq] at matched
          obtain ⟨⟨hnumber, hetag⟩, later⟩ := matched
          obtain ⟨body, hlength, same⟩ := sized part List.mem_cons_self
          have content : stored.2 = body := scheme.distinct _ _ (hetag.trans same)
          have expected := (session.plan.partLength_eq_ok_iff.mp hlength).2
          rw [List.map_cons, List.map_cons,
            ih later (fun other among => sized other (List.mem_cons_of_mem _ among)),
            hnumber, content, expected]

/-- What verified completion promises of the committed object: the planned parts in order,
    each of its planned length, together the planned size, with the ETags of the manifest. -/
structure CommittedAsPlanned (scheme : EtagScheme) (plan : MultipartPlan)
    (manifest : CompletionManifest) (object : CommittedObject) : Prop where
  numbers : object.map Prod.fst = List.range' 1 plan.partCount
  lengths : ∀ (number : PartNumber) (body : List UInt8), (number.get, body) ∈ object →
    plan.partLength number = .ok body.length
  total : (object.map (fun stored => stored.2.length)).sum = plan.fileSize
  etags : object.map (fun stored => (stored.1, scheme.etag stored.2)) =
    manifest.parts.map (fun part => (part.partNumber.get, part.etag))

theorem committedAsPlanned {object : CommittedObject}
    (verified : Verified scheme session manifest)
    (matched : Remote.Matches scheme object
      (manifest.parts.map (fun part => ⟨part.partNumber.get, part.etag⟩))) :
    CommittedAsPlanned scheme session.plan manifest object := by
  have shape := lengths_of_matches matched verified.sized
  have numbers : object.map Prod.fst = List.range' 1 session.plan.partCount := by
    have projected := congrArg (List.map Prod.fst) shape
    rw [List.map_map, List.map_map] at projected
    rw [← session.plan.map_get_numbers, ← verified.numbers, List.map_map]
    exact projected
  refine ⟨numbers, ?_, ?_, ?_⟩
  · intro number body member
    have listed := List.mem_map_of_mem (f := fun stored => (stored.1, stored.2.length)) member
    rw [shape] at listed
    obtain ⟨part, among, same⟩ := List.mem_map.mp listed
    rw [Prod.mk.injEq] at same
    have named : part.partNumber = number := PartNumber.ext same.1
    have planned : number.get ≤ session.plan.partCount := by
      rw [← session.plan.mem_numbers, ← verified.numbers, ← named]
      exact List.mem_map_of_mem among
    rw [session.plan.partLength_eq planned, ← named, same.2]
  · have projected := congrArg (List.map Prod.snd) shape
    rw [List.map_map, List.map_map] at projected
    have total := session.plan.sum_partLength
    rw [← verified.numbers, List.map_map] at total
    exact (congrArg List.sum projected).trans total
  · unfold Remote.Matches at matched
    rw [List.map_map] at matched
    exact matched

/-- If `complete_verified` returns an object, the session is committed as planned, whatever
    others wrote between the pages and before the completion. -/
theorem completeVerified_committed (scheme : EtagScheme) (session : PresignedMultipart)
    (manifest : CompletionManifest) (remote : Remote)
    (history : History (NetEvent VerifyEvent Choice Remote.UploaderPut) Effect)
    (net : Net VerifyState Effect Response Remote) (object : CompletedObject)
    (run : (session.verifyProtocol manifest scheme).net.Reaches (verifyStart remote) history net)
    (returned : net.client = .returned (.ok object)) :
    ∃ stored, net.server.status session.address = some (.committed stored) ∧
      CommittedAsPlanned scheme session.plan manifest stored := by
  have system := verifySystem_of_reaches run
  have invariant := system.client
  rw [returned] at invariant
  obtain ⟨verified, etag, member⟩ := invariant
  obtain ⟨stored, committed, matched⟩ := system.answered _ member
  exact ⟨stored, committed, committedAsPlanned verified matched⟩

/-- A run in which the listed part is overwritten after the page, and written again before
    the completion. -/
theorem completeVerified_committed_overwritten :
    ∃ (history : History (NetEvent VerifyEvent Choice Remote.UploaderPut) Effect)
      (net : Net VerifyState Effect Response Remote) (manifest : CompletionManifest)
      (stored : CommittedObject),
      (PresignedMultipart.tiny.verifyProtocol manifest .plain).net.Reaches
          (verifyStart (Function.update (fun _ => none) PresignedMultipart.tiny.address
            (some ⟨.live, fun _ => none⟩))) history net ∧
        net.client = .returned (.ok ⟨some "done"⟩) ∧
        net.server.status PresignedMultipart.tiny.address = some (.committed stored) ∧
        CommittedAsPlanned .plain PresignedMultipart.tiny.plan manifest stored := by
  let manifest : CompletionManifest :=
    ⟨[⟨⟨1, by decide⟩, "e\x01\x02\x03", by decide⟩], by decide, by decide⟩
  let page : ListPartsOutput := ⟨[⟨some 1, some 3, some "e\x01\x02\x03"⟩], some false, none⟩
  let put (body : List UInt8) : NetEvent VerifyEvent Choice Remote.UploaderPut :=
    .outside ⟨PresignedMultipart.tiny.address, 1, body⟩
  let events := [.client .poll, put [1, 2, 3], .serve 0 (.page page), put [9],
    .client (.listed (.ok page)), put [1, 2, 3], .serve 1 (.etag (some "done")),
    .client (.completed (.ok (some "done")))]
  have executed : (((PresignedMultipart.tiny.verifyProtocol manifest .plain).net.exec
      (verifyStart (Function.update (fun _ => none) PresignedMultipart.tiny.address
        (some ⟨.live, fun _ => none⟩))) events).map (fun final => final.2.client)) =
      some (.returned (.ok ⟨some "done"⟩)) := by decide
  obtain ⟨⟨history, net⟩, reached, returned⟩ := Option.map_eq_some_iff.mp executed
  have run := Machine.reaches_of_exec reached
  obtain ⟨stored, committed, planned⟩ :=
    completeVerified_committed .plain PresignedMultipart.tiny manifest _ history net _ run returned
  exact ⟨history, net, manifest, stored, run, returned, committed, planned⟩

end Safety

end R2kit
