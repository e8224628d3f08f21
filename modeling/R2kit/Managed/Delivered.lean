import R2kit.Managed.SendProtocol

/-!
# What an adaptive upload leaves at its key

`UploadFileBuilder::send` on an account, whichever branch it takes. As long as the file reads
as one content, its key holds what stood there before, the whole content, or nothing once
a source change was cleaned up; nothing else is touched; and a result means that the
whole content stands there, with the headers and the metadata of the options.
-/

namespace R2kit

open Misc

section OwnSession

variable {ι : Type} [DecidableEq ι] {crates : Crates} {calls : ι → UploadCall}
  {scheme : EtagScheme} {remote : Remote}
  {history : History (TeamEvent ι (CallEvents calls) Choice) Effect}
  {net : TeamNet ι (CallStates calls) Effect Response Remote}

/-- After an error nothing but an abort of the session is sent. -/
theorem afterStartError_within {Boot S : Type} {builder : ManagedMultipartBuilder}
    {session : PresignedMultipart} {error : Error} {state : CallState Boot S}
    {sent : List Effect} (left : afterStartError builder session error = (state, sent)) :
    ∀ effect ∈ sent, effect.Within session := by
  unfold afterStartError at left
  split at left
  · cases left
    exact List.forall_mem_singleton.mpr rfl
  · cases left
    exact List.forall_mem_nil _

theorem settle_within {Boot S : Type} {builder : ManagedMultipartBuilder}
    {session : PresignedMultipart} {result : Outcome ManagedUploadResult}
    {state : CallState Boot S} {sent : List Effect}
    (left : settle builder session result = (state, sent)) :
    ∀ effect ∈ sent, effect.Within session := by
  unfold settle at left
  split at left
  · cases left
    exact List.forall_mem_nil _
  · cases left
    exact List.forall_mem_nil _
  · exact afterStartError_within left

/-- A call sends requests only about the session that it knows. -/
theorem call_within {call : UploadCall} {events : List (CallEvent call.Boot call.InnerEvent)}
    {sent out : List Effect} {answers : List (Effect × Response)}
    {s s' : CallState call.Boot call.Inner} {event : CallEvent call.Boot call.InnerEvent}
    (client : ClientInvariant (call.entry crates) events sent answers s)
    (taken : (managedCall call.builder (call.entry crates)).step s event = some (s', out))
    {request : Request} (among : .send request ∈ out) :
    ∃ session, onSession (call.entry crates) events = some session ∧
      request.address = session.address := by
  cases callStep_of_step taken with
  | failed failed => cases among
  | create new =>
      rw [List.mem_singleton] at among
      cases among
  | resume resumed => cases among
  | uncreated failed => cases among
  | created made => cases among
  | inner moved unsettled =>
      exact ⟨_, client.1, UploadCall.within_step moved _ among⟩
  | settled moved finished left =>
      refine ⟨_, client.1, ?_⟩
      rcases List.mem_append.mp among with inside | last
      · exact UploadCall.within_step moved _ inside
      · exact settle_within left _ last
  | cancelled token left => exact ⟨_, client.1, afterStartError_within left _ among⟩
  | aborted => cases among

/-- All requests of a member of a team are about the session it works on. -/
theorem sent_within_of_team
    (run : (callTeam crates calls scheme).net.Reaches
      (TeamNet.start (fun _ => .ready) remote) history net) :
    ∀ i request, .send request ∈ net.sent i → ∃ session,
      WorksOn crates calls history i session ∧ request.address = session.address := by
  induction run with
  | refl =>
      intro i request among
      cases among
  | snoc before taken ih =>
      intro i request among
      rcases Team.net_step_cases taken with ⟨j, e, client, rfl, -, stepped, rfl⟩ |
        ⟨j, _, choice, effect, server, response, rfl, -, -, -, rfl⟩
      · rcases mem_update_append.mp among with earlier | ⟨rfl, now⟩
        · obtain ⟨session, works, addressed⟩ := ih i request earlier
          exact ⟨session, works.mono, addressed⟩
        · obtain ⟨session, works, addressed⟩ :=
            call_within (clientInvariant_of_team before i) stepped now
          exact ⟨session, WorksOn.mono works, addressed⟩
      · obtain ⟨session, works, addressed⟩ := ih i request among
        exact ⟨session, works.mono, addressed⟩

/-- How a call that resumes nothing has come to its session. -/
def MadeBy {Boot S E : Type} (entry : Entry Boot S E) (events : List (CallEvent Boot E))
    (answers : List (Effect × Response)) (session : PresignedMultipart) : Prop :=
  ∃ boot request plan input uploadId, .poll boot ∈ events ∧
    entry.start boot = .creating request plan input ∧
    session = { bucket := request.bucket, key := request.key.value, uploadId, plan } ∧
    (.create request.createInput, .createMultipartUpload (some uploadId)) ∈ answers

theorem MadeBy.mono {Boot S E : Type} {entry : Entry Boot S E}
    {events later : List (CallEvent Boot E)} {answers more : List (Effect × Response)}
    {session : PresignedMultipart} (made : MadeBy entry events answers session)
    (happened : ∀ event ∈ events, event ∈ later) (stay : ∀ answer ∈ answers, answer ∈ more) :
    MadeBy entry later more session := by
  obtain ⟨boot, request, plan, input, uploadId, polled, begun, is, told⟩ := made
  exact ⟨boot, request, plan, input, uploadId, happened _ polled, begun, is, stay _ told⟩

/-- The step in which a call comes to know its session is the answer to its creation. -/
theorem madeBy_of_step {Boot S E : Type} {builder : ManagedMultipartBuilder}
    {entry : Entry Boot S E} {events : List (CallEvent Boot E)} {sent out : List Effect}
    {answers : List (Effect × Response)} {s s' : CallState Boot S} {event : CallEvent Boot E}
    {session : PresignedMultipart} (fresh : ∀ boot other, entry.start boot ≠ .resumed other)
    (client : ClientInvariant entry events sent answers s)
    (answered : ∀ answer, callConsumes entry s event = some answer → answer ∈ answers)
    (taken : (managedCall builder entry).step s event = some (s', out))
    (known : onSession entry (events ++ [event]) = some session) :
    onSession entry events = some session ∨ MadeBy entry (events ++ [event]) answers session := by
  have same : ∀ other, onSession entry events = some other →
      onSession entry events = some session := by
    intro other was
    rw [was, ← onSession_append was [event], known]
  cases callStep_of_step taken with
  | failed failed =>
      rw [client.1] at known
      simp [onSession, failed] at known
  | create new =>
      rw [client.1] at known
      simp [onSession, new] at known
  | resume resumed => exact absurd resumed (fresh _ _)
  | uncreated failed =>
      obtain ⟨is, input, begun, -⟩ := client
      rw [is] at known
      simp [onSession, begun, failed, Except.toOption] at known
  | @created boot request plan answer other made =>
      obtain ⟨is, input, begun, -⟩ := client
      subst is
      have now : onSession entry ([.poll boot] ++ [.created answer]) = some other := by
        simp [onSession, begun, made, Except.toOption]
      obtain rfl : other = session := Option.some.inj (now.symm.trans known)
      obtain ⟨uploadId, rfl, rfl⟩ := PresignedMultipartBuilder.created_eq_ok_iff.mp made
      exact Or.inr ⟨boot, request, plan, input, uploadId, by simp, begun, rfl, answered _ rfl⟩
  | inner moved unsettled => exact Or.inl (same _ client.1)
  | settled moved finished left => exact Or.inl (same _ client.1)
  | cancelled token left => exact Or.inl (same _ client.1)
  | aborted => exact Or.inl (same _ client.1)

theorem madeBy_of_team
    (run : (callTeam crates calls scheme).net.Reaches
      (TeamNet.start (fun _ => .ready) remote) history net) (i : ι)
    (fresh : ∀ boot other, ((calls i).entry crates).start boot ≠ .resumed other)
    {session : PresignedMultipart} (works : WorksOn crates calls history i session) :
    MadeBy ((calls i).entry crates) (memberHistory i history).events (net.answers i) session := by
  induction run generalizing session with
  | refl => cases works
  | @snoc history s event s' out before taken ih =>
      rcases Team.net_step_cases taken with ⟨j, e, client, rfl, answered, stepped, rfl⟩ |
        ⟨j, _, choice, effect, server, response, rfl, -, -, -, rfl⟩
      · by_cases same : j = i
        · subst same
          rw [memberHistory_append, memberHistory_self, History.events_append,
            History.events_singleton]
          simp only [WorksOn, memberHistory_append, memberHistory_self, History.events_append,
            History.events_singleton] at works
          rcases madeBy_of_step fresh (clientInvariant_of_team before j) answered stepped works with
            was | now
          · exact (ih was).mono (fun _ => List.mem_append_left _) (fun _ => id)
          · exact now
        · rw [WorksOn, memberHistory_append, memberHistory_other same, List.append_nil] at works
          rw [memberHistory_append, memberHistory_other same, List.append_nil]
          exact ih works
      · rw [WorksOn, memberHistory_append, memberHistory_serve, List.append_nil] at works
        rw [memberHistory_append, memberHistory_serve, List.append_nil]
        exact (ih works).mono (fun _ => id)
          (fun _ earlier => mem_update_append.mpr (Or.inl earlier))

/-- A result is made when the completion is answered, and has the size of the plan. -/
theorem UploadCall.fileSize_of_finished {call : UploadCall} {boot : call.Boot}
    {session : PresignedMultipart} {inner next : call.Inner} {event : call.InnerEvent}
    {out : List Effect} {result : ManagedUploadResult}
    (moved : ((call.entry crates).machine boot session).step inner event = some (next, out))
    (finished : (call.entry crates).ending next = some (.finished (.ok result))) :
    result.fileSize = session.plan.fileSize := by
  have ends := (UploadCall.entry_disciplined crates call).step _ _ _ _ _ _ moved
  rw [finished] at ends
  generalize was : (call.entry crates).ending inner = ending at ends
  generalize (call.entry crates).consumes session inner event = handed at ends
  have answered : ∀ request uploadedParts reusedParts answer,
      Ending.onCompleted session uploadedParts reusedParts answer = .finished (.ok result) →
      ending = some (.completing request uploadedParts reusedParts) →
      result.fileSize = session.plan.fileSize := by
    intro request uploadedParts reusedParts answer is _
    unfold Ending.onCompleted at is
    split at is
    · cases is
    · cases is
      rfl
  cases ends with
  | completes =>
      cases call with
      | file builder =>
          cases inner with
          | ending last =>
              obtain rfl := Option.some.inj was
              cases Transfer.runStep_of_step moved with
              | completed => exact answered _ _ _ _ (Option.some.inj finished) rfl
          | ready => cases was
          | listing state => cases was
          | uploading reused queue uploads => cases was
          | checking manifest uploadedCount reusedCount => cases was
      | stream builder content fileSize =>
          cases inner with
          | ending last =>
              obtain rfl := Option.some.inj was
              cases Transfer.streamStep_of_step moved with
              | completed => exact answered _ _ _ _ (Option.some.inj finished) rfl
          | running pipeline => cases was

theorem call_fileSize {call : UploadCall} {events : List (CallEvent call.Boot call.InnerEvent)}
    {sent out : List Effect} {answers : List (Effect × Response)}
    {s : CallState call.Boot call.Inner} {event : CallEvent call.Boot call.InnerEvent}
    {result : ManagedUploadResult}
    (client : ClientInvariant (call.entry crates) events sent answers s)
    (taken : (managedCall call.builder (call.entry crates)).step s event =
      some (.returned (.ok result), out)) :
    ∃ session, onSession (call.entry crates) events = some session ∧
      result.fileSize = session.plan.fileSize := by
  generalize last : CallState.returned (.ok result) = state at taken
  cases callStep_of_step taken with
  | failed failed => cases last
  | create new => cases last
  | resume resumed => cases last
  | uncreated failed => cases last
  | created made => cases last
  | inner moved unsettled => cases last
  | settled moved finished left =>
      rename_i outcome sent'
      cases outcome with
      | ok other =>
          cases left
          cases last
          exact ⟨_, client.1, UploadCall.fileSize_of_finished moved finished⟩
      | error fault =>
          cases fault with
          | panic site =>
              cases left
              cases last
          | error error =>
              subst last
              simp only [settle, afterStartError] at left
              split at left <;> cases left
  | cancelled token left =>
      subst last
      unfold afterStartError at left
      split at left <;> cases left
  | aborted => cases last

/-- A result of a member of a team has the size of the session it works on. -/
theorem fileSize_of_team
    (run : (callTeam crates calls scheme).net.Reaches
      (TeamNet.start (fun _ => .ready) remote) history net) :
    ∀ i result, net.clients i = .returned (.ok result) → ∃ session,
      WorksOn crates calls history i session ∧ result.fileSize = session.plan.fileSize := by
  induction run with
  | refl => exact fun i result => nofun
  | snoc before taken ih =>
      intro i result returned
      rcases Team.net_step_cases taken with ⟨j, e, client, rfl, -, stepped, rfl⟩ |
        ⟨j, _, choice, effect, server, response, rfl, -, -, -, rfl⟩
      · by_cases same : i = j
        · subst same
          dsimp only at returned
          rw [Function.update_self] at returned
          subst returned
          obtain ⟨session, works, size⟩ := call_fileSize (clientInvariant_of_team before i) stepped
          exact ⟨session, WorksOn.mono works, size⟩
        · dsimp only at returned
          rw [Function.update_of_ne same] at returned
          obtain ⟨session, works, size⟩ := ih i result returned
          exact ⟨session, works.mono, size⟩
      · obtain ⟨session, works, size⟩ := ih i result returned
        exact ⟨session, works.mono, size⟩

end OwnSession

section Sole

variable {crates : Crates} {scheme : EtagScheme} {managed : ManagedMultipartBuilder}
  {content : List UInt8} {account now : Account}

/-- A team of one upload of a file. -/
abbrev sole (managed : ManagedMultipartBuilder) : Unit → UploadCall := fun _ => .file managed

variable {history : History (TeamEvent Unit (CallEvents (sole managed)) Choice) Effect}
  {net : TeamNet Unit (CallStates (sole managed)) Effect Response Remote}

/-- A new upload has its session from its own request, for the size of the content. -/
theorem session_of_sole (fresh : managed.resume = none)
    (finds : ∀ event ∈ (memberHistory () history).events, CallEvent.Finds content event)
    (run : (callTeam crates (sole managed) scheme).net.Reaches
      (TeamNet.start (fun _ => .ready) account.remote) history net)
    {session : PresignedMultipart} (works : WorksOn crates (sole managed) history () session) :
    ∃ input, (.create input, .createMultipartUpload (some session.uploadId)) ∈ net.answers () ∧
      session.address = input.address session.uploadId ∧
      session.address.place = (managed.bucket.value, managed.key) ∧
      input.headers = managed.options.applyTo ∧
      input.metadata = managed.options.customMetadataValues ∧
      session.plan.fileSize = content.length := by
  have begins : ∀ boot other, (uploadFile crates managed).start boot ≠ .resumed other := by
    intro boot other resumed
    have saved := uploadFile_faithful.resumed boot other resumed
    rw [fresh] at saved
    cases saved
  obtain ⟨boot, request, plan, input, uploadId, polled, begun, rfl, told⟩ :=
    madeBy_of_team run () begins works
  obtain ⟨file, reached⟩ := ManagedMultipartBuilder.reaches_of_beginFile
    (show ∀ error, managed.beginFile crates boot.metadata boot.cancelled ≠ .failed error by
      intro error failed
      cases failed.symm.trans begun)
  have new := ManagedMultipartBuilder.beginFile_of_reaches reached
  rw [fresh] at new
  have begun' : managed.beginNew crates file.len = .creating request plan input :=
    new.symm.trans begun
  obtain ⟨bucket_eq, key_eq, size_eq, -⟩ := ManagedMultipartBuilder.request_of_beginNew begun'
  have options_eq := ManagedMultipartBuilder.options_of_beginNew begun'
  refine ⟨request.createInput, told, rfl, ?_, ?_, ?_, ?_⟩
  · show (request.bucket.value, request.key.value) = _
    rw [bucket_eq, key_eq]
  · rw [← options_eq]
    rfl
  · rw [← options_eq]
    rfl
  · exact size_eq.trans (finds _ polled file reached.2.1)

/-- What a new upload of the content leaves is the whole content, at its own place. -/
theorem left_of_sole (fresh : managed.resume = none)
    (finds : ∀ event ∈ (memberHistory () history).events, CallEvent.Finds content event)
    (run : (callTeam crates (sole managed) scheme).net.Reaches
      (TeamNet.start (fun _ => .ready) account.remote) history net)
    (ledger : Ledger account now (net.answers ())) (same : now.remote = net.server)
    {place : String × String} (left : now.LeftBy (net.answers ()) place) :
    place = (managed.bucket.value, managed.key) ∧
      now.objects place = some
        ⟨content, managed.options.applyTo, managed.options.customMetadataValues⟩ := by
  obtain ⟨address, parts, etag, object, answered, rfl, committed, is⟩ := left
  obtain ⟨session, works, addressed⟩ :=
    sent_within_of_team run () _ (Team.answers_sent run () _ answered)
  obtain rfl : address = session.address := addressed
  obtain ⟨input, told, named, place_eq, headers_eq, metadata_eq, size⟩ :=
    session_of_sole fresh finds run works
  obtain ⟨absent, -, input_eq⟩ := ledger.created input _ told
  rw [← named] at absent input_eq
  have empty : HoldsOnly session content account.remote := by
    constructor
    · intro stored found
      rw [absent] at found
      cases found
    · intro object committed
      rw [Remote.status, absent] at committed
      cases committed
  have agree : Agree crates (sole managed) session content history := by
    intro i other works' _
    obtain rfl : session = other := Option.some.inj (works.symm.trans works')
    exact ⟨rfl, fun event member => finds _ member⟩
  have team := teamHolds_of_reaches size.symm empty agree run
  rw [same] at committed
  obtain rfl := team.server.object object committed
  refine ⟨place_eq, ?_⟩
  rw [is, input_eq, CreateMultipartUploadInput.stored, flatMap_wholeObject size.symm, headers_eq,
    metadata_eq]

end Sole

section SendProtocol

variable {crates : Crates} {builder : UploadFileBuilder} {scheme : EtagScheme}
  {content : List UInt8} {account : Account} {key : ObjectKey} {managed : ManagedMultipartBuilder}

/-- The multipart branch waits for what the call waits for, and sends what it sends. -/
theorem send_onCall {call : CallState FileBoot RunState} {event : SendEvent} {after : SendState}
    {out : List SendEffect}
    (taken : (send crates builder).step (onCall key managed call) event = some (after, out)) :
    ∃ e next sent, event = .call e ∧
      (managedCall managed (uploadFile crates managed)).step call e = some (next, sent) ∧
      after = onCall key managed next ∧ out = sent.map SendEffect.ofManaged ∧
      sendConsumes crates builder (onCall key managed call) event =
        (callConsumes (uploadFile crates managed) call e).map
          (Prod.map SendEffect.ofManaged StoreAnswer.managed) := by
  have going : ∀ call', onCall key managed call = .multipart key managed call' → call' = call →
      ∃ e next sent, event = .call e ∧
        (managedCall managed (uploadFile crates managed)).step call e = some (next, sent) ∧
        after = onCall key managed next ∧ out = sent.map SendEffect.ofManaged ∧
        sendConsumes crates builder (onCall key managed call) event =
          (callConsumes (uploadFile crates managed) call e).map
            (Prod.map SendEffect.ofManaged StoreAnswer.managed) := by
    rintro call' is rfl
    rw [is] at taken ⊢
    cases sendStep_of_step taken with
    | call moved => exact ⟨_, _, _, rfl, moved, rfl, rfl, rfl⟩
  cases call with
  | ready => exact going _ rfl rfl
  | creating boot request plan => exact going _ rfl rfl
  | running boot session inner => exact going _ rfl rfl
  | aborting session error => exact going _ rfl rfl
  | returned result => cases result <;> cases sendStep_of_step taken
  | panicked site => cases sendStep_of_step taken

/-- Messages that are answered stay apart in the form that `send` gives them. -/
theorem ofManaged_inj {first second : Effect} (served : ∀ progress, second ≠ .report progress)
    (same : SendEffect.ofManaged first = SendEffect.ofManaged second) : first = second := by
  cases second with
  | report progress => exact absurd rfl (served progress)
  | create input =>
      cases first with
      | create other =>
          cases same
          rfl
      | send request => cases same
      | report progress => cases same
  | send request =>
      cases first with
      | send other =>
          cases same
          rfl
      | create input => cases same
      | report progress => cases same

/-- The multipart branch as a run of its upload alone, with the same messages and answers. -/
structure Inside (crates : Crates) (scheme : EtagScheme) (account : Account) (key : ObjectKey)
    (managed : ManagedMultipartBuilder)
    (history : History (TeamEvent Unit (CallEvents (sole managed)) Choice) Effect)
    (team : TeamNet Unit (CallStates (sole managed)) Effect Response Remote)
    (net : Net SendState SendEffect StoreAnswer Account) : Prop where
  run : (callTeam crates (sole managed) scheme).net.Reaches
    (TeamNet.start (fun _ => .ready) account.remote) history team
  client : net.client = onCall key managed (team.clients ())
  sent : net.sent = (team.sent ()).map SendEffect.ofManaged
  answers : net.answers =
    (team.answers ()).map (Prod.map SendEffect.ofManaged StoreAnswer.managed)
  server : net.server.remote = team.server
  ledger : Ledger account net.server (team.answers ())

section Inside

variable {history : History (TeamEvent Unit (CallEvents (sole managed)) Choice) Effect}
  {team : TeamNet Unit (CallStates (sole managed)) Effect Response Remote}
  {net : Net SendState SendEffect StoreAnswer Account}

theorem Inside.client_step {event : SendEvent} {client : SendState} {out : List SendEffect}
    (inside : Inside crates scheme account key managed history team net)
    (answered : ∀ answer, sendConsumes crates builder net.client event = some answer →
      answer ∈ net.answers)
    (taken : (send crates builder).step net.client event = some (client, out)) :
    ∃ e sent team', event = .call e ∧
      Inside crates scheme account key managed (history ++ [(.client () e, sent)]) team'
        { net with client, sent := net.sent ++ out } := by
  rw [inside.client] at taken answered
  obtain ⟨e, next, sent, rfl, moved, rfl, rfl, consumes⟩ := send_onCall taken
  have told : ∀ answer, (callTeam crates (sole managed) scheme).consumes () (team.clients ()) e =
      some answer → answer ∈ team.answers () := by
    intro answer hands
    have hands' : callConsumes (uploadFile crates managed) (team.clients ()) e = some answer :=
      hands
    rw [hands'] at consumes
    have member := answered _ consumes
    rw [inside.answers] at member
    obtain ⟨other, among, same⟩ := List.mem_map.mp member
    simp only [Prod.map, Prod.mk.injEq, StoreAnswer.managed.injEq] at same
    obtain ⟨effect_eq, response_eq⟩ := same
    have equal := ofManaged_inj (inside.ledger.served other among) effect_eq.symm
    obtain rfl : answer = other := Prod.ext equal response_eq.symm
    exact among
  refine ⟨e, sent, _, rfl, inside.run.snoc (Team.client_step told moved), ?_, ?_, ?_, ?_, ?_⟩
  · dsimp only
    rw [Function.update_self]
  · dsimp only
    rw [Function.update_self, List.map_append, inside.sent]
  · exact inside.answers
  · exact inside.server
  · exact inside.ledger

theorem Inside.serve_step {index : Nat} {choice : StoreChoice} {msg : SendEffect}
    {server : Account} {answer : StoreAnswer}
    (inside : Inside crates scheme account key managed history team net)
    (sent : net.sent[index]? = some msg)
    (served : net.server.serve scheme msg choice = some (server, answer)) :
    ∃ choice' team',
      Inside crates scheme account key managed (history ++ [(.serve () index choice', [])]) team'
        { net with server, answers := net.answers ++ [(msg, answer)] } := by
  rw [inside.sent, List.getElem?_map] at sent
  obtain ⟨effect, at_index, rfl⟩ := Option.map_eq_some_iff.mp sent
  generalize is : SendEffect.ofManaged effect = msg at served
  cases Account.serves_of_serve served with
  | put length => cases effect <;> cases is
  | deleted => cases effect <;> cases is
  | @managed other choice' response next acted =>
      have before := acted
      unfold Account.serveManaged at acted
      split at acted
      · cases acted
      · rename_i remote told stored
        cases acted
        obtain rfl : effect = other := by
          refine ofManaged_inj ?_ is
          rintro progress rfl
          cases stored
        rw [inside.server] at stored
        refine ⟨choice', _, inside.run.snoc (Team.serve_step at_index stored), ?_, ?_, ?_, rfl, ?_⟩
        · exact inside.client
        · exact inside.sent
        · dsimp only
          rw [Function.update_self, List.map_append, inside.answers]
          rfl
        · dsimp only
          rw [Function.update_self]
          exact inside.ledger.serve before

end Inside

/-- Where a single PUT is, by what was sent and answered. -/
def AtPut (builder : UploadFileBuilder) (content : List UInt8) (key : ObjectKey)
    (sent : List SendEffect) (answers : List (SendEffect × StoreAnswer)) : SendState → Prop
  | .opening other file => other = key ∧ file.len = content.length ∧ sent = []
  | .putting other file _ => other = key ∧ file.len = content.length ∧
      .delete builder.bucket.value key.value ∉ sent
  | .checking other file _ => other = key ∧ file.len = content.length ∧
      .delete builder.bucket.value key.value ∉ sent ∧ answers ≠ []
  | .deleting other => other = key
  | .returned (.ok result) => result.key = key ∧ result.size = content.length ∧
      .delete builder.bucket.value key.value ∉ sent ∧ answers ≠ []
  | .returned (.error _) => True
  | _ => False

/-- A single PUT: what was sent, what stands at the place, and where the call is. -/
structure Putting (builder : UploadFileBuilder) (content : List UInt8) (account : Account)
    (key : ObjectKey) (net : Net SendState SendEffect StoreAnswer Account) : Prop where
  sent : ∀ msg ∈ net.sent, (∃ progress, msg = .report progress) ∨
    msg = .delete builder.bucket.value key.value ∨
    ∃ input, msg = .put input ∧ input.place = builder.place key ∧
      ∀ body, input.stored body = builder.written body
  elsewhere : ∀ place, place ≠ builder.place key →
    net.server.objects place = account.objects place
  here : net.server.objects (builder.place key) = account.objects (builder.place key) ∧
      net.answers = [] ∨
    net.server.objects (builder.place key) = some (builder.written content) ∨
    net.server.objects (builder.place key) = none ∧
      .delete builder.bucket.value key.value ∈ net.sent
  client : AtPut builder content key net.sent net.answers net.client

section Putting

variable {net : Net SendState SendEffect StoreAnswer Account}

theorem place_putObjectInput {bucket : BucketName} {length : Nat}
    {options : ObjectUploadOptions} :
    (putObjectInput bucket key length options).place = (bucket.value, key.value) := by
  unfold putObjectInput
  cases options.checksumValue with
  | none => rfl
  | some given =>
      obtain ⟨algorithm, value⟩ := given
      cases algorithm <;> rfl

theorem place_of_stream {length : Nat} {input : PutObjectInput}
    (accepted : putStreamWithOptions crates builder.bucket (.ok key) length builder.options =
      .ok input) : input.place = builder.place key := by
  obtain ⟨valid, same, -, -, -, rfl⟩ := putStreamWithOptions_eq_ok_iff.mp accepted
  cases same
  exact place_putObjectInput

theorem place_of_bytes {input : PutObjectInput}
    (accepted : putBytesWithOptions crates builder.bucket (.ok key) content builder.options =
      .ok input) : input.place = builder.place key := by
  obtain ⟨options, -, sent⟩ := bind_eq_ok_iff.mp accepted
  obtain ⟨valid, same, -, -, -, rfl⟩ := putStreamWithOptions_eq_ok_iff.mp sent
  cases same
  exact place_putObjectInput

/-- The PUT that passed its checks is sent, or the call has failed. -/
theorem Putting.sendPut {file : Metadata} {checked : Except Error PutObjectInput}
    {client : SendState} {out : List SendEffect} {answers : List (SendEffect × StoreAnswer)}
    {server : Account}
    (putting : Putting builder content account key ⟨.opening key file, [], answers, server⟩)
    (carries : ∀ input, checked = .ok input → input.place = builder.place key ∧
      ∀ body, input.stored body = builder.written body)
    (sends : R2kit.sendPut key file checked = (client, out)) :
    Putting builder content account key ⟨client, out, answers, server⟩ := by
  obtain ⟨-, elsewhere, here, -, size, -⟩ := putting
  have undeleted : .delete builder.bucket.value key.value ∉ ([] : List SendEffect) :=
    List.not_mem_nil
  rcases sendPut_cases sends with ⟨error, rfl, rfl⟩ | ⟨input, accepted, rfl, rfl⟩
  · exact ⟨List.forall_mem_nil _, elsewhere, here, trivial⟩
  · obtain ⟨place, stored⟩ := carries input accepted
    refine ⟨List.forall_mem_singleton.mpr (Or.inr (Or.inr ⟨input, rfl, place, stored⟩)),
      elsewhere, ?_, rfl, size, by simp⟩
    rcases here with same | whole | ⟨-, deleted⟩
    · exact Or.inl same
    · exact Or.inr (Or.inl whole)
    · exact absurd deleted undeleted

/-- An event of a single PUT. -/
theorem Putting.client_step {event : SendEvent} {client : SendState} {out : List SendEffect}
    (putting : Putting builder content account key net)
    (answered : ∀ answer, sendConsumes crates builder net.client event = some answer →
      answer ∈ net.answers)
    (taken : (send crates builder).step net.client event = some (client, out)) :
    Putting builder content account key { net with client, sent := net.sent ++ out } := by
  obtain ⟨state, messages, answers, server⟩ := net
  have whole := putting
  obtain ⟨sent, elsewhere, here, where_is⟩ := putting
  dsimp only at taken answered sent elsewhere here where_is ⊢
  have stood : ∀ more, server.objects (builder.place key) = account.objects (builder.place key) ∧
        answers = [] ∨
      server.objects (builder.place key) = some (builder.written content) ∨
      server.objects (builder.place key) = none ∧
        .delete builder.bucket.value key.value ∈ messages ++ more := by
    intro more
    rcases here with same | delivered | ⟨gone, deleted⟩
    · exact Or.inl same
    · exact Or.inr (Or.inl delivered)
    · exact Or.inr (Or.inr ⟨gone, List.mem_append_left _ deleted⟩)
  have failing : ∀ error, Putting builder content account key
      ⟨.failed error, messages ++ [], answers, server⟩ := by
    intro error
    rw [List.append_nil]
    exact ⟨sent, elsewhere, here, trivial⟩
  cases sendStep_of_step taken with
  | start begun => exact where_is.elim
  | @opened other file state out sends =>
      obtain ⟨rfl, size, rfl⟩ := where_is
      exact whole.sendPut (fun input accepted => ⟨place_of_stream accepted,
        stored_of_stream accepted⟩) sends
  | unopened => exact failing _
  | putFailed failed => exact failing _
  | put length =>
      obtain ⟨rfl, size, undeleted⟩ := where_is
      rw [List.append_nil]
      refine ⟨sent, elsewhere, here, rfl, size, undeleted, ?_⟩
      exact List.ne_nil_of_mem (answered _ rfl)
  | cancelled token => exact failing _
  | @checked other file etag metadata state out found =>
      obtain ⟨rfl, size, undeleted, told⟩ := where_is
      unfold checkSource at found
      split at found
      · cases found
        exact failing _
      · split at found
        · cases found
          refine ⟨?_, elsewhere, stood _, rfl⟩
          exact List.forall_mem_append.mpr
            ⟨sent, List.forall_mem_singleton.mpr (Or.inr (Or.inl rfl))⟩
        · cases found
          have reports : ∀ msg ∈ (if builder.progress then
              [SendEffect.report ⟨file.len, file.len, false⟩] else []),
              ∃ progress, msg = .report progress := by
            intro msg member
            split at member
            · exact ⟨_, List.mem_singleton.mp member⟩
            · cases member
          refine ⟨List.forall_mem_append.mpr ⟨sent, fun msg member => Or.inl (reports msg member)⟩,
            elsewhere, stood _, rfl, size, ?_, told⟩
          rw [List.mem_append, not_or]
          refine ⟨undeleted, fun member => ?_⟩
          obtain ⟨progress, other⟩ := reports _ member
          cases other
  | deleted => exact failing _
  | call moved => exact where_is.elim

/-- Another answer changes nothing for the call. -/
theorem AtPut.answered {sent : List SendEffect} {answers : List (SendEffect × StoreAnswer)}
    {state : SendState} (where_is : AtPut builder content key sent answers state)
    (answer : SendEffect × StoreAnswer) :
    AtPut builder content key sent (answers ++ [answer]) state := by
  have told : answers ++ [answer] ≠ [] := by simp
  cases state with
  | opening other file => exact where_is
  | putting other file input => exact where_is
  | checking other file etag => exact ⟨where_is.1, where_is.2.1, where_is.2.2.1, told⟩
  | deleting other => exact where_is
  | returned result =>
      cases result with
      | ok result => exact ⟨where_is.1, where_is.2.1, where_is.2.2.1, told⟩
      | error error => trivial
  | ready => exact where_is.elim
  | multipart other managed call => exact where_is.elim
  | panicked site => exact where_is.elim

/-- A message of a single PUT arriving. -/
theorem Putting.serve_step {choice : StoreChoice} {msg : SendEffect} {server : Account}
    {answer : StoreAnswer} (putting : Putting builder content account key net)
    (steady : ∀ body etag, choice = .put body etag → body = content) (among : msg ∈ net.sent)
    (served : net.server.serve scheme msg choice = some (server, answer)) :
    Putting builder content account key
      { net with server, answers := net.answers ++ [(msg, answer)] } := by
  obtain ⟨state, messages, answers, before⟩ := net
  obtain ⟨sent, elsewhere, here, where_is⟩ := putting
  dsimp only at among served sent elsewhere here where_is ⊢
  have client := where_is.answered (msg, answer)
  cases Account.serves_of_serve served with
  | put length =>
      rcases sent _ among with ⟨progress, other⟩ | other | ⟨input, same, place, stored⟩
      · cases other
      · cases other
      · cases same
        obtain rfl := steady _ _ rfl
        refine ⟨sent, ?_, Or.inr (Or.inl ?_), client⟩
        · intro other different
          dsimp only
          rw [place, Function.update_of_ne different]
          exact elsewhere other different
        · dsimp only
          rw [place, Function.update_self, stored]
  | deleted =>
      rcases sent _ among with ⟨progress, other⟩ | same | ⟨input, other, -⟩
      · cases other
      · cases same
        refine ⟨sent, ?_, Or.inr (Or.inr ⟨Function.update_self _ _ _, among⟩), client⟩
        intro other different
        exact (Function.update_of_ne different _ _).trans (elsewhere other different)
      · cases other
  | managed acted =>
      rename_i effect _ _
      rcases sent _ among with ⟨progress, same⟩ | other | ⟨input, other, -⟩
      · cases effect with
        | report progress => cases acted
        | create input => cases same
        | send request => cases same
      · cases effect <;> cases other
      · cases effect <;> cases other

end Putting

section Whole

/-- The invariant of a call to `send` on an account: it has not begun, it is a single PUT, or
    it is a new upload in parts. -/
inductive Sending (crates : Crates) (builder : UploadFileBuilder) (scheme : EtagScheme)
    (content : List UInt8) (account : Account) (key : ObjectKey) :
    Net SendState SendEffect StoreAnswer Account → Prop
  | ready : Sending crates builder scheme content account key (Net.start .ready account)
  | putting {net} (put : Putting builder content account key net) :
      Sending crates builder scheme content account key net
  | inside {partSize upload history team net}
      (made : builder.managed key partSize = .ok upload)
      (within : Inside crates scheme account key upload history team net)
      (finds : ∀ event ∈ (memberHistory () history).events, CallEvent.Finds content event) :
      Sending crates builder scheme content account key net

variable {net : Net SendState SendEffect StoreAnswer Account}

/-- What the multipart branch goes on with is new, and has the place and the options of
    `send`. -/
theorem upload_of_managed {partSize : Nat} (made : builder.managed key partSize = .ok managed)
    (content : List UInt8) :
    managed.resume = none ∧ (managed.bucket.value, managed.key) = builder.place key ∧
      StoredObject.mk content managed.options.applyTo managed.options.customMetadataValues =
        builder.written content := by
  obtain ⟨new, begun, same⟩ := bind_eq_ok_iff.mp made
  cases begun
  cases same
  exact ⟨rfl, rfl, rfl⟩

/-- A result of the multipart branch is that of its upload. -/
theorem returned_of_onCall {call : CallState FileBoot RunState} {result : TransferResult}
    (returned : onCall key managed call = .returned (.ok result)) :
    ∃ inner, call = .returned (.ok inner) ∧ result = {
      key
      etag := inner.object.etag.getD ""
      size := inner.fileSize
      strategy := .multipart inner.partCount } := by
  cases call with
  | returned outcome =>
      cases outcome with
      | ok inner =>
          cases returned
          exact ⟨inner, rfl, rfl⟩
      | error failure => cases returned
  | ready => cases returned
  | creating boot request plan => cases returned
  | running boot session inner => cases returned
  | aborting session error => cases returned
  | panicked site => cases returned

/-- The start of `send`. -/
theorem sending_begin {cancelled : Bool} {metadata : Option Metadata} {client : SendState}
    {out : List SendEffect} (given : builder.key = .ok key)
    (steady : ∀ file, metadata = some file → file.len = content.length)
    (begun : beginSend crates builder cancelled metadata = (client, out)) :
    Sending crates builder scheme content account key ⟨client, out, [], account⟩ := by
  have failing : ∀ error, Sending crates builder scheme content account key
      ⟨.failed error, [], [], account⟩ := fun error =>
    .putting ⟨List.forall_mem_nil _, fun _ _ => rfl, Or.inl ⟨rfl, rfl⟩, trivial⟩
  rcases beginSend_cases begun with ⟨error, rfl, rfl⟩ | ⟨other, file, rfl, -, same, dispatched⟩
  · exact failing error
  · obtain rfl : key = other := Except.ok.inj (given.symm.trans same)
    have opening : Putting builder content account key ⟨.opening key file, [], [], account⟩ :=
      ⟨List.forall_mem_nil _, fun _ _ => rfl, Or.inl ⟨rfl, rfl⟩, rfl, steady file rfl, rfl⟩
    unfold dispatch at dispatched
    split at dispatched
    · exact .putting (opening.sendPut (fun input accepted => ⟨place_of_bytes accepted,
        stored_of_bytes accepted⟩) dispatched)
    · cases dispatched
      exact .putting opening
    · split at dispatched
      · cases dispatched
        exact failing _
      · rename_i partSize _ managed made
        cases dispatched
        exact .inside made ⟨.refl, rfl, rfl, rfl, rfl, ledger_start⟩ (List.forall_mem_nil _)

theorem sending_step {after : Net SendState SendEffect StoreAnswer Account}
    {event : NetEvent SendEvent StoreChoice Empty} {out : List SendEffect}
    (given : builder.key = .ok key) (steady : Steady content event)
    (sending : Sending crates builder scheme content account key net)
    (taken : (sendProtocol crates builder scheme).net.step net event = some (after, out)) :
    Sending crates builder scheme content account key after := by
  rcases Protocol.net_step_cases taken with ⟨e, client, rfl, allowed, stepped, rfl⟩ |
    ⟨index, choice, msg, server, answer, rfl, among, served, -, rfl⟩ | ⟨action, -⟩
  · have answered : ∀ answer, sendConsumes crates builder net.client e = some answer →
        answer ∈ net.answers := fun answer hands =>
      Protocol.mem_answers_of_answered allowed hands
    cases sending with
    | ready =>
        cases sendStep_of_step stepped with
        | start begun => exact sending_begin given steady begun
    | putting put => exact .putting (put.client_step answered stepped)
    | inside made within finds =>
        obtain ⟨event, sent, team, rfl, later⟩ := within.client_step answered stepped
        refine .inside made later ?_
        rw [memberHistory_append, memberHistory_self, History.events_append,
          History.events_singleton]
        exact List.forall_mem_append.mpr ⟨finds, List.forall_mem_singleton.mpr steady⟩
  · cases sending with
    | ready => cases among
    | putting put =>
        refine .putting (put.serve_step ?_ among served)
        rintro body etag rfl
        exact steady
    | inside made within finds =>
        obtain ⟨index', at_index⟩ := List.mem_iff_getElem?.mp among
        obtain ⟨choice', team, later⟩ := within.serve_step at_index served
        refine .inside made later ?_
        rw [memberHistory_append, memberHistory_serve, List.append_nil]
        exact finds
  · cases action

/-- What a completion of the upload has left is the whole content, at the place of `send`. -/
theorem Inside.left {partSize : Nat}
    {history : History (TeamEvent Unit (CallEvents (sole managed)) Choice) Effect}
    {team : TeamNet Unit (CallStates (sole managed)) Effect Response Remote}
    (within : Inside crates scheme account key managed history team net)
    (made : builder.managed key partSize = .ok managed)
    (finds : ∀ event ∈ (memberHistory () history).events, CallEvent.Finds content event)
    {place : String × String} (stood : net.server.LeftBy (team.answers ()) place) :
    place = builder.place key ∧ net.server.objects place = some (builder.written content) := by
  obtain ⟨fresh, place_eq, written_eq⟩ := upload_of_managed made content
  have whole := left_of_sole fresh finds within.run within.ledger within.server stood
  rwa [place_eq, written_eq] at whole

theorem sending_of_reaches {history : History (NetEvent SendEvent StoreChoice Empty) SendEffect}
    (given : builder.key = .ok key) (steady : ∀ event ∈ history.events, Steady content event)
    (run : (sendProtocol crates builder scheme).net.Reaches (Net.start .ready account) history
      net) : Sending crates builder scheme content account key net := by
  induction run with
  | refl => exact .ready
  | snoc before taken ih =>
      obtain ⟨earlier, now⟩ := History.forall_events_snoc.mp steady
      exact sending_step given now (ih earlier) taken

/-- No other object is touched. -/
theorem Sending.elsewhere (sending : Sending crates builder scheme content account key net)
    {place : String × String} (different : place ≠ builder.place key) :
    net.server.objects place = account.objects place := by
  cases sending with
  | ready => rfl
  | putting put => exact put.elsewhere place different
  | inside made within finds =>
      rcases within.ledger.objects place with same | now
      · exact same
      · exact absurd (within.left made finds now).1 different

/-- The object at the place is the one before, the whole content, or gone. -/
theorem Sending.here (sending : Sending crates builder scheme content account key net) :
    net.server.objects (builder.place key) = account.objects (builder.place key) ∨
      net.server.objects (builder.place key) = some (builder.written content) ∨
      net.server.objects (builder.place key) = none ∧
        .delete builder.bucket.value key.value ∈ net.sent := by
  cases sending with
  | ready => exact Or.inl rfl
  | putting put =>
      rcases put.here with ⟨same, -⟩ | other
      · exact Or.inl same
      · exact Or.inr other
  | inside made within finds =>
      rcases within.ledger.objects (builder.place key) with same | now
      · exact Or.inl same
      · exact Or.inr (Or.inl (within.left made finds now).2)

/-- A result is about the key and the content, which stands there. -/
theorem Sending.delivers (sending : Sending crates builder scheme content account key net)
    {result : TransferResult} (returned : net.client = .returned (.ok result)) :
    result.key = key ∧ result.size = content.length ∧
      net.server.objects (builder.place key) = some (builder.written content) := by
  cases sending with
  | ready => cases returned
  | putting put =>
      have where_is := put.client
      rw [returned] at where_is
      obtain ⟨key_eq, size, undeleted, told⟩ := where_is
      refine ⟨key_eq, size, ?_⟩
      rcases put.here with ⟨-, untold⟩ | whole | ⟨-, deleted⟩
      · exact absurd untold told
      · exact whole
      · exact absurd deleted undeleted
  | inside made within finds =>
      obtain ⟨inner, finished, rfl⟩ := returned_of_onCall (within.client.symm.trans returned)
      have client := clientInvariant_of_team within.run ()
      rw [finished] at client
      obtain ⟨⟨session, request, etag, known, ⟨parts, rfl⟩, told⟩, -, -⟩ := client
      obtain ⟨fresh, -, -⟩ := upload_of_managed made content
      obtain ⟨other, works, size⟩ := fileSize_of_team within.run () inner finished
      obtain ⟨-, -, -, -, -, -, planned⟩ := session_of_sole fresh finds within.run works
      have stands := within.left made finds (within.ledger.completed _ parts etag told)
      refine ⟨rfl, size.trans planned, ?_⟩
      rw [← stands.1]
      exact stands.2

/-- Past its start, a call has validated its builder or failed. -/
theorem valid_of_reaches {history : History (NetEvent SendEvent StoreChoice Empty) SendEffect}
    (run : (sendProtocol crates builder scheme).net.Reaches (Net.start .ready account) history
      net) : net.client = .ready ∨ builder.validate crates = .ok () ∨
        ∃ error, net.client = .failed error := by
  refine run.state_invariant (P := fun net => net.client = .ready ∨
    builder.validate crates = .ok () ∨ ∃ error, net.client = .failed error) (Or.inl rfl) ?_
  intro s event s' out holds taken
  rcases Protocol.net_step_cases taken with ⟨e, client, -, -, stepped, rfl⟩ |
    ⟨_, _, _, _, _, -, -, -, -, rfl⟩ | ⟨action, -⟩
  · refine Or.inr ?_
    rcases holds with ready | valid | ⟨error, failed⟩
    · rw [ready] at stepped
      cases sendStep_of_step stepped with
      | start begun =>
          rcases beginSend_cases begun with ⟨error, rfl, -⟩ | ⟨_, _, -, valid, -, -⟩
          · exact Or.inr ⟨error, rfl⟩
          · exact Or.inl valid
    · exact Or.inl valid
    · rw [failed] at stepped
      cases sendStep_of_step stepped
  · exact holds
  · cases action

/-- An adaptive upload of a file that reads as one content, on an account that nobody else
    writes to, whatever of its messages arrives when and in which state it is: no object but
    its own is touched; its own is what stood there before, or the whole content with the
    headers and the metadata of the options, or gone after a cleanup; and once `send` has
    returned a result, that is for this key and the size of the content, and the whole
    content stands there. -/
theorem send_delivers (crates : Crates) (builder : UploadFileBuilder) (scheme : EtagScheme)
    (content : List UInt8) (key : ObjectKey) (account : Account)
    (history : History (NetEvent SendEvent StoreChoice Empty) SendEffect)
    (net : Net SendState SendEffect StoreAnswer Account) (given : builder.key = .ok key)
    (steady : ∀ event ∈ history.events, Steady content event)
    (run : (sendProtocol crates builder scheme).net.Reaches (Net.start .ready account) history
      net) :
    (∀ place, place ≠ builder.place key →
      net.server.objects place = account.objects place) ∧
    (net.server.objects (builder.place key) = account.objects (builder.place key) ∨
      net.server.objects (builder.place key) = some (builder.written content) ∨
      net.server.objects (builder.place key) = none ∧
        .delete builder.bucket.value key.value ∈ net.sent) ∧
    ∀ result, net.client = .returned (.ok result) →
      result.key = key ∧ result.size = content.length ∧
        net.server.objects (builder.place key) = some (builder.written content) := by
  have sending := sending_of_reaches given steady run
  refine ⟨fun place different => ?_, ?_, fun result returned => ?_⟩
  · exact sending.elsewhere different
  · exact sending.here
  · exact sending.delivers returned

end Whole

end SendProtocol

/-- The result of a call to `send`, if it has one. -/
def SendState.result? : SendState → Option TransferResult
  | .returned (.ok result) => some result
  | _ => none

theorem returned_of_result? {state : SendState} {result : TransferResult}
    (is : state.result? = some result) : state = .returned (.ok result) := by
  unfold SendState.result? at is
  split at is
  · cases is
    rfl
  · cases is

/-- Three bytes, which a single PUT sends, and a file of three parts, both with a typed header and
    a custom entry. -/
theorem send_delivers_labelled :
    (∃ (history : History (NetEvent SendEvent StoreChoice Empty) SendEffect)
      (net : Net SendState SendEffect StoreAnswer Account),
      (sendProtocol .minimal .labelled .plain).net.Reaches (Net.start .ready .empty) history net ∧
      net.client = .returned (.ok (putResult .clip 3 none)) ∧
      net.server.objects (UploadFileBuilder.labelled.place .clip) =
        some (UploadFileBuilder.labelled.written [1, 2, 3])) ∧
    ∃ (history : History (NetEvent SendEvent StoreChoice Empty) SendEffect)
      (net : Net SendState SendEffect StoreAnswer Account),
      (sendProtocol .minimal .labelled .plain).net.Reaches (Net.start .ready .empty) history net ∧
      net.client = .returned (.ok ⟨.clip, "", 2 * minMultipartPartSize + 3, .multipart 3⟩) ∧
      net.server.objects (UploadFileBuilder.labelled.place .clip) =
        some (UploadFileBuilder.labelled.written threeContent) := by
  constructor
  · let events : List (NetEvent SendEvent StoreChoice Empty) := [
      .client (.poll false (some ⟨true, 3, some 0, 0, 0⟩)), .client (.opened true),
      .serve 0 (.put [1, 2, 3] none), .client (.put [1, 2, 3] (.ok none)),
      .client (.checked (some ⟨true, 3, some 0, 0, 0⟩))]
    have executed : (((sendProtocol .minimal .labelled .plain).net.exec (Net.start .ready .empty)
        events).map (fun final => final.2.client.result?)) =
          some (some (putResult .clip 3 none)) := by decide
    obtain ⟨⟨history, net⟩, reached, is⟩ := Option.map_eq_some_iff.mp executed
    have returned := returned_of_result? is
    have steady : ∀ event ∈ history.events, Steady [1, 2, 3] event := by
      rw [Machine.events_of_exec reached]
      intro event member
      simp only [events, List.mem_cons, List.not_mem_nil, or_false] at member
      rcases member with rfl | rfl | rfl | rfl | rfl
      · rintro file ⟨⟩
        rfl
      · trivial
      · rfl
      · trivial
      · trivial
    have run := Machine.reaches_of_exec reached
    obtain ⟨-, -, delivers⟩ := send_delivers .minimal .labelled .plain [1, 2, 3] .clip .empty
      history net rfl steady run
    exact ⟨history, net, run, returned, (delivers _ returned).2.2⟩
  · obtain ⟨history, net, run, returned, steady⟩ := reaches_labelled length_threeContent
    obtain ⟨-, -, delivers⟩ := send_delivers .minimal .labelled .plain threeContent .clip .empty
      history net rfl steady run
    exact ⟨history, net, run, returned, (delivers _ returned).2.2⟩

end R2kit
