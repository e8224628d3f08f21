import R2kit.Managed.Abort
import R2kit.Managed.Assembly
import R2kit.Managed.Succeeds

/-!
# Uploads that can still be finished

The upload of a file and the store, with messages that may be lost, late or repeated. As long
as nothing has happened that is a reason to fail, there is a way on from every state: what
`run` waits for was asked for, the session is live until the completion is asked for, and
what is stored of the file is not uploaded again. The way ends with the file in the store.
-/

namespace R2kit

open Misc

section Serving

variable {scheme : EtagScheme} {session : PresignedMultipart} {remote after : Remote}
  {stored : RemoteSession}

/-- A message that ends no session leaves a live one live. -/
theorem serve_live {effect : Effect} {choice : Choice} {response : Response} {address : Address}
    (served : remote.serve scheme effect choice = some (after, response)) (quiet : effect.Quiet)
    (live : remote.status address = some .live) : after.status address = some .live := by
  cases Remote.serves_of_serve served with
  | unnamed => exact live
  | @created input uploadId fresh =>
      by_cases same : address = ⟨input.bucket, input.key, uploadId⟩
      · rw [Remote.status, same, Function.update_self]
        rfl
      · rw [Remote.status, Function.update_of_ne same]
        exact live
  | @acted target operation before next response found serves =>
      by_cases same : address = target
      · subst same
        rw [Remote.status, found, Option.map_some] at live
        rw [Remote.status, Function.update_self, Option.map_some]
        cases serves with
        | page live listed => exact congrArg some live
        | stored live sized told => exact congrArg some live
        | committed live found => cases quiet.1
        | aborted uncommitted => cases quiet.2
      · rw [Remote.status, Function.update_of_ne same]
        exact live

theorem exists_serve_upload (scheme : EtagScheme)
    (live : remote.status session.address = some .live) (number : PartNumber)
    (body : List UInt8) :
    ∃ after, remote.serve scheme (.send (uploadPartRequest session number body))
      (.etag (some (scheme.etag body))) =
        some (after, .uploadPart (some (scheme.etag body))) := by
  obtain ⟨stored, found, is_live⟩ := Option.map_eq_some_iff.mp live
  exact ⟨_, serve_upload found is_live number body⟩

/-- The session was committed as the file. -/
def CommittedAs (session : PresignedMultipart) (content : List UInt8) (remote : Remote) : Prop :=
  ∃ object, remote.status session.address = some (.committed object) ∧
    object.flatMap Prod.snd = content

theorem CommittedAs.serve {content : List UInt8} {effect : Effect} {choice : Choice}
    {response : Response} (committed : CommittedAs session content remote)
    (served : remote.serve scheme effect choice = some (after, response)) :
    CommittedAs session content after := by
  obtain ⟨object, is, whole⟩ := committed
  refine ⟨object, ?_, whole⟩
  rcases Remote.serve_leads served session.address with same | absent | live
  · rw [same, is]
  · rw [absent] at is
    cases is
  · rw [live] at is
    cases is

/-- A completion of parts that are kept: a live session takes it, and is then the file. -/
theorem serve_completion {content : List UInt8} {completion : CompletionManifest}
    {request : Request} (size : content.length = session.plan.fileSize)
    (accepted : session.completeRequest completion = .ok request)
    (kept : ∀ part ∈ completion.parts,
      Kept scheme session content remote part.partNumber part.etag) :
    (remote.status session.address = some .live → ∃ after, remote.serve scheme (.send request)
      (.etag none) = some (after, .completeMultipartUpload none)) ∧
    ∀ choice response after, remote.serve scheme (.send request) choice = some (after, response) →
      (∃ etag, response = .completeMultipartUpload etag) ∧ CommittedAs session content after := by
  obtain ⟨numbers, rfl⟩ := PresignedMultipart.completeRequest_eq_ok_iff.mp accepted
  constructor
  · intro live
    obtain ⟨stored, found, is_live⟩ := Option.map_eq_some_iff.mp live
    obtain ⟨object, matched, -⟩ := content_of_kept size numbers found kept
    simp [Remote.serve, Remote.serveRequest, PresignedMultipart.request, found,
      RemoteSession.serve, is_live, matched]
  · intro choice response after served
    cases Remote.serves_of_serve served with
    | acted found serves =>
        cases serves with
        | @committed _ object etag live matched =>
            obtain ⟨other, same, whole⟩ := content_of_kept size numbers found kept
            obtain rfl := Option.some.inj (matched.symm.trans same)
            refine ⟨⟨etag, rfl⟩, object, ?_, whole⟩
            rw [Remote.status, Function.update_self]
            rfl

end Serving

section Asking

variable {transfer : Transfer} {fingerprint : SourceFileFingerprint} {sent out : List Effect}

/-- What `run` waits for was asked for. -/
def Asked (session : PresignedMultipart) (sent : List Effect) : RunState → Prop
  | .listing state => .send (state.request session) ∈ sent
  | .uploading _ _ uploads => ∀ task ∈ uploads.inFlight, ∀ body attempt,
      task.phase = .requesting body attempt →
        .send (uploadPartRequest session task.number body) ∈ sent
  | .ending (.completing request _ _) => .send request ∈ sent
  | .ready | .checking _ _ _ | .ending (.finished _) => True

theorem asked_afterUploads {session : PresignedMultipart} {reused : PartMap}
    {queue : List (PartNumber × Nat)} {uploads : Uploads}
    (asked : ∀ task ∈ uploads.inFlight, ∀ body attempt, task.phase = .requesting body attempt →
      .send (uploadPartRequest session task.number body) ∈ sent) :
    Asked session sent (Transfer.afterUploads reused queue uploads) := by
  unfold Transfer.afterUploads
  split
  · trivial
  · exact asked

theorem asked_prepare {existing : List UploadedPart} :
    Asked transfer.session sent (transfer.prepare existing).1 := by
  unfold Transfer.prepare
  split
  · trivial
  · split
    · trivial
    · exact asked_afterUploads (List.forall_mem_nil _)

theorem asked_step {s s' : RunState} {event : RunEvent} (asked : Asked transfer.session sent s)
    (taken : (transfer.runFile fingerprint).step s event = some (s', out)) :
    Asked transfer.session (sent ++ out) s' := by
  cases Transfer.runStep_of_step taken with
  | list resumed => exact List.mem_append_right _ (List.mem_singleton_self _)
  | fresh new => exact asked_prepare
  | unlisted failed => trivial
  | page accepted => exact List.mem_append_right _ (List.mem_singleton_self _)
  | lastPage accepted => exact asked_prepare
  | start room =>
      intro task member body attempt phase
      rcases List.mem_append.mp member with before | new
      · exact List.mem_append_left _ (asked task before body attempt phase)
      · rw [List.mem_singleton.mp new] at phase
        cases phase
  | partFailed failed => trivial
  | part moved =>
      obtain ⟨before, task, after, shape, rfl, ⟨next, stepped, rfl⟩ | ⟨part, -, rfl, -⟩⟩ :=
        Uploads.running_cases moved
      · refine asked_afterUploads ?_
        intro other member body attempt phase
        rcases List.mem_append.mp member with first | rest
        · exact List.mem_append_left _ (asked other
            ((Uploads.mem_inFlight_iff shape).mpr (Or.inr (Or.inl first))) body attempt phase)
        · rcases List.mem_cons.mp rest with rfl | last
          · rcases PartTask.pending_cases stepped with ⟨_, _, -, -, -, rfl, rfl⟩ |
              ⟨_, _, _, _, _, -, -, -, rfl, -⟩ | ⟨_, _, _, -, -, rfl, rfl⟩
            · cases phase
              exact List.mem_append_right _ (List.mem_singleton_self _)
            · cases phase
            · cases phase
              exact List.mem_append_right _ (List.mem_singleton_self _)
          · exact List.mem_append_left _ (asked other
              ((Uploads.mem_inFlight_iff shape).mpr (Or.inr (Or.inr last))) body attempt phase)
      · refine asked_afterUploads ?_
        intro other member body attempt phase
        refine List.mem_append_left _ (asked other ?_ body attempt phase)
        exact (Uploads.mem_inFlight_iff shape).mpr (Or.inr (List.mem_append.mp member))
  | changed differs => trivial
  | @unchanged manifest uploadedCount reusedCount metadata same =>
      rcases Ending.start_cases transfer.session manifest uploadedCount reusedCount with
        ⟨error, started⟩ | ⟨completion, request, -, started⟩
      · rw [started]
        trivial
      · rw [started]
        exact List.mem_append_right _ (List.mem_singleton_self _)
  | @completed request uploadedParts reusedParts answer =>
      cases answer <;> trivial

end Asking

section Standing

variable {transfer : Transfer} {fingerprint : SourceFileFingerprint} {scheme : EtagScheme}
  {session : PresignedMultipart} {content : List UInt8} {sent out : List Effect}
  {answers : List (Effect × Response)} {remote after : Remote}

/-- Nothing that ends the session was sent. -/
structure Unasked (session : PresignedMultipart) (sent : List Effect)
    (answers : List (Effect × Response)) (remote : Remote) : Prop where
  sent : ∀ effect ∈ sent, effect.Quiet
  answers : ∀ answer ∈ answers, answer.1.Quiet
  live : remote.status session.address = some .live

/-- The completion was asked for, with parts that are stored. The session is live until
    that is answered, and is the file then. -/
structure Completing (scheme : EtagScheme) (session : PresignedMultipart) (content : List UInt8)
    (request : Request) (sent : List Effect) (answers : List (Effect × Response))
    (remote : Remote) : Prop where
  accepted : ∃ completion, session.completeRequest completion = .ok request ∧
    ∀ part ∈ completion.parts, Kept scheme session content remote part.partNumber part.etag
  only : ∀ effect ∈ sent, effect = .send request ∨ effect.Quiet
  told : ∀ etag, (.send request, .completeMultipartUpload etag) ∈ answers →
    CommittedAs session content remote
  either : remote.status session.address = some .live ∨
    ∃ etag, (.send request, .completeMultipartUpload etag) ∈ answers

/-- Where the session stands, by where `run` is. -/
def Stands (scheme : EtagScheme) (session : PresignedMultipart) (content : List UInt8)
    (sent : List Effect) (answers : List (Effect × Response)) (remote : Remote) :
    RunState → Prop
  | .ready | .listing _ | .uploading _ _ _ | .checking _ _ _ =>
      Unasked session sent answers remote
  | .ending (.completing request _ _) =>
      Completing scheme session content request sent answers remote
  | .ending (.finished (.ok _)) => CommittedAs session content remote
  | .ending (.finished (.error _)) => True

/-- A state before the completion, or after an error. -/
def RunState.Early : RunState → Prop
  | .ready | .listing _ | .uploading _ _ _ | .checking _ _ _ => True
  | .ending (.completing _ _ _) | .ending (.finished (.ok _)) => False
  | .ending (.finished (.error _)) => True

theorem early_afterUploads {reused : PartMap} {queue : List (PartNumber × Nat)}
    {uploads : Uploads} : (Transfer.afterUploads reused queue uploads).Early := by
  unfold Transfer.afterUploads
  split <;> trivial

theorem early_prepare {existing : List UploadedPart} :
    (transfer.prepare existing).1.Early ∧ ∀ effect ∈ (transfer.prepare existing).2,
      effect.Quiet := by
  unfold Transfer.prepare
  split
  · exact ⟨trivial, List.forall_mem_nil _⟩
  · split
    · exact ⟨trivial, Uploads.progress_quiet⟩
    · exact ⟨early_afterUploads, Uploads.progress_quiet⟩

/-- What is sent that ends no session leaves things unasked. -/
theorem Unasked.stands {s : RunState} (unasked : Unasked session sent answers remote)
    (quiet : ∀ effect ∈ out, effect.Quiet) (early : s.Early) :
    Stands scheme session content (sent ++ out) answers remote s := by
  have next : Unasked session (sent ++ out) answers remote :=
    ⟨List.forall_mem_append.mpr ⟨unasked.sent, quiet⟩, unasked.answers, unasked.live⟩
  cases s with
  | ready => exact next
  | listing state => exact next
  | uploading reused queue uploads => exact next
  | checking manifest uploadedCount reusedCount => exact next
  | ending ending =>
      cases ending with
      | completing request uploadedParts reusedParts => exact early.elim
      | finished outcome =>
          cases outcome with
          | ok result => exact early.elim
          | error fault => trivial

theorem isCompletion_of_accepted {completion : CompletionManifest} {request : Request}
    (accepted : session.completeRequest completion = .ok request) :
    (Effect.send request).isCompletion = true := by
  obtain ⟨-, rfl⟩ := PresignedMultipart.completeRequest_eq_ok_iff.mp accepted
  rfl

/-- What `run` has when it looks at the source is stored, and is what it asks to complete. -/
theorem completing_of_checking {history : History RunEvent Effect}
    {net : Net RunState Effect Response Remote} {manifest : PartMap}
    {uploadedCount reusedCount : Nat} (system : FileSystem scheme transfer content history net)
    (checking : net.client = .checking manifest uploadedCount reusedCount)
    (unasked : Unasked transfer.session net.sent net.answers net.server) :
    ∃ request, Ending.start transfer.session manifest uploadedCount reusedCount =
        (.completing request uploadedCount reusedCount, [.send request]) ∧
      Completing scheme transfer.session content request (net.sent ++ [.send request])
        net.answers net.server := by
  have client := system.client
  rw [checking] at client
  obtain ⟨existing, uploaded, accounted, rfl, rfl, keyed, gathered, numbers⟩ := client.gathered
  obtain ⟨completion, request, parts, -, accepted, started⟩ :=
    Ending.start_of_planned keyed uploaded.length existing.length numbers
  refine ⟨request, started, ⟨completion, accepted, ?_⟩, ?_, ?_, Or.inl unasked.live⟩
  · intro part member
    rw [parts] at member
    exact system.vouched.known_of accounted (List.mem_append.mp (gathered.subset member))
  · intro effect member
    rcases List.mem_append.mp member with before | now
    · exact Or.inr (unasked.sent effect before)
    · exact Or.inl (List.mem_singleton.mp now)
  · intro etag told
    have quiet := (unasked.answers _ told).1
    rw [isCompletion_of_accepted accepted] at quiet
    cases quiet

/-- A step of `run` moves the session on at most by what it asks for. -/
theorem stands_step {history : History RunEvent Effect}
    {net : Net RunState Effect Response Remote} {client : RunState} {event : RunEvent}
    (system : FileSystem scheme transfer content history net)
    (stands : Stands scheme transfer.session content net.sent net.answers net.server net.client)
    (answered : ∀ answer, transfer.runConsumes net.client event = some answer →
      answer ∈ net.answers)
    (taken : (transfer.runFile fingerprint).step net.client event = some (client, out)) :
    Stands scheme transfer.session content (net.sent ++ out) net.answers net.server client := by
  generalize at_client : net.client = s at taken stands answered
  cases Transfer.runStep_of_step taken with
  | list resumed => exact Unasked.stands stands (List.forall_mem_singleton.mpr ⟨rfl, rfl⟩) trivial
  | fresh new => exact Unasked.stands stands early_prepare.2 early_prepare.1
  | unlisted failed => trivial
  | page accepted =>
      exact Unasked.stands stands (List.forall_mem_singleton.mpr ⟨rfl, rfl⟩) trivial
  | lastPage accepted => exact Unasked.stands stands early_prepare.2 early_prepare.1
  | start room => exact Unasked.stands stands (List.forall_mem_nil _) trivial
  | partFailed failed => trivial
  | part moved => exact Unasked.stands stands (Uploads.onTask_quiet moved) early_afterUploads
  | changed differs => trivial
  | unchanged same =>
      obtain ⟨request, started, completing⟩ := completing_of_checking system at_client stands
      rw [started]
      exact completing
  | @completed request uploadedParts reusedParts answer =>
      cases answer with
      | error error => trivial
      | ok etag => exact stands.told etag (answered _ rfl)

/-- Serving a message that was sent keeps the session where `run` takes it to be. -/
theorem stands_serve {s : RunState} {effect : Effect} {choice : Choice} {response : Response}
    (size : content.length = session.plan.fileSize)
    (holds : HoldsSlices session content remote)
    (sends : SendsSlices session content session.plan.numbers [effect])
    (stands : Stands scheme session content sent answers remote s) (was_sent : effect ∈ sent)
    (served : remote.serve scheme effect choice = some (after, response)) :
    Stands scheme session content sent (answers ++ [(effect, response)]) after s := by
  have unasked : Unasked session sent answers remote →
      Unasked session sent (answers ++ [(effect, response)]) after := by
    intro before
    have quiet := before.sent effect was_sent
    exact ⟨before.sent, List.forall_mem_append.mpr ⟨before.answers,
      List.forall_mem_singleton.mpr quiet⟩, serve_live served quiet before.live⟩
  cases s with
  | ready => exact unasked stands
  | listing state => exact unasked stands
  | uploading reused queue uploads => exact unasked stands
  | checking manifest uploadedCount reusedCount => exact unasked stands
  | ending ending =>
      cases ending with
      | finished outcome =>
          cases outcome with
          | ok result => exact CommittedAs.serve stands served
          | error fault => trivial
      | completing request uploadedParts reusedParts =>
          obtain ⟨⟨completion, accepted, kept⟩, only, told, either⟩ := stands
          obtain ⟨numbers, -⟩ := PresignedMultipart.completeRequest_eq_ok_iff.mp accepted
          have kept_after : ∀ part ∈ completion.parts,
              Kept scheme session content after part.partNumber part.etag := by
            intro part member
            refine (slices_serve holds sends served).2 _ _ ?_ (kept part member)
            rw [← numbers]
            exact List.mem_map_of_mem member
          rcases only effect was_sent with rfl | quiet
          · obtain ⟨⟨etag, rfl⟩, committed⟩ :=
              (serve_completion size accepted kept).2 choice response after served
            exact ⟨⟨completion, accepted, kept_after⟩, only, fun _ _ => committed,
              Or.inr ⟨etag, List.mem_append_right _ (List.mem_singleton_self _)⟩⟩
          · refine ⟨⟨completion, accepted, kept_after⟩, only, ?_, ?_⟩
            · intro etag member
              rcases List.mem_append.mp member with before | now
              · exact (told etag before).serve served
              · have loud := isCompletion_of_accepted accepted
                rw [(Prod.mk.inj (List.mem_singleton.mp now)).1, quiet.1] at loud
                cases loud
            · rcases either with live | ⟨etag, before⟩
              · exact Or.inl (serve_live served quiet live)
              · exact Or.inr ⟨etag, List.mem_append_left _ before⟩

end Standing

section Ways

variable {transfer : Transfer} {fingerprint : SourceFileFingerprint} {scheme : EtagScheme}
  {content : List UInt8} {history : History RunEvent Effect}
  {net : Net RunState Effect Response Remote} {event : RunEvent} {out : List Effect}

/-- A state of the closed system before which nothing was a reason to fail. -/
structure OnItsWay (scheme : EtagScheme) (transfer : Transfer)
    (fingerprint : SourceFileFingerprint) (content : List UInt8)
    (history : History RunEvent Effect) (net : Net RunState Effect Response Remote) :
    Prop where
  healthy : Healthy transfer fingerprint content history.events
  system : FileSystem scheme transfer content history net
  reached : (transfer.runFile fingerprint).Reaches .ready history net.client
  course : OnCourse transfer history net.client
  asked : Asked transfer.session net.sent net.client
  stands : Stands scheme transfer.session content net.sent net.answers net.server net.client

theorem OnItsWay.client_step {client : RunState}
    (size : content.length = transfer.session.plan.fileSize)
    (way : OnItsWay scheme transfer fingerprint content history net)
    (healthy : Healthy transfer fingerprint content (history.events ++ [event]))
    (answered : ∀ answer, transfer.runConsumes net.client event = some answer →
      answer ∈ net.answers)
    (taken : (transfer.runFile fingerprint).step net.client event = some (client, out)) :
    OnItsWay scheme transfer fingerprint content (history ++ [(event, out)])
      { net with client, sent := net.sent ++ out } := by
  have positive : 0 < transfer.builder.maxAttempts :=
    Nat.lt_of_le_of_lt (Nat.zero_le _) (healthy.retries ⟨1, by decide⟩)
  have reads : event.Reads content := by
    have good : event.Good fingerprint content := healthy.good event (by simp)
    unfold RunEvent.Reads
    split
    · exact good
    · trivial
  constructor
  · rw [History.events_append, History.events_singleton]
    exact healthy
  · exact way.system.client_step size reads answered taken
  · exact way.reached.snoc taken
  · exact onCourse_step size healthy way.system.client (fileTally_of_reaches positive way.reached)
      way.course taken
  · exact asked_step way.asked taken
  · exact stands_step way.system way.stands answered taken

theorem OnItsWay.serve {effect : Effect} {choice : Choice} {server : Remote} {ans : Response}
    (size : content.length = transfer.session.plan.fileSize)
    (way : OnItsWay scheme transfer fingerprint content history net) (sent : effect ∈ net.sent)
    (served : net.server.serve scheme effect choice = some (server, ans)) :
    OnItsWay scheme transfer fingerprint content history
      { net with server, answers := net.answers ++ [(effect, ans)] } := by
  have sends : SendsSlices transfer.session content transfer.session.plan.numbers [effect] := by
    intro request member upload
    obtain rfl := List.mem_singleton.mp member
    exact way.system.client.sends request (by rwa [← way.system.sent]) upload
  exact ⟨way.healthy, way.system.serve sent served, way.reached, way.course, way.asked,
    stands_serve size way.system.server sends way.stands sent served⟩

theorem onItsWay_of_reaches {remote : Remote}
    {past : History (NetEvent RunEvent Choice Empty) Effect}
    (size : content.length = transfer.session.plan.fileSize)
    (stored : HoldsSlices transfer.session content remote)
    (live : remote.status transfer.session.address = some .live)
    (healthy : Healthy transfer fingerprint content (clientHistory past).events)
    (run : (transfer.fileProtocol fingerprint scheme).net.Reaches (Net.start .ready remote)
      past net) :
    OnItsWay scheme transfer fingerprint content (clientHistory past) net := by
  induction run with
  | refl =>
      refine ⟨healthy, ?_, .refl, trivial, trivial, ?_⟩
      · exact @fileSystem_of_reaches transfer fingerprint scheme content remote [] _ size stored
          .refl (List.forall_mem_nil _)
      · exact ⟨List.forall_mem_nil _, List.forall_mem_nil _, live⟩
  | @snoc past before event after out run taken ih =>
      rcases Protocol.net_step_cases taken with ⟨e, client, rfl, allowed, stepped, rfl⟩ |
        ⟨_, choice, effect, server, response, rfl, sent, served, -, rfl⟩ | ⟨action, -⟩
      · rw [clientHistory_append, clientHistory_client] at healthy ⊢
        have next := healthy
        rw [History.events_append, History.events_singleton] at next
        refine (ih next.before).client_step size next ?_ stepped
        exact fun answer hands => Protocol.mem_answers_of_answered allowed hands
      · rw [clientHistory_append, clientHistory_serve, List.append_nil] at healthy ⊢
        exact (ih healthy).serve size sent served
      · exact action.elim

end Ways

section Pages

variable {plan : MultipartPlan} {scheme : EtagScheme} {session : PresignedMultipart}
  {content : List UInt8} {stored : RemoteSession} {listed : List RemotePart}

/-- A stored part as a page lists it. -/
def listedPart (scheme : EtagScheme) (number : PartNumber) (body : List UInt8) : RemotePart where
  partNumber := some (number.get : Int)
  size := some (body.length : Int)
  eTag := some (scheme.etag body)

/-- The planned parts that are stored and were not listed yet. -/
def unlisted (scheme : EtagScheme) (session : PresignedMultipart) (stored : RemoteSession)
    (listed : List RemotePart) : List RemotePart :=
  (absent session.plan listed).filterMap (fun number =>
    (stored.parts number.get).map (listedPart scheme number))

/-- The next page of these parts. -/
def nextPage (rest : List RemotePart) : ListPartsOutput where
  parts := rest.take 1000
  isTruncated := some (decide (1000 < rest.length))
  nextPartNumberMarker := ((rest.take 1000).getLast?.bind RemotePart.partNumber).map toString

theorem mem_unlisted {part : RemotePart} (member : part ∈ unlisted scheme session stored listed) :
    ∃ number ∈ session.plan.numbers, listedIn listed number = false ∧ ∃ body,
      stored.parts number.get = some body ∧ part = listedPart scheme number body := by
  obtain ⟨number, among, is⟩ := List.mem_filterMap.mp member
  obtain ⟨body, found, rfl⟩ := Option.map_eq_some_iff.mp is
  obtain ⟨planned, fresh⟩ := List.mem_filter.mp among
  exact ⟨number, planned, by simpa using fresh, body, found, rfl⟩

theorem lists_unlisted :
    ∀ part ∈ unlisted scheme session stored listed, stored.lists scheme part = true := by
  intro part member
  obtain ⟨number, -, -, body, found, rfl⟩ := mem_unlisted member
  simp [RemoteSession.lists, listedPart, found]

/-- The unlisted parts have numbers of their own, none of which was listed. -/
theorem nodup_unlisted (distinct : (listed.map RemotePart.partNumber).Nodup) :
    ((listed ++ unlisted scheme session stored listed).map RemotePart.partNumber).Nodup := by
  rw [List.map_append, List.nodup_append]
  refine ⟨distinct, ?_, ?_⟩
  · rw [unlisted, List.map_filterMap]
    refine List.Nodup.filterMap ?_ (session.plan.nodup_numbers.filter _)
    intro first second named is_first is_second
    obtain ⟨_, found, rfl⟩ := Option.map_eq_some_iff.mp is_first
    obtain ⟨_, -, rfl⟩ := Option.map_eq_some_iff.mp found
    obtain ⟨_, other, same⟩ := Option.map_eq_some_iff.mp is_second
    obtain ⟨_, -, rfl⟩ := Option.map_eq_some_iff.mp other
    apply PartNumber.ext
    simpa [listedPart] using same.symm
  · rintro _ before _ new rfl
    obtain ⟨part, member, named⟩ := List.mem_map.mp before
    obtain ⟨other, among, same⟩ := List.mem_map.mp new
    obtain ⟨number, -, fresh, body, -, rfl⟩ := mem_unlisted among
    rw [listedIn, List.any_eq_false] at fresh
    exact fresh part member (by simp [named, ← same, listedPart])

/-- What has been listed and the unlisted parts agree with the plan, for slices of a file. -/
theorem acceptable_unlisted (size : content.length = session.plan.fileSize)
    (named : ∀ body, scheme.etag body ≠ "")
    (slices : ∀ number ∈ session.plan.numbers, ∀ body, stored.parts number.get = some body →
      body = sliceOf session content number)
    (before : Acceptable session.plan listed) :
    Acceptable session.plan (listed ++ unlisted scheme session stored listed) := by
  refine ⟨?_, nodup_unlisted before.2⟩
  rw [List.forall_mem_append]
  refine ⟨before.1, ?_⟩
  intro part member
  obtain ⟨number, planned, -, body, found, rfl⟩ := mem_unlisted member
  have in_plan := session.plan.mem_numbers.mp planned
  refine ⟨⟨number, scheme.etag body, named body⟩, rfl, in_plan, ?_, rfl⟩
  refine ⟨body.length, rfl, ?_⟩
  rw [session.plan.partLength_eq in_plan, slices number planned body found, sliceOf, length_block,
    size]

theorem absent_append {first second : List RemotePart} :
    absent plan (first ++ second) =
      (absent plan first).filter (fun number => ¬ listedIn second number) := by
  simp only [absent, listedIn, List.any_append, List.filter_filter]
  congr 1
  funext number
  grind

/-- A page that is not the last one leaves fewer parts that were not listed. -/
theorem absent_nextPage
    (more : (nextPage (unlisted scheme session stored listed)).isTruncated = some true) :
    (absent session.plan
      (listed ++ (nextPage (unlisted scheme session stored listed)).parts)).length <
      (absent session.plan listed).length := by
  have long : 1000 < (unlisted scheme session stored listed).length := by
    simpa [nextPage] using more
  rw [absent_append, List.length_filter_lt_length_iff_exists]
  generalize rest_eq : unlisted scheme session stored listed = rest at long
  cases rest with
  | nil => simp at long
  | cons part others =>
      have member : part ∈ unlisted scheme session stored listed := by
        rw [rest_eq]
        exact List.mem_cons_self
      obtain ⟨number, planned, fresh, body, -, rfl⟩ := mem_unlisted member
      refine ⟨number, List.mem_filter.mpr ⟨planned, by simpa using fresh⟩, ?_⟩
      simp [listedIn, nextPage, listedPart]

/-- A page that is not the last one names the part that it ends with. -/
theorem marker_nextPage
    (more : (nextPage (unlisted scheme session stored listed)).isTruncated = some true) :
    ∃ marker, (nextPage (unlisted scheme session stored listed)).nextPartNumberMarker =
      some marker := by
  have long : 1000 < (unlisted scheme session stored listed).length := by
    simpa [nextPage] using more
  cases last : ((unlisted scheme session stored listed).take 1000).getLast? with
  | none =>
      rw [List.getLast?_eq_none_iff, List.take_eq_nil_iff] at last
      rcases last with zero | nothing
      · cases zero
      · rw [nothing] at long
        cases long
  | some part =>
      have member := List.mem_of_mem_take (List.mem_of_getLast? last)
      obtain ⟨number, -, -, body, -, rfl⟩ := mem_unlisted member
      exact ⟨_, by rw [nextPage, last]; rfl⟩

end Pages

section Rank

variable {transfer : Transfer} {fingerprint : SourceFileFingerprint}
  {history : History RunEvent Effect} {out : List Effect}

/-- Whether the listing is not over. -/
def RunState.isListing : RunState → Bool
  | .ready | .listing _ => true
  | _ => false

theorem truncated_of_onAnswer {plan : MultipartPlan} {state later : ReconcileState}
    {output : ListPartsOutput}
    (accepted : state.onAnswer plan (.ok output) = .ok (.listing later)) :
    output.isTruncated = some true := by
  by_contra last
  simp only [ReconcileState.onAnswer, if_pos last] at accepted
  split at accepted
  · cases accepted
  · split at accepted <;> cases accepted

/-- What there is to do, the pages of the listing included. -/
def rank (transfer : Transfer) (history : History RunEvent Effect) (s : RunState) : Nat :=
  s.work transfer + if s.isListing = true then
    (absent transfer.session.plan (remoteParts history)).length + 1 else 0

theorem not_isListing_afterUploads {reused : PartMap} {queue : List (PartNumber × Nat)}
    {uploads : Uploads} : (Transfer.afterUploads reused queue uploads).isListing = false := by
  unfold Transfer.afterUploads
  split <;> rfl

theorem not_isListing_prepare {existing : List UploadedPart} :
    (transfer.prepare existing).1.isListing = false := by
  unfold Transfer.prepare
  split
  · rfl
  · split
    · rfl
    · exact not_isListing_afterUploads

/-- Only while the listing goes on is there more of it afterwards. -/
theorem isListing_step {s s' : RunState} {event : RunEvent}
    (taken : (transfer.runFile fingerprint).step s event = some (s', out))
    (listing : s'.isListing = true) : s.isListing = true := by
  cases Transfer.runStep_of_step taken with
  | list resumed => rfl
  | fresh new => rfl
  | unlisted failed => rfl
  | page accepted => rfl
  | lastPage accepted => rfl
  | start room => cases listing
  | partFailed failed => cases listing
  | part moved =>
      rw [not_isListing_afterUploads] at listing
      cases listing
  | changed differs => cases listing
  | unchanged same => cases listing
  | completed => cases listing

theorem listedParts_of_not_page {event : RunEvent} (paged : event.isPage = false) :
    event.listedParts = [] := by
  cases event <;> first | rfl | cases paged

/-- A step leaves less to do, if a page after which there are more of them lists something new. -/
theorem rank_lt {s s' : RunState} {event : RunEvent}
    (taken : (transfer.runFile fingerprint).step s event = some (s', out))
    (page : event.isPage = true → s'.isListing = true →
      (absent transfer.session.plan (remoteParts history ++ event.listedParts)).length <
        (absent transfer.session.plan (remoteParts history)).length) :
    rank transfer (history ++ [(event, out)]) s' < rank transfer history s := by
  have less := run_work taken
  have back := isListing_step taken
  rw [rank, rank, remoteParts_snoc]
  cases paged : event.isPage with
  | false =>
      rw [listedParts_of_not_page paged, List.append_nil]
      rw [paged, Bool.toNat_false] at less
      split
      · rename_i listing
        rw [if_pos (back listing)]
        omega
      · omega
  | true =>
      have listing : s.isListing = true := by
        cases Transfer.runStep_of_step taken <;> first | rfl | cases paged
      rw [if_pos listing]
      rw [paged, Bool.toNat_true] at less
      split
      · rename_i later
        have fewer := page paged later
        omega
      · omega

end Rank

section Onward

variable {transfer : Transfer} {fingerprint : SourceFileFingerprint} {scheme : EtagScheme}
  {content : List UInt8} {history : History RunEvent Effect}
  {net : Net RunState Effect Response Remote} {event : RunEvent} {client : RunState}
  {out : List Effect}

/-- There is a way on of at most two steps, after which less is left to do. -/
def Onward (scheme : EtagScheme) (transfer : Transfer) (fingerprint : SourceFileFingerprint)
    (content : List UInt8) (history : History RunEvent Effect)
    (net : Net RunState Effect Response Remote) : Prop :=
  ∃ more next, (transfer.fileProtocol fingerprint scheme).net.Reaches net more next ∧
    more.length ≤ 2 ∧
    OnItsWay scheme transfer fingerprint content (history ++ clientHistory more) next ∧
    rank transfer (history ++ clientHistory more) next.client < rank transfer history net.client

/-- A good event that is no failure and no page is a way on. -/
theorem OnItsWay.onward (size : content.length = transfer.session.plan.fileSize)
    (way : OnItsWay scheme transfer fingerprint content history net)
    (taken : (transfer.runFile fingerprint).step net.client event = some (client, out))
    (good : event.Good fingerprint content) (unfailed : ∀ number, event.failsPart number = false)
    (paged : event.isPage = false)
    (answered : ∀ answer, transfer.runConsumes net.client event = some answer →
      answer ∈ net.answers) :
    Onward scheme transfer fingerprint content history net := by
  have healthy := way.healthy.snoc good unfailed (listedParts_of_not_page paged)
  refine ⟨_, _, .single (Protocol.client_step answered taken), by simp,
    way.client_step size healthy answered taken, ?_⟩
  exact rank_lt taken (fun page => absurd (paged.symm.trans page) Bool.false_ne_true)

/-- An event that hands in an answer is a way on once the message was served. -/
theorem OnItsWay.onward_served {effect : Effect} {choice : Choice} {server : Remote}
    {ans : Response} (size : content.length = transfer.session.plan.fileSize)
    (way : OnItsWay scheme transfer fingerprint content history net)
    (healthy : Healthy transfer fingerprint content (history.events ++ [event]))
    (sent : effect ∈ net.sent)
    (served : net.server.serve scheme effect choice = some (server, ans))
    (hands : transfer.runConsumes net.client event = some (effect, ans))
    (taken : (transfer.runFile fingerprint).step net.client event = some (client, out))
    (page : event.isPage = true → client.isListing = true →
      (absent transfer.session.plan (remoteParts history ++ event.listedParts)).length <
        (absent transfer.session.plan (remoteParts history)).length) :
    Onward scheme transfer fingerprint content history net := by
  obtain ⟨index, first⟩ := Protocol.serve_step (p := transfer.fileProtocol fingerprint scheme)
    sent served
  have answered : ∀ answer, transfer.runConsumes net.client event = some answer →
      answer ∈ net.answers ++ [(effect, ans)] := by
    intro answer same
    rw [hands, Option.some.injEq] at same
    rw [← same]
    exact List.mem_append_right _ (List.mem_singleton_self _)
  have later := (way.serve size sent served).client_step size healthy answered taken
  refine ⟨_, _, (Machine.Reaches.single first).trans
    (.single (Protocol.client_step answered taken)), by simp, ?_, ?_⟩
  · exact later
  · exact rank_lt taken page

/-- While parts are being uploaded, the first one in flight goes on, or the next one starts. -/
theorem onward_of_uploading {reused : PartMap} {queue : List (PartNumber × Nat)}
    {uploads : Uploads} (size : content.length = transfer.session.plan.fileSize)
    (parallel : 0 < transfer.builder.concurrency) (named : ∀ body, scheme.etag body ≠ "")
    (way : OnItsWay scheme transfer fingerprint content history net)
    (uploading : net.client = .uploading reused queue uploads) :
    Onward scheme transfer fingerprint content history net := by
  have course := way.course
  have asked := way.asked
  have stands := way.stands
  rw [uploading] at course asked stands
  cases flying : uploads.inFlight with
  | nil =>
      cases queue with
      | nil => exact absurd ⟨rfl, flying⟩ course
      | cons entry queue =>
          have taken : ∃ client, (transfer.runFile fingerprint).step net.client .start =
              some (client, []) := by
            simp only [uploading, Transfer.runFile]
            rw [if_pos (by simpa [flying] using parallel)]
            exact ⟨_, rfl⟩
          obtain ⟨client, taken⟩ := taken
          refine way.onward size taken trivial (fun _ => rfl) rfl ?_
          rw [uploading]
          exact fun _ none => by cases none
  | cons task rest =>
      have goes (event : TaskEvent) {outcome : TaskStep}
          (stepped : task.step transfer.session transfer.builder.maxAttempts event =
            some outcome) : ∃ client out, (transfer.runFile fingerprint).step net.client
              (.task task.number event) = some (client, out) := by
        obtain ⟨step, moved⟩ := Uploads.onTask_head flying stepped
        simp only [uploading, Transfer.runFile, moved]
        cases step <;> exact ⟨_, _, rfl⟩
      cases phase : task.phase with
      | reading =>
          have read : ∃ outcome, task.step transfer.session transfer.builder.maxAttempts
              (.read (.content content)) = some outcome := by
            simp only [PartTask.step, phase]
            split <;> exact ⟨_, rfl⟩
          obtain ⟨outcome, stepped⟩ := read
          obtain ⟨client, out, taken⟩ := goes _ stepped
          refine way.onward size taken rfl (fun _ => Bool.and_false _) rfl ?_
          rw [uploading]
          exact fun _ none => by cases none
      | requesting body attempt =>
          obtain ⟨server, served⟩ := exists_serve_upload scheme stands.live task.number body
          have sent := asked task (by rw [flying]; exact List.mem_cons_self) body attempt phase
          obtain ⟨client, out, taken⟩ := goes (.answered 0 (.ok (some (scheme.etag body))))
            (by simp only [PartTask.step, phase, retryStep]; rfl)
          have good : (RunEvent.task task.number
              (.answered 0 (.ok (some (scheme.etag body))))).Good fingerprint content :=
            ⟨_, rfl, named body⟩
          have healthy := way.healthy.snoc good (fun _ => Bool.and_false _) rfl
          refine way.onward_served size healthy sent served ?_ taken (fun page => by cases page)
          obtain ⟨number, length, _⟩ := task
          subst phase
          rw [uploading]
          simp [Transfer.runConsumes, Uploads.awaited, flying]
      | sleeping body attempt delay =>
          obtain ⟨client, out, taken⟩ := goes .woken
            (by simp only [PartTask.step, phase]; rfl)
          refine way.onward size taken trivial (fun _ => Bool.and_false _) rfl ?_
          rw [uploading]
          exact fun _ none => by cases none

/-- While the parts are being listed, the next page of what was not listed yet is a way on. -/
theorem onward_of_listing {state : ReconcileState}
    (size : content.length = transfer.session.plan.fileSize)
    (named : ∀ body, scheme.etag body ≠ "")
    (way : OnItsWay scheme transfer fingerprint content history net)
    (listing : net.client = .listing state) :
    Onward scheme transfer fingerprint content history net := by
  have course := way.course
  have asked := way.asked
  have stands := way.stands
  rw [listing] at course asked stands
  obtain ⟨stored, found, slices⟩ := way.system.server
  have live : stored.status = .live := by
    have is_live := stands.live
    rw [Remote.status, found, Option.map_some] at is_live
    exact Option.some.inj is_live
  let rest := unlisted scheme transfer.session stored (remoteParts history)
  have listed : ∀ part ∈ (nextPage rest).parts, stored.lists scheme part = true :=
    fun part member => lists_unlisted part (List.mem_of_mem_take member)
  have acceptable : Acceptable transfer.session.plan
      (remoteParts history ++ (nextPage rest).parts) := by
    have all := acceptable_unlisted size named slices way.healthy.listing
    rw [← List.take_append_drop 1000 (unlisted _ _ _ _), ← List.append_assoc] at all
    exact all.left
  have served := @serve_listing scheme transfer.session _ _ state _ found live listed
  obtain ⟨next, answer, -⟩ := onAnswer_of_acceptable course marker_nextPage acceptable
  have accepted : state.onAnswer transfer.session.plan (.ok (nextPage rest)) = .ok next := answer
  have healthy : Healthy transfer fingerprint content
      (history.events ++ [.listed (.ok (nextPage rest))]) := by
    constructor
    · rw [List.forall_mem_append, List.forall_mem_singleton]
      exact ⟨way.healthy.good, _, rfl, marker_nextPage⟩
    · intro number
      rw [failures_snoc]
      exact way.healthy.retries number
    · rw [listedBy, List.flatMap_append, List.flatMap_singleton]
      exact acceptable
  cases next with
  | done reconciliation =>
      have taken : (transfer.runFile fingerprint).step net.client
          (.listed (.ok (nextPage rest))) =
            some ((transfer.prepare reconciliation.uploadedParts).1,
              (transfer.prepare reconciliation.uploadedParts).2) := by
        rw [listing]
        exact Transfer.runFile_listed accepted
      refine way.onward_served size healthy asked served ?_ taken ?_
      · rw [listing]
        rfl
      · intro _ later
        rw [not_isListing_prepare] at later
        cases later
  | listing later =>
      have taken : (transfer.runFile fingerprint).step net.client
          (.listed (.ok (nextPage rest))) =
            some (.listing later, [.send (later.request transfer.session)]) := by
        simp only [listing, Transfer.runFile, accepted]
      refine way.onward_served size healthy asked served ?_ taken ?_
      · rw [listing]
        rfl
      · intro _ _
        exact absent_nextPage (truncated_of_onAnswer accepted)

/-- Once the completion was asked for, its answer is a way on. -/
theorem onward_of_completing {request : Request} {uploadedParts reusedParts : Nat}
    (size : content.length = transfer.session.plan.fileSize)
    (way : OnItsWay scheme transfer fingerprint content history net)
    (completing : net.client = .ending (.completing request uploadedParts reusedParts)) :
    Onward scheme transfer fingerprint content history net := by
  have asked := way.asked
  have stands := way.stands
  rw [completing] at asked stands
  obtain ⟨⟨completion, accepted, kept⟩, -, -, either⟩ := stands
  have taken (etag : Option String) : ∃ client,
      (transfer.runFile fingerprint).step net.client (.completed (.ok etag)) =
        some (client, []) := by
    rw [completing]
    exact ⟨_, rfl⟩
  rcases either with live | ⟨etag, told⟩
  · obtain ⟨server, served⟩ := (serve_completion size accepted kept).1 live
    obtain ⟨client, taken⟩ := taken none
    have good : (RunEvent.completed (.ok none)).Good fingerprint content := ⟨none, rfl⟩
    have healthy := way.healthy.snoc good (fun _ => rfl) rfl
    refine way.onward_served size healthy asked served ?_ taken (fun page => by cases page)
    rw [completing]
    rfl
  · obtain ⟨client, taken⟩ := taken etag
    refine way.onward size taken ⟨etag, rfl⟩ (fun _ => rfl) rfl ?_
    rw [completing]
    rintro answer hands
    obtain rfl := Option.some.inj hands
    exact told

/-- Unless `run` has returned a result there is a way on. -/
theorem OnItsWay.goes_on (size : content.length = transfer.session.plan.fileSize)
    (parallel : 0 < transfer.builder.concurrency) (named : ∀ body, scheme.etag body ≠ "")
    (way : OnItsWay scheme transfer fingerprint content history net) :
    (∃ result, net.client = .ending (.finished (.ok result))) ∨
      Onward scheme transfer fingerprint content history net := by
  have course := way.course
  cases at_client : net.client with
  | ready =>
      have taken : ∃ client out, (transfer.runFile fingerprint).step net.client .poll =
          some (client, out) := by
        simp only [at_client, Transfer.runFile]
        split <;> exact ⟨_, _, rfl⟩
      obtain ⟨client, out, taken⟩ := taken
      refine Or.inr (way.onward size taken trivial (fun _ => rfl) rfl ?_)
      rw [at_client]
      exact fun _ none => by cases none
  | listing state => exact Or.inr (onward_of_listing size named way at_client)
  | uploading reused queue uploads =>
      exact Or.inr (onward_of_uploading size parallel named way at_client)
  | checking manifest uploadedCount reusedCount =>
      let metadata : Metadata := ⟨true, fingerprint.len, fingerprint.modified,
        fingerprint.device, fingerprint.inode⟩
      have same : fingerprint.matchesMetadata metadata = true := beq_iff_eq.mpr rfl
      have taken : ∃ client out, (transfer.runFile fingerprint).step net.client
          (.checked (some metadata)) = some (client, out) := by
        simp only [at_client, Transfer.runFile]
        rw [if_pos same]
        exact ⟨_, _, rfl⟩
      obtain ⟨client, out, taken⟩ := taken
      refine Or.inr (way.onward size taken ⟨metadata, rfl, same⟩ (fun _ => rfl) rfl ?_)
      rw [at_client]
      exact fun _ none => by cases none
  | ending ending =>
      cases ending with
      | completing request uploadedParts reusedParts =>
          exact Or.inr (onward_of_completing size way at_client)
      | finished outcome =>
          cases outcome with
          | ok result => exact Or.inl ⟨result, rfl⟩
          | error fault =>
              rw [at_client] at course
              exact course.elim

/-- The way on, step after step, ends with a result. -/
theorem OnItsWay.finishes (size : content.length = transfer.session.plan.fileSize)
    (parallel : 0 < transfer.builder.concurrency) (named : ∀ body, scheme.etag body ≠ "")
    (way : OnItsWay scheme transfer fingerprint content history net) :
    ∃ more final result, (transfer.fileProtocol fingerprint scheme).net.Reaches net more final ∧
      more.length ≤ 2 * rank transfer history net.client ∧
      OnItsWay scheme transfer fingerprint content (history ++ clientHistory more) final ∧
      final.client = .ending (.finished (.ok result)) := by
  induction left : rank transfer history net.client using Nat.strong_induction_on
    generalizing history net with
  | _ bound ih =>
      rcases way.goes_on size parallel named with ⟨result, finished⟩ |
        ⟨first, next, run, short, later, less⟩
      · refine ⟨[], net, result, .refl, Nat.zero_le _, ?_, finished⟩
        rw [clientHistory, List.filterMap_nil, List.append_nil]
        exact way
      · rw [left] at less
        obtain ⟨rest, final, result, goes, few, done, finished⟩ := ih _ less later rfl
        refine ⟨first ++ rest, final, result, run.trans goes, ?_, ?_, finished⟩
        · rw [List.length_append]
          omega
        · rw [clientHistory_append, ← List.append_assoc]
          exact done

/-- There is never more left to do than all parts and all pages may need. -/
theorem rank_le {s : RunState}
    (run : (transfer.runFile fingerprint).Reaches .ready history s) :
    rank transfer history s ≤ partWork transfer.builder.maxAttempts * transfer.session.partCount +
      transfer.session.partCount + 5 := by
  have work : s.work transfer ≤
      partWork transfer.builder.maxAttempts * transfer.session.partCount + 4 := by
    induction run with
    | refl => exact Nat.le_refl _
    | @snoc history s event s' out before taken ih =>
        have less := run_work taken
        have once := Bool.toNat_le event.isPage
        omega
  have few := List.length_filter_le (fun number => ¬ listedIn (remoteParts history) number)
    transfer.session.plan.numbers
  rw [MultipartPlan.length_numbers, ← PresignedMultipart.partCount] at few
  rw [rank, absent]
  split <;> omega

/-- The upload of a file can always still be finished. Whatever messages were lost, late or
    repeated, if nothing that has happened is a reason to fail then there is a way on, of a
    bounded number of steps, which ends with a result and the file in the store. -/
theorem upload_finishable (transfer : Transfer) (fingerprint : SourceFileFingerprint)
    (scheme : EtagScheme) (content : List UInt8) (remote : Remote)
    (history : History (NetEvent RunEvent Choice Empty) Effect)
    (net : Net RunState Effect Response Remote)
    (size : content.length = transfer.session.plan.fileSize)
    (parallel : 0 < transfer.builder.concurrency) (named : ∀ body, scheme.etag body ≠ "")
    (stored : HoldsSlices transfer.session content remote)
    (live : remote.status transfer.session.address = some .live)
    (healthy : Healthy transfer fingerprint content (clientHistory history).events)
    (run : (transfer.fileProtocol fingerprint scheme).net.Reaches (Net.start .ready remote)
      history net) :
    ∃ more final result, (transfer.fileProtocol fingerprint scheme).net.Reaches net more final ∧
      more.length ≤ 2 * (partWork transfer.builder.maxAttempts * transfer.session.partCount +
        transfer.session.partCount + 5) ∧
      Healthy transfer fingerprint content (clientHistory (history ++ more)).events ∧
      final.client = .ending (.finished (.ok result)) ∧
      result.uploadedParts + result.reusedParts = transfer.session.partCount ∧
      CommittedAs transfer.session content final.server := by
  have way := onItsWay_of_reaches size stored live healthy run
  obtain ⟨more, final, result, goes, few, done, finished⟩ := way.finishes size parallel named
  have most := rank_le way.reached
  have course := done.course
  have stands := done.stands
  rw [finished] at course stands
  refine ⟨more, final, result, goes, by omega, ?_, finished, course.2.2, stands⟩
  rw [clientHistory_append]
  exact done.healthy

/-- The upload of the only part was served, but its answer was lost. -/
theorem upload_finishable_lost :
    ∃ (remote : Remote) (fingerprint : SourceFileFingerprint)
      (history : History (NetEvent RunEvent Choice Empty) Effect)
      (net : Net RunState Effect Response Remote),
      ((Transfer.mk .tiny .tiny).fileProtocol fingerprint .plain).net.Reaches
        (Net.start .ready remote) history net ∧ history.length = 5 ∧ ∃ more final result,
        ((Transfer.mk .tiny .tiny).fileProtocol fingerprint .plain).net.Reaches net more final ∧
        more.length ≤ 30 ∧
        Healthy ⟨.tiny, .tiny⟩ fingerprint [1, 2, 3] (clientHistory (history ++ more)).events ∧
        final.client = .ending (.finished (.ok result)) ∧
        result.uploadedParts + result.reusedParts = 1 ∧
        CommittedAs .tiny [1, 2, 3] final.server := by
  let transfer : Transfer := ⟨.tiny, .tiny⟩
  let metadata : Metadata := ⟨true, 3, some 0, 0, 0⟩
  let fingerprint := SourceFileFingerprint.fromMetadata metadata
  let part (event : TaskEvent) : NetEvent RunEvent Choice Empty :=
    .client (.task ⟨1, by decide⟩ event)
  let remote : Remote := Function.update (fun _ => none) PresignedMultipart.tiny.address
    (some ⟨.live, fun _ => none⟩)
  let events := [.client .poll, .client .start, part (.read (.content [1, 2, 3])),
    .serve 0 (.etag (some (EtagScheme.plain.etag [1, 2, 3]))),
    part (.answered 0 (.error .timeoutError))]
  have executed : (((transfer.fileProtocol fingerprint .plain).net.exec
      (Net.start .ready remote) events).map (fun final => final.1.events.length)) =
        some 5 := by decide
  obtain ⟨⟨history, net⟩, reached, long⟩ := Option.map_eq_some_iff.mp executed
  have healthy : Healthy transfer fingerprint [1, 2, 3] (clientHistory history).events := by
    have shape : events.filterMap clientEvent = [.poll, .start,
        .task ⟨1, by decide⟩ (.read (.content [1, 2, 3])),
        .task ⟨1, by decide⟩ (.answered 0 (.error .timeoutError))] := rfl
    rw [events_clientHistory, Machine.events_of_exec reached, shape]
    constructor
    · simp [RunEvent.Good, isRetryable]
    · intro number
      by_cases same : (⟨1, by decide⟩ : PartNumber) = number
      · subst same
        decide
      · simp [failures, RunEvent.failsPart, same, transfer]
        decide
    · exact ⟨List.forall_mem_nil _, List.nodup_nil⟩
  have run := Machine.reaches_of_exec reached
  refine ⟨remote, fingerprint, history, net, run, by simpa [History.events] using long, ?_⟩
  exact upload_finishable transfer fingerprint .plain [1, 2, 3] remote history net rfl (by decide)
    EtagScheme.plain_ne ⟨_, Function.update_self _ _ _, by simp⟩ rfl healthy run

end Onward

end R2kit
