import R2kit.Managed.Accounting
import R2kit.Misc.Network
import R2kit.Remote

/-!
# What the upload of a file puts together

When the source check of `run` passes, nothing is waiting or in flight, so the manifest
covers the plan. On an account that nobody else writes to, the parts it lists are then
stored there and make up the file.
-/

namespace R2kit

open Misc

section Stored

variable (scheme : EtagScheme) (session : PresignedMultipart) (content : List UInt8)

/-- The slice of the file that is a part. -/
def sliceOf (number : PartNumber) : List UInt8 :=
  block session.plan.partSize number.index content

/-- What is stored of the planned parts are slices of the file. -/
def HoldsSlices (remote : Remote) : Prop :=
  ∃ stored, remote session.address = some stored ∧ ∀ number ∈ session.plan.numbers,
    ∀ body, stored.parts number.get = some body → body = sliceOf session content number

/-- A part is stored as its slice, and this is the ETag it has. -/
def Kept (remote : Remote) (number : PartNumber) (etag : String) : Prop :=
  etag = scheme.etag (sliceOf session content number) ∧
    ∃ stored, remote session.address = some stored ∧
      stored.parts number.get = some (sliceOf session content number)

/-- What an answer says of the planned parts for good. -/
def AnswerKept (remote : Remote) : Effect × Response → Prop
  | (.send request, .uploadPart (some etag)) => ∀ number ∈ session.plan.numbers,
      request = uploadPartRequest session number (sliceOf session content number) →
      Kept scheme session content remote number etag
  | (.send request, .listParts output) => request.address = session.address →
      ∀ listed ∈ output.parts, ∀ number ∈ session.plan.numbers,
        listed.partNumber = some (number.get : Int) →
        ∃ etag, listed.eTag = some etag ∧ Kept scheme session content remote number etag
  | _ => True

/-- What an answer says of the ETags of the planned parts. -/
def AnswerTells (known : PartNumber → String → Prop) : Effect × Response → Prop
  | (.send request, .uploadPart (some etag)) => ∀ number ∈ session.plan.numbers,
      request = uploadPartRequest session number (sliceOf session content number) →
      known number etag
  | (.send request, .listParts output) => request.address = session.address →
      ∀ listed ∈ output.parts, ∀ number ∈ session.plan.numbers,
        listed.partNumber = some (number.get : Int) →
        ∃ etag, listed.eTag = some etag ∧ known number etag
  | _ => True

variable {scheme session content}

theorem AnswerKept.tells {remote : Remote} {answer : Effect × Response}
    (holds : AnswerKept scheme session content remote answer) :
    AnswerTells session content (Kept scheme session content remote) answer := holds

/-- Serving a message that writes nothing but slices keeps what is stored. -/
theorem slices_serve {remote after : Remote} {effect : Effect} {choice : Choice}
    {response : Response} (holds : HoldsSlices session content remote)
    (sends : SendsSlices session content session.plan.numbers [effect])
    (served : remote.serve scheme effect choice = some (after, response)) :
    HoldsSlices session content after ∧ ∀ number etag, number ∈ session.plan.numbers →
      Kept scheme session content remote number etag →
      Kept scheme session content after number etag := by
  obtain ⟨stored, found, slices⟩ := holds
  obtain ⟨next, found', moved⟩ := Remote.serve_parts served found
  have put : ∀ number ∈ session.plan.numbers, next.parts number.get = stored.parts number.get ∨
      next.parts number.get = some (sliceOf session content number) := by
    intro number _
    rcases moved number.get with kept | ⟨length, body, rfl, written⟩
    · exact Or.inl kept
    · obtain ⟨other, -, same⟩ := sends _ (List.mem_singleton.mpr rfl) rfl
      simp only [uploadPartRequest, PresignedMultipart.request, Request.mk.injEq,
        Operation.uploadPart.injEq] at same
      obtain ⟨-, number_eq, -, rfl⟩ := same
      obtain rfl := PartNumber.ext number_eq
      exact Or.inr written
  constructor
  · refine ⟨next, found', ?_⟩
    intro number planned body is
    rcases put number planned with kept | written
    · exact slices number planned body (by rw [← kept, is])
    · rw [written, Option.some.injEq] at is
      exact is.symm
  · rintro number etag planned ⟨etag_eq, other, at_address, is⟩
    rw [found, Option.some.injEq] at at_address
    subst at_address
    refine ⟨etag_eq, next, found', ?_⟩
    rcases put number planned with kept | written
    · rw [kept, is]
    · exact written

/-- What is kept stays kept, so what an answer says stays true. -/
theorem AnswerKept.mono {before after : Remote} {answer : Effect × Response}
    (holds : AnswerKept scheme session content before answer)
    (kept : ∀ number etag, number ∈ session.plan.numbers →
      Kept scheme session content before number etag →
      Kept scheme session content after number etag) :
    AnswerKept scheme session content after answer := by
  unfold AnswerKept at holds ⊢
  split
  · intro number planned same
    exact kept _ _ planned (holds number planned same)
  · intro addressed listed member number planned named
    obtain ⟨etag, is, holds⟩ := holds addressed listed member number planned named
    exact ⟨etag, is, kept _ _ planned holds⟩
  · trivial

/-- A new answer says what is stored at that moment. -/
theorem answerKept_serve {remote after : Remote} {effect : Effect} {choice : Choice}
    {response : Response} (slices : HoldsSlices session content after)
    (served : remote.serve scheme effect choice = some (after, response)) :
    AnswerKept scheme session content after (effect, response) := by
  unfold AnswerKept
  split
  · rename_i request etag same
    cases same
    rintro number planned rfl
    obtain ⟨etag_eq, stored, found, is⟩ := Remote.serve_uploaded served
    exact ⟨etag_eq, stored, found, is⟩
  · rename_i request output same
    cases same
    intro addressed listed member number planned named
    obtain ⟨stored, found, all⟩ := Remote.serve_listed served
    obtain ⟨raw, body, is_number, is, etag_eq⟩ := all listed member
    rw [named, Option.some.injEq, Int.natCast_inj] at is_number
    subst is_number
    rw [addressed] at found
    obtain ⟨other, found', all_slices⟩ := slices
    rw [found, Option.some.injEq] at found'
    subst found'
    obtain rfl := all_slices number planned body is
    exact ⟨_, etag_eq, rfl, stored, found, is⟩
  · trivial

end Stored

section Vouched

variable {transfer : Transfer} {fingerprint : SourceFileFingerprint} {content : List UInt8}
  {known : PartNumber → String → Prop} {history : History RunEvent Effect}
  {answers : List (Effect × Response)} {s s' : RunState} {event : RunEvent} {out : List Effect}

/-- What is known of every planned part that a run has uploaded or found listed. -/
structure Vouched (known : PartNumber → String → Prop) (plan : MultipartPlan)
    (history : History RunEvent Effect) : Prop where
  uploaded : ∀ number etag, (number, some etag) ∈ successes history → number ∈ plan.numbers →
    known number etag
  listed : ∀ part ∈ remoteParts history, ∀ number ∈ plan.numbers,
    part.partNumber = some (number.get : Int) → ∃ etag, part.eTag = some etag ∧ known number etag

/-- An upload that an event reports as successful was answered. -/
theorem known_of_success (client : FileInvariant transfer content history s)
    (tells : ∀ answer ∈ answers, AnswerTells transfer.session content known answer)
    (answered : ∀ answer, transfer.runConsumes s event = some answer → answer ∈ answers)
    (taken : (transfer.runFile fingerprint).step s event = some (s', out))
    {number : PartNumber} {etag : String} (success : (number, some etag) ∈ event.success)
    (planned : number ∈ transfer.session.plan.numbers) : known number etag := by
  cases event with
  | task named event =>
      cases event with
      | answered random answer =>
          cases answer with
          | error error => cases success
          | ok told =>
              simp only [RunEvent.success, TaskEvent.success, List.mem_singleton,
                Prod.mk.injEq] at success
              obtain ⟨rfl, rfl⟩ := success
              have pending : ∃ reused queue uploads, s = .uploading reused queue uploads ∧
                  ∃ step, uploads.onTask transfer number (.answered random (.ok (some etag))) =
                    some step := by
                cases Transfer.runStep_of_step taken with
                | partFailed failed => exact ⟨_, _, _, rfl, _, failed⟩
                | part moved => exact ⟨_, _, _, rfl, _, moved⟩
              obtain ⟨reused, queue, uploads, rfl, step, moved⟩ := pending
              obtain ⟨existing, -, -, loaded⟩ := client
              have awaited := Uploads.awaited_eq moved loaded.holds
              have member := answered _ (by simp only [Transfer.runConsumes, awaited]; rfl)
              exact tells _ member number planned rfl
      | read view => cases success
      | woken => cases success
  | poll => cases success
  | listed answer => cases success
  | start => cases success
  | checked metadata => cases success
  | completed answer => cases success

/-- A part that an event lists is in a page that was answered. -/
theorem known_of_listed
    (tells : ∀ answer ∈ answers, AnswerTells transfer.session content known answer)
    (answered : ∀ answer, transfer.runConsumes s event = some answer → answer ∈ answers)
    (taken : (transfer.runFile fingerprint).step s event = some (s', out))
    {part : RemotePart} (listed : part ∈ event.listedParts) {number : PartNumber}
    (planned : number ∈ transfer.session.plan.numbers)
    (named : part.partNumber = some (number.get : Int)) :
    ∃ etag, part.eTag = some etag ∧ known number etag := by
  cases event with
  | listed answer =>
      cases answer with
      | error error => cases listed
      | ok output =>
          have waiting : ∃ state, s = .listing state := by
            cases Transfer.runStep_of_step taken with
            | unlisted failed => exact ⟨_, rfl⟩
            | page accepted => exact ⟨_, rfl⟩
            | lastPage accepted => exact ⟨_, rfl⟩
          obtain ⟨state, rfl⟩ := waiting
          exact tells _ (answered _ rfl) rfl part listed number planned named
  | poll => cases listed
  | start => cases listed
  | task number event => cases listed
  | checked metadata => cases listed
  | completed answer => cases listed

/-- A step adds to the uploaded and the listed parts only what was answered. -/
theorem Vouched.step (vouched : Vouched known transfer.session.plan history)
    (client : FileInvariant transfer content history s)
    (tells : ∀ answer ∈ answers, AnswerTells transfer.session content known answer)
    (answered : ∀ answer, transfer.runConsumes s event = some answer → answer ∈ answers)
    (taken : (transfer.runFile fingerprint).step s event = some (s', out)) :
    Vouched known transfer.session.plan (history ++ [(event, out)]) := by
  constructor
  · intro number etag success planned
    rw [successes_snoc, List.mem_append] at success
    rcases success with before | new
    · exact vouched.uploaded number etag before planned
    · exact known_of_success client tells answered taken new planned
  · intro part member number planned named
    rw [remoteParts_snoc, List.mem_append] at member
    rcases member with before | new
    · exact vouched.listed part before number planned named
    · exact known_of_listed tells answered taken new planned named

/-- It is known of every part that a run puts together. -/
theorem Vouched.known_of {session : PresignedMultipart} {existing uploaded : List UploadedPart}
    (vouched : Vouched known session.plan history)
    (accounted : Accounted session content history existing uploaded [])
    {part : UploadedPart} (among : part ∈ existing ∨ part ∈ uploaded) :
    known part.partNumber part.etag := by
  have numbers := accounted.numbers
  rw [List.append_nil, ← List.map_append] at numbers
  have planned : part.partNumber ∈ session.plan.numbers :=
    numbers.subset (List.mem_map_of_mem (List.mem_append.mpr among))
  rcases among with reused | new
  · obtain ⟨listed, member, describes⟩ := accounted.listed.sources part reused
    obtain ⟨etag, is, holds⟩ := vouched.listed listed member _ planned describes.number
    rw [describes.etag, Option.some.injEq] at is
    rwa [is]
  · apply vouched.uploaded _ _ _ planned
    rw [accounted.results]
    exact List.mem_map_of_mem new

end Vouched

section Serving

variable {scheme : EtagScheme} {session : PresignedMultipart} {remote : Remote}
  {stored : RemoteSession}

/-- A live session takes a part and tells its ETag. -/
theorem serve_upload (found : remote session.address = some stored) (live : stored.status = .live)
    (number : PartNumber) (body : List UInt8) :
    remote.serve scheme (.send (uploadPartRequest session number body))
      (.etag (some (scheme.etag body))) =
        some (Function.update remote session.address (some (stored.put number.get body)),
          .uploadPart (some (scheme.etag body))) := by
  simp [Remote.serve, Remote.serveRequest, uploadPartRequest, PresignedMultipart.request, found,
    RemoteSession.serve, live]

/-- A live session lists what it has stored. -/
theorem serve_listing {state : ReconcileState} {output : ListPartsOutput}
    (found : remote session.address = some stored) (live : stored.status = .live)
    (listed : ∀ part ∈ output.parts, stored.lists scheme part = true) :
    remote.serve scheme (.send (state.request session)) (.page output) =
      some (Function.update remote session.address (some stored), .listParts output) := by
  simp [Remote.serve, Remote.serveRequest, ReconcileState.request, PresignedMultipart.request,
    found, RemoteSession.serve, live, List.all_eq_true.mpr listed]

end Serving

section ClosedSystem

/-- `run` on an account that nobody else writes to. -/
def Transfer.fileProtocol (transfer : Transfer) (fingerprint : SourceFileFingerprint)
    (scheme : EtagScheme) :
    Protocol RunState RunEvent Effect Response Remote Choice Empty where
  machine := transfer.runFile fingerprint
  consumes := transfer.runConsumes
  serve := Remote.serve scheme
  outside _ action := nomatch action

variable {transfer : Transfer} {fingerprint : SourceFileFingerprint} {scheme : EtagScheme}
  {content : List UInt8}

/-- The invariant of the closed system. -/
structure FileSystem (scheme : EtagScheme) (transfer : Transfer) (content : List UInt8)
    (history : History RunEvent Effect) (net : Net RunState Effect Response Remote) :
    Prop where
  client : FileInvariant transfer content history net.client
  sent : net.sent = history.outputs
  server : HoldsSlices transfer.session content net.server
  answers : ∀ answer ∈ net.answers, AnswerKept scheme transfer.session content net.server answer
  uploaded : ∀ number etag, (number, some etag) ∈ successes history →
    number ∈ transfer.session.plan.numbers →
    Kept scheme transfer.session content net.server number etag
  listed : ∀ part ∈ remoteParts history, ∀ number ∈ transfer.session.plan.numbers,
    part.partNumber = some (number.get : Int) →
    ∃ etag, part.eTag = some etag ∧ Kept scheme transfer.session content net.server number etag

theorem FileSystem.vouched {history : History RunEvent Effect}
    {net : Net RunState Effect Response Remote}
    (system : FileSystem scheme transfer content history net) :
    Vouched (Kept scheme transfer.session content net.server) transfer.session.plan history :=
  ⟨system.uploaded, system.listed⟩

/-- A step of `run` keeps the invariant of the closed system. -/
theorem FileSystem.client_step {history : History RunEvent Effect}
    {net : Net RunState Effect Response Remote} {event : RunEvent} {client : RunState}
    {out : List Effect} (size : content.length = transfer.session.plan.fileSize)
    (reads : event.Reads content) (system : FileSystem scheme transfer content history net)
    (answered : ∀ answer, transfer.runConsumes net.client event = some answer →
      answer ∈ net.answers)
    (taken : (transfer.runFile fingerprint).step net.client event = some (client, out)) :
    FileSystem scheme transfer content (history ++ [(event, out)])
      { net with client, sent := net.sent ++ out } := by
  have tells := fun answer member => (system.answers answer member).tells
  constructor
  · exact fileInvariant_step size reads system.client taken
  · rw [History.outputs_snoc, system.sent]
  · exact system.server
  · exact system.answers
  · exact (system.vouched.step system.client tells answered taken).uploaded
  · exact (system.vouched.step system.client tells answered taken).listed

/-- A message being served keeps the invariant of the closed system. -/
theorem FileSystem.serve {history : History RunEvent Effect}
    {net : Net RunState Effect Response Remote} {msg : Effect} {choice : Choice}
    {server : Remote} {ans : Response} (system : FileSystem scheme transfer content history net)
    (sent : msg ∈ net.sent) (served : net.server.serve scheme msg choice = some (server, ans)) :
    FileSystem scheme transfer content history
      { net with server, answers := net.answers ++ [(msg, ans)] } := by
  have sends : SendsSlices transfer.session content transfer.session.plan.numbers [msg] := by
    intro request member upload
    rw [List.mem_singleton] at member
    subst member
    exact system.client.sends request (by rwa [← system.sent]) upload
  obtain ⟨server_holds, kept⟩ := slices_serve system.server sends served
  constructor
  · exact system.client
  · exact system.sent
  · exact server_holds
  · intro answer member
    rcases List.mem_append.mp member with before | new
    · exact (system.answers answer before).mono kept
    · rw [List.mem_singleton] at new
      subst new
      exact answerKept_serve server_holds served
  · intro number etag success planned
    exact kept _ _ planned (system.uploaded number etag success planned)
  · intro part member number planned named
    obtain ⟨etag, is, holds⟩ := system.listed part member number planned named
    exact ⟨etag, is, kept _ _ planned holds⟩

theorem fileSystem_of_reaches {remote : Remote}
    {history : History (NetEvent RunEvent Choice Empty) Effect}
    {net : Net RunState Effect Response Remote}
    (size : content.length = transfer.session.plan.fileSize)
    (stored : HoldsSlices transfer.session content remote)
    (run : (transfer.fileProtocol fingerprint scheme).net.Reaches (Net.start .ready remote)
      history net)
    (reads : ∀ event ∈ (clientHistory history).events, event.Reads content) :
    FileSystem scheme transfer content (clientHistory history) net := by
  induction run with
  | refl =>
      constructor
      · rfl
      · rfl
      · exact stored
      · exact List.forall_mem_nil _
      · exact fun _ _ member => absurd member List.not_mem_nil
      · exact List.forall_mem_nil _
  | snoc before taken ih =>
      rw [clientHistory_append, History.events_append] at reads
      have system := ih (fun event member => reads event (List.mem_append_left _ member))
      rw [clientHistory_append]
      rcases Protocol.net_step_cases taken with ⟨e, client, rfl, allowed, stepped, rfl⟩ |
        ⟨_, choice, effect, server, response, rfl, sent, served, -, rfl⟩ | ⟨action, -⟩
      · refine system.client_step size (reads e ?_) ?_ stepped
        · exact List.mem_append_right _ (List.mem_singleton.mpr rfl)
        · intro answer hands
          exact Protocol.mem_answers_of_answered allowed hands
      · rw [clientHistory_serve, List.append_nil]
        exact system.serve sent served
      · exact action.elim

/-- Parts that are kept make up the file. -/
theorem content_of_kept {session : PresignedMultipart} {remote : Remote}
    {parts : List UploadedPart} (size : content.length = session.plan.fileSize)
    (numbers : parts.map UploadedPart.partNumber = session.plan.numbers)
    {stored : RemoteSession} (found : remote session.address = some stored)
    (kept : ∀ part ∈ parts, Kept scheme session content remote part.partNumber part.etag) :
    ∃ object, (parts.map (fun part => (⟨part.partNumber.get, part.etag⟩ : CompletedPart))).mapM
      (stored.partWithEtag scheme) = some object ∧ object.flatMap Prod.snd = content := by
  refine ⟨parts.map (fun part =>
    (part.partNumber.get, sliceOf session content part.partNumber)), ?_, ?_⟩
  · rw [List.mapM_map]
    apply mapM_eq_pure
    intro part member
    obtain ⟨etag_eq, other, at_address, is⟩ := kept part member
    rw [found, Option.some.injEq] at at_address
    subst at_address
    simp only [Function.comp_apply, RemoteSession.partWithEtag, is, etag_eq, if_true]
    rfl
  · have slices := session.plan.flatMap_block_numbers size
    rw [← numbers, List.flatMap_map] at slices
    rw [List.flatMap_map]
    exact slices

/-- A part in flight goes on. -/
theorem reaches_part {start : Net RunState Effect Response Remote}
    {history : History (NetEvent RunEvent Choice Empty) Effect} {reused : PartMap}
    {queue : List (PartNumber × Nat)} {uploads next : Uploads} {number : PartNumber}
    {sent out : List Effect} {answers : List (Effect × Response)} {server : Remote}
    (run : (transfer.fileProtocol fingerprint scheme).net.Reaches start history
      ⟨.uploading reused queue uploads, sent, answers, server⟩) (event : TaskEvent)
    (moved : uploads.onTask transfer number event = some (.running next out))
    (answered : ∀ answer, transfer.runConsumes (.uploading reused queue uploads)
      (.task number event) = some answer → answer ∈ answers) :
    (transfer.fileProtocol fingerprint scheme).net.Reaches start
      (history ++ [(.client (.task number event), out)])
      ⟨Transfer.afterUploads reused queue next, sent ++ out, answers, server⟩ :=
  Protocol.reaches_client run _ (Transfer.runFile_part moved) answered

end ClosedSystem

section Several

/-- Goes on with `PresignedMultipart.three`, with a callback. -/
def Transfer.three : Transfer where
  builder := {
    bucket := PresignedMultipart.three.bucket
    key := "clip"
    partSize := minMultipartPartSize
    resume := some PresignedMultipart.three.snapshot
    progress := true
    origin := ⟨rfl, .three, rfl⟩ }
  session := .three

/-- A file of three parts that ends with three letters. -/
def threeContent : List UInt8 := List.replicate (2 * minMultipartPartSize) 0 ++ [97, 98, 99]

theorem length_threeContent : threeContent.length = PresignedMultipart.three.plan.fileSize := by
  rw [threeContent, List.length_append, List.length_replicate]
  rfl

/-- The last part of the file is stored. -/
def RemoteSession.third : RemoteSession where
  status := .live
  parts number := if number = 3 then some [97, 98, 99] else none

/-- R2 with this session of three parts on it. -/
def Remote.three (stored : RemoteSession) : Remote :=
  Function.update (fun _ => none) PresignedMultipart.three.address (some stored)

theorem Remote.update_three (stored next : RemoteSession) :
    Function.update (Remote.three stored) PresignedMultipart.three.address (some next) =
      Remote.three next := Function.update_idem _ _ _

/-- What the store lists. -/
def ListPartsOutput.third : ListPartsOutput := ⟨[⟨some 3, some 3, some "eabc"⟩], some false, none⟩

/-- The third part, as its listing names it. -/
def UploadedPart.third : UploadedPart := ⟨.third, "eabc", by decide⟩

/-- The third part alone is reused. -/
def reusedThird : PartMap := insertAll UploadedPart.partNumber ∅ [.third]

theorem onAnswer_third :
    (ReconcileState.start PresignedMultipart.three.plan).onAnswer PresignedMultipart.three.plan
      (.ok .third) = .ok (.done ⟨[.third], [.first, .second]⟩) := by
  decide

theorem prepare_third : Transfer.three.prepare [.third] =
    (.uploading reusedThird [(.first, minMultipartPartSize), (.second, minMultipartPartSize)]
      ⟨[], [], 1, 3⟩, [.report ⟨1, 3, 3, PresignedMultipart.three.plan.fileSize⟩]) := by
  have planned : ∀ part ∈ [UploadedPart.third],
      part.partNumber.get ≤ Transfer.three.session.plan.partCount := by decide
  have shape := @prepare_eq .three [.third] planned (by decide)
  have queue : (Transfer.three.session.plan.numbers.filter (fun number =>
      ¬ (insertAll UploadedPart.partNumber ∅ [UploadedPart.third]).contains number)).map
        (fun number => (number, blockLength Transfer.three.session.plan.fileSize
          Transfer.three.session.plan.partSize number.index)) =
      [(.first, minMultipartPartSize), (.second, minMultipartPartSize)] := by decide
  have size : (insertAll UploadedPart.partNumber ∅ [UploadedPart.third]).size = 1 := by decide
  have bytes : existingBytes Transfer.three.session.plan [.third] = 3 := by decide
  dsimp only at shape
  rw [queue, size, bytes] at shape
  rw [shape]
  rfl

/-- A part of full size in flight. -/
def PartTask.full (number : PartNumber) (phase : Phase) : PartTask :=
  ⟨number, minMultipartPartSize, phase⟩

/-- An uploaded part with the ETag of the store. -/
def UploadedPart.plain (number : PartNumber) (body : List UInt8) : UploadedPart :=
  ⟨number, EtagScheme.plain.etag body, EtagScheme.plain_ne body⟩

/-- The third part is listed and the others are taken into flight. -/
def threeStarted : History (NetEvent RunEvent Choice Empty) Effect :=
  [(.client .poll, [.send ((ReconcileState.start PresignedMultipart.three.plan).request .three)]),
    (.serve 0 (.page .third), []),
    (.client (.listed (.ok .third)), [.report ⟨1, 3, 3, PresignedMultipart.three.plan.fileSize⟩]),
    (.client .start, []), (.client .start, [])]

/-- The second part is uploaded, then the first one after an attempt that was lost. -/
def threeHistory (first second : List UInt8) : History (NetEvent RunEvent Choice Empty) Effect :=
  let put (number : PartNumber) (body : List UInt8) : Effect :=
    .send (uploadPartRequest .three number body)
  let size := PresignedMultipart.three.plan.fileSize
  let etag (body : List UInt8) := some (EtagScheme.plain.etag body)
  threeStarted ++ [
    (.client (.task .second (.read (.content threeContent))), [put .second second]),
    (.client (.task .first (.read (.content threeContent))), [put .first first]),
    (.serve 2 (.etag (etag second)), []),
    (.client (.task .second (.answered 0 (.ok (etag second)))),
      [.report ⟨2, 3, minMultipartPartSize + 3, size⟩]),
    (.client (.task .first (.answered 0 (.error .timeoutError))), []),
    (.client (.task .first .woken), [put .first first]),
    (.serve 5 (.etag (etag first)), []),
    (.client (.task .first (.answered 0 (.ok (etag first)))), [.report ⟨3, 3, size, size⟩])]

theorem reaches_threeStarted {fingerprint : SourceFileFingerprint} :
    ∃ answers, (Transfer.three.fileProtocol fingerprint .plain).net.Reaches
      (.start .ready (.three .third)) threeStarted ⟨.uploading reusedThird []
        ⟨[.full .first .reading, .full .second .reading], [], 1, 3⟩,
        [.send ((ReconcileState.start PresignedMultipart.three.plan).request .three),
          .report ⟨1, 3, 3, PresignedMultipart.three.plan.fileSize⟩], answers, .three .third⟩ := by
  let p := Transfer.three.fileProtocol fingerprint .plain
  let state := ReconcileState.start PresignedMultipart.three.plan
  have lists : p.serve (.three .third) (.send (state.request .three)) (.page .third) =
      some (.three .third, .listParts .third) := by
    have served := @serve_listing .plain .three (.three .third) .third state .third
      (Function.update_self _ _ _) rfl (by decide)
    rwa [Remote.update_three] at served
  have polled : p.net.Reaches (.start .ready (.three .third)) _
      ⟨.listing state, [.send (state.request .three)], [], _⟩ :=
    Protocol.reaches_client .refl .poll rfl (by rintro _ ⟨⟩)
  have listed : p.net.Reaches _ _ ⟨.uploading reusedThird [(.first, minMultipartPartSize),
      (.second, minMultipartPartSize)] ⟨[], [], 1, 3⟩, _, _, _⟩ :=
    Protocol.reaches_client (Protocol.reaches_serve polled 0 (.page .third) rfl lists)
      (.listed (.ok .third))
      ((Transfer.runFile_listed onAnswer_third).trans (congrArg some prepare_third))
      (by rintro _ ⟨⟩; exact List.mem_singleton_self _)
  have started : p.net.Reaches _ _ ⟨.uploading reusedThird [(.second, minMultipartPartSize)]
      ⟨[.full .first .reading], [], 1, 3⟩, _, _, _⟩ :=
    Protocol.reaches_client listed .start rfl (by rintro _ ⟨⟩)
  exact ⟨_, Protocol.reaches_client started .start rfl (by rintro _ ⟨⟩)⟩

/-- The closed system comes to the check of the source. -/
theorem reaches_threeHistory {fingerprint : SourceFileFingerprint} {first second : List UInt8}
    (read_first : readPart (.content threeContent) minMultipartPartSize .first
      minMultipartPartSize = .ok first)
    (read_second : readPart (.content threeContent) minMultipartPartSize .second
      minMultipartPartSize = .ok second) :
    ∃ manifest sent answers server, (Transfer.three.fileProtocol fingerprint .plain).net.Reaches
      (.start .ready (.three .third)) (threeHistory first second)
      ⟨.checking manifest 2 1, sent, answers, server⟩ := by
  let p := Transfer.three.fileProtocol fingerprint .plain
  let put (number : PartNumber) (body : List UInt8) : Effect :=
    .send (uploadPartRequest .three number body)
  have takes : ∀ stored : RemoteSession, stored.status = .live → ∀ (number : PartNumber) body,
      p.serve (.three stored) (put number body) (.etag (some (EtagScheme.plain.etag body))) =
        some (.three (stored.put number.get body),
          .uploadPart (some (EtagScheme.plain.etag body))) := by
    intro stored live number body
    have served := @serve_upload .plain .three (.three stored) stored (Function.update_self _ _ _)
      live number body
    rwa [Remote.update_three] at served
  have two_parts : (3 + minMultipartPartSize) % 2 ^ 64 = minMultipartPartSize + 3 := rfl
  have three_parts : (minMultipartPartSize + 3 + minMultipartPartSize) % 2 ^ 64 =
      PresignedMultipart.three.plan.fileSize := rfl
  obtain ⟨answers, started⟩ := @reaches_threeStarted fingerprint
  have second_sent := reaches_part started (.read (.content threeContent))
    (@Uploads.onTask_pending .three _ [.full .first .reading] [] (.full .second .reading) _ _ _ rfl
      (by decide) (PartTask.step_read rfl read_second))
    (by rintro _ ⟨⟩)
  have first_sent := reaches_part second_sent (.read (.content threeContent))
    (@Uploads.onTask_pending .three _ [] _ (.full .first .reading) _ _ _ rfl
      (List.forall_mem_nil _) (PartTask.step_read rfl read_first))
    (by rintro _ ⟨⟩)
  have second_served := Protocol.reaches_serve first_sent 2 _ rfl (takes .third rfl .second second)
  have second_stored := reaches_part second_served
    (.answered 0 (.ok (some (EtagScheme.plain.etag second))))
    (@Uploads.onTask_uploaded .three _ ⟨[.full .first (.requesting first 1)],
      [.plain .second second], 2, minMultipartPartSize + 3⟩ [.full .first (.requesting first 1)] []
      (.full .second (.requesting second 1)) _ (.plain .second second) rfl
      (List.forall_mem_singleton.mpr PartNumber.first_ne_second)
      (PartTask.step_answered rfl (EtagScheme.plain_ne second))
      (congrArg (Uploads.mk _ _ 2) two_parts.symm))
    (by rintro _ ⟨⟩; exact List.mem_append_right _ (List.mem_singleton_self _))
  have lost := reaches_part second_stored (.answered 0 (.error .timeoutError))
    (@Uploads.onTask_pending .three _ [] _ (.full .first (.requesting first 1)) _ _ _ rfl
      (List.forall_mem_nil _) rfl)
    (by rintro _ ⟨⟩)
  have sent_again := reaches_part lost .woken
    (@Uploads.onTask_pending .three _ [] _ _ _ _ _ rfl (List.forall_mem_nil _) rfl)
    (by rintro _ ⟨⟩)
  have first_served := Protocol.reaches_serve sent_again 5 _ rfl
    (takes (RemoteSession.third.put 2 second) rfl .first first)
  have first_stored := reaches_part first_served
    (.answered 0 (.ok (some (EtagScheme.plain.etag first))))
    (@Uploads.onTask_uploaded .three _ ⟨[], [.plain .second second, .plain .first first], 3,
      PresignedMultipart.three.plan.fileSize⟩ [] [] (.full .first (.requesting first 2)) _
      (.plain .first first) rfl (List.forall_mem_nil _)
      (PartTask.step_answered rfl (EtagScheme.plain_ne first))
      (congrArg (Uploads.mk _ _ 3) three_parts.symm))
    (by rintro _ ⟨⟩; exact List.mem_append_right _ (List.mem_singleton_self _))
  rw [Transfer.afterUploads, if_pos ⟨rfl, rfl⟩] at first_stored
  exact ⟨_, _, _, _, first_stored⟩

end Several

end R2kit
