import R2kit.Managed.Account
import R2kit.Managed.Finishable

/-!
# How an adaptive upload comes to its result

`UploadFileBuilder::send` on an account that nobody else writes to, and a run on which nothing
goes wrong: the session is created, the parts are read, sent and stored one after the other, the
source is as it was, and the completion is taken. There is such a run for every content.
-/

namespace R2kit

open Misc

/-- An event of an upload whose file is this content. -/
def CallEvent.Finds (content : List UInt8) : CallEvent FileBoot RunEvent → Prop
  | .poll boot => ∀ file, boot.metadata = some file → file.len = content.length
  | .inner event => event.Reads content
  | _ => True

section SendProtocol

variable (crates : Crates) (builder : UploadFileBuilder)

/-- The answer that an event of `send` hands in. -/
def sendConsumes : SendState → SendEvent → Option (SendEffect × StoreAnswer)
  | .putting _ _ input, .put body (.ok etag) => some (.put input, .put body etag)
  | .deleting key, .deleted (.ok ()) =>
      some (.delete builder.bucket.value key.value, .deleted)
  | .multipart _ managed call, .call event =>
      (callConsumes (uploadFile crates managed) call event).map
        (Prod.map SendEffect.ofManaged StoreAnswer.managed)
  | _, _ => none

/-- `send` on an account that nobody else writes to. -/
def sendProtocol (scheme : EtagScheme) :
    Protocol SendState SendEvent SendEffect StoreAnswer Account StoreChoice Empty where
  machine := send crates builder
  consumes := sendConsumes crates builder
  serve := Account.serve scheme
  outside _ action := nomatch action

/-- Whatever looks at the file finds this content. -/
def Steady (content : List UInt8) : NetEvent SendEvent StoreChoice Empty → Prop
  | .client (.poll _ metadata) => ∀ file, metadata = some file → file.len = content.length
  | .client (.call event) => event.Finds content
  | .serve _ (.put body _) => body = content
  | _ => True

/-- Where the object of an upload stands. -/
def UploadFileBuilder.place (builder : UploadFileBuilder) (key : ObjectKey) : String × String :=
  (builder.bucket.value, key.value)

end SendProtocol

/-- An account on which nothing stands. -/
def Account.empty : Account where
  objects _ := none
  remote _ := none
  inputs address := ⟨address.bucket, address.key, ({} : ObjectUploadOptions).applyTo, none⟩

section Onward

variable {crates : Crates} {builder : UploadFileBuilder} {scheme : EtagScheme}
  {start : Net SendState SendEffect StoreAnswer Account}
  {history : History (NetEvent SendEvent StoreChoice Empty) SendEffect} {key : ObjectKey}
  {managed : ManagedMultipartBuilder} {boot : FileBoot} {session : PresignedMultipart}
  {sent : List SendEffect} {answers : List (SendEffect × StoreAnswer)} {account : Account}

/-- The multipart branch goes on. -/
theorem reaches_call {call next : CallState FileBoot RunState} {out : List Effect}
    (run : (sendProtocol crates builder scheme).net.Reaches start history
      ⟨.multipart key managed call, sent, answers, account⟩) (event : CallEvent FileBoot RunEvent)
    (moved : (managedCall managed (uploadFile crates managed)).step call event = some (next, out))
    (answered : ∀ effect response,
      callConsumes (uploadFile crates managed) call event = some (effect, response) →
      (.ofManaged effect, .managed response) ∈ answers) :
    (sendProtocol crates builder scheme).net.Reaches start
      (history ++ [(.client (.call event), out.map SendEffect.ofManaged)])
      ⟨onCall key managed next, sent ++ out.map SendEffect.ofManaged, answers, account⟩ := by
  refine Protocol.reaches_client run (.call event) ?_ ?_
  · simp only [sendProtocol, send, moved]
  · intro answer gives
    obtain ⟨⟨effect, response⟩, consumed, rfl⟩ := Option.map_eq_some_iff.mp gives
    exact answered effect response consumed

/-- `run` goes on inside the multipart branch. -/
theorem reaches_inner {inner next : RunState} {out : List Effect}
    (run : (sendProtocol crates builder scheme).net.Reaches start history
      ⟨.multipart key managed (.running boot session inner), sent, answers, account⟩)
    (event : RunEvent)
    (moved : ((Transfer.mk managed session).runFile boot.fingerprint).step inner event =
      some (next, out))
    (unsettled : ∀ result, (uploadFile crates managed).ending next ≠ some (.finished result))
    (answered : ∀ effect response,
      (Transfer.mk managed session).runConsumes inner event = some (effect, response) →
      (.ofManaged effect, .managed response) ∈ answers) :
    (sendProtocol crates builder scheme).net.Reaches start
      (history ++ [(.client (.call (.inner event)), out.map SendEffect.ofManaged)])
      ⟨.multipart key managed (.running boot session next),
        sent ++ out.map SendEffect.ofManaged, answers, account⟩ := by
  have stepped : (managedCall managed (uploadFile crates managed)).step
      (.running boot session inner) (.inner event) = some (.running boot session next, out) := by
    simp only [managedCall, uploadFile, moved]
    split
    · rename_i result ended
      exact absurd ended (unsettled result)
    · rfl
  exact reaches_call run (.inner event) stepped answered

/-- A message about sessions is answered. -/
theorem reaches_answer {client : SendState} {effect : Effect} {after : Account}
    {response : Response}
    (run : (sendProtocol crates builder scheme).net.Reaches start history
      ⟨client, sent, answers, account⟩) (index : Nat) (choice : Choice)
    (asked : sent[index]? = some (.ofManaged effect))
    (served : account.serveManaged scheme effect choice = some (after, response)) :
    (sendProtocol crates builder scheme).net.Reaches start
      (history ++ [(.serve index (.managed choice), [])])
      ⟨client, sent, answers ++ [(.ofManaged effect, .managed response)], after⟩ := by
  refine Protocol.reaches_serve run index (.managed choice) asked ?_
  cases effect with
  | create input => simp only [sendProtocol, SendEffect.ofManaged, Account.serve, served]; rfl
  | send request => simp only [sendProtocol, SendEffect.ofManaged, Account.serve, served]; rfl
  | report progress => cases served

theorem serveManaged_upload {stored : RemoteSession}
    (found : account.remote session.address = some stored) (live : stored.status = .live)
    (number : PartNumber) (body : List UInt8) :
    account.serveManaged scheme (.send (uploadPartRequest session number body))
      (.etag (some (scheme.etag body))) = some ({ account with
        remote := Function.update account.remote session.address
          (some (stored.put number.get body)) }, .uploadPart (some (scheme.etag body))) := by
  simp only [Account.serveManaged, serve_upload found live]
  rfl

theorem afterUploads_busy {reused : PartMap} {queue : List (PartNumber × Nat)}
    {uploads : Uploads} (busy : uploads.inFlight ≠ []) :
    Transfer.afterUploads reused queue uploads = .uploading reused queue uploads :=
  if_neg (fun idle => busy idle.2)

/-- The next part of the file is read, sent, stored and uploaded. -/
theorem reaches_next {content : List UInt8} {reused : PartMap} {number : PartNumber}
    {queue : List (PartNumber × Nat)} {uploaded : List UploadedPart} {count bytes : Nat}
    {stored : RemoteSession}
    (run : (sendProtocol crates builder scheme).net.Reaches start history
      ⟨.multipart key managed (.running boot session (.uploading reused ((number, blockLength
        session.plan.fileSize session.plan.partSize number.index) :: queue)
        ⟨[], uploaded, count, bytes⟩)), sent, answers, account⟩)
    (size : content.length = session.plan.fileSize)
    (planned : number.get ≤ session.plan.partCount) (parallel : 0 < managed.concurrency)
    (named : scheme.etag (sliceOf session content number) ≠ "")
    (found : account.remote session.address = some stored) (live : stored.status = .live)
    (steady : ∀ event ∈ history.events, Steady content event) :
    ∃ history' count' bytes' sent' answers',
      (sendProtocol crates builder scheme).net.Reaches start history'
        ⟨.multipart key managed (.running boot session (Transfer.afterUploads reused queue
          ⟨[], uploaded ++ [⟨number, scheme.etag (sliceOf session content number), named⟩],
            count', bytes'⟩)), sent', answers', { account with
              remote := Function.update account.remote session.address
                (some (stored.put number.get (sliceOf session content number))) }⟩ ∧
      ∀ event ∈ history'.events, Steady content event := by
  let body := sliceOf session content number
  let length := blockLength session.plan.fileSize session.plan.partSize number.index
  have read : readPart (.content content) session.plan.partSize number length = .ok body :=
    readPart_eq size planned
  have taken : ((Transfer.mk managed session).runFile boot.fingerprint).step
      (.uploading reused ((number, length) :: queue) ⟨[], uploaded, count, bytes⟩) .start =
        some (.uploading reused queue ⟨[⟨number, length, .reading⟩], uploaded, count, bytes⟩,
          []) := if_pos parallel
  have started := reaches_inner run .start taken (by simp [uploadFile]) (by rintro _ _ ⟨⟩)
  have put := reaches_inner started (.task number (.read (.content content)))
    (Transfer.runFile_part (@Uploads.onTask_pending _ _ [] [] ⟨number, length, .reading⟩ _ _ _ rfl
      (List.forall_mem_nil _) (PartTask.step_read rfl read)))
    (by simp [ending_afterUploads]) (by rintro _ _ ⟨⟩)
  rw [afterUploads_busy (by simp)] at put
  have answered := reaches_answer put sent.length (.etag (some (scheme.etag body)))
    (by simp) (serveManaged_upload found live number body)
  have done := reaches_inner answered (.task number (.answered 0 (.ok (some (scheme.etag body)))))
    (Transfer.runFile_part (@Uploads.onTask_uploaded _ _ _ [] []
      ⟨number, length, .requesting body 1⟩ _ _ rfl (List.forall_mem_nil _)
      (PartTask.step_answered rfl named) rfl))
    (by simp [ending_afterUploads]) (by
      intro effect response gives
      obtain ⟨request, awaited, same⟩ := Option.map_eq_some_iff.mp gives
      cases same
      obtain rfl : uploadPartRequest session number body = request := by
        simpa [Uploads.awaited] using awaited
      exact List.mem_append_right _ (List.mem_singleton_self _))
  refine ⟨_, _, _, _, _, done, ?_⟩
  simp only [History.events_append, History.events_singleton, List.forall_mem_append,
    List.forall_mem_singleton]
  exact ⟨⟨⟨⟨steady, trivial⟩, rfl⟩, trivial⟩, trivial⟩

/-- The session after these parts of the file were stored. -/
def RemoteSession.putSlices (session : PresignedMultipart) (content : List UInt8)
    (numbers : List PartNumber) (stored : RemoteSession) : RemoteSession :=
  numbers.foldl (fun stored number => stored.put number.get (sliceOf session content number)) stored

/-- All parts of the file are uploaded, one after the other. -/
theorem reaches_checking {content : List UInt8} {reused : PartMap}
    {numbers : List PartNumber} (some_left : numbers ≠ [])
    (size : content.length = session.plan.fileSize)
    (planned : ∀ number ∈ numbers, number.get ≤ session.plan.partCount)
    (parallel : 0 < managed.concurrency) (named : ∀ body, scheme.etag body ≠ "")
    {uploaded : List UploadedPart} {count bytes : Nat} {stored : RemoteSession}
    (run : (sendProtocol crates builder scheme).net.Reaches start history
      ⟨.multipart key managed (.running boot session (.uploading reused
        (numbers.map (fun number => (number, blockLength session.plan.fileSize
          session.plan.partSize number.index))) ⟨[], uploaded, count, bytes⟩)), sent, answers,
        account⟩)
    (found : account.remote session.address = some stored) (live : stored.status = .live)
    (steady : ∀ event ∈ history.events, Steady content event) :
    ∃ history' sent' answers', (sendProtocol crates builder scheme).net.Reaches start history'
      ⟨.multipart key managed (.running boot session
        (let all := uploaded ++ numbers.map (fun number =>
          ⟨number, scheme.etag (sliceOf session content number), named _⟩)
         .checking (insertAll UploadedPart.partNumber reused all) (asU16 all.length)
          (asU16 reused.size))), sent', answers', { account with
            remote := Function.update account.remote session.address
              (some (stored.putSlices session content numbers)) }⟩ ∧
      ∀ event ∈ history'.events, Steady content event := by
  induction numbers generalizing history uploaded count bytes stored sent answers account with
  | nil => exact absurd rfl some_left
  | cons number rest ih =>
      have inside := planned number List.mem_cons_self
      obtain ⟨history', count', bytes', sent', answers', done, steady⟩ :=
        reaches_next run size inside parallel (named _) found live steady
      by_cases last : rest = []
      · subst last
        rw [Transfer.afterUploads, if_pos ⟨rfl, rfl⟩] at done
        exact ⟨_, _, _, done, steady⟩
      · rw [Transfer.afterUploads, if_neg (by simp [last])] at done
        obtain ⟨history, sent, answers, checking, steady⟩ :=
          ih last (fun other member => planned other (List.mem_cons_of_mem _ member)) done
            (Function.update_self _ _ _) live steady
        refine ⟨history, sent, answers, ?_, steady⟩
        simpa [RemoteSession.putSlices, Function.update_idem] using checking

theorem status_putSlices {content : List UInt8} {numbers : List PartNumber}
    {stored : RemoteSession} :
    (stored.putSlices session content numbers).status = stored.status := by
  induction numbers generalizing stored with
  | nil => rfl
  | cons number rest ih => exact ih

/-- A part that is stored as its slice stays so. -/
theorem parts_putSlices_of_stored {content : List UInt8} {numbers : List PartNumber}
    {number : PartNumber} {stored : RemoteSession}
    (there : stored.parts number.get = some (sliceOf session content number)) :
    (stored.putSlices session content numbers).parts number.get =
      some (sliceOf session content number) := by
  induction numbers generalizing stored with
  | nil => exact there
  | cons other rest ih =>
      apply ih
      by_cases same : number.get = other.get
      · rw [PartNumber.ext same]
        simp [RemoteSession.put]
      · simp [RemoteSession.put, Function.update_of_ne same, there]

theorem parts_putSlices {content : List UInt8} {numbers : List PartNumber} {number : PartNumber}
    {stored : RemoteSession} (member : number ∈ numbers) :
    (stored.putSlices session content numbers).parts number.get =
      some (sliceOf session content number) := by
  induction numbers generalizing stored with
  | nil => cases member
  | cons other rest ih =>
      rcases List.mem_cons.mp member with rfl | later
      · have put : (stored.put number.get (sliceOf session content number)).parts number.get =
            some (sliceOf session content number) := Function.update_self _ _ _
        exact @parts_putSlices_of_stored session content rest number _ put
      · exact ih later

/-- A live session takes a completion of what it has stored. -/
theorem serveManaged_complete {stored : RemoteSession} {parts : List CompletedPart}
    {object : CommittedObject} (found : account.remote session.address = some stored)
    (live : stored.status = .live)
    (matched : parts.mapM (stored.partWithEtag scheme) = some object) :
    ∃ after, account.serveManaged scheme
      (.send (session.request (.completeMultipartUpload parts))) (.etag none) =
        some (after, .completeMultipartUpload none) := by
  simp [Account.serveManaged, Remote.serve, Remote.serveRequest, PresignedMultipart.request, found,
    RemoteSession.serve, live, matched]

/-- From the parts of a new upload to its result, if the source is as it was. -/
theorem reaches_returned {content : List UInt8} {stored : RemoteSession} {count : Nat}
    (metadata : Metadata) (size : content.length = session.plan.fileSize)
    (named : ∀ body, scheme.etag body ≠ "")
    (same : boot.fingerprint.matchesMetadata metadata = true)
    (run : (sendProtocol crates builder scheme).net.Reaches start history
      ⟨.multipart key managed (.running boot session (.checking (insertAll UploadedPart.partNumber ∅
        (session.plan.numbers.map (fun number =>
          ⟨number, scheme.etag (sliceOf session content number), named _⟩))) count 0)),
        sent, answers, account⟩)
    (found : account.remote session.address = some stored) (live : stored.status = .live)
    (holds : ∀ number ∈ session.plan.numbers,
      stored.parts number.get = some (sliceOf session content number))
    (steady : ∀ event ∈ history.events, Steady content event) :
    ∃ history' net', (sendProtocol crates builder scheme).net.Reaches start history' net' ∧
      net'.client = .returned (.ok ⟨key, "", session.plan.fileSize,
        .multipart session.plan.partCount⟩) ∧ ∀ event ∈ history'.events, Steady content event := by
  let all : List UploadedPart := session.plan.numbers.map (fun number =>
    ⟨number, scheme.etag (sliceOf session content number), named _⟩)
  have numbers : all.map UploadedPart.partNumber = session.plan.numbers := by
    simp [all, List.map_map, Function.comp_def]
  have distinct : (all.map UploadedPart.partNumber).Nodup := by
    rw [numbers]
    exact session.plan.nodup_numbers
  have gathered : (intoValues (insertAll UploadedPart.partNumber ∅ all)).Perm all := by
    simpa using intoValues_insertAll (m := ∅) all distinct (by simp)
  obtain ⟨completion, request, parts, covers, accepted, started⟩ :=
    Ending.start_of_planned (keyed_empty.insertAll all) count 0
      ((gathered.map _).trans (by rw [numbers]))
  obtain ⟨planned, rfl⟩ := PresignedMultipart.completeRequest_eq_ok_iff.mp accepted
  have checked := reaches_inner run (.checked (some metadata)) (Transfer.runFile_unchanged same)
    (by rw [started]; simp [uploadFile]) (by rintro _ _ ⟨⟩)
  rw [started] at checked
  obtain ⟨object, matched, -⟩ := content_of_kept size planned found (by
    intro part member
    rw [parts] at member
    obtain ⟨number, among, rfl⟩ := List.mem_map.mp (gathered.subset member)
    exact ⟨rfl, stored, found, holds number among⟩)
  obtain ⟨after, served⟩ := serveManaged_complete found live matched
  have answered := reaches_answer checked sent.length (.etag none) (by simp) served
  have completed := @reaches_call _ _ _ _ _ _ _ _ _ _ _ (.returned (.ok ⟨⟨none⟩,
    session.plan.fileSize, session.plan.partCount, count, 0⟩)) [] answered
    (.inner (.completed (.ok none))) rfl
    (by rintro _ _ ⟨⟩; exact List.mem_append_right _ (List.mem_singleton_self _))
  refine ⟨_, _, completed, rfl, ?_⟩
  simp only [History.events_append, History.events_singleton, List.forall_mem_append,
    List.forall_mem_singleton]
  exact ⟨⟨⟨steady, trivial⟩, trivial⟩, trivial⟩

/-- A new upload whose session is there can come to its result, whatever the file holds. -/
theorem reaches_result {content : List UInt8} {metadata : Metadata} {stored : RemoteSession}
    (run : (sendProtocol crates builder scheme).net.Reaches start history
      ⟨.multipart key managed (.running boot session .ready), sent, answers, account⟩)
    (fresh : managed.resume = none) (size : content.length = session.plan.fileSize)
    (parallel : 0 < managed.concurrency) (named : ∀ body, scheme.etag body ≠ "")
    (same : boot.fingerprint.matchesMetadata metadata = true)
    (found : account.remote session.address = some stored) (live : stored.status = .live)
    (steady : ∀ event ∈ history.events, Steady content event) :
    ∃ history' net', (sendProtocol crates builder scheme).net.Reaches start history' net' ∧
      net'.client = .returned (.ok ⟨key, "", session.plan.fileSize,
        .multipart session.plan.partCount⟩) ∧ ∀ event ∈ history'.events, Steady content event := by
  have planned : ∀ number ∈ session.plan.numbers, number.get ≤ session.plan.partCount :=
    fun number member => session.plan.mem_numbers.mp member
  have some_left : session.plan.numbers ≠ [] := by
    intro empty
    have count := session.plan.length_numbers
    rw [empty] at count
    exact absurd count (Nat.ne_of_lt session.plan.partCount_pos)
  have queued := reaches_inner run .poll (runFile_fresh fresh) (by simp [uploadFile])
    (by rintro _ _ ⟨⟩)
  have still : ∀ event ∈ History.events (history ++
      [((.client (.call (.inner .poll)) : NetEvent SendEvent StoreChoice Empty),
        (Uploads.progress ⟨managed, session⟩ ⟨[], [], 0, 0⟩).map SendEffect.ofManaged)]),
      Steady content event := by
    rw [History.events_append, List.forall_mem_append]
    exact ⟨steady, List.forall_mem_singleton.mpr trivial⟩
  obtain ⟨history', sent', answers', checking, steady⟩ :=
    reaches_checking some_left size planned parallel named queued found live still
  exact reaches_returned metadata size named same checking (Function.update_self _ _ _)
    (status_putSlices.trans live) (fun number member => parts_putSlices member) steady

end Onward

/-- A builder with a typed header and a custom entry. -/
def UploadFileBuilder.labelled : UploadFileBuilder :=
  { UploadFileBuilder.clip with partSize := minMultipartPartSize, options := .labelled }

/-- What its multipart branch goes by. -/
def ManagedMultipartBuilder.labelled : ManagedMultipartBuilder :=
  { ManagedMultipartBuilder.tiny with options := .labelled }

/-- The metadata of a file of three such parts. -/
def Metadata.three : Metadata := ⟨true, 2 * minMultipartPartSize + 3, some 0, 0, 0⟩

/-- Three parts up, whatever they hold, on an account on which nothing stands. -/
theorem reaches_labelled {content : List UInt8}
    (size : content.length = 2 * minMultipartPartSize + 3) :
    ∃ history net, (sendProtocol .minimal .labelled .plain).net.Reaches (.start .ready .empty)
        history net ∧
      net.client = .returned (.ok ⟨.clip, "", 2 * minMultipartPartSize + 3, .multipart 3⟩) ∧
      ∀ event ∈ history.events, Steady content event := by
  let boot : FileBoot := ⟨some .three, false⟩
  let plan := PresignedMultipart.three.plan
  obtain ⟨request, input, begun, made, same, address⟩ : ∃ request input,
      ManagedMultipartBuilder.labelled.beginFile .minimal (some .three) false =
        .creating request plan input ∧
      request.created plan (.ok (some "u")) = .ok .three ∧ request.createInput = input ∧
      input.address "u" = PresignedMultipart.three.address := ⟨_, _, rfl, rfl, rfl, rfl⟩
  have polled : (sendProtocol .minimal .labelled .plain).net.Reaches (.start .ready .empty) _
      ⟨.multipart .clip .labelled .ready, [], [], .empty⟩ :=
    Protocol.reaches_client .refl (.poll false (some .three)) rfl (by rintro _ ⟨⟩)
  have asked := @reaches_call _ _ _ _ _ _ _ _ _ _ _ (.creating boot request plan)
    [.create input] polled (.poll boot) (by simp only [managedCall, uploadFile, boot, begun])
    (by rintro _ _ ⟨⟩)
  have created := reaches_answer asked 0 (.created (some "u")) rfl rfl
  have started := @reaches_call _ _ _ _ _ _ _ _ _ _ _ (.running boot .three .ready) []
    created (.created (.ok (some "u"))) (by simp only [managedCall, plan, made]; rfl)
    (by rintro _ _ ⟨⟩; rw [same]; exact List.mem_append_right _ (List.mem_singleton_self _))
  have found : Function.update Account.empty.remote (input.address "u")
      (some (⟨.live, fun _ => none⟩ : RemoteSession)) PresignedMultipart.three.address =
        some ⟨.live, fun _ => none⟩ := by
    rw [← address]
    exact Function.update_self _ _ _
  refine reaches_result started rfl size (by decide) EtagScheme.plain_ne
    (show boot.fingerprint.matchesMetadata .three = true by decide) found rfl ?_
  simp only [History.events_append, History.events_singleton, List.forall_mem_append,
    List.forall_mem_singleton, History.events_nil]
  have finds : ∀ file, some Metadata.three = some file → file.len = content.length := by
    rintro _ ⟨⟩
    exact size.symm
  exact ⟨⟨⟨⟨List.forall_mem_nil _, finds⟩, finds⟩, trivial⟩, trivial⟩

end R2kit
