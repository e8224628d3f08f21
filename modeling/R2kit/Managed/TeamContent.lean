import R2kit.Managed.Assembly
import R2kit.Managed.Exclusive
import R2kit.Managed.Reports

/-!
# What calls on one session commit

Several calls may work on one session, one after the other or at the same time, and the
messages of calls that are gone may still arrive. As long as all of them are given the same
content, what is written as a part is its slice of that content and a completion lists the
whole plan, so that nothing but the whole content is ever committed.
-/

namespace R2kit

open Misc

section Content

variable (scheme : EtagScheme) (session : PresignedMultipart) (content : List UInt8)

/-- The content, cut as planned. -/
def wholeObject : CommittedObject :=
  session.plan.numbers.map (fun number => (number.get, sliceOf session content number))

/-- Every planned part under the ETag of its slice. -/
def wholeList : List CompletedPart :=
  session.plan.numbers.map (fun number =>
    ⟨number.get, scheme.etag (sliceOf session content number)⟩)

/-- The ETag of a part that is its slice. -/
def SliceEtag (number : PartNumber) (etag : String) : Prop :=
  etag = scheme.etag (sliceOf session content number)

/-- What may be sent to the session: parts that are their slices, and completions of them all. -/
def Effect.Fits : Effect → Prop
  | .send ⟨address, .uploadPart number _ body⟩ => address = session.address →
      ∀ planned ∈ session.plan.numbers, planned.get = number →
        body = sliceOf session content planned
  | .send ⟨address, .completeMultipartUpload parts⟩ => address = session.address →
      parts = wholeList scheme session content
  | _ => True

/-- Nothing else is stored under the planned parts, or committed. -/
structure HoldsOnly (remote : Remote) : Prop where
  parts : ∀ stored, remote session.address = some stored → ∀ number ∈ session.plan.numbers,
    ∀ body, stored.parts number.get = some body → body = sliceOf session content number
  object : ∀ object, remote.status session.address = some (.committed object) →
    object = wholeObject session content

variable {scheme session content}

theorem flatMap_wholeObject (size : content.length = session.plan.fileSize) :
    (wholeObject session content).flatMap Prod.snd = content := by
  rw [wholeObject, List.flatMap_map]
  exact session.plan.flatMap_block_numbers size

/-- ETags tell contents apart, so a list of ETags says which object it is. -/
theorem wholeObject_of_matches {object : CommittedObject}
    (matched : Remote.Matches scheme object (wholeList scheme session content)) :
    object = wholeObject session content := by
  have told : Function.Injective (fun part : Nat × List UInt8 => (part.1, scheme.etag part.2)) := by
    rintro ⟨number, body⟩ ⟨number', body'⟩ same
    rw [Prod.mk.injEq] at same
    exact Prod.ext same.1 (scheme.distinct _ _ same.2)
  apply List.map_injective_iff.mpr told
  have listed : object.map (fun part => (part.1, scheme.etag part.2)) =
      (wholeList scheme session content).map (fun part => (part.partNumber, part.eTag)) := matched
  rw [listed, wholeList, wholeObject, List.map_map, List.map_map]
  rfl

/-- A message that fits leaves the session with nothing else, and its answer tells the ETags
    of slices. -/
theorem HoldsOnly.serve {remote after : Remote} {effect : Effect} {choice : Choice}
    {response : Response} (holds : HoldsOnly session content remote)
    (fits : effect.Fits scheme session content)
    (served : remote.serve scheme effect choice = some (after, response)) :
    HoldsOnly session content after ∧
      AnswerTells session content (SliceEtag scheme session content) (effect, response) := by
  have parts : ∀ stored, after session.address = some stored →
      ∀ number ∈ session.plan.numbers, ∀ body, stored.parts number.get = some body →
        body = sliceOf session content number := by
    intro stored found number planned body is
    cases earlier : remote session.address with
    | none =>
        rw [Remote.serve_fresh served earlier found] at is
        cases is
    | some before =>
        obtain ⟨next, found', moved⟩ := Remote.serve_parts served earlier
        obtain rfl := Option.some.inj (found.symm.trans found')
        rcases moved number.get with kept | ⟨length, other, rfl, written⟩
        · exact holds.parts before earlier number planned body (by rw [← kept, is])
        · obtain rfl := Option.some.inj (is.symm.trans written)
          exact fits rfl number planned rfl
  refine ⟨⟨parts, ?_⟩, ?_⟩
  · intro object committed
    rcases Remote.committed_of_serve served committed with before | ⟨list, rfl, matched⟩
    · exact holds.object object before
    · rw [fits rfl] at matched
      exact wholeObject_of_matches matched
  · unfold AnswerTells
    split
    · rename_i request etag same
      cases same
      rintro number planned rfl
      exact (Remote.serve_uploaded served).1
    · rename_i request output same
      cases same
      intro addressed listed member number planned named
      obtain ⟨stored, found, all⟩ := Remote.serve_listed served
      obtain ⟨raw, body, is_number, is, etag_eq⟩ := all listed member
      rw [named, Option.some.injEq, Int.natCast_inj] at is_number
      subst is_number
      rw [addressed] at found
      obtain rfl := parts stored found number planned body is
      exact ⟨_, etag_eq, rfl⟩
    · trivial

/-- Parts that fit, without a completion. -/
theorem fits_of_slices {outputs : List Effect}
    (sends : SendsSlices session content session.plan.numbers outputs)
    (uncompleted : Uncompleted outputs) :
    ∀ effect ∈ outputs, effect.Fits scheme session content := by
  intro effect member
  have quiet := uncompleted effect member
  unfold Effect.Fits
  split
  · rintro - planned among rfl
    obtain ⟨number, -, same⟩ := sends _ member rfl
    simp only [uploadPartRequest, PresignedMultipart.request, Request.mk.injEq,
      Operation.uploadPart.injEq] at same
    obtain ⟨-, number_eq, -, rfl⟩ := same
    rw [PartNumber.ext number_eq]
    rfl
  · cases quiet
  · trivial

/-- The completion of all planned parts fits, if their ETags are those of slices. -/
theorem fits_start {manifest : PartMap} (keyed : Keyed UploadedPart.partNumber manifest)
    (planned : ((intoValues manifest).map UploadedPart.partNumber).Perm session.plan.numbers)
    (known : ∀ part ∈ intoValues manifest,
      SliceEtag scheme session content part.partNumber part.etag)
    (uploadedParts reusedParts : Nat) :
    ∀ effect ∈ (Ending.start session manifest uploadedParts reusedParts).2,
      effect.Fits scheme session content := by
  obtain ⟨completion, request, parts, covers, accepted, started⟩ :=
    Ending.start_of_planned keyed uploadedParts reusedParts planned
  obtain ⟨numbers, rfl⟩ := PresignedMultipart.completeRequest_eq_ok_iff.mp accepted
  rw [started]
  intro effect sent
  obtain rfl := List.mem_singleton.mp sent
  intro _
  rw [wholeList, ← numbers, List.map_map]
  apply List.map_congr_left
  intro part member
  rw [parts] at member
  rw [known part member]
  rfl

end Content

section Members

variable {scheme : EtagScheme} {session : PresignedMultipart} {content : List UInt8}
  {builder : ManagedMultipartBuilder} {answers : List (Effect × Response)} {out : List Effect}

/-- The invariant of `run` among others: what it has put together so far are slices. -/
def FileMember (scheme : EtagScheme) (transfer : Transfer) (content : List UInt8)
    (s : RunState) : Prop :=
  ∃ history, FileInvariant transfer content history s ∧
    Vouched (SliceEtag scheme transfer.session content) transfer.session.plan history

theorem fileMember_ready {transfer : Transfer} : FileMember scheme transfer content .ready :=
  ⟨[], rfl, fun _ _ member => absurd member List.not_mem_nil, List.forall_mem_nil _⟩

theorem prepare_uncompleted {transfer : Transfer} (existing : List UploadedPart) :
    Uncompleted (transfer.prepare existing).2 := by
  have quiet : ∀ uploads : Uploads, Uncompleted (uploads.progress transfer) :=
    fun uploads effect member => (Uploads.progress_quiet effect member).1
  unfold Transfer.prepare
  split
  · exact uncompleted_nil
  · split
    · exact quiet _
    · exact quiet _

/-- `run` asks for the completion only when it has looked at the source again. -/
theorem runFile_uncompleted {transfer : Transfer} {fingerprint : SourceFileFingerprint}
    {s s' : RunState} {event : RunEvent}
    (taken : transfer.RunStep fingerprint s event s' out)
    (busy : ∀ manifest uploadedCount reusedCount,
      s ≠ .checking manifest uploadedCount reusedCount) :
    Uncompleted out := by
  cases taken with
  | list resumed => exact List.forall_mem_singleton.mpr rfl
  | fresh new => exact prepare_uncompleted _
  | unlisted failed => exact uncompleted_nil
  | page accepted => exact List.forall_mem_singleton.mpr rfl
  | lastPage accepted => exact prepare_uncompleted _
  | start room => exact uncompleted_nil
  | partFailed failed => exact uncompleted_nil
  | part moved => exact fun effect member => (Uploads.onTask_quiet moved effect member).1
  | changed differs => exact uncompleted_nil
  | unchanged same => exact absurd rfl (busy _ _ _)
  | completed => exact uncompleted_nil

/-- A step of `run` keeps the invariant, and what it sends fits. -/
theorem fileMember_step {transfer : Transfer} {fingerprint : SourceFileFingerprint}
    {s s' : RunState} {event : RunEvent}
    (size : content.length = transfer.session.plan.fileSize) (reads : event.Reads content)
    (member : FileMember scheme transfer content s)
    (tells : ∀ answer ∈ answers,
      AnswerTells transfer.session content (SliceEtag scheme transfer.session content) answer)
    (answered : ∀ answer, transfer.runConsumes s event = some answer → answer ∈ answers)
    (taken : (transfer.runFile fingerprint).step s event = some (s', out)) :
    FileMember scheme transfer content s' ∧
      ∀ effect ∈ out, effect.Fits scheme transfer.session content := by
  obtain ⟨history, client, vouched⟩ := member
  have next := fileInvariant_step size reads client taken
  refine ⟨⟨_, next, vouched.step client tells answered taken⟩, ?_⟩
  have sends : SendsSlices transfer.session content transfer.session.plan.numbers out := by
    intro request sent upload
    apply next.sends request _ upload
    rw [History.outputs_snoc]
    exact List.mem_append_right _ sent
  by_cases busy : ∀ manifest uploadedCount reusedCount,
      s ≠ .checking manifest uploadedCount reusedCount
  · exact fits_of_slices sends (runFile_uncompleted (Transfer.runStep_of_step taken) busy)
  · simp only [not_forall, not_not] at busy
    obtain ⟨manifest, uploadedCount, reusedCount, rfl⟩ := busy
    cases Transfer.runStep_of_step taken with
    | changed differs => exact List.forall_mem_nil _
    | unchanged same =>
        obtain ⟨existing, uploaded, accounted, -, -, keyed, gathered, numbers⟩ := client.gathered
        apply fits_start keyed numbers
        intro part among
        exact vouched.known_of accounted (List.mem_append.mp (gathered.subset among))

/-- The invariant of `run_stream` among others. -/
def StreamMember (scheme : EtagScheme) (transfer : Transfer) (supplied content : List UInt8)
    (s : StreamState) : Prop :=
  (∃ history, StreamInvariant transfer supplied history s) ∧
    ∀ pipeline, s = .running pipeline → ∀ part ∈ pipeline.uploads.uploaded,
      SliceEtag scheme transfer.session content part.partNumber part.etag

theorem streamMember_start {transfer : Transfer} {supplied : List UInt8} :
    StreamMember scheme transfer supplied content
      (StreamState.start transfer.session.plan supplied) := by
  refine ⟨⟨[], streamInvariant_start⟩, ?_⟩
  rintro pipeline ⟨⟩
  exact List.forall_mem_nil _

/-- A part that is uploaded has the ETag that was answered. -/
theorem streamMember_uploaded {transfer : Transfer} {supplied : List UInt8} {pipeline : Pipeline}
    {received : List StreamPart} {number : PartNumber} {event : TaskEvent} {next : Uploads}
    (supplies : supplied.take transfer.session.plan.fileSize = content)
    (sound : PipelineInvariant transfer.session.plan supplied received pipeline)
    (known : ∀ part ∈ pipeline.uploads.uploaded,
      SliceEtag scheme transfer.session content part.partNumber part.etag)
    (tells : ∀ answer ∈ answers,
      AnswerTells transfer.session content (SliceEtag scheme transfer.session content) answer)
    (answered : ∀ answer, transfer.streamConsumes (.running pipeline) (.task number event) =
      some answer → answer ∈ answers)
    (moved : pipeline.uploads.onTask transfer number event = some (.running next out)) :
    ∀ part ∈ next.uploaded,
      SliceEtag scheme transfer.session content part.partNumber part.etag := by
  subst supplies
  obtain ⟨sound_next, advances⟩ := sound.part moved
  intro part member
  have entry : part.answer ∈ pipeline.uploads.uploaded.map UploadedPart.answer ++
      event.success number := by
    rw [← advances.results]
    exact List.mem_map_of_mem member
  rcases List.mem_append.mp entry with before | new
  · obtain ⟨old, among, same⟩ := List.mem_map.mp before
    simp only [UploadedPart.answer, Prod.mk.injEq, Option.some.injEq] at same
    rw [← same.1, ← same.2]
    exact known old among
  · have planned : part.partNumber ∈ transfer.session.plan.numbers := by
      apply transfer.session.plan.mem_numbers.mpr
      apply sound_next.parts.planned
      exact List.mem_append_right [] (List.mem_append_left _ (List.mem_map_of_mem member))
    cases event with
    | answered random answer =>
        cases answer with
        | error error => cases new
        | ok told =>
            simp only [TaskEvent.success, UploadedPart.answer, List.mem_singleton,
              Prod.mk.injEq] at new
            obtain ⟨rfl, rfl⟩ := new
            have awaited := Uploads.awaited_eq moved
              (fun task among => (sound.tasks task among).holds)
            have handed := answered _ (by simp only [Transfer.streamConsumes, awaited]; rfl)
            exact tells _ handed part.partNumber planned rfl
    | read view => cases new
    | woken => cases new

/-- A step of `run_stream` keeps the invariant, and what it sends fits. -/
theorem streamMember_step {transfer : Transfer} {supplied : List UInt8} {s s' : StreamState}
    {event : StreamEvent} (supplies : supplied.take transfer.session.plan.fileSize = content)
    (member : StreamMember scheme transfer supplied content s)
    (tells : ∀ answer ∈ answers,
      AnswerTells transfer.session content (SliceEtag scheme transfer.session content) answer)
    (answered : ∀ answer, transfer.streamConsumes s event = some answer → answer ∈ answers)
    (taken : transfer.runStream.step s event = some (s', out)) :
    StreamMember scheme transfer supplied content s' ∧
      ∀ effect ∈ out, effect.Fits scheme transfer.session content := by
  obtain ⟨⟨history, client⟩, known⟩ := member
  have next := streamInvariant_step client taken
  have sends : SendsSlices transfer.session content transfer.session.plan.numbers out := by
    intro request sent upload
    rw [← supplies]
    apply next.sends request _ upload
    rw [History.outputs_snoc]
    exact List.mem_append_right _ sent
  cases Transfer.streamStep_of_step taken with
  | @reader pipeline event reader sent isOpen moved room =>
      refine ⟨⟨⟨_, next⟩, ?_⟩, List.forall_mem_nil _⟩
      rintro other ⟨⟩
      exact known pipeline rfl
  | @recv reader part queue uploads room =>
      refine ⟨⟨⟨_, next⟩, ?_⟩, fits_of_slices sends (List.forall_mem_singleton.mpr rfl)⟩
      rintro other ⟨⟩
      exact known ⟨reader, part :: queue, uploads⟩ rfl
  | partFailed failed =>
      exact ⟨⟨⟨_, next⟩, fun pipeline other => nomatch other⟩, List.forall_mem_nil _⟩
  | part moved =>
      obtain ⟨received, sound⟩ := client.pipeline _ rfl
      refine ⟨⟨⟨_, next⟩, ?_⟩, fits_of_slices sends
        (fun effect among => (Uploads.onTask_quiet moved effect among).1)⟩
      rintro pipeline ⟨⟩
      exact streamMember_uploaded supplies sound (known _ rfl) tells answered moved
  | @drained pipeline result joined queue_empty none_left =>
      obtain ⟨received, sound⟩ := client.pipeline _ rfl
      cases result with
      | error error =>
          exact ⟨⟨⟨_, next⟩, fun pipeline other => nomatch other⟩, List.forall_mem_nil _⟩
      | ok passed =>
          refine ⟨⟨⟨_, next⟩, fun pipeline other => nomatch other⟩, ?_⟩
          have numbers := sound.uploaded_all joined queue_empty none_left
          have distinct := numbers.nodup_iff.mpr transfer.session.plan.nodup_numbers
          have gathered :=
            intoValues_insertAll (m := ∅) pipeline.uploads.uploaded distinct (by simp)
          rw [intoValues_empty, List.append_nil] at gathered
          apply fits_start (keyed_empty.insertAll pipeline.uploads.uploaded)
            ((gathered.map UploadedPart.partNumber).trans numbers)
          intro part among
          exact known pipeline rfl part (gathered.subset among)
  | completed => exact ⟨⟨⟨_, next⟩, fun pipeline other => nomatch other⟩, List.forall_mem_nil _⟩

end Members

section Addresses

variable {transfer : Transfer} {out : List Effect}

/-- A message that is not about another session. -/
def Effect.Within (session : PresignedMultipart) : Effect → Prop
  | .send request => request.address = session.address
  | _ => True

theorem Uploads.progress_within {uploads : Uploads} :
    ∀ effect ∈ uploads.progress transfer, effect.Within transfer.session := by
  intro effect reported
  obtain ⟨progress, rfl⟩ := Uploads.progress_report reported
  trivial

theorem Uploads.onTask_within {uploads next : Uploads} {number : PartNumber} {event : TaskEvent}
    (taken : uploads.onTask transfer number event = some (.running next out)) :
    ∀ effect ∈ out, effect.Within transfer.session := by
  obtain ⟨_, task, _, -, -, ⟨moved, stepped, -⟩ | ⟨part, -, -, rfl⟩⟩ := Uploads.running_cases taken
  · rcases PartTask.pending_cases stepped with ⟨_, body, -, -, -, -, rfl⟩ |
      ⟨_, _, _, _, _, -, -, -, -, rfl⟩ | ⟨body, _, _, -, -, -, rfl⟩
    · exact List.forall_mem_singleton.mpr rfl
    · exact List.forall_mem_nil _
    · exact List.forall_mem_singleton.mpr rfl
  · exact Uploads.progress_within

theorem within_start (session : PresignedMultipart) (manifest : PartMap)
    (uploadedParts reusedParts : Nat) :
    ∀ effect ∈ (Ending.start session manifest uploadedParts reusedParts).2,
      effect.Within session := by
  rcases Ending.start_cases session manifest uploadedParts reusedParts with
    ⟨error, started⟩ | ⟨completion, request, accepted, started⟩
  · rw [started]
    exact List.forall_mem_nil _
  · obtain ⟨-, rfl⟩ := PresignedMultipart.completeRequest_eq_ok_iff.mp accepted
    rw [started]
    exact List.forall_mem_singleton.mpr rfl

theorem prepare_within (existing : List UploadedPart) :
    ∀ effect ∈ (transfer.prepare existing).2, effect.Within transfer.session := by
  unfold Transfer.prepare
  split
  · exact List.forall_mem_nil _
  · split
    · exact Uploads.progress_within
    · exact Uploads.progress_within

theorem runFile_within {fingerprint : SourceFileFingerprint} {s s' : RunState} {event : RunEvent}
    (taken : (transfer.runFile fingerprint).step s event = some (s', out)) :
    ∀ effect ∈ out, effect.Within transfer.session := by
  cases Transfer.runStep_of_step taken with
  | list resumed => exact List.forall_mem_singleton.mpr rfl
  | fresh new => exact prepare_within _
  | unlisted failed => exact List.forall_mem_nil _
  | page accepted => exact List.forall_mem_singleton.mpr rfl
  | lastPage accepted => exact prepare_within _
  | start room => exact List.forall_mem_nil _
  | partFailed failed => exact List.forall_mem_nil _
  | part moved => exact Uploads.onTask_within moved
  | changed differs => exact List.forall_mem_nil _
  | unchanged same => exact within_start _ _ _ _
  | completed => exact List.forall_mem_nil _

theorem runStream_within {s s' : StreamState} {event : StreamEvent}
    (taken : transfer.runStream.step s event = some (s', out)) :
    ∀ effect ∈ out, effect.Within transfer.session := by
  cases Transfer.streamStep_of_step taken with
  | reader isOpen moved room => exact List.forall_mem_nil _
  | recv room => exact List.forall_mem_singleton.mpr rfl
  | partFailed failed => exact List.forall_mem_nil _
  | part moved => exact Uploads.onTask_within moved
  | @drained pipeline result joined queue_empty none_left =>
      cases result with
      | error error => exact List.forall_mem_nil _
      | ok passed => exact within_start _ _ _ _
  | completed => exact List.forall_mem_nil _

/-- A message about another session fits. -/
theorem fits_of_within {scheme : EtagScheme} {session other : PresignedMultipart}
    {content : List UInt8} {effect : Effect} (within : effect.Within other)
    (elsewhere : other.address ≠ session.address) : effect.Fits scheme session content := by
  unfold Effect.Fits
  split
  · intro here
    exact absurd (within.symm.trans here) elsewhere
  · intro here
    exact absurd (within.symm.trans here) elsewhere
  · trivial

end Addresses

namespace UploadCall

variable {scheme : EtagScheme} {session : PresignedMultipart} {content : List UInt8}

/-- All that a call reads is this content. -/
def Supplies (content : List UInt8) :
    (call : UploadCall) → List (CallEvent call.Boot call.InnerEvent) → Prop
  | .file _, events => ∀ event, .inner event ∈ events → event.Reads content
  | .stream _ supplied _, _ => supplied.take content.length = content

theorem Supplies.mono {call : UploadCall} {events more : List (CallEvent call.Boot call.InnerEvent)}
    (supplies : call.Supplies content (events ++ more)) : call.Supplies content events := by
  cases call with
  | file builder => exact fun event member => supplies event (List.mem_append_left _ member)
  | stream builder supplied fileSize => exact supplies

/-- The invariant of a running call that works on the session. -/
def Member (scheme : EtagScheme) (session : PresignedMultipart) (content : List UInt8) :
    (call : UploadCall) → call.Inner → Prop
  | .file builder, s => FileMember scheme ⟨builder, session⟩ content s
  | .stream builder supplied _, s => StreamMember scheme ⟨builder, session⟩ supplied content s

theorem member_initial (crates : Crates) (call : UploadCall) :
    call.Member scheme session content ((call.entry crates).initial session) := by
  cases call with
  | file builder => exact fileMember_ready
  | stream builder supplied fileSize =>
      exact @streamMember_start scheme content ⟨builder, session⟩ supplied

theorem member_step {crates : Crates} {call : UploadCall} {boot : call.Boot}
    {inner next : call.Inner} {event : call.InnerEvent} {out : List Effect}
    {events : List (CallEvent call.Boot call.InnerEvent)} {answers : List (Effect × Response)}
    (size : content.length = session.plan.fileSize) (supplies : call.Supplies content events)
    (among : .inner event ∈ events) (member : call.Member scheme session content inner)
    (tells : ∀ answer ∈ answers,
      AnswerTells session content (SliceEtag scheme session content) answer)
    (answered : ∀ answer, (call.entry crates).consumes session inner event = some answer →
      answer ∈ answers)
    (taken : ((call.entry crates).machine boot session).step inner event = some (next, out)) :
    call.Member scheme session content next ∧
      ∀ effect ∈ out, effect.Fits scheme session content := by
  cases call with
  | file builder => exact fileMember_step size (supplies event among) member tells answered taken
  | stream builder supplied fileSize =>
      refine streamMember_step ?_ member tells answered taken
      rw [← size]
      exact supplies

theorem within_step {crates : Crates} {call : UploadCall} {boot : call.Boot}
    {inner next : call.Inner} {event : call.InnerEvent} {out : List Effect}
    (taken : ((call.entry crates).machine boot session).step inner event = some (next, out)) :
    ∀ effect ∈ out, effect.Within session := by
  cases call with
  | file builder => exact runFile_within taken
  | stream builder supplied fileSize => exact runStream_within taken

end UploadCall

section Team

variable {ι : Type} {crates : Crates} {calls : ι → UploadCall} {scheme : EtagScheme}
  {session : PresignedMultipart} {content : List UInt8}

/-- After an error the future of a call is gone, and nothing but an abort is sent. -/
theorem afterStartError_fits {Boot S : Type} {builder : ManagedMultipartBuilder}
    {other : PresignedMultipart} {error : Error} {state : CallState Boot S} {sent : List Effect}
    (left : afterStartError builder other error = (state, sent)) :
    (∀ boot found inner, state ≠ .running boot found inner) ∧
      ∀ effect ∈ sent, effect.Fits scheme session content := by
  unfold afterStartError at left
  split at left
  · cases left
    exact ⟨fun _ _ _ => nofun, List.forall_mem_singleton.mpr trivial⟩
  · cases left
    exact ⟨fun _ _ _ => nofun, List.forall_mem_nil _⟩

theorem settle_fits {Boot S : Type} {builder : ManagedMultipartBuilder}
    {other : PresignedMultipart} {result : Outcome ManagedUploadResult} {state : CallState Boot S}
    {sent : List Effect} (left : settle builder other result = (state, sent)) :
    (∀ boot found inner, state ≠ .running boot found inner) ∧
      ∀ effect ∈ sent, effect.Fits scheme session content := by
  unfold settle at left
  split at left
  · cases left
    exact ⟨fun _ _ _ => nofun, List.forall_mem_nil _⟩
  · cases left
    exact ⟨fun _ _ _ => nofun, List.forall_mem_nil _⟩
  · exact afterStartError_fits left

/-- A step of a call: what it sends fits, and if it works on the session its invariant is
    kept. -/
theorem call_step {call : UploadCall} {events : List (CallEvent call.Boot call.InnerEvent)}
    {sent out : List Effect} {answers : List (Effect × Response)}
    {s s' : CallState call.Boot call.Inner} {event : CallEvent call.Boot call.InnerEvent}
    (size : content.length = session.plan.fileSize)
    (agrees : ∀ other, onSession (call.entry crates) (events ++ [event]) = some other →
      other.address = session.address →
      other = session ∧ call.Supplies content (events ++ [event]))
    (client : ClientInvariant (call.entry crates) events sent answers s)
    (member : ∀ boot inner, s = .running boot session inner →
      call.Member scheme session content inner)
    (tells : ∀ answer ∈ answers,
      AnswerTells session content (SliceEtag scheme session content) answer)
    (answered : ∀ answer, callConsumes (call.entry crates) s event = some answer →
      answer ∈ answers)
    (taken : (managedCall call.builder (call.entry crates)).step s event = some (s', out)) :
    (∀ boot inner, s' = .running boot session inner →
      call.Member scheme session content inner) ∧
      ∀ effect ∈ out, effect.Fits scheme session content := by
  -- a step of the future on its session, which is this one or has another address
  have inner_step : ∀ boot found inner next event' moved, s = .running boot found inner →
      event = .inner event' →
      ((call.entry crates).machine boot found).step inner event' = some (next, moved) →
      (found = session → call.Member scheme session content next) ∧
        ∀ effect ∈ moved, effect.Fits scheme session content := by
    rintro boot found inner next event' moved rfl rfl stepped
    have known := onSession_append client.1 [.inner event']
    by_cases here : found.address = session.address
    · obtain ⟨rfl, supplies⟩ := agrees found known here
      obtain ⟨kept, fits⟩ := UploadCall.member_step size supplies
        (List.mem_append_right events (List.mem_singleton_self _)) (member boot inner rfl) tells
        answered stepped
      exact ⟨fun _ => kept, fits⟩
    · refine ⟨fun same => absurd (congrArg PresignedMultipart.address same) here, ?_⟩
      intro effect among
      exact fits_of_within (UploadCall.within_step stepped effect among) here
  cases callStep_of_step taken with
  | failed failed => exact ⟨fun _ _ => nofun, List.forall_mem_nil _⟩
  | create new => exact ⟨fun _ _ => nofun, List.forall_mem_singleton.mpr trivial⟩
  | resume resumed =>
      refine ⟨?_, List.forall_mem_nil _⟩
      rintro boot inner ⟨⟩
      exact UploadCall.member_initial crates call
  | uncreated failed => exact ⟨fun _ _ => nofun, List.forall_mem_nil _⟩
  | created made =>
      refine ⟨?_, List.forall_mem_nil _⟩
      rintro boot inner ⟨⟩
      exact UploadCall.member_initial crates call
  | inner moved unsettled =>
      obtain ⟨kept, fits⟩ := inner_step _ _ _ _ _ _ rfl rfl moved
      refine ⟨?_, fits⟩
      rintro boot inner ⟨⟩
      exact kept rfl
  | settled moved finished left =>
      obtain ⟨-, fits⟩ := inner_step _ _ _ _ _ _ rfl rfl moved
      obtain ⟨gone, silent⟩ := settle_fits left
      exact ⟨fun boot inner running => absurd running (gone _ _ _),
        List.forall_mem_append.mpr ⟨fits, silent⟩⟩
  | cancelled token left =>
      obtain ⟨gone, silent⟩ := afterStartError_fits left
      exact ⟨fun boot inner running => absurd running (gone _ _ _), silent⟩
  | aborted => exact ⟨fun _ _ => nofun, List.forall_mem_nil _⟩

variable [DecidableEq ι]

/-- The invariant of the team: every message fits, whoever sent it. -/
structure TeamHolds (scheme : EtagScheme) (calls : ι → UploadCall) (session : PresignedMultipart)
    (content : List UInt8) (net : TeamNet ι (CallStates calls) Effect Response Remote) :
    Prop where
  server : HoldsOnly session content net.server
  sent : ∀ i, ∀ effect ∈ net.sent i, effect.Fits scheme session content
  answers : ∀ i, ∀ answer ∈ net.answers i,
    AnswerTells session content (SliceEtag scheme session content) answer
  members : ∀ i boot inner, net.clients i = .running boot session inner →
    (calls i).Member scheme session content inner

/-- All calls on the session agree about it, and are given the same content. -/
def Agree (crates : Crates) (calls : ι → UploadCall) (session : PresignedMultipart)
    (content : List UInt8) (history : History (TeamEvent ι (CallEvents calls) Choice) Effect) :
    Prop :=
  ∀ i other, WorksOn crates calls history i other → other.address = session.address →
    other = session ∧ (calls i).Supplies content (memberHistory i history).events

theorem Agree.mono {history more : History (TeamEvent ι (CallEvents calls) Choice) Effect}
    (agree : Agree crates calls session content (history ++ more)) :
    Agree crates calls session content history := by
  intro i other works addressed
  obtain ⟨same, supplies⟩ := agree i other works.mono addressed
  rw [memberHistory_append, History.events_append] at supplies
  exact ⟨same, supplies.mono⟩

theorem teamHolds_of_reaches {remote : Remote}
    {history : History (TeamEvent ι (CallEvents calls) Choice) Effect}
    {net : TeamNet ι (CallStates calls) Effect Response Remote}
    (size : content.length = session.plan.fileSize) (holds : HoldsOnly session content remote)
    (agree : Agree crates calls session content history)
    (run : (callTeam crates calls scheme).net.Reaches
      (TeamNet.start (fun _ => .ready) remote) history net) :
    TeamHolds scheme calls session content net := by
  induction run with
  | refl =>
      exact ⟨holds, fun _ => List.forall_mem_nil _, fun _ => List.forall_mem_nil _,
        fun _ _ _ => nofun⟩
  | snoc before taken ih =>
      have team := ih agree.mono
      rcases Team.net_step_cases taken with ⟨i, e, client, rfl, answered, stepped, rfl⟩ |
        ⟨i, _, choice, effect, server, response, rfl, sent, served, -, rfl⟩
      · have works := agree i
        simp only [WorksOn, memberHistory_append, memberHistory_self, History.events_append,
          History.events_singleton] at works
        obtain ⟨kept, fits⟩ := call_step size works (clientInvariant_of_team before i)
          (team.members i) (team.answers i) answered stepped
        refine ⟨team.server, ?_, team.answers, ?_⟩
        · intro j effect member
          rcases mem_update_append.mp member with earlier | ⟨rfl, now⟩
          · exact team.sent j effect earlier
          · exact fits effect now
        · intro j boot inner running
          by_cases same : j = i
          · subst same
            exact kept boot inner (by simpa using running)
          · exact team.members j boot inner (by simpa [same] using running)
      · obtain ⟨server_holds, told⟩ := team.server.serve (team.sent i effect sent) served
        refine ⟨server_holds, team.sent, ?_, team.members⟩
        intro j answer member
        rcases mem_update_append.mp member with earlier | ⟨rfl, now⟩
        · exact team.answers j answer earlier
        · rw [List.mem_singleton.mp now]
          exact told

/-- Any number of uploads of the same content to one session, at the same time, crashed,
    resumed, cancelled or aborting, and whatever of their messages arrives when: at every
    moment the session holds nothing but slices of the content under the planned parts, it is
    never committed as anything but the whole content, and it is so once a call has
    returned a result. -/
theorem team_commits_content (crates : Crates) (calls : ι → UploadCall) (scheme : EtagScheme)
    (session : PresignedMultipart) (content : List UInt8) (remote : Remote)
    (history : History (TeamEvent ι (CallEvents calls) Choice) Effect)
    (net : TeamNet ι (CallStates calls) Effect Response Remote)
    (size : content.length = session.plan.fileSize) (holds : HoldsOnly session content remote)
    (agree : Agree crates calls session content history)
    (run : (callTeam crates calls scheme).net.Reaches
      (TeamNet.start (fun _ => .ready) remote) history net) :
    HoldsOnly session content net.server ∧
      (∀ object, net.server.status session.address = some (.committed object) →
        object.flatMap Prod.snd = content) ∧
      ∀ i result, net.clients i = .returned (.ok result) →
        WorksOn crates calls history i session →
        net.server.status session.address = some (.committed (wholeObject session content)) := by
  have team := teamHolds_of_reaches size holds agree run
  refine ⟨team.server, ?_, ?_⟩
  · intro object committed
    rw [team.server.object object committed]
    exact flatMap_wholeObject size
  · intro i result returned works
    have client := clientInvariant_of_team run i
    rw [returned] at client
    obtain ⟨⟨found, request, etag, known, ⟨parts, rfl⟩, member⟩, -, -⟩ := client
    obtain rfl : session = found := Option.some.inj (works.symm.trans known)
    obtain ⟨object, committed, -⟩ := (answeredOnce_of_reaches run).holds i _ member
    rw [← team.server.object object committed]
    exact committed

end Team

/-- The call that is gone has stored the part that the resumed one commits. -/
theorem team_commits_content_resumed :
    ∃ (history : History (TeamEvent Bool (CallEvents resumedCalls) Choice) Effect)
      (net : TeamNet Bool (CallStates resumedCalls) Effect Response Remote),
      WorksOn .minimal resumedCalls history true .tiny ∧
        resultOf (net.clients true) = some ⟨⟨none⟩, 3, 1, 0, 1⟩ ∧
        HoldsOnly .tiny [1, 2, 3] net.server ∧
        net.server.status PresignedMultipart.tiny.address =
          some (.committed (wholeObject .tiny [1, 2, 3])) := by
  have executed : (((callTeam .minimal resumedCalls .plain).net.exec
      (TeamNet.start (fun _ => .ready) (fun _ => none)) resumedEvents).map
        (fun final => resultOf (final.2.clients true))) =
          some (some ⟨⟨none⟩, 3, 1, 0, 1⟩) := by decide
  obtain ⟨⟨history, net⟩, reached, is⟩ := Option.map_eq_some_iff.mp executed
  have on_tiny : ∀ i, onSession ((resumedCalls i).entry .minimal)
      (memberHistory i history).events = some .tiny := by
    intro i
    rw [events_memberHistory, Machine.events_of_exec reached]
    cases i with
    | false => rfl
    | true => rfl
  have agree : Agree .minimal resumedCalls .tiny [1, 2, 3] history := by
    intro i other works _
    refine ⟨(Option.some.inj ((on_tiny i).symm.trans works)).symm, ?_⟩
    intro event
    rw [events_memberHistory, Machine.events_of_exec reached]
    cases i with
    | false =>
        show CallEvent.inner event ∈ [CallEvent.poll _, .created _, .inner .poll, .inner .start,
          .inner (.task ⟨1, _⟩ (.read (.content [1, 2, 3])))] → _
        simp only [List.mem_cons, List.not_mem_nil, reduceCtorEq, CallEvent.inner.injEq,
          false_or, or_false]
        rintro (rfl | rfl | rfl)
        · trivial
        · trivial
        · rfl
    | true =>
        show CallEvent.inner event ∈ [CallEvent.poll _, .inner .poll, .inner (.listed _),
          .inner (.checked _), .inner (.completed _)] → _
        simp only [List.mem_cons, List.not_mem_nil, reduceCtorEq, CallEvent.inner.injEq,
          false_or, or_false]
        rintro (rfl | rfl | rfl | rfl)
        · trivial
        · trivial
        · trivial
        · trivial
  have empty : HoldsOnly .tiny [1, 2, 3] (fun _ => none) := by
    constructor
    · rintro stored ⟨⟩
    · rintro object ⟨⟩
  obtain ⟨holds, -, commits⟩ := team_commits_content .minimal resumedCalls .plain .tiny [1, 2, 3]
    (fun _ => none) history net rfl empty agree (Machine.reaches_of_exec reached)
  exact ⟨history, net, on_tiny true, is, holds,
    commits true _ (returned_of_resultOf is) (on_tiny true)⟩

end R2kit
