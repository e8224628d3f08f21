import R2kit.Managed.Finishable
import R2kit.Managed.TeamContent
import R2kit.Multipart.Presign
import R2kit.Multipart.Receipts

/-!
# Uploads that are handed out

The protocol of a server that hands presigned part requests to uploaders, collects their receipts
and completes the session with them: `presign_part` and `presign_part_with_md5`,
`try_from_receipts` and `complete` of `src/multipart.rs` together. Answers may be lost, parts may
be uploaded again, and others may do anything to the account in between.
-/

namespace R2kit

open Misc

/-- The upload that a presigned request is used for. -/
def UploadPartInput.upload (request : UploadPartInput) (headers : UploadHeaders)
    (body : List UInt8) : Request :=
  ⟨request.address, .uploadPart request.partNumber headers.contentLength body⟩

/-- A request that is answered with an ETag, or without one. -/
def Remote.take (scheme : EtagScheme) (remote : Remote) (request : Request)
    (eTag : Option String) : Option (Remote × Response) :=
  remote.serve scheme (.send request) (.etag eTag)

/-- Every upload is of the slice that is its part. A receipt is what an uploader has heard of the
    ETag, and reports. -/
inductive Collects {S : Type} (take : S → Request → Option String → Option (S × Response))
    (md5 : List UInt8 → List UInt8) (session : PresignedMultipart) (content : List UInt8)
    (others : S → S → Prop) (start : S) : S → List MultipartPartReceipt → Prop
  | begins : Collects take md5 session content others start start []
  | uploaded {now after : S} {receipts : List MultipartPartReceipt} {call : PresignCall}
      {presigned : PresignedUploadPart} {headers : UploadHeaders} {body : List UInt8}
      {eTag heard : Option String}
      (before : Collects take md5 session content others start now receipts)
      (signed : call.run session = .ok presigned)
      (accepted : presigned.request.accepts md5 headers body = true)
      (meant : body = sliceOf session content presigned.partNumber)
      (taken : take now (presigned.request.upload headers body) eTag =
        some (after, .uploadPart eTag))
      -- The answer may be lost, and an uploader may keep what it has heard to itself.
      (told : ∀ etag ∈ heard, eTag = some etag) :
      Collects take md5 session content others start after
        (receipts ++ heard.toList.map (fun etag => ⟨presigned.partNumber.get, etag⟩))
  | meanwhile {now after : S} {receipts : List MultipartPartReceipt}
      (before : Collects take md5 session content others start now receipts)
      (other : others now after) : Collects take md5 session content others start after receipts

/-- What is collected is collected in every view of the system as well. -/
theorem Collects.view {S T : Type} {take : S → Request → Option String → Option (S × Response)}
    (takeView : T → Request → Option String → Option (T × Response)) (view : S → T)
    {md5 : List UInt8 → List UInt8} {session : PresignedMultipart} {content : List UInt8}
    {others : S → S → Prop} {start now : S} {receipts : List MultipartPartReceipt}
    (seen : ∀ before request eTag after response, take before request eTag =
      some (after, response) → takeView (view before) request eTag = some (view after, response))
    (run : Collects take md5 session content others start now receipts) :
    Collects takeView md5 session content (Relation.Map others view view) (view start) (view now)
      receipts := by
  induction run with
  | begins => exact .begins
  | uploaded _ signed accepted meant taken told ih =>
      exact .uploaded ih signed accepted meant (seen _ _ _ _ _ taken) told
  | meanwhile _ other ih => exact .meanwhile ih ⟨_, _, other, rfl, rfl⟩

/-- What is collected in a view of a system whose uploads can be taken by the system is collected
    by the system as well, if nobody else does anything. -/
theorem Collects.lift {S T : Type} {take : S → Request → Option String → Option (S × Response)}
    {takeView : T → Request → Option String → Option (T × Response)} {view : S → T}
    {md5 : List UInt8 → List UInt8} {session : PresignedMultipart} {content : List UInt8}
    {others : S → S → Prop} {start : S} {now : T} {receipts : List MultipartPartReceipt}
    (takes : ∀ before request eTag after response,
      takeView (view before) request eTag = some (after, response) →
      ∃ whole, take before request eTag = some (whole, response) ∧ view whole = after)
    (run : Collects takeView md5 session content (fun _ _ => False) (view start) now receipts) :
    ∃ whole, Collects take md5 session content others start whole receipts ∧ view whole = now := by
  induction run with
  | begins => exact ⟨start, .begins, rfl⟩
  | uploaded _ signed accepted meant taken told ih =>
      obtain ⟨before, collected, rfl⟩ := ih
      obtain ⟨after, acted, seen⟩ := takes _ _ _ _ _ taken
      exact ⟨after, .uploaded collected signed accepted meant acted told, seen⟩
  | meanwhile _ other ih => exact other.elim

section Collecting

variable {md5 : List UInt8 → List UInt8} {scheme : EtagScheme} {session : PresignedMultipart}
  {content : List UInt8} {others : Remote → Remote → Prop} {start remote after : Remote}
  {receipts reported : List MultipartPartReceipt}

/-- A presigned request asks for what an upload of the part by the library asks for. -/
theorem upload_presigned {call : PresignCall} {presigned : PresignedUploadPart}
    {headers : UploadHeaders} {body : List UInt8} (signed : call.run session = .ok presigned)
    (accepted : presigned.request.accepts md5 headers body = true) :
    presigned.partNumber ∈ session.plan.numbers ∧
      presigned.request.upload headers body =
        uploadPartRequest session presigned.partNumber body := by
  rw [PresignCall.run_eq] at signed
  obtain ⟨planned, -, rfl⟩ := presignPartInner_eq_ok_iff.mp signed
  have sized : headers.contentLength = body.length := by
    simp only [UploadPartInput.accepts, Bool.and_eq_true, beq_iff_eq] at accepted
    exact accepted.1.2
  constructor
  · exact session.plan.mem_numbers.mpr planned
  · rw [UploadPartInput.upload, sized]
    rfl

/-- An upload of a slice keeps what is kept. -/
theorem Kept.uploaded {number other : PartNumber} {etag : String} {choice : Choice}
    {response : Response} (kept : Kept scheme session content remote number etag)
    (served : remote.serve scheme (.send (uploadPartRequest session other
      (sliceOf session content other))) choice = some (after, response)) :
    Kept scheme session content after number etag := by
  obtain ⟨named, stored, found, is⟩ := kept
  obtain ⟨next, found', moved⟩ := Remote.serve_parts served found
  refine ⟨named, next, found', ?_⟩
  rcases moved number.get with same | ⟨length, body, sent, written⟩
  · rw [same, is]
  · simp only [uploadPartRequest, PresignedMultipart.request, Effect.send.injEq, Request.mk.injEq,
      Operation.uploadPart.injEq] at sent
    obtain ⟨-, number_eq, -, rfl⟩ := sent
    rw [written, PartNumber.ext number_eq]

/-- Whatever else happens, a receipt has the ETag of the slice of its part. -/
theorem etag_of_collected
    (run : Collects (Remote.take scheme) md5 session content others start remote receipts) :
    ∀ receipt ∈ receipts, ∃ number ∈ session.plan.numbers,
      receipt = ⟨number.get, scheme.etag (sliceOf session content number)⟩ := by
  induction run with
  | begins => simp
  | meanwhile _ _ ih => exact ih
  | @uploaded now after receipts call presigned headers body eTag heard _ signed accepted meant
      served told ih =>
      intro receipt member
      rcases List.mem_append.mp member with earlier | now
      · exact ih receipt earlier
      · obtain ⟨planned, asked⟩ := upload_presigned signed accepted
        rw [asked, meant] at served
        obtain ⟨etag, among, rfl⟩ := List.mem_map.mp now
        obtain rfl := told etag (Option.mem_toList.mp among)
        refine ⟨presigned.partNumber, planned, ?_⟩
        rw [(Remote.serve_uploaded served).1]

/-- As long as others leave the session alone, the part of a receipt is stored. -/
theorem kept_of_collected
    (alone : ∀ before after, others before after →
      after session.address = before session.address)
    (run : Collects (Remote.take scheme) md5 session content others start remote receipts) :
    ∀ receipt ∈ receipts, ∃ number, receipt.partNumber = number.get ∧
      Kept scheme session content remote number receipt.etag := by
  -- On the run: what others do keeps the session, and an upload writes a slice where one stands.
  induction run with
  | begins => simp
  | @meanwhile now after receipts _ other ih =>
      intro receipt member
      obtain ⟨number, named, kept⟩ := ih receipt member
      refine ⟨number, named, ?_⟩
      unfold Kept
      rw [alone _ _ other]
      exact kept
  | @uploaded now after receipts call presigned headers body eTag heard _ signed accepted meant
      served told ih =>
      obtain ⟨-, asked⟩ := upload_presigned signed accepted
      rw [asked, meant] at served
      intro receipt member
      rcases List.mem_append.mp member with earlier | now
      · obtain ⟨number, named, kept⟩ := ih receipt earlier
        exact ⟨number, named, kept.uploaded served⟩
      · obtain ⟨etag, among, rfl⟩ := List.mem_map.mp now
        obtain rfl := told etag (Option.mem_toList.mp among)
        exact ⟨presigned.partNumber, rfl, Remote.serve_uploaded served⟩

/-- The parts of a manifest come from the receipts it was made of. -/
theorem receipt_of_manifest {manifest : CompletionManifest}
    (made : CompletionManifest.tryFromReceipts reported = .ok manifest)
    (chosen : reported ⊆ receipts) : ∀ part ∈ manifest.parts, part.receipt ∈ receipts := by
  intro part member
  have same := (tryFromReceipts_eq_ok_iff.mp made).2
  exact chosen (same.mem_iff.mp (List.mem_map_of_mem member))

/-- What is completed with receipts of slices is the whole plan. -/
theorem wholeList_of_receipts {manifest : CompletionManifest}
    (slices : ∀ receipt ∈ receipts, ∃ number ∈ session.plan.numbers,
      receipt = ⟨number.get, scheme.etag (sliceOf session content number)⟩)
    (listed : ∀ part ∈ manifest.parts, part.receipt ∈ receipts)
    (numbers : manifest.parts.map UploadedPart.partNumber = session.plan.numbers) :
    manifest.parts.map (fun part => (⟨part.partNumber.get, part.etag⟩ : CompletedPart)) =
      wholeList scheme session content := by
  rw [wholeList, ← numbers, List.map_map]
  apply List.map_congr_left
  intro part member
  obtain ⟨number, -, same⟩ := slices _ (listed part member)
  simp only [UploadedPart.receipt, MultipartPartReceipt.mk.injEq] at same
  rw [Function.comp_apply, PartNumber.ext same.1, ← same.2]

/-- One receipt for each planned part makes a manifest that completes the plan. -/
theorem exists_completion
    (valid : ∀ receipt ∈ reported, receipt.Valid)
    (planned : (reported.map MultipartPartReceipt.partNumber).Perm
      (session.plan.numbers.map PartNumber.get)) :
    ∃ manifest request, CompletionManifest.tryFromReceipts reported = .ok manifest ∧
      session.completeRequest manifest = .ok request := by
  obtain ⟨parts, rfl⟩ := exists_parts_iff.mpr valid
  have distinct : ((parts.map UploadedPart.receipt).map MultipartPartReceipt.partNumber).Nodup := by
    rw [planned.nodup_iff, List.nodup_map_iff (fun _ _ => PartNumber.ext)]
    exact session.plan.nodup_numbers
  have some_parts : parts ≠ [] := by
    rintro rfl
    have count := planned.length_eq
    simp only [List.map_nil, List.length_nil, List.length_map, session.plan.length_numbers] at count
    exact absurd count (Nat.ne_of_lt session.plan.partCount_pos)
  obtain ⟨manifest, same⟩ := exists_manifest some_parts (nodup_receipts.mp distinct)
  have made := tryFromReceipts_eq_ok_iff.mpr ⟨distinct, same.map UploadedPart.receipt⟩
  have covers : ∃ request, session.completeRequest manifest = .ok request := by
    rw [completes_iff]
    intro value
    rw [((same.map _).map _).mem_iff, planned.mem_iff, session.plan.map_get_numbers,
      List.mem_range'_1]
    omega
  obtain ⟨request, accepted⟩ := covers
  exact ⟨manifest, request, made, accepted⟩

/-- Every planned part can be handed out for every time that is allowed. -/
theorem presignPart_planned {number : PartNumber} {expiresIn : Duration}
    (inside : number.get ≤ session.plan.partCount)
    (timely : Duration.fromSecs 1 ≤ expiresIn ∧ expiresIn ≤ Duration.fromSecs maxPresignSeconds) :
    (PresignCall.part number expiresIn).run session = .ok {
      partNumber := number
      contentLength := blockLength session.plan.fileSize session.plan.partSize number.index
      contentMd5 := none
      request := { address := session.address, partNumber := number.get } } := by
  rw [PresignCall.run_eq]
  exact presignPartInner_eq_ok_iff.mpr ⟨inside, timely, rfl⟩

/-- As long as the session is live, the parts can be handed out, uploaded and reported. -/
theorem exists_collected (numbers : List PartNumber)
    (planned : ∀ number ∈ numbers, number ∈ session.plan.numbers)
    (run : Collects (Remote.take scheme) md5 session content others start remote receipts)
    (live : remote.status session.address = some .live) :
    ∃ final, Collects (Remote.take scheme) md5 session content others start final
        (receipts ++ numbers.map (fun number =>
          ⟨number.get, scheme.etag (sliceOf session content number)⟩)) ∧
      final.status session.address = some .live := by
  induction numbers generalizing remote receipts with
  | nil => exact ⟨remote, by simpa using run, live⟩
  | cons number rest ih =>
      have inside := session.plan.mem_numbers.mp (planned number List.mem_cons_self)
      have timely : Duration.fromSecs 1 ≤ Duration.fromSecs maxPresignSeconds :=
        Nat.mul_le_mul_right _ (by decide)
      have signed := presignPart_planned inside ⟨Nat.le_refl _, timely⟩
      let body := sliceOf session content number
      have accepted : UploadPartInput.accepts md5
          { address := session.address, partNumber := number.get } ⟨body.length, none⟩ body =
            true := by
        simp [UploadPartInput.accepts]
      obtain ⟨after, served⟩ := exists_serve_upload scheme live number body
      have still := serve_live served ⟨rfl, rfl⟩ live
      have one := Collects.uploaded run signed accepted rfl served (fun etag told => told)
      obtain ⟨final, all, finally_live⟩ :=
        ih (fun later among => planned later (List.mem_cons_of_mem _ among)) one still
      refine ⟨final, ?_, finally_live⟩
      rw [List.append_assoc] at all
      exact all

/-- If R2 takes a completion with collected receipts, the content is committed. -/
theorem committed_of_receipts {manifest : CompletionManifest} {request : Request}
    {choice : Choice} {response : Response}
    (run : Collects (Remote.take scheme) md5 session content others start remote receipts)
    (chosen : reported ⊆ receipts)
    (made : CompletionManifest.tryFromReceipts reported = .ok manifest)
    (accepted : session.completeRequest manifest = .ok request)
    (served : remote.serve scheme (.send request) choice = some (after, response)) :
    (∃ etag, response = .completeMultipartUpload etag) ∧
      after.status session.address = some (.committed (wholeObject session content)) := by
  obtain ⟨numbers, rfl⟩ := PresignedMultipart.completeRequest_eq_ok_iff.mp accepted
  have whole := wholeList_of_receipts (etag_of_collected run) (receipt_of_manifest made chosen)
    numbers
  have answered := Remote.serve_answered served
  have kind : ∃ etag, response = .completeMultipartUpload etag := by
    cases Remote.serves_of_serve served with
    | acted found serves =>
        cases serves with
        | committed live matched => exact ⟨_, rfl⟩
  obtain ⟨etag, rfl⟩ := kind
  obtain ⟨object, committed, matched⟩ := answered
  rw [whole] at matched
  obtain rfl := wholeObject_of_matches matched
  exact ⟨⟨etag, rfl⟩, committed⟩

/-- As long as others leave a live session alone, R2 takes the completion with a receipt for each
    part. -/
theorem completion_of_receipts (named : ∀ body, scheme.etag body ≠ "")
    (size : content.length = session.plan.fileSize)
    (run : Collects (Remote.take scheme) md5 session content others start remote receipts)
    (chosen : reported ⊆ receipts)
    (alone : ∀ before after, others before after → after session.address = before session.address)
    (planned : (reported.map MultipartPartReceipt.partNumber).Perm
      (session.plan.numbers.map PartNumber.get))
    (live : remote.status session.address = some .live) :
    ∃ manifest request after, CompletionManifest.tryFromReceipts reported = .ok manifest ∧
      session.completeRequest manifest = .ok request ∧
      remote.serve scheme (.send request) (.etag none) =
        some (after, .completeMultipartUpload none) := by
  have valid : ∀ receipt ∈ reported, receipt.Valid := by
    intro receipt member
    obtain ⟨number, -, rfl⟩ := etag_of_collected run receipt (chosen member)
    exact ⟨number.valid, named _⟩
  obtain ⟨manifest, request, made, accepted⟩ := exists_completion valid planned
  have kept : ∀ part ∈ manifest.parts,
      Kept scheme session content remote part.partNumber part.etag := by
    intro part member
    have reported_part := receipt_of_manifest made chosen part member
    obtain ⟨number, same, kept⟩ := kept_of_collected alone run part.receipt reported_part
    obtain rfl : part.partNumber = number := PartNumber.ext same
    exact kept
  obtain ⟨after, served⟩ := (serve_completion size accepted kept).1 live
  exact ⟨manifest, request, after, made, accepted, served⟩

/-- A session is completed with receipts that were collected, in whatever order they are reported
    and whichever of several for a part is taken. If R2 takes the completion, the content is
    committed, whatever others have done; and it does as long as they leave the session alone
    and there is a receipt for each part, which can always be had while the session is live. -/
theorem receipts_commit_content (named : ∀ body, scheme.etag body ≠ "")
    (size : content.length = session.plan.fileSize)
    (run : Collects (Remote.take scheme) md5 session content others start remote receipts)
    (chosen : reported ⊆ receipts) :
    (∀ manifest request choice response after,
      CompletionManifest.tryFromReceipts reported = .ok manifest →
      session.completeRequest manifest = .ok request →
      remote.serve scheme (.send request) choice = some (after, response) →
        (∃ etag, response = .completeMultipartUpload etag) ∧ CommittedAs session content after) ∧
    ((∀ before after, others before after → after session.address = before session.address) →
      (reported.map MultipartPartReceipt.partNumber).Perm
        (session.plan.numbers.map PartNumber.get) →
      remote.status session.address = some .live →
      ∃ manifest request after, CompletionManifest.tryFromReceipts reported = .ok manifest ∧
        session.completeRequest manifest = .ok request ∧
        remote.serve scheme (.send request) (.etag none) =
          some (after, .completeMultipartUpload none)) ∧
    (remote.status session.address = some .live →
      ∃ final more,
        Collects (Remote.take scheme) md5 session content others start final (receipts ++ more) ∧
        more.map MultipartPartReceipt.partNumber = session.plan.numbers.map PartNumber.get ∧
        final.status session.address = some .live) := by
  refine ⟨?_, ?_, ?_⟩
  · intro manifest request choice response after made accepted served
    obtain ⟨answered, committed⟩ := committed_of_receipts run chosen made accepted served
    exact ⟨answered, _, committed, flatMap_wholeObject size⟩
  · exact completion_of_receipts named size run chosen
  · intro live
    obtain ⟨final, all, still⟩ :=
      exists_collected session.plan.numbers (fun _ member => member) run live
    refine ⟨final, _, all, ?_, still⟩
    rw [List.map_map]
    rfl

end Collecting

/-- An empty session is handed out, uploaded and completed. -/
theorem receipts_commit_content_tiny :
    ∃ (start remote after : Remote) (receipts : List MultipartPartReceipt)
      (manifest : CompletionManifest) (request : Request),
      start.status PresignedMultipart.tiny.address = some .live ∧
      Collects (Remote.take .plain) (fun _ => List.replicate 16 0) .tiny [1, 2, 3]
        (fun _ _ => False) start remote receipts ∧
      CompletionManifest.tryFromReceipts receipts = .ok manifest ∧
      PresignedMultipart.tiny.completeRequest manifest = .ok request ∧
      remote.serve EtagScheme.plain (.send request) (.etag none) =
        some (after, .completeMultipartUpload none) ∧
      CommittedAs .tiny [1, 2, 3] after := by
  let start : Remote := Function.update (fun _ => none) PresignedMultipart.tiny.address
    (some ⟨.live, fun _ => none⟩)
  have opened : start.status PresignedMultipart.tiny.address = some .live := by
    simp [start, Remote.status]
  have nothing : Collects (Remote.take .plain) (fun _ => List.replicate 16 0) .tiny [1, 2, 3]
      (fun _ _ => False) start start [] := .begins
  have begun := receipts_commit_content EtagScheme.plain_ne rfl nothing (List.Subset.refl _)
  obtain ⟨remote, receipts, run, numbers, live⟩ := begun.2.2 opened
  have collected := receipts_commit_content EtagScheme.plain_ne rfl run (List.Subset.refl _)
  obtain ⟨manifest, request, after, made, accepted, served⟩ :=
    collected.2.1 (fun _ _ never => never.elim) (by rw [List.nil_append, numbers]) live
  have whole := (collected.1 manifest request (.etag none) _ after made accepted served).2
  exact ⟨start, remote, after, receipts, manifest, request, opened, run, made, accepted, served,
    whole⟩

end R2kit
