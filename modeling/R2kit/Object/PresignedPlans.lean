import R2kit.Managed.RoundTrip
import R2kit.Multipart.HandedOut
import R2kit.Object.PresignUpload

/-!
# Following a presigned plan

`Bucket::presign_upload_with_options` of `src/object.rs` and whoever follows the plan that it
returns: one PUT, or part uploads whose receipts complete the session. What stands at the key in
the end does not depend on the kind of plan, nor on what others do meanwhile.
-/

namespace R2kit

open Misc

namespace Account

/-- Something that anyone does to an account. -/
def Moves (scheme : EtagScheme) (before after : Account) : Prop :=
  ∃ msg choice answer, before.serve scheme msg choice = some (after, answer)

/-- A request about a session that is answered with an ETag, or without one. -/
def take (scheme : EtagScheme) (account : Account) (request : Request) (eTag : Option String) :
    Option (Account × Response) :=
  account.serveManaged scheme (.send request) (.etag eTag)

variable {scheme : EtagScheme} {before after : Account}

theorem acted_of_serveManaged {effect : Effect} {choice : Choice} {response : Response}
    (served : before.serveManaged scheme effect choice = some (after, response)) :
    before.remote.serve scheme effect choice = some (after.remote, response) ∧
      after.objects = before.objectsAfter after.remote effect response ∧
      after.inputs = before.inputsAfter effect response := by
  unfold serveManaged at served
  split at served
  · cases served
  · rename_i found
    cases served
    exact ⟨found, rfl, rfl⟩

theorem exists_serveManaged {effect : Effect} {choice : Choice} {remote : Remote}
    {response : Response}
    (acted : before.remote.serve scheme effect choice = some (remote, response)) :
    ∃ after, before.serveManaged scheme effect choice = some (after, response) ∧
      after.remote = remote :=
  ⟨_, by rw [serveManaged, acted], rfl⟩

theorem objects_of_put {input : PutObjectInput} {body : List UInt8} {etag : Option String}
    {answer : StoreAnswer}
    (served : before.serve scheme (.put input) (.put body etag) = some (after, answer)) :
    after.objects = Function.update before.objects input.place (some (input.stored body)) := by
  simp only [serve] at served
  split at served
  · cases served
    rfl
  · cases served

/-- A session that exists stays, with the request it was created with. -/
def KeepsSession (address : Address) (before after : Account) : Prop :=
  before.remote address ≠ none →
    after.remote address ≠ none ∧ after.inputs address = before.inputs address

theorem KeepsSession.trans {address : Address} {middle : Account}
    (first : KeepsSession address before middle) (second : KeepsSession address middle after) :
    KeepsSession address before after := by
  intro found
  obtain ⟨still, same⟩ := first found
  obtain ⟨remains, kept⟩ := second still
  exact ⟨remains, kept.trans same⟩

theorem keepsSession_of_served {effect : Effect} {choice : Choice} {response : Response}
    (served : before.serveManaged scheme effect choice = some (after, response))
    (address : Address) : KeepsSession address before after := by
  intro found
  obtain ⟨acted, -, inputs⟩ := acted_of_serveManaged served
  refine ⟨Remote.exists_of_serve acted found, ?_⟩
  rw [inputs, inputsAfter_of_exists acted found]

theorem Moves.keepsSession (moves : Moves scheme before after) (address : Address) :
    KeepsSession address before after := by
  obtain ⟨msg, choice, answer, served⟩ := moves
  cases serves_of_serve served with
  | put length => exact fun found => ⟨found, rfl⟩
  | deleted => exact fun found => ⟨found, rfl⟩
  | managed acted => exact keepsSession_of_served acted address

end Account

section Following

variable {crates : Crates} {sign : Signer} {now : SystemTime} {answer : CreateAnswer}
  {bucket : BucketName} {key : ObjectKey} {fileSize : Nat} {expiresIn : Duration}
  {options : ObjectUploadOptions} {scheme : EtagScheme} {md5 : List UInt8 → List UInt8}
  {content : List UInt8} {session : PresignedMultipart}

theorem keepsSession_of_collects {start account : Account}
    {receipts : List MultipartPartReceipt}
    (run : Collects (Account.take scheme) md5 session content (Account.Moves scheme) start account
      receipts) : Account.KeepsSession session.address start account := by
  induction run with
  | begins => exact fun found => ⟨found, rfl⟩
  | uploaded _ _ _ _ taken _ ih => exact ih.trans (Account.keepsSession_of_served taken _)
  | meanwhile _ other ih => exact ih.trans (other.keepsSession _)

/-- A session that is completed with collected receipts leaves the content, under what it was
    created with. -/
theorem stands_of_completed {start before after : Account}
    {receipts reported : List MultipartPartReceipt} {manifest : CompletionManifest}
    {request : Request} {choice : Choice} {response : Response}
    (size : content.length = session.plan.fileSize)
    (created : start.remote session.address ≠ none)
    (run : Collects (Account.take scheme) md5 session content (Account.Moves scheme) start before
      receipts)
    (chosen : reported ⊆ receipts)
    (made : CompletionManifest.tryFromReceipts reported = .ok manifest)
    (accepted : session.completeRequest manifest = .ok request)
    (served : before.serveManaged scheme (.send request) choice = some (after, response)) :
    after.objects session.address.place = some {
      body := content
      headers := (start.inputs session.address).headers
      metadata := (start.inputs session.address).metadata } := by
  obtain ⟨acted, objects, -⟩ := Account.acted_of_serveManaged served
  have collected := run.view (Remote.take scheme) Account.remote (by
    intro before request eTag after response taken
    exact (Account.acted_of_serveManaged taken).1)
  obtain ⟨⟨etag, rfl⟩, committed⟩ := committed_of_receipts collected chosen made accepted acted
  obtain ⟨-, inputs⟩ := keepsSession_of_collects run created
  obtain ⟨-, rfl⟩ := PresignedMultipart.completeRequest_eq_ok_iff.mp accepted
  rw [objects]
  simp only [Account.objectsAfter, PresignedMultipart.request, committed, Function.update_self]
  rw [inputs, CreateMultipartUploadInput.stored, flatMap_wholeObject size]

/-- What is sent for a plan is answered. -/
def Opens (scheme : EtagScheme) (answer : CreateAnswer) (before : Account) :
    List Effect → Account → Prop
  | [], after => after = before
  | [.create input], after => ∃ uploadId, answer input = .ok uploadId ∧
      before.serveManaged scheme (.create input) (.created uploadId) =
        some (after, .createMultipartUpload uploadId)
  | _, _ => False

/-- The plan is followed with the content, by a PUT or by part uploads, while others go on. -/
inductive Follows (scheme : EtagScheme) (md5 : List UInt8 → List UInt8)
    (reads : PresignedRequest → Option PutObjectInput) (content : List UInt8) (start : Account) :
    PresignedUploadPlan → Account → Prop
  | single {put : PresignedPutObject} {input : PutObjectInput} {etag : Option String}
      {before after : Account}
      (meanwhile : Relation.ReflTransGen (Account.Moves scheme) start before)
      (read : reads put.request = some input)
      (served : before.serve scheme (.put input) (.put content etag) =
        some (after, .put content etag)) :
      Follows scheme md5 reads content start (.single put) after
  | multipart {session : PresignedMultipart} {receipts reported : List MultipartPartReceipt}
      {manifest : CompletionManifest} {request : Request} {choice : Choice} {response : Response}
      {before after : Account}
      (run : Collects (Account.take scheme) md5 session content (Account.Moves scheme) start
        before receipts)
      (chosen : reported ⊆ receipts)
      (made : CompletionManifest.tryFromReceipts reported = .ok manifest)
      (accepted : session.completeRequest manifest = .ok request)
      (served : before.serveManaged scheme (.send request) choice = some (after, response)) :
      Follows scheme md5 reads content start (.multipart session) after

/-- A plan with a live session can be followed, whatever the content is. -/
theorem exists_follows {reads : PresignedRequest → Option PutObjectInput} {start : Account}
    (named : ∀ body, scheme.etag body ≠ "") (size : content.length = session.plan.fileSize)
    (live : start.remote.status session.address = some .live) :
    ∃ after, Follows scheme md5 reads content start (.multipart session) after := by
  have nothing : Collects (Remote.take scheme) md5 session content (fun _ _ => False)
      start.remote start.remote [] := .begins
  obtain ⟨remote, collected, still⟩ :=
    exists_collected session.plan.numbers (fun _ member => member) nothing live
  rw [List.nil_append] at collected
  have planned : ((session.plan.numbers.map (fun number => (⟨number.get,
      scheme.etag (sliceOf session content number)⟩ : MultipartPartReceipt))).map
        MultipartPartReceipt.partNumber).Perm (session.plan.numbers.map PartNumber.get) := by
    rw [List.map_map]
    rfl
  obtain ⟨manifest, request, after, made, accepted, served⟩ := completion_of_receipts named size
    collected (List.Subset.refl _) (fun _ _ never => never.elim) planned still
  obtain ⟨whole, run, rfl⟩ : ∃ whole, Collects (Account.take scheme) md5 session content
      (Account.Moves scheme) start whole _ ∧ whole.remote = remote :=
    collected.lift (fun _ _ _ _ _ taken => Account.exists_serveManaged taken)
  obtain ⟨done, completed, -⟩ := Account.exists_serveManaged served
  exact ⟨done, .multipart run (List.Subset.refl _) made accepted completed⟩

/-- The two ways to come by a plan. -/
theorem presignUpload_cases {plan : PresignedUploadPlan} {sent : List Effect}
    (planned : presignUploadWithOptions crates sign now answer bucket (.ok key) fileSize expiresIn
      options = (.ok plan, sent)) :
    (∃ put, plan = .single put ∧ sent = [] ∧
      presignPut crates sign now bucket (.ok key) fileSize expiresIn options = .ok put) ∨
    ∃ session, plan = .multipart session ∧
      PresignedMultipartBuilder.createWith crates answer
        (PresignedMultipartBuilder.forUpload fileSize options { bucket, key }) =
          (.ok session, sent) := by
  cases timely : validateExpiry expiresIn with
  | error error => simp [presignUploadWithOptions, timely] at planned
  | ok passed =>
      by_cases small : fileSize < UploadThreshold.defaultBytes
      · have below : fileSize < UploadThreshold.default.bytes := small
        simp only [presignUploadWithOptions, timely, if_pos below, Prod.mk.injEq,
          map_eq_ok_iff] at planned
        obtain ⟨⟨put, made, rfl⟩, rfl⟩ := planned
        exact .inl ⟨put, rfl, rfl, made⟩
      · rw [presignUpload_large timely small] at planned
        simp only [Prod.mk.injEq, map_eq_ok_iff] at planned
        obtain ⟨⟨session, made, rfl⟩, same⟩ := planned
        exact .inr ⟨session, rfl, Prod.ext made same⟩

/-- A presigned PUT is the request for these options, signed. -/
theorem presignPut_eq_ok {put : PresignedPutObject}
    (made : presignPut crates sign now bucket (.ok key) fileSize expiresIn options = .ok put) :
    options.validate crates = .ok () ∧ ∃ signed,
      sign (putObjectInput bucket key fileSize options) expiresIn = some signed ∧
        put = ⟨fileSize, PresignedRequest.fromSdk now signed expiresIn⟩ := by
  obtain ⟨input, accepted, signature⟩ := bind_eq_ok_iff.mp made
  obtain ⟨-, accepted⟩ := presignPutWithOptions_eq_ok_iff.mp accepted
  obtain ⟨_, same, valid, -, -, rfl⟩ := putStreamWithOptions_eq_ok_iff.mp accepted
  cases same
  refine ⟨valid, ?_⟩
  split at signature
  · cases signature
  · rename_i signed found
    cases signature
    exact ⟨signed, found, rfl⟩

/-- A session for a plan is created under these options, for the declared size. -/
theorem createWith_eq_ok {sent : List Effect}
    (made : PresignedMultipartBuilder.createWith crates answer
      (PresignedMultipartBuilder.forUpload fileSize options { bucket, key }) =
        (.ok session, sent)) :
    options.validate crates = .ok () ∧ session.plan.fileSize = fileSize ∧
      session.address.place = (bucket.value, key.value) ∧ ∃ input uploadId,
        sent = [.create input] ∧ answer input = .ok (some uploadId) ∧
          session.address = input.address uploadId ∧ input.headers = options.applyTo ∧
            input.metadata = options.customMetadataValues := by
  unfold PresignedMultipartBuilder.createWith at made
  split at made
  · cases made
  · rename_i plan input accepted
    rw [Prod.mk.injEq, PresignedMultipartBuilder.created_eq_ok_iff] at made
    obtain ⟨⟨uploadId, told, rfl⟩, rfl⟩ := made
    obtain ⟨valid, ⟨declared, partSize, sized, -, fits⟩, -, rfl⟩ :=
      PresignedMultipartBuilder.create_eq_ok_iff.mp accepted
    cases sized
    obtain ⟨same, -⟩ := MultipartPlan.new_eq_ok_iff.mp fits
    exact ⟨valid, same, rfl, _, uploadId, rfl, told, rfl, rfl, rfl⟩

/-- A session that was just created is live, with the request it was created with. -/
theorem started_of_created {account started : Account} {input : CreateMultipartUploadInput}
    {uploadId : String}
    (created : account.serveManaged scheme (.create input) (.created (some uploadId)) =
      some (started, .createMultipartUpload (some uploadId))) :
    started.remote.status (input.address uploadId) = some .live ∧
      started.inputs (input.address uploadId) = input := by
  obtain ⟨acted, -, inputs⟩ := Account.acted_of_serveManaged created
  constructor
  · generalize started.remote = remote at acted
    cases Remote.serves_of_serve acted with
    | created fresh => simp [Remote.status, CreateMultipartUploadInput.address]
  · rw [inputs]
    exact Function.update_self _ _ _

/-- A plan of `presign_upload_with_options` that was followed with the content has left it under
    the options, whichever kind of plan it is and whatever others have done meanwhile; and a
    download brings back the content and what the options said. -/
theorem presigned_plan_comes_back (dates : HttpDates) {plan : PresignedUploadPlan}
    {sent : List Effect} {reads : PresignedRequest → Option PutObjectInput}
    {account started after : Account} (size : content.length = fileSize)
    (understood : ∀ input signed, sign input expiresIn = some signed →
      reads (PresignedRequest.fromSdk now signed expiresIn) = some input)
    (planned : presignUploadWithOptions crates sign now answer bucket (.ok key) fileSize expiresIn
      options = (.ok plan, sent))
    (opened : Opens scheme answer account sent started)
    (followed : Follows scheme md5 reads content started plan after) :
    after.objects (bucket.value, key.value) =
      some ⟨content, options.applyTo, options.customMetadataValues⟩ ∧
    ∀ prior history world metadata,
      (downloadWorld dates bucket (.ok key) after.objects).Reaches (.start prior) history world →
      world.client = .returned (.ok metadata) →
        world.file = some content ∧ metadata.ReadsBack dates options content := by
  have stands : options.validate crates = .ok () ∧ after.objects (bucket.value, key.value) =
      some ⟨content, options.applyTo, options.customMetadataValues⟩ := by
    rcases presignUpload_cases planned with ⟨put, rfl, rfl, made⟩ | ⟨session, rfl, made⟩
    · obtain ⟨valid, signed, signature, rfl⟩ := presignPut_eq_ok made
      refine ⟨valid, ?_⟩
      cases followed with
      | single meanwhile read served =>
          obtain rfl := Option.some.inj (read.symm.trans (understood _ _ signature))
          rw [Account.objects_of_put served, place_putObjectInput, stored_putObjectInput]
          exact Function.update_self _ _ _
    · obtain ⟨valid, planned_size, place, input, uploadId, rfl, told, address, headers, metadata⟩ :=
        createWith_eq_ok made
      refine ⟨valid, ?_⟩
      obtain ⟨other, told', created⟩ := opened
      obtain rfl := Except.ok.inj (told.symm.trans told')
      obtain ⟨live, created_with⟩ := started_of_created created
      rw [← address] at live created_with
      have found : started.remote session.address ≠ none := by
        intro missing
        rw [Remote.status, missing] at live
        cases live
      cases followed with
      | multipart run chosen completion accepted served =>
          have left := stands_of_completed (size.trans planned_size.symm) found run chosen
            completion accepted served
          rw [place, created_with, headers, metadata] at left
          exact left
  obtain ⟨valid, stands⟩ := stands
  refine ⟨stands, ?_⟩
  intro prior history world metadata run done
  exact downloaded_of_stored valid stands run done

end Following

/-- The request that `clipSigner` signs. -/
def clipInput : PutObjectInput := putObjectInput PresignedMultipart.tiny.bucket .clip 3 .labelled

/-- A signer that signs this one request. -/
def clipSigner : Signer := fun input _ =>
  if input = clipInput then some ⟨"PUT", "https://media.example/clip", []⟩ else none

/-- What is planned for so many bytes under options with a typed header and a custom entry. -/
abbrev clipPlan (fileSize : Nat) : Except Error PresignedUploadPlan × List Effect :=
  presignUploadWithOptions .minimal clipSigner 0 (fun _ => .ok (some "u"))
    PresignedMultipart.tiny.bucket (.ok .clip) fileSize (Duration.fromSecs 60) .labelled

/-- Following it. -/
abbrev FollowsClip : List UInt8 → Account → PresignedUploadPlan → Account → Prop :=
  Follows .plain (fun _ => []) (fun _ => some clipInput)

/-- A plan of one PUT and a plan of two parts, followed and downloaded. -/
theorem presigned_plan_comes_back_labelled :
    ∃ (put : PresignedPutObject) (session : PresignedMultipart) (sent : List Effect)
      (started after done : Account) (small large : DownloadWorld)
      (told said : ObjectMetadata),
      clipPlan 3 = (.ok (.single put), []) ∧ FollowsClip [1, 2, 3] .empty (.single put) after ∧
      small.client = .returned (.ok told) ∧ small.file = some [1, 2, 3] ∧
      told.contentType = some "text/plain" ∧ told.custom["owner"]? = some "ada" ∧
      clipPlan (2 * minMultipartPartSize + 3) = (.ok (.multipart session), sent) ∧
      session.plan.partCount = 2 ∧ Opens .plain (fun _ => .ok (some "u")) .empty sent started ∧
      FollowsClip threeContent started (.multipart session) done ∧
      large.client = .returned (.ok said) ∧ large.file = some threeContent ∧
      said.contentType = some "text/plain" ∧ said.custom["owner"]? = some "ada" := by
  let bucket := PresignedMultipart.tiny.bucket
  have understood : ∀ input signed, clipSigner input (Duration.fromSecs 60) = some signed →
      some clipInput = some input := by
    intro input signed signature
    by_cases same : input = clipInput
    · exact congrArg some same.symm
    · simp [clipSigner, same] at signature
  -- the PUT
  obtain ⟨put, planned⟩ : ∃ put, clipPlan 3 = (.ok (.single put), []) := ⟨_, rfl⟩
  let stored : Account := { Account.empty with
    objects := Function.update Account.empty.objects clipInput.place
      (some (clipInput.stored [1, 2, 3])) }
  have served : Account.empty.serve .plain (.put clipInput) (.put [1, 2, 3] none) =
      some (stored, .put [1, 2, 3] none) := rfl
  have single : FollowsClip [1, 2, 3] .empty (.single put) stored := .single .refl rfl served
  have size : ([1, 2, 3] : List UInt8).length = 3 := rfl
  obtain ⟨stands, back⟩ := presigned_plan_comes_back .epoch size understood planned rfl single
  obtain ⟨history, small, told, down, got, -⟩ :=
    @download_finishes .epoch _ bucket (.ok .clip) _ ⟨.clip, rfl, stands⟩ none
  obtain ⟨file, reads⟩ := back _ _ _ _ down got
  -- the parts
  obtain ⟨session, input, started, split, count, fits, address, opened⟩ :
      ∃ session input started,
        clipPlan (2 * minMultipartPartSize + 3) = (.ok (.multipart session), [.create input]) ∧
        session.plan.partCount = 2 ∧ session.plan.fileSize = 2 * minMultipartPartSize + 3 ∧
        session.address = input.address "u" ∧
        Account.empty.serveManaged .plain (.create input) (.created (some "u")) =
          some (started, .createMultipartUpload (some "u")) :=
    ⟨_, _, _, rfl, rfl, rfl, rfl, rfl⟩
  have live := (started_of_created opened).1
  rw [← address] at live
  obtain ⟨done, several⟩ : ∃ done, FollowsClip threeContent started (.multipart session) done :=
    exists_follows EtagScheme.plain_ne (length_threeContent.trans fits.symm) live
  have opens : Opens .plain (fun _ => .ok (some "u")) .empty [.create input] started :=
    ⟨some "u", rfl, opened⟩
  obtain ⟨stands', back'⟩ :=
    presigned_plan_comes_back .epoch length_threeContent understood split opens several
  obtain ⟨history', large, said, down', got', -⟩ :=
    @download_finishes .epoch _ bucket (.ok .clip) _ ⟨.clip, rfl, stands'⟩ none
  obtain ⟨file', reads'⟩ := back' _ _ _ _ down' got'
  exact ⟨put, session, [.create input], started, stored, done, small, large, told, said, planned,
    single, got, file, reads.labels.1, reads.labels.2, split, count, opens, several, got', file',
    reads'.labels.1, reads'.labels.2⟩

end R2kit
