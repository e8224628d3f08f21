import R2kit.FailureKinds
import R2kit.Multipart.ListUploads
import R2kit.Object.Shelf
import R2kit.Remote

/-!
# Uploads that were left behind

`Bucket::list_multipart_uploads` and `Bucket::abort_multipart_upload` together: what a listing of
the uploads in progress shows is aborted one by one, while everybody else goes on. Nothing
that was in progress then is left, and nothing that was completed is undone.
-/

namespace R2kit

open Misc

/-- `Bucket::abort_multipart_upload` up to the request. -/
def directAbort (bucket : BucketName) (key : Except Error ObjectKey) (uploadId : String) :
    Except Error Request := do
  let key ← key
  if trim uploadId.toList = [] then .error (.invalidInput "upload_id" "must not be empty")
  else .ok ⟨⟨bucket.value, key.value, uploadId⟩, .abortMultipartUpload⟩

/-- What becomes of a request: it is carried out, if it can be, and the answer may be lost; or it
    never gets that far. -/
inductive AbortFate where
  | served (lost : Option SdkError)
  | failed (error : SdkError)

/-- `Bucket::abort_multipart_upload` on an account. -/
def abortMultipartUpload (scheme : EtagScheme) (bucket : BucketName) (remote : Remote)
    (fate : AbortFate) (key : Except Error ObjectKey) (uploadId : String) :
    Remote × Except Error Unit :=
  match directAbort bucket key uploadId, fate with
  | .error error, _ => (remote, .error error)
  | .ok _, .failed error => (remote, .error (.fromSdk "AbortMultipartUpload" error))
  | .ok request, .served lost =>
      match remote.serve scheme (.send request) .done with
      | none => (remote, .error (.fromSdk "AbortMultipartUpload"
          (.serviceError (some "NoSuchUpload") ⟨404, none, none⟩)))
      | some (after, _) =>
          (after, lost.elim (.ok ()) (fun error =>
            .error (.fromSdk "AbortMultipartUpload" error)))

/-- The session of a listed upload. -/
def MultipartUploadSummary.address (upload : MultipartUploadSummary) (bucket : BucketName) :
    Address :=
  ⟨bucket.value, upload.key, upload.uploadId⟩

section Abort

variable {scheme : EtagScheme} {bucket : BucketName} {remote after : Remote} {fate : AbortFate}
  {upload : MultipartUploadSummary}

/-- The abort of a listed upload. -/
def abortListed (scheme : EtagScheme) (bucket : BucketName) (remote : Remote) (fate : AbortFate)
    (upload : MultipartUploadSummary) : Remote × Except Error Unit :=
  abortMultipartUpload scheme bucket remote fate (ObjectKey.new upload.key) upload.uploadId

theorem directAbort_ok {request : Request}
    (accepted : directAbort bucket (ObjectKey.new upload.key) upload.uploadId = .ok request) :
    request = ⟨upload.address bucket, .abortMultipartUpload⟩ := by
  obtain ⟨key, valid, rest⟩ := bind_eq_ok_iff.mp accepted
  split at rest
  · cases rest
  · cases rest
    rw [MultipartUploadSummary.address, ObjectKey.new_eq_ok_iff.mp valid]

/-- An abort leaves everything as it is, or it was served on the session of the upload. -/
theorem abortListed_cases (scheme : EtagScheme) (bucket : BucketName) (remote : Remote)
    (fate : AbortFate) (upload : MultipartUploadSummary) :
    (∃ error, abortListed scheme bucket remote fate upload = (remote, .error error)) ∨
      ∃ after response, remote.serve scheme
          (.send ⟨upload.address bucket, .abortMultipartUpload⟩) .done = some (after, response) ∧
        (abortListed scheme bucket remote fate upload).1 = after := by
  unfold abortListed abortMultipartUpload
  split
  · exact Or.inl ⟨_, rfl⟩
  · exact Or.inl ⟨_, rfl⟩
  · rename_i request lost accepted
    rw [directAbort_ok accepted]
    split
    · exact Or.inl ⟨_, rfl⟩
    · rename_i after response served
      exact Or.inr ⟨after, response, served, rfl⟩

/-- An abort leaves all other sessions alone. -/
theorem abortListed_frame {address : Address} (other : address ≠ upload.address bucket) :
    (abortListed scheme bucket remote fate upload).1 address = remote address := by
  rcases abortListed_cases scheme bucket remote fate upload with ⟨error, same⟩ |
    ⟨after, response, served, same⟩
  · rw [same]
  · rw [same]
    cases Remote.serves_of_serve served with
    | acted found serves => exact Function.update_of_ne other _ _

theorem abortListed_leads (address : Address) :
    Remote.Leads (remote.status address)
      ((abortListed scheme bucket remote fate upload).1.status address) := by
  rcases abortListed_cases scheme bucket remote fate upload with ⟨error, same⟩ |
    ⟨after, response, served, same⟩
  · rw [same]
    exact Or.inl rfl
  · rw [same]
    exact Remote.serve_leads served address

/-- Once it has succeeded the session is aborted. -/
theorem aborted_of_ok (done : (abortListed scheme bucket remote fate upload).2 = .ok ()) :
    (abortListed scheme bucket remote fate upload).1.status (upload.address bucket) =
      some .aborted := by
  rcases abortListed_cases scheme bucket remote fate upload with ⟨error, same⟩ |
    ⟨after, response, served, same⟩
  · rw [same] at done
    cases done
  · rw [same]
    cases Remote.serves_of_serve served with
    | acted found serves =>
        cases serves with
        | aborted uncommitted =>
            rw [Remote.status, Function.update_self]
            rfl

end Abort

section Sweep

variable {scheme : EtagScheme} {bucket : BucketName}

/-- Something that anyone does to the sessions of an account. -/
inductive Acts (scheme : EtagScheme) (remote : Remote) : Remote → Prop
  | served {effect choice response after}
      (served : remote.serve scheme effect choice = some (after, response)) :
      Acts scheme remote after
  | put {put after} (taken : remote.uploaderPut put = some after) : Acts scheme remote after

/-- The uploads are aborted one by one, while everybody else goes on. -/
inductive Sweeps (scheme : EtagScheme) (bucket : BucketName) : Remote →
    List MultipartUploadSummary → Remote → List (Except Error Unit) → Prop
  | finished {remote final} (meanwhile : Relation.ReflTransGen (Acts scheme) remote final) :
      Sweeps scheme bucket remote [] final []
  | next {remote before upload rest fate after result final results}
      (meanwhile : Relation.ReflTransGen (Acts scheme) remote before)
      (ran : abortListed scheme bucket before fate upload = (after, result))
      (later : Sweeps scheme bucket after rest final results) :
      Sweeps scheme bucket remote (upload :: rest) final (result :: results)

/-- The next abort, with whatever becomes of it. -/
theorem Sweeps.abort {remote before final : Remote} {upload : MultipartUploadSummary}
    {rest : List MultipartUploadSummary} {results : List (Except Error Unit)} (fate : AbortFate)
    (meanwhile : Relation.ReflTransGen (Acts scheme) remote before)
    (later : Sweeps scheme bucket (abortListed scheme bucket before fate upload).1 rest final
      results) :
    Sweeps scheme bucket remote (upload :: rest) final
      ((abortListed scheme bucket before fate upload).2 :: results) :=
  .next meanwhile rfl later

theorem Remote.Leads.trans {first second third : Option Status} (one : Remote.Leads first second)
    (other : Remote.Leads second third) : Remote.Leads first third := by
  rcases one with rfl | absent | live
  · exact other
  · exact Or.inr (Or.inl absent)
  · exact Or.inr (Or.inr live)

theorem leads_of_acts {remote after : Remote}
    (run : Relation.ReflTransGen (Acts scheme) remote after) (address : Address) :
    Remote.Leads (remote.status address) (after.status address) := by
  induction run with
  | refl => exact Or.inl rfl
  | tail _ acts ih =>
      refine ih.trans ?_
      cases acts with
      | served served => exact Remote.serve_leads served address
      | put taken => exact Remote.uploaderPut_leads taken address

theorem Sweeps.leads {remote final : Remote} {uploads : List MultipartUploadSummary}
    {results : List (Except Error Unit)} (swept : Sweeps scheme bucket remote uploads final results)
    (address : Address) : Remote.Leads (remote.status address) (final.status address) := by
  induction swept with
  | finished meanwhile => exact leads_of_acts meanwhile address
  | @next remote before upload rest fate after result final results meanwhile ran later ih =>
      have moved := @abortListed_leads scheme bucket before fate upload address
      rw [ran] at moved
      exact (leads_of_acts meanwhile address).trans (moved.trans ih)

/-- What stays as it is once a session is aborted or committed. -/
theorem Remote.Leads.settled {before after : Option Status} {status : Status}
    (leads : Remote.Leads before after) (is : before = some status) (settled : status ≠ .live) :
    after = some status := by
  rcases leads with same | absent | live
  · exact same.trans is
  · cases absent.symm.trans is
  · exact absurd (Option.some.inj (is.symm.trans live)) settled

/-- After a sweep that has succeeded every upload in it is aborted. -/
theorem Sweeps.aborted {remote final : Remote} {uploads : List MultipartUploadSummary}
    {results : List (Except Error Unit)} (swept : Sweeps scheme bucket remote uploads final results)
    (done : ∀ result ∈ results, result = .ok ()) :
    ∀ upload ∈ uploads, final.status (upload.address bucket) = some .aborted := by
  induction swept with
  | finished meanwhile => exact List.forall_mem_nil _
  | @next remote before upload rest fate after result final results meanwhile ran later ih =>
      obtain ⟨here, others⟩ := List.forall_mem_cons.mp done
      refine List.forall_mem_cons.mpr ⟨?_, ih others⟩
      have now := @aborted_of_ok scheme bucket before fate upload (by rw [ran, here])
      rw [ran] at now
      exact (later.leads _).settled now (by decide)

/-- The uploads on pages one after the other. -/
def listedUploads (pages : List MultipartUploadPage) : List MultipartUploadSummary :=
  pages.flatMap MultipartUploadPage.uploads

theorem listedUploads_of_shown {pages : List MultipartUploadPage}
    {slices : List (List MultipartUploadSummary)}
    (shows : List.Forall₂ (fun page slice => page.uploads = slice) pages slices) :
    listedUploads pages = slices.flatten := by
  have parts : pages.flatMap MultipartUploadPage.uploads = slices.flatten.filterMap some :=
    PagedOperation.PagesThrough.flatMap_of_shown shows
      (fun page slice is => is.trans (List.filterMap_some).symm)
  rw [listedUploads, parts, List.filterMap_some]

/-- The uploads in progress are listed, page by page as the server likes, and then aborted, while
    everybody else goes on. The listing is whole: it shows each of them once. If all aborts
    succeed, whatever was in progress under the prefix is aborted, what is in progress now was
    begun since, and no object that was completed is undone. No abort ever touches another
    session than its own. -/
theorem sweep_ends_uploads (scheme : EtagScheme) (bucket : BucketName) (server : UploadServer)
    (builder : ListMultipartUploadsBuilder) (remote : Remote)
    (inProgress : List MultipartUploadSummary)
    (through : ListMultipartUploadsBuilder.paged.PagesThrough server builder
      (fun page slice => page.uploads = slice)
      (inProgress.filter (fun upload => hasPrefix builder.keyPrefix upload.key)))
    (checked : builder.check = .ok ())
    (starts : through.position (builder.keyMarker, builder.uploadIdMarker) = some 0)
    (whole : ∀ key uploadId, remote.status ⟨bucket.value, key, uploadId⟩ = some .live ↔
      ∃ upload ∈ inProgress, upload.key = key ∧ upload.uploadId = uploadId) :
    ∃ requests pages,
      (ListMultipartUploadsBuilder.intoPages server).Gives (some (some builder)) requests
        (pages.map .ok) ∧
      (∀ others items, (ListMultipartUploadsBuilder.intoPages server).Gives
        (some (some builder)) others items → others = requests ∧ items = pages.map .ok) ∧
      listedUploads pages =
        inProgress.filter (fun upload => hasPrefix builder.keyPrefix upload.key) ∧
      (∀ final results, Sweeps scheme bucket remote (listedUploads pages) final results →
        (∀ result ∈ results, result = .ok ()) →
        (∀ key uploadId, hasPrefix builder.keyPrefix key = true →
          (remote.status ⟨bucket.value, key, uploadId⟩ = some .live →
            final.status ⟨bucket.value, key, uploadId⟩ = some .aborted) ∧
          (final.status ⟨bucket.value, key, uploadId⟩ = some .live →
            remote.status ⟨bucket.value, key, uploadId⟩ = none)) ∧
        ∀ address object, remote.status address = some (.committed object) →
          final.status address = some (.committed object)) ∧
      ∀ before fate upload address, address ≠ upload.address bucket →
        (abortListed scheme bucket before fate upload).1 address = before address := by
  obtain ⟨requests, pages, slices, given, shows, flat, -⟩ := through.gives_pages checked
    ListMultipartUploadsBuilder.intoPages_followChains starts
  have listed : listedUploads pages =
      inProgress.filter (fun upload => hasPrefix builder.keyPrefix upload.key) := by
    rw [listedUploads_of_shown shows, flat, List.drop_zero]
  refine ⟨requests, pages, given, fun _ _ again => again.unique given, listed, ?_,
    fun _ _ _ _ other => abortListed_frame other⟩
  intro final results swept done
  refine ⟨?_, fun address object committed =>
    (swept.leads address).settled committed (fun other => by cases other)⟩
  intro key uploadId begins
  have ended : remote.status ⟨bucket.value, key, uploadId⟩ = some .live →
      final.status ⟨bucket.value, key, uploadId⟩ = some .aborted := by
    intro live
    obtain ⟨upload, member, rfl, rfl⟩ := (whole key uploadId).mp live
    refine swept.aborted done upload ?_
    rw [listed]
    exact List.mem_filter.mpr ⟨member, begins⟩
  refine ⟨ended, fun live => ?_⟩
  rcases swept.leads ⟨bucket.value, key, uploadId⟩ with same | absent | before
  · rw [same] at live
    have aborted := ended live
    rw [same, live] at aborted
    cases aborted
  · exact absent
  · have aborted := ended before
    rw [live] at aborted
    cases aborted

/-- Three uploads in progress, of which two are under the prefix. -/
def threeInProgress : List MultipartUploadSummary :=
  [⟨"a", "1", none⟩, ⟨"a", "2", none⟩, ⟨"b", "3", none⟩]

/-- The sessions of these uploads, and one that was completed. -/
def Remote.threeInProgress : Remote := fun address =>
  if address = ⟨shelfBucket.value, "a", "0"⟩ then some ⟨.committed [], fun _ => none⟩
  else if address ∈ R2kit.threeInProgress.map (fun upload => upload.address shelfBucket) then
    some ⟨.live, fun _ => none⟩
  else none

/-- A server that has one upload on each of its two pages. -/
def UploadServer.twoPages : UploadServer := fun input =>
  if input.uploadIdMarker = none then
    .ok {
      uploads := [⟨some "a", some "1", none⟩]
      commonPrefixes := []
      isTruncated := some true
      nextKeyMarker := some "a"
      nextUploadIdMarker := some "1" }
  else
    .ok {
      uploads := [⟨some "a", some "2", none⟩]
      commonPrefixes := []
      isTruncated := some false
      nextKeyMarker := none
      nextUploadIdMarker := none }

/-- What is asked for with the prefix `a`. -/
def underA : ListMultipartUploadsBuilder := { bucket := shelfBucket, keyPrefix := some "a" }

/-- The two pages are all that there is under the prefix. -/
def twoPagesThrough : ListMultipartUploadsBuilder.paged.PagesThrough UploadServer.twoPages underA
    (fun page slice => page.uploads = slice)
    (threeInProgress.filter (fun upload => hasPrefix underA.keyPrefix upload.key)) where
  position markers := if markers = (none, none) then some 0
    else if markers = (some "a", some "1") then some 1 else none
  turn cursor start stands := by
    split at stands
    · rename_i first
      cases first
      cases stands
      refine ⟨⟨[⟨"a", "1", none⟩], [], some "a", some "1"⟩, 1, ⟨_, rfl, rfl⟩, by decide, ?_, ?_⟩
      · intro last
        cases last
      · intro following named
        cases named
        decide
    · split at stands
      · rename_i second
        cases second
        cases stands
        refine ⟨⟨[⟨"a", "2", none⟩], [], none, none⟩, 1, ⟨_, rfl, rfl⟩, by decide, ?_, ?_⟩
        · intro _
          decide
        · intro following named
          cases named
      · cases stands

/-- The session of a new upload under the prefix. -/
def begunLater : CreateMultipartUploadInput where
  bucket := shelfBucket.value
  key := "a"
  headers := ObjectUploadOptions.applyTo {}
  metadata := none

/-- A part of the upload that is not under the prefix. -/
def writtenLater : Remote.UploaderPut := ⟨⟨shelfBucket.value, "b", "3"⟩, 1, [1]⟩

theorem threeInProgress_live (key uploadId : String) :
    Remote.threeInProgress.status ⟨shelfBucket.value, key, uploadId⟩ = some .live ↔
      ∃ upload ∈ threeInProgress, upload.key = key ∧ upload.uploadId = uploadId := by
  rw [Remote.status, Remote.threeInProgress]
  split
  · rename_i done
    cases done
    decide
  · split
    · rename_i among
      obtain ⟨upload, member, same⟩ := List.mem_map.mp among
      cases same
      exact iff_of_true rfl ⟨upload, member, rfl, rfl⟩
    · rename_i absent
      refine iff_of_false (by simp) ?_
      rintro ⟨upload, member, rfl, rfl⟩
      exact absent (List.mem_map_of_mem member)

/-- Between the two aborts somebody begins another upload under the prefix and somebody writes a
    part of the one that is not under it. -/
theorem sweep_ends_uploads_three :
    ∃ final, Sweeps .plain shelfBucket .threeInProgress [⟨"a", "1", none⟩, ⟨"a", "2", none⟩] final
        [.ok (), .ok ()] ∧
      (∀ uploadId ∈ ["1", "2"],
        final.status ⟨shelfBucket.value, "a", uploadId⟩ = some .aborted) ∧
      final.status ⟨shelfBucket.value, "a", "0"⟩ = some (.committed []) ∧
      final.status ⟨shelfBucket.value, "a", "4"⟩ = some .live ∧
      Remote.threeInProgress.status ⟨shelfBucket.value, "a", "4"⟩ = none := by
  obtain ⟨requests, pages, -, -, listed, effects, -⟩ := sweep_ends_uploads .plain shelfBucket
    .twoPages underA .threeInProgress threeInProgress twoPagesThrough rfl rfl threeInProgress_live
  let swept := (abortListed .plain shelfBucket .threeInProgress (.served none) ⟨"a", "1", none⟩).1
  obtain ⟨begun, created⟩ : ∃ begun, swept.serve .plain (.create begunLater)
      (.created (some "4")) = some (begun, .createMultipartUpload (some "4")) := ⟨_, rfl⟩
  obtain ⟨written, wrote⟩ : ∃ written, begun.uploaderPut writtenLater = some written := by
    cases created
    exact ⟨_, rfl⟩
  have meanwhile : Relation.ReflTransGen (Acts .plain) swept written :=
    .tail (.single (.served created)) (.put wrote)
  have run : Sweeps .plain shelfBucket .threeInProgress [⟨"a", "1", none⟩, ⟨"a", "2", none⟩]
      (abortListed .plain shelfBucket written (.served none) ⟨"a", "2", none⟩).1
      [.ok (), .ok ()] := by
    cases created
    cases wrote
    exact .abort (.served none) .refl (.abort (.served none) meanwhile (.finished .refl))
  obtain ⟨under, completed⟩ := effects _ _ (by rwa [listed]) (by simp)
  have live : (abortListed .plain shelfBucket written (.served none) ⟨"a", "2", none⟩).1.status
      ⟨shelfBucket.value, "a", "4"⟩ = some .live := by
    cases created
    cases wrote
    rfl
  refine ⟨_, run, ?_, completed _ _ rfl, live, (under "a" "4" rfl).2 live⟩
  intro uploadId member
  have listed_there : ∀ uploadId ∈ ["1", "2"], ∃ upload ∈ threeInProgress,
      upload.key = "a" ∧ upload.uploadId = uploadId := by decide
  exact (under "a" uploadId rfl).1 ((threeInProgress_live "a" uploadId).mpr
    (listed_there uploadId member))

end Sweep

end R2kit
