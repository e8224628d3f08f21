import R2kit.Listing

/-!
# Listing uploads in progress

`ListMultipartUploadsBuilder` of `src/multipart.rs`: one page of a listing, and the stream of
pages that follows the pairs of markers. Either half of a pair may be absent, but not both.
-/

namespace R2kit

open Misc

/-- An upload in progress, as the crate returns it. -/
structure MultipartUploadSummary where
  key : String
  uploadId : String
  initiated : Option SystemTime
  deriving DecidableEq, Repr

/-- One page of uploads in progress. -/
structure MultipartUploadPage where
  uploads : List MultipartUploadSummary
  commonPrefixes : List String
  nextKeyMarker : Option String
  nextUploadIdMarker : Option String
  deriving DecidableEq, Repr

/-- `ListMultipartUploads` as the SDK's builder holds it. -/
structure ListMultipartUploadsInput where
  bucket : String
  keyPrefix : Option String
  delimiter : Option String
  maxUploads : Nat
  keyMarker : Option String
  uploadIdMarker : Option String
  deriving DecidableEq, Repr

/-- An entry of `Uploads` in an answer. -/
structure ListedUpload where
  key : Option String
  uploadId : Option String
  initiated : Option DateTime
  deriving DecidableEq, Repr

/-- `ListMultipartUploads` in an answer. -/
structure ListMultipartUploadsOutput where
  uploads : List ListedUpload
  commonPrefixes : List (Option String)
  isTruncated : Option Bool
  nextKeyMarker : Option String
  nextUploadIdMarker : Option String
  deriving DecidableEq, Repr

/-- A server that answers each page request in one way. -/
abbrev UploadServer := ListMultipartUploadsInput → Except SdkError ListMultipartUploadsOutput

/-- A key marker and an upload ID marker. -/
abbrev Markers := Option String × Option String

/-- `ListMultipartUploadsBuilder` as its setters leave it. -/
structure ListMultipartUploadsBuilder where
  bucket : BucketName
  keyPrefix : Option String := none
  delimiter : Option String := none
  limit : Nat := 1000
  keyMarker : Option String := none
  uploadIdMarker : Option String := none
  deriving DecidableEq

namespace ListMultipartUploadsBuilder

/-- The checks of `send`, before the request is sent. -/
def check (builder : ListMultipartUploadsBuilder) : Except Error Unit := do
  checkListing 1000 builder.limit builder.keyPrefix builder.delimiter
  rejectEmpty "key_marker" builder.keyMarker
  rejectEmpty "upload_id_marker" builder.uploadIdMarker

/-- The request for the page that the builder stands at. -/
def request (builder : ListMultipartUploadsBuilder) : ListMultipartUploadsInput where
  bucket := builder.bucket.value
  keyPrefix := builder.keyPrefix
  delimiter := builder.delimiter
  maxUploads := builder.limit
  keyMarker := builder.keyMarker
  uploadIdMarker := builder.uploadIdMarker

/-- An entry of the answer; the key and the upload id must be there. -/
def readUpload (upload : ListedUpload) : Except Error MultipartUploadSummary := do
  let key ← okOrService "ListMultipartUploads" upload.key
  let uploadId ← okOrService "ListMultipartUploads" upload.uploadId
  let initiated ← optionalSystemTime upload.initiated "ListMultipartUploads"
  .ok { key, uploadId, initiated }

/-- `filter(|s| !s.is_empty())`. -/
def filled (marker : Option String) : Option String :=
  marker.filter (fun value => value ≠ "")

/-- The markers of the next page: a truncated page needs one of them. -/
def readMarkers (output : ListMultipartUploadsOutput) : Except Error Markers :=
  if output.isTruncated = some true then
    let keyMarker := filled output.nextKeyMarker
    let uploadIdMarker := filled output.nextUploadIdMarker
    if keyMarker.isNone ∧ uploadIdMarker.isNone then .error (.service "ListMultipartUploads")
    else .ok (keyMarker, uploadIdMarker)
  else .ok (none, none)

/-- The rest of `send`, after the answer. -/
def readPage (output : ListMultipartUploadsOutput) : Except Error MultipartUploadPage := do
  let uploads ← output.uploads.mapM readUpload
  let commonPrefixes ← output.commonPrefixes.mapM (okOrService "ListMultipartUploads")
  let (nextKeyMarker, nextUploadIdMarker) ← readMarkers output
  .ok { uploads, commonPrefixes, nextKeyMarker, nextUploadIdMarker }

/-- The markers a page names for the next one. -/
def nextMarkers (page : MultipartUploadPage) : Option Markers :=
  if page.nextKeyMarker.isSome ∨ page.nextUploadIdMarker.isSome then
    some (page.nextKeyMarker, page.nextUploadIdMarker)
  else none

/-- The builder for the page after these markers. -/
def withMarkers (builder : ListMultipartUploadsBuilder) (markers : Markers) :
    ListMultipartUploadsBuilder :=
  { builder with keyMarker := markers.1, uploadIdMarker := markers.2 }

theorem filled_ne (marker : Option String) : filled marker ≠ some "" := by
  intro empty
  have kept := Option.mem_filter_iff.mp (Option.mem_def.mpr empty)
  simp at kept

theorem rejectEmpty_filled {field : String} (marker : Option String) :
    rejectEmpty field (filled marker) = .ok () :=
  if_neg (filled_ne marker)

theorem readMarkers_eq {output : ListMultipartUploadsOutput} {markers : Markers}
    (read : readMarkers output = .ok markers) (some_marker : markers ≠ (none, none)) :
    markers = (filled output.nextKeyMarker, filled output.nextUploadIdMarker) := by
  unfold readMarkers at read
  split at read
  · dsimp only at read
    split at read
    · cases read
    · cases read
      rfl
  · cases read
    exact absurd rfl some_marker

/-- The next markers of a page are the answer's, without the empty ones. -/
theorem markers_of_readPage {output : ListMultipartUploadsOutput} {page : MultipartUploadPage}
    {markers : Markers} (read : readPage output = .ok page)
    (next : nextMarkers page = some markers) :
    markers = (filled output.nextKeyMarker, filled output.nextUploadIdMarker) := by
  obtain ⟨uploads, -, read⟩ := bind_eq_ok_iff.mp read
  obtain ⟨commonPrefixes, -, read⟩ := bind_eq_ok_iff.mp read
  obtain ⟨found, named, read⟩ := bind_eq_ok_iff.mp read
  cases read
  unfold nextMarkers at next
  split at next
  · rename_i present
    cases next
    refine readMarkers_eq named ?_
    intro absent
    obtain ⟨noKey, noUploadId⟩ := Prod.mk.inj absent
    dsimp only at noKey noUploadId
    rw [noKey, noUploadId] at present
    simp at present
  · cases next

theorem check_withMarkers {builder : ListMultipartUploadsBuilder}
    (checked : builder.check = .ok ()) (keyMarker uploadIdMarker : Option String) :
    (builder.withMarkers (filled keyMarker, filled uploadIdMarker)).check = .ok () := by
  have shared := (bind_unit_eq_ok_iff.mp checked).1
  refine bind_unit_eq_ok_iff.mpr ⟨shared, ?_⟩
  exact bind_unit_eq_ok_iff.mpr ⟨rejectEmpty_filled keyMarker, rejectEmpty_filled uploadIdMarker⟩

/-- The listing as a paged operation, whose cursors are the pairs of markers. -/
def paged : PagedOperation ListMultipartUploadsBuilder Markers ListMultipartUploadsInput
    ListMultipartUploadsOutput MultipartUploadPage where
  operation := "ListMultipartUploads"
  check := check
  request := request
  readPage := readPage
  next := nextMarkers
  cursor builder := (builder.keyMarker, builder.uploadIdMarker)
  withCursor := withMarkers
  requested input := (input.keyMarker, input.uploadIdMarker)
  withCursor_cursor _ := rfl
  cursor_withCursor _ _ := rfl
  withCursor_withCursor _ _ _ := rfl
  requested_request _ := rfl
  check_withCursor := by
    intro builder output page markers checked read next
    rw [markers_of_readPage read next]
    exact check_withMarkers checked _ _

/-- `send`: one page, with the requests that it took. -/
def send (server : UploadServer) (builder : ListMultipartUploadsBuilder) :
    List ListMultipartUploadsInput × Except Error MultipartUploadPage :=
  paged.send server builder

/-- The closure of `into_pages`. -/
def nextPage (server : UploadServer) : Option ListMultipartUploadsBuilder →
    List ListMultipartUploadsInput ×
      Except Error (Option (MultipartUploadPage × Option ListMultipartUploadsBuilder))
  | none => ([], .ok none)
  | some builder =>
      let prevKey := builder.keyMarker
      let prevUploadId := builder.uploadIdMarker
      let nextBuilder := builder
      match builder.send server with
      | (requests, .error error) => (requests, .error error)
      | (requests, .ok page) =>
          let nextKey := page.nextKeyMarker
          let nextUploadId := page.nextUploadIdMarker
          if (nextKey.isSome ∨ nextUploadId.isSome) ∧ nextKey = prevKey ∧
              nextUploadId = prevUploadId then
            (requests, .error (.service "ListMultipartUploads"))
          else
            let state :=
              if nextKey.isSome ∨ nextUploadId.isSome then
                some { nextBuilder with keyMarker := nextKey, uploadIdMarker := nextUploadId }
              else none
            (requests, .ok (some (page, state)))

/-- `into_pages`, started in the state `some builder`. -/
def intoPages (server : UploadServer) :
    ItemStream (Option (Option ListMultipartUploadsBuilder)) ListMultipartUploadsInput
      (Except Error MultipartUploadPage) :=
  .tryUnfold (nextPage server)

section Streams

variable {server : UploadServer} {builder : ListMultipartUploadsBuilder}

theorem stuck_iff {page : MultipartUploadPage} :
    ((page.nextKeyMarker.isSome ∨ page.nextUploadIdMarker.isSome) ∧
        page.nextKeyMarker = builder.keyMarker ∧
        page.nextUploadIdMarker = builder.uploadIdMarker) ↔
      paged.next page = some (paged.cursor builder) := by
  change _ ↔ nextMarkers page = some (builder.keyMarker, builder.uploadIdMarker)
  unfold nextMarkers
  split
  · rename_i present
    simp only [present, true_and, Option.some.injEq, Prod.mk.injEq]
  · rename_i absent
    simp only [absent, false_and, reduceCtorEq]

theorem nextBuilder_eq {page : MultipartUploadPage} :
    (paged.next page).map (paged.withCursor builder) =
      if page.nextKeyMarker.isSome ∨ page.nextUploadIdMarker.isSome then
        some { builder with
          keyMarker := page.nextKeyMarker, uploadIdMarker := page.nextUploadIdMarker }
      else none := by
  change (nextMarkers page).map builder.withMarkers = _
  unfold nextMarkers
  split
  · rfl
  · rfl

theorem nextPage_eq : nextPage server = paged.nextPage server := by
  funext state
  rcases state with none | builder
  · rfl
  · simp only [nextPage, PagedOperation.nextPage, send, stuck_iff, nextBuilder_eq]
    rcases paged.send server builder with ⟨requests, error | page⟩
    · rfl
    · exact if_congr Iff.rfl rfl rfl

theorem intoPages_eq : intoPages server = (paged.pager server).pages := by
  rw [intoPages, nextPage_eq, Pager.pages, PagedOperation.advance_eq]

/-- The pages of a chain of markers are followed and yielded. -/
theorem intoPages_followChains :
    paged.FollowsChains server builder (intoPages server) (some (some builder))
      (fun page => [page]) := by
  rw [intoPages_eq]
  exact PagedOperation.pages_followChains

/-- The pairs of markers that a server uses. -/
def markers (server : UploadServer) : Set Markers :=
  {pair | ∃ input output, server input = .ok output ∧
    pair = (output.nextKeyMarker, output.nextUploadIdMarker)}

theorem named_mem_markers {current following : Markers}
    (goes : paged.GoesOn server builder current following) :
    following ∈ Prod.map filled filled '' markers server := by
  obtain ⟨-, page, ⟨output, answer, read⟩, next⟩ := goes
  exact ⟨_, ⟨_, output, answer, rfl⟩, (markers_of_readPage read next).symm⟩

/-- On finitely many pairs, the stream of pages ends exactly if they lead into no cycle. -/
theorem intoPages_ends_iff (finite : (markers server).Finite) :
    (intoPages server).Ends (some (some builder)) ↔
      (builder.check = .ok () → ¬ paged.LeadsIntoCycle server builder) := by
  rw [intoPages_eq]
  exact PagedOperation.ends_iff (finite.image _) (fun _ _ => named_mem_markers)

end Streams

end ListMultipartUploadsBuilder

end R2kit
