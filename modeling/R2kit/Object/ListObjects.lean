import R2kit.Listing

/-!
# Listing objects

`ListObjectsBuilder` of `src/object.rs`: one page of a listing, the stream of pages that
follows the continuation tokens, and the stream of the objects in them.
-/

namespace R2kit

open Misc

/-- `MAX_LIST_KEYS`. -/
def maxListKeys : Nat := 1000

/-- An object in a listing, as the crate returns it. -/
structure ObjectSummary where
  key : String
  size : Nat
  etag : Option String
  lastModified : Option SystemTime
  deriving DecidableEq, Repr

/-- One page of objects. -/
structure ObjectPage where
  objects : List ObjectSummary
  commonPrefixes : List String
  nextContinuationToken : Option String
  deriving DecidableEq, Repr

/-- `into_objects` of a page. -/
def ObjectPage.intoObjects (page : ObjectPage) : List ObjectSummary := page.objects

/-- `ListObjectsV2` as the SDK's builder holds it. -/
structure ListObjectsV2Input where
  bucket : String
  keyPrefix : Option String
  delimiter : Option String
  maxKeys : Nat
  continuationToken : Option String
  deriving DecidableEq, Repr

/-- An entry of `Contents` in an answer. -/
structure ListedObject where
  key : Option String
  size : Option Int
  eTag : Option String
  lastModified : Option DateTime
  deriving DecidableEq, Repr

/-- `ListObjectsV2` in an answer. -/
structure ListObjectsV2Output where
  contents : List ListedObject
  commonPrefixes : List (Option String)
  isTruncated : Option Bool
  nextContinuationToken : Option String
  deriving DecidableEq, Repr

/-- A server that answers each page request in one way. -/
abbrev ObjectServer := ListObjectsV2Input → Except SdkError ListObjectsV2Output

/-- `ListObjectsBuilder` as its setters leave it. -/
structure ListObjectsBuilder where
  bucket : BucketName
  keyPrefix : Option String := none
  delimiter : Option String := none
  limit : Nat := maxListKeys
  continuationToken : Option String := none
  deriving DecidableEq

namespace ListObjectsBuilder

/-- The setter `continuation_token`. -/
def withContinuationToken (builder : ListObjectsBuilder) (value : String) : ListObjectsBuilder :=
  { builder with continuationToken := some value }

/-- The checks of `send`, before the request is sent. -/
def check (builder : ListObjectsBuilder) : Except Error Unit := do
  checkListing maxListKeys builder.limit builder.keyPrefix builder.delimiter
  rejectEmpty "continuation_token" builder.continuationToken

/-- The request for the page that the builder stands at. -/
def request (builder : ListObjectsBuilder) : ListObjectsV2Input where
  bucket := builder.bucket.value
  keyPrefix := builder.keyPrefix
  delimiter := builder.delimiter
  maxKeys := builder.limit
  continuationToken := builder.continuationToken

/-- An entry of the answer; the key and the size must be there. -/
def readObject (object : ListedObject) : Except Error ObjectSummary := do
  let key ← okOrService "ListObjectsV2" object.key
  let size ← nonNegativeSize object.size "ListObjectsV2"
  let lastModified ← optionalSystemTime object.lastModified "ListObjectsV2"
  .ok { key, size, etag := object.eTag, lastModified }

/-- The token of the next page: a truncated page needs one. -/
def readToken (output : ListObjectsV2Output) : Except Error (Option String) :=
  if output.isTruncated = some true then
    match output.nextContinuationToken with
    | some token => if token ≠ "" then .ok (some token) else .error (.service "ListObjectsV2")
    | none => .error (.service "ListObjectsV2")
  else .ok none

/-- The rest of `send`, after the answer. -/
def readPage (output : ListObjectsV2Output) : Except Error ObjectPage := do
  let objects ← output.contents.mapM readObject
  let commonPrefixes ← output.commonPrefixes.mapM (okOrService "ListObjectsV2")
  let nextContinuationToken ← readToken output
  .ok { objects, commonPrefixes, nextContinuationToken }

theorem readToken_eq_some {output : ListObjectsV2Output} {token : String}
    (read : readToken output = .ok (some token)) :
    token ≠ "" ∧ output.nextContinuationToken = some token := by
  unfold readToken at read
  split at read
  · split at read
    · rename_i found sent
      split at read
      · rename_i filled
        cases read
        exact ⟨filled, sent⟩
      · cases read
    · cases read
  · cases read

/-- The next token of a page is the answer's, and not empty. -/
theorem token_of_readPage {output : ListObjectsV2Output} {page : ObjectPage} {token : String}
    (read : readPage output = .ok page) (next : page.nextContinuationToken = some token) :
    token ≠ "" ∧ output.nextContinuationToken = some token := by
  obtain ⟨objects, -, read⟩ := bind_eq_ok_iff.mp read
  obtain ⟨commonPrefixes, -, read⟩ := bind_eq_ok_iff.mp read
  obtain ⟨found, named, read⟩ := bind_eq_ok_iff.mp read
  cases read
  cases next
  exact readToken_eq_some named

theorem check_withContinuationToken {builder : ListObjectsBuilder} {token : String}
    (checked : builder.check = .ok ()) (filled : token ≠ "") :
    (builder.withContinuationToken token).check = .ok () := by
  have shared := (bind_unit_eq_ok_iff.mp checked).1
  exact bind_unit_eq_ok_iff.mpr ⟨shared, rejectEmpty_some filled⟩

/-- The listing as a paged operation, whose cursors are the continuation tokens. -/
def paged : PagedOperation ListObjectsBuilder (Option String) ListObjectsV2Input
    ListObjectsV2Output ObjectPage where
  operation := "ListObjectsV2"
  check := check
  request := request
  readPage := readPage
  next page := page.nextContinuationToken.map some
  cursor := continuationToken
  withCursor builder token := { builder with continuationToken := token }
  requested := ListObjectsV2Input.continuationToken
  withCursor_cursor _ := rfl
  cursor_withCursor _ _ := rfl
  withCursor_withCursor _ _ _ := rfl
  requested_request _ := rfl
  check_withCursor := by
    intro builder output page value checked read next
    obtain ⟨token, named, rfl⟩ := Option.map_eq_some_iff.mp next
    exact check_withContinuationToken checked (token_of_readPage read named).1

/-- `send`: one page, with the requests that it took. -/
def send (server : ObjectServer) (builder : ListObjectsBuilder) :
    List ListObjectsV2Input × Except Error ObjectPage :=
  paged.send server builder

/-- The closure of `into_pages`. -/
def nextPage (server : ObjectServer) : Option ListObjectsBuilder →
    List ListObjectsV2Input × Except Error (Option (ObjectPage × Option ListObjectsBuilder))
  | none => ([], .ok none)
  | some builder =>
      let previousToken := builder.continuationToken
      let nextBuilder := builder
      match builder.send server with
      | (requests, .error error) => (requests, .error error)
      | (requests, .ok page) =>
          let nextToken := page.nextContinuationToken
          if nextToken.isSome ∧ nextToken = previousToken then
            (requests, .error (.service "ListObjectsV2"))
          else (requests, .ok (some (page, nextToken.map nextBuilder.withContinuationToken)))

/-- `into_pages`, started in the state `some builder`. -/
def intoPages (server : ObjectServer) :
    ItemStream (Option (Option ListObjectsBuilder)) ListObjectsV2Input (Except Error ObjectPage) :=
  .tryUnfold (nextPage server)

/-- The items that `into_stream` makes of an item of `into_pages`. -/
def pageItems : Except Error ObjectPage → List (Except Error ObjectSummary)
  | .ok page => page.intoObjects.map .ok
  | .error error => [.error error]

/-- `into_stream`, started with nothing queued. -/
def intoStream (server : ObjectServer) :
    ItemStream (List (Except Error ObjectSummary) × Option (Option ListObjectsBuilder))
      ListObjectsV2Input (Except Error ObjectSummary) :=
  (intoPages server).flatMap pageItems

/-- `into_objects`: the entries of all pages, one after the other. -/
def intoObjects (server : ObjectServer) :
    ItemStream (List (Except Error ObjectSummary) × Option (Option ListObjectsBuilder))
      ListObjectsV2Input (Except Error ObjectSummary) :=
  intoStream server

section Streams

variable {server : ObjectServer}

theorem stuck_iff {builder : ListObjectsBuilder} {page : ObjectPage} :
    page.nextContinuationToken.isSome ∧ page.nextContinuationToken = builder.continuationToken ↔
      paged.next page = some (paged.cursor builder) := by
  change _ ↔ page.nextContinuationToken.map some = some builder.continuationToken
  rcases page.nextContinuationToken with none | token
  · simp
  · simp

theorem nextBuilder_eq {builder : ListObjectsBuilder} {page : ObjectPage} :
    (paged.next page).map (paged.withCursor builder) =
      page.nextContinuationToken.map builder.withContinuationToken :=
  Option.map_map _ _ _

theorem nextPage_eq : nextPage server = paged.nextPage server := by
  funext state
  rcases state with none | builder
  · rfl
  · simp only [nextPage, PagedOperation.nextPage, send, stuck_iff, nextBuilder_eq]
    rcases paged.send server builder with ⟨requests, error | page⟩
    · rfl
    · exact if_congr Iff.rfl rfl rfl

theorem intoPages_eq : intoPages server = (paged.pager server).pages := by
  rw [intoPages, nextPage_eq, Pager.pages, PagedOperation.advance_eq]

theorem pageItems_eq : pageItems = PagedOperation.eachOf ObjectPage.intoObjects := by
  funext item
  cases item with
  | error error => rfl
  | ok page => rfl

/-- The pages of a chain of tokens are followed and yielded. -/
theorem intoPages_followChains (builder : ListObjectsBuilder) :
    paged.FollowsChains server builder (intoPages server) (some (some builder))
      (fun page => [page]) := by
  rw [intoPages_eq]
  exact PagedOperation.pages_followChains

/-- So are the objects in them. -/
theorem intoStream_followChains (builder : ListObjectsBuilder) :
    paged.FollowsChains server builder (intoStream server) ([], some (some builder))
      ObjectPage.intoObjects := by
  rw [intoStream, pageItems_eq]
  exact (intoPages_followChains builder).flatMap

/-- The continuation tokens that a server uses. -/
def tokens (server : ObjectServer) : Set String :=
  {token | ∃ input output, server input = .ok output ∧
    output.nextContinuationToken = some token}

theorem named_mem_tokens {builder : ListObjectsBuilder} {current following : Option String}
    (goes : paged.GoesOn server builder current following) :
    following ∈ some '' tokens server := by
  obtain ⟨-, page, ⟨output, answer, read⟩, next⟩ := goes
  change page.nextContinuationToken.map some = some following at next
  obtain ⟨token, named, rfl⟩ := Option.map_eq_some_iff.mp next
  exact ⟨token, ⟨_, output, answer, (token_of_readPage read named).2⟩, rfl⟩

/-- On finitely many tokens, the stream of pages ends exactly if they lead into no cycle. -/
theorem intoPages_ends_iff {builder : ListObjectsBuilder} (finite : (tokens server).Finite) :
    (intoPages server).Ends (some (some builder)) ↔
      (builder.check = .ok () → ¬ paged.LeadsIntoCycle server builder) := by
  rw [intoPages_eq]
  exact PagedOperation.ends_iff (finite.image some) (fun _ _ => named_mem_tokens)

end Streams

end ListObjectsBuilder

end R2kit
