import Mathlib.Data.List.Dedup
import R2kit.ListingWhole
import R2kit.Object.ListObjects

/-!
# Listing what stands in a bucket

The objects of a bucket and a server that lists them: those with the prefix, and those that
have the delimiter after it rolled up to common prefixes. How many entries it puts on a page
and what its continuation tokens look like are its own affair.
-/

namespace R2kit

open Misc

/-- The objects of a bucket, ascending by key. -/
structure Shelf where
  objects : List ObjectSummary
  ascending : objects.Pairwise (fun first second => first.key < second.key)
  keys : ∀ object ∈ objects, object.key.utf8ByteSize ≠ 0 ∧ object.key.utf8ByteSize ≤ maxKeyBytes

/-- What a listing counts: an object, or the common prefix of several. -/
inductive ShelfEntry where
  | object (summary : ObjectSummary)
  | commonPrefix (text : String)
  deriving DecidableEq

namespace ShelfEntry

/-- The object of an entry. -/
def object? : ShelfEntry → Option ObjectSummary
  | object summary => some summary
  | commonPrefix _ => none

/-- The common prefix of an entry. -/
def commonPrefix? : ShelfEntry → Option String
  | object _ => none
  | commonPrefix text => some text

@[simp] theorem object?_object (summary : ObjectSummary) :
    (object summary).object? = some summary := rfl

@[simp] theorem object?_commonPrefix (text : String) : (commonPrefix text).object? = none := rfl

@[simp] theorem commonPrefix?_object (summary : ObjectSummary) :
    (object summary).commonPrefix? = none := rfl

@[simp] theorem commonPrefix?_commonPrefix (text : String) :
    (commonPrefix text).commonPrefix? = some text := rfl

end ShelfEntry

/-- A text up to the first occurrence of a mark and through it. -/
def upThrough (mark : List Char) : List Char → Option (List Char)
  | [] => none
  | char :: rest =>
      if mark.isPrefixOf (char :: rest) then some mark
      else (upThrough mark rest).map (List.cons char)

/-- The common prefix that a key is rolled up to, if it is. -/
def rolledUp (keyPrefix delimiter : Option String) (key : String) : Option String :=
  (delimiter.bind (fun delimiter =>
      upThrough delimiter.toList (key.toList.drop (keyPrefix.getD "").length))).map
    (fun rest => keyPrefix.getD "" ++ String.ofList rest)

/-- The key starts with the prefix that is asked for. -/
def hasPrefix (keyPrefix : Option String) (key : String) : Bool :=
  (keyPrefix.getD "").toList.isPrefixOf key.toList

/-- What a listing shows for an object. -/
def shelfEntry (keyPrefix delimiter : Option String) (summary : ObjectSummary) : ShelfEntry :=
  match rolledUp keyPrefix delimiter summary.key with
  | some text => .commonPrefix text
  | none => .object summary

namespace Shelf

/-- The entries of a listing, a common prefix once for all the keys that have it. -/
def entries (shelf : Shelf) (keyPrefix delimiter : Option String) : List ShelfEntry :=
  ((shelf.objects.filter (fun object => hasPrefix keyPrefix object.key)).map
    (shelfEntry keyPrefix delimiter)).dedup

/-- The objects that a listing shows as such. -/
def listed (shelf : Shelf) (keyPrefix delimiter : Option String) : List ObjectSummary :=
  shelf.objects.filter (fun object =>
    hasPrefix keyPrefix object.key && (rolledUp keyPrefix delimiter object.key).isNone)

end Shelf

/-- What a server of listings is free to choose: its tokens, and how many entries it puts on
    a page, as long as it is one at least and no more than it was asked for. -/
structure ListingChoices where
  token : Nat → String
  position : String → Option Nat
  position_token : ∀ start, position (token start) = some start
  token_ne : ∀ start, token start ≠ ""
  size : ListObjectsV2Input → Nat
  size_pos : ∀ input, 0 < input.maxKeys → 0 < size input
  size_le : ∀ input, size input ≤ input.maxKeys

namespace ListingChoices

/-- The position that a continuation token stands for. -/
def start (choices : ListingChoices) (token : Option String) : Option Nat :=
  match token with
  | none => some 0
  | some token => choices.position token

end ListingChoices

/-- An object as an answer lists it. -/
def ObjectSummary.entry (summary : ObjectSummary) : ListedObject where
  key := some summary.key
  size := some summary.size
  eTag := summary.etag
  lastModified := summary.lastModified.map (fun time => ⟨some time⟩)

/-- The answer with these entries. -/
def listingAnswer (slice : List ShelfEntry) (next : Option String) : ListObjectsV2Output where
  contents := (slice.filterMap ShelfEntry.object?).map ObjectSummary.entry
  commonPrefixes := (slice.filterMap ShelfEntry.commonPrefix?).map some
  isTruncated := some next.isSome
  nextContinuationToken := next

/-- `ListObjectsV2` on a shelf. -/
def Shelf.serve (shelf : Shelf) (bucket : BucketName) (choices : ListingChoices) : ObjectServer :=
  fun input =>
    if input.bucket ≠ bucket.value then
      .error (.serviceError (some "NoSuchBucket") ⟨404, none, none⟩)
    else
      match choices.start input.continuationToken with
      | none => .error (.serviceError (some "InvalidArgument") ⟨400, none, none⟩)
      | some start =>
          let rest := (shelf.entries input.keyPrefix input.delimiter).drop start
          let count := choices.size input
          .ok (listingAnswer (rest.take count)
            (if count < rest.length then some (choices.token (start + count)) else none))

/-- A page shows these entries, and no more of them than the builder asks for. -/
def ObjectPage.Shows (limit : Nat) (page : ObjectPage) (slice : List ShelfEntry) : Prop :=
  page.objects = slice.filterMap ShelfEntry.object? ∧
    page.commonPrefixes = slice.filterMap ShelfEntry.commonPrefix? ∧ slice.length ≤ limit

section Answers

theorem readObject_entry (summary : ObjectSummary) :
    ListObjectsBuilder.readObject summary.entry = .ok summary := by
  have sized : nonNegativeSize (some (summary.size : Int)) "ListObjectsV2" = .ok summary.size := by
    simp [nonNegativeSize, okOrService]
  have dated : optionalSystemTime summary.entry.lastModified "ListObjectsV2" =
      .ok summary.lastModified := by
    rw [ObjectSummary.entry]
    cases summary.lastModified with
    | none => rfl
    | some time => rfl
  simp only [ListObjectsBuilder.readObject, dated]
  rw [ObjectSummary.entry, okOrService, bind_eq_ok_iff]
  refine ⟨summary.key, rfl, ?_⟩
  rw [bind_eq_ok_iff]
  exact ⟨summary.size, sized, rfl⟩

/-- An answer with entries is read as a page that shows them. -/
theorem readPage_listingAnswer {slice : List ShelfEntry} {next : Option String}
    (filled : next ≠ some "") :
    ListObjectsBuilder.readPage (listingAnswer slice next) = .ok {
      objects := slice.filterMap ShelfEntry.object?
      commonPrefixes := slice.filterMap ShelfEntry.commonPrefix?
      nextContinuationToken := next } := by
  have objects : (listingAnswer slice next).contents.mapM ListObjectsBuilder.readObject =
      .ok (slice.filterMap ShelfEntry.object?) := by
    rw [listingAnswer, List.mapM_map]
    refine (mapM_eq_pure (g := id) (fun summary _ => readObject_entry summary)).trans ?_
    rw [List.map_id]
    rfl
  have prefixes : (listingAnswer slice next).commonPrefixes.mapM (okOrService "ListObjectsV2") =
      .ok (slice.filterMap ShelfEntry.commonPrefix?) := by
    rw [listingAnswer, List.mapM_map]
    refine (mapM_eq_pure (g := id) (fun text _ => rfl)).trans ?_
    rw [List.map_id]
    rfl
  have token : ListObjectsBuilder.readToken (listingAnswer slice next) = .ok next := by
    unfold ListObjectsBuilder.readToken listingAnswer
    cases next with
    | none => rfl
    | some text =>
        have given : text ≠ "" := fun empty => filled (congrArg some empty)
        simp [given]
  rw [ListObjectsBuilder.readPage, objects, prefixes, token]
  rfl

variable {shelf : Shelf} {bucket : BucketName} {choices : ListingChoices}
  {builder : ListObjectsBuilder}

/-- The limit that a builder has passed its checks with. -/
theorem limit_of_check (checked : builder.check = .ok ()) : 0 < builder.limit := by
  have shared := (bind_unit_eq_ok_iff.mp checked).1
  unfold checkListing at shared
  by_contra nothing
  have none_left : builder.limit = 0 ∨ maxListKeys < builder.limit := Or.inl (by omega)
  rw [if_pos none_left] at shared
  cases shared

/-- What the server answers to a token that stands for a position. -/
theorem serve_of_start (same : builder.bucket = bucket) {token : Option String} {start : Nat}
    (stands : choices.start token = some start) {rest : List ShelfEntry}
    (left : (shelf.entries builder.keyPrefix builder.delimiter).drop start = rest) {count : Nat}
    (size : choices.size (ListObjectsBuilder.paged.requestAt builder token) = count) :
    shelf.serve bucket choices (ListObjectsBuilder.paged.requestAt builder token) =
      .ok (listingAnswer (rest.take count)
        (if count < rest.length then some (choices.token (start + count)) else none)) := by
  have found : (ListObjectsBuilder.paged.requestAt builder token).bucket = bucket.value := by
    rw [← same]
    rfl
  have at_start : choices.start
      (ListObjectsBuilder.paged.requestAt builder token).continuationToken = some start := stands
  have is : (shelf.entries (ListObjectsBuilder.paged.requestAt builder token).keyPrefix
      (ListObjectsBuilder.paged.requestAt builder token).delimiter).drop start = rest := left
  simp only [Shelf.serve, if_neg (not_not_intro found), at_start, is, size]

/-- The server pages through the entries of its shelf. -/
def pagesThrough (same : builder.bucket = bucket) (checked : builder.check = .ok ()) :
    ListObjectsBuilder.paged.PagesThrough (shelf.serve bucket choices) builder
      (ObjectPage.Shows builder.limit) (shelf.entries builder.keyPrefix builder.delimiter) where
  position := choices.start
  turn token start stands := by
    generalize left : (shelf.entries builder.keyPrefix builder.delimiter).drop start = rest
    generalize size : choices.size (ListObjectsBuilder.paged.requestAt builder token) = count
    have served := serve_of_start same stands left size
    have length := congrArg List.length left
    rw [List.length_drop] at length
    have limit : 0 < builder.limit := limit_of_check checked
    have positive : 0 < count := by
      rw [← size]
      exact choices.size_pos _ limit
    have bounded : count ≤ builder.limit := by
      rw [← size]
      exact choices.size_le _
    have filled : (if count < rest.length then some (choices.token (start + count)) else none) ≠
        some "" := by
      split
      · exact fun empty => choices.token_ne _ (Option.some.inj empty)
      · exact Option.some_ne_none "" ∘ Eq.symm
    refine ⟨_, count, ⟨_, served, readPage_listingAnswer filled⟩, ⟨rfl, rfl, ?_⟩, ?_, ?_⟩
    · exact Nat.le_trans (List.length_take_le count rest) bounded
    · intro final
      by_contra more
      have inside : count < rest.length := by omega
      rw [if_pos inside] at final
      cases final
    · intro following named
      split at named
      · rename_i inside
        cases named
        exact ⟨positive, by omega, choices.position_token _⟩
      · cases named

end Answers

section Entries

variable {shelf : Shelf} {keyPrefix delimiter : Option String}

/-- Removing repetitions does not touch what is there once. -/
theorem filterMap_dedup {α β : Type} [DecidableEq α] {part : α → Option β} {list : List α}
    (once : (list.filterMap part).Nodup) : list.dedup.filterMap part = list.filterMap part := by
  induction list with
  | nil => rfl
  | cons a rest ih =>
      cases shown : part a with
      | none =>
          rw [List.filterMap_cons_none shown] at once ⊢
          by_cases again : a ∈ rest
          · rw [List.dedup_cons_of_mem again, ih once]
          · rw [List.dedup_cons_of_notMem again, List.filterMap_cons_none shown, ih once]
      | some b =>
          rw [List.filterMap_cons_some shown] at once ⊢
          obtain ⟨new, later⟩ := List.nodup_cons.mp once
          have fresh : a ∉ rest := fun again => new (List.mem_filterMap.mpr ⟨a, again, shown⟩)
          rw [List.dedup_cons_of_notMem fresh, List.filterMap_cons_some shown, ih later]

theorem object?_shelfEntry (summary : ObjectSummary) :
    (shelfEntry keyPrefix delimiter summary).object? =
      if (rolledUp keyPrefix delimiter summary.key).isNone then some summary else none := by
  unfold shelfEntry
  cases rolledUp keyPrefix delimiter summary.key with
  | none => rfl
  | some text => rfl

theorem commonPrefix?_shelfEntry (summary : ObjectSummary) :
    (shelfEntry keyPrefix delimiter summary).commonPrefix? =
      rolledUp keyPrefix delimiter summary.key := by
  unfold shelfEntry
  cases rolledUp keyPrefix delimiter summary.key with
  | none => rfl
  | some text => rfl

theorem Shelf.nodup : shelf.objects.Nodup :=
  shelf.ascending.imp (fun {first second} before same => by
    rw [same] at before
    exact String.lt_irrefl _ before)

/-- The objects among the entries are the objects that are shown. -/
theorem Shelf.entries_objects :
    (shelf.entries keyPrefix delimiter).filterMap ShelfEntry.object? =
      shelf.listed keyPrefix delimiter := by
  have shown : ((shelf.objects.filter (fun object => hasPrefix keyPrefix object.key)).map
      (shelfEntry keyPrefix delimiter)).filterMap ShelfEntry.object? =
        shelf.listed keyPrefix delimiter := by
    rw [Shelf.listed, ← List.filterMap_eq_filter, ← List.filterMap_eq_filter,
      List.map_filterMap, List.filterMap_filterMap]
    refine List.filterMap_congr ?_
    intro summary _
    by_cases begins : hasPrefix keyPrefix summary.key = true
    · cases rolled : rolledUp keyPrefix delimiter summary.key with
      | none => simp [Option.guard, begins, rolled, object?_shelfEntry]
      | some text => simp [Option.guard, begins, rolled, object?_shelfEntry]
    · simp [Option.guard, begins]
  have once : (shelf.listed keyPrefix delimiter).Nodup := shelf.nodup.filter _
  rw [← shown] at once
  rw [Shelf.entries, filterMap_dedup once]
  exact shown

/-- The common prefixes among the entries are those of some key, once each. -/
theorem Shelf.entries_prefixes :
    ((shelf.entries keyPrefix delimiter).filterMap ShelfEntry.commonPrefix?).Nodup ∧
      ∀ text, text ∈ (shelf.entries keyPrefix delimiter).filterMap ShelfEntry.commonPrefix? ↔
        ∃ object ∈ shelf.objects, hasPrefix keyPrefix object.key = true ∧
          rolledUp keyPrefix delimiter object.key = some text := by
  constructor
  · refine List.Nodup.filterMap ?_ (List.nodup_dedup _)
    intro first second text shown again
    cases first with
    | object summary => cases shown
    | commonPrefix one =>
        cases second with
        | object summary => cases again
        | commonPrefix other =>
            cases shown
            cases again
            rfl
  · intro text
    simp only [Shelf.entries, List.mem_filterMap, List.mem_dedup, List.mem_map, List.mem_filter]
    constructor
    · rintro ⟨entry, ⟨object, ⟨member, begins⟩, rfl⟩, shown⟩
      rw [commonPrefix?_shelfEntry] at shown
      exact ⟨object, member, begins, shown⟩
    · rintro ⟨object, member, begins, rolled⟩
      refine ⟨_, ⟨object, ⟨member, begins⟩, rfl⟩, ?_⟩
      rw [commonPrefix?_shelfEntry, rolled]

theorem Shelf.length_entries (shelf : Shelf) (keyPrefix delimiter : Option String) :
    (shelf.entries keyPrefix delimiter).length ≤ shelf.objects.length := by
  refine Nat.le_trans (List.dedup_sublist _).length_le ?_
  rw [List.length_map]
  exact List.length_filter_le _ _

/-- Every entry is an object or a common prefix. -/
theorem ShelfEntry.length_parts (slice : List ShelfEntry) :
    (slice.filterMap ShelfEntry.object?).length +
      (slice.filterMap ShelfEntry.commonPrefix?).length = slice.length := by
  induction slice with
  | nil => rfl
  | cons entry rest ih =>
      cases entry with
      | object summary =>
          simp only [List.filterMap_cons, object?_object, commonPrefix?_object, List.length_cons]
          omega
      | commonPrefix text =>
          simp only [List.filterMap_cons, object?_commonPrefix, commonPrefix?_commonPrefix,
            List.length_cons]
          omega

theorem bounded_of_shown {limit : Nat} {pages : List ObjectPage} {slices : List (List ShelfEntry)}
    (shown : List.Forall₂ (ObjectPage.Shows limit) pages slices) :
    ∀ page ∈ pages, page.objects.length + page.commonPrefixes.length ≤ limit := by
  induction shown with
  | nil => exact List.forall_mem_nil _
  | cons here _ ih =>
      refine List.forall_mem_cons.mpr ⟨?_, ih⟩
      rw [here.1, here.2.1, ShelfEntry.length_parts]
      exact here.2.2

end Entries

namespace ListObjectsBuilder

section Resume

variable {server : ObjectServer}

/-- A page that `into_pages` goes on from leads to the builder with its token. -/
theorem nextPage_eq_ok {builder : ListObjectsBuilder} {requests : List ListObjectsV2Input}
    {page : ObjectPage} {next : Option ListObjectsBuilder}
    (asked : nextPage server (some builder) = (requests, .ok (some (page, next)))) :
    next = page.nextContinuationToken.map builder.withContinuationToken := by
  simp only [nextPage] at asked
  split at asked
  · cases asked
  · split at asked
    · cases asked
    · cases asked
      rfl

/-- A listing can be left after any page and taken up again with that page's token: what is
    yielded then is what would have come. -/
theorem intoPages_resumes {builder : ListObjectsBuilder} {requests : List ListObjectsV2Input}
    {before after : List ObjectPage} {page : ObjectPage} {token : String}
    (given : (intoPages server).Gives (some (some builder)) requests
      ((before ++ page :: after).map .ok))
    (named : page.nextContinuationToken = some token) :
    ∃ later, (intoPages server).Gives (some (some (builder.withContinuationToken token))) later
      (after.map .ok) := by
  induction before generalizing builder requests with
  | nil =>
      rcases ItemStream.tryUnfold_cases given with ⟨error, -, items⟩ | ⟨-, items⟩ |
        ⟨first, later, item, next, rest, asked, -, items, going⟩
      · cases items
      · cases items
      · cases items
        have leads := nextPage_eq_ok asked
        rw [named] at leads
        rw [leads] at going
        exact ⟨later, going⟩
  | cons earlier before ih =>
      rcases ItemStream.tryUnfold_cases given with ⟨error, -, items⟩ | ⟨-, items⟩ |
        ⟨first, later, item, next, rest, asked, -, items, going⟩
      · cases items
      · cases items
      · cases items
        have leads := nextPage_eq_ok asked
        cases following : earlier.nextContinuationToken with
        | none =>
            rw [following] at leads
            rw [leads] at going
            have silent : (intoPages server).Gives (some none) [] [] :=
              ItemStream.tryUnfold_done rfl
            obtain ⟨-, nothing⟩ := going.unique silent
            simp at nothing
        | some other =>
            rw [following] at leads
            rw [leads] at going
            exact @ih (builder.withContinuationToken other) later going

end Resume

end ListObjectsBuilder

section Whole

open ListObjectsBuilder

variable {bucket : BucketName} {choices : ListingChoices} {builder : ListObjectsBuilder}

theorem start_of_fresh (fresh : builder.continuationToken = none) :
    choices.start builder.continuationToken = some 0 := by
  rw [fresh]
  rfl

/-- The stream of the objects that a listing shows. -/
theorem intoStream_gives_listed (shelf : Shelf) (choices : ListingChoices)
    (same : builder.bucket = bucket) (checked : builder.check = .ok ())
    (fresh : builder.continuationToken = none) :
    ∃ requests, (intoStream (shelf.serve bucket choices)).Gives ([], some (some builder)) requests
      ((shelf.listed builder.keyPrefix builder.delimiter).map .ok) := by
  obtain ⟨calls, yielded, -⟩ := (pagesThrough same checked).gives_items checked
    (intoStream_followChains builder) (fun page slice shows => shows.1) (start_of_fresh fresh)
  rw [List.drop_zero, shelf.entries_objects] at yielded
  exact ⟨calls, yielded⟩

/-- Listing a bucket shows what stands in it. Whatever sizes the server gives its pages, the
    stream of objects yields every object that has the prefix and is not rolled up, once and in
    the order of the keys; the pages show these objects, each common prefix once, and no more
    than the limit; there is at most one request more than objects in the bucket; and from the
    token of any page on, a new listing yields the pages after it. -/
theorem listing_is_whole (shelf : Shelf) (bucket : BucketName) (choices : ListingChoices)
    (builder : ListObjectsBuilder) (same : builder.bucket = bucket)
    (checked : builder.check = .ok ()) (fresh : builder.continuationToken = none) :
    (∃ requests, (intoStream (shelf.serve bucket choices)).Gives ([], some (some builder)) requests
      ((shelf.listed builder.keyPrefix builder.delimiter).map .ok)) ∧
    ∃ requests pages, (intoPages (shelf.serve bucket choices)).Gives (some (some builder)) requests
        (pages.map .ok) ∧
      pages.flatMap ObjectPage.objects = shelf.listed builder.keyPrefix builder.delimiter ∧
      (pages.flatMap ObjectPage.commonPrefixes).Nodup ∧
      (∀ text, text ∈ pages.flatMap ObjectPage.commonPrefixes ↔
        ∃ object ∈ shelf.objects, hasPrefix builder.keyPrefix object.key = true ∧
          rolledUp builder.keyPrefix builder.delimiter object.key = some text) ∧
      (∀ page ∈ pages, page.objects.length + page.commonPrefixes.length ≤ builder.limit) ∧
      requests.length ≤ shelf.objects.length + 1 ∧
      ∀ before page after token, pages = before ++ page :: after →
        page.nextContinuationToken = some token →
        ∃ later, (intoPages (shelf.serve bucket choices)).Gives
          (some (some (builder.withContinuationToken token))) later (after.map .ok) := by
  obtain ⟨requests, pages, slices, given, shown, flat, short⟩ :=
    (pagesThrough same checked).gives_pages checked (intoPages_followChains builder)
      (start_of_fresh fresh)
  rw [List.drop_zero] at flat
  have objects : pages.flatMap ObjectPage.objects =
      shelf.listed builder.keyPrefix builder.delimiter := by
    rw [PagedOperation.PagesThrough.flatMap_of_shown shown (fun page slice shows => shows.1), flat,
      shelf.entries_objects]
  have prefixes : pages.flatMap ObjectPage.commonPrefixes =
      (shelf.entries builder.keyPrefix builder.delimiter).filterMap ShelfEntry.commonPrefix? := by
    rw [PagedOperation.PagesThrough.flatMap_of_shown shown (fun page slice shows => shows.2.1),
      flat]
  obtain ⟨once, those⟩ := shelf.entries_prefixes
  refine ⟨intoStream_gives_listed shelf choices same checked fresh, requests, pages, given, objects,
    ?_, ?_, ?_, ?_, ?_⟩
  · rw [prefixes]
    exact once
  · rw [prefixes]
    exact those
  · exact bounded_of_shown shown
  · have few := shelf.length_entries builder.keyPrefix builder.delimiter
    omega
  · rintro before page after token rfl named
    exact intoPages_resumes given named

end Whole

/-- The bucket that is listed. -/
def shelfBucket : BucketName := ⟨"shelf", by decide, by decide⟩

/-- Two objects, and two more under a common prefix. -/
def Shelf.small : Shelf where
  objects := [⟨"a", 1, none, none⟩, ⟨"b/1", 1, none, none⟩, ⟨"b/2", 1, none, none⟩,
    ⟨"c", 1, none, none⟩]
  ascending := by decide
  keys := by decide

/-- Pages of one entry, under tokens of growing length. -/
def ListingChoices.single : ListingChoices where
  token start := String.ofList (List.replicate (start + 1) 'x')
  position token := if token.length = 0 then none else some (token.length - 1)
  position_token start := by simp
  token_ne start := by simp
  size input := min 1 input.maxKeys
  size_pos input positive := by omega
  size_le input := by omega

/-- The two under the prefix are rolled up. -/
theorem listing_is_whole_small :
    ∃ requests, (ListObjectsBuilder.intoStream
        (Shelf.small.serve shelfBucket .single)).Gives
      ([], some (some { bucket := shelfBucket, delimiter := some "/" }))
      requests [.ok ⟨"a", 1, none, none⟩, .ok ⟨"c", 1, none, none⟩] := by
  obtain ⟨yields, -⟩ := listing_is_whole .small shelfBucket .single
    { bucket := shelfBucket, delimiter := some "/" } rfl (by decide) rfl
  have shown : Shelf.small.listed none (some "/") =
      [⟨"a", 1, none, none⟩, ⟨"c", 1, none, none⟩] := by
    decide
  rw [shown] at yields
  exact yields

end R2kit
