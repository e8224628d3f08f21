import R2kit.Types
import R2kit.Misc.Paged

/-!
# Paged listings of the crate

What `ListObjectsBuilder` and `ListMultipartUploadsBuilder` have in common: a builder is checked
and makes a request, the answer is read as a page, and the page may name the cursor of the next
request, which is otherwise the same. A server is a function of the request; on distinct cursors
no request is made twice.
-/

namespace R2kit

open Misc Relation

section Checks

/-- `is_some_and(String::is_empty)`. -/
def rejectEmpty (field : String) (value : Option String) : Except Error Unit :=
  if value = some "" then .error (.invalidInput field "must not be empty") else .ok ()

/-- The checks that the listings share. -/
def checkListing (max limit : Nat) (keyPrefix delimiter : Option String) : Except Error Unit := do
  if limit = 0 ∨ max < limit then
    throw (.validation (.listLimitOutOfRange limit 1 max))
  keyPrefix.forM validatePrefix
  rejectEmpty "delimiter" delimiter
  if delimiter.any (fun delimiter => maxKeyBytes < delimiter.utf8ByteSize) then
    throw (.invalidInput "delimiter" "must not exceed 1,024 UTF-8 bytes")

theorem rejectEmpty_some {field value : String} (filled : value ≠ "") :
    rejectEmpty field (some value) = .ok () := by
  rw [rejectEmpty, if_neg (by simpa using filled)]

end Checks

section Answers

/-- `DateTime` of the SDK, by what `SystemTime::try_from` makes of it. -/
structure DateTime where
  systemTime : Option SystemTime
  deriving DecidableEq, Repr

/-- `ok_or(Error::Service { operation })`. -/
def okOrService {α : Type} (operation : String) (value : Option α) : Except Error α :=
  match value with
  | some value => .ok value
  | none => .error (.service operation)

/-- A size that must be there and must not be negative. -/
def nonNegativeSize (value : Option Int) (operation : String) : Except Error Nat :=
  okOrService operation
    (value.bind (fun size => if 0 ≤ size then some size.toNat else none))

/-- A time that may be absent but must be representable. -/
def optionalSystemTime (value : Option DateTime) (operation : String) :
    Except Error (Option SystemTime) :=
  match value with
  | none => .ok none
  | some time => (okOrService operation time.systemTime).map some

end Answers

/-- A listing operation. The cursor is the one part of a builder that changes from page to
    page, and a cursor that a page names passes the checks. -/
structure PagedOperation (Builder Cursor Input Output Page : Type) where
  operation : String
  check : Builder → Except Error Unit
  request : Builder → Input
  readPage : Output → Except Error Page
  next : Page → Option Cursor
  cursor : Builder → Cursor
  withCursor : Builder → Cursor → Builder
  requested : Input → Cursor
  withCursor_cursor : ∀ builder, withCursor builder (cursor builder) = builder
  cursor_withCursor : ∀ builder value, cursor (withCursor builder value) = value
  withCursor_withCursor : ∀ builder first second,
    withCursor (withCursor builder first) second = withCursor builder second
  requested_request : ∀ builder, requested (request builder) = cursor builder
  check_withCursor : ∀ builder output page value, check builder = .ok () →
    readPage output = .ok page → next page = some value → check (withCursor builder value) = .ok ()

namespace PagedOperation

variable {Builder Cursor Input Output Page : Type}
  (op : PagedOperation Builder Cursor Input Output Page)
  (server : Input → Except SdkError Output)

/-- `send`: the request it makes, if its checks pass, and what it returns. -/
def send (builder : Builder) : List Input × Except Error Page :=
  match op.check builder with
  | .error error => ([], .error error)
  | .ok () =>
      ([op.request builder],
        match server (op.request builder) with
        | .error error => .error (Error.remoteError op.operation error)
        | .ok output => op.readPage output)

/-- The builders as cursors of a paged listing. -/
def pager : Pager Builder Input Page Error where
  ask builder := ((op.send server builder).1,
    (op.send server builder).2.map (fun page => (page, (op.next page).map (op.withCursor builder))))
  stuck := .service op.operation

/-- The closure of `into_pages`. -/
def nextPage [DecidableEq Cursor] :
    Option Builder → List Input × Except Error (Option (Page × Option Builder))
  | none => ([], .ok none)
  | some builder =>
      match op.send server builder with
      | (requests, .error error) => (requests, .error error)
      | (requests, .ok page) =>
          if op.next page = some (op.cursor builder) then
            (requests, .error (.service op.operation))
          else (requests, .ok (some (page, (op.next page).map (op.withCursor builder))))

/-- The builder's request with this cursor. -/
def requestAt (builder : Builder) (cursor : Cursor) : Input :=
  op.request (op.withCursor builder cursor)

/-- The server answers the request with this cursor, and the answer is read as this page. -/
def Answers (builder : Builder) (cursor : Cursor) (page : Page) : Prop :=
  ∃ output, server (op.requestAt builder cursor) = .ok output ∧ op.readPage output = .ok page

/-- The request with this cursor fails, or its answer is malformed. -/
def Fails (builder : Builder) (cursor : Cursor) (error : Error) : Prop :=
  (∃ failure, server (op.requestAt builder cursor) = .error failure ∧
    error = Error.remoteError op.operation failure) ∨
  ∃ output, server (op.requestAt builder cursor) = .ok output ∧ op.readPage output = .error error

/-- The server pages from a cursor to another one: the cursors with their pages on the way. -/
inductive Chain (builder : Builder) : Cursor → List (Cursor × Page) → Cursor → Prop
  | here {cursor} : Chain builder cursor [] cursor
  | next {cursor page following visited last} (answered : op.Answers server builder cursor page)
      (named : op.next page = some following) (rest : Chain builder following visited last) :
      Chain builder cursor ((cursor, page) :: visited) last

/-- A stream of what the pages list follows the server's chains of distinct cursors. A chain
    that ends in a page without a next cursor is yielded whole; one that ends in a failure is
    yielded up to it; a builder that fails its checks sends nothing. -/
structure FollowsChains {State Item : Type} (builder : Builder)
    (stream : ItemStream State Input (Except Error Item)) (start : State)
    (list : Page → List Item) : Prop where
  whole : ∀ visited last page, op.check builder = .ok () →
    op.Chain server builder (op.cursor builder) visited last →
    (visited.map Prod.fst ++ [last]).Nodup → op.Answers server builder last page →
    op.next page = none →
    stream.Gives start ((visited.map Prod.fst ++ [last]).map (op.requestAt builder))
      (((visited.map Prod.snd ++ [page]).flatMap list).map .ok)
  failing : ∀ visited last error, op.check builder = .ok () →
    op.Chain server builder (op.cursor builder) visited last →
    (visited.map Prod.fst ++ [last]).Nodup → op.Fails server builder last error →
    stream.Gives start ((visited.map Prod.fst ++ [last]).map (op.requestAt builder))
      (((visited.map Prod.snd).flatMap list).map .ok ++ [.error error])
  invalid : ∀ error, op.check builder = .error error → stream.Gives start [] [.error error]

/-- The server answers a cursor with a page that names another one. -/
def GoesOn (builder : Builder) (cursor following : Cursor) : Prop :=
  following ≠ cursor ∧
    ∃ page, op.Answers server builder cursor page ∧ op.next page = some following

/-- From the cursor of the builder, the server leads into a cycle of two or more cursors. -/
def LeadsIntoCycle (builder : Builder) : Prop :=
  ∃ cursor, ReflTransGen (op.GoesOn server builder) (op.cursor builder) cursor ∧
    TransGen (op.GoesOn server builder) cursor cursor

section Send

variable {op server} {builder : Builder}

theorem send_of_check (checked : op.check builder = .ok ()) :
    op.send server builder = ([op.request builder],
      match server (op.request builder) with
      | .error error => .error (Error.remoteError op.operation error)
      | .ok output => op.readPage output) := by
  rw [send, checked]

theorem calls_of_check (checked : op.check builder = .ok ()) :
    ((op.pager server).ask builder).1 = [op.request builder] := by
  change (op.send server builder).1 = _
  rw [send_of_check checked]

theorem names_of_answers {cursor : Cursor} {page : Page}
    (checked : op.check (op.withCursor builder cursor) = .ok ())
    (answered : op.Answers server builder cursor page) :
    (op.pager server).Names (op.withCursor builder cursor) page
      ((op.next page).map (op.withCursor builder)) := by
  obtain ⟨output, answer, read⟩ := answered
  have again : op.withCursor (op.withCursor builder cursor) = op.withCursor builder :=
    funext (op.withCursor_withCursor builder cursor)
  change (op.send server (op.withCursor builder cursor)).2.map _ = _
  rw [requestAt] at answer
  rw [send_of_check checked]
  simp only [answer, read, Except.map, again]

/-- Only an answer that is read as a page gives one. -/
theorem answers_of_names {cursor : Cursor} {page : Page} {next : Option Builder}
    (checked : op.check (op.withCursor builder cursor) = .ok ())
    (named : (op.pager server).Names (op.withCursor builder cursor) page next) :
    op.Answers server builder cursor page ∧
      next = (op.next page).map (op.withCursor builder) := by
  change (op.send server (op.withCursor builder cursor)).2.map _ = _ at named
  rw [send_of_check checked] at named
  obtain ⟨found, received, same⟩ := map_eq_ok_iff.mp named
  cases answer : server (op.request (op.withCursor builder cursor)) with
  | error failure =>
      rw [answer] at received
      cases received
  | ok output =>
      rw [answer] at received
      cases same
      have again : op.withCursor (op.withCursor builder cursor) = op.withCursor builder :=
        funext (op.withCursor_withCursor builder cursor)
      rw [again]
      exact ⟨⟨output, answer, received⟩, rfl⟩

theorem error_of_fails {cursor : Cursor} {error : Error}
    (checked : op.check (op.withCursor builder cursor) = .ok ())
    (fails : op.Fails server builder cursor error) :
    ((op.pager server).ask (op.withCursor builder cursor)).2 = .error error := by
  change (op.send server (op.withCursor builder cursor)).2.map _ = _
  rw [send_of_check checked]
  rcases fails with ⟨failure, answer, rfl⟩ | ⟨output, answer, malformed⟩
  · rw [requestAt] at answer
    simp only [answer, Except.map]
  · rw [requestAt] at answer
    simp only [answer, malformed, Except.map]

end Send

section NextPage

variable {op server} {builder : Builder}

/-- A builder has a cursor already exactly if the next builder is the same. -/
theorem map_withCursor_eq_iff {page : Page} :
    (op.next page).map (op.withCursor builder) = some builder ↔
      op.next page = some (op.cursor builder) := by
  constructor
  · intro same
    obtain ⟨following, named, again⟩ := Option.map_eq_some_iff.mp same
    rw [named, ← op.cursor_withCursor builder following, again]
  · intro named
    rw [named, Option.map_some, op.withCursor_cursor]

theorem advance_eq [DecidableEq Builder] [DecidableEq Cursor] :
    (op.pager server).advance = op.nextPage server := by
  funext state
  rcases state with none | builder
  · rfl
  · simp only [Pager.advance, nextPage, pager]
    rcases op.send server builder with ⟨requests, error | page⟩
    · rfl
    · simp only [Except.map, map_withCursor_eq_iff]

end NextPage

section Chain

variable {op server} {builder : Builder} {cursor last : Cursor} {visited : List (Cursor × Page)}

theorem check_of_answers {page : Page} {following : Cursor}
    (checked : op.check builder = .ok ()) (answered : op.Answers server builder cursor page)
    (named : op.next page = some following) :
    op.check (op.withCursor builder following) = .ok () := by
  obtain ⟨output, -, read⟩ := answered
  exact op.check_withCursor builder output page following checked read named

theorem check_start (checked : op.check builder = .ok ()) :
    op.check (op.withCursor builder (op.cursor builder)) = .ok () := by
  rw [op.withCursor_cursor, checked]

theorem withCursor_injective : Function.Injective (op.withCursor builder) := by
  intro first second same
  have cursors := congrArg op.cursor same
  rwa [op.cursor_withCursor, op.cursor_withCursor] at cursors

/-- The builders of a chain, with their pages. -/
def visits (op : PagedOperation Builder Cursor Input Output Page) (builder : Builder)
    (visited : List (Cursor × Page)) : List (Builder × Page) :=
  visited.map (Prod.map (op.withCursor builder) id)

theorem visits_fst :
    (op.visits builder visited).map Prod.fst =
      (visited.map Prod.fst).map (op.withCursor builder) := by
  rw [visits, List.map_map, List.map_map]
  rfl

theorem visits_snd :
    (op.visits builder visited).map (fun visit => (.ok visit.2 : Except Error Page)) =
      (visited.map Prod.snd).map .ok := by
  rw [visits, List.map_map, List.map_map]
  rfl

/-- A chain of cursors is a walk over builders that pass their checks, one request each. -/
theorem Chain.walk (chain : op.Chain server builder cursor visited last)
    (checked : op.check builder = .ok ())
    (here : op.check (op.withCursor builder cursor) = .ok ()) :
    (op.pager server).Walk (op.withCursor builder cursor) (op.visits builder visited)
        (op.withCursor builder last) ∧
      (op.pager server).callsOf ((op.visits builder visited).map Prod.fst) =
        (visited.map Prod.fst).map (op.requestAt builder) ∧
      op.check (op.withCursor builder last) = .ok () := by
  induction chain with
  | here => exact ⟨.here, rfl, here⟩
  | next answered named rest ih =>
      rename_i cursor page following visited last
      obtain ⟨walk, calls, checkedLast⟩ := ih (check_of_answers checked answered named)
      have names := names_of_answers here answered
      rw [named, Option.map_some] at names
      refine ⟨.step names walk, ?_, checkedLast⟩
      change ((op.pager server).ask (op.withCursor builder cursor)).1 ++
        (op.pager server).callsOf ((op.visits builder visited).map Prod.fst) = _
      rw [calls_of_check here, calls]
      rfl

theorem visits_nodup (distinct : (visited.map Prod.fst ++ [last]).Nodup) :
    ((op.visits builder visited).map Prod.fst ++ [op.withCursor builder last]).Nodup := by
  have injective : Function.Injective (op.withCursor builder) := withCursor_injective
  have mapped := distinct.map injective
  rwa [List.map_append, ← visits_fst] at mapped

variable [DecidableEq Builder]

/-- A stream that goes on from the last cursor of a chain gives the chain's pages before. -/
theorem Chain.gives {items : List (Except Error Page)}
    (chain : op.Chain server builder (op.cursor builder) visited last)
    (checked : op.check builder = .ok ())
    (distinct : (visited.map Prod.fst ++ [last]).Nodup)
    (rest : op.check (op.withCursor builder last) = .ok () →
      (op.pager server).pages.Gives (some (some (op.withCursor builder last)))
        ((op.pager server).ask (op.withCursor builder last)).1 items) :
    (op.pager server).pages.Gives (some (some builder))
      ((visited.map Prod.fst ++ [last]).map (op.requestAt builder))
      ((visited.map Prod.snd).map .ok ++ items) := by
  obtain ⟨walk, calls, checkedLast⟩ := chain.walk checked (check_start checked)
  have given := walk.gives (visits_nodup distinct) (rest checkedLast)
  rw [op.withCursor_cursor, calls, calls_of_check checkedLast, visits_snd] at given
  rw [List.map_append]
  exact given

/-- The pages of a chain are followed and yielded. -/
theorem pages_followChains :
    op.FollowsChains server builder (op.pager server).pages (some (some builder))
      (fun page => [page]) where
  whole visited last page checked chain distinct answered ended := by
    rw [List.flatMap_singleton', List.map_append (f := (Except.ok : Page → Except Error Page))]
    refine chain.gives checked distinct ?_
    intro checkedLast
    have names := names_of_answers checkedLast answered
    rw [ended, Option.map_none] at names
    exact Pager.gives_last names
  failing visited last error checked chain distinct fails := by
    rw [List.flatMap_singleton']
    refine chain.gives checked distinct ?_
    intro checkedLast
    exact Pager.gives_error (error_of_fails checkedLast fails)
  invalid error refused := by
    have failed : op.send server builder = ([], .error error) := by rw [send, refused]
    have given : (op.pager server).pages.Gives (some (some builder))
        ((op.pager server).ask builder).1 [.error error] := by
      refine Pager.gives_error ?_
      change (op.send server builder).2.map _ = _
      rw [failed]
      rfl
    have silent : ((op.pager server).ask builder).1 = [] := by
      change (op.send server builder).1 = _
      rw [failed]
    rwa [silent] at given

end Chain

section Flat

/-- What is left of a page, or of a failure, when a stream of pages is flattened. -/
def eachOf {Item : Type} (list : Page → List Item) : Except Error Page → List (Except Error Item)
  | .ok page => (list page).map .ok
  | .error error => [.error error]

theorem flatMap_eachOf {Item : Type} {list : Page → List Item} (pages : List Page) :
    (pages.map .ok).flatMap (eachOf list) = (pages.flatMap list).map .ok := by
  rw [List.flatMap_map, List.map_flatMap]
  rfl

variable {op server} {builder : Builder}

/-- Flattening the pages yields what they list. -/
theorem FollowsChains.flatMap {State Item : Type} {list : Page → List Item}
    {stream : ItemStream State Input (Except Error Page)} {start : State}
    (follows : op.FollowsChains server builder stream start (fun page => [page])) :
    op.FollowsChains server builder (stream.flatMap (eachOf list)) ([], start) list where
  whole visited last page checked chain distinct answered ended := by
    have given : (stream.flatMap (eachOf list)).Gives ([], start) _ _ :=
      (follows.whole visited last page checked chain distinct answered ended).flatMap
    rwa [List.flatMap_singleton', flatMap_eachOf] at given
  failing visited last error checked chain distinct fails := by
    have given : (stream.flatMap (eachOf list)).Gives ([], start) _ _ :=
      (follows.failing visited last error checked chain distinct fails).flatMap
    rwa [List.flatMap_singleton', List.flatMap_append, flatMap_eachOf] at given
  invalid error refused := (follows.invalid error refused).flatMap

end Flat

section Ends

variable {op server} {builder : Builder}

/-- The stream goes on from the request with a cursor as the server does. -/
theorem goesOn_iff {cursor : Cursor} {next : Builder}
    (checked : op.check (op.withCursor builder cursor) = .ok ()) :
    (op.pager server).GoesOn (op.withCursor builder cursor) next ↔
      ∃ following, next = op.withCursor builder following ∧
        op.GoesOn server builder cursor following := by
  constructor
  · rintro ⟨different, page, names⟩
    obtain ⟨answered, same⟩ := answers_of_names checked names
    obtain ⟨following, named, rfl⟩ := Option.map_eq_some_iff.mp same.symm
    refine ⟨following, rfl, ?_, page, answered, named⟩
    rintro rfl
    exact different rfl
  · rintro ⟨following, rfl, different, page, answered, named⟩
    have names := names_of_answers checked answered
    rw [named, Option.map_some] at names
    refine ⟨?_, page, names⟩
    intro same
    exact different (withCursor_injective same)

theorem check_of_goesOn {cursor following : Cursor} (checked : op.check builder = .ok ())
    (goes : op.GoesOn server builder cursor following) :
    op.check (op.withCursor builder following) = .ok () := by
  obtain ⟨-, page, answered, named⟩ := goes
  exact check_of_answers checked answered named

/-- The stream's path over builders ends exactly if the server's over cursors does. -/
theorem acc_iff {cursor : Cursor} (checked : op.check builder = .ok ())
    (here : op.check (op.withCursor builder cursor) = .ok ()) :
    Acc (fun next builder => (op.pager server).GoesOn builder next)
        (op.withCursor builder cursor) ↔
      Acc (fun following cursor => op.GoesOn server builder cursor following) cursor := by
  constructor
  · intro acc
    generalize at_cursor : op.withCursor builder cursor = reached at acc
    induction acc generalizing cursor with
    | intro reached _ ih =>
        subst at_cursor
        refine Acc.intro _ ?_
        intro following goes
        have steps := (goesOn_iff here).mpr ⟨following, rfl, goes⟩
        exact ih _ steps (check_of_goesOn checked goes) rfl
  · intro acc
    induction acc with
    | intro cursor _ ih =>
        refine Acc.intro _ ?_
        intro next steps
        obtain ⟨following, rfl, goes⟩ := (goesOn_iff here).mp steps
        exact ih following goes (check_of_goesOn checked goes)

/-- The cursors a path reaches are the first one and cursors that the server names. -/
theorem reachable_finite {cursors : Set Cursor} (finite : cursors.Finite)
    (within : ∀ cursor following, op.GoesOn server builder cursor following →
      following ∈ cursors) :
    {cursor | ReflTransGen (op.GoesOn server builder) (op.cursor builder) cursor}.Finite := by
  refine (finite.insert (op.cursor builder)).subset ?_
  intro cursor reached
  rcases ReflTransGen.cases_tail reached with same | ⟨before, -, goes⟩
  · exact Or.inl same
  · exact Or.inr (within before cursor goes)

/-- A reached builder is the first one with another cursor. -/
theorem reached_eq {reached : Builder}
    (path : ReflTransGen (op.pager server).GoesOn builder reached) :
    reached = op.withCursor builder (op.cursor reached) := by
  induction path with
  | refl => exact (op.withCursor_cursor builder).symm
  | tail _ goes ih =>
      obtain ⟨-, page, named⟩ := goes
      change (op.send server _).2.map _ = _ at named
      obtain ⟨found, -, same⟩ := map_eq_ok_iff.mp named
      rw [Prod.mk.injEq] at same
      obtain ⟨following, -, rfl⟩ := Option.map_eq_some_iff.mp same.2
      rw [op.cursor_withCursor, ih, op.withCursor_withCursor]

theorem requested_ask (reached : Builder) :
    (((op.pager server).ask reached).1.map op.requested).Sublist [op.cursor reached] := by
  change ((op.send server reached).1.map op.requested).Sublist _
  cases checked : op.check reached with
  | error error =>
      rw [send, checked]
      exact List.nil_sublist _
  | ok passed =>
      rw [send_of_check checked, List.map_singleton, op.requested_request]

theorem requested_callsOf (asked : List Builder) :
    (((op.pager server).callsOf asked).map op.requested).Sublist (asked.map op.cursor) := by
  induction asked with
  | nil => exact List.Sublist.refl _
  | cons reached rest ih =>
      change ((((op.pager server).ask reached).1 ++
        (op.pager server).callsOf rest).map op.requested).Sublist _
      rw [List.map_append]
      exact (requested_ask reached).append ih

variable [DecidableEq Builder]

/-- On a server with finitely many cursors, the stream of pages ends exactly if they do not
    lead into a cycle. -/
theorem ends_iff {cursors : Set Cursor} (finite : cursors.Finite)
    (within : ∀ cursor following, op.GoesOn server builder cursor following →
      following ∈ cursors) :
    (op.pager server).pages.Ends (some (some builder)) ↔
      (op.check builder = .ok () → ¬ op.LeadsIntoCycle server builder) := by
  rcases checked : op.check builder with error | passed
  · have given : (op.pager server).pages.Gives (some (some builder)) [] [.error error] :=
      pages_followChains.invalid error checked
    exact iff_of_true ⟨[], _, given⟩ (fun impossible => by cases impossible)
  · have here := check_start checked
    have path : Acc (fun next builder => (op.pager server).GoesOn builder next) _ ↔ _ :=
      acc_iff checked here
    rw [op.withCursor_cursor] at path
    rw [Pager.ends_iff_acc, path, acc_iff_acyclic (reachable_finite finite within)]
    simp only [LeadsIntoCycle, not_exists, not_and, forall_const]

/-- A stream that ends requests no cursor twice. -/
theorem requested_nodup {requests : List Input} {items : List (Except Error Page)}
    (given : (op.pager server).pages.Gives (some (some builder)) requests items) :
    (requests.map op.requested).Nodup := by
  obtain ⟨asked, rfl, distinct, reached⟩ := Pager.asksOnce_of_gives given
  refine (requested_callsOf asked).nodup ?_
  refine distinct.map_on ?_
  intro first inFirst second inSecond same
  rw [reached_eq (reached first inFirst), reached_eq (reached second inSecond), same]

end Ends

end PagedOperation

end R2kit
