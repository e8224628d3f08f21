import R2kit.Listing

/-!
# Servers that page through a list

A server that has a list of entries and answers a cursor with the next few of them. Whatever
it puts on a page and however it names its cursors, they lead through the whole rest of the
list, and never back.
-/

namespace R2kit

open Misc

namespace PagedOperation

variable {Builder Cursor Input Output Page Entry : Type}

/-- The server has these entries for the builder. A cursor that stands for a position is
    answered with a page of the next `count` entries; if there are more, it names a cursor that
    stands for the position after them. -/
structure PagesThrough (op : PagedOperation Builder Cursor Input Output Page)
    (server : Input → Except SdkError Output) (builder : Builder)
    (shows : Page → List Entry → Prop) (entries : List Entry) where
  position : Cursor → Option Nat
  turn : ∀ cursor start, position cursor = some start → ∃ page count,
    op.Answers server builder cursor page ∧ shows page ((entries.drop start).take count) ∧
      (op.next page = none → entries.length ≤ start + count) ∧
      ∀ following, op.next page = some following → 0 < count ∧
        start + count ≤ entries.length ∧ position following = some (start + count)

namespace PagesThrough

variable {op : PagedOperation Builder Cursor Input Output Page}
  {server : Input → Except SdkError Output} {builder : Builder}
  {shows : Page → List Entry → Prop} {entries : List Entry}

/-- From a cursor that stands for a position, the pages show the entries from there on, and
    the cursors on the way are all different. -/
theorem chain (through : op.PagesThrough server builder shows entries) {cursor : Cursor}
    {start : Nat} (stands : through.position cursor = some start) :
    ∃ visited last page slices, op.Chain server builder cursor visited last ∧
      op.Answers server builder last page ∧ op.next page = none ∧
      List.Forall₂ shows (visited.map Prod.snd ++ [page]) slices ∧
      slices.flatten = entries.drop start ∧
      (∀ other ∈ visited.map Prod.fst ++ [last], ∃ place,
        through.position other = some place ∧ start ≤ place) ∧
      (visited.map Prod.fst ++ [last]).Nodup ∧
      visited.length ≤ entries.length - start := by
  induction left : entries.length - start using Nat.strong_induction_on
    generalizing cursor start with
  | _ left ih =>
      obtain ⟨page, count, answered, shown, finished, more⟩ := through.turn cursor start stands
      cases next : op.next page with
      | none =>
          refine ⟨[], cursor, page, [(entries.drop start).take count], .here, answered, next,
            .cons shown .nil, ?_, ?_, List.nodup_singleton cursor, Nat.zero_le _⟩
          · have all := finished next
            rw [List.flatten_singleton, List.take_of_length_le]
            rw [List.length_drop]
            omega
          · intro other member
            rw [List.mem_singleton.mp member]
            exact ⟨start, stands, Nat.le_refl start⟩
      | some following =>
          obtain ⟨some_shown, inside, stands'⟩ := more following next
          obtain ⟨visited, last, final, slices, rest, answered', ended, all_shown, flat, places,
            distinct, short⟩ := ih _ (by omega) stands' rfl
          refine ⟨(cursor, page) :: visited, last, final, (entries.drop start).take count :: slices,
            .next answered next rest, answered', ended, .cons shown all_shown, ?_, ?_, ?_, ?_⟩
          · rw [List.flatten_cons, flat, ← List.drop_drop, List.take_append_drop]
          · intro other member
            rw [List.map_cons, List.cons_append, List.mem_cons] at member
            rcases member with rfl | later
            · exact ⟨start, stands, Nat.le_refl start⟩
            · obtain ⟨place, at_place, beyond⟩ := places other later
              exact ⟨place, at_place, by omega⟩
          · rw [List.map_cons, List.cons_append, List.nodup_cons]
            refine ⟨?_, distinct⟩
            intro again
            obtain ⟨place, at_place, beyond⟩ := places cursor again
            rw [stands] at at_place
            cases at_place
            omega
          · rw [List.length_cons]
            omega

theorem flatMap_of_shown {Item : Type} {list : Page → List Item} {part : Entry → Option Item}
    {pages : List Page} {slices : List (List Entry)} (shown : List.Forall₂ shows pages slices)
    (listed : ∀ page slice, shows page slice → list page = slice.filterMap part) :
    pages.flatMap list = slices.flatten.filterMap part := by
  induction shown with
  | nil => rfl
  | cons here _ ih =>
      rw [List.flatMap_cons, List.flatten_cons, List.filterMap_append, listed _ _ here, ih]

variable {start : Nat} {State : Type} {initial : State}

/-- A stream of pages yields pages that show all of the rest of the list. -/
theorem gives_pages {stream : ItemStream State Input (Except Error Page)}
    (through : op.PagesThrough server builder shows entries)
    (checked : op.check builder = .ok ())
    (follows : op.FollowsChains server builder stream initial (fun page => [page]))
    (stands : through.position (op.cursor builder) = some start) :
    ∃ requests pages slices, stream.Gives initial requests (pages.map .ok) ∧
      List.Forall₂ shows pages slices ∧ slices.flatten = entries.drop start ∧
      requests.length ≤ entries.length - start + 1 := by
  obtain ⟨visited, last, page, slices, chain, answered, ended, shown, flat, -, distinct, short⟩ :=
    through.chain stands
  have given := follows.whole visited last page checked chain distinct answered ended
  rw [List.flatMap_singleton'] at given
  refine ⟨_, _, slices, given, shown, flat, ?_⟩
  rw [List.length_map, List.length_append, List.length_map, List.length_singleton]
  omega

/-- A stream of items yields what the rest of the list has of them, in order and once each. -/
theorem gives_items {Item : Type} {stream : ItemStream State Input (Except Error Item)}
    {list : Page → List Item} {part : Entry → Option Item}
    (through : op.PagesThrough server builder shows entries)
    (checked : op.check builder = .ok ())
    (follows : op.FollowsChains server builder stream initial list)
    (listed : ∀ page slice, shows page slice → list page = slice.filterMap part)
    (stands : through.position (op.cursor builder) = some start) :
    ∃ requests, stream.Gives initial requests (((entries.drop start).filterMap part).map .ok) ∧
      requests.length ≤ entries.length - start + 1 := by
  obtain ⟨visited, last, page, slices, chain, answered, ended, shown, flat, -, distinct, short⟩ :=
    through.chain stands
  have given := follows.whole visited last page checked chain distinct answered ended
  rw [flatMap_of_shown shown listed, flat] at given
  refine ⟨_, given, ?_⟩
  rw [List.length_map, List.length_append, List.length_map, List.length_singleton]
  omega

end PagesThrough

end PagedOperation

end R2kit
