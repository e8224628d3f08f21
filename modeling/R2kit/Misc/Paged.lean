import Mathlib.Data.Fintype.Card
import Mathlib.Data.Set.Finite.Basic
import R2kit.Misc.ItemStream

/-!
# Paged listings

Pages are asked for one after the other: a page names the cursor of the next one, or none. A
listing is left when the next cursor is the one that was just asked for. Following distinct
cursors gives their pages in order. On finitely many cursors the stream of pages ends exactly
when they do not lead into a cycle of two or more, and then asks for none of them twice.
-/

namespace R2kit.Misc

open Relation

section Acyclic

variable {α : Type} {r : α → α → Prop} {a : α}

theorem not_cycle_of_acc (acc : Acc (fun b a => r a b) a) : ¬ TransGen r a a := by
  induction acc with
  | intro a _ ih =>
      intro cycle
      obtain ⟨b, step, back⟩ := TransGen.head'_iff.mp cycle
      exact ih b step (TransGen.tail' back step)

theorem acc_of_reflTransGen {b : α} (acc : Acc (fun b a => r a b) a) (path : ReflTransGen r a b) :
    Acc (fun b a => r a b) b := by
  induction path with
  | refl => exact acc
  | tail _ step ih => exact ih.inv step

/-- From finitely many places there is a way on for ever exactly if it leads into a cycle. -/
theorem acc_iff_acyclic (finite : {b | ReflTransGen r a b}.Finite) :
    Acc (fun b a => r a b) a ↔ ∀ b, ReflTransGen r a b → ¬ TransGen r b b := by
  constructor
  · intro acc b path
    exact not_cycle_of_acc (acc_of_reflTransGen acc path)
  · intro acyclic
    have : Finite {b | ReflTransGen r a b} := finite
    let before : {b | ReflTransGen r a b} → {b | ReflTransGen r a b} → Prop :=
      fun b c => TransGen r c.1 b.1
    have trans : IsTrans _ before := ⟨fun _ _ _ first second => second.trans first⟩
    have irrefl : Std.Irrefl before := ⟨fun b cycle => acyclic b.1 b.2 cycle⟩
    have wf : WellFounded before := Finite.wellFounded_of_trans_of_irrefl before
    have reached : ∀ b : {b | ReflTransGen r a b}, Acc (fun b a => r a b) b.1 := by
      intro b
      induction b using wf.induction with
      | h b ih =>
          refine Acc.intro _ ?_
          intro c step
          exact ih ⟨c, b.2.tail step⟩ (TransGen.single step)
    exact reached ⟨a, ReflTransGen.refl⟩

end Acyclic

variable {Cursor Call Page Error : Type}

/-- How the page of a cursor is asked for, and what is returned when a page names its own
    cursor as the next. -/
structure Pager (Cursor Call Page Error : Type) where
  ask : Cursor → List Call × Except Error (Page × Option Cursor)
  stuck : Error

namespace Pager

section Stream

variable [DecidableEq Cursor] (pager : Pager Cursor Call Page Error)

/-- What is asked for next, and what is left to ask for. -/
def advance : Option Cursor → List Call × Except Error (Option (Page × Option Cursor))
  | none => ([], .ok none)
  | some cursor =>
      match pager.ask cursor with
      | (calls, .error error) => (calls, .error error)
      | (calls, .ok (page, next)) =>
          if next = some cursor then (calls, .error pager.stuck)
          else (calls, .ok (some (page, next)))

/-- The stream of all pages from a cursor on. -/
def pages : ItemStream (Option (Option Cursor)) Call (Except Error Page) :=
  .tryUnfold pager.advance

end Stream

variable {pager : Pager Cursor Call Page Error}

/-- The page of a cursor is there and names the next cursor. -/
def Names (pager : Pager Cursor Call Page Error) (cursor : Cursor) (page : Page)
    (next : Option Cursor) : Prop :=
  (pager.ask cursor).2 = .ok (page, next)

/-- The stream goes on from a cursor to another one. -/
def GoesOn (pager : Pager Cursor Call Page Error) (cursor next : Cursor) : Prop :=
  next ≠ cursor ∧ ∃ page, pager.Names cursor page (some next)

/-- Following the cursors that the pages name. -/
inductive Walk (pager : Pager Cursor Call Page Error) :
    Cursor → List (Cursor × Page) → Cursor → Prop
  | here {cursor} : Walk pager cursor [] cursor
  | step {cursor page next visited last} (named : pager.Names cursor page (some next))
      (rest : Walk pager next visited last) :
      Walk pager cursor ((cursor, page) :: visited) last

variable [DecidableEq Cursor]

section Gives

variable {cursor : Cursor}

theorem gives_none : pager.pages.Gives (some none) [] [] :=
  ItemStream.tryUnfold_done rfl

theorem gives_error {error : Error} (failed : (pager.ask cursor).2 = .error error) :
    pager.pages.Gives (some (some cursor)) (pager.ask cursor).1 [.error error] := by
  refine ItemStream.tryUnfold_error ?_
  rw [advance]
  rcases asked : pager.ask cursor with ⟨calls, result⟩
  rw [asked] at failed
  cases failed
  rfl

theorem gives_stuck {page : Page} (named : pager.Names cursor page (some cursor)) :
    pager.pages.Gives (some (some cursor)) (pager.ask cursor).1 [.error pager.stuck] := by
  refine ItemStream.tryUnfold_error ?_
  rw [Names] at named
  rw [advance]
  rcases asked : pager.ask cursor with ⟨calls, result⟩
  rw [asked] at named
  cases named
  exact if_pos rfl

theorem advance_item {page : Page} {next : Option Cursor}
    (named : pager.Names cursor page next) (other : next ≠ some cursor) :
    pager.advance (some cursor) = ((pager.ask cursor).1, .ok (some (page, next))) := by
  rw [Names] at named
  rw [advance]
  rcases asked : pager.ask cursor with ⟨calls, result⟩
  rw [asked] at named
  cases named
  exact if_neg other

theorem gives_last {page : Page} (named : pager.Names cursor page none) :
    pager.pages.Gives (some (some cursor)) (pager.ask cursor).1 [.ok page] := by
  have given := ItemStream.tryUnfold_item (advance_item named (by simp)) gives_none
  rwa [List.append_nil] at given

theorem gives_more {page : Page} {next : Cursor} {calls : List Call}
    {items : List (Except Error Page)} (named : pager.Names cursor page (some next))
    (other : next ≠ cursor) (rest : pager.pages.Gives (some (some next)) calls items) :
    pager.pages.Gives (some (some cursor)) ((pager.ask cursor).1 ++ calls) (.ok page :: items) :=
  ItemStream.tryUnfold_item (advance_item named (by simpa using other)) rest

/-- The ways the stream can go from a cursor: it stops there or goes on. -/
theorem gives_cases {calls : List Call} {items : List (Except Error Page)}
    (given : pager.pages.Gives (some (some cursor)) calls items) :
    (calls = (pager.ask cursor).1 ∧ (∀ next, ¬ pager.GoesOn cursor next) ∧
      ((∃ error, items = [.error error]) ∨ ∃ page, items = [.ok page])) ∨
      ∃ page next later rest, pager.Names cursor page (some next) ∧ next ≠ cursor ∧
        calls = (pager.ask cursor).1 ++ later ∧ items = .ok page :: rest ∧
        pager.pages.Gives (some (some next)) later rest := by
  rcases result : (pager.ask cursor).2 with error | ⟨page, next⟩
  · obtain ⟨rfl, rfl⟩ := given.unique (gives_error result)
    refine Or.inl ⟨rfl, ?_, Or.inl ⟨error, rfl⟩⟩
    rintro next ⟨-, page, named⟩
    rw [Names, result] at named
    cases named
  · rcases next with none | next
    · obtain ⟨rfl, rfl⟩ := given.unique (gives_last result)
      refine Or.inl ⟨rfl, ?_, Or.inr ⟨page, rfl⟩⟩
      rintro next ⟨-, other, named⟩
      rw [Names, result] at named
      cases named
    · by_cases same : next = cursor
      · subst same
        obtain ⟨rfl, rfl⟩ := given.unique (gives_stuck result)
        refine Or.inl ⟨rfl, ?_, Or.inl ⟨pager.stuck, rfl⟩⟩
        rintro other ⟨different, page, named⟩
        rw [Names, result] at named
        cases named
        exact different rfl
      · have stepped := advance_item result (by simpa using same)
        rcases ItemStream.tryUnfold_cases given with ⟨error, failed, -⟩ | ⟨ended, -⟩ |
          ⟨first, later, item, after, rest, taken, rfl, rfl, gives⟩
        · rw [stepped] at failed
          cases failed
        · rw [stepped] at ended
          cases ended
        · rw [stepped] at taken
          cases taken
          exact Or.inr ⟨page, next, later, rest, result, same, rfl, rfl, gives⟩

/-- The induction rule for streams of pages that end. -/
theorem gives_induction {P : Cursor → List Call → List (Except Error Page) → Prop}
    (stops : ∀ cursor items, (∀ next, ¬ pager.GoesOn cursor next) →
      ((∃ error, items = [.error error]) ∨ ∃ page, items = [.ok page]) →
      P cursor (pager.ask cursor).1 items)
    (goes : ∀ cursor page next later rest, pager.Names cursor page (some next) →
      next ≠ cursor → pager.pages.Gives (some (some next)) later rest → P next later rest →
      P cursor ((pager.ask cursor).1 ++ later) (.ok page :: rest))
    {calls : List Call} {items : List (Except Error Page)}
    (given : pager.pages.Gives (some (some cursor)) calls items) : P cursor calls items := by
  generalize length : items.length = count
  induction count generalizing cursor calls items with
  | zero =>
      rcases gives_cases given with ⟨-, -, ⟨error, rfl⟩ | ⟨page, rfl⟩⟩ |
        ⟨page, next, later, rest, -, -, -, rfl, -⟩
      all_goals cases length
  | succ count ih =>
      rcases gives_cases given with ⟨rfl, stopped, short⟩ |
        ⟨page, next, later, rest, named, other, rfl, rfl, gives⟩
      · exact stops cursor items stopped short
      · exact goes cursor page next later rest named other gives (ih gives (Nat.succ.inj length))

end Gives

section Chain

variable {cursor last : Cursor} {visited : List (Cursor × Page)}

/-- The calls for some cursors, in order. -/
def callsOf (pager : Pager Cursor Call Page Error) (cursors : List Cursor) : List Call :=
  cursors.flatMap (fun cursor => (pager.ask cursor).1)

/-- Distinct cursors are followed to the last of them, and their pages yielded on the way. -/
theorem Walk.gives {calls : List Call} {items : List (Except Error Page)}
    (walk : pager.Walk cursor visited last)
    (distinct : (visited.map Prod.fst ++ [last]).Nodup)
    (rest : pager.pages.Gives (some (some last)) calls items) :
    pager.pages.Gives (some (some cursor)) (pager.callsOf (visited.map Prod.fst) ++ calls)
      (visited.map (fun visit => .ok visit.2) ++ items) := by
  induction walk with
  | here => exact rest
  | step named later ih =>
      rename_i cursor page next visited last
      rw [List.map_cons, List.cons_append, List.nodup_cons] at distinct
      have other : next ≠ cursor := by
        rintro rfl
        refine distinct.1 ?_
        cases later with
        | here => simp
        | step _ _ => simp
      have given := gives_more named other (ih distinct.2 rest)
      rw [← List.append_assoc] at given
      exact given

end Chain

section Ends

variable {cursor : Cursor}

/-- A stream that ends has followed a path that ends. -/
theorem acc_of_gives {calls : List Call} {items : List (Except Error Page)}
    (given : pager.pages.Gives (some (some cursor)) calls items) :
    Acc (fun next cursor => pager.GoesOn cursor next) cursor := by
  refine gives_induction (P := fun cursor _ _ =>
    Acc (fun next cursor => pager.GoesOn cursor next) cursor) ?_ ?_ given
  · intro cursor items stopped _
    refine Acc.intro _ ?_
    intro next goes
    exact absurd goes (stopped next)
  · intro cursor page next later rest named _ _ ih
    refine Acc.intro _ ?_
    rintro other ⟨-, page', named'⟩
    rw [Names] at named named'
    rw [named] at named'
    cases named'
    exact ih

/-- A path that ends is followed to its end. -/
theorem ends_of_acc (acc : Acc (fun next cursor => pager.GoesOn cursor next) cursor) :
    pager.pages.Ends (some (some cursor)) := by
  induction acc with
  | intro cursor _ ih =>
      rcases result : (pager.ask cursor).2 with error | ⟨page, next⟩
      · exact ⟨_, _, gives_error result⟩
      · rcases next with none | next
        · exact ⟨_, _, gives_last result⟩
        · by_cases same : next = cursor
          · subst same
            exact ⟨_, _, gives_stuck result⟩
          · obtain ⟨calls, items, gives⟩ := ih next ⟨same, page, result⟩
            exact ⟨_, _, gives_more result same gives⟩

/-- A stream ends exactly if the path it follows does. -/
theorem ends_iff_acc :
    pager.pages.Ends (some (some cursor)) ↔
      Acc (fun next cursor => pager.GoesOn cursor next) cursor := by
  constructor
  · intro ends
    obtain ⟨calls, items, given⟩ := ends
    exact acc_of_gives given
  · exact ends_of_acc

/-- The calls are those for different cursors, each reached from the first. -/
def AsksOnce (pager : Pager Cursor Call Page Error) (cursor : Cursor) (calls : List Call) : Prop :=
  ∃ asked : List Cursor, calls = pager.callsOf asked ∧ asked.Nodup ∧
    ∀ other ∈ asked, ReflTransGen pager.GoesOn cursor other

/-- A stream that ends asks for no cursor twice. -/
theorem asksOnce_of_gives {calls : List Call} {items : List (Except Error Page)}
    (given : pager.pages.Gives (some (some cursor)) calls items) :
    pager.AsksOnce cursor calls := by
  refine gives_induction (P := fun cursor calls _ => pager.AsksOnce cursor calls) ?_ ?_ given
  · intro cursor items _ _
    refine ⟨[cursor], by simp [callsOf], by simp, ?_⟩
    intro other member
    rw [List.mem_singleton] at member
    rw [member]
  · intro cursor page next later rest named different gives ih
    obtain ⟨asked, rfl, distinct, reached⟩ := ih
    have goes : pager.GoesOn cursor next := ⟨different, page, named⟩
    have acc := acc_of_gives (gives_more named different gives)
    refine ⟨cursor :: asked, rfl, List.nodup_cons.mpr ⟨?_, distinct⟩, ?_⟩
    · intro again
      exact not_cycle_of_acc acc (TransGen.head' goes (reached cursor again))
    · intro other member
      rcases List.mem_cons.mp member with rfl | later
      · exact ReflTransGen.refl
      · exact ReflTransGen.head goes (reached other later)

/-- Pages, and an error only at the end. -/
def EndsOnce (items : List (Except Error Page)) : Prop :=
  ∃ pages : List Page, items = pages.map .ok ∨ ∃ error, items = pages.map .ok ++ [.error error]

theorem endsOnce_of_gives {calls : List Call} {items : List (Except Error Page)}
    (given : pager.pages.Gives (some (some cursor)) calls items) : EndsOnce items := by
  refine gives_induction (P := fun _ _ items => EndsOnce items) ?_ ?_ given
  · intro cursor items _ short
    rcases short with ⟨error, rfl⟩ | ⟨page, rfl⟩
    · exact ⟨[], Or.inr ⟨error, rfl⟩⟩
    · exact ⟨[page], Or.inl rfl⟩
  · intro cursor page next later rest _ _ _ ih
    obtain ⟨pages, rfl | ⟨error, rfl⟩⟩ := ih
    · exact ⟨page :: pages, Or.inl rfl⟩
    · exact ⟨page :: pages, Or.inr ⟨error, rfl⟩⟩

end Ends

end Pager

end R2kit.Misc
