/-!
# A watch channel and those who wait on it

A watch channel keeps its newest value alone, with a version that every sent value raises. A
receiver has seen one version; waiting for a change ends when the channel has another. A
waiter looks at the value and waits for a change by turns, until the value will do.
-/

namespace R2kit.Misc

variable {α : Type}

/-- A watch channel: its value, and how often it was sent. -/
structure Watch (α : Type) where
  value : α
  version : Nat

namespace Watch

/-- `send_replace`: receivers see a new version even if the value is the old one. -/
def sendReplace (watch : Watch α) (value : α) : Watch α where
  value := value
  version := watch.version + 1

@[simp] theorem sendReplace_value (watch : Watch α) (value : α) :
    (watch.sendReplace value).value = value := rfl

@[simp] theorem sendReplace_version (watch : Watch α) (value : α) :
    (watch.sendReplace value).version = watch.version + 1 := rfl

end Watch

/-- Where a waiter is: not subscribed yet, about to look, waiting for a change, or done. -/
inductive Waiter where
  | starting
  | looking (seen : Nat)
  | waiting (seen : Nat)
  | returned
  deriving DecidableEq

namespace Waiter

variable (done : α → Bool)

/-- The waiter going on: it subscribes, it looks, or a change ends its wait. -/
def step (watch : Watch α) : Waiter → Option Waiter
  | starting => some (looking watch.version)
  | looking _ => some (if done watch.value then returned else waiting watch.version)
  | waiting seen => if watch.version = seen then none else some (looking watch.version)
  | returned => none

/-- A waiter that waits for a change of this very version has found that it will not do, and no
    waiter has seen a version that was not sent. -/
def Sound (watch : Watch α) : Waiter → Prop
  | waiting seen => seen ≤ watch.version ∧ (seen = watch.version → done watch.value = false)
  | looking seen => seen ≤ watch.version
  | _ => True

/-- The looks and wakes that a waiter still needs once the value will do. -/
def distance : Waiter → Nat
  | starting => 2
  | waiting _ => 2
  | looking _ => 1
  | returned => 0

variable {done} {watch : Watch α} {waiter next : Waiter}

/-- Sending wakes the waiters, whatever is sent. -/
theorem Sound.sendReplace (sound : waiter.Sound done watch) (value : α) :
    waiter.Sound done (watch.sendReplace value) := by
  cases waiter with
  | starting => trivial
  | looking seen => exact Nat.le_succ_of_le sound
  | waiting seen =>
      refine ⟨Nat.le_succ_of_le sound.1, fun same => ?_⟩
      have seen_le := sound.1
      rw [Watch.sendReplace_version] at same
      omega
  | returned => trivial

theorem Sound.step (moved : waiter.step done watch = some next) : next.Sound done watch := by
  cases waiter with
  | starting =>
      cases moved
      exact Nat.le_refl _
  | looking seen =>
      simp only [Waiter.step, Option.some.injEq] at moved
      split at moved
      · subst moved
        trivial
      · rename_i not_done
        subst moved
        exact ⟨Nat.le_refl _, fun _ => by simpa using not_done⟩
  | waiting seen =>
      simp only [Waiter.step] at moved
      split at moved
      · cases moved
      · cases moved
        exact Nat.le_refl _
  | returned => cases moved

/-- No wakeup is lost: while the value will do, no waiter is stuck. -/
theorem Sound.goes_on (sound : waiter.Sound done watch) (will_do : done watch.value = true) :
    waiter = returned ∨ ∃ next, waiter.step done watch = some next := by
  cases waiter with
  | starting => exact Or.inr ⟨_, rfl⟩
  | looking seen => exact Or.inr ⟨_, rfl⟩
  | waiting seen =>
      refine Or.inr ⟨looking watch.version, if_neg (fun same => ?_)⟩
      rw [sound.2 same.symm] at will_do
      cases will_do
  | returned => exact Or.inl rfl

/-- While the value will do, every step of a waiter brings it nearer. -/
theorem distance_step (will_do : done watch.value = true)
    (moved : waiter.step done watch = some next) : next.distance + 1 = waiter.distance := by
  cases waiter with
  | starting =>
      cases moved
      rfl
  | looking seen =>
      simp only [Waiter.step, will_do, if_true] at moved
      cases moved
      rfl
  | waiting seen =>
      simp only [Waiter.step] at moved
      split at moved
      · cases moved
      · cases moved
        rfl
  | returned => cases moved

/-- A waiter returns only on a value that will do. -/
theorem returned_step (moved : waiter.step done watch = some returned) :
    done watch.value = true := by
  cases waiter with
  | starting => cases moved
  | looking seen =>
      simp only [Waiter.step, Option.some.injEq] at moved
      split at moved
      · assumption
      · cases moved
  | waiting seen =>
      simp only [Waiter.step] at moved
      split at moved
      · cases moved
      · cases moved
  | returned => cases moved

theorem eq_returned_of_distance (none_left : waiter.distance = 0) : waiter = returned := by
  cases waiter with
  | returned => rfl
  | starting => cases none_left
  | looking seen => cases none_left
  | waiting seen => cases none_left

end Waiter

end R2kit.Misc
