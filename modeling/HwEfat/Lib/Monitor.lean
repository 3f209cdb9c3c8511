/-
  HwEfat.Lib.Monitor — a mutex with one condition variable.

  `τ` are the threads.  An operation is `none` where it blocks, or where the thread
  breaks the rules (it gives back a lock it does not hold).  `wait` gives the lock
  back and puts the thread to sleep in one step; a thread that is awake again still
  has to take the lock itself.

  A program says for each of its threads whether it holds the lock at the point
  where it is (`holds`).  `Agrees` is the invariant that this is true of the mutex;
  it follows every operation, and it gives mutual exclusion (`Agrees.exclusive`).
-/
import Mathlib.Logic.Function.Basic

namespace HwEfat.Lib

/-- The owner of the mutex, and who sleeps on the condition variable. -/
structure Monitor (τ : Type) where
  owner : Option τ
  waiting : τ → Bool

namespace Monitor

variable {τ : Type}

/-- Nobody holds the mutex, nobody sleeps. -/
def free : Monitor τ := ⟨none, fun _ => false⟩

/-- The mutex, if it is free. -/
def lock (m : Monitor τ) (t : τ) : Option (Monitor τ) :=
  if m.owner = none then some { m with owner := some t } else none

/-- The mutex is free again. -/
def unlock [DecidableEq τ] (m : Monitor τ) (t : τ) : Option (Monitor τ) :=
  if m.owner = some t then some { m with owner := none } else none

/-- Waiting gives the mutex back. -/
def wait [DecidableEq τ] (m : Monitor τ) (t : τ) : Option (Monitor τ) :=
  if m.owner = some t then some ⟨none, Function.update m.waiting t true⟩ else none

/-- Nobody waits any more. -/
def notifyAll (m : Monitor τ) : Monitor τ := { m with waiting := fun _ => false }

/-- A sleeper wakes up without having been notified. -/
def wake [DecidableEq τ] (m : Monitor τ) (t : τ) : Option (Monitor τ) :=
  if m.waiting t then some { m with waiting := Function.update m.waiting t false } else none

/-- When a lock is taken. -/
@[simp] theorem lock_eq_some {m m' : Monitor τ} {t : τ} :
    m.lock t = some m' ↔ m.owner = none ∧ m' = { m with owner := some t } := by
  unfold lock
  by_cases h : m.owner = none <;> simp [h, eq_comm]

/-- Only the owner gives it back. -/
@[simp] theorem unlock_eq_some [DecidableEq τ] {m m' : Monitor τ} {t : τ} :
    m.unlock t = some m' ↔ m.owner = some t ∧ m' = { m with owner := none } := by
  unfold unlock
  by_cases h : m.owner = some t <;> simp [h, eq_comm]

/-- Only the owner starts to wait. -/
@[simp] theorem wait_eq_some [DecidableEq τ] {m m' : Monitor τ} {t : τ} :
    m.wait t = some m' ↔
      m.owner = some t ∧ m' = ⟨none, Function.update m.waiting t true⟩ := by
  unfold wait
  by_cases h : m.owner = some t <;> simp [h, eq_comm]

/-- Only who waits is woken. -/
@[simp] theorem wake_eq_some [DecidableEq τ] {m m' : Monitor τ} {t : τ} :
    m.wake t = some m' ↔
      m.waiting t = true ∧ m' = { m with waiting := Function.update m.waiting t false } := by
  unfold wake
  by_cases h : m.waiting t = true <;> simp [h, eq_comm]

@[simp] theorem notifyAll_owner (m : Monitor τ) : m.notifyAll.owner = m.owner := rfl

@[simp] theorem notifyAll_waiting (m : Monitor τ) (t : τ) : m.notifyAll.waiting t = false := rfl

/-! ## Who holds the lock. -/

/-- The owner is the thread that says it holds the lock. -/
def Agrees (m : Monitor τ) (holds : τ → Prop) : Prop := ∀ t, m.owner = some t ↔ holds t

section Agrees

variable {m m' : Monitor τ} {t : τ} {holds holds' : τ → Prop}

/-- **Mutual exclusion.** -/
theorem Agrees.exclusive (h : m.Agrees holds) {u : τ} (ht : holds t) (hu : holds u) : t = u :=
  Option.some.inj (((h t).mpr ht).symm.trans ((h u).mpr hu))

/-- The owner of the mutex is who holds it. -/
theorem Agrees.of_lock (h : m.Agrees holds) (hlock : m.lock t = some m')
    (hholds : ∀ u, holds' u ↔ u = t ∨ holds u) : m'.Agrees holds' := by
  intro u
  obtain ⟨hnone, rfl⟩ := lock_eq_some.mp hlock
  rw [hholds u, ← h u, hnone]
  simp [eq_comm]

/-- The lock is given back, by `unlock` or by `wait`. -/
theorem Agrees.of_release (h : m.Agrees holds) (hm : m.owner = some t) (hm' : m'.owner = none)
    (hholds : ∀ u, holds' u ↔ u ≠ t ∧ holds u) : m'.Agrees holds' := by
  intro u
  rw [hholds u, hm', ← h u, hm]
  simp [eq_comm]

/-- Nothing happens to the mutex. -/
theorem Agrees.of_same (h : m.Agrees holds) (hm : m'.owner = m.owner)
    (hholds : ∀ u, holds' u ↔ holds u) : m'.Agrees holds' := by
  intro u
  rw [hm, h u, hholds u]

end Agrees

end Monitor

end HwEfat.Lib
