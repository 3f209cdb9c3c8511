/-
  HwEfat.Aicpu.Notification — `Notification` of `notification.h`, as
  `AsyncCpuKernel::Compute` uses it: one thread calls `Notify`, another one runs
  `WaitForNotification` and then destroys the object.

  The two threads move in any order, one access at a time: taking and giving back
  `mu_`, loading and storing `notified_`, `cv_.wait`, `cv_.notify_all`.  The waiter
  may wake up without a reason.  It may also not wait at all: its first load is
  outside the lock, so it can be on its way to the destructor while the notifier
  still holds the mutex, between the store and the end of `Notify`.

  Main result: `notify_wait_destroy`.  A waiter that sleeps although `notified_` is
  set is about to be woken, and when the object goes, `Notify` has returned.  With
  `finished_or_moves` and `run_length`, every run in which the waiter wakes up
  without a reason only finitely often ends with both threads done.
-/
import HwEfat.Lib.Monitor
import HwEfat.Lib.Run

namespace HwEfat.Aicpu

open HwEfat.Lib (Monitor)

namespace Notification

/-! ## §1. The code. -/

/-- The two threads. -/
inductive Thread where
  | notifier
  | waiter
  deriving Repr, DecidableEq

/-- `Notify`: the access that comes next. -/
inductive NotifyPc where
  | lock
  | load
  | store
  | notifyAll
  | unlock
  | returned
  deriving Repr, DecidableEq

/-- `WaitForNotification` and `~Notification`: the access that comes next. -/
inductive WaitPc where
  /-- `HasBeenNotified()` before the lock -/
  | fastLoad
  | lock
  /-- `HasBeenNotified()` in the loop -/
  | load
  | wait
  /-- in `cv_.wait(l)` -/
  | asleep
  | unlock
  | destroyLock
  | destroyUnlock
  /-- the members go -/
  | destroyMembers
  | destroyed
  deriving Repr, DecidableEq

/-- The object (`mu` is `mu_` together with `cv_`), and where the threads are. -/
structure State where
  mu : Monitor Thread
  notified : Bool
  notifier : NotifyPc
  waiter : WaitPc

/-- The object just made. -/
def start : State where
  mu := .free
  notified := false
  notifier := .lock
  waiter := .fastLoad

/-- The next access of `Notify`. -/
def notifyStep (s : State) : Option State :=
  match s.notifier with
  | .lock => (s.mu.lock .notifier).map fun mu => { s with mu := mu, notifier := .load }
  | .load => some { s with notifier := if s.notified then .unlock else .store }
  | .store => some { s with notified := true, notifier := .notifyAll }
  | .notifyAll => some { s with mu := s.mu.notifyAll, notifier := .unlock }
  | .unlock => (s.mu.unlock .notifier).map fun mu => { s with mu := mu, notifier := .returned }
  | .returned => none

/-- The next access of the waiter. -/
def waitStep (s : State) : Option State :=
  match s.waiter with
  | .fastLoad => some { s with waiter := if s.notified then .destroyLock else .lock }
  | .lock => (s.mu.lock .waiter).map fun mu => { s with mu := mu, waiter := .load }
  | .load => some { s with waiter := if s.notified then .unlock else .wait }
  | .wait => (s.mu.wait .waiter).map fun mu => { s with mu := mu, waiter := .asleep }
  | .asleep =>
      if s.mu.waiting .waiter then none
      else (s.mu.lock .waiter).map fun mu => { s with mu := mu, waiter := .load }
  | .unlock => (s.mu.unlock .waiter).map fun mu => { s with mu := mu, waiter := .destroyLock }
  | .destroyLock => (s.mu.lock .waiter).map fun mu => { s with mu := mu, waiter := .destroyUnlock }
  | .destroyUnlock =>
      (s.mu.unlock .waiter).map fun mu => { s with mu := mu, waiter := .destroyMembers }
  | .destroyMembers => some { s with waiter := .destroyed }
  | .destroyed => none

/-- Who moves. -/
inductive Move where
  | notify
  | wait
  /-- `cv_.wait` returns without a notification. -/
  | spurious
  deriving Repr, DecidableEq

/-- A move of one of the threads, or a wake-up without a reason. -/
def step (s : State) : Move → Option State
  | .notify => notifyStep s
  | .wait => waitStep s
  | .spurious => (s.mu.wake .waiter).map fun mu => { s with mu := mu }

/-! ## §2. The invariant. -/

/-- Between `lock` and `unlock`. -/
def NotifyPc.holds : NotifyPc → Bool
  | .load | .store | .notifyAll | .unlock => true
  | .lock | .returned => false

/-- Behind the store. -/
def NotifyPc.stored : NotifyPc → Bool
  | .notifyAll | .unlock | .returned => true
  | .lock | .load | .store => false

/-- The places at which the waiter holds the mutex. -/
def WaitPc.holds : WaitPc → Bool
  | .load | .wait | .unlock | .destroyUnlock => true
  | _ => false

/-- The waiter has seen `notified_` set. -/
def WaitPc.told : WaitPc → Bool
  | .unlock | .destroyLock | .destroyUnlock | .destroyMembers | .destroyed => true
  | _ => false

/-- The destructor has had the lock. -/
def WaitPc.last : WaitPc → Bool
  | .destroyUnlock | .destroyMembers | .destroyed => true
  | _ => false

/-- Who says that it holds `mu_`. -/
def State.holds (s : State) : Thread → Prop
  | .notifier => s.notifier.holds = true
  | .waiter => s.waiter.holds = true

/-- What holds in every interleaving. -/
structure Inv (s : State) : Prop where
  owner : s.mu.Agrees s.holds
  /-- mutations under mu_, and only one -/
  notified : s.notified = s.notifier.stored
  /-- The waiter goes to sleep only while nothing is stored. -/
  untold : s.waiter = .wait → s.notified = false
  /-- Who sleeps has been put to sleep, and the notification is still to come. -/
  asleep : s.mu.waiting .waiter = true →
    s.waiter = .asleep ∧ (s.notified = true → s.notifier = .notifyAll)
  told : s.waiter.told = true → s.notified = true
  last : s.waiter.last = true → s.notifier = .returned

/-- The start satisfies the invariant. -/
theorem inv_start : Inv start where
  owner t := by cases t <;> simp [start, Monitor.free, State.holds, NotifyPc.holds, WaitPc.holds]
  notified := rfl
  untold _ := rfl
  asleep h := by cases h
  told h := by cases h
  last h := by cases h

/-- Only one of the two is between `lock` and `unlock`. -/
theorem Inv.exclusive {s : State} (h : Inv s) (hn : s.notifier.holds = true) :
    s.waiter.holds = false := by
  by_contra hw
  have hsame : Thread.notifier = Thread.waiter :=
    h.owner.exclusive (show s.holds .notifier from hn)
      (show s.waiter.holds = true by simpa using hw)
  cases hsame

/-- **The accesses of `Notify`** keep the invariant. -/
theorem inv_notify {s s' : State} (h : Inv s) (hstep : notifyStep s = some s') : Inv s' := by
  have hexclusive := h.exclusive
  obtain ⟨howner, hnotified, huntold, hasleep, htold, hlast⟩ := h
  unfold notifyStep at hstep
  cases hpc : s.notifier with
  | lock =>
      rw [hpc] at hstep
      obtain ⟨mu, hlock, rfl⟩ := Option.map_eq_some_iff.mp hstep
      refine ⟨howner.of_lock hlock fun u => ?_, ?_, ?_, ?_, ?_, ?_⟩
      · cases u <;> simp [State.holds, NotifyPc.holds, hpc]
      all_goals
        obtain ⟨-, rfl⟩ := Monitor.lock_eq_some.mp hlock
        simp_all [NotifyPc.stored]
  | load =>
      -- nothing has been stored: this thread is the only one that stores
      have hunset : s.notified = false := by rw [hnotified, hpc]; rfl
      rw [hpc] at hstep
      obtain rfl := Option.some.inj hstep
      refine ⟨howner.of_same rfl fun u => ?_, ?_, ?_, ?_, ?_, ?_⟩
      · cases u <;> simp [State.holds, NotifyPc.holds, hpc, hunset]
      all_goals simp_all [NotifyPc.stored]
  | store =>
      -- the waiter is not about to sleep, as it would hold the lock
      have hfree : s.waiter.holds = false := hexclusive (by rw [hpc]; rfl)
      rw [hpc] at hstep
      obtain rfl := Option.some.inj hstep
      refine ⟨howner.of_same rfl fun u => ?_, rfl, ?_, ?_, ?_, ?_⟩
      · cases u <;> simp [State.holds, NotifyPc.holds, hpc]
      · intro hwait
        have hwait : s.waiter = .wait := hwait
        rw [hwait] at hfree
        cases hfree
      all_goals simp_all
  | notifyAll =>
      rw [hpc] at hstep
      obtain rfl := Option.some.inj hstep
      refine ⟨howner.of_same rfl fun u => ?_, ?_, ?_, ?_, ?_, ?_⟩
      · cases u <;> simp [State.holds, NotifyPc.holds, hpc]
      all_goals simp_all [NotifyPc.stored]
  | unlock =>
      rw [hpc] at hstep
      obtain ⟨mu, hunlock, rfl⟩ := Option.map_eq_some_iff.mp hstep
      obtain ⟨hheld, rfl⟩ := Monitor.unlock_eq_some.mp hunlock
      refine ⟨howner.of_release hheld rfl fun u => ?_, ?_, ?_, ?_, ?_, ?_⟩
      · cases u <;> simp [State.holds, NotifyPc.holds]
      all_goals simp_all [NotifyPc.stored]
  | returned =>
      rw [hpc] at hstep
      cases hstep

section Waiter

variable {s : State} {mu : Monitor Thread} {pc : WaitPc}

/-- Awake, the waiter is not in the queue of `cv_`. -/
theorem Inv.awake (h : Inv s) (hne : s.waiter ≠ .asleep) : s.mu.waiting .waiter = false := by
  by_contra hwaiting
  exact hne (h.asleep (by simpa using hwaiting)).1

/-- The waiter goes on without touching the mutex. -/
theorem Inv.waiter_moves (h : Inv s) (hne : s.waiter ≠ .asleep) (hholds : pc.holds = s.waiter.holds)
    (huntold : pc = .wait → s.notified = false) (htold : pc.told = true → s.notified = true)
    (hlast : pc.last = true → s.waiter.last = true) : Inv { s with waiter := pc } where
  owner := h.owner.of_same rfl fun u => by cases u <;> simp [State.holds, hholds]
  notified := h.notified
  untold := huntold
  asleep hwaiting := by
    rw [h.awake hne] at hwaiting
    cases hwaiting
  told := htold
  last hpc := h.last (hlast hpc)

/-- The waiter takes the lock.  If it has seen `notified_` set by then, the notifier
has stored, and no longer holds the lock. -/
theorem Inv.waiter_locks (h : Inv s) (hlock : s.mu.lock .waiter = some mu)
    (hawake : s.mu.waiting .waiter = false) (hholds : pc.holds = true) (hne : pc ≠ .wait)
    (htold : pc.told = true → s.notified = true) (hlast : pc.last = true → s.notified = true) :
    Inv { s with mu := mu, waiter := pc } := by
  obtain ⟨hnone, hmu⟩ := Monitor.lock_eq_some.mp hlock
  have hunheld : s.notifier.holds = false := by
    by_contra hheld
    have howner : s.mu.owner = some .notifier :=
      (h.owner .notifier).mpr (show s.notifier.holds = true by simpa using hheld)
    rw [hnone] at howner
    cases howner
  refine ⟨h.owner.of_lock hlock fun u => ?_, h.notified, fun hpc => absurd hpc hne, ?_, htold, ?_⟩
  · cases u <;> simp [State.holds, hholds]
  · intro hwaiting
    rw [hmu] at hwaiting
    rw [show s.mu.waiting .waiter = true from hwaiting] at hawake
    cases hawake
  · intro hpc
    have hstored : s.notifier.stored = true := by rw [← h.notified, hlast hpc]
    show s.notifier = .returned
    cases hn : s.notifier <;> simp_all [NotifyPc.holds, NotifyPc.stored]

/-- The waiter gives the lock back, at the end of a block. -/
theorem Inv.waiter_unlocks (h : Inv s) (hunlock : s.mu.unlock .waiter = some mu)
    (hne : s.waiter ≠ .asleep) (hholds : pc.holds = false)
    (htold : pc.told = true → s.waiter.told = true)
    (hlast : pc.last = true → s.waiter.last = true) (hpc : pc ≠ .wait) :
    Inv { s with mu := mu, waiter := pc } := by
  obtain ⟨hheld, hmu⟩ := Monitor.unlock_eq_some.mp hunlock
  refine ⟨h.owner.of_release hheld (by rw [hmu]) fun u => ?_, h.notified,
    fun hwait => absurd hwait hpc, ?_, fun h' => h.told (htold h'), fun h' => h.last (hlast h')⟩
  · cases u <;> simp [State.holds, hholds]
  · intro hwaiting
    rw [hmu] at hwaiting
    have hwaiting : s.mu.waiting .waiter = true := hwaiting
    rw [h.awake hne] at hwaiting
    cases hwaiting

end Waiter

/-- **The accesses of the waiter** keep the invariant. -/
theorem inv_wait {s s' : State} (h : Inv s) (hstep : waitStep s = some s') : Inv s' := by
  unfold waitStep at hstep
  cases hpc : s.waiter with
  | fastLoad =>
      rw [hpc] at hstep
      obtain rfl := Option.some.inj hstep
      refine h.waiter_moves (by simp [hpc]) ?_ ?_ ?_ ?_
      all_goals cases hset : s.notified <;> simp [hpc, WaitPc.holds, WaitPc.told, WaitPc.last]
  | lock =>
      rw [hpc] at hstep
      obtain ⟨mu, hlock, rfl⟩ := Option.map_eq_some_iff.mp hstep
      exact h.waiter_locks hlock (h.awake (by simp [hpc])) rfl nofun nofun nofun
  | load =>
      rw [hpc] at hstep
      obtain rfl := Option.some.inj hstep
      refine h.waiter_moves (by simp [hpc]) ?_ ?_ ?_ ?_
      all_goals cases hset : s.notified <;> simp [hpc, WaitPc.holds, WaitPc.told, WaitPc.last]
  | wait =>
      -- it holds the lock since it saw that nothing is stored
      rw [hpc] at hstep
      obtain ⟨mu, hwait, rfl⟩ := Option.map_eq_some_iff.mp hstep
      obtain ⟨hheld, rfl⟩ := Monitor.wait_eq_some.mp hwait
      have hunset : s.notified = false := h.untold hpc
      refine ⟨h.owner.of_release hheld rfl fun u => ?_, h.notified, nofun, fun _ => ⟨rfl, ?_⟩,
        nofun, nofun⟩
      · cases u <;> simp [State.holds, WaitPc.holds]
      · intro hset
        rw [show s.notified = true from hset] at hunset
        cases hunset
  | asleep =>
      rw [hpc] at hstep
      cases hawake : s.mu.waiting .waiter with
      | true =>
          simp only [hawake, if_true] at hstep
          cases hstep
      | false =>
          simp only [hawake, Bool.false_eq_true, if_false] at hstep
          obtain ⟨mu, hlock, rfl⟩ := Option.map_eq_some_iff.mp hstep
          exact h.waiter_locks hlock hawake rfl nofun nofun nofun
  | unlock =>
      rw [hpc] at hstep
      obtain ⟨mu, hunlock, rfl⟩ := Option.map_eq_some_iff.mp hstep
      exact h.waiter_unlocks hunlock (by simp [hpc]) rfl (fun _ => by rw [hpc]; rfl) nofun nofun
  | destroyLock =>
      rw [hpc] at hstep
      obtain ⟨mu, hlock, rfl⟩ := Option.map_eq_some_iff.mp hstep
      have hset : s.notified = true := h.told (by rw [hpc]; rfl)
      exact h.waiter_locks hlock (h.awake (by simp [hpc])) rfl nofun (fun _ => hset)
        (fun _ => hset)
  | destroyUnlock =>
      rw [hpc] at hstep
      obtain ⟨mu, hunlock, rfl⟩ := Option.map_eq_some_iff.mp hstep
      exact h.waiter_unlocks hunlock (by simp [hpc]) rfl (fun _ => by rw [hpc]; rfl)
        (fun _ => by rw [hpc]; rfl) nofun
  | destroyMembers =>
      rw [hpc] at hstep
      obtain rfl := Option.some.inj hstep
      exact h.waiter_moves (by simp [hpc]) (by rw [hpc]; rfl) nofun
        (fun _ => h.told (by rw [hpc]; rfl)) (fun _ => by rw [hpc]; rfl)
  | destroyed =>
      rw [hpc] at hstep
      cases hstep

/-- A wake-up without a reason keeps the invariant. -/
theorem inv_spurious {s s' : State} (h : Inv s) (hstep : step s .spurious = some s') : Inv s' := by
  obtain ⟨mu, hwake, rfl⟩ := Option.map_eq_some_iff.mp hstep
  obtain ⟨-, rfl⟩ := Monitor.wake_eq_some.mp hwake
  refine ⟨h.owner.of_same rfl fun u => ?_, h.notified, h.untold, fun hwaiting => ?_, h.told, h.last⟩
  · cases u <;> rfl
  · simp at hwaiting

/-- **The invariant holds in every interleaving.** -/
theorem inv_run : ∀ (moves : List Move) (s : State), Lib.run step start moves = some s → Inv s :=
  Lib.run_induct (P := fun _ s => Inv s) inv_start fun _ s m s' _ h hstep => by
    cases m with
    | notify => exact inv_notify h hstep
    | wait => exact inv_wait h hstep
    | spurious => exact inv_spurious h hstep

/-- **`Notification` in every interleaving.**  If the waiter sleeps in `cv_.wait`
although `notified_` is set, then `notify_all` is the next access of the notifier, and
it wakes the waiter; and once the destructor is past its lock -- let alone complete --
the notifier has returned from `Notify`, with no access left. -/
theorem notify_wait_destroy (moves : List Move) (s : State)
    (hrun : Lib.run step start moves = some s) :
    (s.mu.waiting .waiter = true → s.notified = true →
      s.notifier = .notifyAll ∧
        ∃ s', step s .notify = some s' ∧ s'.mu.waiting .waiter = false) ∧
    ((s.waiter = .destroyMembers ∨ s.waiter = .destroyed) →
      s.notifier = .returned ∧ step s .notify = none) := by
  have h := inv_run moves s hrun
  constructor
  · intro hwaiting hset
    have hnext : s.notifier = .notifyAll := (h.asleep hwaiting).2 hset
    refine ⟨hnext, { s with mu := s.mu.notifyAll, notifier := .unlock }, ?_, rfl⟩
    show notifyStep s = _
    unfold notifyStep
    rw [hnext]
  · intro hgone
    have hreturned : s.notifier = .returned := by
      apply h.last
      rcases hgone with hw | hw
      · rw [hw]
        rfl
      · rw [hw]
        rfl
    refine ⟨hreturned, ?_⟩
    show notifyStep s = none
    unfold notifyStep
    rw [hreturned]

/-- The waiter sleeps until it is notified; then the object goes. -/
def sleptMoves : List Move :=
  [.wait, .wait, .wait, .wait] ++ List.replicate 5 .notify ++ List.replicate 6 .wait

/-- `notify_wait_destroy` of that run. -/
theorem notify_wait_destroy_slept : ∃ s, Lib.run step start sleptMoves = some s ∧
    s.waiter = .destroyed ∧
    (s.mu.waiting .waiter = true → s.notified = true →
      s.notifier = .notifyAll ∧
        ∃ s', step s .notify = some s' ∧ s'.mu.waiting .waiter = false) ∧
    ((s.waiter = .destroyMembers ∨ s.waiter = .destroyed) →
      s.notifier = .returned ∧ step s .notify = none) := by
  have hlast : (Lib.run step start sleptMoves).map State.waiter = some .destroyed := by decide
  obtain ⟨s, hs, hw⟩ := Option.map_eq_some_iff.mp hlast
  exact ⟨s, hs, hw, notify_wait_destroy sleptMoves s hs⟩

/-! ## §3. Both threads come to their end. -/

/-- **No deadlock**: as long as the two are not done, one of them can move. -/
theorem finished_or_moves {s : State} (h : Inv s) :
    (s.notifier = .returned ∧ s.waiter = .destroyed) ∨
      (∃ s', step s .notify = some s') ∨ ∃ s', step s .wait = some s' := by
  show _ ∨ (∃ s', notifyStep s = some s') ∨ ∃ s', waitStep s = some s'
  unfold notifyStep waitStep
  cases howner : s.mu.owner with
  | some t =>
      cases t with
      | notifier =>
          have hheld : s.notifier.holds = true := (h.owner .notifier).mp howner
          cases hn : s.notifier <;> simp_all [NotifyPc.holds, Monitor.unlock]
      | waiter =>
          have hheld : s.waiter.holds = true := (h.owner .waiter).mp howner
          cases hw : s.waiter <;> simp_all [WaitPc.holds, Monitor.unlock, Monitor.wait]
  | none =>
      -- the mutex is free, so a thread that wants it can have it
      have hfree : s.notifier.holds = false := by
        by_contra hheld
        have hheld : s.holds .notifier := (by simpa using hheld : s.notifier.holds = true)
        rw [(h.owner .notifier).mpr hheld] at howner
        cases howner
      have hwfree : s.waiter.holds = false := by
        by_contra hheld
        have hheld : s.holds .waiter := (by simpa using hheld : s.waiter.holds = true)
        rw [(h.owner .waiter).mpr hheld] at howner
        cases howner
      -- once `Notify` has returned, nobody sleeps
      have hawake : s.notifier = .returned → s.mu.waiting .waiter = false := by
        intro hn
        by_contra hwaiting
        have hset : s.notified = true := by rw [h.notified, hn]; rfl
        rw [(h.asleep (by simpa using hwaiting)).2 hset] at hn
        cases hn
      cases hn : s.notifier <;> simp_all [NotifyPc.holds, Monitor.lock]
      cases hw : s.waiter <;> simp_all [WaitPc.holds]

/-- Accesses the notifier has left; `notify_all` counts for those of the thread it
wakes as well. -/
def NotifyPc.left : NotifyPc → Nat
  | .lock => 8
  | .load => 7
  | .store => 6
  | .notifyAll => 5
  | .unlock => 1
  | .returned => 0

/-- Accesses the waiter has left, if it sleeps once and is then told. -/
def WaitPc.left : WaitPc → Nat
  | .fastLoad => 9
  | .lock => 8
  | .load => 7
  | .wait => 6
  | .asleep => 5
  | .unlock => 4
  | .destroyLock => 3
  | .destroyUnlock => 2
  | .destroyMembers => 1
  | .destroyed => 0

/-- A waiter that has been woken takes another round. -/
def State.left (s : State) : Nat :=
  s.notifier.left + s.waiter.left +
    if s.waiter = .asleep ∧ s.mu.waiting .waiter = false then 3 else 0

/-- Every step of the notifier brings the end nearer. -/
theorem left_notify {s s' : State} (hstep : notifyStep s = some s') : s'.left + 1 ≤ s.left := by
  unfold notifyStep at hstep
  unfold State.left
  cases hn : s.notifier with
  | lock =>
      rw [hn] at hstep
      obtain ⟨mu, hlock, rfl⟩ := Option.map_eq_some_iff.mp hstep
      obtain ⟨-, rfl⟩ := Monitor.lock_eq_some.mp hlock
      simp only [NotifyPc.left]
      omega
  | load =>
      rw [hn] at hstep
      obtain rfl := Option.some.inj hstep
      cases s.notified <;>
        simp only [Bool.false_eq_true, if_false, if_true, NotifyPc.left] <;> omega
  | store =>
      rw [hn] at hstep
      obtain rfl := Option.some.inj hstep
      simp only [NotifyPc.left]
      omega
  | notifyAll =>
      -- the waiter may have to go round again
      rw [hn] at hstep
      obtain rfl := Option.some.inj hstep
      simp only [NotifyPc.left, Monitor.notifyAll_waiting]
      split_ifs <;> omega
  | unlock =>
      rw [hn] at hstep
      obtain ⟨mu, hunlock, rfl⟩ := Option.map_eq_some_iff.mp hstep
      obtain ⟨-, rfl⟩ := Monitor.unlock_eq_some.mp hunlock
      simp only [NotifyPc.left]
      omega
  | returned =>
      rw [hn] at hstep
      cases hstep

/-- Every step of the waiter does. -/
theorem left_wait {s s' : State} (hstep : waitStep s = some s') : s'.left + 1 ≤ s.left := by
  unfold waitStep at hstep
  unfold State.left
  cases hw : s.waiter with
  | fastLoad =>
      rw [hw] at hstep
      obtain rfl := Option.some.inj hstep
      cases s.notified <;> simp [WaitPc.left]
  | load =>
      rw [hw] at hstep
      obtain rfl := Option.some.inj hstep
      cases s.notified <;> simp [WaitPc.left]
  | wait =>
      rw [hw] at hstep
      obtain ⟨mu, hwait, rfl⟩ := Option.map_eq_some_iff.mp hstep
      obtain ⟨-, rfl⟩ := Monitor.wait_eq_some.mp hwait
      simp [WaitPc.left]
  | asleep =>
      rw [hw] at hstep
      -- Asleep, it moves only once it is woken, and then it looks at the flag again.
      cases hawake : s.mu.waiting .waiter with
      | true =>
          simp only [hawake, if_true] at hstep
          cases hstep
      | false =>
          simp only [hawake, Bool.false_eq_true, if_false] at hstep
          obtain ⟨mu, hlock, rfl⟩ := Option.map_eq_some_iff.mp hstep
          simp [WaitPc.left]
  | lock =>
      rw [hw] at hstep
      obtain ⟨mu, -, rfl⟩ := Option.map_eq_some_iff.mp hstep
      simp [WaitPc.left]
  | unlock =>
      rw [hw] at hstep
      obtain ⟨mu, -, rfl⟩ := Option.map_eq_some_iff.mp hstep
      simp [WaitPc.left]
  | destroyLock =>
      rw [hw] at hstep
      obtain ⟨mu, -, rfl⟩ := Option.map_eq_some_iff.mp hstep
      simp [WaitPc.left]
  | destroyUnlock =>
      rw [hw] at hstep
      obtain ⟨mu, -, rfl⟩ := Option.map_eq_some_iff.mp hstep
      simp [WaitPc.left]
  | destroyMembers =>
      rw [hw] at hstep
      obtain rfl := Option.some.inj hstep
      simp [WaitPc.left]
  | destroyed =>
      rw [hw] at hstep
      cases hstep

/-- A wake-up without a reason sets it back by three steps at most. -/
theorem left_spurious {s s' : State} (hstep : step s .spurious = some s') :
    s'.left ≤ s.left + 3 := by
  obtain ⟨mu, hwake, rfl⟩ := Option.map_eq_some_iff.mp hstep
  unfold State.left
  dsimp only
  split_ifs <;> omega

/-- **No livelock**: a run has at most 17 accesses, and four more for every wake-up
without a reason. -/
theorem run_length : ∀ (moves : List Move) (s : State), Lib.run step start moves = some s →
    moves.length + s.left ≤ 17 + 4 * moves.count .spurious :=
  Lib.run_induct (P := fun (moves : List Move) (s : State) =>
      moves.length + s.left ≤ 17 + 4 * moves.count .spurious)
    (by decide) fun moves s m s' _ h hstep => by
      rw [List.length_append, List.count_append, List.count_singleton]
      cases m with
      | notify =>
          have hleft := left_notify hstep
          simp
          omega
      | wait =>
          have hleft := left_wait hstep
          simp
          omega
      | spurious =>
          have hleft := left_spurious hstep
          simp
          omega

end Notification

end HwEfat.Aicpu
