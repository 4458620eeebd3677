import Mathlib.Order.Lattice
import Mathlib.Order.Nat

/-!
Machines that record failures until they lock, and the counter with a limit, whose count
starts over once its lock has expired.
-/

namespace Lockouts

variable {State Model : Type*}

/-- From `now` on, and at times that never go back, it takes `count` failures to lock: what
is recorded of each is the state it leaves, and whether it locked. -/
inductive LocksAfter (record : State → Nat → State × Bool) : State → Nat → Nat → Prop
  | last {state now time} : now ≤ time → (record state time).2 = true →
      LocksAfter record state now 1
  | more {state now time count} : now ≤ time → (record state time).2 = false →
      LocksAfter record (record state time).1 time count →
      LocksAfter record state now (count + 1)

theorem LocksAfter.view_iff {record : State → Nat → State × Bool}
    {recordView : Model → Nat → Model × Bool} {view : State → Model}
    (commutes : ∀ state now,
      recordView (view state) now = (view (record state now).1, (record state now).2))
    {state : State} {now count : Nat} :
    LocksAfter record state now count ↔ LocksAfter recordView (view state) now count := by
  constructor
  · intro locks
    induction locks with
    | @last state now time later locked =>
      apply LocksAfter.last later
      rw [commutes]
      exact locked
    | @more state now time count later isOpen rest ih =>
      have viewIsOpen : (recordView (view state) time).2 = false := by
        rw [commutes]
        exact isOpen
      apply LocksAfter.more later viewIsOpen
      rw [commutes]
      exact ih
  · generalize viewed : view state = model
    intro locks
    induction locks generalizing state with
    | last later locked =>
      subst viewed
      rw [commutes] at locked
      exact LocksAfter.last later locked
    | more later isOpen rest ih =>
      subst viewed
      rw [commutes] at isOpen ih
      exact LocksAfter.more later isOpen (ih rfl)

structure Counter where
  failures : Nat
  lockedUntil : Option Nat

namespace Counter

def locked (counter : Counter) (now : Nat) : Bool :=
  counter.lockedUntil.any fun lockedUntil => decide (now < lockedUntil)

def expired (counter : Counter) (now : Nat) : Bool :=
  counter.lockedUntil.any fun lockedUntil => decide (lockedUntil ≤ now)

/-- The failures that still count at `now`. -/
def counted (counter : Counter) (now : Nat) : Nat :=
  if counter.expired now then 0 else counter.failures

def fail (limit duration : Nat) (counter : Counter) (now : Nat) : Counter × Bool :=
  if limit ≤ counter.counted now + 1 then
    (⟨counter.counted now + 1, some (now + duration)⟩, true)
  else
    (⟨counter.counted now + 1, if counter.expired now then none else counter.lockedUntil⟩, false)

def left (limit : Nat) (counter : Counter) (now : Nat) : Nat := max 1 (limit - counter.counted now)

variable {limit duration : Nat} {counter : Counter} {now time : Nat}

@[simp] theorem counted_unlocked (failures : Nat) : counted ⟨failures, none⟩ now = failures := rfl

theorem open_cases (isOpen : counter.locked now = false) :
    counter.lockedUntil = none ∨ counter.expired now = true := by
  cases isUntil : counter.lockedUntil with
  | none => exact Or.inl rfl
  | some lockedUntil =>
    right
    simp only [locked, isUntil, Option.any_some, decide_eq_false_iff_not] at isOpen
    simp only [expired, isUntil, Option.any_some, decide_eq_true_eq]
    omega

theorem counted_later (isOpen : counter.locked now = false) (later : now ≤ time) :
    counter.counted time = counter.counted now := by
  cases isUntil : counter.lockedUntil with
  | none => simp [counted, expired, isUntil]
  | some lockedUntil =>
    simp only [locked, isUntil, Option.any_some, decide_eq_false_iff_not] at isOpen
    have expiredNow : lockedUntil ≤ now := by omega
    have expiredThen : lockedUntil ≤ time := by omega
    simp [counted, expired, isUntil, expiredNow, expiredThen]

theorem locked_later (isOpen : counter.locked now = false) (later : now ≤ time) :
    counter.locked time = false := by
  cases isUntil : counter.lockedUntil with
  | none => simp [locked, isUntil]
  | some lockedUntil =>
    simp only [locked, isUntil, Option.any_some, decide_eq_false_iff_not] at isOpen ⊢
    omega

theorem fail_locks_iff : (counter.fail limit duration now).2 = true ↔
    limit ≤ counter.counted now + 1 := by
  simp only [fail]
  split <;> simp_all

theorem fail_open (isOpen : counter.locked now = false)
    (below : counter.counted now + 1 < limit) :
    (counter.fail limit duration now).1 = ⟨counter.counted now + 1, none⟩ := by
  have notReached : ¬limit ≤ counter.counted now + 1 := by omega
  simp only [fail, notReached, if_false, Counter.mk.injEq, true_and]
  rcases open_cases isOpen with unlocked | expired
  · simp [unlocked]
  · simp [expired]

theorem locksAfter_iff (isOpen : counter.locked now = false) {count : Nat} :
    LocksAfter (fail limit duration) counter now count ↔ count = left limit counter now := by
  constructor
  · intro locks
    induction locks with
    | last later locks =>
      rw [fail_locks_iff, counted_later isOpen later] at locks
      simp only [left]
      omega
    | @more counter now time count later stillOpen rest ih =>
      have below : counter.counted time + 1 < limit := by
        have notReached := mt fail_locks_iff.mpr (by rw [stillOpen]; exact Bool.false_ne_true)
        omega
      rw [fail_open (locked_later isOpen later) below] at ih
      have restCount := ih rfl
      rw [counted_later isOpen later] at restCount below
      simp only [left, counted_unlocked] at restCount ⊢
      omega
  · intro isLeft
    induction count generalizing counter now with
    | zero => simp only [left] at isLeft; omega
    | succ count ih =>
      by_cases reached : limit ≤ counter.counted now + 1
      · have isOne : count = 0 := by simp only [left] at isLeft; omega
        subst isOne
        exact LocksAfter.last (Nat.le_refl now) (fail_locks_iff.mpr reached)
      · have below : counter.counted now + 1 < limit := by omega
        apply LocksAfter.more (Nat.le_refl now)
        · rw [← Bool.not_eq_true, fail_locks_iff]
          exact reached
        · rw [fail_open isOpen below]
          apply ih rfl
          simp only [left, counted_unlocked] at isLeft ⊢
          omega

end Counter

end Lockouts
