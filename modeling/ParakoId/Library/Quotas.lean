import Mathlib.Logic.Function.Basic

/-!
Counters of one window, one for each key. Everything that comes is counted, and admitted while the
count of its key stays within the bound.
-/

namespace Quotas

variable {Key : Type*} [DecidableEq Key]

def count (hits : Key → Nat) (key : Key) : Key → Nat :=
  Function.update hits key (hits key + 1)

def admits (bound : Nat) (hits : Key → Nat) (key : Key) : Bool :=
  decide (count hits key key ≤ bound)

@[simp] theorem count_same (hits : Key → Nat) (key : Key) : count hits key key = hits key + 1 :=
  Function.update_self key _ hits

theorem count_other (hits : Key → Nat) {key other : Key} (isOther : other ≠ key) :
    count hits key other = hits other := Function.update_of_ne isOther _ hits

theorem le_count (hits : Key → Nat) (key other : Key) : hits other ≤ count hits key other := by
  by_cases isSame : other = key
  · subst isSame
    rw [count_same]
    omega
  · exact Nat.le_of_eq (count_other hits isSame).symm

theorem admits_iff {bound : Nat} {hits : Key → Nat} {key : Key} :
    admits bound hits key = true ↔ hits key < bound := by
  rw [admits, decide_eq_true_eq, count_same]
  omega

structure Within (bound : Nat) (hits : Key → Nat) (key : Key) (taken : Nat) : Prop where
  counted : taken ≤ hits key
  bounded : taken ≤ bound

variable {bound taken : Nat} {hits : Key → Nat} {key : Key}

theorem Within.refused (within : Within bound hits key taken) (other : Key) :
    Within bound (count hits other) key taken :=
  ⟨Nat.le_trans within.counted (le_count hits other key), within.bounded⟩

theorem Within.admitted (within : Within bound hits key taken)
    (isAdmitted : admits bound hits key = true) :
    Within bound (count hits key) key (taken + 1) := by
  have counted := within.counted
  rw [admits_iff] at isAdmitted
  constructor
  · rw [count_same]
    omega
  · omega

end Quotas
