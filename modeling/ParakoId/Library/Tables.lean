import Mathlib.Data.List.Basic
import Mathlib.Data.List.Pairwise

/-!
Tables of rows with partial unique indexes. An index covers the rows that its
predicate selects, and no two rows it covers have the same key.
-/

namespace Tables

variable {Row Key : Type*}

def UniqueOn (covers : Row → Bool) (key : Row → Key) (rows : List Row) : Prop :=
  rows.Pairwise fun first second =>
    covers first = true → covers second = true → key first ≠ key second

instance [DecidableEq Key] (covers : Row → Bool) (key : Row → Key) (rows : List Row) :
    Decidable (UniqueOn covers key rows) :=
  inferInstanceAs (Decidable (rows.Pairwise _))

/-- `UPDATE rows SET data WHERE matching`, as one statement. -/
def updateMany (matching : Row → Bool) (data : Row → Row) (rows : List Row) : List Row :=
  rows.map fun row => if matching row then data row else row

variable {matching covers : Row → Bool} {rows : List Row} {key : Row → Key}

theorem mem_updateMany {data : Row → Row} {row : Row} :
    row ∈ updateMany matching data rows ↔
      (∃ old ∈ rows, matching old = true ∧ data old = row) ∨
        (row ∈ rows ∧ matching row = false) := by
  simp only [updateMany, List.mem_map]
  constructor
  · rintro ⟨old, member, written⟩
    cases selected : matching old with
    | true => exact Or.inl ⟨old, member, selected, by simpa [selected] using written⟩
    | false =>
      simp only [selected, Bool.false_eq_true, if_false] at written
      subst written
      exact Or.inr ⟨member, selected⟩
  · rintro (⟨old, member, selected, written⟩ | ⟨member, unselected⟩)
    · exact ⟨old, member, by simpa [selected] using written⟩
    · exact ⟨row, member, by simp [unselected]⟩

theorem filter_updateMany {outside : Row → Bool} {data : Row → Row}
    (matchesInside : ∀ row ∈ rows, matching row = true → outside row = false)
    (staysInside : ∀ row ∈ rows, matching row = true → outside (data row) = false) :
    (updateMany matching data rows).filter outside = rows.filter outside := by
  induction rows with
  | nil => rfl
  | cons row rest ih =>
    have tail := ih (fun other member => matchesInside other (List.mem_cons_of_mem _ member))
      (fun other member => staysInside other (List.mem_cons_of_mem _ member))
    simp only [updateMany, List.map_cons] at tail ⊢
    cases selected : matching row with
    | true =>
      have before := matchesInside row List.mem_cons_self selected
      have after := staysInside row List.mem_cons_self selected
      simp [before, after, tail]
    | false => simp [List.filter_cons, tail]

theorem filter_append_inside {outside : Row → Bool} {added : List Row}
    (inside : ∀ row ∈ added, outside row = false) :
    (rows ++ added).filter outside = rows.filter outside := by
  have none : added.filter outside = [] := by
    rw [List.filter_eq_nil_iff]
    intro row member
    simp [inside row member]
  rw [List.filter_append, none, List.append_nil]

theorem filter_delete {outside : Row → Bool}
    (matchesInside : ∀ row ∈ rows, matching row = true → outside row = false) :
    (rows.filter fun row => !matching row).filter outside = rows.filter outside := by
  rw [List.filter_filter]
  apply List.filter_congr
  intro row member
  cases selected : matching row with
  | true => simp [matchesInside row member selected]
  | false => simp

theorem UniqueOn.updateMany {data : Row → Row} (unique : UniqueOn covers key rows)
    (keepsKey : ∀ row, key (data row) = key row)
    (coversLess : ∀ row, matching row = true → covers (data row) = true → covers row = true) :
    UniqueOn covers key (updateMany matching data rows) := by
  refine List.pairwise_map.mpr (List.Pairwise.imp ?_ unique)
  intro first second differ
  have keyKept (row : Row) : key (if matching row then data row else row) = key row := by
    split
    · exact keepsKey row
    · rfl
  have covered (row : Row)
      (after : covers (if matching row then data row else row) = true) : covers row = true := by
    split at after
    · rename_i selected
      exact coversLess row selected after
    · exact after
  intro firstCovered secondCovered
  rw [keyKept, keyKept]
  exact differ (covered first firstCovered) (covered second secondCovered)

theorem UniqueOn.weaken {covers' : Row → Bool} (unique : UniqueOn covers key rows)
    (less : ∀ row, covers' row = true → covers row = true) : UniqueOn covers' key rows :=
  List.Pairwise.imp (fun differ first second => differ (less _ first) (less _ second)) unique

theorem UniqueOn.append_iff {added : List Row} :
    UniqueOn covers key (rows ++ added) ↔
      UniqueOn covers key rows ∧ UniqueOn covers key added ∧
        ∀ row ∈ rows, ∀ new ∈ added, covers row = true → covers new = true → key row ≠ key new :=
  List.pairwise_append

theorem UniqueOn.eq_of_key_eq (unique : UniqueOn covers key rows) {first second : Row}
    (firstMem : first ∈ rows) (secondMem : second ∈ rows) (firstCovered : covers first = true)
    (secondCovered : covers second = true) (same : key first = key second) : first = second := by
  by_contra different
  have symmetric : Std.Symm fun first second : Row =>
      covers first = true → covers second = true → key first ≠ key second :=
    ⟨fun _ _ differ second first => (differ first second).symm⟩
  exact List.Pairwise.forall unique firstMem secondMem different firstCovered secondCovered same

theorem uniqueOn_iff_ids {Id : Type*} {id : Row → Id}
    (distinct : rows.Pairwise fun first second => id first ≠ id second) :
    UniqueOn covers key rows ↔ ∀ first ∈ rows, ∀ second ∈ rows, covers first = true →
      covers second = true → key first = key second → id first = id second := by
  constructor
  · intro unique first firstMem second secondMem firstCovered secondCovered same
    rw [unique.eq_of_key_eq firstMem secondMem firstCovered secondCovered same]
  · intro sameId
    refine distinct.imp_of_mem ?_
    intro first second firstMem secondMem differ firstCovered secondCovered same
    exact differ (sameId first firstMem second secondMem firstCovered secondCovered same)

theorem UniqueOn.cover_iff {Id : Type*} [DecidableEq Id] {id : Row → Id} {data : Row → Row}
    {wanted : Id} (unique : UniqueOn covers key rows)
    (distinct : rows.Pairwise fun first second => id first ≠ id second)
    (keepsId : ∀ row, id (data row) = id row) (keepsKey : ∀ row, key (data row) = key row)
    (coversData : ∀ row, covers (data row) = true) :
    UniqueOn covers key (Tables.updateMany (fun row => id row = wanted) data rows) ↔
      ∀ target ∈ rows, id target = wanted → ∀ other ∈ rows, id other ≠ wanted →
        covers other = true → key other ≠ key target := by
  have differ := (uniqueOn_iff_ids distinct).mp unique
  have distinctAfter : (Tables.updateMany (fun row => id row = wanted) data rows).Pairwise
      fun first second => id first ≠ id second := by
    have kept (row : Row) : id (if decide (id row = wanted) = true then data row else row) =
        id row := by
      split
      · exact keepsId row
      · rfl
    refine List.pairwise_map.mpr (distinct.imp ?_)
    intro first second apart
    rwa [kept, kept]
  rw [uniqueOn_iff_ids distinctAfter]
  simp only [mem_updateMany, decide_eq_true_eq, decide_eq_false_iff_not]
  constructor
  · intro sameId target isTarget isWanted other isOther unwanted covered same
    have ids := sameId other (.inr ⟨isOther, unwanted⟩) (data target)
      (.inl ⟨target, isTarget, isWanted, rfl⟩) covered (coversData target)
      (same.trans (keepsKey target).symm)
    exact unwanted (ids.trans ((keepsId target).trans isWanted))
  · rintro apart first (⟨old, isOld, oldWanted, rfl⟩ | ⟨isFirst, firstKept⟩) second
      (⟨new, isNew, newWanted, rfl⟩ | ⟨isSecond, secondKept⟩) firstCovered secondCovered same
    · rw [keepsId, keepsId, oldWanted, newWanted]
    · rw [keepsKey] at same
      exact absurd same.symm (apart old isOld oldWanted second isSecond secondKept secondCovered)
    · rw [keepsKey] at same
      exact absurd same (apart new isNew newWanted first isFirst firstKept firstCovered)
    · exact differ first isFirst second isSecond firstCovered secondCovered same

theorem UniqueOn.countP_le_one [DecidableEq Key] (unique : UniqueOn covers key rows)
    (value : Key) : rows.countP (fun row => covers row && decide (key row = value)) ≤ 1 := by
  induction rows with
  | nil => simp
  | cons row rest ih =>
    have parts := List.pairwise_cons.mp unique
    rw [List.countP_cons]
    split
    · rename_i counted
      simp only [Bool.and_eq_true, decide_eq_true_eq] at counted
      have none : rest.countP (fun row => covers row && decide (key row = value)) = 0 := by
        rw [List.countP_eq_zero]
        intro other member both
        simp only [Bool.and_eq_true, decide_eq_true_eq] at both
        exact parts.1 other member counted.1 both.1 (counted.2.trans both.2.symm)
      omega
    · simpa using ih parts.2

theorem find?_of_pairwise {related : Row → Row → Prop} {selected : Row → Bool} {first : Row}
    (ordered : rows.Pairwise related) (found : rows.find? selected = some first) :
    first ∈ rows ∧ selected first = true ∧
      ∀ row ∈ rows, selected row = true → row = first ∨ related first row := by
  obtain ⟨chosen, before, after, rfl, skipped⟩ := List.find?_eq_some_iff_append.mp found
  refine ⟨by simp, chosen, ?_⟩
  intro row member rowChosen
  rcases List.mem_append.mp member with early | late
  · have := skipped row early
    simp [rowChosen] at this
  · rcases List.mem_cons.mp late with same | later
    · exact Or.inl same
    · have tail := (List.pairwise_append.mp ordered).2.1
      exact Or.inr ((List.pairwise_cons.mp tail).1 row later)

/-- A query for the first of some rows, in an order that is the database's own. -/
structure FirstRow (Row : Type*) where
  pick : List Row → Option Row
  pick_mem : ∀ rows row, pick rows = some row → row ∈ rows
  pick_none : ∀ rows, pick rows = none → rows = []

def firstInserted : FirstRow Row where
  pick := List.head?
  pick_mem _ _ isHead := List.mem_of_mem_head? isHead
  pick_none _ := List.head?_eq_none_iff.mp

end Tables
