import Mathlib.Data.List.Nodup
import Mathlib.Order.Lattice

/-!
Stable sorting by a key. Where an item ends up is told by how many items come after it, which
takes no sorting to count.
-/

namespace Ranking

variable {Item Key : Type*} [LinearOrder Key] (key : Item → Key)

def notAfter (first second : Item) : Bool := decide (key first ≤ key second)

def ranked (items : List Item) : List Item := items.mergeSort (notAfter key)

theorem notAfter_iff {first second : Item} :
    notAfter key first second = true ↔ key first ≤ key second := by
  rw [notAfter, decide_eq_true_iff]

theorem notAfter_trans (first second third : Item) (before : notAfter key first second = true)
    (after : notAfter key second third = true) : notAfter key first third = true := by
  rw [notAfter_iff] at *
  exact le_trans before after

theorem notAfter_total (first second : Item) :
    (notAfter key first second || notAfter key second first) = true := by
  rw [Bool.or_eq_true, notAfter_iff, notAfter_iff]
  exact le_total _ _

theorem ranked_perm (items : List Item) : (ranked key items).Perm items :=
  List.mergeSort_perm items _

theorem ranked_sorted (items : List Item) :
    (ranked key items).Pairwise fun first second => key first ≤ key second := by
  refine (List.pairwise_mergeSort (notAfter_trans key) (notAfter_total key) items).imp ?_
  intro first second sorted
  exact (notAfter_iff key).mp sorted

variable {items : List Item} {item : Item} {holds : Item → Prop}

theorem ranked_of_sorted (sorted : items.Pairwise fun first second => key first ≤ key second) :
    ranked key items = items :=
  List.mergeSort_of_pairwise (sorted.imp (notAfter_iff key).mpr)

theorem ranked_cons (first : Item) (rest : List Item) :
    ∃ smaller others, ranked key (first :: rest) = smaller ++ first :: others ∧
      ranked key rest = smaller ++ others ∧
      (∀ item ∈ smaller, key item < key first) ∧ ∀ item ∈ others, key first ≤ key item := by
  obtain ⟨smaller, others, isRanked, isRest, below⟩ :=
    List.mergeSort_cons (notAfter_trans key) (notAfter_total key) first rest
  refine ⟨smaller, others, isRanked, isRest, ?_, ?_⟩
  · intro item member
    have notBefore := below item member
    rw [Bool.not_eq_true', Bool.eq_false_iff, ne_eq, notAfter_iff] at notBefore
    exact not_le.mp notBefore
  · intro item member
    have sorted := ranked_sorted key (first :: rest)
    rw [ranked, isRanked] at sorted
    have fromFirst := (List.pairwise_append.mp sorted).2.1
    exact List.rel_of_pairwise_cons fromFirst member

theorem filter_ranked (keep : Item → Bool) (items : List Item) :
    (ranked key items).filter keep = ranked key (items.filter keep) := by
  induction items with
  | nil => simp [ranked]
  | cons first rest ih =>
    obtain ⟨smaller, others, isRanked, isRest, below, above⟩ := ranked_cons key first rest
    rw [isRest, List.filter_append] at ih
    rw [isRanked, List.filter_append]
    by_cases kept : keep first = true
    · obtain ⟨smaller', others', isRanked', isRest', below', above'⟩ :=
        ranked_cons key first (rest.filter keep)
      rw [isRest'] at ih
      rw [List.filter_cons_of_pos kept, List.filter_cons_of_pos kept, isRanked']
      -- both ways the first part is what has a smaller key
      have parts : ∀ front back : List Item, (∀ item ∈ front, key item < key first) →
          (∀ item ∈ back, key first ≤ key item) →
            (front ++ back).filter (fun item => key item < key first) = front ∧
              (front ++ back).filter (fun item => key first ≤ key item) = back := by
        intro front back isFront isBack
        simp only [List.filter_append]
        constructor
        · rw [List.filter_eq_self.mpr (by simpa using isFront),
            List.filter_eq_nil_iff.mpr (by simpa using isBack), List.append_nil]
        · rw [List.filter_eq_nil_iff.mpr (by simpa using isFront),
            List.filter_eq_self.mpr (by simpa using isBack), List.nil_append]
      obtain ⟨isSmaller, isOthers⟩ := parts (smaller.filter keep) (others.filter keep)
        (fun item member => below item (List.mem_filter.mp member).1)
        (fun item member => above item (List.mem_filter.mp member).1)
      obtain ⟨isSmaller', isOthers'⟩ := parts smaller' others' below' above'
      rw [ih, isSmaller'] at isSmaller
      rw [ih, isOthers'] at isOthers
      rw [← isSmaller, ← isOthers]
    · rw [List.filter_cons_of_neg kept, List.filter_cons_of_neg kept, ih]

omit [LinearOrder Key] in
theorem split_of_append {before after smaller others : List Item}
    (isSplit : smaller ++ others = before ++ item :: after) :
    (∃ middle, smaller = before ++ item :: middle ∧ after = middle ++ others) ∨
      ∃ middle, before = smaller ++ middle ∧ others = middle ++ item :: after := by
  rcases List.append_eq_append_iff.mp isSplit with ⟨middle, isBefore, isOthers⟩ |
    ⟨middle, isSmaller, isAfter⟩
  · exact .inr ⟨middle, isBefore, isOthers⟩
  · cases middle with
    | nil => exact .inr ⟨[], by simpa using isSmaller.symm, by simpa using isAfter.symm⟩
    | cons head middle =>
      obtain ⟨rfl, rfl⟩ := List.cons.inj isAfter
      exact .inl ⟨middle, isSmaller, rfl⟩

/-- What comes after the first `kept` of a descending list has that many at least before it. -/
theorem lt_countP_of_mem_drop {kept : Nat}
    (sorted : items.Pairwise fun first second => key second ≤ key first)
    (member : item ∈ items.drop kept) : kept < items.countP fun other => key item ≤ key other := by
  have inRange : kept < items.length := by
    by_contra short
    rw [List.drop_eq_nil_of_le (not_lt.mp short)] at member
    cases member
  rw [← List.take_append_drop kept items] at sorted
  have before : ∀ other ∈ items.take kept, key item ≤ key other := fun other isBefore =>
    (List.pairwise_append.mp sorted).2.2 other isBefore item member
  have allBefore : (items.take kept).countP (fun other => key item ≤ key other) = kept := by
    rw [List.countP_eq_length.mpr (by simpa using before), List.length_take_of_le inRange.le]
  have itself : 0 < (items.drop kept).countP fun other => key item ≤ key other :=
    List.countP_pos_iff.mpr ⟨item, member, by simp⟩
  have total : items.countP (fun other => key item ≤ key other) =
      (items.take kept).countP (fun other => key item ≤ key other) +
        (items.drop kept).countP fun other => key item ≤ key other := by
    rw [← List.countP_append, List.take_append_drop]
  omega

variable [DecidableEq Item]

def later : List Item → Item → Nat
  | [], _ => 0
  | first :: rest, item =>
    if first = item then rest.countP fun other => notAfter key item other
    else later rest item + if key item < key first then 1 else 0

theorem ranked_split (member : item ∈ items) :
    ∃ before after, ranked key items = before ++ item :: after ∧
      after.length = later key items item := by
  induction items with
  | nil => cases member
  | cons first rest ih =>
    obtain ⟨smaller, others, isRanked, isRest, below, above⟩ := ranked_cons key first rest
    rw [later]
    by_cases isFirst : first = item
    · subst isFirst
      refine ⟨smaller, others, isRanked, ?_⟩
      have noSmaller : smaller.countP (fun other => notAfter key first other) = 0 := by
        rw [List.countP_eq_zero]
        intro other inSmaller
        rw [notAfter_iff]
        exact not_le.mpr (below other inSmaller)
      have allOthers : others.countP (fun other => notAfter key first other) = others.length := by
        rw [List.countP_eq_length]
        intro other inOthers
        exact (notAfter_iff key).mpr (above other inOthers)
      rw [if_pos rfl, ← (ranked_perm key rest).countP_eq, isRest, List.countP_append, noSmaller,
        allOthers, Nat.zero_add]
    · have inRest : item ∈ rest := by
        rcases List.mem_cons.mp member with same | inRest
        · exact absurd same.symm isFirst
        · exact inRest
      obtain ⟨before, after, isSplit, counted⟩ := ih inRest
      rw [if_neg isFirst, ← counted]
      rw [isRest] at isSplit
      rcases split_of_append isSplit with ⟨middle, rfl, rfl⟩ | ⟨middle, rfl, rfl⟩
      · -- the new item comes after this one, which has a smaller key
        refine ⟨before, middle ++ first :: others, by simp [isRanked], ?_⟩
        rw [if_pos (below item (by simp))]
        simp
        omega
      · refine ⟨smaller ++ first :: middle, after, by simp [isRanked], ?_⟩
        rw [if_neg (not_lt.mpr (above item (by simp))), Nat.add_zero]

theorem mem_take_ranked (distinct : items.Nodup) (member : item ∈ items) (kept : Nat) :
    item ∈ (ranked key items).take (items.length - kept) ↔ kept ≤ later key items item := by
  obtain ⟨before, after, isRanked, counted⟩ := ranked_split key member
  have isLength : items.length = before.length + 1 + after.length := by
    rw [← (ranked_perm key items).length_eq, isRanked]
    simp
    omega
  have notBefore : item ∉ before := by
    have nodup := (ranked_perm key items).nodup_iff.mpr distinct
    rw [isRanked] at nodup
    intro inBefore
    exact (List.nodup_append.mp nodup).2.2 item inBefore item (.head _) rfl
  rw [isRanked, List.take_append, List.mem_append, ← counted]
  constructor
  · rintro (inBefore | inRest)
    · exact absurd (List.mem_of_mem_take inBefore) notBefore
    · have positive : 0 < items.length - kept - before.length := by
        by_contra zero
        rw [Nat.eq_zero_of_not_pos zero, List.take_zero] at inRest
        cases inRest
      omega
  · intro enough
    right
    obtain ⟨taken, isTaken⟩ : ∃ taken, items.length - kept - before.length = taken + 1 :=
      ⟨items.length - kept - before.length - 1, by omega⟩
    rw [isTaken, List.take_succ_cons]
    exact .head _

omit [DecidableEq Item]

open Classical in
noncomputable def number (holds : Item → Prop) (items : List Item) : Nat :=
  items.countP fun item => decide (holds item)

theorem number_congr {first second : Item → Prop}
    (same : ∀ item ∈ items, (first item ↔ second item)) :
    number first items = number second items := by
  apply List.countP_congr
  intro item member
  simpa using same item member

theorem number_cons_of_pos (isItem : holds item) (rest : List Item) :
    number holds (item :: rest) = number holds rest + 1 :=
  List.countP_cons_of_pos (by simpa using isItem)

theorem number_cons_of_neg (notItem : ¬holds item) (rest : List Item) :
    number holds (item :: rest) = number holds rest :=
  List.countP_cons_of_neg (by simpa using notItem)

theorem number_split (first second : Item → Prop) (items : List Item) :
    number first items = number (fun item => first item ∧ second item) items +
      number (fun item => first item ∧ ¬second item) items := by
  induction items with
  | nil => rfl
  | cons item rest ih =>
    by_cases isFirst : first item
    · by_cases isSecond : second item
      · rw [number_cons_of_pos isFirst, number_cons_of_pos ⟨isFirst, isSecond⟩,
          number_cons_of_neg (fun both => both.2 isSecond)]
        omega
      · rw [number_cons_of_pos isFirst, number_cons_of_neg (fun both => isSecond both.2),
          number_cons_of_pos ⟨isFirst, isSecond⟩]
        omega
    · rw [number_cons_of_neg isFirst, number_cons_of_neg (fun both => isFirst both.1),
        number_cons_of_neg (fun both => isFirst both.1)]
      exact ih

theorem number_eq_length {Id : Type*} {id : Item → Id} (distinct : (items.map id).Nodup)
    {ids : List Id} (nodup : ids.Nodup)
    (mem_iff : ∀ key, key ∈ ids ↔ ∃ item ∈ items, holds item ∧ id item = key) :
    number holds items = ids.length := by
  classical
  have chosen : ((items.filter fun item => decide (holds item)).map id).Perm ids := by
    rw [List.perm_ext_iff_of_nodup (distinct.sublist (List.filter_sublist.map id)) nodup]
    intro key
    rw [mem_iff]
    simp only [List.mem_map, List.mem_filter, decide_eq_true_iff, and_assoc]
  rw [number, List.countP_eq_length_filter, ← chosen.length_eq, List.length_map]

theorem number_pos (member : item ∈ items) (isItem : holds item) : 0 < number holds items := by
  rw [number, List.countP_pos_iff]
  exact ⟨item, member, by simpa using isItem⟩

end Ranking
