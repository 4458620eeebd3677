import Mathlib.Data.List.Nodup
import Mathlib.Data.List.Perm.Basic

/-!
Pages of a list of rows that a client gets by following cursors. A cursor is made from the last
row of a page; the next page is taken from the rows that follow it.
-/

namespace CursorPages

variable {Row Cursor : Type*}

structure Page (Row Cursor : Type*) where
  data : List Row
  hasMore : Bool
  nextCursor : Option Cursor
  totalCount : Option Nat

/-- The pages up to the first that has no more after it; none where a request fails, or where
the fuel is used up before. -/
def follow (fetch : Option Cursor → Option (Page Row Cursor)) :
    Nat → Option Cursor → Option (List (Page Row Cursor))
  | 0, _ => none
  | fuel + 1, cursor =>
    match fetch cursor with
    | none => none
    | some page =>
      if page.hasMore then (follow fetch fuel page.nextCursor).map (page :: ·)
      else some [page]

def rowsOf (pages : List (Page Row Cursor)) : List Row := pages.flatMap (·.data)

theorem rowsOf_cons (page : Page Row Cursor) (later : List (Page Row Cursor)) :
    rowsOf (page :: later) = page.data ++ rowsOf later := List.flatMap_cons

structure Pager (Row Cursor : Type*) where
  rows : List Row
  limit : Nat
  cursorOf : Row → Cursor
  follows : Row → Row → Bool
  total : List Row → Option Nat

def Pager.Shows (pager : Pager Row Cursor) (current : List Row)
    (answer : Option (Page Row Cursor)) : Prop :=
  ∃ page, answer = some page ∧ page.data = current.take pager.limit ∧
    page.hasMore = decide (pager.limit < current.length) ∧
    (page.hasMore = true →
      page.nextCursor = (current.take pager.limit).getLast?.map pager.cursorOf) ∧
    page.totalCount = pager.total current

structure Pager.Serves (pager : Pager Row Cursor)
    (fetch : Option Cursor → Option (Page Row Cursor)) : Prop where
  first : pager.Shows pager.rows (fetch none)
  next : ∀ last ∈ pager.rows,
    pager.Shows (pager.rows.filter (pager.follows last)) (fetch (some (pager.cursorOf last)))

def Pager.EndsAt (pager : Pager Row Cursor) (current : List Row) : Prop :=
  ∀ before last rest, current = before ++ last :: rest → pager.limit ∣ before.length + 1 →
    rest ≠ [] → pager.rows.filter (pager.follows last) = rest

def Pager.Reports (pager : Pager Row Cursor) (current : List Row) (count : Option Nat) : Prop :=
  ∀ before rest, current = before ++ rest → pager.limit ∣ before.length →
    before = [] ∨ rest ≠ [] → pager.total rest = count

theorem exists_middle {first second other rest : List Row} (same : first ++ second = other ++ rest)
    (shorter : first.length ≤ other.length) :
    ∃ middle, other = first ++ middle ∧ second = middle ++ rest := by
  rcases List.append_eq_append_iff.mp same with ⟨middle, isOther, isSecond⟩ |
    ⟨middle, isFirst, isRest⟩
  · exact ⟨middle, isOther, isSecond⟩
  · have isEmpty : middle = [] := by
      have lengths := congrArg List.length isFirst
      rw [List.length_append] at lengths
      exact List.length_eq_zero_iff.mp (by omega)
    subst isEmpty
    exact ⟨[], by simpa using isFirst.symm, by simpa using isRest.symm⟩

theorem exists_page {current : List Row} {limit : Nat} (positive : 0 < limit)
    (longer : limit < current.length) :
    ∃ front last rest, current = front ++ last :: rest ∧ front.length + 1 = limit ∧ rest ≠ [] ∧
      current.take limit = front ++ [last] := by
  have nonempty : current.take limit ≠ [] := by
    intro isEmpty
    have lengths := congrArg List.length isEmpty
    rw [List.length_take, List.length_nil] at lengths
    omega
  obtain ⟨front, last, isPage⟩ := (List.eq_nil_or_concat' _).resolve_left nonempty
  have lengths := congrArg List.length isPage
  rw [List.length_take, List.length_append, List.length_singleton] at lengths
  refine ⟨front, last, current.drop limit, ?_, by omega, ?_, isPage⟩
  · calc current = current.take limit ++ current.drop limit := (List.take_append_drop ..).symm
      _ = front ++ last :: current.drop limit := by rw [isPage, List.append_assoc]; rfl
  · intro isEmpty
    have afterwards := congrArg List.length isEmpty
    rw [List.length_drop, List.length_nil] at afterwards
    omega

section Following

variable {pager : Pager Row Cursor} {fetch : Option Cursor → Option (Page Row Cursor)}

variable {cursor : Option Cursor} {current : List Row} {pages : List (Page Row Cursor)}

theorem follow_cases {fuel : Nat} (positive : 0 < pager.limit)
    (shown : pager.Shows current (fetch cursor))
    (followed : follow fetch (fuel + 1) cursor = some pages) :
    (current.length ≤ pager.limit ∧ ∃ page, pages = [page] ∧ page.data = current ∧
        page.totalCount = pager.total current) ∨
      ∃ front last rest page later, current = front ++ last :: rest ∧
        front.length + 1 = pager.limit ∧ rest ≠ [] ∧ pages = page :: later ∧
        page.data = front ++ [last] ∧ page.totalCount = pager.total current ∧
        follow fetch fuel (some (pager.cursorOf last)) = some later := by
  obtain ⟨page, isPage, isData, isMore, isNext, isTotal⟩ := shown
  simp only [follow, isPage] at followed
  by_cases longer : pager.limit < current.length
  · have more : page.hasMore = true := by simpa [isMore] using longer
    rw [if_pos more, isNext more] at followed
    obtain ⟨front, last, rest, isCurrent, isFull, isLeft, isTaken⟩ := exists_page positive longer
    obtain ⟨later, isLater, isPages⟩ := Option.map_eq_some_iff.mp followed
    refine .inr ⟨front, last, rest, page, later, isCurrent, isFull, isLeft, isPages.symm, ?_,
      isTotal, ?_⟩
    · rw [isData, isTaken]
    · simpa [isTaken] using isLater
  · have noMore : ¬page.hasMore = true := by simpa [isMore] using longer
    rw [if_neg noMore] at followed
    injection followed with isPages
    refine .inl ⟨by omega, page, isPages.symm, ?_, isTotal⟩
    rw [isData, List.take_of_length_le (by omega)]

variable (serves : pager.Serves fetch) (positive : 0 < pager.limit)
include serves positive

theorem followed_subset {fuel : Nat} (within : current ⊆ pager.rows)
    (closed : ∀ last ∈ current, pager.rows.filter (pager.follows last) ⊆ current)
    (transitive : ∀ first second third, pager.follows first second = true →
      pager.follows second third = true → pager.follows first third = true)
    (shown : pager.Shows current (fetch cursor))
    (followed : follow fetch fuel cursor = some pages) : rowsOf pages ⊆ current := by
  induction fuel generalizing cursor current pages with
  | zero => cases followed
  | succ fuel ih =>
    rcases follow_cases positive shown followed with ⟨_, page, rfl, isData, _⟩ |
      ⟨front, last, rest, page, later, isCurrent, _, _, rfl, isData, _, isLater⟩
    · simp [rowsOf, isData]
    · have isLast : last ∈ current := by simp [isCurrent]
      have inner := ih (List.filter_subset_self _) (by
        intro next isNext row isRow
        rw [List.mem_filter] at *
        exact ⟨isRow.1, transitive last next row isNext.2 isRow.2⟩)
        (serves.next last (within isLast)) isLater
      intro row isRow
      rw [rowsOf_cons, List.mem_append, isData] at isRow
      rcases isRow with here | afterwards
      · rw [isCurrent]
        rcases List.mem_append.mp here with inFront | isLastRow
        · exact List.mem_append_left _ inFront
        · exact List.mem_append_right _ (List.mem_cons.mpr (.inl (List.mem_singleton.mp isLastRow)))
      · exact closed last isLast (inner afterwards)

/-- The rows that follow the last one of a page are those after it, if what is shown for them is
in the end as many times as they are. -/
theorem follows_of_perm (nodup : pager.rows.Nodup)
    (transitive : ∀ first second third, pager.follows first second = true →
      pager.follows second third = true → pager.follows first third = true)
    {before rest : List Row} {last : Row} (isSplit : pager.rows = before ++ last :: rest)
    {fuel : Nat} {later : List (Page Row Cursor)}
    (followed : follow fetch fuel (some (pager.cursorOf last)) = some later)
    (complete : (rowsOf later).Perm rest) : pager.rows.filter (pager.follows last) = rest := by
  have isLast : last ∈ pager.rows := by simp [isSplit]
  have shown := serves.next last isLast
  have subset := followed_subset serves positive (List.filter_subset_self _) (by
    intro next isNext row isRow
    rw [List.mem_filter] at *
    exact ⟨isRow.1, transitive last next row isNext.2 isRow.2⟩) transitive shown followed
  have allFollow : ∀ row ∈ rest, pager.follows last row = true := by
    intro row isRow
    exact (List.mem_filter.mp (subset (complete.symm.subset isRow))).2
  have split : pager.rows.filter (pager.follows last) =
      (before ++ [last]).filter (pager.follows last) ++ rest := by
    rw [isSplit, List.append_cons, List.filter_append, List.filter_eq_self.mpr allFollow]
  cases isEarlier : (before ++ [last]).filter (pager.follows last) with
  | nil => rw [split, isEarlier, List.nil_append]
  | cons row others =>
    -- an earlier row would be on the next page, and so be shown twice
    have earlier : row ∈ before ++ [last] :=
      (List.mem_filter.mp (isEarlier ▸ List.mem_cons_self)).1
    have shownAgain : row ∈ rowsOf later := by
      rw [split, isEarlier] at shown
      cases fuel with
      | zero => cases followed
      | succ fuel =>
        rcases follow_cases positive shown followed with ⟨_, page, rfl, isData, _⟩ |
          ⟨front, final, _, page, _, isCurrent, _, _, rfl, isData, _, _⟩
        · simp [rowsOf, isData]
        · rw [rowsOf_cons, isData, List.mem_append]
          left
          cases front with
          | nil =>
            injection isCurrent with same
            simp [same]
          | cons head front =>
            injection isCurrent with same
            simp [same]
    have later : row ∈ rest := complete.subset shownAgain
    rw [isSplit, List.append_cons] at nodup
    exact absurd later (List.disjoint_of_nodup_append nodup earlier)

theorem ends_of_followed (nodup : pager.rows.Nodup)
    (transitive : ∀ first second third, pager.follows first second = true →
      pager.follows second third = true → pager.follows first third = true) {count : Option Nat}
    {fuel : Nat} {before : List Row} (isSplit : pager.rows = before ++ current)
    (shown : pager.Shows current (fetch cursor))
    (followed : follow fetch fuel cursor = some pages) (complete : (rowsOf pages).Perm current)
    (counted : ∀ page ∈ pages, page.totalCount = count) :
    pager.EndsAt current ∧ pager.Reports current count := by
  induction fuel generalizing cursor before current pages with
  | zero => cases followed
  | succ fuel ih =>
    rcases follow_cases positive shown followed with ⟨fits, page, rfl, _, isTotal⟩ |
      ⟨front, last, rest, page, later, rfl, isFull, isLeft, rfl, isData, isTotal, isLater⟩
    · have reported : pager.total current = count := by
        rw [← isTotal]
        exact counted page List.mem_cons_self
      constructor
      · intro front last rest isCurrent isFull isLeft
        have lengths := congrArg List.length isCurrent
        have bound := Nat.le_of_dvd (Nat.succ_pos _) isFull
        have some := List.length_pos_iff.mpr isLeft
        rw [List.length_append, List.length_cons] at lengths
        omega
      · intro front rest isCurrent isFull isFirst
        have isStart : front = [] := by
          by_contra notFirst
          have isLeft := List.length_pos_iff.mpr (isFirst.resolve_left notFirst)
          have bound := Nat.le_of_dvd (List.length_pos_iff.mpr notFirst) isFull
          have lengths := congrArg List.length isCurrent
          rw [List.length_append] at lengths
          omega
        subst isStart
        rw [List.nil_append] at isCurrent
        rw [← isCurrent, reported]
    · have isRows : pager.rows = (before ++ front) ++ last :: rest := by
        rw [isSplit, List.append_assoc]
      have completeRest : (rowsOf later).Perm rest := by
        rw [rowsOf_cons, isData, List.append_cons front last rest] at complete
        exact (List.perm_append_left_iff _).mp complete
      have followsRest := follows_of_perm serves positive nodup transitive isRows isLater
        completeRest
      have shownRest := serves.next last (by simp [isRows])
      rw [followsRest] at shownRest
      rw [List.append_cons] at isRows
      obtain ⟨endsRest, reportsRest⟩ := ih isRows shownRest isLater completeRest
        fun page member => counted page (List.mem_cons_of_mem _ member)
      have pageLength : (front ++ [last]).length = pager.limit := by
        rw [List.length_append, List.length_singleton, isFull]
      constructor
      · intro earlier row others same full left
        by_cases first : earlier.length < pager.limit
        · have bound := Nat.le_of_dvd (Nat.succ_pos _) full
          obtain ⟨_, isRest⟩ := List.append_inj same (by omega)
          injection isRest with isRow isOthers
          rw [← isRow, ← isOthers, followsRest]
        · rw [List.append_cons] at same
          obtain ⟨middle, rfl, isRest⟩ := exists_middle same (by omega)
          rw [List.length_append, pageLength, Nat.add_assoc] at full
          exact endsRest middle row others isRest
            ((Nat.dvd_add_right (Nat.dvd_refl _)).mp full) left
      · intro earlier others same full first
        by_cases isStart : earlier = []
        · subst isStart
          rw [List.nil_append] at same
          rw [← same, ← isTotal]
          exact counted page List.mem_cons_self
        · have bound := Nat.le_of_dvd (List.length_pos_iff.mpr isStart) full
          rw [List.append_cons] at same
          obtain ⟨middle, rfl, isRest⟩ := exists_middle same (by omega)
          rw [List.length_append, pageLength] at full
          exact reportsRest middle others isRest
            ((Nat.dvd_add_right (Nat.dvd_refl _)).mp full) (.inr (first.resolve_left isStart))

theorem followed_of_ends {count : Option Nat} {before : List Row}
    (isSplit : pager.rows = before ++ current) (shown : pager.Shows current (fetch cursor))
    (ends : pager.EndsAt current) (reports : pager.Reports current count) :
    ∃ fuel pages, follow fetch fuel cursor = some pages ∧ rowsOf pages = current ∧
      ∀ page ∈ pages, page.totalCount = count := by
  induction isLength : current.length using Nat.strongRecOn generalizing before current
    cursor with
  | _ length ih =>
    obtain ⟨page, isPage, isData, isMore, isNext, isTotal⟩ := shown
    have counted : page.totalCount = count := by
      rw [isTotal]
      exact reports [] current rfl (Nat.dvd_zero _) (.inl rfl)
    by_cases longer : pager.limit < current.length
    · obtain ⟨front, last, rest, rfl, isFull, isLeft, isTaken⟩ := exists_page positive longer
      have isRows : pager.rows = (before ++ front) ++ last :: rest := by
        rw [isSplit, List.append_assoc]
      have followsRest := ends front last rest rfl ⟨1, by omega⟩ isLeft
      have shownRest := serves.next last (by simp [isRows])
      rw [followsRest] at shownRest
      rw [List.append_cons] at isRows
      have pageLength : (front ++ [last]).length = pager.limit := by
        rw [List.length_append, List.length_singleton, isFull]
      have endsRest : pager.EndsAt rest := by
        intro middle row others isRest full left
        refine ends (front ++ [last] ++ middle) row others ?_ ?_ left
        · simp [isRest]
        · rw [List.length_append, pageLength, Nat.add_assoc]
          exact (Nat.dvd_add_right (Nat.dvd_refl _)).mpr full
      have reportsRest : pager.Reports rest count := by
        intro middle others isRest full first
        refine reports (front ++ [last] ++ middle) others ?_ ?_ ?_
        · simp [isRest]
        · rw [List.length_append, pageLength]
          exact (Nat.dvd_add_right (Nat.dvd_refl _)).mpr full
        · rcases first with rfl | left
          · rw [List.nil_append] at isRest
            exact .inr (isRest ▸ isLeft)
          · exact .inr left
      obtain ⟨fuel, later, isLater, isRest, countedRest⟩ := ih rest.length
        (by rw [← isLength, List.length_append, List.length_cons]; omega) isRows shownRest
        endsRest reportsRest rfl
      refine ⟨fuel + 1, page :: later, ?_, ?_, ?_⟩
      · have more : page.hasMore = true := by simpa [isMore] using longer
        have isCursor : page.nextCursor = some (pager.cursorOf last) := by
          rw [isNext more, isTaken]
          simp
        simp only [follow, isPage, if_pos more, isCursor, isLater, Option.map_some]
      · rw [rowsOf_cons, isData, isTaken, isRest, ← List.append_cons]
      · intro other member
        rcases List.mem_cons.mp member with rfl | afterwards
        · exact counted
        · exact countedRest other afterwards
    · refine ⟨1, [page], ?_, ?_, ?_⟩
      · have noMore : ¬page.hasMore = true := by simpa [isMore] using longer
        simp only [follow, isPage, if_neg noMore]
      · simp only [rowsOf, List.flatMap_cons, List.flatMap_nil, List.append_nil, isData]
        exact List.take_of_length_le (by omega)
      · intro other member
        rw [List.mem_singleton.mp member]
        exact counted

end Following

def Enumerates (fetch : Option Cursor → Option (Page Row Cursor)) (rows : List Row)
    (count : Option Nat) : Prop :=
  ∃ fuel pages, follow fetch fuel none = some pages ∧ (rowsOf pages).Perm rows ∧
    ∀ page ∈ pages, page.totalCount = count

theorem Pager.Serves.enumerates_iff {pager : Pager Row Cursor}
    {fetch : Option Cursor → Option (Page Row Cursor)} (serves : pager.Serves fetch)
    (positive : 0 < pager.limit) (nodup : pager.rows.Nodup)
    (transitive : ∀ first second third, pager.follows first second = true →
      pager.follows second third = true → pager.follows first third = true)
    (count : Option Nat) :
    Enumerates fetch pager.rows count ↔
      pager.EndsAt pager.rows ∧ pager.Reports pager.rows count := by
  constructor
  · rintro ⟨fuel, pages, followed, complete, counted⟩
    exact ends_of_followed serves positive nodup transitive (List.nil_append _).symm serves.first
      followed complete counted
  · rintro ⟨ends, reports⟩
    obtain ⟨fuel, pages, followed, isRows, counted⟩ :=
      followed_of_ends serves positive (List.nil_append _).symm serves.first ends reports
    exact ⟨fuel, pages, followed, .of_eq isRows, counted⟩

end CursorPages
