import ParakoId.ManagementApi.Pagination
import Mathlib.Data.String.Basic

/-!
What a client gets that follows the cursors of the lists of the management API, over every
collection, filter and page size.
-/

namespace ParakoId.ManagementApi

open CursorPages (Enumerates Page Pager)
open Ranking (filter_ranked ranked ranked_of_sorted ranked_perm ranked_sorted)

variable {Row Cursor Id : Type} [LinearOrder Id]

theorem texts_some (fields : CursorFields) :
    texts (fields.map fun field => (field.1, some field.2)) = some fields := by
  induction fields with
  | nil => rfl
  | cons field rest ih => simp [texts, ih]

theorem decode_encode (cursors : Cursors Cursor) {fields : CursorFields} (nonempty : fields ≠ []) :
    decodeCursor (cursors.parse (cursors.encodeCursor fields)) = .ok fields := by
  rw [cursors.parse_encode, decodeCursor, if_neg (by simpa using nonempty), texts_some]

theorem cursorQuery_id (cursors : Cursors Cursor) (fieldText idText : Row → String)
    (operator : RangeOperator) (row : Row) :
    buildCursorQuery cursors
        (some (cursors.encodeCursor (cursorFields "id" fieldText idText row))) "id" operator =
      .ok [⟨"id", operator, idText row⟩] := by
  simp only [buildCursorQuery, cursorFields, if_true]
  rw [decode_encode cursors (by simp)]
  rfl

theorem cursorQuery_field (cursors : Cursors Cursor) (field : String)
    (isField : field ≠ "id" ∧ field ≠ "_id") (fieldText idText : Row → String)
    (operator : RangeOperator) (row : Row) :
    buildCursorQuery cursors
        (some (cursors.encodeCursor (cursorFields field fieldText idText row))) field operator =
      .ok [⟨field, operator, fieldText row⟩, ⟨"id", operator, idText row⟩] := by
  have notId : ("id" == field) = false := by simpa using isField.1.symm
  simp only [buildCursorQuery, cursorFields, if_neg isField.1]
  rw [decode_encode cursors (by simp)]
  simp [List.lookup_cons, isField.1, isField.2, notId, bind, Except.bind]

theorem response_shows (cursors : Cursors Cursor) (pager : Pager Row Cursor) {cursorField : String}
    {fieldText idText : Row → String}
    (encodes : pager.cursorOf = fun row =>
      cursors.encodeCursor (cursorFields cursorField fieldText idText row))
    {current docs : List Row} (isDocs : docs = current.take (pager.limit + 1))
    {totalCount : Option Nat} (isTotal : totalCount = pager.total current) :
    pager.Shows current (some (buildCursorResponse cursors docs pager.limit cursorField fieldText
      idText totalCount)) := by
  have length : docs.length = min (pager.limit + 1) current.length := by
    rw [isDocs, List.length_take]
  have longer_iff : pager.limit < docs.length ↔ pager.limit < current.length := by omega
  have isData : (if pager.limit < docs.length then docs.take pager.limit else docs) =
      current.take pager.limit := by
    rw [isDocs] at longer_iff ⊢
    split
    next => rw [List.take_take, Nat.min_eq_left (Nat.le_succ _)]
    next shorter =>
      rw [longer_iff, not_lt] at shorter
      rw [List.take_of_length_le shorter, List.take_of_length_le (by omega)]
  refine ⟨_, rfl, isData, by simp [buildCursorResponse, longer_iff], ?_, isTotal⟩
  intro more
  have longer : pager.limit < docs.length := by simpa [buildCursorResponse] using more
  simp only [buildCursorResponse, if_pos longer, encodes]
  rw [if_pos longer] at isData
  rw [isData]

def PageEnds (limit : Nat) (rows : List Row) (follows : Row → Row → Prop) : Prop :=
  ∀ before last rest, rows = before ++ last :: rest → limit ∣ before.length + 1 → rest ≠ [] →
    ∀ row ∈ rows, follows last row ↔ row ∈ rest

theorem endsAt_iff {pager : Pager Row Cursor} (nodup : pager.rows.Nodup) :
    pager.EndsAt pager.rows ↔
      PageEnds pager.limit pager.rows fun last row => pager.follows last row = true := by
  have filter_iff : ∀ before last rest, pager.rows = before ++ last :: rest →
      (pager.rows.filter (pager.follows last) = rest ↔
        ∀ row ∈ pager.rows, pager.follows last row = true ↔ row ∈ rest) := by
    intro before last rest isRows
    constructor
    · intro isRest row isRow
      rw [← isRest, List.mem_filter]
      exact ⟨fun follows => ⟨isRow, follows⟩, And.right⟩
    · intro all
      have disjoint : ∀ row ∈ before ++ [last], row ∉ rest := by
        rw [isRows, List.append_cons] at nodup
        exact fun row earlier later => List.disjoint_of_nodup_append nodup earlier later
      have split : pager.rows = (before ++ [last]) ++ rest := by rw [isRows, List.append_cons]
      rw [split, List.filter_append, List.filter_eq_nil_iff.mpr, List.filter_eq_self.mpr,
        List.nil_append]
      · intro row isRow
        exact (all row (by simp [split, isRow])).mpr isRow
      · intro row isRow follows
        have isMember : row ∈ pager.rows := split ▸ List.mem_append_left _ isRow
        exact disjoint row isRow ((all row isMember).mp follows)
  constructor
  · intro ends before last rest isRows full left
    exact (filter_iff before last rest isRows).mp (ends before last rest isRows full left)
  · intro ends before last rest isRows full left
    exact (filter_iff before last rest isRows).mpr (ends before last rest isRows full left)

def countIf (includeCount : Bool) (rows : List Row) : Option Nat :=
  if includeCount then some rows.length else none

theorem reports_iff {pager : Pager Row Cursor} (positive : 0 < pager.limit) {includeCount : Bool}
    (counts : pager.total = countIf includeCount) :
    pager.Reports pager.rows (countIf includeCount pager.rows) ↔
      (includeCount = true → pager.rows.length ≤ pager.limit) := by
  rw [Pager.Reports, counts]
  constructor
  · intro reports counted
    by_contra longer
    have dropped : (pager.rows.drop pager.limit).length = pager.rows.length - pager.limit :=
      List.length_drop
    have left : pager.rows.drop pager.limit ≠ [] := by
      intro isEmpty
      rw [isEmpty, List.length_nil] at dropped
      omega
    have same := reports (pager.rows.take pager.limit) (pager.rows.drop pager.limit)
      (List.take_append_drop ..).symm
      ⟨1, by rw [List.length_take]; omega⟩ (.inr left)
    simp only [countIf, counted, if_true, Option.some.injEq] at same
    omega
  · intro fits before rest isRows full first
    cases counted : includeCount with
    | false => simp [countIf]
    | true =>
      have bound := fits counted
      have isStart : before = [] := by
        by_contra notStart
        have some := List.length_pos_iff.mpr (first.resolve_left notStart)
        have page := Nat.le_of_dvd (List.length_pos_iff.mpr notStart) full
        rw [isRows, List.length_append] at bound
        omega
      rw [isRows, isStart, List.nil_append]

variable {fetch : Option Cursor → Option (Page Row Cursor)}

theorem enumerates_congr {first second : List Row} (perm : first.Perm second)
    (count : Option Nat) : Enumerates fetch first count ↔ Enumerates fetch second count := by
  constructor
  · rintro ⟨fuel, pages, followed, complete, counted⟩
    exact ⟨fuel, pages, followed, complete.trans perm, counted⟩
  · rintro ⟨fuel, pages, followed, complete, counted⟩
    exact ⟨fuel, pages, followed, complete.trans perm.symm, counted⟩

theorem enumerates_counted_iff {pager : Pager Row Cursor} (serves : pager.Serves fetch)
    (positive : 0 < pager.limit) (nodup : pager.rows.Nodup)
    (transitive : ∀ first second third, pager.follows first second = true →
      pager.follows second third = true → pager.follows first third = true) {includeCount : Bool}
    (counts : pager.total = countIf includeCount) {rows : List Row} (perm : pager.rows.Perm rows) :
    Enumerates fetch rows (countIf includeCount rows) ↔
      (includeCount = true → rows.length ≤ pager.limit) ∧
        PageEnds pager.limit pager.rows fun last row => pager.follows last row = true := by
  have sameCount : countIf includeCount rows = countIf includeCount pager.rows := by
    simp only [countIf, perm.length_eq]
  rw [← enumerates_congr perm, sameCount, serves.enumerates_iff positive nodup transitive,
    endsAt_iff nodup, reports_iff positive counts, perm.length_eq, and_comm]

theorem not_enumerates (fails : fetch none = none) (rows : List Row) (count : Option Nat) :
    ¬Enumerates fetch rows count := by
  rintro ⟨fuel, pages, followed, _, _⟩
  cases fuel with
  | zero => cases followed
  | succ fuel => simp [CursorPages.follow, fails] at followed

section Users

variable (cursors : Cursors Cursor) (formats : Formats Id) (searches : String → UserRow Id → Bool)

def usersPages (backend : Backend) (table : UserTable Id) (query : UsersQuery Cursor)
    (cursor : Option Cursor) : Option (Page (UserRow Id) Cursor) :=
  (listUsers cursors formats backend table { query with after := cursor }).toOption

def matchingUsers (table : UserTable Id) (query : UsersQuery Cursor) : List (UserRow Id) :=
  table.rows.filter ((usersFilter query).matching searches)

/-- A role or a search term finds nothing in MongoDB and is refused by Prisma. Otherwise all users
are on one page, or, with Prisma and no count asked for, those with a greater id than the last one
of a page are those created before it. -/
def UsersFit (backend : Backend) (table : UserTable Id) (query : UsersQuery Cursor) : Prop :=
  let matching := matchingUsers searches table query
  let limit := parseLimit query.limit
  let unsupported := (usersFilter query).role.isSome || (usersFilter query).searchTerm.isSome
  match backend with
  | .mongoose => if unsupported then matching = [] else matching.length ≤ limit
  | .prisma => unsupported = false ∧ (query.include_count = true → matching.length ≤ limit) ∧
      PageEnds limit (ranked newestFirst matching) fun last row => last.id < row.id

def userFollows (backend : Backend) (last row : UserRow Id) : Bool :=
  match backend with
  | .mongoose => false
  | .prisma => last.id < row.id

def usersPager (backend : Backend) (isKept : UserRow Id → Bool) (table : UserTable Id)
    (query : UsersQuery Cursor) : Pager (UserRow Id) Cursor where
  rows := ranked newestFirst (table.rows.filter isKept)
  limit := parseLimit query.limit
  cursorOf row := cursors.encodeCursor
    (cursorFields "id" (fun _ => "") (fun row => formats.idText row.id) row)
  follows := userFollows backend
  total := countIf query.include_count

theorem ranked_nodup {Key : Type} [LinearOrder Key] (key : Row → Key) {rows : List Row}
    (nodup : rows.Nodup) (isKept : Row → Bool) : (ranked key (rows.filter isKept)).Nodup :=
  (ranked_perm key _).nodup_iff.mpr (nodup.filter _)

theorem userFollows_trans (backend : Backend) (first second third : UserRow Id)
    (before : userFollows backend first second = true)
    (after : userFollows backend second third = true) : userFollows backend first third = true := by
  cases backend with
  | mongoose => exact before
  | prisma =>
    simp only [userFollows, decide_eq_true_eq] at *
    exact lt_trans before after

variable {filter : UsersFilter}

theorem userWhere_next {backend : Backend} {isKept : UserRow Id → Bool}
    (isWhere : userWhere formats backend filter [] = some isKept) (last : UserRow Id) :
    ∃ isNext, userWhere formats backend filter [⟨"id", .gt, formats.idText last.id⟩] = some isNext ∧
      ∀ row, isNext row = (isKept row && userFollows backend last row) := by
  cases backend with
  | mongoose =>
    injection isWhere with same
    refine ⟨_, rfl, ?_⟩
    intro row
    simp [userFollows]
  | prisma =>
    simp only [userWhere] at isWhere ⊢
    split at isWhere
    · cases isWhere
    next supported =>
      injection isWhere with same
      rw [if_neg supported]
      refine ⟨_, rfl, ?_⟩
      intro row
      simp [← same, userFollows, inRange, formats.cast_text]

theorem usersPages_serve {backend : Backend} (table : UserTable Id) (query : UsersQuery Cursor)
    {isKept : UserRow Id → Bool}
    (isWhere : userWhere formats backend (usersFilter query) [] = some isKept) :
    (usersPager cursors formats backend isKept table query).Serves
      (usersPages cursors formats backend table query) := by
  have sameFilter : ∀ cursor : Option Cursor,
      usersFilter { query with after := cursor } = usersFilter query := fun cursor => rfl
  constructor
  · have isPage : usersPages cursors formats backend table query none = some
        (buildCursorResponse cursors
          ((ranked newestFirst (table.rows.filter isKept)).take (parseLimit query.limit + 1))
          (parseLimit query.limit) "id" (fun _ => "") (fun row => formats.idText row.id)
          (if query.include_count then some (table.rows.filter isKept).length else none)) := by
      simp only [usersPages, listUsers, buildCursorQuery, sameFilter, bind, Except.bind, isWhere,
        Except.toOption]
    rw [isPage]
    refine response_shows cursors (usersPager cursors formats backend isKept table query) rfl rfl ?_
    simp only [usersPager, countIf, (ranked_perm _ _).length_eq]
  · intro last _
    obtain ⟨isNext, isNextWhere, next_eq⟩ := userWhere_next formats isWhere last
    have isPage : usersPages cursors formats backend table query
        (some ((usersPager cursors formats backend isKept table query).cursorOf last)) = some
        (buildCursorResponse cursors
          ((ranked newestFirst (table.rows.filter isNext)).take (parseLimit query.limit + 1))
          (parseLimit query.limit) "id" (fun _ => "") (fun row => formats.idText row.id)
          (if query.include_count then some (table.rows.filter isNext).length else none)) := by
      simp only [usersPages, listUsers, usersPager, cursorQuery_id, sameFilter, bind, Except.bind,
        isNextWhere, Except.toOption]
    have found : table.rows.filter isNext =
        (table.rows.filter isKept).filter (userFollows backend last) := by
      rw [List.filter_filter]
      exact List.filter_congr fun row _ => by rw [next_eq row, Bool.and_comm]
    rw [isPage, found, ← filter_ranked]
    refine response_shows cursors (usersPager cursors formats backend isKept table query) rfl rfl ?_
    simp only [usersPager, countIf, filter_ranked, (ranked_perm _ _).length_eq]

theorem supported_iff :
    (filter.role.isSome || filter.searchTerm.isSome) = false ↔
      filter.role = none ∧ filter.searchTerm = none := by
  rw [Bool.or_eq_false_iff, Option.isSome_eq_false_iff, Option.isSome_eq_false_iff,
    Option.isNone_iff_eq_none, Option.isNone_iff_eq_none]

omit [LinearOrder Id] in
theorem matching_of_supported
    (supported : (filter.role.isSome || filter.searchTerm.isSome) = false) (row : UserRow Id) :
    filter.matching searches row = filter.ofColumns row := by
  obtain ⟨noRole, noTerm⟩ := supported_iff.mp supported
  simp [UsersFilter.matching, noRole, noTerm]

theorem pageEnds_never {limit : Nat} (positive : 0 < limit) {rows : List Row} :
    PageEnds limit rows (fun _ _ => False) ↔ rows.length ≤ limit := by
  constructor
  · intro ends
    by_contra longer
    obtain ⟨front, last, rest, isRows, full, left, _⟩ :=
      CursorPages.exists_page positive (not_le.mp longer)
    obtain ⟨row, isRow⟩ := List.exists_mem_of_ne_nil rest left
    exact (ends front last rest isRows ⟨1, by omega⟩ left row (by simp [isRows, isRow])).mpr isRow
  · intro fits before last rest isRows full left
    have page := Nat.le_of_dvd (Nat.succ_pos _) full
    have some := List.length_pos_iff.mpr left
    rw [isRows, List.length_append, List.length_cons] at fits
    omega

theorem userWhere_supported (backend : Backend)
    (supported : (filter.role.isSome || filter.searchTerm.isSome) = false) :
    userWhere formats backend filter [] = some (filter.matching searches) := by
  obtain ⟨noRole, noTerm⟩ := supported_iff.mp supported
  have sameRows : filter.matching searches = filter.ofColumns :=
    funext (matching_of_supported searches supported)
  rw [sameRows]
  cases backend with
  | mongoose | prisma => simp [userWhere, noRole, noTerm]

theorem unsupported_mongoose {table : UserTable Id} {query : UsersQuery Cursor}
    (unsupported : ((usersFilter query).role.isSome ||
      (usersFilter query).searchTerm.isSome) = true) (rows : List (UserRow Id)) :
    Enumerates (usersPages cursors formats .mongoose table query) rows
      (countIf query.include_count rows) ↔ rows = [] := by
  have noneKept : userWhere formats .mongoose (usersFilter query) [] = some fun _ => false := by
    rcases Bool.or_eq_true_iff.mp unsupported with role | term
    · obtain ⟨value, isRole⟩ := Option.isSome_iff_exists.mp role
      simp [userWhere, isRole]
    · obtain ⟨value, isTerm⟩ := Option.isSome_iff_exists.mp term
      simp [userWhere, isTerm]
  have serves := usersPages_serve cursors formats table query noneKept
  have positive : 0 < parseLimit query.limit := (parseLimit_bounds query.limit).1
  have isEmpty : (usersPager cursors formats .mongoose (fun _ => false) table query).rows = [] := by
    simp [usersPager, ranked]
  constructor
  · rintro ⟨fuel, pages, followed, complete, _⟩
    have subset := CursorPages.followed_subset serves positive (List.Subset.refl _)
      (fun last isLast => by rw [isEmpty] at isLast; cases isLast)
      (userFollows_trans .mongoose) serves.first followed
    rw [isEmpty] at subset
    exact List.eq_nil_of_subset_nil (fun row isRow => subset (complete.symm.subset isRow))
  · rintro rfl
    refine (enumerates_counted_iff serves positive (by rw [isEmpty]; exact List.nodup_nil)
      (userFollows_trans .mongoose) rfl (by rw [isEmpty])).mpr ⟨fun _ => Nat.zero_le _, ?_⟩
    intro before last rest isRows
    rw [isEmpty] at isRows
    simp at isRows

theorem users_enumerate_iff (backend : Backend) (table : UserTable Id) (query : UsersQuery Cursor) :
    Enumerates (usersPages cursors formats backend table query)
        (matchingUsers searches table query)
        (countIf query.include_count (matchingUsers searches table query)) ↔
      UsersFit searches backend table query := by
  have positive : 0 < parseLimit query.limit := (parseLimit_bounds query.limit).1
  have nodup : table.rows.Nodup := .of_map _ table.distinct
  simp only [UsersFit]
  cases supported : (usersFilter query).role.isSome || (usersFilter query).searchTerm.isSome with
  | true =>
    cases backend with
    | mongoose =>
      simp only [if_true]
      exact unsupported_mongoose cursors formats supported _
    | prisma =>
      refine iff_of_false (not_enumerates ?_ _ _) (fun fit => Bool.noConfusion fit.1)
      have refused : userWhere formats .prisma
          (usersFilter { query with after := (none : Option Cursor) }) [] = none := by
        exact if_pos supported
      simp only [usersPages, listUsers, buildCursorQuery, bind, Except.bind, refused,
        Except.toOption]
  | false =>
    have serves := usersPages_serve cursors formats table query
      (userWhere_supported formats searches backend supported)
    have counted := enumerates_counted_iff serves positive
      (ranked_nodup newestFirst nodup ((usersFilter query).matching searches))
      (userFollows_trans backend) rfl (ranked_perm newestFirst _)
    rw [matchingUsers, counted]
    cases backend with
    | mongoose =>
      simp only [Bool.false_eq_true, if_false, usersPager, userFollows]
      rw [pageEnds_never positive, (ranked_perm _ _).length_eq]
      exact ⟨And.right, fun fits => ⟨fun _ => fits, fits⟩⟩
    | prisma =>
      simp only [usersPager, userFollows, decide_eq_true_eq, true_and]

end Users

section Tenants

variable (cursors : Cursors Cursor) (formats : Formats Id)

def tenantsPages (table : TenantTable Id) (query : TenantsQuery Cursor) (cursor : Option Cursor) :
    Option (Page (TenantRow Id) Cursor) :=
  (listTenants cursors formats table { query with after := cursor }).toOption

def matchingTenants (table : TenantTable Id) (query : TenantsQuery Cursor) : List (TenantRow Id) :=
  table.rows.filter (ofStatus (parseStatus query.status))

def slugKey (tenant : TenantRow Id) : List Nat := collationKey tenant.slug

def tenantsPager (table : TenantTable Id) (query : TenantsQuery Cursor) :
    Pager (TenantRow Id) Cursor where
  rows := ranked slugKey (matchingTenants table query)
  limit := parseLimit query.limit
  cursorOf tenant := cursors.encodeCursor
    (cursorFields "slug" (·.slug) (fun tenant => formats.idText tenant.id) tenant)
  follows last tenant := localeCompare tenant.slug last.slug = .gt
  total _ := countIf query.include_count (matchingTenants table query)

theorem weight_injective : Function.Injective weight := by
  intro first second same
  have isUnderscore : ∀ letter : Char, letter = '_' ↔ letter.toNat = 95 :=
    fun letter => Char.toNat_inj.symm
  have isHyphen : ∀ letter : Char, letter = '-' ↔ letter.toNat = 45 :=
    fun letter => Char.toNat_inj.symm
  have ranges : '0'.toNat = 48 ∧ '9'.toNat = 57 ∧ 'a'.toNat = 97 ∧ 'z'.toNat = 122 := by decide
  simp only [weight, isUnderscore, isHyphen, ranges.1, ranges.2.1, ranges.2.2.1, ranges.2.2.2]
    at same
  apply Char.toNat_inj.mp
  generalize first.toNat = one at *
  generalize second.toNat = two at *
  split at same <;> split at same <;> try omega
  all_goals grind

theorem collationKey_injective : Function.Injective collationKey := by
  intro first second same
  exact String.toList_injective (List.map_injective_iff.mpr weight_injective same)

omit [LinearOrder Id] in
theorem localeCompare_gt_iff (first second : String) :
    localeCompare first second = .gt ↔ collationKey second < collationKey first := by
  unfold localeCompare
  split
  next before =>
    refine iff_of_false (by simp) ?_
    exact not_lt_of_gt before
  · split
    next after => exact iff_of_true rfl after
    next notAfter => exact iff_of_false (by simp) notAfter

theorem pageEnds_of_sorted {Key : Type} [LinearOrder Key] (key : Row → Key) {rows : List Row}
    (sorted : rows.Pairwise fun first second => key first < key second) (limit : Nat) :
    PageEnds limit rows fun last row => key last < key row := by
  intro before last rest isRows _ _ row isRow
  rw [isRows] at sorted isRow
  obtain ⟨_, sortedRest, beforeRest⟩ := List.pairwise_append.mp sorted
  have afterLast := (List.pairwise_cons.mp sortedRest).1
  constructor
  · intro after
    rcases List.mem_append.mp isRow with earlier | later
    · exact absurd after (not_lt_of_gt (beforeRest row earlier last List.mem_cons_self))
    · rcases List.mem_cons.mp later with rfl | inRest
      · exact absurd after (lt_irrefl _)
      · exact inRest
  · intro inRest
    exact afterLast row inRest

omit [LinearOrder Id] in
theorem tenantsPages_serve (table : TenantTable Id) (query : TenantsQuery Cursor) :
    (tenantsPager cursors formats table query).Serves (tenantsPages cursors formats table query) := by
  constructor
  · have isPage : tenantsPages cursors formats table query none = some
        (buildCursorResponse cursors
          ((ranked slugKey (matchingTenants table query)).take (parseLimit query.limit + 1))
          (parseLimit query.limit) "slug" (·.slug) (fun tenant => formats.idText tenant.id)
          (if query.include_count then
            some (ranked slugKey (matchingTenants table query)).length else none)) := by
      have all : ∀ tenants : List (TenantRow Id), tenants.filter (fun _ => true) = tenants :=
        fun tenants => List.filter_eq_self.mpr fun _ _ => rfl
      simp only [tenantsPages, listTenants, buildCursorQuery, bind, Except.bind, Except.toOption,
        List.filter_nil, List.all_nil, all]
      rfl
    rw [isPage]
    refine response_shows cursors (tenantsPager cursors formats table query) rfl rfl ?_
    simp only [tenantsPager, countIf, (ranked_perm _ _).length_eq]
  · intro last _
    have isPage : tenantsPages cursors formats table query
        (some ((tenantsPager cursors formats table query).cursorOf last)) = some
        (buildCursorResponse cursors
          (((ranked slugKey (matchingTenants table query)).filter fun tenant =>
            localeCompare tenant.slug last.slug = .gt).take (parseLimit query.limit + 1))
          (parseLimit query.limit) "slug" (·.slug) (fun tenant => formats.idText tenant.id)
          (if query.include_count then
            some (ranked slugKey (matchingTenants table query)).length else none)) := by
      have isQuery := cursorQuery_field cursors "slug" (by decide)
        (fun tenant : TenantRow Id => tenant.slug) (fun tenant => formats.idText tenant.id) .gt last
      simp only [tenantsPages, listTenants, tenantsPager, isQuery, bind, Except.bind,
        Except.toOption]
      simp
      rfl
    rw [isPage]
    refine response_shows cursors (tenantsPager cursors formats table query) rfl rfl ?_
    simp only [tenantsPager, countIf, (ranked_perm _ _).length_eq]

omit [LinearOrder Id] in
theorem tenants_enumerate (table : TenantTable Id) (query : TenantsQuery Cursor) :
    Enumerates (tenantsPages cursors formats table query) (matchingTenants table query)
      (countIf query.include_count (matchingTenants table query)) := by
  have serves := tenantsPages_serve cursors formats table query
  have distinct : ((matchingTenants table query).map slugKey).Nodup := by
    have slugs : ((matchingTenants table query).map TenantRow.slug).Nodup :=
      (List.filter_sublist.map _).nodup table.distinct
    have keys := slugs.map collationKey_injective
    rwa [List.map_map] at keys
  have sorted : (ranked slugKey (matchingTenants table query)).Pairwise fun first second =>
      slugKey first < slugKey second := by
    have different : (ranked slugKey (matchingTenants table query)).Pairwise fun first second =>
        slugKey first ≠ slugKey second :=
      List.pairwise_map.mp (((ranked_perm slugKey _).map slugKey).nodup_iff.mpr distinct)
    refine ((ranked_sorted slugKey _).and different).imp ?_
    intro first second ordered
    exact lt_of_le_of_ne ordered.1 ordered.2
  have nodup : (ranked slugKey (matchingTenants table query)).Nodup :=
    sorted.imp fun before same => absurd (same ▸ before) (lt_irrefl _)
  have transitive : ∀ first second third : TenantRow Id,
      (tenantsPager cursors formats table query).follows first second = true →
        (tenantsPager cursors formats table query).follows second third = true →
          (tenantsPager cursors formats table query).follows first third = true := by
    intro first second third before after
    simp only [tenantsPager, decide_eq_true_eq, localeCompare_gt_iff] at *
    exact lt_trans before after
  refine (enumerates_congr (ranked_perm slugKey _) _).mp ?_
  refine (serves.enumerates_iff (parseLimit_bounds query.limit).1 nodup transitive _).mpr ⟨?_, ?_⟩
  · refine (endsAt_iff nodup).mpr ?_
    simp only [tenantsPager, decide_eq_true_eq, localeCompare_gt_iff]
    exact pageEnds_of_sorted slugKey sorted _
  · intro before rest _ _ _
    rfl

end Tenants

section Activities

variable (cursors : Cursors Cursor) (formats : Formats Id)

def activitiesPages (users : List String) (table : ActivityTable Id) (userId path : String)
    (query : PaginationQuery Cursor) (cursor : Option Cursor) :
    Option (Page (ActivityRow Id) Cursor) :=
  (listActivities cursors formats users table userId path
    { query with after := cursor }).toOption

def activitiesOf (table : ActivityTable Id) (userId : String) : List (ActivityRow Id) :=
  table.rows.filter fun row => row.actorUserId == some userId

def cursorAfter (last : ActivityRow Id) : ActivityCursor Id :=
  ⟨last.timestamp / 1000 * 1000, last.id⟩

/-- All activities are on one page, or no count is asked for, and those after a page are before
the second of its last one, or at its start and with a smaller id. -/
def ActivitiesFit (users : List String) (table : ActivityTable Id) (userId : String)
    (query : PaginationQuery Cursor) : Prop :=
  let activities := activitiesOf table userId
  let limit := parseLimit query.limit
  userId ∈ users ∧ (query.include_count = true → activities.length ≤ limit) ∧
    ∀ before last rest, ranked latestFirst activities = before ++ last :: rest →
      limit ∣ before.length + 1 → ∀ row ∈ rest, (cursorAfter last).isBefore row = true

def activitiesPager (table : ActivityTable Id) (userId : String) (query : PaginationQuery Cursor) :
    Pager (ActivityRow Id) Cursor where
  rows := ranked latestFirst (activitiesOf table userId)
  limit := parseLimit query.limit
  cursorOf row := cursors.encodeCursor (cursorFields "timestamp"
    (fun row => formats.dateText row.timestamp) (fun row => formats.idText row.id) row)
  follows last row := (cursorAfter last).isBefore row
  total := countIf query.include_count

theorem isBefore_iff {cursor : ActivityCursor Id} {row : ActivityRow Id} :
    cursor.isBefore row = true ↔ row.timestamp < cursor.timestamp ∨
      (row.timestamp = cursor.timestamp ∧ row.id < cursor.id) := by
  simp [ActivityCursor.isBefore]

theorem cursorAfter_trans (first second third : ActivityRow Id)
    (before : (cursorAfter first).isBefore second = true)
    (after : (cursorAfter second).isBefore third = true) :
    (cursorAfter first).isBefore third = true := by
  rw [isBefore_iff] at *
  have floor : (cursorAfter second).timestamp ≤ second.timestamp := Nat.div_mul_le_self _ _
  rcases after with earlier | ⟨same, smaller⟩
  · left
    omega
  · rcases before with beforeFirst | ⟨sameFirst, smallerFirst⟩
    · left
      omega
    · by_cases exactly : (cursorAfter second).timestamp = second.timestamp
      · exact .inr ⟨by omega, lt_trans smaller smallerFirst⟩
      · left
        omega

theorem latestFirst_le_iff {first second : ActivityRow Id} :
    latestFirst first ≤ latestFirst second ↔ second.timestamp < first.timestamp ∨
      (second.timestamp = first.timestamp ∧ second.id ≤ first.id) := by
  rw [latestFirst, latestFirst, OrderDual.toDual_le_toDual, Prod.Lex.toLex_le_toLex]

theorem activity_pageEnds_iff {limit : Nat} {rows : List (ActivityRow Id)}
    (sorted : rows.Pairwise fun first second => latestFirst first ≤ latestFirst second) :
    PageEnds limit rows (fun last row => (cursorAfter last).isBefore row = true) ↔
      ∀ before last rest, rows = before ++ last :: rest → limit ∣ before.length + 1 →
        ∀ row ∈ rest, (cursorAfter last).isBefore row = true := by
  constructor
  · intro ends before last rest isRows full row isRow
    exact (ends before last rest isRows full (List.ne_nil_of_mem isRow) row
      (by simp [isRows, isRow])).mpr isRow
  · intro later before last rest isRows full _ row isRow
    refine ⟨?_, later before last rest isRows full row⟩
    intro isBefore
    rw [isRows] at sorted isRow
    have notEarlier : ¬latestFirst row ≤ latestFirst last := by
      rw [latestFirst_le_iff]
      rw [isBefore_iff] at isBefore
      have floor : (cursorAfter last).timestamp ≤ last.timestamp := Nat.div_mul_le_self _ _
      rintro (after | ⟨same, notSmaller⟩)
      · omega
      · rcases isBefore with earlier | ⟨_, smaller⟩
        · omega
        · exact absurd smaller (not_lt_of_ge notSmaller)
    rcases List.mem_append.mp isRow with earlier | atOrAfter
    · exact absurd ((List.pairwise_append.mp sorted).2.2 row earlier last List.mem_cons_self)
        notEarlier
    · rcases List.mem_cons.mp atOrAfter with rfl | inRest
      · exact absurd (le_refl _) notEarlier
      · exact inRest

theorem activitiesPages_serve {users : List String} {userId : String} (known : userId ∈ users)
    (table : ActivityTable Id) (path : String) (query : PaginationQuery Cursor) :
    (activitiesPager cursors formats table userId query).Serves
      (activitiesPages cursors formats users table userId path query) := by
  constructor
  · have isPage : activitiesPages cursors formats users table userId path query none = some
        (buildCursorResponse cursors
          ((ranked latestFirst (activitiesOf table userId)).take (parseLimit query.limit + 1))
          (parseLimit query.limit) "timestamp" (fun row => formats.dateText row.timestamp)
          (fun row => formats.idText row.id)
          (if query.include_count then some (activitiesOf table userId).length else none)) := by
      simp [activitiesPages, listActivities, buildCursorQuery, activityCursor, activitiesOf,
        known, bind, Except.bind, Except.toOption]
    rw [isPage]
    refine response_shows cursors (activitiesPager cursors formats table userId query) rfl rfl ?_
    simp only [activitiesPager, countIf, (ranked_perm _ _).length_eq]
  · intro last _
    have isQuery := cursorQuery_field cursors "timestamp" (by decide)
      (fun row : ActivityRow Id => formats.dateText row.timestamp)
      (fun row => formats.idText row.id) .lt last
    have isPage : activitiesPages cursors formats users table userId path query
        (some ((activitiesPager cursors formats table userId query).cursorOf last)) = some
        (buildCursorResponse cursors
          ((ranked latestFirst ((activitiesOf table userId).filter
            (cursorAfter last).isBefore)).take (parseLimit query.limit + 1))
          (parseLimit query.limit) "timestamp" (fun row => formats.dateText row.timestamp)
          (fun row => formats.idText row.id)
          (if query.include_count then
            some ((activitiesOf table userId).filter (cursorAfter last).isBefore).length
          else none)) := by
      simp [activitiesPages, listActivities, activitiesPager, isQuery, activityCursor,
        activitiesOf, cursorAfter, formats.parse_text, formats.cast_text, known, bind, Except.bind,
        Except.toOption, List.filter_filter, Bool.and_comm]
    rw [isPage, ← filter_ranked]
    refine response_shows cursors (activitiesPager cursors formats table userId query) rfl rfl ?_
    simp only [activitiesPager, countIf, filter_ranked, (ranked_perm _ _).length_eq]

theorem activities_enumerate_iff (users : List String) (table : ActivityTable Id)
    (userId path : String) (query : PaginationQuery Cursor) :
    Enumerates (activitiesPages cursors formats users table userId path query)
        (activitiesOf table userId) (countIf query.include_count (activitiesOf table userId)) ↔
      ActivitiesFit users table userId query := by
  by_cases known : userId ∈ users
  · have serves := activitiesPages_serve cursors formats known table path query
    have nodup : table.rows.Nodup := .of_map _ table.distinct
    have counted := enumerates_counted_iff serves (parseLimit_bounds query.limit).1
      (ranked_nodup latestFirst nodup fun row => row.actorUserId == some userId)
      cursorAfter_trans rfl (ranked_perm latestFirst _)
    rw [counted]
    simp only [activitiesPager, ActivitiesFit, known, true_and]
    rw [activity_pageEnds_iff (ranked_sorted latestFirst _)]
  · refine iff_of_false (not_enumerates ?_ _ _) fun fit => known fit.1
    simp [activitiesPages, listActivities, known, bind, Except.bind, throw, throwThe,
      MonadExceptOf.throw, Except.toOption]

end Activities

/-- Following the cursors of a list shows every matching record once, and on every page how many
they are: always for tenants, and for users and activities exactly where they fit. -/
theorem lists_enumerate_iff (cursors : Cursors Cursor) (formats : Formats Id) :
    (∀ searches backend (table : UserTable Id) (query : UsersQuery Cursor),
      Enumerates (usersPages cursors formats backend table query)
          (matchingUsers searches table query)
          (countIf query.include_count (matchingUsers searches table query)) ↔
        UsersFit searches backend table query) ∧
    (∀ (table : TenantTable Id) (query : TenantsQuery Cursor),
      Enumerates (tenantsPages cursors formats table query) (matchingTenants table query)
        (countIf query.include_count (matchingTenants table query))) ∧
    ∀ users (table : ActivityTable Id) userId path (query : PaginationQuery Cursor),
      Enumerates (activitiesPages cursors formats users table userId path query)
          (activitiesOf table userId) (countIf query.include_count (activitiesOf table userId)) ↔
        ActivitiesFit users table userId query :=
  ⟨users_enumerate_iff cursors formats, tenants_enumerate cursors formats,
    activities_enumerate_iff cursors formats⟩

def plainCursors : Cursors CursorFields where
  encodeCursor fields := fields
  parse fields := .object (fields.map fun field => (field.1, some field.2))
  parse_encode _ := rfl

def newYear : String := "Wed Jan 01 2025 00:00:00 GMT+0000 (Coordinated Universal Time)"

/-- Right for the first second of 2025; for others a stand-in that has no milliseconds either. -/
def plainFormats : Formats String where
  idText id := id
  castId text := text
  cast_text _ := rfl
  dateText time :=
    if time / 1000 = 1735689600 then newYear
    else String.ofList (List.replicate (time / 1000) 'x')
  parseDate text := if text = newYear then some 1735689600000 else some (text.length * 1000)
  parse_text time := by
    by_cases isNewYear : time / 1000 = 1735689600
    · simp [isNewYear]
    · have different : String.ofList (List.replicate (time / 1000) 'x') ≠ newYear := by
        intro same
        have letters : 'W' ∈ (String.ofList (List.replicate (time / 1000) 'x')).toList := by
          rw [same]
          decide
        rw [String.toList_ofList] at letters
        exact absurd (List.eq_of_mem_replicate letters) (by decide)
      simp [isNewYear, different]

def sameSecond : ActivityTable String where
  rows := [⟨"b", 1735689600900, some "ada"⟩, ⟨"a", 1735689600500, some "ada"⟩]
  distinct := by decide

def onePerPage : PaginationQuery CursorFields := ⟨some 1, none, false⟩

def twoUsers : UserTable String where
  rows := [⟨"1", 1, true, [], none, none, none, none⟩, ⟨"2", 2, true, [], none, none, none, none⟩]
  distinct := by decide

def twoTenants : TenantTable String where
  rows := [⟨"1", "globex", .active⟩, ⟨"2", "acme", .suspended⟩]
  distinct := by decide

example : Enumerates (tenantsPages plainCursors plainFormats twoTenants
    { onePerPage with status := none }) twoTenants.rows none :=
  tenants_enumerate plainCursors plainFormats twoTenants _

theorem records_skipped :
    ¬Enumerates (activitiesPages plainCursors plainFormats ["ada"] sameSecond "ada" "" onePerPage)
        (activitiesOf sameSecond "ada") none ∧
      ¬Enumerates (usersPages plainCursors plainFormats .mongoose twoUsers
          { onePerPage with account_enabled := none, role := none, auth_provider := none, q := none })
        twoUsers.rows none := by
  constructor
  · intro enumerates
    have fit := (activities_enumerate_iff plainCursors plainFormats ["ada"] sameSecond "ada" ""
      onePerPage).mp enumerates
    have isSorted : ranked latestFirst (activitiesOf sameSecond "ada") = sameSecond.rows :=
      ranked_of_sorted latestFirst (by decide +kernel)
    have after := fit.2.2 [] ⟨"b", 1735689600900, some "ada"⟩ [⟨"a", 1735689600500, some "ada"⟩]
      isSorted (by decide +kernel) _ List.mem_cons_self
    revert after
    decide +kernel
  · intro enumerates
    have fit := (users_enumerate_iff plainCursors plainFormats (fun _ _ => true) .mongoose twoUsers
      { onePerPage with account_enabled := none, role := none, auth_provider := none, q := none }).mp
      enumerates
    revert fit
    simp only [UsersFit]
    decide +kernel

end ParakoId.ManagementApi
