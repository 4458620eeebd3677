import ParakoId.Library.Ranking
import ParakoId.SettingsVersions.Saves

/-!
Whether a key still has a configuration once saves of it have failed or were cut off, and once old
versions were cleaned up.
-/

namespace ParakoId.SettingsVersions

open Interleavings (Machine Shared Event Invariant Keeps OnTurns)
open Runs (AlwaysFrom AllowedFrom)

/-- The rows of a key with the greatest versions first; of equal ones, in the order of the
database. -/
structure HistoryOrder (Content : Type) where
  sort : List (VersionRow Content) → List (VersionRow Content)
  perm : ∀ rows, (sort rows).Perm rows
  descending : ∀ rows,
    (sort rows).Pairwise fun first second => second.int_version ≤ first.int_version

inductive CleanupCall
  | notStarted
  | findHistory (keepCount : Nat)
  | deleting (ids : List Nat)
  | ended

inductive CleanupInput
  | start (keepCount : Nat)
  | resolve
  | reject

structure ServedTable (Content : Type) where
  table : VersionTable Content
  claims : Nat
  deleted : List (VersionRow Content)

inductive ServiceCall (Content : Type)
  | save (call : SaveCall Content) (claim : Option Nat)
  | cleanup (call : CleanupCall)

/-- An operation that is lost takes effect, and the save does not get to know it. -/
inductive ServiceInput (Content : Type)
  | save (input : SaveInput Content)
  | lost
  | cleanup (input : CleanupInput)

variable {Content : Type}

def findHistory (backend : Backend) (order : HistoryOrder Content) (key : String)
    (table : VersionTable Content) : List (VersionRow Content) :=
  match backend with
  | .prisma => order.sort (table.ofKey key)
  | .mongoose => (order.sort (table.ofKey key)).take 20

def idsToDelete (keepCount : Nat) (allVersions : List (VersionRow Content)) : List Nat :=
  if allVersions.length ≤ keepCount then []
  else (allVersions.drop keepCount).map VersionRow.id

def cleanupTurn (backend : Backend) (order : HistoryOrder Content) (key : String)
    (served : ServedTable Content) : CleanupCall → CleanupInput →
      ServedTable Content × CleanupCall
  | .notStarted, .start keepCount => (served, .findHistory keepCount)
  | .findHistory keepCount, .resolve =>
    (served, .deleting (idsToDelete keepCount (findHistory backend order key served.table)))
  | .findHistory _, .reject => (served, .ended)
  | .deleting [], _ => (served, .ended)
  | .deleting (id :: rest), .resolve =>
    ({ served with
        table := served.table.delete id
        deleted := served.table.rows.filter (fun row => row.id == id) ++ served.deleted },
      .deleting rest)
  -- what cannot be deleted is logged only
  | .deleting (_ :: rest), .reject => (served, .deleting rest)
  | call, _ => (served, call)

def claimsRow (key : String) (table : VersionTable Content) : SaveCall Content → Bool
  | .deactivate request _ => !(table.claimed key request.expectedVersion).isEmpty
  | _ => false

section Turns

variable (repository : Repository) (firstRow : Tables.FirstRow (VersionRow Content))
  (order : HistoryOrder Content) (key : String)

@[grind =]
def serviceTurn (served : ServedTable Content) :
    ServiceCall Content → ServiceInput Content → ServedTable Content × ServiceCall Content
  | .save call claim, .save input =>
    let next := saveTurn repository firstRow key served.table call input
    match claimsRow key served.table call, input with
    | true, .resolve =>
      ({ served with table := next.1, claims := served.claims + 1 },
        .save next.2 (some (served.claims + 1)))
    | _, _ => ({ served with table := next.1 }, .save next.2 claim)
  | .save (.notStarted read) claim, .lost => (served, .save (.notStarted read) claim)
  | .save (.succeeded request claimed) claim, .lost =>
    (served, .save (.succeeded request claimed) claim)
  | .save call claim, .lost =>
    let next := saveTurn repository firstRow key served.table call .resolve
    if claimsRow key served.table call then
      ({ served with table := next.1, claims := served.claims + 1 },
        .save .failed (some (served.claims + 1)))
    else ({ served with table := next.1 }, .save .failed claim)
  | .cleanup call, .cleanup input =>
    let next := cleanupTurn repository.backend order key served call input
    (next.1, .cleanup next.2)
  | call, _ => (served, call)

def serviceMachine : Machine (ServedTable Content) (ServiceCall Content) (ServiceInput Content)
    Empty where
  turn := serviceTurn repository firstRow order key
  outside served _ := served

end Turns

def OwnGap (key : String) (served : ServedTable Content) (claim : Option Nat) : Prop :=
  claim = some served.claims ∧ served.table.findActive key = none

def SaveCall.isEnded : SaveCall Content → Bool
  | .succeeded _ _ | .failed => true
  | _ => false

def SaveCall.isOn : SaveCall Content → Bool
  | .deactivate _ _ | .findLatest _ _ _ | .create _ _ _ _ _ => true
  | _ => false

def LeavesNoGap (key : String) (served : ServedTable Content) : ServiceCall Content → Prop
  | .save call claim => call.isEnded = true → ¬OwnGap key served claim
  | .cleanup _ => True

/-- No save that is over has left the key without a configuration, what `findActive` returns was
active at the start or comes from a save, and no clean-up has deleted an active row. -/
structure KeepsConfiguration (key : String) (start : VersionTable Content)
    (state : Shared (ServedTable Content) (ServiceCall Content)) : Prop where
  noGapLeft : ∀ id, LeavesNoGap key state.store (state.calls id)
  found : ∀ row, state.store.table.findActive key = some row →
    row ∈ start.rows ∨ start.created ≤ row.id
  spared : ∀ row ∈ state.store.deleted, row.is_active = false

def EndsOutsideGap (key : String) (served : ServedTable Content) :
    ServiceCall Content → ServiceInput Content → Prop
  | .save (.deactivate request _) claim, .lost =>
    served.table.claimed key request.expectedVersion = [] ∧ ¬OwnGap key served claim
  | .save (.findLatest request _ claimed) claim, .save .resolve =>
    request.expectedVersion.isSome = true → claimed = [] → ¬OwnGap key served claim
  | .save (.deactivate _ _) claim, .save .reject
  | .save (.findLatest _ _ _) claim, .save .reject
  | .save (.findLatest _ _ _) claim, .lost
  | .save (.create _ _ _ _ _) claim, .save .reject => ¬OwnGap key served claim
  | _, _ => True

/-- The active row of the key is among the newest ones, as many as a clean-up that lists the rows
now is to keep. -/
def KeepsActive (key : String) (served : ServedTable Content) :
    ServiceCall Content → ServiceInput Content → Prop
  | .cleanup (.findHistory keepCount), .cleanup .resolve =>
    ∀ row ∈ served.table.ofKey key, row.is_active = true →
      (served.table.ofKey key).countP (fun other => row.int_version ≤ other.int_version) ≤ keepCount
  | _, _ => True

/-- What a clean-up has listed is inactive, and stays so. -/
def ListsInactive (served : ServedTable Content) : ServiceCall Content → Prop
  | .cleanup (.deleting ids) => ∀ id ∈ ids, id < served.table.created ∧
      ∀ row ∈ served.table.rows, row.id = id → row.is_active = false
  | _ => True

def KnownClaim (served : ServedTable Content) (call : ServiceCall Content) : Prop :=
  ∀ saved claim, call = .save saved (some claim) → claim ≤ served.claims

/-- Rows from the start keep all but their activity, and none becomes active again; a save knows
no later claim than the last. -/
structure FromStart (start : VersionTable Content)
    (state : Shared (ServedTable Content) (ServiceCall Content)) : Prop where
  rows : ∀ row ∈ state.store.table.rows, row.is_active = true →
    row ∈ start.rows ∨ start.created ≤ row.id
  created : start.created ≤ state.store.table.created
  claims : ∀ id, KnownClaim state.store (state.calls id)

def Traced (start : VersionTable Content)
    (state : Shared (ServedTable Content) (ServiceCall Content)) : Prop :=
  FromStart start state ∧ ∀ id, ListsInactive state.store (state.calls id)

section Changes

variable {key : String} {start : VersionTable Content}
  {state : Shared (ServedTable Content) (ServiceCall Content)}

variable {table : VersionTable Content}

theorem findActive_deactivate {matching : VersionRow Content → Bool}
    (takesAll : ∀ row ∈ table.rows, row.key = key → row.is_active = true → matching row = true) :
    (table.deactivate matching).findActive key = none := by
  rw [VersionTable.findActive_none]
  intro row member rowKey
  obtain ⟨old, isOld, rfl⟩ := VersionTable.mem_deactivate.mp member
  rw [VersionTable.retireIf_key] at rowKey
  rw [VersionTable.retireIf]
  split
  · rfl
  · rename_i unmatched
    by_contra isActive
    rw [Bool.not_eq_false] at isActive
    exact unmatched (takesAll old isOld rowKey isActive)

theorem findActive_create? {next : VersionTable Content} {int_version : Int} {value : Content}
    (isCreated : table.create? key int_version value = some next) :
    next.findActive key ≠ none := by
  intro none
  rw [VersionTable.findActive_none] at none
  have added := none ⟨table.created, key, int_version, true, value⟩
    (by simp [(VersionTable.create?_some isCreated).2.2]) rfl
  cases added

theorem findActive_delete {id : Nat}
    (inactive : ∀ row ∈ table.rows, row.id = id → row.is_active = false) :
    (table.delete id).findActive key = none ↔ table.findActive key = none := by
  rw [VersionTable.findActive_none, VersionTable.findActive_none]
  constructor
  · intro none row member rowKey
    by_cases same : row.id = id
    · exact inactive row member same
    · exact none row (VersionTable.mem_delete.mpr ⟨member, same⟩) rowKey
  · intro none row member rowKey
    exact none row (VersionTable.mem_delete.mp member).1 rowKey

theorem claimed_takes_all {expectedVersion : Option Int} {previous : VersionRow Content}
    (isClaimed : previous ∈ table.claimed key expectedVersion) :
    ∀ row ∈ table.rows, row.key = key → row.is_active = true → previous = row := by
  obtain ⟨member, previousKey, wasActive, _⟩ := VersionTable.mem_claimed.mp isClaimed
  intro row isRow rowKey isActive
  exact VersionTable.active_eq member isRow wasActive isActive (previousKey.trans rowKey.symm)

theorem findHistory_rest {backend : Backend} {order : HistoryOrder Content} {keepCount : Nat}
    {row : VersionRow Content}
    (member : row ∈ (findHistory backend order key table).drop keepCount) :
    row ∈ (order.sort (table.ofKey key)).drop keepCount := by
  cases backend with
  | prisma => exact member
  | mongoose =>
    rw [findHistory, List.drop_take] at member
    exact List.mem_of_mem_take member

theorem kept_not_listed (backend : Backend) (order : HistoryOrder Content) {keepCount : Nat}
    {row : VersionRow Content} (isRow : row ∈ table.ofKey key)
    (newest : (table.ofKey key).countP (fun other => row.int_version ≤ other.int_version) ≤
      keepCount) : row.id ∉ idsToDelete keepCount (findHistory backend order key table) := by
  intro isListed
  rw [idsToDelete] at isListed
  split at isListed
  · cases isListed
  · obtain ⟨listed, isRest, sameId⟩ := List.mem_map.mp isListed
    have isLate := findHistory_rest isRest
    have perm := order.perm (table.ofKey key)
    have isStored := VersionTable.mem_ofKey.mp (perm.mem_iff.mp (List.mem_of_mem_drop isLate))
    have same : listed = row :=
      VersionTable.eq_of_id isStored.1 (VersionTable.mem_ofKey.mp isRow).1 sameId
    rw [same] at isLate
    have newer := Ranking.lt_countP_of_mem_drop VersionRow.int_version
      (order.descending (table.ofKey key)) isLate
    rw [perm.countP_eq] at newer
    omega

theorem listed_inactive (backend : Backend) (order : HistoryOrder Content) {keepCount id : Nat}
    (newest : ∀ row ∈ table.ofKey key, row.is_active = true →
      (table.ofKey key).countP (fun other => row.int_version ≤ other.int_version) ≤ keepCount)
    (isListed : id ∈ idsToDelete keepCount (findHistory backend order key table)) :
    id < table.created ∧ ∀ row ∈ table.rows, row.id = id → row.is_active = false := by
  have isId := isListed
  rw [idsToDelete] at isListed
  split at isListed
  · cases isListed
  · obtain ⟨listed, isRest, rfl⟩ := List.mem_map.mp isListed
    have isStored := (order.perm _).mem_iff.mp (List.mem_of_mem_drop (findHistory_rest isRest))
    have isRow := (VersionTable.mem_ofKey.mp isStored).1
    refine ⟨table.older listed isRow, ?_⟩
    intro row member sameId
    rw [VersionTable.eq_of_id member isRow sameId]
    by_contra isActive
    rw [Bool.not_eq_false] at isActive
    exact kept_not_listed backend order isStored (newest listed isStored isActive) isId

end Changes

inductive ServedChange (key : String) (served : ServedTable Content) :
    ServedTable Content → Prop
  | same : ServedChange key served served
  | taken {matching : VersionRow Content → Bool}
      (takesAll : ∀ row ∈ served.table.rows, row.key = key → row.is_active = true →
        matching row = true) :
      ServedChange key served
        { served with table := served.table.deactivate matching, claims := served.claims + 1 }
  | added {int_version : Int} {value : Content} {next : VersionTable Content}
      (isCreated : served.table.create? key int_version value = some next) :
      ServedChange key served { served with table := next }
  | deleted (id : Nat) :
      ServedChange key served
        { served with
          table := served.table.delete id
          deleted := served.table.rows.filter (fun row => row.id == id) ++ served.deleted }

section Served

variable {key : String} {served next : ServedTable Content}

theorem ServedChange.active_row (change : ServedChange key served next) :
    ∀ row ∈ next.table.rows, row.is_active = true →
      row ∈ served.table.rows ∨ served.table.created ≤ row.id := by
  cases change with
  | same => exact fun row member _ => .inl member
  | @taken matching takesAll =>
    intro row member isActive
    obtain ⟨old, isOld, rfl⟩ := VersionTable.mem_deactivate.mp member
    rw [VersionTable.retireIf] at isActive ⊢
    split at isActive
    · cases isActive
    · rename_i unmatched
      rw [if_neg unmatched]
      exact .inl isOld
  | added isCreated =>
    intro row member _
    simp only [(VersionTable.create?_some isCreated).2.2, List.mem_append,
      List.mem_singleton] at member
    rcases member with isOld | rfl
    · exact .inl isOld
    · exact .inr (Nat.le_refl _)
  | deleted id => exact fun row member _ => .inl (VersionTable.mem_delete.mp member).1

theorem ServedChange.created_le (change : ServedChange key served next) :
    served.table.created ≤ next.table.created := by
  cases change with
  | same | taken _ | deleted _ => exact Nat.le_refl _
  | added isCreated =>
    have created := (VersionTable.create?_some isCreated).2.1
    simp only
    omega

theorem ServedChange.claims_le (change : ServedChange key served next) :
    served.claims ≤ next.claims := by
  cases change with
  | taken takesAll => exact Nat.le_succ _
  | _ => exact Nat.le_refl _

theorem ListsInactive.change {call : ServiceCall Content} (inactive : ListsInactive served call)
    (change : ServedChange key served next) : ListsInactive next call := by
  cases call with
  | save call claim => trivial
  | cleanup call =>
    cases call with
    | deleting ids =>
      intro id isId
      obtain ⟨isOld, inactive⟩ := inactive id isId
      refine ⟨Nat.lt_of_lt_of_le isOld change.created_le, ?_⟩
      intro row member sameId
      cases change with
      | same => exact inactive row member sameId
      | @taken matching takesAll =>
        obtain ⟨old, wasRow, rfl⟩ := VersionTable.mem_deactivate.mp member
        rw [VersionTable.retireIf_id] at sameId
        rw [VersionTable.retireIf]
        split
        · rfl
        · exact inactive old wasRow sameId
      | added isCreated =>
        simp only [(VersionTable.create?_some isCreated).2.2, List.mem_append,
          List.mem_singleton] at member
        rcases member with wasRow | rfl
        · exact inactive row wasRow sameId
        · exact absurd sameId (Nat.ne_of_gt isOld)
      | deleted => exact inactive row (VersionTable.mem_delete.mp member).1 sameId
    | _ => trivial

end Served

section Turns

variable {repository : Repository} {firstRow : Tables.FirstRow (VersionRow Content)}
  {order : HistoryOrder Content} {key : String}

variable {table : VersionTable Content} {call : SaveCall Content} {served : ServedTable Content}
  {claim : Option Nat}

theorem saveTurn_taken (repository : Repository)
    (firstRow : Tables.FirstRow (VersionRow Content)) (claims : claimsRow key table call = true) :
    ∃ matching : VersionRow Content → Bool,
      (∀ row ∈ table.rows, row.key = key → row.is_active = true → matching row = true) ∧
        (saveTurn repository firstRow key table call .resolve).1 = table.deactivate matching := by
  cases call with
  | deactivate request attempt =>
    cases isClaimed : table.claimed key request.expectedVersion with
    | nil => simp [claimsRow, isClaimed] at claims
    | cons previous rest =>
      have member : previous ∈ table.claimed key request.expectedVersion := by
        simp [isClaimed]
      have takesAll := claimed_takes_all member
      simp only [saveTurn, isClaimed]
      cases repository.backend with
      | prisma | mongoose =>
        refine ⟨_, ?_, rfl⟩
        intro row isRow rowKey isActive
        rw [takesAll row isRow rowKey isActive]
        simp
  | _ => cases claims

theorem deactivate_nothing (request : SaveRequest Content) (attempt : Nat)
    (isClaimed : table.claimed key request.expectedVersion = []) :
    (saveTurn repository firstRow key table (.deactivate request attempt) .resolve).1 = table := by
  simp only [saveTurn, isClaimed]
  cases repository.backend with
  | prisma => exact VersionTable.deactivate_of_none (by simp)
  | mongoose => rfl

theorem saveTurn_untaken (input : SaveInput Content)
    (isUntaken : ¬(claimsRow key table call = true ∧ input = .resolve)) :
    (saveTurn repository firstRow key table call input).1 = table ∨
      ∃ int_version value, table.create? key int_version value =
        some (saveTurn repository firstRow key table call input).1 := by
  cases call with
  | deactivate request attempt =>
    cases input with
    | resolve =>
      have isClaimed : table.claimed key request.expectedVersion = [] := by
        simpa [claimsRow] using isUntaken
      exact .inl (deactivate_nothing request attempt isClaimed)
    | _ => exact .inl rfl
  | create request attempt claimed latest seen =>
    cases input with
    | resolve =>
      simp only [saveTurn]
      split
      · rename_i next isCreated
        exact .inr ⟨_, _, isCreated⟩
      · exact .inl rfl
    | _ => exact .inl rfl
  | notStarted _ | findLatest _ _ _ | succeeded _ _ | failed => cases input <;> exact .inl rfl

theorem served_untaken {next : VersionTable Content}
    (untaken : next = served.table ∨
      ∃ int_version value, served.table.create? key int_version value = some next) :
    ServedChange key served { served with table := next } := by
  rcases untaken with rfl | ⟨_, _, isCreated⟩
  · exact .same
  · exact .added isCreated

theorem serviceTurn_taken (claims : claimsRow key served.table call = true) :
    serviceTurn repository firstRow order key served (.save call claim) (.save .resolve) =
      ({ served with
          table := (saveTurn repository firstRow key served.table call .resolve).1
          claims := served.claims + 1 },
        .save (saveTurn repository firstRow key served.table call .resolve).2
          (some (served.claims + 1))) := by
  simp only [serviceTurn, claims]

theorem serviceTurn_untaken {input : SaveInput Content}
    (isUntaken : ¬(claimsRow key served.table call = true ∧ input = .resolve)) :
    serviceTurn repository firstRow order key served (.save call claim) (.save input) =
      ({ served with table := (saveTurn repository firstRow key served.table call input).1 },
        .save (saveTurn repository firstRow key served.table call input).2 claim) := by
  simp only [serviceTurn]
  split
  · rename_i claims
    exact absurd ⟨claims, rfl⟩ isUntaken
  · rfl

theorem serviceTurn_lost (isOn : call.isOn = true) :
    serviceTurn repository firstRow order key served (.save call claim) .lost =
      ((serviceTurn repository firstRow order key served (.save call claim) (.save .resolve)).1,
        .save .failed
          (if claimsRow key served.table call then some (served.claims + 1) else claim)) := by
  by_cases isTaken : claimsRow key served.table call = true
  · rw [serviceTurn_taken isTaken]
    cases call <;> simp_all [serviceTurn, SaveCall.isOn]
  · rw [serviceTurn_untaken (by simp [isTaken])]
    cases call <;> simp_all [serviceTurn, SaveCall.isOn]

theorem serviceTurn_lost_off (isOff : call.isOn = false) :
    serviceTurn repository firstRow order key served (.save call claim) .lost =
      (served, .save call claim) := by
  cases call with
  | deactivate _ _ | findLatest _ _ _ | create _ _ _ _ _ => cases isOff
  | _ => rfl

theorem serviceTurn_save_change (served : ServedTable Content) (call : SaveCall Content)
    (claim : Option Nat) (input : SaveInput Content) :
    ServedChange key served
      (serviceTurn repository firstRow order key served (.save call claim) (.save input)).1 := by
  by_cases isTaken : claimsRow key served.table call = true ∧ input = .resolve
  · obtain ⟨claims, rfl⟩ := isTaken
    obtain ⟨matching, takesAll, same⟩ := saveTurn_taken repository firstRow claims
    rw [serviceTurn_taken claims, same]
    exact .taken takesAll
  · rw [serviceTurn_untaken isTaken]
    exact served_untaken (saveTurn_untaken input isTaken)

theorem serviceTurn_change (served : ServedTable Content) (call : ServiceCall Content)
    (input : ServiceInput Content) :
    ServedChange key served (serviceTurn repository firstRow order key served call input).1 := by
  cases call with
  | save call claim =>
    cases input with
    | save input => exact serviceTurn_save_change served call claim input
    | lost =>
      cases isOn : call.isOn with
      | true =>
        rw [serviceTurn_lost isOn]
        exact serviceTurn_save_change served call claim .resolve
      | false =>
        rw [serviceTurn_lost_off isOn]
        exact .same
    | cleanup input => cases call <;> exact .same
  | cleanup call =>
    cases input with
    | cleanup input =>
      simp only [serviceTurn]
      cases call with
      | deleting ids =>
        cases ids with
        | nil => exact .same
        | cons id rest =>
          cases input with
          | resolve => exact .deleted id
          | _ => exact .same
      | _ => cases input <;> exact .same
    | _ => exact .same

theorem serviceTurn_claim {call : ServiceCall Content} (input : ServiceInput Content)
    (known : KnownClaim served call) :
    KnownClaim (serviceTurn repository firstRow order key served call input).1
      (serviceTurn repository firstRow order key served call input).2 := by
  cases call with
  | save call claim =>
    have kept (next : SaveCall Content) : KnownClaim served (.save next claim) := by
      rintro _ last ⟨⟩
      exact known call last rfl
    cases input with
    | save input =>
      by_cases isTaken : claimsRow key served.table call = true ∧ input = .resolve
      · obtain ⟨claims, rfl⟩ := isTaken
        rw [serviceTurn_taken claims]
        rintro _ _ ⟨⟩
        exact Nat.le_refl _
      · rw [serviceTurn_untaken isTaken]
        exact kept _
    | lost =>
      cases isOn : call.isOn with
      | true =>
        rw [serviceTurn_lost isOn]
        by_cases isTaken : claimsRow key served.table call = true
        · rw [serviceTurn_taken isTaken, if_pos isTaken]
          rintro _ _ ⟨⟩
          exact Nat.le_refl _
        · rw [serviceTurn_untaken (by simp [isTaken]), if_neg isTaken]
          exact kept _
      | false =>
        rw [serviceTurn_lost_off isOn]
        exact kept call
    | cleanup input => cases call <;> exact kept _
  | cleanup call =>
    rintro saved claim isSave
    cases input <;> cases isSave

def TurnsWell (key : String) (next : ServedTable Content × ServiceCall Content) : Prop :=
  LeavesNoGap key next.1 next.2 ∧ ∀ row ∈ next.1.deleted, row.is_active = false

theorem afterLatest_isEnded (request : SaveRequest Content) (attempt : Nat)
    (claimed : List (VersionRow Content)) (latest : Option (VersionRow Content)) (seen : Nat) :
    (afterLatest request attempt claimed latest seen).isEnded = true ↔
      request.expectedVersion.isSome = true ∧ claimed = [] := by
  rw [afterLatest]
  split
  · rename_i conflict
    simpa [SaveCall.isEnded] using conflict
  · rename_i noConflict
    split <;> simpa [SaveCall.isEnded] using noConflict

theorem active_after_create (request : SaveRequest Content) (attempt : Nat)
    (claimed : List (VersionRow Content)) (latest : Option (VersionRow Content)) (seen : Nat) :
    (saveTurn repository firstRow key table (.create request attempt claimed latest seen)
      .resolve).1.findActive key ≠ none := by
  simp only [saveTurn]
  split
  · rename_i next isCreated
    exact findActive_create? isCreated
  · rename_i isRejected
    exact VersionTable.create?_none isRejected

theorem deactivate_goesOn (request : SaveRequest Content) (attempt : Nat) :
    (saveTurn repository firstRow key table (.deactivate request attempt) .resolve).2.isEnded =
      false := by
  simp only [saveTurn]
  split <;> rfl

theorem save_turnsWell_iff (call : SaveCall Content) (claim : Option Nat)
    (input : SaveInput Content) (noGap : LeavesNoGap key served (.save call claim))
    (spared : ∀ row ∈ served.deleted, row.is_active = false) :
    TurnsWell key (serviceTurn repository firstRow order key served (.save call claim)
        (.save input)) ↔
      EndsOutsideGap key served (.save call claim) (.save input) := by
  by_cases isTaken : claimsRow key served.table call = true ∧ input = .resolve
  · obtain ⟨claims, rfl⟩ := isTaken
    rw [serviceTurn_taken claims]
    cases call with
    | deactivate request attempt =>
      refine iff_of_true ⟨?_, spared⟩ trivial
      intro isEnded
      rw [deactivate_goesOn] at isEnded
      cases isEnded
    | _ => cases claims
  · rw [serviceTurn_untaken isTaken]
    refine (and_iff_left spared).trans ?_
    cases call with
    | notStarted read =>
      refine iff_of_true ?_ trivial
      intro isEnded
      cases input <;> cases isEnded
    | deactivate request attempt =>
      cases input with
      | resolve =>
        refine iff_of_true ?_ trivial
        intro isEnded
        rw [deactivate_goesOn] at isEnded
        cases isEnded
      | reject => exact ⟨fun leaves => leaves rfl, fun outside _ => outside⟩
      | _ =>
        refine iff_of_true ?_ trivial
        rintro ⟨⟩
    | findLatest request attempt claimed =>
      cases input with
      | resolve =>
        have ended := afterLatest_isEnded request attempt claimed
          (served.table.latest firstRow key) served.table.created
        constructor
        · intro leaves isExpected isEmpty
          exact leaves (ended.mpr ⟨isExpected, isEmpty⟩)
        · intro outside isEnded
          obtain ⟨isExpected, isEmpty⟩ := ended.mp isEnded
          exact outside isExpected isEmpty
      | reject => exact ⟨fun leaves => leaves rfl, fun outside _ => outside⟩
      | _ =>
        refine iff_of_true ?_ trivial
        rintro ⟨⟩
    | create request attempt claimed latest seen =>
      cases input with
      | resolve =>
        refine iff_of_true ?_ trivial
        rintro _ ⟨_, noActive⟩
        exact active_after_create request attempt claimed latest seen noActive
      | reject => exact ⟨fun leaves => leaves rfl, fun outside _ => outside⟩
      | _ =>
        refine iff_of_true ?_ trivial
        rintro ⟨⟩
    | succeeded request claimed =>
      refine iff_of_true ?_ trivial
      cases input <;> exact noGap
    | failed =>
      refine iff_of_true ?_ trivial
      cases input <;> exact noGap

theorem lost_turnsWell_iff (call : SaveCall Content) (claim : Option Nat)
    (noGap : LeavesNoGap key served (.save call claim))
    (spared : ∀ row ∈ served.deleted, row.is_active = false) :
    TurnsWell key (serviceTurn repository firstRow order key served (.save call claim) .lost) ↔
      EndsOutsideGap key served (.save call claim) .lost := by
  cases isOn : call.isOn with
  | false =>
    rw [serviceTurn_lost_off isOn]
    refine iff_of_true ⟨noGap, spared⟩ ?_
    cases call with
    | notStarted _ | succeeded _ _ | failed => trivial
    | _ => cases isOn
  | true =>
    rw [serviceTurn_lost isOn]
    cases call with
    | deactivate request attempt =>
      by_cases isTaken : claimsRow key served.table (.deactivate request attempt) = true
      · obtain ⟨matching, takesAll, same⟩ := saveTurn_taken repository firstRow isTaken
        rw [serviceTurn_taken isTaken, if_pos isTaken, same]
        refine iff_of_false ?_ ?_
        · rintro ⟨leaves, _⟩
          exact leaves rfl ⟨rfl, findActive_deactivate takesAll⟩
        · rintro ⟨isEmpty, _⟩
          simp [claimsRow, isEmpty] at isTaken
      · have isEmpty : served.table.claimed key request.expectedVersion = [] := by
          simpa [claimsRow] using isTaken
        rw [serviceTurn_untaken (by simp [isTaken]), if_neg isTaken,
          deactivate_nothing request attempt isEmpty]
        refine (and_iff_left spared).trans ?_
        exact ⟨fun leaves => ⟨isEmpty, leaves rfl⟩, fun outside _ => outside.2⟩
    | findLatest request attempt claimed =>
      rw [serviceTurn_untaken (by simp [claimsRow])]
      refine (and_iff_left spared).trans ?_
      exact ⟨fun leaves => leaves rfl, fun outside _ => outside⟩
    | create request attempt claimed latest seen =>
      rw [serviceTurn_untaken (by simp [claimsRow])]
      refine (and_iff_left spared).trans (iff_of_true ?_ trivial)
      rintro _ ⟨_, noActive⟩
      exact active_after_create request attempt claimed latest seen noActive
    | _ => cases isOn

theorem cleanup_spares (call : CleanupCall) (input : CleanupInput)
    (inactive : ListsInactive served (.cleanup call : ServiceCall Content))
    (spared : ∀ row ∈ served.deleted, row.is_active = false) :
    ∀ row ∈ (serviceTurn repository firstRow order key served (.cleanup call)
      (.cleanup input)).1.deleted, row.is_active = false := by
  cases call with
  | deleting ids =>
    cases ids with
    | nil => exact spared
    | cons id rest =>
      cases input with
      | resolve =>
        intro row member
        rcases List.mem_append.mp member with isNew | isOld
        · obtain ⟨isRow, sameId⟩ := List.mem_filter.mp isNew
          exact (inactive id List.mem_cons_self).2 row isRow (beq_iff_eq.mp sameId)
        · exact spared row isOld
      | _ => exact spared
  | _ => cases input <;> exact spared

theorem serviceTurn_listsInactive (call : ServiceCall Content) (input : ServiceInput Content)
    (inactive : ListsInactive served call) (keeps : KeepsActive key served call input) :
    ListsInactive (serviceTurn repository firstRow order key served call input).1
      (serviceTurn repository firstRow order key served call input).2 := by
  have change : ServedChange key served
      (serviceTurn repository firstRow order key served call input).1 :=
    serviceTurn_change served call input
  have later := inactive.change change
  cases call with
  | save call claim =>
    cases input with
    | save input =>
      simp only [serviceTurn]
      split <;> trivial
    | lost => cases call <;> simp only [serviceTurn] <;> (try split) <;> trivial
    | cleanup input => cases call <;> trivial
  | cleanup call =>
    cases input with
    | cleanup input =>
      cases call with
      | findHistory keepCount =>
        cases input with
        | resolve => exact fun id isListed => listed_inactive repository.backend order keeps isListed
        | _ => trivial
      | deleting ids =>
        cases ids with
        | nil => cases input <;> trivial
        | cons id rest =>
          cases input with
          | start keepCount => exact later
          | _ => exact fun other isOther => later other (List.mem_cons_of_mem id isOther)
      | _ => cases input <;> trivial
    | _ => exact later

theorem turnsWell_iff (call : ServiceCall Content) (input : ServiceInput Content)
    (noGap : LeavesNoGap key served call) (inactive : ListsInactive served call)
    (spared : ∀ row ∈ served.deleted, row.is_active = false) :
    TurnsWell key (serviceTurn repository firstRow order key served call input) ↔
      EndsOutsideGap key served call input := by
  cases call with
  | save call claim =>
    cases input with
    | save input => exact save_turnsWell_iff call claim input noGap spared
    | lost => exact lost_turnsWell_iff call claim noGap spared
    | cleanup input =>
      refine iff_of_true ?_ ?_
      · cases call <;> exact ⟨noGap, spared⟩
      · cases call <;> trivial
  | cleanup call =>
    cases input with
    | cleanup input => exact iff_of_true ⟨trivial, cleanup_spares call input inactive spared⟩ trivial
    | _ => exact iff_of_true ⟨trivial, spared⟩ trivial

end Turns

section Steps

variable {key : String} {start : VersionTable Content}
  {state : Shared (ServedTable Content) (ServiceCall Content)}

theorem noGap_change {next : ServedTable Content} (change : ServedChange key state.store next)
    (spared : ∀ row ∈ next.deleted, row.is_active = false) (fromStart : FromStart start state)
    (id : Nat) (noGap : LeavesNoGap key state.store (state.calls id)) :
    LeavesNoGap key next (state.calls id) := by
  cases isCall : state.calls id with
  | cleanup call => trivial
  | save call claim =>
    rw [isCall] at noGap
    rintro isEnded ⟨isClaim, noActive⟩
    cases change with
    | same => exact noGap isEnded ⟨isClaim, noActive⟩
    | taken takesAll =>
      have bound := fromStart.claims id call _ (isClaim ▸ isCall)
      exact absurd bound (Nat.not_succ_le_self _)
    | added isCreated => exact findActive_create? isCreated noActive
    | deleted row =>
      have inactive : ∀ stored ∈ state.store.table.rows, stored.id = row →
          stored.is_active = false := by
        intro stored member sameId
        refine spared stored (List.mem_append_left _ (List.mem_filter.mpr ⟨member, ?_⟩))
        simp [sameId]
      exact noGap isEnded ⟨isClaim, (findActive_delete inactive).mp noActive⟩

theorem keeps_change_iff (kept : KeepsConfiguration key start state)
    {after : Shared (ServedTable Content) (ServiceCall Content)} (id : Nat)
    (before : FromStart start state) (later : FromStart start after)
    (change : ServedChange key state.store after.store)
    (others : ∀ other, other ≠ id → after.calls other = state.calls other) :
    KeepsConfiguration key start after ↔
      LeavesNoGap key after.store (after.calls id) ∧
        ∀ row ∈ after.store.deleted, row.is_active = false := by
  constructor
  · intro keptAfter
    exact ⟨keptAfter.noGapLeft id, keptAfter.spared⟩
  · rintro ⟨own, spared⟩
    refine ⟨?_, ?_, spared⟩
    · intro other
      by_cases same : other = id
      · rw [same]
        exact own
      · rw [others other same]
        exact noGap_change change spared before other (kept.noGapLeft other)
    · intro row isFound
      obtain ⟨member, _, isActive⟩ := VersionTable.findActive_some isFound
      exact later.rows row member isActive

theorem service_fromStart {repository : Repository}
    {firstRow : Tables.FirstRow (VersionRow Content)} {order : HistoryOrder Content}
    (event : Event (ServiceInput Content) Empty) (fromStart : FromStart start state) :
    FromStart start ((serviceMachine repository firstRow order key).step state event) := by
  cases event with
  | turn id input =>
    have change : ServedChange key state.store
        (serviceTurn repository firstRow order key state.store (state.calls id) input).1 :=
      serviceTurn_change state.store (state.calls id) input
    refine ⟨?_, ?_, ?_⟩
    · intro row member isActive
      rcases change.active_row row member isActive with isOld | isNew
      · exact fromStart.rows row isOld isActive
      · exact .inr (Nat.le_trans fromStart.created isNew)
    · exact Nat.le_trans fromStart.created change.created_le
    · intro other
      by_cases same : other = id
      · simp only [Machine.step, same, if_true]
        exact serviceTurn_claim input (fromStart.claims id)
      · simp only [Machine.step, if_neg same]
        intro call claim isCall
        exact Nat.le_trans (fromStart.claims other call claim isCall) change.claims_le
  | outside change => cases change

theorem service_listsInactive {repository : Repository}
    {firstRow : Tables.FirstRow (VersionRow Content)} {order : HistoryOrder Content}
    (event : Event (ServiceInput Content) Empty)
    (inactive : ∀ id, ListsInactive state.store (state.calls id))
    (keeps : OnTurns (KeepsActive key) state event) (id : Nat) :
    ListsInactive ((serviceMachine repository firstRow order key).step state event).store
      (((serviceMachine repository firstRow order key).step state event).calls id) := by
  cases event with
  | turn turning input =>
    by_cases same : id = turning
    · simp only [Machine.step, same, if_true]
      exact serviceTurn_listsInactive (state.calls turning) input (inactive turning) keeps
    · simp only [Machine.step, if_neg same]
      exact (inactive id).change (serviceTurn_change state.store (state.calls turning) input)
  | outside change => cases change

theorem keeps_step_iff {repository : Repository}
    {firstRow : Tables.FirstRow (VersionRow Content)} {order : HistoryOrder Content}
    (event : Event (ServiceInput Content) Empty) (fromStart : FromStart start state)
    (inactive : ∀ id, ListsInactive state.store (state.calls id))
    (kept : KeepsConfiguration key start state) :
    KeepsConfiguration key start ((serviceMachine repository firstRow order key).step state event) ↔
      OnTurns (EndsOutsideGap key) state event := by
  cases event with
  | turn id input =>
    have later : FromStart start
        ((serviceMachine repository firstRow order key).step state (.turn id input)) :=
      service_fromStart (.turn id input) fromStart
    have change : ServedChange key state.store
        ((serviceMachine repository firstRow order key).step state (.turn id input)).store :=
      serviceTurn_change state.store (state.calls id) input
    refine (keeps_change_iff kept id fromStart later change ?_).trans ?_
    · intro other different
      simp [Machine.step, different]
    · have exactly : TurnsWell key
          (serviceTurn repository firstRow order key state.store (state.calls id) input) ↔
            EndsOutsideGap key state.store (state.calls id) input :=
        turnsWell_iff (state.calls id) input (kept.noGapLeft id) (inactive id) kept.spared
      simp only [Machine.step, if_true]
      exact exactly
  | outside change => cases change

end Steps

def beforeService (table : VersionTable Content) (isCleanup : Nat → Bool) :
    Shared (ServedTable Content) (ServiceCall Content) where
  store := ⟨table, 0, []⟩
  calls id := if isCleanup id then .cleanup .notStarted else .save (.notStarted none) none

/-- In a run of any number of saves and clean-ups of a key, of which each lists the rows while the
active one is among the newest that it keeps: no clean-up deletes an active row, and no save that
fails leaves the key without a configuration exactly where none ends in a gap of its own. -/
theorem configuration_kept_iff (repository : Repository)
    (firstRow : Tables.FirstRow (VersionRow Content)) (order : HistoryOrder Content) (key : String)
    (table : VersionTable Content) (isCleanup : Nat → Bool)
    (events : List (Event (ServiceInput Content) Empty))
    (keepsActive : AllowedFrom (serviceMachine repository firstRow order key).step
      (OnTurns (KeepsActive key)) (beforeService table isCleanup) events) :
    AlwaysFrom (serviceMachine repository firstRow order key).step (KeepsConfiguration key table)
        (beforeService table isCleanup) events ↔
      AllowedFrom (serviceMachine repository firstRow order key).step
        (OnTurns (EndsOutsideGap key)) (beforeService table isCleanup) events := by
  have stays : ∀ state event, Traced table state → OnTurns (KeepsActive key) state event →
      Traced table ((serviceMachine repository firstRow order key).step state event) :=
    fun state event traced keeps =>
      ⟨service_fromStart event traced.1, service_listsInactive event traced.2 keeps⟩
  refine Runs.always_iff_allowed_where _
    (fun state event traced _ keeps _ => stays state event traced keeps)
    (fun state event traced kept _ => keeps_step_iff event traced.1 traced.2 kept) ?_ ?_ keepsActive
  · refine ⟨⟨fun row member _ => .inl member, Nat.le_refl _, ?_⟩, ?_⟩
    · intro id call claim isCall
      simp only [beforeService] at isCall
      split at isCall <;> cases isCall
    · intro id
      simp only [beforeService]
      split <;> trivial
  · refine ⟨?_, ?_, by simp [beforeService]⟩
    · intro id
      simp only [beforeService]
      split
      · trivial
      · rintro ⟨⟩
    · intro row isFound
      exact .inl (VersionTable.findActive_some isFound).1

/-- A save that takes the active row out and whose next operation fails. -/
def failedSave : List (Event (ServiceInput String) Empty) :=
  [.turn 0 (.save (.start "b" none)), .turn 0 (.save .resolve), .turn 0 (.save .reject)]

def oneVersion : VersionTable String :=
  (VersionTable.empty.create? "parako_config" 1 "a").getD .empty

def historyOrder : HistoryOrder String where
  sort := Ranking.ranked fun row => -row.int_version
  perm := Ranking.ranked_perm _
  descending rows := by
    refine (Ranking.ranked_sorted _ rows).imp ?_
    intro first second ordered
    exact Int.neg_le_neg_iff.mp ordered

/-- A save goes through, and a clean-up that keeps one version deletes the other. -/
def savedAndCleaned : List (Event (ServiceInput String) Empty) :=
  [.turn 0 (.save (.start "b" none)), .turn 0 (.save .resolve), .turn 0 (.save .resolve),
    .turn 0 (.save .resolve), .turn 1 (.cleanup (.start 1)), .turn 1 (.cleanup .resolve),
    .turn 1 (.cleanup .resolve)]

theorem savedAndCleaned_kept :
    AlwaysFrom (serviceMachine PrismaSettingsRepository Tables.firstInserted historyOrder
        "parako_config").step (KeepsConfiguration "parako_config" oneVersion)
      (beforeService oneVersion fun id => id == 1) savedAndCleaned := by
  refine (configuration_kept_iff _ _ _ _ _ _ _ ?_).mpr ?_
  · refine ⟨trivial, trivial, trivial, trivial, trivial, ?_, trivial, trivial⟩
    simp only [OnTurns]
    change ∀ row ∈ _, _ → _
    decide
  · refine ⟨trivial, trivial, ?_, trivial, trivial, trivial, trivial, trivial⟩
    intro isExpected
    cases isExpected

def afterFailedSave (repository : Repository) :
    Shared (ServedTable String) (ServiceCall String) :=
  Runs.run (serviceMachine repository Tables.firstInserted historyOrder "parako_config").step
    (beforeService oneVersion fun _ => false) failedSave

theorem failed_save_leaves_no_configuration :
    ¬KeepsConfiguration "parako_config" oneVersion (afterFailedSave PrismaSettingsRepository) ∧
      ¬KeepsConfiguration "parako_config" oneVersion
        (afterFailedSave MongooseSettingsRepository) := by
  constructor
  · intro kept
    exact kept.noGapLeft 0 rfl ⟨rfl, by decide⟩
  · intro kept
    exact kept.noGapLeft 0 rfl ⟨rfl, by decide⟩

end ParakoId.SettingsVersions
