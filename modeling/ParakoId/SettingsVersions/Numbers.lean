import ParakoId.SettingsVersions.Saves

/-! Versions under any number of concurrent saves of one key. -/

namespace ParakoId.SettingsVersions

open Interleavings (Machine Shared Event Invariant Keeps OnTurns)
open Runs (AlwaysFrom AllowedFrom)

variable {Content : Type}

structure ConsistentVersions (key : String) (table : VersionTable Content) : Prop where
  oneActive : (table.claimed key none).length ≤ 1
  apart : ∀ first ∈ table.rows, ∀ second ∈ table.rows, first.key = key → second.key = key →
    first.int_version = second.int_version → first.id = second.id
  activeLatest : ∀ active ∈ table.rows, active.key = key → active.is_active = true →
    ∀ row ∈ table.rows, row.key = key → row.int_version ≤ active.int_version

def ReplacesRead : SaveCall Content → Prop
  | .succeeded request claimed =>
    ∀ row, request.read = some row → request.expectedVersion = some row.int_version →
      claimed ≠ [] ∧ ∀ replaced ∈ claimed, replaced.value = row.value
  | _ => True

structure VersionsHold (key : String)
    (state : Shared (VersionTable Content) (SaveCall Content)) : Prop where
  versions : ConsistentVersions key state.store
  replaces : ∀ id, ReplacesRead (state.calls id)

def CreatesNext (key : String) (table : VersionTable Content) :
    SaveCall Content → SaveInput Content → Prop
  | .create _ _ _ _ seen, .resolve =>
    table.findActive key = none → ∀ row ∈ table.rows, row.key = key → row.id < seen
  | _, _ => True

theorem claimed_length (table : VersionTable Content) (key : String)
    (expectedVersion : Option Int) : (table.claimed key expectedVersion).length ≤ 1 := by
  match isClaimed : table.claimed key expectedVersion with
  | [] => exact Nat.zero_le 1
  | [_] => exact Nat.le_refl 1
  | first :: second :: rest =>
    have distinct : (first :: second :: rest).Pairwise fun one other => one.id ≠ other.id := by
      rw [← isClaimed]
      exact table.distinct.filter _
    have member (row : VersionRow Content) (isMember : row ∈ first :: second :: rest) :=
      VersionTable.mem_claimed.mp (isClaimed ▸ isMember)
    have one := member first List.mem_cons_self
    have other := member second (List.mem_cons_of_mem _ List.mem_cons_self)
    have same := VersionTable.active_eq one.1 other.1 one.2.2.1 other.2.2.1
      (one.2.1.trans other.2.1.symm)
    have differ := (List.pairwise_cons.mp distinct).1 second List.mem_cons_self
    exact absurd (congrArg VersionRow.id same) differ

section History

variable {table : VersionTable Content} {key : String}

theorem mem_history {row : VersionRow Content} :
    row ∈ table.history ↔ ∃ stored ∈ table.rows, stored.retired = row := List.mem_map

theorem history_id {row : VersionRow Content} (member : row ∈ table.history) :
    row.id < table.created := by
  obtain ⟨stored, isStored, rfl⟩ := mem_history.mp member
  exact table.older stored isStored

theorem history_eq_of_id {first second : VersionRow Content} (firstMem : first ∈ table.history)
    (secondMem : second ∈ table.history) (same : first.id = second.id) : first = second := by
  obtain ⟨one, isOne, rfl⟩ := mem_history.mp firstMem
  obtain ⟨other, isOther, rfl⟩ := mem_history.mp secondMem
  rw [VersionTable.eq_of_id isOne isOther same]

theorem apart_history (consistent : ConsistentVersions key table)
    {first second : VersionRow Content}
    (firstMem : first ∈ table.history) (secondMem : second ∈ table.history)
    (firstKey : first.key = key) (secondKey : second.key = key)
    (same : first.int_version = second.int_version) : first = second := by
  obtain ⟨one, isOne, rfl⟩ := mem_history.mp firstMem
  obtain ⟨other, isOther, rfl⟩ := mem_history.mp secondMem
  exact history_eq_of_id firstMem secondMem
    (consistent.apart one isOne other isOther firstKey secondKey same)

theorem consistent_deactivate (consistent : ConsistentVersions key table)
    (matching : VersionRow Content → Bool) :
    ConsistentVersions key (table.deactivate matching) := by
  constructor
  · exact claimed_length _ _ _
  · intro first firstMem second secondMem firstKey secondKey same
    obtain ⟨one, isOne, rfl⟩ := VersionTable.mem_deactivate.mp firstMem
    obtain ⟨other, isOther, rfl⟩ := VersionTable.mem_deactivate.mp secondMem
    simp only [VersionTable.retireIf_key, VersionTable.retireIf_version,
      VersionTable.retireIf_id] at firstKey secondKey same ⊢
    exact consistent.apart one isOne other isOther firstKey secondKey same
  · intro active activeMem activeKey isActive row member rowKey
    obtain ⟨one, isOne, rfl⟩ := VersionTable.mem_deactivate.mp activeMem
    obtain ⟨other, isOther, rfl⟩ := VersionTable.mem_deactivate.mp member
    rw [VersionTable.retireIf_key] at activeKey rowKey
    rw [VersionTable.retireIf_version, VersionTable.retireIf_version]
    have wasActive : one.is_active = true := by
      rw [VersionTable.retireIf] at isActive
      split at isActive
      · cases isActive
      · exact isActive
    exact consistent.activeLatest one isOne activeKey wasActive other isOther rowKey

theorem consistent_create?_iff {next : VersionTable Content} {int_version : Int} {value : Content}
    (consistent : ConsistentVersions key table)
    (isCreated : table.create? key int_version value = some next) :
    ConsistentVersions key next ↔
      ∀ row ∈ table.history, row.key = key → row.int_version < int_version := by
  obtain ⟨free, _, rows⟩ := VersionTable.create?_some isCreated
  have added : ⟨table.created, key, int_version, true, value⟩ ∈ next.rows := by simp [rows]
  have kept (row : VersionRow Content) (member : row ∈ table.rows) : row ∈ next.rows := by
    simp [rows, member]
  constructor
  · intro after row member rowKey
    obtain ⟨stored, isStored, rfl⟩ := mem_history.mp member
    have bound := after.activeLatest _ added rfl rfl stored (kept stored isStored) rowKey
    refine lt_of_le_of_ne bound ?_
    intro same
    have sameId := after.apart stored (kept stored isStored) _ added rowKey rfl same
    exact absurd sameId (Nat.ne_of_lt (table.older stored isStored))
  · intro above
    have below (row : VersionRow Content) (member : row ∈ table.rows) (rowKey : row.key = key) :
        row.int_version < int_version :=
      above row.retired (mem_history.mpr ⟨row, member, rfl⟩) rowKey
    constructor
    · exact claimed_length _ _ _
    · intro first firstMem second secondMem firstKey secondKey same
      rw [rows, List.mem_append, List.mem_singleton] at firstMem secondMem
      rcases firstMem with isFirst | rfl
      · rcases secondMem with isSecond | rfl
        · exact consistent.apart first isFirst second isSecond firstKey secondKey same
        · have bound := below first isFirst firstKey
          simp only at same
          omega
      · rcases secondMem with isSecond | rfl
        · have bound := below second isSecond secondKey
          simp only at same
          omega
        · rfl
    · intro active activeMem activeKey isActive row member rowKey
      rw [rows, List.mem_append, List.mem_singleton] at activeMem member
      rcases activeMem with wasActive | rfl
      · have inactive := VersionTable.findActive_none.mp free active wasActive activeKey
        rw [inactive] at isActive
        cases isActive
      · rcases member with isOld | rfl
        · exact le_of_lt (below row isOld rowKey)
        · exact le_refl _

end History

def VersionTable.Stored (table : VersionTable Content) (key : String)
    (row : VersionRow Content) : Prop :=
  row.retired ∈ table.history ∧ row.key = key

/-- The latest row was the greatest of those added before it was read, and those added since
have the next version or a greater one. -/
structure SeenLatest (repository : Repository) (key : String) (table : VersionTable Content)
    (latest : Option (VersionRow Content)) (seen : Nat) : Prop where
  bound : seen ≤ table.created
  stored : ∀ row, latest = some row → table.Stored key row
  before : ∀ row ∈ table.history, row.key = key → row.id < seen →
    ∃ last, latest = some last ∧ row.int_version ≤ last.int_version
  since : ∀ row ∈ table.history, row.key = key → seen ≤ row.id →
    repository.nextVersion latest ≤ row.int_version

structure KnownRows (key : String) (table : VersionTable Content)
    (request : SaveRequest Content) (claimed : List (VersionRow Content)) : Prop where
  read : ∀ row, request.read = some row → table.Stored key row
  taken : ∀ row ∈ claimed, table.Stored key row
  expected : ∀ row ∈ claimed, ∀ version, request.expectedVersion = some version →
    version = row.int_version

def knownVersions (repository : Repository) (key : String) :
    Invariant (VersionTable Content) (SaveCall Content) where
  store := ConsistentVersions key
  call table
    | .notStarted read => ∀ row, read = some row → table.Stored key row
    | .deactivate request _ => KnownRows key table request []
    | .findLatest request _ claimed => KnownRows key table request claimed
    | .create request _ claimed latest seen =>
      KnownRows key table request claimed ∧ SeenLatest repository key table latest seen ∧
        (request.expectedVersion.isSome = true → claimed ≠ [])
    | .succeeded request claimed =>
      KnownRows key table request claimed ∧
        (request.expectedVersion.isSome = true → claimed ≠ [])
    | .failed => True

section Turns

variable {repository : Repository} {firstRow : Tables.FirstRow (VersionRow Content)}
  {key : String} {table next : VersionTable Content}

theorem Stored.of_history (sub : table.history ⊆ next.history) {row : VersionRow Content}
    (stored : table.Stored key row) : next.Stored key row :=
  ⟨sub stored.1, stored.2⟩

variable {request : SaveRequest Content} {claimed : List (VersionRow Content)}
  {latest : Option (VersionRow Content)}

theorem KnownRows.of_history (sub : table.history ⊆ next.history)
    (known : KnownRows key table request claimed) : KnownRows key next request claimed where
  read row isRead := Stored.of_history sub (known.read row isRead)
  taken row member := Stored.of_history sub (known.taken row member)
  expected := known.expected

theorem others_deactivate (repository : Repository) (matching : VersionRow Content → Bool)
    (call : SaveCall Content) (held : (knownVersions repository key).call table call) :
    (knownVersions repository key).call (table.deactivate matching) call := by
  have same := history_deactivate table matching
  have sub : table.history ⊆ (table.deactivate matching).history := by rw [same]; exact fun _ => id
  cases call with
  | notStarted read => exact fun row isRead => Stored.of_history sub (held row isRead)
  | deactivate _ _ | findLatest _ _ _ => exact held.of_history sub
  | create request attempt claimed latest seen =>
    obtain ⟨known, seenLatest, isClaimed⟩ := held
    refine ⟨known.of_history sub, ?_, isClaimed⟩
    constructor
    · exact seenLatest.bound
    · exact fun row isLatest => Stored.of_history sub (seenLatest.stored row isLatest)
    · rw [same]
      exact seenLatest.before
    · rw [same]
      exact seenLatest.since
  | succeeded request claimed => exact ⟨held.1.of_history sub, held.2⟩
  | failed => trivial

theorem nextVersion_le {otherLatest : Option (VersionRow Content)} {seen otherSeen : Nat}
    (own : SeenLatest repository key table latest seen)
    (other : SeenLatest repository key table otherLatest otherSeen)
    (above : ∀ row ∈ table.history, row.key = key →
      row.int_version < repository.nextVersion latest) :
    repository.nextVersion otherLatest ≤ repository.nextVersion latest := by
  cases otherLatest with
  | some last =>
    obtain ⟨member, lastKey⟩ := other.stored last rfl
    have below := above last.retired member lastKey
    have same : last.retired.int_version = last.int_version := rfl
    simp only [Repository.nextVersion] at below ⊢
    omega
  | none =>
    cases latest with
    | none => exact le_refl _
    | some last =>
      obtain ⟨member, lastKey⟩ := own.stored last rfl
      have notBefore : otherSeen ≤ last.retired.id := by
        by_contra earlier
        obtain ⟨_, isNone, _⟩ := other.before last.retired member lastKey (by omega)
        cases isNone
      have bound := other.since last.retired member lastKey notBefore
      have same : last.retired.int_version = last.int_version := rfl
      simp only [Repository.nextVersion] at bound ⊢
      omega

theorem others_create {seen : Nat} {value : Content}
    (own : SeenLatest repository key table latest seen)
    (isCreated : table.create? key (repository.nextVersion latest) value = some next)
    (above : ∀ row ∈ table.history, row.key = key →
      row.int_version < repository.nextVersion latest) (call : SaveCall Content)
    (held : (knownVersions repository key).call table call) :
    (knownVersions repository key).call next call := by
  have rows := history_create? isCreated
  have sub : table.history ⊆ next.history := by
    rw [rows]
    exact List.subset_append_left _ _
  cases call with
  | notStarted read => exact fun row isRead => Stored.of_history sub (held row isRead)
  | deactivate _ _ | findLatest _ _ _ => exact held.of_history sub
  | create request attempt claimed otherLatest otherSeen =>
    obtain ⟨known, seenLatest, isClaimed⟩ := held
    refine ⟨known.of_history sub, ?_, isClaimed⟩
    have bound := seenLatest.bound
    constructor
    · rw [(VersionTable.create?_some isCreated).2.1]
      omega
    · exact fun row isLatest => Stored.of_history sub (seenLatest.stored row isLatest)
    · intro row member rowKey earlier
      rw [rows, List.mem_append, List.mem_singleton] at member
      rcases member with isOld | rfl
      · exact seenLatest.before row isOld rowKey earlier
      · simp only at earlier
        omega
    · intro row member rowKey later
      rw [rows, List.mem_append, List.mem_singleton] at member
      rcases member with isOld | rfl
      · exact seenLatest.since row isOld rowKey later
      · exact nextVersion_le own seenLatest above
  | succeeded request claimed => exact ⟨held.1.of_history sub, held.2⟩
  | failed => trivial

theorem known_claimed (known : KnownRows key table request []) :
    KnownRows key table request (table.claimed key request.expectedVersion) where
  read := known.read
  taken row member := by
    obtain ⟨isStored, rowKey, _⟩ := VersionTable.mem_claimed.mp member
    exact ⟨mem_history.mpr ⟨row, isStored, rfl⟩, rowKey⟩
  expected row member := (VersionTable.mem_claimed.mp member).2.2.2

theorem seenLatest_active (consistent : ConsistentVersions key table)
    {active : VersionRow Content} (member : active ∈ table.rows) (activeKey : active.key = key)
    (isActive : active.is_active = true) :
    SeenLatest repository key table (some active) table.created where
  bound := Nat.le_refl _
  stored row isLatest := by
    obtain rfl := Option.some.inj isLatest
    exact ⟨mem_history.mpr ⟨active, member, rfl⟩, activeKey⟩
  before row isStored rowKey _ := by
    obtain ⟨stored, storedMem, rfl⟩ := mem_history.mp isStored
    exact ⟨active, rfl, consistent.activeLatest active member activeKey isActive stored storedMem
      rowKey⟩
  since row isStored _ later := by
    have earlier := history_id isStored
    omega

theorem seenLatest_latest :
    SeenLatest repository key table (table.latest firstRow key) table.created where
  bound := Nat.le_refl _
  stored row isLatest := by
    obtain ⟨⟨member, rowKey⟩, _⟩ := VersionTable.latest_some isLatest
    exact ⟨mem_history.mpr ⟨row, member, rfl⟩, rowKey⟩
  before row isStored rowKey _ := by
    obtain ⟨stored, storedMem, rfl⟩ := mem_history.mp isStored
    cases isLatest : table.latest firstRow key with
    | none => exact absurd rowKey (VersionTable.latest_none isLatest stored storedMem)
    | some last =>
      exact ⟨last, rfl, (VersionTable.latest_some isLatest).2 stored storedMem rowKey⟩
  since row isStored _ later := by
    have earlier := history_id isStored
    omega

theorem claim_keeps (firstRow : Tables.FirstRow (VersionRow Content))
    (consistent : ConsistentVersions key table) (attempt : Nat)
    (known : KnownRows key table request []) :
    (knownVersions repository key).Turned table
      (saveTurn repository firstRow key table (.deactivate request attempt) .resolve) := by
  have knownClaimed := known_claimed known
  simp only [saveTurn]
  split
  · refine ⟨consistent_deactivate consistent _, ?_, others_deactivate repository _⟩
    exact others_deactivate repository _
      (.findLatest request attempt (table.claimed key request.expectedVersion)) knownClaimed
  · rename_i previous rest _ isClaimed
    rw [isClaimed] at knownClaimed
    have member : previous ∈ table.claimed key request.expectedVersion := by simp [isClaimed]
    obtain ⟨isStored, previousKey, isActive, _⟩ := VersionTable.mem_claimed.mp member
    have knownPrevious : KnownRows key table request [previous] :=
      { read := knownClaimed.read
        taken := fun row isPrevious => knownClaimed.taken row (by
          rw [List.mem_singleton.mp isPrevious]
          exact List.mem_cons_self)
        expected := fun row isPrevious => knownClaimed.expected row (by
          rw [List.mem_singleton.mp isPrevious]
          exact List.mem_cons_self) }
    refine ⟨consistent_deactivate consistent _, ?_, others_deactivate repository _⟩
    exact others_deactivate repository _
      (.create request attempt [previous] (some previous) table.created)
      ⟨knownPrevious, seenLatest_active consistent isStored previousKey isActive, by simp⟩
  · exact .of_store consistent known

theorem findLatest_keeps (consistent : ConsistentVersions key table) (attempt : Nat)
    (known : KnownRows key table request claimed) :
    (knownVersions repository key).Turned table
      (saveTurn repository firstRow key table (.findLatest request attempt claimed)
        .resolve) := by
  simp only [saveTurn, afterLatest]
  split
  · exact .of_store consistent trivial
  · rename_i mayGoOn
    split
    · exact .of_store consistent ⟨known.read, by simp, by simp⟩
    · refine .of_store consistent ⟨known, seenLatest_latest, ?_⟩
      rintro isExpected rfl
      simp [isExpected] at mayGoOn

theorem nextAttempt_keeps (consistent : ConsistentVersions key table) (attempt : Nat)
    (known : KnownRows key table request claimed) :
    (knownVersions repository key).Turned table (table, nextAttempt request attempt) := by
  rw [nextAttempt]
  split
  · exact .of_store consistent ⟨known.read, by simp, by simp⟩
  · exact .of_store consistent trivial

theorem above_iff {seen : Nat} (seenLatest : SeenLatest repository key table latest seen) :
    (∀ row ∈ table.history, row.key = key → row.int_version < repository.nextVersion latest) ↔
      ∀ row ∈ table.rows, row.key = key → row.id < seen := by
  constructor
  · intro above row member rowKey
    by_contra later
    have isStored := mem_history.mpr ⟨row, member, rfl⟩
    have atLeast := seenLatest.since row.retired isStored rowKey (Nat.le_of_not_lt later)
    have below := above row.retired isStored rowKey
    omega
  · intro earlier row isStored rowKey
    obtain ⟨stored, member, rfl⟩ := mem_history.mp isStored
    obtain ⟨last, rfl, bound⟩ :=
      seenLatest.before stored.retired isStored rowKey (earlier stored member rowKey)
    simp only [Repository.nextVersion]
    omega

theorem create_keeps (firstRow : Tables.FirstRow (VersionRow Content))
    (consistent : ConsistentVersions key table) (attempt : Nat) {seen : Nat}
    (own : (knownVersions repository key).call table
      (.create request attempt claimed latest seen))
    (isNext : table.findActive key = none → ∀ row ∈ table.rows, row.key = key → row.id < seen) :
    (knownVersions repository key).Turned table
      (saveTurn repository firstRow key table (.create request attempt claimed latest seen)
        .resolve) := by
  obtain ⟨known, seenLatest, isClaimed⟩ := own
  simp only [saveTurn]
  split
  · rename_i next isCreated
    have free := (VersionTable.create?_some isCreated).1
    have above := (above_iff seenLatest).mpr (isNext free)
    refine ⟨(consistent_create?_iff consistent isCreated).mpr above, ?_,
      others_create seenLatest isCreated above⟩
    exact others_create seenLatest isCreated above (.succeeded request claimed)
      ⟨known, isClaimed⟩
  · exact nextAttempt_keeps consistent attempt known

end Turns

theorem saveTurn_keeps (repository : Repository)
    (firstRow : Tables.FirstRow (VersionRow Content)) (key : String) :
    Keeps (saveMachine repository firstRow key) (knownVersions repository key)
      (CreatesNext key) := by
  constructor
  · intro table call input consistent own isNext
    cases call with
    | notStarted read =>
      cases input with
      | read id =>
        refine .of_store consistent ?_
        intro row isRead
        have member := VersionTable.mem_ofKey.mp (List.mem_of_find?_eq_some isRead)
        exact ⟨mem_history.mpr ⟨row, member.1, rfl⟩, member.2⟩
      | start value expectedVersion =>
        exact .of_store consistent ⟨own, by simp, by simp⟩
      | _ => exact .of_store consistent own
    | deactivate request attempt =>
      cases input with
      | resolve => exact claim_keeps firstRow consistent attempt own
      | reject => exact .of_store consistent trivial
      | _ => exact .of_store consistent own
    | findLatest request attempt claimed =>
      cases input with
      | resolve => exact findLatest_keeps consistent attempt own
      | reject => exact .of_store consistent trivial
      | _ => exact .of_store consistent own
    | create request attempt claimed latest seen =>
      cases input with
      | resolve => exact create_keeps firstRow consistent attempt own isNext
      | reject => exact .of_store consistent trivial
      | _ => exact .of_store consistent own
    | succeeded request claimed => cases input <;> exact .of_store consistent own
    | failed => cases input <;> exact .of_store consistent trivial
  · intro table change
    cases change

theorem consistent_turn_iff {repository : Repository}
    {firstRow : Tables.FirstRow (VersionRow Content)} {key : String} {table : VersionTable Content}
    (call : SaveCall Content) (input : SaveInput Content)
    (consistent : ConsistentVersions key table)
    (own : (knownVersions repository key).call table call) :
    ConsistentVersions key (saveTurn repository firstRow key table call input).1 ↔
      CreatesNext key table call input := by
  constructor
  · intro after
    cases call with
    | create request attempt claimed latest seen =>
      cases input with
      | resolve =>
        intro free
        obtain ⟨_, seenLatest, _⟩ := own
        simp only [saveTurn] at after
        split at after
        · rename_i next isCreated
          exact (above_iff seenLatest).mp
            ((consistent_create?_iff consistent isCreated).mp after)
        · rename_i isRejected
          exact absurd free (VersionTable.create?_none isRejected)
      | _ => trivial
    | _ => trivial
  · intro isNext
    exact ((saveTurn_keeps repository firstRow key).turn table call input consistent own isNext).1

theorem replacesRead_known {repository : Repository} {key : String} {table : VersionTable Content}
    (consistent : ConsistentVersions key table) (call : SaveCall Content)
    (own : (knownVersions repository key).call table call) : ReplacesRead call := by
  cases call with
  | succeeded request claimed =>
    obtain ⟨known, isClaimed⟩ := own
    intro row isRead isExpected
    refine ⟨isClaimed (by simp [isExpected]), ?_⟩
    intro replaced member
    obtain ⟨replacedStored, replacedKey⟩ := known.taken replaced member
    obtain ⟨readStored, readKey⟩ := known.read row isRead
    have sameVersion := known.expected replaced member row.int_version isExpected
    have same : replaced.retired = row.retired :=
      apart_history consistent replacedStored readStored replacedKey readKey sameVersion.symm
    have sameValue : replaced.retired.value = row.retired.value := by rw [same]
    exact sameValue
  | _ => trivial

/-- In a run of any number of saves of a key, the versions are consistent at all times and each
save that expects a version replaces what its caller had read, exactly where they were consistent
at the start and each save that adds its row is the first to do so since it read the latest
one. -/
theorem versions_hold_iff (repository : Repository)
    (firstRow : Tables.FirstRow (VersionRow Content)) (key : String)
    (table : VersionTable Content) (events : List (Event (SaveInput Content) Empty)) :
    AlwaysFrom (saveMachine repository firstRow key).step (VersionsHold key) (beforeSaves table)
        events ↔
      ConsistentVersions key table ∧
        AllowedFrom (saveMachine repository firstRow key).step (OnTurns (CreatesNext key))
          (beforeSaves table) events := by
  have keeps := saveTurn_keeps repository firstRow key
  have atStart (consistent : ConsistentVersions key table) :
      (knownVersions repository key).Holds (beforeSaves table) := by
    refine ⟨consistent, ?_⟩
    rintro id row ⟨⟩
  have exactly (consistent : ConsistentVersions key table) :
      AlwaysFrom (saveMachine repository firstRow key).step
          (fun state => ConsistentVersions key state.store) (beforeSaves table) events ↔
        AllowedFrom (saveMachine repository firstRow key).step (OnTurns (CreatesNext key))
          (beforeSaves table) events :=
    keeps.always_iff
      (fun table call input isConsistent own _ => consistent_turn_iff call input isConsistent own)
      (fun _ change _ => change.elim) (atStart consistent) consistent
  constructor
  · intro always
    have consistent := always.start.versions
    exact ⟨consistent, (exactly consistent).mp (always.mono _ fun _ holds => holds.versions)⟩
  · rintro ⟨consistent, allowed⟩
    have known := keeps.always (atStart consistent) allowed
    refine known.mono _ ?_
    intro state holds
    exact ⟨holds.store, fun id => replacesRead_known holds.store _ (holds.calls id)⟩

/-- Three saves of a key without rows: the first reads that there are none, the second adds the
first version, the third takes it out, and the first adds the first version once more. A fourth
that expects the version it has read then replaces what it has not. -/
def staleSave (repository : Repository) : List (Event (SaveInput String) Empty) :=
  [.turn 0 (.start "a" none), .turn 0 .resolve, .turn 0 .resolve,
    .turn 1 (.start "b" none), .turn 1 .resolve, .turn 1 .resolve, .turn 1 .resolve,
    .turn 3 (.read 0), .turn 2 (.start "c" none), .turn 2 .resolve, .turn 0 .resolve,
    .turn 3 (.start "d" (some repository.firstVersion)), .turn 3 .resolve, .turn 3 .resolve,
    .turn 3 .resolve]

def afterStaleSave (repository : Repository) :
    Shared (VersionTable String) (SaveCall String) :=
  Runs.run (saveMachine repository Tables.firstInserted "parako_config").step (beforeSaves .empty)
    (staleSave repository)

theorem stale_save_breaks_versions :
    ¬VersionsHold "parako_config" (afterStaleSave PrismaSettingsRepository) ∧
      ¬VersionsHold "parako_config" (afterStaleSave MongooseSettingsRepository) := by
  constructor
  · intro holds
    have replaced := holds.replaces 3
    have final : (afterStaleSave PrismaSettingsRepository).calls 3 =
        .succeeded ⟨"d", some 1, some ⟨0, "parako_config", 1, true, "b"⟩⟩
          [⟨1, "parako_config", 1, true, "a"⟩] := by decide +kernel
    rw [final] at replaced
    have same := (replaced _ rfl rfl).2 _ List.mem_cons_self
    exact absurd same (by decide)
  · intro holds
    have replaced := holds.replaces 3
    have final : (afterStaleSave MongooseSettingsRepository).calls 3 =
        .succeeded ⟨"d", some 0, some ⟨0, "parako_config", 0, true, "b"⟩⟩
          [⟨1, "parako_config", 0, true, "a"⟩] := by decide +kernel
    rw [final] at replaced
    have same := (replaced _ rfl rfl).2 _ List.mem_cons_self
    exact absurd same (by decide)

end ParakoId.SettingsVersions
