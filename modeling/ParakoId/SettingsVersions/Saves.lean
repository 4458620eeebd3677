import ParakoId.Library.Interleavings
import ParakoId.SettingsVersions.Table

/-! The saves of the repositories. -/

namespace ParakoId.SettingsVersions

open Interleavings (Machine Shared Event)

inductive Backend
  | prisma
  | mongoose

structure Repository where
  backend : Backend
  firstVersion : Int

def PrismaSettingsRepository : Repository := ⟨.prisma, 1⟩

def MongooseSettingsRepository : Repository := ⟨.mongoose, 0⟩

def PrismaTenantSettingsOverrideRepository : Repository := ⟨.prisma, 0⟩

def MongooseTenantSettingsOverrideRepository : Repository := ⟨.mongoose, 0⟩

def SETTINGS_SAVE_MAX_ATTEMPTS : Nat := 16

structure SaveRequest (Content : Type) where
  value : Content
  expectedVersion : Option Int
  read : Option (VersionRow Content)
  deriving DecidableEq

inductive SaveCall (Content : Type)
  | notStarted (read : Option (VersionRow Content))
  | deactivate (request : SaveRequest Content) (attempt : Nat)
  | findLatest (request : SaveRequest Content) (attempt : Nat)
      (claimed : List (VersionRow Content))
  | create (request : SaveRequest Content) (attempt : Nat) (claimed : List (VersionRow Content))
      (latest : Option (VersionRow Content)) (seen : Nat)
  | succeeded (request : SaveRequest Content) (claimed : List (VersionRow Content))
  | failed
  deriving DecidableEq

/-- A caller may read a row of the key before it saves. -/
inductive SaveInput (Content : Type)
  | read (id : Nat)
  | start (value : Content) (expectedVersion : Option Int)
  | resolve
  | reject
  deriving DecidableEq

variable {Content : Type}

def Repository.nextVersion (repository : Repository) (latest : Option (VersionRow Content)) : Int :=
  match latest with
  | none => repository.firstVersion
  | some row => row.int_version + 1

def nextAttempt (request : SaveRequest Content) (attempt : Nat) : SaveCall Content :=
  if attempt + 1 < SETTINGS_SAVE_MAX_ATTEMPTS then .deactivate request (attempt + 1) else .failed

def afterLatest (request : SaveRequest Content) (attempt : Nat)
    (claimed : List (VersionRow Content)) (latest : Option (VersionRow Content)) (seen : Nat) :
    SaveCall Content :=
  if request.expectedVersion.isSome && claimed.isEmpty then .failed
  else if claimed.isEmpty && latest.isSome && attempt + 1 < SETTINGS_SAVE_MAX_ATTEMPTS then
    .deactivate request (attempt + 1)
  else .create request attempt claimed latest seen

@[grind =]
def saveTurn (repository : Repository) (firstRow : Tables.FirstRow (VersionRow Content))
    (key : String) (table : VersionTable Content) :
    SaveCall Content → SaveInput Content → VersionTable Content × SaveCall Content
  | .notStarted _, .read id =>
    (table, .notStarted ((table.ofKey key).find? fun row => row.id == id))
  | .notStarted read, .start value expectedVersion =>
    (table, .deactivate { value, expectedVersion, read } 0)
  | .deactivate request attempt, .resolve =>
    let claimed := table.claimed key request.expectedVersion
    match repository.backend, claimed with
    | .prisma, _ =>
      (table.deactivate fun row => claimed.any fun taken => taken.id == row.id,
        .findLatest request attempt claimed)
    | .mongoose, previous :: _ =>
      (table.deactivate fun row => previous.id == row.id,
        .create request attempt [previous] (some previous) table.created)
    | .mongoose, [] => (table, .findLatest request attempt [])
  | .findLatest request attempt claimed, .resolve =>
    (table,
      afterLatest request attempt claimed (table.latest firstRow key) table.created)
  | .create request attempt claimed latest _, .resolve =>
    match table.create? key (repository.nextVersion latest) request.value with
    | some next => (next, .succeeded request claimed)
    -- the index refuses a second active row
    | none => (table, nextAttempt request attempt)
  | .notStarted read, _ => (table, .notStarted read)
  | .succeeded request claimed, _ => (table, .succeeded request claimed)
  | .failed, _ => (table, .failed)
  | _, .reject => (table, .failed)
  | call, _ => (table, call)

def saveMachine (repository : Repository) (firstRow : Tables.FirstRow (VersionRow Content))
    (key : String) :
    Machine (VersionTable Content) (SaveCall Content) (SaveInput Content) Empty where
  turn := saveTurn repository firstRow key
  outside table _ := table

def beforeSaves (table : VersionTable Content) :
    Shared (VersionTable Content) (SaveCall Content) where
  store := table
  calls _ := .notStarted none

/-- The rows as they are but for their activity: no save changes anything else of a row. -/
def VersionTable.history (table : VersionTable Content) : List (VersionRow Content) :=
  table.rows.map VersionRow.retired

theorem history_deactivate (table : VersionTable Content)
    (matching : VersionRow Content → Bool) :
    (table.deactivate matching).history = table.history := by
  refine (List.map_map).trans (List.map_congr_left ?_)
  intro row _
  exact VersionTable.retireIf_retired matching row

theorem history_create? {table next : VersionTable Content} {key : String} {int_version : Int}
    {value : Content} (isCreated : table.create? key int_version value = some next) :
    next.history = table.history ++ [⟨table.created, key, int_version, false, value⟩] := by
  rw [VersionTable.history, (VersionTable.create?_some isCreated).2.2, List.map_append]
  rfl

end ParakoId.SettingsVersions
