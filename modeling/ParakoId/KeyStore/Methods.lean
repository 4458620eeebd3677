import ParakoId.Library.Runs
import ParakoId.KeyStore.Core

/-!
The methods of `DBKeyStore`, first as calls that run alone, then as calls in flight: several
processes share the table and take turns at each repository access.
-/

namespace ParakoId.KeyStore

def MIN_ROTATION_INTERVAL_MS : Nat := 60000

inductive Method
  | initializeKeys (tenantId : String) (generated : List GeneratedKey)
  | rotate (tenantId : String) (generated : List GeneratedKey)
  | promoteKeys (tenantId : String)
  | retireExpiredKeys (tenantId : String) (overlapSeconds : Nat)
  | retireKey (kid tenantId : String)

inductive Outcome
  | completed
  | count (modified : Nat)
  | flag (changed : Bool)
  | thrown (message : String)

/-- The checks of `retireKey` on the keys it read; `none` lets the write go ahead. -/
def retireGuard (kid : String) (keys : List JwksKeyRecord) : Option Outcome :=
  match keys.find? fun key => key.kid == kid with
  | none => some (.flag false)
  | some target =>
    if target.status = .retired then some (.flag false)
    else if isSigner target = true ∧
        keys.any (fun key => key.kid != kid && isSigner key) = false then
      some (.thrown "Cannot retire the last promoted active signing key")
    else none

-- `guardRapidRotation` lets the rotation through
def rotationAllowed (lastRotationAt : Option Nat) (now : Nat) : Bool :=
  match lastRotationAt with
  | none => true
  | some last => decide (MIN_ROTATION_INTERVAL_MS ≤ now - last)

def rateLimited : Outcome :=
  .thrown "Key rotation rate-limited — wait at least 1 minute between rotations"

def emptyInitialization : Outcome :=
  .thrown "Concurrent JWKS initialization completed without creating any keys"

def uniqueConstraint : Outcome := .thrown "P2002"

structure Store where
  table : KeyTable
  lastRotationAtByTenant : String → Option Nat

def initializeKeys (tenantId : String) (generated : List GeneratedKey) (store : Store) :
    Store × Outcome :=
  if countCurrent tenantId store.table = 0 then
    match insertMany (generateKeys tenantId true generated) store.table with
    | some inserted => ({ store with table := inserted }, .completed)
    | none =>
      if countCurrent tenantId store.table = 0 then (store, emptyInitialization)
      else (store, .completed)
  else (store, .completed)

def rotate (now : Nat) (tenantId : String) (generated : List GeneratedKey) (store : Store) :
    Store × Outcome :=
  if rotationAllowed (store.lastRotationAtByTenant tenantId) now then
    match insertMany (generateKeys tenantId false generated) store.table with
    | some inserted =>
      ({ table := markPromotedActiveExpiring tenantId now inserted
         lastRotationAtByTenant := fun tenant =>
           if tenant = tenantId then some now else store.lastRotationAtByTenant tenant },
        .completed)
    | none => (store, uniqueConstraint)
  else (store, rateLimited)

def promoteKeys (tenantId : String) (store : Store) : Store × Outcome :=
  match promoteUnpromotedActive tenantId store.table with
  | some (promoted, count) => ({ store with table := promoted }, .count count)
  | none => (store, uniqueConstraint)

def overlapCutoff (now overlapSeconds : Nat) : Int := (now : Int) - overlapSeconds * 1000

def retireExpiredKeys (now : Nat) (tenantId : String) (overlapSeconds : Nat) (store : Store) :
    Store × Outcome :=
  let (retired, count) := retireExpired tenantId (overlapCutoff now overlapSeconds) store.table
  ({ store with table := retired }, .count count)

def retireKey (kid tenantId : String) (store : Store) : Store × Outcome :=
  match retireGuard kid (findAll tenantId store.table) with
  | some outcome => (store, outcome)
  | none =>
    let (retired, changed) := retireByKid tenantId kid store.table
    ({ store with table := retired }, .flag changed)

def call (store : Store) (now : Nat) : Method → Store × Outcome
  | .initializeKeys tenantId generated => initializeKeys tenantId generated store
  | .rotate tenantId generated => rotate now tenantId generated store
  | .promoteKeys tenantId => promoteKeys tenantId store
  | .retireExpiredKeys tenantId overlapSeconds =>
    retireExpiredKeys now tenantId overlapSeconds store
  | .retireKey kid tenantId => retireKey kid tenantId store

/-! Calls in flight. A method runs up to its next repository access, so a call is
the access it waits for together with the locals it still needs. -/

inductive PendingCall
  | countForInitialize (tenantId : String) (generated : List GeneratedKey)
  | insertInitial (tenantId : String) (generated : List GeneratedKey)
  | recountForInitialize (tenantId : String)
  | insertRotated (process : Nat) (tenantId : String) (generated : List GeneratedKey)
  | markExpiring (process : Nat) (tenantId : String)
  | promoteUnpromoted (tenantId : String)
  | retireExpiring (tenantId : String) (overlapSeconds : Nat)
  | readForRetire (kid tenantId : String)
  | writeRetired (kid tenantId : String) (keys : List JwksKeyRecord)

def access (now : Nat) (table : KeyTable) : PendingCall → KeyTable × (PendingCall ⊕ Outcome)
  | .countForInitialize tenantId generated =>
    if countCurrent tenantId table = 0 then (table, .inl (.insertInitial tenantId generated))
    else (table, .inr .completed)
  | .insertInitial tenantId generated =>
    match insertMany (generateKeys tenantId true generated) table with
    | some inserted => (inserted, .inr .completed)
    | none => (table, .inl (.recountForInitialize tenantId))
  | .recountForInitialize tenantId =>
    if countCurrent tenantId table = 0 then (table, .inr emptyInitialization)
    else (table, .inr .completed)
  | .insertRotated process tenantId generated =>
    match insertMany (generateKeys tenantId false generated) table with
    | some inserted => (inserted, .inl (.markExpiring process tenantId))
    | none => (table, .inr uniqueConstraint)
  | .markExpiring _ tenantId => (markPromotedActiveExpiring tenantId now table, .inr .completed)
  | .promoteUnpromoted tenantId =>
    match promoteUnpromotedActive tenantId table with
    | some (promoted, count) => (promoted, .inr (.count count))
    | none => (table, .inr uniqueConstraint)
  | .retireExpiring tenantId overlapSeconds =>
    let (retired, count) := retireExpired tenantId (overlapCutoff now overlapSeconds) table
    (retired, .inr (.count count))
  | .readForRetire kid tenantId =>
    match retireGuard kid (findAll tenantId table) with
    | some outcome => (table, .inr outcome)
    | none => (table, .inl (.writeRetired kid tenantId (findAll tenantId table)))
  | .writeRetired kid tenantId _ =>
    let (retired, changed) := retireByKid tenantId kid table
    (retired, .inr (.flag changed))

def begin (process now : Nat) (lastRotationAt : String → Option Nat) :
    Method → PendingCall ⊕ Outcome
  | .initializeKeys tenantId generated => .inl (.countForInitialize tenantId generated)
  | .rotate tenantId generated =>
    if rotationAllowed (lastRotationAt tenantId) now then
      .inl (.insertRotated process tenantId generated)
    else .inr rateLimited
  | .promoteKeys tenantId => .inl (.promoteUnpromoted tenantId)
  | .retireExpiredKeys tenantId overlapSeconds => .inl (.retireExpiring tenantId overlapSeconds)
  | .retireKey kid tenantId => .inl (.readForRetire kid tenantId)

-- `lastRotationAt` holds the `lastRotationAtByTenant` of each process, and a
-- crashed call is one whose turn never comes again
structure System where
  table : KeyTable
  calls : List PendingCall
  lastRotationAt : Nat → String → Option Nat

inductive Event
  | start (process now : Nat) (method : Method)
  | turn (index now : Nat)

def noteRotation (pending : PendingCall) (now : Nat)
    (lastRotationAt : Nat → String → Option Nat) : Nat → String → Option Nat :=
  match pending with
  | .markExpiring process tenantId => fun owner tenant =>
    if owner = process ∧ tenant = tenantId then some now else lastRotationAt owner tenant
  | _ => lastRotationAt

def step (system : System) : Event → System
  | .start process now method =>
    match begin process now (system.lastRotationAt process) method with
    | .inl pending => { system with calls := system.calls ++ [pending] }
    | .inr _ => system
  | .turn index now =>
    match system.calls[index]? with
    | none => system
    | some pending =>
      { table := (access now system.table pending).1
        calls := match (access now system.table pending).2 with
          | .inl next => system.calls.set index next
          | .inr _ => system.calls.eraseIdx index
        lastRotationAt := noteRotation pending now system.lastRotationAt }

def emptySystem : System := { table := [], calls := [], lastRotationAt := fun _ _ => none }

def System.storeOf (system : System) (process : Nat) : Store :=
  { table := system.table, lastRotationAtByTenant := system.lastRotationAt process }

/-! A call that nobody interrupts does what the method does alone. Three turns are
enough for every method, and further turns of a finished call do nothing. -/

def uninterrupted (process now : Nat) (method : Method) : List Event :=
  [.start process now method, .turn 0 now, .turn 0 now, .turn 0 now]

theorem uninterrupted_call (system : System) (idle : system.calls = []) (process now : Nat)
    (method : Method) :
    (Runs.run step system (uninterrupted process now method)).calls = [] ∧
      (Runs.run step system (uninterrupted process now method)).storeOf process =
        (call (system.storeOf process) now method).1 := by
  obtain ⟨table, calls, lastRotationAt⟩ := system
  simp only at idle
  subst idle
  cases method with
  | initializeKeys tenantId generated =>
    by_cases empty : countCurrent tenantId table = 0
    · cases inserted : insertMany (generateKeys tenantId true generated) table <;>
        simp [uninterrupted, Runs.run, step, begin, access, empty, inserted, noteRotation,
          System.storeOf, call, initializeKeys]
    · simp [uninterrupted, Runs.run, step, begin, access, empty, noteRotation, System.storeOf,
        call, initializeKeys]
  | rotate tenantId generated =>
    by_cases allowed : rotationAllowed (lastRotationAt process tenantId) now = true
    · cases inserted : insertMany (generateKeys tenantId false generated) table <;>
        simp [uninterrupted, Runs.run, step, begin, access, allowed, inserted, noteRotation,
          System.storeOf, call, rotate]
    · simp [uninterrupted, Runs.run, step, begin, allowed, System.storeOf, call, rotate]
  | promoteKeys tenantId =>
    cases promoted : promoteUnpromotedActive tenantId table <;>
      simp [uninterrupted, Runs.run, step, begin, access, promoted, noteRotation,
        System.storeOf, call, promoteKeys]
  | retireExpiredKeys tenantId overlapSeconds =>
    simp [uninterrupted, Runs.run, step, begin, access, noteRotation, System.storeOf, call,
      retireExpiredKeys]
  | retireKey kid tenantId =>
    cases refused : retireGuard kid (findAll tenantId table) <;>
      simp [uninterrupted, Runs.run, step, begin, access, refused, noteRotation,
        System.storeOf, call, retireKey]

end ParakoId.KeyStore
