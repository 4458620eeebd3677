import ParakoId.Library.Shadows
import ParakoId.TenantOverrides.PlatformUpdates

/-!
The configuration manager of one process: the platform configuration it holds, the tenant
configurations derived from it, and the updates, reloads and tenant loads that are under way.
-/

namespace ParakoId.ConfigManager

open Config (mergeConfig applyComputedDefaults ComputedContext)
open TenantOverrides (loadTenantConfig)
open Shadows (Shadowed act enter)

structure Pipeline where
  context : ComputedContext
  stripBootstrapFields : Json → Json
  parse : Json → Option Json
  createRuntimeConfig : Json → Option Json
  initialConfig : Json
  hasOverrideService : Bool

def tenantConfigOf (pipeline : Pipeline) (tenantId : String) (cache : Json)
    (document : Option Json) : Json :=
  loadTenantConfig { pipeline.context with tenantId := some tenantId } cache document

/-- The configuration that an update saves; `none` where the schema rejects it. -/
def prepare (pipeline : Pipeline) (changes current : Json) : Option Json :=
  pipeline.parse (applyComputedDefaults pipeline.context
    (pipeline.stripBootstrapFields (mergeConfig current changes)))

def runtimeOf (pipeline : Pipeline) (persisted : Json) : Option Json :=
  (pipeline.createRuntimeConfig persisted).map (applyComputedDefaults pipeline.context)

structure Settings where
  active : Option Json
  version : Nat

def Settings.currentVersion (settings : Settings) : Option Nat :=
  settings.active.map fun _ => settings.version

def Settings.commit (config : Json) (settings : Settings) : Settings :=
  ⟨some config, settings.version + 1⟩

structure Entry where
  config : Json
  epoch : Nat

structure Shared where
  cache : Json
  settings : Settings
  tenantConfigs : String → Option Entry

def Shared.install (runtime : Json) (shared : Shared) : Shared :=
  { shared with cache := runtime, tenantConfigs := fun _ => none }

def Shared.restore (previous : Json) (shared : Shared) : Shared :=
  { shared with cache := previous }

def Shared.commit (config : Json) (shared : Shared) : Shared :=
  { shared with settings := shared.settings.commit config }

def Shared.deactivate (shared : Shared) : Shared :=
  { shared with settings := { shared.settings with active := none } }

def Shared.setTenant (tenantId : String) (entry : Option Entry) (shared : Shared) : Shared :=
  { shared with tenantConfigs := Function.update shared.tenantConfigs tenantId entry }

def Shared.clearTenants (shared : Shared) : Shared :=
  { shared with tenantConfigs := fun _ => none }

inductive LoadPhase
  | reading
  | read (document : Option Json)
  | settled

structure Load where
  tenantId : String
  base : Json
  epoch : Nat
  phase : LoadPhase

inductive UpdatePhase
  | queued
  | readingVersion (attempt : Nat)
  | loading (attempt : Nat) (version : Option Nat)
  | saving (attempt : Nat) (version : Option Nat) (config : Json)
  | inserting (attempt : Nat) (latest : Nat) (config : Json)
  | reloading
  | bootstrapping (persisted : Json)
  | notifying

structure UpdateCall where
  changes : Json
  expectedVersion : Option Nat
  previousCache : Json
  phase : UpdatePhase
  -- ghost: whether the call has changed anything that others share
  acted : Bool

inductive ReloadPhase
  | loading
  | bootstrapping (persisted : Json)
  | notifying

structure Reload where
  previousCache : Json
  phase : ReloadPhase
  restores : Bool

structure Rejection where
  actual : Shared
  expected : Shared

structure Manager where
  world : Shadowed Nat Shared
  overrides : String → Option Json
  tenantConfigLocks : String → Option Nat
  loads : Nat → Option Load
  updates : Nat → Option UpdateCall
  updateQueue : List Nat
  reloads : Nat → Option Reload
  epochs : String → Nat
  rejections : List Rejection

def Manager.shared (manager : Manager) : Shared := manager.world.store

def Manager.start (shared : Shared) (overrides : String → Option Json) : Manager where
  world := ⟨{ shared with tenantConfigs := fun _ => none }, fun _ => shared⟩
  overrides := overrides
  tenantConfigLocks _ := none
  loads _ := none
  updates _ := none
  updateQueue := []
  reloads _ := none
  epochs _ := 0
  rejections := []

def ensureTenantConfig (pipeline : Pipeline) (id : Nat) (tenantId : String) (manager : Manager) :
    Manager :=
  if (manager.shared.tenantConfigs tenantId).isSome ∨
      (manager.tenantConfigLocks tenantId).isSome ∨ (manager.loads id).isSome then manager
  else
    let load : Load := ⟨tenantId, manager.shared.cache, manager.epochs tenantId, .reading⟩
    let locked := { manager with
      tenantConfigLocks := Function.update manager.tenantConfigLocks tenantId (some id) }
    if pipeline.hasOverrideService then
      { locked with loads := Function.update manager.loads id (some load) }
    else
      let entry : Entry := ⟨tenantConfigOf pipeline tenantId load.base none, load.epoch⟩
      { locked with
        loads := Function.update manager.loads id (some { load with phase := .settled })
        world := act none (Shared.setTenant tenantId (some entry)) manager.world }

def overridesRead (id : Nat) (manager : Manager) : Manager :=
  match manager.loads id with
  | some load =>
    match load.phase with
    | .reading =>
      let document := manager.overrides load.tenantId
      { manager with
        loads := Function.update manager.loads id (some { load with phase := .read document }) }
    | _ => manager
  | none => manager

def loadStores (pipeline : Pipeline) (id : Nat) (manager : Manager) : Manager :=
  match manager.loads id with
  | some load =>
    match load.phase with
    | .read document =>
      let entry : Entry :=
        ⟨tenantConfigOf pipeline load.tenantId load.base document, load.epoch⟩
      { manager with
        loads := Function.update manager.loads id (some { load with phase := .settled })
        world := act none (Shared.setTenant load.tenantId (some entry)) manager.world }
    | _ => manager
  | none => manager

def loadFails (id : Nat) (manager : Manager) : Manager :=
  match manager.loads id with
  | some load =>
    { manager with
      loads := Function.update manager.loads id (some { load with phase := .settled }) }
  | none => manager

def lockReleased (id : Nat) (manager : Manager) : Manager :=
  match manager.loads id with
  | some load =>
    match load.phase with
    | .settled =>
      { manager with
        loads := Function.update manager.loads id none
        tenantConfigLocks := Function.update manager.tenantConfigLocks load.tenantId none }
    | _ => manager
  | none => manager

def invalidateTenantConfig (tenantId : String) (manager : Manager) : Manager :=
  { manager with
    world := act none (Shared.setTenant tenantId none) manager.world
    epochs := Function.update manager.epochs tenantId (manager.epochs tenantId + 1) }

def clearTenantConfigs (manager : Manager) : Manager :=
  { manager with
    world := act none Shared.clearTenants manager.world
    epochs := fun tenantId => manager.epochs tenantId + 1 }

def install (actor : Option Nat) (runtime : Json) (manager : Manager) : Manager :=
  { manager with
    world := act actor (Shared.install runtime) manager.world
    epochs := fun tenantId => manager.epochs tenantId + 1 }

def update (id : Nat) (changes : Json) (expectedVersion : Option Nat) (manager : Manager) :
    Manager :=
  if (manager.updates id).isSome then manager
  else
    { manager with
      world := enter id manager.world
      updates := Function.update manager.updates id
        (some ⟨changes, expectedVersion, manager.shared.cache, .queued, false⟩)
      updateQueue := manager.updateQueue ++ [id] }

def withUpdate (id : Nat) (call : UpdateCall) (manager : Manager) : Manager :=
  { manager with updates := Function.update manager.updates id (some call) }

def endUpdate (id : Nat) (manager : Manager) : Manager :=
  { manager with
    updates := Function.update manager.updates id none
    updateQueue := manager.updateQueue.filter (· != id) }

def reject (id : Nat) (call : UpdateCall) (manager : Manager) : Manager :=
  let world := act (some id) (Shared.restore call.previousCache) manager.world
  { endUpdate id manager with
    world := world
    rejections := ⟨world.store, world.shadow id⟩ :: manager.rejections }

def conflicts (settings : Settings) (version : Option Nat) : Bool :=
  version.any fun expected => settings.currentVersion != some expected

def MAX_ATTEMPTS : Nat := 3

def attempt (call : UpdateCall) (number : Nat) : UpdateCall :=
  match call.expectedVersion with
  | some version => { call with phase := .loading number (some version) }
  | none => { call with phase := .readingVersion number }

def retry (id : Nat) (call : UpdateCall) (number : Nat) (manager : Manager) : Manager :=
  if call.expectedVersion = none ∧ number < MAX_ATTEMPTS then
    withUpdate id (attempt call (number + 1)) manager
  else reject id call manager

def continueUpdate (pipeline : Pipeline) (id : Nat) (call : UpdateCall) (manager : Manager) :
    Manager :=
  let settings := manager.shared.settings
  match call.phase with
  | .queued =>
    if manager.updateQueue.head? = some id then
      withUpdate id { attempt call 1 with previousCache := manager.shared.cache } manager
    else manager
  | .readingVersion number =>
    withUpdate id { call with phase := .loading number settings.currentVersion } manager
  | .loading number version =>
    match settings.active with
    | some current =>
      match prepare pipeline call.changes current with
      | some config =>
        withUpdate id { call with phase := .saving number version config } manager
      | none => reject id call manager
    | none =>
      -- the first run writes the defaults
      if settings.version = 0 then
        withUpdate id { call with acted := true } { manager with
          world := act (some id) (Shared.commit pipeline.initialConfig) manager.world }
      else reject id call manager
  | .saving number version config =>
    if conflicts settings version then retry id call number manager
    else
      withUpdate id
        { call with phase := .inserting number settings.version config, acted := true }
        { manager with world := act (some id) Shared.deactivate manager.world }
  | .inserting number latest config =>
    if settings.version ≠ latest then retry id call number manager
    else
      withUpdate id { call with phase := .reloading, acted := true }
        { manager with world := act (some id) (Shared.commit config) manager.world }
  | .reloading =>
    match settings.active with
    | some persisted => withUpdate id { call with phase := .bootstrapping persisted } manager
    | none => reject id call manager
  | .bootstrapping persisted =>
    match runtimeOf pipeline persisted with
    | some runtime =>
      withUpdate id { call with phase := .notifying, acted := true }
        (install (some id) runtime manager)
    | none => reject id call manager
  | .notifying => endUpdate id manager

def failUpdate (id : Nat) (call : UpdateCall) (manager : Manager) : Manager :=
  match call.phase with
  | .queued => manager
  | _ => reject id call manager

def withReload (id : Nat) (call : Reload) (manager : Manager) : Manager :=
  { manager with reloads := Function.update manager.reloads id (some call) }

def endReload (id : Nat) (manager : Manager) : Manager :=
  { manager with reloads := Function.update manager.reloads id none }

def reload (id : Nat) (manager : Manager) : Manager :=
  if (manager.reloads id).isSome then manager
  else withReload id ⟨manager.shared.cache, .loading, true⟩ manager

def handleDbProviderChange (id : Nat) (manager : Manager) : Manager :=
  if (manager.reloads id).isSome then manager
  else match manager.shared.settings.active with
    | some persisted =>
      withReload id ⟨manager.shared.cache, .bootstrapping persisted, false⟩ manager
    | none => manager

def failReload (id : Nat) (call : Reload) (manager : Manager) : Manager :=
  if call.restores then
    { endReload id manager with
      world := act none (Shared.restore call.previousCache) manager.world }
  else endReload id manager

def continueReload (pipeline : Pipeline) (id : Nat) (call : Reload) (manager : Manager) : Manager :=
  let settings := manager.shared.settings
  match call.phase with
  | .loading =>
    match settings.active with
    | some persisted => withReload id { call with phase := .bootstrapping persisted } manager
    | none =>
      if settings.version = 0 then
        { manager with
          world := act none (Shared.commit pipeline.initialConfig) manager.world }
      else failReload id call manager
  | .bootstrapping persisted =>
    match runtimeOf pipeline persisted with
    | some runtime =>
      withReload id { call with phase := .notifying } (install none runtime manager)
    | none => failReload id call manager
  | .notifying => endReload id manager

inductive Event
  | ensureTenantConfig (id : Nat) (tenantId : String)
  | overridesRead (id : Nat)
  | loadStores (id : Nat)
  | loadFails (id : Nat)
  | lockReleased (id : Nat)
  | overridesSaved (tenantId : String) (document : Option Json)
  | invalidateTenantConfig (tenantId : String)
  | clearTenantConfigs
  | update (id : Nat) (changes : Json) (expectedVersion : Option Nat)
  | updateContinues (id : Nat)
  | updateFails (id : Nat)
  | reload (id : Nat)
  | handleDbProviderChange (id : Nat)
  | reloadContinues (id : Nat)
  | reloadFails (id : Nat)
  | settingsSaved (config : Json)

def step (pipeline : Pipeline) (manager : Manager) : Event → Manager
  | .ensureTenantConfig id tenantId => ensureTenantConfig pipeline id tenantId manager
  | .overridesRead id => overridesRead id manager
  | .loadStores id => loadStores pipeline id manager
  | .loadFails id => loadFails id manager
  | .lockReleased id => lockReleased id manager
  | .overridesSaved tenantId document =>
    { manager with overrides := Function.update manager.overrides tenantId document }
  | .invalidateTenantConfig tenantId => invalidateTenantConfig tenantId manager
  | .clearTenantConfigs => clearTenantConfigs manager
  | .update id changes expectedVersion => update id changes expectedVersion manager
  | .updateContinues id =>
    match manager.updates id with
    | some call => continueUpdate pipeline id call manager
    | none => manager
  | .updateFails id =>
    match manager.updates id with
    | some call => failUpdate id call manager
    | none => manager
  | .reload id => reload id manager
  | .handleDbProviderChange id => handleDbProviderChange id manager
  | .reloadContinues id =>
    match manager.reloads id with
    | some call => continueReload pipeline id call manager
    | none => manager
  | .reloadFails id =>
    match manager.reloads id with
    | some call => failReload id call manager
    | none => manager
  -- another process saves the settings
  | .settingsSaved config =>
    { manager with world := act none (Shared.commit config) manager.world }

end ParakoId.ConfigManager
