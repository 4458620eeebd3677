import ParakoId.ConfigManager.Machine

/-! Which tenant configurations are fresh. -/

namespace ParakoId.ConfigManager

def Fresh (manager : Manager) : Prop :=
  ∀ tenantId entry, manager.shared.tenantConfigs tenantId = some entry →
    entry.epoch = manager.epochs tenantId

inductive CacheChange (before after : Manager) : Prop
  | same (configs : after.shared.tenantConfigs = before.shared.tenantConfigs)
      (epochs : after.epochs = before.epochs)
  | cleared (configs : ∀ tenantId, after.shared.tenantConfigs tenantId = none)
  | dropped (tenantId : String)
      (configs : after.shared.tenantConfigs =
        Function.update before.shared.tenantConfigs tenantId none)
      (epochs : ∀ other, other ≠ tenantId → after.epochs other = before.epochs other)
  | loaded (tenantId : String) (entry : Entry) (isFresh : entry.epoch = before.epochs tenantId)
      (configs : after.shared.tenantConfigs =
        Function.update before.shared.tenantConfigs tenantId (some entry))
      (epochs : after.epochs = before.epochs)

theorem CacheChange.fresh {before after : Manager} (change : CacheChange before after)
    (fresh : Fresh before) : Fresh after := by
  intro tenantId entry held
  cases change with
  | same configs epochs =>
    rw [configs] at held
    rw [epochs]
    exact fresh tenantId entry held
  | cleared configs =>
    rw [configs] at held
    cases held
  | dropped dropped configs epochs =>
    rw [configs] at held
    by_cases same : tenantId = dropped
    · rw [same, Function.update_self] at held
      cases held
    · rw [Function.update_of_ne same] at held
      rw [epochs tenantId same]
      exact fresh tenantId entry held
  | loaded loaded stored isFresh configs epochs =>
    rw [configs] at held
    rw [epochs]
    by_cases same : tenantId = loaded
    · rw [same, Function.update_self] at held
      injection held with isEntry
      rw [same, ← isEntry, isFresh]
    · rw [Function.update_of_ne same] at held
      exact fresh tenantId entry held

theorem ensureTenantConfig_cache (pipeline : Pipeline) (id : Nat) (tenantId : String)
    (manager : Manager) : CacheChange manager (ensureTenantConfig pipeline id tenantId manager) := by
  simp only [ensureTenantConfig]
  split
  · exact .same rfl rfl
  · split
    · exact .same rfl rfl
    · exact .loaded tenantId _ rfl rfl rfl

theorem overridesRead_cache (id : Nat) (manager : Manager) :
    CacheChange manager (overridesRead id manager) := by
  simp only [overridesRead]
  split
  · split
    · exact .same rfl rfl
    · exact .same rfl rfl
  · exact .same rfl rfl

theorem loadFails_cache (id : Nat) (manager : Manager) :
    CacheChange manager (loadFails id manager) := by
  simp only [loadFails]
  split
  · exact .same rfl rfl
  · exact .same rfl rfl

theorem lockReleased_cache (id : Nat) (manager : Manager) :
    CacheChange manager (lockReleased id manager) := by
  simp only [lockReleased]
  split
  · split
    · exact .same rfl rfl
    · exact .same rfl rfl
  · exact .same rfl rfl

theorem update_cache (id : Nat) (changes : Json) (expectedVersion : Option Nat)
    (manager : Manager) : CacheChange manager (update id changes expectedVersion manager) := by
  simp only [update]
  split
  · exact .same rfl rfl
  · exact .same rfl rfl

theorem retry_cache (id : Nat) (call : UpdateCall) (number : Nat) (manager : Manager) :
    CacheChange manager (retry id call number manager) := by
  simp only [retry]
  split
  · exact .same rfl rfl
  · exact .same rfl rfl

theorem continueUpdate_cache (pipeline : Pipeline) (id : Nat) (call : UpdateCall)
    (manager : Manager) : CacheChange manager (continueUpdate pipeline id call manager) := by
  simp only [continueUpdate]
  split
  case h_1 =>
    split
    · exact .same rfl rfl
    · exact .same rfl rfl
  case h_2 => exact .same rfl rfl
  case h_3 =>
    split
    · split
      · exact .same rfl rfl
      · exact .same rfl rfl
    · split
      · exact .same rfl rfl
      · exact .same rfl rfl
  case h_4 =>
    split
    · exact retry_cache id call _ manager
    · exact .same rfl rfl
  case h_5 =>
    split
    · exact retry_cache id call _ manager
    · exact .same rfl rfl
  case h_6 =>
    split
    · exact .same rfl rfl
    · exact .same rfl rfl
  case h_7 =>
    split
    · exact .cleared fun _ => rfl
    · exact .same rfl rfl
  case h_8 => exact .same rfl rfl

theorem failUpdate_cache (id : Nat) (call : UpdateCall) (manager : Manager) :
    CacheChange manager (failUpdate id call manager) := by
  simp only [failUpdate]
  split
  · exact .same rfl rfl
  · exact .same rfl rfl

theorem failReload_cache (id : Nat) (call : Reload) (manager : Manager) :
    CacheChange manager (failReload id call manager) := by
  simp only [failReload]
  split
  · exact .same rfl rfl
  · exact .same rfl rfl

theorem continueReload_cache (pipeline : Pipeline) (id : Nat) (call : Reload)
    (manager : Manager) : CacheChange manager (continueReload pipeline id call manager) := by
  simp only [continueReload]
  split
  · split
    · exact .same rfl rfl
    · split
      · exact .same rfl rfl
      · exact failReload_cache id call manager
  · split
    · exact .cleared fun _ => rfl
    · exact failReload_cache id call manager
  · exact .same rfl rfl

theorem invalidateTenantConfig_cache (tenantId : String) (manager : Manager) :
    CacheChange manager (invalidateTenantConfig tenantId manager) :=
  .dropped tenantId rfl fun _ different => Function.update_of_ne different _ _

theorem reload_cache (id : Nat) (manager : Manager) : CacheChange manager (reload id manager) := by
  simp only [reload]
  split
  · exact .same rfl rfl
  · exact .same rfl rfl

theorem handleDbProviderChange_cache (id : Nat) (manager : Manager) :
    CacheChange manager (handleDbProviderChange id manager) := by
  simp only [handleDbProviderChange]
  split
  · exact .same rfl rfl
  · split
    · exact .same rfl rfl
    · exact .same rfl rfl

theorem step_cache (pipeline : Pipeline) (manager : Manager) {event : Event}
    (noStore : ∀ id, event ≠ .loadStores id) : CacheChange manager (step pipeline manager event) := by
  cases event with
  | ensureTenantConfig id tenantId => exact ensureTenantConfig_cache pipeline id tenantId manager
  | overridesRead id => exact overridesRead_cache id manager
  | loadStores id => exact absurd rfl (noStore id)
  | loadFails id => exact loadFails_cache id manager
  | lockReleased id => exact lockReleased_cache id manager
  | overridesSaved tenantId document => exact .same rfl rfl
  | invalidateTenantConfig tenantId => exact invalidateTenantConfig_cache tenantId manager
  | clearTenantConfigs => exact .cleared fun _ => rfl
  | update id changes expectedVersion => exact update_cache id changes expectedVersion manager
  | updateContinues id =>
    simp only [step]
    split
    · exact continueUpdate_cache pipeline id _ manager
    · exact .same rfl rfl
  | updateFails id =>
    simp only [step]
    split
    · exact failUpdate_cache id _ manager
    · exact .same rfl rfl
  | reload id => exact reload_cache id manager
  | handleDbProviderChange id => exact handleDbProviderChange_cache id manager
  | reloadContinues id =>
    simp only [step]
    split
    · exact continueReload_cache pipeline id _ manager
    · exact .same rfl rfl
  | reloadFails id =>
    simp only [step]
    split
    · exact failReload_cache id _ manager
    · exact .same rfl rfl
  | settingsSaved config => exact .same rfl rfl

def StoresCurrent (manager : Manager) : Event → Prop
  | .loadStores id => ∀ load document, manager.loads id = some load →
      load.phase = .read document → load.epoch = manager.epochs load.tenantId
  | _ => True

theorem loadStores_stored (pipeline : Pipeline) {id : Nat} {manager : Manager} {load : Load}
    {document : Option Json} (isLoad : manager.loads id = some load)
    (isRead : load.phase = .read document) :
    (loadStores pipeline id manager).shared.tenantConfigs =
        Function.update manager.shared.tenantConfigs load.tenantId
          (some ⟨tenantConfigOf pipeline load.tenantId load.base document, load.epoch⟩) ∧
      (loadStores pipeline id manager).epochs = manager.epochs := by
  simp only [loadStores, isLoad, isRead]
  exact ⟨rfl, trivial⟩

theorem loadStores_idle {pipeline : Pipeline} {id : Nat} {manager : Manager}
    (idle : ∀ load document, manager.loads id = some load → load.phase ≠ .read document) :
    loadStores pipeline id manager = manager := by
  simp only [loadStores]
  split
  next load isLoad =>
    split
    next document isRead => exact absurd isRead (idle load document isLoad)
    next => rfl
  next => rfl

theorem loadStores_fresh_iff (pipeline : Pipeline) (id : Nat) {manager : Manager}
    (fresh : Fresh manager) :
    Fresh (loadStores pipeline id manager) ↔ StoresCurrent manager (.loadStores id) := by
  by_cases reads : ∃ load document, manager.loads id = some load ∧ load.phase = .read document
  · obtain ⟨load, document, isLoad, isRead⟩ := reads
    obtain ⟨configs, epochs⟩ := loadStores_stored pipeline isLoad isRead
    constructor
    · intro freshAfter other otherDocument isOther _
      have same : other = load := Option.some.inj (isOther.symm.trans isLoad)
      subst same
      have held : (loadStores pipeline id manager).shared.tenantConfigs other.tenantId =
          some ⟨tenantConfigOf pipeline other.tenantId other.base document, other.epoch⟩ := by
        rw [configs, Function.update_self]
      have current := freshAfter other.tenantId _ held
      rwa [epochs] at current
    · intro current
      have isFresh := current load document isLoad isRead
      exact (CacheChange.loaded load.tenantId _ isFresh configs epochs).fresh fresh
  · have idle : ∀ load document, manager.loads id = some load → load.phase ≠ .read document :=
      fun load document isLoad isRead => reads ⟨load, document, isLoad, isRead⟩
    rw [loadStores_idle idle]
    refine ⟨fun _ load document isLoad isRead => ?_, fun _ => fresh⟩
    exact absurd isRead (idle load document isLoad)

theorem step_fresh_iff (pipeline : Pipeline) (manager : Manager) (event : Event)
    (fresh : Fresh manager) :
    Fresh (step pipeline manager event) ↔ StoresCurrent manager event := by
  by_cases stores : ∃ id, event = .loadStores id
  · obtain ⟨id, rfl⟩ := stores
    exact loadStores_fresh_iff pipeline id fresh
  · have noStore : ∀ id, event ≠ .loadStores id := fun id same => stores ⟨id, same⟩
    have allowed : StoresCurrent manager event := by
      cases event with
      | loadStores id => exact absurd rfl (noStore id)
      | _ => trivial
    exact iff_of_true ((step_cache pipeline manager noStore).fresh fresh) allowed

/-- Over every interleaving, the tenant configurations are fresh at every time exactly if no
load stores its result after an invalidation that came while it was under way. -/
theorem always_fresh_iff (pipeline : Pipeline) (shared : Shared)
    (overrides : String → Option Json) (events : List Event) :
    Runs.AlwaysFrom (step pipeline) Fresh (Manager.start shared overrides) events ↔
      Runs.AllowedFrom (step pipeline) StoresCurrent (Manager.start shared overrides) events := by
  have freshStart : Fresh (Manager.start shared overrides) := by
    intro tenantId entry held
    cases held
  exact Runs.always_iff_allowed (step pipeline) (fun _ _ inside => inside)
    (fun manager event (_ : True) => step_fresh_iff pipeline manager event) trivial freshStart

def plainPipeline : Pipeline where
  context := TenantOverrides.plainContext
  stripBootstrapFields config := config
  parse := some
  createRuntimeConfig := some
  initialConfig := .obj [] fun _ => .null
  hasOverrideService := true

def emptyShared : Shared := ⟨.obj [] fun _ => .null, ⟨none, 0⟩, fun _ => none⟩

def invalidatedWhileLoading (document : Json) : List Event :=
  [.ensureTenantConfig 0 "acme", .overridesRead 0, .overridesSaved "acme" (some document),
    .invalidateTenantConfig "acme", .loadStores 0]

theorem staleLoad_isStored (document : Json) :
    let manager := Runs.run (step plainPipeline) (Manager.start emptyShared fun _ => none)
      (invalidatedWhileLoading document)
    manager.overrides "acme" = some document ∧
      manager.shared.tenantConfigs "acme" =
        some ⟨tenantConfigOf plainPipeline "acme" emptyShared.cache none, 0⟩ ∧
      manager.epochs "acme" = 1 := by
  refine ⟨rfl, rfl, rfl⟩

theorem not_always_fresh :
    ¬ Runs.AlwaysFrom (step plainPipeline) Fresh (Manager.start emptyShared fun _ => none)
      (invalidatedWhileLoading .null) := by
  intro always
  have fresh := always.final
  obtain ⟨_, held, invalidated⟩ := staleLoad_isStored .null
  have epoch := fresh "acme" _ held
  rw [invalidated] at epoch
  cases epoch

end ParakoId.ConfigManager
