import ParakoId.TenantProviders.System

/-!
The size of the pool, the creations under way for one tenant, and the tenants that have
handlers, over every interleaving.
-/

namespace ParakoId.TenantProviders

open TenantScope (SYSTEM_TENANTS isTenantSlug)

variable {Keys : Type}

def Exclusive (system : System Keys) : Prop :=
  ∀ first second creation other, system.creations first = some creation →
    system.creations second = some other → creation.isRunning = true → other.isRunning = true →
      creation.tenantId = other.tenantId → first = second

structure Consistent (config : PoolConfig) (system : System Keys) : Prop where
  bounded : system.registry.pool.size ≤ config.max_size
  exclusive : Exclusive system
  handlers : ∀ tenantId,
    tenantId ∈ system.registry.jwksHandlers.keys ↔ tenantId ∈ system.registry.pool.keys

def StaysConsistent (config : PoolConfig) (system : System Keys) : Event Keys → Prop
  | .getProvider id tenantId _ => Starts id tenantId system →
      ∀ other creation, system.creations other = some creation → creation.isRunning = true →
        creation.tenantId ≠ tenantId
  | .creationContinues id _ _ _ =>
    ∀ creation, system.creations id = some creation → creation.phase = .configuring →
      creation.tenantId ∈ system.registry.pool.keys ∨
        system.registry.pool.size < config.max_size
  | _ => True

variable {system after : System Keys}

theorem Exclusive.moves {id : Nat} {creation next : Creation} (exclusive : Exclusive system)
    (isCreation : system.creations id = some creation)
    (creations : after.creations = Function.update system.creations id (some next))
    (tenant : next.tenantId = creation.tenantId)
    (running : next.isRunning = true → creation.isRunning = true) : Exclusive after := by
  -- every creation of the system after was one before, for the same tenant and running
  have earlier : ∀ other current, after.creations other = some current →
      current.isRunning = true → ∃ before, system.creations other = some before ∧
        before.isRunning = true ∧ before.tenantId = current.tenantId := by
    intro other current isCurrent isRunning
    rw [creations] at isCurrent
    by_cases same : other = id
    · subst same
      rw [Function.update_self] at isCurrent
      injection isCurrent with isNext
      subst isNext
      exact ⟨creation, isCreation, running isRunning, tenant.symm⟩
    · rw [Function.update_of_ne same] at isCurrent
      exact ⟨current, isCurrent, isRunning, rfl⟩
  intro first second a b isFirst isSecond runs runs' sameTenant
  obtain ⟨a', isFirst', aRuns, aTenant⟩ := earlier first a isFirst runs
  obtain ⟨b', isSecond', bRuns, bTenant⟩ := earlier second b isSecond runs'
  exact exclusive first second a' b' isFirst' isSecond' aRuns bRuns
    (aTenant.trans (sameTenant.trans bTenant.symm))

theorem exclusive_starts_iff {id : Nat} {tenantId : String} (exclusive : Exclusive system)
    (fresh : system.creations id = none)
    (creations : after.creations =
      Function.update system.creations id (some ⟨tenantId, .findingTenant⟩)) :
    Exclusive after ↔ ∀ other creation, system.creations other = some creation →
      creation.isRunning = true → creation.tenantId ≠ tenantId := by
  have isNew : after.creations id = some ⟨tenantId, .findingTenant⟩ := by
    rw [creations, Function.update_self]
  have kept : ∀ other, other ≠ id → after.creations other = system.creations other := by
    intro other different
    rw [creations, Function.update_of_ne different]
  constructor
  · intro after_exclusive other creation isCreation running sameTenant
    have different : other ≠ id := by
      rintro rfl
      rw [fresh] at isCreation
      cases isCreation
    exact different (after_exclusive other id creation _ ((kept other different).trans isCreation)
      isNew running rfl sameTenant)
  · intro noneRunning first second a b isFirst isSecond runs runs' sameTenant
    by_cases firstNew : first = id
    · by_cases secondNew : second = id
      · rw [firstNew, secondNew]
      · rw [firstNew, isNew] at isFirst
        rw [kept second secondNew] at isSecond
        injection isFirst with isFirst
        rw [← isFirst] at sameTenant
        exact absurd sameTenant.symm (noneRunning second b isSecond runs')
    · rw [kept first firstNew] at isFirst
      by_cases secondNew : second = id
      · rw [secondNew, isNew] at isSecond
        injection isSecond with isSecond
        rw [← isSecond] at sameTenant
        exact absurd sameTenant (noneRunning first a isFirst runs)
      · rw [kept second secondNew] at isSecond
        exact exclusive first second a b isFirst isSecond runs runs' sameTenant

theorem Turn.sound {before : System Keys} {event : Event Keys} (turn : Turn before event after)
    (sound : before.registry.Sound) : after.registry.Sound := by
  cases turn with
  | narrows _ registry narrowed _ => exact narrowed.sound sound
  | starts _ _ => exact (setLocks_narrows _ _).sound sound
  | moves _ registry _ _ _ narrowed _ => exact narrowed.sound sound
  | releases _ _ _ => exact (setLocks_narrows _ _).sound sound
  | stores _ _ now _ _ => exact store_sound sound _ _ now
  | initializes _ _ _ _ _ | reads _ _ _ _ _ | keysChange _ _ _ | delivers _ | reloadReads _ _
  | reloadWrites _ _ | reloadFails _ => exact sound

theorem Turn.exclusive {before : System Keys} {event : Event Keys}
    (turn : Turn before event after) (exclusive : Exclusive before)
    (alone : ∀ id tenantId now, event = .getProvider id tenantId now →
      Starts id tenantId before → ∀ other creation, before.creations other = some creation →
        creation.isRunning = true → creation.tenantId ≠ tenantId) : Exclusive after := by
  cases turn with
  | starts now starts =>
    exact (exclusive_starts_iff exclusive starts.fresh rfl).mpr (alone _ _ now rfl starts)
  | moves _ registry isCreation running _ _ _ =>
    exact exclusive.moves isCreation rfl rfl fun _ => running
  | releases _ isCreation _ =>
    exact exclusive.moves isCreation rfl rfl fun released => by cases released
  | initializes _ _ _ isCreation isPhase =>
    exact exclusive.moves isCreation rfl rfl fun _ => by rw [Creation.isRunning, isPhase]
  | reads _ _ _ isCreation isPhase =>
    exact exclusive.moves isCreation rfl rfl fun _ => by rw [Creation.isRunning, isPhase]
  | stores _ _ _ isCreation _ =>
    exact exclusive.moves isCreation rfl rfl fun settled => by cases settled
  | narrows _ _ _ _ | keysChange _ _ _ | delivers _ | reloadReads _ _ | reloadWrites _ _
  | reloadFails _ => exact exclusive

theorem Turn.bounded {before : System Keys} {event : Event Keys} {bound : Nat}
    (turn : Turn before event after) (bounded : before.registry.pool.size ≤ bound)
    (room : ∀ id found generated now creation,
      event = .creationContinues id found generated now →
        before.creations id = some creation → creation.phase = .configuring →
          creation.tenantId ∈ before.registry.pool.keys ∨ before.registry.pool.size < bound) :
    after.registry.pool.size ≤ bound := by
  cases turn with
  | narrows _ registry narrowed _ => exact Nat.le_trans narrowed.size bounded
  | moves _ registry _ _ _ narrowed _ => exact Nat.le_trans narrowed.size bounded
  | stores found generated now isCreation isPhase =>
    exact (InsertionMap.size_set_le_iff _ bounded).mpr
      (room _ found generated now _ rfl isCreation isPhase)
  | starts _ _ | releases _ _ _ | initializes _ _ _ _ _ | reads _ _ _ _ _ | keysChange _ _ _
  | delivers _ | reloadReads _ _ | reloadWrites _ _ | reloadFails _ => exact bounded

theorem step_of_starts {config : PoolConfig} {id : Nat} {tenantId : String}
    (starts : Starts id tenantId system) (now : Nat) :
    step config system (.getProvider id tenantId now) =
      withCreation id ⟨tenantId, .findingTenant⟩ { system with registry := { system.registry with
        locks := Function.update system.registry.locks tenantId (some id) } } := by
  have accepted : ¬(tenantId ∉ SYSTEM_TENANTS ∧ isTenantSlug tenantId = false) := by
    rintro ⟨notSystem, notSlug⟩
    rcases starts.accepted with isSystem | isSlug
    · exact notSystem isSystem
    · rw [notSlug] at isSlug
      cases isSlug
  simp only [step, starts.fresh, Option.isSome_none, Bool.false_eq_true, if_false, getProvider,
    if_neg accepted, starts.unpooled, starts.unlocked]

theorem step_of_configuring {config : PoolConfig} {id : Nat} {creation : Creation}
    (isCreation : system.creations id = some creation) (isPhase : creation.phase = .configuring)
    (found : Bool) (generated : Keys) (now : Nat) :
    step config system (.creationContinues id found generated now) =
      configured id creation now system := by
  simp only [step, isCreation, continueCreation, isPhase]

theorem consistent_step_iff (config : PoolConfig) (system : System Keys) (event : Event Keys)
    (sound : system.registry.Sound) (consistent : Consistent config system) :
    Consistent config (step config system event) ↔ StaysConsistent config system event := by
  have turn := step_turn config system event
  constructor
  · intro stays
    cases event with
    | getProvider id tenantId now =>
      intro starts
      have exclusive := stays.exclusive
      rw [step_of_starts starts now] at exclusive
      exact (exclusive_starts_iff consistent.exclusive starts.fresh rfl).mp exclusive
    | creationContinues id found generated now =>
      intro creation isCreation isPhase
      have bounded := stays.bounded
      rw [step_of_configuring isCreation isPhase] at bounded
      exact (InsertionMap.size_set_le_iff _ consistent.bounded).mp bounded
    | _ => trivial
  · intro allowed
    constructor
    · apply turn.bounded consistent.bounded
      rintro id found generated now creation rfl
      exact allowed creation
    · apply turn.exclusive consistent.exclusive
      rintro id tenantId now rfl
      exact allowed
    · exact (turn.sound sound).matched

theorem start_consistent (config : PoolConfig) (multiTenancy : Bool)
    (keyStore : String → Option Keys) :
    Consistent config (System.start multiTenancy keyStore) where
  bounded := Nat.zero_le _
  exclusive _ _ _ _ isCreation := by cases isCreation
  handlers _ := Iff.rfl

/-- Over every interleaving, the pool stays within its size with one creation at most running
for each tenant and handlers for the pooled tenants exactly, if and only if no creation begins
beside another for its tenant, and each one that stores finds room. -/
theorem always_consistent_iff (config : PoolConfig) (multiTenancy : Bool)
    (keyStore : String → Option Keys) (events : List (Event Keys)) :
    Runs.AlwaysFrom (step config) (Consistent config) (System.start multiTenancy keyStore)
        events ↔
      Runs.AllowedFrom (step config) (StaysConsistent config)
        (System.start multiTenancy keyStore) events :=
  Runs.always_iff_allowed (step config)
    (fun system event sound => (step_turn config system event).sound sound)
    (consistent_step_iff config) (start_sound multiTenancy)
    (start_consistent config multiTenancy keyStore)

def creationsOfTwoTenants : List (Event Unit) :=
  let bothContinue : List (Event Unit) :=
    [.creationContinues 0 true () 0, .creationContinues 1 true () 0]
  [.getProvider 0 "acme" 0, .getProvider 1 "globex" 0] ++ bothContinue ++ bothContinue ++
    bothContinue ++ bothContinue

def creationsAroundShutdown : List (Event Unit) :=
  [.getProvider 0 "acme" 0, .shutdown, .getProvider 1 "acme" 0]

theorem creations_overflow_and_double :
    let start : System Unit := System.start true fun _ => none
    let config : PoolConfig := ⟨1, 1000⟩
    (Runs.run (step config) start creationsOfTwoTenants).registry.pool.size = 2 ∧
      ¬ Runs.AlwaysFrom (step config) (Consistent config) start creationsOfTwoTenants ∧
      ¬ Runs.AlwaysFrom (step config) (Consistent config) start creationsAroundShutdown := by
  have two : (Runs.run (step ⟨1, 1000⟩) (System.start true fun _ => none)
      creationsOfTwoTenants).registry.pool.size = 2 := by decide +kernel
  refine ⟨two, ?_, ?_⟩
  · intro always
    have bounded := always.final.bounded
    rw [two] at bounded
    exact absurd bounded (by decide)
  · intro always
    have exclusive := always.final.exclusive
    have same : 0 = 1 := exclusive 0 1 ⟨"acme", .findingTenant⟩ ⟨"acme", .findingTenant⟩
      (by rfl) (by rfl) rfl rfl rfl
    omega

end ParakoId.TenantProviders
