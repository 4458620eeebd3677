import ParakoId.Library.Runs
import ParakoId.TenantProviders.Registry
import ParakoId.TenantScope.Extension

/-!
Creations of providers and reloads of their keys, under way in any number, and the change
events that start reloads. An event is a turn between two awaits.
-/

namespace ParakoId.TenantProviders

open TenantScope (SYSTEM_TENANTS DEFAULT_TENANT_ID isTenantSlug)

inductive CreationPhase
  | findingTenant
  | initializing
  | readingJWKS
  | configuring
  | settled (outcome : Except String Nat)
  | released

structure Creation where
  tenantId : String
  phase : CreationPhase

def Creation.isRunning (creation : Creation) : Bool :=
  match creation.phase with
  | .settled _ | .released => false
  | _ => true

inductive ReloadPhase (Keys : Type)
  | reading
  | read (jwks : Option Keys)

structure Reload (Keys : Type) where
  tenantId : String
  provider : Nat
  phase : ReloadPhase Keys

/-- The keys of a tenant are `none` until the key store has generated some, those of a
provider until it is built. A change event is among `messages` from the change of the keys
on, until it is delivered. -/
structure System (Keys : Type) where
  registry : Registry
  creations : Nat → Option Creation
  providers : Nat → Option Keys
  keyStore : String → Option Keys
  messages : List String
  reloads : List (Reload Keys)

def System.start {Keys : Type} (multiTenancy : Bool) (keyStore : String → Option Keys) :
    System Keys where
  registry := .start multiTenancy
  creations _ := none
  providers _ := none
  keyStore := keyStore
  messages := []
  reloads := []

section Calls

variable {Keys : Type}

def withCreation (id : Nat) (creation : Creation) (system : System Keys) : System Keys :=
  { system with creations := Function.update system.creations id (some creation) }

def settle (id : Nat) (creation : Creation) (outcome : Except String Nat)
    (system : System Keys) : System Keys :=
  withCreation id { creation with phase := .settled outcome } system

inductive Response
  | rejects (message : String)
  | resolves (provider : Nat)
  | awaits (creation : Nat)

def getProvider (id : Nat) (tenantId : String) (now : Nat) (system : System Keys) :
    Response × System Keys :=
  if tenantId ∉ SYSTEM_TENANTS ∧ isTenantSlug tenantId = false then
    (.rejects ("[TenantProviderRegistry] Invalid tenant ID format: " ++
      String.ofList (tenantId.toList.take 64)), system)
  else
    match system.registry.pool.get tenantId with
    | some entry =>
      (.resolves entry.provider,
        { system with registry := system.registry.touch tenantId entry now })
    | none =>
      match system.registry.locks tenantId with
      | some lock => (.awaits lock, system)
      | none =>
        let locks := Function.update system.registry.locks tenantId (some id)
        (.awaits id, withCreation id ⟨tenantId, .findingTenant⟩
          { system with registry := { system.registry with locks := locks } })

/-- What `createProvider` throws where there is no tenant. -/
def missingTenant (tenantId : String) : Option String :=
  if tenantId = DEFAULT_TENANT_ID then
    some ("[TenantProviderRegistry] No tenant resolved — multi-tenancy is enabled. " ++
      "Use a subdomain (e.g., acme.parako.test) or set the x-tenant-id header.")
  else if tenantId ∈ SYSTEM_TENANTS then none
  else some ("[TenantProviderRegistry] Tenant not found: " ++ tenantId)

def tenantFound (config : PoolConfig) (id : Nat) (creation : Creation) (found : Bool)
    (system : System Keys) : System Keys :=
  match if found then none else missingTenant creation.tenantId with
  | some message => settle id creation (.error message) system
  | none =>
    let next : Creation := { creation with phase := .initializing }
    if system.registry.pool.size ≥ config.max_size then
      match evictLRU system.registry with
      | some evicted => withCreation id next { system with registry := evicted }
      | none => settle id creation
          (.error "Cannot read properties of undefined (reading 'rotatedChannel')") system
    else withCreation id next system

/-- `keyStore.initialize`: keys are generated for a tenant that has none. -/
def initialized (id : Nat) (creation : Creation) (generated : Keys) (system : System Keys) :
    System Keys :=
  let keys := (system.keyStore creation.tenantId).getD generated
  withCreation id { creation with phase := .readingJWKS }
    { system with keyStore := Function.update system.keyStore creation.tenantId (some keys) }

def jwksRead (id : Nat) (creation : Creation) (system : System Keys) : System Keys :=
  withCreation id { creation with phase := .configuring }
    { system with
      providers := Function.update system.providers id (system.keyStore creation.tenantId) }

def configured (id : Nat) (creation : Creation) (now : Nat) (system : System Keys) :
    System Keys :=
  settle id creation (.ok id)
    { system with registry := system.registry.store creation.tenantId id now }

/-- `createProvider` between two of its awaits; `found`, `generated` and `now` are what the
tenant repository, the key generation and the clock give. -/
def continueCreation (config : PoolConfig) (id : Nat) (creation : Creation) (found : Bool)
    (generated : Keys) (now : Nat) (system : System Keys) : System Keys :=
  match creation.phase with
  | .findingTenant => tenantFound config id creation found system
  | .initializing => initialized id creation generated system
  | .readingJWKS => jwksRead id creation system
  | .configuring => configured id creation now system
  | .settled _ =>
    -- `finally`: the tenant's lock goes, whoever holds it
    let locks := Function.update system.registry.locks creation.tenantId none
    withCreation id { creation with phase := .released }
      { system with registry := { system.registry with locks := locks } }
  | .released => system

def failCreation (id : Nat) (creation : Creation) (message : String) (system : System Keys) :
    System Keys :=
  if creation.isRunning then settle id creation (.error message) system else system

def reloadProviderJWKS (tenantId : String) (system : System Keys) : System Keys :=
  match system.registry.pool.get tenantId with
  | some entry =>
    { system with reloads := system.reloads ++ [⟨tenantId, entry.provider, .reading⟩] }
  | none => system

def deliver (tenantId : String) (system : System Keys) : System Keys :=
  let handlers := system.registry.subscriptions.filter fun handler => handler.1 = tenantId
  handlers.foldl (fun current handler => reloadProviderJWKS handler.1 current)
    { system with messages := system.messages.erase tenantId }

def reloadReads (index : Nat) (reload : Reload Keys) (system : System Keys) : System Keys :=
  match reload.phase with
  | .reading =>
    let next := { reload with phase := .read (system.keyStore reload.tenantId) }
    { system with reloads := system.reloads.set index next }
  | .read _ => system

def reloadWrites (index : Nat) (reload : Reload Keys) (system : System Keys) : System Keys :=
  match reload.phase with
  | .reading => system
  | .read jwks =>
    { system with
      providers := Function.update system.providers reload.provider jwks
      reloads := system.reloads.eraseIdx index }

/-- Of a change that is not `heard` no handler gets to know: expired keys are retired without an
event, the API publishes on a channel of its own, and a publisher may not be connected. -/
def changeKeys (tenantId : String) (keys : Keys) (heard : Bool) (system : System Keys) :
    System Keys :=
  { system with
    keyStore := Function.update system.keyStore tenantId (some keys)
    messages := if heard then system.messages ++ [tenantId] else system.messages }

end Calls

inductive Event (Keys : Type)
  | getProvider (id : Nat) (tenantId : String) (now : Nat)
  | creationContinues (id : Nat) (found : Bool) (generated : Keys) (now : Nat)
  | creationFails (id : Nat) (message : String)
  | evictIdle (now : Nat)
  | shutdown
  | keysChange (tenantId : String) (keys : Keys) (heard : Bool)
  | delivers (tenantId : String)
  | reloadReads (index : Nat)
  | reloadWrites (index : Nat)
  | reloadFails (index : Nat)

def step {Keys : Type} (config : PoolConfig) (system : System Keys) :
    Event Keys → System Keys
  | .getProvider id tenantId now =>
    if (system.creations id).isSome then system else (getProvider id tenantId now system).2
  | .creationContinues id found generated now =>
    match system.creations id with
    | some creation => continueCreation config id creation found generated now system
    | none => system
  | .creationFails id message =>
    match system.creations id with
    | some creation => failCreation id creation message system
    | none => system
  | .evictIdle now => { system with registry := evictIdle config now system.registry }
  | .shutdown => { system with registry := shutdown system.registry }
  | .keysChange tenantId keys heard => changeKeys tenantId keys heard system
  | .delivers tenantId =>
    if tenantId ∈ system.messages then deliver tenantId system else system
  | .reloadReads index =>
    match system.reloads[index]? with
    | some reload => reloadReads index reload system
    | none => system
  | .reloadWrites index =>
    match system.reloads[index]? with
    | some reload => reloadWrites index reload system
    | none => system
  | .reloadFails index => { system with reloads := system.reloads.eraseIdx index }

def startedReloads {Keys : Type} (tenantId : String) (registry : Registry) :
    List (Reload Keys) :=
  (registry.subscriptions.filter fun handler => handler.1 = tenantId).filterMap fun handler =>
    (registry.pool.get handler.1).map fun entry => ⟨handler.1, entry.provider, .reading⟩

theorem deliver_eq {Keys : Type} (tenantId : String) (system : System Keys) :
    deliver tenantId system = { system with
      messages := system.messages.erase tenantId
      reloads := system.reloads ++ startedReloads tenantId system.registry } := by
  have each : ∀ (handlers : List (String × Nat)) (current : System Keys),
      handlers.foldl (fun current handler => reloadProviderJWKS handler.1 current) current =
        { current with reloads := current.reloads ++ handlers.filterMap fun handler =>
            (current.registry.pool.get handler.1).map fun entry =>
              ⟨handler.1, entry.provider, .reading⟩ } := by
    intro handlers
    induction handlers with
    | nil =>
      intro current
      simp only [List.foldl_nil, List.filterMap_nil, List.append_nil]
    | cons handler rest ih =>
      intro current
      rw [List.foldl_cons, ih, reloadProviderJWKS]
      cases isEntry : current.registry.pool.get handler.1 with
      | none => simp only [List.filterMap_cons, isEntry, Option.map_none]
      | some entry =>
        simp only [List.filterMap_cons, isEntry, Option.map_some, List.append_assoc,
          List.singleton_append]
  exact each _ _

structure Starts {Keys : Type} (id : Nat) (tenantId : String) (system : System Keys) : Prop where
  fresh : system.creations id = none
  accepted : tenantId ∈ SYSTEM_TENANTS ∨ isTenantSlug tenantId = true
  unpooled : system.registry.pool.get tenantId = none
  unlocked : system.registry.locks tenantId = none

def CreationPhase.IsKeyless (phase next : CreationPhase) : Prop :=
  (phase = .findingTenant ∧ next = .initializing) ∨ ∃ outcome, next = .settled outcome

inductive Turn {Keys : Type} (before : System Keys) : Event Keys → System Keys → Prop
  | narrows (event) (registry : Registry) (narrowed : Narrows before.registry registry)
      (locks : event = .shutdown ∨ registry.locks = before.registry.locks) :
      Turn before event { before with registry := registry }
  | starts {id tenantId} (now) (starts : Starts id tenantId before) :
      Turn before (.getProvider id tenantId now) (withCreation id ⟨tenantId, .findingTenant⟩
        { before with registry := { before.registry with
            locks := Function.update before.registry.locks tenantId (some id) } })
  | moves (event) {id creation phase} (registry : Registry)
      (isCreation : before.creations id = some creation) (running : creation.isRunning = true)
      (keyless : creation.phase.IsKeyless phase) (narrowed : Narrows before.registry registry)
      (locks : registry.locks = before.registry.locks) :
      Turn before event (withCreation id { creation with phase := phase }
        { before with registry := registry })
  | releases (event) {id creation outcome} (isCreation : before.creations id = some creation)
      (isSettled : creation.phase = .settled outcome) :
      Turn before event (withCreation id { creation with phase := .released }
        { before with registry := { before.registry with
            locks := Function.update before.registry.locks creation.tenantId none } })
  | initializes {id creation} (found generated now)
      (isCreation : before.creations id = some creation)
      (isPhase : creation.phase = .initializing) :
      Turn before (.creationContinues id found generated now)
        (initialized id creation generated before)
  | reads {id creation} (found generated now) (isCreation : before.creations id = some creation)
      (isPhase : creation.phase = .readingJWKS) :
      Turn before (.creationContinues id found generated now) (jwksRead id creation before)
  | stores {id creation} (found generated now) (isCreation : before.creations id = some creation)
      (isPhase : creation.phase = .configuring) :
      Turn before (.creationContinues id found generated now) (configured id creation now before)
  | keysChange (tenantId keys heard) :
    Turn before (.keysChange tenantId keys heard) (changeKeys tenantId keys heard before)
  | delivers {tenantId} (sent : tenantId ∈ before.messages) :
      Turn before (.delivers tenantId) { before with
        messages := before.messages.erase tenantId
        reloads := before.reloads ++ startedReloads tenantId before.registry }
  | reloadReads {index reload} (isReload : before.reloads[index]? = some reload)
      (isPhase : reload.phase = .reading) :
      Turn before (.reloadReads index) { before with
        reloads := before.reloads.set index
          { reload with phase := .read (before.keyStore reload.tenantId) } }
  | reloadWrites {index reload jwks} (isReload : before.reloads[index]? = some reload)
      (isPhase : reload.phase = .read jwks) :
      Turn before (.reloadWrites index) { before with
        providers := Function.update before.providers reload.provider jwks
        reloads := before.reloads.eraseIdx index }
  | reloadFails (index) :
      Turn before (.reloadFails index) { before with reloads := before.reloads.eraseIdx index }

section Turns

variable {Keys : Type} {config : PoolConfig} {system : System Keys}

theorem Turn.refl (event : Event Keys) : Turn system event system :=
  .narrows event system.registry (.refl _) (.inr rfl)

theorem getProvider_turn {id : Nat} (fresh : system.creations id = none) (tenantId : String)
    (now : Nat) :
    Turn system (.getProvider id tenantId now) (getProvider id tenantId now system).2 := by
  simp only [getProvider]
  split
  · exact .refl _
  next accepted =>
    split
    next entry isEntry => exact .narrows _ _ (touch_narrows isEntry now) (.inr rfl)
    next unpooled =>
      split
      · exact .refl _
      next unlocked =>
        have isTenant : tenantId ∈ SYSTEM_TENANTS ∨ isTenantSlug tenantId = true := by
          by_contra neither
          simp only [not_or, Bool.not_eq_true] at neither
          exact accepted neither
        exact .starts now ⟨fresh, isTenant, unpooled, unlocked⟩

theorem tenantFound_turn (event : Event Keys) {id : Nat} {creation : Creation}
    (isCreation : system.creations id = some creation)
    (isPhase : creation.phase = .findingTenant) (found : Bool) :
    Turn system event (tenantFound config id creation found system) := by
  have running : creation.isRunning = true := by rw [Creation.isRunning, isPhase]
  simp only [tenantFound]
  split
  next message _ =>
    exact .moves event _ isCreation running (.inr ⟨_, rfl⟩) (.refl _) rfl
  next =>
    split
    · split
      next evicted isEvicted =>
        exact .moves event _ isCreation running (.inl ⟨isPhase, rfl⟩) (evictLRU_narrows isEvicted)
          (evictLRU_locks isEvicted)
      next => exact .moves event _ isCreation running (.inr ⟨_, rfl⟩) (.refl _) rfl
    · exact .moves event _ isCreation running (.inl ⟨isPhase, rfl⟩) (.refl _) rfl

theorem continueCreation_turn {id : Nat} {creation : Creation}
    (isCreation : system.creations id = some creation) (found : Bool) (generated : Keys)
    (now : Nat) :
    Turn system (.creationContinues id found generated now)
      (continueCreation config id creation found generated now system) := by
  simp only [continueCreation]
  split
  next isPhase => exact tenantFound_turn _ isCreation isPhase found
  next isPhase => exact .initializes found generated now isCreation isPhase
  next isPhase => exact .reads found generated now isCreation isPhase
  next isPhase => exact .stores found generated now isCreation isPhase
  next isPhase => exact .releases _ isCreation isPhase
  next => exact .refl _

theorem failCreation_turn (event : Event Keys) {id : Nat} {creation : Creation}
    (isCreation : system.creations id = some creation) (message : String) :
    Turn system event (failCreation id creation message system) := by
  simp only [failCreation]
  split
  next running => exact .moves event _ isCreation running (.inr ⟨_, rfl⟩) (.refl _) rfl
  next => exact .refl _

theorem step_turn (config : PoolConfig) (system : System Keys) (event : Event Keys) :
    Turn system event (step config system event) := by
  cases event with
  | getProvider id tenantId now =>
    simp only [step]
    split
    · exact .refl _
    next used =>
      rw [Bool.not_eq_true, Option.isSome_eq_false_iff, Option.isNone_iff_eq_none] at used
      exact getProvider_turn used tenantId now
  | creationContinues id found generated now =>
    simp only [step]
    split
    next creation isCreation => exact continueCreation_turn isCreation found generated now
    next => exact .refl _
  | creationFails id message =>
    simp only [step]
    split
    next creation isCreation => exact failCreation_turn _ isCreation message
    next => exact .refl _
  | evictIdle now =>
    exact .narrows _ _ (evictIdle_narrows config now system.registry)
      (.inr (evictIdle_locks config now system.registry))
  | shutdown => exact .narrows _ _ (shutdown_narrows system.registry) (.inl rfl)
  | keysChange tenantId keys heard => exact .keysChange tenantId keys heard
  | delivers tenantId =>
    simp only [step]
    split
    next sent =>
      rw [deliver_eq]
      exact .delivers sent
    next => exact .refl _
  | reloadReads index =>
    simp only [step]
    split
    next reload isReload =>
      simp only [reloadReads]
      split
      next isPhase => exact .reloadReads isReload isPhase
      next => exact .refl _
    next => exact .refl _
  | reloadWrites index =>
    simp only [step]
    split
    next reload isReload =>
      simp only [reloadWrites]
      split
      next => exact .refl _
      next jwks isPhase => exact .reloadWrites isReload isPhase
    next => exact .refl _
  | reloadFails index => exact .reloadFails index

end Turns

end ParakoId.TenantProviders
