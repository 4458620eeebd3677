import ParakoId.Library.InsertionMap

/-!
The maps of the tenant provider registry: the pool of providers, the locks of the tenants that
are getting one, and the handlers of their change events.
-/

namespace ParakoId.TenantProviders

structure PoolConfig where
  max_size : Nat
  idle_ttl_ms : Nat

structure PoolEntry where
  provider : Nat
  lastAccessed : Nat

/-- The maps of the registry, and the handlers that the event bus calls for its channels.
Providers, locks and handlers are named by the creation that they come from. -/
structure Registry where
  pool : InsertionMap String PoolEntry
  locks : String → Option Nat
  cleanupTimer : Bool
  jwksHandlers : InsertionMap String Nat
  subscriptions : List (String × Nat)

def Registry.start (multiTenancy : Bool) : Registry where
  pool := .empty
  locks _ := none
  cleanupTimer := multiTenancy
  jwksHandlers := .empty
  subscriptions := []

def Registry.touch (tenantId : String) (entry : PoolEntry) (now : Nat) (registry : Registry) :
    Registry :=
  { registry with pool := registry.pool.set tenantId { entry with lastAccessed := now } }

def subscribeJwksForTenant (tenantId : String) (handler : Nat) (registry : Registry) : Registry :=
  { registry with
    subscriptions := (tenantId, handler) :: registry.subscriptions
    jwksHandlers := registry.jwksHandlers.set tenantId handler }

/-- `none` where the source throws: the tenant has no handler. -/
def unsubscribeJwksForTenant (tenantId : String) (registry : Registry) : Option Registry :=
  (registry.jwksHandlers.get tenantId).map fun handler =>
    { registry with
      subscriptions := registry.subscriptions.erase (tenantId, handler)
      jwksHandlers := registry.jwksHandlers.delete tenantId }

def Registry.store (tenantId : String) (provider now : Nat) (registry : Registry) : Registry :=
  subscribeJwksForTenant tenantId provider
    { registry with pool := registry.pool.set tenantId ⟨provider, now⟩ }

def Registry.evict (tenantId : String) (registry : Registry) : Option Registry :=
  (unsubscribeJwksForTenant tenantId registry).map fun quiet =>
    { quiet with pool := quiet.pool.delete tenantId }

def evictIdleFrom (config : PoolConfig) (now : Nat) :
    List (String × PoolEntry) → Registry → Registry
  | [], registry => registry
  | (tenantId, entry) :: rest, registry =>
    if now - entry.lastAccessed > config.idle_ttl_ms then
      -- the sweep ends where unsubscribing throws
      (registry.evict tenantId).elim registry (evictIdleFrom config now rest)
    else evictIdleFrom config now rest registry

def evictIdle (config : PoolConfig) (now : Nat) (registry : Registry) : Registry :=
  if registry.cleanupTimer then evictIdleFrom config now registry.pool.entries registry
  else registry

def lruFrom : Option (String × PoolEntry) → List (String × PoolEntry) → Option String
  | lru, [] => lru.map Prod.fst
  | none, entry :: rest => lruFrom (some entry) rest
  | some lru, entry :: rest =>
    lruFrom (some (if entry.2.lastAccessed < lru.2.lastAccessed then entry else lru)) rest

def evictLRU (registry : Registry) : Option Registry :=
  (lruFrom none registry.pool.entries).bind fun tenantId => registry.evict tenantId

def unsubscribeAll : List String → Registry → Registry
  | [], registry => registry
  | tenantId :: rest, registry =>
    unsubscribeAll rest ((unsubscribeJwksForTenant tenantId registry).getD registry)

def shutdown (registry : Registry) : Registry :=
  { unsubscribeAll registry.jwksHandlers.keys registry with
    pool := .empty
    locks := fun _ => none
    cleanupTimer := false }

structure Registry.Sound (registry : Registry) : Prop where
  matched : ∀ tenantId, tenantId ∈ registry.jwksHandlers.keys ↔ tenantId ∈ registry.pool.keys
  subscribed : ∀ tenantId handler, registry.jwksHandlers.get tenantId = some handler →
    (tenantId, handler) ∈ registry.subscriptions

structure Narrows (before after : Registry) : Prop where
  entries : ∀ tenantId entry, after.pool.get tenantId = some entry →
    ∃ earlier, before.pool.get tenantId = some earlier ∧ earlier.provider = entry.provider
  size : after.pool.size ≤ before.pool.size
  sound : before.Sound → after.Sound

theorem Narrows.refl (registry : Registry) : Narrows registry registry where
  entries _ entry isEntry := ⟨entry, isEntry, rfl⟩
  size := Nat.le_refl _
  sound := id

theorem Narrows.trans {first second third : Registry} (left : Narrows first second)
    (right : Narrows second third) : Narrows first third where
  entries tenantId entry isEntry := by
    obtain ⟨middle, isMiddle, same⟩ := right.entries tenantId entry isEntry
    obtain ⟨earlier, isEarlier, same'⟩ := left.entries tenantId middle isMiddle
    exact ⟨earlier, isEarlier, same'.trans same⟩
  size := Nat.le_trans right.size left.size
  sound := right.sound ∘ left.sound

theorem start_sound (multiTenancy : Bool) : (Registry.start multiTenancy).Sound where
  matched _ := Iff.rfl
  subscribed _ _ isHandler := by cases isHandler

theorem setLocks_narrows (locks : String → Option Nat) (registry : Registry) :
    Narrows registry { registry with locks := locks } where
  entries _ entry isEntry := ⟨entry, isEntry, rfl⟩
  size := Nat.le_refl _
  sound sound := ⟨sound.matched, sound.subscribed⟩

variable {tenantId : String} {before : Registry}

theorem touch_narrows {entry : PoolEntry} {registry : Registry}
    (isEntry : registry.pool.get tenantId = some entry) (now : Nat) :
    Narrows registry (registry.touch tenantId entry now) := by
  have present : tenantId ∈ registry.pool.keys := InsertionMap.mem_keys_iff.mpr ⟨entry, isEntry⟩
  constructor
  · intro other touched isTouched
    by_cases same : other = tenantId
    · subst same
      have isSet : touched = { entry with lastAccessed := now } := by
        simpa [Registry.touch] using isTouched.symm
      exact ⟨entry, isEntry, by rw [isSet]⟩
    · rw [Registry.touch, InsertionMap.get_set_of_ne same] at isTouched
      exact ⟨touched, isTouched, rfl⟩
  · exact Nat.le_of_eq (InsertionMap.size_set_of_mem present _)
  · intro sound
    refine ⟨?_, sound.subscribed⟩
    intro other
    simp only [Registry.touch, InsertionMap.mem_keys_set]
    rw [sound.matched]
    constructor
    · exact Or.inr
    · rintro (rfl | member)
      · exact present
      · exact member

theorem store_sound {registry : Registry} (sound : registry.Sound) (tenantId : String)
    (provider now : Nat) : (registry.store tenantId provider now).Sound where
  matched other := by
    simp only [Registry.store, subscribeJwksForTenant, InsertionMap.mem_keys_set, sound.matched]
  subscribed other handler isHandler := by
    simp only [Registry.store, subscribeJwksForTenant] at isHandler ⊢
    by_cases same : other = tenantId
    · subst same
      rw [InsertionMap.get_set_self] at isHandler
      injection isHandler with isProvider
      rw [isProvider]
      exact List.mem_cons_self
    · rw [InsertionMap.get_set_of_ne same] at isHandler
      exact List.mem_cons_of_mem _ (sound.subscribed other handler isHandler)

theorem evict_narrows {after : Registry} (evicted : before.evict tenantId = some after) :
    Narrows before after := by
  simp only [Registry.evict, unsubscribeJwksForTenant, Option.map_map, Option.map_eq_some_iff,
    Function.comp_apply] at evicted
  obtain ⟨handler, _, rfl⟩ := evicted
  constructor
  · intro other entry isEntry
    exact ⟨entry, (InsertionMap.get_delete_eq_some_iff.mp isEntry).2, rfl⟩
  · exact InsertionMap.size_delete_le tenantId before.pool
  · intro sound
    constructor
    · intro other
      simp only [InsertionMap.mem_keys_delete, sound.matched]
    · intro other held isHeld
      obtain ⟨different, wasHeld⟩ := InsertionMap.get_delete_eq_some_iff.mp isHeld
      refine (List.mem_erase_of_ne ?_).mpr (sound.subscribed other held wasHeld)
      exact fun same => different (congrArg Prod.fst same)

theorem evictIdleFrom_narrows (config : PoolConfig) (now : Nat)
    (entries : List (String × PoolEntry)) (registry : Registry) :
    Narrows registry (evictIdleFrom config now entries registry) := by
  induction entries generalizing registry with
  | nil => exact .refl registry
  | cons entry rest ih =>
    simp only [evictIdleFrom]
    split
    · cases evicted : registry.evict entry.1 with
      | none => exact .refl registry
      | some after => exact (evict_narrows evicted).trans (ih after)
    · exact ih registry

theorem evictIdle_narrows (config : PoolConfig) (now : Nat) (registry : Registry) :
    Narrows registry (evictIdle config now registry) := by
  simp only [evictIdle]
  split
  · exact evictIdleFrom_narrows config now _ registry
  · exact .refl registry

theorem evictLRU_narrows {after : Registry} (evicted : evictLRU before = some after) :
    Narrows before after := by
  obtain ⟨tenantId, _, isEvicted⟩ := Option.bind_eq_some_iff.mp evicted
  exact evict_narrows isEvicted

theorem evict_locks {after : Registry} (evicted : before.evict tenantId = some after) :
    after.locks = before.locks := by
  simp only [Registry.evict, unsubscribeJwksForTenant, Option.map_map, Option.map_eq_some_iff,
    Function.comp_apply] at evicted
  obtain ⟨handler, _, rfl⟩ := evicted
  rfl

theorem evictIdle_locks (config : PoolConfig) (now : Nat) (registry : Registry) :
    (evictIdle config now registry).locks = registry.locks := by
  have fromEntries : ∀ entries current,
      (evictIdleFrom config now entries current).locks = current.locks := by
    intro entries
    induction entries with
    | nil => exact fun _ => rfl
    | cons entry rest ih =>
      intro current
      simp only [evictIdleFrom]
      split
      · cases evicted : current.evict entry.1 with
        | none => rfl
        | some after => exact (ih after).trans (evict_locks evicted)
      · exact ih current
  simp only [evictIdle]
  split
  · exact fromEntries _ registry
  · rfl

theorem evictLRU_locks {after : Registry} (evicted : evictLRU before = some after) :
    after.locks = before.locks := by
  obtain ⟨tenantId, _, isEvicted⟩ := Option.bind_eq_some_iff.mp evicted
  exact evict_locks isEvicted

theorem unsubscribeAll_handlers (tenants : List String) (registry : Registry) :
    tenantId ∈ (unsubscribeAll tenants registry).jwksHandlers.keys →
      tenantId ∉ tenants ∧ tenantId ∈ registry.jwksHandlers.keys := by
  induction tenants generalizing registry with
  | nil => exact fun member => ⟨List.not_mem_nil, member⟩
  | cons tenant rest ih =>
    intro member
    obtain ⟨later, kept⟩ := ih _ member
    cases isHandler : registry.jwksHandlers.get tenant with
    | none =>
      simp only [unsubscribeJwksForTenant, isHandler, Option.map_none,
        Option.getD_none] at kept
      have different : tenantId ≠ tenant := by
        rintro rfl
        exact InsertionMap.get_eq_none_iff.mp isHandler kept
      exact ⟨fun isTenant => (List.mem_cons.mp isTenant).elim different later, kept⟩
    | some handler =>
      simp only [unsubscribeJwksForTenant, isHandler, Option.map_some, Option.getD_some,
        InsertionMap.mem_keys_delete] at kept
      exact ⟨fun isTenant => (List.mem_cons.mp isTenant).elim kept.1 later, kept.2⟩

theorem shutdown_narrows (registry : Registry) : Narrows registry (shutdown registry) := by
  have noHandlers : ∀ tenantId, tenantId ∉ (shutdown registry).jwksHandlers.keys := by
    intro tenantId member
    have kept := unsubscribeAll_handlers registry.jwksHandlers.keys registry member
    exact kept.1 kept.2
  constructor
  · intro tenantId entry isEntry
    cases isEntry
  · exact Nat.zero_le _
  · intro _
    constructor
    · intro tenantId
      exact ⟨fun member => absurd member (noHandlers tenantId), fun member => nomatch member⟩
    · intro tenantId handler isHandler
      exact absurd (InsertionMap.mem_keys_iff.mpr ⟨handler, isHandler⟩) (noHandlers tenantId)

end ParakoId.TenantProviders
