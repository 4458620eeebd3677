import ParakoId.TenantProviders.PoolBound

/-!
The keys of the pooled providers, over every interleaving of creations with rotations, change
events and the reloads that these start.
-/

namespace ParakoId.TenantProviders

variable {Keys : Type}

structure Settled (system : System Keys) (tenantId : String) : Prop where
  delivered : tenantId ∉ system.messages
  processed : ∀ reload ∈ system.reloads, reload.tenantId ≠ tenantId
  created : ∀ id creation, system.creations id = some creation → creation.isRunning = true →
    creation.tenantId ≠ tenantId

def RotationsKept (system : System Keys) : Prop :=
  ∀ tenantId entry, system.registry.pool.get tenantId = some entry →
    Settled system tenantId → system.providers entry.provider = system.keyStore tenantId

structure Refreshes (keyStore : String → Option Keys) (provider : Nat) (tenantId : String)
    (reload : Reload Keys) : Prop where
  provider : reload.provider = provider
  tenant : reload.tenantId = tenantId
  current : reload.phase = .reading ∨ reload.phase = .read (keyStore tenantId)

def AnotherRefresh (system : System Keys) (index : Nat) (reload : Reload Keys) : Prop :=
  reload.tenantId ∈ system.messages ∨ ∃ other ∈ system.reloads.eraseIdx index,
    Refreshes system.keyStore reload.provider reload.tenantId other

/-- The provider that a creation stores has the current keys, or a change event for its tenant
is still to come; and so it is for the pooled provider that a reload writes to or fails on, and
for that of a tenant whose keys change without an event. -/
def LosesNoRotation (system : System Keys) : Event Keys → Prop
  | .creationContinues id _ _ _ =>
    ∀ creation, system.creations id = some creation → creation.phase = .configuring →
      system.providers id = system.keyStore creation.tenantId ∨
        creation.tenantId ∈ system.messages
  | .reloadWrites index =>
    ∀ reload entry jwks, system.reloads[index]? = some reload →
      system.registry.pool.get reload.tenantId = some entry →
        entry.provider = reload.provider → reload.phase = .read jwks →
          jwks = system.keyStore reload.tenantId ∨ AnotherRefresh system index reload
  | .reloadFails index =>
    ∀ reload entry, system.reloads[index]? = some reload →
      system.registry.pool.get reload.tenantId = some entry →
        entry.provider = reload.provider →
          system.providers reload.provider = system.keyStore reload.tenantId ∨
            AnotherRefresh system index reload
  | .keysChange tenantId keys heard =>
    heard = true ∨ ∀ entry, system.registry.pool.get tenantId = some entry →
      system.providers entry.provider = some keys ∨ tenantId ∈ system.messages ∨
        ∃ reload ∈ system.reloads, Refreshes (fun _ => some keys) entry.provider tenantId reload
  | _ => True

def Owned (system : System Keys) (provider : Nat) (tenantId : String) : Prop :=
  ∃ creation, system.creations provider = some creation ∧ creation.isRunning = false ∧
    creation.tenantId = tenantId

variable {before after system : System Keys} {provider : Nat} {tenantId : String}
  {event : Event Keys}

theorem Owned.update {id : Nat} {next : Creation} (owned : Owned before provider tenantId)
    (creations : after.creations = Function.update before.creations id (some next))
    (ended : ∀ creation, before.creations id = some creation → creation.isRunning = false →
      next.isRunning = false ∧ next.tenantId = creation.tenantId) :
    Owned after provider tenantId := by
  obtain ⟨creation, isCreation, isEnded, isTenant⟩ := owned
  rw [Owned, creations]
  by_cases same : provider = id
  · subst same
    obtain ⟨nextEnded, nextTenant⟩ := ended creation isCreation isEnded
    exact ⟨next, Function.update_self .., nextEnded, nextTenant.trans isTenant⟩
  · exact ⟨creation, (Function.update_of_ne same _ _).trans isCreation, isEnded, isTenant⟩

theorem Owned.ne_of_running {id : Nat} {creation : Creation}
    (owned : Owned system provider tenantId) (isCreation : system.creations id = some creation)
    (running : creation.isRunning = true) : provider ≠ id := by
  rintro rfl
  obtain ⟨ended, isEnded, notRunning, _⟩ := owned
  rw [isCreation] at isEnded
  injection isEnded with same
  rw [← same, running] at notRunning
  cases notRunning

theorem isRunning_of_phase {creation : Creation}
    (isPhase : creation.phase = .initializing ∨ creation.phase = .readingJWKS ∨
      creation.phase = .configuring) : creation.isRunning = true := by
  rw [Creation.isRunning]
  rcases isPhase with isPhase | isPhase | isPhase
  · rw [isPhase]
  · rw [isPhase]
  · rw [isPhase]

theorem Turn.owned (turn : Turn before event after) (owned : Owned before provider tenantId) :
    Owned after provider tenantId := by
  have runs : ∀ {id : Nat} {creation next : Creation}, before.creations id = some creation →
      creation.isRunning = true → ∀ ended, before.creations id = some ended →
        ended.isRunning = false → next.isRunning = false ∧ next.tenantId = ended.tenantId := by
    intro id creation next isCreation running ended isEnded notRunning
    rw [isCreation] at isEnded
    injection isEnded with same
    rw [← same, running] at notRunning
    cases notRunning
  cases turn with
  | starts _ starts =>
    refine owned.update rfl ?_
    intro creation isCreation
    rw [starts.fresh] at isCreation
    cases isCreation
  | moves _ _ isCreation running _ _ _ => exact owned.update rfl (runs isCreation running)
  | @releases _ id released outcome isCreation isSettled =>
    refine owned.update rfl ?_
    intro creation isSame _
    rw [isCreation] at isSame
    injection isSame with same
    exact ⟨rfl, by rw [same]⟩
  | initializes _ _ _ isCreation isPhase =>
    exact owned.update rfl (runs isCreation (isRunning_of_phase (.inl isPhase)))
  | reads _ _ _ isCreation isPhase =>
    exact owned.update rfl (runs isCreation (isRunning_of_phase (.inr (.inl isPhase))))
  | stores _ _ _ isCreation isPhase =>
    exact owned.update rfl (runs isCreation (isRunning_of_phase (.inr (.inr isPhase))))
  | narrows _ _ _ _ | keysChange _ _ _ | delivers _ | reloadReads _ _ | reloadWrites _ _
  | reloadFails _ => exact owned

theorem Turn.pooled_cases {entry : PoolEntry} (turn : Turn before event after)
    (isEntry : after.registry.pool.get tenantId = some entry) :
    (∃ earlier, before.registry.pool.get tenantId = some earlier ∧
        earlier.provider = entry.provider) ∨
      ∃ creation, before.creations entry.provider = some creation ∧
        creation.phase = .configuring ∧ creation.tenantId = tenantId ∧
          ∃ found generated now, event = .creationContinues entry.provider found generated now ∧
            after = configured entry.provider creation now before := by
  have kept : before.registry.pool.get tenantId = some entry →
      ∃ earlier, before.registry.pool.get tenantId = some earlier ∧
        earlier.provider = entry.provider := fun wasEntry => ⟨entry, wasEntry, rfl⟩
  cases turn with
  | narrows _ registry narrowed _ => exact .inl (narrowed.entries tenantId entry isEntry)
  | moves _ registry _ _ _ narrowed _ => exact .inl (narrowed.entries tenantId entry isEntry)
  | @stores id creation found generated now isCreation isPhase =>
    simp only [configured, settle, withCreation, Registry.store,
      subscribeJwksForTenant] at isEntry
    by_cases same : tenantId = creation.tenantId
    · rw [same, InsertionMap.get_set_self] at isEntry
      injection isEntry with isStored
      subst isStored
      exact .inr ⟨creation, isCreation, isPhase, same.symm, found, generated, now, rfl, rfl⟩
    · rw [InsertionMap.get_set_of_ne same] at isEntry
      exact .inl (kept isEntry)
  | starts _ _ | releases _ _ _ | initializes _ _ _ _ _ | reads _ _ _ _ _ | keysChange _ _ _
  | delivers _ | reloadReads _ _ | reloadWrites _ _ | reloadFails _ => exact .inl (kept isEntry)

theorem mem_startedReloads {registry : Registry} {reload : Reload Keys}
    (started : reload ∈ startedReloads tenantId registry) :
    reload.tenantId = tenantId ∧ ∃ entry, registry.pool.get tenantId = some entry ∧
      entry.provider = reload.provider := by
  simp only [startedReloads, List.mem_filterMap, List.mem_filter, decide_eq_true_eq,
    Option.map_eq_some_iff] at started
  obtain ⟨handler, ⟨_, isTenant⟩, entry, isEntry, rfl⟩ := started
  rw [isTenant] at isEntry
  exact ⟨isTenant, entry, isEntry, rfl⟩

theorem Turn.reloads_cases {reload : Reload Keys} (turn : Turn before event after)
    (member : reload ∈ after.reloads) :
    (∃ earlier ∈ before.reloads, earlier.provider = reload.provider ∧
        earlier.tenantId = reload.tenantId) ∨
      ∃ entry, before.registry.pool.get reload.tenantId = some entry ∧
        entry.provider = reload.provider := by
  have kept : reload ∈ before.reloads → ∃ earlier ∈ before.reloads,
      earlier.provider = reload.provider ∧ earlier.tenantId = reload.tenantId :=
    fun wasMember => ⟨reload, wasMember, rfl, rfl⟩
  cases turn with
  | delivers _ =>
    rcases List.mem_append.mp member with earlier | started
    · exact .inl (kept earlier)
    · obtain ⟨isTenant, entry, isEntry, isProvider⟩ := mem_startedReloads started
      rw [isTenant]
      exact .inr ⟨entry, isEntry, isProvider⟩
  | reloadReads isReload _ =>
    rcases List.mem_or_eq_of_mem_set member with earlier | isNext
    · exact .inl (kept earlier)
    · rw [isNext]
      exact .inl ⟨_, List.mem_of_getElem? isReload, rfl, rfl⟩
  | reloadWrites _ _ | reloadFails _ => exact .inl (kept (List.mem_of_mem_eraseIdx member))
  | narrows _ _ _ _ | moves _ _ _ _ _ _ _ | stores _ _ _ _ _ | starts _ _ | releases _ _ _
  | initializes _ _ _ _ _ | reads _ _ _ _ _ | keysChange _ _ _ => exact .inl (kept member)

def HasKeys (system : System Keys) (tenantId : String) : Prop :=
  (system.keyStore tenantId).isSome = true

theorem Turn.hasKeys (turn : Turn before event after) (hasKeys : HasKeys before tenantId) :
    HasKeys after tenantId := by
  cases turn with
  | @initializes id creation found generated now isCreation isPhase =>
    simp only [HasKeys, initialized, withCreation, Function.update_apply]
    split
    · rfl
    · exact hasKeys
  | keysChange changed keys heard =>
    simp only [HasKeys, changeKeys, Function.update_apply]
    split
    · rfl
    · exact hasKeys
  | narrows _ _ _ _ | moves _ _ _ _ _ _ _ | stores _ _ _ _ _ | starts _ _ | releases _ _ _
  | reads _ _ _ _ _ | delivers _ | reloadReads _ _ | reloadWrites _ _ | reloadFails _ =>
    exact hasKeys

def Creation.isKeyed (creation : Creation) : Prop :=
  creation.phase = .readingJWKS ∨ creation.phase = .configuring

def Keyed (system : System Keys) : Prop :=
  ∀ id creation, system.creations id = some creation → creation.isKeyed →
    HasKeys system creation.tenantId

theorem Turn.keyed (turn : Turn before event after) (keyed : Keyed before) : Keyed after := by
  intro id creation isCreation isKeyed
  have stays : HasKeys before creation.tenantId → HasKeys after creation.tenantId := turn.hasKeys
  have kept : before.creations id = some creation → HasKeys after creation.tenantId :=
    fun wasCreation => stays (keyed id creation wasCreation isKeyed)
  -- a turn that moves a creation on moves this one or another one
  have moved : ∀ {moving : Nat} {next : Creation},
      after.creations = Function.update before.creations moving (some next) →
      (next.isKeyed → HasKeys after next.tenantId) → HasKeys after creation.tenantId := by
    intro moving next creations nextKeyed
    rw [creations] at isCreation
    by_cases same : id = moving
    · rw [same, Function.update_self] at isCreation
      injection isCreation with isNext
      rw [isNext] at nextKeyed
      exact nextKeyed isKeyed
    · rw [Function.update_of_ne same] at isCreation
      exact kept isCreation
  cases turn with
  | starts _ _ | releases _ _ _ | stores _ _ _ _ _ =>
    exact moved rfl (by rintro (isPhase | isPhase) <;> cases isPhase)
  | moves _ _ _ _ keyless _ _ =>
    refine moved rfl ?_
    rintro (isPhase | isPhase)
    all_goals
      simp only at isPhase
      rcases keyless with ⟨_, isInitializing⟩ | ⟨_, isSettled⟩
      · rw [isInitializing] at isPhase
        cases isPhase
      · rw [isSettled] at isPhase
        cases isPhase
  | initializes _ _ _ _ _ =>
    refine moved rfl ?_
    intro _
    simp only [HasKeys, initialized, withCreation, Function.update_self, Option.isSome_some]
  | reads _ _ _ wasCreation isPhase =>
    have hasKeys := keyed _ _ wasCreation (.inl isPhase)
    exact moved rfl fun _ => hasKeys
  | _ => exact kept isCreation

structure Accounted (system : System Keys) : Prop where
  sound : system.registry.Sound
  pooled : ∀ tenantId entry, system.registry.pool.get tenantId = some entry →
    Owned system entry.provider tenantId ∧ HasKeys system tenantId
  reloads : ∀ reload ∈ system.reloads, Owned system reload.provider reload.tenantId
  keyed : Keyed system

theorem Turn.accounted (turn : Turn before event after) (accounted : Accounted before) :
    Accounted after where
  sound := turn.sound accounted.sound
  pooled tenantId entry isEntry := by
    rcases turn.pooled_cases isEntry with ⟨earlier, wasEntry, same⟩ |
      ⟨creation, isCreation, isPhase, isTenant, found, generated, now, _, isAfter⟩
    · obtain ⟨owned, hasKeys⟩ := accounted.pooled tenantId earlier wasEntry
      rw [same] at owned
      exact ⟨turn.owned owned, turn.hasKeys hasKeys⟩
    · refine ⟨?_, turn.hasKeys ?_⟩
      · rw [isAfter]
        exact ⟨_, Function.update_self .., rfl, isTenant⟩
      · rw [← isTenant]
        exact accounted.keyed _ creation isCreation (.inr isPhase)
  reloads reload member := by
    rcases turn.reloads_cases member with ⟨earlier, wasReload, provider, tenant⟩ |
      ⟨entry, isEntry, provider⟩
    · rw [← provider, ← tenant]
      exact turn.owned (accounted.reloads earlier wasReload)
    · rw [← provider]
      exact turn.owned (accounted.pooled _ entry isEntry).1
  keyed := turn.keyed accounted.keyed

theorem start_accounted (multiTenancy : Bool) (keyStore : String → Option Keys) :
    Accounted (System.start multiTenancy keyStore) where
  sound := start_sound multiTenancy
  pooled _ _ isEntry := by cases isEntry
  reloads _ member := by cases member
  keyed _ _ isCreation := by cases isCreation

def Refreshing (system : System Keys) (provider : Nat) (tenantId : String) : Prop :=
  system.providers provider = system.keyStore tenantId ∨ tenantId ∈ system.messages ∨
    ∃ reload ∈ system.reloads, Refreshes system.keyStore provider tenantId reload

theorem Refreshing.mono (refreshing : Refreshing before provider tenantId)
    (providers : after.providers provider = before.providers provider)
    (keyStore : after.keyStore tenantId = before.keyStore tenantId)
    (messages : tenantId ∈ before.messages → tenantId ∈ after.messages)
    (reloads : ∀ reload ∈ before.reloads, reload ∈ after.reloads) :
    Refreshing after provider tenantId := by
  rcases refreshing with current | sent | ⟨reload, member, refreshes⟩
  · exact .inl (by rw [providers, keyStore, current])
  · exact .inr (.inl (messages sent))
  · refine .inr (.inr ⟨reload, reloads reload member, refreshes.provider, refreshes.tenant, ?_⟩)
    rw [keyStore]
    exact refreshes.current

theorem changeKeys_refreshing (refreshing : Refreshing system provider tenantId)
    {changed : String} {keys : Keys} {heard : Bool}
    (noticed : heard = true ∨ (tenantId = changed → system.providers provider = some keys ∨
      tenantId ∈ system.messages ∨
        ∃ reload ∈ system.reloads, Refreshes (fun _ => some keys) provider tenantId reload)) :
    Refreshing (changeKeys changed keys heard system) provider tenantId := by
  have kept : tenantId ∈ system.messages →
      tenantId ∈ (changeKeys changed keys heard system).messages := by
    intro sent
    cases heard with
    | true => exact List.mem_append_left _ sent
    | false => exact sent
  by_cases same : tenantId = changed
  · subst same
    have isKeys : (changeKeys tenantId keys heard system).keyStore tenantId = some keys :=
      Function.update_self ..
    rw [Refreshing, isKeys]
    rcases noticed with rfl | noticed
    · exact .inr (.inl (List.mem_append_right _ (List.mem_singleton_self tenantId)))
    · rcases noticed rfl with current | sent | ⟨reload, member, refreshes⟩
      · exact .inl current
      · exact .inr (.inl (kept sent))
      · refine .inr (.inr ⟨reload, member, refreshes.provider, refreshes.tenant, ?_⟩)
        rw [isKeys]
        exact refreshes.current
  · refine refreshing.mono rfl ?_ kept fun _ member => member
    exact Function.update_of_ne same _ _

theorem startedReloads_mem {registry : Registry} {entry : PoolEntry} (sound : registry.Sound)
    (isEntry : registry.pool.get tenantId = some entry) :
    (⟨tenantId, entry.provider, .reading⟩ : Reload Keys) ∈ startedReloads tenantId registry := by
  have pooled : tenantId ∈ registry.pool.keys := InsertionMap.mem_keys_iff.mpr ⟨entry, isEntry⟩
  obtain ⟨handler, isHandler⟩ := InsertionMap.mem_keys_iff.mp ((sound.matched tenantId).mpr pooled)
  have subscribed := sound.subscribed tenantId handler isHandler
  refine List.mem_filterMap.mpr ⟨(tenantId, handler), ?_, ?_⟩
  · exact List.mem_filter.mpr ⟨subscribed, decide_eq_true rfl⟩
  · rw [isEntry]
    rfl

theorem mem_eraseIdx_of_ne {Item : Type*} {items : List Item} {index : Nat} {erased item : Item}
    (isErased : items[index]? = some erased) (member : item ∈ items) (different : item ≠ erased) :
    item ∈ items.eraseIdx index := by
  obtain ⟨place, isItem⟩ := List.mem_iff_getElem?.mp member
  refine List.mem_eraseIdx_iff_getElem?.mpr ⟨place, ?_, isItem⟩
  rintro rfl
  rw [isErased] at isItem
  injection isItem with same
  exact different same.symm

theorem reloadReads_refreshing {index : Nat} {read : Reload Keys}
    (refreshing : Refreshing system provider tenantId)
    (isReload : system.reloads[index]? = some read) :
    Refreshing { system with
      reloads := system.reloads.set index
        { read with phase := .read (system.keyStore read.tenantId) } } provider tenantId := by
  rcases refreshing with current | sent | ⟨reload, member, refreshes⟩
  · exact .inl current
  · exact .inr (.inl sent)
  · obtain ⟨place, isPlace⟩ := List.mem_iff_getElem?.mp member
    by_cases same : place = index
    · rw [same, isReload] at isPlace
      injection isPlace with isRead
      have inRange : index < system.reloads.length := (List.getElem?_eq_some_iff.mp isReload).1
      refine .inr (.inr ⟨_, List.mem_set inRange _, ?_, ?_, .inr ?_⟩)
      · rw [← refreshes.provider, isRead]
      · rw [← refreshes.tenant, isRead]
      · simp only [isRead, refreshes.tenant]
    · refine .inr (.inr ⟨reload, ?_, refreshes⟩)
      refine List.mem_iff_getElem?.mpr ⟨place, ?_⟩
      rw [List.getElem?_set_ne (Ne.symm same)]
      exact isPlace

theorem eraseIdx_refreshing {index : Nat} {erased : Reload Keys}
    (refreshing : Refreshing before provider tenantId)
    (isErased : before.reloads[index]? = some erased) (different : provider ≠ erased.provider)
    (providers : after.providers provider = before.providers provider)
    (keyStore : after.keyStore = before.keyStore) (messages : after.messages = before.messages)
    (reloads : after.reloads = before.reloads.eraseIdx index) :
    Refreshing after provider tenantId := by
  rw [Refreshing, providers, keyStore, messages, reloads]
  rcases refreshing with current | sent | ⟨reload, member, refreshes⟩
  · exact .inl current
  · exact .inr (.inl sent)
  · refine .inr (.inr ⟨reload, mem_eraseIdx_of_ne isErased member ?_, refreshes⟩)
    rintro rfl
    exact different refreshes.provider.symm

theorem AnotherRefresh.refreshing {index : Nat} {reload : Reload Keys}
    (another : AnotherRefresh before index reload) (keyStore : after.keyStore = before.keyStore)
    (messages : after.messages = before.messages)
    (reloads : after.reloads = before.reloads.eraseIdx index) :
    Refreshing after reload.provider reload.tenantId := by
  rw [Refreshing, keyStore, messages, reloads]
  exact .inr another

def AlwaysRefreshing (system : System Keys) : Prop :=
  ∀ tenantId entry, system.registry.pool.get tenantId = some entry →
    Refreshing system entry.provider tenantId

theorem Owned.tenant_unique {other : String} (owned : Owned system provider tenantId)
    (owned' : Owned system provider other) : tenantId = other := by
  obtain ⟨creation, isCreation, _, isTenant⟩ := owned
  obtain ⟨creation', isCreation', _, isOther⟩ := owned'
  rw [isCreation] at isCreation'
  injection isCreation' with same
  rw [← isTenant, ← isOther, same]

theorem Turn.refreshing (turn : Turn before event after) (accounted : Accounted before)
    (refreshing : AlwaysRefreshing before) (allowed : LosesNoRotation before event) :
    AlwaysRefreshing after := by
  intro tenantId entry isEntry
  rcases turn.pooled_cases isEntry with ⟨earlier, wasEntry, same⟩ |
    ⟨creation, isCreation, isPhase, isTenant, found, generated, now, isEvent, isAfter⟩
  · have was := refreshing tenantId earlier wasEntry
    obtain ⟨owned, hasKeys⟩ := accounted.pooled tenantId earlier wasEntry
    rw [same] at was owned
    cases turn with
    | narrows _ _ _ _ | moves _ _ _ _ _ _ _ | starts _ _ | releases _ _ _ => exact was
    | @stores id creation found generated now isCreation isPhase => exact was
    | @initializes id creation found generated now isCreation isPhase =>
      refine was.mono rfl ?_ (fun sent => sent) fun _ member => member
      simp only [initialized, withCreation, Function.update_apply]
      split
      next isTenant =>
        rw [← isTenant]
        obtain ⟨keys, isKeys⟩ := Option.isSome_iff_exists.mp hasKeys
        rw [isKeys, Option.getD_some]
      next => rfl
    | reads _ _ _ isCreation isPhase =>
      have running := isRunning_of_phase (.inr (.inl isPhase))
      refine was.mono ?_ rfl (fun sent => sent) fun _ member => member
      exact Function.update_of_ne (owned.ne_of_running isCreation running) _ _
    | keysChange changed keys heard =>
      refine changeKeys_refreshing was (allowed.imp_right fun noticed isChanged => ?_)
      rw [← same, isChanged]
      exact noticed earlier (isChanged ▸ wasEntry)
    | @delivers delivered sent =>
      by_cases isTenant : tenantId = delivered
      · subst isTenant
        have started : (⟨tenantId, earlier.provider, .reading⟩ : Reload Keys) ∈
            startedReloads tenantId before.registry :=
          startedReloads_mem accounted.sound wasEntry
        rw [same] at started
        exact .inr (.inr ⟨_, List.mem_append_right _ started, rfl, rfl, .inl rfl⟩)
      · refine was.mono rfl rfl ?_ fun _ member => List.mem_append_left _ member
        exact (List.mem_erase_of_ne isTenant).mpr
    | reloadReads isReload _ => exact reloadReads_refreshing was isReload
    | @reloadWrites index reload jwks isReload isPhase =>
      by_cases isTarget : entry.provider = reload.provider
      · rw [isTarget] at owned ⊢
        have isTenant := owned.tenant_unique
          (accounted.reloads reload (List.mem_of_getElem? isReload))
        subst isTenant
        rcases allowed reload earlier jwks isReload wasEntry (same.trans isTarget) isPhase with
          current | another
        · exact .inl ((Function.update_self ..).trans current)
        · exact another.refreshing rfl rfl rfl
      · exact eraseIdx_refreshing was isReload isTarget (Function.update_of_ne isTarget _ _)
          rfl rfl rfl
    | reloadFails index =>
      cases isReload : before.reloads[index]? with
      | none =>
        have pastEnd := List.getElem?_eq_none_iff.mp isReload
        simp only [List.eraseIdx_of_length_le pastEnd]
        exact was
      | some reload =>
        by_cases isTarget : entry.provider = reload.provider
        · rw [isTarget] at owned ⊢
          have isTenant := owned.tenant_unique
            (accounted.reloads reload (List.mem_of_getElem? isReload))
          subst isTenant
          rcases allowed reload earlier isReload wasEntry (same.trans isTarget) with
            current | another
          · exact .inl current
          · exact another.refreshing rfl rfl rfl
        · exact eraseIdx_refreshing was isReload isTarget rfl rfl rfl rfl
  · subst isEvent isAfter
    rw [← isTenant]
    rcases allowed creation isCreation isPhase with current | sent
    · exact .inl current
    · exact .inr (.inl sent)

/-- Over every interleaving in which no creation stores outdated keys, no reload writes or fails on
some and no keys change under a pooled provider, without another refresh to come, a tenant's pooled
provider has the keys of the key store whenever its change events are processed and none of its
creations is running. -/
theorem always_rotationsKept (config : PoolConfig) (multiTenancy : Bool)
    (keyStore : String → Option Keys) (events : List (Event Keys))
    (lossless : Runs.AllowedFrom (step config) LosesNoRotation
      (System.start multiTenancy keyStore) events) :
    Runs.AlwaysFrom (step config) RotationsKept (System.start multiTenancy keyStore) events := by
  have keeps : ∀ (system : System Keys) (event : Event Keys),
      Accounted system ∧ AlwaysRefreshing system →
      LosesNoRotation system event →
        Accounted (step config system event) ∧ AlwaysRefreshing (step config system event) := by
    rintro system event ⟨accounted, refreshing⟩ allowed
    have turn := step_turn config system event
    exact ⟨turn.accounted accounted, turn.refreshing accounted refreshing allowed⟩
  have initial : Accounted (System.start multiTenancy keyStore) ∧
      AlwaysRefreshing (System.start multiTenancy keyStore) := by
    refine ⟨start_accounted multiTenancy keyStore, ?_⟩
    intro tenantId entry isEntry
    cases isEntry
  refine (Runs.always_of_allowed (step config) keeps initial lossless).mono _ ?_
  rintro system ⟨_, refreshing⟩ tenantId entry isEntry settled
  rcases refreshing tenantId entry isEntry with current | sent | ⟨reload, member, refreshes⟩
  · exact current
  · exact absurd sent settled.delivered
  · exact absurd refreshes.tenant (settled.processed reload member)

def creationUntilKeys : List (Event Nat) :=
  [.getProvider 0 "acme" 0, .creationContinues 0 true 1 0, .creationContinues 0 true 1 0,
    .creationContinues 0 true 1 0]

def pooledThenRotated : List (Event Nat) :=
  creationUntilKeys ++ [.creationContinues 0 true 1 0, .keysChange "acme" 2 true,
    .keysChange "acme" 3 false, .delivers "acme", .reloadReads 0, .reloadWrites 0]

def rotatedBeforePooled : List (Event Nat) :=
  creationUntilKeys ++ [.keysChange "acme" 2 true, .delivers "acme", .creationContinues 0 true 1 0]

def retiredAfterPooled : List (Event Nat) :=
  creationUntilKeys ++ [.creationContinues 0 true 1 0, .keysChange "acme" 2 false]

def reloadsOutOfOrder : List (Event Nat) :=
  creationUntilKeys ++ [.creationContinues 0 true 1 0, .keysChange "acme" 2 true, .delivers "acme",
    .reloadReads 0, .keysChange "acme" 3 true, .delivers "acme", .reloadReads 1, .reloadWrites 1,
    .reloadWrites 0]

theorem pooledThenRotated_rotationsKept :
    Runs.AlwaysFrom (step ⟨1, 1000⟩) RotationsKept (System.start true fun _ => none)
      pooledThenRotated := by
  apply always_rotationsKept
  have early : ∀ {system : System Nat} {id : Nat} {creation : Creation},
      system.creations id = some creation → creation.phase ≠ .configuring →
        LosesNoRotation system (.creationContinues id true 1 0) := by
    intro system id creation isCreation notConfiguring other isOther isPhase
    rw [isCreation] at isOther
    injection isOther with same
    rw [← same] at isPhase
    exact absurd isPhase notConfiguring
  refine ⟨trivial, early rfl (by simp), early rfl (by simp), early rfl (by simp), ?_, .inl rfl,
    .inr fun _ _ => .inr (.inl (List.mem_singleton_self "acme")), trivial, trivial, ?_, trivial⟩
  · intro creation isCreation _
    injection isCreation with same
    rw [← same]
    exact .inl rfl
  · intro reload entry jwks isReload _ _ isPhase
    injection isReload with same
    rw [← same] at isPhase ⊢
    injection isPhase with isRead
    rw [← isRead]
    exact .inl rfl

theorem rotations_lost :
    let start : System Nat := System.start true fun _ => none
    let config : PoolConfig := ⟨1, 1000⟩
    ¬ Runs.AlwaysFrom (step config) RotationsKept start rotatedBeforePooled ∧
      ¬ Runs.AlwaysFrom (step config) RotationsKept start reloadsOutOfOrder ∧
      ¬ Runs.AlwaysFrom (step config) RotationsKept start retiredAfterPooled := by
  have ended : ∀ {table : Nat → Option Creation}, (∀ id, id ≠ 0 → table id = none) →
      ∀ id creation, Function.update table 0 (some ⟨"acme", .settled (.ok 0)⟩) id =
        some creation → creation.isRunning = true → creation.tenantId ≠ "acme" := by
    intro table others id creation isCreation running
    by_cases same : id = 0
    · rw [same, Function.update_self] at isCreation
      injection isCreation with isEnded
      rw [← isEnded] at running
      cases running
    · rw [Function.update_of_ne same, others id same] at isCreation
      cases isCreation
  have others : ∀ {table : Nat → Option Creation} {creation : Option Creation},
      (∀ id, id ≠ 0 → table id = none) →
        ∀ id, id ≠ 0 → Function.update table 0 creation id = none :=
    fun alone id different => (Function.update_of_ne different _ _).trans (alone id different)
  refine ⟨fun always => ?_, fun always => ?_, fun always => ?_⟩
  all_goals
    have kept := always.final
    have same := kept "acme" ⟨0, 0⟩ (by rfl) ⟨by decide +kernel, by decide +kernel,
      ended (others (others (others (others fun _ _ => rfl))))⟩
    exact absurd same (by decide +kernel)

end ParakoId.TenantProviders
