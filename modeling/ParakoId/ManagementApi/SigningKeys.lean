import ParakoId.ManagementApi.JwtAuth

/-!
The keys that the management API accepts tokens with, over every interleaving of verifications
with changes of the keys and clears of the cache.
-/

namespace ParakoId.ManagementApi

open Interleavings (Event Invariant Keeps OnTurns Shared)
open Runs (AllowedFrom AlwaysFrom)

variable {Key : Type}

/-- The token was signed by a key that was read from the key store of the tenant, and names the
tenant's issuer and the management API. -/
structure Accepted (signedBy : Key → String → Prop) (config : TenantIssuers) (store : Store Key)
    (call : Verification Key) (payload : JWTPayload) : Prop where
  signature : ∃ keySet ∈ store.reads, keySet.tenantId = call.tenantId ∧
    ∃ key ∈ keySet.keys, signedBy key call.token
  issuer : payload.iss = some (config.issuer call.tenantId)
  audience : MANAGEMENT_API_RESOURCE_URI ∈ payload.aud

structure Sound (signedBy : Key → String → Prop) (config : TenantIssuers)
    (state : Shared (Store Key) (Verification Key)) : Prop where
  accepted : ∀ id verifier payload apiAuth,
    (state.calls id).phase = .passed verifier payload apiAuth →
      Accepted signedBy config state.store (state.calls id) payload
  bounded : state.store.jwksCache.size ≤ JWKS_CACHE_MAX_SIZE
  unexpired : ∀ tenantId verifier, cacheHit state.store tenantId = some verifier →
    state.store.clock - verifier.readAt < JWKS_CACHE_TTL_MS

def Verification.verifier? (call : Verification Key) : Option (KeySet Key) :=
  match call.phase with
  | .verifying verifier _ => some verifier
  | .passed verifier _ _ => some verifier
  | _ => none

def RespectsClears (state : Shared (Store Key) (Verification Key)) : Prop :=
  ∀ id verifier, (state.calls id).verifier? = some verifier →
    (state.calls id).startedAfter ≤ verifier.clears

def Cleared (store : Store Key) : Prop :=
  ∀ tenantId cached, store.jwksCache.get tenantId = some cached →
    cached.verifier.clears = store.clears

def StoresSinceClear (store : Store Key) (call : Verification Key) (_ : Bool) : Prop :=
  match call.phase with
  | .loaded _ keySet => keySet.clears = store.clears
  | _ => True

variable {tenantId : String} {store : Store Key} {verifier : KeySet Key}
  {signedBy : Key → String → Prop} {call : Verification Key}

theorem evictOldest_get {cache : InsertionMap String (JwksCache Key)} {cached : JwksCache Key}
    (found : (evictOldest cache).get tenantId = some cached) :
    cache.get tenantId = some cached := by
  unfold evictOldest at found
  split at found
  · split at found
    · exact (InsertionMap.get_delete_eq_some_iff.mp found).2
    · exact found
  · exact found

theorem evictOldest_size {cache : InsertionMap String (JwksCache Key)}
    (bounded : cache.size ≤ JWKS_CACHE_MAX_SIZE) :
    (evictOldest cache).size < JWKS_CACHE_MAX_SIZE := by
  unfold evictOldest
  split
  next isFull =>
    split
    next oldestKey isOldest =>
      have smaller := InsertionMap.size_delete_lt (List.mem_of_head? isOldest)
      omega
    next isEmpty =>
      have noEntry : cache.size = 0 := by
        simpa [InsertionMap.keys, InsertionMap.size] using isEmpty
      rw [noEntry]
      decide
  next hasRoom => omega

theorem save_get {other : String} {now : Nat} {cached : JwksCache Key}
    (found : (store.save tenantId verifier now).jwksCache.get other = some cached) :
    (other = tenantId ∧ cached = ⟨verifier, now⟩) ∨ store.jwksCache.get other = some cached := by
  simp only [Store.save, InsertionMap.get_set] at found
  split at found
  next same =>
    injection found with isCached
    exact .inl ⟨same, isCached.symm⟩
  next => exact .inr (evictOldest_get found)

theorem save_size (bounded : store.jwksCache.size ≤ JWKS_CACHE_MAX_SIZE) (tenantId : String)
    (verifier : KeySet Key) (now : Nat) :
    (store.save tenantId verifier now).jwksCache.size ≤ JWKS_CACHE_MAX_SIZE := by
  have evicted := evictOldest_size bounded
  have grown := InsertionMap.size_set_le tenantId ⟨verifier, now⟩ (evictOldest store.jwksCache)
  simp only [Store.save]
  omega

theorem cacheHit_eq_some_iff :
    cacheHit store tenantId = some verifier ↔ ∃ cached,
      store.jwksCache.get tenantId = some cached ∧
        store.clock - cached.loadedAt < JWKS_CACHE_TTL_MS ∧ cached.verifier = verifier := by
  simp only [cacheHit, Option.map_eq_some_iff, Option.filter_eq_some_iff, decide_eq_true_eq,
    and_assoc]

structure CachedRead (store : Store Key) (tenantId : String) (cached : JwksCache Key) : Prop where
  tenant : cached.verifier.tenantId = tenantId
  read : cached.verifier ∈ store.reads
  stamped : cached.loadedAt ≤ cached.verifier.readAt

def Verification.Sound (signedBy : Key → String → Prop) (config : TenantIssuers)
    (store : Store Key) (call : Verification Key) : Prop :=
  match call.phase with
  | .loading now => now ≤ store.clock
  | .loaded now keySet =>
    now ≤ keySet.readAt ∧ keySet ∈ store.reads ∧ keySet.tenantId = call.tenantId
  | .verifying verifier issuer =>
    verifier ∈ store.reads ∧ verifier.tenantId = call.tenantId ∧
      issuer = config.issuer call.tenantId
  | .passed _ payload _ => Accepted signedBy config store call payload
  | _ => True

def soundness (signedBy : Key → String → Prop) (config : TenantIssuers) :
    Invariant (Store Key) (Verification Key) where
  store store := store.jwksCache.size ≤ JWKS_CACHE_MAX_SIZE ∧
    ∀ tenantId cached, store.jwksCache.get tenantId = some cached →
      CachedRead store tenantId cached
  call := Verification.Sound signedBy config

theorem Verification.Sound.of_grown {config : TenantIssuers} {before after : Store Key}
    (sound : call.Sound signedBy config before) (clock : before.clock ≤ after.clock)
    (reads : before.reads ⊆ after.reads) : call.Sound signedBy config after := by
  unfold Verification.Sound at sound ⊢
  split at sound
  · exact sound.trans clock
  · exact ⟨sound.1, reads sound.2.1, sound.2.2⟩
  · exact ⟨reads sound.1, sound.2⟩
  · obtain ⟨keySet, member, signed⟩ := sound.signature
    exact ⟨⟨keySet, reads member, signed⟩, sound.issuer, sound.audience⟩
  · trivial

theorem CachedRead.of_grown {before after : Store Key} {cached : JwksCache Key}
    (isRead : CachedRead before tenantId cached) (reads : before.reads ⊆ after.reads) :
    CachedRead after tenantId cached :=
  ⟨isRead.tenant, reads isRead.read, isRead.stamped⟩

theorem finish_sound {jose : Jose Key} (verifies : jose.Verifies signedBy)
    {config : TenantIssuers} (isRead : verifier ∈ store.reads)
    (tenant : verifier.tenantId = call.tenantId) :
    Verification.Sound signedBy config store { call with
      phase := call.finish jose store.clock verifier (config.issuer call.tenantId) } := by
  unfold Verification.finish
  split
  · trivial
  · trivial
  next payload isVerified =>
    split
    · trivial
    next apiAuth _ =>
      obtain ⟨key, member, signed⟩ := verifies.signature isVerified
      exact ⟨⟨verifier, isRead, tenant, key, member, signed⟩, verifies.issuer isVerified,
        verifies.audience isVerified⟩

theorem turn_sound {jose : Jose Key} (verifies : jose.Verifies signedBy) (config : TenantIssuers) :
    Keeps (verifications jose config) (soundness signedBy config) fun _ _ _ => True := by
  constructor
  · intro store call queryFails stored own _
    obtain ⟨bounded, cachedReads⟩ := stored
    simp only [verifications, turn]
    cases isPhase : call.phase with
    | arrived =>
      simp only
      split
      · exact .of_store ⟨bounded, cachedReads⟩ trivial
      · split
        next verifier isHit =>
          obtain ⟨cached, isCached, _, rfl⟩ := cacheHit_eq_some_iff.mp isHit
          have isRead := cachedReads _ _ isCached
          exact .of_store ⟨bounded, cachedReads⟩ ⟨isRead.read, isRead.tenant, rfl⟩
        · exact .of_store ⟨bounded, cachedReads⟩ (le_refl store.clock)
    | loading now =>
      simp only
      split
      · exact .of_store ⟨bounded, cachedReads⟩ trivial
      · have startedBefore : now ≤ store.clock := by
          simpa only [soundness, Verification.Sound, isPhase] using own
        have grows : store.reads ⊆ store.reads ++ [store.read call.tenantId] :=
          List.subset_append_left _ _
        refine ⟨⟨bounded, ?_⟩, ?_, ?_⟩
        · intro tenantId cached isCached
          exact (cachedReads tenantId cached isCached).of_grown grows
        · exact ⟨startedBefore, by simp, rfl⟩
        · exact fun other sound => Verification.Sound.of_grown sound (le_refl _) grows
    | loaded now keySet =>
      obtain ⟨stamped, isRead, tenant⟩ :
          now ≤ keySet.readAt ∧ keySet ∈ store.reads ∧ keySet.tenantId = call.tenantId := by
        simpa only [soundness, Verification.Sound, isPhase] using own
      refine ⟨⟨save_size bounded _ _ _, ?_⟩, ?_, ?_⟩
      · intro tenantId cached isCached
        rcases save_get isCached with ⟨rfl, rfl⟩ | isOld
        · exact ⟨tenant, isRead, stamped⟩
        · exact (cachedReads tenantId cached isOld).of_grown (List.Subset.refl _)
      · exact ⟨isRead, tenant, rfl⟩
      · exact fun other sound =>
          Verification.Sound.of_grown sound (le_refl _) (List.Subset.refl _)
    | verifying verifier issuer =>
      obtain ⟨isRead, tenant, rfl⟩ : verifier ∈ store.reads ∧
          verifier.tenantId = call.tenantId ∧ issuer = config.issuer call.tenantId := by
        simpa only [soundness, Verification.Sound, isPhase] using own
      exact .of_store ⟨bounded, cachedReads⟩ (finish_sound verifies isRead tenant)
    | rejected _ | passed _ _ _ => exact .of_store ⟨bounded, cachedReads⟩ own
  · rintro store change ⟨bounded, cachedReads⟩
    cases change with
    | keysChange keyStore =>
      refine ⟨⟨bounded, ?_⟩, ?_⟩
      · intro tenantId cached isCached
        exact (cachedReads tenantId cached isCached).of_grown (List.Subset.refl _)
      · exact fun other sound =>
          Verification.Sound.of_grown sound (le_refl _) (List.Subset.refl _)
    | clearJwksCache =>
      refine ⟨⟨Nat.zero_le _, ?_⟩, ?_⟩
      · intro tenantId cached isCached
        cases isCached
      · exact fun other sound =>
          Verification.Sound.of_grown sound (le_refl _) (List.Subset.refl _)
    | wait milliseconds =>
      refine ⟨⟨bounded, ?_⟩, ?_⟩
      · intro tenantId cached isCached
        exact (cachedReads tenantId cached isCached).of_grown (List.Subset.refl _)
      · exact fun other sound =>
          Verification.Sound.of_grown sound (Nat.le_add_right _ _) (List.Subset.refl _)

theorem Sound.of_holds {config : TenantIssuers} {state : Shared (Store Key) (Verification Key)}
    (holds : (soundness signedBy config).Holds state) : Sound signedBy config state := by
  constructor
  · intro id verifier payload apiAuth isPassed
    have sound := holds.calls id
    simpa only [soundness, Verification.Sound, isPassed] using sound
  · exact holds.store.1
  · intro tenantId verifier isHit
    obtain ⟨cached, isCached, recent, rfl⟩ := cacheHit_eq_some_iff.mp isHit
    have stamped := (holds.store.2 tenantId cached isCached).stamped
    omega

def Verification.Uncleared (store : Store Key) (call : Verification Key) : Prop :=
  match call.phase with
  | .loading _ => call.startedAfter ≤ store.clears
  | .loaded _ keySet => call.startedAfter ≤ keySet.clears
  | .verifying verifier _ => call.startedAfter ≤ verifier.clears
  | .passed verifier _ _ => call.startedAfter ≤ verifier.clears
  | _ => True

def clearing : Invariant (Store Key) (Verification Key) where
  store := Cleared
  call := Verification.Uncleared

theorem Verification.Uncleared.of_le {before after : Store Key}
    (uncleared : call.Uncleared before) (clears : before.clears ≤ after.clears) :
    call.Uncleared after := by
  unfold Verification.Uncleared at uncleared ⊢
  split at uncleared
  · exact uncleared.trans clears
  all_goals exact uncleared

theorem finish_uncleared (jose : Jose Key) (store : Store Key) (issuer : String)
    (started : call.startedAfter ≤ verifier.clears) :
    Verification.Uncleared store
      { call with phase := call.finish jose store.clock verifier issuer } := by
  unfold Verification.finish
  split
  · trivial
  · trivial
  · split
    · trivial
    · exact started

theorem cleared_save_iff (cleared : Cleared store) (tenantId : String) (keySet : KeySet Key)
    (now : Nat) : Cleared (store.save tenantId keySet now) ↔ keySet.clears = store.clears := by
  constructor
  · intro afterwards
    exact afterwards tenantId ⟨keySet, now⟩ (InsertionMap.get_set_self _ _ _)
  · intro current other cached isCached
    rcases save_get isCached with ⟨_, rfl⟩ | isOld
    · exact current
    · exact cleared other cached isOld

theorem outside_cleared (change : Change Key) (cleared : Cleared store) :
    Cleared (outside store change) := by
  cases change with
  | keysChange keyStore => exact cleared
  | clearJwksCache =>
    intro tenantId cached isCached
    cases isCached
  | wait milliseconds => exact cleared

theorem turn_cleared_iff (jose : Jose Key) (config : TenantIssuers) (call : Verification Key)
    (queryFails : Bool) (cleared : Cleared store) :
    Cleared (turn jose config store call queryFails).1 ↔
      StoresSinceClear store call queryFails := by
  simp only [turn, StoresSinceClear]
  cases isPhase : call.phase with
  | arrived =>
    simp only [iff_true]
    split
    · exact cleared
    · split
      · exact cleared
      · exact cleared
  | loading now =>
    simp only [iff_true]
    split
    · exact cleared
    · exact cleared
  | loaded now keySet => exact cleared_save_iff cleared _ _ _
  | verifying _ _ | rejected _ | passed _ _ _ => exact iff_true_intro cleared

theorem turn_clearing (jose : Jose Key) (config : TenantIssuers) :
    Keeps (verifications jose config) clearing StoresSinceClear := by
  constructor
  · intro store call queryFails cleared own storesSince
    refine ⟨(turn_cleared_iff jose config call queryFails cleared).mpr storesSince, ?_⟩
    simp only [clearing, Verification.Uncleared] at own
    simp only [verifications, turn]
    cases isPhase : call.phase with
    | arrived =>
      simp only
      split
      · exact ⟨trivial, fun _ kept => kept⟩
      · split
        next verifier isHit =>
          obtain ⟨cached, isCached, _, rfl⟩ := cacheHit_eq_some_iff.mp isHit
          exact ⟨(cleared _ cached isCached).ge, fun _ kept => kept⟩
        · exact ⟨le_refl store.clears, fun _ kept => kept⟩
    | loading now =>
      rw [isPhase] at own
      simp only
      split
      · exact ⟨trivial, fun _ kept => kept⟩
      · exact ⟨own, fun _ kept => Verification.Uncleared.of_le kept (le_refl store.clears)⟩
    | loaded now keySet =>
      rw [isPhase] at own
      exact ⟨own, fun _ kept => Verification.Uncleared.of_le kept (le_refl store.clears)⟩
    | verifying verifier issuer =>
      rw [isPhase] at own
      exact ⟨finish_uncleared jose store issuer own, fun _ kept => kept⟩
    | rejected problem =>
      refine ⟨?_, fun _ kept => kept⟩
      simp only [clearing, Verification.Uncleared, isPhase]
    | passed verifier payload apiAuth =>
      rw [isPhase] at own
      refine ⟨?_, fun _ kept => kept⟩
      simpa only [clearing, Verification.Uncleared, isPhase] using own
  · intro store change cleared
    refine ⟨outside_cleared change cleared, ?_⟩
    intro call uncleared
    refine Verification.Uncleared.of_le uncleared ?_
    cases change with
    | keysChange keyStore => exact le_refl _
    | clearJwksCache => exact Nat.le_succ _
    | wait milliseconds => exact le_refl _

theorem RespectsClears.of_holds {state : Shared (Store Key) (Verification Key)}
    (holds : clearing.Holds state) : RespectsClears state := by
  intro id verifier isVerifier
  have uncleared := holds.calls id
  simp only [clearing, Verification.Uncleared] at uncleared
  unfold Verification.verifier? at isVerifier
  split at isVerifier
  next isPhase =>
    injection isVerifier with same
    rwa [isPhase, same] at uncleared
  next isPhase =>
    injection isVerifier with same
    rwa [isPhase, same] at uncleared
  · cases isVerifier

/-- In every run accepted tokens are signed by keys of their tenant, and the cache keeps to its
size and its age. It never holds keys read before a clear exactly when no load stores such keys,
and then no verification uses keys that were read before a clear after which it started. -/
theorem accepts_current_keys (jose : Jose Key) (signedBy : Key → String → Prop)
    (verifies : jose.Verifies signedBy) (config : TenantIssuers) (keyStore : String → List Key)
    (clock : Nat) (requests : Nat → Option String × String × String)
    (events : List (Event Bool (Change Key))) :
    let step := (verifications jose config).step
    let start := initially keyStore clock requests
    AlwaysFrom step (Sound signedBy config) start events ∧
      (AlwaysFrom step (fun state => Cleared state.store) start events ↔
        AllowedFrom step (OnTurns StoresSinceClear) start events) ∧
      (AllowedFrom step (OnTurns StoresSinceClear) start events →
        AlwaysFrom step RespectsClears start events) := by
  intro step start
  have empty : Cleared start.store := by
    intro tenantId cached isCached
    cases isCached
  have initial : clearing.Holds start := ⟨empty, fun _ => trivial⟩
  refine ⟨?_, ?_, ?_⟩
  · have initially : (soundness signedBy config).Holds start := by
      refine ⟨⟨Nat.zero_le _, ?_⟩, fun _ => trivial⟩
      intro tenantId cached isCached
      cases isCached
    have always := (turn_sound verifies config).always_of_initial initially events
    exact always.mono step fun state => Sound.of_holds
  · exact (turn_clearing jose config).always_iff
      (fun store call queryFails _ _ cleared =>
        turn_cleared_iff jose config call queryFails cleared)
      (fun store change => outside_cleared change) initial empty
  · intro allowed
    exact ((turn_clearing jose config).always initial allowed).mono step
      fun state => RespectsClears.of_holds

def plainJose : Jose String where
  jwtVerify keys token options now :=
    if keys.any fun key => token = "payload." ++ key then
      if options.issuer ≠ "https://acme.example" ∨
          options.audience ≠ MANAGEMENT_API_RESOURCE_URI then .error .failed
      else if 4000 + options.clockTolerance < now / 1000 then .error .expired
      else .ok
        { iss := some "https://acme.example"
          aud := [MANAGEMENT_API_RESOURCE_URI]
          client_id := some (.str "cli")
          scope := some (.str "parako:users:read")
          exp := some (.num (.finite 4000))
          iat := some (.num (.finite 400)) }
    else .error .failed

def plainlySignedBy (key token : String) : Prop := token = "payload." ++ key

theorem plainJose_verifies : plainJose.Verifies plainlySignedBy := by
  have verified : ∀ {keys token options now payload},
      plainJose.jwtVerify keys token options now = .ok payload →
        (∃ key ∈ keys, plainlySignedBy key token) ∧ payload.iss = some options.issuer ∧
          options.audience ∈ payload.aud := by
    intro keys token options now payload isVerified
    simp only [plainJose] at isVerified
    split at isVerified
    next signed =>
      split at isVerified
      · cases isVerified
      next expected =>
        simp only [ne_eq, not_or, not_not] at expected
        split at isVerified
        · cases isVerified
        · injection isVerified with isPayload
          subst isPayload
          refine ⟨?_, ?_, ?_⟩
          · simpa [plainlySignedBy] using signed
          · rw [expected.1]
          · rw [expected.2]
            exact List.mem_singleton_self _
    · cases isVerified
  exact ⟨fun isVerified => (verified isVerified).1, fun isVerified => (verified isVerified).2.1,
    fun isVerified => (verified isVerified).2.2⟩

def acmeConfig : TenantIssuers where
  multiTenancy := true
  platform := "https://id.example"
  tenantConfigs tenantId := if tenantId = "acme" then some "https://acme.example" else none

def acmeRequests (_ : Nat) : Option String × String × String :=
  (some "Bearer payload.first-key", "/api/v1/users", "acme")

def acmeStart : Shared (Store String) (Verification String) :=
  initially (fun _ => ["first-key"]) 1000000 acmeRequests

def firstLoad : List (Event Bool (Change String)) :=
  [.turn 0 false, .turn 0 false, .turn 0 false, .turn 0 false]

theorem current_keys_at_first_load :
    let step := (verifications plainJose acmeConfig).step
    AlwaysFrom step (Sound plainlySignedBy acmeConfig) acmeStart firstLoad ∧
      (AlwaysFrom step (fun state => Cleared state.store) acmeStart firstLoad ↔
        AllowedFrom step (OnTurns StoresSinceClear) acmeStart firstLoad) ∧
      AlwaysFrom step RespectsClears acmeStart firstLoad := by
  have holds := accepts_current_keys plainJose plainlySignedBy plainJose_verifies acmeConfig
    (fun _ => ["first-key"]) 1000000 acmeRequests firstLoad
  refine ⟨holds.1, holds.2.1, holds.2.2 ?_⟩
  exact ⟨trivial, trivial, rfl, trivial, trivial⟩

def exchangedWhileLoading : List (Event Bool (Change String)) :=
  [.turn 0 false, .turn 0 false, .outside (.keysChange fun _ => ["second-key"]),
    .outside .clearJwksCache, .turn 0 false, .turn 1 false, .turn 1 false]

def afterExchange : Shared (Store String) (Verification String) :=
  Runs.run (verifications plainJose acmeConfig).step acmeStart exchangedWhileLoading

theorem exchanged_key_accepted :
    (afterExchange.calls 1).isPassed = true ∧
      (afterExchange.calls 1).verifier? = some ⟨["first-key"], "acme", 1000000, 0⟩ ∧
      afterExchange.store.keyStore "acme" = ["second-key"] ∧ ¬RespectsClears afterExchange := by
  have isVerifier : (afterExchange.calls 1).verifier? =
      some ⟨["first-key"], "acme", 1000000, 0⟩ := by decide +kernel
  refine ⟨by decide +kernel, isVerifier, rfl, ?_⟩
  intro respects
  have bound := respects 1 _ isVerifier
  have started : (afterExchange.calls 1).startedAfter = 1 := by decide +kernel
  rw [started] at bound
  cases bound

end ParakoId.ManagementApi
