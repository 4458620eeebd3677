import ParakoId.SessionStore.Queries

/-!
The revocation of all sessions of an account. A session is found by its account id, so by the
account that is active in it.
-/

namespace ParakoId.StoredSessions

open RedisKeys (KeyPrefix userSessionsPrefix redisUserSessionsKey)
open SessionAccounts (isNonEmptyString)
open SessionStore (tenantIdFromSessionId)

section BackEnds

variable {Profile : Type}

def revokeRedisSessions (keyPrefix tenantId userId : String) (scanned : List String)
    (space : Keyspace String (RedisValue Profile)) : Nat × Keyspace String (RedisValue Profile) :=
  let key := redisUserSessionsKey keyPrefix userId tenantId
  let found := findRedisSessionIdsForAccount keyPrefix tenantId userId [] scanned space
  if found.1 = [] then (0, found.2.del key)
  else
    let revocableSessionIds := found.1.filter fun sid =>
      isOwned tenantId userId found.2 (sessionKey keyPrefix sid)
    if revocableSessionIds = [] then (0, found.2.del key)
    else
      (revocableSessionIds.countP fun sid => (found.2.lookup (sessionKey keyPrefix sid)).isSome,
        (found.2.delAll (revocableSessionIds.map (sessionKey keyPrefix))).del key)

def revokeMongoSessions (tenantId userId : String) (collection : List (StoredSession Profile)) :
    Nat × List (StoredSession Profile) :=
  let isFound : StoredSession Profile → Bool := fun stored =>
    mongoQuery tenantId userId stored.payload
  (collection.countP isFound, collection.filter fun stored => !isFound stored)

def revokePrismaSessions (tenantId userId : String) (rows : List (SessionRow Profile)) :
    Nat × List (SessionRow Profile) :=
  let sidsToDelete := ((findMany tenantId rows).filter fun row =>
    isSessionOf tenantId userId row.stored.payload).map fun row => row.stored.sid.text
  if sidsToDelete = [] then (0, rows) else deleteMany tenantId sidsToDelete rows

def revokeAllSessionsForUser (keyPrefix : String) (storeType : SessionStoreType)
    (tenantId userId : String) (scanned : List String) (stores : Stores Profile) :
    Nat × Stores Profile :=
  if isNonEmptyString userId = false then (0, stores)
  else match storeType with
    | .mongodb =>
      let revoked := revokeMongoSessions tenantId userId stores.collection
      (revoked.1, { stores with collection := revoked.2 })
    | .redis =>
      let revoked := revokeRedisSessions keyPrefix tenantId userId scanned stores.space
      (revoked.1, { stores with space := revoked.2 })
    | .sqlite | .postgresql =>
      let revoked := revokePrismaSessions tenantId userId stores.rows
      (revoked.1, { stores with rows := revoked.2 })

theorem lookup_revokeRedisSessions {keyPrefix : KeyPrefix}
    {space : Keyspace String (RedisValue Profile)} (scan : SessionScan keyPrefix space)
    (tenantId userId : String) (sid : SessionId) :
    (revokeRedisSessions keyPrefix.text tenantId userId scan.keys space).2.lookup
        (sessionKey keyPrefix.text sid.text) =
      if isOwned tenantId userId space (sessionKey keyPrefix.text sid.text) = true then none
      else space.lookup (sessionKey keyPrefix.text sid.text) := by
  have kept := lookup_findRedisSessionIds keyPrefix.text tenantId userId [] scan.keys space sid
  have isFound := mem_findRedisSessionIds scan tenantId userId [] sid
  have notIndex := sessionKey_ne_userSessions keyPrefix.text userId tenantId sid
  have again := isOwned_congr tenantId userId kept
  simp only [revokeRedisSessions]
  generalize findRedisSessionIdsForAccount keyPrefix.text tenantId userId [] scan.keys space =
    found at *
  split
  · rename_i empty
    rw [Keyspace.lookup_del, if_neg notIndex, kept, if_neg]
    rw [← isFound, empty]
    exact List.not_mem_nil
  · have isRevocable : sid.text ∈ found.1.filter (fun sid =>
        isOwned tenantId userId found.2 (sessionKey keyPrefix.text sid)) ↔
          isOwned tenantId userId space (sessionKey keyPrefix.text sid.text) = true := by
      rw [List.mem_filter, isFound, again, and_self]
    split
    · rename_i empty
      rw [Keyspace.lookup_del, if_neg notIndex, kept, if_neg]
      rw [← isRevocable, empty]
      exact List.not_mem_nil
    · have isDeleted := (List.mem_map_of_injective (sessionKey_injective keyPrefix.text)).trans
        isRevocable
      rw [Keyspace.lookup_del, if_neg notIndex, Keyspace.lookup_delAll, kept]
      exact if_congr isDeleted rfl rfl

def isRevoked (storeType : SessionStoreType) (tenantId userId : String)
    (stored : StoredSession Profile) : Bool :=
  isSessionOf tenantId userId stored.payload && isReached storeType tenantId stored

theorem holds_revokedMongo (tenantId userId : String) (stores : Stores Profile)
    (stored : StoredSession Profile) :
    stored ∈ (revokeMongoSessions tenantId userId stores.collection).2 ↔
      stored ∈ stores.collection ∧ isSessionOf tenantId userId stored.payload = false := by
  simp only [revokeMongoSessions, List.mem_filter, mongoQuery_eq, Bool.not_eq_true']

theorem mem_revokedRows {rows : List (SessionRow Profile)}
    (distinct : (rows.map fun row => row.stored.sid).Nodup) (tenantId userId : String)
    (row : SessionRow Profile) :
    row ∈ (revokePrismaSessions tenantId userId rows).2 ↔
      row ∈ rows ∧
        (isSessionOf tenantId userId row.stored.payload && row.tenant_id == tenantId) = false := by
  have isDeleted : row ∈ rows → (row.stored.sid.text ∈ ((findMany tenantId rows).filter fun row =>
      isSessionOf tenantId userId row.stored.payload).map (fun row => row.stored.sid.text) ↔
        row.tenant_id = tenantId ∧ isSessionOf tenantId userId row.stored.payload = true) := by
    intro member
    simp only [findMany, List.mem_map, List.mem_filter, beq_iff_eq]
    constructor
    · rintro ⟨other, ⟨⟨isRow, visible⟩, owned⟩, sameId⟩
      have same := List.inj_on_of_nodup_map distinct isRow member (SessionId.ext sameId)
      rw [same] at visible owned
      exact ⟨visible, owned⟩
    · rintro ⟨visible, owned⟩
      exact ⟨row, ⟨⟨member, visible⟩, owned⟩, rfl⟩
  simp only [revokePrismaSessions]
  generalize List.map _ (List.filter _ (findMany tenantId rows)) = sidsToDelete at isDeleted ⊢
  split
  · rename_i empty
    rw [empty] at isDeleted
    constructor
    · intro member
      refine ⟨member, ?_⟩
      rw [Bool.and_comm, Bool.eq_false_iff, ne_eq, Bool.and_eq_true, beq_iff_eq,
        ← isDeleted member]
      exact List.not_mem_nil
    · exact fun both => both.1
  · simp only [deleteMany, List.mem_filter, Bool.not_eq_true']
    refine and_congr_right fun member => ?_
    rw [Bool.eq_false_iff, Bool.eq_false_iff, ne_eq, ne_eq, Bool.and_eq_true, Bool.and_eq_true,
      List.contains_iff_mem, isDeleted member, beq_iff_eq]
    tauto

theorem holds_revokedRows {keyPrefix : KeyPrefix} (replicas : Replicas keyPrefix Profile)
    (tenantId userId : String) (stored : StoredSession Profile) :
    (∃ row ∈ (revokePrismaSessions tenantId userId replicas.rows).2, row.stored = stored) ↔
      (∃ row ∈ replicas.rows, row.stored = stored) ∧
        (isSessionOf tenantId userId stored.payload &&
          tenantIdFromSessionId stored.sid.text == tenantId) = false := by
  constructor
  · rintro ⟨row, left, rfl⟩
    obtain ⟨member, notDeleted⟩ :=
      (mem_revokedRows replicas.rows_distinct tenantId userId row).mp left
    rw [replicas.row_partition member] at notDeleted
    exact ⟨⟨row, member, rfl⟩, notDeleted⟩
  · rintro ⟨⟨row, member, rfl⟩, notDeleted⟩
    rw [← replicas.row_partition member] at notDeleted
    exact ⟨row, (mem_revokedRows replicas.rows_distinct tenantId userId row).mpr
      ⟨member, notDeleted⟩, rfl⟩

theorem holds_revoked {keyPrefix : KeyPrefix} (replicas : Replicas keyPrefix Profile)
    (scan : SessionScan keyPrefix replicas.space) (storeType : SessionStoreType)
    (tenantId : String) (account : Username) (stored : StoredSession Profile) :
    (revokeAllSessionsForUser keyPrefix.text storeType tenantId account.text scan.keys
        replicas.toStores).2.Holds keyPrefix.text storeType stored ↔
      replicas.Holds keyPrefix.text storeType stored ∧
        isRevoked storeType tenantId account.text stored = false := by
  simp only [revokeAllSessionsForUser, account.nonBlank, Bool.true_eq_false, if_false, isRevoked,
    isReached]
  cases storeType with
  | mongodb =>
    rw [Bool.and_true]
    exact holds_revokedMongo tenantId account.text replicas.toStores stored
  | redis =>
    have isFound : replicas.space.lookup (sessionKey keyPrefix.text stored.sid.text) =
        some stored.entry → isOwned tenantId account.text replicas.space
          (sessionKey keyPrefix.text stored.sid.text) =
            isSessionOf tenantId account.text stored.payload := by
      intro found
      rw [isOwned, get, found]
      rfl
    rw [Bool.and_true]
    simp only [Stores.Holds, lookup_revokeRedisSessions scan]
    split
    · rename_i owned
      simp only [reduceCtorEq, false_iff, not_and]
      intro found
      rw [← isFound found, owned]
      simp
    · rename_i notOwned
      refine ⟨fun found => ⟨found, ?_⟩, fun both => both.1⟩
      rw [← isFound found]
      exact Bool.eq_false_iff.mpr notOwned
  | sqlite | postgresql => exact holds_revokedRows replicas tenantId account.text stored

/-- After the revocation in any of the back ends no session of the tenant lists the account; only
those that did are gone; and the back ends are left with the same live sessions. -/
structure Revoked (keyPrefix : String) (before : Stores Profile)
    (after : SessionStoreType → Stores Profile) (tenantId userId : String) : Prop where
  complete : ∀ storeType stored, (after storeType).Holds keyPrefix storeType stored →
    stored.BelongsTo tenantId → ¬stored.Lists userId
  only : ∀ storeType stored, before.Holds keyPrefix storeType stored →
    ¬(after storeType).Holds keyPrefix storeType stored →
      stored.BelongsTo tenantId ∧ stored.Lists userId
  same : ∀ first second stored, stored.isLive before.space.now = true →
    ((after first).Holds keyPrefix first stored ↔ (after second).Holds keyPrefix second stored)

def revokedIn (keyPrefix : KeyPrefix) (stores : Stores Profile)
    (scan : SessionScan keyPrefix stores.space) (tenantId userId : String)
    (storeType : SessionStoreType) : Stores Profile :=
  (revokeAllSessionsForUser keyPrefix.text storeType tenantId userId scan.keys stores).2

theorem isRevoked_iff {storeType : SessionStoreType} {tenantId userId : String}
    {stored : StoredSession Profile}
    (sameTenant : stored.HasAccountId userId → stored.BelongsTo tenantId →
      tenantIdFromSessionId stored.sid.text = tenantId) :
    isRevoked storeType tenantId userId stored = true ↔
      stored.BelongsTo tenantId ∧ stored.HasAccountId userId := by
  rw [isRevoked, Bool.and_eq_true, isSessionOf_iff, and_iff_left_iff_imp]
  rintro ⟨belongs, hasAccountId⟩
  cases storeType <;> simp [isReached, sameTenant hasAccountId belongs]

section Replicas

variable {keyPrefix : KeyPrefix} (replicas : Replicas keyPrefix Profile)
  (scan : SessionScan keyPrefix replicas.space)

theorem isRevoked_of_gone {storeType : SessionStoreType} {tenantId : String} {account : Username}
    {stored : StoredSession Profile}
    (present : replicas.Holds keyPrefix.text storeType stored)
    (gone : ¬(revokedIn keyPrefix replicas.toStores scan tenantId account.text storeType).Holds
      keyPrefix.text storeType stored) :
    isRevoked storeType tenantId account.text stored = true := by
  by_contra notRevoked
  exact gone ((holds_revoked replicas scan storeType tenantId account stored).mpr
    ⟨present, Bool.eq_false_iff.mpr notRevoked⟩)

theorem left_of_left {tenantId : String} {account : Username} {first second : SessionStoreType}
    {stored : StoredSession Profile} (live : stored.isLive replicas.space.now = true)
    (agree : stored ∈ replicas.content → (isRevoked first tenantId account.text stored = true ↔
      isRevoked second tenantId account.text stored = true))
    (left : (revokedIn keyPrefix replicas.toStores scan tenantId account.text first).Holds
      keyPrefix.text first stored) :
    (revokedIn keyPrefix replicas.toStores scan tenantId account.text second).Holds
      keyPrefix.text second stored := by
  obtain ⟨present, notRevoked⟩ :=
    (holds_revoked replicas scan first tenantId account stored).mp left
  have member := ((replicas.holds_iff first stored).mp present).1
  refine (holds_revoked replicas scan second tenantId account stored).mpr
    ⟨(replicas.holds_iff second stored).mpr ⟨member, fun _ => live⟩, ?_⟩
  rw [Bool.eq_false_iff, ne_eq, ← agree member, notRevoked]
  exact Bool.false_ne_true

/-- A revocation does what it is for, exactly where each session of the tenant that lists the
account has it as the active one, and has an id of that tenant. -/
theorem revoked_iff (tenantId : String) (account : Username) :
    Revoked keyPrefix.text replicas.toStores
        (revokedIn keyPrefix replicas.toStores scan tenantId account.text) tenantId account.text ↔
      ∀ stored ∈ replicas.content, stored.BelongsTo tenantId → stored.Lists account.text →
        stored.HasAccountId account.text ∧ tenantIdFromSessionId stored.sid.text = tenantId := by
  constructor
  · intro revoked stored member belongs lists
    have isGone : ∀ storeType, storeType ≠ .redis →
        isRevoked storeType tenantId account.text stored = true := by
      intro storeType notRedis
      have present := (replicas.holds_iff storeType stored).mpr
        ⟨member, fun isRedis => absurd isRedis notRedis⟩
      exact isRevoked_of_gone replicas scan present fun left =>
        revoked.complete storeType stored left belongs lists
    have inMongo := isGone .mongodb (by decide)
    have inTable := isGone .sqlite (by decide)
    rw [isRevoked, Bool.and_eq_true] at inMongo inTable
    exact ⟨(isSessionOf_iff.mp inMongo.1).2, beq_iff_eq.mp inTable.2⟩
  · intro condition
    have gone : ∀ storeType, ∀ stored ∈ replicas.content,
        (isRevoked storeType tenantId account.text stored = true ↔
          stored.BelongsTo tenantId ∧ stored.HasAccountId account.text) := by
      intro storeType stored member
      apply isRevoked_iff
      intro hasAccountId belongs
      exact (condition stored member belongs hasAccountId.lists).2
    refine ⟨?_, ?_, ?_⟩
    · intro storeType stored left belongs lists
      obtain ⟨present, notRevoked⟩ :=
        (holds_revoked replicas scan storeType tenantId account stored).mp left
      have member := ((replicas.holds_iff storeType stored).mp present).1
      have isGone := (gone storeType stored member).mpr
        ⟨belongs, (condition stored member belongs lists).1⟩
      rw [notRevoked] at isGone
      cases isGone
    · intro storeType stored present notLeft
      have member := ((replicas.holds_iff storeType stored).mp present).1
      have isGone := isRevoked_of_gone replicas scan present notLeft
      obtain ⟨belongs, hasAccountId⟩ := (gone storeType stored member).mp isGone
      exact ⟨belongs, hasAccountId.lists⟩
    · intro first second stored live
      have agree : ∀ first second, stored ∈ replicas.content →
          (isRevoked first tenantId account.text stored = true ↔
            isRevoked second tenantId account.text stored = true) := fun first second member =>
        (gone first stored member).trans (gone second stored member).symm
      exact ⟨left_of_left replicas scan live (agree first second),
        left_of_left replicas scan live (agree second first)⟩

end Replicas

end BackEnds

def bobAndAda : SessionData Unit where
  authenticatedUsers := some
    { active := some { id := "1", username := "bob", last_used := none, profile := () }
      others := some [{ id := "2", username := "ada", last_used := none, profile := () }] }
  accountId := some "bob"
  pendingSwitchUserId := none
  tenantId := some "acme"
  authTime := some (.number 0)

def bobsSession : StoredSession Unit where
  sid := { text := "acme.1", nonempty := by decide, noColon := by decide }
  payload := some { sessionData := bobAndAda, encrypted := false }
  expires_at := 1000

def ada : Username where
  text := "ada"
  nonBlank := by decide

theorem revocation_leaves :
    let replicas := Replicas.of RedisKeys.parako 0 [bobsSession] (List.nodup_singleton _)
    let scan := SessionScan.of RedisKeys.parako 0 [bobsSession] (List.nodup_singleton _)
    (∀ storeType, (revokedIn RedisKeys.parako replicas.toStores scan "acme" "ada"
      storeType).Holds "parako" storeType bobsSession) ∧
    (SessionAccounts.switchUser { multipleAccountsEnabled := none, max_accounts_per_session := none
                                  require_reauth_on_switch := none } 0 bobAndAda.toSession
      "ada").1.accountId = some "ada" ∧
    ¬∀ (keyPrefix : KeyPrefix) (replicas : Replicas keyPrefix Unit)
        (scan : SessionScan keyPrefix replicas.space) (tenantId : String) (account : Username),
      Revoked keyPrefix.text replicas.toStores
        (revokedIn keyPrefix replicas.toStores scan tenantId account.text) tenantId
          account.text := by
  intro replicas scan
  have left : ∀ storeType, (revokedIn RedisKeys.parako replicas.toStores scan "acme" "ada"
      storeType).Holds "parako" storeType bobsSession := by
    intro storeType
    have present := (replicas.holds_iff storeType bobsSession).mpr ⟨.head _, fun _ => rfl⟩
    exact (holds_revoked replicas scan storeType "acme" ada bobsSession).mpr ⟨present, rfl⟩
  refine ⟨left, rfl, ?_⟩
  intro always
  have revoked := always RedisKeys.parako replicas scan "acme" ada
  exact revoked.complete .mongodb bobsSession (left .mongodb) ⟨_, rfl, rfl⟩ ⟨_, rfl, rfl⟩

end ParakoId.StoredSessions
