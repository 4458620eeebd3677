import ParakoId.SessionStore.Documents

/-!
What the session manager asks its back ends: a query for documents, a scan for the sessions of an
account in Redis, and the rows that a query for a tenant can see.
-/

namespace ParakoId.StoredSessions

open RedisKeys (KeyPrefix userSessionsPrefix redisUserSessionsKey)
open SessionAccounts (isNonEmptyString)
open SessionStore (tenantIdFromSessionId)

structure Username where
  text : String
  nonBlank : isNonEmptyString text = true

variable {Profile : Type}

def mongoQuery (tenantId userId : String) (payload : Option (PersistedSession Profile)) : Bool :=
  (decodePersistedSession payload).any fun data =>
    data.accountId == some userId && mongoSessionTenantFilter tenantId data

theorem mongoQuery_eq (tenantId userId : String) (payload : Option (PersistedSession Profile)) :
    mongoQuery tenantId userId payload = isSessionOf tenantId userId payload := by
  simp only [mongoQuery, isSessionOf, mongoSessionTenantFilter_eq, Bool.and_comm]

def get (space : Keyspace String (RedisValue Profile)) (key : String) :
    Option (Option (PersistedSession Profile)) :=
  match space.lookup key with
  | some ⟨.session payload, _⟩ => some payload
  | _ => none

def smembers (space : Keyspace String (RedisValue Profile)) (key : String) : List String :=
  match space.lookup key with
  | some ⟨.members sessionIds, _⟩ => sessionIds
  | _ => []

def srem (space : Keyspace String (RedisValue Profile)) (key : String) (staleIds : List String) :
    Keyspace String (RedisValue Profile) :=
  match space.lookup key with
  | some ⟨.members sessionIds, expiresAt⟩ =>
    let left := sessionIds.filter fun sessionId => !staleIds.contains sessionId
    if left = [] then space.del key else space.put key (some ⟨.members left, expiresAt⟩)
  | _ => space

def isOwned (tenantId userId : String) (space : Keyspace String (RedisValue Profile))
    (key : String) : Bool :=
  (get space key).any (isSessionOf tenantId userId)

def findRedisSessionIdsForAccount (keyPrefix tenantId accountId : String)
    (protectedSessionIds scanned : List String) (space : Keyspace String (RedisValue Profile)) :
    List String × Keyspace String (RedisValue Profile) :=
  let indexKey := redisUserSessionsKey keyPrefix accountId tenantId
  let sessionKeys := scanned.filter fun key =>
    !(userSessionsPrefix keyPrefix).toList.isPrefixOf key.toList &&
      isOwned tenantId accountId space key
  let actualIds := (sessionKeys.map (sessionIdOfKey keyPrefix)).eraseDups
  let staleIds := (smembers space indexKey).filter fun sessionId =>
    !actualIds.contains sessionId && !protectedSessionIds.contains sessionId
  (actualIds, if staleIds = [] then space else srem space indexKey staleIds)

def findMany (tenantId : String) (rows : List (SessionRow Profile)) : List (SessionRow Profile) :=
  rows.filter fun row => row.tenant_id == tenantId

def deleteMany (tenantId : String) (sids : List String) (rows : List (SessionRow Profile)) :
    Nat × List (SessionRow Profile) :=
  let isDeleted : SessionRow Profile → Bool := fun row =>
    row.tenant_id == tenantId && sids.contains row.stored.sid.text
  (rows.countP isDeleted, rows.filter fun row => !isDeleted row)

theorem get_eq_some {space : Keyspace String (RedisValue Profile)} {key : String}
    {payload : Option (PersistedSession Profile)} (found : get space key = some payload) :
    ∃ entry, space.lookup key = some entry := by
  rw [get] at found
  split at found
  · exact ⟨_, ‹_›⟩
  · cases found

theorem lookup_srem (space : Keyspace String (RedisValue Profile)) {key other : String}
    (differs : other ≠ key) (staleIds : List String) :
    (srem space key staleIds).lookup other = space.lookup other := by
  rw [srem]
  split
  · simp only
    split
    · rw [Keyspace.lookup_del, if_neg differs]
    · rw [Keyspace.lookup_put, if_neg differs]
  · rfl

theorem lookup_findRedisSessionIds (keyPrefix tenantId accountId : String)
    (protectedSessionIds scanned : List String) (space : Keyspace String (RedisValue Profile))
    (sid : SessionId) :
    (findRedisSessionIdsForAccount keyPrefix tenantId accountId protectedSessionIds scanned
      space).2.lookup (sessionKey keyPrefix sid.text) =
        space.lookup (sessionKey keyPrefix sid.text) := by
  simp only [findRedisSessionIdsForAccount]
  split
  · rfl
  · exact lookup_srem space (sessionKey_ne_userSessions keyPrefix accountId tenantId sid) _

variable {keyPrefix : KeyPrefix}

theorem mem_findRedisSessionIds {space : Keyspace String (RedisValue Profile)}
    (scan : SessionScan keyPrefix space) (tenantId accountId : String)
    (protectedSessionIds : List String) (sid : SessionId) :
    sid.text ∈ (findRedisSessionIdsForAccount keyPrefix.text tenantId accountId
        protectedSessionIds scan.keys space).1 ↔
      isOwned tenantId accountId space (sessionKey keyPrefix.text sid.text) = true := by
  simp only [findRedisSessionIdsForAccount, List.mem_eraseDups, List.mem_map, List.mem_filter]
  constructor
  · rintro ⟨key, ⟨scanned, isSession⟩, isId⟩
    rw [← isId, sessionKey_of_scanned (scan.sound key scanned)]
    exact (Bool.and_eq_true _ _ ▸ isSession).2
  · intro owned
    have present := owned
    rw [isOwned, Option.any_eq_true_iff_get] at present
    obtain ⟨isSome, _⟩ := present
    obtain ⟨payload, isPayload⟩ := Option.isSome_iff_exists.mp isSome
    obtain ⟨entry, found⟩ := get_eq_some isPayload
    have scanned := sessionKey_scanned keyPrefix sid.text
    refine ⟨sessionKey keyPrefix.text sid.text, ⟨scan.complete _ _ found scanned, ?_⟩, ?_⟩
    · rw [sessionKey_notIndex, owned, Bool.not_false, Bool.and_self]
    · exact sessionKey_injective _ (sessionKey_of_scanned scanned)

theorem eraseDups_distinct (sids : List String) : sids.eraseDups.Nodup := by
  induction size : sids.length using Nat.strong_induction_on generalizing sids with
  | _ length ih =>
    subst size
    cases sids with
    | nil => exact List.nodup_nil
    | cons sid rest =>
      rw [List.eraseDups_cons, List.nodup_cons, List.mem_eraseDups]
      refine ⟨by simp, ih _ ?_ _ rfl⟩
      exact Nat.lt_succ_of_le (List.length_filter_le _ rest)

theorem isOwned_congr (tenantId userId : String)
    {first second : Keyspace String (RedisValue Profile)} {key : String}
    (same : first.lookup key = second.lookup key) :
    isOwned tenantId userId first key = isOwned tenantId userId second key := by
  rw [isOwned, isOwned, get, get, same]

theorem entry_injective {first second : StoredSession Profile} (sameId : first.sid = second.sid)
    (sameEntry : first.entry = second.entry) : first = second := by
  injection sameEntry with sameValue sameTime
  injection sameValue with samePayload
  exact StoredSession.ext sameId samePayload (WithTop.coe_injective sameTime)

theorem Replicas.holds_iff (replicas : Replicas keyPrefix Profile) (storeType : SessionStoreType)
    (stored : StoredSession Profile) :
    replicas.Holds keyPrefix.text storeType stored ↔
      stored ∈ replicas.content ∧
        (storeType = .redis → stored.isLive replicas.space.now = true) := by
  have inTable : (∃ row ∈ replicas.rows, row.stored = stored) ↔ stored ∈ replicas.content := by
    simp only [replicas.partitioned.mem_iff, List.mem_map]
    constructor
    · rintro ⟨_, ⟨original, member, rfl⟩, rfl⟩
      exact member
    · intro member
      exact ⟨stored.row, ⟨stored, member, rfl⟩, rfl⟩
  cases storeType with
  | mongodb => simp [Stores.Holds, replicas.documents.mem_iff]
  | redis =>
    simp only [Stores.Holds, replicas.entries, true_imp_iff]
    constructor
    · rintro ⟨original, member, sameId, live, sameEntry⟩
      rw [← entry_injective sameId sameEntry]
      exact ⟨member, live⟩
    · rintro ⟨member, live⟩
      exact ⟨stored, member, rfl, live, rfl⟩
  | sqlite | postgresql => simpa [Stores.Holds] using inTable

theorem Replicas.rows_distinct (replicas : Replicas keyPrefix Profile) :
    (replicas.rows.map fun row => row.stored.sid).Nodup := by
  have sameIds := replicas.partitioned.map fun row => row.stored.sid
  rw [List.map_map] at sameIds
  exact sameIds.nodup_iff.mpr replicas.distinct

theorem Replicas.row_partition (replicas : Replicas keyPrefix Profile) {row : SessionRow Profile}
    (member : row ∈ replicas.rows) :
    row.tenant_id = tenantIdFromSessionId row.stored.sid.text := by
  obtain ⟨original, _, rfl⟩ := List.mem_map.mp (replicas.partitioned.mem_iff.mp member)
  rfl

end ParakoId.StoredSessions
