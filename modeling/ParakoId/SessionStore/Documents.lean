import ParakoId.SessionAccounts.Accounts
import ParakoId.SessionStore.SessionIds

/-!
Stored sessions as the session manager finds them: in a collection of documents, in a table of
rows, or under the keys of Redis. The same sessions can be in all three.
-/

namespace ParakoId.StoredSessions

open RedisKeys (KeyPrefix sessionPrefix userSessionsPrefix redisUserSessionsKey)
open SessionAccounts (Session SessionUserAccount isNamed)
open SessionStore (tenantIdFromSessionId)
open TenantScope (DEFAULT_TENANT_ID)

inductive AuthTime
  | number (time : Int)
  | text (content : String)

structure SessionData (Profile : Type) extends Session Profile where
  tenantId : Option String
  authTime : Option AuthTime

/-- What the queries can read of a session that is encrypted. The ciphertexts are left out. -/
def encryptSession {Profile : Type} (sessionData : SessionData Profile) : SessionData Profile :=
  { sessionData with authenticatedUsers := none, authTime := none }

structure PersistedSession (Profile : Type) where
  sessionData : SessionData Profile
  encrypted : Bool

@[ext] structure SessionId where
  text : String
  nonempty : text ≠ ""
  noColon : ':' ∉ text.toList
  deriving DecidableEq

/-- A payload that does not decode is nothing. -/
@[ext] structure StoredSession (Profile : Type) where
  sid : SessionId
  payload : Option (PersistedSession Profile)
  expires_at : Nat

section Documents

variable {Profile : Type}

def decodePersistedSession (payload : Option (PersistedSession Profile)) :
    Option (SessionData Profile) :=
  payload.map fun persisted =>
    if persisted.encrypted then encryptSession persisted.sessionData else persisted.sessionData

def sessionBelongsToTenant (sessionData : SessionData Profile) (tenantId : String) : Bool :=
  sessionData.tenantId == some tenantId ||
    (tenantId == DEFAULT_TENANT_ID && sessionData.tenantId == none)

def mongoSessionTenantFilter (tenantId : String) (sessionData : SessionData Profile) : Bool :=
  if tenantId ≠ DEFAULT_TENANT_ID then sessionData.tenantId == some tenantId
  else sessionData.tenantId == some DEFAULT_TENANT_ID || sessionData.tenantId == none

def isSessionOf (tenantId userId : String) (payload : Option (PersistedSession Profile)) : Bool :=
  (decodePersistedSession payload).any fun data =>
    sessionBelongsToTenant data tenantId && data.accountId == some userId

theorem mongoSessionTenantFilter_eq (tenantId : String) (sessionData : SessionData Profile) :
    mongoSessionTenantFilter tenantId sessionData =
      sessionBelongsToTenant sessionData tenantId := by
  rw [mongoSessionTenantFilter, sessionBelongsToTenant]
  by_cases isDefault : tenantId = DEFAULT_TENANT_ID
  · rw [if_neg (not_not.mpr isDefault), isDefault, beq_self_eq_true, Bool.true_and]
  · rw [if_pos isDefault, beq_eq_false_iff_ne.mpr isDefault, Bool.false_and, Bool.or_false]

def StoredSession.BelongsTo (tenantId : String) (stored : StoredSession Profile) : Prop :=
  ∃ persisted, stored.payload = some persisted ∧
    sessionBelongsToTenant persisted.sessionData tenantId = true

def StoredSession.HasAccountId (userId : String) (stored : StoredSession Profile) : Prop :=
  ∃ persisted, stored.payload = some persisted ∧ persisted.sessionData.accountId = some userId

def SessionData.lists (userId : String) (sessionData : SessionData Profile) : Bool :=
  sessionData.accountId == some userId ||
    (SessionAccounts.getActiveUser sessionData.toSession).any (isNamed userId) ||
    sessionData.others.any (isNamed userId)

def StoredSession.Lists (userId : String) (stored : StoredSession Profile) : Prop :=
  ∃ persisted, stored.payload = some persisted ∧ persisted.sessionData.lists userId = true

def StoredSession.isLive (now : Nat) (stored : StoredSession Profile) : Bool :=
  decide (now ≤ stored.expires_at)

theorem isSessionOf_iff {tenantId userId : String} {stored : StoredSession Profile} :
    isSessionOf tenantId userId stored.payload = true ↔
      stored.BelongsTo tenantId ∧ stored.HasAccountId userId := by
  rw [isSessionOf, StoredSession.BelongsTo, StoredSession.HasAccountId]
  cases stored.payload with
  | none => simp [decodePersistedSession]
  | some persisted =>
    cases isEncrypted : persisted.encrypted <;>
      simp [decodePersistedSession, isEncrypted, encryptSession, sessionBelongsToTenant]

theorem StoredSession.HasAccountId.lists {userId : String} {stored : StoredSession Profile}
    (hasAccountId : stored.HasAccountId userId) : stored.Lists userId := by
  obtain ⟨persisted, isPayload, isAccount⟩ := hasAccountId
  refine ⟨persisted, isPayload, ?_⟩
  rw [SessionData.lists, isAccount, beq_self_eq_true, Bool.true_or, Bool.true_or]

end Documents

inductive RedisValue (Profile : Type)
  | session (payload : Option (PersistedSession Profile))
  | members (sessionIds : List String)

structure SessionRow (Profile : Type) where
  stored : StoredSession Profile
  tenant_id : String

structure Stores (Profile : Type) where
  collection : List (StoredSession Profile)
  space : Keyspace String (RedisValue Profile)
  rows : List (SessionRow Profile)

inductive SessionStoreType
  | mongodb
  | redis
  | sqlite
  | postgresql
  deriving DecidableEq

def sessionKey (keyPrefix sid : String) : String := sessionPrefix keyPrefix ++ sid

/-- `key.slice(this.sessionPrefix.length)` -/
def sessionIdOfKey (keyPrefix key : String) : String :=
  String.ofList (key.toList.drop (sessionPrefix keyPrefix).toList.length)

section Stores

variable {Profile : Type}

def StoredSession.row (stored : StoredSession Profile) : SessionRow Profile where
  stored := stored
  tenant_id := tenantIdFromSessionId stored.sid.text

def StoredSession.entry (stored : StoredSession Profile) : Keyspace.Entry (RedisValue Profile) where
  value := .session stored.payload
  expiresAt := WithTop.some stored.expires_at

def Stores.Holds (keyPrefix : String) (stores : Stores Profile) (storeType : SessionStoreType)
    (stored : StoredSession Profile) : Prop :=
  match storeType with
  | .mongodb => stored ∈ stores.collection
  | .redis => stores.space.lookup (sessionKey keyPrefix stored.sid.text) = some stored.entry
  | .sqlite | .postgresql => ∃ row ∈ stores.rows, row.stored = stored

def isReached (storeType : SessionStoreType) (tenantId : String) (stored : StoredSession Profile) :
    Bool :=
  match storeType with
  | .mongodb | .redis => true
  | .sqlite | .postgresql => tenantIdFromSessionId stored.sid.text == tenantId

/-- The same sessions in all three back ends, in any order; no expired one is found in Redis, and
nothing else is stored as a session there. -/
structure Replicas (keyPrefix : KeyPrefix) (Profile : Type) extends Stores Profile where
  content : List (StoredSession Profile)
  distinct : (content.map StoredSession.sid).Nodup
  documents : collection.Perm content
  partitioned : rows.Perm (content.map StoredSession.row)
  entries : ∀ (sid : SessionId) entry,
    space.lookup (sessionKey keyPrefix.text sid.text) = some entry ↔
      ∃ stored ∈ content, stored.sid = sid ∧ stored.isLive space.now = true ∧ stored.entry = entry
  onlySessions : ∀ key payload expiresAt, space.lookup key = some ⟨.session payload, expiresAt⟩ →
    ∃ sid : SessionId, key = sessionKey keyPrefix.text sid.text

structure SessionScan (keyPrefix : KeyPrefix) (space : Keyspace String (RedisValue Profile)) where
  keys : List String
  complete : ∀ key entry, space.lookup key = some entry →
    Glob.matchesPattern (sessionPrefix keyPrefix.text ++ "*").toList key.toList = true → key ∈ keys
  sound : ∀ key ∈ keys,
    Glob.matchesPattern (sessionPrefix keyPrefix.text ++ "*").toList key.toList = true

theorem sessionKey_injective (keyPrefix : String) : (sessionKey keyPrefix).Injective := by
  intro first second same
  rw [sessionKey, sessionKey] at same
  exact String.append_right_inj _ |>.mp same

theorem sessionKey_scanned (keyPrefix : KeyPrefix) (sid : String) :
    Glob.matchesPattern (sessionPrefix keyPrefix.text ++ "*").toList
      (sessionKey keyPrefix.text sid).toList = true := by
  rw [RedisKeys.sessionScan_iff]
  exact ⟨sid.toList, by simp [sessionKey, sessionPrefix]⟩

theorem sessionKey_of_scanned {keyPrefix : KeyPrefix} {key : String}
    (scanned : Glob.matchesPattern (sessionPrefix keyPrefix.text ++ "*").toList key.toList = true) :
    sessionKey keyPrefix.text (sessionIdOfKey keyPrefix.text key) = key := by
  obtain ⟨rest, isKey⟩ := (RedisKeys.sessionScan_iff keyPrefix key.toList).mp scanned
  have isPrefix : key.toList = (sessionPrefix keyPrefix.text).toList ++ rest := by
    rw [isKey]
    simp [sessionPrefix]
  apply String.toList_injective
  rw [sessionKey, sessionIdOfKey, isPrefix, List.drop_left, String.toList_append,
    String.toList_ofList]

theorem sessionKey_notIndex (keyPrefix : String) (sid : SessionId) :
    (userSessionsPrefix keyPrefix).toList.isPrefixOf (sessionKey keyPrefix sid.text).toList =
      false := by
  rw [Bool.eq_false_iff]
  intro isIndex
  obtain ⟨rest, isKey⟩ := List.isPrefixOf_iff_prefix.mp isIndex
  have parts : (sessionPrefix keyPrefix).toList ++ ("user-sessions:".toList ++ rest) =
      (sessionPrefix keyPrefix).toList ++ sid.text.toList := by
    rw [← String.toList_append (t := sid.text), ← sessionKey, ← isKey,
      RedisKeys.userSessionsPrefix_toList]
    simp [sessionPrefix]
  have isId := List.append_cancel_left parts
  apply sid.noColon
  rw [← isId]
  simp

theorem sessionKey_ne_userSessions (keyPrefix accountId tenantId : String) (sid : SessionId) :
    sessionKey keyPrefix sid.text ≠ redisUserSessionsKey keyPrefix accountId tenantId := by
  intro same
  have isIndex := RedisKeys.userSessionsKey_isIndex keyPrefix accountId tenantId
  rw [← same, ← List.isPrefixOf_iff_prefix, sessionKey_notIndex keyPrefix sid] at isIndex
  cases isIndex

theorem entry_live (now : Nat) (stored : StoredSession Profile) :
    stored.entry.live now = stored.isLive now := by
  rw [Bool.eq_iff_iff, Keyspace.Entry.live_iff, StoredSession.isLive, decide_eq_true_iff]
  exact WithTop.coe_le_coe

theorem find_of_distinct {content : List (StoredSession Profile)}
    (distinct : (content.map StoredSession.sid).Nodup) (keyPrefix : String) (sid : SessionId)
    (stored : StoredSession Profile) :
    content.find? (fun other => sessionKey keyPrefix other.sid.text == sessionKey keyPrefix sid.text)
      = some stored ↔ stored ∈ content ∧ stored.sid = sid := by
  have sameId : ∀ other : StoredSession Profile,
      (sessionKey keyPrefix other.sid.text == sessionKey keyPrefix sid.text) = true ↔
        other.sid = sid := by
    intro other
    rw [beq_iff_eq, (sessionKey_injective keyPrefix).eq_iff]
    exact ⟨SessionId.ext, congrArg SessionId.text⟩
  constructor
  · intro found
    have passes := List.find?_some found
    exact ⟨List.mem_of_find?_eq_some found, (sameId stored).mp passes⟩
  · rintro ⟨member, isId⟩
    cases found : content.find? _ with
    | none =>
      exact absurd ((sameId stored).mpr isId) (List.find?_eq_none.mp found stored member)
    | some other =>
      have passes := List.find?_some found
      have isOther := (sameId other).mp passes
      rw [List.inj_on_of_nodup_map distinct (List.mem_of_find?_eq_some found) member
        (isOther.trans isId.symm)]

def Replicas.of (keyPrefix : KeyPrefix) (now : Nat) (content : List (StoredSession Profile))
    (distinct : (content.map StoredSession.sid).Nodup) : Replicas keyPrefix Profile where
  collection := content
  rows := content.map StoredSession.row
  space :=
    { now
      entries := fun key => (content.find? fun stored =>
        sessionKey keyPrefix.text stored.sid.text == key).map StoredSession.entry }
  content := content
  distinct := distinct
  documents := .refl _
  partitioned := .refl _
  entries := by
    intro sid entry
    simp only [Keyspace.lookup, Option.filter_eq_some_iff, Option.map_eq_some_iff,
      find_of_distinct distinct]
    constructor
    · rintro ⟨⟨stored, ⟨member, isId⟩, rfl⟩, live⟩
      exact ⟨stored, member, isId, entry_live now stored ▸ live, rfl⟩
    · rintro ⟨stored, member, isId, live, rfl⟩
      exact ⟨⟨stored, ⟨member, isId⟩, rfl⟩, (entry_live now stored).trans live⟩
  onlySessions := by
    intro key payload expiresAt found
    simp only [Keyspace.lookup, Option.filter_eq_some_iff, Option.map_eq_some_iff] at found
    obtain ⟨⟨stored, isStored, _⟩, _⟩ := found
    have passes := List.find?_some isStored
    exact ⟨stored.sid, (beq_iff_eq.mp passes).symm⟩

def SessionScan.of (keyPrefix : KeyPrefix) (now : Nat) (content : List (StoredSession Profile))
    (distinct : (content.map StoredSession.sid).Nodup) :
    SessionScan keyPrefix (Replicas.of keyPrefix now content distinct).space where
  keys := content.map fun stored => sessionKey keyPrefix.text stored.sid.text
  complete := by
    intro key entry found _
    simp only [Replicas.of, Keyspace.lookup, Option.filter_eq_some_iff,
      Option.map_eq_some_iff] at found
    obtain ⟨⟨stored, isStored, _⟩, _⟩ := found
    have passes := List.find?_some isStored
    exact List.mem_map.mpr ⟨stored, List.mem_of_find?_eq_some isStored, beq_iff_eq.mp passes⟩
  sound := by
    intro key member
    obtain ⟨stored, _, rfl⟩ := List.mem_map.mp member
    exact sessionKey_scanned keyPrefix stored.sid.text

end Stores

end ParakoId.StoredSessions
