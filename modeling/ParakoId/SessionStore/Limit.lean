import Mathlib.Data.String.Basic
import Mathlib.Data.Sum.Order
import ParakoId.Library.Ranking
import ParakoId.SessionStore.Queries

/-! The limit on the sessions of an account. -/

namespace ParakoId.StoredSessions

open Ranking (ranked later number)
open RedisKeys (KeyPrefix redisUserSessionsKey)
open SessionAccounts (isNonEmptyString)
open SessionStore (tenantIdFromSessionId)

/-! Authentication times. A text is read as a date; how is a parameter. -/

def normalizeSessionAuthTime (dateTime : String → Option Int) : Option AuthTime → Int
  | some (.number time) => time
  | some (.text content) => if isNonEmptyString content then (dateTime content).getD 0 else 0
  | none => 0

def BsonKey : Type := WithBot (Int ⊕ₗ String)

instance : LinearOrder BsonKey := inferInstanceAs (LinearOrder (WithBot (Int ⊕ₗ String)))

def bsonKey : Option AuthTime → BsonKey
  | none => (⊥ : WithBot (Int ⊕ₗ String))
  | some (.number time) => WithBot.some (toLex (.inl time))
  | some (.text content) => WithBot.some (toLex (.inr content))

structure Candidate (Time : Type) where
  sid : String
  authTime : Time
  deriving DecidableEq

structure Login where
  tenantId : String
  account : Username
  currentSessionId : Option String

def isOther (currentSessionId : Option String) (sid : String) : Bool :=
  currentSessionId ≠ some sid

section Candidates

variable {Profile Time : Type}

def candidate (order : Option AuthTime → Time) (sid : String)
    (payload : Option (PersistedSession Profile)) : Candidate Time where
  sid := sid
  authTime := order ((decodePersistedSession payload).bind SessionData.authTime)

def mongoSessions (login : Login) (collection : List (StoredSession Profile)) :
    List (Candidate BsonKey) :=
  (collection.filter fun stored =>
    mongoQuery login.tenantId login.account.text stored.payload &&
      isOther (login.currentSessionId.filter (· ≠ "")) stored.sid.text).map fun stored =>
    candidate bsonKey stored.sid.text stored.payload

def redisSessions (dateTime : String → Option Int) (keyPrefix : String) (login : Login)
    (sessionIds : List String) (space : Keyspace String (RedisValue Profile)) :
    List (Candidate Int) :=
  (sessionIds.filter fun sid =>
    isOther login.currentSessionId sid &&
      isOwned login.tenantId login.account.text space (sessionKey keyPrefix sid)).map fun sid =>
    candidate (normalizeSessionAuthTime dateTime) sid (get space (sessionKey keyPrefix sid)).join

def prismaSessions (dateTime : String → Option Int) (login : Login)
    (rows : List (SessionRow Profile)) : List (Candidate Int) :=
  ((findMany login.tenantId rows).filter fun row =>
    isOther login.currentSessionId row.stored.sid.text &&
      isSessionOf login.tenantId login.account.text row.stored.payload).map fun row =>
    candidate (normalizeSessionAuthTime dateTime) row.stored.sid.text row.stored.payload

def sessionsToRemove [LinearOrder Time] (maxConcurrentSessions : Nat)
    (sessions : List (Candidate Time)) : List String :=
  if sessions.length < maxConcurrentSessions then []
  else ((ranked Candidate.authTime sessions).take
    (sessions.length - maxConcurrentSessions + 1)).map Candidate.sid

def removeNext {State : Type} (remove : String → State → Nat × State) (done : Nat × State)
    (sid : String) : Nat × State :=
  let removed := remove sid done.2
  (if 0 < removed.1 then done.1 + 1 else done.1, removed.2)

def removeAll {State : Type} (remove : String → State → Nat × State) (sids : List String)
    (state : State) : Nat × State :=
  sids.foldl (removeNext remove) (0, state)

end Candidates

section BackEnds

variable {Profile : Type}

/-- No two documents have one `_id`. -/
def deleteOne (tenantId sid : String) (collection : List (StoredSession Profile)) :
    Nat × List (StoredSession Profile) :=
  let isFound : StoredSession Profile → Bool := fun stored =>
    stored.sid.text == sid &&
      (decodePersistedSession stored.payload).any (mongoSessionTenantFilter tenantId)
  (collection.countP isFound, collection.filter fun stored => !isFound stored)

def enforceSessionLimitMongo (maxConcurrentSessions : Nat) (login : Login)
    (collection : List (StoredSession Profile)) : Nat × List (StoredSession Profile) :=
  removeAll (deleteOne login.tenantId)
    (sessionsToRemove maxConcurrentSessions (mongoSessions login collection)) collection

def foundInRedis (keyPrefix : String) (login : Login) (scanned : List String)
    (space : Keyspace String (RedisValue Profile)) :
    List String × Keyspace String (RedisValue Profile) :=
  findRedisSessionIdsForAccount keyPrefix login.tenantId login.account.text
    (login.currentSessionId.filter (· ≠ "")).toList scanned space

def deleteSession (keyPrefix key sid : String) (space : Keyspace String (RedisValue Profile)) :
    Nat × Keyspace String (RedisValue Profile) :=
  (if (space.lookup (sessionKey keyPrefix sid)).isSome then 1 else 0,
    srem (space.del (sessionKey keyPrefix sid)) key [sid])

def enforceSessionLimitRedis (dateTime : String → Option Int) (keyPrefix : String)
    (maxConcurrentSessions : Nat) (login : Login) (scanned : List String)
    (space : Keyspace String (RedisValue Profile)) : Nat × Keyspace String (RedisValue Profile) :=
  let key := redisUserSessionsKey keyPrefix login.account.text login.tenantId
  let found := foundInRedis keyPrefix login scanned space
  let staleIds := found.1.filter fun sid => isOther login.currentSessionId sid &&
    ((get found.2 (sessionKey keyPrefix sid)).bind decodePersistedSession).isNone
  let cleaned := if staleIds = [] then found.2 else srem found.2 key staleIds
  removeAll (deleteSession keyPrefix key)
    (sessionsToRemove maxConcurrentSessions
      (redisSessions dateTime keyPrefix login found.1 found.2)) cleaned

def enforceSessionLimitPrisma (dateTime : String → Option Int) (maxConcurrentSessions : Nat)
    (login : Login) (rows : List (SessionRow Profile)) : Nat × List (SessionRow Profile) :=
  removeAll (fun sid => deleteMany login.tenantId [sid])
    (sessionsToRemove maxConcurrentSessions (prismaSessions dateTime login rows)) rows

def enforceSessionLimit (dateTime : String → Option Int) (keyPrefix : String)
    (storeType : SessionStoreType) (maxConcurrentSessions : Nat) (login : Login)
    (scanned : List String) (stores : Stores Profile) : Nat × Stores Profile :=
  if isNonEmptyString login.account.text = false ∨ maxConcurrentSessions = 0 then (0, stores)
  else match storeType with
    | .mongodb =>
      let enforced := enforceSessionLimitMongo maxConcurrentSessions login stores.collection
      (enforced.1, { stores with collection := enforced.2 })
    | .redis =>
      let enforced := enforceSessionLimitRedis dateTime keyPrefix maxConcurrentSessions login
        scanned stores.space
      (enforced.1, { stores with space := enforced.2 })
    | .sqlite | .postgresql =>
      let enforced := enforceSessionLimitPrisma dateTime maxConcurrentSessions login stores.rows
      (enforced.1, { stores with rows := enforced.2 })

end BackEnds

section Selection

variable {Profile Time : Type}

def candidateOf (order : Option AuthTime → Time) (stored : StoredSession Profile) :
    Candidate Time :=
  candidate order stored.sid.text stored.payload

structure Represents (order : Option AuthTime → Time) (passes : StoredSession Profile → Bool)
    (content : List (StoredSession Profile)) (sessions : List (Candidate Time)) : Prop where
  distinct : (sessions.map Candidate.sid).Nodup
  mem_iff : ∀ found, found ∈ sessions ↔
    ∃ stored ∈ content, passes stored = true ∧ candidateOf order stored = found

theorem text_distinct {content : List (StoredSession Profile)}
    (distinct : (content.map StoredSession.sid).Nodup) :
    (content.map fun stored => stored.sid.text).Nodup := by
  have texts := distinct.map fun _ _ => SessionId.ext
  rwa [List.map_map] at texts

theorem represents_filter {content inOrder : List (StoredSession Profile)}
    (distinct : (content.map StoredSession.sid).Nodup) (perm : inOrder.Perm content)
    (order : Option AuthTime → Time) (passes : StoredSession Profile → Bool) :
    Represents order passes content ((inOrder.filter passes).map (candidateOf order)) where
  distinct := by
    rw [List.map_map]
    have texts := (perm.map fun stored => stored.sid.text).nodup_iff.mpr (text_distinct distinct)
    exact texts.sublist (List.filter_sublist.map _)
  mem_iff := by
    intro found
    simp only [List.mem_map, List.mem_filter, perm.mem_iff, and_assoc]

variable [LinearOrder Time] {order : Option AuthTime → Time}
  {passes : StoredSession Profile → Bool} {content : List (StoredSession Profile)}
  {sessions : List (Candidate Time)}

theorem sessionsToRemove_eq (places : Nat) (sessions : List (Candidate Time)) :
    sessionsToRemove (places + 1) sessions =
      ((ranked Candidate.authTime sessions).take (sessions.length - places)).map
        Candidate.sid := by
  rw [sessionsToRemove]
  split
  · have none : sessions.length - places = 0 := by omega
    rw [none, List.take_zero, List.map_nil]
  · have same : sessions.length - (places + 1) + 1 = sessions.length - places := by omega
    rw [same]

theorem Represents.stored_of_removed (represents : Represents order passes content sessions)
    {places : Nat} {sid : String} (removed : sid ∈ sessionsToRemove (places + 1) sessions) :
    ∃ stored ∈ content, passes stored = true ∧ stored.sid.text = sid := by
  rw [sessionsToRemove_eq] at removed
  obtain ⟨found, taken, rfl⟩ := List.mem_map.mp removed
  have isFound := (Ranking.ranked_perm _ sessions).mem_iff.mp (List.mem_of_mem_take taken)
  obtain ⟨stored, member, passed, rfl⟩ := (represents.mem_iff found).mp isFound
  exact ⟨stored, member, passed, rfl⟩

theorem Represents.mem_sessionsToRemove (represents : Represents order passes content sessions)
    (distinct : (content.map StoredSession.sid).Nodup) (places : Nat)
    {stored : StoredSession Profile} (member : stored ∈ content) :
    stored.sid.text ∈ sessionsToRemove (places + 1) sessions ↔
      passes stored = true ∧
        places ≤ later Candidate.authTime sessions (candidateOf order stored) := by
  have isRemoved : candidateOf order stored ∈ sessions →
      (stored.sid.text ∈ sessionsToRemove (places + 1) sessions ↔
        places ≤ later Candidate.authTime sessions (candidateOf order stored)) := by
    intro isCandidate
    rw [sessionsToRemove_eq, ← Ranking.mem_take_ranked Candidate.authTime
      (List.Nodup.of_map _ represents.distinct) isCandidate, List.mem_map]
    constructor
    · rintro ⟨other, taken, sameId⟩
      have isOther := (Ranking.ranked_perm _ sessions).mem_iff.mp (List.mem_of_mem_take taken)
      rwa [List.inj_on_of_nodup_map represents.distinct isOther isCandidate sameId] at taken
    · intro taken
      exact ⟨_, taken, rfl⟩
  constructor
  · intro removed
    obtain ⟨original, inContent, passed, sameId⟩ := represents.stored_of_removed removed
    rw [List.inj_on_of_nodup_map (text_distinct distinct) inContent member sameId] at passed
    have isCandidate := (represents.mem_iff _).mpr ⟨stored, member, passed, rfl⟩
    exact ⟨passed, (isRemoved isCandidate).mp removed⟩
  · rintro ⟨passed, enough⟩
    have isCandidate := (represents.mem_iff _).mpr ⟨stored, member, passed, rfl⟩
    exact (isRemoved isCandidate).mpr enough

omit [LinearOrder Time] in
theorem Represents.number_eq (represents : Represents order passes content sessions)
    (distinct : (content.map StoredSession.sid).Nodup) :
    number (fun stored => passes stored = true) content = sessions.length := by
  have isLength : (sessions.map Candidate.sid).length = sessions.length := List.length_map _
  rw [← isLength]
  apply Ranking.number_eq_length (text_distinct distinct) represents.distinct
  intro sid
  simp only [List.mem_map, represents.mem_iff]
  constructor
  · rintro ⟨_, ⟨stored, member, passed, rfl⟩, rfl⟩
    exact ⟨stored, member, passed, rfl⟩
  · rintro ⟨stored, member, passed, rfl⟩
    exact ⟨_, ⟨stored, member, passed, rfl⟩, rfl⟩

theorem Represents.none_removed (represents : Represents order passes content sessions)
    (distinct : (content.map StoredSession.sid).Nodup) {places : Nat}
    (few : number (fun stored => passes stored = true) content ≤ places) :
    sessionsToRemove (places + 1) sessions = [] := by
  rw [represents.number_eq distinct] at few
  rw [sessionsToRemove_eq, Nat.sub_eq_zero_of_le few, List.take_zero, List.map_nil]

theorem Represents.number_removed (represents : Represents order passes content sessions)
    (distinct : (content.map StoredSession.sid).Nodup) (places : Nat) :
    number (fun stored => stored.sid.text ∈ sessionsToRemove (places + 1) sessions) content =
      number (fun stored => passes stored = true) content - places := by
  have isLength : (sessionsToRemove (places + 1) sessions).length = sessions.length - places := by
    rw [sessionsToRemove_eq, List.length_map, List.length_take,
      (Ranking.ranked_perm _ sessions).length_eq]
    omega
  have removedOnce : (sessionsToRemove (places + 1) sessions).Nodup := by
    rw [sessionsToRemove_eq]
    have rankedOnce := ((Ranking.ranked_perm Candidate.authTime sessions).map
      Candidate.sid).nodup_iff.mpr represents.distinct
    exact rankedOnce.sublist ((List.take_sublist _ _).map _)
  rw [represents.number_eq distinct, ← isLength]
  apply Ranking.number_eq_length (text_distinct distinct) removedOnce
  intro sid
  constructor
  · intro removed
    obtain ⟨stored, member, _, rfl⟩ := represents.stored_of_removed removed
    exact ⟨stored, member, removed, rfl⟩
  · rintro ⟨stored, _, removed, rfl⟩
    exact removed

end Selection

section Removal

variable {State : Type} {remove : String → State → Nat × State}

theorem removeAll_iff (holds : State → Prop) {hits : String → Prop}
    (step : ∀ sid state, holds (remove sid state).2 ↔ holds state ∧ ¬hits sid)
    (sids : List String) (state : State) :
    holds (removeAll remove sids state).2 ↔ holds state ∧ ∀ sid ∈ sids, ¬hits sid := by
  have fold : ∀ done : Nat × State, holds (sids.foldl (removeNext remove) done).2 ↔
      holds done.2 ∧ ∀ sid ∈ sids, ¬hits sid := by
    induction sids with
    | nil => simp
    | cons sid rest ih =>
      intro done
      rw [List.foldl_cons, ih, removeNext, step, List.forall_mem_cons, and_assoc]
  exact fold (0, state)

end Removal

section Stores

variable {Profile : Type}

def isCounted (login : Login) (stored : StoredSession Profile) : Bool :=
  isSessionOf login.tenantId login.account.text stored.payload &&
    isOther login.currentSessionId stored.sid.text

def isCandidate (storeType : SessionStoreType) (login : Login) (now : Nat)
    (stored : StoredSession Profile) : Bool :=
  isReached storeType login.tenantId stored && isCounted login stored &&
    (storeType ≠ .redis || stored.isLive now)

variable {stored : StoredSession Profile} {keyPrefix : KeyPrefix}

theorem isCounted_iff {login : Login} :
    isCounted login stored = true ↔
      isSessionOf login.tenantId login.account.text stored.payload = true ∧
        isOther login.currentSessionId stored.sid.text = true := by
  rw [isCounted, Bool.and_eq_true]

theorem isCandidate_iff {storeType : SessionStoreType} {login : Login} {now : Nat} :
    isCandidate storeType login now stored = true ↔
      isReached storeType login.tenantId stored = true ∧ isCounted login stored = true ∧
        (storeType = .redis → stored.isLive now = true) := by
  rw [isCandidate, Bool.and_eq_true, Bool.and_eq_true, Bool.or_eq_true, decide_eq_true_iff,
    ← Decidable.imp_iff_not_or, and_assoc]

theorem isOther_filter (currentSessionId : Option String) (sid : SessionId) :
    isOther (currentSessionId.filter (· ≠ "")) sid.text = isOther currentSessionId sid.text := by
  cases currentSessionId with
  | none => rfl
  | some current =>
    by_cases isEmpty : current = ""
    · have differs := sid.nonempty.symm
      simp [isOther, Option.filter, isEmpty, differs]
    · simp [isOther, Option.filter, isEmpty]

section

variable (replicas : Replicas keyPrefix Profile)
include replicas

theorem represents_mongo (login : Login) (now : Nat) :
    Represents bsonKey (isCandidate .mongodb login now) replicas.content
      (mongoSessions login replicas.collection) := by
  have same : mongoSessions login replicas.collection =
      (replicas.collection.filter (isCandidate .mongodb login now)).map
        (candidateOf bsonKey) := by
    rw [mongoSessions]
    congr 1
    apply List.filter_congr
    intro stored _
    rw [mongoQuery_eq, isOther_filter, isCandidate, isCounted]
    simp [isReached]
  rw [same]
  exact represents_filter replicas.distinct replicas.documents bsonKey _

theorem represents_prisma (dateTime : String → Option Int) (login : Login)
    {storeType : SessionStoreType} (sql : storeType = .sqlite ∨ storeType = .postgresql)
    (now : Nat) :
    Represents (normalizeSessionAuthTime dateTime) (isCandidate storeType login now)
      replicas.content (prismaSessions dateTime login replicas.rows) := by
  have same : prismaSessions dateTime login replicas.rows =
      ((replicas.rows.map SessionRow.stored).filter (isCandidate storeType login now)).map
        (candidateOf (normalizeSessionAuthTime dateTime)) := by
    rw [prismaSessions, findMany, List.filter_filter, List.filter_map, List.map_map]
    congr 1
    apply List.filter_congr
    intro row member
    rw [Function.comp_apply, isCandidate, isCounted, replicas.row_partition member]
    rcases sql with rfl | rfl <;> simp [isReached, Bool.and_comm]
  have perm : (replicas.rows.map SessionRow.stored).Perm replicas.content := by
    have rows := replicas.partitioned.map SessionRow.stored
    rw [List.map_map] at rows
    exact rows.trans (.of_eq (List.map_id _))
  rw [same]
  exact represents_filter replicas.distinct perm _ _

theorem get_of_live (member : stored ∈ replicas.content)
    (live : stored.isLive replicas.space.now = true) :
    get replicas.space (sessionKey keyPrefix.text stored.sid.text) = some stored.payload := by
  have found := (replicas.entries stored.sid stored.entry).mpr ⟨stored, member, rfl, live, rfl⟩
  rw [get, found]
  rfl

theorem isOwned_iff (tenantId userId key : String) :
    isOwned tenantId userId replicas.space key = true ↔
      ∃ stored ∈ replicas.content, stored.isLive replicas.space.now = true ∧
        isSessionOf tenantId userId stored.payload = true ∧
          sessionKey keyPrefix.text stored.sid.text = key := by
  constructor
  · intro owned
    rw [isOwned, get] at owned
    split at owned
    · rename_i payload expiresAt found
      obtain ⟨sid, rfl⟩ := replicas.onlySessions _ _ _ found
      obtain ⟨stored, member, rfl, live, sameEntry⟩ := (replicas.entries sid _).mp found
      injection sameEntry with sameValue _
      injection sameValue with samePayload
      rw [Option.any_some, ← samePayload] at owned
      exact ⟨stored, member, live, owned, rfl⟩
    · cases owned
  · rintro ⟨stored, member, live, isSession, rfl⟩
    rw [isOwned, get_of_live replicas member live]
    exact isSession

theorem mem_foundInRedis (scan : SessionScan keyPrefix replicas.space) (login : Login)
    (sid : String) :
    sid ∈ (foundInRedis keyPrefix.text login scan.keys replicas.space).1 ↔
      ∃ stored ∈ replicas.content, stored.isLive replicas.space.now = true ∧
        isSessionOf login.tenantId login.account.text stored.payload = true ∧
          stored.sid.text = sid := by
  constructor
  · intro found
    simp only [foundInRedis, findRedisSessionIdsForAccount, List.mem_eraseDups, List.mem_map,
      List.mem_filter, Bool.and_eq_true] at found
    obtain ⟨key, ⟨scanned, _, owned⟩, rfl⟩ := found
    obtain ⟨stored, member, live, isSession, isKey⟩ := (isOwned_iff replicas _ _ key).mp owned
    refine ⟨stored, member, live, isSession, sessionKey_injective keyPrefix.text ?_⟩
    rw [isKey, sessionKey_of_scanned (scan.sound key scanned)]
  · rintro ⟨stored, member, live, isSession, rfl⟩
    exact (mem_findRedisSessionIds scan login.tenantId login.account.text _ stored.sid).mpr
      ((isOwned_iff replicas _ _ _).mpr ⟨stored, member, live, isSession, rfl⟩)

end

theorem get_foundInRedis (keyPrefix : KeyPrefix) (login : Login) (scanned : List String)
    (space : Keyspace String (RedisValue Profile)) (sid : SessionId) :
    get (foundInRedis keyPrefix.text login scanned space).2 (sessionKey keyPrefix.text sid.text) =
      get space (sessionKey keyPrefix.text sid.text) := by
  rw [get, get, foundInRedis, lookup_findRedisSessionIds]

theorem represents_redis (replicas : Replicas keyPrefix Profile) (dateTime : String → Option Int)
    (login : Login) (scan : SessionScan keyPrefix replicas.space) :
    let found := foundInRedis keyPrefix.text login scan.keys replicas.space
    Represents (normalizeSessionAuthTime dateTime)
      (isCandidate .redis login replicas.space.now) replicas.content
      (redisSessions dateTime keyPrefix.text login found.1 found.2) := by
  intro found
  have isFound := mem_foundInRedis replicas scan login
  have gets := get_foundInRedis keyPrefix login scan.keys replicas.space
  refine ⟨?_, ?_⟩
  · have ids : (redisSessions dateTime keyPrefix.text login found.1 found.2).map Candidate.sid =
        found.1.filter fun sid => isOther login.currentSessionId sid &&
          isOwned login.tenantId login.account.text found.2 (sessionKey keyPrefix.text sid) := by
      rw [redisSessions, List.map_map]
      exact List.map_id _
    rw [ids]
    exact (eraseDups_distinct _).filter _
  · intro candidate
    simp only [redisSessions, List.mem_map, List.mem_filter, Bool.and_eq_true]
    constructor
    · rintro ⟨sid, ⟨isId, other, _⟩, rfl⟩
      obtain ⟨stored, member, live, isSession, rfl⟩ := (isFound sid).mp isId
      refine ⟨stored, member, ?_, ?_⟩
      · exact isCandidate_iff.mpr ⟨rfl, isCounted_iff.mpr ⟨isSession, other⟩, fun _ => live⟩
      · rw [gets, get_of_live replicas member live]
        rfl
    · rintro ⟨stored, member, passed, rfl⟩
      obtain ⟨_, counted, live⟩ := isCandidate_iff.mp passed
      obtain ⟨isSession, other⟩ := isCounted_iff.mp counted
      have found := get_of_live replicas member (live rfl)
      refine ⟨stored.sid.text, ⟨?_, other, ?_⟩, ?_⟩
      · exact (isFound _).mpr ⟨stored, member, live rfl, isSession, rfl⟩
      · rw [isOwned, gets, found]
        exact isSession
      · rw [gets, found]
        rfl

end Stores

end ParakoId.StoredSessions
