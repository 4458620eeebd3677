import ParakoId.SessionStore.Limit

/-!
The room that is made for a login. Each back end keeps the sessions that come last in its own
order, and counts all that it finds.
-/

namespace ParakoId.StoredSessions

open Ranking (later number)
open RedisKeys (KeyPrefix redisUserSessionsKey)

section BackEnds

variable {Profile : Type}

def sidsToRemove (dateTime : String → Option Int) (keyPrefix : String)
    (storeType : SessionStoreType) (maxConcurrentSessions : Nat) (login : Login)
    (scanned : List String) (stores : Stores Profile) : List String :=
  match storeType with
  | .mongodb => sessionsToRemove maxConcurrentSessions (mongoSessions login stores.collection)
  | .redis =>
    let found := foundInRedis keyPrefix login scanned stores.space
    sessionsToRemove maxConcurrentSessions
      (redisSessions dateTime keyPrefix login found.1 found.2)
  | .sqlite | .postgresql =>
    sessionsToRemove maxConcurrentSessions (prismaSessions dateTime login stores.rows)

def laterIn (dateTime : String → Option Int) (keyPrefix : String) (storeType : SessionStoreType)
    (login : Login) (scanned : List String) (stores : Stores Profile)
    (stored : StoredSession Profile) : Nat :=
  match storeType with
  | .mongodb =>
    later Candidate.authTime (mongoSessions login stores.collection) (candidateOf bsonKey stored)
  | .redis =>
    let found := foundInRedis keyPrefix login scanned stores.space
    later Candidate.authTime (redisSessions dateTime keyPrefix login found.1 found.2)
      (candidateOf (normalizeSessionAuthTime dateTime) stored)
  | .sqlite | .postgresql =>
    later Candidate.authTime (prismaSessions dateTime login stores.rows)
      (candidateOf (normalizeSessionAuthTime dateTime) stored)

variable {keyPrefix : KeyPrefix} (replicas : Replicas keyPrefix Profile)
  (scan : SessionScan keyPrefix replicas.space) (dateTime : String → Option Int) (login : Login)
  (places : Nat)

variable {stored : StoredSession Profile}

theorem mem_sidsToRemove (storeType : SessionStoreType) (member : stored ∈ replicas.content) :
    stored.sid.text ∈ sidsToRemove dateTime keyPrefix.text storeType (places + 1) login scan.keys
        replicas.toStores ↔
      isCandidate storeType login replicas.space.now stored = true ∧
        places ≤ laterIn dateTime keyPrefix.text storeType login scan.keys replicas.toStores
          stored := by
  cases storeType with
  | mongodb =>
    exact (represents_mongo replicas login _).mem_sessionsToRemove replicas.distinct places member
  | redis =>
    exact (represents_redis replicas dateTime login scan).mem_sessionsToRemove replicas.distinct
      places member
  | sqlite =>
    exact (represents_prisma replicas dateTime login (.inl rfl) _).mem_sessionsToRemove
      replicas.distinct places member
  | postgresql =>
    exact (represents_prisma replicas dateTime login (.inr rfl) _).mem_sessionsToRemove
      replicas.distinct places member

theorem mem_enforcedMongo (collection : List (StoredSession Profile))
    (stored : StoredSession Profile) :
    stored ∈ (enforceSessionLimitMongo (places + 1) login collection).2 ↔
      stored ∈ collection ∧
        ∀ sid ∈ sessionsToRemove (places + 1) (mongoSessions login collection),
          ¬(stored.sid.text = sid ∧ (decodePersistedSession stored.payload).any
            (mongoSessionTenantFilter login.tenantId) = true) := by
  apply removeAll_iff (fun collection => stored ∈ collection)
  intro sid collection
  simp only [deleteOne, List.mem_filter, Bool.not_eq_true', ← Bool.not_eq_true, Bool.and_eq_true,
    beq_iff_eq]

theorem mem_enforcedRows (rows : List (SessionRow Profile)) (row : SessionRow Profile) :
    row ∈ (enforceSessionLimitPrisma dateTime (places + 1) login rows).2 ↔
      row ∈ rows ∧ ∀ sid ∈ sessionsToRemove (places + 1) (prismaSessions dateTime login rows),
        ¬(row.tenant_id = login.tenantId ∧ row.stored.sid.text = sid) := by
  apply removeAll_iff (fun rows => row ∈ rows)
  intro sid rows
  simp only [deleteMany, List.mem_filter, Bool.not_eq_true', ← Bool.not_eq_true, Bool.and_eq_true,
    beq_iff_eq, List.contains_iff_mem, List.mem_singleton]

theorem lookup_enforcedRedis (scanned : List String)
    (space : Keyspace String (RedisValue Profile)) (sid : SessionId)
    (entry : Keyspace.Entry (RedisValue Profile)) :
    let found := foundInRedis keyPrefix.text login scanned space
    (enforceSessionLimitRedis dateTime keyPrefix.text (places + 1) login scanned space).2.lookup
        (sessionKey keyPrefix.text sid.text) = some entry ↔
      space.lookup (sessionKey keyPrefix.text sid.text) = some entry ∧
        ∀ removed ∈ sessionsToRemove (places + 1)
          (redisSessions dateTime keyPrefix.text login found.1 found.2), ¬sid.text = removed := by
  intro found
  have notIndex := sessionKey_ne_userSessions keyPrefix.text login.account.text login.tenantId sid
  have isFound : found.2.lookup (sessionKey keyPrefix.text sid.text) =
      space.lookup (sessionKey keyPrefix.text sid.text) := lookup_findRedisSessionIds ..
  have isCleaned : ∀ staleIds : List String,
      (if staleIds = [] then found.2 else
        srem found.2 (redisUserSessionsKey keyPrefix.text login.account.text login.tenantId)
          staleIds).lookup (sessionKey keyPrefix.text sid.text) =
        space.lookup (sessionKey keyPrefix.text sid.text) := by
    intro staleIds
    split
    · exact isFound
    · rw [lookup_srem _ notIndex, isFound]
  rw [← isCleaned (found.1.filter _)]
  apply removeAll_iff fun space : Keyspace String (RedisValue Profile) =>
    space.lookup (sessionKey keyPrefix.text sid.text) = some entry
  intro removed space
  have sameKey : sessionKey keyPrefix.text sid.text = sessionKey keyPrefix.text removed ↔
      sid.text = removed := (sessionKey_injective keyPrefix.text).eq_iff
  simp only [deleteSession]
  rw [lookup_srem _ notIndex, Keyspace.lookup_del]
  by_cases same : sid.text = removed
  · simp [same]
  · simp [sameKey, same]

theorem passesFilter_of_session {tenantId userId : String}
    (isSession : isSessionOf tenantId userId stored.payload = true) :
    (decodePersistedSession stored.payload).any (mongoSessionTenantFilter tenantId) = true := by
  rw [isSessionOf, Option.any_eq_true] at isSession
  obtain ⟨data, decoded, passes⟩ := isSession
  rw [decoded, Option.any_some, mongoSessionTenantFilter_eq]
  exact (Bool.and_eq_true _ _ ▸ passes).1

theorem holds_enforcedRows
    (inPartition : stored.sid.text ∈
        sessionsToRemove (places + 1) (prismaSessions dateTime login replicas.rows) →
      SessionStore.tenantIdFromSessionId stored.sid.text = login.tenantId) :
    (∃ row ∈ (enforceSessionLimitPrisma dateTime (places + 1) login replicas.rows).2,
        row.stored = stored) ↔
      (∃ row ∈ replicas.rows, row.stored = stored) ∧
        stored.sid.text ∉
          sessionsToRemove (places + 1) (prismaSessions dateTime login replicas.rows) := by
  simp only [mem_enforcedRows]
  constructor
  · rintro ⟨row, ⟨member, kept⟩, rfl⟩
    refine ⟨⟨row, member, rfl⟩, fun removed => kept _ removed ⟨?_, rfl⟩⟩
    rw [replicas.row_partition member]
    exact inPartition removed
  · rintro ⟨⟨row, member, rfl⟩, kept⟩
    refine ⟨row, ⟨member, ?_⟩, rfl⟩
    rintro _ removed ⟨_, rfl⟩
    exact kept removed

theorem holds_enforced (storeType : SessionStoreType) (member : stored ∈ replicas.content) :
    (enforceSessionLimit dateTime keyPrefix.text storeType (places + 1) login scan.keys
        replicas.toStores).2.Holds keyPrefix.text storeType stored ↔
      replicas.Holds keyPrefix.text storeType stored ∧
        stored.sid.text ∉ sidsToRemove dateTime keyPrefix.text storeType (places + 1) login
          scan.keys replicas.toStores := by
  have isRemoved := mem_sidsToRemove replicas scan dateTime login places storeType member
  have proceeds : ¬(SessionAccounts.isNonEmptyString login.account.text = false ∨
      places + 1 = 0) := by
    rw [login.account.nonBlank]
    simp
  simp only [enforceSessionLimit, if_neg proceeds]
  cases storeType with
  | mongodb =>
    simp only [Stores.Holds, mem_enforcedMongo, sidsToRemove]
    refine and_congr_right fun _ => ⟨?_, ?_⟩
    · intro kept removed
      have isOne := (isCandidate_iff.mp (isRemoved.mp removed).1).2.1
      have isSession := (isCounted_iff.mp isOne).1
      exact kept _ removed ⟨rfl, passesFilter_of_session isSession⟩
    · rintro kept _ removed ⟨rfl, _⟩
      exact kept removed
  | redis =>
    simp only [Stores.Holds, sidsToRemove]
    refine (lookup_enforcedRedis dateTime login places scan.keys replicas.space stored.sid
      stored.entry).trans (and_congr_right fun _ => ⟨fun kept removed => kept _ removed rfl, ?_⟩)
    rintro kept _ removed rfl
    exact kept removed
  | sqlite | postgresql =>
    exact holds_enforcedRows replicas dateTime login places fun removed =>
      beq_iff_eq.mp (isCandidate_iff.mp (isRemoved.mp removed).1).1

def StoredSession.authenticationTime (dateTime : String → Option Int)
    (stored : StoredSession Profile) : Int :=
  normalizeSessionAuthTime dateTime
    (stored.payload.bind fun persisted => persisted.sessionData.authTime)

def IsOpen (login : Login) (now : Nat) (stored : StoredSession Profile) : Prop :=
  isCounted login stored = true ∧ stored.isLive now = true

/-- After the limit is enforced in any of the back ends, no more sessions of the account are open
than there are places, and none that were not in excess are gone; those that are gone are the
oldest ones of the account; and the back ends are left with the same sessions. -/
structure Limited (keyPrefix : String) (dateTime : String → Option Int) (login : Login)
    (places : Nat) (content : List (StoredSession Profile)) (before : Stores Profile)
    (after : SessionStoreType → Stores Profile) : Prop where
  room : ∀ storeType, number (fun stored => IsOpen login before.space.now stored ∧
    (after storeType).Holds keyPrefix storeType stored) content ≤ places
  needed : ∀ storeType, ∀ stored ∈ content, IsOpen login before.space.now stored →
    ¬(after storeType).Holds keyPrefix storeType stored →
      places + 1 ≤ number (IsOpen login before.space.now) content
  excess : ∀ storeType, number (fun stored => IsOpen login before.space.now stored ∧
      ¬(after storeType).Holds keyPrefix storeType stored) content =
    number (IsOpen login before.space.now) content - places
  oldest : ∀ storeType, ∀ gone ∈ content, ∀ kept ∈ content,
    IsOpen login before.space.now gone → IsOpen login before.space.now kept →
      ¬(after storeType).Holds keyPrefix storeType gone →
        (after storeType).Holds keyPrefix storeType kept →
          gone.authenticationTime dateTime ≤ kept.authenticationTime dateTime
  only : ∀ storeType, ∀ stored ∈ content, before.Holds keyPrefix storeType stored →
    ¬(after storeType).Holds keyPrefix storeType stored → isCounted login stored = true
  same : ∀ first second, ∀ stored ∈ content, IsOpen login before.space.now stored →
    ((after first).Holds keyPrefix first stored ↔ (after second).Holds keyPrefix second stored)

def limitedIn (keyPrefix : KeyPrefix) (stores : Stores Profile)
    (scan : SessionScan keyPrefix stores.space) (dateTime : String → Option Int) (login : Login)
    (places : Nat) (storeType : SessionStoreType) : Stores Profile :=
  (enforceSessionLimit dateTime keyPrefix.text storeType (places + 1) login scan.keys stores).2

theorem isCandidate_open {storeType : SessionStoreType} {now : Nat}
    (isOpen : IsOpen login now stored) :
    isCandidate storeType login now stored = true ↔
      isReached storeType login.tenantId stored = true := by
  rw [isCandidate_iff]
  exact ⟨fun isOne => isOne.1, fun reached => ⟨reached, isOpen.1, fun _ => isOpen.2⟩⟩

theorem gone_iff (storeType : SessionStoreType) (member : stored ∈ replicas.content)
    (isOpen : IsOpen login replicas.space.now stored) :
    ¬(limitedIn keyPrefix replicas.toStores scan dateTime login places storeType).Holds
        keyPrefix.text storeType stored ↔
      isReached storeType login.tenantId stored = true ∧
        places ≤ laterIn dateTime keyPrefix.text storeType login scan.keys replicas.toStores
          stored := by
  have present := (replicas.holds_iff storeType stored).mpr ⟨member, fun _ => isOpen.2⟩
  rw [limitedIn, holds_enforced replicas scan dateTime login places storeType member, not_and,
    not_not, mem_sidsToRemove replicas scan dateTime login places storeType member,
    isCandidate_open login isOpen]
  exact ⟨fun removed => removed present, fun removed _ => removed⟩

theorem excess_redis :
    number (fun stored => IsOpen login replicas.space.now stored ∧
        ¬(limitedIn keyPrefix replicas.toStores scan dateTime login places .redis).Holds
          keyPrefix.text .redis stored) replicas.content =
      number (IsOpen login replicas.space.now) replicas.content - places := by
  have isOne : ∀ stored : StoredSession Profile,
      isCandidate .redis login replicas.space.now stored = true ↔
        IsOpen login replicas.space.now stored := by
    intro stored
    rw [isCandidate_iff, IsOpen]
    exact ⟨fun all => ⟨all.2.1, all.2.2 rfl⟩, fun both => ⟨rfl, both.1, fun _ => both.2⟩⟩
  have removed := (represents_redis replicas dateTime login scan).number_removed
    replicas.distinct places
  rw [← Ranking.number_congr fun stored _ => isOne stored, ← removed]
  apply Ranking.number_congr
  intro stored member
  have isRemoved := mem_sidsToRemove replicas scan dateTime login places .redis member
  rw [isOne] at isRemoved
  refine ⟨?_, ?_⟩
  · rintro ⟨isOpen, isGone⟩
    exact isRemoved.mpr
      ⟨isOpen, ((gone_iff replicas scan dateTime login places .redis member isOpen).mp isGone).2⟩
  · intro removed
    obtain ⟨isOpen, enough⟩ := isRemoved.mp removed
    exact ⟨isOpen,
      (gone_iff replicas scan dateTime login places .redis member isOpen).mpr ⟨rfl, enough⟩⟩

theorem counted_of_gone (storeType : SessionStoreType) (member : stored ∈ replicas.content)
    (present : replicas.Holds keyPrefix.text storeType stored)
    (isGone : ¬(limitedIn keyPrefix replicas.toStores scan dateTime login places storeType).Holds
      keyPrefix.text storeType stored) : isCounted login stored = true := by
  rw [limitedIn, holds_enforced replicas scan dateTime login places storeType member, not_and,
    not_not, mem_sidsToRemove replicas scan dateTime login places storeType member] at isGone
  exact (isCandidate_iff.mp (isGone present).1).2.1

theorem goneFromRedis_iff (member : stored ∈ replicas.content)
    (isOpen : IsOpen login replicas.space.now stored) :
    ¬(limitedIn keyPrefix replicas.toStores scan dateTime login places .redis).Holds
        keyPrefix.text .redis stored ↔
      places ≤ laterIn dateTime keyPrefix.text .redis login scan.keys replicas.toStores stored := by
  rw [gone_iff replicas scan dateTime login places .redis member isOpen]
  exact ⟨fun both => both.2, fun enough => ⟨rfl, enough⟩⟩

def RedisInOrder : Prop :=
  ∀ older ∈ replicas.content, ∀ newer ∈ replicas.content,
    IsOpen login replicas.space.now older → IsOpen login replicas.space.now newer →
      older.authenticationTime dateTime < newer.authenticationTime dateTime →
        laterIn dateTime keyPrefix.text .redis login scan.keys replicas.toStores older < places →
          laterIn dateTime keyPrefix.text .redis login scan.keys replicas.toStores newer < places

def SameExcess : Prop :=
  ∀ storeType, ∀ stored ∈ replicas.content, IsOpen login replicas.space.now stored →
    ((isReached storeType login.tenantId stored = true ∧
        places ≤ laterIn dateTime keyPrefix.text storeType login scan.keys replicas.toStores
          stored) ↔
      places ≤ laterIn dateTime keyPrefix.text .redis login scan.keys replicas.toStores stored)

theorem limited_of (inOrder : RedisInOrder replicas scan dateTime login places)
    (agree : SameExcess replicas scan dateTime login places) :
    Limited keyPrefix.text dateTime login places replicas.content replicas.toStores
      (limitedIn keyPrefix replicas.toStores scan dateTime login places) := by
  have sameGone : ∀ storeType, ∀ stored ∈ replicas.content,
      IsOpen login replicas.space.now stored →
        (¬(limitedIn keyPrefix replicas.toStores scan dateTime login places storeType).Holds
          keyPrefix.text storeType stored ↔
        ¬(limitedIn keyPrefix replicas.toStores scan dateTime login places .redis).Holds
          keyPrefix.text .redis stored) := by
    intro storeType stored member isOpen
    rw [gone_iff replicas scan dateTime login places storeType member isOpen,
      agree storeType stored member isOpen,
      goneFromRedis_iff replicas scan dateTime login places member isOpen]
  have excess : ∀ storeType, number (fun stored => IsOpen login replicas.space.now stored ∧
      ¬(limitedIn keyPrefix replicas.toStores scan dateTime login places storeType).Holds
        keyPrefix.text storeType stored) replicas.content =
      number (IsOpen login replicas.space.now) replicas.content - places := by
    intro storeType
    rw [← excess_redis replicas scan dateTime login places]
    apply Ranking.number_congr
    intro stored member
    exact and_congr_right fun isOpen => sameGone storeType stored member isOpen
  refine ⟨?_, ?_, excess, ?_, ?_, ?_⟩
  · intro storeType
    have split := Ranking.number_split (IsOpen login replicas.space.now)
      (fun stored => (limitedIn keyPrefix replicas.toStores scan dateTime login places
        storeType).Holds keyPrefix.text storeType stored) replicas.content
    have inExcess := excess storeType
    omega
  · intro storeType stored member isOpen isGone
    have inExcess : 0 < number (IsOpen login replicas.space.now) replicas.content - places := by
      rw [← excess storeType]
      exact Ranking.number_pos member ⟨isOpen, isGone⟩
    change places + 1 ≤ number (IsOpen login replicas.space.now) replicas.content
    omega
  · intro storeType gone goneMember kept keptMember goneOpen keptOpen isGone isKept
    by_contra newer
    have goneIff := goneFromRedis_iff replicas scan dateTime login places goneMember goneOpen
    have keptIff := goneFromRedis_iff replicas scan dateTime login places keptMember keptOpen
    have enough := goneIff.mp ((sameGone storeType gone goneMember goneOpen).mp isGone)
    have redisKeeps := mt (sameGone storeType kept keptMember keptOpen).mpr (not_not.mpr isKept)
    have keptStays := not_le.mp (mt keptIff.mpr redisKeeps)
    have goneStays := inOrder kept keptMember gone goneMember keptOpen goneOpen (not_le.mp newer)
      keptStays
    omega
  · intro storeType stored member present isGone
    exact counted_of_gone replicas scan dateTime login places storeType member present isGone
  · intro first second stored member isOpen
    rw [← not_iff_not, sameGone first stored member isOpen, sameGone second stored member isOpen]

/-- The limit does what it is for, exactly where the order in Redis respects the authentication
times, encrypted ones included, and the other orders put the same sessions before as many others,
expired ones included. -/
theorem limited_iff :
    Limited keyPrefix.text dateTime login places replicas.content replicas.toStores
        (limitedIn keyPrefix replicas.toStores scan dateTime login places) ↔
      RedisInOrder replicas scan dateTime login places ∧
        SameExcess replicas scan dateTime login places := by
  constructor
  · intro limited
    refine ⟨?_, ?_⟩
    · intro older olderMember newer newerMember olderOpen newerOpen before olderStays
      have olderIff := goneFromRedis_iff replicas scan dateTime login places olderMember olderOpen
      have newerIff := goneFromRedis_iff replicas scan dateTime login places newerMember newerOpen
      by_contra enough
      have newerGone := newerIff.mpr (not_lt.mp enough)
      have olderKept := not_not.mp (mt olderIff.mp (not_le.mpr olderStays))
      have notNewer := limited.oldest .redis newer newerMember older olderMember newerOpen olderOpen
        newerGone olderKept
      omega
    · intro storeType stored member isOpen
      rw [← gone_iff replicas scan dateTime login places storeType member isOpen,
        ← goneFromRedis_iff replicas scan dateTime login places member isOpen]
      exact not_congr (limited.same storeType .redis stored member isOpen)
  · rintro ⟨inOrder, agree⟩
    exact limited_of replicas scan dateTime login places inOrder agree

/-- So it is where no more sessions of the account are stored than there are places. -/
theorem limited_of_few
    (few : number (fun stored => isCounted login stored = true) replicas.content ≤ places) :
    Limited keyPrefix.text dateTime login places replicas.content replicas.toStores
      (limitedIn keyPrefix replicas.toStores scan dateTime login places) := by
  have fewIn (storeType : SessionStoreType) : number (fun stored =>
      isCandidate storeType login replicas.space.now stored = true) replicas.content ≤ places := by
    refine le_trans (List.countP_mono_left ?_) few
    simp only [decide_eq_true_eq]
    exact fun _ _ candidate => (isCandidate_iff.mp candidate).2.1
  have none (storeType : SessionStoreType) : sidsToRemove dateTime keyPrefix.text storeType
      (places + 1) login scan.keys replicas.toStores = [] := by
    cases storeType with
    | mongodb => exact (represents_mongo ..).none_removed replicas.distinct (fewIn _)
    | redis => exact (represents_redis ..).none_removed replicas.distinct (fewIn _)
    | sqlite => exact (represents_prisma _ _ _ (.inl rfl) _).none_removed replicas.distinct (fewIn _)
    | postgresql =>
      exact (represents_prisma _ _ _ (.inr rfl) _).none_removed replicas.distinct (fewIn _)
  have below (storeType : SessionStoreType) {stored : StoredSession Profile}
      (member : stored ∈ replicas.content) (isOpen : IsOpen login replicas.space.now stored) :
      ¬(isReached storeType login.tenantId stored = true ∧ places ≤
        laterIn dateTime keyPrefix.text storeType login scan.keys replicas.toStores stored) := by
    rw [← isCandidate_open login isOpen, ← mem_sidsToRemove replicas scan dateTime login places
      storeType member, none]
    exact List.not_mem_nil
  refine limited_of replicas scan dateTime login places ?_ ?_
  · intro _ _ newer newerMember _ newerOpen _ _
    by_contra enough
    exact below .redis newerMember newerOpen ⟨rfl, not_lt.mp enough⟩
  · intro storeType stored member isOpen
    exact iff_of_false (below storeType member isOpen) fun enough =>
      below .redis member isOpen ⟨rfl, enough⟩

end BackEnds

def bobsAt (sid : SessionId) (authTime : Int) (expires_at : Nat) : StoredSession Unit where
  sid := sid
  payload := some
    { sessionData :=
        { authenticatedUsers := some
            { active := some { id := "1", username := "bob", last_used := none, profile := () }
              others := some [] }
          accountId := some "bob"
          pendingSwitchUserId := none
          tenantId := some "acme"
          authTime := some (.number authTime) }
      encrypted := false }
  expires_at := expires_at

def openSession : StoredSession Unit :=
  bobsAt { text := "acme.2", nonempty := by decide, noColon := by decide } 1 2000

def expiredSession : StoredSession Unit :=
  bobsAt { text := "acme.3", nonempty := by decide, noColon := by decide } 2 500

theorem bobs_distinct : ([openSession, expiredSession].map StoredSession.sid).Nodup := by decide

def bobsLogin : Login where
  tenantId := "acme"
  account := { text := "bob", nonBlank := by decide }
  currentSessionId := none

theorem limit_deletes :
    let replicas := Replicas.of RedisKeys.parako 1000 [openSession, expiredSession] bobs_distinct
    let scan := SessionScan.of RedisKeys.parako 1000 [openSession, expiredSession] bobs_distinct
    let after := limitedIn RedisKeys.parako replicas.toStores scan (fun _ => none) bobsLogin 1
    ¬(after .mongodb).Holds "parako" .mongodb openSession ∧
    (after .redis).Holds "parako" .redis openSession ∧
    ¬∀ (keyPrefix : KeyPrefix) (replicas : Replicas keyPrefix Unit)
        (scan : SessionScan keyPrefix replicas.space) (dateTime : String → Option Int)
        (login : Login) (places : Nat),
      Limited keyPrefix.text dateTime login places replicas.content replicas.toStores
        (limitedIn keyPrefix replicas.toStores scan dateTime login places) := by
  intro replicas scan after
  have member : openSession ∈ replicas.content := .head _
  have isOpen : IsOpen bobsLogin 1000 openSession := ⟨by decide, by decide⟩
  have gone := fun storeType =>
    gone_iff replicas scan (fun _ => none) bobsLogin 1 storeType member isOpen
  have fromMongo : ¬(after .mongodb).Holds "parako" .mongodb openSession :=
    (gone .mongodb).mpr ⟨rfl, by decide⟩
  have inRedis : (after .redis).Holds "parako" .redis openSession := by
    refine not_not.mp (mt (gone .redis).mp ?_)
    decide
  refine ⟨fromMongo, inRedis, ?_⟩
  intro always
  have limited := always RedisKeys.parako replicas scan (fun _ => none) bobsLogin 1
  exact fromMongo ((limited.same .mongodb .redis openSession member isOpen).mpr inRedis)

end ParakoId.StoredSessions
