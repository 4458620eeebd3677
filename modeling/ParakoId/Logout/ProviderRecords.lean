import ParakoId.OidcStore.AccountDeletion

/-!
The records that a logout deletes at the provider, as the stores of the three adapters show them,
and `logoutOIDC` with any part of its deletions failing.
-/

namespace ParakoId.Logout

open OidcStore (accountOf)
open RedisAdapter (ModelName OIDCPayload consumable)

inductive AdapterType
  | mongodb
  | redis
  | prisma
  deriving DecidableEq

structure Record where
  payload : OIDCPayload
  isLive : Bool
  deriving DecidableEq

abbrev RecordKey := ModelName × String

abbrev Records := InsertionMap RecordKey Record

structure Provider where
  records : Records
  grantList : String → List RecordKey

structure Reach where
  finds : Bool
  deletes : RecordKey → Bool

/-- The account that a deletion looks at: for Prisma it is that of the column, which the session of
an interaction does not get into. -/
def AdapterType.accountOf (adapter : AdapterType) (name : ModelName) (payload : OIDCPayload) :
    Option String :=
  if adapter = .prisma then payload.accountId else OidcStore.accountOf name payload

/-- In Redis the records of a consumable model are hashes, of which `GET` reads nothing. -/
def AdapterType.reads (adapter : AdapterType) (name : ModelName) : Bool :=
  !(adapter == .redis && consumable name)

/-- Where the query fails only that of Prisma throws. -/
def findByAccountId (adapter : AdapterType) (finds : Bool) (accountId : String)
    (records : Records) : Option (List String) :=
  if finds then
    some ((records.entries.filter fun entry =>
      entry.1.1 = .Session ∧ entry.2.payload.accountId = some accountId ∧ entry.2.isLive).map
        fun entry => entry.1.2)
  else if adapter = .prisma then none
  else some []

def deleteSessionsByIds (reach : Reach) (sessionIds : List String) (records : Records) : Records :=
  records.filter fun key _ => !(key.1 = .Session && key.2 ∈ sessionIds && reach.deletes key)

/-- `deleteGrantsByAccountId` does the same for the grants. -/
def deleteByAccountId (adapter : AdapterType) (reach : Reach) (accountId : String)
    (records : Records) (name : ModelName) : Records :=
  records.filter fun key record =>
    !(key.1 = name && adapter.reads name && adapter.accountOf name record.payload = some accountId &&
      reach.deletes key)

def logoutOIDC (adapter : AdapterType) (reach : Reach) (accountId : String) (records : Records) :
    Records :=
  if accountId = "" then records
  else
    match findByAccountId adapter reach.finds accountId records with
    | none => records
    | some sessionIds =>
      [ModelName.Grant, .AccessToken, .RefreshToken, .Interaction].foldl
        (deleteByAccountId adapter reach accountId) (deleteSessionsByIds reach sessionIds records)

/-! `revokeAllGrantsForAccount`, which the service of Prisma lacks. -/

def grantIdsOf (accountId : String) (records : Records) : List String :=
  ((records.entries.filter fun entry =>
    entry.1.1 = .Grant ∧ entry.2.payload.accountId = some accountId).map
      fun entry => entry.1.2).filter fun grantId => grantId ≠ ""

/-- The service of MongoDB looks for the grant's records among the grants only. -/
def isRevoked (adapter : AdapterType) (provider : Provider) (accountId : String) (key : RecordKey)
    (record : Record) : Bool :=
  accountId ≠ "" &&
    (grantIdsOf accountId provider.records).any fun grantId =>
      match adapter with
      | .mongodb => key.1 = .Grant && record.payload.grantId = some grantId
      | .redis => key ∈ provider.grantList grantId
      | .prisma => false

def revokeAllGrantsForAccount (adapter : AdapterType) (revokes : RecordKey → Bool)
    (accountId : String) (provider : Provider) : Records :=
  provider.records.filter fun key record =>
    !(isRevoked adapter provider accountId key record && revokes key)

def isAccountData : ModelName → Bool
  | .Session | .Grant | .AccessToken | .RefreshToken | .Interaction => true
  | _ => false

/-- What it takes for `logoutOIDC` to delete a record. -/
structure Clears (adapter : AdapterType) (reach : Reach) (accountId : String) (key : RecordKey)
    (record : Record) : Prop where
  named : accountId ≠ ""
  answered : adapter = .prisma → reach.finds = true
  isData : isAccountData key.1 = true
  readable : adapter.reads key.1 = true
  sameAccount : adapter.accountOf key.1 record.payload = some accountId
  session : key.1 = .Session → reach.finds = true ∧ record.isLive = true
  reached : reach.deletes key = true

variable {accountId : String} {records : Records} {key : RecordKey} {record : Record}

theorem get_deleteByAccountId {adapter : AdapterType} {reach : Reach} {name : ModelName} :
    (deleteByAccountId adapter reach accountId records name).get key = some record ↔
      records.get key = some record ∧
        ¬(key.1 = name ∧ adapter.reads key.1 = true ∧
          adapter.accountOf key.1 record.payload = some accountId ∧ reach.deletes key = true) := by
  rw [deleteByAccountId, InsertionMap.get_filter_eq_some_iff]
  refine and_congr_right fun _ => ?_
  by_cases isName : key.1 = name
  · subst isName
    simp only [Bool.not_eq_true', ← Bool.not_eq_true, Bool.and_eq_true, decide_eq_true_eq, true_and,
      and_assoc]
  · simp [isName]

theorem get_deleteByAccountIds {adapter : AdapterType} {reach : Reach} {names : List ModelName} :
    (names.foldl (deleteByAccountId adapter reach accountId) records).get key = some record ↔
      records.get key = some record ∧
        ¬(key.1 ∈ names ∧ adapter.reads key.1 = true ∧
          adapter.accountOf key.1 record.payload = some accountId ∧ reach.deletes key = true) := by
  induction names generalizing records with
  | nil => simp
  | cons name rest ih =>
    rw [List.foldl_cons, ih, get_deleteByAccountId, and_assoc, ← not_or, List.mem_cons, or_and_right]

theorem mem_findByAccountId {adapter : AdapterType} {finds : Bool} {sessionIds : List String}
    (isFound : findByAccountId adapter finds accountId records = some sessionIds) {id : String} :
    id ∈ sessionIds ↔ finds = true ∧ ∃ record, records.get (.Session, id) = some record ∧
      record.payload.accountId = some accountId ∧ record.isLive = true := by
  rw [findByAccountId] at isFound
  split at isFound
  · next finds =>
      injection isFound with isFound
      subst isFound
      simp only [finds, true_and, List.mem_map, List.mem_filter, decide_eq_true_eq,
        InsertionMap.get_eq_some_iff]
      constructor
      · rintro ⟨⟨⟨name, other⟩, record⟩, ⟨member, rfl, sameAccount, isLive⟩, rfl⟩
        exact ⟨record, member, sameAccount, isLive⟩
      · rintro ⟨record, member, sameAccount, isLive⟩
        exact ⟨((.Session, id), record), ⟨member, rfl, sameAccount, isLive⟩, rfl⟩
  · next fails =>
      split at isFound
      · cases isFound
      · cases isFound
        simp [fails]

theorem accountOf_of_session (adapter : AdapterType) (payload : OIDCPayload) :
    adapter.accountOf .Session payload = payload.accountId := by
  rw [AdapterType.accountOf]
  split
  · rfl
  · exact if_neg (by decide)

theorem reads_session (adapter : AdapterType) : adapter.reads .Session = true := by
  cases adapter <;> rfl

theorem isAccountData_iff {name : ModelName} :
    isAccountData name = true ↔
      name = .Session ∨ name ∈ [ModelName.Grant, .AccessToken, .RefreshToken, .Interaction] := by
  cases name <;> simp [isAccountData]

theorem findByAccountId_eq_none_iff {adapter : AdapterType} {finds : Bool} :
    findByAccountId adapter finds accountId records = none ↔ adapter = .prisma ∧ finds = false := by
  rw [findByAccountId]
  cases finds <;> cases adapter <;> simp

theorem clears_iff {adapter : AdapterType} {reach : Reach} {sessionIds : List String}
    (named : accountId ≠ "")
    (isFound : findByAccountId adapter reach.finds accountId records = some sessionIds)
    (isHeld : records.get key = some record) :
    Clears adapter reach accountId key record ↔
      (key.1 = .Session ∧ key.2 ∈ sessionIds ∧ reach.deletes key = true) ∨
        (key.1 ∈ [ModelName.Grant, .AccessToken, .RefreshToken, .Interaction] ∧
          adapter.reads key.1 = true ∧
          adapter.accountOf key.1 record.payload = some accountId ∧ reach.deletes key = true) := by
  constructor
  · intro clears
    rcases isAccountData_iff.mp clears.isData with isSession | isOther
    · obtain ⟨finds, isLive⟩ := clears.session isSession
      have sameAccount := clears.sameAccount
      rw [isSession, accountOf_of_session] at sameAccount
      rw [show key = (.Session, key.2) from Prod.ext isSession rfl] at isHeld
      have isListed := (mem_findByAccountId isFound).mpr ⟨finds, record, isHeld, sameAccount, isLive⟩
      exact .inl ⟨isSession, isListed, clears.reached⟩
    · exact .inr ⟨isOther, clears.readable, clears.sameAccount, clears.reached⟩
  · have answered : adapter = .prisma → reach.finds = true := by
      intro isPrisma
      by_contra fails
      have isNone : findByAccountId adapter reach.finds accountId records = none :=
        findByAccountId_eq_none_iff.mpr ⟨isPrisma, eq_false_of_ne_true fails⟩
      rw [isFound] at isNone
      cases isNone
    rintro (⟨isSession, isListed, reached⟩ | ⟨isOther, readable, sameAccount, reached⟩)
    · obtain ⟨finds, found, isThere, sameAccount, isLive⟩ := (mem_findByAccountId isFound).mp isListed
      rw [← isSession] at isThere
      obtain rfl : found = record := Option.some.inj (isThere.symm.trans isHeld)
      refine ⟨named, answered, isAccountData_iff.mpr (.inl isSession), ?_, ?_,
        fun _ => ⟨finds, isLive⟩, reached⟩
      · rw [isSession]
        exact reads_session adapter
      · rw [isSession, accountOf_of_session]
        exact sameAccount
    · refine ⟨named, answered, isAccountData_iff.mpr (.inr isOther), readable, sameAccount, ?_,
        reached⟩
      intro isSession
      rw [isSession] at isOther
      exact absurd isOther (by decide)

theorem get_logoutOIDC {adapter : AdapterType} {reach : Reach} :
    (logoutOIDC adapter reach accountId records).get key = some record ↔
      records.get key = some record ∧ ¬Clears adapter reach accountId key record := by
  rw [logoutOIDC]
  split
  · next isEmpty => exact iff_self_and.mpr fun _ clears => clears.named isEmpty
  · next named =>
      split
      · next isNone =>
          obtain ⟨isPrisma, fails⟩ := findByAccountId_eq_none_iff.mp isNone
          refine iff_self_and.mpr fun _ clears => ?_
          have finds := clears.answered isPrisma
          rw [fails] at finds
          cases finds
      · next sessionIds isFound =>
          rw [get_deleteByAccountIds, deleteSessionsByIds, InsertionMap.get_filter_eq_some_iff,
            and_assoc]
          refine and_congr_right fun isHeld => ?_
          rw [clears_iff named isFound isHeld, not_or]
          simp only [Bool.not_eq_true', ← Bool.not_eq_true, Bool.and_eq_true, decide_eq_true_eq,
            and_assoc]

theorem get_revokeAllGrantsForAccount {adapter : AdapterType} {revokes : RecordKey → Bool}
    {provider : Provider} :
    (revokeAllGrantsForAccount adapter revokes accountId provider).get key = some record ↔
      provider.records.get key = some record ∧
        ¬(isRevoked adapter provider accountId key record = true ∧ revokes key = true) := by
  rw [revokeAllGrantsForAccount, InsertionMap.get_filter_eq_some_iff]
  refine and_congr_right fun _ => ?_
  rw [Bool.not_eq_true', ← Bool.not_eq_true, Bool.and_eq_true]

def clearAll (adapter : AdapterType) : List String → (Nat → Reach) → Records → Records
  | [], _, records => records
  | accountId :: rest, reaches, records =>
    clearAll adapter rest (fun index => reaches (index + 1))
      (logoutOIDC adapter (reaches 0) accountId records)

theorem get_clearAll {adapter : AdapterType} {accountIds : List String} {reaches : Nat → Reach} :
    (clearAll adapter accountIds reaches records).get key = some record ↔
      records.get key = some record ∧ ∀ index accountId, accountIds[index]? = some accountId →
        ¬Clears adapter (reaches index) accountId key record := by
  induction accountIds generalizing reaches records with
  | nil => simp [clearAll]
  | cons first rest ih =>
    rw [clearAll, ih, get_logoutOIDC, and_assoc]
    refine and_congr_right fun _ => ?_
    constructor
    · rintro ⟨keptByFirst, keptByRest⟩ index accountId isAccount
      cases index with
      | zero =>
        obtain rfl : first = accountId := Option.some.inj isAccount
        exact keptByFirst
      | succ index => exact keptByRest index accountId isAccount
    · intro kept
      exact ⟨kept 0 first rfl, fun index accountId => kept (index + 1) accountId⟩

def Reach.full : Reach := ⟨true, fun _ => true⟩

end ParakoId.Logout
