import ParakoId.OidcStore.Reference
import ParakoId.RedisAdapter.Revocation

/-!
The Redis adapter with one call at a time. The keys of the records stand for the records
themselves, and the helper keys lead to those that have a user code or a uid.
-/

namespace ParakoId.OidcStore.Redis

open RedisAdapter (ModelName OIDCPayload Store Value Key Failure Upsert key grantKeyFor
  userCodeKeyFor uidKeyFor consumable truthy grantIndex writeHelper writeHelpers execUngranted exec
  setConsumed now_writeRecord appendToGrant KeptBy)

/-- An upsert that no other call comes between. -/
def upsert (store : Store) (call : Upsert) : Store :=
  match call.grant with
  | none => execUngranted store call
  | some grantId => exec store call grantId (store.ttl (grantKeyFor grantId))

def decode (name : ModelName) (value : Value) : Except Failure Found :=
  if consumable name then
    match value with
    | .hash (some payload) consumed =>
      .ok ⟨{ payload with consumed := none },
        payload.consumed.map .number <|> consumed.map .text⟩
    | .hash none _ => .error .invalidPayload
    | _ => .error .wrongType
  else
    match value with
    | .payload payload => .ok (found payload none)
    | .id _ => .error .invalidPayload
    | _ => .error .wrongType

def find (store : Store) (name : ModelName) (id : String) : Except Failure (Option Found) :=
  if id = "" then .ok none
  else
    match store.lookup (key name id) with
    | none => .ok none
    | some entry => (decode name entry.value).map some

def findByHelper (store : Store) (name : ModelName) (helperKey : Key) :
    Except Failure (Option Found) :=
  match store.lookup helperKey with
  | none => .ok none
  | some ⟨.id id, _⟩ => find store name id
  | some _ => .error .wrongType

def findByUserCode (store : Store) (name : ModelName) (userCode : String) :
    Except Failure (Option Found) :=
  if userCode = "" ∨ name ≠ .DeviceCode then .ok none
  else findByHelper store name (userCodeKeyFor userCode)

def findByUid (store : Store) (name : ModelName) (uid : String) :
    Except Failure (Option Found) :=
  if uid = "" ∨ name ≠ .Session then .ok none else findByHelper store name (uidKeyFor uid)

def answer : Except Failure (Option Found) → Outcome
  | .ok result => .returns result
  | .error _ => .throws

def write (store : Store) : Except Failure Store → Outcome × Store
  | .ok next => (.returns none, next)
  | .error _ => (.throws, store)

def step (name : ModelName) (store : Store) : Input → Outcome × Store
  | .upsert id payload expiresIn =>
    (.returns none, upsert store ⟨name, id, payload, expiresIn⟩)
  | .find id => (answer (find store name id), store)
  | .findByUserCode userCode => (answer (findByUserCode store name userCode), store)
  | .findByUid uid => (answer (findByUid store name uid), store)
  | .consume id => write store (RedisAdapter.consume store name id)
  | .destroy id => (.returns none, RedisAdapter.destroy store name id)
  | .revokeByGrantId grantId => write store (RedisAdapter.revokeByGrantId store grantId)
  | .wait milliseconds => (.returns none, store.wait milliseconds)
  | .ttlSweep => (.returns none, store)

def helperKey (name : ModelName) (payload : OIDCPayload) : Option Key :=
  match name with
  | .DeviceCode => (truthy payload.userCode).map userCodeKeyFor
  | .Session => (truthy payload.uid).map uidKeyFor
  | _ => none

structure UpsertsAlike (name : ModelName) (id : String) (payload : OIDCPayload)
    (expiresIn : Option Int) (reference : Reference) : Prop where
  expiry : consumable name = true → ∀ record, reference.live id = some record →
    OidcStore.expiry reference.now expiresIn = ⊤ → record.expiresAt = ⊤
  helper : ∀ other record helper, reference.live other = some record → other ≠ id →
    helperKey name record.payload = some helper → helperKey name payload ≠ some helper

structure LooksUpAlike (indexed : OIDCPayload → Option String) (value : String) (helper : Key)
    (store : Store) (reference : Reference) : Prop where
  nonempty : value = "" → ∀ id record, ¬reference.Holds indexed value id record
  current : ∀ id expiresAt record, store.lookup helper = some ⟨.id id, expiresAt⟩ →
    reference.live id = some record → id ≠ "" ∧ indexed record.payload = some value
  unmarked : ∀ id record, reference.Holds indexed value id record → record.OwnMark

def Allowed (name : ModelName) (states : Store × Reference) : Input → Prop
  | .upsert id payload expiresIn => UpsertsAlike name id payload expiresIn states.2
  | .find id =>
    (id = "" → states.2.live id = none) ∧
      ∀ record, states.2.live id = some record → record.OwnMark
  | .findByUserCode userCode =>
    name = .DeviceCode →
      LooksUpAlike (·.userCode) userCode (userCodeKeyFor userCode) states.1 states.2
  | .findByUid uid =>
    name = .Session → LooksUpAlike (·.uid) uid (uidKeyFor uid) states.1 states.2
  | .consume id =>
    if id = "" then states.2.live id = none
    else consumable name = true ∧ states.2.live id ≠ none
  | .destroy id => id = "" → states.2.live id = none
  | .revokeByGrantId grantId =>
    grantId ≠ "" → ∀ id record, states.2.live id = some record →
      (record.payload.grantId = some grantId ↔
        key name id ∈ grantIndex.listed states.1 grantId)
  | _ => True

def deadline (expiresAt : WithTop Int) : WithTop Nat := expiresAt.map Int.toNat

def entry (name : ModelName) (record : Record) : Keyspace.Entry Value where
  value :=
    if consumable name then .hash (some record.payload) record.consumed
    else .payload record.payload
  expiresAt := deadline record.expiresAt

def Kept (name : ModelName) (key : Key) (value : Value) : Prop :=
  match key.kind with
  | .grant => ∃ ids : List String, value = .list (ids.map (RedisAdapter.key name))
  | .userCode | .uid => ∃ id, value = .id id
  | .record _ => True

structure Related (name : ModelName) (store : Store) (reference : Reference) : Prop where
  now : store.now = reference.now
  records : ∀ id, store.lookup (key name id) = (reference.live id).map (entry name)
  helpers : ∀ id record helper, reference.live id = some record →
    helperKey name record.payload = some helper →
      ∃ expiresAt, store.lookup helper = some ⟨.id id, expiresAt⟩ ∧
        deadline record.expiresAt ≤ expiresAt
  kept : Keyspace.Each (Kept name) store
  unmarked : consumable name = false → ∀ id record, reference.live id = some record →
    record.consumed = none

theorem unexpired_later {now later : Nat} {expiresAt : WithTop Int}
    (isLive : unexpired now expiresAt = true) :
    unexpired later expiresAt = true ↔ WithTop.some later ≤ deadline expiresAt := by
  cases expiresAt with
  | top => exact ⟨fun _ => le_top, fun _ => rfl⟩
  | coe time =>
    have ahead : (now : Int) ≤ time := of_decide_eq_true isLive
    rw [deadline, WithTop.map_coe, WithTop.coe_le_coe]
    constructor
    · intro isLater
      have order : (later : Int) ≤ time := of_decide_eq_true isLater
      omega
    · intro order
      exact decide_eq_true (by omega)

theorem deadline_expiry (store : Store) {call : Upsert} {seconds : Int}
    (isLifetime : call.lifetime = some seconds) (positive : 0 < seconds) :
    deadline (expiry store.now call.expiresIn) = store.deadline seconds := by
  have same : ((store.now : Int) + 1000 * seconds).toNat = store.now + 1000 * seconds.toNat := by
    omega
  rw [Upsert.lifetime] at isLifetime
  rw [expiry, isLifetime, Keyspace.deadline, ← same]
  rfl

theorem expiry_forever (now : Nat) {call : Upsert} (noLifetime : call.lifetime = none) :
    expiry now call.expiresIn = ⊤ := by
  rw [Upsert.lifetime] at noLifetime
  rw [expiry, noLifetime]

theorem unexpired_expiry (now : Nat) (expiresIn : Option Int) :
    unexpired now (expiry now expiresIn) =
      (expiresIn.filter fun seconds => seconds ≠ 0).all fun seconds => 0 < seconds := by
  rw [expiry]
  split
  next seconds isLifetime =>
    have nonzero : seconds ≠ 0 := by
      simpa using (Option.filter_eq_some_iff.mp isLifetime).2
    have same : (now : Int) ≤ now + 1000 * seconds ↔ 0 < seconds := by omega
    rw [isLifetime, Option.all_some]
    exact decide_eq_decide.mpr same
  next noLifetime =>
    rw [noLifetime]
    rfl

def helperKeys (payload : OIDCPayload) : List Key :=
  (truthy payload.userCode).toList.map userCodeKeyFor ++
    (truthy payload.uid).toList.map uidKeyFor

theorem helperKey_mem {name : ModelName} {payload : OIDCPayload} {helper : Key}
    (isHelper : helperKey name payload = some helper) : helper ∈ helperKeys payload := by
  cases name with
  | DeviceCode =>
    obtain ⟨userCode, isCode, rfl⟩ := Option.map_eq_some_iff.mp isHelper
    simp [helperKeys, isCode]
  | Session =>
    obtain ⟨uid, isUid, rfl⟩ := Option.map_eq_some_iff.mp isHelper
    simp [helperKeys, isUid]
  | _ => cases isHelper

theorem helperKey_of_mem {name : ModelName} {payload other : OIDCPayload} {helper : Key}
    (isHelper : helperKey name other = some helper) (member : helper ∈ helperKeys payload) :
    helperKey name payload = some helper := by
  cases name with
  | DeviceCode =>
    obtain ⟨userCode, _, rfl⟩ := Option.map_eq_some_iff.mp isHelper
    simpa [helperKeys, helperKey, userCodeKeyFor, uidKeyFor] using member
  | Session =>
    obtain ⟨uid, _, rfl⟩ := Option.map_eq_some_iff.mp isHelper
    simpa [helperKeys, helperKey, userCodeKeyFor, uidKeyFor] using member
  | _ => cases isHelper

theorem kind_of_helperKeys {payload : OIDCPayload} {helper : Key}
    (member : helper ∈ helperKeys payload) : helper.kind = .userCode ∨ helper.kind = .uid := by
  simp only [helperKeys, List.mem_append, List.mem_map] at member
  rcases member with ⟨userCode, _, rfl⟩ | ⟨uid, _, rfl⟩
  · exact .inl rfl
  · exact .inr rfl

def pointer (now : Nat) (call : Upsert) : Option (Keyspace.Entry Value) :=
  if unexpired now (expiry now call.expiresIn) then
    some ⟨.id call.id, deadline (expiry now call.expiresIn)⟩
  else none

theorem lookup_writeHelper_self (store : Store) (call : Upsert) (helper : Key) :
    (writeHelper store call helper).lookup helper = pointer store.now call := by
  rw [writeHelper, RedisAdapter.lookup_expireIf, if_pos rfl, pointer,
    unexpired_expiry, ← Upsert.lifetime]
  cases isLifetime : call.lifetime with
  | none => simp [Keyspace.lookup_set, expiry_forever store.now isLifetime, deadline]
  | some seconds =>
    by_cases positive : 0 < seconds
    · simp [Keyspace.lookup_set, positive, deadline_expiry store isLifetime positive,
        Keyspace.deadline]
    · simp [positive]

@[simp] theorem now_writeHelper (store : Store) (call : Upsert) (helper : Key) :
    (writeHelper store call helper).now = store.now := by
  simp [writeHelper]

theorem lookup_writeHelpers (store : Store) (call : Upsert) (other : Key) :
    (writeHelpers store call).lookup other =
      if other ∈ helperKeys call.payload then pointer store.now call else store.lookup other := by
  have one : ∀ (store : Store) helper, (writeHelper store call helper).lookup other =
      if other = helper then pointer store.now call else store.lookup other := by
    intro store helper
    by_cases same : other = helper
    · rw [if_pos same, same, lookup_writeHelper_self]
    · rw [if_neg same, RedisAdapter.lookup_writeHelper _ _ _ same]
  rw [writeHelpers, helperKeys]
  cases truthy call.payload.userCode with
  | none => cases truthy call.payload.uid <;> simp [one]
  | some userCode =>
    cases truthy call.payload.uid with
    | none => simp [one]
    | some uid =>
      simp only [one, now_writeHelper]
      by_cases isUid : other = uidKeyFor uid <;> simp [isUid]

theorem lookup_upsert (store : Store) (call : Upsert) {other : Key}
    (notGrant : other.kind ≠ .grant) :
    (upsert store call).lookup other =
      if other ∈ helperKeys call.payload then pointer store.now call
      else if other = call.key then
        if unexpired store.now (expiry store.now call.expiresIn) then
          some ⟨call.value store, call.expiresAt store⟩
        else none
      else store.lookup other := by
  have notGrantKey : ∀ grantId, other ≠ grantKeyFor grantId := by
    rintro grantId rfl
    exact notGrant rfl
  have record : (RedisAdapter.writeRecord store call).lookup other =
      if other = call.key then
        if unexpired store.now (expiry store.now call.expiresIn) then
          some ⟨call.value store, call.expiresAt store⟩
        else none
      else store.lookup other := by
    split
    next same => rw [same, RedisAdapter.lookup_writeRecord, unexpired_expiry, ← Upsert.lifetime]
    next different => exact RedisAdapter.lookup_writeRecord_other store call different
  rw [← record, upsert]
  split
  · rw [execUngranted, lookup_writeHelpers, now_writeRecord]
  · rw [exec, lookup_writeHelpers,
      RedisAdapter.lookup_appendToGrant_other _ _ _ _ (notGrantKey _)]
    simp [appendToGrant]

theorem now_writeHelpers (store : Store) (call : Upsert) :
    (writeHelpers store call).now = store.now := by
  simp only [writeHelpers]
  split <;> split <;> simp

theorem now_upsert (store : Store) (call : Upsert) : (upsert store call).now = store.now := by
  rw [upsert]
  split
  · rw [execUngranted, now_writeHelpers, now_writeRecord]
  · rw [exec, now_writeHelpers]
    simp [appendToGrant]

theorem each_upsert {holds : Key → Value → Prop} {store : Store} {call : Upsert}
    (each : Keyspace.Each holds store) (kept : KeptBy holds call) :
    Keyspace.Each holds (upsert store call) := by
  rw [upsert]
  split
  · exact RedisAdapter.each_execUngranted each kept
  · exact RedisAdapter.each_exec each kept _ _

section Operations

variable {name : ModelName} {store : Store} {reference : Reference}

theorem kept_keptBy (id : String) (payload : OIDCPayload) (expiresIn : Option Int) :
    KeptBy (Kept name) ⟨name, id, payload, expiresIn⟩ where
  payload _ := trivial
  hash _ := trivial
  setPayload _ _ _ := trivial
  list _ := ⟨[id], rfl⟩
  rpush := by
    rintro grantId value ⟨ids, rfl⟩
    exact ⟨ids ++ [id], by simp [RedisAdapter.rpush, Upsert.key]⟩
  userCode _ := ⟨id, rfl⟩
  uid _ := ⟨id, rfl⟩

theorem map_entry_filter (record : Option Record) {now later : Nat}
    (isLive : ∀ held, record = some held → unexpired now held.expiresAt = true) :
    (record.filter fun record => unexpired later record.expiresAt).map (entry name) =
      (record.map (entry name)).filter (Keyspace.Entry.live later) := by
  cases record with
  | none => rfl
  | some held =>
    have same : unexpired later held.expiresAt = (entry name held).live later := by
      rw [Bool.eq_iff_iff, unexpired_later (isLive held rfl), Keyspace.Entry.live_iff]
      rfl
    cases stays : (entry name held).live later with
    | false | true => simp [Option.filter, same, stays]

variable {id : String}

theorem isLive_of_live {record : Record} (isLive : reference.live id = some record) :
    unexpired reference.now record.expiresAt = true :=
  (Option.filter_eq_some_iff.mp isLive).2

section

variable (related : Related name store reference)
include related

theorem Related.wait (milliseconds : Nat) :
    Related name (store.wait milliseconds)
      { reference with now := reference.now + milliseconds } where
  now := congrArg (· + milliseconds) related.now
  records id := by
    rw [Reference.live_wait, Keyspace.lookup_wait, related.records id, related.now]
    exact (map_entry_filter _ fun held isLive => isLive_of_live isLive).symm
  helpers id record helper isLive isHelper := by
    rw [Reference.live_wait, Option.filter_eq_some_iff] at isLive
    obtain ⟨wasLive, stays⟩ := isLive
    obtain ⟨expiresAt, isPointer, outlives⟩ := related.helpers id record helper wasLive isHelper
    rw [unexpired_later (isLive_of_live wasLive)] at stays
    refine ⟨expiresAt, ?_, outlives⟩
    rw [Keyspace.lookup_wait, isPointer, related.now, Option.filter_some, if_pos]
    exact Keyspace.Entry.live_iff.mpr (stays.trans outlives)
  kept := related.kept.wait milliseconds
  unmarked notConsumable id record isLive := by
    rw [Reference.live_wait, Option.filter_eq_some_iff] at isLive
    exact related.unmarked notConsumable id record isLive.1

theorem Related.written_value (id : String) (payload : OIDCPayload) (expiresIn : Option Int)
    (expiresAt : WithTop Int) :
    Upsert.value ⟨name, id, payload, expiresIn⟩ store =
      (entry name ⟨payload, expiresAt, (reference.live id).bind Record.consumed⟩).value := by
  have sameKey : Upsert.key ⟨name, id, payload, expiresIn⟩ = key name id := rfl
  rw [Upsert.value, sameKey, related.records id]
  cases isConsumable : consumable name with
  | false => simp [entry, isConsumable]
  | true =>
    cases reference.live id with
    | none => simp [entry, isConsumable]
    | some record => simp [entry, isConsumable, RedisAdapter.setPayload]

theorem Related.written_expiresAt {payload : OIDCPayload} {expiresIn : Option Int}
    (alike : UpsertsAlike name id payload expiresIn reference)
    (isLive : unexpired store.now (expiry store.now expiresIn) = true) :
    Upsert.expiresAt ⟨name, id, payload, expiresIn⟩ store =
      deadline (expiry store.now expiresIn) := by
  have sameKey : Upsert.key ⟨name, id, payload, expiresIn⟩ = key name id := rfl
  rw [Upsert.expiresAt]
  cases isLifetime : Upsert.lifetime ⟨name, id, payload, expiresIn⟩ with
  | some seconds =>
    have positive : 0 < seconds := by
      rw [Upsert.lifetime] at isLifetime
      rw [unexpired_expiry, isLifetime] at isLive
      simpa using isLive
    exact (deadline_expiry store isLifetime positive).symm
  | none =>
    have forever := expiry_forever store.now isLifetime
    simp only at forever
    rw [forever]
    cases isConsumable : consumable name with
    | false => rfl
    | true =>
      rw [sameKey, related.records id]
      cases wasLive : reference.live id with
      | none => rfl
      | some record =>
        rw [related.now] at forever
        have wasForever := alike.expiry isConsumable record wasLive forever
        simp [entry, wasForever]

theorem Related.upsert {payload : OIDCPayload} {expiresIn : Option Int}
    (alike : UpsertsAlike name id payload expiresIn reference) :
    Related name (upsert store ⟨name, id, payload, expiresIn⟩)
      (reference.upsert id payload expiresIn) := by
  constructor
  · exact (now_upsert store _).trans related.now
  · intro other
    have notHelper : key name other ∉ helperKeys payload := by
      intro member
      rcases kind_of_helperKeys member with isKind | isKind <;> cases isKind
    have sameKey : key name other = Upsert.key ⟨name, id, payload, expiresIn⟩ ↔ other = id := by
      simp [Upsert.key, key]
    rw [lookup_upsert _ _ (by simp [key]), if_neg notHelper, Reference.live_upsert]
    simp only [sameKey]
    split
    next =>
      rw [Option.filter_some]
      simp only [Reference.isLive, ← related.now]
      split
      next isLive =>
        rw [related.written_value id payload expiresIn, related.written_expiresAt alike isLive]
        rfl
      next => rfl
    next => exact related.records other
  · intro other record helper isLive isHelper
    have notGrant : helper.kind ≠ .grant := by
      rcases kind_of_helperKeys (helperKey_mem isHelper) with isKind | isKind <;> simp [isKind]
    rw [lookup_upsert _ _ notGrant]
    rw [Reference.live_upsert] at isLive
    split at isLive
    next same =>
      obtain ⟨isRecord, stays⟩ := Option.filter_eq_some_iff.mp isLive
      injection isRecord with isRecord
      subst isRecord
      simp only [Reference.isLive, ← related.now] at stays
      rw [if_pos (helperKey_mem isHelper), pointer, if_pos stays, same, ← related.now]
      exact ⟨_, rfl, le_rfl⟩
    next different =>
      have notTaken : helper ∉ helperKeys payload := fun member =>
        alike.helper other record helper isLive different isHelper (helperKey_of_mem isHelper member)
      have notRecord : helper ≠ Upsert.key ⟨name, id, payload, expiresIn⟩ := by
        rintro rfl
        rcases kind_of_helperKeys (helperKey_mem isHelper) with isKind | isKind <;> cases isKind
      rw [if_neg notTaken, if_neg notRecord]
      exact related.helpers other record helper isLive isHelper
  · exact each_upsert related.kept (kept_keptBy id payload expiresIn)
  · intro notConsumable other record isLive
    rw [Reference.live_upsert] at isLive
    split at isLive
    next =>
      injection (Option.filter_eq_some_iff.mp isLive).1 with isRecord
      rw [← isRecord]
      cases wasLive : reference.live id with
      | none => rfl
      | some held => exact related.unmarked notConsumable id held wasLive
    next => exact related.unmarked notConsumable other record isLive

theorem Related.destroy (nonempty : id = "" → reference.live id = none) :
    Related name (RedisAdapter.destroy store name id) (reference.destroy id) := by
  have onlyLive : ∀ {other record}, (reference.destroy id).live other = some record →
      other ≠ id ∧ reference.live other = some record := by
    intro other record isLive
    rw [Reference.live_destroy] at isLive
    split at isLive
    · cases isLive
    next different => exact ⟨different, isLive⟩
  have lookups : ∀ other, (RedisAdapter.destroy store name id).lookup other =
      if id ≠ "" ∧ other = key name id then none else store.lookup other := by
    intro other
    rw [RedisAdapter.destroy]
    by_cases empty : id = ""
    · simp [empty]
    · simp [empty, Keyspace.lookup_del]
  constructor
  · rw [RedisAdapter.destroy]
    split
    · exact related.now
    · exact related.now
  · intro other
    rw [lookups, Reference.live_destroy]
    by_cases same : other = id
    · by_cases empty : id = ""
      · rw [if_neg (fun both => both.1 empty), if_pos same, same, related.records id,
          nonempty empty, Option.map_none]
      · simp [same, empty]
    · have otherKey : key name other ≠ key name id := by simpa [key] using same
      simp [same, otherKey, related.records other]
  · intro other record helper isLive isHelper
    obtain ⟨_, wasLive⟩ := onlyLive isLive
    have notRecord : helper ≠ key name id := by
      rintro rfl
      rcases kind_of_helperKeys (helperKey_mem isHelper) with isKind | isKind <;> cases isKind
    rw [lookups, if_neg (fun both => notRecord both.2)]
    exact related.helpers other record helper wasLive isHelper
  · rw [RedisAdapter.destroy]
    split
    · exact related.kept
    · exact related.kept.del _
  · intro notConsumable other record isLive
    exact related.unmarked notConsumable other record (onlyLive isLive).2

theorem Related.consume
    (allowed : if id = "" then reference.live id = none
      else consumable name = true ∧ reference.live id ≠ none) :
    ∃ next, RedisAdapter.consume store name id = .ok next ∧
      Related name next (reference.consume id) := by
  rw [RedisAdapter.consume]
  split at allowed
  next empty =>
    rw [if_pos empty, Reference.consume_of_not_live allowed]
    exact ⟨store, rfl, related⟩
  next nonempty =>
    obtain ⟨isConsumable, present⟩ := allowed
    obtain ⟨record, isLive⟩ := Option.ne_none_iff_exists'.mp present
    have isHash := related.records id
    rw [isLive, Option.map_some, entry, if_pos isConsumable] at isHash
    simp only [if_neg nonempty, isHash]
    refine ⟨_, rfl, ?_⟩
    have lookups : ∀ other, other ≠ key name id →
        (store.update (key name id) (.hash none (some (store.now / 1000)))
          (setConsumed (store.now / 1000))).lookup other = store.lookup other := by
      intro other different
      rw [Keyspace.lookup_update, if_neg different]
    constructor
    · rw [Keyspace.now_update, related.now, Reference.now_consume]
    · intro other
      rw [Reference.live_consume]
      split
      next same =>
        rw [Keyspace.lookup_update, if_pos (congrArg (key name) same), isHash, isLive, related.now]
        simp [entry, isConsumable, setConsumed]
      next different =>
        rw [lookups _ (by simpa [key] using different)]
        exact related.records other
    · intro other held helper isHeld isHelper
      have notRecord : helper ≠ key name id := by
        rintro rfl
        rcases kind_of_helperKeys (helperKey_mem isHelper) with isKind | isKind <;> cases isKind
      rw [lookups _ notRecord]
      rw [Reference.live_consume] at isHeld
      split at isHeld
      next same =>
        rw [isLive, Option.map_some] at isHeld
        injection isHeld with isHeld
        rw [← isHeld] at isHelper ⊢
        rw [same]
        exact related.helpers id record helper isLive isHelper
      next => exact related.helpers other held helper isHeld isHelper
    · exact related.kept.update trivial (fun _ _ => trivial)
    · intro notConsumable
      rw [isConsumable] at notConsumable
      cases notConsumable

end

theorem listed_records (kept : Keyspace.Each (Kept name) store) (grantId : String) :
    ∃ ids : List String, grantIndex.listed store grantId = ids.map (key name) := by
  have indexKey : grantIndex.indexKey grantId = grantKeyFor grantId := rfl
  rw [ExpiringIndex.listed, indexKey]
  cases isList : store.lookup (grantKeyFor grantId) with
  | none => exact ⟨[], rfl⟩
  | some list =>
    obtain ⟨ids, isKeys⟩ := kept _ list isList
    rw [Option.map_some, isKeys]
    exact ⟨ids, rfl⟩

theorem now_dropGroup (store : Store) (grantId : String) :
    (grantIndex.dropGroup store grantId).now = store.now := by
  rw [ExpiringIndex.dropGroup, Keyspace.now_del, Keyspace.now_delAll]

theorem kept_dropGroup (kept : Keyspace.Each (Kept name) store) (grantId : String) :
    Keyspace.Each (Kept name) (grantIndex.dropGroup store grantId) :=
  (kept.delAll _).del _

theorem Related.revokeByGrantId (related : Related name store reference) {grantId : String}
    (upToDate : grantId ≠ "" → ∀ id record, reference.live id = some record →
      (record.payload.grantId = some grantId ↔
        key name id ∈ grantIndex.listed store grantId)) :
    ∃ next, RedisAdapter.revokeByGrantId store grantId = .ok next ∧
      Related name next (reference.revokeByGrantId grantId) := by
  by_cases isGrant : grantId = ""
  · rw [RedisAdapter.revokeByGrantId, Reference.revokeByGrantId, if_pos isGrant, if_pos isGrant]
    exact ⟨store, rfl, related⟩
  have isList : ∀ entry, store.lookup (grantKeyFor grantId) = some entry →
      ∃ keys, entry.value = .list keys := by
    intro list found
    obtain ⟨ids, isKeys⟩ := related.kept _ list found
    exact ⟨_, isKeys⟩
  refine ⟨_, RedisAdapter.revokeByGrantId_eq isGrant isList, ?_⟩
  have lookups : ∀ other : Key, other.kind ≠ .grant →
      (grantIndex.dropGroup store grantId).lookup other =
        if other ∈ grantIndex.listed store grantId then none
        else store.lookup other := by
    intro other notGrant
    have notIndex : other ≠ grantIndex.indexKey grantId := by
      rintro rfl
      exact notGrant rfl
    rw [ExpiringIndex.dropGroup, Keyspace.lookup_del, if_neg notIndex, Keyspace.lookup_delAll]
  constructor
  · exact (now_dropGroup store grantId).trans
      (related.now.trans (reference.now_revokeByGrantId grantId).symm)
  · intro id
    rw [lookups _ (by simp [key]), Reference.live_revokeByGrantId isGrant, related.records id]
    cases isLive : reference.live id with
    | none => simp
    | some record =>
      have sameGrant := upToDate isGrant id record isLive
      by_cases ofGrant : record.payload.grantId = some grantId
      · rw [if_pos (sameGrant.mp ofGrant)]
        simp [Option.filter, ofGrant]
      · rw [if_neg (fun isListed => ofGrant (sameGrant.mpr isListed))]
        simp [Option.filter, ofGrant]
  · intro id record helper isLive isHelper
    rw [Reference.live_revokeByGrantId isGrant] at isLive
    obtain ⟨wasLive, _⟩ := Option.filter_eq_some_iff.mp isLive
    have isKind := kind_of_helperKeys (helperKey_mem isHelper)
    have notListed : helper ∉ grantIndex.listed store grantId := by
      obtain ⟨ids, records⟩ := listed_records related.kept grantId
      rw [records, List.mem_map]
      rintro ⟨other, _, rfl⟩
      rcases isKind with isKind | isKind <;> cases isKind
    rw [lookups _ (by rcases isKind with isKind | isKind <;> simp [isKind]), if_neg notListed]
    exact related.helpers id record helper wasLive isHelper
  · exact kept_dropGroup related.kept grantId
  · intro notConsumable id record isLive
    rw [Reference.live_revokeByGrantId isGrant] at isLive
    exact related.unmarked notConsumable id record (Option.filter_eq_some_iff.mp isLive).1

theorem decode_entry {record : Record} (unmarked : consumable name = false → record.consumed = none)
    (own : record.OwnMark) : decode name (entry name record).value = .ok record.found := by
  cases isConsumable : consumable name with
  | false =>
    rw [Record.found, unmarked isConsumable]
    simp [decode, entry, isConsumable]
  | true =>
    rw [own.found]
    rcases own with noMark | same
    · cases isMarked : record.payload.consumed <;>
        simp [decode, entry, isConsumable, found, noMark, isMarked]
    · cases isMarked : record.payload.consumed <;>
        simp [decode, entry, isConsumable, found, same, isMarked]

theorem Related.find_eq (related : Related name store reference)
    (nonempty : id = "" → reference.live id = none)
    (own : ∀ record, reference.live id = some record → record.OwnMark) :
    find store name id = .ok (reference.find id) := by
  rw [Redis.find, Reference.find]
  split
  next empty => rw [nonempty empty, Option.map_none]
  next =>
    rw [related.records id]
    cases isLive : reference.live id with
    | none => rfl
    | some record =>
      have unmarked := fun notConsumable => related.unmarked notConsumable id record isLive
      simp only [Option.map_some, decode_entry unmarked (own record isLive)]
      rfl

theorem Related.findByHelper_eq (related : Related name store reference)
    {indexed : OIDCPayload → Option String} {value : String} {helper : Key}
    (isIndex : ∀ payload, indexed payload = some value → helperKey name payload = some helper)
    (isHelper : helper.kind = .userCode ∨ helper.kind = .uid)
    (alike : LooksUpAlike indexed value helper store reference) :
    findByHelper store name helper = .ok (reference.findBy indexed value) := by
  rw [findByHelper]
  cases isPointer : store.lookup helper with
  | none =>
    rcases reference.findBy_cases indexed value with ⟨nothing, _⟩ | ⟨id, record, holds, _⟩
    · rw [nothing]
    · obtain ⟨_, isThere, _⟩ :=
        related.helpers id record helper holds.isLive (isIndex _ holds.isValue)
      rw [isPointer] at isThere
      cases isThere
  | some pointer =>
    have leads : ∃ id, pointer.value = .id id := by
      have kept := related.kept helper pointer isPointer
      rcases isHelper with isKind | isKind <;> simpa [Kept, isKind] using kept
    obtain ⟨value', expiresAt⟩ := pointer
    obtain ⟨id, rfl⟩ := leads
    -- every record with the value is the one that the key leads to
    have only : ∀ other record, reference.Holds indexed value other record → other = id := by
      intro other record holds
      obtain ⟨_, isThere, _⟩ :=
        related.helpers other record helper holds.isLive (isIndex _ holds.isValue)
      rw [isPointer] at isThere
      injection isThere with same
      injection same with same
      injection same with same
      exact same.symm
    have nonempty : id = "" → reference.live id = none := by
      intro empty
      cases isLive : reference.live id with
      | none => rfl
      | some record => exact absurd empty (alike.current id expiresAt record isPointer isLive).1
    have own : ∀ record, reference.live id = some record → record.OwnMark := by
      intro record isLive
      have isValue := (alike.current id expiresAt record isPointer isLive).2
      exact alike.unmarked id record ⟨isLive, isValue⟩
    simp only [related.find_eq nonempty own]
    rcases reference.findBy_cases indexed value with ⟨nothing, none⟩ | ⟨other, record, holds, first⟩
    · rw [nothing, Reference.find]
      cases isLive : reference.live id with
      | none => rfl
      | some record =>
        have isValue := (alike.current id expiresAt record isPointer isLive).2
        exact absurd ⟨isLive, isValue⟩ (none id record)
    · rw [first, Reference.find, ← only other record holds, holds.isLive, Option.map_some]

theorem Related.findByUserCode_eq (related : Related name store reference) {userCode : String}
    (alike : name = .DeviceCode →
      LooksUpAlike (·.userCode) userCode (userCodeKeyFor userCode) store reference) :
    findByUserCode store name userCode =
      .ok (if name = .DeviceCode then reference.findBy (·.userCode) userCode else none) := by
  rw [findByUserCode]
  by_cases isModel : name = .DeviceCode
  · by_cases empty : userCode = ""
    · rw [if_pos (.inl empty), if_pos isModel,
        Reference.findBy_of_none ((alike isModel).nonempty empty)]
    · rw [if_neg (by simp [empty, isModel]), if_pos isModel]
      refine related.findByHelper_eq ?_ (.inl rfl) (alike isModel)
      intro payload isValue
      simp [isModel, helperKey, isValue, truthy, Option.filter, empty]
  · rw [if_pos (.inr isModel), if_neg isModel]

theorem Related.findByUid_eq (related : Related name store reference) {uid : String}
    (alike : name = .Session → LooksUpAlike (·.uid) uid (uidKeyFor uid) store reference) :
    findByUid store name uid =
      .ok (if name = .Session then reference.findBy (·.uid) uid else none) := by
  rw [findByUid]
  by_cases isModel : name = .Session
  · by_cases empty : uid = ""
    · rw [if_pos (.inl empty), if_pos isModel,
        Reference.findBy_of_none ((alike isModel).nonempty empty)]
    · rw [if_neg (by simp [empty, isModel]), if_pos isModel]
      refine related.findByHelper_eq ?_ (.inr rfl) (alike isModel)
      intro payload isValue
      simp [isModel, helperKey, isValue, truthy, Option.filter, empty]
  · rw [if_pos (.inr isModel), if_neg isModel]

end Operations

open Simulations (Simulates)

theorem simulates (name : ModelName) :
    Simulates (step name) (Reference.step name) (Related name) (Allowed name) where
  output store reference input related allowed := by
    cases input with
    | find id =>
      simp only [step, Reference.step, related.find_eq allowed.1 allowed.2]
      rfl
    | findByUserCode userCode =>
      simp only [step, Reference.step, related.findByUserCode_eq allowed]
      rfl
    | findByUid uid =>
      simp only [step, Reference.step, related.findByUid_eq allowed]
      rfl
    | consume id =>
      obtain ⟨next, isNext, _⟩ := related.consume allowed
      simp only [step, isNext]
      rfl
    | revokeByGrantId grantId =>
      obtain ⟨next, isNext, _⟩ := related.revokeByGrantId allowed
      simp only [step, isNext]
      rfl
    | _ => rfl
  related store reference input related allowed := by
    cases input with
    | upsert id payload expiresIn => exact related.upsert allowed
    | consume id =>
      obtain ⟨next, isNext, isRelated⟩ := related.consume allowed
      simp only [step, isNext]
      exact isRelated
    | destroy id => exact related.destroy allowed
    | revokeByGrantId grantId =>
      obtain ⟨next, isNext, isRelated⟩ := related.revokeByGrantId allowed
      simp only [step, isNext]
      exact isRelated
    | wait milliseconds => exact related.wait milliseconds
    | _ => exact related

theorem start_related (name : ModelName) (now : Nat) :
    Related name (Keyspace.empty now) (Reference.start now) where
  now := rfl
  records _ := rfl
  helpers _ _ _ isLive := by cases isLive
  kept := Keyspace.each_empty now
  unmarked _ _ _ isLive := by cases isLive

end ParakoId.OidcStore.Redis
