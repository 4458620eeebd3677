import ParakoId.Library.Runs
import ParakoId.RedisAdapter.Adapter

/-!
Upserts that run next to each other. An upsert of a grant reads the lifetime that the key of the
grant has left, and executes its commands together at a later time.
-/

namespace ParakoId.RedisAdapter

inductive Call
  | idle
  | upsert (call : Upsert)
  | exec (call : Upsert) (grantId : String) (ttl : Int)
  | done

structure State where
  store : Store
  calls : Nat → Call

inductive Event
  | wait (milliseconds : Nat)
  | upsert (index : Nat) (call : Upsert)
  | turn (index : Nat)
  | consume (name : ModelName) (id : String)
  | destroy (name : ModelName) (id : String)

def exec (store : Store) (call : Upsert) (grantId : String) (ttl : Int) : Store :=
  writeHelpers (appendToGrant (writeRecord store call) call grantId ttl) call

def execUngranted (store : Store) (call : Upsert) : Store :=
  writeHelpers (writeRecord store call) call

def State.put (state : State) (index : Nat) (call : Call) : State :=
  { state with calls := fun other => if other = index then call else state.calls other }

def step (state : State) : Event → State
  | .wait milliseconds => { state with store := state.store.wait milliseconds }
  | .upsert index call =>
    match state.calls index with
    | .idle => state.put index (.upsert call)
    | _ => state
  | .turn index =>
    match state.calls index with
    | .idle => state
    | .upsert call =>
      match call.grant with
      | none => { state.put index .done with store := execUngranted state.store call }
      | some grantId =>
        -- awaited while the `MULTI` is still being queued
        state.put index (.exec call grantId (state.store.ttl (grantKeyFor grantId)))
    | .exec call grantId ttl =>
      { state.put index .done with store := exec state.store call grantId ttl }
    | .done => state
  | .consume name id =>
    match consume state.store name id with
    | .ok store => { state with store }
    | .error _ => state
  | .destroy name id => { state with store := destroy state.store name id }

def emptyStore (now : Nat) : State := { store := Keyspace.empty now, calls := fun _ => .idle }

section

variable (store : Store)
include store

theorem lookup_expireIf (key other : Key) (lifetime : Option Int) :
    (expireIf store key lifetime).lookup other =
      if other = key then
        match lifetime with
        | none => store.lookup key
        | some seconds =>
          if 0 < seconds then
            (store.lookup key).map fun entry => { entry with expiresAt := store.deadline seconds }
          else none
      else store.lookup other := by
  cases lifetime with
  | none => by_cases same : other = key <;> simp [expireIf, same]
  | some seconds => exact Keyspace.lookup_expire store key other seconds

@[simp] theorem now_expireIf (key : Key) (lifetime : Option Int) :
    (expireIf store key lifetime).now = store.now := by
  cases lifetime <;> simp [expireIf]

theorem lookup_writeRecord_other (call : Upsert) {other : Key} (different : other ≠ call.key) :
    (writeRecord store call).lookup other = store.lookup other := by
  simp only [writeRecord, lookup_expireIf, if_neg different]
  split
  · simp [Keyspace.lookup_update, different]
  · simp [Keyspace.lookup_set, different]

@[simp] theorem now_writeRecord (call : Upsert) : (writeRecord store call).now = store.now := by
  simp only [writeRecord, now_expireIf]
  split <;> simp

theorem lookup_writeHelper (call : Upsert) (helperKey : Key) {other : Key}
    (different : other ≠ helperKey) :
    (writeHelper store call helperKey).lookup other = store.lookup other := by
  simp [writeHelper, lookup_expireIf, Keyspace.lookup_set, different]

theorem lookup_writeHelpers (call : Upsert) {other : Key} (notUserCode : other.kind ≠ .userCode)
    (notUid : other.kind ≠ .uid) :
    (writeHelpers store call).lookup other = store.lookup other := by
  have notUserCodeKey : ∀ userCode, other ≠ userCodeKeyFor userCode := by
    rintro userCode rfl
    exact notUserCode rfl
  have notUidKey : ∀ uid, other ≠ uidKeyFor uid := by
    rintro uid rfl
    exact notUid rfl
  simp only [writeHelpers]
  split <;> split <;> simp [lookup_writeHelper, notUserCodeKey, notUidKey]

theorem lookup_appendToGrant_other (call : Upsert) (grantId : String) (ttl : Int) {other : Key}
    (different : other ≠ grantKeyFor grantId) :
    (appendToGrant store call grantId ttl).lookup other = store.lookup other := by
  simp [appendToGrant, lookup_expireIf, Keyspace.lookup_update, different]

end

def Upsert.value (call : Upsert) (store : Store) : Value :=
  if consumable call.name then
    match store.lookup call.key with
    | none => .hash (some call.payload) none
    | some entry => setPayload call.payload entry.value
  else .payload call.payload

/-- When the record that an upsert writes expires. Without a lifetime a hash keeps its expiry. -/
def Upsert.expiresAt (call : Upsert) (store : Store) : WithTop Nat :=
  match call.lifetime with
  | some seconds => store.deadline seconds
  | none =>
    if consumable call.name then
      match store.lookup call.key with
      | none => ⊤
      | some entry => entry.expiresAt
    else ⊤

theorem lookup_writeRecord (store : Store) (call : Upsert) :
    (writeRecord store call).lookup call.key =
      if call.lifetime.all (fun seconds => 0 < seconds) then
        some ⟨call.value store, call.expiresAt store⟩
      else none := by
  simp only [writeRecord, lookup_expireIf, Upsert.value, Upsert.expiresAt, if_true]
  cases consumable call.name with
  | false =>
    cases call.lifetime <;> simp [Keyspace.lookup_set, Keyspace.deadline]
  | true =>
    simp only [if_true, Keyspace.lookup_update, Keyspace.deadline]
    cases call.lifetime <;> cases store.lookup call.key <;> simp

def Upsert.grantEntry (call : Upsert) (store : Store) (grantId : String) :
    Keyspace.Entry Value :=
  match store.lookup (grantKeyFor grantId) with
  | none => ⟨.list [call.key], ⊤⟩
  | some entry => { entry with value := rpush call.key entry.value }

theorem lookup_appendToGrant (store : Store) (call : Upsert) (grantId : String) (ttl : Int) :
    (appendToGrant store call grantId ttl).lookup (grantKeyFor grantId) =
      match call.extension ttl with
      | none => some (call.grantEntry store grantId)
      | some seconds =>
        if 0 < seconds then
          some { call.grantEntry store grantId with expiresAt := store.deadline seconds }
        else none := by
  simp only [appendToGrant, lookup_expireIf, if_true, Keyspace.lookup_update, Upsert.grantEntry,
    Keyspace.deadline, Keyspace.now_update]
  cases call.extension ttl <;> cases store.lookup (grantKeyFor grantId) <;> simp

def Typed (key : Key) (value : Value) : Prop :=
  match key.kind with
  | .grant => ∃ keys, value = .list keys
  | .record name => consumable name = true → ∃ payload consumed, value = .hash payload consumed
  | _ => True

theorem each_expireIf {holds : Key → Value → Prop} {store : Store}
    (each : Keyspace.Each holds store) (key : Key) (lifetime : Option Int) :
    Keyspace.Each holds (expireIf store key lifetime) := by
  cases lifetime with
  | none => exact each
  | some seconds => exact each.expire key seconds

structure KeptBy (holds : Key → Value → Prop) (call : Upsert) : Prop where
  payload : consumable call.name = false → holds call.key (.payload call.payload)
  hash : consumable call.name = true → holds call.key (.hash (some call.payload) none)
  setPayload : consumable call.name = true → ∀ value, holds call.key value →
    holds call.key (setPayload call.payload value)
  list : ∀ grantId, holds (grantKeyFor grantId) (.list [call.key])
  rpush : ∀ grantId value, holds (grantKeyFor grantId) value →
    holds (grantKeyFor grantId) (rpush call.key value)
  userCode : ∀ userCode, holds (userCodeKeyFor userCode) (.id call.id)
  uid : ∀ uid, holds (uidKeyFor uid) (.id call.id)

section Each

variable {holds : Key → Value → Prop} {store : Store} {call : Upsert}

section

variable (each : Keyspace.Each holds store)
include each

theorem each_writeRecord (kept : KeptBy holds call) :
    Keyspace.Each holds (writeRecord store call) := by
  refine each_expireIf ?_ _ _
  split
  next consumes => exact each.update (kept.hash consumes) (kept.setPayload consumes)
  next notConsumable =>
    exact each.set (kept.payload (Bool.eq_false_iff.mpr notConsumable))

theorem each_writeHelpers (kept : KeptBy holds call) :
    Keyspace.Each holds (writeHelpers store call) := by
  have helper : ∀ {store : Store} {helperKey : Key}, Keyspace.Each holds store →
      holds helperKey (.id call.id) → Keyspace.Each holds (writeHelper store call helperKey) :=
    fun each isHelper => each_expireIf (each.set isHelper) _ _
  simp only [writeHelpers]
  split <;> split
  · exact each
  · exact helper each (kept.userCode _)
  · exact helper each (kept.uid _)
  · exact helper (helper each (kept.userCode _)) (kept.uid _)

theorem each_execUngranted (kept : KeptBy holds call) :
    Keyspace.Each holds (execUngranted store call) :=
  each_writeHelpers (each_writeRecord each kept) kept

theorem each_exec (kept : KeptBy holds call) (grantId : String) (ttl : Int) :
    Keyspace.Each holds (exec store call grantId ttl) := by
  refine each_writeHelpers (each_expireIf ?_ _ _) kept
  exact (each_writeRecord each kept).update (kept.list grantId) (kept.rpush grantId)

end

end Each

theorem typed_keptBy (call : Upsert) : KeptBy Typed call where
  payload notConsumable consumes := by
    rw [notConsumable] at consumes
    cases consumes
  hash _ _ := ⟨_, _, rfl⟩
  setPayload consumes value isTyped _ := by
    obtain ⟨payload, consumed, rfl⟩ := isTyped consumes
    exact ⟨_, _, rfl⟩
  list _ := ⟨_, rfl⟩
  rpush := by
    rintro grantId value ⟨keys, rfl⟩
    exact ⟨_, rfl⟩
  userCode _ := trivial
  uid _ := trivial

theorem typed_consume {store after : Store} (typed : Keyspace.Each Typed store) {name : ModelName}
    {id : String} (consumed : consume store name id = .ok after) :
    Keyspace.Each Typed after := by
  simp only [consume] at consumed
  split at consumed
  · cases consumed
    exact typed
  · split at consumed
    · cases consumed
      exact typed.set fun _ => ⟨_, _, rfl⟩
    · cases consumed
      refine typed.update (fun _ => ⟨_, _, rfl⟩) ?_
      intro value isTyped consumes
      obtain ⟨payload, seconds, rfl⟩ := isTyped consumes
      exact ⟨_, _, rfl⟩
    · cases consumed

end ParakoId.RedisAdapter
