import ParakoId.Library.InsertionMap
import ParakoId.Library.Simulations
import ParakoId.RedisAdapter.Adapter

/-!
What the storage adapters of `oidc-provider` are for: the records of one model, each a payload
with an optional expiry and a consumed mark, kept by id and looked up by user code and uid.
-/

namespace ParakoId.OidcStore

open RedisAdapter (ModelName OIDCPayload)

inductive Input
  | upsert (id : String) (payload : OIDCPayload) (expiresIn : Option Int)
  | find (id : String)
  | findByUserCode (userCode : String)
  | findByUid (uid : String)
  | consume (id : String)
  | destroy (id : String)
  | revokeByGrantId (grantId : String)
  | wait (milliseconds : Nat)
  -- the TTL monitor of a MongoDB server, which other databases do not have
  | ttlSweep

inductive Mark
  | number (seconds : Nat)
  | text (seconds : Nat)
  deriving DecidableEq

structure Found where
  payload : OIDCPayload
  consumed : Option Mark
  deriving DecidableEq

def found (payload : OIDCPayload) (mark : Option Nat) : Found :=
  ⟨{ payload with consumed := none }, (mark <|> payload.consumed).map .number⟩

inductive Outcome
  | returns (result : Option Found)
  | throws
  deriving DecidableEq

/-- `expiresIn ? new Date(Date.now() + expiresIn * 1000) : null`, with `⊤` for no date. -/
def expiry (now : Nat) (expiresIn : Option Int) : WithTop Int :=
  match expiresIn.filter fun seconds => seconds ≠ 0 with
  | some seconds => WithTop.some (now + 1000 * seconds)
  | none => ⊤

def unexpired (now : Nat) : WithTop Int → Bool
  | none => true
  | some time => decide ((now : Int) ≤ time)

def isAhead (now : Nat) : WithTop Int → Bool
  | none => true
  | some time => decide ((now : Int) < time)

theorem unexpired_earlier {now : Nat} {expiresAt : WithTop Int} {milliseconds : Nat}
    (later : unexpired (now + milliseconds) expiresAt = true) : unexpired now expiresAt = true := by
  cases expiresAt with
  | top => rfl
  | coe time =>
    have before : ((now + milliseconds : Nat) : Int) ≤ time := of_decide_eq_true later
    exact decide_eq_true (by omega)

theorem isAhead_iff {now : Nat} {expiresAt : WithTop Int} :
    isAhead now expiresAt = true ↔
      unexpired now expiresAt = true ∧ expiresAt ≠ WithTop.some (now : Int) := by
  cases expiresAt with
  | top => exact ⟨fun _ => ⟨rfl, WithTop.top_ne_coe⟩, fun _ => rfl⟩
  | coe time =>
    constructor
    · intro ahead
      have order : (now : Int) < time := of_decide_eq_true ahead
      refine ⟨decide_eq_true (by omega), ?_⟩
      intro same
      have equal : time = (now : Int) := WithTop.coe_inj.mp same
      omega
    · rintro ⟨isLive, notNow⟩
      have order : (now : Int) ≤ time := of_decide_eq_true isLive
      have different : time ≠ (now : Int) := fun same => notNow (congrArg WithTop.some same)
      exact decide_eq_true (by omega)

structure Record where
  payload : OIDCPayload
  expiresAt : WithTop Int
  consumed : Option Nat

structure Reference where
  now : Nat
  records : InsertionMap String Record

def Reference.start (now : Nat) : Reference := ⟨now, .empty⟩

def Record.found (record : Record) : Found := OidcStore.found record.payload record.consumed

def Record.OwnMark (record : Record) : Prop :=
  record.consumed = none ∨ record.consumed = record.payload.consumed

theorem Record.OwnMark.found {record : Record} (own : record.OwnMark) :
    record.found = OidcStore.found record.payload none := by
  rcases own with unmarked | same
  · rw [Record.found, unmarked]
  · rw [Record.found, same, OidcStore.found, OidcStore.found]
    cases record.payload.consumed with
    | none | some _ => rfl

namespace Reference

def isLive (reference : Reference) (record : Record) : Bool :=
  unexpired reference.now record.expiresAt

def live (reference : Reference) (id : String) : Option Record :=
  (reference.records.get id).filter reference.isLive

def upsert (id : String) (payload : OIDCPayload) (expiresIn : Option Int)
    (reference : Reference) : Reference :=
  let mark := (reference.live id).bind Record.consumed
  { reference with
    records := reference.records.set id ⟨payload, expiry reference.now expiresIn, mark⟩ }

def find (id : String) (reference : Reference) : Option Found :=
  (reference.live id).map Record.found

def findBy (indexed : OIDCPayload → Option String) (value : String) (reference : Reference) :
    Option Found :=
  (reference.records.entries.find? fun entry =>
    reference.isLive entry.2 && decide (indexed entry.2.payload = some value)).map
      fun entry => entry.2.found

def consume (id : String) (reference : Reference) : Reference :=
  match reference.live id with
  | some record =>
    { reference with
      records := reference.records.set id
        { record with consumed := some (reference.now / 1000) } }
  | none => reference

def destroy (id : String) (reference : Reference) : Reference :=
  { reference with records := reference.records.delete id }

def revokeByGrantId (grantId : String) (reference : Reference) : Reference :=
  if grantId = "" then reference
  else
    { reference with
      records := reference.records.filter fun _ record => record.payload.grantId ≠ some grantId }

def step (name : ModelName) (reference : Reference) : Input → Outcome × Reference
  | .upsert id payload expiresIn => (.returns none, reference.upsert id payload expiresIn)
  | .find id => (.returns (reference.find id), reference)
  | .findByUserCode userCode =>
    (.returns (if name = .DeviceCode then reference.findBy (·.userCode) userCode else none),
      reference)
  | .findByUid uid =>
    (.returns (if name = .Session then reference.findBy (·.uid) uid else none), reference)
  | .consume id => (.returns none, reference.consume id)
  | .destroy id => (.returns none, reference.destroy id)
  | .revokeByGrantId grantId => (.returns none, reference.revokeByGrantId grantId)
  | .wait milliseconds =>
    (.returns none, { reference with now := reference.now + milliseconds })
  | .ttlSweep => (.returns none, reference)

@[simp] theorem now_consume (id : String) (reference : Reference) :
    (reference.consume id).now = reference.now := by
  rw [consume]
  split
  · rfl
  · rfl

@[simp] theorem now_revokeByGrantId (grantId : String) (reference : Reference) :
    (reference.revokeByGrantId grantId).now = reference.now := by
  rw [revokeByGrantId]
  split
  · rfl
  · rfl

theorem consume_of_not_live {id : String} {reference : Reference}
    (notLive : reference.live id = none) : reference.consume id = reference := by
  rw [consume, notLive]

theorem live_upsert (id other : String) (payload : OIDCPayload) (expiresIn : Option Int)
    (reference : Reference) :
    (reference.upsert id payload expiresIn).live other =
      if other = id then
        (some ⟨payload, expiry reference.now expiresIn,
          (reference.live id).bind Record.consumed⟩).filter reference.isLive
      else reference.live other := by
  simp only [live, upsert, InsertionMap.get_set]
  split
  · rfl
  · rfl

theorem live_consume (id other : String) (reference : Reference) :
    (reference.consume id).live other =
      if other = id then
        (reference.live id).map fun record =>
          { record with consumed := some (reference.now / 1000) }
      else reference.live other := by
  rw [consume]
  split
  next record isLive =>
    simp only [live, InsertionMap.get_set]
    split
    next same =>
      rw [← live, isLive, Option.map_some]
      exact Option.filter_eq_some_iff.mpr ⟨rfl, (Option.filter_eq_some_iff.mp isLive).2⟩
    next => rfl
  next notLive =>
    split
    next same => rw [same, notLive, Option.map_none]
    next => rfl

theorem live_destroy (id other : String) (reference : Reference) :
    (reference.destroy id).live other = if other = id then none else reference.live other := by
  simp only [live, destroy, InsertionMap.get_delete]
  split
  · rfl
  · rfl

theorem live_revokeByGrantId {grantId : String} (isGrant : grantId ≠ "") (other : String)
    (reference : Reference) :
    (reference.revokeByGrantId grantId).live other =
      (reference.live other).filter fun record => record.payload.grantId ≠ some grantId := by
  simp only [live, revokeByGrantId, if_neg isGrant, InsertionMap.get_filter, Option.filter_filter]
  congr 1
  funext record
  exact Bool.and_comm _ _

theorem live_wait (milliseconds : Nat) (id : String) (reference : Reference) :
    ({ reference with now := reference.now + milliseconds } : Reference).live id =
      (reference.live id).filter fun record =>
        unexpired (reference.now + milliseconds) record.expiresAt := by
  simp only [live, Option.filter_filter]
  congr 1
  funext record
  cases later : unexpired (reference.now + milliseconds) record.expiresAt with
  | false => simp [isLive, later]
  | true => simp [isLive, later, unexpired_earlier later]

structure Holds (indexed : OIDCPayload → Option String) (value : String) (reference : Reference)
    (id : String) (record : Record) : Prop where
  isLive : reference.live id = some record
  isValue : indexed record.payload = some value

def Unique (indexed : OIDCPayload → Option String) (value : String) (reference : Reference) :
    Prop :=
  ∀ id other record record', reference.Holds indexed value id record →
    reference.Holds indexed value other record' → id = other

theorem live_eq_some_iff {id : String} {record : Record} {reference : Reference} :
    reference.live id = some record ↔
      (id, record) ∈ reference.records.entries ∧ reference.isLive record = true := by
  rw [live, Option.filter_eq_some_iff, InsertionMap.get_eq_some_iff]

theorem findBy_cases (indexed : OIDCPayload → Option String) (value : String)
    (reference : Reference) :
    (reference.findBy indexed value = none ∧
        ∀ id record, ¬reference.Holds indexed value id record) ∨
      ∃ id record, reference.Holds indexed value id record ∧
        reference.findBy indexed value = some record.found := by
  cases isFirst : reference.records.entries.find? fun entry =>
      reference.isLive entry.2 && decide (indexed entry.2.payload = some value) with
  | none =>
    refine .inl ⟨by rw [findBy, isFirst, Option.map_none], ?_⟩
    intro id record holds
    obtain ⟨member, unexpired⟩ := live_eq_some_iff.mp holds.isLive
    have passedOver := List.find?_eq_none.mp isFirst (id, record) member
    simp [unexpired, holds.isValue] at passedOver
  | some entry =>
    have selected := List.find?_some isFirst
    simp only [Bool.and_eq_true, decide_eq_true_eq] at selected
    have isLive := live_eq_some_iff.mpr ⟨List.mem_of_find?_eq_some isFirst, selected.1⟩
    exact .inr ⟨entry.1, entry.2, ⟨isLive, selected.2⟩, by rw [findBy, isFirst, Option.map_some]⟩

theorem findBy_of_none {indexed : OIDCPayload → Option String} {value : String}
    {reference : Reference} (none : ∀ id record, ¬reference.Holds indexed value id record) :
    reference.findBy indexed value = Option.none := by
  rcases reference.findBy_cases indexed value with ⟨nothing, _⟩ | ⟨id, record, holds, _⟩
  · exact nothing
  · exact absurd holds (none id record)

end Reference

end ParakoId.OidcStore
