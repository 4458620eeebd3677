import ParakoId.Library.Tables
import ParakoId.OidcStore.Reference

/-!
The Prisma adapter: the rows of one tenant in the table of all models, with the properties that
are looked up in columns of their own.
-/

namespace ParakoId.OidcStore.Prisma

open RedisAdapter (ModelName OIDCPayload)
open Tables (FirstRow)

structure Row where
  payload : OIDCPayload
  grant_id : Option String
  user_code : Option String
  uid : Option String
  account_id : Option String
  -- milliseconds
  consumed : Option Nat
  expires_at : WithTop Int

structure Table where
  now : Nat
  rows : InsertionMap (ModelName × String) Row

def Table.start (now : Nat) : Table := ⟨now, .empty⟩

def Table.notExpired (table : Table) (row : Row) : Bool := isAhead table.now row.expires_at

def upsert (name : ModelName) (id : String) (payload : OIDCPayload) (expiresIn : Option Int)
    (table : Table) : Table :=
  let data : Row :=
    { payload := payload
      grant_id := payload.grantId
      user_code := payload.userCode
      uid := payload.uid
      account_id := payload.accountId
      consumed := none
      expires_at := expiry table.now expiresIn }
  match table.rows.get (name, id) with
  | some existing =>
    -- an update leaves the column alone
    { table with rows := table.rows.set (name, id) { data with consumed := existing.consumed } }
  | none => { table with rows := table.rows.set (name, id) data }

def find (name : ModelName) (id : String) (table : Table) : Option Found :=
  ((table.rows.get (name, id)).filter table.notExpired).map fun row =>
    found row.payload (row.consumed.map (· / 1000))

def findFirst (first : FirstRow Row) (name : ModelName) (matching : Row → Bool) (table : Table) :
    Option Row :=
  first.pick ((table.rows.entries.filter fun entry =>
    decide (entry.1.1 = name) && matching entry.2 && table.notExpired entry.2).map Prod.snd)

def findByUserCode (first : FirstRow Row) (name : ModelName) (userCode : String)
    (table : Table) : Option Found :=
  if name ≠ .DeviceCode then none
  else (findFirst first name (fun row => row.user_code = some userCode) table).map
    fun row => found row.payload none

def findByUid (first : FirstRow Row) (name : ModelName) (uid : String) (table : Table) :
    Option Found :=
  if name ≠ .Session then none
  else (findFirst first name (fun row => row.uid = some uid) table).map
    fun row => found row.payload none

def consume (name : ModelName) (id : String) (table : Table) : Table :=
  match table.rows.get (name, id) with
  | some row =>
    { table with rows := table.rows.set (name, id) { row with consumed := some table.now } }
  | none => table

def destroy (name : ModelName) (id : String) (table : Table) : Table :=
  { table with rows := table.rows.delete (name, id) }

def revokeByGrantId (name : ModelName) (grantId : String) (table : Table) : Table :=
  if grantId = "" then table
  else
    { table with
      rows := table.rows.filter fun key row => ¬(key.1 = name ∧ row.grant_id = some grantId) }

def step (first : FirstRow Row) (name : ModelName) (table : Table) : Input → Outcome × Table
  | .upsert id payload expiresIn => (.returns none, upsert name id payload expiresIn table)
  | .find id => (.returns (find name id table), table)
  | .findByUserCode userCode => (.returns (findByUserCode first name userCode table), table)
  | .findByUid uid => (.returns (findByUid first name uid table), table)
  | .consume id => (.returns none, consume name id table)
  | .destroy id => (.returns none, destroy name id table)
  | .revokeByGrantId grantId => (.returns none, revokeByGrantId name grantId table)
  | .wait milliseconds => (.returns none, { table with now := table.now + milliseconds })
  | .ttlSweep => (.returns none, table)

/-- The lookup meets one record at most, which is not in its last millisecond and has no mark
that its payload does not show. -/
structure LooksUpAlike (indexed : OIDCPayload → Option String) (value : String)
    (reference : Reference) : Prop where
  unique : reference.Unique indexed value
  ahead : ∀ id record, reference.Holds indexed value id record →
    record.expiresAt ≠ WithTop.some (reference.now : Int)
  unmarked : ∀ id record, reference.Holds indexed value id record → record.OwnMark

def Allowed (name : ModelName) (states : Table × Reference) : Input → Prop
  | .upsert id _ _ =>
    ∀ row, states.1.rows.get (name, id) = some row →
      unexpired states.1.now row.expires_at = false → row.consumed = none
  | .find id =>
    ∀ record, states.2.live id = some record →
      record.expiresAt ≠ WithTop.some (states.2.now : Int)
  | .findByUserCode userCode =>
    name = .DeviceCode → LooksUpAlike (·.userCode) userCode states.2
  | .findByUid uid => name = .Session → LooksUpAlike (·.uid) uid states.2
  | _ => True

def Row.record (row : Row) : Record := ⟨row.payload, row.expires_at, row.consumed.map (· / 1000)⟩

def Table.live (table : Table) (name : ModelName) (id : String) : Option Row :=
  (table.rows.get (name, id)).filter fun row => unexpired table.now row.expires_at

structure Row.Consistent (row : Row) : Prop where
  grant_id : row.grant_id = row.payload.grantId
  user_code : row.user_code = row.payload.userCode
  uid : row.uid = row.payload.uid
  account_id : row.account_id = row.payload.accountId

structure Related (name : ModelName) (table : Table) (reference : Reference) : Prop where
  now : table.now = reference.now
  columns : ∀ key row, table.rows.get key = some row → row.Consistent
  live : ∀ id, (table.live name id).map Row.record = reference.live id

section Operations

variable {name : ModelName} {table : Table} {reference : Reference}

theorem live_set (id other : String) (row : Row) (table : Table) :
    Table.live { table with rows := table.rows.set (name, id) row } name other =
      if other = id then (some row).filter fun row => unexpired table.now row.expires_at
      else table.live name other := by
  simp only [Table.live, InsertionMap.get_set, Prod.mk.injEq, true_and]
  split
  · rfl
  · rfl

theorem map_record_filter (now : Nat) (row : Option Row) :
    (row.filter fun row => unexpired now row.expires_at).map Row.record =
      (row.map Row.record).filter fun record => unexpired now record.expiresAt := by
  cases row with
  | none => rfl
  | some row => cases isLive : unexpired now row.expires_at <;> simp [Option.filter, Row.record, isLive]

theorem upsert_eq (id : String) (payload : OIDCPayload) (expiresIn : Option Int)
    (table : Table) :
    upsert name id payload expiresIn table = { table with
      rows := table.rows.set (name, id)
        { payload := payload
          grant_id := payload.grantId
          user_code := payload.userCode
          uid := payload.uid
          account_id := payload.accountId
          consumed := (table.rows.get (name, id)).bind Row.consumed
          expires_at := expiry table.now expiresIn } } := by
  rw [upsert]
  cases table.rows.get (name, id) with
  | none | some _ => rfl

section

variable (related : Related name table reference)
include related

theorem Related.upsert (id : String) (payload : OIDCPayload) (expiresIn : Option Int)
    (fresh : ∀ row, table.rows.get (name, id) = some row →
      unexpired table.now row.expires_at = false → row.consumed = none) :
    Related name (upsert name id payload expiresIn table)
      (reference.upsert id payload expiresIn) := by
  have sameMark : ((table.rows.get (name, id)).bind Row.consumed).map (· / 1000) =
      (reference.live id).bind Record.consumed := by
    rw [← related.live id, Table.live]
    cases isRow : table.rows.get (name, id) with
    | none => rfl
    | some row =>
      cases isLive : unexpired table.now row.expires_at with
      | false => simp [Option.filter, fresh row isRow isLive, isLive]
      | true => simp [Option.filter, Row.record, isLive]
  rw [upsert_eq]
  constructor
  · exact related.now
  · intro key row isRow
    rw [InsertionMap.get_set] at isRow
    split at isRow
    · injection isRow with isNew
      rw [← isNew]
      exact ⟨rfl, rfl, rfl, rfl⟩
    · exact related.columns key row isRow
  · intro other
    rw [live_set, Reference.live_upsert]
    split
    next =>
      rw [map_record_filter, Option.map_some, Row.record, sameMark, related.now]
      rfl
    next => exact related.live other

theorem Related.consume (id : String) :
    Related name (consume name id table) (reference.consume id) := by
  rw [Prisma.consume]
  cases isRow : table.rows.get (name, id) with
  | none =>
    have notLive : reference.live id = none := by
      rw [← related.live id, Table.live, isRow]
      rfl
    rw [Reference.consume_of_not_live notLive]
    exact related
  | some row =>
    constructor
    · exact related.now.trans (reference.now_consume id).symm
    · intro key other isOther
      rw [InsertionMap.get_set] at isOther
      split at isOther
      · injection isOther with isConsumed
        have consistent := related.columns _ row isRow
        rw [← isConsumed]
        exact ⟨consistent.grant_id, consistent.user_code, consistent.uid, consistent.account_id⟩
      · exact related.columns key other isOther
    · intro other
      rw [live_set, Reference.live_consume]
      split
      next =>
        rw [← related.live id, Table.live, isRow, ← related.now]
        cases isLive : unexpired table.now row.expires_at with
        | false => simp [Option.filter, isLive]
        | true => simp [Option.filter, Row.record, isLive]
      next => exact related.live other

theorem Related.destroy (id : String) :
    Related name (destroy name id table) (reference.destroy id) where
  now := related.now
  columns key row isRow := related.columns key row (InsertionMap.get_delete_eq_some_iff.mp isRow).2
  live other := by
    rw [Reference.live_destroy, ← related.live other]
    simp only [Table.live, Prisma.destroy, InsertionMap.get_delete, Prod.mk.injEq, true_and]
    split
    · rfl
    · rfl

theorem Related.revokeByGrantId (grantId : String) :
    Related name (revokeByGrantId name grantId table) (reference.revokeByGrantId grantId) := by
  by_cases isGrant : grantId = ""
  · rwa [Prisma.revokeByGrantId, Reference.revokeByGrantId, if_pos isGrant, if_pos isGrant]
  rw [Prisma.revokeByGrantId, if_neg isGrant]
  constructor
  · exact related.now.trans (reference.now_revokeByGrantId grantId).symm
  · intro key row isRow
    exact related.columns key row (InsertionMap.get_filter_eq_some_iff.mp isRow).1
  · intro id
    rw [Reference.live_revokeByGrantId isGrant, ← related.live id, Table.live, Table.live,
      InsertionMap.get_filter]
    cases isRow : table.rows.get (name, id) with
    | none => rfl
    | some row =>
      have isColumn := (related.columns _ row isRow).grant_id
      by_cases ofGrant : row.payload.grantId = some grantId
      · cases isLive : unexpired table.now row.expires_at <;>
          simp [Option.filter, Row.record, isLive, isColumn, ofGrant]
      · cases isLive : unexpired table.now row.expires_at <;>
          simp [Option.filter, Row.record, isLive, isColumn, ofGrant]

theorem Related.wait (milliseconds : Nat) :
    Related name { table with now := table.now + milliseconds }
      { reference with now := reference.now + milliseconds } where
  now := congrArg (· + milliseconds) related.now
  columns := related.columns
  live id := by
    rw [Reference.live_wait, ← related.live id, ← related.now, ← map_record_filter, Table.live,
      Table.live, Option.filter_filter]
    congr 2
    funext row
    cases later : unexpired (table.now + milliseconds) row.expires_at with
    | false => simp
    | true => simp [unexpired_earlier later]

end

theorem notExpired_iff {row : Row} :
    table.notExpired row = true ↔
      unexpired table.now row.expires_at = true ∧
        row.expires_at ≠ WithTop.some (table.now : Int) :=
  isAhead_iff

section

variable (related : Related name table reference)
include related

theorem Related.live_of_row {id : String} {row : Row}
    (isRow : table.rows.get (name, id) = some row)
    (isLive : unexpired table.now row.expires_at = true) :
    reference.live id = some row.record := by
  rw [← related.live id, Table.live, isRow]
  simp [Option.filter, isLive]

theorem Related.row_of_live {id : String} {record : Record}
    (isLive : reference.live id = some record) :
    ∃ row, table.rows.get (name, id) = some row ∧ row.record = record ∧
      unexpired table.now row.expires_at = true := by
  rw [← related.live id] at isLive
  obtain ⟨row, isRow, isRecord⟩ := Option.map_eq_some_iff.mp isLive
  obtain ⟨isRow, unexpired⟩ := Option.filter_eq_some_iff.mp isRow
  exact ⟨row, isRow, isRecord, unexpired⟩

theorem Related.find_eq {id : String}
    (ahead : ∀ record, reference.live id = some record →
      record.expiresAt ≠ WithTop.some (reference.now : Int)) :
    find name id table = reference.find id := by
  rw [Prisma.find, Reference.find, ← related.live id, Table.live]
  cases isRow : table.rows.get (name, id) with
  | none => rfl
  | some row =>
    cases isLive : unexpired table.now row.expires_at with
    | false =>
      have expired : table.notExpired row = false := by
        rw [Bool.eq_false_iff, ne_eq, notExpired_iff, isLive]
        simp
      simp [Option.filter, isLive, expired]
    | true =>
      have notDeadline := ahead _ (related.live_of_row isRow isLive)
      rw [← related.now] at notDeadline
      have notExpired := notExpired_iff.mpr ⟨isLive, notDeadline⟩
      simp [Option.filter, isLive, notExpired, Row.record, Record.found]

theorem Related.findFirst_eq (first : FirstRow Row) {indexed : OIDCPayload → Option String}
    {column : Row → Option String}
    (isColumn : ∀ row, row.Consistent → column row = indexed row.payload) {value : String}
    (alike : LooksUpAlike indexed value reference) :
    (findFirst first name (fun row => column row = some value) table).map
        (fun row => found row.payload none) =
      reference.findBy indexed value := by
  cases isFirst : findFirst first name (fun row => column row = some value) table with
  | none =>
    rcases reference.findBy_cases indexed value with ⟨nothing, _⟩ | ⟨id, record, holds, _⟩
    · rw [nothing, Option.map_none]
    · obtain ⟨row, isRow, isRecord, isLive⟩ := related.row_of_live holds.isLive
      have notDeadline := alike.ahead id record holds
      rw [← isRecord, ← related.now] at notDeadline
      have notExpired := notExpired_iff.mpr ⟨isLive, notDeadline⟩
      have isValue := isColumn row (related.columns _ row isRow)
      have empty := first.pick_none _ isFirst
      have passedOver := List.filter_eq_nil_iff.mp (List.map_eq_nil_iff.mp empty) _
        (InsertionMap.get_eq_some_iff.mp isRow)
      have value := holds.isValue
      rw [← isRecord] at value
      simp [notExpired, isValue, Row.record] at passedOver value
      exact absurd value passedOver
  | some row =>
    obtain ⟨entry, member, isRow⟩ := List.mem_map.mp (first.pick_mem _ _ isFirst)
    obtain ⟨inTable, selected⟩ := List.mem_filter.mp member
    simp only [Bool.and_eq_true, decide_eq_true_eq] at selected
    obtain ⟨⟨isName, isValue⟩, notExpired⟩ := selected
    obtain ⟨⟨_, id⟩, _⟩ := entry
    simp only at isName isRow
    subst isName isRow
    have isRow := InsertionMap.get_eq_some_iff.mpr inTable
    have isLive := related.live_of_row isRow (notExpired_iff.mp notExpired).1
    rw [isColumn _ (related.columns _ _ isRow)] at isValue
    have holds : reference.Holds indexed value id _ := ⟨isLive, isValue⟩
    rcases reference.findBy_cases indexed value with ⟨_, none⟩ | ⟨other, record, isHeld, found⟩
    · exact absurd holds (none id _)
    · have sameId := alike.unique id other _ record holds isHeld
      rw [← sameId] at isHeld
      have same := isLive.symm.trans isHeld.isLive
      injection same with same
      rw [found, Option.map_some, ← same]
      rw [(alike.unmarked id _ holds).found]
      rfl

end

end Operations

open Simulations (Simulates)

theorem simulates (first : FirstRow Row) (name : ModelName) :
    Simulates (step first name) (Reference.step name) (Related name) (Allowed name) where
  output table reference input related allowed := by
    cases input with
    | find id =>
      simp only [step, Reference.step]
      rw [related.find_eq allowed]
    | findByUserCode userCode =>
      simp only [step, Reference.step, findByUserCode]
      by_cases isModel : name = .DeviceCode
      · rw [if_neg (not_not.mpr isModel), if_pos isModel]
        rw [related.findFirst_eq first (fun _ row => row.user_code) (allowed isModel)]
      · rw [if_pos isModel, if_neg isModel]
    | findByUid uid =>
      simp only [step, Reference.step, findByUid]
      by_cases isModel : name = .Session
      · rw [if_neg (not_not.mpr isModel), if_pos isModel]
        rw [related.findFirst_eq first (fun _ row => row.uid) (allowed isModel)]
      · rw [if_pos isModel, if_neg isModel]
    | _ => rfl
  related table reference input related allowed := by
    cases input with
    | upsert id payload expiresIn => exact related.upsert id payload expiresIn allowed
    | consume id => exact related.consume id
    | destroy id => exact related.destroy id
    | revokeByGrantId grantId => exact related.revokeByGrantId grantId
    | wait milliseconds => exact related.wait milliseconds
    | _ => exact related

theorem start_related (name : ModelName) (now : Nat) :
    Related name (Table.start now) (Reference.start now) where
  now := rfl
  columns _ _ isRow := by cases isRow
  live _ := rfl

end ParakoId.OidcStore.Prisma
