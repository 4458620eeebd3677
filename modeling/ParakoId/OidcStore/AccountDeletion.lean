import ParakoId.OidcStore.Mongo
import ParakoId.OidcStore.Prisma
import ParakoId.OidcStore.Redis

/-!
The deletion of everything that an account has of one model, as the admin services of the three
adapters do it.
-/

namespace ParakoId.OidcStore

open RedisAdapter (ModelName OIDCPayload Store Value Key Upsert key grantKeyFor userCodeKeyFor
  uidKeyFor consumable)
open Tables (FirstRow firstInserted)

def accountOf (name : ModelName) (payload : OIDCPayload) : Option String :=
  if name = .Interaction then payload.sessionAccountId else payload.accountId

inductive Change
  | upsert (call : Upsert)
  | wait (milliseconds : Nat)

def DeletedExactly (name : ModelName) (account : String)
    (before after : ModelName → String → Option OIDCPayload) : Prop :=
  ∀ model id, after model id =
    (before model id).filter fun payload =>
      ¬(model = name ∧ accountOf model payload = some account)

def Prisma.deleteByAccountId (name : ModelName) (account : String) (table : Prisma.Table) :
    Prisma.Table :=
  { table with
    rows := table.rows.filter fun key row => ¬(key.1 = name ∧ row.account_id = some account) }

def Prisma.change (table : Prisma.Table) : Change → Prisma.Table
  | .upsert call => Prisma.upsert call.name call.id call.payload call.expiresIn table
  | .wait milliseconds => { table with now := table.now + milliseconds }

def Prisma.held (table : Prisma.Table) (name : ModelName) (id : String) : Option OIDCPayload :=
  (table.rows.get (name, id)).map Prisma.Row.payload

def Mongo.deleteByAccountId (name : ModelName) (account : String)
    (database : ModelName → Mongo.Collection) : ModelName → Mongo.Collection :=
  Function.update database name
    { database name with
      documents := (database name).documents.filter fun _ document =>
        (if name = .Interaction then document.payload.sessionAccountId
          else document.payload.accountId) ≠ some account }

def Mongo.change (first : FirstRow (String × Mongo.Document)) (tenantId : String)
    (database : ModelName → Mongo.Collection) : Change → ModelName → Mongo.Collection
  | .upsert call =>
    Function.update database call.name
      (Mongo.upsert first call.name tenantId call.id call.payload call.expiresIn
        (database call.name)).2
  | .wait milliseconds =>
    fun name => { database name with now := (database name).now + milliseconds }

def Mongo.held (database : ModelName → Mongo.Collection) (name : ModelName)
    (documentId : String) : Option OIDCPayload :=
  ((database name).documents.get documentId).map Mongo.Document.payload

/-- What `GET` reads is decoded; of a hash it reads nothing. -/
def Redis.matchesAccount (name : ModelName) (account : String) : Value → Bool
  | .payload payload =>
    decide ((if name = .Interaction then payload.sessionAccountId else payload.accountId) =
      some account)
  | _ => false

def Redis.deleteByAccountId (name : ModelName) (account : String) (store : Store) : Store :=
  store.retain fun key value =>
    ¬(key.kind = .record name ∧ Redis.matchesAccount name account value = true)

def Redis.change (store : Store) : Change → Store
  | .upsert call => Redis.upsert store call
  | .wait milliseconds => store.wait milliseconds

def Redis.payloadOf : Value → Option OIDCPayload
  | .payload payload => some payload
  | .hash payload _ => payload
  | _ => none

def Redis.held (store : Store) (name : ModelName) (id : String) : Option OIDCPayload :=
  (store.lookup (key name id)).bind fun entry => Redis.payloadOf entry.value

theorem Prisma.changes_consistent (changes : List Change) {table : Prisma.Table}
    (consistent : ∀ key row, table.rows.get key = some row → row.Consistent) :
    ∀ key row, (changes.foldl Prisma.change table).rows.get key = some row →
      row.Consistent := by
  induction changes generalizing table with
  | nil => exact consistent
  | cons change rest ih =>
    apply ih
    cases change with
    | upsert call =>
      intro key row isRow
      rw [Prisma.change, Prisma.upsert_eq, InsertionMap.get_set] at isRow
      split at isRow
      · injection isRow with isNew
        rw [← isNew]
        exact ⟨rfl, rfl, rfl, rfl⟩
      · exact consistent key row isRow
    | wait milliseconds => exact consistent

theorem Prisma.start_consistent (now : Nat) (key : ModelName × String) (row : Prisma.Row)
    (isRow : (Prisma.Table.start now).rows.get key = some row) : row.Consistent := by
  cases isRow

theorem filter_eq_filter_iff {Item : Type} {found : Option Item} {first second : Item → Bool} :
    found.filter first = found.filter second ↔
      ∀ item, found = some item → first item = second item := by
  cases found with
  | none => simp
  | some item =>
    cases isFirst : first item <;> cases isSecond : second item <;>
      simp [Option.filter, isFirst, isSecond]

theorem Prisma.held_after {table : Prisma.Table}
    (consistent : ∀ key row, table.rows.get key = some row → row.Consistent)
    (name model : ModelName) (account id : String) :
    Prisma.held (Prisma.deleteByAccountId name account table) model id =
      (Prisma.held table model id).filter fun payload =>
        ¬(model = name ∧ payload.accountId = some account) := by
  rw [Prisma.held, Prisma.deleteByAccountId, InsertionMap.get_filter, Prisma.held]
  cases isRow : table.rows.get (model, id) with
  | none => rfl
  | some row =>
    have isColumn := (consistent _ row isRow).account_id
    by_cases deleted : model = name ∧ row.payload.accountId = some account <;>
      simp [Option.filter, isColumn, deleted]

theorem Prisma.deletedExactly_iff {table : Prisma.Table}
    (consistent : ∀ key row, table.rows.get key = some row → row.Consistent) (name : ModelName)
    (account : String) :
    DeletedExactly name account (Prisma.held table)
        (Prisma.held (Prisma.deleteByAccountId name account table)) ↔
      (name = .Interaction → ∀ id payload, Prisma.held table name id = some payload →
        (payload.accountId = some account ↔ payload.sessionAccountId = some account)) := by
  simp only [DeletedExactly, Prisma.held_after consistent, filter_eq_filter_iff,
    decide_eq_decide, not_iff_not]
  constructor
  · rintro same rfl id payload isHeld
    simpa [accountOf] using same .Interaction id payload isHeld
  · intro same model id payload isHeld
    by_cases isModel : model = name
    · by_cases isInteraction : name = .Interaction
      · have agree := same isInteraction id payload (by rwa [← isModel])
        simp [isModel, isInteraction, accountOf, agree]
      · simp [isModel, isInteraction, accountOf]
    · simp [isModel]

theorem Mongo.deletedExactly (database : ModelName → Mongo.Collection) (name : ModelName)
    (account : String) :
    DeletedExactly name account (Mongo.held database)
      (Mongo.held (Mongo.deleteByAccountId name account database)) := by
  intro model documentId
  by_cases isModel : model = name
  · subst isModel
    rw [Mongo.held, Mongo.deleteByAccountId, Function.update_self, InsertionMap.get_filter,
      Mongo.held]
    cases (database model).documents.get documentId with
    | none => rfl
    | some document =>
      by_cases deleted : accountOf model document.payload = some account
      · have same := deleted
        rw [accountOf] at same
        simp [Option.filter, deleted, same]
      · have different := deleted
        rw [accountOf] at different
        simp [Option.filter, deleted, different]
  · rw [Mongo.held, Mongo.deleteByAccountId, Function.update_of_ne isModel, ← Mongo.held]
    cases Mongo.held database model documentId <;> simp [Option.filter, isModel]

def Redis.Recorded (key : Key) (value : Value) : Prop :=
  match key.kind with
  | .record name =>
    if consumable name then ∃ payload consumed, value = .hash (some payload) consumed
    else ∃ payload, value = .payload payload
  | _ => True

theorem Redis.recorded_keptBy (call : Upsert) : RedisAdapter.KeptBy Redis.Recorded call where
  payload notConsumable := by simp [Redis.Recorded, Upsert.key, key, notConsumable]
  hash consumes := by simp [Redis.Recorded, Upsert.key, key, consumes]
  setPayload consumes value isRecord := by
    simp only [Redis.Recorded, Upsert.key, key, consumes, if_true] at isRecord ⊢
    obtain ⟨payload, consumed, rfl⟩ := isRecord
    exact ⟨_, _, rfl⟩
  list _ := trivial
  rpush _ _ _ := trivial
  userCode _ := trivial
  uid _ := trivial

theorem Redis.changes_recorded (changes : List Change) {store : Store}
    (recorded : Keyspace.Each Redis.Recorded store) :
    Keyspace.Each Redis.Recorded (changes.foldl Redis.change store) := by
  induction changes generalizing store with
  | nil => exact recorded
  | cons change rest ih =>
    apply ih
    cases change with
    | upsert call => exact Redis.each_upsert recorded (Redis.recorded_keptBy call)
    | wait milliseconds => exact recorded.wait milliseconds

theorem Redis.held_after {store : Store} (recorded : Keyspace.Each Redis.Recorded store)
    (name model : ModelName) (account id : String) :
    Redis.held (Redis.deleteByAccountId name account store) model id =
      (Redis.held store model id).filter fun payload =>
        ¬(model = name ∧ consumable name = false ∧ accountOf model payload = some account) := by
  rw [Redis.held, Redis.deleteByAccountId, Keyspace.lookup_retain, Redis.held]
  cases found : store.lookup (key model id) with
  | none => rfl
  | some entry =>
    have isRecord := recorded _ entry found
    simp only [Redis.Recorded, key] at isRecord
    by_cases isModel : model = name
    · subst isModel
      cases consumes : consumable model with
      | false =>
        simp only [consumes, Bool.false_eq_true, if_false] at isRecord
        obtain ⟨payload, isPayload⟩ := isRecord
        by_cases deleted : accountOf model payload = some account
        · have same := deleted
          rw [accountOf] at same
          simp [Option.filter, key, Redis.matchesAccount, Redis.payloadOf, isPayload, deleted,
            same]
        · have different := deleted
          rw [accountOf] at different
          simp [Option.filter, key, Redis.matchesAccount, Redis.payloadOf, isPayload, deleted,
            different]
      | true =>
        simp only [consumes, if_true] at isRecord
        obtain ⟨payload, consumed, isHash⟩ := isRecord
        simp [Option.filter, Redis.matchesAccount, Redis.payloadOf, isHash]
    · cases isPayload : Redis.payloadOf entry.value <;>
        simp [Option.filter, key, isModel, isPayload]

theorem Redis.deletedExactly_iff {store : Store} (recorded : Keyspace.Each Redis.Recorded store)
    (name : ModelName) (account : String) :
    DeletedExactly name account (Redis.held store)
        (Redis.held (Redis.deleteByAccountId name account store)) ↔
      (consumable name = true → ∀ id payload, Redis.held store name id = some payload →
        payload.accountId ≠ some account) := by
  simp only [DeletedExactly, Redis.held_after recorded, filter_eq_filter_iff, decide_eq_decide,
    not_iff_not]
  constructor
  · intro same consumes id payload isHeld belongs
    have notInteraction : name ≠ .Interaction := by
      rintro rfl
      cases consumes
    have deleted := (same name id payload isHeld).mpr
      ⟨rfl, by rwa [accountOf, if_neg notInteraction]⟩
    rw [consumes] at deleted
    cases deleted.2.1
  · intro none model id payload isHeld
    constructor
    · exact fun deleted => ⟨deleted.1, deleted.2.2⟩
    · rintro ⟨rfl, belongs⟩
      refine ⟨rfl, ?_, belongs⟩
      cases consumes : consumable model with
      | false => rfl
      | true =>
        have notInteraction : model ≠ .Interaction := by
          rintro rfl
          cases consumes
        rw [accountOf, if_neg notInteraction] at belongs
        exact absurd belongs (none consumes id payload isHeld)

/-- All three delete exactly what is the account's where no interaction has its account in
another place than its session and the model is not kept in hashes. -/
theorem account_deletion_iff (first : FirstRow (String × Mongo.Document)) (tenantId : String)
    (now : Nat) (changes : List Change) (name : ModelName) (account : String) :
    let table := changes.foldl Prisma.change (Prisma.Table.start now)
    let database := changes.foldl (Mongo.change first tenantId) fun _ => Mongo.Collection.start now
    let store := changes.foldl Redis.change (Keyspace.empty now)
    (DeletedExactly name account (Prisma.held table)
        (Prisma.held (Prisma.deleteByAccountId name account table)) ∧
      DeletedExactly name account (Mongo.held database)
        (Mongo.held (Mongo.deleteByAccountId name account database)) ∧
      DeletedExactly name account (Redis.held store)
        (Redis.held (Redis.deleteByAccountId name account store))) ↔
      (name = .Interaction → ∀ id payload, Prisma.held table name id = some payload →
        (payload.accountId = some account ↔ payload.sessionAccountId = some account)) ∧
      (consumable name = true → ∀ id payload, Redis.held store name id = some payload →
        payload.accountId ≠ some account) := by
  intro table database store
  have consistent := Prisma.changes_consistent changes (Prisma.start_consistent now)
  have recorded := Redis.changes_recorded changes (Keyspace.each_empty now)
  rw [Prisma.deletedExactly_iff consistent, Redis.deletedExactly_iff recorded]
  have mongo := Mongo.deletedExactly database name account
  exact ⟨fun all => ⟨all.1, all.2.2⟩, fun both => ⟨both.1, mongo, both.2⟩⟩

def signedInPayload : OIDCPayload :=
  { grantId := none, userCode := none, uid := none, accountId := some "ada", consumed := none,
    others := "" }

def interactionPayload : OIDCPayload :=
  { grantId := none, userCode := none, uid := none, sessionAccountId := some "ada",
    consumed := none, others := "" }

theorem account_data_left :
    let refreshToken := Redis.change (Keyspace.empty 0)
      (.upsert ⟨.RefreshToken, "token", signedInPayload, some 3600⟩)
    let interaction := Prisma.change (Prisma.Table.start 0)
      (.upsert ⟨.Interaction, "interaction", interactionPayload, some 3600⟩)
    Redis.held (Redis.deleteByAccountId .RefreshToken "ada" refreshToken) .RefreshToken "token" =
        some signedInPayload ∧
      Prisma.held (Prisma.deleteByAccountId .Interaction "ada" interaction) .Interaction
        "interaction" = some interactionPayload ∧
      ¬DeletedExactly .RefreshToken "ada" (Redis.held refreshToken)
        (Redis.held (Redis.deleteByAccountId .RefreshToken "ada" refreshToken)) ∧
      ¬DeletedExactly .Interaction "ada" (Prisma.held interaction)
        (Prisma.held (Prisma.deleteByAccountId .Interaction "ada" interaction)) := by
  refine ⟨rfl, rfl, ?_, ?_⟩
  · intro deleted
    exact absurd (deleted .RefreshToken "token") (by decide)
  · intro deleted
    exact absurd (deleted .Interaction "interaction") (by decide)

end ParakoId.OidcStore
