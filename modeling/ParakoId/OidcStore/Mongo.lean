import ParakoId.Library.Tables
import ParakoId.OidcStore.Reference

/-!
The MongoDB adapter: the documents of one tenant in the collection of one model. A document past
its expiry stays until the server's TTL monitor finds it.
-/

namespace ParakoId.OidcStore.Mongo

open RedisAdapter (ModelName OIDCPayload)
open Tables (FirstRow)

structure Document where
  logical_id : String
  payload : OIDCPayload
  expiresAt : WithTop Int

structure Collection where
  now : Nat
  documents : InsertionMap String Document

def Collection.start (now : Nat) : Collection := ⟨now, .empty⟩

def tenantScopedDocumentId (tenantId logicalId : String) : String :=
  if tenantId = "default" then logicalId
  else toString (Text.utf16Length tenantId) ++ ":" ++ tenantId ++ ":" ++ logicalId

def tenantScopedIdentityFilter (tenantId logicalId : String) (entry : String × Document) : Bool :=
  decide (entry.1 = tenantScopedDocumentId tenantId logicalId) || decide (entry.1 = logicalId)

/-- What a unique index covers: the user codes of device codes and the uids of sessions, where
a missing one is a value like any other. -/
def uniqueKey (name : ModelName) (payload : OIDCPayload) : Option (Option String) :=
  match name with
  | .DeviceCode => some payload.userCode
  | .Session => some payload.uid
  | _ => none

def findOne (first : FirstRow (String × Document)) (matching : String × Document → Bool)
    (collection : Collection) : Option (String × Document) :=
  first.pick (collection.documents.entries.filter matching)

def write (name : ModelName) (documentId : String) (document : Document)
    (collection : Collection) : Outcome × Collection :=
  if collection.documents.entries.any fun other =>
      decide (other.1 ≠ documentId) && (uniqueKey name document.payload).isSome &&
        decide (uniqueKey name other.2.payload = uniqueKey name document.payload) then
    (.throws, collection)
  else
    (.returns none,
      { collection with documents := collection.documents.set documentId document })

def upsert (first : FirstRow (String × Document)) (name : ModelName) (tenantId id : String)
    (payload : OIDCPayload) (expiresIn : Option Int) (collection : Collection) :
    Outcome × Collection :=
  let expiresAt := expiry collection.now expiresIn
  match findOne first (tenantScopedIdentityFilter tenantId id) collection with
  | some (documentId, document) =>
    -- `$set` has no `expiresAt` where the call gives no lifetime
    let kept := if expiresAt = ⊤ then document.expiresAt else expiresAt
    write name documentId { document with payload := payload, expiresAt := kept } collection
  | none => write name (tenantScopedDocumentId tenantId id) ⟨id, payload, expiresAt⟩ collection

def find (first : FirstRow (String × Document)) (tenantId id : String)
    (collection : Collection) : Option Found :=
  if id = "" then none
  else (findOne first (tenantScopedIdentityFilter tenantId id) collection).map
    fun entry => found entry.2.payload none

def findByUserCode (first : FirstRow (String × Document)) (name : ModelName)
    (userCode : String) (collection : Collection) : Option Found :=
  if userCode = "" ∨ name ≠ .DeviceCode then none
  else (findOne first (fun entry => entry.2.payload.userCode = some userCode) collection).map
    fun entry => found entry.2.payload none

def findByUid (first : FirstRow (String × Document)) (name : ModelName) (uid : String)
    (collection : Collection) : Option Found :=
  if uid = "" ∨ name ≠ .Session then none
  else (findOne first (fun entry => entry.2.payload.uid = some uid) collection).map
    fun entry => found entry.2.payload none

def consume (first : FirstRow (String × Document)) (tenantId id : String)
    (collection : Collection) : Collection :=
  if id = "" then collection
  else
    match findOne first (tenantScopedIdentityFilter tenantId id) collection with
    | some (documentId, document) =>
      let marked := { document.payload with consumed := some (collection.now / 1000) }
      { collection with
        documents := collection.documents.set documentId { document with payload := marked } }
    | none => collection

def destroy (first : FirstRow (String × Document)) (tenantId id : String)
    (collection : Collection) : Collection :=
  if id = "" then collection
  else
    match findOne first (tenantScopedIdentityFilter tenantId id) collection with
    | some (documentId, _) =>
      { collection with documents := collection.documents.delete documentId }
    | none => collection

def revokeByGrantId (grantId : String) (collection : Collection) : Collection :=
  if grantId = "" then collection
  else
    { collection with
      documents := collection.documents.filter fun _ document =>
        document.payload.grantId ≠ some grantId }

def ttlSweep (collection : Collection) : Collection :=
  { collection with
    documents := collection.documents.filter fun _ document =>
      isAhead collection.now document.expiresAt }

def step (first : FirstRow (String × Document)) (name : ModelName) (tenantId : String)
    (collection : Collection) : Input → Outcome × Collection
  | .upsert id payload expiresIn =>
    upsert first name tenantId id payload expiresIn collection
  | .find id => (.returns (find first tenantId id collection), collection)
  | .findByUserCode userCode =>
    (.returns (findByUserCode first name userCode collection), collection)
  | .findByUid uid => (.returns (findByUid first name uid collection), collection)
  | .consume id => (.returns none, consume first tenantId id collection)
  | .destroy id => (.returns none, destroy first tenantId id collection)
  | .revokeByGrantId grantId => (.returns none, revokeByGrantId grantId collection)
  | .wait milliseconds =>
    (.returns none, { collection with now := collection.now + milliseconds })
  | .ttlSweep => (.returns none, ttlSweep collection)

/-- The id is not the `_id` of another record's document. -/
def Addressed (tenantId id : String) (collection : Collection) : Prop :=
  tenantScopedDocumentId tenantId id = id ∨ collection.documents.get id = none

structure UpsertsAlike (name : ModelName) (tenantId id : String) (payload : OIDCPayload)
    (expiresIn : Option Int) (collection : Collection) (reference : Reference) : Prop where
  addressed : Addressed tenantId id collection
  mark : ∀ record, reference.live id = some record →
    record.consumed = none ∨ record.consumed = payload.consumed
  expiry : ∀ document,
    collection.documents.get (tenantScopedDocumentId tenantId id) = some document →
      expiry collection.now expiresIn = ⊤ → document.expiresAt = ⊤
  unique : ∀ documentId document, collection.documents.get documentId = some document →
    documentId ≠ tenantScopedDocumentId tenantId id →
      uniqueKey name document.payload = uniqueKey name payload → uniqueKey name payload = none

structure LooksUpAlike (indexed : OIDCPayload → Option String) (value : String)
    (collection : Collection) (reference : Reference) : Prop where
  nonempty : value = "" → ∀ id record, ¬reference.Holds indexed value id record
  unique : reference.Unique indexed value
  swept : ∀ documentId document, collection.documents.get documentId = some document →
    indexed document.payload = some value → unexpired collection.now document.expiresAt = true

structure ReachesAlike (tenantId id : String) (collection : Collection) (reference : Reference) :
    Prop where
  nonempty : id = "" → reference.live id = none
  addressed : Addressed tenantId id collection

def Allowed (name : ModelName) (tenantId : String) (states : Collection × Reference) :
    Input → Prop
  | .upsert id payload expiresIn =>
    UpsertsAlike name tenantId id payload expiresIn states.1 states.2
  | .find id =>
    ReachesAlike tenantId id states.1 states.2 ∧ ∀ document,
      states.1.documents.get (tenantScopedDocumentId tenantId id) = some document →
        unexpired states.1.now document.expiresAt = true
  | .findByUserCode userCode =>
    name = .DeviceCode → LooksUpAlike (·.userCode) userCode states.1 states.2
  | .findByUid uid => name = .Session → LooksUpAlike (·.uid) uid states.1 states.2
  | .consume id | .destroy id => ReachesAlike tenantId id states.1 states.2
  | .ttlSweep =>
    ∀ documentId document, states.1.documents.get documentId = some document →
      document.expiresAt ≠ WithTop.some (states.1.now : Int)
  | _ => True

theorem tenantScopedDocumentId_injective (tenantId : String) :
    Function.Injective (tenantScopedDocumentId tenantId) := by
  intro first second same
  simp only [tenantScopedDocumentId] at same
  split at same
  · exact same
  · have letters := congrArg String.toList same
    simp only [String.toList_append] at letters
    exact String.toList_injective (List.append_cancel_left letters)

def Collection.live (collection : Collection) (tenantId id : String) : Option Document :=
  (collection.documents.get (tenantScopedDocumentId tenantId id)).filter
    fun document => unexpired collection.now document.expiresAt

def Document.view (document : Document) : OIDCPayload × WithTop Int :=
  (document.payload, document.expiresAt)

def view (record : Record) : OIDCPayload × WithTop Int :=
  ({ record.payload with consumed := record.consumed <|> record.payload.consumed },
    record.expiresAt)

structure Related (tenantId : String) (collection : Collection) (reference : Reference) :
    Prop where
  now : collection.now = reference.now
  ids : ∀ documentId document, collection.documents.get documentId = some document →
    documentId = tenantScopedDocumentId tenantId document.logical_id
  live : ∀ id, (collection.live tenantId id).map Document.view = (reference.live id).map view

theorem found_view (record : Record) : found (view record).1 none = record.found := by
  rw [Record.found, found, found, view]
  cases record.consumed <;> rfl

theorem map_view_filter (now : Nat) (record : Option Record) :
    (record.filter fun record => unexpired now record.expiresAt).map view =
      (record.map view).filter fun viewed => unexpired now viewed.2 := by
  cases record with
  | none => rfl
  | some record => cases isLive : unexpired now record.expiresAt <;> simp [Option.filter, view, isLive]

theorem map_document_filter (now : Nat) (document : Option Document) :
    (document.filter fun document => unexpired now document.expiresAt).map Document.view =
      (document.map Document.view).filter fun viewed => unexpired now viewed.2 := by
  cases document with
  | none => rfl
  | some document =>
    cases isLive : unexpired now document.expiresAt <;>
      simp [Option.filter, Document.view, isLive]

section Operations

variable {tenantId : String} {collection : Collection} {reference : Reference}

theorem live_set (id other : String) (document : Document) (collection : Collection) :
    Collection.live { collection with
        documents := collection.documents.set (tenantScopedDocumentId tenantId id) document }
        tenantId other =
      if other = id then
        (some document).filter fun document => unexpired collection.now document.expiresAt
      else collection.live tenantId other := by
  simp only [Collection.live, InsertionMap.get_set, (tenantScopedDocumentId_injective tenantId).eq_iff]
  split
  · rfl
  · rfl

variable {id : String}

theorem findOne_identity (first : FirstRow (String × Document))
    (addressed : Addressed tenantId id collection) :
    findOne first (tenantScopedIdentityFilter tenantId id) collection =
      (collection.documents.get (tenantScopedDocumentId tenantId id)).map
        fun document => (tenantScopedDocumentId tenantId id, document) := by
  have only : ∀ documentId document, collection.documents.get documentId = some document →
      tenantScopedIdentityFilter tenantId id (documentId, document) = true →
        documentId = tenantScopedDocumentId tenantId id := by
    intro documentId document isDocument matching
    simp only [tenantScopedIdentityFilter, Bool.or_eq_true, decide_eq_true_eq] at matching
    rcases matching with isScoped | isLogical
    · exact isScoped
    · rcases addressed with same | absent
      · rw [isLogical, same]
      · rw [isLogical, absent] at isDocument
        cases isDocument
  cases isFirst : findOne first (tenantScopedIdentityFilter tenantId id) collection with
  | none =>
    have nothing := List.filter_eq_nil_iff.mp (first.pick_none _ isFirst)
    cases isDocument : collection.documents.get (tenantScopedDocumentId tenantId id) with
    | none => rfl
    | some document =>
      have passedOver := nothing _ (InsertionMap.get_eq_some_iff.mp isDocument)
      simp [tenantScopedIdentityFilter] at passedOver
  | some entry =>
    obtain ⟨member, matching⟩ := List.mem_filter.mp (first.pick_mem _ _ isFirst)
    have isDocument := InsertionMap.get_eq_some_iff.mpr member
    have isScoped := only entry.1 entry.2 isDocument matching
    rw [← isScoped, isDocument]
    rfl

section

variable (related : Related tenantId collection reference)
include related

theorem Related.live_none
    (absent : collection.documents.get (tenantScopedDocumentId tenantId id) = none) :
    reference.live id = none := by
  have live := related.live id
  rw [Collection.live, absent] at live
  exact Option.map_eq_none_iff.mp live.symm

theorem Related.live_document {document : Document}
    (isDocument : collection.documents.get (tenantScopedDocumentId tenantId id) = some document)
    (isLive : unexpired collection.now document.expiresAt = true) :
    ∃ record, reference.live id = some record ∧ view record = document.view := by
  have live := related.live id
  rw [Collection.live, isDocument, Option.filter_some, if_pos isLive, Option.map_some] at live
  exact Option.map_eq_some_iff.mp live.symm

theorem Related.document_of_live {record : Record} (isLive : reference.live id = some record) :
    ∃ document,
      collection.documents.get (tenantScopedDocumentId tenantId id) = some document ∧
        view record = document.view ∧ unexpired collection.now document.expiresAt = true := by
  have live := related.live id
  rw [isLive, Option.map_some] at live
  obtain ⟨document, isDocument, isView⟩ := Option.map_eq_some_iff.mp live
  obtain ⟨isDocument, unexpired⟩ := Option.filter_eq_some_iff.mp isDocument
  exact ⟨document, isDocument, isView.symm, unexpired⟩

end

theorem write_eq {name : ModelName} {documentId : String} {document : Document}
    (unique : ∀ other held, collection.documents.get other = some held → other ≠ documentId →
      uniqueKey name held.payload = uniqueKey name document.payload →
        uniqueKey name document.payload = none) :
    write name documentId document collection = (.returns none, { collection with
      documents := collection.documents.set documentId document }) := by
  rw [write, if_neg]
  intro violated
  obtain ⟨other, member, clashes⟩ := List.any_eq_true.mp violated
  simp only [Bool.and_eq_true, decide_eq_true_eq] at clashes
  obtain ⟨⟨different, covered⟩, same⟩ := clashes
  rw [unique other.1 other.2 (InsertionMap.get_eq_some_iff.mpr member) different same] at covered
  cases covered

theorem view_upserted {payload : OIDCPayload} {expiresAt : WithTop Int} {mark : Option Nat}
    (sameMark : mark = none ∨ mark = payload.consumed) :
    view ⟨payload, expiresAt, mark⟩ = (payload, expiresAt) := by
  have merged : (mark <|> payload.consumed) = payload.consumed := by
    rcases sameMark with unmarked | same
    · rw [unmarked]
      rfl
    · rw [same]
      cases payload.consumed <;> rfl
  simp only [view, merged]

theorem Related.set (related : Related tenantId collection reference) {payload : OIDCPayload}
    {expiresIn : Option Int} (logicalId : String)
    (isId : tenantScopedDocumentId tenantId id = tenantScopedDocumentId tenantId logicalId)
    (mark : ∀ record, reference.live id = some record →
      record.consumed = none ∨ record.consumed = payload.consumed) :
    Related tenantId { collection with
        documents := collection.documents.set (tenantScopedDocumentId tenantId id)
          ⟨logicalId, payload, expiry collection.now expiresIn⟩ }
      (reference.upsert id payload expiresIn) where
  now := related.now
  ids documentId document isDocument := by
    rw [InsertionMap.get_set] at isDocument
    split at isDocument
    next isWritten =>
      injection isDocument with isNew
      rw [isWritten, isId, ← isNew]
    next => exact related.ids documentId document isDocument
  live other := by
    rw [live_set, Reference.live_upsert]
    split
    next =>
      have sameMark : (reference.live id).bind Record.consumed = none ∨
          (reference.live id).bind Record.consumed = payload.consumed := by
        cases isLive : reference.live id with
        | none => exact .inl rfl
        | some record => exact mark record isLive
      have asViews := map_view_filter collection.now
        (some ⟨payload, expiry collection.now expiresIn, (reference.live id).bind Record.consumed⟩)
      rw [Option.map_some, view_upserted sameMark] at asViews
      rw [map_document_filter, Option.map_some, Document.view, ← asViews, related.now]
      rfl
    next => exact related.live other

theorem Related.upsert (related : Related tenantId collection reference)
    (first : FirstRow (String × Document)) {name : ModelName} {payload : OIDCPayload}
    {expiresIn : Option Int}
    (alike : UpsertsAlike name tenantId id payload expiresIn collection reference) :
    ∃ next, upsert first name tenantId id payload expiresIn collection = (.returns none, next) ∧
      Related tenantId next (reference.upsert id payload expiresIn) := by
  rw [Mongo.upsert, findOne_identity first alike.addressed]
  cases isDocument : collection.documents.get (tenantScopedDocumentId tenantId id) with
  | none =>
    simp only [Option.map_none]
    rw [write_eq alike.unique]
    exact ⟨_, rfl, related.set id rfl alike.mark⟩
  | some document =>
    have kept : (if expiry collection.now expiresIn = ⊤ then document.expiresAt
        else expiry collection.now expiresIn) = expiry collection.now expiresIn := by
      split
      next unlimited => rw [alike.expiry document isDocument unlimited, unlimited]
      next => rfl
    simp only [Option.map_some, kept]
    rw [write_eq alike.unique]
    exact ⟨_, rfl, related.set document.logical_id (related.ids _ document isDocument) alike.mark⟩

theorem view_consumed {record : Record} {document : Document} (same : view record = document.view)
    (seconds : Nat) :
    view { record with consumed := some seconds } =
      ({ document.payload with consumed := some seconds }, document.expiresAt) := by
  simp only [view, Document.view, Prod.mk.injEq] at same ⊢
  rw [← same.1, ← same.2]
  exact ⟨rfl, rfl⟩

section

variable (related : Related tenantId collection reference)
include related

theorem Related.consume (first : FirstRow (String × Document))
    (alike : ReachesAlike tenantId id collection reference) :
    Related tenantId (consume first tenantId id collection) (reference.consume id) := by
  rw [Mongo.consume]
  split
  next empty =>
    rw [Reference.consume_of_not_live (alike.nonempty empty)]
    exact related
  next =>
    rw [findOne_identity first alike.addressed]
    cases isDocument : collection.documents.get (tenantScopedDocumentId tenantId id) with
    | none =>
      rw [Reference.consume_of_not_live (related.live_none isDocument)]
      exact related
    | some document =>
      simp only [Option.map_some]
      constructor
      · exact related.now.trans (reference.now_consume id).symm
      · intro documentId other isOther
        rw [InsertionMap.get_set] at isOther
        split at isOther
        next isWritten =>
          injection isOther with isMarked
          rw [isWritten, ← isMarked]
          exact related.ids _ document isDocument
        next => exact related.ids documentId other isOther
      · intro other
        rw [live_set, Reference.live_consume]
        split
        next =>
          cases isLive : unexpired collection.now document.expiresAt with
          | false =>
            have gone : reference.live id = none := by
              have live := related.live id
              rw [Collection.live, isDocument, Option.filter_some, isLive] at live
              exact Option.map_eq_none_iff.mp live.symm
            rw [gone]
            simp [Option.filter, isLive]
          | true =>
            obtain ⟨record, isRecord, same⟩ := related.live_document isDocument isLive
            rw [isRecord, Option.map_some, Option.map_some, view_consumed same, related.now]
            simp [Option.filter, Document.view, ← related.now, isLive]
        next => exact related.live other

theorem Related.destroy (first : FirstRow (String × Document))
    (alike : ReachesAlike tenantId id collection reference) :
    Related tenantId (destroy first tenantId id collection) (reference.destroy id) := by
  -- where nothing is deleted, no record is live either
  have absent : reference.live id = none → Related tenantId collection (reference.destroy id) := by
    intro notLive
    refine ⟨related.now, related.ids, ?_⟩
    intro other
    rw [Reference.live_destroy, related.live other]
    split
    next same => rw [same, notLive]
    next => rfl
  rw [Mongo.destroy]
  split
  next empty => exact absent (alike.nonempty empty)
  next =>
    rw [findOne_identity first alike.addressed]
    cases isDocument : collection.documents.get (tenantScopedDocumentId tenantId id) with
    | none => exact absent (related.live_none isDocument)
    | some document =>
      simp only [Option.map_some]
      refine ⟨related.now, ?_, ?_⟩
      · intro documentId other isOther
        exact related.ids documentId other (InsertionMap.get_delete_eq_some_iff.mp isOther).2
      · intro other
        simp only [Reference.live_destroy, Collection.live, InsertionMap.get_delete,
          (tenantScopedDocumentId_injective tenantId).eq_iff]
        split
        · rfl
        · exact related.live other

theorem Related.revokeByGrantId (grantId : String) :
    Related tenantId (revokeByGrantId grantId collection)
      (reference.revokeByGrantId grantId) := by
  by_cases isGrant : grantId = ""
  · rwa [Mongo.revokeByGrantId, Reference.revokeByGrantId, if_pos isGrant, if_pos isGrant]
  rw [Mongo.revokeByGrantId, if_neg isGrant]
  refine ⟨related.now.trans (reference.now_revokeByGrantId grantId).symm, ?_, ?_⟩
  · intro documentId document isDocument
    exact related.ids documentId document (InsertionMap.get_filter_eq_some_iff.mp isDocument).1
  · intro id
    have byView : ∀ record : Option Record,
        (record.filter fun record => record.payload.grantId ≠ some grantId).map view =
          (record.map view).filter fun viewed => viewed.1.grantId ≠ some grantId := by
      intro record
      cases record with
      | none => rfl
      | some record =>
        by_cases ofGrant : record.payload.grantId = some grantId <;>
          simp [Option.filter, view, ofGrant]
    rw [Reference.live_revokeByGrantId isGrant, byView, ← related.live id, Collection.live,
      Collection.live, InsertionMap.get_filter]
    cases collection.documents.get (tenantScopedDocumentId tenantId id) with
    | none => rfl
    | some document =>
      by_cases ofGrant : document.payload.grantId = some grantId
      · cases isLive : unexpired collection.now document.expiresAt <;>
          simp [Option.filter, Document.view, isLive, ofGrant]
      · cases isLive : unexpired collection.now document.expiresAt <;>
          simp [Option.filter, Document.view, isLive, ofGrant]

theorem Related.wait (milliseconds : Nat) :
    Related tenantId { collection with now := collection.now + milliseconds }
      { reference with now := reference.now + milliseconds } where
  now := congrArg (· + milliseconds) related.now
  ids := related.ids
  live id := by
    rw [Reference.live_wait, map_view_filter, ← related.live id, ← related.now,
      ← map_document_filter, Collection.live, Collection.live, Option.filter_filter]
    congr 2
    funext document
    cases later : unexpired (collection.now + milliseconds) document.expiresAt with
    | false => simp
    | true => simp [unexpired_earlier later]

theorem Related.ttlSweep
    (ahead : ∀ documentId document, collection.documents.get documentId = some document →
      document.expiresAt ≠ WithTop.some (collection.now : Int)) :
    Related tenantId (ttlSweep collection) reference where
  now := related.now
  ids documentId document isDocument :=
    related.ids documentId document (InsertionMap.get_filter_eq_some_iff.mp isDocument).1
  live id := by
    rw [← related.live id, Collection.live, Collection.live, Mongo.ttlSweep,
      InsertionMap.get_filter]
    cases isDocument : collection.documents.get (tenantScopedDocumentId tenantId id) with
    | none => rfl
    | some document =>
      have notDeadline := ahead _ document isDocument
      cases kept : isAhead collection.now document.expiresAt with
      | true => simp [Option.filter, kept]
      | false =>
        have expired : unexpired collection.now document.expiresAt = false := by
          rw [Bool.eq_false_iff]
          intro isLive
          rw [isAhead_iff.mpr ⟨isLive, notDeadline⟩] at kept
          cases kept
        simp [Option.filter, kept, expired]

theorem Related.find_eq (first : FirstRow (String × Document))
    (alike : ReachesAlike tenantId id collection reference)
    (swept : ∀ document,
      collection.documents.get (tenantScopedDocumentId tenantId id) = some document →
        unexpired collection.now document.expiresAt = true) :
    find first tenantId id collection = reference.find id := by
  rw [Mongo.find, Reference.find]
  split
  next empty => rw [alike.nonempty empty, Option.map_none]
  next =>
    rw [findOne_identity first alike.addressed]
    cases isDocument : collection.documents.get (tenantScopedDocumentId tenantId id) with
    | none => rw [related.live_none isDocument, Option.map_none, Option.map_none, Option.map_none]
    | some document =>
      obtain ⟨record, isLive, same⟩ := related.live_document isDocument (swept document isDocument)
      rw [isLive, Option.map_some, Option.map_some, Option.map_some, ← found_view, same]
      rfl

theorem Related.findOne_eq (first : FirstRow (String × Document))
    {indexed : OIDCPayload → Option String}
    (ignoresMark : ∀ payload mark, indexed { payload with consumed := mark } = indexed payload)
    {value : String} (alike : LooksUpAlike indexed value collection reference) :
    (findOne first (fun entry => indexed entry.2.payload = some value) collection).map
        (fun entry => found entry.2.payload none) =
      reference.findBy indexed value := by
  have sameValue : ∀ {record : Record} {document : Document}, view record = document.view →
      indexed document.payload = indexed record.payload := by
    intro record document same
    have payload : (view record).1 = document.payload := congrArg Prod.fst same
    rw [← payload]
    exact ignoresMark _ _
  cases isFirst : findOne first (fun entry => indexed entry.2.payload = some value) collection with
  | none =>
    rcases reference.findBy_cases indexed value with ⟨nothing, _⟩ | ⟨id, record, holds, _⟩
    · rw [nothing, Option.map_none]
    · obtain ⟨document, isDocument, same, _⟩ := related.document_of_live holds.isLive
      have passedOver := List.filter_eq_nil_iff.mp (first.pick_none _ isFirst) _
        (InsertionMap.get_eq_some_iff.mp isDocument)
      exact absurd (decide_eq_true ((sameValue same).trans holds.isValue)) passedOver
  | some entry =>
    obtain ⟨member, selected⟩ := List.mem_filter.mp (first.pick_mem _ _ isFirst)
    have isValue : indexed entry.2.payload = some value := of_decide_eq_true selected
    have isDocument := InsertionMap.get_eq_some_iff.mpr member
    have isLive := alike.swept entry.1 entry.2 isDocument isValue
    rw [related.ids _ _ isDocument] at isDocument
    obtain ⟨record, isRecord, same⟩ := related.live_document isDocument isLive
    have holds : reference.Holds indexed value entry.2.logical_id record :=
      ⟨isRecord, (sameValue same).symm.trans isValue⟩
    rcases reference.findBy_cases indexed value with ⟨_, none⟩ | ⟨other, held, isHeld, result⟩
    · exact absurd holds (none _ record)
    · have sameId := alike.unique _ other record held holds isHeld
      have sameRecord := isHeld.isLive
      rw [← sameId, isRecord] at sameRecord
      injection sameRecord with sameRecord
      rw [result, Option.map_some, ← sameRecord, ← found_view, same]
      rfl

end

end Operations

open Simulations (Simulates)

theorem simulates (first : FirstRow (String × Document)) (name : ModelName) (tenantId : String) :
    Simulates (step first name tenantId) (Reference.step name) (Related tenantId)
      (Allowed name tenantId) where
  output collection reference input related allowed := by
    cases input with
    | upsert id payload expiresIn =>
      obtain ⟨next, result, _⟩ := related.upsert first allowed
      simp only [step, result]
      rfl
    | find id =>
      simp only [step, Reference.step]
      rw [related.find_eq first allowed.1 allowed.2]
    | findByUserCode userCode =>
      simp only [step, Reference.step, findByUserCode]
      by_cases isModel : name = .DeviceCode
      · simp only [isModel, ne_eq, not_true_eq_false, or_false, if_true]
        split
        next empty => rw [Reference.findBy_of_none ((allowed isModel).nonempty empty)]
        next => rw [related.findOne_eq first (fun _ _ => rfl) (allowed isModel)]
      · simp only [isModel, ne_eq, not_false_eq_true, or_true, if_true, if_false]
    | findByUid uid =>
      simp only [step, Reference.step, findByUid]
      by_cases isModel : name = .Session
      · simp only [isModel, ne_eq, not_true_eq_false, or_false, if_true]
        split
        next empty => rw [Reference.findBy_of_none ((allowed isModel).nonempty empty)]
        next => rw [related.findOne_eq first (fun _ _ => rfl) (allowed isModel)]
      · simp only [isModel, ne_eq, not_false_eq_true, or_true, if_true, if_false]
    | _ => rfl
  related collection reference input related allowed := by
    cases input with
    | upsert id payload expiresIn =>
      obtain ⟨next, result, isRelated⟩ := related.upsert first allowed
      simp only [step, result]
      exact isRelated
    | consume id => exact related.consume first allowed
    | destroy id => exact related.destroy first allowed
    | revokeByGrantId grantId => exact related.revokeByGrantId grantId
    | wait milliseconds => exact related.wait milliseconds
    | ttlSweep => exact related.ttlSweep allowed
    | _ => exact related

theorem start_related (tenantId : String) (now : Nat) :
    Related tenantId (Collection.start now) (Reference.start now) where
  now := rfl
  ids _ _ isDocument := by cases isDocument
  live _ := rfl

end ParakoId.OidcStore.Mongo
