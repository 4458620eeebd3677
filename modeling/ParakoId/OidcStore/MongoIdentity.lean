import ParakoId.OidcStore.Mongo

/-!
The MongoDB adapter with all tenants in one collection: which documents an id of a tenant reaches.
-/

namespace ParakoId.OidcStore.Mongo

open RedisAdapter (ModelName OIDCPayload)
open Tables (FirstRow firstInserted)
open Text (utf16Length)

structure TenantDocument where
  tenant_id : String
  document : Document

structure SharedCollection where
  now : Nat
  documents : InsertionMap String TenantDocument

def SharedCollection.start (now : Nat) : SharedCollection := ⟨now, .empty⟩

/-- `tenantScopedIdentityFilter` with its condition on the tenant. -/
def selects (tenantId logicalId : String) (entry : String × TenantDocument) : Bool :=
  tenantScopedIdentityFilter tenantId logicalId (entry.1, entry.2.document) &&
    decide (entry.2.tenant_id = tenantId)

def findSelected (first : FirstRow (String × TenantDocument)) (tenantId logicalId : String)
    (shared : SharedCollection) : Option (String × TenantDocument) :=
  first.pick (shared.documents.entries.filter (selects tenantId logicalId))

def writeShared (name : ModelName) (documentId : String) (document : TenantDocument)
    (shared : SharedCollection) : SharedCollection :=
  let uniqueKeyOf (document : TenantDocument) :=
    (document.tenant_id, uniqueKey name document.document.payload)
  if shared.documents.entries.any fun other =>
      decide (other.1 ≠ documentId) && (uniqueKeyOf document).2.isSome &&
        decide (uniqueKeyOf other.2 = uniqueKeyOf document) then
    shared
  else { shared with documents := shared.documents.set documentId document }

def upsertShared (first : FirstRow (String × TenantDocument)) (name : ModelName)
    (tenantId id : String) (payload : OIDCPayload) (expiresIn : Option Int)
    (shared : SharedCollection) : SharedCollection :=
  let expiresAt := expiry shared.now expiresIn
  let documentId := tenantScopedDocumentId tenantId id
  match findSelected first tenantId id shared with
  | some (selected, existing) =>
    let kept := if expiresAt = ⊤ then existing.document.expiresAt else expiresAt
    writeShared name selected
      ⟨tenantId, { existing.document with payload := payload, expiresAt := kept }⟩ shared
  | none =>
    -- another tenant's document may have the `_id`
    if (shared.documents.get documentId).isSome then shared
    else writeShared name documentId ⟨tenantId, ⟨id, payload, expiresAt⟩⟩ shared

def consumeShared (first : FirstRow (String × TenantDocument)) (tenantId id : String)
    (shared : SharedCollection) : SharedCollection :=
  match findSelected first tenantId id shared with
  | some (selected, existing) =>
    let marked := { existing.document.payload with consumed := some (shared.now / 1000) }
    { shared with
      documents := shared.documents.set selected
        { existing with document := { existing.document with payload := marked } } }
  | none => shared

def destroyShared (first : FirstRow (String × TenantDocument)) (tenantId id : String)
    (shared : SharedCollection) : SharedCollection :=
  match findSelected first tenantId id shared with
  | some (selected, _) => { shared with documents := shared.documents.delete selected }
  | none => shared

/-- A call of the adapter in a tenant. Where a call throws, the collection stays. -/
def stepShared (first : FirstRow (String × TenantDocument)) (name : ModelName)
    (shared : SharedCollection) : String × Input → SharedCollection
  | (tenantId, .upsert id payload expiresIn) =>
    upsertShared first name tenantId id payload expiresIn shared
  | (tenantId, .consume id) => if id = "" then shared else consumeShared first tenantId id shared
  | (tenantId, .destroy id) => if id = "" then shared else destroyShared first tenantId id shared
  | (tenantId, .revokeByGrantId grantId) =>
    if grantId = "" then shared
    else
      { shared with
        documents := shared.documents.filter fun _ document =>
          ¬(document.document.payload.grantId = some grantId ∧ document.tenant_id = tenantId) }
  | (_, .wait milliseconds) => { shared with now := shared.now + milliseconds }
  | (_, .ttlSweep) =>
    { shared with
      documents := shared.documents.filter fun _ document =>
        isAhead shared.now document.document.expiresAt }
  | (_, .find _) | (_, .findByUserCode _) | (_, .findByUid _) => shared

/-- The text is the `_id` that a record of a tenant other than the default one has. -/
def Encodes (tenantId logicalId text : String) : Prop :=
  tenantId ≠ "default" ∧
    text = toString (utf16Length tenantId) ++ ":" ++ tenantId ++ ":" ++ logicalId

theorem tenantScopedDocumentId_cases (tenantId logicalId : String) :
    (tenantId = "default" ∧ tenantScopedDocumentId tenantId logicalId = logicalId) ∨
      Encodes tenantId logicalId (tenantScopedDocumentId tenantId logicalId) := by
  rw [tenantScopedDocumentId]
  split
  next isDefault => exact .inl ⟨isDefault, rfl⟩
  next other => exact .inr ⟨other, rfl⟩

theorem colon_notMem_digits (number : Nat) : ':' ∉ (toString number).toList := by
  intro member
  have digits : (toString number).toList = Nat.toDigits 10 number := Nat.toList_repr
  rw [digits] at member
  have isDigit := Nat.isDigit_of_mem_toDigits (by decide) (by decide) member
  exact absurd isDigit (by decide)

variable {tenantId logicalId : String} {shared : SharedCollection}

theorem Encodes.unique {otherTenant otherId text : String}
    (encodes : Encodes tenantId logicalId text) (other : Encodes otherTenant otherId text) :
    tenantId = otherTenant ∧ logicalId = otherId := by
  have letters := congrArg String.toList (encodes.2.symm.trans other.2)
  have colon : ":".toList = [':'] := rfl
  simp only [String.toList_append, List.append_assoc, colon, List.singleton_append] at letters
  obtain ⟨sameLength, sameRest⟩ := Text.split_at_first (colon_notMem_digits _)
    (colon_notMem_digits _) letters
  have lengths : utf16Length tenantId = utf16Length otherTenant := by
    have digits : Nat.toDigits 10 (utf16Length tenantId) =
        Nat.toDigits 10 (utf16Length otherTenant) := by
      rw [← Nat.toList_repr, ← Nat.toList_repr]
      exact sameLength
    rw [← @Nat.ofDigitChars_ten_toDigits (utf16Length tenantId), digits,
      Nat.ofDigitChars_ten_toDigits]
  have positive : ∀ character : Char, 0 < if character.toNat ≤ 0xFFFF then 1 else 2 := by
    intro character
    split <;> decide
  obtain ⟨sameTenant, sameId⟩ := Text.split_at_weight positive sameRest lengths
  injection sameId with _ sameId
  exact ⟨String.toList_injective sameTenant, String.toList_injective sameId⟩

theorem Encodes.ne (encodes : Encodes tenantId logicalId logicalId) : False := by
  have lengths := congrArg String.length encodes.2
  have colon : ":".length = 1 := rfl
  simp only [String.length_append, colon] at lengths
  omega

def Identified (shared : SharedCollection) : Prop :=
  ∀ documentId stored, shared.documents.get documentId = some stored →
    documentId = tenantScopedDocumentId stored.tenant_id stored.document.logical_id

theorem identified_set (identified : Identified shared) {documentId : String}
    {document : TenantDocument}
    (isId : documentId = tenantScopedDocumentId document.tenant_id document.document.logical_id) :
    Identified { shared with documents := shared.documents.set documentId document } := by
  intro other stored isStored
  rw [InsertionMap.get_set] at isStored
  split at isStored
  next same =>
    injection isStored with isStored
    rw [← isStored, same]
    exact isId
  next => exact identified other stored isStored

theorem identified_filter (identified : Identified shared)
    (keep : String → TenantDocument → Bool) :
    Identified { shared with documents := shared.documents.filter keep } := by
  intro documentId stored isStored
  exact identified documentId stored (InsertionMap.get_filter_eq_some_iff.mp isStored).1

theorem identified_writeShared (identified : Identified shared) (name : ModelName)
    {documentId : String} {document : TenantDocument}
    (isId : documentId = tenantScopedDocumentId document.tenant_id document.document.logical_id) :
    Identified (writeShared name documentId document shared) := by
  rw [writeShared]
  split
  · exact identified
  · exact identified_set identified isId

theorem findSelected_some {first : FirstRow (String × TenantDocument)} {id : String}
    {selected : String × TenantDocument}
    (found : findSelected first tenantId id shared = some selected) :
    shared.documents.get selected.1 = some selected.2 ∧ selected.2.tenant_id = tenantId := by
  obtain ⟨member, isSelected⟩ := List.mem_filter.mp (first.pick_mem _ _ found)
  simp only [selects, Bool.and_eq_true, decide_eq_true_eq] at isSelected
  exact ⟨InsertionMap.get_eq_some_iff.mpr member, isSelected.2⟩

theorem identified_step (first : FirstRow (String × TenantDocument)) (name : ModelName)
    (shared : SharedCollection) (call : String × Input) (identified : Identified shared) :
    Identified (stepShared first name shared call) := by
  obtain ⟨tenantId, input⟩ := call
  cases input with
  | upsert id payload expiresIn =>
    simp only [stepShared, upsertShared]
    cases found : findSelected first tenantId id shared with
    | some selected =>
      obtain ⟨isStored, isTenant⟩ := findSelected_some found
      apply identified_writeShared identified
      rw [← isTenant]
      exact identified selected.1 selected.2 isStored
    | none =>
      simp only
      split
      · exact identified
      · exact identified_writeShared identified name rfl
  | consume id =>
    simp only [stepShared, consumeShared]
    split
    · exact identified
    · cases found : findSelected first tenantId id shared with
      | some selected =>
        obtain ⟨isStored, _⟩ := findSelected_some found
        exact identified_set identified (identified selected.1 selected.2 isStored)
      | none => exact identified
  | destroy id =>
    simp only [stepShared, destroyShared]
    split
    · exact identified
    · cases found : findSelected first tenantId id shared with
      | some selected => exact identified_filter identified _
      | none => exact identified
  | revokeByGrantId grantId =>
    simp only [stepShared]
    split
    · exact identified
    · exact identified_filter identified _
  | ttlSweep => exact identified_filter identified _
  | _ => exact identified

theorem identified_calls (first : FirstRow (String × TenantDocument)) (name : ModelName)
    (now : Nat) (calls : List (String × Input)) :
    Identified (calls.foldl (stepShared first name) (SharedCollection.start now)) :=
  Runs.invariant (stepShared first name)
    (fun shared call identified => identified_step first name shared call identified)
    (by rintro documentId stored ⟨⟩) calls

theorem same_id_iff {otherTenant otherId : String}
    (different : (tenantId, logicalId) ≠ (otherTenant, otherId)) :
    tenantScopedDocumentId tenantId logicalId = tenantScopedDocumentId otherTenant otherId ↔
      (tenantId = "default" ∧ Encodes otherTenant otherId logicalId) ∨
        (otherTenant = "default" ∧ Encodes tenantId logicalId otherId) := by
  rcases tenantScopedDocumentId_cases tenantId logicalId with ⟨isDefault, isRaw⟩ | encodes
  · rcases tenantScopedDocumentId_cases otherTenant otherId with ⟨isOther, rawOther⟩ | encodesOther
    · rw [isRaw, rawOther]
      constructor
      · intro same
        exact absurd (Prod.ext (isDefault.trans isOther.symm) same) different
      · rintro (⟨_, notDefault, _⟩ | ⟨_, notDefault, _⟩)
        · exact absurd isOther notDefault
        · exact absurd isDefault notDefault
    · rw [isRaw]
      constructor
      · intro same
        rw [← same] at encodesOther
        exact .inl ⟨isDefault, encodesOther⟩
      · rintro (⟨_, encoded⟩ | ⟨isOther, _⟩)
        · rw [encoded.2, encodesOther.2]
        · exact absurd isOther encodesOther.1
  · rcases tenantScopedDocumentId_cases otherTenant otherId with ⟨isOther, rawOther⟩ | encodesOther
    · rw [rawOther]
      constructor
      · intro same
        rw [same] at encodes
        exact .inr ⟨isOther, encodes⟩
      · rintro (⟨isDefault, _⟩ | ⟨_, encoded⟩)
        · exact absurd isDefault encodes.1
        · rw [encoded.2, encodes.2]
    · constructor
      · intro same
        rw [same] at encodes
        obtain ⟨sameTenant, sameId⟩ := encodes.unique encodesOther
        exact absurd (Prod.ext sameTenant sameId) different
      · rintro (⟨isDefault, _⟩ | ⟨isOther, _⟩)
        · exact absurd isDefault encodes.1
        · exact absurd isOther encodesOther.1

theorem selects_own_iff (identified : Identified shared) {documentId : String}
    {stored : TenantDocument} (isStored : shared.documents.get documentId = some stored) :
    (selects tenantId logicalId (documentId, stored) = true →
        stored.tenant_id = tenantId ∧ stored.document.logical_id = logicalId) ↔
      (stored.tenant_id = tenantId → ¬Encodes tenantId stored.document.logical_id logicalId) := by
  have isId := identified documentId stored isStored
  simp only [selects, tenantScopedIdentityFilter, Bool.and_eq_true, Bool.or_eq_true,
    decide_eq_true_eq]
  constructor
  · rintro own isTenant encodes
    have isLogical : documentId = logicalId := by
      rw [isId, isTenant, tenantScopedDocumentId, if_neg encodes.1]
      exact encodes.2.symm
    have sameId := (own ⟨.inr isLogical, isTenant⟩).2
    rw [sameId] at encodes
    exact encodes.ne
  · rintro notEncoded ⟨isScoped | isLogical, isTenant⟩
    · refine ⟨isTenant, ?_⟩
      rw [isId, isTenant] at isScoped
      exact tenantScopedDocumentId_injective tenantId isScoped
    · refine ⟨isTenant, ?_⟩
      rw [isId, isTenant] at isLogical
      rcases tenantScopedDocumentId_cases tenantId stored.document.logical_id with
        ⟨_, isRaw⟩ | encodes
      · rw [← isRaw, isLogical]
      · rw [isLogical] at encodes
        exact absurd encodes (notEncoded isTenant)

/-- Ids tell the records of all tenants apart, and an id reaches the record of its own only,
exactly where neither an id of the default tenant nor the id that is looked up has the form of the
`_id` of another tenant's record. -/
theorem document_identity_iff (first : FirstRow (String × TenantDocument)) (name : ModelName)
    (now : Nat) (calls : List (String × Input))
    (tenantId logicalId otherTenant otherId : String) :
    let shared := calls.foldl (stepShared first name) (SharedCollection.start now)
    (((tenantId, logicalId) ≠ (otherTenant, otherId) →
        tenantScopedDocumentId tenantId logicalId ≠ tenantScopedDocumentId otherTenant otherId) ∧
      ∀ documentId stored, shared.documents.get documentId = some stored →
        selects tenantId logicalId (documentId, stored) = true →
          stored.tenant_id = tenantId ∧ stored.document.logical_id = logicalId) ↔
      (tenantId = "default" → ¬Encodes otherTenant otherId logicalId) ∧
        (otherTenant = "default" → ¬Encodes tenantId logicalId otherId) ∧
        ∀ documentId stored, shared.documents.get documentId = some stored →
          stored.tenant_id = tenantId →
            ¬Encodes tenantId stored.document.logical_id logicalId := by
  intro shared
  have identified : Identified shared := identified_calls first name now calls
  have apart : ((tenantId, logicalId) ≠ (otherTenant, otherId) →
        tenantScopedDocumentId tenantId logicalId ≠ tenantScopedDocumentId otherTenant otherId) ↔
      (tenantId = "default" → ¬Encodes otherTenant otherId logicalId) ∧
        (otherTenant = "default" → ¬Encodes tenantId logicalId otherId) := by
    constructor
    · intro distinct
      constructor
      · intro isDefault encodes
        have different : (tenantId, logicalId) ≠ (otherTenant, otherId) := by
          intro same
          injection same with sameTenant _
          exact encodes.1 (sameTenant.symm.trans isDefault)
        exact distinct different ((same_id_iff different).mpr (.inl ⟨isDefault, encodes⟩))
      · intro isDefault encodes
        have different : (tenantId, logicalId) ≠ (otherTenant, otherId) := by
          intro same
          injection same with sameTenant _
          exact encodes.1 (sameTenant.trans isDefault)
        exact distinct different ((same_id_iff different).mpr (.inr ⟨isDefault, encodes⟩))
    · rintro ⟨notOther, notOwn⟩ different same
      rcases (same_id_iff different).mp same with ⟨isDefault, encodes⟩ | ⟨isDefault, encodes⟩
      · exact notOther isDefault encodes
      · exact notOwn isDefault encodes
  have own : (∀ documentId stored, shared.documents.get documentId = some stored →
        selects tenantId logicalId (documentId, stored) = true →
          stored.tenant_id = tenantId ∧ stored.document.logical_id = logicalId) ↔
      ∀ documentId stored, shared.documents.get documentId = some stored →
        stored.tenant_id = tenantId →
          ¬Encodes tenantId stored.document.logical_id logicalId := by
    constructor
    · intro all documentId stored isStored
      exact (selects_own_iff identified isStored).mp (all documentId stored isStored)
    · intro none documentId stored isStored
      exact (selects_own_iff identified isStored).mpr (none documentId stored isStored)
  rw [apart, own, and_assoc]

def acmeRecord : List (String × Input) :=
  [("acme", .upsert "x" ⟨none, none, none, none, none, none, ""⟩ none)]

theorem encoded_id_is_ambiguous :
    tenantScopedDocumentId "default" "4:acme:x" = tenantScopedDocumentId "acme" "x" ∧
      (findSelected firstInserted "acme" "4:acme:x"
        (acmeRecord.foldl (stepShared firstInserted .AccessToken) (SharedCollection.start 0))).map
          (fun entry => entry.2.document.logical_id) = some "x" := by
  decide

end ParakoId.OidcStore.Mongo
