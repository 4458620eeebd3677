import ParakoId.KeyStore.Statements

/-! The provider signs with the first key of an algorithm that `getJWKS` returns. -/

namespace ParakoId.KeyStore

def ofAlgorithm (tenantId alg : String) (key : JwksKeyRecord) : Prop :=
  key.tenant_id = tenantId ∧ key.alg = alg

instance (tenantId alg : String) (key : JwksKeyRecord) : Decidable (ofAlgorithm tenantId alg key) :=
  inferInstanceAs (Decidable (_ ∧ _))

def HasPromoted (table : KeyTable) (tenantId alg : String) : Prop :=
  ∃ key ∈ table, ofAlgorithm tenantId alg key ∧ key.status ≠ .retired ∧ key.promoted = true

def HasSigner (table : KeyTable) (tenantId alg : String) : Prop :=
  ∃ key ∈ table, ofAlgorithm tenantId alg key ∧ isSigner key = true

def HasUnpromoted (table : KeyTable) (tenantId alg : String) : Prop :=
  ∃ key ∈ table, ofAlgorithm tenantId alg key ∧ isUnpromoted key = true

instance (table : KeyTable) (tenantId alg : String) : Decidable (HasPromoted table tenantId alg) :=
  inferInstanceAs (Decidable (∃ key ∈ table, _))

instance (table : KeyTable) (tenantId alg : String) : Decidable (HasSigner table tenantId alg) :=
  inferInstanceAs (Decidable (∃ key ∈ table, _))

instance (table : KeyTable) (tenantId alg : String) :
    Decidable (HasUnpromoted table tenantId alg) :=
  inferInstanceAs (Decidable (∃ key ∈ table, _))

def SigningOrder (table : KeyTable) (tenantId alg : String) : Prop :=
  HasPromoted table tenantId alg →
    ∀ first, (getJWKS tenantId table).find? (fun jwk => jwk.alg == alg) = some first →
      ∀ key ∈ table, key.tenant_id = tenantId → key.kid = first.kid → key.promoted = true

theorem comesFirst_total (a b : JwksKeyRecord) : (comesFirst a b || comesFirst b a) = true := by
  simp only [comesFirst, Bool.or_eq_true]
  by_cases same : promotionGroup a = promotionGroup b
  · simp only [same, ne_eq, not_true_eq_false, if_false, decide_eq_true_eq]
    omega
  · simp only [ne_eq, same, Ne.symm same, not_false_eq_true, if_true, decide_eq_true_eq]
    omega

theorem comesFirst_trans (a b c : JwksKeyRecord) (first : comesFirst a b = true)
    (second : comesFirst b c = true) : comesFirst a c = true := by
  simp only [comesFirst] at first second ⊢
  split at first <;> split at second <;> split <;> simp only [decide_eq_true_eq] at * <;> omega

theorem comesFirst_group {a b : JwksKeyRecord} (first : comesFirst a b = true) :
    promotionGroup a ≤ promotionGroup b := by
  simp only [comesFirst] at first
  split at first
  · simp only [decide_eq_true_eq] at first
    omega
  · omega

theorem sortByPromotionGroup_ordered (docs : List JwksKeyRecord) :
    (sortByPromotionGroup docs).Pairwise fun a b => comesFirst a b = true :=
  List.pairwise_mergeSort comesFirst_trans comesFirst_total docs

theorem mem_sortByPromotionGroup {docs : List JwksKeyRecord} {doc : JwksKeyRecord} :
    doc ∈ sortByPromotionGroup docs ↔ doc ∈ docs :=
  (List.mergeSort_perm docs comesFirst).mem_iff

theorem mem_findCurrent {tenantId : String} {table : KeyTable} {key : JwksKeyRecord} :
    key ∈ findCurrent tenantId table ↔
      key ∈ table ∧ key.tenant_id = tenantId ∧ key.status ≠ .retired := by
  have current : isCurrent key = true ↔ key.status ≠ .retired := by
    cases status : key.status <;> simp [isCurrent, status]
  simp [findCurrent, current]

theorem promotionGroup_zero (key : JwksKeyRecord) :
    promotionGroup key = 0 ↔ isSigner key = true := by
  rw [isSigner_iff, promotionGroup]
  split
  · rename_i signer
    simp [signer]
  · rename_i other
    split <;> simp [other]

theorem promotionGroup_unpromoted {key : JwksKeyRecord} (unpromoted : isUnpromoted key = true) :
    promotionGroup key = 1 := by
  rw [isUnpromoted_iff] at unpromoted
  simp [promotionGroup, unpromoted.1, unpromoted.2]

theorem first_of_algorithm {table : KeyTable} (wellFormed : WellFormedTable table)
    {tenantId alg : String} {first : JsonWebKey}
    (found : (getJWKS tenantId table).find? (fun jwk => jwk.alg == alg) = some first) :
    ∃ doc ∈ table, ofAlgorithm tenantId alg doc ∧ doc.status ≠ .retired ∧ doc.kid = first.kid ∧
      ∀ other ∈ table, ofAlgorithm tenantId alg other → other.status ≠ .retired →
        promotionGroup doc ≤ promotionGroup other := by
  rw [getJWKS, List.find?_map, Option.map_eq_some_iff] at found
  obtain ⟨doc, found, rfl⟩ := found
  obtain ⟨docMember, docAlg, least⟩ :=
    Tables.find?_of_pairwise (sortByPromotionGroup_ordered _) found
  rw [mem_sortByPromotionGroup, mem_findCurrent] at docMember
  obtain ⟨docMember, docTenant, docCurrent⟩ := docMember
  have docRow := wellFormed.rows doc docMember
  simp only [Function.comp_apply, beq_iff_eq, docRow.sealedAlg] at docAlg
  refine ⟨doc, docMember, ⟨docTenant, docAlg⟩, docCurrent, docRow.sealedKid.symm, ?_⟩
  intro other otherMember otherAlg otherCurrent
  have otherDoc : other ∈ sortByPromotionGroup (findCurrent tenantId table) :=
    mem_sortByPromotionGroup.mpr (mem_findCurrent.mpr ⟨otherMember, otherAlg.1, otherCurrent⟩)
  have otherRow := wellFormed.rows other otherMember
  rcases least other otherDoc (by simp [otherRow.sealedAlg, otherAlg.2]) with same | ordered
  · rw [same]
  · exact comesFirst_group ordered

theorem some_of_algorithm {table : KeyTable} (wellFormed : WellFormedTable table)
    {tenantId alg : String} (promoted : HasPromoted table tenantId alg) :
    ∃ first, (getJWKS tenantId table).find? (fun jwk => jwk.alg == alg) = some first := by
  obtain ⟨key, member, keyAlg, current, _⟩ := promoted
  rw [← Option.isSome_iff_exists, List.find?_isSome]
  refine ⟨decryptJWK key.encrypted_private_key, ?_, ?_⟩
  · exact List.mem_map.mpr ⟨key, mem_sortByPromotionGroup.mpr
      (mem_findCurrent.mpr ⟨member, keyAlg.1, current⟩), rfl⟩
  · simp [(wellFormed.rows key member).sealedAlg, keyAlg.2]

theorem signingOrder_iff {table : KeyTable} (wellFormed : WellFormedTable table)
    (tenantId alg : String) :
    SigningOrder table tenantId alg ↔
      ¬HasPromoted table tenantId alg ∨ HasSigner table tenantId alg ∨
        ¬HasUnpromoted table tenantId alg := by
  constructor
  · intro order
    by_contra broken
    simp only [not_or, not_not] at broken
    obtain ⟨promoted, noSigner, unpromotedKey, unpromotedMember, unpromotedAlg, unpromoted⟩ := broken
    obtain ⟨first, found⟩ := some_of_algorithm wellFormed promoted
    obtain ⟨doc, docMember, docAlg, docCurrent, docKid, least⟩ :=
      first_of_algorithm wellFormed found
    have bound := least unpromotedKey unpromotedMember unpromotedAlg
      (by simp [((isUnpromoted_iff unpromotedKey).mp unpromoted).1])
    rw [promotionGroup_unpromoted unpromoted] at bound
    have notSigner : promotionGroup doc ≠ 0 := fun zero =>
      noSigner ⟨doc, docMember, docAlg, (promotionGroup_zero doc).mp zero⟩
    have docPromoted := order promoted first found doc docMember docAlg.1 docKid
    have active : doc.status = .active := by
      by_contra inactive
      simp only [promotionGroup, inactive, false_and, if_false] at bound
      omega
    exact noSigner ⟨doc, docMember, docAlg, (isSigner_iff doc).mpr ⟨active, docPromoted⟩⟩
  · intro enough promoted first found key keyMember keyTenant keyKid
    obtain ⟨doc, docMember, docAlg, docCurrent, docKid, least⟩ :=
      first_of_algorithm wellFormed found
    have same : key = doc :=
      wellFormed.admissible.1.eq_of_key_eq keyMember docMember rfl rfl
        (by simp [kidKey, keyTenant, docAlg.1, keyKid, docKid])
    subst same
    rcases enough with noPromoted | ⟨signer, signerMember, signerAlg, isSigner⟩ | noUnpromoted
    · exact (noPromoted promoted).elim
    · have bound := least signer signerMember signerAlg
        (by simp [((isSigner_iff signer).mp isSigner).1])
      rw [(promotionGroup_zero signer).mpr isSigner] at bound
      have zero : promotionGroup key = 0 := by omega
      exact ((isSigner_iff key).mp ((promotionGroup_zero key).mp zero)).2
    · cases status : key.status with
      | active =>
        by_contra unpromoted
        exact noUnpromoted ⟨key, docMember, docAlg,
          (isUnpromoted_iff key).mpr ⟨status, by simpa using unpromoted⟩⟩
      | expiring => exact (wellFormed.rows key docMember).expiringPromoted status
      | retired => exact (docCurrent status).elim

/-! What becomes of a key. -/

def KeyStatus.age : KeyStatus → Nat
  | .active => 0
  | .expiring => 1
  | .retired => 2

theorem KeyStatus.age_le_retired (status : KeyStatus) : status.age ≤ KeyStatus.retired.age := by
  cases status <;> simp [age]

/-- The row later on: the key itself stays, and its status only goes forward. -/
structure Ages (before after : JwksKeyRecord) : Prop where
  sameKid : kidKey after = kidKey before
  sealedKey : after.encrypted_private_key = before.encrypted_private_key
  publicKey : after.public_key = before.public_key
  status : before.status.age ≤ after.status.age

theorem Ages.refl (key : JwksKeyRecord) : Ages key key := ⟨rfl, rfl, rfl, le_rfl⟩

theorem Ages.trans {first second third : JwksKeyRecord} (early : Ages first second)
    (late : Ages second third) : Ages first third where
  sameKid := late.sameKid.trans early.sameKid
  sealedKey := late.sealedKey.trans early.sealedKey
  publicKey := late.publicKey.trans early.publicKey
  status := early.status.trans late.status

/-- No row is lost, and none comes in but a fresh one. -/
structure Lineage (before after : KeyTable) : Prop where
  kept : ∀ key ∈ before, ∃ later ∈ after, Ages key later
  descends : ∀ later ∈ after, (∃ key ∈ before, Ages key later) ∨
    ∃ tenantId promoted fresh, Ages (newRecord tenantId promoted fresh) later

theorem Lineage.refl (table : KeyTable) : Lineage table table where
  kept key member := ⟨key, member, Ages.refl key⟩
  descends later member := Or.inl ⟨later, member, Ages.refl later⟩

section

variable {before table : KeyTable} (lineage : Lineage before table)
include lineage

theorem Lineage.insert (tenantId : String) (promoted : Bool) (generated : List GeneratedKey) :
    Lineage before (table ++ generateKeys tenantId promoted generated) where
  kept key member := by
    obtain ⟨later, isRow, ages⟩ := lineage.kept key member
    exact ⟨later, List.mem_append_left _ isRow, ages⟩
  descends later member := by
    rcases List.mem_append.mp member with old | new
    · exact lineage.descends later old
    · obtain ⟨fresh, _, rfl⟩ := mem_generateKeys new
      exact Or.inr ⟨tenantId, promoted, fresh, Ages.refl _⟩

theorem Lineage.updateMany {matching : JwksKeyRecord → Bool} {data : JwksKeyRecord → JwksKeyRecord}
    (forward : ∀ key, matching key = true → Ages key (data key)) :
    Lineage before (Tables.updateMany matching data table) where
  kept key member := by
    obtain ⟨row, isRow, ages⟩ := lineage.kept key member
    cases selected : matching row with
    | true =>
      refine ⟨data row, ?_, ages.trans (forward row selected)⟩
      exact Tables.mem_updateMany.mpr (Or.inl ⟨row, isRow, selected, rfl⟩)
    | false => exact ⟨row, Tables.mem_updateMany.mpr (Or.inr ⟨isRow, selected⟩), ages⟩
  descends later member := by
    rcases Tables.mem_updateMany.mp member with ⟨old, isRow, selected, rfl⟩ | ⟨isRow, _⟩
    · rcases lineage.descends old isRow with ⟨key, isKey, ages⟩ | ⟨tenantId, promoted, fresh, ages⟩
      · exact Or.inl ⟨key, isKey, ages.trans (forward old selected)⟩
      · exact Or.inr ⟨tenantId, promoted, fresh, ages.trans (forward old selected)⟩
    · exact lineage.descends later isRow

end

theorem Lineage.afterStep {before : KeyTable} (system : System) (event : Event)
    (lineage : Lineage before system.table) : Lineage before (step system event).table := by
  rcases step_table system event with same | ⟨index, now, pending, _, _, changed⟩
  · rw [same]
    exact lineage
  · rw [changed]
    refine access_keeps lineage (fun tenantId promoted generated _ => lineage.insert _ _ _)
      ?_ ?_ ?_ ?_ pending
    · intro tenantId _
      exact lineage.updateMany fun key _ => ⟨rfl, rfl, rfl, le_rfl⟩
    · intro tenantId
      refine lineage.updateMany fun key selected => ⟨rfl, rfl, rfl, ?_⟩
      simp only [Bool.and_eq_true, isSigner_iff] at selected
      simp [selected.2.1, KeyStatus.age]
    · intro tenantId cutoff
      exact lineage.updateMany fun key _ => ⟨rfl, rfl, rfl, key.status.age_le_retired⟩
    · intro tenantId kid
      exact lineage.updateMany fun key _ => ⟨rfl, rfl, rfl, key.status.age_le_retired⟩

theorem Lineage.run {before : KeyTable} {system : System} (lineage : Lineage before system.table)
    (events : List Event) : Lineage before (Runs.run step system events).table :=
  Runs.invariant step (fun state event => Lineage.afterStep state event) lineage events

/-- However the calls of all processes take turns, no key is changed or lost, and none that is
retired is handed out again. -/
theorem keys_age (events later : List Event) :
    let system := Runs.run step emptySystem events
    let next := Runs.run step system later
    Lineage system.table next.table ∧
      ∀ key ∈ system.table, key.status = .retired →
        ∀ jwk ∈ getJWKS key.tenant_id next.table, jwk.kid ≠ key.kid := by
  intro system next
  have lineage : Lineage system.table next.table := (Lineage.refl system.table).run later
  have wellFormed : WellFormedTable next.table := by
    refine Runs.invariant step step_wellFormed ?_ later
    exact Runs.invariant step step_wellFormed emptyTable_wellFormed events
  refine ⟨lineage, ?_⟩
  intro key member isRetired jwk isJwk sameKid
  obtain ⟨doc, isDoc, rfl⟩ := List.mem_map.mp isJwk
  rw [mem_sortByPromotionGroup, mem_findCurrent] at isDoc
  obtain ⟨isRow, sameTenant, isCurrent⟩ := isDoc
  obtain ⟨aged, isAged, ages⟩ := lineage.kept key member
  rw [(wellFormed.rows doc isRow).sealedKid] at sameKid
  have sameKey : kidKey aged = kidKey doc := by
    rw [ages.sameKid, kidKey, kidKey, sameTenant, sameKid]
  have isDoc : aged = doc :=
    wellFormed.admissible.1.eq_of_key_eq isAged isRow rfl rfl sameKey
  have older := ages.status
  rw [isDoc, isRetired] at older
  cases status : doc.status <;> simp_all [KeyStatus.age]

/-- The keys that are published are always those of the provider, in the same order. -/
theorem published_keys (events : List Event) (tenantId : String) :
    getPublicJWKS tenantId (Runs.run step emptySystem events).table =
      getJWKS tenantId (Runs.run step emptySystem events).table := by
  have lineage := (Lineage.refl emptySystem.table).run events
  refine List.map_congr_left fun doc isDoc => ?_
  rw [mem_sortByPromotionGroup, mem_findCurrent] at isDoc
  rcases lineage.descends doc isDoc.1 with ⟨key, none, _⟩ | ⟨tenant, promoted, fresh, ages⟩
  · cases none
  · rw [ages.publicKey, ages.sealedKey]
    rfl

end ParakoId.KeyStore
