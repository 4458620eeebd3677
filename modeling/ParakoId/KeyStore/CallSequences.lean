import ParakoId.KeyStore.SigningOrder

/-! The signing order over sequences of calls that run one after another. -/

namespace ParakoId.KeyStore

structure AloneCall where
  process : Nat
  now : Nat
  method : Method

def callAlone (system : System) (request : AloneCall) : System :=
  Runs.run step system (uninterrupted request.process request.now request.method)

def Separated (table : KeyTable) : Prop :=
  ∀ signer ∈ table, isSigner signer = true →
    ∀ key ∈ table, isUnpromoted key = true → signer.tenant_id ≠ key.tenant_id

structure AloneInvariant (system : System) : Prop where
  idle : system.calls = []
  wellFormed : WellFormedTable system.table
  separated : Separated system.table

theorem emptySystem_alone : AloneInvariant emptySystem where
  idle := rfl
  wellFormed := emptyTable_wellFormed
  separated := by simp [Separated, emptySystem]

theorem callAlone_table {system : System} (idle : system.calls = []) (request : AloneCall) :
    (callAlone system request).table =
      (call (system.storeOf request.process) request.now request.method).1.table := by
  have alone := (uninterrupted_call system idle request.process request.now request.method).2
  rw [← alone]
  rfl

inductive TableChange (table : KeyTable) (now : Nat) : Method → KeyTable → Prop
  | unchanged (method) : TableChange table now method table
  | initialized {tenantId generated} : countCurrent tenantId table = 0 →
      Admissible (table ++ generateKeys tenantId true generated) →
      TableChange table now (.initializeKeys tenantId generated)
        (table ++ generateKeys tenantId true generated)
  | rotated {tenantId generated} : Admissible (table ++ generateKeys tenantId false generated) →
      TableChange table now (.rotate tenantId generated)
        (markPromotedActiveExpiring tenantId now (table ++ generateKeys tenantId false generated))
  | promoted {tenantId} : Admissible (promotedTable tenantId table) →
      TableChange table now (.promoteKeys tenantId) (promotedTable tenantId table)
  | retiredExpired (tenantId overlapSeconds) :
      TableChange table now (.retireExpiredKeys tenantId overlapSeconds)
        (retireExpired tenantId (overlapCutoff now overlapSeconds) table).1
  | retiredKey (kid tenantId) : TableChange table now (.retireKey kid tenantId)
        (retireByKid tenantId kid table).1

theorem call_change (store : Store) (now : Nat) (method : Method) :
    TableChange store.table now method (call store now method).1.table := by
  cases method with
  | initializeKeys tenantId generated =>
    simp only [call, initializeKeys]
    split
    · rename_i empty
      split
      · rename_i inserted accepted
        obtain ⟨rfl, admissible⟩ := insertMany_some accepted
        exact .initialized empty admissible
      · exact .unchanged _
    · exact .unchanged _
  | rotate tenantId generated =>
    simp only [call, rotate]
    split
    · split
      · rename_i inserted accepted
        obtain ⟨rfl, admissible⟩ := insertMany_some accepted
        exact .rotated admissible
      · exact .unchanged _
    · exact .unchanged _
  | promoteKeys tenantId =>
    simp only [call, promoteKeys]
    split
    · rename_i promoted count accepted
      obtain ⟨rfl, admissible⟩ := promote_some accepted
      exact .promoted admissible
    · exact .unchanged _
  | retireExpiredKeys tenantId overlapSeconds => exact .retiredExpired tenantId overlapSeconds
  | retireKey kid tenantId =>
    simp only [call, retireKey]
    split
    · exact .unchanged _
    · exact .retiredKey kid tenantId

variable {table after : KeyTable} {now : Nat} {tenantId alg : String} {key : JwksKeyRecord}
  {generated : List GeneratedKey}

theorem TableChange.wellFormed {method : Method} (change : TableChange table now method after)
    (wellFormed : WellFormedTable table) : WellFormedTable after := by
  cases change with
  | unchanged method => exact wellFormed
  | initialized empty admissible => exact wellFormed.append admissible
  | rotated admissible =>
    exact (wellFormed.append admissible).mark _ now
  | promoted admissible => exact wellFormed.promotedTable admissible
  | retiredExpired tenantId overlapSeconds => exact wellFormed.retireExpired tenantId _
  | retiredKey kid tenantId => exact wellFormed.retireByKid tenantId kid

theorem signer_of_mark (member : key ∈ markPromotedActiveExpiring tenantId now table)
    (signer : isSigner key = true) : key ∈ table ∧ key.tenant_id ≠ tenantId := by
  rcases Tables.mem_updateMany.mp member with ⟨old, _, _, rfl⟩ | ⟨oldMember, unselected⟩
  · simp [isSigner] at signer
  · refine ⟨oldMember, ?_⟩
    rintro rfl
    simp [signer] at unselected

theorem unpromoted_of_mark (member : key ∈ markPromotedActiveExpiring tenantId now table)
    (unpromoted : isUnpromoted key = true) : key ∈ table := by
  rcases Tables.mem_updateMany.mp member with ⟨old, _, _, rfl⟩ | ⟨oldMember, _⟩
  · simp [isUnpromoted] at unpromoted
  · exact oldMember

theorem unpromoted_of_promoted (member : key ∈ promotedTable tenantId table)
    (unpromoted : isUnpromoted key = true) : key ∈ table ∧ key.tenant_id ≠ tenantId := by
  rcases Tables.mem_updateMany.mp member with ⟨old, _, _, rfl⟩ | ⟨oldMember, unselected⟩
  · simp [isUnpromoted] at unpromoted
  · refine ⟨oldMember, ?_⟩
    rintro rfl
    simp [unpromoted] at unselected

theorem signer_of_promoted (member : key ∈ promotedTable tenantId table)
    (signer : isSigner key = true) (other : key.tenant_id ≠ tenantId) : key ∈ table := by
  rcases Tables.mem_updateMany.mp member with ⟨old, _, selected, rfl⟩ | ⟨oldMember, _⟩
  · simp only [Bool.and_eq_true, beq_iff_eq] at selected
    exact (other selected.1).elim
  · exact oldMember

theorem current_of_retired {matching : JwksKeyRecord → Bool}
    {data : JwksKeyRecord → JwksKeyRecord} (retires : ∀ row, (data row).status = .retired)
    (member : key ∈ Tables.updateMany matching data table) (current : key.status ≠ .retired) :
    key ∈ table := by
  rcases Tables.mem_updateMany.mp member with ⟨old, _, _, rfl⟩ | ⟨oldMember, _⟩
  · exact (current (retires old)).elim
  · exact oldMember

theorem signer_current (signer : isSigner key = true) : key.status ≠ .retired := by
  simp [((isSigner_iff key).mp signer).1]

theorem unpromoted_current (unpromoted : isUnpromoted key = true) : key.status ≠ .retired := by
  simp [((isUnpromoted_iff key).mp unpromoted).1]

theorem noCurrent_of_count (empty : countCurrent tenantId table = 0) (member : key ∈ table)
    (tenant : key.tenant_id = tenantId) : key.status = .retired := by
  have absent := List.countP_eq_zero.mp empty key member
  cases status : key.status <;> simp_all [isCurrent]

theorem newRecord_signer {promoted : Bool} {fresh : GeneratedKey} :
    isSigner (newRecord tenantId promoted fresh) = promoted := by
  simp [isSigner, newRecord]

theorem newRecord_unpromoted {promoted : Bool} {fresh : GeneratedKey} :
    isUnpromoted (newRecord tenantId promoted fresh) = !promoted := by
  simp [isUnpromoted, newRecord]

theorem unpromoted_of_initialized (member : key ∈ table ++ generateKeys tenantId true generated)
    (unpromoted : isUnpromoted key = true) : key ∈ table := by
  rcases List.mem_append.mp member with old | new
  · exact old
  · obtain ⟨fresh, _, rfl⟩ := mem_generateKeys new
    simp [newRecord_unpromoted] at unpromoted

theorem TableChange.separated {method : Method} (change : TableChange table now method after)
    (separated : Separated table) : Separated after := by
  cases change with
  | unchanged method => exact separated
  | initialized empty admissible =>
    intro signer signerMember isSigner key keyMember unpromoted
    have old := unpromoted_of_initialized keyMember unpromoted
    rcases List.mem_append.mp signerMember with oldSigner | newSigner
    · exact separated signer oldSigner isSigner key old unpromoted
    · obtain ⟨fresh, _, rfl⟩ := mem_generateKeys newSigner
      intro sameTenant
      exact unpromoted_current unpromoted (noCurrent_of_count empty old sameTenant.symm)
  | @rotated tenantId generated admissible =>
    intro signer signerMember isSigner key keyMember unpromoted
    obtain ⟨inserted, otherTenant⟩ := signer_of_mark signerMember isSigner
    have keyInserted := unpromoted_of_mark keyMember unpromoted
    have old : signer ∈ table := by
      rcases List.mem_append.mp inserted with old | new
      · exact old
      · obtain ⟨fresh, _, rfl⟩ := mem_generateKeys new
        simp [newRecord_signer] at isSigner
    rcases List.mem_append.mp keyInserted with oldKey | newKey
    · exact separated signer old isSigner key oldKey unpromoted
    · obtain ⟨fresh, _, rfl⟩ := mem_generateKeys newKey
      exact otherTenant
  | @promoted tenantId admissible =>
    intro signer signerMember isSigner key keyMember unpromoted sameTenant
    obtain ⟨old, otherTenant⟩ := unpromoted_of_promoted keyMember unpromoted
    have oldSigner := signer_of_promoted signerMember isSigner (by rwa [sameTenant])
    exact separated signer oldSigner isSigner key old unpromoted sameTenant
  | retiredExpired _ _ | retiredKey _ _ =>
    intro signer signerMember isSigner key keyMember unpromoted
    exact separated signer (current_of_retired (fun _ => rfl) signerMember (signer_current isSigner))
      isSigner key (current_of_retired (fun _ => rfl) keyMember (unpromoted_current unpromoted))
      unpromoted

theorem callAlone_invariant (system : System) (request : AloneCall)
    (invariant : AloneInvariant system) : AloneInvariant (callAlone system request) := by
  have change := call_change (system.storeOf request.process) request.now request.method
  rw [← callAlone_table invariant.idle] at change
  exact ⟨(uninterrupted_call system invariant.idle request.process request.now request.method).1,
    change.wellFormed invariant.wellFormed, change.separated invariant.separated⟩

def KeepsOrder (table : KeyTable) : Prop := ∀ tenantId alg, SigningOrder table tenantId alg

theorem keepsOrder_iff (wellFormed : WellFormedTable table) (separated : Separated table) :
    KeepsOrder table ↔ ∀ tenantId alg, HasPromoted table tenantId alg →
      ¬HasUnpromoted table tenantId alg := by
  refine forall_congr' fun tenantId => forall_congr' fun alg => ?_
  rw [signingOrder_iff wellFormed]
  constructor
  · rintro (noPromoted | signer | noUnpromoted) promoted
    · exact (noPromoted promoted).elim
    · rintro ⟨key, member, keyAlg, unpromoted⟩
      obtain ⟨signer, signerMember, signerAlg, isSigner⟩ := signer
      exact separated signer signerMember isSigner key member unpromoted
        (signerAlg.1.trans keyAlg.1.symm)
    · exact noUnpromoted
  · intro exclusive
    by_cases promoted : HasPromoted table tenantId alg
    · exact Or.inr (Or.inr (exclusive promoted))
    · exact Or.inl promoted

/-- `guardRapidRotation` or a unique index stops the rotation before it changes a row. -/
def RotationRefused (system : System) (process now : Nat) (tenantId : String)
    (generated : List GeneratedKey) : Prop :=
  rotationAllowed (system.lastRotationAt process tenantId) now = false ∨
    ¬Admissible (system.table ++ generateKeys tenantId false generated)

def RotatesUnsigned (system : System) (request : AloneCall) : Prop :=
  match request.method with
  | .rotate tenantId generated =>
    RotationRefused system request.process request.now tenantId generated ∨
      ∀ alg, HasPromoted system.table tenantId alg →
        alg ∉ generated.map (·.alg) ∧ ¬HasUnpromoted system.table tenantId alg
  | _ => True

theorem hasPromoted_of_rows
    (rows : ∀ key ∈ after, key.tenant_id = tenantId → key.status ≠ .retired →
      key.promoted = true → ∃ old ∈ table, old.tenant_id = tenantId ∧ old.alg = key.alg ∧
        old.status ≠ .retired ∧ old.promoted = true) (promoted : HasPromoted after tenantId alg) :
    HasPromoted table tenantId alg := by
  obtain ⟨key, member, keyAlg, current, isPromoted⟩ := promoted
  obtain ⟨old, oldMember, oldTenant, oldAlg, oldCurrent, oldPromoted⟩ :=
    rows key member keyAlg.1 current isPromoted
  exact ⟨old, oldMember, ⟨oldTenant, oldAlg.trans keyAlg.2⟩, oldCurrent, oldPromoted⟩

theorem hasPromoted_mark {owner : String} :
    HasPromoted (markPromotedActiveExpiring owner now table) tenantId alg ↔
      HasPromoted table tenantId alg := by
  constructor
  · apply hasPromoted_of_rows
    intro key member tenant current promoted
    rcases Tables.mem_updateMany.mp member with ⟨old, oldMember, selected, rfl⟩ | ⟨oldMember, _⟩
    · simp only [Bool.and_eq_true, isSigner_iff] at selected
      exact ⟨old, oldMember, tenant, rfl, by simp [selected.2.1], selected.2.2⟩
    · exact ⟨key, oldMember, tenant, rfl, current, promoted⟩
  · rintro ⟨key, member, keyAlg, current, promoted⟩
    by_cases selected : (key.tenant_id == owner && isSigner key) = true
    · exact ⟨_, Tables.mem_updateMany.mpr (Or.inl ⟨key, member, selected, rfl⟩), keyAlg,
        by simp, promoted⟩
    · exact ⟨key, Tables.mem_updateMany.mpr (Or.inr ⟨member, by simpa using selected⟩), keyAlg,
        current, promoted⟩

theorem hasPromoted_insertUnpromoted {owner : String} :
    HasPromoted (table ++ generateKeys owner false generated) tenantId alg ↔
      HasPromoted table tenantId alg := by
  constructor
  · apply hasPromoted_of_rows
    intro key member tenant current promoted
    rcases List.mem_append.mp member with old | new
    · exact ⟨key, old, tenant, rfl, current, promoted⟩
    · obtain ⟨fresh, _, rfl⟩ := mem_generateKeys new
      simp [newRecord] at promoted
  · rintro ⟨key, member, rest⟩
    exact ⟨key, List.mem_append_left _ member, rest⟩

theorem hasUnpromoted_mark {owner : String} :
    HasUnpromoted (markPromotedActiveExpiring owner now table) tenantId alg ↔
      HasUnpromoted table tenantId alg := by
  constructor
  · rintro ⟨key, member, keyAlg, unpromoted⟩
    exact ⟨key, unpromoted_of_mark member unpromoted, keyAlg, unpromoted⟩
  · rintro ⟨key, member, keyAlg, unpromoted⟩
    refine ⟨key, Tables.mem_updateMany.mpr (Or.inr ⟨member, ?_⟩), keyAlg, unpromoted⟩
    have notSigner : isSigner key = false := by
      simp [isSigner, (isUnpromoted_iff key).mp unpromoted]
    simp [notSigner]

theorem hasUnpromoted_insertUnpromoted {owner : String} :
    HasUnpromoted (table ++ generateKeys owner false generated) tenantId alg ↔
      HasUnpromoted table tenantId alg ∨ (owner = tenantId ∧ alg ∈ generated.map (·.alg)) := by
  constructor
  · rintro ⟨key, member, keyAlg, unpromoted⟩
    rcases List.mem_append.mp member with old | new
    · exact Or.inl ⟨key, old, keyAlg, unpromoted⟩
    · obtain ⟨fresh, freshMember, rfl⟩ := mem_generateKeys new
      exact Or.inr ⟨keyAlg.1, List.mem_map.mpr ⟨fresh, freshMember, keyAlg.2⟩⟩
  · rintro (⟨key, member, rest⟩ | ⟨rfl, generatedAlg⟩)
    · exact ⟨key, List.mem_append_left _ member, rest⟩
    · obtain ⟨fresh, freshMember, rfl⟩ := List.mem_map.mp generatedAlg
      exact ⟨newRecord owner false fresh,
        List.mem_append_right _ (List.mem_map_of_mem freshMember), ⟨rfl, rfl⟩,
        newRecord_unpromoted⟩

theorem keepsOrder_of_rows (wellFormed : WellFormedTable table) (separated : Separated table)
    (wellFormedAfter : WellFormedTable after) (separatedAfter : Separated after)
    (order : KeepsOrder table)
    (rows : ∀ tenantId alg, HasPromoted after tenantId alg → HasUnpromoted after tenantId alg →
      HasPromoted table tenantId alg ∧ HasUnpromoted table tenantId alg) : KeepsOrder after := by
  rw [keepsOrder_iff wellFormedAfter separatedAfter]
  rw [keepsOrder_iff wellFormed separated] at order
  intro tenantId alg promoted unpromoted
  obtain ⟨oldPromoted, oldUnpromoted⟩ := rows tenantId alg promoted unpromoted
  exact order tenantId alg oldPromoted oldUnpromoted

theorem TableChange.keepsOrder {method : Method} (change : TableChange table now method after)
    (wellFormed : WellFormedTable table) (separated : Separated table) (order : KeepsOrder table)
    (noRotation : ∀ tenantId generated, method = .rotate tenantId generated → after = table) :
    KeepsOrder after := by
  have wellFormedAfter := change.wellFormed wellFormed
  have separatedAfter := change.separated separated
  cases change with
  | unchanged method => exact order
  | @initialized tenantId generated empty admissible =>
    apply keepsOrder_of_rows wellFormed separated wellFormedAfter separatedAfter order
    rintro tenant alg ⟨promotedKey, promotedMember, promotedAlg, promotedRest⟩
      ⟨key, member, keyAlg, unpromoted⟩
    have old := unpromoted_of_initialized member unpromoted
    refine ⟨?_, key, old, keyAlg, unpromoted⟩
    rcases List.mem_append.mp promotedMember with oldPromoted | newPromoted
    · exact ⟨promotedKey, oldPromoted, promotedAlg, promotedRest⟩
    · obtain ⟨fresh, _, rfl⟩ := mem_generateKeys newPromoted
      have retired := noCurrent_of_count empty old (keyAlg.1.trans promotedAlg.1.symm)
      exact (unpromoted_current unpromoted retired).elim
  | rotated admissible =>
    rw [noRotation _ _ rfl]
    exact order
  | @promoted tenantId admissible =>
    apply keepsOrder_of_rows wellFormed separated wellFormedAfter separatedAfter order
    rintro tenant alg promoted ⟨key, member, keyAlg, unpromoted⟩
    obtain ⟨old, otherTenant⟩ := unpromoted_of_promoted member unpromoted
    refine ⟨?_, key, old, keyAlg, unpromoted⟩
    refine hasPromoted_of_rows ?_ promoted
    intro other otherMember otherOwner current isPromoted
    rcases Tables.mem_updateMany.mp otherMember with ⟨row, _, selected, rfl⟩ | ⟨rowMember, _⟩
    · simp only [Bool.and_eq_true, beq_iff_eq] at selected
      exact (otherTenant (keyAlg.1.trans (otherOwner.symm.trans selected.1))).elim
    · exact ⟨other, rowMember, otherOwner, rfl, current, isPromoted⟩
  | retiredExpired _ _ | retiredKey _ _ =>
    apply keepsOrder_of_rows wellFormed separated wellFormedAfter separatedAfter order
    rintro tenant alg ⟨promotedKey, promotedMember, promotedAlg, current, isPromoted⟩
      ⟨key, member, keyAlg, unpromoted⟩
    have oldPromoted := current_of_retired (fun _ => rfl) promotedMember current
    have old := current_of_retired (fun _ => rfl) member (unpromoted_current unpromoted)
    exact ⟨⟨promotedKey, oldPromoted, promotedAlg, current, isPromoted⟩,
      key, old, keyAlg, unpromoted⟩

theorem rotated_keepsOrder_iff (wellFormed : WellFormedTable table) (separated : Separated table)
    (order : KeepsOrder table)
    (admissible : Admissible (table ++ generateKeys tenantId false generated)) :
    KeepsOrder (markPromotedActiveExpiring tenantId now
        (table ++ generateKeys tenantId false generated)) ↔
      ∀ alg, HasPromoted table tenantId alg →
        alg ∉ generated.map (·.alg) ∧ ¬HasUnpromoted table tenantId alg := by
  have change : TableChange table now (.rotate tenantId generated) _ := .rotated admissible
  rw [keepsOrder_iff (change.wellFormed wellFormed) (change.separated separated)]
  rw [keepsOrder_iff wellFormed separated] at order
  simp only [hasPromoted_mark, hasPromoted_insertUnpromoted, hasUnpromoted_mark,
    hasUnpromoted_insertUnpromoted, not_or, not_and]
  constructor
  · intro all alg promoted
    obtain ⟨noUnpromoted, notGenerated⟩ := all tenantId alg promoted
    exact ⟨notGenerated rfl, noUnpromoted⟩
  · intro unsigned tenant alg promoted
    refine ⟨order tenant alg promoted, ?_⟩
    rintro rfl
    exact (unsigned alg promoted).1

theorem callAlone_keepsOrder_iff (system : System) (request : AloneCall)
    (invariant : AloneInvariant system) (order : KeepsOrder system.table) :
    KeepsOrder (callAlone system request).table ↔ RotatesUnsigned system request := by
  rw [callAlone_table invariant.idle]
  obtain ⟨process, now, method⟩ := request
  have change := call_change (system.storeOf process) now method
  cases method with
  | rotate tenantId generated =>
    simp only [RotatesUnsigned, RotationRefused, call, rotate, System.storeOf]
    by_cases allowed : rotationAllowed (system.lastRotationAt process tenantId) now = true
    · by_cases admissible : Admissible (system.table ++ generateKeys tenantId false generated)
      · simp only [allowed, if_true, insertMany, admissible, not_true_eq_false,
          Bool.true_eq_false, false_or]
        exact rotated_keepsOrder_iff invariant.wellFormed invariant.separated order admissible
      · simp [allowed, insertMany, admissible, order]
    · simp [allowed, order]
  | initializeKeys _ _ | promoteKeys _ | retireExpiredKeys _ _ | retireKey _ _ =>
    simpa [RotatesUnsigned] using
      change.keepsOrder invariant.wellFormed invariant.separated order (by simp)

theorem emptySystem_keepsOrder : KeepsOrder emptySystem.table := by
  have wellFormed : WellFormedTable emptySystem.table := emptyTable_wellFormed
  rw [keepsOrder_iff wellFormed emptySystem_alone.separated]
  rintro tenantId alg ⟨key, member, _⟩
  simp [emptySystem] at member

/-- The first key of every algorithm is never an unpromoted one, in all states of a
sequence of calls, exactly when no rotation of the sequence meets a promoted key of an
algorithm that it leaves unpromoted. -/
theorem signing_order_along_calls (requests : List AloneCall) :
    Runs.AlwaysFrom callAlone (fun system => KeepsOrder system.table) emptySystem requests ↔
      Runs.AllowedFrom callAlone RotatesUnsigned emptySystem requests :=
  Runs.always_iff_allowed callAlone callAlone_invariant callAlone_keepsOrder_iff
    emptySystem_alone emptySystem_keepsOrder

def initialRequest : AloneCall :=
  { process := 0, now := 0, method := .initializeKeys "default" [⟨"RS256", "old", 0⟩] }

def rotationRequest : AloneCall :=
  { process := 0, now := 60000, method := .rotate "default" [⟨"RS256", "new", 60000⟩] }

theorem rotation_signs_unpromoted :
    ¬SigningOrder (Runs.run callAlone emptySystem [initialRequest, rotationRequest]).table
      "default" "RS256" := by
  have wellFormed := (Runs.invariant callAlone callAlone_invariant emptySystem_alone
    [initialRequest, rotationRequest]).wellFormed
  rw [signingOrder_iff wellFormed]
  decide

end ParakoId.KeyStore
