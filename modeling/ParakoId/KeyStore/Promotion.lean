import ParakoId.KeyStore.SigningOrder

/-!
When `promoteKeys` can succeed. The partial unique index lets it through exactly
while no algorithm of a tenant has two active keys, whichever of them is promoted.
-/

namespace ParakoId.KeyStore

def ActiveUnique (table : KeyTable) : Prop := Tables.UniqueOn isActive algorithmKey table

def HasActive (table : KeyTable) (tenantId alg : String) : Prop :=
  ∃ key ∈ table, ofAlgorithm tenantId alg key ∧ isActive key = true

instance (table : KeyTable) (tenantId alg : String) : Decidable (HasActive table tenantId alg) :=
  inferInstanceAs (Decidable (∃ key ∈ table, _))

def countSigners (tenantId alg : String) (table : KeyTable) : Nat :=
  table.countP fun key => isSigner key && decide (algorithmKey key = (tenantId, alg))

/-- A `promoteKeys` call now passes the unique index and leaves exactly one signing key
for each algorithm that has an active key. -/
def PromotionSucceeds (table : KeyTable) (tenantId : String) : Prop :=
  ∃ promoted count, promoteUnpromotedActive tenantId table = some (promoted, count) ∧
    ∀ alg, HasActive table tenantId alg → countSigners tenantId alg promoted = 1

variable {table : KeyTable}

theorem ActiveUnique.promotedTable (unique : ActiveUnique table) (tenantId : String) :
    ActiveUnique (promotedTable tenantId table) :=
  unique.updateMany (fun _ => rfl) fun _ _ covered => covered

theorem isActive_of_isSigner (key : JwksKeyRecord) (signer : isSigner key = true) :
    isActive key = true :=
  (isActive_split key).mpr (Or.inl signer)

theorem signer_after_promotion {tenantId : String} {key : JwksKeyRecord}
    (tenant : key.tenant_id = tenantId) (active : isActive key = true) :
    isSigner (if key.tenant_id == tenantId && isUnpromoted key then
      { key with promoted := true } else key) = true := by
  rw [isActive_iff] at active
  cases promoted : key.promoted <;>
    simp [isSigner, isUnpromoted, tenant, active, promoted]

theorem promotion_of_unique (admissible : Admissible table) (unique : ActiveUnique table)
    (tenantId : String) : PromotionSucceeds table tenantId := by
  have signers : UniqueSigner (promotedTable tenantId table) :=
    (unique.promotedTable tenantId).weaken isActive_of_isSigner
  have accepted : Admissible (promotedTable tenantId table) :=
    ⟨admissible.1.updateMany (fun _ => rfl) (fun _ _ _ => rfl), signers⟩
  refine ⟨promotedTable tenantId table, _, if_pos accepted, ?_⟩
  rintro alg ⟨key, member, ⟨tenant, keyAlg⟩, active⟩
  have atMost := signers.countP_le_one (tenantId, alg)
  have signer := signer_after_promotion tenant active
  have atLeast : 0 < countSigners tenantId alg (promotedTable tenantId table) := by
    rw [countSigners, List.countP_pos_iff]
    refine ⟨_, List.mem_map_of_mem member, ?_⟩
    simp only [signer, Bool.true_and, decide_eq_true_eq]
    split <;> simp [algorithmKey, tenant, keyAlg]
  simp only [countSigners] at atLeast ⊢
  omega

theorem unique_of_promotion (succeeds : ∀ tenantId, PromotionSucceeds table tenantId) :
    ActiveUnique table := by
  refine List.pairwise_iff_forall_sublist.mpr ?_
  intro first second pair firstActive secondActive same
  have sameTenant : first.tenant_id = second.tenant_id := congrArg Prod.fst same
  obtain ⟨promoted, count, accepted, _⟩ := succeeds first.tenant_id
  have signers := (promote_some accepted).2.2
  have mapped := List.pairwise_iff_forall_sublist.mp (List.pairwise_map.mp signers) pair
  refine mapped (signer_after_promotion rfl firstActive)
    (signer_after_promotion sameTenant.symm secondActive) ?_
  have kept (key : JwksKeyRecord) : algorithmKey (if key.tenant_id == first.tenant_id &&
      isUnpromoted key then { key with promoted := true } else key) = algorithmKey key := by
    split <;> rfl
  rw [kept, kept, same]

theorem promotion_iff (admissible : Admissible table) :
    (∀ tenantId, PromotionSucceeds table tenantId) ↔ ActiveUnique table :=
  ⟨unique_of_promotion, promotion_of_unique admissible⟩

theorem activeUnique_insert {tenantId : String} {promoted : Bool} {generated : List GeneratedKey} :
    ActiveUnique (table ++ generateKeys tenantId promoted generated) ↔
      ActiveUnique table ∧ (generated.map (·.alg)).Nodup ∧
        ∀ key ∈ table, key.tenant_id = tenantId → isActive key = true →
          key.alg ∉ generated.map (·.alg) := by
  have newActive (fresh : GeneratedKey) : isActive (newRecord tenantId promoted fresh) = true := by
    simp [isActive, newRecord]
  have newKeys : Tables.UniqueOn isActive algorithmKey (generateKeys tenantId promoted generated) ↔
      (generated.map (·.alg)).Nodup := by
    rw [Tables.UniqueOn, generateKeys, List.pairwise_map, List.Nodup, List.pairwise_map]
    simp only [newActive, true_implies]
    simp [algorithmKey, newRecord]
  rw [ActiveUnique, Tables.UniqueOn.append_iff, newKeys]
  refine and_congr_right fun _ => and_congr_right fun _ => ?_
  constructor
  · intro apart key member tenant active generatedAlg
    obtain ⟨fresh, freshMember, sameAlg⟩ := List.mem_map.mp generatedAlg
    refine apart key member (newRecord tenantId promoted fresh)
      (List.mem_map_of_mem freshMember) active (newActive fresh) ?_
    simp [algorithmKey, newRecord, tenant, sameAlg]
  · intro fresh key member new newMember active _ same
    obtain ⟨made, madeMember, rfl⟩ := mem_generateKeys newMember
    simp only [algorithmKey, newRecord, Prod.mk.injEq] at same
    exact fresh key member same.1 active (List.mem_map.mpr ⟨made, madeMember, same.2.symm⟩)

def FreshInsert (table : KeyTable) (tenantId : String) (promoted : Bool)
    (generated : List GeneratedKey) : Prop :=
  ¬Admissible (table ++ generateKeys tenantId promoted generated) ∨
    ((generated.map (·.alg)).Nodup ∧
      ∀ key ∈ table, key.tenant_id = tenantId → isActive key = true →
        key.alg ∉ generated.map (·.alg))

def InsertsFresh (system : System) : Event → Prop
  | .start _ _ _ => True
  | .turn index _ =>
    match system.calls[index]? with
    | some (.insertInitial tenantId generated) => FreshInsert system.table tenantId true generated
    | some (.insertRotated _ tenantId generated) =>
      FreshInsert system.table tenantId false generated
    | _ => True

theorem insert_unique_iff {tenantId : String} {promoted : Bool} {generated : List GeneratedKey}
    (unique : ActiveUnique table) :
    ActiveUnique ((insertMany (generateKeys tenantId promoted generated) table).getD table) ↔
      FreshInsert table tenantId promoted generated := by
  by_cases admissible : Admissible (table ++ generateKeys tenantId promoted generated)
  · simp only [insertMany, admissible, if_true, Option.getD_some, activeUnique_insert, unique,
      FreshInsert, not_true_eq_false, true_and, false_or]
  · simp [insertMany, admissible, FreshInsert, unique]

theorem access_unique_iff (unique : ActiveUnique table) (now : Nat) (pending : PendingCall) :
    ActiveUnique (access now table pending).1 ↔
      match pending with
      | .insertInitial tenantId generated => FreshInsert table tenantId true generated
      | .insertRotated _ tenantId generated => FreshInsert table tenantId false generated
      | _ => True := by
  cases pending with
  | insertInitial tenantId generated =>
    change _ ↔ FreshInsert table tenantId true generated
    rw [← insert_unique_iff unique, access]
    split <;> rename_i accepted <;> simp [accepted]
  | insertRotated process tenantId generated =>
    change _ ↔ FreshInsert table tenantId false generated
    rw [← insert_unique_iff unique, access]
    split <;> rename_i accepted <;> simp [accepted]
  | countForInitialize _ _ | recountForInitialize _ | readForRetire _ _ =>
    simp only [access]; split <;> simp [unique]
  | markExpiring process tenantId =>
    simp only [access, iff_true]
    exact unique.updateMany (fun _ => rfl) fun row _ covered => by simp [isActive] at covered
  | promoteUnpromoted tenantId =>
    simp only [access, iff_true]
    split
    · rename_i promoted count accepted
      rw [(promote_some accepted).1]
      exact unique.promotedTable tenantId
    · exact unique
  | retireExpiring tenantId overlapSeconds =>
    simp only [access, retireExpired, iff_true]
    exact unique.updateMany (fun _ => rfl) fun row _ covered => by simp [isActive] at covered
  | writeRetired kid tenantId keys =>
    simp only [access, retireByKid, iff_true]
    exact unique.updateMany (fun _ => rfl) fun row _ covered => by simp [isActive] at covered

theorem step_promotion_iff (system : System) (event : Event)
    (wellFormed : WellFormedTable system.table)
    (succeeds : ∀ tenantId, PromotionSucceeds system.table tenantId) :
    (∀ tenantId, PromotionSucceeds (step system event).table tenantId) ↔
      InsertsFresh system event := by
  rw [promotion_iff (step_wellFormed system event wellFormed).admissible]
  have unique := unique_of_promotion succeeds
  cases event with
  | start process now method => simp [start_table, InsertsFresh, unique]
  | turn index now =>
    cases found : system.calls[index]? with
    | none => simp [step, InsertsFresh, found, unique]
    | some pending =>
      have changed : (step system (.turn index now)).table =
          (access now system.table pending).1 := by simp [step, found]
      rw [changed, access_unique_iff unique]
      cases pending <;> simp [InsertsFresh, found]

/-- From every state of a run a promotion succeeds with one signing key for each
algorithm exactly when no insert of the run adds a second active key of an algorithm.
A crash is covered: the run just stops giving a call its turns. -/
theorem promotion_along_runs (events : List Event) :
    Runs.AlwaysFrom step (fun system => ∀ tenantId, PromotionSucceeds system.table tenantId)
        emptySystem events ↔
      Runs.AllowedFrom step InsertsFresh emptySystem events := by
  have initial : WellFormedTable emptySystem.table := emptyTable_wellFormed
  exact Runs.always_iff_allowed step step_wellFormed step_promotion_iff initial
    (promotion_of_unique initial.admissible List.Pairwise.nil)

def crashedRotation : List Event :=
  [.start 0 0 (.initializeKeys "default" [⟨"RS256", "old", 0⟩]), .turn 0 0, .turn 0 0,
    .start 0 60000 (.rotate "default" [⟨"RS256", "new", 60000⟩]), .turn 0 60000]

theorem promotion_fails_after_crash :
    ¬PromotionSucceeds (Runs.run step emptySystem crashedRotation).table "default" := by
  rintro ⟨promoted, count, accepted, _⟩
  have refused : promoteUnpromotedActive "default"
      (Runs.run step emptySystem crashedRotation).table = none := by decide
  simp [refused] at accepted

end ParakoId.KeyStore
