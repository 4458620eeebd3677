import ParakoId.KeyStore.Promotion

/-! What keeps a tenant from losing its keys. -/

namespace ParakoId.KeyStore

def HasSigningKey (table : KeyTable) (tenantId : String) : Prop :=
  ∃ key ∈ table, key.tenant_id = tenantId ∧ isSigner key = true

instance (table : KeyTable) (tenantId : String) : Decidable (HasSigningKey table tenantId) :=
  inferInstanceAs (Decidable (∃ key ∈ table, _))

def ChecksCurrentKeys (system : System) : Event → Prop
  | .start _ _ _ => True
  | .turn index _ =>
    match system.calls[index]? with
    | some (.writeRetired _ tenantId keys) => keys = findAll tenantId system.table
    | _ => True

def Demotes (tenantId : String) (system : System) : Event → Prop
  | .start _ _ _ => False
  | .turn index _ =>
    match system.calls[index]? with
    | some (.markExpiring _ owner) => owner = tenantId
    | _ => False

def LeavesAlgorithm (tenantId alg : String) (system : System) : Event → Prop
  | .start _ _ _ => True
  | .turn index _ =>
    match system.calls[index]? with
    | some (.writeRetired kid owner _) => owner = tenantId →
        ∃ key ∈ system.table, ofAlgorithm tenantId alg key ∧ isActive key = true ∧ key.kid ≠ kid
    | some (.markExpiring _ owner) => owner = tenantId → HasUnpromoted system.table tenantId alg
    | _ => True

def WritesGuarded (calls : List PendingCall) : Prop :=
  ∀ kid tenantId keys, PendingCall.writeRetired kid tenantId keys ∈ calls →
    retireGuard kid keys = none

variable {kid tenantId : String} {table : KeyTable} {key : JwksKeyRecord}

theorem begin_not_write {process now : Nat} {lastRotationAt : String → Option Nat}
    {method : Method} {keys : List JwksKeyRecord} :
    begin process now lastRotationAt method ≠ .inl (.writeRetired kid tenantId keys) := by
  cases method <;> simp only [begin] <;> try split
  all_goals simp

theorem access_write {now : Nat} {pending : PendingCall} {keys : List JwksKeyRecord}
    (next : (access now table pending).2 = .inl (.writeRetired kid tenantId keys)) :
    retireGuard kid keys = none := by
  cases pending with
  | readForRetire readKid readTenant =>
    simp only [access] at next
    split at next
    · simp at next
    · rename_i passed
      simp only [Sum.inl.injEq, PendingCall.writeRetired.injEq] at next
      obtain ⟨rfl, rfl, rfl⟩ := next
      exact passed
  | countForInitialize _ _ | recountForInitialize _ | insertInitial _ _ | promoteUnpromoted _ =>
    simp only [access] at next; split at next <;> simp at next
  | insertRotated process tenantId generated =>
    simp only [access] at next
    split at next <;> simp at next
  | markExpiring _ _ | retireExpiring _ _ | writeRetired _ _ _ => simp [access] at next

theorem step_writesGuarded (system : System) (event : Event)
    (guarded : WritesGuarded system.calls) : WritesGuarded (step system event).calls := by
  intro kid tenantId keys member
  cases event with
  | start process now method =>
    simp only [step] at member
    split at member
    · rename_i pending begun
      rcases List.mem_append.mp member with old | new
      · exact guarded kid tenantId keys old
      · rw [← List.mem_singleton.mp new] at begun
        exact (begin_not_write begun).elim
    · exact guarded kid tenantId keys member
  | turn index now =>
    cases found : system.calls[index]? with
    | none =>
      simp only [step, found] at member
      exact guarded kid tenantId keys member
    | some pending =>
      simp only [step, found] at member
      split at member
      · rename_i next continued
        rcases List.mem_or_eq_of_mem_set member with old | new
        · exact guarded kid tenantId keys old
        · rw [← new] at continued
          exact access_write continued
      · exact guarded kid tenantId keys (List.mem_of_mem_eraseIdx member)

theorem access_admissible (admissible : Admissible table) (now : Nat) (pending : PendingCall) :
    Admissible (access now table pending).1 :=
  access_keeps admissible (fun _ _ _ kept => kept) (fun _ kept => kept)
    (fun tenantId => admissible.mark tenantId now) admissible.retireExpired
    admissible.retireByKid pending

theorem mem_findAll : key ∈ findAll tenantId table ↔ key ∈ table ∧ key.tenant_id = tenantId := by
  rw [findAll, (List.mergeSort_perm _ _).mem_iff]
  simp

theorem guard_leaves_signer (admissible : Admissible table)
    (passed : retireGuard kid (findAll tenantId table) = none)
    (signing : HasSigningKey table tenantId) :
    ∃ key ∈ table, key.tenant_id = tenantId ∧ isSigner key = true ∧ key.kid ≠ kid := by
  obtain ⟨signer, signerMember, signerTenant, isSigner⟩ := signing
  by_cases other : signer.kid ≠ kid
  · exact ⟨signer, signerMember, signerTenant, isSigner, other⟩
  · have signerKid : signer.kid = kid := not_not.mp other
    simp only [retireGuard] at passed
    split at passed
    · simp at passed
    · rename_i target found
      have targetKid : target.kid = kid := by simpa using List.find?_some found
      obtain ⟨targetMember, targetTenant⟩ := mem_findAll.mp (List.mem_of_find?_eq_some found)
      have same : target = signer :=
        admissible.1.eq_of_key_eq targetMember signerMember rfl rfl
          (by simp [kidKey, targetTenant, signerTenant, targetKid, signerKid])
      subst same
      split at passed
      · simp at passed
      · split at passed
        · simp at passed
        · rename_i unguarded
          simp only [isSigner, true_and, Bool.not_eq_false, List.any_eq_true, Bool.and_eq_true,
            bne_iff_ne, ne_eq] at unguarded
          obtain ⟨another, anotherMember, anotherKid, anotherSigner⟩ := unguarded
          obtain ⟨anotherTable, anotherTenant⟩ := mem_findAll.mp anotherMember
          exact ⟨another, anotherTable, anotherTenant, anotherSigner, anotherKid⟩

theorem mem_retireByKid (member : key ∈ table)
    (untouched : key.tenant_id = tenantId → key.kid ≠ kid) :
    key ∈ (retireByKid tenantId kid table).1 := by
  refine Tables.mem_updateMany.mpr (Or.inr ⟨member, ?_⟩)
  by_cases tenant : key.tenant_id = tenantId
  · simp [untouched tenant]
  · simp [tenant]

theorem mem_retireExpired {cutoff : Int} (member : key ∈ table) (active : isActive key = true) :
    key ∈ (retireExpired tenantId cutoff table).1 := by
  refine Tables.mem_updateMany.mpr (Or.inr ⟨member, ?_⟩)
  simp [(isActive_iff key).mp active]

theorem mem_mark {rotatedAt : Nat} (member : key ∈ table)
    (kept : key.tenant_id = tenantId → isSigner key = false) :
    key ∈ markPromotedActiveExpiring tenantId rotatedAt table := by
  refine Tables.mem_updateMany.mpr (Or.inr ⟨member, ?_⟩)
  by_cases tenant : key.tenant_id = tenantId
  · simp [kept tenant]
  · simp [tenant]

/-- The key is there, promoted by now perhaps. -/
def Stays (key : JwksKeyRecord) (table : KeyTable) : Prop :=
  ∃ after ∈ table, after.tenant_id = key.tenant_id ∧ after.alg = key.alg ∧
    after.status = key.status ∧ (key.promoted = true → after.promoted = true)

theorem stays_promotedTable (member : key ∈ table) : Stays key (promotedTable tenantId table) := by
  refine ⟨_, List.mem_map_of_mem member, ?_⟩
  split <;> simp

theorem access_keeps_active (now : Nat) (pending : PendingCall) (member : key ∈ table)
    (active : isActive key = true)
    (notWrite : ∀ kid keys, pending ≠ .writeRetired kid key.tenant_id keys)
    (notMark : ∀ process, pending ≠ .markExpiring process key.tenant_id) :
    Stays key (access now table pending).1 := by
  have self {after : KeyTable} (kept : key ∈ after) : Stays key after :=
    ⟨key, kept, rfl, rfl, rfl, id⟩
  cases pending with
  | insertInitial _ _ | insertRotated _ _ _ =>
    simp only [access]
    split
    · rename_i inserted accepted
      rw [(insertMany_some accepted).1]
      exact self (List.mem_append_left _ member)
    · exact self member
  | promoteUnpromoted tenantId =>
    simp only [access]
    split
    · rename_i promoted count accepted
      rw [(promote_some accepted).1]
      exact stays_promotedTable member
    · exact self member
  | countForInitialize _ _ | recountForInitialize _ | readForRetire _ _ =>
    simp only [access]; split <;> exact self member
  | retireExpiring tenantId overlapSeconds => exact self (mem_retireExpired member active)
  | markExpiring process tenantId =>
    refine self (mem_mark member ?_)
    rintro rfl
    exact (notMark process rfl).elim
  | writeRetired kid tenantId keys =>
    refine self (mem_retireByKid member ?_)
    rintro rfl
    exact (notWrite kid keys rfl).elim

theorem hasActive_writeRetired {owner alg : String} (before : HasActive table tenantId alg) :
    HasActive (retireByKid owner kid table).1 tenantId alg ↔
      (owner = tenantId →
        ∃ key ∈ table, ofAlgorithm tenantId alg key ∧ isActive key = true ∧ key.kid ≠ kid) := by
  constructor
  · rintro ⟨key, member, keyAlg, active⟩ rfl
    rcases Tables.mem_updateMany.mp member with ⟨old, _, _, rfl⟩ | ⟨old, kept⟩
    · simp [isActive] at active
    · refine ⟨key, old, keyAlg, active, ?_⟩
      rintro rfl
      simp [keyAlg.1, (isActive_iff key).mp active] at kept
  · intro leaves
    by_cases same : owner = tenantId
    · obtain ⟨key, member, keyAlg, active, otherKid⟩ := leaves same
      exact ⟨key, mem_retireByKid member fun _ => otherKid, keyAlg, active⟩
    · obtain ⟨key, member, keyAlg, active⟩ := before
      refine ⟨key, mem_retireByKid member ?_, keyAlg, active⟩
      exact fun tenant => (same (tenant.symm.trans keyAlg.1)).elim

theorem hasActive_mark {owner alg : String} {now : Nat} (before : HasActive table tenantId alg) :
    HasActive (markPromotedActiveExpiring owner now table) tenantId alg ↔
      (owner = tenantId → HasUnpromoted table tenantId alg) := by
  constructor
  · rintro ⟨key, member, keyAlg, active⟩ rfl
    rcases Tables.mem_updateMany.mp member with ⟨old, _, _, rfl⟩ | ⟨old, kept⟩
    · simp [isActive] at active
    · refine ⟨key, old, keyAlg, ?_⟩
      simp only [keyAlg.1, beq_self_eq_true, Bool.true_and] at kept
      exact ((isActive_split key).mp active).resolve_left (by simp [kept])
  · intro leaves
    by_cases same : owner = tenantId
    · obtain ⟨key, member, keyAlg, unpromoted⟩ := leaves same
      have notSigner : isSigner key = false := by
        simp [isSigner, (isUnpromoted_iff key).mp unpromoted]
      exact ⟨key, mem_mark member fun _ => notSigner, keyAlg,
        (isActive_split key).mpr (Or.inr unpromoted)⟩
    · obtain ⟨key, member, keyAlg, active⟩ := before
      refine ⟨key, mem_mark member ?_, keyAlg, active⟩
      exact fun tenant => (same (tenant.symm.trans keyAlg.1)).elim

theorem step_keepsAlgorithm_iff {alg : String} (system : System) (event : Event)
    (before : HasActive system.table tenantId alg) :
    HasActive (step system event).table tenantId alg ↔
      LeavesAlgorithm tenantId alg system event := by
  cases event with
  | start process now method => simpa [LeavesAlgorithm, start_table] using before
  | turn index now =>
    cases found : system.calls[index]? with
    | none => simpa [LeavesAlgorithm, step, found] using before
    | some pending =>
      have changed : (step system (.turn index now)).table =
          (access now system.table pending).1 := by simp [step, found]
      rw [changed]
      by_cases isWrite : ∃ kid owner keys, pending = .writeRetired kid owner keys
      · obtain ⟨kid, owner, keys, rfl⟩ := isWrite
        simp only [LeavesAlgorithm, found]
        exact hasActive_writeRetired before
      by_cases isMark : ∃ process owner, pending = .markExpiring process owner
      · obtain ⟨process, owner, rfl⟩ := isMark
        simp only [LeavesAlgorithm, found]
        exact hasActive_mark before
      · have kept : HasActive (access now system.table pending).1 tenantId alg := by
          obtain ⟨key, member, ⟨tenant, keyAlg⟩, active⟩ := before
          obtain ⟨after, afterMember, sameTenant, sameAlg, sameStatus, _⟩ :=
            access_keeps_active now pending member active
              (fun kid keys same => isWrite ⟨kid, _, keys, same⟩)
              (fun process same => isMark ⟨process, _, same⟩)
          refine ⟨after, afterMember, ⟨sameTenant.trans tenant, sameAlg.trans keyAlg⟩, ?_⟩
          rw [isActive_iff] at active ⊢
          exact sameStatus.trans active
        simp only [kept, true_iff]
        cases pending <;> simp_all [LeavesAlgorithm]

structure GuardedSystem (system : System) : Prop where
  admissible : Admissible system.table
  guarded : WritesGuarded system.calls

theorem step_guardedSystem (system : System) (event : Event) (inside : GuardedSystem system) :
    GuardedSystem (step system event) := by
  refine ⟨?_, step_writesGuarded system event inside.guarded⟩
  rcases step_table system event with same | ⟨index, now, pending, _, _, changed⟩
  · rw [same]
    exact inside.admissible
  · rw [changed]
    exact access_admissible inside.admissible now pending

theorem step_keepsSigner (system : System) (event : Event) (inside : GuardedSystem system)
    (signing : HasSigningKey system.table tenantId) (current : ChecksCurrentKeys system event)
    (noDemotion : ¬Demotes tenantId system event) :
    HasSigningKey (step system event).table tenantId := by
  rcases step_table system event with same | ⟨index, now, pending, rfl, found, changed⟩
  · rw [same]
    exact signing
  rw [changed]
  -- a retirement of the tenant may hit the key at hand, so pick the one its guard saw
  obtain ⟨key, member, tenant, signer, kept⟩ : ∃ key ∈ system.table, key.tenant_id = tenantId ∧
      isSigner key = true ∧
        ∀ kid keys, pending = .writeRetired kid tenantId keys → key.kid ≠ kid := by
    by_cases isWrite : ∃ kid keys, pending = .writeRetired kid tenantId keys
    · obtain ⟨kid, keys, rfl⟩ := isWrite
      simp only [ChecksCurrentKeys, found] at current
      have passed := inside.guarded kid tenantId keys (List.mem_of_getElem? found)
      rw [current] at passed
      obtain ⟨key, member, tenant, signer, other⟩ :=
        guard_leaves_signer inside.admissible passed signing
      refine ⟨key, member, tenant, signer, ?_⟩
      rintro kid' keys' same
      simp only [PendingCall.writeRetired.injEq] at same
      exact same.1 ▸ other
    · obtain ⟨key, member, tenant, signer⟩ := signing
      exact ⟨key, member, tenant, signer, fun kid keys same => (isWrite ⟨kid, keys, same⟩).elim⟩
  by_cases isWrite : ∃ kid keys, pending = .writeRetired kid tenantId keys
  · obtain ⟨kid, keys, rfl⟩ := isWrite
    exact ⟨key, mem_retireByKid member fun _ => kept kid keys rfl, tenant, signer⟩
  · have notMark (process : Nat) : pending ≠ .markExpiring process key.tenant_id := by
      rintro rfl
      exact noDemotion (by simp only [Demotes, found, tenant])
    have notWrite (kid : String) (keys : List JwksKeyRecord) :
        pending ≠ .writeRetired kid key.tenant_id keys := by
      rintro rfl
      exact isWrite ⟨kid, keys, by rw [tenant]⟩
    obtain ⟨after, afterMember, sameTenant, _, sameStatus, promoted⟩ :=
      access_keeps_active now pending member (isActive_of_isSigner key signer) notWrite notMark
    rw [isSigner_iff] at signer
    refine ⟨after, afterMember, sameTenant.trans tenant, ?_⟩
    rw [isSigner_iff]
    exact ⟨sameStatus.trans signer.1, promoted signer.2⟩

/-- A tenant keeps a promoted active key through every run in which each retirement still
sees the keys it was checked against and no rotation demotes the tenant's keys. An
algorithm keeps its active key through exactly the runs whose retirements and demotions
each leave it one. -/
theorem last_key_along_runs (system : System) (idle : system.calls = [])
    (admissible : Admissible system.table) (tenantId : String) (events : List Event) :
    (HasSigningKey system.table tenantId →
      Runs.AllowedFrom step (fun before event =>
        ChecksCurrentKeys before event ∧ ¬Demotes tenantId before event) system events →
      Runs.AlwaysFrom step (fun after => HasSigningKey after.table tenantId) system events) ∧
    ∀ alg, HasActive system.table tenantId alg →
      (Runs.AlwaysFrom step (fun after => HasActive after.table tenantId alg) system events ↔
        Runs.AllowedFrom step (LeavesAlgorithm tenantId alg) system events) := by
  have initial : GuardedSystem system := ⟨admissible, by simp [WritesGuarded, idle]⟩
  constructor
  · intro signing allowed
    have always : Runs.AlwaysFrom step
        (fun after => GuardedSystem after ∧ HasSigningKey after.table tenantId) system events := by
      refine Runs.always_of_allowed step ?_ ⟨initial, signing⟩ allowed
      intro before event holds permitted
      exact ⟨step_guardedSystem before event holds.1,
        step_keepsSigner before event holds.1 holds.2 permitted.1 permitted.2⟩
    exact always.mono step fun _ both => both.2
  · intro alg active
    refine Runs.always_iff_allowed step step_guardedSystem ?_ initial active
    exact fun before event _ holds => step_keepsAlgorithm_iff before event holds

def twoAlgorithms : System :=
  Runs.run step emptySystem (uninterrupted 0 0
    (.initializeKeys "default" [⟨"RS256", "rsa", 0⟩, ⟨"ES256", "ec", 0⟩]))

theorem uninterrupted_checksCurrentKeys (system : System) (idle : system.calls = [])
    (process now : Nat) (kid tenantId owner : String) :
    Runs.AllowedFrom step
      (fun before event => ChecksCurrentKeys before event ∧ ¬Demotes owner before event) system
      (uninterrupted process now (.retireKey kid tenantId)) := by
  obtain ⟨table, calls, lastRotationAt⟩ := system
  simp only at idle
  subst idle
  cases passed : retireGuard kid (findAll tenantId table) <;>
    simp [uninterrupted, Runs.AllowedFrom, ChecksCurrentKeys, Demotes, step, begin, access, passed]

theorem last_key_along_retirement :
    Runs.AlwaysFrom step (fun after => HasSigningKey after.table "default") twoAlgorithms
        (uninterrupted 0 0 (.retireKey "rsa" "default")) ∧
      (Runs.AlwaysFrom step (fun after => HasActive after.table "default" "ES256") twoAlgorithms
          (uninterrupted 0 0 (.retireKey "rsa" "default")) ↔
        Runs.AllowedFrom step (LeavesAlgorithm "default" "ES256") twoAlgorithms
          (uninterrupted 0 0 (.retireKey "rsa" "default"))) := by
  have idle : twoAlgorithms.calls = [] := by decide
  have kept := last_key_along_runs twoAlgorithms idle (by decide) "default"
    (uninterrupted 0 0 (.retireKey "rsa" "default"))
  exact ⟨kept.1 (by decide) (uninterrupted_checksCurrentKeys twoAlgorithms idle 0 0 _ _ _),
    kept.2 "ES256" (by decide)⟩

theorem findAll_of_sorted (owned : ∀ key ∈ table, key.tenant_id = tenantId)
    (newestFirst : table.Pairwise fun first second => second.created_at ≤ first.created_at) :
    findAll tenantId table = table := by
  have all : (table.filter fun key => key.tenant_id == tenantId) = table :=
    List.filter_eq_self.mpr fun key member => by simpa using owned key member
  rw [findAll, all]
  exact List.mergeSort_of_pairwise (by simpa using newestFirst)

theorem retirement_takes_last_of_algorithm :
    HasActive twoAlgorithms.table "default" "RS256" ∧
      ¬HasActive (Runs.run step twoAlgorithms
        (uninterrupted 0 0 (.retireKey "rsa" "default"))).table "default" "RS256" := by
  refine ⟨by decide, ?_⟩
  have idle : twoAlgorithms.calls = [] := by decide
  have after := congrArg Store.table
    (uninterrupted_call twoAlgorithms idle 0 0 (.retireKey "rsa" "default")).2
  have keys : findAll "default" twoAlgorithms.table = twoAlgorithms.table :=
    findAll_of_sorted (by decide) (by decide)
  have passed : retireGuard "rsa" twoAlgorithms.table = none := by decide
  simp only [System.storeOf, call, retireKey, keys, passed] at after
  rw [after]
  decide

end ParakoId.KeyStore
