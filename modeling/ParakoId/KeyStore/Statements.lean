import ParakoId.KeyStore.Methods

/-! What each repository statement does to the rows, and what every table of keys
that the store has written looks like. -/

namespace ParakoId.KeyStore

theorem isSigner_iff (key : JwksKeyRecord) :
    isSigner key = true ↔ key.status = .active ∧ key.promoted = true := by
  simp [isSigner]

theorem isUnpromoted_iff (key : JwksKeyRecord) :
    isUnpromoted key = true ↔ key.status = .active ∧ key.promoted = false := by
  simp [isUnpromoted]

theorem isActive_iff (key : JwksKeyRecord) : isActive key = true ↔ key.status = .active := by
  simp [isActive]

theorem isActive_split (key : JwksKeyRecord) :
    isActive key = true ↔ isSigner key = true ∨ isUnpromoted key = true := by
  rw [isActive_iff, isSigner_iff, isUnpromoted_iff]
  cases key.promoted <;> simp

variable {table : KeyTable} {tenantId : String}

theorem insertMany_some {keys : List JwksKeyRecord} {inserted : KeyTable}
    (accepted : insertMany keys table = some inserted) :
    inserted = table ++ keys ∧ Admissible (table ++ keys) := by
  simp only [insertMany] at accepted
  split at accepted
  · rename_i admissible
    simp only [Option.some.injEq] at accepted
    exact ⟨accepted.symm, admissible⟩
  · simp at accepted

theorem promote_some {promoted : KeyTable} {count : Nat}
    (accepted : promoteUnpromotedActive tenantId table = some (promoted, count)) :
    promoted = promotedTable tenantId table ∧ Admissible (promotedTable tenantId table) := by
  simp only [promoteUnpromotedActive] at accepted
  split at accepted
  · rename_i admissible
    simp only [Option.some.injEq, Prod.mk.injEq] at accepted
    exact ⟨accepted.1.symm, admissible⟩
  · simp at accepted

theorem mem_generateKeys {promoted : Bool} {generated : List GeneratedKey} {key : JwksKeyRecord}
    (member : key ∈ generateKeys tenantId promoted generated) :
    ∃ fresh ∈ generated, newRecord tenantId promoted fresh = key :=
  List.mem_map.mp member

theorem Admissible.mark (admissible : Admissible table) (tenantId : String) (rotatedAt : Nat) :
    Admissible (markPromotedActiveExpiring tenantId rotatedAt table) := by
  constructor
  · exact admissible.1.updateMany (fun _ => rfl) (fun _ _ _ => rfl)
  · exact admissible.2.updateMany (fun _ => rfl) (fun row _ covered => by simp [isSigner] at covered)

theorem Admissible.retireExpired (admissible : Admissible table) (tenantId : String)
    (cutoff : Int) : Admissible (retireExpired tenantId cutoff table).1 := by
  constructor
  · exact admissible.1.updateMany (fun _ => rfl) (fun _ _ _ => rfl)
  · exact admissible.2.updateMany (fun _ => rfl) (fun row _ covered => by simp [isSigner] at covered)

theorem Admissible.retireByKid (admissible : Admissible table) (tenantId kid : String) :
    Admissible (retireByKid tenantId kid table).1 := by
  constructor
  · exact admissible.1.updateMany (fun _ => rfl) (fun _ _ _ => rfl)
  · exact admissible.2.updateMany (fun _ => rfl) (fun row _ covered => by simp [isSigner] at covered)

structure WellFormedKey (key : JwksKeyRecord) : Prop where
  sealedKid : (decryptJWK key.encrypted_private_key).kid = key.kid
  sealedAlg : (decryptJWK key.encrypted_private_key).alg = key.alg
  expiringPromoted : key.status = .expiring → key.promoted = true

structure WellFormedTable (table : KeyTable) : Prop where
  admissible : Admissible table
  rows : ∀ key ∈ table, WellFormedKey key

theorem newRecord_wellFormed (tenantId : String) (promoted : Bool) (fresh : GeneratedKey) :
    WellFormedKey (newRecord tenantId promoted fresh) where
  sealedKid := rfl
  sealedAlg := rfl
  expiringPromoted := by simp [newRecord]

theorem emptyTable_wellFormed : WellFormedTable [] where
  admissible := by decide
  rows := by simp

theorem rows_updateMany {matching : JwksKeyRecord → Bool} {data : JwksKeyRecord → JwksKeyRecord}
    (rows : ∀ key ∈ table, WellFormedKey key)
    (keeps : ∀ key, matching key = true → WellFormedKey key → WellFormedKey (data key)) :
    ∀ key ∈ Tables.updateMany matching data table, WellFormedKey key := by
  intro key member
  rcases Tables.mem_updateMany.mp member with ⟨old, oldMember, selected, written⟩ | ⟨oldMember, _⟩
  · rw [← written]
    exact keeps old selected (rows old oldMember)
  · exact rows key oldMember

section

variable (wellFormed : WellFormedTable table)
include wellFormed

theorem WellFormedTable.append {promoted : Bool} {generated : List GeneratedKey}
    (admissible : Admissible (table ++ generateKeys tenantId promoted generated)) :
    WellFormedTable (table ++ generateKeys tenantId promoted generated) := by
  refine ⟨admissible, ?_⟩
  intro key member
  rcases List.mem_append.mp member with old | new
  · exact wellFormed.rows key old
  · obtain ⟨fresh, _, rfl⟩ := mem_generateKeys new
    exact newRecord_wellFormed tenantId promoted fresh

theorem WellFormedTable.mark (tenantId : String) (rotatedAt : Nat) :
    WellFormedTable (markPromotedActiveExpiring tenantId rotatedAt table) where
  admissible := wellFormed.admissible.mark tenantId rotatedAt
  rows := by
    refine rows_updateMany wellFormed.rows ?_
    intro key selected row
    simp only [Bool.and_eq_true, isSigner_iff] at selected
    exact ⟨row.sealedKid, row.sealedAlg, fun _ => selected.2.2⟩

theorem WellFormedTable.promotedTable (admissible : Admissible (promotedTable tenantId table)) :
    WellFormedTable (promotedTable tenantId table) where
  admissible := admissible
  rows := rows_updateMany wellFormed.rows
    fun _ _ row => ⟨row.sealedKid, row.sealedAlg, fun _ => rfl⟩

theorem WellFormedTable.retireExpired (tenantId : String) (cutoff : Int) :
    WellFormedTable (retireExpired tenantId cutoff table).1 where
  admissible := wellFormed.admissible.retireExpired tenantId cutoff
  rows := rows_updateMany wellFormed.rows
    fun _ _ row => ⟨row.sealedKid, row.sealedAlg, fun retired => by simp at retired⟩

theorem WellFormedTable.retireByKid (tenantId kid : String) :
    WellFormedTable (retireByKid tenantId kid table).1 where
  admissible := wellFormed.admissible.retireByKid tenantId kid
  rows := rows_updateMany wellFormed.rows
    fun _ _ row => ⟨row.sealedKid, row.sealedAlg, fun retired => by simp at retired⟩

end

/-- What the writes of the statements keep, an access keeps. -/
theorem access_keeps {keeps : KeyTable → Prop} (held : keeps table) {now : Nat}
    (inserts : ∀ tenantId promoted generated,
      Admissible (table ++ generateKeys tenantId promoted generated) →
        keeps (table ++ generateKeys tenantId promoted generated))
    (promotes : ∀ tenantId, Admissible (promotedTable tenantId table) →
      keeps (promotedTable tenantId table))
    (marks : ∀ tenantId, keeps (markPromotedActiveExpiring tenantId now table))
    (expires : ∀ tenantId cutoff, keeps (retireExpired tenantId cutoff table).1)
    (retires : ∀ tenantId kid, keeps (retireByKid tenantId kid table).1) (pending : PendingCall) :
    keeps (access now table pending).1 := by
  cases pending with
  | countForInitialize tenantId generated => simp only [access]; split <;> exact held
  | insertInitial tenantId generated | insertRotated process tenantId generated =>
    simp only [access]
    split
    · rename_i inserted accepted
      obtain ⟨rfl, admissible⟩ := insertMany_some accepted
      exact inserts _ _ _ admissible
    · exact held
  | recountForInitialize tenantId => simp only [access]; split <;> exact held
  | markExpiring process tenantId => exact marks tenantId
  | promoteUnpromoted tenantId =>
    simp only [access]
    split
    · rename_i promoted count accepted
      obtain ⟨rfl, admissible⟩ := promote_some accepted
      exact promotes tenantId admissible
    · exact held
  | retireExpiring tenantId overlapSeconds => exact expires tenantId _
  | readForRetire kid tenantId => simp only [access]; split <;> exact held
  | writeRetired kid tenantId keys => exact retires tenantId kid

theorem access_wellFormed (wellFormed : WellFormedTable table) (now : Nat)
    (pending : PendingCall) : WellFormedTable (access now table pending).1 :=
  access_keeps wellFormed (fun _ _ _ => wellFormed.append) (fun _ => wellFormed.promotedTable)
    (fun tenantId => wellFormed.mark tenantId now) wellFormed.retireExpired
    wellFormed.retireByKid pending

theorem start_table (system : System) (process now : Nat) (method : Method) :
    (step system (.start process now method)).table = system.table := by
  simp only [step]
  split <;> rfl

theorem step_table (system : System) (event : Event) :
    (step system event).table = system.table ∨
      ∃ index now pending, event = .turn index now ∧ system.calls[index]? = some pending ∧
        (step system event).table = (access now system.table pending).1 := by
  cases event with
  | start process now method => exact Or.inl (start_table system process now method)
  | turn index now =>
    cases found : system.calls[index]? with
    | none => exact Or.inl (by simp [step, found])
    | some pending => exact Or.inr ⟨index, now, pending, rfl, found, by simp [step, found]⟩

theorem step_wellFormed (system : System) (event : Event)
    (wellFormed : WellFormedTable system.table) : WellFormedTable (step system event).table := by
  rcases step_table system event with same | ⟨index, now, pending, _, _, changed⟩
  · rw [same]
    exact wellFormed
  · rw [changed]
    exact access_wellFormed wellFormed now pending

end ParakoId.KeyStore
