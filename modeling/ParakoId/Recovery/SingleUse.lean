import ParakoId.Recovery.Requests

/-! Backup codes over the runs of any number of requests. -/

namespace ParakoId.Recovery

def SingleUse (state : State) : Prop :=
  state.ledger.consumed.Nodup ∧ ∀ code ∈ state.ledger.consumed, code ∉ storedCodes state.stored

def WritesUnspentCopy (state : State) : Event → Prop
  | .turn id =>
    match state.requests id with
    | .save copy _ _ _ => copy.consumedBefore = state.ledger.consumed.length
    | _ => True
  | _ => True

inductive SavesFrom (recovery : Option RecoveryConfig) (saved : RecoveryConfig) :
    Option String → Bool → Prop
  | kept (success) (same : storedCodes (some saved) = storedCodes recovery) :
      SavesFrom recovery saved none success
  | consumed (code) (listed : code ∈ storedCodes recovery)
      (removed : storedCodes (some saved) =
        (storedCodes recovery).filter fun other => other ≠ code) :
      SavesFrom recovery saved (some code) true

def Request.copy? : Request → Option Copy
  | .checkLockout _ copy => some copy
  | .verify _ copy _ => some copy
  | .consume copy _ => some copy
  | .save copy _ _ _ => some copy
  | _ => none

def Request.Consistent : Request → Prop
  | .consume copy result => result.valid = true →
      ∀ code, result.matchedCode = some code → code ∈ storedCodes copy.recovery
  | .save copy saved consumed result => SavesFrom copy.recovery saved consumed result.success
  | _ => True

def Mirrors (stored : Option RecoveryConfig) (consumed : List String) (copy : Copy) : Prop :=
  copy.consumedBefore ≤ consumed.length ∧
    ∀ code, code ∈ storedCodes copy.recovery ↔
      code ∈ storedCodes stored ∨ code ∈ consumed.drop copy.consumedBefore

structure Mirrored (state : State) : Prop where
  consistent : ∀ id, (state.requests id).Consistent
  copies : ∀ id copy, (state.requests id).copy? = some copy →
    Mirrors state.stored state.ledger.consumed copy

def Continuation.Consistent (recovery : Option RecoveryConfig) : Continuation → Prop
  | .answer _ => True
  | .save saved consumed result => SavesFrom recovery saved consumed result.success

theorem consumeBackupCode_consistent (recovery : Option RecoveryConfig) (now : Nat)
    (result : RecoveryVerificationResult)
    (listed : result.valid = true →
      ∀ code, result.matchedCode = some code → code ∈ storedCodes recovery) :
    (consumeBackupCode recovery now result).Consistent recovery := by
  simp only [consumeBackupCode]
  by_cases valid : result.valid = true
  · simp only [valid, Bool.not_true, Bool.false_eq_true, if_false]
    cases recovery with
    | none => trivial
    | some user =>
      simp only
      split
      · rename_i backupCodes matchedCode hasCodes isMatched
        simp only [truthy, Option.filter_eq_some_iff] at isMatched
        refine .consumed matchedCode (listed valid matchedCode isMatched.1) ?_
        simp [storedCodes, hasCodes]
      · trivial
  · simp only [valid, Bool.not_false, if_true]
    exact .kept false (storedCodes_recordFailure recovery now)

theorem consumeSmsRecoveryCode_consistent (primitives : Primitives)
    (recovery : Option RecoveryConfig) (now : Nat) (code : String) :
    (consumeSmsRecoveryCode primitives recovery now code).Consistent recovery := by
  cases recovery with
  | none => trivial
  | some user =>
    cases hasSms : user.sms with
    | none => simp [consumeSmsRecoveryCode, hasSms, Continuation.Consistent]
    | some smsState =>
      simp only [consumeSmsRecoveryCode, hasSms]
      split
      · split
        · exact .kept false (storedCodes_recordFailure _ now)
        · exact .kept true rfl
      · trivial

theorem mirrored_put {state : State} (mirrored : Mirrored state) (id : Nat) {request : Request}
    (consistent : request.Consistent)
    (copies : ∀ copy, request.copy? = some copy →
      Mirrors state.stored state.ledger.consumed copy) :
    Mirrored (state.put id request) := by
  constructor
  · intro other
    by_cases same : other = id
    · simpa [same] using consistent
    · simpa [same] using mirrored.consistent other
  · intro other copy isCopy
    by_cases same : other = id
    · exact copies copy (by simpa [same] using isCopy)
    · exact mirrored.copies other copy (by simpa [same] using isCopy)

theorem mirrored_carryOn {state : State} (mirrored : Mirrored state) {id : Nat} {copy : Copy}
    (isCopy : (state.requests id).copy? = some copy) {continuation : Continuation}
    (consistent : continuation.Consistent copy.recovery) :
    Mirrored (state.carryOn id copy continuation) := by
  have mirrors := mirrored.copies id copy isCopy
  constructor
  · intro other
    by_cases same : other = id
    · cases continuation with
      | answer result => simp [same, Continuation.request, Request.Consistent]
      | save saved consumed result =>
        simpa [same, Continuation.request, Request.Consistent, Continuation.Consistent]
          using consistent
    · simpa [same] using mirrored.consistent other
  · intro other otherCopy isOther
    simp only [carryOn_stored, carryOn_consumed]
    by_cases same : other = id
    · cases continuation with
      | answer result => simp [same, Continuation.request, Request.copy?] at isOther
      | save saved consumed result =>
        simp only [same, carryOn_requests, if_true, Continuation.request, Request.copy?,
          Option.some.injEq] at isOther
        exact isOther ▸ mirrors
    · exact mirrored.copies other otherCopy (by simpa [same] using isOther)

theorem mem_storedCodes_writer {stored : Option RecoveryConfig} {consumed : List String}
    {writer : Copy} (mirrors : Mirrors stored consumed writer)
    (unspent : writer.consumedBefore = consumed.length) (other : String) :
    other ∈ storedCodes writer.recovery ↔ other ∈ storedCodes stored := by
  rw [mirrors.2 other, unspent]
  simp

theorem consumed_none (success : Bool) (consumed : List String) :
    (if success then consumed ++ (none : Option String).toList else consumed) = consumed := by
  cases success <;> simp

theorem mirrors_written {stored : Option RecoveryConfig} {consumed : List String}
    {writer copy : Copy} {saved : RecoveryConfig} {code : Option String} {success : Bool}
    (saves : SavesFrom writer.recovery saved code success)
    (unspent : writer.consumedBefore = consumed.length)
    (writerMirrors : Mirrors stored consumed writer) (mirrors : Mirrors stored consumed copy) :
    Mirrors (some saved)
      (if success then consumed ++ code.toList else consumed) copy := by
  have written := mem_storedCodes_writer writerMirrors unspent
  cases saves with
  | kept success same =>
    rw [consumed_none]
    refine ⟨mirrors.1, ?_⟩
    intro other
    rw [mirrors.2 other, same, written other]
  | consumed code listed removed =>
    have isStored := (written code).mp listed
    refine ⟨by simp; exact Nat.le_succ_of_le mirrors.1, ?_⟩
    intro other
    rw [mirrors.2 other, removed]
    simp only [if_true, Option.toList_some, List.drop_append_of_le_length mirrors.1,
      List.mem_filter, List.mem_append, List.mem_singleton, decide_eq_true_eq, written other]
    by_cases same : other = code
    · simp [same, isStored]
    · simp [same]

theorem step_mirrored (primitives : Primitives) (state : State) (event : Event)
    (mirrored : Mirrored state) (unspent : WritesUnspentCopy state event) :
    Mirrored (step primitives state event) := by
  cases event with
  | wait milliseconds =>
    constructor
    · exact mirrored.consistent
    · intro id copy isCopy
      have mirrors := mirrored.copies id copy isCopy
      simp only [step]
      split <;> exact mirrors
  | start id attempt =>
    simp only [step]
    split
    · exact mirrored_put mirrored id trivial (by simp [Request.copy?])
    · exact mirrored
  | turn id =>
    cases request : state.requests id with
    | idle | done _ => simpa [step, request] using mirrored
    | load attempt =>
      simp only [step, request]
      refine mirrored_put mirrored id trivial ?_
      intro copy isCopy
      simp only [Request.copy?, Option.some.injEq] at isCopy
      subst isCopy
      exact ⟨Nat.le_refl _, by simp⟩
    | checkLockout attempt copy =>
      simp only [step, request]
      refine mirrored_put mirrored id trivial ?_
      intro other isCopy
      exact mirrored.copies id other (by simpa [request, Request.copy?] using isCopy)
    | verify attempt copy found =>
      have isCopy : (state.requests id).copy? = some copy := by simp [request, Request.copy?]
      simp only [step, request]
      split
      · exact mirrored_put mirrored id trivial (by simp [Request.copy?])
      · cases attempt with
        | backupCode code =>
          refine mirrored_put mirrored id ?_ ?_
          · intro valid matchedCode isMatched
            obtain ⟨found, _, isFound, listed, _⟩ := verifyUserBackupCode_valid valid
            rw [isFound, Option.some.injEq] at isMatched
            exact isMatched ▸ listed
          · intro other isOther
            exact mirrored.copies id other (by simpa [request, Request.copy?] using isOther)
        | smsCode code =>
          exact mirrored_carryOn mirrored isCopy
            (consumeSmsRecoveryCode_consistent primitives copy.recovery state.now code)
    | consume copy result =>
      have isCopy : (state.requests id).copy? = some copy := by simp [request, Request.copy?]
      have listed := mirrored.consistent id
      rw [request] at listed
      simp only [step, request]
      exact mirrored_carryOn mirrored isCopy
        (consumeBackupCode_consistent copy.recovery state.now result listed)
    | save copy saved consumed result =>
      have isCopy : (state.requests id).copy? = some copy := by simp [request, Request.copy?]
      have saves := mirrored.consistent id
      have writerMirrors := mirrored.copies id copy isCopy
      simp only [WritesUnspentCopy, request] at unspent
      rw [request] at saves
      simp only [step, request]
      have put : Mirrored (state.put id (.done result)) :=
        mirrored_put mirrored id trivial (by simp [Request.copy?])
      constructor
      · exact put.consistent
      · intro other otherCopy isOther
        have written := mirrors_written saves unspent writerMirrors
          (put.copies other otherCopy isOther)
        simp only [Ledger.written]
        cases success : result.success with
        | true => simpa [success, Ledger.restart] using written
        | false => simpa [success] using written

theorem write_singleUse_iff {stored : Option RecoveryConfig} {consumed : List String}
    {copy : Copy} {saved : RecoveryConfig} {code : Option String} {success : Bool}
    (saves : SavesFrom copy.recovery saved code success)
    (mirrors : Mirrors stored consumed copy) (once : consumed.Nodup)
    (spent : ∀ other ∈ consumed, other ∉ storedCodes stored) :
    ((if success then consumed ++ code.toList else consumed).Nodup ∧
      ∀ other ∈ (if success then consumed ++ code.toList else consumed),
        other ∉ storedCodes (some saved)) ↔ copy.consumedBefore = consumed.length := by
  constructor
  · rintro ⟨nodup, unlisted⟩
    by_contra stale
    have later : copy.consumedBefore < consumed.length := by
      have bound := mirrors.1
      omega
    have isSpent : consumed[copy.consumedBefore] ∈ consumed := List.getElem_mem later
    have listed : consumed[copy.consumedBefore] ∈ storedCodes copy.recovery := by
      rw [mirrors.2]
      right
      rw [List.drop_eq_getElem_cons later]
      exact List.mem_cons_self
    cases saves with
    | kept success same =>
      refine unlisted consumed[copy.consumedBefore] ?_ (same ▸ listed)
      cases success <;> simp [isSpent]
    | consumed code isListed removed =>
      simp only [if_true, Option.toList_some] at nodup unlisted
      by_cases same : consumed[copy.consumedBefore] = code
      · rw [List.nodup_append] at nodup
        exact nodup.2.2 _ isSpent code List.mem_cons_self same
      · refine unlisted _ (List.mem_append_left _ isSpent) ?_
        rw [removed, List.mem_filter]
        exact ⟨listed, by simpa using same⟩
  · intro unspent
    have written := mem_storedCodes_writer mirrors unspent
    cases saves with
    | kept success same =>
      rw [consumed_none]
      refine ⟨once, ?_⟩
      intro other isSpent
      rw [same, written]
      exact spent other isSpent
    | consumed code listed removed =>
      have isStored := (written code).mp listed
      simp only [if_true, Option.toList_some]
      constructor
      · rw [List.nodup_append]
        refine ⟨once, by simp, ?_⟩
        intro other isSpent last isLast same
        rw [List.mem_singleton.mp isLast] at same
        exact spent other isSpent (same ▸ isStored)
      · intro other member isListed
        rw [removed, List.mem_filter, written] at isListed
        rcases List.mem_append.mp member with isSpent | isLast
        · exact spent other isSpent isListed.1
        · simp [List.mem_singleton.mp isLast] at isListed

theorem step_singleUse_iff (primitives : Primitives) (state : State) (event : Event)
    (mirrored : Mirrored state) (single : SingleUse state) :
    SingleUse (step primitives state event) ↔ WritesUnspentCopy state event := by
  cases event with
  | wait milliseconds =>
    simp only [step, SingleUse, WritesUnspentCopy, iff_true]
    split <;> exact single
  | start id attempt =>
    simp only [step, WritesUnspentCopy, iff_true]
    split <;> exact single
  | turn id =>
    cases request : state.requests id with
    | save copy saved consumed result =>
      have saves := mirrored.consistent id
      rw [request] at saves
      have mirrors := mirrored.copies id copy (by simp [request, Request.copy?])
      have exactly := write_singleUse_iff saves mirrors single.1 single.2
      simp only [step, request, SingleUse, WritesUnspentCopy, Ledger.written]
      rw [← exactly]
      cases success : result.success <;> simp [Ledger.restart]
    | verify attempt copy found =>
      simp only [step, request, WritesUnspentCopy, iff_true]
      split
      · exact single
      · cases attempt with
        | backupCode code => exact single
        | smsCode code => simpa [SingleUse] using single
    | consume copy result =>
      simpa [step, request, WritesUnspentCopy, SingleUse] using single
    | _ => simpa [step, request, WritesUnspentCopy, SingleUse] using single

/-- Along every run of any number of requests each code is consumed at most once and stays
consumed exactly when every write comes from a copy from which no code was consumed since
its load. -/
theorem backup_codes_single_use (primitives : Primitives) (recovery : Option RecoveryConfig)
    (now : Nat) (events : List Event) :
    Runs.AlwaysFrom (step primitives) SingleUse (openAccount recovery now) events ↔
      Runs.AllowedFrom (step primitives) WritesUnspentCopy (openAccount recovery now) events := by
  refine Runs.always_iff_allowed_within (step primitives)
    (fun state event mirrored _ unspent => step_mirrored primitives state event mirrored unspent)
    (step_singleUse_iff primitives) ?_ ?_
  · exact ⟨fun _ => trivial, by simp [openAccount, Request.copy?]⟩
  · exact ⟨List.nodup_nil, by simp [openAccount]⟩

def plainPrimitives : Primitives where
  verifyPassword password hash := some (hash == "argon2:" ++ password)
  sha256 text := "sha256:" ++ text

def oneCode : RecoveryConfig where
  enabled := true
  methods := some [.backup_codes]
  lockout := none
  last_recovered_at := none
  backup_codes := some
    { codes := ["argon2:ABCD-1234"], generated_at := some 0, expires_at := some 1000 }
  sms := none

def sharedCopies : List Event :=
  [.start 0 (.backupCode "abcd1234"), .start 1 (.backupCode "ABCD-1234"),
    .turn 0, .turn 1, .turn 0, .turn 1, .turn 0, .turn 1, .turn 0, .turn 1, .turn 0, .turn 1]

theorem code_spent_twice :
    let final := Runs.run (step plainPrimitives) (openAccount (some oneCode) 0) sharedCopies
    final.requests 0 = .done (completed .backup_codes (some 0)) ∧
      final.requests 1 = .done (completed .backup_codes (some 0)) ∧ ¬SingleUse final := by
  unfold SingleUse
  decide +kernel

end ParakoId.Recovery
