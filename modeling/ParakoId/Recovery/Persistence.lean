import ParakoId.Recovery.Repositories

/-! The same recovery attempts on one user behind each of the two repositories. -/

namespace ParakoId.Recovery

open Runs (AlwaysFrom AllowedFrom)

structure Counter where
  failures : Nat
  lockedUntil : Option Nat

def Counter.isLocked (counter : Counter) (now : Nat) : Bool :=
  counter.lockedUntil.any fun lockedUntil => decide (now < lockedUntil)

/-- A failure while no lock holds: that after a lock is the first again. -/
def Counter.fail (counter : Counter) (now : Nat) : Counter :=
  let failures := (if counter.lockedUntil.isSome then 0 else counter.failures) + 1
  { failures
    lockedUntil := if failures ≥ MAX_RECOVERY_ATTEMPTS then
        some (now + LOCKOUT_DURATION_MINUTES * 60 * 1000)
      else none }

def Counter.clear : Counter := { failures := 0, lockedUntil := none }

def Counter.after (counter : Counter) (now : Nat) (outcome : Outcome) : Counter :=
  match outcome.decision, outcome.saved with
  | .accepted, _ => .clear
  | .rejected, some _ => counter.fail now
  | _, _ => counter

def counterOf (user : Option UserRecovery) : Counter :=
  match lockoutOf (recoveryConfig user) with
  | none => .clear
  | some lockout => ⟨lockout.failed_attempts, lockout.locked_until⟩

structure Attempted where
  underLock : Bool
  mongoose : Decision
  prisma : Decision
  deriving DecidableEq

structure Stores where
  now : Nat
  document : Option UserRecovery
  rows : UserRows
  counter : Counter
  recoveredAt : Option Nat
  attempts : List Attempted

inductive StoresEvent
  | wait (milliseconds : Nat)
  | attempt (attempt : RecoveryAttempt)

section Model

variable (primitives : Primitives) (unicode : Unicode) (ids : RowIds)

def storesStep (state : Stores) : StoresEvent → Stores
  | .wait milliseconds => { state with now := state.now + milliseconds }
  | .attempt attempt =>
    let mongoose := RecoveryService.attempt primitives unicode state.document state.now attempt
    let prisma := RecoveryService.attempt primitives unicode (Prisma.toIUser state.rows)
      state.now attempt
    { now := state.now
      document := (mongoose.saved.map Mongoose.update).or state.document
      rows := (prisma.saved.map (Prisma.update ids state.rows)).getD state.rows
      counter := if attempt.isCounted then state.counter.after state.now mongoose
        else state.counter
      recoveredAt := if mongoose.decision = .accepted then some state.now
        else state.recoveredAt
      attempts :=
        { underLock := attempt.isCounted && state.counter.isLocked state.now
          mongoose := mongoose.decision
          prisma := prisma.decision } :: state.attempts }

def storedUser (user : Option UserRecovery) (now : Nat) : Stores :=
  { now
    document := user.map Mongoose.update
    rows := (user.map (Prisma.update ids Prisma.noRows)).getD Prisma.noRows
    counter := counterOf user
    recoveredAt := none
    attempts := [] }

structure Kept (decision : Attempted → Decision) (user : Option UserRecovery) (state : Stores) :
    Prop where
  locks : ∀ attempted ∈ state.attempts, attempted.underLock = true → decision attempted = .locked
  coolsDown : ∀ recoveredAt, state.recoveredAt = some recoveredAt →
    state.now < recoveredAt + RECOVERY_COOLDOWN_HOURS * 60 * 60 * 1000 →
    isInRecoveryCooldown user state.now = true

structure SurvivesPersistence (state : Stores) : Prop where
  sameDecisions : ∀ attempted ∈ state.attempts, attempted.mongoose = attempted.prisma
  mongoose : Kept Attempted.mongoose state.document state
  prisma : Kept Attempted.prisma (Prisma.toIUser state.rows) state

def IsRight (user : Option UserRecovery) (now : Nat) : RecoveryAttempt → Prop
  | .backupCode code =>
    (verifyUserBackupCode primitives (recoveryConfig user) code now).valid = true
  | .smsCode code => ∃ storedCode expiresAt,
      pendingSms (recoveryConfig user) = some (storedCode, expiresAt) ∧
        (verifySmsCode primitives code storedCode expiresAt now).valid = true
  | .securityQuestions answers => ∃ result,
      verifySecurityQuestions primitives unicode user (answersTo answers user) = some result ∧
        result.valid = true

/-- The attempt is wrong, does not meet the lock of `MAX_RECOVERY_ATTEMPTS`, and is not
about an empty list of questions; one that meets the lock of the questions may be right. -/
def LosesNothing (state : Stores) : StoresEvent → Prop
  | .wait _ => True
  | .attempt attempt =>
    if attempt.isCounted then
      (checkRecoveryLockout (recoveryConfig state.document) state.now).locked = false ∧
        ¬IsRight primitives unicode state.document state.now attempt
    else storedQuestions state.document ≠ some [] ∧
      ((checkSecurityQuestionsLockout state.document state.now).locked = true ∨
        ¬IsRight primitives unicode state.document state.now attempt)

end Model

def failedUser (user : Option UserRecovery) (now : Nat) : UserRecovery :=
  withConfig user (recordFailedRecoveryAttempt (recoveryConfig user) now).1

structure Recovered (user : Option UserRecovery) (now : Nat) (isCounted : Bool)
    (saved : UserRecovery) : Prop where
  time : saved.last_recovered_at = some now
  counter : counterOf (some saved) = if isCounted then .clear else counterOf user

def Completes (now : Nat) (continuation : Continuation) : Prop :=
  ∃ config saved consumed result, continuation = .save saved consumed result ∧
    result.success = true ∧ saved.last_recovered_at = some now ∧
    saved.lockout = (clearRecoveryLockout config).lockout

def Fails (recovery : Option RecoveryConfig) (now : Nat) (continuation : Continuation) : Prop :=
  (∃ result, continuation = .answer result ∧ result.success = false) ∨
    ∃ error, continuation = saveFailure recovery now error

variable {primitives : Primitives} {recovery : Option RecoveryConfig} {now : Nat}
  {user : Option UserRecovery}

theorem backupCode_completes {code : String}
    (valid : (verifyUserBackupCode primitives recovery code now).valid = true) :
    Completes now
      (consumeBackupCode recovery now (verifyUserBackupCode primitives recovery code now)) := by
  obtain ⟨matchedCode, _, isMatched, listed, nonempty, _⟩ := verifyUserBackupCode_valid valid
  cases recovery with
  | none => simp [storedCodes] at listed
  | some config =>
    cases isCodes : config.backup_codes with
    | none => simp [storedCodes, isCodes] at listed
    | some backupCodes =>
      have found : truthy (some matchedCode) = some matchedCode := by simp [truthy, nonempty]
      simp only [consumeBackupCode, valid, isMatched, found, isCodes]
      exact ⟨config, _, _, _, rfl, rfl, rfl, rfl⟩

theorem backupCode_fails {code : String}
    (invalid : (verifyUserBackupCode primitives recovery code now).valid ≠ true) :
    Fails recovery now
      (consumeBackupCode recovery now (verifyUserBackupCode primitives recovery code now)) := by
  rw [ne_eq, Bool.not_eq_true] at invalid
  simp only [consumeBackupCode, invalid]
  exact .inr ⟨_, rfl⟩

theorem consumeSms_none (notPending : pendingSms recovery = none) (now : Nat) (code : String) :
    consumeSmsRecoveryCode primitives recovery now code = .answer noPendingCode := by
  cases recovery with
  | none => rfl
  | some config =>
    simp only [consumeSmsRecoveryCode]
    split
    · rfl
    · rename_i smsState isSms
      split
      · rename_i storedCode expiresAt isCode isExpiry
        simp [pendingSms, isSms, isCode, isExpiry] at notPending
      · rfl

theorem consumeSms_pending (primitives : Primitives) {storedCode : String} {expiresAt : Date}
    (pending : pendingSms recovery = some (storedCode, expiresAt)) (now : Nat) (code : String) :
    ∃ config smsState, recovery = some config ∧
      consumeSmsRecoveryCode primitives recovery now code =
        let result := verifySmsCode primitives code storedCode expiresAt now
        if !result.valid then
          saveFailure recovery now ((truthy result.error).getD "Invalid or expired code")
        else .save (setLastRecoveredAt (clearRecoveryLockout { config with sms := smsState }) now)
          none (completed .sms none) := by
  cases recovery with
  | none => cases pending
  | some config =>
    cases isSms : config.sms with
    | none => simp [pendingSms, isSms] at pending
    | some smsState =>
      simp only [pendingSms, isSms, bind, Option.bind_some, Option.bind_eq_some_iff, pure,
        Option.some.injEq, Prod.mk.injEq] at pending
      obtain ⟨_, isCode, _, isExpiry, rfl, rfl⟩ := pending
      refine ⟨config, some { smsState with
        verification_code := none, verification_expires := none }, rfl, ?_⟩
      simp only [consumeSmsRecoveryCode, isSms, isCode, isExpiry]

theorem smsCode_completes {storedCode : String} {expiresAt : Date} {code : String}
    (pending : pendingSms recovery = some (storedCode, expiresAt))
    (valid : (verifySmsCode primitives code storedCode expiresAt now).valid = true) :
    Completes now (consumeSmsRecoveryCode primitives recovery now code) := by
  obtain ⟨config, smsState, rfl, consumes⟩ := consumeSms_pending primitives pending
    now code
  rw [consumes]
  simp only [valid]
  exact ⟨_, _, _, _, rfl, rfl, rfl, rfl⟩

theorem smsCode_fails {code : String}
    (invalid : ∀ storedCode expiresAt,
      pendingSms recovery = some (storedCode, expiresAt) →
      (verifySmsCode primitives code storedCode expiresAt now).valid ≠ true) :
    Fails recovery now (consumeSmsRecoveryCode primitives recovery now code) := by
  cases pending : pendingSms recovery with
  | none =>
    rw [consumeSms_none pending]
    exact .inl ⟨_, rfl, rfl⟩
  | some codeAndExpiry =>
    obtain ⟨storedCode, expiresAt⟩ := codeAndExpiry
    obtain ⟨config, smsState, _, consumes⟩ := consumeSms_pending primitives pending
      now code
    have isInvalid := Bool.eq_false_iff.mpr (invalid storedCode expiresAt pending)
    rw [consumes]
    simp only [isInvalid]
    exact .inr ⟨_, rfl⟩

theorem Completes.outcome {continuation : Continuation} (completes : Completes now continuation)
    (user : Option UserRecovery) :
    ∃ saved, continuation.outcome user = ⟨.accepted, some saved⟩ ∧
      Recovered user now true saved := by
  obtain ⟨config, saved, consumed, result, rfl, success, time, cleared⟩ := completes
  refine ⟨withConfig user saved, ?_, time, ?_⟩
  · simp [Continuation.outcome, RecoveryCompletionResult.decision, success]
  · cases isLockout : config.lockout with
    | none => simp [counterOf, lockoutOf, recoveryConfig, withConfig, cleared,
        clearRecoveryLockout, isLockout]
    | some lockout => simp [counterOf, lockoutOf, recoveryConfig, withConfig, cleared,
        clearRecoveryLockout, isLockout, Counter.clear]

theorem Fails.outcome {continuation : Continuation}
    (fails : Fails (recoveryConfig user) now continuation) :
    continuation.outcome user = ⟨.rejected, none⟩ ∨
      continuation.outcome user = ⟨.rejected, some (failedUser user now)⟩ := by
  rcases fails with ⟨result, rfl, failed⟩ | ⟨error, rfl⟩
  · left
    simp [Continuation.outcome, RecoveryCompletionResult.decision, failed]
  · right
    rfl

section Outcomes

variable {primitives : Primitives} {unicode : Unicode} {user : Option UserRecovery} {now : Nat}

theorem counted_locked {attempt : RecoveryAttempt} (counted : attempt.isCounted = true)
    (locked : (checkRecoveryLockout (recoveryConfig user) now).locked = true) :
    RecoveryService.attempt primitives unicode user now attempt = ⟨.locked, none⟩ := by
  cases attempt with
  | backupCode _ | smsCode _ => exact if_pos locked
  | securityQuestions answers => cases counted

theorem counted_right {attempt : RecoveryAttempt} (counted : attempt.isCounted = true)
    (isOpen : (checkRecoveryLockout (recoveryConfig user) now).locked = false)
    (right : IsRight primitives unicode user now attempt) :
    ∃ saved, RecoveryService.attempt primitives unicode user now attempt =
      ⟨.accepted, some saved⟩ ∧ Recovered user now true saved := by
  have notLocked := Bool.not_eq_true _ ▸ isOpen
  cases attempt with
  | backupCode code =>
    rw [RecoveryService.attempt, if_neg notLocked]
    exact (backupCode_completes right).outcome user
  | smsCode code =>
    obtain ⟨storedCode, expiresAt, pending, valid⟩ := right
    rw [RecoveryService.attempt, if_neg notLocked]
    exact (smsCode_completes pending valid).outcome user
  | securityQuestions answers => cases counted

theorem counted_wrong {attempt : RecoveryAttempt} (counted : attempt.isCounted = true)
    (isOpen : (checkRecoveryLockout (recoveryConfig user) now).locked = false)
    (wrong : ¬IsRight primitives unicode user now attempt) :
    RecoveryService.attempt primitives unicode user now attempt = ⟨.rejected, none⟩ ∨
      RecoveryService.attempt primitives unicode user now attempt =
        ⟨.rejected, some (failedUser user now)⟩ := by
  have notLocked := Bool.not_eq_true _ ▸ isOpen
  cases attempt with
  | backupCode code =>
    rw [RecoveryService.attempt, if_neg notLocked]
    exact (backupCode_fails wrong).outcome
  | smsCode code =>
    rw [RecoveryService.attempt, if_neg notLocked]
    apply Fails.outcome
    apply smsCode_fails
    intro storedCode expiresAt pending valid
    exact wrong ⟨storedCode, expiresAt, pending, valid⟩
  | securityQuestions answers => cases counted

variable {answers : List (String × String)}

theorem questions_locked (locked : (checkSecurityQuestionsLockout user now).locked = true) :
    RecoveryService.attempt primitives unicode user now (.securityQuestions answers) =
      ⟨.locked, none⟩ := if_pos locked

theorem questions_right (isOpen : (checkSecurityQuestionsLockout user now).locked = false)
    (right : IsRight primitives unicode user now (.securityQuestions answers)) :
    ∃ saved, RecoveryService.attempt primitives unicode user now (.securityQuestions answers) =
      ⟨.accepted, some saved⟩ ∧ Recovered user now false saved := by
  obtain ⟨result, verified, valid⟩ := right
  cases user with
  | none =>
    cases verified
    cases valid
  | some recovery =>
    simp only [RecoveryService.attempt, isOpen, RecoveryService.verifySecurityQuestions,
      verified, valid]
    exact ⟨_, rfl, rfl, rfl⟩

theorem questions_wrong (isOpen : (checkSecurityQuestionsLockout user now).locked = false)
    (wrong : ¬IsRight primitives unicode user now (.securityQuestions answers)) :
    RecoveryService.attempt primitives unicode user now (.securityQuestions answers) =
      ⟨.rejected, (verifySecurityQuestions primitives unicode user (answersTo answers user)).map
        fun _ => (recordFailedSecurityQuestionAttempt user now).1⟩ := by
  simp only [RecoveryService.attempt, isOpen, RecoveryService.verifySecurityQuestions]
  cases verified : verifySecurityQuestions primitives unicode user (answersTo answers user) with
  | none => rfl
  | some result =>
    have invalid : result.valid = false :=
      Bool.eq_false_iff.mpr fun valid => wrong ⟨result, verified, valid⟩
    simp only [invalid]
    rfl

end Outcomes

theorem counterOf_none (noLockout : lockoutOf (recoveryConfig user) = none) :
    counterOf user = .clear := by
  rw [counterOf, noLockout]

theorem counterOf_some {lockout : Lockout}
    (isLockout : lockoutOf (recoveryConfig user) = some lockout) :
    counterOf user = ⟨lockout.failed_attempts, lockout.locked_until⟩ := by
  rw [counterOf, isLockout]

theorem locked_iff_counter (user : Option UserRecovery) (now : Nat) :
    (checkRecoveryLockout (recoveryConfig user) now).locked = (counterOf user).isLocked now := by
  cases isLockout : lockoutOf (recoveryConfig user) with
  | none =>
    rw [counterOf_none isLockout, checkRecoveryLockout, isLockout]
    rfl
  | some lockout =>
    rw [counterOf_some isLockout, checkRecoveryLockout, isLockout]
    cases isUntil : lockout.locked_until with
    | none => simp [Counter.isLocked, isUntil]
    | some lockedUntil =>
      by_cases ahead : now < lockedUntil
      · simp [Counter.isLocked, isUntil, ahead]
      · simp [Counter.isLocked, isUntil, ahead]

theorem counterOf_failedUser
    (isOpen : (checkRecoveryLockout (recoveryConfig user) now).locked = false) :
    counterOf (some (failedUser user now)) = (counterOf user).fail now := by
  have notLocked : ¬lockedAt (recoveryConfig user) now := by
    rw [← locked_iff, isOpen]
    exact Bool.false_ne_true
  obtain ⟨lockout, isLockout, isAttempts, isUntil⟩ := recordFailure_counts notLocked
  have counted : countedFailures (recoveryConfig user) now =
      if (counterOf user).lockedUntil.isSome then 0 else (counterOf user).failures := by
    cases isStored : lockoutOf (recoveryConfig user) with
    | none => simp [countedFailures, isStored, counterOf_none isStored, Counter.clear]
    | some stored =>
      cases lastLock : stored.locked_until with
      | none => simp [countedFailures, isStored, counterOf_some isStored, lastLock]
      | some lockedUntil =>
        have expired : lockedUntil ≤ now := by
          by_contra ahead
          exact notLocked ⟨stored, lockedUntil, isStored, lastLock, Nat.lt_of_not_le ahead⟩
        simp [countedFailures, isStored, counterOf_some isStored, lastLock, expired]
  have recorded : lockoutOf (recoveryConfig (some (failedUser user now))) = some lockout :=
    isLockout
  rw [counterOf_some recorded, isAttempts, isUntil, counted]
  rfl

theorem counterOf_recordFailedQuestions (user : Option UserRecovery) (now : Nat) :
    counterOf (some (recordFailedSecurityQuestionAttempt user now).1) = counterOf user := by
  cases user with
  | none | some _ => rfl

theorem counterOf_mongoose (recovery : UserRecovery) :
    counterOf (some (Mongoose.update recovery)) = counterOf recovery := by
  cases isLockout : recovery.lockout with
  | none | some _ => simp [counterOf, lockoutOf, recoveryConfig, Mongoose.update, isLockout]

def lastRecoveredAt (user : Option UserRecovery) : Option Nat :=
  (recoveryConfig user).bind RecoveryConfig.last_recovered_at

theorem lastRecoveredAt_failedUser (user : Option UserRecovery) (now : Nat) :
    lastRecoveredAt (some (failedUser user now)) = lastRecoveredAt user := by
  cases user <;> rfl

theorem lastRecoveredAt_recordFailedQuestions (user : Option UserRecovery) (now : Nat) :
    lastRecoveredAt (some (recordFailedSecurityQuestionAttempt user now).1) =
      lastRecoveredAt user := by
  cases user <;> rfl

inductive Effect (user : Option UserRecovery) (now : Nat) (isCounted : Bool) : Outcome → Prop
  | locked (holds : isCounted = true → (counterOf user).isLocked now = true) :
      Effect user now isCounted ⟨.locked, none⟩
  | accepted (saved) (isOpen : isCounted = true → (counterOf user).isLocked now = false)
      (recovered : Recovered user now isCounted saved) :
      Effect user now isCounted ⟨.accepted, some saved⟩
  | refused (isOpen : isCounted = true → (counterOf user).isLocked now = false) :
      Effect user now isCounted ⟨.rejected, none⟩
  | failed (saved) (isOpen : isCounted = true → (counterOf user).isLocked now = false)
      (counter : counterOf (some saved) =
        if isCounted then (counterOf user).fail now else counterOf user)
      (time : lastRecoveredAt (some saved) = lastRecoveredAt user) :
      Effect user now isCounted ⟨.rejected, some saved⟩

theorem attempt_effect (primitives : Primitives) (unicode : Unicode)
    (user : Option UserRecovery) (now : Nat) (attempt : RecoveryAttempt) :
    Effect user now attempt.isCounted
      (RecoveryService.attempt primitives unicode user now attempt) := by
  cases counted : attempt.isCounted with
  | true =>
    have isCounter := locked_iff_counter user now
    cases locked : (checkRecoveryLockout (recoveryConfig user) now).locked with
    | true =>
      rw [counted_locked counted locked]
      exact .locked fun _ => by rw [← isCounter, locked]
    | false =>
      have isOpen : true = true → (counterOf user).isLocked now = false :=
        fun _ => by rw [← isCounter, locked]
      by_cases right : IsRight primitives unicode user now attempt
      · obtain ⟨saved, accepts, recovered⟩ := counted_right counted locked right
        rw [accepts]
        exact .accepted saved isOpen recovered
      · rcases counted_wrong counted locked right with refuses | fails
        · rw [refuses]
          exact .refused isOpen
        · rw [fails]
          exact .failed _ isOpen (counterOf_failedUser locked)
            (lastRecoveredAt_failedUser user now)
  | false =>
    cases attempt with
    | backupCode _ | smsCode _ => cases counted
    | securityQuestions answers =>
      have notCounted : false = true → (counterOf user).isLocked now = false :=
        fun isTrue => by cases isTrue
      cases locked : (checkSecurityQuestionsLockout user now).locked with
      | true =>
        rw [questions_locked locked]
        exact .locked fun isTrue => by cases isTrue
      | false =>
        by_cases right : IsRight primitives unicode user now (.securityQuestions answers)
        · obtain ⟨saved, accepts, recovered⟩ := questions_right locked right
          rw [accepts]
          exact .accepted saved notCounted recovered
        · rw [questions_wrong locked right]
          cases verifySecurityQuestions primitives unicode user (answersTo answers user) with
          | none => exact .refused notCounted
          | some result =>
            exact .failed _ notCounted (counterOf_recordFailedQuestions user now)
              (lastRecoveredAt_recordFailedQuestions user now)

structure DocumentMirrors (state : Stores) : Prop where
  counter : counterOf state.document = state.counter
  recovered : ∀ time, state.recoveredAt = some time → lastRecoveredAt state.document = some time
  locks : ∀ attempted ∈ state.attempts, attempted.underLock = true → attempted.mongoose = .locked

theorem isInRecoveryCooldown_of_time {time : Nat} (isTime : lastRecoveredAt user = some time)
    (within : now < time + RECOVERY_COOLDOWN_HOURS * 60 * 60 * 1000) :
    isInRecoveryCooldown user now = true := by
  rw [lastRecoveredAt] at isTime
  rw [isInRecoveryCooldown, isTime, Option.any_some, decide_eq_true_eq]
  exact within

theorem DocumentMirrors.kept {state : Stores} (mirrors : DocumentMirrors state) :
    Kept Attempted.mongoose state.document state where
  locks := mirrors.locks
  coolsDown time isTime within :=
    isInRecoveryCooldown_of_time (mirrors.recovered time isTime) within

section Mongoose

variable (primitives : Primitives) (unicode : Unicode) (ids : RowIds)

theorem storesStep_mirrors (state : Stores) (event : StoresEvent)
    (mirrors : DocumentMirrors state) :
    DocumentMirrors (storesStep primitives unicode ids state event) := by
  obtain ⟨counter, recovered, locks⟩ := mirrors
  cases event with
  | wait milliseconds => exact ⟨counter, recovered, locks⟩
  | attempt attempt =>
    have effect := attempt_effect primitives unicode state.document state.now attempt
    generalize isOutcome : RecoveryService.attempt primitives unicode state.document state.now
      attempt = outcome at effect
    constructor
    · simp only [storesStep, isOutcome]
      cases effect with
      | locked holds => simp [Counter.after, counter]
      | accepted saved isOpen recovered =>
        simp [Counter.after, counterOf_mongoose, recovered.counter, counter]
      | refused isOpen => simp [Counter.after, counter]
      | failed saved isOpen failedCounter time =>
        simp [Counter.after, counterOf_mongoose, failedCounter, counter]
    · simp only [storesStep, isOutcome]
      cases effect with
      | locked holds => simpa using recovered
      | accepted saved isOpen isRecovered =>
        intro time isTime
        rw [if_pos rfl] at isTime
        rw [← isTime]
        exact isRecovered.time
      | refused isOpen => simpa using recovered
      | failed saved isOpen failedCounter time =>
        intro before isBefore
        exact time.trans (recovered before (by simpa using isBefore))
    · intro attempted member underLock
      rcases List.mem_cons.mp member with rfl | earlier
      · simp only [Bool.and_eq_true, ← counter, ← locked_iff_counter] at underLock
        exact congrArg Outcome.decision (counted_locked underLock.1 underLock.2)
      · exact locks attempted earlier underLock

theorem storedUser_mirrors (user : Option UserRecovery) (now : Nat) :
    DocumentMirrors (storedUser ids user now) := by
  refine ⟨?_, ?_, ?_⟩
  · cases user with
    | none => rfl
    | some recovery => exact counterOf_mongoose recovery
  · intro time isTime
    cases isTime
  · intro attempted member
    cases member

end Mongoose

end ParakoId.Recovery
