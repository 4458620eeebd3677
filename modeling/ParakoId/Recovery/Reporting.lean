import ParakoId.Library.Lockouts
import ParakoId.Recovery.SecurityQuestions

/-!
What the two lockout checks report as remaining, against the failures that the counters take
until they lock.
-/

namespace ParakoId.Recovery

open Lockouts (Counter LocksAfter)

def lockoutCounter (recovery : Option RecoveryConfig) : Counter :=
  match lockoutOf recovery with
  | none => ⟨0, none⟩
  | some lockout => ⟨lockout.failed_attempts, lockout.locked_until⟩

def questionCounter (recovery : Option UserRecovery) : Counter :=
  match recovery.bind UserRecovery.security_questions with
  | none => ⟨0, none⟩
  | some sqData => ⟨sqData.failed_attempts.getD 0, sqData.locked_until⟩

def recoveryFailure (recovery : Option RecoveryConfig) (now : Nat) :
    Option RecoveryConfig × Bool :=
  let (user, result) := recordFailedRecoveryAttempt recovery now
  (some user, result.locked)

def questionFailure (recovery : Option UserRecovery) (now : Nat) : Option UserRecovery × Bool :=
  let (user, result) := recordFailedSecurityQuestionAttempt recovery now
  (some user, result.locked)

def recoveryLockDuration : Nat := LOCKOUT_DURATION_MINUTES * 60 * 1000
def questionLockDuration : Nat := SECURITY_QUESTIONS_LOCKOUT_MINUTES * 60 * 1000

theorem lockoutCounter_recorded (recovery : Option RecoveryConfig) (now : Nat) :
    lockoutCounter (recoveryFailure recovery now).1 =
      let lockout := (recordFailure ((lockoutOf recovery).getD freshLockout) now).1
      ⟨lockout.failed_attempts, lockout.locked_until⟩ := by
  cases recovery <;> rfl

theorem recoveryFailure_locked (recovery : Option RecoveryConfig) (now : Nat) :
    (recoveryFailure recovery now).2 =
      (recordFailure ((lockoutOf recovery).getD freshLockout) now).2.locked := by
  cases recovery <;> rfl

theorem lockoutCounter_getD (recovery : Option RecoveryConfig) :
    lockoutCounter recovery =
      ⟨((lockoutOf recovery).getD freshLockout).failed_attempts,
        ((lockoutOf recovery).getD freshLockout).locked_until⟩ := by
  cases isLockout : lockoutOf recovery <;> simp [lockoutCounter, isLockout, freshLockout]

theorem recoveryFailure_counts (recovery : Option RecoveryConfig) (now : Nat) :
    (lockoutCounter recovery).fail MAX_RECOVERY_ATTEMPTS recoveryLockDuration now =
      (lockoutCounter (recoveryFailure recovery now).1, (recoveryFailure recovery now).2) := by
  rw [lockoutCounter_recorded, recoveryFailure_locked, lockoutCounter_getD recovery]
  generalize (lockoutOf recovery).getD freshLockout = lockout
  simp only [Counter.fail, Counter.counted, Counter.expired, recordFailure]
  by_cases expired : (lockout.locked_until.any fun lockedUntil => decide (lockedUntil ≤ now)) = true
  · simp only [expired, if_true]
    split <;> rfl
  · simp only [expired, Bool.false_eq_true, if_false]
    split <;> rfl

theorem questionCounter_recorded (recovery : Option UserRecovery) (now : Nat) :
    questionCounter (questionFailure recovery now).1 =
      let sqData := (recordQuestionFailure
        ((recovery.bind UserRecovery.security_questions).getD noQuestions) now).1
      ⟨sqData.failed_attempts.getD 0, sqData.locked_until⟩ := by
  cases recovery <;> rfl

theorem questionFailure_locked (recovery : Option UserRecovery) (now : Nat) :
    (questionFailure recovery now).2 = (recordQuestionFailure
      ((recovery.bind UserRecovery.security_questions).getD noQuestions) now).2.locked := by
  cases recovery <;> rfl

theorem questionCounter_getD (recovery : Option UserRecovery) :
    questionCounter recovery =
      let sqData := (recovery.bind UserRecovery.security_questions).getD noQuestions
      ⟨sqData.failed_attempts.getD 0, sqData.locked_until⟩ := by
  cases isData : recovery.bind UserRecovery.security_questions <;>
    simp [questionCounter, isData, noQuestions]

theorem questionFailure_counts (recovery : Option UserRecovery) (now : Nat) :
    (questionCounter recovery).fail SECURITY_QUESTIONS_MAX_ATTEMPTS questionLockDuration now =
      (questionCounter (questionFailure recovery now).1, (questionFailure recovery now).2) := by
  rw [questionCounter_recorded, questionFailure_locked, questionCounter_getD recovery]
  generalize (recovery.bind UserRecovery.security_questions).getD noQuestions = sqData
  simp only [Counter.fail, Counter.counted, Counter.expired, recordQuestionFailure]
  by_cases expired : (sqData.locked_until.any fun lockedUntil => decide (lockedUntil ≤ now)) = true
  · simp only [expired, if_true, Option.getD_some]
    split <;> rfl
  · simp only [expired, Bool.false_eq_true, if_false]
    split <;> rfl

theorem checkRecoveryLockout_reads (recovery : Option RecoveryConfig) (now : Nat) :
    (checkRecoveryLockout recovery now).locked = (lockoutCounter recovery).locked now ∧
      ((lockoutCounter recovery).locked now = false →
        (checkRecoveryLockout recovery now).remainingAttempts =
          MAX_RECOVERY_ATTEMPTS - (lockoutCounter recovery).failures) := by
  simp only [checkRecoveryLockout, lockoutCounter, Counter.locked]
  cases lockoutOf recovery with
  | none => simp
  | some lockout =>
    cases isUntil : lockout.locked_until with
    | none => simp [isUntil]
    | some lockedUntil => by_cases ahead : now < lockedUntil <;> simp [isUntil, ahead]

theorem checkSecurityQuestionsLockout_reads (recovery : Option UserRecovery) (now : Nat) :
    (checkSecurityQuestionsLockout recovery now).locked = (questionCounter recovery).locked now ∧
      ((questionCounter recovery).locked now = false →
        (checkSecurityQuestionsLockout recovery now).remainingAttempts =
          SECURITY_QUESTIONS_MAX_ATTEMPTS - (questionCounter recovery).failures) := by
  simp only [checkSecurityQuestionsLockout, questionCounter, Counter.locked]
  cases recovery.bind UserRecovery.security_questions with
  | none => simp
  | some sqData =>
    cases isUntil : sqData.locked_until with
    | none => simp [isUntil]
    | some lockedUntil => by_cases ahead : now < lockedUntil <;> simp [isUntil, ahead]

def CountIsCurrent (limit : Nat) (counter : Counter) : Prop :=
  counter.failures < limit ∧ (counter.lockedUntil ≠ none → counter.failures = 0)

theorem left_eq_iff {limit : Nat} {counter : Counter} {now : Nat} (isPositive : 0 < limit)
    (isOpen : counter.locked now = false) :
    counter.left limit now = limit - counter.failures ↔ CountIsCurrent limit counter := by
  simp only [Counter.left, Counter.counted, CountIsCurrent]
  rcases Counter.open_cases isOpen with unlocked | expired
  · simp only [Counter.expired, unlocked, Option.any_none, Bool.false_eq_true, if_false, ne_eq,
      not_true_eq_false, false_implies, and_true]
    omega
  · have hasLock : counter.lockedUntil ≠ none := by
      intro unlocked
      simp [Counter.expired, unlocked] at expired
    simp only [expired, if_true, hasLock, ne_eq, not_false_eq_true, true_implies]
    omega

theorem locksAfter_report_iff {State : Type*} {record : State → Nat → State × Bool}
    {view : State → Counter} {limit duration : Nat}
    (counts : ∀ state now,
      (view state).fail limit duration now = (view (record state now).1, (record state now).2))
    (isPositive : 0 < limit) {state : State} {now : Nat}
    (isOpen : (view state).locked now = false) :
    (∀ count, LocksAfter record state now count ↔ count = limit - (view state).failures) ↔
      CountIsCurrent limit (view state) := by
  rw [← left_eq_iff isPositive isOpen]
  simp only [LocksAfter.view_iff counts, Counter.locksAfter_iff isOpen]
  constructor
  · intro agrees
    exact (agrees _).mp rfl
  · intro same count
    rw [same]

/-- Where a check reports no lock, what it reports as remaining is the number of failures
until the lock exactly if the count it reads is current. -/
theorem remainingAttempts_iff (recovery : Option RecoveryConfig) (stored : Option UserRecovery)
    (now : Nat) :
    ((checkRecoveryLockout recovery now).locked = false →
      ((∀ count, LocksAfter recoveryFailure recovery now count ↔
          count = (checkRecoveryLockout recovery now).remainingAttempts) ↔
        CountIsCurrent MAX_RECOVERY_ATTEMPTS (lockoutCounter recovery))) ∧
    ((checkSecurityQuestionsLockout stored now).locked = false →
      ((∀ count, LocksAfter questionFailure stored now count ↔
          count = (checkSecurityQuestionsLockout stored now).remainingAttempts) ↔
        CountIsCurrent SECURITY_QUESTIONS_MAX_ATTEMPTS (questionCounter stored))) := by
  constructor
  · intro isOpen
    obtain ⟨locked, remaining⟩ := checkRecoveryLockout_reads recovery now
    rw [locked] at isOpen
    rw [remaining isOpen]
    exact locksAfter_report_iff recoveryFailure_counts (by decide) isOpen
  · intro isOpen
    obtain ⟨locked, remaining⟩ := checkSecurityQuestionsLockout_reads stored now
    rw [locked] at isOpen
    rw [remaining isOpen]
    exact locksAfter_report_iff questionFailure_counts (by decide) isOpen

def expiredLock : RecoveryConfig :=
  { enabled := true, methods := some [.backup_codes]
    lockout := some
      { locked := false, locked_until := some 1800000, failed_attempts := 5
        last_failed_at := some 0 }
    last_recovered_at := none, backup_codes := none, sms := none }

theorem remainingAttempts_counts_on :
    CountIsCurrent MAX_RECOVERY_ATTEMPTS (lockoutCounter none) ∧
      ∀ count, LocksAfter recoveryFailure none 0 count ↔ count = 5 :=
  ⟨⟨by decide, fun _ => rfl⟩,
    ((remainingAttempts_iff none none 0).1 rfl).mpr ⟨by decide, fun _ => rfl⟩⟩

theorem remainingAttempts_after_lock :
    (checkRecoveryLockout (some expiredLock) 1800000).locked = false ∧
      (checkRecoveryLockout (some expiredLock) 1800000).remainingAttempts = 0 ∧
      LocksAfter recoveryFailure (some expiredLock) 1800000 5 := by
  refine ⟨by decide, by decide, ?_⟩
  rw [LocksAfter.view_iff recoveryFailure_counts, Counter.locksAfter_iff (by decide)]
  decide

end ParakoId.Recovery
