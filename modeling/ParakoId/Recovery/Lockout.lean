import ParakoId.Recovery.Record

/-! The lockout counter that backup codes and SMS codes share. -/

namespace ParakoId.Recovery

def MAX_RECOVERY_ATTEMPTS : Nat := 5
def LOCKOUT_DURATION_MINUTES : Nat := 30

structure RecoveryLockoutResult where
  locked : Bool
  failedAttempts : Nat
  remainingAttempts : Nat
  lockedUntil : Option Nat
  minutesRemaining : Option Nat

structure FailedAttemptResult where
  locked : Bool
  failedAttempts : Nat
  lockedUntil : Option Nat

def freshLockout : Lockout :=
  { locked := false, locked_until := none, failed_attempts := 0, last_failed_at := none }

def lockoutOf (recovery : Option RecoveryConfig) : Option Lockout :=
  recovery.bind RecoveryConfig.lockout

def checkRecoveryLockout (recovery : Option RecoveryConfig) (now : Nat) : RecoveryLockoutResult :=
  match lockoutOf recovery with
  | none =>
    { locked := false, failedAttempts := 0, remainingAttempts := MAX_RECOVERY_ATTEMPTS
      lockedUntil := none, minutesRemaining := none }
  | some lockout =>
    let notLocked : RecoveryLockoutResult :=
      { locked := false, failedAttempts := lockout.failed_attempts
        remainingAttempts := MAX_RECOVERY_ATTEMPTS - lockout.failed_attempts
        lockedUntil := none, minutesRemaining := none }
    match lockout.locked_until with
    | none => notLocked
    | some lockedUntil =>
      if now < lockedUntil then
        { locked := true, failedAttempts := lockout.failed_attempts, remainingAttempts := 0
          lockedUntil := some lockedUntil
          minutesRemaining := some ((lockedUntil - now + (1000 * 60 - 1)) / (1000 * 60)) }
      else notLocked

def recordFailure (lockout : Lockout) (now : Nat) : Lockout × FailedAttemptResult :=
  let current := if lockout.locked_until.any (fun lockedUntil => decide (lockedUntil ≤ now)) then
      { lockout with failed_attempts := 0, locked_until := none }
    else lockout
  let failed := { current with
    failed_attempts := current.failed_attempts + 1, last_failed_at := some now }
  if failed.failed_attempts ≥ MAX_RECOVERY_ATTEMPTS then
    let lockedUntil := some (now + LOCKOUT_DURATION_MINUTES * 60 * 1000)
    ({ failed with locked_until := lockedUntil },
      { locked := true, failedAttempts := failed.failed_attempts, lockedUntil })
  else (failed, { locked := false, failedAttempts := failed.failed_attempts, lockedUntil := none })

def recordFailedRecoveryAttempt (recovery : Option RecoveryConfig) (now : Nat) :
    RecoveryConfig × FailedAttemptResult :=
  let user := recovery.getD
    { enabled := false, methods := some [], lockout := some freshLockout
      last_recovered_at := none, backup_codes := none, sms := none }
  let (lockout, result) := recordFailure (user.lockout.getD freshLockout) now
  ({ user with lockout := some lockout }, result)

def clearRecoveryLockout (recovery : RecoveryConfig) : RecoveryConfig :=
  { recovery with
    lockout := recovery.lockout.map fun lockout =>
      { lockout with failed_attempts := 0, last_failed_at := none, locked_until := none } }

def setLastRecoveredAt (recovery : RecoveryConfig) (now : Nat) : RecoveryConfig :=
  { recovery with last_recovered_at := some now }

/-- The count a failure at `now` adds to: that of an expired lock starts over. -/
def countedFailures (recovery : Option RecoveryConfig) (now : Nat) : Nat :=
  match lockoutOf recovery with
  | none => 0
  | some lockout =>
    if lockout.locked_until.any (fun lockedUntil => decide (lockedUntil ≤ now)) then 0
    else lockout.failed_attempts

def lockedAt (recovery : Option RecoveryConfig) (now : Nat) : Prop :=
  ∃ lockout lockedUntil, lockoutOf recovery = some lockout ∧
    lockout.locked_until = some lockedUntil ∧ now < lockedUntil

/-- What a counter satisfies that only the methods of `RecoveryUtils` have changed. -/
def Counted (recovery : Option RecoveryConfig) : Prop :=
  ∀ lockout, lockoutOf recovery = some lockout →
    lockout.failed_attempts ≤ MAX_RECOVERY_ATTEMPTS ∧
      (lockout.locked_until = none → lockout.failed_attempts < MAX_RECOVERY_ATTEMPTS)

theorem locked_iff (recovery : Option RecoveryConfig) (now : Nat) :
    (checkRecoveryLockout recovery now).locked = true ↔ lockedAt recovery now := by
  simp only [checkRecoveryLockout, lockedAt]
  cases lockoutOf recovery with
  | none => simp
  | some lockout =>
    cases isUntil : lockout.locked_until with
    | none => simp [isUntil]
    | some lockedUntil =>
      by_cases ahead : now < lockedUntil
      · simp [isUntil, ahead]
      · simp [isUntil, ahead]

instance (recovery : Option RecoveryConfig) (now : Nat) : Decidable (lockedAt recovery now) :=
  decidable_of_iff _ (locked_iff recovery now)

theorem lockedAt_congr {first second : Option RecoveryConfig}
    (same : lockoutOf first = lockoutOf second) (now : Nat) :
    lockedAt first now ↔ lockedAt second now := by
  simp [lockedAt, same]

theorem countedFailures_congr {first second : Option RecoveryConfig}
    (same : lockoutOf first = lockoutOf second) (now : Nat) :
    countedFailures first now = countedFailures second now := by
  simp [countedFailures, same]

variable {recovery : Option RecoveryConfig}

theorem lockedAt_earlier {now later : Nat} (order : now ≤ later)
    (locked : lockedAt recovery later) : lockedAt recovery now := by
  obtain ⟨lockout, lockedUntil, isLockout, isUntil, ahead⟩ := locked
  exact ⟨lockout, lockedUntil, isLockout, isUntil, Nat.lt_of_le_of_lt order ahead⟩

theorem countedFailures_le (counted : Counted recovery) (now : Nat) :
    countedFailures recovery now ≤ MAX_RECOVERY_ATTEMPTS := by
  simp only [countedFailures]
  cases isLockout : lockoutOf recovery with
  | none => simp
  | some lockout =>
    simp only
    split
    · simp
    · exact (counted lockout isLockout).1

theorem countedFailures_lt (counted : Counted recovery) {now : Nat}
    (isOpen : ¬lockedAt recovery now) : countedFailures recovery now < MAX_RECOVERY_ATTEMPTS := by
  simp only [countedFailures]
  cases isLockout : lockoutOf recovery with
  | none => simp [MAX_RECOVERY_ATTEMPTS]
  | some lockout =>
    cases isUntil : lockout.locked_until with
    | none => simpa [isUntil] using (counted lockout isLockout).2 isUntil
    | some lockedUntil =>
      have expired : lockedUntil ≤ now := by
        by_contra ahead
        exact isOpen ⟨lockout, lockedUntil, isLockout, isUntil, Nat.lt_of_not_le ahead⟩
      simp [isUntil, expired, MAX_RECOVERY_ATTEMPTS]

theorem countedFailures_later {now later : Nat} (order : now ≤ later) :
    countedFailures recovery later =
      if lockedAt recovery now ∧ ¬lockedAt recovery later then 0
      else countedFailures recovery now := by
  cases isLockout : lockoutOf recovery with
  | none => simp [countedFailures, lockedAt, isLockout]
  | some lockout =>
    cases isUntil : lockout.locked_until with
    | none => simp [countedFailures, lockedAt, isLockout, isUntil]
    | some lockedUntil =>
      by_cases aheadLater : later < lockedUntil
      · have ahead : now < lockedUntil := by omega
        simp [countedFailures, lockedAt, isLockout, isUntil, Nat.not_le.mpr ahead,
          Nat.not_le.mpr aheadLater, aheadLater]
      · have expired : lockedUntil ≤ later := by omega
        by_cases ahead : now < lockedUntil
        · simp [countedFailures, lockedAt, isLockout, isUntil, ahead, aheadLater, expired]
        · have expiredBefore : lockedUntil ≤ now := by omega
          simp [countedFailures, isLockout, isUntil, expired, expiredBefore]

theorem countedFailures_open {now later : Nat} (order : now ≤ later)
    (isOpen : ¬lockedAt recovery now) :
    countedFailures recovery later = countedFailures recovery now := by
  rw [countedFailures_later order]
  simp [isOpen]

theorem recordFailure_lockout (lockout : Lockout) (now : Nat) :
    (recordFailure lockout now).1 =
      let expired := lockout.locked_until.any fun lockedUntil => decide (lockedUntil ≤ now)
      let attempts := (if expired then 0 else lockout.failed_attempts) + 1
      { lockout with
        failed_attempts := attempts
        last_failed_at := some now
        locked_until := if attempts ≥ MAX_RECOVERY_ATTEMPTS then
            some (now + LOCKOUT_DURATION_MINUTES * 60 * 1000)
          else if expired then none else lockout.locked_until } := by
  simp only [recordFailure]
  by_cases expired : (lockout.locked_until.any fun lockedUntil => decide (lockedUntil ≤ now)) = true
  · simp only [expired, if_true]
    split <;> rfl
  · simp only [expired, Bool.false_eq_true, if_false]
    split <;> rfl

theorem recordFailure_counts {now : Nat} (isOpen : ¬lockedAt recovery now) :
    ∃ lockout, lockoutOf (some (recordFailedRecoveryAttempt recovery now).1) = some lockout ∧
      lockout.failed_attempts = countedFailures recovery now + 1 ∧
      lockout.locked_until =
        if countedFailures recovery now + 1 ≥ MAX_RECOVERY_ATTEMPTS then
          some (now + LOCKOUT_DURATION_MINUTES * 60 * 1000)
        else none := by
  have record : lockoutOf (some (recordFailedRecoveryAttempt recovery now).1) =
      some (recordFailure ((lockoutOf recovery).getD freshLockout) now).1 := by
    cases recovery <;> rfl
  rw [record]
  refine ⟨_, rfl, ?_⟩
  rw [recordFailure_lockout]
  cases isLockout : lockoutOf recovery with
  | none => simp [countedFailures, isLockout, freshLockout, MAX_RECOVERY_ATTEMPTS]
  | some lockout =>
    cases isUntil : lockout.locked_until with
    | none => simp [countedFailures, isLockout, isUntil]
    | some lockedUntil =>
      have expired : lockedUntil ≤ now := by
        by_contra ahead
        exact isOpen ⟨lockout, lockedUntil, isLockout, isUntil, Nat.lt_of_not_le ahead⟩
      simp [countedFailures, isLockout, isUntil, expired]

@[simp] theorem storedCodes_recordFailure (recovery : Option RecoveryConfig) (now : Nat) :
    storedCodes (some (recordFailedRecoveryAttempt recovery now).1) = storedCodes recovery := by
  cases recovery <;> rfl

end ParakoId.Recovery
