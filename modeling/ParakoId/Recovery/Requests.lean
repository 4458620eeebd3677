import ParakoId.Library.Runs
import ParakoId.Recovery.Lockout

/-! Requests of `RecoveryService` on one account. -/

namespace ParakoId.Recovery

structure RecoveryCompletionResult where
  success : Bool
  error : Option String
  method : Option RecoveryMethod
  remainingCodes : Option Nat
  deriving DecidableEq

def failure (error : String) : RecoveryCompletionResult :=
  { success := false, error := some error, method := none, remainingCodes := none }

def completed (method : RecoveryMethod) (remainingCodes : Option Nat) :
    RecoveryCompletionResult :=
  { success := true, error := none, method := some method, remainingCodes }

def tooManyAttempts (lockout : RecoveryLockoutResult) : RecoveryCompletionResult :=
  failure ("Too many failed attempts. Try again in " ++
    toString (lockout.minutesRemaining.getD 0) ++ " minutes.")

/-- What follows a verification: an answer at once, or the write of a record, which names
the code it consumes, and then the answer. -/
inductive Continuation
  | answer (result : RecoveryCompletionResult)
  | save (recovery : RecoveryConfig) (consumed : Option String)
      (result : RecoveryCompletionResult)

def saveFailure (recovery : Option RecoveryConfig) (now : Nat) (error : String) : Continuation :=
  .save (recordFailedRecoveryAttempt recovery now).1 none (failure error)

/-- `verifyAndConsumeBackupCode`, from the result of the verification on. -/
def consumeBackupCode (recovery : Option RecoveryConfig) (now : Nat)
    (result : RecoveryVerificationResult) : Continuation :=
  if !result.valid then
    saveFailure recovery now ((truthy result.error).getD "Invalid backup code")
  else match recovery with
    | none => .answer (failure "Failed to process backup code")
    | some user =>
      match user.backup_codes, truthy result.matchedCode with
      | some backupCodes, some matchedCode =>
        let updatedCodes := backupCodes.codes.filter fun code => code ≠ matchedCode
        let recovered := setLastRecoveredAt (clearRecoveryLockout user) now
        .save
          { recovered with
            methods := some (recovered.methods.getD [])
            backup_codes := some { backupCodes with codes := updatedCodes } }
          (some matchedCode) (completed .backup_codes (some updatedCodes.length))
      | _, _ => .answer (failure "Failed to process backup code")

def noPendingCode : RecoveryCompletionResult :=
  failure "No SMS verification code pending. Please request a new code."

/-- `verifyAndConsumeSmsRecoveryCode`, from the lockout check on. -/
def consumeSmsRecoveryCode (primitives : Primitives) (recovery : Option RecoveryConfig)
    (now : Nat) (code : String) : Continuation :=
  match recovery with
  | none => .answer noPendingCode
  | some user =>
    match user.sms with
    | none => .answer noPendingCode
    | some smsState =>
      match truthy smsState.verification_code, smsState.verification_expires with
      | some storedCode, some expiresAt =>
        let result := verifySmsCode primitives code storedCode expiresAt now
        if !result.valid then
          saveFailure recovery now ((truthy result.error).getD "Invalid or expired code")
        else
          let smsState := { smsState with
            verification_code := none, verification_expires := none }
          let recovered := clearRecoveryLockout { user with sms := some smsState }
          .save (setLastRecoveredAt recovered now) none (completed .sms none)
      | _, _ => .answer noPendingCode

inductive Attempt
  | backupCode (code : String)
  | smsCode (code : String)
  deriving DecidableEq

structure Copy where
  recovery : Option RecoveryConfig
  consumedBefore : Nat
  deriving DecidableEq

inductive Request
  | idle
  | load (attempt : Attempt)
  | checkLockout (attempt : Attempt) (copy : Copy)
  | verify (attempt : Attempt) (copy : Copy) (found : Option RecoveryConfig)
  | consume (copy : Copy) (result : RecoveryVerificationResult)
  | save (copy : Copy) (recovery : RecoveryConfig) (consumed : Option String)
      (result : RecoveryCompletionResult)
  | done (result : RecoveryCompletionResult)
  deriving DecidableEq

/-- What has happened on the account. Failures count from the end of the last lock or from
the last recovery; `failures` are those evaluated and `recorded` those written. -/
structure Ledger where
  consumed : List String
  failures : Nat
  recorded : Nat
  bypassed : Bool

def Ledger.restart (ledger : Ledger) : Ledger := { ledger with failures := 0, recorded := 0 }

def Ledger.evaluated (ledger : Ledger) (success locked : Bool) : Ledger :=
  if success then { ledger with bypassed := ledger.bypassed || locked }
  else { ledger with failures := ledger.failures + 1 }

def Ledger.written (ledger : Ledger) (success : Bool) (consumed : Option String) : Ledger :=
  if success then { ledger.restart with consumed := ledger.consumed ++ consumed.toList }
  else { ledger with recorded := ledger.recorded + 1 }

structure State where
  stored : Option RecoveryConfig
  now : Nat
  requests : Nat → Request
  ledger : Ledger

inductive Event
  | wait (milliseconds : Nat)
  | start (id : Nat) (attempt : Attempt)
  | turn (id : Nat)

def State.put (state : State) (id : Nat) (request : Request) : State :=
  { state with requests := fun other => if other = id then request else state.requests other }

def State.carryOn (state : State) (id : Nat) (copy : Copy) : Continuation → State
  | .answer result => state.put id (.done result)
  | .save recovery consumed result =>
    { state.put id (.save copy recovery consumed result) with
      ledger := state.ledger.evaluated result.success
        (decide (lockedAt state.stored state.now)) }

def step (primitives : Primitives) (state : State) : Event → State
  | .wait milliseconds =>
    let later := state.now + milliseconds
    { state with
      now := later
      ledger := if lockedAt state.stored state.now ∧ ¬lockedAt state.stored later then
          state.ledger.restart
        else state.ledger }
  | .start id attempt =>
    match state.requests id with
    | .idle => state.put id (.load attempt)
    | _ => state
  | .turn id =>
    match state.requests id with
    | .idle => state
    | .load attempt =>
      state.put id (.checkLockout attempt ⟨state.stored, state.ledger.consumed.length⟩)
    | .checkLockout attempt copy => state.put id (.verify attempt copy state.stored)
    | .verify attempt copy found =>
      let lockout := checkRecoveryLockout found state.now
      if lockout.locked then state.put id (.done (tooManyAttempts lockout))
      else match attempt with
        | .backupCode code =>
          -- the hashes are verified asynchronously
          state.put id
            (.consume copy (verifyUserBackupCode primitives copy.recovery code state.now))
        | .smsCode code =>
          state.carryOn id copy
            (consumeSmsRecoveryCode primitives copy.recovery state.now code)
    | .consume copy result =>
      state.carryOn id copy (consumeBackupCode copy.recovery state.now result)
    | .save _ recovery consumed result =>
      { state.put id (.done result) with
        stored := some recovery
        ledger := state.ledger.written result.success consumed }
    | .done _ => state

def openAccount (recovery : Option RecoveryConfig) (now : Nat) : State :=
  { stored := recovery, now, requests := fun _ => .idle
    ledger :=
      { consumed := [], failures := countedFailures recovery now
        recorded := countedFailures recovery now, bypassed := false } }

def Continuation.request (copy : Copy) : Continuation → Request
  | .answer result => .done result
  | .save recovery consumed result => .save copy recovery consumed result

section

variable (state : State)
include state

@[simp] theorem put_requests (id other : Nat) (request : Request) :
    (state.put id request).requests other =
      if other = id then request else state.requests other := rfl

@[simp] theorem put_stored (id : Nat) (request : Request) :
    (state.put id request).stored = state.stored := rfl

@[simp] theorem put_now (id : Nat) (request : Request) :
    (state.put id request).now = state.now := rfl

@[simp] theorem put_ledger (id : Nat) (request : Request) :
    (state.put id request).ledger = state.ledger := rfl

@[simp] theorem carryOn_requests (id other : Nat) (copy : Copy) (continuation : Continuation) :
    (state.carryOn id copy continuation).requests other =
      if other = id then continuation.request copy else state.requests other := by
  cases continuation <;> rfl

@[simp] theorem carryOn_stored (id : Nat) (copy : Copy) (continuation : Continuation) :
    (state.carryOn id copy continuation).stored = state.stored := by
  cases continuation <;> rfl

@[simp] theorem carryOn_now (id : Nat) (copy : Copy) (continuation : Continuation) :
    (state.carryOn id copy continuation).now = state.now := by
  cases continuation <;> rfl

end

@[simp] theorem evaluated_consumed (ledger : Ledger) (success locked : Bool) :
    (ledger.evaluated success locked).consumed = ledger.consumed := by
  cases success <;> rfl

@[simp] theorem evaluated_recorded (ledger : Ledger) (success locked : Bool) :
    (ledger.evaluated success locked).recorded = ledger.recorded := by
  cases success <;> rfl

@[simp] theorem carryOn_consumed (state : State) (id : Nat) (copy : Copy)
    (continuation : Continuation) :
    (state.carryOn id copy continuation).ledger.consumed = state.ledger.consumed := by
  cases continuation <;> simp [State.carryOn]

@[simp] theorem carryOn_recorded (state : State) (id : Nat) (copy : Copy)
    (continuation : Continuation) :
    (state.carryOn id copy continuation).ledger.recorded = state.ledger.recorded := by
  cases continuation <;> simp [State.carryOn]

end ParakoId.Recovery
