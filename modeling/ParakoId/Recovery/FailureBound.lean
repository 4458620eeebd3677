import ParakoId.Recovery.SingleUse

/-! The failures of an account between two locks. -/

namespace ParakoId.Recovery

def LockoutHolds (state : State) : Prop :=
  state.ledger.failures ≤ MAX_RECOVERY_ATTEMPTS ∧
    countedFailures state.stored state.now = state.ledger.recorded ∧
    state.ledger.bypassed = false

def Request.unwritten : Request → Bool
  | .consume _ _ => true
  | .save _ _ _ _ => true
  | _ => false

def Request.failed : Request → Bool
  | .save _ _ _ result => !result.success
  | _ => false

def EvaluatesAlone (state : State) : Event → Prop
  | .turn id =>
    match state.requests id with
    | .verify _ copy found =>
      lockedAt found state.now ∨
        (lockoutOf copy.recovery = lockoutOf state.stored ∧
          lockoutOf found = lockoutOf state.stored ∧
          ∀ other, (state.requests other).unwritten = false)
    | .save _ saved _ _ =>
      ∀ lockout lockedUntil, saved.lockout = some lockout →
        lockout.locked_until = some lockedUntil → state.now < lockedUntil
    | _ => True
  | _ => True

/-- A stored record whose counter only the methods of `RecoveryUtils` have changed. -/
structure CountedAccount where
  recovery : Option RecoveryConfig
  counted : Counted recovery

structure RecordsFailure (stored : Option RecoveryConfig) (now : Nat) (lockout : Lockout) :
    Prop where
  counts : lockout.failed_attempts = countedFailures stored now + 1
  locks : lockout.locked_until = none → lockout.failed_attempts < MAX_RECOVERY_ATTEMPTS

def Records (stored : Option RecoveryConfig) (now : Nat) (saved : RecoveryConfig)
    (success : Bool) : Prop :=
  if success then ∀ lockout, saved.lockout = some lockout →
    lockout.failed_attempts = 0 ∧ lockout.locked_until = none
  else ∃ lockout, saved.lockout = some lockout ∧ RecordsFailure stored now lockout

def Request.Current (stored : Option RecoveryConfig) (now : Nat) : Request → Prop
  | .consume copy _ => lockoutOf copy.recovery = lockoutOf stored ∧ ¬lockedAt stored now
  | .save _ saved _ result => Records stored now saved result.success ∧ ¬lockedAt stored now
  | _ => True

structure Serial (state : State) : Prop where
  counted : Counted state.stored
  recorded : countedFailures state.stored state.now = state.ledger.recorded
  alone : ∀ id other, (state.requests id).unwritten = true →
    (state.requests other).unwritten = true → id = other
  current : ∀ id, (state.requests id).Current state.stored state.now
  failures : state.ledger.failures ≤ state.ledger.recorded ∨
    ∃ id, (state.requests id).failed = true ∧
      state.ledger.failures ≤ state.ledger.recorded + 1
  notBypassed : state.ledger.bypassed = false

variable {request : Request} {stored recovery : Option RecoveryConfig} {now : Nat} {state : State}

theorem unwritten_of_failed (failed : request.failed = true) : request.unwritten = true := by
  cases request <;> simp_all [Request.failed, Request.unwritten]

theorem current_open (current : request.Current stored now)
    (unwritten : request.unwritten = true) : ¬lockedAt stored now := by
  cases request with
  | consume _ _ | save _ _ _ _ => exact current.2
  | _ => simp [Request.unwritten] at unwritten

theorem serial_holds (serial : Serial state) : LockoutHolds state := by
  refine ⟨?_, serial.recorded, serial.notBypassed⟩
  rcases serial.failures with bound | ⟨id, failed, bound⟩
  · have atMost := countedFailures_le serial.counted state.now
    have recorded := serial.recorded
    omega
  · have isOpen := current_open (serial.current id) (unwritten_of_failed failed)
    have below := countedFailures_lt serial.counted isOpen
    have recorded := serial.recorded
    omega

theorem current_of_written (written : request.unwritten = false) (stored : Option RecoveryConfig)
    (now : Nat) : request.Current stored now := by
  cases request <;> simp_all [Request.Current, Request.unwritten]

theorem unfailed_of_written (written : request.unwritten = false) : request.failed = false := by
  cases request <;> simp_all [Request.failed, Request.unwritten]

theorem failures_recorded (serial : Serial state)
    (written : ∀ id, (state.requests id).failed = false) :
    state.ledger.failures ≤ state.ledger.recorded := by
  rcases serial.failures with bound | ⟨id, failed, _⟩
  · exact bound
  · simp [written id] at failed

def Continuation.Records (stored : Option RecoveryConfig) (now : Nat) : Continuation → Prop
  | .answer _ => True
  | .save saved _ result => Recovery.Records stored now saved result.success

theorem saveFailure_records (same : lockoutOf recovery = lockoutOf stored)
    (isOpen : ¬lockedAt stored now) (error : String) :
    (saveFailure recovery now error).Records stored now := by
  have copyOpen : ¬lockedAt recovery now := by rwa [lockedAt_congr same]
  obtain ⟨lockout, isLockout, counts, locks⟩ := recordFailure_counts copyOpen
  rw [countedFailures_congr same] at counts locks
  simp only [saveFailure, Continuation.Records, Recovery.Records, failure, Bool.false_eq_true,
    if_false]
  refine ⟨lockout, isLockout, counts, ?_⟩
  intro unlocked
  rw [locks] at unlocked
  split at unlocked
  · cases unlocked
  · omega

theorem consumeBackupCode_records (same : lockoutOf recovery = lockoutOf stored)
    (isOpen : ¬lockedAt stored now) (result : RecoveryVerificationResult) :
    (consumeBackupCode recovery now result).Records stored now := by
  simp only [consumeBackupCode]
  split
  · exact saveFailure_records same isOpen _
  · cases recovery with
    | none => trivial
    | some user =>
      simp only
      split
      · simp [Continuation.Records, Recovery.Records, completed, setLastRecoveredAt,
          clearRecoveryLockout]
      · trivial

theorem consumeSmsRecoveryCode_records (same : lockoutOf recovery = lockoutOf stored)
    (isOpen : ¬lockedAt stored now) (primitives : Primitives) (code : String) :
    (consumeSmsRecoveryCode primitives recovery now code).Records stored now := by
  cases recovery with
  | none => trivial
  | some user =>
    cases hasSms : user.sms with
    | none => simp [consumeSmsRecoveryCode, hasSms, Continuation.Records]
    | some smsState =>
      simp only [consumeSmsRecoveryCode, hasSms]
      split
      · split
        · exact saveFailure_records same isOpen _
        · simp [Continuation.Records, Recovery.Records, completed, setLastRecoveredAt,
            clearRecoveryLockout]
      · trivial

theorem serial_put (serial : Serial state) {id : Nat}
    (before : (state.requests id).unwritten = false) (after : request.unwritten = false) :
    Serial (state.put id request) := by
  have kept : ∀ other, ((state.put id request).requests other).unwritten = true →
      other ≠ id := by
    rintro other unwritten rfl
    simp [after] at unwritten
  constructor
  · exact serial.counted
  · exact serial.recorded
  · intro first second firstUnwritten secondUnwritten
    refine serial.alone first second ?_ ?_
    · simpa [kept first firstUnwritten] using firstUnwritten
    · simpa [kept second secondUnwritten] using secondUnwritten
  · intro other
    by_cases same : other = id
    · simpa [same] using current_of_written after state.stored state.now
    · simpa [same] using serial.current other
  · rcases serial.failures with bound | ⟨failedId, failed, bound⟩
    · exact .inl bound
    · have different : failedId ≠ id := by
        rintro rfl
        simp [unwritten_of_failed failed] at before
      exact .inr ⟨failedId, by simpa [different] using failed, bound⟩
  · exact serial.notBypassed

theorem serial_carryOn (serial : Serial state) {id : Nat} {copy : Copy}
    (isOpen : ¬lockedAt state.stored state.now)
    (others : ∀ other, other ≠ id → (state.requests other).unwritten = false)
    (notFailed : (state.requests id).failed = false) {continuation : Continuation}
    (records : continuation.Records state.stored state.now) :
    Serial (state.carryOn id copy continuation) := by
  have bound : state.ledger.failures ≤ state.ledger.recorded := by
    refine failures_recorded serial ?_
    intro other
    by_cases same : other = id
    · rw [same, notFailed]
    · exact unfailed_of_written (others other same)
  have onlyHere : ∀ other,
      ((state.carryOn id copy continuation).requests other).unwritten = true → other = id := by
    intro other unwritten
    by_contra different
    simp [different, others other different] at unwritten
  constructor
  · simpa using serial.counted
  · simpa using serial.recorded
  · intro first second firstUnwritten secondUnwritten
    rw [onlyHere first firstUnwritten, onlyHere second secondUnwritten]
  · intro other
    simp only [carryOn_requests, carryOn_stored, carryOn_now]
    by_cases same : other = id
    · simp only [same, if_true]
      cases continuation with
      | answer result => trivial
      | save saved consumed result => exact ⟨records, isOpen⟩
    · simpa [same] using serial.current other
  · cases continuation with
    | answer result => exact .inl bound
    | save saved consumed result =>
      cases success : result.success with
      | true =>
        left
        simpa [State.carryOn, Ledger.evaluated, success] using bound
      | false =>
        right
        refine ⟨id, ?_, ?_⟩
        · simp [Continuation.request, Request.failed, success]
        · simpa [State.carryOn, Ledger.evaluated, success] using bound
  · cases continuation with
    | answer result => exact serial.notBypassed
    | save saved consumed result =>
      cases success : result.success <;>
        simp [State.carryOn, Ledger.evaluated, success, isOpen, serial.notBypassed]

theorem serial_verify (serial : Serial state) (id : Nat) {copy : Copy}
    (result : RecoveryVerificationResult)
    (same : lockoutOf copy.recovery = lockoutOf state.stored)
    (isOpen : ¬lockedAt state.stored state.now)
    (written : ∀ other, (state.requests other).unwritten = false) :
    Serial (state.put id (.consume copy result)) := by
  have onlyHere : ∀ other,
      ((state.put id (.consume copy result)).requests other).unwritten = true → other = id := by
    intro other unwritten
    by_contra different
    simp [different, written other] at unwritten
  have bound := failures_recorded serial fun other => unfailed_of_written (written other)
  refine ⟨serial.counted, serial.recorded, ?_, ?_, .inl bound, serial.notBypassed⟩
  · intro first second firstUnwritten secondUnwritten
    rw [onlyHere first firstUnwritten, onlyHere second secondUnwritten]
  · intro other
    by_cases here : other = id
    · rw [here, put_requests, if_pos rfl]
      exact ⟨same, isOpen⟩
    · simpa [here] using serial.current other

theorem records_later {later : Nat} {saved : RecoveryConfig} {success : Bool}
    (order : now ≤ later) (isOpen : ¬lockedAt stored now)
    (records : Records stored now saved success) : Records stored later saved success := by
  cases success with
  | true => exact records
  | false =>
    obtain ⟨lockout, isLockout, counts, locks⟩ := records
    refine ⟨lockout, isLockout, ?_, locks⟩
    rw [counts, countedFailures_open order isOpen]

theorem current_later {later : Nat} (order : now ≤ later) (current : request.Current stored now) :
    request.Current stored later := by
  cases request with
  | consume copy result =>
    exact ⟨current.1, fun locked => current.2 (lockedAt_earlier order locked)⟩
  | save copy saved consumed result =>
    exact ⟨records_later order current.2 current.1,
      fun locked => current.2 (lockedAt_earlier order locked)⟩
  | _ => trivial

theorem serial_wait (serial : Serial state) (primitives : Primitives) (milliseconds : Nat) :
    Serial (step primitives state (.wait milliseconds)) := by
  have order : state.now ≤ state.now + milliseconds := Nat.le_add_right _ _
  have count := @countedFailures_later state.stored _ _ order
  have later : ∀ id, (state.requests id).Current state.stored (state.now + milliseconds) :=
    fun id => current_later order (serial.current id)
  by_cases ends : lockedAt state.stored state.now ∧
      ¬lockedAt state.stored (state.now + milliseconds)
  · rw [if_pos ends] at count
    simp only [step, if_pos ends]
    exact ⟨serial.counted, count, serial.alone, later, .inl (Nat.le_refl _), serial.notBypassed⟩
  · rw [if_neg ends] at count
    simp only [step, if_neg ends]
    exact ⟨serial.counted, count.trans serial.recorded, serial.alone, later, serial.failures,
      serial.notBypassed⟩

theorem serial_save (serial : Serial state) {id : Nat} {copy : Copy} {saved : RecoveryConfig}
    {consumed : Option String} {result : RecoveryCompletionResult}
    (request : state.requests id = .save copy saved consumed result)
    (ahead : ∀ lockout lockedUntil, saved.lockout = some lockout →
      lockout.locked_until = some lockedUntil → state.now < lockedUntil) :
    Serial { state.put id (.done result) with
      stored := some saved
      ledger := state.ledger.written result.success consumed } := by
  have current := serial.current id
  rw [request] at current
  obtain ⟨records, isOpen⟩ := current
  have written : ∀ other, ((state.put id (.done result)).requests other).unwritten = false := by
    intro other
    by_cases same : other = id
    · simp [same, Request.unwritten]
    · cases unwritten : (state.requests other).unwritten with
      | false => simpa [same] using unwritten
      | true =>
        have isHere := serial.alone other id unwritten (by simp [request, Request.unwritten])
        exact (same isHere).elim
  have alone : ∀ first second,
      ((state.put id (.done result)).requests first).unwritten = true →
      ((state.put id (.done result)).requests second).unwritten = true → first = second := by
    intro first second unwritten
    rw [written first] at unwritten
    cases unwritten
  have trivially : ∀ other, ((state.put id (.done result)).requests other).Current
      (some saved) state.now := by
    intro other
    exact current_of_written (written other) _ _
  have openCount := countedFailures_lt serial.counted isOpen
  have isRecorded := serial.recorded
  cases success : result.success with
  | true =>
    rw [success] at records
    refine ⟨?_, ?_, alone, trivially, .inl ?_, ?_⟩
    · intro lockout isLockout
      obtain ⟨none_failed, _⟩ := records lockout isLockout
      simp [none_failed, MAX_RECOVERY_ATTEMPTS]
    · cases isLockout : saved.lockout with
      | none => simp [countedFailures, lockoutOf, isLockout, Ledger.written, Ledger.restart]
      | some lockout =>
        obtain ⟨none_failed, unlocked⟩ := records lockout isLockout
        simp [countedFailures, lockoutOf, isLockout, none_failed, unlocked, Ledger.written,
          Ledger.restart]
    · simp [Ledger.written, Ledger.restart]
    · simpa [Ledger.written, Ledger.restart] using serial.notBypassed
  | false =>
    rw [success] at records
    obtain ⟨lockout, isLockout, counts, locks⟩ := records
    have isSaved : lockoutOf (some saved) = some lockout := isLockout
    have bound : state.ledger.failures ≤ state.ledger.recorded + 1 := by
      rcases serial.failures with bound | ⟨_, _, bound⟩ <;> omega
    refine ⟨?_, ?_, alone, trivially, .inl ?_, ?_⟩
    · intro other isOther
      rw [isSaved, Option.some.injEq] at isOther
      subst isOther
      exact ⟨by omega, locks⟩
    · simp only [countedFailures, isSaved, Ledger.written]
      rw [if_neg]
      · simp only [Bool.false_eq_true, if_false]
        omega
      · intro expired
        cases isUntil : lockout.locked_until with
        | none => simp [isUntil] at expired
        | some lockedUntil =>
          have isAhead := ahead lockout lockedUntil isLockout isUntil
          rw [isUntil, Option.any_some] at expired
          exact Nat.not_le.mpr isAhead (of_decide_eq_true expired)
    · simpa [Ledger.written] using bound
    · simpa [Ledger.written] using serial.notBypassed

theorem step_serial (primitives : Primitives) (state : State) (event : Event)
    (serial : Serial state) (allowed : EvaluatesAlone state event) :
    Serial (step primitives state event) := by
  cases event with
  | wait milliseconds => exact serial_wait serial primitives milliseconds
  | start id attempt =>
    cases request : state.requests id with
    | idle =>
      simp only [step, request]
      exact serial_put serial (by simp [request, Request.unwritten]) rfl
    | _ => simpa [step, request] using serial
  | turn id =>
    cases request : state.requests id with
    | idle | done _ => simpa [step, request] using serial
    | load _ | checkLockout _ _ =>
      simp only [step, request]
      exact serial_put serial (by simp [request, Request.unwritten]) rfl
    | verify attempt copy found =>
      simp only [EvaluatesAlone, request] at allowed
      simp only [step, request, locked_iff]
      by_cases locked : lockedAt found state.now
      · rw [if_pos locked]
        exact serial_put serial (by simp [request, Request.unwritten]) rfl
      · rw [if_neg locked]
        obtain ⟨sameCopy, sameFound, written⟩ := allowed.resolve_left locked
        have isOpen : ¬lockedAt state.stored state.now := by
          rwa [← lockedAt_congr sameFound]
        cases attempt with
        | smsCode code =>
          exact serial_carryOn serial isOpen (fun other _ => written other)
            (by simp [request, Request.failed])
            (consumeSmsRecoveryCode_records sameCopy isOpen primitives code)
        | backupCode code =>
          exact serial_verify serial id _ sameCopy isOpen written
    | consume copy result =>
      have current := serial.current id
      rw [request] at current
      simp only [step, request]
      refine serial_carryOn serial current.2 ?_ (by simp [request, Request.failed])
        (consumeBackupCode_records current.1 current.2 result)
      intro other different
      cases unwritten : (state.requests other).unwritten with
      | false => rfl
      | true =>
        exact (different (serial.alone other id unwritten
          (by simp [request, Request.unwritten]))).elim
    | save copy saved consumed result =>
      simp only [EvaluatesAlone, request] at allowed
      simp only [step, request]
      exact serial_save serial request allowed

theorem openAccount_serial (account : CountedAccount) (now : Nat) :
    Serial (openAccount account.recovery now) where
  counted := account.counted
  recorded := rfl
  alone := by simp [openAccount, Request.unwritten]
  current := fun _ => trivial
  failures := .inl (Nat.le_refl _)
  notBypassed := rfl

/-- In every run whose attempts are evaluated alone, at most the maximum of failures is
evaluated between two locks, none of them is lost, and no attempt succeeds under a lock. -/
theorem failures_along_runs (primitives : Primitives) (account : CountedAccount) (now : Nat)
    (events : List Event)
    (alone : Runs.AllowedFrom (step primitives) EvaluatesAlone
      (openAccount account.recovery now) events) :
    Runs.AlwaysFrom (step primitives) LockoutHolds (openAccount account.recovery now) events := by
  have always := Runs.always_of_allowed (step primitives) (step_serial primitives)
    (openAccount_serial account now) alone
  exact always.mono (step primitives) fun _ serial => serial_holds serial

def attemptEvents (id : Nat) (code : String) : List Event :=
  [.start id (.backupCode code), .turn id, .turn id, .turn id, .turn id, .turn id]

theorem consumeBackupCode_ahead (isOpen : ¬lockedAt recovery now)
    {verified : RecoveryVerificationResult} {saved : RecoveryConfig} {consumed : Option String}
    {result : RecoveryCompletionResult}
    (isSave : consumeBackupCode recovery now verified = .save saved consumed result) :
    ∀ lockout lockedUntil, saved.lockout = some lockout →
      lockout.locked_until = some lockedUntil → now < lockedUntil := by
  intro lockout lockedUntil isLockout isUntil
  simp only [consumeBackupCode] at isSave
  split at isSave
  · obtain ⟨recorded, isRecorded, _, locks⟩ := recordFailure_counts isOpen
    simp only [saveFailure, Continuation.save.injEq] at isSave
    rw [isSave.1, lockoutOf, Option.bind_some, isLockout, Option.some.injEq] at isRecorded
    rw [← isRecorded, isUntil] at locks
    split at locks
    · simp only [Option.some.injEq, LOCKOUT_DURATION_MINUTES] at locks
      omega
    · cases locks
  · cases recovery with
    | none => cases isSave
    | some user =>
      simp only at isSave
      split at isSave
      · cases isSave
        obtain ⟨cleared, _, rfl⟩ := Option.map_eq_some_iff.mp isLockout
        cases isUntil
      · cases isSave

theorem put_put (id : Nat) (first second : Request) :
    (state.put id first).put id second = state.put id second := by
  simp only [State.put, State.mk.injEq, true_and, and_true]
  funext other
  split <;> rfl

theorem attempt_alone (primitives : Primitives) {id : Nat} (code : String)
    (idle : state.requests id = .idle)
    (written : ∀ other, (state.requests other).unwritten = false) :
    Runs.AllowedFrom (step primitives) EvaluatesAlone state (attemptEvents id code) ∧
      ∃ result, ∀ other, (Runs.run (step primitives) state (attemptEvents id code)).requests other =
        if other = id then .done result else state.requests other := by
  have others (copy : Copy) (found : Option RecoveryConfig) (other : Nat) :
      (if other = id then .verify (.backupCode code) copy found
        else state.requests other : Request).unwritten = false := by
    split
    · rfl
    · exact written other
  by_cases locked : lockedAt state.stored state.now
  · simp only [attemptEvents, Runs.AllowedFrom, EvaluatesAlone, step, idle, put_requests,
      ↓reduceIte, put_stored, put_ledger, put_put, put_now, locked, true_and, true_or, locked_iff,
      and_self, Runs.run_cons, Runs.run_nil]
    exact ⟨_, fun _ => rfl⟩
  · cases isNext : consumeBackupCode state.stored state.now
        (verifyUserBackupCode primitives state.stored code state.now) with
    | answer result =>
      simp only [attemptEvents, Runs.AllowedFrom, EvaluatesAlone, step, idle, put_requests,
        ↓reduceIte, put_stored, put_ledger, put_put, put_now, locked, true_and, false_or,
        locked_iff, State.carryOn, isNext, and_self, and_true, Runs.run_cons, Runs.run_nil]
      exact ⟨others _ _, _, fun _ => rfl⟩
    | save saved consumed result =>
      simp only [attemptEvents, Runs.AllowedFrom, EvaluatesAlone, step, idle, put_requests,
        ↓reduceIte, put_stored, put_ledger, put_put, put_now, locked, true_and, false_or,
        locked_iff, State.carryOn, isNext, and_true, Runs.run_cons, Runs.run_nil]
      refine ⟨⟨others _ _, consumeBackupCode_ahead locked isNext⟩, result, ?_⟩
      intro other
      by_cases same : other = id <;> simp [same]

/-- Backup codes that are tried one after the other are evaluated alone. -/
theorem attempts_alone (primitives : Primitives) (code : Nat → String) {ids : List Nat}
    (distinct : ids.Nodup) (idle : ∀ id ∈ ids, state.requests id = .idle)
    (written : ∀ other, (state.requests other).unwritten = false) :
    Runs.AllowedFrom (step primitives) EvaluatesAlone state
      (ids.flatMap fun id => attemptEvents id (code id)) := by
  induction ids generalizing state with
  | nil => trivial
  | cons id rest ih =>
    obtain ⟨allowed, result, requests⟩ :=
      attempt_alone primitives (code id) (idle id List.mem_cons_self) written
    refine allowed.append (ih distinct.of_cons ?_ ?_)
    · intro other member
      have different : other ≠ id := fun same => (List.nodup_cons.mp distinct).1 (same ▸ member)
      rw [requests, if_neg different]
      exact idle other (List.mem_cons_of_mem id member)
    · intro other
      rw [requests]
      split
      · rfl
      · exact written other

def countedCode : CountedAccount where
  recovery := some oneCode
  counted := by simp [Counted, lockoutOf, oneCode]

def wrongAttempts : List Event :=
  (List.range 7).flatMap fun id => attemptEvents id "0000-0000"

theorem failures_of_wrongAttempt :
    let start := openAccount countedCode.recovery 0
    let final := Runs.run (step plainPrimitives) start wrongAttempts
    Runs.AlwaysFrom (step plainPrimitives) LockoutHolds start wrongAttempts ∧
      final.ledger.failures = 5 ∧ lockedAt final.stored final.now := by
  refine ⟨failures_along_runs plainPrimitives countedCode 0 wrongAttempts ?_, by decide +kernel⟩
  exact attempts_alone plainPrimitives _ List.nodup_range (fun _ _ => rfl) fun _ => rfl

def sharedWrongAttempts : List Event :=
  (List.range 6).map (fun id => .start id (.backupCode "0000-0000")) ++
    (List.replicate 5 ((List.range 6).map Event.turn)).flatten

theorem failures_lost :
    let final := Runs.run (step plainPrimitives) (openAccount (some oneCode) 0) sharedWrongAttempts
    final.ledger.failures = 6 ∧ countedFailures final.stored final.now = 1 ∧
      ¬LockoutHolds final := by
  unfold LockoutHolds
  decide +kernel

end ParakoId.Recovery
