import ParakoId.Library.Runs

/-! The circuit breaker in front of the session store. -/

namespace ParakoId.SessionStore

open Runs (AlwaysFrom AllowedFrom)

inductive CircuitState
  | closed
  | opened
  | halfOpen
  deriving DecidableEq

structure CircuitBreaker where
  state : CircuitState
  failures : Nat
  lastFailure : Nat
  successCount : Nat

def failureThreshold : Nat := 5

def resetTimeout : Nat := 30000

def successThreshold : Nat := 3

def canExecute (now : Nat) (breaker : CircuitBreaker) : Bool × CircuitBreaker :=
  match breaker.state with
  | .closed => (true, breaker)
  | .opened =>
    if breaker.lastFailure + resetTimeout ≤ now then (true, { breaker with state := .halfOpen })
    else (false, breaker)
  | .halfOpen => (true, breaker)

def recordSuccess (breaker : CircuitBreaker) : CircuitBreaker :=
  let breaker := { breaker with failures := 0 }
  match breaker.state with
  | .halfOpen =>
    if successThreshold ≤ breaker.successCount + 1 then
      { breaker with state := .closed, successCount := 0 }
    else { breaker with successCount := breaker.successCount + 1 }
  | _ => breaker

def recordFailure (now : Nat) (breaker : CircuitBreaker) : CircuitBreaker :=
  let breaker := { breaker with
    failures := breaker.failures + 1, lastFailure := now, successCount := 0 }
  match breaker.state with
  | .halfOpen => { breaker with state := .opened }
  | .closed =>
    if failureThreshold ≤ breaker.failures then { breaker with state := .opened } else breaker
  | .opened => breaker

inductive Method
  | get
  | set
  | destroy
  | touch
  deriving DecidableEq

/-- The inner store calls back with or without an error, or throws before it calls back. -/
inductive Completion
  | succeeds
  | fails
  | throws

/-- Whether a completion counts as a success or as a failure. `get` alone has no handler for
what the inner store throws. -/
def Completion.outcome (completion : Completion) (method : Method) : Option Bool :=
  match completion with
  | .succeeds => some true
  | .fails => some false
  | .throws => if method = .get then none else some false

structure Operation where
  method : Method
  recovery : Nat

/-- What is to be seen from outside. The probes are the successes, since the breaker became
half-open and without a failure since, of operations that were started since. -/
structure Log where
  failures : Nat
  lastFailure : Nat
  recoveries : Nat
  probes : Nat
  admissions : List Nat
  closings : List Nat

structure BreakerSystem where
  now : Nat
  breaker : CircuitBreaker
  operations : Nat → Option Operation
  log : Log

inductive BreakerEvent
  | wait (milliseconds : Nat)
  | start (id : Nat) (method : Method)
  | complete (id : Nat) (completion : Completion)

def Log.admitted (log : Log) (now : Nat) (state : CircuitState) : Log :=
  match state with
  | .opened => { log with
      recoveries := log.recoveries + 1, probes := 0
      admissions := (now - log.lastFailure) :: log.admissions }
  | _ => log

def Log.failed (log : Log) (now : Nat) : Log :=
  { log with failures := log.failures + 1, lastFailure := now, probes := 0 }

def Log.isProbe (log : Log) (state : CircuitState) (operation : Operation) : Bool :=
  state == .halfOpen && operation.recovery == log.recoveries

def Log.succeeded (log : Log) (before after : CircuitState) (operation : Operation) : Log :=
  let probes := if log.isProbe before operation then log.probes + 1 else log.probes
  { log with
    failures := 0, probes
    closings := if before ≠ .closed ∧ after = .closed then probes :: log.closings
      else log.closings }

def BreakerSystem.drop (system : BreakerSystem) (id : Nat) : BreakerSystem :=
  { system with
    operations := fun other => if other = id then none else system.operations other }

/-- `touches` tells whether the inner store has a `touch`; without one the call is over once it
is admitted. -/
def breakerStep (touches : Bool) (system : BreakerSystem) : BreakerEvent → BreakerSystem
  | .wait milliseconds => { system with now := system.now + milliseconds }
  | .start id method =>
    if (system.operations id).isSome then system
    else
      let (admitted, breaker) := canExecute system.now system.breaker
      if !admitted then { system with breaker }
      else
        let log := system.log.admitted system.now system.breaker.state
        let operation := if method = .touch ∧ touches = false then none
          else some ⟨method, log.recoveries⟩
        { system with
          breaker, log
          operations := fun other => if other = id then operation else system.operations other }
  | .complete id completion =>
    match system.operations id with
    | none => system
    | some operation =>
      match completion.outcome operation.method with
      | none => system.drop id
      | some true =>
        let breaker := recordSuccess system.breaker
        { system.drop id with
          breaker
          log := system.log.succeeded system.breaker.state breaker.state operation }
      | some false =>
        { system.drop id with
          breaker := recordFailure system.now system.breaker
          log := system.log.failed system.now }

def newBreaker (now : Nat) : BreakerSystem where
  now := now
  breaker := ⟨.closed, 0, 0, 0⟩
  operations := fun _ => none
  log := ⟨0, 0, 0, 0, [], []⟩

structure Protocol (system : BreakerSystem) : Prop where
  closed : system.breaker.state = .closed → system.log.failures < failureThreshold
  admissions : ∀ waited ∈ system.log.admissions, resetTimeout ≤ waited
  closings : ∀ probes ∈ system.log.closings, successThreshold ≤ probes

def ClosesByProbes (system : BreakerSystem) : BreakerEvent → Prop
  | .complete id .succeeds => ∀ operation, system.operations id = some operation →
      system.breaker.state = .halfOpen →
      successThreshold ≤ system.breaker.successCount + 1 →
        system.log.probes = system.breaker.successCount ∧
          operation.recovery = system.log.recoveries
  | _ => True

structure Counted (system : BreakerSystem) : Prop where
  failures : system.breaker.failures = system.log.failures
  closed : system.breaker.state = .closed → system.log.failures < failureThreshold
  opened : system.breaker.state = .opened → system.breaker.lastFailure = system.log.lastFailure
  counting : system.breaker.state ≠ .halfOpen → system.breaker.successCount = 0
  successCount : system.breaker.successCount < successThreshold
  probes : system.breaker.state = .halfOpen → system.log.probes ≤ system.breaker.successCount
  admissions : ∀ waited ∈ system.log.admissions, resetTimeout ≤ waited

theorem newBreaker_counted (now : Nat) : Counted (newBreaker now) where
  failures := rfl
  closed _ := by simp [newBreaker, failureThreshold]
  opened isOpen := by cases isOpen
  counting _ := rfl
  successCount := by simp [newBreaker, successThreshold]
  probes isHalfOpen := by cases isHalfOpen
  admissions := by simp [newBreaker]

theorem recordFailure_cases (now : Nat) (breaker : CircuitBreaker) :
    ∃ state, recordFailure now breaker = ⟨state, breaker.failures + 1, now, 0⟩ ∧
      state ≠ .halfOpen ∧ (state = .closed → breaker.failures + 1 < failureThreshold) := by
  cases isState : breaker.state with
  | closed =>
    by_cases enough : failureThreshold ≤ breaker.failures + 1
    · exact ⟨.opened, by simp [recordFailure, isState, enough], by simp, by simp⟩
    · exact ⟨.closed, by simp [recordFailure, isState, enough], by simp, fun _ => by omega⟩
  | opened | halfOpen => exact ⟨.opened, by simp [recordFailure, isState], by simp, by simp⟩

theorem recordSuccess_of_halfOpen {breaker : CircuitBreaker}
    (halfOpen : breaker.state = .halfOpen) :
    recordSuccess breaker =
      if successThreshold ≤ breaker.successCount + 1 then ⟨.closed, 0, breaker.lastFailure, 0⟩
      else ⟨.halfOpen, 0, breaker.lastFailure, breaker.successCount + 1⟩ := by
  simp only [recordSuccess, halfOpen]

theorem recordSuccess_of_other {breaker : CircuitBreaker} (other : breaker.state ≠ .halfOpen) :
    recordSuccess breaker = { breaker with failures := 0 } := by
  simp only [recordSuccess]

section Effects

variable {touches : Bool} {system : BreakerSystem}

variable (touches) in
theorem start_effect (counted : Counted system) (id : Nat) (method : Method) :
    ((breakerStep touches system (.start id method)).breaker = system.breaker ∧
        (breakerStep touches system (.start id method)).log = system.log) ∨
      (system.log.lastFailure + resetTimeout ≤ system.now ∧
        (breakerStep touches system (.start id method)).breaker =
          { system.breaker with state := .halfOpen } ∧
        (breakerStep touches system (.start id method)).log =
          { system.log with
            recoveries := system.log.recoveries + 1, probes := 0
            admissions := (system.now - system.log.lastFailure) :: system.log.admissions }) := by
  simp only [breakerStep]
  split
  · exact .inl ⟨rfl, rfl⟩
  · cases isState : system.breaker.state with
    | closed | halfOpen => simp [canExecute, isState, Log.admitted]
    | opened =>
      have last := counted.opened isState
      by_cases waited : system.breaker.lastFailure + resetTimeout ≤ system.now
      · right
        simp only [canExecute, isState, if_pos waited, Log.admitted]
        exact ⟨by omega, rfl, rfl⟩
      · simp [canExecute, isState, waited]

theorem start_counted (counted : Counted system) (id : Nat) (method : Method) :
    Counted (breakerStep touches system (.start id method)) := by
  generalize isNext : breakerStep touches system (.start id method) = next
  have effect := start_effect touches counted id method
  rw [isNext] at effect
  obtain ⟨now, breaker, operations, log⟩ := next
  rcases effect with ⟨sameBreaker, sameLog⟩ | ⟨waited, isBreaker, isLog⟩
  · simp only at sameBreaker sameLog
    subst sameBreaker sameLog
    exact { counted with }
  · simp only at isBreaker isLog
    subst isBreaker isLog
    refine ⟨counted.failures, by simp, by simp, by simp, counted.successCount, by simp, ?_⟩
    intro other member
    rcases List.mem_cons.mp member with isNow | earlier
    · omega
    · exact counted.admissions other earlier

theorem failure_counted (counted : Counted system) (id : Nat) :
    Counted { system.drop id with
      breaker := recordFailure system.now system.breaker
      log := system.log.failed system.now } := by
  obtain ⟨state, isFailed, notHalfOpen, closed⟩ := recordFailure_cases system.now system.breaker
  have failures := counted.failures
  rw [isFailed]
  refine ⟨by simp [Log.failed, failures], ?_, fun _ => rfl, fun _ => rfl, ?_, ?_,
    counted.admissions⟩
  · intro isClosed
    have bound := closed isClosed
    simp only [Log.failed]
    omega
  · simp [successThreshold]
  · exact fun isHalfOpen => absurd isHalfOpen notHalfOpen

theorem success_counted (counted : Counted system) (id : Nat) (operation : Operation) :
    Counted { system.drop id with
      breaker := recordSuccess system.breaker
      log := system.log.succeeded system.breaker.state (recordSuccess system.breaker).state
        operation } := by
  have positive : 0 < failureThreshold := by simp [failureThreshold]
  by_cases halfOpen : system.breaker.state = .halfOpen
  · have ahead := counted.probes halfOpen
    rw [recordSuccess_of_halfOpen halfOpen]
    by_cases enough : successThreshold ≤ system.breaker.successCount + 1
    · rw [if_pos enough]
      exact ⟨rfl, fun _ => positive, by simp, fun _ => rfl, by simp [successThreshold], by simp,
        counted.admissions⟩
    · rw [if_neg enough]
      refine ⟨rfl, by simp, by simp, by simp, ?_, ?_, counted.admissions⟩
      · simp only
        omega
      · intro _
        simp only [Log.succeeded]
        split <;> omega
  · rw [recordSuccess_of_other halfOpen]
    exact ⟨rfl, fun _ => positive, counted.opened, counted.counting, counted.successCount,
      fun isHalfOpen => absurd isHalfOpen halfOpen, counted.admissions⟩

theorem succeeded_closings (counted : Counted system) (operation : Operation) :
    (∀ probes ∈ (system.log.succeeded system.breaker.state
        (recordSuccess system.breaker).state operation).closings, successThreshold ≤ probes) ↔
      (∀ probes ∈ system.log.closings, successThreshold ≤ probes) ∧
        (system.breaker.state = .halfOpen →
          successThreshold ≤ system.breaker.successCount + 1 →
            system.log.probes = system.breaker.successCount ∧
              operation.recovery = system.log.recoveries) := by
  by_cases halfOpen : system.breaker.state = .halfOpen
  · have ahead := counted.probes halfOpen
    have bound := counted.successCount
    rw [recordSuccess_of_halfOpen halfOpen]
    by_cases enough : successThreshold ≤ system.breaker.successCount + 1
    · rw [if_pos enough]
      simp only [Log.succeeded, Log.isProbe, halfOpen, beq_self_eq_true, Bool.true_and,
        beq_iff_eq, ne_eq, reduceCtorEq, not_false_eq_true, and_self, if_true,
        List.forall_mem_cons, enough, true_implies, @and_comm (successThreshold ≤ _)]
      refine and_congr_right fun _ => ?_
      split
      · rename_i isProbe
        constructor
        · intro _
          exact ⟨by omega, isProbe⟩
        · intro _
          omega
      · rename_i notProbe
        constructor
        · intro _
          omega
        · intro probes
          exact absurd probes.2 notProbe
    · rw [if_neg enough]
      simp [Log.succeeded, enough]
  · rw [recordSuccess_of_other halfOpen]
    simp [Log.succeeded, halfOpen]

end Effects

theorem breakerStep_counted (touches : Bool) (system : BreakerSystem) (event : BreakerEvent)
    (counted : Counted system) : Counted (breakerStep touches system event) := by
  cases event with
  | wait milliseconds => exact { counted with }
  | start id method => exact start_counted counted id method
  | complete id completion =>
    simp only [breakerStep]
    split
    · exact counted
    · rename_i operation _
      split
      · exact { counted with }
      · exact success_counted counted id operation
      · exact failure_counted counted id

theorem protocol_iff {system : BreakerSystem} (counted : Counted system) :
    Protocol system ↔ ∀ probes ∈ system.log.closings, successThreshold ≤ probes :=
  ⟨Protocol.closings, fun closings => ⟨counted.closed, counted.admissions, closings⟩⟩

theorem breakerStep_protocol_iff (touches : Bool) (system : BreakerSystem) (event : BreakerEvent)
    (counted : Counted system) (protocol : Protocol system) :
    Protocol (breakerStep touches system event) ↔ ClosesByProbes system event := by
  have closings := protocol.closings
  rw [protocol_iff (breakerStep_counted touches system event counted)]
  cases event with
  | wait milliseconds => exact iff_of_true closings trivial
  | start id method =>
    have same : (breakerStep touches system (.start id method)).log.closings =
        system.log.closings := by
      rcases start_effect touches counted id method with ⟨_, isLog⟩ | ⟨_, _, isLog⟩
      · rw [isLog]
      · rw [isLog]
    rw [same]
    exact iff_of_true closings trivial
  | complete id completion =>
    cases isOperation : system.operations id with
    | none =>
      simp only [breakerStep, isOperation]
      refine iff_of_true closings ?_
      cases completion <;> simp [ClosesByProbes, isOperation]
    | some operation =>
      cases completion with
      | succeeds =>
        simp only [breakerStep, isOperation, Completion.outcome, ClosesByProbes,
          Option.some.injEq, forall_eq']
        rw [succeeded_closings counted operation]
        exact ⟨fun both => both.2, fun probes => ⟨closings, probes⟩⟩
      | fails =>
        simp only [breakerStep, isOperation, Completion.outcome]
        exact iff_of_true closings trivial
      | throws =>
        simp only [breakerStep, isOperation, Completion.outcome]
        refine iff_of_true ?_ trivial
        split
        · exact closings
        · rename_i impossible
          split at impossible <;> cases impossible
        · exact closings

/-- In every run of the breaker the protocol is kept, closing included, exactly where every
success that closes the breaker, and each that it counted before, is that of an operation
started since the breaker became half-open. -/
theorem breaker_protocol_iff (touches : Bool) (now : Nat) (events : List BreakerEvent) :
    AlwaysFrom (breakerStep touches) Protocol (newBreaker now) events ↔
      AllowedFrom (breakerStep touches) ClosesByProbes (newBreaker now) events := by
  have start := newBreaker_counted now
  refine Runs.always_iff_allowed (breakerStep touches) (breakerStep_counted touches)
    (breakerStep_protocol_iff touches) start ?_
  rw [protocol_iff start]
  simp [newBreaker]

def lateSuccesses : List BreakerEvent :=
  [.start 0 .get, .start 1 .get, .start 2 .set, .start 3 .set, .start 4 .touch,
    .start 5 .get, .start 6 .get, .start 7 .destroy,
    .complete 0 .fails, .complete 1 .fails, .complete 2 .fails, .complete 3 .fails,
    .complete 4 .fails, .wait 30000, .start 8 .get,
    .complete 5 .succeeds, .complete 6 .succeeds, .complete 7 .succeeds]

theorem late_successes_close :
    let final := Runs.run (breakerStep true) (newBreaker 0) lateSuccesses
    final.breaker.state = .closed ∧ final.log.closings = [0] ∧ ¬Protocol final := by
  have closings : (Runs.run (breakerStep true) (newBreaker 0) lateSuccesses).log.closings =
      [0] := by decide
  refine ⟨by decide, closings, ?_⟩
  intro protocol
  have enough := protocol.closings 0 (by rw [closings]; exact List.mem_cons_self)
  simp [successThreshold] at enough

end ParakoId.SessionStore
