import ParakoId.Library.Runs

/-!
The lock of the main configuration: a promise that waiters await in a loop. The calls of
`saveMainConfiguration` take turns at their awaits.
-/

namespace ParakoId.Settings

open Function (update)

/-- The awaits of `saveMainConfiguration` that come after the lock is taken. -/
inductive SaveAwait
  | acquireConfigLock
  | findActive
  | findHistory
  | save
  | cleanupOldVersions

/-- How the code up to the next await ends; `existing` tells whether `findActive` had a row. -/
inductive SaveOutcome
  | done (existing : Bool)
  | threw

inductive LockedSave
  | notCalled
  -- a call takes the lock once at most, so that the promise it creates goes by its number
  | waiting (promise : Nat)
  | inside (await : SaveAwait)
  | returned
  | rejected

structure ConfigLock where
  configUpdateLock : Option Nat
  resolved : Nat → Bool
  calls : Nat → LockedSave

namespace ConfigLock

def initial : ConfigLock := ⟨none, fun _ => false, fun _ => .notCalled⟩

def goesTo (state : ConfigLock) (id : Nat) (call : LockedSave) : ConfigLock :=
  { state with calls := update state.calls id call }

def acquireConfigLock (state : ConfigLock) (id : Nat) : ConfigLock :=
  match state.configUpdateLock with
  | some promise => state.goesTo id (.waiting promise)
  | none => { state.goesTo id (.inside .acquireConfigLock) with configUpdateLock := some id }

def releaseLock (state : ConfigLock) (id : Nat) : ConfigLock :=
  { state with resolved := update state.resolved id true, configUpdateLock := none }

def saveMainConfiguration (await : SaveAwait) : SaveOutcome → LockedSave
  | .threw => .rejected
  | .done existing =>
    match await with
    | .acquireConfigLock => .inside .findActive
    | .findActive => .inside (if existing then .findHistory else .save)
    | .findHistory => .inside .save
    | .save => .inside .cleanupOldVersions
    | .cleanupOldVersions => .returned

def step (state : ConfigLock) : Nat × SaveOutcome → ConfigLock
  | (id, outcome) =>
    match state.calls id with
    | .notCalled => state.acquireConfigLock id
    | .waiting promise => if state.resolved promise then state.acquireConfigLock id else state
    | .inside await =>
      match saveMainConfiguration await outcome with
      | .inside next => state.goesTo id (.inside next)
      | settled => (state.releaseLock id).goesTo id settled
    | _ => state

/-- What a call knows of the lock. -/
def Knows (state : ConfigLock) (id : Nat) : LockedSave → Prop
  | .waiting promise => state.configUpdateLock = some promise ∨ state.resolved promise = true
  | .inside _ => state.configUpdateLock = some id
  | _ => True

def Sound (state : ConfigLock) : Prop := ∀ id, state.Knows id (state.calls id)

theorem saveMainConfiguration_cases (await : SaveAwait) (outcome : SaveOutcome) :
    (∃ next, saveMainConfiguration await outcome = .inside next) ∨
      saveMainConfiguration await outcome = .returned ∨
      saveMainConfiguration await outcome = .rejected := by
  cases outcome with
  | threw => exact Or.inr (Or.inr rfl)
  | done existing => cases await <;> simp [saveMainConfiguration]

theorem Sound.acquireConfigLock {state : ConfigLock} (sound : state.Sound) (id : Nat) :
    (state.acquireConfigLock id).Sound := by
  intro other
  have known := sound other
  simp only [ConfigLock.acquireConfigLock, goesTo]
  by_cases isSame : other = id
  · subst isSame
    cases state.configUpdateLock <;> simp [Knows]
  · cases isLocked : state.configUpdateLock <;> cases isCall : state.calls other <;>
      simp_all [Knows, Function.update_of_ne]

theorem Sound.leaves {state : ConfigLock} (sound : state.Sound) {id : Nat} {await : SaveAwait}
    (isInside : state.calls id = .inside await) {settled : LockedSave}
    (isSettled : settled = .returned ∨ settled = .rejected) :
    ((state.releaseLock id).goesTo id settled).Sound := by
  intro other
  have known := sound other
  have held := sound id
  simp only [releaseLock, goesTo]
  by_cases isSame : other = id
  · subst isSame
    rcases isSettled with rfl | rfl <;> simp [Knows]
  · rw [Function.update_of_ne isSame]
    rw [isInside] at held
    cases isCall : state.calls other with
    | waiting promise =>
      rw [isCall] at known
      right
      by_cases isPromise : promise = id
      · subst isPromise
        simp
      · simp only [Knows] at known held
        rw [held] at known
        have isResolved := known.resolve_left (by simpa using Ne.symm isPromise)
        simpa [Function.update_of_ne isPromise] using isResolved
    | inside other_await =>
      rw [isCall] at known
      simp only [Knows] at known held
      exact absurd (Option.some.inj (known.symm.trans held)) isSame
    | notCalled | returned | rejected => trivial

theorem Sound.step {state : ConfigLock} (sound : state.Sound) (turn : Nat × SaveOutcome) :
    (state.step turn).Sound := by
  obtain ⟨id, outcome⟩ := turn
  cases isCall : state.calls id with
  | notCalled => simpa [ConfigLock.step, isCall] using sound.acquireConfigLock id
  | waiting promise =>
    by_cases isResolved : state.resolved promise = true
    · simpa [ConfigLock.step, isCall, isResolved] using sound.acquireConfigLock id
    · simpa [ConfigLock.step, isCall, isResolved] using sound
  | inside await =>
    rcases saveMainConfiguration_cases await outcome with ⟨next, isNext⟩ | isSettled
    · simp only [ConfigLock.step, isCall, isNext]
      intro other
      by_cases isSame : other = id
      · subst isSame
        have held := sound other
        rw [isCall] at held
        simpa [goesTo, Knows] using held
      · simpa [goesTo, Function.update_of_ne isSame, Knows] using sound other
    · have leaves := sound.leaves isCall isSettled
      rcases isSettled with settled | settled
      · simpa [ConfigLock.step, isCall, settled] using leaves
      · simpa [ConfigLock.step, isCall, settled] using leaves
  | returned | rejected => simpa [ConfigLock.step, isCall] using sound

theorem reached_sound (turns : List (Nat × SaveOutcome)) :
    (Runs.run step initial turns).Sound := by
  have keeps : ∀ state turn, Sound state → Sound (step state turn) :=
    fun state turn sound => sound.step turn
  have atStart : Sound initial := fun id => trivial
  exact Runs.invariant step keeps atStart turns

/-- One call is inside at most, one that throws there gives the lock back, and a waiter of a
free lock has been woken and takes it at its next turn, unless another comes first. -/
theorem configLock_excludes (turns : List (Nat × SaveOutcome)) :
    (∀ first second firstAwait secondAwait,
      (Runs.run step initial turns).calls first = .inside firstAwait →
      (Runs.run step initial turns).calls second = .inside secondAwait → first = second) ∧
    (∀ id await, (Runs.run step initial turns).calls id = .inside await →
      ((Runs.run step initial turns).step (id, .threw)).calls id = .rejected ∧
      ((Runs.run step initial turns).step (id, .threw)).configUpdateLock = none ∧
      ((Runs.run step initial turns).step (id, .threw)).resolved id = true) ∧
    ∀ id promise outcome, (Runs.run step initial turns).configUpdateLock = none →
      (Runs.run step initial turns).calls id = .waiting promise →
      (Runs.run step initial turns).resolved promise = true ∧
      ((Runs.run step initial turns).step (id, outcome)).calls id =
        .inside .acquireConfigLock := by
  have sound := reached_sound turns
  generalize Runs.run step initial turns = state at sound
  refine ⟨?_, ?_, ?_⟩
  · intro first second firstAwait secondAwait isFirst isSecond
    have firstHeld := sound first
    have secondHeld := sound second
    rw [isFirst] at firstHeld
    rw [isSecond] at secondHeld
    exact Option.some.inj (firstHeld.symm.trans secondHeld)
  · intro id await isInside
    simp [ConfigLock.step, isInside, saveMainConfiguration, releaseLock, goesTo]
  · intro id promise outcome isFree isWaiting
    have known := sound id
    rw [isWaiting] at known
    simp only [Knows, isFree, reduceCtorEq, false_or] at known
    refine ⟨known, ?_⟩
    simp [ConfigLock.step, isWaiting, known, ConfigLock.acquireConfigLock, isFree, goesTo]

/-- One call is inside while another waits, and throws there. -/
def thrownInside : List (Nat × SaveOutcome) :=
  [(0, .done true), (1, .done true), (0, .done true), (0, .threw)]

theorem configLock_excludes_thrownInside :
    let during := Runs.run step initial (thrownInside.take 3)
    let after := Runs.run step initial thrownInside
    during.calls 0 = .inside .findActive ∧ during.calls 1 = .waiting 0 ∧
      after.calls 0 = .rejected ∧
      (after.step (1, .done true)).calls 1 = .inside .acquireConfigLock :=
  ⟨rfl, rfl, ((configLock_excludes (thrownInside.take 3)).2.1 0 .findActive rfl).1,
    ((configLock_excludes thrownInside).2.2 1 0 (.done true) rfl rfl).2⟩

/-- The lock is that of a call inside. -/
def Held (state : ConfigLock) : Prop :=
  ∀ id, state.configUpdateLock = some id → ∃ await, state.calls id = .inside await

theorem Held.step {state : ConfigLock} (held : state.Held) (turn : Nat × SaveOutcome) :
    (state.step turn).Held := by
  intro id
  have before := held id
  obtain ⟨other, outcome⟩ := turn
  simp only [ConfigLock.step, ConfigLock.acquireConfigLock]
  repeat' split
  all_goals
    by_cases isSame : id = other <;> simp_all [goesTo, releaseLock, Function.update_of_ne]

/-- The lock is always that of a call inside, and no waiter waits for a call that is over. -/
theorem configLock_held_iff (turns : List (Nat × SaveOutcome)) :
    let state := Runs.run step initial turns
    (∀ id, state.configUpdateLock = some id ↔ ∃ await, state.calls id = .inside await) ∧
      ∀ waiter promise, state.calls waiter = .waiting promise →
        state.resolved promise = true ∨ ∃ await, state.calls promise = .inside await := by
  intro state
  have sound : Sound state := reached_sound turns
  have keeps : ∀ before turn, Held before → Held (step before turn) :=
    fun before turn held => held.step turn
  have held : Held state := Runs.invariant step keeps (fun id isHeld => by cases isHeld) turns
  refine ⟨fun id => ⟨held id, ?_⟩, ?_⟩
  · rintro ⟨await, isInside⟩
    have known := sound id
    rwa [isInside] at known
  · intro waiter promise isWaiting
    have known := sound waiter
    rw [isWaiting] at known
    exact known.symm.imp_right (held promise)

end ConfigLock

end ParakoId.Settings
