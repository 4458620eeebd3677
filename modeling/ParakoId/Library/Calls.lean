import Mathlib.Tactic.Basic

/-!
Calls that read and write a store and may throw. What was written before an error stays.
-/

namespace Calls

abbrev Call (Error Store : Type) := ExceptT Error (StateM Store)

variable {Error Store Value Result : Type}

/-- What a call returns or throws, and the store it leaves. -/
def outcome (call : Call Error Store Value) (start : Store) : Except Error Value × Store :=
  StateT.run (ExceptT.run call) start

@[simp] theorem outcome_pure (value : Value) (start : Store) :
    outcome (pure value : Call Error Store Value) start = (.ok value, start) := rfl

@[simp] theorem outcome_throw (error : Error) (start : Store) :
    outcome (throw error : Call Error Store Value) start = (.error error, start) := rfl

@[simp] theorem outcome_ite (condition : Prop) [Decidable condition]
    (first second : Call Error Store Value) (start : Store) :
    outcome (if condition then first else second) start =
      if condition then outcome first start else outcome second start :=
  apply_ite (outcome · start) condition first second

theorem outcome_bind (call : Call Error Store Value) (next : Value → Call Error Store Result)
    (start : Store) :
    outcome (call >>= next) start =
      match outcome call start with
      | (.ok value, middle) => outcome (next value) middle
      | (.error error, middle) => (.error error, middle) := by
  change (match outcome call start with
    | (result, middle) => outcome (ExceptT.mk (ExceptT.bindCont next result)) middle) = _
  rcases outcome call start with ⟨_ | _, middle⟩ <;> rfl

theorem outcome_map (call : Call Error Store Value) (change : Value → Result) (start : Store) :
    outcome (change <$> call) start =
      match outcome call start with
      | (.ok value, middle) => (.ok (change value), middle)
      | (.error error, middle) => (.error error, middle) := by
  rw [← bind_pure_comp, outcome_bind]
  rfl

theorem outcome_tryCatch (call : Call Error Store Value) (handle : Error → Call Error Store Value)
    (start : Store) :
    outcome (tryCatch call handle) start =
      match outcome call start with
      | (.ok value, middle) => (.ok value, middle)
      | (.error error, middle) => outcome (handle error) middle := by
  change (match outcome call start with
    | (result, middle) => outcome (ExceptT.mk (match result with
        | .ok value => pure (.ok value)
        | .error error => ExceptT.run (handle error))) middle) = _
  rcases outcome call start with ⟨_ | _, middle⟩ <;> rfl

/-- The call throws, and has written nothing. -/
def Refused (call : Call Error Store Value) (start : Store) : Prop :=
  ∃ error, outcome call start = (.error error, start)

theorem refused_throw (error : Error) (start : Store) :
    Refused (throw error : Call Error Store Value) start := ⟨error, rfl⟩

theorem Refused.bind {call : Call Error Store Value} {start : Store} (refused : Refused call start)
    (next : Value → Call Error Store Result) : Refused (call >>= next) start := by
  obtain ⟨error, isError⟩ := refused
  exact ⟨error, by simp [outcome_bind, isError]⟩

def throwIf (condition : Prop) [Decidable condition] (error : Error) : Call Error Store Unit :=
  if condition then throw error else pure ()

@[simp] theorem outcome_throwIf (condition : Prop) [Decidable condition] (error : Error)
    (start : Store) :
    outcome (throwIf condition error) start =
      if condition then (.error error, start) else (.ok (), start) := by
  simp [throwIf]

theorem refused_throwIf {condition : Prop} [Decidable condition] {error : Error} {start : Store}
    {next : Unit → Call Error Store Result} (rest : ¬condition → Refused (next ()) start) :
    Refused (throwIf condition error >>= next) start := by
  by_cases isMet : condition
  · exact Refused.bind ⟨error, by simp [isMet]⟩ next
  · obtain ⟨later, isLater⟩ := rest isMet
    exact ⟨later, by simp [outcome_bind, isMet, isLater]⟩

/-- A request which the store answers, or refuses with an error. -/
def request (refusal : Option Error) (answer : Store → Except Error (Value × Store)) :
    Call Error Store Value :=
  ExceptT.mk fun start =>
    match refusal with
    | some error => (.error error, start)
    | none =>
      match answer start with
      | .ok (value, finish) => (.ok value, finish)
      | .error error => (.error error, start)

@[simp] theorem outcome_request_refused (error : Error)
    (answer : Store → Except Error (Value × Store)) (start : Store) :
    outcome (request (some error) answer) start = (.error error, start) := rfl

theorem outcome_request (answer : Store → Except Error (Value × Store)) (start : Store) :
    outcome (request none answer) start =
      match answer start with
      | .ok (value, finish) => (.ok value, finish)
      | .error error => (.error error, start) := rfl

theorem refused_request {refusal : Option Error}
    {answer : Store → Except Error (Value × Store)} {start : Store}
    (refused : refusal = none → ∃ error, answer start = .error error) :
    Refused (request refusal answer) start := by
  cases refusal with
  | some error => exact ⟨error, rfl⟩
  | none =>
    obtain ⟨error, isError⟩ := refused rfl
    exact ⟨error, by simp [outcome_request, isError]⟩

/-! The store that a call leaves, whether it returns or throws. -/

def left (call : Call Error Store Value) (start : Store) : Store := (outcome call start).2

@[simp] theorem left_pure (value : Value) (start : Store) :
    left (pure value : Call Error Store Value) start = start := rfl

@[simp] theorem left_throw (error : Error) (start : Store) :
    left (throw error : Call Error Store Value) start = start := rfl

@[simp] theorem left_map (call : Call Error Store Value) (change : Value → Result)
    (start : Store) : left (change <$> call) start = left call start := by
  rw [left, outcome_map, left]
  rcases outcome call start with ⟨_ | _, middle⟩ <;> rfl

theorem left_bind (call : Call Error Store Value) (next : Value → Call Error Store Result)
    (start : Store) :
    left (call >>= next) start =
      match outcome call start with
      | (.ok value, middle) => left (next value) middle
      | (.error _, middle) => middle := by
  rw [left, outcome_bind]
  rcases outcome call start with ⟨_ | _, middle⟩ <;> rfl

theorem left_tryCatch (call : Call Error Store Value)
    (handle : Error → Call Error Store Value) (start : Store) :
    left (tryCatch call handle) start =
      match outcome call start with
      | (.ok _, middle) => middle
      | (.error error, middle) => left (handle error) middle := by
  rw [left, outcome_tryCatch]
  rcases outcome call start with ⟨_ | _, middle⟩ <;> rfl

theorem left_tryCatch_pure (call : Call Error Store Value) (answer : Error → Value)
    (start : Store) :
    left (tryCatch call fun error => pure (answer error)) start = left call start := by
  rw [left_tryCatch, left]
  rcases outcome call start with ⟨_ | _, middle⟩ <;> rfl

def Keeps (invariant : Store → Prop) (call : Call Error Store Value) : Prop :=
  ∀ start, invariant start → invariant (left call start)

section Keeps

variable {invariant : Store → Prop}

theorem keeps_pure (value : Value) : Keeps invariant (pure value : Call Error Store Value) :=
  fun _ holds => holds

theorem keeps_throw (error : Error) : Keeps invariant (throw error : Call Error Store Value) :=
  fun _ holds => holds

variable {call : Call Error Store Value} {next : Value → Call Error Store Result}

theorem left_bind_keeps {start : Store} (first : invariant (left call start))
    (second : ∀ value middle, outcome call start = (.ok value, middle) →
      invariant (left (next value) middle)) : invariant (left (call >>= next) start) := by
  rw [left] at first
  rw [left_bind]
  generalize outcome call start = ended at first second ⊢
  rcases ended with ⟨error | value, store⟩
  · exact first
  · exact second value store rfl

theorem left_bind_then {start : Store} (first : invariant (left call start))
    (second : ∀ value, Keeps invariant (next value)) : invariant (left (call >>= next) start) := by
  refine left_bind_keeps first fun value middle isOutcome => second value middle ?_
  rw [left, isOutcome] at first
  exact first

theorem left_tryCatch_keeps {handle : Error → Call Error Store Value} {start : Store}
    (first : invariant (left call start)) (second : ∀ error, Keeps invariant (handle error)) :
    invariant (left (tryCatch call handle) start) := by
  rw [left] at first
  rw [left_tryCatch]
  generalize outcome call start = ended at first ⊢
  rcases ended with ⟨error | value, store⟩
  · exact second error store first
  · exact first

theorem Keeps.bind (first : Keeps invariant call)
    (second : ∀ value, Keeps invariant (next value)) : Keeps invariant (call >>= next) :=
  fun start holds => left_bind_then (first start holds) second

theorem Keeps.tryCatch {handle : Error → Call Error Store Value} (first : Keeps invariant call)
    (second : ∀ error, Keeps invariant (handle error)) :
    Keeps invariant (tryCatch call handle) :=
  fun start holds => left_tryCatch_keeps (first start holds) second

theorem Keeps.ite {condition : Prop} [Decidable condition] {first second : Call Error Store Value}
    (onTrue : condition → Keeps invariant first) (onFalse : ¬condition → Keeps invariant second) :
    Keeps invariant (if condition then first else second) := by
  split
  · exact onTrue ‹_›
  · exact onFalse ‹_›

theorem Keeps.after {stronger : Store → Prop}
    (weaken : ∀ store, stronger store → invariant store)
    (first : ∀ start, invariant start → stronger (left call start))
    (second : ∀ value, Keeps stronger (next value)) : Keeps invariant (call >>= next) := by
  intro start holds
  have middle := first start holds
  rw [left] at middle
  rw [left_bind]
  generalize outcome call start = ended at middle ⊢
  rcases ended with ⟨error | value, store⟩
  · exact weaken store middle
  · exact weaken _ (second value store middle)

end Keeps

end Calls
