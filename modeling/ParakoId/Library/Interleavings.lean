import ParakoId.Library.Runs

/-! Calls over a store that they share. -/

namespace Interleavings

open Runs (AlwaysFrom AllowedFrom)

structure Shared (Store Call : Type*) where
  store : Store
  calls : Nat → Call

inductive Event (Input Change : Type*)
  | turn (id : Nat) (input : Input)
  | outside (change : Change)

structure Machine (Store Call Input Change : Type*) where
  turn : Store → Call → Input → Store × Call
  outside : Store → Change → Store

variable {Store Call Input Change : Type*} (machine : Machine Store Call Input Change)

def Machine.step (state : Shared Store Call) : Event Input Change → Shared Store Call
  | .turn id input =>
    let next := machine.turn state.store (state.calls id) input
    { store := next.1, calls := fun other => if other = id then next.2 else state.calls other }
  | .outside change => { state with store := machine.outside state.store change }

structure Invariant (Store Call : Type*) where
  store : Store → Prop
  call : Store → Call → Prop

structure Invariant.Holds (invariant : Invariant Store Call) (state : Shared Store Call) : Prop where
  store : invariant.store state.store
  calls : ∀ id, invariant.call state.store (state.calls id)

def Invariant.Turned (invariant : Invariant Store Call) (store : Store)
    (next : Store × Call) : Prop :=
  invariant.store next.1 ∧ invariant.call next.1 next.2 ∧
    ∀ other, invariant.call store other → invariant.call next.1 other

def OnTurns (condition : Store → Call → Input → Prop) (state : Shared Store Call) :
    Event Input Change → Prop
  | .turn id input => condition state.store (state.calls id) input
  | .outside _ => True

structure Keeps (invariant : Invariant Store Call)
    (condition : Store → Call → Input → Prop) : Prop where
  turn : ∀ store call input, invariant.store store → invariant.call store call →
    condition store call input → invariant.Turned store (machine.turn store call input)
  outside : ∀ store change, invariant.store store →
    invariant.store (machine.outside store change) ∧
      ∀ call, invariant.call store call → invariant.call (machine.outside store change) call

variable {machine} {invariant : Invariant Store Call} {condition : Store → Call → Input → Prop}

theorem Invariant.Turned.of_store {store : Store} {call : Call} (holds : invariant.store store)
    (own : invariant.call store call) : invariant.Turned store (store, call) :=
  ⟨holds, own, fun _ kept => kept⟩

theorem Keeps.step (keeps : Keeps machine invariant condition) {state : Shared Store Call}
    {event : Event Input Change} (holds : invariant.Holds state)
    (isAllowed : OnTurns condition state event) : invariant.Holds (machine.step state event) := by
  cases event with
  | turn id input =>
    obtain ⟨store, own, others⟩ :=
      keeps.turn state.store (state.calls id) input holds.store (holds.calls id) isAllowed
    constructor
    · exact store
    · intro other
      by_cases same : other = id
      · simpa [Machine.step, same] using own
      · simpa [Machine.step, same] using others _ (holds.calls other)
  | outside change =>
    obtain ⟨store, others⟩ := keeps.outside state.store change holds.store
    exact ⟨store, fun other => others _ (holds.calls other)⟩

variable {events : List (Event Input Change)}

theorem Keeps.always (keeps : Keeps machine invariant condition) {start : Shared Store Call}
    (holds : invariant.Holds start)
    (allowed : AllowedFrom machine.step (OnTurns condition) start events) :
    AlwaysFrom machine.step invariant.Holds start events :=
  Runs.always_of_allowed machine.step (fun _ _ held => keeps.step held) holds allowed

theorem Keeps.stays (keeps : Keeps machine invariant fun _ _ _ => True)
    (state : Shared Store Call) (event : Event Input Change) (holds : invariant.Holds state) :
    invariant.Holds (machine.step state event) := by
  refine keeps.step holds ?_
  cases event with
  | turn _ _ | outside _ => trivial

theorem Keeps.always_of_initial (keeps : Keeps machine invariant fun _ _ _ => True)
    {start : Shared Store Call} (holds : invariant.Holds start)
    (events : List (Event Input Change)) : AlwaysFrom machine.step invariant.Holds start events :=
  (Runs.always_iff_initialRuns machine.step invariant.Holds start events).mpr fun done _ =>
    Runs.invariant machine.step keeps.stays holds done

theorem run_calls_of_no_turn {id : Nat} (noTurn : ∀ input, .turn id input ∉ events)
    (start : Shared Store Call) :
    (Runs.run machine.step start events).calls id = start.calls id := by
  induction events generalizing start with
  | nil => rfl
  | cons event rest ih =>
    rw [Runs.run_cons, ih fun input later => noTurn input (List.mem_cons_of_mem _ later)]
    cases event with
    | turn turning input =>
      have different : id ≠ turning := by
        rintro rfl
        exact noTurn input List.mem_cons_self
      simp [Machine.step, different]
    | outside change => rfl

theorem Keeps.always_iff (keeps : Keeps machine invariant condition) {good : Store → Prop}
    (exactly : ∀ store call input, invariant.store store → invariant.call store call →
      good store → (good (machine.turn store call input).1 ↔ condition store call input))
    (stays : ∀ store change, good store → good (machine.outside store change))
    {start : Shared Store Call} (holds : invariant.Holds start) (isGood : good start.store) :
    AlwaysFrom machine.step (fun state => good state.store) start events ↔
      AllowedFrom machine.step (OnTurns condition) start events := by
  refine Runs.always_iff_allowed_within machine.step
    (fun _ _ held _ allowed => keeps.step held allowed) ?_ holds isGood
  intro state event held goodBefore
  cases event with
  | turn id input =>
    exact exactly state.store (state.calls id) input held.store (held.calls id) goodBefore
  | outside change => exact iff_of_true (stays state.store change goodBefore) trivial

end Interleavings
