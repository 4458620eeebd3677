import Mathlib.Data.List.Infix

/-!
Runs of a deterministic event machine. A run is the list of events it takes;
a condition may look at the state before each event.
-/

namespace Runs

variable {State Event : Type*} (step : State → Event → State)

def run (start : State) (events : List Event) : State := events.foldl step start

@[simp] theorem run_nil (start : State) : run step start [] = start := rfl

@[simp] theorem run_cons (start : State) (event : Event) (rest : List Event) :
    run step start (event :: rest) = run step (step start event) rest := rfl

/-- Every event of the run meets `allowed` in the state before it. -/
def AllowedFrom (allowed : State → Event → Prop) : State → List Event → Prop
  | _, [] => True
  | state, event :: rest => allowed state event ∧ AllowedFrom allowed (step state event) rest

/-- `holds` is true at the start of the run and after each of its events. -/
def AlwaysFrom (holds : State → Prop) : State → List Event → Prop
  | state, [] => holds state
  | state, event :: rest => holds state ∧ AlwaysFrom holds (step state event) rest

variable {allowed : State → Event → Prop} {holds : State → Prop} {events : List Event}

theorem allowed_of_forall (all : ∀ state event, allowed state event) (start : State)
    (events : List Event) : AllowedFrom step allowed start events := by
  induction events generalizing start with
  | nil => trivial
  | cons event rest ih => exact ⟨all start event, ih (step start event)⟩

variable {step} in
theorem AllowedFrom.append {start : State} {first second : List Event}
    (isFirst : AllowedFrom step allowed start first)
    (isSecond : AllowedFrom step allowed (run step start first) second) :
    AllowedFrom step allowed start (first ++ second) := by
  induction first generalizing start with
  | nil => exact isSecond
  | cons event rest ih => exact ⟨isFirst.1, ih isFirst.2 isSecond⟩

theorem always_iff_initialRuns (holds : State → Prop) (start : State) (events : List Event) :
    AlwaysFrom step holds start events ↔
      ∀ done, done <+: events → holds (run step start done) := by
  induction events generalizing start with
  | nil => simp [AlwaysFrom]
  | cons event rest ih =>
    simp only [AlwaysFrom, ih]
    constructor
    · rintro ⟨first, later⟩ done isPrefix
      cases done with
      | nil => exact first
      | cons head tail =>
        obtain ⟨rfl, tailPrefix⟩ := List.cons_prefix_cons.mp isPrefix
        exact later tail tailPrefix
    · intro all
      refine ⟨all [] List.nil_prefix, ?_⟩
      intro done isPrefix
      exact all (event :: done) (List.cons_prefix_cons.mpr ⟨rfl, isPrefix⟩)

theorem AlwaysFrom.start {start : State} (always : AlwaysFrom step holds start events) :
    holds start := by
  cases events with
  | nil => exact always
  | cons event rest => exact always.1

theorem AlwaysFrom.final {start : State} (always : AlwaysFrom step holds start events) :
    holds (run step start events) :=
  (always_iff_initialRuns step holds start events).mp always events List.prefix_rfl

theorem AlwaysFrom.mono {weaker : State → Prop} {start : State}
    (implies : ∀ state, holds state → weaker state) (always : AlwaysFrom step holds start events) :
    AlwaysFrom step weaker start events := by
  rw [always_iff_initialRuns] at always ⊢
  exact fun done isPrefix => implies _ (always done isPrefix)

theorem always_of_allowed
    (keeps : ∀ state event, holds state → allowed state event → holds (step state event))
    {start : State} (initial : holds start) (allowedRun : AllowedFrom step allowed start events) :
    AlwaysFrom step holds start events := by
  induction events generalizing start with
  | nil => exact initial
  | cons event rest ih =>
    exact ⟨initial, ih (keeps start event initial allowedRun.1) allowedRun.2⟩

theorem invariant (keeps : ∀ state event, holds state → holds (step state event)) {start : State}
    (initial : holds start) (events : List Event) : holds (run step start events) := by
  induction events generalizing start with
  | nil => exact initial
  | cons event rest ih => exact ih (keeps start event initial)

/-- In a run whose events all meet `assumed`: where, inside an invariant that allowed steps keep,
the condition on a step is exact for one step, it is exact for the whole run. -/
theorem always_iff_allowed_where {inside : State → Prop} {assumed : State → Event → Prop}
    (stays : ∀ state event, inside state → holds state → assumed state event →
      allowed state event → inside (step state event))
    (exact_step : ∀ state event, inside state → holds state → assumed state event →
      (holds (step state event) ↔ allowed state event)) {start : State} (initial : inside start)
    (holdsStart : holds start) (assumedRun : AllowedFrom step assumed start events) :
    AlwaysFrom step holds start events ↔ AllowedFrom step allowed start events := by
  induction events generalizing start with
  | nil => simp [AlwaysFrom, AllowedFrom, holdsStart]
  | cons event rest ih =>
    simp only [AlwaysFrom, AllowedFrom, holdsStart, true_and]
    have next := exact_step start event initial holdsStart assumedRun.1
    have insideNext := stays start event initial holdsStart assumedRun.1
    constructor
    · intro always
      have holdsNext := always.start
      have allowedNow := next.mp holdsNext
      exact ⟨allowedNow, (ih (insideNext allowedNow) holdsNext assumedRun.2).mp always⟩
    · rintro ⟨allowedNow, allowedRest⟩
      exact (ih (insideNext allowedNow) (next.mpr allowedNow) assumedRun.2).mpr allowedRest

theorem always_iff_allowed_within {inside : State → Prop}
    (stays : ∀ state event, inside state → holds state → allowed state event →
      inside (step state event))
    (exact_step : ∀ state event, inside state → holds state →
      (holds (step state event) ↔ allowed state event)) {start : State} (initial : inside start)
    (holdsStart : holds start) :
    AlwaysFrom step holds start events ↔ AllowedFrom step allowed start events := by
  have assumed : AllowedFrom step (fun _ _ => True) start events :=
    allowed_of_forall step (fun _ _ => trivial) start events
  exact always_iff_allowed_where step
    (fun state event isInside isHeld _ => stays state event isInside isHeld)
    (fun state event isInside isHeld _ => exact_step state event isInside isHeld)
    initial holdsStart assumed

theorem always_iff_allowed {inside : State → Prop}
    (stays : ∀ state event, inside state → inside (step state event))
    (exact_step : ∀ state event, inside state → holds state →
      (holds (step state event) ↔ allowed state event)) {start : State} (initial : inside start)
    (holdsStart : holds start) :
    AlwaysFrom step holds start events ↔ AllowedFrom step allowed start events :=
  always_iff_allowed_within step (fun state event isInside _ _ => stays state event isInside)
    exact_step initial holdsStart

theorem allowed_congr {inside : State → Prop} {first second : State → Event → Prop}
    (stays : ∀ state event, inside state → inside (step state event))
    (agree : ∀ state event, inside state → (first state event ↔ second state event))
    {start : State} (initial : inside start) :
    AllowedFrom step first start events ↔ AllowedFrom step second start events := by
  induction events generalizing start with
  | nil => exact Iff.rfl
  | cons event rest ih =>
    simp only [AllowedFrom, agree start event initial, ih (stays start event initial)]

theorem always_iff_start
    (exact_step : ∀ state event, holds state → (holds (step state event) ↔ allowed state event))
    (start : State) (events : List Event) :
    AlwaysFrom step holds start events ↔ holds start ∧ AllowedFrom step allowed start events := by
  have exactly : ∀ isHeld : holds start,
      AlwaysFrom step holds start events ↔ AllowedFrom step allowed start events :=
    always_iff_allowed_within step (fun _ _ _ _ _ => trivial)
      (fun state event (_ : True) => exact_step state event) trivial
  constructor
  · intro always
    exact ⟨always.start, (exactly always.start).mp always⟩
  · rintro ⟨isHeld, allowedRun⟩
    exact (exactly isHeld).mpr allowedRun

end Runs
