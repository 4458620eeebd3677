import ParakoId.Library.Runs

/-!
Machines that answer every input, and when two of them give the same answers: a relation
between their states that answers and steps keep, as long as the inputs are allowed.
-/

namespace Simulations

variable {State Model Input Output : Type*}

def outputs (step : State → Input → Output × State) : State → List Input → List Output
  | _, [] => []
  | state, input :: rest => (step state input).1 :: outputs step (step state input).2 rest

def together (step : State → Input → Output × State) (model : Model → Input → Output × Model)
    (states : State × Model) (input : Input) : State × Model :=
  ((step states.1 input).2, (model states.2 input).2)

structure Simulates (step : State → Input → Output × State)
    (model : Model → Input → Output × Model) (related : State → Model → Prop)
    (allowed : State × Model → Input → Prop) : Prop where
  output : ∀ state spec input, related state spec → allowed (state, spec) input →
    (step state input).1 = (model spec input).1
  related : ∀ state spec input, related state spec → allowed (state, spec) input →
    related (step state input).2 (model spec input).2

theorem Simulates.outputs_eq {step : State → Input → Output × State}
    {model : Model → Input → Output × Model} {related : State → Model → Prop}
    {allowed : State × Model → Input → Prop} (simulates : Simulates step model related allowed)
    {state : State} {spec : Model} (start : related state spec) {inputs : List Input}
    (allAllowed : Runs.AllowedFrom (together step model) allowed (state, spec) inputs) :
    outputs step state inputs = outputs model spec inputs := by
  induction inputs generalizing state spec with
  | nil => rfl
  | cons input rest ih =>
    obtain ⟨isAllowed, restAllowed⟩ := allAllowed
    have now := simulates.output state spec input start isAllowed
    have later := ih (simulates.related state spec input start isAllowed) restAllowed
    simp only [outputs, now, later]

end Simulations
