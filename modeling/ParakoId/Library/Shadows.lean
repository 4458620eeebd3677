import Mathlib.Logic.Basic

/-!
A store that several actors change, one effect at a time. The shadow of an actor is what the
store would be if that actor had done nothing since it entered.
-/

namespace Shadows

structure Shadowed (Actor Store : Type*) where
  store : Store
  shadow : Actor → Store

variable {Actor Store : Type*} [DecidableEq Actor]

def enter (actor : Actor) (state : Shadowed Actor Store) : Shadowed Actor Store :=
  { state with shadow := fun other => if other = actor then state.store else state.shadow other }

def act (actor : Option Actor) (effect : Store → Store) (state : Shadowed Actor Store) :
    Shadowed Actor Store where
  store := effect state.store
  shadow other := if actor = some other then state.shadow other else effect (state.shadow other)

theorem shadow_act_self (actor : Actor) (effect : Store → Store) (state : Shadowed Actor Store) :
    (act (some actor) effect state).shadow actor = state.shadow actor := by
  simp [act]

def Traceless (state : Shadowed Actor Store) (actor : Actor) : Prop :=
  state.shadow actor = state.store

theorem Traceless.enter_self (state : Shadowed Actor Store) (actor : Actor) :
    Traceless (enter actor state) actor := by
  simp [Traceless, enter]

theorem Traceless.enter_other {state : Shadowed Actor Store} {actor : Actor}
    (traceless : Traceless state actor) {other : Actor} (different : actor ≠ other) :
    Traceless (enter other state) actor := by
  simpa [Traceless, enter, different] using traceless

theorem Traceless.act_other {state : Shadowed Actor Store} {actor : Actor}
    (traceless : Traceless state actor) {other : Option Actor} (different : other ≠ some actor)
    (effect : Store → Store) : Traceless (act other effect state) actor := by
  simp only [Traceless, act, if_neg different]
  rw [traceless]

end Shadows
