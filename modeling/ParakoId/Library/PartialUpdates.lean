import Mathlib.Data.Option.Basic

/-! Partial updates of optional values. -/

namespace PartialUpdates

variable {Value Other : Type}

inductive Given (Value : Type)
  | undefined
  | null
  | value (content : Value)
  deriving DecidableEq

abbrev Entry (Value : Type) := Option (Given Value)

namespace Given

def get? : Given Value → Option Value
  | .value content => some content
  | _ => none

def map (change : Value → Other) : Given Value → Given Other
  | .undefined => .undefined
  | .null => .null
  | .value content => .value (change content)

def isNull : Given Value → Bool
  | .null => true
  | _ => false

end Given

def asked (entry : Entry Value) (stored : Option Value) : Option Value :=
  match entry with
  | none => stored
  | some given => given.get?

/-- What a store keeps that takes undefined for a property that is not there, and passes null and
the values through a setter, whose undefined it drops. -/
def setting (setter : Option Value → Option (Option Value)) (entry : Entry Value)
    (stored : Option Value) : Option Value :=
  match entry with
  | some .null => (setter none).getD stored
  | some (.value content) => (setter (some content)).getD stored
  | _ => stored

def skipping (entry : Entry Value) (stored : Option Value) : Option Value :=
  setting some entry stored

def Kept (setter : Option Value → Option (Option Value)) (entry : Entry Value)
    (stored : Option Value) : Prop :=
  match entry with
  | none => True
  | some .undefined => stored = none
  | some .null => (setter none).getD stored = none
  | some (.value content) => (setter (some content)).getD stored = some content

theorem setting_eq_asked_iff (setter : Option Value → Option (Option Value)) (entry : Entry Value)
    (stored : Option Value) :
    setting setter entry stored = asked entry stored ↔ Kept setter entry stored := by
  match entry with
  | none => simp [setting, asked, Kept]
  | some .undefined => rfl
  | some .null => rfl
  | some (.value content) => rfl

theorem skipping_eq_asked_iff (entry : Entry Value) (stored : Option Value) :
    skipping entry stored = asked entry stored ↔ (entry = some .undefined → stored = none) := by
  rw [skipping, setting_eq_asked_iff]
  match entry with
  | none => simp [Kept]
  | some .undefined => simp [Kept]
  | some .null => simp [Kept]
  | some (.value content) => simp [Kept]

end PartialUpdates
