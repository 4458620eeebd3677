import ParakoId.TenantOverrides.Stripping

/-!
The rules that `enforceConstraints` declares, each at its path, and what its checks make of
a submitted value.
-/

namespace ParakoId.TenantOverrides

open Json (Path Conversions Lookup)
open Config (getNestedValue setNestedValue)

inductive Rule
  | flag
  | minimum
  | maximum (zeroMeansUnlimited : Bool)
  | verification
  deriving DecidableEq

def floorRule : FloorType → Rule
  | .boolean => .flag
  | .numeric => .minimum

def rules : List (Path × Rule) :=
  FLOOR_CONSTRAINTS.map (fun floor => (floor.1, floorRule floor.2)) ++
  CEILING_CONSTRAINTS.map (fun field => (field, .maximum (decide (field ∈ ZERO_MEANS_UNLIMITED)))) ++
  [(uvPath, .verification)]

/-- The number a constraint compares: none for null and for what converts to NaN. -/
def numeric (conversions : Conversions) : Json → Option JsNumber
  | .null => none
  | other => (Json.toNumber conversions other).join

/-- The platform value asks something of the tenants: an enabled flag, a finite limit that
does not mean unlimited, a known verification level. -/
def Rule.active (conversions : Conversions) : Rule → Json → Bool
  | .flag, platform => match platform with
    | .bool enabled => enabled
    | _ => false
  | .minimum, platform => match numeric conversions platform with
    | some (.finite _) => true
    | _ => false
  | .maximum zeroMeansUnlimited, platform => match numeric conversions platform with
    | some (.finite limit) => !(zeroMeansUnlimited && decide (limit = 0))
    | _ => false
  | .verification, platform => match platform with
    | .str level => decide (level ∈ USER_VERIFICATION_ORDER)
    | _ => false

def Rule.satisfied (conversions : Conversions) : Rule → Json → Json → Bool
  | .flag, _, effective => effective.truthy
  | .minimum, platform, effective =>
    match numeric conversions platform, numeric conversions effective with
    | some limit, some value => decide (limit ≤ value)
    | _, _ => false
  | .maximum zeroMeansUnlimited, platform, effective =>
    match numeric conversions platform, numeric conversions effective with
    | some limit, some value =>
      decide (value ≤ limit) && !(zeroMeansUnlimited && decide (value = 0))
    | _, _ => false
  | .verification, platform, effective =>
    match platform, effective with
    | .str level, .str chosen => decide (chosen ∈ USER_VERIFICATION_ORDER ∧
        USER_VERIFICATION_ORDER.idxOf level ≤ USER_VERIFICATION_ORDER.idxOf chosen)
    | _, _ => false

/-- The values that a constraint can bring into line: for a flag `false` and what counts as
true, for a limit what converts to a number, for the verification a known level. -/
def Rule.enforceable (conversions : Conversions) : Rule → Json → Bool
  | .flag, value => match value with
    | .bool _ => true
    | other => other.truthy
  | .minimum, value => (numeric conversions value).isSome
  | .maximum _, value => (numeric conversions value).isSome
  | .verification, value => match value with
    | .str level => decide (level ∈ USER_VERIFICATION_ORDER)
    | _ => false

def settle (check : Check) (value : Json) : Except String Json :=
  if value.isNull then .ok value
  else (check value).map fun violation => (violation.map (·.adjusted)).getD value

def settleAll (checks : List Check) (value : Json) : Except String Json :=
  checks.foldlM (fun value check => settle check value) value

theorem bind_ok {α β : Type} {first : Except String α} {next : α → Except String β} {result : β}
    (ok : first >>= next = .ok result) : ∃ value, first = .ok value ∧ next value = .ok result := by
  cases first with
  | error message => simp [bind, Except.bind] at ok
  | ok value => exact ⟨value, rfl, ok⟩

theorem map_ok {α β : Type} {first : Except String α} {change : α → β} {result : β}
    (ok : first.map change = .ok result) : ∃ value, first = .ok value ∧ change value = result := by
  cases first with
  | error message => simp [Except.map] at ok
  | ok value => exact ⟨value, rfl, by simpa [Except.map] using ok⟩

theorem lookup_enforceField_self {field : Path} {check : Check} {state next : Constrained}
    (enforced : enforceField field check state = .ok next)
    (isOpen : state.result.lookup field ≠ .blocked) :
    (state.result.lookup field = .absent ∧ next.result.lookup field = .absent) ∨
      ∃ value settled, state.result.lookup field = .found value ∧
        settle check value = .ok settled ∧ next.result.lookup field = .found settled := by
  cases here : state.result.lookup field with
  | blocked => exact (isOpen here).elim
  | absent =>
    left
    simp only [enforceField, getNestedValue, here, Lookup.toOption, Except.ok.injEq] at enforced
    rw [← enforced]
    exact ⟨rfl, here⟩
  | found value =>
    right
    by_cases isNull : value.isNull = true
    · cases value with
      | null =>
        simp only [enforceField, getNestedValue, here, Lookup.toOption, Except.ok.injEq]
          at enforced
        rw [← enforced]
        exact ⟨_, _, rfl, by simp [settle, Json.isNull], here⟩
      | _ => simp [Json.isNull] at isNull
    · have checked : (check value).map (state.record field) = .ok next := by
        rw [← enforced]
        simp only [enforceField, getNestedValue, here, Lookup.toOption]
        cases value <;> simp_all [Json.isNull]
      obtain ⟨outcome, isOutcome, isNext⟩ := map_ok checked
      refine ⟨value, (outcome.map (·.adjusted)).getD value, rfl, ?_, ?_⟩
      · simp [settle, isNull, isOutcome, Except.map]
      · rw [← isNext]
        cases outcome with
        | none => simpa [Constrained.record] using here
        | some violation => exact Json.lookup_write_self _ _ _ (by simp [here])

theorem lookup_enforceField_apart {field path : Path} {check : Check} {state next : Constrained}
    (enforced : enforceField field check state = .ok next)
    (isOpen : state.result.lookup path ≠ .blocked) (separate : Json.apart field path = true) :
    next.result.lookup path = state.result.lookup path := by
  simp only [enforceField] at enforced
  split at enforced
  · simp only [Except.ok.injEq] at enforced
    rw [enforced]
  · simp only [Except.ok.injEq] at enforced
    rw [enforced]
  · obtain ⟨outcome, _, isNext⟩ := map_ok enforced
    rw [← isNext]
    cases outcome with
    | none => rfl
    | some violation => exact Json.lookup_write_apart _ _ separate isOpen

def checksFor (field : Path) (constraints : List (Path × Check)) : List Check :=
  (constraints.filter fun constraint => decide (constraint.1 = field)).map Prod.snd

theorem lookup_enforceAll {constraints : List (Path × Check)} {field : Path}
    {state final : Constrained} (enforced : enforceAll constraints state = .ok final)
    (isOpen : state.result.lookup field ≠ .blocked)
    (related : ∀ constraint ∈ constraints, constraint.1 = field ∨
      Json.apart constraint.1 field = true) :
    (state.result.lookup field = .absent ∧ final.result.lookup field = .absent) ∨
      ∃ value settled, state.result.lookup field = .found value ∧
        settleAll (checksFor field constraints) value = .ok settled ∧
        final.result.lookup field = .found settled := by
  induction constraints generalizing state with
  | nil =>
    simp only [enforceAll, List.foldlM_nil, pure, Except.pure, Except.ok.injEq] at enforced
    subst enforced
    cases here : state.result.lookup field with
    | blocked => exact (isOpen here).elim
    | absent => exact Or.inl ⟨rfl, rfl⟩
    | found value => exact Or.inr ⟨value, value, rfl, rfl, rfl⟩
  | cons constraint rest ih =>
    simp only [enforceAll, List.foldlM_cons] at enforced
    obtain ⟨next, first, others⟩ := bind_ok enforced
    have restRelated : ∀ other ∈ rest, other.1 = field ∨ Json.apart other.1 field = true :=
      fun other member => related other (List.mem_cons_of_mem _ member)
    by_cases same : constraint.1 = field
    · rw [same] at first
      rcases lookup_enforceField_self first isOpen with ⟨before, after⟩ |
        ⟨value, settled, before, step, after⟩
      · rcases ih others (by simp [after]) restRelated with ⟨_, last⟩ | ⟨_, _, impossible, _⟩
        · exact Or.inl ⟨before, last⟩
        · simp [after] at impossible
      · rcases ih others (by simp [after]) restRelated with ⟨impossible, _⟩ |
          ⟨middle, last, isMiddle, steps, isLast⟩
        · simp [after] at impossible
        · rw [after, Lookup.found.injEq] at isMiddle
          subst isMiddle
          refine Or.inr ⟨value, last, before, ?_, isLast⟩
          simp [checksFor, same, settleAll, step, bind, Except.bind]
          exact steps
    · have separate := (related constraint List.mem_cons_self).resolve_left same
      have kept := lookup_enforceField_apart first isOpen separate
      have settled := ih others (by rwa [kept]) restRelated
      rw [kept] at settled
      simpa [checksFor, same] using settled

end ParakoId.TenantOverrides
