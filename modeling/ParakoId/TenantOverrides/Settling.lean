import ParakoId.TenantOverrides.Rules

/-!
What the checks of one path do to a value: a limit raises or lowers the numbers beyond it, a
flag and a verification level are strengthened, and all else passes unchanged.
-/

namespace ParakoId.TenantOverrides

open Json (Path Conversions)
open Config (getNestedValue)

def raise (conversions : Conversions) (limit : JsNumber) (value : Json) : Json :=
  match numeric conversions value with
  | some number => if number < limit then .num limit else value
  | none => value

def lower (conversions : Conversions) (zeroMeansUnlimited : Bool) (limit : JsNumber)
    (value : Json) : Json :=
  match numeric conversions value with
  | some number =>
    if (zeroMeansUnlimited = true ∧ number = 0) ∨ limit < number then .num limit else value
  | none => value

def enable : Json → Json
  | .bool _ => .bool true
  | other => other

def strengthen (level : String) : Json → Json
  | .str chosen =>
    if chosen ∈ USER_VERIFICATION_ORDER ∧ USER_VERIFICATION_ORDER.idxOf chosen <
      USER_VERIFICATION_ORDER.idxOf level then .str level else .str chosen
  | other => other

@[simp] theorem numeric_num (conversions : Conversions) (value : JsNumber) :
    numeric conversions (.num value) = some value := rfl

variable {conversions : Conversions} {value : Json}

theorem numeric_of_number {converted : Option JsNumber}
    (ok : number conversions value = .ok converted) (notNull : value.isNull = false) :
    numeric conversions value = converted := by
  simp only [number] at ok
  split at ok
  · rename_i result isResult
    simp only [Except.ok.injEq] at ok
    subst ok
    cases value <;> simp_all [numeric, Json.isNull]
  · simp at ok

theorem numeric_raise (conversions : Conversions) (limit : JsNumber) (value : Json) :
    numeric conversions (raise conversions limit value) =
      (numeric conversions value).map (max limit) := by
  cases isNumber : numeric conversions value with
  | none => simp [raise, isNumber]
  | some number =>
    by_cases below : number < limit
    · simp [raise, isNumber, below, max_eq_left_of_lt below]
    · simp [raise, isNumber, below, max_eq_right (not_lt.mp below)]

theorem raise_serialized (limit : ℚ) (serialized : value.clone = value) :
    (raise conversions (.finite limit) value).clone = raise conversions (.finite limit) value := by
  simp only [raise]
  split
  · split
    · rfl
    · exact serialized
  · exact serialized

theorem lower_serialized (zeroMeansUnlimited : Bool) (limit : ℚ)
    (serialized : value.clone = value) :
    (lower conversions zeroMeansUnlimited (.finite limit) value).clone =
      lower conversions zeroMeansUnlimited (.finite limit) value := by
  simp only [lower]
  split
  · split
    · rfl
    · exact serialized
  · exact serialized

theorem compareNumbers_ok {limitValue : Json} {limit : JsNumber}
    {violation : JsNumber → JsNumber → Option ConstraintViolation}
    {outcome : Option ConstraintViolation}
    (isLimit : numeric conversions limitValue = some limit) (notNull : value.isNull = false)
    (ok : compareNumbers conversions value limitValue violation = .ok outcome) :
    outcome = (numeric conversions value).bind fun tenant => violation tenant limit := by
  have limitNotNull : limitValue.isNull = false := by
    cases limitValue <;> simp_all [numeric, Json.isNull]
  obtain ⟨tVal, isTenant, ok⟩ := bind_ok ok
  obtain ⟨pVal, isPlatform, ok⟩ := bind_ok ok
  have tenantNumber := numeric_of_number isTenant notNull
  have platformNumber := numeric_of_number isPlatform limitNotNull
  rw [isLimit] at platformNumber
  subst platformNumber
  simp only [pure, Except.pure, Except.ok.injEq, Option.bind_some] at ok
  rw [← ok, tenantNumber]

theorem platformLimit_of_found {platform limitValue : Json} {field : Path}
    (found : platform.lookup field = .found limitValue) (notNull : limitValue.isNull = false) :
    platformLimit platform field = some limitValue := by
  simp only [platformLimit, getNestedValue, found, Json.Lookup.toOption]
  cases limitValue <;> simp_all [Json.isNull]

theorem notNull_of_numeric {number : JsNumber}
    (isNumber : numeric conversions value = some number) : value.isNull = false := by
  cases value <;> simp_all [numeric, Json.isNull]

theorem settle_ok {check : Check} {settled : Json} (ok : settle check value = .ok settled) :
    (value = .null ∧ settled = .null) ∨ (value.isNull = false ∧
      ∃ outcome, check value = .ok outcome ∧
        settled = (outcome.map (·.adjusted)).getD value) := by
  by_cases isNull : value.isNull = true
  · left
    cases value with
    | null => exact ⟨rfl, by simpa [settle, Json.isNull] using ok.symm⟩
    | _ => simp [Json.isNull] at isNull
  · right
    simp only [settle, isNull, Bool.false_eq_true, if_false] at ok
    obtain ⟨outcome, checked, rfl⟩ := map_ok ok
    exact ⟨by simpa using isNull, outcome, checked, rfl⟩

section Numbers

variable {conversions : Conversions} {platform limitValue value settled : Json} {field : Path}
  {limit : JsNumber}

theorem settle_floor (found : platform.lookup field = .found limitValue)
    (isLimit : numeric conversions limitValue = some limit)
    (ok : settle (checkFloor conversions platform field .numeric) value = .ok settled) :
    settled = raise conversions limit value := by
  rcases settle_ok ok with ⟨rfl, rfl⟩ | ⟨notNull, outcome, checked, rfl⟩
  · rfl
  · rw [checkFloor, platformLimit_of_found found (notNull_of_numeric isLimit)] at checked
    rw [compareNumbers_ok isLimit notNull checked]
    cases isNumber : numeric conversions value with
    | none => simp [raise, isNumber]
    | some tenant =>
      by_cases below : tenant < limit <;> simp [raise, isNumber, floorViolation, below]

theorem settle_minLength (ok : settle (checkMinLength conversions) value = .ok settled) :
    settled = raise conversions NIST_MIN_PASSWORD_LENGTH value := by
  rcases settle_ok ok with ⟨rfl, rfl⟩ | ⟨notNull, outcome, checked, rfl⟩
  · rfl
  · obtain ⟨numPwLen, isNumPwLen, rfl⟩ := map_ok checked
    have isNumber := numeric_of_number isNumPwLen notNull
    cases numPwLen with
    | none => simp [raise, isNumber]
    | some tenant =>
      by_cases below : tenant < NIST_MIN_PASSWORD_LENGTH <;>
        simp [raise, isNumber, minLengthViolation, below]

theorem settle_ceiling (found : platform.lookup field = .found limitValue)
    (isLimit : numeric conversions limitValue = some limit)
    (limited : field ∈ ZERO_MEANS_UNLIMITED → limit ≠ 0)
    (ok : settle (checkCeiling conversions platform field) value = .ok settled) :
    settled = lower conversions (decide (field ∈ ZERO_MEANS_UNLIMITED)) limit value := by
  rcases settle_ok ok with ⟨rfl, rfl⟩ | ⟨notNull, outcome, checked, rfl⟩
  · rfl
  · rw [checkCeiling, platformLimit_of_found found (notNull_of_numeric isLimit)] at checked
    rw [compareNumbers_ok isLimit notNull checked]
    cases isNumber : numeric conversions value with
    | none => simp [lower, isNumber]
    | some tenant =>
      by_cases unlimited : field ∈ ZERO_MEANS_UNLIMITED
      · by_cases zero : tenant = 0
        · simp [lower, isNumber, ceilingViolation, unlimited, limited unlimited, zero]
        · by_cases beyond : limit < tenant <;>
            simp [lower, isNumber, ceilingViolation, unlimited, limited unlimited, zero, beyond]
      · by_cases beyond : limit < tenant <;>
          simp [lower, isNumber, ceilingViolation, unlimited, beyond]

theorem settle_flag (found : platform.lookup field = .found (.bool true))
    (ok : settle (checkFloor conversions platform field .boolean) value = .ok settled) :
    settled = enable value := by
  rcases settle_ok ok with ⟨rfl, rfl⟩ | ⟨notNull, outcome, checked, rfl⟩
  · rfl
  · rw [checkFloor, platformLimit_of_found found rfl] at checked
    cases value with
    | bool enabled =>
      cases enabled <;> simp only [Except.ok.injEq] at checked <;> subst checked <;> rfl
    | _ =>
      simp only [Except.ok.injEq] at checked
      subst checked
      rfl

theorem settle_verification {level : String} (found : platform.lookup uvPath = .found (.str level))
    (known : level ∈ USER_VERIFICATION_ORDER)
    (ok : settle (checkUserVerification platform) value = .ok settled) :
    settled = strengthen level value := by
  rcases settle_ok ok with ⟨rfl, rfl⟩ | ⟨notNull, outcome, checked, rfl⟩
  · rfl
  · cases value with
    | str chosen =>
      simp only [checkUserVerification, getNestedValue, found, Json.Lookup.toOption, known,
        true_and] at checked
      simp only [strengthen]
      split at checked <;> simp only [Except.ok.injEq] at checked <;> subst checked <;> simp_all
    | _ =>
      simp only [checkUserVerification, Except.ok.injEq] at checked
      subst checked
      rfl

end Numbers

theorem checksFor_append (field : Path) (first second : List (Path × Check)) :
    checksFor field (first ++ second) = checksFor field first ++ checksFor field second := by
  simp [checksFor]

theorem checksFor_absent {Item : Type} {items : List Item} {path : Item → Path}
    {check : Item → Check} {field : Path} (absent : ∀ item ∈ items, path item ≠ field) :
    checksFor field (items.map fun item => (path item, check item)) = [] := by
  simp only [checksFor, List.map_eq_nil_iff, List.filter_eq_nil_iff, List.mem_map]
  rintro constraint ⟨item, member, rfl⟩
  simpa using absent item member

theorem checksFor_unique {Item : Type} {items : List Item} {path : Item → Path}
    {check : Item → Check} (distinct : (items.map path).Nodup) {item : Item}
    (member : item ∈ items) :
    checksFor (path item) (items.map fun item => (path item, check item)) = [check item] := by
  obtain ⟨before, after, rfl⟩ := List.append_of_mem member
  simp only [List.map_append, List.map_cons, List.nodup_append, List.nodup_cons] at distinct
  have notBefore : ∀ other ∈ before, path other ≠ path item := fun other otherMember =>
    distinct.2.2 _ (List.mem_map_of_mem otherMember) _ List.mem_cons_self
  have notAfter : ∀ other ∈ after, path other ≠ path item := fun other otherMember same =>
    distinct.2.1.1 (same ▸ List.mem_map_of_mem otherMember)
  have first := @checksFor_absent _ before path check _ notBefore
  have last := @checksFor_absent _ after path check _ notAfter
  rw [List.map_append, checksFor_append, first, List.map_cons, List.nil_append]
  simp only [checksFor, decide_true, List.filter_cons_of_pos, List.map_cons] at last ⊢
  rw [last]

theorem constraints_separate :
    ((FLOOR_CONSTRAINTS.map Prod.fst).Nodup ∧ (CEILING_CONSTRAINTS.map fun field => field).Nodup ∧
      ∀ floor ∈ FLOOR_CONSTRAINTS, floor.1 ∉ CEILING_CONSTRAINTS) ∧
    (uvPath ∉ CEILING_CONSTRAINTS ∧ uvPath ≠ pwLenPath ∧
      ∀ floor ∈ FLOOR_CONSTRAINTS, floor.1 ≠ uvPath) ∧
    (pwLenPath, FloorType.numeric) ∈ FLOOR_CONSTRAINTS ∧ pwLenPath ∉ CEILING_CONSTRAINTS ∧
      ∀ floor ∈ FLOOR_CONSTRAINTS, floor.1 = pwLenPath → floor.2 = .numeric := by
  decide +kernel

theorem floor_distinct : (FLOOR_CONSTRAINTS.map Prod.fst).Nodup := constraints_separate.1.1

theorem ceiling_distinct : (CEILING_CONSTRAINTS.map fun field => field).Nodup :=
  constraints_separate.1.2.1

theorem ceiling_not_floor : ∀ floor ∈ FLOOR_CONSTRAINTS, floor.1 ∉ CEILING_CONSTRAINTS :=
  constraints_separate.1.2.2

theorem verification_alone : uvPath ∉ CEILING_CONSTRAINTS ∧ uvPath ≠ pwLenPath ∧
    ∀ floor ∈ FLOOR_CONSTRAINTS, floor.1 ≠ uvPath :=
  constraints_separate.2.1

theorem minLength_floor : (pwLenPath, FloorType.numeric) ∈ FLOOR_CONSTRAINTS ∧
    pwLenPath ∉ CEILING_CONSTRAINTS ∧
    ∀ floor ∈ FLOOR_CONSTRAINTS, floor.1 = pwLenPath → floor.2 = .numeric :=
  constraints_separate.2.2

section Rules

variable {conversions : Conversions} {platform limitValue value settled : Json}

theorem checksFor_constraints (field : Path) :
    checksFor field (constraints conversions platform) =
      checksFor field (FLOOR_CONSTRAINTS.map fun floor =>
        (floor.1, checkFloor conversions platform floor.1 floor.2)) ++
      (if pwLenPath = field then [checkMinLength conversions] else []) ++
      checksFor field (CEILING_CONSTRAINTS.map fun field =>
        (field, checkCeiling conversions platform field)) ++
      (if uvPath = field then [checkUserVerification platform] else []) := by
  have single (path : Path) (check : Check) :
      checksFor field [(path, check)] = if path = field then [check] else [] := by
    by_cases same : path = field <;> simp [checksFor, same]
  rw [constraints, checksFor_append, checksFor_append, ← List.singleton_append, checksFor_append,
    single, single]
  simp only [List.append_assoc]

theorem checksFor_floor {floor : Path × FloorType} (member : floor ∈ FLOOR_CONSTRAINTS) :
    checksFor floor.1 (constraints conversions platform) =
      checkFloor conversions platform floor.1 floor.2 ::
        if pwLenPath = floor.1 then [checkMinLength conversions] else [] := by
  have notCeiling := ceiling_not_floor floor member
  have notVerification := (verification_alone.2.2 floor member).symm
  have noCeiling : ∀ field ∈ CEILING_CONSTRAINTS, field ≠ floor.1 := fun field isCeiling same =>
    notCeiling (same ▸ isCeiling)
  rw [checksFor_constraints, checksFor_unique floor_distinct member, checksFor_absent noCeiling]
  simp [notVerification]

theorem checksFor_ceiling {field : Path} (member : field ∈ CEILING_CONSTRAINTS) :
    checksFor field (constraints conversions platform) =
      [checkCeiling conversions platform field] := by
  have notFloor : ∀ floor ∈ FLOOR_CONSTRAINTS, floor.1 ≠ field := fun floor isFloor same =>
    ceiling_not_floor floor isFloor (same ▸ member)
  have notMinLength : pwLenPath ≠ field := fun same => minLength_floor.2.1 (same ▸ member)
  have notVerification : uvPath ≠ field := fun same => verification_alone.1 (same ▸ member)
  rw [checksFor_constraints, checksFor_absent notFloor, checksFor_unique ceiling_distinct member]
  simp [notMinLength, notVerification]

theorem checksFor_verification : checksFor uvPath (constraints conversions platform) =
    [checkUserVerification platform] := by
  have noCeiling : ∀ field ∈ CEILING_CONSTRAINTS, field ≠ uvPath := fun field isCeiling same =>
    verification_alone.1 (same ▸ isCeiling)
  rw [checksFor_constraints, checksFor_absent verification_alone.2.2, checksFor_absent noCeiling]
  simp [verification_alone.2.1.symm]

theorem settleAll_cons {check : Check} {rest : List Check}
    (ok : settleAll (check :: rest) value = .ok settled) :
    ∃ first, settle check value = .ok first ∧ settleAll rest first = .ok settled := by
  simp only [settleAll, List.foldlM_cons] at ok
  exact bind_ok ok

theorem settleAll_single {check : Check} (ok : settleAll [check] value = .ok settled) :
    settle check value = .ok settled := by
  obtain ⟨first, step, last⟩ := settleAll_cons ok
  simp only [settleAll, List.foldlM_nil, pure, Except.pure, Except.ok.injEq] at last
  rw [← last]
  exact step

theorem strengthen_satisfied {level : String} (known : level ∈ USER_VERIFICATION_ORDER) :
    Rule.satisfied conversions .verification (.str level) (strengthen level value) =
      Rule.enforceable conversions .verification value := by
  cases value with
  | str chosen =>
    simp only [strengthen, Rule.enforceable]
    split
    · rename_i weaker
      simp [Rule.satisfied, known, weaker.1]
    · rename_i notWeaker
      by_cases listed : chosen ∈ USER_VERIFICATION_ORDER
      · have atLeast := not_lt.mp (not_and.mp notWeaker listed)
        simp [Rule.satisfied, listed, atLeast]
      · simp [Rule.satisfied, listed]
  | _ => rfl

theorem strengthen_serialized {level : String} (serialized : value.clone = value) :
    (strengthen level value).clone = strengthen level value := by
  cases value with
  | str chosen =>
    simp only [strengthen]
    split <;> rfl
  | _ => exact serialized

theorem raise_satisfied {limit : JsNumber} (isLimit : numeric conversions limitValue = some limit)
    (higher : JsNumber) :
    Rule.satisfied conversions .minimum limitValue (raise conversions limit value) =
        Rule.enforceable conversions .minimum value ∧
      Rule.satisfied conversions .minimum limitValue
          (raise conversions higher (raise conversions limit value)) =
        Rule.enforceable conversions .minimum value := by
  simp only [Rule.satisfied, Rule.enforceable, numeric_raise, isLimit]
  cases numeric conversions value with
  | none | some _ => simp

theorem lower_satisfied {limit : JsNumber} {zeroMeansUnlimited : Bool}
    (isLimit : numeric conversions limitValue = some limit)
    (limited : zeroMeansUnlimited = true → limit ≠ 0) :
    Rule.satisfied conversions (.maximum zeroMeansUnlimited) limitValue
        (lower conversions zeroMeansUnlimited limit value) =
      Rule.enforceable conversions (.maximum zeroMeansUnlimited) value := by
  simp only [Rule.satisfied, Rule.enforceable, isLimit, lower]
  cases isNumber : numeric conversions value with
  | none => simp [isNumber]
  | some number =>
    by_cases changed : (zeroMeansUnlimited = true ∧ number = 0) ∨ limit < number
    · simp only [if_pos changed, numeric_num, le_refl, decide_true, Bool.true_and,
        Option.isSome_some]
      by_cases unlimited : zeroMeansUnlimited = true
      · simpa [unlimited] using limited unlimited
      · simp [unlimited]
    · obtain ⟨nonzero, within⟩ := not_or.mp changed
      simp only [changed, if_false, isNumber, not_lt.mp within, decide_true, Bool.true_and,
        Option.isSome_some, Bool.not_eq_eq_eq_not, Bool.not_true]
      by_cases unlimited : zeroMeansUnlimited = true
      · simpa [unlimited] using nonzero
      · simp [unlimited]

/-- Under an active platform value the checks of a rule's path bring a value into line exactly
when it is enforceable. -/
theorem settled_satisfied {field : Path} {rule : Rule} (member : (field, rule) ∈ rules)
    (found : platform.lookup field = .found limitValue)
    (active : rule.active conversions limitValue = true) (serialized : value.clone = value)
    (ok : settleAll (checksFor field (constraints conversions platform)) value = .ok settled) :
    settled.clone = settled ∧
      rule.satisfied conversions limitValue settled = rule.enforceable conversions value := by
  simp only [rules, List.mem_append, List.mem_map, List.mem_singleton, Prod.mk.injEq] at member
  rcases member with (⟨floor, isFloor, rfl, rfl⟩ | ⟨ceiling, isCeiling, rfl, rfl⟩) | ⟨rfl, rfl⟩
  · rw [checksFor_floor isFloor] at ok
    obtain ⟨first, step, rest⟩ := settleAll_cons ok
    obtain ⟨path, type⟩ := floor
    cases type with
    | boolean =>
      have notMinLength : pwLenPath ≠ path := fun same => by
        have numericFloor := minLength_floor.2.2 (path, .boolean) isFloor same.symm
        simp at numericFloor
      simp only [notMinLength, if_false, settleAll, List.foldlM_nil, pure, Except.pure,
        Except.ok.injEq] at rest
      subst rest
      simp only [floorRule, Rule.active] at active
      cases limitValue with
      | bool enabled =>
        simp only at active
        subst active
        rw [settle_flag found step]
        cases value <;> first
          | exact ⟨rfl, rfl⟩
          | exact ⟨serialized, rfl⟩
      | _ => simp at active
    | numeric =>
      simp only [floorRule, Rule.active] at active
      split at active
      · rename_i limit isLimit
        have raised := settle_floor found isLimit step
        by_cases minLength : pwLenPath = path
        · simp only [minLength, if_true] at rest
          have again := settle_minLength (settleAll_single rest)
          subst again raised
          exact ⟨raise_serialized _ (raise_serialized _ serialized),
            (raise_satisfied isLimit _).2⟩
        · simp only [minLength, if_false, settleAll, List.foldlM_nil, pure, Except.pure,
            Except.ok.injEq] at rest
          subst rest raised
          exact ⟨raise_serialized _ serialized, (raise_satisfied isLimit 0).1⟩
      · simp at active
  · rw [checksFor_ceiling isCeiling] at ok
    simp only [Rule.active] at active
    split at active
    · rename_i limit isLimit
      have limited : decide (ceiling ∈ ZERO_MEANS_UNLIMITED) = true → JsNumber.finite limit ≠ 0 := by
        intro unlimited zero
        have isZero : limit = 0 := JsNumber.finite.inj zero
        simp [unlimited, isZero] at active
      have lowered := settle_ceiling found isLimit
        (fun unlimited => limited (decide_eq_true unlimited)) (settleAll_single ok)
      subst lowered
      exact ⟨lower_serialized _ _ serialized, lower_satisfied isLimit limited⟩
    · simp at active
  · rw [checksFor_verification] at ok
    simp only [Rule.active] at active
    cases limitValue with
    | str level =>
      have known : level ∈ USER_VERIFICATION_ORDER := by simpa using active
      rw [settle_verification found known (settleAll_single ok)]
      exact ⟨strengthen_serialized serialized, strengthen_satisfied known⟩
    | _ => simp at active

end Rules

end ParakoId.TenantOverrides
