import ParakoId.TenantOverrides.PlatformUpdates

/-!
`enforceConstraints` as a projection: on documents whose values have the types of their rules
it ends with one that every check passes, and changes nothing but what it reports.
-/

namespace ParakoId.TenantOverrides

open Json (Path Conversions Lookup)
open Config (getNestedValue setNestedValue)

structure OverrideDocument where
  content : Json
  typed : wellTyped (getNestedValue content) = true
  serialized : content.clone = content

/-- `strict` is no laxer than `lax` in what the rule is about. -/
def Rule.AtLeast : Rule → Json → Json → Prop
  | .flag, .bool lax, .bool strict => lax = true → strict = true
  | .minimum, .num lax, .num strict => lax ≤ strict
  | .maximum zeroMeansUnlimited, .num lax, .num strict =>
    (zeroMeansUnlimited = true ∧ lax = 0) ∨
      (¬(zeroMeansUnlimited = true ∧ strict = 0) ∧ strict ≤ lax)
  | .verification, .str lax, .str strict =>
    USER_VERIFICATION_ORDER.idxOf lax ≤ USER_VERIFICATION_ORDER.idxOf strict
  | _, _, _ => False

def Passes (check : Check) (value : Json) : Prop := check value = .ok none

/-- A check that passes a value, or puts a stricter one of the same type in its place that it
passes; and what is no laxer than a passed value it passes too. -/
structure Mends (rule : Rule) (field : Path) (check : Check) : Prop where
  mends : ∀ value, rule.typed value = true → ¬Passes check value →
    ∃ violation, check value = .ok (some violation) ∧ violation.field = field ∧
      rule.typed violation.adjusted = true ∧ Passes check violation.adjusted ∧
      rule.AtLeast value violation.adjusted
  upward : ∀ lax strict, rule.typed lax = true → rule.typed strict = true →
    rule.AtLeast lax strict → Passes check lax → Passes check strict

variable {value : Json} {field : Path} {state : Constrained}

theorem typed_leaf {rule : Rule} (typed : rule.typed value = true) :
    value.isObject = false ∧ value.isNull = false := by
  cases value <;> cases rule <;> simp_all [Rule.typed, Json.isObject, Json.isNull]

theorem typed_found {document : Json} {rule : Rule}
    (typed : wellTyped (getNestedValue document) = true) (member : (field, rule) ∈ rules)
    (found : document.lookup field = .found value) : rule.typed value = true :=
  typed_of_wellTyped typed member (Config.getNestedValue_some.mpr found)

theorem wellTyped_of_found {document : Json} (typed : ∀ entry ∈ rules, ∀ value,
    document.lookup entry.1 = .found value → entry.2.typed value = true) :
    wellTyped (getNestedValue document) = true := by
  rw [wellTyped, List.all_eq_true]
  intro entry member
  cases found : getNestedValue document entry.1 with
  | none => rfl
  | some value => exact typed entry member value (Config.getNestedValue_some.mp found)

theorem mends_of_passes {rule : Rule} {check : Check} (passes : ∀ value, Passes check value) :
    Mends rule field check where
  mends value _ fails := (fails (passes value)).elim
  upward _ strict _ _ _ _ := passes strict

theorem mends_to (adjusted : Json) {rule : Rule} {check : Check}
    (fires : ∃ violation, check value = .ok (some violation) ∧ violation.field = field ∧
      violation.adjusted = adjusted) (typed : rule.typed adjusted = true)
    (passes : Passes check adjusted) (atLeast : rule.AtLeast value adjusted) :
    ∃ violation, check value = .ok (some violation) ∧ violation.field = field ∧
      rule.typed violation.adjusted = true ∧ Passes check violation.adjusted ∧
      rule.AtLeast value violation.adjusted := by
  obtain ⟨violation, fired, named, rfl⟩ := fires
  exact ⟨violation, fired, named, typed, passes, atLeast⟩

theorem typed_number {rule : Rule}
    (limits : rule = .minimum ∨ ∃ unlimited, rule = .maximum unlimited)
    (typed : rule.typed value = true) : ∃ number, value = .num (.finite number) := by
  rcases limits with rfl | ⟨unlimited, rfl⟩
  · cases value with
    | num number => cases number <;> simp_all [Rule.typed]
    | _ => simp [Rule.typed] at typed
  · cases value with
    | num number => cases number <;> simp_all [Rule.typed]
    | _ => simp [Rule.typed] at typed

section Checks

variable {conversions : Conversions} {platform : Json}

variable {field : Path}

theorem platformLimit_typed {rule : Rule}
    (typed : ∀ limit, platform.lookup field = .found limit → rule.typed limit = true) :
    platformLimit platform field = none ∨
      ∃ limit, platformLimit platform field = some limit ∧ rule.typed limit = true := by
  cases found : platform.lookup field with
  | found limit =>
    have limitTyped := typed limit found
    exact Or.inr ⟨limit, platformLimit_of_found found (typed_leaf limitTyped).2, limitTyped⟩
  | _ =>
    left
    simp [platformLimit, getNestedValue, found, Lookup.toOption]

theorem floor_num {limit tenant : ℚ}
    (isLimit : platformLimit platform field = some (.num (.finite limit))) :
    checkFloor conversions platform field .numeric (.num (.finite tenant)) =
      .ok (floorViolation conversions field (.finite tenant) (.finite limit)) := by
  rw [checkFloor, isLimit]
  rfl

theorem ceiling_num {limit tenant : ℚ}
    (isLimit : platformLimit platform field = some (.num (.finite limit))) :
    checkCeiling conversions platform field (.num (.finite tenant)) =
      .ok (ceilingViolation conversions field (.finite tenant) (.finite limit)) := by
  rw [checkCeiling, isLimit]
  rfl

theorem mends_flag {required : Bool}
    (isLimit : platformLimit platform field = some (.bool required)) :
    Mends .flag field (checkFloor conversions platform field .boolean) := by
  have passes_iff (enabled : Bool) :
      Passes (checkFloor conversions platform field .boolean) (.bool enabled) ↔
        (required = true → enabled = true) := by
    rw [Passes, checkFloor, isLimit]
    cases required <;> cases enabled <;> simp
  have isFlag {value : Json} (typed : Rule.flag.typed value = true) :
      ∃ enabled, value = .bool enabled := by
    cases value with
    | bool enabled => exact ⟨enabled, rfl⟩
    | _ => simp [Rule.typed] at typed
  constructor
  · intro value valueTyped fails
    obtain ⟨enabled, rfl⟩ := isFlag valueTyped
    simp only [passes_iff, Classical.not_imp, Bool.not_eq_true] at fails
    obtain ⟨isRequired, isOff⟩ := fails
    subst isRequired isOff
    apply mends_to (.bool true)
    · rw [checkFloor, isLimit]
      exact ⟨_, rfl, rfl, rfl⟩
    · rfl
    · rw [passes_iff]
      exact fun _ => rfl
    · exact fun _ => rfl
  · intro lax strict laxTyped strictTyped atLeast passes
    obtain ⟨laxEnabled, rfl⟩ := isFlag laxTyped
    obtain ⟨strictEnabled, rfl⟩ := isFlag strictTyped
    rw [passes_iff] at passes ⊢
    exact fun isRequired => atLeast (passes isRequired)

theorem mends_minimum {check : Check} (limit : ℚ)
    (passes_iff : ∀ tenant : ℚ, Passes check (.num (.finite tenant)) ↔
      JsNumber.finite limit ≤ .finite tenant)
    (fires : ∀ tenant : ℚ, JsNumber.finite tenant < .finite limit →
      ∃ violation, check (.num (.finite tenant)) = .ok (some violation) ∧
        violation.field = field ∧ violation.adjusted = .num (.finite limit)) :
    Mends .minimum field check := by
  constructor
  · intro value valueTyped fails
    obtain ⟨tenant, rfl⟩ := typed_number (Or.inl rfl) valueTyped
    rw [passes_iff, not_le] at fails
    exact mends_to _ (fires tenant fails) rfl ((passes_iff limit).mpr le_rfl) (le_of_lt fails)
  · intro lax strict laxTyped strictTyped atLeast passes
    obtain ⟨laxNumber, rfl⟩ := typed_number (Or.inl rfl) laxTyped
    obtain ⟨strictNumber, rfl⟩ := typed_number (Or.inl rfl) strictTyped
    rw [passes_iff] at passes ⊢
    exact le_trans passes atLeast

theorem mends_floor {type : FloorType}
    (typed : ∀ limit, platform.lookup field = .found limit → (floorRule type).typed limit = true) :
    Mends (floorRule type) field (checkFloor conversions platform field type) := by
  rcases platformLimit_typed typed with unlimited | ⟨limitValue, isLimit, limitTyped⟩
  · apply mends_of_passes
    intro value
    rw [Passes, checkFloor, unlimited]
  · cases type with
    | boolean =>
      cases limitValue with
      | bool required => exact mends_flag isLimit
      | _ => simp [floorRule, Rule.typed] at limitTyped
    | numeric =>
      obtain ⟨limit, rfl⟩ := typed_number (Or.inl rfl) limitTyped
      refine mends_minimum limit (fun tenant => ?_) fun tenant below => ?_
      · rw [Passes, floor_num isLimit, floorViolation]
        split <;> simp_all
      · rw [floor_num isLimit, floorViolation, if_pos below]
        exact ⟨_, rfl, rfl, rfl⟩

theorem minLength_num {tenant : ℚ} : checkMinLength conversions (.num (.finite tenant)) =
    .ok (minLengthViolation (.finite tenant)) := rfl

theorem minLength_passes_iff (tenant : ℚ) :
    Passes (checkMinLength conversions) (.num (.finite tenant)) ↔
      NIST_MIN_PASSWORD_LENGTH ≤ .finite tenant := by
  rw [Passes, minLength_num, minLengthViolation]
  split <;> simp_all

theorem mends_minLength : Mends .minimum pwLenPath (checkMinLength conversions) := by
  apply mends_minimum 8 minLength_passes_iff
  intro tenant below
  have isBelow : JsNumber.finite tenant < NIST_MIN_PASSWORD_LENGTH := below
  rw [minLength_num, minLengthViolation, if_pos isBelow]
  exact ⟨_, rfl, rfl, rfl⟩

theorem mends_ceiling
    (typed : ∀ limit, platform.lookup field = .found limit →
      (Rule.maximum (decide (field ∈ ZERO_MEANS_UNLIMITED))).typed limit = true) :
    Mends (.maximum (decide (field ∈ ZERO_MEANS_UNLIMITED))) field
      (checkCeiling conversions platform field) := by
  rcases platformLimit_typed typed with unlimited | ⟨limitValue, isLimit, limitTyped⟩
  · apply mends_of_passes
    intro value
    rw [Passes, checkCeiling, unlimited]
  · obtain ⟨limit, rfl⟩ := typed_number (Or.inr ⟨_, rfl⟩) limitTyped
    by_cases exempt : field ∈ ZERO_MEANS_UNLIMITED ∧ JsNumber.finite limit = 0
    · have passes (tenant : ℚ) :
          Passes (checkCeiling conversions platform field) (.num (.finite tenant)) := by
        rw [Passes, ceiling_num isLimit, ceilingViolation, if_pos exempt]
      constructor
      · intro value valueTyped fails
        obtain ⟨tenant, rfl⟩ := typed_number (Or.inr ⟨_, rfl⟩) valueTyped
        exact (fails (passes tenant)).elim
      · intro lax strict laxTyped strictTyped atLeast _
        obtain ⟨tenant, rfl⟩ := typed_number (Or.inr ⟨_, rfl⟩) strictTyped
        exact passes tenant
    · have passes_iff (tenant : ℚ) :
          Passes (checkCeiling conversions platform field) (.num (.finite tenant)) ↔
            ¬(field ∈ ZERO_MEANS_UNLIMITED ∧ JsNumber.finite tenant = 0) ∧
              JsNumber.finite tenant ≤ .finite limit := by
        rw [Passes, ceiling_num isLimit, ceilingViolation, if_neg exempt]
        by_cases zero : field ∈ ZERO_MEANS_UNLIMITED ∧ JsNumber.finite tenant = 0
        · simp [zero]
        · rw [if_neg zero]
          split <;> simp_all
      constructor
      · intro value valueTyped fails
        obtain ⟨tenant, rfl⟩ := typed_number (Or.inr ⟨_, rfl⟩) valueTyped
        rw [passes_iff] at fails
        have atLimit : Passes (checkCeiling conversions platform field) (.num (.finite limit)) :=
          (passes_iff limit).mpr ⟨exempt, le_rfl⟩
        by_cases zero : field ∈ ZERO_MEANS_UNLIMITED ∧ JsNumber.finite tenant = 0
        · apply mends_to (.num (.finite limit))
          · rw [ceiling_num isLimit, ceilingViolation, if_neg exempt, if_pos zero]
            exact ⟨_, rfl, rfl, rfl⟩
          · rfl
          · exact atLimit
          · exact Or.inl ⟨decide_eq_true zero.1, zero.2⟩
        · have beyond : JsNumber.finite limit < .finite tenant := by
            by_contra within
            exact fails ⟨zero, not_lt.mp within⟩
          apply mends_to (.num (.finite limit))
          · rw [ceiling_num isLimit, ceilingViolation, if_neg exempt, if_neg zero, if_pos beyond]
            exact ⟨_, rfl, rfl, rfl⟩
          · rfl
          · exact atLimit
          · exact Or.inr ⟨by rwa [decide_eq_true_eq], le_of_lt beyond⟩
      · intro lax strict laxTyped strictTyped atLeast passes
        obtain ⟨laxNumber, rfl⟩ := typed_number (Or.inr ⟨_, rfl⟩) laxTyped
        obtain ⟨strictNumber, rfl⟩ := typed_number (Or.inr ⟨_, rfl⟩) strictTyped
        rw [passes_iff] at passes ⊢
        simp only [Rule.AtLeast, decide_eq_true_eq] at atLeast
        rcases atLeast with zero | ⟨nonzero, within⟩
        · exact (passes.1 zero).elim
        · exact ⟨nonzero, le_trans within passes.2⟩

theorem mends_verification
    (typed : ∀ limit, platform.lookup uvPath = .found limit → Rule.verification.typed limit = true) :
    Mends .verification uvPath (checkUserVerification platform) := by
  cases found : platform.lookup uvPath with
  | found limitValue =>
    have limitTyped := typed limitValue found
    cases limitValue with
    | str level =>
      have known : level ∈ USER_VERIFICATION_ORDER := by simpa [Rule.typed] using limitTyped
      have computed (chosen : String) (listed : chosen ∈ USER_VERIFICATION_ORDER) :
          checkUserVerification platform (.str chosen) =
            if USER_VERIFICATION_ORDER.idxOf chosen < USER_VERIFICATION_ORDER.idxOf level then
              .ok (some
                { field := uvPath, original := .str chosen, adjusted := .str level
                  reason := "Floor: cannot weaken from '" ++ level ++ "' to '" ++ chosen ++
                    "'" })
            else .ok none := by
        simp only [checkUserVerification, getNestedValue, found, Lookup.toOption, listed, known,
          true_and]
      have passes_iff (chosen : String) (listed : chosen ∈ USER_VERIFICATION_ORDER) :
          Passes (checkUserVerification platform) (.str chosen) ↔
            USER_VERIFICATION_ORDER.idxOf level ≤ USER_VERIFICATION_ORDER.idxOf chosen := by
        rw [Passes, computed chosen listed]
        split <;> simp_all
      have isLevel {value : Json} (valueTyped : Rule.verification.typed value = true) :
          ∃ chosen, value = .str chosen ∧ chosen ∈ USER_VERIFICATION_ORDER := by
        cases value with
        | str chosen => exact ⟨chosen, rfl, by simpa [Rule.typed] using valueTyped⟩
        | _ => simp [Rule.typed] at valueTyped
      constructor
      · intro value valueTyped fails
        obtain ⟨chosen, rfl, listed⟩ := isLevel valueTyped
        rw [passes_iff chosen listed, not_le] at fails
        apply mends_to (.str level)
        · rw [computed chosen listed, if_pos fails]
          exact ⟨_, rfl, rfl, rfl⟩
        · exact decide_eq_true known
        · rw [passes_iff level known]
        · exact le_of_lt fails
      · intro lax strict laxTyped strictTyped atLeast passes
        obtain ⟨laxLevel, rfl, laxListed⟩ := isLevel laxTyped
        obtain ⟨strictLevel, rfl, strictListed⟩ := isLevel strictTyped
        rw [passes_iff _ laxListed] at passes
        rw [passes_iff _ strictListed]
        exact le_trans passes atLeast
    | _ => simp [Rule.typed] at limitTyped
  | _ =>
    apply mends_of_passes
    intro value
    simp only [Passes, checkUserVerification, getNestedValue, found, Lookup.toOption]

theorem constraints_mend (conversions : Conversions)
    (typed : wellTyped (getNestedValue platform) = true) :
    ∀ constraint ∈ constraints conversions platform,
      ∃ rule, (constraint.1, rule) ∈ rules ∧ Mends rule constraint.1 constraint.2 := by
  intro constraint member
  simp only [constraints, List.mem_append, List.mem_map, List.mem_cons, List.not_mem_nil, or_false]
    at member
  rcases member with (⟨floor, isFloor, rfl⟩ | rfl | ⟨field, isCeiling, rfl⟩) | rfl
  · have isRule : (floor.1, floorRule floor.2) ∈ rules := by
      simp only [rules, List.mem_append, List.mem_map]
      exact Or.inl (Or.inl ⟨floor, isFloor, rfl⟩)
    exact ⟨_, isRule, mends_floor fun _ found => typed_found typed isRule found⟩
  · have isRule : (pwLenPath, Rule.minimum) ∈ rules := by
      simp only [rules, List.mem_append, List.mem_map]
      exact Or.inl (Or.inl ⟨_, minLength_floor.1, rfl⟩)
    exact ⟨_, isRule, mends_minLength⟩
  · have isRule : (field, Rule.maximum (decide (field ∈ ZERO_MEANS_UNLIMITED))) ∈ rules := by
      simp only [rules, List.mem_append, List.mem_map]
      exact Or.inl (Or.inr ⟨field, isCeiling, rfl⟩)
    exact ⟨_, isRule, mends_ceiling fun _ found => typed_found typed isRule found⟩
  · have isRule : (uvPath, Rule.verification) ∈ rules := by
      simp [rules]
    exact ⟨_, isRule, mends_verification fun _ found => typed_found typed isRule found⟩

end Checks

theorem rule_unique : ∀ first ∈ rules, ∀ second ∈ rules, first.1 = second.1 → first = second := by
  decide +kernel

structure Enforced (before : Json) (done : List (Path × Check)) (state : Constrained) : Prop where
  typed : wellTyped (getNestedValue state.result) = true
  serialized : state.result.clone = state.result
  passes : ∀ constraint ∈ done, ∀ value, state.result.lookup constraint.1 = .found value →
    Passes constraint.2 value
  reported : ∀ violation ∈ state.violations, ∃ constraint ∈ done, constraint.1 = violation.field ∧
    ∃ value settled, before.lookup violation.field = .found value ∧
      ¬Passes constraint.2 value ∧ state.result.lookup violation.field = .found settled
  unreported : ∀ path, (∀ violation ∈ state.violations, violation.field ≠ path) →
    state.result.held path = before.held path

def MendsByRule (constraint : Path × Check) : Prop :=
  ∃ rule, (constraint.1, rule) ∈ rules ∧ Mends rule constraint.1 constraint.2

theorem enforceField_quiet {check : Check}
    (passes : ∀ value, state.result.lookup field = .found value → Passes check value) :
    enforceField field check state = .ok state := by
  simp only [enforceField, getNestedValue]
  cases found : state.result.lookup field with
  | found value =>
    have passed : check value = .ok none := passes value found
    cases value <;> simp only [Lookup.toOption, passed] <;> rfl
  | _ => rfl

theorem enforceField_fires {check : Check} {violation : ConstraintViolation}
    (found : state.result.lookup field = .found value) (notNull : value.isNull = false)
    (fired : check value = .ok (some violation)) :
    enforceField field check state =
      .ok ⟨Json.write violation.adjusted field state.result, state.violations ++ [violation]⟩ := by
  simp only [enforceField, getNestedValue, found, Lookup.toOption]
  split
  · rename_i missing
    simp at missing
  · rename_i isNull
    rw [Option.some.inj isNull] at notNull
    simp [Json.isNull] at notNull
  · rename_i tenantValue _ isValue
    rw [← Option.some.inj isValue, fired]
    rfl

section Writing

variable {document value adjusted : Json} {field : Path} {rule : Rule}

theorem lookup_written_self (found : document.lookup field = .found value) :
    (Json.write adjusted field document).lookup field = .found adjusted :=
  Json.lookup_write_self _ _ _ (by simp [found])

theorem lookup_written_other {path : Path} {leaf : Json}
    (found : document.lookup field = .found value) (valueLeaf : value.isObject = false)
    (adjustedLeaf : adjusted.isObject = false) (isLeaf : leaf.isObject = false)
    (different : path ≠ field) :
    (Json.write adjusted field document).lookup path = .found leaf ↔
      document.lookup path = .found leaf := by
  rw [← Json.held_found_iff isLeaf, ← Json.held_found_iff isLeaf,
    Json.held_write_other found valueLeaf adjustedLeaf different]

theorem wellTyped_written (typed : wellTyped (getNestedValue document) = true)
    (member : (field, rule) ∈ rules) (found : document.lookup field = .found value)
    (adjustedTyped : rule.typed adjusted = true) :
    wellTyped (getNestedValue (Json.write adjusted field document)) = true := by
  have valueLeaf := (typed_leaf (typed_found typed member found)).1
  have adjustedLeaf := (typed_leaf adjustedTyped).1
  apply wellTyped_of_found
  intro entry isRule now isNow
  by_cases same : entry.1 = field
  · have isEntry : entry = (field, rule) := rule_unique entry isRule _ member same
    subst isEntry
    rw [lookup_written_self found, Lookup.found.injEq] at isNow
    exact isNow ▸ adjustedTyped
  · have kept := Json.held_write_other found valueLeaf adjustedLeaf same
    cases was : document.lookup entry.1 with
    | found old =>
      have oldTyped := typed_found typed isRule was
      have stays := (lookup_written_other found valueLeaf adjustedLeaf (typed_leaf oldTyped).1
        same).mpr was
      rw [isNow, Lookup.found.injEq] at stays
      exact stays ▸ oldTyped
    | _ => simp [Json.held, isNow, was, Lookup.map] at kept

end Writing

section Steps

variable {before : Json} {done : List (Path × Check)} {state : Constrained} {field : Path}
  {check : Check}

section

variable (enforced : Enforced before done state)
include enforced

theorem Enforced.quiet
    (passes : ∀ value, state.result.lookup field = .found value → Passes check value) :
    Enforced before (done ++ [(field, check)]) state := by
  refine ⟨enforced.typed, enforced.serialized, ?_, ?_, enforced.unreported⟩
  · intro other isDone value found
    rcases List.mem_append.mp isDone with earlier | isLast
    · exact enforced.passes other earlier value found
    · obtain rfl := List.mem_singleton.mp isLast
      exact passes value found
  · intro violation isReported
    obtain ⟨other, earlier, rest⟩ := enforced.reported violation isReported
    exact ⟨other, List.mem_append_left _ earlier, rest⟩

theorem Enforced.unreported_found {value : Json}
    (unreported : ∀ violation ∈ state.violations, violation.field ≠ field)
    (found : state.result.lookup field = .found value) (isLeaf : value.isObject = false) :
    before.lookup field = .found value := by
  have isHeld := (Json.held_found_iff isLeaf).mpr found
  rwa [enforced.unreported field unreported, Json.held_found_iff isLeaf] at isHeld

theorem Enforced.fires (mendsDone : ∀ earlier ∈ done, MendsByRule earlier) {rule : Rule}
    (member : (field, rule) ∈ rules) {value : Json} {violation : ConstraintViolation}
    (found : state.result.lookup field = .found value) (fails : ¬Passes check value)
    (named : violation.field = field) (adjustedTyped : rule.typed violation.adjusted = true)
    (adjustedPasses : Passes check violation.adjusted)
    (stricter : rule.AtLeast value violation.adjusted) :
    Enforced before (done ++ [(field, check)])
      ⟨Json.write violation.adjusted field state.result, state.violations ++ [violation]⟩ := by
  have valueTyped := typed_found enforced.typed member found
  have valueLeaf := (typed_leaf valueTyped).1
  have adjustedLeaf := (typed_leaf adjustedTyped).1
  have atField : (Json.write violation.adjusted field state.result).lookup field =
      .found violation.adjusted := lookup_written_self found
  have writtenTyped := wellTyped_written enforced.typed member found adjustedTyped
  refine ⟨writtenTyped, ?_, ?_, ?_, ?_⟩
  · simp only [Json.clone_write, clone_of_typed adjustedTyped, enforced.serialized]
  · intro other isDone now isNow
    rcases List.mem_append.mp isDone with earlier | isLast
    · obtain ⟨otherRule, otherMember, otherMends⟩ := mendsDone other earlier
      by_cases same : other.1 = field
      · rw [same, atField, Lookup.found.injEq] at isNow
        subst isNow
        have sameRule := rule_unique _ otherMember _ member same
        simp only [Prod.mk.injEq] at sameRule
        rw [sameRule.2] at otherMends
        exact otherMends.upward value _ valueTyped adjustedTyped stricter
          (enforced.passes other earlier value (same ▸ found))
      · have nowLeaf := (typed_leaf (typed_found writtenTyped otherMember isNow)).1
        exact enforced.passes other earlier now
          ((lookup_written_other found valueLeaf adjustedLeaf nowLeaf same).mp isNow)
    · obtain rfl := List.mem_singleton.mp isLast
      rw [atField, Lookup.found.injEq] at isNow
      exact isNow ▸ adjustedPasses
  · intro reportedNow isReported
    rcases List.mem_append.mp isReported with earlier | isLast
    · obtain ⟨other, isDone, atPath, old, settled, isOld, oldFails, isSettled⟩ :=
        enforced.reported reportedNow earlier
      refine ⟨other, List.mem_append_left _ isDone, atPath, old, ?_⟩
      by_cases same : reportedNow.field = field
      · exact ⟨_, isOld, oldFails, by rw [same]; exact atField⟩
      · obtain ⟨otherRule, otherMember, _⟩ := mendsDone other isDone
        rw [atPath] at otherMember
        have settledLeaf := (typed_leaf (typed_found enforced.typed otherMember isSettled)).1
        exact ⟨settled, isOld, oldFails,
          (lookup_written_other found valueLeaf adjustedLeaf settledLeaf same).mpr isSettled⟩
    · obtain rfl := List.mem_singleton.mp isLast
      rw [named]
      by_cases again : ∃ earlier ∈ state.violations, earlier.field = field
      · obtain ⟨earlier, isEarlier, rfl⟩ := again
        obtain ⟨other, isDone, atPath, old, _, isOld, oldFails, _⟩ :=
          enforced.reported earlier isEarlier
        exact ⟨other, List.mem_append_left _ isDone, atPath, old, _, isOld, oldFails, atField⟩
      · have isOld := enforced.unreported_found (by simpa using again) found valueLeaf
        exact ⟨_, List.mem_append_right _ (List.mem_singleton_self _), rfl, value, _, isOld, fails,
          atField⟩
  · intro path unreported
    have different : path ≠ field := by
      rintro rfl
      exact unreported violation (by simp) named
    rw [Json.held_write_other found valueLeaf adjustedLeaf different]
    exact enforced.unreported path fun earlier isEarlier =>
      unreported earlier (List.mem_append_left _ isEarlier)

theorem Enforced.step {constraint : Path × Check} (mendsHere : MendsByRule constraint)
    (mendsDone : ∀ earlier ∈ done, MendsByRule earlier) :
    ∃ next, enforceField constraint.1 constraint.2 state = .ok next ∧
      Enforced before (done ++ [constraint]) next := by
  obtain ⟨field, check⟩ := constraint
  obtain ⟨rule, member, mends⟩ := mendsHere
  by_cases passes : ∀ value, state.result.lookup field = .found value → Passes check value
  · exact ⟨state, enforceField_quiet passes, enforced.quiet passes⟩
  · obtain ⟨value, found, fails⟩ : ∃ value, state.result.lookup field = .found value ∧
        ¬Passes check value := by
      simpa using passes
    have valueTyped := typed_found enforced.typed member found
    obtain ⟨violation, fired, named, adjustedTyped, adjustedPasses, stricter⟩ :=
      mends.mends value valueTyped fails
    exact ⟨_, enforceField_fires found (typed_leaf valueTyped).2 fired,
      enforced.fires mendsDone member found fails named adjustedTyped adjustedPasses stricter⟩

end

end Steps

theorem Enforced.run {before : Json} {rest : List (Path × Check)} :
    ∀ {done : List (Path × Check)} {state : Constrained}, Enforced before done state →
      (∀ constraint ∈ done ++ rest, MendsByRule constraint) →
      ∃ final, enforceAll rest state = .ok final ∧ Enforced before (done ++ rest) final := by
  induction rest with
  | nil =>
    intro done state enforced _
    exact ⟨state, rfl, by simpa using enforced⟩
  | cons constraint rest ih =>
    intro done state enforced mends
    obtain ⟨next, step, enforcedNext⟩ := enforced.step
      (mends constraint (by simp)) fun earlier isDone => mends earlier (by simp [isDone])
    obtain ⟨final, steps, enforcedFinal⟩ := ih enforcedNext (by simpa using mends)
    refine ⟨final, ?_, by simpa using enforcedFinal⟩
    rw [enforceAll, List.foldlM_cons, step]
    exact steps

theorem enforceAll_quiet {rest : List (Path × Check)}
    (passes : ∀ constraint ∈ rest, ∀ value, state.result.lookup constraint.1 = .found value →
      Passes constraint.2 value) : enforceAll rest state = .ok state := by
  induction rest with
  | nil => rfl
  | cons constraint rest ih =>
    rw [enforceAll, List.foldlM_cons, enforceField_quiet (passes constraint List.mem_cons_self)]
    exact ih fun other member => passes other (List.mem_cons_of_mem _ member)

theorem settleAll_passes {checks : List Check} (passes : ∀ check ∈ checks, Passes check value) :
    settleAll checks value = .ok value := by
  induction checks with
  | nil => rfl
  | cons check rest ih =>
    have first : settle check value = .ok value := by
      have passed : check value = .ok none := passes check List.mem_cons_self
      simp [settle, passed, Except.map]
    rw [settleAll, List.foldlM_cons, first]
    exact ih fun other member => passes other (List.mem_cons_of_mem _ member)

/-- Every value of the document is at least as strict as an active platform value asks, and no
password length is below the absolute minimum. -/
structure Complies (conversions : Conversions) (platform document : Json) : Prop where
  rules : ∀ entry ∈ rules, ∀ limit value, platform.lookup entry.1 = .found limit →
    entry.2.active conversions limit = true → document.lookup entry.1 = .found value →
    entry.2.satisfied conversions limit value = true
  minimum : ∀ value, document.lookup pwLenPath = .found value →
    Rule.minimum.satisfied conversions (.num NIST_MIN_PASSWORD_LENGTH) value = true

theorem Enforced.complies {conversions : Conversions} {platform before : Json}
    (enforced : Enforced before (constraints conversions platform) state) :
    Complies conversions platform state.result := by
  constructor
  · intro entry member limit value isLimit active found
    have typed := typed_found enforced.typed member found
    have passed : settleAll (checksFor entry.1 (constraints conversions platform)) value =
        .ok value := by
      apply settleAll_passes
      intro check isCheck
      simp only [checksFor, List.mem_map, List.mem_filter, decide_eq_true_eq] at isCheck
      obtain ⟨constraint, ⟨isConstraint, atPath⟩, rfl⟩ := isCheck
      exact enforced.passes constraint isConstraint value (atPath ▸ found)
    rw [(settled_satisfied member isLimit active (clone_of_typed typed) passed).2]
    exact enforceable_of_typed typed
  · intro value found
    have isRule : (pwLenPath, Rule.minimum) ∈ rules := by
      simp only [rules, List.mem_append, List.mem_map]
      exact Or.inl (Or.inl ⟨_, minLength_floor.1, rfl⟩)
    obtain ⟨number, rfl⟩ := typed_number (Or.inl rfl) (typed_found enforced.typed isRule found)
    have passed := enforced.passes (pwLenPath, checkMinLength conversions)
      (by simp [constraints]) _ found
    exact decide_eq_true ((minLength_passes_iff _).mp passed)

theorem Enforced.reported_iff {conversions : Conversions} {platform before : Json}
    (platformTyped : wellTyped (getNestedValue platform) = true)
    (enforced : Enforced before (constraints conversions platform) state) (path : Path) :
    (∃ violation ∈ state.violations, violation.field = path) ↔
      state.result.held path ≠ before.held path := by
  constructor
  · rintro ⟨violation, isReported, rfl⟩ same
    obtain ⟨constraint, isConstraint, atPath, value, settled, isValue, fails, isSettled⟩ :=
      enforced.reported violation isReported
    obtain ⟨rule, member, _⟩ := constraints_mend conversions platformTyped constraint isConstraint
    have settledLeaf :=
      (typed_leaf (typed_found enforced.typed (atPath ▸ member) isSettled)).1
    have unchanged := (Json.held_found_iff settledLeaf).mpr isSettled
    rw [same, Json.held_found_iff settledLeaf, isValue, Lookup.found.injEq] at unchanged
    subst unchanged
    exact fails (enforced.passes constraint isConstraint value (by rw [atPath]; exact isSettled))
  · intro changed
    by_contra unreported
    exact changed (enforced.unreported path (by simpa using unreported))

/-- `enforceConstraints` ends with a document that complies with the platform and that it does
not change again; it changes what each path of its violations holds, and nothing else, so
nothing that no rule names. -/
theorem enforceConstraints_projects (conversions : Conversions) (platform : PlatformConfig)
    (overrides : OverrideDocument) :
    ∃ constrained,
      enforceConstraints conversions overrides.content (some platform.config) = .ok constrained ∧
      Complies conversions platform.config constrained.result ∧
      enforceConstraints conversions constrained.result (some platform.config) =
        .ok { result := constrained.result, violations := [] } ∧
      (∀ path, (∃ violation ∈ constrained.violations, violation.field = path) ↔
        constrained.result.held path ≠ overrides.content.held path) ∧
      ∀ path, path ∉ rules.map Prod.fst →
        constrained.result.held path = overrides.content.held path := by
  have start : Enforced overrides.content [] ⟨overrides.content, []⟩ :=
    { typed := overrides.typed
      serialized := overrides.serialized
      passes := nofun
      reported := nofun
      unreported := fun _ _ => rfl }
  have mends := constraints_mend conversions platform.typed
  obtain ⟨constrained, enforces, enforced⟩ := start.run mends
  rw [List.nil_append] at enforced
  refine ⟨constrained, ?_, enforced.complies, ?_, enforced.reported_iff platform.typed, ?_⟩
  · rw [enforceConstraints, overrides.serialized]
    exact enforces
  · rw [enforceConstraints, enforced.serialized]
    exact enforceAll_quiet enforced.passes
  · intro path notNamed
    apply enforced.unreported
    rintro violation isReported rfl
    obtain ⟨constraint, isConstraint, atPath, _⟩ := enforced.reported violation isReported
    obtain ⟨rule, member, _⟩ := mends constraint isConstraint
    exact notNamed (List.mem_map.mpr ⟨_, member, atPath⟩)

theorem mfa_projects :
    ∃ constrained, enforceConstraints plainConversions (atPath (.bool false) mfaPath)
        (some (atPath (.bool true) mfaPath)) = .ok constrained ∧
      Complies plainConversions (atPath (.bool true) mfaPath) constrained.result ∧
      constrained.violations.map (·.field) = [mfaPath] := by
  let overrides : OverrideDocument :=
    ⟨atPath (.bool false) mfaPath, by decide +kernel, by simp [atPath, mfaPath, Json.clone]⟩
  obtain ⟨constrained, enforces, complies, _⟩ :=
    enforceConstraints_projects plainConversions ⟨atPath (.bool true) mfaPath, by decide +kernel⟩
      overrides
  have reported : (enforceConstraints plainConversions overrides.content
      (some (atPath (.bool true) mfaPath))).toOption.map (·.violations.map (·.field)) =
        some [mfaPath] := by
    decide +kernel
  rw [enforces] at reported
  exact ⟨constrained, enforces, complies, Option.some.inj reported⟩

/-- An access token of two hours where the platform allows one: it is cut, and reported. -/
example :
    let hours (seconds : JsNumber) : Json :=
      .obj ["oidc"] fun _ => .obj ["token_ttl"] fun _ => .obj ["access_token"] fun _ => .num seconds
    (enforceConstraints plainConversions (hours 7200) (some (hours 3600))).toOption.map
        (fun constrained => constrained.violations.map (·.field)) =
      some [["oidc", "token_ttl", "access_token"]] := by
  decide +kernel

end ParakoId.TenantOverrides
