import ParakoId.TenantOverrides.Saving

/-!
When the effective configuration of a tenant is at least as strict as the platform, right
after a save.
-/

namespace ParakoId.TenantOverrides

open Json (Path Conversions Lookup)
open Config (getNestedValue setNestedValue mergeConfig)

def NotWeakened (conversions : Conversions) (platform effective : Json) : Prop :=
  ∀ entry ∈ rules, ∀ limit, getNestedValue platform entry.1 = some limit →
    entry.2.active conversions limit = true →
    ∃ value, getNestedValue effective entry.1 = some value ∧
      entry.2.satisfied conversions limit value = true

def compliesWith (conversions : Conversions) (rule : Rule) (limit : Json) : Lookup → Bool
  | .absent => true
  | .blocked => false
  | .found value => rule.satisfied conversions limit value

/-- Under every active platform value, the value submitted for the rule, if any, can be brought
into line; a section that is carried over from the existing document is in line already. -/
def KeepsRules (conversions : Conversions) (overrides platform : Json) (existing : Option Json) :
    Prop :=
  ∀ entry ∈ rules, ∀ limit, getNestedValue platform entry.1 = some limit →
    entry.2.active conversions limit = true →
    (SubmitsSection overrides (entry.1.headD "") →
      ∀ value, submitted overrides entry.1 = some value →
        entry.2.enforceable conversions value.clone = true) ∧
    (¬SubmitsSection overrides (entry.1.headD "") →
      compliesWith conversions entry.2 limit
        ((carriedSections existing).lookup entry.1) = true)

theorem numeric_obj (conversions : Conversions) (keys : List String) (value : String → Json) :
    numeric conversions (.obj keys value) = none := by
  simp only [numeric, Json.toNumber]
  split <;> rfl

theorem active_notObject {conversions : Conversions} {rule : Rule} {limit : Json}
    (active : rule.active conversions limit = true) : limit.isObject = false := by
  cases limit with
  | obj keys value => cases rule <;> simp [Rule.active, numeric_obj] at active
  | _ => rfl

theorem active_satisfied {conversions : Conversions} {rule : Rule} {limit : Json}
    (active : rule.active conversions limit = true) :
    rule.satisfied conversions limit limit = true := by
  cases rule with
  | flag =>
    cases limit with
    | bool enabled => exact active
    | _ => simp [Rule.active] at active
  | minimum =>
    simp only [Rule.active] at active
    split at active
    · rename_i value isNumber
      simp [Rule.satisfied, isNumber]
    · simp at active
  | maximum zeroMeansUnlimited =>
    simp only [Rule.active] at active
    split at active
    · rename_i value isNumber
      have zero : JsNumber.finite value = 0 ↔ value = 0 := JsNumber.finite.injEq value 0 ▸ Iff.rfl
      simpa [Rule.satisfied, isNumber, zero] using active
    · simp at active
  | verification =>
    cases limit with
    | str level => simpa [Rule.active, Rule.satisfied] using active
    | _ => simp [Rule.active] at active

theorem effective_iff {conversions : Conversions} {platform stored limit : Json} {field : Path}
    {rule : Rule} (member : (field, rule) ∈ rules) (storedObject : stored.isObject = true)
    (found : getNestedValue platform field = some limit)
    (active : rule.active conversions limit = true) :
    (∃ value, getNestedValue (mergeConfig platform stored) field = some value ∧
        rule.satisfied conversions limit value = true) ↔
      compliesWith conversions rule limit (stored.lookup field) = true := by
  have merged := Config.lookup_mergeConfig (Config.getNestedValue_some.mp found)
    (active_notObject active) storedObject (rules_safe member) (allowed_nonempty (rules_allowed member))
  simp only [Config.getNestedValue_some, merged]
  cases stored.lookup field with
  | absent => simp [compliesWith, active_satisfied active]
  | blocked | found _ => simp [compliesWith]

/-- An accepted save leaves a configuration at least as strict as the platform exactly when
the submitted values of its rules are enforceable and the sections it carries over comply. -/
theorem saved_overrides_iff (environment : Environment) (overrides platform stored : Json)
    (existing : Option Json)
    (accepted : saveOverrides environment overrides (some platform) existing = .ok stored) :
    NotWeakened environment.conversions platform (mergeConfig platform stored) ↔
      KeepsRules environment.conversions overrides platform existing := by
  obtain ⟨constrained, constrains, saves⟩ := bind_ok accepted
  obtain ⟨stages⟩ := constrain_stages constrains
  refine forall_congr' fun entry => forall_congr' fun member => forall_congr' fun limit =>
    forall_congr' fun found => forall_congr' fun active => ?_
  obtain ⟨field, rule⟩ := entry
  obtain ⟨name, rest, rfl⟩ := List.exists_cons_of_ne_nil (allowed_nonempty (rules_allowed member))
  have settled := stages.lookup_constrained member
  have isOpen : constrained.result.lookup (name :: rest) ≠ .blocked := by
    cases isSubmitted : submitted overrides (name :: rest) with
    | none =>
      rw [isSubmitted] at settled
      simp [settled]
    | some value =>
      rw [isSubmitted] at settled
      obtain ⟨value, isValue, _⟩ := settled
      simp [isValue]
  obtain ⟨storedObject, isStored⟩ := lookup_documentToSave saves member isOpen
  rw [effective_iff member storedObject found active]
  simp only [isStored, stages.sections name, sanitized_section_iff]
  by_cases submits : SubmitsSection overrides name
  · simp only [submits, if_true, List.headD_cons, true_implies, not_true_eq_false, false_implies,
      and_true]
    cases isSubmitted : submitted overrides (name :: rest) with
    | none =>
      rw [isSubmitted] at settled
      simp [settled, compliesWith, Lookup.map]
    | some value =>
      rw [isSubmitted] at settled
      obtain ⟨stored, isConstrained, inLine⟩ := settled
      obtain ⟨serialized, satisfied⟩ := inLine limit (Config.getNestedValue_some.mp found) active
      simp [isConstrained, compliesWith, Lookup.map, serialized, satisfied]
  · simp [submits]

def plainConversions : Conversions where
  stringToNumber text := if text = "" then some 0 else text.toNat?.map fun value => .finite value
  numberToString
    | .finite value => toString value
    | .infinity => "Infinity"
    | .negInfinity => "-Infinity"

def plainEnvironment : Environment where
  conversions := plainConversions
  applicationOverride := .ok
  applicationConfig := .ok
  oidcDiscovery := .ok
  invalidType expected _ := "Invalid input: expected " ++ expected
  ensureEncrypted text := .ok ("ENCRYPTED:v1:" ++ text)

def mfaPath : Path := ["security", "authentication", "multi_factor", "enabled"]

def atPath (value : Json) : Path → Json
  | [] => value
  | key :: rest => Json.object [(key, atPath value rest)]

theorem isOk_of_toBool {α : Type} {result : Except String α} (ok : result.toBool = true) :
    ∃ value, result = .ok value := by
  cases result with
  | error message => simp [Except.toBool] at ok
  | ok value => exact ⟨value, rfl⟩

theorem rules_mfa : (mfaPath, Rule.flag) ∈ rules := by decide +kernel

theorem saved_overrides_of_false : ∃ stored,
    saveOverrides plainEnvironment (atPath (.bool false) mfaPath)
      (some (atPath (.bool true) mfaPath)) none = .ok stored ∧
    (NotWeakened plainConversions (atPath (.bool true) mfaPath)
        (mergeConfig (atPath (.bool true) mfaPath) stored) ↔
      KeepsRules plainConversions (atPath (.bool false) mfaPath) (atPath (.bool true) mfaPath)
        none) := by
  have accepts : (saveOverrides plainEnvironment (atPath (.bool false) mfaPath)
      (some (atPath (.bool true) mfaPath)) none).toBool = true := by decide +kernel
  obtain ⟨stored, accepted⟩ := isOk_of_toBool accepts
  exact ⟨stored, accepted, saved_overrides_iff _ _ _ _ _ accepted⟩

theorem null_disables_mfa : ∃ stored,
    saveOverrides plainEnvironment (atPath .null mfaPath) (some (atPath (.bool true) mfaPath)) none =
      .ok stored ∧
    ¬NotWeakened plainConversions (atPath (.bool true) mfaPath)
      (mergeConfig (atPath (.bool true) mfaPath) stored) := by
  have isDisabled : (match saveOverrides plainEnvironment (atPath .null mfaPath)
        (some (atPath (.bool true) mfaPath)) none with
      | .ok stored => (getNestedValue (mergeConfig (atPath (.bool true) mfaPath) stored)
          mfaPath).all fun value => !value.truthy
      | .error _ => false) = true := by decide +kernel
  split at isDisabled
  · rename_i stored accepted
    refine ⟨stored, accepted, ?_⟩
    intro kept
    obtain ⟨value, found, satisfied⟩ :=
      kept (mfaPath, .flag) rules_mfa (.bool true) rfl rfl
    rw [found] at isDisabled
    simp only [Rule.satisfied] at satisfied
    simp [satisfied] at isDisabled
  · simp at isDisabled

end ParakoId.TenantOverrides
