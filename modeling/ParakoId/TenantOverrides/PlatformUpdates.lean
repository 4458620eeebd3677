import ParakoId.Config.ComputedDefaults
import ParakoId.Library.Runs
import ParakoId.TenantOverrides.PlatformRules

/-! Platform updates and tenant saves in any order. -/

namespace ParakoId.TenantOverrides

open Json (Path Conversions Lookup)
open Config (getNestedValue mergeConfig ComputedContext applyComputedDefaults)

def Rule.typed : Rule → Json → Bool
  | .flag, .bool _ => true
  | .minimum, .num (.finite _) => true
  | .maximum _, .num (.finite _) => true
  | .verification, .str level => decide (level ∈ USER_VERIFICATION_ORDER)
  | _, _ => false

def wellTyped (valueAt : Path → Option Json) : Bool :=
  rules.all fun entry => (valueAt entry.1).all entry.2.typed

structure PlatformConfig where
  config : Json
  typed : wellTyped (getNestedValue config) = true

structure TypedOverrides where
  overrides : Json
  typed : wellTyped (submitted overrides) = true

inductive PendingSave
  | findActive (tenantId : String) (constrained : Json)
  | save (tenantId : String) (document : Json)

def PendingSave.content : PendingSave → Json
  | .findActive _ constrained => constrained
  | .save _ document => document

structure ConfigState where
  platform : PlatformConfig
  documents : String → Option Json
  saves : List PendingSave

inductive ConfigEvent
  | update (config : PlatformConfig)
  | startSave (tenantId : String) (overrides : TypedOverrides)
  | turn (index : Nat)

def configStep (environment : Environment) (state : ConfigState) : ConfigEvent → ConfigState
  | .update config => { state with platform := config }
  | .startSave tenantId submission =>
    match constrainOverrides environment submission.overrides (some state.platform.config) with
    | .ok constrained =>
      { state with saves := state.saves ++ [.findActive tenantId constrained.result] }
    | .error _ => state
  | .turn index =>
    match state.saves[index]? with
    | none => state
    | some (.findActive tenantId constrained) =>
      match documentToSave environment (state.documents tenantId) constrained with
      | .ok document => { state with saves := state.saves.set index (.save tenantId document) }
      | .error _ => { state with saves := state.saves.eraseIdx index }
    | some (.save tenantId document) =>
      { state with
        documents := fun tenant =>
          if tenant = tenantId then some document else state.documents tenant
        saves := state.saves.eraseIdx index }

def freshState (platform : PlatformConfig) : ConfigState :=
  { platform, documents := fun _ => none, saves := [] }

def loadTenantConfig (context : ComputedContext) (cache : Json) (document : Option Json) : Json :=
  applyComputedDefaults context (match loadOverrides document with
    | some overrides => mergeConfig cache.clone overrides
    | none => cache.clone)

/-- The values of a document at the paths of the rules, as they are serialized, satisfy the
active values of the platform. -/
def Meets (conversions : Conversions) (platform document : Json) : Prop :=
  ∀ entry ∈ rules, ∀ value, document.lookup entry.1 = .found value →
    ∀ limit, getNestedValue platform entry.1 = some limit →
      entry.2.active conversions limit = true →
      entry.2.satisfied conversions limit value.clone = true

def Unblocked (document : Json) : Prop := ∀ entry ∈ rules, document.lookup entry.1 ≠ .blocked

def AdmitsOverrides (conversions : Conversions) (state : ConfigState) : ConfigEvent → Prop
  | .update config =>
    (∀ tenantId document, state.documents tenantId = some document →
      Meets conversions config.config document) ∧
    ∀ pending ∈ state.saves, Meets conversions config.config pending.content
  | _ => True

structure InLine (conversions : Conversions) (state : ConfigState) : Prop where
  documents : ∀ tenantId document, state.documents tenantId = some document →
    Unblocked document ∧ Meets conversions state.platform.config document
  saves : ∀ pending ∈ state.saves,
    Unblocked pending.content ∧ Meets conversions state.platform.config pending.content

theorem typed_of_wellTyped {valueAt : Path → Option Json} (typed : wellTyped valueAt = true)
    {entry : Path × Rule} (member : entry ∈ rules) {value : Json}
    (here : valueAt entry.1 = some value) : entry.2.typed value = true := by
  have all := List.all_eq_true.mp typed entry member
  simpa [here] using all

theorem clone_of_typed {rule : Rule} {value : Json} (typed : rule.typed value = true) :
    value.clone = value := by
  cases value with
  | num number => cases number <;> cases rule <;> simp_all [Rule.typed, Json.clone]
  | arr _ _ | obj _ _ => cases rule <;> simp [Rule.typed] at typed
  | _ => rfl

theorem enforceable_of_typed {conversions : Conversions} {rule : Rule} {value : Json}
    (typed : rule.typed value = true) : rule.enforceable conversions value = true := by
  cases rule <;> cases value <;> simp_all [Rule.typed, Rule.enforceable, numeric_num]

theorem constrained_inLine {environment : Environment} {submission : TypedOverrides}
    {platform : Json} {constrained : Constrained}
    (ok : constrainOverrides environment submission.overrides (some platform) = .ok constrained) :
    Unblocked constrained.result ∧
      Meets environment.conversions platform constrained.result := by
  obtain ⟨stages⟩ := constrain_stages ok
  constructor
  · intro entry member
    have settled := stages.lookup_constrained member
    cases isSubmitted : submitted submission.overrides entry.1 with
    | none =>
      rw [isSubmitted] at settled
      simp [settled]
    | some value =>
      rw [isSubmitted] at settled
      obtain ⟨_, found, _⟩ := settled
      simp [found]
  · intro entry member value found limit atRule active
    have settled := stages.lookup_constrained member
    cases isSubmitted : submitted submission.overrides entry.1 with
    | none =>
      rw [isSubmitted] at settled
      simp [settled] at found
    | some original =>
      rw [isSubmitted] at settled
      obtain ⟨result, isResult, inLine⟩ := settled
      rw [isResult, Lookup.found.injEq] at found
      subst found
      have typed := typed_of_wellTyped submission.typed member isSubmitted
      obtain ⟨serialized, satisfied⟩ :=
        inLine limit (Config.getNestedValue_some.mp atRule) active
      rw [serialized, satisfied, clone_of_typed typed]
      exact enforceable_of_typed typed

theorem lookup_carriedSections (document : Option Json) (name : String) (rest : Path) :
    (carriedSections document).lookup (name :: rest) = .absent ∨
      ∃ existing, document = some existing ∧
        ((carriedSections document).lookup (name :: rest) = existing.lookup (name :: rest)) := by
  simp only [carriedSections, Json.lookup_obj, List.mem_filter]
  by_cases carried : name ∈ ALLOWED_OVERRIDE_SECTIONS ∧ (storedSection document name).isSome = true
  · right
    simp only [carried, and_self, if_true]
    cases document with
    | none => simp [storedSection] at carried
    | some existing =>
      refine ⟨existing, rfl, ?_⟩
      cases existing with
      | obj keys value =>
        by_cases present : name ∈ keys
        · cases here : value name <;> simp_all [storedSection, Json.property]
        · simp [storedSection, Json.property, present] at carried
      | _ => simp [storedSection, Json.property] at carried
  · left
    simp only [carried, if_false]

theorem rules_section {field : Path} {rule : Rule} (member : (field, rule) ∈ rules) :
    ∃ name rest, field = name :: rest :=
  List.exists_cons_of_ne_nil (allowed_nonempty (rules_allowed member))

theorem carried_inLine {conversions : Conversions} {platform : Json} {document : Option Json}
    (inLine : ∀ existing, document = some existing →
      Unblocked existing ∧ Meets conversions platform existing) :
    Unblocked (carriedSections document) ∧
      Meets conversions platform (carriedSections document) := by
  constructor
  · intro entry member
    obtain ⟨name, rest, shape⟩ := rules_section member
    rw [shape]
    rcases lookup_carriedSections document name rest with absent | ⟨existing, isDocument, same⟩
    · simp [absent]
    · rw [same, ← shape]
      exact (inLine existing isDocument).1 entry member
  · intro entry member value found
    obtain ⟨name, rest, shape⟩ := rules_section member
    rw [shape] at found
    rcases lookup_carriedSections document name rest with absent | ⟨existing, isDocument, same⟩
    · simp [absent] at found
    · rw [same, ← shape] at found
      exact (inLine existing isDocument).2 entry member value found

theorem document_inLine {environment : Environment} {existing : Option Json}
    {platform constrained document : Json}
    (ok : documentToSave environment existing constrained = .ok document)
    (constrainedInLine : Unblocked constrained ∧ Meets environment.conversions platform constrained)
    (existingInLine : ∀ stored, existing = some stored →
      Unblocked stored ∧ Meets environment.conversions platform stored) :
    Unblocked document ∧ Meets environment.conversions platform document := by
  have carried := carried_inLine existingInLine
  constructor
  · intro entry member
    obtain ⟨name, rest, shape⟩ := rules_section member
    have isOpen := constrainedInLine.1 entry member
    have carriedOpen := carried.1 entry member
    obtain ⟨field, rule⟩ := entry
    simp only at shape
    subst shape
    rw [(lookup_documentToSave ok member isOpen).2]
    split
    · cases here : constrained.lookup (name :: rest) with
      | blocked => exact (isOpen here).elim
      | absent | found _ => simp [Lookup.map]
    · exact carriedOpen
  · intro entry member value found
    obtain ⟨name, rest, shape⟩ := rules_section member
    have isOpen := constrainedInLine.1 entry member
    have meets := constrainedInLine.2 entry member
    have carriedMeets := carried.2 entry member
    obtain ⟨field, rule⟩ := entry
    simp only at shape
    subst shape
    rw [(lookup_documentToSave ok member isOpen).2] at found
    split at found
    · cases here : constrained.lookup (name :: rest) with
      | found original =>
        simp only [here, Lookup.map, Lookup.found.injEq] at found
        subst found
        rw [Json.clone_clone]
        exact meets original here
      | _ => simp [here, Lookup.map] at found
    · exact carriedMeets value found

theorem configStep_inLine {environment : Environment} (state : ConfigState) (event : ConfigEvent)
    (inLine : InLine environment.conversions state)
    (admits : AdmitsOverrides environment.conversions state event) :
    InLine environment.conversions (configStep environment state event) := by
  cases event with
  | update config =>
    constructor
    · intro tenantId document stored
      exact ⟨(inLine.documents tenantId document stored).1, admits.1 tenantId document stored⟩
    · intro pending member
      exact ⟨(inLine.saves pending member).1, admits.2 pending member⟩
  | startSave tenantId submission =>
    simp only [configStep]
    split
    · rename_i constrained ok
      refine ⟨inLine.documents, ?_⟩
      intro pending member
      rcases List.mem_append.mp member with old | new
      · exact inLine.saves pending old
      · rw [List.mem_singleton.mp new]
        exact constrained_inLine ok
    · exact inLine
  | turn index =>
    simp only [configStep]
    split
    · exact inLine
    · rename_i tenantId constrained found
      have pendingInLine := inLine.saves _ (List.mem_of_getElem? found)
      split
      · rename_i document ok
        refine ⟨inLine.documents, ?_⟩
        intro pending member
        rcases List.mem_or_eq_of_mem_set member with old | new
        · exact inLine.saves pending old
        · rw [new]
          exact document_inLine ok pendingInLine (inLine.documents tenantId)
      · exact ⟨inLine.documents, fun pending member =>
          inLine.saves pending (List.mem_of_mem_eraseIdx member)⟩
    · rename_i tenantId document found
      have written := inLine.saves _ (List.mem_of_getElem? found)
      refine ⟨?_, fun pending member => inLine.saves pending (List.mem_of_mem_eraseIdx member)⟩
      intro tenant stored isStored
      simp only at isStored
      split at isStored
      · rw [← Option.some.inj isStored]
        exact written
      · exact inLine.documents tenant stored isStored

theorem rules_notComputed {field : Path} {rule : Rule} (member : (field, rule) ∈ rules) :
    ∀ computed ∈ Config.COMPUTED_PATHS, Json.apart computed field = true := by
  have all : ∀ entry ∈ rules, ∀ computed ∈ Config.COMPUTED_PATHS,
      Json.apart computed entry.1 = true := by decide +kernel
  exact all _ member

theorem loaded_notWeakened {conversions : Conversions} (context : ComputedContext)
    (platform : PlatformConfig) {document : Option Json}
    (inLine : ∀ stored, document = some stored →
      Unblocked stored ∧ Meets conversions platform.config stored) :
    NotWeakened conversions platform.config
      (loadTenantConfig context platform.config document) := by
  intro entry member limit atRule active
  obtain ⟨field, rule⟩ := entry
  have carried := carried_inLine inLine
  have isOpen := carried.1 _ member
  have meets := carried.2 _ member
  have typed := typed_of_wellTyped platform.typed member atRule
  have inClone : platform.config.clone.lookup field = .found limit := by
    rw [Json.lookup_clone, Config.getNestedValue_some.mp atRule]
    simp [Lookup.map, clone_of_typed typed]
  have loaded : ∃ value, (match loadOverrides document with
      | some overrides => mergeConfig platform.config.clone overrides
      | none => platform.config.clone).lookup field = .found value ∧
      rule.satisfied conversions limit value.clone = true := by
    have ownLimit : rule.satisfied conversions limit limit.clone = true := by
      rw [clone_of_typed typed]
      exact active_satisfied active
    simp only [loadOverrides]
    by_cases empty : noKeys (carriedSections document) = true
    · simp only [empty, if_true]
      exact ⟨limit, inClone, ownLimit⟩
    · simp only [empty, Bool.false_eq_true, if_false]
      rw [Config.lookup_mergeConfig inClone (active_notObject active) rfl (rules_safe member)
        (allowed_nonempty (rules_allowed member))]
      cases here : (carriedSections document).lookup field with
      | absent => exact ⟨limit, rfl, ownLimit⟩
      | blocked => exact (isOpen here).elim
      | found value => exact ⟨value, rfl, meets value here limit atRule active⟩
  obtain ⟨value, found, satisfied⟩ := loaded
  refine ⟨value.clone, ?_, satisfied⟩
  rw [Config.getNestedValue_some, loadTenantConfig,
    Config.lookup_applyComputedDefaults context (rules_notComputed member) (by simp [found]), found]
  rfl

/-- In every run whose platform updates still admit the override values stored or in flight,
every loaded tenant configuration is at least as strict as the current platform. -/
theorem platform_rules_along_runs (environment : Environment) (context : ComputedContext)
    (platform : PlatformConfig) (events : List ConfigEvent)
    (allowed : Runs.AllowedFrom (configStep environment)
      (AdmitsOverrides environment.conversions) (freshState platform) events) :
    Runs.AlwaysFrom (configStep environment) (fun state => ∀ tenantId,
      NotWeakened environment.conversions state.platform.config
        (loadTenantConfig context state.platform.config (state.documents tenantId)))
      (freshState platform) events := by
  have initial : InLine environment.conversions (freshState platform) :=
    ⟨by simp [freshState], by simp [freshState]⟩
  have always := Runs.always_of_allowed (configStep environment) configStep_inLine initial allowed
  refine always.mono (configStep environment) ?_
  intro state inLine tenantId
  exact loaded_notWeakened context state.platform (inLine.documents tenantId)

def relaxedPlatform : PlatformConfig := ⟨atPath (.bool false) mfaPath, by decide +kernel⟩

def tightenedPlatform : PlatformConfig := ⟨atPath (.bool true) mfaPath, by decide +kernel⟩

def withoutMfa : TypedOverrides := ⟨atPath (.bool false) mfaPath, by decide +kernel⟩

def plainContext : ComputedContext where
  tenantId := some "acme"
  jwtSecret := "jwt"
  cookieSecrets := ("first", "second")
  hmacSecret := "hmac"
  pairwiseSalt := "salt"
  getHostnameFromUrl _ := "localhost"

def withMfa : TypedOverrides := ⟨atPath (.bool true) mfaPath, by decide +kernel⟩

def savedBeforeUpdate : List ConfigEvent := [.startSave "acme" withMfa, .turn 0, .turn 0]

def savedAroundUpdate : List ConfigEvent :=
  savedBeforeUpdate ++
    [.update tightenedPlatform, .startSave "globex" withoutMfa, .turn 0, .turn 0]

def meetsAll (conversions : Conversions) (platform document : Json) : Bool :=
  rules.all fun entry => (getNestedValue document entry.1).all fun value =>
    (getNestedValue platform entry.1).all fun limit =>
      !entry.2.active conversions limit || entry.2.satisfied conversions limit value.clone

theorem meets_of_all {conversions : Conversions} {platform document : Json}
    (all : meetsAll conversions platform document = true) :
    Meets conversions platform document := by
  intro entry member value found limit atRule active
  have meets := List.all_eq_true.mp all entry member
  simpa [Config.getNestedValue_some.mpr found, atRule, active] using meets

theorem platform_rules_after_update :
    Runs.AlwaysFrom (configStep plainEnvironment) (fun state => ∀ tenantId,
      NotWeakened plainConversions state.platform.config
        (loadTenantConfig plainContext state.platform.config (state.documents tenantId)))
      (freshState relaxedPlatform) savedAroundUpdate := by
  apply platform_rules_along_runs plainEnvironment plainContext
  obtain ⟨document, saved, all⟩ : ∃ document,
      Runs.run (configStep plainEnvironment) (freshState relaxedPlatform) savedBeforeUpdate =
        ⟨relaxedPlatform, fun tenant => if tenant = "acme" then some document else none, []⟩ ∧
      meetsAll plainConversions tightenedPlatform.config document = true :=
    ⟨_, rfl, by decide +kernel⟩
  refine ⟨trivial, trivial, trivial, ?_, trivial, trivial, trivial, trivial⟩
  change AdmitsOverrides plainConversions (Runs.run (configStep plainEnvironment)
    (freshState relaxedPlatform) savedBeforeUpdate) (.update tightenedPlatform)
  rw [saved]
  refine ⟨?_, nofun⟩
  intro tenantId stored isStored
  simp only [Option.ite_none_right_eq_some, Option.some.injEq] at isStored
  rw [← isStored.2]
  exact meets_of_all all

def tightenedAfterSave : List ConfigEvent :=
  [.startSave "acme" withoutMfa, .turn 0, .turn 0, .update tightenedPlatform]

theorem tightening_misses_tenant :
    ¬NotWeakened plainConversions
      (Runs.run (configStep plainEnvironment) (freshState relaxedPlatform)
        tightenedAfterSave).platform.config
      (loadTenantConfig plainContext
        (Runs.run (configStep plainEnvironment) (freshState relaxedPlatform)
          tightenedAfterSave).platform.config
        ((Runs.run (configStep plainEnvironment) (freshState relaxedPlatform)
          tightenedAfterSave).documents "acme")) := by
  intro kept
  obtain ⟨value, found, satisfied⟩ := kept (mfaPath, .flag) rules_mfa (.bool true) rfl rfl
  have isDisabled : ((getNestedValue (loadTenantConfig plainContext
      (Runs.run (configStep plainEnvironment) (freshState relaxedPlatform)
        tightenedAfterSave).platform.config
      ((Runs.run (configStep plainEnvironment) (freshState relaxedPlatform)
        tightenedAfterSave).documents "acme")) mfaPath).all fun value => !value.truthy) = true := by
    decide +kernel
  rw [found] at isDisabled
  simp only [Rule.satisfied] at satisfied
  simp [satisfied] at isDisabled

end ParakoId.TenantOverrides
