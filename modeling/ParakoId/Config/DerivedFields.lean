import ParakoId.Config.ComputedDefaults
import ParakoId.Library.Edits

/-!
What becomes of the computed fields when the defaults are applied again, and when a base field is
updated in between.
-/

namespace ParakoId.Config

open Json (Path)

def BASE_PATHS : List Path := [
  ["deployment", "url"],
  ["oidc", "path"],
  ["branding", "companyName"],
  ["tenant_domain"],
  ["oidc", "issuer_url"]]

/-- No section that `applyComputedDefaults` reads or writes is an array or a scalar. -/
def HasSections (config : Json) : Prop :=
  ∀ path ∈ COMPUTED_PATHS ++ BASE_PATHS, config.lookup path ≠ .blocked

variable {config : Json} {field : ComputedField}

theorem HasSections.computed (sections : HasSections config) {path : Path}
    (isComputed : path ∈ COMPUTED_PATHS) : config.lookup path ≠ .blocked :=
  sections path (List.mem_append_left _ isComputed)

theorem HasSections.base (sections : HasSections config) {path : Path}
    (isBase : path ∈ BASE_PATHS) : config.lookup path ≠ .blocked :=
  sections path (List.mem_append_right _ isBase)

theorem computedPaths_apart :
    COMPUTED_PATHS.Pairwise fun first second => Json.apart first second = true :=
  Json.pairwise_of_separate (show Json.separate 5 COMPUTED_PATHS = true by decide +kernel)

theorem base_apart : ∀ path ∈ BASE_PATHS, ∀ computed ∈ COMPUTED_PATHS,
    Json.apart computed path = true := by decide

def ReadsOwn (field : ComputedField) : Prop :=
  ∀ first second : Json, first.lookup field.1 = second.lookup field.1 →
    first.lookup ["oidc", "issuer_url"] = second.lookup ["oidc", "issuer_url"] →
      field.2 first = field.2 second

theorem computedFields_readOwn (context : ComputedContext) (base : BaseValues) :
    ∀ field ∈ computedFields context base, ReadsOwn field := by
  have value {first second : Json} {path : Path} (same : first.lookup path = second.lookup path) :
      getNestedValue first path = getNestedValue second path := by
    rw [getNestedValue, same, getNestedValue]
  have text {first second : Json} {path : Path} (same : first.lookup path = second.lookup path) :
      textAt first path "" = textAt second path "" := by
    rw [textAt, value same, textAt]
  have secret (path : Path) (generated : Json) : ReadsOwn (secretField path generated) := by
    intro first second same _
    dsimp only [secretField] at same ⊢
    rw [value same]
  have url (path : Path) (suffix : String) : ReadsOwn (urlField base path suffix) := by
    intro first second same _
    dsimp only [urlField] at same ⊢
    rw [value same]
  have name (path : Path) : ReadsOwn (nameField base path) := by
    intro first second same _
    dsimp only [nameField] at same ⊢
    rw [value same, text same]
  have issuer : ReadsOwn (issuerField base) := by
    intro first second _ same
    dsimp only [issuerField]
    rw [value same]
  have rpId : ReadsOwn (rpIdField context base) := by
    intro first second same _
    dsimp only [rpIdField] at same ⊢
    rw [value same, text same]
  simp only [computedFields, List.forall_mem_cons, List.not_mem_nil, false_implies, implies_true,
    and_true]
  exact ⟨secret _ _, secret _ _, secret _ _, secret _ _, issuer, url _ _, url _ _, url _ _, url _ _,
    url _ _, url _ _, url _ _, name _, name _, rpId⟩

def computedLookup (field : ComputedField) (config : Json) : Json.Lookup :=
  match field.2 config with
  | some value => .found value
  | none => config.lookup field.1

theorem computedLookup_some {value : Json} (isSet : field.2 config = some value) :
    computedLookup field config = .found value := by
  rw [computedLookup, isSet]

theorem computedLookup_none (isKept : field.2 config = none) :
    computedLookup field config = config.lookup field.1 := by
  rw [computedLookup, isKept]

theorem computedLookup_open (isOpen : config.lookup field.1 ≠ .blocked) :
    computedLookup field config ≠ .blocked := by
  rw [computedLookup]
  split
  next => simp
  next => exact isOpen

theorem lookup_computeField (isOpen : config.lookup field.1 ≠ .blocked) :
    (computeField config field).lookup field.1 = computedLookup field config := by
  rw [computeField, computedLookup]
  cases field.2 config with
  | none => rfl
  | some value => exact Json.lookup_write_self value config field.1 isOpen

theorem lookup_computed {context : ComputedContext} {base : BaseValues}
    (sections : HasSections config) (isField : field ∈ computedFields context base) :
    ((computedFields context base).foldl computeField config).lookup field.1 =
      computedLookup field config := by
  have readsOwn := computedFields_readOwn context base field isField
  have paths := computedFields_paths context base
  have isComputed : field.1 ∈ COMPUTED_PATHS := by
    rw [← paths]
    exact List.mem_map_of_mem isField
  have apart := computedPaths_apart
  rw [← paths] at apart
  obtain ⟨earlier, later, parts⟩ := List.append_of_mem isField
  rw [parts, List.map_append, List.map_cons, List.pairwise_append, List.pairwise_cons] at apart
  obtain ⟨_, ⟨laterApart, _⟩, earlierApart⟩ := apart
  have isEarlier : ∀ other ∈ earlier, other.1 ∈ COMPUTED_PATHS := by
    intro other member
    rw [← paths, parts]
    exact List.mem_map_of_mem (List.mem_append_left _ member)
  have issuerIsBase : ["oidc", "issuer_url"] ∈ BASE_PATHS := by decide
  have ownKept : (earlier.foldl computeField config).lookup field.1 = config.lookup field.1 := by
    apply lookup_computeFields _ (sections.computed isComputed)
    intro other member
    exact earlierApart other.1 (List.mem_map_of_mem member) field.1 List.mem_cons_self
  have issuerKept : (earlier.foldl computeField config).lookup ["oidc", "issuer_url"] =
      config.lookup ["oidc", "issuer_url"] := by
    apply lookup_computeFields _ (sections.base issuerIsBase)
    intro other member
    exact base_apart _ issuerIsBase _ (isEarlier other member)
  have written : (computeField (earlier.foldl computeField config) field).lookup field.1 =
      computedLookup field config := by
    rw [lookup_computeField (by rw [ownKept]; exact sections.computed isComputed), computedLookup,
      computedLookup, readsOwn _ _ ownKept issuerKept, ownKept]
  have stillOpen := computedLookup_open (sections.computed isComputed)
  rw [parts, List.foldl_append, List.foldl_cons, lookup_computeFields _ (by rwa [written]), written]
  intro other member
  rw [Json.apart_symm]
  exact laterApart other.1 (List.mem_map_of_mem member)

def ComputedContext.redrawn (context drawn : ComputedContext) : ComputedContext :=
  { drawn with tenantId := context.tenantId, getHostnameFromUrl := context.getHostnameFromUrl }

theorem baseValues_congr (context : ComputedContext) {first second : Json}
    (same : ∀ path ∈ BASE_PATHS, ∀ fallback,
      textAt first path fallback = textAt second path fallback) :
    baseValues context first = baseValues context second := by
  have url := same ["deployment", "url"] (by decide) ""
  have oidcPath := same ["oidc", "path"] (by decide) "/oidc/v1"
  have companyName := same ["branding", "companyName"] (by decide) "Parako.ID"
  have tenantDomain := same ["tenant_domain"] (by decide) ""
  simp only [baseValues, url, oidcPath, companyName, tenantDomain]

theorem textAt_congr {first second : Json} {path : Path}
    (same : getNestedValue first path = getNestedValue second path) (fallback : String) :
    textAt first path fallback = textAt second path fallback := by
  rw [textAt, same, textAt]

theorem textAt_clone (config : Json) (path : Path) (fallback : String) :
    textAt config.clone path fallback = textAt config path fallback := by
  rw [textAt, textAt, getNestedValue, getNestedValue, Json.lookup_clone]
  cases config.lookup path with
  | found value =>
    cases value with
    | num number => cases number <;> rfl
    | _ => rfl
  | _ => rfl

theorem baseValues_clone (context : ComputedContext) (config : Json) :
    baseValues context config.clone = baseValues context config :=
  baseValues_congr context fun path _ fallback => textAt_clone config path fallback

theorem HasSections.clone (sections : HasSections config) : HasSections config.clone := by
  intro path isRead blocked
  apply sections path isRead
  rw [Json.lookup_clone] at blocked
  cases here : config.lookup path with
  | blocked => rfl
  | _ => simp [here, Json.Lookup.map] at blocked

section Applied

variable (context drawn : ComputedContext) {config : Json} (sections : HasSections config)
include sections

theorem lookup_applied {field : ComputedField}
    (isField : field ∈ computedFields context (baseValues context config)) :
    (applyComputedDefaults context config).lookup field.1 = computedLookup field config.clone := by
  rw [applyComputedDefaults, baseValues_clone]
  exact lookup_computed sections.clone isField

theorem base_applied {path : Path} (isBase : path ∈ BASE_PATHS) :
    (applyComputedDefaults context config).lookup path = config.clone.lookup path := by
  rw [lookup_applyComputedDefaults context (base_apart path isBase) (sections.base isBase),
    Json.lookup_clone]

theorem sections_applied : HasSections (applyComputedDefaults context config) := by
  intro path isRead
  rcases List.mem_append.mp isRead with isComputed | isBase
  · rw [← computedFields_paths context (baseValues context config)] at isComputed
    obtain ⟨field, isField, rfl⟩ := List.mem_map.mp isComputed
    rw [lookup_applied context sections isField]
    exact computedLookup_open (sections.clone field.1 isRead)
  · rw [base_applied context sections isBase]
    exact sections.clone.base isBase

theorem baseValues_applied :
    baseValues context (applyComputedDefaults context config) = baseValues context config := by
  rw [← baseValues_clone context config]
  apply baseValues_congr
  intro path isBase
  exact textAt_congr (by rw [getNestedValue, base_applied context sections isBase, getNestedValue])

end Applied

theorem clone_found {value : Json} {path : Path} (isJson : config.clone = config)
    (isFound : config.lookup path = .found value) : value.clone = value := by
  have cloned := Json.lookup_clone config path
  rw [isJson, isFound] at cloned
  exact (Json.Lookup.found.inj cloned).symm

theorem clone_computed {context : ComputedContext} {base : BaseValues}
    (isJson : config.clone = config) :
    ∀ field ∈ computedFields context base, ∀ value, field.2 config = some value →
      value.clone = value := by
  have secret (path : Path) {generated : Json} (isText : generated.clone = generated) :
      ∀ value, (secretField path generated).2 config = some value → value.clone = value := by
    intro value isSet
    simp only [secretField, Option.ite_none_right_eq_some, Option.some.injEq] at isSet
    rw [← isSet.2, isText]
  have url (path : Path) (suffix : String) :
      ∀ value, (urlField base path suffix).2 config = some value → value.clone = value := by
    intro value isSet
    simp only [urlField, Option.ite_none_right_eq_some, Option.some.injEq] at isSet
    rw [← isSet.2, Json.clone_str]
  have name (path : Path) :
      ∀ value, (nameField base path).2 config = some value → value.clone = value := by
    intro value isSet
    simp only [nameField, Option.ite_none_right_eq_some, Option.some.injEq] at isSet
    rw [← isSet.2, Json.clone_str]
  have rpId : ∀ value, (rpIdField context base).2 config = some value → value.clone = value := by
    intro value isSet
    simp only [rpIdField, Option.ite_none_right_eq_some, Option.some.injEq] at isSet
    rw [← isSet.2, Json.clone_str]
  have issuer : ∀ value, (issuerField base).2 config = some value → value.clone = value := by
    intro value isSet
    dsimp only [issuerField] at isSet
    split at isSet
    next => cases isSet
    next =>
      split at isSet
      next explicitIssuerUrl isExplicit =>
        split at isSet
        next =>
          cases isSet
          exact clone_found isJson (getNestedValue_some.mp isExplicit)
        next =>
          cases isSet
          rfl
      next =>
        cases isSet
        rfl
  simp only [computedFields, List.forall_mem_cons, List.not_mem_nil, false_implies, implies_true,
    and_true]
  exact ⟨secret _ rfl, secret _ (by simp), secret _ rfl, secret _ rfl, issuer, url _ _, url _ _,
    url _ _, url _ _, url _ _, url _ _, url _ _, name _, name _, rpId⟩

theorem clone_computeFields {context : ComputedContext} {base : BaseValues}
    {fields : List ComputedField} (areFields : fields ⊆ computedFields context base)
    (isJson : config.clone = config) :
    (fields.foldl computeField config).clone = fields.foldl computeField config := by
  induction fields generalizing config with
  | nil => exact isJson
  | cons field rest ih =>
    rw [List.foldl_cons]
    apply ih fun other member => areFields (List.mem_cons_of_mem field member)
    rw [computeField]
    split
    next value isSet =>
      rw [setNestedValue, Json.clone_write, isJson,
        clone_computed isJson field (areFields List.mem_cons_self) value isSet]
    next => exact isJson

theorem clone_applied (context : ComputedContext) (config : Json) :
    (applyComputedDefaults context config).clone = applyComputedDefaults context config :=
  clone_computeFields (List.Subset.refl _) (Json.clone_clone config)

def Settled (field : ComputedField) (config : Json) : Prop :=
  ∀ value, field.2 config = some value → config.lookup field.1 = .found value

theorem computeField_settled (settled : Settled field config) :
    computeField config field = config := by
  rw [computeField]
  split
  next value isValue => exact Json.write_same (settled value isValue)
  next => rfl

theorem computeFields_settled {fields : List ComputedField}
    (settled : ∀ field ∈ fields, Settled field config) :
    fields.foldl computeField config = config := by
  induction fields with
  | nil => rfl
  | cons field rest ih =>
    rw [List.foldl_cons, computeField_settled (settled field List.mem_cons_self)]
    exact ih fun other member => settled other (List.mem_cons_of_mem field member)

section Settling

variable {before after : Json} {context : ComputedContext} {base : BaseValues}

theorem secretField_settled {path : Path} {secret : Json} (other : Json)
    (present : isSecretMissing (some secret) = false)
    (computed : after.lookup path = computedLookup (secretField path secret) before) :
    Settled (secretField path other) after := by
  have stays : isSecretMissing (getNestedValue after path) = false := by
    rw [getNestedValue, computed]
    by_cases missing : isSecretMissing (getNestedValue before path) = true
    · have isSet : (secretField path secret).2 before = some secret := if_pos missing
      rw [computedLookup_some isSet]
      exact present
    · have isKept : (secretField path secret).2 before = none := if_neg missing
      rw [computedLookup_none isKept]
      exact Bool.eq_false_iff.mpr missing
  intro value isSet
  simp [secretField, stays] at isSet

theorem urlField_settled {path : Path} {suffix : String}
    (computed : after.lookup path = computedLookup (urlField base path suffix) before) :
    Settled (urlField base path suffix) after := by
  have stays : ¬(base.effectiveBaseUrl ≠ "" ∧ isFalsy (getNestedValue after path) = true) := by
    rw [getNestedValue, computed]
    by_cases filled : base.effectiveBaseUrl ≠ "" ∧ isFalsy (getNestedValue before path) = true
    · have isSet : (urlField base path suffix).2 before =
          some (.str (base.effectiveBaseUrl ++ suffix)) := if_pos filled
      rw [computedLookup_some isSet]
      simp [Json.Lookup.toOption, isFalsy, Json.truthy, filled.1]
    · have isKept : (urlField base path suffix).2 before = none := if_neg filled
      rw [computedLookup_none isKept]
      exact filled
  intro value isSet
  simp only [urlField, stays, if_false] at isSet
  cases isSet

theorem nameField_settled {path : Path}
    (computed : after.lookup path = computedLookup (nameField base path) before) :
    Settled (nameField base path) after := by
  intro value isSet
  simp only [nameField, Option.ite_none_right_eq_some, Option.some.injEq] at isSet
  obtain ⟨refilled, rfl⟩ := isSet
  by_cases filled : isFalsy (getNestedValue before path) = true ∨
      textAt before path "" = "OIDC Provider"
  · have isSet : (nameField base path).2 before = some (.str base.companyName) := if_pos filled
    exact computed.trans (computedLookup_some isSet)
  · have isKept : (nameField base path).2 before = none := if_neg filled
    have same : getNestedValue after path = getNestedValue before path := by
      rw [getNestedValue, computed, computedLookup_none isKept]
      rfl
    rw [same, textAt_congr same] at refilled
    exact absurd refilled filled

theorem rpIdField_settled
    (computed : after.lookup rpIdPath = computedLookup (rpIdField context base) before) :
    Settled (rpIdField context base) after := by
  intro value isSet
  simp only [rpIdField, Option.ite_none_right_eq_some, Option.some.injEq] at isSet
  obtain ⟨refilled, rfl⟩ := isSet
  by_cases filled : (base.effectiveBaseUrl ≠ "" ∨ base.deploymentUrl ≠ "") ∧
      (isFalsy (getNestedValue before rpIdPath) = true ∨ textAt before rpIdPath "" = "localhost")
  · exact computed.trans (computedLookup_some (if_pos filled))
  · have isKept : (rpIdField context base).2 before = none := if_neg filled
    have same : getNestedValue after rpIdPath = getNestedValue before rpIdPath := by
      rw [getNestedValue, computed, computedLookup_none isKept]
      rfl
    rw [same, textAt_congr same] at refilled
    exact absurd refilled filled

theorem issuerField_settled
    (explicit : after.lookup ["oidc", "issuer_url"] = before.lookup ["oidc", "issuer_url"])
    (computed : after.lookup ["oidc", "issuer"] = computedLookup (issuerField base) before) :
    Settled (issuerField base) after := by
  intro value isSet
  have same : (issuerField base).2 after = (issuerField base).2 before := by
    dsimp only [issuerField]
    rw [getNestedValue, explicit, getNestedValue]
  rw [same] at isSet
  change after.lookup ["oidc", "issuer"] = _
  rw [computed, computedLookup, isSet]

end Settling

theorem applyComputedDefaults_again (context drawn : ComputedContext)
    (sections : HasSections config) :
    applyComputedDefaults (context.redrawn drawn) (applyComputedDefaults context config) =
      applyComputedDefaults context config := by
  have sameBase : baseValues (context.redrawn drawn) (applyComputedDefaults context config) =
      baseValues context config := baseValues_applied context sections
  have explicit := base_applied context sections
    (show ["oidc", "issuer_url"] ∈ BASE_PATHS by decide)
  have held : ∀ field ∈ computedFields context (baseValues context config),
      (applyComputedDefaults context config).lookup field.1 =
        computedLookup field config.clone := fun field isField =>
    lookup_applied context sections isField
  rw [applyComputedDefaults, clone_applied, sameBase]
  apply computeFields_settled
  simp only [computedFields, List.forall_mem_cons, List.not_mem_nil, false_implies, implies_true,
    and_true] at held ⊢
  obtain ⟨jwtSecret, cookieSecrets, hmacSecret, pairwiseSalt, issuer, policy, terms, documentation,
    website, privacy, service, contact, issuerName, rpName, rpId⟩ := held
  exact ⟨secretField_settled _ rfl jwtSecret, secretField_settled _ rfl cookieSecrets,
    secretField_settled _ rfl hmacSecret, secretField_settled _ rfl pairwiseSalt,
    issuerField_settled explicit issuer, urlField_settled policy, urlField_settled terms,
    urlField_settled documentation, urlField_settled website, urlField_settled privacy,
    urlField_settled service, urlField_settled contact, nameField_settled issuerName,
    nameField_settled rpName, rpIdField_settled rpId⟩

end ParakoId.Config
