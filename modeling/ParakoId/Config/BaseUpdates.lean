import ParakoId.Config.DerivedFields

/-! An update of base fields between two applications of the defaults. -/

namespace ParakoId.Config

open Json (Path)

inductive DerivedField
  | issuer
  | url (path : Path) (suffix : String)
  | name (path : Path)
  | rpId

namespace DerivedField

def path : DerivedField → Path
  | .issuer => ["oidc", "issuer"]
  | .url path _ => path
  | .name path => path
  | .rpId => rpIdPath

def computed (context : ComputedContext) (base : BaseValues) : DerivedField → ComputedField
  | .issuer => issuerField base
  | .url path suffix => urlField base path suffix
  | .name path => nameField base path
  | .rpId => rpIdField context base

@[simp] theorem computed_path (context : ComputedContext) (base : BaseValues)
    (field : DerivedField) : (field.computed context base).1 = field.path := by
  cases field <;> rfl

end DerivedField

def DERIVED_FIELDS : List DerivedField := [
  .issuer,
  .url ["oidc", "discovery", "op_policy_uri"] "/privacy",
  .url ["oidc", "discovery", "op_tos_uri"] "/terms",
  .url ["oidc", "discovery", "service_documentation"] "/docs",
  .url ["integrations", "urls", "website"] "",
  .url ["integrations", "urls", "privacy_policy"] "/privacy",
  .url ["integrations", "urls", "terms_of_service"] "/terms",
  .url ["integrations", "urls", "contact"] "/contact",
  .name ["security", "authentication", "multi_factor", "totp", "issuer_name"],
  .name ["security", "authentication", "multi_factor", "webauthn", "rp_name"],
  .rpId]

theorem derivedFields_computed (context : ComputedContext) (base : BaseValues) :
    DERIVED_FIELDS.map (DerivedField.computed context base) = (computedFields context base).drop 4 :=
  rfl

theorem mem_computedFields (context : ComputedContext) (base : BaseValues) {field : DerivedField}
    (isDerived : field ∈ DERIVED_FIELDS) :
    field.computed context base ∈ computedFields context base := by
  apply List.mem_of_mem_drop (i := 4)
  rw [← derivedFields_computed]
  exact List.mem_map_of_mem isDerived

theorem path_mem {field : DerivedField} (isDerived : field ∈ DERIVED_FIELDS) :
    field.path ∈ COMPUTED_PATHS := by
  have paths : DERIVED_FIELDS.map DerivedField.path = COMPUTED_PATHS.drop 4 := rfl
  apply List.mem_of_mem_drop (i := 4)
  rw [← paths]
  exact List.mem_map_of_mem isDerived

def IsUnset (config : Json) (field : DerivedField) : Prop :=
  isFalsy (getNestedValue config field.path) = true ∨
    match field with
    | .name path => textAt config path "" = "OIDC Provider"
    | .rpId => textAt config rpIdPath "" = "localhost"
    | _ => False

def relyingParty (context : ComputedContext) (base : BaseValues) : String :=
  if base.isTenantContext ∧ base.tenantDomain ≠ "" then base.tenantDomain
  else context.getHostnameFromUrl base.deploymentUrl

def Follows (context : ComputedContext) (config : Json) (before after : BaseValues) :
    DerivedField → Prop
  | .issuer => before.effectiveBaseUrl = "" ∨ after.effectiveBaseUrl ≠ ""
  | .url _ _ => before.effectiveBaseUrl = "" ∨ after.effectiveBaseUrl = before.effectiveBaseUrl
  | .name _ => before.companyName = "OIDC Provider" ∨ after.companyName = before.companyName
  | .rpId => before.effectiveBaseUrl = "" ∨
      if after.effectiveBaseUrl = "" then
        getNestedValue config rpIdPath = some (.str (relyingParty context before))
      else relyingParty context before ∈ ["", "localhost"] ∨
        relyingParty context after = relyingParty context before

structure BaseUpdate (updates : Json) : Prop where
  isObject : updates.isObject = true
  computed : ∀ path ∈ COMPUTED_PATHS, updates.lookup path = .absent
  base : ∀ path ∈ BASE_PATHS, updates.lookup path = .absent ∨
    ∃ leaf, updates.lookup path = .found leaf ∧ leaf.isObject = false

theorem lookup_open {existing updates : Json} {path : Path}
    (isOpen : existing.lookup path ≠ .blocked) (unmentioned : updates.lookup path = .absent) :
    (mergeConfig existing updates).lookup path = existing.lookup path :=
  (lookup_unmentioned unmentioned).resolve_right fun blocked => isOpen blocked.1

theorem basePaths_unblocked : ∀ path ∈ BASE_PATHS, IsUnblocked path := by
  simp only [IsUnblocked]
  decide

section Merged

variable {updates : Json} (isUpdate : BaseUpdate updates)
include isUpdate

theorem sections_merged {config : Json} (sections : HasSections config) :
    HasSections (mergeConfig config updates) := by
  intro path isRead
  rcases List.mem_append.mp isRead with isComputed | isBase
  · rw [lookup_open (sections.computed isComputed) (isUpdate.computed path isComputed)]
    exact sections.computed isComputed
  · rcases isUpdate.base path isBase with unmentioned | ⟨leaf, isFound, isLeaf⟩
    · rw [lookup_open (sections.base isBase) unmentioned]
      exact sections.base isBase
    · rw [leaf_written isUpdate.isObject isFound isLeaf (basePaths_unblocked path isBase)]
      simp

theorem base_merged {first second : Json} (firstSections : HasSections first)
    (secondSections : HasSections second) {path : Path} (isBase : path ∈ BASE_PATHS)
    (same : first.clone.lookup path = second.clone.lookup path) :
    (mergeConfig first updates).clone.lookup path =
      (mergeConfig second updates).clone.lookup path := by
  rw [Json.lookup_clone, Json.lookup_clone] at same ⊢
  rcases isUpdate.base path isBase with unmentioned | ⟨leaf, isFound, isLeaf⟩
  · rwa [lookup_open (firstSections.base isBase) unmentioned,
      lookup_open (secondSections.base isBase) unmentioned]
  · have unblocked := basePaths_unblocked path isBase
    rw [leaf_written isUpdate.isObject isFound isLeaf unblocked,
      leaf_written isUpdate.isObject isFound isLeaf unblocked]

theorem computed_merged {config : Json} (sections : HasSections config) {path : Path}
    (isComputed : path ∈ COMPUTED_PATHS) :
    (mergeConfig config updates).clone.lookup path = config.clone.lookup path := by
  rw [Json.lookup_clone, Json.lookup_clone,
    lookup_open (sections.computed isComputed) (isUpdate.computed path isComputed)]

end Merged

theorem computedLookup_congr {field : ComputedField} (readsOwn : ReadsOwn field)
    {first second : Json} (same : first.lookup field.1 = second.lookup field.1)
    (explicit : first.lookup ["oidc", "issuer_url"] = second.lookup ["oidc", "issuer_url"]) :
    computedLookup field first = computedLookup field second := by
  rw [computedLookup, readsOwn first second same explicit, same, computedLookup]

theorem textAt_found {config : Json} {path : Path} {text : String}
    (isFound : config.lookup path = .found (.str text)) : textAt config path "" = text := by
  rw [textAt, getNestedValue, isFound]
  by_cases empty : text = "" <;> simp [Json.Lookup.toOption, empty]

theorem isFalsy_found {config : Json} {path : Path} {text : String}
    (isFound : config.lookup path = .found (.str text)) :
    isFalsy (getNestedValue config path) = true ↔ text = "" := by
  rw [getNestedValue, isFound]
  simp [Json.Lookup.toOption, isFalsy, Json.truthy]

section Field

variable {context : ComputedContext} {before after : BaseValues} {config stale fresh : Json}

theorem url_follows_iff {path : Path} {suffix : String}
    (unset : isFalsy (getNestedValue config path) = true)
    (based : before.effectiveBaseUrl ≠ "")
    (isStale : stale.lookup path = computedLookup (urlField before path suffix) config)
    (isFresh : fresh.lookup path = config.lookup path) :
    (computedLookup (urlField after path suffix) stale).toOption =
        (computedLookup (urlField after path suffix) fresh).toOption ↔
      after.effectiveBaseUrl = before.effectiveBaseUrl := by
  have isSet : (urlField before path suffix).2 config =
      some (.str (before.effectiveBaseUrl ++ suffix)) := if_pos ⟨based, unset⟩
  rw [computedLookup_some isSet] at isStale
  have keeps : (urlField after path suffix).2 stale = none := by
    apply if_neg
    rw [isFalsy_found isStale]
    simp [based]
  have stillUnset : isFalsy (getNestedValue fresh path) = true := by
    rwa [getNestedValue, isFresh, ← getNestedValue]
  rw [computedLookup_none keeps]
  change (stale.lookup path).toOption = _ ↔ _
  rw [isStale]
  by_cases unbased : after.effectiveBaseUrl = ""
  · have isKept : (urlField after path suffix).2 fresh = none := if_neg (by simp [unbased])
    rw [computedLookup_none isKept, unbased]
    refine iff_of_false ?_ based.symm
    intro same
    have held : getNestedValue fresh path = some (.str (before.effectiveBaseUrl ++ suffix)) :=
      same.symm
    simp [held, isFalsy, Json.truthy, based] at stillUnset
  · have isRefilled : (urlField after path suffix).2 fresh =
        some (.str (after.effectiveBaseUrl ++ suffix)) := if_pos ⟨unbased, stillUnset⟩
    rw [computedLookup_some isRefilled]
    simp only [Json.Lookup.toOption, Option.some.injEq, Json.str.injEq]
    constructor
    · intro same
      exact (String.append_left_inj suffix).mp same.symm
    · intro same
      rw [same]

theorem name_follows_iff {path : Path}
    (unset : isFalsy (getNestedValue config path) = true ∨
      textAt config path "" = "OIDC Provider")
    (named : before.companyName ≠ "")
    (isStale : stale.lookup path = computedLookup (nameField before path) config)
    (isFresh : fresh.lookup path = config.lookup path) :
    (computedLookup (nameField after path) stale).toOption =
        (computedLookup (nameField after path) fresh).toOption ↔
      before.companyName = "OIDC Provider" ∨ after.companyName = before.companyName := by
  have isSet : (nameField before path).2 config = some (.str before.companyName) := if_pos unset
  rw [computedLookup_some isSet] at isStale
  have sameValue : getNestedValue fresh path = getNestedValue config path := by
    rw [getNestedValue, isFresh, getNestedValue]
  have isRefilled : (nameField after path).2 fresh = some (.str after.companyName) := by
    apply if_pos
    rwa [sameValue, textAt_congr sameValue]
  rw [computedLookup_some isRefilled]
  by_cases placeholder : before.companyName = "OIDC Provider"
  · have refills : (nameField after path).2 stale = some (.str after.companyName) := by
      apply if_pos
      rw [textAt_found isStale]
      exact .inr placeholder
    rw [computedLookup_some refills]
    exact iff_of_true rfl (.inl placeholder)
  · have keeps : (nameField after path).2 stale = none := by
      apply if_neg
      rw [isFalsy_found isStale, textAt_found isStale]
      simp [named, placeholder]
    rw [computedLookup_none keeps]
    change (stale.lookup path).toOption = _ ↔ _
    rw [isStale]
    simp [Json.Lookup.toOption, placeholder, eq_comm]

theorem rpId_follows_iff
    (unset : isFalsy (getNestedValue config rpIdPath) = true ∨
      textAt config rpIdPath "" = "localhost")
    (afterBase : after.deploymentUrl = "" ↔ after.effectiveBaseUrl = "")
    (based : before.effectiveBaseUrl ≠ "")
    (isStale : stale.lookup rpIdPath = computedLookup (rpIdField context before) config)
    (isFresh : fresh.lookup rpIdPath = config.lookup rpIdPath) :
    (computedLookup (rpIdField context after) stale).toOption =
        (computedLookup (rpIdField context after) fresh).toOption ↔
      if after.effectiveBaseUrl = "" then
        getNestedValue config rpIdPath = some (.str (relyingParty context before))
      else relyingParty context before ∈ ["", "localhost"] ∨
        relyingParty context after = relyingParty context before := by
  have isSet : (rpIdField context before).2 config = some (.str (relyingParty context before)) :=
    if_pos ⟨.inl based, unset⟩
  rw [computedLookup_some isSet] at isStale
  have sameValue : getNestedValue fresh rpIdPath = getNestedValue config rpIdPath := by
    rw [getNestedValue, isFresh, getNestedValue]
  split
  next unbased =>
    have noBase : ¬(after.effectiveBaseUrl ≠ "" ∨ after.deploymentUrl ≠ "") := by
      simp [afterBase.mpr unbased, unbased]
    have keepsStale : (rpIdField context after).2 stale = none := if_neg fun set => noBase set.1
    have keepsFresh : (rpIdField context after).2 fresh = none := if_neg fun set => noBase set.1
    rw [computedLookup_none keepsStale, computedLookup_none keepsFresh, ← sameValue]
    change (stale.lookup rpIdPath).toOption = getNestedValue fresh rpIdPath ↔ _
    rw [isStale, eq_comm]
    rfl
  next rebased =>
    have isRefilled : (rpIdField context after).2 fresh =
        some (.str (relyingParty context after)) := by
      apply if_pos
      rw [sameValue, textAt_congr sameValue]
      exact ⟨.inl rebased, unset⟩
    rw [computedLookup_some isRefilled]
    by_cases placeholder : relyingParty context before ∈ ["", "localhost"]
    · have refills : (rpIdField context after).2 stale =
          some (.str (relyingParty context after)) := by
        apply if_pos
        rw [isFalsy_found isStale, textAt_found isStale]
        exact ⟨.inl rebased, by simpa using placeholder⟩
      rw [computedLookup_some refills]
      exact iff_of_true rfl (.inl placeholder)
    · have keeps : (rpIdField context after).2 stale = none := by
        apply if_neg
        rw [isFalsy_found isStale, textAt_found isStale]
        rintro ⟨_, isPlaceholder⟩
        exact placeholder (by simpa using isPlaceholder)
      rw [computedLookup_none keeps, or_iff_right placeholder]
      change (stale.lookup rpIdPath).toOption = _ ↔ _
      rw [isStale]
      simp [Json.Lookup.toOption, eq_comm]

theorem issuerField_truthy (config : Json) (based : before.effectiveBaseUrl ≠ "") :
    ∃ issuer, (issuerField before).2 config = some issuer ∧ issuer.truthy = true := by
  have derived : (Json.str (before.effectiveBaseUrl ++ before.oidcPath)).truthy = true := by
    simp [Json.truthy, based]
  dsimp only [issuerField]
  rw [if_neg based]
  split
  next explicitIssuerUrl isExplicit =>
    by_cases truthy : explicitIssuerUrl.truthy = true
    · exact ⟨explicitIssuerUrl, if_pos truthy, truthy⟩
    · exact ⟨_, if_neg truthy, derived⟩
  next => exact ⟨_, rfl, derived⟩

theorem issuer_follows_iff
    (unset : isFalsy (getNestedValue config ["oidc", "issuer"]) = true)
    (based : before.effectiveBaseUrl ≠ "")
    (isStale : stale.lookup ["oidc", "issuer"] = computedLookup (issuerField before) config)
    (isFresh : fresh.lookup ["oidc", "issuer"] = config.lookup ["oidc", "issuer"])
    (explicit : stale.lookup ["oidc", "issuer_url"] = fresh.lookup ["oidc", "issuer_url"]) :
    (computedLookup (issuerField after) stale).toOption =
        (computedLookup (issuerField after) fresh).toOption ↔
      after.effectiveBaseUrl ≠ "" := by
  obtain ⟨issuer, isSet, truthy⟩ := issuerField_truthy config based
  rw [computedLookup_some isSet] at isStale
  by_cases unbased : after.effectiveBaseUrl = ""
  · have keeps (json : Json) : (issuerField after).2 json = none := if_pos unbased
    rw [computedLookup_none (keeps stale), computedLookup_none (keeps fresh)]
    refine iff_of_false ?_ (not_not.mpr unbased)
    intro same
    have held : getNestedValue config ["oidc", "issuer"] = some issuer := by
      rw [getNestedValue, ← isFresh]
      refine same.symm.trans ?_
      change (stale.lookup ["oidc", "issuer"]).toOption = _
      rw [isStale]
      rfl
    simp [held, isFalsy, truthy] at unset
  · have sameValue : (issuerField after).2 stale = (issuerField after).2 fresh := by
      dsimp only [issuerField]
      rw [getNestedValue, explicit, getNestedValue]
    obtain ⟨reissued, isReissued, _⟩ := issuerField_truthy fresh unbased
    rw [computedLookup_some isReissued, computedLookup_some (sameValue.trans isReissued)]
    exact iff_of_true rfl unbased

theorem computedLookup_of_kept {field : DerivedField} (isDerived : field ∈ DERIVED_FIELDS)
    (isStale : stale.lookup field.path = computedLookup (field.computed context before) config)
    (isFresh : fresh.lookup field.path = config.lookup field.path)
    (explicit : stale.lookup ["oidc", "issuer_url"] = fresh.lookup ["oidc", "issuer_url"])
    (isKept : (field.computed context before).2 config = none) :
    computedLookup (field.computed context after) stale =
      computedLookup (field.computed context after) fresh := by
  apply computedLookup_congr
    (computedFields_readOwn context after _ (mem_computedFields context after isDerived)) _ explicit
  rw [DerivedField.computed_path, isStale, computedLookup_none isKept, DerivedField.computed_path,
    isFresh]

theorem follows_iff {field : DerivedField} (isDerived : field ∈ DERIVED_FIELDS)
    (unset : IsUnset config field) (named : before.companyName ≠ "")
    (beforeBase : before.deploymentUrl = "" ↔ before.effectiveBaseUrl = "")
    (afterBase : after.deploymentUrl = "" ↔ after.effectiveBaseUrl = "")
    (isStale : stale.lookup field.path = computedLookup (field.computed context before) config)
    (isFresh : fresh.lookup field.path = config.lookup field.path)
    (explicit : stale.lookup ["oidc", "issuer_url"] = fresh.lookup ["oidc", "issuer_url"]) :
    (computedLookup (field.computed context after) stale).toOption =
        (computedLookup (field.computed context after) fresh).toOption ↔
      Follows context config before after field := by
  have kept (isKept : (field.computed context before).2 config = none) :
      (computedLookup (field.computed context after) stale).toOption =
        (computedLookup (field.computed context after) fresh).toOption :=
    congrArg Json.Lookup.toOption (computedLookup_of_kept isDerived isStale isFresh explicit isKept)
  cases field with
  | name path => exact name_follows_iff unset named isStale isFresh
  | issuer =>
    by_cases unbased : before.effectiveBaseUrl = ""
    · exact iff_of_true (kept (if_pos unbased)) (.inl unbased)
    · rw [Follows, or_iff_right unbased]
      exact issuer_follows_iff ((or_iff_left id).mp unset) unbased isStale isFresh explicit
  | url path suffix =>
    by_cases unbased : before.effectiveBaseUrl = ""
    · exact iff_of_true (kept (if_neg fun filled => filled.1 unbased)) (.inl unbased)
    · rw [Follows, or_iff_right unbased]
      exact url_follows_iff ((or_iff_left id).mp unset) unbased isStale isFresh
  | rpId =>
    by_cases unbased : before.effectiveBaseUrl = ""
    · have noBase : ¬(before.effectiveBaseUrl ≠ "" ∨ before.deploymentUrl ≠ "") := by
        simp [beforeBase.mpr unbased, unbased]
      exact iff_of_true (kept (if_neg fun filled => noBase filled.1)) (.inl unbased)
    · rw [Follows, or_iff_right unbased]
      exact rpId_follows_iff unset afterBase unbased isStale isFresh

end Field

theorem companyName_present (context : ComputedContext) (config : Json) :
    (baseValues context config).companyName ≠ "" := by
  change textAt config ["branding", "companyName"] "Parako.ID" ≠ ""
  rw [textAt]
  split
  next text _ => split <;> simp [*]
  next => decide

theorem deployment_iff (context : ComputedContext) (config : Json) :
    (baseValues context config).deploymentUrl = "" ↔
      (baseValues context config).effectiveBaseUrl = "" := by
  simp only [baseValues]
  split_ifs <;> simp_all

theorem getNestedValue_clone (config : Json) (path : Path) :
    getNestedValue config.clone path = (getNestedValue config path).map Json.clone := by
  rw [getNestedValue, getNestedValue, Json.lookup_clone]
  cases config.lookup path <;> rfl

theorem isUnset_clone {config : Json} {field : DerivedField} (unset : IsUnset config field) :
    IsUnset config.clone field := by
  have falsy (value : Json) (isFalse : value.truthy = false) : value.clone.truthy = false := by
    cases value with
    | num number =>
      cases number with
      | finite value => exact isFalse
      | _ => rfl
    | arr _ _ | obj _ _ => cases isFalse
    | _ => exact isFalse
  refine unset.imp ?_ ?_
  · intro empty
    rw [getNestedValue_clone]
    cases held : getNestedValue config field.path with
    | none => rfl
    | some value =>
      rw [held] at empty
      simpa [isFalsy] using falsy value (by simpa [isFalsy] using empty)
  · cases field with
    | name path => exact (textAt_clone config path "").trans
    | rpId => exact (textAt_clone config rpIdPath "").trans
    | _ => exact id

theorem clone_eq_str {value : Json} {text : String} :
    value.clone = .str text ↔ value = .str text := by
  cases value with
  | num number => cases number <;> simp [Json.clone]
  | _ => simp [Json.clone]

theorem follows_clone (context : ComputedContext) (config : Json) (before after : BaseValues)
    (field : DerivedField) :
    Follows context config.clone before after field ↔ Follows context config before after field := by
  cases field with
  | rpId =>
    have same : getNestedValue config.clone rpIdPath = some (.str (relyingParty context before)) ↔
        getNestedValue config rpIdPath = some (.str (relyingParty context before)) := by
      rw [getNestedValue_clone, Option.map_eq_some_iff]
      simp [clone_eq_str]
    simp only [Follows, same]
  | _ => rfl

/-- For every configuration and every update of base fields: applying the defaults twice changes
nothing, and a derived field that was never set comes out as if they had not been applied before
the update, exactly where it follows the update. -/
theorem derived_follows_iff (context drawn redrawn : ComputedContext) {config updates : Json}
    (sections : HasSections config) (isUpdate : BaseUpdate updates) {field : DerivedField}
    (isDerived : field ∈ DERIVED_FIELDS) (unset : IsUnset config field) :
    (applyComputedDefaults (context.redrawn drawn) (applyComputedDefaults context config) =
        applyComputedDefaults context config ∧
      getNestedValue (applyComputedDefaults (context.redrawn drawn)
          (mergeConfig (applyComputedDefaults context config) updates)) field.path =
        getNestedValue (applyComputedDefaults (context.redrawn redrawn)
          (mergeConfig config updates)) field.path) ↔
      Follows context config (baseValues context config)
        (baseValues context (mergeConfig config updates)) field := by
  rw [and_iff_right (applyComputedDefaults_again context drawn sections)]
  have appliedSections := sections_applied context sections
  have isComputed := path_mem isDerived
  have bases (path : Path) (isBase : path ∈ BASE_PATHS) :
      (mergeConfig (applyComputedDefaults context config) updates).clone.lookup path =
        (mergeConfig config updates).clone.lookup path := by
    apply base_merged isUpdate appliedSections sections isBase
    rw [clone_applied, base_applied context sections isBase]
  have sameBase : baseValues context (mergeConfig (applyComputedDefaults context config) updates) =
      baseValues context (mergeConfig config updates) := by
    rw [← baseValues_clone, ← baseValues_clone context (mergeConfig config updates)]
    apply baseValues_congr
    intro path isBase
    exact textAt_congr (by rw [getNestedValue, bases path isBase, getNestedValue])
  have left := lookup_applied (context.redrawn drawn) (sections_merged isUpdate appliedSections)
    (mem_computedFields _ _ isDerived)
  have right := lookup_applied (context.redrawn redrawn) (sections_merged isUpdate sections)
    (mem_computedFields _ _ isDerived)
  rw [DerivedField.computed_path] at left right
  have isStale : (mergeConfig (applyComputedDefaults context config) updates).clone.lookup
      field.path = computedLookup (field.computed context (baseValues context config))
        config.clone := by
    have applied := lookup_applied context sections
      (mem_computedFields context (baseValues context config) isDerived)
    rw [computed_merged isUpdate appliedSections isComputed, clone_applied]
    rwa [DerivedField.computed_path] at applied
  have isFresh : (mergeConfig config updates).clone.lookup field.path =
      config.clone.lookup field.path := computed_merged isUpdate sections isComputed
  rw [getNestedValue, getNestedValue, left, right, ← follows_clone]
  have sameFields (base : BaseValues) (other : ComputedContext) :
      field.computed (context.redrawn other) base = field.computed context base := by
    cases field <;> rfl
  have sameValues (other : ComputedContext) (json : Json) :
      baseValues (context.redrawn other) json = baseValues context json := rfl
  rw [sameFields, sameFields, sameValues, sameValues, sameBase]
  exact follows_iff isDerived (isUnset_clone unset) (companyName_present context config)
    (deployment_iff context config) (deployment_iff context _) isStale isFresh
    (bases _ (by decide))

def siteAt (url : String) : Json := .object [("deployment", .object [("url", .str url)])]

def platformContext : ComputedContext where
  tenantId := none
  jwtSecret := "j"
  cookieSecrets := ("c", "d")
  hmacSecret := "h"
  pairwiseSalt := "p"
  getHostnameFromUrl _ := "localhost"

theorem siteAt_sections (url : String) : HasSections (siteAt url) := by
  simp [HasSections, COMPUTED_PATHS, BASE_PATHS, rpIdPath, siteAt, Json.object, Json.lookup]

theorem siteAt_update (url : String) : BaseUpdate (siteAt url) where
  isObject := rfl
  computed := by simp [COMPUTED_PATHS, rpIdPath, siteAt, Json.object, Json.lookup]
  base := by simp [BASE_PATHS, siteAt, Json.object, Json.lookup, Json.isObject]

theorem issuer_follows :
    applyComputedDefaults (platformContext.redrawn platformContext)
        (applyComputedDefaults platformContext (siteAt "https://old.test")) =
      applyComputedDefaults platformContext (siteAt "https://old.test") ∧
    getNestedValue (applyComputedDefaults (platformContext.redrawn platformContext)
        (mergeConfig (applyComputedDefaults platformContext (siteAt "https://old.test"))
          (siteAt "https://new.test"))) ["oidc", "issuer"] =
      getNestedValue (applyComputedDefaults (platformContext.redrawn platformContext)
        (mergeConfig (siteAt "https://old.test") (siteAt "https://new.test")))
          ["oidc", "issuer"] := by
  have isDerived : DerivedField.issuer ∈ DERIVED_FIELDS := List.mem_cons_self
  have unset : IsUnset (siteAt "https://old.test") .issuer := .inl rfl
  exact (derived_follows_iff platformContext platformContext platformContext
    (siteAt_sections "https://old.test") (siteAt_update "https://new.test") isDerived unset).mpr
      (.inr (by decide +kernel))

theorem policy_stays_behind :
    ¬∀ field ∈ DERIVED_FIELDS, IsUnset (siteAt "https://old.test") field →
      getNestedValue (applyComputedDefaults platformContext
          (mergeConfig (applyComputedDefaults platformContext (siteAt "https://old.test"))
            (siteAt "https://new.test"))) field.path =
        getNestedValue (applyComputedDefaults platformContext
          (mergeConfig (siteAt "https://old.test") (siteAt "https://new.test"))) field.path := by
  intro follows
  have same := textAt_congr (follows (.url ["oidc", "discovery", "op_policy_uri"] "/privacy")
    (by simp [DERIVED_FIELDS]) (.inl rfl)) ""
  have stale : textAt (applyComputedDefaults platformContext
      (mergeConfig (applyComputedDefaults platformContext (siteAt "https://old.test"))
        (siteAt "https://new.test"))) ["oidc", "discovery", "op_policy_uri"] "" =
      "https://old.test/privacy" := by decide +kernel
  have fresh : textAt (applyComputedDefaults platformContext
      (mergeConfig (siteAt "https://old.test") (siteAt "https://new.test")))
        ["oidc", "discovery", "op_policy_uri"] "" = "https://new.test/privacy" := by decide +kernel
  rw [DerivedField.path, stale, fresh] at same
  exact absurd same (by decide)

end ParakoId.Config
