import ParakoId.TenantOverrides.Settling

/-!
What a saved document holds at the path of a rule, through every stage of `saveOverrides`,
and what the merge with the platform makes of it.
-/

namespace ParakoId.TenantOverrides

open Json (Path Conversions Lookup)
open Config (getNestedValue setNestedValue mergeConfig)

theorem rules_paths : ∀ entry ∈ rules,
    entry.1 ∈ ALLOWED_TENANT_FIELDS ∧ (∀ key ∈ entry.1, key ∉ Config.BLOCKED_KEYS) ∧
      entry.1 ∉ TENANT_SENSITIVE_FIELDS ∧ Json.apart ["application"] entry.1 = true ∧
      (Json.apart ["oidc"] entry.1 = true ∨
        ∃ ttl ∈ TOKEN_TTL_LABELS, entry.1 = ["oidc", "token_ttl", ttl.1]) := by
  decide +kernel

theorem tables_paths :
    (∀ floor ∈ FLOOR_CONSTRAINTS, floor.1 ∈ ALLOWED_TENANT_FIELDS) ∧
      (∀ field ∈ CEILING_CONSTRAINTS, field ∈ ALLOWED_TENANT_FIELDS) ∧
      (∀ field ∈ TENANT_SENSITIVE_FIELDS, field ∈ ALLOWED_TENANT_FIELDS ∧ 2 ≤ field.length) ∧
      (TOKEN_TTL_LABELS.map Prod.fst).Nodup := by
  decide +kernel

variable {field : Path} {rule : Rule} {data overrides : Json} {environment : Environment}

section

variable (member : (field, rule) ∈ rules)
include member

theorem rules_allowed : field ∈ ALLOWED_TENANT_FIELDS :=
  (rules_paths _ member).1

theorem rules_safe : ∀ key ∈ field, key ∉ Config.BLOCKED_KEYS :=
  (rules_paths _ member).2.1

theorem rules_notSensitive : field ∉ TENANT_SENSITIVE_FIELDS :=
  (rules_paths _ member).2.2.1

theorem rules_notApplication : Json.apart ["application"] field = true :=
  (rules_paths _ member).2.2.2.1

theorem rules_oidc :
    Json.apart ["oidc"] field = true ∨
      ∃ ttl ∈ TOKEN_TTL_LABELS, field = ["oidc", "token_ttl", ttl.1] :=
  (rules_paths _ member).2.2.2.2

end

theorem constraints_allowed {conversions : Conversions} {platform : Json}
    {constraint : Path × Check} (member : constraint ∈ constraints conversions platform) :
    constraint.1 ∈ ALLOWED_TENANT_FIELDS := by
  obtain ⟨floors, ceilings, _⟩ := tables_paths
  simp only [constraints, List.mem_append, List.mem_map, List.mem_cons, List.not_mem_nil,
    or_false] at member
  rcases member with (⟨floor, isFloor, rfl⟩ | rfl | ⟨field, isCeiling, rfl⟩) | rfl
  · exact floors floor isFloor
  · exact floors _ minLength_floor.1
  · exact ceilings field isCeiling
  · have inRules : (uvPath, Rule.verification) ∈ rules := by simp [rules]
    exact rules_allowed inRules

theorem sensitive_allowed : ∀ field ∈ TENANT_SENSITIVE_FIELDS, field ∈ ALLOWED_TENANT_FIELDS :=
  fun field member => (tables_paths.2.2.1 field member).1

theorem sensitive_nested : ∀ field ∈ TENANT_SENSITIVE_FIELDS, 2 ≤ field.length :=
  fun field member => (tables_paths.2.2.1 field member).2

def SameSections (first second : Json) : Prop :=
  ∀ name, (first.property name).isSome = (second.property name).isSome

theorem withSection_sections {name : String} (present : (overrides.property name).isSome) :
    SameSections (withSection name data overrides) overrides :=
  fun other => Json.property_write_isSome present other

theorem lookup_withSection {name : String} (separate : Json.apart [name] field = true)
    (isOpen : overrides.lookup field ≠ .blocked) :
    (withSection name data overrides).lookup field = overrides.lookup field :=
  Json.lookup_write_apart data overrides separate isOpen

theorem normalizeApplication_ok {normalized : Json} {platformConfig : Option Json}
    (ok : normalizeApplicationOverride environment overrides platformConfig = .ok normalized) :
    normalized = overrides ∨ ∃ data, (overrides.property "application").isSome ∧
      normalized = withSection "application" data overrides := by
  simp only [normalizeApplicationOverride] at ok
  split at ok
  · left
    simpa using ok.symm
  · rename_i application present
    right
    obtain ⟨data, _, ok⟩ := bind_ok ok
    refine ⟨data, by simp [present], ?_⟩
    split at ok
    · split at ok
      · obtain ⟨_, _, ok⟩ := bind_ok ok
        simpa [pure, Except.pure] using ok.symm
      · simpa [pure, Except.pure] using ok.symm
    · simpa [pure, Except.pure] using ok.symm

theorem parseFields_lookup {fields : List (String × Schema)} {input : Json}
    {entries : List (String × Json)} (ok : parseFields fields input = .ok entries)
    (distinct : (fields.map Prod.fst).Nodup) :
    (∀ name, name ∉ fields.map Prod.fst → entries.lookup name = none) ∧
      ∀ field ∈ fields, match input.property field.1 with
        | none => entries.lookup field.1 = none
        | some value => ∃ data, field.2 value = .ok data ∧ entries.lookup field.1 = some data := by
  induction fields generalizing entries with
  | nil =>
    simp only [parseFields, Except.ok.injEq] at ok
    subst ok
    simp
  | cons first rest ih =>
    obtain ⟨name, schema⟩ := first
    simp only [List.map_cons, List.nodup_cons] at distinct
    cases present : input.property name with
    | none =>
      simp only [parseFields, present] at ok
      obtain ⟨others, parsed⟩ := ih ok distinct.2
      refine ⟨fun other absent => others other fun later => absent (by simp [later]), ?_⟩
      intro field member
      rcases List.mem_cons.mp member with rfl | later
      · simpa [present] using others name distinct.1
      · exact parsed field later
    | some value =>
      simp only [parseFields, present] at ok
      obtain ⟨data, isData, ok⟩ := bind_ok ok
      obtain ⟨tail, isTail, ok⟩ := bind_ok ok
      simp only [pure, Except.pure, Except.ok.injEq] at ok
      subst ok
      obtain ⟨others, parsed⟩ := ih isTail distinct.2
      constructor
      · intro other absent
        simp only [List.map_cons, List.mem_cons, not_or] at absent
        simp [List.lookup_cons, beq_eq_false_iff_ne.mpr absent.1, others other absent.2]
      · intro field member
        rcases List.mem_cons.mp member with rfl | later
        · simp [present, isData]
        · have different : field.1 ≠ name := fun same =>
            distinct.1 (same ▸ List.mem_map_of_mem later)
          simpa [List.lookup_cons, beq_eq_false_iff_ne.mpr different] using parsed field later

theorem lookup_object (entries : List (String × Json)) (name : String) (rest : Path) :
    (Json.object entries).lookup (name :: rest) = match entries.lookup name with
      | some value => value.lookup rest
      | none => .absent := by
  have member : name ∈ entries.map Prod.fst ↔ (entries.lookup name).isSome := by
    induction entries with
    | nil => simp
    | cons first others ih =>
      obtain ⟨key, value⟩ := first
      by_cases same : name = key
      · simp [same]
      · simp only [List.map_cons, List.mem_cons, same, false_or, ih, List.lookup_cons,
          beq_eq_false_iff_ne.mpr same]
  simp only [Json.object, Json.lookup_obj, member]
  cases entries.lookup name <;> simp

theorem objectSchema_lookup {fields : List (String × Schema)} {input : Json} {name : String}
    {schema : Schema} {rest : Path} (ok : objectSchema environment fields input = .ok data)
    (distinct : (fields.map Prod.fst).Nodup) (member : (name, schema) ∈ fields)
    (keeps : ∀ value parsed, schema value = .ok parsed → parsed.lookup rest = value.lookup rest) :
    data.lookup (name :: rest) = input.lookup (name :: rest) := by
  simp only [objectSchema] at ok
  split at ok
  · rename_i isObject
    obtain ⟨entries, parsed, rfl⟩ := map_ok ok
    have atField := (parseFields_lookup parsed distinct).2 (name, schema) member
    rw [lookup_object]
    cases input with
    | obj keys value =>
      by_cases present : name ∈ keys
      · simp only [Json.property, present, if_true] at atField
        obtain ⟨data, isData, found⟩ := atField
        simp [found, present, keeps _ _ isData]
      · simp only [Json.property, present, if_false] at atField
        simp [atField, present]
    | _ => simp [Json.isObject] at isObject
  · simp at ok

theorem tokenTtl_distinct : (TOKEN_TTL_LABELS.map Prod.fst).Nodup := tables_paths.2.2.2

theorem oidcTokenTtl_ok {label : String} {value : Json}
    (ok : oidcTokenTtlSchema environment label value = .ok data) : data = value := by
  simp only [oidcTokenTtlSchema] at ok
  split at ok
  · split at ok
    · exact (Except.ok.inj ok).symm
    · simp at ok
  · simp at ok

theorem oidcOverride_lookup {oidc : Json} {ttl : String × String}
    (ok : OidcOverrideSchema environment oidc = .ok data) (member : ttl ∈ TOKEN_TTL_LABELS) :
    data.lookup ["token_ttl", ttl.1] = oidc.lookup ["token_ttl", ttl.1] := by
  have tokenTtl (value parsed : Json) (isParsed : objectSchema environment
      (TOKEN_TTL_LABELS.map fun ttl => (ttl.1, oidcTokenTtlSchema environment ttl.2)) value =
        .ok parsed) : parsed.lookup [ttl.1] = value.lookup [ttl.1] := by
    refine objectSchema_lookup isParsed ?_ (List.mem_map_of_mem member) ?_
    · simpa [List.map_map, Function.comp_def] using tokenTtl_distinct
    · exact fun _ _ isValue => by rw [oidcTokenTtl_ok isValue]
  refine objectSchema_lookup ok (by simp) ?_ tokenTtl
  simp

theorem normalizeOidc_ok {normalized : Json}
    (ok : normalizeOidcOverride environment overrides = .ok normalized) :
    normalized = overrides ∨ ∃ oidc data, overrides.property "oidc" = some oidc ∧
      OidcOverrideSchema environment oidc = .ok data ∧
      normalized = withSection "oidc" data overrides := by
  simp only [normalizeOidcOverride] at ok
  split at ok
  · left
    simpa using ok.symm
  · rename_i oidc present
    right
    obtain ⟨data, isData, ok⟩ := bind_ok ok
    exact ⟨oidc, data, present, isData, by simpa [pure, Except.pure] using ok.symm⟩

theorem lookup_normalizeOidc {normalized : Json}
    (ok : normalizeOidcOverride environment overrides = .ok normalized)
    (member : (field, rule) ∈ rules) (isOpen : overrides.lookup field ≠ .blocked) :
    normalized.lookup field = overrides.lookup field := by
  rcases normalizeOidc_ok ok with rfl | ⟨oidc, data, present, isData, rfl⟩
  · rfl
  · rcases rules_oidc member with separate | ⟨ttl, isTtl, rfl⟩
    · exact lookup_withSection separate isOpen
    · have kept := oidcOverride_lookup isData isTtl
      cases overrides with
      | obj keys value =>
        have inKeys : "oidc" ∈ keys := by
          by_contra missing
          simp [Json.property, missing] at present
        have isOidc : value "oidc" = oidc := by simpa [Json.property, inKeys] using present
        simpa [withSection, setNestedValue, Json.write, inKeys, isOidc] using kept
      | _ => simp [Json.property] at present

theorem setNestedValue_sections {json value new : Json} {path : Path}
    (found : json.lookup path = .found value) (nonempty : path ≠ []) :
    SameSections (setNestedValue json path new) json := by
  obtain ⟨key, rest, rfl⟩ := List.exists_cons_of_ne_nil nonempty
  exact fun name => Json.property_write_isSome (Json.property_isSome_of_found found) name

theorem enforceField_sections {check : Check} {state next : Constrained} (nonempty : field ≠ [])
    (enforced : enforceField field check state = .ok next) :
    SameSections next.result state.result := by
  have unchanged : state = next → SameSections next.result state.result := by
    rintro rfl _
    rfl
  simp only [enforceField] at enforced
  split at enforced
  · exact unchanged (Except.ok.inj enforced)
  · exact unchanged (Except.ok.inj enforced)
  · rename_i value notNull found
    obtain ⟨outcome, _, isNext⟩ := map_ok enforced
    cases outcome with
    | none => exact unchanged isNext
    | some violation =>
      rw [← isNext]
      exact setNestedValue_sections (Config.getNestedValue_some.mp found) nonempty

theorem enforceAll_sections {constraints : List (Path × Check)} {state final : Constrained}
    (nonempty : ∀ constraint ∈ constraints, constraint.1 ≠ [])
    (enforced : enforceAll constraints state = .ok final) :
    SameSections final.result state.result := by
  induction constraints generalizing state with
  | nil =>
    simp only [enforceAll, List.foldlM_nil, pure, Except.pure, Except.ok.injEq] at enforced
    subst enforced
    exact fun _ => rfl
  | cons constraint rest ih =>
    simp only [enforceAll, List.foldlM_cons] at enforced
    obtain ⟨next, first, others⟩ := bind_ok enforced
    have kept := enforceField_sections (nonempty constraint List.mem_cons_self) first
    have later := ih (fun other member => nonempty other (List.mem_cons_of_mem _ member)) others
    exact fun name => (later name).trans (kept name)

theorem encryptField_ok {existingData : Option Json} {fieldPath : Path} {result encrypted : Json}
    (ok : encryptField environment existingData fieldPath result = .ok encrypted) :
    encrypted = result ∨ encrypted = Json.remove fieldPath result ∨
      ∃ old new, result.lookup fieldPath = .found old ∧
        encrypted = setNestedValue result fieldPath new := by
  simp only [encryptField] at ok
  split at ok
  · rename_i text found
    have here := Config.getNestedValue_some.mp found
    split at ok
    · exact Or.inl (Except.ok.inj ok).symm
    · split at ok
      · split at ok
        · split at ok
          · exact Or.inr (Or.inr ⟨_, _, here, (Except.ok.inj ok).symm⟩)
          · exact Or.inr (Or.inl (Except.ok.inj ok).symm)
        · exact Or.inr (Or.inl (Except.ok.inj ok).symm)
      · split at ok
        · exact Or.inr (Or.inr ⟨_, _, here, (Except.ok.inj ok).symm⟩)
        · simp at ok
  · exact Or.inl (Except.ok.inj ok).symm

theorem lookup_encryptFields {existingData : Option Json} {fields : List Path} {encrypted : Json}
    {path : Path}
    (ok : fields.foldlM (fun result fieldPath =>
      encryptField environment existingData fieldPath result) data = .ok encrypted)
    (separate : ∀ field ∈ fields, Json.apart field path = true)
    (isOpen : data.lookup path ≠ .blocked) : encrypted.lookup path = data.lookup path := by
  induction fields generalizing data with
  | nil =>
    simp only [List.foldlM_nil, pure, Except.pure, Except.ok.injEq] at ok
    rw [ok]
  | cons field rest ih =>
    simp only [List.foldlM_cons] at ok
    obtain ⟨next, first, others⟩ := bind_ok ok
    have apartField := separate field List.mem_cons_self
    have kept : next.lookup path = data.lookup path := by
      rcases encryptField_ok first with rfl | rfl | ⟨old, new, _, rfl⟩
      · rfl
      · exact Json.lookup_remove_apart _ apartField
      · exact Json.lookup_write_apart _ _ apartField isOpen
    have restSeparate : ∀ other ∈ rest, Json.apart other path = true :=
      fun other member => separate other (List.mem_cons_of_mem _ member)
    exact (ih others restSeparate (by rwa [kept])).trans kept

theorem encryptFields_sections {existingData : Option Json} {fields : List Path}
    {encrypted : Json}
    (ok : fields.foldlM (fun result fieldPath =>
      encryptField environment existingData fieldPath result) data = .ok encrypted)
    (nested : ∀ field ∈ fields, 2 ≤ field.length) : SameSections encrypted data := by
  induction fields generalizing data with
  | nil =>
    simp only [List.foldlM_nil, pure, Except.pure, Except.ok.injEq] at ok
    rw [ok]
    exact fun _ => rfl
  | cons field rest ih =>
    simp only [List.foldlM_cons] at ok
    obtain ⟨next, first, others⟩ := bind_ok ok
    have long := nested field List.mem_cons_self
    have later := ih others fun other member => nested other (List.mem_cons_of_mem _ member)
    intro name
    rw [later name]
    rcases encryptField_ok first with rfl | rfl | ⟨old, new, found, rfl⟩
    · rfl
    · match field, long with
      | key :: other :: deeper, _ => exact Json.property_remove_isSome _ _ _ _ _
    · exact setNestedValue_sections found (by rintro rfl; simp at long) name

structure ConstrainStages (environment : Environment) (overrides platform : Json)
    (constrained : Constrained) where
  applied : Json
  normalized : Json
  application : normalizeApplicationOverride environment (sanitized overrides) (some platform) =
    .ok applied
  oidc : normalizeOidcOverride environment applied = .ok normalized
  enforced : enforceAll (constraints environment.conversions platform)
    { result := normalized.clone, violations := [] } = .ok constrained

theorem constrain_stages {platform : Json} {constrained : Constrained}
    (ok : constrainOverrides environment overrides (some platform) = .ok constrained) :
    Nonempty (ConstrainStages environment overrides platform constrained) := by
  simp only [constrainOverrides] at ok
  obtain ⟨_, _, ok⟩ := bind_ok ok
  obtain ⟨_, _, ok⟩ := bind_ok ok
  obtain ⟨_, _, ok⟩ := bind_ok ok
  obtain ⟨applied, application, ok⟩ := bind_ok ok
  obtain ⟨normalized, oidc, ok⟩ := bind_ok ok
  obtain ⟨_, _, enforced⟩ := bind_ok ok
  exact ⟨applied, normalized, application, oidc, enforced⟩

section Stages

variable {environment : Environment} {overrides platform : Json} {constrained : Constrained}
  {field : Path} {rule : Rule}

section

variable (stages : ConstrainStages environment overrides platform constrained)
include stages

theorem ConstrainStages.lookup_normalized (member : (field, rule) ∈ rules) :
    stages.normalized.lookup field = ofOption (submitted overrides field) := by
  have start := lookup_sanitized overrides (rules_allowed member)
  have startOpen : (sanitized overrides).lookup field ≠ .blocked := by
    rw [start]
    cases submitted overrides field <;> simp [ofOption]
  have applied : stages.applied.lookup field = (sanitized overrides).lookup field := by
    rcases normalizeApplication_ok stages.application with same | ⟨data, _, same⟩
    · rw [same]
    · rw [same]
      exact lookup_withSection (rules_notApplication member) startOpen
  rw [lookup_normalizeOidc stages.oidc member (by rwa [applied]), applied, start]

theorem ConstrainStages.sections : SameSections constrained.result (sanitized overrides) := by
  have applied : SameSections stages.applied (sanitized overrides) := by
    rcases normalizeApplication_ok stages.application with same | ⟨data, present, same⟩
    · rw [same]
      exact fun _ => rfl
    · rw [same]
      exact withSection_sections present
  have normalized : SameSections stages.normalized stages.applied := by
    rcases normalizeOidc_ok stages.oidc with same | ⟨oidc, data, present, _, same⟩
    · rw [same]
      exact fun _ => rfl
    · rw [same]
      exact withSection_sections (by simp [present])
  have enforced := enforceAll_sections
    (fun constraint isConstraint => allowed_nonempty (constraints_allowed isConstraint))
    stages.enforced
  intro name
  rw [enforced name, Json.property_clone_isSome, normalized name, applied name]

/-- A constrained document holds a submitted value at the path of a rule; under an active
platform value it is brought into line exactly if it is enforceable. -/
theorem ConstrainStages.lookup_constrained (member : (field, rule) ∈ rules) :
    match submitted overrides field with
    | none => constrained.result.lookup field = .absent
    | some value => ∃ settled, constrained.result.lookup field = .found settled ∧
        ∀ limit, platform.lookup field = .found limit →
          rule.active environment.conversions limit = true →
          settled.clone = settled ∧ rule.satisfied environment.conversions limit settled =
            rule.enforceable environment.conversions value.clone := by
  have start : stages.normalized.clone.lookup field =
      (ofOption (submitted overrides field)).map Json.clone := by
    rw [Json.lookup_clone, stages.lookup_normalized member]
  have startOpen : stages.normalized.clone.lookup field ≠ .blocked := by
    rw [start]
    cases submitted overrides field <;> simp [ofOption, Lookup.map]
  have related : ∀ constraint ∈ constraints environment.conversions platform,
      constraint.1 = field ∨ Json.apart constraint.1 field = true := by
    intro constraint isConstraint
    by_cases same : constraint.1 = field
    · exact Or.inl same
    · exact Or.inr (allowed_apart (constraints_allowed isConstraint) (rules_allowed member) same)
  rcases lookup_enforceAll stages.enforced startOpen related with ⟨before, after⟩ |
    ⟨value, settled, before, steps, after⟩
  · rw [start] at before
    cases isSubmitted : submitted overrides field with
    | none => exact after
    | some value => simp [isSubmitted, ofOption, Lookup.map] at before
  · rw [start] at before
    cases isSubmitted : submitted overrides field with
    | none => simp [isSubmitted, ofOption, Lookup.map] at before
    | some original =>
      simp only [isSubmitted, ofOption, Lookup.map, Lookup.found.injEq] at before
      subst before
      exact ⟨settled, after, fun limit found active =>
        settled_satisfied member found active (Json.clone_clone original) steps⟩

end

end Stages

theorem lookup_mergeSections (existing : Option Json) (encrypted : Json) (name : String)
    (rest : Path) : (mergeSections existing encrypted).lookup (name :: rest) =
      if (encrypted.property name).isSome then encrypted.lookup (name :: rest)
      else (carriedSections existing).lookup (name :: rest) := by
  cases encrypted with
  | obj keys value =>
    by_cases present : name ∈ keys
    · by_cases carried : name ∈ ALLOWED_OVERRIDE_SECTIONS.filter fun name =>
          (storedSection existing name).isSome <;>
        simp_all [mergeSections, carriedSections, Json.property]
    · simp [mergeSections, carriedSections, Json.property, present]
  | _ => simp [mergeSections, carriedSections, Json.property]

theorem lookup_documentToSave {existing : Option Json} {constrained document : Json}
    {name : String} {rest : Path}
    (ok : documentToSave environment existing constrained = .ok document)
    (member : (name :: rest, rule) ∈ rules)
    (isOpen : constrained.lookup (name :: rest) ≠ .blocked) :
    document.isObject = true ∧ document.lookup (name :: rest) =
      if (constrained.property name).isSome then
        (constrained.lookup (name :: rest)).map Json.clone
      else (carriedSections existing).lookup (name :: rest) := by
  obtain ⟨encrypted, encryption, ok⟩ := bind_ok ok
  simp only [pure, Except.pure, Except.ok.injEq] at ok
  subst ok
  have separate : ∀ sensitive ∈ TENANT_SENSITIVE_FIELDS,
      Json.apart sensitive (name :: rest) = true := by
    intro sensitive isSensitive
    refine allowed_apart (sensitive_allowed sensitive isSensitive) (rules_allowed member) ?_
    rintro rfl
    exact rules_notSensitive member isSensitive
  have cloneOpen : constrained.clone.lookup (name :: rest) ≠ .blocked := by
    rw [Json.lookup_clone]
    cases here : constrained.lookup (name :: rest) with
    | blocked => exact (isOpen here).elim
    | absent | found _ => simp [Lookup.map]
  have kept := lookup_encryptFields encryption separate cloneOpen
  have sections := encryptFields_sections encryption sensitive_nested name
  constructor
  · cases encrypted <;> rfl
  · rw [Json.property_clone_isSome] at sections
    simp only [lookup_mergeSections, sections, kept, Json.lookup_clone]

end ParakoId.TenantOverrides
