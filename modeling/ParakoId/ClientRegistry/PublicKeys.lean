import ParakoId.ClientRegistry.Schema

/-! Which keys pass the validation of a client's metadata. -/

namespace ParakoId.ClientRegistry

open Schemas (Fields)

/-- `new URL` reads the text of what it is given. -/
def metadataFields (conversions : Json.Conversions) (data : Json) : Fields := fun name =>
  if name = "jwks_uri" then (data.property name).map fun value =>
    ((value.toText conversions).map Json.str).getD value
  else data.property name

/-- Metadata as it is sent; `null` has no properties to read. -/
def validateMetadata (conversions : Json.Conversions) (tables : Url.Tables) (data : Json)
    (requirePrivateKeyJwtSource : Bool) : Except String (List String) :=
  if data.isNull then .error "Cannot read properties of null (reading 'jwks')"
  else if (data.property "jwks").any Json.isNull then
    .error "Cannot read properties of null (reading 'keys')"
  else
    validateClientKeyMetadata tables (metadataFields conversions data) requirePrivateKeyJwtSource

def PRIVATE_PARAMETERS : List String := ["d", "p", "q", "dp", "dq", "qi", "oth", "k", "priv"]

def keysOf (jwks : Option Json) : List Json :=
  match jwks.bind (·.property "keys") with
  | some (.arr length item) => (List.range length).map item
  | _ => []

def keyType (key : Json) : String :=
  match key.property "kty" with
  | some (.str kty) => kty
  | _ => ""

/-- What is asked of a key whose type, and curve where there is one, the validator knows. -/
def requirementsOf (key : Json) : Option KeyRequirements :=
  (PUBLIC_JWK_REQUIREMENTS (keyType key)).filter fun requirements =>
    match requirements.curves, key.property "crv" with
    | none, _ => true
    | some curves, some (.str crv) => curves.contains crv
    | some _, _ => false

def ParametersFit (key : Json) (requirements : KeyRequirements) : Prop :=
  (∀ parameter ∈ requirements.required, isNonEmptyString (key.property parameter) = true) ∧
  (∀ parameter ∈ requirements.forbidden, key.property parameter = none) ∧
  (∀ parameter ∈ ["alg", "kid", "use"], (key.property parameter).isSome →
    isNonEmptyString (key.property parameter) = true) ∧
  ((key.property "x5c").isSome → areNonEmptyStrings (key.property "x5c") = true)

/-- A key that has what is asked of its type and its curve. -/
structure KeyInOrder (key : Json) : Prop where
  kty : keyType key ≠ "" ∧ keyType key ≠ "oct"
  crv : ∀ requirements, PUBLIC_JWK_REQUIREMENTS (keyType key) = some requirements →
    requirements.curves ≠ none → isNonEmptyString (key.property "crv") = true
  parameters : ∀ requirements, requirementsOf key = some requirements →
    ParametersFit key requirements

theorem parameterErrors_nil {index : Nat} {key : Json} {requirements : KeyRequirements} :
    parameterErrors index key requirements = [] ↔ ParametersFit key requirements := by
  simp only [parameterErrors, ParametersFit, List.append_eq_nil_iff, List.map_eq_nil_iff,
    List.filter_eq_nil_iff, and_assoc, Bool.not_eq_true', Bool.not_eq_false, Bool.and_eq_true,
    not_and, Option.not_isSome_iff_eq_none, ite_eq_right_iff, List.cons_ne_nil, imp_false]

/-- The answer of a check that throws unless what it looks at is known to it, and that has no error
just where that is in order. -/
inductive Judged (known inOrder : Prop) : Except String (List String) → Prop
  | throws {message : String} (unknown : ¬known) : Judged known inOrder (.error message)
  | lists {errors : List String} (isKnown : known) (none : errors = [] ↔ inOrder) :
      Judged known inOrder (.ok errors)

theorem judged_error {known inOrder : Prop} (isKnown : known) (notInOrder : ¬inOrder)
    (message : String) : Judged known inOrder (.ok [message]) :=
  .lists isKnown (iff_of_false (List.cons_ne_nil _ _) notInOrder)

theorem typed_judged (index : Nat) {key : Json} {kty : String}
    (isKty : key.property "kty" = some (.str kty)) (notEmpty : kty ≠ "") (notOct : kty ≠ "oct") :
    Judged (kty ∉ INHERITED_KEYS) (KeyInOrder key) (keyErrors index key) := by
  have isType : keyType key = kty := by simp [keyType, isKty]
  have typed : keyType key ≠ "" ∧ keyType key ≠ "oct" := by simp [isType, notEmpty, notOct]
  simp only [keyErrors, isKty, notEmpty, notOct, if_false]
  cases isKnown : PUBLIC_JWK_REQUIREMENTS kty with
  | none =>
    dsimp only
    by_cases isInherited : kty ∈ INHERITED_KEYS
    · rw [if_pos isInherited]
      exact .throws (not_not.mpr isInherited)
    · rw [if_neg isInherited]
      refine .lists isInherited ⟨fun _ => ⟨typed, ?_, ?_⟩, fun _ => rfl⟩ <;>
        simp [requirementsOf, isType, isKnown]
  | some requirements =>
    have notInherited : kty ∉ INHERITED_KEYS := by
      intro isInherited
      have unknown : ∀ kty ∈ INHERITED_KEYS, PUBLIC_JWK_REQUIREMENTS kty = none := by decide
      rw [unknown kty isInherited] at isKnown
      cases isKnown
    have fits : requirementsOf key = some requirements →
        (requirements.curves ≠ none → isNonEmptyString (key.property "crv") = true) →
        Judged (kty ∉ INHERITED_KEYS) (KeyInOrder key)
          (.ok (parameterErrors index key requirements)) := by
      intro found crv
      refine .lists notInherited ?_
      rw [parameterErrors_nil]
      constructor
      · intro parameters
        refine ⟨typed, fun other isOther => ?_, fun other isOther => ?_⟩
        · rw [isType, isKnown] at isOther
          cases isOther
          exact crv
        · rw [found] at isOther
          cases isOther
          exact parameters
      · exact fun inOrder => inOrder.parameters requirements found
    have noCurve (noCrv : isNonEmptyString (key.property "crv") ≠ true)
        (hasCurves : requirements.curves ≠ none) :=
      judged_error notInherited fun inOrder : KeyInOrder key =>
        noCrv (inOrder.crv requirements (isType ▸ isKnown) hasCurves)
    obtain ⟨required, forbidden, _ | curves⟩ := requirements
    · refine fits ?_ fun hasCurves => absurd rfl hasCurves
      simp [requirementsOf, isType, isKnown, Option.filter]
    have hasCurves : some curves ≠ none := Option.some_ne_none curves
    cases isCrv : key.property "crv" with
    | none => exact noCurve (by simp [isCrv, isNonEmptyString]) hasCurves _
    | some value =>
      cases value with
      | str crv =>
        dsimp only
        by_cases isEmpty : crv = ""
        · rw [if_pos isEmpty]
          exact noCurve (by simp [isCrv, isNonEmptyString, isEmpty]) hasCurves _
        have crvGiven : isNonEmptyString (key.property "crv") = true := by
          simp [isCrv, isNonEmptyString, isEmpty]
        rw [if_neg isEmpty]
        by_cases isCurve : crv ∈ curves
        · rw [if_neg (by simpa using isCurve)]
          refine fits ?_ fun _ => crvGiven
          simp [requirementsOf, isType, isKnown, isCrv, isCurve, Option.filter]
        · rw [if_pos (by simpa using isCurve)]
          refine .lists notInherited
            ⟨fun _ => ⟨typed, fun _ _ _ => crvGiven, ?_⟩, fun _ => rfl⟩
          simp [requirementsOf, isType, isKnown, isCrv, isCurve, Option.filter]
      | _ => exact noCurve (by simp [isCrv, isNonEmptyString]) hasCurves _

/-- A key throws by its type alone, and has no error exactly if it is in order. -/
theorem keyErrors_judged (index : Nat) (key : Json) :
    Judged (keyType key ∉ INHERITED_KEYS) (KeyInOrder key) (keyErrors index key) := by
  have noType (isType : keyType key = "") (message : String) :
      Judged (keyType key ∉ INHERITED_KEYS) (KeyInOrder key) (.ok [message]) :=
    judged_error (by rw [isType]; decide) (fun inOrder => inOrder.kty.1 isType) message
  cases isKty : key.property "kty" with
  | none =>
    rw [keyErrors, isKty]
    exact noType (by simp [keyType, isKty]) _
  | some value =>
    cases value with
    | str kty =>
      have isType : keyType key = kty := by simp [keyType, isKty]
      by_cases isEmpty : kty = ""
      · subst isEmpty
        rw [keyErrors, isKty]
        exact noType isType _
      by_cases isOct : kty = "oct"
      · subst isOct
        rw [keyErrors, isKty]
        exact judged_error (by rw [isType]; decide) (fun inOrder => inOrder.kty.2 isType) _
      rw [isType]
      exact typed_judged index isKty isEmpty isOct
    | _ =>
      rw [keyErrors, isKty]
      exact noType (by simp [keyType, isKty]) _

theorem mapM_judged {known inOrder : Nat → Prop} {answer : Nat → Except String (List String)}
    (each : ∀ index, Judged (known index) (inOrder index) (answer index)) (indices : List Nat) :
    Judged (∀ index ∈ indices, known index) (∀ index ∈ indices, inOrder index)
      ((indices.mapM answer).map List.flatten) := by
  induction indices with
  | nil => exact .lists (by simp) (by simp)
  | cons index rest ih =>
    rw [List.mapM_cons]
    have first := each index
    generalize answer index = answered at first ⊢
    generalize rest.mapM answer = answers at ih ⊢
    cases first with
    | throws unknown => exact .throws fun all => unknown (all index List.mem_cons_self)
    | lists isKnown none =>
      cases answers with
      | error message =>
        cases ih with
        | throws unknown =>
          exact .throws fun all => unknown fun other isOther =>
            all other (List.mem_cons_of_mem _ isOther)
      | ok found =>
        cases ih with
        | lists areKnown noneLater =>
          refine .lists (List.forall_mem_cons.mpr ⟨isKnown, areKnown⟩) ?_
          rw [List.forall_mem_cons, ← none, ← noneLater]
          exact List.append_eq_nil_iff

/-- Not every key of a set that is no list of objects is looked at. -/
def KeysListed (keys : List Json) : Prop :=
  keys ≠ [] ∧ ∀ key ∈ keys, isPlainObject key = true

theorem keySetErrors_judged (jwks : Json) :
    Judged (KeysListed (keysOf (some jwks)) →
        ∀ key ∈ keysOf (some jwks), keyType key ∉ INHERITED_KEYS)
      (KeysListed (keysOf (some jwks)) ∧ ∀ key ∈ keysOf (some jwks), KeyInOrder key)
      (keySetErrors (some jwks)) := by
  by_cases listed : KeysListed (keysOf (some jwks))
  · obtain ⟨length, item, isItem, isKeys⟩ : ∃ length item,
        jwks.property "keys" = some (.arr length item) ∧
          keysOf (some jwks) = (List.range length).map item := by
      cases found : jwks.property "keys" with
      | none => exact absurd (by simp [keysOf, found]) listed.1
      | some value =>
        cases value with
        | arr length item => exact ⟨length, item, rfl, by simp [keysOf, found]⟩
        | _ => exact absurd (by simp [keysOf, found]) listed.1
    have each := listed
    rw [isKeys] at each ⊢
    have isSet : keySetErrors (some jwks) =
        ((List.range length).mapM fun index => keyErrors index (item index)).map List.flatten := by
      simp only [keySetErrors, isItem]
      apply if_neg
      rintro (isEmpty | notPlain)
      · exact each.1 (by simp [isEmpty])
      · simp only [List.any_eq_true, Bool.not_eq_true'] at notPlain
        obtain ⟨index, isIndex, notPlain⟩ := notPlain
        simp [each.2 (item index) (List.mem_map_of_mem isIndex)] at notPlain
    rw [isSet]
    simp only [each, true_and, forall_const, List.forall_mem_map]
    exact mapM_judged (fun index => keyErrors_judged index (item index)) _
  · have isSet : keySetErrors (some jwks) =
        .ok ["jwks must contain at least one public JSON Web Key"] := by
      cases found : jwks.property "keys" with
      | none => simp [keySetErrors, found]
      | some value =>
        cases value with
        | arr length item =>
          simp only [keySetErrors, found]
          apply if_pos
          simp only [KeysListed, keysOf, Option.bind_some, found, List.forall_mem_map, ne_eq,
            List.map_eq_nil_iff, List.range_eq_nil, not_and_or, not_not, not_forall] at listed
          refine listed.imp id ?_
          rintro ⟨index, isIndex, notPlain⟩
          exact List.any_eq_true.mpr ⟨index, isIndex, by simpa using notPlain⟩
        | _ => simp [keySetErrors, found]
    rw [isSet]
    exact judged_error (fun isListed => absurd isListed listed) (fun inOrder => listed inOrder.1) _

def AlgorithmFits (authMethod : Option Json) : Option Json → Prop
  | none => True
  | some (.str algorithm) => algorithm ≠ "" ∧
      (authMethod = some (.str "private_key_jwt") ∧ ¬"HS".toList.isPrefixOf algorithm.toList ∨
        authMethod = some (.str "client_secret_jwt") ∧ "HS".toList.isPrefixOf algorithm.toList)
  | some _ => False

/-- Metadata that is as it should be, and whose keys have what is asked of their types. -/
structure MetadataInOrder (tables : Url.Tables) (fields : Fields) (required : Bool) : Prop where
  one_source : ¬((fields "jwks").isSome ∧ (fields "jwks_uri").isSome)
  uri : ∀ uri, fields "jwks_uri" = some uri → isSafeHttpUri tables uri = true
  algorithm : AlgorithmFits (fields "token_endpoint_auth_method")
    (fields "token_endpoint_auth_signing_alg")
  keys : (fields "jwks").isSome → KeysListed (keysOf (fields "jwks")) ∧
    ∀ key ∈ keysOf (fields "jwks"), KeyInOrder key
  source : required = true → fields "token_endpoint_auth_method" = some (.str "private_key_jwt") →
    (fields "jwks").isSome ∨ (fields "jwks_uri").isSome

theorem algorithmErrors_nil (authMethod algorithm : Option Json) :
    algorithmErrors authMethod algorithm = [] ↔ AlgorithmFits authMethod algorithm := by
  rcases algorithm with _ | algorithm
  · simp [algorithmErrors, AlgorithmFits]
  cases algorithm with
  | str algorithm =>
    by_cases isEmpty : algorithm = ""
    · simp [algorithmErrors, AlgorithmFits, isEmpty]
    simp only [algorithmErrors, AlgorithmFits, isEmpty, if_false, ne_eq, not_false_eq_true,
      true_and]
    split
    · split <;> simp_all
    · split <;> simp_all
    · rename_i notPrivate notSecret
      simp only [List.cons_ne_nil, false_iff, not_or, not_and]
      exact ⟨fun isPrivate => absurd isPrivate notPrivate,
        fun isSecret => absurd isSecret notSecret⟩
  | _ => simp [algorithmErrors, AlgorithmFits]

theorem isSome_of_key {jwks : Option Json} {key : Json} (isKey : key ∈ keysOf jwks) :
    jwks.isSome := by
  cases jwks with
  | none => cases isKey
  | some _ => rfl

theorem validate_judged (tables : Url.Tables) (fields : Fields) (required : Bool) :
    Judged (KeysListed (keysOf (fields "jwks")) →
        ∀ key ∈ keysOf (fields "jwks"), keyType key ∉ INHERITED_KEYS)
      (MetadataInOrder tables fields required)
      (validateClientKeyMetadata tables fields required) := by
  have keySet : Judged (KeysListed (keysOf (fields "jwks")) →
        ∀ key ∈ keysOf (fields "jwks"), keyType key ∉ INHERITED_KEYS)
      ((fields "jwks").isSome → KeysListed (keysOf (fields "jwks")) ∧
        ∀ key ∈ keysOf (fields "jwks"), KeyInOrder key) (keySetErrors (fields "jwks")) := by
    cases fields "jwks" with
    | none => exact .lists (fun listed => absurd rfl listed.1) (by simp)
    | some jwks => simpa using keySetErrors_judged jwks
  rw [validateClientKeyMetadata]
  generalize keySetErrors (fields "jwks") = answer at keySet ⊢
  cases keySet with
  | throws unknown => exact .throws unknown
  | lists isKnown noKeyError =>
    refine .lists isKnown ?_
    refine (List.append_eq_nil_iff.trans (and_congr Iff.rfl (d := required = true →
        fields "token_endpoint_auth_method" = some (.str "private_key_jwt") →
          (fields "jwks").isSome ∨ (fields "jwks_uri").isSome) ?_)).trans ?_
    · split
      · rename_i isPrivate
        cases required <;> cases fields "jwks" <;> cases fields "jwks_uri" <;> simp [isPrivate]
      · rename_i notPrivate
        simp only [true_iff]
        exact fun _ isPrivate => absurd isPrivate notPrivate
    · simp only [List.append_eq_nil_iff, algorithmErrors_nil, noKeyError, and_assoc,
        ite_eq_right_iff, List.cons_ne_nil, imp_false, Bool.and_eq_true, Option.any_eq_true,
        Bool.not_eq_true', not_exists, not_and, Bool.not_eq_false]
      constructor
      · rintro ⟨oneSource, uri, algorithm, keys, source⟩
        exact ⟨fun both => oneSource both.1 both.2, uri, algorithm, keys, source⟩
      · rintro ⟨oneSource, uri, algorithm, keys, source⟩
        exact ⟨fun jwks uri => oneSource ⟨jwks, uri⟩, uri, algorithm, keys, source⟩

theorem public_keys_iff (conversions : Json.Conversions) (tables : Url.Tables) (data : Json)
    (requirePrivateKeyJwtSource : Bool) :
    (∃ errors, validateMetadata conversions tables data requirePrivateKeyJwtSource = .ok errors ∧
      (errors = [] → ∀ key ∈ keysOf (data.property "jwks"), ∀ parameter ∈ PRIVATE_PARAMETERS,
        key.property parameter = none)) ↔
    data.isNull = false ∧ (data.property "jwks").any Json.isNull = false ∧
      (KeysListed (keysOf (data.property "jwks")) →
        ∀ key ∈ keysOf (data.property "jwks"), keyType key ∉ INHERITED_KEYS) ∧
      (MetadataInOrder tables (metadataFields conversions data) requirePrivateKeyJwtSource →
        ∀ key ∈ keysOf (data.property "jwks"), ∀ parameter ∈ PRIVATE_PARAMETERS,
          (∀ requirements, requirementsOf key = some requirements →
            parameter ∉ requirements.forbidden) → key.property parameter = none) := by
  rw [validateMetadata]
  cases isNull : data.isNull with
  | true => simp
  | false =>
    cases isJwksNull : (data.property "jwks").any Json.isNull with
    | true => simp
    | false =>
      simp only [Bool.false_eq_true, if_false, true_and]
      have judged : Judged (KeysListed (keysOf (data.property "jwks")) →
            ∀ key ∈ keysOf (data.property "jwks"), keyType key ∉ INHERITED_KEYS) _ _ :=
        validate_judged tables (metadataFields conversions data) requirePrivateKeyJwtSource
      generalize validateClientKeyMetadata tables (metadataFields conversions data)
        requirePrivateKeyJwtSource = answer at judged ⊢
      cases judged with
      | throws unknown =>
        simp only [reduceCtorEq, false_and, exists_false, false_iff, not_and]
        exact fun known => absurd known unknown
      | lists known inOrder =>
        simp only [Except.ok.injEq, exists_eq_left', inOrder]
        constructor
        · exact fun absent => ⟨known, fun isInOrder key isKey parameter isPrivate _ =>
            absent isInOrder key isKey parameter isPrivate⟩
        · rintro ⟨_, absent⟩ isInOrder key isKey parameter isPrivate
          by_cases lookedFor : ∃ requirements, requirementsOf key = some requirements ∧
              parameter ∈ requirements.forbidden
          · obtain ⟨requirements, found, isForbidden⟩ := lookedFor
            have keys := isInOrder.keys (isSome_of_key isKey)
            exact ((keys.2 key isKey).parameters requirements found).2.1 parameter isForbidden
          · exact absent isInOrder key isKey parameter isPrivate fun requirements found isForbidden =>
              lookedFor ⟨requirements, found, isForbidden⟩

/-- A private key on a curve that the validator does not know, and a type that every object has. -/
theorem unknown_curve_accepted :
    let key (kty : String) : Json := .object [("kty", .str kty), ("crv", .str "secp256k1"),
      ("x", .str "x"), ("y", .str "y"), ("d", .str "secret")]
    let metadata (kty : String) : Json := .object [("jwks", .object [("keys", .array [key kty])])]
    let validate (data : Json) :=
      validateMetadata ⟨fun _ => none, fun _ => ""⟩ ⟨fun _ => none, fun _ => none, fun _ _ => none⟩
        data false
    validate (metadata "EC") = .ok [] ∧
      (key "EC").property "d" = some (.str "secret") ∧
      validate (metadata "constructor") = .error "requirements.required is not iterable" := by
  exact ⟨rfl, rfl, rfl⟩

end ParakoId.ClientRegistry
