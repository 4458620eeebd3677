import ParakoId.ClientRegistry.Schema

/-! `Account.claims`: what the ID token and the userinfo endpoint say of a user. -/

namespace ParakoId.OidcFlows

inductive ClaimsUse
  | idToken
  | userinfo
  deriving DecidableEq

structure CustomIdentifierField where
  key : String
  slot : Nat

/-- `isoDay` is what `toISOString` puts in front of its `T`; `now` is `new Date()`. -/
structure ClaimsConfig where
  scopes : List String
  claims : List (String × List String)
  custom_identifiers : Option (List CustomIdentifierField)
  isoDay : Json → Json
  now : Json

/-- What `user[claim]` finds. -/
abbrev UserRecord := String → Option Json

def DEFAULT_CLAIMS : List (String × List String) :=
  [("openid", ["sub"]),
    ("profile", ["name", "family_name", "given_name", "middle_name", "nickname",
      "preferred_username", "profile", "picture", "website", "gender", "birthdate", "zoneinfo",
      "locale", "updated_at"]),
    ("email", ["email", "email_verified"]),
    ("address", ["address", "street_address", "locality", "region", "postal_code", "country",
      "city"]),
    ("phone", ["phone_number", "phone_number_verified"]),
    ("roles", ["roles"]),
    ("preferences", ["prefered_contact", "prefered_dark_theme", "theme"]),
    ("professional", ["auth_provider"]),
    ("account", ["account_enabled", "account_is_anonymized", "register_with", "last_login",
      "blocked_from", "username"]),
    ("mfa", ["mfa_enabled", "mfa_method", "mfa_phone_number"]),
    ("recovery", ["recovery_enabled", "recovery_methods", "recovery_secondary_email"])]

/-- `{ ...entries, ...updates }` -/
def spread (entries updates : List (String × List String)) : List (String × List String) :=
  entries.filter (fun entry => (updates.lookup entry.1).isNone) ++ updates

def ClaimsConfig.customKeys (config : ClaimsConfig) : List String :=
  (config.custom_identifiers.getD []).map CustomIdentifierField.key

def ClaimsConfig.scopeToClaims (config : ClaimsConfig) : List (String × List String) :=
  spread (spread DEFAULT_CLAIMS config.claims) (match config.custom_identifiers with
    | none => []
    | some _ => [("custom_identifiers", config.customKeys)])

def scopesOf (scope : String) : List String :=
  ((scope.toList.splitOn ' ').map String.ofList).filter (· != "")

/-- The claims of a scope; every object has an inherited property, which has no `forEach`. -/
def ClaimsConfig.claimsForScope (config : ClaimsConfig) (scope : String) :
    Option (List String) :=
  match config.scopeToClaims.lookup scope with
  | some claims => some claims
  | none => if scope ∈ ClientRegistry.INHERITED_KEYS then none else some []

def ClaimsConfig.granted (config : ClaimsConfig) (scope : String) : List String :=
  (scopesOf scope).filter fun name => config.scopes.contains name

def present (value : Option Json) : Option Json := value.filter fun json => !json.isNull

def truthy (value : Option Json) : Option Json := value.filter Json.truthy

def enabledMethod (user : UserRecord) (method : String) : Bool :=
  ((((user "mfa").bind (·.property "methods")).bind (·.property method)).bind
    (·.property "enabled")).any Json.truthy

def addressOf (user : UserRecord) : Option Json :=
  let fields := [("street_address", "street_address"), ("locality", "city"), ("region", "region"),
    ("postal_code", "postal_code"), ("country", "country")].filterMap fun (name, field) =>
      (truthy (user field)).map fun value => (name, value)
  if fields.isEmpty then none else some (Json.object fields)

def SLOTS : List String := ["custom_identifier_1", "custom_identifier_2", "custom_identifier_3"]

def claimValue (config : ClaimsConfig) (user : UserRecord) (claim : String) : Option Json :=
  let mfa := (user "mfa").bind fun mfa => truthy (mfa.property "enabled")
  let recovery (key : String) := (user "recovery").bind (·.property key)
  match claim with
  | "updated_at" => some ((truthy (user "updated_at")).getD config.now)
  | "address" => addressOf user
  | "locality" => user "city"
  | "birthdate" => (truthy (user "birthdate")).map config.isoDay
  | "mfa_enabled" => some (mfa.getD (.bool false))
  | "mfa_method" =>
    match truthy ((user "mfa").bind (·.property "preferred_method")) with
    | some method => some method
    | none => (["totp", "webauthn", "email"].find? (enabledMethod user)).map Json.str
  | "mfa_phone_number" => none
  | "recovery_enabled" => some ((truthy (recovery "enabled")).getD (.bool false))
  | "recovery_methods" => some ((truthy (recovery "methods")).getD (.array []))
  | "recovery_secondary_email" => (recovery "secondary_email").bind (·.property "email")
  | other =>
    if other ∈ SLOTS then none
    else
      match (config.custom_identifiers.getD []).find? (·.key == other) with
      | some field => present (user ("custom_identifier_" ++ toString field.slot))
      | none => user other

def ID_TOKEN_DENIED : List String :=
  ["phone_number", "phone_number_verified", "password", "password_hash_algo",
    "reset_password_token", "reset_password_expires", "email_verification_token",
    "email_verification_expires", "blocked_from", "mfa", "mfa_enabled", "mfa_method",
    "mfa_phone_number", "recovery_enabled", "recovery_methods", "recovery_secondary_email",
    "dynamic_flags", "dynamic_metadata"] ++ SLOTS ++ ["username"]

def USERINFO_SCOPES : List (String × List String) :=
  [("phone", ["phone_number", "phone_number_verified"]), ("address", ["address"]),
    ("roles", ["roles"]), ("preferences", ["prefered_contact", "prefered_dark_theme", "theme"]),
    ("professional", ["auth_provider"]),
    ("account", ["account_enabled", "account_is_anonymized", "register_with", "last_login",
      "blocked_from", "username"]),
    ("mfa", ["mfa_enabled", "mfa_method", "mfa_phone_number"]),
    ("recovery", ["recovery_enabled", "recovery_methods", "recovery_secondary_email"])]

def ClaimsConfig.denied (config : ClaimsConfig) (use : ClaimsUse) (scope : String) :
    List String :=
  match use with
  | .idToken => ID_TOKEN_DENIED
  | .userinfo =>
    ((USERINFO_SCOPES ++ [("custom_identifiers", config.customKeys)]).filter fun entry =>
      !(scopesOf scope).contains entry.1).flatMap Prod.snd ++ SLOTS

def ClaimsConfig.byScope (config : ClaimsConfig) (scope : String) : List String :=
  (config.granted scope).flatMap fun name => (config.claimsForScope name).getD []

def ClaimsConfig.byMask (config : ClaimsConfig) (requested : List String) : List String :=
  requested.filter (config.scopeToClaims.flatMap Prod.snd).contains

/-- `requested` are the keys of the mask. The result is `none` where `claims` throws. -/
def claims (config : ClaimsConfig) (accountId : String) (user : UserRecord) (use : ClaimsUse)
    (scope : String) (requested rejected : List String) : Option (String → Option Json) :=
  if (config.granted scope).all fun name => (config.claimsForScope name).isSome then
    let openid := if (scopesOf scope).contains "openid" then ["sub"] else []
    let available := openid ++ config.byScope scope ++ config.byMask requested
    some fun claim =>
      if claim ∈ config.denied use scope then none
      else if claim = "sub" then some (.str accountId)
      else if claim ∈ available ∧ claim ∉ rejected then present (claimValue config user claim)
      else none
  else none

def INTERNAL_FIELDS : List String :=
  ["password", "password_hash_algo", "reset_password_token", "reset_password_expires",
    "email_verification_token", "email_verification_expires", "phone_verification_token",
    "phone_verification_code", "phone_verification_expires", "mfa", "recovery"]

variable {config : ClaimsConfig} {accountId : String} {user : UserRecord} {use : ClaimsUse}
  {scope : String} {requested rejected : List String}

def Offered (config : ClaimsConfig) (scope : String) (requested : List String) (claim : String) :
    Prop :=
  claim ∈ config.byScope scope ∨ claim ∈ config.byMask requested

/-- What is returned but for the subject. -/
theorem returned_iff {result : String → Option Json}
    (isResult : claims config accountId user use scope requested rejected = some result)
    {claim : String} (notSub : claim ≠ "sub") :
    result claim ≠ none ↔ claim ∉ config.denied use scope ∧
      Offered config scope requested claim ∧ claim ∉ rejected ∧
        present (claimValue config user claim) ≠ none := by
  simp only [claims, Option.ite_none_right_eq_some, Option.some.injEq] at isResult
  obtain ⟨_, rfl⟩ := isResult
  have notOpenid : claim ∉ (if (scopesOf scope).contains "openid" then ["sub"] else []) := by
    split <;> simp [notSub]
  by_cases isDenied : claim ∈ config.denied use scope
  · simp [isDenied]
  · simp only [isDenied, notSub, if_false, not_false_eq_true, true_and, List.mem_append, notOpenid,
      false_or, Offered]
    split <;> simp_all

theorem claimValue_slot {field : String} (isSlot : field ∈ SLOTS) :
    claimValue config user field = none := by
  simp only [SLOTS, List.mem_cons, List.not_mem_nil, or_false] at isSlot
  rcases isSlot with rfl | rfl | rfl <;> simp [claimValue, SLOTS]

theorem claimValue_internal {field : String} (isInternal : field ∈ INTERNAL_FIELDS)
    (notCustom : field ∉ config.customKeys) : claimValue config user field = user field := by
  have notFound : (config.custom_identifiers.getD []).find? (·.key == field) = none := by
    rw [List.find?_eq_none]
    intro identifier isIdentifier isKey
    exact notCustom (List.mem_map.mpr ⟨identifier, isIdentifier, by simpa using isKey⟩)
  simp only [INTERNAL_FIELDS, List.mem_cons, List.not_mem_nil, or_false] at isInternal
  rcases isInternal with rfl | rfl | rfl | rfl | rfl | rfl | rfl | rfl | rfl | rfl | rfl <;>
    simp [claimValue, SLOTS, notFound]

theorem userinfo_internal {field : String} (isInternal : field ∈ INTERNAL_FIELDS)
    (notCustom : field ∉ config.customKeys) : field ∉ config.denied .userinfo scope := by
  have notListed : ∀ field ∈ INTERNAL_FIELDS,
      field ∉ USERINFO_SCOPES.flatMap Prod.snd ∧ field ∉ SLOTS := by decide
  simp only [ClaimsConfig.denied, List.mem_append, List.mem_flatMap, List.mem_filter, not_or]
  refine ⟨?_, (notListed field isInternal).2⟩
  rintro ⟨entry, ⟨isEntry | isEntry, _⟩, isField⟩
  · exact (notListed field isInternal).1 (List.mem_flatMap.mpr ⟨entry, isEntry, isField⟩)
  · cases List.mem_singleton.mp isEntry
    exact notCustom isField

theorem claims_released_iff (config : ClaimsConfig) (accountId : String) (user : UserRecord)
    (use : ClaimsUse) (scope : String) (requested rejected : List String) :
    (∀ result, claims config accountId user use scope requested rejected = some result →
      (∀ claim, claim ≠ "sub" → result claim ≠ none →
        claim ∈ config.byScope scope ∨ claim ∈ requested) ∧
      (∀ claim ∈ rejected, result claim = none) ∧
      ∀ field ∈ INTERNAL_FIELDS ++ SLOTS, field ∉ config.customKeys → result field = none) ↔
    (∃ name ∈ config.granted scope, config.claimsForScope name = none) ∨
      ("sub" ∈ rejected → "sub" ∈ config.denied use scope) ∧
      ∀ field ∈ INTERNAL_FIELDS, field ∉ config.customKeys → Offered config scope requested field →
        field ∉ rejected → present (user field) ≠ none →
          use = .idToken ∧ field ∈ ID_TOKEN_DENIED := by
  by_cases throws : ∃ name ∈ config.granted scope, config.claimsForScope name = none
  · refine ⟨fun _ => Or.inl throws, fun _ result isResult => ?_⟩
    obtain ⟨name, isName, isNone⟩ := throws
    simp only [claims, Option.ite_none_right_eq_some, List.all_eq_true] at isResult
    have isSome := isResult.1 name isName
    rw [isNone] at isSome
    cases isSome
  have returns : (config.granted scope).all (fun name => (config.claimsForScope name).isSome) :=
    List.all_eq_true.mpr fun name isName =>
      Option.isSome_iff_ne_none.mpr fun isNone => throws ⟨name, isName, isNone⟩
  obtain ⟨result, isResult⟩ : ∃ result,
      claims config accountId user use scope requested rejected = some result :=
    ⟨_, by rw [claims, if_pos returns]⟩
  have isSub : result "sub" = none ↔ "sub" ∈ config.denied use scope := by
    simp only [claims, if_pos returns, Option.some.injEq] at isResult
    subst isResult
    simp
  have notSub : ∀ field ∈ INTERNAL_FIELDS ++ SLOTS, field ≠ "sub" := by decide
  simp only [isResult, Option.some.injEq, forall_eq', throws, false_or]
  constructor
  · rintro ⟨_, notRejected, notInternal⟩
    refine ⟨fun isRejected => isSub.mp (notRejected _ isRejected), ?_⟩
    intro field isInternal notCustom isOffered isKept isPresent
    have isListed := List.mem_append_left SLOTS isInternal
    have isNone := notInternal field isListed notCustom
    by_contra notDenied
    refine (returned_iff isResult (notSub field isListed)).mpr ?_ isNone
    refine ⟨?_, isOffered, isKept, by rwa [claimValue_internal isInternal notCustom]⟩
    cases use with
    | userinfo => exact userinfo_internal isInternal notCustom
    | idToken => exact fun isDenied => notDenied ⟨rfl, isDenied⟩
  · rintro ⟨subDenied, internalDenied⟩
    refine ⟨?_, ?_, ?_⟩
    · intro claim isOther isReturned
      exact ((returned_iff isResult isOther).mp isReturned).2.1.imp id fun byMask =>
        (List.mem_filter.mp byMask).1
    · intro claim isRejected
      by_cases isSubject : claim = "sub"
      · subst isSubject
        exact isSub.mpr (subDenied isRejected)
      · by_contra isReturned
        exact ((returned_iff isResult isSubject).mp isReturned).2.2.1 isRejected
    · intro field isListed notCustom
      by_contra isReturned
      obtain ⟨notDenied, isOffered, isKept, isPresent⟩ :=
        (returned_iff isResult (notSub field isListed)).mp isReturned
      rcases List.mem_append.mp isListed with isInternal | isSlot
      · rw [claimValue_internal isInternal notCustom] at isPresent
        obtain ⟨rfl, isDenied⟩ := internalDenied field isInternal notCustom isOffered isKept isPresent
        exact notDenied isDenied
      · exact isPresent (by rw [claimValue_slot isSlot]; rfl)

/-- A configuration that names the password, at the userinfo endpoint. -/
theorem password_released :
    (claims ⟨["profile"], [("profile", ["password"])], none, id, .null⟩ "ann"
      (fun field => if field = "password" then some (.str "argon2:") else none) .userinfo "profile"
      [] []).bind (fun result => result "password") = some (.str "argon2:") := by
  rfl

end ParakoId.OidcFlows
