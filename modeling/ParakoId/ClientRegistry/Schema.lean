import ParakoId.Library.Url
import ParakoId.Library.Schemas

/-!
`OidcClientSchema`: what the registry accepts as a client. The tests of the schema package for
URLs and email addresses are parameters, and values are as JSON has them.
-/

namespace ParakoId.ClientRegistry

open Schemas (Fields Check Field Shape)

structure Zod where
  url : String → Option String
  url_again : ∀ {given found}, url given = some found → url found = some found
  email : String → Bool

structure Environment where
  zod : Zod
  tables : Url.Tables

def SUPPORTED_GRANT_TYPES : List String :=
  ["authorization_code", "implicit", "refresh_token", "client_credentials",
    "urn:ietf:params:oauth:grant-type:device_code"]

def SUPPORTED_RESPONSE_TYPES : List String := ["code", "id_token", "code id_token", "none"]

def isJsonWebKey (value : Json) : Bool :=
  match value.property "kty" with
  | some (.str kty) => kty != ""
  | _ => false

def isJsonWebKeySet (value : Json) : Bool :=
  match value.property "keys" with
  | some (.arr length item) => (List.range length).all fun index => isJsonWebKey (item index)
  | _ => false

-- `/^[A-Za-z0-9_-]{1,64}$/u`
def isAlgorithmName (text : String) : Bool :=
  decide (1 ≤ text.toList.length ∧ text.toList.length ≤ 64) && text.toList.all fun character =>
    Url.isAlpha character || Url.isDigit character || character == '_' || character == '-'

section Shape

variable (zod : Zod)

def anyText : Check := .text fun _ => true

def nonempty : Check := .trimmed (· != "")

def url : Check := .reading zod.url zod.url_again

def lifetime : Check := .number fun seconds => decide (60 ≤ seconds ∧ seconds ≤ 3600)

def anyNumber : Check := .number fun _ => true

def clientShape : Shape :=
  [⟨"client_id", nonempty, .required⟩,
    ⟨"client_secret", .text (32 ≤ Text.utf16Length ·), .optional⟩,
    ⟨"client_name", nonempty, .optional⟩,
    ⟨"client_uri", url zod, .optional⟩,
    ⟨"logo_uri", url zod, .optional⟩,
    ⟨"tos_uri", url zod, .optional⟩,
    ⟨"policy_uri", url zod, .optional⟩,
    ⟨"application_type", .oneOf ["web", "native", "spa"], .required⟩,
    ⟨"preset", .oneOf ["web", "spa", "native", "m2m", "device", "api_management"], .optional⟩,
    ⟨"token_endpoint_auth_method",
      .oneOf ["client_secret_basic", "client_secret_post", "client_secret_jwt",
        "private_key_jwt", "none"],
      .default (.str "client_secret_basic") rfl⟩,
    ⟨"token_endpoint_auth_signing_alg", .trimmed isAlgorithmName, .optional⟩,
    ⟨"grant_types", .arrayOf (.oneOf SUPPORTED_GRANT_TYPES),
      .default (.array [.str "authorization_code"]) rfl⟩,
    ⟨"response_types", .arrayOf (.oneOf SUPPORTED_RESPONSE_TYPES),
      .default (.array [.str "code"]) rfl⟩,
    ⟨"redirect_uris", .arrayOf (url zod), .default (.array []) rfl⟩,
    ⟨"post_logout_redirect_uris", .arrayOf (url zod), .default (.array []) rfl⟩,
    ⟨"scope", anyText, .default (.str "openid") rfl⟩,
    ⟨"audience", url zod, .optional⟩,
    ⟨"accessTokenFormat", .oneOf ["jwt", "opaque"], .default (.str "jwt") rfl⟩,
    ⟨"id_token_signed_response_alg", anyText, .default (.str "RS256") rfl⟩,
    ⟨"userinfo_signed_response_alg", anyText, .optional⟩,
    ⟨"require_pkce", .flag, .default (.bool false) rfl⟩,
    ⟨"allowedResources", .arrayOf (url zod), .default (.array []) rfl⟩,
    ⟨"resourcesScopes", anyText, .default (.str "") rfl⟩,
    ⟨"isInternalClient", .flag, .default (.bool false) rfl⟩,
    ⟨"contacts", .arrayOf (.text zod.email), .default (.array []) rfl⟩,
    ⟨"jwks_uri", url zod, .optional⟩,
    ⟨"jwks", .only isJsonWebKeySet, .optional⟩,
    ⟨"created_at", anyNumber, .optional⟩,
    ⟨"updated_at", anyNumber, .optional⟩,
    ⟨"description", anyText, .optional⟩,
    ⟨"tags", .arrayOf anyText, .default (.array []) rfl⟩,
    ⟨"active", .flag, .default (.bool true) rfl⟩,
    ⟨"device_authorization_endpoint", anyText, .optional⟩,
    ⟨"device_code_lifetime", lifetime, .optional⟩,
    ⟨"user_code_lifetime", lifetime, .optional⟩,
    ⟨"verification_uri_complete", .flag, .optional⟩,
    ⟨"user_code_challenge_method", anyText, .optional⟩]

end Shape

structure KeyRequirements where
  required : List String
  forbidden : List String
  curves : Option (List String)

def PUBLIC_JWK_REQUIREMENTS : String → Option KeyRequirements
  | "RSA" => some ⟨["e", "n"], ["d", "p", "q", "dp", "dq", "qi", "oth"], none⟩
  | "EC" => some ⟨["x", "y"], ["d"], some ["P-256", "P-384", "P-521"]⟩
  | "OKP" => some ⟨["x"], ["d"], some ["Ed25519", "X25519"]⟩
  | "AKP" => some ⟨["alg", "pub"], ["priv"], none⟩
  | _ => none

-- found on every object, so also on the table of requirements
def INHERITED_KEYS : List String :=
  ["constructor", "__defineGetter__", "__defineSetter__", "hasOwnProperty", "__lookupGetter__",
    "__lookupSetter__", "isPrototypeOf", "propertyIsEnumerable", "toString", "valueOf",
    "__proto__", "toLocaleString"]

def isPlainObject (value : Json) : Bool := value.isObject && (value.property "constructor").isNone

def isNonEmptyString : Option Json → Bool
  | some (.str text) => text != ""
  | _ => false

def areNonEmptyStrings : Option Json → Bool
  | some (.arr length item) => (List.range length).all fun index => isNonEmptyString (item index)
  | _ => false

def isSafeHttpUri (tables : Url.Tables) : Json → Bool
  | .str text =>
    match Url.parse tables text.toList, Url.splitScheme (Url.cleaned text.toList) with
    | some location, some (_, rest) =>
      let credentials := (Url.authorityBehind rest).take
        ((Url.authorityBehind rest).length -
          (Url.withoutCredentials (Url.authorityBehind rest)).length)
      Url.isWeb location && [[], ['@'], [':', '@']].contains credentials
    | _, _ => false
  | _ => false

section Keys

variable (index : Nat) (key : Json)

def keyError (message : String) : String := "jwks.keys[" ++ toString index ++ "]" ++ message

def parameterErrors (requirements : KeyRequirements) : List String :=
  (requirements.required.filter fun parameter => !isNonEmptyString (key.property parameter)).map
      (fun parameter => keyError index ("." ++ parameter ++ " must be a non-empty string")) ++
    (requirements.forbidden.filter fun parameter => (key.property parameter).isSome).map
      (fun parameter =>
        keyError index ("." ++ parameter ++ " must not contain private key material")) ++
    (["alg", "kid", "use"].filter fun parameter =>
        (key.property parameter).isSome && !isNonEmptyString (key.property parameter)).map
      (fun parameter =>
        keyError index ("." ++ parameter ++ " must be a non-empty string if provided")) ++
    if (key.property "x5c").isSome && !areNonEmptyStrings (key.property "x5c") then
      [keyError index ".x5c must contain non-empty strings if provided"]
    else []

/-- The errors of one key; an error of its own is the `TypeError` of a key type that every object
has a property for. -/
def keyErrors : Except String (List String) :=
  match key.property "kty" with
  | some (.str kty) =>
    if kty = "" then .ok [keyError index ".kty must be a non-empty string"]
    else if kty = "oct" then .ok [keyError index " must not contain a symmetric key"]
    else
      match PUBLIC_JWK_REQUIREMENTS kty with
      | none =>
        if kty ∈ INHERITED_KEYS then .error "requirements.required is not iterable" else .ok []
      | some requirements =>
        match requirements.curves, key.property "crv" with
        | none, _ => .ok (parameterErrors index key requirements)
        | some curves, some (.str crv) =>
          if crv = "" then .ok [keyError index ".crv must be a non-empty string"]
          else if crv ∉ curves then .ok []
          else .ok (parameterErrors index key requirements)
        | some _, _ => .ok [keyError index ".crv must be a non-empty string"]
  | _ => .ok [keyError index ".kty must be a non-empty string"]

end Keys

def keySetErrors : Option Json → Except String (List String)
  | none => .ok []
  | some jwks =>
    match jwks.property "keys" with
    | some (.arr length item) =>
      if length = 0 ∨ (List.range length).any (fun index => !isPlainObject (item index)) then
        .ok ["jwks must contain at least one public JSON Web Key"]
      else
        ((List.range length).mapM fun index => keyErrors index (item index)).map List.flatten
    | _ => .ok ["jwks must contain at least one public JSON Web Key"]

def algorithmErrors (authMethod : Option Json) : Option Json → List String
  | none => []
  | some (.str algorithm) =>
    if algorithm = "" then
      ["token_endpoint_auth_signing_alg must be a non-empty string if provided"]
    else
      match authMethod with
      | some (.str "private_key_jwt") =>
        if "HS".toList.isPrefixOf algorithm.toList then
          ["private_key_jwt requires an asymmetric token_endpoint_auth_signing_alg"]
        else []
      | some (.str "client_secret_jwt") =>
        if "HS".toList.isPrefixOf algorithm.toList then []
        else ["client_secret_jwt requires an HMAC token_endpoint_auth_signing_alg"]
      | _ =>
        ["token_endpoint_auth_signing_alg is only valid with private_key_jwt or " ++
          "client_secret_jwt"]
  | some _ => ["token_endpoint_auth_signing_alg must be a non-empty string if provided"]

def validateClientKeyMetadata (tables : Url.Tables) (data : Fields)
    (requirePrivateKeyJwtSource : Bool) : Except String (List String) :=
  let jwks := data "jwks"
  let jwksUri := data "jwks_uri"
  let authMethod := data "token_endpoint_auth_method"
  (keySetErrors jwks).map fun keys =>
    (if jwks.isSome && jwksUri.isSome then
      ["jwks and jwks_uri must not be used at the same time"]
    else []) ++
    (if jwksUri.any fun uri => !isSafeHttpUri tables uri then
      ["jwks_uri must be a safe HTTP(S) URL"]
    else []) ++
    algorithmErrors authMethod (data "token_endpoint_auth_signing_alg") ++ keys ++
    match authMethod with
    | some (.str "private_key_jwt") =>
      if requirePrivateKeyJwtSource && jwks.isNone && jwksUri.isNone then
        ["jwks or jwks_uri is mandatory for private_key_jwt clients"]
      else []
    | _ => []

def isText (text : String) : Option Json → Bool
  | some (.str other) => other == text
  | _ => false

def normalizeClientApplicationType (client : Fields) : Fields :=
  if isText "spa" (client "application_type") then fun name =>
    if name = "application_type" then some (.str "web")
    else if name = "preset" then some ((client "preset").getD (.str "spa"))
    else client name
  else client

/-- `OidcClientSchema.parse`, with the failing fields or the errors of the client's keys. -/
def parseClient (environment : Environment) (fields : Fields) : Except (List String) Fields :=
  match (clientShape environment.zod).parse fields with
  | .error failing => .error failing
  | .ok client =>
    match validateClientKeyMetadata environment.tables client true with
    | .ok [] => .ok (normalizeClientApplicationType client)
    | .ok messages => .error messages
    | .error message => .error [message]

theorem clientShape_names (zod : Zod) : ((clientShape zod).map Field.name).Nodup := by
  have distinct : List.Nodup ["client_id", "client_secret", "client_name", "client_uri", "logo_uri",
      "tos_uri", "policy_uri", "application_type", "preset", "token_endpoint_auth_method",
      "token_endpoint_auth_signing_alg", "grant_types", "response_types", "redirect_uris",
      "post_logout_redirect_uris", "scope", "audience", "accessTokenFormat",
      "id_token_signed_response_alg", "userinfo_signed_response_alg", "require_pkce",
      "allowedResources", "resourcesScopes", "isInternalClient", "contacts", "jwks_uri", "jwks",
      "created_at", "updated_at", "description", "tags", "active",
      "device_authorization_endpoint", "device_code_lifetime", "user_code_lifetime",
      "verification_uri_complete", "user_code_challenge_method"] := by decide
  exact distinct

theorem normalize_other {client : Fields} {name : String}
    (other : name ≠ "application_type") (notPreset : name ≠ "preset") :
    normalizeClientApplicationType client name = client name := by
  rw [normalizeClientApplicationType]
  split
  · exact (if_neg other).trans (if_neg notPreset)
  · rfl

theorem normalize_cases (client : Fields) :
    normalizeClientApplicationType client = client ∨
      normalizeClientApplicationType client "application_type" = some (.str "web") ∧
      normalizeClientApplicationType client "preset" =
        some ((client "preset").getD (.str "spa")) := by
  rw [normalizeClientApplicationType]
  split
  · exact .inr ⟨rfl, rfl⟩
  · exact .inl rfl

theorem normalize_normalize (client : Fields) :
    normalizeClientApplicationType (normalizeClientApplicationType client) =
      normalizeClientApplicationType client := by
  rcases normalize_cases client with same | ⟨isWeb, _⟩
  · rw [same, same]
  · generalize normalizeClientApplicationType client = normalized at isWeb ⊢
    rw [normalizeClientApplicationType, isWeb]
    exact if_neg (by decide : ¬isText "spa" (some (.str "web")) = true)

theorem validateClientKeyMetadata_normalize (tables : Url.Tables) (client : Fields)
    (required : Bool) :
    validateClientKeyMetadata tables (normalizeClientApplicationType client) required =
      validateClientKeyMetadata tables client required := by
  simp only [validateClientKeyMetadata,
    normalize_other (by decide : "jwks" ≠ "application_type") (by decide),
    normalize_other (by decide : "jwks_uri" ≠ "application_type") (by decide),
    normalize_other (by decide : "token_endpoint_auth_method" ≠ "application_type") (by decide),
    normalize_other (by decide : "token_endpoint_auth_signing_alg" ≠ "application_type")
      (by decide)]

theorem parseClient_ok {environment : Environment} {fields client : Fields}
    (parsed : parseClient environment fields = .ok client) :
    ∃ plain, (clientShape environment.zod).parse fields = .ok plain ∧
      validateClientKeyMetadata environment.tables plain true = .ok [] ∧
      client = normalizeClientApplicationType plain := by
  rw [parseClient] at parsed
  cases shaped : (clientShape environment.zod).parse fields with
  | error failing =>
    rw [shaped] at parsed
    cases parsed
  | ok plain =>
    rw [shaped] at parsed
    simp only at parsed
    split at parsed
    next noErrors =>
      injection parsed with isClient
      exact ⟨plain, rfl, noErrors, isClient.symm⟩
    next => cases parsed
    next => cases parsed

theorem find_applicationType (zod : Zod) :
    (clientShape zod).find "application_type" =
      some ⟨"application_type", .oneOf ["web", "native", "spa"], .required⟩ := rfl

theorem find_preset (zod : Zod) :
    (clientShape zod).find "preset" =
      some ⟨"preset", .oneOf ["web", "spa", "native", "m2m", "device", "api_management"],
        .optional⟩ := rfl

theorem parseClient_settles {environment : Environment} {fields client : Fields}
    (parsed : parseClient environment fields = .ok client) :
    parseClient environment client = .ok client := by
  obtain ⟨plain, shaped, noErrors, rfl⟩ := parseClient_ok parsed
  have settled : (clientShape environment.zod).parse (normalizeClientApplicationType plain) =
      .ok (normalizeClientApplicationType plain) := by
    apply Shape.parse_settles (clientShape_names _) shaped
    · intro field member
      have found := Shape.find_of_mem (clientShape_names environment.zod) member
      rcases normalize_cases plain with same | ⟨isWeb, presetKept⟩
      · exact .inl (by rw [same])
      by_cases isType : field.name = "application_type"
      · rw [isType, find_applicationType] at found
        injection found with isField
        rw [← isField]
        exact .inr ⟨.str "web", isWeb, rfl⟩
      by_cases isPreset : field.name = "preset"
      · rw [isPreset, find_preset] at found
        injection found with isField
        rw [← isField]
        cases preset : plain "preset" with
        | some given =>
          rw [preset] at presetKept
          exact .inl presetKept
        | none =>
          rw [preset] at presetKept
          exact .inr ⟨.str "spa", presetKept, rfl⟩
      · exact .inl (normalize_other isType isPreset)
    · intro name absent
      have notType : name ≠ "application_type" := by
        rintro rfl
        cases absent
      have notPreset : name ≠ "preset" := by
        rintro rfl
        cases absent
      rw [normalize_other notType notPreset, (Shape.parse_ok_iff.mp shaped).2]
      simp only [absent, Option.bind_none]
  rw [parseClient, settled]
  simp only [validateClientKeyMetadata_normalize, noErrors, normalize_normalize]

def clientId (client : Fields) : String :=
  match client "client_id" with
  | some (.str id) => id
  | _ => ""

theorem parseClient_id {environment : Environment} {fields client : Fields}
    (parsed : parseClient environment fields = .ok client) :
    ∃ given, fields "client_id" = some (.str given) ∧ clientId client = Schemas.trim given ∧
      Schemas.trim given ≠ "" := by
  obtain ⟨plain, shaped, _, rfl⟩ := parseClient_ok parsed
  obtain ⟨all, isPlain⟩ := Shape.parse_ok_iff.mp shaped
  have found : (clientShape environment.zod).find "client_id" =
      some ⟨"client_id", nonempty, .required⟩ := rfl
  obtain ⟨value, isValue⟩ := Option.isSome_iff_exists.mp
    (all _ (Shape.find_some found).1)
  have parsedId : plain "client_id" = value := by
    rw [isPlain]
    simp only [found, Option.bind_some, isValue, Option.join_some]
  rw [clientId, normalize_other (by decide) (by decide), parsedId]
  rw [Field.parse] at isValue
  simp only at isValue
  cases given : fields "client_id" with
  | none =>
    rw [given] at isValue
    cases isValue
  | some original =>
    rw [given] at isValue
    obtain ⟨checked, isChecked, rfl⟩ := Option.map_eq_some_iff.mp isValue
    obtain ⟨text, rfl, rfl, passes⟩ := Check.trimmed_some isChecked
    exact ⟨text, rfl, rfl, bne_iff_ne.mp passes⟩

end ParakoId.ClientRegistry
