import ParakoId.Config.Merge
import ParakoId.Library.Text
import ParakoId.TenantOverrides.Fields

/-!
`TenantSettingsOverrideService`: what `saveOverrides` strips, checks, constrains and stores.
-/

namespace ParakoId.TenantOverrides

open Json (Path Conversions)
open Config (getNestedValue setNestedValue mergeConfig)
open Text (isWhiteSpace)

/-- `safeParse` of a schema: its data, or the message of its first issue. -/
abbrev Schema := Json → Except String Json

structure Environment where
  conversions : Conversions
  applicationOverride : Schema
  applicationConfig : Schema
  oidcDiscovery : Schema
  invalidType : String → Json → String
  ensureEncrypted : String → Except String String

def emptyObject : Json := .obj [] fun _ => .null

def noKeys : Json → Bool
  | .obj keys _ => keys.isEmpty
  | _ => true

def splitDots : List Char → List (List Char)
  | [] => [[]]
  | '.' :: rest => [] :: splitDots rest
  | letter :: rest =>
    match splitDots rest with
    | [] => [[letter]]
    | first :: others => (letter :: first) :: others

def segments (key : String) : Path := (splitDots key.toList).map String.ofList

def sectionFiltered : Json → Json
  | .obj keys value => .obj (keys.filter (· ∈ ALLOWED_OVERRIDE_SECTIONS)) value
  | _ => emptyObject

-- an empty key at the top leaves the prefix empty
def childPath (parent : Path) (key : String) : Path :=
  if parent = [] ∧ key = "" then [] else parent ++ segments key

/-- The fields that `stripDisallowedFields` sets, in the order in which it meets them. -/
def walk (parent : Path) : Json → List (Path × Json)
  | .obj keys value => keys.flatMap fun key =>
    if childPath parent key ∈ ALLOWED_TENANT_FIELDS then
      [(childPath parent key,
        if (value key).isReference then (value key).clone else value key)]
    else walk (childPath parent key) (value key)
  | _ => []

def setAll (fields : List (Path × Json)) : Json :=
  fields.foldl (fun result field => setNestedValue result field.1 field.2) emptyObject

def stripDisallowedFields (incoming : Json) : Json := setAll (walk [] incoming)

def isKept (value nested : Json) : Bool :=
  match value with
  | .str text => text != ""
  | .obj _ _ => !noKeys nested
  | _ => true

-- assigning to `result['__proto__']` creates no key
def stripEmptyValues : Json → Json
  | .obj keys value =>
    .obj (keys.filter fun key =>
        key != "__proto__" && isKept (value key) (stripEmptyValues (value key)))
      fun key => stripEmptyValues (value key)
  | other => other

def withSection (name : String) (data : Json) (overrides : Json) : Json :=
  setNestedValue overrides [name] data

def normalizeApplicationOverride (environment : Environment) (overrides : Json)
    (platformConfig : Option Json) : Except String Json :=
  match overrides.property "application" with
  | none => .ok overrides
  | some application => do
      let data ← environment.applicationOverride application
      match platformConfig.bind (Json.property "application") with
      | some platformApplication =>
        if platformApplication.truthy then
          let _ ← environment.applicationConfig (mergeConfig platformApplication data)
          pure (withSection "application" data overrides)
        else pure (withSection "application" data overrides)
      | none => pure (withSection "application" data overrides)

def parseFields (fields : List (String × Schema)) (input : Json) :
    Except String (List (String × Json)) :=
  match fields with
  | [] => .ok []
  | (name, schema) :: rest =>
    match input.property name with
    | none => parseFields rest input
    | some value => do
        let data ← schema value
        let others ← parseFields rest input
        pure ((name, data) :: others)

def objectSchema (environment : Environment) (fields : List (String × Schema)) : Schema :=
  fun input =>
    if input.isObject then (parseFields fields input).map Json.object
    else .error (environment.invalidType "object" input)

def MAX_SAFE_INTEGER : ℚ := 9007199254740991

def oidcTokenTtlSchema (environment : Environment) (label : String) : Schema
  | .num (.finite value) =>
    if value.den = 1 ∧ 0 < value ∧ value ≤ MAX_SAFE_INTEGER then .ok (.num (.finite value))
    else .error (label ++ " TTL must be a positive integer")
  | other => .error (environment.invalidType "number" other)

def TOKEN_TTL_LABELS : List (String × String) := [
  ("access_token", "Access token"),
  ("authorization_code", "Authorization code"),
  ("backchannel_auth", "Backchannel authentication"),
  ("client_credentials", "Client credentials"),
  ("device_code", "Device code"),
  ("grant", "Grant"),
  ("id_token", "ID token"),
  ("interaction", "Interaction"),
  ("refresh_token", "Refresh token"),
  ("session", "Session")]

def OidcOverrideSchema (environment : Environment) : Schema :=
  objectSchema environment [
    ("discovery", environment.oidcDiscovery),
    ("token_ttl", objectSchema environment
      (TOKEN_TTL_LABELS.map fun ttl => (ttl.1, oidcTokenTtlSchema environment ttl.2)))]

def normalizeOidcOverride (environment : Environment) (overrides : Json) : Except String Json :=
  match overrides.property "oidc" with
  | none => .ok overrides
  | some oidc => do
      let data ← OidcOverrideSchema environment oidc
      pure (withSection "oidc" data overrides)

def CONFIGURABLE_SOCIAL_PROVIDER_IDS : List String :=
  ["google", "github", "microsoft", "linkedin", "facebook"]

def trim (text : String) : String :=
  String.ofList (((text.toList.dropWhile isWhiteSpace).reverse.dropWhile isWhiteSpace).reverse)

def trimmedProperty (credentials : Json) (key : String) : String :=
  match credentials.property key with
  | some (.str text) => trim text
  | _ => ""

inductive InvalidSocialProviderCredential
  | client_id
  | client_secret

def findInvalidSocialProviderCredential (provider : String) (credentials : Json) :
    Option InvalidSocialProviderCredential :=
  let clientId := trimmedProperty credentials "client_id"
  let clientSecret := trimmedProperty credentials "client_secret"
  if clientId = "" ∨ clientId = "your-" ++ provider ++ "-client-id" then some .client_id
  else if clientSecret = "" ∨ clientSecret = "your-" ++ provider ++ "-client-secret" then
    some .client_secret
  else none

def typeError : String := "Cannot convert object to primitive value"

def validateProvider (environment : Environment) (overrides : Json)
    (platformConfig : Option Json) (provider : Json) : Except String Unit :=
  match provider with
  | .str name =>
    if name ∉ CONFIGURABLE_SOCIAL_PROVIDER_IDS then
      .error ("Unsupported social provider: " ++ name)
    else
      let path := ["features", "social_providers", name]
      let tenantCredentials := (getNestedValue overrides path).getD emptyObject
      if (tenantCredentials.property "client_id").isSome ∨
          (tenantCredentials.property "client_secret").isSome then
        match findInvalidSocialProviderCredential name tenantCredentials with
        | some _ => .error ("Tenant social provider " ++ name ++
            " requires both client_id and client_secret")
        | none => .ok ()
      else
        match platformConfig with
        | none => .ok ()
        | some platform =>
          match findInvalidSocialProviderCredential name
              ((getNestedValue platform path).getD emptyObject) with
          | some _ => .error ("Enabled social provider " ++ name ++
              " has no usable platform credentials")
          | none => .ok ()
  | other =>
    match Json.toText environment.conversions other with
    | some text => .error ("Unsupported social provider: " ++ text)
    | none => .error typeError

def validateSocialProviderSelection (environment : Environment) (overrides : Json)
    (platformConfig : Option Json) : Except String Unit :=
  match getNestedValue overrides ["features", "social_providers", "enabled"] with
  | none => .ok ()
  | some .null => .ok ()
  | some (.arr length item) => (List.range length).forM fun index =>
    validateProvider environment overrides platformConfig (item index)
  | some _ => .error "Social providers must be an array"

structure ConstraintViolation where
  field : Path
  original : Json
  adjusted : Json
  reason : String

structure Constrained where
  result : Json
  violations : List ConstraintViolation

def number (conversions : Conversions) (value : Json) : Except String (Option JsNumber) :=
  match Json.toNumber conversions value with
  | some converted => .ok converted
  | none => .error typeError

/-- The platform value a constraint compares with: it may be missing or null. -/
def platformLimit (platformConfig : Json) (field : Path) : Option Json :=
  match getNestedValue platformConfig field with
  | some .null => none
  | other => other

def compareNumbers (conversions : Conversions) (tenantValue platformValue : Json)
    (violation : JsNumber → JsNumber → Option ConstraintViolation) :
    Except String (Option ConstraintViolation) := do
  let tVal ← number conversions tenantValue
  let pVal ← number conversions platformValue
  pure (tVal.bind fun tenant => pVal.bind fun platform => violation tenant platform)

def floorViolation (conversions : Conversions) (field : Path) (tenant platform : JsNumber) :
    Option ConstraintViolation :=
  if tenant < platform then some
    { field, original := .num tenant, adjusted := .num platform
      reason := "Numeric floor: must be >= platform value (" ++
        conversions.numberToString platform ++ ")" }
  else none

def checkFloor (conversions : Conversions) (platformConfig : Json) (field : Path) (type : FloorType)
    (tenantValue : Json) : Except String (Option ConstraintViolation) :=
  match platformLimit platformConfig field with
  | none => .ok none
  | some platformValue =>
    match type with
    | .boolean =>
      match platformValue, tenantValue with
      | .bool true, .bool false => .ok (some
          { field, original := .bool false, adjusted := .bool true
            reason := "Boolean floor: platform requires enabled" })
      | _, _ => .ok none
    | .numeric =>
      compareNumbers conversions tenantValue platformValue (floorViolation conversions field)

def minLengthViolation (numPwLen : JsNumber) : Option ConstraintViolation :=
  if numPwLen < NIST_MIN_PASSWORD_LENGTH then some
    { field := pwLenPath, original := .num numPwLen, adjusted := .num NIST_MIN_PASSWORD_LENGTH
      reason := "Absolute minimum 8 per NIST SP 800-63B" }
  else none

def checkMinLength (conversions : Conversions) (pwLen : Json) :
    Except String (Option ConstraintViolation) :=
  (number conversions pwLen).map fun numPwLen => numPwLen.bind minLengthViolation

def ceilingViolation (conversions : Conversions) (field : Path) (tenant platform : JsNumber) :
    Option ConstraintViolation :=
  let limit := conversions.numberToString platform
  if field ∈ ZERO_MEANS_UNLIMITED ∧ platform = 0 then none
  else if field ∈ ZERO_MEANS_UNLIMITED ∧ tenant = 0 then some
    { field, original := .num 0, adjusted := .num platform
      reason := "Ceiling: tenant cannot set unlimited when platform limits to " ++ limit }
  else if platform < tenant then some
    { field, original := .num tenant, adjusted := .num platform
      reason := "Ceiling: must be <= platform value (" ++ limit ++ ")" }
  else none

def checkCeiling (conversions : Conversions) (platformConfig : Json) (field : Path)
    (tenantValue : Json) : Except String (Option ConstraintViolation) :=
  match platformLimit platformConfig field with
  | none => .ok none
  | some platformValue =>
    compareNumbers conversions tenantValue platformValue (ceilingViolation conversions field)

def checkUserVerification (platformConfig tenantUV : Json) :
    Except String (Option ConstraintViolation) :=
  match tenantUV, getNestedValue platformConfig uvPath with
  | .str tenant, some (.str platform) =>
    if tenant ∈ USER_VERIFICATION_ORDER ∧ platform ∈ USER_VERIFICATION_ORDER ∧
        USER_VERIFICATION_ORDER.idxOf tenant < USER_VERIFICATION_ORDER.idxOf platform then
      .ok (some
        { field := uvPath, original := .str tenant, adjusted := .str platform
          reason := "Floor: cannot weaken from '" ++ platform ++ "' to '" ++ tenant ++ "'" })
    else .ok none
  | _, _ => .ok none

abbrev Check := Json → Except String (Option ConstraintViolation)

def Constrained.record (state : Constrained) (field : Path) :
    Option ConstraintViolation → Constrained
  | none => state
  | some violation =>
    { result := setNestedValue state.result field violation.adjusted
      violations := state.violations ++ [violation] }

/-- The common shape of the four rules: a value that is neither missing nor null is checked,
and replaced where the check reports a violation. -/
def enforceField (field : Path) (check : Check) (state : Constrained) :
    Except String Constrained :=
  match getNestedValue state.result field with
  | none => .ok state
  | some .null => .ok state
  | some tenantValue => (check tenantValue).map (state.record field)

def constraints (conversions : Conversions) (platformConfig : Json) : List (Path × Check) :=
  FLOOR_CONSTRAINTS.map (fun floor =>
    (floor.1, checkFloor conversions platformConfig floor.1 floor.2)) ++
  (pwLenPath, checkMinLength conversions) ::
  CEILING_CONSTRAINTS.map (fun field => (field, checkCeiling conversions platformConfig field)) ++
  [(uvPath, checkUserVerification platformConfig)]

def enforceAll (constraints : List (Path × Check)) (state : Constrained) :
    Except String Constrained :=
  constraints.foldlM (fun state constraint => enforceField constraint.1 constraint.2 state) state

def enforceConstraints (conversions : Conversions) (incoming : Json)
    (platformConfig : Option Json) : Except String Constrained :=
  match platformConfig with
  | none => .ok { result := incoming.clone, violations := [] }
  | some platform =>
    enforceAll (constraints conversions platform) { result := incoming.clone, violations := [] }

def encryptField (environment : Environment) (existingData : Option Json) (fieldPath : Path)
    (result : Json) : Except String Json :=
  match getNestedValue result fieldPath with
  | some (.str text) =>
    if trim text = "" then .ok result
    else if text = MASKED_SENTINEL then
      match existingData.bind (getNestedValue · fieldPath) with
      | some existingValue =>
        if existingValue.truthy then .ok (setNestedValue result fieldPath existingValue)
        else .ok (Json.remove fieldPath result)
      | none => .ok (Json.remove fieldPath result)
    else
      match environment.ensureEncrypted text with
      | .ok encrypted => .ok (setNestedValue result fieldPath (.str encrypted))
      | .error _ => .error ("Failed to encrypt sensitive tenant setting '" ++
          ".".intercalate fieldPath ++ "'")
  | _ => .ok result

def encryptSensitiveFields (environment : Environment) (data : Json)
    (existingData : Option Json) : Except String Json :=
  TENANT_SENSITIVE_FIELDS.foldlM
    (fun result fieldPath => encryptField environment existingData fieldPath result) data.clone

/-- The sections of a stored document that `loadOverrides` returns and a save carries over. -/
def storedSection (document : Option Json) (name : String) : Option Json :=
  match document.bind (Json.property name) with
  | some .null => none
  | other => other

def carriedSections (existing : Option Json) : Json :=
  .obj (ALLOWED_OVERRIDE_SECTIONS.filter fun name => (storedSection existing name).isSome)
    fun name => (storedSection existing name).getD .null

def mergeSections (existing : Option Json) (encrypted : Json) : Json :=
  match carriedSections existing, encrypted with
  | .obj carried old, .obj keys value =>
    .obj (carried ++ keys.filter (· ∉ carried)) fun name =>
      if name ∈ keys then value name else old name
  | carried, _ => carried

def loadOverrides (document : Option Json) : Option Json :=
  if noKeys (carriedSections document) then none else some (carriedSections document)

def requireFields (document : Json) (message : String) : Except String Unit :=
  if noKeys document then .error message else .ok ()

/-- `saveOverrides` up to the read of the existing document. -/
def constrainOverrides (environment : Environment) (overrides : Json)
    (platformConfig : Option Json) : Except String Constrained := do
  requireFields (sectionFiltered overrides)
    ("No valid override fields provided. Only these sections can be overridden: " ++
      ", ".intercalate ALLOWED_OVERRIDE_SECTIONS)
  let stripped := stripDisallowedFields (sectionFiltered overrides)
  requireFields stripped "No valid override fields provided after field-level filtering"
  let sanitized := stripEmptyValues stripped
  requireFields sanitized "No valid override fields provided after empty-value filtering"
  let applicationNormalized ← normalizeApplicationOverride environment sanitized platformConfig
  let normalized ← normalizeOidcOverride environment applicationNormalized
  validateSocialProviderSelection environment normalized platformConfig
  enforceConstraints environment.conversions normalized platformConfig

def documentToSave (environment : Environment) (existing : Option Json) (constrained : Json) :
    Except String Json := do
  let encrypted ← encryptSensitiveFields environment constrained existing
  pure (mergeSections existing encrypted)

def saveOverrides (environment : Environment) (overrides : Json) (platformConfig : Option Json)
    (existing : Option Json) : Except String Json := do
  let constrained ← constrainOverrides environment overrides platformConfig
  documentToSave environment existing constrained.result

end ParakoId.TenantOverrides
