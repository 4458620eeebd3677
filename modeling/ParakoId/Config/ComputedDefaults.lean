import ParakoId.Config.Merge

/-!
`applyComputedDefaults`: secrets that are generated when they are missing, and fields that are
derived from the deployment and the tenant.
-/

namespace ParakoId.Config

open Json (Path)

def DEFAULT_TENANT_ID : String := "default"

/-- What the function takes from outside the configuration: the tenant of the call, random
secrets, and the host name of a URL. -/
structure ComputedContext where
  tenantId : Option String
  jwtSecret : String
  cookieSecrets : String × String
  hmacSecret : String
  pairwiseSalt : String
  getHostnameFromUrl : String → String

def isSecretMissing : Option Json → Bool
  | none => true
  | some .null => true
  | some (.arr 0 _) => true
  | some _ => false

def isFalsy (value : Option Json) : Bool := value.all fun value => !value.truthy

-- the settings schema has texts here; anything else reads as missing
def textAt (config : Json) (path : Path) (fallback : String) : String :=
  match getNestedValue config path with
  | some (.str text) => if text = "" then fallback else text
  | _ => fallback

def withoutTrailingSlashes (url : String) : String :=
  String.ofList (url.toList.reverse.dropWhile (· = '/')).reverse

def withoutProtocol (url : String) : String :=
  if "https://".toList.isPrefixOf url.toList then String.ofList (url.toList.drop 8)
  else if "http://".toList.isPrefixOf url.toList then String.ofList (url.toList.drop 7)
  else url

structure BaseValues where
  deploymentUrl : String
  oidcPath : String
  companyName : String
  tenantDomain : String
  isTenantContext : Bool
  effectiveBaseUrl : String

def baseValues (context : ComputedContext) (config : Json) : BaseValues :=
  let deploymentUrl := withoutTrailingSlashes (textAt config ["deployment", "url"] "")
  let tenantDomain := textAt config ["tenant_domain"] ""
  let isTenantContext := context.tenantId.any fun tenant => tenant != DEFAULT_TENANT_ID
  let protocol :=
    if "https://".toList.isPrefixOf deploymentUrl.toList then "https://" else "http://"
  let tenantBaseUrl :=
    if tenantDomain ≠ "" then protocol ++ tenantDomain
    else protocol ++ context.tenantId.getD "" ++ "." ++ withoutProtocol deploymentUrl
  { deploymentUrl
    oidcPath := textAt config ["oidc", "path"] "/oidc/v1"
    companyName := textAt config ["branding", "companyName"] "Parako.ID"
    tenantDomain
    isTenantContext
    effectiveBaseUrl :=
      if isTenantContext ∧ deploymentUrl ≠ "" then tenantBaseUrl else deploymentUrl }

abbrev ComputedField := Path × (Json → Option Json)

def secretField (path : Path) (secret : Json) : ComputedField :=
  (path, fun config => if isSecretMissing (getNestedValue config path) then some secret else none)

def urlField (base : BaseValues) (path : Path) (suffix : String) : ComputedField :=
  (path, fun config =>
    if base.effectiveBaseUrl ≠ "" ∧ isFalsy (getNestedValue config path) then
      some (.str (base.effectiveBaseUrl ++ suffix))
    else none)

def nameField (base : BaseValues) (path : Path) : ComputedField :=
  (path, fun config =>
    if isFalsy (getNestedValue config path) ∨ textAt config path "" = "OIDC Provider" then
      some (.str base.companyName)
    else none)

def issuerField (base : BaseValues) : ComputedField :=
  (["oidc", "issuer"], fun config =>
    if base.effectiveBaseUrl = "" then none
    else match getNestedValue config ["oidc", "issuer_url"] with
      | some explicitIssuerUrl =>
        if explicitIssuerUrl.truthy then some explicitIssuerUrl
        else some (.str (base.effectiveBaseUrl ++ base.oidcPath))
      | none => some (.str (base.effectiveBaseUrl ++ base.oidcPath)))

def rpIdPath : Path := ["security", "authentication", "multi_factor", "webauthn", "rp_id"]

def rpIdField (context : ComputedContext) (base : BaseValues) : ComputedField :=
  (rpIdPath, fun config =>
    if (base.effectiveBaseUrl ≠ "" ∨ base.deploymentUrl ≠ "") ∧
        (isFalsy (getNestedValue config rpIdPath) ∨ textAt config rpIdPath "" = "localhost") then
      some (.str
        (if base.isTenantContext ∧ base.tenantDomain ≠ "" then base.tenantDomain
        else context.getHostnameFromUrl base.deploymentUrl))
    else none)

def computedFields (context : ComputedContext) (base : BaseValues) : List ComputedField := [
  secretField ["security", "secrets", "jwt_secret"] (.str context.jwtSecret),
  secretField ["security", "secrets", "cookie_secrets"]
    (Json.array [.str context.cookieSecrets.1, .str context.cookieSecrets.2]),
  secretField ["security", "secrets", "hmac_secret"] (.str context.hmacSecret),
  secretField ["oidc", "secrets", "pairwise_salt"] (.str context.pairwiseSalt),
  issuerField base,
  urlField base ["oidc", "discovery", "op_policy_uri"] "/privacy",
  urlField base ["oidc", "discovery", "op_tos_uri"] "/terms",
  urlField base ["oidc", "discovery", "service_documentation"] "/docs",
  urlField base ["integrations", "urls", "website"] "",
  urlField base ["integrations", "urls", "privacy_policy"] "/privacy",
  urlField base ["integrations", "urls", "terms_of_service"] "/terms",
  urlField base ["integrations", "urls", "contact"] "/contact",
  nameField base ["security", "authentication", "multi_factor", "totp", "issuer_name"],
  nameField base ["security", "authentication", "multi_factor", "webauthn", "rp_name"],
  rpIdField context base]

def computeField (config : Json) (field : ComputedField) : Json :=
  match field.2 config with
  | some value => setNestedValue config field.1 value
  | none => config

def applyComputedDefaults (context : ComputedContext) (config : Json) : Json :=
  (computedFields context (baseValues context config.clone)).foldl computeField config.clone

def COMPUTED_PATHS : List Path := [
  ["security", "secrets", "jwt_secret"],
  ["security", "secrets", "cookie_secrets"],
  ["security", "secrets", "hmac_secret"],
  ["oidc", "secrets", "pairwise_salt"],
  ["oidc", "issuer"],
  ["oidc", "discovery", "op_policy_uri"],
  ["oidc", "discovery", "op_tos_uri"],
  ["oidc", "discovery", "service_documentation"],
  ["integrations", "urls", "website"],
  ["integrations", "urls", "privacy_policy"],
  ["integrations", "urls", "terms_of_service"],
  ["integrations", "urls", "contact"],
  ["security", "authentication", "multi_factor", "totp", "issuer_name"],
  ["security", "authentication", "multi_factor", "webauthn", "rp_name"],
  rpIdPath]

theorem computedFields_paths (context : ComputedContext) (base : BaseValues) :
    (computedFields context base).map Prod.fst = COMPUTED_PATHS := rfl

theorem lookup_computeFields {fields : List ComputedField} {config : Json} {path : Path}
    (separate : ∀ field ∈ fields, Json.apart field.1 path = true)
    (isOpen : config.lookup path ≠ .blocked) :
    (fields.foldl computeField config).lookup path = config.lookup path := by
  induction fields generalizing config with
  | nil => rfl
  | cons field rest ih =>
    have kept : (computeField config field).lookup path = config.lookup path := by
      simp only [computeField]
      split
      · exact Json.lookup_write_apart _ _ (separate field List.mem_cons_self) isOpen
      · rfl
    have restSeparate : ∀ other ∈ rest, Json.apart other.1 path = true :=
      fun other member => separate other (List.mem_cons_of_mem _ member)
    rw [List.foldl_cons, ih restSeparate (by rwa [kept]), kept]

theorem lookup_applyComputedDefaults (context : ComputedContext) {config : Json} {path : Path}
    (separate : ∀ computed ∈ COMPUTED_PATHS, Json.apart computed path = true)
    (isOpen : config.lookup path ≠ .blocked) :
    (applyComputedDefaults context config).lookup path = (config.lookup path).map Json.clone := by
  rw [applyComputedDefaults, lookup_computeFields, Json.lookup_clone]
  · intro field member
    apply separate
    rw [← computedFields_paths context (baseValues context config.clone)]
    exact List.mem_map_of_mem member
  · rw [Json.lookup_clone]
    cases here : config.lookup path with
    | blocked => exact (isOpen here).elim
    | absent | found _ => simp [Json.Lookup.map]

end ParakoId.Config
