import ParakoId.Library.Url
import ParakoId.TenantOverrides.PlatformUpdates

/-! The issuer of a tenant. -/

namespace ParakoId.Tenancy

open Json (Path)
open Config (getNestedValue textAt withoutTrailingSlashes withoutProtocol ComputedContext
  BaseValues DEFAULT_TENANT_ID applyComputedDefaults baseValues computeField computedFields
  getNestedValue_some issuerField lookup_applyComputedDefaults lookup_computeFields
  setNestedValue urlField nameField secretField rpIdField)
open TenantOverrides (loadTenantConfig loadOverrides)

inductive TenantStatus
  | active
  | suspended
  | archived
  deriving DecidableEq

structure Tenant where
  slug : String
  domain : Option String
  status : TenantStatus
  issuer_url : Option String
  deriving DecidableEq

-- an optional text that is absent or empty is falsy
def presentText (text : Option String) : Option String := text.filter (· != "")

theorem presentText_some {text : Option String} {present : String} :
    presentText text = some present ↔ text = some present ∧ present ≠ "" := by
  simp [presentText, Option.filter_eq_some_iff]

theorem presentText_none {text : Option String} :
    presentText text = none ↔ text = none ∨ text = some "" := by
  cases text with
  | none => simp [presentText]
  | some text => simp [presentText, Option.filter]

def protocolOf (deploymentUrl : String) : String :=
  if "https://".toList.isPrefixOf deploymentUrl.toList then "https://" else "http://"

def deriveTenantIssuerUrl (tenantId : String) (tenant : Tenant) (deploymentUrl oidcPath : String) :
    String :=
  match presentText tenant.issuer_url with
  | some issuerUrl => issuerUrl
  | none =>
    let protocol := protocolOf deploymentUrl
    match presentText tenant.domain with
    | some domain => protocol ++ domain ++ oidcPath
    | none =>
      let baseDomain := withoutTrailingSlashes (withoutProtocol deploymentUrl)
      protocol ++ tenantId ++ "." ++ baseDomain ++ oidcPath

/-- The issuer that `createProvider` takes. `urlOrigin` is `new URL(text).origin`, which may
throw. -/
def providerIssuer (urlOrigin : String → Option String) (tenantId : String) (tenant : Tenant)
    (config : Json) : Option String :=
  let deploymentUrl := textAt config ["deployment", "url"] ""
  let oidcPath := textAt config ["oidc", "path"] "/oidc/v1"
  if deploymentUrl = "" then
    (urlOrigin (textAt config ["oidc", "issuer"] "")).map fun origin =>
      deriveTenantIssuerUrl tenantId tenant origin oidcPath
  else some (deriveTenantIssuerUrl tenantId tenant deploymentUrl oidcPath)

def mergedConfig (cache : Json) (document : Option Json) : Json :=
  (match loadOverrides document with
  | some overrides => Config.mergeConfig cache.clone overrides
  | none => cache.clone).clone

theorem mergedConfig_clone (cache : Json) (document : Option Json) :
    (mergedConfig cache document).clone = mergedConfig cache document := Json.clone_clone _

theorem loadTenantConfig_eq (context : ComputedContext) (cache : Json) (document : Option Json) :
    loadTenantConfig context cache document =
      applyComputedDefaults context (mergedConfig cache document) := by
  simp only [loadTenantConfig, applyComputedDefaults, mergedConfig_clone]
  rfl

section Texts

theorem toList_withoutTrailingSlashes (text : String) : (withoutTrailingSlashes text).toList =
    text.toList.rdropWhile (· = '/') := by
  simp [withoutTrailingSlashes, List.rdropWhile]

def StartsWeb (secure : Bool) (text : String) : Prop :=
  Url.webProtocol secure <+: text.toList

theorem not_both_web {text : String} (secure : StartsWeb true text) : ¬ StartsWeb false text := by
  rintro ⟨plainRest, isPlain⟩
  obtain ⟨rest, isSecure⟩ := secure
  rw [← isSecure] at isPlain
  simp [Url.webProtocol] at isPlain

theorem isPrefixOf_https (text : String) :
    "https://".toList.isPrefixOf text.toList = true ↔ StartsWeb true text := by
  rw [List.isPrefixOf_iff_prefix]
  rfl

theorem isPrefixOf_http (text : String) :
    "http://".toList.isPrefixOf text.toList = true ↔ StartsWeb false text := by
  rw [List.isPrefixOf_iff_prefix]
  rfl

theorem protocolOf_web {secure : Bool} {text : String} (web : StartsWeb secure text) :
    (protocolOf text).toList = Url.webProtocol secure := by
  cases secure with
  | true =>
    rw [protocolOf, if_pos ((isPrefixOf_https text).mpr web)]
    rfl
  | false =>
    have insecure : ¬ "https://".toList.isPrefixOf text.toList = true := fun isSecure =>
      not_both_web ((isPrefixOf_https text).mp isSecure) web
    rw [protocolOf, if_neg insecure]
    rfl

theorem withoutProtocol_web {secure : Bool} {text : String} {rest : Url.Text}
    (web : text.toList = Url.webProtocol secure ++ rest) : (withoutProtocol text).toList = rest := by
  have starts : StartsWeb secure text := ⟨rest, web.symm⟩
  cases secure with
  | true =>
    rw [withoutProtocol, if_pos ((isPrefixOf_https text).mpr starts), String.toList_ofList, web]
    rfl
  | false =>
    have insecure : ¬ "https://".toList.isPrefixOf text.toList = true := fun isSecure =>
      not_both_web ((isPrefixOf_https text).mp isSecure) starts
    rw [withoutProtocol, if_neg insecure, if_pos ((isPrefixOf_http text).mpr starts),
      String.toList_ofList, web]
    rfl

theorem other_protocol {text : String} (notSecure : ¬ StartsWeb true text)
    (notPlain : ¬ StartsWeb false text) :
    protocolOf text = "http://" ∧ withoutProtocol text = text := by
  have insecure : ¬ "https://".toList.isPrefixOf text.toList = true := fun isSecure =>
    notSecure ((isPrefixOf_https text).mp isSecure)
  have other : ¬ "http://".toList.isPrefixOf text.toList = true := fun isPlain =>
    notPlain ((isPrefixOf_http text).mp isPlain)
  rw [protocolOf, if_neg insecure, withoutProtocol, if_neg insecure, if_neg other]
  exact ⟨rfl, rfl⟩

theorem web_cases (text : String) : (∃ secure, StartsWeb secure text) ∨
    (¬ StartsWeb true text ∧ ¬ StartsWeb false text) := by
  by_cases secure : StartsWeb true text
  · exact .inl ⟨true, secure⟩
  · by_cases plain : StartsWeb false text
    · exact .inl ⟨false, plain⟩
    · exact .inr ⟨secure, plain⟩

def NamesHost (deploymentUrl : String) : Prop :=
  (withoutProtocol deploymentUrl).toList.rdropWhile (· = '/') ≠ []

theorem hostname_slashes {tables : Url.Tables} {slashes : Url.Text}
    (allSlashes : ∀ character ∈ slashes, character = '/') : Url.hostname tables slashes = none := by
  have printable : ∀ character ∈ slashes, Url.isControlOrSpace character = false := by
    intro character member
    rw [allSlashes character member]
    decide
  have clean : Url.cleaned slashes = slashes := by
    rw [Url.cleaned, Text.dropWhile_none printable, Text.rdropWhile_none printable,
      Url.filter_printable printable]
  cases slashes with
  | nil => simp [Url.hostname, clean, Url.splitScheme]
  | cons first rest =>
    have isSlash := allSlashes first List.mem_cons_self
    subst isSlash
    have notScheme : Url.isSchemeCharacter '/' = false := by decide
    simp [Url.hostname, clean, Url.splitScheme, notScheme]

theorem namesHost_of_accepted {tables : Url.Tables} {deploymentUrl : String}
    (accepted : (Url.hostname tables deploymentUrl.toList).isSome = true) :
    NamesHost deploymentUrl := by
  intro allDropped
  have slashes : ∀ character ∈ (withoutProtocol deploymentUrl).toList, character = '/' := by
    simpa [List.rdropWhile_eq_nil_iff] using allDropped
  rcases web_cases deploymentUrl with ⟨secure, rest, web⟩ | ⟨notSecure, notPlain⟩
  · rw [withoutProtocol_web web.symm] at slashes
    have printable : ∀ character ∈ rest, Url.isControlOrSpace character = false := by
      intro character member
      rw [slashes character member]
      decide
    have dropped : rest.dropWhile Url.isSlash = [] := by
      rw [List.dropWhile_eq_nil_iff]
      intro character member
      rw [slashes character member]
      decide
    have tidy : Url.tidied rest = rest := by
      rw [Url.tidied, Text.rdropWhile_none printable, Url.filter_printable printable]
    rw [← web, Url.hostname_web, tidy, dropped] at accepted
    simp [Url.untilPath, Url.hostOfAuthority_nil] at accepted
  · rw [(other_protocol notSecure notPlain).2] at slashes
    rw [hostname_slashes slashes] at accepted
    simp at accepted

theorem withoutTrailingSlashes_protocol {deploymentUrl : String} (named : NamesHost deploymentUrl) :
    protocolOf (withoutTrailingSlashes deploymentUrl) = protocolOf deploymentUrl ∧
      withoutProtocol (withoutTrailingSlashes deploymentUrl) =
        withoutTrailingSlashes (withoutProtocol deploymentUrl) := by
  rcases web_cases deploymentUrl with ⟨secure, rest, web⟩ | ⟨notSecure, notPlain⟩
  · have isRest := withoutProtocol_web web.symm
    rw [NamesHost, isRest] at named
    have stripped : (withoutTrailingSlashes deploymentUrl).toList =
        Url.webProtocol secure ++ rest.rdropWhile (· = '/') := by
      rw [toList_withoutTrailingSlashes, ← web, Text.rdropWhile_append named]
    refine ⟨?_, ?_⟩
    · rw [← String.toList_inj, protocolOf_web ⟨_, stripped.symm⟩, protocolOf_web ⟨rest, web⟩]
    · rw [← String.toList_inj, withoutProtocol_web stripped, toList_withoutTrailingSlashes, isRest]
  · obtain ⟨protocol, same⟩ := other_protocol notSecure notPlain
    have shorter : (withoutTrailingSlashes deploymentUrl).toList <+: deploymentUrl.toList := by
      rw [toList_withoutTrailingSlashes]
      exact List.rdropWhile_prefix _ _
    obtain ⟨strippedProtocol, strippedSame⟩ := other_protocol
      (fun secure => notSecure (List.IsPrefix.trans secure shorter))
      (fun plain => notPlain (List.IsPrefix.trans plain shorter))
    rw [protocol, strippedProtocol, same, strippedSame]
    exact ⟨rfl, rfl⟩

theorem withoutTrailingSlashes_nonempty {deploymentUrl : String} (named : NamesHost deploymentUrl) :
    withoutTrailingSlashes deploymentUrl ≠ "" := by
  intro empty
  apply named
  rw [← toList_withoutTrailingSlashes, ← (withoutTrailingSlashes_protocol named).2, empty]
  rfl

end Texts

section Computed

theorem sibling_open {config : Json} {section_ name other : String}
    (isOpen : config.lookup [section_, name] ≠ .blocked) :
    config.lookup [section_, other] ≠ .blocked := by
  intro blocked
  apply isOpen
  cases config with
  | obj keys value =>
    by_cases member : section_ ∈ keys
    · simp only [Json.lookup_obj, member, if_true] at blocked ⊢
      cases held : value section_ with
      | obj innerKeys inner => simp [held] at blocked; split at blocked <;> simp at blocked
      | _ => rfl
    · simp [member] at blocked
  | _ => rfl

def configuredIssuer (context : ComputedContext) (config : Json) : Json :=
  let base := baseValues context config
  match getNestedValue config ["oidc", "issuer_url"] with
  | some explicitIssuerUrl =>
    if explicitIssuerUrl.truthy then explicitIssuerUrl
    else .str (base.effectiveBaseUrl ++ base.oidcPath)
  | none => .str (base.effectiveBaseUrl ++ base.oidcPath)

theorem issuer_applyComputedDefaults (context : ComputedContext) {config : Json}
    (copied : config.clone = config) (isOpen : config.lookup ["oidc", "issuer"] ≠ .blocked)
    (based : (baseValues context config).effectiveBaseUrl ≠ "") :
    getNestedValue (applyComputedDefaults context config) ["oidc", "issuer"] =
      some (configuredIssuer context config) := by
  have urlOpen : config.lookup ["oidc", "issuer_url"] ≠ .blocked := sibling_open isOpen
  let base := baseValues context config
  let earlier := (computedFields context base).take 4
  let later := (computedFields context base).drop 5
  have parts : computedFields context base = earlier ++ issuerField base :: later := rfl
  have earlierPaths : earlier.map Prod.fst = Config.COMPUTED_PATHS.take 4 := rfl
  have laterPaths : later.map Prod.fst = Config.COMPUTED_PATHS.drop 5 := rfl
  have earlierApart : ∀ field ∈ earlier, Json.apart field.1 ["oidc", "issuer"] = true ∧
      Json.apart field.1 ["oidc", "issuer_url"] = true := by
    have paths : ∀ path ∈ Config.COMPUTED_PATHS.take 4, Json.apart path ["oidc", "issuer"] = true ∧
        Json.apart path ["oidc", "issuer_url"] = true := by decide
    intro field member
    apply paths
    rw [← earlierPaths]
    exact List.mem_map_of_mem member
  have laterApart : ∀ field ∈ later, Json.apart field.1 ["oidc", "issuer"] = true := by
    have paths : ∀ path ∈ Config.COMPUTED_PATHS.drop 5,
        Json.apart path ["oidc", "issuer"] = true := by decide
    intro field member
    apply paths
    rw [← laterPaths]
    exact List.mem_map_of_mem member
  let before := earlier.foldl computeField config
  have issuerBefore : before.lookup ["oidc", "issuer"] = config.lookup ["oidc", "issuer"] :=
    lookup_computeFields (fun field member => (earlierApart field member).1) isOpen
  have urlBefore : before.lookup ["oidc", "issuer_url"] = config.lookup ["oidc", "issuer_url"] :=
    lookup_computeFields (fun field member => (earlierApart field member).2) urlOpen
  have computed : computeField before (issuerField base) =
      setNestedValue before ["oidc", "issuer"] (configuredIssuer context config) := by
    have notEmpty : base.effectiveBaseUrl ≠ "" := based
    have value : (issuerField base).2 before = some (configuredIssuer context config) := by
      simp only [issuerField, if_neg notEmpty, getNestedValue, urlBefore, configuredIssuer]
      cases (config.lookup ["oidc", "issuer_url"]).toOption with
      | none => rfl
      | some explicitIssuerUrl =>
        by_cases truthy : explicitIssuerUrl.truthy = true
        · simp [truthy]
        · simp [truthy, base]
    simp only [computeField, value]
    rfl
  have written : (computeField before (issuerField base)).lookup ["oidc", "issuer"] =
      .found (configuredIssuer context config) := by
    rw [computed]
    apply Json.lookup_write_self
    rwa [issuerBefore]
  rw [getNestedValue_some, applyComputedDefaults, copied, parts, List.foldl_append, List.foldl_cons,
    lookup_computeFields laterApart (by simp [before, written]), written]

end Computed

def baseDomain (deploymentUrl : String) : String :=
  withoutTrailingSlashes (withoutProtocol deploymentUrl)

def recordHost (tenantId : String) (tenant : Tenant) (deploymentUrl : String) : String :=
  (presentText tenant.domain).getD (tenantId ++ "." ++ baseDomain deploymentUrl)

def configuredHost (tenantId : String) (config : Json) (deploymentUrl : String) : String :=
  (presentText (some (textAt config ["tenant_domain"] ""))).getD
    (tenantId ++ "." ++ baseDomain deploymentUrl)

def configuredBase (tenantId : String) (config : Json) (deploymentUrl : String) : String :=
  if tenantId = DEFAULT_TENANT_ID then withoutTrailingSlashes deploymentUrl
  else protocolOf deploymentUrl ++ configuredHost tenantId config deploymentUrl

def statedIssuer (config : Json) : Option Json :=
  (getNestedValue config ["oidc", "issuer_url"]).filter Json.truthy

def IssuersMatch (tenantId : String) (tenant : Tenant) (config : Json) : Prop :=
  let deploymentUrl := textAt config ["deployment", "url"] ""
  let oidcPath := textAt config ["oidc", "path"] "/oidc/v1"
  let recordBase := protocolOf deploymentUrl ++ recordHost tenantId tenant deploymentUrl
  match presentText tenant.issuer_url, statedIssuer config with
  | some own, some stated => stated = .str own
  | some own, none => own = configuredBase tenantId config deploymentUrl ++ oidcPath
  | none, some stated => stated = .str (recordBase ++ oidcPath)
  | none, none =>
    if tenantId = DEFAULT_TENANT_ID then recordBase = withoutTrailingSlashes deploymentUrl
    else recordHost tenantId tenant deploymentUrl = configuredHost tenantId config deploymentUrl

theorem deriveTenantIssuerUrl_eq (tenantId : String) (tenant : Tenant)
    (deploymentUrl oidcPath : String) :
    deriveTenantIssuerUrl tenantId tenant deploymentUrl oidcPath =
      (presentText tenant.issuer_url).getD
        (protocolOf deploymentUrl ++ recordHost tenantId tenant deploymentUrl ++ oidcPath) := by
  simp only [deriveTenantIssuerUrl, recordHost, baseDomain]
  cases presentText tenant.issuer_url with
  | some issuerUrl => rfl
  | none => cases presentText tenant.domain with
    | some domain => rfl
    | none => simp [String.append_assoc]

theorem effectiveBaseUrl_eq {context : ComputedContext} {tenantId : String} {config : Json}
    (isTenant : context.tenantId = some tenantId)
    (named : NamesHost (textAt config ["deployment", "url"] "")) :
    (baseValues context config).effectiveBaseUrl =
      configuredBase tenantId config (textAt config ["deployment", "url"] "") := by
  obtain ⟨protocol, domain⟩ := withoutTrailingSlashes_protocol named
  have nonempty := withoutTrailingSlashes_nonempty named
  have unfolded : (baseValues context config).effectiveBaseUrl =
      if context.tenantId.any (· != DEFAULT_TENANT_ID) = true ∧
          withoutTrailingSlashes (textAt config ["deployment", "url"] "") ≠ "" then
        if textAt config ["tenant_domain"] "" ≠ "" then
          protocolOf (withoutTrailingSlashes (textAt config ["deployment", "url"] "")) ++
            textAt config ["tenant_domain"] ""
        else
          protocolOf (withoutTrailingSlashes (textAt config ["deployment", "url"] "")) ++
            context.tenantId.getD "" ++ "." ++
            withoutProtocol (withoutTrailingSlashes (textAt config ["deployment", "url"] ""))
      else withoutTrailingSlashes (textAt config ["deployment", "url"] "") := rfl
  rw [unfolded, isTenant, protocol, domain]
  by_cases isDefault : tenantId = DEFAULT_TENANT_ID
  · simp only [isDefault, Option.any_some, bne_self_eq_false, Bool.false_eq_true, false_and,
      if_false, configuredBase, if_true]
  · have notDefault : (tenantId != DEFAULT_TENANT_ID) = true := by simpa using isDefault
    simp only [Option.any_some, notDefault, ne_eq, nonempty, not_false_eq_true, and_self, if_true,
      Option.getD_some, configuredBase, if_neg isDefault, configuredHost, presentText]
    by_cases noDomain : textAt config ["tenant_domain"] "" = ""
    · simp only [noDomain, not_true_eq_false, if_false, Option.filter, bne_self_eq_false,
        Bool.false_eq_true, Option.getD_none, baseDomain, String.append_assoc]
    · have hasDomain : (textAt config ["tenant_domain"] "" != "") = true := by simpa using noDomain
      simp only [noDomain, not_false_eq_true, if_true, Option.filter, hasDomain, Option.getD_some]

theorem configuredBase_nonempty {tenantId : String} {config : Json} {deploymentUrl : String}
    (named : NamesHost deploymentUrl) : configuredBase tenantId config deploymentUrl ≠ "" := by
  simp only [configuredBase]
  split
  · exact withoutTrailingSlashes_nonempty named
  · simp only [protocolOf]
    split
    · simp
    · simp

theorem configuredIssuer_eq {context : ComputedContext} {tenantId : String} {config : Json}
    (isTenant : context.tenantId = some tenantId)
    (named : NamesHost (textAt config ["deployment", "url"] "")) :
    configuredIssuer context config = (statedIssuer config).getD
      (.str (configuredBase tenantId config (textAt config ["deployment", "url"] "") ++
        textAt config ["oidc", "path"] "/oidc/v1")) := by
  have effective := effectiveBaseUrl_eq isTenant named
  have path : (baseValues context config).oidcPath = textAt config ["oidc", "path"] "/oidc/v1" := rfl
  simp only [configuredIssuer, statedIssuer, effective, path]
  cases getNestedValue config ["oidc", "issuer_url"] with
  | none => rfl
  | some issuerUrl =>
    by_cases truthy : issuerUrl.truthy = true
    · simp [truthy, Option.filter]
    · simp [truthy, Option.filter]

/-- A merged configuration as the schema accepts it: the deployment has a URL, and `oidc`
is no array or scalar. -/
structure Accepted (tables : Url.Tables) (config : Json) : Prop where
  url : (Url.hostname tables (textAt config ["deployment", "url"] "").toList).isSome = true
  oidc : config.lookup ["oidc", "issuer"] ≠ .blocked

theorem append_right_cancel {first second suffix : String}
    (same : first ++ suffix = second ++ suffix) : first = second := by
  rw [← String.toList_inj] at same ⊢
  simpa using same

theorem append_left_cancel {first second start : String}
    (same : start ++ first = start ++ second) : first = second := by
  rw [← String.toList_inj] at same ⊢
  simpa using same

theorem recordIssuer_eq_configured_iff {tenantId : String} {tenant : Tenant} {config : Json} :
    (statedIssuer config).getD (.str
        (configuredBase tenantId config (textAt config ["deployment", "url"] "") ++
          textAt config ["oidc", "path"] "/oidc/v1")) =
      .str ((presentText tenant.issuer_url).getD
        (protocolOf (textAt config ["deployment", "url"] "") ++
          recordHost tenantId tenant (textAt config ["deployment", "url"] "") ++
          textAt config ["oidc", "path"] "/oidc/v1")) ↔
      IssuersMatch tenantId tenant config := by
  simp only [IssuersMatch]
  cases own : presentText tenant.issuer_url with
  | some issuerUrl =>
    cases statedIssuer config with
    | some stated => simp
    | none => simp [eq_comm]
  | none =>
    cases statedIssuer config with
    | some stated => simp
    | none =>
      simp only [Option.getD_none, Json.str.injEq]
      by_cases isDefault : tenantId = DEFAULT_TENANT_ID
      · simp only [configuredBase, if_pos isDefault]
        constructor
        · intro same
          exact (append_right_cancel same).symm
        · intro same
          rw [same]
      · simp only [configuredBase, if_neg isDefault]
        constructor
        · intro same
          exact (append_left_cancel (append_right_cancel same)).symm
        · intro same
          rw [same]

/-- The provider of a tenant and its loaded configuration have one issuer exactly when the
record and the merged configuration match. -/
theorem one_issuer_iff (tables : Url.Tables) (urlOrigin : String → Option String)
    {context : ComputedContext} {tenantId : String} (tenant : Tenant) {cache : Json}
    {document : Option Json} (isTenant : context.tenantId = some tenantId)
    (accepted : Accepted tables (mergedConfig cache document)) :
    getNestedValue (loadTenantConfig context cache document) ["oidc", "issuer"] =
        (providerIssuer urlOrigin tenantId tenant
          (loadTenantConfig context cache document)).map Json.str ↔
      IssuersMatch tenantId tenant (mergedConfig cache document) := by
  have copied := mergedConfig_clone cache document
  rw [loadTenantConfig_eq]
  generalize mergedConfig cache document = config at accepted copied ⊢
  have named := namesHost_of_accepted accepted.url
  have kept : ∀ path, (∀ computed ∈ Config.COMPUTED_PATHS, Json.apart computed path = true) →
      config.lookup path ≠ .blocked →
      ∀ fallback, textAt (applyComputedDefaults context config) path fallback =
        textAt config path fallback := by
    intro path separate isOpen fallback
    have same : (applyComputedDefaults context config).lookup path = config.lookup path := by
      rw [lookup_applyComputedDefaults context separate isOpen, ← Json.lookup_clone, copied]
    simp only [textAt, getNestedValue, same]
  have hasUrl : textAt config ["deployment", "url"] "" ≠ "" := by
    intro empty
    apply named
    rw [empty]
    rfl
  have urlOpen : config.lookup ["deployment", "url"] ≠ .blocked := by
    intro blocked
    apply hasUrl
    simp [textAt, getNestedValue, blocked, Json.Lookup.toOption]
  have configured := configuredIssuer_eq isTenant named
  have based : (baseValues context config).effectiveBaseUrl ≠ "" := by
    rw [effectiveBaseUrl_eq isTenant named]
    exact configuredBase_nonempty named
  rw [issuer_applyComputedDefaults context copied accepted.oidc based, configured, providerIssuer,
    kept _ (by decide) urlOpen, kept _ (by decide) (sibling_open accepted.oidc), if_neg hasUrl,
    deriveTenantIssuerUrl_eq]
  simpa using recordIssuer_eq_configured_iff

def noTables : Url.Tables where
  domainToASCII _ := none
  ipv6 _ := none
  otherHostname _ _ := none

def platformAt (deploymentUrl : String) : Json :=
  .object [("deployment", .object [("url", .str deploymentUrl)]), ("oidc", .object [])]

def acme : Tenant where
  slug := "acme"
  domain := none
  status := .active
  issuer_url := none

theorem platformAt_accepted :
    Accepted noTables (mergedConfig (platformAt "https://parako.test:8443/") none) where
  url := by decide +kernel
  oidc := by
    have missing : (mergedConfig (platformAt "https://parako.test:8443/") none).lookup
        ["oidc", "issuer"] = .absent := rfl
    rw [missing]
    simp

theorem one_issuer_of_acme :
    getNestedValue (loadTenantConfig TenantOverrides.plainContext
        (platformAt "https://parako.test:8443/") none) ["oidc", "issuer"] =
      (providerIssuer (fun _ => none) "acme" acme (loadTenantConfig TenantOverrides.plainContext
        (platformAt "https://parako.test:8443/") none)).map Json.str :=
  (one_issuer_iff noTables (fun _ => none) acme rfl platformAt_accepted).mpr rfl

def acmeConfig : Json :=
  loadTenantConfig TenantOverrides.plainContext (platformAt "https://parako.test") none

def acmeAtDomain : Tenant := { acme with domain := some "auth.acme.test" }

theorem customDomain_has_two_issuers :
    getNestedValue acmeConfig ["oidc", "issuer"] =
        some (.str "https://acme.parako.test/oidc/v1") ∧
      providerIssuer (fun _ => none) "acme" acmeAtDomain acmeConfig =
        some "https://auth.acme.test/oidc/v1" ∧
      getNestedValue acmeConfig ["oidc", "issuer"] ≠
        (providerIssuer (fun _ => none) "acme" acmeAtDomain acmeConfig).map Json.str := by
  have configured : getNestedValue acmeConfig ["oidc", "issuer"] =
      some (.str "https://acme.parako.test/oidc/v1") := rfl
  have ofRecord : providerIssuer (fun _ => none) "acme" acmeAtDomain acmeConfig =
      some "https://auth.acme.test/oidc/v1" := rfl
  refine ⟨configured, ofRecord, ?_⟩
  rw [configured, ofRecord]
  simp

end ParakoId.Tenancy
