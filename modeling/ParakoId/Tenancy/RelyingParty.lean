import ParakoId.Config.BaseUpdates
import ParakoId.Library.Domains
import ParakoId.Tenancy.Issuer

/-! The WebAuthn relying party of a tenant and the host at which the tenant is reached. -/

namespace ParakoId.Tenancy

open Json (Path)
open Config (ComputedContext DEFAULT_TENANT_ID applyComputedDefaults baseValues getNestedValue
  rpIdPath textAt textAt_congr isFalsy withoutTrailingSlashes HasSections relyingParty
  computedLookup computedLookup_some computedLookup_none rpIdField lookup_applied base_applied
  mem_computedFields sections_applied textAt_found getNestedValue_some DerivedField DERIVED_FIELDS
  BASE_PATHS siteAt siteAt_sections)
open TenantOverrides (loadTenantConfig)

def IsParentOrSelf (domain host : String) : Prop :=
  host = domain ∨ ('.' :: domain.toList) <:+ host.toList

def deploymentHost (context : ComputedContext) (config : Json) : String :=
  context.getHostnameFromUrl (withoutTrailingSlashes (textAt config ["deployment", "url"] ""))

/-- Where the tenant is reached: the host of the deployment for the default tenant, else the
custom domain of the record, else the slug in front of the host of the deployment. -/
def originHost (context : ComputedContext) (tenantId : String) (tenant : Tenant) (config : Json) :
    String :=
  if tenantId = DEFAULT_TENANT_ID then deploymentHost context config
  else (presentText tenant.domain).getD (tenantId ++ "." ++ deploymentHost context config)

def RpIdMatchesOrigin (context : ComputedContext) (tenantId : String) (tenant : Tenant)
    (config : Json) : Prop :=
  ∃ rpId, getNestedValue config rpIdPath = some (.str rpId) ∧
    IsParentOrSelf rpId (originHost context tenantId tenant config)

def setRpId (config : Json) : Option Json :=
  if isFalsy (getNestedValue config rpIdPath) ∨ textAt config rpIdPath "" = "localhost" then none
  else getNestedValue config rpIdPath

def RpIdFits (context : ComputedContext) (tenantId : String) (tenant : Tenant) (merged : Json) :
    Prop :=
  match setRpId merged with
  | some rpId => ∃ text, rpId = .str text ∧
      IsParentOrSelf text (originHost context tenantId tenant merged)
  | none => tenantId = DEFAULT_TENANT_ID ∨
      match presentText (some (textAt merged ["tenant_domain"] "")) with
      | some tenantDomain => IsParentOrSelf tenantDomain (originHost context tenantId tenant merged)
      | none => ∀ domain, presentText tenant.domain = some domain →
          IsParentOrSelf (deploymentHost context merged) domain

theorem isParentOrSelf_label (label host : String) :
    IsParentOrSelf host (label ++ "." ++ host) := by
  right
  refine ⟨label.toList, ?_⟩
  simp

section Loaded

variable {context : ComputedContext} {config : Json} (sections : HasSections config)
  (copied : config.clone = config)
include sections copied

theorem lookup_rpId : (applyComputedDefaults context config).lookup rpIdPath =
    computedLookup (rpIdField context (baseValues context config)) config := by
  have isDerived : DerivedField.rpId ∈ DERIVED_FIELDS := by simp [DERIVED_FIELDS]
  have applied := lookup_applied context sections (mem_computedFields context _ isDerived)
  rwa [copied] at applied

theorem rpId_of_set {rpId : Json} (isSet : setRpId config = some rpId) :
    getNestedValue (applyComputedDefaults context config) rpIdPath = some rpId := by
  rw [setRpId] at isSet
  split at isSet
  next => cases isSet
  next notUnset =>
    have isKept : (rpIdField context (baseValues context config)).2 config = none :=
      if_neg fun filled => notUnset filled.2
    rw [getNestedValue, lookup_rpId sections copied, computedLookup_none isKept]
    exact isSet

theorem rpId_of_unset (unset : setRpId config = none)
    (based : (baseValues context config).deploymentUrl ≠ "") :
    getNestedValue (applyComputedDefaults context config) rpIdPath =
      some (.str (relyingParty context (baseValues context config))) := by
  have isUnset : isFalsy (getNestedValue config rpIdPath) = true ∨
      textAt config rpIdPath "" = "localhost" := by
    rw [setRpId] at unset
    split at unset
    next isUnset => exact isUnset
    next => exact .inl (by rw [unset]; rfl)
  have filled : (rpIdField context (baseValues context config)).2 config =
      some (.str (relyingParty context (baseValues context config))) :=
    if_pos ⟨.inr based, isUnset⟩
  rw [getNestedValue, lookup_rpId sections copied, computedLookup_some filled]
  rfl

theorem originHost_applied (tenantId : String) (tenant : Tenant) :
    originHost context tenantId tenant (applyComputedDefaults context config) =
      originHost context tenantId tenant config := by
  have isBase : ["deployment", "url"] ∈ BASE_PATHS := by decide
  have sameUrl : textAt (applyComputedDefaults context config) ["deployment", "url"] "" =
      textAt config ["deployment", "url"] "" := by
    apply textAt_congr
    rw [getNestedValue, base_applied context sections isBase, copied, getNestedValue]
  rw [originHost, deploymentHost, sameUrl, originHost, deploymentHost]

end Loaded

theorem relyingParty_eq {context : ComputedContext} {tenantId : String}
    (isTenant : context.tenantId = some tenantId) (config : Json) :
    relyingParty context (baseValues context config) =
      if tenantId = DEFAULT_TENANT_ID then deploymentHost context config
      else (presentText (some (textAt config ["tenant_domain"] ""))).getD
        (deploymentHost context config) := by
  have isContext : (baseValues context config).isTenantContext =
      context.tenantId.any fun tenant => tenant != DEFAULT_TENANT_ID := rfl
  have isDomain : (baseValues context config).tenantDomain = textAt config ["tenant_domain"] "" := rfl
  have isDeployment : (baseValues context config).deploymentUrl =
      withoutTrailingSlashes (textAt config ["deployment", "url"] "") := rfl
  rw [relyingParty, isContext, isTenant, Option.any_some, isDomain, isDeployment, deploymentHost]
  generalize textAt config ["tenant_domain"] "" = tenantDomain
  by_cases isDefault : tenantId = DEFAULT_TENANT_ID
  · rw [if_pos isDefault, if_neg]
    simp [isDefault]
  · rw [if_neg isDefault]
    by_cases noDomain : tenantDomain = ""
    · rw [if_neg (by simp [noDomain]), presentText_none.mpr (.inr (by rw [noDomain]))]
      rfl
    · rw [if_pos ⟨by simpa using isDefault, noDomain⟩, presentText_some.mpr ⟨rfl, noDomain⟩]
      rfl

theorem computed_matches_iff {context : ComputedContext} {tenantId : String} (tenant : Tenant)
    (isTenant : context.tenantId = some tenantId) (config : Json) :
    IsParentOrSelf (relyingParty context (baseValues context config))
        (originHost context tenantId tenant config) ↔
      tenantId = DEFAULT_TENANT_ID ∨
        match presentText (some (textAt config ["tenant_domain"] "")) with
        | some tenantDomain => IsParentOrSelf tenantDomain (originHost context tenantId tenant config)
        | none => ∀ domain, presentText tenant.domain = some domain →
            IsParentOrSelf (deploymentHost context config) domain := by
  rw [relyingParty_eq isTenant]
  by_cases isDefault : tenantId = DEFAULT_TENANT_ID
  · rw [if_pos isDefault, originHost, if_pos isDefault]
    exact iff_of_true (.inl rfl) (.inl isDefault)
  · rw [if_neg isDefault, or_iff_right isDefault]
    cases presentText (some (textAt config ["tenant_domain"] "")) with
    | some tenantDomain => rfl
    | none =>
      rw [Option.getD_none, originHost, if_neg isDefault]
      cases presentText tenant.domain with
      | some domain => simp
      | none => simpa using isParentOrSelf_label tenantId (deploymentHost context config)

/-- For every platform configuration, override document and tenant record: the relying party that
is left in the tenant's configuration belongs to the tenant's host exactly where it fits. -/
theorem rpId_matches_iff {context : ComputedContext} {tenantId : String} (tenant : Tenant)
    {cache : Json} {document : Option Json} (isTenant : context.tenantId = some tenantId)
    (sections : HasSections (mergedConfig cache document))
    (based : withoutTrailingSlashes
      (textAt (mergedConfig cache document) ["deployment", "url"] "") ≠ "") :
    RpIdMatchesOrigin context tenantId tenant (loadTenantConfig context cache document) ↔
      RpIdFits context tenantId tenant (mergedConfig cache document) := by
  have copied := mergedConfig_clone cache document
  rw [loadTenantConfig_eq]
  generalize mergedConfig cache document = config at sections copied based ⊢
  rw [RpIdMatchesOrigin, originHost_applied sections copied, RpIdFits]
  cases isSet : setRpId config with
  | some rpId =>
    rw [rpId_of_set sections copied isSet]
    simp only [Option.some.injEq]
  | none =>
    rw [rpId_of_unset sections copied isSet based]
    simp only [Option.some.injEq, Json.str.injEq, exists_eq_left']
    exact computed_matches_iff tenant isTenant config

def getHostnameFromUrl (tables : Url.Tables) (url : String) : String :=
  (Url.hostname tables url.toList).elim "localhost" String.ofList

def callFor (tenantId : Option String) : ComputedContext :=
  { TenantOverrides.plainContext with
    tenantId, getHostnameFromUrl := getHostnameFromUrl noTables }

def parakoPlatform : Json := applyComputedDefaults (callFor none) (siteAt "https://parako.test")

theorem value_of_text {config : Json} {path : Path} {text : String} (present : text ≠ "")
    (isText : textAt config path "" = text) : getNestedValue config path = some (.str text) := by
  rw [textAt] at isText
  split at isText
  next held isHeld =>
    split at isText
    next => exact absurd isText.symm present
    next => rw [isHeld, isText]
  next => exact absurd isText.symm present

theorem parakoPlatform_sections : HasSections (mergedConfig parakoPlatform none) := by
  have applied := sections_applied (callFor none) (siteAt_sections "https://parako.test")
  exact applied.clone.clone

theorem setRpId_parako :
    setRpId (mergedConfig parakoPlatform none) = some (.str "parako.test") := by
  have isText : textAt (mergedConfig parakoPlatform none) rpIdPath "" = "parako.test" := by
    decide +kernel
  have isValue := value_of_text (by decide) isText
  rw [setRpId, isText, isValue, if_neg]
  simp [isFalsy, Json.truthy]

theorem rpId_of_acme_matches : RpIdMatchesOrigin (callFor (some "acme")) "acme" acme
    (loadTenantConfig (callFor (some "acme")) parakoPlatform none) := by
  apply (rpId_matches_iff acme rfl parakoPlatform_sections (by decide +kernel)).mpr
  rw [RpIdFits, setRpId_parako]
  have isHost : originHost (callFor (some "acme")) "acme" acme (mergedConfig parakoPlatform none) =
      "acme" ++ "." ++ "parako.test" := by decide +kernel
  exact ⟨"parako.test", rfl, by rw [isHost]; exact isParentOrSelf_label "acme" "parako.test"⟩

theorem customDomain_keeps_platform_rpId : ¬RpIdMatchesOrigin (callFor (some "acme")) "acme"
    acmeAtDomain (loadTenantConfig (callFor (some "acme")) parakoPlatform none) := by
  rintro ⟨rpId, isRpId, belongs⟩
  have isText := textAt_found (getNestedValue_some.mp isRpId)
  have isParako : textAt (loadTenantConfig (callFor (some "acme")) parakoPlatform none)
      rpIdPath "" = "parako.test" := by decide +kernel
  have isHost : originHost (callFor (some "acme")) "acme" acmeAtDomain
      (loadTenantConfig (callFor (some "acme")) parakoPlatform none) = "auth.acme.test" := by
    decide +kernel
  rw [← isText, isParako, isHost] at belongs
  rcases belongs with same | parent
  · exact absurd same (by decide)
  · exact absurd parent (by decide +kernel)

end ParakoId.Tenancy
