import ParakoId.ConfigManager.Freshness
import ParakoId.ManagementApi.JwtAuth
import ParakoId.TenantOverrides.ConcurrentSaves

/-!
`TenantsController.updateConfig` and `getConfig`, over the override documents of all tenants and
the configuration manager that serves their requests.
-/

namespace ParakoId.ManagementApi

open ConfigManager (Manager Pipeline tenantConfigOf)
open TenantOverrides (ALLOWED_OVERRIDE_SECTIONS Environment carriedSections loadOverrides noKeys
  property_carriedSections saveOverrides storedSection)

structure ITenant where
  id : Option String
  _id : Option String
  slug : String

inductive TenantRecord
  | row (id slug : String)
  | document (_id slug : String)

def TenantRecord.slug : TenantRecord → String
  | .row _ slug => slug
  | .document _ slug => slug

-- `toDoc` of the Prisma repository and `serializeDocument` of the Mongoose one
def TenantRecord.toDoc : TenantRecord → ITenant
  | .row id slug => ⟨some id, none, slug⟩
  | .document _id slug => ⟨some _id, some _id, slug⟩

def getTenantBySlug (tenants : List TenantRecord) (slug : String) : Option ITenant :=
  (tenants.find? fun tenant => tenant.slug = slug).map TenantRecord.toDoc

/-- `String(tenant.id ?? tenant._id ?? tenant.slug)` -/
def ITenant.tenantId (tenant : ITenant) : String := (tenant.id.or tenant._id).getD tenant.slug

def allowedSections : List String :=
  ["application", "branding", "security", "features", "oidc", "integrations", "notifications"]

def tenantNotFound (detail : String) : ProblemDetail :=
  ⟨"urn:parako:error:tenant-not-found", "Tenant Not Found", 404, detail, none⟩

def sectionNotAllowed (detail path : String) : ProblemDetail :=
  ⟨"urn:parako:error:section-not-allowed", "Configuration Section Not Allowed", 400, detail,
    some path⟩

def internal (detail path : String) : ProblemDetail :=
  ⟨"urn:parako:error:internal", "Internal Server Error", 500, detail, some path⟩

/-- What is passed to `next`: a problem of the controller's own, or an error that a service
threw. -/
inductive Failure
  | problem (problem : ProblemDetail)
  | thrown (message : String)

def getConfig (pipeline : Pipeline) (tenants : List TenantRecord) (manager : Manager)
    (slug : String) : Except Failure (Option Json) :=
  match getTenantBySlug tenants slug with
  | none => .error (.problem (tenantNotFound ("Tenant '" ++ slug ++ "' not found")))
  | some tenant =>
    if pipeline.hasOverrideService then .ok (loadOverrides (manager.overrides tenant.tenantId))
    else .ok (some (.obj [] fun _ => .null))

/-- The manager is left as it is; of what it reads, the stored overrides change. -/
def updateConfig (environment : Environment) (pipeline : Pipeline) (tenants : List TenantRecord)
    (manager : Manager) (slug sectionName path : String) (data : Json) :
    Except Failure (Manager × Json) :=
  match getTenantBySlug tenants slug with
  | none => .error (.problem (tenantNotFound ("Tenant '" ++ slug ++ "' not found")))
  | some tenant =>
    if sectionName ∉ allowedSections then
      .error (.problem (sectionNotAllowed ("Configuration section '" ++ sectionName ++
        "' is not a valid override section. Allowed: " ++ ", ".intercalate allowedSections) path))
    else if !pipeline.hasOverrideService then
      .error (.problem (internal "Configuration management is not available" path))
    else
      match saveOverrides environment (Json.object [(sectionName, data)])
          (some manager.shared.cache) (manager.overrides tenant.tenantId) with
      | .error message => .error (.thrown message)
      | .ok saved =>
        .ok ({ manager with
          overrides := Function.update manager.overrides tenant.tenantId (some saved) }, saved)

def loadedConfig (pipeline : Pipeline) (manager : Manager) (tenantId : String) : Json :=
  tenantConfigOf pipeline tenantId manager.shared.cache
    (if pipeline.hasOverrideService then manager.overrides tenantId else none)

/-- `ensureTenantConfig` and then `getConfig`. -/
def requestConfig (pipeline : Pipeline) (manager : Manager) (tenantId : String) : Json :=
  match manager.shared.tenantConfigs tenantId with
  | some entry => entry.config
  | none => loadedConfig pipeline manager tenantId

theorem storedSection_ne_null (document : Option Json) (name : String) :
    storedSection document name ≠ some .null := by
  unfold storedSection
  split
  · intro isNull
    cases isNull
  next notNull => exact notNull

theorem storedSection_loadOverrides (document : Option Json) {name : String}
    (isSection : name ∈ ALLOWED_OVERRIDE_SECTIONS) :
    storedSection (loadOverrides document) name = storedSection document name := by
  have carried := property_carriedSections document isSection
  have stored : storedSection (some (carriedSections document)) name =
      storedSection document name := by
    rw [storedSection, Option.bind_some, carried]
    split
    next isNull => exact absurd isNull (storedSection_ne_null document name)
    next => rfl
  rw [loadOverrides]
  split
  next isEmpty =>
    have noSections : (carriedSections document).property name = none := by
      simp only [carriedSections, noKeys, List.isEmpty_iff] at isEmpty
      simp only [carriedSections, Json.property, isEmpty, List.not_mem_nil, if_false]
    rw [← carried, noSections]
    rfl
  next => exact stored

def ReadsBack (pipeline : Pipeline) (tenants : List TenantRecord) (after : Manager)
    (slug : String) (saved : Json) : Prop :=
  ∃ overrides, getConfig pipeline tenants after slug = .ok overrides ∧
    ∀ name ∈ ALLOWED_OVERRIDE_SECTIONS,
      storedSection overrides name = storedSection (some saved) name

/-- The configuration of the tenant's requests has the saved overrides on it, the tenant's
configuration and no other has been invalidated, and what is read back is what was saved. -/
structure InForce (pipeline : Pipeline) (tenants : List TenantRecord) (before after : Manager)
    (slug : String) (saved : Json) : Prop where
  loaded : requestConfig pipeline after slug =
    tenantConfigOf pipeline slug after.shared.cache (some saved)
  invalidated : after.epochs = Function.update before.epochs slug (before.epochs slug + 1)
  readBack : ReadsBack pipeline tenants after slug saved

theorem updateConfig_ok {environment : Environment} {pipeline : Pipeline}
    {tenants : List TenantRecord} {before after : Manager} {slug sectionName path : String}
    {data saved : Json}
    (accepted : updateConfig environment pipeline tenants before slug sectionName path data =
      .ok (after, saved)) :
    ∃ tenant, getTenantBySlug tenants slug = some tenant ∧ pipeline.hasOverrideService = true ∧
      saveOverrides environment (Json.object [(sectionName, data)]) (some before.shared.cache)
        (before.overrides tenant.tenantId) = .ok saved ∧
      after = { before with
        overrides := Function.update before.overrides tenant.tenantId (some saved) } := by
  unfold updateConfig at accepted
  split at accepted
  · cases accepted
  next tenant isTenant =>
    split at accepted
    · cases accepted
    · split at accepted
      · cases accepted
      next hasService =>
        split at accepted
        · cases accepted
        next isSaved =>
          injection accepted with same
          injection same with isAfter isResult
          subst isResult
          refine ⟨tenant, isTenant, ?_, isSaved, isAfter.symm⟩
          simpa using hasService

theorem requestConfig_of_otherTenant (pipeline : Pipeline) (manager : Manager)
    {changed tenantId : String} (different : tenantId ≠ changed) (document : Option Json) :
    requestConfig pipeline
        { manager with overrides := Function.update manager.overrides changed document } tenantId =
      requestConfig pipeline manager tenantId := by
  simp only [requestConfig, loadedConfig, Function.update_of_ne different, Manager.shared]

/-- No update that succeeds is in force: it invalidates nothing, and where the tenant's id is not
its slug the configuration of the tenant's requests stays what it was. What is read back is what
was saved. -/
theorem overrides_never_in_force (environment : Environment) (pipeline : Pipeline)
    (tenants : List TenantRecord) (before after : Manager) (slug sectionName path : String)
    (data saved : Json)
    (accepted : updateConfig environment pipeline tenants before slug sectionName path data =
      .ok (after, saved)) :
    ¬InForce pipeline tenants before after slug saved ∧
      ReadsBack pipeline tenants after slug saved ∧
      ∀ tenant, getTenantBySlug tenants slug = some tenant → tenant.tenantId ≠ slug →
        requestConfig pipeline after slug = requestConfig pipeline before slug := by
  obtain ⟨tenant, isTenant, hasService, isSaved, rfl⟩ := updateConfig_ok accepted
  refine ⟨?_, ?_, ?_⟩
  · intro inForce
    have counted := congrFun inForce.invalidated slug
    rw [Function.update_self] at counted
    exact Nat.succ_ne_self _ counted.symm
  · refine ⟨loadOverrides (some saved), ?_, fun name => storedSection_loadOverrides (some saved)⟩
    simp only [getConfig, isTenant, hasService, if_true, Function.update_self]
  · intro found isFound different
    rw [isTenant] at isFound
    injection isFound with same
    subst same
    exact requestConfig_of_otherTenant pipeline before different.symm (some saved)

def acmeTenants : List TenantRecord := [.row "b7b0c2f4" "acme"]

def beforeUpdate : Manager :=
  Manager.start ⟨TenantOverrides.atPath (.bool false) TenantOverrides.mfaPath, ⟨none, 0⟩,
    fun _ => none⟩ fun _ => none

def requireMfa : Except Failure (Manager × Json) :=
  updateConfig TenantOverrides.plainEnvironment ConfigManager.plainPipeline acmeTenants
    beforeUpdate "acme" "security" "/tenants/acme/config/security"
    (TenantOverrides.atPath (.bool true) ["authentication", "multi_factor", "enabled"])

theorem required_mfa_reads_back : ∃ after saved, requireMfa = .ok (after, saved) ∧
    ReadsBack ConfigManager.plainPipeline acmeTenants after "acme" saved := by
  have isAccepted : requireMfa.toBool = true := by decide +kernel
  cases accepted : requireMfa with
  | error failure =>
    rw [accepted] at isAccepted
    cases isAccepted
  | ok updated =>
    have holds := overrides_never_in_force TenantOverrides.plainEnvironment
      ConfigManager.plainPipeline acmeTenants beforeUpdate updated.1 "acme" "security"
      "/tenants/acme/config/security"
      (TenantOverrides.atPath (.bool true) ["authentication", "multi_factor", "enabled"])
      updated.2 accepted
    exact ⟨updated.1, updated.2, rfl, holds.2.1⟩

def requiresMfa (config : Json) : Bool :=
  ((Config.getNestedValue config TenantOverrides.mfaPath).map Json.truthy).getD false

theorem required_mfa_not_in_force : ∃ after saved, requireMfa = .ok (after, saved) ∧
    requiresMfa saved = true ∧
    requiresMfa (requestConfig ConfigManager.plainPipeline after "acme") = false ∧
    ¬InForce ConfigManager.plainPipeline acmeTenants beforeUpdate after "acme" saved := by
  have evaluated : (requireMfa.toOption.any fun updated =>
      requiresMfa updated.2 &&
        !requiresMfa (requestConfig ConfigManager.plainPipeline updated.1 "acme") &&
        requiresMfa (tenantConfigOf ConfigManager.plainPipeline "acme" updated.1.shared.cache
          (some updated.2))) = true := by decide +kernel
  cases accepted : requireMfa with
  | error failure =>
    rw [accepted] at evaluated
    cases evaluated
  | ok updated =>
    rw [accepted] at evaluated
    simp only [Except.toOption, Option.any_some, Bool.and_eq_true, Bool.not_eq_true'] at evaluated
    refine ⟨updated.1, updated.2, rfl, evaluated.1.1, evaluated.1.2, ?_⟩
    intro inForce
    have same := evaluated.1.2
    rw [inForce.loaded, evaluated.2] at same
    cases same

end ParakoId.ManagementApi
