import ParakoId.SessionStore.SessionIds

/-!
When the tenant in the id of a new session is the one that the middleware binds the session to.
-/

namespace ParakoId.SessionStore

open TenantScope (DEFAULT_TENANT_ID isTenantSlug)
open Tenancy (Arrival Request ExtractionSource Tenant MultiTenancy Session handler extractTenant
  tenantOfSource tenantOfHost customDomain extractSubdomain isIpHostname presentText
  hasValidExtractedTenant letThrough_admission)
open Url (labels)

def hostLabel (hostname : String) : Option String :=
  let parts := labels hostname.toList
  if 3 ≤ parts.length then parts.head?.map String.ofList else none

def NamesInId (value tenantId : String) : Prop :=
  value = tenantId ∨ (tenantId = DEFAULT_TENANT_ID ∧ isSessionTenantId value = false)

theorem namesInId_iff {value tenantId : String} (valid : isSessionTenantId tenantId = true) :
    (if isSessionTenantId value = true then value else DEFAULT_TENANT_ID) = tenantId ↔
      NamesInId value tenantId := by
  by_cases isValid : isSessionTenantId value = true
  · simp [NamesInId, isValid]
  · have different : value ≠ tenantId := by
      rintro rfl
      exact isValid valid
    simp [NamesInId, isValid, different, eq_comm]

theorem namesInId_empty {tenantId : String} (valid : isSessionTenantId tenantId = true) :
    NamesInId "" tenantId ↔ tenantId = DEFAULT_TENANT_ID := by
  have unnamed : isSessionTenantId "" = false := by decide
  have named : "" ≠ tenantId := by
    rintro rfl
    rw [unnamed] at valid
    cases valid
  simp [NamesInId, unnamed, named]

/-- The header that ids are made from: the configured one, or the usual one where none is. -/
def idHeader (arrival : Arrival) : Option String :=
  presentText (arrival.request.headers
    (if arrival.multi_tenancy.tenant_header = "" then "x-tenant-id"
      else arrival.multi_tenancy.tenant_header))

def laterCandidate (arrival : Arrival) (rest : List ExtractionSource) : String :=
  ((idHeader arrival).filter fun _ => rest.contains .header).getD DEFAULT_TENANT_ID

def ReadAlike (arrival : Arrival) (tenantId : String) : List ExtractionSource → Prop
  | [] => True
  | .header :: rest =>
    match idHeader arrival with
    | some value => arrival.multi_tenancy.tenant_header ≠ "" ∨ NamesInId value tenantId
    | none => ReadAlike arrival tenantId rest
  | .subdomain :: rest =>
    match hostLabel arrival.request.hostname, customDomain arrival.tenants
        arrival.request.hostname with
    | some label, some _ => NamesInId label tenantId
    | none, some _ => NamesInId (laterCandidate arrival rest) tenantId
    | some label, none =>
      if isIpHostname arrival.request.hostname.toList then NamesInId label tenantId
      else label ≠ "" ∨ tenantId = DEFAULT_TENANT_ID
    | none, none => ReadAlike arrival tenantId rest

section Readings

variable {arrival : Arrival}

theorem sourceCandidate_header :
    sourceCandidate arrival.multi_tenancy.tenant_header arrival.request .header =
      idHeader arrival := rfl

theorem sourceCandidate_subdomain :
    sourceCandidate arrival.multi_tenancy.tenant_header arrival.request .subdomain =
      hostLabel arrival.request.hostname := rfl

theorem extractSubdomain_eq (hostname : String) :
    extractSubdomain hostname =
      if isIpHostname hostname.toList then none else hostLabel hostname := rfl

theorem laterCandidate_eq (noLabel : hostLabel arrival.request.hostname = none)
    (rest : List ExtractionSource) :
    (rest.findSome? (sourceCandidate arrival.multi_tenancy.tenant_header arrival.request)).getD
        DEFAULT_TENANT_ID = laterCandidate arrival rest := by
  rw [laterCandidate]
  congr 1
  induction rest with
  | nil => simp [Option.filter_eq_none_iff.mpr]
  | cons source rest ih =>
    cases source with
    | header =>
      rw [List.findSome?_cons, sourceCandidate_header]
      cases isHeader : idHeader arrival with
      | some value => simp [Option.filter]
      | none =>
        rw [ih, isHeader]
        rfl
    | subdomain =>
      rw [List.findSome?_cons, sourceCandidate_subdomain, noLabel]
      simp only [ih]
      congr 1

theorem tenantOfSource_header (noNameless : arrival.request.headers "" = none) :
    tenantOfSource arrival.tenants arrival.multi_tenancy.tenant_header arrival.request .header =
      if arrival.multi_tenancy.tenant_header = "" then none
      else (idHeader arrival).map fun headerTenant => ⟨headerTenant, none⟩ := by
  rw [tenantOfSource, idHeader]
  split
  · rename_i nameless
    rw [nameless, noNameless]
    rfl
  · rfl

theorem namesInId_readings (noNameless : arrival.request.headers "" = none) {tenantId : String}
    (valid : isSessionTenantId tenantId = true) (priority : List ExtractionSource)
    (extracted : ((priority.findSome? (tenantOfSource arrival.tenants
      arrival.multi_tenancy.tenant_header arrival.request)).getD
        ⟨DEFAULT_TENANT_ID, none⟩).tenantId = tenantId) :
    NamesInId ((priority.findSome?
      (sourceCandidate arrival.multi_tenancy.tenant_header arrival.request)).getD
        DEFAULT_TENANT_ID) tenantId ↔ ReadAlike arrival tenantId priority := by
  induction priority with
  | nil => exact iff_of_true (.inl extracted) trivial
  | cons source rest ih =>
    rw [List.findSome?_cons] at extracted ⊢
    cases source with
    | header =>
      rw [sourceCandidate_header, ReadAlike]
      rw [tenantOfSource_header noNameless] at extracted
      cases isHeader : idHeader arrival with
      | none =>
        rw [isHeader, Option.map_none, ite_self] at extracted
        exact ih extracted
      | some value =>
        by_cases nameless : arrival.multi_tenancy.tenant_header = ""
        · simp [nameless]
        · rw [isHeader, if_neg nameless] at extracted
          exact iff_of_true (.inl extracted) (.inl nameless)
    | subdomain =>
      rw [sourceCandidate_subdomain, ReadAlike]
      rw [tenantOfSource, tenantOfHost, extractSubdomain_eq] at extracted
      cases isDomain : customDomain arrival.tenants arrival.request.hostname with
      | some tenant =>
        cases isLabel : hostLabel arrival.request.hostname with
        | some label => rfl
        | none => simp only [laterCandidate_eq isLabel]
      | none =>
        rw [isDomain] at extracted
        cases isLabel : hostLabel arrival.request.hostname with
        | none =>
          rw [isLabel, ite_self] at extracted
          exact ih extracted
        | some label =>
          rw [isLabel] at extracted
          by_cases address : isIpHostname arrival.request.hostname.toList = true
          · simp [address]
          · simp only [Option.getD_some, if_neg address]
            by_cases empty : label = ""
            · rw [empty, namesInId_empty valid]
              simp
            · have present : presentText (some label) = some label := by
                simp [presentText, Option.filter, empty]
              rw [if_neg address, present] at extracted
              exact iff_of_true (.inl extracted) (.inl empty)

theorem fresh_binding {tenantId : String}
    (binds : (handler arrival .fresh).1.tenantId = some tenantId) :
    (arrival.multi_tenancy.enabled = false ∧ tenantId = DEFAULT_TENANT_ID) ∨
      (arrival.multi_tenancy.enabled = true ∧ isSessionTenantId tenantId = true ∧
        (extractTenant arrival.tenants arrival.multi_tenancy.tenant_header arrival.request
          arrival.multi_tenancy.extraction_priority).tenantId = tenantId) := by
  rw [handler] at binds
  by_cases disabled : arrival.multi_tenancy.enabled = false
  · rw [if_pos disabled] at binds
    injection binds with isDefault
    exact .inl ⟨disabled, isDefault.symm⟩
  · rw [if_neg disabled] at binds
    right
    by_cases rejects : arrival.extractionRejects = true
    · rw [if_pos rejects] at binds
      cases binds
    · rw [if_neg rejects] at binds
      generalize extractTenant arrival.tenants arrival.multi_tenancy.tenant_header arrival.request
        arrival.multi_tenancy.extraction_priority = extracted at binds ⊢
      have unbound : (Session.fresh).tenantId = none := rfl
      have kept : Tenancy.mismatches extracted.tenantId none = false := by
        simp [Tenancy.mismatches, presentText]
      have inUse : Tenancy.tenantInUse extracted.tenantId none = extracted.tenantId := by
        simp [Tenancy.tenantInUse, presentText]
      simp only [unbound, kept, inUse, Bool.false_eq_true, if_false] at binds
      have admission := letThrough_admission arrival extracted.tenant extracted.tenantId .fresh
      generalize Tenancy.letThrough arrival extracted.tenant extracted.tenantId .fresh = result
        at binds admission
      cases admission with
      | refused _ | ops _ => cases binds
      | binds notOps known passes =>
        injection binds with isTenant
        refine ⟨by simpa using disabled, ?_, isTenant⟩
        rw [← isTenant]
        rcases known with isDefault | isValid
        · rw [isDefault]
          exact isSessionTenantId_default
        · simp only [hasValidExtractedTenant, Bool.or_eq_true, beq_iff_eq, notOps, false_or,
            Bool.and_eq_true] at isValid
          rcases isValid with isPlatforms | isSlug
          · rw [isPlatforms]
            decide
          · simp [isSessionTenantId, isSlug.2]

end Readings

/-- The id of a new session carries the tenant, and the session bound to the tenant that is
stored under it is read back until it expires. -/
def Readable (arrival : Arrival) (random : RandomComponent) (tenantId : String) : Prop :=
  ∃ sid, generateSessionId arrival.multi_tenancy (some arrival.request) random.text = .ok sid ∧
    tenantIdFromSessionId sid = tenantId ∧
    ∀ rows session expires_at, Partitioned rows → session.tenantId = some tenantId →
      ∃ written, PrismaSessionStore.set rows sid session expires_at = .ok written ∧
        ∀ now ≤ expires_at, PrismaSessionStore.get written sid now = some session

theorem generateSessionId_tenant (multiTenancy : MultiTenancy) (request : Request)
    (random : RandomComponent) :
    ∃ sid, generateSessionId multiTenancy (some request) random.text = .ok sid ∧
      tenantIdFromSessionId sid = resolveNewSessionTenantId multiTenancy (some request) := by
  rw [generateSessionId]
  by_cases disabled : multiTenancy.enabled = false
  · refine ⟨random.text, if_pos disabled, ?_⟩
    rw [tenantIdFromSessionId_random]
    simp [resolveNewSessionTenantId, disabled]
  · have valid := isSessionTenantId_resolved multiTenancy request
    have created : createTenantSessionId
        (resolveNewSessionTenantId multiTenancy (some request)) random.text =
          .ok (resolveNewSessionTenantId multiTenancy (some request) ++ "." ++ random.text) := by
      rw [createTenantSessionId, if_neg (by simp [valid]), if_neg random.nonempty]
    exact ⟨_, by rw [if_neg disabled, created], tenantIdFromSessionId_create created⟩

theorem readable_iff_resolved (arrival : Arrival) (random : RandomComponent) (tenantId : String) :
    Readable arrival random tenantId ↔
      resolveNewSessionTenantId arrival.multi_tenancy (some arrival.request) = tenantId := by
  obtain ⟨sid, generated, isTenant⟩ :=
    generateSessionId_tenant arrival.multi_tenancy arrival.request random
  constructor
  · rintro ⟨other, isOther, carries, _⟩
    rw [generated, Except.ok.injEq] at isOther
    rw [← isTenant, isOther, carries]
  · intro resolved
    refine ⟨sid, generated, isTenant.trans resolved, ?_⟩
    intro rows session expires_at partitioned bound
    obtain ⟨written, isSet, _⟩ := get_set partitioned sid session (Nat.le_refl expires_at)
    refine ⟨written, isSet, ?_⟩
    intro now live
    obtain ⟨other, isOther, isRead⟩ := get_set partitioned sid session live
    rw [isSet, Except.ok.injEq] at isOther
    subst isOther
    apply isRead.mpr
    intro tenant isBound
    rw [bound, Option.some.injEq] at isBound
    rw [← isBound, isTenant, resolved]

/-- A new session that the middleware binds to a tenant is readable in that tenant exactly where
there is one tenant only, or the request is read alike for the binding and for the id. -/
theorem session_readable_iff (arrival : Arrival) (random : RandomComponent)
    (noNameless : arrival.request.headers "" = none) {tenantId : String}
    (binds : (handler arrival .fresh).1.tenantId = some tenantId) :
    Readable arrival random tenantId ↔
      arrival.multi_tenancy.enabled = false ∨
        ReadAlike arrival tenantId arrival.multi_tenancy.extraction_priority := by
  rw [readable_iff_resolved]
  rcases fresh_binding binds with ⟨disabled, isDefault⟩ | ⟨enabled, valid, extracted⟩
  · simp [resolveNewSessionTenantId, disabled, isDefault]
  · rw [resolveNewSessionTenantId_enabled arrival.request enabled]
    simp only [namesInId_iff valid, enabled, Bool.true_eq_false, false_or]
    exact namesInId_readings noNameless valid arrival.multi_tenancy.extraction_priority extracted

def zeroComponent : RandomComponent where
  text := "00000000-0000-4000-8000-000000000000"
  characters := Text.forall_of_all (by decide)
  nonempty := by decide

theorem subdomain_session_readable :
    Readable (Tenancy.developmentArrival "acme.parako.test") zeroComponent "acme" ↔
      (Tenancy.developmentArrival "acme.parako.test").multi_tenancy.enabled = false ∨
        ReadAlike (Tenancy.developmentArrival "acme.parako.test") "acme"
          (Tenancy.developmentArrival "acme.parako.test").multi_tenancy.extraction_priority :=
  session_readable_iff (Tenancy.developmentArrival "acme.parako.test") zeroComponent rfl
    (by decide +kernel)

def customerArrival : Arrival :=
  { Tenancy.developmentArrival "login.customer.example" with
    tenants := [⟨"customer", some "login.customer.example", .active, none⟩] }

theorem customDomain_session_lost :
    (handler customerArrival .fresh).1.tenantId = some "customer" ∧
      generateSessionId customerArrival.multi_tenancy (some customerArrival.request)
        zeroComponent.text = .ok "login.00000000-0000-4000-8000-000000000000" ∧
      ¬Readable customerArrival zeroComponent "customer" := by
  refine ⟨by decide +kernel, by decide +kernel, ?_⟩
  rw [readable_iff_resolved]
  decide +kernel

end ParakoId.SessionStore
