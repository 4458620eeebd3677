import ParakoId.Library.Domains
import ParakoId.TenantScope.Extension
import ParakoId.Tenancy.Issuer

/-! Which tenant a host belongs to. -/

namespace ParakoId.Tenancy

open Config (withoutTrailingSlashes withoutProtocol DEFAULT_TENANT_ID)
open TenantScope (isTenantSlug)
open Url (Tables Text labels)

def isIpHostname (hostname : Text) : Bool :=
  Url.isIP (match hostname with
    | '[' :: rest => if rest.getLast? = some ']' then rest.dropLast else hostname
    | _ => hostname)

structure Request where
  hostname : String
  headers : String → Option String

inductive ExtractionSource
  | header
  | subdomain
  deriving DecidableEq

structure Extracted where
  tenantId : String
  tenant : Option Tenant
  deriving DecidableEq

def extractSubdomain (hostname : String) : Option String :=
  if isIpHostname hostname.toList then none
  else
    let parts := labels hostname.toList
    if 3 ≤ parts.length then parts.head?.map String.ofList else none

/-- `req.hostname.toLowerCase().replace(/\.$/, '')`, for hosts in ASCII. -/
def normalizedHostname (hostname : String) : String :=
  let lowered := Url.lower hostname.toList
  String.ofList (if lowered.getLast? = some '.' then lowered.dropLast else lowered)

def findByDomain (tenants : List Tenant) (domain : String) : Option Tenant :=
  tenants.find? fun tenant => tenant.domain = some domain

def customDomain (tenants : List Tenant) (hostname : String) : Option Tenant :=
  let normalized := normalizedHostname hostname
  if isIpHostname normalized.toList then none else findByDomain tenants normalized

/-- The `subdomain` case of `extractTenant`. -/
def tenantOfHost (tenants : List Tenant) (hostname : String) : Option Extracted :=
  (customDomain tenants hostname).elim
    ((presentText (extractSubdomain hostname)).map fun subdomain => ⟨subdomain, none⟩)
    fun domainTenant => some ⟨domainTenant.slug, some domainTenant⟩

def tenantOfSource (tenants : List Tenant) (tenantHeader : String) (request : Request) :
    ExtractionSource → Option Extracted
  | .header => (presentText (request.headers tenantHeader)).map fun headerTenant =>
    ⟨headerTenant, none⟩
  | .subdomain => tenantOfHost tenants request.hostname

def extractTenant (tenants : List Tenant) (tenantHeader : String) (request : Request)
    (extractionPriority : List ExtractionSource) : Extracted :=
  (extractionPriority.findSome? (tenantOfSource tenants tenantHeader request)).getD
    ⟨DEFAULT_TENANT_ID, none⟩

def NamesTenant (tenants : List Tenant) (hostname slug : String) : Prop :=
  (customDomain tenants hostname).elim
    (isIpHostname hostname.toList = false ∧ 3 ≤ (labels hostname.toList).length ∧
      (labels hostname.toList).head? = some slug.toList)
    fun domainTenant => domainTenant.slug = slug

def NamesNoTenant (tenants : List Tenant) (hostname : String) : Prop :=
  customDomain tenants hostname = none ∧
    (isIpHostname hostname.toList = true ∨ (labels hostname.toList).length < 3 ∨
      (labels hostname.toList).head? = some [])

theorem extractSubdomain_some {hostname subdomain : String} :
    extractSubdomain hostname = some subdomain ↔ isIpHostname hostname.toList = false ∧
      3 ≤ (labels hostname.toList).length ∧
        (labels hostname.toList).head? = some subdomain.toList := by
  simp only [extractSubdomain]
  constructor
  · intro extracted
    split at extracted
    · cases extracted
    · next notAddress =>
        split at extracted
        · next long =>
            obtain ⟨first, isHead, rfl⟩ := Option.map_eq_some_iff.mp extracted
            exact ⟨by simpa using notAddress, long, by simpa using isHead⟩
        · cases extracted
  · rintro ⟨notAddress, long, isHead⟩
    simp [notAddress, long, isHead]

theorem extractSubdomain_none {hostname : String} :
    extractSubdomain hostname = none ↔ isIpHostname hostname.toList = true ∨
      (labels hostname.toList).length < 3 := by
  have nonempty : labels hostname.toList ≠ [] := List.splitOn_ne_nil '.' _
  simp only [extractSubdomain]
  split
  next isAddress => simp [isAddress]
  next notAddress =>
    split
    next long => simp [notAddress, nonempty, long]
    next short =>
      simp only [true_iff]
      exact .inr (by omega)

theorem tenantOfHost_some {tenants : List Tenant} {hostname slug : String} (named : slug ≠ "") :
    (tenantOfHost tenants hostname).map Extracted.tenantId = some slug ↔
      NamesTenant tenants hostname slug := by
  rw [tenantOfHost, NamesTenant]
  cases customDomain tenants hostname with
  | some tenant => simp
  | none =>
    simp only [Option.elim_none, Option.map_map]
    rw [Option.map_eq_some_iff, ← extractSubdomain_some]
    constructor
    · rintro ⟨subdomain, present, rfl⟩
      exact (presentText_some.mp present).1
    · intro extracted
      exact ⟨slug, presentText_some.mpr ⟨extracted, named⟩, rfl⟩

theorem tenantOfHost_none {tenants : List Tenant} {hostname : String} :
    tenantOfHost tenants hostname = none ↔ NamesNoTenant tenants hostname := by
  rw [tenantOfHost, NamesNoTenant]
  cases customDomain tenants hostname with
  | some tenant => simp
  | none =>
    simp only [Option.elim_none, Option.map_eq_none_iff, presentText_none, extractSubdomain_none,
      extractSubdomain_some, true_and]
    constructor
    · rintro ((isAddress | short) | ⟨_, _, isHead⟩)
      · exact .inl isAddress
      · exact .inr (.inl short)
      · exact .inr (.inr isHead)
    · rintro (isAddress | short | isHead)
      · exact .inl (.inl isAddress)
      · exact .inl (.inr short)
      · by_cases isAddress : isIpHostname hostname.toList = true
        · exact .inl (.inl isAddress)
        · by_cases short : (labels hostname.toList).length < 3
          · exact .inl (.inr short)
          · exact .inr ⟨by simpa using isAddress, by omega, isHead⟩

end ParakoId.Tenancy
