import ParakoId.Tenancy.Hosts

/-! The tenant-context middleware and the session it binds. -/

namespace ParakoId.Tenancy

open Config (DEFAULT_TENANT_ID)
open TenantScope (isTenantSlug)

/-- The record of a session. `tenantId` is written by the middleware only. -/
structure Session where
  tenantId : Option String
  data : String → Option Json

def Session.fresh : Session := ⟨none, fun _ => none⟩

def Session.set (session : Session) (key : String) (value : Json) : Session :=
  { session with data := fun other => if other = key then some value else session.data other }

def Session.remove (session : Session) (key : String) : Session :=
  { session with data := fun other => if other = key then none else session.data other }

def AUTHENTICATION_KEYS : List String :=
  ["isAuthenticated", "authenticatedUsers", "accountId", "authTime", "lastActivity", "deviceId",
    "sessionRegenerated", "oidc", "interaction", "addAccountIntent", "currentActiveLoggedUser"]

def clearAuthenticationData (session : Session) : Session :=
  AUTHENTICATION_KEYS.foldl Session.remove session

theorem removeAll_eq (keys : List String) (session : Session) :
    keys.foldl Session.remove session =
      { session with data := fun key => if key ∈ keys then none else session.data key } := by
  induction keys generalizing session with
  | nil => simp
  | cons first rest ih =>
    rw [List.foldl_cons, ih]
    simp only [Session.remove, Session.mk.injEq, true_and]
    funext key
    by_cases later : key ∈ rest
    · simp [later]
    · by_cases same : key = first <;> simp [later, same]

@[simp] theorem clearAuthenticationData_tenantId (session : Session) :
    (clearAuthenticationData session).tenantId = session.tenantId := by
  rw [clearAuthenticationData, removeAll_eq]

theorem clearAuthenticationData_data (session : Session) {key : String}
    (isAuthentication : key ∈ AUTHENTICATION_KEYS) :
    (clearAuthenticationData session).data key = none := by
  rw [clearAuthenticationData, removeAll_eq]
  simp [isAuthentication]

inductive Environment
  | development
  | staging
  | production
  deriving DecidableEq

structure MultiTenancy where
  enabled : Bool
  extraction_priority : List ExtractionSource
  tenant_header : String

structure Arrival where
  request : Request
  multi_tenancy : MultiTenancy
  environment : Environment
  tenants : List Tenant
  extractionRejects : Bool := false
  lookupRejects : Bool := false
  configRejects : Bool := false

inductive Outcome
  | next (tenantId : String)
  | failed
  | rejected (status : Nat) (error : String)
  deriving DecidableEq

def hasValidExtractedTenant (tenantId : String) : Bool :=
  tenantId == "_ops" || tenantId == "_platforms" ||
    (tenantId != DEFAULT_TENANT_ID && isTenantSlug tenantId)

def mismatches (tenantId : String) (sessionTenant : Option String) : Bool :=
  hasValidExtractedTenant tenantId && (presentText sessionTenant).any fun bound =>
    tenantId != bound && bound != DEFAULT_TENANT_ID

/-- A request that names no tenant stays in the tenant of its session. -/
def tenantInUse (tenantId : String) (sessionTenant : Option String) : String :=
  if tenantId = DEFAULT_TENANT_ID then
    ((presentText sessionTenant).filter fun bound =>
      bound != DEFAULT_TENANT_ID && bound != "_ops").getD tenantId
  else tenantId

def enter (arrival : Arrival) (tenantId : String) (session : Session) : Session × Outcome :=
  let bound := { session with tenantId := some tenantId }
  (bound, if arrival.configRejects then .failed else .next tenantId)

def enterKnown (arrival : Arrival) (tenantId : String) (tenant : Option Tenant)
    (session : Session) : Session × Outcome :=
  match tenant with
  | none => (session, .rejected 404 "Tenant not found")
  | some tenant =>
    if tenant.status ≠ .active then (session, .rejected 403 "Tenant is not active")
    else enter arrival tenantId session

def letThrough (arrival : Arrival) (extractedTenant : Option Tenant) (tenantId : String)
    (session : Session) : Session × Outcome :=
  if tenantId = "_ops" then (session, .next tenantId)
  else if tenantId = "_platforms" then enter arrival tenantId session
  else if tenantId ≠ DEFAULT_TENANT_ID ∧ isTenantSlug tenantId = false then
    (session, .rejected 400 "Invalid tenant identifier format")
  else if tenantId = DEFAULT_TENANT_ID then
    if arrival.environment = .production ∨ arrival.environment = .staging then
      (session, .rejected 400 ("Tenant identification required. " ++
        "No tenant could be resolved from session, headers, or subdomain."))
    else enter arrival DEFAULT_TENANT_ID session
  else
    match extractedTenant.filter (·.slug == tenantId) with
    | some tenant => enterKnown arrival tenantId (some tenant) session
    | none =>
      if arrival.lookupRejects then (session, .failed)
      else enterKnown arrival tenantId (arrival.tenants.find? (·.slug == tenantId)) session

def handler (arrival : Arrival) (session : Session) : Session × Outcome :=
  if arrival.multi_tenancy.enabled = false then enter arrival DEFAULT_TENANT_ID session
  else if arrival.extractionRejects then (session, .failed)
  else
    let extracted := extractTenant arrival.tenants arrival.multi_tenancy.tenant_header
      arrival.request arrival.multi_tenancy.extraction_priority
    let checked :=
      if mismatches extracted.tenantId session.tenantId then clearAuthenticationData session
      else session
    letThrough arrival extracted.tenant (tenantInUse extracted.tenantId session.tenantId) checked

inductive Admission (session : Session) (tenantId : String) : Session × Outcome → Prop
  | refused {outcome : Outcome} (stops : ∀ other, outcome ≠ .next other) :
      Admission session tenantId (session, outcome)
  | ops (isOps : tenantId = "_ops") : Admission session tenantId (session, .next tenantId)
  | binds {outcome : Outcome} (notOps : tenantId ≠ "_ops")
      (known : tenantId = DEFAULT_TENANT_ID ∨ hasValidExtractedTenant tenantId = true)
      (passes : ∀ other, outcome = .next other → other = tenantId) :
      Admission session tenantId ({ session with tenantId := some tenantId }, outcome)

variable {tenantId : String} {session : Session}

theorem enter_admission (arrival : Arrival) (notOps : tenantId ≠ "_ops")
    (known : tenantId = DEFAULT_TENANT_ID ∨ hasValidExtractedTenant tenantId = true)
    (session : Session) : Admission session tenantId (enter arrival tenantId session) := by
  apply Admission.binds notOps known
  intro other passed
  split at passed
  · cases passed
  · injection passed with same
    exact same.symm

theorem enterKnown_admission (arrival : Arrival) (notOps : tenantId ≠ "_ops")
    (known : tenantId = DEFAULT_TENANT_ID ∨ hasValidExtractedTenant tenantId = true)
    (tenant : Option Tenant) (session : Session) :
    Admission session tenantId (enterKnown arrival tenantId tenant session) := by
  cases tenant with
  | none => exact .refused (fun _ passed => by cases passed)
  | some tenant =>
    simp only [enterKnown]
    split
    · exact .refused (fun _ passed => by cases passed)
    · exact enter_admission arrival notOps known session

theorem letThrough_admission (arrival : Arrival) (extractedTenant : Option Tenant) (tenantId : String)
    (session : Session) :
    Admission session tenantId (letThrough arrival extractedTenant tenantId session) := by
  rw [letThrough]
  by_cases isOps : tenantId = "_ops"
  · rw [if_pos isOps]
    exact .ops isOps
  rw [if_neg isOps]
  by_cases isPlatforms : tenantId = "_platforms"
  · rw [if_pos isPlatforms]
    exact enter_admission arrival isOps
      (.inr (by simp [hasValidExtractedTenant, isPlatforms])) session
  rw [if_neg isPlatforms]
  by_cases invalid : tenantId ≠ DEFAULT_TENANT_ID ∧ isTenantSlug tenantId = false
  · rw [if_pos invalid]
    exact .refused (fun _ passed => by cases passed)
  rw [if_neg invalid]
  by_cases isDefault : tenantId = DEFAULT_TENANT_ID
  · rw [if_pos isDefault]
    split
    · exact .refused (fun _ passed => by cases passed)
    · rw [← isDefault]
      exact enter_admission arrival isOps (.inl isDefault) session
  · rw [if_neg isDefault]
    have known : tenantId = DEFAULT_TENANT_ID ∨ hasValidExtractedTenant tenantId = true := by
      have isSlug : isTenantSlug tenantId = true := by
        by_contra notSlug
        exact invalid ⟨isDefault, by simpa using notSlug⟩
      right
      simp [hasValidExtractedTenant, isDefault, isSlug]
    split
    · exact enterKnown_admission arrival isOps known _ session
    · split
      · exact .refused (fun _ passed => by cases passed)
      · exact enterKnown_admission arrival isOps known _ session

def BoundElsewhere (session : Session) (tenantId : String) : Prop :=
  ∃ bound, session.tenantId = some bound ∧ bound ≠ DEFAULT_TENANT_ID ∧ bound ≠ tenantId

def ProperBinding (session : Session) : Prop :=
  session.tenantId ≠ some "" ∧ session.tenantId ≠ some "_ops"

/-- Authentication data survives a change of tenant only out of the default tenant, out of no
tenant, or into single-tenant mode. -/
inductive Effect (arrival : Arrival) (session : Session) : Session × Outcome → Prop
  | refused {outcome : Outcome} {checked : Session}
      (kept : checked = session ∨ checked = clearAuthenticationData session)
      (stops : ∀ other, outcome ≠ .next other) : Effect arrival session (checked, outcome)
  | ops {checked : Session} (kept : checked = session ∨ checked = clearAuthenticationData session)
      (cleared : BoundElsewhere session "_ops" → checked = clearAuthenticationData session) :
      Effect arrival session (checked, .next "_ops")
  | binds {outcome : Outcome} {checked : Session} (tenantId : String)
      (kept : checked = session ∨ checked = clearAuthenticationData session)
      (proper : tenantId ≠ "" ∧ tenantId ≠ "_ops")
      (cleared : BoundElsewhere session tenantId → checked = clearAuthenticationData session ∨
        (arrival.multi_tenancy.enabled = false ∧ tenantId = DEFAULT_TENANT_ID))
      (passes : ∀ other, outcome = .next other → other = tenantId) :
      Effect arrival session ({ checked with tenantId := some tenantId }, outcome)

theorem cleared_of_boundElsewhere (proper : ProperBinding session) {extracted : String}
    (known : tenantInUse extracted session.tenantId = DEFAULT_TENANT_ID ∨
      hasValidExtractedTenant (tenantInUse extracted session.tenantId) = true)
    (elsewhere : BoundElsewhere session (tenantInUse extracted session.tenantId)) :
    mismatches extracted session.tenantId = true := by
  obtain ⟨bound, isBound, notDefault, other⟩ := elsewhere
  have nonempty : bound ≠ "" := by
    rintro rfl
    exact proper.1 isBound
  have notOps : bound ≠ "_ops" := by
    rintro rfl
    exact proper.2 isBound
  have present : presentText session.tenantId = some bound :=
    presentText_some.mpr ⟨isBound, nonempty⟩
  rw [tenantInUse, present] at other known
  by_cases isDefault : extracted = DEFAULT_TENANT_ID
  · rw [if_pos isDefault, Option.filter_some_pos (by simp [notDefault, notOps])] at other
    exact absurd rfl other
  · rw [if_neg isDefault] at other known
    have valid := known.resolve_left isDefault
    simp [mismatches, valid, present, notDefault, Ne.symm other]

theorem admission_effect {arrival : Arrival} {checked : Session} {result : Session × Outcome}
    (kept : checked = session ∨ checked = clearAuthenticationData session)
    (cleared : (tenantId = DEFAULT_TENANT_ID ∨ hasValidExtractedTenant tenantId = true) →
      BoundElsewhere session tenantId → checked = clearAuthenticationData session)
    (admission : Admission checked tenantId result) : Effect arrival session result := by
  cases admission with
  | refused stops => exact .refused kept stops
  | ops isOps =>
    subst isOps
    exact .ops kept (cleared (.inr rfl))
  | binds notOps known passes =>
    have nonempty : tenantId ≠ "" := by
      rintro rfl
      exact absurd known (by decide)
    exact .binds tenantId kept ⟨nonempty, notOps⟩
      (fun elsewhere => .inl (cleared known elsewhere)) passes

theorem handler_effect (arrival : Arrival) (proper : ProperBinding session) :
    Effect arrival session (handler arrival session) := by
  rw [handler]
  by_cases disabled : arrival.multi_tenancy.enabled = false
  · rw [if_pos disabled]
    refine Effect.binds DEFAULT_TENANT_ID (.inl rfl) (by decide) (fun _ => .inr ⟨disabled, rfl⟩) ?_
    intro other passed
    split at passed
    · cases passed
    · injection passed with same
      exact same.symm
  rw [if_neg disabled]
  by_cases rejects : arrival.extractionRejects = true
  · rw [if_pos rejects]
    exact .refused (.inl rfl) (fun _ passed => by cases passed)
  rw [if_neg rejects]
  generalize extractTenant arrival.tenants arrival.multi_tenancy.tenant_header arrival.request
    arrival.multi_tenancy.extraction_priority = extracted
  by_cases mismatch : mismatches extracted.tenantId session.tenantId = true
  · simp only [if_pos mismatch]
    exact admission_effect (.inr rfl) (fun _ _ => rfl)
      (letThrough_admission arrival extracted.tenant _ (clearAuthenticationData session))
  · simp only [if_neg mismatch]
    refine admission_effect (.inl rfl) (fun known elsewhere => ?_)
      (letThrough_admission arrival extracted.tenant _ session)
    exact absurd (cleared_of_boundElsewhere proper known elsewhere) mismatch

structure Tracked where
  session : Session
  since : String → List (Option String)

inductive Event
  | arrives (arrival : Arrival)
  | writes (key : String) (value : Json)
  | removes (key : String)
  | lost

def Tracked.start : Tracked := ⟨.fresh, fun _ => []⟩

def step (state : Tracked) : Event → Tracked
  | .arrives arrival =>
    let (session, _) := handler arrival state.session
    ⟨session, fun key => session.tenantId :: state.since key⟩
  | .writes key value =>
    ⟨state.session.set key value,
      fun other => if other = key then [state.session.tenantId] else state.since other⟩
  | .removes key => { state with session := state.session.remove key }
  | .lost => .start

def EstablishedIn (state : Tracked) (key tenantId : String) : Prop :=
  (state.since key).getLast? = some (some tenantId)

def PassedDefault (state : Tracked) (key : String) : Prop :=
  none ∈ state.since key ∨ some DEFAULT_TENANT_ID ∈ state.since key

structure Bound (state : Tracked) : Prop where
  proper : ProperBinding state.session
  current : ∀ key ∈ AUTHENTICATION_KEYS, (state.session.data key).isSome = true →
    PassedDefault state key ∨
      (state.since key ≠ [] ∧ ∀ binding ∈ state.since key, binding = state.session.tenantId)

theorem Bound.start : Bound .start where
  proper := ⟨by decide, by decide⟩
  current key _ present := by cases present

theorem data_of_kept {checked : Session} {key : String}
    (isAuthentication : key ∈ AUTHENTICATION_KEYS)
    (kept : checked = session ∨ checked = clearAuthenticationData session)
    (present : (checked.data key).isSome = true) : checked = session := by
  rcases kept with same | cleared
  · exact same
  · rw [cleared, clearAuthenticationData_data session isAuthentication] at present
    cases present

theorem boundElsewhere_of_not_passed {state : Tracked} {key : String}
    (notPassed : ¬ PassedDefault state key) (some_since : state.since key ≠ [])
    (current : ∀ binding ∈ state.since key, binding = state.session.tenantId)
    (other : state.session.tenantId ≠ some tenantId) : BoundElsewhere state.session tenantId := by
  obtain ⟨binding, rest, split⟩ := List.exists_cons_of_ne_nil some_since
  have member : state.session.tenantId ∈ state.since key := by
    rw [← current binding (by simp [split]), split]
    exact List.mem_cons_self
  cases bound : state.session.tenantId with
  | none => exact absurd (.inl (bound ▸ member)) notPassed
  | some tenant =>
    refine ⟨tenant, bound, ?_, ?_⟩
    · rintro rfl
      exact notPassed (.inr (bound ▸ member))
    · rintro rfl
      exact other bound

theorem Bound.rechecked {state : Tracked} (bound : Bound state) {checked : Session}
    (kept : checked = state.session ∨ checked = clearAuthenticationData state.session) :
    Bound ⟨checked, fun key => checked.tenantId :: state.since key⟩ where
  proper := by
    rcases kept with rfl | rfl
    · exact bound.proper
    · simpa only [ProperBinding, clearAuthenticationData_tenantId] using bound.proper
  current key isAuthentication present := by
    have same := data_of_kept isAuthentication kept present
    subst same
    rcases bound.current key isAuthentication present with passed | ⟨some_since, current⟩
    · exact .inl (passed.imp (List.mem_cons_of_mem _) (List.mem_cons_of_mem _))
    · refine .inr ⟨by simp, ?_⟩
      intro binding member
      rcases List.mem_cons.mp member with isNow | earlier
      · exact isNow
      · exact current binding earlier

theorem Bound.arrives {state : Tracked} (bound : Bound state) (arrival : Arrival) :
    Bound (step state (.arrives arrival)) := by
  have effect := handler_effect arrival bound.proper
  have stepped : step state (.arrives arrival) =
      ⟨(handler arrival state.session).1,
        fun key => (handler arrival state.session).1.tenantId :: state.since key⟩ := rfl
  rw [stepped]
  generalize handler arrival state.session = result at effect
  cases effect with
  | refused kept _ => exact bound.rechecked kept
  | ops kept _ => exact bound.rechecked kept
  | binds tenantId kept proper cleared _ =>
    refine ⟨⟨by simpa using proper.1, by simpa using proper.2⟩, ?_⟩
    intro key isAuthentication present
    have same := data_of_kept isAuthentication kept present
    subst same
    by_cases passed : PassedDefault state key
    · exact .inl (passed.imp (List.mem_cons_of_mem _) (List.mem_cons_of_mem _))
    obtain ⟨some_since, current⟩ :=
      (bound.current key isAuthentication present).resolve_left passed
    by_cases stays : state.session.tenantId = some tenantId
    · refine .inr ⟨by simp, ?_⟩
      intro binding member
      rcases List.mem_cons.mp member with isNow | earlier
      · exact isNow
      · exact (current binding earlier).trans stays
    · rcases cleared (boundElsewhere_of_not_passed passed some_since current stays) with
        isCleared | ⟨_, isDefault⟩
      · have gone := clearAuthenticationData_data state.session isAuthentication
        rw [← isCleared] at gone
        rw [gone] at present
        cases present
      · left
        right
        simp [isDefault]

theorem Bound.step {state : Tracked} (bound : Bound state) (event : Event) :
    Bound (step state event) := by
  cases event with
  | arrives arrival => exact bound.arrives arrival
  | writes written value =>
    refine ⟨bound.proper, ?_⟩
    intro key isAuthentication present
    by_cases same : key = written
    · right
      simp [Tenancy.step, same, Session.set]
    · have earlier : (state.session.data key).isSome = true := by
        simpa [Tenancy.step, Session.set, same] using present
      simpa [Tenancy.step, PassedDefault, Session.set, same] using
        bound.current key isAuthentication earlier
  | removes removed =>
    refine ⟨bound.proper, ?_⟩
    intro key isAuthentication present
    have earlier : (state.session.data key).isSome = true := by
      by_cases same : key = removed
      · simp [Tenancy.step, Session.remove, same] at present
      · simpa [Tenancy.step, Session.remove, same] using present
    exact bound.current key isAuthentication earlier
  | lost => exact Bound.start

/-- In every history of a session, authentication data that is there when a request passes in
a tenant was written while the session was bound to that tenant, or the session was unbound or
bound to the default tenant at some time since, or single-tenant mode was switched on in
between. -/
theorem authentication_staysInTenant (events : List Event) (arrival : Arrival) {tenantId : String}
    (passes : (handler arrival (Runs.run step .start events).session).2 = .next tenantId)
    {key : String} (isAuthentication : key ∈ AUTHENTICATION_KEYS)
    (present : ((handler arrival (Runs.run step .start events).session).1.data key).isSome = true) :
    EstablishedIn (Runs.run step .start events) key tenantId ∨
      PassedDefault (Runs.run step .start events) key ∨
      (arrival.multi_tenancy.enabled = false ∧
        BoundElsewhere (Runs.run step .start events).session DEFAULT_TENANT_ID) := by
  have keeps : ∀ state event, Bound state → Bound (step state event) :=
    fun state event inside => inside.step event
  have bound := Runs.invariant step keeps Bound.start events
  generalize Runs.run step .start events = state at passes present bound ⊢
  have effect := handler_effect arrival bound.proper
  generalize handler arrival state.session = result at passes present effect
  by_cases passed : PassedDefault state key
  · exact .inr (.inl passed)
  have established : ∀ {checked : Session}, (checked = state.session ∨
      checked = clearAuthenticationData state.session) → (checked.data key).isSome = true →
        (BoundElsewhere state.session tenantId →
          checked = clearAuthenticationData state.session ∨
            (arrival.multi_tenancy.enabled = false ∧ tenantId = DEFAULT_TENANT_ID)) →
          EstablishedIn state key tenantId ∨ (arrival.multi_tenancy.enabled = false ∧
            BoundElsewhere state.session DEFAULT_TENANT_ID) := by
    intro checked kept present cleared
    have same := data_of_kept isAuthentication kept present
    subst same
    obtain ⟨some_since, current⟩ :=
      (bound.current key isAuthentication present).resolve_left passed
    by_cases here : state.session.tenantId = some tenantId
    · left
      rw [EstablishedIn, List.getLast?_eq_getLast_of_ne_nil some_since,
        current _ (List.getLast_mem some_since), here]
    · have elsewhere := boundElsewhere_of_not_passed passed some_since current here
      rcases cleared elsewhere with isCleared | ⟨disabled, rfl⟩
      · have gone := clearAuthenticationData_data state.session isAuthentication
        rw [← isCleared] at gone
        rw [gone] at present
        cases present
      · exact .inr ⟨disabled, elsewhere⟩
  cases effect with
  | refused _ stops => exact absurd passes (stops tenantId)
  | ops kept cleared =>
    injection passes with isOps
    subst isOps
    exact (established kept present fun elsewhere => .inl (cleared elsewhere)).imp_right .inr
  | binds other kept _ cleared passesIn =>
    have same := passesIn tenantId passes
    subst same
    exact (established kept present cleared).imp_right .inr

def multiTenancy : MultiTenancy := ⟨true, [.header, .subdomain], "x-tenant-id"⟩

def developmentArrival (hostname : String) : Arrival where
  request := ⟨hostname, fun _ => none⟩
  multi_tenancy := multiTenancy
  environment := .development
  tenants := [acme]

def loginAt (hostname : String) : List Event :=
  [.arrives (developmentArrival hostname), .writes "isAuthenticated" (.bool true)]

theorem acme_staysInTenant :
    EstablishedIn (Runs.run step .start (loginAt "acme.parako.test")) "isAuthenticated" "acme" ∨
      PassedDefault (Runs.run step .start (loginAt "acme.parako.test")) "isAuthenticated" ∨
      ((developmentArrival "acme.parako.test").multi_tenancy.enabled = false ∧
        BoundElsewhere (Runs.run step .start (loginAt "acme.parako.test")).session
          DEFAULT_TENANT_ID) :=
  authentication_staysInTenant (loginAt "acme.parako.test") (developmentArrival "acme.parako.test")
    (by decide +kernel) (by decide) (by decide +kernel)

theorem defaultLogin_passesInAcme :
    let state := Runs.run step .start (loginAt "localhost")
    let passed := handler (developmentArrival "acme.parako.test") state.session
    passed.2 = .next "acme" ∧ (passed.1.data "isAuthenticated").isSome = true ∧
      "isAuthenticated" ∈ AUTHENTICATION_KEYS ∧
      state.session.tenantId = some DEFAULT_TENANT_ID ∧
      ¬ EstablishedIn state "isAuthenticated" "acme" := by
  refine ⟨by decide +kernel, by decide +kernel, by decide, by decide +kernel, ?_⟩
  have since : (Runs.run step .start (loginAt "localhost")).since "isAuthenticated" =
      [some DEFAULT_TENANT_ID] := by decide +kernel
  rw [EstablishedIn, since]
  decide

end ParakoId.Tenancy
