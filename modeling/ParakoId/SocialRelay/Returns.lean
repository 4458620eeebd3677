import ParakoId.SocialRelay.Gateway

/-! Where a social login comes back to. -/

namespace ParakoId.SocialRelay

open Interleavings (Machine Shared Event OnTurns Invariant Keeps)
open Runs (AlwaysFrom AllowedFrom)
open Url (Tables Location)

variable (tables : Tables) (hmac : String → Json → String) (deployment : Deployment)

def tenantLocation (base : Location) (tenantId : String) : Location :=
  ⟨Url.HTTPS, tenantId.toList ++ '.' :: base.host, base.port⟩

def IsHome (gateway : Gateway) (relayed : Relayed) : Prop :=
  ∃ base providerSlug ref, parseBaseDomain tables deployment.url = some base ∧
    toSafeSlug relayed.provider SAFE_PROVIDER_SLUG = some providerSlug ∧
      relayed.answer = .ok ⟨tenantLocation base relayed.payload.tenant_id,
        completePath providerSlug, ref⟩ ∧
        (ref, ⟨providerSlug, relayed.code, relayed.payload.tenant_id⟩) ∈ gateway.stored

structure ReturnsToTenant (gateway : Gateway) : Prop where
  home : ∀ relayed ∈ gateway.relayed, isTenant relayed.payload.tenant_id = true →
    IsHome tables deployment gateway relayed
  once : gateway.taken.Nodup
  own : ∀ done ∈ gateway.completed, (done.1.ref, done.2) ∈ gateway.stored ∧
    done.1.provider = done.2.provider ∧ done.1.tenantId = some done.2.tenant_id

def TakesState (now : Nat) (provider : String) (payload : HmacStatePayload) : Prop :=
  deployment.redis = true ∧ deployment.hmac_secret ≠ "" ∧
    (payload.timestamp ≤ now ∧ now ≤ payload.timestamp + STATE_TTL_MS) ∧
      NamesHost payload.tenant_id ∧ (toSafeSlug provider SAFE_PROVIDER_SLUG).isSome = true ∧
        (parseBaseDomain tables deployment.url).isSome = true

def HasTenant (attempt : Attempt) (data : SocialRefData) : Prop :=
  data.isComplete = true → data.provider = attempt.provider →
    Tenancy.presentText attempt.tenantId ≠ none

/-- A state that is created for a tenant is taken, Redis acknowledges its ref, and the host of
the tenant is one; a request that deletes a ref after reading it is the first to be given it, and
one that goes on has a tenant. -/
def KeepsReturn (gateway : Gateway) : SocialCall → SocialInput → Prop
  | .notStarted, .relay provider _ payload =>
    isTenant payload.tenant_id = true →
      TakesState tables deployment gateway.now provider payload
  | .storing (some payload) _ _ base, .resolve => isTenant payload.tenant_id = true →
      Url.parse tables (tenantUrl base payload.tenant_id) =
        some (tenantLocation base payload.tenant_id)
  | .storing (some payload) _ _ _, .refuse => isTenant payload.tenant_id = false
  | .storing (some payload) _ _ _, .reject _ => isTenant payload.tenant_id = false
  | .started attempt, .resolve => ∀ data, gateway.get attempt.ref = some data →
      deployment.hasGetdel = true → HasTenant attempt data
  | .read attempt data, .resolve =>
    (data.isComplete = true → attempt.ref ∉ gateway.taken) ∧ HasTenant attempt data
  | _, _ => True

variable {provider : String} {data : SocialRefData} {call : SocialCall} {attempt : Attempt}

theorem acceptCallback_ok {now : Nat} {code : String} {state : Option Json} {base : Location} :
    acceptCallback tables hmac deployment now provider code state = .ok (data, base) ↔
      deployment.redis = true ∧ deployment.hmac_secret ≠ "" ∧
        (∃ stateTenant, verifyHmacState hmac now state deployment.hmac_secret = .ok stateTenant ∧
          toSafeSlug stateTenant SAFE_SUBDOMAIN_LABEL = some data.tenant_id) ∧
        toSafeSlug provider SAFE_PROVIDER_SLUG = some data.provider ∧
          parseBaseDomain tables deployment.url = some base ∧ data.code = code := by
  rw [acceptCallback]
  cases deployment.redis with
  | false => simp
  | true =>
    by_cases noSecret : deployment.hmac_secret = ""
    · simp [noSecret]
    · simp only [Bool.true_eq_false, if_false, noSecret, ne_eq, not_false_eq_true, true_and]
      cases verifyHmacState hmac now state deployment.hmac_secret with
      | error error => simp
      | ok stateTenant =>
        cases tenant : toSafeSlug stateTenant SAFE_SUBDOMAIN_LABEL with
        | none => simp [tenant]
        | some tenantId =>
          cases toSafeSlug provider SAFE_PROVIDER_SLUG with
          | none => simp [tenant]
          | some providerSlug =>
            cases parseBaseDomain tables deployment.url with
            | none => simp [tenant]
            | some host =>
              simp only [Except.ok.injEq, Prod.mk.injEq, exists_eq_left', tenant,
                Option.some.injEq]
              constructor
              · rintro ⟨rfl, rfl⟩
                exact ⟨rfl, rfl, rfl, rfl⟩
              · rintro ⟨sameTenant, sameProvider, sameBase, sameCode⟩
                rw [sameTenant, sameProvider, ← sameCode]
                exact ⟨rfl, sameBase⟩

theorem acceptCallback_created_iff {now : Nat} {code : String} {payload : HmacStatePayload}
    (accepted : isTenant payload.tenant_id = true) :
    (∃ data base, acceptCallback tables hmac deployment now provider code
        (some (createHmacState hmac payload deployment.hmac_secret)) = .ok (data, base)) ↔
      TakesState tables deployment now provider payload := by
  simp only [acceptCallback_ok, verify_created_iff]
  constructor
  · rintro ⟨data, base, isBound, hasSecret, ⟨_, ⟨inTime, rfl⟩, tenant⟩, slug, parsed, _⟩
    rw [toSafeSlug_tenant accepted] at tenant
    have namesHost : NamesHost payload.tenant_id := by
      by_contra other
      rw [if_neg other] at tenant
      cases tenant
    exact ⟨isBound, hasSecret, inTime, namesHost, by rw [slug]; rfl, by rw [parsed]; rfl⟩
  · rintro ⟨isBound, hasSecret, inTime, namesHost, hasSlug, hasBase⟩
    obtain ⟨providerSlug, slug⟩ := Option.isSome_iff_exists.mp hasSlug
    obtain ⟨base, parsed⟩ := Option.isSome_iff_exists.mp hasBase
    refine ⟨⟨providerSlug, code, payload.tenant_id⟩, base, isBound, hasSecret,
      ⟨payload.tenant_id, ⟨inTime, rfl⟩, ?_⟩, slug, parsed, rfl⟩
    rw [toSafeSlug_tenant accepted, if_pos namesHost]

theorem acceptCallback_tenant {now : Nat} {code : String} {payload : HmacStatePayload}
    (accepted : isTenant payload.tenant_id = true) {base : Location}
    (isAccepted : acceptCallback tables hmac deployment now provider code
      (some (createHmacState hmac payload deployment.hmac_secret)) = .ok (data, base)) :
    data.tenant_id = payload.tenant_id := by
  obtain ⟨_, _, ⟨stateTenant, verified, tenant⟩, _⟩ := (acceptCallback_ok _ _ _).mp isAccepted
  obtain ⟨_, rfl⟩ := (verify_created_iff _ _ _ _ _).mp verified
  rw [toSafeSlug_tenant accepted] at tenant
  split at tenant
  · exact (Option.some.inj tenant).symm
  · cases tenant

structure Handled (gateway : Gateway) : Prop where
  fresh : ∀ entry ∈ gateway.refs, entry.ref < gateway.created
  takenFresh : ∀ ref ∈ gateway.taken, ref < gateway.created
  spent : ∀ entry ∈ gateway.refs, entry.ref ∉ gateway.taken
  known : ∀ entry ∈ gateway.refs, (entry.ref, entry.data) ∈ gateway.stored

def CallHandled (gateway : Gateway) : SocialCall → Prop
  | .storing payload provider data base =>
    parseBaseDomain tables deployment.url = some base ∧
      toSafeSlug provider SAFE_PROVIDER_SLUG = some data.provider ∧
        ∀ created, payload = some created → isTenant created.tenant_id = true →
          data.tenant_id = created.tenant_id
  | .read attempt data =>
    (attempt.ref, data) ∈ gateway.stored ∧ attempt.ref < gateway.created
  | _ => True

structure Extends (gateway next : Gateway) : Prop where
  stored : gateway.stored ⊆ next.stored
  created : gateway.created ≤ next.created

variable {tables hmac deployment} {gateway next : Gateway}

theorem callHandled_mono (isExtended : Extends gateway next)
    (handled : CallHandled tables deployment gateway call) :
    CallHandled tables deployment next call := by
  cases call with
  | read attempt data =>
    exact ⟨isExtended.stored handled.1, Nat.lt_of_lt_of_le handled.2 isExtended.created⟩
  | storing payload provider data base => exact handled
  | notStarted | answered | started _ | finished _ | failed => trivial

theorem get_some {ref : Nat} (found : gateway.get ref = some data) :
    ∃ entry ∈ gateway.refs, entry.ref = ref ∧ entry.data = data := by
  obtain ⟨entry, isFound, rfl⟩ := Option.map_eq_some_iff.mp found
  have matching := List.find?_some isFound
  simp only [Bool.and_eq_true, beq_iff_eq] at matching
  exact ⟨entry, List.mem_of_find?_eq_some isFound, matching.1, rfl⟩

theorem handled_store (handled : Handled gateway) (data : SocialRefData) :
    Handled (gateway.store data) where
  fresh := by
    intro entry member
    rcases List.mem_append.mp member with isOld | isNew
    · exact Nat.lt_succ_of_lt (handled.fresh entry isOld)
    · rw [List.mem_singleton.mp isNew]
      exact Nat.lt_succ_self _
  takenFresh ref isTaken := Nat.lt_succ_of_lt (handled.takenFresh ref isTaken)
  spent := by
    intro entry member isTaken
    rcases List.mem_append.mp member with isOld | isNew
    · exact handled.spent entry isOld isTaken
    · rw [List.mem_singleton.mp isNew] at isTaken
      exact Nat.lt_irrefl _ (handled.takenFresh _ isTaken)
  known := by
    intro entry member
    rcases List.mem_append.mp member with isOld | isNew
    · exact List.mem_append_left _ (handled.known entry isOld)
    · rw [List.mem_singleton.mp isNew]
      exact List.mem_append_right _ (List.mem_singleton_self _)

theorem handled_del (handled : Handled gateway) (ref : Nat) : Handled (gateway.del ref) where
  fresh entry member := handled.fresh entry (List.mem_of_mem_filter member)
  takenFresh := handled.takenFresh
  spent entry member := handled.spent entry (List.mem_of_mem_filter member)
  known entry member := handled.known entry (List.mem_of_mem_filter member)

theorem handled_answer (handled : Handled gateway) (payload : Option HmacStatePayload)
    (provider code : String) (response : Except String Redirect) :
    Handled (answer gateway payload provider code response).1 :=
  ⟨handled.fresh, handled.takenFresh, handled.spent, handled.known⟩

theorem handled_consume (handled : Handled gateway) (isFresh : attempt.ref < gateway.created)
    (data : SocialRefData) : Handled (consume (gateway.del attempt.ref) attempt data).1 := by
  have deleted := handled_del handled attempt.ref
  have given : Handled
      { gateway.del attempt.ref with taken := gateway.taken ++ [attempt.ref] } := by
    refine { deleted with takenFresh := ?_, spent := ?_ }
    · intro ref isTaken
      rcases List.mem_append.mp isTaken with isOld | isNew
      · exact handled.takenFresh ref isOld
      · rw [List.mem_singleton.mp isNew]
        exact isFresh
    · intro entry member isTaken
      rcases List.mem_append.mp isTaken with isOld | isNew
      · exact deleted.spent entry member isOld
      · have other := (List.mem_filter.mp member).2
        simp [List.mem_singleton.mp isNew] at other
  rw [consume]
  split
  · dsimp only
    split
    · exact given
    · exact ⟨given.fresh, given.takenFresh, given.spent, given.known⟩
  · exact deleted

theorem isHome_mono (isExtended : Extends gateway next) {relayed : Relayed}
    (isHome : IsHome tables deployment gateway relayed) :
    IsHome tables deployment next relayed := by
  obtain ⟨base, providerSlug, ref, parsed, slug, isAnswer, isStored⟩ := isHome
  exact ⟨base, providerSlug, ref, parsed, slug, isAnswer, isExtended.stored isStored⟩

theorem extends_store (data : SocialRefData) : Extends gateway (gateway.store data) :=
  ⟨List.subset_append_left _ _, Nat.le_succ _⟩

section

variable (good : ReturnsToTenant tables deployment gateway)
include good

theorem returns_store (data : SocialRefData) :
    ReturnsToTenant tables deployment (gateway.store data) where
  home relayed member accepted :=
    isHome_mono (extends_store data) (good.home relayed member accepted)
  once := good.once
  own done member := by
    obtain ⟨isStored, same⟩ := good.own done member
    exact ⟨(extends_store data).stored isStored, same⟩

theorem returns_del (ref : Nat) : ReturnsToTenant tables deployment (gateway.del ref) :=
  ⟨good.home, good.once, good.own⟩

theorem returns_answer_iff (payload : Option HmacStatePayload) (provider code : String)
    (response : Except String Redirect) :
    ReturnsToTenant tables deployment (answer gateway payload provider code response).1 ↔
      ∀ created, payload = some created → isTenant created.tenant_id = true →
        IsHome tables deployment gateway ⟨created, provider, code, response⟩ := by
  constructor
  · rintro answered created rfl accepted
    exact answered.home _ (List.mem_append_right _ (List.mem_singleton_self _)) accepted
  · intro isHome
    refine ⟨?_, good.once, good.own⟩
    intro relayed member accepted
    rcases List.mem_append.mp member with isOld | isNew
    · exact good.home relayed isOld accepted
    · obtain ⟨created, isCreated, rfl⟩ := List.mem_map.mp isNew
      exact isHome created (Option.mem_toList.mp isCreated) accepted

end

theorem not_isHome_error (payload : HmacStatePayload) (provider code error : String) :
    ¬IsHome tables deployment gateway ⟨payload, provider, code, .error error⟩ := by
  rintro ⟨_, _, _, _, _, isAnswer, _⟩
  cases isAnswer

theorem isHome_redirect_iff {payload : HmacStatePayload} {base : Location}
    (handled : CallHandled tables deployment gateway (.storing (some payload) provider data base))
    (accepted : isTenant payload.tenant_id = true) :
    IsHome tables deployment (gateway.store data)
        ⟨payload, provider, data.code, redirect tables data base gateway.created⟩ ↔
      Url.parse tables (tenantUrl base payload.tenant_id) =
        some (tenantLocation base payload.tenant_id) := by
  obtain ⟨parsed, slug, sameTenant⟩ := handled
  have tenant := sameTenant payload rfl accepted
  have unfolded : redirectUrl tables data base gateway.created =
      (Url.parse tables (tenantUrl base payload.tenant_id)).map fun location =>
        ⟨location, completePath data.provider, gateway.created⟩ := by
    rw [redirectUrl, tenant]
  rw [redirect, unfolded]
  constructor
  · rintro ⟨otherBase, providerSlug, ref, otherParsed, _, isAnswer, _⟩
    obtain rfl : base = otherBase := Option.some.inj (parsed.symm.trans otherParsed)
    cases located : Url.parse tables (tenantUrl base payload.tenant_id) with
    | none => simp [located] at isAnswer
    | some location =>
      simp only [located, Option.map_some, Except.ok.injEq, Redirect.mk.injEq] at isAnswer
      rw [isAnswer.1]
  · intro located
    refine ⟨base, data.provider, gateway.created, parsed, slug, by rw [located]; rfl, ?_⟩
    refine List.mem_append_right _ (List.mem_singleton.mpr ?_)
    rw [← tenant]

theorem checkRef_own_iff (isComplete : data.isComplete = true) :
    (∀ code, checkRef attempt data = .ok code →
        attempt.provider = data.provider ∧ attempt.tenantId = some data.tenant_id) ↔
      (data.provider = attempt.provider → Tenancy.presentText attempt.tenantId ≠ none) := by
  have named : data.tenant_id ≠ "" := by
    rintro isEmpty
    simp [SocialRefData.isComplete, isEmpty, Schemas.trim] at isComplete
  simp only [checkRef]
  split
  · rename_i mismatch
    simp [mismatch]
  · rename_i isProvider
    rw [not_not] at isProvider
    cases present : Tenancy.presentText attempt.tenantId with
    | none =>
      simp only [isProvider, ne_eq, not_true_eq_false, imp_false, iff_false, true_and]
      intro own
      rw [own data.code rfl, Tenancy.presentText_none] at present
      simp [named] at present
    | some currentTenantId =>
      obtain ⟨isTenant, _⟩ := Tenancy.presentText_some.mp present
      by_cases same : data.tenant_id = currentTenantId
      · simp [isProvider, isTenant, same]
      · simp [same]

theorem returns_consume_iff (good : ReturnsToTenant tables deployment gateway)
    (isStored : (attempt.ref, data) ∈ gateway.stored) :
    ReturnsToTenant tables deployment (consume (gateway.del attempt.ref) attempt data).1 ↔
      (data.isComplete = true → attempt.ref ∉ gateway.taken) ∧ HasTenant attempt data := by
  rw [consume, HasTenant]
  split
  · rename_i isComplete
    have given : ReturnsToTenant tables deployment
        { gateway.del attempt.ref with taken := gateway.taken ++ [attempt.ref] } ↔
          attempt.ref ∉ gateway.taken := by
      constructor
      · intro kept isTaken
        exact (List.nodup_append.mp kept.once).2.2 _ isTaken _ (List.mem_singleton_self _) rfl
      · intro isNew
        refine ⟨good.home, ?_, good.own⟩
        refine List.nodup_append.mpr ⟨good.once, by simp, ?_⟩
        intro ref isTaken other isOther same
        rw [same, List.mem_singleton.mp isOther] at isTaken
        exact isNew isTaken
    simp only [isComplete, true_implies]
    rw [← checkRef_own_iff isComplete]
    split
    · rename_i error isError
      refine given.trans ?_
      simp [isError]
    · rename_i code isOk
      simp only [isOk, Except.ok.injEq, forall_eq']
      constructor
      · intro kept
        refine ⟨given.mp ⟨kept.home, kept.once, ?_⟩, ?_⟩
        · exact fun done member => kept.own done (List.mem_append_left _ member)
        · exact (kept.own _ (List.mem_append_right _ (List.mem_singleton_self _))).2
      · rintro ⟨isNew, isOwn⟩
        have kept := given.mpr isNew
        refine ⟨kept.home, kept.once, ?_⟩
        intro done member
        rcases List.mem_append.mp member with isOld | isDone
        · exact kept.own done isOld
        · rw [List.mem_singleton.mp isDone]
          exact ⟨isStored, isOwn⟩
  · rename_i incomplete
    simp [incomplete, returns_del good]

def handledInvariant (tables : Tables) (deployment : Deployment) :
    Invariant Gateway SocialCall where
  store := Handled
  call := CallHandled tables deployment

theorem turned_of_extends (handled : Handled next)
    (own : CallHandled tables deployment next call) (isExtended : Extends gateway next) :
    (handledInvariant tables deployment).Turned gateway (next, call) :=
  ⟨handled, own, fun _ => callHandled_mono isExtended⟩

theorem extends_refl : Extends gateway gateway := ⟨fun _ => id, Nat.le_refl _⟩

theorem turned_answer (handled : Handled next) (isExtended : Extends gateway next)
    (payload : Option HmacStatePayload) (provider code : String)
    (response : Except String Redirect) :
    (handledInvariant tables deployment).Turned gateway
      (answer next payload provider code response) :=
  turned_of_extends (handled_answer handled payload provider code response) trivial
    ⟨isExtended.stored, isExtended.created⟩

section

variable (handled : Handled gateway)
include handled

theorem turned_consume (isFresh : attempt.ref < gateway.created) (data : SocialRefData) :
    (handledInvariant tables deployment).Turned gateway
      (consume (gateway.del attempt.ref) attempt data) := by
  have kept := handled_consume handled isFresh data
  have isExtended : Extends gateway (consume (gateway.del attempt.ref) attempt data).1 := by
    rw [consume]
    split
    · split <;> exact ⟨fun _ => id, Nat.le_refl _⟩
    · exact ⟨fun _ => id, Nat.le_refl _⟩
  refine ⟨kept, ?_, fun _ => callHandled_mono isExtended⟩
  rw [consume]
  split
  · split <;> trivial
  · trivial

theorem turned_begin (payload : Option HmacStatePayload) (provider code : String)
    (state : Option Json)
    (isCreated : ∀ created, payload = some created →
      state = some (createHmacState hmac created deployment.hmac_secret)) :
    (handledInvariant tables deployment).Turned gateway
      (beginCallback tables hmac deployment gateway payload provider code state) := by
  rw [beginCallback]
  split
  · exact turned_answer handled extends_refl payload provider code _
  · rename_i data base isAccepted
    obtain ⟨_, _, _, slug, parsed, _⟩ := (acceptCallback_ok _ _ _).mp isAccepted
    refine turned_of_extends handled ⟨parsed, slug, ?_⟩ extends_refl
    intro created isPayload accepted
    rw [isCreated created isPayload] at isAccepted
    exact acceptCallback_tenant _ _ _ accepted isAccepted

theorem known_get {ref : Nat} (found : gateway.get ref = some data) :
    (ref, data) ∈ gateway.stored ∧ ref < gateway.created ∧ ref ∉ gateway.taken := by
  obtain ⟨entry, member, rfl, rfl⟩ := get_some found
  exact ⟨handled.known entry member, handled.fresh entry member, handled.spent entry member⟩

theorem turned_consumeSocialRef (attempt : Attempt) :
    (handledInvariant tables deployment).Turned gateway
      (consumeSocialRef deployment gateway attempt) := by
  rw [consumeSocialRef]
  split
  · exact turned_of_extends handled trivial extends_refl
  · rename_i data found
    obtain ⟨isStored, isFresh, _⟩ := known_get handled found
    split
    · exact turned_consume handled isFresh data
    · exact turned_of_extends handled ⟨isStored, isFresh⟩ extends_refl

theorem socialTurn_keeps (own : CallHandled tables deployment gateway call) (input : SocialInput) :
    (handledInvariant tables deployment).Turned gateway
      (socialTurn tables hmac deployment gateway call input) := by
  have unchanged : (handledInvariant tables deployment).Turned gateway (gateway, call) :=
    Invariant.Turned.of_store handled own
  cases call with
  | notStarted =>
    cases input with
    | relay provider code payload =>
      refine turned_begin handled _ _ _ _ ?_
      rintro created ⟨⟩
      rfl
    | callback provider code state =>
      refine turned_begin handled _ _ _ _ ?_
      rintro created ⟨⟩
    | complete attempt =>
      rw [socialTurn]
      split
      · exact turned_of_extends handled trivial extends_refl
      · exact turned_of_extends handled trivial extends_refl
    | resolve | refuse | reject _ => exact unchanged
  | storing payload provider data base =>
    cases input with
    | resolve =>
      exact turned_answer (handled_store handled data) (extends_store data) _ _ _ _
    | refuse => exact turned_answer handled extends_refl _ _ _ _
    | reject applied =>
      cases applied with
      | true => exact turned_answer (handled_store handled data) (extends_store data) _ _ _ _
      | false => exact turned_answer handled extends_refl _ _ _ _
    | relay _ _ _ | callback _ _ _ | complete _ => exact unchanged
  | started attempt =>
    cases input with
    | resolve => exact turned_consumeSocialRef handled attempt
    | reject applied =>
      rw [socialTurn]
      split
      · exact turned_of_extends (handled_del handled attempt.ref) trivial
          ⟨fun _ => id, Nat.le_refl _⟩
      · exact turned_of_extends handled trivial extends_refl
    | refuse | relay _ _ _ | callback _ _ _ | complete _ => exact unchanged
  | read attempt data =>
    cases input with
    | resolve => exact turned_consume handled own.2 data
    | reject applied =>
      rw [socialTurn]
      split
      · exact turned_of_extends (handled_del handled attempt.ref) trivial
          ⟨fun _ => id, Nat.le_refl _⟩
      · exact turned_of_extends handled trivial extends_refl
    | refuse | relay _ _ _ | callback _ _ _ | complete _ => exact unchanged
  | answered | finished _ | failed => exact unchanged

end

theorem handled_keeps (condition : Gateway → SocialCall → SocialInput → Prop) :
    Keeps (socialMachine tables hmac deployment) (handledInvariant tables deployment)
      condition where
  turn _ _ input handled own _ := socialTurn_keeps handled own input
  outside _ _ handled :=
    ⟨⟨handled.fresh, handled.takenFresh, handled.spent, handled.known⟩,
      fun _ own => callHandled_mono ⟨fun _ => id, Nat.le_refl _⟩ own⟩

theorem returns_begin_iff (good : ReturnsToTenant tables deployment gateway)
    (provider code : String) (payload : HmacStatePayload) :
    ReturnsToTenant tables deployment
        (beginCallback tables hmac deployment gateway (some payload) provider code
          (some (createHmacState hmac payload deployment.hmac_secret))).1 ↔
      (isTenant payload.tenant_id = true →
        TakesState tables deployment gateway.now provider payload) := by
  rw [beginCallback]
  split
  · rename_i error isError
    rw [returns_answer_iff good]
    constructor
    · intro isHome accepted
      exact absurd (isHome payload rfl accepted) (not_isHome_error _ _ _ _)
    · rintro takes created ⟨⟩ accepted
      obtain ⟨data, base, isAccepted⟩ :=
        (acceptCallback_created_iff tables hmac deployment accepted).mpr (takes accepted)
      rw [isAccepted] at isError
      cases isError
  · rename_i data base isAccepted
    refine iff_of_true good fun accepted => ?_
    exact (acceptCallback_created_iff tables hmac deployment accepted).mp ⟨data, base, isAccepted⟩

theorem returns_error_iff (good : ReturnsToTenant tables deployment gateway)
    (payload : Option HmacStatePayload) (provider code error : String) :
    ReturnsToTenant tables deployment
        (answer gateway payload provider code (.error error)).1 ↔
      ∀ created, payload = some created → isTenant created.tenant_id = false := by
  rw [returns_answer_iff good]
  refine forall₂_congr fun created _ => ?_
  rw [← Bool.not_eq_true]
  exact forall_congr' fun _ => iff_false_intro (not_isHome_error _ _ _ _)

theorem returns_consumeSocialRef_iff (handled : Handled gateway)
    (good : ReturnsToTenant tables deployment gateway) (attempt : Attempt) :
    ReturnsToTenant tables deployment (consumeSocialRef deployment gateway attempt).1 ↔
      ∀ data, gateway.get attempt.ref = some data → deployment.hasGetdel = true →
        HasTenant attempt data := by
  rw [consumeSocialRef]
  split
  · rename_i absent
    refine iff_of_true good ?_
    intro data found
    rw [absent] at found
    cases found
  · rename_i data found
    obtain ⟨isStored, _, isNew⟩ := known_get handled found
    simp only [found, Option.some.injEq, forall_eq']
    split
    · rename_i hasGetdel
      rw [returns_consume_iff good isStored]
      simp [isNew, hasGetdel]
    · rename_i noGetdel
      exact iff_of_true good fun hasGetdel => absurd hasGetdel noGetdel

theorem returns_storing_iff {payload : Option HmacStatePayload} {base : Location}
    (own : CallHandled tables deployment gateway (.storing payload provider data base))
    (good : ReturnsToTenant tables deployment gateway) (input : SocialInput) :
    ReturnsToTenant tables deployment
        (socialTurn tables hmac deployment gateway (.storing payload provider data base) input).1 ↔
      KeepsReturn tables deployment gateway (.storing payload provider data base) input := by
  cases payload with
  | none =>
    have answers (next : Gateway) (kept : ReturnsToTenant tables deployment next)
        (response : Except String Redirect) : ReturnsToTenant tables deployment
          (answer next none provider data.code response).1 := by
      refine (returns_answer_iff kept none provider data.code response).mpr ?_
      rintro created ⟨⟩
    cases input with
    | resolve => exact iff_of_true (answers _ (returns_store good data) _) trivial
    | refuse => exact iff_of_true (answers _ good _) trivial
    | reject applied =>
      cases applied with
      | true => exact iff_of_true (answers _ (returns_store good data) _) trivial
      | false => exact iff_of_true (answers _ good _) trivial
    | relay _ _ _ | callback _ _ _ | complete _ => exact iff_of_true good trivial
  | some payload =>
    cases input with
    | resolve =>
      refine (returns_answer_iff (returns_store good data) _ _ _ _).trans ?_
      simp only [Option.some.injEq, forall_eq']
      exact forall_congr' fun accepted => isHome_redirect_iff own accepted
    | refuse => exact (returns_error_iff good _ _ _ _).trans (by simp [KeepsReturn])
    | reject applied =>
      cases applied with
      | true =>
        exact (returns_error_iff (returns_store good data) _ _ _ _).trans
          (by simp [KeepsReturn])
      | false => exact (returns_error_iff good _ _ _ _).trans (by simp [KeepsReturn])
    | relay _ _ _ | callback _ _ _ | complete _ => exact iff_of_true good trivial

theorem returns_turn_iff (handled : Handled gateway)
    (own : CallHandled tables deployment gateway call)
    (good : ReturnsToTenant tables deployment gateway) (input : SocialInput) :
    ReturnsToTenant tables deployment (socialTurn tables hmac deployment gateway call input).1 ↔
      KeepsReturn tables deployment gateway call input := by
  cases call with
  | notStarted =>
    cases input with
    | relay provider code payload => exact returns_begin_iff good provider code payload
    | callback provider code state =>
      refine iff_of_true ?_ trivial
      rw [socialTurn, beginCallback]
      split
      · refine (returns_answer_iff good none provider code _).mpr ?_
        rintro created ⟨⟩
      · exact good
    | complete attempt =>
      refine iff_of_true ?_ trivial
      rw [socialTurn]
      split <;> exact good
    | resolve | refuse | reject _ => exact iff_of_true good trivial
  | storing payload provider data base => exact returns_storing_iff own good input
  | started attempt =>
    cases input with
    | resolve => exact returns_consumeSocialRef_iff handled good attempt
    | reject applied =>
      refine iff_of_true ?_ trivial
      rw [socialTurn]
      split
      · exact returns_del good attempt.ref
      · exact good
    | refuse | relay _ _ _ | callback _ _ _ | complete _ => exact iff_of_true good trivial
  | read attempt data =>
    cases input with
    | resolve => exact returns_consume_iff good own.1
    | reject applied =>
      refine iff_of_true ?_ trivial
      rw [socialTurn]
      split
      · exact returns_del good attempt.ref
      · exact good
    | refuse | relay _ _ _ | callback _ _ _ | complete _ => exact iff_of_true good trivial
  | answered | finished _ | failed => exact iff_of_true good trivial

theorem handled_empty (now : Nat) : Handled (empty now) := by
  constructor <;> simp [empty]

theorem returns_empty (now : Nat) : ReturnsToTenant tables deployment (empty now) := by
  constructor <;> simp [empty]

/-- Social logins return to their tenants, and refs are given out once, exactly while every slug
can be a label of a host and no two requests read a ref before one of them deletes it. -/
theorem returns_to_tenant_iff (tables : Tables) (hmac : String → Json → String)
    (deployment : Deployment) (now : Nat) (events : List (Event SocialInput Nat)) :
    AlwaysFrom (socialMachine tables hmac deployment).step
        (fun state => ReturnsToTenant tables deployment state.store)
        ⟨empty now, fun _ => .notStarted⟩ events ↔
      AllowedFrom (socialMachine tables hmac deployment).step
        (OnTurns (KeepsReturn tables deployment)) ⟨empty now, fun _ => .notStarted⟩ events := by
  refine (handled_keeps (KeepsReturn tables deployment)).always_iff ?_ ?_ ?_ ?_
  · exact fun store call input handled own good => returns_turn_iff handled own good input
  · exact fun store elapsed good => ⟨good.home, good.once, good.own⟩
  · exact ⟨handled_empty now, fun _ => trivial⟩
  · exact returns_empty now

def parako (hasGetdel : Bool) : Deployment := ⟨true, hasGetdel, "secret", "https://parako.id"⟩

theorem underscore_slug_refused : isTenant "acme_corp" = true ∧
    ¬AlwaysFrom (socialMachine Tenancy.noTables (fun _ _ => "") (parako true)).step
      (fun state => ReturnsToTenant Tenancy.noTables (parako true) state.store)
      ⟨empty 0, fun _ => .notStarted⟩
      [.turn 0 (.relay "google" "code" ⟨"acme_corp", "nonce", 0⟩)] := by
  refine ⟨by decide, ?_⟩
  intro always
  have takes := (returns_begin_iff (returns_empty 0) _ _ _).mp always.2 (by decide)
  exact absurd takes.2.2.2.1 (by decide)

end ParakoId.SocialRelay
