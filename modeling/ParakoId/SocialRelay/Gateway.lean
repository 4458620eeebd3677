import ParakoId.Library.Interleavings
import ParakoId.SocialRelay.States

/-!
The relay of a social login: the gateway keeps the authorization code under a ref, and the tenant
that the browser is sent back to takes it from there.
-/

namespace ParakoId.SocialRelay

open Interleavings (Machine Shared Event)
open Url (Tables Location)

def REF_TTL_MS : Nat := 120 * 1000

structure StoredRef where
  ref : Nat
  data : SocialRefData
  expiresAt : Nat

structure Relayed where
  payload : HmacStatePayload
  provider : String
  code : String
  answer : Except String Redirect

structure Attempt where
  ref : Nat
  provider : String
  tenantId : Option String

/-- The refs in Redis; besides, all that were ever stored, the answers to created states, the
refs whose data some request was given, and the requests that went on with it. -/
structure Gateway where
  now : Nat
  refs : List StoredRef
  created : Nat
  stored : List (Nat × SocialRefData)
  relayed : List Relayed
  taken : List Nat
  completed : List (Attempt × SocialRefData)

def empty (now : Nat) : Gateway where
  now := now
  refs := []
  created := 0
  stored := []
  relayed := []
  taken := []
  completed := []

namespace Gateway

def store (gateway : Gateway) (data : SocialRefData) : Gateway :=
  { gateway with
    refs := gateway.refs ++ [⟨gateway.created, data, gateway.now + REF_TTL_MS⟩]
    created := gateway.created + 1
    stored := gateway.stored ++ [(gateway.created, data)] }

def get (gateway : Gateway) (ref : Nat) : Option SocialRefData :=
  (gateway.refs.find? fun entry => entry.ref == ref && decide (gateway.now < entry.expiresAt)).map
    StoredRef.data

def del (gateway : Gateway) (ref : Nat) : Gateway :=
  { gateway with refs := gateway.refs.filter fun entry => entry.ref ≠ ref }

end Gateway

inductive SocialCall
  | notStarted
  | storing (payload : Option HmacStatePayload) (provider : String) (data : SocialRefData)
      (base : Location)
  | answered
  | started (attempt : Attempt)
  | read (attempt : Attempt) (data : SocialRefData)
  | finished (result : Except String String)
  | failed

inductive SocialInput
  | relay (provider code : String) (payload : HmacStatePayload)
  | callback (provider code : String) (state : Option Json)
  | complete (attempt : Attempt)
  | resolve
  | refuse
  | reject (applied : Bool)

section Service

variable (tables : Tables) (hmac : String → Json → String) (deployment : Deployment)

/-! `handleCallback` -/

def answer (gateway : Gateway) (payload : Option HmacStatePayload) (provider code : String)
    (response : Except String Redirect) : Gateway × SocialCall :=
  ({ gateway with
      relayed := gateway.relayed ++ payload.toList.map fun payload =>
        ⟨payload, provider, code, response⟩ },
    .answered)

def beginCallback (gateway : Gateway) (payload : Option HmacStatePayload) (provider code : String)
    (state : Option Json) : Gateway × SocialCall :=
  match acceptCallback tables hmac deployment gateway.now provider code state with
  | .error error => answer gateway payload provider code (.error error)
  | .ok (data, base) => (gateway, .storing payload provider data base)

/-- A constructor that throws, as the client of Redis may, is the concern of the route. -/
def redirect (data : SocialRefData) (base : Location) (ref : Nat) : Except String Redirect :=
  match redirectUrl tables data base ref with
  | some url => .ok url
  | none => .error "Internal server error"

/-! `complete` -/

def SocialRefData.isComplete (data : SocialRefData) : Bool :=
  Schemas.trim data.provider != "" && Schemas.trim data.code != "" &&
    Schemas.trim data.tenant_id != ""

def checkRef (attempt : Attempt) (data : SocialRefData) : Except String String :=
  if data.provider ≠ attempt.provider then .error "Provider mismatch"
  else
    match Tenancy.presentText attempt.tenantId with
    | some currentTenantId =>
      if data.tenant_id ≠ currentTenantId then .error "Invalid request" else .ok data.code
    | none => .ok data.code

def consume (gateway : Gateway) (attempt : Attempt) (data : SocialRefData) :
    Gateway × SocialCall :=
  if data.isComplete then
    let next := { gateway with taken := gateway.taken ++ [attempt.ref] }
    match checkRef attempt data with
    | .error error => (next, .finished (.error error))
    | .ok code =>
      ({ next with completed := next.completed ++ [(attempt, data)] }, .finished (.ok code))
  else (gateway, .finished (.error "Missing required fields in ref data"))

def consumeSocialRef (gateway : Gateway) (attempt : Attempt) : Gateway × SocialCall :=
  match gateway.get attempt.ref with
  | none => (gateway, .finished (.error "Ref not found or expired"))
  | some data =>
    if deployment.hasGetdel then consume (gateway.del attempt.ref) attempt data
    else (gateway, .read attempt data)

def socialTurn (gateway : Gateway) : SocialCall → SocialInput → Gateway × SocialCall
  | .notStarted, .relay provider code payload =>
    beginCallback tables hmac deployment gateway (some payload) provider code
      (some (createHmacState hmac payload deployment.hmac_secret))
  | .notStarted, .callback provider code state =>
    beginCallback tables hmac deployment gateway none provider code state
  | .notStarted, .complete attempt =>
    if deployment.redis then (gateway, .started attempt)
    else (gateway, .finished (.error "Service unavailable"))
  | .storing payload provider data base, .resolve =>
    answer (gateway.store data) payload provider data.code
      (redirect tables data base gateway.created)
  | .storing payload provider data _, .refuse =>
    answer gateway payload provider data.code (.error "Service unavailable")
  | .storing payload provider data _, .reject applied =>
    answer (if applied then gateway.store data else gateway) payload provider data.code
      (.error "Internal server error")
  | .started attempt, .resolve => consumeSocialRef deployment gateway attempt
  | .started attempt, .reject applied =>
    (if deployment.hasGetdel && applied then gateway.del attempt.ref else gateway, .failed)
  | .read attempt data, .resolve => consume (gateway.del attempt.ref) attempt data
  | .read attempt _, .reject applied =>
    (if applied then gateway.del attempt.ref else gateway, .failed)
  | call, _ => (gateway, call)

def socialMachine : Machine Gateway SocialCall SocialInput Nat where
  turn := socialTurn tables hmac deployment
  outside gateway elapsed := { gateway with now := gateway.now + elapsed }

end Service

end ParakoId.SocialRelay
