import ParakoId.Library.InsertionMap
import ParakoId.Library.Interleavings
import ParakoId.Library.Schemas
import Mathlib.Data.List.SplitOn

/-!
`createJwtAuthMiddleware` and its JWKS cache, as verifications that share the cache and the key
store.
-/

namespace ParakoId.ManagementApi

open Interleavings (Machine Shared)

structure ProblemDetail where
  type : String
  title : String
  status : Nat
  detail : String
  path : Option String

def unauthorized (detail path : String) : ProblemDetail :=
  ⟨"urn:parako:error:unauthorized", "Unauthorized", 401, detail, some path⟩

def tokenExpired (detail path : String) : ProblemDetail :=
  ⟨"urn:parako:error:token-expired", "Token Expired", 401, detail, some path⟩

def tokenInvalid (detail path : String) : ProblemDetail :=
  ⟨"urn:parako:error:token-invalid", "Invalid Token", 401, detail, some path⟩

def forbidden (detail path : String) : ProblemDetail :=
  ⟨"urn:parako:error:forbidden", "Insufficient Scope", 403, detail, some path⟩

def JWKS_CACHE_TTL_MS : Nat := 5 * 60 * 1000

def JWKS_CACHE_MAX_SIZE : Nat := 100

def ALLOWED_ALGORITHMS : List String := ["RS256", "PS256", "ES256"]

def MANAGEMENT_API_RESOURCE_URI : String := "urn:parako:api:v1"

def CLOCK_TOLERANCE : Nat := 30

def PLATFORM_ONLY_SCOPES : List String :=
  ["parako:tenants:read", "parako:tenants:write", "parako:tenants:delete",
    "parako:cross-tenant:read", "parako:cross-tenant:write",
    "parako:settings:read", "parako:settings:write"]

def isPlatformOnlyScope (scope : String) : Bool := PLATFORM_ONLY_SCOPES.contains scope

structure JWTPayload where
  iss : Option String
  aud : List String
  client_id : Option Json
  scope : Option Json
  exp : Option Json
  iat : Option Json

structure VerifyOptions where
  algorithms : List String
  issuer : String
  audience : String
  clockTolerance : Nat

inductive JoseError
  | expired
  | failed

/-- `jwtVerify` of jose, over a local key set. -/
structure Jose (Key : Type) where
  jwtVerify : List Key → String → VerifyOptions → Nat → Except JoseError JWTPayload

/-- What jose documents: it only returns the payload of a token that a key of the set signed, for
the issuer and the audience that it was given. -/
structure Jose.Verifies {Key : Type} (jose : Jose Key) (signedBy : Key → String → Prop) :
    Prop where
  signature : ∀ {keys token options now payload},
    jose.jwtVerify keys token options now = .ok payload → ∃ key ∈ keys, signedBy key token
  issuer : ∀ {keys token options now payload},
    jose.jwtVerify keys token options now = .ok payload → payload.iss = some options.issuer
  audience : ∀ {keys token options now payload},
    jose.jwtVerify keys token options now = .ok payload → options.audience ∈ payload.aud

structure TenantIssuers where
  multiTenancy : Bool
  platform : String
  tenantConfigs : String → Option String

/-- `getConfig().oidc.issuer` in the context of the tenant. -/
def TenantIssuers.issuer (config : TenantIssuers) (tenantId : String) : String :=
  if config.multiTenancy then (config.tenantConfigs tenantId).getD config.platform
  else config.platform

/-- The keys that one query of `getPublicJWKS` returned; whose they are, when they were read and
after how many clears of the cache are there for the statements. -/
structure KeySet (Key : Type) where
  keys : List Key
  tenantId : String
  readAt : Nat
  clears : Nat
  deriving DecidableEq

structure JwksCache (Key : Type) where
  verifier : KeySet Key
  loadedAt : Nat

structure Store (Key : Type) where
  keyStore : String → List Key
  jwksCache : InsertionMap String (JwksCache Key)
  clock : Nat
  clears : Nat
  reads : List (KeySet Key)

variable {Key : Type}

inductive Change (Key : Type)
  | keysChange (keyStore : String → List Key)
  | clearJwksCache
  | wait (milliseconds : Nat)

def outside (store : Store Key) : Change Key → Store Key
  | .keysChange keyStore => { store with keyStore := keyStore }
  | .clearJwksCache => { store with jwksCache := .empty, clears := store.clears + 1 }
  | .wait milliseconds => { store with clock := store.clock + milliseconds }

def cacheHit (store : Store Key) (tenantId : String) : Option (KeySet Key) :=
  ((store.jwksCache.get tenantId).filter fun cached =>
    store.clock - cached.loadedAt < JWKS_CACHE_TTL_MS).map (·.verifier)

def evictOldest (cache : InsertionMap String (JwksCache Key)) :
    InsertionMap String (JwksCache Key) :=
  if cache.size ≥ JWKS_CACHE_MAX_SIZE then
    match cache.keys.head? with
    | some oldestKey => cache.delete oldestKey
    | none => cache
  else cache

def Store.read (store : Store Key) (tenantId : String) : KeySet Key where
  keys := store.keyStore tenantId
  tenantId := tenantId
  readAt := store.clock
  clears := store.clears

def Store.save (store : Store Key) (tenantId : String) (verifier : KeySet Key) (now : Nat) :
    Store Key :=
  { store with jwksCache := (evictOldest store.jwksCache).set tenantId ⟨verifier, now⟩ }

structure ApiAuth where
  client_id : String
  scope : String
  iss : String
  aud : String
  exp : JsNumber
  iat : JsNumber

inductive Phase (Key : Type)
  | arrived
  | loading (now : Nat)
  | loaded (now : Nat) (keySet : KeySet Key)
  | verifying (verifier : KeySet Key) (issuer : String)
  | rejected (problem : ProblemDetail)
  | passed (verifier : KeySet Key) (payload : JWTPayload) (apiAuth : ApiAuth)

structure Verification (Key : Type) where
  authorization : Option String
  path : String
  tenantId : String
  token : String
  startedAfter : Nat
  phase : Phase Key

def bearerToken (authorization : Option String) (path : String) : Except ProblemDetail String :=
  match authorization.filter fun header => header ≠ "" with
  | none => .error (unauthorized "Missing Authorization header" path)
  | some authHeader =>
    if "Bearer ".toList.isPrefixOf authHeader.toList then
      let token := String.ofList (authHeader.toList.drop 7)
      if token = "" then .error (unauthorized "Bearer token is empty" path) else .ok token
    else .error (unauthorized "Authorization header must use the Bearer scheme" path)

def isText : Option Json → Option String
  | some (.str text) => some text
  | _ => none

def isNumber : Option Json → Option JsNumber
  | some (.num value) => some value
  | _ => none

def buildApiAuth (payload : JWTPayload) (issuer : String) : Option ApiAuth := do
  let clientId ← (isText payload.client_id).filter fun text => Schemas.trim text ≠ ""
  let scope ← isText payload.scope
  let exp ← isNumber payload.exp
  let iat ← isNumber payload.iat
  return ⟨clientId, scope, issuer, MANAGEMENT_API_RESOURCE_URI, exp, iat⟩

def hasPlatformScope (apiAuth : ApiAuth) : Bool :=
  (apiAuth.scope.toList.splitOn ' ').any fun scope =>
    scope ≠ [] && isPlatformOnlyScope (String.ofList scope)

def authorize (payload : JWTPayload) (issuer tenantId path : String) :
    Except ProblemDetail ApiAuth :=
  match buildApiAuth payload issuer with
  | none => .error (tokenInvalid "Access token contains invalid claims" path)
  | some apiAuth =>
    if hasPlatformScope apiAuth && tenantId ≠ "_platforms" then
      .error (forbidden "Platform-only scopes require a platform-level issuer" path)
    else .ok apiAuth

def verifyOptions (issuer : String) : VerifyOptions :=
  ⟨ALLOWED_ALGORITHMS, issuer, MANAGEMENT_API_RESOURCE_URI, CLOCK_TOLERANCE⟩

def Verification.finish (jose : Jose Key) (clock : Nat) (call : Verification Key)
    (verifier : KeySet Key) (issuer : String) : Phase Key :=
  match jose.jwtVerify verifier.keys call.token (verifyOptions issuer) clock with
  | .error .expired => .rejected (tokenExpired "Access token has expired" call.path)
  | .error .failed => .rejected (tokenInvalid "Access token verification failed" call.path)
  | .ok payload =>
    match authorize payload issuer call.tenantId call.path with
    | .error problem => .rejected problem
    | .ok apiAuth => .passed verifier payload apiAuth

def keyStoreUnavailable (path : String) : ProblemDetail :=
  tokenInvalid "Unable to verify token — key store unavailable" path

/-- One turn of a verification; whether the query of the key store fails is the input. -/
def turn (jose : Jose Key) (config : TenantIssuers) (store : Store Key) (call : Verification Key)
    (queryFails : Bool) : Store Key × Verification Key :=
  match call.phase with
  | .arrived =>
    match bearerToken call.authorization call.path with
    | .error problem => (store, { call with phase := .rejected problem })
    | .ok token =>
      let started := { call with token := token, startedAfter := store.clears }
      match cacheHit store call.tenantId with
      | some verifier =>
        (store, { started with phase := .verifying verifier (config.issuer call.tenantId) })
      | none => (store, { started with phase := .loading store.clock })
  | .loading now =>
    if queryFails then
      (store, { call with phase := .rejected (keyStoreUnavailable call.path) })
    else
      let keySet := store.read call.tenantId
      ({ store with reads := store.reads ++ [keySet] },
        { call with phase := .loaded now keySet })
  | .loaded now keySet =>
    (store.save call.tenantId keySet now,
      { call with phase := .verifying keySet (config.issuer call.tenantId) })
  | .verifying verifier issuer =>
    (store, { call with phase := call.finish jose store.clock verifier issuer })
  | .rejected _ => (store, call)
  | .passed _ _ _ => (store, call)

def verifications (jose : Jose Key) (config : TenantIssuers) :
    Machine (Store Key) (Verification Key) Bool (Change Key) where
  turn := turn jose config
  outside := outside

def Verification.isPassed (call : Verification Key) : Bool :=
  match call.phase with
  | .passed _ _ _ => true
  | _ => false

def initially (keyStore : String → List Key) (clock : Nat)
    (requests : Nat → Option String × String × String) :
    Shared (Store Key) (Verification Key) where
  store := ⟨keyStore, .empty, clock, 0, []⟩
  calls id := ⟨(requests id).1, (requests id).2.1, (requests id).2.2, "", 0, .arrived⟩

end ParakoId.ManagementApi
