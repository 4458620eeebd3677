import ParakoId.Library.ExpiringIndex
import ParakoId.Library.Text

/-!
The Redis adapter of `oidc-provider`: one key for each record, and helper keys for the grants,
the user codes and the session uids. All keys are those of one tenant.
-/

namespace ParakoId.RedisAdapter

inductive ModelName
  | Grant
  | Session
  | AccessToken
  | AuthorizationCode
  | RefreshToken
  | ClientCredentials
  | Client
  | InitialAccessToken
  | RegistrationAccessToken
  | DeviceCode
  | Interaction
  | ReplayDetection
  | BackchannelAuthenticationRequest
  | PushedAuthorizationRequest
  deriving DecidableEq

def grantable : ModelName → Bool
  | .AccessToken | .AuthorizationCode | .RefreshToken | .DeviceCode
  | .BackchannelAuthenticationRequest => true
  | _ => false

def consumable : ModelName → Bool
  | .AuthorizationCode | .RefreshToken | .DeviceCode | .BackchannelAuthenticationRequest
  | .PushedAuthorizationRequest => true
  | _ => false

inductive Kind
  | record (name : ModelName)
  | grant
  | userCode
  | uid
  deriving DecidableEq

structure Key where
  kind : Kind
  id : String
  deriving DecidableEq

def key (name : ModelName) (id : String) : Key := ⟨.record name, id⟩

def grantKeyFor (id : String) : Key := ⟨.grant, id⟩

def userCodeKeyFor (userCode : String) : Key := ⟨.userCode, userCode⟩

def uidKeyFor (uid : String) : Key := ⟨.uid, uid⟩

def Kind.segment : Kind → String
  | .record .Grant => "Grant"
  | .record .Session => "Session"
  | .record .AccessToken => "AccessToken"
  | .record .AuthorizationCode => "AuthorizationCode"
  | .record .RefreshToken => "RefreshToken"
  | .record .ClientCredentials => "ClientCredentials"
  | .record .Client => "Client"
  | .record .InitialAccessToken => "InitialAccessToken"
  | .record .RegistrationAccessToken => "RegistrationAccessToken"
  | .record .DeviceCode => "DeviceCode"
  | .record .Interaction => "Interaction"
  | .record .ReplayDetection => "ReplayDetection"
  | .record .BackchannelAuthenticationRequest => "BackchannelAuthenticationRequest"
  | .record .PushedAuthorizationRequest => "PushedAuthorizationRequest"
  | .grant => "grant"
  | .userCode => "userCode"
  | .uid => "uid"

def buildRedisKey (keyPrefix tenantId : String) (segments : List String) : String :=
  ":".intercalate (keyPrefix :: tenantId :: segments)

def Key.text (keyPrefix tenantId : String) (key : Key) : String :=
  buildRedisKey keyPrefix tenantId ["oidc", key.kind.segment, key.id]

structure OIDCPayload where
  grantId : Option String
  userCode : Option String
  uid : Option String
  accountId : Option String := none
  -- `session.accountId`
  sessionAccountId : Option String := none
  consumed : Option Nat
  others : String
  deriving DecidableEq

/-- What a key holds: the text of a payload, the fields of a consumable record, the id that a
helper key leads to, or the keys of a grant. -/
inductive Value
  | payload (payload : OIDCPayload)
  | hash (payload : Option OIDCPayload) (consumed : Option Nat)
  | id (id : String)
  | list (keys : List Key)

abbrev Store := Keyspace Key Value

inductive Failure
  | wrongType
  | invalidPayload

def truthy (text : Option String) : Option String := text.filter fun text => text ≠ ""

def setPayload (payload : OIDCPayload) : Value → Value
  | .hash _ consumed => .hash (some payload) consumed
  | other => other

def setConsumed (seconds : Nat) : Value → Value
  | .hash payload _ => .hash payload (some seconds)
  | other => other

def rpush (key : Key) : Value → Value
  | .list keys => .list (keys ++ [key])
  | other => other

def decode (name : ModelName) (value : Value) : Except Failure OIDCPayload :=
  if consumable name then
    match value with
    | .hash (some payload) consumed =>
      .ok { payload with consumed := payload.consumed <|> consumed }
    | .hash none _ => .error .invalidPayload
    | _ => .error .wrongType
  else
    match value with
    | .payload payload => .ok payload
    | .id _ => .error .invalidPayload
    | _ => .error .wrongType

def find (store : Store) (name : ModelName) (id : String) :
    Except Failure (Option OIDCPayload) :=
  if id = "" then .ok none
  else
    match store.lookup (key name id) with
    | none => .ok none
    | some entry => (decode name entry.value).map some

def findByHelper (store : Store) (name : ModelName) (helperKey : Key) :
    Except Failure (Option OIDCPayload) :=
  match store.lookup helperKey with
  | none => .ok none
  | some ⟨.id id, _⟩ => find store name id
  | some _ => .error .wrongType

def findByUserCode (store : Store) (name : ModelName) (userCode : String) :
    Except Failure (Option OIDCPayload) :=
  if userCode = "" ∨ name ≠ .DeviceCode then .ok none
  else findByHelper store name (userCodeKeyFor userCode)

def findByUid (store : Store) (name : ModelName) (uid : String) :
    Except Failure (Option OIDCPayload) :=
  if uid = "" ∨ name ≠ .Session then .ok none else findByHelper store name (uidKeyFor uid)

def destroy (store : Store) (name : ModelName) (id : String) : Store :=
  if id = "" then store else store.del (key name id)

def consume (store : Store) (name : ModelName) (id : String) : Except Failure Store :=
  if id = "" then .ok store
  else
    let seconds := store.now / 1000
    match store.lookup (key name id) with
    | none => .ok (store.set (key name id) (.hash none (some seconds)))
    | some ⟨.hash _ _, _⟩ =>
      .ok (store.update (key name id) (.hash none (some seconds)) (setConsumed seconds))
    | some _ => .error .wrongType

def revokeByGrantId (store : Store) (grantId : String) : Except Failure Store :=
  if grantId = "" then .ok store
  else
    match store.lookup (grantKeyFor grantId) with
    | none => .ok (store.del (grantKeyFor grantId))
    | some ⟨.list tokens, _⟩ => .ok ((store.delAll tokens).del (grantKeyFor grantId))
    | some _ => .error .wrongType

structure Upsert where
  name : ModelName
  id : String
  payload : OIDCPayload
  expiresIn : Option Int

def Upsert.key (call : Upsert) : Key := RedisAdapter.key call.name call.id

def Upsert.lifetime (call : Upsert) : Option Int := call.expiresIn.filter fun seconds => seconds ≠ 0

def Upsert.grant (call : Upsert) : Option String :=
  if grantable call.name then truthy call.payload.grantId else none

def Upsert.extension (call : Upsert) (ttl : Int) : Option Int :=
  call.lifetime.filter fun seconds => seconds > ttl

def expireIf (store : Store) (key : Key) : Option Int → Store
  | none => store
  | some seconds => store.expire key seconds

def writeRecord (store : Store) (call : Upsert) : Store :=
  let written :=
    if consumable call.name then
      store.update call.key (.hash (some call.payload) none) (setPayload call.payload)
    else store.set call.key (.payload call.payload)
  expireIf written call.key call.lifetime

def appendToGrant (store : Store) (call : Upsert) (grantId : String) (ttl : Int) : Store :=
  let grantKey := grantKeyFor grantId
  expireIf (store.update grantKey (.list [call.key]) (rpush call.key)) grantKey
    (call.extension ttl)

def writeHelper (store : Store) (call : Upsert) (helperKey : Key) : Store :=
  expireIf (store.set helperKey (.id call.id)) helperKey call.lifetime

def writeHelpers (store : Store) (call : Upsert) : Store :=
  let store := match truthy call.payload.userCode with
    | none => store
    | some userCode => writeHelper store call (userCodeKeyFor userCode)
  match truthy call.payload.uid with
  | none => store
  | some uid => writeHelper store call (uidKeyFor uid)

end ParakoId.RedisAdapter
