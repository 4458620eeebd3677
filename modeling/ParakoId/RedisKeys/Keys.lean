import ParakoId.Library.Glob
import ParakoId.RedisAdapter.Adapter
import ParakoId.TenantScope.Extension

/-!
All keys that the program writes to Redis, and the patterns that it scans them with. The keys of
the job queue are those of the queue's package and are left out.
-/

namespace ParakoId.RedisKeys

open RedisAdapter (ModelName Kind Key buildRedisKey)
open TenantScope (SYSTEM_TENANTS DEFAULT_TENANT_ID isTenantSlug)

def isPrefixCharacter (character : Char) : Bool :=
  decide ('a' ≤ character ∧ character ≤ 'z') || decide ('A' ≤ character ∧ character ≤ 'Z') ||
    decide ('0' ≤ character ∧ character ≤ '9') || character == '_' || character == '-'

structure KeyPrefix where
  text : String
  nonempty : text ≠ ""
  characters : ∀ character ∈ text.toList, isPrefixCharacter character = true

structure TenantId where
  text : String
  accepted : text ∈ SYSTEM_TENANTS ∨ isTenantSlug text = true

/-- What `crypto.randomUUID` returns. -/
structure RandomUUID where
  text : String
  characters : ∀ character ∈ text.toList, character ∈ "0123456789abcdef-".toList

def createTenantSessionId (tenantId : String) (randomComponent : RandomUUID) : String :=
  tenantId ++ "." ++ randomComponent.text

def sessionPrefix (keyPrefix : String) : String := keyPrefix ++ ":session:"

def userSessionsPrefix (keyPrefix : String) : String := keyPrefix ++ ":session" ++ ":user-sessions:"

def redisUserSessionsKey (keyPrefix accountId tenantId : String) : String :=
  if tenantId ≠ DEFAULT_TENANT_ID then userSessionsPrefix keyPrefix ++ tenantId ++ ":" ++ accountId
  else userSessionsPrefix keyPrefix ++ accountId

inductive TenantKey
  | adapter (key : Key)
  | custom (name : ModelName) (id : String)
  | rateLimit (name fullKey : String)
  | activity
  | userSessions (accountId : String)
  | session (randomComponent : RandomUUID)

def TenantKey.text (keyPrefix tenantId : String) : TenantKey → String
  | .adapter key => key.text keyPrefix tenantId
  | .custom name id => (RedisAdapter.key name id).text keyPrefix tenantId ++ ":custom"
  | .rateLimit name fullKey => buildRedisKey keyPrefix tenantId ["rl", name, fullKey]
  | .activity => buildRedisKey keyPrefix tenantId ["activity"]
  | .userSessions accountId => redisUserSessionsKey keyPrefix accountId tenantId
  | .session randomComponent =>
    sessionPrefix keyPrefix ++ createTenantSessionId tenantId randomComponent

/-- Keys that carry no tenant: sessions where there are no tenants, or from before there were,
and the references of social logins. -/
inductive PlatformKey
  | session (randomComponent : RandomUUID)
  | socialRef (ref : RandomUUID)

def SOCIAL_REF_REDIS_PREFIX : String := "social:ref:"

def PlatformKey.text (keyPrefix : String) : PlatformKey → String
  | .session randomComponent => sessionPrefix keyPrefix ++ randomComponent.text
  | .socialRef ref => SOCIAL_REF_REDIS_PREFIX ++ ref.text

inductive Scan
  | records (name : ModelName)
  | custom (name : ModelName)

def Scan.pattern (keyPrefix tenantId : String) : Scan → String
  | .records name => buildRedisKey keyPrefix tenantId ["oidc", (Kind.record name).segment, "*"]
  | .custom name =>
    buildRedisKey keyPrefix tenantId ["oidc", (Kind.record name).segment, "*", "custom"]

def Scan.finds (keyPrefix tenantId : String) (scan : Scan) (key : String) : Bool :=
  Glob.matchesPattern (scan.pattern keyPrefix tenantId).toList key.toList

def isScannedSession (keyPrefix key : String) : Bool :=
  Glob.matchesPattern (sessionPrefix keyPrefix ++ "*").toList key.toList &&
    !(userSessionsPrefix keyPrefix).toList.isPrefixOf key.toList

def TenantKey.place (tenantId : String) : TenantKey → String
  | .adapter _ | .custom _ _ | .rateLimit _ _ | .activity => tenantId
  | .userSessions _ | .session _ => "session"

def TenantKey.rest (tenantId : String) : TenantKey → String
  | .adapter key => ":".intercalate ["oidc", key.kind.segment, key.id]
  | .custom name id => ":".intercalate ["oidc", (Kind.record name).segment, id, "custom"]
  | .rateLimit name fullKey => ":".intercalate ["rl", name, fullKey]
  | .activity => "activity"
  | .userSessions accountId =>
    ":".intercalate ("user-sessions" ::
      if tenantId ≠ DEFAULT_TENANT_ID then [tenantId, accountId] else [accountId])
  | .session randomComponent => createTenantSessionId tenantId randomComponent

theorem buildRedisKey_eq (keyPrefix tenantId first : String) (segments : List String) :
    buildRedisKey keyPrefix tenantId (first :: segments) =
      keyPrefix ++ ":" ++ tenantId ++ ":" ++ ":".intercalate (first :: segments) := by
  rw [buildRedisKey, String.intercalate_cons_cons, String.intercalate_cons_cons]
  simp only [String.append_assoc]

theorem TenantKey.text_eq (keyPrefix tenantId : String) (key : TenantKey) :
    key.text keyPrefix tenantId =
      keyPrefix ++ ":" ++ key.place tenantId ++ ":" ++ key.rest tenantId := by
  cases key with
  | adapter key => exact buildRedisKey_eq keyPrefix tenantId "oidc" _
  | custom name id =>
    rw [TenantKey.text, Key.text, buildRedisKey_eq]
    simp only [TenantKey.place, TenantKey.rest, RedisAdapter.key, String.intercalate_cons_cons,
      String.intercalate_singleton, String.append_assoc]
    rfl
  | rateLimit name fullKey => exact buildRedisKey_eq keyPrefix tenantId "rl" _
  | activity => exact buildRedisKey_eq keyPrefix tenantId "activity" _
  | userSessions accountId =>
    rw [TenantKey.text, redisUserSessionsKey, TenantKey.place, TenantKey.rest]
    by_cases isDefault : tenantId = DEFAULT_TENANT_ID
    · rw [if_neg (not_not.mpr isDefault), if_neg (not_not.mpr isDefault), userSessionsPrefix]
      simp only [String.intercalate_cons_cons, String.intercalate_singleton, String.append_assoc]
      rfl
    · rw [if_pos isDefault, if_pos isDefault, userSessionsPrefix]
      simp only [String.intercalate_cons_cons, String.intercalate_singleton, String.append_assoc]
      rfl
  | session randomComponent =>
    rw [TenantKey.text, sessionPrefix, TenantKey.place, TenantKey.rest]
    simp only [String.append_assoc]
    rfl

end ParakoId.RedisKeys
