import Mathlib.Data.List.Sort
import ParakoId.SessionStore.Documents

/-!
The operations that change the credentials of one account or close it, and the sessions of its
tenant: those of browsers, and those of the OIDC provider.
-/

namespace ParakoId.CredentialChanges

open SessionAccounts (SessionConfig isNonEmptyString getActiveUser)
open SessionStore (tenantIdFromSessionId)
open StoredSessions (SessionStoreType)

structure Settings where
  storeType : SessionStoreType
  tenantId : String
  session : SessionConfig

structure User where
  id : String
  username : String
  account_enabled : Bool

/-- Whether a session was established before the last change is for the record only: nothing reads
it. -/
structure BrowserSession (Profile : Type) where
  sid : String
  isAuthenticated : Bool
  accounts : SessionAccounts.Session Profile
  authTime : Int
  outdated : Bool

structure OidcSession where
  jti : String
  accountId : Option String
  kind : String
  outdated : Bool
  isSession : kind = "Session"

structure State (Profile : Type) where
  user : User
  browserSessions : List (BrowserSession Profile)
  oidcSessions : List OidcSession

structure OidcAnswer where
  reaches : String → Bool
  fails : Bool

inductive RevokeAnswer
  | revoked
  | notFound
  | fails
  deriving DecidableEq

structure Answers where
  oidc : OidcAnswer
  finds : Bool
  revoke : String → RevokeAnswer

section Revocation

variable {Profile : Type} (settings : Settings)

def BrowserSession.signsIn (user : User) (session : BrowserSession Profile) : Bool :=
  session.isAuthenticated &&
    ((getActiveUser session.accounts).any (fun active => active.id == user.id) ||
      settings.session.require_reauth_on_switch != some true &&
        session.accounts.others.any fun other => other.id == user.id)

/-- `isAuthenticated` looks the user up at each request. -/
def BrowserSession.authenticates (user : User) (session : BrowserSession Profile) : Bool :=
  user.account_enabled && session.signsIn settings user

/-- `findAccount` looks the user up by name, among those that are enabled. -/
def OidcSession.authenticates (user : User) (session : OidcSession) : Bool :=
  user.account_enabled && session.accountId == some user.username

/-! `revokeAllSessionsExcept` of the three adapters. -/

def isPrisma : SessionStoreType → Bool
  | .sqlite | .postgresql => true
  | .mongodb | .redis => false

/-- Whether the call returns, and what it leaves. Prisma throws, the others log. -/
def revokeAllSessionsExcept (answer : OidcAnswer) (accountId excludeSessionId : String)
    (sessions : List OidcSession) : Bool × List OidcSession :=
  let isRevoked : OidcSession → Bool := fun session =>
    session.accountId == some accountId &&
      (isPrisma settings.storeType || session.kind == "Session") &&
      session.jti != excludeSessionId && answer.reaches session.jti
  (!(answer.fails && isPrisma settings.storeType), sessions.filter fun session => !isRevoked session)

/-- Of the adapter services, all three throw. -/
def deleteSessionsByAccountId (answer : OidcAnswer) (accountId : String)
    (sessions : List OidcSession) : Bool × List OidcSession :=
  let isDeleted : OidcSession → Bool := fun session =>
    session.accountId == some accountId && answer.reaches session.jti
  (!answer.fails, sessions.filter fun session => !isDeleted session)

def isReached (sid : String) : Bool :=
  !isPrisma settings.storeType || tenantIdFromSessionId sid == settings.tenantId

def newestFirst (first second : BrowserSession Profile) : Bool :=
  decide (second.authTime ≤ first.authTime)

def findExpressSessionsForUser (accountId : String) (sessions : List (BrowserSession Profile)) :
    List (BrowserSession Profile) :=
  if isNonEmptyString accountId then
    (sessions.filter fun session => session.accounts.accountId == some accountId &&
      session.isAuthenticated && isReached settings session.sid).mergeSort newestFirst
  else []

def without (sid : String) (sessions : List (BrowserSession Profile)) :
    List (BrowserSession Profile) :=
  sessions.filter fun session => session.sid != sid

/-- The loop of `revokeOtherExpressSessions`, and whether it comes to its end. -/
def revokeEach (revoke : String → RevokeAnswer) (currentSessionId : String) :
    List (BrowserSession Profile) → List (BrowserSession Profile) →
      Bool × List (BrowserSession Profile)
  | [], sessions => (true, sessions)
  | found :: rest, sessions =>
    if isNonEmptyString found.sid && found.sid != currentSessionId then
      match revoke found.sid with
      | .fails => (false, sessions)
      | .notFound => revokeEach revoke currentSessionId rest sessions
      | .revoked => revokeEach revoke currentSessionId rest (without found.sid sessions)
    else revokeEach revoke currentSessionId rest sessions

def revokeOtherExpressSessions (answers : Answers) (username currentSessionId : String)
    (sessions : List (BrowserSession Profile)) : Bool × List (BrowserSession Profile) :=
  if answers.finds then
    revokeEach answers.revoke currentSessionId
      (findExpressSessionsForUser settings username sessions) sessions
  else (false, sessions)

/-- `revokeAllSessionsForUser` deletes the sessions that it finds by their account, or throws. -/
def revokeAllSessionsForUser (answers : Answers) (username : String)
    (sessions : List (BrowserSession Profile)) : List (BrowserSession Profile) :=
  if isNonEmptyString username && answers.finds then
    sessions.filter fun session => !(session.accounts.accountId == some username &&
      isReached settings session.sid && answers.revoke session.sid == .revoked)
  else sessions

end Revocation

/-- A change of the password in the account portal, with the name that the session gives the user
and the id that the session has afterwards. -/
structure PasswordChange where
  username : String
  currentSessionId : Option String
  regenerated : Option String
  answers : Answers

structure AdminUpdate where
  account_enabled : Bool
  new_password : Option String

structure ApiUpdate where
  username : Option String
  account_enabled : Option Bool

/-- The operations on the account as they are once their checks are passed and the user is stored,
and what else becomes of sessions. -/
inductive Operation (Profile : Type)
  | changePassword (change : PasswordChange)
  | resetPassword (answers : Answers)
  | adminUpdate (update : AdminUpdate)
  | adminEnable
  | adminDisable (answers : Answers)
  | adminDestroy (anonymized : String)
  | apiUpdate (update : ApiUpdate)
  | apiLock
  | apiUnlock
  | apiPasswordReset
  | apiDestroy (anonymized : String)
  | signIn (session : BrowserSession Profile)
  | signInAtProvider (session : OidcSession)
  | signOut (sid : String)
  | signOutAtProvider (jti : String)

section Operations

variable {Profile : Type} (settings : Settings)

def State.outdate (spared : Option String) (state : State Profile) : State Profile :=
  { state with
    browserSessions := state.browserSessions.map fun session =>
      if some session.sid = spared then session else { session with outdated := true }
    oidcSessions := state.oidcSessions.map fun session => { session with outdated := true } }

def State.enable (account_enabled : Bool) (state : State Profile) : State Profile :=
  { state with user := { state.user with account_enabled } }

def State.anonymize (anonymized : String) (state : State Profile) : State Profile :=
  { state with user := { state.user with username := anonymized, account_enabled := false } }

def regenerate (currentSessionId regenerated : String) (sessions : List (BrowserSession Profile)) :
    List (BrowserSession Profile) :=
  sessions.map fun session =>
    if session.sid = currentSessionId then { session with sid := regenerated } else session

/-- What `changePassword` does once the password is changed. Errors are logged. -/
def endOtherSessions (change : PasswordChange) (state : State Profile) : State Profile :=
  match change.currentSessionId with
  | none => state
  | some currentSessionId =>
    let (returns, oidcSessions) := revokeAllSessionsExcept settings change.answers.oidc
      change.username currentSessionId state.oidcSessions
    let state := { state with oidcSessions }
    if returns = false then state
    else
      let (returns, browserSessions) := revokeOtherExpressSessions settings change.answers
        change.username currentSessionId state.browserSessions
      let state := { state with browserSessions }
      match returns, change.regenerated with
      | true, some regenerated =>
        { state with
          browserSessions := regenerate currentSessionId regenerated state.browserSessions }
      | _, _ => state

/-- `revokeSessions` of the recovery service calls the provider alone, and logs its errors. -/
def resetPassword (answers : Answers) (state : State Profile) : State Profile :=
  { state with
    oidcSessions := (revokeAllSessionsExcept settings answers.oidc state.user.username ""
      state.oidcSessions).2 }

/-- A password of blanks counts as none. -/
def AdminUpdate.setsPassword (update : AdminUpdate) : Bool :=
  update.new_password.any isNonEmptyString

def adminUpdate (update : AdminUpdate) (state : State Profile) : State Profile :=
  if update.setsPassword || !update.account_enabled then
    (state.outdate none).enable update.account_enabled
  else state.enable update.account_enabled

/-- The sessions of browsers are revoked unless the call to the provider throws. -/
def adminDisable (answers : Answers) (state : State Profile) : State Profile :=
  let (returns, oidcSessions) :=
    deleteSessionsByAccountId answers.oidc state.user.username state.oidcSessions
  let browserSessions :=
    if returns then
      revokeAllSessionsForUser settings answers state.user.username state.browserSessions
    else state.browserSessions
  { state.enable false with browserSessions, oidcSessions }

/-- A field that is not sent keeps its value. -/
def ApiUpdate.user (update : ApiUpdate) (user : User) : User :=
  { user with
    username := update.username.getD user.username
    account_enabled := update.account_enabled.getD user.account_enabled }

def apiUpdate (update : ApiUpdate) (state : State Profile) : State Profile :=
  let changed := if update.account_enabled = some false then state.outdate none else state
  { changed with user := update.user state.user }

def step (state : State Profile) : Operation Profile → State Profile
  | .changePassword change =>
    endOtherSessions settings change (state.outdate change.currentSessionId)
  | .resetPassword answers => resetPassword settings answers (state.outdate none)
  | .adminUpdate update => adminUpdate update state
  | .adminEnable | .apiUnlock => state.enable true
  | .adminDisable answers => adminDisable settings answers (state.outdate none)
  | .adminDestroy anonymized | .apiDestroy anonymized =>
    (state.outdate none).anonymize anonymized
  | .apiUpdate update => apiUpdate update state
  | .apiLock => (state.outdate none).enable false
  | .apiPasswordReset => state.outdate none
  | .signIn session =>
    { state with
      browserSessions := { session with outdated := false } ::
        without session.sid state.browserSessions }
  | .signInAtProvider session =>
    { state with
      oidcSessions := { session with outdated := false } ::
        state.oidcSessions.filter fun other => other.jti != session.jti }
  | .signOut sid => { state with browserSessions := without sid state.browserSessions }
  | .signOutAtProvider jti =>
    { state with oidcSessions := state.oidcSessions.filter fun other => other.jti != jti }

end Operations

end ParakoId.CredentialChanges
