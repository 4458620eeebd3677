import ParakoId.Library.Text

/-!
The accounts of one session: the active account and the others, and the five methods of
`SessionManager` that write them.
-/

namespace ParakoId.SessionAccounts

structure SessionConfig where
  multipleAccountsEnabled : Option Bool
  max_accounts_per_session : Option Nat
  require_reauth_on_switch : Option Bool

/-- `max_accounts_per_session || 5`. -/
def maxAccountsPerSession (config : SessionConfig) : Nat :=
  match config.max_accounts_per_session with
  | none | some 0 => 5
  | some count => count

structure SessionUserAccount (Profile : Type) where
  id : String
  username : String
  last_used : Option Nat
  profile : Profile

/-- Older sessions may lack either field. -/
structure AuthenticatedUsers (Profile : Type) where
  active : Option (SessionUserAccount Profile)
  others : Option (List (SessionUserAccount Profile))

structure Session (Profile : Type) where
  authenticatedUsers : Option (AuthenticatedUsers Profile)
  accountId : Option String
  pendingSwitchUserId : Option String

structure SessionAuthenticationAccount (Profile : Type) where
  id : Option String
  _id : Option String
  username : String
  profile : Profile

/-- `Partial<SessionUserAccount>`: `last_used` may be set to nothing. -/
structure AccountUpdates (Profile : Type) where
  id : Option String
  username : Option String
  last_used : Option (Option Nat)
  profile : Profile → Profile

inductive AddRefusal
  | already_exists
  | max_limit_reached
  | multi_account_disabled
  deriving DecidableEq

inductive SwitchRefusal
  | user_not_found
  | reauth_required
  deriving DecidableEq

section Methods

variable {Profile : Type}

def isNonEmptyString (text : String) : Bool :=
  text.toList.any fun letter => !Text.isWhiteSpace letter

def sameAccount (first second : SessionUserAccount Profile) : Bool :=
  first.id == second.id || first.username == second.username

def isNamed (userId : String) (account : SessionUserAccount Profile) : Bool :=
  account.id == userId || account.username == userId

def usedAt (now : Nat) (account : SessionUserAccount Profile) : SessionUserAccount Profile :=
  { account with last_used := some now }

def Session.others (session : Session Profile) : List (SessionUserAccount Profile) :=
  (session.authenticatedUsers.bind AuthenticatedUsers.others).getD []

def getActiveUser (session : Session Profile) : Option (SessionUserAccount Profile) :=
  session.authenticatedUsers.bind AuthenticatedUsers.active

/-- The account that `setAuthenticated` makes of the data, or nothing where it throws. -/
def userAccount (now : Nat) (user : SessionAuthenticationAccount Profile) :
    Option (SessionUserAccount Profile) :=
  match user.id.or user._id with
  | none => none
  | some accountId =>
    if isNonEmptyString accountId && isNonEmptyString user.username then
      some { id := accountId, username := user.username, last_used := some now
             profile := user.profile }
    else none

def othersAfter (now : Nat) (account : SessionUserAccount Profile)
    (existing : AuthenticatedUsers Profile) : List (SessionUserAccount Profile) :=
  let otherAccounts := (existing.others.getD []).eraseP (sameAccount account)
  match existing.active with
  | none => otherAccounts
  | some active =>
    if sameAccount active account then otherAccounts
    else otherAccounts ++ [usedAt now active]

def setAuthenticated (config : SessionConfig) (now : Nat) (session : Session Profile)
    (currentActiveLoggedUser : Option (SessionAuthenticationAccount Profile)) :
    Except String (Session Profile) :=
  match currentActiveLoggedUser.bind (userAccount now) with
  | none => .error "Authenticated session requires a stable account id and username"
  | some account =>
    let others := match session.authenticatedUsers with
      | none => []
      | some existing =>
        if config.multipleAccountsEnabled = some false then []
        else othersAfter now account existing
    .ok { session with
      authenticatedUsers := some { active := some account, others := some others }
      accountId := some account.username }

def updatedAccount (active : SessionUserAccount Profile) (updates : AccountUpdates Profile) :
    SessionUserAccount Profile :=
  { id := (updates.id.filter isNonEmptyString).getD active.id
    username := (updates.username.filter isNonEmptyString).getD active.username
    last_used := updates.last_used.getD active.last_used
    profile := updates.profile active.profile }

def updateActiveUserData (session : Session Profile) (updates : AccountUpdates Profile) :
    Session Profile × Bool :=
  match session.authenticatedUsers with
  | none => (session, false)
  | some authUsers =>
    match authUsers.active with
    | none => (session, false)
    | some active =>
      let updatedActive := updatedAccount active updates
      ({ session with
          authenticatedUsers := some { authUsers with active := some updatedActive }
          accountId := if active.username ≠ updatedActive.username then
              some updatedActive.username
            else session.accountId }, true)

def switchUser (config : SessionConfig) (now : Nat) (session : Session Profile)
    (userId : String) : Session Profile × Option SwitchRefusal :=
  match session.authenticatedUsers with
  | some { active := some active, others := some others } =>
    match others.find? (isNamed userId) with
    | none => (session, some .user_not_found)
    | some newActiveUser =>
      if config.require_reauth_on_switch = some true then
        ({ session with pendingSwitchUserId := some userId }, some .reauth_required)
      else
        ({ session with
            authenticatedUsers := some
              { active := some (usedAt now newActiveUser)
                others := some (others.eraseP (isNamed userId) ++ [usedAt now active]) }
            accountId := some newActiveUser.username }, none)
  | _ => (session, some .user_not_found)

def addAuthenticatedUser (config : SessionConfig) (now : Nat) (session : Session Profile)
    (account : SessionUserAccount Profile) (setAsActive : Bool) :
    Session Profile × Option AddRefusal :=
  match getActiveUser session with
  | none =>
    ({ session with
        authenticatedUsers := some { active := some account, others := some [] }
        accountId := some account.username }, none)
  | some active =>
    if config.multipleAccountsEnabled = some false then
      (session, some .multi_account_disabled)
    else if sameAccount active account ||
        session.others.any fun user => sameAccount user account then
      (session, some .already_exists)
    else if 1 + session.others.length ≥ maxAccountsPerSession config then
      (session, some .max_limit_reached)
    else if setAsActive then
      ({ session with
          authenticatedUsers := some
            { active := some (usedAt now account)
              others := some (session.others ++ [usedAt now active]) }
          accountId := some account.username }, none)
    else
      ({ session with
          authenticatedUsers := some
            { active := some active, others := some (session.others ++ [usedAt now account]) } },
        none)

def byLastUse (others : List (SessionUserAccount Profile)) : List (SessionUserAccount Profile) :=
  others.mergeSort fun first second => decide (second.last_used.getD 0 ≤ first.last_used.getD 0)

def removeAuthenticatedUser (session : Session Profile) (userId : String) :
    Session Profile × Bool :=
  match session.authenticatedUsers with
  | some { active := some active, others := some others } =>
    if isNamed userId active then
      match byLastUse others with
      | [] => (session, false)
      | promoted :: rest =>
        ({ session with
            authenticatedUsers := some { active := some promoted, others := some rest }
            accountId := some promoted.username }, true)
    else if others.any (isNamed userId) then
      ({ session with
          authenticatedUsers := some
            { active := some active, others := some (others.eraseP (isNamed userId)) } }, true)
    else (session, false)
  | _ => (session, false)

theorem sameAccount_comm (first second : SessionUserAccount Profile) :
    sameAccount first second = sameAccount second first := by
  rw [Bool.eq_iff_iff]
  simp only [sameAccount, Bool.or_eq_true, beq_iff_eq]
  exact or_congr eq_comm eq_comm

theorem active_of_users {session : Session Profile} {active : SessionUserAccount Profile}
    {others : List (SessionUserAccount Profile)}
    (isUsers : session.authenticatedUsers = some ⟨some active, some others⟩) :
    getActiveUser session = some active ∧ session.others = others := by
  rw [getActiveUser, Session.others, isUsers]
  exact ⟨rfl, rfl⟩

theorem updateActiveUserData_of_active {session : Session Profile}
    {active : SessionUserAccount Profile} (isActive : getActiveUser session = some active)
    (updates : AccountUpdates Profile) :
    getActiveUser (updateActiveUserData session updates).1 = some (updatedAccount active updates) ∧
      (updateActiveUserData session updates).1.others = session.others := by
  obtain ⟨authUsers, isUsers, isUser⟩ := Option.bind_eq_some_iff.mp isActive
  simp only [updateActiveUserData, isUsers, isUser]
  exact ⟨rfl, by rw [Session.others, Session.others, isUsers]; rfl⟩

inductive Operation (Profile : Type)
  | setAuthenticated (currentActiveLoggedUser : Option (SessionAuthenticationAccount Profile))
  | addAuthenticatedUser (account : SessionUserAccount Profile) (setAsActive : Bool)
  | switchUser (userId : String)
  | removeAuthenticatedUser (userId : String)
  | updateActiveUserData (updates : AccountUpdates Profile)

structure Call (Profile : Type) where
  now : Nat
  operation : Operation Profile

/-- A `setAuthenticated` that throws leaves the session as it is. -/
def sessionStep (config : SessionConfig) (session : Session Profile) (call : Call Profile) :
    Session Profile :=
  match call.operation with
  | .setAuthenticated user => (setAuthenticated config call.now session user).toOption.getD session
  | .addAuthenticatedUser account setAsActive =>
    (addAuthenticatedUser config call.now session account setAsActive).1
  | .switchUser userId => (switchUser config call.now session userId).1
  | .removeAuthenticatedUser userId => (removeAuthenticatedUser session userId).1
  | .updateActiveUserData updates => (updateActiveUserData session updates).1

end Methods

end ParakoId.SessionAccounts
