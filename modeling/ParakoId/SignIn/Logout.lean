import ParakoId.SessionAccounts.Limits
import ParakoId.SignIn.Browser

/-!
The confirmed logout of the account portal, as far as the session of the browser goes. The accounts
whose data at the provider is to be cleared are a part of the outcome.
-/

namespace ParakoId.SignIn

open SessionAccounts (SessionUserAccount AuthenticatedUsers isNamed getActiveUser accounts)

inductive Destruction
  | succeeds
  | fails (remains : Bool)
  deriving DecidableEq

structure StoreAnswers where
  destroy : Destruction
  saves : Bool

structure LogoutRequest where
  type : String
  account_id : Option String

inductive LogoutResponse
  | signedOut
  | signedOutOf
  | refused
  | error

structure LogoutOutcome (Profile : Type) where
  response : LogoutResponse
  session : Option (BrowserSession Profile)
  removed : Option String
  cleared : List String

section Logout

variable {Profile : Type}

def clearAuthenticationData (session : BrowserSession Profile) : BrowserSession Profile :=
  { session with
    isAuthenticated := false
    accounts := { session.accounts with authenticatedUsers := none, accountId := none }
    addAccountIntent := none }

def destroy (session : BrowserSession Profile) : Destruction → Option (BrowserSession Profile)
  | .succeeds => none
  | .fails remains => if remains then some session else none

def endSession (answers : StoreAnswers) (session : BrowserSession Profile)
    (usernames : List String) : LogoutOutcome Profile where
  response := .signedOut
  session := destroy session answers.destroy
  removed := none
  cleared := if answers.destroy = .succeeds then usernames else []

/-- The account that `removeAuthenticatedUser` takes out of the session. -/
def removedUser (session : BrowserSession Profile) (userId : String) :
    Option (SessionUserAccount Profile) :=
  (accounts session.accounts).find? (isNamed userId)

def removeFromSession (answers : StoreAnswers) (session : BrowserSession Profile)
    (userId username : String) : LogoutOutcome Profile :=
  match SessionAccounts.removeAuthenticatedUser session.accounts userId with
  | (_, false) =>
    { response := if answers.saves then .refused else .error
      session := some session, removed := none, cleared := [] }
  | (accounts, true) =>
    { response := if answers.saves then .signedOutOf else .error
      session := some (if answers.saves then { session with accounts } else session)
      removed := (removedUser session userId).map SessionUserAccount.username
      cleared := [username] }

/-- The account that a logout is asked for, or none for the active one. -/
def LogoutRequest.named (request : LogoutRequest) : Option String :=
  if request.type = "single" then request.account_id.filter fun accountId => accountId ≠ "" else none

def usernameOf (session : BrowserSession Profile) (accountId : String) : String :=
  (((accounts session.accounts).find? fun account => account.id == accountId).map
    SessionUserAccount.username |>.filter fun username => username ≠ "").getD accountId

def isOnlyAccount (session : BrowserSession Profile) (accountId : String) : Bool :=
  (accounts session.accounts).any (fun account => account.id == accountId) &&
    (accounts session.accounts).length == 1

def logoutActive (answers : StoreAnswers) (session : BrowserSession Profile) :
    LogoutOutcome Profile :=
  let userData := getActiveUser session.accounts
  if (accounts session.accounts).length ≤ 1 then
    endSession answers session (userData.map SessionUserAccount.username).toList
  else
    match userData with
    | some active => removeFromSession answers session active.id active.username
    | none => { response := .signedOut, session := some session, removed := none, cleared := [] }

/-- Counting the accounts throws where the others are missing. -/
def logout (request : LogoutRequest) (answers : StoreAnswers) (session : BrowserSession Profile) :
    LogoutOutcome Profile :=
  if (session.accounts.authenticatedUsers.any fun users => users.others.isNone) then
    { response := .error, session := some session, removed := none, cleared := [] }
  else if request.type = "all" then
    endSession answers session
      ((accounts session.accounts).map SessionUserAccount.username)
  else
    match request.named with
    | none => logoutActive answers session
    | some accountId =>
      let username := usernameOf session accountId
      if isOnlyAccount session accountId then endSession answers session [username]
      else removeFromSession answers session accountId username

end Logout

end ParakoId.SignIn
