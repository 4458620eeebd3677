import ParakoId.Library.Calls
import ParakoId.SecondFactors.Methods
import ParakoId.SessionAccounts.Accounts

/-!
The session of a browser that signs in, and the methods of `SessionManager` that sign-ins call.
-/

namespace ParakoId.SignIn

open Calls (Call outcome)
open SecondFactors (Mfa MfaMethod)
open SessionAccounts (SessionConfig SessionUserAccount AddRefusal SwitchRefusal)

structure User (Profile : Type) where
  id : Option String
  _id : Option String
  username : String
  mfa : Option Mfa
  preferred_method : Option MfaMethod
  phone_number : Option String
  phone_number_verified : Bool
  profile : Profile

structure PendingMfaUser (Profile : Type) where
  account : SessionUserAccount Profile
  mfa_method : Option MfaMethod
  enabled_methods : List MfaMethod
  continue_url : Option String

inductive NewDeviceMethod
  | totp
  | email
  deriving DecidableEq

/-- `login.ts` and `social-callback.ts` take the name from the account that they keep. -/
structure PendingNewDeviceVerification (Profile : Type) where
  userId : String
  username : String
  method : NewDeviceMethod
  userAccount : SessionUserAccount Profile
  interactionUid : String
  created_at : Nat
  sameUser : userAccount.username = username

structure AddAccountIntent where
  addingAccount : Bool
  returnUrl : Option String

structure LinkSocialAccountIntent where
  provider : String
  returnUrl : String

structure OIDCSocialContext where
  uid : String
  timestamp : Nat

inductive RecoveryMethod
  | security_questions
  | backup_codes
  | sms
  | secondary_email
  deriving DecidableEq

structure RecoveryAttempt where
  userId : String
  method : RecoveryMethod
  smsSent : Bool

structure SecondaryEmailVerification where
  userId : String
  code : String
  expiresAt : Nat

/-- The challenge that `webauthn.controller.ts` keeps. -/
structure ChallengeData where
  challenge : String
  expiresAt : Nat
  forAuthentication : Bool

structure BrowserSession (Profile : Type) where
  id : String
  isAuthenticated : Bool
  accounts : SessionAccounts.Session Profile
  pendingMfaUser : Option (PendingMfaUser Profile)
  pendingSocialMfaUser : Option (PendingMfaUser Profile)
  pendingNewDeviceVerification : Option (PendingNewDeviceVerification Profile)
  addAccountIntent : Option AddAccountIntent
  linkSocialAccountIntent : Option LinkSocialAccountIntent
  loginIntent : Option String
  socialIntent : Option String
  oidcSocialContext : Option OIDCSocialContext
  recoveryAttempt : Option RecoveryAttempt
  secondaryEmailVerification : Option SecondaryEmailVerification
  webauthnChallenge : Option String
  webauthn_challenge : Option ChallengeData

def BrowserSession.blank {Profile : Type} (id : String) : BrowserSession Profile where
  id := id
  isAuthenticated := false
  accounts := ⟨none, none, none⟩
  pendingMfaUser := none
  pendingSocialMfaUser := none
  pendingNewDeviceVerification := none
  addAccountIntent := none
  linkSocialAccountIntent := none
  loginIntent := none
  socialIntent := none
  oidcSocialContext := none
  recoveryAttempt := none
  secondaryEmailVerification := none
  webauthnChallenge := none
  webauthn_challenge := none

/-- What has happened in the session, for the record only: nothing reads it. -/
inductive Deed
  | credentialsVerified (username : String)
  | secondFactorVerified (username : String) (method : MfaMethod)
  | regenerated (id : String)
  | regenerationFailed
  | authenticated (id : String) (username : String)
  deriving DecidableEq

/-- `req.session`, and the deeds from the last one back. -/
structure Browser (Profile : Type) where
  session : Option (BrowserSession Profile)
  deeds : List Deed

inductive SignInError
  | phoneVerificationRequired (userId : String)
  | failed (message : String)

abbrev Action (Profile : Type) := Call SignInError (Browser Profile)

/-- What express-session leaves of a session that it could not regenerate. -/
inductive Remains
  | kept
  | blank (id : String)
  | gone

inductive Regeneration
  | issues (id : String)
  | fails (message : String) (remains : Remains)

section Methods

variable {Profile : Type}

def Remains.of (session : BrowserSession Profile) : Remains → Option (BrowserSession Profile)
  | .kept => some session
  | .blank id => some (.blank id)
  | .gone => none

def Browser.noting (browser : Browser Profile) (deed : Deed) : Browser Profile :=
  { browser with deeds := deed :: browser.deeds }

def note (deed : Deed) : Action Profile Unit :=
  ExceptT.mk fun browser => (.ok (), browser.noting deed)

def ask {Value : Type} (answer : Except SignInError Value) : Action Profile Value :=
  ExceptT.mk fun browser => (answer, browser)

def get {Value : Type} (field : BrowserSession Profile → Option Value) :
    Action Profile (Option Value) :=
  ExceptT.mk fun browser => (.ok (browser.session.bind field), browser)

def set (write : BrowserSession Profile → BrowserSession Profile) : Action Profile Unit :=
  ExceptT.mk fun browser =>
    match browser.session with
    | none => (.error (.failed "Session not available"), browser)
    | some session => (.ok (), { browser with session := some (write session) })

def remove (write : BrowserSession Profile → BrowserSession Profile) : Action Profile Unit :=
  ExceptT.mk fun browser => (.ok (), { browser with session := browser.session.map write })

def regenerated (regeneration : Regeneration) (browser : Browser Profile) :
    Except SignInError Unit × Browser Profile :=
  match browser.session, regeneration with
  | none, _ =>
    (.error (.failed "Session not available"), browser.noting .regenerationFailed)
  | some session, .issues id =>
    (.ok (), { session := some { session with id }, deeds := .regenerated id :: browser.deeds })
  | some session, .fails message remains =>
    (.error (.failed message),
      { session := remains.of session, deeds := .regenerationFailed :: browser.deeds })

def regenerate (regeneration : Regeneration) : Action Profile Unit :=
  ExceptT.mk fun browser => regenerated regeneration browser

/-- Sets the marker that `isAuthenticated` reads. -/
def marked (config : SessionConfig) (now : Nat)
    (user : SessionAccounts.SessionAuthenticationAccount Profile) (browser : Browser Profile) :
    Except SignInError Unit × Browser Profile :=
  match SessionAccounts.userAccount now user, browser.session with
  | none, _ =>
    (.error (.failed "Authenticated session requires a stable account id and username"), browser)
  | some _, none => (.error (.failed "Session not available"), browser)
  | some account, some session =>
    match SessionAccounts.setAuthenticated config now session.accounts (some user) with
    | .error message => (.error (.failed message), browser)
    | .ok accounts =>
      (.ok (),
        { session := some { session with accounts, isAuthenticated := true }
          deeds := .authenticated session.id account.username :: browser.deeds })

def setAuthenticated (config : SessionConfig) (now : Nat)
    (user : SessionAccounts.SessionAuthenticationAccount Profile) : Action Profile Unit :=
  ExceptT.mk fun browser => marked config now user browser

/-- Writes the accounts of the session, and not the marker. -/
def addAuthenticatedUser (config : SessionConfig) (now : Nat) (account : SessionUserAccount Profile)
    (setAsActive : Bool) : Action Profile (Option AddRefusal) :=
  ExceptT.mk fun browser =>
    match browser.session with
    | none => (.error (.failed "Session not available"), browser)
    | some session =>
      let (accounts, refusal) :=
        SessionAccounts.addAuthenticatedUser config now session.accounts account setAsActive
      (.ok refusal, { browser with session := some { session with accounts } })

def switchUser (config : SessionConfig) (now : Nat) (userId : String) :
    Action Profile (Option SwitchRefusal) :=
  ExceptT.mk fun browser =>
    match browser.session with
    | none => (.ok (some .user_not_found), browser)
    | some session =>
      let (accounts, refusal) := SessionAccounts.switchUser config now session.accounts userId
      (.ok refusal, { browser with session := some { session with accounts } })

/-- `{ currentActiveLoggedUser: account }`. -/
def authenticationOf (account : SessionUserAccount Profile) :
    SessionAccounts.SessionAuthenticationAccount Profile where
  id := some account.id
  _id := none
  username := account.username
  profile := account.profile

def regenerateOrLog (regeneration : Regeneration) : Action Profile Unit :=
  tryCatch (regenerate regeneration) fun _ => pure ()

end Methods

end ParakoId.SignIn
