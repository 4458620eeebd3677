import ParakoId.SignIn.Browser

/-!
How one signs in to the account portal: `AuthController`, and the verification of
`WebAuthnController`.
-/

namespace ParakoId.SignIn

open Calls (Call)
open SecondFactors (Mfa MfaMethod getEnabledMethods)
open SessionAccounts (SessionConfig SessionUserAccount AddRefusal)

inductive LoginMethod
  | email
  | phone
  | customIdentifier (slot : Nat)

def LoginMethod.label : LoginMethod → String
  | .email => "email"
  | .phone => "phone"
  | .customIdentifier _ => "custom_identifier"

structure Settings where
  session : SessionConfig
  login_methods : List String
  require_phone_verification : Bool
  require_2fa_for_new_device : Bool
  new_device_2fa_method : String
  webauthn_enabled : Bool
  allow_registration : Bool
  requirePasswordOnRegistration : Bool

structure SocialLoginResult (Profile : Type) where
  success : Bool
  user : Option (User Profile)
  requiresLinking : Bool

structure Services (Profile : Type) where
  now : Nat
  detectIdentifierType : String → LoginMethod
  loginWith : LoginMethod → String → String → Except SignInError (Option (User Profile))
  startPhoneVerification : String → Except SignInError Unit
  sendEmailCode : String → Except SignInError Unit
  findByUsername : String → Except SignInError (Option (User Profile))
  findById : String → Except SignInError (Option (User Profile))
  verifyTotp : String → String → Bool
  verifyEmailOtp : String → String → Except SignInError Bool
  getCredentials : String → Except SignInError (List String)
  generateAuthenticationOptions : String → Except SignInError String
  verifyAuthentication : String → String → Bool
  updateCredential : String → String → Except SignInError Unit
  handleCallback : Except SignInError (SocialLoginResult Profile)
  registerSocialUser : Except SignInError (Option (User Profile))
  regeneration : Regeneration
  isTrustedDevice : User Profile → Except SignInError Bool
  needsVerification : User Profile → Except SignInError Bool
  completeTier1 : Except SignInError (SocialLoginResult Profile)
  checkRecovery : User Profile → Except SignInError (Option String)
  updateRecovery : User Profile → Except SignInError Unit

inductive Page
  | login
  | mfaSelect
  | mfaVerify
  | mfaWebAuthn
  | dashboard
  | phoneVerification
  | accountRecovery
  | recoveryQuestions
  | recoveryBackupCodes
  | recoveryVerifyCode
  | socialCallback
  | socialSettings
  | socialPasswordSetup
  | interaction (uid : String)
  | newDeviceVerify (uid : String)
  | oidcCallback
  | oidcLogin
  | oidcError
  | address (url : String)

inductive Response
  | redirect (page : Page) (flash : Option String)
  | render (page : Page) (message : Option String)
  | json (code : Nat) (error : Option String)
  | finished (accountId : String) (amr : List String) (acr : Option String)

section Portal

variable {Profile : Type} (settings : Settings) (services : Services Profile)

def accountOf (user : User Profile) : SessionUserAccount Profile where
  id := user._id.getD ""
  username := user.username
  last_used := some services.now
  profile := user.profile

def isMfaEnabled (user : User Profile) : Bool := user.mfa.any Mfa.enabled

def getPreferredMethod (user : User Profile) : Option MfaMethod :=
  let enabledMethods := getEnabledMethods user.mfa
  (user.preferred_method.filter fun method => enabledMethods.contains method).or
    enabledMethods.head?

def secondFactorPage (user : User Profile) : Response :=
  if 1 < (getEnabledMethods user.mfa).length then .redirect .mfaSelect none
  else
    match getPreferredMethod user with
    | some .email =>
      match services.sendEmailCode user.username with
      | .ok () => .redirect .mfaVerify none
      | .error _ =>
        .redirect .login (some "Failed to send verification code. Please try again.")
    | some .webauthn => .redirect .mfaWebAuthn none
    | _ => .redirect .mfaVerify none

/-- The login stops, and `keep` says under which key the user waits for the second factor. -/
def requestSecondFactor
    (keep : PendingMfaUser Profile → BrowserSession Profile → BrowserSession Profile)
    (user : User Profile) (continueUrl : Option String) : Action Profile Response := do
  set (keep
    { account := accountOf services user, mfa_method := getPreferredMethod user
      enabled_methods := getEnabledMethods user.mfa, continue_url := continueUrl })
  return secondFactorPage services user

def keepPendingMfaUser (pending : PendingMfaUser Profile) (session : BrowserSession Profile) :
    BrowserSession Profile :=
  { session with pendingMfaUser := some pending }

def keepPendingSocialMfaUser (pending : PendingMfaUser Profile)
    (session : BrowserSession Profile) : BrowserSession Profile :=
  { session with pendingSocialMfaUser := some pending }

def refusalMessage : AddRefusal → String
  | .max_limit_reached => "Maximum number of accounts per session reached."
  | _ => "This account is already signed in."

def addAccount (intent : AddAccountIntent) (account : SessionUserAccount Profile) :
    Action Profile Response := do
  let refusal ← addAuthenticatedUser settings.session services.now account true
  remove fun session => { session with addAccountIntent := none }
  return .redirect (intent.returnUrl.elim .dashboard .address) (refusal.map refusalMessage)

def adding (session : BrowserSession Profile) : Option AddAccountIntent :=
  session.addAccountIntent.filter AddAccountIntent.addingAccount

def authenticate (account : SessionUserAccount Profile) : Action Profile Unit :=
  setAuthenticated settings.session services.now (authenticationOf account)

structure LoginForm where
  email : Option String
  phone : Option String
  login : Option String
  password : String
  continueUrl : Option String

def LoginForm.identifier (form : LoginForm) : Option (LoginMethod × String) :=
  match form.email, form.phone with
  | some email, _ => some (.email, email)
  | none, some phone => some (.phone, phone)
  | none, none => form.login.map fun login => (services.detectIdentifierType login, login)

/-- `continue` of the query: the account is added, and then the session is marked. -/
def continueLogin (account : SessionUserAccount Profile) (url : String) :
    Action Profile Response := do
  let refusal ← addAuthenticatedUser settings.session services.now account true
  if refusal ≠ some .max_limit_reached then authenticate settings services account
  return .redirect (.address url)
    (some (refusal.elim "Account added successfully." refusalMessage))

def completeLogin (account : SessionUserAccount Profile) (continueUrl : Option String) :
    Action Profile Response := do
  match ← get adding with
  | some intent => addAccount settings services intent account
  | none =>
    let redirectUrl ← get BrowserSession.loginIntent
    match continueUrl, redirectUrl with
    | some url, _ => continueLogin settings services account url
    | none, some url =>
      remove fun session => { session with loginIntent := none }
      regenerateOrLog services.regeneration
      authenticate settings services account
      return .redirect (.address url) none
    | none, none =>
      regenerateOrLog services.regeneration
      authenticate settings services account
      return .redirect .dashboard none

def credentialMessages : List String :=
  ["Invalid credentials", "Invalid email or password", "Invalid phone_number or password",
    "Invalid custom_identifier or password", "Invalid username or password"]

def loginError : SignInError → Response
  | .phoneVerificationRequired userId =>
    match services.startPhoneVerification userId with
    | .ok () => .redirect .phoneVerification none
    | .error _ =>
      .redirect .login (some "Phone verification is required. Please try again.")
  | .failed message =>
    .redirect .login (some
      (if message ∈ credentialMessages then "Invalid credentials. Please try again."
        else message))

def passwordAccepted (user : User Profile) (continueUrl : Option String) :
    Action Profile Response := do
  note (.credentialsVerified user.username)
  if isMfaEnabled user then requestSecondFactor services keepPendingMfaUser user continueUrl
  else completeLogin settings services (accountOf services user) continueUrl

def processLogin (form : LoginForm) : Action Profile Response :=
  tryCatch
    (do
      match form.identifier services with
      | none =>
        return .redirect .login
          (some "Please provide an email, phone number, or identifier.")
      | some (method, identifier) =>
        if method.label ∉ settings.login_methods then
          return .redirect .login (some "This login method is not available.")
        match ← ask (services.loginWith method identifier form.password) with
        | none => return .redirect .login (some "Invalid credentials. Please try again.")
        | some user => passwordAccepted settings services user form.continueUrl)
    fun error => return loginError services error

def pendingUser (session : BrowserSession Profile) : Option (PendingMfaUser Profile) :=
  session.pendingMfaUser.or session.pendingSocialMfaUser

def forgetPendingUsers (session : BrowserSession Profile) : BrowserSession Profile :=
  { session with pendingMfaUser := none, pendingSocialMfaUser := none }

def usedNow (account : SessionUserAccount Profile) : SessionUserAccount Profile :=
  { account with last_used := some services.now }

/-- An error counts as a code that is not valid. -/
def verifyCode (method : MfaMethod) (username code : String) : Bool :=
  match method with
  | .totp => services.verifyTotp username code
  | .email => (services.verifyEmailOtp username code).toOption.getD false
  | .webauthn => false

def finishMfa (pending : PendingMfaUser Profile) (continueUrl : Option String) :
    Action Profile Response := do
  match ← get adding with
  | some intent =>
    remove fun session => { session with addAccountIntent := none }
    return .redirect (intent.returnUrl.elim .dashboard .address) none
  | none =>
    let redirectUrl ← get BrowserSession.loginIntent
    match pending.continue_url.or continueUrl, redirectUrl with
    | some url, _ => return .redirect (.address url) none
    | none, some url =>
      remove fun session => { session with loginIntent := none }
      return .redirect (.address url) none
    | none, none => return .redirect .dashboard (some "Login successful!")

def codeAccepted (pending : PendingMfaUser Profile) (method : MfaMethod)
    (continueUrl : Option String) : Action Profile Response := do
  note (.secondFactorVerified pending.account.username method)
  regenerateOrLog services.regeneration
  authenticate settings services (usedNow services pending.account)
  remove forgetPendingUsers
  finishMfa pending continueUrl

def processMfaVerify (code : String) (continueUrl : Option String) : Action Profile Response :=
  tryCatch
    (do
      match ← get pendingUser with
      | none =>
        return .redirect .login
          (some "No pending MFA verification found. Please login again.")
      | some pending =>
        if Schemas.trim code = "" then
          return .redirect .mfaVerify (some "Please enter the verification code.")
        match pending.mfa_method with
        | none =>
          return .redirect .mfaVerify
            (some "Invalid or expired verification code. Please try again.")
        | some .webauthn => return .redirect .mfaWebAuthn none
        | some method =>
          if verifyCode services method pending.account.username (Schemas.trim code) then
            codeAccepted settings services pending method continueUrl
          else
            return .redirect .mfaVerify
              (some "Invalid or expired verification code. Please try again."))
    fun _ => pure (.redirect .login
      (some "An error occurred during verification. Please try again."))

/-- The method is written to the object that was read, and that object to `pendingMfaUser`. -/
def selectMethod (pending : PendingMfaUser Profile) (session : BrowserSession Profile) :
    BrowserSession Profile :=
  { session with
    pendingSocialMfaUser :=
      if session.pendingMfaUser.isSome then session.pendingSocialMfaUser else some pending
    pendingMfaUser := some pending }

def processMfaSelect (method : Option MfaMethod) : Action Profile Response :=
  tryCatch
    (do
      match ← get pendingUser with
      | none => return .redirect .login (some "Please login first.")
      | some pending =>
        match method.filter fun method => pending.enabled_methods.contains method with
        | none => return .redirect .mfaSelect (some "Selected MFA method is not available.")
        | some method =>
          set (selectMethod { pending with mfa_method := some method })
          match method with
          | .webauthn => return .redirect .mfaWebAuthn none
          | .totp => return .redirect .mfaVerify none
          | .email =>
            if (← ask (services.findByUsername pending.account.username)).isSome then
              ask (services.sendEmailCode pending.account.username)
            return .redirect .mfaVerify none)
    fun _ => pure (.redirect .mfaSelect
      (some "Failed to process selection. Please try again."))

def mfaWebAuthnOptions : Action Profile Response :=
  tryCatch
    (do
      match ← get pendingUser with
      | none => return .json 401 (some "Not authenticated")
      | some pending =>
        let _ ← ask (services.getCredentials pending.account.username)
        let challenge ← ask (services.generateAuthenticationOptions pending.account.username)
        set fun session => { session with webauthnChallenge := some challenge }
        return .json 200 none)
    fun _ => return .json 500 (some "Failed to generate options")

def matchingCredential (username credential : String) : Action Profile (Option String) := do
  let storedCredentials ← ask (services.getCredentials username)
  return storedCredentials.find? fun stored => stored == credential

def passkeyAdded (pending : PendingMfaUser Profile) : Action Profile Response := do
  set fun session => { session with webauthnChallenge := none }
  note (.secondFactorVerified pending.account.username .webauthn)
  regenerateOrLog services.regeneration
  let _ ← addAuthenticatedUser settings.session services.now
    (usedNow services pending.account) true
  remove forgetPendingUsers
  return .json 200 none

def processMfaWebAuthn (credential : Option String) : Action Profile Response :=
  tryCatch
    (do
      match ← get pendingUser with
      | none => return .json 401 (some "Not authenticated")
      | some pending =>
        match ← get BrowserSession.webauthnChallenge with
        | none => return .json 400 (some "No challenge found")
        | some challenge =>
          match credential with
          | none => return .json 400 (some "Credential is required")
          | some credential =>
            match ← matchingCredential services pending.account.username credential with
            | none => return .json 400 (some "Credential not found")
            | some matching =>
              if services.verifyAuthentication matching challenge then
                passkeyAdded settings services pending
              else return .json 401 (some "Verification failed"))
    fun _ => return .json 500 (some "Verification failed")

/-! `WebAuthnController`. -/

def CHALLENGE_TTL_MS : Nat := 5 * 60 * 1000

def getAuthenticationOptions : Action Profile Response :=
  tryCatch
    (do
      if settings.webauthn_enabled = false then
        return .json 400 (some "WebAuthn is not enabled")
      match ← get pendingUser with
      | none => return .json 401 (some "No pending MFA verification found")
      | some pending =>
        if pending.mfa_method ≠ some .webauthn then
          return .json 400 (some "WebAuthn MFA is not enabled for this account")
        let credentials ← ask (services.getCredentials pending.account.username)
        if credentials = [] then
          return .json 400 (some "No passkeys registered for this account")
        let challenge ← ask (services.generateAuthenticationOptions pending.account.username)
        set fun session => { session with
          webauthn_challenge := some
            { challenge, expiresAt := services.now + CHALLENGE_TTL_MS
              forAuthentication := true } }
        return .json 200 none)
    fun _ => return .json 500 (some "Failed to generate authentication options")

def forgetChallenge (session : BrowserSession Profile) : BrowserSession Profile :=
  { session with webauthn_challenge := none }

def getChallenge : Action Profile (Option String) := do
  match ← get BrowserSession.webauthn_challenge with
  | none => return none
  | some challengeData =>
    if challengeData.expiresAt < services.now then
      remove forgetChallenge
      return none
    return if challengeData.forAuthentication then some challengeData.challenge else none

def passkeyAccepted (pending : PendingMfaUser Profile) : Action Profile Response := do
  note (.secondFactorVerified pending.account.username .webauthn)
  regenerateOrLog services.regeneration
  authenticate settings services (usedNow services pending.account)
  remove forgetPendingUsers
  return .json 200 none

def verifyAuthentication (credential : Option String) : Action Profile Response :=
  tryCatch
    (do
      match ← get pendingUser with
      | none => return .json 401 (some "No pending MFA verification found")
      | some pending =>
        match ← getChallenge services with
        | none =>
          return .json 400 (some "Challenge expired or not found. Please try again.")
        | some challenge =>
          match credential with
          | none => return .json 400 (some "Credential is required")
          | some credential =>
            match ← matchingCredential services pending.account.username credential with
            | none => return .json 400 (some "WebAuthn verification failed")
            | some matching =>
              remove forgetChallenge
              if services.verifyAuthentication matching challenge then
                match services.updateCredential pending.account.username matching with
                | .error _ =>
                  return .json 500 (some "Authentication failed. Please try again.")
                | .ok () => passkeyAccepted settings services pending
              else return .json 400 (some "WebAuthn verification failed"))
    fun _ => return .json 500 (some "Failed to verify authentication")

structure SocialCallback where
  provider : String
  providerAvailable : Bool
  isRegistration : Bool
  continueUrl : Option String

def userId (user : User Profile) : String := (user._id.or user.id).getD ""

def requiresVerification (user : User Profile) : Bool :=
  settings.require_phone_verification && user.phone_number.isSome && !user.phone_number_verified

def SOCIAL_CONTEXT_TTL_MS : Nat := 10 * 60 * 1000

def phoneVerification (userId : String) : Action Profile Response := do
  ask (services.startPhoneVerification userId)
  return .redirect .phoneVerification none

/-- An intent to link never changes the active account. -/
def answerLinkIntent (callback : SocialCallback) (intent : LinkSocialAccountIntent)
    (result : SocialLoginResult Profile) : Action Profile Response := do
  remove fun session => { session with linkSocialAccountIntent := none }
  if intent.provider ≠ callback.provider then
    return .redirect .socialSettings
      (some "Social account linking request is invalid or expired")
  match ← get fun session => SessionAccounts.getActiveUser session.accounts with
  | none => return .redirect .login (some "Please sign in to link a social account")
  | some activeUser =>
    match result.user.filter fun _ => result.success with
    | none => return .redirect .socialSettings (some "Failed to link account")
    | some user =>
      if userId user ≠ activeUser.id then
        return .redirect .socialSettings
          (some "This account is linked to a different user")
      return .redirect .socialSettings (some "Account linked successfully")

def userAccountOf (user : User Profile) : SessionUserAccount Profile where
  id := userId user
  username := user.username
  last_used := some services.now
  profile := user.profile

def forgetSocialIntent (session : BrowserSession Profile) : BrowserSession Profile :=
  { session with socialIntent := none }

def registrationAccepted (callback : SocialCallback) (user : User Profile) :
    Action Profile Response := do
  note (.credentialsVerified user.username)
  regenerateOrLog services.regeneration
  authenticate settings services (userAccountOf services user)
  match callback.continueUrl, ← get BrowserSession.socialIntent with
  | some url, _ => return .redirect (.address url) none
  | none, some url =>
    remove forgetSocialIntent
    return .redirect (.address url) none
  | none, none => return .redirect .dashboard none

def handleSocialRegistration (callback : SocialCallback) : Action Profile Response :=
  tryCatch
    (do
      match ← ask services.registerSocialUser with
      | none => return .render .socialCallback none
      | some user =>
        if settings.requirePasswordOnRegistration then
          return .redirect .socialPasswordSetup none
        if requiresVerification settings user then
          return ← phoneVerification services (userId user)
        registrationAccepted settings services callback user)
    fun _ => pure (.render .socialCallback
      (some "Registration failed. Please try again or contact support."))

/-- With `continue` the session is regenerated and the account added, and nothing is marked. -/
def completeSocialLogin (callback : SocialCallback) (account : SessionUserAccount Profile) :
    Action Profile Response := do
  match ← get adding with
  | some intent => addAccount settings services intent account
  | none =>
    let redirectUrl ← get BrowserSession.socialIntent
    match callback.continueUrl, redirectUrl with
    | some url, _ =>
      regenerateOrLog services.regeneration
      let refusal ← addAuthenticatedUser settings.session services.now account true
      return .redirect (.address url) (refusal.map refusalMessage)
    | none, some url =>
      regenerateOrLog services.regeneration
      remove forgetSocialIntent
      authenticate settings services account
      return .redirect (.address url) none
    | none, none =>
      regenerateOrLog services.regeneration
      authenticate settings services account
      return .redirect .dashboard none

def socialUserAccepted (callback : SocialCallback) (user : User Profile) :
    Action Profile Response := do
  if requiresVerification settings user then
    return ← phoneVerification services (userId user)
  note (.credentialsVerified user.username)
  if isMfaEnabled user then
    let redirectUrl ← get BrowserSession.socialIntent
    requestSecondFactor services keepPendingSocialMfaUser user
      (callback.continueUrl.or redirectUrl)
  else completeSocialLogin settings services callback (userAccountOf services user)

def answerSocialResult (callback : SocialCallback) (result : SocialLoginResult Profile) :
    Action Profile Response := do
  if result.success then
    match result.user with
    | none => return .render .socialCallback (some "User not found after social authentication")
    | some user => socialUserAccepted settings services callback user
  else if result.requiresLinking && (callback.isRegistration || settings.allow_registration) then
    handleSocialRegistration settings services callback
  else return .render .socialCallback (some "Social authentication failed")

def regularSocialCallback (callback : SocialCallback) : Action Profile Response := do
  if callback.providerAvailable = false then
    return .redirect .login (some (callback.provider ++ " is not available"))
  let result ← ask services.handleCallback
  match ← get BrowserSession.linkSocialAccountIntent with
  | some intent => answerLinkIntent callback intent result
  | none => answerSocialResult settings services callback result

def forgetSocialContext (session : BrowserSession Profile) : BrowserSession Profile :=
  { session with oidcSocialContext := none }

/-- During an interaction the callback is that of the interaction, unless it has expired. -/
def socialCallback (callback : SocialCallback) : Action Profile Response :=
  tryCatch
    (do
      match ← get BrowserSession.oidcSocialContext with
      | none => regularSocialCallback settings services callback
      | some oidcContext =>
        if services.now - oidcContext.timestamp ≤ SOCIAL_CONTEXT_TTL_MS then
          return .redirect .oidcCallback none
        remove forgetSocialContext
        regularSocialCallback settings services callback)
    fun _ => pure (.render .socialCallback
      (some "An unexpected error occurred during social authentication"))

end Portal

end ParakoId.SignIn
