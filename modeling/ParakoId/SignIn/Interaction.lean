import ParakoId.SignIn.Portal

/-!
How one signs in during an interaction of the OIDC provider, and the completion of a social login
that came through the gateway. The provider itself is left out.
-/

namespace ParakoId.SignIn

open SecondFactors (Mfa MfaMethod getEnabledMethods statusOf)
open SessionAccounts (SessionUserAccount AuthenticatedUsers AddRefusal SwitchRefusal sameAccount)

section Interaction

variable {Profile : Type} (settings : Settings) (services : Services Profile)

/-! `OIDCUtils.addOrUpdateAccountInSession`. -/

/-- Nothing where reading the other accounts throws. -/
def accountExists (existing : AuthenticatedUsers Profile) (account : SessionUserAccount Profile) :
    Option Bool :=
  if existing.active.any fun active => sameAccount active account then some true
  else existing.others.map fun others => others.any fun other => sameAccount other account

def touchActive (now : Nat) (session : BrowserSession Profile) : BrowserSession Profile :=
  { session with
    accounts := { session.accounts with
      authenticatedUsers := session.accounts.authenticatedUsers.map fun existing =>
        { existing with active := existing.active.map (SessionAccounts.usedAt now) } } }

def updateAccount (existing : AuthenticatedUsers Profile) (account : SessionUserAccount Profile)
    (makeActive : Bool) : Action Profile Bool := do
  match accountExists existing account with
  | none => throw (.failed "Cannot read properties of undefined")
  | some false =>
    let refusal ← addAuthenticatedUser settings.session services.now account makeActive
    return refusal.isNone
  | some true =>
    if makeActive = false then return true
    if existing.active.any fun active => sameAccount active account then
      set (touchActive services.now)
      return true
    let refusal ← switchUser settings.session services.now account.id
    return refusal.all fun refusal => refusal = .reauth_required

def addOrUpdateAccountInSession (account : SessionUserAccount Profile) (makeActive : Bool) :
    Action Profile Bool :=
  tryCatch
    (do
      match ← get fun session => session.accounts.authenticatedUsers with
      | some existing => updateAccount settings services existing account makeActive
      | none =>
        authenticate settings services account
        return true)
    fun _ => pure false

def authenticateInInteraction (account : SessionUserAccount Profile) : Action Profile Unit := do
  let sessionSuccess ← addOrUpdateAccountInSession settings services account true
  if sessionSuccess = false then authenticate settings services account

/-! `OIDCLoginHandler`. -/

structure OidcLoginForm where
  uid : String
  credentials : Option (String × String)
  acrValues : List String

def isTotpEnabled (user : User Profile) : Bool :=
  (statusOf user.mfa).enabled && (statusOf user.mfa).totp

def loginVerifyMethod (user : User Profile) : NewDeviceMethod :=
  if settings.new_device_2fa_method ∈ ["", "auto", "totp"] && isTotpEnabled user then .totp
  else .email

def startNewDeviceVerification (user : User Profile) (account : SessionUserAccount Profile)
    (method : NewDeviceMethod) (uid : String) : Action Profile Response := do
  if method = .email then ask (services.sendEmailCode user.username)
  set fun session => { session with
    pendingNewDeviceVerification := some
      { userId := account.id, username := account.username, method := method
        userAccount := account, interactionUid := uid, created_at := services.now
        sameUser := rfl } }
  return .redirect (.newDeviceVerify uid) none

def wantsMfa (user : User Profile) (acrValues : List String) : Bool :=
  acrValues.contains "urn:mfa:otp" && isMfaEnabled user && !(getEnabledMethods user.mfa).isEmpty

def completeOidcLogin (user : User Profile) (form : OidcLoginForm) : Action Profile Response := do
  regenerate services.regeneration
  authenticateInInteraction settings services (accountOf services user)
  return .finished user.username ["pwd"]
    (some (if wantsMfa user form.acrValues then "urn:mfa:otp" else "urn:pwd"))

/-- A device that the user trusts needs no verification. -/
def loginNeedsVerification (user : User Profile) : Action Profile Bool := do
  if settings.require_2fa_for_new_device = false then return false
  if ← ask (services.isTrustedDevice user) then return false
  ask (services.needsVerification user)

def oidcPasswordAccepted (user : User Profile) (form : OidcLoginForm) :
    Action Profile Response := do
  note (.credentialsVerified user.username)
  if ← loginNeedsVerification settings services user then
    startNewDeviceVerification services user (accountOf services user)
      (loginVerifyMethod settings user) form.uid
  else completeOidcLogin settings services user form

def oidcLoginError : SignInError → Response
  | .phoneVerificationRequired userId =>
    match services.startPhoneVerification userId with
    | .ok () => .redirect .phoneVerification none
    | .error _ => .render .oidcLogin (some "Phone verification is required. Please try again.")
  | .failed _ => .render .oidcLogin (some "The credentials you provided are not valid.")

def oidcLogin (form : OidcLoginForm) : Action Profile Response := do
  match form.credentials with
  | none => return .render .oidcLogin (some "Credentials are required.")
  | some (identifier, password) =>
    tryCatch
      (do
        let method := services.detectIdentifierType identifier
        if method.label ∉ settings.login_methods then
          return .render .oidcLogin (some "This login method is not available.")
        match ← ask (services.loginWith method identifier password) with
        | none => return .render .oidcLogin (some "Invalid credentials. Please try again.")
        | some user => oidcPasswordAccepted settings services user form)
      fun error => return oidcLoginError services error

/-! `OIDCNewDeviceVerifyHandler`. -/

def NEW_DEVICE_VERIFICATION_TTL_MS : Nat := 10 * 60 * 1000

def isPendingVerificationExpired (now created_at : Nat) : Bool :=
  decide (now < created_at) || decide (NEW_DEVICE_VERIFICATION_TTL_MS < now - created_at)

def forgetNewDevice (session : BrowserSession Profile) : BrowserSession Profile :=
  { session with pendingNewDeviceVerification := none }

/-- `authService.verifyEmailOtp` finds the user by id, and takes an error for a wrong code. -/
def verifyEmailOtpOf (userId code : String) : Bool :=
  match services.findById userId with
  | .ok (some user) => (services.verifyEmailOtp user.username code).toOption.getD false
  | _ => false

def NewDeviceMethod.factor : NewDeviceMethod → MfaMethod
  | .totp => .totp
  | .email => .email

def NewDeviceMethod.amr : NewDeviceMethod → List String
  | .totp => ["pwd", "otp"]
  | .email => ["pwd", "email"]

def isCodeValid (pending : PendingNewDeviceVerification Profile) (code : String) : Bool :=
  match pending.method with
  | .totp => services.verifyTotp pending.username code
  | .email => verifyEmailOtpOf services pending.userId code

/-- The code as the schema of the body leaves it. -/
def verificationCode (code : String) : Option String :=
  if Schemas.trim code ≠ "" ∧ Text.utf16Length (Schemas.trim code) ≤ 64 then
    some (Schemas.trim code)
  else none

def deviceAccepted (pending : PendingNewDeviceVerification Profile) :
    Action Profile Response := do
  remove forgetNewDevice
  note (.secondFactorVerified pending.username pending.method.factor)
  regenerateOrLog services.regeneration
  authenticateInInteraction settings services pending.userAccount
  return .finished pending.username pending.method.amr none

def newDeviceVerify (uid code : String) : Action Profile Response :=
  tryCatch
    (do
      match ← get BrowserSession.pendingNewDeviceVerification with
      | none => return .redirect (.interaction uid) none
      | some pending =>
        if pending.interactionUid ≠ uid then return .redirect (.interaction uid) none
        if isPendingVerificationExpired services.now pending.created_at then
          remove forgetNewDevice
          return .redirect (.interaction uid) none
        if isCodeValid services pending code then
          return ← deviceAccepted settings services pending
        return .render (.newDeviceVerify uid)
          (some "Invalid verification code. Please try again."))
    fun _ => pure (.render .oidcError none)

/-! `OIDCSocialCallbackHandler`. -/

def socialVerifyMethod (user : User Profile) : NewDeviceMethod :=
  if isTotpEnabled user then .totp else .email

def completeOidcSocialLogin (user : User Profile) (uid : String) : Action Profile Response := do
  regenerate services.regeneration
  authenticate settings services (accountOf services user)
  remove forgetSocialContext
  return .redirect (.interaction uid) none

def socialNeedsVerification (user : User Profile) : Action Profile Bool := do
  if settings.require_2fa_for_new_device = false then return false
  ask (services.needsVerification user)

def oidcSocialUserAccepted (user : User Profile) (uid : String) : Action Profile Response := do
  if requiresVerification settings user then
    ask (services.startPhoneVerification (user._id.getD ""))
    remove forgetSocialContext
    return .redirect .phoneVerification none
  note (.credentialsVerified user.username)
  if ← socialNeedsVerification settings services user then
    startNewDeviceVerification services user (accountOf services user) (socialVerifyMethod user) uid
  else completeOidcSocialLogin settings services user uid

def oidcSocialCallback : Action Profile Response :=
  tryCatch
    (do
      match ← get BrowserSession.oidcSocialContext with
      | none =>
        return .render .oidcError (some "Social login session expired. Please try again.")
      | some oidcContext =>
        if SOCIAL_CONTEXT_TTL_MS < services.now - oidcContext.timestamp then
          remove forgetSocialContext
          return .render .oidcError (some "Social login session expired. Please try again.")
        let result ← ask services.handleCallback
        match result.user.filter fun _ => result.success with
        | none =>
          remove forgetSocialContext
          return .render .oidcError
            (some (if result.success then "User not found after social authentication"
              else "Social authentication failed. Please try again."))
        | some user => oidcSocialUserAccepted settings services user oidcContext.uid)
    fun _ => do
      remove forgetSocialContext
      return .render .oidcError
        (some "An unexpected error occurred during social authentication.")

def tier1Accepted (user : Option (User Profile)) : Action Profile Unit := do
  match user with
  | none => regenerate services.regeneration
  | some user =>
    note (.credentialsVerified user.username)
    regenerate services.regeneration
    setAuthenticated settings.session services.now
      { id := user.id, _id := user._id, username := user.username, profile := user.profile }

def tier1Complete : Action Profile Response :=
  tryCatch
    (do
      let result ← ask services.completeTier1
      if result.success = false then
        return .render .oidcError
          (some "Social login could not be completed. Please try again.")
      let oidcContext ← get BrowserSession.oidcSocialContext
      tier1Accepted settings services result.user
      return .redirect (oidcContext.elim .dashboard fun context => .interaction context.uid) none)
    fun _ => pure (.render .oidcError
      (some "An unexpected error occurred. Please try again."))

def mfa (accountId : Option String) (code : String) (requestedMethod : Option MfaMethod)
    (uid : String) : Action Profile Response :=
  tryCatch
    (do
      match accountId with
      | none => return .render .oidcError (some "Session expired. Please login again.")
      | some accountId =>
        if code = "" then return .redirect (.interaction uid) (some "Code is required")
        match (services.findByUsername accountId).toOption.getD none with
        | none => return .redirect (.interaction uid) (some "Invalid or expired code")
        | some user =>
          match requestedMethod.or (getPreferredMethod user) with
          | none => return .redirect (.interaction uid) (some "Invalid or expired code")
          | some method =>
            if verifyCode services method accountId code then
              note (.secondFactorVerified accountId method)
              return .finished accountId ["pwd", "otp"] (some "urn:mfa:otp")
            else return .redirect (.interaction uid) (some "Invalid or expired code"))
    fun _ => pure (.render .oidcError none)

end Interaction

end ParakoId.SignIn
