import ParakoId.SignIn.AccountRecovery

/-!
The requests of a browser that signs in, and what they have in common: none of them marks the
session but through `setAuthenticated`, and only what answers a code or a password is noted.
-/

namespace ParakoId.SignIn

open Calls (Call Keeps left outcome keeps_pure keeps_throw left_bind_keeps)
open SecondFactors (MfaMethod)
open SessionAccounts (SessionUserAccount)

inductive SignInRequest
  | processLogin (form : LoginForm)
  | processMfaVerify (code : String) (continueUrl : Option String)
  | processMfaSelect (method : Option MfaMethod)
  | mfaWebAuthnOptions
  | processMfaWebAuthn (credential : Option String)
  | getAuthenticationOptions
  | verifyAuthentication (credential : Option String)
  | socialCallback (callback : SocialCallback)
  | oidcLogin (form : OidcLoginForm)
  | newDeviceVerify (uid code : String)
  | oidcSocialCallback
  | tier1Complete
  | mfa (accountId : Option String) (code : String) (method : Option MfaMethod) (uid : String)
  | processRecoverySecurityQuestions
  | processRecoveryBackupCodes (code : String)
  | processRecoveryVerifyCode (code : String)

def handle {Profile : Type} (settings : Settings) (services : Services Profile) :
    SignInRequest → Action Profile Response
  | .processLogin form => processLogin settings services form
  | .processMfaVerify code continueUrl => processMfaVerify settings services code continueUrl
  | .processMfaSelect method => processMfaSelect services method
  | .mfaWebAuthnOptions => mfaWebAuthnOptions services
  | .processMfaWebAuthn credential => processMfaWebAuthn settings services credential
  | .getAuthenticationOptions => getAuthenticationOptions settings services
  | .verifyAuthentication credential => verifyAuthentication settings services credential
  | .socialCallback callback => socialCallback settings services callback
  | .oidcLogin form => oidcLogin settings services form
  | .newDeviceVerify uid code =>
    match verificationCode code with
    | none => pure (.render .oidcError none)
    | some code => newDeviceVerify settings services uid code
  | .oidcSocialCallback => oidcSocialCallback settings services
  | .tier1Complete => tier1Complete settings services
  | .mfa accountId code method uid => mfa services accountId code method uid
  | .processRecoverySecurityQuestions => processRecoverySecurityQuestions settings services
  | .processRecoveryBackupCodes code => processRecoveryBackupCodes settings services code
  | .processRecoveryVerifyCode code => processRecoveryVerifyCode settings services code

section Outcomes

variable {Profile : Type}

@[simp] theorem outcome_note (deed : Deed) (browser : Browser Profile) :
    outcome (note deed) browser = (.ok (), browser.noting deed) := rfl

@[simp] theorem outcome_ask {Value : Type} (answer : Except SignInError Value)
    (browser : Browser Profile) : outcome (ask answer) browser = (answer, browser) := rfl

@[simp] theorem outcome_get {Value : Type} (field : BrowserSession Profile → Option Value)
    (browser : Browser Profile) :
    outcome (get field) browser = (.ok (browser.session.bind field), browser) := rfl

@[simp] theorem outcome_remove (write : BrowserSession Profile → BrowserSession Profile)
    (browser : Browser Profile) :
    outcome (remove write) browser =
      (.ok (), { browser with session := browser.session.map write }) := rfl

@[simp] theorem left_remove (write : BrowserSession Profile → BrowserSession Profile)
    (browser : Browser Profile) :
    left (remove write) browser = { browser with session := browser.session.map write } := rfl

@[simp] theorem outcome_regenerate (regeneration : Regeneration) (browser : Browser Profile) :
    outcome (regenerate regeneration) browser = regenerated regeneration browser := rfl

@[simp] theorem outcome_setAuthenticated (config : SessionAccounts.SessionConfig) (now : Nat)
    (user : SessionAccounts.SessionAuthenticationAccount Profile) (browser : Browser Profile) :
    outcome (setAuthenticated config now user) browser = marked config now user browser := rfl

@[simp] theorem outcome_regenerateOrLog (regeneration : Regeneration)
    (browser : Browser Profile) :
    outcome (regenerateOrLog regeneration) browser =
      (.ok (), (regenerated regeneration browser).2) := by
  rw [regenerateOrLog, Calls.outcome_tryCatch, outcome_regenerate]
  rcases regenerated regeneration browser with ⟨_ | _, after⟩ <;> rfl

@[simp] theorem outcome_set (write : BrowserSession Profile → BrowserSession Profile)
    (session : BrowserSession Profile) (deeds : List Deed) :
    outcome (set write) ⟨some session, deeds⟩ = (.ok (), ⟨some (write session), deeds⟩) := rfl

@[simp] theorem outcome_addAuthenticatedUser (config : SessionAccounts.SessionConfig) (now : Nat)
    (account : SessionUserAccount Profile) (setAsActive : Bool)
    (session : BrowserSession Profile) (deeds : List Deed) :
    outcome (addAuthenticatedUser config now account setAsActive) ⟨some session, deeds⟩ =
      (.ok (SessionAccounts.addAuthenticatedUser config now session.accounts account
          setAsActive).2,
        ⟨some { session with
          accounts := (SessionAccounts.addAuthenticatedUser config now session.accounts account
            setAsActive).1 }, deeds⟩) := rfl

@[simp] theorem outcome_addAuthenticatedUser_none (config : SessionAccounts.SessionConfig)
    (now : Nat) (account : SessionUserAccount Profile) (setAsActive : Bool) (deeds : List Deed) :
    outcome (addAuthenticatedUser config now account setAsActive) ⟨none, deeds⟩ =
      (.error (.failed "Session not available"), ⟨none, deeds⟩) := rfl

@[simp] theorem outcome_switchUser (config : SessionAccounts.SessionConfig) (now : Nat)
    (userId : String) (session : BrowserSession Profile) (deeds : List Deed) :
    outcome (switchUser config now userId) ⟨some session, deeds⟩ =
      (.ok (SessionAccounts.switchUser config now session.accounts userId).2,
        ⟨some { session with
          accounts := (SessionAccounts.switchUser config now session.accounts userId).1 },
          deeds⟩) := rfl

end Outcomes

section Plain

variable {Profile : Type} {invariant : Browser Profile → Prop} {settings : Settings}
  {services : Services Profile}

theorem keeps_ask {Value : Type} (answer : Except SignInError Value) :
    Keeps invariant (ask answer : Action Profile Value) := fun _ holds => holds

theorem keeps_get {Value : Type} (field : BrowserSession Profile → Option Value) :
    Keeps invariant (get field) := fun _ holds => holds

theorem keeps_asking {Value Result : Type} {answer : Except SignInError Value}
    {next : Value → Action Profile Result}
    (rest : ∀ value, answer = .ok value → Keeps invariant (next value)) :
    Keeps invariant (ask answer >>= next) := by
  intro browser holds
  refine left_bind_keeps holds fun value middle isOutcome => ?_
  rw [outcome_ask, Prod.mk.injEq] at isOutcome
  rw [← isOutcome.2]
  exact rest value isOutcome.1 browser holds

theorem keeps_phoneVerification (id : String) :
    Keeps invariant (phoneVerification services id : Action Profile Response) :=
  Keeps.bind (keeps_ask _) fun _ => keeps_pure _

theorem keeps_matchingCredential (username credential : String) :
    Keeps invariant (matchingCredential services username credential : Action Profile _) :=
  Keeps.bind (keeps_ask _) fun _ => keeps_pure _

theorem keeps_processMfaWebAuthn
    (added : ∀ pending, Keeps invariant (passkeyAdded settings services pending))
    (credential : Option String) :
    Keeps invariant (processMfaWebAuthn settings services credential) := by
  refine Keeps.tryCatch (Keeps.bind (keeps_get _) fun pending => ?_) fun _ => keeps_pure _
  cases pending with
  | none => exact keeps_pure _
  | some pending =>
    refine Keeps.bind (keeps_get _) fun challenge => ?_
    cases challenge with
    | none => exact keeps_pure _
    | some challenge =>
      cases credential with
      | none => exact keeps_pure _
      | some credential =>
        refine Keeps.bind (keeps_matchingCredential _ _) fun matching => ?_
        cases matching with
        | none => exact keeps_pure _
        | some matching =>
          exact Keeps.ite (fun _ => added pending) fun _ => keeps_pure _

theorem keeps_mfa
    (noted : ∀ username method, Keeps invariant (note (.secondFactorVerified username method)))
    (name : Option String) (code : String) (method : Option MfaMethod) (uid : String) :
    Keeps invariant (mfa services name code method uid : Action Profile Response) := by
  refine Keeps.tryCatch ?_ fun _ => keeps_pure _
  cases name with
  | none => exact keeps_pure _
  | some name =>
    refine Keeps.ite (fun _ => keeps_pure _) fun _ => ?_
    cases (services.findByUsername name).toOption.getD none with
    | none => exact keeps_pure _
    | some user =>
      simp only
      cases method.or (getPreferredMethod user) with
      | none => exact keeps_pure _
      | some method =>
        exact Keeps.ite (fun _ => Keeps.bind (noted _ _) fun _ => keeps_pure _)
          fun _ => keeps_pure _

theorem keeps_addOrUpdateAccountInSession {account : SessionUserAccount Profile}
    {makeActive : Bool} (marks : Keeps invariant (authenticate settings services account))
    (adds : Keeps invariant
      (addAuthenticatedUser settings.session services.now account makeActive))
    (touches : Keeps invariant (set (touchActive services.now) : Action Profile Unit))
    (switches : Keeps invariant (switchUser settings.session services.now account.id)) :
    Keeps invariant (addOrUpdateAccountInSession settings services account makeActive) := by
  refine Keeps.tryCatch (Keeps.bind (keeps_get _) fun existing => ?_) fun _ => keeps_pure _
  cases existing with
  | none => exact Keeps.bind marks fun _ => keeps_pure _
  | some existing =>
    dsimp only
    rw [updateAccount]
    cases accountExists existing account with
    | none => exact keeps_throw _
    | some isThere =>
      cases isThere with
      | false => exact Keeps.bind adds fun _ => keeps_pure _
      | true =>
        refine Keeps.ite (fun _ => keeps_pure _) fun _ => Keeps.ite (fun _ => ?_) fun _ => ?_
        · exact Keeps.bind touches fun _ => keeps_pure _
        · exact Keeps.bind switches fun _ => keeps_pure _

/-- Writes that leave the accounts of the session alone keep it. -/
structure Plain (invariant : Browser Profile → Prop) : Prop where
  writes : ∀ write : BrowserSession Profile → BrowserSession Profile,
    (∀ session, (write session).accounts = session.accounts) → Keeps invariant (set write)
  removes : ∀ write : BrowserSession Profile → BrowserSession Profile,
    (∀ session, (write session).accounts = session.accounts) → Keeps invariant (remove write)

namespace Plain

variable (plain : Plain invariant)

include plain

theorem keeps_finishMfa (pending : PendingMfaUser Profile) (continueUrl : Option String) :
    Keeps invariant (finishMfa pending continueUrl) := by
  refine Keeps.bind (keeps_get _) fun intent => ?_
  cases intent with
  | some intent => exact Keeps.bind (plain.removes _ fun _ => rfl) fun _ => keeps_pure _
  | none =>
    refine Keeps.bind (keeps_get _) fun redirectUrl => ?_
    cases pending.continue_url.or continueUrl with
    | some url => exact keeps_pure _
    | none =>
      cases redirectUrl with
      | some url => exact Keeps.bind (plain.removes _ fun _ => rfl) fun _ => keeps_pure _
      | none => exact keeps_pure _

theorem keeps_processMfaSelect (method : Option MfaMethod) :
    Keeps invariant (processMfaSelect services method : Action Profile Response) := by
  refine Keeps.tryCatch (Keeps.bind (keeps_get _) fun pending => ?_) fun _ => keeps_pure _
  cases pending with
  | none => exact keeps_pure _
  | some pending =>
    simp only
    cases method.filter fun method => pending.enabled_methods.contains method with
    | none => exact keeps_pure _
    | some method =>
      refine Keeps.bind (plain.writes _ fun _ => rfl) fun _ => ?_
      cases method with
      | totp | webauthn => exact keeps_pure _
      | email =>
        refine Keeps.bind (keeps_ask _) fun found => ?_
        exact Keeps.ite
          (fun _ => Keeps.bind (keeps_ask _) fun _ => keeps_pure _)
          fun _ => keeps_pure _

theorem keeps_mfaWebAuthnOptions :
    Keeps invariant (mfaWebAuthnOptions services : Action Profile Response) := by
  refine Keeps.tryCatch (Keeps.bind (keeps_get _) fun pending => ?_) fun _ => keeps_pure _
  cases pending with
  | none => exact keeps_pure _
  | some pending =>
    exact Keeps.bind (keeps_ask _) fun _ => Keeps.bind (keeps_ask _) fun _ =>
      Keeps.bind (plain.writes _ fun _ => rfl) fun _ => keeps_pure _

theorem keeps_getAuthenticationOptions :
    Keeps invariant (getAuthenticationOptions settings services : Action Profile Response) := by
  refine Keeps.tryCatch (Keeps.ite (fun _ => keeps_pure _) fun _ =>
    Keeps.bind (keeps_get _) fun pending => ?_) fun _ => keeps_pure _
  cases pending with
  | none => exact keeps_pure _
  | some pending =>
    refine Keeps.ite (fun _ => keeps_pure _) fun _ => Keeps.bind (keeps_ask _) fun _ => ?_
    exact Keeps.ite (fun _ => keeps_pure _) fun _ => Keeps.bind (keeps_ask _) fun _ =>
      Keeps.bind (plain.writes _ fun _ => rfl) fun _ => keeps_pure _

theorem keeps_getChallenge :
    Keeps invariant (getChallenge services : Action Profile _) := by
  refine Keeps.bind (keeps_get _) fun data => ?_
  cases data with
  | none => exact keeps_pure _
  | some data =>
    exact Keeps.ite
      (fun _ => Keeps.bind (plain.removes _ fun _ => rfl) fun _ => keeps_pure _)
      fun _ => keeps_pure _

theorem keeps_answerLinkIntent (callback : SocialCallback) (intent : LinkSocialAccountIntent)
    (result : SocialLoginResult Profile) :
    Keeps invariant (answerLinkIntent callback intent result) := by
  refine Keeps.bind (plain.removes _ fun _ => rfl) fun _ =>
    Keeps.ite (fun _ => keeps_pure _) fun _ => Keeps.bind (keeps_get _) fun active => ?_
  cases active with
  | none => exact keeps_pure _
  | some active =>
    simp only
    cases result.user.filter fun _ => result.success with
    | none => exact keeps_pure _
    | some user => exact Keeps.ite (fun _ => keeps_pure _) fun _ => keeps_pure _

theorem keeps_startNewDeviceVerification (user : User Profile)
    (account : SessionUserAccount Profile) (method : NewDeviceMethod) (uid : String) :
    Keeps invariant (startNewDeviceVerification services user account method uid) := by
  have keeps : Keeps invariant (set fun session : BrowserSession Profile => { session with
        pendingNewDeviceVerification := some
          { userId := account.id, username := account.username, method := method
            userAccount := account, interactionUid := uid, created_at := services.now
            sameUser := rfl } }) :=
    plain.writes _ fun _ => rfl
  have rest := fun (_ : Unit) =>
    Keeps.bind keeps fun _ => keeps_pure (Response.redirect (.newDeviceVerify uid) none)
  exact Keeps.ite (fun _ => Keeps.bind (keeps_ask _) rest) fun _ => rest ()

end Plain

end Plain

end ParakoId.SignIn
