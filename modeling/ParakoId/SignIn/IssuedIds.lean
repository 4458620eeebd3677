import ParakoId.SignIn.Exposures

/-!
The handlers of account recovery and of an interaction: the first never regenerate the session, the
others throw what a regeneration throws, but for the one that verifies a device.
-/

namespace ParakoId.SignIn

open Calls (Call Keeps left outcome left_bind left_tryCatch_pure)
open SessionAccounts (SessionUserAccount)

section IssuedIds

variable {Profile : Type} (settings : Settings) (services : Services Profile)
  (session : Option (BrowserSession Profile))

theorem deviceAccepted_guarded_iff (pending : PendingNewDeviceVerification Profile) :
    Guarded (deedsOf session (deviceAccepted settings services pending)) ↔
      ((unregenerated services.regeneration (session.map forgetNewDevice)).any fun left =>
        marksInInteraction settings services left.accounts pending.userAccount) = false := by
  rw [deedsOf, deviceAccepted, left_bind, outcome_remove]
  simp only
  rw [left_bind, outcome_note]
  simp only [Browser.noting]
  rw [left_bind, outcome_regenerateOrLog]
  simp only
  rw [left_bind_quiet _ fun _ => quiet_pure _, left_authenticateInInteraction]
  exact guarded_noteMark_iff services.regeneration _ rfl _ _

theorem newDeviceVerify_guarded_iff (uid code : String) :
    Guarded (deedsOf session (newDeviceVerify settings services uid code)) ↔
      ((acceptedDevice services session uid code).any fun pending =>
        (unregenerated services.regeneration (session.map forgetNewDevice)).any fun left =>
          marksInInteraction settings services left.accounts pending.userAccount) = false := by
  rw [deedsOf, newDeviceVerify, left_tryCatch_pure, left_bind, outcome_get]
  simp only [acceptedDevice]
  cases session.bind BrowserSession.pendingNewDeviceVerification with
  | none => simp [Guarded]
  | some pending =>
    by_cases isSame : pending.interactionUid = uid
    · cases isExpired : isPendingVerificationExpired services.now pending.created_at with
      | true => simp [isSame, isExpired, Guarded]
      | false =>
        cases isValid : isCodeValid services pending code with
        | false => simp [isSame, isExpired, isValid, Guarded]
        | true =>
          have sameName := pending.sameUser
          have accepted := deviceAccepted_guarded_iff settings services session pending
          simpa [deedsOf, isSame, isExpired, isValid] using accepted
    · simp [isSame, Guarded]

theorem recovered_guarded_iff (user : User Profile)
    (forget : BrowserSession Profile → BrowserSession Profile) :
    Guarded (deedsOf session (recovered settings services user forget)) ↔
      (session.any fun _ => stable (accountOf services user)) = false := by
  rw [deedsOf, recovered, left_bind, outcome_note]
  simp only [Browser.noting]
  rw [left_bind, outcome_remove]
  simp only
  rw [left_bind_quiet _ fun _ => quiet_pure _, left_authenticate,
    guarded_noteMark_early _ (.credentialsVerified user.username) rfl]
  cases session <;> rfl

theorem checked_guarded_iff (userId : String) {missing : Action Profile Response}
    (quietMissing : Quiet missing) {refused : String → Action Profile Response}
    (quietRefused : ∀ error, Quiet (refused error)) (next : User Profile → Action Profile Response)
    (wrong : User Profile → Bool)
    (isWrong : ∀ user, Guarded (deedsOf session (next user)) ↔ wrong user = false) :
    Guarded (deedsOf session (do
        match ← ask (services.findById userId) with
        | none => missing
        | some user =>
          match ← ask (services.checkRecovery user) with
          | some error => refused error
          | none => next user)) ↔
      (recoveryUser services userId).any wrong = false := by
  rw [deedsOf, left_bind, outcome_ask, recoveryUser]
  cases services.findById userId with
  | error error => simp [Guarded, Except.toOption]
  | ok found =>
    cases found with
    | none =>
      simp only [Except.toOption, Option.join_some]
      rw [quietMissing.left_eq]
      simp [Guarded]
    | some user =>
      simp only [Except.toOption, Option.join_some]
      rw [left_bind, outcome_ask]
      cases isChecked : services.checkRecovery user with
      | error error => simp [Guarded, isChecked, Option.filter]
      | ok refusal =>
        cases refusal with
        | some refusal =>
          simp only [(quietRefused refusal).left_eq]
          simp [Guarded, isChecked, Option.filter]
        | none => simpa [deedsOf, isChecked, Option.filter] using isWrong user

theorem recovered_of_session (found : BrowserSession Profile) (user : User Profile)
    (forget : BrowserSession Profile → BrowserSession Profile) :
    Guarded (deedsOf (some found) (recovered settings services user forget)) ↔
      stable (accountOf services user) = false :=
  recovered_guarded_iff settings services (some found) user forget

theorem processRecoverySecurityQuestions_guarded_iff :
    Guarded (deedsOf session (processRecoverySecurityQuestions settings services)) ↔
      exposed settings services session .processRecoverySecurityQuestions = false := by
  rw [deedsOf, processRecoverySecurityQuestions, left_tryCatch_pure, left_bind, outcome_get,
    exposed]
  rcases session with _ | session
  · simp [Guarded]
  · simp only [Option.bind_some]
    cases recoveryFor .security_questions session with
    | none => simp [Guarded]
    | some attempt =>
      exact checked_guarded_iff services (some session) attempt.userId (quiet_pure _)
        (fun _ => quiet_pure _) _ _ fun user =>
          recovered_of_session settings services session user forgetRecovery

theorem updated_guarded_iff (found : BrowserSession Profile) (user : User Profile)
    (forget : BrowserSession Profile → BrowserSession Profile) :
    Guarded (deedsOf (some found) (do
        ask (services.updateRecovery user)
        recovered settings services user forget)) ↔
      (isUpdated services user && stable (accountOf services user)) = false := by
  have recoveredUser := recovered_of_session settings services found user forget
  rw [deedsOf, left_bind, outcome_ask, isUpdated]
  cases services.updateRecovery user with
  | error error => simp [Guarded, Except.toOption]
  | ok => simpa [deedsOf, Except.toOption] using recoveredUser

theorem processRecoveryBackupCodes_guarded_iff (code : String) :
    Guarded (deedsOf session (processRecoveryBackupCodes settings services code)) ↔
      exposed settings services session (.processRecoveryBackupCodes code) = false := by
  rw [deedsOf, processRecoveryBackupCodes, left_tryCatch_pure, left_bind, outcome_get, exposed]
  rcases session with _ | session
  · simp [Guarded]
  · simp only [Option.bind_some]
    cases recoveryFor .backup_codes session with
    | none => simp [Guarded]
    | some attempt =>
      by_cases isEmpty : Schemas.trim code = ""
      · simp [isEmpty, Guarded]
      · simp only [isEmpty, if_false, ne_eq, not_false_eq_true, decide_true, Bool.true_and]
        exact checked_guarded_iff services (some session) attempt.userId (quiet_pure _)
          (fun _ => quiet_pure _) _ _ fun user =>
            updated_guarded_iff settings services session user forgetRecovery

theorem recoverBySecondaryEmail_guarded_iff (found : BrowserSession Profile)
    (verification : SecondaryEmailVerification) (code : String) :
    Guarded (deedsOf (some found)
        (recoverBySecondaryEmail settings services verification code)) ↔
      (decide (services.now < verification.expiresAt) &&
        (recoveryUser services verification.userId).any fun user =>
          decide (code = verification.code) && isUpdated services user &&
            stable (accountOf services user)) = false := by
  rw [recoverBySecondaryEmail]
  by_cases isExpired : verification.expiresAt ≤ services.now
  · have notBefore : ¬services.now < verification.expiresAt := by omega
    simp [isExpired, notBefore, deedsOf, Guarded]
  · have isBefore : services.now < verification.expiresAt := by omega
    simp only [isExpired, if_false, isBefore, decide_true, Bool.true_and]
    refine checked_guarded_iff services (some found) verification.userId (quiet_pure _)
      (fun _ => quiet_pure _) _ _ fun user => ?_
    by_cases isCode : code = verification.code
    · simpa [isCode] using updated_guarded_iff settings services found user
        (forgetRecovery ∘ forgetSecondaryEmail)
    · simp only [ne_eq, isCode, not_false_eq_true, if_true]
      rw [deedsOf, (Quiet.bind (quiet_ask _) fun _ => quiet_pure _).left_eq]
      simp [Guarded]

theorem any_and {Value : Type} (found : Option Value) (always : Bool) (test : Value → Bool) :
    (found.any fun value => always && test value) = (always && found.any test) := by
  cases found <;> simp

theorem processRecoveryVerifyCode_guarded_iff (code : String) :
    Guarded (deedsOf session (processRecoveryVerifyCode settings services code)) ↔
      exposed settings services session (.processRecoveryVerifyCode code) = false := by
  rw [deedsOf, processRecoveryVerifyCode, left_tryCatch_pure, left_bind, outcome_get, exposed,
    codeUser]
  simp only
  rw [left_bind, outcome_get]
  rcases session with _ | session
  · simp [Guarded]
  · simp only [Option.bind_some]
    by_cases isEmpty : Schemas.trim code = ""
    · cases smsChallenge session <;> cases session.secondaryEmailVerification <;>
        simp [isEmpty, Guarded]
    · cases smsChallenge session with
      | some attempt =>
        have bySms : Guarded (deedsOf (some session) (recoverBySms settings services attempt)) ↔
            ((recoveryUser services attempt.userId).any fun user =>
              stable (accountOf services user)) = false :=
          checked_guarded_iff services (some session) attempt.userId (quiet_pure _)
            (fun _ => quiet_pure _) _ _ fun user =>
              recovered_of_session settings services session user forgetRecovery
        simpa [isEmpty, deedsOf] using bySms
      | none =>
        cases session.secondaryEmailVerification with
        | none => simp [isEmpty, Guarded]
        | some verification =>
          have byEmail := recoverBySecondaryEmail_guarded_iff settings services session
            verification (Schemas.trim code)
          simp only [Bool.and_assoc, any_and] at byEmail
          simpa [isEmpty, deedsOf, any_and, Bool.and_assoc] using byEmail

theorem safe_start {call : Action Profile Response} (safe : Safe call) :
    Guarded (deedsOf session call) := safe ⟨session, []⟩ trivial

theorem safe_passkeyAdded (pending : PendingMfaUser Profile) :
    Safe (passkeyAdded settings services pending) :=
  Safe.bind (quiet_set _).safe fun _ => Safe.bind (safe_note rfl) fun _ =>
    Safe.bind (safe_regenerateOrLog _) fun _ =>
      Safe.bind (quiet_addAuthenticatedUser _ _ _ _).safe fun _ =>
        (Quiet.bind (quiet_remove _) fun _ => quiet_pure _).safe

theorem quiet_startNewDeviceVerification (user : User Profile)
    (account : SessionUserAccount Profile) (method : NewDeviceMethod) (uid : String) :
    Quiet (startNewDeviceVerification services user account method uid) :=
  fun deeds => (quiet_plain deeds).keeps_startNewDeviceVerification user account method uid

theorem quiet_loginNeedsVerification (user : User Profile) :
    Quiet (loginNeedsVerification settings services user) :=
  Quiet.ite (quiet_pure _) (Quiet.bind (quiet_ask _) fun _ =>
    Quiet.ite (quiet_pure _) (quiet_ask _))

theorem quiet_socialNeedsVerification (user : User Profile) :
    Quiet (socialNeedsVerification settings services user) :=
  Quiet.ite (quiet_pure _) (quiet_ask _)

theorem oidcPasswordAccepted_guarded (user : User Profile) (form : OidcLoginForm) :
    Guarded (deedsOf session (oidcPasswordAccepted settings services user form)) := by
  rw [deedsOf, oidcPasswordAccepted, left_bind, outcome_note]
  refine guarded_bind_quiet (quiet_loginNeedsVerification settings services user)
    [.credentialsVerified user.username] trivial ?_ session
  intro needsVerification left
  cases needsVerification with
  | true =>
    simp only [if_true]
    rw [(quiet_startNewDeviceVerification services user _ _ _).left_eq]
    trivial
  | false =>
    exact guarded_after_regenerate services.regeneration left
      (.credentialsVerified user.username) rfl
      (left_authenticateInInteraction settings services (accountOf services user))
      fun _ => quiet_pure _

theorem oidcLogin_guarded (form : OidcLoginForm) :
    Guarded (deedsOf session (oidcLogin settings services form)) := by
  rw [oidcLogin]
  cases form.credentials with
  | none => trivial
  | some credentials =>
    rcases credentials with ⟨identifier, password⟩
    rw [deedsOf, left_tryCatch_pure]
    simp only
    split
    · trivial
    · refine guarded_bind_quiet (quiet_ask _) [] trivial ?_ session
      intro found left
      cases found with
      | none => trivial
      | some user => exact oidcPasswordAccepted_guarded settings services left user form

theorem oidcSocialUserAccepted_guarded (user : User Profile) (uid : String) :
    Guarded (deedsOf session (oidcSocialUserAccepted settings services user uid)) := by
  rw [oidcSocialUserAccepted]
  cases requiresVerification settings user with
  | true =>
    exact safe_start session (Quiet.bind (quiet_ask _) fun _ =>
      Quiet.bind (quiet_remove _) fun _ => quiet_pure _).safe
  | false =>
    simp only [Bool.false_eq_true, if_false]
    rw [deedsOf, left_bind, outcome_note]
    refine guarded_bind_quiet (quiet_socialNeedsVerification settings services user)
      [.credentialsVerified user.username] trivial ?_ session
    intro needsVerification left
    cases needsVerification with
    | true =>
      simp only [if_true]
      rw [(quiet_startNewDeviceVerification services user _ _ _).left_eq]
      trivial
    | false =>
      exact guarded_after_regenerate services.regeneration left
        (.credentialsVerified user.username) rfl
        (left_authenticate settings services (accountOf services user))
        fun _ => Quiet.bind (quiet_remove _) fun _ => quiet_pure _

theorem oidcSocialCallback_guarded :
    Guarded (deedsOf session (oidcSocialCallback settings services)) := by
  have quietHandler : ∀ error : SignInError, Quiet (do
      remove forgetSocialContext
      return .render .oidcError
        (some "An unexpected error occurred during social authentication.") :
        Action Profile Response) :=
    fun _ => Quiet.bind (quiet_remove _) fun _ => quiet_pure _
  rw [deedsOf, oidcSocialCallback, left_tryCatch_quiet _ quietHandler]
  refine guarded_bind_quiet (quiet_get _) [] trivial ?_ session
  intro oidcContext left
  cases oidcContext with
  | none => trivial
  | some oidcContext =>
    simp only
    split
    · exact safe_start left (Quiet.bind (quiet_remove _) fun _ => quiet_pure _).safe
    · refine guarded_bind_quiet (quiet_ask _) [] trivial ?_ left
      intro result left
      cases result.user.filter fun _ => result.success with
      | none => exact safe_start left (Quiet.bind (quiet_remove _) fun _ => quiet_pure _).safe
      | some user =>
        exact oidcSocialUserAccepted_guarded settings services left user oidcContext.uid

theorem tier1Accepted_guarded (user : Option (User Profile)) :
    Guarded (left (tier1Accepted settings services user) ⟨session, []⟩).deeds := by
  cases user with
  | none =>
    simp only [tier1Accepted, left, outcome_regenerate]
    rcases session with _ | session
    · trivial
    · cases services.regeneration <;> trivial
  | some user =>
    rw [tier1Accepted, left_bind, outcome_note]
    have marked := guarded_after_regenerate services.regeneration session
      (.credentialsVerified user.username) rfl
      (left_setAuthenticated settings services.now
        { id := user.id, _id := user._id, username := user.username, profile := user.profile })
      quiet_pure
    simpa only [bind_pure, Browser.noting] using marked

theorem tier1Complete_guarded :
    Guarded (deedsOf session (tier1Complete settings services)) := by
  rw [deedsOf, tier1Complete, left_tryCatch_pure]
  refine guarded_bind_quiet (quiet_ask _) [] trivial ?_ session
  intro result left
  split
  · trivial
  · refine guarded_bind_quiet (quiet_get _) [] trivial ?_ left
    intro oidcContext left
    rw [left_bind_quiet _ fun _ => quiet_pure _]
    exact tier1Accepted_guarded settings services left result.user

/-- A request that marks the session does so under an id that was issued after the verification,
unless it is one of those that go on without. -/
theorem issued_before_marked_iff (request : SignInRequest) :
    Guarded (deedsOf session (handle settings services request)) ↔
      exposed settings services session request = false := by
  have isGood : ∀ {call : Action Profile Response}, Guarded (deedsOf session call) →
      (Guarded (deedsOf session call) ↔ false = false) :=
    fun guarded => iff_of_true guarded rfl
  cases request with
  | processLogin form => exact processLogin_guarded_iff settings services session form
  | processMfaVerify code continueUrl =>
    exact processMfaVerify_guarded_iff settings services session code continueUrl
  | processMfaSelect method =>
    exact isGood (safe_start session (safe_plain.keeps_processMfaSelect method))
  | mfaWebAuthnOptions => exact isGood (safe_start session safe_plain.keeps_mfaWebAuthnOptions)
  | processMfaWebAuthn credential =>
    exact isGood (safe_start session
      (keeps_processMfaWebAuthn (safe_passkeyAdded settings services) credential))
  | getAuthenticationOptions =>
    exact isGood (safe_start session safe_plain.keeps_getAuthenticationOptions)
  | verifyAuthentication credential =>
    exact verifyAuthentication_guarded_iff settings services session credential
  | socialCallback callback => exact socialCallback_guarded_iff settings services session callback
  | oidcLogin form => exact isGood (oidcLogin_guarded settings services session form)
  | newDeviceVerify uid code =>
    simp only [handle, exposed]
    cases verificationCode code with
    | none => exact iff_of_true trivial rfl
    | some code => exact newDeviceVerify_guarded_iff settings services session uid code
  | oidcSocialCallback => exact isGood (oidcSocialCallback_guarded settings services session)
  | tier1Complete => exact isGood (tier1Complete_guarded settings services session)
  | mfa accountId code method uid =>
    exact isGood (safe_start session
      (keeps_mfa (fun _ _ => safe_note rfl) accountId code method uid))
  | processRecoverySecurityQuestions =>
    exact processRecoverySecurityQuestions_guarded_iff settings services session
  | processRecoveryBackupCodes code =>
    exact processRecoveryBackupCodes_guarded_iff settings services session code
  | processRecoveryVerifyCode code =>
    exact processRecoveryVerifyCode_guarded_iff settings services session code

end IssuedIds

def plainSettings : Settings where
  session := ⟨none, none, none⟩
  login_methods := ["email", "phone"]
  require_phone_verification := false
  require_2fa_for_new_device := false
  new_device_2fa_method := "auto"
  webauthn_enabled := true
  allow_registration := false
  requirePasswordOnRegistration := false

def ada : User Unit where
  id := none
  _id := some "665f1c2e9b1e8a0012ab34cd"
  username := "ada"
  mfa := none
  preferred_method := none
  phone_number := none
  phone_number_verified := false
  profile := ()

def servicesOf (user : User Unit) : Services Unit where
  now := 1000
  detectIdentifierType _ := .email
  loginWith _ _ _ := .ok (some user)
  startPhoneVerification _ := .ok ()
  sendEmailCode _ := .ok ()
  findByUsername _ := .ok (some user)
  findById _ := .ok (some user)
  verifyTotp _ _ := true
  verifyEmailOtp _ _ := .ok true
  getCredentials _ := .ok []
  generateAuthenticationOptions _ := .ok "challenge"
  verifyAuthentication _ _ := true
  updateCredential _ _ := .ok ()
  handleCallback := .ok ⟨true, some user, false⟩
  registerSocialUser := .ok none
  regeneration := .issues "issued"
  isTrustedDevice _ := .ok true
  needsVerification _ := .ok false
  completeTier1 := .ok ⟨true, some user, false⟩
  checkRecovery _ := .ok none
  updateRecovery _ := .ok ()

def recoveringSession : BrowserSession Unit :=
  { BrowserSession.blank "fixed" with
    recoveryAttempt := some ⟨"665f1c2e9b1e8a0012ab34cd", .security_questions, false⟩ }

theorem recovery_keeps_id :
    deedsOf (some recoveringSession)
        (handle plainSettings (servicesOf ada) .processRecoverySecurityQuestions) =
      [.authenticated "fixed" "ada", .credentialsVerified "ada"] ∧
    ¬Guarded (deedsOf (some recoveringSession)
      (handle plainSettings (servicesOf ada) .processRecoverySecurityQuestions)) := by
  have noted : deedsOf (some recoveringSession)
      (handle plainSettings (servicesOf ada) .processRecoverySecurityQuestions) =
        [.authenticated "fixed" "ada", .credentialsVerified "ada"] := by decide
  refine ⟨noted, ?_⟩
  rw [noted]
  intro guarded
  exact absurd guarded.1 (by decide)

end ParakoId.SignIn
