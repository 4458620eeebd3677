import ParakoId.SignIn.Deeds

/-!
Which requests mark a session under an id that was not issued after the verification: those of
account recovery and of the login with `continue`, which never regenerate the session, and those
that go on when the regeneration has failed.
-/

namespace ParakoId.SignIn

open Calls (Call Keeps left outcome left_bind left_tryCatch_pure)
open SessionAccounts (SessionUserAccount)

section Exposures

variable {Profile : Type} (settings : Settings) (services : Services Profile)
  (session : Option (BrowserSession Profile))

/-- The regeneration has failed, and the session it has left can be marked. -/
def leftOpen (account : SessionUserAccount Profile) : Bool :=
  (unregenerated services.regeneration session).any fun _ => stable account

def passwordUser (method : LoginMethod) (identifier password : String) : Option (User Profile) :=
  if method.label ∈ settings.login_methods then
    (services.loginWith method identifier password).toOption.join
  else none

def acceptedCode (code : String) : Option (PendingMfaUser Profile) :=
  (session.bind pendingUser).filter fun pending =>
    Schemas.trim code ≠ "" && pending.mfa_method.any fun method =>
      verifyCode services method pending.account.username (Schemas.trim code)

def validChallenge (left : BrowserSession Profile) : Option String :=
  (left.webauthn_challenge.filter fun data =>
    decide (services.now ≤ data.expiresAt) && data.forAuthentication).map ChallengeData.challenge

def isPasskeyAccepted (username challenge credential : String) : Bool :=
  ((services.getCredentials username).toOption.getD []).contains credential &&
    services.verifyAuthentication credential challenge &&
      (services.updateCredential username credential).toOption.isSome

def acceptedPasskey (credential : Option String) : Option (PendingMfaUser Profile) :=
  (session.bind pendingUser).filter fun pending =>
    (session.bind (validChallenge services)).any fun challenge =>
      credential.any fun credential =>
        isPasskeyAccepted services pending.account.username challenge credential

def acceptedDevice (uid code : String) : Option (PendingNewDeviceVerification Profile) :=
  (session.bind BrowserSession.pendingNewDeviceVerification).filter fun pending =>
    pending.interactionUid = uid &&
      !isPendingVerificationExpired services.now pending.created_at &&
        isCodeValid services pending code

def recoveryUser (userId : String) : Option (User Profile) :=
  (services.findById userId).toOption.join.filter fun user =>
    (services.checkRecovery user).toOption = some none

def isUpdated (user : User Profile) : Bool := (services.updateRecovery user).toOption.isSome

def codeUser (code : String) : Option (User Profile) :=
  if Schemas.trim code = "" then none
  else
    match session.bind smsChallenge, session.bind BrowserSession.secondaryEmailVerification with
    | some attempt, _ => recoveryUser services attempt.userId
    | none, some verification =>
      (recoveryUser services verification.userId).filter fun user =>
        decide (services.now < verification.expiresAt) &&
          decide (Schemas.trim code = verification.code) && isUpdated services user
    | none, none => none

/-- With `continue` the account is added to the session, and only a full session is not marked. -/
def marksOnContinue (account : SessionUserAccount Profile) (left : BrowserSession Profile) : Bool :=
  stable account &&
    decide ((SessionAccounts.addAuthenticatedUser settings.session services.now left.accounts
      account true).2 ≠ some .max_limit_reached)

def loginExposed (account : SessionUserAccount Profile) (continueUrl : Option String) : Bool :=
  (session.bind adding).isNone &&
    match continueUrl with
    | some _ => session.any (marksOnContinue settings services account)
    | none => leftOpen services session account

def passwordExposed (user : User Profile) (continueUrl : Option String) : Bool :=
  !isMfaEnabled user &&
    loginExposed settings services session (accountOf services user) continueUrl

def socialExposed (callback : SocialCallback) (user : User Profile) : Bool :=
  !requiresVerification settings user && !isMfaEnabled user && (session.bind adding).isNone &&
    callback.continueUrl.isNone && leftOpen services session (userAccountOf services user)

def registrationExposed (user : User Profile) : Bool :=
  !settings.requirePasswordOnRegistration && !requiresVerification settings user &&
    leftOpen services session (userAccountOf services user)

def resultExposed (callback : SocialCallback) (result : SocialLoginResult Profile) : Bool :=
  if result.success then result.user.any (socialExposed settings services session callback)
  else
    result.requiresLinking && (callback.isRegistration || settings.allow_registration) &&
      services.registerSocialUser.toOption.join.any (registrationExposed settings services session)

/-- The callback reaches its result, and no account is being linked. -/
def answersSocial (callback : SocialCallback) : Bool :=
  ((session.bind BrowserSession.oidcSocialContext).all fun context =>
      decide (SOCIAL_CONTEXT_TTL_MS < services.now - context.timestamp)) &&
    callback.providerAvailable && (session.bind BrowserSession.linkSocialAccountIntent).isNone

def exposed : SignInRequest → Bool
  | .processLogin form =>
    (form.identifier services).any fun (method, identifier) =>
      (passwordUser settings services method identifier form.password).any fun user =>
        passwordExposed settings services session user form.continueUrl
  | .processMfaVerify code _ =>
    (acceptedCode services session code).any fun pending =>
      leftOpen services session pending.account
  | .verifyAuthentication credential =>
    (acceptedPasskey services session credential).any fun pending =>
      leftOpen services session pending.account
  | .socialCallback callback =>
    answersSocial services session callback &&
      services.handleCallback.toOption.any (resultExposed settings services session callback)
  | .newDeviceVerify uid code =>
    (verificationCode code).any fun code =>
      (acceptedDevice services session uid code).any fun pending =>
        (unregenerated services.regeneration (session.map forgetNewDevice)).any fun left =>
          marksInInteraction settings services left.accounts pending.userAccount
  | .processRecoverySecurityQuestions =>
    (session.bind (recoveryFor .security_questions)).any fun attempt =>
      (recoveryUser services attempt.userId).any fun user => stable (accountOf services user)
  | .processRecoveryBackupCodes code =>
    Schemas.trim code ≠ "" && (session.bind (recoveryFor .backup_codes)).any fun attempt =>
      (recoveryUser services attempt.userId).any fun user =>
        isUpdated services user && stable (accountOf services user)
  | .processRecoveryVerifyCode code =>
    (codeUser services session code).any fun user => stable (accountOf services user)
  | _ => false

@[grind =]
def deedsOf (call : Action Profile Response) : List Deed := (left call ⟨session, []⟩).deeds

theorem leftOpen_map (write : BrowserSession Profile → BrowserSession Profile)
    (account : SessionUserAccount Profile) :
    leftOpen services (session.map write) account = leftOpen services session account := by
  rcases session with _ | session
  · rfl
  · cases isRegeneration : services.regeneration with
    | issues id => simp [leftOpen, unregenerated, isRegeneration]
    | fails message remains =>
      cases remains <;> simp [leftOpen, unregenerated, isRegeneration, Remains.of]

theorem logged_guarded_iff {deed : Deed} (verifies : deed.verifies = true)
    (account : SessionUserAccount Profile) {next : Unit → Action Profile Response}
    (quiet : ∀ value, Quiet (next value)) :
    Guarded (left (regenerateOrLog services.regeneration >>= fun _ =>
        authenticate settings services account >>= next) ⟨session, [deed]⟩).deeds ↔
      leftOpen services session account = false := by
  rw [left_bind, outcome_regenerateOrLog]
  simp only
  rw [left_bind_quiet _ quiet, left_authenticate]
  exact guarded_noteMark_iff services.regeneration session verifies _ _

theorem continueLogin_guarded_iff {deed : Deed} (verifies : deed.verifies = true)
    (account : SessionUserAccount Profile) (url : String) :
    Guarded (left (continueLogin settings services account url) ⟨session, [deed]⟩).deeds ↔
      session.any (marksOnContinue settings services account) = false := by
  have atFirst : Guarded [deed] := (guarded_of_verifies verifies []).mpr trivial
  rcases session with _ | session
  · simpa [continueLogin, left_bind] using atFirst
  · rw [continueLogin, left_bind, outcome_addAuthenticatedUser]
    simp only [Option.any_some, marksOnContinue]
    generalize SessionAccounts.addAuthenticatedUser settings.session services.now
      session.accounts account true = added
    by_cases isFull : added.2 = some .max_limit_reached
    · simpa [isFull] using atFirst
    · simp only [isFull, ne_eq, not_false_eq_true, if_true, decide_true, Bool.and_true]
      rw [left_bind_quiet _ fun _ => quiet_pure _, left_authenticate]
      exact guarded_noteMark_early _ deed verifies _ _

theorem completeLogin_guarded_iff {deed : Deed} (verifies : deed.verifies = true)
    (account : SessionUserAccount Profile) (continueUrl : Option String) :
    Guarded (left (completeLogin settings services account continueUrl) ⟨session, [deed]⟩).deeds ↔
      loginExposed settings services session account continueUrl = false := by
  have atFirst : Guarded [deed] := (guarded_of_verifies verifies []).mpr trivial
  rw [completeLogin, left_bind, outcome_get]
  simp only [loginExposed]
  cases isAdding : session.bind adding with
  | some intent =>
    rw [(quiet_addAccount settings intent account).left_eq]
    simpa using atFirst
  | none =>
    rw [left_bind, outcome_get]
    simp only [Option.isNone_none, Bool.true_and]
    cases continueUrl with
    | some url => exact continueLogin_guarded_iff settings services session verifies account url
    | none =>
      cases session.bind BrowserSession.loginIntent with
      | none =>
        exact logged_guarded_iff settings services session verifies account
          fun _ => quiet_pure _
      | some url =>
        rw [left_bind, outcome_remove]
        simp only
        rw [logged_guarded_iff settings services _ verifies account (fun _ => quiet_pure _),
          leftOpen_map]

theorem passwordAccepted_guarded_iff (user : User Profile) (continueUrl : Option String) :
    Guarded (deedsOf session (passwordAccepted settings services user continueUrl)) ↔
      passwordExposed settings services session user continueUrl = false := by
  rw [deedsOf, passwordAccepted, left_bind, outcome_note, passwordExposed]
  simp only [Browser.noting]
  cases isMfaEnabled user with
  | true =>
    simp only [if_true]
    rw [(quiet_requestSecondFactor keepPendingMfaUser user continueUrl).left_eq]
    simp [Guarded]
  | false =>
    exact completeLogin_guarded_iff settings services session rfl _ continueUrl

theorem processLogin_guarded_iff (form : LoginForm) :
    Guarded (deedsOf session (processLogin settings services form)) ↔
      exposed settings services session (.processLogin form) = false := by
  rw [deedsOf, processLogin, left_tryCatch_pure, exposed]
  cases form.identifier services with
  | none => simp [Guarded]
  | some found =>
    rcases found with ⟨method, identifier⟩
    simp only [Option.any_some, passwordUser]
    by_cases isAllowed : method.label ∈ settings.login_methods
    · simp only [isAllowed, not_true_eq_false, if_false, if_true]
      rw [left_bind, outcome_ask]
      cases isLogin : services.loginWith method identifier form.password with
      | error error => simp [Guarded, Except.toOption]
      | ok found =>
        cases found with
        | none => simp [Guarded, Except.toOption]
        | some user =>
          simpa [deedsOf, Except.toOption] using
            passwordAccepted_guarded_iff settings services session user form.continueUrl
    · simp [isAllowed, Guarded]

theorem codeAccepted_guarded_iff (pending : PendingMfaUser Profile)
    (method : SecondFactors.MfaMethod) (continueUrl : Option String) :
    Guarded (deedsOf session (codeAccepted settings services pending method continueUrl)) ↔
      leftOpen services session pending.account = false := by
  rw [deedsOf, codeAccepted, left_bind, outcome_note]
  simp only [Browser.noting]
  exact logged_guarded_iff settings services session rfl (usedNow services pending.account)
    fun _ => Quiet.bind (quiet_remove _) fun _ deeds =>
      (quiet_plain deeds).keeps_finishMfa pending continueUrl

theorem processMfaVerify_guarded_iff (code : String) (continueUrl : Option String) :
    Guarded (deedsOf session (processMfaVerify settings services code continueUrl)) ↔
      exposed settings services session (.processMfaVerify code continueUrl) = false := by
  rw [deedsOf, processMfaVerify, left_tryCatch_pure, left_bind, outcome_get, exposed]
  simp only [acceptedCode]
  cases session.bind pendingUser with
  | none => simp [Guarded]
  | some pending =>
    by_cases isEmpty : Schemas.trim code = ""
    · simp [isEmpty, Guarded]
    · cases isMethod : pending.mfa_method with
      | none => simp [isEmpty, isMethod, Guarded]
      | some method =>
        cases isValid : verifyCode services method pending.account.username
            (Schemas.trim code) with
        | false => cases method <;> simp [isEmpty, isMethod, isValid, Guarded]
        | true =>
          have accepted := codeAccepted_guarded_iff settings services session pending method
            continueUrl
          rw [deedsOf] at accepted
          cases method with
          | webauthn => cases isValid
          | totp | email => simpa [isEmpty, isMethod, isValid] using accepted

theorem passkeyAccepted_guarded_iff (pending : PendingMfaUser Profile)
    (write : BrowserSession Profile → BrowserSession Profile) :
    Guarded (deedsOf (session.map write) (passkeyAccepted settings services pending)) ↔
      leftOpen services session pending.account = false := by
  rw [deedsOf, passkeyAccepted, left_bind, outcome_note, ← leftOpen_map services session write]
  simp only [Browser.noting]
  exact logged_guarded_iff settings services (session.map write) rfl
    (usedNow services pending.account)
    fun _ => Quiet.bind (quiet_remove _) fun _ => quiet_pure _

theorem outcome_getChallenge (deeds : List Deed) :
    ∃ write : BrowserSession Profile → BrowserSession Profile,
      outcome (getChallenge services) ⟨session, deeds⟩ =
        (.ok (session.bind (validChallenge services)), ⟨session.map write, deeds⟩) := by
  rcases session with _ | session
  · exact ⟨id, rfl⟩
  · cases isData : session.webauthn_challenge with
    | none =>
      refine ⟨id, ?_⟩
      simp [getChallenge, Calls.outcome_bind, isData, validChallenge]
    | some data =>
      by_cases isExpired : data.expiresAt < services.now
      · refine ⟨forgetChallenge, ?_⟩
        have notValid : ¬services.now ≤ data.expiresAt := by omega
        simp [getChallenge, Calls.outcome_bind, Calls.outcome_map, isData, isExpired,
          validChallenge, notValid, Option.filter]
      · refine ⟨id, ?_⟩
        have isValid : services.now ≤ data.expiresAt := by omega
        cases isFor : data.forAuthentication <;>
          simp [getChallenge, Calls.outcome_bind, isData, isExpired, validChallenge, isValid,
            isFor]

theorem outcome_matchingCredential (username credential : String) (browser : Browser Profile) :
    outcome (matchingCredential services username credential) browser =
      (match services.getCredentials username with
        | .ok stored => .ok (if credential ∈ stored then some credential else none)
        | .error error => .error error, browser) := by
  rw [matchingCredential, Calls.outcome_bind, outcome_ask]
  cases services.getCredentials username with
  | error error => rfl
  | ok stored =>
    simp only [Calls.outcome_pure]
    by_cases isStored : credential ∈ stored
    · have isSome : (stored.find? fun other => other == credential).isSome = true :=
        List.find?_isSome.mpr ⟨credential, isStored, by simp⟩
      obtain ⟨found, isFound⟩ := Option.isSome_iff_exists.mp isSome
      have same : found = credential := by simpa using List.find?_some isFound
      simp [isStored, isFound, same]
    · have isNone : (stored.find? fun other => other == credential) = none :=
        List.find?_eq_none.mpr fun other member same =>
          isStored (by rwa [← beq_iff_eq.mp same])
      simp [isStored, isNone]

theorem verifyAuthentication_guarded_iff (credential : Option String) :
    Guarded (deedsOf session (verifyAuthentication settings services credential)) ↔
      exposed settings services session (.verifyAuthentication credential) = false := by
  rw [deedsOf, verifyAuthentication, left_tryCatch_pure, left_bind, outcome_get, exposed]
  simp only [acceptedPasskey]
  cases session.bind pendingUser with
  | none => simp [Guarded]
  | some pending =>
    obtain ⟨write, isChallenge⟩ := outcome_getChallenge services session []
    rw [left_bind, isChallenge]
    cases session.bind (validChallenge services) with
    | none => simp [Guarded]
    | some challenge =>
      cases credential with
      | none => simp [Guarded]
      | some credential =>
        simp only
        rw [left_bind, outcome_matchingCredential]
        cases isStored : services.getCredentials pending.account.username with
        | error error =>
          simp [Guarded, isPasskeyAccepted, isStored, Except.toOption]
        | ok stored =>
          by_cases isMatch : credential ∈ stored
          · simp only [isMatch, if_true]
            rw [left_bind, outcome_remove]
            cases isVerified : services.verifyAuthentication credential challenge with
            | false =>
              simp [Guarded, isPasskeyAccepted, isVerified]
            | true =>
              cases isUpdate : services.updateCredential pending.account.username
                  credential with
              | error error =>
                simp [Guarded, isPasskeyAccepted, isStored, Except.toOption, isMatch,
                  isVerified, isUpdate]
              | ok =>
                have accepted := passkeyAccepted_guarded_iff settings services session
                  pending (forgetChallenge ∘ write)
                simpa [deedsOf, isPasskeyAccepted, isStored, Except.toOption, isMatch,
                  isVerified, isUpdate] using accepted
          · simp [Guarded, isPasskeyAccepted, isStored, Except.toOption, isMatch]

theorem completeSocialLogin_guarded_iff (deed : Deed) (verifies : deed.verifies = true)
    (callback : SocialCallback) (account : SessionUserAccount Profile) :
    Guarded (left (completeSocialLogin settings services callback account)
        ⟨session, [deed]⟩).deeds ↔
      ((session.bind adding).isNone && callback.continueUrl.isNone &&
        leftOpen services session account) = false := by
  have atFirst : Guarded [deed] := (guarded_of_verifies verifies []).mpr trivial
  rw [completeSocialLogin, left_bind, outcome_get]
  simp only
  cases isAdding : session.bind adding with
  | some intent =>
    rw [(quiet_addAccount settings intent account).left_eq]
    simpa using atFirst
  | none =>
    rw [left_bind, outcome_get]
    simp only [Option.isNone_none, Bool.true_and]
    cases callback.continueUrl with
    | some url =>
      rw [left_bind_quiet _ fun _ =>
        Quiet.bind (quiet_addAuthenticatedUser _ _ _ _) fun _ => quiet_pure _]
      simpa [left] using guarded_regenerated services.regeneration session verifies
    | none =>
      cases session.bind BrowserSession.socialIntent with
      | none =>
        simpa using logged_guarded_iff settings services session verifies account
          fun _ => quiet_pure _
      | some url =>
        rw [left_bind, outcome_regenerateOrLog]
        simp only
        rw [left_bind, outcome_remove]
        simp only
        rw [left_bind_quiet _ fun _ => quiet_pure _, left_authenticate,
          noteMark_remove _ _ _ forgetSocialIntent fun _ => rfl]
        simpa [leftOpen] using
          guarded_noteMark_iff services.regeneration session verifies _ _

theorem quiet_phoneVerification (userId : String) :
    Quiet (phoneVerification services userId : Action Profile Response) :=
  Quiet.bind (quiet_ask _) fun _ => quiet_pure _

section

variable (callback : SocialCallback)
include callback

theorem socialUserAccepted_guarded_iff (user : User Profile) :
    Guarded (deedsOf session (socialUserAccepted settings services callback user)) ↔
      socialExposed settings services session callback user = false := by
  rw [deedsOf, socialUserAccepted, socialExposed]
  cases requiresVerification settings user with
  | true =>
    simp only [if_true]
    rw [(quiet_phoneVerification services _).left_eq]
    simp [Guarded]
  | false =>
    simp only [Bool.false_eq_true, if_false]
    rw [left_bind, outcome_note]
    simp only [Browser.noting]
    cases isMfaEnabled user with
    | true =>
      simp only [if_true]
      rw [(Quiet.bind (quiet_get _) fun _ => quiet_requestSecondFactor _ user _).left_eq]
      simp [Guarded]
    | false =>
      have completed := completeSocialLogin_guarded_iff settings services session
        (.credentialsVerified user.username) rfl callback (userAccountOf services user)
      simpa [Bool.and_assoc] using completed

theorem registration_guarded_iff (user : User Profile) :
    Guarded (deedsOf session (registrationAccepted settings services callback user)) ↔
      leftOpen services session (userAccountOf services user) = false := by
  rw [deedsOf, registrationAccepted, left_bind, outcome_note]
  simp only [Browser.noting]
  refine logged_guarded_iff settings services session rfl _ fun _ => ?_
  refine Quiet.bind (quiet_get _) fun socialIntent => ?_
  cases callback.continueUrl with
  | some url => exact quiet_pure _
  | none =>
    cases socialIntent with
    | none => exact quiet_pure _
    | some url => exact Quiet.bind (quiet_remove _) fun _ => quiet_pure _

theorem handleSocialRegistration_guarded_iff :
    Guarded (deedsOf session (handleSocialRegistration settings services callback)) ↔
      services.registerSocialUser.toOption.join.any
        (registrationExposed settings services session) = false := by
  rw [deedsOf, handleSocialRegistration, left_tryCatch_pure, left_bind, outcome_ask]
  cases services.registerSocialUser with
  | error error => simp [Guarded, Except.toOption]
  | ok registered =>
    cases registered with
    | none => simp [Guarded, Except.toOption]
    | some user =>
      simp only [Except.toOption, Option.join_some, Option.any_some, registrationExposed]
      cases settings.requirePasswordOnRegistration with
      | true => simp [Guarded]
      | false =>
        cases requiresVerification settings user with
        | true =>
          simp only [Bool.false_eq_true, if_false, if_true]
          rw [(quiet_phoneVerification services _).left_eq]
          simp [Guarded]
        | false =>
          simpa [deedsOf] using
            registration_guarded_iff settings services session callback user

theorem answerSocialResult_guarded_iff (result : SocialLoginResult Profile) :
    Guarded (deedsOf session (answerSocialResult settings services callback result)) ↔
      resultExposed settings services session callback result = false := by
  rw [answerSocialResult, resultExposed]
  cases result.success with
  | true =>
    cases result.user with
    | none => simp [deedsOf, Guarded]
    | some user => exact socialUserAccepted_guarded_iff settings services session callback user
  | false =>
    cases result.requiresLinking && (callback.isRegistration || settings.allow_registration) with
    | true => exact handleSocialRegistration_guarded_iff settings services session callback
    | false => simp [deedsOf, Guarded]

theorem resultExposed_forgotten (result : SocialLoginResult Profile)
    {write : BrowserSession Profile → BrowserSession Profile}
    (sameIntent : ∀ session, adding (write session) = adding session) :
    resultExposed settings services (session.map write) callback result =
      resultExposed settings services session callback result := by
  have sameAdding : (session.map write).bind adding = session.bind adding := by
    cases session with
    | none => rfl
    | some session => exact sameIntent session
  have sameSocial : socialExposed settings services (session.map write) callback =
      socialExposed settings services session callback := by
    funext user
    simp only [socialExposed, leftOpen_map, sameAdding]
  have sameRegistration : registrationExposed settings services (session.map write) =
      registrationExposed settings services session := by
    funext user
    simp only [registrationExposed, leftOpen_map]
  simp only [resultExposed, sameSocial, sameRegistration]

theorem regularSocialCallback_guarded_iff :
    Guarded (deedsOf session (regularSocialCallback settings services callback)) ↔
      (callback.providerAvailable &&
        (session.bind BrowserSession.linkSocialAccountIntent).isNone &&
          services.handleCallback.toOption.any
            (resultExposed settings services session callback)) = false := by
  rw [deedsOf, regularSocialCallback]
  cases callback.providerAvailable with
  | false => simp [Guarded]
  | true =>
    simp only [Bool.true_eq_false, if_false, Bool.true_and]
    rw [left_bind, outcome_ask]
    cases services.handleCallback with
    | error error => simp [Guarded, Except.toOption]
    | ok result =>
      simp only
      rw [left_bind, outcome_get]
      cases session.bind BrowserSession.linkSocialAccountIntent with
      | some intent =>
        simp only
        rw [Quiet.left_eq fun deeds =>
          (quiet_plain deeds).keeps_answerLinkIntent callback intent result]
        simp [Guarded]
      | none =>
        simpa [deedsOf, Except.toOption] using
          answerSocialResult_guarded_iff settings services session callback result

theorem socialCallback_guarded_iff :
    Guarded (deedsOf session (socialCallback settings services callback)) ↔
      exposed settings services session (.socialCallback callback) = false := by
  have regular := regularSocialCallback_guarded_iff settings services session callback
  rw [deedsOf, socialCallback, left_tryCatch_pure, left_bind, outcome_get, exposed, answersSocial]
  cases isContext : session.bind BrowserSession.oidcSocialContext with
  | none => simpa [deedsOf, Bool.and_assoc] using regular
  | some context =>
    by_cases isFresh : services.now - context.timestamp ≤ SOCIAL_CONTEXT_TTL_MS
    · simp [isFresh, Guarded]
    · have isExpired : SOCIAL_CONTEXT_TTL_MS < services.now - context.timestamp := by omega
      have forgotten := regularSocialCallback_guarded_iff settings services
        (session.map forgetSocialContext) callback
      have sameResult : resultExposed settings services (session.map forgetSocialContext)
          callback = resultExposed settings services session callback :=
        funext fun result =>
          resultExposed_forgotten settings services session callback result fun _ => rfl
      have sameLink : (session.map forgetSocialContext).bind
          BrowserSession.linkSocialAccountIntent =
            session.bind BrowserSession.linkSocialAccountIntent := by
        cases session <;> rfl
      rw [sameResult, sameLink] at forgotten
      simp only [isFresh, if_false]
      rw [left_bind, outcome_remove]
      simpa [deedsOf, isExpired, Bool.and_assoc] using forgotten

end

end Exposures

end ParakoId.SignIn
