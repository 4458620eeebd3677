import ParakoId.SignIn.IssuedIds
import ParakoId.SignIn.Rosters

/-!
An account with a second factor is signed in only with that factor verified, unless it is signed
in during an interaction on its password alone, or by a social account or a recovery alone.
-/

namespace ParakoId.SignIn

open Calls (Call Keeps left outcome keeps_pure keeps_throw left_bind_keeps left_bind_then
  left_tryCatch_keeps)
open SecondFactors (getEnabledMethods)
open SessionAccounts (SessionUserAccount AuthenticatedUsers)
open Runs (AllowedFrom AlwaysFrom)

section SecondFactorFirst

variable {Profile : Type} (settings : Settings) (services : Services Profile)

def regenerates (session : Option (BrowserSession Profile)) : Bool :=
  session.isSome &&
    match services.regeneration with
    | .issues _ => true
    | .fails _ _ => false

/-- The login asks for no code, as the device is trusted or not new. -/
def isKnownDevice (user : User Profile) : Bool :=
  !settings.require_2fa_for_new_device ||
    (services.isTrustedDevice user).toOption.any fun trusted =>
      trusted || (services.needsVerification user).toOption = some false

def isKnownSocially (user : User Profile) : Bool :=
  !settings.require_2fa_for_new_device ||
    decide ((services.needsVerification user).toOption = some false)

def socialUser (session : Option (BrowserSession Profile)) : Option (User Profile) :=
  if (session.bind BrowserSession.oidcSocialContext).any fun context =>
      decide (services.now - context.timestamp ≤ SOCIAL_CONTEXT_TTL_MS) then
    (services.handleCallback.toOption.filter SocialLoginResult.success).bind
      SocialLoginResult.user
  else none

@[grind =]
def unaskedUser (session : Option (BrowserSession Profile)) :
    SignInRequest → Option (User Profile)
  | .oidcLogin form =>
    (form.credentials.bind fun (identifier, password) =>
      passwordUser settings services (services.detectIdentifierType identifier) identifier
        password).filter fun user =>
          isKnownDevice settings services user && regenerates services session
  | .oidcSocialCallback =>
    (socialUser services session).filter fun user =>
      !requiresVerification settings user && isKnownSocially settings services user &&
        regenerates services session
  | .tier1Complete =>
    ((services.completeTier1.toOption.filter SocialLoginResult.success).bind
      SocialLoginResult.user).filter fun _ => regenerates services session
  | .processRecoverySecurityQuestions =>
    (session.bind (recoveryFor .security_questions)).bind fun attempt =>
      recoveryUser services attempt.userId
  | .processRecoveryBackupCodes code =>
    if Schemas.trim code = "" then none
    else
      (session.bind (recoveryFor .backup_codes)).bind fun attempt =>
        (recoveryUser services attempt.userId).filter (isUpdated services)
  | .processRecoveryVerifyCode code => codeUser services session code
  | _ => none

variable {settings services}

theorem usernames_touchActive (now : Nat) (session : BrowserSession Profile) :
    usernames (touchActive now session).accounts = usernames session.accounts := by
  simp only [usernames, SessionAccounts.accounts, SessionAccounts.getActiveUser,
    SessionAccounts.Session.others, touchActive]
  rcases session.accounts.authenticatedUsers with _ | ⟨_ | active, others⟩ <;> rfl

theorem outcome_loginNeedsVerification (user : User Profile) (browser : Browser Profile) :
    ∃ answer, outcome (loginNeedsVerification settings services user) browser = (answer, browser) ∧
      (answer = .ok false ↔ isKnownDevice settings services user = true) := by
  rw [loginNeedsVerification, isKnownDevice]
  by_cases isOff : settings.require_2fa_for_new_device = false
  · exact ⟨.ok false, by simp [isOff], by simp [isOff]⟩
  · simp only [isOff]
    cases services.isTrustedDevice user with
    | error error => exact ⟨.error error, rfl, by simp [Except.toOption]⟩
    | ok trusted =>
      cases trusted with
      | true => exact ⟨.ok false, rfl, by simp [Except.toOption]⟩
      | false =>
        refine ⟨services.needsVerification user, rfl, ?_⟩
        rcases services.needsVerification user with error | _ | _ <;> simp [Except.toOption]

theorem outcome_socialNeedsVerification (user : User Profile) (browser : Browser Profile) :
    ∃ answer, outcome (socialNeedsVerification settings services user) browser =
        (answer, browser) ∧
      (answer = .ok false ↔ isKnownSocially settings services user = true) := by
  rw [socialNeedsVerification, isKnownSocially]
  by_cases isOff : settings.require_2fa_for_new_device = false
  · exact ⟨.ok false, by simp [isOff], by simp [isOff]⟩
  · simp only [isOff]
    refine ⟨services.needsVerification user, rfl, ?_⟩
    rcases services.needsVerification user with error | _ | _ <;> simp [Except.toOption]

theorem keeps_checked {invariant : Browser Profile → Prop} (userId : String)
    {missing : Action Profile Response} {refuse : String → Action Profile Response}
    {accept : User Profile → Action Profile Response}
    (keepsMissing : Keeps invariant missing)
    (keepsRefused : ∀ error, Keeps invariant (refuse error))
    (accepts : ∀ user, recoveryUser services userId = some user →
      Keeps invariant (accept user)) :
    Keeps invariant (do
      match ← ask (services.findById userId) with
      | none => missing
      | some user =>
        match ← ask (services.checkRecovery user) with
        | some error => refuse error
        | none => accept user) := by
  refine keeps_asking fun found isFound => ?_
  cases found with
  | none => exact keepsMissing
  | some user =>
    refine keeps_asking fun refusal isChecked => ?_
    cases refusal with
    | some error => exact keepsRefused error
    | none =>
      apply accepts
      simp [recoveryUser, isFound, isChecked, Except.toOption]

theorem holds_verification {invariant : Browser Profile → Prop} {browser : Browser Profile}
    (holds : invariant browser) {needs : Action Profile Bool} {isKnown : Bool}
    (reads : ∃ answer, outcome needs browser = (answer, browser) ∧
      (answer = .ok false ↔ isKnown = true))
    {verify complete : Action Profile Response} (verifies : Keeps invariant verify)
    (completes : isKnown = true → invariant (left complete browser)) :
    invariant (left (do if ← needs then verify else complete) browser) := by
  obtain ⟨answer, isAnswer, knows⟩ := reads
  rw [Calls.left_bind, isAnswer]
  rcases answer with error | needed
  · exact holds
  · cases needed with
    | true => exact verifies browser holds
    | false => exact completes (knows.mp rfl)

namespace Roster

variable {Known : Type} {Holds : Known → Browser Profile → Prop} {allows : Known → String → Prop}
  {learn : Known → Deed → Known} (roster : Roster Holds allows learn) {known : Known}

include roster

theorem keeps_addOrUpdateAccountInSession (account : SessionUserAccount Profile)
    (makeActive : Bool) (isKnown : allows known account.username) :
    Keeps (Holds known) (addOrUpdateAccountInSession settings services account makeActive) :=
  SignIn.keeps_addOrUpdateAccountInSession (roster.keeps_authenticate account isKnown)
    (roster.keeps_addAuthenticatedUser _ _ _ _ isKnown)
    (roster.keeps_set _ (usernames_touchActive _)) (roster.keeps_switchUser _ _ _)

theorem keeps_authenticateInInteraction (account : SessionUserAccount Profile)
    (isKnown : allows known account.username) :
    Keeps (Holds known) (authenticateInInteraction settings services account) :=
  Keeps.bind (roster.keeps_addOrUpdateAccountInSession account true isKnown) fun _ =>
    Keeps.ite (fun _ => roster.keeps_authenticate account isKnown) fun _ => keeps_pure _

theorem keeps_deviceAccepted (pending : PendingNewDeviceVerification Profile) :
    Keeps (Holds known) (deviceAccepted settings services pending) := by
  have isKnown := roster.knows known pending.username pending.method.factor
  nth_rewrite 2 [← pending.sameUser] at isKnown
  refine Keeps.bind (roster.keeps_remove _ fun _ => rfl) fun _ => roster.keeps_note rfl ?_
  exact Keeps.bind (roster.keeps_regenerateOrLog _) fun _ =>
    Keeps.bind (roster.keeps_authenticateInInteraction pending.userAccount isKnown) fun _ =>
      keeps_pure _

theorem keeps_newDeviceVerify (uid code : String) :
    Keeps (Holds known) (newDeviceVerify settings services uid code) := by
  refine Keeps.tryCatch (Keeps.bind (keeps_get _) fun pending => ?_) fun _ => keeps_pure _
  cases pending with
  | none => exact keeps_pure _
  | some pending =>
    refine Keeps.ite (fun _ => keeps_pure _) fun _ => Keeps.ite (fun _ => ?_) fun _ =>
      Keeps.ite (fun _ => roster.keeps_deviceAccepted pending) fun _ => keeps_pure _
    exact Keeps.bind (roster.keeps_remove _ fun _ => rfl) fun _ => keeps_pure _

variable {browser : Browser Profile}

theorem holds_noted {after : Browser Profile} (deed : Deed) (isNoMark : deed.isMark = false)
    (holds : Holds known browser)
    (rest : Holds (learn known deed) (browser.noting deed) → Holds (learn known deed) after) :
    Holds known after := roster.forget (rest (roster.noting isNoMark holds))

section

variable (holds : Holds known browser)
include holds

theorem holds_after_regenerate {Value : Type} {next : Unit → Action Profile Value}
    (rest : regenerates services browser.session = true → Keeps (Holds known) (next ())) :
    Holds known (left (regenerate services.regeneration >>= next) browser) := by
  have kept := roster.keeps_regenerate services.regeneration browser holds
  refine left_bind_keeps kept fun done middle isOutcome => ?_
  rw [left, isOutcome] at kept
  rw [outcome_regenerate] at isOutcome
  refine rest ?_ middle kept
  rcases browser with ⟨_ | session, deeds⟩
  · cases isOutcome
  · rw [regenerates]
    cases isRegeneration : services.regeneration with
    | issues id => rfl
    | fails message remains => simp [regenerated, isRegeneration] at isOutcome

theorem holds_oidcPasswordAccepted (user : User Profile) (form : OidcLoginForm)
    (isKnown : isKnownDevice settings services user = true →
      regenerates services browser.session = true →
        Trusted allows learn known user.username) :
    Holds known (left (oidcPasswordAccepted settings services user form) browser) := by
  rw [oidcPasswordAccepted, Calls.left_bind, outcome_note]
  refine roster.holds_noted (.credentialsVerified user.username) rfl holds fun noted => ?_
  refine holds_verification noted (outcome_loginNeedsVerification user _)
    (roster.plain.keeps_startNewDeviceVerification _ _ _ _) fun isDevice => ?_
  refine roster.holds_after_regenerate noted fun issues => ?_
  exact Keeps.bind (roster.keeps_authenticateInInteraction _ (isKnown isDevice issues)) fun _ =>
    keeps_pure _

theorem holds_oidcLogin (form : OidcLoginForm)
    (isKnown : ∀ user, unaskedUser settings services browser.session (.oidcLogin form) = some user →
      Trusted allows learn known user.username) :
    Holds known (left (oidcLogin settings services form) browser) := by
  rw [oidcLogin]
  simp only [unaskedUser] at isKnown
  cases isForm : form.credentials with
  | none => exact holds
  | some credentials =>
    rcases credentials with ⟨identifier, password⟩
    simp only [isForm, Option.bind_some, passwordUser] at isKnown
    rw [Calls.left_tryCatch_pure]
    simp only
    split
    · exact holds
    · next isAllowed =>
        rw [not_not] at isAllowed
        rw [Calls.left_bind, outcome_ask]
        simp only [isAllowed, if_true] at isKnown
        cases isLogin : services.loginWith (services.detectIdentifierType identifier) identifier
            password with
        | error error => exact holds
        | ok found =>
          cases found with
          | none => exact holds
          | some user =>
            refine roster.holds_oidcPasswordAccepted holds user form fun isDevice issues => ?_
            apply isKnown
            simp [isLogin, Except.toOption, isDevice, issues]

theorem holds_oidcSocialUserAccepted (user : User Profile) (uid : String)
    (isKnown : requiresVerification settings user = false →
      isKnownSocially settings services user = true →
        regenerates services browser.session = true →
          Trusted allows learn known user.username) :
    Holds known (left (oidcSocialUserAccepted settings services user uid) browser) := by
  rw [oidcSocialUserAccepted]
  cases isRequired : requiresVerification settings user with
  | true =>
    simp only [if_true]
    refine left_bind_then (keeps_ask _ browser holds) fun _ => ?_
    exact Keeps.bind (roster.keeps_remove _ fun _ => rfl) fun _ => keeps_pure _
  | false =>
    simp only [Bool.false_eq_true, if_false]
    rw [Calls.left_bind, outcome_note]
    refine roster.holds_noted (.credentialsVerified user.username) rfl holds fun noted => ?_
    refine holds_verification noted (outcome_socialNeedsVerification user _)
      (roster.plain.keeps_startNewDeviceVerification _ _ _ _) fun isSocially => ?_
    refine roster.holds_after_regenerate noted fun issues => ?_
    exact Keeps.bind (roster.keeps_authenticate _ (isKnown isRequired isSocially issues)) fun _ =>
      Keeps.bind (roster.keeps_remove _ fun _ => rfl) fun _ => keeps_pure _

theorem holds_oidcSocialCallback
    (isKnown : ∀ user,
      unaskedUser settings services browser.session .oidcSocialCallback = some user →
        Trusted allows learn known user.username) :
    Holds known (left (oidcSocialCallback settings services) browser) := by
  have forgets : ∀ message : String, Keeps (Holds known) (do
      remove forgetSocialContext
      return .render .oidcError (some message) : Action Profile Response) :=
    fun _ => Keeps.bind (roster.keeps_remove _ fun _ => rfl) fun _ => keeps_pure _
  refine left_tryCatch_keeps ?_ fun _ => forgets _
  simp only [unaskedUser, socialUser] at isKnown
  rw [Calls.left_bind, outcome_get]
  cases isContext : browser.session.bind BrowserSession.oidcSocialContext with
  | none => exact holds
  | some context =>
    simp only [isContext, Option.any_some, decide_eq_true_eq] at isKnown ⊢
    split
    · exact forgets _ browser holds
    · next isFresh =>
        rw [Calls.left_bind, outcome_ask]
        simp only [Nat.le_of_not_lt isFresh, if_true] at isKnown
        cases isResult : services.handleCallback with
        | error error => exact holds
        | ok result =>
          simp only
          cases isUser : result.user.filter fun _ => result.success with
          | none => exact forgets _ browser holds
          | some user =>
            obtain ⟨isUser, isSuccess⟩ := Option.filter_eq_some_iff.mp isUser
            refine roster.holds_oidcSocialUserAccepted holds user _
              fun isFree isSocially issues => isKnown user ?_
            simp [isResult, Except.toOption, Option.filter_some, isSuccess, isUser, isFree,
              isSocially, issues]

theorem holds_tier1Complete
    (isKnown : ∀ user, unaskedUser settings services browser.session .tier1Complete = some user →
      Trusted allows learn known user.username) :
    Holds known (left (tier1Complete settings services) browser) := by
  rw [tier1Complete, Calls.left_tryCatch_pure, Calls.left_bind, outcome_ask]
  simp only [unaskedUser] at isKnown
  cases isResult : services.completeTier1 with
  | error error => exact holds
  | ok result =>
    simp only
    split
    · exact holds
    · next isSuccess =>
        rw [Bool.not_eq_false] at isSuccess
        rw [Calls.left_bind, outcome_get]
        refine left_bind_then ?_ fun _ => keeps_pure _
        cases isUser : result.user with
        | none => exact roster.keeps_regenerate _ browser holds
        | some user =>
          rw [tier1Accepted, Calls.left_bind, outcome_note]
          refine roster.holds_noted (.credentialsVerified user.username) rfl holds fun noted => ?_
          refine roster.holds_after_regenerate noted fun issues => ?_
          refine roster.keeps_setAuthenticated _ _ _ (isKnown user ?_)
          simp only [isResult, Except.toOption, Option.filter_some, isSuccess, if_true,
            Option.bind_some, isUser]
          exact if_pos issues

end

theorem keeps_recovered (user : User Profile)
    (forget : BrowserSession Profile → BrowserSession Profile)
    (same : ∀ session, (forget session).accounts = session.accounts)
    (isKnown : Trusted allows learn known user.username) :
    Keeps (Holds known) (recovered settings services user forget) :=
  roster.keeps_note rfl <| Keeps.bind (roster.keeps_remove forget same) fun _ =>
    Keeps.bind (roster.keeps_authenticate (accountOf services user) isKnown) fun _ => keeps_pure _

theorem holds_processRecoverySecurityQuestions (holds : Holds known browser)
    (isKnown : ∀ user,
      unaskedUser settings services browser.session .processRecoverySecurityQuestions = some user →
        Trusted allows learn known user.username) :
    Holds known (left (processRecoverySecurityQuestions settings services) browser) := by
  rw [processRecoverySecurityQuestions, Calls.left_tryCatch_pure, Calls.left_bind, outcome_get]
  simp only [unaskedUser] at isKnown
  cases isAttempt : browser.session.bind (recoveryFor .security_questions) with
  | none => exact holds
  | some attempt =>
    rw [isAttempt] at isKnown
    exact keeps_checked attempt.userId (keeps_pure _) (fun _ => keeps_pure _)
      (fun user isUser =>
        roster.keeps_recovered user forgetRecovery (fun _ => rfl) (isKnown user isUser))
      browser holds

theorem keeps_updated (user : User Profile)
    (forget : BrowserSession Profile → BrowserSession Profile)
    (same : ∀ session, (forget session).accounts = session.accounts)
    (isKnown : isUpdated services user = true →
      Trusted allows learn known user.username) :
    Keeps (Holds known) (do
      ask (services.updateRecovery user)
      recovered settings services user forget) := by
  refine keeps_asking fun done isDone => roster.keeps_recovered user forget same (isKnown ?_)
  simp [isUpdated, isDone, Except.toOption]

theorem holds_processRecoveryBackupCodes (holds : Holds known browser) (code : String)
    (isKnown : ∀ user,
      unaskedUser settings services browser.session (.processRecoveryBackupCodes code) = some user →
        Trusted allows learn known user.username) :
    Holds known (left (processRecoveryBackupCodes settings services code) browser) := by
  rw [processRecoveryBackupCodes, Calls.left_tryCatch_pure, Calls.left_bind, outcome_get]
  simp only [unaskedUser] at isKnown
  cases isAttempt : browser.session.bind (recoveryFor .backup_codes) with
  | none => exact holds
  | some attempt =>
    simp only
    split
    · exact holds
    · next isGiven =>
        simp only [isGiven, if_false, isAttempt, Option.bind_some] at isKnown
        refine keeps_checked attempt.userId (keeps_pure _) (fun _ => keeps_pure _)
          (fun user isUser => ?_) browser holds
        refine roster.keeps_updated user forgetRecovery (fun _ => rfl) fun updates => ?_
        exact isKnown user (by simp [isUser, updates])

theorem keeps_recoverBySecondaryEmail (verification : SecondaryEmailVerification)
    (code : String)
    (isKnown : ∀ user, recoveryUser services verification.userId = some user →
      services.now < verification.expiresAt → code = verification.code →
        isUpdated services user = true → Trusted allows learn known user.username) :
    Keeps (Holds known) (recoverBySecondaryEmail settings services verification code) := by
  refine Keeps.ite (fun _ => Keeps.bind (roster.keeps_remove _ fun _ => rfl) fun _ => keeps_pure _)
    fun isFresh => ?_
  refine keeps_checked verification.userId (keeps_pure _) (fun _ => keeps_pure _)
    fun user isUser => ?_
  refine Keeps.ite (fun _ => Keeps.bind (keeps_ask _) fun _ => keeps_pure _) fun isCode => ?_
  exact roster.keeps_updated user (forgetRecovery ∘ forgetSecondaryEmail) (fun _ => rfl)
    (isKnown user isUser (by omega) (not_not.mp isCode))

theorem holds_processRecoveryVerifyCode (holds : Holds known browser) (code : String)
    (isKnown : ∀ user,
      unaskedUser settings services browser.session (.processRecoveryVerifyCode code) = some user →
        Trusted allows learn known user.username) :
    Holds known (left (processRecoveryVerifyCode settings services code) browser) := by
  rw [processRecoveryVerifyCode, Calls.left_tryCatch_pure, Calls.left_bind, outcome_get]
  simp only
  rw [Calls.left_bind, outcome_get]
  simp only [unaskedUser, codeUser] at isKnown ⊢
  split
  · exact holds
  · split
    · exact holds
    · next isGiven =>
        simp only [isGiven, if_false] at isKnown
        cases isAttempt : browser.session.bind smsChallenge with
        | some attempt =>
          simp only [isAttempt] at isKnown
          exact keeps_checked attempt.userId (keeps_pure _) (fun _ => keeps_pure _)
            (fun user isUser =>
              roster.keeps_recovered user forgetRecovery (fun _ => rfl) (isKnown user isUser))
            browser holds
        | none =>
          cases isVerification :
              browser.session.bind BrowserSession.secondaryEmailVerification with
          | none => exact holds
          | some verification =>
            simp only [isAttempt, isVerification] at isKnown
            refine roster.keeps_recoverBySecondaryEmail verification _
              (fun user isUser isFresh isCode updates => isKnown user ?_) browser holds
            simp [isUser, isFresh, isCode, updates]

theorem holds_handle (trusts : TrustsPortal allows learn known services)
    (holds : Holds known browser) (request : SignInRequest)
    (isKnown : ∀ user, unaskedUser settings services browser.session request = some user →
      Trusted allows learn known user.username) :
    Holds known (left (handle settings services request) browser) := by
  cases request with
  | processLogin form => exact roster.keeps_processLogin trusts form browser holds
  | processMfaVerify code url => exact roster.keeps_processMfaVerify code url browser holds
  | processMfaSelect method => exact roster.plain.keeps_processMfaSelect method browser holds
  | mfaWebAuthnOptions => exact roster.plain.keeps_mfaWebAuthnOptions browser holds
  | processMfaWebAuthn credential =>
    exact keeps_processMfaWebAuthn roster.keeps_passkeyAdded credential browser holds
  | getAuthenticationOptions => exact roster.plain.keeps_getAuthenticationOptions browser holds
  | verifyAuthentication credential =>
    exact roster.keeps_verifyAuthentication credential browser holds
  | socialCallback callback => exact roster.keeps_socialCallback trusts callback browser holds
  | oidcLogin form => exact roster.holds_oidcLogin holds form isKnown
  | newDeviceVerify uid code =>
    rw [handle]
    cases verificationCode code with
    | none => exact holds
    | some code => exact roster.keeps_newDeviceVerify uid code browser holds
  | oidcSocialCallback => exact roster.holds_oidcSocialCallback holds isKnown
  | tier1Complete => exact roster.holds_tier1Complete holds isKnown
  | mfa name code method uid =>
    exact keeps_mfa (fun _ _ => roster.keeps_noted rfl) name code method uid browser holds
  | processRecoverySecurityQuestions =>
    exact roster.holds_processRecoverySecurityQuestions holds isKnown
  | processRecoveryBackupCodes code =>
    exact roster.holds_processRecoveryBackupCodes holds code isKnown
  | processRecoveryVerifyCode code =>
    exact roster.holds_processRecoveryVerifyCode holds code isKnown

end Roster

def hasSecondFactor (user : User Profile) : Bool :=
  isMfaEnabled user && !(getEnabledMethods user.mfa).isEmpty

/-- The account has a second factor, and exists: none is registered under its name. -/
structure HasSecondFactor (accountId : String) (services : Services Profile) : Prop where
  enabled : ∀ user, services.Answers user → user.username = accountId →
    hasSecondFactor user = true
  registered : ∀ user, services.registerSocialUser = .ok (some user) → user.username ≠ accountId

variable {accountId : String} {signingIn : Option String}

def mayMark (accountId : String) (signingIn : Option String) (username : String) : Prop :=
  username = accountId → signingIn = some accountId

def signingInAfter (accountId : String) (signingIn : Option String) : Deed → Option String
  | .secondFactorVerified username _ =>
    if signingIn = some accountId then signingIn else some username
  | _ => signingIn

theorem Vouched.noting {browser : Browser Profile}
    (vouched : Vouched accountId signingIn browser) {deed : Deed} (isNoMark : deed.isMark = false) :
    Vouched accountId signingIn (browser.noting deed) := by
  refine ⟨?_, fun isKnown => factorVerified_cons deed (vouched.known isKnown), ?_⟩
  · intro session isSession isListed
    exact factorVerified_cons deed (vouched.listed session isSession isListed)
  · cases deed with
    | authenticated id username => cases isNoMark
    | _ => exact vouched.marked

theorem vouched_roster (accountId : String) :
    Roster (@Vouched Profile accountId) (mayMark accountId)
      (signingInAfter accountId) where
  noting {signingIn browser deed} isNoMark vouched := by
    have noted := vouched.noting isNoMark
    cases deed with
    | secondFactorVerified username method =>
      rw [signingInAfter]
      split
      · exact noted
      · refine ⟨noted.listed, ?_, noted.marked⟩
        rintro ⟨⟩
        exact ⟨method, List.mem_cons_self⟩
    | _ => exact noted
  forget {signingIn deed browser} vouched := by
    cases deed with
    | secondFactorVerified username method =>
      rw [signingInAfter] at vouched
      split at vouched
      · exact vouched
      · next notDue => exact ⟨vouched.listed, fun isDue => absurd isDue notDue, vouched.marked⟩
    | _ => exact vouched
  knows signingIn username method isSame := by
    rw [signingInAfter]
    split
    · assumption
    · rw [isSame]
  marking id isKnown vouched :=
    ⟨fun session isSession isListed =>
        factorVerified_cons _ (vouched.listed session isSession isListed),
      fun isDue => factorVerified_cons _ (vouched.known isDue),
      fun isSame => vouched.known (isKnown isSame), vouched.marked⟩
  relist after fewer vouched := by
    refine ⟨fun session isSession isListed => ?_, vouched.known, vouched.marked⟩
    obtain ⟨earlier, isEarlier, wasListed⟩ := fewer session isSession accountId isListed
    exact vouched.listed earlier isEarlier wasListed
  enlist after isKnown fewer vouched := by
    refine ⟨?_, vouched.known, vouched.marked⟩
    rintro _ ⟨⟩ isListed
    rcases fewer accountId isListed with isSame | wasListed
    · exact vouched.known (isKnown isSame.symm)
    · exact vouched.listed _ rfl wasListed

theorem trusts_portal (protectedBy : HasSecondFactor accountId services) :
    TrustsPortal (mayMark accountId) (signingInAfter accountId) signingIn services where
  answered user answered noMfa isSame := by
    have enabled := protectedBy.enabled user answered isSame
    simp [hasSecondFactor, noMfa] at enabled
  registered user isFound isSame := absurd isSame (protectedBy.registered user isFound)

structure Turn (Profile : Type) (accountId : String) where
  settings : Settings
  services : Services Profile
  request : SignInRequest
  protectedBy : HasSecondFactor accountId services

def serve (browser : Browser Profile) (turn : Turn Profile accountId) : Browser Profile :=
  left (handle turn.settings turn.services turn.request) browser

def AsksOrKnows (browser : Browser Profile) (turn : Turn Profile accountId) : Prop :=
  ∀ user, unaskedUser turn.settings turn.services browser.session turn.request = some user →
    user.username = accountId → FactorVerified accountId browser.deeds

structure SecondFactorFirst (accountId : String) (browser : Browser Profile) : Prop where
  session : ∀ session, browser.session = some session → session.isAuthenticated = true →
    session.lists accountId → FactorVerified accountId browser.deeds
  marks : FactorBeforeMark accountId browser.deeds

theorem asks_of_none {browser : Browser Profile} {turn : Turn Profile accountId}
    (isNone : unaskedUser turn.settings turn.services browser.session turn.request = none) :
    AsksOrKnows browser turn := by
  intro user isUser
  rw [isNone] at isUser
  cases isUser

theorem serve_vouched (browser : Browser Profile) (turn : Turn Profile accountId)
    (vouched : Vouched accountId none browser) (asks : AsksOrKnows browser turn) :
    Vouched accountId none (serve browser turn) := by
  by_cases verified : FactorVerified accountId browser.deeds
  · have known : Vouched accountId (some accountId) browser :=
      .of_known verified vouched.marked
    exact ((vouched_roster accountId).holds_handle (trusts_portal turn.protectedBy) known
      turn.request fun _ _ _ => rfl).forget
  · exact (vouched_roster accountId).holds_handle (trusts_portal turn.protectedBy) vouched turn.request
      fun user isUnasked isSame => absurd (asks user isUnasked isSame) verified

theorem second_factor_first (accountId id : String) (turns : List (Turn Profile accountId))
    (asks : AllowedFrom serve AsksOrKnows ⟨some (.blank id), []⟩ turns) :
    AlwaysFrom serve (SecondFactorFirst accountId) ⟨some (.blank id), []⟩ turns := by
  have fresh : Vouched accountId none (⟨some (.blank id), []⟩ : Browser Profile) := by
    refine ⟨?_, nofun, trivial⟩
    intro session isSession isListed
    cases isSession
    cases isListed
  have always := Runs.always_of_allowed serve serve_vouched fresh asks
  exact always.mono serve fun browser vouched =>
    ⟨fun session isSession _ isListed => vouched.listed session isSession isListed, vouched.marked⟩

end SecondFactorFirst

def protectedAda : User Unit :=
  { ada with mfa := some { SecondFactors.Mfa.blank with
      enabled := true, totp := some ⟨true, some "JBSWY3DPEHPK3PXP", some 1⟩ } }

theorem protectedAda_hasSecondFactor : HasSecondFactor "ada" (servicesOf protectedAda) := by
  have enabled : hasSecondFactor protectedAda = true := by decide
  refine ⟨fun user answered _ => ?_, fun user isUser => by cases isUser⟩
  cases answered with
  | loginWith isUser =>
    cases isUser
    exact enabled
  | handleCallback isResult isUser =>
    cases isResult
    cases isUser
    exact enabled
  | completeTier1 isResult isUser =>
    cases isResult
    cases isUser
    exact enabled

def adasTurn (request : SignInRequest) : Turn Unit "ada" where
  settings := plainSettings
  services := servicesOf protectedAda
  request := request
  protectedBy := protectedAda_hasSecondFactor

theorem portal_asks_for_code :
    AlwaysFrom serve (SecondFactorFirst "ada") ⟨some (.blank "fixed"), []⟩
      [adasTurn (.processLogin ⟨some "ada@example.com", none, none, "secret", none⟩),
        adasTurn (.processMfaVerify "123456" none)] :=
  second_factor_first "ada" "fixed" _ ⟨asks_of_none rfl, asks_of_none rfl, trivial⟩

theorem interaction_marks_on_password :
    ¬AlwaysFrom serve (SecondFactorFirst "ada") ⟨some (.blank "fixed"), []⟩
      [adasTurn (.oidcLogin ⟨"uid", some ("ada@example.com", "secret"), []⟩)] := by
  intro always
  have noted : (serve (⟨some (.blank "fixed"), []⟩ : Browser Unit)
      (adasTurn (.oidcLogin ⟨"uid", some ("ada@example.com", "secret"), []⟩))).deeds =
        [.authenticated "issued" "ada", .regenerated "issued", .credentialsVerified "ada"] := by
    decide
  have marks := always.2.marks
  rw [noted] at marks
  obtain ⟨method, member⟩ := marks.1 rfl
  simp at member

end ParakoId.SignIn
