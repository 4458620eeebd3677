import ParakoId.SignIn.LoginEndings

/-!
How the logins of an interaction and those with a social account end, and all logins together.
-/

namespace ParakoId.SignIn

open Calls (Call Keeps outcome left keeps_pure outcome_bind)
open SessionAccounts (SessionUserAccount sameAccount getActiveUser)

variable {Profile : Type}

section Interactions

variable {settings : Settings} {services : Services Profile}
  {acc : Option (SessionUserAccount Profile)} {before : List String}

variable {reports : Response → Bool} {browser : Browser Profile}

theorem interaction_endsRight_iff {response : Response} (reported : reports response = true)
    {account : SessionUserAccount Profile} (isAccount : acc = some account) :
    EndsRight reports acc before
        (outcome (do
          authenticateInInteraction settings services account
          return response) browser) ↔
      InteractionSignsIn settings services before account browser := by
  rw [outcome_bind, InteractionSignsIn]
  rcases outcome (authenticateInInteraction settings services account) browser with
    ⟨error | _, after⟩
  · exact iff_of_true (endsRight_error error after) (by rintro _ ⟨⟩)
  · dsimp only
    rw [Calls.outcome_pure, endsRight_reported reported isAccount]
    constructor
    · rintro signedIn _ ⟨⟩
      exact signedIn
    · exact fun all => all after rfl

theorem interaction_signsIn_iff_left {account : SessionUserAccount Profile}
    (fewer : ListsOnly before browser) :
    InteractionSignsIn settings services before account browser ↔
      ∀ left, browser.session = some left →
        TurnsTo settings.session left.isAuthenticated left.accounts account := by
  obtain ⟨_ | session, deeds⟩ := browser
  · refine iff_of_true ?_ (by rintro _ ⟨⟩)
    intro after isOutcome
    obtain ⟨error, refuses⟩ := authenticate_refuses settings services account ⟨none, deeds⟩
      (Or.inr rfl)
    simp [authenticateInInteraction, addOrUpdateAccountInSession, Calls.outcome_tryCatch,
      outcome_bind, Calls.outcome_map, refuses] at isOutcome
  · rw [interaction_signsIn_iff (fewer session rfl)]
    constructor
    · rintro turns _ ⟨⟩
      exact turns
    · exact fun all => all session rfl

theorem startNewDeviceVerification_endsRight
    (silent : ∀ uid, reports (.redirect (.newDeviceVerify uid) none) = false)
    (user : User Profile) (account : SessionUserAccount Profile) (method : NewDeviceMethod)
    (uid : String) (browser : Browser Profile) :
    EndsRight reports acc before
      (outcome (startNewDeviceVerification services user account method uid) browser) := by
  have rest : EndsRight reports acc before
      (outcome (do
        set fun session : BrowserSession Profile => { session with
          pendingNewDeviceVerification := some
            { userId := account.id, username := account.username, method := method
              userAccount := account, interactionUid := uid, created_at := services.now
              sameUser := rfl } }
        return .redirect (.newDeviceVerify uid) none) browser) := by
    obtain ⟨_ | session, deeds⟩ := browser
    · exact endsRight_error _ _
    · exact endsRight_silent (silent uid) _
  rw [startNewDeviceVerification]
  split
  · rw [outcome_bind, outcome_ask]
    cases services.sendEmailCode user.username with
    | error error => exact endsRight_error error browser
    | ok _ => exact rest
  · exact rest

theorem verification_endsRight_iff {needs : Action Profile Bool} {isKnown : Bool}
    (reads : ∃ answer, outcome needs browser = (answer, browser) ∧
      (answer = .ok false ↔ isKnown = true)) {verify complete : Action Profile Response}
    (verifies : EndsRight reports acc before (outcome verify browser)) :
    EndsRight reports acc before (outcome (do if ← needs then verify else complete) browser) ↔
      (isKnown = true → EndsRight reports acc before (outcome complete browser)) := by
  obtain ⟨answer, isAnswer, knows⟩ := reads
  rw [outcome_bind, isAnswer]
  rcases answer with error | needed
  · refine iff_of_true (endsRight_error error browser) fun isTrue => ?_
    cases knows.mpr isTrue
  · cases needed with
    | true =>
      refine iff_of_true verifies fun isTrue => ?_
      cases knows.mpr isTrue
    | false => exact (imp_iff_right (knows.mp rfl)).symm

theorem regenerate_endsRight_iff {next : Unit → Action Profile Response} :
    EndsRight reports acc before
        (outcome (regenerate services.regeneration >>= next) browser) ↔
      (regenerates services browser.session = true → EndsRight reports acc before
        (outcome (next ()) (regenerated services.regeneration browser).2)) := by
  rw [outcome_bind, outcome_regenerate, regenerates]
  obtain ⟨_ | session, deeds⟩ := browser
  · exact iff_of_true (endsRight_error _ _) (by rintro ⟨⟩)
  · cases services.regeneration with
    | issues id => exact (imp_iff_right rfl).symm
    | fails message remains => exact iff_of_true (endsRight_error _ _) (by rintro ⟨⟩)

theorem completeOidcLogin_endsRight_iff {user : User Profile}
    (isAccount : acc = some (accountOf services user)) (fewer : ListsOnly before browser)
    (form : OidcLoginForm) :
    EndsRight Response.isFinished acc before
        (outcome (completeOidcLogin settings services user form) browser) ↔
      (regenerates services browser.session = true → ∀ left, browser.session = some left →
        TurnsTo settings.session left.isAuthenticated left.accounts
          (accountOf services user)) := by
  rw [completeOidcLogin, regenerate_endsRight_iff]
  refine imp_congr_right fun issues => ?_
  rw [interaction_endsRight_iff rfl isAccount,
    interaction_signsIn_iff_left (listsOnly_regenerated fewer _), regenerated_session]
  rw [regenerates] at issues
  obtain ⟨_ | session, deeds⟩ := browser
  · exact Iff.rfl
  · cases isRegeneration : services.regeneration with
    | issues id =>
      simp only [regeneratedSession, Option.some.injEq, forall_eq']
    | fails message remains =>
      rw [isRegeneration] at issues
      cases issues

theorem oidcPasswordAccepted_endsRight_iff {user : User Profile}
    (isAccount : acc = some (accountOf services user)) (fewer : ListsOnly before browser)
    (form : OidcLoginForm) :
    EndsRight Response.isFinished acc before
        (outcome (oidcPasswordAccepted settings services user form) browser) ↔
      (isKnownDevice settings services user = true →
        regenerates services browser.session = true → ∀ left, browser.session = some left →
          TurnsTo settings.session left.isAuthenticated left.accounts
            (accountOf services user)) := by
  rw [oidcPasswordAccepted, outcome_bind, outcome_note]
  refine (verification_endsRight_iff (outcome_loginNeedsVerification user _)
    (startNewDeviceVerification_endsRight (fun _ => rfl) _ _ _ _ _)).trans ?_
  refine imp_congr_right fun _ => ?_
  exact completeOidcLogin_endsRight_iff isAccount (listsOnly_noting fewer _) form

theorem oidcLoginError_silent (error : SignInError) :
    (oidcLoginError services error).isFinished = false := by
  cases error with
  | phoneVerificationRequired userId =>
    rw [oidcLoginError]
    split <;> rfl
  | failed message => rfl

theorem oidcLogin_endsRight_iff (form : OidcLoginForm) (browser : Browser Profile)
    (fewer : ListsOnly before browser)
    (isAccount : acc = (form.user settings services).map (accountOf services)) :
    EndsRight Response.isFinished acc before
        (outcome (oidcLogin settings services form) browser) ↔
      LeavesRight settings services browser.session (.oidcLogin form) := by
  rw [oidcLogin, LeavesRight]
  rw [OidcLoginForm.user] at isAccount ⊢
  cases isForm : form.credentials with
  | none => exact iff_of_true (endsRight_silent rfl _) (by rintro _ _ ⟨⟩)
  | some credentials =>
    obtain ⟨identifier, password⟩ := credentials
    rw [isForm] at isAccount
    refine (endsRight_tryCatch fun error middle =>
      endsRight_silent (oidcLoginError_silent error) middle).trans ?_
    refine (password_endsRight_iff rfl rfl (services.detectIdentifierType identifier) identifier
      password _ browser).trans ?_
    dsimp only [Option.bind_some] at isAccount ⊢
    constructor
    · intro all user left isUser
      rw [isUser] at isAccount
      intro isKnown issues
      exact (oidcPasswordAccepted_endsRight_iff isAccount fewer form).mp (all user isUser)
        isKnown issues left
    · intro all user isUser
      rw [isUser] at isAccount
      exact (oidcPasswordAccepted_endsRight_iff isAccount fewer form).mpr
        fun isKnown issues left => all user left isUser isKnown issues

theorem deviceAccepted_endsRight_iff {pending : PendingNewDeviceVerification Profile}
    (isAccount : acc = some pending.userAccount) (fewer : ListsOnly before browser) :
    EndsRight Response.isFinished acc before
        (outcome (deviceAccepted settings services pending) browser) ↔
      ∀ left, regeneratedSession browser.session services.regeneration = some left →
        TurnsTo settings.session left.isAuthenticated left.accounts pending.userAccount := by
  rw [deviceAccepted, outcome_bind, outcome_remove]
  dsimp only
  rw [outcome_bind, outcome_note]
  dsimp only
  rw [outcome_bind, outcome_regenerateOrLog]
  have fewerThen := listsOnly_noting (listsOnly_map fewer forgetNewDevice (fun _ => rfl)
    browser.deeds) (.secondFactorVerified pending.username pending.method.factor)
  refine (interaction_endsRight_iff rfl isAccount).trans ?_
  rw [interaction_signsIn_iff_left (listsOnly_regenerated fewerThen _), regenerated_session]
  exact regeneratedSession_map forgetNewDevice (fun _ => rfl) (fun _ => rfl) browser.session
    services.regeneration fun isMarked accounts =>
      TurnsTo settings.session isMarked accounts pending.userAccount

theorem newDeviceVerify_endsRight_iff (uid code : String) (browser : Browser Profile)
    (fewer : ListsOnly before browser)
    (isAccount : acc = (browser.session.bind BrowserSession.pendingNewDeviceVerification).map
      PendingNewDeviceVerification.userAccount) :
    EndsRight Response.isFinished acc before
        (outcome (newDeviceVerify settings services uid code) browser) ↔
      ∀ pending left, acceptedDevice services browser.session uid code = some pending →
        regeneratedSession browser.session services.regeneration = some left →
          TurnsTo settings.session left.isAuthenticated left.accounts pending.userAccount := by
  rw [newDeviceVerify, acceptedDevice]
  refine (endsRight_tryCatch fun error middle => endsRight_silent rfl middle).trans ?_
  rw [outcome_bind, outcome_get]
  dsimp only
  cases isPending : browser.session.bind BrowserSession.pendingNewDeviceVerification with
  | none => exact iff_of_true (endsRight_silent rfl _) (by rintro _ _ ⟨⟩)
  | some pending =>
    rw [isPending] at isAccount
    dsimp only
    rw [Option.filter_some]
    by_cases isUid : pending.interactionUid = uid
    · cases isExpired : isPendingVerificationExpired services.now pending.created_at with
      | true =>
        simp only [isUid, ne_eq, not_true_eq_false, if_false, if_true]
        exact iff_of_true (endsRight_silent rfl _) (by simp)
      | false =>
        cases isValid : isCodeValid services pending code with
        | false =>
          simp only [isUid, ne_eq, not_true_eq_false, Bool.false_eq_true, if_false]
          exact iff_of_true (endsRight_silent rfl _) (by simp)
        | true =>
          simp only [isUid, ne_eq, not_true_eq_false, Bool.false_eq_true, if_false, if_true]
          refine (deviceAccepted_endsRight_iff isAccount fewer).trans ⟨?_, ?_⟩
          · rintro holds _ left ⟨⟩ isLeft
            exact holds left isLeft
          · exact fun all left => all pending left rfl
    · simp only [ne_eq, isUid, not_false_eq_true, if_true]
      exact iff_of_true (endsRight_silent rfl _) (by simp)

end Interactions

section Social

variable {settings : Settings} {services : Services Profile}
  {acc : Option (SessionUserAccount Profile)} {before : List String}

theorem completeSocialLogin_endsRight_iff {account : SessionUserAccount Profile}
    (isAccount : acc = some account) {browser : Browser Profile}
    (fewer : ListsOnly before browser) (callback : SocialCallback) :
    EndsRight Response.arrives acc before
        (outcome (completeSocialLogin settings services callback account) browser) ↔
      ((browser.session.bind adding).isSome → AddsMarked settings browser.session account) ∧
        (browser.session.bind adding = none → callback.continueUrl.isSome →
          AddsMarked settings (regeneratedSession browser.session services.regeneration)
            account) := by
  rw [completeSocialLogin, outcome_bind, outcome_get]
  dsimp only
  cases isAdding : browser.session.bind adding with
  | some intent =>
    dsimp only
    rw [Option.isSome_some, imp_iff_right rfl]
    exact (addAccount_endsRight_iff isAccount fewer intent).trans
      (and_iff_left (by rintro ⟨⟩)).symm
  | none =>
    dsimp only
    rw [Option.isSome_none, imp_iff_right rfl]
    refine Iff.trans ?_ (and_iff_right (by rintro ⟨⟩)).symm
    rw [outcome_bind, outcome_get]
    dsimp only
    cases callback.continueUrl with
    | some url =>
      rw [Option.isSome_some, imp_iff_right rfl, ← regenerated_session]
      dsimp only
      rw [outcome_bind, outcome_regenerateOrLog]
      exact added_endsRight_iff isAccount (listsOnly_regenerated fewer services.regeneration)
        (some url) fun refusal middle => ⟨middle, rfl, Iff.rfl⟩
    | none =>
      refine iff_of_true ?_ (by rintro ⟨⟩)
      cases browser.session.bind BrowserSession.socialIntent with
      | none =>
        apply regenerated_endsRight isAccount fewer
        exact keeps_pure _
      | some url =>
        dsimp only
        rw [outcome_bind, outcome_regenerateOrLog]
        dsimp only
        rw [outcome_bind, outcome_remove]
        refine endsRight_authenticate isAccount ?_ (keeps_pure _)
        exact (listsOnly_map (listsOnly_regenerated fewer _) forgetSocialIntent
          (fun _ => rfl) _).beside account

theorem phoneVerification_endsRight (userId : String) (browser : Browser Profile) :
    EndsRight Response.arrives acc before
      (outcome (phoneVerification services userId) browser) := by
  rw [phoneVerification, outcome_bind, outcome_ask]
  cases services.startPhoneVerification userId with
  | error error => exact endsRight_error error browser
  | ok _ => exact endsRight_silent rfl _

variable {user : User Profile}

theorem socialUserAccepted_endsRight_iff (isAccount : acc = some (userAccountOf services user))
    {browser : Browser Profile} (fewer : ListsOnly before browser) (callback : SocialCallback) :
    EndsRight Response.arrives acc before
        (outcome (socialUserAccepted settings services callback user) browser) ↔
      (requiresVerification settings user = false → isMfaEnabled user = false →
        ((browser.session.bind adding).isSome →
          AddsMarked settings browser.session (userAccountOf services user)) ∧
        (browser.session.bind adding = none → callback.continueUrl.isSome →
          AddsMarked settings (regeneratedSession browser.session services.regeneration)
            (userAccountOf services user))) := by
  rw [socialUserAccepted]
  cases requiresVerification settings user with
  | true => exact iff_of_true (phoneVerification_endsRight _ _) (by rintro ⟨⟩)
  | false =>
    rw [imp_iff_right rfl]
    simp only [Bool.false_eq_true, if_false]
    rw [outcome_bind, outcome_note]
    dsimp only
    cases isMfaEnabled user with
    | true =>
      refine iff_of_true ?_ (by rintro ⟨⟩)
      rw [if_pos rfl, outcome_bind, outcome_get]
      exact requestSecondFactor_endsRight _ _ _ _
    | false =>
      rw [imp_iff_right rfl]
      exact completeSocialLogin_endsRight_iff isAccount (listsOnly_noting fewer _) callback

theorem registrationAccepted_endsRight (isAccount : acc = some (userAccountOf services user))
    {browser : Browser Profile} (fewer : ListsOnly before browser) (callback : SocialCallback) :
    EndsRight Response.arrives acc before
      (outcome (registrationAccepted settings services callback user) browser) := by
  rw [registrationAccepted, outcome_bind, outcome_note]
  apply regenerated_endsRight isAccount (listsOnly_noting fewer _)
  apply Keeps.bind (signedIn_get _)
  intro socialIntent
  cases callback.continueUrl with
  | some url => exact keeps_pure _
  | none =>
    cases socialIntent with
    | none => exact keeps_pure _
    | some url =>
      exact Keeps.bind (signedIn_remove (fun _ => rfl) fun _ => rfl) fun _ => keeps_pure _

theorem handleSocialRegistration_endsRight (callback : SocialCallback)
    {browser : Browser Profile} (fewer : ListsOnly before browser)
    (isAccount : acc = services.registerSocialUser.toOption.join.map (userAccountOf services)) :
    EndsRight Response.arrives acc before
      (outcome (handleSocialRegistration settings services callback) browser) := by
  rw [handleSocialRegistration]
  refine (endsRight_tryCatch fun error middle => endsRight_silent rfl middle).mpr ?_
  rw [outcome_bind, outcome_ask]
  cases isUser : services.registerSocialUser with
  | error error => exact endsRight_error error browser
  | ok registered =>
    rw [isUser] at isAccount
    cases registered with
    | none => exact endsRight_silent rfl _
    | some user =>
      dsimp only
      cases settings.requirePasswordOnRegistration with
      | true => exact endsRight_silent rfl _
      | false =>
        cases requiresVerification settings user with
        | true => exact phoneVerification_endsRight _ _
        | false => exact registrationAccepted_endsRight isAccount fewer callback

theorem answerLinkIntent_endsRight (callback : SocialCallback) (intent : LinkSocialAccountIntent)
    (result : SocialLoginResult Profile) (browser : Browser Profile) :
    EndsRight Response.arrives acc before
      (outcome (answerLinkIntent callback intent result) browser) := by
  rw [answerLinkIntent, outcome_bind, outcome_remove]
  dsimp only
  split
  · exact endsRight_silent rfl _
  · rw [outcome_bind, outcome_get]
    dsimp only
    split
    · exact endsRight_silent rfl _
    · split
      · exact endsRight_silent rfl _
      · split
        · exact endsRight_silent rfl _
        · exact endsRight_silent rfl _

def SocialRight (settings : Settings) (services : Services Profile) (callback : SocialCallback)
    (session : Option (BrowserSession Profile)) : Prop :=
  ∀ result user, services.handleCallback = .ok result → result.success = true →
    result.user = some user → requiresVerification settings user = false →
    isMfaEnabled user = false →
      ((session.bind adding).isSome → AddsMarked settings session (userAccountOf services user)) ∧
      (session.bind adding = none → callback.continueUrl.isSome →
        AddsMarked settings (regeneratedSession session services.regeneration)
          (userAccountOf services user))

theorem socialRight_forgotten (callback : SocialCallback)
    (session : Option (BrowserSession Profile)) :
    SocialRight settings services callback (session.map forgetSocialContext) ↔
      SocialRight settings services callback session := by
  have sameAdding : (session.map forgetSocialContext).bind adding = session.bind adding := by
    cases session <;> rfl
  have sameAdds (account : SessionUserAccount Profile) :
      AddsMarked settings (session.map forgetSocialContext) account ↔
        AddsMarked settings session account := by
    cases session with
    | none => exact Iff.rfl
    | some session => simp [AddsMarked, forgetSocialContext]
  have sameLeft (account : SessionUserAccount Profile) :
      AddsMarked settings (regeneratedSession (session.map forgetSocialContext)
          services.regeneration) account ↔
        AddsMarked settings (regeneratedSession session services.regeneration) account :=
    regeneratedSession_map forgetSocialContext (fun _ => rfl) (fun _ => rfl) session
      services.regeneration fun isMarked accounts =>
        CanAdd settings.session accounts account → isMarked = true
  simp only [SocialRight, sameAdding, sameAdds, sameLeft]

theorem answerSocialResult_endsRight_iff {result : SocialLoginResult Profile}
    (isResult : services.handleCallback = .ok result)
    (isAccount : acc = (result.loginUser services).map (userAccountOf services))
    {browser : Browser Profile} (fewer : ListsOnly before browser) (callback : SocialCallback) :
    EndsRight Response.arrives acc before
        (outcome (answerSocialResult settings services callback result) browser) ↔
      SocialRight settings services callback browser.session := by
  rw [answerSocialResult, SocialRight]
  rw [SocialLoginResult.loginUser] at isAccount
  cases isSuccess : result.success with
  | false =>
    have vacuous (other : SocialLoginResult Profile)
        (isOther : services.handleCallback = .ok other) : other.success = false := by
      rw [isResult, Except.ok.injEq] at isOther
      exact isOther ▸ isSuccess
    refine iff_of_true ?_ ?_
    · simp only [isSuccess, Bool.false_eq_true, if_false] at isAccount ⊢
      split
      · exact handleSocialRegistration_endsRight callback fewer isAccount
      · exact endsRight_silent rfl _
    · intro other user isOther isTrue
      rw [vacuous other isOther] at isTrue
      cases isTrue
  | true =>
    simp only [isSuccess, if_true] at isAccount ⊢
    cases isUser : result.user with
    | none =>
      refine iff_of_true (endsRight_silent rfl _) ?_
      intro other user isOther _ isSome
      rw [isResult, Except.ok.injEq] at isOther
      rw [← isOther, isUser] at isSome
      cases isSome
    | some user =>
      rw [isUser] at isAccount
      refine (socialUserAccepted_endsRight_iff isAccount fewer callback).trans ?_
      constructor
      · intro holds other otherUser isOther _ isSome
        rw [isResult, Except.ok.injEq] at isOther
        rw [← isOther, isUser, Option.some.injEq] at isSome
        exact isSome ▸ holds
      · exact fun all => all result user isResult isSuccess isUser

variable (settings) in
theorem regularSocialCallback_endsRight_iff (callback : SocialCallback)
    {browser : Browser Profile} (fewer : ListsOnly before browser)
    (isAccount : acc = (services.handleCallback.toOption.bind
      (SocialLoginResult.loginUser services)).map (userAccountOf services)) :
    EndsRight Response.arrives acc before
        (outcome (regularSocialCallback settings services callback) browser) ↔
      ((callback.providerAvailable &&
          (browser.session.bind BrowserSession.linkSocialAccountIntent).isNone) = true →
        SocialRight settings services callback browser.session) := by
  rw [regularSocialCallback]
  cases callback.providerAvailable with
  | false => exact iff_of_true (endsRight_silent rfl _) (by rintro ⟨⟩)
  | true =>
    simp only [Bool.true_eq_false, if_false, Bool.true_and]
    rw [outcome_bind, outcome_ask]
    cases isResult : services.handleCallback with
    | error error =>
      refine iff_of_true (endsRight_error error browser) fun _ => ?_
      intro result user isOther
      rw [isResult] at isOther
      cases isOther
    | ok result =>
      rw [isResult] at isAccount
      dsimp only
      rw [outcome_bind, outcome_get]
      dsimp only
      cases browser.session.bind BrowserSession.linkSocialAccountIntent with
      | some intent => exact iff_of_true (answerLinkIntent_endsRight _ _ _ _) (by rintro ⟨⟩)
      | none =>
        rw [Option.isNone_none, imp_iff_right rfl]
        exact answerSocialResult_endsRight_iff isResult isAccount fewer callback

theorem socialCallback_endsRight_iff (callback : SocialCallback) (browser : Browser Profile)
    (fewer : ListsOnly before browser)
    (isAccount : acc = (services.handleCallback.toOption.bind
      (SocialLoginResult.loginUser services)).map (userAccountOf services)) :
    EndsRight Response.arrives acc before
        (outcome (socialCallback settings services callback) browser) ↔
      LeavesRight settings services browser.session (.socialCallback callback) := by
  rw [socialCallback, LeavesRight, answersSocial]
  refine (endsRight_tryCatch fun error middle => endsRight_silent rfl middle).trans ?_
  rw [outcome_bind, outcome_get]
  dsimp only
  cases browser.session.bind BrowserSession.oidcSocialContext with
  | none =>
    rw [Option.all_none, Bool.true_and]
    exact regularSocialCallback_endsRight_iff settings callback fewer isAccount
  | some context =>
    dsimp only
    by_cases isFresh : services.now - context.timestamp ≤ SOCIAL_CONTEXT_TTL_MS
    · rw [if_pos isFresh, Option.all_some, decide_eq_false (by omega), Bool.false_and,
        Bool.false_and]
      exact iff_of_true (endsRight_silent rfl _) (by rintro ⟨⟩)
    · rw [if_neg isFresh, Option.all_some, decide_eq_true (by omega), Bool.true_and,
        outcome_bind, outcome_remove]
      have sameLink : (browser.session.map forgetSocialContext).bind
          BrowserSession.linkSocialAccountIntent =
            browser.session.bind BrowserSession.linkSocialAccountIntent := by
        cases browser.session <;> rfl
      have forgotten := regularSocialCallback_endsRight_iff settings callback
        (listsOnly_map fewer forgetSocialContext (fun _ => rfl) browser.deeds) isAccount
      rw [sameLink, socialRight_forgotten] at forgotten
      exact forgotten

theorem oidcSocialUserAccepted_endsRight (isAccount : acc = some (accountOf services user))
    {browser : Browser Profile} (fewer : ListsOnly before browser) (uid : String) :
    EndsRight Response.resumes acc before
      (outcome (oidcSocialUserAccepted settings services user uid) browser) := by
  rw [oidcSocialUserAccepted]
  split
  · rw [outcome_bind, outcome_ask]
    cases services.startPhoneVerification (user._id.getD "") with
    | error error => exact endsRight_error error browser
    | ok _ => exact endsRight_silent rfl _
  · rw [outcome_bind, outcome_note]
    refine (verification_endsRight_iff (outcome_socialNeedsVerification user _)
      (startNewDeviceVerification_endsRight (fun _ => rfl) _ _ _ _ _)).mpr fun _ => ?_
    rw [completeOidcSocialLogin, regenerate_endsRight_iff]
    intro _
    refine endsRight_authenticate isAccount
      ((listsOnly_regenerated (listsOnly_noting fewer _) _).beside _) ?_
    exact Keeps.bind (signedIn_remove (fun _ => rfl) fun _ => rfl) fun _ => keeps_pure _

theorem forgetContext_endsRight (message : String) (browser : Browser Profile) :
    EndsRight Response.resumes acc before
      (outcome (do
        remove forgetSocialContext
        return .render .oidcError (some message)) browser) := by
  rw [outcome_bind, outcome_remove]
  exact endsRight_silent rfl _

theorem oidcSocialCallback_endsRight (browser : Browser Profile)
    (fewer : ListsOnly before browser)
    (isAccount : acc = (services.handleCallback.toOption.bind SocialLoginResult.user).map
      (accountOf services)) :
    EndsRight Response.resumes acc before
      (outcome (oidcSocialCallback settings services) browser) := by
  rw [oidcSocialCallback]
  refine (endsRight_tryCatch fun error middle => forgetContext_endsRight _ middle).mpr ?_
  rw [outcome_bind, outcome_get]
  dsimp only
  cases browser.session.bind BrowserSession.oidcSocialContext with
  | none => exact endsRight_silent rfl _
  | some context =>
    dsimp only
    split
    · exact forgetContext_endsRight _ _
    · rw [outcome_bind, outcome_ask]
      cases isResult : services.handleCallback with
      | error error => exact endsRight_error error browser
      | ok result =>
        rw [isResult] at isAccount
        dsimp only
        cases isUser : result.user.filter fun _ => result.success with
        | none => exact forgetContext_endsRight _ _
        | some user =>
          have isFound := (Option.filter_eq_some_iff.mp isUser).1
          simp only [Except.toOption, Option.bind_some, isFound, Option.map_some] at isAccount
          exact oidcSocialUserAccepted_endsRight isAccount fewer context.uid

theorem tier1Accepted_none {response : Response} (reported : Response.resumes response = true)
    (isAccount : acc = none) (browser : Browser Profile) :
    EndsRight Response.resumes acc before
        (outcome (tier1Accepted settings services none >>= fun _ => pure response) browser) ↔
      (regenerates services browser.session = true → False) := by
  rw [tier1Accepted, regenerate_endsRight_iff]
  refine imp_congr_right fun _ => iff_false_intro fun endsRight => ?_
  obtain ⟨verified, isSome, _⟩ := endsRight response rfl reported
  rw [isAccount] at isSome
  cases isSome

theorem tier1Accepted_some {response : Response}
    (isAccount : acc = SessionAccounts.userAccount services.now
      { id := user.id, _id := user._id, username := user.username, profile := user.profile })
    {browser : Browser Profile} (fewer : ListsOnly before browser) :
    EndsRight Response.resumes acc before
      (outcome (tier1Accepted settings services (some user) >>= fun _ => pure response)
        browser) := by
  rw [tier1Accepted, bind_assoc, outcome_bind, outcome_note]
  dsimp only
  rw [bind_assoc, regenerate_endsRight_iff]
  intro _
  have beside := listsOnly_regenerated (listsOnly_noting fewer (.credentialsVerified user.username))
    services.regeneration
  rw [outcome_bind, outcome_setAuthenticated]
  generalize isMarked : marked settings.session services.now _ _ = ended
  rcases ended with ⟨error | _, after⟩
  · exact endsRight_error error after
  · cases isUser : SessionAccounts.userAccount services.now
        { id := user.id, _id := user._id, username := user.username, profile := user.profile } with
    | none =>
      simp only [marked, isUser] at isMarked
      cases isMarked
    | some account =>
      exact endsRight_signedIn (isAccount.trans isUser)
        (marked_signedIn isUser (beside.beside account) isMarked)

theorem tier1Complete_endsRight_iff (browser : Browser Profile)
    (fewer : ListsOnly before browser)
    (isAccount : acc = (services.completeTier1.toOption.bind SocialLoginResult.user).bind
      fun user => SessionAccounts.userAccount services.now
        { id := user.id, _id := user._id, username := user.username, profile := user.profile }) :
    EndsRight Response.resumes acc before
        (outcome (tier1Complete settings services) browser) ↔
      LeavesRight settings services browser.session .tier1Complete := by
  rw [tier1Complete, LeavesRight]
  refine (endsRight_tryCatch fun error middle => endsRight_silent rfl middle).trans ?_
  rw [outcome_bind, outcome_ask]
  cases isResult : services.completeTier1 with
  | error error => exact iff_of_true (endsRight_error error browser) (by rintro _ ⟨⟩)
  | ok result =>
    rw [isResult] at isAccount
    have only : (∀ other : SocialLoginResult Profile, Except.ok result =
        (Except.ok other : Except SignInError _) → other.success = true →
          regenerates services browser.session = true → other.user.isSome) ↔
        (result.success = true → regenerates services browser.session = true →
          result.user.isSome) := by
      constructor
      · exact fun all => all result rfl
      · rintro holds _ ⟨⟩
        exact holds
    rw [only]
    dsimp only
    cases result.success with
    | false => exact iff_of_true (endsRight_silent rfl _) (by rintro ⟨⟩)
    | true =>
      rw [imp_iff_right rfl, if_neg (by decide), outcome_bind, outcome_get]
      dsimp only
      have reported : Response.resumes (.redirect
          ((browser.session.bind BrowserSession.oidcSocialContext).elim .dashboard
            fun context => .interaction context.uid) none) = true := by
        cases browser.session.bind BrowserSession.oidcSocialContext <;> rfl
      cases isUser : result.user with
      | none =>
        simp only [Except.toOption, Option.bind_some, isUser, Option.bind_none] at isAccount
        refine (tier1Accepted_none reported isAccount browser).trans ?_
        simp
      | some user =>
        simp only [Except.toOption, Option.bind_some, isUser] at isAccount
        exact iff_of_true (tier1Accepted_some isAccount fewer) fun _ => rfl

end Social

def listedBefore (session : Option (BrowserSession Profile)) : List String :=
  (session.map fun session => usernames session.accounts).getD []

/-- For every login, session and setting: a login that reports success leaves the session marked
and the account it was shown active, beside accounts that were listed before, exactly where it
does not have to add the account to a session that is not marked, or to switch to it. -/
theorem login_ends_right_iff (settings : Settings) (services : Services Profile)
    (browser : Browser Profile) (request : SignInRequest) :
    EndsRight request.reportsSuccess (request.account settings services browser.session)
        (listedBefore browser.session) (outcome (handle settings services request) browser) ↔
      LeavesRight settings services browser.session request := by
  have fewer : ListsOnly (listedBefore browser.session) browser := by
    intro session isSession name member
    rw [listedBefore, isSession]
    exact member
  have unreported (isSilent : ∀ response, request.reportsSuccess response = false) :
      EndsRight request.reportsSuccess (request.account settings services browser.session)
        (listedBefore browser.session) (outcome (handle settings services request) browser) := by
    intro response _ reported
    rw [isSilent] at reported
    cases reported
  cases request with
  | processLogin form => exact processLogin_endsRight_iff form browser fewer rfl
  | processMfaVerify code continueUrl =>
    exact iff_of_true (processMfaVerify_endsRight code continueUrl browser fewer rfl) trivial
  | processMfaWebAuthn credential =>
    exact processMfaWebAuthn_endsRight_iff credential browser fewer rfl
  | verifyAuthentication credential =>
    exact iff_of_true (verifyAuthentication_endsRight credential browser fewer rfl) trivial
  | socialCallback callback => exact socialCallback_endsRight_iff callback browser fewer rfl
  | oidcLogin form => exact oidcLogin_endsRight_iff form browser fewer rfl
  | newDeviceVerify uid body =>
    simp only [handle, LeavesRight]
    cases verificationCode body with
    | none => exact iff_of_true (endsRight_silent rfl browser) (by rintro _ ⟨⟩)
    | some code =>
      simp only [Option.mem_some_iff, forall_eq']
      exact newDeviceVerify_endsRight_iff uid code browser fewer rfl
  | oidcSocialCallback =>
    exact iff_of_true (oidcSocialCallback_endsRight browser fewer rfl) trivial
  | tier1Complete => exact tier1Complete_endsRight_iff browser fewer rfl
  | processMfaSelect _ | mfaWebAuthnOptions | getAuthenticationOptions | mfa _ _ _ _
  | processRecoverySecurityQuestions | processRecoveryBackupCodes _ | processRecoveryVerifyCode _ =>
    exact iff_of_true (unreported fun _ => rfl) trivial

def adasAccount : SessionUserAccount Unit where
  id := "665f1c2e9b1e8a0012ab34cd"
  username := "ada"
  last_used := none
  profile := ()

def passkeySession : BrowserSession Unit :=
  { BrowserSession.blank "fixed" with
    pendingMfaUser := some ⟨adasAccount, some .webauthn, [.webauthn], none⟩
    webauthnChallenge := some "challenge" }

def passkeyServices : Services Unit :=
  { servicesOf ada with getCredentials := fun _ => .ok ["credential"] }

def bobsSession : BrowserSession Unit :=
  { BrowserSession.blank "fixed" with
    isAuthenticated := true
    accounts :=
      { authenticatedUsers := some
          { active := some { adasAccount with id := "665f1c2e9b1e8a0012ab34ce", username := "bob" }
            others := some [adasAccount] }
        accountId := some "bob"
        pendingSwitchUserId := none } }

def reauthSettings : Settings := { plainSettings with session := ⟨none, none, some true⟩ }

theorem not_endsRight {reports : Response → Bool} {verified : SessionUserAccount Profile}
    {account : Option (SessionUserAccount Profile)} {before : List String}
    {ending : Except SignInError Response × Browser Profile} {response : Response}
    {session : BrowserSession Profile} (isResponse : ending.1 = .ok response)
    (reported : reports response = true) (isAccount : account = some verified)
    (isSession : ending.2.session = some session)
    (wrong : (session.isAuthenticated && (getActiveUser session.accounts).any fun active =>
      sameAccount active verified) = false) :
    ¬EndsRight reports account before ending := by
  intro endsRight
  obtain ⟨same, isSame, other, isOther, isMarked, isActive, _⟩ :=
    endsRight response isResponse reported
  rw [isAccount, Option.some.injEq] at isSame
  rw [isSession, Option.some.injEq] at isOther
  rw [isOther, isMarked, isSame, isActive] at wrong
  cases wrong

theorem login_reported_wrongly :
    let passkey := SignInRequest.processMfaWebAuthn (some "credential")
    let byPasskey := outcome (handle plainSettings passkeyServices passkey)
      ⟨some passkeySession, []⟩
    let password := SignInRequest.oidcLogin ⟨"uid", some ("ada@example.com", "secret"), []⟩
    let byPassword := outcome (handle reauthSettings (servicesOf ada) password)
      ⟨some bobsSession, []⟩
    byPasskey.1 = .ok (.json 200 none) ∧
      byPasskey.2.session.map BrowserSession.isAuthenticated = some false ∧
      byPassword.1 = .ok (.finished "ada" ["pwd"] (some "urn:pwd")) ∧
      (byPassword.2.session.bind fun session => getActiveUser session.accounts).map
        SessionUserAccount.username = some "bob" ∧
      ¬EndsRight passkey.reportsSuccess
        (passkey.account plainSettings passkeyServices (some passkeySession))
        (listedBefore (some passkeySession)) byPasskey ∧
      ¬EndsRight password.reportsSuccess
        (password.account reauthSettings (servicesOf ada) (some bobsSession))
        (listedBefore (some bobsSession)) byPassword := by
  intro passkey byPasskey password byPassword
  refine ⟨rfl, rfl, rfl, rfl, ?_, ?_⟩
  · exact not_endsRight rfl rfl rfl rfl rfl
  · exact not_endsRight rfl rfl rfl rfl rfl

end ParakoId.SignIn
