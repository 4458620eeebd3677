import ParakoId.SignIn.ActiveAccounts

/-! How the logins of the portal end. -/

namespace ParakoId.SignIn

open Calls (Call Keeps outcome left keeps_pure outcome_bind)
open SecondFactors (MfaMethod)
open SessionAccounts (SessionConfig SessionUserAccount AddRefusal sameAccount getActiveUser)

variable {Profile : Type}

section Passwords

variable (settings : Settings) (services : Services Profile)
  {acc : Option (SessionUserAccount Profile)} {before : List String}

theorem arrives_added (page : Option String) (refusal : Option AddRefusal) :
    (Response.redirect (page.elim .dashboard .address) (refusal.map refusalMessage)).arrives =
      refusal.isNone := by
  have anyPage : (Response.redirect (page.elim .dashboard .address)
      (refusal.map refusalMessage)).arrives =
        (Response.redirect .dashboard (refusal.map refusalMessage)).arrives := by
    cases page <;> rfl
  rw [anyPage]
  rcases refusal with _ | _ | _ | _ <;> decide

variable {settings services}

variable {account : SessionUserAccount Profile} {browser : Browser Profile}

section

variable (isAccount : acc = some account) (fewer : ListsOnly before browser)
include isAccount fewer

theorem added_endsRight_iff (page : Option String)
    {next : Option AddRefusal → Action Profile Response}
    (answers : ∀ refusal middle, ∃ after, outcome (next refusal) middle =
        (.ok (.redirect (page.elim .dashboard .address) (refusal.map refusalMessage)), after) ∧
      (SignedIn account before after ↔ SignedIn account before middle)) :
    EndsRight Response.arrives acc before
        (outcome (addAuthenticatedUser settings.session services.now account true >>= next)
          browser) ↔
      AddsMarked settings browser.session account := by
  obtain ⟨_ | session, deeds⟩ := browser
  · rw [outcome_bind, outcome_addAuthenticatedUser_none]
    refine iff_of_true (endsRight_error _ _) ?_
    intro left isLeft
    cases isLeft
  · have added := added_signedIn_iff settings.session services.now account deeds
      (fewer session rfl)
    have only : AddsMarked settings (some session) account ↔
        (CanAdd settings.session session.accounts account → session.isAuthenticated = true) := by
      constructor
      · exact fun adds => adds session rfl
      · rintro holds _ ⟨⟩
        exact holds
    rw [only, outcome_bind, outcome_addAuthenticatedUser]
    dsimp only
    rcases addAuthenticatedUser_cases settings.session services.now session.accounts account with
      ⟨canAdd, isNone, _⟩ | ⟨cannotAdd, isSome, _⟩
    · obtain ⟨after, isAfter, same⟩ := answers (SessionAccounts.addAuthenticatedUser
        settings.session services.now session.accounts account true).2 _
      rw [isAfter, endsRight_reported (by rw [arrives_added, isNone]; rfl) isAccount, same, added]
      simp [canAdd]
    · obtain ⟨after, isAfter, _⟩ := answers (SessionAccounts.addAuthenticatedUser
        settings.session services.now session.accounts account true).2 _
      rw [isAfter]
      refine iff_of_true (endsRight_silent ?_ _) fun canAdd => absurd canAdd cannotAdd
      rw [arrives_added, Option.isNone_eq_false_iff]
      exact isSome

theorem addAccount_endsRight_iff (intent : AddAccountIntent) :
    EndsRight Response.arrives acc before
        (outcome (addAccount settings services intent account) browser) ↔
      AddsMarked settings browser.session account := by
  rw [addAccount]
  refine added_endsRight_iff isAccount fewer intent.returnUrl fun refusal middle => ⟨_, rfl, ?_⟩
  exact signedIn_map_iff (fun session => { session with addAccountIntent := none })
    (fun _ => rfl) (fun _ => rfl) middle.session middle.deeds

theorem continueLogin_endsRight (url : String) :
    EndsRight Response.arrives acc before
      (outcome (continueLogin settings services account url) browser) := by
  obtain ⟨_ | session, deeds⟩ := browser
  · rw [continueLogin, outcome_bind, outcome_addAuthenticatedUser_none]
    exact endsRight_error _ _
  · rw [continueLogin, outcome_bind, outcome_addAuthenticatedUser]
    dsimp only
    have beside : ListsBeside account before ⟨some { session with
        accounts := (SessionAccounts.addAuthenticatedUser settings.session services.now
          session.accounts account true).1 }, deeds⟩ := by
      rintro _ ⟨⟩
      rcases addAuthenticatedUser_cases settings.session services.now session.accounts account with
        ⟨_, _, isActive, listed⟩ | ⟨_, _, unchanged⟩
      · refine ⟨fun other isOther => fewer session rfl _ (listed other isOther), ?_⟩
        intro active isUser
        dsimp only at isUser
        rw [isUser] at isActive
        exact .inl isActive
      · rw [unchanged]
        exact fewer.beside account session rfl
    by_cases isFull : (SessionAccounts.addAuthenticatedUser settings.session services.now
        session.accounts account true).2 = some .max_limit_reached
    · rw [isFull]
      exact endsRight_silent (arrives_added (some url) (some .max_limit_reached)) _
    · simp only [ne_eq, isFull, not_false_eq_true, if_true]
      exact endsRight_authenticate isAccount beside (keeps_pure _)

theorem regenerated_endsRight {reports : Response → Bool} {next : Unit → Action Profile Response}
    (keeps : Keeps (SignedIn account before) (next ())) :
    EndsRight reports acc before
      (outcome (regenerateOrLog services.regeneration >>= fun _ =>
        authenticate settings services account >>= next) browser) := by
  rw [outcome_bind, outcome_regenerateOrLog]
  exact endsRight_authenticate isAccount
    ((listsOnly_regenerated fewer services.regeneration).beside account) keeps

theorem completeLogin_endsRight_iff (continueUrl : Option String) :
    EndsRight Response.arrives acc before
        (outcome (completeLogin settings services account continueUrl) browser) ↔
      ((browser.session.bind adding).isSome → AddsMarked settings browser.session account) := by
  rw [completeLogin, outcome_bind, outcome_get]
  dsimp only
  cases isAdding : browser.session.bind adding with
  | some intent =>
    dsimp only
    rw [Option.isSome_some, imp_iff_right rfl]
    exact addAccount_endsRight_iff isAccount fewer intent
  | none =>
    refine iff_of_true ?_ (by rintro ⟨⟩)
    dsimp only
    rw [outcome_bind, outcome_get]
    dsimp only
    cases continueUrl with
    | some url => exact continueLogin_endsRight isAccount fewer url
    | none =>
      cases browser.session.bind BrowserSession.loginIntent with
      | none =>
        apply regenerated_endsRight isAccount fewer
        exact keeps_pure _
      | some url =>
        rw [outcome_bind, outcome_remove]
        refine regenerated_endsRight isAccount (listsOnly_map fewer _ ?_ _) ?_
        · exact fun _ => rfl
        · exact keeps_pure _

end

theorem secondFactorPage_silent (user : User Profile) :
    (secondFactorPage services user).arrives = false := by
  rw [secondFactorPage]
  split
  · rfl
  · split
    · split <;> rfl
    · rfl
    · rfl

theorem requestSecondFactor_endsRight
    (keep : PendingMfaUser Profile → BrowserSession Profile → BrowserSession Profile)
    (user : User Profile) (continueUrl : Option String) (browser : Browser Profile) :
    EndsRight Response.arrives acc before
      (outcome (requestSecondFactor services keep user continueUrl) browser) := by
  obtain ⟨_ | session, deeds⟩ := browser
  · exact endsRight_error _ _
  · rw [requestSecondFactor, outcome_bind, outcome_set]
    exact endsRight_silent (secondFactorPage_silent user) _

theorem listsOnly_noting (fewer : ListsOnly before browser) (deed : Deed) :
    ListsOnly before (browser.noting deed) := fewer

theorem loginError_silent (error : SignInError) : (loginError services error).arrives = false := by
  simp only [loginError]
  split
  · split <;> rfl
  · rfl

theorem password_endsRight_iff {reports : Response → Bool} {unavailable invalid : Response}
    (silent : reports unavailable = false) (silentToo : reports invalid = false)
    (method : LoginMethod) (identifier password : String)
    (next : User Profile → Action Profile Response) (browser : Browser Profile) :
    EndsRight reports acc before
        (outcome (do
          if method.label ∉ settings.login_methods then return unavailable
          match ← ask (services.loginWith method identifier password) with
          | none => return invalid
          | some user => next user) browser) ↔
      ∀ user, passwordUser settings services method identifier password = some user →
        EndsRight reports acc before (outcome (next user) browser) := by
  rw [passwordUser]
  by_cases isAllowed : method.label ∈ settings.login_methods
  · rw [if_neg (not_not.mpr isAllowed), if_pos isAllowed, outcome_bind, outcome_ask]
    rcases services.loginWith method identifier password with error | _ | user
    · exact iff_of_true (endsRight_error _ _) (by rintro _ ⟨⟩)
    · exact iff_of_true (endsRight_silent silentToo _) (by rintro _ ⟨⟩)
    · constructor
      · rintro holds _ ⟨⟩
        exact holds
      · exact fun all => all user rfl
  · rw [if_pos isAllowed, if_neg isAllowed]
    exact iff_of_true (endsRight_silent silent _) (by rintro _ ⟨⟩)

theorem passwordAccepted_endsRight_iff {user : User Profile}
    (isAccount : acc = some (accountOf services user)) (fewer : ListsOnly before browser)
    (continueUrl : Option String) :
    EndsRight Response.arrives acc before
        (outcome (passwordAccepted settings services user continueUrl) browser) ↔
      (isMfaEnabled user = false → (browser.session.bind adding).isSome →
        AddsMarked settings browser.session (accountOf services user)) := by
  rw [passwordAccepted, outcome_bind, outcome_note]
  dsimp only
  cases isMfaEnabled user with
  | true => exact iff_of_true (requestSecondFactor_endsRight _ _ _ _) (by rintro ⟨⟩)
  | false =>
    rw [imp_iff_right rfl]
    exact completeLogin_endsRight_iff isAccount (listsOnly_noting fewer _) continueUrl

theorem processLogin_endsRight_iff (form : LoginForm) (browser : Browser Profile)
    (fewer : ListsOnly before browser)
    (isAccount : acc = (form.user settings services).map (accountOf services)) :
    EndsRight Response.arrives acc before
        (outcome (processLogin settings services form) browser) ↔
      LeavesRight settings services browser.session (.processLogin form) := by
  rw [processLogin, LeavesRight]
  refine (endsRight_tryCatch fun error middle =>
    endsRight_silent (loginError_silent error) middle).trans ?_
  rw [LoginForm.user] at isAccount ⊢
  cases isIdentified : form.identifier services with
  | none => exact iff_of_true (endsRight_silent rfl _) (by rintro _ ⟨⟩)
  | some found =>
    obtain ⟨method, identifier⟩ := found
    rw [isIdentified] at isAccount
    refine (password_endsRight_iff rfl rfl method identifier form.password _ browser).trans ?_
    refine forall_congr' fun user => imp_congr_right fun isUser => ?_
    dsimp only [Option.bind_some] at isAccount
    rw [isUser] at isAccount
    exact passwordAccepted_endsRight_iff isAccount fewer form.continueUrl

end Passwords

section Codes

variable {settings : Settings} {services : Services Profile}
  {acc : Option (SessionUserAccount Profile)} {before : List String}

theorem finishMfa_keeps (account : SessionUserAccount Profile) (pending : PendingMfaUser Profile)
    (continueUrl : Option String) :
    Keeps (SignedIn account before) (finishMfa pending continueUrl) := by
  apply Keeps.bind (signedIn_get _)
  intro intent
  cases intent with
  | some intent =>
    exact Keeps.bind (signedIn_remove (fun _ => rfl) fun _ => rfl) fun _ => keeps_pure _
  | none =>
    apply Keeps.bind (signedIn_get _)
    intro redirectUrl
    cases pending.continue_url.or continueUrl with
    | some url => exact keeps_pure _
    | none =>
      cases redirectUrl with
      | some url =>
        exact Keeps.bind (signedIn_remove (fun _ => rfl) fun _ => rfl) fun _ => keeps_pure _
      | none => exact keeps_pure _

variable {reports : Response → Bool} {pending : PendingMfaUser Profile}
  {browser : Browser Profile}

theorem codeAccepted_endsRight (isAccount : acc = some (usedNow services pending.account))
    (fewer : ListsOnly before browser) (method : MfaMethod) (continueUrl : Option String) :
    EndsRight reports acc before
      (outcome (codeAccepted settings services pending method continueUrl) browser) := by
  rw [codeAccepted, outcome_bind, outcome_note]
  apply regenerated_endsRight isAccount (listsOnly_noting fewer _)
  exact Keeps.bind (signedIn_remove (fun _ => rfl) fun _ => rfl) fun _ =>
    finishMfa_keeps _ pending continueUrl

theorem processMfaVerify_endsRight (code : String) (continueUrl : Option String)
    (browser : Browser Profile) (fewer : ListsOnly before browser)
    (isAccount : acc = (browser.session.bind pendingUser).map fun pending =>
      usedNow services pending.account) :
    EndsRight Response.arrives acc before
      (outcome (processMfaVerify settings services code continueUrl) browser) := by
  rw [processMfaVerify]
  refine (endsRight_tryCatch fun error middle => endsRight_silent rfl middle).mpr ?_
  rw [outcome_bind, outcome_get]
  dsimp only
  cases isPending : browser.session.bind pendingUser with
  | none => exact endsRight_silent rfl _
  | some pending =>
    rw [isPending] at isAccount
    dsimp only
    by_cases isEmpty : Schemas.trim code = ""
    · simp only [isEmpty, if_true]
      exact endsRight_silent rfl _
    · simp only [isEmpty, if_false]
      cases isMethod : pending.mfa_method with
      | none => exact endsRight_silent rfl _
      | some method =>
        cases isValid : verifyCode services method pending.account.username
            (Schemas.trim code) with
        | false =>
          cases method with
          | webauthn => exact endsRight_silent rfl _
          | totp =>
            simp only [isValid, Bool.false_eq_true, if_false]
            exact endsRight_silent rfl _
          | email =>
            simp only [isValid, Bool.false_eq_true, if_false]
            exact endsRight_silent rfl _
        | true =>
          cases method with
          | webauthn => cases isValid
          | totp =>
            simp only [isValid, if_true]
            exact codeAccepted_endsRight isAccount fewer _ continueUrl
          | email =>
            simp only [isValid, if_true]
            exact codeAccepted_endsRight isAccount fewer _ continueUrl

theorem passkeyAccepted_endsRight (isAccount : acc = some (usedNow services pending.account))
    (fewer : ListsOnly before browser) :
    EndsRight reports acc before
      (outcome (passkeyAccepted settings services pending) browser) := by
  rw [passkeyAccepted, outcome_bind, outcome_note]
  apply regenerated_endsRight isAccount (listsOnly_noting fewer _)
  exact Keeps.bind (signedIn_remove (fun _ => rfl) fun _ => rfl) fun _ => keeps_pure _

theorem getChallenge_fewer {middle : Browser Profile} {challenge : Option String}
    (fewer : ListsOnly before browser)
    (isOutcome : outcome (getChallenge services) browser = (.ok challenge, middle)) :
    ListsOnly before middle := by
  obtain ⟨session, deeds⟩ := browser
  simp only [getChallenge, outcome_bind, outcome_get] at isOutcome
  cases isData : session.bind BrowserSession.webauthn_challenge with
  | none =>
    rw [isData] at isOutcome
    cases isOutcome
    exact fewer
  | some data =>
    rw [isData] at isOutcome
    dsimp only at isOutcome
    by_cases isExpired : data.expiresAt < services.now
    · simp only [isExpired, if_true, outcome_bind, outcome_remove] at isOutcome
      cases isOutcome
      exact listsOnly_map fewer forgetChallenge (fun _ => rfl) deeds
    · simp only [isExpired, if_false] at isOutcome
      cases isOutcome
      exact fewer

theorem verifyAuthentication_endsRight (credential : Option String) (browser : Browser Profile)
    (fewer : ListsOnly before browser)
    (isAccount : acc = (browser.session.bind pendingUser).map fun pending =>
      usedNow services pending.account) :
    EndsRight Response.succeeds acc before
      (outcome (verifyAuthentication settings services credential) browser) := by
  rw [verifyAuthentication]
  refine (endsRight_tryCatch fun error middle => endsRight_silent rfl middle).mpr ?_
  rw [outcome_bind, outcome_get]
  dsimp only
  cases isPending : browser.session.bind pendingUser with
  | none => exact endsRight_silent rfl _
  | some pending =>
    rw [isPending] at isAccount
    dsimp only
    rw [outcome_bind]
    generalize isChallenge : outcome (getChallenge services) browser = answered
    rcases answered with ⟨error | _ | challenge, middle⟩
    · exact endsRight_error error middle
    · exact endsRight_silent rfl _
    · have fewerThen := getChallenge_fewer fewer isChallenge
      cases credential with
      | none => exact endsRight_silent rfl _
      | some credential =>
        dsimp only
        rw [outcome_bind, outcome_matchingCredential]
        cases services.getCredentials pending.account.username with
        | error error => exact endsRight_error error middle
        | ok stored =>
          by_cases isStored : credential ∈ stored
          · simp only [isStored, if_true]
            rw [outcome_bind, outcome_remove]
            dsimp only
            cases services.verifyAuthentication credential challenge with
            | false => exact endsRight_silent rfl _
            | true =>
              simp only [if_true]
              cases services.updateCredential pending.account.username credential with
              | error error => exact endsRight_silent rfl _
              | ok =>
                exact passkeyAccepted_endsRight isAccount
                  (listsOnly_map fewerThen forgetChallenge (fun _ => rfl) _)
          · simp only [isStored, if_false]
            exact endsRight_silent rfl _

theorem regeneratedSession_map (write : BrowserSession Profile → BrowserSession Profile)
    (sameMark : ∀ session, (write session).isAuthenticated = session.isAuthenticated)
    (sameAccounts : ∀ session, (write session).accounts = session.accounts)
    (session : Option (BrowserSession Profile)) (regeneration : Regeneration)
    (property : Bool → SessionAccounts.Session Profile → Prop) :
    (∀ left, regeneratedSession (session.map write) regeneration = some left →
        property left.isAuthenticated left.accounts) ↔
      ∀ left, regeneratedSession session regeneration = some left →
        property left.isAuthenticated left.accounts := by
  have kept {first second : BrowserSession Profile}
      (sameMarks : first.isAuthenticated = second.isAuthenticated)
      (sameLists : first.accounts = second.accounts) :
      (∀ left, some first = some left → property left.isAuthenticated left.accounts) ↔
        ∀ left, some second = some left → property left.isAuthenticated left.accounts := by
    simp only [Option.some.injEq, forall_eq', sameMarks, sameLists]
  cases session with
  | none => exact Iff.rfl
  | some session =>
    cases regeneration with
    | issues id => exact kept (sameMark session) (sameAccounts session)
    | fails message remains =>
      cases remains with
      | kept => exact kept (sameMark session) (sameAccounts session)
      | blank _ | gone => exact Iff.rfl

def AddsOrIsActive (config : SessionConfig) (isMarked : Bool)
    (accounts : SessionAccounts.Session Profile) (account : SessionUserAccount Profile) : Prop :=
  isMarked = true ∧ (CanAdd config accounts account ∨
    (getActiveUser accounts).any (fun active => sameAccount active account) = true)

theorem addedThen_endsRight_iff {response : Response} (reported : reports response = true)
    {account : SessionUserAccount Profile} (isAccount : acc = some account)
    (fewer : ListsOnly before browser) :
    EndsRight reports acc before
        (outcome (do
          let _ ← addAuthenticatedUser settings.session services.now account true
          remove forgetPendingUsers
          return response) browser) ↔
      ∀ left, browser.session = some left →
        AddsOrIsActive settings.session left.isAuthenticated left.accounts account := by
  obtain ⟨_ | session, deeds⟩ := browser
  · rw [outcome_bind, outcome_addAuthenticatedUser_none]
    refine iff_of_true (endsRight_error _ _) ?_
    intro left isLeft
    cases isLeft
  · have added := added_signedIn_iff settings.session services.now account deeds
      (fewer session rfl)
    simp only [outcome_bind, outcome_addAuthenticatedUser, outcome_remove,
      Calls.outcome_pure, Option.some.injEq, forall_eq']
    rw [endsRight_reported reported isAccount,
      signedIn_map_iff forgetPendingUsers (fun _ => rfl) (fun _ => rfl), added]
    exact Iff.rfl

theorem passkeyAdded_endsRight_iff (reported : reports (.json 200 none) = true)
    (isAccount : acc = some (usedNow services pending.account))
    (fewer : ListsOnly before browser) :
    EndsRight reports acc before
        (outcome (passkeyAdded settings services pending) browser) ↔
      ∀ left, regeneratedSession browser.session services.regeneration = some left →
        AddsOrIsActive settings.session left.isAuthenticated left.accounts
          (usedNow services pending.account) := by
  rw [← regeneratedSession_map (fun session => { session with webauthnChallenge := none })
    (fun _ => rfl) (fun _ => rfl) browser.session services.regeneration
    fun isMarked accounts =>
      AddsOrIsActive settings.session isMarked accounts (usedNow services pending.account)]
  have fewerThen := listsOnly_map fewer
    (fun session : BrowserSession Profile => { session with webauthnChallenge := none })
    (fun _ => rfl) browser.deeds
  obtain ⟨_ | session, deeds⟩ := browser
  · refine iff_of_true (endsRight_error _ _) ?_
    intro left isLeft
    cases isLeft
  · rw [passkeyAdded, outcome_bind, outcome_set]
    dsimp only at fewerThen ⊢
    rw [outcome_bind, outcome_note]
    dsimp only
    rw [outcome_bind, outcome_regenerateOrLog]
    have fewerLeft := listsOnly_regenerated (listsOnly_noting fewerThen
      (.secondFactorVerified pending.account.username .webauthn)) services.regeneration
    refine (addedThen_endsRight_iff reported isAccount fewerLeft).trans ?_
    rw [regenerated_session]
    rfl

theorem processMfaWebAuthn_endsRight_iff (credential : Option String) (browser : Browser Profile)
    (fewer : ListsOnly before browser)
    (isAccount : acc = (browser.session.bind pendingUser).map fun pending =>
      usedNow services pending.account) :
    EndsRight Response.succeeds acc before
        (outcome (processMfaWebAuthn settings services credential) browser) ↔
      LeavesRight settings services browser.session (.processMfaWebAuthn credential) := by
  rw [processMfaWebAuthn, LeavesRight]
  refine (endsRight_tryCatch fun error middle => endsRight_silent rfl middle).trans ?_
  rw [outcome_bind, outcome_get]
  dsimp only
  cases isPending : browser.session.bind pendingUser with
  | none =>
    refine iff_of_true (endsRight_silent rfl _) ?_
    intro _ _ isOther
    cases isOther
  | some pending =>
    rw [isPending] at isAccount
    have unsigned (isFalse : signsChallenge services browser.session pending.account.username
        credential = false) : ∀ other left, some pending = some other →
          signsChallenge services browser.session other.account.username credential = true →
          regeneratedSession browser.session services.regeneration = some left →
            AddsOrIsActive settings.session left.isAuthenticated left.accounts
              (usedNow services other.account) := by
      rintro _ left ⟨⟩ isSigned
      rw [isFalse] at isSigned
      cases isSigned
    dsimp only
    rw [outcome_bind, outcome_get]
    dsimp only
    cases isChallenge : browser.session.bind BrowserSession.webauthnChallenge with
    | none =>
      refine iff_of_true (endsRight_silent rfl _) (unsigned ?_)
      rw [signsChallenge, isChallenge]
      rfl
    | some challenge =>
      cases credential with
      | none =>
        refine iff_of_true (endsRight_silent rfl _) (unsigned ?_)
        rw [signsChallenge, isChallenge]
        rfl
      | some credential =>
        have isSigned : signsChallenge services browser.session pending.account.username
            (some credential) =
              (((services.getCredentials pending.account.username).toOption.getD []).contains
                credential && services.verifyAuthentication credential challenge) := by
          rw [signsChallenge, isChallenge]
          rfl
        dsimp only
        rw [outcome_bind, outcome_matchingCredential]
        cases isStored : services.getCredentials pending.account.username with
        | error error =>
          rw [isStored] at isSigned
          exact iff_of_true (endsRight_error error browser) (unsigned isSigned)
        | ok stored =>
          rw [isStored] at isSigned
          by_cases isMatch : credential ∈ stored
          · simp only [isMatch, if_true]
            cases isVerified : services.verifyAuthentication credential challenge with
            | false =>
              rw [isVerified, Bool.and_false] at isSigned
              exact iff_of_true (endsRight_silent rfl _) (unsigned isSigned)
            | true =>
              simp only [Except.toOption, Option.getD_some, List.contains_iff_mem.mpr
                isMatch, isVerified, Bool.and_true] at isSigned
              rw [if_pos rfl]
              refine (passkeyAdded_endsRight_iff rfl isAccount fewer).trans ?_
              constructor
              · rintro holds _ left ⟨⟩ _ isLeft
                exact holds left isLeft
              · exact fun all left isLeft => all pending left rfl isSigned isLeft
          · simp only [isMatch, if_false]
            have notStored : stored.contains credential = false := by
              simpa using isMatch
            simp only [Except.toOption, Option.getD_some, notStored,
              Bool.false_and] at isSigned
            exact iff_of_true (endsRight_silent rfl _) (unsigned isSigned)

end Codes

end ParakoId.SignIn
