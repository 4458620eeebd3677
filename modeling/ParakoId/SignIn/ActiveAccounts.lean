import ParakoId.SignIn.SecondFactorFirst

/-!
Which account is active once a login reports success, and whether the session is marked then.
-/

namespace ParakoId.SignIn

open Calls (Call Keeps outcome left keeps_pure)
open SecondFactors (MfaMethod)
open SessionAccounts (SessionConfig SessionUserAccount AuthenticatedUsers AddRefusal sameAccount
  isNamed getActiveUser maxAccountsPerSession usedAt)

section ActiveAccounts

variable {Profile : Type}

def Response.arrives : Response → Bool
  | .redirect .dashboard notice | .redirect (.address _) notice =>
    notice ≠ some (refusalMessage .max_limit_reached) &&
      notice ≠ some (refusalMessage .already_exists)
  | _ => false

def Response.isFinished : Response → Bool
  | .finished _ _ _ => true
  | _ => false

def Response.succeeds : Response → Bool
  | .json 200 none => true
  | _ => false

def Response.resumes : Response → Bool
  | .redirect (.interaction _) none | .redirect .dashboard none => true
  | _ => false

def SignInRequest.reportsSuccess : SignInRequest → Response → Bool
  | .processLogin _, response | .processMfaVerify _ _, response | .socialCallback _, response =>
    response.arrives
  | .processMfaWebAuthn _, response | .verifyAuthentication _, response =>
    response.succeeds
  | .oidcLogin _, response | .newDeviceVerify _ _, response => response.isFinished
  | .oidcSocialCallback, response | .tier1Complete, response => response.resumes
  | _, _ => false

section Accounts

variable (settings : Settings) (services : Services Profile)
  (session : Option (BrowserSession Profile))

def LoginForm.user (form : LoginForm) : Option (User Profile) :=
  (form.identifier services).bind fun (method, identifier) =>
    passwordUser settings services method identifier form.password

def OidcLoginForm.user (form : OidcLoginForm) : Option (User Profile) :=
  form.credentials.bind fun (identifier, password) =>
    passwordUser settings services (services.detectIdentifierType identifier) identifier password

def SocialLoginResult.loginUser (result : SocialLoginResult Profile) : Option (User Profile) :=
  if result.success then result.user else services.registerSocialUser.toOption.join

def SignInRequest.account : SignInRequest → Option (SessionUserAccount Profile)
  | .processLogin form => (form.user settings services).map (accountOf services)
  | .processMfaVerify _ _ | .processMfaWebAuthn _ | .verifyAuthentication _ =>
    (session.bind pendingUser).map fun pending => usedNow services pending.account
  | .oidcLogin form => (form.user settings services).map (accountOf services)
  | .newDeviceVerify _ _ =>
    (session.bind BrowserSession.pendingNewDeviceVerification).map
      PendingNewDeviceVerification.userAccount
  | .socialCallback _ =>
    (services.handleCallback.toOption.bind (SocialLoginResult.loginUser services)).map
      (userAccountOf services)
  | .oidcSocialCallback =>
    (services.handleCallback.toOption.bind SocialLoginResult.user).map (accountOf services)
  | .tier1Complete =>
    (services.completeTier1.toOption.bind SocialLoginResult.user).bind fun user =>
      SessionAccounts.userAccount services.now
        { id := user.id, _id := user._id, username := user.username, profile := user.profile }
  | _ => none

end Accounts

def SignedIn (account : SessionUserAccount Profile) (before : List String)
    (browser : Browser Profile) : Prop :=
  ∃ session, browser.session = some session ∧ session.isAuthenticated = true ∧
    (getActiveUser session.accounts).any (fun active => sameAccount active account) = true ∧
    ∀ other ∈ session.accounts.others, other.username ∈ before

def EndsRight (reports : Response → Bool) (account : Option (SessionUserAccount Profile))
    (before : List String) (ending : Except SignInError Response × Browser Profile) : Prop :=
  ∀ response, ending.1 = .ok response → reports response = true →
    ∃ verified, account = some verified ∧ SignedIn verified before ending.2

def CanAdd (config : SessionConfig) (accounts : SessionAccounts.Session Profile)
    (account : SessionUserAccount Profile) : Prop :=
  getActiveUser accounts = none ∨
    config.multipleAccountsEnabled ≠ some false ∧
      (∀ listed ∈ SessionAccounts.accounts accounts, sameAccount listed account = false) ∧
      (SessionAccounts.accounts accounts).length < maxAccountsPerSession config

def TurnsTo (config : SessionConfig) (isMarked : Bool)
    (accounts : SessionAccounts.Session Profile) (account : SessionUserAccount Profile) : Prop :=
  ∀ existing, accounts.authenticatedUsers = some existing →
    match accountExists existing account with
    | none => True
    | some false => CanAdd config accounts account → isMarked = true
    | some true =>
      if existing.active.any (fun active => sameAccount active account) then isMarked = true
      else ∀ active others found, existing = ⟨some active, some others⟩ →
        others.find? (isNamed account.id) = some found →
          isMarked = true ∧ config.require_reauth_on_switch ≠ some true ∧
            sameAccount found account = true

section Conditions

variable (settings : Settings) (services : Services Profile)
  (session : Option (BrowserSession Profile))

def regeneratedSession (regeneration : Regeneration) : Option (BrowserSession Profile) :=
  match session, regeneration with
  | some session, .issues id => some { session with id }
  | some session, .fails _ remains => remains.of session
  | none, _ => none

def signsChallenge (username : String) (credential : Option String) : Bool :=
  (session.bind BrowserSession.webauthnChallenge).any fun challenge =>
    credential.any fun credential =>
      ((services.getCredentials username).toOption.getD []).contains credential &&
        services.verifyAuthentication credential challenge

def AddsMarked (account : SessionUserAccount Profile) : Prop :=
  ∀ left, session = some left → CanAdd settings.session left.accounts account →
    left.isAuthenticated = true

def LeavesRight : SignInRequest → Prop
  | .processLogin form => ∀ user, form.user settings services = some user →
      isMfaEnabled user = false → (session.bind adding).isSome →
        AddsMarked settings session (accountOf services user)
  | .processMfaWebAuthn credential => ∀ pending left, session.bind pendingUser = some pending →
      signsChallenge services session pending.account.username credential = true →
      regeneratedSession session services.regeneration = some left →
        left.isAuthenticated = true ∧
          (CanAdd settings.session left.accounts (usedNow services pending.account) ∨
            (getActiveUser left.accounts).any (fun active =>
              sameAccount active (usedNow services pending.account)) = true)
  | .oidcLogin form => ∀ user left, form.user settings services = some user →
      isKnownDevice settings services user = true → regenerates services session = true →
      session = some left →
        TurnsTo settings.session left.isAuthenticated left.accounts (accountOf services user)
  | .newDeviceVerify uid body => ∀ code ∈ verificationCode body, ∀ pending left,
      acceptedDevice services session uid code = some pending →
      regeneratedSession session services.regeneration = some left →
        TurnsTo settings.session left.isAuthenticated left.accounts pending.userAccount
  | .socialCallback callback => answersSocial services session callback = true →
      ∀ result user, services.handleCallback = .ok result → result.success = true →
      result.user = some user → requiresVerification settings user = false →
      isMfaEnabled user = false →
        ((session.bind adding).isSome →
          AddsMarked settings session (userAccountOf services user)) ∧
        (session.bind adding = none → callback.continueUrl.isSome →
          AddsMarked settings (regeneratedSession session services.regeneration)
            (userAccountOf services user))
  | .tier1Complete => ∀ result, services.completeTier1 = .ok result → result.success = true →
      regenerates services session = true → result.user.isSome
  | _ => True

end Conditions

variable {accounts : SessionAccounts.Session Profile}

theorem others_listed {other : SessionUserAccount Profile} (isOther : other ∈ accounts.others) :
    other.username ∈ usernames accounts :=
  mem_usernames.mpr (.inr (List.mem_map_of_mem isOther))

theorem active_listed {active : SessionUserAccount Profile}
    (isActive : getActiveUser accounts = some active) : active.username ∈ usernames accounts :=
  mem_usernames.mpr (.inl (by rw [isActive]; rfl))

theorem mem_accounts {active : SessionUserAccount Profile}
    (isActive : getActiveUser accounts = some active) :
    SessionAccounts.accounts accounts = active :: accounts.others := by
  rw [SessionAccounts.accounts, isActive]
  rfl

def ListsBeside (account : SessionUserAccount Profile) (before : List String)
    (browser : Browser Profile) : Prop :=
  ∀ session, browser.session = some session →
    (∀ other ∈ session.accounts.others, other.username ∈ before) ∧
      ∀ active, getActiveUser session.accounts = some active →
        sameAccount active account = true ∨ active.username ∈ before

theorem marked_signedIn {config : SessionConfig} {now : Nat}
    {user : SessionAccounts.SessionAuthenticationAccount Profile}
    {account : SessionUserAccount Profile} {before : List String}
    {browser after : Browser Profile}
    (isAccount : SessionAccounts.userAccount now user = some account)
    (beside : ListsBeside account before browser)
    (isMarked : marked config now user browser = (.ok (), after)) :
    SignedIn account before after := by
  obtain ⟨_ | session, deeds⟩ := browser
  · simp only [marked, isAccount, Prod.mk.injEq] at isMarked
    cases isMarked.1
  · simp only [marked, isAccount, SessionAccounts.setAuthenticated, Option.bind_some,
      Prod.mk.injEq, true_and] at isMarked
    subst isMarked
    refine ⟨_, rfl, rfl, ?_, ?_⟩
    · simp [getActiveUser, sameAccount]
    · intro other isOther
      obtain ⟨listed, isBeside⟩ := beside session rfl
      simp only [SessionAccounts.Session.others, Option.bind_some, Option.getD_some] at isOther
      cases isUsers : session.accounts.authenticatedUsers with
      | none =>
        simp only [isUsers] at isOther
        cases isOther
      | some existing =>
        have isOthers : session.accounts.others = existing.others.getD [] := by
          simp [SessionAccounts.Session.others, isUsers]
        have isActive : getActiveUser session.accounts = existing.active := by
          simp [getActiveUser, isUsers]
        rw [isOthers] at listed
        rw [isActive] at isBeside
        have remains (kept : other ∈ (existing.others.getD []).eraseP (sameAccount account)) :
            other.username ∈ before := listed other (List.mem_of_mem_eraseP kept)
        simp only [isUsers] at isOther
        split at isOther
        · cases isOther
        · rw [SessionAccounts.othersAfter] at isOther
          cases isUser : existing.active with
          | none =>
            simp only [isUser] at isOther
            exact remains isOther
          | some active =>
            simp only [isUser] at isOther
            split at isOther
            · exact remains isOther
            · rename_i apart
              rcases List.mem_append.mp isOther with kept | isLast
              · exact remains kept
              · rw [List.mem_singleton.mp isLast]
                exact (isBeside active isUser).resolve_left apart

theorem addAuthenticatedUser_cases (config : SessionConfig) (now : Nat)
    (accounts : SessionAccounts.Session Profile) (account : SessionUserAccount Profile) :
    let added := SessionAccounts.addAuthenticatedUser config now accounts account true
    CanAdd config accounts account ∧ added.2 = none ∧
        (getActiveUser added.1).any (fun active => sameAccount active account) = true ∧
        (∀ other ∈ added.1.others, other.username ∈ usernames accounts) ∨
      ¬CanAdd config accounts account ∧ added.2.isSome ∧ added.1 = accounts := by
  simp only [SessionAccounts.addAuthenticatedUser]
  cases isActive : getActiveUser accounts with
  | none =>
    left
    refine ⟨.inl isActive, rfl, ?_, ?_⟩
    · simp [getActiveUser, sameAccount]
    · intro other isOther
      cases isOther
  | some active =>
    have refused (isFalse : ¬(config.multipleAccountsEnabled ≠ some false ∧
        (∀ listed ∈ SessionAccounts.accounts accounts, sameAccount listed account = false) ∧
        (SessionAccounts.accounts accounts).length < maxAccountsPerSession config)) :
        ¬CanAdd config accounts account := by
      rintro (isNone | canAdd)
      · rw [isActive] at isNone
        cases isNone
      · exact isFalse canAdd
    rw [mem_accounts isActive] at refused
    dsimp only
    by_cases isDisabled : config.multipleAccountsEnabled = some false
    · rw [if_pos isDisabled]
      exact .inr ⟨refused fun canAdd => canAdd.1 isDisabled, rfl, rfl⟩
    · rw [if_neg isDisabled]
      by_cases isListed : (sameAccount active account ||
          accounts.others.any fun user => sameAccount user account) = true
      · rw [if_pos isListed]
        refine .inr ⟨refused fun canAdd => ?_, rfl, rfl⟩
        rw [Bool.or_eq_true, List.any_eq_true] at isListed
        rcases isListed with same | ⟨other, isOther, same⟩
        · rw [canAdd.2.1 active List.mem_cons_self] at same
          cases same
        · rw [canAdd.2.1 other (List.mem_cons_of_mem _ isOther)] at same
          cases same
      · rw [if_neg isListed]
        by_cases isFull : 1 + accounts.others.length ≥ maxAccountsPerSession config
        · rw [if_pos isFull]
          refine .inr ⟨refused fun canAdd => ?_, rfl, rfl⟩
          have fits := canAdd.2.2
          rw [List.length_cons] at fits
          omega
        · rw [if_neg isFull]
          left
          simp only [if_true]
          refine ⟨.inr ⟨isDisabled, ?_, ?_⟩, trivial, ?_, ?_⟩
          · intro listed isIn
            rw [mem_accounts isActive] at isIn
            rw [Bool.or_eq_true, List.any_eq_true, not_or, not_exists] at isListed
            rcases List.mem_cons.mp isIn with rfl | isOther
            · exact Bool.eq_false_iff.mpr isListed.1
            · exact Bool.eq_false_iff.mpr fun same => isListed.2 listed ⟨isOther, same⟩
          · rw [mem_accounts isActive, List.length_cons]
            omega
          · simp [getActiveUser, sameAccount, usedAt]
          · intro other isOther
            rcases List.mem_append.mp isOther with earlier | isLast
            · exact others_listed earlier
            · rw [List.mem_singleton.mp isLast]
              change active.username ∈ usernames accounts
              exact active_listed isActive

theorem added_signedIn_iff (config : SessionConfig) (now : Nat)
    {session : BrowserSession Profile} (account : SessionUserAccount Profile)
    {before : List String} (deeds : List Deed)
    (fewer : ∀ name ∈ usernames session.accounts, name ∈ before) :
    SignedIn account before ⟨some { session with
        accounts := (SessionAccounts.addAuthenticatedUser config now session.accounts account
          true).1 }, deeds⟩ ↔
      session.isAuthenticated = true ∧ (CanAdd config session.accounts account ∨
        (getActiveUser session.accounts).any (fun active => sameAccount active account) = true) := by
  rcases addAuthenticatedUser_cases config now session.accounts account with
    ⟨canAdd, _, isActive, listed⟩ | ⟨cannotAdd, _, unchanged⟩
  · constructor
    · rintro ⟨_, ⟨⟩, isMarked, _⟩
      exact ⟨isMarked, .inl canAdd⟩
    · rintro ⟨isMarked, _⟩
      exact ⟨_, rfl, isMarked, isActive, fun other isOther => fewer _ (listed other isOther)⟩
  · rw [unchanged]
    constructor
    · rintro ⟨_, ⟨⟩, isMarked, isActive, _⟩
      exact ⟨isMarked, .inr isActive⟩
    · rintro ⟨isMarked, canAdd | isActive⟩
      · exact absurd canAdd cannotAdd
      · exact ⟨_, rfl, isMarked, isActive, fun other isOther => fewer _ (others_listed isOther)⟩

section Endings

variable {reports : Response → Bool} {account : Option (SessionUserAccount Profile)}
  {before : List String}

theorem endsRight_error (error : SignInError) (after : Browser Profile) :
    EndsRight reports account before (.error error, after) := by
  intro response isResponse
  cases isResponse

theorem endsRight_silent {response : Response} (silent : reports response = false)
    (after : Browser Profile) : EndsRight reports account before (.ok response, after) := by
  intro other isResponse reported
  cases isResponse
  rw [silent] at reported
  cases reported

variable {verified : SessionUserAccount Profile} {browser : Browser Profile}

theorem endsRight_reported {response : Response} (reported : reports response = true)
    (isAccount : account = some verified) (after : Browser Profile) :
    EndsRight reports account before (.ok response, after) ↔ SignedIn verified before after := by
  constructor
  · intro endsRight
    obtain ⟨other, isOther, signedIn⟩ := endsRight response rfl reported
    rw [isAccount, Option.some.injEq] at isOther
    exact isOther ▸ signedIn
  · intro signedIn _ _ _
    exact ⟨verified, isAccount, signedIn⟩

theorem endsRight_signedIn (isAccount : account = some verified)
    {ending : Except SignInError Response × Browser Profile}
    (signedIn : SignedIn verified before ending.2) : EndsRight reports account before ending :=
  fun _ _ _ => ⟨verified, isAccount, signedIn⟩

theorem endsRight_tryCatch {call : Action Profile Response}
    {handler : SignInError → Action Profile Response}
    (silent : ∀ error middle, EndsRight reports account before (outcome (handler error) middle)) :
    EndsRight reports account before (outcome (tryCatch call handler) browser) ↔
      EndsRight reports account before (outcome call browser) := by
  rw [Calls.outcome_tryCatch]
  rcases outcome call browser with ⟨error | response, middle⟩
  · exact iff_of_true (silent error middle) (endsRight_error error middle)
  · exact Iff.rfl

theorem signedIn_map_iff (write : BrowserSession Profile → BrowserSession Profile)
    (sameMark : ∀ session, (write session).isAuthenticated = session.isAuthenticated)
    (sameAccounts : ∀ session, (write session).accounts = session.accounts)
    (session : Option (BrowserSession Profile)) (deeds : List Deed) :
    SignedIn verified before ⟨session.map write, deeds⟩ ↔
      SignedIn verified before ⟨session, deeds⟩ := by
  cases session with
  | none => exact iff_of_false (by rintro ⟨_, ⟨⟩, _⟩) (by rintro ⟨_, ⟨⟩, _⟩)
  | some session =>
    constructor
    · rintro ⟨_, ⟨⟩, isMarked, isActive, listed⟩
      rw [sameMark] at isMarked
      rw [sameAccounts] at isActive listed
      exact ⟨session, rfl, isMarked, isActive, listed⟩
    · rintro ⟨_, ⟨⟩, isMarked, isActive, listed⟩
      refine ⟨write session, rfl, ?_, ?_⟩
      · rw [sameMark]
        exact isMarked
      · rw [sameAccounts]
        exact ⟨isActive, listed⟩

theorem signedIn_remove {write : BrowserSession Profile → BrowserSession Profile}
    (sameMark : ∀ session, (write session).isAuthenticated = session.isAuthenticated)
    (sameAccounts : ∀ session, (write session).accounts = session.accounts) :
    Keeps (SignedIn verified before) (remove write) :=
  fun browser signedIn =>
    (signedIn_map_iff write sameMark sameAccounts browser.session browser.deeds).mpr signedIn

theorem signedIn_get {Value : Type} (field : BrowserSession Profile → Option Value) :
    Keeps (SignedIn verified before) (get field) := fun _ signedIn => signedIn

def ListsOnly (before : List String) (browser : Browser Profile) : Prop :=
  ∀ session, browser.session = some session → ∀ name ∈ usernames session.accounts, name ∈ before

theorem ListsOnly.beside (fewer : ListsOnly before browser)
    (verified : SessionUserAccount Profile) : ListsBeside verified before browser := by
  intro session isSession
  refine ⟨?_, ?_⟩
  · intro other isOther
    exact fewer session isSession _ (others_listed isOther)
  · intro active isActive
    exact .inr (fewer session isSession _ (active_listed isActive))

theorem authenticate_signedIn {settings : Settings} {services : Services Profile}
    {after : Browser Profile} (beside : ListsBeside verified before browser)
    (isOutcome : outcome (authenticate settings services verified) browser = (.ok (), after)) :
    SignedIn verified before after := by
  rw [authenticate, outcome_setAuthenticated] at isOutcome
  cases isStable : stable verified with
  | true =>
    have isAccount : SessionAccounts.userAccount services.now (authenticationOf verified) =
        some { verified with last_used := some services.now } := by
      rw [userAccount_authenticationOf, isStable, if_pos rfl]
    have signedIn : SignedIn { verified with last_used := some services.now } before after :=
      marked_signedIn isAccount beside isOutcome
    exact signedIn
  | false =>
    obtain ⟨error, refuses⟩ := authenticate_refuses settings services verified browser
      (Or.inl isStable)
    rw [authenticate, outcome_setAuthenticated, isOutcome] at refuses
    cases refuses

theorem endsRight_authenticate {settings : Settings} {services : Services Profile}
    (isAccount : account = some verified) (beside : ListsBeside verified before browser)
    {next : Unit → Action Profile Response} (keeps : Keeps (SignedIn verified before) (next ())) :
    EndsRight reports account before
      (outcome (authenticate settings services verified >>= next) browser) := by
  rw [Calls.outcome_bind]
  generalize isOutcome : outcome (authenticate settings services verified) browser = ended
  rcases ended with ⟨error | _, after⟩
  · exact endsRight_error error after
  · exact endsRight_signedIn isAccount (keeps after (authenticate_signedIn beside isOutcome))

theorem regenerated_session (regeneration : Regeneration) (browser : Browser Profile) :
    (regenerated regeneration browser).2.session =
      regeneratedSession browser.session regeneration := by
  rcases browser with ⟨_ | session, deeds⟩ <;> cases regeneration <;> rfl

theorem regeneratedSession_fewer {session : BrowserSession Profile}
    {regeneration : Regeneration} {left : BrowserSession Profile}
    (isLeft : regeneratedSession (some session) regeneration = some left) {name : String}
    (member : name ∈ usernames left.accounts) : name ∈ usernames session.accounts := by
  cases regeneration with
  | issues id =>
    cases isLeft
    exact member
  | fails message remains =>
    cases remains with
    | kept =>
      cases isLeft
      exact member
    | blank id =>
      cases isLeft
      cases member
    | gone => cases isLeft

theorem listsOnly_regenerated (fewer : ListsOnly before browser) (regeneration : Regeneration) :
    ListsOnly before (regenerated regeneration browser).2 := by
  intro left isLeft name member
  rw [regenerated_session] at isLeft
  cases isSession : browser.session with
  | none =>
    rw [isSession] at isLeft
    cases isLeft
  | some session =>
    rw [isSession] at isLeft
    exact fewer session isSession name (regeneratedSession_fewer isLeft member)

theorem listsOnly_map (fewer : ListsOnly before browser)
    (write : BrowserSession Profile → BrowserSession Profile)
    (sameAccounts : ∀ session, (write session).accounts = session.accounts) (deeds : List Deed) :
    ListsOnly before ⟨browser.session.map write, deeds⟩ := by
  intro left isLeft
  obtain ⟨session, isSession, rfl⟩ := Option.map_eq_some_iff.mp isLeft
  rw [sameAccounts]
  exact fewer session isSession

end Endings

section Interactions

variable {settings : Settings} {services : Services Profile} {before : List String}
  {session : BrowserSession Profile} {deeds : List Deed} {account : SessionUserAccount Profile}

def InteractionSignsIn (settings : Settings) (services : Services Profile) (before : List String)
    (account : SessionUserAccount Profile) (browser : Browser Profile) : Prop :=
  ∀ after, outcome (authenticateInInteraction settings services account) browser =
    (.ok (), after) → SignedIn account before after

theorem interaction_then {browser middle : Browser Profile} {success : Bool}
    (isOutcome : outcome (addOrUpdateAccountInSession settings services account true) browser =
      (.ok success, middle))
    (fewer : success = false → ListsOnly before middle) :
    InteractionSignsIn settings services before account browser ↔
      (success = true → SignedIn account before middle) := by
  rw [InteractionSignsIn, authenticateInInteraction]
  simp only [Calls.outcome_bind, isOutcome]
  cases success with
  | true =>
    simp only [Bool.true_eq_false, if_false, Calls.outcome_pure, Prod.mk.injEq, true_and,
      forall_eq', forall_const]
  | false =>
    simp only [if_true]
    exact iff_of_true (fun after => authenticate_signedIn ((fewer rfl).beside account))
      (by rintro ⟨⟩)

theorem touched_signedIn_iff {existing : AuthenticatedUsers Profile}
    (isUsers : session.accounts.authenticatedUsers = some existing)
    (isActive : existing.active.any (fun active => sameAccount active account) = true)
    (fewer : ∀ name ∈ usernames session.accounts, name ∈ before) (now : Nat) :
    SignedIn account before ⟨some (touchActive now session), deeds⟩ ↔
      session.isAuthenticated = true := by
  constructor
  · rintro ⟨_, ⟨⟩, isMarked, _⟩
    exact isMarked
  · intro isMarked
    refine ⟨_, rfl, isMarked, ?_, ?_⟩
    · simp only [touchActive, getActiveUser, isUsers, Option.map_some, Option.bind_some,
        Option.any_map]
      exact isActive
    · intro other isOther
      have isListed : other ∈ session.accounts.others := by
        simpa [touchActive, SessionAccounts.Session.others, isUsers] using isOther
      exact fewer _ (others_listed isListed)

theorem switchUser_cases (config : SessionConfig) (now : Nat)
    (accounts : SessionAccounts.Session Profile) {active : SessionUserAccount Profile}
    {others : List (SessionUserAccount Profile)}
    (isUsers : accounts.authenticatedUsers = some ⟨some active, some others⟩) (userId : String) :
    let switched := SessionAccounts.switchUser config now accounts userId
    match others.find? (isNamed userId) with
    | none => switched.2 = some .user_not_found ∧ switched.1 = accounts
    | some found =>
      if config.require_reauth_on_switch = some true then
        switched.2 = some .reauth_required ∧
          switched.1.authenticatedUsers = accounts.authenticatedUsers
      else switched.2 = none ∧ getActiveUser switched.1 = some (usedAt now found) ∧
        ∀ other ∈ switched.1.others, other.username ∈ usernames accounts := by
  simp only [SessionAccounts.switchUser, isUsers]
  cases isFound : others.find? (isNamed userId) with
  | none => exact ⟨rfl, rfl⟩
  | some found =>
    dsimp only
    by_cases isReauth : config.require_reauth_on_switch = some true
    · rw [if_pos isReauth, if_pos isReauth]
      exact ⟨rfl, rfl⟩
    · rw [if_neg isReauth, if_neg isReauth]
      refine ⟨rfl, rfl, ?_⟩
      obtain ⟨isActive, isOthers⟩ := SessionAccounts.active_of_users isUsers
      intro other isOther
      rcases List.mem_append.mp isOther with earlier | isLast
      · refine others_listed ?_
        rw [isOthers]
        exact List.mem_of_mem_eraseP earlier
      · rw [List.mem_singleton.mp isLast]
        change active.username ∈ usernames accounts
        exact active_listed isActive

theorem switched_signsIn_iff {existing : AuthenticatedUsers Profile}
    (isUsers : session.accounts.authenticatedUsers = some existing)
    (isOther : existing.active.any (fun active => sameAccount active account) = false)
    {middle : Browser Profile} {success : Bool}
    (isMiddle : middle = ⟨some { session with
      accounts := (SessionAccounts.switchUser settings.session services.now session.accounts
        account.id).1 }, deeds⟩)
    (isSuccess : success = (SessionAccounts.switchUser settings.session services.now
      session.accounts account.id).2.all fun refusal => refusal = .reauth_required)
    (fewer : ∀ name ∈ usernames session.accounts, name ∈ before) :
    (success = true → SignedIn account before middle) ↔
      ∀ active others found, existing = ⟨some active, some others⟩ →
        others.find? (isNamed account.id) = some found →
          session.isAuthenticated = true ∧
            settings.session.require_reauth_on_switch ≠ some true ∧
              sameAccount found account = true := by
  obtain ⟨active, others⟩ := existing
  have unmatched (noUsers : active = none ∨ others = none) : success = false := by
    rw [isSuccess]
    simp only [SessionAccounts.switchUser, isUsers]
    rcases noUsers with rfl | rfl
    · rfl
    · cases active <;> rfl
  cases active with
  | none =>
    rw [unmatched (.inl rfl)]
    exact iff_of_true (by rintro ⟨⟩) (by rintro _ _ _ ⟨⟩)
  | some active =>
    cases others with
    | none =>
      rw [unmatched (.inr rfl)]
      exact iff_of_true (by rintro ⟨⟩) (by rintro _ _ _ ⟨⟩)
    | some others =>
      have switched := switchUser_cases settings.session services.now session.accounts isUsers
        account.id
      subst isMiddle
      dsimp only at switched
      cases isFound : others.find? (isNamed account.id) with
      | none =>
        rw [isFound] at switched
        rw [switched.1] at isSuccess
        rw [isSuccess]
        refine iff_of_true (by rintro ⟨⟩) ?_
        rintro _ _ found ⟨⟩ isSome
        rw [isFound] at isSome
        cases isSome
      | some found =>
        rw [isFound] at switched
        dsimp only at switched
        have only : (∀ other rest chosen,
            (⟨some active, some others⟩ : AuthenticatedUsers Profile) =
              ⟨some other, some rest⟩ →
            rest.find? (isNamed account.id) = some chosen →
            session.isAuthenticated = true ∧
              settings.session.require_reauth_on_switch ≠ some true ∧
                sameAccount chosen account = true) ↔
            session.isAuthenticated = true ∧
              settings.session.require_reauth_on_switch ≠ some true ∧
                sameAccount found account = true := by
          constructor
          · exact fun all => all active others found rfl isFound
          · rintro holds _ _ chosen ⟨⟩ isChosen
            rw [isFound, Option.some.injEq] at isChosen
            exact isChosen ▸ holds
        rw [only]
        by_cases isReauth : settings.session.require_reauth_on_switch = some true
        · rw [if_pos isReauth] at switched
          refine iff_of_false ?_ fun holds => holds.2.1 isReauth
          rw [isSuccess, switched.1]
          intro signedIn
          obtain ⟨_, ⟨⟩, _, isActive, _⟩ := signedIn rfl
          simp only [getActiveUser, switched.2, isUsers, Option.bind_some] at isActive
          rw [isOther] at isActive
          cases isActive
        · rw [if_neg isReauth] at switched
          obtain ⟨isNone, isActive, listed⟩ := switched
          rw [isSuccess, isNone]
          constructor
          · intro signedIn
            obtain ⟨_, ⟨⟩, isMarked, same, _⟩ := signedIn rfl
            simp only [isActive, Option.any_some] at same
            exact ⟨isMarked, isReauth, same⟩
          · rintro ⟨isMarked, _, same⟩ _
            refine ⟨_, rfl, isMarked, ?_, fun other isIn => fewer _ (listed other isIn)⟩
            simp only [isActive, Option.any_some]
            exact same

theorem interaction_signsIn_iff (fewer : ∀ name ∈ usernames session.accounts, name ∈ before) :
    InteractionSignsIn settings services before account ⟨some session, deeds⟩ ↔
      TurnsTo settings.session session.isAuthenticated session.accounts account := by
  have atFirst : ListsOnly before ⟨some session, deeds⟩ := by
    rintro _ ⟨⟩
    exact fewer
  cases isUsers : session.accounts.authenticatedUsers with
  | none =>
    have turns : TurnsTo settings.session session.isAuthenticated session.accounts account := by
      intro existing isSome
      rw [isUsers] at isSome
      cases isSome
    refine iff_of_true ?_ turns
    cases isStable : stable account with
    | true =>
      obtain ⟨after, marks⟩ := authenticate_marks settings services isStable session deeds
      have isOutcome : outcome (addOrUpdateAccountInSession settings services account true)
          ⟨some session, deeds⟩ =
          (.ok true, ⟨some after, .authenticated session.id account.username :: deeds⟩) := by
        simp [addOrUpdateAccountInSession, Calls.outcome_tryCatch, Calls.outcome_bind,
          Calls.outcome_map, isUsers, marks]
      exact (interaction_then isOutcome (by rintro ⟨⟩)).mpr fun _ =>
        authenticate_signedIn (atFirst.beside account) marks
    | false =>
      obtain ⟨error, refuses⟩ := authenticate_refuses settings services account
        ⟨some session, deeds⟩ (Or.inl isStable)
      have isOutcome : outcome (addOrUpdateAccountInSession settings services account true)
          ⟨some session, deeds⟩ = (.ok false, ⟨some session, deeds⟩) := by
        simp [addOrUpdateAccountInSession, Calls.outcome_tryCatch, Calls.outcome_bind,
          Calls.outcome_map, isUsers, refuses]
      exact (interaction_then isOutcome fun _ => atFirst).mpr (by rintro ⟨⟩)
  | some existing =>
    have isOutcome := outcome_addOrUpdate settings services deeds account isUsers
    have only (property : AuthenticatedUsers Profile → Prop) :
        (∀ other, session.accounts.authenticatedUsers = some other → property other) ↔
          property existing := by
      rw [isUsers]
      exact ⟨fun all => all existing rfl, by rintro holds _ ⟨⟩; exact holds⟩
    rw [TurnsTo, only]
    cases isKnown : accountExists existing account with
    | none =>
      rw [isKnown] at isOutcome
      exact iff_of_true ((interaction_then isOutcome fun _ => atFirst).mpr (by rintro ⟨⟩))
        trivial
    | some exists? =>
      rw [isKnown] at isOutcome
      cases exists? with
      | false =>
        have added := added_signedIn_iff settings.session services.now account deeds fewer
        rcases addAuthenticatedUser_cases settings.session services.now session.accounts
          account with ⟨canAdd, isNone, _⟩ | ⟨cannotAdd, isSome, unchanged⟩
        · rw [interaction_then isOutcome (by simp [isNone]), added]
          simp [isNone, canAdd]
        · rw [interaction_then isOutcome (by rw [unchanged]; exact fun _ => atFirst)]
          simp [Option.isSome_iff_ne_none.mp isSome, cannotAdd]
      | true =>
        dsimp only at isOutcome ⊢
        by_cases isActive : existing.active.any
            (fun active => sameAccount active account) = true
        · rw [if_pos isActive] at isOutcome ⊢
          rw [interaction_then isOutcome (by rintro ⟨⟩),
            touched_signedIn_iff isUsers isActive fewer]
          exact ⟨fun marks => marks rfl, fun isMarked _ => isMarked⟩
        · rw [if_neg isActive] at isOutcome ⊢
          rw [interaction_then isOutcome]
          · exact switched_signsIn_iff isUsers (Bool.eq_false_iff.mpr isActive) rfl rfl fewer
          · rintro _ _ ⟨⟩ name member
            exact fewer name (mem_usernames_switchUser member)

end Interactions

end ActiveAccounts

end ParakoId.SignIn
