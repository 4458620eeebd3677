import ParakoId.SignIn.Logout
import ParakoId.SignIn.VerifiedSignIns

/-! The requests on the session of one browser that write its accounts. -/

namespace ParakoId.SignIn

open Calls (Call Keeps left outcome keeps_pure keeps_throw)
open Runs (AllowedFrom run)
open SessionAccounts (SessionConfig SessionUserAccount AuthenticatedUsers isNamed isNonEmptyString
  getActiveUser sameAccount usedAt)

structure InteractionDetails where
  promptName : String
  accountId : Option String

/-- An empty account id counts as none. -/
def InteractionDetails.account (details : InteractionDetails) : Option String :=
  details.accountId.filter fun accountId => accountId ≠ ""

structure ConsentRequest where
  uid : Option String
  interactionDetails : Except SignInError InteractionDetails
  saveGrant : Except SignInError Unit
  interactionFinished : Except SignInError Unit

inductive ConsentResponse
  | invalidRequest
  | sessionNotFound
  | invalidPrompt
  | finished
  | next (error : SignInError)

section Handlers

variable {Profile : Type} (settings : Settings) (services : Services Profile)

/-! `OIDCUtils.syncSessionAfterConsent` and `OIDCConsentHandler`. -/

def switchToExisting (accountId : String) : Action Profile Bool := do
  match ← get fun session => session.accounts.authenticatedUsers with
  | none => return false
  | some existing =>
    match existing.others with
    | none => throw (.failed "Cannot read properties of undefined")
    | some others =>
      match others.find? (isNamed accountId) with
      | none => return false
      | some account =>
        let refusal ← switchUser settings.session services.now account.id
        return refusal.all fun refusal => refusal = .reauth_required

def loadAccount (accountId : String) : Action Profile Unit := do
  match ← ask (services.findByUsername accountId) with
  | none => return ()
  | some user =>
    discard <| addOrUpdateAccountInSession settings services (accountOf services user) true

def syncSessionAfterConsent (accountId : String) : Action Profile Unit :=
  tryCatch
    (do
      let currentActiveUser ← get fun session => getActiveUser session.accounts
      if currentActiveUser.any (isNamed accountId) then return ()
      let accountFound ← switchToExisting settings services accountId
      if accountFound = false then loadAccount settings services accountId)
    fun _ => pure ()

def confirmConsent (request : ConsentRequest) : Action Profile ConsentResponse :=
  tryCatch
    (do
      if request.uid = none then return .invalidRequest
      let details ← ask request.interactionDetails
      match details.account with
      | none => return .sessionNotFound
      | some accountId =>
        if details.promptName ≠ "consent" then return .invalidPrompt
        ask request.saveGrant
        syncSessionAfterConsent settings services accountId
        ask request.interactionFinished
        return .finished)
    fun error => pure (.next error)

end Handlers

section Requests

variable {Profile : Type}

/-- `switchAccount` of the account portal. -/
def switchAccount (config : SessionConfig) (now : Nat) (accountId : String)
    (session : BrowserSession Profile) : BrowserSession Profile :=
  if isNonEmptyString accountId then
    { session with accounts := (SessionAccounts.switchUser config now session.accounts accountId).1 }
  else session

/-- `continueWithAccount`, after the selection of an account. -/
def continueWithAccount (config : SessionConfig) (now : Nat) (accountId : String)
    (session : BrowserSession Profile) : BrowserSession Profile :=
  if accountId = "" then session
  else
    { session with accounts := (SessionAccounts.switchUser config now session.accounts accountId).1 }

/-- The account selected in an interaction. Where it does not become the active one, the time of its
last use is left out. -/
def selectAccount (config : SessionConfig) (now : Nat) (accountId : String)
    (session : BrowserSession Profile) : BrowserSession Profile :=
  match (SessionAccounts.accounts session.accounts).find? (isNamed accountId) with
  | none => session
  | some selected =>
    if (getActiveUser session.accounts).any fun active => active.id ≠ selected.id then
      match SessionAccounts.switchUser config now session.accounts selected.id with
      | (accounts, none) => touchActive now { session with accounts }
      | (accounts, some _) => { session with accounts }
    else touchActive now session

/-- `removeAccount` keeps the last account. -/
def removeAccount (accountId : String) (session : BrowserSession Profile) :
    BrowserSession Profile :=
  match session.accounts.authenticatedUsers.bind AuthenticatedUsers.others with
  | none | some [] => session
  | some (_ :: _) =>
    if isNonEmptyString accountId then
      { session with
        accounts := (SessionAccounts.removeAuthenticatedUser session.accounts accountId).1 }
    else session

inductive SessionRequest (Profile : Type)
  | signIn (services : Services Profile) (request : SignInRequest)
  | confirmConsent (services : Services Profile) (request : ConsentRequest)
  | switchAccount (now : Nat) (accountId : String)
  | continueWithAccount (now : Nat) (accountId : String)
  | selectAccount (now : Nat) (accountId : String)
  | continueInteraction (now : Nat)
  | removeAccount (accountId : String)
  | logout (request : LogoutRequest) (answers : StoreAnswers)
  | endSession (destruction : Destruction)
  | clearAuthenticationData
  | expire
  | start (id : String)
  | write (write : BrowserSession Profile → BrowserSession Profile)
      (same : ∀ session, (write session).accounts = session.accounts)
      (sameMarker : ∀ session, (write session).isAuthenticated = session.isAuthenticated)

variable (settings : Settings) (session : Option (BrowserSession Profile))

def afterRequest : SessionRequest Profile → Option (BrowserSession Profile)
  | .signIn services request => (left (handle settings services request) ⟨session, []⟩).session
  | .confirmConsent services request =>
    (left (confirmConsent settings services request) ⟨session, []⟩).session
  | .switchAccount now accountId => session.map (switchAccount settings.session now accountId)
  | .continueWithAccount now accountId =>
    session.map (continueWithAccount settings.session now accountId)
  | .selectAccount now accountId => session.map (selectAccount settings.session now accountId)
  | .continueInteraction now => session.map (touchActive now)
  | .removeAccount accountId => session.map (removeAccount accountId)
  | .logout request answers =>
    session.bind fun session => (logout request answers session).session
  | .endSession destruction => session.bind fun session => destroy session destruction
  | .clearAuthenticationData => session.map clearAuthenticationData
  | .expire => none
  | .start id => some (session.getD (.blank id))
  | .write write _ _ => session.map write

def listedNames : List String :=
  session.elim [] fun session => usernames session.accounts

def SessionRequest.verified : SessionRequest Profile → List String
  | .signIn services request => verifiedNames (deedsOf session (handle settings services request))
  | .confirmConsent services request =>
    verifiedNames (left (SignIn.confirmConsent settings services request) ⟨session, []⟩).deeds
  | _ => []

def ConsentRequest.accountId (request : ConsentRequest) : Option String :=
  request.interactionDetails.toOption.bind InteractionDetails.account

def ConsentRequest.user (services : Services Profile) (request : ConsentRequest) :
    Option (User Profile) :=
  request.accountId.bind fun accountId => (services.findByUsername accountId).toOption.join

def SessionRequest.consented : SessionRequest Profile → List String
  | .confirmConsent services request => ((request.user services).map User.username).toList
  | _ => []

def providerAccounts (services : Services Profile) (request : ConsentRequest) :
    List (SessionUserAccount Profile) :=
  (request.accountId.elim [] fun accountId =>
      session.elim [] fun session =>
        (SessionAccounts.accounts session.accounts).filter (isNamed accountId)) ++
    ((request.user services).map (accountOf services)).toList

def StaysActiveOr (turned : List String) (before after : Option (BrowserSession Profile)) : Prop :=
  ∀ session active, after = some session → getActiveUser session.accounts = some active →
    turned.any (fun userId => isNamed userId active) = true ∨
      ∃ earlier prior, before = some earlier ∧ getActiveUser earlier.accounts = some prior ∧
        prior.id = active.id ∧ prior.username = active.username

/-- Nobody gets on the list without verified credentials but the user of a session at the provider
for which a consent is confirmed. The confirmation turns to no other account, and leaves the
session alone where that account is active already. -/
structure OnlyVerified (request : SessionRequest Profile) : Prop where
  listed : ∀ name ∈ listedNames (afterRequest settings session request),
    name ∈ listedNames session ∨ name ∈ request.verified settings session ∨
      name ∈ request.consented
  active : ∀ services consent, request = .confirmConsent services consent →
    StaysActiveOr ((providerAccounts session services consent).map SessionUserAccount.id) session
      (afterRequest settings session request)
  same : ∀ services consent, request = .confirmConsent services consent →
    ∀ accountId earlier active, consent.accountId = some accountId → session = some earlier →
      getActiveUser earlier.accounts = some active → isNamed accountId active = true →
        afterRequest settings session request = session

end Requests

section Names

variable {Profile : Type} {settings : Settings} {services : Services Profile}
  {before known : List String}

theorem left_then_answer {Value : Type} (call : Action Profile Unit)
    (answer : Except SignInError Unit) (value : Value) (start : Browser Profile) :
    left (do call; ask answer; return value) start = left call start := by
  rw [Calls.left_bind, left]
  rcases outcome call start with ⟨error | done, middle⟩
  · rfl
  · cases answer <;> rfl

variable (settings services) in
theorem left_confirmConsent (request : ConsentRequest) (start : Browser Profile) :
    left (confirmConsent settings services request) start = start ∨
      ∃ accountId, request.accountId = some accountId ∧
        left (confirmConsent settings services request) start =
          left (syncSessionAfterConsent settings services accountId) start := by
  rw [confirmConsent, Calls.left_tryCatch_pure]
  by_cases isMissing : request.uid = none
  · simp [isMissing]
  rw [if_neg isMissing]
  cases isDetails : request.interactionDetails with
  | error error => exact .inl rfl
  | ok details =>
    rw [Calls.left_bind, outcome_ask]
    dsimp only
    cases isAccount : details.account with
    | none => exact .inl rfl
    | some accountId =>
      dsimp only
      by_cases isOther : details.promptName ≠ "consent"
      · rw [if_pos isOther]
        exact .inl rfl
      rw [if_neg isOther, Calls.left_bind, outcome_ask]
      cases request.saveGrant with
      | error error => exact .inl rfl
      | ok saved =>
        refine .inr ⟨accountId, ?_, left_then_answer _ _ _ _⟩
        simp [ConsentRequest.accountId, isDetails, isAccount, Except.toOption]

theorem backs_loadAccount {accountId : String}
    (isListed : ∀ user, services.findByUsername accountId = .ok (some user) →
      user.username ∈ before) :
    Keeps (BackedBy before known) (loadAccount settings services accountId) := by
  refine keeps_asking fun found isFound => ?_
  cases found with
  | none => exact keeps_pure ()
  | some user =>
    have isKnown := isListed user isFound
    exact Keeps.bind ((backed_roster before).keeps_addOrUpdateAccountInSession _ _ (.inl isKnown))
      fun _ => keeps_pure ()

theorem backs_switchToExisting (accountId : String) :
    Keeps (BackedBy before known) (switchToExisting settings services accountId) := by
  refine Keeps.bind (keeps_get _) fun users => ?_
  rcases users with _ | ⟨active, others⟩
  · exact keeps_pure false
  · cases others with
    | none => exact keeps_throw _
    | some others =>
      dsimp only
      cases others.find? (isNamed accountId) with
      | none => exact keeps_pure false
      | some account =>
        exact Keeps.bind ((backed_roster before).keeps_switchUser _ _ _) fun _ => keeps_pure _

theorem backs_syncSessionAfterConsent {accountId : String}
    (isListed : ∀ user, services.findByUsername accountId = .ok (some user) →
      user.username ∈ before) :
    Keeps (BackedBy before known) (syncSessionAfterConsent settings services accountId) := by
  refine Keeps.tryCatch (Keeps.bind (keeps_get _) fun active => ?_) fun _ => keeps_pure ()
  refine Keeps.ite (fun _ => keeps_pure ()) fun _ => ?_
  refine Keeps.bind (backs_switchToExisting accountId) fun found => ?_
  exact Keeps.ite (fun _ => backs_loadAccount isListed) fun _ => keeps_pure ()

theorem backs_confirmConsent {request : ConsentRequest}
    (isListed : ∀ user, request.user services = some user → user.username ∈ before) :
    Backs before none (confirmConsent settings services request) := by
  refine backs_of fun start backed => ?_
  rcases left_confirmConsent settings services request start with
    isSame | ⟨accountId, isAccount, isSynced⟩
  · rwa [isSame]
  · rw [isSynced]
    refine backs_syncSessionAfterConsent (fun user isFound => isListed user ?_) start backed
    simp [ConsentRequest.user, isAccount, isFound, Except.toOption]

variable {session : Option (BrowserSession Profile)}

theorem mem_listedNames {name : String} :
    name ∈ listedNames session ↔
      ∃ found, session = some found ∧ name ∈ usernames found.accounts := by
  cases session with
  | none | some _ => simp [listedNames]

def ListsNoMore (session : BrowserSession Profile) (after : Option (BrowserSession Profile)) :
    Prop :=
  ∀ left, after = some left → ∀ name ∈ usernames left.accounts, name ∈ usernames session.accounts

theorem listsNoMore_some {session after : BrowserSession Profile}
    (fewer : ∀ name ∈ usernames after.accounts, name ∈ usernames session.accounts) :
    ListsNoMore session (some after) := by
  rintro _ ⟨⟩
  exact fewer

theorem listsNoMore_self (session : BrowserSession Profile) : ListsNoMore session (some session) :=
  listsNoMore_some fun _ member => member

theorem ListsNoMore.listed {next : BrowserSession Profile → Option (BrowserSession Profile)}
    (fewer : ∀ session, ListsNoMore session (next session)) :
    ∀ name ∈ listedNames (session.bind next), name ∈ listedNames session := by
  intro name member
  obtain ⟨left, isLeft, isListed⟩ := mem_listedNames.mp member
  obtain ⟨earlier, isEarlier, isNext⟩ := Option.bind_eq_some_iff.mp isLeft
  exact mem_listedNames.mpr ⟨earlier, isEarlier, fewer earlier left isNext name isListed⟩

theorem ListsNoMore.map_listed {write : BrowserSession Profile → BrowserSession Profile}
    (fewer : ∀ session, ListsNoMore session (some (write session))) :
    ∀ name ∈ listedNames (session.map write), name ∈ listedNames session := by
  rw [Option.map_eq_bind]
  exact ListsNoMore.listed fewer

theorem switched_listsNoMore (config : SessionConfig) (now : Nat)
    (userId : String) (session : BrowserSession Profile) :
    ListsNoMore session (some { session with
      accounts := (SessionAccounts.switchUser config now session.accounts userId).1 }) :=
  listsNoMore_some fun _ => mem_usernames_switchUser

theorem switchAccount_listsNoMore (config : SessionConfig) (now : Nat)
    (accountId : String) (session : BrowserSession Profile) :
    ListsNoMore session (some (switchAccount config now accountId session)) := by
  rw [switchAccount]
  split
  · exact switched_listsNoMore config now accountId session
  · exact listsNoMore_self session

theorem continueWithAccount_listsNoMore (config : SessionConfig) (now : Nat)
    (accountId : String) (session : BrowserSession Profile) :
    ListsNoMore session (some (continueWithAccount config now accountId session)) := by
  rw [continueWithAccount]
  split
  · exact listsNoMore_self session
  · exact switched_listsNoMore config now accountId session

theorem touchActive_listsNoMore (now : Nat) (session : BrowserSession Profile) :
    ListsNoMore session (some (touchActive now session)) :=
  listsNoMore_some fun _ member => usernames_touchActive now session ▸ member

theorem selectAccount_listsNoMore (config : SessionConfig) (now : Nat)
    (accountId : String) (session : BrowserSession Profile) :
    ListsNoMore session (some (selectAccount config now accountId session)) := by
  rw [selectAccount]
  split
  · exact listsNoMore_self session
  · next selected isSelected =>
      have switched := switched_listsNoMore config now selected.id session
      split
      · split
        · next accounts isSwitched =>
            rw [isSwitched] at switched
            refine listsNoMore_some fun name member => ?_
            rw [usernames_touchActive] at member
            exact switched _ rfl name member
        · next accounts refusal isSwitched =>
            rwa [isSwitched] at switched
      · exact touchActive_listsNoMore now session

theorem removeAccount_listsNoMore (accountId : String) (session : BrowserSession Profile) :
    ListsNoMore session (some (removeAccount accountId session)) := by
  rw [removeAccount]
  split
  · exact listsNoMore_self session
  · exact listsNoMore_self session
  · split
    · exact listsNoMore_some fun _ => mem_usernames_removeAuthenticatedUser
    · exact listsNoMore_self session

theorem clearAuthenticationData_listsNoMore (session : BrowserSession Profile) :
    ListsNoMore session (some (clearAuthenticationData session)) :=
  listsNoMore_some fun _ member => by cases member

theorem destroy_listsNoMore (destruction : Destruction) (session : BrowserSession Profile) :
    ListsNoMore session (destroy session destruction) := by
  intro left isLeft
  cases destruction with
  | succeeds => cases isLeft
  | fails remains =>
    cases remains with
    | false => cases isLeft
    | true => exact listsNoMore_self session left isLeft

theorem removeFromSession_listsNoMore (answers : StoreAnswers) (userId username : String)
    (session : BrowserSession Profile) :
    ListsNoMore session (removeFromSession answers session userId username).session := by
  rw [removeFromSession]
  split
  · exact listsNoMore_self session
  · next accounts isRemoved =>
      refine listsNoMore_some fun name member => ?_
      split at member
      · have fewer : name ∈ usernames
            (SessionAccounts.removeAuthenticatedUser session.accounts userId).1 := by rwa [isRemoved]
        exact mem_usernames_removeAuthenticatedUser fewer
      · exact member

theorem logout_listsNoMore (request : LogoutRequest) (answers : StoreAnswers)
    (session : BrowserSession Profile) :
    ListsNoMore session (logout request answers session).session := by
  rw [logout]
  split
  · exact listsNoMore_self session
  split
  · exact destroy_listsNoMore answers.destroy session
  split
  · rw [logoutActive]
    split
    · exact destroy_listsNoMore answers.destroy session
    · split
      · exact removeFromSession_listsNoMore answers _ _ session
      · exact listsNoMore_self session
  · dsimp only
    split
    · exact destroy_listsNoMore answers.destroy session
    · exact removeFromSession_listsNoMore answers _ _ session

end Names

section Active

variable {Profile : Type} {settings : Settings} {services : Services Profile}
  {turned : List String} {before : Option (BrowserSession Profile)}

def Turns {Value : Type} (turned : List String) (before : Option (BrowserSession Profile))
    (call : Action Profile Value) : Prop :=
  Keeps (fun browser => StaysActiveOr turned before browser.session) call

theorem staysActiveOr_self (turned : List String) (session : Option (BrowserSession Profile)) :
    StaysActiveOr turned session session :=
  fun found active isFound isActive => .inr ⟨found, active, isFound, isActive, rfl, rfl⟩

theorem StaysActiveOr.turn {session after : BrowserSession Profile}
    (stays : StaysActiveOr turned before (some session))
    (turns : ∀ active, getActiveUser after.accounts = some active →
      (∃ userId ∈ turned, isNamed userId active = true) ∨
        ∃ prior, getActiveUser session.accounts = some prior ∧ prior.id = active.id ∧
          prior.username = active.username) :
    StaysActiveOr turned before (some after) := by
  rintro _ active ⟨⟩ isActive
  rcases turns active isActive with ⟨userId, isTurned, isUser⟩ | ⟨prior, isPrior, sameId, sameName⟩
  · exact .inl (List.any_eq_true.mpr ⟨userId, isTurned, isUser⟩)
  · have earlier := stays session prior rfl isPrior
    simp only [isNamed, sameId, sameName] at earlier
    exact earlier

theorem turns_pure {Value : Type} (value : Value) :
    Turns turned before (pure value : Action Profile Value) := keeps_pure value

theorem turns_switchUser (config : SessionConfig) (now : Nat) {userId : String}
    (isTurned : userId ∈ turned) :
    Turns turned before (switchUser config now userId : Action Profile _) := by
  rintro ⟨_ | session, deeds⟩ stays
  · exact stays
  · refine StaysActiveOr.turn stays fun active isActive => ?_
    have unchanged : getActiveUser session.accounts = some active →
        ∃ prior, getActiveUser session.accounts = some prior ∧ prior.id = active.id ∧
          prior.username = active.username := fun isSame => ⟨active, isSame, rfl, rfl⟩
    change getActiveUser (SessionAccounts.switchUser config now session.accounts userId).1 =
      some active at isActive
    rw [SessionAccounts.switchUser] at isActive
    split at isActive
    · split at isActive
      · exact .inr (unchanged isActive)
      · next others isUsers found isFound =>
          split at isActive
          · exact .inr (unchanged isActive)
          · have isUser := List.find?_some isFound
            cases isActive
            exact .inl ⟨userId, isTurned, isUser⟩
    · exact .inr (unchanged isActive)

theorem turns_setAuthenticated (config : SessionConfig) (now : Nat)
    (account : SessionUserAccount Profile) (isTurned : account.id ∈ turned) :
    Turns turned before (setAuthenticated config now (authenticationOf account)) := by
  rintro ⟨session, deeds⟩ stays
  rw [left, outcome_setAuthenticated, marked]
  cases isAccount : SessionAccounts.userAccount now (authenticationOf account) with
  | none => exact stays
  | some signedIn =>
    cases session with
    | none => exact stays
    | some session =>
      dsimp only
      rw [SessionAccounts.setAuthenticated, Option.bind_some, isAccount]
      refine StaysActiveOr.turn stays fun active isActive => .inl ⟨account.id, isTurned, ?_⟩
      cases isActive
      rw [userAccount_authenticationOf] at isAccount
      cases (Option.ite_none_right_eq_some.mp isAccount).2
      simp [isNamed]

theorem turns_addAuthenticatedUser (config : SessionConfig) (now : Nat)
    (account : SessionUserAccount Profile) (setAsActive : Bool) (isTurned : account.id ∈ turned) :
    Turns turned before (addAuthenticatedUser config now account setAsActive) := by
  rintro ⟨_ | session, deeds⟩ stays
  · exact stays
  · refine StaysActiveOr.turn stays fun active isActive => ?_
    change getActiveUser (SessionAccounts.addAuthenticatedUser config now session.accounts account
      setAsActive).1 = some active at isActive
    have added : active.id = account.id → ∃ userId ∈ turned, isNamed userId active = true :=
      fun sameId => ⟨account.id, isTurned, by simp [isNamed, sameId]⟩
    cases isPrior : getActiveUser session.accounts with
    | none =>
      simp only [SessionAccounts.addAuthenticatedUser, isPrior] at isActive
      cases isActive
      exact .inl (added rfl)
    | some prior =>
      simp only [SessionAccounts.addAuthenticatedUser, isPrior] at isActive
      have same : prior = active → ∃ first, some prior = some first ∧ first.id = active.id ∧
          first.username = active.username := by
        rintro rfl
        exact ⟨prior, rfl, rfl, rfl⟩
      split at isActive
      · exact .inr (same (Option.some.inj (isPrior.symm.trans isActive)))
      split at isActive
      · exact .inr (same (Option.some.inj (isPrior.symm.trans isActive)))
      split at isActive
      · exact .inr (same (Option.some.inj (isPrior.symm.trans isActive)))
      split at isActive
      · cases isActive
        exact .inl (added rfl)
      · cases isActive
        exact .inr (same rfl)

theorem turns_touchActive (now : Nat) :
    Turns turned before (set (touchActive now) : Action Profile Unit) := by
  rintro ⟨_ | session, deeds⟩ stays
  · exact stays
  · refine StaysActiveOr.turn stays fun active isActive => .inr ?_
    rw [getActiveUser] at isActive ⊢
    simp only [touchActive] at isActive
    cases isUsers : session.accounts.authenticatedUsers with
    | none => simp [isUsers] at isActive
    | some users =>
      simp only [isUsers, Option.map_some, Option.bind_some, Option.map_eq_some_iff] at isActive
      obtain ⟨prior, isPrior, rfl⟩ := isActive
      exact ⟨prior, isPrior, rfl, rfl⟩

theorem turns_addOrUpdateAccountInSession (account : SessionUserAccount Profile)
    (isTurned : account.id ∈ turned) :
    Turns turned before (addOrUpdateAccountInSession settings services account true) :=
  keeps_addOrUpdateAccountInSession (turns_setAuthenticated _ _ account isTurned)
    (turns_addAuthenticatedUser _ _ _ _ isTurned) (turns_touchActive _)
    (turns_switchUser _ _ isTurned)

theorem turns_loadAccount {accountId : String}
    (isTurned : ∀ user, services.findByUsername accountId = .ok (some user) →
      (accountOf services user).id ∈ turned) :
    Turns turned before (loadAccount settings services accountId) := by
  refine keeps_asking fun found isFound => ?_
  cases found with
  | none => exact turns_pure ()
  | some user =>
    exact Keeps.bind (turns_addOrUpdateAccountInSession _ (isTurned user isFound))
      fun _ => turns_pure ()

variable (settings services) in
theorem switchToExisting_turns {session : Option (BrowserSession Profile)} {accountId : String}
    (isTurned : ∀ earlier, session = some earlier →
      ∀ account ∈ SessionAccounts.accounts earlier.accounts, isNamed accountId account = true →
        account.id ∈ turned) (deeds : List Deed) :
    StaysActiveOr turned session
      (left (switchToExisting settings services accountId) ⟨session, deeds⟩).session := by
  have unchanged := staysActiveOr_self turned session
  rw [switchToExisting, Calls.left_bind, outcome_get]
  dsimp only
  cases session with
  | none => exact unchanged
  | some session =>
    simp only [Option.bind_some]
    cases isUsers : session.accounts.authenticatedUsers with
    | none => exact unchanged
    | some existing =>
      cases isOthers : existing.others with
      | none => simpa [isOthers] using unchanged
      | some others =>
        simp only [isOthers]
        cases isFound : others.find? (isNamed accountId) with
        | none => exact unchanged
        | some account =>
          have isListed : account ∈ SessionAccounts.accounts session.accounts := by
            refine List.mem_append_right _ ?_
            simpa [SessionAccounts.Session.others, isUsers, isOthers] using
              List.mem_of_find?_eq_some isFound
          have isId := isTurned session rfl account isListed (List.find?_some isFound)
          exact Keeps.bind (turns_switchUser _ _ isId) (fun _ => turns_pure _) _ unchanged

theorem left_sync_of_active {session : BrowserSession Profile} {active : SessionUserAccount Profile}
    {accountId : String} (isActive : getActiveUser session.accounts = some active)
    (isUser : isNamed accountId active = true) (deeds : List Deed) :
    left (syncSessionAfterConsent settings services accountId) ⟨some session, deeds⟩ =
      ⟨some session, deeds⟩ := by
  rw [syncSessionAfterConsent, Calls.left_tryCatch_pure, Calls.left_bind, outcome_get]
  simp [isActive, isUser]

theorem sync_turns {session : Option (BrowserSession Profile)} {accountId : String}
    (isTurned : ∀ earlier, session = some earlier →
      ∀ account ∈ SessionAccounts.accounts earlier.accounts, isNamed accountId account = true →
        account.id ∈ turned)
    (isUserTurned : ∀ user, services.findByUsername accountId = .ok (some user) →
      (accountOf services user).id ∈ turned) (deeds : List Deed) :
    StaysActiveOr turned session
      (left (syncSessionAfterConsent settings services accountId) ⟨session, deeds⟩).session := by
  rw [syncSessionAfterConsent, Calls.left_tryCatch_pure, Calls.left_bind, outcome_get]
  dsimp only
  split
  · exact staysActiveOr_self turned session
  · have switched := switchToExisting_turns settings services isTurned deeds
    have rest (found : Bool) : Turns turned session (if found = false then
        loadAccount settings services accountId else pure ()) :=
      Keeps.ite (fun _ => turns_loadAccount isUserTurned) fun _ => turns_pure ()
    exact Calls.left_bind_then switched rest

end Active

section Runs

variable {Profile : Type} (settings : Settings)

theorem backed_start {session : Option (BrowserSession Profile)} {before : List String}
    (fewer : ∀ name ∈ listedNames session, name ∈ before) : Backed before none ⟨session, []⟩ := by
  refine ⟨?_, nofun⟩
  intro found isFound name isListed
  exact .inl (fewer name (mem_listedNames.mpr ⟨found, isFound, isListed⟩))

theorem afterRequest_listed (session : Option (BrowserSession Profile))
    (request : SessionRequest Profile) :
    ∀ name ∈ listedNames (afterRequest settings session request),
      name ∈ listedNames session ∨ name ∈ request.verified settings session ∨
        name ∈ request.consented := by
  intro name member
  cases request with
  | signIn services request =>
    obtain ⟨left, isLeft, isListed⟩ := mem_listedNames.mp member
    have backs : Backs (listedNames session) none (handle settings services request) :=
      backs_handle request
    have backed := backs ⟨session, []⟩ (backed_start fun _ isBefore => isBefore)
    exact (backed.listed left isLeft name isListed).imp_right .inl
  | confirmConsent services request =>
    obtain ⟨left, isLeft, isListed⟩ := mem_listedNames.mp member
    let consented := (SessionRequest.confirmConsent services request).consented
    have backs : Backs (listedNames session ++ consented) none
        (confirmConsent settings services request) := by
      refine backs_confirmConsent fun user isUser => ?_
      simp [consented, SessionRequest.consented, isUser]
    have backed := backs ⟨session, []⟩
      (backed_start fun _ isBefore => List.mem_append_left consented isBefore)
    rcases backed.listed left isLeft name isListed with isBefore | isVerified
    · exact (List.mem_append.mp isBefore).imp_right .inr
    · exact .inr (.inl isVerified)
  | switchAccount now accountId =>
    exact .inl (ListsNoMore.map_listed
      (switchAccount_listsNoMore settings.session now accountId) name member)
  | continueWithAccount now accountId =>
    exact .inl (ListsNoMore.map_listed
      (continueWithAccount_listsNoMore settings.session now accountId) name member)
  | selectAccount now accountId =>
    exact .inl (ListsNoMore.map_listed
      (selectAccount_listsNoMore settings.session now accountId) name member)
  | continueInteraction now =>
    exact .inl (ListsNoMore.map_listed (touchActive_listsNoMore now) name member)
  | removeAccount accountId =>
    exact .inl (ListsNoMore.map_listed (removeAccount_listsNoMore accountId) name member)
  | logout request answers =>
    exact .inl (ListsNoMore.listed (logout_listsNoMore request answers) name member)
  | endSession destruction =>
    exact .inl (ListsNoMore.listed (destroy_listsNoMore destruction) name member)
  | clearAuthenticationData =>
    exact .inl (ListsNoMore.map_listed clearAuthenticationData_listsNoMore name member)
  | expire => cases member
  | start id =>
    cases session with
    | none => cases member
    | some session => exact .inl member
  | write write same sameMarker =>
    have fewer : ∀ session, ListsNoMore session (some (write session)) :=
      fun session => listsNoMore_some fun _ isListed => same session ▸ isListed
    exact .inl (ListsNoMore.map_listed fewer name member)

theorem only_verified (session : Option (BrowserSession Profile))
    (request : SessionRequest Profile) : OnlyVerified settings session request where
  listed := afterRequest_listed settings session request
  active := by
    rintro services consent rfl
    rcases left_confirmConsent settings services consent
      ⟨session, []⟩ with isSame | ⟨accountId, isAccount, isSynced⟩
    · simp only [afterRequest, isSame]
      exact staysActiveOr_self _ session
    · simp only [afterRequest, isSynced]
      refine sync_turns ?_ ?_ []
      · rintro earlier rfl account isListed isUser
        refine List.mem_map_of_mem (List.mem_append_left _ ?_)
        simp [isAccount, isListed, isUser]
      · intro user isFound
        refine List.mem_map_of_mem (List.mem_append_right _ ?_)
        simp [ConsentRequest.user, isAccount, isFound, Except.toOption]
  same := by
    rintro services consent rfl accountId earlier active isAccount rfl isActive isUser
    rcases left_confirmConsent settings services consent
      ⟨some earlier, []⟩ with isSame | ⟨other, isOther, isSynced⟩
    · simp only [afterRequest, isSame]
    · cases isAccount.symm.trans isOther
      simp only [afterRequest, isSynced, left_sync_of_active isActive isUser]

/-- Over every run, accounts get on the list with verified credentials or by a consent that is
confirmed for them. -/
theorem only_verified_or_consented (start : Option (BrowserSession Profile))
    (requests : List (SessionRequest Profile)) :
    AllowedFrom (afterRequest settings) (OnlyVerified settings) start requests :=
  Runs.allowed_of_forall (afterRequest settings) (only_verified settings) start requests

end Runs

def blankBrowser : Option (BrowserSession Unit) := some (.blank "browser")

def consentOfAda : SessionRequest Unit :=
  .confirmConsent (servicesOf ada)
    { uid := some "interaction", interactionDetails := .ok ⟨"consent", some "ada"⟩
      saveGrant := .ok (), interactionFinished := .ok () }

theorem consent_signs_in :
    listedNames blankBrowser = [] ∧
      listedNames (afterRequest plainSettings blankBrowser consentOfAda) = ["ada"] ∧
      (afterRequest plainSettings blankBrowser consentOfAda).any
        BrowserSession.isAuthenticated = true ∧
      consentOfAda.verified plainSettings blankBrowser = [] := by
  decide

end ParakoId.SignIn
