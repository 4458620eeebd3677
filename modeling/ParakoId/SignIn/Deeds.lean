import ParakoId.SignIn.Requests

/-!
What the deeds of a sign-in say of the id under which the session was marked, and what each part
of a sign-in adds to them.
-/

namespace ParakoId.SignIn

open Calls (Call Keeps left outcome keeps_pure keeps_throw)
open SessionAccounts (SessionUserAccount AuthenticatedUsers SwitchRefusal isNonEmptyString
  sameAccount)

def Deed.verifies : Deed → Bool
  | .credentialsVerified _ | .secondFactorVerified _ _ => true
  | _ => false

def issuedId : List Deed → Option String
  | [] => none
  | .regenerated id :: earlier => if earlier.any Deed.verifies then some id else none
  | .regenerationFailed :: _ => none
  | _ :: earlier => issuedId earlier

def Guarded : List Deed → Prop
  | [] => True
  | .authenticated id _ :: earlier =>
    issuedId earlier = some id ∧ .regenerationFailed ∉ earlier ∧ Guarded earlier
  | _ :: earlier => Guarded earlier

section Deeds

variable {Profile : Type} (settings : Settings) (services : Services Profile)

/-- `setAuthenticated` takes the account. -/
def stable (account : SessionUserAccount Profile) : Bool :=
  isNonEmptyString account.id && isNonEmptyString account.username

def unregenerated (regeneration : Regeneration) (session : Option (BrowserSession Profile)) :
    Option (BrowserSession Profile) :=
  match session, regeneration with
  | some session, .fails _ remains => remains.of session
  | _, _ => none

def Quiet {Value : Type} (call : Action Profile Value) : Prop :=
  ∀ deeds, Keeps (fun browser => browser.deeds = deeds) call

variable {services}

theorem Quiet.bind {Value Result : Type} {call : Action Profile Value}
    {next : Value → Action Profile Result} (first : Quiet call)
    (second : ∀ value, Quiet (next value)) : Quiet (call >>= next) :=
  fun deeds => (first deeds).bind fun value => second value deeds

theorem Quiet.ite {Value : Type} {condition : Prop} [Decidable condition]
    {first second : Action Profile Value} (onTrue : Quiet first) (onFalse : Quiet second) :
    Quiet (if condition then first else second) :=
  fun deeds => Keeps.ite (fun _ => onTrue deeds) fun _ => onFalse deeds

theorem Quiet.left_eq {Value : Type} {call : Action Profile Value} (quiet : Quiet call)
    (browser : Browser Profile) : (left call browser).deeds = browser.deeds :=
  quiet browser.deeds browser rfl

theorem quiet_pure {Value : Type} (value : Value) : Quiet (pure value : Action Profile Value) :=
  fun _ => keeps_pure value

theorem quiet_ask {Value : Type} (answer : Except SignInError Value) :
    Quiet (ask answer : Action Profile Value) := fun _ _ same => same

theorem quiet_get {Value : Type} (field : BrowserSession Profile → Option Value) :
    Quiet (get field) := fun _ _ same => same

theorem quiet_remove (write : BrowserSession Profile → BrowserSession Profile) :
    Quiet (remove write) := fun _ _ same => same

theorem quiet_set (write : BrowserSession Profile → BrowserSession Profile) :
    Quiet (set write) := by
  intro deeds browser same
  rw [left, set, outcome]
  rcases browser with ⟨_ | session, _⟩ <;> exact same

theorem quiet_plain (deeds : List Deed) :
    Plain fun browser : Browser Profile => browser.deeds = deeds where
  writes write _ := quiet_set write deeds
  removes write _ := quiet_remove write deeds

theorem quiet_addAuthenticatedUser (config : SessionAccounts.SessionConfig) (now : Nat)
    (account : SessionUserAccount Profile) (setAsActive : Bool) :
    Quiet (addAuthenticatedUser config now account setAsActive) := by
  intro deeds browser same
  rcases browser with ⟨_ | session, _⟩ <;> exact same

theorem quiet_requestSecondFactor
    (keep : PendingMfaUser Profile → BrowserSession Profile → BrowserSession Profile)
    (user : User Profile) (continueUrl : Option String) :
    Quiet (requestSecondFactor services keep user continueUrl) := by
  exact Quiet.bind (quiet_set _) fun _ => quiet_pure _

theorem quiet_addAccount (intent : AddAccountIntent) (account : SessionUserAccount Profile) :
    Quiet (addAccount settings services intent account) :=
  Quiet.bind (quiet_addAuthenticatedUser _ _ _ _) fun _ =>
    Quiet.bind (quiet_remove _) fun _ => quiet_pure _

theorem left_bind_quiet {Value Result : Type} (call : Action Profile Value)
    {next : Value → Action Profile Result} (quiet : ∀ value, Quiet (next value))
    (browser : Browser Profile) :
    (left (call >>= next) browser).deeds = (left call browser).deeds := by
  rw [Calls.left_bind, left]
  rcases outcome call browser with ⟨_ | value, after⟩
  · rfl
  · exact (quiet value).left_eq after

theorem left_tryCatch_quiet {Value : Type} (call : Action Profile Value)
    {handle : SignInError → Action Profile Value} (quiet : ∀ error, Quiet (handle error))
    (browser : Browser Profile) :
    (left (tryCatch call handle) browser).deeds = (left call browser).deeds := by
  rw [Calls.left_tryCatch, left]
  rcases outcome call browser with ⟨error | value, after⟩
  · exact (quiet error).left_eq after
  · rfl

/-- The deeds once a session of the kind `marks` has been marked. -/
def noteMark (marks : BrowserSession Profile → Bool) (username : String)
    (browser : Browser Profile) : List Deed :=
  match browser.session with
  | some session =>
    if marks session then .authenticated session.id username :: browser.deeds
    else browser.deeds
  | none => browser.deeds

theorem userAccount_authenticationOf (now : Nat) (account : SessionUserAccount Profile) :
    SessionAccounts.userAccount now (authenticationOf account) =
      if stable account then some { account with last_used := some now } else none := rfl

variable (services)

theorem userAccount_username {now : Nat}
    {user : SessionAccounts.SessionAuthenticationAccount Profile}
    {account : SessionUserAccount Profile}
    (isAccount : SessionAccounts.userAccount now user = some account) :
    account.username = user.username := by
  rw [SessionAccounts.userAccount] at isAccount
  split at isAccount
  · cases isAccount
  · split at isAccount
    · cases isAccount
      rfl
    · cases isAccount

theorem left_setAuthenticated (now : Nat)
    (user : SessionAccounts.SessionAuthenticationAccount Profile) (browser : Browser Profile) :
    (left (setAuthenticated settings.session now user) browser).deeds =
      noteMark (fun _ => (SessionAccounts.userAccount now user).isSome) user.username browser := by
  rw [left, noteMark, outcome_setAuthenticated, marked]
  cases isAccount : SessionAccounts.userAccount now user with
  | none => rcases browser with ⟨_ | session, deeds⟩ <;> rfl
  | some account =>
    rcases browser with ⟨_ | session, deeds⟩
    · rfl
    · simp [SessionAccounts.setAuthenticated, isAccount, userAccount_username isAccount]

theorem authenticate_marks {account : SessionUserAccount Profile} (isStable : stable account = true)
    (session : BrowserSession Profile) (deeds : List Deed) :
    ∃ after : BrowserSession Profile,
      outcome (authenticate settings services account) ⟨some session, deeds⟩ =
        (.ok (), ⟨some after, .authenticated session.id account.username :: deeds⟩) := by
  rw [authenticate, outcome_setAuthenticated, marked, userAccount_authenticationOf]
  simp [isStable, SessionAccounts.setAuthenticated, userAccount_authenticationOf]

theorem authenticate_refuses (account : SessionUserAccount Profile) (browser : Browser Profile)
    (refused : stable account = false ∨ browser.session = none) :
    ∃ error, outcome (authenticate settings services account) browser = (.error error, browser) := by
  rw [authenticate, outcome_setAuthenticated, marked, userAccount_authenticationOf]
  cases isStable : stable account with
  | false => exact ⟨_, rfl⟩
  | true =>
    have isNone := refused.resolve_left (by simp [isStable])
    rw [isNone]
    exact ⟨_, rfl⟩

theorem left_authenticate (account : SessionUserAccount Profile) (browser : Browser Profile) :
    (left (authenticate settings services account) browser).deeds =
      noteMark (fun _ => stable account) account.username browser := by
  have noted := left_setAuthenticated settings services.now (authenticationOf account) browser
  rw [userAccount_authenticationOf] at noted
  rw [authenticate, noted]
  cases stable account <;> rfl

def isRefused (accounts : SessionAccounts.Session Profile) (existing : AuthenticatedUsers Profile)
    (account : SessionUserAccount Profile) : Bool :=
  match accountExists existing account with
  | none => true
  | some false =>
    (SessionAccounts.addAuthenticatedUser settings.session services.now accounts account
      true).2.isSome
  | some true =>
    !existing.active.any (fun active => sameAccount active account) &&
      decide ((SessionAccounts.switchUser settings.session services.now accounts
        account.id).2 = some .user_not_found)

/-- In an interaction the session is marked when it has no accounts, or refuses this one. -/
def marksInInteraction (accounts : SessionAccounts.Session Profile)
    (account : SessionUserAccount Profile) : Bool :=
  stable account && accounts.authenticatedUsers.all fun existing =>
    isRefused settings services accounts existing account

theorem switched_iff (refusal : Option SwitchRefusal) :
    (refusal.all fun reason => decide (reason = .reauth_required)) =
      !decide (refusal = some .user_not_found) := by
  rcases refusal with _ | reason
  · rfl
  · cases reason <;> rfl

theorem outcome_addOrUpdate {session : BrowserSession Profile} (deeds : List Deed)
    (account : SessionUserAccount Profile) {existing : AuthenticatedUsers Profile}
    (isUsers : session.accounts.authenticatedUsers = some existing) :
    outcome (addOrUpdateAccountInSession settings services account true) ⟨some session, deeds⟩ =
      match accountExists existing account with
      | none => (.ok false, ⟨some session, deeds⟩)
      | some false =>
        let added := SessionAccounts.addAuthenticatedUser settings.session services.now
          session.accounts account true
        (.ok added.2.isNone, ⟨some { session with accounts := added.1 }, deeds⟩)
      | some true =>
        if existing.active.any (fun active => sameAccount active account) then
          (.ok true, ⟨some (touchActive services.now session), deeds⟩)
        else
          let switched := SessionAccounts.switchUser settings.session services.now
            session.accounts account.id
          (.ok (switched.2.all fun refusal => refusal = .reauth_required),
            ⟨some { session with accounts := switched.1 }, deeds⟩) := by
  simp only [addOrUpdateAccountInSession, Calls.outcome_tryCatch, Calls.outcome_bind, outcome_get,
    Option.bind_some, isUsers, updateAccount]
  cases accountExists existing account with
  | none => rfl
  | some exists? =>
    cases exists? with
    | false => simp only [Calls.outcome_bind, outcome_addAuthenticatedUser, Calls.outcome_pure]
    | true =>
      by_cases isActive : existing.active.any (fun active => sameAccount active account) = true
      · simp only [isActive, Bool.true_eq_false, if_false, if_true]
        rfl
      · simp only [isActive, Bool.true_eq_false, Bool.false_eq_true, if_false,
          Calls.outcome_bind, outcome_switchUser, Calls.outcome_pure]

theorem outcome_addOrUpdate_refused {session : BrowserSession Profile} (deeds : List Deed)
    (account : SessionUserAccount Profile) {existing : AuthenticatedUsers Profile}
    (isUsers : session.accounts.authenticatedUsers = some existing) :
    ∃ after : BrowserSession Profile, after.id = session.id ∧
      outcome (addOrUpdateAccountInSession settings services account true) ⟨some session, deeds⟩ =
        (.ok (!isRefused settings services session.accounts existing account),
          ⟨some after, deeds⟩) := by
  rw [outcome_addOrUpdate settings services deeds account isUsers, isRefused]
  cases accountExists existing account with
  | none => exact ⟨session, rfl, rfl⟩
  | some exists? =>
    cases exists? with
    | false =>
      refine ⟨{ session with
        accounts := (SessionAccounts.addAuthenticatedUser settings.session services.now
          session.accounts account true).1 }, rfl, ?_⟩
      simp
    | true =>
      by_cases isActive : existing.active.any fun active => sameAccount active account
      · exact ⟨touchActive services.now session, rfl, by simp [isActive]⟩
      · refine ⟨{ session with
          accounts := (SessionAccounts.switchUser settings.session services.now
            session.accounts account.id).1 }, rfl, ?_⟩
        simp [isActive, switched_iff]

theorem left_authenticateInInteraction (account : SessionUserAccount Profile)
    (browser : Browser Profile) :
    (left (authenticateInInteraction settings services account) browser).deeds =
      noteMark (fun session => marksInInteraction settings services session.accounts account)
        account.username browser := by
  rw [noteMark, authenticateInInteraction, Calls.left_bind]
  rcases browser with ⟨_ | session, deeds⟩
  · have refused := left_authenticate settings services account ⟨none, deeds⟩
    rw [noteMark] at refused
    obtain ⟨error, refuses⟩ := authenticate_refuses settings services account ⟨none, deeds⟩
      (Or.inr rfl)
    simpa [addOrUpdateAccountInSession, Calls.outcome_tryCatch, Calls.outcome_bind,
      Calls.outcome_map, refuses] using refused
  · cases isUsers : session.accounts.authenticatedUsers with
    | none =>
      cases isStable : stable account with
      | true =>
        obtain ⟨after, marks⟩ := authenticate_marks settings services isStable session deeds
        simp [addOrUpdateAccountInSession, Calls.outcome_tryCatch, Calls.outcome_bind,
          Calls.outcome_map, isUsers, marks, marksInInteraction, isStable]
      | false =>
        have refused := left_authenticate settings services account ⟨some session, deeds⟩
        obtain ⟨error, refuses⟩ := authenticate_refuses settings services account
          ⟨some session, deeds⟩ (Or.inl isStable)
        simpa [addOrUpdateAccountInSession, Calls.outcome_tryCatch, Calls.outcome_bind,
          Calls.outcome_map, isUsers, refuses, marksInInteraction, isStable, noteMark]
          using refused
    | some existing =>
      obtain ⟨after, sameId, isOutcome⟩ :=
        outcome_addOrUpdate_refused settings services deeds account isUsers
      have fallback := left_authenticate settings services account ⟨some after, deeds⟩
      rw [isOutcome]
      cases isRefusal : isRefused settings services session.accounts existing account with
      | false => simp [marksInInteraction, isUsers, isRefusal]
      | true => simpa [marksInInteraction, isUsers, isRefusal, sameId, noteMark] using fallback

theorem guarded_of_verifies {deed : Deed} (verifies : deed.verifies = true) (deeds : List Deed) :
    Guarded (deed :: deeds) ↔ Guarded deeds := by
  cases deed <;> cases verifies <;> exact Iff.rfl

theorem notFailed {deed : Deed} (verifies : deed.verifies = true) :
    Deed.regenerationFailed ≠ deed := by
  intro same
  rw [← same] at verifies
  cases verifies

theorem guarded_noteMark_iff (regeneration : Regeneration)
    (session : Option (BrowserSession Profile)) {deed : Deed} (verifies : deed.verifies = true)
    (marks : BrowserSession Profile → Bool) (username : String) :
    Guarded (noteMark marks username (regenerated regeneration ⟨session, [deed]⟩).2) ↔
      (unregenerated regeneration session).any marks = false := by
  have atFirst : Guarded [deed] := (guarded_of_verifies verifies []).mpr trivial
  rcases session with _ | session
  · simpa [regenerated, noteMark, Guarded, unregenerated, Browser.noting] using atFirst
  · cases regeneration with
    | issues id =>
      by_cases isMarked : marks { session with id } = true
      · simpa [regenerated, noteMark, Guarded, unregenerated, isMarked, issuedId, verifies]
          using ⟨notFailed verifies, atFirst⟩
      · simpa [regenerated, noteMark, Guarded, unregenerated, isMarked] using atFirst
    | fails message remains =>
      cases isLeft : remains.of session with
      | none => simpa [regenerated, noteMark, Guarded, unregenerated, isLeft] using atFirst
      | some after =>
        by_cases isMarked : marks after = true
        · simp [regenerated, noteMark, Guarded, unregenerated, isLeft, isMarked]
        · simpa [regenerated, noteMark, Guarded, unregenerated, isLeft, isMarked] using atFirst

theorem guarded_noteMark_early (session : Option (BrowserSession Profile)) (deed : Deed)
    (verifies : deed.verifies = true) (marks : BrowserSession Profile → Bool) (username : String) :
    Guarded (noteMark marks username ⟨session, [deed]⟩) ↔ session.any marks = false := by
  have atFirst : Guarded [deed] := (guarded_of_verifies verifies []).mpr trivial
  rcases session with _ | session
  · simpa [noteMark] using atFirst
  · by_cases isMarked : marks session = true
    · have noId : issuedId [deed] = none := by cases deed <;> cases verifies <;> rfl
      simp [noteMark, Guarded, isMarked, noId]
    · simpa [noteMark, isMarked] using atFirst

theorem guarded_regenerated (regeneration : Regeneration)
    (session : Option (BrowserSession Profile)) {deed : Deed} (verifies : deed.verifies = true) :
    Guarded (regenerated regeneration ⟨session, [deed]⟩).2.deeds := by
  have unmarked := (guarded_noteMark_iff regeneration session verifies (fun _ => false) "").mpr
    (by cases unregenerated regeneration session <;> rfl)
  rw [noteMark] at unmarked
  generalize regenerated regeneration ⟨session, [deed]⟩ = answer at unmarked ⊢
  rcases answer with ⟨_, ⟨_ | after, deeds⟩⟩
  · exact unmarked
  · exact unmarked

theorem noteMark_remove (marked : Bool) (username : String) (browser : Browser Profile)
    (write : BrowserSession Profile → BrowserSession Profile)
    (sameId : ∀ session, (write session).id = session.id) :
    noteMark (fun _ => marked) username { browser with session := browser.session.map write } =
      noteMark (fun _ => marked) username browser := by
  rcases browser with ⟨_ | session, deeds⟩
  · rfl
  · simp [noteMark, sameId]

theorem guarded_after_regenerate {Value Result : Type} (regeneration : Regeneration)
    (session : Option (BrowserSession Profile)) (deed : Deed) (verifies : deed.verifies = true)
    {call : Action Profile Value} {marks : BrowserSession Profile → Bool} {username : String}
    (notes : ∀ browser, (left call browser).deeds = noteMark marks username browser)
    {next : Value → Action Profile Result} (quiet : ∀ value, Quiet (next value)) :
    Guarded (left (regenerate regeneration >>= fun _ => call >>= next)
      ⟨session, [deed]⟩).deeds := by
  rw [Calls.left_bind, outcome_regenerate]
  rcases session with _ | session
  · exact guarded_regenerated regeneration none verifies
  · cases regeneration with
    | fails message remains =>
      exact guarded_regenerated (.fails message remains) (some session) verifies
    | issues id =>
      simp only [regenerated]
      rw [left_bind_quiet _ quiet, notes]
      exact (guarded_noteMark_iff (.issues id) (some session) verifies marks username).mpr rfl

def Safe {Value : Type} (call : Action Profile Value) : Prop :=
  Keeps (fun browser => Guarded browser.deeds) call

theorem Quiet.safe {Value : Type} {call : Action Profile Value} (quiet : Quiet call) :
    Safe call := by
  intro browser guarded
  rw [quiet.left_eq]
  exact guarded

theorem safe_note {deed : Deed} (verifies : deed.verifies = true) :
    Safe (note deed : Action Profile Unit) :=
  fun browser guarded => (guarded_of_verifies verifies browser.deeds).mpr guarded

theorem safe_regenerateOrLog (regeneration : Regeneration) :
    Safe (regenerateOrLog regeneration : Action Profile Unit) := by
  intro browser guarded
  rw [left, outcome_regenerateOrLog]
  rcases browser with ⟨_ | session, deeds⟩
  · exact guarded
  · cases regeneration <;> exact guarded

theorem Safe.bind {Value Result : Type} {call : Action Profile Value}
    {next : Value → Action Profile Result} (first : Safe call)
    (second : ∀ value, Safe (next value)) : Safe (call >>= next) :=
  Keeps.bind first second

theorem safe_plain : Plain fun browser : Browser Profile => Guarded browser.deeds where
  writes write _ := (quiet_set write).safe
  removes write _ := (quiet_remove write).safe

theorem guarded_bind_quiet {Value Result : Type} {call : Action Profile Value}
    (quiet : Quiet call) {next : Value → Action Profile Result} (deeds : List Deed)
    (guarded : Guarded deeds)
    (rest : ∀ value session, Guarded (left (next value) ⟨session, deeds⟩).deeds)
    (session : Option (BrowserSession Profile)) :
    Guarded (left (call >>= next) ⟨session, deeds⟩).deeds := by
  have sameDeeds := quiet.left_eq ⟨session, deeds⟩
  rw [left] at sameDeeds
  rw [Calls.left_bind]
  generalize outcome call ⟨session, deeds⟩ = answer at sameDeeds ⊢
  rcases answer with ⟨_ | value, ⟨after, noted⟩⟩
  · rw [show noted = deeds from sameDeeds]
    exact guarded
  · rw [show noted = deeds from sameDeeds]
    exact rest value after

end Deeds

end ParakoId.SignIn
