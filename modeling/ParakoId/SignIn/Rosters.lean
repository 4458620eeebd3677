import ParakoId.SignIn.Listed

/-!
What every sign-in keeps of the list of the session, whichever names may get on it: each handler is
followed once, for all the invariants that its parts keep.
-/

namespace ParakoId.SignIn

open Calls (Call Keeps left outcome keeps_pure keeps_throw left_bind_keeps)
open SecondFactors (MfaMethod)
open SessionAccounts (SessionConfig SessionUserAccount SessionAuthenticationAccount
  AuthenticatedUsers)

section Rosters

variable {Profile : Type}

/-- `Holds known` stays where nobody gets on the list but those whom `allows known` lets, and what
is known is learnt from the deeds. -/
structure Roster {Known : Type} (Holds : Known → Browser Profile → Prop)
    (allows : Known → String → Prop) (learn : Known → Deed → Known) : Prop where
  noting : ∀ {known browser deed}, deed.isMark = false → Holds known browser →
    Holds (learn known deed) (browser.noting deed)
  forget : ∀ {known deed browser}, Holds (learn known deed) browser → Holds known browser
  knows : ∀ known username method,
    allows (learn known (.secondFactorVerified username method)) username
  marking : ∀ {known browser username} (id : String), allows known username → Holds known browser →
    Holds known (browser.noting (.authenticated id username))
  relist : ∀ {known browser} (after : Option (BrowserSession Profile)),
    (∀ session, after = some session → ∀ name ∈ usernames session.accounts,
      ∃ earlier, browser.session = some earlier ∧ name ∈ usernames earlier.accounts) →
    Holds known browser → Holds known { browser with session := after }
  enlist : ∀ {known session deeds username} (after : BrowserSession Profile),
    allows known username →
    (∀ name ∈ usernames after.accounts, name = username ∨ name ∈ usernames session.accounts) →
    Holds known ⟨some session, deeds⟩ → Holds known ⟨some after, deeds⟩

inductive Services.Answers (services : Services Profile) : User Profile → Prop
  | loginWith {method : LoginMethod} {identifier password : String} {user : User Profile} :
      services.loginWith method identifier password = .ok (some user) → Answers services user
  | handleCallback {result : SocialLoginResult Profile} {user : User Profile} :
      services.handleCallback = .ok result → result.user = some user → Answers services user
  | completeTier1 {result : SocialLoginResult Profile} {user : User Profile} :
      services.completeTier1 = .ok result → result.user = some user → Answers services user

section Trust

variable {Known : Type} (allows : Known → String → Prop) (learn : Known → Deed → Known)
  (known : Known)

/-- The credentials of the account, once verified, let it on the list. -/
def Trusted (username : String) : Prop :=
  allows (learn known (.credentialsVerified username)) username

structure TrustsPortal (services : Services Profile) : Prop where
  answered : ∀ user, services.Answers user → isMfaEnabled user = false →
    Trusted allows learn known user.username
  registered : ∀ user, services.registerSocialUser = .ok (some user) →
    Trusted allows learn known user.username

end Trust

namespace Roster

variable {Known : Type} {Holds : Known → Browser Profile → Prop} {allows : Known → String → Prop}
  {learn : Known → Deed → Known} (roster : Roster Holds allows learn) {known : Known}
  {settings : Settings} {services : Services Profile}

include roster

theorem keeps_note {Value : Type} {deed : Deed} (isNoMark : deed.isMark = false)
    {next : Unit → Action Profile Value} (rest : Keeps (Holds (learn known deed)) (next ())) :
    Keeps (Holds known) (note deed >>= next) :=
  Keeps.after (fun _ => roster.forget) (fun _ => roster.noting isNoMark) fun _ => rest

theorem keeps_remove (write : BrowserSession Profile → BrowserSession Profile)
    (same : ∀ session, (write session).accounts = session.accounts) :
    Keeps (Holds known) (remove write) := by
  refine fun browser => roster.relist _ fun session isSession name member => ?_
  obtain ⟨earlier, isEarlier, rfl⟩ := Option.map_eq_some_iff.mp isSession
  exact ⟨earlier, isEarlier, by rwa [same] at member⟩

theorem keeps_set (write : BrowserSession Profile → BrowserSession Profile)
    (same : ∀ session, usernames (write session).accounts = usernames session.accounts) :
    Keeps (Holds known) (set write) := by
  rintro ⟨_ | session, deeds⟩ holds
  · exact holds
  · refine roster.relist _ (fun after isSession name member => ?_) holds
    cases isSession
    exact ⟨session, rfl, by rwa [same] at member⟩

theorem keeps_noted {deed : Deed} (isNoMark : deed.isMark = false) :
    Keeps (Holds known) (note deed : Action Profile Unit) :=
  fun _ holds => roster.forget (roster.noting isNoMark holds)

theorem plain : Plain (Holds known) :=
  ⟨fun write same => roster.keeps_set write fun session => by rw [same], roster.keeps_remove⟩

theorem keeps_regenerate (regeneration : Regeneration) :
    Keeps (Holds known) (regenerate regeneration : Action Profile Unit) := by
  rintro ⟨_ | session, deeds⟩ holds
  · exact roster.forget (roster.noting rfl holds)
  · cases regeneration with
    | issues id =>
      have noted := roster.forget (roster.noting (rfl : (Deed.regenerated id).isMark = false) holds)
      refine roster.relist _ (fun after isSession name member => ?_) noted
      cases isSession
      exact ⟨session, rfl, member⟩
    | fails message remains =>
      have noted := roster.forget (roster.noting (rfl : Deed.regenerationFailed.isMark = false) holds)
      refine roster.relist _ (fun after isSession name member => ?_) noted
      cases remains with
      | kept =>
        cases isSession
        exact ⟨session, rfl, member⟩
      | blank id =>
        cases isSession
        cases member
      | gone => cases isSession

theorem keeps_regenerateOrLog (regeneration : Regeneration) :
    Keeps (Holds known) (regenerateOrLog regeneration : Action Profile Unit) :=
  (roster.keeps_regenerate regeneration).tryCatch fun _ => keeps_pure ()

theorem keeps_setAuthenticated (config : SessionConfig) (now : Nat)
    (user : SessionAuthenticationAccount Profile) (isKnown : allows known user.username) :
    Keeps (Holds known) (setAuthenticated config now user) := by
  rintro ⟨session, deeds⟩ holds
  rw [left, outcome_setAuthenticated, marked]
  cases isAccount : SessionAccounts.userAccount now user with
  | none => exact holds
  | some account =>
    cases session with
    | none => exact holds
    | some session =>
      dsimp only
      cases isSet : SessionAccounts.setAuthenticated config now session.accounts (some user) with
      | error message => exact holds
      | ok accounts =>
        have enlisted := roster.enlist { session with accounts, isAuthenticated := true }
          isKnown (fun name member => mem_usernames_setAuthenticated isSet member) holds
        rw [userAccount_username isAccount]
        exact roster.marking session.id isKnown enlisted

theorem keeps_addAuthenticatedUser (config : SessionConfig) (now : Nat)
    (account : SessionUserAccount Profile) (setAsActive : Bool)
    (isKnown : allows known account.username) :
    Keeps (Holds known) (addAuthenticatedUser config now account setAsActive) := by
  rintro ⟨_ | session, deeds⟩ holds
  · exact holds
  · exact roster.enlist _ isKnown (fun name => mem_usernames_addAuthenticatedUser) holds

theorem keeps_switchUser (config : SessionConfig) (now : Nat) (userId : String) :
    Keeps (Holds known) (switchUser config now userId : Action Profile _) := by
  rintro ⟨_ | session, deeds⟩ holds
  · exact holds
  · refine roster.relist _ (fun after isSession name member => ?_) holds
    cases isSession
    exact ⟨session, rfl, mem_usernames_switchUser member⟩

theorem keeps_authenticate (account : SessionUserAccount Profile)
    (isKnown : allows known account.username) :
    Keeps (Holds known) (authenticate settings services account) :=
  roster.keeps_setAuthenticated settings.session services.now (authenticationOf account) isKnown

theorem keeps_requestSecondFactor
    (keep : PendingMfaUser Profile → BrowserSession Profile → BrowserSession Profile)
    (same : ∀ pending session, (keep pending session).accounts = session.accounts)
    (user : User Profile) (continueUrl : Option String) :
    Keeps (Holds known) (requestSecondFactor services keep user continueUrl) :=
  Keeps.bind (roster.keeps_set _ fun session => by rw [same]) fun _ => keeps_pure _

theorem keeps_addAccount (intent : AddAccountIntent) (account : SessionUserAccount Profile)
    (isKnown : allows known account.username) :
    Keeps (Holds known) (addAccount settings services intent account) :=
  Keeps.bind (roster.keeps_addAuthenticatedUser _ _ _ _ isKnown) fun _ =>
    Keeps.bind (roster.keeps_remove _ fun _ => rfl) fun _ => keeps_pure _

theorem keeps_continueLogin (account : SessionUserAccount Profile) (url : String)
    (isKnown : allows known account.username) :
    Keeps (Holds known) (continueLogin settings services account url) := by
  refine Keeps.bind (roster.keeps_addAuthenticatedUser _ _ _ _ isKnown) fun refusal => ?_
  exact Keeps.ite
    (fun _ => Keeps.bind (roster.keeps_authenticate account isKnown) fun _ => keeps_pure _)
    fun _ => keeps_pure _

theorem keeps_signIn {Value : Type} (account : SessionUserAccount Profile)
    (isKnown : allows known account.username)
    {next : Unit → Action Profile Value} (rest : ∀ value, Keeps (Holds known) (next value)) :
    Keeps (Holds known) (regenerateOrLog services.regeneration >>= fun _ =>
      authenticate settings services account >>= next) :=
  Keeps.bind (roster.keeps_regenerateOrLog _) fun _ =>
    Keeps.bind (roster.keeps_authenticate account isKnown) rest

theorem keeps_completeLogin (account : SessionUserAccount Profile) (continueUrl : Option String)
    (isKnown : allows known account.username) :
    Keeps (Holds known) (completeLogin settings services account continueUrl) := by
  refine Keeps.bind (keeps_get _) fun intent => ?_
  cases intent with
  | some intent => exact roster.keeps_addAccount intent account isKnown
  | none =>
    refine Keeps.bind (keeps_get _) fun redirectUrl => ?_
    cases continueUrl with
    | some url => exact roster.keeps_continueLogin account url isKnown
    | none =>
      cases redirectUrl with
      | some url =>
        exact Keeps.bind (roster.keeps_remove _ fun _ => rfl) fun _ =>
          roster.keeps_signIn account isKnown fun _ => keeps_pure _
      | none => exact roster.keeps_signIn account isKnown fun _ => keeps_pure _

theorem keeps_processLogin (trusts : TrustsPortal allows learn known services) (form : LoginForm) :
    Keeps (Holds known) (processLogin settings services form) := by
  refine Keeps.tryCatch ?_ fun _ => keeps_pure _
  cases form.identifier services with
  | none => exact keeps_pure _
  | some found =>
    rcases found with ⟨method, identifier⟩
    refine Keeps.ite (fun _ => keeps_pure _) fun _ => keeps_asking fun found isFound => ?_
    cases found with
    | none => exact keeps_pure _
    | some user =>
      refine roster.keeps_note rfl (Keeps.ite
        (fun _ => roster.keeps_requestSecondFactor keepPendingMfaUser (fun _ _ => rfl) user _)
        fun noMfa => roster.keeps_completeLogin _ _ ?_)
      exact trusts.answered user (.loginWith isFound) (Bool.not_eq_true _ ▸ noMfa)

theorem keeps_codeAccepted (pending : PendingMfaUser Profile) (method : MfaMethod)
    (continueUrl : Option String) :
    Keeps (Holds known) (codeAccepted settings services pending method continueUrl) := by
  refine roster.keeps_note rfl (roster.keeps_signIn (usedNow services pending.account)
    (roster.knows _ _ _) fun _ => ?_)
  exact Keeps.bind (roster.keeps_remove _ fun _ => rfl) fun _ =>
    roster.plain.keeps_finishMfa pending continueUrl

theorem keeps_processMfaVerify (code : String) (continueUrl : Option String) :
    Keeps (Holds known)
      (processMfaVerify settings services code continueUrl : Action Profile Response) := by
  refine Keeps.tryCatch (Keeps.bind (keeps_get _) fun pending => ?_) fun _ => keeps_pure _
  cases pending with
  | none => exact keeps_pure _
  | some pending =>
    refine Keeps.ite (fun _ => keeps_pure _) fun _ => ?_
    cases pending.mfa_method with
    | none => exact keeps_pure _
    | some method =>
      cases method with
      | webauthn => exact keeps_pure _
      | totp | email =>
        exact Keeps.ite (fun _ => roster.keeps_codeAccepted _ _ _) fun _ => keeps_pure _

theorem keeps_passkeyAdded (pending : PendingMfaUser Profile) :
    Keeps (Holds known) (passkeyAdded settings services pending) :=
  Keeps.bind (roster.keeps_set _ fun _ => rfl) fun _ => roster.keeps_note rfl <|
    Keeps.bind (roster.keeps_regenerateOrLog _) fun _ =>
      Keeps.bind (roster.keeps_addAuthenticatedUser _ _ (usedNow services pending.account) _
        (roster.knows _ _ _)) fun _ =>
          Keeps.bind (roster.keeps_remove _ fun _ => rfl) fun _ => keeps_pure _

theorem keeps_passkeyAccepted (pending : PendingMfaUser Profile) :
    Keeps (Holds known) (passkeyAccepted settings services pending) := by
  refine roster.keeps_note rfl (roster.keeps_signIn (usedNow services pending.account)
    (roster.knows _ _ _) fun _ => ?_)
  exact Keeps.bind (roster.keeps_remove _ fun _ => rfl) fun _ => keeps_pure _

theorem keeps_verifyAuthentication (credential : Option String) :
    Keeps (Holds known) (verifyAuthentication settings services credential) := by
  refine Keeps.tryCatch (Keeps.bind (keeps_get _) fun pending => ?_) fun _ => keeps_pure _
  cases pending with
  | none => exact keeps_pure _
  | some pending =>
    refine Keeps.bind roster.plain.keeps_getChallenge fun challenge => ?_
    cases challenge with
    | none => exact keeps_pure _
    | some challenge =>
      cases credential with
      | none => exact keeps_pure _
      | some credential =>
        refine Keeps.bind (keeps_matchingCredential _ _) fun matching => ?_
        cases matching with
        | none => exact keeps_pure _
        | some matching =>
          refine Keeps.bind (roster.keeps_remove _ fun _ => rfl) fun _ =>
            Keeps.ite (fun _ => ?_) fun _ => keeps_pure _
          cases services.updateCredential pending.account.username matching with
          | error error => exact keeps_pure _
          | ok done => exact roster.keeps_passkeyAccepted pending

theorem keeps_registrationAccepted (callback : SocialCallback) (user : User Profile)
    (isKnown : Trusted allows learn known user.username) :
    Keeps (Holds known) (registrationAccepted settings services callback user) := by
  refine roster.keeps_note rfl (roster.keeps_signIn (userAccountOf services user) isKnown fun _ =>
    Keeps.bind (keeps_get _) fun redirectUrl => ?_)
  cases callback.continueUrl with
  | some url => exact keeps_pure _
  | none =>
    cases redirectUrl with
    | some url => exact Keeps.bind (roster.keeps_remove _ fun _ => rfl) fun _ => keeps_pure _
    | none => exact keeps_pure _

theorem keeps_handleSocialRegistration (trusts : TrustsPortal allows learn known services)
    (callback : SocialCallback) :
    Keeps (Holds known) (handleSocialRegistration settings services callback) := by
  refine Keeps.tryCatch (keeps_asking fun found isFound => ?_) fun _ => keeps_pure _
  cases found with
  | none => exact keeps_pure _
  | some user =>
    refine Keeps.ite (fun _ => keeps_pure _) fun _ => Keeps.ite (fun _ => ?_) fun _ => ?_
    · exact keeps_phoneVerification _
    · exact roster.keeps_registrationAccepted callback user (trusts.registered user isFound)

theorem keeps_completeSocialLogin (callback : SocialCallback)
    (account : SessionUserAccount Profile)
    (isKnown : allows known account.username) :
    Keeps (Holds known) (completeSocialLogin settings services callback account) := by
  refine Keeps.bind (keeps_get _) fun intent => ?_
  cases intent with
  | some intent => exact roster.keeps_addAccount intent account isKnown
  | none =>
    refine Keeps.bind (keeps_get _) fun redirectUrl => ?_
    cases callback.continueUrl with
    | some url =>
      exact Keeps.bind (roster.keeps_regenerateOrLog _) fun _ =>
        Keeps.bind (roster.keeps_addAuthenticatedUser _ _ _ _ isKnown) fun _ => keeps_pure _
    | none =>
      cases redirectUrl with
      | some url =>
        exact Keeps.bind (roster.keeps_regenerateOrLog _) fun _ =>
          Keeps.bind (roster.keeps_remove _ fun _ => rfl) fun _ =>
            Keeps.bind (roster.keeps_authenticate account isKnown) fun _ => keeps_pure _
      | none => exact roster.keeps_signIn account isKnown fun _ => keeps_pure _

theorem keeps_socialUserAccepted (callback : SocialCallback) (user : User Profile)
    (isKnown : isMfaEnabled user = false → Trusted allows learn known user.username) :
    Keeps (Holds known) (socialUserAccepted settings services callback user) := by
  refine Keeps.ite (fun _ => keeps_phoneVerification _) fun _ =>
    roster.keeps_note rfl (Keeps.ite (fun _ => ?_) fun noMfa => ?_)
  · exact Keeps.bind (keeps_get _) fun _ =>
      roster.keeps_requestSecondFactor keepPendingSocialMfaUser (fun _ _ => rfl) user _
  · exact roster.keeps_completeSocialLogin callback _ (isKnown (Bool.not_eq_true _ ▸ noMfa))

theorem keeps_regularSocialCallback (trusts : TrustsPortal allows learn known services)
    (callback : SocialCallback) :
    Keeps (Holds known) (regularSocialCallback settings services callback) := by
  refine Keeps.ite (fun _ => keeps_pure _) fun _ => keeps_asking fun result isResult =>
    Keeps.bind (keeps_get _) fun intent => ?_
  cases intent with
  | some intent => exact roster.plain.keeps_answerLinkIntent callback intent result
  | none =>
    refine Keeps.ite (fun _ => ?_) fun _ => Keeps.ite
      (fun _ => roster.keeps_handleSocialRegistration trusts callback) fun _ => keeps_pure _
    cases isUser : result.user with
    | none => exact keeps_pure _
    | some user =>
      exact roster.keeps_socialUserAccepted callback user
        (trusts.answered user (.handleCallback isResult isUser))

theorem keeps_socialCallback (trusts : TrustsPortal allows learn known services)
    (callback : SocialCallback) :
    Keeps (Holds known) (socialCallback settings services callback) := by
  refine Keeps.tryCatch (Keeps.bind (keeps_get _) fun context => ?_) fun _ => keeps_pure _
  cases context with
  | none => exact roster.keeps_regularSocialCallback trusts callback
  | some context =>
    exact Keeps.ite (fun _ => keeps_pure _) fun _ =>
      Keeps.bind (roster.keeps_remove _ fun _ => rfl) fun _ =>
        roster.keeps_regularSocialCallback trusts callback

end Roster

end Rosters

end ParakoId.SignIn
