import ParakoId.Library.Runs
import ParakoId.OidcFlows.Handlers

/-! Which methods a login result says an account has used. -/

namespace ParakoId.OidcFlows

open Runs (AlwaysFrom AllowedFrom)
open SessionAccounts (Session SessionConfig getActiveUser)

variable {Profile : Type}

/-- The methods that an `amr` or `acr` value may stand for. -/
@[grind =]
def methodsNamed : String → List Method
  | "pwd" | "urn:pwd" => [.password]
  | "otp" | "urn:mfa:otp" => [.totp, .email]
  | "email" => [.email]
  | "hwk" | "urn:mfa:webauthn" => [.webauthn]
  | "select_account" => [.selection]
  | _ => []

def HasCompleted (completed : List Completed) (username name : String) : Prop :=
  ∃ done ∈ completed, done.username = username ∧ done.method ∈ methodsNamed name

structure IsTruthful (completed : List Completed) (result : LoginResult) : Prop where
  amr : ∀ name ∈ result.amr.getD [], HasCompleted completed result.accountId name
  acr : ∀ name, result.acr = some name → HasCompleted completed result.accountId name

def TruthfulMethods (browser : Browser Profile) : Prop :=
  ∀ entry ∈ browser.finished, IsTruthful browser.completed entry.2

/-- Whoever is said to have used a password has done so: the account that a GET finishes an MFA
prompt for, an account that is selected, one whose session names no methods at its second factor,
and one with a new device after a social login; and a login that wants a code has had one. -/
def MethodsCompleted (config : SessionConfig) (browser : Browser Profile) :
    Request Profile → Prop
  | .interaction uid _ mfaMethods =>
    ∀ interaction, browser.details uid = some interaction →
      ∀ activeUser, getActiveUser browser.session = some activeUser →
        interaction.prompt = .mfa → mfaMethods.getD [] = [] →
          HasCompleted browser.completed activeUser.username "pwd"
  | .login uid user =>
    ∀ interaction, browser.details uid = some interaction → ∀ login, user = some login →
      login.newDevice = none →
        signedIn config browser.now browser.session login.userAccount ≠ none →
          wantsMfa interaction login = true →
            HasCompleted browser.completed login.userAccount.username "otp"
  | .selectAccount uid accountId =>
    ∀ interaction, browser.details uid = some interaction →
      interaction.prompt = .select_account → accountId ≠ "" →
        ∀ selected, selectedAccount browser.session accountId = some selected →
          (switchTo config browser selected).2 = none →
            HasCompleted browser.completed selected.username "pwd"
  | .mfa uid verified =>
    ∀ interaction, browser.details uid = some interaction →
      ∀ session, interaction.session = some session → session.accountId ≠ "" →
        verified ≠ none → session.amr = none →
          HasCompleted browser.completed session.accountId "pwd"
  | .webauthn uid verified =>
    ∀ interaction, browser.details uid = some interaction →
      ∀ session, interaction.session = some session → session.accountId ≠ "" →
        verified = true → session.amr = none →
          HasCompleted browser.completed session.accountId "pwd"
  | .newDeviceVerify uid isValid =>
    ∀ pending, browser.pendingNewDeviceVerification = some pending →
      pending.interactionUid = uid → isPendingVerificationExpired browser pending = false →
        isValid = true →
          signedIn config browser.now browser.session pending.userAccount ≠ none →
            browser.details uid ≠ none → pending.socialProvider ≠ none →
              HasCompleted browser.completed pending.userAccount.username "pwd"
  | _ => True

theorem hasCompleted_mono {completed more : List Completed} (grows : completed ⊆ more)
    {username name : String} (has : HasCompleted completed username name) :
    HasCompleted more username name := by
  obtain ⟨done, member, passed⟩ := has
  exact ⟨done, grows member, passed⟩

theorem hasCompleted_complete (browser : Browser Profile) (uid : Option String)
    (username : String) (method : Method) (name : String) :
    HasCompleted (browser.complete uid username method).completed username name ↔
      method ∈ methodsNamed name ∨ HasCompleted browser.completed username name := by
  simp [HasCompleted, Browser.complete]

@[simp] theorem hasCompleted_urnPwd (completed : List Completed) (username : String) :
    HasCompleted completed username "urn:pwd" ↔ HasCompleted completed username "pwd" := Iff.rfl

@[simp] theorem hasCompleted_urnOtp (completed : List Completed) (username : String) :
    HasCompleted completed username "urn:mfa:otp" ↔ HasCompleted completed username "otp" := Iff.rfl

theorem truthful_mono {completed more : List Completed} (grows : completed ⊆ more)
    {result : LoginResult} (truthful : IsTruthful completed result) : IsTruthful more result :=
  ⟨fun name member => hasCompleted_mono grows (truthful.amr name member),
    fun name isAcr => hasCompleted_mono grows (truthful.acr name isAcr)⟩

theorem isTruthful_iff {completed : List Completed} {accountId acr : String} {amr : List String}
    {ts : Option Nat} :
    IsTruthful completed ⟨accountId, some amr, some acr, ts⟩ ↔
      (∀ name ∈ amr, HasCompleted completed accountId name) ∧
        HasCompleted completed accountId acr := by
  constructor
  · intro truthful
    exact ⟨truthful.amr, truthful.acr acr rfl⟩
  · rintro ⟨names, isAcr⟩
    refine ⟨names, ?_⟩
    rintro name ⟨⟩
    exact isAcr

def truthfulMethods : ResultProperty where
  holds completed entry := IsTruthful completed entry.2
  mono grows := truthful_mono grows

section Steps

variable {browser next : Browser Profile}

section

variable (truthful : TruthfulMethods browser)
include truthful

theorem methods_finish_iff {uid : String} {interaction : Interaction}
    (isOpen : browser.details uid = some interaction) (result : LoginResult) :
    TruthfulMethods (browser.finish uid result) ↔ IsTruthful browser.completed result :=
  truthfulMethods.ofAll_finish_iff truthful isOpen result

theorem methods_complete (uid : Option String) (username : String) (method : Method) :
    TruthfulMethods (browser.complete uid username method) :=
  truthfulMethods.ofAll_complete truthful uid username method

theorem methods_session (session : Session Profile) :
    TruthfulMethods { browser with session } := truthful

theorem methods_touch : TruthfulMethods browser.touch :=
  truthful

end

def SessionTruthful (completed : List Completed) (session : OidcSession) : Prop :=
  ∀ amr, session.amr = some amr → ∀ name ∈ amr, HasCompleted completed session.accountId name

structure Carried (browser : Browser Profile) : Prop where
  provider : ∀ session, browser.provider = some session →
    SessionTruthful browser.completed session
  interactions : ∀ entry ∈ browser.interactions, ∀ session, entry.2.session = some session →
    SessionTruthful browser.completed session
  pending : ∀ pending, browser.pendingNewDeviceVerification = some pending →
    pending.socialProvider = none →
      HasCompleted browser.completed pending.userAccount.username "pwd"

theorem sessionTruthful_mono {completed more : List Completed} (grows : completed ⊆ more)
    {session : OidcSession} (truthful : SessionTruthful completed session) :
    SessionTruthful more session :=
  fun amr isAmr name member => hasCompleted_mono grows (truthful amr isAmr name member)

section

variable (carried : Carried browser)
include carried

theorem carried_mono (provider : next.provider = browser.provider)
    (interactions : next.interactions = browser.interactions)
    (pending : ∀ pending, next.pendingNewDeviceVerification = some pending →
      browser.pendingNewDeviceVerification = some pending)
    (grows : browser.completed ⊆ next.completed) : Carried next where
  provider session isProvider :=
    sessionTruthful_mono grows (carried.provider session (provider ▸ isProvider))
  interactions entry member session isSession :=
    sessionTruthful_mono grows
      (carried.interactions entry (interactions ▸ member) session isSession)
  pending held isHeld isOwn :=
    hasCompleted_mono grows (carried.pending held (pending held isHeld) isOwn)

theorem carried_complete (uid : Option String) (username : String) (method : Method) :
    Carried (browser.complete uid username method) :=
  carried_mono carried rfl rfl (fun _ => id) (List.subset_cons_self _ _)

theorem carried_session (session : Session Profile) : Carried { browser with session } :=
  ⟨carried.provider, carried.interactions, carried.pending⟩

theorem carried_touch : Carried browser.touch :=
  ⟨carried.provider, carried.interactions, carried.pending⟩

theorem carried_finish (uid : String) (result : LoginResult) :
    Carried (browser.finish uid result) := by
  rw [Browser.finish]
  split
  · exact ⟨carried.provider, carried.interactions, carried.pending⟩
  · exact carried

theorem carried_details {uid : String} {interaction : Interaction}
    (isOpen : browser.details uid = some interaction) {session : OidcSession}
    (isSession : interaction.session = some session) :
    SessionTruthful browser.completed session := by
  obtain ⟨before, after, split, _⟩ := List.lookup_eq_some_iff.mp isOpen
  refine carried.interactions (uid, interaction) ?_ session isSession
  rw [split]
  exact List.mem_append_right _ List.mem_cons_self

end

theorem isTruthful_password_iff {completed : List Completed} {accountId : String}
    {ts : Option Nat} :
    IsTruthful completed ⟨accountId, some ["pwd"], some "urn:pwd", ts⟩ ↔
      HasCompleted completed accountId "pwd" := by
  simp [isTruthful_iff]

theorem interaction_methods_iff (truthful : TruthfulMethods browser) (config : SessionConfig)
    (uid : String) (isAuthenticated : Bool) (mfaMethods : Option (List MfaMethod)) :
    TruthfulMethods (interactionHandle browser uid isAuthenticated mfaMethods) ↔
      MethodsCompleted config browser (.interaction uid isAuthenticated mfaMethods) := by
  rw [interactionHandle]
  split
  · rename_i interaction activeUser isOpen isActive
    simp only [MethodsCompleted, isOpen, isActive, Option.some.injEq, forall_eq']
    split
    · rename_i isLogin
      refine iff_of_true ?_ (by simp [isLogin])
      split
      · refine (methods_finish_iff (methods_touch truthful) isOpen _).mpr ⟨?_, ?_⟩
        · simp
        · rintro name ⟨⟩
      · exact truthful
    · rename_i isMfa
      simp only [isMfa, true_implies]
      split
      · refine (methods_finish_iff truthful isOpen _).trans ?_
        simp [isTruthful_password_iff]
      · refine (methods_finish_iff truthful isOpen _).trans ?_
        simp [isTruthful_password_iff]
      · exact iff_of_true truthful (by simp)
    · rename_i isConsent
      exact iff_of_true truthful (by simp [isConsent])
    · rename_i isSelection
      exact iff_of_true truthful (by simp [isSelection])
  · rename_i absent
    refine iff_of_true truthful ?_
    intro interaction isOpen activeUser isActive _
    exact (absent interaction activeUser isOpen isActive).elim

theorem selectAccount_methods_iff (truthful : TruthfulMethods browser) (config : SessionConfig)
    (uid accountId : String) :
    TruthfulMethods (selectAccountHandle config browser uid accountId) ↔
      MethodsCompleted config browser (.selectAccount uid accountId) := by
  refine (truthfulMethods.ofAll_selectAccount_iff truthful config uid accountId).trans ?_
  simp only [truthfulMethods, isTruthful_iff, List.forall_mem_cons, hasCompleted_complete]
  simp [methodsNamed, MethodsCompleted]

theorem login_methods_iff (truthful : TruthfulMethods browser) (config : SessionConfig)
    (uid : String) (user : Option (PasswordLogin Profile)) :
    TruthfulMethods (loginHandle config browser uid user) ↔
      MethodsCompleted config browser (.login uid user) := by
  unfold loginHandle
  split
  · rename_i interaction login isOpen
    simp only [MethodsCompleted, isOpen, Option.some.injEq, forall_eq']
    have completed := methods_complete truthful (some uid) login.userAccount.username .password
    split
    · rename_i method isNew
      exact iff_of_true completed (by simp [isNew])
    · rename_i notNew
      split
      · rename_i refused
        exact iff_of_true completed (by simp [refused])
      · rename_i session isSession
        refine (methods_finish_iff (methods_session completed session) isOpen _).trans ?_
        have named (name : String) :=
          hasCompleted_complete browser (some uid) login.userAccount.username .password name
        simp only [notNew, isSession, ne_eq, reduceCtorEq, not_false_eq_true, true_implies]
        rw [loginResult]
        split
        · rename_i wants
          rw [isTruthful_iff]
          simp [named, methodsNamed, wants]
        · rename_i wantsNot
          rw [isTruthful_iff]
          simp [named, methodsNamed, wantsNot]
  · rename_i absent
    refine iff_of_true truthful ?_
    intro interaction isOpen login isLogin
    exact (absent interaction login isOpen isLogin).elim

theorem forall_withMethod (amr : Option (List String)) (method : String) (holds : String → Prop) :
    (∀ name ∈ withMethod amr method, holds name) ↔
      (∀ name ∈ amr.getD ["pwd"], holds name) ∧ holds method := by
  rw [withMethod]
  split
  · rename_i named
    have member : method ∈ amr.getD ["pwd"] := by simpa using named
    exact ⟨fun all => ⟨all, all method member⟩, And.left⟩
  · simp only [List.forall_mem_append, List.forall_mem_singleton]

theorem secondFactor_methods_iff (truthful : TruthfulMethods browser) (carried : Carried browser)
    (uid : String) {verified : Option Method} {amrName acr : String}
    (sameName : methodsNamed acr = methodsNamed amrName)
    (isNamed : ∀ method, verified = some method →
      method ∈ methodsNamed amrName ∧ method ∉ methodsNamed "pwd") :
    TruthfulMethods (secondFactorHandle browser uid verified amrName acr) ↔
      ∀ interaction, browser.details uid = some interaction →
        ∀ session, interaction.session = some session → session.accountId ≠ "" →
          verified ≠ none → session.amr = none →
            HasCompleted browser.completed session.accountId "pwd" := by
  unfold secondFactorHandle
  split
  · rename_i interaction method isOpen
    obtain ⟨inName, noPassword⟩ := isNamed method rfl
    simp only [isOpen, Option.some.injEq, forall_eq']
    split
    · rename_i noSession
      refine iff_of_true truthful ?_
      intro session isSession hasAccount
      rw [isSession, Option.filter_some, if_pos (by simpa using hasAccount)] at noSession
      cases noSession
    · rename_i session isFiltered
      obtain ⟨isSession, hasAccount⟩ := Option.filter_eq_some_iff.mp isFiltered
      have hasAccount : session.accountId ≠ "" := by simpa using hasAccount
      have completed := methods_complete truthful (some uid) session.accountId method
      have named (name : String) :=
        hasCompleted_complete browser (some uid) session.accountId method name
      have isAcr : HasCompleted (browser.complete (some uid) session.accountId method).completed
          session.accountId acr := (named acr).mpr (.inl (sameName ▸ inName))
      refine (methods_finish_iff completed isOpen _).trans ?_
      rw [isTruthful_iff, forall_withMethod, named amrName]
      simp only [isSession, Option.some.injEq, forall_eq', hasAccount, ne_eq, reduceCtorEq,
        not_false_eq_true, true_implies, inName, true_or, isAcr, and_true]
      cases isAmr : session.amr with
      | none => simp [named, noPassword]
      | some amr =>
        refine iff_of_true ?_ (by simp)
        intro name member
        exact (named name).mpr
          (.inr (carried_details carried isOpen isSession amr isAmr name member))
  · rename_i absent
    refine iff_of_true truthful ?_
    intro interaction isOpen session _ _ isVerified
    obtain ⟨method, isMethod⟩ := Option.ne_none_iff_exists'.mp isVerified
    exact (absent interaction method isOpen isMethod).elim

theorem newDevice_truthful_iff (browser : Browser Profile) (uid username : String)
    (method : NewDeviceMethod) :
    IsTruthful (browser.complete (some uid) username method.method).completed
        ⟨username, some (newDeviceAmr method), none, none⟩ ↔
      HasCompleted browser.completed username "pwd" := by
  have named := hasCompleted_complete browser (some uid) username method.method
  constructor
  · intro isTruthful
    have isNamed : "pwd" ∈ newDeviceAmr method := by
      cases method <;> simp [newDeviceAmr]
    rcases (named "pwd").mp (isTruthful.amr "pwd" isNamed) with isMethod | has
    · cases method <;> simp [NewDeviceMethod.method, methodsNamed] at isMethod
    · exact has
  · intro has
    have hasPassword := (named "pwd").mpr (.inr has)
    refine ⟨?_, ?_⟩
    · cases method with
      | totp =>
        have hasCode := (named "otp").mpr (.inl (by simp [NewDeviceMethod.method, methodsNamed]))
        simp [newDeviceAmr, hasPassword, hasCode]
      | email =>
        have hasCode := (named "email").mpr
          (.inl (by simp [NewDeviceMethod.method, methodsNamed]))
        simp [newDeviceAmr, hasPassword, hasCode]
    · rintro name ⟨⟩

theorem newDeviceVerify_methods_iff (truthful : TruthfulMethods browser)
    (carried : Carried browser) (config : SessionConfig) (uid : String) (isValid : Bool) :
    TruthfulMethods (newDeviceVerifyHandle config browser uid isValid) ↔
      MethodsCompleted config browser (.newDeviceVerify uid isValid) := by
  rw [newDeviceVerifyHandle]
  split
  · rename_i noPending
    refine iff_of_true truthful ?_
    intro pending isPending isOwn
    rw [isPending, Option.filter_some, if_pos (by simpa using isOwn)] at noPending
    cases noPending
  · rename_i pending isFiltered
    obtain ⟨isPending, isOwn⟩ := Option.filter_eq_some_iff.mp isFiltered
    have isOwn : pending.interactionUid = uid := by simpa using isOwn
    simp only [MethodsCompleted, isPending, Option.some.injEq, forall_eq', isOwn, true_implies]
    have closed : TruthfulMethods { browser with pendingNewDeviceVerification := none } := truthful
    split
    · rename_i expired
      exact iff_of_true closed (by simp [expired])
    · rename_i notExpired
      split
      · rename_i isInvalid
        exact iff_of_true truthful (by simp [isInvalid])
      · rename_i notInvalid
        have completed := methods_complete closed (some uid) pending.userAccount.username
          pending.method.method
        split
        · rename_i refused
          exact iff_of_true completed (by simp [refused])
        · rename_i session isSession
          cases isOpen : browser.details uid with
          | none =>
            have isClosed : (browser.details uid).isSome = false := by simp [isOpen]
            refine iff_of_true ?_ (by simp)
            rw [Browser.finish]
            split
            · rename_i opened
              exact absurd (isClosed.symm.trans opened) (by decide)
            · exact completed
          | some interaction =>
            refine (methods_finish_iff (methods_session completed session) isOpen _).trans ?_
            refine (newDevice_truthful_iff { browser with pendingNewDeviceVerification := none }
              uid pending.userAccount.username pending.method).trans ?_
            have isValid : isValid = true := by simpa using notInvalid
            simp only [notExpired, isValid, isSession, ne_eq, reduceCtorEq, not_false_eq_true,
              true_implies]
            constructor
            · exact fun has _ => has
            · intro has
              by_cases isOwnPassword : pending.socialProvider = none
              · exact carried.pending pending isPending isOwnPassword
              · exact has isOwnPassword

theorem methods_step_iff (config : SessionConfig) (browser : Browser Profile)
    (request : Request Profile) (carried : Carried browser) (truthful : TruthfulMethods browser) :
    TruthfulMethods (step config browser request) ↔ MethodsCompleted config browser request := by
  have all : truthfulMethods.OfAll browser := truthful
  cases request with
  | interaction uid isAuthenticated mfaMethods =>
    exact interaction_methods_iff truthful config uid isAuthenticated mfaMethods
  | selectAccount uid accountId => exact selectAccount_methods_iff truthful config uid accountId
  | login uid user => exact login_methods_iff truthful config uid user
  | mfa uid verified =>
    have sameName : methodsNamed "urn:mfa:otp" = methodsNamed "otp" := rfl
    have isNamed (method : Method)
        (isMethod : verified.map NewDeviceMethod.method = some method) :
        method ∈ methodsNamed "otp" ∧ method ∉ methodsNamed "pwd" := by
      obtain ⟨code, _, rfl⟩ := Option.map_eq_some_iff.mp isMethod
      cases code <;> simp [NewDeviceMethod.method, methodsNamed]
    refine (secondFactor_methods_iff truthful carried uid sameName isNamed).trans ?_
    simp [MethodsCompleted]
  | webauthn uid verified =>
    have sameName : methodsNamed "urn:mfa:webauthn" = methodsNamed "hwk" := rfl
    have isNamed (method : Method)
        (isMethod : (if verified then some Method.webauthn else none) = some method) :
        method ∈ methodsNamed "hwk" ∧ method ∉ methodsNamed "pwd" := by
      cases verified <;> cases isMethod
      simp [methodsNamed]
    refine (secondFactor_methods_iff truthful carried uid sameName isNamed).trans ?_
    simp [MethodsCompleted]
  | newDeviceVerify uid isValid =>
    exact newDeviceVerify_methods_iff truthful carried config uid isValid
  | socialLogin uid => exact iff_of_true (truthfulMethods.ofAll_socialLogin all uid) trivial
  | socialCallback user =>
    exact iff_of_true (truthfulMethods.ofAll_socialCallback all config user) trivial
  | begin _ _ _ | resume _ | wait _ => exact iff_of_true truthful trivial
  | page call passed =>
    exact iff_of_true (truthfulMethods.ofAll_page all config call passed) trivial

section

variable (carried : Carried browser)
include carried

theorem carried_pending (pending : PendingNewDeviceVerification Profile)
    (isOwn : pending.socialProvider = none →
      HasCompleted browser.completed pending.userAccount.username "pwd") :
    Carried { browser with pendingNewDeviceVerification := some pending } := by
  refine ⟨carried.provider, carried.interactions, ?_⟩
  rintro _ ⟨⟩
  exact isOwn

theorem carried_closed : Carried { browser with pendingNewDeviceVerification := none } := by
  refine ⟨carried.provider, carried.interactions, ?_⟩
  rintro _ ⟨⟩

theorem carried_interaction (uid : String) (isAuthenticated : Bool)
    (mfaMethods : Option (List MfaMethod)) :
    Carried (interactionHandle browser uid isAuthenticated mfaMethods) := by
  rw [interactionHandle]
  split
  · split
    · split
      · exact carried_finish (carried_touch carried) _ _
      · exact carried
    · split
      · exact carried_finish carried _ _
      · exact carried_finish carried _ _
      · exact carried
    · exact carried
    · exact carried
  · exact carried

theorem carried_selectAccount (config : SessionConfig) (uid accountId : String) :
    Carried (selectAccountHandle config browser uid accountId) := by
  rw [selectAccountHandle]
  split
  · exact carried
  · split
    · exact carried
    · split
      · exact carried
      · rename_i selected isSelected
        have switched := carried_session carried (switchTo config browser selected).1
        split
        · have selection := carried_complete switched (some uid) selected.username .selection
          exact carried_finish (carried_touch selection) _ _
        · exact switched

theorem carried_login (config : SessionConfig) (uid : String)
    (user : Option (PasswordLogin Profile)) : Carried (loginHandle config browser uid user) := by
  unfold loginHandle
  split
  · rename_i interaction login isOpen
    have completed := carried_complete carried (some uid) login.userAccount.username .password
    split
    · refine carried_pending completed _ fun _ => ?_
      exact (hasCompleted_complete _ _ _ _ _).mpr (.inl (by simp [methodsNamed]))
    · split
      · exact completed
      · rename_i session isSession
        exact carried_finish (carried_session completed session) _ _
  · exact carried

theorem carried_secondFactor (uid : String) (verified : Option Method) (amrName acr : String) :
    Carried (secondFactorHandle browser uid verified amrName acr) := by
  unfold secondFactorHandle
  split
  · split
    · exact carried
    · exact carried_finish (carried_complete carried _ _ _) _ _
  · exact carried

theorem carried_newDeviceVerify (config : SessionConfig) (uid : String) (isValid : Bool) :
    Carried (newDeviceVerifyHandle config browser uid isValid) := by
  have closed := carried_closed carried
  rw [newDeviceVerifyHandle]
  split
  · exact carried
  · rename_i pending isPending
    split
    · exact closed
    · split
      · exact carried
      · have completed := carried_complete closed (some uid) pending.userAccount.username
          pending.method.method
        split
        · exact completed
        · rename_i session isSession
          exact carried_finish (carried_session completed session) _ _

theorem carried_socialCallback (config : SessionConfig) (user : Option (SocialLogin Profile)) :
    Carried (socialCallbackHandle config browser user) := by
  have closed : Carried { browser with oidcSocialContext := none } :=
    ⟨carried.provider, carried.interactions, carried.pending⟩
  rw [socialCallbackHandle]
  split
  · exact carried
  · rename_i context isContext
    dsimp only
    split
    · exact closed
    · split
      · exact closed
      · rename_i user
        have completed := carried_complete carried (some context.uid) user.userAccount.username
          .social
        split
        · refine carried_pending completed _ ?_
          intro isOwn
          cases isOwn
        · split
          · exact ⟨completed.provider, completed.interactions, completed.pending⟩
          · exact ⟨completed.provider, completed.interactions, completed.pending⟩

end

theorem carried_step (config : SessionConfig) (browser : Browser Profile)
    (request : Request Profile) (carried : Carried browser) (truthful : TruthfulMethods browser) :
    Carried (step config browser request) := by
  cases request with
  | interaction uid isAuthenticated mfaMethods =>
    exact carried_interaction carried uid isAuthenticated mfaMethods
  | selectAccount uid accountId => exact carried_selectAccount carried config uid accountId
  | login uid user => exact carried_login carried config uid user
  | mfa uid verified => exact carried_secondFactor carried uid _ _ _
  | webauthn uid verified => exact carried_secondFactor carried uid _ _ _
  | newDeviceVerify uid isValid => exact carried_newDeviceVerify carried config uid isValid
  | socialLogin uid =>
    rw [step, socialLoginHandle]
    split
    · exact carried
    · exact ⟨carried.provider, carried.interactions, carried.pending⟩
  | socialCallback user => exact carried_socialCallback carried config user
  | begin uid prompt acrValues =>
    refine ⟨carried.provider, ?_, carried.pending⟩
    intro entry member session isSession
    rcases List.mem_cons.mp member with rfl | isOld
    · exact carried.provider session isSession
    · exact carried.interactions entry isOld session isSession
  | resume index =>
    refine ⟨?_, carried.interactions, carried.pending⟩
    intro session isSession
    obtain ⟨entry, isEntry, rfl⟩ := Option.map_eq_some_iff.mp isSession
    obtain ⟨place, _, isPlace⟩ := Option.bind_eq_some_iff.mp isEntry
    intro amr isAmr name member
    refine (truthful entry (List.mem_of_getElem? isPlace)).amr name ?_
    have isResult : entry.2.amr = some amr := isAmr
    rwa [isResult]
  | page call passed =>
    have changed := carried_session carried (SessionAccounts.sessionStep config browser.session call)
    cases passed with
    | none => exact changed
    | some passed => exact carried_complete changed none passed.1 passed.2
  | wait elapsed => exact ⟨carried.provider, carried.interactions, carried.pending⟩

end Steps

theorem carried_opened (now : Nat) : Carried (opened Profile now) := by
  constructor <;> simp [opened]

theorem truthful_opened (now : Nat) : TruthfulMethods (opened Profile now) := by
  simp [TruthfulMethods, opened]

/-- Login results name what their accounts have completed exactly while no handler takes a
password for granted, and no login wants a code that it has not had. -/
theorem methods_truthful_iff (config : SessionConfig) (now : Nat)
    (requests : List (Request Profile)) :
    AlwaysFrom (step config) TruthfulMethods (opened Profile now) requests ↔
      AllowedFrom (step config) (MethodsCompleted config) (opened Profile now) requests :=
  Runs.always_iff_allowed_within _
    (fun browser request carried truthful _ => carried_step config browser request carried truthful)
    (methods_step_iff config) (carried_opened now) (truthful_opened now)

theorem social_login_named_password :
    ¬AlwaysFrom (step ⟨some true, none, none⟩) TruthfulMethods (opened Unit 0)
      [.begin "first" .login "", .socialLogin "first",
        .socialCallback (some ⟨⟨"1", "alice", none, ()⟩, "google", some .email⟩),
        .newDeviceVerify "first" true] := by
  intro always
  have truthful := always.final
  obtain ⟨done, member, _, isPassword⟩ :=
    (truthful ("first", ⟨"alice", some ["pwd", "email"], none, none⟩) (by decide)).amr "pwd"
      (by decide)
  have completed : done = ⟨some "first", "alice", .email⟩ ∨
      done = ⟨some "first", "alice", .social⟩ := by
    simpa using (show done ∈ [⟨some "first", "alice", .email⟩, ⟨some "first", "alice", .social⟩]
      from member)
  rcases completed with rfl | rfl
  · simp [methodsNamed] at isPassword
  · simp [methodsNamed] at isPassword

end ParakoId.OidcFlows
