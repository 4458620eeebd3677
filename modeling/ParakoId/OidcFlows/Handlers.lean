import ParakoId.SessionAccounts.Accounts

/-!
The handlers of OIDC interactions on one browser session, and the results that they hand to the
provider.
-/

namespace ParakoId.OidcFlows

open SessionAccounts (Session SessionConfig SessionUserAccount SessionAuthenticationAccount Call
  getActiveUser switchUser addAuthenticatedUser setAuthenticated usedAt isNamed sessionStep)

inductive PromptName
  | login
  | mfa
  | consent
  | select_account
  deriving DecidableEq

inductive Method
  | password
  | social
  | totp
  | email
  | webauthn
  | selection
  deriving DecidableEq

inductive NewDeviceMethod
  | totp
  | email

def NewDeviceMethod.method : NewDeviceMethod → Method
  | .totp => .totp
  | .email => .email

inductive MfaMethod
  | totp
  | email
  | webauthn

structure LoginResult where
  accountId : String
  amr : Option (List String)
  acr : Option String
  ts : Option Nat
  deriving DecidableEq

structure OidcSession where
  accountId : String
  amr : Option (List String)

structure Interaction where
  prompt : PromptName
  acr_values : String
  session : Option OidcSession

structure PendingNewDeviceVerification (Profile : Type) where
  method : NewDeviceMethod
  userAccount : SessionUserAccount Profile
  interactionUid : String
  created_at : Nat
  socialProvider : Option String

structure OidcSocialContext where
  uid : String
  timestamp : Nat

structure Completed where
  uid : Option String
  username : String
  method : Method

/-- The browser session and the provider's; besides, the checks passed in the session, and the
results handed over, each with its interaction. -/
structure Browser (Profile : Type) where
  now : Nat
  session : Session Profile
  pendingNewDeviceVerification : Option (PendingNewDeviceVerification Profile)
  oidcSocialContext : Option OidcSocialContext
  provider : Option OidcSession
  interactions : List (String × Interaction)
  completed : List Completed
  finished : List (String × LoginResult)

/-- A browser session without accounts, and no session of the provider. -/
def opened (Profile : Type) (now : Nat) : Browser Profile where
  now := now
  session := ⟨none, none, none⟩
  pendingNewDeviceVerification := none
  oidcSocialContext := none
  provider := none
  interactions := []
  completed := []
  finished := []

def SOCIAL_CONTEXT_TTL_MS : Nat := 10 * 60 * 1000

def NEW_DEVICE_VERIFICATION_TTL_MS : Nat := 10 * 60 * 1000

structure PasswordLogin (Profile : Type) where
  userAccount : SessionUserAccount Profile
  newDevice : Option NewDeviceMethod
  mfaMethods : Option (List MfaMethod)

structure SocialLogin (Profile : Type) where
  userAccount : SessionUserAccount Profile
  provider : String
  newDevice : Option NewDeviceMethod

/-- Requests to the handlers; what the provider does between them; and requests to other pages,
which may change the accounts of the session and may check credentials. -/
inductive Request (Profile : Type)
  | interaction (uid : String) (isAuthenticated : Bool) (mfaMethods : Option (List MfaMethod))
  | login (uid : String) (user : Option (PasswordLogin Profile))
  | selectAccount (uid accountId : String)
  | mfa (uid : String) (verified : Option NewDeviceMethod)
  | webauthn (uid : String) (verified : Bool)
  | newDeviceVerify (uid : String) (isValid : Bool)
  | socialLogin (uid : String)
  | socialCallback (user : Option (SocialLogin Profile))
  | begin (uid : String) (prompt : PromptName) (acrValues : String)
  | resume (index : Option Nat)
  | page (call : Call Profile) (passed : Option (String × Method))
  | wait (elapsed : Nat)

section Handlers

variable {Profile : Type} (config : SessionConfig)

namespace Browser

def details (browser : Browser Profile) (uid : String) : Option Interaction :=
  browser.interactions.lookup uid

/-- `interactionFinished`, which throws without an interaction. -/
def finish (browser : Browser Profile) (uid : String) (result : LoginResult) : Browser Profile :=
  if (browser.details uid).isSome then
    { browser with finished := browser.finished ++ [(uid, result)] }
  else browser

def complete (browser : Browser Profile) (uid : Option String) (username : String)
    (method : Method) : Browser Profile :=
  { browser with completed := ⟨uid, username, method⟩ :: browser.completed }

def seconds (browser : Browser Profile) : Nat := browser.now / 1000

def touch (browser : Browser Profile) : Browser Profile :=
  { browser with
    session := { browser.session with
      authenticatedUsers := browser.session.authenticatedUsers.map fun users =>
        { users with active := users.active.map (usedAt browser.now) } } }

end Browser

def toAuthentication (account : SessionUserAccount Profile) :
    SessionAuthenticationAccount Profile :=
  ⟨some account.id, none, account.username, account.profile⟩

/-- Whether this has put the account into the session, or has only asked for its password; an
exception on the way counts as a failure. -/
def addOrUpdateAccountInSession (now : Nat) (session : Session Profile)
    (userAccount : SessionUserAccount Profile) : Session Profile × Bool :=
  match session.authenticatedUsers with
  | none =>
    match setAuthenticated config now session (some (toAuthentication userAccount)) with
    | .ok next => (next, true)
    | .error _ => (session, false)
  | some users =>
    if users.active.any (SessionAccounts.sameAccount userAccount) then
      ({ session with
          authenticatedUsers := some { users with active := users.active.map (usedAt now) } },
        true)
    else
      match users.others with
      | none => (session, false)
      | some others =>
        if others.any (SessionAccounts.sameAccount userAccount) then
          let (next, refusal) := switchUser config now session userAccount.id
          (next, refusal ≠ some .user_not_found)
        else
          let (next, refusal) := addAuthenticatedUser config now session userAccount true
          (next, refusal = none)

def signedIn (now : Nat) (session : Session Profile) (userAccount : SessionUserAccount Profile) :
    Option (Session Profile) :=
  let (next, success) := addOrUpdateAccountInSession config now session userAccount
  if success then some next
  else (setAuthenticated config now next (some (toAuthentication userAccount))).toOption

def interactionHandle (browser : Browser Profile) (uid : String) (isAuthenticated : Bool)
    (mfaMethods : Option (List MfaMethod)) : Browser Profile :=
  match browser.details uid, getActiveUser browser.session with
  | some interaction, some activeUser =>
    match interaction.prompt with
    | .login =>
      if isAuthenticated ∧ activeUser.username ≠ "" then
        browser.touch.finish uid ⟨activeUser.username, none, none, none⟩
      else browser
    | .mfa =>
      match mfaMethods with
      | none | some [] =>
        browser.finish uid
          ⟨activeUser.username, some ["pwd"], some "urn:pwd", some browser.seconds⟩
      | some (_ :: _) => browser
    | .consent | .select_account => browser
  | _, _ => browser

def wantsMfa (interaction : Interaction) (user : PasswordLogin Profile) : Bool :=
  let wantsOtp := (interaction.acr_values.splitOn " ").contains "urn:mfa:otp"
  wantsOtp && user.mfaMethods.any fun methods => !methods.isEmpty

def loginResult (browser : Browser Profile) (interaction : Interaction)
    (user : PasswordLogin Profile) : LoginResult :=
  if wantsMfa interaction user then
    ⟨user.userAccount.username, some ["pwd"], some "urn:mfa:otp", none⟩
  else ⟨user.userAccount.username, some ["pwd"], some "urn:pwd", some browser.seconds⟩

def loginHandle (browser : Browser Profile) (uid : String) (user : Option (PasswordLogin Profile)) :
    Browser Profile :=
  match browser.details uid, user with
  | some interaction, some user =>
    let next := browser.complete (some uid) user.userAccount.username .password
    match user.newDevice with
    | some method =>
      { next with
        pendingNewDeviceVerification :=
          some ⟨method, user.userAccount, uid, browser.now, none⟩ }
    | none =>
      match signedIn config browser.now browser.session user.userAccount with
      | none => next
      | some session => { next with session }.finish uid (loginResult browser interaction user)
  | _, _ => browser

def selectedAccount (session : Session Profile) (accountId : String) :
    Option (SessionUserAccount Profile) :=
  ((getActiveUser session).filter (isNamed accountId)).or
    (session.others.find? (isNamed accountId))

def switchTo (browser : Browser Profile) (selected : SessionUserAccount Profile) :
    Session Profile × Option SessionAccounts.SwitchRefusal :=
  if (getActiveUser browser.session).any fun active => active.id ≠ selected.id then
    switchUser config browser.now browser.session selected.id
  else (browser.session, none)

def selectAccountHandle (browser : Browser Profile) (uid accountId : String) : Browser Profile :=
  match browser.details uid with
  | none => browser
  | some interaction =>
    if interaction.prompt ≠ .select_account ∨ accountId = "" then browser
    else
      match selectedAccount browser.session accountId with
      | none => browser
      | some selected =>
        let next := { browser with session := (switchTo config browser selected).1 }
        if (switchTo config browser selected).2 = none then
          (next.complete (some uid) selected.username .selection).touch.finish uid
            ⟨selected.username, some ["pwd", "select_account"], some "urn:pwd",
              some browser.seconds⟩
        else next

def withMethod (amr : Option (List String)) (method : String) : List String :=
  let existingAmr := amr.getD ["pwd"]
  if existingAmr.contains method then existingAmr else existingAmr ++ [method]

def secondFactorHandle (browser : Browser Profile) (uid : String) (verified : Option Method)
    (amrName acr : String) : Browser Profile :=
  match browser.details uid, verified with
  | some interaction, some method =>
    match interaction.session.filter fun session => session.accountId ≠ "" with
    | none => browser
    | some session =>
      (browser.complete (some uid) session.accountId method).finish uid
        ⟨session.accountId, some (withMethod session.amr amrName), some acr,
          some browser.seconds⟩
  | _, _ => browser

def mfaHandle (browser : Browser Profile) (uid : String) (verified : Option NewDeviceMethod) :
    Browser Profile :=
  secondFactorHandle browser uid (verified.map NewDeviceMethod.method) "otp" "urn:mfa:otp"

def webauthnHandle (browser : Browser Profile) (uid : String) (verified : Bool) :
    Browser Profile :=
  secondFactorHandle browser uid (if verified then some .webauthn else none) "hwk"
    "urn:mfa:webauthn"

def newDeviceAmr : NewDeviceMethod → List String
  | .totp => ["pwd", "otp"]
  | .email => ["pwd", "email"]

def isPendingVerificationExpired (browser : Browser Profile)
    (pending : PendingNewDeviceVerification Profile) : Bool :=
  decide (browser.now < pending.created_at) ||
    decide (NEW_DEVICE_VERIFICATION_TTL_MS < browser.now - pending.created_at)

def newDeviceVerifyHandle (browser : Browser Profile) (uid : String) (isValid : Bool) :
    Browser Profile :=
  match browser.pendingNewDeviceVerification.filter fun pending => pending.interactionUid = uid with
  | none => browser
  | some pending =>
    let closed := { browser with pendingNewDeviceVerification := none }
    if isPendingVerificationExpired browser pending then closed
    else if isValid = false then browser
    else
      let next := closed.complete (some uid) pending.userAccount.username pending.method.method
      match signedIn config browser.now browser.session pending.userAccount with
      | none => next
      | some session =>
        { next with session }.finish uid
          ⟨pending.userAccount.username, some (newDeviceAmr pending.method), none, none⟩

def socialLoginHandle (browser : Browser Profile) (uid : String) : Browser Profile :=
  if uid = "" then browser
  else { browser with oidcSocialContext := some ⟨uid, browser.now⟩ }

/-- Without a new device, the account is signed in and the browser goes back to the interaction. -/
def socialCallbackHandle (browser : Browser Profile) (user : Option (SocialLogin Profile)) :
    Browser Profile :=
  match browser.oidcSocialContext with
  | none => browser
  | some context =>
    let closed := { browser with oidcSocialContext := none }
    if SOCIAL_CONTEXT_TTL_MS < browser.now - context.timestamp then closed
    else
      match user with
      | none => closed
      | some user =>
        let next := browser.complete (some context.uid) user.userAccount.username .social
        match user.newDevice with
        | some method =>
          { next with
            pendingNewDeviceVerification :=
              some ⟨method, user.userAccount, context.uid, browser.now, some user.provider⟩ }
        | none =>
          match setAuthenticated config browser.now browser.session
              (some (toAuthentication user.userAccount)) with
          | .error _ => { next with oidcSocialContext := none }
          | .ok session => { next with session, oidcSocialContext := none }

def step (browser : Browser Profile) : Request Profile → Browser Profile
  | .interaction uid isAuthenticated mfaMethods =>
    interactionHandle browser uid isAuthenticated mfaMethods
  | .login uid user => loginHandle config browser uid user
  | .selectAccount uid accountId => selectAccountHandle config browser uid accountId
  | .mfa uid verified => mfaHandle browser uid verified
  | .webauthn uid verified => webauthnHandle browser uid verified
  | .newDeviceVerify uid isValid => newDeviceVerifyHandle config browser uid isValid
  | .socialLogin uid => socialLoginHandle browser uid
  | .socialCallback user => socialCallbackHandle config browser user
  | .begin uid prompt acrValues =>
    { browser with
      interactions := (uid, ⟨prompt, acrValues, browser.provider⟩) :: browser.interactions }
  | .resume index =>
    { browser with
      provider := (index.bind fun place => browser.finished[place]?).map fun entry =>
        ⟨entry.2.accountId, entry.2.amr⟩ }
  | .page call passed =>
    let next := { browser with session := sessionStep config browser.session call }
    match passed with
    | none => next
    | some (username, method) => next.complete none username method
  | .wait elapsed => { browser with now := browser.now + elapsed }

end Handlers

structure ResultProperty where
  holds : List Completed → String × LoginResult → Prop
  mono : ∀ {completed more entry}, completed ⊆ more → holds completed entry → holds more entry

namespace ResultProperty

variable {Profile : Type} (property : ResultProperty) {browser next : Browser Profile}

def OfAll (browser : Browser Profile) : Prop :=
  ∀ entry ∈ browser.finished, property.holds browser.completed entry

section

variable (all : property.OfAll browser)
include all

theorem ofAll_mono (finished : next.finished = browser.finished)
    (grows : browser.completed ⊆ next.completed) : property.OfAll next := by
  intro entry member
  rw [finished] at member
  exact property.mono grows (all entry member)

theorem ofAll_complete (uid : Option String) (username : String) (method : Method) :
    property.OfAll (browser.complete uid username method) :=
  property.ofAll_mono all rfl (List.subset_cons_self _ _)

theorem ofAll_finish_iff {uid : String} {interaction : Interaction}
    (isOpen : browser.details uid = some interaction) (result : LoginResult) :
    property.OfAll (browser.finish uid result) ↔ property.holds browser.completed (uid, result) := by
  rw [Browser.finish, if_pos (by rw [isOpen]; rfl)]
  constructor
  · intro allNext
    exact allNext (uid, result) (List.mem_append_right _ (List.mem_singleton_self _))
  · intro holds entry member
    rcases List.mem_append.mp member with isOld | isNew
    · exact all entry isOld
    · rw [List.mem_singleton.mp isNew]
      exact holds

theorem ofAll_selectAccount_iff (config : SessionConfig) (uid accountId : String) :
    property.OfAll (selectAccountHandle config browser uid accountId) ↔
      ∀ interaction, browser.details uid = some interaction →
        interaction.prompt = .select_account → accountId ≠ "" →
          ∀ selected, selectedAccount browser.session accountId = some selected →
            (switchTo config browser selected).2 = none →
              property.holds
                (browser.complete (some uid) selected.username .selection).completed
                (uid, ⟨selected.username, some ["pwd", "select_account"], some "urn:pwd",
                  some browser.seconds⟩) := by
  rw [selectAccountHandle]
  split
  · rename_i isClosed
    exact iff_of_true all (by simp [isClosed])
  · rename_i interaction isOpen
    simp only [isOpen, Option.some.injEq, forall_eq']
    split
    · rename_i refused
      refine iff_of_true all ?_
      intro isPrompt isGiven
      exact absurd refused (by simp [isPrompt, isGiven])
    · rename_i accepted
      rw [not_or, not_not] at accepted
      split
      · rename_i noAccount
        exact iff_of_true all (by simp [noAccount])
      · rename_i selected isSelected
        simp only [accepted, isSelected, ne_eq, not_false_eq_true, true_implies, Option.some.injEq,
          forall_eq']
        have switched : property.OfAll
            { browser with session := (switchTo config browser selected).1 } := all
        split
        · rename_i isSwitched
          have selection : property.OfAll ((Browser.complete
              { browser with session := (switchTo config browser selected).1 } (some uid)
              selected.username .selection).touch) :=
            property.ofAll_complete switched (some uid) selected.username .selection
          refine (property.ofAll_finish_iff selection isOpen _).trans ?_
          simp only [isSwitched, true_implies]
          exact Iff.rfl
        · rename_i notSwitched
          exact iff_of_true switched fun isSwitched => absurd isSwitched notSwitched

theorem ofAll_socialLogin (uid : String) : property.OfAll (socialLoginHandle browser uid) := by
  rw [socialLoginHandle]
  split <;> exact all

theorem ofAll_socialCallback (config : SessionConfig) (user : Option (SocialLogin Profile)) :
    property.OfAll (socialCallbackHandle config browser user) := by
  rw [socialCallbackHandle]
  split
  · exact all
  · rename_i context isContext
    dsimp only
    split
    · exact all
    · split
      · exact all
      · rename_i user
        have completed := property.ofAll_complete all (some context.uid) user.userAccount.username
          .social
        split
        · exact completed
        · split <;> exact completed

theorem ofAll_page (config : SessionConfig) (call : Call Profile)
    (passed : Option (String × Method)) :
    property.OfAll (step config browser (.page call passed)) := by
  cases passed with
  | none => exact all
  | some passed => exact property.ofAll_mono all rfl (List.subset_cons_self _ _)

end

end ResultProperty

end ParakoId.OidcFlows
