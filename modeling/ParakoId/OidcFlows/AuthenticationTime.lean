import ParakoId.Library.Runs
import ParakoId.OidcFlows.Handlers

/-!
When an account was authenticated. The provider takes a login result as an authentication that
has just been made; the browser session alone is enough for some of them.
-/

namespace ParakoId.OidcFlows

open Runs (AlwaysFrom AllowedFrom)
open SessionAccounts (SessionConfig SessionUserAccount getActiveUser)

variable {Profile : Type}

def VerifiedIn (completed : List Completed) (uid username : String) : Prop :=
  ∃ done ∈ completed, done.uid = some uid ∧ done.username = username ∧ done.method ≠ .selection

def HonestTimes (browser : Browser Profile) : Prop :=
  ∀ entry ∈ browser.finished, VerifiedIn browser.completed entry.1 entry.2.accountId

def TakesShortCut (prompt : PromptName) (isAuthenticated : Bool)
    (mfaMethods : Option (List MfaMethod)) (activeUser : SessionUserAccount Profile) : Prop :=
  prompt = .login ∧ isAuthenticated = true ∧ activeUser.username ≠ "" ∨
    prompt = .mfa ∧ mfaMethods.getD [] = []

def VerifiedBefore (config : SessionConfig) (browser : Browser Profile) :
    Request Profile → Prop
  | .interaction uid isAuthenticated mfaMethods =>
    ∀ interaction, browser.details uid = some interaction →
      ∀ activeUser, getActiveUser browser.session = some activeUser →
        TakesShortCut interaction.prompt isAuthenticated mfaMethods activeUser →
          VerifiedIn browser.completed uid activeUser.username
  | .selectAccount uid accountId =>
    ∀ interaction, browser.details uid = some interaction →
      interaction.prompt = .select_account → accountId ≠ "" →
        ∀ selected, selectedAccount browser.session accountId = some selected →
          (switchTo config browser selected).2 = none →
            VerifiedIn browser.completed uid selected.username
  | _ => True

theorem verifiedIn_mono {completed more : List Completed} (grows : completed ⊆ more)
    {uid username : String} (verified : VerifiedIn completed uid username) :
    VerifiedIn more uid username := by
  obtain ⟨done, member, passed⟩ := verified
  exact ⟨done, grows member, passed⟩

theorem verifiedIn_complete {browser : Browser Profile} {uid username : String} {method : Method}
    (isCredential : method ≠ .selection) :
    VerifiedIn (browser.complete (some uid) username method).completed uid username :=
  ⟨_, List.mem_cons_self, rfl, rfl, isCredential⟩

theorem verifiedIn_selection {browser : Browser Profile} {uid username other : String} :
    VerifiedIn (browser.complete (some uid) username .selection).completed uid other ↔
      VerifiedIn browser.completed uid other := by
  constructor
  · rintro ⟨done, member, sameUid, sameName, isCredential⟩
    rcases List.mem_cons.mp member with rfl | isOld
    · exact absurd rfl isCredential
    · exact ⟨done, isOld, sameUid, sameName, isCredential⟩
  · exact verifiedIn_mono (List.subset_cons_self _ _)

def honestTime : ResultProperty where
  holds completed entry := VerifiedIn completed entry.1 entry.2.accountId
  mono grows := verifiedIn_mono grows

section Steps

variable {browser : Browser Profile}

section

variable (honest : HonestTimes browser)
include honest

theorem honest_finish_iff {uid : String} {interaction : Interaction}
    (isOpen : browser.details uid = some interaction) (result : LoginResult) :
    HonestTimes (browser.finish uid result) ↔
      VerifiedIn browser.completed uid result.accountId :=
  honestTime.ofAll_finish_iff honest isOpen result

theorem honest_complete (uid : Option String) (username : String) (method : Method) :
    HonestTimes (browser.complete uid username method) :=
  honestTime.ofAll_complete honest uid username method

theorem honest_touch : HonestTimes browser.touch := honest

theorem honest_session (session : SessionAccounts.Session Profile) :
    HonestTimes { browser with session } := honest

theorem honest_finish {uid : String} {result : LoginResult}
    (verified : VerifiedIn browser.completed uid result.accountId) :
    HonestTimes (browser.finish uid result) := by
  cases isOpen : browser.details uid with
  | none => rwa [Browser.finish, if_neg (by simp [isOpen])]
  | some interaction => exact (honest_finish_iff honest isOpen result).mpr verified

theorem interaction_honest_iff (config : SessionConfig) (uid : String) (isAuthenticated : Bool)
    (mfaMethods : Option (List MfaMethod)) :
    HonestTimes (interactionHandle browser uid isAuthenticated mfaMethods) ↔
      VerifiedBefore config browser (.interaction uid isAuthenticated mfaMethods) := by
  rw [interactionHandle]
  split
  · rename_i interaction activeUser isOpen isActive
    simp only [VerifiedBefore, isOpen, isActive, Option.some.injEq, forall_eq', TakesShortCut]
    split
    · rename_i isLogin
      split
      · rename_i continues
        refine (honest_finish_iff (honest_touch honest) isOpen _).trans ?_
        simp [isLogin, continues, Browser.touch]
      · rename_i asks
        refine iff_of_true honest ?_
        rintro (⟨_, continues⟩ | ⟨isMfa, _⟩)
        · exact absurd continues asks
        · rw [isLogin] at isMfa
          cases isMfa
    · rename_i isMfa
      split
      · refine (honest_finish_iff honest isOpen _).trans ?_
        simp [isMfa]
      · refine (honest_finish_iff honest isOpen _).trans ?_
        simp [isMfa]
      · refine iff_of_true honest ?_
        simp [isMfa]
    · rename_i isConsent
      refine iff_of_true honest ?_
      simp [isConsent]
    · rename_i isSelection
      refine iff_of_true honest ?_
      simp [isSelection]
  · rename_i absent
    refine iff_of_true honest ?_
    intro interaction isOpen activeUser isActive _
    exact (absent interaction activeUser isOpen isActive).elim

theorem selectAccount_honest_iff (config : SessionConfig) (uid accountId : String) :
    HonestTimes (selectAccountHandle config browser uid accountId) ↔
      VerifiedBefore config browser (.selectAccount uid accountId) := by
  refine (honestTime.ofAll_selectAccount_iff honest config uid accountId).trans ?_
  simp only [honestTime, verifiedIn_selection, VerifiedBefore]

theorem login_honest (config : SessionConfig) (uid : String)
    (user : Option (PasswordLogin Profile)) :
    HonestTimes (loginHandle config browser uid user) := by
  unfold loginHandle
  split
  · rename_i interaction user isOpen
    have completed := honest_complete honest (some uid) user.userAccount.username .password
    have verified : VerifiedIn
        (browser.complete (some uid) user.userAccount.username .password).completed uid
          (loginResult browser interaction user).accountId := by
      rw [loginResult]
      split <;> exact verifiedIn_complete (by decide)
    split
    · exact completed
    · split
      · exact completed
      · rename_i session isSession
        exact honest_finish (honest_session completed session) verified
  · exact honest

theorem secondFactor_honest (uid : String) {verified : Option Method}
    (isCredential : ∀ method, verified = some method → method ≠ .selection)
    (amrName acr : String) :
    HonestTimes (secondFactorHandle browser uid verified amrName acr) := by
  unfold secondFactorHandle
  split
  · rename_i interaction method isOpen
    split
    · exact honest
    · rename_i session isSession
      exact honest_finish (honest_complete honest (some uid) session.accountId method)
        (verifiedIn_complete (isCredential method rfl))
  · exact honest

theorem newDeviceVerify_honest (config : SessionConfig) (uid : String) (isValid : Bool) :
    HonestTimes (newDeviceVerifyHandle config browser uid isValid) := by
  rw [newDeviceVerifyHandle]
  split
  · exact honest
  · rename_i pending isPending
    have closed : HonestTimes { browser with pendingNewDeviceVerification := none } := honest
    dsimp only
    split
    · exact closed
    · split
      · exact honest
      · have completed := honest_complete closed (some uid) pending.userAccount.username
          pending.method.method
        split
        · exact completed
        · have isCredential : pending.method.method ≠ .selection := by
            cases pending.method <;> decide
          rename_i session isSession
          exact honest_finish (honest_session completed session) (verifiedIn_complete isCredential)

end

theorem honest_step_iff (config : SessionConfig) (browser : Browser Profile)
    (request : Request Profile) (honest : HonestTimes browser) :
    HonestTimes (step config browser request) ↔ VerifiedBefore config browser request := by
  have all : honestTime.OfAll browser := honest
  cases request with
  | interaction uid isAuthenticated mfaMethods =>
    exact interaction_honest_iff honest config uid isAuthenticated mfaMethods
  | selectAccount uid accountId => exact selectAccount_honest_iff honest config uid accountId
  | login uid user => exact iff_of_true (login_honest honest config uid user) trivial
  | mfa uid verified =>
    refine iff_of_true (secondFactor_honest honest uid ?_ _ _) trivial
    intro method isMethod
    obtain ⟨code, _, rfl⟩ := Option.map_eq_some_iff.mp isMethod
    cases code <;> decide
  | webauthn uid verified =>
    refine iff_of_true (secondFactor_honest honest uid ?_ _ _) trivial
    intro method isMethod
    cases verified <;> cases isMethod
    decide
  | newDeviceVerify uid isValid =>
    exact iff_of_true (newDeviceVerify_honest honest config uid isValid) trivial
  | socialLogin uid => exact iff_of_true (honestTime.ofAll_socialLogin all uid) trivial
  | socialCallback user =>
    exact iff_of_true (honestTime.ofAll_socialCallback all config user) trivial
  | begin _ _ _ | resume _ | wait _ => exact iff_of_true honest trivial
  | page call passed => exact iff_of_true (honestTime.ofAll_page all config call passed) trivial

end Steps

/-- Login results are of accounts verified in the same interaction exactly while no GET takes the
browser session for a login, and no account is selected, unless it was verified there before. -/
theorem authentication_honest_iff (config : SessionConfig) (start : Browser Profile)
    (requests : List (Request Profile)) :
    AlwaysFrom (step config) HonestTimes start requests ↔
      HonestTimes start ∧ AllowedFrom (step config) (VerifiedBefore config) start requests :=
  Runs.always_iff_start _ (honest_step_iff config) start requests

def multipleAccounts : SessionConfig := ⟨some true, none, none⟩

theorem browser_session_is_enough :
    ¬AlwaysFrom (step multipleAccounts) HonestTimes (opened Unit 0)
      [.page ⟨0, .setAuthenticated (some ⟨some "1", none, "alice", ()⟩)⟩
          (some ("alice", .password)),
        .wait 3600000, .begin "first" .login "", .interaction "first" true none] := by
  intro always
  have honest := always.final
  obtain ⟨done, member, inFirst, _⟩ := honest ("first", ⟨"alice", none, none, none⟩) (by decide)
  rw [List.mem_singleton.mp member] at inFirst
  cases inFirst

end ParakoId.OidcFlows
