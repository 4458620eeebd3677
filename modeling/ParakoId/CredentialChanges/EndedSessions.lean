import ParakoId.CredentialChanges.Operations

/-! Which sessions are left after the credentials of an account have changed. -/

namespace ParakoId.CredentialChanges

open Runs (AllowedFrom AlwaysFrom)
open SessionAccounts (isNonEmptyString)

section Conditions

variable {Profile : Type} (settings : Settings)

structure Ended (state : State Profile) : Prop where
  browser : ∀ session ∈ state.browserSessions, session.outdated = true →
    session.authenticates settings state.user = false
  provider : ∀ session ∈ state.oidcSessions, session.outdated = true →
    session.authenticates state.user = false

structure NoneSignsIn (user : User) (browserSessions : List (BrowserSession Profile))
    (oidcSessions : List OidcSession) : Prop where
  browser : ∀ session ∈ browserSessions, session.signsIn settings user = false
  provider : ∀ session ∈ oidcSessions, session.accountId ≠ some user.username

def NoSession (user : User) (state : State Profile) : Prop :=
  NoneSignsIn settings user state.browserSessions state.oidcSessions

def NoOutdated (user : User) (state : State Profile) : Prop :=
  NoneSignsIn settings user (state.browserSessions.filter BrowserSession.outdated)
    (state.oidcSessions.filter OidcSession.outdated)

def isOther (currentSessionId sid : String) : Bool :=
  isNonEmptyString sid && sid != currentSessionId

inductive Gets (revoke : String → RevokeAnswer) (currentSessionId : String) :
    List String → String → Prop
  | here {sid : String} {rest : List String} (other : isOther currentSessionId sid = true)
      (revoked : revoke sid = .revoked) : Gets revoke currentSessionId (sid :: rest) sid
  | later {found sid : String} {rest : List String}
      (goesOn : isOther currentSessionId found = true → revoke found ≠ .fails)
      (gets : Gets revoke currentSessionId rest sid) :
      Gets revoke currentSessionId (found :: rest) sid

def PasswordChange.EndsOidc (change : PasswordChange) (session : OidcSession) : Prop :=
  ∃ currentSessionId, change.currentSessionId = some currentSessionId ∧
    session.accountId = some change.username ∧ session.jti ≠ currentSessionId ∧
    change.answers.oidc.reaches session.jti = true

def PasswordChange.EndsBrowser (change : PasswordChange)
    (sessions : List (BrowserSession Profile)) (sid : String) : Prop :=
  ∃ currentSessionId, change.currentSessionId = some currentSessionId ∧
    (change.answers.oidc.fails && isPrisma settings.storeType) = false ∧
    change.answers.finds = true ∧
    Gets change.answers.revoke currentSessionId
      ((findExpressSessionsForUser settings change.username sessions).map BrowserSession.sid) sid

def EndsSessions (state : State Profile) : Operation Profile → Prop
  | .changePassword change => state.user.account_enabled = true →
      (∀ session ∈ state.browserSessions, session.signsIn settings state.user = true →
        some session.sid ≠ change.currentSessionId →
          change.EndsBrowser settings state.browserSessions session.sid) ∧
      ∀ session ∈ state.oidcSessions, session.accountId = some state.user.username →
        change.EndsOidc session
  | .resetPassword answers => state.user.account_enabled = true →
      (∀ session ∈ state.browserSessions, session.signsIn settings state.user = false) ∧
      ∀ session ∈ state.oidcSessions, session.accountId = some state.user.username →
        session.jti ≠ "" ∧ answers.oidc.reaches session.jti = true
  | .adminUpdate update => update.account_enabled = true →
      if update.setsPassword then NoSession settings state.user state
      else NoOutdated settings state.user state
  | .apiPasswordReset => state.user.account_enabled = true → NoSession settings state.user state
  | .adminEnable | .apiUnlock => NoOutdated settings state.user state
  | .apiUpdate update => (update.user state.user).account_enabled = true →
      NoOutdated settings (update.user state.user) state
  | .adminDisable _ | .adminDestroy _ | .apiDestroy _ | .apiLock => True
  | .signIn _ | .signInAtProvider _ | .signOut _ | .signOutAtProvider _ => True

end Conditions

section Ended

variable {Profile : Type} {settings : Settings}

@[simp] theorem signsIn_outdated (session : BrowserSession Profile) (user : User)
    (outdated : Bool) :
    BrowserSession.signsIn settings user { session with outdated } =
      session.signsIn settings user := rfl

@[simp] theorem signsIn_sid (session : BrowserSession Profile) (user : User) (sid : String) :
    BrowserSession.signsIn settings user { session with sid } = session.signsIn settings user := rfl

theorem ended_iff {state : State Profile} :
    Ended settings state ↔
      (state.user.account_enabled = true → NoOutdated settings state.user state) := by
  constructor
  · rintro ended isEnabled
    refine ⟨?_, ?_⟩
    · intro session member
      obtain ⟨isSession, isOutdated⟩ := List.mem_filter.mp member
      simpa [BrowserSession.authenticates, isEnabled] using ended.browser session isSession isOutdated
    · intro session member
      obtain ⟨isSession, isOutdated⟩ := List.mem_filter.mp member
      simpa [OidcSession.authenticates, isEnabled] using ended.provider session isSession isOutdated
  · intro none
    refine ⟨?_, ?_⟩
    · intro session isSession isOutdated
      cases isEnabled : state.user.account_enabled with
      | false => simp [BrowserSession.authenticates, isEnabled]
      | true =>
        have outside := (none isEnabled).browser session
          (List.mem_filter.mpr ⟨isSession, isOutdated⟩)
        simp [BrowserSession.authenticates, outside]
    · intro session isSession isOutdated
      cases isEnabled : state.user.account_enabled with
      | false => simp [OidcSession.authenticates, isEnabled]
      | true =>
        have outside := (none isEnabled).provider session
          (List.mem_filter.mpr ⟨isSession, isOutdated⟩)
        simp [OidcSession.authenticates, outside]

theorem noneSignsIn_enable {user : User} {account_enabled : Bool}
    {browserSessions : List (BrowserSession Profile)} {oidcSessions : List OidcSession} :
    NoneSignsIn settings { user with account_enabled } browserSessions oidcSessions ↔
      NoneSignsIn settings user browserSessions oidcSessions :=
  ⟨fun none => ⟨none.browser, none.provider⟩, fun none => ⟨none.browser, none.provider⟩⟩

theorem ended_of_disabled {state : State Profile}
    (isDisabled : state.user.account_enabled = false) :
    Ended settings state := by
  refine ended_iff.mpr fun isEnabled => ?_
  rw [isDisabled] at isEnabled
  cases isEnabled

theorem noOutdated_outdate {user : User} {state : State Profile} :
    NoOutdated settings user (state.outdate none) ↔ NoSession settings user state := by
  constructor
  · intro none
    refine ⟨?_, ?_⟩
    · intro session isSession
      have outside := none.browser { session with outdated := true } (List.mem_filter.mpr
        ⟨List.mem_map.mpr ⟨session, isSession, by simp⟩, rfl⟩)
      simpa using outside
    · intro session isSession
      exact none.provider { session with outdated := true } (List.mem_filter.mpr
        ⟨List.mem_map_of_mem isSession, rfl⟩)
  · intro none
    refine ⟨?_, ?_⟩
    · intro session member
      obtain ⟨earlier, isEarlier, rfl⟩ := List.mem_map.mp (List.mem_of_mem_filter member)
      simpa using none.browser earlier isEarlier
    · intro session member
      obtain ⟨earlier, isEarlier, rfl⟩ := List.mem_map.mp (List.mem_of_mem_filter member)
      exact none.provider earlier isEarlier

theorem NoOutdated.mono {user : User} {state after : State Profile}
    (none : NoOutdated settings user state)
    (fewer : ∀ session ∈ after.browserSessions, session.outdated = true →
      session ∈ state.browserSessions)
    (fewerAtProvider : ∀ session ∈ after.oidcSessions, session.outdated = true →
      session ∈ state.oidcSessions) : NoOutdated settings user after := by
  refine ⟨?_, ?_⟩
  · intro session member
    obtain ⟨isSession, isOutdated⟩ := List.mem_filter.mp member
    exact none.browser session (List.mem_filter.mpr ⟨fewer session isSession isOutdated, isOutdated⟩)
  · intro session member
    obtain ⟨isSession, isOutdated⟩ := List.mem_filter.mp member
    exact none.provider session
      (List.mem_filter.mpr ⟨fewerAtProvider session isSession isOutdated, isOutdated⟩)

theorem Ended.mono {state after : State Profile} (ended : Ended settings state)
    (sameUser : after.user = state.user)
    (fewer : ∀ session ∈ after.browserSessions, session.outdated = true →
      session ∈ state.browserSessions)
    (fewerAtProvider : ∀ session ∈ after.oidcSessions, session.outdated = true →
      session ∈ state.oidcSessions) : Ended settings after := by
  rw [ended_iff, sameUser]
  exact fun isEnabled => (ended_iff.mp ended isEnabled).mono fewer fewerAtProvider

theorem gets_nil {revoke : String → RevokeAnswer} {currentSessionId sid : String} :
    ¬Gets revoke currentSessionId [] sid := nofun

theorem gets_cons {revoke : String → RevokeAnswer} {currentSessionId found sid : String}
    {rest : List String} :
    Gets revoke currentSessionId (found :: rest) sid ↔
      (sid = found ∧ isOther currentSessionId found = true ∧ revoke found = .revoked) ∨
        ((isOther currentSessionId found = true → revoke found ≠ .fails) ∧
          Gets revoke currentSessionId rest sid) := by
  constructor
  · intro gets
    cases gets with
    | here other revoked => exact .inl ⟨rfl, other, revoked⟩
    | later goesOn gets => exact .inr ⟨goesOn, gets⟩
  · rintro (⟨rfl, other, revoked⟩ | ⟨goesOn, gets⟩)
    · exact .here other revoked
    · exact .later goesOn gets

theorem mem_without {sid : String} {sessions : List (BrowserSession Profile)}
    {session : BrowserSession Profile} :
    session ∈ without sid sessions ↔ session ∈ sessions ∧ session.sid ≠ sid := by
  simp [without]

theorem mem_revokeEach (revoke : String → RevokeAnswer) (currentSessionId : String)
    (found sessions : List (BrowserSession Profile)) (session : BrowserSession Profile) :
    session ∈ (revokeEach revoke currentSessionId found sessions).2 ↔
      session ∈ sessions ∧
        ¬Gets revoke currentSessionId (found.map BrowserSession.sid) session.sid := by
  induction found generalizing sessions with
  | nil => simp [revokeEach, gets_nil]
  | cons first rest ih =>
    rw [revokeEach, List.map_cons, gets_cons]
    change _ ∈ (if isOther currentSessionId first.sid then _ else _ : Bool × _).2 ↔ _
    cases isOther currentSessionId first.sid with
    | false => simp [ih]
    | true =>
      cases isAnswer : revoke first.sid with
      | revoked => simp [ih, mem_without, and_assoc]
      | notFound => simp [ih]
      | fails => simp

theorem findExpressSessions_map (accountId : String) (sessions : List (BrowserSession Profile))
    (note : BrowserSession Profile → Bool) :
    (findExpressSessionsForUser settings accountId (sessions.map fun session =>
        { session with outdated := note session })).map BrowserSession.sid =
      (findExpressSessionsForUser settings accountId sessions).map BrowserSession.sid := by
  let noted : BrowserSession Profile → BrowserSession Profile :=
    fun session => { session with outdated := note session }
  have sorted (list : List (BrowserSession Profile)) :
      (list.map noted).mergeSort newestFirst = (list.mergeSort newestFirst).map noted :=
    (List.map_mergeSort (f := noted) (r := newestFirst) fun _ _ _ _ => rfl).symm
  rw [findExpressSessionsForUser, findExpressSessionsForUser]
  split
  · rw [List.filter_map, sorted, List.map_map]
    rfl
  · rfl

theorem outdate_browserSessions (spared : Option String) (state : State Profile) :
    (state.outdate spared).browserSessions = state.browserSessions.map fun session =>
      { session with
        outdated := session.outdated || decide (some session.sid ≠ spared) } := by
  refine List.map_congr_left fun session _ => ?_
  by_cases isSpared : some session.sid = spared
  · simp [isSpared]
  · simp [isSpared]

theorem endOtherSessions_user (change : PasswordChange) (state : State Profile) :
    (endOtherSessions settings change state).user = state.user := by
  rw [endOtherSessions]
  cases change.currentSessionId with
  | none => rfl
  | some currentSessionId =>
    dsimp only
    split
    · rfl
    · split
      · rfl
      · rfl

variable (settings) in
theorem mem_revokeAllSessionsExcept (answer : OidcAnswer) (accountId excludeSessionId : String)
    (sessions : List OidcSession) (session : OidcSession) :
    session ∈ (revokeAllSessionsExcept settings answer accountId excludeSessionId sessions).2 ↔
      session ∈ sessions ∧ ¬(session.accountId = some accountId ∧
        session.jti ≠ excludeSessionId ∧ answer.reaches session.jti = true) := by
  simp only [revokeAllSessionsExcept, session.isSession, beq_self_eq_true, Bool.or_true,
    Bool.and_true, List.mem_filter, Bool.not_eq_true', Bool.and_eq_false_iff,
    beq_eq_false_iff_ne, bne_eq_false_iff_eq]
  refine and_congr_right fun _ => ?_
  rw [← Bool.not_eq_true]
  tauto

variable (settings) in
theorem mem_endOtherSessions_oidc (change : PasswordChange) (state : State Profile)
    (session : OidcSession) :
    session ∈ (endOtherSessions settings change state).oidcSessions ↔
      session ∈ state.oidcSessions ∧ ¬change.EndsOidc session := by
  rw [endOtherSessions, PasswordChange.EndsOidc]
  cases change.currentSessionId with
  | none => simp
  | some currentSessionId =>
    simp only [Option.some.injEq, exists_eq_left']
    have isLeft := mem_revokeAllSessionsExcept settings change.answers.oidc change.username
      currentSessionId state.oidcSessions session
    rw [← isLeft]
    split
    · rfl
    · split
      · rfl
      · rfl

variable (settings) in
theorem mem_revokeOther (answers : Answers) (username currentSessionId : String)
    (sessions : List (BrowserSession Profile)) (session : BrowserSession Profile) :
    session ∈ (revokeOtherExpressSessions settings answers username currentSessionId sessions).2 ↔
      session ∈ sessions ∧ ¬(answers.finds = true ∧ Gets answers.revoke currentSessionId
        ((findExpressSessionsForUser settings username sessions).map BrowserSession.sid)
          session.sid) := by
  rw [revokeOtherExpressSessions]
  cases answers.finds with
  | false => simp
  | true => simp [mem_revokeEach]

def Renames (rename : BrowserSession Profile → BrowserSession Profile) : Prop :=
  ∀ session, ∃ sid, rename session = { session with sid }

theorem renames_id : Renames (id : BrowserSession Profile → BrowserSession Profile) :=
  fun session => ⟨session.sid, rfl⟩

variable (settings) in
theorem mem_endOtherSessions_browser (change : PasswordChange) (state : State Profile) :
    ∃ rename, Renames rename ∧ ∀ session,
      session ∈ (endOtherSessions settings change state).browserSessions ↔
        ∃ earlier ∈ state.browserSessions,
          ¬change.EndsBrowser settings state.browserSessions earlier.sid ∧
            rename earlier = session := by
  rw [endOtherSessions]
  simp only [PasswordChange.EndsBrowser]
  cases change.currentSessionId with
  | none => exact ⟨id, renames_id, by simp⟩
  | some currentSessionId =>
    simp only [Option.some.injEq, exists_eq_left', revokeAllSessionsExcept, Bool.not_eq_false']
    cases fails : (change.answers.oidc.fails && isPrisma settings.storeType) with
    | true => exact ⟨id, renames_id, by simp⟩
    | false =>
      have left := mem_revokeOther settings change.answers change.username currentSessionId
        state.browserSessions
      simp only [Bool.false_eq_true, if_false, true_and]
      split
      · next regenerated isDone isRegenerated =>
          refine ⟨fun session => if session.sid = currentSessionId then
            { session with sid := regenerated } else session, ?_, ?_⟩
          · intro session
            by_cases isCurrent : session.sid = currentSessionId
            · exact ⟨regenerated, if_pos isCurrent⟩
            · exact ⟨session.sid, if_neg isCurrent⟩
          · simp only [regenerate, List.mem_map, left, and_assoc, implies_true]
      · exact ⟨id, renames_id, by simp [left]⟩

theorem endsBrowser_outdate (change : PasswordChange) (spared : Option String)
    (state : State Profile) (sid : String) :
    change.EndsBrowser settings (state.outdate spared).browserSessions sid ↔
      change.EndsBrowser settings state.browserSessions sid := by
  simp only [PasswordChange.EndsBrowser, outdate_browserSessions, findExpressSessions_map]

theorem changePassword_ended_iff (change : PasswordChange) {state : State Profile}
    (ended : Ended settings state) :
    Ended settings (step settings state (.changePassword change)) ↔
      EndsSessions settings state (.changePassword change) := by
  let marked := state.outdate change.currentSessionId
  have isUser : (endOtherSessions settings change marked).user = state.user :=
    endOtherSessions_user change marked
  obtain ⟨rename, renames, isLeft⟩ := mem_endOtherSessions_browser settings change marked
  have isLeftAtProvider := mem_endOtherSessions_oidc settings change marked
  simp only [marked, endsBrowser_outdate] at isLeft
  rw [ended_iff, step, EndsSessions, isUser]
  refine imp_congr_right fun isEnabled => ?_
  have before := ended_iff.mp ended isEnabled
  constructor
  · intro none
    refine ⟨?_, ?_⟩
    · intro session isSession signsIn isOther
      by_contra stays
      obtain ⟨sid, isRenamed⟩ := renames { session with outdated := true }
      have member := (isLeft _).mpr ⟨{ session with outdated := true }, List.mem_map.mpr
        ⟨session, isSession, if_neg isOther⟩, stays, rfl⟩
      have outside := none.browser _ (List.mem_filter.mpr ⟨member, by rw [isRenamed]⟩)
      rw [isRenamed, signsIn_sid, signsIn_outdated, signsIn] at outside
      cases outside
    · intro session isSession isAccount
      by_contra stays
      have member := (isLeftAtProvider { session with outdated := true }).mpr
        ⟨List.mem_map_of_mem isSession, stays⟩
      exact none.provider _ (List.mem_filter.mpr ⟨member, rfl⟩) isAccount
  · rintro ⟨endsBrowser, endsOidc⟩
    refine ⟨?_, ?_⟩
    · intro session member
      obtain ⟨isSession, isOutdated⟩ := List.mem_filter.mp member
      obtain ⟨noted, isNoted, stays, rfl⟩ := (isLeft session).mp isSession
      obtain ⟨earlier, isEarlier, isMark⟩ := List.mem_map.mp isNoted
      obtain ⟨sid, isRenamed⟩ := renames noted
      rw [isRenamed, signsIn_sid]
      rw [isRenamed] at isOutdated
      by_cases isOther : some earlier.sid = change.currentSessionId
      · rw [if_pos isOther] at isMark
        subst isMark
        exact before.browser earlier (List.mem_filter.mpr ⟨isEarlier, isOutdated⟩)
      · rw [if_neg isOther] at isMark
        subst isMark
        rw [signsIn_outdated, Bool.eq_false_iff]
        exact fun signsIn => stays (endsBrowser earlier isEarlier signsIn isOther)
    · intro session member isAccount
      obtain ⟨isNoted, stays⟩ := (isLeftAtProvider session).mp (List.mem_of_mem_filter member)
      obtain ⟨earlier, isEarlier, rfl⟩ := List.mem_map.mp isNoted
      exact stays (endsOidc earlier isEarlier isAccount)

theorem resetPassword_ended_iff (answers : Answers) (state : State Profile) :
    Ended settings (step settings state (.resetPassword answers)) ↔
      EndsSessions settings state (.resetPassword answers) := by
  rw [ended_iff, EndsSessions]
  refine imp_congr_right fun _ => ?_
  have isLeft := mem_revokeAllSessionsExcept settings answers.oidc state.user.username ""
    (state.outdate none).oidcSessions
  constructor
  · intro none
    refine ⟨?_, ?_⟩
    · intro session isSession
      exact none.browser { session with outdated := true } (List.mem_filter.mpr
        ⟨List.mem_map.mpr ⟨session, isSession, if_neg nofun⟩, rfl⟩)
    · intro session isSession isAccount
      by_contra stays
      have member := (isLeft { session with outdated := true }).mpr
        ⟨List.mem_map_of_mem isSession, fun revoked => stays revoked.2⟩
      exact none.provider _ (List.mem_filter.mpr ⟨member, rfl⟩) isAccount
  · rintro ⟨noBrowser, revoked⟩
    refine ⟨?_, ?_⟩
    · intro session member
      obtain ⟨earlier, isEarlier, rfl⟩ := List.mem_map.mp (List.mem_of_mem_filter member)
      rw [if_neg nofun]
      exact noBrowser earlier isEarlier
    · intro session member isAccount
      obtain ⟨isNoted, stays⟩ := (isLeft session).mp (List.mem_of_mem_filter member)
      obtain ⟨earlier, isEarlier, rfl⟩ := List.mem_map.mp isNoted
      exact stays ⟨isAccount, revoked earlier isEarlier isAccount⟩

theorem ended_enable_iff (account_enabled : Bool) (state : State Profile) :
    Ended settings (state.enable account_enabled) ↔
      (account_enabled = true → NoOutdated settings state.user state) :=
  ended_iff.trans (imp_congr_right fun _ => noneSignsIn_enable)

theorem adminUpdate_ended_iff (update : AdminUpdate) (state : State Profile) :
    Ended settings (step settings state (.adminUpdate update)) ↔
      EndsSessions settings state (.adminUpdate update) := by
  rw [EndsSessions, step, adminUpdate]
  cases isEnabled : update.account_enabled with
  | false =>
    rw [Bool.not_false, Bool.or_true, if_pos rfl, ended_enable_iff]
    exact iff_of_true nofun nofun
  | true =>
    cases isSet : update.setsPassword with
    | false =>
      rw [Bool.not_true, Bool.or_false, if_neg nofun, ended_enable_iff]
      rfl
    | true =>
      rw [Bool.true_or, if_pos rfl, ended_enable_iff]
      exact imp_congr_right fun _ => noOutdated_outdate

theorem apiUpdate_ended_iff (update : ApiUpdate) (state : State Profile) :
    Ended settings (step settings state (.apiUpdate update)) ↔
      EndsSessions settings state (.apiUpdate update) := by
  rw [EndsSessions, ended_iff, step, apiUpdate]
  refine imp_congr_right fun isEnabled => ?_
  have isOpen : update.account_enabled ≠ some false := by
    intro isClosed
    simp [ApiUpdate.user, isClosed] at isEnabled
  rw [if_neg isOpen]
  rfl

theorem step_ended_iff (state : State Profile) (operation : Operation Profile)
    (ended : Ended settings state) :
    Ended settings (step settings state operation) ↔ EndsSessions settings state operation := by
  have enabled : Ended settings (state.enable true) ↔ NoOutdated settings state.user state :=
    (ended_enable_iff true state).trans ⟨fun none => none rfl, fun none _ => none⟩
  cases operation with
  | changePassword change => exact changePassword_ended_iff change ended
  | resetPassword answers => exact resetPassword_ended_iff answers state
  | adminUpdate update => exact adminUpdate_ended_iff update state
  | adminEnable => exact enabled
  | adminDisable _ | adminDestroy _ | apiLock | apiDestroy _ =>
    exact iff_of_true (ended_of_disabled rfl) trivial
  | apiUpdate update => exact apiUpdate_ended_iff update state
  | apiUnlock => exact enabled
  | apiPasswordReset =>
    rw [ended_iff, EndsSessions]
    exact imp_congr_right fun _ => noOutdated_outdate
  | signIn session =>
    refine iff_of_true (ended.mono rfl ?_ fun _ isSession _ => isSession) trivial
    intro other member isOutdated
    rcases List.mem_cons.mp member with rfl | remains
    · cases isOutdated
    · exact List.mem_of_mem_filter remains
  | signInAtProvider session =>
    refine iff_of_true (ended.mono rfl (fun _ isSession _ => isSession) ?_) trivial
    intro other member isOutdated
    rcases List.mem_cons.mp member with rfl | remains
    · cases isOutdated
    · exact List.mem_of_mem_filter remains
  | signOut sid =>
    exact iff_of_true (ended.mono rfl (fun _ isSession _ => List.mem_of_mem_filter isSession)
      fun _ isSession _ => isSession) trivial
  | signOutAtProvider jti =>
    exact iff_of_true (ended.mono rfl (fun _ isSession _ => isSession)
      fun _ isSession _ => List.mem_of_mem_filter isSession) trivial

end Ended

/-- In a run no session outlives a change of the credentials exactly where nothing was left over at
its start and each operation ends the sessions that it should. -/
theorem sessions_ended_iff {Profile : Type} (settings : Settings) (start : State Profile)
    (operations : List (Operation Profile)) :
    AlwaysFrom (step settings) (Ended settings) start operations ↔
      Ended settings start ∧ AllowedFrom (step settings) (EndsSessions settings) start operations :=
  Runs.always_iff_start (step settings) step_ended_iff start operations

def mongoSettings : Settings where
  storeType := .mongodb
  tenantId := "default"
  session := ⟨none, none, none⟩

def adasSession : BrowserSession Unit where
  sid := "s1"
  isAuthenticated := true
  accounts := ⟨some ⟨some ⟨"1", "ada", none, ()⟩, some []⟩, some "ada", none⟩
  authTime := 0
  outdated := false

def adaSignedIn : State Unit where
  user := ⟨"1", "ada", true⟩
  browserSessions := [adasSession]
  oidcSessions := [⟨"o1", some "ada", "Session", false, rfl⟩]

def everythingWorks : Answers where
  oidc := ⟨fun _ => true, false⟩
  finds := true
  revoke _ := .revoked

theorem reset_leaves_session :
    let after := step mongoSettings adaSignedIn (.resetPassword everythingWorks)
    Ended mongoSettings adaSignedIn ∧ after.oidcSessions = [] ∧
      (after.browserSessions.map fun session => (session.sid, session.outdated,
        session.authenticates mongoSettings after.user)) = [("s1", true, true)] ∧
      ¬Ended mongoSettings after := by
  refine ⟨⟨?_, ?_⟩, rfl, rfl, ?_⟩
  · intro session isSession isOutdated
    rw [List.mem_singleton.mp isSession] at isOutdated
    cases isOutdated
  · intro session isSession isOutdated
    rw [List.mem_singleton.mp isSession] at isOutdated
    cases isOutdated
  · intro ended
    have outside := ended.browser { adasSession with outdated := true } List.mem_cons_self rfl
    cases outside

end ParakoId.CredentialChanges
