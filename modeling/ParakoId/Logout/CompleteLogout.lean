import ParakoId.Logout.Courses
import ParakoId.Logout.ProviderRecords

/-!
What a confirmed logout that reports success has left of the accounts it was asked to sign out, in
the session and at the provider, and what it has left of all others.
-/

namespace ParakoId.Logout

open OidcStore (accountOf)
open SessionAccounts (SessionUserAccount)
open SignIn (BrowserSession LogoutRequest LogoutResponse LogoutOutcome StoreAnswers usernames)

structure ProviderAnswers where
  revokes : RecordKey → Bool
  cleanUp : Nat → Reach

section Complete

variable {Profile : Type}

def reports : LogoutResponse → Bool
  | .signedOut | .signedOutOf => true
  | .refused | .error => false

def recordsAfter (adapter : AdapterType) (answers : ProviderAnswers) (provider : Provider)
    (outcome : LogoutOutcome Profile) : Records :=
  clearAll adapter outcome.cleared answers.cleanUp
    (match outcome.removed with
    | none => provider.records
    | some username => revokeAllGrantsForAccount adapter answers.revokes username provider)

structure SignedOut (accountId : String) (session : Option (BrowserSession Profile))
    (records : Records) : Prop where
  notListed : ∀ left, session = some left → ¬left.lists accountId
  noData : ∀ key record, records.get key = some record → isAccountData key.1 = true →
    accountOf key.1 record.payload = some accountId → record.isLive = false

structure Untouched (accountId : String) (before : BrowserSession Profile)
    (session : Option (BrowserSession Profile)) (records after : Records) : Prop where
  listed : before.lists accountId → ∃ left, session = some left ∧ left.lists accountId
  records : ∀ key record, records.get key = some record →
    accountOf key.1 record.payload = some accountId → after.get key = some record

structure Complete (asked : List String) (before : BrowserSession Profile)
    (session : Option (BrowserSession Profile)) (records after : Records) : Prop where
  signedOut : ∀ accountId ∈ asked, SignedOut accountId session after
  untouched : ∀ accountId ∉ asked, Untouched accountId before session records after

def ListsOthers (asked : List String) (before : BrowserSession Profile)
    (session : Option (BrowserSession Profile)) : Prop :=
  ∀ accountId, if accountId ∈ asked then ∀ left, session = some left → ¬left.lists accountId
    else before.lists accountId → ∃ left, session = some left ∧ left.lists accountId

def DeletesData (asked : List String) (records : Records) (Deleted : RecordKey → Record → Prop) :
    Prop :=
  ∀ key record accountId, records.get key = some record →
    accountOf key.1 record.payload = some accountId →
      if accountId ∈ asked then isAccountData key.1 = true → record.isLive = true → Deleted key record
      else ¬Deleted key record

theorem complete_iff {asked : List String} {before : BrowserSession Profile}
    {session : Option (BrowserSession Profile)} {records after : Records}
    {Deleted : RecordKey → Record → Prop}
    (isAfter : ∀ key record, after.get key = some record ↔
      records.get key = some record ∧ ¬Deleted key record) :
    Complete asked before session records after ↔
      ListsOthers asked before session ∧ DeletesData asked records Deleted := by
  constructor
  · intro complete
    refine ⟨fun accountId => ?_, fun key record accountId isHeld belongs => ?_⟩
    · split
      · next isAsked => exact (complete.signedOut accountId isAsked).notListed
      · next notAsked => exact (complete.untouched accountId notAsked).listed
    · split
      · next isAsked =>
          intro isData isLive
          by_contra notDeleted
          have isLeft := (isAfter key record).mpr ⟨isHeld, notDeleted⟩
          have notLive := (complete.signedOut accountId isAsked).noData key record isLeft isData belongs
          rw [isLive] at notLive
          cases notLive
      · next notAsked =>
          have kept := (complete.untouched accountId notAsked).records key record isHeld belongs
          exact ((isAfter key record).mp kept).2
  · rintro ⟨lists, deletes⟩
    refine ⟨fun accountId isAsked => ⟨?_, ?_⟩, fun accountId notAsked => ⟨?_, ?_⟩⟩
    · have notListed := lists accountId
      rwa [if_pos isAsked] at notListed
    · intro key record isLeft isData belongs
      obtain ⟨isHeld, notDeleted⟩ := (isAfter key record).mp isLeft
      have deleted := deletes key record accountId isHeld belongs
      rw [if_pos isAsked] at deleted
      exact eq_false_of_ne_true fun isLive => notDeleted (deleted isData isLive)
    · have listed := lists accountId
      rwa [if_neg notAsked] at listed
    · intro key record isHeld belongs
      have notDeleted := deletes key record accountId isHeld belongs
      rw [if_neg notAsked] at notDeleted
      exact (isAfter key record).mpr ⟨isHeld, notDeleted⟩

theorem listsOthers_none {asked : List String} {before : BrowserSession Profile} :
    ListsOthers asked before none ↔ ∀ accountId, before.lists accountId → accountId ∈ asked := by
  refine forall_congr' fun accountId => ?_
  by_cases isAsked : accountId ∈ asked <;> simp [isAsked]

theorem listsOthers_same {asked : List String} {before : BrowserSession Profile} :
    ListsOthers asked before (some before) ↔ ∀ accountId ∈ asked, ¬before.lists accountId := by
  refine forall_congr' fun accountId => ?_
  by_cases isAsked : accountId ∈ asked <;> simp [isAsked]

theorem listsOthers_some {asked : List String} {before left : BrowserSession Profile} :
    ListsOthers asked before (some left) ↔
      ∀ accountId, (accountId ∈ asked → ¬left.lists accountId) ∧
        (accountId ∉ asked → before.lists accountId → left.lists accountId) := by
  refine forall_congr' fun accountId => ?_
  by_cases isAsked : accountId ∈ asked <;> simp [isAsked]

def Deleted (adapter : AdapterType) (answers : ProviderAnswers) (provider : Provider)
    (removed : Option String) (cleared : List String) (key : RecordKey) (record : Record) : Prop :=
  (∃ username, removed = some username ∧ isRevoked adapter provider username key record = true ∧
      answers.revokes key = true) ∨
    ∃ index accountId, cleared[index]? = some accountId ∧
      Clears adapter (answers.cleanUp index) accountId key record

theorem get_recordsAfter {adapter : AdapterType} {answers : ProviderAnswers} {provider : Provider}
    {outcome : LogoutOutcome Profile} {key : RecordKey} {record : Record} :
    (recordsAfter adapter answers provider outcome).get key = some record ↔
      provider.records.get key = some record ∧
        ¬Deleted adapter answers provider outcome.removed outcome.cleared key record := by
  rw [recordsAfter, get_clearAll, Deleted, not_or]
  cases outcome.removed with
  | none => simp
  | some username =>
    rw [get_revokeAllGrantsForAccount, and_assoc]
    simp

variable (adapter : AdapterType) (provider : Provider) (answers : ProviderAnswers)
  (storeAnswers : StoreAnswers) (session : BrowserSession Profile)

def Course.Completes : Course → Prop
  | .fails | .nothing => True
  | .ends asked =>
    match storeAnswers.destroy with
    | .succeeds =>
      (∀ accountId, session.lists accountId → accountId ∈ asked) ∧
        DeletesData asked provider.records (Deleted adapter answers provider none asked)
    | .fails remains =>
      (if remains then ∀ accountId ∈ asked, ¬session.lists accountId
        else ∀ accountId, session.lists accountId → accountId ∈ asked) ∧
        ∀ key record accountId, provider.records.get key = some record →
          accountOf key.1 record.payload = some accountId → accountId ∈ asked →
            isAccountData key.1 = true → record.isLive = false
  | .removes userId username =>
    ∀ removed, removable session.accounts userId = some removed → storeAnswers.saves = true →
      (∀ accountId, accountId ∈ (usernames session.accounts).erase removed.username ↔
        session.lists accountId ∧ accountId ≠ username) ∧
        DeletesData [username] provider.records
          (Deleted adapter answers provider (some removed.username) [username])

theorem deletesData_nothing {asked : List String} {records : Records} :
    DeletesData asked records (Deleted adapter answers provider none []) ↔
      ∀ key record accountId, records.get key = some record →
        accountOf key.1 record.payload = some accountId → accountId ∈ asked →
          isAccountData key.1 = true → record.isLive = false := by
  refine forall_congr' fun key => forall_congr' fun record => forall_congr' fun accountId =>
    imp_congr_right fun _ => imp_congr_right fun _ => ?_
  by_cases isAsked : accountId ∈ asked <;> simp [isAsked, Deleted]

theorem listsOthers_removed {username removed : String} {after : SessionAccounts.Session Profile}
    (left : (usernames session.accounts).Perm (removed :: usernames after)) :
    ListsOthers [username] session (some { session with accounts := after }) ↔
      ∀ accountId, accountId ∈ (usernames session.accounts).erase removed ↔
        session.lists accountId ∧ accountId ≠ username := by
  have isLeft : ((usernames session.accounts).erase removed).Perm (usernames after) := by
    have erased := left.erase removed
    rwa [List.erase_cons_head] at erased
  rw [listsOthers_some]
  refine forall_congr' fun accountId => ?_
  have fewer : accountId ∈ usernames after → accountId ∈ usernames session.accounts :=
    fun member => left.mem_iff.mpr (List.mem_cons_of_mem _ member)
  rw [isLeft.mem_iff]
  simp only [BrowserSession.lists, List.mem_singleton]
  constructor
  · rintro ⟨gone, kept⟩
    exact ⟨fun member => ⟨fewer member, fun same => gone same member⟩,
      fun other => kept other.2 other.1⟩
  · intro same
    exact ⟨fun isAsked member => (same.mp member).2 isAsked,
      fun notAsked listed => same.mpr ⟨listed, notAsked⟩⟩

theorem ends_complete_iff (asked : List String) :
    let outcome := SignIn.endSession storeAnswers session asked
    Complete asked session outcome.session provider.records
        (recordsAfter adapter answers provider outcome) ↔
      (Course.ends asked).Completes adapter provider answers storeAnswers session := by
  intro outcome
  rw [complete_iff fun key record => get_recordsAfter, Course.Completes]
  cases destruction : storeAnswers.destroy with
  | succeeds =>
    simp only [outcome, SignIn.endSession, destruction, SignIn.destroy, if_true,
      listsOthers_none]
  | fails remains =>
    simp only [outcome, SignIn.endSession, destruction, SignIn.destroy, reduceCtorEq, if_false,
      deletesData_nothing]
    cases remains with
    | false => simp only [Bool.false_eq_true, if_false, listsOthers_none]
    | true => simp only [if_true, listsOthers_same]

theorem removal_complete_iff (userId username : String) :
    let outcome := SignIn.removeFromSession storeAnswers session userId username
    (reports outcome.response = true →
      Complete [username] session outcome.session provider.records
        (recordsAfter adapter answers provider outcome)) ↔
      (Course.removes userId username).Completes adapter provider answers storeAnswers session := by
  intro outcome
  rw [Course.Completes]
  cases isRemovable : removable session.accounts userId with
  | none =>
    have refused := removeAuthenticatedUser_of_none isRemovable
    have notReported : reports outcome.response = false := by
      simp only [outcome, SignIn.removeFromSession, refused]
      cases storeAnswers.saves <;> rfl
    rw [notReported]
    exact iff_of_true nofun nofun
  | some removed =>
    obtain ⟨after, isRemoved, left, isFound⟩ := removeAuthenticatedUser_of_some isRemovable
    cases saves : storeAnswers.saves with
    | false =>
      have notReported : reports outcome.response = false := by
        simp only [outcome, SignIn.removeFromSession, isRemoved, saves]
        rfl
      rw [notReported]
      exact iff_of_true nofun fun _ _ saved => nomatch saved
    | true =>
      have isOutcome : outcome =
          { response := .signedOutOf, session := some { session with accounts := after }
            removed := some removed.username, cleared := [username] } := by
        simp only [outcome, SignIn.removeFromSession, isRemoved, saves, SignIn.removedUser,
          isFound]
        rfl
      rw [isOutcome]
      refine (forall_prop_of_true rfl).trans ?_
      rw [complete_iff fun key record => get_recordsAfter, listsOthers_removed session left]
      simp only [Option.some.injEq, forall_eq', forall_const]

/-- Every confirmed logout that reports success is complete if and only if its course is. -/
theorem logout_complete_iff (request : LogoutRequest) :
    let outcome := SignIn.logout request storeAnswers session
    (reports outcome.response = true →
      Complete (asked request session) session outcome.session provider.records
        (recordsAfter adapter answers provider outcome)) ↔
      (course request session).Completes adapter provider answers storeAnswers session := by
  intro outcome
  have isOutcome : outcome = (course request session).outcome storeAnswers session :=
    logout_eq request storeAnswers session
  have isAsked := asked_of_course request session
  cases taken : course request session with
  | fails =>
    rw [taken] at isOutcome
    rw [isOutcome]
    exact iff_of_true nofun trivial
  | ends accountIds =>
    rw [taken] at isOutcome isAsked
    rw [isOutcome, ← isAsked nofun]
    exact (forall_prop_of_true rfl).trans
      (ends_complete_iff adapter provider answers storeAnswers session accountIds)
  | removes userId username =>
    rw [taken] at isOutcome isAsked
    rw [isOutcome, ← isAsked nofun]
    exact removal_complete_iff adapter provider answers storeAnswers session userId username
  | nothing =>
    rw [taken] at isOutcome isAsked
    rw [isOutcome, ← isAsked nofun]
    refine iff_of_true (fun _ => ?_) trivial
    rw [complete_iff fun key record => get_recordsAfter]
    refine ⟨listsOthers_same.mpr ?_, (deletesData_nothing adapter provider answers).mpr ?_⟩
    · exact fun _ isAsked => absurd isAsked List.not_mem_nil
    · exact fun _ _ _ _ _ isAsked => absurd isAsked List.not_mem_nil

end Complete

def sessionOfAda : BrowserSession Unit :=
  { BrowserSession.blank "browser" with
    isAuthenticated := true
    accounts := ⟨some ⟨some ⟨"1", "ada", none, ()⟩, some []⟩, some "ada", none⟩ }

def providerOfAda : Provider where
  records := InsertionMap.empty.set (.RefreshToken, "token") ⟨OidcStore.signedInPayload, true⟩
  grantList _ := []

def logoutOfAda : LogoutRequest := ⟨"single", none⟩

def providerAnswers : ProviderAnswers := ⟨fun _ => true, fun _ => .full⟩

/-- With no failure the refresh token is left in Redis; and where the session cannot be destroyed,
the page reports all the same, and the session goes on to list the account. -/
theorem logout_leaves_account :
    let ended := SignIn.logout logoutOfAda ⟨.succeeds, true⟩ sessionOfAda
    let failed := SignIn.logout logoutOfAda ⟨.fails true, true⟩ sessionOfAda
    (reports ended.response = true ∧
      ¬Complete (asked logoutOfAda sessionOfAda) sessionOfAda ended.session providerOfAda.records
        (recordsAfter .redis providerAnswers providerOfAda ended)) ∧
      reports failed.response = true ∧
      ¬Complete (asked logoutOfAda sessionOfAda) sessionOfAda failed.session providerOfAda.records
        (recordsAfter .mongodb providerAnswers providerOfAda failed) := by
  refine ⟨⟨rfl, fun complete => ?_⟩, rfl, fun complete => ?_⟩
  · have signedOut := complete.signedOut "ada" (by decide)
    have notLive := signedOut.noData (.RefreshToken, "token") ⟨OidcStore.signedInPayload, true⟩
      (by decide) rfl rfl
    cases notLive
  · have signedOut := complete.signedOut "ada" (by decide)
    exact signedOut.notListed sessionOfAda rfl (List.mem_singleton.mpr rfl)

end ParakoId.Logout
