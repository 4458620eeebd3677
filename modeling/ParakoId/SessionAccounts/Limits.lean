import ParakoId.Library.Runs
import ParakoId.SessionAccounts.Accounts

/-!
What the accounts of a session should satisfy at every time, and the calls that keep it so.
-/

namespace ParakoId.SessionAccounts

open Runs (AlwaysFrom AllowedFrom)

variable {Profile : Type}

def accounts (session : Session Profile) : List (SessionUserAccount Profile) :=
  (getActiveUser session).toList ++ session.others

def Distinct (users : List (SessionUserAccount Profile)) : Prop :=
  (users.map SessionUserAccount.id).Nodup ∧ (users.map SessionUserAccount.username).Nodup

structure Consistent (config : SessionConfig) (session : Session Profile) : Prop where
  accountId : ∀ active, getActiveUser session = some active →
    session.accountId = some active.username
  distinct : Distinct (accounts session)
  bounded : (accounts session).length ≤ maxAccountsPerSession config
  single : config.multipleAccountsEnabled = some false → session.others = []

/-- A sign-in replaces at most one of the other accounts, and finds its account or room for it
in the session; an update gives the active account no id or username of another. -/
def StaysWithinLimits (config : SessionConfig) (session : Session Profile)
    (call : Call Profile) : Prop :=
  match call.operation with
  | .setAuthenticated user => ∀ account existing, user.bind (userAccount call.now) = some account →
      session.authenticatedUsers = some existing →
      config.multipleAccountsEnabled ≠ some false →
        (session.others.filter (sameAccount account)).length ≤ 1 ∧
          ((accounts session).any (sameAccount account) = true ∨
            (accounts session).length < maxAccountsPerSession config)
  | .updateActiveUserData updates => ∀ active, getActiveUser session = some active →
      ∀ other ∈ session.others, sameAccount (updatedAccount active updates) other = false
  | _ => True

variable {users : List (SessionUserAccount Profile)} {active : SessionUserAccount Profile}

theorem distinct_cons {account : SessionUserAccount Profile} :
    Distinct (account :: users) ↔
      (∀ other ∈ users, sameAccount account other = false) ∧ Distinct users := by
  simp only [Distinct, List.map_cons, List.nodup_cons, List.mem_map, not_exists, not_and]
  constructor
  · rintro ⟨⟨idFresh, ids⟩, usernameFresh, usernames⟩
    refine ⟨?_, ids, usernames⟩
    intro other member
    simp only [sameAccount, Bool.or_eq_false_iff, beq_eq_false_iff_ne]
    exact ⟨fun same => idFresh other member same.symm,
      fun same => usernameFresh other member same.symm⟩
  · rintro ⟨apart, ids, usernames⟩
    refine ⟨⟨?_, ids⟩, ?_, usernames⟩
    · intro other member same
      have different := apart other member
      simp [sameAccount, same] at different
    · intro other member same
      have different := apart other member
      simp [sameAccount, same] at different

theorem Distinct.perm {first second : List (SessionUserAccount Profile)}
    (perm : first.Perm second) (distinct : Distinct first) : Distinct second :=
  ⟨(perm.map _).nodup_iff.mp distinct.1, (perm.map _).nodup_iff.mp distinct.2⟩

theorem Distinct.sublist {first second : List (SessionUserAccount Profile)}
    (sub : first.Sublist second) (distinct : Distinct second) : Distinct first :=
  ⟨(sub.map _).nodup distinct.1, (sub.map _).nodup distinct.2⟩

@[simp] theorem sameAccount_usedAt (account other : SessionUserAccount Profile) (now : Nat) :
    sameAccount account (usedAt now other) = sameAccount account other := rfl

theorem distinct_append_usedAt {account : SessionUserAccount Profile} {now : Nat} :
    Distinct (users ++ [usedAt now account]) ↔ Distinct (account :: users) := by
  have perm : (users ++ [account]).Perm (account :: users) := List.perm_append_singleton _ _
  have same : Distinct (users ++ [usedAt now account]) ↔ Distinct (users ++ [account]) := by
    simp [Distinct, usedAt]
  rw [same]
  exact ⟨Distinct.perm perm, Distinct.perm perm.symm⟩

theorem perm_eraseP {test : SessionUserAccount Profile → Bool}
    {found : SessionUserAccount Profile} (isFound : users.find? test = some found) :
    users.Perm (found :: users.eraseP test) := by
  induction users with
  | nil => cases isFound
  | cons first rest ih =>
    by_cases passes : test first = true
    · rw [List.find?_cons_of_pos passes, Option.some.injEq] at isFound
      rw [List.eraseP_cons_of_pos passes, isFound]
    · rw [List.find?_cons_of_neg passes] at isFound
      rw [List.eraseP_cons_of_neg passes]
      exact ((ih isFound).cons first).trans (List.Perm.swap _ _ _)

theorem filter_le_one_iff {test : SessionUserAccount Profile → Bool} :
    (users.filter test).length ≤ 1 ↔ ∀ other ∈ users.eraseP test, test other = false := by
  induction users with
  | nil => simp
  | cons first rest ih =>
    by_cases passes : test first = true
    · rw [List.filter_cons_of_pos passes, List.eraseP_cons_of_pos passes, List.length_cons]
      have none_left : (rest.filter test).length + 1 ≤ 1 ↔ rest.filter test = [] := by
        rw [← List.length_eq_zero_iff]
        omega
      rw [none_left, List.filter_eq_nil_iff]
      simp only [Bool.not_eq_true]
    · rw [List.filter_cons_of_neg passes, List.eraseP_cons_of_neg passes, ih,
        List.forall_mem_cons]
      simp [passes]

theorem maxAccountsPerSession_pos (config : SessionConfig) : 0 < maxAccountsPerSession config := by
  cases isMax : config.max_accounts_per_session with
  | none => simp [maxAccountsPerSession, isMax]
  | some count =>
    cases count with
    | zero | succ _ => simp [maxAccountsPerSession, isMax]

theorem accounts_of_active {session : Session Profile}
    (isActive : getActiveUser session = some active) :
    accounts session = active :: session.others := by
  rw [accounts, isActive]
  rfl

theorem consistent_iff {config : SessionConfig} {session : Session Profile}
    (isActive : getActiveUser session = some active)
    (isAccount : session.accountId = some active.username) :
    Consistent config session ↔
      Distinct (active :: session.others) ∧
        session.others.length + 1 ≤ maxAccountsPerSession config ∧
        (config.multipleAccountsEnabled = some false → session.others = []) := by
  have isAccounts := accounts_of_active isActive
  constructor
  · rintro ⟨_, distinct, bounded, single⟩
    rw [isAccounts] at distinct bounded
    exact ⟨distinct, bounded, single⟩
  · rintro ⟨distinct, bounded, single⟩
    refine ⟨?_, isAccounts ▸ distinct, by rw [isAccounts]; exact bounded, single⟩
    intro other isOther
    rw [isActive, Option.some.injEq] at isOther
    rw [← isOther, isAccount]

theorem consistent_signedIn {config : SessionConfig} {others : List (SessionUserAccount Profile)}
    {pending : Option String} :
    Consistent config ⟨some ⟨some active, some others⟩, some active.username, pending⟩ ↔
      Distinct (active :: others) ∧ others.length + 1 ≤ maxAccountsPerSession config ∧
        (config.multipleAccountsEnabled = some false → others = []) :=
  consistent_iff rfl rfl

section Calls

variable {config : SessionConfig} {session : Session Profile}

section

variable (consistent : Consistent config session)
include consistent

theorem Consistent.parts {active : SessionUserAccount Profile}
    (isActive : getActiveUser session = some active) :
    Distinct (active :: session.others) ∧
      session.others.length + 1 ≤ maxAccountsPerSession config ∧
      (config.multipleAccountsEnabled = some false → session.others = []) :=
  (consistent_iff isActive (consistent.accountId active isActive)).mp consistent

theorem switchUser_consistent (now : Nat) (userId : String) :
    Consistent config (switchUser config now session userId).1 := by
  rw [switchUser]
  split
  · rename_i active others isUsers
    obtain ⟨isActive, isOthers⟩ := active_of_users isUsers
    obtain ⟨distinct, bounded, single⟩ := consistent.parts isActive
    rw [isOthers] at distinct bounded single
    split
    · exact consistent
    · rename_i found isFound
      have perm := perm_eraseP isFound
      split
      · exact ⟨consistent.accountId, consistent.distinct, consistent.bounded, consistent.single⟩
      · refine consistent_signedIn.mpr ⟨?_, ?_, ?_⟩
        · have swapped : Distinct (active :: found :: others.eraseP (isNamed userId)) :=
            distinct.perm (perm.cons active)
          exact distinct_append_usedAt.mpr swapped
        · have sameLength := perm.length_eq
          simp only [List.length_append, List.length_cons, List.length_nil] at sameLength ⊢
          omega
        · intro disabled
          rw [single disabled] at isFound
          cases isFound
  · exact consistent

theorem addAuthenticatedUser_consistent (now : Nat) (account : SessionUserAccount Profile)
    (setAsActive : Bool) :
    Consistent config (addAuthenticatedUser config now session account setAsActive).1 := by
  rw [addAuthenticatedUser]
  split
  · exact consistent_signedIn.mpr
      ⟨by simp [Distinct], maxAccountsPerSession_pos config, fun _ => rfl⟩
  · rename_i active isActive
    obtain ⟨distinct, bounded, single⟩ := consistent.parts isActive
    split
    · exact consistent
    · rename_i enabled
      split
      · exact consistent
      · rename_i notKnown
        simp only [Bool.or_eq_true, List.any_eq_true, not_or, not_exists, not_and,
          Bool.not_eq_true] at notKnown
        obtain ⟨notActive, notOther⟩ := notKnown
        have added : Distinct (account :: active :: session.others) := by
          refine distinct_cons.mpr ⟨?_, distinct⟩
          intro other member
          rw [sameAccount_comm]
          rcases List.mem_cons.mp member with rfl | isOther
          · exact notActive
          · exact notOther other isOther
        split
        · exact consistent
        · rename_i hasRoom
          split
          · refine consistent_signedIn.mpr
              ⟨distinct_append_usedAt.mpr (added.perm (List.Perm.swap _ _ _)), ?_, ?_⟩
            · simp only [List.length_append, List.length_cons, List.length_nil]
              omega
            · exact fun disabled => absurd disabled enabled
          · rw [consistent.accountId active isActive]
            refine consistent_signedIn.mpr ⟨distinct_append_usedAt.mpr added, ?_, ?_⟩
            · simp only [List.length_append, List.length_cons, List.length_nil]
              omega
            · exact fun disabled => absurd disabled enabled

theorem removeAuthenticatedUser_consistent (userId : String) :
    Consistent config (removeAuthenticatedUser session userId).1 := by
  rw [removeAuthenticatedUser]
  split
  · rename_i active others isUsers
    obtain ⟨isActive, isOthers⟩ := active_of_users isUsers
    obtain ⟨distinct, bounded, single⟩ := consistent.parts isActive
    rw [isOthers] at distinct bounded single
    split
    · have perm : (byLastUse others).Perm others := List.mergeSort_perm _ _
      split
      · exact consistent
      · rename_i promoted rest isSorted
        rw [isSorted] at perm
        refine consistent_signedIn.mpr
          ⟨(distinct_cons.mp distinct).2.perm perm.symm, ?_, ?_⟩
        · have sameLength := perm.length_eq
          simp only [List.length_cons] at sameLength
          omega
        · intro disabled
          rw [single disabled] at perm
          cases perm.eq_nil
    · split
      · rw [consistent.accountId active isActive]
        have kept : (others.eraseP (isNamed userId)).Sublist others := List.eraseP_sublist
        refine consistent_signedIn.mpr ⟨distinct.sublist (kept.cons_cons active), ?_, ?_⟩
        · have shorter := kept.length_le
          omega
        · intro disabled
          rw [single disabled]
          rfl
      · exact consistent
  · exact consistent

theorem updateActiveUserData_consistent (updates : AccountUpdates Profile) :
    Consistent config (updateActiveUserData session updates).1 ↔
      ∀ active, getActiveUser session = some active →
        ∀ other ∈ session.others, sameAccount (updatedAccount active updates) other = false := by
  cases isActive : getActiveUser session with
  | none =>
    have unchanged : (updateActiveUserData session updates).1 = session := by
      cases isUsers : session.authenticatedUsers with
      | none => simp only [updateActiveUserData, isUsers]
      | some authUsers =>
        rw [getActiveUser, isUsers, Option.bind_some] at isActive
        simp only [updateActiveUserData, isUsers, isActive]
    rw [unchanged]
    refine iff_of_true consistent ?_
    intro active isSome
    cases isSome
  | some active =>
    obtain ⟨isNext, sameOthers⟩ := updateActiveUserData_of_active isActive updates
    obtain ⟨distinct, bounded, single⟩ := consistent.parts isActive
    have isAccount : (updateActiveUserData session updates).1.accountId =
        some (updatedAccount active updates).username := by
      obtain ⟨authUsers, isUsers, isUser⟩ := Option.bind_eq_some_iff.mp isActive
      simp only [updateActiveUserData, isUsers, isUser]
      split
      · rfl
      · rename_i same
        rw [consistent.accountId active isActive, not_not.mp same]
    rw [consistent_iff isNext isAccount, sameOthers, distinct_cons]
    constructor
    · rintro ⟨⟨apart, _⟩, _⟩ other isOther
      rw [Option.some.injEq] at isOther
      exact isOther ▸ apart
    · intro apart
      exact ⟨⟨apart active rfl, (distinct_cons.mp distinct).2⟩, bounded, single⟩

end

theorem othersAfter_distinct {now : Nat} {account : SessionUserAccount Profile}
    {existing : AuthenticatedUsers Profile}
    (distinct : Distinct (existing.active.toList ++ existing.others.getD [])) :
    Distinct (account :: othersAfter now account existing) ↔
      ((existing.others.getD []).filter (sameAccount account)).length ≤ 1 := by
  have sub : ((existing.others.getD []).eraseP (sameAccount account)).Sublist
      (existing.others.getD []) := List.eraseP_sublist
  rw [filter_le_one_iff]
  simp only [othersAfter]
  cases isActive : existing.active with
  | none =>
    rw [isActive] at distinct
    rw [distinct_cons]
    exact and_iff_left (distinct.sublist sub)
  | some active =>
    rw [isActive] at distinct
    have kept : Distinct (active :: (existing.others.getD []).eraseP (sameAccount account)) :=
      distinct.sublist (sub.cons_cons active)
    by_cases same : sameAccount active account = true
    · simp only [same, if_true]
      rw [distinct_cons]
      exact and_iff_left (distinct_cons.mp kept).2
    · simp only [same, Bool.false_eq_true, if_false]
      rw [distinct_cons, distinct_append_usedAt]
      simp only [List.forall_mem_append, List.forall_mem_singleton, sameAccount_usedAt]
      rw [Bool.not_eq_true, sameAccount_comm] at same
      exact ⟨fun apart => apart.1.1, fun apart => ⟨⟨apart, same⟩, kept⟩⟩

theorem othersAfter_length {now bound : Nat} {account : SessionUserAccount Profile}
    {existing : AuthenticatedUsers Profile}
    (bounded : (existing.active.toList ++ existing.others.getD []).length ≤ bound) :
    (othersAfter now account existing).length + 1 ≤ bound ↔
      (existing.active.toList ++ existing.others.getD []).any (sameAccount account) = true ∨
        (existing.active.toList ++ existing.others.getD []).length < bound := by
  have erased := @List.length_eraseP _ (sameAccount account) (existing.others.getD [])
  have positive : (existing.others.getD []).any (sameAccount account) = true →
      0 < (existing.others.getD []).length := by
    intro known
    obtain ⟨other, isOther, _⟩ := List.any_eq_true.mp known
    exact List.length_pos_of_mem isOther
  simp only [othersAfter, List.any_append, List.length_append, Bool.or_eq_true] at bounded ⊢
  cases isActive : existing.active with
  | none =>
    simp only [isActive, Option.toList_none, List.length_nil, List.any_nil] at bounded ⊢
    by_cases known : (existing.others.getD []).any (sameAccount account) = true
    · have nonempty := positive known
      rw [if_pos known] at erased
      simp only [known, or_true, true_or, iff_true]
      omega
    · rw [if_neg known] at erased
      simp only [known, Bool.false_eq_true, or_self, false_or]
      omega
  | some active =>
    simp only [isActive, Option.toList_some, List.length_singleton, List.any_cons, List.any_nil,
      Bool.or_false] at bounded ⊢
    rw [sameAccount_comm account active]
    by_cases same : sameAccount active account = true
    · have shorter : ((existing.others.getD []).eraseP (sameAccount account)).length ≤
          (existing.others.getD []).length := List.eraseP_sublist.length_le
      simp only [same, if_true, true_or, iff_true]
      omega
    · simp only [same, Bool.false_eq_true, if_false, List.length_append, List.length_singleton,
        false_or]
      by_cases known : (existing.others.getD []).any (sameAccount account) = true
      · have nonempty := positive known
        rw [if_pos known] at erased
        simp only [known, true_or, iff_true]
        omega
      · rw [if_neg known] at erased
        simp only [known, Bool.false_eq_true, false_or]
        omega

theorem setAuthenticated_consistent (consistent : Consistent config session) (now : Nat)
    (user : Option (SessionAuthenticationAccount Profile)) :
    Consistent config ((setAuthenticated config now session user).toOption.getD session) ↔
      ∀ account existing, user.bind (userAccount now) = some account →
        session.authenticatedUsers = some existing →
        config.multipleAccountsEnabled ≠ some false →
          (session.others.filter (sameAccount account)).length ≤ 1 ∧
            ((accounts session).any (sameAccount account) = true ∨
              (accounts session).length < maxAccountsPerSession config) := by
  cases isAccount : user.bind (userAccount now) with
  | none =>
    simp only [setAuthenticated, isAccount]
    refine iff_of_true consistent ?_
    intro account existing isSome
    cases isSome
  | some account =>
    cases isUsers : session.authenticatedUsers with
    | none =>
      simp only [setAuthenticated, isAccount, isUsers]
      refine iff_of_true (consistent_signedIn.mpr
        ⟨by simp [Distinct], maxAccountsPerSession_pos config, fun _ => rfl⟩) ?_
      intro _ existing _ isSome
      cases isSome
    | some existing =>
      have isAccounts : accounts session =
          existing.active.toList ++ existing.others.getD [] := by
        rw [accounts, getActiveUser, Session.others, isUsers]
        rfl
      have isOthers : session.others = existing.others.getD [] := by
        rw [Session.others, isUsers]
        rfl
      by_cases disabled : config.multipleAccountsEnabled = some false
      · simp only [setAuthenticated, isAccount, isUsers, disabled, if_true]
        refine iff_of_true (consistent_signedIn.mpr
          ⟨by simp [Distinct], maxAccountsPerSession_pos config, fun _ => rfl⟩) ?_
        intro _ _ _ _ enabled
        exact absurd rfl enabled
      · simp only [setAuthenticated, isAccount, isUsers, disabled, if_false]
        have distinct := consistent.distinct
        have bounded := consistent.bounded
        rw [isAccounts] at distinct bounded ⊢
        rw [isOthers]
        refine consistent_signedIn.trans ?_
        rw [othersAfter_distinct distinct, othersAfter_length bounded]
        constructor
        · rintro ⟨once, room, _⟩ other _ isOther _ _
          rw [Option.some.injEq] at isOther
          exact isOther ▸ ⟨once, room⟩
        · intro both
          obtain ⟨once, room⟩ := both account existing rfl rfl disabled
          exact ⟨once, room, fun isDisabled => absurd isDisabled disabled⟩

theorem sessionStep_consistent (consistent : Consistent config session) (call : Call Profile) :
    Consistent config (sessionStep config session call) ↔ StaysWithinLimits config session call := by
  obtain ⟨now, operation⟩ := call
  cases operation with
  | setAuthenticated user => exact setAuthenticated_consistent consistent now user
  | addAuthenticatedUser account setAsActive =>
    exact iff_of_true (addAuthenticatedUser_consistent consistent now account setAsActive)
      trivial
  | switchUser userId => exact iff_of_true (switchUser_consistent consistent now userId) trivial
  | removeAuthenticatedUser userId =>
    exact iff_of_true (removeAuthenticatedUser_consistent consistent userId) trivial
  | updateActiveUserData updates => exact updateActiveUserData_consistent consistent updates

end Calls

def newSession : Session Profile :=
  { authenticatedUsers := none, accountId := none, pendingSwitchUserId := none }

/-- A session is consistent at all times of a run exactly where it starts so and every call
stays within the limits. -/
theorem session_consistent_iff (config : SessionConfig) (session : Session Profile)
    (calls : List (Call Profile)) :
    AlwaysFrom (sessionStep config) (Consistent config) session calls ↔
      Consistent config session ∧
        AllowedFrom (sessionStep config) (StaysWithinLimits config) session calls := by
  apply Runs.always_iff_start
  intro state call consistent
  exact sessionStep_consistent consistent call

theorem sign_in_exceeds_limit :
    ¬∀ (config : SessionConfig) (calls : List (Call Unit)),
      AlwaysFrom (sessionStep config) (Consistent config) newSession calls := by
  intro always
  have bounded := (always ⟨none, some 1, none⟩
    [⟨0, .setAuthenticated (some ⟨some "1", none, "ada", ()⟩)⟩,
      ⟨1, .setAuthenticated (some ⟨some "2", none, "bob", ()⟩)⟩]).final.bounded
  revert bounded
  decide

end ParakoId.SessionAccounts
