import ParakoId.SessionAccounts.Limits
import ParakoId.SignIn.Exposures

/-! The accounts that a session lists, and the second factors that were verified before. -/

namespace ParakoId.SignIn

open Calls (Call Keeps left outcome keeps_pure keeps_throw)
open SecondFactors (MfaMethod)
open SessionAccounts (SessionConfig SessionUserAccount SessionAuthenticationAccount)

section Listed

variable {Profile : Type}

def usernames (accounts : SessionAccounts.Session Profile) : List String :=
  (SessionAccounts.accounts accounts).map SessionUserAccount.username

def BrowserSession.lists (session : BrowserSession Profile) (accountId : String) : Prop :=
  accountId ∈ usernames session.accounts

def FactorVerified (accountId : String) (deeds : List Deed) : Prop :=
  ∃ method, Deed.secondFactorVerified accountId method ∈ deeds

def FactorBeforeMark (accountId : String) : List Deed → Prop
  | [] => True
  | .authenticated _ username :: earlier =>
    (username = accountId → FactorVerified accountId earlier) ∧ FactorBeforeMark accountId earlier
  | _ :: earlier => FactorBeforeMark accountId earlier

/-- What holds of an account while the one named by `signingIn` may be marked. -/
structure Vouched (accountId : String) (signingIn : Option String) (browser : Browser Profile) :
    Prop where
  listed : ∀ session, browser.session = some session → session.lists accountId →
    FactorVerified accountId browser.deeds
  known : signingIn = some accountId → FactorVerified accountId browser.deeds
  marked : FactorBeforeMark accountId browser.deeds

variable {accounts : SessionAccounts.Session Profile} {username : String}

theorem mem_usernames :
    username ∈ usernames accounts ↔
      (SessionAccounts.getActiveUser accounts).map SessionUserAccount.username = some username ∨
        username ∈ accounts.others.map SessionUserAccount.username := by
  simp [usernames, SessionAccounts.accounts]

theorem usernames_of_users {active : SessionUserAccount Profile}
    {others : List (SessionUserAccount Profile)}
    (isUsers : accounts.authenticatedUsers = some ⟨some active, some others⟩) :
    usernames accounts = active.username :: others.map SessionUserAccount.username := by
  obtain ⟨isActive, isOthers⟩ := SessionAccounts.active_of_users isUsers
  simp [usernames, SessionAccounts.accounts, isActive, isOthers]

theorem mem_othersAfter {now : Nat} {account : SessionUserAccount Profile}
    {existing : SessionAccounts.AuthenticatedUsers Profile}
    (isUsers : accounts.authenticatedUsers = some existing)
    (member : username ∈
      (SessionAccounts.othersAfter now account existing).map SessionUserAccount.username) :
    username ∈ usernames accounts := by
  have isOthers : accounts.others = existing.others.getD [] := by
    simp [SessionAccounts.Session.others, isUsers]
  have isActive : SessionAccounts.getActiveUser accounts = existing.active := by
    simp [SessionAccounts.getActiveUser, isUsers]
  obtain ⟨other, isOther, rfl⟩ := List.mem_map.mp member
  rw [mem_usernames, isOthers, isActive]
  have remains : other ∈ (existing.others.getD []).eraseP (SessionAccounts.sameAccount account) →
      other.username ∈ (existing.others.getD []).map SessionUserAccount.username :=
    fun kept => List.mem_map.mpr ⟨other, List.mem_of_mem_eraseP kept, rfl⟩
  rw [SessionAccounts.othersAfter] at isOther
  cases isUser : existing.active with
  | none =>
    simp only [isUser] at isOther
    exact Or.inr (remains isOther)
  | some active =>
    simp only [isUser] at isOther
    split at isOther
    · exact Or.inr (remains isOther)
    · rcases List.mem_append.mp isOther with kept | isLast
      · exact Or.inr (remains kept)
      · rw [List.mem_singleton.mp isLast]
        exact Or.inl rfl

theorem mem_usernames_setAuthenticated {config : SessionConfig} {now : Nat}
    {after : SessionAccounts.Session Profile} {user : SessionAuthenticationAccount Profile}
    (isSet : SessionAccounts.setAuthenticated config now accounts (some user) = .ok after)
    (member : username ∈ usernames after) :
    username = user.username ∨ username ∈ usernames accounts := by
  rw [SessionAccounts.setAuthenticated, Option.bind_some] at isSet
  cases isAccount : SessionAccounts.userAccount now user with
  | none => simp [isAccount] at isSet
  | some account =>
    simp only [isAccount, Except.ok.injEq] at isSet
    subst isSet
    rw [usernames_of_users rfl, userAccount_username isAccount, List.mem_cons] at member
    refine member.imp_right fun isOther => ?_
    cases isUsers : accounts.authenticatedUsers with
    | none => simp [isUsers] at isOther
    | some existing =>
      simp only [isUsers] at isOther
      split at isOther
      · cases isOther
      · exact mem_othersAfter isUsers isOther

theorem mem_usernames_addAuthenticatedUser {config : SessionConfig} {now : Nat}
    {account : SessionUserAccount Profile} {setAsActive : Bool}
    (member : username ∈ usernames
      (SessionAccounts.addAuthenticatedUser config now accounts account setAsActive).1) :
    username = account.username ∨ username ∈ usernames accounts := by
  rw [SessionAccounts.addAuthenticatedUser] at member
  cases isActive : SessionAccounts.getActiveUser accounts with
  | none =>
    simp only [isActive] at member
    rw [usernames_of_users rfl] at member
    exact Or.inl (List.mem_singleton.mp member)
  | some active =>
    have before : ∀ name, name = active.username ∨
        name ∈ accounts.others.map SessionUserAccount.username → name ∈ usernames accounts := by
      intro name isOld
      rw [mem_usernames, isActive]
      exact isOld.imp_left fun same => congrArg some same.symm
    simp only [isActive] at member
    split at member
    · exact Or.inr member
    · split at member
      · exact Or.inr member
      · split at member
        · exact Or.inr member
        · split at member
          all_goals
            rw [usernames_of_users rfl] at member
            simp only [SessionAccounts.usedAt, List.map_append, List.map_cons, List.map_nil,
              List.mem_cons, List.mem_append, List.not_mem_nil, or_false] at member
          · rcases member with isNew | isOther | isActive
            · exact Or.inl isNew
            · exact Or.inr (before username (Or.inr isOther))
            · exact Or.inr (before username (Or.inl isActive))
          · rcases member with isActive | isOther | isNew
            · exact Or.inr (before username (Or.inl isActive))
            · exact Or.inr (before username (Or.inr isOther))
            · exact Or.inl isNew

theorem mem_usernames_switchUser {config : SessionConfig} {now : Nat} {userId : String}
    (member : username ∈ usernames (SessionAccounts.switchUser config now accounts userId).1) :
    username ∈ usernames accounts := by
  rw [SessionAccounts.switchUser] at member
  split at member
  · next active others isUsers =>
      split at member
      · exact member
      · next newActive isNew =>
          split at member
          · exact member
          · rw [usernames_of_users rfl] at member
            rw [usernames_of_users isUsers]
            have isOther := List.mem_of_find?_eq_some isNew
            simp only [SessionAccounts.usedAt, List.map_append, List.map_cons, List.map_nil,
              List.mem_cons, List.mem_append, List.not_mem_nil, or_false] at member ⊢
            rcases member with isNewName | isRest | isOld
            · exact Or.inr (isNewName ▸ List.mem_map_of_mem isOther)
            · exact Or.inr (((List.eraseP_sublist).map _).subset isRest)
            · exact Or.inl isOld
  · exact member

theorem mem_usernames_removeAuthenticatedUser {userId : String}
    (member : username ∈ usernames (SessionAccounts.removeAuthenticatedUser accounts userId).1) :
    username ∈ usernames accounts := by
  rw [SessionAccounts.removeAuthenticatedUser] at member
  split at member
  · next active others isUsers =>
      rw [usernames_of_users isUsers, List.mem_cons]
      split at member
      · split at member
        · rwa [usernames_of_users isUsers, List.mem_cons] at member
        · next promoted rest isSorted =>
            rw [usernames_of_users rfl, ← List.map_cons, ← isSorted] at member
            exact .inr ((List.mergeSort_perm others _).map _ |>.subset member)
      · split at member
        · rw [usernames_of_users rfl, List.mem_cons] at member
          exact member.imp_right fun remains => (List.eraseP_sublist.map _).subset remains
        · rwa [usernames_of_users isUsers, List.mem_cons] at member
  · exact member

variable {accountId : String} {signingIn : Option String}

theorem factorVerified_cons {deeds : List Deed} (deed : Deed)
    (verified : FactorVerified accountId deeds) : FactorVerified accountId (deed :: deeds) :=
  verified.imp fun _ member => List.mem_cons_of_mem deed member

theorem Vouched.of_known {browser : Browser Profile}
    (known : FactorVerified accountId browser.deeds)
    (marked : FactorBeforeMark accountId browser.deeds) :
    Vouched accountId signingIn browser :=
  ⟨fun _ _ _ => known, fun _ => known, marked⟩

theorem Vouched.forget {browser : Browser Profile}
    (vouched : Vouched accountId signingIn browser) : Vouched accountId none browser :=
  ⟨vouched.listed, nofun, vouched.marked⟩

def Deed.isMark : Deed → Bool
  | .authenticated _ _ => true
  | _ => false

end Listed

end ParakoId.SignIn
