import ParakoId.SignIn.Listed
import ParakoId.SignIn.Logout

/-!
The courses that a confirmed logout can take on the session: it ends the session, takes one account
out of it, or leaves it as it is.
-/

namespace ParakoId.Logout

open SessionAccounts (SessionUserAccount isNamed getActiveUser accounts byLastUse)
open SignIn (BrowserSession LogoutRequest LogoutResponse LogoutOutcome StoreAnswers usernames
  usernameOf isOnlyAccount endSession removeFromSession)

section Removal

variable {Profile : Type} {session : SessionAccounts.Session Profile} {userId : String}

def removable (session : SessionAccounts.Session Profile) (userId : String) :
    Option (SessionUserAccount Profile) :=
  match session.authenticatedUsers with
  | some ⟨some active, some others⟩ =>
    if isNamed userId active then if others.isEmpty then none else some active
    else others.find? (isNamed userId)
  | _ => none

theorem perm_eraseP {Item : Type} {found : Item → Bool} {items : List Item} {item : Item}
    (isFound : items.find? found = some item) : items.Perm (item :: items.eraseP found) := by
  obtain ⟨meets, before, after, rfl, none⟩ := List.find?_eq_some_iff_append.mp isFound
  have others : ∀ other ∈ before, ¬found other = true :=
    fun other member => by simpa using none other member
  rw [List.eraseP_append_right _ others, List.eraseP_cons_of_pos meets]
  exact List.perm_middle

theorem removeAuthenticatedUser_of_none (notRemovable : removable session userId = none) :
    SessionAccounts.removeAuthenticatedUser session userId = (session, false) := by
  rw [removable] at notRemovable
  rw [SessionAccounts.removeAuthenticatedUser]
  split
  · next active others isUsers =>
      simp only [isUsers] at notRemovable
      split at notRemovable
      · next named =>
          split at notRemovable
          · next isEmpty =>
              rw [if_pos named, List.isEmpty_iff.mp isEmpty, byLastUse, List.mergeSort_nil]
          · cases notRemovable
      · next notNamed =>
          have noOther : others.any (isNamed userId) = false := by
            rw [List.any_eq_false]
            intro other member
            exact List.find?_eq_none.mp notRemovable other member
          rw [if_neg notNamed, if_neg (by simp [noOther])]
  · rfl

theorem removable_some {removed : SessionUserAccount Profile}
    (isRemovable : removable session userId = some removed) :
    ∃ active others, session.authenticatedUsers = some ⟨some active, some others⟩ ∧
      ((isNamed userId active = true ∧ others ≠ [] ∧ active = removed) ∨
        (isNamed userId active = false ∧ others.find? (isNamed userId) = some removed)) := by
  rw [removable] at isRemovable
  split at isRemovable
  · next active others isUsers =>
      refine ⟨active, others, isUsers, ?_⟩
      split at isRemovable
      · next named =>
          split at isRemovable
          · cases isRemovable
          · next nonempty =>
              refine .inl ⟨named, ?_, Option.some.inj isRemovable⟩
              rintro rfl
              exact nonempty rfl
      · next notNamed => exact .inr ⟨eq_false_of_ne_true notNamed, isRemovable⟩
  · cases isRemovable

theorem removeAuthenticatedUser_of_some {removed : SessionUserAccount Profile}
    (isRemovable : removable session userId = some removed) :
    ∃ after, SessionAccounts.removeAuthenticatedUser session userId = (after, true) ∧
      (usernames session).Perm (removed.username :: usernames after) ∧
      (accounts session).find? (isNamed userId) = some removed := by
  obtain ⟨active, others, isUsers, isRemoved⟩ := removable_some isRemovable
  obtain ⟨isActive, isOthers⟩ := SessionAccounts.active_of_users isUsers
  have listed : accounts session = active :: others := by
    rw [accounts, isActive, isOthers]
    rfl
  rw [SignIn.usernames_of_users isUsers, listed]
  simp only [SessionAccounts.removeAuthenticatedUser, isUsers]
  rcases isRemoved with ⟨named, nonempty, rfl⟩ | ⟨notNamed, isFound⟩
  · have sorted : (byLastUse others).Perm others := List.mergeSort_perm _ _
    rw [if_pos named]
    cases isSorted : byLastUse others with
    | nil =>
      rw [isSorted] at sorted
      exact absurd sorted.nil_eq.symm nonempty
    | cons promoted rest =>
      refine ⟨_, rfl, ?_, List.find?_cons_of_pos named⟩
      rw [isSorted] at sorted
      rw [SignIn.usernames_of_users rfl]
      exact (sorted.symm.map SessionUserAccount.username).cons _
  · have isOther : others.any (isNamed userId) = true :=
      List.any_eq_true.mpr ⟨removed, List.mem_of_find?_eq_some isFound, List.find?_some isFound⟩
    rw [if_neg (by simp [notNamed]), if_pos isOther]
    refine ⟨_, rfl, ?_, ?_⟩
    · rw [SignIn.usernames_of_users rfl]
      have fewer := (perm_eraseP isFound).map SessionUserAccount.username
      exact (fewer.cons _).trans (List.Perm.swap _ _ _)
    · rw [List.find?_cons_of_neg (by simp [notNamed])]
      exact isFound

end Removal

inductive Course
  | fails
  | ends (usernames : List String)
  | removes (userId username : String)
  | nothing

section Courses

variable {Profile : Type} (request : LogoutRequest) (answers : StoreAnswers)
  (session : BrowserSession Profile)

def course : Course :=
  if session.accounts.authenticatedUsers.any fun users => users.others.isNone then .fails
  else if request.type = "all" then .ends (usernames session.accounts)
  else
    match request.named with
    | some accountId =>
      if isOnlyAccount session accountId then .ends [usernameOf session accountId]
      else .removes accountId (usernameOf session accountId)
    | none =>
      if (accounts session.accounts).length ≤ 1 then
        .ends ((getActiveUser session.accounts).map SessionUserAccount.username).toList
      else
        match getActiveUser session.accounts with
        | some active => .removes active.id active.username
        | none => .nothing

def Course.outcome : Course → LogoutOutcome Profile
  | .fails => { response := .error, session := some session, removed := none, cleared := [] }
  | .ends usernames => endSession answers session usernames
  | .removes userId username => removeFromSession answers session userId username
  | .nothing => { response := .signedOut, session := some session, removed := none, cleared := [] }

theorem logout_eq :
    SignIn.logout request answers session = (course request session).outcome answers session := by
  rw [SignIn.logout, course]
  split
  · rfl
  · split
    · rfl
    · cases request.named with
      | some accountId =>
        cases isOnly : isOnlyAccount session accountId <;> simp [isOnly, Course.outcome]
      | none =>
        simp only [SignIn.logoutActive]
        split
        · rfl
        · cases getActiveUser session.accounts <;> rfl

def asked : List String :=
  if request.type = "all" then usernames session.accounts
  else
    match request.named with
    | some accountId => [usernameOf session accountId]
    | none => ((getActiveUser session.accounts).map SessionUserAccount.username).toList

def Course.asked : Course → List String
  | .ends usernames => usernames
  | .removes _ username => [username]
  | .fails | .nothing => []

theorem asked_of_course (runs : course request session ≠ .fails) :
    (course request session).asked = asked request session := by
  rw [course] at runs ⊢
  rw [asked]
  split at runs
  · exact absurd rfl runs
  · next counted =>
      rw [if_neg counted]
      split
      · rfl
      · cases request.named with
        | some accountId =>
          cases isOnly : isOnlyAccount session accountId <;> simp [isOnly, Course.asked]
        | none =>
          dsimp only
          split
          · rfl
          · cases getActiveUser session.accounts <;> rfl

end Courses

end ParakoId.Logout
