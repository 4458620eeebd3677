import ParakoId.Library.Runs
import ParakoId.SessionAccounts.Accounts

/-!
Changes of the active account to another account of the session, where a switch requires
re-authentication. The guard of `switchUser` is the only one.
-/

namespace ParakoId.SessionAccounts

open Runs (AlwaysFrom AllowedFrom)

variable {Profile : Type}

structure Takeover (Profile : Type) where
  before : SessionUserAccount Profile
  existing : SessionUserAccount Profile

def isIdentical (first second : SessionUserAccount Profile) : Bool :=
  first.id == second.id && first.username == second.username

def takeover (before after : Session Profile) : Option (Takeover Profile) :=
  match getActiveUser before, getActiveUser after with
  | some active, some newActive =>
    if isIdentical active newActive then none
    else (before.others.find? (sameAccount newActive)).map fun existing => ⟨active, existing⟩
  | _, _ => none

structure Watched (Profile : Type) where
  session : Session Profile
  takeovers : List (Takeover Profile)

def isSignIn : Operation Profile → Bool
  | .setAuthenticated _ => true
  | _ => false

def watchedStep (config : SessionConfig) (state : Watched Profile) (call : Call Profile) :
    Watched Profile :=
  let session := sessionStep config state.session call
  { session
    takeovers := if isSignIn call.operation then state.takeovers
      else (takeover state.session session).toList ++ state.takeovers }

def watch (session : Session Profile) : Watched Profile := ⟨session, []⟩

def requiringReauth (config : SessionConfig) : SessionConfig :=
  { config with require_reauth_on_switch := some true }

def NoTakeover (state : Watched Profile) : Prop := state.takeovers = []

def LeavesActive (state : Watched Profile) (call : Call Profile) : Prop :=
  match call.operation with
  | .removeAuthenticatedUser userId => ∀ active promoted,
      getActiveUser state.session = some active → isNamed userId active = true →
      (byLastUse state.session.others).head? = some promoted →
        isIdentical active promoted = true
  | .updateActiveUserData updates => ∀ active, getActiveUser state.session = some active →
      isIdentical active (updatedAccount active updates) = false →
      ∀ other ∈ state.session.others, sameAccount (updatedAccount active updates) other = false
  | _ => True

section Calls

variable {config : SessionConfig} {session : Session Profile}

theorem isIdentical_refl (account : SessionUserAccount Profile) :
    isIdentical account account = true := by
  simp [isIdentical]

theorem takeover_same {after : Session Profile}
    (same : getActiveUser after = getActiveUser session) : takeover session after = none := by
  rw [takeover, same]
  cases getActiveUser session with
  | none => rfl
  | some active => simp only [isIdentical_refl, if_true]

theorem takeover_none_iff {after : Session Profile} {active newActive : SessionUserAccount Profile}
    (isActive : getActiveUser session = some active)
    (isNew : getActiveUser after = some newActive) :
    takeover session after = none ↔
      (isIdentical active newActive = false →
        ∀ other ∈ session.others, sameAccount newActive other = false) := by
  rw [takeover, isActive, isNew]
  cases identical : isIdentical active newActive with
  | true | false => simp [identical]

theorem takeover_switchUser (now : Nat) (userId : String) :
    takeover session (switchUser (requiringReauth config) now session userId).1 = none := by
  apply takeover_same
  rw [switchUser]
  split
  · split
    · rfl
    · rfl
  · rfl

theorem takeover_addAuthenticatedUser (now : Nat) (account : SessionUserAccount Profile)
    (setAsActive : Bool) :
    takeover session (addAuthenticatedUser config now session account setAsActive).1 = none := by
  cases isActive : getActiveUser session with
  | none => rw [takeover, isActive]
  | some active =>
    simp only [addAuthenticatedUser, isActive]
    split
    · exact takeover_same rfl
    · split
      · exact takeover_same rfl
      · rename_i notKnown
        split
        · exact takeover_same rfl
        · split
          · rw [takeover_none_iff isActive rfl]
            intro _ other isOther
            simp only [Bool.or_eq_true, List.any_eq_true, not_or, not_exists, not_and,
              Bool.not_eq_true] at notKnown
            have apart := notKnown.2 other isOther
            rw [sameAccount_comm] at apart
            exact apart
          · exact takeover_same isActive.symm

theorem takeover_removeAuthenticatedUser (userId : String) :
    takeover session (removeAuthenticatedUser session userId).1 = none ↔
      ∀ active promoted, getActiveUser session = some active → isNamed userId active = true →
        (byLastUse session.others).head? = some promoted →
          isIdentical active promoted = true := by
  rw [removeAuthenticatedUser]
  split
  · rename_i active others isUsers
    obtain ⟨isActive, isOthers⟩ := active_of_users isUsers
    split
    · rename_i named
      split
      · rename_i noOthers
        refine iff_of_true (takeover_same rfl) ?_
        intro _ promoted _ _ isHead
        rw [isOthers, noOthers] at isHead
        cases isHead
      · rename_i promoted rest isSorted
        have member : promoted ∈ session.others := by
          rw [isOthers]
          exact (List.mergeSort_perm _ _).mem_iff.mp (isSorted ▸ List.mem_cons_self)
        have itself : sameAccount promoted promoted = true := by simp [sameAccount]
        rw [takeover_none_iff isActive rfl]
        constructor
        · intro apart other head isOther _ isHead
          rw [isActive, Option.some.injEq] at isOther
          rw [isOthers, isSorted, List.head?_cons, Option.some.injEq] at isHead
          rw [← isOther, ← isHead]
          by_contra different
          rw [apart (Bool.eq_false_iff.mpr different) promoted member] at itself
          cases itself
        · intro identical different
          have same := identical active promoted isActive named (by rw [isOthers, isSorted]; rfl)
          rw [different] at same
          cases same
    · rename_i notNamed
      have unnamed : ∀ other promoted, getActiveUser session = some other →
          isNamed userId other = true → (byLastUse session.others).head? = some promoted →
          isIdentical other promoted = true := by
        intro other promoted isOther named
        rw [isActive, Option.some.injEq] at isOther
        exact absurd (isOther ▸ named) notNamed
      split
      · exact iff_of_true (takeover_same isActive.symm) unnamed
      · exact iff_of_true (takeover_same rfl) unnamed
  · rename_i incomplete
    refine iff_of_true (takeover_same rfl) ?_
    intro active promoted isActive _ isHead
    obtain ⟨⟨_, others⟩, isUsers, rfl⟩ := Option.bind_eq_some_iff.mp isActive
    cases others with
    | none => simp [Session.others, isUsers, byLastUse] at isHead
    | some others => exact (incomplete active others isUsers).elim

theorem takeover_updateActiveUserData (updates : AccountUpdates Profile) :
    takeover session (updateActiveUserData session updates).1 = none ↔
      ∀ active, getActiveUser session = some active →
        isIdentical active (updatedAccount active updates) = false →
        ∀ other ∈ session.others, sameAccount (updatedAccount active updates) other = false := by
  cases isActive : getActiveUser session with
  | none => simp [takeover, isActive]
  | some active =>
    rw [takeover_none_iff isActive (updateActiveUserData_of_active isActive updates).1]
    simp

end Calls

theorem watchedStep_noTakeover (config : SessionConfig) (state : Watched Profile)
    (call : Call Profile) (noTakeover : NoTakeover state) :
    NoTakeover (watchedStep (requiringReauth config) state call) ↔ LeavesActive state call := by
  have next : isSignIn call.operation = false →
      (NoTakeover (watchedStep (requiringReauth config) state call) ↔
        takeover state.session (sessionStep (requiringReauth config) state.session call) =
          none) := by
    intro notSignIn
    rw [NoTakeover] at noTakeover
    simp [NoTakeover, watchedStep, notSignIn, noTakeover]
  obtain ⟨now, operation⟩ := call
  cases operation with
  | setAuthenticated user => exact iff_of_true noTakeover trivial
  | addAuthenticatedUser account setAsActive =>
    rw [next rfl]
    exact iff_of_true (takeover_addAuthenticatedUser now account setAsActive) trivial
  | switchUser userId =>
    rw [next rfl]
    exact iff_of_true (takeover_switchUser now userId) trivial
  | removeAuthenticatedUser userId =>
    rw [next rfl]
    exact takeover_removeAuthenticatedUser userId
  | updateActiveUserData updates =>
    rw [next rfl]
    exact takeover_updateActiveUserData updates

/-- Where a switch requires re-authentication, no call of a run but a sign-in makes another
account of the session active, exactly where each leaves the active account. -/
theorem switches_reauthenticated_iff (config : SessionConfig) (session : Session Profile)
    (calls : List (Call Profile)) :
    AlwaysFrom (watchedStep (requiringReauth config)) NoTakeover (watch session) calls ↔
      AllowedFrom (watchedStep (requiringReauth config)) LeavesActive (watch session) calls := by
  have start : NoTakeover (watch session) := rfl
  refine Runs.always_iff_allowed_within _ ?_ ?_ start start
  · intro state call _ noTakeover leaves
    exact (watchedStep_noTakeover config state call noTakeover).mpr leaves
  · intro state call _ noTakeover
    exact watchedStep_noTakeover config state call noTakeover

theorem removal_switches :
    ¬∀ (config : SessionConfig) (session : Session Unit) (calls : List (Call Unit)),
      AlwaysFrom (watchedStep (requiringReauth config)) NoTakeover (watch session) calls := by
  intro always
  let ada : SessionUserAccount Unit := ⟨"1", "ada", none, ()⟩
  let bob : SessionUserAccount Unit := ⟨"2", "bob", none, ()⟩
  let session : Session Unit := ⟨some ⟨some ada, some [bob]⟩, some "ada", none⟩
  have kept := (always ⟨none, none, none⟩ session [⟨0, .removeAuthenticatedUser "1"⟩]).final
  have start : NoTakeover (watch session) := rfl
  have leaves := (watchedStep_noTakeover _ _ _ start).mp kept
  have identical := leaves ada bob rfl rfl (congrArg List.head? (List.mergeSort_singleton bob))
  cases identical

end ParakoId.SessionAccounts
