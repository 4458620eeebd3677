import ParakoId.SignIn.SecondFactorFirst

/-!
Nobody gets on the list of the session but by credentials that were verified: each handler notes
whose credentials it has verified before it adds or marks an account.
-/

namespace ParakoId.SignIn

open Calls (Call Keeps)

section VerifiedSignIns

variable {Profile : Type}

def Deed.verified : Deed → Option String
  | .credentialsVerified username | .secondFactorVerified username _ => some username
  | _ => none

def verifiedNames (deeds : List Deed) : List String := deeds.filterMap Deed.verified

/-- Whom the session lists was listed `before` or was verified since. The one who is `known` was
verified, and may be listed next. -/
structure Backed (before : List String) (known : Option String) (browser : Browser Profile) :
    Prop where
  listed : ∀ session, browser.session = some session → ∀ name ∈ usernames session.accounts,
    name ∈ before ∨ name ∈ verifiedNames browser.deeds
  verified : ∀ name, known = some name → name ∈ verifiedNames browser.deeds

def Backs {Value : Type} (before : List String) (known : Option String)
    (call : Action Profile Value) : Prop :=
  Keeps (Backed before known) call

/-- Nobody is listed but who was listed `before` or was verified since, and those `known` were. -/
def BackedBy (before known : List String) (browser : Browser Profile) : Prop :=
  Backed before none browser ∧ ∀ name ∈ known, name ∈ verifiedNames browser.deeds

def mayList (before known : List String) (name : String) : Prop := name ∈ before ∨ name ∈ known

def knownAfter (known : List String) (deed : Deed) : List String := deed.verified.toList ++ known

variable {before known : List String}

theorem BackedBy.noting {browser : Browser Profile} (backed : BackedBy before known browser)
    (deed : Deed) : BackedBy before (knownAfter known deed) (browser.noting deed) := by
  have isNoted : verifiedNames (browser.noting deed).deeds =
      deed.verified.toList ++ verifiedNames browser.deeds := by
    cases isVerified : deed.verified <;> simp [verifiedNames, Browser.noting, isVerified]
  refine ⟨⟨fun session isSession name member => ?_, fun _ none => by cases none⟩,
    fun name isKnown => ?_⟩
  · rw [isNoted, List.mem_append]
    exact (backed.1.listed session isSession name member).imp_right .inr
  · rw [isNoted, List.mem_append]
    exact (List.mem_append.mp isKnown).imp_right (backed.2 name)

theorem BackedBy.forget {deed : Deed} {browser : Browser Profile}
    (backed : BackedBy before (knownAfter known deed) browser) : BackedBy before known browser :=
  ⟨backed.1, fun name isKnown => backed.2 name (List.mem_append_right _ isKnown)⟩

theorem backed_roster (before : List String) :
    Roster (@BackedBy Profile before) (mayList before) knownAfter where
  noting _ backed := backed.noting _
  forget := BackedBy.forget
  knows _ _ _ := .inr List.mem_cons_self
  marking id _ backed := (backed.noting _).forget
  relist after fewer backed := by
    refine ⟨⟨fun session isSession name member => ?_, nofun⟩, backed.2⟩
    obtain ⟨earlier, isEarlier, wasListed⟩ := fewer session isSession name member
    exact backed.1.listed earlier isEarlier name wasListed
  enlist after isKnown fewer backed := by
    refine ⟨⟨?_, nofun⟩, backed.2⟩
    rintro _ ⟨⟩ name member
    rcases fewer name member with rfl | wasListed
    · exact isKnown.imp_right (backed.2 name)
    · exact backed.1.listed _ rfl name wasListed

theorem trusts_verified (user : User Profile) :
    Trusted (mayList before) knownAfter known user.username := .inr List.mem_cons_self

theorem backs_of {Value : Type} {call : Action Profile Value}
    (keeps : Keeps (BackedBy before []) call) : Backs before none call :=
  fun browser backed => (keeps browser ⟨backed, nofun⟩).1

theorem backs_handle {settings : Settings} {services : Services Profile} (request : SignInRequest) :
    Backs before none (handle settings services request) :=
  backs_of fun _ backed => (backed_roster before).holds_handle
    ⟨fun user _ _ => trusts_verified user, fun user _ => trusts_verified user⟩ backed request
    fun user _ => trusts_verified user

end VerifiedSignIns

end ParakoId.SignIn
