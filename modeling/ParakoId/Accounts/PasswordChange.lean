import ParakoId.Accounts.Passwords

/-!
The change of a password on the account page, and what a password function that runs to its end
without another beside it leaves.
-/

namespace ParakoId.Accounts

namespace PasswordFunction

variable (services : PasswordServices)

def finish (function : PasswordFunction) (user : User) (salt : Nat) : User :=
  match function.newPassword with
  | none => user
  | some newPassword =>
    match services.hash newPassword salt with
    | none => user
    | some hashedNewPassword => function.write hashedNewPassword user

def perform (function : PasswordFunction) (user : User) (now rehashSalt salt : Nat) : User :=
  if function.acceptsArguments services = false then user
  else match function.afterLoad services user now with
    | .fail => user
    | .verify password hashedPassword =>
      let result := services.verifyPasswordWithRehash password hashedPassword rehashSalt
      if result.valid = false then user
      else function.finish services (result.newHash.elim user user.withUpgradedHash) salt
    | .hash => function.finish services user salt

def passes (function : PasswordFunction) (user : User) (now : Nat) : Bool :=
  function.acceptsArguments services && match function.afterLoad services user now with
    | .fail => false
    | .verify password hashedPassword => services.verify hashedPassword password
    | .hash => true

end PasswordFunction

/-! `AccountPasswordChangeService.change`. -/

structure PasswordForm where
  currentPassword : Option String
  newPassword : Option String
  confirmPassword : Option String

def hasPassword (user : User) : Bool := user.password.any fun stored => Schemas.trim stored ≠ ""

def canSetInitialPassword (user : User) (linkedProviders : Nat) : Bool :=
  !hasPassword user && 0 < linkedProviders

def PasswordForm.call (form : PasswordForm) (user : User) (linkedProviders : Nat) :
    Option PasswordFunction :=
  match truthy form.newPassword, truthy form.confirmPassword with
  | some newPassword, some confirmPassword =>
    if canSetInitialPassword user linkedProviders then
      if newPassword = confirmPassword then
        some (.userServiceChangePassword none newPassword)
      else none
    else match truthy form.currentPassword with
      | none => none
      | some currentPassword =>
        if newPassword = confirmPassword then
          some (.userServiceChangePassword (some currentPassword) newPassword)
        else none
  | _, _ => none

theorem call_sets {form : PasswordForm} {user : User} {linkedProviders : Nat}
    {function : PasswordFunction} (isCall : form.call user linkedProviders = some function) :
    ∃ newPassword, function.newPassword = some newPassword := by
  rw [PasswordForm.call] at isCall
  split at isCall
  · rename_i newPassword _ _ _
    refine ⟨newPassword, ?_⟩
    split at isCall
    · split at isCall
      · injection isCall with isCall
        subst isCall
        rfl
      · cases isCall
    · split at isCall
      · cases isCall
      · split at isCall
        · injection isCall with isCall
          subst isCall
          rfl
        · cases isCall
  · cases isCall

section Performed

variable {services : PasswordServices}

def IsPassword (services : PasswordServices) (user : User) (password : String) : Prop :=
  ∀ other, services.accepts user other = true ↔ other = password

def SamePassword (services : PasswordServices) (before after : User) : Prop :=
  ∀ password, services.accepts after password = services.accepts before password

theorem write_password (function : PasswordFunction) (hashedNewPassword : String) (user : User) :
    (function.write hashedNewPassword user).password = some hashedNewPassword := by
  cases function <;> rfl

variable {function : PasswordFunction} {newPassword : String}

theorem finish_isPassword (isNew : function.newPassword = some newPassword)
    (nonempty : newPassword ≠ "") (user : User) (salt : Nat) :
    IsPassword services (function.finish services user salt) newPassword := by
  intro other
  simp only [PasswordFunction.finish, isNew, PasswordServices.hash, if_neg nonempty]
  rw [PasswordServices.accepts, write_password, Option.any_some]
  exact services.verify_hashPassword newPassword salt other

theorem newPassword_nonempty (accepts : function.acceptsArguments services = true)
    (isNew : function.newPassword = some newPassword) : newPassword ≠ "" := by
  cases function <;> simp_all [PasswordFunction.acceptsArguments, PasswordFunction.newPassword]

theorem verified_nonempty {user : User} {now : Nat} {password hashedPassword : String}
    (accepts : function.acceptsArguments services = true)
    (verifies : function.afterLoad services user now = .verify password hashedPassword) :
    password ≠ "" := by
  cases function with
  | validatePassword providedPassword =>
    simp only [PasswordFunction.afterLoad] at verifies
    split at verifies
    · cases verifies
    · injection verifies with same _
      rw [← same]
      simpa [PasswordFunction.acceptsArguments] using accepts
  | resetPassword token newPassword =>
    simp only [PasswordFunction.afterLoad] at verifies
    split at verifies <;> cases verifies
  | authServiceChangePassword currentPassword newPassword =>
    injection verifies with same _
    rw [← same]
    simp only [PasswordFunction.acceptsArguments, Bool.and_eq_true, decide_eq_true_eq] at accepts
    exact accepts.1.1
  | userServiceChangePassword currentPassword newPassword =>
    simp only [PasswordFunction.afterLoad] at verifies
    split at verifies
    · rename_i given isGiven
      injection verifies with same _
      rw [truthy, Option.filter_eq_some_iff] at isGiven
      rw [← same]
      exact of_decide_eq_true isGiven.2
    · split at verifies <;> cases verifies

theorem valid_iff (salt : Nat) {password hashedPassword : String} (nonempty : password ≠ "") :
    (services.verifyPasswordWithRehash password hashedPassword salt).valid = true ↔
      services.verify hashedPassword password = true := by
  rw [PasswordServices.verifyPasswordWithRehash, PasswordServices.hash, if_neg nonempty]
  cases services.verify hashedPassword password with
  | false => simp
  | true => cases services.needsRehash hashedPassword <;> simp

theorem perform_stays {user : User} {now : Nat}
    (fails : function.passes services user now = false) (rehashSalt salt : Nat) :
    function.perform services user now rehashSalt salt = user := by
  rw [PasswordFunction.perform]
  split
  · rfl
  · rename_i accepts
    rw [Bool.not_eq_false] at accepts
    rw [PasswordFunction.passes, accepts, Bool.true_and] at fails
    cases isLoaded : function.afterLoad services user now with
    | fail => rfl
    | hash =>
      rw [isLoaded] at fails
      cases fails
    | verify password hashedPassword =>
      rw [isLoaded] at fails
      have invalid : (services.verifyPasswordWithRehash password hashedPassword
          rehashSalt).valid = false := by
        rw [← Bool.not_eq_true, valid_iff _ (verified_nonempty accepts isLoaded),
          Bool.not_eq_true]
        exact fails
      simp only [invalid, ↓reduceIte]

theorem perform_isPassword {user : User} {now : Nat}
    (passes : function.passes services user now = true)
    (isNew : function.newPassword = some newPassword) (rehashSalt salt : Nat) :
    IsPassword services (function.perform services user now rehashSalt salt) newPassword := by
  rw [PasswordFunction.passes, Bool.and_eq_true] at passes
  obtain ⟨accepts, loaded⟩ := passes
  have nonempty := newPassword_nonempty accepts isNew
  rw [PasswordFunction.perform, if_neg (by rw [accepts]; exact Bool.noConfusion)]
  cases isLoaded : function.afterLoad services user now with
  | fail =>
    rw [isLoaded] at loaded
    cases loaded
  | hash => exact finish_isPassword isNew nonempty user salt
  | verify password hashedPassword =>
    rw [isLoaded] at loaded
    have valid := (valid_iff rehashSalt (verified_nonempty accepts isLoaded)).mpr loaded
    simp only [valid, Bool.true_eq_false, ↓reduceIte]
    exact finish_isPassword isNew nonempty _ salt

theorem samePassword_iff {before after : User} {password : String}
    (isPassword : IsPassword services after password) :
    SamePassword services before after ↔ IsPassword services before password := by
  constructor
  · intro same other
    rw [← same other]
    exact isPassword other
  · intro wasPassword other
    rw [Bool.eq_iff_iff, isPassword other, wasPassword other]

theorem perform_same_iff (isNew : function.newPassword = some newPassword) (user : User)
    (now rehashSalt salt : Nat) :
    SamePassword services user (function.perform services user now rehashSalt salt) ↔
      (function.passes services user now = true → IsPassword services user newPassword) := by
  cases passes : function.passes services user now with
  | false =>
    rw [perform_stays passes]
    exact iff_of_true (fun _ => rfl) fun impossible => by cases impossible
  | true =>
    rw [samePassword_iff (perform_isPassword passes isNew rehashSalt salt)]
    exact ⟨fun same _ => same, fun same => same rfl⟩

end Performed

end ParakoId.Accounts
