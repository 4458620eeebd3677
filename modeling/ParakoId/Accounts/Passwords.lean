import ParakoId.Library.Interleavings
import ParakoId.Accounts.Users

/-! Logins, password changes and resets of one account. -/

namespace ParakoId.Accounts

open Interleavings (Machine Shared Event Invariant Keeps OnTurns)
open Runs (AlwaysFrom AllowedFrom)

/-- With Argon2. A hash verifies the password that it was made from; what is no hash verifies
none. -/
structure PasswordServices extends Primitives where
  verify : String → String → Bool
  needsRehash : String → Bool
  verify_hashPassword : ∀ password salt other,
    verify (hashPassword password salt) other = true ↔ other = password
  verify_empty : ∀ password, verify "" password = false

namespace PasswordServices

variable (services : PasswordServices)

def hash (password : String) (salt : Nat) : Option String :=
  if password = "" then none else some (services.hashPassword password salt)

structure Verification where
  valid : Bool
  newHash : Option String

def verifyPasswordWithRehash (password hashedPassword : String) (salt : Nat) : Verification :=
  if services.verify hashedPassword password = false then { valid := false, newHash := none }
  else if services.needsRehash hashedPassword = false then { valid := true, newHash := none }
  else match services.hash password salt with
    | some newHash => { valid := true, newHash := some newHash }
    | none => { valid := false, newHash := none }

def accepts (user : User) (password : String) : Bool :=
  user.password.any fun hashed => services.verify hashed password

end PasswordServices

inductive PasswordFunction
  | validatePassword (providedPassword : String)
  | resetPassword (token newPassword : String)
  | authServiceChangePassword (currentPassword newPassword : String)
  | userServiceChangePassword (currentPassword : Option String) (newPassword : String)
  deriving DecidableEq

inductive Loaded
  | fail
  | verify (password hashedPassword : String)
  | hash

namespace PasswordFunction

variable (services : PasswordServices)

def acceptsArguments : PasswordFunction → Bool
  | .validatePassword providedPassword => providedPassword ≠ ""
  | .resetPassword token newPassword =>
    token ≠ "" && newPassword ≠ "" && services.validatePassword newPassword
  | .authServiceChangePassword currentPassword newPassword =>
    currentPassword ≠ "" && newPassword ≠ "" && services.validatePassword newPassword
  | .userServiceChangePassword _ newPassword =>
    newPassword ≠ "" && services.validatePassword newPassword

def checksBreaches : PasswordFunction → Bool
  | .resetPassword _ _ => true
  | .authServiceChangePassword _ _ => true
  | _ => false

def afterLoad (user : User) (now : Nat) : PasswordFunction → Loaded
  | .validatePassword providedPassword =>
    match truthy user.password with
    | none => .fail
    | some storedPassword => .verify providedPassword storedPassword
  | .resetPassword token _ =>
    if user.acceptsResetToken (services.hashToken token) now then .hash else .fail
  | .authServiceChangePassword currentPassword _ =>
    .verify currentPassword (user.password.getD "")
  | .userServiceChangePassword currentPassword _ =>
    match truthy currentPassword with
    | some currentPassword => .verify currentPassword (user.password.getD "")
    | none =>
      if user.password.any fun stored => Schemas.trim stored ≠ "" then .fail else .hash

def newPassword : PasswordFunction → Option String
  | .validatePassword _ => none
  | .resetPassword _ newPassword => some newPassword
  | .authServiceChangePassword _ newPassword => some newPassword
  | .userServiceChangePassword _ newPassword => some newPassword

def write (hashedNewPassword : String) (user : User) : PasswordFunction → User
  | .resetPassword _ _ => user.withResetPassword hashedNewPassword
  | _ => user.withChangedPassword hashedNewPassword

end PasswordFunction

structure LoadedHash where
  hashedPassword : String
  changesBefore : Nat
  deriving DecidableEq

inductive PasswordRequest
  | notStarted
  | checkBreaches (function : PasswordFunction)
  | load (function : PasswordFunction)
  | verify (function : PasswordFunction) (password : String) (loaded : LoadedHash)
  | upgrade (function : PasswordFunction) (password newHash : String) (loaded : LoadedHash)
  | hash (newPassword : String) (function : PasswordFunction)
  | write (newPassword hashedNewPassword : String) (function : PasswordFunction)
  | succeeded
  | failed
  deriving DecidableEq

inductive PasswordInput
  | start (function : PasswordFunction)
  | resolve (salt : Nat)
  | reject

/-- The account and what has been stored as its password: every hash so far, and those from
before the latest change or reset, which was to `chosen`. -/
structure PasswordAccount where
  user : User
  now : Nat
  changes : Nat
  chosen : Option String
  history : List String
  replaced : List String

def PasswordAccount.upgraded (account : PasswordAccount) (newHash : String) : PasswordAccount :=
  { account with
    user := account.user.withUpgradedHash newHash
    history := newHash :: account.history }

def PasswordAccount.changed (account : PasswordAccount) (function : PasswordFunction)
    (newPassword hashedNewPassword : String) : PasswordAccount :=
  { account with
    user := function.write hashedNewPassword account.user
    changes := account.changes + 1
    chosen := some newPassword
    history := hashedNewPassword :: account.history
    replaced := account.history }

def PasswordFunction.proceed (function : PasswordFunction) : PasswordRequest :=
  match function.newPassword with
  | none => .succeeded
  | some newPassword => .hash newPassword function

@[grind =]
def passwordTurn (services : PasswordServices) (account : PasswordAccount) :
    PasswordRequest → PasswordInput → PasswordAccount × PasswordRequest
  | .notStarted, .start function =>
    if function.acceptsArguments services = false then (account, .failed)
    else if function.checksBreaches then (account, .checkBreaches function)
    else (account, .load function)
  | .checkBreaches function, .resolve _ => (account, .load function)
  | .load function, .resolve _ =>
    match function.afterLoad services account.user account.now with
    | .fail => (account, .failed)
    | .verify password hashedPassword =>
      (account, .verify function password ⟨hashedPassword, account.changes⟩)
    | .hash => (account, function.proceed)
  | .verify function password loaded, .resolve salt =>
    let result := services.verifyPasswordWithRehash password loaded.hashedPassword salt
    if result.valid = false then (account, .failed)
    else match result.newHash with
      | some newHash => (account, .upgrade function password newHash loaded)
      | none => (account, function.proceed)
  | .upgrade function _ newHash _, .resolve _ => (account.upgraded newHash, function.proceed)
  -- a failed upgrade is logged only
  | .upgrade function _ _ _, .reject => (account, function.proceed)
  | .hash newPassword function, .resolve salt =>
    match services.hash newPassword salt with
    | some hashedNewPassword => (account, .write newPassword hashedNewPassword function)
    | none => (account, .failed)
  | .write newPassword hashedNewPassword function, .resolve _ =>
    (account.changed function newPassword hashedNewPassword, .succeeded)
  | .notStarted, _ => (account, .notStarted)
  | .succeeded, _ => (account, .succeeded)
  | .failed, _ => (account, .failed)
  | _, .reject => (account, .failed)
  | request, .start _ => (account, request)

def passwordMachine (services : PasswordServices) :
    Machine PasswordAccount PasswordRequest PasswordInput Nat where
  turn := passwordTurn services
  outside account milliseconds := { account with now := account.now + milliseconds }

def storedAccount (user : User) (now : Nat) : Shared PasswordAccount PasswordRequest where
  store :=
    { user, now, changes := 0, chosen := none, history := user.password.toList, replaced := [] }
  calls _ := .notStarted

def AcceptsNoReplaced (services : PasswordServices) (account : PasswordAccount)
    (hashed : String) : Prop :=
  ∀ chosen, account.chosen = some chosen → ∀ password ≠ chosen,
    (∃ earlier ∈ account.replaced, services.verify earlier password = true) →
      services.verify hashed password = false

def NoneComesBack (services : PasswordServices) (account : PasswordAccount) : Prop :=
  ∀ hashed, account.user.password = some hashed → AcceptsNoReplaced services account hashed

def UpgradesCurrent (account : PasswordAccount) : PasswordRequest → PasswordInput → Prop
  | .upgrade _ password _ loaded, .resolve _ =>
    loaded.changesBefore = account.changes ∨ account.chosen = some password
  | _, _ => True

structure WasStored (services : PasswordServices) (account : PasswordAccount)
    (loaded : LoadedHash) (password : String) : Prop where
  earlier : loaded.changesBefore ≤ account.changes
  history : loaded.hashedPassword ∈ account.history
  replaced : loaded.changesBefore < account.changes → loaded.hashedPassword ∈ account.replaced
  current : loaded.changesBefore = account.changes →
    AcceptsNoReplaced services account loaded.hashedPassword

def loadedHashes (services : PasswordServices) : Invariant PasswordAccount PasswordRequest where
  store account := NoneComesBack services account ∧
    (∀ hashed, account.user.password = some hashed → hashed ∈ account.history) ∧
    (account.chosen = none → account.replaced = [])
  call account
    | .verify _ password loaded =>
      services.verify loaded.hashedPassword password = true →
        WasStored services account loaded password
    | .upgrade _ password newHash loaded =>
      services.verify loaded.hashedPassword password = true ∧
        WasStored services account loaded password ∧
        ∃ salt, newHash = services.hashPassword password salt
    | .write newPassword hashedNewPassword _ =>
      ∃ salt, hashedNewPassword = services.hashPassword newPassword salt
    | _ => True

section Turns

variable {services : PasswordServices} {account : PasswordAccount}

variable {password : String} {loaded : LoadedHash}

theorem hash_some {hashed : String} {salt : Nat}
    (isHashed : services.hash password salt = some hashed) :
    hashed = services.hashPassword password salt := by
  rw [PasswordServices.hash] at isHashed
  split at isHashed
  · cases isHashed
  · exact (Option.some.inj isHashed).symm

theorem verifyPasswordWithRehash_valid {hashedPassword : String} {salt : Nat}
    (valid : (services.verifyPasswordWithRehash password hashedPassword salt).valid = true) :
    services.verify hashedPassword password = true ∧
      ∀ newHash, (services.verifyPasswordWithRehash password hashedPassword salt).newHash =
        some newHash → newHash = services.hashPassword password salt := by
  rw [PasswordServices.verifyPasswordWithRehash] at valid ⊢
  split at valid
  · cases valid
  · rename_i verifies
    refine ⟨by simpa using verifies, ?_⟩
    rw [if_neg verifies]
    split
    · rintro newHash ⟨⟩
    · cases isHashed : services.hash password salt with
      | none => rintro newHash ⟨⟩
      | some hashed =>
        rintro newHash ⟨⟩
        exact hash_some isHashed

theorem afterLoad_verify {function : PasswordFunction} {user : User} {now : Nat}
    {hashedPassword : String}
    (verifies : function.afterLoad services user now = .verify password hashedPassword) :
    hashedPassword = user.password.getD "" := by
  cases function with
  | validatePassword providedPassword =>
    simp only [PasswordFunction.afterLoad] at verifies
    split at verifies
    · cases verifies
    · rename_i storedPassword isStored
      injection verifies with _ isHashed
      rw [truthy, Option.filter_eq_some_iff] at isStored
      rw [isStored.1, ← isHashed]
      rfl
  | resetPassword token newPassword =>
    simp only [PasswordFunction.afterLoad] at verifies
    split at verifies <;> cases verifies
  | authServiceChangePassword currentPassword newPassword =>
    injection verifies with _ isHashed
    exact isHashed.symm
  | userServiceChangePassword currentPassword newPassword =>
    simp only [PasswordFunction.afterLoad] at verifies
    split at verifies
    · injection verifies with _ isHashed
      exact isHashed.symm
    · split at verifies <;> cases verifies

theorem loadedHashes_proceed (account : PasswordAccount) (function : PasswordFunction) :
    (loadedHashes services).call account function.proceed := by
  rw [PasswordFunction.proceed]
  cases function.newPassword <;> trivial

theorem wasStored_loaded (store : (loadedHashes services).store account)
    (verifies : services.verify (account.user.password.getD "") password = true) :
    WasStored services account ⟨account.user.password.getD "", account.changes⟩ password := by
  cases isStored : account.user.password with
  | none =>
    rw [isStored, Option.getD_none, services.verify_empty] at verifies
    cases verifies
  | some hashed =>
    exact ⟨Nat.le_refl _, store.2.1 hashed isStored, fun later => absurd later (Nat.lt_irrefl _),
      fun _ => store.1 hashed isStored⟩

theorem wasStored_upgraded (wasStored : WasStored services account loaded password)
    (newHash : String) : WasStored services (account.upgraded newHash) loaded password :=
  ⟨wasStored.earlier, List.mem_cons_of_mem newHash wasStored.history, wasStored.replaced,
    wasStored.current⟩

theorem wasStored_changed (wasStored : WasStored services account loaded password)
    (function : PasswordFunction) (newPassword hashedNewPassword : String) :
    WasStored services (account.changed function newPassword hashedNewPassword) loaded
      password := by
  have before := wasStored.earlier
  constructor
  · exact Nat.le_succ_of_le before
  · exact List.mem_cons_of_mem hashedNewPassword wasStored.history
  · intro _
    exact wasStored.history
  · intro same
    have later : loaded.changesBefore = account.changes + 1 := same
    omega

theorem others_upgraded (newHash : String) (request : PasswordRequest)
    (held : (loadedHashes services).call account request) :
    (loadedHashes services).call (account.upgraded newHash) request := by
  cases request with
  | verify function password loaded =>
    intro verifies
    exact wasStored_upgraded (held verifies) newHash
  | upgrade function password other loaded =>
    exact ⟨held.1, wasStored_upgraded held.2.1 newHash, held.2.2⟩
  | write newPassword hashedNewPassword function => exact held
  | _ => trivial

theorem others_changed (function : PasswordFunction) (newPassword hashedNewPassword : String)
    (request : PasswordRequest) (held : (loadedHashes services).call account request) :
    (loadedHashes services).call (account.changed function newPassword hashedNewPassword)
      request := by
  cases request with
  | verify other password loaded =>
    intro verifies
    exact wasStored_changed (held verifies) function newPassword hashedNewPassword
  | upgrade other password newHash loaded =>
    exact ⟨held.1, wasStored_changed held.2.1 function newPassword hashedNewPassword, held.2.2⟩
  | write other hashedOther otherFunction => exact held
  | _ => trivial

theorem changed_password (function : PasswordFunction) (newPassword hashedNewPassword : String) :
    (account.changed function newPassword hashedNewPassword).user.password =
      some hashedNewPassword := by
  cases function <;> rfl

theorem noneComesBack_changed (function : PasswordFunction) (newPassword : String) (salt : Nat) :
    NoneComesBack services
      (account.changed function newPassword (services.hashPassword newPassword salt)) := by
  intro hashed isStored
  rw [changed_password, Option.some.injEq] at isStored
  subst isStored
  intro chosen isChosen password different _
  have same : newPassword = chosen := Option.some.inj isChosen
  rw [Bool.eq_false_iff]
  intro verifies
  apply different
  rw [← same]
  exact (services.verify_hashPassword newPassword salt password).mp verifies

theorem noneComesBack_upgraded_iff (salt : Nat)
    (verifies : services.verify loaded.hashedPassword password = true)
    (wasStored : WasStored services account loaded password)
    (unchanged : account.chosen = none → account.replaced = []) :
    NoneComesBack services (account.upgraded (services.hashPassword password salt)) ↔
      loaded.changesBefore = account.changes ∨ account.chosen = some password := by
  have accepted := services.verify_hashPassword password salt
  constructor
  · intro noneComesBack
    by_contra neither
    rw [not_or] at neither
    have later : loaded.changesBefore < account.changes := by
      have before := wasStored.earlier
      omega
    have isReplaced := wasStored.replaced later
    cases isChosen : account.chosen with
    | none =>
      rw [unchanged isChosen] at isReplaced
      cases isReplaced
    | some chosen =>
      have different : password ≠ chosen := by
        rintro rfl
        exact neither.2 isChosen
      have refused := noneComesBack (services.hashPassword password salt) rfl chosen isChosen
        password different ⟨loaded.hashedPassword, isReplaced, verifies⟩
      rw [(accepted password).mpr rfl] at refused
      cases refused
  · intro current hashed isStored
    injection isStored with isStored
    subst isStored
    intro chosen isChosen other different wasReplaced
    rw [Bool.eq_false_iff, ne_eq, accepted]
    rintro rfl
    rcases current with same | same
    · have refused := wasStored.current same chosen isChosen other different wasReplaced
      rw [verifies] at refused
      cases refused
    · apply different
      have isSame : account.chosen = some chosen := isChosen
      rw [same, Option.some.injEq] at isSame
      exact isSame

section

variable (store : (loadedHashes services).store account)
include store

theorem load_keeps (function : PasswordFunction) (salt : Nat) :
    (loadedHashes services).Turned account
      (passwordTurn services account (.load function) (.resolve salt)) := by
  simp only [passwordTurn]
  split
  · exact .of_store store trivial
  · rename_i password hashedPassword isVerify
    refine .of_store store ?_
    have isLoaded := afterLoad_verify isVerify
    subst isLoaded
    exact wasStored_loaded store
  · exact .of_store store (loadedHashes_proceed account function)

theorem verify_keeps (function : PasswordFunction)
    (own : (loadedHashes services).call account (.verify function password loaded)) (salt : Nat) :
    (loadedHashes services).Turned account
      (passwordTurn services account (.verify function password loaded) (.resolve salt)) := by
  simp only [passwordTurn]
  split
  · exact .of_store store trivial
  · rename_i valid
    obtain ⟨verifies, isNew⟩ := verifyPasswordWithRehash_valid (by simpa using valid)
    split
    · rename_i newHash isUpgrade
      exact .of_store store ⟨verifies, own verifies, salt, isNew newHash isUpgrade⟩
    · exact .of_store store (loadedHashes_proceed account function)

theorem upgrade_keeps (function : PasswordFunction) {newHash : String}
    (own : (loadedHashes services).call account (.upgrade function password newHash loaded))
    (current : loaded.changesBefore = account.changes ∨ account.chosen = some password) :
    (loadedHashes services).Turned account (account.upgraded newHash, function.proceed) := by
  obtain ⟨verifies, wasStored, salt, rfl⟩ := own
  have none := (noneComesBack_upgraded_iff salt verifies wasStored store.2.2).mpr current
  refine ⟨⟨none, ?_, store.2.2⟩, loadedHashes_proceed _ function,
    others_upgraded (services.hashPassword password salt)⟩
  rintro hashed ⟨⟩
  exact List.mem_cons_self

end

theorem write_keeps (function : PasswordFunction) {newPassword hashedNewPassword : String}
    (own : (loadedHashes services).call account
      (.write newPassword hashedNewPassword function)) :
    (loadedHashes services).Turned account
      (account.changed function newPassword hashedNewPassword, .succeeded) := by
  obtain ⟨salt, rfl⟩ := own
  refine ⟨⟨noneComesBack_changed function newPassword salt, ?_, ?_⟩, trivial,
    others_changed function newPassword (services.hashPassword newPassword salt)⟩
  · intro hashed isStored
    have same := (changed_password function newPassword _).symm.trans isStored
    rw [← Option.some.inj same]
    exact List.mem_cons_self
  · intro impossible
    cases impossible

theorem others_later {milliseconds : Nat} (request : PasswordRequest)
    (held : (loadedHashes services).call account request) :
    (loadedHashes services).call { account with now := account.now + milliseconds }
      request := by
  cases request with
  | verify function password loaded =>
    intro verifies
    have wasStored := held verifies
    exact ⟨wasStored.earlier, wasStored.history, wasStored.replaced, wasStored.current⟩
  | upgrade function password newHash loaded =>
    obtain ⟨verifies, wasStored, isHash⟩ := held
    exact ⟨verifies, ⟨wasStored.earlier, wasStored.history, wasStored.replaced,
      wasStored.current⟩, isHash⟩
  | _ => exact held

theorem passwordTurn_keeps (services : PasswordServices) :
    Keeps (passwordMachine services) (loadedHashes services) UpgradesCurrent := by
  constructor
  · intro account request input store own current
    cases request with
    | notStarted =>
      cases input with
      | start function =>
        simp only [passwordMachine, passwordTurn]
        split
        · exact .of_store store trivial
        · split
          · exact .of_store store trivial
          · exact .of_store store trivial
      | _ => exact .of_store store trivial
    | checkBreaches _ | succeeded | failed => cases input <;> exact .of_store store trivial
    | load function =>
      cases input with
      | resolve salt => exact load_keeps store function salt
      | _ => exact .of_store store trivial
    | verify function password loaded =>
      cases input with
      | start other => exact .of_store store own
      | reject => exact .of_store store trivial
      | resolve salt => exact verify_keeps store function own salt
    | upgrade function password newHash loaded =>
      cases input with
      | start other => exact .of_store store own
      | reject => exact .of_store store (loadedHashes_proceed account function)
      | resolve unused => exact upgrade_keeps store function own current
    | hash newPassword function =>
      cases input with
      | resolve salt =>
        simp only [passwordMachine, passwordTurn]
        split
        · rename_i hashedNewPassword isHashed
          exact .of_store store ⟨salt, hash_some isHashed⟩
        · exact .of_store store trivial
      | _ => exact .of_store store trivial
    | write newPassword hashedNewPassword function =>
      cases input with
      | start other => exact .of_store store own
      | reject => exact .of_store store trivial
      | resolve unused => exact write_keeps function own
  · intro account milliseconds store
    exact ⟨store, others_later⟩

inductive PasswordTurn (account : PasswordAccount) :
    PasswordRequest → PasswordInput → PasswordAccount → Prop
  | waits {request input} (current : UpgradesCurrent account request input) :
      PasswordTurn account request input account
  | upgrades (function password newHash loaded unused) :
      PasswordTurn account (.upgrade function password newHash loaded) (.resolve unused)
        (account.upgraded newHash)
  | changes (newPassword hashedNewPassword function unused) :
      PasswordTurn account (.write newPassword hashedNewPassword function) (.resolve unused)
        (account.changed function newPassword hashedNewPassword)

theorem passwordTurn_cases (services : PasswordServices) (account : PasswordAccount)
    (request : PasswordRequest) (input : PasswordInput) :
    PasswordTurn account request input (passwordTurn services account request input).1 := by
  cases request with
  | notStarted =>
    cases input with
    | start function =>
      simp only [passwordTurn]
      split
      · exact .waits trivial
      · split <;> exact .waits trivial
    | _ => exact .waits trivial
  | load _ | hash _ _ =>
    cases input with
    | resolve salt =>
      simp only [passwordTurn]
      split <;> exact .waits trivial
    | _ => exact .waits trivial
  | verify function password loaded =>
    cases input with
    | resolve salt =>
      simp only [passwordTurn]
      split
      · exact .waits trivial
      · split <;> exact .waits trivial
    | _ => exact .waits trivial
  | upgrade function password newHash loaded =>
    cases input with
    | resolve unused => exact .upgrades function password newHash loaded unused
    | _ => exact .waits trivial
  | write newPassword hashedNewPassword function =>
    cases input with
    | resolve unused => exact .changes newPassword hashedNewPassword function unused
    | _ => exact .waits trivial
  | _ => cases input <;> exact .waits trivial

end Turns

/-- In every run of logins, changes and resets no password that was replaced is accepted again,
exactly where each upgrade of a hash is stored before the next change completes, or that change
was to the same password. -/
theorem none_comes_back_iff (services : PasswordServices) (user : User) (now : Nat)
    (events : List (Event PasswordInput Nat)) :
    AlwaysFrom (passwordMachine services).step
        (fun state => NoneComesBack services state.store) (storedAccount user now) events ↔
      AllowedFrom (passwordMachine services).step (OnTurns UpgradesCurrent)
        (storedAccount user now) events := by
  have nothingReplaced : NoneComesBack services (storedAccount user now).store := by
    rintro hashed _ chosen ⟨⟩
  refine (passwordTurn_keeps services).always_iff ?_ ?_ ?_ nothingReplaced
  · intro account request input store own noneComesBack
    have turn := passwordTurn_cases services account request input
    rw [passwordMachine]
    generalize (passwordTurn services account request input).1 = after at turn ⊢
    cases turn with
    | waits current => exact iff_of_true noneComesBack current
    | upgrades function password newHash loaded unused =>
      obtain ⟨verifies, wasStored, salt, rfl⟩ := own
      exact noneComesBack_upgraded_iff salt verifies wasStored store.2.2
    | changes newPassword hashedNewPassword function unused =>
      obtain ⟨salt, rfl⟩ := own
      exact iff_of_true (noneComesBack_changed function newPassword salt) trivial
  · exact fun _ _ held => held
  · refine ⟨⟨nothingReplaced, ?_, fun _ => rfl⟩, fun _ => trivial⟩
    intro hashed isStored
    have isPassword : user.password = some hashed := isStored
    simp [storedAccount, isPassword]

/-- A hash is the password behind `argon2:`, or behind `argon2-old:` where it is outdated. -/
def plainServices : PasswordServices where
  hashToken text := "sha256:" ++ text
  hashPassword password _ := "argon2:" ++ password
  validatePassword password := 8 ≤ password.length
  verify hashed password := hashed == "argon2:" ++ password || hashed == "argon2-old:" ++ password
  needsRehash hashed := "argon2-old:".isPrefixOf hashed
  verify_hashPassword password _ other := by
    rw [Bool.or_eq_true, beq_iff_eq, beq_iff_eq, String.ext_iff, String.ext_iff]
    simp [String.ext_iff, eq_comm]
  verify_empty password := by
    rw [Bool.or_eq_false_iff, beq_eq_false_iff_ne, beq_eq_false_iff_ne]
    constructor
    · intro same
      simpa using congrArg String.toList same
    · intro same
      simpa using congrArg String.toList same

def outdatedUser : User := .signedUp "argon2-old:first password" none

def lateUpgrade : List (Event PasswordInput Nat) :=
  [.turn 0 (.start (.validatePassword "first password")), .turn 0 (.resolve 0),
    .turn 0 (.resolve 0),
    .turn 1 (.start (.authServiceChangePassword "first password" "second password")),
    .turn 1 (.resolve 0), .turn 1 (.resolve 0), .turn 1 (.resolve 0), .turn 1 (.resolve 0),
    .turn 1 (.resolve 0), .turn 1 (.resolve 0), .turn 0 (.resolve 0)]

theorem upgrade_brings_back :
    let final := Runs.run (passwordMachine plainServices).step (storedAccount outdatedUser 0)
      lateUpgrade
    final.calls 0 = .succeeded ∧ final.calls 1 = .succeeded ∧
      final.store.chosen = some "second password" ∧
      plainServices.accepts final.store.user "first password" = true ∧
      ¬NoneComesBack plainServices final.store := by
  intro final
  have accepted : plainServices.accepts final.store.user "first password" = true := by
    decide +kernel
  refine ⟨by decide +kernel, by decide +kernel, by decide +kernel, accepted, ?_⟩
  intro noneComesBack
  have stored : final.store.user.password = some "argon2:first password" := by decide +kernel
  have refused := noneComesBack _ stored "second password" (by decide +kernel) "first password"
    (by decide) ⟨"argon2-old:first password", by decide +kernel, by decide +kernel⟩
  have verifies : plainServices.verify "argon2:first password" "first password" = true := by
    decide +kernel
  rw [verifies] at refused
  cases refused

end ParakoId.Accounts
