import ParakoId.Library.Interleavings
import ParakoId.Accounts.Users

/-!
Credentials that are to let one request through: reset tokens, tokens of email addresses, phone
challenges and codes sent by email.
-/

namespace ParakoId.Accounts

open Interleavings (Machine Shared Event Invariant Keeps OnTurns)
open Runs (AlwaysFrom AllowedFrom)

/-- What one of the functions does for its arguments: what it asks of them and of the user that
it reads, what it waits for before and after the read, and what it writes with a fresh hash. -/
structure OneTimeFunction where
  acceptsArguments : Bool
  checksBreaches : Bool
  isStored : User → Bool
  accepts : User → Nat → Bool
  hashes : Bool
  write : Nat → User → User
  accepted_stored : ∀ {user now}, accepts user now = true → isStored user = true
  written_notStored : ∀ salt user, isStored (write salt user) = false

def resetPassword (primitives : Primitives) (token newPassword : String) : OneTimeFunction where
  acceptsArguments := token ≠ "" && newPassword ≠ "" && primitives.validatePassword newPassword
  checksBreaches := true
  isStored user := user.hasResetToken (primitives.hashToken token)
  accepts user now := user.acceptsResetToken (primitives.hashToken token) now
  hashes := true
  write salt user := user.withResetPassword (primitives.hashPassword newPassword salt)
  accepted_stored := hasResetToken_of_accepts
  written_notStored _ _ := rfl

def verifyEmail (primitives : Primitives) (token : String) : OneTimeFunction where
  acceptsArguments := token ≠ ""
  checksBreaches := false
  isStored user := user.hasEmailToken (primitives.hashToken token)
  accepts user now := user.acceptsEmailToken (primitives.hashToken token) now
  hashes := false
  write _ user := user.withVerifiedEmail
  accepted_stored := hasEmailToken_of_accepts
  written_notStored _ _ := rfl

def verifyPhone (primitives : Primitives) (verificationToken code : String) :
    OneTimeFunction where
  acceptsArguments := verificationToken ≠ "" && isPhoneCode code
  checksBreaches := false
  isStored user := user.hasPhoneToken (primitives.hashToken verificationToken)
  accepts user now :=
    user.acceptsPhoneCode (primitives.hashToken verificationToken) (primitives.hashToken code) now
  hashes := false
  write _ user := user.withVerifiedPhone
  accepted_stored := hasPhoneToken_of_accepts
  written_notStored _ _ := rfl

def verifyEmailOtp (primitives : Primitives) (code : String) : OneTimeFunction where
  acceptsArguments := Schemas.trim code ≠ ""
  checksBreaches := false
  isStored user := user.hasEmailOtp (primitives.hashToken (Schemas.trim code))
  accepts user now := user.acceptsEmailOtp (primitives.hashToken (Schemas.trim code)) now
  hashes := false
  write _ user := user.withoutEmailOtp
  accepted_stored := hasEmailOtp_of_accepts
  written_notStored _ _ := rfl

inductive Credential
  | resetToken (token : String)
  | emailToken (token : String)
  | phoneChallenge (verificationToken code : String)
  | emailOtp (code : String)

def Credential.function (primitives : Primitives) (credential : Credential)
    (newPassword : String) : OneTimeFunction :=
  match credential with
  | .resetToken token => resetPassword primitives token newPassword
  | .emailToken token => verifyEmail primitives token
  | .phoneChallenge verificationToken code => verifyPhone primitives verificationToken code
  | .emailOtp code => verifyEmailOtp primitives code

def Credential.isStored (primitives : Primitives) (credential : Credential) (user : User) : Bool :=
  (credential.function primitives "").isStored user

theorem isStored_function (primitives : Primitives) (credential : Credential)
    (newPassword : String) :
    (credential.function primitives newPassword).isStored = credential.isStored primitives := by
  cases credential <;> rfl

inductive OneTimeRequest
  | notStarted
  | checkBreaches (newPassword : String)
  | find (newPassword : String)
  | hash (newPassword : String)
  | write (newPassword : String) (salt : Nat)
  | succeeded
  | failed
  deriving DecidableEq

inductive OneTimeInput
  | start (newPassword : String)
  | resolve (salt : Nat)
  | reject

structure Account where
  user : User
  now : Nat
  successes : Nat

@[grind =]
def oneTimeTurn (primitives : Primitives) (credential : Credential) (account : Account) :
    OneTimeRequest → OneTimeInput → Account × OneTimeRequest
  | .notStarted, .start newPassword =>
    let function := credential.function primitives newPassword
    if function.acceptsArguments = false then (account, .failed)
    else if function.checksBreaches then (account, .checkBreaches newPassword)
    else (account, .find newPassword)
  | .checkBreaches newPassword, .resolve _ => (account, .find newPassword)
  | .find newPassword, .resolve salt =>
    let function := credential.function primitives newPassword
    if function.accepts account.user account.now = false then (account, .failed)
    else if function.hashes then (account, .hash newPassword)
    else (account, .write newPassword salt)
  | .hash newPassword, .resolve salt => (account, .write newPassword salt)
  | .write newPassword salt, .resolve _ =>
    ({ account with
      user := (credential.function primitives newPassword).write salt account.user
      successes := account.successes + 1 }, .succeeded)
  | .notStarted, _ => (account, .notStarted)
  | .succeeded, _ => (account, .succeeded)
  | .failed, _ => (account, .failed)
  | _, .reject => (account, .failed)
  | request, .start _ => (account, request)

def oneTimeMachine (primitives : Primitives) (credential : Credential) :
    Machine Account OneTimeRequest OneTimeInput Nat where
  turn := oneTimeTurn primitives credential
  outside account milliseconds := { account with now := account.now + milliseconds }

def presented (user : User) (now : Nat) : Shared Account OneTimeRequest where
  store := { user, now, successes := 0 }
  calls _ := .notStarted

def AtMostOneSuccess (account : Account) : Prop := account.successes ≤ 1

def ClearsStored (primitives : Primitives) (credential : Credential) (account : Account) :
    OneTimeRequest → OneTimeInput → Prop
  | .write _ _, .resolve _ => credential.isStored primitives account.user = true
  | _, _ => True

/-- A success has cleared the credential, and a request that has passed the check either may
still clear it or comes after the one that did. -/
def clearedBySuccess (primitives : Primitives) (credential : Credential) :
    Invariant Account OneTimeRequest where
  store account := 0 < account.successes → credential.isStored primitives account.user = false
  call account
    | .hash _ | .write _ _ =>
      credential.isStored primitives account.user = true ∨ 0 < account.successes
    | _ => True

section Turns

variable {primitives : Primitives} {credential : Credential} {account : Account}

theorem find_keeps (store : (clearedBySuccess primitives credential).store account)
    (newPassword : String) (salt : Nat) :
    (clearedBySuccess primitives credential).Turned account
      (oneTimeTurn primitives credential account (.find newPassword) (.resolve salt)) := by
  simp only [oneTimeTurn]
  split
  · exact .of_store store trivial
  · rename_i accepts
    rw [Bool.not_eq_false] at accepts
    have isStored := (credential.function primitives newPassword).accepted_stored accepts
    rw [isStored_function] at isStored
    split
    · exact .of_store store (.inl isStored)
    · exact .of_store store (.inl isStored)

theorem others_succeeded (user : User) (request : OneTimeRequest)
    (held : (clearedBySuccess primitives credential).call account request) :
    (clearedBySuccess primitives credential).call
      { account with user, successes := account.successes + 1 } request := by
  cases request with
  | hash _ | write _ _ => exact .inr (Nat.succ_pos _)
  | _ => trivial

theorem success_keeps (newPassword : String) (salt unused : Nat) :
    (clearedBySuccess primitives credential).Turned account
      (oneTimeTurn primitives credential account (.write newPassword salt) (.resolve unused)) := by
  have cleared :=
    (credential.function primitives newPassword).written_notStored salt account.user
  rw [isStored_function] at cleared
  exact ⟨fun _ => cleared, trivial, others_succeeded _⟩

end Turns

theorem oneTimeTurn_keeps (primitives : Primitives) (credential : Credential) :
    Keeps (oneTimeMachine primitives credential) (clearedBySuccess primitives credential)
      fun _ _ _ => True := by
  constructor
  · intro account request input store own _
    cases request with
    | notStarted =>
      cases input with
      | start newPassword =>
        simp only [oneTimeMachine, oneTimeTurn]
        split
        · exact .of_store store trivial
        · split
          · exact .of_store store trivial
          · exact .of_store store trivial
      | resolve _ | reject => exact .of_store store trivial
    | checkBreaches _ | succeeded | failed => cases input <;> exact .of_store store trivial
    | find newPassword =>
      cases input with
      | start _ | reject => exact .of_store store trivial
      | resolve salt => exact find_keeps store newPassword salt
    | hash newPassword =>
      cases input with
      | start other => exact .of_store store own
      | reject => exact .of_store store trivial
      | resolve salt => exact .of_store store own
    | write newPassword salt =>
      cases input with
      | start other => exact .of_store store own
      | reject => exact .of_store store trivial
      | resolve unused => exact success_keeps newPassword salt unused
  · intro account milliseconds store
    refine ⟨store, ?_⟩
    intro request held
    cases request <;> exact held

theorem atMostOne_turn_iff {primitives : Primitives} {credential : Credential} {account : Account}
    {request : OneTimeRequest} (input : OneTimeInput)
    (store : (clearedBySuccess primitives credential).store account)
    (own : (clearedBySuccess primitives credential).call account request)
    (atMostOne : AtMostOneSuccess account) :
    AtMostOneSuccess (oneTimeTurn primitives credential account request input).1 ↔
      ClearsStored primitives credential account request input := by
  cases request with
  | write newPassword salt =>
    cases input with
    | resolve unused =>
      have before : AtMostOneSuccess (oneTimeTurn primitives credential account
          (.write newPassword salt) (.resolve unused)).1 ↔ account.successes = 0 := by
        simp only [AtMostOneSuccess, oneTimeTurn]
        omega
      rw [before, ClearsStored]
      constructor
      · intro none
        rcases own with isStored | some
        · exact isStored
        · omega
      · intro isStored
        by_contra some
        rw [store (Nat.pos_of_ne_zero some)] at isStored
        cases isStored
    | _ => exact iff_of_true atMostOne trivial
  | notStarted =>
    refine iff_of_true ?_ trivial
    cases input with
    | start newPassword =>
      simp only [oneTimeTurn]
      split
      · exact atMostOne
      · split <;> exact atMostOne
    | _ => exact atMostOne
  | find newPassword =>
    refine iff_of_true ?_ trivial
    cases input with
    | resolve salt =>
      simp only [oneTimeTurn]
      split
      · exact atMostOne
      · split <;> exact atMostOne
    | _ => exact atMostOne
  | _ => cases input <;> exact iff_of_true atMostOne trivial

/-- Of all requests that present a credential at most one ever succeeds, in every run of any
number of them, exactly where each write that clears the credential finds it stored still. -/
theorem one_success_iff (primitives : Primitives) (credential : Credential) (user : User)
    (now : Nat) (events : List (Event OneTimeInput Nat)) :
    AlwaysFrom (oneTimeMachine primitives credential).step
        (fun state => AtMostOneSuccess state.store) (presented user now) events ↔
      AllowedFrom (oneTimeMachine primitives credential).step
        (OnTurns (ClearsStored primitives credential)) (presented user now) events := by
  have keeps := oneTimeTurn_keeps primitives credential
  refine Keeps.always_iff ⟨fun store call input held own _ => keeps.turn store call input held own
    trivial, keeps.outside⟩ ?_ ?_ ?_ ?_
  · intro account request input store own atMostOne
    exact atMostOne_turn_iff input store own atMostOne
  · exact fun _ _ atMostOne => atMostOne
  · exact ⟨fun some => absurd some (Nat.lt_irrefl 0), fun _ => trivial⟩
  · exact Nat.zero_le 1

def plainPrimitives : Primitives where
  hashToken text := "sha256:" ++ text
  hashPassword password _ := "argon2:" ++ password
  validatePassword password := 8 ≤ password.length

def resettingUser : User :=
  { User.signedUp "argon2:first password" none with
    reset_password_token := some "sha256:token", reset_password_expires := some 3600000 }

def sharedToken : List (Event OneTimeInput Nat) :=
  [.turn 0 (.start "second password"), .turn 1 (.start "third password"),
    .turn 0 (.resolve 0), .turn 1 (.resolve 0), .turn 0 (.resolve 0), .turn 1 (.resolve 0),
    .turn 0 (.resolve 0), .turn 1 (.resolve 0), .turn 0 (.resolve 0), .turn 1 (.resolve 0)]

theorem reset_token_used_twice :
    let final := Runs.run (oneTimeMachine plainPrimitives (.resetToken "token")).step
      (presented resettingUser 0) sharedToken
    final.calls 0 = .succeeded ∧ final.calls 1 = .succeeded ∧
      ¬AtMostOneSuccess final.store := by
  unfold AtMostOneSuccess
  decide +kernel

end ParakoId.Accounts
