import ParakoId.Library.Schemas

/-!
What the account services keep of one user: password, one-time credentials, and the contacts
with the flags that say that they were verified.
-/

namespace ParakoId.Accounts

inductive Field (Value : Type)
  | absent
  | null
  | value (content : Value)
  deriving DecidableEq

def Field.get? {Value : Type} : Field Value → Option Value
  | .value content => some content
  | _ => none

/-- What `?? null` makes of it. -/
def Field.orNull {Value : Type} : Field Value → Field Value
  | .absent => .null
  | field => field

structure PhoneChallenge where
  phone_verification_token : Field String
  phone_verification_code : Field String
  phone_verification_expires : Field Nat
  deriving DecidableEq

structure EmailOtp where
  hash : String
  expires : Option Nat
  deriving DecidableEq

structure User where
  password : Option String
  password_force_reset : Bool
  reset_password_token : Option String
  reset_password_expires : Option Nat
  email_verified : Bool
  email_verification_token : Option String
  email_verification_expires : Option Nat
  given_name : Option String
  family_name : Option String
  name : Option String
  phone_number : Option String
  phone_number_verified : Bool
  challenge : PhoneChallenge
  email_otp : Option EmailOtp

def truthy (text : Option String) : Option String := text.filter fun content => content ≠ ""

/-- What the services rely on besides: SHA-256 in hexadecimal digits, the hash that a new
password gets with a salt, and the password policy. -/
structure Primitives where
  hashToken : String → String
  hashPassword : String → Nat → String
  validatePassword : String → Bool

def hexDigit? (letter : Char) : Option Nat :=
  if '0' ≤ letter ∧ letter ≤ '9' then some (letter.toNat - '0'.toNat)
  else if 'a' ≤ letter ∧ letter ≤ 'f' then some (letter.toNat - 'a'.toNat + 10)
  else if 'A' ≤ letter ∧ letter ≤ 'F' then some (letter.toNat - 'A'.toNat + 10)
  else none

def hexBytes : List Char → List Nat
  | high :: low :: rest =>
    match hexDigit? high, hexDigit? low with
    | some upper, some lower => (16 * upper + lower) :: hexBytes rest
    | _, _ => []
  | _ => []

def tokenHashesMatch (actual expected : String) : Bool :=
  hexBytes actual.toList == hexBytes expected.toList

def PhoneChallenge.cleared : PhoneChallenge where
  phone_verification_token := .null
  phone_verification_code := .null
  phone_verification_expires := .null

def User.withResetPassword (user : User) (hashedNewPassword : String) : User :=
  { user with
    password := some hashedNewPassword
    password_force_reset := false
    reset_password_token := none
    reset_password_expires := none }

def User.withChangedPassword (user : User) (hashedNewPassword : String) : User :=
  { user with password := some hashedNewPassword, password_force_reset := false }

def User.withUpgradedHash (user : User) (newHash : String) : User :=
  { user with password := some newHash }

def User.withVerifiedEmail (user : User) : User :=
  { user with
    email_verified := true
    email_verification_token := none
    email_verification_expires := none }

def User.withChallenge (user : User) (challenge : PhoneChallenge) : User := { user with challenge }

def User.withVerifiedPhone (user : User) : User :=
  { user with phone_number_verified := true, challenge := .cleared }

def User.withoutEmailOtp (user : User) : User := { user with email_otp := none }

def User.hasResetToken (user : User) (hashedToken : String) : Bool :=
  user.reset_password_token == some hashedToken

def User.acceptsResetToken (user : User) (hashedToken : String) (now : Nat) : Bool :=
  user.hasResetToken hashedToken && user.reset_password_expires.any fun expires => now < expires

def User.hasEmailToken (user : User) (hashedToken : String) : Bool :=
  user.email_verification_token == some hashedToken

def User.acceptsEmailToken (user : User) (hashedToken : String) (now : Nat) : Bool :=
  user.hasEmailToken hashedToken &&
    user.email_verification_expires.any fun expires => now < expires

def User.hasPhoneToken (user : User) (hashedToken : String) : Bool :=
  user.challenge.phone_verification_token == .value hashedToken

def User.acceptsPhoneCode (user : User) (hashedToken hashedCode : String) (now : Nat) : Bool :=
  user.hasPhoneToken hashedToken &&
    ((truthy user.challenge.phone_verification_code.get?).any fun expectedCode =>
      tokenHashesMatch hashedCode expectedCode) &&
    user.challenge.phone_verification_expires.get?.any fun expiresAt => now < expiresAt

def User.hasEmailOtp (user : User) (providedHash : String) : Bool :=
  user.email_otp.any fun stored => stored.hash == providedHash

def EmailOtp.accepts (stored : EmailOtp) (providedHash : String) (now : Nat) : Bool :=
  stored.hash ≠ "" && stored.expires.any (fun expires => now ≤ expires) &&
    stored.hash == providedHash

def User.acceptsEmailOtp (user : User) (providedHash : String) (now : Nat) : Bool :=
  user.email_otp.any fun stored => stored.accepts providedHash now

def isPhoneCode (code : String) : Bool :=
  code.toList.length == 6 && code.toList.all fun letter => '0' ≤ letter && letter ≤ '9'

def User.signedUp (hashedPassword : String) (phoneNumber : Option String) : User where
  password := some hashedPassword
  password_force_reset := false
  reset_password_token := none
  reset_password_expires := none
  email_verified := false
  email_verification_token := none
  email_verification_expires := none
  given_name := none
  family_name := none
  name := none
  phone_number := phoneNumber
  phone_number_verified := false
  challenge := ⟨.absent, .absent, .absent⟩
  email_otp := none

theorem hasResetToken_of_accepts {user : User} {hashedToken : String} {now : Nat}
    (accepts : user.acceptsResetToken hashedToken now = true) :
    user.hasResetToken hashedToken = true := by
  rw [User.acceptsResetToken, Bool.and_eq_true] at accepts
  exact accepts.1

theorem hasEmailToken_of_accepts {user : User} {hashedToken : String} {now : Nat}
    (accepts : user.acceptsEmailToken hashedToken now = true) :
    user.hasEmailToken hashedToken = true := by
  rw [User.acceptsEmailToken, Bool.and_eq_true] at accepts
  exact accepts.1

theorem hasPhoneToken_of_accepts {user : User} {hashedToken hashedCode : String} {now : Nat}
    (accepts : user.acceptsPhoneCode hashedToken hashedCode now = true) :
    user.hasPhoneToken hashedToken = true := by
  rw [User.acceptsPhoneCode, Bool.and_eq_true, Bool.and_eq_true] at accepts
  exact accepts.1.1

theorem hasEmailOtp_of_accepts {user : User} {providedHash : String} {now : Nat}
    (accepts : user.acceptsEmailOtp providedHash now = true) :
    user.hasEmailOtp providedHash = true := by
  rw [User.acceptsEmailOtp, Option.any_eq_true] at accepts
  obtain ⟨stored, isStored, accepted⟩ := accepts
  rw [EmailOtp.accepts, Bool.and_eq_true] at accepted
  rw [User.hasEmailOtp, Option.any_eq_true]
  exact ⟨stored, isStored, accepted.2⟩

end ParakoId.Accounts
