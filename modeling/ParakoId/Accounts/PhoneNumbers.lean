import ParakoId.Library.Runs
import ParakoId.Accounts.Users

/-!
The phone number of a user, the flag that says it was verified, and the challenge that a code was
sent for.
-/

namespace ParakoId.Accounts

open Runs (AlwaysFrom AllowedFrom)

inductive FormValue
  | undefined
  | text (content : String)
  | other
  deriving DecidableEq

structure ProfileForm where
  firstname : FormValue
  lastname : FormValue
  phone : FormValue

structure ProfileUpdateData where
  given_name : Option String
  family_name : Option String
  name : Option String
  phone_number : Option String

def FormValue.text? : FormValue → Option String
  | .text content => some content
  | _ => none

def trimmedText (value : Option String) : Option String := truthy (value.map Schemas.trim)

def fullName : Option String → Option String → Option String
  | some firstname, some lastname => some (firstname ++ " " ++ lastname)
  | firstname, lastname => firstname.or lastname

def buildProfileData (form : ProfileForm) : Option ProfileUpdateData :=
  if form.firstname = .other ∨ form.lastname = .other ∨ form.phone = .other then none
  else
    let trimmedFirstname := trimmedText form.firstname.text?
    let trimmedLastname := trimmedText form.lastname.text?
    some
      { given_name := trimmedFirstname
        family_name := trimmedLastname
        name := fullName trimmedFirstname trimmedLastname
        phone_number := form.phone.text?.map Schemas.trim }

def isPhoneNumber (phoneNumber : String) : Bool :=
  let rest := match phoneNumber.toList with
    | '+' :: rest => rest
    | letters => letters
  rest ≠ [] && rest.all fun letter =>
    ('0' ≤ letter && letter ≤ '9') || Text.isWhiteSpace letter || ['-', '(', ')'].contains letter

/-- The fields that `updateProfile` writes; a text that is blank is not written. -/
def validatedData (profileData : ProfileUpdateData) : Except String ProfileUpdateData :=
  let phoneNumber := trimmedText profileData.phone_number
  if phoneNumber.any fun number => !isPhoneNumber number then .error "Invalid phone number format"
  else .ok
    { given_name := trimmedText profileData.given_name
      family_name := trimmedText profileData.family_name
      name := trimmedText profileData.name
      phone_number := phoneNumber }

/-- The display name; the texts are trimmed already, and a profile has no other identifier. -/
def computeUserName (givenName familyName storedName : Option String) : Option String :=
  (fullName givenName familyName).or storedName

def updateProfile (user : User) (profileData : ProfileUpdateData) : Except String User :=
  (validatedData profileData).map fun validated =>
    { user with
      given_name := validated.given_name.or user.given_name
      family_name := validated.family_name.or user.family_name
      name :=
        (computeUserName validated.given_name validated.family_name validated.name).or user.name
      phone_number := validated.phone_number.or user.phone_number }

def PHONE_VERIFICATION_EXPIRY_MINUTES : Nat := 15

structure Draw where
  now : Nat
  verificationToken : String
  code : String

def newChallenge (primitives : Primitives) (draw : Draw) : PhoneChallenge where
  phone_verification_token := .value (primitives.hashToken draw.verificationToken)
  phone_verification_code := .value (primitives.hashToken draw.code)
  phone_verification_expires := .value (draw.now + PHONE_VERIFICATION_EXPIRY_MINUTES * 60 * 1000)

def challengedNumber (user : User) : Except String String :=
  if user.phone_number_verified then .error "Phone is already verified"
  else match truthy user.phone_number with
    | none => .error "User has no phone number to verify"
    | some phoneNumber => .ok phoneNumber

def generatePhoneVerificationChallenge (primitives : Primitives) (user : User) (draw : Draw) :
    Except String (User × String) :=
  (challengedNumber user).map fun phoneNumber =>
    (user.withChallenge (newChallenge primitives draw), phoneNumber)

def User.isRenewable (user : User) (hashedToken : String) : Bool :=
  user.hasPhoneToken hashedToken && !user.phone_number_verified

/-- `previousChallenge`: what is absent is written back as null. -/
def PhoneChallenge.previous (challenge : PhoneChallenge) : PhoneChallenge where
  phone_verification_token := challenge.phone_verification_token.orNull
  phone_verification_code := challenge.phone_verification_code.orNull
  phone_verification_expires := challenge.phone_verification_expires.orNull

/-- How a delivery ends: a failed one is rolled back, by a write that may fail as well. -/
inductive Delivery
  | delivered
  | rolledBack
  | notRolledBack

structure PhoneRecord where
  user : User
  sentTo : Option String
  confirmed : Option String

inductive PhoneEvent
  | submitProfile (form : ProfileForm)
  | updateProfile (profileData : ProfileUpdateData)
  | generate (draw : Draw)
  | renew (verificationToken : String) (draw : Draw) (delivery : Delivery)
  | verify (verificationToken code : String) (now : Nat)

def PhoneRecord.updated (record : PhoneRecord) (profileData : ProfileUpdateData) : PhoneRecord :=
  match updateProfile record.user profileData with
  | .error _ => record
  | .ok user => { record with user }

def PhoneRecord.challenged (primitives : Primitives) (record : PhoneRecord) (draw : Draw) :
    PhoneRecord :=
  match generatePhoneVerificationChallenge primitives record.user draw with
  | .error _ => record
  | .ok (user, phoneNumber) => { record with user, sentTo := some phoneNumber }

def PhoneRecord.renewed (primitives : Primitives) (record : PhoneRecord)
    (verificationToken : String) (draw : Draw) (delivery : Delivery) : PhoneRecord :=
  if verificationToken = "" ∨
      record.user.isRenewable (primitives.hashToken verificationToken) = false then record
  else match generatePhoneVerificationChallenge primitives record.user draw with
    | .error _ => record
    | .ok (user, phoneNumber) =>
      match delivery with
      | .rolledBack =>
        { record with user := user.withChallenge record.user.challenge.previous }
      | _ => { record with user, sentTo := some phoneNumber }

/-- Whether `verifyPhone` confirms the code. -/
def User.confirms (primitives : Primitives) (user : User) (verificationToken code : String)
    (now : Nat) : Bool :=
  verificationToken ≠ "" && isPhoneCode code &&
    user.acceptsPhoneCode (primitives.hashToken verificationToken) (primitives.hashToken code) now

def PhoneRecord.verified (primitives : Primitives) (record : PhoneRecord)
    (verificationToken code : String) (now : Nat) : PhoneRecord :=
  if record.user.confirms primitives verificationToken code now then
    { record with user := record.user.withVerifiedPhone, confirmed := record.sentTo }
  else record

def phoneRecordStep (primitives : Primitives) (record : PhoneRecord) : PhoneEvent → PhoneRecord
  | .submitProfile form =>
    match buildProfileData form with
    | none => record
    | some profileData => record.updated profileData
  | .updateProfile profileData => record.updated profileData
  | .generate draw => record.challenged primitives draw
  | .renew verificationToken draw delivery =>
    record.renewed primitives verificationToken draw delivery
  | .verify verificationToken code now => record.verified primitives verificationToken code now

def VerifiedIsConfirmed (record : PhoneRecord) : Prop :=
  record.user.phone_number_verified = true →
    ∃ phoneNumber, record.user.phone_number = some phoneNumber ∧
      record.confirmed = some phoneNumber

def numberAfter (user : User) (profileData : ProfileUpdateData) : Option String :=
  match updateProfile user profileData with
  | .error _ => user.phone_number
  | .ok updated => updated.phone_number

def KeepsVerified (user : User) (profileData : ProfileUpdateData) : Prop :=
  user.phone_number_verified = true → numberAfter user profileData = user.phone_number

def ConfirmsCurrent (primitives : Primitives) (record : PhoneRecord) : PhoneEvent → Prop
  | .submitProfile form => ∀ profileData, buildProfileData form = some profileData →
      KeepsVerified record.user profileData
  | .updateProfile profileData => KeepsVerified record.user profileData
  | .verify verificationToken code now =>
    record.user.confirms primitives verificationToken code now = true →
      record.user.phone_number.isSome = true ∧ record.sentTo = record.user.phone_number
  | _ => True

section Steps

variable {primitives : Primitives} {record : PhoneRecord}

theorem updated_confirmed_iff (profileData : ProfileUpdateData)
    (isConfirmed : VerifiedIsConfirmed record) :
    VerifiedIsConfirmed (record.updated profileData) ↔
      KeepsVerified record.user profileData := by
  simp only [PhoneRecord.updated, KeepsVerified, numberAfter]
  cases isUpdated : updateProfile record.user profileData with
  | error message => exact iff_of_true isConfirmed fun _ => rfl
  | ok user =>
    have flag : user.phone_number_verified = record.user.phone_number_verified := by
      rw [updateProfile] at isUpdated
      cases validated : validatedData profileData with
      | error message =>
        rw [validated] at isUpdated
        cases isUpdated
      | ok data =>
        rw [validated] at isUpdated
        injection isUpdated with isUser
        rw [← isUser]
    simp only [VerifiedIsConfirmed, flag]
    constructor
    · intro after isVerified
      obtain ⟨phoneNumber, isNumber, confirmed⟩ := after isVerified
      obtain ⟨before, isBefore, same⟩ := isConfirmed isVerified
      rw [isNumber, isBefore, ← confirmed, same]
    · intro keeps isVerified
      rw [keeps isVerified]
      exact isConfirmed isVerified

theorem generated_fields {user challenged : User} {draw : Draw} {phoneNumber : String}
    (generated : generatePhoneVerificationChallenge primitives user draw =
      .ok (challenged, phoneNumber)) :
    challenged.phone_number_verified = user.phone_number_verified ∧
      challenged.phone_number = user.phone_number := by
  rw [generatePhoneVerificationChallenge] at generated
  cases isNumber : challengedNumber user with
  | error message =>
    rw [isNumber] at generated
    cases generated
  | ok number =>
    rw [isNumber] at generated
    injection generated with same
    rw [← (Prod.mk.inj same).1]
    exact ⟨rfl, rfl⟩

theorem challenged_confirmed (draw : Draw) (isConfirmed : VerifiedIsConfirmed record) :
    VerifiedIsConfirmed (record.challenged primitives draw) := by
  rw [PhoneRecord.challenged]
  split
  · exact isConfirmed
  · rename_i user phoneNumber generated
    obtain ⟨flag, number⟩ := generated_fields generated
    simpa only [VerifiedIsConfirmed, flag, number] using isConfirmed

theorem renewed_confirmed (verificationToken : String) (draw : Draw) (delivery : Delivery)
    (isConfirmed : VerifiedIsConfirmed record) :
    VerifiedIsConfirmed (record.renewed primitives verificationToken draw delivery) := by
  rw [PhoneRecord.renewed]
  split
  · exact isConfirmed
  · split
    · exact isConfirmed
    · rename_i user phoneNumber generated
      obtain ⟨flag, number⟩ := generated_fields generated
      cases delivery with
      | _ => simpa only [VerifiedIsConfirmed, User.withChallenge, flag, number] using isConfirmed

theorem verified_confirmed_iff (verificationToken code : String) (now : Nat)
    (isConfirmed : VerifiedIsConfirmed record) :
    VerifiedIsConfirmed (record.verified primitives verificationToken code now) ↔
      (record.user.confirms primitives verificationToken code now = true →
        record.user.phone_number.isSome = true ∧ record.sentTo = record.user.phone_number) := by
  rw [PhoneRecord.verified]
  by_cases confirms : record.user.confirms primitives verificationToken code now = true
  · rw [if_pos confirms]
    simp only [VerifiedIsConfirmed, User.withVerifiedPhone, confirms, true_implies]
    constructor
    · rintro ⟨phoneNumber, isNumber, isSent⟩
      rw [isNumber, isSent]
      exact ⟨rfl, rfl⟩
    · rintro ⟨some, isSent⟩
      obtain ⟨phoneNumber, isNumber⟩ := Option.isSome_iff_exists.mp some
      exact ⟨phoneNumber, isNumber, isSent.trans isNumber⟩
  · rw [if_neg confirms]
    exact iff_of_true isConfirmed fun impossible => absurd impossible confirms

theorem phoneRecordStep_iff (event : PhoneEvent) (isConfirmed : VerifiedIsConfirmed record) :
    VerifiedIsConfirmed (phoneRecordStep primitives record event) ↔
      ConfirmsCurrent primitives record event := by
  cases event with
  | submitProfile form =>
    simp only [phoneRecordStep, ConfirmsCurrent]
    cases buildProfileData form with
    | none => exact iff_of_true isConfirmed (by simp)
    | some profileData =>
      simp only [Option.some.injEq, forall_eq']
      exact updated_confirmed_iff profileData isConfirmed
  | updateProfile profileData => exact updated_confirmed_iff profileData isConfirmed
  | generate draw => exact iff_of_true (challenged_confirmed draw isConfirmed) trivial
  | renew verificationToken draw delivery =>
    exact iff_of_true (renewed_confirmed verificationToken draw delivery isConfirmed) trivial
  | verify verificationToken code now =>
    exact verified_confirmed_iff verificationToken code now isConfirmed

end Steps

/-- Over every run, a verified number is the one that was confirmed exactly where this holds to
begin with, no profile update changes a verified number, and no code is confirmed for a number
other than the one it was sent to. -/
theorem verified_number_iff (primitives : Primitives) (record : PhoneRecord)
    (events : List PhoneEvent) :
    AlwaysFrom (phoneRecordStep primitives) VerifiedIsConfirmed record events ↔
      VerifiedIsConfirmed record ∧
        AllowedFrom (phoneRecordStep primitives) (ConfirmsCurrent primitives) record events :=
  Runs.always_iff_start (phoneRecordStep primitives)
    (fun _ event isConfirmed => phoneRecordStep_iff event isConfirmed) record events

def contactPrimitives : Primitives where
  hashToken text := text
  hashPassword password _ := password
  validatePassword password := 8 ≤ password.length

def numberChanged : List PhoneEvent :=
  [.generate ⟨0, "token", "123456"⟩, .verify "token" "123456" 1000,
    .submitProfile ⟨.undefined, .undefined, .text "+15550002"⟩]

theorem changed_number_stays_verified :
    let final := Runs.run (phoneRecordStep contactPrimitives)
      ⟨.signedUp "hash" (some "+15550001"), none, none⟩ numberChanged
    final.user.phone_number = some "+15550002" ∧ final.user.phone_number_verified = true ∧
      final.confirmed = some "+15550001" ∧ ¬VerifiedIsConfirmed final := by
  intro final
  have number : final.user.phone_number = some "+15550002" := by decide +kernel
  have flag : final.user.phone_number_verified = true := by decide +kernel
  have confirmed : final.confirmed = some "+15550001" := by decide +kernel
  refine ⟨number, flag, confirmed, ?_⟩
  intro isConfirmed
  obtain ⟨phoneNumber, isNumber, isSame⟩ := isConfirmed flag
  rw [number] at isNumber
  rw [confirmed, ← isNumber] at isSame
  exact absurd isSame (by decide)

end ParakoId.Accounts
