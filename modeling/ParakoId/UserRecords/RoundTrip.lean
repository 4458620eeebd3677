import ParakoId.UserRecords.Mongoose
import ParakoId.UserRecords.PrismaRoundTrip

/-!
One user in both stores, and one update of it: what is found afterwards, there and there.
-/

namespace ParakoId.UserRecords

open Accounts.DisplayNames (FieldUpdate MongooseUserRepository NameFields PrismaUserRepository)
open Mongoose (UserDocument UserSchema)
open PartialUpdates
open Prisma (NewIds UserFull)
open Recovery (RowIds)

structure StoredUser where
  full : UserFull
  user : IUser
  shown : Prisma.toIUser full = some user
  document : UserDocument

/-- In either store, the user found after an update is the one that the update asks for; and if the
stores have the same user before, they have the same one after. -/
structure RoundTripsAndAgrees (schema : UserSchema) (stored : StoredUser) (data : UserUpdate)
    (ids : NewIds stored.full data) : Prop where
  prisma :
    Prisma.afterUpdate ids.toRowIds stored.full data = some (stored.user.updated data)
  mongoose :
    Mongoose.afterUpdate schema stored.document data = some (stored.document.updated data)
  agree : stored.document = stored.user →
    Prisma.afterUpdate ids.toRowIds stored.full data =
      Mongoose.afterUpdate schema stored.document data

def annColumns : (field : Field) → Option field.Value
  | .username => some "ann"
  | .nickname => some "Annie"
  | .gender => some .F
  | .roles => some ["user"]
  | .blocked_from => some []
  | .register_with => some .email
  | .account_enabled => some true
  | .phone_number_verified => some false
  | .email_verified => some false
  | .sidebar_expanded => some false
  | .password_force_reset => some false
  | .account_is_anonymized => some false
  | _ => none

def annFull : UserFull where
  row := ⟨annColumns, by decide⟩
  mfa := some
    { enabled := true, preferred_method := some .totp, webauthn_enabled := false
      webauthn_verified_at := none }
  mfa_totp := some { enabled := true, secret := some "secret", verified_at := some 1 }
  mfa_email_otp := none
  webauthn_credentials := []
  recovery :=
    { recovery := some
        { enabled := true
          methods := [.backup_codes]
          secondary_email := none
          secondary_email_verified := false
          secondary_email_token := none
          secondary_email_token_exp := none
          sms_phone_number := none
          sms_verified := false
          sms_code := none
          sms_code_exp := none
          backup_codes_generated_at := some 1
          backup_codes_expires_at := some 9
          sq_setup_at := none
          sq_last_used_at := none
          sq_failed_attempts := 0
          sq_last_failed_at := none
          sq_locked_until := none }
      backup_codes := [{ code_hash := "hash", used := false }]
      security_questions := []
      questionsMade := 0 }
  notification_prefs := none

def annUser : IUser where
  field := Prisma.shownField annColumns
  mfa := Prisma.mfaData annFull
  recovery := Recovery.Prisma.toIUser annFull.recovery
  notification_preferences := none

def ann : StoredUser where
  full := annFull
  user := annUser
  shown := rfl
  document := annUser

def nicknameCleared : UserUpdate :=
  { UserUpdate.empty with
    field := fun
      | .nickname => some .undefined
      | _ => none }

def totpSwitchedOff : UserUpdate :=
  { UserUpdate.empty with
    mfa := some (.value
      { enabled := false, totp := .undefined, email := .undefined, webauthn := .undefined
        preferred_method := none, email_otp := .undefined }) }

def failureRecorded : UserUpdate :=
  { UserUpdate.empty with
    recovery := (annUser.recovery.map fun recovery => { recovery with
      lockout := some
        { locked := false, locked_until := none, failed_attempts := 1
          last_failed_at := some 5 } }).map .value }

def schema : UserSchema where
  unicode :=
    { toLowerCase := fun text => text.map Char.toLower
      isLetter := Char.isAlpha
      isNumber := Char.isDigit }
  persistableRoles := ["user"]
  enumAcceptsNull := false

def rowIds : RowIds where
  uuid number := String.ofList (List.replicate number 'x')
  distinct first second same := by
    simpa using congrArg String.length same

def newIds (data : UserUpdate) (noQuestions : ∀ recovery, data.recovery = some (.value recovery) →
    recovery.security_questions = none) : NewIds ann.full data where
  toRowIds := rowIds
  unused recovery questions given isGiven := by
    rw [noQuestions recovery given] at isGiven
    cases isGiven

end ParakoId.UserRecords
