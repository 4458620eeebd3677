import ParakoId.Accounts.DisplayNames
import ParakoId.Library.PartialUpdates
import ParakoId.Recovery.Repositories
import ParakoId.SecondFactors.Methods

/-!
A user with all the fields that an update may give, the partial updates of `updateById`, and the
user that such an update asks for.
-/

namespace ParakoId.UserRecords

open Accounts (EmailOtp)
open Accounts.DisplayNames (FieldUpdate NameUpdate)
open PartialUpdates
open Recovery (UserRecovery)
open SecondFactors (EmailMethod MfaMethod TotpMethod)

inductive Gender
  | M
  | F

inductive Theme
  | light
  | dark

inductive RegisterWith
  | email
  | phone_number
  | custom_identifier_1
  | custom_identifier_2
  | custom_identifier_3
  | github
  | google
  | facebook
  | microsoft
  | linkedin
  | okta
  | twitter
  | apple

inductive AuthProvider
  | «local»
  | oauth
  | ldap
  | github
  | google
  | facebook
  | microsoft
  | linkedin
  | okta
  | twitter
  | apple

/-- The fields of `IUser` that hold no object. -/
inductive Field
  | family_name
  | given_name
  | name
  | nickname
  | middle_name
  | gender
  | birthdate
  | phone_number
  | profile
  | website
  | picture
  | email
  | locale
  | country
  | zoneinfo
  | city
  | address
  | street_address
  | region
  | postal_code
  | roles
  | custom_identifier_1
  | custom_identifier_2
  | custom_identifier_3
  | phone_number_verified
  | email_verified
  | sub
  | theme
  | sidebar_expanded
  | last_login
  | username
  | password
  | password_hash_algo
  | password_updated_at
  | password_force_reset
  | reset_password_token
  | reset_password_expires
  | email_verification_token
  | email_verification_expires
  | phone_verification_token
  | phone_verification_code
  | phone_verification_expires
  | blocked_from
  | account_is_anonymized
  | register_with
  | auth_provider
  | account_enabled
  deriving DecidableEq

/-- Dates are milliseconds since 1970, before which only a date of birth can be. -/
abbrev Field.Value : Field → Type
  | .gender => Gender
  | .theme => Theme
  | .register_with => RegisterWith
  | .auth_provider => AuthProvider
  | .roles | .blocked_from => List String
  | .birthdate => Int
  | .last_login | .password_updated_at | .reset_password_expires | .email_verification_expires
  | .phone_verification_expires => Nat
  | .phone_number_verified | .email_verified | .sidebar_expanded | .password_force_reset
  | .account_is_anonymized | .account_enabled => Bool
  | _ => String

inductive AuthenticatorTransport
  | usb
  | ble
  | nfc
  | internal
  | hybrid

inductive CredentialDeviceType
  | singleDevice
  | multiDevice

structure WebAuthnCredential where
  credential_id : String
  credential_public_key : String
  counter : Int
  transports : Option (List AuthenticatorTransport)
  device_type : CredentialDeviceType
  backed_up : Bool
  created_at : Nat
  last_used_at : Option Nat
  friendly_name : String

structure WebAuthnMethod where
  enabled : Bool
  credentials : Option (List WebAuthnCredential)
  verified_at : Option Nat

structure Mfa where
  enabled : Bool
  totp : Option TotpMethod
  email : Option EmailMethod
  webauthn : Option WebAuthnMethod
  preferred_method : Option MfaMethod
  email_otp : Option EmailOtp

inductive PreferredChannel
  | email
  | sms
  | auto

structure NotificationPreferences where
  preferred_channel : PreferredChannel
  security_alerts : Bool
  new_session_alerts : Bool
  marketing : Bool

/-- A field that is null and one that is not there are the same. -/
@[ext]
structure IUser where
  field : (field : Field) → Option field.Value
  mfa : Option Mfa
  recovery : Option UserRecovery
  notification_preferences : Option NotificationPreferences

/-- Second factors as an update gives them: a method may be switched off by undefined or null. -/
structure MfaUpdate where
  enabled : Bool
  totp : Given TotpMethod
  email : Given EmailMethod
  webauthn : Given WebAuthnMethod
  preferred_method : Option MfaMethod
  email_otp : Given EmailOtp

/-- `UpdateUserDto`. -/
structure UserUpdate where
  field : (field : Field) → Entry field.Value
  mfa : Entry MfaUpdate
  recovery : Entry UserRecovery
  notification_preferences : Entry NotificationPreferences

def UserUpdate.empty : UserUpdate where
  field _ := none
  mfa := none
  recovery := none
  notification_preferences := none

def MfaUpdate.mfa (mfa : MfaUpdate) : Mfa where
  enabled := mfa.enabled
  totp := mfa.totp.get?
  email := mfa.email.get?
  webauthn := mfa.webauthn.get?
  preferred_method := mfa.preferred_method
  email_otp := mfa.email_otp.get?

def hasValidDates (recovery : UserRecovery) : Bool :=
  (recovery.backup_codes.all fun codes =>
      Recovery.isValidDate codes.generated_at && Recovery.isValidDate codes.expires_at) &&
    recovery.sms.all fun sms => sms.verification_expires.all Recovery.isValidDate

/-- Every field that is given has the value given, a field given as undefined or null has none,
and the others are as they were. -/
def IUser.updated (user : IUser) (data : UserUpdate) : IUser where
  field field := asked (data.field field) (user.field field)
  mfa := asked (data.mfa.map (Given.map MfaUpdate.mfa)) user.mfa
  recovery := asked data.recovery user.recovery
  notification_preferences := asked data.notification_preferences user.notification_preferences

@[simp] theorem updated_field (user : IUser) (data : UserUpdate) (field : Field) :
    (user.updated data).field field = asked (data.field field) (user.field field) := rfl

def nameEntry : Entry String → FieldUpdate
  | some .null => .null
  | some (.value content) => .text content
  | _ => .undefined

def UserUpdate.names (data : UserUpdate) : NameUpdate where
  given_name := nameEntry (data.field .given_name)
  family_name := nameEntry (data.field .family_name)
  custom_identifier_1 := nameEntry (data.field .custom_identifier_1)
  name := nameEntry (data.field .name)

theorem nameEntry_undefined {entry : Entry String} (skipped : nameEntry entry = .undefined) :
    entry = none ∨ entry = some .undefined := by
  match entry with
  | none => exact .inl rfl
  | some .undefined => exact .inr rfl
  | some .null => cases skipped
  | some (.value content) => cases skipped

theorem name_skipped {data : UserUpdate} (untouched : data.names.touchesName = false) :
    data.field .name = none ∨ data.field .name = some .undefined := by
  simp only [NameUpdate.touchesName, Bool.or_eq_false_iff, decide_eq_false_iff_not,
    not_not] at untouched
  exact nameEntry_undefined untouched.2

end ParakoId.UserRecords
