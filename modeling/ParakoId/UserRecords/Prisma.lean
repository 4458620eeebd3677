import ParakoId.UserRecords.Record

/-!
`PrismaUserRepository`: a user in the columns of one table and in the rows of seven others.
-/

namespace ParakoId.UserRecords.Prisma

open Accounts (EmailOtp truthy)
open Accounts.DisplayNames (NameUpdate computeUserName)
open PartialUpdates
open Recovery (RowIds SecurityQuestions UserRecovery)
open SecondFactors (EmailMethod MfaMethod TotpMethod UserMfaEmailOtpRow)

def requiredColumns : List Field :=
  [.phone_number_verified, .email_verified, .sidebar_expanded, .password_force_reset,
    .account_is_anonymized, .register_with, .account_enabled]

/-- A column of JSON text has no value where the text is not a list of texts. -/
structure UserRow where
  column : (field : Field) → Option field.Value
  required : ∀ field ∈ requiredColumns, (column field).isSome

structure UserMfaRow where
  enabled : Bool
  preferred_method : Option MfaMethod
  webauthn_enabled : Bool
  webauthn_verified_at : Option Nat

structure UserWebauthnCredentialRow where
  credential_id : String
  public_key : String
  counter : Int
  device_type : Option CredentialDeviceType
  backed_up : Bool
  transports : List AuthenticatorTransport
  friendly_name : String
  last_used_at : Option Nat
  created_at : Nat

structure UserFull where
  row : UserRow
  mfa : Option UserMfaRow
  mfa_totp : Option TotpMethod
  mfa_email_otp : Option UserMfaEmailOtpRow
  webauthn_credentials : List UserWebauthnCredentialRow
  recovery : Recovery.UserRows
  notification_prefs : Option NotificationPreferences

/-- What stands for a column that is null. -/
def fallback : (field : Field) → Option field.Value
  | .username => some ""
  | .gender => some .M
  | _ => none

def shownField (column : (field : Field) → Option field.Value) :
    (field : Field) → Option field.Value
  | .name =>
    computeUserName (column .given_name) (column .family_name) (column .custom_identifier_1)
      (column .name)
  | field => (column field).or (fallback field)

def toCredential (row : UserWebauthnCredentialRow) : WebAuthnCredential where
  credential_id := row.credential_id
  credential_public_key := row.public_key
  counter := row.counter
  transports := some row.transports
  device_type := row.device_type.getD .singleDevice
  backed_up := row.backed_up
  created_at := row.created_at
  last_used_at := row.last_used_at
  friendly_name := row.friendly_name

def emailMethod (row : UserMfaEmailOtpRow) : EmailMethod :=
  { enabled := row.enabled, verified_at := row.verified_at }

def pendingOtp (row : UserMfaEmailOtpRow) : Option EmailOtp :=
  (truthy row.otp_hash).map fun hash => { hash, expires := row.expires_at }

def webauthnMethod (mfa : Option UserMfaRow) (credentials : List UserWebauthnCredentialRow) :
    Option WebAuthnMethod :=
  if mfa.any UserMfaRow.webauthn_enabled || credentials.length > 0 then
    some
      { enabled := (mfa.map UserMfaRow.webauthn_enabled).getD (credentials.length > 0)
        verified_at := mfa.bind UserMfaRow.webauthn_verified_at
        credentials := some (credentials.map toCredential) }
  else none

def hasMfaData (full : UserFull) : Bool :=
  full.mfa.isSome || full.mfa_totp.isSome || full.mfa_email_otp.isSome ||
    full.webauthn_credentials.length > 0

def mfaData (full : UserFull) : Option Mfa :=
  if hasMfaData full then
    some
      { enabled := (full.mfa.map UserMfaRow.enabled).getD false
        preferred_method := full.mfa.bind UserMfaRow.preferred_method
        totp := full.mfa_totp
        email := full.mfa_email_otp.map emailMethod
        webauthn := webauthnMethod full.mfa full.webauthn_credentials
        email_otp := full.mfa_email_otp.bind pendingOtp }
  else none

/-- It throws where the text of a list does not decode. -/
def toIUser (full : UserFull) : Option IUser :=
  if (full.row.column .roles).isSome && (full.row.column .blocked_from).isSome then
    some
      { field := shownField full.row.column
        mfa := mfaData full
        recovery := Recovery.Prisma.toIUser full.recovery
        notification_preferences := full.notification_prefs }
  else none

def columns (row : UserRow) (data : UserUpdate) : (field : Field) → Option field.Value
  | .name => if data.names.touchesName then data.names.computed else row.column .name
  | field => skipping (data.field field) (row.column field)

def mfaRow (mfa : MfaUpdate) : UserMfaRow where
  enabled := mfa.enabled
  preferred_method := mfa.preferred_method
  webauthn_enabled := (mfa.webauthn.get?.map WebAuthnMethod.enabled).getD false
  webauthn_verified_at := mfa.webauthn.get?.bind WebAuthnMethod.verified_at

def totpRow (mfa : MfaUpdate) (stored : Option TotpMethod) : Option TotpMethod :=
  match mfa.totp with
  | .value totp => some totp
  | _ => stored

def emailRow (mfa : MfaUpdate) (stored : Option UserMfaEmailOtpRow) : Option UserMfaEmailOtpRow :=
  if mfa.email = .undefined ∧ mfa.email_otp = .undefined then stored
  else
    some
      { enabled := (mfa.email.get?.map EmailMethod.enabled).getD false
        verified_at := mfa.email.get?.bind EmailMethod.verified_at
        otp_hash := mfa.email_otp.get?.map EmailOtp.hash
        expires_at := mfa.email_otp.get?.bind EmailOtp.expires }

def credentialRow (credential : WebAuthnCredential) : UserWebauthnCredentialRow where
  credential_id := credential.credential_id
  public_key := credential.credential_public_key
  counter := credential.counter
  device_type := some credential.device_type
  backed_up := credential.backed_up
  transports := credential.transports.getD []
  friendly_name :=
    if credential.friendly_name = "" then credential.credential_id else credential.friendly_name
  last_used_at := credential.last_used_at
  created_at := credential.created_at

def givenCredentials (webauthn : WebAuthnMethod) : List WebAuthnCredential :=
  webauthn.credentials.getD []

def credentialRows (mfa : MfaUpdate) (stored : List UserWebauthnCredentialRow) :
    List UserWebauthnCredentialRow :=
  match mfa.webauthn with
  | .value webauthn => (givenCredentials webauthn).map credentialRow
  | _ => stored

def isInt32 (number : Int) : Bool := decide (-2 ^ 31 ≤ number ∧ number < 2 ^ 31)

def acceptsFields (data : UserUpdate) : Bool :=
  requiredColumns.all fun field => !(data.field field).any Given.isNull

def acceptsCredentials (credentials : List WebAuthnCredential) : Bool :=
  decide (credentials.map WebAuthnCredential.credential_id).Nodup &&
    credentials.all fun credential => isInt32 credential.counter

def acceptsMfa : Entry MfaUpdate → Bool
  | some .null => false
  | some (.value mfa) =>
    !mfa.totp.isNull && !mfa.webauthn.isNull &&
      mfa.webauthn.get?.all fun webauthn => acceptsCredentials (givenCredentials webauthn)
  | _ => true

def acceptsRecovery : Entry UserRecovery → Bool
  | some .null => false
  | some (.value recovery) =>
    hasValidDates recovery && (recovery.security_questions.bind
      SecurityQuestions.failed_attempts).all fun attempts => isInt32 attempts
  | _ => true

def acceptsPreferences (preferences : Entry NotificationPreferences) : Bool :=
  !preferences.any Given.isNull

theorem columns_required {row : UserRow} {data : UserUpdate} (accepted : acceptsFields data = true)
    (field : Field) (isRequired : field ∈ requiredColumns) : (columns row data field).isSome := by
  have notNull := List.all_eq_true.mp accepted field isRequired
  have present := row.required field isRequired
  have written : columns row data field = skipping (data.field field) (row.column field) := by
    cases field <;> first | rfl | simp [requiredColumns] at isRequired
  rw [written]
  match given : data.field field with
  | none => exact present
  | some .undefined => exact present
  | some .null => simp [given, Given.isNull] at notNull
  | some (.value content) => rfl

def written (ids : RowIds) (full : UserFull) (data : UserUpdate)
    (accepted : acceptsFields data = true) : UserFull :=
  let mfa := data.mfa.bind Given.get?
  { row := ⟨columns full.row data, columns_required accepted⟩
    mfa := (mfa.map mfaRow).or full.mfa
    mfa_totp := mfa.elim full.mfa_totp fun mfa => totpRow mfa full.mfa_totp
    mfa_email_otp := mfa.elim full.mfa_email_otp fun mfa => emailRow mfa full.mfa_email_otp
    webauthn_credentials := mfa.elim full.webauthn_credentials fun mfa =>
      credentialRows mfa full.webauthn_credentials
    recovery := (data.recovery.bind Given.get?).elim full.recovery fun recovery =>
      Recovery.Prisma.update ids full.recovery recovery
    notification_prefs :=
      (data.notification_preferences.bind Given.get?).or full.notification_prefs }

def update (ids : RowIds) (full : UserFull) (data : UserUpdate) : Option UserFull :=
  if accepted : acceptsFields data = true then
    if acceptsMfa data.mfa && acceptsRecovery data.recovery &&
        acceptsPreferences data.notification_preferences then
      some (written ids full data accepted)
    else none
  else none

def afterUpdate (ids : RowIds) (full : UserFull) (data : UserUpdate) : Option IUser :=
  (update ids full data).bind toIUser

end ParakoId.UserRecords.Prisma
