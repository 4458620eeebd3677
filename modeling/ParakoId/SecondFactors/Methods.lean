import ParakoId.Accounts.Users

/-!
The second factors of a user, as the services see them, and the two repositories that keep them:
one document in MongoDB, several rows behind Prisma.
-/

namespace ParakoId.SecondFactors

open Accounts (EmailOtp truthy)

structure WebAuthnCredential where
  credential_id : String
  counter : Int
  friendly_name : String
  last_used_at : Option Nat

structure TotpMethod where
  enabled : Bool
  secret : Option String
  verified_at : Option Nat
  deriving DecidableEq

structure EmailMethod where
  enabled : Bool
  verified_at : Option Nat
  deriving DecidableEq

structure WebAuthnMethod where
  enabled : Bool
  credentials : List WebAuthnCredential
  verified_at : Option Nat

structure Mfa where
  enabled : Bool
  totp : Option TotpMethod
  email : Option EmailMethod
  webauthn : Option WebAuthnMethod
  email_otp : Option EmailOtp

def Mfa.blank : Mfa where
  enabled := false
  totp := none
  email := none
  webauthn := none
  email_otp := none

inductive MfaMethod
  | totp
  | email
  | webauthn
  deriving DecidableEq

def TotpMethod.usable (totp : TotpMethod) : Bool := totp.enabled && (truthy totp.secret).isSome

def WebAuthnMethod.usable (webauthn : WebAuthnMethod) : Bool :=
  webauthn.enabled && !webauthn.credentials.isEmpty

structure MfaStatus where
  enabled : Bool
  totp : Bool
  email : Bool
  webauthn : Bool
  deriving DecidableEq

def Mfa.status (mfa : Mfa) : MfaStatus where
  enabled := mfa.enabled
  totp := mfa.totp.any TotpMethod.usable
  email := mfa.email.any EmailMethod.enabled
  webauthn := mfa.webauthn.any WebAuthnMethod.usable

/-- A user without second factors has none enabled. -/
def statusOf (mfa : Option Mfa) : MfaStatus := (mfa.getD .blank).status

def credentialsOf (mfa : Option Mfa) : List WebAuthnCredential :=
  (mfa.bind Mfa.webauthn).elim [] WebAuthnMethod.credentials

def countersOf (mfa : Option Mfa) : List (String × Int) :=
  (credentialsOf mfa).map fun credential => (credential.credential_id, credential.counter)

def getEnabledMethods (mfa : Option Mfa) : List MfaMethod :=
  match mfa with
  | none => []
  | some mfa =>
    if mfa.enabled = false then []
    else
      (if mfa.totp.any TotpMethod.usable then [.totp] else []) ++
        (if mfa.email.any EmailMethod.enabled then [.email] else []) ++
        (if mfa.webauthn.any WebAuthnMethod.usable then [.webauthn] else [])

def hasAnyMethodEnabled (mfa : Option Mfa) (excludeMethod : MfaMethod) : Bool :=
  0 < ((getEnabledMethods mfa).filter fun method => method ≠ excludeMethod).length

def isEmailMfaPendingSetup (mfa : Option Mfa) (now : Nat) : Bool :=
  mfa.any fun mfa =>
    (mfa.email_otp.any fun otp => otp.hash ≠ "" && otp.expires.any fun expires => now < expires) &&
      !mfa.email.any EmailMethod.enabled

def MfaStatus.hasOther (status : MfaStatus) : MfaMethod → Bool
  | .totp => status.enabled && (status.email || status.webauthn)
  | .email => status.enabled && (status.totp || status.webauthn)
  | .webauthn => status.enabled && (status.totp || status.email)

def MfaStatus.methods (status : MfaStatus) : List MfaMethod :=
  if status.enabled = false then []
  else
    (if status.totp then [.totp] else []) ++ (if status.email then [.email] else []) ++
      (if status.webauthn then [.webauthn] else [])

theorem getEnabledMethods_eq (mfa : Option Mfa) :
    getEnabledMethods mfa = (statusOf mfa).methods := by
  cases mfa <;> rfl

theorem hasAnyMethodEnabled_eq (mfa : Option Mfa) (excludeMethod : MfaMethod) :
    hasAnyMethodEnabled mfa excludeMethod = (statusOf mfa).hasOther excludeMethod := by
  rw [hasAnyMethodEnabled, getEnabledMethods_eq]
  obtain ⟨enabled, totp, email, webauthn⟩ := statusOf mfa
  cases enabled with
  | false => cases excludeMethod <;> rfl
  | true =>
    cases totp <;> cases email <;> cases webauthn <;> cases excludeMethod <;> rfl

/-- A secret as `encryptValue` leaves it. -/
structure EncryptedSecret where
  text : String
  nonempty : text ≠ ""

inductive TotpUpdate
  | enable (secret : EncryptedSecret) (verified_at : Nat)
  | setUp (secret : EncryptedSecret)
  | disable

inductive EmailUpdate
  | enable (verified_at : Nat)
  | disable

/-- WebAuthn is only ever disabled this way. -/
structure MfaUpdate where
  enabled : Option Bool
  totp : Option TotpUpdate
  email : Option EmailUpdate
  disablesWebAuthn : Bool

def TotpUpdate.usable : TotpUpdate → Bool
  | .enable _ _ => true
  | _ => false

def EmailUpdate.enabled : EmailUpdate → Bool
  | .enable _ => true
  | .disable => false

def MfaStatus.updated (status : MfaStatus) (update : MfaUpdate) : MfaStatus where
  enabled := update.enabled.getD status.enabled
  totp := (update.totp.map TotpUpdate.usable).getD status.totp
  email := (update.email.map EmailUpdate.enabled).getD status.email
  webauthn := !update.disablesWebAuthn && status.webauthn

structure Repository (Stored : Type) where
  mfa : Stored → Option Mfa
  update : Mfa → Stored → Stored
  updateMfa : MfaUpdate → Stored → Stored
  setEmailOtp : EmailOtp → Stored → Stored
  clearEmailOtp : Stored → Stored
  update_counters : ∀ written stored, written.webauthn.isSome = true →
    countersOf (mfa (update written stored)) = countersOf (some written)
  update_status : ∀ written stored, written.webauthn.isSome = true →
    written.totp = (mfa stored).bind Mfa.totp → written.email = (mfa stored).bind Mfa.email →
      statusOf (mfa (update written stored)) = written.status
  updateMfa_status : ∀ update stored,
    statusOf (mfa (updateMfa update stored)) = (statusOf (mfa stored)).updated update
  setEmailOtp_status : ∀ otp stored, statusOf (mfa (setEmailOtp otp stored)) = statusOf (mfa stored)
  clearEmailOtp_status : ∀ stored, statusOf (mfa (clearEmailOtp stored)) = statusOf (mfa stored)

def TotpUpdate.document : TotpUpdate → TotpMethod
  | .enable secret verified_at => ⟨true, some secret.text, some verified_at⟩
  | .setUp secret => ⟨false, some secret.text, none⟩
  | .disable => ⟨false, none, none⟩

def EmailUpdate.document : EmailUpdate → EmailMethod
  | .enable verified_at => ⟨true, some verified_at⟩
  | .disable => ⟨false, none⟩

def Mongoose.updateMfa (update : MfaUpdate) (stored : Option Mfa) : Option Mfa :=
  let mfa := stored.getD .blank
  some { mfa with
    enabled := update.enabled.getD mfa.enabled
    totp := (update.totp.map TotpUpdate.document).or mfa.totp
    email := (update.email.map EmailUpdate.document).or mfa.email
    webauthn := if update.disablesWebAuthn then some ⟨false, [], none⟩ else mfa.webauthn }

theorem document_usable (update : TotpUpdate) : update.document.usable = update.usable := by
  cases update with
  | enable secret verified_at => simp [TotpUpdate.document, TotpMethod.usable, TotpUpdate.usable,
      truthy, secret.nonempty]
  | setUp _ | disable => rfl

theorem document_enabled (update : EmailUpdate) : update.document.enabled = update.enabled := by
  cases update <;> rfl

theorem any_or {Value : Type} (first second : Option Value) (test : Value → Bool) :
    (first.or second).any test = (first.map test).getD (second.any test) := by
  cases first <;> rfl

def mongoose : Repository (Option Mfa) where
  mfa stored := stored
  update written _ := some written
  updateMfa := Mongoose.updateMfa
  setEmailOtp otp stored := some { stored.getD .blank with email_otp := some otp }
  clearEmailOtp stored := stored.map fun mfa => { mfa with email_otp := none }
  update_counters _ _ _ := rfl
  update_status _ _ _ _ _ := rfl
  updateMfa_status update stored := by
    simp only [statusOf, Mongoose.updateMfa, Option.getD_some, Mfa.status, MfaStatus.updated,
      any_or, Option.map_map]
    congr 1
    · congr 2
      funext totp
      exact document_usable totp
    · congr 2
      funext email
      exact document_enabled email
    · cases update.disablesWebAuthn <;> rfl
  setEmailOtp_status _ _ := rfl
  clearEmailOtp_status stored := by cases stored <;> rfl

structure UserMfaRow where
  enabled : Bool
  webauthn_enabled : Bool
  webauthn_verified_at : Option Nat

structure UserMfaEmailOtpRow where
  enabled : Bool
  verified_at : Option Nat
  otp_hash : Option String
  expires_at : Option Nat

structure MfaRows where
  mfa : Option UserMfaRow
  mfa_totp : Option TotpMethod
  mfa_email_otp : Option UserMfaEmailOtpRow
  webauthn_credentials : List WebAuthnCredential
  enrolled : webauthn_credentials ≠ [] → mfa.isSome = true

namespace Prisma

def toIUser (rows : MfaRows) : Option Mfa :=
  if rows.mfa = none ∧ rows.mfa_totp = none ∧ rows.mfa_email_otp = none ∧
      rows.webauthn_credentials = [] then none
  else some
    { enabled := rows.mfa.any UserMfaRow.enabled
      totp := rows.mfa_totp
      email := rows.mfa_email_otp.map fun row => ⟨row.enabled, row.verified_at⟩
      webauthn :=
        if rows.mfa.any UserMfaRow.webauthn_enabled = true ∨ rows.webauthn_credentials ≠ [] then
          some
            { enabled := (rows.mfa.map UserMfaRow.webauthn_enabled).getD
                (!rows.webauthn_credentials.isEmpty)
              credentials := rows.webauthn_credentials
              verified_at := rows.mfa.bind UserMfaRow.webauthn_verified_at }
        else none
      email_otp := rows.mfa_email_otp.bind fun row =>
        (truthy row.otp_hash).map fun hash => ⟨hash, row.expires_at⟩ }

/-- A credential without a name is named by its id. -/
def credentialRow (credential : WebAuthnCredential) : WebAuthnCredential :=
  { credential with
    friendly_name := if credential.friendly_name = "" then credential.credential_id
      else credential.friendly_name }

def update (written : Mfa) (rows : MfaRows) : MfaRows where
  mfa := some
    { enabled := written.enabled
      webauthn_enabled := written.webauthn.any WebAuthnMethod.enabled
      webauthn_verified_at := written.webauthn.bind WebAuthnMethod.verified_at }
  mfa_totp := written.totp.or rows.mfa_totp
  mfa_email_otp :=
    if written.email = none ∧ written.email_otp = none then rows.mfa_email_otp
    else some
      { enabled := written.email.any EmailMethod.enabled
        verified_at := written.email.bind EmailMethod.verified_at
        otp_hash := written.email_otp.map EmailOtp.hash
        expires_at := written.email_otp.bind EmailOtp.expires }
  webauthn_credentials :=
    match written.webauthn with
    | none => rows.webauthn_credentials
    | some webauthn => webauthn.credentials.map credentialRow
  enrolled _ := rfl

def totpRow (update : TotpUpdate) (row : Option TotpMethod) : TotpMethod :=
  let stored := row.getD ⟨false, none, none⟩
  match update with
  | .enable secret verified_at => ⟨true, some secret.text, some verified_at⟩
  | .setUp secret => { stored with enabled := false, secret := some secret.text }
  | .disable => { stored with enabled := false }

def emailRow (update : EmailUpdate) (row : Option UserMfaEmailOtpRow) : UserMfaEmailOtpRow :=
  let stored := row.getD ⟨false, none, none, none⟩
  match update with
  | .enable verified_at => { stored with enabled := true, verified_at := some verified_at }
  | .disable => { stored with enabled := false }

def mfaRow (update : MfaUpdate) (row : Option UserMfaRow) : Option UserMfaRow :=
  if update.enabled = none ∧ update.disablesWebAuthn = false then row
  else
    let stored := row.getD ⟨false, false, none⟩
    some { stored with
      enabled := update.enabled.getD stored.enabled
      webauthn_enabled := !update.disablesWebAuthn && stored.webauthn_enabled }

def updateMfa (update : MfaUpdate) (rows : MfaRows) : MfaRows where
  mfa := mfaRow update rows.mfa
  mfa_totp := (update.totp.map fun totp => totpRow totp rows.mfa_totp).or rows.mfa_totp
  mfa_email_otp :=
    (update.email.map fun email => emailRow email rows.mfa_email_otp).or rows.mfa_email_otp
  webauthn_credentials := rows.webauthn_credentials
  enrolled credentials := by
    rw [mfaRow]
    split
    · exact rows.enrolled credentials
    · rfl

def setEmailOtp (otp : EmailOtp) (rows : MfaRows) : MfaRows :=
  { rows with
    mfa_email_otp := some
      { rows.mfa_email_otp.getD ⟨false, none, none, none⟩ with
        otp_hash := some otp.hash, expires_at := otp.expires } }

def clearEmailOtp (rows : MfaRows) : MfaRows :=
  { rows with
    mfa_email_otp := rows.mfa_email_otp.map fun row =>
      { row with otp_hash := none, expires_at := none } }

theorem statusOf_toIUser (rows : MfaRows) :
    statusOf (toIUser rows) =
      { enabled := rows.mfa.any UserMfaRow.enabled
        totp := rows.mfa_totp.any TotpMethod.usable
        email := rows.mfa_email_otp.any UserMfaEmailOtpRow.enabled
        webauthn := rows.mfa.any UserMfaRow.webauthn_enabled &&
          !rows.webauthn_credentials.isEmpty } := by
  rw [toIUser]
  split
  · rename_i blank
    obtain ⟨noMfa, noTotp, noEmail, _⟩ := blank
    rw [noMfa, noTotp, noEmail]
    rfl
  · simp only [statusOf, Option.getD_some, Mfa.status, Option.any_map]
    congr 1
    cases isRow : rows.mfa with
    | none =>
      have noCredentials : rows.webauthn_credentials = [] := by
        by_contra some
        have impossible := rows.enrolled some
        rw [isRow] at impossible
        cases impossible
      simp [noCredentials]
    | some row =>
      cases enabled : row.webauthn_enabled with
      | true => simp [enabled, WebAuthnMethod.usable]
      | false =>
        simp only [Option.any_some, enabled, Bool.false_and]
        split
        · simp [WebAuthnMethod.usable, enabled]
        · rfl

theorem totpRow_usable (update : TotpUpdate) (row : Option TotpMethod) :
    (totpRow update row).usable = update.usable := by
  cases update with
  | enable secret verified_at => simp [totpRow, TotpMethod.usable, TotpUpdate.usable, truthy,
      secret.nonempty]
  | setUp _ | disable => rfl

theorem emailRow_enabled (update : EmailUpdate) (row : Option UserMfaEmailOtpRow) :
    (emailRow update row).enabled = update.enabled := by
  cases update <;> rfl

theorem bind_toIUser_totp (rows : MfaRows) : (toIUser rows).bind Mfa.totp = rows.mfa_totp := by
  rw [toIUser]
  split
  · rename_i blank
    exact blank.2.1.symm
  · rfl

theorem bind_toIUser_email (rows : MfaRows) :
    (toIUser rows).bind Mfa.email =
      rows.mfa_email_otp.map fun row => ⟨row.enabled, row.verified_at⟩ := by
  rw [toIUser]
  split
  · rename_i blank
    rw [blank.2.2.1]
    rfl
  · rfl

theorem countersOf_toIUser (rows : MfaRows) :
    countersOf (toIUser rows) = rows.webauthn_credentials.map fun credential =>
      (credential.credential_id, credential.counter) := by
  rw [toIUser]
  split
  · rename_i blank
    rw [blank.2.2.2]
    rfl
  · simp only [countersOf, credentialsOf, Option.bind_some]
    split
    · rfl
    · rename_i none
      rw [not_or, not_not] at none
      rw [none.2]
      rfl

end Prisma

def prisma : Repository MfaRows where
  mfa := Prisma.toIUser
  update := Prisma.update
  updateMfa := Prisma.updateMfa
  setEmailOtp := Prisma.setEmailOtp
  clearEmailOtp := Prisma.clearEmailOtp
  update_counters written rows hasWebAuthn := by
    obtain ⟨webauthn, isWebAuthn⟩ := Option.isSome_iff_exists.mp hasWebAuthn
    rw [Prisma.countersOf_toIUser]
    simp only [Prisma.update, isWebAuthn, countersOf, credentialsOf, Option.bind_some,
      Option.elim_some, List.map_map]
    rfl
  update_status written rows hasWebAuthn sameTotp sameEmail := by
    obtain ⟨webauthn, isWebAuthn⟩ := Option.isSome_iff_exists.mp hasWebAuthn
    rw [Prisma.bind_toIUser_totp] at sameTotp
    rw [Prisma.bind_toIUser_email] at sameEmail
    rw [Prisma.statusOf_toIUser]
    simp only [Prisma.update, Mfa.status, sameTotp, Option.or_self, isWebAuthn, Option.any_some,
      WebAuthnMethod.usable, List.isEmpty_map]
    congr 1
    split
    · rename_i noEmail
      rw [noEmail.1] at sameEmail ⊢
      rw [Option.map_eq_none_iff.mp sameEmail.symm]
      rfl
    · rfl
  updateMfa_status update rows := by
    rw [Prisma.statusOf_toIUser, Prisma.statusOf_toIUser]
    simp only [Prisma.updateMfa, MfaStatus.updated, any_or, Option.map_map]
    congr 1
    · rw [Prisma.mfaRow]
      split
      · rename_i untouched
        rw [untouched.1]
        rfl
      · cases rows.mfa <;> rfl
    · congr 2
      funext totp
      exact Prisma.totpRow_usable totp rows.mfa_totp
    · congr 2
      funext email
      exact Prisma.emailRow_enabled email rows.mfa_email_otp
    · rw [Prisma.mfaRow]
      split
      · rename_i untouched
        rw [untouched.2]
        rfl
      · cases rows.mfa with
        | none => simp
        | some row => simp [Bool.and_assoc]
  setEmailOtp_status otp rows := by
    rw [Prisma.statusOf_toIUser, Prisma.statusOf_toIUser]
    simp only [Prisma.setEmailOtp]
    cases rows.mfa_email_otp <;> rfl
  clearEmailOtp_status rows := by
    rw [Prisma.statusOf_toIUser, Prisma.statusOf_toIUser]
    simp only [Prisma.clearEmailOtp]
    cases rows.mfa_email_otp <;> rfl

end ParakoId.SecondFactors
