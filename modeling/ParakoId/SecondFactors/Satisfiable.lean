import ParakoId.Library.Runs
import ParakoId.SecondFactors.WebAuthn

/-! When multi-factor authentication is enabled exactly for users who can satisfy it. -/

namespace ParakoId.SecondFactors

open Accounts (EmailOtp)
open Runs (AlwaysFrom AllowedFrom)

structure MfaServices where
  maxCredentialsPerUser : Nat
  encryptValue : String → EncryptedSecret
  hashToken : String → String

structure MfaUser (Stored : Type) where
  stored : Stored
  addressVerified : Bool

def isBase32 (letter : Char) : Bool :=
  ('A' ≤ letter && letter ≤ 'Z') || ('2' ≤ letter && letter ≤ '7')

def isTotpSecret (secret : String) : Bool :=
  secret.toList.head?.any isBase32 && (secret.toList.dropWhile isBase32).all fun letter =>
    letter == '='

inductive MfaOperation
  | enableMfaTotp (secret : String)
  | initiateMfaTotpSetup (secret : String)
  | enableMfaEmail
  | initiateEmailMfaSetup (otp : EmailOtp)
  | verifyEmailMfaSetupCode (code : String)
  | disableMfa (method : Option MfaMethod)
  | credentials (call : CredentialCall)
  | enableWebAuthnMfa
  | disableWebAuthnMfa

def disableUpdate (mfa : Option Mfa) : Option MfaMethod → MfaUpdate
  | some .totp =>
    { enabled := some (hasAnyMethodEnabled mfa .totp), totp := some .disable, email := none
      disablesWebAuthn := false }
  | some .email =>
    { enabled := some (hasAnyMethodEnabled mfa .email), totp := none, email := some .disable
      disablesWebAuthn := false }
  | some .webauthn =>
    { enabled := some (hasAnyMethodEnabled mfa .webauthn), totp := none, email := none
      disablesWebAuthn := true }
  | none =>
    { enabled := some false, totp := some .disable, email := some .disable
      disablesWebAuthn := true }

def acceptsSetupCode (services : MfaServices) (mfa : Option Mfa) (code : String) (now : Nat) :
    Bool :=
  Schemas.trim code ≠ "" && isEmailMfaPendingSetup mfa now &&
    (mfa.bind Mfa.email_otp).any fun otp =>
      otp.accepts (services.hashToken (Schemas.trim code)) now

section Operations

variable {Stored : Type} (repository : Repository Stored) (services : MfaServices)

def MfaUser.write (user : MfaUser Stored) (written : Except String (Option Mfa)) :
    MfaUser Stored :=
  match written with
  | .ok (some mfa) => { user with stored := repository.update mfa user.stored }
  | _ => user

def MfaUser.updateMfa (user : MfaUser Stored) (update : MfaUpdate) : MfaUser Stored :=
  { user with stored := repository.updateMfa update user.stored }

/-- An operation at a time. One that fails leaves the user as it is. -/
def mfaStep (user : MfaUser Stored) (event : Nat × MfaOperation) : MfaUser Stored :=
  let now := event.1
  let mfa := repository.mfa user.stored
  match event.2 with
  | .enableMfaTotp secret =>
    if isTotpSecret secret then
      user.updateMfa repository
        { enabled := some true, totp := some (.enable (services.encryptValue secret) now)
          email := none, disablesWebAuthn := false }
    else user
  | .initiateMfaTotpSetup secret =>
    if isTotpSecret secret then
      user.updateMfa repository
        { enabled := none, totp := some (.setUp (services.encryptValue secret)), email := none
          disablesWebAuthn := false }
    else user
  | .enableMfaEmail =>
    user.updateMfa repository
      { enabled := some true, totp := none, email := some (.enable now)
        disablesWebAuthn := false }
  | .initiateEmailMfaSetup otp => { user with stored := repository.setEmailOtp otp user.stored }
  | .verifyEmailMfaSetupCode code =>
    if acceptsSetupCode services mfa code now then
      { stored := repository.clearEmailOtp user.stored, addressVerified := true }
    else user
  | .disableMfa method => user.updateMfa repository (disableUpdate mfa method)
  | .credentials call => user.write repository (call.write services.maxCredentialsPerUser now mfa)
  | .enableWebAuthnMfa => user.write repository ((enableWebAuthnMfa now mfa).map some)
  | .disableWebAuthnMfa => user.write repository (.ok (some (disableWebAuthnMfa mfa)))

def MfaStatus.satisfiable (status : MfaStatus) (addressVerified : Bool) : Bool :=
  status.totp || (status.email && addressVerified) || status.webauthn

def EnabledIffSatisfiable (user : MfaUser Stored) : Prop :=
  (statusOf (repository.mfa user.stored)).enabled =
    (statusOf (repository.mfa user.stored)).satisfiable user.addressVerified

def removesLast (mfa : Option Mfa) (credentialId : String) : Bool :=
  !(credentialsOf mfa).isEmpty &&
    (credentialsOf mfa).all fun other => other.credential_id == credentialId

/-- A set-up of TOTP is not begun anew where TOTP is the one method that can be used, and e-mail
to an address that is not verified is not enabled or left as the one method. -/
def KeepsSatisfiable (user : MfaUser Stored) (event : Nat × MfaOperation) : Prop :=
  let mfa := repository.mfa user.stored
  let status := statusOf mfa
  match event.2 with
  | .initiateMfaTotpSetup secret => isTotpSecret secret = true → status.totp = true →
      status.email && user.addressVerified || status.webauthn
  | .enableMfaEmail => user.addressVerified || status.totp || status.webauthn
  | .disableMfa (some .totp) => status.enabled = true → status.email = true →
      user.addressVerified || status.webauthn
  | .disableMfa (some .webauthn) => status.enabled = true → status.email = true →
      user.addressVerified || status.totp
  | .credentials (.remove credentialId) => removesLast mfa credentialId = true →
      status.email = true → user.addressVerified || status.totp
  | .disableWebAuthnMfa => status.email = true → user.addressVerified || status.totp
  | _ => True

end Operations

section Steps

variable {Stored : Type} {repository : Repository Stored} {services : MfaServices}
  {user : MfaUser Stored}

theorem written_status (enabled : Bool) (webauthn : WebAuthnMethod) :
    statusOf (repository.mfa (repository.update
      (withWebAuthn (repository.mfa user.stored) enabled webauthn) user.stored)) =
        { statusOf (repository.mfa user.stored) with enabled, webauthn := webauthn.usable } := by
  rw [repository.update_status]
  · rfl
  · rfl
  · cases repository.mfa user.stored <;> rfl
  · cases repository.mfa user.stored <;> rfl

theorem changeCredential_status (credentialId : String)
    (change : WebAuthnCredential → WebAuthnCredential) :
    statusOf (repository.mfa (repository.update
      (changeCredential (repository.mfa user.stored) credentialId change) user.stored)) =
        statusOf (repository.mfa user.stored) := by
  rw [changeCredential, written_status]
  cases repository.mfa user.stored with
  | none => rfl
  | some mfa =>
    obtain ⟨enabled, totp, email, webauthn, email_otp⟩ := mfa
    cases webauthn with
    | none => rfl
    | some webauthn => simp [statusOf, Mfa.status, WebAuthnMethod.usable, credentialsOf]

inductive Unchanging (mfa : Option Mfa) : Except String (Option Mfa) → Prop
  | fails (message) : Unchanging mfa (.error message)
  | finds : Unchanging mfa (.ok none)
  | changes (credentialId change) :
      Unchanging mfa (.ok (some (changeCredential mfa credentialId change)))

theorem renameCredential_unchanging (mfa : Option Mfa) (credentialId newName : String) :
    Unchanging mfa (renameCredential mfa credentialId newName) := by
  rw [renameCredential]
  split
  · exact .fails _
  · cases findCredential mfa credentialId with
    | none => exact .finds
    | some credential => exact .changes credentialId _

theorem updateCredentialCounter_unchanging (mfa : Option Mfa) (credentialId : String)
    (newCounter : Int) :
    Unchanging mfa ((updateCredentialCounter mfa credentialId newCounter).map some) := by
  rw [updateCredentialCounter]
  split
  · exact .fails _
  · split
    · exact .fails _
    · split
      · exact .fails _
      · exact .changes credentialId _

theorem updateCredentialLastUsed_unchanging (now : Nat) (mfa : Option Mfa)
    (credentialId : String) :
    Unchanging mfa ((updateCredentialLastUsed now mfa credentialId).map some) := by
  rw [updateCredentialLastUsed]
  split
  · exact .fails _
  · exact .changes credentialId _

theorem unchanging_status {written : Except String (Option Mfa)}
    (unchanging : Unchanging (repository.mfa user.stored) written) :
    statusOf (repository.mfa (user.write repository written).stored) =
        statusOf (repository.mfa user.stored) ∧
      (user.write repository written).addressVerified = user.addressVerified := by
  cases unchanging with
  | fails _ | finds => exact ⟨rfl, rfl⟩
  | changes credentialId change => exact ⟨changeCredential_status credentialId change, rfl⟩

theorem enabledIffSatisfiable_of_same {after : MfaUser Stored}
    (same : statusOf (repository.mfa after.stored) = statusOf (repository.mfa user.stored))
    (address : after.addressVerified = user.addressVerified)
    (holds : EnabledIffSatisfiable repository user) : EnabledIffSatisfiable repository after := by
  rw [EnabledIffSatisfiable, same, address]
  exact holds

theorem updateMfa_iff (update : MfaUpdate) :
    EnabledIffSatisfiable repository (user.updateMfa repository update) ↔
      ((statusOf (repository.mfa user.stored)).updated update).enabled =
        ((statusOf (repository.mfa user.stored)).updated update).satisfiable
          user.addressVerified := by
  rw [EnabledIffSatisfiable, MfaUser.updateMfa, repository.updateMfa_status]

theorem write_iff (enabled : Bool) (webauthn : WebAuthnMethod) :
    EnabledIffSatisfiable repository (user.write repository (.ok (some
        (withWebAuthn (repository.mfa user.stored) enabled webauthn)))) ↔
      enabled = ((statusOf (repository.mfa user.stored)).totp ||
        ((statusOf (repository.mfa user.stored)).email && user.addressVerified) ||
          webauthn.usable) := by
  rw [EnabledIffSatisfiable, MfaUser.write, written_status]
  rfl

variable {status : MfaStatus} {addressVerified : Bool}

section

variable (holds : status.enabled = status.satisfiable addressVerified)
include holds

theorem hasOther_totp_iff :
    status.hasOther .totp = (false || (status.email && addressVerified) || status.webauthn) ↔
      (status.enabled = true → status.email = true → addressVerified || status.webauthn) := by
  obtain ⟨enabled, totp, email, webauthn⟩ := status
  revert holds
  cases enabled <;> cases totp <;> cases email <;> cases webauthn <;> cases addressVerified <;>
    decide

theorem hasOther_email :
    status.hasOther .email = (status.totp || (false && addressVerified) || status.webauthn) := by
  obtain ⟨enabled, totp, email, webauthn⟩ := status
  revert holds
  cases enabled <;> cases totp <;> cases email <;> cases webauthn <;> cases addressVerified <;>
    decide

theorem hasOther_webauthn_iff :
    status.hasOther .webauthn = (status.totp || (status.email && addressVerified) || false) ↔
      (status.enabled = true → status.email = true → addressVerified || status.totp) := by
  obtain ⟨enabled, totp, email, webauthn⟩ := status
  revert holds
  cases enabled <;> cases totp <;> cases email <;> cases webauthn <;> cases addressVerified <;>
    decide

end

theorem disableMfa_iff (now : Nat) (method : Option MfaMethod)
    (holds : EnabledIffSatisfiable repository user) :
    EnabledIffSatisfiable repository (mfaStep repository services user
        (now, .disableMfa method)) ↔
      KeepsSatisfiable repository user (now, .disableMfa method) := by
  rw [mfaStep, updateMfa_iff]
  cases method with
  | none => exact iff_of_true rfl trivial
  | some method =>
    cases method with
    | totp =>
      rw [disableUpdate, hasAnyMethodEnabled_eq]
      exact hasOther_totp_iff holds
    | email =>
      rw [disableUpdate, hasAnyMethodEnabled_eq]
      exact iff_of_true (hasOther_email holds) trivial
    | webauthn =>
      rw [disableUpdate, hasAnyMethodEnabled_eq]
      exact hasOther_webauthn_iff holds

theorem email_left_iff (totp email addressVerified webauthn : Bool) :
    ((totp || email || webauthn) = (totp || (email && addressVerified) || webauthn)) ↔
      (webauthn = false → email = true → addressVerified || totp) := by
  cases totp <;> cases email <;> cases addressVerified <;> cases webauthn <;> decide

theorem removeCredential_iff (now : Nat) (credentialId : String)
    (holds : EnabledIffSatisfiable repository user) :
    EnabledIffSatisfiable repository (mfaStep repository services user
        (now, .credentials (.remove credentialId))) ↔
      KeepsSatisfiable repository user (now, .credentials (.remove credentialId)) := by
  simp only [mfaStep, CredentialCall.write, removeCredential, KeepsSatisfiable, removesLast]
  generalize isUpdated : (credentialsOf (repository.mfa user.stored)).filter
    (fun other => other.credential_id ≠ credentialId) = updatedCreds
  have isEmpty : updatedCreds.isEmpty = true ↔
      ∀ other ∈ credentialsOf (repository.mfa user.stored),
        other.credential_id = credentialId := by
    rw [List.isEmpty_iff, ← isUpdated, List.filter_eq_nil_iff]
    simp
  by_cases same : updatedCreds.length = (credentialsOf (repository.mfa user.stored)).length
  · rw [if_pos same]
    refine iff_of_true holds ?_
    intro last
    rw [Bool.and_eq_true, List.all_eq_true] at last
    have nothing := isEmpty.mpr fun other member => by simpa using last.2 other member
    have noCredentials : credentialsOf (repository.mfa user.stored) = [] := by
      rw [← List.length_eq_zero_iff, ← same, List.length_eq_zero_iff]
      exact List.isEmpty_iff.mp nothing
    rw [noCredentials] at last
    cases last.1
  · rw [if_neg same, write_iff]
    have usable : (⟨!updatedCreds.isEmpty, updatedCreds,
        verifiedAt (repository.mfa user.stored)⟩ : WebAuthnMethod).usable =
          !updatedCreds.isEmpty := Bool.and_self _
    have last : (!updatedCreds.isEmpty) = false ↔
        (!(credentialsOf (repository.mfa user.stored)).isEmpty &&
          (credentialsOf (repository.mfa user.stored)).all fun other =>
            other.credential_id == credentialId) = true := by
      rw [Bool.not_eq_false', isEmpty, Bool.and_eq_true, List.all_eq_true]
      constructor
      · intro all
        refine ⟨?_, fun other member => by simpa using all other member⟩
        rw [Bool.not_eq_true', ← Bool.not_eq_true, List.isEmpty_iff]
        intro none
        rw [none, List.filter_nil] at isUpdated
        rw [none, ← isUpdated] at same
        exact same rfl
      · rintro ⟨_, all⟩ other member
        simpa using all other member
    rw [usable, hasOtherMethods, email_left_iff, last]

theorem disableWebAuthnMfa_iff (now : Nat) :
    EnabledIffSatisfiable repository (mfaStep repository services user
        (now, .disableWebAuthnMfa)) ↔
      KeepsSatisfiable repository user (now, .disableWebAuthnMfa) := by
  have written : disableWebAuthnMfa (repository.mfa user.stored) =
      withWebAuthn (repository.mfa user.stored) (hasOtherMethods (repository.mfa user.stored))
        ⟨false, [], none⟩ := rfl
  simp only [mfaStep, written]
  rw [write_iff]
  have left := email_left_iff (statusOf (repository.mfa user.stored)).totp
    (statusOf (repository.mfa user.stored)).email user.addressVerified false
  rw [Bool.or_false] at left
  rw [hasOtherMethods]
  exact left.trans (by simp [KeepsSatisfiable])

theorem passkey_satisfies (credentials : List WebAuthnCredential) (verified_at : Option Nat)
    (registered : credentials ≠ []) :
    EnabledIffSatisfiable repository (user.write repository (.ok (some
      (withWebAuthn (repository.mfa user.stored) true ⟨true, credentials, verified_at⟩)))) := by
  rw [write_iff]
  simp [WebAuthnMethod.usable, registered]

theorem credentials_iff (now : Nat) (call : CredentialCall)
    (holds : EnabledIffSatisfiable repository user) :
    EnabledIffSatisfiable repository (mfaStep repository services user
        (now, .credentials call)) ↔
      KeepsSatisfiable repository user (now, .credentials call) := by
  have kept : ∀ {written : Except String (Option Mfa)},
      Unchanging (repository.mfa user.stored) written →
        EnabledIffSatisfiable repository (user.write repository written) := by
    intro written unchanging
    obtain ⟨same, address⟩ := unchanging_status unchanging
    exact enabledIffSatisfiable_of_same same address holds
  cases call with
  | remove credentialId => exact removeCredential_iff now credentialId holds
  | add credential =>
    refine iff_of_true ?_ trivial
    simp only [mfaStep, CredentialCall.write, addCredential]
    split
    · exact holds
    · split
      · exact holds
      · exact passkey_satisfies _ _ (by simp)
  | rename credentialId newName =>
    exact iff_of_true (kept (renameCredential_unchanging _ credentialId newName)) trivial
  | updateCounter credentialId newCounter =>
    exact iff_of_true (kept (updateCredentialCounter_unchanging _ credentialId newCounter))
      trivial
  | updateLastUsed credentialId =>
    exact iff_of_true (kept (updateCredentialLastUsed_unchanging now _ credentialId)) trivial

theorem setUp_iff (holds : status.enabled = status.satisfiable addressVerified) :
    status.enabled = (false || (status.email && addressVerified) || status.webauthn) ↔
      (status.totp = true → status.email && addressVerified || status.webauthn) := by
  obtain ⟨enabled, totp, email, webauthn⟩ := status
  revert holds
  cases enabled <;> cases totp <;> cases email <;> cases webauthn <;> cases addressVerified <;>
    decide

theorem emailEnabled_iff (status : MfaStatus) (addressVerified : Bool) :
    true = (status.totp || (true && addressVerified) || status.webauthn) ↔
      (addressVerified || status.totp || status.webauthn) = true := by
  rw [Bool.true_and, eq_comm, Bool.or_comm status.totp]

theorem email_of_pending {mfa : Option Mfa} {now : Nat}
    (pending : isEmailMfaPendingSetup mfa now = true) : (statusOf mfa).email = false := by
  cases mfa with
  | none => cases pending
  | some mfa =>
    simp only [isEmailMfaPendingSetup, Option.any_some, Bool.and_eq_true,
      Bool.not_eq_true'] at pending
    exact pending.2

theorem mfaStep_iff (event : Nat × MfaOperation)
    (holds : EnabledIffSatisfiable repository user) :
    EnabledIffSatisfiable repository (mfaStep repository services user event) ↔
      KeepsSatisfiable repository user event := by
  obtain ⟨now, operation⟩ := event
  cases operation with
  | enableMfaTotp secret =>
    refine iff_of_true ?_ trivial
    simp only [mfaStep]
    split
    · rw [updateMfa_iff]
      rfl
    · exact holds
  | initiateMfaTotpSetup secret =>
    simp only [mfaStep, KeepsSatisfiable]
    split
    · rename_i valid
      rw [updateMfa_iff]
      simp only [valid, true_implies]
      exact setUp_iff holds
    · rename_i invalid
      exact iff_of_true holds fun valid => absurd valid invalid
  | enableMfaEmail =>
    simp only [mfaStep, KeepsSatisfiable]
    rw [updateMfa_iff]
    exact emailEnabled_iff (statusOf (repository.mfa user.stored)) user.addressVerified
  | initiateEmailMfaSetup otp =>
    exact iff_of_true (enabledIffSatisfiable_of_same
      (repository.setEmailOtp_status otp user.stored) rfl holds) trivial
  | verifyEmailMfaSetupCode code =>
    refine iff_of_true ?_ trivial
    simp only [mfaStep]
    split
    · rename_i accepted
      rw [acceptsSetupCode, Bool.and_eq_true, Bool.and_eq_true] at accepted
      have notEnabled := email_of_pending accepted.1.2
      rw [EnabledIffSatisfiable, MfaStatus.satisfiable, notEnabled, Bool.false_and] at holds
      rw [EnabledIffSatisfiable, repository.clearEmailOtp_status, MfaStatus.satisfiable,
        notEnabled, Bool.false_and]
      exact holds
    · exact holds
  | disableMfa method => exact disableMfa_iff now method holds
  | credentials call => exact credentials_iff now call holds
  | enableWebAuthnMfa =>
    refine iff_of_true ?_ trivial
    simp only [mfaStep, enableWebAuthnMfa]
    split
    · exact holds
    · rename_i registered
      exact passkey_satisfies _ _ (by simpa using registered)
  | disableWebAuthnMfa => exact disableWebAuthnMfa_iff now

end Steps

/-- Over every run of the operations, on either repository: the flag says whether some enabled
method can be used exactly where it does so to begin with and every operation meets its
condition. -/
theorem enabled_iff_satisfiable {Stored : Type} (repository : Repository Stored)
    (services : MfaServices) (user : MfaUser Stored) (events : List (Nat × MfaOperation)) :
    AlwaysFrom (mfaStep repository services) (EnabledIffSatisfiable repository) user events ↔
      EnabledIffSatisfiable repository user ∧
        AllowedFrom (mfaStep repository services) (KeepsSatisfiable repository) user events :=
  Runs.always_iff_start (mfaStep repository services)
    (fun _ event holds => mfaStep_iff event holds) user events

def plainMfaServices : MfaServices where
  maxCredentialsPerUser := 10
  encryptValue secret := ⟨"enc:" ++ secret, by
    intro same
    simpa using congrArg String.toList same⟩
  hashToken code := "sha256:" ++ code

def noRows : MfaRows where
  mfa := none
  mfa_totp := none
  mfa_email_otp := none
  webauthn_credentials := []
  enrolled some := absurd rfl some

def setUpAnew : List (Nat × MfaOperation) :=
  [(0, .enableMfaTotp "JBSWY3DPEHPK3PXP"), (1000, .initiateMfaTotpSetup "KRSXG5CTMVRXEZLU")]

theorem totp_set_up_anew :
    let inMongo := Runs.run (mfaStep mongoose plainMfaServices) ⟨none, true⟩ setUpAnew
    let inPrisma := Runs.run (mfaStep prisma plainMfaServices) ⟨noRows, true⟩ setUpAnew
    statusOf (mongoose.mfa inMongo.stored) = ⟨true, false, false, false⟩ ∧
      statusOf (prisma.mfa inPrisma.stored) = ⟨true, false, false, false⟩ ∧
      ¬EnabledIffSatisfiable mongoose inMongo ∧ ¬EnabledIffSatisfiable prisma inPrisma := by
  intro inMongo inPrisma
  have mongo : statusOf (mongoose.mfa inMongo.stored) = ⟨true, false, false, false⟩ := by
    decide +kernel
  have sql : statusOf (prisma.mfa inPrisma.stored) = ⟨true, false, false, false⟩ := by
    decide +kernel
  refine ⟨mongo, sql, ?_, ?_⟩
  · rw [EnabledIffSatisfiable, mongo]
    decide
  · rw [EnabledIffSatisfiable, sql]
    decide

end ParakoId.SecondFactors
