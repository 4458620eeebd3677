import ParakoId.Accounts.PasswordChange
import ParakoId.Recovery.Repositories
import ParakoId.SecondFactors.EnabledFactors

/-!
The cooldown after an account recovery. Its start is kept in the recovery record of the user,
and two of the handlers of the account pages look at it.
-/

namespace ParakoId.SecondFactors

open Accounts (EmailOtp PasswordForm PasswordFunction PasswordServices SamePassword IsPassword)
open Recovery (BackupCodes RecoveryAttempt RecoveryMethod RecoveryStore SecondaryEmail
  SecurityQuestions UserRecovery RECOVERY_COOLDOWN_HOURS isInRecoveryCooldown mongooseRecords)
open Runs (AllowedFrom)

/-- `{ enabled: false, methods: [] }`. -/
def noRecovery : UserRecovery where
  enabled := false
  methods := some []
  lockout := none
  last_recovered_at := none
  backup_codes := none
  sms := none
  secondary_email := none
  security_questions := none

/-- `normalizeRecoveryMethods`: each method once. -/
def normalizedMethods (recovery : UserRecovery) : List RecoveryMethod :=
  (recovery.methods.getD []).eraseDups

def withMethod (methods : List RecoveryMethod) (method : RecoveryMethod) : List RecoveryMethod :=
  if methods.contains method then methods else methods ++ [method]

inductive RecoverySetting
  | setUpRecovery (codes : BackupCodes) (email : Option SecondaryEmail)
  | enableBackupCodes (codes : BackupCodes)
  | enableSecondaryEmail (email : SecondaryEmail)
  | disableRecovery (method : RecoveryMethod)
  | verifyRecoveryEmail
  | regenerateBackupCodes (codes : BackupCodes)
  | saveSecurityQuestions (questions : SecurityQuestions)

def withoutMethod (recovery : UserRecovery) (methods : List RecoveryMethod) :
    RecoveryMethod → UserRecovery
  | .backup_codes => { recovery with methods := some methods, backup_codes := none }
  | .secondary_email => { recovery with methods := some methods, secondary_email := none }
  | .sms => { recovery with methods := some methods, sms := none }
  | .security_questions => { recovery with methods := some methods, security_questions := none }

def disabledRecovery (recovery : UserRecovery) (method : RecoveryMethod) : UserRecovery :=
  let updatedMethods := (normalizedMethods recovery).filter fun other => other ≠ method
  if updatedMethods.length = 0 then noRecovery else withoutMethod recovery updatedMethods method

def RecoverySetting.saved (setting : RecoverySetting) (currentRecovery : Option UserRecovery) :
    Option UserRecovery :=
  let existingRecovery := currentRecovery.getD noRecovery
  let existingMethods := normalizedMethods existingRecovery
  match setting with
  | .setUpRecovery codes email =>
    let methods := withMethod existingMethods .backup_codes
    some { existingRecovery with
      enabled := true
      methods := some (if email.isSome then withMethod methods .secondary_email else methods)
      backup_codes := some codes
      secondary_email := email.or existingRecovery.secondary_email }
  | .enableBackupCodes codes =>
    some { existingRecovery with
      enabled := true
      methods := some (withMethod existingMethods .backup_codes)
      backup_codes := some codes }
  | .enableSecondaryEmail email =>
    some { existingRecovery with
      enabled := true
      methods := some (withMethod existingMethods .secondary_email)
      secondary_email := some email }
  | .disableRecovery method => currentRecovery.map fun recovery => disabledRecovery recovery method
  | .verifyRecoveryEmail => do
      let recovery ← currentRecovery
      let email ← recovery.secondary_email
      return { recovery with secondary_email := some { email with
        verified := true, verification_token := none, verification_expires := none } }
  | .regenerateBackupCodes codes => do
      let recovery ← currentRecovery
      if recovery.enabled = false then none
      else some { recovery with
        methods := some (withMethod existingMethods .backup_codes), backup_codes := some codes }
  | .saveSecurityQuestions questions =>
    some { existingRecovery with
      enabled := true
      methods := some (withMethod existingMethods .security_questions)
      security_questions := some questions }

/-- `buildRecoveryWithBackupCodes`, for a user who has no backup codes yet. -/
def withFirstBackupCodes (currentRecovery : Option UserRecovery) (codes : BackupCodes) :
    Option UserRecovery :=
  if (currentRecovery.bind fun recovery => recovery.backup_codes).any fun stored =>
      stored.codes ≠ [] then none
  else
    let recovery := currentRecovery.getD noRecovery
    some { recovery with
      enabled := true
      methods := some ((recovery.methods.getD [] ++ [RecoveryMethod.backup_codes]).eraseDups)
      backup_codes := some codes }

structure MfaConfig where
  enabled : Bool
  totp : Bool
  email : Bool

/-- The methods that `isSupportedMfaEnrollmentMethod` lets pass. -/
inductive EnrollmentMethod
  | totp
  | email

def MfaConfig.enrolls (config : MfaConfig) : EnrollmentMethod → Bool
  | .totp => config.enabled && config.totp
  | .email => config.enabled && config.email

structure SelfServices where
  mfa : MfaServices
  passwords : PasswordServices
  mfaConfig : MfaConfig
  recovery : Recovery.Primitives
  unicode : Recovery.Unicode
  ensureDecrypted : String → String
  /-- Whether a code passes `validateTotpCode`, and `verifyTotpCode` for a secret at a time. -/
  acceptsTotpCode : String → String → Nat → Bool

/-- `recoveredAt` is when the account was last recovered, which no handler reads. -/
structure SelfServiceUser (Stored Record : Type) where
  user : Accounts.User
  factors : MfaUser Stored
  record : Record
  now : Nat
  recoveredAt : Option Nat

inductive SelfService
  | wait (milliseconds : Nat)
  | recover (attempt : RecoveryAttempt)
  | recoverBySecondaryEmail
  | changePassword (form : PasswordForm) (linkedProviders : Nat) (breached : Bool)
      (rehashSalt salt : Nat)
  | resetPassword (token newPassword : String) (breached : Bool) (salt : Nat)
  | enableMfaTotp (secret : String)
  | enableMfaEmail (otp : EmailOtp)
  | verifySetupMfaTotp (code : String) (codes : BackupCodes)
  | verifySetupMfaEmail (code : String) (codes : BackupCodes)
  | disableMfa (method : Option MfaMethod)
  | credentials (call : CredentialCall)
  | recoverySettings (setting : RecoverySetting)

def pendingSecret (mfa : Option Mfa) : Option String :=
  (mfa.bind Mfa.totp).bind fun totp =>
    if totp.enabled then none else Accounts.truthy totp.secret

section Steps

variable {Stored Record : Type} (repository : Repository Stored) (store : RecoveryStore Record)
  (services : SelfServices)

def SelfServiceUser.mfa (state : SelfServiceUser Stored Record) : Option Mfa :=
  repository.mfa state.factors.stored

def SelfServiceUser.operate (state : SelfServiceUser Stored Record) (operation : MfaOperation) :
    SelfServiceUser Stored Record :=
  { state with
    factors := mfaStep repository services.mfa state.factors (state.now, operation) }

def SelfServiceUser.save (state : SelfServiceUser Stored Record) (saved : Option UserRecovery) :
    SelfServiceUser Stored Record :=
  match saved with
  | none => state
  | some recovery => { state with record := store.save recovery state.record }

def SelfServiceUser.inRecoveryCooldown (state : SelfServiceUser Stored Record) : Bool :=
  isInRecoveryCooldown (store.load state.record) state.now

def changeOf (state : SelfServiceUser Stored Record) (form : PasswordForm)
    (linkedProviders : Nat) (breached : Bool) : Option PasswordFunction :=
  if state.inRecoveryCooldown store then none
  else if breached then none
  else form.call state.user linkedProviders

def resetOf (token newPassword : String) (breached : Bool) : Option PasswordFunction :=
  if breached then none else some (.resetPassword token newPassword)

def SelfServiceUser.perform (state : SelfServiceUser Stored Record)
    (function : Option PasswordFunction) (rehashSalt salt : Nat) :
    SelfServiceUser Stored Record :=
  match function with
  | none => state
  | some function =>
    { state with
      user := function.perform services.passwords state.user state.now rehashSalt salt }

def recover (state : SelfServiceUser Stored Record) (attempt : RecoveryAttempt) :
    SelfServiceUser Stored Record :=
  let outcome := Recovery.RecoveryService.attempt services.recovery services.unicode
    (store.load state.record) state.now attempt
  let saved := state.save store outcome.saved
  if outcome.decision = .accepted then { saved with recoveredAt := some state.now } else saved

def recoverBySecondaryEmail (state : SelfServiceUser Stored Record) :
    SelfServiceUser Stored Record :=
  let recovered := Recovery.recoveredUser (store.load state.record) state.now
  { state.save store (some recovered) with recoveredAt := some state.now }

def selfServiceStep (state : SelfServiceUser Stored Record) :
    SelfService → SelfServiceUser Stored Record
  | .wait milliseconds => { state with now := state.now + milliseconds }
  | .recover attempt => recover store services state attempt
  | .recoverBySecondaryEmail => recoverBySecondaryEmail store state
  | .changePassword form linkedProviders breached rehashSalt salt =>
    state.perform services (changeOf store state form linkedProviders breached) rehashSalt salt
  | .resetPassword token newPassword breached salt =>
    state.perform services (resetOf token newPassword breached) 0 salt
  | .enableMfaTotp secret =>
    if services.mfaConfig.enrolls .totp then
      state.operate repository services (.initiateMfaTotpSetup secret)
    else state
  | .enableMfaEmail otp =>
    if services.mfaConfig.enrolls .email then
      state.operate repository services (.initiateEmailMfaSetup otp)
    else state
  | .verifySetupMfaTotp code codes =>
    match pendingSecret (state.mfa repository) with
    | none => state
    | some stored =>
      let secret := services.ensureDecrypted stored
      if services.mfaConfig.enrolls .totp && services.acceptsTotpCode code secret state.now &&
          isTotpSecret secret then
        (state.operate repository services (.enableMfaTotp secret)).save store
          (withFirstBackupCodes (store.load state.record) codes)
      else state
  | .verifySetupMfaEmail code codes =>
    if services.mfaConfig.enrolls .email &&
        acceptsSetupCode services.mfa (state.mfa repository) code state.now then
      ((state.operate repository services (.verifyEmailMfaSetupCode code)).operate repository
        services .enableMfaEmail).save store
          (withFirstBackupCodes (store.load state.record) codes)
    else state
  | .disableMfa method =>
    if state.inRecoveryCooldown store then state
    else state.operate repository services (.disableMfa method)
  | .credentials call => state.operate repository services (.credentials call)
  | .recoverySettings setting => state.save store (setting.saved (store.load state.record))

def CoolingDown (state : SelfServiceUser Stored Record) : Prop :=
  ∃ recoveredAt, state.recoveredAt = some recoveredAt ∧
    state.now < recoveredAt + RECOVERY_COOLDOWN_HOURS * 60 * 60 * 1000

def CooldownEnforced (state : SelfServiceUser Stored Record) (operation : SelfService) : Prop :=
  CoolingDown state →
    SamePassword services.passwords state.user
        (selfServiceStep repository store services state operation).user ∧
      FactorsKept (state.mfa repository)
        ((selfServiceStep repository store services state operation).mfa repository)

def SetsNone (state : SelfServiceUser Stored Record) (function : Option PasswordFunction) : Prop :=
  ∀ call newPassword, function = some call → call.newPassword = some newPassword →
    call.passes services.passwords state.user state.now = true →
      IsPassword services.passwords state.user newPassword

/-- TOTP is not set up anew where it is enabled, and no credential in use is removed. A password
is changed, or a method disabled, to no effect or under a record that shows the cooldown; and no
reset token is used but for the password that is set. -/
def HarmlessWhileCooling (state : SelfServiceUser Stored Record) : SelfService → Prop
  | .changePassword form linkedProviders breached _ _ =>
    SetsNone services state (changeOf store state form linkedProviders breached)
  | .resetPassword token newPassword breached _ =>
    SetsNone services state (resetOf token newPassword breached)
  | .enableMfaTotp secret =>
    services.mfaConfig.enrolls .totp = true → isTotpSecret secret = true →
      isTotpEnabled (state.mfa repository) = false
  | .disableMfa method =>
    state.inRecoveryCooldown store = false →
      ∀ disabled, method = none ∨ method = some disabled →
        disabled.isEnabled (state.mfa repository) = false
  | .credentials call =>
    ∀ credentialId, call = .remove credentialId →
      hasFactor (state.mfa repository) (.webauthn credentialId) = false
  | _ => True

end Steps

section Exact

variable {Stored Record : Type} {repository : Repository Stored} {store : RecoveryStore Record}
  {services : SelfServices}

theorem save_user (state : SelfServiceUser Stored Record) (saved : Option UserRecovery) :
    (state.save store saved).user = state.user := by
  cases saved <;> rfl

variable (repository store) in
theorem save_mfa (state : SelfServiceUser Stored Record) (saved : Option UserRecovery) :
    (state.save store saved).mfa repository = state.mfa repository := by
  cases saved <;> rfl

theorem perform_mfa (state : SelfServiceUser Stored Record) (function : Option PasswordFunction)
    (rehashSalt salt : Nat) :
    (state.perform services function rehashSalt salt).mfa repository = state.mfa repository := by
  cases function <;> rfl

theorem perform_setsNone_iff (state : SelfServiceUser Stored Record)
    {function : Option PasswordFunction}
    (sets : ∀ call, function = some call → ∃ newPassword, call.newPassword = some newPassword)
    (rehashSalt salt : Nat) :
    SamePassword services.passwords state.user
        (state.perform services function rehashSalt salt).user ↔
      SetsNone services state function := by
  cases function with
  | none =>
    refine iff_of_true (fun _ => rfl) ?_
    rintro _ _ ⟨⟩
  | some call =>
    obtain ⟨newPassword, isNew⟩ := sets call rfl
    rw [SelfServiceUser.perform, Accounts.perform_same_iff isNew]
    constructor
    · intro same other password isCall isPassword passes
      injection isCall with isCall
      subst isCall
      rw [isNew, Option.some.injEq] at isPassword
      exact isPassword ▸ same passes
    · intro setsNone
      exact setsNone call newPassword rfl isNew

theorem changeOf_sets {state : SelfServiceUser Stored Record} {form : PasswordForm}
    {linkedProviders : Nat} {breached : Bool} {call : PasswordFunction}
    (isCall : changeOf store state form linkedProviders breached = some call) :
    ∃ newPassword, call.newPassword = some newPassword := by
  rw [changeOf] at isCall
  split at isCall
  · cases isCall
  · split at isCall
    · cases isCall
    · exact Accounts.call_sets isCall

variable (repository store services) in
theorem recover_keeps (state : SelfServiceUser Stored Record) (attempt : RecoveryAttempt) :
    (recover store services state attempt).user = state.user ∧
      (recover store services state attempt).mfa repository = state.mfa repository := by
  rw [recover]
  split
  · exact ⟨save_user state _, save_mfa repository store state _⟩
  · exact ⟨save_user state _, save_mfa repository store state _⟩

theorem pendingSecret_disabled {mfa : Option Mfa} {secret : String}
    (isPending : pendingSecret mfa = some secret) : (statusOf mfa).totp = false := by
  obtain ⟨totp, isTotp, isSecret⟩ := Option.bind_eq_some_iff.mp isPending
  split at isSecret
  · cases isSecret
  · rename_i disabled
    obtain ⟨known, isKnown, isStored⟩ := Option.bind_eq_some_iff.mp isTotp
    subst isKnown
    rw [Bool.not_eq_true] at disabled
    rw [statusOf, Option.getD_some, Mfa.status]
    simp only [isStored, Option.any_some, TotpMethod.usable, disabled, Bool.false_and]

theorem FactorsKept.trans {first second third : Option Mfa} (left : FactorsKept first second)
    (right : FactorsKept second third) : FactorsKept first third :=
  fun factor has => right factor (left factor has)

theorem verifySetupMfa_kept (keeps : KeepsFactors repository)
    (state : SelfServiceUser Stored Record) (code : String) :
    FactorsKept (state.mfa repository)
      (((state.operate repository services (.verifyEmailMfaSetupCode code)).operate repository
        services .enableMfaEmail).mfa repository) := by
  refine FactorsKept.trans ?_ (enableMfaEmail_kept services.mfa keeps _ _)
  simp only [SelfServiceUser.operate, mfaStep]
  split
  · exact factorsKept_of_same _ (repository.clearEmailOtp_status _) (keeps.clearEmailOtp _)
  · exact FactorsKept.refl _

theorem step_enforced_iff (keeps : KeepsFactors repository)
    (state : SelfServiceUser Stored Record) (operation : SelfService) :
    (SamePassword services.passwords state.user
          (selfServiceStep repository store services state operation).user ∧
        FactorsKept (state.mfa repository)
          ((selfServiceStep repository store services state operation).mfa repository)) ↔
      HarmlessWhileCooling repository store services state operation := by
  have same : SamePassword services.passwords state.user state.user := fun _ => rfl
  have kept := FactorsKept.refl (state.mfa repository)
  cases operation with
  | wait milliseconds => exact iff_of_true ⟨same, kept⟩ trivial
  | recover attempt =>
    obtain ⟨sameUser, sameMfa⟩ := recover_keeps repository store services state attempt
    rw [selfServiceStep, sameUser, sameMfa]
    exact iff_of_true ⟨same, kept⟩ trivial
  | recoverBySecondaryEmail =>
    rw [selfServiceStep]
    refine iff_of_true ⟨?_, ?_⟩ trivial
    · rw [recoverBySecondaryEmail, save_user]
      exact same
    · have sameMfa := save_mfa repository store state
      simp only [recoverBySecondaryEmail, SelfServiceUser.mfa] at sameMfa ⊢
      rw [sameMfa]
      exact kept
  | changePassword form linkedProviders breached rehashSalt salt =>
    rw [selfServiceStep, perform_mfa, perform_setsNone_iff state fun _ => changeOf_sets]
    exact and_iff_left kept
  | resetPassword token newPassword breached salt =>
    rw [selfServiceStep, perform_mfa, perform_setsNone_iff state]
    · exact and_iff_left kept
    · intro call isCall
      rw [resetOf] at isCall
      split at isCall
      · cases isCall
      · injection isCall with isCall
        exact ⟨newPassword, isCall ▸ rfl⟩
  | enableMfaTotp secret =>
    simp only [selfServiceStep, HarmlessWhileCooling]
    by_cases enrolls : services.mfaConfig.enrolls .totp = true
    · rw [if_pos enrolls, forall_prop_of_true enrolls]
      exact (and_iff_right same).trans
        (initiateMfaTotpSetup_kept_iff services.mfa keeps state.factors state.now secret)
    · rw [if_neg enrolls]
      exact iff_of_true ⟨same, kept⟩ fun impossible => absurd impossible enrolls
  | enableMfaEmail otp =>
    rw [selfServiceStep]
    refine iff_of_true ?_ trivial
    split
    · exact ⟨same, factorsKept_of_same _ (repository.setEmailOtp_status otp _)
        (keeps.setEmailOtp otp _)⟩
    · exact ⟨same, kept⟩
  | verifySetupMfaTotp code codes =>
    rw [selfServiceStep]
    refine iff_of_true ?_ trivial
    cases isPending : pendingSecret (state.mfa repository) with
    | none => exact ⟨same, kept⟩
    | some stored =>
      simp only
      split
      · rw [save_user, save_mfa]
        exact ⟨same, enableMfaTotp_kept services.mfa keeps state.factors state.now _
          (pendingSecret_disabled isPending)⟩
      · exact ⟨same, kept⟩
  | verifySetupMfaEmail code codes =>
    rw [selfServiceStep]
    refine iff_of_true ?_ trivial
    split
    · rw [save_user, save_mfa]
      exact ⟨same, verifySetupMfa_kept keeps state code⟩
    · exact ⟨same, kept⟩
  | disableMfa method =>
    simp only [selfServiceStep, HarmlessWhileCooling]
    cases shown : state.inRecoveryCooldown store with
    | true => exact iff_of_true ⟨same, kept⟩ fun impossible => by cases impossible
    | false =>
      rw [forall_prop_of_true rfl]
      exact (and_iff_right same).trans
        (disableMfa_kept_iff services.mfa keeps state.factors state.now method)
  | credentials call =>
    exact (and_iff_right same).trans
      (credentials_kept_iff services.mfa keeps state.factors state.now call)
  | recoverySettings setting =>
    rw [selfServiceStep, save_user, save_mfa]
    exact iff_of_true ⟨same, kept⟩ trivial

/-- In every run of self-service, password and enabled factors outlast the cooldown exactly
where every step that is taken while it runs is harmless. -/
theorem cooldown_enforced_iff (keeps : KeepsFactors repository)
    (state : SelfServiceUser Stored Record) (operations : List SelfService) :
    AllowedFrom (selfServiceStep repository store services)
        (CooldownEnforced repository store services) state operations ↔
      AllowedFrom (selfServiceStep repository store services)
        (fun state operation => CoolingDown state →
          HarmlessWhileCooling repository store services state operation) state operations :=
  Runs.allowed_congr _ (fun _ _ (_ : True) => trivial)
    (fun state operation _ => imp_congr_right fun _ => step_enforced_iff keeps state operation)
    trivial

end Exact

def plainSelfServices : SelfServices where
  mfa := plainMfaServices
  passwords := Accounts.plainServices
  mfaConfig := ⟨true, true, true⟩
  recovery := ⟨fun _ _ => none, fun text => "sha256:" ++ text⟩
  unicode := ⟨id, Char.isAlpha, Char.isDigit⟩
  ensureDecrypted := id
  acceptsTotpCode _ _ _ := false

def guardedMfa : Mfa where
  enabled := true
  totp := some ⟨true, some "enc:JBSWY3DPEHPK3PXP", some 0⟩
  email := none
  webauthn := some ⟨true, [⟨"passkey", 1, "Laptop", none⟩], some 0⟩
  email_otp := none

def guardedUser : SelfServiceUser (Option Mfa) (Option UserRecovery) where
  user := .signedUp "argon2:first password" none
  factors := ⟨some guardedMfa, true⟩
  record := some noRecovery
  now := 1000
  recoveredAt := none

theorem cooldown_refuses :
    AllowedFrom (selfServiceStep mongoose mongooseRecords plainSelfServices)
      (CooldownEnforced mongoose mongooseRecords plainSelfServices) guardedUser
      [.recoverBySecondaryEmail,
        .changePassword ⟨some "first password", some "second password", some "second password"⟩
          0 false 0 0,
        .disableMfa none] := by
  have shown : (recoverBySecondaryEmail mongooseRecords guardedUser).inRecoveryCooldown
      mongooseRecords = true := by decide +kernel
  refine (cooldown_enforced_iff mongoose_keepsFactors guardedUser _).mpr
    ⟨fun _ => trivial, fun _ => ?_, fun _ => ?_, trivial⟩
  · intro call newPassword isCall
    rw [selfServiceStep, changeOf, if_pos shown] at isCall
    cases isCall
  · intro notShown
    have shownStill : (selfServiceStep mongoose mongooseRecords plainSelfServices
        (recoverBySecondaryEmail mongooseRecords guardedUser) (.changePassword
          ⟨some "first password", some "second password", some "second password"⟩ 0 false
          0 0)).inRecoveryCooldown mongooseRecords = true := by decide +kernel
    rw [selfServiceStep, shownStill] at notShown
    cases notShown

theorem cooldown_passed_by :
    let step := selfServiceStep mongoose mongooseRecords plainSelfServices
    let recovered := step guardedUser .recoverBySecondaryEmail
    recovered.inRecoveryCooldown mongooseRecords = true ∧
      hasFactor (recovered.mfa mongoose) (.totp "enc:JBSWY3DPEHPK3PXP") = true ∧
      hasFactor (recovered.mfa mongoose) (.webauthn "passkey") = true ∧
      isTotpEnabled ((step recovered (.enableMfaTotp "KRSXG5CTMVRXEZLU")).mfa mongoose) =
        false ∧
      credentialIds ((step recovered (.credentials (.remove "passkey"))).mfa mongoose) = [] ∧
      ¬AllowedFrom step (CooldownEnforced mongoose mongooseRecords plainSelfServices) guardedUser
        [.recoverBySecondaryEmail, .enableMfaTotp "KRSXG5CTMVRXEZLU"] ∧
      ¬AllowedFrom step (CooldownEnforced mongoose mongooseRecords plainSelfServices) guardedUser
        [.recoverBySecondaryEmail, .credentials (.remove "passkey")] := by
  intro step recovered
  have running : CoolingDown recovered := ⟨1000, rfl, by decide⟩
  have totp : hasFactor (recovered.mfa mongoose) (.totp "enc:JBSWY3DPEHPK3PXP") = true := by
    decide +kernel
  have passkey : hasFactor (recovered.mfa mongoose) (.webauthn "passkey") = true := by
    decide +kernel
  have pending : isTotpEnabled
      ((step recovered (.enableMfaTotp "KRSXG5CTMVRXEZLU")).mfa mongoose) = false := by
    decide +kernel
  have removed : credentialIds
      ((step recovered (.credentials (.remove "passkey"))).mfa mongoose) = [] := by
    decide +kernel
  refine ⟨by decide, totp, passkey, pending, removed, ?_, ?_⟩
  · rintro ⟨-, enforced, -⟩
    have still := (enforced running).2 _ totp
    rw [hasFactor, pending] at still
    cases still
  · rintro ⟨-, enforced, -⟩
    have still := (enforced running).2 _ passkey
    rw [hasFactor, removed, Bool.and_eq_true] at still
    cases still.2

end ParakoId.SecondFactors
