import ParakoId.SignIn.Interaction

/-!
How the three handlers of account recovery end: the answers, the backup code or the code that was
sent are taken, and the account is signed in.
-/

namespace ParakoId.SignIn

section AccountRecovery

variable {Profile : Type} (settings : Settings) (services : Services Profile)

def recoveryFor (method : RecoveryMethod) (session : BrowserSession Profile) :
    Option RecoveryAttempt :=
  session.recoveryAttempt.filter fun attempt => attempt.method = method

def forgetRecovery (session : BrowserSession Profile) : BrowserSession Profile :=
  { session with recoveryAttempt := none }

def forgetSecondaryEmail (session : BrowserSession Profile) : BrowserSession Profile :=
  { session with secondaryEmailVerification := none }

def RECOVERED_MESSAGE : String :=
  "Account recovered successfully! It is crucial to change your password immediately or " ++
    "enforce security options for your account."

def recovered (user : User Profile)
    (forget : BrowserSession Profile → BrowserSession Profile) : Action Profile Response := do
  note (.credentialsVerified user.username)
  remove forget
  authenticate settings services (accountOf services user)
  return .redirect .dashboard (some RECOVERED_MESSAGE)

def processRecoverySecurityQuestions : Action Profile Response :=
  tryCatch
    (do
      match ← get (recoveryFor .security_questions) with
      | none => return .redirect .accountRecovery none
      | some recoveryAttempt =>
        match ← ask (services.findById recoveryAttempt.userId) with
        | none => return .redirect .accountRecovery none
        | some user =>
          match ← ask (services.checkRecovery user) with
          | some error => return .render .recoveryQuestions (some error)
          | none => recovered settings services user forgetRecovery)
    fun _ => pure (.render .recoveryQuestions (some "An error occurred. Please try again."))

def processRecoveryBackupCodes (code : String) : Action Profile Response :=
  tryCatch
    (do
      match ← get (recoveryFor .backup_codes) with
      | none => return .redirect .accountRecovery none
      | some recoveryAttempt =>
        if Schemas.trim code = "" then
          return .render .recoveryBackupCodes (some "Backup code is required")
        match ← ask (services.findById recoveryAttempt.userId) with
        | none =>
          return .render .recoveryBackupCodes
            (some "No backup codes found for this account")
        | some user =>
          match ← ask (services.checkRecovery user) with
          | some error => return .render .recoveryBackupCodes (some error)
          | none =>
            ask (services.updateRecovery user)
            recovered settings services user forgetRecovery)
    fun _ => pure (.render .recoveryBackupCodes (some "An error occurred. Please try again."))

def recoverBySms (recoveryAttempt : RecoveryAttempt) : Action Profile Response := do
  match ← ask (services.findById recoveryAttempt.userId) with
  | none => return .render .recoveryVerifyCode (some "User not found")
  | some user =>
    match ← ask (services.checkRecovery user) with
    | some error => return .render .recoveryVerifyCode (some error)
    | none => recovered settings services user forgetRecovery

def recoverBySecondaryEmail (verification : SecondaryEmailVerification) (code : String) :
    Action Profile Response := do
  if verification.expiresAt ≤ services.now then
    remove forgetSecondaryEmail
    return .render .recoveryVerifyCode (some "Verification code has expired. Please try again.")
  match ← ask (services.findById verification.userId) with
  | none => return .render .recoveryVerifyCode (some "User not found")
  | some user =>
    match ← ask (services.checkRecovery user) with
    | some error => return .render .recoveryVerifyCode (some error)
    | none =>
      if code ≠ verification.code then
        ask (services.updateRecovery user)
        return .render .recoveryVerifyCode (some "Invalid verification code")
      ask (services.updateRecovery user)
      recovered settings services user (forgetRecovery ∘ forgetSecondaryEmail)

def smsChallenge (session : BrowserSession Profile) : Option RecoveryAttempt :=
  (recoveryFor .sms session).filter RecoveryAttempt.smsSent

def processRecoveryVerifyCode (code : String) : Action Profile Response :=
  tryCatch
    (do
      let recoveryAttempt ← get smsChallenge
      let verification ← get BrowserSession.secondaryEmailVerification
      if recoveryAttempt.isNone && verification.isNone then
        return .redirect .accountRecovery none
      if Schemas.trim code = "" then
        return .render .recoveryVerifyCode (some "Verification code is required")
      match recoveryAttempt, verification with
      | some recoveryAttempt, _ => recoverBySms settings services recoveryAttempt
      | none, some verification =>
        recoverBySecondaryEmail settings services verification (Schemas.trim code)
      | none, none => return .redirect .accountRecovery none)
    fun _ => pure (.render .recoveryVerifyCode (some "An error occurred. Please try again."))

end AccountRecovery

end ParakoId.SignIn
