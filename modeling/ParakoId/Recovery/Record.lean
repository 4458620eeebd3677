import ParakoId.Library.Text

/-!
The recovery record of a user, and how `RecoveryUtils` verifies a backup code or an SMS
code against it. Times are milliseconds.
-/

namespace ParakoId.Recovery

open Text (utf16Length)

def BACKUP_CODE_LENGTH : Nat := 8
def VERIFICATION_CODE_LENGTH : Nat := 6

/-- `none` is an invalid date. -/
abbrev Date := Option Nat

def isValidDate (date : Date) : Bool := date.isSome

def before (date : Date) (now : Nat) : Bool := date.any fun time => decide (time < now)

inductive RecoveryMethod
  | backup_codes
  | secondary_email
  | sms
  | security_questions
  deriving DecidableEq

structure Lockout where
  locked : Bool
  locked_until : Option Nat
  failed_attempts : Nat
  last_failed_at : Option Nat
  deriving DecidableEq

structure BackupCodes where
  codes : List String
  generated_at : Date
  expires_at : Date
  deriving DecidableEq

structure SmsRecovery where
  phone_number : String
  verified : Bool
  verification_code : Option String
  verification_expires : Option Date
  deriving DecidableEq

structure RecoveryConfig where
  enabled : Bool
  methods : Option (List RecoveryMethod)
  lockout : Option Lockout
  last_recovered_at : Option Nat
  backup_codes : Option BackupCodes
  sms : Option SmsRecovery
  deriving DecidableEq

structure RecoveryVerificationResult where
  valid : Bool
  method : RecoveryMethod
  error : Option String
  matchedCode : Option String
  deriving DecidableEq

/-- `argon2.verify`, which throws on a malformed hash, and the hex SHA-256 of a text. -/
structure Primitives where
  verifyPassword : String → String → Option Bool
  sha256 : String → String

def refused (method : RecoveryMethod) (error : String) : RecoveryVerificationResult :=
  { valid := false, method, error := some error, matchedCode := none }

def truthy (text : Option String) : Option String := text.filter fun value => value ≠ ""

-- Besides a-f, only these characters have an upper case with a letter A-F; the others
-- are left as they are, since the filter drops them and their upper cases alike.
def toUpperCase (character : Char) : List Char :=
  if 'a' ≤ character ∧ character ≤ 'z' then [character.toUpper]
  else match character.toNat with
    | 0x1E9A => ['A', Char.ofNat 0x02BE]
    | 0xFB00 => ['F', 'F']
    | 0xFB01 => ['F', 'I']
    | 0xFB02 => ['F', 'L']
    | 0xFB03 => ['F', 'F', 'I']
    | 0xFB04 => ['F', 'F', 'L']
    | _ => [character]

def isCodeCharacter (character : Char) : Bool :=
  decide ('A' ≤ character ∧ character ≤ 'F') || decide ('0' ≤ character ∧ character ≤ '9')

def validateBackupCodeFormat (code : String) : Except String (List Char) :=
  if code = "" then .error "Backup code is required"
  else
    let sanitized := (code.toList.flatMap toUpperCase).filter isCodeCharacter
    if sanitized.length ≠ BACKUP_CODE_LENGTH then
      .error ("Backup code must be exactly " ++ toString BACKUP_CODE_LENGTH ++ " characters")
    else .ok sanitized

def formatCode (sanitized : List Char) : String :=
  String.ofList (sanitized.take 4 ++ '-' :: (sanitized.drop 4).take 4)

def matchStored (primitives : Primitives) (formattedCode : String) :
    List String → Option String → Option (Option String)
  | [], matchedCode => some matchedCode
  | storedHash :: rest, matchedCode =>
    if storedHash = "" then matchStored primitives formattedCode rest matchedCode
    else match primitives.verifyPassword formattedCode storedHash with
      | none => none
      | some valid => matchStored primitives formattedCode rest
          (if valid && matchedCode.isNone then some storedHash else matchedCode)

def verifyBackupCode (primitives : Primitives) (code : String) (storedHashedCodes : List String)
    (expiresAt : Date) (now : Nat) : RecoveryVerificationResult :=
  if code = "" then refused .backup_codes "Backup code is required"
  else if storedHashedCodes = [] then refused .backup_codes "No backup codes available"
  else if !isValidDate expiresAt then refused .backup_codes "Invalid expiration date"
  else if before expiresAt now then refused .backup_codes "Backup codes have expired"
  else match validateBackupCodeFormat code with
    | .error error => refused .backup_codes error
    | .ok sanitized =>
      match matchStored primitives (formatCode sanitized) storedHashedCodes none with
      | none => refused .backup_codes "Backup code verification failed"
      | some none => refused .backup_codes "Invalid backup code"
      | some (some matchedCode) =>
        { valid := true, method := .backup_codes, error := none
          matchedCode := some matchedCode }

def areBackupCodesExpired (backupCodes : BackupCodes) (now : Nat) : Bool :=
  !isValidDate backupCodes.expires_at || before backupCodes.expires_at now

def verifyUserBackupCode (primitives : Primitives) (recovery : Option RecoveryConfig)
    (code : String) (now : Nat) : RecoveryVerificationResult :=
  match recovery.bind RecoveryConfig.backup_codes with
  | none => refused .backup_codes "No backup codes configured for this account"
  | some backupCodes =>
    if areBackupCodesExpired backupCodes now then
      refused .backup_codes "Backup codes have expired"
    else verifyBackupCode primitives code backupCodes.codes backupCodes.expires_at now

-- what `\s` matches
def isSpace (character : Char) : Bool :=
  let point := character.toNat
  decide (9 ≤ point ∧ point ≤ 13) || decide (0x2000 ≤ point ∧ point ≤ 0x200A) ||
    [0x20, 0xA0, 0x1680, 0x2028, 0x2029, 0x202F, 0x205F, 0x3000, 0xFEFF].contains point

def isDigit (character : Char) : Bool := decide ('0' ≤ character ∧ character ≤ '9')

/-- Throws on buffers of different lengths. -/
def timingSafeEqual (first second : String) : Option Bool :=
  if first.utf8ByteSize ≠ second.utf8ByteSize then none else some (decide (first = second))

def verifySmsCode (primitives : Primitives) (code storedCode : String) (expiresAt : Date)
    (now : Nat) : RecoveryVerificationResult :=
  if code = "" then refused .sms "Verification code is required"
  else if storedCode = "" then refused .sms "Invalid stored code"
  else if !isValidDate expiresAt then refused .sms "Invalid expiration date"
  else if before expiresAt now then refused .sms "Verification code has expired"
  else
    let sanitizedCode := code.toList.filter fun character => !isSpace character
    if !(sanitizedCode.length = VERIFICATION_CODE_LENGTH && sanitizedCode.all isDigit) then
      refused .sms ("Code must be exactly " ++ toString VERIFICATION_CODE_LENGTH ++ " digits")
    else
      let inputHash := primitives.sha256 (String.ofList sanitizedCode)
      if utf16Length inputHash ≠ utf16Length storedCode then
        refused .sms "Invalid verification code"
      else match timingSafeEqual inputHash storedCode with
        | none => refused .sms "SMS verification failed"
        | some false => refused .sms "Invalid verification code"
        | some true => { valid := true, method := .sms, error := none, matchedCode := none }

def storedCodes (recovery : Option RecoveryConfig) : List String :=
  ((recovery.bind RecoveryConfig.backup_codes).map BackupCodes.codes).getD []

theorem matchStored_matches {primitives : Primitives} {formattedCode : String}
    {storedHashes : List String} {before : Option String} {matchedCode : String}
    (found : matchStored primitives formattedCode storedHashes before = some (some matchedCode)) :
    before = some matchedCode ∨ (matchedCode ∈ storedHashes ∧ matchedCode ≠ "" ∧
      primitives.verifyPassword formattedCode matchedCode = some true) := by
  induction storedHashes generalizing before with
  | nil =>
    left
    simpa [matchStored] using found
  | cons storedHash rest ih =>
    simp only [matchStored] at found
    split at found
    · rcases ih found with same | ⟨member, nonempty, verified⟩
      · exact .inl same
      · exact .inr ⟨List.mem_cons_of_mem _ member, nonempty, verified⟩
    · rename_i nonempty
      split at found
      · cases found
      · rename_i valid verified
        rcases ih found with same | ⟨member, nonempty, verifiedLater⟩
        · split at same
          · rename_i isFirst
            rw [Option.some.injEq] at same
            subst same
            simp only [Bool.and_eq_true] at isFirst
            exact .inr ⟨List.mem_cons_self, nonempty, by rw [verified, isFirst.1]⟩
          · exact .inl same
        · exact .inr ⟨List.mem_cons_of_mem _ member, nonempty, verifiedLater⟩

theorem verifyUserBackupCode_valid {primitives : Primitives} {recovery : Option RecoveryConfig}
    {code : String} {now : Nat}
    (valid : (verifyUserBackupCode primitives recovery code now).valid = true) :
    ∃ matchedCode sanitized,
      (verifyUserBackupCode primitives recovery code now).matchedCode = some matchedCode ∧
      matchedCode ∈ storedCodes recovery ∧ matchedCode ≠ "" ∧
      validateBackupCodeFormat code = .ok sanitized ∧
      primitives.verifyPassword (formatCode sanitized) matchedCode = some true := by
  revert valid
  simp only [verifyUserBackupCode]
  split
  · simp [refused]
  · rename_i backupCodes isStored
    split
    · simp [refused]
    · simp only [verifyBackupCode]
      repeat' split
      all_goals try (simp [refused]; done)
      rename_i sanitized formatted _ matchedCode found
      intro _
      rcases matchStored_matches found with none_some | ⟨member, nonempty, verified⟩
      · cases none_some
      · refine ⟨matchedCode, sanitized, rfl, ?_, nonempty, formatted, verified⟩
        simpa [storedCodes, isStored] using member

end ParakoId.Recovery
