import ParakoId.Recovery.QuestionRuns

/-!
The `recovery` object in the two user repositories: a nested document of the Mongoose model,
and rows of three tables behind Prisma.
-/

namespace ParakoId.Recovery

/-- `update`: the schema of `lockout` has no `locked`. -/
def Mongoose.update (recovery : UserRecovery) : UserRecovery :=
  { recovery with lockout := recovery.lockout.map fun lockout => { lockout with locked := false } }

structure RecoveryRow where
  enabled : Bool
  methods : List RecoveryMethod
  secondary_email : Option String
  secondary_email_verified : Bool
  secondary_email_token : Option String
  secondary_email_token_exp : Option Nat
  sms_phone_number : Option String
  sms_verified : Bool
  sms_code : Option String
  sms_code_exp : Option Nat
  backup_codes_generated_at : Option Nat
  backup_codes_expires_at : Option Nat
  sq_setup_at : Option Nat
  sq_last_used_at : Option Nat
  sq_failed_attempts : Nat
  sq_last_failed_at : Option Nat
  sq_locked_until : Option Nat

structure BackupCodeRow where
  code_hash : String
  used : Bool

structure UserRows where
  recovery : Option RecoveryRow
  backup_codes : List BackupCodeRow
  security_questions : List SecurityQuestion
  questionsMade : Nat

/-- The ids that `@default(uuid())` gives to the question rows, one after the other. -/
structure RowIds where
  uuid : Nat → String
  distinct : Function.Injective uuid

def questionRow (ids : RowIds) (number : Nat) (question : SecurityQuestion) : SecurityQuestion :=
  { question with id := ids.uuid number }

def questionRows (ids : RowIds) (made : Nat) (questions : List SecurityQuestion) :
    List SecurityQuestion :=
  (questions.zipIdx made).map fun (question, number) => questionRow ids number question

namespace Prisma

/-- The `recovery` part of `update`. -/
def update (ids : RowIds) (rows : UserRows) (recovery : UserRecovery) : UserRows :=
  let questions := (recovery.security_questions.map SecurityQuestions.questions).getD []
  { recovery := some
      { enabled := recovery.enabled
        -- `JSON.stringify(undefined)` leaves the column as it is
        methods := recovery.methods.getD ((rows.recovery.map RecoveryRow.methods).getD [])
        secondary_email := recovery.secondary_email.map SecondaryEmail.email
        secondary_email_verified :=
          (recovery.secondary_email.map SecondaryEmail.verified).getD false
        secondary_email_token :=
          recovery.secondary_email.bind SecondaryEmail.verification_token
        secondary_email_token_exp :=
          recovery.secondary_email.bind SecondaryEmail.verification_expires
        sms_phone_number := recovery.sms.map SmsRecovery.phone_number
        sms_verified := (recovery.sms.map SmsRecovery.verified).getD false
        sms_code := recovery.sms.bind SmsRecovery.verification_code
        sms_code_exp := (recovery.sms.bind SmsRecovery.verification_expires).getD none
        backup_codes_generated_at := (recovery.backup_codes.map BackupCodes.generated_at).getD none
        backup_codes_expires_at := (recovery.backup_codes.map BackupCodes.expires_at).getD none
        sq_setup_at := recovery.security_questions.bind SecurityQuestions.setup_at
        sq_last_used_at := recovery.security_questions.bind SecurityQuestions.last_used_at
        sq_failed_attempts :=
          (recovery.security_questions.bind SecurityQuestions.failed_attempts).getD 0
        sq_last_failed_at := recovery.security_questions.bind SecurityQuestions.last_failed_at
        sq_locked_until := recovery.security_questions.bind SecurityQuestions.locked_until }
    backup_codes := ((recovery.backup_codes.map BackupCodes.codes).getD []).map fun code =>
      { code_hash := code, used := false }
    security_questions := questionRows ids rows.questionsMade questions
    questionsMade := rows.questionsMade + questions.length }

def secondaryEmail (row : RecoveryRow) : Option SecondaryEmail :=
  (truthy row.secondary_email).map fun email =>
    { email, verified := row.secondary_email_verified
      verification_token := row.secondary_email_token
      verification_expires := row.secondary_email_token_exp }

def sms (row : RecoveryRow) : Option SmsRecovery :=
  (truthy row.sms_phone_number).map fun phone_number =>
    { phone_number, verified := row.sms_verified, verification_code := row.sms_code
      verification_expires := row.sms_code_exp.map some }

def backupCodes (rows : UserRows) (row : RecoveryRow) : Option BackupCodes :=
  row.backup_codes_generated_at.map fun generated_at =>
    { codes := (rows.backup_codes.filter fun code => !code.used).map BackupCodeRow.code_hash
      generated_at := some generated_at
      expires_at := row.backup_codes_expires_at }

def securityQuestions (rows : UserRows) : Option SecurityQuestions :=
  if rows.security_questions.length > 0 then
    some
      { questions := rows.security_questions
        setup_at := rows.recovery.bind RecoveryRow.sq_setup_at
        last_used_at := rows.recovery.bind RecoveryRow.sq_last_used_at
        failed_attempts := some ((rows.recovery.map RecoveryRow.sq_failed_attempts).getD 0)
        last_failed_at := rows.recovery.bind RecoveryRow.sq_last_failed_at
        locked_until := rows.recovery.bind RecoveryRow.sq_locked_until }
  else none

/-- The `recovery` part of `toIUser`. -/
def toIUser (rows : UserRows) : Option UserRecovery :=
  if rows.recovery.isSome || rows.backup_codes.length > 0 ||
      rows.security_questions.length > 0 then
    some
      { enabled := (rows.recovery.map RecoveryRow.enabled).getD false
        methods := some ((rows.recovery.map RecoveryRow.methods).getD [])
        lockout := none
        last_recovered_at := none
        secondary_email := rows.recovery.bind secondaryEmail
        sms := rows.recovery.bind sms
        backup_codes := rows.recovery.bind (backupCodes rows)
        security_questions := securityQuestions rows }
  else none

def noRows : UserRows :=
  { recovery := none, backup_codes := [], security_questions := [], questionsMade := 0 }

end Prisma

inductive RecoveryAttempt
  | backupCode (code : String)
  | smsCode (code : String)
  | securityQuestions (answers : List (String × String))

/-- The attempts whose failures `MAX_RECOVERY_ATTEMPTS` bounds. -/
def RecoveryAttempt.isCounted : RecoveryAttempt → Bool
  | .backupCode _ | .smsCode _ => true
  | .securityQuestions _ => false

inductive Decision
  | accepted
  | rejected
  | locked
  deriving DecidableEq

structure Outcome where
  decision : Decision
  saved : Option UserRecovery

def RecoveryCompletionResult.decision (result : RecoveryCompletionResult) : Decision :=
  if result.success then .accepted else .rejected

def recoveryConfig (user : Option UserRecovery) : Option RecoveryConfig :=
  user.map UserRecovery.toRecoveryConfig

def withConfig (user : Option UserRecovery) (config : RecoveryConfig) : UserRecovery :=
  { toRecoveryConfig := config
    secondary_email := user.bind UserRecovery.secondary_email
    security_questions := user.bind UserRecovery.security_questions }

def Continuation.outcome (user : Option UserRecovery) : Continuation → Outcome
  | .answer result => ⟨result.decision, none⟩
  | .save config _ result => ⟨result.decision, some (withConfig user config)⟩

/-- The map of `processRecoverySecurityQuestions`, which leaves empty answers out. -/
def answersMap (answers : List (String × String)) :
    List SecurityQuestion → InsertionMap String String → InsertionMap String String
  | [], map => map
  | question :: rest, map =>
    answersMap answers rest (match truthy (answers.lookup question.question_key) with
      | none => map
      | some answer => map.set question.id answer)

def answersTo (answers : List (String × String)) (user : Option UserRecovery) :
    InsertionMap String String :=
  answersMap answers ((storedQuestions user).getD []) .empty

def RecoveryService.attempt (primitives : Primitives) (unicode : Unicode)
    (user : Option UserRecovery) (now : Nat) : RecoveryAttempt → Outcome
  | .backupCode code =>
    let recovery := recoveryConfig user
    if (checkRecoveryLockout recovery now).locked then ⟨.locked, none⟩
    else (consumeBackupCode recovery now
      (verifyUserBackupCode primitives recovery code now)).outcome user
  | .smsCode code =>
    let recovery := recoveryConfig user
    if (checkRecoveryLockout recovery now).locked then ⟨.locked, none⟩
    else (consumeSmsRecoveryCode primitives recovery now code).outcome user
  | .securityQuestions answers =>
    if (checkSecurityQuestionsLockout user now).locked then ⟨.locked, none⟩
    else
      let (result, saved) := RecoveryService.verifySecurityQuestions primitives unicode user
        (answersTo answers user) now
      ⟨result.decision, saved⟩

def RECOVERY_COOLDOWN_HOURS : Nat := 24

def isInRecoveryCooldown (user : Option UserRecovery) (now : Nat) : Bool :=
  ((recoveryConfig user).bind RecoveryConfig.last_recovered_at).any fun lastRecoveredAt =>
    decide (lastRecoveredAt + RECOVERY_COOLDOWN_HOURS * 60 * 60 * 1000 > now)

def pendingSms (recovery : Option RecoveryConfig) : Option (String × Date) := do
  let smsState ← recovery.bind RecoveryConfig.sms
  let storedCode ← truthy smsState.verification_code
  let expiresAt ← smsState.verification_expires
  return (storedCode, expiresAt)

def codesOf (user : Option UserRecovery) : Option (String × Date) × Option BackupCodes :=
  (pendingSms (recoveryConfig user), (recoveryConfig user).bind RecoveryConfig.backup_codes)

def NoMore (first second : Option (String × Date) × Option BackupCodes) : Prop :=
  (first.1 = none ∨ first.1 = second.1) ∧ (first.2 = none ∨ first.2 = second.2)

structure QuestionsView where
  keysAndHashes : List (String × String)
  failedAttempts : Nat
  lockedUntil : Option Nat

def SecurityQuestion.keyAndHash (question : SecurityQuestion) : String × String :=
  (question.question_key, question.answer_hash)

def questionsView (user : Option UserRecovery) : Option QuestionsView :=
  ((user.bind UserRecovery.security_questions).filter fun sqData => sqData.questions ≠ []).map
    fun sqData =>
      { keysAndHashes := sqData.questions.map SecurityQuestion.keyAndHash
        failedAttempts := sqData.failed_attempts.getD 0
        lockedUntil := sqData.locked_until }

def questionIds (user : Option UserRecovery) : List String :=
  ((storedQuestions user).getD []).map SecurityQuestion.id

theorem NoMore.trans {first second third : Option (String × Date) × Option BackupCodes}
    (left : NoMore first second) (right : NoMore second third) : NoMore first third := by
  obtain ⟨leftSms, leftCodes⟩ := left
  obtain ⟨rightSms, rightCodes⟩ := right
  constructor
  · rcases leftSms with none | same
    · exact .inl none
    · rwa [same]
  · rcases leftCodes with none | same
    · exact .inl none
    · rwa [same]

section Mongoose

variable (recovery : UserRecovery)

@[simp] theorem mongoose_codes : codesOf (some (Mongoose.update recovery)) = codesOf recovery := rfl

@[simp] theorem mongoose_questions :
    storedQuestions (some (Mongoose.update recovery)) = storedQuestions recovery := rfl

@[simp] theorem mongoose_view :
    questionsView (some (Mongoose.update recovery)) = questionsView recovery := rfl

end Mongoose

namespace Prisma

variable (ids : RowIds) (rows : UserRows) (recovery : UserRecovery)

@[simp] theorem lockoutOf_toIUser : lockoutOf (recoveryConfig (toIUser rows)) = none := by
  rw [toIUser]
  split <;> rfl

@[simp] theorem isInRecoveryCooldown_toIUser (now : Nat) :
    isInRecoveryCooldown (toIUser rows) now = false := by
  rw [toIUser]
  split <;> rfl

theorem storedQuestions_toIUser : storedQuestions (toIUser rows) ≠ some [] := by
  rw [toIUser]
  split
  · simp only [storedQuestions, Option.bind_some, securityQuestions]
    split
    · rename_i positive
      simpa [List.length_pos_iff] using positive
    · simp
  · simp [storedQuestions]

theorem sms_update :
    (recoveryConfig (toIUser (update ids rows recovery))).bind RecoveryConfig.sms =
      recovery.sms.bind fun smsState =>
        if smsState.phone_number = "" then none
        else some { smsState with
          verification_expires := (smsState.verification_expires.getD none).map some } := by
  have loaded : (recoveryConfig (toIUser (update ids rows recovery))).bind RecoveryConfig.sms =
      (update ids rows recovery).recovery.bind sms := rfl
  rw [loaded, update, Option.bind_some, sms]
  cases recovery.sms with
  | none => rfl
  | some smsState =>
    by_cases unnumbered : smsState.phone_number = ""
    · simp [truthy, unnumbered]
    · simp [truthy, unnumbered]

theorem pendingSms_update :
    pendingSms (recoveryConfig (toIUser (update ids rows recovery))) = none ∨
      pendingSms (recoveryConfig (toIUser (update ids rows recovery))) =
        pendingSms (recoveryConfig recovery) := by
  have kept : (recoveryConfig (some recovery)).bind RecoveryConfig.sms = recovery.sms := rfl
  rw [pendingSms, pendingSms, sms_update, kept]
  cases recovery.sms with
  | none => exact .inl rfl
  | some smsState =>
    by_cases unnumbered : smsState.phone_number = ""
    · exact .inl (by simp [unnumbered])
    · cases expires : smsState.verification_expires with
      | none => exact .inl (by simp [unnumbered, expires])
      | some date =>
        cases date with
        | none => exact .inl (by simp [unnumbered, expires])
        | some time => exact .inr (by simp [unnumbered, expires])

theorem newCodes_unused (codes : List String) :
    ((codes.map fun code => ({ code_hash := code, used := false } : BackupCodeRow)).filter
      fun code => !code.used).map BackupCodeRow.code_hash = codes := by
  rw [List.filter_eq_self.mpr (by simp), List.map_map]
  exact List.map_id _

theorem backupCodes_update :
    (recoveryConfig (toIUser (update ids rows recovery))).bind RecoveryConfig.backup_codes =
        none ∨
      (recoveryConfig (toIUser (update ids rows recovery))).bind RecoveryConfig.backup_codes =
        recovery.backup_codes := by
  have loaded :
      (recoveryConfig (toIUser (update ids rows recovery))).bind RecoveryConfig.backup_codes =
        (update ids rows recovery).recovery.bind (backupCodes (update ids rows recovery)) := rfl
  rw [loaded]
  simp only [update, Option.bind_some, backupCodes]
  cases recovery.backup_codes with
  | none => exact .inl rfl
  | some stored =>
    obtain ⟨codes, generated_at, expires_at⟩ := stored
    cases generated_at with
    | none => exact .inl rfl
    | some time =>
      right
      simp only [Option.map_some, Option.getD_some, newCodes_unused]

theorem codesOf_update :
    NoMore (codesOf (toIUser (update ids rows recovery))) (codesOf recovery) :=
  ⟨pendingSms_update ids rows recovery, backupCodes_update ids rows recovery⟩

theorem questionRows_keysAndHashes (made : Nat) (questions : List SecurityQuestion) :
    (questionRows ids made questions).map SecurityQuestion.keyAndHash =
      questions.map SecurityQuestion.keyAndHash := by
  rw [questionRows, List.map_map]
  induction questions generalizing made with
  | nil => rfl
  | cons question rest ih =>
    rw [List.zipIdx_cons, List.map_cons, List.map_cons, ih]
    rfl

theorem questionRows_ids (made : Nat) (questions : List SecurityQuestion) :
    (questionRows ids made questions).map SecurityQuestion.id =
      (List.range' made questions.length).map ids.uuid := by
  rw [questionRows, List.map_map]
  induction questions generalizing made with
  | nil => rfl
  | cons question rest ih =>
    rw [List.zipIdx_cons, List.map_cons, ih, List.length_cons, List.range'_succ, List.map_cons]
    rfl

@[simp] theorem questionRows_eq_nil (made : Nat) (questions : List SecurityQuestion) :
    questionRows ids made questions = [] ↔ questions = [] := by
  simp [questionRows]

theorem securityQuestions_update :
    (toIUser (update ids rows recovery)).bind UserRecovery.security_questions =
      (recovery.security_questions.filter fun sqData => sqData.questions ≠ []).map fun sqData =>
        { sqData with
          questions := questionRows ids rows.questionsMade sqData.questions
          failed_attempts := some (sqData.failed_attempts.getD 0) } := by
  have loaded : (toIUser (update ids rows recovery)).bind UserRecovery.security_questions =
      securityQuestions (update ids rows recovery) := rfl
  rw [loaded, securityQuestions]
  cases isStored : recovery.security_questions with
  | none => simp [update, isStored, questionRows]
  | some sqData =>
    by_cases noneStored : sqData.questions = []
    · simp [update, isStored, noneStored, questionRows, Option.filter]
    · simp [update, isStored, noneStored, List.length_pos_iff, Option.filter]

theorem questionsView_update :
    questionsView (toIUser (update ids rows recovery)) = questionsView recovery := by
  rw [questionsView, questionsView, securityQuestions_update, Option.bind_some]
  cases recovery.security_questions with
  | none => rfl
  | some sqData =>
    by_cases noneStored : sqData.questions = []
    · simp [noneStored, Option.filter]
    · simp [noneStored, questionRows_keysAndHashes, Option.filter]

theorem questionIds_update : (questionIds (toIUser (update ids rows recovery))).Nodup := by
  rw [questionIds, storedQuestions, securityQuestions_update]
  cases recovery.security_questions.filter fun sqData => sqData.questions ≠ [] with
  | none => exact List.nodup_nil
  | some sqData =>
    simp only [Option.map_some, Option.getD_some, questionRows_ids]
    exact (List.nodup_range').map ids.distinct

end Prisma

structure RecoveryStore (Record : Type) where
  load : Record → Option UserRecovery
  save : UserRecovery → Record → Record

def mongooseRecords : RecoveryStore (Option UserRecovery) where
  load record := record
  save recovery _ := some (Mongoose.update recovery)

end ParakoId.Recovery
