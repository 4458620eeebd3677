import ParakoId.Library.InsertionMap
import ParakoId.Recovery.Lockout

/-!
Security questions: how `RecoveryUtils` sets them up, verifies a map of answers, and counts
the failures on the record of the questions themselves.
-/

namespace ParakoId.Recovery

open Text (utf16Length)

def SECURITY_QUESTIONS_MIN_ANSWER_LENGTH : Nat := 3
def SECURITY_QUESTIONS_MAX_ANSWER_LENGTH : Nat := 200
def SECURITY_QUESTIONS_MAX_ATTEMPTS : Nat := 3
def SECURITY_QUESTIONS_LOCKOUT_MINUTES : Nat := 15

def AVAILABLE_QUESTION_KEYS : List String :=
  ["q1", "q2", "q3", "q4", "q5", "q6", "q7", "q8", "q9", "q10"]

structure SecurityQuestion where
  id : String
  question_key : String
  answer_hash : String
  deriving DecidableEq

structure SecurityQuestions where
  questions : List SecurityQuestion
  setup_at : Option Nat
  last_used_at : Option Nat
  failed_attempts : Option Nat
  last_failed_at : Option Nat
  locked_until : Option Nat

structure SecondaryEmail where
  email : String
  verified : Bool
  verification_token : Option String
  verification_expires : Option Nat

structure UserRecovery extends RecoveryConfig where
  secondary_email : Option SecondaryEmail
  security_questions : Option SecurityQuestions

/-- What Unicode says of texts and characters: `toLowerCase`, `\p{L}` and `\p{N}`. -/
structure Unicode where
  toLowerCase : List Char → List Char
  isLetter : Char → Bool
  isNumber : Char → Bool

/-- `.replace(/\s+/g, ' ')`, inside of a run of spaces or not. -/
def collapseSpaces (inRun : Bool) : List Char → List Char
  | [] => []
  | letter :: rest =>
    if isSpace letter then
      if inRun then collapseSpaces true rest else ' ' :: collapseSpaces true rest
    else letter :: collapseSpaces false rest

def isAnswerCharacter (unicode : Unicode) (letter : Char) : Bool :=
  unicode.isLetter letter || unicode.isNumber letter || letter == '_' || isSpace letter

def normalizeSecurityAnswer (unicode : Unicode) (answer : String) : String :=
  if answer = "" then ""
  else
    let trimmed := ((unicode.toLowerCase answer.toList).dropWhile isSpace).rdropWhile isSpace
    String.ofList ((collapseSpaces false trimmed).filter (isAnswerCharacter unicode))

def genericAnswers : List String :=
  ["yes", "no", "maybe", "none", "na", "n/a", "idk", "unknown", "same", "nothing", "anything",
    "something"]

def validateSecurityAnswer (unicode : Unicode) (answer : String) : Except String String :=
  if answer = "" then .error "Answer is required"
  else
    let normalized := normalizeSecurityAnswer unicode answer
    if utf16Length normalized < SECURITY_QUESTIONS_MIN_ANSWER_LENGTH then
      .error ("Answer must be at least " ++ toString SECURITY_QUESTIONS_MIN_ANSWER_LENGTH ++
        " characters")
    else if utf16Length normalized > SECURITY_QUESTIONS_MAX_ANSWER_LENGTH then
      .error ("Answer must be less than " ++ toString SECURITY_QUESTIONS_MAX_ANSWER_LENGTH ++
        " characters")
    else if genericAnswers.contains normalized then
      .error "Please provide a more specific answer"
    else .ok normalized

/-- `none` where `verifyPassword` throws. -/
def verifySecurityAnswer (primitives : Primitives) (unicode : Unicode)
    (providedAnswer storedHash : String) : Option Bool :=
  if providedAnswer = "" ∨ storedHash = "" then some false
  else
    let normalized := normalizeSecurityAnswer unicode providedAnswer
    if normalized = "" then some false else primitives.verifyPassword normalized storedHash

structure SecurityQuestionInput where
  question_key : String
  answer : String

structure SetupRandomness where
  randomUUID : Nat → String
  hashPassword : Nat → String → String

inductive SetupFailure
  | invalid (error : String)
  | thrown (message : String)

def hashSecurityAnswer (unicode : Unicode) (hashPassword : String → String) (answer : String) :
    Except SetupFailure String :=
  let normalized := normalizeSecurityAnswer unicode answer
  if normalized = "" then .error (.thrown "Cannot hash empty answer")
  else .ok (hashPassword normalized)

def hashQuestions (unicode : Unicode) (randomness : SetupRandomness) :
    List SecurityQuestionInput → Nat → Except SetupFailure (List SecurityQuestion)
  | [], _ => .ok []
  | input :: rest, index =>
    match validateSecurityAnswer unicode input.answer with
    | .error error => .error (.invalid
        ("Invalid answer for question " ++ input.question_key ++ ": " ++ error))
    | .ok _ => do
        let answer_hash ←
          hashSecurityAnswer unicode (randomness.hashPassword index) input.answer
        let hashedQuestions ← hashQuestions unicode randomness rest (index + 1)
        return ⟨randomness.randomUUID index, input.question_key, answer_hash⟩ :: hashedQuestions

def setupSecurityQuestions (unicode : Unicode) (randomness : SetupRandomness)
    (questionsWithAnswers : List SecurityQuestionInput) :
    Except SetupFailure (List SecurityQuestion) :=
  if questionsWithAnswers = [] then
    .error (.invalid "At least one security question is required")
  else match questionsWithAnswers.find? fun input =>
      !AVAILABLE_QUESTION_KEYS.contains input.question_key with
    | some input => .error (.invalid ("Invalid question key: " ++ input.question_key))
    | none =>
      if ¬(questionsWithAnswers.map SecurityQuestionInput.question_key).Nodup then
        .error (.invalid "Duplicate questions are not allowed")
      else hashQuestions unicode randomness questionsWithAnswers 0

structure SecurityQuestionsVerificationResult where
  valid : Bool
  allCorrect : Option Bool
  incorrectCount : Option Nat
  error : Option String

def unanswered (error : String) : SecurityQuestionsVerificationResult :=
  { valid := false, allCorrect := none, incorrectCount := none, error := some error }

def countIncorrect (primitives : Primitives) (unicode : Unicode)
    (providedAnswers : InsertionMap String String) :
    List SecurityQuestion → Nat → Option (Except String Nat)
  | [], incorrectCount => some (.ok incorrectCount)
  | question :: rest, incorrectCount =>
    match truthy (providedAnswers.get question.id) with
    | none => some (.error ("Missing answer for question " ++ question.id))
    | some providedAnswer =>
      match verifySecurityAnswer primitives unicode providedAnswer question.answer_hash with
      | none => none
      | some isCorrect =>
        countIncorrect primitives unicode providedAnswers rest
          (if isCorrect then incorrectCount else incorrectCount + 1)

def storedQuestions (recovery : Option UserRecovery) : Option (List SecurityQuestion) :=
  (recovery.bind UserRecovery.security_questions).map SecurityQuestions.questions

/-- `none` where a verification throws. -/
def verifySecurityQuestions (primitives : Primitives) (unicode : Unicode)
    (recovery : Option UserRecovery) (providedAnswers : InsertionMap String String) :
    Option SecurityQuestionsVerificationResult :=
  match storedQuestions recovery with
  | none => some (unanswered "Security questions not configured")
  | some questions =>
    if providedAnswers.size ≠ questions.length then
      some (unanswered "All security questions must be answered")
    else match countIncorrect primitives unicode providedAnswers questions 0 with
      | none => none
      | some (.error error) => some (unanswered error)
      | some (.ok incorrectCount) =>
        if incorrectCount > 0 then
          some { valid := false, allCorrect := some false
                 incorrectCount := some incorrectCount
                 error := some (toString incorrectCount ++ " answer(s) are incorrect") }
        else some { valid := true, allCorrect := some true, incorrectCount := some 0
                    error := none }

def hasSecurityQuestions (recovery : Option UserRecovery) : Bool :=
  recovery.any fun user => user.enabled &&
    user.security_questions.any fun sqData => decide (sqData.questions.length > 0)

structure SecurityQuestionsLockoutResult where
  locked : Bool
  failedAttempts : Option Nat
  remainingAttempts : Nat
  lockedUntil : Option Nat
  minutesRemaining : Option Nat

def checkSecurityQuestionsLockout (recovery : Option UserRecovery) (now : Nat) :
    SecurityQuestionsLockoutResult :=
  match recovery.bind UserRecovery.security_questions with
  | none =>
    { locked := false, failedAttempts := some 0
      remainingAttempts := SECURITY_QUESTIONS_MAX_ATTEMPTS
      lockedUntil := none, minutesRemaining := none }
  | some sqData =>
    let failedAttempts := sqData.failed_attempts.getD 0
    let notLocked : SecurityQuestionsLockoutResult :=
      { locked := false, failedAttempts := some failedAttempts
        remainingAttempts := SECURITY_QUESTIONS_MAX_ATTEMPTS - failedAttempts
        lockedUntil := none, minutesRemaining := none }
    match sqData.locked_until with
    | none => notLocked
    | some lockedUntil =>
      if now < lockedUntil then
        { locked := true, failedAttempts := some failedAttempts, remainingAttempts := 0
          lockedUntil := some lockedUntil
          minutesRemaining := some ((lockedUntil - now + (1000 * 60 - 1)) / (1000 * 60)) }
      else notLocked

def noQuestions : SecurityQuestions :=
  { questions := [], setup_at := none, last_used_at := none, failed_attempts := some 0
    last_failed_at := none, locked_until := none }

def recordQuestionFailure (sqData : SecurityQuestions) (now : Nat) :
    SecurityQuestions × SecurityQuestionsLockoutResult :=
  let current := if sqData.locked_until.any (fun lockedUntil => decide (lockedUntil ≤ now)) then
      { sqData with failed_attempts := some 0, locked_until := none }
    else sqData
  let failedAttempts := current.failed_attempts.getD 0 + 1
  let failed := { current with
    failed_attempts := some failedAttempts, last_failed_at := some now }
  if failedAttempts ≥ SECURITY_QUESTIONS_MAX_ATTEMPTS then
    let lockedUntil := some (now + SECURITY_QUESTIONS_LOCKOUT_MINUTES * 60 * 1000)
    ({ failed with locked_until := lockedUntil },
      { locked := true, failedAttempts := none, remainingAttempts := 0, lockedUntil
        minutesRemaining := some SECURITY_QUESTIONS_LOCKOUT_MINUTES })
  else (failed,
    { locked := false, failedAttempts := none
      remainingAttempts := SECURITY_QUESTIONS_MAX_ATTEMPTS - failedAttempts
      lockedUntil := none, minutesRemaining := none })

def recordFailedSecurityQuestionAttempt (recovery : Option UserRecovery) (now : Nat) :
    UserRecovery × SecurityQuestionsLockoutResult :=
  let user := recovery.getD
    { enabled := false, methods := some [], lockout := none, last_recovered_at := none
      backup_codes := none, sms := none, secondary_email := none
      security_questions := some noQuestions }
  let (sqData, result) := recordQuestionFailure (user.security_questions.getD noQuestions) now
  ({ user with security_questions := some sqData }, result)

def clearSecurityQuestionsLockout (recovery : UserRecovery) (now : Nat) : UserRecovery :=
  { recovery with
    security_questions := recovery.security_questions.map fun sqData =>
      { sqData with
        failed_attempts := some 0, last_failed_at := none, locked_until := none
        last_used_at := some now } }

/-- After a recovery by an e-mailed code; `setLastRecoveredAt` makes a record if there is none. -/
def recoveredUser (user : Option UserRecovery) (now : Nat) : UserRecovery :=
  let stored := user.getD
    { enabled := false, methods := some [], lockout := none, last_recovered_at := none
      backup_codes := none, sms := none, secondary_email := none, security_questions := none }
  { stored with
    toRecoveryConfig := setLastRecoveredAt (clearRecoveryLockout stored.toRecoveryConfig) now }

def IsAnswered (primitives : Primitives) (unicode : Unicode)
    (providedAnswers : InsertionMap String String) (question : SecurityQuestion) : Prop :=
  ∃ answer, providedAnswers.get question.id = some answer ∧
    normalizeSecurityAnswer unicode answer ≠ "" ∧ question.answer_hash ≠ "" ∧
    primitives.verifyPassword (normalizeSecurityAnswer unicode answer) question.answer_hash =
      some true

@[simp] theorem normalize_empty (unicode : Unicode) : normalizeSecurityAnswer unicode "" = "" :=
  if_pos rfl

variable {primitives : Primitives} {unicode : Unicode}
  {providedAnswers : InsertionMap String String} {questions : List SecurityQuestion}

theorem verifySecurityAnswer_iff {answer storedHash : String} :
    verifySecurityAnswer primitives unicode answer storedHash = some true ↔
      normalizeSecurityAnswer unicode answer ≠ "" ∧ storedHash ≠ "" ∧
        primitives.verifyPassword (normalizeSecurityAnswer unicode answer) storedHash =
          some true := by
  by_cases isEmpty : answer = ""
  · simp [verifySecurityAnswer, isEmpty]
  · by_cases unhashed : storedHash = ""
    · simp [verifySecurityAnswer, unhashed]
    · by_cases blank : normalizeSecurityAnswer unicode answer = ""
      · simp [verifySecurityAnswer, isEmpty, unhashed, blank]
      · simp [verifySecurityAnswer, isEmpty, unhashed, blank]

theorem isAnswered_iff {question : SecurityQuestion} :
    IsAnswered primitives unicode providedAnswers question ↔
      ∃ answer, truthy (providedAnswers.get question.id) = some answer ∧
        verifySecurityAnswer primitives unicode answer question.answer_hash = some true := by
  simp only [verifySecurityAnswer_iff, truthy, Option.filter_eq_some_iff]
  constructor
  · rintro ⟨answer, provided, nonempty, hashed, verified⟩
    refine ⟨answer, ⟨provided, ?_⟩, nonempty, hashed, verified⟩
    apply decide_eq_true
    rintro rfl
    exact nonempty (normalize_empty unicode)
  · rintro ⟨answer, ⟨provided, _⟩, nonempty, hashed, verified⟩
    exact ⟨answer, provided, nonempty, hashed, verified⟩

theorem countIncorrect_none_iff {incorrectCount : Nat} :
    countIncorrect primitives unicode providedAnswers questions incorrectCount = some (.ok 0) ↔
      incorrectCount = 0 ∧
        ∀ question ∈ questions, IsAnswered primitives unicode providedAnswers question := by
  induction questions generalizing incorrectCount with
  | nil => simp [countIncorrect]
  | cons question rest ih =>
    rw [List.forall_mem_cons, isAnswered_iff]
    cases provided : truthy (providedAnswers.get question.id) with
    | none => simp [countIncorrect, provided]
    | some answer =>
      cases verified : verifySecurityAnswer primitives unicode answer question.answer_hash with
      | none => simp [countIncorrect, provided, verified]
      | some isCorrect =>
        cases isCorrect with
        | false | true => simp [countIncorrect, provided, verified, ih]

theorem verifySecurityQuestions_valid_iff {recovery : Option UserRecovery} :
    (∃ result, verifySecurityQuestions primitives unicode recovery providedAnswers = some result ∧
        result.valid = true) ↔
      ∃ questions, storedQuestions recovery = some questions ∧
        providedAnswers.size = questions.length ∧
        ∀ question ∈ questions, IsAnswered primitives unicode providedAnswers question := by
  rw [verifySecurityQuestions]
  cases stored : storedQuestions recovery with
  | none => simp [unanswered]
  | some questions =>
    by_cases sameSize : providedAnswers.size = questions.length
    · have ends := @countIncorrect_none_iff primitives unicode providedAnswers questions 0
      cases counted : countIncorrect primitives unicode providedAnswers questions 0 with
      | none => simp_all
      | some outcome =>
        cases outcome with
        | error error => simp_all [unanswered]
        | ok incorrectCount =>
          rcases Nat.eq_zero_or_pos incorrectCount with isZero | positive
          · simp_all
          · have notZero : incorrectCount ≠ 0 := by omega
            simp_all
    · simp [sameSize, unanswered]

@[simp] theorem recordQuestionFailure_questions (sqData : SecurityQuestions) (now : Nat) :
    (recordQuestionFailure sqData now).1.questions = sqData.questions := by
  simp only [recordQuestionFailure]
  split <;> split <;> rfl

theorem storedQuestions_recordFailed (recovery : Option UserRecovery) (now : Nat) :
    storedQuestions (some (recordFailedSecurityQuestionAttempt recovery now).1) =
      some ((storedQuestions recovery).getD []) := by
  cases recovery with
  | none => simp [storedQuestions, recordFailedSecurityQuestionAttempt, noQuestions]
  | some user =>
    cases isStored : user.security_questions with
    | none =>
      simp [storedQuestions, recordFailedSecurityQuestionAttempt, isStored, noQuestions]
    | some sqData => simp [storedQuestions, recordFailedSecurityQuestionAttempt, isStored]

@[simp] theorem storedQuestions_clear (recovery : UserRecovery) (now : Nat) :
    storedQuestions (some (clearSecurityQuestionsLockout recovery now)) =
      storedQuestions (some recovery) := by
  simp [storedQuestions, clearSecurityQuestionsLockout, Function.comp_def]

theorem hashQuestions_length {randomness : SetupRandomness} {inputs : List SecurityQuestionInput}
    {index : Nat} (hashed : hashQuestions unicode randomness inputs index = .ok questions) :
    questions.length = inputs.length := by
  induction inputs generalizing index questions with
  | nil =>
    simp only [hashQuestions, Except.ok.injEq] at hashed
    simp [← hashed]
  | cons input rest ih =>
    simp only [hashQuestions] at hashed
    split at hashed
    · cases hashed
    · cases isHashed : hashSecurityAnswer unicode (randomness.hashPassword index) input.answer with
      | error failed => simp [isHashed, bind, Except.bind] at hashed
      | ok answer_hash =>
        cases others : hashQuestions unicode randomness rest (index + 1) with
        | error failed => simp [isHashed, others, bind, Except.bind] at hashed
        | ok hashedQuestions =>
          simp only [isHashed, others, bind, Except.bind, pure, Except.pure,
            Except.ok.injEq] at hashed
          simp [← hashed, ih others]

theorem setupSecurityQuestions_nonempty {randomness : SetupRandomness}
    {inputs : List SecurityQuestionInput}
    (isSetUp : setupSecurityQuestions unicode randomness inputs = .ok questions) :
    questions ≠ [] := by
  rw [setupSecurityQuestions] at isSetUp
  split at isSetUp
  · cases isSetUp
  · rename_i nonempty
    split at isSetUp
    · cases isSetUp
    · split at isSetUp
      · cases isSetUp
      · have sameLength := hashQuestions_length isSetUp
        rintro rfl
        exact nonempty (List.length_eq_zero_iff.mp sameLength.symm)

end ParakoId.Recovery
