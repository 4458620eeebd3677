import ParakoId.Recovery.Requests
import ParakoId.Recovery.SecurityQuestions

/-!
Calls of `RecoveryService` about the security questions of one user, over a repository that
stores the `recovery` object as it is given.
-/

namespace ParakoId.Recovery

open Runs (AlwaysFrom AllowedFrom)

def RecoveryService.verifySecurityQuestions (primitives : Primitives) (unicode : Unicode)
    (user : Option UserRecovery) (answers : InsertionMap String String) (now : Nat) :
    RecoveryCompletionResult × Option UserRecovery :=
  let lockoutResult := checkSecurityQuestionsLockout user now
  if lockoutResult.locked then
    (failure ("Too many failed attempts. Try again in " ++
      toString (lockoutResult.minutesRemaining.getD 0) ++ " minutes."), none)
  else match Recovery.verifySecurityQuestions primitives unicode user answers with
    | none => (failure "An error occurred during verification", none)
    | some result =>
      if !result.valid then
        (failure ((truthy result.error).getD "Security question verification failed"),
          some (recordFailedSecurityQuestionAttempt user now).1)
      else
        -- a valid result has found questions in the record
        (completed .security_questions none, user.map fun recovery =>
          let cleared := clearSecurityQuestionsLockout recovery now
          { cleared with
            toRecoveryConfig := setLastRecoveredAt cleared.toRecoveryConfig now
            security_questions := cleared.security_questions.map fun sqData =>
              { sqData with last_used_at := some now } })

def withQuestions (user : Option UserRecovery) (questions : List SecurityQuestion) (now : Nat) :
    UserRecovery :=
  let recovery := user.getD
    { enabled := true, methods := none, lockout := none, last_recovered_at := none
      backup_codes := none, sms := none, secondary_email := none, security_questions := none }
  { recovery with
    methods := some (recovery.methods.getD [])
    enabled := true
    security_questions := some
      { questions, setup_at := some now, last_used_at := none, failed_attempts := none
        last_failed_at := none, locked_until := none } }

structure SetupResponse where
  success : Bool
  error : Option String

def RecoveryService.setupSecurityQuestions (unicode : Unicode) (randomness : SetupRandomness)
    (user : Option UserRecovery) (questionsWithAnswers : List SecurityQuestionInput)
    (now : Nat) : SetupResponse × Option UserRecovery :=
  match Recovery.setupSecurityQuestions unicode randomness questionsWithAnswers with
  | .error (.invalid error) => (⟨false, some error⟩, none)
  | .error (.thrown _) => (⟨false, some "Failed to set up security questions"⟩, none)
  | .ok questions => (⟨true, none⟩, some (withQuestions user questions now))

structure Verification where
  setUp : Option (List SecurityQuestion)
  answers : InsertionMap String String
  success : Bool

structure QuestionState where
  stored : Option UserRecovery
  now : Nat
  setUp : Option (List SecurityQuestion)
  verifications : List Verification

inductive QuestionEvent
  | wait (milliseconds : Nat)
  | setUp (questionsWithAnswers : List SecurityQuestionInput) (randomness : SetupRandomness)
  | verify (answers : InsertionMap String String)

def QuestionState.save (state : QuestionState) (saved : Option UserRecovery) : QuestionState :=
  { state with stored := saved.or state.stored }

def questionStep (primitives : Primitives) (unicode : Unicode) (state : QuestionState) :
    QuestionEvent → QuestionState
  | .wait milliseconds => { state with now := state.now + milliseconds }
  | .setUp questionsWithAnswers randomness =>
    let (_, saved) := RecoveryService.setupSecurityQuestions unicode randomness state.stored
      questionsWithAnswers state.now
    { state.save saved with setUp := (storedQuestions saved).or state.setUp }
  | .verify answers =>
    let (result, saved) := RecoveryService.verifySecurityQuestions primitives unicode
      state.stored answers state.now
    { state.save saved with
      verifications := ⟨state.setUp, answers, result.success⟩ :: state.verifications }

def foundUser (recovery : Option UserRecovery) (now : Nat) : QuestionState :=
  { stored := recovery, now
    setUp := (storedQuestions recovery).filter fun questions => questions ≠ []
    verifications := [] }

def Verification.Genuine (primitives : Primitives) (unicode : Unicode)
    (verification : Verification) : Prop :=
  ∃ questions, verification.setUp = some questions ∧ questions ≠ [] ∧
    ∀ question ∈ questions, IsAnswered primitives unicode verification.answers question

def OnlyRealAnswers (primitives : Primitives) (unicode : Unicode) (state : QuestionState) : Prop :=
  ∀ verification ∈ state.verifications, verification.success = true →
    verification.Genuine primitives unicode

def AsksSomething (state : QuestionState) : QuestionEvent → Prop
  | .verify answers =>
    storedQuestions state.stored = some [] → answers.size = 0 →
      (checkSecurityQuestionsLockout state.stored state.now).locked = true
  | _ => True

def Tracks (state : QuestionState) : Prop :=
  (storedQuestions state.stored).filter (fun questions => questions ≠ []) = state.setUp

section Calls

variable {primitives : Primitives} {unicode : Unicode}

theorem verify_success_iff {user : Option UserRecovery} {answers : InsertionMap String String}
    {now : Nat} :
    (RecoveryService.verifySecurityQuestions primitives unicode user answers now).1.success =
        true ↔
      (checkSecurityQuestionsLockout user now).locked = false ∧
        ∃ questions, storedQuestions user = some questions ∧
          answers.size = questions.length ∧
          ∀ question ∈ questions, IsAnswered primitives unicode answers question := by
  rw [← verifySecurityQuestions_valid_iff, RecoveryService.verifySecurityQuestions]
  cases locked : (checkSecurityQuestionsLockout user now).locked with
  | true => simp [failure]
  | false =>
    cases verified : Recovery.verifySecurityQuestions primitives unicode user answers with
    | none => simp [failure]
    | some result =>
      cases valid : result.valid with
      | false => simp [valid, failure]
      | true => simp [valid, completed]

theorem verify_questions {user : Option UserRecovery} {answers : InsertionMap String String}
    {now : Nat} {saved : UserRecovery}
    (isSaved : (RecoveryService.verifySecurityQuestions primitives unicode user answers now).2 =
      some saved) :
    storedQuestions (some saved) = some ((storedQuestions user).getD []) := by
  rw [RecoveryService.verifySecurityQuestions] at isSaved
  split at isSaved
  · cases isSaved
  · split at isSaved
    · cases isSaved
    · rename_i result verified
      split at isSaved
      · cases isSaved
        exact storedQuestions_recordFailed user now
      · rename_i valid
        obtain ⟨questions, found, _⟩ := verifySecurityQuestions_valid_iff.mp
          ⟨result, verified, by simpa using valid⟩
        obtain ⟨recovery, rfl, rfl⟩ := Option.map_eq_some_iff.mp isSaved
        have cleared := storedQuestions_clear recovery now
        simp only [storedQuestions, Option.bind_some, Option.map_map, Function.comp_def]
          at cleared ⊢
        rw [cleared]
        simp only [storedQuestions, Option.bind_some] at found
        simp [found]

theorem setup_questions {user : Option UserRecovery} {randomness : SetupRandomness}
    {inputs : List SecurityQuestionInput} {now : Nat} {saved : UserRecovery}
    (isSaved : (RecoveryService.setupSecurityQuestions unicode randomness user inputs now).2 =
      some saved) :
    ∃ questions, storedQuestions (some saved) = some questions ∧ questions ≠ [] := by
  rw [RecoveryService.setupSecurityQuestions] at isSaved
  split at isSaved
  · cases isSaved
  · cases isSaved
  · rename_i questions isSetUp
    cases isSaved
    exact ⟨questions, rfl, setupSecurityQuestions_nonempty isSetUp⟩

end Calls

section Runs

variable (primitives : Primitives) (unicode : Unicode)

theorem questionStep_tracks (state : QuestionState) (event : QuestionEvent)
    (tracks : Tracks state) : Tracks (questionStep primitives unicode state event) := by
  cases event with
  | wait milliseconds => exact tracks
  | setUp inputs randomness =>
    simp only [Tracks, questionStep, QuestionState.save]
    cases isSaved : (RecoveryService.setupSecurityQuestions unicode randomness state.stored
        inputs state.now).2 with
    | none => exact tracks
    | some saved =>
      obtain ⟨questions, stored, nonempty⟩ := setup_questions isSaved
      simp [stored, nonempty]
  | verify answers =>
    simp only [Tracks, questionStep, QuestionState.save]
    cases isSaved : (RecoveryService.verifySecurityQuestions primitives unicode state.stored
        answers state.now).2 with
    | none => exact tracks
    | some saved =>
      rw [Option.some_or, verify_questions isSaved, ← tracks]
      cases storedQuestions state.stored <;> simp

theorem questionStep_realAnswers (state : QuestionState) (event : QuestionEvent)
    (tracks : Tracks state) (real : OnlyRealAnswers primitives unicode state) :
    OnlyRealAnswers primitives unicode (questionStep primitives unicode state event) ↔
      AsksSomething state event := by
  cases event with
  | wait _ | setUp _ _ => exact iff_of_true real trivial
  | verify answers =>
    simp only [OnlyRealAnswers, questionStep, List.forall_mem_cons, AsksSomething,
      verify_success_iff]
    constructor
    · rintro ⟨genuine, _⟩ noneStored noneGiven
      by_contra isOpen
      obtain ⟨questions, isSetUp, nonempty, _⟩ := genuine
        ⟨by simpa using isOpen, [], noneStored, noneGiven, by simp⟩
      rw [← tracks, noneStored] at isSetUp
      simp at isSetUp
    · intro asks
      refine ⟨?_, real⟩
      rintro ⟨isOpen, questions, stored, sameSize, answered⟩
      have nonempty : questions ≠ [] := by
        rintro rfl
        have locked := asks stored sameSize
        rw [isOpen] at locked
        cases locked
      refine ⟨questions, ?_, nonempty, answered⟩
      rw [← tracks, stored]
      simp [nonempty]

/-- In a run of calls, every success is one of real answers exactly where no call meets an
empty list of questions with an empty map. -/
theorem security_questions_answered_iff (recovery : Option UserRecovery) (now : Nat)
    (events : List QuestionEvent) :
    AlwaysFrom (questionStep primitives unicode) (OnlyRealAnswers primitives unicode)
        (foundUser recovery now) events ↔
      AllowedFrom (questionStep primitives unicode) AsksSomething (foundUser recovery now)
        events := by
  apply Runs.always_iff_allowed
  · exact questionStep_tracks primitives unicode
  · exact questionStep_realAnswers primitives unicode
  · rfl
  · simp [OnlyRealAnswers, foundUser]

end Runs

theorem empty_map_accepted :
    ¬∀ primitives unicode recovery now events,
      AlwaysFrom (questionStep primitives unicode) (OnlyRealAnswers primitives unicode)
        (foundUser recovery now) events := by
  intro always
  have real := (always ⟨fun _ _ => some false, id⟩ ⟨id, fun _ => true, fun _ => true⟩ none 0
    [.verify .empty, .verify .empty]).final
  obtain ⟨questions, isSetUp, _⟩ := real ⟨none, .empty, true⟩ List.mem_cons_self rfl
  cases isSetUp

end ParakoId.Recovery
