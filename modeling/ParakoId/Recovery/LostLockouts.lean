import ParakoId.Recovery.Persistence

/-! Where the two repositories come to the same decisions. -/

namespace ParakoId.Recovery

open Runs (AlwaysFrom AllowedFrom)

def isGiven (answers : List (String × String)) (keyAndHash : String × String) : Bool :=
  (truthy (answers.lookup keyAndHash.1)).isSome

section Answers

variable (answers : List (String × String))

variable {questions : List SecurityQuestion} {map : InsertionMap String String}

theorem answersMap_get_of_notMem {id : String} (absent : id ∉ questions.map SecurityQuestion.id) :
    (answersMap answers questions map).get id = map.get id := by
  induction questions generalizing map with
  | nil => rfl
  | cons question rest ih =>
    simp only [List.map_cons, List.mem_cons, not_or] at absent
    rw [answersMap, ih absent.2]
    split
    · rfl
    · exact InsertionMap.get_set_of_ne absent.1 _ _

theorem answersMap_get (differ : (questions.map SecurityQuestion.id).Nodup)
    (fresh : ∀ question ∈ questions, question.id ∉ map.keys) {question : SecurityQuestion}
    (member : question ∈ questions) :
    (answersMap answers questions map).get question.id =
      truthy (answers.lookup question.question_key) := by
  induction questions generalizing map with
  | nil => cases member
  | cons first rest ih =>
    rw [List.map_cons, List.nodup_cons] at differ
    rcases List.mem_cons.mp member with rfl | later
    · rw [answersMap, answersMap_get_of_notMem answers differ.1]
      split
      · rename_i notGiven
        rw [notGiven, InsertionMap.get_eq_none_iff]
        exact fresh question List.mem_cons_self
      · rename_i answer given
        rw [given, InsertionMap.get_set_self]
    · rw [answersMap]
      refine ih differ.2 ?_ later
      intro other isLater
      have notSet := fresh other (List.mem_cons_of_mem _ isLater)
      split
      · exact notSet
      · rw [InsertionMap.mem_keys_set, not_or]
        refine ⟨?_, notSet⟩
        intro same
        exact differ.1 (same ▸ List.mem_map_of_mem isLater)

theorem answersMap_size (differ : (questions.map SecurityQuestion.id).Nodup)
    (fresh : ∀ question ∈ questions, question.id ∉ map.keys) :
    (answersMap answers questions map).size =
      map.size + (questions.map SecurityQuestion.keyAndHash).countP (isGiven answers) := by
  induction questions generalizing map with
  | nil => rfl
  | cons first rest ih =>
    rw [List.map_cons, List.nodup_cons] at differ
    have laterFresh : ∀ question ∈ rest, question.id ∉ map.keys := fun question isLater =>
      fresh question (List.mem_cons_of_mem _ isLater)
    rw [answersMap, List.map_cons, List.countP_cons]
    cases given : truthy (answers.lookup first.question_key) with
    | none =>
      rw [ih differ.2 laterFresh]
      simp [isGiven, SecurityQuestion.keyAndHash, given]
    | some answer =>
      rw [ih differ.2, InsertionMap.size_set_of_notMem (fresh first List.mem_cons_self)]
      · simp [isGiven, SecurityQuestion.keyAndHash, given]
        omega
      · intro question isLater
        rw [InsertionMap.mem_keys_set, not_or]
        refine ⟨?_, laterFresh question isLater⟩
        intro same
        exact differ.1 (same ▸ List.mem_map_of_mem isLater)

theorem countIncorrect_congr (primitives : Primitives) (unicode : Unicode)
    {first second : InsertionMap String String} {left right : List SecurityQuestion}
    (same : left.map SecurityQuestion.keyAndHash = right.map SecurityQuestion.keyAndHash)
    (leftGet : ∀ question ∈ left,
      first.get question.id = truthy (answers.lookup question.question_key))
    (rightGet : ∀ question ∈ right,
      second.get question.id = truthy (answers.lookup question.question_key))
    (given : ∀ keyAndHash ∈ left.map SecurityQuestion.keyAndHash,
      isGiven answers keyAndHash = true) (incorrectCount : Nat) :
    countIncorrect primitives unicode first left incorrectCount =
      countIncorrect primitives unicode second right incorrectCount := by
  induction left generalizing right incorrectCount with
  | nil =>
    rw [List.map_nil, eq_comm, List.map_eq_nil_iff] at same
    rw [same]
    rfl
  | cons question rest ih =>
    cases right with
    | nil => cases same
    | cons other others =>
      rw [List.map_cons, List.map_cons, List.cons_eq_cons] at same
      simp only [SecurityQuestion.keyAndHash, Prod.mk.injEq] at same
      obtain ⟨⟨sameKey, sameHash⟩, sameRest⟩ := same
      have isFirst := leftGet question List.mem_cons_self
      have isSecond := rightGet other List.mem_cons_self
      have isGivenFirst := given _ List.mem_cons_self
      simp only [isGiven, SecurityQuestion.keyAndHash, Option.isSome_iff_exists] at isGivenFirst
      obtain ⟨answer, isAnswer⟩ := isGivenFirst
      rw [isAnswer] at isFirst
      rw [← sameKey, isAnswer] at isSecond
      have twice : truthy (some answer) = some answer := by
        rw [← isAnswer, truthy, truthy, Option.filter_filter]
        simp
      rw [countIncorrect, countIncorrect, isFirst, isSecond, twice, sameHash]
      simp only
      split
      · rfl
      · exact ih sameRest (fun later member => leftGet later (List.mem_cons_of_mem _ member))
          (fun later member => rightGet later (List.mem_cons_of_mem _ member))
          (fun later member => given later (List.mem_cons_of_mem _ member)) _

end Answers

section Views

variable {primitives : Primitives} {unicode : Unicode} {user other : Option UserRecovery}

theorem questionsView_none (notEmpty : storedQuestions user ≠ some [])
    (noView : questionsView user = none) : user.bind UserRecovery.security_questions = none := by
  rw [questionsView, Option.map_eq_none_iff] at noView
  cases isStored : user.bind UserRecovery.security_questions with
  | none => rfl
  | some sqData =>
    have nonempty : sqData.questions ≠ [] := by
      intro isEmpty
      apply notEmpty
      rw [storedQuestions, isStored, Option.map_some, isEmpty]
    rw [isStored, Option.filter_some_pos (by simpa using nonempty)] at noView
    cases noView

theorem questionsView_of_empty (noneStored : storedQuestions user = some []) :
    questionsView user = none := by
  obtain ⟨sqData, isStored, isEmpty⟩ := Option.map_eq_some_iff.mp noneStored
  rw [questionsView, isStored]
  simp [Option.filter, isEmpty]

theorem questionsView_some {view : QuestionsView} (isView : questionsView user = some view) :
    ∃ sqData, user.bind UserRecovery.security_questions = some sqData ∧ sqData.questions ≠ [] ∧
      sqData.questions.map SecurityQuestion.keyAndHash = view.keysAndHashes ∧
      sqData.failed_attempts.getD 0 = view.failedAttempts ∧
      sqData.locked_until = view.lockedUntil := by
  obtain ⟨sqData, isKept, rfl⟩ := Option.map_eq_some_iff.mp isView
  obtain ⟨isStored, nonempty⟩ := Option.filter_eq_some_iff.mp isKept
  exact ⟨sqData, isStored, by simpa using nonempty, rfl, rfl, rfl⟩

theorem questionsLocked_eq (notEmpty : storedQuestions user ≠ some []) (now : Nat) :
    (checkSecurityQuestionsLockout user now).locked =
      (questionsView user).any fun view =>
        view.lockedUntil.any fun lockedUntil => decide (now < lockedUntil) := by
  cases isView : questionsView user with
  | none => rw [checkSecurityQuestionsLockout, questionsView_none notEmpty isView]; rfl
  | some view =>
    obtain ⟨sqData, isStored, _, _, _, isUntil⟩ := questionsView_some isView
    rw [checkSecurityQuestionsLockout, isStored, Option.any_some, ← isUntil]
    cases isLock : sqData.locked_until with
    | none => simp [isLock]
    | some lockedUntil =>
      by_cases ahead : now < lockedUntil
      · simp [isLock, ahead]
      · simp [isLock, ahead]

variable (primitives unicode) in
theorem verifySecurityQuestions_congr (same : questionsView user = questionsView other)
    (notEmpty : storedQuestions user ≠ some []) (otherNotEmpty : storedQuestions other ≠ some [])
    (differ : (questionIds user).Nodup) (otherDiffer : (questionIds other).Nodup)
    (answers : List (String × String)) :
    verifySecurityQuestions primitives unicode user (answersTo answers user) =
      verifySecurityQuestions primitives unicode other (answersTo answers other) := by
  cases isView : questionsView user with
  | none =>
    have userNone := questionsView_none notEmpty isView
    have otherNone := questionsView_none otherNotEmpty (same ▸ isView)
    simp only [verifySecurityQuestions, storedQuestions, userNone, otherNone, Option.map_none]
  | some view =>
    obtain ⟨left, isLeft, _, leftKeys, _⟩ := questionsView_some isView
    obtain ⟨right, isRight, _, rightKeys, _⟩ := questionsView_some (same ▸ isView)
    simp only [questionIds, storedQuestions, isLeft, isRight, Option.map_some,
      Option.getD_some] at differ otherDiffer
    have none_set : ∀ questions : List SecurityQuestion, ∀ question ∈ questions,
        question.id ∉ (InsertionMap.empty : InsertionMap String String).keys := by
      intro questions question member
      exact List.not_mem_nil
    have sameKeys := leftKeys.trans rightKeys.symm
    have sameLength : left.questions.length = right.questions.length := by
      simpa using congrArg List.length sameKeys
    simp only [verifySecurityQuestions, answersTo, storedQuestions, isLeft, isRight,
      Option.map_some, Option.getD_some, answersMap_size answers differ (none_set _),
      answersMap_size answers otherDiffer (none_set _), ← sameKeys, ← sameLength,
      InsertionMap.size_empty, Nat.zero_add]
    by_cases allGiven : (left.questions.map SecurityQuestion.keyAndHash).countP
        (isGiven answers) = left.questions.length
    · have given : ∀ keyAndHash ∈ left.questions.map SecurityQuestion.keyAndHash,
          isGiven answers keyAndHash = true :=
        List.countP_eq_length.mp (by rw [allGiven, List.length_map])
      rw [countIncorrect_congr answers primitives unicode sameKeys
        (fun question member => answersMap_get answers differ (none_set _) member)
        (fun question member => answersMap_get answers otherDiffer (none_set _) member) given]
    · simp only [ne_eq, allGiven, not_false_eq_true, if_true]

end Views

section Failures

variable (user : Option UserRecovery) (now : Nat)

theorem codesOf_failedUser : codesOf (some (failedUser user now)) = codesOf user := by
  cases user <;> rfl

theorem codesOf_recordFailedQuestions :
    codesOf (some (recordFailedSecurityQuestionAttempt user now).1) = codesOf user := by
  cases user <;> rfl

theorem questionIds_recordFailedQuestions :
    questionIds (some (recordFailedSecurityQuestionAttempt user now).1) = questionIds user := by
  rw [questionIds, questionIds, storedQuestions_recordFailed]
  rfl

def QuestionsView.fail (view : QuestionsView) (now : Nat) : QuestionsView :=
  let expired := view.lockedUntil.any fun lockedUntil => decide (lockedUntil ≤ now)
  let failedAttempts := (if expired then 0 else view.failedAttempts) + 1
  { view with
    failedAttempts
    lockedUntil := if failedAttempts ≥ SECURITY_QUESTIONS_MAX_ATTEMPTS then
        some (now + SECURITY_QUESTIONS_LOCKOUT_MINUTES * 60 * 1000)
      else if expired then none else view.lockedUntil }

theorem recordQuestionFailure_fields (sqData : SecurityQuestions) :
    let expired := sqData.locked_until.any fun lockedUntil => decide (lockedUntil ≤ now)
    let failedAttempts := (if expired then 0 else sqData.failed_attempts.getD 0) + 1
    (recordQuestionFailure sqData now).1 =
      { sqData with
        failed_attempts := some failedAttempts
        last_failed_at := some now
        locked_until := if failedAttempts ≥ SECURITY_QUESTIONS_MAX_ATTEMPTS then
            some (now + SECURITY_QUESTIONS_LOCKOUT_MINUTES * 60 * 1000)
          else if expired then none else sqData.locked_until } := by
  intro expired failedAttempts
  simp only [recordQuestionFailure]
  cases isExpired : expired with
  | true =>
    simp only [expired] at isExpired
    simp only [failedAttempts, expired, isExpired, if_true, Option.getD_some]
    split <;> rfl
  | false =>
    simp only [expired] at isExpired
    simp only [failedAttempts, expired, isExpired, Bool.false_eq_true, if_false]
    split <;> rfl

theorem questionsView_recordFailedQuestions :
    questionsView (some (recordFailedSecurityQuestionAttempt user now).1) =
      (questionsView user).map fun view => view.fail now := by
  have recorded : (some (recordFailedSecurityQuestionAttempt user now).1).bind
      UserRecovery.security_questions = some (recordQuestionFailure
        ((user.bind UserRecovery.security_questions).getD noQuestions) now).1 := by
    cases user <;> rfl
  rw [questionsView, questionsView, recorded, recordQuestionFailure_fields]
  cases user.bind UserRecovery.security_questions with
  | none => rfl
  | some sqData =>
    by_cases isEmpty : sqData.questions = []
    · simp [isEmpty, Option.filter]
    · simp [isEmpty, Option.filter, QuestionsView.fail]

end Failures

theorem IsRight.of_noMore {primitives : Primitives} {unicode : Unicode}
    {user other : Option UserRecovery} {now : Nat} {attempt : RecoveryAttempt}
    (counted : attempt.isCounted = true) (noMore : NoMore (codesOf user) (codesOf other))
    (right : IsRight primitives unicode user now attempt) :
    IsRight primitives unicode other now attempt := by
  obtain ⟨sms, backupCodes⟩ := noMore
  simp only [codesOf] at sms backupCodes
  cases attempt with
  | backupCode code =>
    rcases backupCodes with noCodes | same
    · simp [IsRight, verifyUserBackupCode, noCodes, refused] at right
    · simpa only [IsRight, verifyUserBackupCode, same] using right
  | smsCode code =>
    obtain ⟨storedCode, expiresAt, pending, valid⟩ := right
    rcases sms with notPending | same
    · rw [notPending] at pending
      cases pending
    · exact ⟨storedCode, expiresAt, same ▸ pending, valid⟩
  | securityQuestions answers => cases counted

def DecidesAlike (primitives : Primitives) (unicode : Unicode) (state : Stores)
    (attempt : RecoveryAttempt) : Prop :=
  let decision user := (RecoveryService.attempt primitives unicode user state.now attempt).decision
  decision state.document = decision (Prisma.toIUser state.rows) ∧
    decision state.document ≠ .accepted

structure Alike (state : Stores) : Prop where
  mirrors : DocumentMirrors state
  notRecovered : state.recoveredAt = none
  codes : NoMore (codesOf (Prisma.toIUser state.rows)) (codesOf state.document)
  questions : questionsView state.document = questionsView (Prisma.toIUser state.rows)
  documentIds : (questionIds state.document).Nodup
  rowIds : (questionIds (Prisma.toIUser state.rows)).Nodup

section Steps

variable {primitives : Primitives} {unicode : Unicode} {state : Stores}

theorem prisma_open (rows : UserRows) (now : Nat) :
    (checkRecoveryLockout (recoveryConfig (Prisma.toIUser rows)) now).locked = false := by
  rw [checkRecoveryLockout, Prisma.lockoutOf_toIUser]

theorem counted_decisions (alike : Alike state) {attempt : RecoveryAttempt}
    (counted : attempt.isCounted = true) :
    LosesNothing primitives unicode state (.attempt attempt) ↔
      DecidesAlike primitives unicode state attempt := by
  have isOpen := prisma_open state.rows state.now
  simp only [LosesNothing, DecidesAlike, counted, if_true]
  cases locked : (checkRecoveryLockout (recoveryConfig state.document) state.now).locked with
  | true =>
    refine iff_of_false (by simp) ?_
    rw [counted_locked counted locked]
    rintro ⟨same, _⟩
    by_cases right : IsRight primitives unicode (Prisma.toIUser state.rows) state.now attempt
    · obtain ⟨saved, accepts, _⟩ := counted_right counted isOpen right
      rw [accepts] at same
      cases same
    · rcases counted_wrong counted isOpen right with refuses | fails
      · rw [refuses] at same
        cases same
      · rw [fails] at same
        cases same
  | false =>
    by_cases right : IsRight primitives unicode state.document state.now attempt
    · refine iff_of_false (by simp [right]) ?_
      obtain ⟨saved, accepts, _⟩ := counted_right counted locked right
      simp [accepts]
    · refine iff_of_true ⟨rfl, right⟩ ?_
      have wrong : ¬IsRight primitives unicode (Prisma.toIUser state.rows) state.now attempt :=
        fun prismaRight => right (prismaRight.of_noMore counted alike.codes)
      have mongoose := counted_wrong counted locked right
      have prisma := counted_wrong counted isOpen wrong
      rcases mongoose with mongoose | mongoose <;> rcases prisma with prisma | prisma <;>
        simp [mongoose, prisma]

theorem right_of_noQuestions {user : Option UserRecovery} {now : Nat}
    (noneStored : storedQuestions user = some []) (answers : List (String × String)) :
    IsRight primitives unicode user now (.securityQuestions answers) := by
  apply verifySecurityQuestions_valid_iff.mpr
  refine ⟨[], noneStored, ?_, by simp⟩
  rw [answersTo, noneStored]
  rfl

variable (primitives unicode) in
theorem isRight_questions_congr (alike : Alike state)
    (notEmpty : storedQuestions state.document ≠ some []) (answers : List (String × String)) :
    IsRight primitives unicode (Prisma.toIUser state.rows) state.now (.securityQuestions answers) ↔
      IsRight primitives unicode state.document state.now (.securityQuestions answers) := by
  rw [IsRight, IsRight, verifySecurityQuestions_congr primitives unicode alike.questions notEmpty
    (Prisma.storedQuestions_toIUser _) alike.documentIds alike.rowIds]

theorem questions_decisions (alike : Alike state) (answers : List (String × String)) :
    LosesNothing primitives unicode state (.attempt (.securityQuestions answers)) ↔
      DecidesAlike primitives unicode state (.securityQuestions answers) := by
  have prismaLocked := questionsLocked_eq (Prisma.storedQuestions_toIUser state.rows) state.now
  simp only [LosesNothing, DecidesAlike, RecoveryAttempt.isCounted, Bool.false_eq_true, if_false]
  by_cases noneStored : storedQuestions state.document = some []
  · refine iff_of_false (by simp [noneStored]) ?_
    rintro ⟨same, notAccepted⟩
    have noView : questionsView (Prisma.toIUser state.rows) = none := by
      rw [← alike.questions, questionsView_of_empty noneStored]
    have isOpen : (checkSecurityQuestionsLockout (Prisma.toIUser state.rows) state.now).locked =
        false := by rw [prismaLocked, noView, Option.any_none]
    have wrong : ¬IsRight primitives unicode (Prisma.toIUser state.rows) state.now
        (.securityQuestions answers) := by
      rintro ⟨result, verified, valid⟩
      have noQuestions := questionsView_none (Prisma.storedQuestions_toIUser _) noView
      simp only [verifySecurityQuestions, storedQuestions, noQuestions, Option.map_none,
        Option.some.injEq] at verified
      rw [← verified] at valid
      cases valid
    rw [questions_wrong isOpen wrong] at same
    cases locked : (checkSecurityQuestionsLockout state.document state.now).locked with
    | true =>
      rw [questions_locked locked] at same
      cases same
    | false =>
      have right : IsRight primitives unicode state.document state.now
        (.securityQuestions answers) := right_of_noQuestions noneStored answers
      obtain ⟨saved, accepts, _⟩ := questions_right locked right
      rw [accepts] at notAccepted
      exact notAccepted rfl
  · have sameLocks := questionsLocked_eq noneStored state.now
    rw [alike.questions, ← prismaLocked] at sameLocks
    have sameRight := isRight_questions_congr primitives unicode alike noneStored answers
    cases locked : (checkSecurityQuestionsLockout state.document state.now).locked with
    | true =>
      refine iff_of_true ⟨noneStored, .inl rfl⟩ ?_
      rw [questions_locked locked, questions_locked (sameLocks ▸ locked)]
      simp
    | false =>
      have isOpen := sameLocks ▸ locked
      by_cases right : IsRight primitives unicode state.document state.now
        (.securityQuestions answers)
      · refine iff_of_false (by simp [right]) ?_
        obtain ⟨saved, accepts, _⟩ := questions_right locked right
        simp [accepts]
      · refine iff_of_true ⟨noneStored, .inr right⟩ ?_
        rw [questions_wrong locked right, questions_wrong isOpen (mt sameRight.mp right)]
        simp

theorem decisions_iff (alike : Alike state) (attempt : RecoveryAttempt) :
    LosesNothing primitives unicode state (.attempt attempt) ↔
      DecidesAlike primitives unicode state attempt := by
  cases attempt with
  | backupCode _ | smsCode _ => exact counted_decisions alike rfl
  | securityQuestions answers => exact questions_decisions alike answers

theorem NoMore.refl (codes : Option (String × Date) × Option BackupCodes) : NoMore codes codes :=
  ⟨.inr rfl, .inr rfl⟩

theorem document_failed {document : Option UserRecovery} {now : Nat} {outcome : Outcome}
    (kept : outcome = ⟨.rejected, none⟩ ∨
      outcome = ⟨.rejected, some (failedUser document now)⟩) :
    codesOf ((outcome.saved.map Mongoose.update).or document) = codesOf document ∧
      questionsView ((outcome.saved.map Mongoose.update).or document) =
        questionsView document ∧
      questionIds ((outcome.saved.map Mongoose.update).or document) = questionIds document := by
  rcases kept with rfl | rfl
  · exact ⟨rfl, rfl, rfl⟩
  · exact ⟨codesOf_failedUser document now, rfl, rfl⟩

theorem rows_failed (ids : RowIds) {rows : UserRows} {now : Nat} {outcome : Outcome}
    (kept : outcome = ⟨.rejected, none⟩ ∨
      outcome = ⟨.rejected, some (failedUser (Prisma.toIUser rows) now)⟩)
    (differ : (questionIds (Prisma.toIUser rows)).Nodup) :
    let next := Prisma.toIUser ((outcome.saved.map (Prisma.update ids rows)).getD rows)
    NoMore (codesOf next) (codesOf (Prisma.toIUser rows)) ∧
      questionsView next = questionsView (Prisma.toIUser rows) ∧ (questionIds next).Nodup := by
  rcases kept with rfl | rfl
  · exact ⟨.refl _, rfl, differ⟩
  · have codes := Prisma.codesOf_update ids rows (failedUser (Prisma.toIUser rows) now)
    rw [codesOf_failedUser] at codes
    exact ⟨codes, Prisma.questionsView_update ids rows _, Prisma.questionIds_update ids rows _⟩

variable (primitives unicode) in
theorem counted_alike (ids : RowIds) (alike : Alike state) {attempt : RecoveryAttempt}
    (counted : attempt.isCounted = true)
    (loses : LosesNothing primitives unicode state (.attempt attempt)) :
    Alike (storesStep primitives unicode ids state (.attempt attempt)) := by
  have decided := (decisions_iff alike attempt).mp loses
  simp only [LosesNothing, counted, if_true] at loses
  have isOpen := prisma_open state.rows state.now
  have wrong : ¬IsRight primitives unicode (Prisma.toIUser state.rows) state.now attempt :=
    fun right => loses.2 (right.of_noMore counted alike.codes)
  obtain ⟨documentCodes, documentView, documentIds⟩ :=
    document_failed (counted_wrong counted loses.1 loses.2)
  obtain ⟨rowCodes, rowView, rowIds⟩ :=
    rows_failed ids (counted_wrong counted isOpen wrong) alike.rowIds
  exact
    { mirrors := storesStep_mirrors primitives unicode ids state _ alike.mirrors
      notRecovered := by simp only [storesStep, if_neg decided.2, alike.notRecovered]
      codes := by
        simp only [storesStep, documentCodes]
        exact rowCodes.trans alike.codes
      questions := by simp only [storesStep, documentView, rowView, alike.questions]
      documentIds := by simp only [storesStep, documentIds, alike.documentIds]
      rowIds := rowIds }

variable (primitives unicode) in
theorem Alike.unsaved (ids : RowIds) (alike : Alike state) {attempt : RecoveryAttempt}
    (loses : LosesNothing primitives unicode state (.attempt attempt))
    (documentUnsaved : (RecoveryService.attempt primitives unicode state.document state.now
      attempt).saved = none)
    (rowsUnsaved : (RecoveryService.attempt primitives unicode (Prisma.toIUser state.rows)
      state.now attempt).saved = none) :
    Alike (storesStep primitives unicode ids state (.attempt attempt)) := by
  have decided := (decisions_iff alike attempt).mp loses
  have isDocument : (storesStep primitives unicode ids state (.attempt attempt)).document =
      state.document := by
    simp only [storesStep, documentUnsaved, Option.map_none, Option.none_or]
  have isRows : (storesStep primitives unicode ids state (.attempt attempt)).rows =
      state.rows := by
    simp only [storesStep, rowsUnsaved, Option.map_none, Option.getD_none]
  refine ⟨storesStep_mirrors primitives unicode ids state _ alike.mirrors, ?_, ?_, ?_, ?_, ?_⟩
  · simp only [storesStep, if_neg decided.2, alike.notRecovered]
  · rw [isDocument, isRows]
    exact alike.codes
  · rw [isDocument, isRows]
    exact alike.questions
  · rw [isDocument]
    exact alike.documentIds
  · rw [isRows]
    exact alike.rowIds

variable (primitives unicode) in
theorem questions_alike (ids : RowIds) (alike : Alike state) (answers : List (String × String))
    (lossless : LosesNothing primitives unicode state (.attempt (.securityQuestions answers))) :
    Alike (storesStep primitives unicode ids state (.attempt (.securityQuestions answers))) := by
  have decided := (decisions_iff alike (.securityQuestions answers)).mp lossless
  have mirrors := storesStep_mirrors primitives unicode ids state
    (.attempt (.securityQuestions answers)) alike.mirrors
  have notRecovered : (storesStep primitives unicode ids state
      (.attempt (.securityQuestions answers))).recoveredAt = none := by
    simp only [storesStep, if_neg decided.2, alike.notRecovered]
  have loses := lossless
  simp only [LosesNothing, RecoveryAttempt.isCounted, Bool.false_eq_true, if_false] at loses
  have sameLocks := questionsLocked_eq loses.1 state.now
  rw [alike.questions, ← questionsLocked_eq (Prisma.storedQuestions_toIUser state.rows)] at sameLocks
  cases locked : (checkSecurityQuestionsLockout state.document state.now).locked with
  | true =>
    apply alike.unsaved primitives unicode ids lossless
    · rw [questions_locked locked]
    · rw [questions_locked (sameLocks ▸ locked)]
  | false =>
    have isOpen := sameLocks ▸ locked
    have wrong := loses.2.resolve_left (by simp [locked])
    have sameRight := isRight_questions_congr primitives unicode alike loses.1 answers
    have document := questions_wrong locked wrong
    have rows := questions_wrong isOpen (mt sameRight.mp wrong)
    have same := verifySecurityQuestions_congr primitives unicode alike.questions loses.1
      (Prisma.storedQuestions_toIUser _) alike.documentIds
      alike.rowIds answers
    rw [← same] at rows
    cases verified : verifySecurityQuestions primitives unicode state.document
        (answersTo answers state.document) with
    | none =>
      apply alike.unsaved primitives unicode ids lossless
      · rw [document, verified, Option.map_none]
      · rw [rows, verified, Option.map_none]
    | some result =>
      rw [verified, Option.map_some] at document rows
      refine ⟨mirrors, notRecovered, ?_, ?_, ?_, ?_⟩
      · simp only [storesStep, document, rows, Option.map_some, Option.getD_some,
          Option.some_or, mongoose_codes, codesOf_recordFailedQuestions]
        refine NoMore.trans (Prisma.codesOf_update ids state.rows _) ?_
        rw [codesOf_recordFailedQuestions]
        exact alike.codes
      · simp only [storesStep, document, rows, Option.map_some, Option.getD_some,
          Option.some_or, mongoose_view, Prisma.questionsView_update,
          questionsView_recordFailedQuestions, alike.questions]
      · simp only [storesStep, document, Option.map_some, Option.some_or]
        rw [questionIds, mongoose_questions, ← questionIds,
          questionIds_recordFailedQuestions]
        exact alike.documentIds
      · simp only [storesStep, rows, Option.map_some, Option.getD_some]
        exact Prisma.questionIds_update ids state.rows _

end Steps

section Runs

variable (primitives : Primitives) (unicode : Unicode) (ids : RowIds)

theorem storesStep_alike (state : Stores) (event : StoresEvent) (alike : Alike state)
    (loses : LosesNothing primitives unicode state event) :
    Alike (storesStep primitives unicode ids state event) := by
  cases event with
  | wait milliseconds =>
    exact ⟨storesStep_mirrors primitives unicode ids state _ alike.mirrors, alike.notRecovered,
      alike.codes, alike.questions, alike.documentIds, alike.rowIds⟩
  | attempt attempt =>
    cases attempt with
    | backupCode _ | smsCode _ => exact counted_alike primitives unicode ids alike rfl loses
    | securityQuestions answers => exact questions_alike primitives unicode ids alike answers loses

theorem storesStep_survives (state : Stores) (event : StoresEvent) (alike : Alike state)
    (survives : SurvivesPersistence state) :
    SurvivesPersistence (storesStep primitives unicode ids state event) ↔
      LosesNothing primitives unicode state event := by
  have mirrors := storesStep_mirrors primitives unicode ids state event alike.mirrors
  constructor
  · intro survivesNext
    cases event with
    | wait milliseconds => trivial
    | attempt attempt =>
      rw [decisions_iff alike]
      refine ⟨survivesNext.sameDecisions _ List.mem_cons_self, ?_⟩
      intro accepted
      have cooldown := survivesNext.prisma.coolsDown state.now (if_pos accepted)
        (Nat.lt_add_of_pos_right (by decide))
      rw [Prisma.isInRecoveryCooldown_toIUser] at cooldown
      cases cooldown
  · intro loses
    have alikeNext := storesStep_alike primitives unicode ids state event alike loses
    have sameDecisions : ∀ attempted ∈ (storesStep primitives unicode ids state event).attempts,
        attempted.mongoose = attempted.prisma := by
      cases event with
      | wait milliseconds => exact survives.sameDecisions
      | attempt attempt =>
        intro attempted member
        rcases List.mem_cons.mp member with rfl | earlier
        · exact ((decisions_iff alike attempt).mp loses).1
        · exact survives.sameDecisions attempted earlier
    refine ⟨sameDecisions, mirrors.kept, ?_, ?_⟩
    · intro attempted member underLock
      rw [← sameDecisions attempted member]
      exact mirrors.locks attempted member underLock
    · intro recoveredAt isRecovered
      rw [alikeNext.notRecovered] at isRecovered
      cases isRecovered

structure StorableUser where
  recovery : Option UserRecovery
  idsDiffer : (questionIds recovery).Nodup

theorem storedUser_alike (user : StorableUser) (now : Nat) :
    Alike (storedUser ids user.recovery now) := by
  obtain ⟨recovery, idsDiffer⟩ := user
  refine ⟨storedUser_mirrors ids recovery now, rfl, ?_, ?_, ?_, ?_⟩
  · cases recovery with
    | none => exact .refl _
    | some stored => exact Prisma.codesOf_update ids Prisma.noRows stored
  · cases recovery with
    | none => rfl
    | some stored => exact (Prisma.questionsView_update ids Prisma.noRows stored).symm
  · cases recovery <;> exact idsDiffer
  · cases recovery with
    | none => exact List.nodup_nil
    | some stored => exact Prisma.questionIds_update ids Prisma.noRows stored

/-- The lockout and the cooldown survive a run behind both repositories, with the same
decisions, exactly where no step of it loses anything. -/
theorem lockout_survives_iff (user : StorableUser) (now : Nat) (events : List StoresEvent) :
    AlwaysFrom (storesStep primitives unicode ids) SurvivesPersistence
        (storedUser ids user.recovery now) events ↔
      AllowedFrom (storesStep primitives unicode ids) (LosesNothing primitives unicode)
        (storedUser ids user.recovery now) events := by
  apply Runs.always_iff_allowed_within
  · intro state event alike _ lossless
    exact storesStep_alike primitives unicode ids state event alike lossless
  · exact storesStep_survives primitives unicode ids
  · exact storedUser_alike ids user now
  · refine ⟨?_, (storedUser_mirrors ids user.recovery now).kept, ?_, ?_⟩
    · intro attempted member
      cases member
    · intro attempted member
      cases member
    · intro recoveredAt isRecovered
      cases isRecovered

end Runs

def unaryIds : RowIds where
  uuid number := String.ofList (List.replicate number 'a')
  distinct := by
    intro first second same
    simpa using congrArg String.length same

theorem prisma_forgets_lockout :
    ¬∀ primitives unicode ids (user : StorableUser) now events,
      AlwaysFrom (storesStep primitives unicode ids) SurvivesPersistence
        (storedUser ids user.recovery now) events := by
  intro always
  have survives := (always ⟨fun _ _ => some false, id⟩ ⟨id, fun _ => true, fun _ => true⟩
    unaryIds ⟨none, List.nodup_nil⟩ 0
    (List.replicate 6 (.attempt (.backupCode "1234-5678")))).final
  have last : (Runs.run (storesStep ⟨fun _ _ => some false, id⟩
      ⟨id, fun _ => true, fun _ => true⟩ unaryIds) (storedUser unaryIds none 0)
      (List.replicate 6 (.attempt (.backupCode "1234-5678")))).attempts.head? =
        some ⟨true, .locked, .rejected⟩ := by decide +kernel
  have same := survives.sameDecisions _ (List.mem_of_head? last)
  cases same

end ParakoId.Recovery
