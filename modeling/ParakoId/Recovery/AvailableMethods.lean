import ParakoId.Library.Schemas
import ParakoId.Recovery.Persistence

/-! The pages of account recovery, in one browser session. -/

namespace ParakoId.Recovery

open Runs (AlwaysFrom AllowedFrom)

structure RecoveryOffer where
  enabled : Bool
  backup_codes : Bool
  secondary_email : Bool
  sms : Bool
  security_questions : Bool
  smsChannel : Bool

def RecoveryOffer.enables (config : RecoveryOffer) (method : RecoveryMethod) : Bool :=
  config.enabled && match method with
    | .backup_codes => config.backup_codes
    | .secondary_email => config.secondary_email
    | .sms => config.sms
    | .security_questions => config.security_questions

structure RecoverableUser (Record : Type) where
  record : Record
  phone_number : Option String
  phone_number_verified : Bool

def hasBackupCodes (recovery : Option UserRecovery) : Bool :=
  (recovery.bind fun recovery => recovery.backup_codes).any fun backupCodes =>
    backupCodes.codes ≠ []

def hasUsableBackupCodes (recovery : Option UserRecovery) (now : Nat) : Bool :=
  (recovery.bind fun recovery => recovery.backup_codes).any fun backupCodes =>
    backupCodes.codes ≠ [] && !areBackupCodesExpired backupCodes now

def hasSecondaryEmail (recovery : Option UserRecovery) : Bool :=
  (recovery.bind UserRecovery.secondary_email).any fun secondaryEmail =>
    secondaryEmail.email ≠ "" && secondaryEmail.verified

def hasPhone (phoneNumber : Option String) : Bool := (truthy phoneNumber).isSome

def hasSetUp (recovery : Option UserRecovery) (phoneNumber : Option String) :
    RecoveryMethod → Bool
  | .backup_codes => hasBackupCodes recovery
  | .secondary_email => hasSecondaryEmail recovery
  | .sms => hasPhone phoneNumber
  | .security_questions => hasSecurityQuestions recovery

/-- `getAvailableMethods`, those that are available only, in the order of `methodPriority`. -/
def getAvailableMethods (config : RecoveryOffer) (recovery : Option UserRecovery)
    (phoneNumber : Option String) (now : Nat) : List RecoveryMethod :=
  [RecoveryMethod.backup_codes, .secondary_email, .security_questions, .sms].filter fun
    | .backup_codes => config.backup_codes && hasUsableBackupCodes recovery now
    | .secondary_email => config.secondary_email && hasSecondaryEmail recovery
    | .security_questions => config.security_questions && hasSecurityQuestions recovery
    | .sms => config.smsChannel && hasPhone phoneNumber

structure SessionAttempt where
  userId : String
  availableMethods : List RecoveryMethod
  method : Option RecoveryMethod
  smsSent : Bool

structure EmailedCode where
  userId : String
  code : String
  expiresAt : Nat

structure AcceptedProof where
  userId : String
  method : RecoveryMethod
  enabled : Bool
  setUp : Bool
  deriving DecidableEq

structure SentCode where
  userId : String
  verified : Bool
  deriving DecidableEq

structure FlowRecord where
  proofs : List AcceptedProof
  sent : List SentCode
  recovered : List String
  deriving DecidableEq

structure FlowState (Record : Type) where
  users : String → Option (RecoverableUser Record)
  config : RecoveryOffer
  now : Nat
  attempt : Option SessionAttempt
  verification : Option EmailedCode
  record : FlowRecord

inductive FlowEvent (Record : Type)
  | wait (milliseconds : Nat)
  | configure (config : RecoveryOffer)
  | changeUser (userId : String) (user : Option (RecoverableUser Record))
  | start (found : Option String)
  | selectMethod (method : RecoveryMethod)
  | securityQuestions (answers : List (String × String))
  | sendSms (hash : String) (success : Bool)
  | backupCode (code : String)
  | sendEmail (email code : String) (success : Bool)
  | verifyCode (code : String)

structure FlowServices where
  primitives : Primitives
  unicode : Unicode
  toLowerCase : String → String
  isValidEmailAddress : String → Bool

def VERIFICATION_CODE_EXPIRY_MINUTES : Nat := 15

def FlowRecord.accepting (record : FlowRecord) (proof : AcceptedProof) : FlowRecord :=
  { record with proofs := proof :: record.proofs, recovered := proof.userId :: record.recovered }

def FlowRecord.sending (record : FlowRecord) (code : SentCode) : FlowRecord :=
  { record with sent := code :: record.sent }

section Flow

variable {Record : Type} (store : RecoveryStore Record) (services : FlowServices)

namespace FlowState

variable (state : FlowState Record)

def save (userId : String) (user : RecoverableUser Record) (saved : Option UserRecovery) :
    FlowState Record :=
  match saved with
  | none => state
  | some recovery =>
    { state with
      users := Function.update state.users userId
        (some { user with record := store.save recovery user.record }) }

def proofOf (userId : String) (user : RecoverableUser Record) (method : RecoveryMethod) :
    AcceptedProof where
  userId := userId
  method := method
  enabled := state.config.enables method
  setUp := hasSetUp (store.load user.record) user.phone_number method

def loaded (method : RecoveryMethod) : Option (SessionAttempt × RecoverableUser Record) := do
  let attempt ← state.attempt
  if attempt.method = some method then
    let user ← state.users attempt.userId
    return (attempt, user)
  else none

end FlowState

def answersById (questions : List SecurityQuestion) :
    List (String × String) → InsertionMap String String → InsertionMap String String
  | [], map => map
  | (questionId, answer) :: rest, map =>
    answersById questions rest
      (if answer ≠ "" && (questions.map SecurityQuestion.id).contains questionId then
        map.set questionId answer else map)

def checkAnswers (recovery : Option UserRecovery) (answers : List (String × String)) (now : Nat) :
    RecoveryCompletionResult × Option UserRecovery :=
  match storedQuestions recovery with
  | none => (failure "Security questions not configured", none)
  | some questions =>
    RecoveryService.verifySecurityQuestions services.primitives services.unicode recovery
      (answersById questions answers .empty) now

/-- As in `processRecoveryBackupCodes`, and as `verifyAndConsumeBackupCode` does it. -/
def checkBackupCode (recovery : Option UserRecovery) (code : String) (now : Nat) : Outcome :=
  if Schemas.trim code = "" then ⟨.rejected, none⟩
  else RecoveryService.attempt services.primitives services.unicode recovery now
    (.backupCode (Schemas.trim code))

def checkSms (recovery : Option UserRecovery) (code : String) (now : Nat) : Outcome :=
  RecoveryService.attempt services.primitives services.unicode recovery now
    (.smsCode (Schemas.trim code))

def processRecoverySecurityQuestions (state : FlowState Record)
    (answers : List (String × String)) : FlowState Record :=
  match state.loaded .security_questions with
  | none => state
  | some (attempt, user) =>
    let result := checkAnswers services (store.load user.record) answers state.now
    let saved := state.save store attempt.userId user result.2
    if result.1.success then
      { saved with
        attempt := none
        record := state.record.accepting
          (state.proofOf store attempt.userId user .security_questions) }
    else saved

def processRecoveryBackupCodes (state : FlowState Record) (code : String) : FlowState Record :=
  match state.loaded .backup_codes with
  | none => state
  | some (attempt, user) =>
    let outcome := checkBackupCode services (store.load user.record) code state.now
    let saved := state.save store attempt.userId user outcome.saved
    if outcome.decision = .accepted then
      { saved with
        attempt := none
        record := state.record.accepting
          (state.proofOf store attempt.userId user .backup_codes) }
    else saved

def withSmsCode (recovery : Option UserRecovery) (phoneNumber : String)
    (phoneNumberVerified : Bool) (hash : String) (expiresAt : Nat) : UserRecovery :=
  let existing := recovery.getD
    { enabled := false, methods := none, lockout := none, last_recovered_at := none
      backup_codes := none, sms := none, secondary_email := none, security_questions := none }
  { existing with
    methods := some (existing.methods.getD [])
    sms := some
      { phone_number := (truthy (existing.sms.map SmsRecovery.phone_number)).getD phoneNumber
        verified := (existing.sms.map SmsRecovery.verified).getD phoneNumberVerified
        verification_code := some hash
        verification_expires := some (some expiresAt) } }

def processRecoverySms (state : FlowState Record) (hash : String) (success : Bool) :
    FlowState Record :=
  match state.loaded .sms with
  | none => state
  | some (attempt, user) =>
    match truthy user.phone_number with
    | none => state
    | some phoneNumber =>
      if success = false then state
      else
        let saved := state.save store attempt.userId user
          (some (withSmsCode (store.load user.record) phoneNumber user.phone_number_verified
            hash (state.now + VERIFICATION_CODE_EXPIRY_MINUTES * 60 * 1000)))
        { saved with
          attempt := some { attempt with smsSent := true }
          record := state.record.sending ⟨attempt.userId, user.phone_number_verified⟩ }

def typedEmail (recovery : Option UserRecovery) (email : String) : Option SecondaryEmail :=
  (recovery.bind UserRecovery.secondary_email).filter fun secondaryEmail =>
    services.toLowerCase secondaryEmail.email == services.toLowerCase (Schemas.trim email) &&
      secondaryEmail.verified

def processRecoverySecondaryEmail (state : FlowState Record) (email code : String)
    (success : Bool) : FlowState Record :=
  if Schemas.trim email = "" || !services.isValidEmailAddress (Schemas.trim email) then state
  else match state.loaded .secondary_email with
    | none => state
    | some (attempt, user) =>
      match typedEmail services (store.load user.record) email with
      | none => state
      | some secondaryEmail =>
        if success then
          { state with
            verification := some
              { userId := attempt.userId, code, expiresAt := state.now + 15 * 60 * 1000 }
            record := state.record.sending ⟨attempt.userId, secondaryEmail.verified⟩ }
        else { state with verification := none }

def FlowState.smsChallenge (state : FlowState Record) : Option SessionAttempt :=
  state.attempt.filter fun attempt => attempt.method = some .sms && attempt.smsSent

def verifySms (state : FlowState Record) (attempt : SessionAttempt) (code : String) :
    FlowState Record :=
  match state.users attempt.userId with
  | none => state
  | some user =>
    let outcome := checkSms services (store.load user.record) code state.now
    let saved := state.save store attempt.userId user outcome.saved
    if outcome.decision = .accepted then
      { saved with
        attempt := none
        record := state.record.accepting (state.proofOf store attempt.userId user .sms) }
    else saved

def emailedCodeAccepted (state : FlowState Record) (user : RecoverableUser Record)
    (verification : EmailedCode) (code : String) : Bool :=
  !(checkRecoveryLockout (recoveryConfig (store.load user.record)) state.now).locked &&
    Schemas.trim code == verification.code

def verifyEmailed (state : FlowState Record) (verification : EmailedCode) (code : String) :
    FlowState Record :=
  if verification.expiresAt ≤ state.now then { state with verification := none }
  else match state.users verification.userId with
    | none => state
    | some user =>
      let recovery := store.load user.record
      if emailedCodeAccepted store state user verification code then
        let saved :=
          state.save store verification.userId user (some (recoveredUser recovery state.now))
        { saved with
          attempt := none
          verification := none
          record := state.record.accepting
            (state.proofOf store verification.userId user .secondary_email) }
      else if (checkRecoveryLockout (recoveryConfig recovery) state.now).locked then state
      else state.save store verification.userId user (some (failedUser recovery state.now))

def processRecoveryVerifyCode (state : FlowState Record) (code : String) : FlowState Record :=
  if Schemas.trim code = "" then state
  else match state.smsChallenge, state.verification with
    | some attempt, _ => verifySms store services state attempt code
    | none, some verification => verifyEmailed store state verification code
    | none, none => state

def processAccountRecovery (state : FlowState Record) (found : Option String) :
    FlowState Record :=
  match found with
  | none => state
  | some userId =>
    match state.users userId with
    | none => state
    | some user =>
      let available := getAvailableMethods state.config (store.load user.record)
        user.phone_number state.now
      if available = [] then state
      else { state with attempt := some ⟨userId, available, none, false⟩ }

def processRecoveryMethodSelect (state : FlowState Record) (method : RecoveryMethod) :
    FlowState Record :=
  { state with
    attempt := state.attempt.map fun attempt =>
      if attempt.availableMethods.contains method then { attempt with method := some method }
      else attempt }

def flowStep (state : FlowState Record) : FlowEvent Record → FlowState Record
  | .wait milliseconds => { state with now := state.now + milliseconds }
  | .configure config => { state with config }
  | .changeUser userId user => { state with users := Function.update state.users userId user }
  | .start found => processAccountRecovery store state found
  | .selectMethod method => processRecoveryMethodSelect state method
  | .securityQuestions answers => processRecoverySecurityQuestions store services state answers
  | .sendSms hash success => processRecoverySms store state hash success
  | .backupCode code => processRecoveryBackupCodes store services state code
  | .sendEmail email code success =>
    processRecoverySecondaryEmail store services state email code success
  | .verifyCode code => processRecoveryVerifyCode store services state code

def FlowRecord.HasProof (record : FlowRecord) (userId : String) : Prop :=
  ∃ proof ∈ record.proofs, proof.userId = userId ∧ proof.enabled = true ∧ proof.setUp = true

structure OnlyThroughMethods (record : FlowRecord) : Prop where
  recovered : ∀ userId ∈ record.recovered, record.HasProof userId
  sent : ∀ code ∈ record.sent, code.verified = true

def StaysEnabled (state : FlowState Record) (userId : String) (method : RecoveryMethod) : Prop :=
  state.config.enables method = true ∨ state.record.HasProof userId

def StaysOffered (state : FlowState Record) (userId : String) (user : RecoverableUser Record)
    (method : RecoveryMethod) : Prop :=
  state.config.enables method = true ∧
      hasSetUp (store.load user.record) user.phone_number method = true ∨
    state.record.HasProof userId

/-- When a proof is accepted, the configuration still enables its method, and the questions, the
number or the verified address are those of the user still; a text message goes to a number that
is verified. -/
def KeepsToMethods (state : FlowState Record) : FlowEvent Record → Prop
  | .securityQuestions answers => ∀ attempt user,
      state.loaded .security_questions = some (attempt, user) →
      (checkAnswers services (store.load user.record) answers state.now).1.success = true →
        StaysOffered store state attempt.userId user .security_questions
  | .backupCode code => ∀ attempt user, state.loaded .backup_codes = some (attempt, user) →
      (checkBackupCode services (store.load user.record) code state.now).decision = .accepted →
        StaysEnabled state attempt.userId .backup_codes
  | .sendSms _ success => ∀ attempt user, state.loaded .sms = some (attempt, user) →
      hasPhone user.phone_number = true → success = true → user.phone_number_verified = true
  | .verifyCode code => Schemas.trim code ≠ "" →
      (∀ attempt user, state.smsChallenge = some attempt →
        state.users attempt.userId = some user →
        (checkSms services (store.load user.record) code state.now).decision = .accepted →
          StaysOffered store state attempt.userId user .sms) ∧
      ∀ verification user, state.smsChallenge = none → state.verification = some verification →
        state.now < verification.expiresAt → state.users verification.userId = some user →
        emailedCodeAccepted store state user verification code = true →
          StaysOffered store state verification.userId user .secondary_email
  | _ => True

end Flow

section Exact

variable {Record : Type} {store : RecoveryStore Record} {services : FlowServices}
  {state : FlowState Record}

theorem accepting_iff {record : FlowRecord} (holds : OnlyThroughMethods record)
    (proof : AcceptedProof) :
    OnlyThroughMethods (record.accepting proof) ↔
      proof.enabled = true ∧ proof.setUp = true ∨ record.HasProof proof.userId := by
  constructor
  · intro after
    obtain ⟨other, member, sameUser, enabled, setUp⟩ :=
      after.recovered proof.userId List.mem_cons_self
    rcases List.mem_cons.mp member with rfl | earlier
    · exact .inl ⟨enabled, setUp⟩
    · exact .inr ⟨other, earlier, sameUser, enabled, setUp⟩
  · intro either
    have stays (userId : String) (has : record.HasProof userId) :
        (record.accepting proof).HasProof userId := by
      obtain ⟨other, member, good⟩ := has
      exact ⟨other, List.mem_cons_of_mem _ member, good⟩
    constructor
    · intro userId member
      rcases List.mem_cons.mp member with rfl | earlier
      · rcases either with ⟨enabled, setUp⟩ | has
        · exact ⟨proof, List.mem_cons_self, rfl, enabled, setUp⟩
        · exact stays _ has
      · exact stays _ (holds.recovered userId earlier)
    · exact holds.sent

theorem sending_iff {record : FlowRecord} (holds : OnlyThroughMethods record) (code : SentCode) :
    OnlyThroughMethods (record.sending code) ↔ code.verified = true := by
  constructor
  · exact fun after => after.sent code List.mem_cons_self
  · intro verified
    refine ⟨holds.recovered, ?_⟩
    intro other member
    rcases List.mem_cons.mp member with rfl | earlier
    · exact verified
    · exact holds.sent other earlier

theorem save_record (userId : String) (user : RecoverableUser Record)
    (saved : Option UserRecovery) : (state.save store userId user saved).record = state.record := by
  cases saved <;> rfl

theorem backupCode_setUp {recovery : Option UserRecovery} {code : String} {now : Nat}
    (accepted : (checkBackupCode services recovery code now).decision = .accepted) :
    hasBackupCodes recovery = true := by
  rw [checkBackupCode] at accepted
  split at accepted
  · cases accepted
  · simp only [RecoveryService.attempt] at accepted
    split at accepted
    · cases accepted
    · cases valid : (verifyUserBackupCode services.primitives (recoveryConfig recovery)
          (Schemas.trim code) now).valid with
      | false =>
        simp only [consumeBackupCode, valid] at accepted
        cases accepted
      | true =>
        obtain ⟨matchedCode, _, _, stored, _⟩ := verifyUserBackupCode_valid valid
        cases recovery with
        | none => cases stored
        | some recovery =>
          rw [storedCodes] at stored
          cases isStored : recovery.backup_codes with
          | none =>
            simp only [recoveryConfig, Option.map_some, Option.bind_some, isStored] at stored
            cases stored
          | some backupCodes =>
            simp only [recoveryConfig, Option.map_some, Option.bind_some, isStored,
              Option.getD_some] at stored
            simpa [hasBackupCodes, isStored] using List.ne_nil_of_mem stored

theorem forall_loaded_iff {attempt : SessionAttempt} {user : RecoverableUser Record}
    (property : SessionAttempt → RecoverableUser Record → Prop) :
    (∀ other otherUser, some (attempt, user) = some (other, otherUser) →
      property other otherUser) ↔ property attempt user := by
  constructor
  · exact fun all => all attempt user rfl
  · rintro holds _ _ ⟨⟩
    exact holds

section

variable (holds : OnlyThroughMethods state.record)
include holds

theorem securityQuestions_iff (answers : List (String × String)) :
    OnlyThroughMethods (processRecoverySecurityQuestions store services state answers).record ↔
      KeepsToMethods store services state (.securityQuestions answers) := by
  rw [processRecoverySecurityQuestions, KeepsToMethods]
  cases isLoaded : state.loaded .security_questions with
  | none => exact iff_of_true holds (by rintro _ _ ⟨⟩)
  | some both =>
    obtain ⟨attempt, user⟩ := both
    rw [forall_loaded_iff]
    dsimp only
    by_cases success : (checkAnswers services (store.load user.record) answers
        state.now).1.success = true
    · rw [if_pos success, forall_prop_of_true success]
      exact accepting_iff holds _
    · rw [if_neg success, save_record]
      exact iff_of_true holds fun impossible => absurd impossible success

theorem backupCode_iff (code : String) :
    OnlyThroughMethods (processRecoveryBackupCodes store services state code).record ↔
      KeepsToMethods store services state (.backupCode code) := by
  rw [processRecoveryBackupCodes, KeepsToMethods]
  cases isLoaded : state.loaded .backup_codes with
  | none => exact iff_of_true holds (by rintro _ _ ⟨⟩)
  | some both =>
    obtain ⟨attempt, user⟩ := both
    rw [forall_loaded_iff]
    dsimp only
    by_cases accepted : (checkBackupCode services (store.load user.record) code
        state.now).decision = .accepted
    · rw [if_pos accepted, forall_prop_of_true accepted, StaysEnabled]
      refine (accepting_iff holds _).trans (or_congr_left ?_)
      exact and_iff_left (backupCode_setUp accepted)
    · rw [if_neg accepted, save_record]
      exact iff_of_true holds fun impossible => absurd impossible accepted

theorem sendSms_iff (hash : String) (success : Bool) :
    OnlyThroughMethods (processRecoverySms store state hash success).record ↔
      KeepsToMethods store services state (.sendSms hash success) := by
  rw [processRecoverySms, KeepsToMethods]
  cases isLoaded : state.loaded .sms with
  | none => exact iff_of_true holds (by rintro _ _ ⟨⟩)
  | some both =>
    obtain ⟨attempt, user⟩ := both
    rw [forall_loaded_iff, hasPhone]
    dsimp only
    cases truthy user.phone_number with
    | none => exact iff_of_true holds (by rintro ⟨⟩)
    | some phoneNumber =>
      cases success with
      | false => exact iff_of_true holds (by rintro _ ⟨⟩)
      | true => exact (sending_iff holds _).trans (by simp)

theorem sendEmail_only (email code : String) (success : Bool) :
    OnlyThroughMethods
      (processRecoverySecondaryEmail store services state email code success).record := by
  rw [processRecoverySecondaryEmail]
  split
  · exact holds
  · split
    · exact holds
    · rename_i attempt user _
      cases isTyped : typedEmail services (store.load user.record) email with
      | none => exact holds
      | some secondaryEmail =>
        have typed := (Option.filter_eq_some_iff.mp isTyped).2
        rw [Bool.and_eq_true] at typed
        cases success with
        | false => exact holds
        | true => exact (sending_iff holds _).mpr typed.2

theorem verifySms_iff (attempt : SessionAttempt) (code : String) :
    OnlyThroughMethods (verifySms store services state attempt code).record ↔
      ∀ user, state.users attempt.userId = some user →
        (checkSms services (store.load user.record) code state.now).decision = .accepted →
          StaysOffered store state attempt.userId user .sms := by
  rw [verifySms]
  cases isUser : state.users attempt.userId with
  | none => exact iff_of_true holds (by rintro _ ⟨⟩)
  | some user =>
    simp only [Option.some.injEq, forall_eq']
    by_cases accepted : (checkSms services (store.load user.record) code
        state.now).decision = .accepted
    · rw [if_pos accepted, forall_prop_of_true accepted]
      exact accepting_iff holds _
    · rw [if_neg accepted, save_record]
      exact iff_of_true holds fun impossible => absurd impossible accepted

theorem verifyEmailed_iff (verification : EmailedCode) (code : String) :
    OnlyThroughMethods (verifyEmailed store state verification code).record ↔
      ∀ user, state.now < verification.expiresAt → state.users verification.userId = some user →
        emailedCodeAccepted store state user verification code = true →
          StaysOffered store state verification.userId user .secondary_email := by
  rw [verifyEmailed]
  by_cases expired : verification.expiresAt ≤ state.now
  · rw [if_pos expired]
    exact iff_of_true holds fun _ notExpired => absurd notExpired (by omega)
  · rw [if_neg expired]
    simp only [forall_prop_of_true (Nat.lt_of_not_le expired)]
    cases isUser : state.users verification.userId with
    | none => exact iff_of_true holds (by rintro _ ⟨⟩)
    | some user =>
      simp only [Option.some.injEq, forall_eq']
      by_cases accepted : emailedCodeAccepted store state user verification code = true
      · rw [if_pos accepted, forall_prop_of_true accepted]
        exact accepting_iff holds _
      · rw [if_neg accepted]
        refine iff_of_true ?_ fun impossible => absurd impossible accepted
        split
        · exact holds
        · rw [save_record]
          exact holds

theorem verifyCode_iff (code : String) :
    OnlyThroughMethods (processRecoveryVerifyCode store services state code).record ↔
      KeepsToMethods store services state (.verifyCode code) := by
  rw [processRecoveryVerifyCode, KeepsToMethods]
  by_cases blank : Schemas.trim code = ""
  · rw [if_pos blank]
    exact iff_of_true holds fun impossible => absurd blank impossible
  · rw [if_neg blank, forall_prop_of_true blank]
    cases isSms : state.smsChallenge with
    | some attempt =>
      simp only [Option.some.injEq, reduceCtorEq, false_implies, implies_true, and_true]
      rw [verifySms_iff holds]
      exact ⟨fun all _ user isAttempt => isAttempt ▸ all user, fun all user => all _ user rfl⟩
    | none =>
      simp only [reduceCtorEq, false_implies, implies_true, true_and, true_implies]
      cases isEmailed : state.verification with
      | none => exact iff_of_true holds (by rintro _ _ ⟨⟩)
      | some verification =>
        simp only [Option.some.injEq]
        rw [verifyEmailed_iff holds]
        exact ⟨fun all _ user isVerification => isVerification ▸ all user,
          fun all user => all _ user rfl⟩

end

theorem flowStep_iff (event : FlowEvent Record) (holds : OnlyThroughMethods state.record) :
    OnlyThroughMethods (flowStep store services state event).record ↔
      KeepsToMethods store services state event := by
  cases event with
  | wait _ | configure _ | changeUser _ _ | selectMethod _ => exact iff_of_true holds trivial
  | start found =>
    refine iff_of_true ?_ trivial
    simp only [flowStep, processAccountRecovery]
    cases found with
    | none => exact holds
    | some userId =>
      dsimp only
      cases state.users userId with
      | none => exact holds
      | some user =>
        dsimp only
        split
        · exact holds
        · exact holds
  | securityQuestions answers => exact securityQuestions_iff holds answers
  | sendSms hash success => exact sendSms_iff holds hash success
  | backupCode code => exact backupCode_iff holds code
  | sendEmail email code success =>
    exact iff_of_true (sendEmail_only holds email code success) trivial
  | verifyCode code => exact verifyCode_iff holds code

end Exact

/-- Over every run of one browser session, with any changes of users and of the configuration
between its requests: accounts are recovered through enabled methods that were set up, and codes
go to verified contacts, exactly where it is so to begin with and every step keeps to it. -/
theorem only_through_methods_iff {Record : Type} (store : RecoveryStore Record)
    (services : FlowServices) (state : FlowState Record) (events : List (FlowEvent Record)) :
    AlwaysFrom (flowStep store services) (fun state => OnlyThroughMethods state.record) state
        events ↔
      OnlyThroughMethods state.record ∧
        AllowedFrom (flowStep store services) (KeepsToMethods store services) state events :=
  Runs.always_iff_start (flowStep store services)
    (fun _ event holds => flowStep_iff event holds) state events

def plainFlow : FlowServices where
  primitives :=
    { verifyPassword := fun password hash => some (hash == "hash:" ++ password)
      sha256 := fun text => "sha256:" ++ text }
  unicode := { toLowerCase := id, isLetter := fun _ => true, isNumber := fun _ => false }
  toLowerCase := id
  isValidEmailAddress _ := true

def onlyQuestions : RecoveryOffer where
  enabled := true
  backup_codes := false
  secondary_email := false
  sms := false
  security_questions := true
  smsChannel := true

def oneQuestion : UserRecovery where
  enabled := true
  methods := some [.security_questions]
  lockout := none
  last_recovered_at := none
  backup_codes := none
  sms := none
  secondary_email := none
  security_questions := some
    { questions := [⟨"q", "first_pet", "hash:rex"⟩]
      setup_at := none
      last_used_at := none
      failed_attempts := none
      last_failed_at := none
      locked_until := none }

def openFlow : FlowState (Option UserRecovery) where
  users userId :=
    if userId = "ada" then
      some { record := some oneQuestion, phone_number := some "+15550100"
             phone_number_verified := false }
    else none
  config := onlyQuestions
  now := 0
  attempt := none
  verification := none
  record := { proofs := [], sent := [], recovered := [] }

theorem recovered_past_methods :
    let step := flowStep mongooseRecords plainFlow
    let bySms := Runs.run step openFlow [.start (some "ada"), .selectMethod .sms,
      .sendSms "sha256:123456" true, .verifyCode "123456"]
    let byQuestions := Runs.run step openFlow [.start (some "ada"),
      .selectMethod .security_questions,
      .configure { onlyQuestions with security_questions := false },
      .securityQuestions [("q", "rex")]]
    bySms.record = ⟨[⟨"ada", .sms, false, true⟩], [⟨"ada", false⟩], ["ada"]⟩ ∧
      byQuestions.record = ⟨[⟨"ada", .security_questions, false, true⟩], [], ["ada"]⟩ ∧
      ¬OnlyThroughMethods bySms.record ∧ ¬OnlyThroughMethods byQuestions.record := by
  intro step bySms byQuestions
  have isSms : bySms.record = ⟨[⟨"ada", .sms, false, true⟩], [⟨"ada", false⟩], ["ada"]⟩ := by
    decide +kernel
  have isQuestions : byQuestions.record =
      ⟨[⟨"ada", .security_questions, false, true⟩], [], ["ada"]⟩ := by
    decide +kernel
  refine ⟨isSms, isQuestions, ?_, ?_⟩
  · rw [isSms]
    intro only
    cases only.sent ⟨"ada", false⟩ List.mem_cons_self
  · rw [isQuestions]
    intro only
    obtain ⟨proof, member, _, enabled, _⟩ := only.recovered "ada" List.mem_cons_self
    rw [List.mem_singleton] at member
    rw [member] at enabled
    cases enabled

end ParakoId.Recovery
