import ParakoId.UserRecords.Prisma

/-!
What an update through Prisma must be like for the user found after it to be the one that the
update asks for: field by field, and for each of the objects.
-/

namespace ParakoId.UserRecords.Prisma

open Accounts (truthy)
open Accounts.DisplayNames (computeUserName)
open PartialUpdates
open Recovery (RowIds UserRecovery)
open SecondFactors (TotpMethod UserMfaEmailOtpRow)

/-- Null and `[]` are not the same, and a column that is required has no null. -/
def clearable (field : Field) : Bool :=
  !requiredColumns.contains field && field ≠ .roles && field ≠ .blocked_from &&
    (fallback field).isNone

def FieldKept {Value : Type} (mayBeNull : Bool) (entry : Entry Value) (shown : Option Value) :
    Prop :=
  match entry with
  | some .undefined => shown = none
  | some .null => mayBeNull = true
  | _ => True

/-- An object cannot be null. -/
def ObjectKept {Given Shown : Type} (entry : Entry Given) (shown : Option Shown)
    (valueKept : Given → Prop) : Prop :=
  match entry with
  | none => True
  | some .undefined => shown = none
  | some .null => False
  | some (.value content) => valueKept content

def NameKept (full : UserFull) (user : IUser) (data : UserUpdate) : Prop :=
  computeUserName ((user.updated data).field .given_name) ((user.updated data).field .family_name)
      ((user.updated data).field .custom_identifier_1)
      (if data.names.touchesName then data.names.computed else full.row.column .name) =
    (user.updated data).field .name

structure CredentialKept (credential : WebAuthnCredential) : Prop where
  transports : credential.transports.isSome
  friendly_name : credential.friendly_name = "" → credential.credential_id = ""

structure WebAuthnKept (webauthn : WebAuthnMethod) : Prop where
  accepted : acceptsCredentials (givenCredentials webauthn) = true
  shown : webauthn.enabled = true ∨ givenCredentials webauthn ≠ []
  given : webauthn.credentials.isSome
  credentials : ∀ credential ∈ givenCredentials webauthn, CredentialKept credential

@[mk_iff]
structure MfaGivenKept (stored : Option Mfa) (mfa : MfaUpdate) : Prop where
  totp : match mfa.totp with
    | .undefined => stored.bind Mfa.totp = none
    | .null => False
    | .value _ => True
  email : match mfa.email, mfa.email_otp with
    | .value _, .value otp => otp.hash ≠ ""
    | .value _, _ => True
    | .undefined, .undefined => stored.bind Mfa.email = none
    | _, _ => False
  webauthn : match mfa.webauthn with
    | .undefined => ((stored.bind Mfa.webauthn).map givenCredentials).getD [] = []
    | .null => False
    | .value webauthn => WebAuthnKept webauthn

/-- No column holds a lockout or the time of the last recovery, the rows of the questions get new
ids, and an empty contact is read as none. -/
@[mk_iff]
structure RecoveryGivenKept (recovery : UserRecovery) : Prop where
  accepted : hasValidDates recovery = true
  methods : recovery.methods.isSome
  lockout : recovery.lockout = none
  last_recovered_at : recovery.last_recovered_at = none
  secondary_email : ∀ secondary, recovery.secondary_email = some secondary → secondary.email ≠ ""
  sms : ∀ sms, recovery.sms = some sms → sms.phone_number ≠ ""
  security_questions : recovery.security_questions = none

structure Keeps (full : UserFull) (user : IUser) (data : UserUpdate) : Prop where
  fields : ∀ field, field ≠ .name →
    FieldKept (clearable field) (data.field field) (user.field field)
  name : NameKept full user data
  mfa : ObjectKept data.mfa user.mfa (MfaGivenKept user.mfa)
  recovery : ObjectKept data.recovery user.recovery RecoveryGivenKept
  notification_preferences :
    ObjectKept data.notification_preferences user.notification_preferences fun _ => True

section Fields

variable {row : UserRow} {user : IUser} {data : UserUpdate}

variable {field : Field}

theorem shownField_of_ne (column : (field : Field) → Option field.Value)
    (isOther : field ≠ .name) : shownField column field = (column field).or (fallback field) := by
  cases field <;> first | rfl | exact absurd rfl isOther

theorem columns_of_ne (row : UserRow) (data : UserUpdate) (isOther : field ≠ .name) :
    columns row data field = skipping (data.field field) (row.column field) := by
  cases field <;> first | rfl | exact absurd rfl isOther

theorem notNull_of_accepts (accepted : acceptsFields data = true)
    (isRequired : field ∈ requiredColumns) : data.field field ≠ some .null := by
  intro given
  have notNull := List.all_eq_true.mp accepted field isRequired
  simp [given, Given.isNull] at notNull

theorem clearable_iff (field : Field) :
    clearable field = true ↔
      field ∉ requiredColumns ∧ field ≠ .roles ∧ field ≠ .blocked_from ∧ fallback field = none := by
  simp [clearable, and_assoc]

theorem or_fallback_iff {Value : Type} (entry : Entry Value) (stored fallback : Option Value) :
    (skipping entry stored).or fallback = asked entry (stored.or fallback) ↔
      FieldKept fallback.isNone entry (stored.or fallback) := by
  match entry with
  | none => simp [skipping, setting, asked, FieldKept]
  | some .undefined => simp [skipping, setting, asked, FieldKept, Given.get?]
  | some .null => simp [skipping, setting, asked, FieldKept, Given.get?]
  | some (.value content) => simp [skipping, setting, asked, FieldKept, Given.get?]

theorem columns_isSome (isOther : field ≠ .name) (stored : (row.column field).isSome) :
    (columns row data field).isSome ↔ data.field field ≠ some .null := by
  rw [columns_of_ne row data isOther]
  match given : data.field field with
  | none => simpa [skipping, setting] using stored
  | some .undefined => simpa [skipping, setting] using stored
  | some .null => simp [skipping, setting]
  | some (.value content) => simp [skipping, setting]

theorem fieldKept_of_shown (accepted : acceptsFields data = true)
    (roles : data.field .roles ≠ some .null)
    (blockedFrom : data.field .blocked_from ≠ some .null) (isOther : field ≠ .name)
    (shown : shownField (columns row data) field =
      asked (data.field field) (shownField row.column field)) :
    FieldKept (clearable field) (data.field field) (shownField row.column field) := by
  rw [shownField_of_ne _ isOther, shownField_of_ne _ isOther, columns_of_ne row data isOther,
    or_fallback_iff] at shown
  rw [shownField_of_ne _ isOther]
  match given : data.field field with
  | none => trivial
  | some .undefined => simpa [given, FieldKept] using shown
  | some .null =>
    have notRequired : field ∉ requiredColumns := fun isRequired =>
      notNull_of_accepts accepted isRequired given
    have notRoles : field ≠ .roles := by
      rintro rfl
      exact roles given
    have notBlocked : field ≠ .blocked_from := by
      rintro rfl
      exact blockedFrom given
    have unset : fallback field = none := by simpa [given, FieldKept] using shown
    exact (clearable_iff field).mpr ⟨notRequired, notRoles, notBlocked, unset⟩
  | some (.value content) => trivial

section Kept

variable (kept : ∀ field, field ≠ .name →
  FieldKept (clearable field) (data.field field) (shownField row.column field))

include kept

theorem clearable_of_kept {field : Field} (isOther : field ≠ .name)
    (given : data.field field = some .null) : clearable field = true := by
  simpa [given, FieldKept] using kept field isOther

theorem accepts_of_kept : acceptsFields data = true := by
  refine List.all_eq_true.mpr fun field isRequired => ?_
  match given : data.field field with
  | none => rfl
  | some .undefined => rfl
  | some .null =>
    have isOther : field ≠ .name := by
      rintro rfl
      simp [requiredColumns] at isRequired
    have notRequired := ((clearable_iff field).mp (clearable_of_kept kept isOther given)).1
    exact absurd isRequired notRequired
  | some (.value content) => rfl

theorem shown_of_kept {field : Field} (isOther : field ≠ .name) :
    shownField (columns row data) field =
      asked (data.field field) (shownField row.column field) := by
  have fieldKept := kept field isOther
  rw [shownField_of_ne _ isOther] at fieldKept
  rw [shownField_of_ne _ isOther, shownField_of_ne _ isOther, columns_of_ne row data isOther,
    or_fallback_iff]
  match given : data.field field with
  | none => trivial
  | some .undefined => simpa [given, FieldKept] using fieldKept
  | some .null =>
    have unset := ((clearable_iff field).mp (clearable_of_kept kept isOther given)).2.2.2
    simp [FieldKept, unset]
  | some (.value content) => trivial

end Kept

theorem fields_iff (data : UserUpdate) (roles : (row.column .roles).isSome)
    (blockedFrom : (row.column .blocked_from).isSome) :
    (acceptsFields data = true ∧ (columns row data .roles).isSome ∧
        (columns row data .blocked_from).isSome ∧
        ∀ field, field ≠ .name → shownField (columns row data) field =
          asked (data.field field) (shownField row.column field)) ↔
      ∀ field, field ≠ .name →
        FieldKept (clearable field) (data.field field) (shownField row.column field) := by
  rw [columns_isSome (by decide) roles, columns_isSome (by decide) blockedFrom]
  constructor
  · rintro ⟨accepted, rolesGiven, blockedGiven, shown⟩ field isOther
    exact fieldKept_of_shown accepted rolesGiven blockedGiven isOther (shown field isOther)
  · intro kept
    refine ⟨accepts_of_kept kept, ?_, ?_, fun field isOther => shown_of_kept kept isOther⟩
    · exact fun given => absurd (clearable_of_kept kept (by decide) given) (by decide)
    · exact fun given => absurd (clearable_of_kept kept (by decide) given) (by decide)

theorem columns_of_kept (isOther : field ≠ .name) (unset : fallback field = none)
    (shown : user.field field = shownField row.column field)
    (kept : FieldKept (clearable field) (data.field field) (user.field field)) :
    columns row data field = (user.updated data).field field := by
  rw [shown, shownField_of_ne _ isOther, unset, Option.or_none] at kept
  rw [columns_of_ne row data isOther, updated_field, shown, shownField_of_ne _ isOther, unset,
    Option.or_none, skipping_eq_asked_iff]
  intro given
  simpa [given, FieldKept] using kept

end Fields

section Mfa

variable {ids : RowIds} {full : UserFull}

theorem credential_iff (credential : WebAuthnCredential) :
    toCredential (credentialRow credential) = credential ↔ CredentialKept credential := by
  obtain ⟨id, publicKey, counter, transports, deviceType, backedUp, createdAt, lastUsedAt, name⟩ :=
    credential
  constructor
  · intro same
    simp only [toCredential, credentialRow, WebAuthnCredential.mk.injEq] at same
    obtain ⟨-, -, -, sameTransports, -, -, -, -, sameName⟩ := same
    refine ⟨by rw [← sameTransports]; rfl, ?_⟩
    rintro rfl
    simpa using sameName
  · rintro ⟨isGiven, named⟩
    obtain ⟨given, rfl⟩ := Option.isSome_iff_exists.mp isGiven
    by_cases unnamed : name = ""
    · have noId : id = "" := named unnamed
      simp [toCredential, credentialRow, unnamed, noId]
    · simp [toCredential, credentialRow, unnamed]

theorem credentials_iff (credentials : List WebAuthnCredential) :
    (credentials.map credentialRow).map toCredential = credentials ↔
      ∀ credential ∈ credentials, CredentialKept credential := by
  have each : (credentials.map credentialRow).map toCredential = credentials.map id ↔
      ∀ credential ∈ credentials, toCredential (credentialRow credential) = id credential := by
    rw [List.map_map]
    exact List.map_inj_left
  rw [List.map_id] at each
  rw [each]
  exact forall₂_congr fun credential _ => credential_iff credential

theorem eq_nil_of_not_any {Row : Type} {other : Bool} {rows : List Row}
    (none : ¬(other || decide (rows.length > 0)) = true) : rows = [] := by
  cases rows with
  | nil => rfl
  | cons row rest => simp at none

theorem mfaData_totp : (mfaData full).bind Mfa.totp = full.mfa_totp := by
  rw [mfaData]
  split
  · rfl
  · rename_i noData
    simp only [hasMfaData, Bool.or_eq_true, not_or, Option.not_isSome_iff_eq_none] at noData
    rw [noData.1.1.2]
    rfl

theorem mfaData_email :
    (mfaData full).bind Mfa.email = full.mfa_email_otp.map emailMethod := by
  rw [mfaData]
  split
  · rfl
  · rename_i noData
    simp only [hasMfaData, Bool.or_eq_true, not_or, Option.not_isSome_iff_eq_none] at noData
    rw [noData.1.2]
    rfl

theorem mfaData_credentials :
    (((mfaData full).bind Mfa.webauthn).map givenCredentials).getD [] =
      full.webauthn_credentials.map toCredential := by
  rw [mfaData]
  split
  · simp only [Option.bind_some, webauthnMethod]
    split
    · rfl
    · rename_i noMethod
      simp [eq_nil_of_not_any noMethod]
  · rename_i noData
    simp [eq_nil_of_not_any noData]

theorem mfaData_written {data : UserUpdate} {accepted : acceptsFields data = true}
    {mfa : MfaUpdate} (given : data.mfa = some (.value mfa)) :
    mfaData (written ids full data accepted) = some
      { enabled := mfa.enabled
        preferred_method := mfa.preferred_method
        totp := totpRow mfa full.mfa_totp
        email := (emailRow mfa full.mfa_email_otp).map emailMethod
        webauthn := webauthnMethod (some (mfaRow mfa)) (credentialRows mfa full.webauthn_credentials)
        email_otp := (emailRow mfa full.mfa_email_otp).bind pendingOtp } := by
  simp [mfaData, hasMfaData, written, given, Given.get?, mfaRow]

theorem totp_iff (mfa : MfaUpdate) (stored : Option TotpMethod) :
    mfa.totp.isNull = false ∧ totpRow mfa stored = mfa.totp.get? ↔
      match mfa.totp with
      | .undefined => stored = none
      | .null => False
      | .value _ => True := by
  rw [totpRow]
  cases mfa.totp with
  | undefined => simp [Given.isNull, Given.get?]
  | null => simp [Given.isNull]
  | value totp => simp [Given.isNull, Given.get?]

theorem email_iff (mfa : MfaUpdate) (stored : Option UserMfaEmailOtpRow) :
    ((emailRow mfa stored).map emailMethod = mfa.email.get? ∧
        (emailRow mfa stored).bind pendingOtp = mfa.email_otp.get?) ↔
      match mfa.email, mfa.email_otp with
      | .value _, .value otp => otp.hash ≠ ""
      | .value _, _ => True
      | .undefined, .undefined => stored.map emailMethod = none
      | _, _ => False := by
  rw [emailRow]
  cases mfa.email with
  | undefined =>
    cases mfa.email_otp with
    | undefined =>
      cases stored with
      | none | some _ => simp [Given.get?]
    | null | value _ => simp [Given.get?]
  | null => simp [Given.get?]
  | value email =>
    cases mfa.email_otp with
    | undefined | null => simp [Given.get?, emailMethod, pendingOtp, truthy]
    | value otp =>
      by_cases noHash : otp.hash = ""
      · simp [Given.get?, pendingOtp, truthy, noHash]
      · simp [Given.get?, emailMethod, pendingOtp, truthy, noHash]

theorem webauthnMethod_given {mfa : MfaUpdate} {webauthn : WebAuthnMethod}
    (stored : List UserWebauthnCredentialRow) (given : mfa.webauthn = .value webauthn) :
    webauthnMethod (some (mfaRow mfa)) (credentialRows mfa stored) =
      if webauthn.enabled = true ∨ givenCredentials webauthn ≠ [] then
        some { webauthn with
          credentials := some (((givenCredentials webauthn).map credentialRow).map toCredential) }
      else none := by
  simp [webauthnMethod, mfaRow, credentialRows, given, Given.get?, List.length_pos_iff]

theorem method_iff (webauthn : WebAuthnMethod) :
    { webauthn with
        credentials := some (((givenCredentials webauthn).map credentialRow).map toCredential) } =
        webauthn ↔
      webauthn.credentials.isSome ∧
        ∀ credential ∈ givenCredentials webauthn, CredentialKept credential := by
  obtain ⟨enabled, credentials, verified_at⟩ := webauthn
  rw [← credentials_iff]
  cases credentials with
  | none => simp
  | some credentials => simp [givenCredentials]

theorem webauthn_iff (mfa : MfaUpdate) (stored : List UserWebauthnCredentialRow) :
    ((mfa.webauthn.isNull = false ∧ (mfa.webauthn.get?.all fun webauthn =>
          acceptsCredentials (givenCredentials webauthn)) = true) ∧
        webauthnMethod (some (mfaRow mfa)) (credentialRows mfa stored) = mfa.webauthn.get?) ↔
      match mfa.webauthn with
      | .undefined => stored.map toCredential = []
      | .null => False
      | .value webauthn => WebAuthnKept webauthn := by
  cases given : mfa.webauthn with
  | undefined =>
    simp [webauthnMethod, mfaRow, credentialRows, given, Given.isNull, Given.get?]
  | null => simp [Given.isNull]
  | value webauthn =>
    rw [webauthnMethod_given stored given]
    simp only [Given.isNull, Given.get?, Option.all_some, true_and]
    by_cases shown : webauthn.enabled = true ∨ givenCredentials webauthn ≠ []
    · rw [if_pos shown, Option.some.injEq, method_iff]
      constructor
      · rintro ⟨accepted, isGiven, kept⟩
        exact ⟨accepted, shown, isGiven, kept⟩
      · rintro ⟨accepted, -, isGiven, kept⟩
        exact ⟨accepted, isGiven, kept⟩
    · rw [if_neg shown]
      constructor
      · rintro ⟨-, same⟩
        cases same
      · intro kept
        exact absurd kept.shown shown

theorem mfa_iff (ids : RowIds) {data : UserUpdate} (accepted : acceptsFields data = true) :
    (acceptsMfa data.mfa = true ∧ mfaData (written ids full data accepted) =
        asked (data.mfa.map (Given.map MfaUpdate.mfa)) (mfaData full)) ↔
      ObjectKept data.mfa (mfaData full) (MfaGivenKept (mfaData full)) := by
  match given : data.mfa with
  | none => simp [acceptsMfa, mfaData, hasMfaData, written, given, asked, ObjectKept]
  | some .undefined =>
    simp [acceptsMfa, mfaData, hasMfaData, written, given, asked, ObjectKept, Given.get?,
      Given.map]
  | some .null => simp [acceptsMfa, ObjectKept]
  | some (.value mfa) =>
    rw [mfaData_written given, ObjectKept, mfaGivenKept_iff, mfaData_totp, mfaData_email,
      mfaData_credentials, ← totp_iff, ← email_iff, ← webauthn_iff]
    simp only [acceptsMfa, asked, Option.map_some, Given.map, Given.get?, MfaUpdate.mfa,
      Option.some.injEq, Mfa.mk.injEq, true_and, Bool.and_eq_true, Bool.not_eq_true']
    tauto

end Mfa

section Recovery

variable (ids : RowIds) (rows : Recovery.UserRows) (recovery : UserRecovery)

theorem secondaryEmail_update :
    (Recovery.Prisma.update ids rows recovery).recovery.bind Recovery.Prisma.secondaryEmail =
      recovery.secondary_email.filter fun secondary => secondary.email ≠ "" := by
  cases isStored : recovery.secondary_email with
  | none => simp [Recovery.Prisma.update, Recovery.Prisma.secondaryEmail, Recovery.truthy, isStored]
  | some secondary =>
    by_cases noEmail : secondary.email = ""
    · simp [Recovery.Prisma.update, Recovery.Prisma.secondaryEmail, Recovery.truthy, isStored,
        noEmail, Option.filter]
    · simp [Recovery.Prisma.update, Recovery.Prisma.secondaryEmail, Recovery.truthy, isStored,
        noEmail, Option.filter]

theorem secondaryEmail_kept_iff :
    (recovery.secondary_email.filter fun secondary => secondary.email ≠ "") =
        recovery.secondary_email ↔
      ∀ secondary, recovery.secondary_email = some secondary → secondary.email ≠ "" := by
  cases recovery.secondary_email with
  | none | some _ => simp

theorem sms_kept_iff (valid : hasValidDates recovery = true) :
    (recovery.sms.bind fun sms =>
        if sms.phone_number = "" then none
        else some { sms with
          verification_expires := (sms.verification_expires.getD none).map some }) =
        recovery.sms ↔
      ∀ sms, recovery.sms = some sms → sms.phone_number ≠ "" := by
  rw [hasValidDates, Bool.and_eq_true] at valid
  have validSms := valid.2
  cases isStored : recovery.sms with
  | none => simp
  | some sms =>
    rw [isStored] at validSms
    obtain ⟨phone, verified, code, expires⟩ := sms
    by_cases noPhone : phone = ""
    · simp [noPhone]
    · cases expires with
      | none => simp [noPhone]
      | some date =>
        cases date with
        | none => cases validSms
        | some time => simp [noPhone]

theorem backupCodes_update (valid : hasValidDates recovery = true) :
    (Recovery.Prisma.update ids rows recovery).recovery.bind
        (Recovery.Prisma.backupCodes (Recovery.Prisma.update ids rows recovery)) =
      recovery.backup_codes := by
  rw [hasValidDates, Bool.and_eq_true] at valid
  have validCodes := valid.1
  cases isStored : recovery.backup_codes with
  | none => simp [Recovery.Prisma.update, Recovery.Prisma.backupCodes, isStored]
  | some backupCodes =>
    rw [isStored] at validCodes
    obtain ⟨codes, generatedAt, expiresAt⟩ := backupCodes
    cases generatedAt with
    | none => cases validCodes
    | some time =>
      have unused := Recovery.Prisma.newCodes_unused codes
      simp only [Recovery.Prisma.update, Recovery.Prisma.backupCodes, isStored,
        Option.map_some, Option.getD_some, Option.bind_some, unused]

theorem securityQuestions_kept_iff
    (unused : ∀ questions, recovery.security_questions = some questions →
      ∀ question ∈ questions.questions, ∀ number ≥ rows.questionsMade,
        ids.uuid number ≠ question.id) :
    (Recovery.Prisma.toIUser (Recovery.Prisma.update ids rows recovery)).bind
        UserRecovery.security_questions = recovery.security_questions ↔
      recovery.security_questions = none := by
  rw [Recovery.Prisma.securityQuestions_update]
  cases isStored : recovery.security_questions with
  | none => simp
  | some sqData =>
    obtain ⟨questions, setup, lastUsed, attempts, lastFailed, lockedUntil⟩ := sqData
    cases questions with
    | nil => simp [Option.filter]
    | cons question rest =>
      have fresh := unused _ isStored question List.mem_cons_self rows.questionsMade (le_refl _)
      have renamed : (Recovery.questionRow ids rows.questionsMade question).id ≠ question.id :=
        fresh
      simp only [ne_eq, reduceCtorEq, not_false_eq_true, decide_true, Option.filter_some_pos,
        Option.map_some, Option.some.injEq, Recovery.SecurityQuestions.mk.injEq, iff_false]
      rintro ⟨same, -⟩
      rw [Recovery.questionRows, List.zipIdx_cons, List.map_cons, List.cons.injEq] at same
      exact renamed (congrArg Recovery.SecurityQuestion.id same.1)

theorem toIUser_update :
    Recovery.Prisma.toIUser (Recovery.Prisma.update ids rows recovery) = some
      { enabled := recovery.enabled
        methods := some (recovery.methods.getD
          ((rows.recovery.map Recovery.RecoveryRow.methods).getD []))
        lockout := none
        last_recovered_at := none
        secondary_email :=
          (Recovery.Prisma.update ids rows recovery).recovery.bind Recovery.Prisma.secondaryEmail
        sms := (Recovery.Prisma.update ids rows recovery).recovery.bind Recovery.Prisma.sms
        backup_codes := (Recovery.Prisma.update ids rows recovery).recovery.bind
          (Recovery.Prisma.backupCodes (Recovery.Prisma.update ids rows recovery))
        security_questions :=
          Recovery.Prisma.securityQuestions (Recovery.Prisma.update ids rows recovery) } := rfl

theorem eq_recovery_iff (loaded : UserRecovery) :
    loaded = recovery ↔ loaded.enabled = recovery.enabled ∧ loaded.methods = recovery.methods ∧
      loaded.lockout = recovery.lockout ∧
      loaded.last_recovered_at = recovery.last_recovered_at ∧
      loaded.backup_codes = recovery.backup_codes ∧ loaded.sms = recovery.sms ∧
      loaded.secondary_email = recovery.secondary_email ∧
      loaded.security_questions = recovery.security_questions := by
  obtain ⟨⟨enabled, methods, lockout, recoveredAt, codes, sms⟩, secondary, questions⟩ := recovery
  obtain ⟨⟨_, _, _, _, _, _⟩, _, _⟩ := loaded
  simp [and_assoc]

theorem recovery_given_iff
    (unused : ∀ questions, recovery.security_questions = some questions →
      ∀ question ∈ questions.questions, ∀ number ≥ rows.questionsMade,
        ids.uuid number ≠ question.id) :
    acceptsRecovery (some (.value recovery)) = true ∧
        Recovery.Prisma.toIUser (Recovery.Prisma.update ids rows recovery) = some recovery ↔
      RecoveryGivenKept recovery := by
  have sms := Recovery.Prisma.sms_update ids rows recovery
  have questions := securityQuestions_kept_iff ids rows recovery unused
  rw [toIUser_update] at sms questions
  rw [toIUser_update, Option.some.injEq, eq_recovery_iff, secondaryEmail_update,
    secondaryEmail_kept_iff, recoveryGivenKept_iff, acceptsRecovery, Bool.and_eq_true]
  constructor
  · rintro ⟨⟨valid, -⟩, -, methods, lockout, recoveredAt, -, sameSms, secondary, sameQuestions⟩
    refine ⟨valid, by rw [← methods]; rfl, lockout.symm, recoveredAt.symm, secondary, ?_, ?_⟩
    · exact (sms_kept_iff recovery valid).mp (sms.symm.trans sameSms)
    · exact questions.mp sameQuestions
  · rintro ⟨valid, methods, lockout, recoveredAt, secondary, sameSms, sameQuestions⟩
    obtain ⟨given, isGiven⟩ := Option.isSome_iff_exists.mp methods
    refine ⟨⟨valid, by simp [sameQuestions]⟩, rfl, by rw [isGiven]; rfl, lockout.symm,
      recoveredAt.symm, backupCodes_update ids rows recovery valid, ?_, secondary, ?_⟩
    · exact sms.trans ((sms_kept_iff recovery valid).mpr sameSms)
    · exact questions.mpr sameQuestions

end Recovery

/-- The ids that the database draws for question rows are none that an update gives. -/
structure NewIds (full : UserFull) (data : UserUpdate) extends RowIds where
  unused : ∀ recovery questions, data.recovery = some (.value recovery) →
    recovery.security_questions = some questions → ∀ question ∈ questions.questions,
      ∀ number ≥ full.recovery.questionsMade, uuid number ≠ question.id

section User

variable {full : UserFull} {user : IUser} {data : UserUpdate}

theorem recovery_iff (ids : NewIds full data) (accepted : acceptsFields data = true) :
    (acceptsRecovery data.recovery = true ∧
        Recovery.Prisma.toIUser (written ids.toRowIds full data accepted).recovery =
          asked data.recovery (Recovery.Prisma.toIUser full.recovery)) ↔
      ObjectKept data.recovery (Recovery.Prisma.toIUser full.recovery) RecoveryGivenKept := by
  match given : data.recovery with
  | none => simp [acceptsRecovery, written, given, asked, ObjectKept]
  | some .undefined => simp [acceptsRecovery, written, given, asked, ObjectKept, Given.get?]
  | some .null => simp [acceptsRecovery, ObjectKept]
  | some (.value recovery) =>
    rw [ObjectKept, ← recovery_given_iff ids.toRowIds full.recovery recovery fun questions =>
      ids.unused recovery questions given]
    simp [written, given, asked, Given.get?]

theorem preferences_iff (ids : RowIds) (accepted : acceptsFields data = true) :
    (acceptsPreferences data.notification_preferences = true ∧
        (written ids full data accepted).notification_prefs =
          asked data.notification_preferences full.notification_prefs) ↔
      ObjectKept data.notification_preferences full.notification_prefs fun _ => True := by
  match given : data.notification_preferences with
  | none => simp [acceptsPreferences, written, given, asked, ObjectKept]
  | some .undefined =>
    simp [acceptsPreferences, written, given, asked, ObjectKept, Given.get?, Given.isNull]
  | some .null => simp [acceptsPreferences, ObjectKept, Given.isNull]
  | some (.value preferences) =>
    simp [acceptsPreferences, written, given, asked, ObjectKept, Given.get?, Given.isNull]

theorem toIUser_eq_some_iff :
    toIUser full = some user ↔
      (full.row.column .roles).isSome ∧ (full.row.column .blocked_from).isSome ∧
        (∀ field, shownField full.row.column field = user.field field) ∧
        mfaData full = user.mfa ∧ Recovery.Prisma.toIUser full.recovery = user.recovery ∧
        full.notification_prefs = user.notification_preferences := by
  rw [toIUser]
  split
  · rename_i decoded
    rw [Bool.and_eq_true] at decoded
    simp [IUser.ext_iff, funext_iff, decoded.1, decoded.2]
  · rename_i undecoded
    rw [Bool.and_eq_true] at undecoded
    constructor
    · intro shown
      cases shown
    · rintro ⟨roles, blockedFrom, -⟩
      exact absurd ⟨roles, blockedFrom⟩ undecoded

theorem afterUpdate_eq_some_iff (ids : RowIds) :
    afterUpdate ids full data = some user ↔
      ∃ accepted : acceptsFields data = true, acceptsMfa data.mfa = true ∧
        acceptsRecovery data.recovery = true ∧
        acceptsPreferences data.notification_preferences = true ∧
        toIUser (written ids full data accepted) = some user := by
  rw [afterUpdate, update]
  by_cases accepted : acceptsFields data = true
  · rw [dif_pos accepted]
    split
    · rename_i others
      simp only [Bool.and_eq_true] at others
      simp [accepted, others.1.1, others.1.2, others.2]
    · rename_i refused
      simp only [Bool.and_eq_true] at refused
      simp only [Option.bind_none, reduceCtorEq, false_iff]
      rintro ⟨-, mfa, recovery, preferences, -⟩
      exact refused ⟨⟨mfa, recovery⟩, preferences⟩
  · simp [accepted]

theorem name_iff (shown : ∀ field, user.field field = shownField full.row.column field)
    (kept : ∀ field, field ≠ .name →
      FieldKept (clearable field) (data.field field) (user.field field)) :
    shownField (columns full.row data) .name = (user.updated data).field .name ↔
      NameKept full user data := by
  have column : ∀ field, field ≠ .name → fallback field = none →
      columns full.row data field = (user.updated data).field field :=
    fun field isOther unset => columns_of_kept isOther unset (shown field) (kept field isOther)
  rw [shownField, NameKept, column .given_name (by decide) rfl,
    column .family_name (by decide) rfl, column .custom_identifier_1 (by decide) rfl, columns]

theorem round_trip_iff (ids : NewIds full data) (shown : toIUser full = some user) :
    afterUpdate ids.toRowIds full data = some (user.updated data) ↔ Keeps full user data := by
  obtain ⟨roles, blockedFrom, fields, mfa, recovery, preferences⟩ := toIUser_eq_some_iff.mp shown
  have shownFields : ∀ field, user.field field = shownField full.row.column field :=
    fun field => (fields field).symm
  have fieldsIff := fields_iff data roles blockedFrom
  simp only [← shownFields] at fieldsIff
  rw [afterUpdate_eq_some_iff]
  constructor
  · rintro ⟨accepted, mfaAccepted, recoveryAccepted, preferencesAccepted, found⟩
    obtain ⟨rolesAfter, blockedAfter, fieldsAfter, mfaAfter, recoveryAfter, preferencesAfter⟩ :=
      toIUser_eq_some_iff.mp found
    have kept := fieldsIff.mp
      ⟨accepted, rolesAfter, blockedAfter, fun field _ => fieldsAfter field⟩
    refine ⟨kept, (name_iff shownFields kept).mp (fieldsAfter .name), ?_, ?_, ?_⟩
    · rw [← mfa]
      exact (mfa_iff ids.toRowIds accepted).mp ⟨mfaAccepted, by rw [mfaAfter, mfa]; rfl⟩
    · rw [← recovery]
      exact (recovery_iff ids accepted).mp ⟨recoveryAccepted, by rw [recoveryAfter, recovery]; rfl⟩
    · rw [← preferences]
      exact (preferences_iff ids.toRowIds accepted).mp
        ⟨preferencesAccepted, by rw [preferencesAfter, preferences]; rfl⟩
  · intro keeps
    obtain ⟨accepted, rolesAfter, blockedAfter, fieldsAfter⟩ := fieldsIff.mpr keeps.fields
    have mfaAfter := (mfa_iff ids.toRowIds accepted).mpr (by rw [mfa]; exact keeps.mfa)
    have recoveryAfter := (recovery_iff ids accepted).mpr (by rw [recovery]; exact keeps.recovery)
    have preferencesAfter := (preferences_iff ids.toRowIds accepted).mpr
      (by rw [preferences]; exact keeps.notification_preferences)
    refine ⟨accepted, mfaAfter.1, recoveryAfter.1, preferencesAfter.1,
      toIUser_eq_some_iff.mpr ⟨rolesAfter, blockedAfter, ?_, ?_, ?_, ?_⟩⟩
    · intro field
      by_cases isName : field = .name
      · subst isName
        exact (name_iff shownFields keeps.fields).mpr keeps.name
      · exact fieldsAfter field isName
    · rw [mfaAfter.2, mfa]
      rfl
    · rw [recoveryAfter.2, recovery]
      rfl
    · rw [preferencesAfter.2, preferences]
      rfl

end User

end ParakoId.UserRecords.Prisma
