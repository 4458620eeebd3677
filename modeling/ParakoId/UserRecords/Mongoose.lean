import ParakoId.UserRecords.Record

/-!
`MongooseUserRepository`: a user in one document, whose objects an update replaces whole. The
schema of the model casts the texts that are given, and checks them.
-/

namespace ParakoId.UserRecords.Mongoose

open Accounts (trimmedText)
open PartialUpdates
open Recovery (Unicode UserRecovery)
open Schemas (trim)
open Text (utf16Length)

/-- What the schema depends on: the texts in lower case, the roles that are configured, and whether
the library takes null for one of the values of an enumeration. -/
structure UserSchema where
  unicode : Unicode
  persistableRoles : List String
  enumAcceptsNull : Bool

abbrev UserDocument := IUser

def lowercase (unicode : Unicode) (text : String) : String :=
  String.ofList (unicode.toLowerCase text.toList)

/-- The setters of a field, which make undefined of a blank identifier. The last one given runs
first. -/
def cast (unicode : Unicode) : (field : Field) → field.Value → Option field.Value
  | .email, text => some (trim (lowercase unicode text))
  | .custom_identifier_1, text => trimmedText (some text)
  | .custom_identifier_2, text => trimmedText (some text)
  | .custom_identifier_3, text => trimmedText (some text)
  | .roles, roles => some (roles.map trim)
  | .family_name, text => some (trim text)
  | .given_name, text => some (trim text)
  | .name, text => some (trim text)
  | .nickname, text => some (trim text)
  | .middle_name, text => some (trim text)
  | .phone_number, text => some (trim text)
  | .picture, text => some (trim text)
  | .locale, text => some (trim text)
  | .country, text => some (trim text)
  | .zoneinfo, text => some (trim text)
  | .city, text => some (trim text)
  | .address, text => some (trim text)
  | .street_address, text => some (trim text)
  | .region, text => some (trim text)
  | .postal_code, text => some (trim text)
  | .sub, text => some (trim text)
  | .username, text => some (trim text)
  | _, value => some value

def customIdentifiers : List Field :=
  [.custom_identifier_1, .custom_identifier_2, .custom_identifier_3]

def setter (unicode : Unicode) (field : Field) : Option field.Value → Option (Option field.Value)
  | none => if customIdentifiers.contains field then none else some none
  | some value => (cast unicode field value).map some

/-! `runValidators`, and what cannot be cast. -/

def acceptsUsername : Entry String → Bool
  | some .null => false
  | some (.value text) => trim text ≠ "" && utf16Length (trim text) ≤ 50
  | _ => true

-- the setter of the roles maps over them, and so throws on null
def acceptsRoles (persistableRoles : List String) : Entry (List String) → Bool
  | some .null => false
  | some (.value roles) => roles.all fun role => persistableRoles.contains (trim role)
  | _ => true

def enumFields : List Field := [.gender, .theme, .register_with, .auth_provider]

def acceptsEnums (enumAcceptsNull : Bool) (data : UserUpdate) : Bool :=
  enumAcceptsNull || enumFields.all fun field => !(data.field field).any Given.isNull

def acceptsRecovery : Entry UserRecovery → Bool
  | some (.value recovery) =>
    hasValidDates recovery && recovery.security_questions.all fun sqData =>
      sqData.questions.all fun question =>
        question.id ≠ "" && question.question_key ≠ "" && question.answer_hash ≠ ""
  | _ => true

def accepts (schema : UserSchema) (data : UserUpdate) : Bool :=
  acceptsUsername (data.field .username) &&
    acceptsRoles schema.persistableRoles (data.field .roles) &&
    acceptsEnums schema.enumAcceptsNull data && acceptsRecovery data.recovery

/-! `update`. -/

def fields (unicode : Unicode) (document : UserDocument) (data : UserUpdate) :
    (field : Field) → Option field.Value
  | .name =>
    if data.names.touchesName then
      (data.names.computed.bind (cast unicode .name)).or (document.field .name)
    else document.field .name
  | field => setting (setter unicode field) (data.field field) (document.field field)

def written (unicode : Unicode) (document : UserDocument) (data : UserUpdate) : UserDocument where
  field := fields unicode document data
  mfa := skipping (data.mfa.map (Given.map MfaUpdate.mfa)) document.mfa
  recovery := skipping (data.recovery.map (Given.map Recovery.Mongoose.update)) document.recovery
  notification_preferences :=
    skipping data.notification_preferences document.notification_preferences

def afterUpdate (schema : UserSchema) (document : UserDocument) (data : UserUpdate) :
    Option IUser :=
  if accepts schema data then some (written schema.unicode document data) else none

def NameKept (user : IUser) (data : UserUpdate) : Prop :=
  if data.names.touchesName then
    data.names.computed.or (user.field .name) = (user.updated data).field .name
  else data.field .name = some .undefined → user.field .name = none

structure Keeps (schema : UserSchema) (user : IUser) (data : UserUpdate) : Prop where
  accepted : accepts schema data = true
  fields : ∀ field, field ≠ .name →
    Kept (setter schema.unicode field) (data.field field) (user.field field)
  name : NameKept user data
  mfa : data.mfa = some .undefined → user.mfa = none
  recovery : data.recovery = some .undefined → user.recovery = none
  lockout : ∀ recovery lockout, data.recovery = some (.value recovery) →
    recovery.lockout = some lockout → lockout.locked = false
  notification_preferences :
    data.notification_preferences = some .undefined → user.notification_preferences = none

variable {schema : UserSchema} {user : IUser} {data : UserUpdate}

theorem cast_computed (unicode : Unicode) (data : UserUpdate) :
    data.names.computed.bind (cast unicode .name) = data.names.computed := by
  have clean : Accounts.DisplayNames.Clean data.names.computed :=
    Accounts.DisplayNames.clean_computed _ _ _ _
  cases isName : data.names.computed with
  | none => rfl
  | some name =>
    rw [isName] at clean
    simp [cast, (Accounts.DisplayNames.clean_some clean).1]

theorem name_iff (unicode : Unicode) :
    fields unicode user data .name = (user.updated data).field .name ↔ NameKept user data := by
  rw [fields, NameKept, cast_computed]
  split
  · rfl
  · rename_i untouched
    rcases name_skipped (Bool.not_eq_true _ ▸ untouched) with notGiven | undefined
    · simp [notGiven, asked]
    · simp [undefined, asked, Given.get?]

theorem field_iff (unicode : Unicode) {field : Field} (isOther : field ≠ .name) :
    fields unicode user data field = (user.updated data).field field ↔
      Kept (setter unicode field) (data.field field) (user.field field) := by
  have written : fields unicode user data field =
      setting (setter unicode field) (data.field field) (user.field field) := by
    cases field <;> first | rfl | exact absurd rfl isOther
  rw [written, updated_field, setting_eq_asked_iff]

theorem recovery_update_iff (recovery : UserRecovery) :
    Recovery.Mongoose.update recovery = recovery ↔
      ∀ lockout, recovery.lockout = some lockout → lockout.locked = false := by
  obtain ⟨⟨enabled, methods, lockout, recoveredAt, codes, sms⟩, secondary, questions⟩ := recovery
  cases lockout with
  | none => simp [Recovery.Mongoose.update]
  | some lockout =>
    obtain ⟨locked, lockedUntil, attempts, lastFailed⟩ := lockout
    cases locked with
    | false | true => simp [Recovery.Mongoose.update]

theorem recovery_iff (entry : Entry UserRecovery) (stored : Option UserRecovery) :
    skipping (entry.map (Given.map Recovery.Mongoose.update)) stored = asked entry stored ↔
      (entry = some .undefined → stored = none) ∧
        ∀ recovery lockout, entry = some (.value recovery) → recovery.lockout = some lockout →
          lockout.locked = false := by
  match entry with
  | none => simp [skipping, setting, asked]
  | some .undefined => simp [skipping, setting, asked, Given.map, Given.get?]
  | some .null => simp [skipping, setting, asked, Given.map, Given.get?]
  | some (.value recovery) =>
    simp only [skipping, setting, asked, Given.map, Given.get?, Option.map_some, Option.getD_some,
      Option.some.injEq, recovery_update_iff]
    simp only [reduceCtorEq, false_implies, true_and, Given.value.injEq]
    constructor
    · rintro unlocked _ lockout rfl isLocked
      exact unlocked lockout isLocked
    · intro unlocked lockout isLocked
      exact unlocked recovery lockout rfl isLocked

theorem mfa_iff (entry : Entry MfaUpdate) (stored : Option Mfa) :
    skipping (entry.map (Given.map MfaUpdate.mfa)) stored =
        asked (entry.map (Given.map MfaUpdate.mfa)) stored ↔
      (entry = some .undefined → stored = none) := by
  rw [skipping_eq_asked_iff]
  match entry with
  | none => simp
  | some .undefined => simp [Given.map]
  | some .null => simp [Given.map]
  | some (.value mfa) => simp [Given.map]

theorem round_trip_iff (schema : UserSchema) (user : IUser) (data : UserUpdate) :
    afterUpdate schema user data = some (user.updated data) ↔ Keeps schema user data := by
  rw [afterUpdate]
  by_cases accepted : accepts schema data = true
  · rw [if_pos accepted, Option.some.injEq, IUser.ext_iff, funext_iff]
    constructor
    · rintro ⟨fields, mfa, recovery, preferences⟩
      obtain ⟨cleared, unlocked⟩ := (recovery_iff data.recovery user.recovery).mp recovery
      refine ⟨accepted, ?_, (name_iff schema.unicode).mp (fields .name),
        (mfa_iff data.mfa user.mfa).mp mfa, cleared, unlocked,
        (skipping_eq_asked_iff _ _).mp preferences⟩
      exact fun field isOther => (field_iff schema.unicode isOther).mp (fields field)
    · intro keeps
      refine ⟨?_, (mfa_iff data.mfa user.mfa).mpr keeps.mfa,
        (recovery_iff data.recovery user.recovery).mpr ⟨keeps.recovery, keeps.lockout⟩,
        (skipping_eq_asked_iff _ _).mpr keeps.notification_preferences⟩
      intro field
      by_cases isName : field = .name
      · subst isName
        exact (name_iff schema.unicode).mpr keeps.name
      · exact (field_iff schema.unicode isName).mpr (keeps.fields field isName)
  · rw [if_neg accepted]
    constructor
    · intro found
      cases found
    · intro keeps
      exact absurd keeps.accepted accepted

end ParakoId.UserRecords.Mongoose
