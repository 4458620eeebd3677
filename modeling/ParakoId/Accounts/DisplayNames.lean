import ParakoId.Accounts.PhoneNumbers

/-! The display name in both repositories. -/

namespace ParakoId.Accounts.DisplayNames

open Runs (AlwaysFrom AllowedFrom)

/-- The fields that a name is made of, as they are stored; `null` and no field are the same. -/
structure NameFields where
  given_name : Option String
  family_name : Option String
  custom_identifier_1 : Option String
  name : Option String

inductive FieldUpdate
  | undefined
  | null
  | text (content : String)
  deriving DecidableEq

structure NameUpdate where
  given_name : FieldUpdate
  family_name : FieldUpdate
  custom_identifier_1 : FieldUpdate
  name : FieldUpdate

def FieldUpdate.value : FieldUpdate → Option String
  | .text content => some content
  | _ => none

def FieldUpdate.set (cast : String → String) (stored : Option String) :
    FieldUpdate → Option String
  | .undefined => stored
  | .null => none
  | .text content => some (cast content)

def computeUserName (givenName familyName customIdentifier1 storedName : Option String) :
    Option String :=
  ((fullName (trimmedText givenName) (trimmedText familyName)).or (trimmedText storedName)).or
    (trimmedText customIdentifier1)

def NameFields.computed (fields : NameFields) : Option String :=
  computeUserName fields.given_name fields.family_name fields.custom_identifier_1 fields.name

def NameUpdate.computed (data : NameUpdate) : Option String :=
  computeUserName data.given_name.value data.family_name.value data.custom_identifier_1.value
    data.name.value

def NameUpdate.touchesName (data : NameUpdate) : Bool :=
  data.given_name ≠ .undefined || data.family_name ≠ .undefined || data.name ≠ .undefined

structure UserRepository where
  create : NameUpdate → NameFields
  update : NameFields → NameUpdate → NameFields
  shownName : NameFields → Option String

def PrismaUserRepository : UserRepository where
  create data :=
    { given_name := data.given_name.value
      family_name := data.family_name.value
      custom_identifier_1 := data.custom_identifier_1.value
      name := data.computed }
  update user data :=
    { given_name := data.given_name.set id user.given_name
      family_name := data.family_name.set id user.family_name
      custom_identifier_1 := data.custom_identifier_1.set id user.custom_identifier_1
      name := if data.touchesName then data.computed else user.name }
  shownName := NameFields.computed

def preSave (document : NameFields) : NameFields :=
  { document with
    name := ((fullName (trimmedText document.given_name) (trimmedText document.family_name)).or
      (trimmedText document.custom_identifier_1)).or document.name }

/-- Texts are trimmed; an identifier that is blank becomes undefined, and what is undefined is
dropped from an update. -/
def MongooseUserRepository : UserRepository where
  create data := preSave
    { given_name := data.given_name.set Schemas.trim none
      family_name := data.family_name.set Schemas.trim none
      custom_identifier_1 := trimmedText data.custom_identifier_1.value
      name := data.name.set Schemas.trim none }
  update user data :=
    { given_name := data.given_name.set Schemas.trim user.given_name
      family_name := data.family_name.set Schemas.trim user.family_name
      custom_identifier_1 :=
        (trimmedText data.custom_identifier_1.value).or user.custom_identifier_1
      name := if data.touchesName then data.computed.or user.name else user.name }
  shownName := NameFields.name

inductive UserEvent
  | create (data : NameUpdate)
  | update (data : NameUpdate)

def UserRepository.step (repository : UserRepository) :
    Option NameFields → UserEvent → Option NameFields
  | none, .create data => some (repository.create data)
  | some user, .update data => some (repository.update user data)
  | user, _ => user

def ShowsFullName (repository : UserRepository) (stored : Option NameFields) : Prop :=
  ∀ user, stored = some user → repository.shownName user = user.computed

/-- The name that an update computes from its own fields or, if these give none, the one stored
before is the full name of the given and family names stored after it; without either there is
some name, or no identifier that would stand for one. A user is not created with a blank name
alone. -/
def GivesFullName : Option NameFields → UserEvent → Prop
  | none, .create data =>
    fullName (trimmedText data.given_name.value) (trimmedText data.family_name.value) = none →
      trimmedText data.custom_identifier_1.value = none →
        ∀ text, data.name = .text text → trimmedText (some text) ≠ none
  | some user, .update data =>
    let written := if data.touchesName then data.computed else none
    match fullName (trimmedText (data.given_name.set Schemas.trim user.given_name))
      (trimmedText (data.family_name.set Schemas.trim user.family_name)) with
    | some full => written.or user.name = some full
    | none => written.or user.name = none →
        trimmedText data.custom_identifier_1.value = none ∧
          trimmedText user.custom_identifier_1 = none
  | _, _ => True

theorem trimmedText_some {content text : String} (isText : trimmedText (some content) = some text) :
    text = Schemas.trim content ∧ text ≠ "" := by
  simp only [trimmedText, Option.map_some, truthy, Option.filter_eq_some_iff,
    Option.some.injEq] at isText
  obtain ⟨rfl, nonempty⟩ := isText
  exact ⟨rfl, of_decide_eq_true nonempty⟩

theorem trimmedText_trim (content : String) :
    trimmedText (some (Schemas.trim content)) = trimmedText (some content) := by
  simp only [trimmedText, Option.map_some, Schemas.trim_trim]

def Clean (name : Option String) : Prop := trimmedText name = name

theorem clean_none : Clean none := rfl

theorem clean_trimmedText (value : Option String) : Clean (trimmedText value) := by
  cases value with
  | none => rfl
  | some content =>
    cases isText : trimmedText (some content) with
    | none => rfl
    | some text =>
      rw [Clean, (trimmedText_some isText).1, trimmedText_trim, isText,
        (trimmedText_some isText).1]

theorem clean_or {first second : Option String} (firstClean : Clean first)
    (secondClean : Clean second) : Clean (first.or second) := by
  cases first with
  | none => exact secondClean
  | some content => exact firstClean

theorem clean_some {text : String} (clean : Clean (some text)) :
    Schemas.trim text = text ∧ text ≠ "" := by
  obtain ⟨isTrimmed, nonempty⟩ := trimmedText_some clean
  exact ⟨isTrimmed.symm, nonempty⟩

theorem clean_fullName {given family : Option String} (givenClean : Clean given)
    (familyClean : Clean family) : Clean (fullName given family) := by
  cases given with
  | none => simpa [fullName] using familyClean
  | some firstname =>
    cases family with
    | none => simpa [fullName] using givenClean
    | some lastname =>
      obtain ⟨firstTrimmed, firstNonempty⟩ := clean_some givenClean
      obtain ⟨lastTrimmed, lastNonempty⟩ := clean_some familyClean
      have joined : Schemas.trim (firstname ++ " " ++ lastname) = firstname ++ " " ++ lastname :=
        Schemas.trim_join " " firstTrimmed firstNonempty lastTrimmed lastNonempty
      have nonempty : firstname ++ " " ++ lastname ≠ "" := by
        simp [firstNonempty]
      simp [Clean, fullName, trimmedText, truthy, joined, nonempty]

theorem clean_computed (givenName familyName customIdentifier1 storedName : Option String) :
    Clean (computeUserName givenName familyName customIdentifier1 storedName) :=
  clean_or (clean_or (clean_fullName (clean_trimmedText _) (clean_trimmedText _))
    (clean_trimmedText _)) (clean_trimmedText _)

theorem trimmedText_set (update : FieldUpdate) :
    trimmedText (update.set Schemas.trim none) = trimmedText update.value := by
  cases update with
  | text content => exact trimmedText_trim content
  | _ => rfl

theorem computed_eq_iff {user : NameFields} (clean : Clean user.name) :
    user.name = user.computed ↔
      match fullName (trimmedText user.given_name) (trimmedText user.family_name) with
      | some full => user.name = some full
      | none => user.name = none → trimmedText user.custom_identifier_1 = none := by
  rw [NameFields.computed, computeUserName, show trimmedText user.name = user.name from clean]
  cases fullName (trimmedText user.given_name) (trimmedText user.family_name) with
  | some full => simp
  | none =>
    cases isName : user.name with
    | some name => simp
    | none => simp [eq_comm]

theorem shows_iff (repository : UserRepository) (user : NameFields) :
    ShowsFullName repository (some user) ↔ repository.shownName user = user.computed := by
  simp [ShowsFullName]

theorem created_shows_iff (data : NameUpdate) :
    ShowsFullName MongooseUserRepository (some (MongooseUserRepository.create data)) ↔
      GivesFullName none (.create data) := by
  rw [shows_iff]
  have custom := clean_trimmedText data.custom_identifier_1.value
  rw [Clean] at custom
  simp only [MongooseUserRepository, preSave, NameFields.computed, computeUserName,
    trimmedText_set, custom, GivesFullName]
  cases fullName (trimmedText data.given_name.value) (trimmedText data.family_name.value) with
  | some full => simp
  | none =>
    cases isCustom : trimmedText data.custom_identifier_1.value with
    | some identifier =>
      rw [isCustom] at custom
      simp [custom]
    | none =>
      cases isName : data.name with
      | undefined | null => simp [FieldUpdate.set, trimmedText, truthy]
      | text content =>
        cases isText : trimmedText (some content) with
        | none => simp [FieldUpdate.set, trimmedText_trim, isText]
        | some text => simp [FieldUpdate.set, trimmedText_trim, isText,
            (trimmedText_some isText).1]

theorem updated_name (user : NameFields) (data : NameUpdate) :
    (MongooseUserRepository.update user data).name =
      (if data.touchesName then data.computed else none).or user.name := by
  simp only [MongooseUserRepository]
  split <;> rfl

theorem updated_shows_iff (user : NameFields) (data : NameUpdate)
    (shows : ShowsFullName MongooseUserRepository (some user)) :
    ShowsFullName MongooseUserRepository (some (MongooseUserRepository.update user data)) ↔
      GivesFullName (some user) (.update data) := by
  rw [shows_iff] at shows ⊢
  have wasClean : Clean user.name := by
    have same : user.name = user.computed := shows
    rw [same]
    exact clean_computed _ _ _ _
  have clean : Clean (MongooseUserRepository.update user data).name := by
    rw [updated_name]
    refine clean_or ?_ wasClean
    split
    · exact clean_computed _ _ _ _
    · exact clean_none
  refine (computed_eq_iff clean).trans ?_
  rw [updated_name]
  have custom : trimmedText (MongooseUserRepository.update user data).custom_identifier_1 = none ↔
      trimmedText data.custom_identifier_1.value = none ∧
        trimmedText user.custom_identifier_1 = none := by
    have written := clean_trimmedText data.custom_identifier_1.value
    rw [Clean] at written
    simp only [MongooseUserRepository]
    cases isWritten : trimmedText data.custom_identifier_1.value with
    | none => simp
    | some identifier =>
      rw [isWritten] at written
      simp [written]
  rw [custom]
  exact Iff.rfl

theorem shows_step_iff (stored : Option NameFields) (event : UserEvent)
    (shows : ShowsFullName MongooseUserRepository stored) :
    ShowsFullName MongooseUserRepository (MongooseUserRepository.step stored event) ↔
      GivesFullName stored event := by
  cases stored with
  | none =>
    cases event with
    | create data => exact created_shows_iff data
    | update data => exact iff_of_true shows trivial
  | some user =>
    cases event with
    | create data => exact iff_of_true shows trivial
    | update data => exact updated_shows_iff user data shows

/-- After any creates and updates of a user, the SQL repository shows the name of all stored
fields, and the MongoDB one exactly where each of them gives it the full name. -/
theorem full_name_shown_iff (events : List UserEvent) :
    AlwaysFrom PrismaUserRepository.step (ShowsFullName PrismaUserRepository) none events ∧
      (AlwaysFrom MongooseUserRepository.step (ShowsFullName MongooseUserRepository) none events ↔
        AllowedFrom MongooseUserRepository.step GivesFullName none events) := by
  constructor
  · refine (Runs.always_iff_initialRuns _ _ _ _).mpr ?_
    intro done _ user _
    rfl
  · have exactly : AlwaysFrom MongooseUserRepository.step (ShowsFullName MongooseUserRepository)
        none events ↔ _ ∧ AllowedFrom MongooseUserRepository.step GivesFullName none events :=
      Runs.always_iff_start _ shows_step_iff none events
    refine exactly.trans (and_iff_right ?_)
    rintro user ⟨⟩

def onlyGivenName : List UserEvent :=
  [.create ⟨.text "Ada", .text "Lovelace", .undefined, .undefined⟩,
    .update ⟨.text "Augusta", .undefined, .undefined, .undefined⟩]

theorem family_name_missing :
    ¬ShowsFullName MongooseUserRepository
      (Runs.run MongooseUserRepository.step none onlyGivenName) := by
  intro shows
  exact absurd (shows _ rfl) (by decide +kernel)

end ParakoId.Accounts.DisplayNames
