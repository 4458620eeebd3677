import ParakoId.Accounts.PhoneNumbers
import ParakoId.Identifiers.Fields
import ParakoId.Library.Calls

/-!
The update of a profile: the avatar, the custom identifiers and the profile are stored by separate
calls, each of which may throw, and what an error leaves of them.
-/

namespace ParakoId.Accounts

open Calls (Call outcome outcome_bind outcome_pure outcome_throw outcome_tryCatch
  request)
open Identifiers (IdentifierField Language Slot given validateIdentifier)

structure StoredProfile where
  user : User
  picture : Option String
  custom_identifier : Slot → Option String

structure ProfileStores where
  user : Option StoredProfile
  files : List String

structure AvatarFile where
  key : String
  mimetype : String

structure SubmittedForm where
  profile : ProfileForm
  custom_identifier : Slot → FormValue

/-- The form is `none` where it is no record. -/
structure ProfileUpdateInput where
  currentPicture : Option String
  formData : Option SubmittedForm
  file : Option AvatarFile

inductive ProfileUpdateResult
  | invalid (error : String)
  | user_not_found
  | success (updatedUser : StoredProfile)

structure IdentifierChange where
  slot : Slot
  value : Option String

/-- `isCustomIdentifierAvailable` catches its own errors and is false then. -/
structure ProfileServices where
  language : Language
  fields : List IdentifierField
  isCustomIdentifierAvailable : Slot → String → Bool
  isValidHttpUrl : String → Bool

/-- What throws: a call with its error, the encoder at a width, and the storage at the key of a
variant. A file at a key that `deletes` names stays when it is to be deleted. -/
structure Faults where
  findUserById : Option String
  storeAvatar : Option String
  identifier : Nat → Option String
  update : Option String
  encodes : Nat → Bool
  stores : String → Bool
  deletes : String → Bool

section
variable (services : ProfileServices) (faults : Faults)

inductive Refusal
  | throws (error : String)
  | invalid (error : String)

def identifierChange (form : SubmittedForm) (user : StoredProfile) (field : IdentifierField) :
    Except Refusal (List IdentifierChange) :=
  if field.edit_policy = .admin_only then .ok []
  else match form.custom_identifier field.slot with
    | .undefined => .ok []
    | .other => .error (.invalid "Invalid profile field value")
    | .text formValue =>
      let trimmedValue := Schemas.trim formValue
      let label := if field.name = "" then "identifier" else field.name
      if field.edit_policy = .set_once ∧ given (user.custom_identifier field.slot) ≠ none then
        .ok []
      else if trimmedValue ≠ "" then
        match validateIdentifier services.language trimmedValue field with
        | none => .error (.throws "charsetChars.includes is not a function")
        | some false => .error (.invalid ("Invalid " ++ label ++ " format"))
        | some true =>
          let normalizedValue := if field.case_sensitive then trimmedValue
            else services.language.toLowerCase trimmedValue
          if services.isCustomIdentifierAvailable field.slot normalizedValue then
            .ok [⟨field.slot, some normalizedValue⟩]
          else .error (.invalid ("This " ++ label ++ " is already in use"))
      else if field.edit_policy = .full then .ok [⟨field.slot, none⟩]
      else .ok []

def prepareIdentifierChanges (form : SubmittedForm) (user : StoredProfile) :
    Except Refusal (List IdentifierChange) :=
  (services.fields.mapM (identifierChange services form user)).map List.flatten

def StoredProfile.changed (user : StoredProfile) (change : IdentifierChange) : StoredProfile :=
  { user with
    custom_identifier := Function.update user.custom_identifier change.slot change.value }

def updateUser (refusal : Option String) (change : StoredProfile → Except String StoredProfile) :
    Call String ProfileStores StoredProfile :=
  request refusal fun stores =>
    match stores.user with
    | none => .error "User not found"
    | some user => (change user).map fun updated => (updated, { stores with user := some updated })

def applyIdentifierChanges : Nat → List IdentifierChange → Call String ProfileStores Unit
  | _, [] => pure ()
  | index, change :: rest => do
      let _ ← updateUser (faults.identifier index) fun user => .ok (user.changed change)
      applyIdentifierChanges (index + 1) rest

/-- `UserService.updateProfile`: the profile is validated before it is written. -/
def persistProfile (profile : ProfileUpdateData) (picture : Option String) :
    Call String ProfileStores StoredProfile := do
  match validatedData profile with
  | .error error => throw error
  | .ok _ =>
    updateUser faults.update fun stored => (updateProfile stored.user profile).map fun user =>
      { stored with user, picture := (trimmedText picture).or stored.picture }

def stripExtension (key : String) : String :=
  let extension := key.toList.rtakeWhile (· ≠ '.')
  if '.' ∈ key.toList ∧ '/' ∉ extension then
    String.ofList (key.toList.take (key.toList.length - extension.length - 1))
  else key

/-- A variant in each format: avif, webp and jpeg. -/
def buildVariantKeys (baseKey : String) (width : Nat) : List String :=
  ["avif", "webp", "jpg"].map fun extension =>
    stripExtension baseKey ++ "-" ++ toString width ++ "." ++ extension

def isRasterImage (mimeType : String) : Bool :=
  mimeType ∈ ["image/jpeg", "image/png", "image/webp", "image/gif"]

def WIDTHS : List Nat := [320, 640, 1024, 1600]

/-- The files that are there in the end: all of them, or where something throws, those that were
stored before and cannot be deleted. -/
def generateVariants (baseKey : String) : List Nat → List String → List String
  | [], storedKeys => storedKeys
  | width :: rest, storedKeys =>
    let keys := buildVariantKeys baseKey width
    let stored := storedKeys ++ keys.filter (!faults.stores ·)
    if faults.encodes width then storedKeys.filter faults.deletes
    else if keys.any faults.stores then stored.filter faults.deletes
    else generateVariants baseKey rest stored

def uploadedFiles (file : AvatarFile) : List String :=
  file.key ::
    if isRasterImage file.mimetype then generateVariants faults file.key WIDTHS [] else []

def storeAvatar (file : AvatarFile) : Call String ProfileStores String :=
  request faults.storeAvatar fun stores =>
    .ok (file.key, { stores with files := uploadedFiles faults file ++ stores.files })

def startsWith (text start : String) : Bool := start.toList.isPrefixOf text.toList

def stripLegacyPrefix (keyOrPath : String) : String :=
  if startsWith keyOrPath "/uploads/" then String.ofList (keyOrPath.toList.drop 9) else keyOrPath

def deleteFile (key : String) (files : List String) : List String :=
  if key = "" ∨ services.isValidHttpUrl key ∨ startsWith key "/images/" ∨
      startsWith key "/favicon" then files
  else files.filter fun name => name ≠ stripLegacyPrefix key || faults.deletes name

def deleteAvatar (key : Option String) : Call String ProfileStores Unit :=
  request none fun stores =>
    .ok ((), { stores with
      files := key.elim stores.files (deleteFile services faults · stores.files) })

def uploadAvatar : Option AvatarFile → Call String ProfileStores (Option String)
  | none => pure none
  | some file => some <$> storeAvatar faults file

def writeProfile (profile : ProfileUpdateData) (changes : List IdentifierChange)
    (uploadedStorageKey : Option String) : Call String ProfileStores StoredProfile := do
  applyIdentifierChanges faults 0 changes
  persistProfile faults profile uploadedStorageKey

/-- The part in `try`. Nothing throws once the profile is persisted. -/
def saveProfile (input : ProfileUpdateInput) (profile : ProfileUpdateData)
    (changes : List IdentifierChange) : Call String ProfileStores ProfileUpdateResult := do
  let uploadedStorageKey ← uploadAvatar faults input.file
  let updatedUser ← tryCatch (writeProfile faults profile changes uploadedStorageKey)
    fun error => do
      deleteAvatar services faults uploadedStorageKey
      throw error
  deleteAvatar services faults ((given uploadedStorageKey).bind fun _ => input.currentPicture)
  return .success updatedUser

def AccountProfileService.updateProfile (input : ProfileUpdateInput) :
    Call String ProfileStores ProfileUpdateResult := do
  match input.formData with
  | none => return .invalid "Invalid profile field value"
  | some form =>
    match buildProfileData form.profile with
    | none => return .invalid "Invalid profile field value"
    | some profile =>
      match ← request faults.findUserById fun stores => .ok (stores.user, stores) with
      | none => return .user_not_found
      | some user =>
        match prepareIdentifierChanges services form user with
        | .error (.throws error) => throw error
        | .error (.invalid error) => return .invalid error
        | .ok changes => saveProfile services faults input profile changes

def writtenChanges : Nat → List IdentifierChange → List IdentifierChange
  | _, [] => []
  | index, change :: rest =>
    if faults.identifier index = none then change :: writtenChanges (index + 1) rest else []

def Persists (profile : ProfileUpdateData) : Prop :=
  (∃ validated, validatedData profile = .ok validated) ∧ faults.update = none

/-- What the upload of an avatar leaves once its file is deleted. -/
def leftBehind (file : AvatarFile) : List String :=
  deleteFile services faults file.key (uploadedFiles faults file)

def Atomic {Result : Type} (call : Call String ProfileStores Result) (stores : ProfileStores) :
    Prop :=
  ∀ error after, outcome call stores = (.error error, after) →
    after.user = stores.user ∧ ∀ name ∈ after.files, name ∈ stores.files

/-- What an update that is not turned down comes to save. -/
def submission (input : ProfileUpdateInput) (user : Option StoredProfile) :
    Option (StoredProfile × ProfileUpdateData × List IdentifierChange) := do
  let form ← input.formData
  let profile ← buildProfileData form.profile
  let user ← user
  let changes ← (prepareIdentifierChanges services form user).toOption
  return (user, profile, changes)

/-- A step after the upload throws. -/
structure FailsLate (input : ProfileUpdateInput) (profile : ProfileUpdateData)
    (changes : List IdentifierChange) : Prop where
  found : faults.findUserById = none
  uploads : input.file.isSome → faults.storeAvatar = none
  fails : ¬(writtenChanges faults 0 changes = changes ∧ Persists faults profile)

structure RollsBack (input : ProfileUpdateInput) (stores : ProfileStores) (user : StoredProfile)
    (changes : List IdentifierChange) : Prop where
  user : (writtenChanges faults 0 changes).foldl StoredProfile.changed user = user
  files : ∀ file, input.file = some file → ∀ name ∈ leftBehind services faults file,
    name ∈ stores.files

variable {services faults}

theorem outcome_updateUser (refusal : Option String)
    (change : StoredProfile → Except String StoredProfile) (user : StoredProfile)
    (files : List String) :
    outcome (updateUser refusal change) ⟨some user, files⟩ =
      match refusal, change user with
      | some error, _ => (.error error, ⟨some user, files⟩)
      | none, .error error => (.error error, ⟨some user, files⟩)
      | none, .ok updated => (.ok updated, ⟨some updated, files⟩) := by
  cases refusal with
  | some error => rfl
  | none =>
    rw [updateUser, Calls.outcome_request]
    cases isChange : change user <;> simp [isChange, Except.map]

theorem outcome_applyIdentifierChanges (index : Nat) (changes : List IdentifierChange)
    (user : StoredProfile) (files : List String) :
    ∃ ended, outcome (applyIdentifierChanges faults index changes) ⟨some user, files⟩ =
        (ended, ⟨some ((writtenChanges faults index changes).foldl StoredProfile.changed user),
          files⟩) ∧ (ended = .ok () ↔ writtenChanges faults index changes = changes) := by
  induction changes generalizing index user with
  | nil => exact ⟨.ok (), rfl, iff_of_true rfl rfl⟩
  | cons change rest ih =>
    rw [applyIdentifierChanges, outcome_bind, outcome_updateUser, writtenChanges]
    cases faults.identifier index with
    | some error => exact ⟨.error error, rfl, iff_of_false nofun nofun⟩
    | none =>
      obtain ⟨ended, isOutcome, ends⟩ := ih (index + 1) (user.changed change)
      exact ⟨ended, isOutcome, by simp [ends]⟩

theorem outcome_persistProfile (profile : ProfileUpdateData) (picture : Option String)
    (user : StoredProfile) (files : List String) :
    ∃ ended after, outcome (persistProfile faults profile picture) ⟨some user, files⟩ =
        (ended, after) ∧
      ((Persists faults profile ∧ ∃ updated, ended = .ok updated) ∨
        ¬Persists faults profile ∧ ∃ error, ended = .error error ∧ after = ⟨some user, files⟩) := by
  rw [persistProfile]
  cases isValid : validatedData profile with
  | error error =>
    exact ⟨_, _, rfl, .inr ⟨by simp [Persists, isValid], error, rfl, rfl⟩⟩
  | ok validated =>
    dsimp only
    rw [outcome_updateUser, updateProfile, isValid]
    cases updates : faults.update with
    | none => exact ⟨_, _, rfl, .inl ⟨⟨⟨validated, isValid⟩, updates⟩, _, rfl⟩⟩
    | some error => exact ⟨_, _, rfl, .inr ⟨by simp [Persists, updates], error, rfl, rfl⟩⟩

theorem outcome_writeProfile (profile : ProfileUpdateData) (changes : List IdentifierChange)
    (picture : Option String) (user : StoredProfile) (files : List String) :
    ∃ ended after, outcome (writeProfile faults profile changes picture) ⟨some user, files⟩ =
        (ended, after) ∧
      ((writtenChanges faults 0 changes = changes ∧ Persists faults profile) ∧
          (∃ updated, ended = .ok updated) ∨
        ¬(writtenChanges faults 0 changes = changes ∧ Persists faults profile) ∧
          (∃ error, ended = .error error) ∧
          after = ⟨some ((writtenChanges faults 0 changes).foldl StoredProfile.changed user),
            files⟩) := by
  obtain ⟨applied, isApplied, applies⟩ := outcome_applyIdentifierChanges 0 changes user files
  rw [writeProfile, outcome_bind, isApplied]
  cases applied with
  | error error =>
    refine ⟨_, _, rfl, .inr ⟨fun both => ?_, ⟨error, rfl⟩, rfl⟩⟩
    cases applies.mpr both.1
  | ok _ =>
    obtain ⟨ended, after, isEnded, ends⟩ := outcome_persistProfile profile picture
      ((writtenChanges faults 0 changes).foldl StoredProfile.changed user) files
    refine ⟨ended, after, isEnded, ends.imp ?_ ?_⟩
    · exact fun ⟨persists, isOk⟩ => ⟨⟨applies.mp rfl, persists⟩, isOk⟩
    · exact fun ⟨fails, error, isError, same⟩ =>
        ⟨fun both => fails both.2, ⟨error, isError⟩, same⟩

theorem outcome_deleteAvatar (key : Option String) (stores : ProfileStores) :
    outcome (deleteAvatar services faults key) stores = (.ok (), { stores with
      files := key.elim stores.files (deleteFile services faults · stores.files) }) := rfl

theorem outcome_uploadAvatar {file : Option AvatarFile} {user : Option StoredProfile}
    {files : List String} (uploads : file.isSome → faults.storeAvatar = none) :
    outcome (uploadAvatar faults file) ⟨user, files⟩ = (.ok (file.map AvatarFile.key),
      ⟨user, file.elim files (uploadedFiles faults · ++ files)⟩) := by
  cases file with
  | none => rfl
  | some file =>
    rw [uploadAvatar, storeAvatar, uploads rfl]
    rfl

theorem mem_deleteFile_append {key name : String} {new old : List String} :
    name ∈ deleteFile services faults key (new ++ old) ↔
      name ∈ deleteFile services faults key new ∨ name ∈ deleteFile services faults key old := by
  simp only [deleteFile]
  split <;> simp

theorem deleteFile_subset (key : String) (files : List String) :
    deleteFile services faults key files ⊆ files := by
  rw [deleteFile]
  split
  · exact List.Subset.refl files
  · exact List.filter_subset_self files

theorem atomic_pure {Result : Type} (result : Result) (stores : ProfileStores) :
    Atomic (pure result) stores := by
  intro error after isOutcome
  rw [outcome_pure] at isOutcome
  cases isOutcome

theorem atomic_refused {Result : Type} {call : Call String ProfileStores Result}
    {stores : ProfileStores} (refused : Calls.Refused call stores) : Atomic call stores := by
  obtain ⟨error, isError⟩ := refused
  intro other after isOutcome
  cases isError.symm.trans isOutcome
  exact ⟨rfl, fun _ => id⟩

theorem atomic_read {Result : Type}
    (next : Option StoredProfile → Call String ProfileStores Result) (stores : ProfileStores) :
    Atomic (request none (fun stores => .ok (stores.user, stores)) >>= next) stores ↔
      Atomic (next stores.user) stores := by
  rw [Atomic, outcome_bind, Calls.outcome_request]
  rfl

theorem saveProfile_atomic_iff {input : ProfileUpdateInput} (profile : ProfileUpdateData)
    (changes : List IdentifierChange) {user : StoredProfile} {stores : ProfileStores}
    (isUser : stores.user = some user) :
    Atomic (saveProfile services faults input profile changes) stores ↔
      ((input.file.isSome → faults.storeAvatar = none) →
        ¬(writtenChanges faults 0 changes = changes ∧ Persists faults profile) →
          RollsBack services faults input stores user changes) := by
  obtain ⟨_, files⟩ := stores
  cases isUser
  by_cases uploads : input.file.isSome → faults.storeAvatar = none
  · rw [imp_iff_right uploads, Atomic, saveProfile, outcome_bind, outcome_uploadAvatar uploads]
    obtain ⟨ended, middle, isEnded, ends⟩ := outcome_writeProfile profile changes
      (input.file.map AvatarFile.key) user (input.file.elim files (uploadedFiles faults · ++ files))
    dsimp only
    rw [outcome_bind, outcome_tryCatch, isEnded]
    rcases ends with ⟨both, updated, rfl⟩ | ⟨fails, ⟨error, rfl⟩, rfl⟩
    · dsimp only
      rw [outcome_bind, outcome_deleteAvatar]
      dsimp only
      rw [outcome_pure]
      refine iff_of_true ?_ fun fails => absurd both fails
      intro error after isOutcome
      cases isOutcome
    · dsimp only
      rw [outcome_bind, outcome_deleteAvatar]
      dsimp only
      rw [outcome_throw, imp_iff_right fails]
      dsimp only
      constructor
      · intro atomic
        obtain ⟨sameUser, sameFiles⟩ := atomic error _ rfl
        refine ⟨Option.some.inj sameUser, fun file isFile name isLeft => sameFiles name ?_⟩
        rw [isFile]
        exact mem_deleteFile_append.mpr (.inl isLeft)
      · rintro rollsBack _ _ ⟨⟩
        refine ⟨congrArg some rollsBack.user, fun name member => ?_⟩
        cases isFile : input.file with
        | none =>
          rw [isFile] at member
          exact member
        | some file =>
          rw [isFile] at member
          obtain isLeft | isOld := mem_deleteFile_append.mp member
          · exact rollsBack.files file isFile name isLeft
          · exact deleteFile_subset file.key files isOld
  · refine iff_of_true (atomic_refused ?_) fun stored => absurd stored uploads
    obtain ⟨isFile, refuses⟩ := Classical.not_imp.mp uploads
    obtain ⟨file, isFile⟩ := Option.isSome_iff_exists.mp isFile
    obtain ⟨error, refuses⟩ := Option.ne_none_iff_exists'.mp refuses
    rw [saveProfile, isFile, uploadAvatar, storeAvatar, refuses]
    exact Calls.Refused.bind ⟨error, rfl⟩ _

end

def memberServices : ProfileServices where
  language := Identifiers.asciiLanguage
  fields := [Identifiers.memberField]
  isCustomIdentifierAvailable _ _ := true
  isValidHttpUrl _ := false

def noFaults : Faults := ⟨none, none, fun _ => none, none, fun _ => false, fun _ => false,
  fun _ => false⟩

def newMember : ProfileUpdateInput where
  currentPicture := none
  formData := some ⟨⟨.undefined, .undefined, .text "call me"⟩, fun _ => .text "Ann-7"⟩
  file := some ⟨"default/avatars/ann.png", "image/png"⟩

def beforeMember : ProfileStores := ⟨some ⟨.signedUp "hash" none, none, fun _ => none⟩, []⟩

def memberEnds : Except String ProfileUpdateResult × ProfileStores :=
  outcome (AccountProfileService.updateProfile memberServices noFaults newMember) beforeMember

end ParakoId.Accounts
