import Mathlib.Algebra.Order.BigOperators.Group.List
import Mathlib.Algebra.Order.Ring.Nat
import ParakoId.SocialAccounts.Integrations
import ParakoId.UserRecords.Mongoose

/-!
Imports of rows from a file: `DataTransferService`, which first validates all the rows and then
inserts them one by one, and the columns and the rules of the import of users.
-/

namespace ParakoId.DataTransfer

open Schemas (trim)
open SocialAccounts (Database)
open Text (utf16Length)
open UserRecords (Field Gender RegisterWith)

abbrev Row := String → Option Json

inductive ColumnGroup
  | core
  | sensitive
  | internal

structure EntityColumnDef where
  field : String
  header : String
  required : Bool
  group : ColumnGroup
  validator : Option (Json → List String)
  aliases : List String

structure EntityImportConfig (Data World : Type) where
  entityId : String
  columns : List EntityColumnDef
  maxRows : Option JsNumber
  checkDuplicate : Row → World → Option String
  prepareRow : Row → Except String Data
  insertRow : Data → World → Except String World

structure ImportRowError where
  rowNumber : Nat
  fields : List (String × String)
  error : String

structure ValidationResult where
  valid : Bool
  totalRows : Nat
  validCount : Nat
  errors : List ImportRowError
  skippedCount : Nat

/-- How long the import took is left out. -/
structure ImportResult where
  totalRows : Nat
  successCount : Nat
  errorCount : Nat
  skippedCount : Nat
  errors : List ImportRowError

/-- `undefined`, `null` or `''`. -/
def isEmpty : Option Json → Bool
  | none => true
  | some .null => true
  | some (.str text) => text = ""
  | some _ => false

/-- `String(value ?? '')`, where no object hides `toString`. -/
def textOf (conversions : Json.Conversions) : Option Json → String
  | none => ""
  | some .null => ""
  | some value => (value.toText conversions).getD ""

def validateField (row : Row) (column : EntityColumnDef) : Option (String × String) :=
  match row column.field, isEmpty (row column.field), column.validator with
  | _, true, _ =>
    if column.required then some (column.field, column.header ++ " is required") else none
  | some value, false, some validator =>
    if validator value = [] then none
    else some (column.field, ", ".intercalate (validator value))
  | _, _, _ => none

def validateRowFields (row : Row) (columns : List EntityColumnDef) : List (String × String) :=
  columns.filterMap (validateField row)

section
variable {Data World : Type} (conversions : Json.Conversions)
  (config : EntityImportConfig Data World)

def isSafeInteger : JsNumber → Bool
  | .finite value => value.den = 1 && |value.num| < 2 ^ 53
  | _ => false

def assertImportRowLimit (rowCount : Nat) : Except String Unit :=
  let maxRows := config.maxRows.getD 5000
  if isSafeInteger maxRows = false ∨ maxRows ≤ 0 then
    .error ("Invalid maximum row count for " ++ config.entityId)
  else if maxRows < .finite rowCount then
    .error ("Row count " ++ toString rowCount ++ " exceeds maximum " ++
      conversions.numberToString maxRows ++ " for " ++ config.entityId)
  else .ok ()

structure ValidationState where
  errors : List ImportRowError
  validCount : Nat
  skippedCount : Nat

def emailFields (row : Row) : List (String × String) :=
  [("email", textOf conversions (row "email"))]

def validateRow (world : World) (rowNumber : Nat) (row : Row) (state : ValidationState) :
    ValidationState :=
  let fieldErrors := validateRowFields row config.columns
  if fieldErrors ≠ [] then
    { state with errors := state.errors ++ [⟨rowNumber, fieldErrors, "Validation failed"⟩] }
  else match config.checkDuplicate row world with
    | some dupError => { state with
        skippedCount := state.skippedCount + 1
        errors := state.errors ++ [⟨rowNumber, emailFields conversions row, dupError⟩] }
    | none => { state with validCount := state.validCount + 1 }

def validateRows (world : World) : Nat → List Row → ValidationState → ValidationState
  | _, [], state => state
  | rowNumber, row :: rest, state =>
    validateRows world (rowNumber + 1) rest
      (validateRow conversions config world rowNumber row state)

def validateImport (rows : List Row) (world : World) : Except String ValidationResult := do
  assertImportRowLimit conversions config rows.length
  let state := validateRows conversions config world 1 rows ⟨[], 0, 0⟩
  return {
    valid := state.errors = []
    totalRows := rows.length
    validCount := state.validCount
    errors := state.errors.take 100
    skippedCount := state.skippedCount }

structure ImportState (World : Type) where
  world : World
  errors : List ImportRowError
  successCount : Nat

/-- What is inserted, or what becomes of the error. -/
def importRow (row : Row) (world : World) : Except (List (String × String) × String) World :=
  let fieldErrors := validateRowFields row config.columns
  if fieldErrors ≠ [] then .error (fieldErrors, "Validation failed")
  else match config.prepareRow row with
    | .error message => .error (emailFields conversions row, message)
    | .ok prepared =>
      (config.insertRow prepared world).mapError fun message =>
        (emailFields conversions row, message)

def executeRows : Nat → List Row → ImportState World → ImportState World
  | _, [], state => state
  | rowNumber, row :: rest, state =>
    executeRows (rowNumber + 1) rest <|
      match importRow conversions config row state.world with
      | .ok world => { state with world, successCount := state.successCount + 1 }
      | .error (fields, error) =>
        { state with errors := state.errors ++ [⟨rowNumber, fields, error⟩] }

/-- Activities, logs and the reports of progress are left out. -/
def executeImport (rows : List Row) (world : World) : Except String (ImportResult × World) := do
  assertImportRowLimit conversions config rows.length
  let state := executeRows conversions config 1 rows ⟨world, [], 0⟩
  return ({
    totalRows := rows.length
    successCount := state.successCount
    errorCount := state.errors.length
    skippedCount := 0
    errors := state.errors.take 100 }, state.world)

end

section
variable {Data World : Type} {conversions : Json.Conversions}
  {config : EntityImportConfig Data World}

/-- A row that `validateImport` finds valid. -/
def previewed (config : EntityImportConfig Data World) (world : World) (row : Row) : Bool :=
  validateRowFields row config.columns = [] && (config.checkDuplicate row world).isNone

theorem validateRow_counts (conversions : Json.Conversions)
    (config : EntityImportConfig Data World) (world : World) (rowNumber : Nat) (row : Row)
    (state : ValidationState) :
    let after := validateRow conversions config world rowNumber row state
    after.validCount = state.validCount + (if previewed config world row then 1 else 0) ∧
      after.errors.length =
        state.errors.length + (if previewed config world row then 0 else 1) := by
  rw [validateRow, previewed]
  by_cases passes : validateRowFields row config.columns = []
  · cases config.checkDuplicate row world <;> simp [passes]
  · simp [passes]

theorem validateRows_counts (conversions : Json.Conversions)
    (config : EntityImportConfig Data World) (world : World) (rows : List Row) (rowNumber : Nat)
    (state : ValidationState) :
    let after := validateRows conversions config world rowNumber rows state
    after.validCount = state.validCount + rows.countP (previewed config world) ∧
      after.errors.length + after.validCount =
        state.errors.length + state.validCount + rows.length := by
  induction rows generalizing rowNumber state with
  | nil => simp [validateRows]
  | cons row rest ih =>
    have counts := validateRow_counts conversions config world rowNumber row state
    have later := ih (rowNumber + 1) (validateRow conversions config world rowNumber row state)
    rw [validateRows, List.countP_cons, List.length_cons]
    dsimp only at counts later ⊢
    cases isValid : previewed config world row <;> simp only [isValid] at counts ⊢ <;>
      simp at counts ⊢ <;> omega

theorem executeRows_total (conversions : Json.Conversions)
    (config : EntityImportConfig Data World) (rows : List Row) (rowNumber : Nat)
    (state : ImportState World) :
    (executeRows conversions config rowNumber rows state).successCount +
        (executeRows conversions config rowNumber rows state).errors.length =
      state.successCount + state.errors.length + rows.length := by
  induction rows generalizing rowNumber state with
  | nil => simp [executeRows]
  | cons row rest ih =>
    rw [executeRows, ih, List.length_cons]
    split
    · dsimp only
      omega
    · dsimp only
      rw [List.length_append, List.length_singleton]
      omega

theorem executeImport_total {rows : List Row} {world after : World} {result : ImportResult}
    (isResult : executeImport conversions config rows world = .ok (result, after)) :
    result.totalRows = result.successCount + result.errorCount := by
  rw [executeImport] at isResult
  cases limit : assertImportRowLimit conversions config rows.length with
  | error refusal => simp [limit, Bind.bind, Except.bind] at isResult
  | ok _ =>
    have total := executeRows_total conversions config rows 1 ⟨world, [], 0⟩
    simp only [limit, Bind.bind, Except.bind, Pure.pure, Except.pure, Except.ok.injEq,
      Prod.mk.injEq] at isResult
    obtain ⟨rfl, -⟩ := isResult
    simpa using total.symm

def InsertsPreviewed (conversions : Json.Conversions) (config : EntityImportConfig Data World)
    (first : World) : World → List Row → Prop
  | _, [] => True
  | world, row :: rest =>
    match importRow conversions config row world with
    | .ok next => InsertsPreviewed conversions config first next rest
    | .error _ => previewed config first row = false ∧
        InsertsPreviewed conversions config first world rest

structure Grows (conversions : Json.Conversions) (config : EntityImportConfig Data World)
    (first : World) (Later : World → Prop) : Prop where
  start : Later first
  step : ∀ row world next, Later world → importRow conversions config row world = .ok next →
    Later next ∧ previewed config first row = true

theorem executeRows_count {first : World} {Later : World → Prop}
    (grows : Grows conversions config first Later) (rows : List Row) (rowNumber : Nat)
    (state : ImportState World) (later : Later state.world) :
    let after := executeRows conversions config rowNumber rows state
    after.successCount ≤ state.successCount + rows.countP (previewed config first) ∧
      (after.successCount = state.successCount + rows.countP (previewed config first) ↔
        InsertsPreviewed conversions config first state.world rows) := by
  induction rows generalizing rowNumber state with
  | nil => simp [executeRows, InsertsPreviewed]
  | cons row rest ih =>
    rw [executeRows, InsertsPreviewed, List.countP_cons]
    cases imported : importRow conversions config row state.world with
    | ok next =>
      obtain ⟨laterNext, valid⟩ := grows.step row state.world next later imported
      obtain ⟨atMost, exactly⟩ := ih (rowNumber + 1)
        ⟨next, state.errors, state.successCount + 1⟩ laterNext
      dsimp only at atMost exactly ⊢
      rw [valid, if_pos rfl]
      refine ⟨by omega, ?_⟩
      rw [← exactly]
      constructor <;> intro same <;> omega
    | error failure =>
      obtain ⟨fields, error⟩ := failure
      obtain ⟨atMost, exactly⟩ := ih (rowNumber + 1)
        { state with errors := state.errors ++ [⟨rowNumber, fields, error⟩] } later
      dsimp only at atMost exactly ⊢
      cases previewed config first row with
      | false => simpa using ⟨atMost, exactly⟩
      | true =>
        refine ⟨by rw [if_pos rfl]; omega, ?_⟩
        rw [if_pos rfl]
        constructor
        · intro same
          omega
        · rintro ⟨absurdly, _⟩
          cases absurdly

/-- The preview has as many valid rows as are imported, as many invalid rows as fail, and the
numbers of an import add up. Both refuse a file for the same reason. -/
def Agrees (conversions : Json.Conversions) (config : EntityImportConfig Data World)
    (rows : List Row) (world : World) : Prop :=
  match validateImport conversions config rows world,
      executeImport conversions config rows world with
  | .ok validation, .ok (result, _) =>
    validation.validCount = result.successCount ∧
      validation.totalRows - validation.validCount = result.errorCount ∧
      result.totalRows = result.successCount + result.errorCount
  | .error refusal, .error other => refusal = other
  | _, _ => False

theorem agrees_iff {first : World} {Later : World → Prop}
    (grows : Grows conversions config first Later) (rows : List Row) :
    Agrees conversions config rows first ↔
      (assertImportRowLimit conversions config rows.length = .ok () →
        InsertsPreviewed conversions config first first rows) := by
  rw [Agrees, validateImport, executeImport]
  cases limit : assertImportRowLimit conversions config rows.length with
  | error refusal => simp [Bind.bind, Except.bind]
  | ok _ =>
    obtain ⟨valid, validTotal⟩ := validateRows_counts conversions config first rows 1 ⟨[], 0, 0⟩
    have total := executeRows_total conversions config rows 1 ⟨first, [], 0⟩
    obtain ⟨-, exactly⟩ := executeRows_count grows rows 1 ⟨first, [], 0⟩ grows.start
    simp only [Bind.bind, Except.bind, Pure.pure, Except.pure, List.length_nil, Nat.zero_add]
      at valid validTotal total exactly ⊢
    rw [← exactly, forall_const, valid]
    constructor
    · intro same
      exact same.1.symm
    · intro same
      refine ⟨same.symm, ?_, total.symm⟩
      omega

end

structure Zod where
  isEmail : String → Bool
  invalidEmail : String
  invalidType : Json → String
  tooSmall : Nat → String
  tooBig : Nat → String
  invalidOption : Json → String

structure ParsedUrl where
  protocol : String
  username : String
  password : String
  hostname : String

/-- A user as `IUser` has it, by its fields. -/
abbrev UserData := (field : Field) → Option field.Value

/-- What an import of users depends on. `hashedPassword` is the hash of the password that is drawn
for a row, and `refusal` is what a database or its schema says of the roles and the data of a user
that it does not take for another reason than a duplicate. A username is drawn until it is not
taken. -/
structure ImportSetting where
  database : Database
  unicode : Recovery.Unicode
  conversions : Json.Conversions
  toUpperCase : String → String
  zod : Zod
  parseUrl : String → Option ParsedUrl
  newDate : String → Option Int
  today : String
  now : Nat
  hashedPassword : Row → String
  defaultRole : String
  availableRoles : List String
  tenantId : Option String
  refusal : List String → UserData → Option String
  generateUniqueUsername : List UserData → String
  unused : ∀ users, ∀ user ∈ users, user .username ≠ some (generateUniqueUsername users)
  unspaced : ∀ users, trim (generateUniqueUsername users) = generateUniqueUsername users

section
variable (setting : ImportSetting)

def zodString (checks : String → List String) (value : Json) : List String :=
  match value with
  | .str text => checks text
  | other => [setting.zod.invalidType other]

def zodMax (limit : Nat) (text : String) : List String :=
  if utf16Length text ≤ limit then [] else [setting.zod.tooBig limit]

def zodMin (limit : Nat) (text : String) : List String :=
  if limit ≤ utf16Length text then [] else [setting.zod.tooSmall limit]

def emailValidator : Json → List String :=
  zodString setting fun text =>
    (if setting.zod.isEmail (trim text) then [] else [setting.zod.invalidEmail]) ++
      zodMax setting 254 (trim text)

def nameValidator : Json → List String :=
  zodString setting fun text => zodMin setting 1 (trim text) ++ zodMax setting 100 (trim text)

def maxValidator (limit : Nat) : Json → List String := zodString setting (zodMax setting limit)

def genderValidator (value : Json) : List String :=
  match value with
  | .str text =>
    if setting.toUpperCase (trim text) ∈ ["M", "F"] then []
    else [setting.zod.invalidOption (.str (setting.toUpperCase (trim text)))]
  | other => [setting.zod.invalidOption other]

def urlIssues (value : String) : List String :=
  match setting.parseUrl value with
  | none => ["URL must be a valid URL"]
  | some parsed =>
    (if parsed.protocol ≠ "http:" ∧ parsed.protocol ≠ "https:" then
      ["URL must use http or https"] else []) ++
    (if parsed.username ≠ "" ∨ parsed.password ≠ "" then
      ["URL must not include credentials"] else []) ++
    (if '*' ∈ parsed.hostname.toList then
      ["URL must not include a wildcard hostname"] else [])

def optionalSafeUrl : Json → List String :=
  zodString setting fun rawValue =>
    zodMax setting 2048 rawValue ++
      if trim rawValue = "" then [] else urlIssues setting (trim rawValue)

def isDigit (character : Char) : Bool := '0' ≤ character && character ≤ '9'

def digits (characters : List Char) : Nat := Nat.ofDigitChars 10 characters 0

def daysInMonth (year month : Nat) : Nat :=
  if month = 2 then
    if year % 4 = 0 ∧ (year % 100 ≠ 0 ∨ year % 400 = 0) then 29 else 28
  else if month ∈ [4, 6, 9, 11] then 30 else 31

def isCalendarDate (text : String) : Bool :=
  match text.toList with
  | [y1, y2, y3, y4, '-', m1, m2, '-', d1, d2] =>
    [y1, y2, y3, y4, m1, m2, d1, d2].all isDigit &&
      decide (1 ≤ digits [m1, m2] ∧ digits [m1, m2] ≤ 12 ∧ 1 ≤ digits [d1, d2] ∧
        digits [d1, d2] ≤ daysInMonth (digits [y1, y2, y3, y4]) (digits [m1, m2]))
  | _ => false

def optionalBirthdate : Json → List String :=
  zodString setting fun rawValue =>
    if trim rawValue = "" then []
    else if isCalendarDate (trim rawValue) = false then ["Invalid birthdate"]
    else if setting.today < trim rawValue then ["Birthdate cannot be in the future"]
    else []

def importColumns : List EntityColumnDef := [
  ⟨"email", "Email", true, .core, some (emailValidator setting), ["email_address", "e-mail"]⟩,
  ⟨"given_name", "First Name", true, .core, some (nameValidator setting),
    ["first_name", "firstname", "givenname"]⟩,
  ⟨"family_name", "Last Name", true, .core, some (nameValidator setting),
    ["last_name", "lastname", "familyname", "surname"]⟩,
  ⟨"middle_name", "Middle Name", false, .core, some (maxValidator setting 100), ["middlename"]⟩,
  ⟨"nickname", "Nickname", false, .core, some (maxValidator setting 100), []⟩,
  ⟨"gender", "Gender", false, .core, some (genderValidator setting), []⟩,
  ⟨"birthdate", "Birthdate", false, .core, some (optionalBirthdate setting), []⟩,
  ⟨"phone_number", "Phone Number", false, .sensitive, some (maxValidator setting 30),
    ["phone", "tel"]⟩,
  ⟨"locale", "Locale", false, .core, some (maxValidator setting 10), []⟩,
  ⟨"zoneinfo", "Timezone", false, .core, some (maxValidator setting 50), ["timezone", "tz"]⟩,
  ⟨"country", "Country", false, .sensitive, some (maxValidator setting 100), []⟩,
  ⟨"region", "Region", false, .sensitive, some (maxValidator setting 100),
    ["state", "province"]⟩,
  ⟨"city", "City", false, .sensitive, some (maxValidator setting 100), []⟩,
  ⟨"postal_code", "Postal Code", false, .sensitive, some (maxValidator setting 20),
    ["zip", "zip_code", "postcode"]⟩,
  ⟨"street_address", "Street Address", false, .sensitive, some (maxValidator setting 500),
    ["address", "street"]⟩,
  ⟨"profile", "Profile URL", false, .sensitive, some (optionalSafeUrl setting), []⟩,
  ⟨"website", "Website", false, .sensitive, some (optionalSafeUrl setting), []⟩,
  ⟨"picture", "Profile Picture", false, .sensitive, some (optionalSafeUrl setting), []⟩]

def castEmail (email : String) : String :=
  match setting.database with
  | .mongodb => trim (UserRecords.Mongoose.lowercase setting.unicode email)
  | _ => email

def findByEmail (email : String) (users : List UserData) : Bool :=
  users.any fun user =>
    user .email == some (castEmail setting email) && user .account_enabled == some true

def normalizedEmail (row : Row) : String :=
  UserRecords.Mongoose.lowercase setting.unicode (trim (textOf setting.conversions (row "email")))

def checkDuplicate (row : Row) (users : List UserData) : Option String :=
  if normalizedEmail setting row = "" then some "Email is required"
  else if findByEmail setting (normalizedEmail setting row) users then some "Email already exists"
  else none

def trimmedField (row : Row) (name : String) : String :=
  trim (textOf setting.conversions (row name))

def optionalText (row : Row) (name : String) : Option String :=
  (row name).bind fun value =>
    if value.truthy = true ∧ trimmedField setting row name ≠ "" then
      some (trimmedField setting row name)
    else none

def optionalGender (row : Row) : Option Gender :=
  (row "gender").bind fun value =>
    if value.truthy then
      match setting.toUpperCase (textOf setting.conversions (row "gender")) with
      | "M" => some .M
      | "F" => some .F
      | _ => none
    else none

def optionalDate (row : Row) : Option Int :=
  (row "birthdate").bind fun value =>
    if value.truthy then setting.newDate (textOf setting.conversions (row "birthdate")) else none

def prepared (row : Row) : UserData
  | .email => some (normalizedEmail setting row)
  | .given_name => some (trimmedField setting row "given_name")
  | .family_name => some (trimmedField setting row "family_name")
  | .account_enabled => some true
  | .email_verified => some true
  | .auth_provider => some .«local»
  | .password => some (setting.hashedPassword row)
  | .password_hash_algo => some "argon2id"
  | .password_updated_at => some setting.now
  | .middle_name => optionalText setting row "middle_name"
  | .nickname => optionalText setting row "nickname"
  | .phone_number => optionalText setting row "phone_number"
  | .profile => optionalText setting row "profile"
  | .website => optionalText setting row "website"
  | .picture => optionalText setting row "picture"
  | .country => optionalText setting row "country"
  | .region => optionalText setting row "region"
  | .city => optionalText setting row "city"
  | .postal_code => optionalText setting row "postal_code"
  | .street_address => optionalText setting row "street_address"
  | .locale => optionalText setting row "locale"
  | .zoneinfo => optionalText setting row "zoneinfo"
  | .gender => optionalGender setting row
  | .birthdate => optionalDate setting row
  | _ => none

def prepareRow (row : Row) : Except String UserData :=
  if normalizedEmail setting row = "" ∨ trimmedField setting row "given_name" = "" ∨
      trimmedField setting row "family_name" = "" then
    .error "Email, first name, and last name are required for user import"
  else .ok (prepared setting row)

def isPlatformRole (role : String) : Bool := role ∈ ["platform_admin", "platform_viewer"]

def isRoleAvailableForTenant (role : String) : Bool :=
  role ∈ setting.availableRoles ||
    (setting.tenantId = some "_platforms" && isPlatformRole role)

def validateRoles (roles : List String) : Except String Unit :=
  match roles.find? fun role => !isRoleAvailableForTenant setting role with
  | some unavailableRole =>
    if unavailableRole = "" then .ok ()
    else .error ("Role '" ++ unavailableRole ++ "' is not available")
  | none => .ok ()

def takesDefaultRole : Bool :=
  setting.defaultRole = "" || isRoleAvailableForTenant setting setting.defaultRole

def createdDefaults : UserData
  | .gender => some .M
  | .locale => some "fr"
  | .country => some "bj"
  | .zoneinfo => some "Africa/Porto-Novo"
  | .theme => if setting.database = .mongodb then some .light else none
  | .sidebar_expanded => some (setting.database = .mongodb)
  | .phone_number_verified => some false
  | .email_verified => some false
  | .password_force_reset => some false
  | .account_is_anonymized => some false
  | .blocked_from => some []
  | .register_with => some .email
  | .auth_provider => if setting.database = .mongodb then some .«local» else none
  | .account_enabled => some true
  | _ => none

def names (data : UserData) : Accounts.DisplayNames.NameUpdate :=
  let entry (text : Option String) : Accounts.DisplayNames.FieldUpdate :=
    text.elim .undefined .text
  ⟨entry (data .given_name), entry (data .family_name), entry (data .custom_identifier_1),
    entry (data .name)⟩

def stored (data : UserData) (field : Field) : Option field.Value :=
  match setting.database with
  | .mongodb => (data field).bind (UserRecords.Mongoose.cast setting.unicode field)
  | _ => data field

def created (data : UserData) : UserData
  | .name =>
    match setting.database with
    | .mongodb => (Accounts.DisplayNames.MongooseUserRepository.create (names data)).name
    | _ => (Accounts.DisplayNames.PrismaUserRepository.create (names data)).name
  | field => (stored setting data field).or (createdDefaults setting field)

def isTaken (users : List UserData) (text : UserData → Option String) (user : UserData) : Bool :=
  users.any fun other => (text user).isSome && text other == text user

def duplicateError (users : List UserData) (user : UserData) : Option String :=
  if isTaken users (· .email) user then some "Email is already registered"
  else if isTaken users (· .custom_identifier_1) user ||
      isTaken users (· .custom_identifier_2) user ||
      isTaken users (· .custom_identifier_3) user then some "This identifier is already taken"
  else if isTaken users (· .username) user then some "Username is already taken"
  else if setting.database ≠ .mongodb ∧ isTaken users (· .sub) user then
    some "An account with these details already exists"
  else none

def withUsername (userData : UserData) (username : String) (roles : List String) : UserData
  | .username => some username
  | .register_with => (userData .register_with).or
      (if (userData .email).any (· ≠ "") then some .email else some .phone_number)
  | .email_verified => (userData .email_verified).or (some false)
  | .phone_number_verified => (userData .phone_number_verified).or (some false)
  | .account_enabled => (userData .account_enabled).or (some true)
  | .roles => some roles
  | .auth_provider => (userData .auth_provider).or (some .«local»)
  | field => userData field

def createUserWithGeneratedUsername (userData : UserData) (users : List UserData) :
    Except String (List UserData) := do
  let requestedUsername := Accounts.trimmedText (userData .username)
  let username := requestedUsername.getD (setting.generateUniqueUsername users)
  let roles := (userData .roles).getD [setting.defaultRole]
  validateRoles setting roles
  let user := created setting (withUsername userData username roles)
  match (setting.refusal roles userData).or (duplicateError setting users user) with
  | some message => .error message
  | none => .ok (users ++ [user])

def createUserEntityConfig : EntityImportConfig UserData (List UserData) where
  entityId := "users"
  columns := importColumns setting
  maxRows := some 5000
  checkDuplicate := checkDuplicate setting
  prepareRow := prepareRow setting
  insertRow := createUserWithGeneratedUsername setting

end

section
variable {setting : ImportSetting} {row : Row}

theorem validateField_passes (valid : validateRowFields row (importColumns setting) = [])
    {column : EntityColumnDef} (member : column ∈ importColumns setting) :
    validateField row column = none := by
  rw [validateRowFields, List.filterMap_eq_nil_iff] at valid
  exact valid column member

theorem trimmedField_nonempty {name header : String} {group : ColumnGroup} {aliases : List String}
    (passes : validateField row
      ⟨name, header, true, group, some (nameValidator setting), aliases⟩ = none) :
    trimmedField setting row name ≠ "" := by
  intro blank
  cases isValue : row name with
  | none => simp [validateField, isValue, isEmpty] at passes
  | some value =>
    cases value with
    | str text =>
      have trimmed : trim text = "" := by
        simpa [trimmedField, isValue, textOf, Json.toText] using blank
      by_cases empty : text = ""
      · simp [validateField, isValue, isEmpty, empty] at passes
      · simp [validateField, isValue, isEmpty, empty, nameValidator, zodString, zodMin, trimmed,
          utf16Length] at passes
    | _ => simp [validateField, isValue, isEmpty, nameValidator, zodString] at passes

theorem prepareRow_valid (valid : validateRowFields row (importColumns setting) = []) :
    prepareRow setting row =
      if normalizedEmail setting row = "" then
        .error "Email, first name, and last name are required for user import"
      else .ok (prepared setting row) := by
  have given : trimmedField setting row "given_name" ≠ "" :=
    trimmedField_nonempty (validateField_passes valid (.tail _ (.head _)))
  have family : trimmedField setting row "family_name" ≠ "" :=
    trimmedField_nonempty (validateField_passes valid (.tail _ (.tail _ (.head _))))
  simp [prepareRow, given, family]

def storedEmail (setting : ImportSetting) (row : Row) : String :=
  castEmail setting (normalizedEmail setting row)

def imported (setting : ImportSetting) (users : List UserData) (row : Row) : UserData :=
  created setting (withUsername (prepared setting row) (setting.generateUniqueUsername users)
    [setting.defaultRole])

theorem imported_email (users : List UserData) :
    imported setting users row .email = some (storedEmail setting row) := by
  rw [imported, storedEmail, castEmail]
  cases isDatabase : setting.database <;>
    simp [created, stored, isDatabase, withUsername, prepared, UserRecords.Mongoose.cast]

theorem imported_username (users : List UserData) :
    imported setting users row .username = some (setting.generateUniqueUsername users) := by
  rw [imported]
  cases isDatabase : setting.database <;>
    simp [created, stored, isDatabase, withUsername, UserRecords.Mongoose.cast, setting.unspaced]

theorem imported_others (users : List UserData) {field : Field}
    (other : field ∈
      [Field.custom_identifier_1, .custom_identifier_2, .custom_identifier_3, .sub]) :
    imported setting users row field = none := by
  rw [imported]
  simp only [List.mem_cons, List.not_mem_nil, or_false] at other
  rcases other with rfl | rfl | rfl | rfl <;> cases isDatabase : setting.database <;>
    simp [created, stored, isDatabase, withUsername, prepared, createdDefaults]

theorem duplicateError_imported (users : List UserData) :
    duplicateError setting users (imported setting users row) =
      if ∃ user ∈ users, user .email = some (storedEmail setting row) then
        some "Email is already registered"
      else none := by
  have username : isTaken users (· .username) (imported setting users row) = false := by
    rw [isTaken, List.any_eq_false]
    intro user member
    simp [imported_username, setting.unused users user member]
  have first : isTaken users (· .custom_identifier_1) (imported setting users row) = false := by
    simp [isTaken, imported_others]
  have second : isTaken users (· .custom_identifier_2) (imported setting users row) = false := by
    simp [isTaken, imported_others]
  have third : isTaken users (· .custom_identifier_3) (imported setting users row) = false := by
    simp [isTaken, imported_others]
  have sub : isTaken users (· .sub) (imported setting users row) = false := by
    simp [isTaken, imported_others]
  have email : isTaken users (· .email) (imported setting users row) = true ↔
      ∃ user ∈ users, user .email = some (storedEmail setting row) := by
    simp [isTaken, imported_email]
  rw [duplicateError, username, first, second, third, sub]
  simp [email]

theorem validateRoles_default : validateRoles setting [setting.defaultRole] =
    if takesDefaultRole setting = false then
      .error ("Role '" ++ setting.defaultRole ++ "' is not available")
    else .ok () := by
  rw [validateRoles, takesDefaultRole, List.find?_cons]
  cases isRoleAvailableForTenant setting setting.defaultRole with
  | true => simp
  | false => by_cases isEmpty : setting.defaultRole = "" <;> simp [isEmpty]

theorem create_prepared (users : List UserData) :
    createUserWithGeneratedUsername setting (prepared setting row) users =
      if takesDefaultRole setting = false then
        .error ("Role '" ++ setting.defaultRole ++ "' is not available")
      else match (setting.refusal [setting.defaultRole] (prepared setting row)).or
          (duplicateError setting users (imported setting users row)) with
        | some message => .error message
        | none => .ok (users ++ [imported setting users row]) := by
  have drawn : (Accounts.trimmedText (prepared setting row .username)).getD
      (setting.generateUniqueUsername users) = setting.generateUniqueUsername users := rfl
  have roles : (prepared setting row .roles).getD [setting.defaultRole] =
      [setting.defaultRole] := rfl
  rw [createUserWithGeneratedUsername, drawn, roles, validateRoles_default]
  cases isTaken : takesDefaultRole setting with
  | false => simp [Bind.bind, Except.bind]
  | true => simp [Bind.bind, Except.bind, imported]

/-- A row that is taken, once its fields pass and it has an address: the role is available, the
database has nothing against it, and no user has the address. -/
structure Taken (setting : ImportSetting) (users : List UserData) (row : Row) : Prop where
  role : takesDefaultRole setting = true
  refusal : setting.refusal [setting.defaultRole] (prepared setting row) = none
  email : ∀ user ∈ users, user .email ≠ some (storedEmail setting row)

theorem importRow_ok_iff (users next : List UserData) :
    importRow setting.conversions (createUserEntityConfig setting) row users = .ok next ↔
      validateRowFields row (importColumns setting) = [] ∧ normalizedEmail setting row ≠ "" ∧
        Taken setting users row ∧ next = users ++ [imported setting users row] := by
  have columns : (createUserEntityConfig setting).columns = importColumns setting := rfl
  have prepares : (createUserEntityConfig setting).prepareRow = prepareRow setting := rfl
  have inserts : (createUserEntityConfig setting).insertRow =
      createUserWithGeneratedUsername setting := rfl
  rw [importRow, columns, prepares, inserts]
  by_cases valid : validateRowFields row (importColumns setting) = []
  · rw [if_neg (not_not.mpr valid), prepareRow_valid valid]
    by_cases noEmail : normalizedEmail setting row = ""
    · simp [noEmail]
    · rw [if_neg noEmail]
      dsimp only
      rw [create_prepared, duplicateError_imported]
      have taken : Taken setting users row ↔
          takesDefaultRole setting = true ∧
            setting.refusal [setting.defaultRole] (prepared setting row) = none ∧
            ∀ user ∈ users, user .email ≠ some (storedEmail setting row) :=
        ⟨fun taken => ⟨taken.role, taken.refusal, taken.email⟩,
          fun parts => ⟨parts.1, parts.2.1, parts.2.2⟩⟩
      cases isAvailable : takesDefaultRole setting with
      | false => simp [taken, isAvailable, Except.mapError]
      | true =>
        cases refusal : setting.refusal [setting.defaultRole] (prepared setting row) with
        | some message => simp [taken, refusal, Except.mapError]
        | none =>
          by_cases duplicate : ∃ user ∈ users, user .email = some (storedEmail setting row)
          · have notTaken : ¬ ∀ user ∈ users, user .email ≠ some (storedEmail setting row) := by
              simpa using duplicate
            simp [taken, duplicate, notTaken, Except.mapError]
          · have free : ∀ user ∈ users, user .email ≠ some (storedEmail setting row) := by
              simpa using duplicate
            simp [taken, duplicate, isAvailable, refusal, valid, noEmail, Except.mapError,
              eq_comm]
            exact fun _ => free
  · simp [valid]

theorem previewed_iff (users : List UserData) :
    previewed (createUserEntityConfig setting) users row = true ↔
      validateRowFields row (importColumns setting) = [] ∧ normalizedEmail setting row ≠ "" ∧
        ∀ user ∈ users, user .account_enabled = some true →
          user .email ≠ some (storedEmail setting row) := by
  have found : findByEmail setting (normalizedEmail setting row) users = true ↔
      ∃ user ∈ users, user .email = some (storedEmail setting row) ∧
        user .account_enabled = some true := by
    simp [findByEmail, storedEmail]
  have columns : (createUserEntityConfig setting).columns = importColumns setting := rfl
  have checks : (createUserEntityConfig setting).checkDuplicate = checkDuplicate setting := rfl
  rw [previewed, columns, checks, checkDuplicate, Bool.and_eq_true, decide_eq_true_eq]
  apply and_congr_right
  intro _
  by_cases noEmail : normalizedEmail setting row = ""
  · simp [noEmail]
  · rw [if_neg noEmail, and_iff_right noEmail]
    by_cases exists? : findByEmail setting (normalizedEmail setting row) users = true
    · obtain ⟨user, member, same, enabled⟩ := found.mp exists?
      simp only [exists?, if_true, Option.isNone_some, Bool.false_eq_true, false_iff]
      intro free
      exact free user member enabled same
    · rw [if_neg exists?]
      simp only [Option.isNone_none, true_iff]
      intro user member enabled same
      exact exists? (found.mpr ⟨user, member, same, enabled⟩)

theorem imports_grow (first : List UserData) :
    Grows setting.conversions (createUserEntityConfig setting) first (first ⊆ ·) where
  start := List.Subset.refl first
  step := by
    intro row users next later isImported
    obtain ⟨valid, hasEmail, taken, rfl⟩ := (importRow_ok_iff users next).mp isImported
    refine ⟨List.subset_append_of_subset_left _ later, (previewed_iff first).mpr ?_⟩
    exact ⟨valid, hasEmail, fun user member _ => taken.email user (later member)⟩

/-- The valid rows can all be inserted: the default role is empty or available, the database
refuses none of them, no user that is disabled has the address of one, and no two have the same. -/
structure Importable (setting : ImportSetting) (users : List UserData) (valid : List Row) :
    Prop where
  role : valid ≠ [] → takesDefaultRole setting = true
  refusal : ∀ row ∈ valid, setting.refusal [setting.defaultRole] (prepared setting row) = none
  disabled : ∀ row ∈ valid, ∀ user ∈ users, user .account_enabled ≠ some true →
    user .email ≠ some (storedEmail setting row)
  distinct : valid.Pairwise fun row other => storedEmail setting row ≠ storedEmail setting other

theorem taken_append_iff (users : List UserData) (row other : Row) :
    Taken setting (users ++ [imported setting users row]) other ↔
      Taken setting users other ∧ storedEmail setting row ≠ storedEmail setting other := by
  constructor
  · intro taken
    refine ⟨⟨taken.role, taken.refusal, fun user member => ?_⟩, fun same => ?_⟩
    · exact taken.email user (List.mem_append_left _ member)
    · refine taken.email (imported setting users row) (by simp) ?_
      rw [imported_email, same]
  · rintro ⟨taken, differ⟩
    refine ⟨taken.role, taken.refusal, fun user member => ?_⟩
    rcases List.mem_append.mp member with old | new
    · exact taken.email user old
    · rw [List.mem_singleton.mp new, imported_email]
      exact fun same => differ (Option.some.inj same)

theorem insertsPreviewed_iff {first : List UserData} (rows : List Row) (users : List UserData)
    (later : first ⊆ users) :
    InsertsPreviewed setting.conversions (createUserEntityConfig setting) first users rows ↔
      (∀ row ∈ rows.filter (previewed (createUserEntityConfig setting) first),
        Taken setting users row) ∧
      (rows.filter (previewed (createUserEntityConfig setting) first)).Pairwise
        fun row other => storedEmail setting row ≠ storedEmail setting other := by
  induction rows generalizing users with
  | nil => simp [InsertsPreviewed]
  | cons row rest ih =>
    rw [InsertsPreviewed]
    by_cases valid : previewed (createUserEntityConfig setting) first row = true
    · rw [List.filter_cons_of_pos valid, List.forall_mem_cons, List.pairwise_cons]
      obtain ⟨fields, hasEmail, -⟩ := (previewed_iff first).mp valid
      by_cases taken : Taken setting users row
      · rw [(importRow_ok_iff users _).mpr ⟨fields, hasEmail, taken, rfl⟩]
        dsimp only
        rw [ih _ (List.subset_append_of_subset_left _ later)]
        simp only [taken_append_iff, forall₂_and]
        constructor
        · rintro ⟨⟨others, apart⟩, distinct⟩
          exact ⟨⟨taken, others⟩, apart, distinct⟩
        · rintro ⟨⟨-, others⟩, apart, distinct⟩
          exact ⟨⟨others, apart⟩, distinct⟩
      · cases isImported :
          importRow setting.conversions (createUserEntityConfig setting) row users with
        | ok next => exact absurd ((importRow_ok_iff users next).mp isImported).2.2.1 taken
        | error failure =>
          dsimp only
          rw [valid]
          simp [taken]
    · rw [List.filter_cons_of_neg valid]
      cases isImported :
        importRow setting.conversions (createUserEntityConfig setting) row users with
      | ok next =>
        exact absurd ((imports_grow first).step row users next later isImported).2 valid
      | error failure =>
        dsimp only
        rw [ih users later, and_iff_right (by simpa using valid)]

theorem assertImportRowLimit_ok_iff (rowCount : Nat) :
    assertImportRowLimit setting.conversions (createUserEntityConfig setting) rowCount = .ok () ↔
      rowCount ≤ 5000 := by
  have exceeds : (5000 : JsNumber) < .finite rowCount ↔ 5000 < rowCount := by
    have finite : (5000 : JsNumber) < .finite rowCount ↔ (5000 : ℚ) < rowCount :=
      WithBot.coe_lt_coe.trans WithTop.coe_lt_coe
    rw [finite]
    exact_mod_cast Iff.rfl
  have isMax : (createUserEntityConfig setting).maxRows.getD 5000 = 5000 := rfl
  have positive : (0 : JsNumber) < 5000 := by
    exact (WithBot.coe_lt_coe.trans WithTop.coe_lt_coe).mpr (by decide)
  have sound : ¬ (isSafeInteger 5000 = false ∨ (5000 : JsNumber) ≤ 0) := by
    rintro (notSafe | atMost)
    · exact absurd notSafe (by decide)
    · exact absurd positive (not_lt.mpr atMost)
  rw [assertImportRowLimit, isMax, if_neg sound]
  by_cases tooMany : 5000 < rowCount
  · rw [if_pos (exceeds.mpr tooMany)]
    simp [Nat.not_le.mpr tooMany]
  · rw [if_neg (mt exceeds.mp tooMany)]
    simp [Nat.not_lt.mp tooMany]

theorem importable_iff (users : List UserData) (rows : List Row) :
    Importable setting users (rows.filter (previewed (createUserEntityConfig setting) users)) ↔
      (∀ row ∈ rows.filter (previewed (createUserEntityConfig setting) users),
        Taken setting users row) ∧
      (rows.filter (previewed (createUserEntityConfig setting) users)).Pairwise
        fun row other => storedEmail setting row ≠ storedEmail setting other := by
  constructor
  · rintro ⟨role, refusal, disabled, distinct⟩
    refine ⟨fun row member => ⟨role (List.ne_nil_of_mem member), refusal row member, ?_⟩, distinct⟩
    intro user isUser
    by_cases enabled : user .account_enabled = some true
    · exact ((previewed_iff users).mp (List.mem_filter.mp member).2).2.2 user isUser enabled
    · exact disabled row member user isUser enabled
  · rintro ⟨taken, distinct⟩
    refine ⟨fun nonempty => ?_, fun row member => (taken row member).refusal,
      fun row member user isUser _ => (taken row member).email user isUser, distinct⟩
    obtain ⟨row, member⟩ := List.exists_mem_of_ne_nil _ nonempty
    exact (taken row member).role

/-- The preview of a file of users agrees with its import exactly where the valid rows can be
inserted. The numbers of an import always add up. -/
theorem preview_agrees_iff (setting : ImportSetting) (rows : List Row) (users : List UserData) :
    (Agrees setting.conversions (createUserEntityConfig setting) rows users ↔
      (rows.length ≤ 5000 → Importable setting users
        (rows.filter (previewed (createUserEntityConfig setting) users)))) ∧
    ∀ result after, executeImport setting.conversions (createUserEntityConfig setting) rows
        users = .ok (result, after) →
      result.totalRows = result.successCount + result.errorCount := by
  refine ⟨?_, fun result after isResult => executeImport_total isResult⟩
  rw [agrees_iff (imports_grow users), insertsPreviewed_iff rows users (List.Subset.refl users),
    assertImportRowLimit_ok_iff, importable_iff]

end

def longUsername (users : List UserData) : String :=
  String.ofList <| List.replicate
    ((users.map fun user => (user .username).elim 0 String.length).sum + 1) 'x'

theorem longUsername_unused (users : List UserData) :
    ∀ user ∈ users, user .username ≠ some (longUsername users) := by
  intro user member same
  have length : (longUsername users).length =
      (users.map fun user => (user .username).elim 0 String.length).sum + 1 := by
    simp [longUsername]
  have atMost : (user .username).elim 0 String.length ≤
      (users.map fun user => (user .username).elim 0 String.length).sum :=
    List.single_le_sum (by simp) _ (List.mem_map_of_mem member)
  rw [same, Option.elim_some] at atMost
  omega

theorem longUsername_unspaced (users : List UserData) :
    trim (longUsername users) = longUsername users := by
  simp [trim, longUsername, List.rdropWhile, Text.isWhiteSpace]

def smallSetting : ImportSetting where
  database := .sqlite
  unicode := { toLowerCase := List.map Char.toLower, isLetter := Char.isAlpha,
               isNumber := Char.isDigit }
  conversions := ⟨fun _ => none, fun _ => "5000"⟩
  toUpperCase text := text.map Char.toUpper
  zod := { isEmail := fun text => '@' ∈ text.toList
           invalidEmail := "Invalid email address"
           invalidType := fun _ => "Invalid input: expected string"
           tooSmall := fun _ => "Too small"
           tooBig := fun _ => "Too big"
           invalidOption := fun _ => "Invalid option" }
  parseUrl _ := none
  newDate _ := none
  today := "2026-10-01"
  now := 0
  hashedPassword _ := "$argon2id$"
  defaultRole := "user"
  availableRoles := ["user", "admin"]
  tenantId := none
  refusal _ _ := none
  generateUniqueUsername := longUsername
  unused := longUsername_unused
  unspaced := longUsername_unspaced

def annRow (email : String) : Row
  | "email" => some (.str email)
  | "given_name" => some (.str "Ann")
  | "family_name" => some (.str "Lee")
  | _ => none

def disabledAnn : UserData
  | .email => some "ann@example.org"
  | .account_enabled => some false
  | _ => none

def numbersOf (rows : List Row) (users : List UserData) : Option (Nat × Nat × Nat × Nat) :=
  match validateImport smallSetting.conversions (createUserEntityConfig smallSetting) rows users,
      executeImport smallSetting.conversions (createUserEntityConfig smallSetting) rows users with
  | .ok validation, .ok (result, _) =>
    some (validation.totalRows, validation.validCount, result.successCount, result.errorCount)
  | _, _ => none

theorem ann_disagrees :
    numbersOf [annRow "Ann@example.org", annRow "ann@example.org"] [] = some (2, 2, 1, 1) ∧
      numbersOf [annRow "ann@example.org"] [disabledAnn] = some (1, 1, 0, 1) := by
  decide +kernel

end ParakoId.DataTransfer
