import ParakoId.DataTransfer.UserImports

/-!
Users in a CSV file: their export, the columns that the page of the import finds in the file, and
the import into a database without users.
-/

namespace ParakoId.DataTransfer

open Schemas (trim)
open UserRecords (Field Gender)

structure ExportFilters where
  includeSensitive : Bool
  includeSecrets : Bool

/-- What an export and an import of the file depend on. The CSV libraries give back the rows of a
table that they have written, and its headers if there are rows; a byte order mark is read over.
`isoDay` is what `toISOString` puts in front of its `T`. An apostrophe has no letter case. -/
structure CsvSetting extends ImportSetting where
  File : Type
  writeToBuffer : List String → List (List String) → File
  parse : File → List String × List (List String)
  rows_written : ∀ headers rows, 2 ≤ headers.length →
    (∀ header ∈ headers, trim header = header) → (∀ row ∈ rows, row.length = headers.length) →
      (parse (writeToBuffer headers rows)).2 = rows
  headers_written : ∀ headers rows, 2 ≤ headers.length →
    (∀ header ∈ headers, trim header = header) → (∀ row ∈ rows, row.length = headers.length) →
      rows ≠ [] → (parse (writeToBuffer headers rows)).1 = headers
  isoDay : Int → String
  created_at : UserData → Int
  updated_at : UserData → Int
  apostrophe_toLowerCase : ∀ text, ∃ rest, unicode.toLowerCase ('\'' :: text) = '\'' :: rest
  toUpperCase_gender : ∀ gender ∈ ["M", "F"], toUpperCase gender = gender

structure ExportColumn where
  field : String
  header : String
  group : ColumnGroup

def exportColumns : List ExportColumn := [
  ⟨"email", "Email", .core⟩, ⟨"given_name", "First Name", .core⟩,
  ⟨"family_name", "Last Name", .core⟩, ⟨"username", "Username", .core⟩,
  ⟨"middle_name", "Middle Name", .core⟩, ⟨"nickname", "Nickname", .core⟩,
  ⟨"custom_identifier_1", "Custom Identifier 1", .core⟩,
  ⟨"custom_identifier_2", "Custom Identifier 2", .core⟩,
  ⟨"custom_identifier_3", "Custom Identifier 3", .core⟩, ⟨"gender", "Gender", .core⟩,
  ⟨"birthdate", "Birthdate", .core⟩, ⟨"account_enabled", "Account Status", .core⟩,
  ⟨"email_verified", "Email Verified", .core⟩, ⟨"roles", "Roles", .core⟩,
  ⟨"created_at", "Created Date", .core⟩, ⟨"updated_at", "Updated Date", .core⟩,
  ⟨"phone_number", "Phone Number", .sensitive⟩, ⟨"profile", "Profile URL", .sensitive⟩,
  ⟨"website", "Website", .sensitive⟩, ⟨"picture", "Profile Picture", .sensitive⟩,
  ⟨"country", "Country", .sensitive⟩, ⟨"region", "Region", .sensitive⟩,
  ⟨"city", "City", .sensitive⟩, ⟨"postal_code", "Postal Code", .sensitive⟩,
  ⟨"street_address", "Street Address", .sensitive⟩, ⟨"locale", "Locale", .sensitive⟩,
  ⟨"zoneinfo", "Timezone", .sensitive⟩, ⟨"password", "Password Hash", .internal⟩,
  ⟨"password_hash_algo", "Hash Algorithm", .internal⟩,
  ⟨"password_updated_at", "Password Updated", .internal⟩]

def activeColumns (filters : ExportFilters) : List ExportColumn :=
  exportColumns.filter fun column =>
    match column.group with
    | .core => true
    | .sensitive => filters.includeSensitive
    | .internal => filters.includeSecrets

def isFormula (value : String) : Bool :=
  value.toList.head?.any (['=', '+', '-', '@', '\t', '\r'].contains ·)

def neutralizeSpreadsheetFormula (value : String) : String :=
  if isFormula value then String.ofList ('\'' :: value.toList) else value

def genderText : Gender → String
  | .M => "M"
  | .F => "F"

section
variable (setting : CsvSetting)

/-- What the formatter of a column, or `formatValue`, makes of the value. -/
def cell (user : UserData) : String → String
  | "email" => (user .email).getD ""
  | "given_name" => (user .given_name).getD ""
  | "family_name" => (user .family_name).getD ""
  | "username" => (user .username).getD ""
  | "middle_name" => (user .middle_name).getD ""
  | "nickname" => (user .nickname).getD ""
  | "custom_identifier_1" => (user .custom_identifier_1).getD ""
  | "custom_identifier_2" => (user .custom_identifier_2).getD ""
  | "custom_identifier_3" => (user .custom_identifier_3).getD ""
  | "gender" => ((user .gender).map genderText).getD ""
  | "birthdate" => ((user .birthdate).map setting.isoDay).getD ""
  | "account_enabled" => if user .account_enabled = some true then "Enabled" else "Disabled"
  | "email_verified" => if user .email_verified = some true then "Yes" else "No"
  | "roles" => ";".intercalate ((user .roles).getD [])
  | "created_at" => setting.isoDay (setting.created_at user)
  | "updated_at" => setting.isoDay (setting.updated_at user)
  | "phone_number" => (user .phone_number).getD ""
  | "profile" => (user .profile).getD ""
  | "website" => (user .website).getD ""
  | "picture" => (user .picture).getD ""
  | "country" => (user .country).getD ""
  | "region" => (user .region).getD ""
  | "city" => (user .city).getD ""
  | "postal_code" => (user .postal_code).getD ""
  | "street_address" => (user .street_address).getD ""
  | "locale" => (user .locale).getD ""
  | "zoneinfo" => (user .zoneinfo).getD ""
  | "password" => (user .password).getD ""
  | "password_hash_algo" => (user .password_hash_algo).getD ""
  | "password_updated_at" => ((user .password_updated_at).map fun time => setting.isoDay time).getD ""
  | _ => ""

def formatCsvExport (columns : List ExportColumn) (users : List UserData) : setting.File :=
  setting.writeToBuffer (columns.map (·.header)) <| users.map fun user =>
    columns.map fun column => neutralizeSpreadsheetFormula (cell setting user column.field)

def generateExport (filters : ExportFilters) (users : List UserData) : setting.File :=
  formatCsvExport setting (activeColumns filters) users

/-- `toLowerCase`, for headers in ASCII. -/
def lowerHeader (header : String) : String := String.ofList (header.toList.map Char.toLower)

def matchedTo (csvHeaders : List String) (column : EntityColumnDef) : Option String :=
  ((column.field :: column.header :: column.aliases).map lowerHeader).findSome? fun candidate =>
    csvHeaders.find? fun header => trim (lowerHeader header) = candidate

def mapCsvRow (csvHeaders : List String) (cells : List String) : Row := fun name => do
  let column ← (importColumns setting.toImportSetting).find? (·.field = name)
  let header ← matchedTo csvHeaders column
  let text ← (csvHeaders.zip cells).lookup header
  return .str text

def importFile (file : setting.File) : List UserData :=
  let config := createUserEntityConfig setting.toImportSetting
  let rows := (setting.parse file).2.map (mapCsvRow setting (setting.parse file).1)
  if rows = [] then []
  else match validateImport setting.conversions config rows [] with
    | .ok validation =>
      if validation.valid then
        match executeImport setting.conversions config rows [] with
        | .ok (_, users) => users
        | .error _ => []
      else []
    | .error _ => []

end

def importableFields : List Field :=
  [.email, .given_name, .family_name, .middle_name, .nickname, .gender, .birthdate, .phone_number,
    .locale, .zoneinfo, .country, .region, .city, .postal_code, .street_address, .profile,
    .website, .picture]

def SameImportable (user other : UserData) : Prop :=
  ∀ field ∈ importableFields, other field = user field

def RoundTrips (setting : CsvSetting) (filters : ExportFilters) (users : List UserData) : Prop :=
  List.Forall₂ SameImportable users (importFile setting (generateExport setting filters users))

section
variable {setting : CsvSetting} {filters : ExportFilters} {user : UserData}

def isExported (filters : ExportFilters) (name : String) : Bool :=
  (activeColumns filters).any (·.field = name)

def rowOf (setting : CsvSetting) (filters : ExportFilters) (user : UserData) : Row :=
  mapCsvRow setting ((activeColumns filters).map (·.header))
    ((activeColumns filters).map fun column =>
      neutralizeSpreadsheetFormula (cell setting user column.field))

theorem lookup_zip (columns : List ExportColumn) (text : ExportColumn → String) (header : String) :
    ((columns.map (·.header)).zip (columns.map text)).lookup header =
      (columns.find? (·.header = header)).map text := by
  induction columns with
  | nil => rfl
  | cons column rest ih =>
    by_cases same : column.header = header
    · simp [same]
    · simp [same, List.lookup_cons, beq_eq_false_iff_ne.mpr (Ne.symm same), ih]

theorem column_matched : ∀ sensitive secrets : Bool, ∀ column ∈ importColumns smallSetting,
    (matchedTo ((activeColumns ⟨sensitive, secrets⟩).map (·.header)) column).bind (fun header =>
        ((activeColumns ⟨sensitive, secrets⟩).find? (·.header = header)).map (·.field)) =
      if isExported ⟨sensitive, secrets⟩ column.field then some column.field else none := by
  decide +kernel

def columnNames (column : EntityColumnDef) : String × String × List String :=
  (column.field, column.header, column.aliases)

theorem matched_field (filters : ExportFilters) {column : EntityColumnDef}
    (member : column ∈ importColumns setting.toImportSetting) :
    (matchedTo ((activeColumns filters).map (·.header)) column).bind (fun header =>
        ((activeColumns filters).find? (·.header = header)).map (·.field)) =
      if isExported filters column.field then some column.field else none := by
  have sameNames : (importColumns setting.toImportSetting).map columnNames =
      (importColumns smallSetting).map columnNames := by
    simp only [importColumns, List.map_cons, List.map_nil, columnNames]
  have named : columnNames column ∈ (importColumns setting.toImportSetting).map columnNames :=
    List.mem_map_of_mem member
  rw [sameNames, List.mem_map] at named
  obtain ⟨small, smallMember, same⟩ := named
  obtain ⟨field, header, aliases⟩ : small.field = column.field ∧ small.header = column.header ∧
    small.aliases = column.aliases := by simpa [columnNames] using same
  have matched := column_matched filters.includeSensitive filters.includeSecrets small smallMember
  rwa [matchedTo, field, header, aliases] at matched

theorem rowOf_column {column : EntityColumnDef}
    (member : column ∈ importColumns setting.toImportSetting) :
    rowOf setting filters user column.field =
      if isExported filters column.field then
        some (.str (neutralizeSpreadsheetFormula (cell setting user column.field)))
      else none := by
  cases found : (importColumns setting.toImportSetting).find? (·.field = column.field) with
  | none => simpa using List.find?_eq_none.mp found column member
  | some other =>
    have sameField : other.field = column.field := by simpa using List.find?_some found
    have matched := matched_field filters (List.mem_of_find?_eq_some found)
    rw [sameField] at matched
    rw [rowOf, mapCsvRow, found]
    simp only [Option.bind_eq_bind, Option.bind_some, Option.pure_def]
    cases isMatched : matchedTo ((activeColumns filters).map (·.header)) other with
    | none =>
      rw [isMatched] at matched
      split at matched
      next exported => cases matched
      next notExported => rw [if_neg notExported]; rfl
    | some header =>
      rw [isMatched] at matched
      rw [Option.bind_some, lookup_zip]
      cases source : (activeColumns filters).find? (·.header = header) with
      | none =>
        simp only [source, Option.bind_some, Option.map_none] at matched
        split at matched
        next exported => cases matched
        next notExported => rw [if_neg notExported]; rfl
      | some exportColumn =>
        simp only [source, Option.bind_some, Option.map_some] at matched
        split at matched
        next exported =>
          rw [if_pos exported, Option.map_some, Option.bind_some,
            Option.some.inj matched]
        next notExported => cases matched

end

/-- A column of texts that may be left out, and what a new user has without one. -/
structure TextColumn where
  name : String
  text : UserData → Option String
  validator : Json → List String
  fallback : Option String

section
variable (setting : ImportSetting)

def textColumns : List TextColumn := [
  ⟨"middle_name", (· .middle_name), maxValidator setting 100, none⟩,
  ⟨"nickname", (· .nickname), maxValidator setting 100, none⟩,
  ⟨"phone_number", (· .phone_number), maxValidator setting 30, none⟩,
  ⟨"locale", (· .locale), maxValidator setting 10, some "fr"⟩,
  ⟨"zoneinfo", (· .zoneinfo), maxValidator setting 50, some "Africa/Porto-Novo"⟩,
  ⟨"country", (· .country), maxValidator setting 100, some "bj"⟩,
  ⟨"region", (· .region), maxValidator setting 100, none⟩,
  ⟨"city", (· .city), maxValidator setting 100, none⟩,
  ⟨"postal_code", (· .postal_code), maxValidator setting 20, none⟩,
  ⟨"street_address", (· .street_address), maxValidator setting 500, none⟩,
  ⟨"profile", (· .profile), optionalSafeUrl setting, none⟩,
  ⟨"website", (· .website), optionalSafeUrl setting, none⟩,
  ⟨"picture", (· .picture), optionalSafeUrl setting, none⟩]

def TextSurvives (exported : Bool) (column : TextColumn) (user : UserData) : Prop :=
  if exported then
    match column.text user with
    | none => column.fallback = none
    | some text =>
      text ≠ "" ∧ isFormula text = false ∧ trim text = text ∧ column.validator (.str text) = []
  else column.text user = column.fallback

def NameSurvives (name : Option String) : Prop :=
  ∃ text, name = some text ∧ text ≠ "" ∧ isFormula text = false ∧ trim text = text ∧
    nameValidator setting (.str text) = []

def EmailSurvives (email : Option String) : Prop :=
  ∃ address, email = some address ∧ address ≠ "" ∧ isFormula address = false ∧
    UserRecords.Mongoose.lowercase setting.unicode (trim address) ≠ "" ∧
    castEmail setting (UserRecords.Mongoose.lowercase setting.unicode (trim address)) = address ∧
    emailValidator setting (.str address) = []

def DateSurvives (isoDay : Int → String) (birthdate : Option Int) : Prop :=
  ∀ date, birthdate = some date →
    isoDay date ≠ "" ∧ isFormula (isoDay date) = false ∧
      optionalBirthdate setting (.str (isoDay date)) = [] ∧
      setting.newDate (isoDay date) = some date

end

section
variable {setting : ImportSetting} {row : Row}

variable {name text : String}

theorem validateField_optional_iff {header : String} {group : ColumnGroup}
    {validator : Json → List String} {aliases : List String} :
    validateField row ⟨name, header, false, group, some validator, aliases⟩ = none ↔
      ∀ value, row name = some value → isEmpty (some value) = false → validator value = [] := by
  rw [validateField]
  cases isValue : row name with
  | none => simp [isEmpty]
  | some value =>
    cases empty : isEmpty (some value) with
    | true => simp [empty]
    | false =>
      by_cases passes : validator value = []
      · simp [empty, passes]
      · simp [empty, passes]

theorem optionalText_bind {cast : String → Option String}
    (keeps : ∀ text, trim text = text → cast text = some text) :
    (optionalText setting row name).bind cast = optionalText setting row name := by
  rw [optionalText]
  cases row name with
  | none => rfl
  | some value =>
    rw [Option.bind_some]
    split
    next => exact keeps _ (Schemas.trim_trim _)
    next => rfl

theorem imported_text {column : TextColumn} (member : column ∈ textColumns setting)
    (users : List UserData) :
    column.text (imported setting users row) =
      (optionalText setting row column.name).or column.fallback := by
  simp only [textColumns, List.mem_cons, List.not_mem_nil, or_false] at member
  cases isDatabase : setting.database with
  | mongodb =>
    rcases member with rfl | rfl | rfl | rfl | rfl | rfl | rfl | rfl | rfl | rfl | rfl | rfl | rfl
      <;> simp only [imported, created, stored, isDatabase, withUsername, prepared,
        createdDefaults] <;>
      rw [optionalText_bind fun text same => by simp only [UserRecords.Mongoose.cast, same]]
  | sqlite | postgresql =>
    rcases member with rfl | rfl | rfl | rfl | rfl | rfl | rfl | rfl | rfl | rfl | rfl | rfl | rfl
      <;> simp only [imported, created, stored, isDatabase, withUsername, prepared,
        createdDefaults]

theorem trim_quoted (text : List Char) :
    ∃ rest, trim (String.ofList ('\'' :: text)) = String.ofList ('\'' :: rest) := by
  have plain : Text.isWhiteSpace '\'' = false := by decide
  refine ⟨text.rdropWhile Text.isWhiteSpace, ?_⟩
  rw [trim, String.toList_ofList, List.dropWhile_cons_of_neg (by simp [plain]), List.rdropWhile,
    List.reverse_cons, List.dropWhile_append]
  cases rest : text.reverse.dropWhile Text.isWhiteSpace with
  | nil => simp [List.rdropWhile, rest, plain]
  | cons letter others => simp [List.rdropWhile, rest]

theorem quoted_ne_formula (formula : isFormula text = true) (rest : List Char) :
    String.ofList ('\'' :: rest) ≠ text := by
  intro same
  rw [← same, isFormula, String.toList_ofList, List.head?_cons, Option.any_some] at formula
  exact absurd formula (by decide)

theorem optionalText_str (isText : row name = some (.str text)) :
    optionalText setting row name = if trim text ≠ "" then some (trim text) else none := by
  have ofText : trimmedField setting row name = trim text := by
    rw [trimmedField, isText]
    rfl
  rw [optionalText, isText, Option.bind_some, ofText]
  by_cases filled : trim text = ""
  · rw [if_neg fun both => both.2 filled, if_neg (not_not.mpr filled)]
  · have nonempty : text ≠ "" := fun empty => filled (by rw [empty]; rfl)
    have truthy : (Json.str text).truthy = true := bne_iff_ne.mpr nonempty
    rw [if_pos ⟨truthy, filled⟩, if_pos filled]

theorem text_survives_iff (setting : ImportSetting) {column : TextColumn} {user : UserData}
    {exported : Bool} (isRow : row column.name = if exported then
      some (.str (neutralizeSpreadsheetFormula ((column.text user).getD ""))) else none)
    (fallback : ∀ text, column.fallback = some text → trim text ≠ "") :
    ((∀ value, row column.name = some value → isEmpty (some value) = false →
        column.validator value = []) ∧
      (optionalText setting row column.name).or column.fallback = column.text user) ↔
      TextSurvives exported column user := by
  cases exported with
  | false =>
    rw [if_neg Bool.false_ne_true] at isRow
    have noText : optionalText setting row column.name = none := by rw [optionalText, isRow]; rfl
    rw [noText, isRow, TextSurvives, if_neg Bool.false_ne_true, Option.none_or]
    exact ⟨fun both => both.2.symm, fun same => ⟨fun _ absent => (by cases absent), same.symm⟩⟩
  | true =>
    rw [if_pos rfl] at isRow
    rw [TextSurvives, if_pos rfl, optionalText_str isRow, isRow]
    cases isText : column.text user with
    | none =>
      have empty : neutralizeSpreadsheetFormula "" = "" := rfl
      have blank : trim "" = "" := rfl
      simp [empty, blank, isEmpty]
    | some text =>
      rw [Option.getD_some]
      cases formula : isFormula text with
      | true =>
        obtain ⟨rest, quoted⟩ := trim_quoted text.toList
        have filled : String.ofList ('\'' :: rest) ≠ "" := by
          intro empty
          simpa using congrArg String.toList empty
        rw [neutralizeSpreadsheetFormula, if_pos formula, quoted, if_pos filled, Option.some_or]
        simp only [Option.some.injEq, quoted_ne_formula formula, and_false, formula,
          Bool.true_eq_false, false_and]
      | false =>
        rw [neutralizeSpreadsheetFormula, formula, if_neg Bool.false_ne_true]
        by_cases blank : trim text = ""
        · have differ : column.fallback ≠ some text := fun same => fallback text same blank
          have untrimmed : text ≠ "" → trim text ≠ text := fun filled same =>
            filled (same.symm.trans blank)
          simp only [blank, ne_eq, not_true_eq_false, if_false, Option.none_or, differ,
            and_false, false_iff]
          rintro ⟨filled, -, same, -⟩
          exact filled same.symm
        · have filled : text ≠ "" := fun empty => blank (by rw [empty]; rfl)
          simp [blank, filled, formula, isEmpty, and_comm]

theorem validateField_required_iff {header : String} {group : ColumnGroup}
    {validator : Json → List String} {aliases : List String}
    (isText : row name = some (.str text)) :
    validateField row ⟨name, header, true, group, some validator, aliases⟩ = none ↔
      text ≠ "" ∧ validator (.str text) = [] := by
  rw [validateField, isText]
  by_cases empty : text = ""
  · simp [empty, isEmpty]
  · by_cases passes : validator (.str text) = []
    · simp [empty, passes, isEmpty]
    · simp [empty, passes, isEmpty]

theorem trimmedField_str (isText : row name = some (.str text)) :
    trimmedField setting row name = trim text := by
  rw [trimmedField, isText]
  rfl

theorem neutralize_plain (plain : isFormula text = false) :
    neutralizeSpreadsheetFormula text = text := by
  rw [neutralizeSpreadsheetFormula, plain, if_neg Bool.false_ne_true]

theorem name_survives_iff (setting : ImportSetting) (header : String) (aliases : List String)
    {field : String} {name : Option String}
    (isRow : row field = some (.str (neutralizeSpreadsheetFormula (name.getD "")))) :
    (validateField row ⟨field, header, true, .core, some (nameValidator setting), aliases⟩ = none ∧
      some (trimmedField setting row field) = name) ↔ NameSurvives setting name := by
  rw [validateField_required_iff isRow, trimmedField_str isRow]
  constructor
  · rintro ⟨⟨filled, valid⟩, same⟩
    cases name with
    | none => cases same
    | some text =>
      rw [Option.getD_some] at filled valid same
      cases formula : isFormula text with
      | true =>
        obtain ⟨rest, quoted⟩ := trim_quoted text.toList
        rw [neutralizeSpreadsheetFormula, if_pos formula, quoted] at same
        exact absurd (Option.some.inj same) (quoted_ne_formula formula rest)
      | false =>
        rw [neutralize_plain formula] at filled valid same
        exact ⟨text, rfl, filled, formula, Option.some.inj same, valid⟩
  · rintro ⟨text, rfl, filled, plain, trimmed, valid⟩
    rw [Option.getD_some, neutralize_plain plain, trimmed]
    exact ⟨⟨filled, valid⟩, rfl⟩

theorem castEmail_quoted (setting : CsvSetting) (text : List Char) :
    ∃ rest, castEmail setting.toImportSetting (UserRecords.Mongoose.lowercase setting.unicode
      (trim (String.ofList ('\'' :: text)))) = String.ofList ('\'' :: rest) := by
  have lowered (text : List Char) : ∃ rest, UserRecords.Mongoose.lowercase setting.unicode
      (String.ofList ('\'' :: text)) = String.ofList ('\'' :: rest) := by
    obtain ⟨rest, isLower⟩ := setting.apostrophe_toLowerCase text
    exact ⟨rest, by rw [UserRecords.Mongoose.lowercase, String.toList_ofList, isLower]⟩
  obtain ⟨trimmed, isTrimmed⟩ := trim_quoted text
  obtain ⟨lower, isLower⟩ := lowered trimmed
  rw [isTrimmed, isLower, castEmail]
  cases setting.database with
  | mongodb =>
    obtain ⟨again, isAgain⟩ := lowered lower
    obtain ⟨rest, isRest⟩ := trim_quoted again
    exact ⟨rest, by rw [isAgain, isRest]⟩
  | sqlite | postgresql => exact ⟨lower, rfl⟩

theorem email_survives_iff (setting : CsvSetting) (header : String) (aliases : List String)
    {email : Option String}
    (isRow : row "email" = some (.str (neutralizeSpreadsheetFormula (email.getD "")))) :
    (validateField row ⟨"email", header, true, .core,
        some (emailValidator setting.toImportSetting), aliases⟩ = none ∧
      normalizedEmail setting.toImportSetting row ≠ "" ∧
      some (storedEmail setting.toImportSetting row) = email) ↔
      EmailSurvives setting.toImportSetting email := by
  have normalized : normalizedEmail setting.toImportSetting row =
      UserRecords.Mongoose.lowercase setting.unicode
        (trim (neutralizeSpreadsheetFormula (email.getD ""))) := by
    rw [normalizedEmail, isRow]
    rfl
  rw [validateField_required_iff isRow, storedEmail, normalized]
  constructor
  · rintro ⟨⟨filled, valid⟩, hasEmail, same⟩
    cases email with
    | none => cases same
    | some address =>
      rw [Option.getD_some] at filled valid hasEmail same
      cases formula : isFormula address with
      | true =>
        obtain ⟨rest, quoted⟩ := castEmail_quoted setting address.toList
        rw [neutralizeSpreadsheetFormula, if_pos formula, quoted] at same
        exact absurd (Option.some.inj same) (quoted_ne_formula formula rest)
      | false =>
        rw [neutralize_plain formula] at filled valid hasEmail same
        exact ⟨address, rfl, filled, formula, hasEmail, Option.some.inj same, valid⟩
  · rintro ⟨address, rfl, filled, plain, hasEmail, kept, valid⟩
    rw [Option.getD_some, neutralize_plain plain, kept]
    exact ⟨⟨filled, valid⟩, hasEmail, rfl⟩

theorem gender_survives_iff (setting : CsvSetting) {gender : Option Gender}
    (isRow : row "gender" =
      some (.str (neutralizeSpreadsheetFormula ((gender.map genderText).getD "")))) :
    (validateField row ⟨"gender", "Gender", false, .core,
        some (genderValidator setting.toImportSetting), []⟩ = none ∧
      (optionalGender setting.toImportSetting row).or (some .M) = gender) ↔ gender.isSome := by
  rw [validateField_optional_iff, optionalGender, isRow]
  cases gender with
  | none =>
    have empty : neutralizeSpreadsheetFormula "" = "" := rfl
    simp [empty, Json.truthy]
  | some gender =>
    have upper : setting.toUpperCase (genderText gender) = genderText gender :=
      setting.toUpperCase_gender _ (by cases gender <;> decide)
    have plain : neutralizeSpreadsheetFormula (genderText gender) = genderText gender := by
      cases gender <;> rfl
    have trimmed : trim (genderText gender) = genderText gender := by cases gender <;> rfl
    have truthy : (Json.str (genderText gender)).truthy = true := by cases gender <;> rfl
    have text : textOf setting.conversions (some (.str (genderText gender))) =
      genderText gender := rfl
    simp only [Option.map_some, Option.getD_some, plain, Option.isSome_some, iff_true]
    constructor
    · intro value same _
      obtain rfl := Option.some.inj same
      rw [genderValidator, trimmed, upper, if_pos (by cases gender <;> decide)]
    · rw [Option.bind_some, if_pos truthy, text, upper]
      cases gender <;> rfl

theorem isCalendarDate_quoted (rest : List Char) :
    isCalendarDate (String.ofList ('\'' :: rest)) = false := by
  rw [isCalendarDate, String.toList_ofList]
  split
  next isDate =>
    injection isDate with first
    subst first
    rfl
  next => rfl

theorem date_survives_iff (setting : ImportSetting) {isoDay : Int → String} {birthdate : Option Int}
    (isRow : row "birthdate" =
      some (.str (neutralizeSpreadsheetFormula ((birthdate.map isoDay).getD "")))) :
    (validateField row ⟨"birthdate", "Birthdate", false, .core,
        some (optionalBirthdate setting), []⟩ = none ∧
      optionalDate setting row = birthdate) ↔ DateSurvives setting isoDay birthdate := by
  rw [validateField_optional_iff, optionalDate, isRow]
  cases birthdate with
  | none =>
    have empty : neutralizeSpreadsheetFormula "" = "" := rfl
    simp [empty, isEmpty, Json.truthy, DateSurvives]
  | some date =>
    have text (day : String) : textOf setting.conversions (some (.str day)) = day := rfl
    have truthy (day : String) : (Json.str day).truthy = (day != "") := rfl
    have empty (day : String) : isEmpty (some (.str day)) = decide (day = "") := rfl
    rw [Option.map_some, Option.getD_some, Option.bind_some, text, truthy, DateSurvives]
    cases formula : isFormula (isoDay date) with
    | true =>
      obtain ⟨rest, quoted⟩ := trim_quoted (isoDay date).toList
      have filled : String.ofList ('\'' :: (isoDay date).toList) ≠ "" := fun blank => by
        simpa using congrArg String.toList blank
      have restFilled : String.ofList ('\'' :: rest) ≠ "" := fun blank => by
        simpa using congrArg String.toList blank
      constructor
      · rintro ⟨valid, -⟩
        have issues := valid _ rfl (by
          rw [neutralizeSpreadsheetFormula, if_pos formula, empty]
          exact decide_eq_false filled)
        rw [neutralizeSpreadsheetFormula, if_pos formula, optionalBirthdate, zodString, quoted,
          if_neg restFilled, if_pos (isCalendarDate_quoted rest)] at issues
        cases issues
      · intro survives
        have plain := (survives date rfl).2.1
        rw [formula] at plain
        cases plain
    | false =>
      rw [neutralize_plain formula]
      constructor
      · rintro ⟨valid, same⟩ other isDate
        obtain rfl := Option.some.inj isDate
        split at same
        next filled =>
          have nonempty := bne_iff_ne.mp filled
          exact ⟨nonempty, formula,
            valid _ rfl (by rw [empty]; exact decide_eq_false nonempty), same⟩
        next => cases same
      · intro survives
        obtain ⟨filled, -, valid, same⟩ := survives date rfl
        refine ⟨fun value isValue _ => ?_, ?_⟩
        · obtain rfl := Option.some.inj isValue
          exact valid
        · rw [if_pos (bne_iff_ne.mpr filled), same]

theorem valid_iff : validateRowFields row (importColumns setting) = [] ↔
    validateField row ⟨"email", "Email", true, .core, some (emailValidator setting),
      ["email_address", "e-mail"]⟩ = none ∧
    validateField row ⟨"given_name", "First Name", true, .core, some (nameValidator setting),
      ["first_name", "firstname", "givenname"]⟩ = none ∧
    validateField row ⟨"family_name", "Last Name", true, .core, some (nameValidator setting),
      ["last_name", "lastname", "familyname", "surname"]⟩ = none ∧
    validateField row ⟨"gender", "Gender", false, .core, some (genderValidator setting), []⟩ =
      none ∧
    validateField row ⟨"birthdate", "Birthdate", false, .core, some (optionalBirthdate setting),
      []⟩ = none ∧
    ∀ column ∈ textColumns setting, ∀ value, row column.name = some value →
      isEmpty (some value) = false → column.validator value = [] := by
  simp only [validateRowFields, List.filterMap_eq_nil_iff, importColumns, textColumns,
    List.forall_mem_cons, validateField_optional_iff, List.not_mem_nil, false_implies,
    implies_true, and_true]
  constructor
  · rintro ⟨email, given, family, middle, nickname, gender, birthdate, rest⟩
    exact ⟨email, given, family, gender, birthdate, middle, nickname, rest⟩
  · rintro ⟨email, given, family, gender, birthdate, middle, nickname, rest⟩
    exact ⟨email, given, family, middle, nickname, gender, birthdate, rest⟩

theorem sameImportable_iff (setting : ImportSetting) {user other : UserData} :
    SameImportable user other ↔ other .email = user .email ∧ other .given_name = user .given_name ∧
      other .family_name = user .family_name ∧ other .gender = user .gender ∧
      other .birthdate = user .birthdate ∧
      ∀ column ∈ textColumns setting, column.text other = column.text user := by
  simp only [SameImportable, importableFields, textColumns, List.forall_mem_cons,
    List.not_mem_nil, false_implies, implies_true, and_true]
  constructor
  · rintro ⟨email, given, family, middle, nickname, gender, birthdate, rest⟩
    exact ⟨email, given, family, gender, birthdate, middle, nickname, rest⟩
  · rintro ⟨email, given, family, gender, birthdate, middle, nickname, rest⟩
    exact ⟨email, given, family, middle, nickname, gender, birthdate, rest⟩

end

structure Survives (setting : CsvSetting) (filters : ExportFilters) (user : UserData) : Prop where
  email : EmailSurvives setting.toImportSetting (user .email)
  given_name : NameSurvives setting.toImportSetting (user .given_name)
  family_name : NameSurvives setting.toImportSetting (user .family_name)
  gender : (user .gender).isSome
  birthdate : DateSurvives setting.toImportSetting setting.isoDay (user .birthdate)
  texts : ∀ column ∈ textColumns setting.toImportSetting,
    TextSurvives (isExported filters column.name) column user

section
variable {setting : CsvSetting} {filters : ExportFilters} {user : UserData}

theorem isExported_core : ∀ filters name, name ∈ ["email", "given_name", "family_name", "gender",
    "birthdate"] → isExported filters name = true := by
  rintro ⟨sensitive, secrets⟩ name member
  simp only [List.mem_cons, List.not_mem_nil, or_false] at member
  rcases member with rfl | rfl | rfl | rfl | rfl <;> cases sensitive <;> cases secrets <;>
    decide +kernel

theorem rowOf_name {name : String}
    (named : name ∈ (importColumns setting.toImportSetting).map (·.field)) :
    rowOf setting filters user name = if isExported filters name then
      some (.str (neutralizeSpreadsheetFormula (cell setting user name))) else none := by
  obtain ⟨column, member, rfl⟩ := List.mem_map.mp named
  exact rowOf_column member

theorem rowOf_core {name : String}
    (core : name ∈ ["email", "given_name", "family_name", "gender", "birthdate"]) :
    rowOf setting filters user name =
      some (.str (neutralizeSpreadsheetFormula (cell setting user name))) := by
  have named : name ∈ (importColumns setting.toImportSetting).map (·.field) := by
    simp only [List.mem_cons, List.not_mem_nil, or_false] at core
    rcases core with rfl | rfl | rfl | rfl | rfl <;> simp [importColumns]
  rw [rowOf_name named, isExported_core filters name core, if_pos rfl]

theorem rowOf_text (filters : ExportFilters) (user : UserData) {column : TextColumn}
    (member : column ∈ textColumns setting.toImportSetting) :
    rowOf setting filters user column.name = if isExported filters column.name then
      some (.str (neutralizeSpreadsheetFormula ((column.text user).getD ""))) else none := by
  have named : column.name ∈ (importColumns setting.toImportSetting).map (·.field) ∧
      cell setting user column.name = (column.text user).getD "" := by
    simp only [textColumns, List.mem_cons, List.not_mem_nil, or_false] at member
    rcases member with rfl | rfl | rfl | rfl | rfl | rfl | rfl | rfl | rfl | rfl | rfl | rfl | rfl
      <;> exact ⟨by simp [importColumns], rfl⟩
  rw [rowOf_name named.1, named.2]

theorem fallback_filled {setting : ImportSetting} : ∀ column ∈ textColumns setting, ∀ text,
    column.fallback = some text → trim text ≠ "" := by
  simp only [textColumns, List.forall_mem_cons, List.not_mem_nil, false_implies, implies_true,
    and_true, reduceCtorEq, true_and, Option.some.injEq, forall_eq']
  decide

theorem imported_names (setting : CsvSetting) (row : Row) (users : List UserData) :
    imported setting.toImportSetting users row .given_name =
        some (trimmedField setting.toImportSetting row "given_name") ∧
      imported setting.toImportSetting users row .family_name =
        some (trimmedField setting.toImportSetting row "family_name") ∧
      imported setting.toImportSetting users row .gender =
        (optionalGender setting.toImportSetting row).or (some .M) ∧
      imported setting.toImportSetting users row .birthdate =
        optionalDate setting.toImportSetting row := by
  have castGender (gender : Option Gender) :
      gender.bind (UserRecords.Mongoose.cast setting.unicode .gender) = gender := by
    cases gender <;> rfl
  have castDate (date : Option Int) :
      date.bind (UserRecords.Mongoose.cast setting.unicode .birthdate) = date := by
    cases date <;> rfl
  cases isDatabase : setting.database <;>
    simp [imported, created, stored, isDatabase, withUsername, prepared, createdDefaults,
      UserRecords.Mongoose.cast, trimmedField, Schemas.trim_trim, castGender, castDate]

theorem survives_iff (setting : CsvSetting) (filters : ExportFilters) (user : UserData)
    (users : List UserData) :
    (validateRowFields (rowOf setting filters user) (importColumns setting.toImportSetting) = [] ∧
      normalizedEmail setting.toImportSetting (rowOf setting filters user) ≠ "" ∧
      SameImportable user
        (imported setting.toImportSetting users (rowOf setting filters user))) ↔
      Survives setting filters user := by
  obtain ⟨given, family, gender, birthdate⟩ := imported_names setting
    (rowOf setting filters user) users
  have emailKept := email_survives_iff setting "Email" ["email_address", "e-mail"] <|
    show rowOf setting filters user "email" =
      some (.str (neutralizeSpreadsheetFormula ((user .email).getD ""))) from rowOf_core (by simp)
  have givenKept := name_survives_iff setting.toImportSetting "First Name"
    ["first_name", "firstname", "givenname"] <|
    show rowOf setting filters user "given_name" =
      some (.str (neutralizeSpreadsheetFormula ((user .given_name).getD ""))) from
        rowOf_core (by simp)
  have familyKept := name_survives_iff setting.toImportSetting "Last Name"
    ["last_name", "lastname", "familyname", "surname"] <|
    show rowOf setting filters user "family_name" =
      some (.str (neutralizeSpreadsheetFormula ((user .family_name).getD ""))) from
        rowOf_core (by simp)
  have genderKept := gender_survives_iff setting <|
    show rowOf setting filters user "gender" =
      some (.str (neutralizeSpreadsheetFormula (((user .gender).map genderText).getD ""))) from
        rowOf_core (by simp)
  have dateKept := date_survives_iff setting.toImportSetting <|
    show rowOf setting filters user "birthdate" =
      some (.str (neutralizeSpreadsheetFormula (((user .birthdate).map setting.isoDay).getD "")))
      from rowOf_core (by simp)
  have textKept {column : TextColumn} (member : column ∈ textColumns setting.toImportSetting) :=
    text_survives_iff setting.toImportSetting (rowOf_text filters user member)
      (fallback_filled column member)
  rw [valid_iff, sameImportable_iff setting.toImportSetting, imported_email, given, family, gender,
    birthdate]
  constructor
  · rintro ⟨⟨validEmail, validGiven, validFamily, validGender, validDate, validTexts⟩, hasEmail,
      sameEmail, sameGiven, sameFamily, sameGender, sameDate, sameTexts⟩
    exact {
      email := emailKept.mp ⟨validEmail, hasEmail, sameEmail⟩
      given_name := givenKept.mp ⟨validGiven, sameGiven⟩
      family_name := familyKept.mp ⟨validFamily, sameFamily⟩
      gender := genderKept.mp ⟨validGender, sameGender⟩
      birthdate := dateKept.mp ⟨validDate, sameDate⟩
      texts := fun column member => (textKept member).mp
        ⟨validTexts column member, (imported_text member users).symm.trans
          (sameTexts column member)⟩ }
  · intro survives
    obtain ⟨validEmail, hasEmail, sameEmail⟩ := emailKept.mpr survives.email
    obtain ⟨validGiven, sameGiven⟩ := givenKept.mpr survives.given_name
    obtain ⟨validFamily, sameFamily⟩ := familyKept.mpr survives.family_name
    obtain ⟨validGender, sameGender⟩ := genderKept.mpr survives.gender
    obtain ⟨validDate, sameDate⟩ := dateKept.mpr survives.birthdate
    have texts := fun column member => (textKept member).mpr (survives.texts column member)
    exact ⟨⟨validEmail, validGiven, validFamily, validGender, validDate,
        fun column member => (texts column member).1⟩, hasEmail, sameEmail, sameGiven, sameFamily,
      sameGender, sameDate,
      fun column member => (imported_text member users).trans (texts column member).2⟩

theorem storedEmail_rowOf (survives : Survives setting filters user) :
    some (storedEmail setting.toImportSetting (rowOf setting filters user)) = user .email :=
  (((sameImportable_iff setting.toImportSetting).mp
    ((survives_iff _ _ _ []).mpr survives).2.2).1.symm.trans (imported_email [])).symm

def ComeBack (setting : CsvSetting) (filters : ExportFilters)
    (world users : List UserData) : Prop :=
  (∀ user ∈ users, Survives setting filters user ∧
    Taken setting.toImportSetting world (rowOf setting filters user)) ∧
  users.Pairwise fun user other => user .email ≠ other .email

theorem executed_iff (setting : CsvSetting) (filters : ExportFilters) (users : List UserData)
    (rowNumber : Nat) (state : ImportState (List UserData)) :
    ∃ added, (executeRows setting.conversions (createUserEntityConfig setting.toImportSetting)
        rowNumber (users.map (rowOf setting filters)) state).world = state.world ++ added ∧
      added.length ≤ users.length ∧
      (List.Forall₂ SameImportable users added ↔ ComeBack setting filters state.world users) := by
  induction users generalizing rowNumber state with
  | nil => exact ⟨[], by simp [executeRows], Nat.le_refl _, by simp [ComeBack]⟩
  | cons user rest ih =>
    rw [List.map_cons, executeRows, ComeBack, List.forall_mem_cons, List.pairwise_cons]
    cases isImported : importRow setting.conversions
      (createUserEntityConfig setting.toImportSetting) (rowOf setting filters user)
      state.world with
    | error failure =>
      obtain ⟨added, world, atMost, -⟩ := ih (rowNumber + 1)
        { state with errors := state.errors ++ [⟨rowNumber, failure.1, failure.2⟩] }
      refine ⟨added, world, Nat.le_succ_of_le atMost, iff_of_false ?_ ?_⟩
      · intro same
        have length := same.length_eq
        rw [List.length_cons] at length
        omega
      · rintro ⟨⟨⟨survives, taken⟩, -⟩, -⟩
        obtain ⟨valid, hasEmail, -⟩ := (survives_iff _ _ _ state.world).mpr survives
        have succeeds := (importRow_ok_iff state.world _).mpr ⟨valid, hasEmail, taken, rfl⟩
        rw [isImported] at succeeds
        cases succeeds
    | ok next =>
      obtain ⟨valid, hasEmail, taken, rfl⟩ := (importRow_ok_iff state.world next).mp isImported
      obtain ⟨added, world, atMost, same⟩ := ih (rowNumber + 1)
        ⟨state.world ++ [imported setting.toImportSetting state.world
          (rowOf setting filters user)], state.errors, state.successCount + 1⟩
      refine ⟨imported setting.toImportSetting state.world (rowOf setting filters user) :: added,
        by simpa using world, Nat.succ_le_succ atMost, ?_⟩
      rw [List.forall₂_cons, same, ComeBack]
      have survives := survives_iff setting filters user state.world
      rw [and_iff_right valid, and_iff_right hasEmail] at survives
      simp only [survives, taken_append_iff]
      constructor
      · rintro ⟨survives, others, distinct⟩
        refine ⟨⟨⟨survives, taken⟩, fun other member => ⟨(others other member).1,
          (others other member).2.1⟩⟩, fun other member same => ?_, distinct⟩
        rw [← storedEmail_rowOf survives, ← storedEmail_rowOf (others other member).1] at same
        exact (others other member).2.2 (Option.some.inj same)
      · rintro ⟨⟨⟨survives, -⟩, others⟩, apart, distinct⟩
        refine ⟨survives, fun other member => ⟨(others other member).1,
          (others other member).2, fun same => apart other member ?_⟩, distinct⟩
        rw [← storedEmail_rowOf survives, ← storedEmail_rowOf (others other member).1, same]

theorem headers_kept : ∀ filters, 2 ≤ ((activeColumns filters).map (·.header)).length ∧
    ∀ header ∈ (activeColumns filters).map (·.header), trim header = header := by
  rintro ⟨sensitive, secrets⟩
  cases sensitive <;> cases secrets <;> decide +kernel

theorem rows_read (users : List UserData) :
    let file := generateExport setting filters users
    (setting.parse file).2.map (mapCsvRow setting (setting.parse file).1) =
      users.map (rowOf setting filters) := by
  obtain ⟨several, trimmed⟩ := headers_kept filters
  have rows := setting.rows_written ((activeColumns filters).map (·.header))
    (users.map fun user => (activeColumns filters).map fun column =>
      neutralizeSpreadsheetFormula (cell setting user column.field)) several trimmed (by simp)
  dsimp only
  rw [generateExport, formatCsvExport, rows]
  cases users with
  | nil => rfl
  | cons user rest =>
    rw [setting.headers_written _ _ several trimmed (by simp) (by simp), List.map_map]
    rfl

theorem validation_iff (setting : CsvSetting) (rows : List Row) :
    (∃ validation, validateImport setting.conversions
        (createUserEntityConfig setting.toImportSetting) rows [] = .ok validation ∧
        validation.valid = true) ↔
      rows.length ≤ 5000 ∧
        ∀ row ∈ rows, previewed (createUserEntityConfig setting.toImportSetting) [] row = true := by
  obtain ⟨valid, total⟩ := validateRows_counts setting.conversions
    (createUserEntityConfig setting.toImportSetting) [] rows 1 ⟨[], 0, 0⟩
  rw [← assertImportRowLimit_ok_iff, ← List.countP_eq_length, validateImport]
  dsimp only at valid total
  rw [List.length_nil, Nat.zero_add] at total
  cases limit : assertImportRowLimit setting.conversions
    (createUserEntityConfig setting.toImportSetting) rows.length with
  | error refusal => simp [Bind.bind, Except.bind]
  | ok _ =>
    simp only [Bind.bind, Except.bind, Pure.pure, Except.pure, Except.ok.injEq, exists_eq_left',
      decide_eq_true_eq, true_and, ← List.length_eq_zero_iff]
    omega

end

def tableSetting : CsvSetting where
  toImportSetting := smallSetting
  File := List String × List (List String)
  writeToBuffer headers rows := (headers, rows)
  parse file := file
  rows_written _ _ _ _ _ := rfl
  headers_written _ _ _ _ _ _ := rfl
  isoDay _ := "1970-01-01"
  created_at _ := 0
  updated_at _ := 0
  apostrophe_toLowerCase _ := ⟨_, rfl⟩
  toUpperCase_gender := by decide +kernel

def reachableAnn : UserData
  | .email => some "ann@example.org"
  | .given_name => some "Ann"
  | .family_name => some "Lee"
  | .gender => some .F
  | .phone_number => some "+22990000000"
  | .locale => some "fr"
  | .country => some "bj"
  | .zoneinfo => some "Africa/Porto-Novo"
  | _ => none

end ParakoId.DataTransfer
