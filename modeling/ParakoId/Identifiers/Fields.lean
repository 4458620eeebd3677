import ParakoId.Library.CodeUnits
import ParakoId.SocialAccounts.Integrations

/-!
Custom identifiers: how the fields are configured, what they accept, and the login that guesses
from its text alone which identifier is meant.
-/

namespace ParakoId.Identifiers

open Schemas (trim)
open SocialAccounts (Database)
open Text (isWhiteSpace utf16Length)

inductive Slot
  | one
  | two
  | three
  deriving DecidableEq

inductive ValidationType
  | none
  | regex
  | charset_mask
  deriving DecidableEq

inductive EditPolicy
  | admin_only
  | set_once
  | editable
  | full
  deriving DecidableEq

structure IdentifierField where
  slot : Slot
  key : String
  name : String
  validation_type : ValidationType
  pattern : Option String
  charset : Option String
  mask : Option String
  min_length : Option Nat
  max_length : Option Nat
  case_sensitive : Bool
  edit_policy : EditPolicy
  usable_for_login : Bool
  deriving DecidableEq

/-- `test` is what a regular expression answers of a text; one that cannot be compiled has none. A
text in lower case stays as it is, and white space at its ends has no part in it. -/
structure Language where
  toLowerCase : String → String
  test : String → String → Option Bool
  toLowerCase_toLowerCase : ∀ text, toLowerCase (toLowerCase text) = toLowerCase text
  trim_toLowerCase : ∀ text, trim (toLowerCase text) = toLowerCase (trim text)

/-! `custom-identifier-validation.ts`. -/

/-- The names that every object inherits. What they name has no `includes`, so that its use
throws. -/
def inheritedNames : List String :=
  ["constructor", "hasOwnProperty", "isPrototypeOf", "propertyIsEnumerable", "toLocaleString",
    "toString", "valueOf", "__proto__", "__defineGetter__", "__defineSetter__",
    "__lookupGetter__", "__lookupSetter__"]

def ownCharsets : List (String × String) :=
  [("digits", "0123456789"),
    ("base20", "0123456789BCDFGHJKLMNPQRSTVWXYZ"),
    ("alphanumeric", "0123456789ABCDEFGHIJKLMNOPQRSTUVWXYZabcdefghijklmnopqrstuvwxyz"),
    ("uppercase_alphanumeric", "0123456789ABCDEFGHIJKLMNOPQRSTUVWXYZ"),
    ("hex", "0123456789ABCDEFabcdef")]

def CHARSETS (charsetName : String) : Option (Option CodeUnits) :=
  if charsetName ∈ inheritedNames then some none
  else (ownCharsets.lookup charsetName).map fun letters => some (CodeUnits.ofText letters.toList)

/-- The loop over the mask; `none` where it throws. -/
def fitsMask (charsetChars : Option CodeUnits) : CodeUnits → CodeUnits → Option Bool
  | unit :: value, place :: mask =>
    if place = '*'.toNat.toUInt16 then
      match charsetChars with
      | none => none
      | some letters => if unit ∈ letters then fitsMask charsetChars value mask else some false
    else if unit = place then fitsMask charsetChars value mask
    else some false
  | _, _ => some true

def validateCharsetMask (value charsetName mask : String) : Option Bool :=
  match CHARSETS charsetName with
  | none => some false
  | some charsetChars =>
    if utf16Length value ≠ utf16Length mask then some false
    else fitsMask charsetChars (CodeUnits.ofText value.toList) (CodeUnits.ofText mask.toList)

section
variable (language : Language)

def validateWithRegex (value pattern : String) : Bool :=
  utf16Length value ≤ 100 && (language.test ("^(?:" ++ pattern ++ ")$") value).getD false

/-- A text that is there and not empty. -/
def given (text : Option String) : Option String := text.filter (· ≠ "")

def patternCheck (field : IdentifierField) (value : String) : Option (Option Bool) :=
  match field.validation_type with
  | .none => none
  | .regex => (given field.pattern).map fun pattern =>
    some (validateWithRegex language value pattern)
  | .charset_mask => (given field.charset).bind fun charset =>
    (given field.mask).map (validateCharsetMask value charset)

/-- `none` where it throws. -/
def validateIdentifier (value : String) (field : IdentifierField) : Option Bool :=
  if utf16Length value < field.min_length.getD 1 ∨ field.max_length.getD 100 < utf16Length value
  then some false
  else (patternCheck language field value).getD (some true)

/-- `/^[^\s@]+@[^\s@]+\.[^\s@]+$/`: one `@`, and a dot inside of what is behind it. -/
def isEmailShaped (text : List Char) : Bool :=
  let domain := (text.dropWhile (· ≠ '@')).tail
  text.all (fun letter => !isWhiteSpace letter) && text.takeWhile (· ≠ '@') ≠ [] &&
    text.count '@' = 1 && '.' ∈ domain.tail.dropLast

/-- `/^[+]?[\d\s\-().]{7,}$/` with at least seven digits. -/
def isPhoneShaped (text : List Char) : Bool :=
  let number := if text.head? = some '+' then text.tail else text
  number.all (fun letter => letter.isDigit || isWhiteSpace letter || "-().".toList.contains letter)
    && 7 ≤ number.length && 7 ≤ text.countP Char.isDigit

inductive IdentifierType
  | email
  | phone
  | custom_identifier (slot : Slot) (key : String)

def matchesPattern (trimmed : String) (field : IdentifierField) : Option Bool :=
  (patternCheck language field trimmed).getD (some false)

/-- The loop over the fields; `none` where it throws. -/
@[grind =]
def firstMatch (trimmed : String) : List IdentifierField → Option (Option IdentifierField)
  | [] => some none
  | field :: rest =>
    match matchesPattern language trimmed field with
    | none => none
    | some true => some (some field)
    | some false => firstMatch trimmed rest

def fallbackField (loginableFields : List IdentifierField) : Option IdentifierField :=
  match loginableFields.filter (·.validation_type = .none) with
  | [field] => some field
  | _ => loginableFields.head?

def IdentifierField.identifierType (field : IdentifierField) : IdentifierType :=
  .custom_identifier field.slot field.key

variable (fields : List IdentifierField)

/-- `fields` are those of the configuration; while it is disabled there are none. -/
def getLoginableCustomIdentifierFields : List IdentifierField := fields.filter (·.usable_for_login)

/-- `none` where it throws. -/
def detectIdentifierType (identifier : String) : Option IdentifierType :=
  let trimmed := trim identifier
  let loginableFields := getLoginableCustomIdentifierFields fields
  if identifier = "" ∨ isEmailShaped trimmed.toList then some .email
  else if isPhoneShaped trimmed.toList then some .phone
  else do
    let matched ← firstMatch language trimmed loginableFields
    return ((matched.or (fallbackField loginableFields)).map
      IdentifierField.identifierType).getD .email

structure User where
  id : String
  email : Option String
  phone_number : Option String
  custom_identifier : Slot → Option String
  account_enabled : Bool

def getCustomIdentifierFieldBySlot (slot : Slot) : Option IdentifierField :=
  fields.find? (·.slot = slot)

def normalizedValue (field : Option IdentifierField) (value : String) : String :=
  if field.any fun field => !field.case_sensitive then trim (language.toLowerCase value)
  else trim value

variable (database : Database) (users : List User)

/-- The schema of MongoDB trims an identifier, also in a query. -/
def castText (text : String) : String := if database = .mongodb then trim text else text

def findByEmail (email : String) : Option User :=
  users.find? fun user => user.email = some (if database = .mongodb
    then trim (language.toLowerCase email) else email) && user.account_enabled

def findByPhoneNumber (phoneNumber : String) : Option User :=
  users.find? fun user => user.phone_number = some (castText database phoneNumber) &&
    user.account_enabled

def findByCustomIdentifier (slot : Slot) (value : String) : Option User :=
  let normalized := normalizedValue language (getCustomIdentifierFieldBySlot fields slot) value
  users.find? fun user => user.custom_identifier slot = some (castText database normalized) &&
    user.account_enabled

def findForLogin (identifier : String) : Option User :=
  match detectIdentifierType language fields identifier with
  | none => none
  | some .email => findByEmail language database users identifier
  | some .phone => findByPhoneNumber database users identifier
  | some (.custom_identifier slot _) =>
    findByCustomIdentifier language fields database users slot
      (normalizedValue language (getCustomIdentifierFieldBySlot fields slot) identifier)

def storedValue (field : IdentifierField) (value : String) : String :=
  castText database
    (if field.case_sensitive then trim value else language.toLowerCase (trim value))

structure HasRegistered (field : IdentifierField) (value : String) (user : User) : Prop where
  member : user ∈ users
  enabled : user.account_enabled
  stored : user.custom_identifier field.slot = some (storedValue language database field value)
  unique : ∀ slot, Tables.UniqueOn (fun user => (user.custom_identifier slot).isSome)
    (·.custom_identifier slot) users

def LogsIn (field : IdentifierField) (value : String) : Prop :=
  ∀ users user, HasRegistered language database users field value user →
    findForLogin language fields database users value = some user

/-- The text is shaped neither like an e-mail address nor like a phone number, and it is the field's
as far as patterns tell. -/
structure IsRecognized (field : IdentifierField) (value : String) : Prop where
  notEmail : isEmailShaped (trim value).toList = false
  notPhone : isPhoneShaped (trim value).toList = false
  first : ∀ other ∈ (getLoginableCustomIdentifierFields fields).takeWhile (· ≠ field),
    matchesPattern language (trim value) other = some false
  chosen : patternCheck language field (trim value) = none →
    (∀ other ∈ getLoginableCustomIdentifierFields fields,
      matchesPattern language (trim value) other = some false) ∧
    ((getLoginableCustomIdentifierFields fields).filter (·.validation_type = .none) = [field] ∨
      (getLoginableCustomIdentifierFields fields).head? = some field ∧
      ((getLoginableCustomIdentifierFields fields).filter (·.validation_type = .none)).length ≠ 1)

end

section
variable {language : Language} {fields : List IdentifierField} {database : Database}
  {users : List User} {field : IdentifierField} {value : String} {user : User}

theorem castText_trim (text : String) : castText database (trim text) = trim text := by
  cases database with
  | mongodb => exact Schemas.trim_trim text
  | sqlite | postgresql => rfl

theorem normalizedValue_eq :
    normalizedValue language (some field) value =
      trim (if field.case_sensitive then value else language.toLowerCase value) := by
  cases sensitive : field.case_sensitive <;> simp [normalizedValue, sensitive]

theorem stored_normalized :
    castText database (normalizedValue language (some field)
        (normalizedValue language (some field) value)) =
      storedValue language database field value := by
  rw [normalizedValue_eq, castText_trim, normalizedValue_eq, storedValue]
  cases field.case_sensitive with
  | true => rw [if_pos rfl, if_pos rfl, if_pos rfl, castText_trim, Schemas.trim_trim]
  | false =>
    rw [if_neg Bool.false_ne_true, if_neg Bool.false_ne_true, if_neg Bool.false_ne_true,
      ← language.trim_toLowerCase value, castText_trim, ← language.trim_toLowerCase,
      language.toLowerCase_toLowerCase, Schemas.trim_trim, language.trim_toLowerCase]

variable {list : List IdentifierField}

theorem firstMatch_matches {trimmed : String}
    (found : firstMatch language trimmed list = some (some field)) :
    field ∈ list ∧ matchesPattern language trimmed field = some true := by
  induction list with
  | nil => simp [firstMatch] at found
  | cons head rest ih =>
    rw [firstMatch] at found
    cases matched : matchesPattern language trimmed head with
    | none => simp [matched] at found
    | some isMatch =>
      cases isMatch with
      | true =>
        have same : head = field := by simpa [matched] using found
        exact same ▸ ⟨List.mem_cons_self, matched⟩
      | false =>
        obtain ⟨member, isMatch⟩ := ih (by simpa [matched] using found)
        exact ⟨List.mem_cons_of_mem _ member, isMatch⟩

theorem firstMatch_eq_some_iff {trimmed : String} (member : field ∈ list) :
    firstMatch language trimmed list = some (some field) ↔
      matchesPattern language trimmed field = some true ∧
        ∀ other ∈ list.takeWhile (· ≠ field), matchesPattern language trimmed other = some false := by
  induction list with
  | nil => cases member
  | cons head rest ih =>
    by_cases same : head = field
    · subst same
      rw [List.takeWhile_cons_of_neg (by simp), firstMatch]
      cases matched : matchesPattern language trimmed head with
      | none => simp
      | some isMatch =>
        cases isMatch with
        | true => simp
        | false =>
          -- a field that is not matched is not found behind itself
          simp only [Option.some.injEq, Bool.false_eq_true, false_and, iff_false]
          intro found
          exact absurd (firstMatch_matches found).2 (by simp [matched])
    · have below : field ∈ rest := (List.mem_cons.mp member).resolve_left (Ne.symm same)
      rw [List.takeWhile_cons_of_pos (by simpa using same), List.forall_mem_cons, firstMatch]
      rcases matchesPattern language trimmed head with _ | _ | _
      · simp
      · simpa using ih below
      · simpa using same

theorem firstMatch_eq_none_iff {trimmed : String} :
    firstMatch language trimmed list = some none ↔
      ∀ other ∈ list, matchesPattern language trimmed other = some false := by
  induction list with
  | nil => simp [firstMatch]
  | cons head rest ih =>
    rw [firstMatch, List.forall_mem_cons, ← ih]
    rcases matchesPattern language trimmed head with _ | _ | _ <;> simp

theorem fallbackField_eq_iff :
    fallbackField list = some field ↔ list.filter (·.validation_type = .none) = [field] ∨
      list.head? = some field ∧ (list.filter (·.validation_type = .none)).length ≠ 1 := by
  rw [fallbackField]
  split
  next only patternless =>
    rw [patternless, Option.some.injEq, List.cons.injEq]
    simp
  next notOnly =>
    have several : (list.filter (·.validation_type = .none)).length ≠ 1 := fun single =>
      let ⟨only, patternless⟩ := List.length_eq_one_iff.mp single
      notOnly only patternless
    constructor
    · exact fun first => Or.inr ⟨first, several⟩
    · rintro (patternless | ⟨first, -⟩)
      · exact absurd patternless (notOnly field)
      · exact first

def chosenField (language : Language) (fields : List IdentifierField) (trimmed : String) :
    Option (Option IdentifierField) :=
  (firstMatch language trimmed (getLoginableCustomIdentifierFields fields)).map
    (·.or (fallbackField (getLoginableCustomIdentifierFields fields)))

theorem accepted_matches (accepted : validateIdentifier language value field = some true) :
    matchesPattern language value field =
      some (patternCheck language field value).isSome := by
  unfold validateIdentifier at accepted
  split at accepted
  next => simp at accepted
  next =>
    rw [matchesPattern]
    cases check : patternCheck language field value with
    | none => rfl
    | some result => simpa [check] using accepted

theorem chosenField_eq_iff (loginable : field ∈ getLoginableCustomIdentifierFields fields)
    (accepted : validateIdentifier language (trim value) field = some true)
    (notEmail : isEmailShaped (trim value).toList = false)
    (notPhone : isPhoneShaped (trim value).toList = false) :
    chosenField language fields (trim value) = some (some field) ↔
      IsRecognized language fields field value := by
  have own := accepted_matches accepted
  unfold chosenField
  cases check : patternCheck language field (trim value) with
  | some result =>
    rw [check] at own
    constructor
    · intro chosen
      obtain ⟨found, matched, isFound⟩ := Option.map_eq_some_iff.mp chosen
      cases found with
      | none =>
        have unmatched := firstMatch_eq_none_iff.mp matched field loginable
        rw [own] at unmatched
        simp at unmatched
      | some found =>
        obtain rfl : found = field := by simpa using isFound
        exact ⟨notEmail, notPhone, ((firstMatch_eq_some_iff loginable).mp matched).2,
          fun unpatterned => absurd (check.symm.trans unpatterned) (by simp)⟩
    · intro recognized
      rw [(firstMatch_eq_some_iff loginable).mpr ⟨own, recognized.first⟩]
      rfl
  | none =>
    rw [check] at own
    constructor
    · intro chosen
      obtain ⟨found, matched, isFound⟩ := Option.map_eq_some_iff.mp chosen
      cases found with
      | some found =>
        obtain rfl : found = field := by simpa using isFound
        have isMatch := (firstMatch_matches matched).2
        rw [own] at isMatch
        simp at isMatch
      | none =>
        have unmatched := firstMatch_eq_none_iff.mp matched
        exact ⟨notEmail, notPhone,
          fun other before => unmatched other ((List.takeWhile_sublist _).subset before),
          fun _ => ⟨unmatched, fallbackField_eq_iff.mp (by simpa using isFound)⟩⟩
    · intro recognized
      obtain ⟨unmatched, fallback⟩ := recognized.chosen check
      rw [firstMatch_eq_none_iff.mpr unmatched, Option.map_some, Option.none_or,
        fallbackField_eq_iff.mpr fallback]

theorem slot_injective (distinct : (fields.map (·.slot)).Nodup) {other : IdentifierField}
    (member : field ∈ fields) (otherMember : other ∈ fields) (sameSlot : other.slot = field.slot) :
    other = field :=
  List.inj_on_of_nodup_map distinct otherMember member sameSlot

theorem getCustomIdentifierFieldBySlot_eq (distinct : (fields.map (·.slot)).Nodup)
    (member : field ∈ fields) : getCustomIdentifierFieldBySlot fields field.slot = some field := by
  cases found : getCustomIdentifierFieldBySlot fields field.slot with
  | none => simpa using List.find?_eq_none.mp found field member
  | some other =>
    have sameSlot : other.slot = field.slot := by simpa using List.find?_some found
    rw [slot_injective distinct member (List.mem_of_find?_eq_some found) sameSlot]

theorem chosenField_mem (chosen : chosenField language fields value = some (some field)) :
    field ∈ fields := by
  have loginable : field ∈ getLoginableCustomIdentifierFields fields := by
    obtain ⟨found, matched, isFound⟩ := Option.map_eq_some_iff.mp chosen
    cases found with
    | some found =>
      obtain rfl : found = field := by simpa using isFound
      exact (firstMatch_matches matched).1
    | none =>
      rcases fallbackField_eq_iff.mp (by simpa using isFound) with patternless | ⟨first, -⟩
      · exact List.mem_of_mem_filter (patternless ▸ List.mem_singleton_self field)
      · exact List.mem_of_head? first
  exact List.mem_of_mem_filter loginable

theorem findForLogin_unshaped (nonempty : trim value ≠ "")
    (notEmail : isEmailShaped (trim value).toList = false)
    (notPhone : isPhoneShaped (trim value).toList = false) :
    findForLogin language fields database users value =
      match chosenField language fields (trim value) with
      | none => none
      | some none => findByEmail language database users value
      | some (some chosen) => findByCustomIdentifier language fields database users chosen.slot
          (normalizedValue language (getCustomIdentifierFieldBySlot fields chosen.slot) value) := by
  have filled : value ≠ "" := fun blank => nonempty (by rw [blank]; rfl)
  simp only [findForLogin, detectIdentifierType, filled, notEmail, notPhone, Bool.false_eq_true,
    or_self, if_false, chosenField]
  rcases firstMatch language (trim value) (getLoginableCustomIdentifierFields fields)
    with _ | _ | found
  · rfl
  · cases fallbackField (getLoginableCustomIdentifierFields fields) <;> rfl
  · rfl

theorem find_registered (distinct : (fields.map (·.slot)).Nodup) (member : field ∈ fields)
    (registered : HasRegistered language database users field value user) :
    findByCustomIdentifier language fields database users field.slot
      (normalizedValue language (getCustomIdentifierFieldBySlot fields field.slot) value) =
        some user := by
  rw [findByCustomIdentifier, getCustomIdentifierFieldBySlot_eq distinct member,
    stored_normalized]
  cases found : users.find? fun user => user.custom_identifier field.slot =
      some (storedValue language database field value) && user.account_enabled with
  | none =>
    have missing := List.find?_eq_none.mp found user registered.member
    simp [registered.stored, registered.enabled] at missing
  | some other =>
    have isFound := List.find?_some found
    rw [Bool.and_eq_true, decide_eq_true_eq] at isFound
    rw [(registered.unique field.slot).eq_of_key_eq (List.mem_of_find?_eq_some found)
      registered.member (by simp [isFound.1]) (by simp [registered.stored])
      (isFound.1.trans registered.stored.symm)]

def onlyRegistered (language : Language) (database : Database) (field : IdentifierField)
    (value : String) : User where
  id := ""
  email := none
  phone_number := none
  custom_identifier slot :=
    if slot = field.slot then some (storedValue language database field value) else none
  account_enabled := true

theorem onlyRegistered_registered : HasRegistered language database
    [onlyRegistered language database field value] field value
    (onlyRegistered language database field value) where
  member := List.mem_singleton_self _
  enabled := rfl
  stored := if_pos rfl
  unique _ := List.pairwise_singleton _ _

theorem logsIn_iff (distinct : (fields.map (·.slot)).Nodup) (member : field ∈ fields)
    (usable : field.usable_for_login) (nonempty : trim value ≠ "")
    (accepted : validateIdentifier language (trim value) field = some true) :
    LogsIn language fields database field value ↔ IsRecognized language fields field value := by
  have loginable : field ∈ getLoginableCustomIdentifierFields fields :=
    List.mem_filter.mpr ⟨member, usable⟩
  constructor
  · intro logsIn
    have found := logsIn _ _ onlyRegistered_registered
    cases notEmail : isEmailShaped (trim value).toList with
    | true =>
      simp [findForLogin, detectIdentifierType, notEmail, findByEmail, onlyRegistered] at found
    | false =>
      cases notPhone : isPhoneShaped (trim value).toList with
      | true =>
        have filled : value ≠ "" := fun blank => nonempty (by rw [blank]; rfl)
        simp [findForLogin, detectIdentifierType, notEmail, notPhone, filled,
          findByPhoneNumber, onlyRegistered] at found
      | false =>
        rw [findForLogin_unshaped nonempty notEmail notPhone] at found
        rw [← chosenField_eq_iff loginable accepted notEmail notPhone]
        cases chosen : chosenField language fields (trim value) with
        | none => simp [chosen] at found
        | some choice =>
          cases choice with
          | none => simp [chosen, findByEmail, onlyRegistered] at found
          | some other =>
            have sameSlot : other.slot = field.slot := by
              by_contra apart
              simp [chosen, findByCustomIdentifier, onlyRegistered, apart] at found
            rw [slot_injective distinct member (chosenField_mem chosen) sameSlot]
  · intro recognized users user registered
    rw [findForLogin_unshaped nonempty recognized.notEmail recognized.notPhone,
      (chosenField_eq_iff loginable accepted recognized.notEmail recognized.notPhone).mpr
        recognized]
    exact find_registered distinct member registered

theorem isWhiteSpace_toLower (letter : Char) :
    isWhiteSpace letter.toLower = isWhiteSpace letter := by
  have inside : ∀ number, 65 ≤ number ∧ number ≤ 122 →
      (number ∈ [0x20, 0xA0, 0x1680, 0x2028, 0x2029, 0x202F, 0x205F, 0x3000, 0xFEFF] ||
        (0x9 ≤ number && number ≤ 0xD) || (0x2000 ≤ number && number ≤ 0x200A)) = false := by
    intro number bounds
    simp only [List.mem_cons, List.not_mem_nil, or_false, Bool.or_eq_false_iff,
      decide_eq_false_iff_not, Bool.and_eq_false_iff]
    omega
  simp only [isWhiteSpace, Text.toNat_toLower]
  split
  next upper => rw [inside _ (by omega), inside _ (by omega)]
  next => rfl

/-- Capitals of ASCII in lower case, and no regular expressions. -/
def asciiLanguage : Language where
  toLowerCase text := String.ofList (text.toList.map Char.toLower)
  test _ _ := none
  toLowerCase_toLowerCase text := by
    rw [String.toList_ofList, List.map_map]
    exact congrArg _ (List.map_congr_left fun letter _ => Text.toLower_toLower letter)
  trim_toLowerCase text := by
    have same : isWhiteSpace ∘ Char.toLower = isWhiteSpace := funext isWhiteSpace_toLower
    simp only [trim, String.toList_ofList, List.rdropWhile, List.dropWhile_map, same,
      ← List.map_reverse]

def memberField : IdentifierField where
  slot := .one
  key := "member"
  name := "Member number"
  validation_type := .none
  pattern := none
  charset := none
  mask := none
  min_length := some 1
  max_length := some 100
  case_sensitive := false
  edit_policy := .set_once
  usable_for_login := true

theorem member_logsIn_iff :
    LogsIn asciiLanguage [memberField] .postgresql memberField "Ann-7" ↔
      IsRecognized asciiLanguage [memberField] memberField "Ann-7" :=
  logsIn_iff (by decide) (List.mem_singleton_self _) rfl (by decide) (by decide)

theorem digits_rejected :
    memberField.usable_for_login ∧
      validateIdentifier asciiLanguage (trim "12345678") memberField = some true ∧
      ¬ LogsIn asciiLanguage [memberField] .postgresql memberField "12345678" := by
  refine ⟨rfl, by decide, fun logsIn => ?_⟩
  have found := logsIn _ _ onlyRegistered_registered
  have lost : (findForLogin asciiLanguage [memberField] .postgresql
      [onlyRegistered asciiLanguage .postgresql memberField "12345678"] "12345678").isNone := by
    decide
  rw [found] at lost
  exact Bool.false_ne_true lost

end

end ParakoId.Identifiers
