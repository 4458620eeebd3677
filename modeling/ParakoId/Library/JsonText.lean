import ParakoId.Library.CodeUnits
import ParakoId.Library.Json
import ParakoId.Library.Url

/-!
`JSON.parse` and `JSON.stringify`, on texts that are well formed. Strings are lists of code units.
How numbers are read and written is left to the engine.
-/

namespace JsonText

/-- An object keeps all its members; the last one with a key counts. -/
inductive Value (Number : Type)
  | null
  | bool (value : Bool)
  | num (value : Number)
  | str (value : CodeUnits)
  | arr (items : List (Value Number))
  | obj (members : List (CodeUnits × Value Number))

/-- The numbers of an engine, but for the sign of zero: what each is, which one a numeral stands
for, and the text of a finite one. -/
structure Numbers (Number : Type) where
  value : Number → JsNumber
  read : List Char → Number
  write : Number → List Char

variable {Number : Type}

namespace Value

def isNull : Value Number → Bool
  | .null => true
  | _ => false

/-- `undefined` is `none`. -/
def property (key : CodeUnits) : Value Number → Option (Value Number)
  | .obj members => members.reverse.lookup key
  | _ => none

end Value

def SHORT_ESCAPES : List (UInt16 × Char) := [
  (8, 'b'),
  (9, 't'),
  (10, 'n'),
  (12, 'f'),
  (13, 'r'),
  (0x22, '"'),
  (0x5C, '\\')]

def escaped (character : Char) : Option UInt16 :=
  if character = '/' then some 0x2F
  else (SHORT_ESCAPES.find? (·.2 == character)).map Prod.fst

def hexUnit (digits : List Char) : Option UInt16 := (Url.numberIn 16 digits).map UInt16.ofNat

def hexDigits (number : Nat) : List Char := [
  Nat.digitChar (number / 0x1000),
  Nat.digitChar (number / 0x100 % 0x10),
  Nat.digitChar (number / 0x10 % 0x10),
  Nat.digitChar (number % 0x10)]

def scanString : List Char → Option (CodeUnits × List Char)
  | [] => none
  | '"' :: rest => some ([], rest)
  | '\\' :: 'u' :: first :: second :: third :: fourth :: rest =>
    (hexUnit [first, second, third, fourth]).bind fun codeUnit =>
      (scanString rest).map fun (value, after) => (codeUnit :: value, after)
  | '\\' :: character :: rest =>
    (escaped character).bind fun codeUnit =>
      (scanString rest).map fun (value, after) => (codeUnit :: value, after)
  | character :: rest =>
    if character.toNat < 0x20 then none
    else (scanString rest).map fun (value, after) => (CodeUnits.ofChar character ++ value, after)

def quoteUnit (codeUnit : UInt16) : List Char :=
  match SHORT_ESCAPES.lookup codeUnit with
  | some character => ['\\', character]
  | none =>
    if codeUnit.toNat < 0x20 ∨ CodeUnits.isHigh codeUnit ∨ CodeUnits.isLow codeUnit then
      '\\' :: 'u' :: hexDigits codeUnit.toNat
    else [Char.ofNat codeUnit.toNat]

def quoted : CodeUnits → List Char
  | [] => ['"']
  | [codeUnit] => quoteUnit codeUnit ++ ['"']
  | high :: low :: rest =>
    if CodeUnits.isHigh high ∧ CodeUnits.isLow low then
      CodeUnits.pairChar high low :: quoted rest
    else quoteUnit high ++ quoted (low :: rest)

inductive NumeralState
  | start
  | minus
  | zero
  | int
  | point
  | fraction
  | exponent
  | sign
  | power

namespace NumeralState

def accepts : NumeralState → Bool
  | .zero => true
  | .int => true
  | .fraction => true
  | .power => true
  | _ => false

def firstDigit (character : Char) : Option NumeralState :=
  if character = '0' then some .zero
  else if character.isDigit then some .int
  else none

def digit (next : NumeralState) (character : Char) : Option NumeralState :=
  if character.isDigit then some next else none

def exponentMark (character : Char) : Option NumeralState :=
  if character = 'e' ∨ character = 'E' then some .exponent else none

def behindInt (character : Char) : Option NumeralState :=
  if character = '.' then some .point else exponentMark character

def next : NumeralState → Char → Option NumeralState
  | .start, character => if character = '-' then some .minus else firstDigit character
  | .minus, character => firstDigit character
  | .zero, character => behindInt character
  | .int, character => (digit .int character).or (behindInt character)
  | .point, character => digit .fraction character
  | .fraction, character => (digit .fraction character).or (exponentMark character)
  | .exponent, character =>
    if character = '+' ∨ character = '-' then some .sign else digit .power character
  | .sign, character => digit .power character
  | .power, character => digit .power character

end NumeralState

def scanNumeral (state : NumeralState) : List Char → Option (List Char × List Char)
  | [] => if state.accepts then some ([], []) else none
  | character :: rest =>
    match state.next character with
    | some next =>
      (scanNumeral next rest).map fun (numeral, after) => (character :: numeral, after)
    | none => if state.accepts then some ([], character :: rest) else none

def IsNumeral (numeral : List Char) : Prop := scanNumeral .start numeral = some (numeral, [])

inductive Token (Number : Type)
  | openObject
  | closeObject
  | openArray
  | closeArray
  | colon
  | comma
  | str (value : CodeUnits)
  | scalar (value : Value Number)

def scan (numbers : Numbers Number) : List Char → Option (Token Number × List Char)
  | '{' :: rest => some (.openObject, rest)
  | '}' :: rest => some (.closeObject, rest)
  | '[' :: rest => some (.openArray, rest)
  | ']' :: rest => some (.closeArray, rest)
  | ':' :: rest => some (.colon, rest)
  | ',' :: rest => some (.comma, rest)
  | '"' :: rest => (scanString rest).map fun (value, after) => (.str value, after)
  | 'n' :: 'u' :: 'l' :: 'l' :: rest => some (.scalar .null, rest)
  | 't' :: 'r' :: 'u' :: 'e' :: rest => some (.scalar (.bool true), rest)
  | 'f' :: 'a' :: 'l' :: 's' :: 'e' :: rest => some (.scalar (.bool false), rest)
  | text =>
    (scanNumeral .start text).map fun (numeral, after) =>
      (.scalar (.num (numbers.read numeral)), after)

inductive Frame (Number : Type)
  | array (items : List (Value Number))
  | object (members : List (CodeUnits × Value Number)) (key : CodeUnits)

inductive Awaits (Number : Type)
  | value
  | firstItem
  | firstKey
  | key (members : List (CodeUnits × Value Number))
  | colon (members : List (CodeUnits × Value Number)) (key : CodeUnits)
  | next (value : Value Number)

abbrev State (Number : Type) := List (Frame Number) × Awaits Number

def begin (stack : List (Frame Number)) : Token Number → Option (State Number)
  | .scalar value => some (stack, .next value)
  | .str value => some (stack, .next (.str value))
  | .openArray => some (stack, .firstItem)
  | .openObject => some (stack, .firstKey)
  | _ => none

def step : State Number → Token Number → Option (State Number)
  | (stack, .value), token => begin stack token
  | (stack, .firstItem), .closeArray => some (stack, .next (.arr []))
  | (stack, .firstItem), token => begin (.array [] :: stack) token
  | (stack, .firstKey), .closeObject => some (stack, .next (.obj []))
  | (stack, .firstKey), .str key => some (stack, .colon [] key)
  | (stack, .key members), .str key => some (stack, .colon members key)
  | (stack, .colon members key), .colon => some (.object members key :: stack, .value)
  | (.array items :: stack, .next value), .comma =>
    some (.array (items ++ [value]) :: stack, .value)
  | (.array items :: stack, .next value), .closeArray =>
    some (stack, .next (.arr (items ++ [value])))
  | (.object members key :: stack, .next value), .comma =>
    some (stack, .key (members ++ [(key, value)]))
  | (.object members key :: stack, .next value), .closeObject =>
    some (stack, .next (.obj (members ++ [(key, value)])))
  | _, _ => none

def finished : State Number → Option (Value Number)
  | ([], .next value) => some value
  | _ => none

def isSpace (character : Char) : Bool := [' ', '\t', '\n', '\r'].contains character

theorem scanString_shorter {text after : List Char} {value : CodeUnits}
    (scanned : scanString text = some (value, after)) : after.length < text.length := by
  induction text using scanString.induct generalizing value after with
  | case1 => cases scanned
  | case2 rest =>
    simp only [scanString, Option.some.injEq, Prod.mk.injEq] at scanned
    simp [scanned.2]
  | case3 first second third fourth rest ih =>
    simp only [scanString, Option.bind_eq_some_iff, Option.map_eq_some_iff, Prod.exists,
      Prod.mk.injEq] at scanned
    obtain ⟨_, _, inner, behind, isInner, _, rfl⟩ := scanned
    have shorter := ih isInner
    simp only [List.length_cons]
    omega
  | case4 character rest notUnit ih =>
    rw [scanString] at scanned
    · simp only [Option.bind_eq_some_iff, Option.map_eq_some_iff, Prod.exists,
        Prod.mk.injEq] at scanned
      obtain ⟨_, _, inner, behind, isInner, _, rfl⟩ := scanned
      have shorter := ih isInner
      simp only [List.length_cons]
      omega
    · exact notUnit
  | case5 character rest notQuote notUnit notEscape control =>
    rw [scanString, if_pos control] at scanned
    · cases scanned
    · exact notQuote
    · exact notUnit
    · exact notEscape
  | case6 character rest notQuote notUnit notEscape printable ih =>
    rw [scanString, if_neg printable] at scanned
    · simp only [Option.map_eq_some_iff, Prod.exists, Prod.mk.injEq] at scanned
      obtain ⟨inner, behind, isInner, _, rfl⟩ := scanned
      have shorter := ih isInner
      simp only [List.length_cons]
      omega
    · exact notQuote
    · exact notUnit
    · exact notEscape

theorem scanNumeral_append {state : NumeralState} {text numeral after : List Char}
    (scanned : scanNumeral state text = some (numeral, after)) :
    numeral ++ after = text ∧ (numeral = [] → state.accepts = true) := by
  induction text generalizing state numeral with
  | nil =>
    rw [scanNumeral] at scanned
    split at scanned
    · rename_i accepts
      cases scanned
      exact ⟨rfl, fun _ => accepts⟩
    · cases scanned
  | cons character rest ih =>
    rw [scanNumeral] at scanned
    split at scanned
    · rename_i next _
      simp only [Option.map_eq_some_iff, Prod.exists, Prod.mk.injEq] at scanned
      obtain ⟨others, behind, isRest, rfl, rfl⟩ := scanned
      exact ⟨congrArg (character :: ·) (ih isRest).1, by simp⟩
    · split at scanned
      · rename_i accepts
        cases scanned
        exact ⟨rfl, fun _ => accepts⟩
      · cases scanned

theorem scan_shorter {numbers : Numbers Number} {text after : List Char} {token : Token Number}
    (scanned : scan numbers text = some (token, after)) : after.length < text.length := by
  rw [scan.eq_def] at scanned
  split at scanned
  case h_7 =>
    simp only [Option.map_eq_some_iff, Prod.exists, Prod.mk.injEq] at scanned
    obtain ⟨value, behind, isString, _, rfl⟩ := scanned
    have shorter := scanString_shorter isString
    simp only [List.length_cons]
    omega
  case h_11 =>
    simp only [Option.map_eq_some_iff, Prod.exists, Prod.mk.injEq] at scanned
    obtain ⟨numeral, behind, isNumber, _, rfl⟩ := scanned
    obtain ⟨split, accepted⟩ := scanNumeral_append isNumber
    have nonempty : numeral ≠ [] := fun isNil => by cases accepted isNil
    have positive := List.length_pos_iff.mpr nonempty
    rw [← split, List.length_append]
    omega
  all_goals
    cases scanned
    simp only [List.length_cons]
    omega

def parseFrom (numbers : Numbers Number) (state : State Number) :
    List Char → Option (Value Number)
  | [] => finished state
  | character :: rest =>
    if isSpace character then parseFrom numbers state rest
    else match _scanned : scan numbers (character :: rest) with
      | none => none
      | some (token, after) => match step state token with
        | none => none
        | some next => parseFrom numbers next after
termination_by text => text.length
decreasing_by
  · simp
  · exact scan_shorter _scanned

/-- `JSON.parse`; `none` where it throws. -/
def parse (numbers : Numbers Number) (text : List Char) : Option (Value Number) :=
  parseFrom numbers ([], .value) text

def numberText (numbers : Numbers Number) (number : Number) : List Char :=
  match numbers.value number with
  | .finite _ => numbers.write number
  | _ => "null".toList

mutual

/-- `JSON.stringify`, for keys that differ. -/
def stringify (numbers : Numbers Number) : Value Number → List Char
  | .null => "null".toList
  | .bool value => if value then "true".toList else "false".toList
  | .num value => numberText numbers value
  | .str value => '"' :: quoted value
  | .arr items => '[' :: stringifyItems numbers items
  | .obj members => '{' :: stringifyMembers numbers members

def stringifyItems (numbers : Numbers Number) : List (Value Number) → List Char
  | [] => [']']
  | [item] => stringify numbers item ++ [']']
  | item :: next :: rest => stringify numbers item ++ ',' :: stringifyItems numbers (next :: rest)

def stringifyMembers (numbers : Numbers Number) : List (CodeUnits × Value Number) → List Char
  | [] => ['}']
  | [(key, value)] => '"' :: quoted key ++ ':' :: stringify numbers value ++ ['}']
  | (key, value) :: next :: rest =>
    '"' :: quoted key ++ ':' :: stringify numbers value ++
      ',' :: stringifyMembers numbers (next :: rest)

end

namespace Numbers

def Lawful (numbers : Numbers Number) : Prop :=
  ∀ number rational, numbers.value number = .finite rational →
    IsNumeral (numbers.write number) ∧ numbers.read (numbers.write number) = number

end Numbers

theorem hexUnit_hexDigits (codeUnit : UInt16) :
    hexUnit (hexDigits codeUnit.toNat) = some codeUnit := by
  have bound := codeUnit.toNat_lt
  have isDigit : ∀ digit < 16, Url.digitValue (Nat.digitChar digit) = digit := by decide
  have first := isDigit (codeUnit.toNat / 0x1000) (by omega)
  have second := isDigit (codeUnit.toNat / 0x100 % 0x10) (by omega)
  have third := isDigit (codeUnit.toNat / 0x10 % 0x10) (by omega)
  have fourth := isDigit (codeUnit.toNat % 0x10) (by omega)
  have number : 16 * (16 * (16 * (codeUnit.toNat / 0x1000) + codeUnit.toNat / 0x100 % 0x10) +
      codeUnit.toNat / 0x10 % 0x10) + codeUnit.toNat % 0x10 = codeUnit.toNat := by omega
  have valid : (hexDigits codeUnit.toNat).all
      (fun digit => decide (Url.digitValue digit < 16)) = true := by
    simp only [hexDigits, List.all_cons, List.all_nil, first, second, third, fourth,
      Bool.and_true, Bool.and_eq_true, decide_eq_true_eq]
    omega
  rw [hexUnit, Url.numberIn, if_pos valid]
  simp only [hexDigits, List.foldl_cons, List.foldl_nil, first, second, third, fourth, Nat.mul_zero,
    Nat.zero_add, number, Option.map_some, UInt16.ofNat_toNat]

theorem scanString_quoteUnit (codeUnit : UInt16) (text : List Char) :
    scanString (quoteUnit codeUnit ++ text) =
      (scanString text).map fun (value, after) => (codeUnit :: value, after) := by
  rw [quoteUnit]
  split
  · rename_i character isShort
    have table : ∀ entry ∈ SHORT_ESCAPES, entry.2 ≠ 'u' ∧ escaped entry.2 = some entry.1 := by
      decide
    have isListed : (codeUnit, character) ∈ SHORT_ESCAPES := by
      obtain ⟨before, behind, split, _⟩ := List.lookup_eq_some_iff.mp isShort
      simp [split]
    obtain ⟨notUnit, isEscaped⟩ := table _ isListed
    simp only [List.cons_append, List.nil_append]
    rw [scanString, isEscaped, Option.bind_some]
    rintro _ _ _ _ _ rfl _
    exact notUnit rfl
  · rename_i notShort
    have notQuote : codeUnit ≠ 0x22 := by
      rintro rfl
      cases notShort
    have notBackslash : codeUnit ≠ 0x5C := by
      rintro rfl
      cases notShort
    split
    · simp only [hexDigits, List.cons_append, List.nil_append]
      rw [scanString]
      have isUnit := hexUnit_hexDigits codeUnit
      rw [hexDigits] at isUnit
      rw [isUnit, Option.bind_some]
    · rename_i plain
      simp only [not_or, Bool.not_eq_true] at plain
      obtain ⟨printable, notHigh, notLow⟩ := plain
      have number := CodeUnits.toNat_ofNat_toNat notHigh notLow
      have same : ∀ other : UInt16, codeUnit ≠ other → (Char.ofNat codeUnit.toNat).toNat ≠
          other.toNat := by
        intro other differ isOther
        exact differ (UInt16.toNat.inj (number.symm.trans isOther))
      simp only [List.cons_append, List.nil_append]
      rw [scanString, if_neg (by rwa [number]), CodeUnits.ofChar_ofNat notHigh notLow]
      · rfl
      · intro isQuote
        exact same 0x22 notQuote (by rw [isQuote]; rfl)
      · intro _ _ _ _ _ isBackslash _
        exact same 0x5C notBackslash (by rw [isBackslash]; rfl)
      · intro _ _ isBackslash _
        exact same 0x5C notBackslash (by rw [isBackslash]; rfl)

theorem scanString_quoted (value : CodeUnits) (rest : List Char) :
    scanString (quoted value ++ rest) = some (value, rest) := by
  fun_induction quoted value with
  | case1 => rfl
  | case2 codeUnit => simp [scanString_quoteUnit, scanString]
  | case3 high low others isPair ih =>
    have number := CodeUnits.toNat_pairChar isPair.1 isPair.2
    have notAscii : ∀ other : Char, other.toNat < 0x80 → CodeUnits.pairChar high low ≠ other := by
      rintro other ascii rfl
      omega
    rw [List.cons_append, scanString, if_neg (by omega), ih,
      CodeUnits.ofChar_pairChar isPair.1 isPair.2]
    · rfl
    · exact notAscii '"' (by decide)
    · intro _ _ _ _ _ isBackslash _
      exact notAscii '\\' (by decide) isBackslash
    · intro _ _ isBackslash _
      exact notAscii '\\' (by decide) isBackslash
  | case4 high low others notPair ih =>
    rw [List.append_assoc, scanString_quoteUnit, ih]
    rfl

theorem parseFrom_scan {numbers : Numbers Number} {state : State Number} {text after : List Char}
    {token : Token Number} (scanned : scan numbers text = some (token, after)) :
    parseFrom numbers state text = (step state token).bind (parseFrom numbers · after) := by
  cases text with
  | nil => cases scanned
  | cons character rest =>
    by_cases space : isSpace character = true
    · simp only [isSpace, List.contains_eq_mem, List.mem_cons, List.not_mem_nil, or_false,
        decide_eq_true_eq] at space
      rcases space with rfl | rfl | rfl | rfl <;> cases scanned
    · rw [parseFrom, if_neg space]
      split
      · rename_i isNone
        rw [scanned] at isNone
        cases isNone
      · rename_i found behind isSome
        rw [scanned] at isSome
        cases isSome
        cases step state token <;> rfl

theorem parseFrom_token {numbers : Numbers Number} {state next : State Number}
    {text after : List Char} {token : Token Number}
    (scanned : scan numbers text = some (token, after)) (steps : step state token = some next) :
    parseFrom numbers state text = parseFrom numbers next after := by
  rw [parseFrom_scan scanned, steps, Option.bind_some]

def EndsValue : List Char → Prop
  | [] => True
  | character :: _ => character = ',' ∨ character = ']' ∨ character = '}'

theorem next_ends (state : NumeralState) {character : Char}
    (ends : character = ',' ∨ character = ']' ∨ character = '}') : state.next character = none := by
  rcases ends with rfl | rfl | rfl <;> cases state <;> rfl

theorem scanNumeral_ends {state : NumeralState} {numeral rest : List Char}
    (accepted : scanNumeral state numeral = some (numeral, [])) (ends : EndsValue rest) :
    scanNumeral state (numeral ++ rest) = some (numeral, rest) := by
  induction numeral generalizing state with
  | nil =>
    have accepts : state.accepts = true := (scanNumeral_append accepted).2 rfl
    cases rest with
    | nil => exact accepted
    | cons character behind =>
      rw [List.nil_append, scanNumeral, next_ends state ends]
      exact if_pos accepts
  | cons character others ih =>
    rw [scanNumeral] at accepted
    split at accepted
    · rename_i next isNext
      simp only [Option.map_eq_some_iff, Prod.exists, Prod.mk.injEq, List.cons.injEq,
        true_and] at accepted
      obtain ⟨inner, behind, isRest, rfl, rfl⟩ := accepted
      rw [List.cons_append, scanNumeral, isNext]
      simp only [ih isRest, Option.map_some]
    · split at accepted <;> cases accepted

theorem scan_numeral (numbers : Numbers Number) {numeral rest : List Char}
    (isNumeral : IsNumeral numeral) (ends : EndsValue rest) :
    scan numbers (numeral ++ rest) = some (.scalar (.num (numbers.read numeral)), rest) := by
  have scanned := scanNumeral_ends isNumeral ends
  rw [scan.eq_def]
  split
  case h_11 =>
    rw [scanned]
    rfl
  all_goals
    rename_i isText
    rw [isText] at scanned
    cases scanned

mutual

def clone (numbers : Numbers Number) : Value Number → Value Number
  | .num value => match numbers.value value with
    | .finite _ => .num value
    | _ => .null
  | .arr items => .arr (cloneItems numbers items)
  | .obj members => .obj (cloneMembers numbers members)
  | .null => .null
  | .bool value => .bool value
  | .str value => .str value

def cloneItems (numbers : Numbers Number) : List (Value Number) → List (Value Number)
  | [] => []
  | item :: rest => clone numbers item :: cloneItems numbers rest

def cloneMembers (numbers : Numbers Number) :
    List (CodeUnits × Value Number) → List (CodeUnits × Value Number)
  | [] => []
  | (key, value) :: rest => (key, clone numbers value) :: cloneMembers numbers rest

end

def Begins (state : State Number) (stack : List (Frame Number)) : Prop :=
  ∀ token, token ≠ .closeArray → step state token = begin stack token

theorem begins_value (stack : List (Frame Number)) : Begins (stack, .value) stack :=
  fun _ _ => rfl

theorem begins_firstItem (stack : List (Frame Number)) :
    Begins (stack, .firstItem) (.array [] :: stack) := by
  intro token notClose
  cases token with
  | closeArray => exact (notClose rfl).elim
  | _ => rfl

section Written

variable {numbers : Numbers Number} {state : State Number} {stack : List (Frame Number)}
  {rest : List Char}

theorem parseFrom_scalar (begins : Begins state stack) {text : List Char} {value : Value Number}
    (scanned : scan numbers text = some (.scalar value, rest)) :
    parseFrom numbers state text = parseFrom numbers (stack, .next value) rest :=
  parseFrom_token scanned (begins _ (by rintro ⟨⟩))

theorem scan_str (numbers : Numbers Number) (value : CodeUnits) (rest : List Char) :
    scan numbers ('"' :: quoted value ++ rest) = some (.str value, rest) := by
  rw [List.cons_append, scan, scanString_quoted]
  rfl

theorem parseFrom_key {members : List (CodeUnits × Value Number)} {key : CodeUnits}
    (isKey : step state (.str key) = some (stack, .colon members key)) (rest : List Char) :
    parseFrom numbers state ('"' :: quoted key ++ ':' :: rest) =
      parseFrom numbers (.object members key :: stack, .value) rest := by
  have colon : scan numbers (':' :: rest) = some (.colon, rest) := rfl
  rw [parseFrom_token (scan_str numbers key (':' :: rest)) isKey]
  exact parseFrom_token colon rfl

theorem parseFrom_number (lawful : numbers.Lawful) (begins : Begins state stack)
    (number : Number) (ends : EndsValue rest) :
    parseFrom numbers state (numberText numbers number ++ rest) =
      parseFrom numbers (stack, .next (clone numbers (.num number))) rest := by
  rw [numberText, clone]
  split
  · rename_i rational isFinite
    obtain ⟨isNumeral, comesBack⟩ := lawful number rational isFinite
    have scanned := scan_numeral numbers isNumeral ends
    rw [comesBack] at scanned
    exact parseFrom_scalar begins scanned
  · exact parseFrom_scalar begins rfl

mutual

theorem parseFrom_stringify (lawful : numbers.Lawful) (value : Value Number)
    {state : State Number} {stack : List (Frame Number)} (begins : Begins state stack)
    {rest : List Char} (ends : EndsValue rest) :
    parseFrom numbers state (stringify numbers value ++ rest) =
      parseFrom numbers (stack, .next (clone numbers value)) rest := by
  have opensArray : step state .openArray = some (stack, .firstItem) := begins _ (by rintro ⟨⟩)
  have opensObject : step state .openObject = some (stack, .firstKey) := begins _ (by rintro ⟨⟩)
  have openArray : ∀ text, scan numbers ('[' :: text) = some (.openArray, text) := fun _ => rfl
  have openObject : ∀ text, scan numbers ('{' :: text) = some (.openObject, text) := fun _ => rfl
  match value with
  | .null | .bool true | .bool false => exact parseFrom_scalar begins rfl
  | .num number => exact parseFrom_number lawful begins number ends
  | .str value => exact parseFrom_token (scan_str numbers value rest) (begins _ (by rintro ⟨⟩))
  | .arr [] =>
    have closeArray : scan numbers (']' :: rest) = some (.closeArray, rest) := rfl
    rw [stringify, stringifyItems]
    exact (parseFrom_token (openArray _) opensArray).trans (parseFrom_token closeArray rfl)
  | .arr (item :: others) =>
    rw [stringify]
    exact (parseFrom_token (openArray _) opensArray).trans
      (parseFrom_stringifyItems lawful (item :: others) (by simp) (begins_firstItem stack) rest)
  | .obj [] =>
    have closeObject : scan numbers ('}' :: rest) = some (.closeObject, rest) := rfl
    rw [stringify, stringifyMembers]
    exact (parseFrom_token (openObject _) opensObject).trans (parseFrom_token closeObject rfl)
  | .obj (member :: others) =>
    have isKey : ∀ key, step (stack, .firstKey) (.str key) =
        some ((stack, .colon [] key) : State Number) := fun _ => rfl
    rw [stringify]
    exact (parseFrom_token (openObject _) opensObject).trans
      (parseFrom_stringifyMembers lawful (member :: others) (by simp) isKey rest)

theorem parseFrom_stringifyItems (lawful : numbers.Lawful) (items : List (Value Number))
    (nonempty : items ≠ []) {state : State Number} {stack : List (Frame Number)}
    {read : List (Value Number)} (begins : Begins state (.array read :: stack)) (rest : List Char) :
    parseFrom numbers state (stringifyItems numbers items ++ rest) =
      parseFrom numbers (stack, .next (.arr (read ++ cloneItems numbers items))) rest := by
  match items with
  | [] => exact (nonempty rfl).elim
  | [item] =>
    have closeArray : scan numbers (']' :: rest) = some (.closeArray, rest) := rfl
    have ends : EndsValue (']' :: rest) := Or.inr (Or.inl rfl)
    rw [stringifyItems, List.append_assoc, List.singleton_append,
      parseFrom_stringify lawful item begins ends]
    exact parseFrom_token closeArray rfl
  | item :: next :: others =>
    have comma : ∀ text, scan numbers (',' :: text) = some (.comma, text) := fun _ => rfl
    have ends : ∀ text, EndsValue (',' :: text) := fun _ => Or.inl rfl
    rw [stringifyItems, List.append_assoc, List.cons_append,
      parseFrom_stringify lawful item begins (ends _), parseFrom_token (comma _) rfl,
      parseFrom_stringifyItems lawful (next :: others) (by simp) (begins_value _) rest]
    simp only [cloneItems, List.append_assoc, List.singleton_append]

theorem parseFrom_stringifyMembers (lawful : numbers.Lawful)
    (members : List (CodeUnits × Value Number)) (nonempty : members ≠ [])
    {state : State Number} {stack : List (Frame Number)}
    {read : List (CodeUnits × Value Number)}
    (isKey : ∀ key, step state (.str key) = some (stack, .colon read key)) (rest : List Char) :
    parseFrom numbers state (stringifyMembers numbers members ++ rest) =
      parseFrom numbers (stack, .next (.obj (read ++ cloneMembers numbers members))) rest := by
  match members with
  | [] => exact (nonempty rfl).elim
  | [(key, value)] =>
    have closeObject : scan numbers ('}' :: rest) = some (.closeObject, rest) := rfl
    have ends : EndsValue ('}' :: rest) := Or.inr (Or.inr rfl)
    rw [stringifyMembers]
    simp only [List.append_assoc, List.cons_append, List.nil_append]
    rw [← List.cons_append, parseFrom_key (isKey key),
      parseFrom_stringify lawful value (begins_value _) ends]
    exact parseFrom_token closeObject rfl
  | (key, value) :: next :: others =>
    have comma : ∀ text, scan numbers (',' :: text) = some (.comma, text) := fun _ => rfl
    have ends : ∀ text, EndsValue (',' :: text) := fun _ => Or.inl rfl
    have isNextKey : ∀ nextKey,
        step (stack, .key (read ++ [(key, clone numbers value)])) (.str nextKey) =
          some (stack, .colon (read ++ [(key, clone numbers value)]) nextKey) := fun _ => rfl
    rw [stringifyMembers]
    simp only [List.append_assoc, List.cons_append]
    rw [← List.cons_append, parseFrom_key (isKey key),
      parseFrom_stringify lawful value (begins_value _) (ends _), parseFrom_token (comma _) rfl,
      parseFrom_stringifyMembers lawful (next :: others) (by simp) isNextKey rest]
    simp only [cloneMembers, List.append_assoc, List.singleton_append]

end

theorem parse_stringify (lawful : numbers.Lawful) (value : Value Number) :
    parse numbers (stringify numbers value) = some (clone numbers value) := by
  have ends : EndsValue [] := trivial
  have written := parseFrom_stringify lawful value (begins_value []) ends
  rw [List.append_nil] at written
  rw [parse, written, parseFrom]
  rfl

theorem stringify_nonempty (lawful : numbers.Lawful) (value : Value Number) :
    stringify numbers value ≠ [] := by
  intro empty
  have read := parse_stringify lawful value
  rw [empty, parse, parseFrom] at read
  cases read

end Written

theorem scanNumeral_digits {digits : List Char} (isDigit : ∀ digit ∈ digits, digit.isDigit = true) :
    scanNumeral .int digits = some (digits, []) := by
  induction digits with
  | nil => rfl
  | cons digit rest ih =>
    have first := isDigit digit List.mem_cons_self
    have others := ih fun other member => isDigit other (List.mem_cons_of_mem _ member)
    simp [scanNumeral, NumeralState.next, NumeralState.digit, first, others]

theorem isNumeral_toDigits (number : Nat) : IsNumeral (Nat.toDigits 10 number) := by
  by_cases positive : 0 < number
  · obtain ⟨first, rest, split, leading⟩ := Text.toDigits_leading positive
    have isDigit : ∀ digit ∈ first :: rest, digit.isDigit = true := fun digit member =>
      Nat.isDigit_of_mem_toDigits (by decide) (by decide) (split ▸ member)
    have firstDigit := isDigit first List.mem_cons_self
    have notMinus : first ≠ '-' := by
      rintro rfl
      cases firstDigit
    have others := scanNumeral_digits fun digit member =>
      isDigit digit (List.mem_cons_of_mem _ member)
    rw [IsNumeral, split]
    simp [scanNumeral, NumeralState.next, NumeralState.firstDigit, notMinus, leading, firstDigit,
      others]
  · have isZero : number = 0 := by omega
    rw [isZero]
    rfl

def wholeNumbers : Numbers Nat where
  value number := .finite number
  read numeral := Nat.ofDigitChars 10 numeral 0
  write := Nat.toDigits 10

theorem wholeNumbers_lawful : wholeNumbers.Lawful := by
  intro number rational _
  exact ⟨isNumeral_toDigits number, Nat.ofDigitChars_ten_toDigits⟩

end JsonText
