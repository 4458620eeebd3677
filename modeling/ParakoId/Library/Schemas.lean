import ParakoId.Library.Json
import ParakoId.Library.Text

/-! Object schemas: for each field a check of its value, and what its absence means. -/

namespace Schemas

/-- The properties of an object that are not `undefined`. -/
abbrev Fields := String → Option Json

structure Check where
  parse : Json → Option Json
  settles : ∀ {value parsed}, parse value = some parsed → parse parsed = some parsed

inductive Presence (check : Check)
  | required
  | optional
  | default (value : Json) (passes : check.parse value = some value)

structure Field where
  name : String
  check : Check
  presence : Presence check

def Field.parse (field : Field) (fields : Fields) : Option (Option Json) :=
  match fields field.name with
  | some value => (field.check.parse value).map some
  | none =>
    match field.presence with
    | .required => none
    | .optional => some none
    | .default value _ => some (some value)

abbrev Shape := List Field

def Shape.find (shape : Shape) (name : String) : Option Field :=
  List.find? (fun field => field.name == name) shape

/-- The fields of the shape, or the names of those that fail. Other properties go. -/
def Shape.parse (shape : Shape) (fields : Fields) : Except (List String) Fields :=
  match shape.filter fun field => (field.parse fields).isNone with
  | [] => .ok fun name => (shape.find name).bind fun field => (field.parse fields).join
  | failing => .error (failing.map Field.name)

theorem Field.parse_settles {field : Field} {fields : Fields} {value : Option Json}
    (parsed : field.parse fields = some value) {other : Fields}
    (same : other field.name = value) : field.parse other = some value := by
  rw [Field.parse] at parsed ⊢
  cases given : fields field.name with
  | some original =>
    rw [given] at parsed
    obtain ⟨checked, isChecked, rfl⟩ := Option.map_eq_some_iff.mp parsed
    rw [same]
    simp only [field.check.settles isChecked, Option.map_some]
  | none =>
    rw [given] at parsed
    cases presence : field.presence with
    | required =>
      rw [presence] at parsed
      cases parsed
    | optional =>
      rw [presence] at parsed
      injection parsed with isNone
      rw [same, ← isNone]
    | default fallback passes =>
      rw [presence] at parsed
      injection parsed with isDefault
      rw [same, ← isDefault]
      simp only [passes, Option.map_some]

theorem Shape.parse_ok_iff {shape : Shape} {fields parsed : Fields} :
    shape.parse fields = .ok parsed ↔
      (∀ field ∈ shape, (field.parse fields).isSome = true) ∧
        parsed = fun name => (shape.find name).bind fun field => (field.parse fields).join := by
  rw [Shape.parse]
  cases failing : shape.filter fun field => (field.parse fields).isNone with
  | nil =>
    rw [List.filter_eq_nil_iff] at failing
    constructor
    · rintro ⟨⟩
      refine ⟨fun field member => ?_, rfl⟩
      rw [Option.isSome_iff_ne_none]
      intro isNone
      exact failing field member (by simp [isNone])
    · rintro ⟨_, rfl⟩
      rfl
  | cons field rest =>
    have member : field ∈ shape.filter fun field => (field.parse fields).isNone := by
      rw [failing]
      exact List.mem_cons_self
    obtain ⟨inShape, isNone⟩ := List.mem_filter.mp member
    constructor
    · rintro ⟨⟩
    · rintro ⟨all, _⟩
      have isSome := all field inShape
      rw [Option.isNone_iff_eq_none.mp isNone] at isSome
      cases isSome

theorem Shape.find_some {shape : Shape} {name : String} {field : Field}
    (found : shape.find name = some field) : field ∈ shape ∧ field.name = name :=
  ⟨List.mem_of_find?_eq_some found, by simpa using List.find?_some found⟩

theorem Shape.find_of_mem {shape : Shape} (distinct : (shape.map Field.name).Nodup) {field : Field}
    (member : field ∈ shape) : shape.find field.name = some field := by
  induction shape with
  | nil => cases member
  | cons first rest ih =>
    rw [List.map_cons, List.nodup_cons] at distinct
    rw [Shape.find, List.find?_cons]
    rcases List.mem_cons.mp member with rfl | inRest
    · rw [beq_self_eq_true]
    · have different : (first.name == field.name) = false := by
        rw [beq_eq_false_iff_ne]
        intro same
        exact distinct.1 (same ▸ List.mem_map_of_mem inRest)
      rw [different]
      exact ih distinct.2 inRest

theorem Shape.parse_settles {shape : Shape} (distinct : (shape.map Field.name).Nodup)
    {fields parsed other : Fields} (isParsed : shape.parse fields = .ok parsed)
    (same : ∀ field ∈ shape, other field.name = parsed field.name ∨
      ∃ value, other field.name = some value ∧ field.check.parse value = some value)
    (nothingElse : ∀ name, shape.find name = none → other name = none) :
    shape.parse other = .ok other := by
  obtain ⟨all, rfl⟩ := Shape.parse_ok_iff.mp isParsed
  have settled : ∀ field ∈ shape, field.parse other = some (other field.name) := by
    intro field member
    rcases same field member with kept | ⟨value, isValue, passes⟩
    · obtain ⟨value, isValue⟩ := Option.isSome_iff_exists.mp (all field member)
      simp only [Shape.find_of_mem distinct member, Option.bind_some, isValue] at kept
      rw [kept]
      exact Field.parse_settles isValue kept
    · rw [Field.parse, isValue]
      simp only [passes, Option.map_some]
  refine Shape.parse_ok_iff.mpr ⟨fun field member => by rw [settled field member]; rfl, ?_⟩
  funext name
  cases found : shape.find name with
  | none => exact nothingElse name found
  | some field =>
    obtain ⟨member, rfl⟩ := Shape.find_some found
    rw [Option.bind_some, settled field member]
    rfl

def trim (text : String) : String :=
  String.ofList ((text.toList.dropWhile Text.isWhiteSpace).rdropWhile Text.isWhiteSpace)

theorem trim_trim (text : String) : trim (trim text) = trim text := by
  simp only [trim, String.toList_ofList, Text.trimmed_trimmed]

theorem trim_join {first second : String} (middle : String) (firstTrimmed : trim first = first)
    (firstNonempty : first ≠ "") (secondTrimmed : trim second = second)
    (secondNonempty : second ≠ "") :
    trim (first ++ middle ++ second) = first ++ middle ++ second := by
  have trimmed {text : String} (isTrimmed : trim text = text) :
      (text.toList.dropWhile Text.isWhiteSpace).rdropWhile Text.isWhiteSpace = text.toList := by
    have same := congrArg String.toList isTrimmed
    rwa [trim, String.toList_ofList] at same
  have nonempty {text : String} (notEmpty : text ≠ "") : text.toList ≠ [] := by
    simpa using notEmpty
  rw [trim, String.toList_append, String.toList_append,
    Text.trimmed_join middle.toList (trimmed firstTrimmed) (nonempty firstNonempty)
      (trimmed secondTrimmed) (nonempty secondNonempty)]
  simp [String.append_assoc]

namespace Check

def only (test : Json → Bool) : Check where
  parse value := if test value then some value else none
  settles := by
    intro value parsed isParsed
    split at isParsed
    next passes =>
      injection isParsed with same
      rw [← same, if_pos passes]
    next => cases isParsed

def text (test : String → Bool) : Check :=
  only fun value => match value with
    | .str text => test text
    | _ => false

def oneOf (values : List String) : Check := text values.contains

def flag : Check :=
  only fun value => match value with
    | .bool _ => true
    | _ => false

def number (test : ℚ → Bool) : Check :=
  only fun value => match value with
    | .num (.finite value) => test value
    | _ => false

def reading (read : String → Option String)
    (again : ∀ {given found}, read given = some found → read found = some found) : Check where
  parse value := match value with
    | .str given => (read given).map .str
    | _ => none
  settles := by
    intro value parsed isParsed
    cases value with
    | str given =>
      obtain ⟨found, isFound, rfl⟩ := Option.map_eq_some_iff.mp isParsed
      simp only [again isFound, Option.map_some]
    | _ => cases isParsed

def trimmed (test : String → Bool) : Check :=
  reading (fun given => if test (trim given) then some (trim given) else none) (by
    intro given found isFound
    split at isFound
    next passes =>
      injection isFound with same
      rw [← same, trim_trim, if_pos passes]
    next => cases isFound)

theorem trimmed_some {test : String → Bool} {value parsed : Json}
    (isParsed : (trimmed test).parse value = some parsed) :
    ∃ given, value = .str given ∧ parsed = .str (trim given) ∧ test (trim given) = true := by
  cases value with
  | str given =>
    obtain ⟨found, isFound, rfl⟩ := Option.map_eq_some_iff.mp isParsed
    dsimp only at isFound
    split at isFound
    next passes =>
      injection isFound with same
      exact ⟨given, rfl, by rw [same], passes⟩
    next => cases isFound
  | _ => cases isParsed

def items : Json → Option (List Json)
  | .arr length item => some ((List.range length).map item)
  | _ => none

theorem items_array (values : List Json) : items (Json.array values) = some values := by
  rw [Json.array, items, Option.some.injEq]
  apply List.ext_getElem
  · simp
  · intro index inRange _
    have bound : index < values.length := by simpa using inRange
    simp [bound]

theorem mapM_settled {check : Check} {values parsed : List Json}
    (isParsed : values.mapM check.parse = some parsed) : parsed.mapM check.parse = some parsed := by
  induction values generalizing parsed with
  | nil =>
    cases isParsed
    rfl
  | cons first rest ih =>
    rw [List.mapM_cons] at isParsed
    obtain ⟨head, isHead, isParsed⟩ := Option.bind_eq_some_iff.mp isParsed
    obtain ⟨tail, isTail, isParsed⟩ := Option.bind_eq_some_iff.mp isParsed
    cases isParsed
    rw [List.mapM_cons, check.settles isHead, ih isTail]
    rfl

def arrayOf (check : Check) : Check where
  parse value := ((items value).bind fun values => values.mapM check.parse).map Json.array
  settles := by
    intro value parsed isParsed
    obtain ⟨values, isValues, rfl⟩ := Option.map_eq_some_iff.mp isParsed
    obtain ⟨given, _, isGiven⟩ := Option.bind_eq_some_iff.mp isValues
    rw [items_array, Option.bind_some, mapM_settled isGiven]
    rfl

end Check

end Schemas
