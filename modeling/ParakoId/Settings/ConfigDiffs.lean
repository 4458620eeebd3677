import Mathlib.Data.List.Infix
import ParakoId.Settings.Masking

/-! The changes between two configurations, as the settings service lists them. -/

namespace ParakoId.Settings

open Json (Path)

def SKIPPED_KEYS : List String := [
  "_id",
  "__v",
  "created_at",
  "updated_at",
  "_version",
  "schema_version",
  "is_active",
  "key",
  "description",
  "metadata"]

inductive ChangeType
  | added
  | removed
  | modified

/-- What reading a key of a plain object gives. -/
inductive Property
  | undefined
  | json (value : Json)
  | function
  | objectPrototype

namespace Property

def isObject : Property → Bool
  | .json value => value.isObject
  | .objectPrototype => true
  | _ => false

/-- `JSON.stringify`, as the value that the text stands for. -/
def stringified : Property → Option Json
  | .json value => some value.clone
  | .objectPrototype => some (.object [])
  | _ => none

def ofLookup : Json.Lookup → Property
  | .found value => .json value
  | _ => .undefined

end Property

/-- The own keys of `Object.prototype`; all but `__proto__` name a function. -/
def OBJECT_PROTOTYPE_KEYS : List String := [
  "constructor",
  "__defineGetter__",
  "__defineSetter__",
  "hasOwnProperty",
  "__lookupGetter__",
  "__lookupSetter__",
  "isPrototypeOf",
  "propertyIsEnumerable",
  "toString",
  "valueOf",
  "__proto__",
  "toLocaleString"]

def readProperty (keys : List String) (value : String → Json) (key : String) : Property :=
  if key ∈ keys then .json (value key)
  else if key = "__proto__" then .objectPrototype
  else if key ∈ OBJECT_PROTOTYPE_KEYS then .function
  else .undefined

/-- A key of `Object.prototype`, which has no prototype itself. -/
def readObjectPrototype (key : String) : Property :=
  if key = "__proto__" then .json .null
  else if key ∈ OBJECT_PROTOTYPE_KEYS then .function
  else .undefined

/-- The source has `fieldText field` in place of `field`. -/
structure ConfigDiff where
  field : Path
  oldValue : Property
  newValue : Property
  changeType : ChangeType

/-- The keys joined with dots, where an empty prefix counts as none. -/
def fieldText (fieldPath : Path) : String :=
  fieldPath.foldl
    (fun pathPrefix key => if pathPrefix = "" then key else pathPrefix ++ "." ++ key) ""

def isSensitiveField (fieldPath : Path) : Bool :=
  (SENSITIVE_FIELDS.map fieldText).contains (fieldText fieldPath)

def maskText : Json → Json
  | .str text => .str (maskSensitiveValue text)
  | value => value

def maskIfSensitive (path : Path) (value : Property) : Property :=
  if isSensitiveField path then
    match value with
    | .json (.arr length item) => .json (.arr length fun index => maskText (item index))
    | .json value => .json (maskText value)
    | value => value
  else value

/-- `JSON.stringify` gives the same text for both. -/
def sameText : Json → Json → Bool
  | .null, .null => true
  | .bool first, .bool second => first == second
  | .num first, .num second => first == second
  | .str first, .str second => first == second
  | .arr length item, .arr otherLength otherItem =>
    length == otherLength && (List.range length).all fun index =>
      sameText (item index) (otherItem index)
  | .obj keys value, .obj otherKeys otherValue =>
    keys.eraseDups == otherKeys.eraseDups && keys.all fun key =>
      sameText (value key) (otherValue key)
  | _, _ => false

def sameStringified (oldValue newValue : Property) : Bool :=
  match oldValue.stringified, newValue.stringified with
  | some first, some second => sameText first second
  | none, none => true
  | _, _ => false

/-- What the loop pushes for a key; `nested` is the diff of two values that are objects. -/
def diffKey (pathPrefix : Path) (key : String) (oldValue newValue : Property)
    (nested : List ConfigDiff) : List ConfigDiff :=
  let fieldPath := pathPrefix ++ [key]
  if key ∈ SKIPPED_KEYS then []
  else match oldValue, newValue with
    | .undefined, .undefined => []
    | .undefined, newValue => [⟨fieldPath, .json .null, maskIfSensitive fieldPath newValue, .added⟩]
    | oldValue, .undefined =>
      [⟨fieldPath, maskIfSensitive fieldPath oldValue, .json .null, .removed⟩]
    | oldValue, newValue =>
      if oldValue.isObject ∧ newValue.isObject then nested
      else if sameStringified oldValue newValue then []
      else
        [⟨fieldPath, maskIfSensitive fieldPath oldValue, maskIfSensitive fieldPath newValue,
          .modified⟩]

/-- `generateConfigDiff` from `Object.prototype`, which lists no keys and holds no objects. -/
def diffFromPrototype (newConfig : Json) (pathPrefix : Path) : List ConfigDiff :=
  match newConfig with
  | .obj keys value => keys.eraseDups.flatMap fun key =>
    diffKey pathPrefix key (readObjectPrototype key) (.json (value key)) []
  | _ => []

def diffToPrototype (oldConfig : Json) (pathPrefix : Path) : List ConfigDiff :=
  match oldConfig with
  | .obj keys value => keys.eraseDups.flatMap fun key =>
    diffKey pathPrefix key (.json (value key)) (readObjectPrototype key) []
  | _ => []

def generateConfigDiff : Json → Json → Path → List ConfigDiff
  | .obj oldKeys oldValue, .obj newKeys newValue, pathPrefix =>
    (oldKeys ++ newKeys).eraseDups.flatMap fun key =>
      diffKey pathPrefix key (readProperty oldKeys oldValue key) (readProperty newKeys newValue key)
        (if key ∉ oldKeys then diffFromPrototype (newValue key) (pathPrefix ++ [key])
        else if key ∉ newKeys then diffToPrototype (oldValue key) (pathPrefix ++ [key])
        else generateConfigDiff (oldValue key) (newValue key) (pathPrefix ++ [key]))
  | _, _, _ => []

def SameAt : Json.Lookup → Json.Lookup → Prop
  | .found first, .found second =>
    (first.isObject = true ∧ second.isObject = true) ∨ sameText first.clone second.clone = true
  | .found _, _ => False
  | _, .found _ => False
  | _, _ => True

def Agree (oldConfig newConfig : Json) : Prop :=
  ∀ path, path ≠ [] → (∀ key ∈ path, key ∉ SKIPPED_KEYS) →
    SameAt (oldConfig.lookup path) (newConfig.lookup path)

/-- A key `__proto__` of its own has an object in both configurations or in neither. -/
def ProtoKeysStay (oldConfig newConfig : Json) : Prop :=
  ∀ path : Path, (∃ value, oldConfig.lookup (path ++ ["__proto__"]) = .found value) ↔
    ∃ value, newConfig.lookup (path ++ ["__proto__"]) = .found value

section Levels

variable {pathPrefix : Path} {key : String} {nested : List ConfigDiff}

theorem diffKey_own_nil {first second : Json} (tracked : key ∉ SKIPPED_KEYS) :
    diffKey pathPrefix key (.json first) (.json second) nested = [] ↔
      if first.isObject ∧ second.isObject then nested = []
      else sameText first.clone second.clone = true := by
  have isObjects : (Property.json first).isObject = true ∧ (Property.json second).isObject = true ↔
      first.isObject = true ∧ second.isObject = true := Iff.rfl
  have isSame : sameStringified (.json first) (.json second) =
      sameText first.clone second.clone := rfl
  simp only [diffKey, tracked, if_false]
  by_cases both : first.isObject = true ∧ second.isObject = true
  · rw [if_pos (isObjects.mpr both), if_pos both]
  · rw [if_neg (mt isObjects.mp both), if_neg both]
    by_cases same : sameText first.clone second.clone = true
    · simp [isSame, same]
    · simp [isSame, same]

theorem readProperty_missing {keys : List String} (value : String → Json) (missing : key ∉ keys)
    (plain : key ≠ "__proto__") :
    readProperty keys value key = .function ∨ readProperty keys value key = .undefined := by
  simp only [readProperty, missing, plain, if_false]
  split
  · exact .inl rfl
  · exact .inr rfl

theorem diffKey_missing_ne_nil {property : Property} (tracked : key ∉ SKIPPED_KEYS)
    (missing : property = .function ∨ property = .undefined) (value : Json) :
    diffKey pathPrefix key property (.json value) nested ≠ [] ∧
      diffKey pathPrefix key (.json value) property nested ≠ [] := by
  rcases missing with rfl | rfl
  · simp [diffKey, tracked, Property.isObject, sameStringified, Property.stringified]
  · simp [diffKey, tracked]

variable {oldKeys newKeys : List String} {oldValue newValue : String → Json}

theorem generateConfigDiff_nil_cons :
    generateConfigDiff (.obj oldKeys oldValue) (.obj newKeys newValue) pathPrefix = [] ↔
      ∀ key, key ∈ oldKeys ∨ key ∈ newKeys →
        diffKey pathPrefix key (readProperty oldKeys oldValue key)
          (readProperty newKeys newValue key)
          (if key ∉ oldKeys then diffFromPrototype (newValue key) (pathPrefix ++ [key])
          else if key ∉ newKeys then diffToPrototype (oldValue key) (pathPrefix ++ [key])
          else generateConfigDiff (oldValue key) (newValue key) (pathPrefix ++ [key])) = [] := by
  simp only [generateConfigDiff, List.flatMap_eq_nil_iff, List.mem_eraseDups, List.mem_append]

end Levels

theorem isObject_clone (json : Json) : json.clone.isObject = json.isObject := by
  cases json with
  | num value => cases value <;> rfl
  | _ => rfl

theorem sameText_objects {first second : Json} (same : sameText first second = true) :
    first.isObject = second.isObject := by
  cases first <;> cases second <;> simp_all [sameText, Json.isObject]

theorem sameAt_below_iff {first second : Json}
    (notBoth : ¬(first.isObject = true ∧ second.isObject = true)) :
    (∀ path : Path, (∀ key ∈ path, key ∉ SKIPPED_KEYS) →
        SameAt (first.lookup path) (second.lookup path)) ↔
      sameText first.clone second.clone = true := by
  constructor
  · intro agree
    have same := agree [] (by simp)
    simp only [Json.lookup_nil, SameAt, notBoth, false_or] at same
    exact same
  · intro same path _
    have sameKind : first.isObject = second.isObject := by
      rw [← isObject_clone, sameText_objects same, isObject_clone]
    cases path with
    | nil =>
      simp only [Json.lookup_nil, SameAt]
      exact .inr same
    | cons key rest =>
      have firstScalar : first.isObject = false := by
        rw [← sameKind] at notBoth
        simpa using notBoth
      rw [Json.lookup_blocked firstScalar (by simp),
        Json.lookup_blocked (by rwa [← sameKind]) (by simp)]
      trivial

theorem agree_obj_iff {oldKeys newKeys : List String} {oldValue newValue : String → Json} :
    Agree (.obj oldKeys oldValue) (.obj newKeys newValue) ↔
      ∀ key, key ∉ SKIPPED_KEYS → ∀ rest : Path, (∀ other ∈ rest, other ∉ SKIPPED_KEYS) →
        SameAt (if key ∈ oldKeys then (oldValue key).lookup rest else .absent)
          (if key ∈ newKeys then (newValue key).lookup rest else .absent) := by
  constructor
  · intro agree key tracked rest restTracked
    have same := agree (key :: rest) (by simp) (by simpa using ⟨tracked, restTracked⟩)
    rwa [Json.lookup_obj, Json.lookup_obj] at same
  · intro agree path nonempty tracked
    cases path with
    | nil => exact absurd rfl nonempty
    | cons key rest =>
      rw [Json.lookup_obj, Json.lookup_obj]
      exact agree key (tracked key List.mem_cons_self) rest fun other member =>
        tracked other (List.mem_cons_of_mem key member)

theorem agree_objects_iff {first second : Json} (firstObject : first.isObject = true)
    (secondObject : second.isObject = true) :
    (∀ path : Path, (∀ key ∈ path, key ∉ SKIPPED_KEYS) →
      SameAt (first.lookup path) (second.lookup path)) ↔ Agree first second := by
  constructor
  · intro agree path _ tracked
    exact agree path tracked
  · intro agree path tracked
    by_cases empty : path = []
    · rw [empty, Json.lookup_nil, Json.lookup_nil]
      exact .inl ⟨firstObject, secondObject⟩
    · exact agree path empty tracked

theorem diff_nil_of_agree {oldConfig newConfig : Json} (pathPrefix : Path)
    (agree : Agree oldConfig newConfig) :
    generateConfigDiff oldConfig newConfig pathPrefix = [] := by
  induction oldConfig generalizing newConfig pathPrefix with
  | obj oldKeys oldValue ih =>
    cases newConfig with
    | obj newKeys newValue =>
      rw [agree_obj_iff] at agree
      rw [generateConfigDiff_nil_cons]
      intro key isKey
      by_cases skipped : key ∈ SKIPPED_KEYS
      · simp only [diffKey, skipped, if_true]
      have below := agree key skipped
      have here := below [] (by simp)
      -- a key of one configuration alone would be found on one side only
      have inBoth : key ∈ oldKeys ∧ key ∈ newKeys := by
        by_cases inOld : key ∈ oldKeys
        · by_cases inNew : key ∈ newKeys
          · exact ⟨inOld, inNew⟩
          · simp [inOld, inNew, SameAt] at here
        · simp [inOld, isKey.resolve_left inOld, SameAt] at here
      obtain ⟨inOld, inNew⟩ := inBoth
      simp only [inOld, inNew, if_true, not_true_eq_false, if_false, readProperty] at below ⊢
      rw [diffKey_own_nil skipped]
      split
      next both => exact ih key (pathPrefix ++ [key]) ((agree_objects_iff both.1 both.2).mp below)
      next notBoth => exact (sameAt_below_iff notBoth).mp below
    | _ => rfl
  | _ => rfl

theorem ProtoKeysStay.below {oldKeys newKeys : List String} {oldValue newValue : String → Json}
    {key : String} (stay : ProtoKeysStay (.obj oldKeys oldValue) (.obj newKeys newValue))
    (inOld : key ∈ oldKeys) (inNew : key ∈ newKeys) :
    ProtoKeysStay (oldValue key) (newValue key) := by
  intro path
  have here := stay (key :: path)
  rwa [List.cons_append, Json.lookup_obj, Json.lookup_obj, if_pos inOld, if_pos inNew] at here

theorem ProtoKeysStay.mem_iff {oldKeys newKeys : List String} {oldValue newValue : String → Json}
    (stay : ProtoKeysStay (.obj oldKeys oldValue) (.obj newKeys newValue)) :
    "__proto__" ∈ oldKeys ↔ "__proto__" ∈ newKeys := by
  have here := stay []
  simp only [List.nil_append, Json.lookup_obj, Json.lookup_nil] at here
  by_cases inOld : "__proto__" ∈ oldKeys
  · by_cases inNew : "__proto__" ∈ newKeys
    · simp [inOld, inNew]
    · simp [inOld, inNew] at here
  · by_cases inNew : "__proto__" ∈ newKeys
    · simp [inOld, inNew] at here
    · simp [inOld, inNew]

theorem agree_of_diff_nil {oldConfig newConfig : Json} (pathPrefix : Path)
    (oldObject : oldConfig.isObject = true) (newObject : newConfig.isObject = true)
    (stay : ProtoKeysStay oldConfig newConfig)
    (empty : generateConfigDiff oldConfig newConfig pathPrefix = []) :
    Agree oldConfig newConfig := by
  induction oldConfig generalizing newConfig pathPrefix with
  | obj oldKeys oldValue ih =>
    obtain ⟨newKeys, newValue, rfl⟩ := Json.obj_of_isObject newObject
    rw [generateConfigDiff_nil_cons] at empty
    rw [agree_obj_iff]
    intro key tracked
    by_cases inOld : key ∈ oldKeys
    · have nothing := empty key (.inl inOld)
      by_cases inNew : key ∈ newKeys
      · simp only [inOld, inNew, if_true, not_true_eq_false, if_false, readProperty] at nothing ⊢
        rw [diffKey_own_nil tracked] at nothing
        by_cases both : (oldValue key).isObject = true ∧ (newValue key).isObject = true
        · rw [if_pos both] at nothing
          have agree := ih key (pathPrefix ++ [key]) both.1 both.2 (stay.below inOld inNew) nothing
          exact (agree_objects_iff both.1 both.2).mpr agree
        · rw [if_neg both] at nothing
          exact (sameAt_below_iff both).mpr nothing
      · have plain : key ≠ "__proto__" := by
          rintro rfl
          exact inNew (stay.mem_iff.mp inOld)
        have missing := readProperty_missing newValue inNew plain
        rw [readProperty, if_pos inOld] at nothing
        exact absurd nothing (diffKey_missing_ne_nil tracked missing _).2
    · by_cases inNew : key ∈ newKeys
      · have nothing := empty key (.inr inNew)
        have plain : key ≠ "__proto__" := by
          rintro rfl
          exact inOld (stay.mem_iff.mpr inNew)
        have missing := readProperty_missing oldValue inOld plain
        rw [readProperty.eq_1 newKeys, if_pos inNew] at nothing
        exact absurd nothing (diffKey_missing_ne_nil tracked missing _).1
      · simp [inOld, inNew, SameAt]
  | _ => cases oldObject

def recorded (field : Path) : Property → Property
  | .undefined => .json .null
  | value => maskIfSensitive field value

theorem recorded_defined {field : Path} {value : Property} (defined : value = .undefined → False) :
    recorded field value = maskIfSensitive field value := by
  cases value with
  | undefined => exact (defined rfl).elim
  | _ => rfl

def Records (oldValue newValue : Property) (entry : ConfigDiff) : Prop :=
  entry.oldValue = recorded entry.field oldValue ∧ entry.newValue = recorded entry.field newValue ∧
    ¬(oldValue.isObject = true ∧ newValue.isObject = true)

theorem diffKey_mem {pathPrefix : Path} {key : String} {oldValue newValue : Property}
    {nested : List ConfigDiff} {entry : ConfigDiff}
    (isEntry : entry ∈ diffKey pathPrefix key oldValue newValue nested) :
    entry ∈ nested ∧ oldValue.isObject = true ∧ newValue.isObject = true ∨
      entry.field = pathPrefix ++ [key] ∧ Records oldValue newValue entry := by
  simp only [diffKey] at isEntry
  split at isEntry
  next => cases isEntry
  next =>
    split at isEntry
    next => cases isEntry
    next defined =>
      rw [List.mem_singleton.mp isEntry]
      exact .inr ⟨rfl, rfl, (recorded_defined defined).symm, fun both => by cases both.1⟩
    next defined =>
      rw [List.mem_singleton.mp isEntry]
      exact .inr ⟨rfl, (recorded_defined defined).symm, rfl, fun both => by cases both.2⟩
    next oldDefined newDefined _ =>
      split at isEntry
      next both => exact .inl ⟨isEntry, both⟩
      next notBoth =>
        split at isEntry
        next => cases isEntry
        next =>
          rw [List.mem_singleton.mp isEntry]
          exact .inr ⟨rfl, (recorded_defined oldDefined).symm, (recorded_defined newDefined).symm,
            notBoth⟩

def RecordsAt (oldConfig newConfig : Json) (pathPrefix : Path) (entry : ConfigDiff) : Prop :=
  ∃ path, path ≠ [] ∧ entry.field = pathPrefix ++ path ∧
    Records (.ofLookup (oldConfig.lookup path)) (.ofLookup (newConfig.lookup path)) entry

def AtInherited (pathPrefix : Path) (entry : ConfigDiff) : Prop :=
  ∃ path, entry.field = pathPrefix ++ path ∧ ∃ key ∈ path, key ∈ OBJECT_PROTOTYPE_KEYS

theorem AtInherited.below {pathPrefix : Path} {key : String} {entry : ConfigDiff}
    (inherited : AtInherited (pathPrefix ++ [key]) entry) : AtInherited pathPrefix entry := by
  obtain ⟨path, isField, other, member, isInherited⟩ := inherited
  exact ⟨key :: path, by simp [isField], other, List.mem_cons_of_mem key member, isInherited⟩

theorem recordsAt_below {oldKeys newKeys : List String} {oldValue newValue : String → Json}
    {key : String} {pathPrefix : Path} {entry : ConfigDiff} (inOld : key ∈ oldKeys)
    (inNew : key ∈ newKeys)
    (records : RecordsAt (oldValue key) (newValue key) (pathPrefix ++ [key]) entry) :
    RecordsAt (.obj oldKeys oldValue) (.obj newKeys newValue) pathPrefix entry := by
  obtain ⟨path, _, isField, records⟩ := records
  refine ⟨key :: path, by simp, by simp [isField], ?_⟩
  rwa [Json.lookup_obj, Json.lookup_obj, if_pos inOld, if_pos inNew]

theorem ofLookup_key {keys : List String} {value : String → Json} {key : String}
    (plain : key ∉ OBJECT_PROTOTYPE_KEYS) :
    readProperty keys value key = .ofLookup ((Json.obj keys value).lookup [key]) := by
  have notProto : key ≠ "__proto__" := by
    rintro rfl
    exact plain (by decide)
  rw [Json.lookup_obj, readProperty, if_neg notProto, if_neg plain]
  split
  · rw [Json.lookup_nil, Property.ofLookup]
  · rfl

theorem diffFromPrototype_field {newConfig : Json} {pathPrefix : Path} {entry : ConfigDiff}
    (isEntry : entry ∈ diffFromPrototype newConfig pathPrefix) :
    ∃ path, entry.field = pathPrefix ++ path := by
  cases newConfig with
  | obj keys value =>
    obtain ⟨key, _, isEntry⟩ := List.mem_flatMap.mp isEntry
    rcases diffKey_mem isEntry with ⟨nested, _⟩ | ⟨isField, _⟩
    · cases nested
    · exact ⟨[key], isField⟩
  | _ => cases isEntry

theorem diffToPrototype_field {oldConfig : Json} {pathPrefix : Path} {entry : ConfigDiff}
    (isEntry : entry ∈ diffToPrototype oldConfig pathPrefix) :
    ∃ path, entry.field = pathPrefix ++ path := by
  cases oldConfig with
  | obj keys value =>
    obtain ⟨key, _, isEntry⟩ := List.mem_flatMap.mp isEntry
    rcases diffKey_mem isEntry with ⟨nested, _⟩ | ⟨isField, _⟩
    · cases nested
    · exact ⟨[key], isField⟩
  | _ => cases isEntry

/-- Every entry records what the two configurations hold at its path, unless a name on the path
is an inherited one. -/
theorem diff_records {oldConfig newConfig : Json} {pathPrefix : Path} {entry : ConfigDiff}
    (isEntry : entry ∈ generateConfigDiff oldConfig newConfig pathPrefix) :
    AtInherited pathPrefix entry ∨ RecordsAt oldConfig newConfig pathPrefix entry := by
  induction oldConfig generalizing newConfig pathPrefix with
  | obj oldKeys oldValue ih =>
    cases newConfig with
    | obj newKeys newValue =>
      simp only [generateConfigDiff, List.mem_flatMap] at isEntry
      obtain ⟨key, _, isEntry⟩ := isEntry
      rcases diffKey_mem isEntry with ⟨nested, oldObject, newObject⟩ | ⟨isField, records⟩
      · have inheritedBelow (extends_ : ∃ path, entry.field = pathPrefix ++ [key] ++ path)
            (isInherited : key ∈ OBJECT_PROTOTYPE_KEYS) : AtInherited pathPrefix entry := by
          obtain ⟨path, isField⟩ := extends_
          exact ⟨key :: path, by simp [isField], key, List.mem_cons_self, isInherited⟩
        -- only `__proto__` reads as an object where the key is missing
        have missing {keys : List String} {value : String → Json} (absent : key ∉ keys)
            (isObject : (readProperty keys value key).isObject = true) :
            key ∈ OBJECT_PROTOTYPE_KEYS := by
          by_contra plain
          rw [ofLookup_key plain, Json.lookup_obj, if_neg absent] at isObject
          cases isObject
        split at nested
        next absent =>
          exact .inl (inheritedBelow (diffFromPrototype_field nested) (missing absent oldObject))
        next present =>
          split at nested
          next absent =>
            exact .inl (inheritedBelow (diffToPrototype_field nested) (missing absent newObject))
          next stillPresent =>
            rcases ih key nested with inherited | records
            · exact .inl inherited.below
            · exact .inr (recordsAt_below (not_not.mp present) (not_not.mp stillPresent) records)
      · by_cases isInherited : key ∈ OBJECT_PROTOTYPE_KEYS
        · exact .inl ⟨[key], isField, key, List.mem_cons_self, isInherited⟩
        · rw [ofLookup_key isInherited, ofLookup_key isInherited] at records
          exact .inr ⟨[key], by simp, isField, records⟩
    | _ => simp [generateConfigDiff] at isEntry
  | _ => simp [generateConfigDiff] at isEntry

theorem mask_mask (text : String) :
    maskSensitiveValue (maskSensitiveValue text) = maskSensitiveValue text := by
  by_cases isEmpty : text = ""
  · rw [isEmpty]
    rfl
  generalize isValue : text.toList = value
  have nonempty : value ≠ [] := by
    rw [← isValue]
    simpa using isEmpty
  have positive := List.length_pos_iff.mpr nonempty
  have isMask : maskSensitiveValue text =
      String.ofList (visibleChars value ++ List.replicate (hiddenLength value) '*') := by
    rw [maskSensitiveValue, if_neg isEmpty, isValue]
  have again : visibleChars (visibleChars value ++ List.replicate (hiddenLength value) '*') =
        visibleChars value ∧
      hiddenLength (visibleChars value ++ List.replicate (hiddenLength value) '*') =
        hiddenLength value := by
    by_cases short : value.length < 4
    · have shown : (visibleChars value).length = 1 := by
        rw [visibleChars, if_pos short, List.length_take]
        omega
      have hidden : hiddenLength value = max (value.length - 1) 1 := if_pos short
      have length : (visibleChars value ++ List.replicate (hiddenLength value) '*').length =
          1 + hiddenLength value := by rw [List.length_append, shown, List.length_replicate]
      constructor
      · rw [visibleChars, length, if_pos (by omega), ← shown, List.take_left]
      · rw [hiddenLength, length, if_pos (by omega), hidden]
        omega
    · have shown : (visibleChars value).length = 4 := by
        rw [visibleChars, if_neg short, List.length_take]
        omega
      have hidden : hiddenLength value = max (value.length - 4) 4 := if_neg short
      have length : (visibleChars value ++ List.replicate (hiddenLength value) '*').length =
          4 + hiddenLength value := by rw [List.length_append, shown, List.length_replicate]
      constructor
      · rw [visibleChars, length, if_neg (by omega), ← shown, List.take_left]
      · rw [hiddenLength, length, if_neg (by omega), hidden]
        omega
  have notEmpty : String.ofList (visibleChars value ++ List.replicate (hiddenLength value) '*') ≠
      "" := by
    intro empty
    have noText : visibleChars value ++ List.replicate (hiddenLength value) '*' = [] :=
      String.ofList_injective (empty.trans String.ofList_nil.symm)
    have looks := looksMasked_mask nonempty
    rw [noText] at looks
    cases looks
  rw [isMask, maskSensitiveValue, if_neg notEmpty, String.toList_ofList, again.1, again.2]

def ShowsText (text : String) : Json → Prop
  | .str shown => shown = text
  | .arr length item => ∃ index < length, item index = .str text
  | _ => False

def Shows (entry : ConfigDiff) (fieldPath : Path) (text : String) : Prop :=
  ∃ rest recorded value, fieldPath = entry.field ++ rest ∧
    (entry.oldValue = .json recorded ∨ entry.newValue = .json recorded) ∧
    recorded.lookup rest = .found value ∧ ShowsText text value

def holdsObject (config : Json) (path : Path) : Bool :=
  (Property.ofLookup (config.lookup path)).isObject

def SectionsStay (oldConfig newConfig : Json) : Prop :=
  ∀ fieldPath ∈ SENSITIVE_FIELDS, ∀ above ∈ fieldPath.inits, above ≠ [] → above ≠ fieldPath →
    holdsObject oldConfig above = holdsObject newConfig above

theorem isObject_recorded {field : Path} {property : Property} {json : Json}
    (noObject : property.isObject = false) (isRecorded : recorded field property = .json json) :
    json.isObject = false := by
  cases property with
  | json value =>
    simp only [recorded, maskIfSensitive] at isRecorded
    split at isRecorded
    · cases value with
      | obj _ _ => cases noObject
      | _ =>
        rw [← Property.json.inj isRecorded]
        rfl
    · cases isRecorded
      exact noObject
  | undefined =>
    cases isRecorded
    rfl
  | objectPrototype => cases noObject
  | function =>
    simp only [recorded, maskIfSensitive] at isRecorded
    split at isRecorded <;> cases isRecorded

theorem showsText_mask {field : Path} (sensitive : isSensitiveField field = true)
    {property : Property} {json : Json} {text : String}
    (isRecorded : recorded field property = .json json) (shows : ShowsText text json) :
    maskSensitiveValue text = text := by
  have ofItem {item : Json} (isText : maskText item = .str text) :
      maskSensitiveValue text = text := by
    cases item with
    | str secret =>
      rw [← Json.str.inj isText]
      exact mask_mask secret
    | _ => cases isText
  cases property with
  | json value =>
    simp only [recorded, maskIfSensitive, sensitive, if_true] at isRecorded
    cases value with
    | arr length item =>
      cases isRecorded
      obtain ⟨index, _, isText⟩ := shows
      exact ofItem isText
    | str secret =>
      cases isRecorded
      exact ofItem (show maskText (.str secret) = .str text from congrArg Json.str shows)
    | _ =>
      cases isRecorded
      cases shows
  | undefined =>
    cases isRecorded
    cases shows
  | _ =>
    simp only [recorded, maskIfSensitive, sensitive, if_true] at isRecorded
    cases isRecorded

theorem isSensitiveField_mem {fieldPath : Path} (isField : fieldPath ∈ SENSITIVE_FIELDS) :
    isSensitiveField fieldPath = true := by
  simp only [isSensitiveField, List.contains_eq_mem, decide_eq_true_eq]
  exact List.mem_map_of_mem isField

theorem sensitiveFields_plain :
    ∀ fieldPath ∈ SENSITIVE_FIELDS, ∀ key ∈ fieldPath, key ∉ OBJECT_PROTOTYPE_KEYS := by
  decide +kernel

theorem shown_is_mask {oldConfig newConfig : Json} (stay : SectionsStay oldConfig newConfig)
    {entry : ConfigDiff} (isEntry : entry ∈ generateConfigDiff oldConfig newConfig [])
    {fieldPath : Path} (isField : fieldPath ∈ SENSITIVE_FIELDS) {text : String}
    (shows : Shows entry fieldPath text) : maskSensitiveValue text = text := by
  obtain ⟨rest, json, value, isPlace, isRecorded, isValue, shows⟩ := shows
  rcases diff_records isEntry with ⟨path, isPath, key, member, isInherited⟩ |
    ⟨path, nonempty, isPath, isOld, isNew, notBoth⟩
  · have onField : key ∈ fieldPath := by
      rw [isPlace, isPath]
      exact List.mem_append_left rest member
    exact absurd isInherited (sensitiveFields_plain fieldPath isField key onField)
  rw [isOld, isNew] at isRecorded
  cases rest with
  | nil =>
    rw [List.append_nil] at isPlace
    have sensitive : isSensitiveField entry.field = true :=
      isSensitiveField_mem (isPlace ▸ isField)
    rw [Json.lookup_nil, Json.Lookup.found.injEq] at isValue
    subst isValue
    rcases isRecorded with isRecorded | isRecorded
    · exact showsText_mask sensitive isRecorded shows
    · exact showsText_mask sensitive isRecorded shows
  | cons key more =>
    rw [List.nil_append] at isPath
    have isAbove : path <+: fieldPath := ⟨key :: more, by rw [isPlace, isPath]⟩
    have proper : path ≠ fieldPath := by
      rw [isPlace, isPath]
      intro same
      have length := congrArg List.length same
      simp at length
    have alike := stay fieldPath isField path ((List.mem_inits _ _).mpr isAbove) nonempty proper
    simp only [holdsObject] at alike
    have neither : (Property.ofLookup (oldConfig.lookup path)).isObject = false ∧
        (Property.ofLookup (newConfig.lookup path)).isObject = false := by
      rw [alike, and_self, Bool.not_eq_true] at notBoth
      exact ⟨alike.trans notBoth, notBoth⟩
    have scalar : json.isObject = false := by
      rcases isRecorded with isRecorded | isRecorded
      · exact isObject_recorded neither.1 isRecorded
      · exact isObject_recorded neither.2 isRecorded
    rw [Json.lookup_blocked scalar (by simp)] at isValue
    cases isValue

/-- For every two configurations: as long as no section above a sensitive field comes, goes or is
replaced, every text that an entry shows in the place of such a field is a mask; the list is empty
where the two agree, and only there as long as no key `__proto__` comes or goes. -/
theorem diff_masks_and_tracks {oldConfig newConfig : Json} (oldObject : oldConfig.isObject = true)
    (newObject : newConfig.isObject = true) :
    (SectionsStay oldConfig newConfig →
      ∀ entry ∈ generateConfigDiff oldConfig newConfig [], ∀ fieldPath ∈ SENSITIVE_FIELDS,
        ∀ text, Shows entry fieldPath text → maskSensitiveValue text = text) ∧
      (Agree oldConfig newConfig → generateConfigDiff oldConfig newConfig [] = []) ∧
      (ProtoKeysStay oldConfig newConfig → generateConfigDiff oldConfig newConfig [] = [] →
        Agree oldConfig newConfig) := by
  refine ⟨?_, diff_nil_of_agree [], agree_of_diff_nil [] oldObject newObject⟩
  intro stay entry isEntry fieldPath isField text shows
  exact shown_is_mask stay isEntry isField shows

def jwtSecretPath : Path := ["security", "secrets", "jwt_secret"]

def withJwtSecret (secret : String) : Json :=
  .object [("security", .object [("secrets", .object [("jwt_secret", .str secret)])])]

def described (description : String) : Json := .object [("description", .str description)]

theorem jwtSecret_masked :
    (∀ entry ∈ generateConfigDiff (withJwtSecret "first-secret") (withJwtSecret "second-secret") [],
      ∀ fieldPath ∈ SENSITIVE_FIELDS, ∀ text, Shows entry fieldPath text →
        maskSensitiveValue text = text) ∧
      ¬Agree (withJwtSecret "first-secret") (withJwtSecret "second-secret") ∧
      Agree (described "old") (described "new") := by
  obtain ⟨masked, agreed, _⟩ := diff_masks_and_tracks
    (show (withJwtSecret "first-secret").isObject = true from rfl)
    (show (withJwtSecret "second-secret").isObject = true from rfl)
  refine ⟨masked ?_, ?_, (diff_masks_and_tracks rfl rfl).2.2 ?_ ?_⟩
  · unfold SectionsStay
    decide +kernel
  · intro agree
    exact absurd (List.isEmpty_iff.mpr (agreed agree)) (by decide +kernel)
  · intro path
    cases path with
    | nil => simp [described, Json.object]
    | cons key rest =>
      have blocked (text : String) : (Json.str text).lookup (rest ++ ["__proto__"]) = .blocked :=
        Json.lookup_blocked rfl (by simp)
      by_cases isDescription : key = "description"
      · simp [described, Json.object, isDescription, blocked]
      · simp [described, Json.object, isDescription]
  · exact List.isEmpty_iff.mp (by decide +kernel)

/-- A change of a description is not listed and neither is an empty `__proto__`, another order of
keys inside an array is, a secret that is its own mask is shown, and so is every secret of a
section that is gone. -/
theorem diff_misses_and_shows :
    (generateConfigDiff (described "old") (described "new") [] = [] ∧
        described "old" ≠ described "new") ∧
      generateConfigDiff (.object []) (.object [("__proto__", .object [])]) [] = [] ∧
      generateConfigDiff
        (.object [("list", .array [.object [("a", .null), ("b", .null)]])])
        (.object [("list", .array [.object [("b", .null), ("a", .null)]])]) [] ≠ [] ∧
      (∃ entry ∈ generateConfigDiff (withJwtSecret "abcd****") (withJwtSecret "second-secret") [],
        Shows entry jwtSecretPath "abcd****") ∧
      ∃ entry ∈ generateConfigDiff (withJwtSecret "first-secret") (.object []) [],
        Shows entry jwtSecretPath "first-secret" := by
  refine ⟨⟨List.isEmpty_iff.mp (by decide +kernel), ?_⟩, List.isEmpty_iff.mp (by decide +kernel),
    ?_, ?_, ?_⟩
  · intro same
    have held : Json.Lookup.found (.str "old") = .found (.str "new") :=
      congrArg (fun json => json.lookup ["description"]) same
    simp at held
  · intro empty
    exact absurd (List.isEmpty_iff.mpr empty) (by decide +kernel)
  · have shown : maskSensitiveValue "abcd****" = "abcd****" := by decide +kernel
    refine ⟨⟨jwtSecretPath, .json (.str "abcd****"),
      .json (.str (maskSensitiveValue "second-secret")), .modified⟩, ?_, [], _, _, rfl, .inl rfl,
      rfl, rfl⟩
    have sensitive : isSensitiveField ["security", "secrets", "jwt_secret"] = true := by
      decide +kernel
    simp [generateConfigDiff, diffKey, readProperty, withJwtSecret, Json.object, SKIPPED_KEYS,
      Property.isObject, Json.isObject, sameStringified, Property.stringified, Json.clone, sameText,
      maskIfSensitive, sensitive, maskText, shown, jwtSecretPath]
  · refine ⟨⟨["security"],
      .json (.object [("secrets", .object [("jwt_secret", .str "first-secret")])]), .json .null,
      .removed⟩, ?_, ["secrets", "jwt_secret"], _, _, rfl, .inl rfl, rfl, rfl⟩
    have insensitive : isSensitiveField ["security"] = false := by decide +kernel
    simp [generateConfigDiff, diffKey, readProperty, OBJECT_PROTOTYPE_KEYS, withJwtSecret,
      Json.object, SKIPPED_KEYS, maskIfSensitive, insensitive]

end ParakoId.Settings
