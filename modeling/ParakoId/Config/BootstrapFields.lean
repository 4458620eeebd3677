import ParakoId.Config.Merge

/-!
The bootstrap fields: settings of the environment that are taken out of a configuration before it
is persisted, together with the sections that held nothing else.
-/

namespace ParakoId.Config

open Json (Path)

def BOOTSTRAP_ONLY_FIELDS : List Path := [
  ["deployment", "environment"],
  ["deployment", "server", "port"],
  ["storage", "adapter"],
  ["storage", "mongodb", "uri"],
  ["storage", "sqlite", "path"],
  ["storage", "postgresql", "url"],
  ["integrations", "file_storage", "provider"],
  ["features", "multi_tenancy", "extraction_priority"],
  ["features", "multi_tenancy", "tenant_header"],
  ["features", "multi_tenancy", "provider_pool", "max_size"],
  ["features", "multi_tenancy", "provider_pool", "idle_ttl_ms"],
  ["features", "multi_tenancy", "provider_pool", "cleanup_interval_ms"]]

structure BootstrapValidationResult where
  isValid : Bool
  bootstrapFieldsFound : List Path

def validateNonBootstrapConfig (config : Json) : BootstrapValidationResult :=
  if config.isReference = false then { isValid := true, bootstrapFieldsFound := [] }
  else
    let bootstrapFieldsFound :=
      BOOTSTRAP_ONLY_FIELDS.filter fun fieldPath => (getNestedValue config fieldPath).isSome
    { isValid := bootstrapFieldsFound.isEmpty, bootstrapFieldsFound }

def isEmptyObject : Json → Bool
  | .obj keys _ => keys.isEmpty
  | _ => false

/-- Deletes the value at the end of a path that exists; on the way back, each section that became
empty is deleted from the one above it. -/
@[grind =]
def deleteBelow : Json → Path → Json
  | .obj keys value, key :: next :: rest =>
    let child := deleteBelow (value key) (next :: rest)
    if isEmptyObject child then .obj (keys.filter (· != key)) value
    else .obj keys fun name => if name = key then child else value name
  | .obj keys value, [lastKey] => .obj (keys.filter (· != lastKey)) value
  | json, _ => json

def deleteNestedValue (json : Json) (path : Path) : Json :=
  if (getNestedValue json path).isSome then deleteBelow json path else json

/-- A reference holds a whole tree: sections have no reference of their own, every copy is deep. -/
structure Memory where
  object : Nat → Json
  next : Nat

namespace Memory

def allocate (memory : Memory) (json : Json) : Memory where
  object := Function.update memory.object memory.next json
  next := memory.next + 1

theorem allocate_object (memory : Memory) (json : Json) :
    (memory.allocate json).object memory.next = json :=
  Function.update_self _ _ _

def mutate (memory : Memory) (reference : Nat) (change : Json → Json) : Memory where
  object := Function.update memory.object reference (change (memory.object reference))
  next := memory.next

end Memory

def stripBootstrapFields (memory : Memory) (config : Nat) : Nat × Memory :=
  if (memory.object config).isReference = false then (config, memory)
  else
    let sanitized := memory.next
    (sanitized, BOOTSTRAP_ONLY_FIELDS.foldl
      (fun memory fieldPath => memory.mutate sanitized (deleteNestedValue · fieldPath))
      (memory.allocate (memory.object config).clone))

def isLeaf : Json → Bool
  | .obj keys _ => keys.isEmpty
  | _ => true

variable {json : Json} {path removed : Path} {fields : List Path}

theorem deleteBelow_isObject (isObject : json.isObject = true) (path : Path) :
    (deleteBelow json path).isObject = true := by
  obtain ⟨keys, value, rfl⟩ := Json.obj_of_isObject isObject
  match path with
  | [] => rfl
  | [lastKey] => rfl
  | key :: next :: rest =>
    simp only [deleteBelow]
    split <;> rfl

theorem lookup_emptyObject (isEmpty : isEmptyObject json = true) (nonempty : path ≠ []) :
    json.lookup path = .absent := by
  obtain ⟨key, rest, rfl⟩ := List.exists_cons_of_ne_nil nonempty
  cases json with
  | obj keys value =>
    rw [List.isEmpty_iff.mp isEmpty]
    rfl
  | _ => cases isEmpty

theorem lookup_deleteBelow_apart {found : Json} (isFound : json.lookup removed = .found found)
    (separate : Json.apart removed path = true) :
    (deleteBelow json removed).lookup path = json.lookup path := by
  induction removed generalizing json path with
  | nil => cases separate
  | cons key rest ih =>
    obtain ⟨keys, value, rfl, inKeys, below⟩ := Json.found_cons isFound
    cases path with
    | nil => cases separate
    | cons other otherRest =>
      cases rest with
      | nil =>
        have differ : other ≠ key := by
          rintro rfl
          simp [Json.apart] at separate
        simp [deleteBelow, differ]
      | cons next others =>
        by_cases same : other = key
        · subst same
          have deeper : Json.apart (next :: others) otherRest = true := by
            simpa [Json.apart] using separate
          have kept := ih below deeper
          have nonempty : otherRest ≠ [] := by
            rintro rfl
            cases deeper
          simp only [deleteBelow]
          split
          · rename_i isEmpty
            rw [lookup_emptyObject isEmpty nonempty] at kept
            simp [inKeys, ← kept]
          · simp [inKeys, kept]
        · simp only [deleteBelow]
          split <;> simp [same]

theorem lookup_deleteBelow_self {found : Json} (isFound : json.lookup removed = .found found)
    (nonempty : removed ≠ []) : (deleteBelow json removed).lookup removed = .absent := by
  induction removed generalizing json with
  | nil => exact (nonempty rfl).elim
  | cons key rest ih =>
    obtain ⟨keys, value, rfl, inKeys, below⟩ := Json.found_cons isFound
    cases rest with
    | nil => simp [deleteBelow]
    | cons next others =>
      simp only [deleteBelow]
      split
      · simp
      · simpa [inKeys] using ih below (by simp)

theorem isLeaf_of_nonempty (isObject : json.isObject = true)
    (nonempty : isEmptyObject json = false) : isLeaf json = false := by
  obtain ⟨keys, value, rfl⟩ := Json.obj_of_isObject isObject
  exact nonempty

theorem lookup_deleteBelow_above {found left : Json} {above below : Path}
    (isFound : json.lookup (above ++ below) = .found found) (aboveNonempty : above ≠ [])
    (belowNonempty : below ≠ [])
    (isLeft : (deleteBelow json (above ++ below)).lookup above = .found left) :
    isLeaf left = false := by
  induction above generalizing json with
  | nil => exact (aboveNonempty rfl).elim
  | cons key rest ih =>
    rw [List.cons_append] at isFound
    obtain ⟨keys, value, rfl, inKeys, inner⟩ := Json.found_cons isFound
    obtain ⟨next, others, split⟩ := List.exists_cons_of_ne_nil
      (List.append_ne_nil_of_right_ne_nil rest belowNonempty)
    rw [split] at inner
    simp only [List.cons_append, split, deleteBelow] at isLeft
    split at isLeft
    · simp at isLeft
    · rename_i nonempty
      simp only [Json.lookup_obj, inKeys, if_true] at isLeft
      cases rest with
      | nil =>
        obtain ⟨innerKeys, innerValue, isInner, _⟩ := Json.found_cons inner
        have isInnerObject : (value key).isObject = true := by
          rw [isInner]
          rfl
        have isObject := deleteBelow_isObject isInnerObject (next :: others)
        simp only [Json.lookup_nil, Json.Lookup.found.injEq] at isLeft
        rw [← isLeft]
        exact isLeaf_of_nonempty isObject (by simpa using nonempty)
      | cons second more =>
        rw [← split] at inner isLeft
        exact ih inner (by simp) isLeft

def Outside (fields : List Path) (path : Path) : Prop := ∀ field ∈ fields, ¬field <+: path

theorem deleteNestedValue_absent (absent : getNestedValue json path = none) :
    deleteNestedValue json path = json := by
  rw [deleteNestedValue, absent]
  rfl

theorem deleteNestedValue_found {found : Json} (isFound : json.lookup path = .found found) :
    deleteNestedValue json path = deleteBelow json path := by
  rw [deleteNestedValue, getNestedValue_some.mpr isFound]
  rfl

theorem lookup_deleteNestedValue_apart (json : Json) (separate : Json.apart removed path = true) :
    (deleteNestedValue json removed).lookup path = json.lookup path := by
  cases isFound : getNestedValue json removed with
  | none => rw [deleteNestedValue_absent isFound]
  | some found =>
    have atRemoved := getNestedValue_some.mp isFound
    rw [deleteNestedValue_found atRemoved, lookup_deleteBelow_apart atRemoved separate]

theorem apart_or_above (outside : ¬removed <+: path) :
    Json.apart removed path = true ∨ ∃ below, below ≠ [] ∧ removed = path ++ below := by
  induction removed generalizing path with
  | nil => exact (outside List.nil_prefix).elim
  | cons key rest ih =>
    cases path with
    | nil => exact .inr ⟨key :: rest, by simp, rfl⟩
    | cons other otherRest =>
      by_cases same : other = key
      · subst same
        have deeper : ¬rest <+: otherRest := by simpa using outside
        rcases ih deeper with separate | ⟨below, nonempty, rfl⟩
        · exact .inl (by simp [Json.apart, separate])
        · exact .inr ⟨below, nonempty, rfl⟩
      · exact .inl (by simp [Json.apart, Ne.symm same])

theorem leaf_deleteNestedValue_iff (json : Json) {leaf : Json} (outside : ¬removed <+: path)
    (nonempty : path ≠ []) (isLeaf_ : isLeaf leaf = true) :
    (deleteNestedValue json removed).lookup path = .found leaf ↔
      json.lookup path = .found leaf := by
  rcases apart_or_above outside with separate | ⟨below, belowNonempty, rfl⟩
  · rw [lookup_deleteNestedValue_apart json separate]
  · cases isFound : getNestedValue json (path ++ below) with
    | none => rw [deleteNestedValue_absent isFound]
    | some found =>
      have atRemoved := getNestedValue_some.mp isFound
      rw [deleteNestedValue_found atRemoved]
      constructor
      · intro isLeft
        have notLeaf := lookup_deleteBelow_above atRemoved nonempty belowNonempty isLeft
        rw [notLeaf] at isLeaf_
        cases isLeaf_
      · intro isAbove
        rw [Json.lookup_append, isAbove] at atRemoved
        obtain ⟨key, rest, rfl⟩ := List.exists_cons_of_ne_nil belowNonempty
        obtain ⟨keys, value, rfl, inKeys, _⟩ := Json.found_cons atRemoved
        rw [List.isEmpty_iff.mp isLeaf_] at inKeys
        cases inKeys

@[grind =]
def deleteFields (fields : List Path) (json : Json) : Json := fields.foldl deleteNestedValue json

theorem leaf_deleteFields_iff {leaf : Json} (outside : Outside fields path)
    (nonempty : path ≠ []) (isLeaf_ : isLeaf leaf = true) :
    (deleteFields fields json).lookup path = .found leaf ↔ json.lookup path = .found leaf := by
  induction fields generalizing json with
  | nil => rfl
  | cons field others ih =>
    have outsideOthers : Outside others path :=
      fun other member => outside other (List.mem_cons_of_mem _ member)
    rw [deleteFields, List.foldl_cons]
    exact (ih outsideOthers).trans
      (leaf_deleteNestedValue_iff json (outside field List.mem_cons_self) nonempty isLeaf_)

theorem lookup_deleteFields_apart (separate : ∀ field ∈ fields, Json.apart field path = true) :
    (deleteFields fields json).lookup path = json.lookup path := by
  induction fields generalizing json with
  | nil => rfl
  | cons field others ih =>
    rw [deleteFields, List.foldl_cons]
    exact (ih fun other member => separate other (List.mem_cons_of_mem _ member)).trans
      (lookup_deleteNestedValue_apart json (separate field List.mem_cons_self))

theorem deleteFields_absent {field : Path}
    (separate : fields.Pairwise fun first second => Json.apart first second = true)
    (nonempty : ∀ field ∈ fields, field ≠ []) (isField : field ∈ fields) :
    getNestedValue (deleteFields fields json) field = none := by
  induction fields generalizing json with
  | nil => cases isField
  | cons first others ih =>
    obtain ⟨fromFirst, amongOthers⟩ := List.pairwise_cons.mp separate
    rw [deleteFields, List.foldl_cons]
    rcases List.mem_cons.mp isField with rfl | isOther
    · have kept : (deleteFields others (deleteNestedValue json field)).lookup field =
          (deleteNestedValue json field).lookup field :=
        lookup_deleteFields_apart fun other member => by
          rw [Json.apart_symm]
          exact fromFirst other member
      change getNestedValue (deleteFields others _) field = none
      rw [getNestedValue, kept]
      cases isFound : getNestedValue json field with
      | none => rwa [deleteNestedValue_absent isFound]
      | some found =>
        have atField := getNestedValue_some.mp isFound
        rw [deleteNestedValue_found atField,
          lookup_deleteBelow_self atField (nonempty field List.mem_cons_self)]
        rfl
    · exact ih amongOthers (fun other member => nonempty other (List.mem_cons_of_mem _ member))
        isOther

theorem deleteFields_none (absent : ∀ field ∈ fields, getNestedValue json field = none) :
    deleteFields fields json = json := by
  induction fields with
  | nil => rfl
  | cons field others ih =>
    rw [deleteFields, List.foldl_cons, deleteNestedValue_absent (absent field List.mem_cons_self)]
    exact ih fun other member => absent other (List.mem_cons_of_mem _ member)

theorem isEmptyObject_clone (json : Json) : isEmptyObject json.clone = isEmptyObject json := by
  cases json with
  | num value => cases value <;> rfl
  | _ => rfl

theorem clone_deleteBelow (json : Json) (path : Path) :
    (deleteBelow json path).clone = deleteBelow json.clone path := by
  induction path generalizing json with
  | nil => cases json <;> simp [deleteBelow, Json.clone]
  | cons key rest ih =>
    cases json with
    | obj keys value =>
      cases rest with
      | nil => rfl
      | cons next others =>
        simp only [deleteBelow, Json.clone, ← ih, isEmptyObject_clone]
        split
        · rfl
        · simp only [Json.clone, Json.obj.injEq, true_and]
          funext name
          by_cases same : name = key <;> simp [same]
    | num value => cases value <;> cases rest <;> rfl
    | _ => cases rest <;> rfl

theorem clone_deleteFields (fields : List Path) (json : Json) :
    (deleteFields fields json).clone = deleteFields fields json.clone := by
  induction fields generalizing json with
  | nil => rfl
  | cons field others ih =>
    have cloned : (deleteNestedValue json field).clone = deleteNestedValue json.clone field := by
      have isSome : (getNestedValue json.clone field).isSome =
          (getNestedValue json field).isSome := by
        rw [getNestedValue, getNestedValue, Json.lookup_clone]
        cases json.lookup field <;> rfl
      rw [deleteNestedValue, deleteNestedValue, isSome]
      split
      · exact clone_deleteBelow json field
      · rfl
    rw [deleteFields, List.foldl_cons, deleteFields, List.foldl_cons, ← cloned]
    exact ih _

def stripped (config : Json) : Json := deleteFields BOOTSTRAP_ONLY_FIELDS config.clone

theorem foldl_mutate (fields : List Path) (memory : Memory) (reference : Nat) :
    fields.foldl (fun memory field => memory.mutate reference (deleteNestedValue · field)) memory =
      memory.mutate reference (deleteFields fields) := by
  induction fields generalizing memory with
  | nil => simp [Memory.mutate, deleteFields]
  | cons field others ih =>
    rw [List.foldl_cons, ih]
    simp [Memory.mutate, deleteFields]

theorem stripBootstrapFields_object {memory : Memory} {config : Nat}
    (isObject : (memory.object config).isObject = true) :
    stripBootstrapFields memory config =
      (memory.next, memory.allocate (stripped (memory.object config))) := by
  obtain ⟨keys, value, isConfig⟩ := Json.obj_of_isObject isObject
  rw [stripBootstrapFields, if_neg (by rw [isConfig]; simp [Json.isReference])]
  dsimp only
  rw [foldl_mutate]
  simp [Memory.mutate, Memory.allocate, stripped]

theorem validateNonBootstrapConfig_isValid {config : Json} (isObject : config.isObject = true) :
    (validateNonBootstrapConfig config).isValid = true ↔
      ∀ field ∈ BOOTSTRAP_ONLY_FIELDS, getNestedValue config field = none := by
  obtain ⟨keys, value, rfl⟩ := Json.obj_of_isObject isObject
  simp [validateNonBootstrapConfig, Json.isReference]

theorem bootstrapFields_separate :
    BOOTSTRAP_ONLY_FIELDS.Pairwise fun first second => Json.apart first second = true :=
  @Json.pairwise_of_separate 4 _ (by decide)

theorem stripped_absent (config : Json) {field : Path} (isField : field ∈ BOOTSTRAP_ONLY_FIELDS) :
    getNestedValue (stripped config) field = none :=
  deleteFields_absent bootstrapFields_separate (by decide) isField

theorem stripped_stripped (config : Json) : stripped (stripped config) = stripped config := by
  have cloned : (stripped config).clone = stripped config := by
    rw [stripped, clone_deleteFields, Json.clone_clone]
  rw [stripped, cloned]
  exact deleteFields_none fun _ => stripped_absent config

theorem deleteFields_isObject (isObject : json.isObject = true) (fields : List Path) :
    (deleteFields fields json).isObject = true := by
  induction fields generalizing json with
  | nil => exact isObject
  | cons field others ih =>
    rw [deleteFields, List.foldl_cons]
    apply ih
    rw [deleteNestedValue]
    split
    · exact deleteBelow_isObject isObject field
    · exact isObject

theorem stripped_isObject {config : Json} (isObject : config.isObject = true) :
    (stripped config).isObject = true := by
  obtain ⟨keys, value, rfl⟩ := Json.obj_of_isObject isObject
  exact deleteFields_isObject rfl BOOTSTRAP_ONLY_FIELDS

theorem stripped_changes_iff {config : Json} (isObject : config.isObject = true) :
    (validateNonBootstrapConfig config).isValid = false ↔ stripped config ≠ config.clone := by
  have sameFields : ∀ field, getNestedValue config.clone field = none ↔
      getNestedValue config field = none := by
    intro field
    rw [getNestedValue, getNestedValue, Json.lookup_clone]
    cases config.lookup field <;> simp [Json.Lookup.map, Json.Lookup.toOption]
  rw [← Bool.not_eq_true, validateNonBootstrapConfig_isValid isObject, not_iff_not]
  constructor
  · intro absent
    exact deleteFields_none fun field isField => (sameFields field).mpr (absent field isField)
  · intro unchanged field isField
    rw [← sameFields, ← unchanged]
    exact stripped_absent config isField

/-- For every configuration object in memory: what stripping returns is valid, has the leaves that
the configuration has outside of the bootstrap fields (a JSON value is its own clone) and nothing
at or below one; no object that was there is modified; stripping again gives the same; and
validation rejects exactly what stripping changes. -/
theorem bootstrap_stripped_exactly {memory after afterAgain : Memory}
    {config sanitized again : Nat} (isObject : (memory.object config).isObject = true)
    (strips : stripBootstrapFields memory config = (sanitized, after))
    (stripsAgain : stripBootstrapFields after sanitized = (again, afterAgain)) :
    (validateNonBootstrapConfig (after.object sanitized)).isValid = true ∧
      (∀ path leaf, path ≠ [] → Outside BOOTSTRAP_ONLY_FIELDS path → isLeaf leaf = true →
        ((after.object sanitized).lookup path = .found leaf ↔
          (memory.object config).clone.lookup path = .found leaf)) ∧
      (∀ field ∈ BOOTSTRAP_ONLY_FIELDS, ∀ below value,
        (after.object sanitized).lookup (field ++ below) ≠ .found value) ∧
      (∀ other < memory.next, after.object other = memory.object other) ∧
      afterAgain.object again = after.object sanitized ∧
      ((validateNonBootstrapConfig (memory.object config)).isValid = false ↔
        after.object sanitized ≠ (memory.object config).clone) := by
  have sanitizedObject := stripped_isObject isObject
  obtain ⟨rfl, rfl⟩ := Prod.mk.inj ((stripBootstrapFields_object isObject).symm.trans strips)
  have isSanitized := memory.allocate_object (stripped (memory.object config))
  have isObjectAgain :
      ((memory.allocate (stripped (memory.object config))).object memory.next).isObject = true :=
    isSanitized.symm ▸ sanitizedObject
  have strippedAgain := stripBootstrapFields_object isObjectAgain
  obtain ⟨rfl, rfl⟩ := Prod.mk.inj (strippedAgain.symm.trans stripsAgain)
  simp only [Memory.allocate_object]
  refine ⟨?_, ?_, ?_, ?_, ?_, ?_⟩
  · rw [validateNonBootstrapConfig_isValid sanitizedObject]
    exact fun field => stripped_absent _
  · intro path leaf nonempty outside isLeaf
    exact leaf_deleteFields_iff outside nonempty isLeaf
  · intro field isField below value isFound
    obtain ⟨above, isAbove, _⟩ := Json.found_of_append isFound
    have absent := stripped_absent (memory.object config) isField
    rw [getNestedValue_some.mpr isAbove] at absent
    cases absent
  · intro other isOld
    exact Function.update_of_ne (Nat.ne_of_lt isOld) _ _
  · exact stripped_stripped _
  · exact stripped_changes_iff isObject

def titledConfig : Json :=
  .object [
    ("title", .str "Accounts"),
    ("deployment", .object [("environment", .str "production")])]

theorem titledConfig_stripped :
    let memory : Memory := ⟨fun _ => titledConfig, 1⟩
    let (sanitized, after) := stripBootstrapFields memory 0
    (after.object sanitized).lookup ["title"] = .found (.str "Accounts") ∧
      after.object 0 = titledConfig ∧
      (after.object sanitized).lookup ["deployment", "environment"] ≠
        .found (.str "production") := by
  have isObject : (Memory.object ⟨fun _ => titledConfig, 1⟩ 0).isObject = true := rfl
  obtain ⟨_, leaves, fields, kept, _⟩ :=
    bootstrap_stripped_exactly isObject Prod.mk.eta.symm Prod.mk.eta.symm
  refine ⟨(leaves ["title"] (.str "Accounts") (by decide) ?_ rfl).mpr rfl, kept 0 Nat.zero_lt_one,
    fields ["deployment", "environment"] (by decide) [] (.str "production")⟩
  unfold Outside
  decide

end ParakoId.Config
