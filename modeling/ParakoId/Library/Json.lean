import Mathlib.Data.List.Dedup
import Mathlib.Data.List.Pairwise
import Mathlib.Order.WithBot
import Mathlib.Algebra.Order.Ring.Rat

/-!
JSON values as JavaScript holds them: numbers may be infinite until a value is
serialized, and objects keep the order of their keys. Paths are lists of keys.
-/

inductive JsNumber
  | negInfinity
  | finite (value : ℚ)
  | infinity
  deriving DecidableEq

namespace JsNumber

def extended : JsNumber → WithBot (WithTop ℚ)
  | .negInfinity => ⊥
  | .finite value => ((value : WithTop ℚ) : WithBot (WithTop ℚ))
  | .infinity => ((⊤ : WithTop ℚ) : WithBot (WithTop ℚ))

theorem extended_injective : Function.Injective extended := by
  intro first second same
  cases first <;> cases second <;> simp_all [extended]

instance : LinearOrder JsNumber := LinearOrder.lift' extended extended_injective

instance (value : Nat) : OfNat JsNumber value := ⟨.finite value⟩

end JsNumber

/-- An object is the list of its keys and the value of each of them; an array
is its length and the item at each index. -/
inductive Json
  | null
  | bool (value : Bool)
  | num (value : JsNumber)
  | str (value : String)
  | arr (length : Nat) (item : Nat → Json)
  | obj (keys : List String) (value : String → Json)

namespace Json

abbrev Path := List String

instance lawfulPath : LawfulBEq Path := inferInstanceAs (LawfulBEq (List String))

def object (entries : List (String × Json)) : Json :=
  .obj (entries.map Prod.fst) fun key => (entries.lookup key).getD .null

def array (items : List Json) : Json := .arr items.length fun index => items.getD index .null

def truthy : Json → Bool
  | .null => false
  | .bool value => value
  | .num value => value != 0
  | .str value => value != ""
  | .arr _ _ => true
  | .obj _ _ => true

def isNull : Json → Bool
  | .null => true
  | _ => false

def isObject : Json → Bool
  | .obj _ _ => true
  | _ => false

-- `typeof value === 'object'` for a value that is not null
def isReference : Json → Bool
  | .arr _ _ => true
  | .obj _ _ => true
  | _ => false

def property (key : String) : Json → Option Json
  | .obj keys value => if key ∈ keys then some (value key) else none
  | _ => none

/-- Where a path leads: nowhere, because a key is missing; nowhere, because a value on
the way is no object; or to a value. -/
inductive Lookup
  | absent
  | blocked
  | found (value : Json)

namespace Lookup

def toOption : Lookup → Option Json
  | .found value => some value
  | _ => none

def map (change : Json → Json) : Lookup → Lookup
  | .found value => .found (change value)
  | other => other

def filterMap (change : Json → Option Json) : Lookup → Lookup
  | .found value => match change value with
    | some changed => .found changed
    | none => .absent
  | other => other

end Lookup

@[grind =]
def lookup : Json → Path → Lookup
  | json, [] => .found json
  | .obj keys value, key :: rest => if key ∈ keys then lookup (value key) rest else .absent
  | _, _ :: _ => .blocked

/-- A step into an object or an array. -/
inductive Step
  | key (name : String)
  | index (position : Nat)

def reached : Json → List Step → Option Json
  | json, [] => some json
  | .obj keys value, .key name :: rest => if name ∈ keys then reached (value name) rest else none
  | .arr length item, .index position :: rest =>
    if position < length then reached (item position) rest else none
  | _, _ :: _ => none

/-- Puts a value at a path, with fresh objects in place of missing keys and scalars. A key
that is set on an array is lost as soon as the array is serialized. -/
@[grind =]
def write (new : Json) : Path → Json → Json
  | [], _ => new
  | key :: rest, .obj keys value =>
    .obj (if key ∈ keys then keys else keys ++ [key]) fun name =>
      if name = key then
        write new rest (if key ∈ keys ∧ isReference (value key) then value key else .obj [] value)
      else value name
  | _ :: _, other => other

def remove : Path → Json → Json
  | [], json => json
  | [key], .obj keys value => .obj (keys.filter (· != key)) value
  | key :: rest, .obj keys value =>
    .obj keys fun name => if name = key then remove rest (value key) else value name
  | _ :: _, other => other

/-- `JSON.parse(JSON.stringify(value))`. -/
@[grind =]
def clone : Json → Json
  | .num (.finite value) => .num (.finite value)
  | .num _ => .null
  | .arr length item => .arr length fun index => clone (item index)
  | .obj keys value => .obj keys fun key => clone (value key)
  | other => other

def spread : Json → Json
  | .obj keys value => .obj keys value
  | .arr length item =>
    .obj ((List.range length).map toString) fun key => (key.toNat?.map item).getD .null
  | .str text => object (text.toList.zipIdx.map fun (character, index) =>
    (toString index, .str (String.singleton character)))
  | _ => .obj [] fun _ => .null

def entries : Json → List (String × Json)
  | .obj keys value => keys.dedup.map fun key => (key, value key)
  | _ => []

def keep (test : String → Json → Bool) : Json → Json
  | .obj keys value => .obj (keys.filter fun key => test key (value key)) value
  | other => other

def mapValues (change : String → Json → Json) : Json → Json
  | .obj keys value => .obj keys fun key => change key (value key)
  | other => other

structure Conversions where
  stringToNumber : String → Option JsNumber
  numberToString : JsNumber → String

/-- `String(value)`; `none` is the `TypeError` of an object whose own `toString` hides the
inherited one. -/
def toText (conversions : Conversions) : Json → Option String
  | .null => some "null"
  | .bool value => some (if value then "true" else "false")
  | .num value => some (conversions.numberToString value)
  | .str value => some value
  | .arr length item =>
    ((List.range length).mapM fun index =>
      if isNull (item index) then some "" else toText conversions (item index)).map
        (String.intercalate ",")
  | .obj keys _ => if "toString" ∈ keys then none else some "[object Object]"

/-- `Number(value)`: `none` is the `TypeError` of `toText`, `some none` is NaN. -/
def toNumber (conversions : Conversions) : Json → Option (Option JsNumber)
  | .null => some (some 0)
  | .bool value => some (some (if value then 1 else 0))
  | .num value => some (some value)
  | .obj keys _ => if "toString" ∈ keys then none else some none
  | other => (toText conversions other).map conversions.stringToNumber

@[simp] theorem lookup_nil (json : Json) : json.lookup [] = .found json := by
  cases json <;> rfl

@[simp] theorem lookup_obj (keys : List String) (value : String → Json) (key : String)
    (rest : Path) : (Json.obj keys value).lookup (key :: rest) =
      if key ∈ keys then (value key).lookup rest else .absent := rfl

variable {json : Json} {path : Path}

theorem lookup_blocked (notObject : json.isObject = false) (nonempty : path ≠ []) :
    json.lookup path = .blocked := by
  cases path with
  | nil => exact (nonempty rfl).elim
  | cons key rest => cases json <;> simp_all [isObject, lookup]

theorem lookup_cons (isObject : json.isObject = true) (key : String) (rest : Path) :
    json.lookup (key :: rest) = match json.property key with
      | some value => value.lookup rest
      | none => .absent := by
  cases json with
  | obj keys value =>
    by_cases inKeys : key ∈ keys
    · simp [property, inKeys]
    · simp [property, inKeys]
  | _ => simp [Json.isObject] at isObject

theorem obj_of_isObject (isObject : json.isObject = true) :
    ∃ keys value, json = .obj keys value := by
  cases json with
  | obj keys value => exact ⟨keys, value, rfl⟩
  | _ => simp [Json.isObject] at isObject

theorem isObject_of_found {found : Json} (isFound : json.lookup path = .found found)
    (isObject : found.isObject = true) : json.isObject = true := by
  cases path with
  | nil =>
    simp only [lookup_nil, Lookup.found.injEq] at isFound
    rwa [isFound]
  | cons key rest =>
    by_contra notObject
    rw [lookup_blocked (by simpa using notObject) (by simp)] at isFound
    cases isFound

theorem found_cons {found : Json} {key : String} {rest : Path}
    (isFound : json.lookup (key :: rest) = .found found) :
    ∃ keys value, json = .obj keys value ∧ key ∈ keys ∧ (value key).lookup rest = .found found := by
  cases json with
  | obj keys value =>
    by_cases inKeys : key ∈ keys
    · exact ⟨keys, value, rfl, inKeys, by simpa [inKeys] using isFound⟩
    · simp [inKeys] at isFound
  | _ => simp [lookup] at isFound

theorem lookup_append (json : Json) (first second : Path) :
    json.lookup (first ++ second) = match json.lookup first with
      | .found value => value.lookup second
      | .absent => .absent
      | .blocked => .blocked := by
  induction first generalizing json with
  | nil => simp
  | cons key rest ih =>
    cases json with
    | obj keys value =>
      by_cases member : key ∈ keys
      · simp [member, ih]
      · simp [member]
    | _ => simp [lookup]

theorem found_of_append {found : Json} {first second : Path}
    (isFound : json.lookup (first ++ second) = .found found) :
    ∃ above, json.lookup first = .found above ∧ above.lookup second = .found found := by
  rw [lookup_append] at isFound
  cases above : json.lookup first with
  | found value => exact ⟨value, rfl, by simpa [above] using isFound⟩
  | absent | blocked => simp [above] at isFound

theorem leaf_of_blocked (isBlocked : json.lookup path = .blocked) :
    ∃ above leaf, above <+: path ∧ json.lookup above = .found leaf ∧ leaf.isObject = false := by
  induction path generalizing json with
  | nil => simp at isBlocked
  | cons key rest ih =>
    cases isObject : json.isObject with
    | false => exact ⟨[], json, List.nil_prefix, lookup_nil json, isObject⟩
    | true =>
      obtain ⟨keys, value, rfl⟩ := obj_of_isObject isObject
      by_cases inKeys : key ∈ keys
      · obtain ⟨above, leaf, isPrefix, isFound, isLeaf⟩ :=
          @ih (value key) (by simpa [inKeys] using isBlocked)
        exact ⟨key :: above, leaf, List.cons_prefix_cons.mpr ⟨rfl, isPrefix⟩,
          by simpa [inKeys] using isFound, isLeaf⟩
      · simp [inKeys] at isBlocked

def apart : Path → Path → Bool
  | first :: firstRest, second :: secondRest => first != second || apart firstRest secondRest
  | _, _ => false

theorem apart_symm (first second : Path) : apart first second = apart second first := by
  induction first generalizing second with
  | nil => cases second <;> rfl
  | cons key rest ih =>
    cases second with
    | nil => rfl
    | cons other otherRest => simp [apart, ih, bne_comm]

def branch (key : String) : Path → Option Path
  | first :: rest => if first = key then some rest else none
  | [] => none

/-- Whether no path leads through the end of another, key by key. -/
def separate : Nat → List Path → Bool
  | 0, paths => decide (paths.length ≤ 1)
  | depth + 1, paths =>
    decide (paths.length ≤ 1) || (!paths.contains [] &&
      (paths.filterMap List.head?).dedup.all fun key =>
        separate depth (paths.filterMap (branch key)))

theorem pairwise_of_short {paths : List Path} (short : paths.length ≤ 1) :
    paths.Pairwise fun first second => apart first second = true := by
  match paths, short with
  | [], _ => exact List.Pairwise.nil
  | [_], _ => exact List.pairwise_singleton _ _

theorem pairwise_of_separate {depth : Nat} {paths : List Path}
    (separated : separate depth paths = true) :
    paths.Pairwise fun first second => apart first second = true := by
  induction depth generalizing paths with
  | zero => exact pairwise_of_short (of_decide_eq_true separated)
  | succ depth ih =>
    simp only [separate, Bool.or_eq_true, decide_eq_true_eq, Bool.and_eq_true,
      Bool.not_eq_true', List.all_eq_true, List.mem_dedup, List.mem_filterMap] at separated
    rcases separated with short | ⟨nonempty, branches⟩
    · exact pairwise_of_short short
    · rw [List.pairwise_iff_forall_sublist]
      intro first second both
      have firstMember : first ∈ paths := both.subset (by simp)
      have secondMember : second ∈ paths := both.subset (by simp)
      cases first with
      | nil => simp_all
      | cons key rest =>
        cases second with
        | nil => simp_all
        | cons other otherRest =>
          by_cases same : key = other
          · subst same
            have inBranch := both.filterMap (branch key)
            simp only [branch, List.filterMap_cons, List.filterMap_nil, if_true] at inBranch
            have deeper := List.pairwise_iff_forall_sublist.mp
              (ih (branches key ⟨_, firstMember, rfl⟩)) inBranch
            simpa [apart] using deeper
          · simp [apart, same]

theorem lookup_write_self (new json : Json) (path : Path) (isOpen : json.lookup path ≠ .blocked) :
    (write new path json).lookup path = .found new := by
  induction path generalizing json with
  | nil => simp [write]
  | cons key rest ih =>
    cases json with
    | obj keys value =>
      have present : key ∈ (if key ∈ keys then keys else keys ++ [key]) := by
        split <;> simp_all
      simp only [write, lookup_obj, present, if_true]
      apply ih
      by_cases member : key ∈ keys
      · simp only [lookup_obj, member, if_true] at isOpen
        by_cases reference : isReference (value key)
        · simpa [member, reference] using isOpen
        · cases rest with
          | nil => simp
          | cons next others =>
            have blocked : (value key).lookup (next :: others) = .blocked :=
              lookup_blocked (by cases h : value key <;> simp_all [isReference, isObject])
                (by simp)
            exact (isOpen blocked).elim
      · cases rest <;> simp [member]
    | _ => simp [lookup] at isOpen

theorem lookup_write_apart (new json : Json) {written : Path}
    (separate : apart written path = true) (isOpen : json.lookup path ≠ .blocked) :
    (write new written json).lookup path = json.lookup path := by
  induction written generalizing json path with
  | nil => simp [apart] at separate
  | cons key rest ih =>
    cases path with
    | nil => simp [apart] at separate
    | cons other otherRest =>
      cases json with
      | obj keys value =>
        simp only [write, lookup_obj]
        by_cases same : other = key
        · subst same
          simp only [apart, bne_self_eq_false, Bool.false_or] at separate
          have nonempty : otherRest ≠ [] := by
            rintro rfl
            cases rest <;> simp [apart] at separate
          have present : other ∈ (if other ∈ keys then keys else keys ++ [other]) := by
            split <;> simp_all
          simp only [present, if_true]
          by_cases member : other ∈ keys
          · simp only [lookup_obj, member, if_true] at isOpen ⊢
            by_cases reference : isReference (value other)
            · simp only [reference, and_self, if_true]
              exact ih (value other) separate isOpen
            · have blocked : (value other).lookup otherRest = .blocked :=
                lookup_blocked (by cases h : value other <;> simp_all [isReference, isObject])
                  nonempty
              exact (isOpen blocked).elim
          · obtain ⟨next, others, rfl⟩ := List.exists_cons_of_ne_nil nonempty
            simp only [member, false_and, if_false]
            rw [ih (.obj [] value) separate (by simp)]
            simp
        · have unchanged : other ∈ (if key ∈ keys then keys else keys ++ [key]) ↔
              other ∈ keys := by
            split <;> simp [same]
          simp only [unchanged, same, if_false]
      | _ => simp [lookup] at isOpen

theorem found_of_write {new leaf : Json} {written : Path}
    (found : (write new written json).lookup path = .found leaf) (isLeaf : leaf.isObject = false) :
    written <+: path ∨ json.lookup path = .found leaf := by
  induction written generalizing json path with
  | nil => exact Or.inl List.nil_prefix
  | cons key rest ih =>
    cases json with
    | obj keys value =>
      cases path with
      | nil =>
        simp only [write, lookup_nil, Lookup.found.injEq] at found
        subst found
        simp [isObject] at isLeaf
      | cons other otherRest =>
        by_cases same : other = key
        · subst same
          have present : other ∈ (if other ∈ keys then keys else keys ++ [other]) := by
            split <;> simp_all
          simp only [write, lookup_obj, present, if_true] at found
          rcases ih found with below | before
          · exact Or.inl (List.cons_prefix_cons.mpr ⟨rfl, below⟩)
          · right
            by_cases kept : other ∈ keys ∧ isReference (value other) = true
            · simpa [kept] using before
            · simp only [kept, if_false] at before
              cases otherRest with
              | nil =>
                simp only [lookup_nil, Lookup.found.injEq] at before
                subst before
                simp [isObject] at isLeaf
              | cons next others => simp at before
        · right
          have unchanged : other ∈ (if key ∈ keys then keys else keys ++ [key]) ↔
              other ∈ keys := by
            split <;> simp [same]
          simpa [write, unchanged, same] using found
    | _ => exact Or.inr found

theorem reached_of_write {new found : Json} {written : Path}
    (isFound : (write new written json).lookup path = .found found) :
    written <+: path ∨ path <+: written ∨ ∃ before, json.lookup path = .found before := by
  induction written generalizing json path with
  | nil => exact .inl List.nil_prefix
  | cons key rest ih =>
    cases path with
    | nil => exact .inr (.inl List.nil_prefix)
    | cons other otherRest =>
      cases json with
      | obj keys value =>
        by_cases same : other = key
        · subst same
          have present : other ∈ (if other ∈ keys then keys else keys ++ [other]) := by
            split <;> simp_all
          simp only [write, lookup_obj, present, if_true] at isFound
          rcases ih isFound with below | above | ⟨before, isBefore⟩
          · exact .inl (List.cons_prefix_cons.mpr ⟨rfl, below⟩)
          · exact .inr (.inl (List.cons_prefix_cons.mpr ⟨rfl, above⟩))
          · by_cases kept : other ∈ keys ∧ isReference (value other) = true
            · exact .inr (.inr ⟨before, by simpa [kept] using isBefore⟩)
            · simp only [kept, if_false] at isBefore
              cases otherRest with
              | nil => exact .inr (.inl (List.cons_prefix_cons.mpr ⟨rfl, List.nil_prefix⟩))
              | cons next others => simp at isBefore
        · have unchanged : other ∈ (if key ∈ keys then keys else keys ++ [key]) ↔
              other ∈ keys := by
            split <;> simp [same]
          exact .inr (.inr ⟨found, by simpa [write, unchanged, same] using isFound⟩)
      | _ => exact .inr (.inr ⟨found, isFound⟩)

theorem property_write_isSome {new : Json} {key : String} {rest : Path}
    (present : (json.property key).isSome) (name : String) :
    ((write new (key :: rest) json).property name).isSome = (json.property name).isSome := by
  cases json with
  | obj keys value =>
    have member : key ∈ keys := by
      by_contra missing
      simp [property, missing] at present
    by_cases named : name ∈ keys <;> simp [write, property, member, named]
  | _ => rfl

theorem isObject_spread (json : Json) : json.spread.isObject = true := by
  cases json <;> rfl

theorem isObject_write (new json : Json) (key : String) (rest : Path) :
    (write new (key :: rest) json).isObject = json.isObject := by
  cases json <;> rfl

theorem property_write_self (isObject : json.isObject = true) (new : Json) (key : String) :
    (write new [key] json).property key = some new := by
  cases json with
  | obj keys value => by_cases member : key ∈ keys <;> simp [write, property, member]
  | _ => simp [Json.isObject] at isObject

theorem property_write_other (json new : Json) {key name : String} (different : name ≠ key) :
    (write new [key] json).property name = json.property name := by
  cases json with
  | obj keys value =>
    by_cases member : key ∈ keys <;> simp [write, property, member, different]
  | _ => rfl

theorem isObject_keep (test : String → Json → Bool) (json : Json) :
    (keep test json).isObject = json.isObject := by
  cases json <;> rfl

theorem spread_of_isObject (isObject : json.isObject = true) : json.spread = json := by
  cases json <;> first | rfl | simp [Json.isObject] at isObject

theorem property_isSome_of_found {leaf : Json} {key : String} {rest : Path}
    (found : json.lookup (key :: rest) = .found leaf) : (json.property key).isSome := by
  cases json with
  | obj keys value =>
    by_cases member : key ∈ keys
    · simp [property, member]
    · simp [member] at found
  | _ => simp [lookup] at found

theorem lookup_remove_apart (json : Json) {removed : Path} (separate : apart removed path = true) :
    (remove removed json).lookup path = json.lookup path := by
  induction removed generalizing json path with
  | nil => simp [apart] at separate
  | cons key rest ih =>
    cases path with
    | nil => simp [apart] at separate
    | cons other otherRest =>
      cases json with
      | obj keys value =>
        by_cases same : other = key
        · subst same
          simp only [apart, bne_self_eq_false, Bool.false_or] at separate
          cases rest with
          | nil => simp [apart] at separate
          | cons next others => simp [remove, ih (value other) separate]
        · cases rest <;> simp [remove, same]
      | _ => cases rest <;> rfl

theorem property_remove_isSome (json : Json) (name key next : String) (rest : Path) :
    ((remove (key :: next :: rest) json).property name).isSome = (json.property name).isSome := by
  cases json with
  | obj keys value => by_cases named : name ∈ keys <;> simp [remove, property, named]
  | _ => rfl

theorem clone_clone (json : Json) : json.clone.clone = json.clone := by
  induction json with
  | num value => cases value <;> rfl
  | arr length item ih => simp only [clone, ih]
  | obj keys value ih => simp only [clone, ih]
  | _ => rfl

@[simp] theorem clone_object (entries : List (String × Json)) :
    (object entries).clone = object (entries.map fun entry => (entry.1, entry.2.clone)) := by
  simp only [object, clone, List.map_map, Function.comp_def, obj.injEq, true_and]
  funext key
  induction entries with
  | nil => rfl
  | cons entry rest ih =>
    obtain ⟨name, value⟩ := entry
    by_cases same : key = name
    · simp [same]
    · simpa [List.lookup_cons, beq_eq_false_iff_ne.mpr same] using ih

@[simp] theorem clone_array (items : List Json) :
    (array items).clone = array (items.map clone) := by
  simp only [array, clone, List.length_map, arr.injEq, true_and]
  funext index
  by_cases inside : index < items.length
  · simp [inside]
  · simp [inside, clone]

@[simp] theorem clone_str (text : String) : (str text).clone = str text := rfl

theorem property_clone_isSome (json : Json) (name : String) :
    (json.clone.property name).isSome = (json.property name).isSome := by
  cases json with
  | num value => cases value <;> rfl
  | obj keys value => by_cases named : name ∈ keys <;> simp [clone, property, named]
  | _ => rfl

theorem lookup_clone (json : Json) (path : Path) :
    json.clone.lookup path = (json.lookup path).map clone := by
  induction path generalizing json with
  | nil => simp [Lookup.map]
  | cons key rest ih =>
    cases json with
    | obj keys value =>
      simp only [clone, lookup_obj]
      split
      · exact ih (value key)
      · rfl
    | num value => cases value <;> rfl
    | _ => rfl

def outline : Json → Json
  | .obj _ _ => .obj [] fun _ => .null
  | other => other

def SameContent (first second : Json) : Prop :=
  ∀ path, (first.lookup path).map outline = (second.lookup path).map outline

def shallow : Json → Json
  | .obj keys _ => .obj keys fun _ => .null
  | other => other

def held (json : Json) (path : Path) : Lookup := (json.lookup path).map shallow

theorem held_found_iff {leaf : Json} (isLeaf : leaf.isObject = false) :
    json.held path = .found leaf ↔ json.lookup path = .found leaf := by
  simp only [held]
  cases json.lookup path with
  | found value =>
    cases value with
    | obj keys value =>
      cases leaf with
      | obj leafKeys leafValue => simp [isObject] at isLeaf
      | _ => simp [Lookup.map, shallow]
    | _ => simp [Lookup.map, shallow]
  | _ => simp [Lookup.map]

theorem held_write_other {old new : Json} {written : Path}
    (present : json.lookup written = .found old) (oldLeaf : old.isObject = false)
    (newLeaf : new.isObject = false) (different : path ≠ written) :
    (write new written json).held path = json.held path := by
  induction written generalizing json path with
  | nil =>
    simp only [lookup_nil, Lookup.found.injEq] at present
    subst present
    simp only [held, write, lookup_blocked oldLeaf different, lookup_blocked newLeaf different]
  | cons key rest ih =>
    cases json with
    | obj keys value =>
      have member : key ∈ keys := by
        by_contra missing
        simp [missing] at present
      simp only [lookup_obj, member, if_true] at present
      cases path with
      | nil => simp [held, write, member, Lookup.map, shallow]
      | cons other otherRest =>
        by_cases same : other = key
        · subst same
          have deeper : otherRest ≠ rest := fun eq => different (by rw [eq])
          simp only [held, write, lookup_obj, member, if_true, true_and] at ih ⊢
          by_cases reference : isReference (value other) = true
          · simp only [reference, if_true]
            exact ih present deeper
          · have atEnd : rest = [] := by
              by_contra further
              have blocked : (value other).lookup rest = .blocked :=
                lookup_blocked
                  (by cases shape : value other <;> simp_all [isReference, isObject]) further
              simp [blocked] at present
            subst atEnd
            simp only [lookup_nil, Lookup.found.injEq] at present
            rw [present]
            simp only [write, lookup_blocked oldLeaf deeper, lookup_blocked newLeaf deeper]
        · simp [held, write, member, same]
    | _ => simp [lookup] at present

theorem clone_write (new json : Json) (path : Path) :
    (write new path json).clone = write new.clone path json.clone := by
  induction path generalizing json with
  | nil => rfl
  | cons key rest ih =>
    cases json with
    | num value => cases value <;> rfl
    | obj keys value =>
      have sameKind (json : Json) : json.clone.isReference = json.isReference := by
        cases json with
        | num value => cases value <;> rfl
        | _ => rfl
      simp only [write, clone, obj.injEq, true_and]
      funext name
      by_cases here : name = key
      · simp only [here, if_true, ih, sameKind]
        split <;> rfl
      · simp only [here, if_false]
    | _ => rfl

section Entries

variable {Item : Type*} (items : String → Json → List Item)

def collect (json : Json) : List Item := json.entries.flatMap fun entry => items entry.1 entry.2

theorem collect_obj (keys : List String) (value : String → Json) :
    collect items (.obj keys value) = keys.dedup.flatMap fun key => items key (value key) := by
  simp [collect, entries, List.flatMap_map]

variable {keys : List String} {value : String → Json}

theorem mem_collect {items : String → Json → List Item} {item : Item} :
    item ∈ collect items (.obj keys value) ↔ ∃ key ∈ keys, item ∈ items key (value key) := by
  simp [collect_obj]

theorem filter_collect (test : Item → Bool) (json : Json) :
    (collect items json).filter test =
      collect (fun key value => (items key value).filter test) json := by
  simp [collect, List.filter_flatMap]

theorem dedup_append_new {key : String} (missing : key ∉ keys) :
    (keys ++ [key]).dedup = keys.dedup ++ [key] := by
  induction keys with
  | nil => simp
  | cons first rest ih =>
    have absent : key ∉ rest := fun member => missing (List.mem_cons_of_mem _ member)
    have different : first ≠ key := fun same => missing (same ▸ List.mem_cons_self)
    rw [List.cons_append]
    by_cases repeated : first ∈ rest
    · rw [List.dedup_cons_of_mem (List.mem_append_left _ repeated), ih absent,
        List.dedup_cons_of_mem repeated]
    · rw [List.dedup_cons_of_notMem (by simp [repeated, different]), ih absent,
        List.dedup_cons_of_notMem repeated, List.cons_append]

theorem dedup_filter (test : String → Bool) (keys : List String) :
    (keys.filter test).dedup = keys.dedup.filter test := by
  induction keys with
  | nil => rfl
  | cons first rest ih =>
    by_cases passes : test first = true
    · by_cases repeated : first ∈ rest
      · rw [List.filter_cons_of_pos passes, List.dedup_cons_of_mem repeated, ← ih,
          List.dedup_cons_of_mem (List.mem_filter.mpr ⟨repeated, passes⟩)]
      · rw [List.filter_cons_of_pos passes, List.dedup_cons_of_notMem repeated,
          List.filter_cons_of_pos passes, ← ih, List.dedup_cons_of_notMem (by simp [repeated])]
    · rw [List.filter_cons_of_neg passes, ih]
      by_cases repeated : first ∈ rest
      · rw [List.dedup_cons_of_mem repeated]
      · rw [List.dedup_cons_of_notMem repeated, List.filter_cons_of_neg passes]

theorem collect_congr {items other : String → Json → List Item} {otherValue : String → Json}
    (same : ∀ key ∈ keys, items key (value key) = other key (otherValue key)) :
    collect items (.obj keys value) = collect other (.obj keys otherValue) := by
  rw [collect_obj, collect_obj]
  simp only [List.flatMap_def]
  congr 1
  apply List.map_congr_left
  intro key member
  exact same key (List.mem_dedup.mp member)

theorem collect_write {items : String → Json → List Item} {new : Json} {key : String}
    (same : items key new = if key ∈ keys then items key (value key) else []) :
    collect items (write new [key] (.obj keys value)) = collect items (.obj keys value) := by
  by_cases present : key ∈ keys
  · simp only [write, if_pos present]
    apply collect_congr
    intro name _
    by_cases here : name = key
    · simp only [here, if_true]
      rw [same, if_pos present]
    · simp only [here, if_false]
  · rw [collect_obj]
    simp only [write, if_neg present, collect_obj, dedup_append_new present, List.flatMap_append,
      List.flatMap_cons, List.flatMap_nil, if_true, same, List.append_nil]
    simp only [List.flatMap_def]
    congr 1
    apply List.map_congr_left
    intro name member
    have different : name ≠ key := fun here => present (here ▸ List.mem_dedup.mp member)
    simp only [different, if_false]

theorem flatMap_single (distinct : keys.Nodup) {key : String} (member : key ∈ keys)
    {found : String → List Item} (others : ∀ name ∈ keys, name ≠ key → found name = []) :
    keys.flatMap found = found key := by
  obtain ⟨before, after, rfl⟩ := List.append_of_mem member
  simp only [List.nodup_append, List.nodup_cons, List.mem_cons] at distinct
  have noneBefore : before.flatMap found = [] := by
    rw [List.flatMap_eq_nil_iff]
    intro name isBefore
    exact others name (List.mem_append_left _ isBefore)
      (distinct.2.2 name isBefore key (Or.inl rfl))
  have noneAfter : after.flatMap found = [] := by
    rw [List.flatMap_eq_nil_iff]
    intro name isAfter
    refine others name (by simp [isAfter]) ?_
    rintro rfl
    exact distinct.2.1.1 isAfter
  simp [noneBefore, noneAfter]

theorem collect_write_only {items : String → Json → List Item} (new : Json) {key : String}
    (others : ∀ name ∈ keys, name ≠ key → items name (value name) = []) :
    collect items (write new [key] (.obj keys value)) = items key new := by
  have present : key ∈ (if key ∈ keys then keys else keys ++ [key]).dedup := by
    rw [List.mem_dedup]
    split <;> simp_all
  simp only [write, collect_obj]
  rw [flatMap_single (List.nodup_dedup _) present]
  · simp
  · intro name member different
    rw [List.mem_dedup] at member
    have old : name ∈ keys := by
      split at member
      · exact member
      · simpa [different] using member
    simp only [different, if_false]
    exact others name old different

theorem collect_keep {items : String → Json → List Item} {test : String → Json → Bool}
    {json : Json}
    (dropped : ∀ key value, test key value = false → items key value = []) :
    collect items (keep test json) = collect items json := by
  cases json with
  | obj keys value =>
    simp only [keep, collect_obj, dedup_filter]
    induction keys.dedup with
    | nil => rfl
    | cons key rest ih =>
      cases passes : test key (value key) with
      | true => simp [passes, ih]
      | false => simp [passes, ih, dropped key (value key) passes]
  | _ => rfl

end Entries

end Json
