import Mathlib.Data.List.Nodup

/-!
Maps that list their keys in the order in which they were first set. Setting a key that is
there keeps its place.
-/

structure InsertionMap (Key Value : Type*) where
  entries : List (Key × Value)
  distinct : (entries.map Prod.fst).Nodup

namespace InsertionMap

variable {Key Value : Type*}

def empty : InsertionMap Key Value := ⟨[], List.nodup_nil⟩

def keys (map : InsertionMap Key Value) : List Key := map.entries.map Prod.fst

def size (map : InsertionMap Key Value) : Nat := map.entries.length

def filter (keep : Key → Value → Bool) (map : InsertionMap Key Value) :
    InsertionMap Key Value where
  entries := map.entries.filter fun entry => keep entry.1 entry.2
  distinct := (List.filter_sublist.map Prod.fst).nodup map.distinct

@[simp] theorem size_empty : (empty : InsertionMap Key Value).size = 0 := rfl

theorem size_filter_le (keep : Key → Value → Bool) (map : InsertionMap Key Value) :
    (map.filter keep).size ≤ map.size := List.length_filter_le _ _

variable [DecidableEq Key]

def get (key : Key) (map : InsertionMap Key Value) : Option Value :=
  (map.entries.find? fun entry => entry.1 = key).map Prod.snd

def replaceEntry (key : Key) (value : Value) (entry : Key × Value) : Key × Value :=
  if entry.1 = key then (key, value) else entry

theorem replaceEntry_fst (key : Key) (value : Value) (entry : Key × Value) :
    (replaceEntry key value entry).1 = entry.1 := by
  rw [replaceEntry]
  split
  next same => exact same.symm
  next => rfl

theorem map_replaceEntry_fst (key : Key) (value : Value) (entries : List (Key × Value)) :
    (entries.map (replaceEntry key value)).map Prod.fst = entries.map Prod.fst := by
  rw [List.map_map]
  exact List.map_congr_left fun entry _ => replaceEntry_fst key value entry

def set (key : Key) (value : Value) (map : InsertionMap Key Value) : InsertionMap Key Value :=
  if present : key ∈ map.keys then
    { entries := map.entries.map (replaceEntry key value)
      distinct := by
        rw [map_replaceEntry_fst]
        exact map.distinct }
  else
    { entries := map.entries ++ [(key, value)]
      distinct := by
        rw [List.map_append]
        refine List.nodup_append.mpr ⟨map.distinct, List.nodup_singleton _, ?_⟩
        rintro earlier member last isLast rfl
        rw [List.mem_singleton.mp isLast] at member
        exact present member }

def delete (key : Key) (map : InsertionMap Key Value) : InsertionMap Key Value :=
  map.filter fun other _ => other ≠ key

variable {key : Key} {value : Value} {map : InsertionMap Key Value}

theorem get_eq_some_iff : map.get key = some value ↔ (key, value) ∈ map.entries := by
  constructor
  · intro found
    obtain ⟨entry, isFound, isValue⟩ := Option.map_eq_some_iff.mp found
    have isKey : entry.1 = key := by simpa using List.find?_some isFound
    rw [← isKey, ← isValue]
    exact List.mem_of_find?_eq_some isFound
  · intro member
    cases isFound : map.entries.find? (fun entry => entry.1 = key) with
    | none =>
      have absent := List.find?_eq_none.mp isFound (key, value) member
      simp at absent
    | some entry =>
      have isKey : entry.1 = key := by simpa using List.find?_some isFound
      have same := List.inj_on_of_nodup_map map.distinct
        (List.mem_of_find?_eq_some isFound) member isKey
      rw [get, isFound, same]
      rfl

theorem mem_keys_iff : key ∈ map.keys ↔ ∃ value, map.get key = some value := by
  simp only [get_eq_some_iff, keys, List.mem_map, Prod.exists, exists_and_right, exists_eq_right]

theorem get_eq_none_iff : map.get key = none ↔ key ∉ map.keys := by
  rw [mem_keys_iff, Option.eq_none_iff_forall_ne_some, not_exists]

@[simp] theorem get_empty (key : Key) : (empty : InsertionMap Key Value).get key = none := rfl

theorem get_filter_eq_some_iff {keep : Key → Value → Bool} :
    (map.filter keep).get key = some value ↔
      map.get key = some value ∧ keep key value = true := by
  simp only [get_eq_some_iff, filter, List.mem_filter]

theorem get_filter (keep : Key → Value → Bool) (key : Key) (map : InsertionMap Key Value) :
    (map.filter keep).get key = (map.get key).filter (keep key) := by
  apply Option.ext
  intro value
  rw [get_filter_eq_some_iff, Option.filter_eq_some_iff]

theorem get_delete_eq_some_iff {deleted : Key} :
    (map.delete deleted).get key = some value ↔ key ≠ deleted ∧ map.get key = some value := by
  rw [delete, get_filter_eq_some_iff, decide_eq_true_eq, and_comm]

theorem get_delete (deleted key : Key) (map : InsertionMap Key Value) :
    (map.delete deleted).get key = if key = deleted then none else map.get key := by
  apply Option.ext
  intro value
  rw [get_delete_eq_some_iff]
  split
  next same => simp [same]
  next different => simp [different]

@[simp] theorem mem_keys_delete {deleted : Key} :
    key ∈ (map.delete deleted).keys ↔ key ≠ deleted ∧ key ∈ map.keys := by
  simp only [mem_keys_iff, get_delete_eq_some_iff, exists_and_left]

theorem size_delete_le (key : Key) (map : InsertionMap Key Value) :
    (map.delete key).size ≤ map.size := size_filter_le _ map

theorem size_delete_lt (present : key ∈ map.keys) : (map.delete key).size < map.size := by
  obtain ⟨entry, member, isKey⟩ := List.mem_map.mp present
  refine List.length_filter_lt_length_iff_exists.mpr ⟨entry, member, ?_⟩
  simp [isKey]

@[simp] theorem mem_keys_set {added : Key} :
    key ∈ (map.set added value).keys ↔ key = added ∨ key ∈ map.keys := by
  rw [set]
  split
  next present =>
    simp only [keys, map_replaceEntry_fst]
    constructor
    · exact Or.inr
    · rintro (rfl | member)
      · exact present
      · exact member
  next absent => simp [keys, or_comm]

theorem mem_entries_set {added : Key} {held : Value} :
    (key, held) ∈ (map.set added value).entries ↔
      (key = added ∧ held = value) ∨ (key ≠ added ∧ (key, held) ∈ map.entries) := by
  rw [set]
  split
  next present =>
    simp only [List.mem_map]
    constructor
    · rintro ⟨entry, member, replaced⟩
      rw [replaceEntry] at replaced
      split at replaced
      · exact .inl ⟨congrArg Prod.fst replaced.symm, congrArg Prod.snd replaced.symm⟩
      next different =>
        subst replaced
        exact .inr ⟨different, member⟩
    · rintro (⟨rfl, rfl⟩ | ⟨different, member⟩)
      · obtain ⟨earlier, isHeld⟩ := mem_keys_iff.mp present
        exact ⟨_, get_eq_some_iff.mp isHeld, if_pos rfl⟩
      · exact ⟨_, member, if_neg different⟩
  next absent =>
    simp only [List.mem_append, List.mem_singleton, Prod.mk.injEq]
    constructor
    · rintro (member | isNew)
      · refine .inr ⟨?_, member⟩
        rintro rfl
        exact absent (List.mem_map_of_mem member)
      · exact .inl isNew
    · rintro (isNew | ⟨_, member⟩)
      · exact .inr isNew
      · exact .inl member

@[simp] theorem get_set_self (key : Key) (value : Value) (map : InsertionMap Key Value) :
    (map.set key value).get key = some value :=
  get_eq_some_iff.mpr (mem_entries_set.mpr (.inl ⟨rfl, rfl⟩))

theorem get_set_of_ne {added : Key} (different : key ≠ added) (value : Value)
    (map : InsertionMap Key Value) : (map.set added value).get key = map.get key := by
  apply Option.ext
  intro held
  simp only [get_eq_some_iff, mem_entries_set, different, false_and, ne_eq, not_false_eq_true,
    true_and, false_or]

theorem get_set (added key : Key) (value : Value) (map : InsertionMap Key Value) :
    (map.set added value).get key = if key = added then some value else map.get key := by
  split
  next same => rw [same, get_set_self]
  next different => exact get_set_of_ne different value map

theorem size_set_of_mem (present : key ∈ map.keys) (value : Value) :
    (map.set key value).size = map.size := by
  rw [set, dif_pos present]
  exact List.length_map _

theorem size_set_of_notMem (absent : key ∉ map.keys) (value : Value) :
    (map.set key value).size = map.size + 1 := by
  rw [set, dif_neg absent]
  exact List.length_append

theorem size_set_le (key : Key) (value : Value) (map : InsertionMap Key Value) :
    (map.set key value).size ≤ map.size + 1 := by
  by_cases present : key ∈ map.keys
  · rw [size_set_of_mem present]
    exact Nat.le_succ _
  · exact Nat.le_of_eq (size_set_of_notMem present value)

theorem size_set_le_iff {bound : Nat} (value : Value) (bounded : map.size ≤ bound) :
    (map.set key value).size ≤ bound ↔ key ∈ map.keys ∨ map.size < bound := by
  by_cases present : key ∈ map.keys
  · simp only [size_set_of_mem present, bounded, present, true_or]
  · rw [size_set_of_notMem present]
    simp only [present, false_or]
    omega

end InsertionMap
