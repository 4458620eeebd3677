import Mathlib.Data.List.MinMax
import ParakoId.Library.Tables

/-! Versions of a configuration. -/

namespace ParakoId.SettingsVersions

structure VersionRow (Content : Type) where
  id : Nat
  key : String
  int_version : Int
  is_active : Bool
  value : Content
  deriving DecidableEq

variable {Content : Type}

def VersionRow.retired (row : VersionRow Content) : VersionRow Content :=
  { row with is_active := false }

@[ext]
structure VersionTable (Content : Type) where
  rows : List (VersionRow Content)
  created : Nat
  older : ∀ row ∈ rows, row.id < created
  distinct : rows.Pairwise fun first second => first.id ≠ second.id
  oneActive : Tables.UniqueOn VersionRow.is_active VersionRow.key rows

namespace VersionTable

def empty : VersionTable Content where
  rows := []
  created := 0
  older := by simp
  distinct := .nil
  oneActive := .nil

def ofKey (table : VersionTable Content) (key : String) : List (VersionRow Content) :=
  table.rows.filter fun row => row.key == key

def claimed (table : VersionTable Content) (key : String) (expectedVersion : Option Int) :
    List (VersionRow Content) :=
  table.rows.filter fun row =>
    row.key == key && row.is_active && expectedVersion.all (· == row.int_version)

def findActive (table : VersionTable Content) (key : String) :
    Option (VersionRow Content) :=
  table.rows.find? fun row => row.key == key && row.is_active

def latest (firstRow : Tables.FirstRow (VersionRow Content))
    (table : VersionTable Content) (key : String) : Option (VersionRow Content) :=
  firstRow.pick <| (table.ofKey key).filter fun row =>
    (table.ofKey key).all fun other => other.int_version ≤ row.int_version

def retireIf (matching : VersionRow Content → Bool) (row : VersionRow Content) :
    VersionRow Content :=
  if matching row then row.retired else row

section

variable (matching : VersionRow Content → Bool)
include matching

theorem retireIf_id (row : VersionRow Content) : (retireIf matching row).id = row.id := by
  rw [retireIf]
  split <;> rfl

theorem retireIf_key (row : VersionRow Content) : (retireIf matching row).key = row.key := by
  rw [retireIf]
  split <;> rfl

theorem retireIf_version (row : VersionRow Content) :
    (retireIf matching row).int_version = row.int_version := by
  rw [retireIf]
  split <;> rfl

theorem retireIf_retired (row : VersionRow Content) :
    (retireIf matching row).retired = row.retired := by
  rw [retireIf]
  split <;> rfl

end

def deactivate (table : VersionTable Content)
    (matching : VersionRow Content → Bool) : VersionTable Content where
  rows := Tables.updateMany matching VersionRow.retired table.rows
  created := table.created
  older := by
    intro row member
    obtain ⟨old, isOld, rfl⟩ := List.mem_map.mp member
    have same := retireIf_id matching old
    rw [retireIf] at same
    rw [same]
    exact table.older old isOld
  distinct := by
    refine List.pairwise_map.mpr (table.distinct.imp ?_)
    intro first second differ
    have same (row : VersionRow Content) := retireIf_id matching row
    simp only [retireIf] at same
    rw [same, same]
    exact differ
  oneActive := table.oneActive.updateMany (fun _ => rfl) fun _ _ isActive => by cases isActive

/-- The unique index lets a row be added as active only where none of its key is. -/
def create? (table : VersionTable Content) (key : String) (int_version : Int)
    (value : Content) : Option (VersionTable Content) :=
  if free : table.findActive key = none then
    some
      { rows := table.rows ++ [⟨table.created, key, int_version, true, value⟩]
        created := table.created + 1
        older := by
          intro row member
          rcases List.mem_append.mp member with old | new
          · exact Nat.lt_succ_of_lt (table.older row old)
          · rw [List.mem_singleton.mp new]
            exact Nat.lt_succ_self _
        distinct := by
          refine List.pairwise_append.mpr ⟨table.distinct, List.pairwise_singleton _ _, ?_⟩
          intro row old added new
          rw [List.mem_singleton.mp new]
          exact Nat.ne_of_lt (table.older row old)
        oneActive := by
          refine Tables.UniqueOn.append_iff.mpr
            ⟨table.oneActive, List.pairwise_singleton _ _, ?_⟩
          intro row old added new isActive _ same
          rw [List.mem_singleton.mp new] at same
          have unmatched := List.find?_eq_none.mp free row old
          simp [isActive, same] at unmatched }
  else none

def delete (table : VersionTable Content) (id : Nat) : VersionTable Content where
  rows := table.rows.filter fun row => row.id ≠ id
  created := table.created
  older row member := table.older row (List.mem_of_mem_filter member)
  distinct := table.distinct.filter _
  oneActive := List.Pairwise.filter _ table.oneActive

variable {table : VersionTable Content} {key : String}

variable {row : VersionRow Content}

theorem mem_ofKey : row ∈ table.ofKey key ↔ row ∈ table.rows ∧ row.key = key := by
  simp [ofKey]

theorem mem_claimed {expectedVersion : Option Int} :
    row ∈ table.claimed key expectedVersion ↔
      row ∈ table.rows ∧ row.key = key ∧ row.is_active = true ∧
        ∀ expected, expectedVersion = some expected → expected = row.int_version := by
  cases expectedVersion <;> simp [claimed, and_assoc]

theorem findActive_some (isFound : table.findActive key = some row) :
    row ∈ table.rows ∧ row.key = key ∧ row.is_active = true := by
  have found := List.find?_some isFound
  simp only [Bool.and_eq_true, beq_iff_eq] at found
  exact ⟨List.mem_of_find?_eq_some isFound, found⟩

theorem findActive_none :
    table.findActive key = none ↔ ∀ row ∈ table.rows, row.key = key → row.is_active = false := by
  simp [findActive]

theorem active_eq {first second : VersionRow Content} (firstMem : first ∈ table.rows)
    (secondMem : second ∈ table.rows) (firstActive : first.is_active = true)
    (secondActive : second.is_active = true) (same : first.key = second.key) : first = second :=
  table.oneActive.eq_of_key_eq firstMem secondMem firstActive secondActive same

theorem eq_of_id {first second : VersionRow Content} (firstMem : first ∈ table.rows)
    (secondMem : second ∈ table.rows) (same : first.id = second.id) : first = second := by
  by_contra different
  have symmetric : Std.Symm fun first second : VersionRow Content => first.id ≠ second.id :=
    ⟨fun _ _ differ => differ.symm⟩
  exact List.Pairwise.forall table.distinct firstMem secondMem different same

theorem latest_some {firstRow : Tables.FirstRow (VersionRow Content)}
    (isLatest : latest firstRow table key = some row) :
    (row ∈ table.rows ∧ row.key = key) ∧
      ∀ other ∈ table.rows, other.key = key → other.int_version ≤ row.int_version := by
  obtain ⟨member, greatest⟩ := List.mem_filter.mp (firstRow.pick_mem _ _ isLatest)
  refine ⟨mem_ofKey.mp member, ?_⟩
  intro other otherMember same
  have bound := List.all_eq_true.mp greatest other (mem_ofKey.mpr ⟨otherMember, same⟩)
  exact of_decide_eq_true bound

theorem latest_none {firstRow : Tables.FirstRow (VersionRow Content)}
    (noLatest : latest firstRow table key = none) : ∀ row ∈ table.rows, row.key ≠ key := by
  intro row member same
  have isGreatest := firstRow.pick_none _ noLatest
  cases best : (table.ofKey key).argmax VersionRow.int_version with
  | none =>
    rw [List.argmax_eq_none] at best
    have listed := mem_ofKey.mpr ⟨member, same⟩
    rw [best] at listed
    cases listed
  | some greatest =>
    have listed : greatest ∈ (table.ofKey key).filter fun row =>
        (table.ofKey key).all fun other => other.int_version ≤ row.int_version := by
      refine List.mem_filter.mpr ⟨List.argmax_mem best, ?_⟩
      rw [List.all_eq_true]
      intro other otherMember
      exact decide_eq_true (List.le_of_mem_argmax otherMember best)
    rw [isGreatest] at listed
    cases listed

theorem mem_deactivate {matching : VersionRow Content → Bool} :
    row ∈ (table.deactivate matching).rows ↔ ∃ old ∈ table.rows, retireIf matching old = row :=
  List.mem_map

theorem deactivate_of_none {matching : VersionRow Content → Bool}
    (unmatched : ∀ row ∈ table.rows, matching row = false) :
    table.deactivate matching = table := by
  refine VersionTable.ext ?_ rfl
  refine (List.map_congr_left ?_).trans (List.map_id table.rows)
  intro row member
  rw [unmatched row member]
  rfl

theorem create?_some {int_version : Int} {value : Content} {next : VersionTable Content}
    (isCreated : table.create? key int_version value = some next) :
    table.findActive key = none ∧ next.created = table.created + 1 ∧
      next.rows = table.rows ++ [⟨table.created, key, int_version, true, value⟩] := by
  rw [create?] at isCreated
  split at isCreated
  · rename_i free
    obtain rfl := Option.some.inj isCreated
    exact ⟨free, rfl, rfl⟩
  · cases isCreated

theorem create?_none {int_version : Int} {value : Content}
    (isRejected : table.create? key int_version value = none) : table.findActive key ≠ none := by
  intro free
  rw [create?, dif_pos free] at isRejected
  cases isRejected

theorem mem_delete {id : Nat} : row ∈ (table.delete id).rows ↔ row ∈ table.rows ∧ row.id ≠ id := by
  simp [delete]

end VersionTable

end ParakoId.SettingsVersions
