import ParakoId.Library.Keyspace

/-!
An index over a keyspace whose entries expire: one key for each group lists the keys of its
records.
-/

structure ExpiringIndex (Key Value Group : Type*) where
  owner : Key → Value → Option Group
  indexKey : Group → Key
  members : Value → List Key
  unowned : ∀ group value, owner (indexKey group) value = none

namespace ExpiringIndex

variable {Key Value Group : Type*} (index : ExpiringIndex Key Value Group)

def Belongs (space : Keyspace Key Value) (group : Group) (key : Key)
    (entry : Keyspace.Entry Value) : Prop :=
  space.lookup key = some entry ∧ index.owner key entry.value = some group

def listed (space : Keyspace Key Value) (group : Group) : List Key :=
  ((space.lookup (index.indexKey group)).map fun list => index.members list.value).getD []

def Outlives (space : Keyspace Key Value) (group : Group) (entry : Keyspace.Entry Value) : Prop :=
  ∃ list, space.lookup (index.indexKey group) = some list ∧ entry.expiresAt ≤ list.expiresAt

def Indexed (space : Keyspace Key Value) : Prop :=
  ∀ group key entry, index.Belongs space group key entry →
    key ∈ index.listed space group ∧ index.Outlives space group entry

variable {space : Keyspace Key Value}

theorem belongs_of_wait {milliseconds : Nat} {group : Group} {key : Key}
    {entry : Keyspace.Entry Value}
    (belongs : index.Belongs (space.wait milliseconds) group key entry) :
    index.Belongs space group key entry :=
  ⟨Keyspace.lookup_of_wait belongs.1, belongs.2⟩

theorem indexed_empty (now : Nat) : index.Indexed (Keyspace.empty now) := by
  rintro group key entry ⟨found, _⟩
  simp [Keyspace.lookup, Keyspace.empty] at found

theorem lookup_index_wait {milliseconds : Nat} {group : Group} {key : Key}
    {entry list : Keyspace.Entry Value}
    (belongs : index.Belongs (space.wait milliseconds) group key entry)
    (isList : space.lookup (index.indexKey group) = some list)
    (outlives : entry.expiresAt ≤ list.expiresAt) :
    (space.wait milliseconds).lookup (index.indexKey group) = some list := by
  have live := Keyspace.live_of_lookup belongs.1
  rw [Keyspace.Entry.live_iff] at live
  rw [Keyspace.lookup_wait, Option.filter_eq_some_iff, Keyspace.Entry.live_iff]
  exact ⟨isList, live.trans outlives⟩

theorem indexed_wait (indexed : index.Indexed space) (milliseconds : Nat) :
    index.Indexed (space.wait milliseconds) := by
  intro group key entry belongs
  obtain ⟨isListed, list, isList, outlives⟩ :=
    indexed group key entry (index.belongs_of_wait belongs)
  have later := index.lookup_index_wait belongs isList outlives
  refine ⟨?_, list, later, outlives⟩
  simpa [listed, isList, later] using isListed

theorem indexed_of_frame {after : Keyspace Key Value} (indexed : index.Indexed space)
    (sameLists : ∀ group,
      after.lookup (index.indexKey group) = space.lookup (index.indexKey group))
    (shorter : ∀ group key entry, index.Belongs after group key entry →
      ∃ old, index.Belongs space group key old ∧ entry.expiresAt ≤ old.expiresAt) :
    index.Indexed after := by
  intro group key entry belongs
  obtain ⟨old, oldBelongs, atMost⟩ := shorter group key entry belongs
  obtain ⟨isListed, list, isList, outlives⟩ := indexed group key old oldBelongs
  refine ⟨?_, list, ?_, atMost.trans outlives⟩
  · simpa [listed, sameLists group] using isListed
  · rw [sameLists group, isList]

/-- A write of one record that also appends the record to the index of its group keeps the
invariant exactly where that index then outlives every record of the group. -/
theorem indexed_append_iff {after : Keyspace Key Value} (indexed : index.Indexed space)
    {group : Group} {key : Key}
    (others : ∀ name other entry, other ≠ key →
      (index.Belongs after name other entry ↔ index.Belongs space name other entry))
    (otherLists : ∀ name, name ≠ group →
      after.lookup (index.indexKey name) = space.lookup (index.indexKey name))
    (written : ∀ name entry, index.Belongs after name key entry → name = group)
    (appended : ∀ list, after.lookup (index.indexKey group) = some list →
      index.members list.value = index.listed space group ++ [key]) :
    index.Indexed after ↔
      (∀ other entry, other ≠ key → index.Belongs space group other entry →
          index.Outlives after group entry) ∧
        ∀ entry, index.Belongs after group key entry → index.Outlives after group entry := by
  constructor
  · intro indexedAfter
    constructor
    · intro other entry different belongs
      exact (indexedAfter group other entry ((others group other entry different).mpr belongs)).2
    · intro entry belongs
      exact (indexedAfter group key entry belongs).2
  · rintro ⟨ofOthers, ofKey⟩ name other entry belongs
    have isMember : ∀ list, after.lookup (index.indexKey group) = some list →
        index.listed after group = index.listed space group ++ [key] := by
      intro list isList
      rw [← appended list isList]
      simp [listed, isList]
    by_cases same : other = key
    · subst same
      obtain rfl := written name entry belongs
      obtain ⟨list, isList, outlives⟩ := ofKey entry belongs
      exact ⟨by simp [isMember list isList], list, isList, outlives⟩
    · have before := (others name other entry same).mp belongs
      obtain ⟨isListed, list, isList, outlives⟩ := indexed name other entry before
      by_cases here : name = group
      · subst here
        obtain ⟨list, isList, outlives⟩ := ofOthers other entry same before
        exact ⟨by simp [isMember list isList, isListed], list, isList, outlives⟩
      · refine ⟨?_, list, ?_, outlives⟩
        · simpa [listed, otherLists name here] using isListed
        · rw [otherLists name here, isList]

section Dropping

variable [DecidableEq Key]

def dropGroup (space : Keyspace Key Value) (group : Group) : Keyspace Key Value :=
  (space.delAll (index.listed space group)).del (index.indexKey group)

def Droppable (space : Keyspace Key Value) : Prop :=
  ∀ group key entry, ¬index.Belongs (index.dropGroup space group) group key entry

variable {space : Keyspace Key Value}

theorem belongs_dropGroup {group : Group} {key : Key} {entry : Keyspace.Entry Value} :
    index.Belongs (index.dropGroup space group) group key entry ↔
      index.Belongs space group key entry ∧ key ∉ index.listed space group := by
  simp only [Belongs, dropGroup, Keyspace.lookup_del, Keyspace.lookup_delAll]
  by_cases isIndex : key = index.indexKey group
  · simp [isIndex, index.unowned]
  · by_cases isListed : key ∈ index.listed space group <;> simp [isIndex, isListed]

theorem droppable_iff :
    index.Droppable space ↔
      ∀ group key entry, index.Belongs space group key entry →
        key ∈ index.listed space group := by
  simp only [Droppable, belongs_dropGroup, not_and, not_not]

theorem not_droppable_of_outlasted {group : Group} {key : Key}
    {entry list : Keyspace.Entry Value} (belongs : index.Belongs space group key entry)
    (isList : space.lookup (index.indexKey group) = some list)
    (outlasted : list.expiresAt < entry.expiresAt) :
    ∃ milliseconds, ¬index.Droppable (space.wait milliseconds) := by
  obtain ⟨expiresAt, isExpiry⟩ := WithTop.ne_top_iff_exists.mp outlasted.ne_top
  have listLive := Keyspace.live_of_lookup isList
  rw [Keyspace.Entry.live_iff, ← isExpiry] at listLive
  have order : space.now ≤ expiresAt := WithTop.coe_le_coe.mp listLive
  have later : space.now + (expiresAt + 1 - space.now) = expiresAt + 1 := by omega
  refine ⟨expiresAt + 1 - space.now, fun droppable => ?_⟩
  have stillThere : index.Belongs (space.wait (expiresAt + 1 - space.now)) group key entry := by
    refine ⟨?_, belongs.2⟩
    rw [Keyspace.lookup_wait, Option.filter_eq_some_iff, Keyspace.Entry.live_iff, later]
    rw [← isExpiry] at outlasted
    exact ⟨belongs.1, Keyspace.succ_le_of_lt outlasted⟩
  have isListed := index.droppable_iff.mp droppable group key entry stillThere
  have expired : list.live (expiresAt + 1) = false := by
    rw [Bool.eq_false_iff, ne_eq, Keyspace.Entry.live_iff, ← isExpiry, WithTop.coe_le_coe]
    omega
  simp [listed, Keyspace.lookup_wait, isList, later, Option.filter, expired] at isListed

theorem droppable_later_iff :
    (∀ milliseconds, index.Droppable (space.wait milliseconds)) ↔ index.Indexed space := by
  constructor
  · intro droppable group key entry belongs
    have isListed := index.droppable_iff.mp (droppable 0) group key entry ⟨by
      rw [Keyspace.lookup_wait, Option.filter_eq_some_iff]
      exact ⟨belongs.1, Keyspace.live_of_lookup belongs.1⟩, belongs.2⟩
    cases isList : space.lookup (index.indexKey group) with
    | none => simp [listed, Keyspace.lookup_wait, isList] at isListed
    | some list =>
      have live := Keyspace.live_of_lookup isList
      refine ⟨?_, list, isList, ?_⟩
      · simpa [listed, Keyspace.lookup_wait, isList, Option.filter, live] using isListed
      · by_contra shorter
        obtain ⟨milliseconds, fails⟩ :=
          index.not_droppable_of_outlasted belongs isList (lt_of_not_ge shorter)
        exact fails (droppable milliseconds)
  · intro indexed milliseconds
    rw [droppable_iff]
    intro group key entry belongs
    exact (index.indexed_wait indexed milliseconds group key entry belongs).1

end Dropping

end ExpiringIndex
