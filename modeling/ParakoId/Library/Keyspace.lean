import Mathlib.Order.WithBot

/-! A keyspace whose entries expire, as Redis keeps it. -/

structure Keyspace.Entry (Value : Type*) where
  value : Value
  expiresAt : WithTop Nat

structure Keyspace (Key Value : Type*) where
  now : Nat
  entries : Key → Option (Keyspace.Entry Value)

namespace Keyspace

variable {Key Value : Type*}

def Entry.live (now : Nat) (entry : Entry Value) : Bool :=
  decide (WithTop.some now ≤ entry.expiresAt)

theorem Entry.live_iff {now : Nat} {entry : Entry Value} :
    entry.live now = true ↔ WithTop.some now ≤ entry.expiresAt := by
  simp [live]

@[simp] theorem Entry.live_forever (now : Nat) (value : Value) :
    (⟨value, ⊤⟩ : Entry Value).live now = true := by
  simp [live]

theorem Entry.live_earlier {now later : Nat} {entry : Entry Value} (order : now ≤ later)
    (live : entry.live later = true) : entry.live now = true := by
  rw [live_iff] at live ⊢
  exact le_trans (WithTop.coe_le_coe.mpr order) live

theorem succ_le_of_lt {now : Nat} {deadline : WithTop Nat} (before : WithTop.some now < deadline) :
    WithTop.some (now + 1) ≤ deadline := by
  cases deadline with
  | top => exact le_top
  | coe time => exact WithTop.coe_le_coe.mpr (WithTop.coe_lt_coe.mp before)

def lookup (space : Keyspace Key Value) (key : Key) : Option (Entry Value) :=
  (space.entries key).filter (Entry.live space.now)

theorem live_of_lookup {space : Keyspace Key Value} {key : Key} {entry : Entry Value}
    (found : space.lookup key = some entry) : entry.live space.now = true := by
  rw [lookup, Option.filter_eq_some_iff] at found
  exact found.2

def empty (now : Nat) : Keyspace Key Value := { now, entries := fun _ => none }

def wait (space : Keyspace Key Value) (milliseconds : Nat) : Keyspace Key Value :=
  { space with now := space.now + milliseconds }

/-- What is left where every entry that fails the test is deleted. -/
def retain (space : Keyspace Key Value) (keep : Key → Value → Bool) : Keyspace Key Value :=
  { space with
    entries := fun key => (space.entries key).filter fun entry => keep key entry.value }

section Commands

variable [DecidableEq Key]

def put (space : Keyspace Key Value) (key : Key) (entry : Option (Entry Value)) :
    Keyspace Key Value :=
  { space with entries := fun other => if other = key then entry else space.entries other }

/-- `SET`, which drops the expiry of the value it replaces. -/
def set (space : Keyspace Key Value) (key : Key) (value : Value) : Keyspace Key Value :=
  space.put key (some ⟨value, ⊤⟩)

def del (space : Keyspace Key Value) (key : Key) : Keyspace Key Value := space.put key none

/-- The commands that write into a value and keep its expiry, such as `HSET` and `RPUSH`. -/
def update (space : Keyspace Key Value) (key : Key) (fresh : Value) (change : Value → Value) :
    Keyspace Key Value :=
  match space.lookup key with
  | none => space.set key fresh
  | some entry => space.put key (some { entry with value := change entry.value })

def deadline (space : Keyspace Key Value) (seconds : Int) : WithTop Nat :=
  WithTop.some (space.now + 1000 * seconds.toNat)

/-- `EXPIRE`. A lifetime that is not positive deletes the key. -/
def expire (space : Keyspace Key Value) (key : Key) (seconds : Int) : Keyspace Key Value :=
  match space.lookup key with
  | none => space
  | some entry =>
    if 0 < seconds then space.put key (some { entry with expiresAt := space.deadline seconds })
    else space.del key

/-- `TTL`: the seconds left, rounded to the nearest. -/
def ttl (space : Keyspace Key Value) (key : Key) : Int :=
  match space.lookup key with
  | none => -2
  | some entry =>
    match entry.expiresAt with
    | none => -1
    | some expiresAt => ((expiresAt - space.now + 500) / 1000 : Nat)

def delAll (space : Keyspace Key Value) (keys : List Key) : Keyspace Key Value :=
  keys.foldl del space

section

variable (space : Keyspace Key Value)
include space

@[simp] theorem now_set (key : Key) (value : Value) : (space.set key value).now = space.now := rfl

@[simp] theorem now_del (key : Key) : (space.del key).now = space.now := rfl

@[simp] theorem now_update (key : Key) (fresh : Value) (change : Value → Value) :
    (space.update key fresh change).now = space.now := by
  simp only [update]
  split <;> rfl

@[simp] theorem now_expire (key : Key) (seconds : Int) :
    (space.expire key seconds).now = space.now := by
  simp only [expire]
  split
  · rfl
  · split <;> rfl

@[simp] theorem now_delAll (keys : List Key) : (space.delAll keys).now = space.now := by
  induction keys generalizing space with
  | nil => rfl
  | cons key rest ih => exact ih (space.del key)

theorem lookup_put (key other : Key) (entry : Option (Entry Value)) :
    (space.put key entry).lookup other =
      if other = key then entry.filter (Entry.live space.now) else space.lookup other := by
  by_cases same : other = key <;> simp [lookup, put, same]

theorem lookup_set (key other : Key) (value : Value) :
    (space.set key value).lookup other =
      if other = key then some ⟨value, ⊤⟩ else space.lookup other := by
  simp [set, lookup_put, Option.filter]

theorem lookup_del (key other : Key) :
    (space.del key).lookup other = if other = key then none else space.lookup other := by
  simp [del, lookup_put]

theorem lookup_update (key other : Key) (fresh : Value) (change : Value → Value) :
    (space.update key fresh change).lookup other =
      if other = key then
        some (match space.lookup key with
          | none => ⟨fresh, ⊤⟩
          | some entry => { entry with value := change entry.value })
      else space.lookup other := by
  simp only [update]
  split
  · rw [lookup_set]
  · next entry found =>
      have live : Entry.live space.now { entry with value := change entry.value } = true := by
        simpa [Entry.live] using live_of_lookup found
      simp [lookup_put, Option.filter, live]

theorem lookup_expire (key other : Key) (seconds : Int) :
    (space.expire key seconds).lookup other =
      if other = key then
        if 0 < seconds then
          (space.lookup key).map fun entry => { entry with expiresAt := space.deadline seconds }
        else none
      else space.lookup other := by
  have live : ∀ value : Value, Entry.live space.now ⟨value, space.deadline seconds⟩ = true := by
    intro value
    simp only [Entry.live_iff, deadline]
    exact WithTop.coe_le_coe.mpr (Nat.le_add_right _ _)
  simp only [expire]
  split
  · next missing =>
      by_cases same : other = key
      · simp [same, missing]
      · simp [same]
  · next entry found =>
      by_cases positive : 0 < seconds
      · simp [positive, lookup_put, found, Option.filter, live]
      · simp [positive, lookup_del]

theorem lookup_delAll (keys : List Key) (other : Key) :
    (space.delAll keys).lookup other = if other ∈ keys then none else space.lookup other := by
  induction keys generalizing space with
  | nil => simp [delAll]
  | cons key rest ih =>
    have tail := ih (space.del key)
    simp only [delAll, List.foldl_cons, List.mem_cons] at tail ⊢
    rw [tail, lookup_del]
    by_cases inRest : other ∈ rest <;> by_cases same : other = key <;> simp [inRest, same]

end

end Commands

theorem lookup_wait (space : Keyspace Key Value) (milliseconds : Nat) (key : Key) :
    (space.wait milliseconds).lookup key =
      (space.lookup key).filter (Entry.live (space.now + milliseconds)) := by
  simp only [lookup, wait]
  cases space.entries key with
  | none => rfl
  | some entry =>
    cases later : entry.live (space.now + milliseconds) with
    | false => cases earlier : entry.live space.now <;> simp [Option.filter, later, earlier]
    | true =>
      have earlier := entry.live_earlier (Nat.le_add_right _ _) later
      simp [Option.filter, later, earlier]

theorem lookup_of_wait {space : Keyspace Key Value} {milliseconds : Nat} {key : Key}
    {entry : Entry Value} (found : (space.wait milliseconds).lookup key = some entry) :
    space.lookup key = some entry := by
  rw [lookup_wait, Option.filter_eq_some_iff] at found
  exact found.1

theorem lookup_retain (space : Keyspace Key Value) (keep : Key → Value → Bool) (key : Key) :
    (space.retain keep).lookup key =
      (space.lookup key).filter fun entry => keep key entry.value := by
  simp only [lookup, retain, Option.filter_filter, Bool.and_comm]

def Each (holds : Key → Value → Prop) (space : Keyspace Key Value) : Prop :=
  ∀ key entry, space.lookup key = some entry → holds key entry.value

variable {holds : Key → Value → Prop} {space : Keyspace Key Value}

theorem each_empty (now : Nat) : Each holds (empty now) := by
  intro key entry found
  simp [lookup, empty] at found

theorem Each.wait (each : Each holds space) (milliseconds : Nat) :
    Each holds (space.wait milliseconds) :=
  fun key entry found => each key entry (lookup_of_wait found)

variable [DecidableEq Key]

section

variable (each : Each holds space)
include each

theorem Each.set {key : Key} {value : Value} (new : holds key value) :
    Each holds (space.set key value) := by
  intro other entry found
  rw [lookup_set] at found
  split at found
  · next same =>
      cases found
      rwa [same]
  · exact each other entry found

theorem Each.del (key : Key) : Each holds (space.del key) := by
  intro other entry found
  rw [lookup_del] at found
  split at found
  · cases found
  · exact each other entry found

theorem Each.delAll (keys : List Key) : Each holds (space.delAll keys) := by
  induction keys generalizing space with
  | nil => exact each
  | cons key rest ih => exact ih (each.del key)

theorem Each.update {key : Key} {fresh : Value} {change : Value → Value} (new : holds key fresh)
    (changed : ∀ value, holds key value → holds key (change value)) :
    Each holds (space.update key fresh change) := by
  intro other entry found
  rw [lookup_update] at found
  split at found
  · next same =>
      subst same
      split at found
      · cases found
        exact new
      · next old isOld =>
          cases found
          exact changed old.value (each other old isOld)
  · exact each other entry found

theorem Each.expire (key : Key) (seconds : Int) : Each holds (space.expire key seconds) := by
  intro other entry found
  rw [lookup_expire] at found
  split at found
  · next same =>
      subst same
      split at found
      · obtain ⟨old, isOld, rfl⟩ := Option.map_eq_some_iff.mp found
        exact each other old isOld
      · cases found
  · exact each other entry found

end

end Keyspace
