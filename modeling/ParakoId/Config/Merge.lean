import ParakoId.Library.Json

/-! Nested configuration values, and `mergeConfig` as an override. -/

namespace ParakoId.Config

open Json (Path)

def getNestedValue (value : Json) (path : Path) : Option Json := (value.lookup path).toOption

variable {path : Path} {existing updates : Json}

theorem getNestedValue_some {value leaf : Json} :
    getNestedValue value path = some leaf ↔ value.lookup path = .found leaf := by
  simp only [getNestedValue]
  cases value.lookup path <;> simp [Json.Lookup.toOption]

def setNestedValue (value : Json) (path : Path) (new : Json) : Json := Json.write new path value

/-- The own keys of `Object.prototype`, and the keys that `mergeConfig` names itself. -/
def BLOCKED_KEYS : List String := [
  "__proto__",
  "constructor",
  "prototype",
  "__defineGetter__",
  "__defineSetter__",
  "hasOwnProperty",
  "__lookupGetter__",
  "__lookupSetter__",
  "isPrototypeOf",
  "propertyIsEnumerable",
  "toString",
  "valueOf",
  "toLocaleString"]

/-- Every key of the updates changes its own key of the result only, so the loop over them
is given key by key. Callers pass an object as updates. -/
@[grind =]
def mergeConfig : Json → Json → Json
  | existing, .obj updateKeys update =>
    match existing with
    | .obj keys value =>
      .obj (keys ++ updateKeys.filter fun key => key ∉ BLOCKED_KEYS ∧ key ∉ keys) fun key =>
        if key ∈ updateKeys ∧ key ∉ BLOCKED_KEYS then
          if key ∈ keys ∧ (value key).isObject ∧ (update key).isObject then
            mergeConfig (value key) (update key)
          else update key
        else value key
    | other => if updateKeys = [] then other else .obj updateKeys update
  | existing, .null => existing
  | existing, updates => if existing.isObject then existing else updates

theorem lookup_mergeConfig {leaf : Json} (present : existing.lookup path = .found leaf)
    (isLeaf : leaf.isObject = false) (updatesObject : updates.isObject = true)
    (safe : ∀ key ∈ path, key ∉ BLOCKED_KEYS) (nonempty : path ≠ []) :
    (mergeConfig existing updates).lookup path = match updates.lookup path with
      | .absent => .found leaf
      | other => other := by
  induction path generalizing existing updates with
  | nil => exact (nonempty rfl).elim
  | cons key rest ih =>
    cases existing with
    | obj keys value =>
      cases updates with
      | obj updateKeys update =>
        have inKeys : key ∈ keys := by
          by_contra missing
          simp [missing] at present
        have unblocked : key ∉ BLOCKED_KEYS := safe key List.mem_cons_self
        simp only [Json.lookup_obj, inKeys, if_true] at present
        simp only [mergeConfig, Json.lookup_obj, List.mem_append, inKeys, true_or, if_true,
          true_and]
        by_cases updated : key ∈ updateKeys
        · simp only [updated, unblocked, not_false_eq_true, and_self, if_true]
          by_cases both : (value key).isObject = true ∧ (update key).isObject = true
          · simp only [both.1, both.2, and_self, if_true]
            have deeper : rest ≠ [] := by
              rintro rfl
              simp only [Json.lookup_nil, Json.Lookup.found.injEq] at present
              subst present
              simp [isLeaf] at both
            exact ih present both.2 (fun name member => safe name (List.mem_cons_of_mem _ member))
              deeper
          · simp only [both, if_false]
            cases rest with
            | nil => simp
            | cons next others =>
              have existingObject : (value key).isObject = true := by
                by_contra notObject
                rw [Json.lookup_blocked (by simpa using notObject) (by simp)] at present
                simp at present
              have blocked : (update key).lookup (next :: others) = .blocked := by
                apply Json.lookup_blocked _ (by simp)
                simpa [existingObject] using both
              simp [blocked]
        · simp [updated, present]
      | _ => simp [Json.isObject] at updatesObject
    | _ => simp [Json.lookup] at present

def IsUnblocked (path : Path) : Prop := ∀ key ∈ path, key ∉ BLOCKED_KEYS

theorem IsUnblocked.tail {key : String} {rest : Path} (unblocked : IsUnblocked (key :: rest)) :
    IsUnblocked rest := fun name member => unblocked name (List.mem_cons_of_mem _ member)

theorem IsUnblocked.head {key : String} {rest : Path} (unblocked : IsUnblocked (key :: rest)) :
    key ∉ BLOCKED_KEYS := unblocked key List.mem_cons_self

section Levels

variable {keys updateKeys : List String} {value update : String → Json} {key : String}

theorem isObject_mergeConfig {existing updates : Json} (isObject : existing.isObject = true)
    (updatesObject : updates.isObject = true) : (mergeConfig existing updates).isObject = true := by
  cases existing with
  | obj keys value =>
    cases updates with
    | obj updateKeys update => rfl
    | _ => simp [Json.isObject] at updatesObject
  | _ => simp [Json.isObject] at isObject

theorem property_merge_kept (kept : key ∉ updateKeys ∨ key ∈ BLOCKED_KEYS) :
    (mergeConfig (.obj keys value) (.obj updateKeys update)).property key =
      (Json.obj keys value).property key := by
  rcases kept with missing | blocked
  · simp [mergeConfig, Json.property, missing]
  · simp [mergeConfig, Json.property, blocked]

theorem property_merge_both (unblocked : key ∉ BLOCKED_KEYS) (inKeys : key ∈ keys)
    (updated : key ∈ updateKeys) (isObject : (value key).isObject = true)
    (updateObject : (update key).isObject = true) :
    (mergeConfig (.obj keys value) (.obj updateKeys update)).property key =
      some (mergeConfig (value key) (update key)) := by
  simp [mergeConfig, Json.property, unblocked, inKeys, updated, isObject, updateObject]

theorem property_merge_replaced (unblocked : key ∉ BLOCKED_KEYS) (updated : key ∈ updateKeys)
    (replaces : ¬(key ∈ keys ∧ (value key).isObject = true ∧ (update key).isObject = true)) :
    (mergeConfig (.obj keys value) (.obj updateKeys update)).property key =
      some (update key) := by
  simp only [mergeConfig, Json.property]
  rw [if_pos (by by_cases inKeys : key ∈ keys <;> simp [inKeys, updated, unblocked]),
    if_pos ⟨updated, unblocked⟩, if_neg replaces]

theorem mergeConfig_other {existing : Json} (notObject : existing.isObject = false) :
    mergeConfig existing (.obj updateKeys update) =
      if updateKeys = [] then existing else .obj updateKeys update := by
  cases existing with
  | obj keys value => simp [Json.isObject] at notObject
  | _ => simp [mergeConfig]

end Levels

theorem lookup_merge_level {base changes : Json} (unblocked : IsUnblocked path)
    (isBase : existing.lookup path = .found base)
    (isChanges : updates.lookup path = .found changes) (baseObject : base.isObject = true)
    (changesObject : changes.isObject = true) :
    (mergeConfig existing updates).lookup path = .found (mergeConfig base changes) := by
  induction path generalizing existing updates with
  | nil =>
    simp only [Json.lookup_nil, Json.Lookup.found.injEq] at isBase isChanges
    rw [isBase, isChanges, Json.lookup_nil]
  | cons key rest ih =>
    obtain ⟨keys, value, rfl, inKeys, baseBelow⟩ := Json.found_cons isBase
    obtain ⟨updateKeys, update, rfl, updated, changesBelow⟩ := Json.found_cons isChanges
    rw [Json.lookup_cons rfl, property_merge_both unblocked.head inKeys updated
      (Json.isObject_of_found baseBelow baseObject) (Json.isObject_of_found changesBelow changesObject)]
    exact ih unblocked.tail baseBelow changesBelow

theorem property_blocked {base changes : Json} (baseObject : base.isObject = true)
    (changesObject : changes.isObject = true) {key : String} (blocked : key ∈ BLOCKED_KEYS) :
    (mergeConfig base changes).property key = base.property key := by
  cases base with
  | obj keys value =>
    cases changes with
    | obj updateKeys update => exact property_merge_kept (.inr blocked)
    | _ => simp [Json.isObject] at changesObject
  | _ => simp [Json.isObject] at baseObject

/-- An update that does not mention the path leaves what is there, unless it replaces the value that
blocked the path. -/
theorem lookup_unmentioned (unmentioned : updates.lookup path = .absent) :
    (mergeConfig existing updates).lookup path = existing.lookup path ∨
      existing.lookup path = .blocked ∧ (mergeConfig existing updates).lookup path = .absent := by
  induction path generalizing existing updates with
  | nil => simp at unmentioned
  | cons key rest ih =>
    cases updates with
    | obj updateKeys update =>
      cases isObject : existing.isObject with
      | false =>
        rw [mergeConfig_other isObject]
        split
        · exact .inl rfl
        · exact .inr ⟨Json.lookup_blocked isObject (by simp), unmentioned⟩
      | true =>
        obtain ⟨keys, value, rfl⟩ := Json.obj_of_isObject isObject
        rw [Json.lookup_cons rfl, Json.lookup_cons rfl]
        by_cases kept : key ∉ updateKeys ∨ key ∈ BLOCKED_KEYS
        · exact .inl (by rw [property_merge_kept kept])
        · obtain ⟨updated, unblocked⟩ : key ∈ updateKeys ∧ key ∉ BLOCKED_KEYS := by
            simpa using kept
          have below : (update key).lookup rest = .absent := by simpa [updated] using unmentioned
          by_cases both :
              key ∈ keys ∧ (value key).isObject = true ∧ (update key).isObject = true
          · rw [property_merge_both unblocked both.1 updated both.2.1 both.2.2]
            simpa [Json.property, both.1] using @ih (value key) _ below
          · rw [property_merge_replaced unblocked updated both]
            by_cases inKeys : key ∈ keys
            · have deeper : rest ≠ [] := by
                rintro rfl
                simp at below
              have updateObject : (update key).isObject = true := by
                by_contra notObject
                rw [Json.lookup_blocked (by simpa using notObject) deeper] at below
                cases below
              have notObject : (value key).isObject = false := by
                simpa [inKeys, updateObject] using both
              simp [Json.property, inKeys, Json.lookup_blocked notObject deeper, below]
            · simp [Json.property, inKeys, below]
    | _ => simp [Json.lookup] at unmentioned

theorem unmentioned_kept (unmentioned : updates.lookup path = .absent) :
    getNestedValue (mergeConfig existing updates) path = getNestedValue existing path := by
  rw [getNestedValue, getNestedValue]
  rcases lookup_unmentioned unmentioned with kept | ⟨blocked, absent⟩
  · rw [kept]
  · rw [blocked, absent]
    rfl

theorem leaf_written {leaf : Json} (updatesObject : updates.isObject = true)
    (isFound : updates.lookup path = .found leaf) (isLeaf : leaf.isObject = false)
    (unblocked : IsUnblocked path) : (mergeConfig existing updates).lookup path = .found leaf := by
  induction path generalizing existing updates with
  | nil =>
    simp only [Json.lookup_nil, Json.Lookup.found.injEq] at isFound
    simp [← isFound, updatesObject] at isLeaf
  | cons key rest ih =>
    obtain ⟨updateKeys, update, rfl, updated, below⟩ := Json.found_cons isFound
    cases isObject : existing.isObject with
    | false =>
      rw [mergeConfig_other isObject, if_neg (List.ne_nil_of_mem updated)]
      exact isFound
    | true =>
      obtain ⟨keys, value, rfl⟩ := Json.obj_of_isObject isObject
      rw [Json.lookup_cons rfl]
      by_cases both : key ∈ keys ∧ (value key).isObject = true ∧ (update key).isObject = true
      · rw [property_merge_both unblocked.head both.1 updated both.2.1 both.2.2]
        exact ih both.2.2 below unblocked.tail
      · rw [property_merge_replaced unblocked.head updated both]
        exact below

theorem mergeConfig_self (json : Json) : mergeConfig json json = json := by
  induction json with
  | obj keys value ih =>
    simp only [mergeConfig]
    refine congrArg₂ Json.obj ?_ (funext fun key => ?_)
    · rw [List.append_right_eq_self, List.filter_eq_nil_iff]
      intro key inKeys
      simp [inKeys]
    · rw [ih key]
      simp
  | _ => simp [mergeConfig, Json.isObject]

theorem mergeConfig_again_scalar (notObject : updates.isObject = false) (existing : Json) :
    mergeConfig (mergeConfig existing updates) updates = mergeConfig existing updates := by
  cases updates with
  | obj updateKeys update => simp [Json.isObject] at notObject
  | null => simp [mergeConfig]
  | _ =>
    cases isObject : existing.isObject with
    | true | false => simp [mergeConfig, isObject]

theorem mergeConfig_again (existing updates : Json) :
    mergeConfig (mergeConfig existing updates) updates = mergeConfig existing updates := by
  induction updates generalizing existing with
  | obj updateKeys update ih =>
    cases isObject : existing.isObject with
    | false =>
      rw [mergeConfig_other isObject]
      split
      next noKeys => rw [mergeConfig_other isObject, if_pos noKeys]
      next => exact mergeConfig_self _
    | true =>
      obtain ⟨keys, value, rfl⟩ := Json.obj_of_isObject isObject
      simp only [mergeConfig]
      refine congrArg₂ Json.obj ?_ (funext fun key => ?_)
      · -- the second merge finds every key of the first
        rw [List.append_right_eq_self, List.filter_eq_nil_iff]
        intro key updated
        by_cases inKeys : key ∈ keys
        · simp [inKeys]
        · simp [inKeys, updated]
      · by_cases changed : key ∈ updateKeys ∧ key ∉ BLOCKED_KEYS
        · by_cases both :
              key ∈ keys ∧ (value key).isObject = true ∧ (update key).isObject = true
          · simp only [if_pos changed, if_pos both]
            rw [if_pos ⟨List.mem_append_left _ both.1,
              isObject_mergeConfig both.2.1 both.2.2, both.2.2⟩, ih]
          · simp only [if_pos changed, if_neg both]
            split
            next => exact mergeConfig_self _
            next => rfl
        · simp only [if_neg changed]
  | _ => exact mergeConfig_again_scalar rfl existing

/-- For every base and updates: where the merge descends, the result has the blocked keys of the
base and no others; what the updates do not mention is kept, every leaf that no blocked key leads
to is written, and merging again changes nothing. -/
theorem merge_overrides (existing updates : Json) (updatesObject : updates.isObject = true) :
    (∀ path base changes, IsUnblocked path → existing.lookup path = .found base →
        updates.lookup path = .found changes → base.isObject = true → changes.isObject = true →
        ∃ merged, (mergeConfig existing updates).lookup path = .found merged ∧
          ∀ key ∈ BLOCKED_KEYS, merged.property key = base.property key) ∧
      (∀ path, updates.lookup path = .absent →
        getNestedValue (mergeConfig existing updates) path = getNestedValue existing path) ∧
      (∀ path leaf, updates.lookup path = .found leaf → leaf.isObject = false →
        IsUnblocked path → (mergeConfig existing updates).lookup path = .found leaf) ∧
      mergeConfig (mergeConfig existing updates) updates = mergeConfig existing updates := by
  refine ⟨?_, ?_, ?_, mergeConfig_again existing updates⟩
  · intro path base changes unblocked isBase isChanges baseObject changesObject
    exact ⟨_, lookup_merge_level unblocked isBase isChanges baseObject changesObject,
      fun key blocked => property_blocked baseObject changesObject blocked⟩
  · exact fun path unmentioned => unmentioned_kept unmentioned
  · exact fun path leaf isFound isLeaf unblocked =>
      leaf_written updatesObject isFound isLeaf unblocked

def branding : Json := .object [("theme", .object [("primary", .str "blue")])]

def themeUpdate : Json :=
  .object [("theme", .object [("constructor", .str "x"), ("secondary", .str "red")])]

theorem theme_merged :
    ∃ merged, (mergeConfig branding themeUpdate).lookup ["theme"] = .found merged ∧
      ∀ key ∈ BLOCKED_KEYS,
        merged.property key = (Json.object [("primary", .str "blue")]).property key :=
  (merge_overrides branding themeUpdate rfl).1 ["theme"] _ _
    (by simp [IsUnblocked, BLOCKED_KEYS]) rfl rfl rfl rfl

theorem inherited_name_skipped :
    (Json.object [("toString", .str "x")]).lookup ["toString"] = .found (.str "x") ∧
      (mergeConfig (.object []) (.object [("toString", .str "x")])).lookup ["toString"] =
        .absent := by
  exact ⟨rfl, rfl⟩

end ParakoId.Config
