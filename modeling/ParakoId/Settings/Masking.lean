import ParakoId.Settings.SensitiveFields

/-!
Masked secrets: how they are shown, and how a submitted configuration gets them back. A character
stands for a UTF-16 unit.
-/

namespace ParakoId.Settings

open Json (Path)
open Config (getNestedValue getNestedValue_some setNestedValue)

def visibleChars (value : List Char) : List Char :=
  if value.length < 4 then value.take 1 else value.take 4

def hiddenLength (value : List Char) : Nat :=
  if value.length < 4 then max (value.length - 1) 1 else max (value.length - 4) 4

def maskSensitiveValue (value : String) : String :=
  if value = "" then ""
  else String.ofList (visibleChars value.toList ++ List.replicate (hiddenLength value.toList) '*')

/-- `/^(?:[\s\S]\*{1,3}|[\s\S]{4}\*{4,})$/` -/
def looksMasked (value : List Char) : Bool :=
  (decide (2 ≤ value.length ∧ value.length ≤ 4) && (value.drop 1).all (· == '*')) ||
    (decide (8 ≤ value.length) && (value.drop 4).all (· == '*'))

def isMaskedValue : Json → Bool
  | .str value => value != "" && !value.toList.all (· == '*') && looksMasked value.toList
  | _ => false

def maskItem : Json → Json
  | .str text => if text = "" then .str text else .str (maskSensitiveValue text)
  | item => item

def maskField (maskedConfig : Json) (fieldPath : Path) : Json :=
  match getNestedValue maskedConfig fieldPath with
  | some (.arr length item) =>
    setNestedValue maskedConfig fieldPath
      (.arr length fun index => if index < length then maskItem (item index) else item index)
  | some (.str text) =>
    if text = "" then maskedConfig
    else setNestedValue maskedConfig fieldPath (.str (maskSensitiveValue text))
  | _ => maskedConfig

def prepareSensitiveConfigForDisplay (config : Json) : Json :=
  if config.isReference then SENSITIVE_FIELDS.foldl maskField config.clone else config

def currentItem (currentValue : Option Json) (index : Nat) : Option Json :=
  match currentValue with
  | some (.arr length item) =>
    if index < length ∧ (item index).truthy then some (item index) else none
  | _ => none

def restoreItem (currentValue : Option Json) (index : Nat) (item : Json) : Json :=
  if isMaskedValue item then (currentItem currentValue index).getD item else item

def hasRestoredItem (currentValue : Option Json) (length : Nat) (item : Nat → Json) : Bool :=
  (List.range length).any fun index =>
    isMaskedValue (item index) && (currentItem currentValue index).isSome

def restoreField (currentConfig : Json) (restored : Json × List Path) (fieldPath : Path) :
    Json × List Path :=
  let (restoredConfig, restoredFields) := restored
  let currentValue := getNestedValue currentConfig fieldPath
  match getNestedValue restoredConfig fieldPath with
  | none | some .null => restored
  | some (.arr length item) =>
    if hasRestoredItem currentValue length item then
      (setNestedValue restoredConfig fieldPath (.arr length fun index =>
          if index < length then restoreItem currentValue index (item index) else item index),
        restoredFields ++ [fieldPath])
    else restored
  | some importedValue =>
    if isMaskedValue importedValue then
      match currentValue with
      | none | some .null => restored
      | some currentValue =>
        (setNestedValue restoredConfig fieldPath currentValue, restoredFields ++ [fieldPath])
    else restored

def restoreMaskedSensitiveFields (importedConfig currentConfig : Json) : Json × List Path :=
  SENSITIVE_FIELDS.foldl (restoreField currentConfig) (importedConfig.clone, [])

def maskedValue : Json → Json
  | .arr length item =>
    .arr length fun index => if index < length then maskItem (item index) else item index
  | value => maskItem value

def restoredValue (currentValue : Option Json) : Json → Json
  | .arr length item =>
    .arr length fun index =>
      if index < length then restoreItem currentValue index (item index) else item index
  | .null => .null
  | importedValue =>
    if isMaskedValue importedValue then
      match currentValue with
      | none | some .null => importedValue
      | some currentValue => currentValue
    else importedValue

theorem maskField_eq (config : Json) (fieldPath : Path) :
    maskField config fieldPath = Json.modify maskedValue fieldPath config := by
  cases read : getNestedValue config fieldPath with
  | none => simp [maskField, read, Json.modify_missing (by simpa [getNestedValue] using read)]
  | some value =>
    have found := getNestedValue_some.mp read
    have same : Json.write value fieldPath config = config := Json.write_same found
    rw [← Json.write_of_found maskedValue found]
    simp only [maskField, read]
    cases value with
    | arr length item => rfl
    | str text =>
      by_cases empty : text = ""
      · simpa [empty, maskedValue, maskItem] using same.symm
      · simp [empty, maskedValue, maskItem, setNestedValue]
    | _ => exact same.symm

theorem sensitiveFields_nonempty : ∀ fieldPath ∈ SENSITIVE_FIELDS, fieldPath ≠ [] := by decide

theorem prepareSensitiveConfigForDisplay_eq {config : Json} (isJson : config.clone = config) :
    prepareSensitiveConfigForDisplay config =
      Json.modifyAll (fun _ => maskedValue) SENSITIVE_FIELDS config := by
  cases isReference : config.isReference with
  | true =>
    rw [prepareSensitiveConfigForDisplay, if_pos isReference, isJson, Json.modifyAll]
    congr 1
    funext masked fieldPath
    exact maskField_eq masked fieldPath
  | false =>
    rw [prepareSensitiveConfigForDisplay, if_neg (by simp [isReference]), eq_comm,
      Json.modifyAll_eq_self_iff sensitiveFields_separate]
    intro fieldPath isField leaf isFound
    have notObject : config.isObject = false := by
      cases config <;> simp_all [Json.isReference, Json.isObject]
    rw [Json.lookup_blocked notObject (sensitiveFields_nonempty fieldPath isField)] at isFound
    cases isFound

theorem restoreItem_of_not {currentValue : Option Json} {index : Nat} {item : Json}
    (nothing : (isMaskedValue item && (currentItem currentValue index).isSome) = false) :
    restoreItem currentValue index item = item := by
  rw [restoreItem]
  split
  next isMasked =>
    have none : currentItem currentValue index = none := by simpa [isMasked] using nothing
    rw [none, Option.getD_none]
  next => rfl

theorem restoreField_fst (currentConfig : Json) (restored : Json × List Path) (fieldPath : Path) :
    (restoreField currentConfig restored fieldPath).1 =
      Json.modify (restoredValue (getNestedValue currentConfig fieldPath)) fieldPath restored.1 := by
  obtain ⟨config, restoredFields⟩ := restored
  cases read : getNestedValue config fieldPath with
  | none => simp [restoreField, read, Json.modify_missing (by simpa [getNestedValue] using read)]
  | some value =>
    have found := getNestedValue_some.mp read
    have same : Json.write value fieldPath config = config := Json.write_same found
    rw [← Json.write_of_found _ found]
    simp only [restoreField, read]
    cases value with
    | arr length item =>
      dsimp only
      split
      next => rfl
      next nothing =>
        have unchanged : restoredValue (getNestedValue currentConfig fieldPath)
            (.arr length item) = .arr length item := by
          simp only [restoredValue, Json.arr.injEq, true_and]
          funext index
          split
          next inside =>
            apply restoreItem_of_not
            simp only [hasRestoredItem, Bool.not_eq_true, List.any_eq_false] at nothing
            simpa using nothing index (List.mem_range.mpr inside)
          next => rfl
        rw [unchanged, same]
    | null => exact same.symm
    | str text =>
      simp only [restoredValue]
      split
      next =>
        cases getNestedValue currentConfig fieldPath with
        | none => exact same.symm
        | some current => cases current <;> first | exact same.symm | rfl
      next => exact same.symm
    | _ => exact same.symm

theorem restoreFields_fst (currentConfig : Json) (fields : List Path)
    (restored : Json × List Path) :
    (fields.foldl (restoreField currentConfig) restored).1 =
      Json.modifyAll (fun fieldPath => restoredValue (getNestedValue currentConfig fieldPath))
        fields restored.1 := by
  induction fields generalizing restored with
  | nil => rfl
  | cons fieldPath rest ih =>
    rw [List.foldl_cons, ih, restoreField_fst, Json.modifyAll_cons]

theorem restoreMaskedSensitiveFields_fst (importedConfig currentConfig : Json) :
    (restoreMaskedSensitiveFields importedConfig currentConfig).1 =
      Json.modifyAll (fun fieldPath => restoredValue (getNestedValue currentConfig fieldPath))
        SENSITIVE_FIELDS importedConfig.clone :=
  restoreFields_fst currentConfig SENSITIVE_FIELDS (importedConfig.clone, [])

def IsRecoverable (text : String) : Prop :=
  text = "" ∨ (∃ letter ∈ visibleChars text.toList, letter ≠ '*') ∨ maskSensitiveValue text = text

theorem looksMasked_mask {value : List Char} (nonempty : value ≠ []) :
    looksMasked (visibleChars value ++ List.replicate (hiddenLength value) '*') = true := by
  have positive := List.length_pos_iff.mpr nonempty
  have stars (count : Nat) : (List.replicate count '*').all (· == '*') = true := by simp
  by_cases short : value.length < 4
  · have shown : (visibleChars value).length = 1 := by
      rw [visibleChars, if_pos short, List.length_take]
      omega
    have hidden : 1 ≤ hiddenLength value ∧ hiddenLength value ≤ 3 := by
      rw [hiddenLength, if_pos short]
      omega
    have rest : (visibleChars value ++ List.replicate (hiddenLength value) '*').drop 1 =
        List.replicate (hiddenLength value) '*' := by rw [← shown, List.drop_left]
    rw [looksMasked, rest, stars, List.length_append, shown, List.length_replicate,
      decide_eq_true (by omega)]
    rfl
  · have shown : (visibleChars value).length = 4 := by
      rw [visibleChars, if_neg short, List.length_take]
      omega
    have hidden : 4 ≤ hiddenLength value := by
      rw [hiddenLength, if_neg short]
      omega
    have rest : (visibleChars value ++ List.replicate (hiddenLength value) '*').drop 4 =
        List.replicate (hiddenLength value) '*' := by rw [← shown, List.drop_left]
    rw [looksMasked, rest, stars, List.length_append, shown, List.length_replicate,
      decide_eq_true (p := 8 ≤ 4 + hiddenLength value) (by omega)]
    simp

theorem isMasked_mask_iff {text : String} (nonempty : text ≠ "") :
    isMaskedValue (.str (maskSensitiveValue text)) = true ↔
      ∃ letter ∈ visibleChars text.toList, letter ≠ '*' := by
  have someLetter : text.toList ≠ [] := by simpa using nonempty
  have looks := looksMasked_mask someLetter
  have isMask : isMaskedValue (.str (maskSensitiveValue text)) = true ↔
      visibleChars text.toList ++ List.replicate (hiddenLength text.toList) '*' ≠ [] ∧
        ¬∀ letter ∈ visibleChars text.toList, letter = '*' := by
    simp [isMaskedValue, maskSensitiveValue, nonempty, looks]
  rw [isMask, not_forall]
  constructor
  · rintro ⟨_, letter, other⟩
    exact ⟨letter, by simpa using other⟩
  · rintro ⟨letter, shown, other⟩
    exact ⟨List.append_ne_nil_of_left_ne_nil (List.ne_nil_of_mem shown) _, letter,
      fun all => other (all shown)⟩

def SecretsRecoverable : Json → Prop
  | .arr length item => ∀ index < length, ∀ text, item index = .str text → IsRecoverable text
  | .str text => IsRecoverable text
  | _ => True

theorem restoredText_iff {text : String} (nonempty : text ≠ "") :
    (if isMaskedValue (.str (maskSensitiveValue text)) then .str text
      else .str (maskSensitiveValue text)) = Json.str text ↔ IsRecoverable text := by
  rw [IsRecoverable, ← isMasked_mask_iff nonempty]
  split
  next isMasked => simp [isMasked]
  next notMasked => simp [notMasked, nonempty]

theorem isRecoverable_empty : IsRecoverable "" := .inl rfl

theorem restoredItem_iff {length index : Nat} {item : Nat → Json} (inside : index < length) :
    restoreItem (some (.arr length item)) index (maskItem (item index)) = item index ↔
      ∀ text, item index = .str text → IsRecoverable text := by
  rw [restoreItem, currentItem]
  cases isItem : item index with
  | str text =>
    by_cases isEmpty : text = ""
    · simp [isEmpty, maskItem, isMaskedValue, isRecoverable_empty]
    · simpa [isEmpty, inside, maskItem, Json.truthy] using restoredText_iff isEmpty
  | _ => simp [maskItem, isMaskedValue]

theorem restoredValue_masked_iff (value : Json) :
    restoredValue (some value) (maskedValue value) = value ↔ SecretsRecoverable value := by
  cases value with
  | arr length item =>
    simp only [restoredValue, maskedValue, SecretsRecoverable, Json.arr.injEq, true_and]
    rw [funext_iff]
    refine forall_congr' fun index => ?_
    by_cases inside : index < length
    · have same := @restoredItem_iff length index item inside
      simpa [inside] using same
    · simp [inside]
  | str text =>
    by_cases isEmpty : text = ""
    · simp [isEmpty, restoredValue, maskedValue, maskItem, isMaskedValue, SecretsRecoverable,
        isRecoverable_empty]
    · simpa [isEmpty, restoredValue, maskedValue, maskItem, SecretsRecoverable] using
        restoredText_iff isEmpty
  | _ => simp [restoredValue, maskedValue, maskItem, SecretsRecoverable, isMaskedValue]

theorem clone_maskItem (item : Json) : (maskItem item).clone = maskItem item.clone := by
  cases item with
  | str text => by_cases isEmpty : text = "" <;> simp [maskItem, isEmpty]
  | num value => cases value <;> rfl
  | _ => rfl

theorem clone_maskedValue (value : Json) : (maskedValue value).clone = maskedValue value.clone := by
  cases value with
  | arr length item =>
    simp only [maskedValue, Json.clone, Json.arr.injEq, true_and]
    funext index
    split
    next => exact clone_maskItem (item index)
    next => rfl
  | str text => exact clone_maskItem (.str text)
  | num value => cases value <;> rfl
  | _ => rfl

theorem restored_display_iff {config : Json} (isJson : config.clone = config) :
    (restoreMaskedSensitiveFields (prepareSensitiveConfigForDisplay config) config).1 = config ↔
      ∀ fieldPath ∈ SENSITIVE_FIELDS, ∀ value, config.lookup fieldPath = .found value →
        SecretsRecoverable value := by
  rw [restoreMaskedSensitiveFields_fst, prepareSensitiveConfigForDisplay_eq isJson,
    Json.clone_modifyAll fun _ => clone_maskedValue, isJson,
    Json.modifyAll_modifyAll sensitiveFields_separate,
    Json.modifyAll_eq_self_iff sensitiveFields_separate]
  refine forall₂_congr fun fieldPath _ => forall_congr' fun value => imp_congr_right fun isFound => ?_
  have isCurrent : getNestedValue config fieldPath = some value := getNestedValue_some.mpr isFound
  rw [Function.comp_apply, isCurrent, restoredValue_masked_iff]

def IsStored (config : Json) (fieldPath : Path) (text : String) : Prop :=
  ∃ length item, config.lookup fieldPath = .found (.arr length item) ∧
    ∃ index < length, item index = .str text

def EntryRestored (currentConfig importedConfig : Json) (fieldPath : Path) (index : Nat)
    (entry : Json) : Prop :=
  ∃ length restored secret,
    (restoreMaskedSensitiveFields importedConfig currentConfig).1.lookup fieldPath =
        .found (.arr length restored) ∧
      restored index = .str secret ∧ IsStored currentConfig fieldPath secret ∧
      .str (maskSensitiveValue secret) = entry

def EntryAligned (currentConfig : Json) (fieldPath : Path) (index : Nat) (entry : Json) : Prop :=
  match currentItem (getNestedValue currentConfig fieldPath) index with
  | some stored => ∃ secret, stored = .str secret ∧ .str (maskSensitiveValue secret) = entry
  | none => ∃ secret, entry = .str secret ∧ IsStored currentConfig fieldPath secret ∧
      maskSensitiveValue secret = secret

def ForMaskedEntries (importedConfig : Json) (holds : Path → Nat → Json → Prop) : Prop :=
  ∀ fieldPath ∈ SENSITIVE_FIELDS, ∀ length item,
    importedConfig.lookup fieldPath = .found (.arr length item) →
      ∀ index < length, isMaskedValue (item index) = true → holds fieldPath index (item index)

theorem currentItem_some {config : Json} {fieldPath : Path} {index : Nat} {secret : String}
    (isItem : currentItem (getNestedValue config fieldPath) index = some (.str secret)) :
    IsStored config fieldPath secret := by
  cases read : getNestedValue config fieldPath with
  | none => simp [read, currentItem] at isItem
  | some value =>
    cases value with
    | arr length item =>
      rw [read, currentItem] at isItem
      split at isItem
      next inside =>
        exact ⟨length, item, getNestedValue_some.mp read, index, inside.1,
          Option.some.inj isItem⟩
      next => cases isItem
    | _ => simp [read, currentItem] at isItem

theorem lookup_restored {currentConfig importedConfig : Json} {fieldPath : Path}
    (isField : fieldPath ∈ SENSITIVE_FIELDS) (isJson : importedConfig.clone = importedConfig) :
    (restoreMaskedSensitiveFields importedConfig currentConfig).1.lookup fieldPath =
      (importedConfig.lookup fieldPath).map
        (restoredValue (getNestedValue currentConfig fieldPath)) := by
  rw [restoreMaskedSensitiveFields_fst, isJson,
    Json.lookup_modifyAll sensitiveFields_separate isField]

theorem entry_restored_iff {currentConfig importedConfig : Json} {fieldPath : Path}
    (isField : fieldPath ∈ SENSITIVE_FIELDS) (isJson : importedConfig.clone = importedConfig)
    {length index : Nat} {item : Nat → Json}
    (isArray : importedConfig.lookup fieldPath = .found (.arr length item))
    (inside : index < length) (isMasked : isMaskedValue (item index) = true) :
    EntryRestored currentConfig importedConfig fieldPath index (item index) ↔
      EntryAligned currentConfig fieldPath index (item index) := by
  have isRestored : EntryRestored currentConfig importedConfig fieldPath index (item index) ↔
      ∃ secret, restoreItem (getNestedValue currentConfig fieldPath) index (item index) =
          .str secret ∧ IsStored currentConfig fieldPath secret ∧
            .str (maskSensitiveValue secret) = item index := by
    rw [EntryRestored, lookup_restored isField isJson, isArray]
    simp only [Json.Lookup.map, restoredValue, Json.Lookup.found.injEq, Json.arr.injEq]
    constructor
    · rintro ⟨_, _, secret, ⟨_, rfl⟩, isSecret, isStored, isEntry⟩
      dsimp only at isSecret
      rw [if_pos inside] at isSecret
      exact ⟨secret, isSecret, isStored, isEntry⟩
    · rintro ⟨secret, isSecret, isStored, isEntry⟩
      exact ⟨_, _, secret, ⟨rfl, rfl⟩, (if_pos inside).trans isSecret, isStored, isEntry⟩
  rw [isRestored, EntryAligned, restoreItem, if_pos isMasked]
  cases isItem : currentItem (getNestedValue currentConfig fieldPath) index with
  | some stored =>
    rw [Option.getD_some]
    constructor
    · rintro ⟨secret, isSecret, _, isEntry⟩
      exact ⟨secret, isSecret, isEntry⟩
    · rintro ⟨secret, rfl, isEntry⟩
      exact ⟨secret, rfl, currentItem_some isItem, isEntry⟩
  | none =>
    rw [Option.getD_none]
    constructor
    · rintro ⟨secret, isSecret, isStored, isEntry⟩
      rw [isSecret, Json.str.injEq] at isEntry
      exact ⟨secret, isSecret, isStored, isEntry⟩
    · rintro ⟨secret, isSecret, isStored, isMask⟩
      exact ⟨secret, isSecret, isStored, by rw [isMask, isSecret]⟩

/-- For every stored and every submitted configuration: what is shown is restored to what is
stored, and each masked entry of a submitted array to a stored secret of which it is the mask,
exactly where every secret comes back from its mask and the entries stand at the indices of their
secrets. -/
theorem masks_restored_iff {currentConfig importedConfig : Json}
    (currentJson : currentConfig.clone = currentConfig)
    (importedJson : importedConfig.clone = importedConfig) :
    ((restoreMaskedSensitiveFields (prepareSensitiveConfigForDisplay currentConfig)
          currentConfig).1 = currentConfig ∧
        ForMaskedEntries importedConfig (EntryRestored currentConfig importedConfig)) ↔
      (∀ fieldPath ∈ SENSITIVE_FIELDS, ∀ value, currentConfig.lookup fieldPath = .found value →
          SecretsRecoverable value) ∧
        ForMaskedEntries importedConfig (EntryAligned currentConfig) := by
  refine and_congr (restored_display_iff currentJson) ?_
  refine forall₂_congr fun fieldPath isField => forall_congr' fun length => forall_congr' fun item =>
    imp_congr_right fun isArray => forall₂_congr fun index inside =>
      imp_congr_right fun isMasked => ?_
  exact entry_restored_iff isField importedJson isArray inside isMasked

def storedCookies (secrets : List String) : Json :=
  .object [("security", .object [("secrets", .object [("cookie_secrets",
    .array (secrets.map .str))])])]

def twoSecrets : Json := storedCookies ["first-secret", "second-secret"]

theorem lookup_storedCookies {secrets : List String} {fieldPath : Path}
    (isField : fieldPath ∈ SENSITIVE_FIELDS) {value : Json}
    (isFound : (storedCookies secrets).lookup fieldPath = .found value) :
    fieldPath = ["security", "secrets", "cookie_secrets"] ∧ value = .array (secrets.map .str) := by
  revert isFound
  revert fieldPath
  simp [SENSITIVE_FIELDS, storedCookies, Json.lookup, Json.object, eq_comm]

theorem masks_restored :
    (restoreMaskedSensitiveFields (prepareSensitiveConfigForDisplay twoSecrets)
          twoSecrets).1 = twoSecrets ∧
      ForMaskedEntries (storedCookies ["firs********"])
        (EntryRestored twoSecrets (storedCookies ["firs********"])) := by
  apply (masks_restored_iff (by simp [twoSecrets, storedCookies])
    (by simp [storedCookies])).mpr
  constructor
  · intro fieldPath isField value isFound
    rw [(lookup_storedCookies isField isFound).2]
    rintro index inside text isText
    have isSecret : text = "first-secret" ∨ text = "second-secret" := by
      match index, inside with
      | 0, _ => exact .inl (Json.str.inj isText).symm
      | 1, _ => exact .inr (Json.str.inj isText).symm
    obtain rfl | rfl := isSecret
    · exact .inr (.inl ⟨'f', by decide, by decide⟩)
    · exact .inr (.inl ⟨'s', by decide, by decide⟩)
  · intro fieldPath isField length item isArray index inside isMasked
    obtain ⟨rfl, isValue⟩ := lookup_storedCookies isField isArray
    cases isValue
    match index, inside with
    | 0, _ =>
      have isMask : maskSensitiveValue "first-secret" = "firs********" := by decide
      exact ⟨"first-secret", rfl, congrArg Json.str isMask⟩

theorem removed_entry_shifts :
    ¬ForMaskedEntries (storedCookies ["seco*********"])
      (EntryRestored twoSecrets (storedCookies ["seco*********"])) := by
  intro restores
  obtain ⟨length, restored, secret, isRestored, isSecret, _, isEntry⟩ :=
    restores ["security", "secrets", "cookie_secrets"] (by decide) 1 _ rfl 0 (by decide) (by decide)
  have isFirst : restored 0 = .str "first-secret" := by
    cases isRestored
    rfl
  rw [isFirst, Json.str.injEq] at isSecret
  subst isSecret
  exact absurd (Json.str.inj isEntry) (by decide)

end ParakoId.Settings
