import ParakoId.Settings.SensitiveFields

/-! What comes back when a configuration is sealed and opened under one key. -/

namespace ParakoId.Settings

open Json (Path)
open Config (getNestedValue getNestedValue_some setNestedValue)

variable {crypto : Crypto} {encryptionKey : String}

def Opens (crypto : Crypto) (encryptionKey text plain : String) : Prop :=
  ensureDecrypted crypto text encryptionKey = .ok plain

def ComesBack (crypto : Crypto) (encryptionKey : String) : Json → Prop
  | .str text => ∀ plain, Opens crypto encryptionKey text plain → plain = text
  | .arr length item =>
    (∀ index < length, ∀ text, item index = .str text → Opens crypto encryptionKey text text) ∨
      (∃ index < length, ∃ text, item index = .str text ∧
          ∀ plain, ¬ Opens crypto encryptionKey text plain) ∧
        ∀ index < length, ∀ text, item index = .str text → text = "" ∨ isEncrypted text = true
  | _ => True

theorem encryptItem_clone (iv : String) (item : Json) :
    encryptItem crypto encryptionKey iv item.clone =
      (encryptItem crypto encryptionKey iv item).map Json.clone := by
  cases item with
  | str text =>
    simp only [Json.clone, encryptItem]
    split
    · rfl
    · cases ensureEncrypted crypto iv text encryptionKey <;> rfl
  | num value => cases value <;> rfl
  | _ => rfl

theorem storedValue_clone (randomBytes : Nat → String) (value : Json) :
    (storedValue crypto encryptionKey randomBytes value).clone =
      storedValue crypto encryptionKey randomBytes value.clone := by
  cases value with
  | arr length item =>
    have mapped : Json.mapItems (fun index => encryptItem crypto encryptionKey (randomBytes index))
        length (fun index => (item index).clone) =
        (Json.mapItems (fun index => encryptItem crypto encryptionKey (randomBytes index))
          length item).map (fun stored index => (stored index).clone) :=
      Json.mapItems_map fun index item => encryptItem_clone (randomBytes index) item
    simp only [storedValue, encryptedValue, Json.clone, mapped]
    cases Json.mapItems (fun index => encryptItem crypto encryptionKey (randomBytes index))
      length item <;> rfl
  | num value => cases value <;> rfl
  | str text =>
    have natural : encryptItem crypto encryptionKey (randomBytes 0) (.str text) =
        (encryptItem crypto encryptionKey (randomBytes 0) (.str text)).map Json.clone :=
      encryptItem_clone (randomBytes 0) (.str text)
    simp only [storedValue, encryptedValue, Json.clone]
    cases sealedAs : encryptItem crypto encryptionKey (randomBytes 0) (.str text) with
    | error problem => rfl
    | ok stored => simpa [sealedAs, Except.map] using natural.symm
  | _ => rfl

theorem opens_plain {text : String} (plain : isEncrypted text = false) :
    Opens crypto encryptionKey text text := ensureDecrypted_plain plain

theorem isEncrypted_empty : isEncrypted "" = false := by simp [isEncrypted, ENCRYPTED_PREFIX]

theorem decryptItem_str (text : String) : decryptItem crypto encryptionKey (.str text) =
    (ensureDecrypted crypto text encryptionKey).map Json.str := by
  by_cases empty : text = ""
  · subst empty
    simp [decryptItem, ensureDecrypted_plain isEncrypted_empty, Except.map]
  · simp [decryptItem, empty]

theorem decryptItem_str_ok {text plain : String} :
    decryptItem crypto encryptionKey (.str text) = .ok (.str plain) ↔
      Opens crypto encryptionKey text plain := by
  rw [decryptItem_str, Opens]
  cases ensureDecrypted crypto text encryptionKey <;> simp [Except.map]

theorem decryptItem_error {item : Json} {problem : String}
    (failed : decryptItem crypto encryptionKey item = .error problem) :
    ∃ text, item = .str text ∧ isEncrypted text = true ∧
      ∀ plain, ¬ Opens crypto encryptionKey text plain := by
  cases item with
  | str text =>
    rw [decryptItem_str] at failed
    cases opened : ensureDecrypted crypto text encryptionKey with
    | ok plain => simp [opened, Except.map] at failed
    | error other =>
      refine ⟨text, rfl, ?_, fun plain => by simp [Opens, opened]⟩
      by_contra plain
      rw [ensureDecrypted_plain (by simpa using plain)] at opened
      simp at opened
  | _ => simp [decryptItem] at failed

theorem decryptedValue_arr (crypto : Crypto) (encryptionKey : String) (length : Nat)
    (item : Nat → Json) :
    ∃ items, decryptedValue crypto encryptionKey (.arr length item) = .arr length items := by
  simp only [decryptedValue]
  split
  · exact ⟨item, rfl⟩
  · exact ⟨_, rfl⟩

section Sealing

variable (lawful : crypto.Lawful) {iv : String} (random : IsIv iv)
include lawful random

theorem decryptItem_encryptItem {item stored : Json}
    (encrypted : encryptItem crypto encryptionKey iv item = .ok stored) :
    decryptItem crypto encryptionKey stored = decryptItem crypto encryptionKey item ∧
      (stored = item ↔ ∀ text, item = .str text → text = "" ∨ isEncrypted text = true) := by
  cases item with
  | str text =>
    by_cases empty : text = ""
    · simp only [encryptItem, empty, if_true, Except.ok.injEq] at encrypted
      simp [← encrypted, empty]
    · simp only [encryptItem, empty, if_false] at encrypted
      cases sealedAs : ensureEncrypted crypto iv text encryptionKey with
      | error problem => simp [sealedAs, Except.map] at encrypted
      | ok storedText =>
        simp only [sealedAs, Except.map, Except.ok.injEq] at encrypted
        subst encrypted
        by_cases marked : isEncrypted text = true
        · simp [ensureEncrypted_marked sealedAs marked, marked]
        · have plain : isEncrypted text = false := by simpa using marked
          obtain ⟨storedMarked, opens⟩ := ensureEncrypted_plain lawful random sealedAs plain
          have different : storedText ≠ text := by
            intro same
            rw [same, plain] at storedMarked
            simp at storedMarked
          simp [decryptItem_str, opens, ensureDecrypted_plain plain, different, empty, plain]
  | _ =>
    simp only [encryptItem, Except.ok.injEq] at encrypted
    simp [← encrypted]

theorem scalar_comesBack {item stored : Json} (notArray : ∀ length items, item ≠ .arr length items)
    (encrypted : encryptItem crypto encryptionKey iv item = .ok stored) :
    decryptedValue crypto encryptionKey stored = item ↔
      ComesBack crypto encryptionKey item := by
  obtain ⟨opens, kept⟩ := decryptItem_encryptItem lawful random encrypted
  cases item with
  | arr length items => exact (notArray length items rfl).elim
  | str text =>
    have storedText : ∃ other, stored = .str other := by
      by_cases unchanged : stored = .str text
      · exact ⟨text, unchanged⟩
      · simp only [encryptItem] at encrypted
        split at encrypted
        · simp_all
        · cases sealedAs : ensureEncrypted crypto iv text encryptionKey with
          | error problem => simp [sealedAs, Except.map] at encrypted
          | ok other => exact ⟨other, by simpa [sealedAs, Except.map] using encrypted.symm⟩
    obtain ⟨other, rfl⟩ := storedText
    simp only [decryptedValue, opens, ComesBack]
    cases opened : decryptItem crypto encryptionKey (.str text) with
    | error problem =>
      obtain ⟨sameText, isText, marked, unopened⟩ := decryptItem_error opened
      obtain rfl : text = sameText := by simpa using isText
      have same : Json.str other = .str text := kept.mpr fun inner isInner => by
        obtain rfl : text = inner := by simpa using isInner
        exact Or.inr marked
      simp only [same, true_iff]
      intro plain opensTo
      exact (unopened plain opensTo).elim
    | ok result =>
      rw [decryptItem_str] at opened
      cases plainOf : ensureDecrypted crypto text encryptionKey with
      | error problem => simp [plainOf, Except.map] at opened
      | ok plain =>
        simp only [plainOf, Except.map, Except.ok.injEq] at opened
        simp [← opened, Opens, plainOf]
  | _ =>
    simp only [encryptItem, Except.ok.injEq] at encrypted
    simp [← encrypted, decryptedValue, decryptItem, ComesBack]

end Sealing

theorem arr_inj {length : Nat} {first second : Nat → Json} :
    Json.arr length first = .arr length second ↔ ∀ index, first index = second index := by
  simp [funext_iff]

theorem array_comesBack (lawful : crypto.Lawful) {randomBytes : Nat → String}
    (random : ∀ index, IsIv (randomBytes index)) {length : Nat} {item stored : Nat → Json}
    (encrypted : Json.mapItems (fun index => encryptItem crypto encryptionKey (randomBytes index))
      length item = .ok stored) :
    decryptedValue crypto encryptionKey (.arr length stored) = .arr length item ↔
      ComesBack crypto encryptionKey (.arr length item) := by
  obtain ⟨below, above⟩ := Json.mapItems_spec encrypted
  have opensAlike : ∀ index < length, decryptItem crypto encryptionKey (stored index) =
      decryptItem crypto encryptionKey (item index) := fun index bound =>
    (decryptItem_encryptItem lawful (random index) (below index bound)).1
  have keptIff : ∀ index < length, stored index = item index ↔
      ∀ text, item index = .str text → text = "" ∨ isEncrypted text = true := fun index bound =>
    (decryptItem_encryptItem lawful (random index) (below index bound)).2
  simp only [decryptedValue, ComesBack]
  cases opened : Json.mapItems (fun _ => decryptItem crypto encryptionKey) length stored with
  | error problem =>
    obtain ⟨index, bound, problem, fails⟩ := Json.mapItems_failed opened
    rw [opensAlike index bound] at fails
    obtain ⟨text, isText, _, unopened⟩ := decryptItem_error fails
    have failing : ∃ index < length, ∃ text, item index = .str text ∧
        ∀ plain, ¬ Opens crypto encryptionKey text plain :=
      ⟨index, bound, text, isText, unopened⟩
    have notAll : ¬ ∀ index < length, ∀ text, item index = .str text →
        Opens crypto encryptionKey text text := by
      intro all
      exact unopened text (all index bound text isText)
    simp only [arr_inj, notAll, failing, true_and, false_or]
    constructor
    · intro same index bound
      exact (keptIff index bound).mp (same index)
    · intro marked index
      by_cases bound : index < length
      · exact (keptIff index bound).mpr (marked index bound)
      · exact above index (by omega)
  | ok plain =>
    obtain ⟨plainBelow, plainAbove⟩ := Json.mapItems_spec opened
    have itemOpens : ∀ index < length,
        decryptItem crypto encryptionKey (item index) = .ok (plain index) := by
      intro index bound
      rw [← opensAlike index bound]
      exact plainBelow index bound
    have noneFails : ¬ ∃ index < length, ∃ text, item index = .str text ∧
        ∀ plain, ¬ Opens crypto encryptionKey text plain := by
      rintro ⟨index, bound, text, isText, unopened⟩
      have opens := itemOpens index bound
      rw [isText, decryptItem_str] at opens
      cases plainOf : ensureDecrypted crypto text encryptionKey with
      | error problem => simp [plainOf, Except.map] at opens
      | ok result => exact unopened result plainOf
    simp only [arr_inj, noneFails, false_and, or_false]
    constructor
    · intro same index bound text isText
      have opens := itemOpens index bound
      rw [same index, isText, decryptItem_str_ok] at opens
      exact opens
    · intro opensToItself index
      by_cases bound : index < length
      · have opens := itemOpens index bound
        cases isItem : item index with
        | str text =>
          have itself := decryptItem_str_ok.mpr (opensToItself index bound text isItem)
          rw [isItem, itself] at opens
          simpa using opens.symm
        | _ =>
          rw [isItem] at opens
          simpa [decryptItem] using opens.symm
      · rw [plainAbove index (by omega), above index (by omega)]

theorem value_comesBack (lawful : crypto.Lawful) {randomBytes : Nat → String}
    (random : ∀ index, IsIv (randomBytes index)) {value stored : Json}
    (encrypted : encryptedValue crypto encryptionKey randomBytes value = .ok stored) :
    decryptedValue crypto encryptionKey stored = value ↔
      ComesBack crypto encryptionKey value := by
  cases value with
  | arr length item =>
    simp only [encryptedValue] at encrypted
    cases mapped : Json.mapItems (fun index => encryptItem crypto encryptionKey (randomBytes index))
        length item with
    | error problem => simp [mapped, Except.map] at encrypted
    | ok items =>
      simp only [mapped, Except.map, Except.ok.injEq] at encrypted
      rw [← encrypted]
      exact array_comesBack lawful random mapped
  | _ => exact scalar_comesBack lawful (random 0) (by simp) encrypted

/-- A configuration that was saved comes back as its own JSON copy exactly when each of
its sensitive values does. -/
theorem decrypt_encrypt_iff (lawful : crypto.Lawful) {randomBytes : Path → Nat → String}
    (random : ∀ fieldPath index, IsIv (randomBytes fieldPath index)) {config encrypted : Json}
    (saved : encryptSensitiveFields crypto encryptionKey randomBytes config = .ok encrypted) :
    decryptSensitiveFields crypto encryptionKey encrypted = config.clone ↔
      ∀ fieldPath ∈ SENSITIVE_FIELDS, ∀ value,
        getNestedValue config.clone fieldPath = some value →
          ComesBack crypto encryptionKey value := by
  obtain ⟨encryptedIs, sealedValues⟩ := encryptSensitiveFields_ok saved
  have cloned : encrypted.clone = encrypted := by
    rw [encryptedIs, Json.clone_modifyAll fun fieldPath => storedValue_clone (randomBytes fieldPath),
      Json.clone_clone]
  rw [decryptSensitiveFields_eq, cloned, encryptedIs,
    Json.modifyAll_modifyAll sensitiveFields_separate,
    Json.modifyAll_eq_self_iff sensitiveFields_separate]
  have fieldwise : ∀ fieldPath ∈ SENSITIVE_FIELDS, ∀ value,
      getNestedValue config.clone fieldPath = some value →
      (decryptedValue crypto encryptionKey
          (storedValue crypto encryptionKey (randomBytes fieldPath) value) = value ↔
        ComesBack crypto encryptionKey value) := by
    intro fieldPath member value read
    obtain ⟨stored, sealedAs⟩ := sealedValues fieldPath member value read
    rw [storedValue, sealedAs]
    exact value_comesBack lawful (random fieldPath) sealedAs
  constructor
  · intro unchanged fieldPath member value read
    exact (fieldwise fieldPath member value read).mp
      (unchanged fieldPath member value (getNestedValue_some.mp read))
  · intro comesBack fieldPath member value found
    have read := getNestedValue_some.mpr found
    exact (fieldwise fieldPath member value read).mpr (comesBack fieldPath member value read)

def passwordConfig (password : String) : Json :=
  .object [("integrations", .object [("email", .object [("smtp_password", .str password)])])]

theorem password_read (password : String) : ∀ fieldPath ∈ SENSITIVE_FIELDS, ∀ value,
    getNestedValue (passwordConfig password).clone fieldPath = some value →
      value = .str password := by
  simp [SENSITIVE_FIELDS, getNestedValue, passwordConfig, Json.object, Json.clone,
    Json.Lookup.toOption]

theorem password_comesBack : ∃ encrypted,
    encryptSensitiveFields transparentCrypto zeroKey (fun _ _ => zeroIv)
        (passwordConfig "smtp-secret") = .ok encrypted ∧
      decryptSensitiveFields transparentCrypto zeroKey encrypted =
        (passwordConfig "smtp-secret").clone := by
  refine ⟨_, rfl, ?_⟩
  apply (decrypt_encrypt_iff transparentCrypto_lawful (fun _ _ => zeroIv_isIv) rfl).mpr
  intro fieldPath member value read
  rw [password_read "smtp-secret" fieldPath member value read]
  intro plain opens
  have plainText : isEncrypted "smtp-secret" = false := by decide
  simpa [Opens, ensureDecrypted_plain plainText] using opens.symm

/-- The text `s` sealed under the key of zeros. -/
def sealedText : String :=
  "ENCRYPTED:v1:000000000000000000000000:00000000000000000000000000000000:000073"

theorem sealedText_comesBackOpened : ∃ encrypted,
    encryptSensitiveFields transparentCrypto zeroKey (fun _ _ => zeroIv)
        (passwordConfig sealedText) = .ok encrypted ∧
      decryptSensitiveFields transparentCrypto zeroKey encrypted ≠
        (passwordConfig sealedText).clone := by
  refine ⟨_, rfl, ?_⟩
  intro same
  have passwords := congrArg (getNestedValue · ["integrations", "email", "smtp_password"]) same
  have opened : some (Json.str "s") = some (Json.str sealedText) := passwords
  simp [sealedText] at opened

end ParakoId.Settings
