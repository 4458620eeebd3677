import ParakoId.Config.Merge
import ParakoId.Library.Edits
import ParakoId.Settings.Encryption

/-!
The sensitive fields of a configuration, sealed before it is stored and opened after it is read.
-/

namespace ParakoId.Settings

open Json (Path)
open Config (getNestedValue getNestedValue_some setNestedValue)

def SENSITIVE_FIELDS : List Path := [
  ["security", "secrets", "jwt_secret"],
  ["security", "secrets", "cookie_secrets"],
  ["integrations", "email", "smtp_password"],
  ["integrations", "ipinfo", "api_token"],
  ["integrations", "ipqualityscore", "api_key"],
  ["integrations", "fingerprintjs", "api_key"],
  ["notifications", "channels", "sms", "api_key"],
  ["notifications", "channels", "sms", "api_secret"],
  ["features", "social_providers", "google", "client_secret"],
  ["features", "social_providers", "github", "client_secret"],
  ["features", "social_providers", "microsoft", "client_secret"],
  ["features", "social_providers", "linkedin", "client_secret"],
  ["features", "social_providers", "facebook", "client_secret"],
  ["oidc", "secrets", "pairwise_salt"]]

theorem sensitiveFields_separate :
    SENSITIVE_FIELDS.Pairwise fun first second => Json.apart first second = true :=
  Json.pairwise_of_separate (show Json.separate 4 SENSITIVE_FIELDS = true by decide +kernel)

def encryptItem (crypto : Crypto) (encryptionKey iv : String) (item : Json) : Except String Json :=
  match item with
  | .str text =>
    if text = "" then .ok item else (ensureEncrypted crypto iv text encryptionKey).map Json.str
  | _ => .ok item

def decryptItem (crypto : Crypto) (encryptionKey : String) (item : Json) : Except String Json :=
  match item with
  | .str text =>
    if text = "" then .ok item else (ensureDecrypted crypto text encryptionKey).map Json.str
  | _ => .ok item

def encryptField (crypto : Crypto) (encryptionKey : String) (randomBytes : Path → Nat → String)
    (encryptedConfig : Json) (fieldPath : Path) : Except String Json :=
  match getNestedValue encryptedConfig fieldPath with
  | some (.arr length item) =>
    match Json.mapItems (fun index => encryptItem crypto encryptionKey
        (randomBytes fieldPath index)) length item with
    | .error problem => .error problem
    | .ok encryptedArray =>
      .ok (setNestedValue encryptedConfig fieldPath (.arr length encryptedArray))
  | some (.str text) =>
    if text = "" then .ok encryptedConfig
    else match ensureEncrypted crypto (randomBytes fieldPath 0) text encryptionKey with
      | .error problem => .error problem
      | .ok encryptedValue => .ok (setNestedValue encryptedConfig fieldPath (.str encryptedValue))
  | _ => .ok encryptedConfig

/-- `encryptSensitiveFields`; a value that cannot be sealed ends it. -/
def encryptSensitiveFields (crypto : Crypto) (encryptionKey : String)
    (randomBytes : Path → Nat → String) (config : Json) : Except String Json :=
  SENSITIVE_FIELDS.foldlM (encryptField crypto encryptionKey randomBytes) config.clone

def decryptField (crypto : Crypto) (encryptionKey : String) (decryptedConfig : Json)
    (fieldPath : Path) : Json :=
  match getNestedValue decryptedConfig fieldPath with
  | some (.arr length item) =>
    match Json.mapItems (fun _ => decryptItem crypto encryptionKey) length item with
    | .error _ => decryptedConfig
    | .ok decryptedArray => setNestedValue decryptedConfig fieldPath (.arr length decryptedArray)
  | some (.str text) =>
    if text = "" then decryptedConfig
    else match ensureDecrypted crypto text encryptionKey with
      | .error _ => decryptedConfig
      | .ok decryptedValue => setNestedValue decryptedConfig fieldPath (.str decryptedValue)
  | _ => decryptedConfig

def decryptSensitiveFields (crypto : Crypto) (encryptionKey : String) (config : Json) : Json :=
  SENSITIVE_FIELDS.foldl (decryptField crypto encryptionKey) config.clone

section Values

variable (crypto : Crypto) (encryptionKey : String)

def encryptedValue (randomBytes : Nat → String) (value : Json) : Except String Json :=
  match value with
  | .arr length item =>
    (Json.mapItems (fun index => encryptItem crypto encryptionKey (randomBytes index))
      length item).map (Json.arr length)
  | _ => encryptItem crypto encryptionKey (randomBytes 0) value

def decryptedValue (value : Json) : Json :=
  match value with
  | .arr length item =>
    match Json.mapItems (fun _ => decryptItem crypto encryptionKey) length item with
    | .error _ => value
    | .ok decryptedArray => .arr length decryptedArray
  | _ => match decryptItem crypto encryptionKey value with
    | .error _ => value
    | .ok decrypted => decrypted

/-- What is stored of a value: the value itself where sealing it fails. -/
def storedValue (randomBytes : Nat → String) (value : Json) : Json :=
  match encryptedValue crypto encryptionKey randomBytes value with
  | .error _ => value
  | .ok encrypted => encrypted

variable {crypto encryptionKey}

theorem decryptField_eq (config : Json) (fieldPath : Path) :
    decryptField crypto encryptionKey config fieldPath =
      Json.modify (decryptedValue crypto encryptionKey) fieldPath config := by
  cases read : getNestedValue config fieldPath with
  | none => simp [decryptField, read, Json.modify_missing (by simpa [getNestedValue] using read)]
  | some value =>
    have found := getNestedValue_some.mp read
    have same : Json.write value fieldPath config = config := Json.write_same found
    rw [← Json.write_of_found (decryptedValue crypto encryptionKey) found]
    simp only [decryptField, read]
    cases value with
    | arr length item =>
      cases mapped : Json.mapItems (fun _ => decryptItem crypto encryptionKey) length item with
      | error problem => simpa [mapped, decryptedValue] using same.symm
      | ok decryptedArray => simp [mapped, decryptedValue, setNestedValue]
    | str text =>
      by_cases empty : text = ""
      · simpa [empty, decryptedValue, decryptItem] using same.symm
      · cases opened : ensureDecrypted crypto text encryptionKey with
        | error problem =>
          simpa [empty, opened, decryptedValue, decryptItem, Except.map] using same.symm
        | ok plain => simp [empty, opened, decryptedValue, decryptItem, Except.map, setNestedValue]
    | _ => exact same.symm

variable {randomBytes : Path → Nat → String}

theorem encryptField_some {config value : Json} {fieldPath : Path}
    (read : getNestedValue config fieldPath = some value) :
    encryptField crypto encryptionKey randomBytes config fieldPath =
      (encryptedValue crypto encryptionKey (randomBytes fieldPath) value).map
        (setNestedValue config fieldPath) := by
  have same : setNestedValue config fieldPath value = config :=
    Json.write_same (getNestedValue_some.mp read)
  simp only [encryptField, read]
  cases value with
  | arr length item =>
    simp only [encryptedValue]
    cases Json.mapItems (fun index => encryptItem crypto encryptionKey (randomBytes fieldPath index))
      length item <;> rfl
  | str text =>
    simp only [encryptedValue, encryptItem]
    by_cases empty : text = ""
    · subst empty
      simp [Except.map, same]
    · simp only [empty, if_false]
      cases ensureEncrypted crypto (randomBytes fieldPath 0) text encryptionKey <;> rfl
  | _ => simp [encryptedValue, encryptItem, Except.map, same]

theorem encryptField_ok {config encrypted : Json} {fieldPath : Path}
    (ok : encryptField crypto encryptionKey randomBytes config fieldPath = .ok encrypted) :
    encrypted =
        Json.modify (storedValue crypto encryptionKey (randomBytes fieldPath)) fieldPath config ∧
      ∀ value, getNestedValue config fieldPath = some value →
        ∃ stored, encryptedValue crypto encryptionKey (randomBytes fieldPath) value = .ok stored := by
  cases read : getNestedValue config fieldPath with
  | none =>
    simp only [encryptField, read, Except.ok.injEq] at ok
    rw [Json.modify_missing (by simpa [getNestedValue] using read)]
    simp [ok]
  | some value =>
    rw [encryptField_some read] at ok
    cases sealedAs : encryptedValue crypto encryptionKey (randomBytes fieldPath) value with
    | error problem => simp [sealedAs, Except.map] at ok
    | ok stored =>
      have written := Json.write_of_found
        (storedValue crypto encryptionKey (randomBytes fieldPath)) (getNestedValue_some.mp read)
      simp only [sealedAs, Except.map, Except.ok.injEq] at ok
      constructor
      · rw [← written, ← ok]
        simp [storedValue, sealedAs, setNestedValue]
      · intro other isValue
        obtain rfl : value = other := by simpa using isValue
        exact ⟨stored, sealedAs⟩

theorem decryptSensitiveFields_eq (config : Json) :
    decryptSensitiveFields crypto encryptionKey config =
      Json.modifyAll (fun _ => decryptedValue crypto encryptionKey) SENSITIVE_FIELDS config.clone := by
  simp only [decryptSensitiveFields, Json.modifyAll]
  congr 1
  funext decrypted fieldPath
  exact decryptField_eq decrypted fieldPath

theorem encryptFields_ok {fields : List Path}
    (separated : fields.Pairwise fun first second => Json.apart first second = true)
    {config encrypted : Json}
    (ok : fields.foldlM (encryptField crypto encryptionKey randomBytes) config = .ok encrypted) :
    encrypted = Json.modifyAll
        (fun fieldPath => storedValue crypto encryptionKey (randomBytes fieldPath)) fields config ∧
      ∀ fieldPath ∈ fields, ∀ value, getNestedValue config fieldPath = some value →
        ∃ stored, encryptedValue crypto encryptionKey (randomBytes fieldPath) value = .ok stored := by
  induction fields generalizing config with
  | nil =>
    simp only [List.foldlM_nil, pure, Except.pure, Except.ok.injEq] at ok
    simp [Json.modifyAll, ok]
  | cons first rest ih =>
    rw [List.pairwise_cons] at separated
    rw [List.foldlM_cons] at ok
    cases step : encryptField crypto encryptionKey randomBytes config first with
    | error problem => simp [step, bind, Except.bind] at ok
    | ok next =>
      simp only [step, bind, Except.bind] at ok
      obtain ⟨nextIs, firstSealed⟩ := encryptField_ok step
      obtain ⟨encryptedIs, restSealed⟩ := ih separated.2 ok
      refine ⟨by rw [encryptedIs, nextIs, Json.modifyAll_cons], ?_⟩
      intro fieldPath member value read
      rcases List.mem_cons.mp member with rfl | inRest
      · exact firstSealed value read
      · apply restSealed fieldPath inRest value
        rw [nextIs, getNestedValue, Json.lookup_modify_apart _ (separated.1 fieldPath inRest)]
        exact read

theorem encryptSensitiveFields_ok {config encrypted : Json}
    (ok : encryptSensitiveFields crypto encryptionKey randomBytes config = .ok encrypted) :
    encrypted = Json.modifyAll
        (fun fieldPath => storedValue crypto encryptionKey (randomBytes fieldPath))
        SENSITIVE_FIELDS config.clone ∧
      ∀ fieldPath ∈ SENSITIVE_FIELDS, ∀ value, getNestedValue config.clone fieldPath = some value →
        ∃ stored, encryptedValue crypto encryptionKey (randomBytes fieldPath) value = .ok stored :=
  encryptFields_ok sensitiveFields_separate ok

end Values

end ParakoId.Settings
