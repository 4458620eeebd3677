import ParakoId.Settings.RoundTrip
import ParakoId.TenantOverrides.Service

/-!
Loading the stored configuration: the key is checked, the sensitive fields are opened one by one,
and the schema parses what came of it.
-/

namespace ParakoId.Settings

open Json (Path)
open Config (getNestedValue getNestedValue_some setNestedValue)
open Text (utf16Length)
open TenantOverrides (trim)
open Text (isWhiteSpace)

/-- What loading takes from outside: cryptography, the configured key, and
`PersistedConfigSchema.parse`. -/
structure Environment where
  crypto : Crypto
  encryptionKey : Option String
  parse : Json → Except String Json

def missingKeyMessage : String := "ENCRYPTION_KEY environment variable is not set. " ++
  "Please set it in your .env file. " ++
  "Generate a key using: node -e \"console.log(require('crypto').randomBytes(32).toString('hex'))\""

def invalidKeyMessage : String :=
  "ENCRYPTION_KEY must be 32 bytes (64 hex characters or 44 base64 characters). " ++
  "Current key length is invalid. " ++
  "Generate a new key using: node -e \"console.log(require('crypto').randomBytes(32).toString('hex'))\""

def validateEncryptionKey (environment : Environment) : Except String String :=
  match environment.encryptionKey with
  | none => .error missingKeyMessage
  | some "" => .error missingKeyMessage
  | some encryptionKey =>
    let isValidHex := utf16Length encryptionKey = 64 ∧ HEX_PATTERN encryptionKey = true
    let base64Buffer := environment.crypto.fromBase64 encryptionKey
    let isValidBase64 := utf16Length encryptionKey = 44 ∧ base64Buffer.length = 32 ∧
      environment.crypto.toBase64 base64Buffer = encryptionKey
    let isValidBuffer := (utf8Bytes encryptionKey).length = 32
    if ¬isValidHex ∧ ¬isValidBase64 ∧ ¬isValidBuffer then
      .error invalidKeyMessage
    else .ok encryptionKey

def spreadBoth (first second : Json) : Json :=
  match first.spread, second.spread with
  | .obj keys value, .obj newKeys newValue =>
    .obj (keys ++ newKeys.filter (· ∉ keys)) fun key =>
      if key ∈ newKeys then newValue key else value key
  | other, _ => other

/-- `settings` is what `findActive` returns. -/
def loadAndDecryptConfiguration (environment : Environment) (settings : Option Json) :
    Except String (Option Json) :=
  match validateEncryptionKey environment with
  | .error problem => .error problem
  | .ok encryptionKey => match settings with
    | none => .ok none
    | some settings =>
      match environment.parse (decryptSensitiveFields environment.crypto encryptionKey settings) with
      | .error problem => .error problem
      | .ok validatedConfig => .ok (some (spreadBoth settings validatedConfig))

def loadFromDatabase (environment : Environment) (documentExists : Bool) (settings : Option Json) :
    Except String (Option Json) :=
  if documentExists = false then .ok none
  else match loadAndDecryptConfiguration environment settings with
    | .error problem => .error problem
    | .ok none => .error ("Configuration document exists but failed to load. " ++
        "Check ENCRYPTION_KEY matches the key used to encrypt config. " ++
        "Check database connectivity and permissions.")
    | .ok (some settings) => match environment.parse settings with
      | .error problem => .error problem
      | .ok config => .ok (some config)

def cookieSecrets : Path := ["security", "secrets", "cookie_secrets"]

def pairwiseSalt : Path := ["oidc", "secrets", "pairwise_salt"]

-- `optionalSocialProviderCredential`
def TRIMMED_FIELDS : List Path := [
  ["features", "social_providers", "google", "client_secret"],
  ["features", "social_providers", "github", "client_secret"],
  ["features", "social_providers", "microsoft", "client_secret"],
  ["features", "social_providers", "linkedin", "client_secret"],
  ["features", "social_providers", "facebook", "client_secret"]]

def parsedText (fieldPath : Path) (text : String) : String :=
  if fieldPath ∈ TRIMMED_FIELDS then trim text else text

def parsedValue (fieldPath : Path) : Json → Json
  | .str text => .str (parsedText fieldPath text)
  | other => other

def parsedSecret (fieldPath : Path) (value : Option Json) : Option Json :=
  match value with
  | none => if fieldPath = pairwiseSalt then some (.str "parako-id-salt") else none
  | some value => some (parsedValue fieldPath value)

/-- The part of the schema that concerns the sensitive fields: their sections are there
in what it returns, `cookie_secrets` alone is an array, social client secrets are trimmed,
and the pairwise salt has a default. -/
structure ReadsSecrets (parse : Json → Except String Json) : Prop where
  sections : ∀ config parsed, parse config = .ok parsed → parsed.isObject = true ∧
    ∀ key rest, key :: rest ∈ SENSITIVE_FIELDS → (parsed.property key).isSome = true
  arrays : ∀ config parsed, parse config = .ok parsed → ∀ fieldPath ∈ SENSITIVE_FIELDS,
    ∀ length item, getNestedValue config fieldPath = some (.arr length item) →
      fieldPath = cookieSecrets
  secrets : ∀ config parsed, parse config = .ok parsed → ∀ fieldPath ∈ SENSITIVE_FIELDS,
    getNestedValue parsed fieldPath = parsedSecret fieldPath (getNestedValue config fieldPath)

def Holds (text : String) : Json → Prop
  | .str held => held = text
  | .arr length item => ∃ index < length, item index = .str text
  | _ => False

def HoldsNoEnvelope (config : Json) : Prop :=
  ∀ fieldPath ∈ SENSITIVE_FIELDS, ∀ value, getNestedValue config fieldPath = some value →
    ∀ text, Holds text value → isEncrypted text = false

/-- Whether a stored text reads as a secret: it opens, if it is sealed, and what the schema
makes of the plain text does not look sealed. -/
def Readable (crypto : Crypto) (encryptionKey : String) (fieldPath : Path) (text : String) : Prop :=
  ∃ plain, Opens crypto encryptionKey text plain ∧ isEncrypted (parsedText fieldPath plain) = false

section Trimming

theorem trim_eq (text : String) :
    trim text = String.ofList ((text.toList.dropWhile isWhiteSpace).rdropWhile isWhiteSpace) := rfl

theorem trim_trim (text : String) : trim (trim text) = trim text := by
  simp only [trim_eq, String.toList_ofList, Text.trimmed_trimmed]

theorem isEncrypted_trim {text : String} (marked : isEncrypted text = true) :
    isEncrypted (trim text) = true := by
  obtain ⟨rest, isText⟩ := List.isPrefixOf_iff_prefix.mp marked
  have leading : text.toList.dropWhile isWhiteSpace = text.toList := by
    rw [← isText]
    exact List.dropWhile_cons_of_neg (by decide)
  have trimmed := Text.rdropWhile_append_of_neg "ENCRYPTED".toList rest
    (show isWhiteSpace ':' = false by decide)
  have split : ENCRYPTED_PREFIX.toList ++ rest = "ENCRYPTED".toList ++ ':' :: rest := by
    simp [ENCRYPTED_PREFIX]
  rw [isEncrypted, trim_eq, leading, String.toList_ofList, ← isText, split, trimmed]
  simp [ENCRYPTED_PREFIX]

end Trimming

theorem parsedText_parsedText (fieldPath : Path) (text : String) :
    parsedText fieldPath (parsedText fieldPath text) = parsedText fieldPath text := by
  simp only [parsedText]
  split
  · exact trim_trim text
  · rfl

theorem isEncrypted_parsedText {fieldPath : Path} {text : String}
    (marked : isEncrypted text = true) : isEncrypted (parsedText fieldPath text) = true := by
  simp only [parsedText]
  split
  · exact isEncrypted_trim marked
  · exact marked

theorem parsedSecret_parsedSecret (fieldPath : Path) (value : Option Json) :
    parsedSecret fieldPath (parsedSecret fieldPath value) = parsedSecret fieldPath value := by
  cases value with
  | none =>
    by_cases isSalt : fieldPath = pairwiseSalt
    · have untrimmed : pairwiseSalt ∉ TRIMMED_FIELDS := by decide
      simp [parsedSecret, isSalt, parsedValue, parsedText, untrimmed]
    · simp [parsedSecret, isSalt]
  | some value => cases value <;> simp [parsedSecret, parsedValue, parsedText_parsedText]

section Values

variable {crypto : Crypto} {encryptionKey : String} {fieldPath : Path}

theorem text_clean_iff (text : String) :
    (∀ held, Holds held (parsedValue fieldPath (decryptedValue crypto encryptionKey (.str text))) →
        isEncrypted held = false) ↔ Readable crypto encryptionKey fieldPath text := by
  simp only [decryptedValue]
  cases opened : decryptItem crypto encryptionKey (.str text) with
  | error problem =>
    obtain ⟨same, isText, marked, unopened⟩ := decryptItem_error opened
    obtain rfl : text = same := by simpa using isText
    constructor
    · intro clean
      have plain := clean (parsedText fieldPath text) rfl
      rw [isEncrypted_parsedText marked] at plain
      simp at plain
    · rintro ⟨plain, opens, _⟩
      exact (unopened plain opens).elim
  | ok result =>
    rw [decryptItem_str] at opened
    cases plainOf : ensureDecrypted crypto text encryptionKey with
    | error problem => simp [plainOf, Except.map] at opened
    | ok plain =>
      simp only [plainOf, Except.map, Except.ok.injEq] at opened
      simp [← opened, parsedValue, Holds, Readable, Opens, plainOf]

theorem items_clean_iff (isCookies : fieldPath = cookieSecrets) (length : Nat) (item : Nat → Json) :
    (∀ held, Holds held (decryptedValue crypto encryptionKey (.arr length item)) →
        isEncrypted held = false) ↔
      ∀ text, Holds text (.arr length item) → Readable crypto encryptionKey fieldPath text := by
  have untrimmed : ∀ text, parsedText fieldPath text = text := by
    intro text
    have notTrimmed : cookieSecrets ∉ TRIMMED_FIELDS := by decide
    simp [parsedText, isCookies, notTrimmed]
  simp only [decryptedValue]
  cases opened : Json.mapItems (fun _ => decryptItem crypto encryptionKey) length item with
  | error problem =>
    obtain ⟨index, bound, problem, fails⟩ := Json.mapItems_failed opened
    obtain ⟨text, isText, marked, unopened⟩ := decryptItem_error fails
    constructor
    · intro clean
      have plain := clean text ⟨index, bound, isText⟩
      simp [marked] at plain
    · intro readable
      obtain ⟨plain, opens, _⟩ := readable text ⟨index, bound, isText⟩
      exact (unopened plain opens).elim
  | ok plainItems =>
    obtain ⟨below, _⟩ := Json.mapItems_spec opened
    constructor
    · rintro clean text ⟨index, bound, isText⟩
      have opens := below index bound
      rw [isText, decryptItem_str] at opens
      cases plainOf : ensureDecrypted crypto text encryptionKey with
      | error problem => simp [plainOf, Except.map] at opens
      | ok plain =>
        simp only [plainOf, Except.map, Except.ok.injEq] at opens
        refine ⟨plain, plainOf, ?_⟩
        rw [untrimmed]
        exact clean plain ⟨index, bound, opens.symm⟩
    · rintro readable held ⟨index, bound, isHeld⟩
      have opens := below index bound
      rw [isHeld] at opens
      cases isItem : item index with
      | str text =>
        rw [isItem, decryptItem_str_ok] at opens
        obtain ⟨plain, plainOpens, plainClean⟩ := readable text ⟨index, bound, isItem⟩
        have same : plain = held := by
          rw [Opens, opens] at plainOpens
          exact (Except.ok.inj plainOpens).symm
        rwa [untrimmed, same] at plainClean
      | _ => simp [isItem, decryptItem] at opens

theorem value_clean_iff {value : Json}
    (arrays : ∀ length item, value = .arr length item → fieldPath = cookieSecrets) :
    (∀ held, Holds held (parsedValue fieldPath (decryptedValue crypto encryptionKey value)) →
        isEncrypted held = false) ↔
      ∀ text, Holds text value → Readable crypto encryptionKey fieldPath text := by
  cases value with
  | str text => simpa [Holds] using text_clean_iff text
  | arr length item =>
    obtain ⟨items, isArray⟩ := decryptedValue_arr crypto encryptionKey length item
    rw [← items_clean_iff (arrays length item rfl), isArray]
    rfl
  | _ => simp [decryptedValue, decryptItem, parsedValue, Holds]

end Values

variable {environment : Environment}

theorem validateEncryptionKey_ok {encryptionKey : String}
    (valid : validateEncryptionKey environment = .ok encryptionKey) :
    environment.encryptionKey = some encryptionKey := by
  simp only [validateEncryptionKey] at valid
  split at valid
  next => simp at valid
  next => simp at valid
  next configured =>
    split at valid
    next => simp at valid
    next => rw [configured, Except.ok.inj valid]

theorem lookup_spreadBoth {first second : Json} (isObject : second.isObject = true) {key : String}
    (present : (second.property key).isSome = true) (rest : Path) :
    (spreadBoth first second).lookup (key :: rest) = second.lookup (key :: rest) := by
  have firstObject := Json.isObject_spread first
  cases second with
  | obj newKeys newValue =>
    have member : key ∈ newKeys := by
      by_contra missing
      simp [Json.property, missing] at present
    cases isFirst : first.spread with
    | obj keys value =>
      have listed : key ∈ keys ++ newKeys.filter (· ∉ keys) := by
        by_cases old : key ∈ keys <;> simp [member, old]
      have secondSpread : (Json.obj newKeys newValue).spread = .obj newKeys newValue := rfl
      rw [spreadBoth, isFirst, secondSpread]
      simp only [Json.lookup_obj, listed, member, if_true]
    | _ => simp [isFirst, Json.isObject] at firstObject
  | _ => simp [Json.isObject] at isObject

theorem loadFromDatabase_secrets (reads : ReadsSecrets environment.parse) {documentExists : Bool}
    {settings config : Json}
    (loaded : loadFromDatabase environment documentExists (some settings) = .ok (some config)) :
    ∃ encryptionKey, environment.encryptionKey = some encryptionKey ∧
      ∀ fieldPath ∈ SENSITIVE_FIELDS, ∀ decrypted,
        decrypted = getNestedValue
          (decryptSensitiveFields environment.crypto encryptionKey settings) fieldPath →
        getNestedValue config fieldPath = parsedSecret fieldPath decrypted ∧
          ∀ length item, decrypted = some (.arr length item) → fieldPath = cookieSecrets := by
  simp only [loadFromDatabase, loadAndDecryptConfiguration] at loaded
  split at loaded
  next => simp at loaded
  next =>
    cases valid : validateEncryptionKey environment with
    | error problem => simp [valid] at loaded
    | ok encryptionKey =>
      refine ⟨encryptionKey, validateEncryptionKey_ok valid, ?_⟩
      rintro fieldPath member _ rfl
      cases parsed : environment.parse
          (decryptSensitiveFields environment.crypto encryptionKey settings) with
      | error problem => simp [valid, parsed] at loaded
      | ok validated =>
        simp only [valid, parsed] at loaded
        cases parsedAgain : environment.parse (spreadBoth settings validated) with
        | error problem => simp [parsedAgain] at loaded
        | ok result =>
          obtain rfl : result = config := by simpa [parsedAgain] using loaded
          obtain ⟨isObject, sections⟩ := reads.sections _ _ parsed
          have kept : getNestedValue (spreadBoth settings validated) fieldPath =
              getNestedValue validated fieldPath := by
            cases fieldPath with
            | nil => simp [SENSITIVE_FIELDS] at member
            | cons key rest =>
              simp only [getNestedValue,
                lookup_spreadBoth isObject (sections key rest member)]
          refine ⟨?_, reads.arrays _ _ parsed fieldPath member⟩
          rw [reads.secrets _ _ parsedAgain fieldPath member, kept,
            reads.secrets _ _ parsed fieldPath member, parsedSecret_parsedSecret]

def StoredSecretsReadable (environment : Environment) (settings : Json) : Prop :=
  ∃ encryptionKey, environment.encryptionKey = some encryptionKey ∧
    ∀ fieldPath ∈ SENSITIVE_FIELDS, ∀ value,
      getNestedValue settings.clone fieldPath = some value →
        ∀ text, Holds text value → Readable environment.crypto encryptionKey fieldPath text

/-- A configuration that loads has no sealed text in a sensitive field exactly when every
text stored in one of these fields reads as a secret under the configured key. -/
theorem loaded_clean_iff (reads : ReadsSecrets environment.parse) {documentExists : Bool}
    {settings config : Json}
    (loaded : loadFromDatabase environment documentExists (some settings) = .ok (some config)) :
    HoldsNoEnvelope config ↔ StoredSecretsReadable environment settings := by
  obtain ⟨encryptionKey, configured, secrets⟩ := loadFromDatabase_secrets reads loaded
  have fieldwise : ∀ fieldPath ∈ SENSITIVE_FIELDS,
      (∀ value, getNestedValue config fieldPath = some value →
        ∀ text, Holds text value → isEncrypted text = false) ↔
      ∀ value, getNestedValue settings.clone fieldPath = some value →
        ∀ text, Holds text value → Readable environment.crypto encryptionKey fieldPath text := by
    intro fieldPath member
    obtain ⟨configHas, arrays⟩ := secrets fieldPath member _ rfl
    have decryptedHas : getNestedValue
        (decryptSensitiveFields environment.crypto encryptionKey settings) fieldPath =
        (getNestedValue settings.clone fieldPath).map
          (decryptedValue environment.crypto encryptionKey) := by
      rw [decryptSensitiveFields_eq, getNestedValue,
        Json.lookup_modifyAll sensitiveFields_separate member, getNestedValue]
      cases settings.clone.lookup fieldPath <;> rfl
    rw [decryptedHas] at configHas arrays
    cases stored : getNestedValue settings.clone fieldPath with
    | none =>
      rw [stored] at configHas
      simp only [Option.map_none, parsedSecret] at configHas
      rw [configHas]
      by_cases isSalt : fieldPath = pairwiseSalt
      · have plain : isEncrypted "parako-id-salt" = false := by decide
        simp [isSalt, Holds, plain]
      · simp [isSalt]
    | some value =>
      rw [stored] at configHas arrays
      simp only [Option.map_some, parsedSecret] at configHas arrays
      have stays : ∀ length item, value = .arr length item → fieldPath = cookieSecrets := by
        intro length item isArray
        obtain ⟨items, isItems⟩ := decryptedValue_arr environment.crypto encryptionKey length item
        exact arrays length items (by rw [isArray, isItems])
      rw [configHas]
      simpa using value_clean_iff stays
  constructor
  · intro clean
    exact ⟨encryptionKey, configured, fun fieldPath member =>
      (fieldwise fieldPath member).mp (clean fieldPath member)⟩
  · rintro ⟨otherKey, otherConfigured, readable⟩ fieldPath member
    obtain rfl : encryptionKey = otherKey := by simpa [configured] using otherConfigured
    exact (fieldwise fieldPath member).mpr (readable fieldPath member)

def secretShape (config : Json) (fieldPath : Path) : Bool :=
  match getNestedValue config fieldPath with
  | some (.arr _ _) => fieldPath = cookieSecrets
  | none => fieldPath ≠ pairwiseSalt
  | _ => true

def hasSection (config : Json) (fieldPath : Path) : Bool :=
  match fieldPath with
  | key :: _ => (config.property key).isSome
  | [] => true

def secretsSchema (config : Json) : Except String Json :=
  let parsed := Json.modifyAll parsedValue SENSITIVE_FIELDS config
  if parsed.isObject ∧ SENSITIVE_FIELDS.all (hasSection parsed) ∧
      SENSITIVE_FIELDS.all (secretShape config) then .ok parsed
  else .error "Invalid configuration"

theorem secretsSchema_ok {config parsed : Json} (isParsed : secretsSchema config = .ok parsed) :
    parsed = Json.modifyAll parsedValue SENSITIVE_FIELDS config ∧ parsed.isObject = true ∧
      (∀ fieldPath ∈ SENSITIVE_FIELDS, hasSection parsed fieldPath = true) ∧
      ∀ fieldPath ∈ SENSITIVE_FIELDS, secretShape config fieldPath = true := by
  simp only [secretsSchema, List.all_eq_true] at isParsed
  split at isParsed
  next shaped =>
    obtain rfl := Except.ok.inj isParsed
    exact ⟨rfl, shaped⟩
  next => simp at isParsed

theorem secretsSchema_reads : ReadsSecrets secretsSchema where
  sections config parsed isParsed := by
    obtain ⟨_, isObject, sections, _⟩ := secretsSchema_ok isParsed
    exact ⟨isObject, fun key rest member => sections (key :: rest) member⟩
  arrays config parsed isParsed fieldPath member length item isArray := by
    obtain ⟨_, _, _, shapes⟩ := secretsSchema_ok isParsed
    simpa [secretShape, isArray] using shapes fieldPath member
  secrets config parsed isParsed fieldPath member := by
    obtain ⟨rfl, _, _, shapes⟩ := secretsSchema_ok isParsed
    have shape := shapes fieldPath member
    rw [getNestedValue, Json.lookup_modifyAll sensitiveFields_separate member]
    cases read : config.lookup fieldPath with
    | found value => simp [getNestedValue, read, Json.Lookup.map, Json.Lookup.toOption, parsedSecret]
    | _ =>
      simp only [secretShape, getNestedValue, read, Json.Lookup.toOption, decide_eq_true_eq] at shape
      simp [getNestedValue, read, Json.Lookup.map, Json.Lookup.toOption, parsedSecret, shape]

def storedConfig (jwtSecret : String) : Json :=
  .object [
    ("security", .object [("secrets", .object [
      ("jwt_secret", .str jwtSecret), ("cookie_secrets", .array [.str "cookie"])])]),
    ("integrations", .object []),
    ("notifications", .object []),
    ("features", .object []),
    ("oidc", .object [("secrets", .object [("pairwise_salt", .str "salt")])])]

theorem storedConfig_values (jwtSecret : String) : ∀ fieldPath ∈ SENSITIVE_FIELDS, ∀ value,
    getNestedValue (storedConfig jwtSecret).clone fieldPath = some value →
      fieldPath ∉ TRIMMED_FIELDS ∧ (value = .str jwtSecret ∨ value = .str "salt" ∨
        value = (Json.array [.str "cookie"]).clone) := by
  simp [SENSITIVE_FIELDS, getNestedValue, storedConfig, Json.object, Json.array, Json.clone,
    Json.Lookup.toOption, List.lookup_cons, TRIMMED_FIELDS]

def loader (encryptionKey : String) : Environment where
  crypto := transparentCrypto
  encryptionKey := some encryptionKey
  parse := secretsSchema

theorem loader_reads (encryptionKey : String) : ReadsSecrets (loader encryptionKey).parse := by
  simpa only [loader] using secretsSchema_reads

theorem storedConfig_loads {encryptionKey jwtSecret : String}
    (valid : validateEncryptionKey (loader encryptionKey) = .ok encryptionKey)
    (kept : decryptedValue transparentCrypto encryptionKey (.str jwtSecret) = .str jwtSecret) :
    ∃ config, loadFromDatabase (loader encryptionKey) true (some (storedConfig jwtSecret)) =
        .ok (some config) ∧
      getNestedValue config ["security", "secrets", "jwt_secret"] = some (.str jwtSecret) := by
  have unchanged : decryptSensitiveFields transparentCrypto encryptionKey (storedConfig jwtSecret) =
      (storedConfig jwtSecret).clone := by
    rw [decryptSensitiveFields_eq, Json.modifyAll_eq_self_iff sensitiveFields_separate]
    intro fieldPath member value found
    obtain ⟨_, rfl | rfl | rfl⟩ := storedConfig_values jwtSecret fieldPath member value
      (getNestedValue_some.mpr found)
    · exact kept
    · have plain : isEncrypted "salt" = false := by decide
      simp [decryptedValue, decryptItem, ensureDecrypted_plain plain, Except.map]
    · have plain : isEncrypted "cookie" = false := by decide
      simp [Json.array, Json.clone, decryptedValue, Json.mapItems, decryptItem_str,
        ensureDecrypted_plain plain, Except.map]
  have parsesDecrypted : (loader encryptionKey).parse
      (decryptSensitiveFields transparentCrypto encryptionKey (storedConfig jwtSecret)) =
      secretsSchema (storedConfig jwtSecret).clone := by rw [unchanged]; rfl
  simp only [loadFromDatabase, loadAndDecryptConfiguration, valid]
  rw [show (loader encryptionKey).crypto = transparentCrypto from rfl, parsesDecrypted]
  exact ⟨_, rfl, rfl⟩

def otherKey : String := String.ofList ('0' :: '1' :: List.replicate 62 '0')

theorem loaded_plain : ∃ config,
    loadFromDatabase (loader zeroKey) true (some (storedConfig "plain")) = .ok (some config) ∧
      HoldsNoEnvelope config := by
  have plainSecret : isEncrypted "plain" = false := by decide
  have plainCookie : isEncrypted "cookie" = false := by decide
  have plainSalt : isEncrypted "salt" = false := by decide
  have valid : validateEncryptionKey (loader zeroKey) = .ok zeroKey := rfl
  have kept : decryptedValue transparentCrypto zeroKey (.str "plain") = .str "plain" := by
    simp [decryptedValue, decryptItem, ensureDecrypted_plain plainSecret, Except.map]
  obtain ⟨config, loaded, _⟩ := storedConfig_loads valid kept
  have configured : (loader zeroKey).encryptionKey = some zeroKey := rfl
  refine ⟨config, loaded, ?_⟩
  rw [loaded_clean_iff (loader_reads zeroKey) loaded]
  refine ⟨zeroKey, configured, ?_⟩
  intro fieldPath member value read text holds
  obtain ⟨untrimmed, isValue⟩ := storedConfig_values "plain" fieldPath member value read
  have readable : isEncrypted text = false →
      Readable transparentCrypto zeroKey fieldPath text := fun plain =>
    ⟨text, opens_plain plain, by simpa [parsedText, untrimmed] using plain⟩
  rcases isValue with rfl | rfl | rfl
  · obtain rfl : "plain" = text := holds
    exact readable plainSecret
  · obtain rfl : "salt" = text := holds
    exact readable plainSalt
  · obtain ⟨index, bound, isText⟩ := holds
    obtain rfl : index = 0 := by simpa [Json.array] using bound
    obtain rfl : "cookie" = text := by simpa [Json.array, Json.clone] using isText
    exact readable plainCookie

theorem loaded_with_wrong_key : ∃ config,
    loadFromDatabase (loader otherKey) true (some (storedConfig sealedText)) = .ok (some config) ∧
      ¬ HoldsNoEnvelope config := by
  have unopened : ensureDecrypted transparentCrypto sealedText otherKey =
      .error "Decryption failed — possible data tampering or wrong encryption key" := by
    decide +kernel
  have valid : validateEncryptionKey (loader otherKey) = .ok otherKey := rfl
  have kept : decryptedValue transparentCrypto otherKey (.str sealedText) = .str sealedText := by
    simp [decryptedValue, decryptItem_str, unopened, Except.map]
  obtain ⟨config, loaded, read⟩ := storedConfig_loads valid kept
  refine ⟨config, loaded, ?_⟩
  intro clean
  have plain := clean ["security", "secrets", "jwt_secret"] (by decide) _ read sealedText rfl
  have marked : isEncrypted sealedText = true := by decide
  simp [marked] at plain

end ParakoId.Settings
