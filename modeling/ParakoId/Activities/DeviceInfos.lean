import ParakoId.Library.JsonText
import ParakoId.Settings.Encryption

/-!
The device information of an activity: encrypted where it is queued, and kept by Prisma in the
columns of a row, or by Mongoose in a document that the schema gives defaults.
-/

namespace ParakoId.Activities

open JsonText (Numbers Value)
open Settings (Crypto IsIv decryptValue encryptValue ensureDecrypted getEncryptionKey isEncrypted)

structure Software where
  name : Option String
  version : Option String
  deriving DecidableEq

structure Hardware where
  type : Option String
  vendor : Option String
  model : Option String
  deriving DecidableEq

structure Screen where
  width : Option ℚ
  height : Option ℚ
  pixel_ratio : Option ℚ
  deriving DecidableEq

structure GeoLocation where
  country : Option String
  region : Option String
  city : Option String
  latitude : Option ℚ
  longitude : Option ℚ
  timezone : Option String
  deriving DecidableEq

structure DeviceTrust where
  trusted : Option Bool
  trusted_at : Option Int
  trusted_until : Option Int
  fingerprint : Option String

inductive RiskLevel
  | low
  | medium
  | high
  | critical
  deriving DecidableEq

/-- The memory is a number or null. `encryptedGeoLocation` is `_encryptedGeoLocation`, which only
the service sets. -/
@[ext]
structure DeviceInfos where
  fingerprint : Option String
  fingerprint_js_id : Option String
  browser : Option Software
  os : Option Software
  device : Option Hardware
  language : Option String
  timezone_guess : Option String
  platform : Option String
  screen : Option Screen
  hardware_concurrency : Option ℚ
  memory : Option (Option ℚ)
  is_new_device : Option Bool
  requires_2fa : Option Bool
  is_suspicious : Option Bool
  confidence_score : Option ℚ
  risk_level : Option RiskLevel
  matched_device_id : Option String
  reason : Option String
  geo_location : Option GeoLocation
  device_trust : Option DeviceTrust
  encryptedGeoLocation : Option String

structure DeviceInfos.Typed (deviceInfos : DeviceInfos) : Prop where
  geo : deviceInfos.encryptedGeoLocation = none
  trust : ∀ trust, deviceInfos.device_trust = some trust → trust.trusted.isSome = true ∧
    trust.trusted_at.isSome = true ∧ trust.trusted_until.isSome = true ∧
    trust.fingerprint.isSome = true

def geoKey (name : String) : CodeUnits := CodeUnits.ofText name.toList

def textValue (text : String) : Value ℚ := .str (CodeUnits.ofText text.toList)

def geoValue (geo : GeoLocation) : Value ℚ := .obj ([
  geo.country.map fun country => (geoKey "country", textValue country),
  geo.region.map fun region => (geoKey "region", textValue region),
  geo.city.map fun city => (geoKey "city", textValue city),
  geo.latitude.map fun latitude => (geoKey "latitude", .num latitude),
  geo.longitude.map fun longitude => (geoKey "longitude", .num longitude),
  geo.timezone.map fun timezone => (geoKey "timezone", textValue timezone)].reduceOption)

def textAt (name : String) (value : Value ℚ) : Option String :=
  match value.property (geoKey name) with
  | some (.str text) => some (String.ofList text.text)
  | _ => none

def numberAt (name : String) (value : Value ℚ) : Option ℚ :=
  match value.property (geoKey name) with
  | some (.num number) => some number
  | _ => none

def geoOf (value : Value ℚ) : GeoLocation where
  country := textAt "country" value
  region := textAt "region" value
  city := textAt "city" value
  latitude := numberAt "latitude" value
  longitude := numberAt "longitude" value
  timezone := textAt "timezone" value

/-- What `randomBytes` draws for each of the values. -/
structure Draws where
  fingerprint : String
  fingerprint_js_id : String
  device_trust : String
  geo_location : String

section
variable (crypto : Crypto) (encryptionKey : String) (numbers : Numbers ℚ)

def sealText (iv : String) (text : Option String) : Except String (Option String) :=
  match text with
  | none => .ok none
  | some plaintext =>
    if plaintext ≠ "" ∧ isEncrypted plaintext = false then
      (encryptValue crypto iv plaintext encryptionKey).map some
    else .ok (some plaintext)

def openText (text : Option String) : Except String (Option String) :=
  match text with
  | none => .ok none
  | some stored =>
    if stored ≠ "" ∧ isEncrypted stored = true then
      (decryptValue crypto stored encryptionKey).map some
    else .ok (some stored)

/-- The fingerprint of a trust, passed through what may fail. -/
def overTrust (change : Option String → Except String (Option String))
    (trust : Option DeviceTrust) : Except String (Option DeviceTrust) :=
  match trust with
  | none => .ok none
  | some trust => (change trust.fingerprint).map fun fingerprint =>
    some { trust with fingerprint := fingerprint }

def encryptDeviceFields (draws : Draws) (deviceInfos : DeviceInfos) :
    Except String DeviceInfos := do
  let fingerprint ← sealText crypto encryptionKey draws.fingerprint deviceInfos.fingerprint
  let fingerprint_js_id ←
    sealText crypto encryptionKey draws.fingerprint_js_id deviceInfos.fingerprint_js_id
  let device_trust ←
    overTrust (sealText crypto encryptionKey draws.device_trust) deviceInfos.device_trust
  let encrypted := { deviceInfos with fingerprint, fingerprint_js_id, device_trust }
  match deviceInfos.geo_location with
  | none => pure encrypted
  | some geo =>
    let geoString := String.ofList (JsonText.stringify numbers (geoValue geo))
    let envelope ← encryptValue crypto draws.geo_location geoString encryptionKey
    pure { encrypted with geo_location := none, encryptedGeoLocation := some envelope }

/-- `undefined` where it fails. -/
def encryptSensitiveDeviceFields (enabled : Bool) (draws : Draws) (deviceInfos : DeviceInfos) :
    Option DeviceInfos :=
  if enabled then (encryptDeviceFields crypto encryptionKey numbers draws deviceInfos).toOption
  else some deviceInfos

def decryptDeviceFields (deviceInfos : DeviceInfos) : Except String DeviceInfos := do
  let fingerprint ← openText crypto encryptionKey deviceInfos.fingerprint
  let fingerprint_js_id ← openText crypto encryptionKey deviceInfos.fingerprint_js_id
  let device_trust ← overTrust (openText crypto encryptionKey) deviceInfos.device_trust
  let decrypted := { deviceInfos with fingerprint, fingerprint_js_id, device_trust }
  match deviceInfos.encryptedGeoLocation with
  | none => pure decrypted
  | some envelope =>
    if envelope = "" then pure decrypted
    else
      let geoString ← decryptValue crypto envelope encryptionKey
      match JsonText.parse numbers geoString.toList with
      | none => .error "SyntaxError"
      | some value =>
        pure { decrypted with geo_location := some (geoOf value), encryptedGeoLocation := none }

/-- `undefined` where it fails. -/
def decryptSensitiveDeviceFields (deviceInfos : Option DeviceInfos) : Option DeviceInfos :=
  deviceInfos.bind fun stored => (decryptDeviceFields crypto encryptionKey numbers stored).toOption

end

structure ActivityDevice where
  fingerprint : Option String
  fingerprint_js_id : Option String
  browser_name : Option String
  browser_version : Option String
  os_name : Option String
  os_version : Option String
  device_type : Option String
  device_vendor : Option String
  device_model : Option String
  language : Option String
  platform : Option String
  screen_width : Option ℚ
  screen_height : Option ℚ
  screen_pixel_ratio : Option ℚ
  hardware_concurrency : Option ℚ
  memory : Option ℚ
  is_new_device : Option Bool
  is_suspicious : Option Bool
  confidence_score : Option ℚ
  risk_level : Option RiskLevel
  matched_device_id : Option String
  reason : Option String
  geo_country : Option String
  geo_region : Option String
  geo_city : Option String
  geo_lat : Option ℚ
  geo_lon : Option ℚ
  geo_timezone : Option String
  device_trust_trusted : Option Bool
  device_trust_trusted_at : Option Int
  device_trust_until : Option Int

/-- What a column of the type `Int` takes. -/
def isInt (number : ℚ) : Bool :=
  decide (number.den = 1 ∧ -2147483648 ≤ number.num ∧ number.num < 2147483648)

def prismaDevice (deviceInfos : DeviceInfos) : ActivityDevice where
  fingerprint := deviceInfos.fingerprint.or (deviceInfos.device_trust.bind (·.fingerprint))
  fingerprint_js_id := deviceInfos.fingerprint_js_id
  browser_name := deviceInfos.browser.bind (·.name)
  browser_version := deviceInfos.browser.bind (·.version)
  os_name := deviceInfos.os.bind (·.name)
  os_version := deviceInfos.os.bind (·.version)
  device_type := deviceInfos.device.bind (·.type)
  device_vendor := deviceInfos.device.bind (·.vendor)
  device_model := deviceInfos.device.bind (·.model)
  language := deviceInfos.language
  platform := deviceInfos.platform
  screen_width := deviceInfos.screen.bind (·.width)
  screen_height := deviceInfos.screen.bind (·.height)
  screen_pixel_ratio := deviceInfos.screen.bind (·.pixel_ratio)
  hardware_concurrency := deviceInfos.hardware_concurrency
  memory := deviceInfos.memory.join
  is_new_device := deviceInfos.is_new_device
  is_suspicious := deviceInfos.is_suspicious
  confidence_score := deviceInfos.confidence_score
  risk_level := deviceInfos.risk_level
  matched_device_id := deviceInfos.matched_device_id
  reason := deviceInfos.reason
  geo_country := deviceInfos.geo_location.bind (·.country)
  geo_region := deviceInfos.geo_location.bind (·.region)
  geo_city := deviceInfos.geo_location.bind (·.city)
  geo_lat := deviceInfos.geo_location.bind (·.latitude)
  geo_lon := deviceInfos.geo_location.bind (·.longitude)
  geo_timezone := deviceInfos.geo_location.bind (·.timezone)
  device_trust_trusted := deviceInfos.device_trust.bind (·.trusted)
  device_trust_trusted_at := deviceInfos.device_trust.bind (·.trusted_at)
  device_trust_until := deviceInfos.device_trust.bind (·.trusted_until)

def ActivityDevice.accepted (row : ActivityDevice) : Bool :=
  row.screen_width.all isInt && row.screen_height.all isInt && row.hardware_concurrency.all isInt

def truthy? (text : Option String) : Bool := text.any (· ≠ "")

/-- `now` is when the row is read. -/
def toDeviceInfos (now : Int) (row : ActivityDevice) : DeviceInfos where
  fingerprint := row.fingerprint
  fingerprint_js_id := row.fingerprint_js_id
  browser :=
    if truthy? row.browser_name || truthy? row.browser_version then
      some ⟨row.browser_name, row.browser_version⟩
    else none
  os :=
    if truthy? row.os_name || truthy? row.os_version then some ⟨row.os_name, row.os_version⟩
    else none
  device :=
    if truthy? row.device_type || truthy? row.device_vendor then
      some ⟨row.device_type, row.device_vendor, row.device_model⟩
    else none
  language := row.language
  timezone_guess := none
  platform := row.platform
  screen :=
    if row.screen_width.isSome || row.screen_height.isSome then
      some ⟨row.screen_width, row.screen_height, row.screen_pixel_ratio⟩
    else none
  hardware_concurrency := row.hardware_concurrency
  memory := row.memory.map some
  is_new_device := row.is_new_device
  requires_2fa := none
  is_suspicious := row.is_suspicious
  confidence_score := row.confidence_score
  risk_level := row.risk_level
  matched_device_id := row.matched_device_id
  reason := row.reason
  geo_location :=
    if truthy? row.geo_country || truthy? row.geo_city then
      some ⟨row.geo_country, row.geo_region, row.geo_city, row.geo_lat, row.geo_lon,
        row.geo_timezone⟩
    else none
  device_trust := row.device_trust_trusted.map fun trusted => {
    trusted := some trusted
    trusted_at := some (row.device_trust_trusted_at.getD now)
    trusted_until := some (row.device_trust_until.getD now)
    fingerprint := some (row.fingerprint.getD "") }
  encryptedGeoLocation := none

def minimized {Group : Type} [DecidableEq Group] (empty : Group) (group : Option Group) :
    Option Group :=
  group.filter (· ≠ empty)

def noSoftware : Software := ⟨none, none⟩

def noHardware : Hardware := ⟨none, none, none⟩

def noScreen : Screen := ⟨none, none, none⟩

def noGeoLocation : GeoLocation := ⟨none, none, none, none, none, none⟩

def noTrust : DeviceTrust := ⟨none, none, none, none⟩

def noDeviceInfos : DeviceInfos :=
  ⟨none, none, none, none, none, none, none, none, none, none, none, none, none, none, none, none,
    none, none, none, none, none⟩

/-- A strict schema with its defaults. -/
def mongoDevice (deviceInfos : DeviceInfos) : DeviceInfos :=
  { deviceInfos with
    browser := minimized noSoftware deviceInfos.browser
    os := minimized noSoftware deviceInfos.os
    device := minimized noHardware deviceInfos.device
    screen := minimized noScreen deviceInfos.screen
    is_new_device := some (deviceInfos.is_new_device.getD false)
    requires_2fa := some (deviceInfos.requires_2fa.getD false)
    is_suspicious := some (deviceInfos.is_suspicious.getD false)
    risk_level := some (deviceInfos.risk_level.getD .low)
    geo_location := minimized noGeoLocation deviceInfos.geo_location
    device_trust :=
      let trust := deviceInfos.device_trust.getD noTrust
      some { trust with trusted := some (trust.trusted.getD false) }
    encryptedGeoLocation := none }

def validScore (deviceInfos : DeviceInfos) : Bool :=
  deviceInfos.confidence_score.all fun score => decide (0 ≤ score ∧ score ≤ 100)

structure StoredActivity where
  ip_address : String
  device_infos : Option DeviceInfos

def storedAndLoadedByPrisma (now : Int) (activity : StoredActivity) : Option StoredActivity :=
  if (activity.device_infos.map prismaDevice).all (·.accepted) then
    some { activity with
      device_infos := activity.device_infos.map fun deviceInfos =>
        toDeviceInfos now (prismaDevice deviceInfos) }
  else none

def storedAndLoadedByMongoose (activity : StoredActivity) : Option StoredActivity :=
  if activity.ip_address = "" ∨ activity.device_infos.any (!validScore ·) then none
  else some { activity with
    device_infos := some (mongoDevice (activity.device_infos.getD noDeviceInfos)) }

inductive Repository
  | prisma
  | mongoose

/-- `none` where `create` rejects. -/
def storedAndLoaded (repository : Repository) (now : Int) (activity : StoredActivity) :
    Option StoredActivity :=
  match repository with
  | .prisma => storedAndLoadedByPrisma now activity
  | .mongoose => storedAndLoadedByMongoose activity

def roundTrip (crypto : Crypto) (encryptionKey : String) (numbers : Numbers ℚ) (enabled : Bool)
    (draws : Draws) (repository : Repository) (now : Int) (ip_address : String)
    (deviceInfos : DeviceInfos) : Option StoredActivity :=
  let device_infos :=
    encryptSensitiveDeviceFields crypto encryptionKey numbers enabled draws deviceInfos
  (storedAndLoaded repository now { ip_address, device_infos }).map fun loaded =>
    { loaded with
      device_infos := decryptSensitiveDeviceFields crypto encryptionKey numbers
        loaded.device_infos }

section
variable (crypto : Crypto) (encryptionKey : String)

def Unmarked (text : Option String) : Prop :=
  ∀ plaintext, text = some plaintext →
    ensureDecrypted crypto plaintext encryptionKey = .ok plaintext

def Hidden (text : Option String) : Prop :=
  ∀ stored, text = some stored → stored ≠ "" → isEncrypted stored = true

/-- No column or field that is stored for `queued` shows a secret or a location. -/
def HidesSecrets (queued : DeviceInfos) : Repository → Prop
  | .prisma =>
    let row := prismaDevice queued
    Hidden row.fingerprint ∧ Hidden row.fingerprint_js_id ∧ row.geo_country = none ∧
      row.geo_region = none ∧ row.geo_city = none ∧ row.geo_lat = none ∧ row.geo_lon = none ∧
      row.geo_timezone = none
  | .mongoose =>
    let document := mongoDevice queued
    Hidden document.fingerprint ∧ Hidden document.fingerprint_js_id ∧
      Hidden (document.device_trust.bind (·.fingerprint)) ∧ document.geo_location = none

structure QueuedAs (enabled : Bool) (text queued : Option String) : Prop where
  opens : openText crypto encryptionKey queued = .ok text ↔ Unmarked crypto encryptionKey text
  present : queued.isSome = text.isSome
  hidden : enabled = true → Hidden queued

end

section
variable {crypto : Crypto} {encryptionKey : String} {secret : List UInt8}

theorem openText_unmarked (text : Option String) :
    openText crypto encryptionKey text = .ok text ↔ Unmarked crypto encryptionKey text := by
  cases text with
  | none => simp [openText, Unmarked]
  | some stored =>
    rw [openText]
    by_cases marked : isEncrypted stored = true
    · have nonempty : stored ≠ "" := by
        rintro rfl
        exact absurd marked (by decide)
      rw [if_pos ⟨nonempty, marked⟩]
      cases opened : decryptValue crypto stored encryptionKey with
      | error _ | ok _ => simp [Unmarked, ensureDecrypted, marked, opened, Except.map]
    · simp [Unmarked, ensureDecrypted, marked]

theorem queuedAs_plain (text : Option String) :
    QueuedAs crypto encryptionKey false text text :=
  ⟨openText_unmarked text, rfl, by simp⟩

theorem sealText_queuedAs (lawful : crypto.Lawful)
    (configured : getEncryptionKey crypto encryptionKey = some secret) {iv : String}
    (random : IsIv iv) (text : Option String) :
    ∃ queued, sealText crypto encryptionKey iv text = .ok queued ∧
      QueuedAs crypto encryptionKey true text queued := by
  cases text with
  | none => exact ⟨none, rfl, openText_unmarked none, rfl, by simp [Hidden]⟩
  | some plaintext =>
    rw [sealText]
    by_cases plain : plaintext ≠ "" ∧ isEncrypted plaintext = false
    · rw [if_pos plain]
      obtain ⟨envelope, isEnvelope⟩ :=
        Settings.encryptValue_configured configured iv plain.1
      obtain ⟨marked, opens⟩ := Settings.ensureDecrypted_encryptValue lawful random isEnvelope
      have nonempty : envelope ≠ "" := by
        rintro rfl
        exact absurd marked (by decide)
      have opened : decryptValue crypto envelope encryptionKey = .ok plaintext := by
        simpa [ensureDecrypted, marked] using opens
      refine ⟨some envelope, congrArg (Except.map some) isEnvelope, ?_, rfl, ?_⟩
      · simp [openText, nonempty, marked, opened, Except.map, Unmarked,
          Settings.ensureDecrypted_plain plain.2]
      · simp [Hidden, marked]
    · rw [if_neg plain]
      refine ⟨some plaintext, rfl, openText_unmarked _, rfl, fun _ stored isStored nonempty => ?_⟩
      cases isStored
      simpa [nonempty] using plain

def TrustQueuedAs (crypto : Crypto) (encryptionKey : String) (enabled : Bool)
    (trust queued : Option DeviceTrust) : Prop :=
  match trust with
  | none => queued = none
  | some trust => ∃ fingerprint, queued = some { trust with fingerprint := fingerprint } ∧
      QueuedAs crypto encryptionKey enabled trust.fingerprint fingerprint

theorem overTrust_queuedAs (lawful : crypto.Lawful)
    (configured : getEncryptionKey crypto encryptionKey = some secret) {iv : String}
    (random : IsIv iv) (trust : Option DeviceTrust) :
    ∃ queued, overTrust (sealText crypto encryptionKey iv) trust = .ok queued ∧
      TrustQueuedAs crypto encryptionKey true trust queued := by
  cases trust with
  | none => exact ⟨none, rfl, rfl⟩
  | some trust =>
    obtain ⟨fingerprint, isSealed, queuedAs⟩ :=
      sealText_queuedAs lawful configured random trust.fingerprint
    exact ⟨some { trust with fingerprint := fingerprint }, by rw [overTrust, isSealed]; rfl,
      fingerprint, rfl, queuedAs⟩

/-- The device information of a queued activity: the secrets encrypted where that is enabled, and
the location then under another name. -/
structure Queues (crypto : Crypto) (encryptionKey : String) (enabled : Bool)
    (deviceInfos queued : DeviceInfos) : Prop where
  fingerprint :
    QueuedAs crypto encryptionKey enabled deviceInfos.fingerprint queued.fingerprint
  fingerprint_js_id :
    QueuedAs crypto encryptionKey enabled deviceInfos.fingerprint_js_id queued.fingerprint_js_id
  trust :
    TrustQueuedAs crypto encryptionKey enabled deviceInfos.device_trust queued.device_trust
  others : queued = { deviceInfos with
    fingerprint := queued.fingerprint
    fingerprint_js_id := queued.fingerprint_js_id
    device_trust := queued.device_trust
    geo_location := if enabled then none else deviceInfos.geo_location
    encryptedGeoLocation := queued.encryptedGeoLocation }

structure Draws.Random (draws : Draws) : Prop where
  fingerprint : IsIv draws.fingerprint
  fingerprint_js_id : IsIv draws.fingerprint_js_id
  device_trust : IsIv draws.device_trust

theorem encryptSensitiveDeviceFields_queues (lawful : crypto.Lawful)
    (configured : getEncryptionKey crypto encryptionKey = some secret) {draws : Draws}
    (random : draws.Random) (numbers : Numbers ℚ) (enabled : Bool) (deviceInfos : DeviceInfos) :
    ∃ queued, encryptSensitiveDeviceFields crypto encryptionKey numbers enabled draws
        deviceInfos = some queued ∧
      Queues crypto encryptionKey enabled deviceInfos queued := by
  cases enabled with
  | false =>
    refine ⟨deviceInfos, rfl, queuedAs_plain _, queuedAs_plain _, ?_, rfl⟩
    cases isTrust : deviceInfos.device_trust with
    | none => rfl
    | some trust => exact ⟨trust.fingerprint, rfl, queuedAs_plain _⟩
  | true =>
    obtain ⟨fingerprint, isFingerprint, first⟩ :=
      sealText_queuedAs lawful configured random.fingerprint deviceInfos.fingerprint
    obtain ⟨fingerprint_js_id, isId, second⟩ :=
      sealText_queuedAs lawful configured random.fingerprint_js_id deviceInfos.fingerprint_js_id
    obtain ⟨device_trust, isTrust, third⟩ :=
      overTrust_queuedAs lawful configured random.device_trust deviceInfos.device_trust
    rw [encryptSensitiveDeviceFields, if_pos rfl, encryptDeviceFields, isFingerprint, isId,
      isTrust]
    cases isGeo : deviceInfos.geo_location with
    | none => exact ⟨_, rfl, first, second, third, by simp⟩
    | some geo =>
      have nonempty : String.ofList (JsonText.stringify numbers (geoValue geo)) ≠ "" := by
        simp [geoValue, JsonText.stringify]
      obtain ⟨envelope, isEnvelope⟩ :=
        Settings.encryptValue_configured configured draws.geo_location nonempty
      dsimp only [Bind.bind, Except.bind]
      rw [isEnvelope]
      exact ⟨_, rfl, first, second, third, by simp⟩

theorem decryptSensitiveDeviceFields_some {numbers : Numbers ℚ} {loaded deviceInfos : DeviceInfos}
    (noEnvelope : loaded.encryptedGeoLocation = none) :
    decryptSensitiveDeviceFields crypto encryptionKey numbers (some loaded) = some deviceInfos ↔
      openText crypto encryptionKey loaded.fingerprint = .ok deviceInfos.fingerprint ∧
      openText crypto encryptionKey loaded.fingerprint_js_id =
        .ok deviceInfos.fingerprint_js_id ∧
      overTrust (openText crypto encryptionKey) loaded.device_trust =
        .ok deviceInfos.device_trust ∧
      { loaded with
        fingerprint := deviceInfos.fingerprint
        fingerprint_js_id := deviceInfos.fingerprint_js_id
        device_trust := deviceInfos.device_trust } = deviceInfos := by
  rw [decryptSensitiveDeviceFields, Option.bind_some, decryptDeviceFields, noEnvelope]
  cases openText crypto encryptionKey loaded.fingerprint with
  | error problem => simp [Bind.bind, Except.bind, Except.toOption]
  | ok fingerprint =>
    cases openText crypto encryptionKey loaded.fingerprint_js_id with
    | error problem => simp [Bind.bind, Except.bind, Except.toOption]
    | ok fingerprint_js_id =>
      cases overTrust (openText crypto encryptionKey) loaded.device_trust with
      | error problem => simp [Bind.bind, Except.bind, Except.toOption]
      | ok device_trust =>
        simp only [Bind.bind, Except.bind, Except.toOption, Pure.pure, Except.pure,
          Option.some.injEq, Except.ok.injEq]
        constructor
        · rintro rfl
          exact ⟨rfl, rfl, rfl, rfl⟩
        · rintro ⟨rfl, rfl, rfl, same⟩
          exact same

end

/-- The groups that Prisma can tell from groups that are not there, numbers that its columns
take, a trust in the same fingerprint, and nothing that has no column. -/
structure PrismaKeeps (crypto : Crypto) (encryptionKey : String) (enabled : Bool)
    (deviceInfos : DeviceInfos) : Prop where
  fingerprint : Unmarked crypto encryptionKey deviceInfos.fingerprint
  fingerprint_js_id : Unmarked crypto encryptionKey deviceInfos.fingerprint_js_id
  trust : ∀ trust, deviceInfos.device_trust = some trust →
    trust.fingerprint = deviceInfos.fingerprint
  geo : ∀ geo, deviceInfos.geo_location = some geo →
    enabled = false ∧ (truthy? geo.country || truthy? geo.city) = true
  browser : ∀ browser, deviceInfos.browser = some browser →
    (truthy? browser.name || truthy? browser.version) = true
  os : ∀ os, deviceInfos.os = some os → (truthy? os.name || truthy? os.version) = true
  device : ∀ device, deviceInfos.device = some device →
    (truthy? device.type || truthy? device.vendor) = true
  screen : ∀ screen, deviceInfos.screen = some screen →
    (screen.width.isSome || screen.height.isSome) = true
  width : (deviceInfos.screen.bind (·.width)).all isInt = true
  height : (deviceInfos.screen.bind (·.height)).all isInt = true
  hardware_concurrency : deviceInfos.hardware_concurrency.all isInt = true
  memory : deviceInfos.memory ≠ some none
  timezone_guess : deviceInfos.timezone_guess = none
  requires_2fa : deviceInfos.requires_2fa = none

structure MongooseKeeps (crypto : Crypto) (encryptionKey : String) (enabled : Bool)
    (ip_address : String) (deviceInfos : DeviceInfos) : Prop where
  fingerprint : Unmarked crypto encryptionKey deviceInfos.fingerprint
  fingerprint_js_id : Unmarked crypto encryptionKey deviceInfos.fingerprint_js_id
  trust : ∃ trust, deviceInfos.device_trust = some trust ∧
    Unmarked crypto encryptionKey trust.fingerprint
  geo : ∀ geo, deviceInfos.geo_location = some geo → enabled = false ∧ geo ≠ noGeoLocation
  browser : deviceInfos.browser ≠ some noSoftware
  os : deviceInfos.os ≠ some noSoftware
  device : deviceInfos.device ≠ some noHardware
  screen : deviceInfos.screen ≠ some noScreen
  defaults : deviceInfos.is_new_device.isSome = true ∧ deviceInfos.requires_2fa.isSome = true ∧
    deviceInfos.is_suspicious.isSome = true ∧ deviceInfos.risk_level.isSome = true
  score : validScore deviceInfos = true
  ip_address : ip_address ≠ ""

def Keeps (crypto : Crypto) (encryptionKey : String) (enabled : Bool) (ip_address : String)
    (deviceInfos : DeviceInfos) : Repository → Prop
  | .prisma => PrismaKeeps crypto encryptionKey enabled deviceInfos
  | .mongoose => MongooseKeeps crypto encryptionKey enabled ip_address deviceInfos

theorem getD_eq_iff {Item : Type} (default : Item) (item : Option Item) :
    some (item.getD default) = item ↔ item.isSome = true := by
  cases item <;> simp

theorem minimized_eq_iff {Group : Type} [DecidableEq Group] (empty : Group)
    (group : Option Group) : minimized empty group = group ↔ group ≠ some empty := by
  cases group with
  | none => simp [minimized]
  | some group => simp [minimized, Option.filter]

section
variable {crypto : Crypto} {encryptionKey : String} {enabled : Bool}
  {deviceInfos queued : DeviceInfos}

theorem mongoose_trust_iff (typed : deviceInfos.Typed)
    (queuedAs : TrustQueuedAs crypto encryptionKey enabled deviceInfos.device_trust
      queued.device_trust) :
    overTrust (openText crypto encryptionKey) (mongoDevice queued).device_trust =
        .ok deviceInfos.device_trust ↔
      ∃ trust, deviceInfos.device_trust = some trust ∧
        Unmarked crypto encryptionKey trust.fingerprint := by
  cases isTrust : deviceInfos.device_trust with
  | none =>
    rw [isTrust] at queuedAs
    have noTrustQueued : queued.device_trust = none := queuedAs
    simp [mongoDevice, noTrustQueued, overTrust, noTrust, openText, Except.map]
  | some trust =>
    rw [isTrust] at queuedAs
    obtain ⟨fingerprint, isQueued, fingerprintQueued⟩ := queuedAs
    obtain ⟨trusted, isTrusted⟩ := Option.isSome_iff_exists.mp (typed.trust trust isTrust).1
    have loaded : (mongoDevice queued).device_trust =
        some { trust with fingerprint := fingerprint } := by
      simp [mongoDevice, isQueued, isTrusted]
    simp only [loaded, overTrust, Option.some.injEq, exists_eq_left']
    rw [← fingerprintQueued.opens]
    cases openText crypto encryptionKey fingerprint with
    | error problem => simp [Except.map]
    | ok opened =>
      obtain ⟨_, _, _, original⟩ := trust
      simp [Except.map]

theorem mongoose_others_iff (queues : Queues crypto encryptionKey enabled deviceInfos queued)
    (typed : deviceInfos.Typed) :
    { mongoDevice queued with
      fingerprint := deviceInfos.fingerprint
      fingerprint_js_id := deviceInfos.fingerprint_js_id
      device_trust := deviceInfos.device_trust } = deviceInfos ↔
      (∀ geo, deviceInfos.geo_location = some geo → enabled = false ∧ geo ≠ noGeoLocation) ∧
      deviceInfos.browser ≠ some noSoftware ∧ deviceInfos.os ≠ some noSoftware ∧
      deviceInfos.device ≠ some noHardware ∧ deviceInfos.screen ≠ some noScreen ∧
      deviceInfos.is_new_device.isSome = true ∧ deviceInfos.requires_2fa.isSome = true ∧
      deviceInfos.is_suspicious.isSome = true ∧ deviceInfos.risk_level.isSome = true := by
  have geo : minimized noGeoLocation (if enabled then none else deviceInfos.geo_location) =
      deviceInfos.geo_location ↔
        ∀ geo, deviceInfos.geo_location = some geo → enabled = false ∧ geo ≠ noGeoLocation := by
    cases enabled with
    | false =>
      rw [if_neg (by simp), minimized_eq_iff]
      cases deviceInfos.geo_location <;> simp
    | true => cases deviceInfos.geo_location <;> simp [minimized]
  rw [queues.others, DeviceInfos.ext_iff]
  simp only [mongoDevice, getD_eq_iff, minimized_eq_iff, geo, typed.geo, true_and, and_true]
  tauto

theorem filter_eq_iff {Group : Type} (shows : Group → Bool) (group : Option Group) :
    group.filter shows = group ↔ ∀ item, group = some item → shows item = true := by
  cases group <;> simp [Option.filter]

theorem prisma_others (now : Int) (deviceInfos : DeviceInfos)
    (fingerprint fingerprint_js_id : Option String) (device_trust : Option DeviceTrust) :
    { toDeviceInfos now (prismaDevice deviceInfos) with
      fingerprint, fingerprint_js_id, device_trust } =
    { deviceInfos with
      fingerprint, fingerprint_js_id, device_trust
      browser := deviceInfos.browser.filter
        fun browser => truthy? browser.name || truthy? browser.version
      os := deviceInfos.os.filter fun os => truthy? os.name || truthy? os.version
      device := deviceInfos.device.filter
        fun device => truthy? device.type || truthy? device.vendor
      timezone_guess := none
      screen := deviceInfos.screen.filter
        fun screen => screen.width.isSome || screen.height.isSome
      memory := deviceInfos.memory.join.map some
      requires_2fa := none
      geo_location := deviceInfos.geo_location.filter
        fun geo => truthy? geo.country || truthy? geo.city
      encryptedGeoLocation := none } := by
  apply DeviceInfos.ext <;> try rfl
  · cases isBrowser : deviceInfos.browser <;>
      simp only [toDeviceInfos, prismaDevice, isBrowser] <;> rfl
  · cases isOs : deviceInfos.os <;> simp only [toDeviceInfos, prismaDevice, isOs] <;> rfl
  · cases isDevice : deviceInfos.device <;>
      simp only [toDeviceInfos, prismaDevice, isDevice] <;> rfl
  · cases isScreen : deviceInfos.screen <;>
      simp only [toDeviceInfos, prismaDevice, isScreen] <;> rfl
  · cases isGeo : deviceInfos.geo_location <;>
      simp only [toDeviceInfos, prismaDevice, isGeo] <;> rfl

theorem prisma_trust_iff (now : Int)
    (queues : Queues crypto encryptionKey enabled deviceInfos queued) (typed : deviceInfos.Typed) :
    openText crypto encryptionKey (toDeviceInfos now (prismaDevice queued)).fingerprint =
          .ok deviceInfos.fingerprint ∧
        overTrust (openText crypto encryptionKey)
            (toDeviceInfos now (prismaDevice queued)).device_trust =
          .ok deviceInfos.device_trust ↔
      Unmarked crypto encryptionKey deviceInfos.fingerprint ∧
        ∀ trust, deviceInfos.device_trust = some trust →
          trust.fingerprint = deviceInfos.fingerprint := by
  have trustQueued := queues.trust
  have fingerprintQueued := queues.fingerprint
  cases isTrust : deviceInfos.device_trust with
  | none =>
    rw [isTrust] at trustQueued
    have noTrustQueued : queued.device_trust = none := trustQueued
    simp [toDeviceInfos, prismaDevice, noTrustQueued, overTrust, fingerprintQueued.opens]
  | some trust =>
    rw [isTrust] at trustQueued
    obtain ⟨sealed, isQueued, trustOpens⟩ := trustQueued
    obtain ⟨hasTrusted, hasStart, hasEnd, hasFingerprint⟩ := typed.trust trust isTrust
    obtain ⟨trusted, isTrusted⟩ := Option.isSome_iff_exists.mp hasTrusted
    obtain ⟨trusted_at, isStart⟩ := Option.isSome_iff_exists.mp hasStart
    obtain ⟨trusted_until, isEnd⟩ := Option.isSome_iff_exists.mp hasEnd
    obtain ⟨column, isColumn⟩ : ∃ column, queued.fingerprint.or sealed = some column := by
      have present := trustOpens.present.trans hasFingerprint
      cases queued.fingerprint <;> simp [Option.isSome_iff_exists] at present ⊢
      exact present
    have loaded : (toDeviceInfos now (prismaDevice queued)).fingerprint = some column ∧
        (toDeviceInfos now (prismaDevice queued)).device_trust =
          some { trust with fingerprint := some column } := by
      simp [toDeviceInfos, prismaDevice, isQueued, isColumn, isTrusted, isStart, isEnd]
    have ownColumn (same : trust.fingerprint = deviceInfos.fingerprint) :
        queued.fingerprint = some column := by
      have present := fingerprintQueued.present
      rw [← same, hasFingerprint] at present
      obtain ⟨own, isOwn⟩ := Option.isSome_iff_exists.mp present
      rw [isOwn, Option.some_or] at isColumn
      rw [isOwn, isColumn]
    rw [loaded.1, loaded.2, overTrust]
    constructor
    · rintro ⟨opened, trustOpened⟩
      rw [opened] at trustOpened
      have restored : { trust with fingerprint := deviceInfos.fingerprint } = trust :=
        Option.some.inj (Except.ok.inj trustOpened)
      have same := (congrArg DeviceTrust.fingerprint restored).symm
      rw [← ownColumn same] at opened
      refine ⟨fingerprintQueued.opens.mp opened, fun other isOther => ?_⟩
      cases isOther
      exact same
    · rintro ⟨unmarked, sameFingerprint⟩
      have same := sameFingerprint trust rfl
      have opened := fingerprintQueued.opens.mpr unmarked
      rw [ownColumn same] at opened
      rw [opened, ← same]
      exact ⟨rfl, rfl⟩

theorem prisma_others_iff (now : Int)
    (queues : Queues crypto encryptionKey enabled deviceInfos queued)
    (typed : deviceInfos.Typed) :
    { toDeviceInfos now (prismaDevice queued) with
      fingerprint := deviceInfos.fingerprint
      fingerprint_js_id := deviceInfos.fingerprint_js_id
      device_trust := deviceInfos.device_trust } = deviceInfos ↔
      (∀ geo, deviceInfos.geo_location = some geo →
        enabled = false ∧ (truthy? geo.country || truthy? geo.city) = true) ∧
      (∀ browser, deviceInfos.browser = some browser →
        (truthy? browser.name || truthy? browser.version) = true) ∧
      (∀ os, deviceInfos.os = some os → (truthy? os.name || truthy? os.version) = true) ∧
      (∀ device, deviceInfos.device = some device →
        (truthy? device.type || truthy? device.vendor) = true) ∧
      (∀ screen, deviceInfos.screen = some screen →
        (screen.width.isSome || screen.height.isSome) = true) ∧
      deviceInfos.memory ≠ some none ∧ deviceInfos.timezone_guess = none ∧
      deviceInfos.requires_2fa = none := by
  have geo : Option.filter (fun geo => truthy? geo.country || truthy? geo.city)
      (if enabled then none else deviceInfos.geo_location) = deviceInfos.geo_location ↔
        ∀ geo, deviceInfos.geo_location = some geo →
          enabled = false ∧ (truthy? geo.country || truthy? geo.city) = true := by
    cases enabled with
    | false => rw [if_neg (by simp), filter_eq_iff]; simp
    | true => cases deviceInfos.geo_location <;> simp
  have memory (memory : Option (Option ℚ)) : memory.join.map some = memory ↔
      memory ≠ some none := by
    rcases memory with _ | _ | number <;> simp
  rw [prisma_others, queues.others, DeviceInfos.ext_iff]
  simp only [filter_eq_iff, geo, memory, typed.geo, true_and, and_true]
  rw [eq_comm (a := none), eq_comm (a := none)]
  tauto

theorem TrustQueuedAs.hidden {trust queuedTrust : Option DeviceTrust}
    (queuedAs : TrustQueuedAs crypto encryptionKey true trust queuedTrust) :
    Hidden (queuedTrust.bind (·.fingerprint)) := by
  cases trust with
  | none =>
    have noTrustQueued : queuedTrust = none := queuedAs
    simp [noTrustQueued, Hidden]
  | some trust =>
    obtain ⟨fingerprint, rfl, fingerprintQueued⟩ := queuedAs
    exact fingerprintQueued.hidden rfl

theorem queues_hides (queues : Queues crypto encryptionKey true deviceInfos queued)
    (repository : Repository) : HidesSecrets queued repository := by
  have noLocation : queued.geo_location = none := by rw [queues.others]; rfl
  have trust := queues.trust.hidden
  cases repository with
  | prisma =>
    refine ⟨?_, queues.fingerprint_js_id.hidden rfl, ?_⟩
    · rw [prismaDevice]
      cases isQueued : queued.fingerprint with
      | none => exact trust
      | some fingerprint =>
        rw [Option.some_or, ← isQueued]
        exact queues.fingerprint.hidden rfl
    · simp [prismaDevice, noLocation]
  | mongoose =>
    refine ⟨queues.fingerprint.hidden rfl, queues.fingerprint_js_id.hidden rfl, ?_, ?_⟩
    · cases isQueued : queued.device_trust with
      | none => simp [mongoDevice, isQueued, noTrust, Hidden]
      | some stored =>
        rw [isQueued] at trust
        simpa [mongoDevice, isQueued] using trust
    · simp [mongoDevice, noLocation, minimized]

theorem accepted_queued (queues : Queues crypto encryptionKey enabled deviceInfos queued) :
    (prismaDevice queued).accepted = true ↔
      (deviceInfos.screen.bind (·.width)).all isInt = true ∧
        (deviceInfos.screen.bind (·.height)).all isInt = true ∧
        deviceInfos.hardware_concurrency.all isInt = true := by
  rw [queues.others, ActivityDevice.accepted, Bool.and_eq_true, Bool.and_eq_true, and_assoc]
  rfl

theorem validScore_queued (queues : Queues crypto encryptionKey enabled deviceInfos queued) :
    validScore queued = validScore deviceInfos := by
  rw [queues.others]
  rfl

end

section
variable {crypto : Crypto} {encryptionKey : String} {enabled : Bool}
  {deviceInfos queued : DeviceInfos} {numbers : Numbers ℚ}

section

variable (queues : Queues crypto encryptionKey enabled deviceInfos queued)
include queues

theorem prisma_loaded_iff (typed : deviceInfos.Typed) (now : Int)
    (accepted : (prismaDevice queued).accepted = true) :
    decryptSensitiveDeviceFields crypto encryptionKey numbers
        (some (toDeviceInfos now (prismaDevice queued))) = some deviceInfos ↔
      PrismaKeeps crypto encryptionKey enabled deviceInfos := by
  obtain ⟨width, height, hardware_concurrency⟩ := (accepted_queued queues).mp accepted
  have secrets := prisma_trust_iff now queues typed
  have others := prisma_others_iff now queues typed
  have opens := queues.fingerprint_js_id.opens
  rw [decryptSensitiveDeviceFields_some rfl]
  constructor
  · rintro ⟨fingerprintOpened, idOpened, trustOpened, same⟩
    obtain ⟨fingerprint, trust⟩ := secrets.mp ⟨fingerprintOpened, trustOpened⟩
    obtain ⟨geo, browser, os, device, screen, memory, timezone_guess, requires_2fa⟩ :=
      others.mp same
    exact { fingerprint, fingerprint_js_id := opens.mp idOpened, trust, geo, browser, os, device
            screen, width, height, hardware_concurrency, memory, timezone_guess, requires_2fa }
  · intro keeps
    obtain ⟨fingerprintOpened, trustOpened⟩ := secrets.mpr ⟨keeps.fingerprint, keeps.trust⟩
    exact ⟨fingerprintOpened, opens.mpr keeps.fingerprint_js_id, trustOpened,
      others.mpr ⟨keeps.geo, keeps.browser, keeps.os, keeps.device, keeps.screen, keeps.memory,
        keeps.timezone_guess, keeps.requires_2fa⟩⟩

theorem mongoose_loaded_iff (typed : deviceInfos.Typed) {ip_address : String}
    (present : ip_address ≠ "") (score : validScore deviceInfos = true) :
    decryptSensitiveDeviceFields crypto encryptionKey numbers (some (mongoDevice queued)) =
        some deviceInfos ↔
      MongooseKeeps crypto encryptionKey enabled ip_address deviceInfos := by
  have trusts := mongoose_trust_iff typed queues.trust
  have others := mongoose_others_iff queues typed
  have opensFingerprint := queues.fingerprint.opens
  have opensId := queues.fingerprint_js_id.opens
  rw [decryptSensitiveDeviceFields_some rfl, trusts, others]
  constructor
  · rintro ⟨fingerprintOpened, idOpened, trust, geo, browser, os, device, screen, defaults⟩
    exact { fingerprint := opensFingerprint.mp fingerprintOpened
            fingerprint_js_id := opensId.mp idOpened
            trust, geo, browser, os, device, screen, defaults, score, ip_address := present }
  · intro keeps
    exact ⟨opensFingerprint.mpr keeps.fingerprint, opensId.mpr keeps.fingerprint_js_id,
      keeps.trust, keeps.geo, keeps.browser, keeps.os, keeps.device, keeps.screen, keeps.defaults⟩

theorem loaded_iff (typed : deviceInfos.Typed) (repository : Repository) (now : Int)
    (ip_address : String) :
    (storedAndLoaded repository now ⟨ip_address, some queued⟩).map (fun loaded =>
        { loaded with
          device_infos := decryptSensitiveDeviceFields crypto encryptionKey numbers
            loaded.device_infos }) = some ⟨ip_address, some deviceInfos⟩ ↔
      Keeps crypto encryptionKey enabled ip_address deviceInfos repository := by
  cases repository with
  | prisma =>
    rw [storedAndLoaded, storedAndLoadedByPrisma]
    simp only [Option.map_some, Option.all_some]
    by_cases accepted : (prismaDevice queued).accepted = true
    · rw [if_pos accepted, Option.map_some, Option.some.injEq, StoredActivity.mk.injEq,
        and_iff_right rfl]
      exact prisma_loaded_iff queues typed now accepted
    · rw [if_neg accepted]
      refine ⟨(by cases ·), fun keeps => absurd ?_ accepted⟩
      exact (accepted_queued queues).mpr
        ⟨keeps.width, keeps.height, keeps.hardware_concurrency⟩
  | mongoose =>
    rw [storedAndLoaded, storedAndLoadedByMongoose]
    simp only [Option.any_some, validScore_queued queues, Bool.not_eq_true']
    by_cases rejected : ip_address = "" ∨ validScore deviceInfos = false
    · rw [if_pos rejected]
      refine ⟨(by cases ·), fun keeps => ?_⟩
      rcases rejected with noAddress | invalid
      · exact absurd noAddress keeps.ip_address
      · simp [keeps.score] at invalid
    · obtain ⟨present, score⟩ := not_or.mp rejected
      rw [if_neg rejected, Option.map_some, Option.some.injEq, StoredActivity.mk.injEq,
        and_iff_right rfl]
      exact mongoose_loaded_iff queues typed present (by simpa using score)

end

end

/-- Device information comes back with its activity exactly where the repository keeps it. What is
marked for encryption is not stored as it is. -/
theorem roundTrip_iff {crypto : Crypto} {encryptionKey : String} {secret : List UInt8}
    {draws : Draws} {deviceInfos : DeviceInfos} (lawful : crypto.Lawful)
    (configured : getEncryptionKey crypto encryptionKey = some secret) (random : draws.Random)
    (typed : deviceInfos.Typed) (numbers : Numbers ℚ) (enabled : Bool) (repository : Repository)
    (now : Int) (ip_address : String) :
    roundTrip crypto encryptionKey numbers enabled draws repository now ip_address deviceInfos =
          some ⟨ip_address, some deviceInfos⟩ ∧
        (enabled = true → ∃ queued, encryptSensitiveDeviceFields crypto encryptionKey numbers
          enabled draws deviceInfos = some queued ∧ HidesSecrets queued repository) ↔
      Keeps crypto encryptionKey enabled ip_address deviceInfos repository := by
  obtain ⟨queued, isQueued, queues⟩ :=
    encryptSensitiveDeviceFields_queues lawful configured random numbers enabled deviceInfos
  have hides : enabled = true → HidesSecrets queued repository := by
    rintro rfl
    exact queues_hides queues repository
  rw [roundTrip, isQueued, loaded_iff queues typed]
  exact and_iff_left fun isEnabled => ⟨queued, rfl, hides isEnabled⟩

def wholeRationals : Numbers ℚ where
  value number := .finite number
  read numeral := JsonText.wholeNumbers.read numeral
  write number := JsonText.wholeNumbers.write number.num.natAbs

def zeroDraws : Draws := ⟨Settings.zeroIv, Settings.zeroIv, Settings.zeroIv, Settings.zeroIv⟩

def phone : DeviceInfos :=
  { noDeviceInfos with
    fingerprint := some "9b1f"
    browser := some ⟨some "Firefox", none⟩
    device_trust := some ⟨some true, some 1772366400000, some 1774958400000, some "9b1f"⟩ }

theorem phone_roundTrip :
    roundTrip Settings.transparentCrypto Settings.zeroKey wholeRationals true zeroDraws .prisma 0
        "192.0.2.7" phone = some ⟨"192.0.2.7", some phone⟩ ∧
      (true = true → ∃ queued, encryptSensitiveDeviceFields Settings.transparentCrypto
        Settings.zeroKey wholeRationals true zeroDraws phone = some queued ∧
          HidesSecrets queued .prisma) := by
  have configured : getEncryptionKey Settings.transparentCrypto Settings.zeroKey =
      some (List.replicate 32 0) := by decide +kernel
  have random : zeroDraws.Random :=
    ⟨Settings.zeroIv_isIv, Settings.zeroIv_isIv, Settings.zeroIv_isIv⟩
  have typed : phone.Typed := ⟨rfl, by rintro trust ⟨⟩; exact ⟨rfl, rfl, rfl, rfl⟩⟩
  refine (roundTrip_iff Settings.transparentCrypto_lawful configured random typed wholeRationals
    true .prisma 0 "192.0.2.7").mpr ?_
  constructor
  · rintro plaintext ⟨⟩
    exact Settings.ensureDecrypted_plain (by decide)
  · rintro plaintext ⟨⟩
  · rintro trust ⟨⟩
    rfl
  · rintro geo ⟨⟩
  · rintro browser ⟨⟩
    rfl
  · rintro os ⟨⟩
  · rintro device ⟨⟩
  · rintro screen ⟨⟩
  all_goals first | rfl | (rintro ⟨⟩)

def located : DeviceInfos :=
  { phone with
    geo_location := some ⟨some "BJ", none, some "Cotonou", none, none, none⟩
    is_new_device := some false
    requires_2fa := some false
    is_suspicious := some false
    risk_level := some .low }

def locationAfter (repository : Repository) : Option (Option (Option GeoLocation)) :=
  (roundTrip Settings.transparentCrypto Settings.zeroKey wholeRationals true zeroDraws repository
    0 "192.0.2.7" located).map fun loaded => loaded.device_infos.map (·.geo_location)

theorem location_lost :
    located.geo_location.isSome = true ∧ locationAfter .prisma = some (some none) ∧
      locationAfter .mongoose = some (some none) :=
  ⟨rfl, rfl, rfl⟩

end ParakoId.Activities
