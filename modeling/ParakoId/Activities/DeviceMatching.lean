import Mathlib
import ParakoId.Activities.ClientAddress
import ParakoId.Activities.DeviceInfos

/-!
Whether a sign-in comes from a device of the account's history: how alike two devices are, and the
fingerprint that the server makes of the data of a device.
-/

namespace ParakoId.Activities

open Url (Text)

section Fingerprints

variable {Number : Type} [DecidableEq Number] [Zero Number] [One Number]

structure ScreenSize (Number : Type) where
  width : Number
  height : Number
  pixel_ratio : Number
  deriving DecidableEq

/-- The user agent of the request, and the rest as `sanitizeClientPayload` leaves it. -/
structure DeviceData (Number : Type) where
  user_agent : Text
  platform : Option Text
  timezone : Option Text
  screen : Option (ScreenSize Number)
  hardware_concurrency : Option Number
  memory : Option Number
  deriving DecidableEq

/-- `number || default`. -/
def orDefault (default : Number) (number : Option Number) : Number :=
  (number.filter (· ≠ 0)).getD default

def DeviceData.defaulted (data : DeviceData Number) : DeviceData Number where
  user_agent := data.user_agent
  platform := some (data.platform.getD [])
  timezone := some (data.timezone.getD [])
  screen := some {
    width := orDefault 0 (data.screen.map ScreenSize.width)
    height := orDefault 0 (data.screen.map ScreenSize.height)
    pixel_ratio := orDefault 1 (data.screen.map ScreenSize.pixel_ratio) }
  hardware_concurrency := some (orDefault 0 data.hardware_concurrency)
  memory := some (orDefault 0 data.memory)

structure DeviceData.Plain (data : DeviceData Number) : Prop where
  user_agent : '|' ∉ data.user_agent
  platform : '|' ∉ data.platform.getD []
  timezone : '|' ∉ data.timezone.getD []

/-- What `getClientInfo` makes a fingerprint of: the data of a device, or nothing once it failed. -/
inductive Origin (Number : Type)
  | device (data : DeviceData Number)
  | error

namespace Origin

def Plain : Origin Number → Prop
  | .device data => data.Plain
  | .error => True

def data : Origin Number → Option (DeviceData Number)
  | .device data => some data.defaulted
  | .error => none

end Origin

variable (sha256 : Text → Text) (numberText : Number → Text)

def fingerprintFields (data : DeviceData Number) : List Text := [
  data.user_agent,
  data.platform.getD [],
  data.timezone.getD [],
  numberText (orDefault 0 (data.screen.map ScreenSize.width)),
  numberText (orDefault 0 (data.screen.map ScreenSize.height)),
  numberText (orDefault 1 (data.screen.map ScreenSize.pixel_ratio)),
  numberText (orDefault 0 data.hardware_concurrency),
  numberText (orDefault 0 data.memory)]

def generateServerFingerprint (data : DeviceData Number) : Text :=
  sha256 (['|'].intercalate (fingerprintFields numberText data))

def Origin.fingerprint : Origin Number → Text
  | .device data => generateServerFingerprint sha256 numberText data
  | .error => sha256 ['e', 'r', 'r', 'o', 'r']

variable {sha256 numberText}

theorem defaulted_eq (numbersDiffer : Function.Injective numberText)
    {data other : DeviceData Number}
    (same : fingerprintFields numberText data = fingerprintFields numberText other) :
    data.defaulted = other.defaulted := by
  simp only [fingerprintFields, List.cons.injEq, numbersDiffer.eq_iff] at same
  obtain ⟨user_agent, platform, timezone, width, height, pixel_ratio, cores, memory, -⟩ := same
  simp only [DeviceData.defaulted, user_agent, platform, timezone, width, height, pixel_ratio,
    cores, memory]

theorem splitOn_joined (numbersPlain : ∀ number, '|' ∉ numberText number)
    {data : DeviceData Number} (plain : data.Plain) :
    (['|'].intercalate (fingerprintFields numberText data)).splitOn '|' =
      fingerprintFields numberText data := by
  apply List.splitOn_intercalate
  · simp [fingerprintFields, numbersPlain, plain.user_agent, plain.platform, plain.timezone]
  · simp [fingerprintFields]

theorem count_joined (numbersPlain : ∀ number, '|' ∉ numberText number) (data : DeviceData Number) :
    (['|'].intercalate (fingerprintFields numberText data)).count '|' =
      7 + (data.user_agent.count '|' + (data.platform.getD []).count '|' +
        (data.timezone.getD []).count '|') := by
  have numbersCount : ∀ number, (numberText number).count '|' = 0 :=
    fun number => List.count_eq_zero.mpr (numbersPlain number)
  simp [fingerprintFields, List.intercalate, numbersCount]
  omega

theorem DeviceData.Plain.of_joined (numbersPlain : ∀ number, '|' ∉ numberText number)
    {data other : DeviceData Number} (plain : data.Plain)
    (same : ['|'].intercalate (fingerprintFields numberText other) =
      ['|'].intercalate (fingerprintFields numberText data)) : other.Plain := by
  have separators := congrArg (List.count '|') same
  rw [count_joined numbersPlain, count_joined numbersPlain,
    List.count_eq_zero.mpr plain.user_agent, List.count_eq_zero.mpr plain.platform,
    List.count_eq_zero.mpr plain.timezone] at separators
  constructor
  all_goals
    apply List.count_eq_zero.mp
    omega

theorem joined_ne_error (data : DeviceData Number) :
    ['|'].intercalate (fingerprintFields numberText data) ≠ ['e', 'r', 'r', 'o', 'r'] := by
  intro same
  have separator : '|' ∈ ['|'].intercalate (fingerprintFields numberText data) := by
    simp [fingerprintFields, List.intercalate]
  rw [same] at separator
  exact absurd separator (by decide)

theorem Origin.data_eq (collisionFree : Function.Injective sha256)
    (numbersDiffer : Function.Injective numberText)
    (numbersPlain : ∀ number, '|' ∉ numberText number) {origin other : Origin Number}
    (otherPlain : other.Plain)
    (same : origin.fingerprint sha256 numberText = other.fingerprint sha256 numberText) :
    origin.data = other.data := by
  cases origin with
  | device data =>
    cases other with
    | device otherData =>
      have joined := collisionFree same
      have plain := DeviceData.Plain.of_joined numbersPlain otherPlain joined
      have fields := congrArg (List.splitOn '|') joined
      rw [splitOn_joined numbersPlain plain, splitOn_joined numbersPlain otherPlain] at fields
      exact congrArg some (defaulted_eq numbersDiffer fields)
    | error => exact absurd (collisionFree same) (joined_ne_error data)
  | error =>
    cases other with
    | device otherData => exact absurd (collisionFree same).symm (joined_ne_error otherData)
    | error => rfl

end Fingerprints

/-- Of the browser and the operating system only the names, of the device its type. -/
structure ClientDetails where
  ip : Text
  user_agent : Text
  browser : Option Text
  os : Option Text
  device : Option Text
  timezone_guess : Option Text
  fingerprint : Text
  fingerprint_js_id : Option Text

structure DeviceMatchConfig where
  min_confidence_score : ℚ
  vpn_proxy_ranges : List Text

def DEFAULT_CONFIG : DeviceMatchConfig where
  min_confidence_score := 70
  vpn_proxy_ranges := ["10.0.0.0/8".toList, "172.16.0.0/12".toList, "192.168.0.0/16".toList]

/-- A row of the matrix from the cell on the left and the row above. -/
def nextRow (unit : UInt16) : Nat → List Nat → CodeUnits → List Nat
  | left, diagonal :: above :: row, other :: rest =>
    let cell := min (min (above + 1) (left + 1)) (diagonal + if unit = other then 0 else 1)
    cell :: nextRow unit cell (above :: row) rest
  | _, _, _ => []

def levenshteinDistance (units1 units2 : CodeUnits) : Nat :=
  (units1.foldl (fun row unit =>
    let start := row.headD 0 + 1
    start :: nextRow unit start row units2) (List.range (units2.length + 1))).getLastD 0

def calculateStringSimilarity (str1 str2 : Text) : ℚ :=
  if str1 = [] ∨ str2 = [] then 0
  else if str1 = str2 then 1
  else
    let units1 := CodeUnits.ofText str1
    let units2 := CodeUnits.ofText str2
    let maxLength := max units1.length units2.length
    ((maxLength : ℚ) - levenshteinDistance units1 units2) / maxLength

def calculateIPSimilarity (ip1 ip2 : Text) : ℚ :=
  if ip1 = [] ∨ ip2 = [] then 0
  else if ip1 = ip2 then 1
  else
    let parts1 := ip1.splitOn '.'
    let parts2 := ip2.splitOn '.'
    if parts1.length ≠ 4 ∨ parts2.length ≠ 4 then 0
    else ((parts1.zip parts2).countP fun parts => parts.1 = parts.2 : ℚ) / 4

def nameSimilarity (name1 name2 : Option Text) : Option ℚ :=
  match truthy name1, truthy name2 with
  | some text1, some text2 => some (calculateStringSimilarity text1 text2)
  | _, _ => none

def calculateBrowserOSSimilarity (device1 device2 : ClientDetails) : ℚ :=
  let scores := [
    nameSimilarity device1.browser device2.browser,
    nameSimilarity device1.os device2.os,
    nameSimilarity device1.device device2.device].reduceOption
  if 0 < scores.length then scores.sum / scores.length else 0

/-- The score and the weight of two identifiers, of which each may be missing. -/
def comparedIds (id1 id2 : Text) (weight : ℚ) : ℚ × ℚ :=
  if id1 ≠ [] ∧ id2 ≠ [] then ((if id1 = id2 then 1 else 0) * weight, weight) else (0, 0)

def calculateDeviceSimilarity (newDevice oldDevice : ClientDetails) : ℚ :=
  let fingerprint := comparedIds newDevice.fingerprint oldDevice.fingerprint (4 / 10)
  let fingerprintJs := comparedIds (newDevice.fingerprint_js_id.getD [])
    (oldDevice.fingerprint_js_id.getD []) (3 / 10)
  let totalScore := fingerprint.1 + fingerprintJs.1 +
    calculateIPSimilarity newDevice.ip oldDevice.ip * (15 / 100) +
    calculateStringSimilarity newDevice.user_agent oldDevice.user_agent * (1 / 10) +
    calculateBrowserOSSimilarity newDevice oldDevice * (5 / 100)
  let totalWeight := fingerprint.2 + fingerprintJs.2 + 15 / 100 + 1 / 10 + 5 / 100
  totalScore / totalWeight

structure DeviceMatchResult where
  is_new_device : Bool
  requires_2fa : Bool
  is_suspicious : Bool
  confidence_score : Int
  reason : String
  matched_device : Option ClientDetails
  risk_level : RiskLevel

section Matching

variable (stringToNumber : Text → Option JsNumber)

def isSuspiciousIP (ip : Text) (config : DeviceMatchConfig) : Bool :=
  config.vpn_proxy_ranges.any (isIPInRange stringToNumber ip)

local instance : LawfulBEq Text := inferInstance

def determineRiskLevel (newDevice : ClientDetails) (oldDevices : List ClientDetails)
    (config : DeviceMatchConfig) : RiskLevel :=
  let recentTimezones := (oldDevices.take 5).filterMap (truthy ·.timezone_guess)
  let uniqueFingerprints := ((oldDevices.take 10).map ClientDetails.fingerprint).dedup
  let riskScore :=
    (if isSuspiciousIP stringToNumber newDevice.ip config then 30 else 0) +
    (if oldDevices = [] then 20 else 0) +
    (if recentTimezones ≠ [] ∧ (truthy newDevice.timezone_guess).any (· ∉ recentTimezones)
      then 15 else 0) +
    (if 5 ≤ oldDevices.length ∧ 8 ≤ uniqueFingerprints.length then 20 else 0) +
    (if newDevice.fingerprint ∉ oldDevices.map ClientDetails.fingerprint then 10 else 0)
  if 60 ≤ riskScore then .critical
  else if 40 ≤ riskScore then .high
  else if 20 ≤ riskScore then .medium
  else .low

def riskText : RiskLevel → String
  | .low => "low"
  | .medium => "medium"
  | .high => "high"
  | .critical => "critical"

def bestOf (newDevice : ClientDetails) (best : ℚ × Option ClientDetails)
    (oldDevices : List ClientDetails) : ℚ × Option ClientDetails :=
  oldDevices.foldl (fun best oldDevice =>
    let similarityScore := calculateDeviceSimilarity newDevice oldDevice
    if best.1 < similarityScore then (similarityScore, some oldDevice) else best) best

def evaluateDeviceMatch (newDevice : ClientDetails) (oldDevices : List ClientDetails)
    (config : DeviceMatchConfig) : DeviceMatchResult :=
  if oldDevices = [] then
    { is_new_device := true
      requires_2fa := true
      is_suspicious := false
      confidence_score := 0
      reason := "First login - no previous devices found"
      matched_device := none
      risk_level := .medium }
  else
    let best := bestOf newDevice (0, none) oldDevices
    let riskLevel := determineRiskLevel stringToNumber newDevice oldDevices config
    let isNewDevice := decide (best.1 < config.min_confidence_score / 100)
    let isSuspicious := decide (riskLevel = .high ∨ riskLevel = .critical)
    -- `Math.round` takes the half up.
    let percent := ⌊best.1 * 100 + 1 / 2⌋
    { is_new_device := isNewDevice
      requires_2fa := isNewDevice || isSuspicious
      is_suspicious := isSuspicious
      confidence_score := percent
      reason :=
        if isNewDevice then s!"New device detected (confidence: {percent}%)"
        else if isSuspicious then
          "Suspicious activity detected (" ++ riskText riskLevel ++ " risk level)"
        else s!"Known device matched (confidence: {percent}%)"
      matched_device := best.2
      risk_level := riskLevel }

/-- Under the default configuration. -/
def isKnown (newDevice : ClientDetails) (oldDevices : List ClientDetails) : Bool :=
  !(evaluateDeviceMatch stringToNumber newDevice oldDevices DEFAULT_CONFIG).is_new_device

end Matching

section Known

theorem calculateStringSimilarity_le_one (str1 str2 : Text) :
    calculateStringSimilarity str1 str2 ≤ 1 := by
  rw [calculateStringSimilarity]
  split
  · exact zero_le_one
  · split
    · exact le_rfl
    · exact div_le_one_of_le₀ (sub_le_self _ (Nat.cast_nonneg _)) (Nat.cast_nonneg _)

theorem calculateIPSimilarity_le_one (ip1 ip2 : Text) : calculateIPSimilarity ip1 ip2 ≤ 1 := by
  simp only [calculateIPSimilarity]
  split
  · exact zero_le_one
  · split
    · exact le_rfl
    · split
      · exact zero_le_one
      · rename_i sizes
        have few : (((ip1.splitOn '.').zip (ip2.splitOn '.')).countP
            fun parts => parts.1 = parts.2) ≤ 4 := by
          refine List.countP_le_length.trans ?_
          rw [List.length_zip]
          omega
        exact div_le_one_of_le₀ (by exact_mod_cast few) (by norm_num)

theorem calculateBrowserOSSimilarity_le_one (device1 device2 : ClientDetails) :
    calculateBrowserOSSimilarity device1 device2 ≤ 1 := by
  have nameSimilarity_le_one {name1 name2 : Option Text} {score : ℚ}
      (compared : nameSimilarity name1 name2 = some score) : score ≤ 1 := by
    rw [nameSimilarity] at compared
    split at compared
    · exact Option.some.inj compared ▸ calculateStringSimilarity_le_one _ _
    · cases compared
  simp only [calculateBrowserOSSimilarity]
  split
  · refine div_le_one_of_le₀ ?_ (Nat.cast_nonneg _)
    rw [← nsmul_one]
    apply List.sum_le_card_nsmul
    intro score member
    rw [List.reduceOption_mem_iff] at member
    simp only [List.mem_cons, List.not_mem_nil, or_false] at member
    obtain compared | compared | compared := member
    all_goals exact nameSimilarity_le_one compared.symm
  · exact zero_le_one

theorem calculateDeviceSimilarity_lt {newDevice oldDevice : ClientDetails}
    (newMade : newDevice.fingerprint ≠ []) (oldMade : oldDevice.fingerprint ≠ [])
    (different : newDevice.fingerprint ≠ oldDevice.fingerprint) :
    calculateDeviceSimilarity newDevice oldDevice < 7 / 10 := by
  have ip := calculateIPSimilarity_le_one newDevice.ip oldDevice.ip
  have agent := calculateStringSimilarity_le_one newDevice.user_agent oldDevice.user_agent
  have names := calculateBrowserOSSimilarity_le_one newDevice oldDevice
  simp only [calculateDeviceSimilarity, comparedIds, if_pos (And.intro newMade oldMade),
    if_neg different]
  split
  · rw [div_lt_iff₀ (by norm_num)]
    split <;> linarith
  · rw [div_lt_iff₀ (by norm_num)]
    linarith

theorem le_bestOf_iff (newDevice : ClientDetails) (threshold : ℚ)
    (best : ℚ × Option ClientDetails) (oldDevices : List ClientDetails) :
    threshold ≤ (bestOf newDevice best oldDevices).1 ↔ threshold ≤ best.1 ∨
      ∃ oldDevice ∈ oldDevices, threshold ≤ calculateDeviceSimilarity newDevice oldDevice := by
  induction oldDevices generalizing best with
  | nil => simp [bestOf]
  | cons oldDevice rest ih =>
    rw [bestOf, List.foldl_cons, ← bestOf, ih, List.exists_mem_cons_iff, ← or_assoc]
    apply or_congr_left
    dsimp only
    split
    · rename_i better
      exact ⟨.inr, fun either => either.elim better.le.trans' id⟩
    · rename_i worse
      exact ⟨.inl, fun either => either.elim id (not_lt.mp worse).trans'⟩

variable (stringToNumber : Text → Option JsNumber) {newDevice : ClientDetails}

theorem isKnown_iff (oldDevices : List ClientDetails) :
    isKnown stringToNumber newDevice oldDevices = true ↔
      ∃ oldDevice ∈ oldDevices, 7 / 10 ≤ calculateDeviceSimilarity newDevice oldDevice := by
  by_cases first : oldDevices = []
  · simp [isKnown, evaluateDeviceMatch, first]
  · have threshold : DEFAULT_CONFIG.min_confidence_score / 100 = 7 / 10 := by
      norm_num [DEFAULT_CONFIG]
    simp only [isKnown, evaluateDeviceMatch, if_neg first, threshold, Bool.not_eq_true',
      decide_eq_false_iff_not, not_lt]
    rw [le_bestOf_iff]
    norm_num

variable {Number : Type} [DecidableEq Number] [Zero Number] [One Number]
  {sha256 : Text → Text} {numberText : Number → Text}

theorem known_device_data (collisionFree : Function.Injective sha256)
    (digests : ∀ text, sha256 text ≠ []) (numbersDiffer : Function.Injective numberText)
    (numbersPlain : ∀ number, '|' ∉ numberText number) (origin : Origin Number)
    (plain : origin.Plain) (made : newDevice.fingerprint = origin.fingerprint sha256 numberText)
    (oldDevices : List ClientDetails) :
    (isKnown stringToNumber newDevice oldDevices = true →
        ∃ oldDevice ∈ oldDevices, oldDevice.fingerprint = [] ∨
          oldDevice.fingerprint = newDevice.fingerprint ∧ ∀ oldOrigin : Origin Number,
            oldDevice.fingerprint = oldOrigin.fingerprint sha256 numberText →
              oldOrigin.data = origin.data) ∧
      ∀ reordered, oldDevices.Perm reordered →
        isKnown stringToNumber newDevice reordered =
          isKnown stringToNumber newDevice oldDevices := by
  constructor
  · intro known
    obtain ⟨oldDevice, member, similar⟩ := (isKnown_iff stringToNumber oldDevices).mp known
    refine ⟨oldDevice, member, ?_⟩
    by_cases missing : oldDevice.fingerprint = []
    · exact .inl missing
    · have newMade : newDevice.fingerprint ≠ [] := by
        rw [made]
        cases origin <;> exact digests _
      have same : oldDevice.fingerprint = newDevice.fingerprint := by
        by_contra different
        exact similar.not_gt (calculateDeviceSimilarity_lt newMade missing (Ne.symm different))
      refine .inr ⟨same, fun oldOrigin oldMade => ?_⟩
      exact Origin.data_eq collisionFree numbersDiffer numbersPlain plain
        (oldMade.symm.trans (same.trans made))
  · intro reordered perm
    rw [Bool.eq_iff_iff, isKnown_iff, isKnown_iff]
    simp only [perm.mem_iff]

end Known

/-- A stand-in without collisions. -/
def marked (text : Text) : Text := '#' :: text

def digitText (digit : Fin 10) : Text := [Nat.digitChar digit]

def sentBy (agent : Text) (platform : Option Text) : DeviceData (Fin 10) where
  user_agent := agent
  platform
  timezone := none
  screen := none
  hardware_concurrency := some 8
  memory := none

def detailsOf (data : DeviceData (Fin 10)) : ClientDetails where
  ip := [':', ':', '1']
  user_agent := data.user_agent
  browser := none
  os := none
  device := none
  timezone_guess := none
  fingerprint := generateServerFingerprint marked digitText data
  fingerprint_js_id := none

theorem known_device_data_phone :
    ∃ oldDevice ∈ [detailsOf (sentBy ['a'] none)], oldDevice.fingerprint = [] ∨
      oldDevice.fingerprint = (detailsOf (sentBy ['a'] (some []))).fingerprint ∧
        ∀ oldOrigin : Origin (Fin 10),
          oldDevice.fingerprint = oldOrigin.fingerprint marked digitText →
            oldOrigin.data = (Origin.device (sentBy ['a'] (some []))).data :=
  (known_device_data (fun _ => none) List.cons_injective (fun _ => nofun) (by
    rw [Function.Injective]
    decide) (by decide) (.device _) ⟨by decide, by decide, by decide⟩ rfl _).1
      (by decide +kernel)

theorem known_without_same_data :
    (isKnown (fun _ => none) (detailsOf (sentBy ['a', '|', 'b'] (some ['c'])))
        [detailsOf (sentBy ['a'] (some ['b', '|', 'c']))] = true ∧
      sentBy ['a', '|', 'b'] (some ['c']) ≠ sentBy ['a'] (some ['b', '|', 'c'])) ∧
    (isKnown (fun _ => none) (detailsOf (sentBy ['a'] none))
        [detailsOf (sentBy ['a'] (some []))] = true ∧
      sentBy ['a'] none ≠ sentBy ['a'] (some [])) ∧
    isKnown (fun _ => none) (detailsOf (sentBy ['a'] none))
      [{ detailsOf (sentBy ['a'] none) with fingerprint := [] }] = true := by
  decide +kernel

end ParakoId.Activities
