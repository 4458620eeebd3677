import ParakoId.Library.Base64url
import ParakoId.Library.JsonText
import ParakoId.SocialRelay.States

/-!
Signed states as they travel: the text that a state is written as, and what is made of any text
that comes in.
-/

namespace ParakoId.SocialRelay.HmacStates

open JsonText (Numbers Value clone parse stringify wholeNumbers wholeNumbers_lawful)

/-- What the code uses of `Buffer` and of `node:crypto`. The HMAC of a text under a secret is in
hexadecimal. -/
structure Node where
  fromBase64url : CodeUnits → List UInt8
  toBase64url : List UInt8 → CodeUnits
  fromUtf8 : List Char → List UInt8
  toUtf8 : List UInt8 → List Char
  fromHex : CodeUnits → List UInt8
  hmac : CodeUnits → List Char → CodeUnits

structure Node.Lawful (node : Node) : Prop where
  base64url : ∀ bytes, node.fromBase64url (node.toBase64url bytes) = bytes
  utf8 : ∀ text, node.toUtf8 (node.fromUtf8 text) = text

/-- The timestamp `none` is NaN. -/
structure HmacStatePayload (Number : Type) where
  tenant_id : CodeUnits
  nonce : CodeUnits
  timestamp : Option Number

inductive VerifyResult (Number : Type)
  | valid (payload : HmacStatePayload Number)
  | invalid (error : String)

def key (name : String) : CodeUnits := CodeUnits.ofText name.toList

variable {Number : Type} (node : Node) (numbers : Numbers Number)

-- NaN is written as `null`
def numberValue : Option Number → Value Number
  | some number => .num number
  | none => .null

def canonical (payload : HmacStatePayload Number) : Value Number := .obj [
  (key "nonce", .str payload.nonce),
  (key "tenant_id", .str payload.tenant_id),
  (key "timestamp", numberValue payload.timestamp)]

def computeSignature (payload : HmacStatePayload Number) (secret : CodeUnits) : CodeUnits :=
  node.hmac secret (stringify numbers (canonical payload))

def signed (payload : HmacStatePayload Number) (sig : CodeUnits) : Value Number := .obj [
  (key "tenant_id", .str payload.tenant_id),
  (key "nonce", .str payload.nonce),
  (key "timestamp", numberValue payload.timestamp),
  (key "sig", .str sig)]

def encode (text : List Char) : CodeUnits := node.toBase64url (node.fromUtf8 text)

def decode (state : CodeUnits) : List Char := node.toUtf8 (node.fromBase64url state)

def createHmacState (payload : HmacStatePayload Number) (secret : CodeUnits) : CodeUnits :=
  encode node (stringify numbers
    (signed payload (computeSignature node numbers payload secret)))

/-- `none` where it throws. -/
def timingSafeEqual (first second : List UInt8) : Option Bool :=
  if first.length ≠ second.length then none else some (first == second)

/-- `now - timestamp`, without the rounding of times near 1970. -/
def age (now : Nat) : JsNumber → JsNumber
  | .negInfinity => .infinity
  | .finite timestamp => .finite (now - timestamp)
  | .infinity => .negInfinity

/-- `none` where it throws. -/
def verifyHmacState (state secret : CodeUnits) (now : Nat) : Option (VerifyResult Number) :=
  match parse numbers (decode node state) with
  | none => some (.invalid "Malformed state: invalid encoding")
  | some parsed =>
    -- nothing is read of `null`
    if parsed.isNull then none
    else match parsed.property (key "tenant_id"), parsed.property (key "nonce"),
      parsed.property (key "timestamp"), parsed.property (key "sig") with
    | some (.str tenant_id), some (.str nonce), some (.num timestamp), some (.str sig) =>
      let payload := { tenant_id, nonce, timestamp := some timestamp }
      let expected := computeSignature node numbers payload secret
      let sigBuffer := node.fromHex sig
      let expectedBuffer := node.fromHex expected
      if sigBuffer.length ≠ expectedBuffer.length then some (.invalid "Invalid signature")
      else (timingSafeEqual sigBuffer expectedBuffer).map fun equal =>
        if equal = false then .invalid "Invalid signature"
        else if age now (numbers.value timestamp) < 0 then .invalid "State timestamp in future"
        else if .finite STATE_TTL_MS < age now (numbers.value timestamp) then
          .invalid "State expired"
        else .valid payload
    | _, _, _, _ => some (.invalid "Malformed state: missing required fields")

def Carries (state : CodeUnits) (payload : HmacStatePayload Number) (sig : CodeUnits) : Prop :=
  ∃ parsed timestamp, parse numbers (decode node state) = some parsed ∧
    parsed.property (key "tenant_id") = some (.str payload.tenant_id) ∧
    parsed.property (key "nonce") = some (.str payload.nonce) ∧
    parsed.property (key "timestamp") = some (.num timestamp) ∧
    payload.timestamp = some timestamp ∧ parsed.property (key "sig") = some (.str sig)

def SaysTheSame (state other : CodeUnits) : Prop :=
  ∃ (payload : HmacStatePayload Number) (sig otherSig : CodeUnits),
    Carries node numbers state payload sig ∧ Carries node numbers other payload otherSig ∧
      node.fromHex sig = node.fromHex otherSig

def InTime (now : Nat) (payload : HmacStatePayload Number) : Prop :=
  ∃ (timestamp : Number) (time : ℚ), payload.timestamp = some timestamp ∧
    numbers.value timestamp = .finite time ∧ time ≤ now ∧ now ≤ time + STATE_TTL_MS

/-- No HMAC is guessed: where the signature of the state has the bytes of the HMAC of a text, that
text was signed for one of the payloads. -/
def Unguessed (created : List (HmacStatePayload Number)) (state secret : CodeUnits) : Prop :=
  ∀ payload sig text, Carries node numbers state payload sig →
    node.fromHex sig = node.fromHex (node.hmac secret text) →
      ∃ other ∈ created, text = stringify numbers (canonical other)

theorem age_inTime (now : Nat) (time : JsNumber) :
    (¬age now time < 0 ∧ ¬JsNumber.finite STATE_TTL_MS < age now time) ↔
      ∃ rational, time = .finite rational ∧ rational ≤ now ∧ now ≤ rational + STATE_TTL_MS := by
  cases time with
  | negInfinity =>
    have old : JsNumber.finite STATE_TTL_MS < .infinity := by decide
    simp [age, old]
  | infinity =>
    have future : JsNumber.negInfinity < 0 := by decide
    simp [age, future]
  | finite rational =>
    have future : JsNumber.finite (now - rational) < 0 ↔ (now : ℚ) - rational < 0 :=
      finite_lt _ _
    simp only [age, future, finite_lt, not_lt, JsNumber.finite.injEq, exists_eq_left', sub_nonneg,
      tsub_le_iff_left]

variable {node numbers}

variable {state : CodeUnits} {payload : HmacStatePayload Number}

theorem carries_unique {other : HmacStatePayload Number} {sig otherSig : CodeUnits}
    (carries : Carries node numbers state payload sig)
    (carriesOther : Carries node numbers state other otherSig) :
    payload = other ∧ sig = otherSig := by
  obtain ⟨parsed, timestamp, isParsed, tenant, nonce, isTimestamp, isNumber, isSig⟩ := carries
  obtain ⟨otherParsed, otherTimestamp, isOther, otherTenant, otherNonce, isOtherTimestamp,
    isOtherNumber, isOtherSig⟩ := carriesOther
  have sameParsed : parsed = otherParsed := Option.some.inj (isParsed.symm.trans isOther)
  subst sameParsed
  have sameTenant := Value.str.inj (Option.some.inj (tenant.symm.trans otherTenant))
  have sameNonce := Value.str.inj (Option.some.inj (nonce.symm.trans otherNonce))
  have sameTimestamp := Value.num.inj (Option.some.inj (isTimestamp.symm.trans isOtherTimestamp))
  have sameSig := Value.str.inj (Option.some.inj (isSig.symm.trans isOtherSig))
  subst sameTimestamp
  cases payload
  cases other
  cases isNumber
  cases isOtherNumber
  cases sameTenant
  cases sameNonce
  exact ⟨rfl, sameSig⟩

theorem carries_number {sig : CodeUnits} (carries : Carries node numbers state payload sig) :
    ∃ timestamp, payload.timestamp = some timestamp := by
  obtain ⟨_, timestamp, _, _, _, _, isNumber, _⟩ := carries
  exact ⟨timestamp, isNumber⟩

theorem verifyHmacState_carried {timestamp : Number} {sig : CodeUnits}
    (carries : Carries node numbers state payload sig)
    (isNumber : payload.timestamp = some timestamp) (secret : CodeUnits) (now : Nat) :
    verifyHmacState node numbers state secret now = some
      (if node.fromHex sig ≠ node.fromHex (computeSignature node numbers payload secret) then
        .invalid "Invalid signature"
      else if age now (numbers.value timestamp) < 0 then .invalid "State timestamp in future"
      else if .finite STATE_TTL_MS < age now (numbers.value timestamp) then
        .invalid "State expired"
      else .valid payload) := by
  obtain ⟨parsed, number, isParsed, tenant, nonce, isTimestamp, isPayload, isSig⟩ := carries
  have sameNumber : number = timestamp := Option.some.inj (isPayload.symm.trans isNumber)
  subst sameNumber
  have notNull : parsed.isNull = false := by
    cases parsed with
    | null => cases tenant
    | _ => rfl
  have isSame : (⟨payload.tenant_id, payload.nonce, some number⟩ : HmacStatePayload Number) =
      payload := by
    rw [← isPayload]
  rw [verifyHmacState, isParsed]
  simp only [notNull, tenant, nonce, isTimestamp, isSig, isSame, timingSafeEqual,
    Bool.false_eq_true, if_false]
  generalize node.fromHex sig = sigBuffer
  generalize node.fromHex (computeSignature node numbers payload secret) = expectedBuffer
  by_cases sameLength : sigBuffer.length = expectedBuffer.length
  · simp only [sameLength, ne_eq, not_true_eq_false, if_false, Option.map_some, beq_eq_false_iff_ne]
  · have differ : sigBuffer ≠ expectedBuffer := fun same => sameLength (congrArg _ same)
    simp only [sameLength, differ, ne_eq, not_false_eq_true, if_true]

theorem verifyHmacState_null (secret : CodeUnits) (now : Nat)
    (isNull : parse numbers (decode node state) = some .null) :
    verifyHmacState node numbers state secret now = none := by
  rw [verifyHmacState, isNull]
  rfl

theorem verifyHmacState_cases (secret : CodeUnits) (now : Nat)
    (notNull : parse numbers (decode node state) ≠ some .null) :
    (∃ error, verifyHmacState node numbers state secret now = some (.invalid error)) ∨
      ∃ payload sig, Carries node numbers state payload sig := by
  rw [verifyHmacState]
  split
  · exact .inl ⟨_, rfl⟩
  · rename_i parsed isParsed
    have isValue : parsed.isNull = false := by
      cases parsed with
      | null => exact (notNull isParsed).elim
      | _ => rfl
    simp only [isValue, Bool.false_eq_true, if_false]
    split
    · rename_i tenant_id nonce timestamp sig isTenant isNonce isTimestamp isSig
      exact .inr ⟨⟨tenant_id, nonce, some timestamp⟩, sig, parsed, timestamp, isParsed, isTenant,
        isNonce, isTimestamp, rfl, isSig⟩
    · exact .inl ⟨_, rfl⟩

theorem verifyHmacState_returns (secret : CodeUnits) (now : Nat)
    (notNull : parse numbers (decode node state) ≠ some .null) :
    (verifyHmacState node numbers state secret now).isSome = true := by
  rcases verifyHmacState_cases secret now notNull with ⟨error, refused⟩ | ⟨payload, sig, carries⟩
  · rw [refused]
    rfl
  · obtain ⟨timestamp, isNumber⟩ := carries_number carries
    rw [verifyHmacState_carried carries isNumber]
    rfl

theorem verifyHmacState_valid_iff {secret : CodeUnits} {now : Nat} :
    verifyHmacState node numbers state secret now = some (.valid payload) ↔
      InTime numbers now payload ∧ ∃ sig, Carries node numbers state payload sig ∧
        node.fromHex sig = node.fromHex (computeSignature node numbers payload secret) := by
  have answer : ∀ {sig timestamp}, Carries node numbers state payload sig →
      payload.timestamp = some timestamp →
        (verifyHmacState node numbers state secret now = some (.valid payload) ↔
          node.fromHex sig = node.fromHex (computeSignature node numbers payload secret) ∧
            ∃ time, numbers.value timestamp = .finite time ∧ time ≤ now ∧
              now ≤ time + STATE_TTL_MS) := by
    intro sig timestamp carries isNumber
    rw [verifyHmacState_carried carries isNumber, ← age_inTime]
    split
    · simp_all
    · split
      · simp_all
      · split
        · simp_all
        · simp_all
  constructor
  · intro valid
    have notNull : parse numbers (decode node state) ≠ some .null := by
      intro isNull
      rw [verifyHmacState_null secret now isNull] at valid
      cases valid
    rcases verifyHmacState_cases secret now notNull with ⟨error, refused⟩ | ⟨carried, sig, carries⟩
    · rw [refused] at valid
      cases valid
    · obtain ⟨timestamp, isNumber⟩ := carries_number carries
      have isCarried : carried = payload := by
        rw [verifyHmacState_carried carries isNumber] at valid
        split at valid
        · cases valid
        · split at valid
          · cases valid
          · split at valid
            · cases valid
            · cases valid
              rfl
      subst isCarried
      obtain ⟨sameBytes, time, inTime⟩ := (answer carries isNumber).mp valid
      exact ⟨⟨timestamp, time, isNumber, inTime⟩, sig, carries, sameBytes⟩
  · rintro ⟨⟨timestamp, time, isNumber, inTime⟩, sig, carries, sameBytes⟩
    exact (answer carries isNumber).mpr ⟨sameBytes, time, inTime⟩

section Lawful

variable (lawful : node.Lawful) (numbersLawful : numbers.Lawful)

include lawful in
theorem decode_encode (text : List Char) : decode node (encode node text) = text := by
  rw [decode, encode, lawful.base64url, lawful.utf8]

include lawful numbersLawful

theorem carries_created {payload : HmacStatePayload Number} {timestamp : Number} {time : ℚ}
    (isNumber : payload.timestamp = some timestamp)
    (isFinite : numbers.value timestamp = .finite time) (secret : CodeUnits) :
    Carries node numbers (createHmacState node numbers payload secret) payload
      (computeSignature node numbers payload secret) := by
  have comesBack : ∀ sig, clone numbers (signed payload sig) = signed payload sig := by
    intro sig
    simp only [signed, clone, JsonText.cloneMembers, isNumber, numberValue, isFinite]
  refine ⟨signed payload (computeSignature node numbers payload secret), timestamp, ?_, rfl, rfl,
    ?_, isNumber, rfl⟩
  · rw [createHmacState, decode_encode lawful, JsonText.parse_stringify numbersLawful, comesBack]
  · have isValue : numberValue payload.timestamp = .num timestamp := by rw [isNumber, numberValue]
    rw [← isValue]
    rfl

omit lawful in
theorem canonical_injective {payload other : HmacStatePayload Number} {timestamp : Number}
    {time : ℚ} (isNumber : payload.timestamp = some timestamp)
    (isFinite : numbers.value timestamp = .finite time)
    (same : stringify numbers (canonical payload) =
      stringify numbers (canonical other)) : payload = other := by
  have sameClone : clone numbers (canonical payload) =
      clone numbers (canonical other) := by
    have read := congrArg (parse numbers) same
    rw [JsonText.parse_stringify numbersLawful, JsonText.parse_stringify numbersLawful] at read
    exact Option.some.inj read
  simp only [canonical, clone, JsonText.cloneMembers, isNumber, numberValue, isFinite,
    Value.obj.injEq, List.cons.injEq, Prod.mk.injEq, true_and, Value.str.injEq,
    and_true] at sameClone
  obtain ⟨sameNonce, sameTenant, sameTimestamp⟩ := sameClone
  have sameNumber : other.timestamp = some timestamp := by
    cases isOther : other.timestamp with
    | none =>
      simp only [isOther, clone, reduceCtorEq] at sameTimestamp
    | some otherTimestamp =>
      simp only [isOther, clone] at sameTimestamp
      split at sameTimestamp
      · rw [Value.num.inj sameTimestamp]
      · cases sameTimestamp
  cases payload
  cases other
  cases isNumber
  cases sameNumber
  cases sameNonce
  cases sameTenant
  rfl

end Lawful

/-- For every text, secret and time: where its JSON is not `null`, an answer comes; it is valid
with a payload exactly where the text says the same as the state that was created of this payload
and the payload is in time, given that no HMAC is guessed; and what is created is valid in time. -/
theorem verifyHmacState_exact (lawful : node.Lawful) (numbersLawful : numbers.Lawful)
    (secret : CodeUnits) (now : Nat) :
    (∀ state, parse numbers (decode node state) ≠ some .null →
      (verifyHmacState node numbers state secret now).isSome = true) ∧
    (∀ created state, Unguessed node numbers created state secret → ∀ payload,
      verifyHmacState node numbers state secret now = some (.valid payload) ↔
        payload ∈ created ∧ InTime numbers now payload ∧
          SaysTheSame node numbers state (createHmacState node numbers payload secret)) ∧
    ∀ payload, InTime numbers now payload →
      verifyHmacState node numbers (createHmacState node numbers payload secret) secret now =
        some (.valid payload) := by
  refine ⟨fun state => verifyHmacState_returns secret now, ?_, ?_⟩
  · intro created state unguessed payload
    rw [verifyHmacState_valid_iff]
    constructor
    · rintro ⟨⟨timestamp, time, isNumber, isFinite, inTime⟩, sig, carries, sameBytes⟩
      obtain ⟨other, isCreated, sameText⟩ := unguessed payload sig _ carries sameBytes
      have isOther := canonical_injective numbersLawful isNumber isFinite sameText
      subst isOther
      exact ⟨isCreated, ⟨timestamp, time, isNumber, isFinite, inTime⟩, payload, sig, _, carries,
        carries_created lawful numbersLawful isNumber isFinite secret, sameBytes⟩
    · rintro ⟨_, ⟨timestamp, time, isNumber, isFinite, inTime⟩, _, sig, _, carries,
        carriesCreated, sameBytes⟩
      obtain ⟨rfl, rfl⟩ := carries_unique carriesCreated
        (carries_created lawful numbersLawful isNumber isFinite secret)
      exact ⟨⟨timestamp, time, isNumber, isFinite, inTime⟩, sig, carries, sameBytes⟩
  · intro payload inTime
    rw [verifyHmacState_valid_iff]
    refine ⟨inTime, ?_⟩
    obtain ⟨timestamp, time, isNumber, isFinite, _⟩ := inTime
    exact ⟨_, carries_created lawful numbersLawful isNumber isFinite secret, rfl⟩

def acme : HmacStatePayload Nat := ⟨key "acme", key "nonce-1", some 1772366400000⟩

def unitTestSecret : CodeUnits := key "test-hmac-secret-key-for-unit-tests"

def acmeHmac (secret : CodeUnits) (text : List Char) : CodeUnits :=
  if secret = unitTestSecret ∧ text = stringify wholeNumbers (canonical acme) then
    key "94d80694e38e212c9f2ddabf4421040c63a2b918d6cf05f736ff15a1a0346cda"
  else List.replicate 64 48

def acmeNode : Node where
  fromBase64url := Base64url.decode
  toBase64url := Base64url.encode
  fromUtf8 text := (String.ofList text).toUTF8.data.toList
  toUtf8 bytes := ((String.fromUTF8? ⟨⟨bytes⟩⟩).getD "").toList
  fromHex units := (hexBytes (units.map fun codeUnit => Char.ofNat codeUnit.toNat)).map UInt8.ofNat
  hmac := acmeHmac

theorem acmeNode_lawful : acmeNode.Lawful := by
  refine ⟨Base64url.decode_encode, ?_⟩
  intro text
  have valid := (String.ofList text).isValidUTF8
  have comesBack : String.fromUTF8? (String.ofList text).toByteArray =
      some (String.ofList text) := by
    rw [String.fromUTF8?, dif_pos valid]
    rfl
  change ((String.fromUTF8? (String.ofList text).toByteArray).getD "").toList = text
  rw [comesBack]
  exact String.toList_ofList

def acmeState : CodeUnits := createHmacState acmeNode wholeNumbers acme unitTestSecret

theorem carries_acmeState : Carries acmeNode wholeNumbers acmeState acme
    (computeSignature acmeNode wholeNumbers acme unitTestSecret) :=
  carries_created acmeNode_lawful wholeNumbers_lawful rfl rfl unitTestSecret

theorem acmeState_unguessed :
    Unguessed acmeNode wholeNumbers [acme] acmeState unitTestSecret := by
  intro payload sig text carries sameBytes
  obtain ⟨_, isSig⟩ := carries_unique carries carries_acmeState
  by_cases isSigned : text = stringify wholeNumbers (canonical acme)
  · exact ⟨acme, List.mem_singleton_self _, isSigned⟩
  · have digest : computeSignature acmeNode wholeNumbers acme unitTestSecret =
        key "94d80694e38e212c9f2ddabf4421040c63a2b918d6cf05f736ff15a1a0346cda" := by
      have isHmac : acmeNode.hmac = acmeHmac := rfl
      rw [computeSignature, isHmac, acmeHmac, if_pos ⟨rfl, rfl⟩]
    have zeros : acmeNode.hmac unitTestSecret text = List.replicate 64 48 := by
      change acmeHmac unitTestSecret text = _
      rw [acmeHmac, if_neg fun both => isSigned both.2]
    rw [isSig, digest, zeros] at sameBytes
    exact absurd sameBytes (by decide)

theorem acme_inTime : InTime wholeNumbers 1772366400000 acme :=
  ⟨1772366400000, (1772366400000 : Nat), rfl, rfl, le_rfl,
    by exact_mod_cast Nat.le_add_right 1772366400000 STATE_TTL_MS⟩

theorem acmeState_verifies :
    Unguessed acmeNode wholeNumbers [acme] acmeState unitTestSecret ∧
      verifyHmacState acmeNode wholeNumbers acmeState unitTestSecret 1772366400000 =
        some (.valid acme) := by
  obtain ⟨_, valid, _⟩ :=
    verifyHmacState_exact acmeNode_lawful wholeNumbers_lawful unitTestSecret 1772366400000
  exact ⟨acmeState_unguessed, (valid [acme] acmeState acmeState_unguessed acme).mpr
    ⟨List.mem_singleton_self _, acme_inTime, acme, _, _, carries_acmeState, carries_acmeState, rfl⟩⟩

theorem null_unanswered :
    verifyHmacState acmeNode wholeNumbers (encode acmeNode "null".toList) unitTestSecret 0 = none ∧
      verifyHmacState acmeNode wholeNumbers acmeState unitTestSecret 0 ≠ some (.valid acme) ∧
        ∃ state, verifyHmacState acmeNode wholeNumbers state unitTestSecret 1772366400000 =
            some (.valid acme) ∧
          ∀ payload, createHmacState acmeNode wholeNumbers payload unitTestSecret ≠ state := by
  refine ⟨?_, ?_, ?_⟩
  · apply verifyHmacState_null
    rw [decode_encode acmeNode_lawful]
    exact JsonText.parse_stringify wholeNumbers_lawful .null
  · intro valid
    obtain ⟨⟨timestamp, time, isNumber, isFinite, past, _⟩, _⟩ :=
      verifyHmacState_valid_iff.mp valid
    cases isNumber
    cases isFinite
    have noTime : 1772366400000 ≤ 0 := by exact_mod_cast past
    omega
  · let text := decode acmeNode acmeState
    refine ⟨encode acmeNode (' ' :: text), ?_, ?_⟩
    · have spaced : parse wholeNumbers (' ' :: text) =
          parse wholeNumbers text := by
        have blank : JsonText.isSpace ' ' = true := rfl
        rw [parse, JsonText.parseFrom, if_pos blank, parse]
      have carries : Carries acmeNode wholeNumbers (encode acmeNode (' ' :: text)) acme
          (computeSignature acmeNode wholeNumbers acme unitTestSecret) := by
        rw [Carries, decode_encode acmeNode_lawful, spaced]
        exact carries_acmeState
      exact verifyHmacState_valid_iff.mpr ⟨acme_inTime, _, carries, rfl⟩
    · intro payload same
      have sameText := congrArg (decode acmeNode) same
      rw [createHmacState, decode_encode acmeNode_lawful, decode_encode acmeNode_lawful] at sameText
      have brace := congrArg List.head? sameText
      rw [signed, stringify, List.head?_cons, List.head?_cons] at brace
      exact absurd brace (by decide)

end ParakoId.SocialRelay.HmacStates
