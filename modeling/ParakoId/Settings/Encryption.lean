import ParakoId.Recovery.Record

/-!
The encryption of secrets at rest. A sealed secret is the text
`ENCRYPTED:v1:iv:authTag:ciphertext`; a value that starts like one is taken for one.
-/

namespace ParakoId.Settings

open Recovery (isDigit)
open Text (utf16Length)

def CURRENT_VERSION : Nat := 1

def KEY_LENGTH : Nat := 32

def IV_LENGTH : Nat := 12

def AUTH_TAG_LENGTH : Nat := 16

def ENCRYPTED_PREFIX : String := "ENCRYPTED:"

def MAX_SAFE_INTEGER : Nat := 9007199254740991

def isHexDigit (character : Char) : Bool :=
  isDigit character || decide ('a' ≤ character ∧ character ≤ 'f') ||
    decide ('A' ≤ character ∧ character ≤ 'F')

def HEX_PATTERN (text : String) : Bool := text != "" && text.toList.all isHexDigit

def assertHexComponent (name value : String) (expectedBytes : Option Nat) : Except String Unit :=
  if value = "" ∨ utf16Length value % 2 ≠ 0 ∨ HEX_PATTERN value = false then
    .error ("Invalid " ++ name ++ ". Expected non-empty, even-length hex")
  else match expectedBytes with
    | none => .ok ()
    | some bytes =>
      if utf16Length value ≠ bytes * 2 then
        .error ("Invalid " ++ name ++ " length. Expected " ++ toString bytes ++ " bytes, got " ++
          toString (utf16Length value / 2))
      else .ok ()

structure EncryptionResult where
  encrypted : String
  iv : String
  authTag : String
  version : Nat

/-- What the code uses of `Buffer` and of `node:crypto`: base64, and AES-256-GCM under a
key and an IV, with the IV, the ciphertext and the tag in hexadecimal. -/
structure Crypto where
  fromBase64 : String → List UInt8
  toBase64 : List UInt8 → String
  encipher : List UInt8 → String → String → String × String
  decipher : List UInt8 → String → String → String → Option String

def hexDigitValue (character : Char) : Nat :=
  if isDigit character then character.toNat - 48
  else if character.toNat ≤ 70 then character.toNat - 55
  else character.toNat - 87

def hexBytes : List Char → List UInt8
  | high :: low :: rest =>
    UInt8.ofNat (16 * hexDigitValue high + hexDigitValue low) :: hexBytes rest
  | _ => []

def utf8Bytes (text : String) : List UInt8 := text.toUTF8.toList

def keyBuffer (crypto : Crypto) (encryptionKey : String) : List UInt8 :=
  if utf16Length encryptionKey = 64 ∧ HEX_PATTERN encryptionKey = true then
    hexBytes encryptionKey.toList
  else if utf16Length encryptionKey = 44 then crypto.fromBase64 encryptionKey
  else utf8Bytes encryptionKey

-- what it throws becomes the cause of another error
def getEncryptionKey (crypto : Crypto) (encryptionKey : String) : Option (List UInt8) :=
  if encryptionKey = "" then none
  else if (keyBuffer crypto encryptionKey).length ≠ KEY_LENGTH then none
  else some (keyBuffer crypto encryptionKey)

/-- `iv` is what `randomBytes` draws. -/
def encrypt (crypto : Crypto) (iv plaintext encryptionKey : String) :
    Except String EncryptionResult :=
  if plaintext = "" then .error "Plaintext must be a non-empty string"
  else match getEncryptionKey crypto encryptionKey with
    | none => .error "Encryption failed"
    | some key =>
      let (encrypted, authTag) := crypto.encipher key iv plaintext
      .ok { encrypted, iv, authTag, version := CURRENT_VERSION }

def decrypt (crypto : Crypto) (encrypted iv authTag encryptionKey : String) :
    Except String String :=
  if encrypted = "" ∨ iv = "" ∨ authTag = "" then
    .error "Encrypted data, IV, and auth tag are required for decryption"
  else
    -- another version than the current one is only warned about
    match getEncryptionKey crypto encryptionKey with
    | none => .error "Decryption failed — possible data tampering or wrong encryption key"
    | some key => match crypto.decipher key iv authTag encrypted with
      | none => .error "Decryption failed — possible data tampering or wrong encryption key"
      | some decrypted => .ok decrypted

def isEncrypted (value : String) : Bool := ENCRYPTED_PREFIX.toList.isPrefixOf value.toList

def serializeEncrypted (result : EncryptionResult) : String :=
  ENCRYPTED_PREFIX ++ "v" ++ toString result.version ++ ":" ++ result.iv ++ ":" ++
    result.authTag ++ ":" ++ result.encrypted

/-- What `/^v([1-9]\d*)$/` captures, as a number. -/
def versionNumber (versionPart : List Char) : Option Nat :=
  match versionPart with
  | 'v' :: first :: rest =>
    if isDigit first ∧ first ≠ '0' ∧ rest.all isDigit then
      some ((first :: rest).foldl (fun number digit => 10 * number + (digit.toNat - 48)) 0)
    else none
  | _ => none

def parseEncrypted (serialized : String) : Except String EncryptionResult :=
  if isEncrypted serialized = false then .error "Value is not in encrypted format"
  else
    let parts := (serialized.toList.drop ENCRYPTED_PREFIX.length).splitOn ':'
    match parts with
    | [versionPart, iv, authTag, encrypted] =>
      match versionNumber versionPart with
      | none => .error "Invalid version format. Expected format: v1, v2, etc."
      | some version =>
        if MAX_SAFE_INTEGER < version then
          .error ("Invalid version number: " ++ String.ofList versionPart)
        else do
          assertHexComponent "IV" (String.ofList iv) (some IV_LENGTH)
          assertHexComponent "auth tag" (String.ofList authTag) (some AUTH_TAG_LENGTH)
          assertHexComponent "ciphertext" (String.ofList encrypted) none
          pure {
            version
            iv := String.ofList iv
            authTag := String.ofList authTag
            encrypted := String.ofList encrypted }
    | _ => .error ("Invalid encrypted format. Expected 4 parts (version:iv:authTag:ciphertext), got "
        ++ toString parts.length)

def encryptValue (crypto : Crypto) (iv plaintext encryptionKey : String) : Except String String :=
  (encrypt crypto iv plaintext encryptionKey).map serializeEncrypted

def decryptValue (crypto : Crypto) (serialized encryptionKey : String) : Except String String :=
  match parseEncrypted serialized with
  | .error problem => .error problem
  | .ok result => decrypt crypto result.encrypted result.iv result.authTag encryptionKey

def ensureEncrypted (crypto : Crypto) (iv value encryptionKey : String) : Except String String :=
  if isEncrypted value then match parseEncrypted value with
    | .error problem => .error problem
    | .ok _ => .ok value
  else encryptValue crypto iv value encryptionKey

def ensureDecrypted (crypto : Crypto) (value encryptionKey : String) : Except String String :=
  if isEncrypted value = false then .ok value else decryptValue crypto value encryptionKey

def IsHex (text : String) : Prop :=
  HEX_PATTERN text = true ∧ utf16Length text % 2 = 0

/-- An IV as `randomBytes(IV_LENGTH)` and `toString('hex')` give one. -/
def IsIv (iv : String) : Prop := IsHex iv ∧ utf16Length iv = 2 * IV_LENGTH

/-- AES-256-GCM as documented: hexadecimal output, a tag of sixteen bytes, and the
same key, IV and tag open what was sealed. -/
structure Crypto.Lawful (crypto : Crypto) : Prop where
  ciphertext : ∀ key iv plaintext, IsIv iv → key.length = KEY_LENGTH → plaintext ≠ "" →
    IsHex (crypto.encipher key iv plaintext).1
  authTag : ∀ key iv plaintext, IsIv iv → key.length = KEY_LENGTH → plaintext ≠ "" →
    IsHex (crypto.encipher key iv plaintext).2 ∧
      utf16Length (crypto.encipher key iv plaintext).2 = 2 * AUTH_TAG_LENGTH
  opens : ∀ key iv plaintext, IsIv iv → key.length = KEY_LENGTH → plaintext ≠ "" →
    crypto.decipher key iv (crypto.encipher key iv plaintext).2
      (crypto.encipher key iv plaintext).1 = some plaintext

theorem IsHex.nonempty {text : String} (hex : IsHex text) : text ≠ "" := by
  intro empty
  simp [IsHex, HEX_PATTERN, empty] at hex

theorem IsHex.noColon {text : String} (hex : IsHex text) : ':' ∉ text.toList := by
  intro member
  have digits := hex.1
  simp only [HEX_PATTERN, Bool.and_eq_true, List.all_eq_true] at digits
  have colon := digits.2 ':' member
  revert colon
  decide

variable {value encryptionKey : String} {crypto : Crypto}

theorem assertHexComponent_ok {name : String} {expectedBytes : Option Nat} (hex : IsHex value)
    (sized : ∀ bytes, expectedBytes = some bytes → utf16Length value = 2 * bytes) :
    assertHexComponent name value expectedBytes = .ok () := by
  have format : ¬ (value = "" ∨ utf16Length value % 2 ≠ 0 ∨ HEX_PATTERN value = false) := by
    rintro (empty | odd | other)
    · exact hex.nonempty empty
    · exact odd hex.2
    · simp [hex.1] at other
  cases expectedBytes with
  | none => simp only [assertHexComponent, if_neg format]
  | some bytes =>
    have size := sized bytes rfl
    have fits : ¬ utf16Length value ≠ bytes * 2 := by omega
    simp only [assertHexComponent, if_neg format, if_neg fits]

theorem digit_value {character : Char} (digit : isDigit character = true) :
    character.toNat - 48 < 10 ∧ Nat.digitChar (character.toNat - 48) = character := by
  simp only [isDigit, decide_eq_true_eq] at digit
  have atLeast : 48 ≤ character.toNat := UInt32.le_iff_toNat_le.mp digit.1
  have atMost : character.toNat ≤ 57 := UInt32.le_iff_toNat_le.mp digit.2
  have small : character.toNat - 48 < 10 := by omega
  have digitChars : ∀ value < 10, Nat.digitChar value = Char.ofNat (48 + value) := by decide
  refine ⟨small, ?_⟩
  rw [digitChars _ small, Nat.add_sub_cancel' atLeast, Char.ofNat_toNat]

theorem isDigit_digit {character : Char} (digit : character.isDigit = true) :
    isDigit character = true := by
  simp only [Char.isDigit, Bool.and_eq_true, decide_eq_true_eq] at digit
  simp only [isDigit, decide_eq_true_eq]
  exact digit

theorem toDigits_ofDigitChars {first : Char} {rest : List Char} (leading : first ≠ '0')
    (digits : ∀ digit ∈ first :: rest, isDigit digit = true) :
    Nat.toDigits 10 (Nat.ofDigitChars 10 (first :: rest) 0) = first :: rest := by
  induction rest using List.reverseRecOn with
  | nil =>
    obtain ⟨small, same⟩ := digit_value (digits first List.mem_cons_self)
    simp [Nat.ofDigitChars_cons, Nat.toDigits_of_lt_base small, same]
  | append_singleton rest last ih =>
    rw [← List.cons_append] at digits ⊢
    have shorter := ih fun digit member => digits digit (List.mem_append_left _ member)
    obtain ⟨small, same⟩ := digit_value (digits last (by simp))
    have positive : 0 < Nat.ofDigitChars 10 (first :: rest) 0 := by
      apply Nat.pos_of_ne_zero
      intro isZero
      rw [isZero] at shorter
      simp only [Nat.toDigits_zero, List.cons.injEq] at shorter
      exact leading shorter.1.symm
    rw [Nat.ofDigitChars_append, Nat.ofDigitChars_cons, Nat.ofDigitChars_nil,
      show last.toNat - '0'.toNat = last.toNat - 48 from rfl,
      ← Nat.toDigits_append_toDigits (by decide) positive small, shorter,
      Nat.toDigits_of_lt_base small, same]

theorem versionNumber_iff {versionPart : List Char} {version : Nat} :
    versionNumber versionPart = some version ↔
      0 < version ∧ versionPart = 'v' :: Nat.toDigits 10 version := by
  constructor
  · intro isVersion
    rw [versionNumber.eq_def] at isVersion
    split at isVersion
    next first rest =>
      split at isVersion
      next isNumber =>
        cases isVersion
        have digits : ∀ digit ∈ first :: rest, isDigit digit = true := by
          simpa using ⟨isNumber.1, by simpa using isNumber.2.2⟩
        have same : Nat.toDigits 10 ((first :: rest).foldl
            (fun number digit => 10 * number + (digit.toNat - 48)) 0) = first :: rest := by
          have isNumeral := toDigits_ofDigitChars isNumber.2.1 digits
          rw [Nat.ofDigitChars_eq_foldl] at isNumeral
          exact isNumeral
        refine ⟨Nat.pos_of_ne_zero fun isZero => ?_, congrArg ('v' :: ·) same.symm⟩
        rw [isZero, Nat.toDigits_zero] at same
        exact isNumber.2.1 (List.cons.inj same).1.symm
      next => cases isVersion
    next => cases isVersion
  · rintro ⟨positive, rfl⟩
    obtain ⟨first, rest, isDigits, leading⟩ := Text.toDigits_leading positive
    have digits : ∀ digit ∈ first :: rest, isDigit digit = true := by
      intro digit member
      rw [← isDigits] at member
      exact isDigit_digit (Nat.isDigit_of_mem_toDigits (by decide) (by decide) member)
    have number := @Nat.ofDigitChars_ten_toDigits version
    rw [isDigits, Nat.ofDigitChars_eq_foldl] at number
    rw [isDigits, versionNumber, if_pos]
    · exact congrArg some number
    · refine ⟨digits first List.mem_cons_self, leading, ?_⟩
      exact List.all_eq_true.mpr fun digit member => digits digit (List.mem_cons_of_mem _ member)

structure EncryptionResult.WellFormed (result : EncryptionResult) : Prop where
  version : 0 < result.version ∧ result.version ≤ MAX_SAFE_INTEGER
  iv : IsIv result.iv
  authTag : IsHex result.authTag ∧ utf16Length result.authTag = 2 * AUTH_TAG_LENGTH
  encrypted : IsHex result.encrypted

def EncryptionResult.parts (result : EncryptionResult) : List (List Char) :=
  ['v' :: Nat.toDigits 10 result.version, result.iv.toList, result.authTag.toList,
    result.encrypted.toList]

theorem isEncrypted_serializeEncrypted (result : EncryptionResult) :
    isEncrypted (serializeEncrypted result) = true := by
  simp [isEncrypted, serializeEncrypted]

theorem serializeEncrypted_parts (result : EncryptionResult) :
    (serializeEncrypted result).toList =
      ENCRYPTED_PREFIX.toList ++ [':'].intercalate result.parts := by
  simp [serializeEncrypted, EncryptionResult.parts, List.intercalate]

theorem isHex_of_assert {name : String} {expectedBytes : Option Nat}
    (isAsserted : assertHexComponent name value expectedBytes = .ok ()) :
    IsHex value ∧ ∀ bytes, expectedBytes = some bytes → utf16Length value = 2 * bytes := by
  by_cases malformed : value = "" ∨ utf16Length value % 2 ≠ 0 ∨ HEX_PATTERN value = false
  · simp only [assertHexComponent, if_pos malformed] at isAsserted
    cases isAsserted
  · have format := malformed
    simp only [not_or, not_not, Bool.not_eq_false] at format
    refine ⟨⟨format.2.2, format.2.1⟩, ?_⟩
    rintro bytes rfl
    simp only [assertHexComponent, if_neg malformed] at isAsserted
    split at isAsserted
    next => cases isAsserted
    next sized => omega

theorem checked_ok {Result : Type} {check : Except String Unit} {rest : Except String Result}
    {result : Result} (accepted : (do check; rest) = .ok result) :
    check = .ok () ∧ rest = .ok result := by
  cases check with
  | error problem => cases accepted
  | ok _ => exact ⟨rfl, accepted⟩

theorem parseEncrypted_ok {serialized : String} {result : EncryptionResult}
    (accepted : parseEncrypted serialized = .ok result) :
    result.WellFormed ∧ serializeEncrypted result = serialized := by
  simp only [parseEncrypted] at accepted
  split at accepted
  next => cases accepted
  next marked =>
    rw [Bool.not_eq_false, isEncrypted, List.isPrefixOf_iff_prefix] at marked
    obtain ⟨envelope, isMarked⟩ := marked
    rw [← isMarked, ← String.length_toList, List.drop_left] at accepted
    split at accepted
    next versionPart iv authTag encrypted isParts =>
      split at accepted
      next => cases accepted
      next version isVersion =>
        obtain ⟨positive, rfl⟩ := versionNumber_iff.mp isVersion
        split at accepted
        next => cases accepted
        next safe =>
          obtain ⟨ivChecked, accepted⟩ := checked_ok accepted
          obtain ⟨tagChecked, accepted⟩ := checked_ok accepted
          obtain ⟨textChecked, accepted⟩ := checked_ok accepted
          obtain ⟨ivHex, ivLength⟩ := isHex_of_assert ivChecked
          obtain ⟨tagHex, tagLength⟩ := isHex_of_assert tagChecked
          cases accepted
          refine ⟨⟨⟨positive, Nat.not_lt.mp safe⟩, ⟨ivHex, ivLength _ rfl⟩, ⟨tagHex, tagLength _ rfl⟩,
            (isHex_of_assert textChecked).1⟩, ?_⟩
          rw [← String.toList_inj, serializeEncrypted_parts, ← isMarked]
          have joined : [':'].intercalate (envelope.splitOn ':') = envelope :=
            List.intercalate_splitOn ':'
          rw [isParts] at joined
          simp [EncryptionResult.parts, ← joined]
    next => cases accepted

theorem splitOn_serialized {result : EncryptionResult} (wellFormed : result.WellFormed) :
    ((serializeEncrypted result).toList.drop ENCRYPTED_PREFIX.length).splitOn ':' =
      result.parts := by
  rw [serializeEncrypted_parts, ← String.length_toList, List.drop_left, List.splitOn_intercalate]
  · intro part member
    simp only [EncryptionResult.parts, List.mem_cons, List.not_mem_nil, or_false] at member
    rcases member with rfl | rfl | rfl | rfl
    · rw [List.mem_cons, not_or]
      refine ⟨by decide, fun member => ?_⟩
      have digit := Nat.isDigit_of_mem_toDigits (by decide) (by decide) member
      exact absurd digit (by decide)
    · exact wellFormed.iv.1.noColon
    · exact wellFormed.authTag.1.noColon
    · exact wellFormed.encrypted.noColon
  · simp [EncryptionResult.parts]

theorem parseEncrypted_serialized {result : EncryptionResult} (wellFormed : result.WellFormed) :
    parseEncrypted (serializeEncrypted result) = .ok result := by
  have isVersion := versionNumber_iff.mpr ⟨wellFormed.version.1, rfl⟩
  have safe : ¬MAX_SAFE_INTEGER < result.version := Nat.not_lt.mpr wellFormed.version.2
  have ivChecked : assertHexComponent "IV" result.iv (some IV_LENGTH) = .ok () :=
    assertHexComponent_ok wellFormed.iv.1 (by simpa using wellFormed.iv.2)
  have tagChecked : assertHexComponent "auth tag" result.authTag (some AUTH_TAG_LENGTH) = .ok () :=
    assertHexComponent_ok wellFormed.authTag.1 (by simpa using wellFormed.authTag.2)
  have textChecked : assertHexComponent "ciphertext" result.encrypted none = .ok () :=
    assertHexComponent_ok wellFormed.encrypted (by simp)
  simp only [parseEncrypted, isEncrypted_serializeEncrypted, splitOn_serialized wellFormed,
    EncryptionResult.parts, isVersion, if_neg safe, String.ofList_toList, ivChecked, tagChecked,
    textChecked]
  rfl

theorem length_of_getEncryptionKey {key : List UInt8}
    (keyRead : getEncryptionKey crypto encryptionKey = some key) : key.length = KEY_LENGTH := by
  simp only [getEncryptionKey] at keyRead
  split at keyRead
  next => simp at keyRead
  next =>
    split at keyRead
    next => simp at keyRead
    next sized =>
      simp only [Option.some.injEq] at keyRead
      rw [← keyRead]
      exact not_not.mp sized

theorem encryptValue_configured {key : List UInt8}
    (keyRead : getEncryptionKey crypto encryptionKey = some key) (iv : String)
    {plaintext : String} (nonempty : plaintext ≠ "") :
    ∃ sealed, encryptValue crypto iv plaintext encryptionKey = .ok sealed := by
  rw [encryptValue, encrypt, if_neg nonempty, keyRead]
  exact ⟨_, rfl⟩

theorem ensureDecrypted_encryptValue (lawful : crypto.Lawful) {iv plaintext sealed : String}
    (random : IsIv iv) (encrypted : encryptValue crypto iv plaintext encryptionKey = .ok sealed) :
    isEncrypted sealed = true ∧ ensureDecrypted crypto sealed encryptionKey = .ok plaintext := by
  simp only [encryptValue, encrypt] at encrypted
  split at encrypted
  next => simp [Except.map] at encrypted
  next nonempty =>
    cases keyRead : getEncryptionKey crypto encryptionKey with
    | none => simp [keyRead, Except.map] at encrypted
    | some key =>
      have keyLength := length_of_getEncryptionKey keyRead
      have ciphertext := lawful.ciphertext key iv plaintext random keyLength nonempty
      obtain ⟨authTag, tagLength⟩ := lawful.authTag key iv plaintext random keyLength nonempty
      have opens := lawful.opens key iv plaintext random keyLength nonempty
      have current : 0 < CURRENT_VERSION ∧ CURRENT_VERSION ≤ MAX_SAFE_INTEGER := by decide
      simp only [keyRead, Except.map, Except.ok.injEq] at encrypted
      have present : ¬ ((crypto.encipher key iv plaintext).1 = "" ∨ iv = "" ∨
          (crypto.encipher key iv plaintext).2 = "") := by
        simp [ciphertext.nonempty, random.1.nonempty, authTag.nonempty]
      have marked : isEncrypted sealed = true := by
        rw [← encrypted]
        exact isEncrypted_serializeEncrypted _
      have parsed : parseEncrypted sealed = .ok {
          encrypted := (crypto.encipher key iv plaintext).1
          iv
          authTag := (crypto.encipher key iv plaintext).2
          version := CURRENT_VERSION } := by
        rw [← encrypted]
        exact parseEncrypted_serialized
          ⟨current, random, ⟨authTag, tagLength⟩, ciphertext⟩
      refine ⟨marked, ?_⟩
      simp only [ensureDecrypted, marked, decryptValue, parsed, decrypt, if_neg present, keyRead,
        opens]
      simp

theorem ensureDecrypted_plain (plain : isEncrypted value = false) :
    ensureDecrypted crypto value encryptionKey = .ok value := by
  simp [ensureDecrypted, plain]

theorem ensureEncrypted_marked {iv stored : String}
    (encrypted : ensureEncrypted crypto iv value encryptionKey = .ok stored)
    (marked : isEncrypted value = true) : stored = value := by
  simp only [ensureEncrypted, marked, if_true] at encrypted
  split at encrypted
  · simp at encrypted
  · simpa using encrypted.symm

theorem ensureEncrypted_plain (lawful : crypto.Lawful) {iv stored : String} (random : IsIv iv)
    (encrypted : ensureEncrypted crypto iv value encryptionKey = .ok stored)
    (plain : isEncrypted value = false) :
    isEncrypted stored = true ∧ ensureDecrypted crypto stored encryptionKey = .ok value := by
  simp only [ensureEncrypted, plain, Bool.false_eq_true, if_false] at encrypted
  exact ensureDecrypted_encryptValue lawful random encrypted

/-! A transparent cipher with these laws: six digits for each character, and the last
digit of the tag names the key. -/

def hexDigit (value : Nat) : Char :=
  if value < 10 then Char.ofNat (48 + value) else Char.ofNat (87 + value)

def characterDigits (character : Char) : List Char :=
  [5, 4, 3, 2, 1, 0].map fun place => hexDigit (character.toNat / 16 ^ place % 16)

def charactersOf : List Char → List Char
  | a :: b :: c :: d :: e :: f :: rest =>
    Char.ofNat ([a, b, c, d, e, f].foldl (fun value digit => 16 * value + hexDigitValue digit) 0) ::
      charactersOf rest
  | _ => []

def keyTag (key : List UInt8) : String :=
  String.ofList (List.replicate 31 '0' ++ [hexDigit ((key.headD 0).toNat % 16)])

def transparentCrypto : Crypto where
  fromBase64 _ := []
  toBase64 _ := ""
  encipher key _ plaintext := (String.ofList (plaintext.toList.flatMap characterDigits), keyTag key)
  decipher key _ authTag encrypted :=
    if authTag = keyTag key then some (String.ofList (charactersOf encrypted.toList)) else none

theorem hexDigit_spec {value : Nat} (small : value < 16) :
    isHexDigit (hexDigit value) = true ∧ hexDigitValue (hexDigit value) = value ∧
      (hexDigit value).toNat ≤ 0xFFFF := by
  revert value
  decide

theorem toNat_of_hexDigit {character : Char} (digit : isHexDigit character = true) :
    character.toNat ≤ 102 := by
  simp only [isHexDigit, isDigit, Bool.or_eq_true, decide_eq_true_eq] at digit
  rcases digit with (⟨_, upper⟩ | ⟨_, upper⟩) | ⟨_, upper⟩
  · exact Nat.le_trans (UInt32.le_iff_toNat_le.mp upper) (by decide)
  · exact Nat.le_trans (UInt32.le_iff_toNat_le.mp upper) (by decide)
  · exact Nat.le_trans (UInt32.le_iff_toNat_le.mp upper) (by decide)

theorem utf16Length_hex {text : String} (digits : text.toList.all isHexDigit = true) :
    utf16Length text = text.toList.length := by
  have single : ∀ character ∈ text.toList, (if character.toNat ≤ 0xFFFF then 1 else 2) = 1 := by
    intro character member
    have small := toNat_of_hexDigit (List.all_eq_true.mp digits character member)
    rw [if_pos (by omega)]
  rw [utf16Length, List.map_congr_left single]
  simp

theorem isHex_of_digits {digits : List Char} (nonempty : digits ≠ [])
    (even : digits.length % 2 = 0) (hex : ∀ digit ∈ digits, isHexDigit digit = true) :
    IsHex (String.ofList digits) := by
  have all : (String.ofList digits).toList.all isHexDigit = true := by
    simpa [List.all_eq_true] using hex
  refine ⟨?_, ?_⟩
  · simpa [HEX_PATTERN, nonempty] using hex
  · rw [utf16Length_hex all]
    simpa using even

theorem characterDigits_hex (character : Char) :
    ∀ digit ∈ characterDigits character, isHexDigit digit = true := by
  intro digit member
  obtain ⟨place, _, rfl⟩ := List.mem_map.mp member
  exact (hexDigit_spec (Nat.mod_lt _ (by decide))).1

theorem charactersOf_characterDigits (characters : List Char) :
    charactersOf (characters.flatMap characterDigits) = characters := by
  induction characters with
  | nil => rfl
  | cons character rest ih =>
    have bound : character.toNat < 0x110000 := by
      have valid := character.valid
      simp only [UInt32.isValidChar, Nat.isValidChar] at valid
      have same : character.toNat = character.val.toNat := rfl
      omega
    have value : (characterDigits character).foldl
        (fun value digit => 16 * value + hexDigitValue digit) 0 = character.toNat := by
      have digit : ∀ place, hexDigitValue (hexDigit (character.toNat / 16 ^ place % 16)) =
          character.toNat / 16 ^ place % 16 := fun place =>
        (hexDigit_spec (Nat.mod_lt _ (by decide))).2.1
      simp only [characterDigits, List.map_cons, List.map_nil, List.foldl_cons, List.foldl_nil,
        digit]
      omega
    rw [List.flatMap_cons]
    simp only [characterDigits, List.map_cons, List.map_nil, List.cons_append, List.nil_append,
      charactersOf, ih] at value ⊢
    rw [value, Char.ofNat_toNat]

theorem transparentCrypto_lawful : transparentCrypto.Lawful where
  ciphertext key iv plaintext _ _ nonempty := by
    apply isHex_of_digits
    · cases characters : plaintext.toList with
      | nil => exact (nonempty (by simpa using characters)).elim
      | cons first rest => simp [characterDigits]
    · have sixes : ∀ characters : List Char,
          (characters.flatMap characterDigits).length = 6 * characters.length := by
        intro characters
        induction characters with
        | nil => rfl
        | cons first rest ih => simp [ih, characterDigits]; omega
      rw [sixes]
      omega
    · intro digit member
      obtain ⟨character, _, isDigit⟩ := List.mem_flatMap.mp member
      exact characterDigits_hex character digit isDigit
  authTag key iv plaintext _ _ _ := by
    have hex : ∀ digit ∈ List.replicate 31 '0' ++ [hexDigit ((key.headD 0).toNat % 16)],
        isHexDigit digit = true := by
      intro digit member
      rcases List.mem_append.mp member with isZero | isLast
      · rw [List.eq_of_mem_replicate isZero]
        decide
      · rw [List.mem_singleton.mp isLast]
        exact (hexDigit_spec (Nat.mod_lt _ (by decide))).1
    refine ⟨isHex_of_digits (by simp) (by simp) hex, ?_⟩
    have length : utf16Length (keyTag key) = (keyTag key).toList.length := by
      apply utf16Length_hex
      rw [keyTag, String.toList_ofList]
      exact List.all_eq_true.mpr hex
    rw [keyTag, String.toList_ofList] at length
    exact length.trans (by simp [AUTH_TAG_LENGTH])
  opens key iv plaintext _ _ _ := by
    simp [transparentCrypto, charactersOf_characterDigits]

def zeroKey : String := String.ofList (List.replicate 64 '0')

def zeroIv : String := String.ofList (List.replicate 24 '0')

theorem zeroIv_isIv : IsIv zeroIv := by
  refine ⟨isHex_of_digits (by simp) (by simp) ?_, by decide⟩
  intro digit member
  rw [List.eq_of_mem_replicate member]
  decide

theorem parseEncrypted_serialized_iff (result : EncryptionResult) :
    parseEncrypted (serializeEncrypted result) = .ok result ↔ result.WellFormed :=
  ⟨fun accepted => (parseEncrypted_ok accepted).1, parseEncrypted_serialized⟩

def storedAndRead (crypto : Crypto) (iv value encryptionKey : String) : Except String String :=
  (ensureEncrypted crypto iv value encryptionKey).bind fun stored =>
    ensureDecrypted crypto stored encryptionKey

/-- For every envelope, text, key and cipher: well-formed parts come back from their envelope,
every accepted text is the envelope of its parts, and a plaintext without the marker comes back
under a usable key. One with the marker is taken for an envelope, and kept if it is one. -/
theorem envelopes_round_trip {crypto : Crypto} (lawful : crypto.Lawful) {iv : String}
    (random : IsIv iv) (encryptionKey : String) :
    (∀ result, parseEncrypted (serializeEncrypted result) = .ok result ↔ result.WellFormed) ∧
      (∀ serialized result, parseEncrypted serialized = .ok result →
        serializeEncrypted result = serialized) ∧
      ∀ plaintext, plaintext ≠ "" →
        (isEncrypted plaintext = false →
          storedAndRead crypto iv plaintext encryptionKey =
            if (getEncryptionKey crypto encryptionKey).isSome then .ok plaintext
            else .error "Encryption failed") ∧
          (isEncrypted plaintext = true →
            ensureEncrypted crypto iv plaintext encryptionKey =
              (parseEncrypted plaintext).map fun _ => plaintext) := by
  refine ⟨parseEncrypted_serialized_iff, fun _ _ accepted => (parseEncrypted_ok accepted).2, ?_⟩
  intro plaintext nonempty
  constructor
  · intro plain
    rw [storedAndRead]
    cases isKey : getEncryptionKey crypto encryptionKey with
    | none =>
      simp [ensureEncrypted, plain, encryptValue, encrypt, nonempty, isKey, Except.map,
        Except.bind]
    | some key =>
      cases isStored : ensureEncrypted crypto iv plaintext encryptionKey with
      | error problem =>
        simp [ensureEncrypted, plain, encryptValue, encrypt, nonempty, isKey,
          Except.map] at isStored
      | ok stored => exact (ensureEncrypted_plain lawful random isStored plain).2
  · intro marked
    rw [ensureEncrypted, if_pos marked]
    cases parseEncrypted plaintext <;> rfl

theorem envelope_comesBack :
    parseEncrypted (serializeEncrypted ⟨"00", zeroIv, keyTag [], 7⟩) =
        .ok ⟨"00", zeroIv, keyTag [], 7⟩ ∧
      storedAndRead transparentCrypto zeroIv "a:b" zeroKey = .ok "a:b" := by
  obtain ⟨parts, _, plain⟩ := envelopes_round_trip transparentCrypto_lawful zeroIv_isIv zeroKey
  have hexTag : IsHex (keyTag []) := ⟨by decide, by decide⟩
  refine ⟨(parts _).mpr ⟨by decide, zeroIv_isIv, ⟨hexTag, by decide⟩, by decide, by decide⟩, ?_⟩
  rw [(plain "a:b" (by decide)).1 (by decide), if_pos (by decide)]

theorem marker_refused :
    storedAndRead transparentCrypto zeroIv "ENCRYPTED:" zeroKey ≠ .ok "ENCRYPTED:" := by
  decide

end ParakoId.Settings
