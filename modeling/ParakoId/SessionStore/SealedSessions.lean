import ParakoId.Library.JsonText
import ParakoId.Settings.Encryption

/-! Sessions whose sensitive fields are encrypted in front of a store. -/

namespace ParakoId.SealedSessions

open Function (update update_of_ne update_self)
open JsonText (Numbers Value)
open Settings (Crypto IsIv encryptValue decryptValue getEncryptionKey isEncrypted)

def SENSITIVE_SESSION_FIELDS : List String := [
  "authenticatedUsers",
  "csrfToken",
  "authTime",
  "ipAddress",
  "userAgent",
  "deviceId",
  "_metadata"]

def key (name : String) : CodeUnits := CodeUnits.ofText name.toList

def encryptedKey (field : String) : CodeUnits := key ("_enc_" ++ field)

def encryptedFlag : CodeUnits := key "_encrypted"

abbrev SessionData (Number : Type) := CodeUnits → Option (Value Number)

inductive Failure
  | thrown (message : String)
  | unparsable

variable {Number : Type}

def truthy (numbers : Numbers Number) : Value Number → Bool
  | .null => false
  | .bool value => value
  | .num value => decide (numbers.value value ≠ 0)
  | .str value => decide (value ≠ [])
  | .arr _ => true
  | .obj _ => true

section
variable (crypto : Crypto) (encryptionKey : String) (numbers : Numbers Number)

/-- `iv` is what `randomBytes` draws for each field. -/
def encryptField (iv : String → String) (encrypted : SessionData Number) (field : String) :
    Except String (SessionData Number) :=
  match encrypted (key field) with
  | none => .ok encrypted
  | some value =>
    let jsonValue := String.ofList (JsonText.stringify numbers value)
    (encryptValue crypto (iv field) jsonValue encryptionKey).map fun envelope =>
      let sealed := update encrypted (encryptedKey field)
        (some (.str (CodeUnits.ofText envelope.toList)))
      update sealed (key field) none

def encryptSession (iv : String → String) (sessionData : SessionData Number) :
    Except String (SessionData Number) :=
  (SENSITIVE_SESSION_FIELDS.foldlM (encryptField crypto encryptionKey numbers iv) sessionData).map
    fun encrypted => update encrypted encryptedFlag (some (.bool true))

def openField (field : String) : Value Number → Except Failure (Value Number)
  | .str encryptedValue =>
    let envelope := String.ofList encryptedValue.text
    if isEncrypted envelope = false then
      .error (.thrown ("Invalid encrypted session field: " ++ field))
    else match decryptValue crypto envelope encryptionKey with
      | .error problem => .error (.thrown problem)
      | .ok jsonValue => match JsonText.parse numbers jsonValue.toList with
        | none => .error .unparsable
        | some value => .ok value
  | _ => .error (.thrown ("Invalid encrypted session field: " ++ field))

def decryptField (decrypted : SessionData Number) (field : String) :
    Except Failure (SessionData Number) :=
  match decrypted (key field) with
  | some _ => .error (.thrown ("Sensitive field is not encrypted: " ++ field))
  | none => match decrypted (encryptedKey field) with
    | none => .ok decrypted
    | some encryptedValue =>
      (openField crypto encryptionKey numbers field encryptedValue).map fun value =>
        let opened := update decrypted (key field) (some value)
        update opened (encryptedKey field) none

def isFlagged (sessionData : SessionData Number) : Bool :=
  (sessionData encryptedFlag).any (truthy numbers)

def decryptSession (sessionData : SessionData Number) : Except Failure (SessionData Number) :=
  if isFlagged numbers sessionData = false then .ok sessionData
  else SENSITIVE_SESSION_FIELDS.foldlM (decryptField crypto encryptionKey numbers)
    (update sessionData encryptedFlag none)

end

structure Separate (fields : List String) : Prop where
  distinct : fields.Pairwise fun first second =>
    key first ≠ key second ∧ encryptedKey first ≠ encryptedKey second
  ciphertexts : ∀ first ∈ fields, ∀ second ∈ fields, key first ≠ encryptedKey second

theorem Separate.tail {field : String} {others : List String}
    (separate : Separate (field :: others)) : Separate others where
  distinct := (List.pairwise_cons.mp separate.distinct).2
  ciphertexts first isFirst second isSecond := separate.ciphertexts first
    (List.mem_cons_of_mem _ isFirst) second (List.mem_cons_of_mem _ isSecond)

theorem sensitive_separate : Separate SENSITIVE_SESSION_FIELDS where
  distinct := by decide
  ciphertexts := by decide

def Apart (fields : List String) (name : CodeUnits) : Prop :=
  ∀ field ∈ fields, name ≠ key field ∧ name ≠ encryptedKey field

theorem flag_apart : Apart SENSITIVE_SESSION_FIELDS encryptedFlag := by
  unfold Apart
  decide

theorem Separate.head_apart {field : String} {others : List String}
    (separate : Separate (field :: others)) :
    Apart others (key field) ∧ Apart others (encryptedKey field) := by
  constructor
  · intro other isOther
    exact ⟨((List.pairwise_cons.mp separate.distinct).1 other isOther).1,
      separate.ciphertexts field List.mem_cons_self other (List.mem_cons_of_mem _ isOther)⟩
  · intro other isOther
    exact ⟨(separate.ciphertexts other (List.mem_cons_of_mem _ isOther) field
      List.mem_cons_self).symm, ((List.pairwise_cons.mp separate.distinct).1 other isOther).2⟩

theorem Apart.tail {field : String} {others : List String} {name : CodeUnits}
    (apart : Apart (field :: others) name) : Apart others name :=
  fun other isOther => apart other (List.mem_cons_of_mem _ isOther)

section
variable {crypto : Crypto} {encryptionKey : String} {numbers : Numbers Number}

section
variable {iv : String → String} {sessionData encrypted : SessionData Number}

theorem encryptField_apart {field : String} {name : CodeUnits}
    (encrypts : encryptField crypto encryptionKey numbers iv sessionData field = .ok encrypted)
    (notField : name ≠ key field) (notCiphertext : name ≠ encryptedKey field) :
    encrypted name = sessionData name := by
  rw [encryptField] at encrypts
  split at encrypts
  · cases encrypts
    rfl
  · rename_i value isValue
    cases sealedText : encryptValue crypto (iv field)
        (String.ofList (JsonText.stringify numbers value)) encryptionKey with
    | error problem => simp [sealedText, Except.map] at encrypts
    | ok envelope =>
      simp only [sealedText, Except.map, Except.ok.injEq] at encrypts
      rw [← encrypts, update_of_ne notField, update_of_ne notCiphertext]

def Holds (crypto : Crypto) (encryptionKey : String) (numbers : Numbers Number)
    (iv : String → String) (sessionData encrypted : SessionData Number) (field : String) : Prop :=
  encrypted (key field) = none ∧ match sessionData (key field) with
    | none => encrypted (encryptedKey field) = sessionData (encryptedKey field)
    | some value => ∃ envelope, encryptValue crypto (iv field)
        (String.ofList (JsonText.stringify numbers value)) encryptionKey = .ok envelope ∧
        encrypted (encryptedKey field) = some (.str (CodeUnits.ofText envelope.toList))

theorem encryptField_holds {field : String} (differ : key field ≠ encryptedKey field)
    (encrypts : encryptField crypto encryptionKey numbers iv sessionData field = .ok encrypted) :
    Holds crypto encryptionKey numbers iv sessionData encrypted field := by
  rw [encryptField] at encrypts
  cases present : sessionData (key field) with
  | none =>
    simp only [present, Except.ok.injEq] at encrypts
    rw [← encrypts, Holds, present]
    exact ⟨rfl, rfl⟩
  | some value =>
    simp only [present] at encrypts
    cases sealedText : encryptValue crypto (iv field)
        (String.ofList (JsonText.stringify numbers value)) encryptionKey with
    | error problem => simp [sealedText, Except.map] at encrypts
    | ok envelope =>
      simp only [sealedText, Except.map, Except.ok.injEq] at encrypts
      rw [← encrypts, Holds, present]
      refine ⟨update_self _ _ _, envelope, sealedText, ?_⟩
      rw [update_of_ne differ.symm, update_self]

theorem encryptFields_holds {fields : List String} (separate : Separate fields)
    (encrypts : fields.foldlM (encryptField crypto encryptionKey numbers iv) sessionData =
      .ok encrypted) :
    (∀ field ∈ fields, Holds crypto encryptionKey numbers iv sessionData encrypted field) ∧
      ∀ name, Apart fields name → encrypted name = sessionData name := by
  induction fields generalizing sessionData with
  | nil =>
    cases encrypts
    exact ⟨by simp, fun _ _ => rfl⟩
  | cons field others ih =>
    rw [List.foldlM_cons] at encrypts
    cases first : encryptField crypto encryptionKey numbers iv sessionData field with
    | error problem =>
      rw [first] at encrypts
      cases encrypts
    | ok between =>
      rw [first] at encrypts
      obtain ⟨held, kept⟩ := ih separate.tail encrypts
      have differ := separate.ciphertexts field List.mem_cons_self field List.mem_cons_self
      have atField := encryptField_holds differ first
      obtain ⟨fieldApart, ciphertextApart⟩ := separate.head_apart
      refine ⟨?_, ?_⟩
      · intro other isField
        rcases List.mem_cons.mp isField with rfl | isOther
        · rw [Holds, kept _ fieldApart, kept _ ciphertextApart]
          exact atField
        · have otherHeld := held other isOther
          have otherKey := encryptField_apart first (fieldApart other isOther).1.symm
            (ciphertextApart other isOther).1.symm
          have otherCiphertext := encryptField_apart first (fieldApart other isOther).2.symm
            (ciphertextApart other isOther).2.symm
          rwa [Holds, otherKey, otherCiphertext] at otherHeld
      · intro name apart
        obtain ⟨notField, notCiphertext⟩ := apart field List.mem_cons_self
        rw [kept name apart.tail, encryptField_apart first notField notCiphertext]

theorem encryptFields_configured {secret : List UInt8}
    (configured : getEncryptionKey crypto encryptionKey = some secret) (lawful : numbers.Lawful)
    (fields : List String) (iv : String → String) (sessionData : SessionData Number) :
    ∃ encrypted, fields.foldlM (encryptField crypto encryptionKey numbers iv) sessionData =
      .ok encrypted := by
  induction fields generalizing sessionData with
  | nil => exact ⟨sessionData, rfl⟩
  | cons field others ih =>
    have first : ∃ between, encryptField crypto encryptionKey numbers iv sessionData field =
        .ok between := by
      rw [encryptField]
      cases sessionData (key field) with
      | none => exact ⟨sessionData, rfl⟩
      | some value =>
        have nonempty : String.ofList (JsonText.stringify numbers value) ≠ "" := by
          simp [JsonText.stringify_nonempty lawful]
        obtain ⟨envelope, isEnvelope⟩ :=
          Settings.encryptValue_configured configured (iv field) nonempty
        exact ⟨_, congrArg (Except.map _) isEnvelope⟩
    obtain ⟨between, isBetween⟩ := first
    obtain ⟨encrypted, encrypts⟩ := ih between
    exact ⟨encrypted, by rw [List.foldlM_cons, isBetween]; exact encrypts⟩

end

section
variable {sessionData decrypted : SessionData Number}

def OpensField (crypto : Crypto) (encryptionKey : String) (numbers : Numbers Number)
    (sessionData decrypted : SessionData Number) (field : String) : Prop :=
  sessionData (key field) = none ∧ decrypted (encryptedKey field) = none ∧
    match sessionData (encryptedKey field) with
    | none => decrypted (key field) = none
    | some encryptedValue => ∃ value,
        openField crypto encryptionKey numbers field encryptedValue = .ok value ∧
          decrypted (key field) = some value

def Opens (crypto : Crypto) (encryptionKey : String) (numbers : Numbers Number)
    (fields : List String) (sessionData decrypted : SessionData Number) : Prop :=
  (∀ field ∈ fields, OpensField crypto encryptionKey numbers sessionData decrypted field) ∧
    ∀ name, Apart fields name → decrypted name = sessionData name

theorem decryptField_ok {field : String} (differ : key field ≠ encryptedKey field) :
    decryptField crypto encryptionKey numbers sessionData field = .ok decrypted ↔
      OpensField crypto encryptionKey numbers sessionData decrypted field ∧
        ∀ name, name ≠ key field → name ≠ encryptedKey field →
          decrypted name = sessionData name := by
  rw [decryptField, OpensField]
  cases plain : sessionData (key field) with
  | some value => simp
  | none =>
    cases present : sessionData (encryptedKey field) with
    | none =>
      simp only [Except.ok.injEq, true_and]
      constructor
      · rintro rfl
        exact ⟨⟨present, plain⟩, fun _ _ _ => rfl⟩
      · rintro ⟨⟨noCiphertext, noField⟩, others⟩
        funext name
        by_cases isField : name = key field
        · rw [isField, plain, noField]
        · by_cases isCiphertext : name = encryptedKey field
          · rw [isCiphertext, present, noCiphertext]
          · exact (others name isField isCiphertext).symm
    | some encryptedValue =>
      cases opened : openField crypto encryptionKey numbers field encryptedValue with
      | error problem => simp [Except.map, opened]
      | ok value =>
        simp only [Except.map, Except.ok.injEq, true_and, opened]
        constructor
        · rintro rfl
          refine ⟨⟨update_self _ _ _, value, rfl, ?_⟩, ?_⟩
          · rw [update_of_ne differ, update_self]
          · intro name notField notCiphertext
            rw [update_of_ne notCiphertext, update_of_ne notField]
        · rintro ⟨⟨noCiphertext, _, rfl, isValue⟩, others⟩
          funext name
          by_cases isCiphertext : name = encryptedKey field
          · rw [isCiphertext, update_self, noCiphertext]
          · rw [update_of_ne isCiphertext]
            by_cases isField : name = key field
            · rw [isField, update_self, isValue]
            · rw [update_of_ne isField]
              exact (others name isField isCiphertext).symm

theorem opens_cons {field : String} {others : List String}
    (separate : Separate (field :: others)) :
    Opens crypto encryptionKey numbers (field :: others) sessionData decrypted ↔
      ∃ between, decryptField crypto encryptionKey numbers sessionData field = .ok between ∧
        Opens crypto encryptionKey numbers others between decrypted := by
  have differ := separate.ciphertexts field List.mem_cons_self field List.mem_cons_self
  obtain ⟨fieldApart, ciphertextApart⟩ := separate.head_apart
  have same {first second : SessionData Number} (other : String) (isOther : other ∈ others)
      (kept : ∀ name, name ≠ key field → name ≠ encryptedKey field → first name = second name) :
      first (key other) = second (key other) ∧
        first (encryptedKey other) = second (encryptedKey other) :=
    ⟨kept _ (fieldApart other isOther).1.symm (ciphertextApart other isOther).1.symm,
      kept _ (fieldApart other isOther).2.symm (ciphertextApart other isOther).2.symm⟩
  constructor
  · rintro ⟨opensAll, kept⟩
    let between : SessionData Number := fun name =>
      if name = key field ∨ name = encryptedKey field then decrypted name else sessionData name
    have ofOthers : ∀ name, name ≠ key field → name ≠ encryptedKey field →
        between name = sessionData name := fun name notField notCiphertext =>
      if_neg (not_or.mpr ⟨notField, notCiphertext⟩)
    have opensHead := opensAll field List.mem_cons_self
    have atField : between (key field) = decrypted (key field) := if_pos (.inl rfl)
    have atCiphertext : between (encryptedKey field) = decrypted (encryptedKey field) :=
      if_pos (.inr rfl)
    refine ⟨between, (decryptField_ok differ).mpr ⟨?_, ofOthers⟩, ?_, ?_⟩
    · rwa [OpensField, atField, atCiphertext]
    · intro other isOther
      obtain ⟨sameField, sameCiphertext⟩ := same other isOther ofOthers
      rw [OpensField, sameField, sameCiphertext]
      exact opensAll other (List.mem_cons_of_mem _ isOther)
    · intro name apart
      by_cases isHead : name = key field ∨ name = encryptedKey field
      · exact (if_pos isHead).symm
      · obtain ⟨notField, notCiphertext⟩ := not_or.mp isHead
        rw [ofOthers name notField notCiphertext]
        apply kept
        intro other isField
        rcases List.mem_cons.mp isField with rfl | isOther
        · exact ⟨notField, notCiphertext⟩
        · exact apart other isOther
  · rintro ⟨between, first, opensOthers, kept⟩
    obtain ⟨opensHead, ofOthers⟩ := (decryptField_ok differ).mp first
    refine ⟨?_, ?_⟩
    · intro other isField
      rcases List.mem_cons.mp isField with rfl | isOther
      · rw [OpensField, kept _ fieldApart, kept _ ciphertextApart]
        exact opensHead
      · obtain ⟨sameField, sameCiphertext⟩ := same other isOther ofOthers
        have opensOther := opensOthers other isOther
        rwa [OpensField, sameField, sameCiphertext] at opensOther
    · intro name apart
      obtain ⟨notField, notCiphertext⟩ := apart field List.mem_cons_self
      rw [kept name apart.tail, ofOthers name notField notCiphertext]

theorem decryptFields_ok {fields : List String} (separate : Separate fields) :
    fields.foldlM (decryptField crypto encryptionKey numbers) sessionData = .ok decrypted ↔
      Opens crypto encryptionKey numbers fields sessionData decrypted := by
  induction fields generalizing sessionData with
  | nil =>
    constructor
    · intro unchanged
      cases unchanged
      exact ⟨by simp, fun _ _ => rfl⟩
    · rintro ⟨_, kept⟩
      have same : decrypted = sessionData := funext fun name => kept name (by simp [Apart])
      rw [same]
      rfl
  | cons field others ih =>
    rw [opens_cons separate, List.foldlM_cons]
    cases first : decryptField crypto encryptionKey numbers sessionData field with
    | error problem => simp [Bind.bind, Except.bind]
    | ok between =>
      simp only [Bind.bind, Except.bind, Except.ok.injEq, exists_eq_left']
      exact ih separate.tail

end

theorem openField_envelope (sealing : crypto.Lawful) (lawful : numbers.Lawful) {iv : String}
    (random : IsIv iv) {value : Value Number} {envelope : String}
    (isEnvelope : encryptValue crypto iv (String.ofList (JsonText.stringify numbers value))
      encryptionKey = .ok envelope) (field : String) :
    isEncrypted envelope = true ∧
      openField crypto encryptionKey numbers field (.str (CodeUnits.ofText envelope.toList)) =
        .ok (JsonText.clone numbers value) := by
  obtain ⟨marked, opens⟩ := Settings.ensureDecrypted_encryptValue sealing random isEnvelope
  rw [Settings.ensureDecrypted, if_neg (by simp [marked])] at opens
  refine ⟨marked, ?_⟩
  simp only [openField, CodeUnits.text_ofText, String.ofList_toList, marked, Bool.true_eq_false,
    if_false, opens, String.toList_ofList, JsonText.parse_stringify lawful]

def IsJson (numbers : Numbers Number) (sessionData : SessionData Number) : Prop :=
  ∀ name value, sessionData name = some value → JsonText.clone numbers value = value

def Unreserved (sessionData : SessionData Number) : Prop :=
  sessionData encryptedFlag = none ∧
    ∀ field ∈ SENSITIVE_SESSION_FIELDS, sessionData (encryptedKey field) = none

def IsEnvelope (crypto : Crypto) (encryptionKey : String) (numbers : Numbers Number)
    (value : Value Number) : Prop :=
  ∃ encryptedValue jsonValue content, value = .str encryptedValue ∧
    decryptValue crypto (String.ofList encryptedValue.text) encryptionKey = .ok jsonValue ∧
    JsonText.parse numbers jsonValue.toList = some content

theorem isEnvelope_of_openField {field : String} {encryptedValue value : Value Number}
    (opened : openField crypto encryptionKey numbers field encryptedValue = .ok value) :
    IsEnvelope crypto encryptionKey numbers encryptedValue := by
  cases encryptedValue with
  | str encryptedValue =>
    simp only [openField] at opened
    split at opened
    · cases opened
    · split at opened
      · cases opened
      · rename_i jsonValue decrypts
        split at opened
        · cases opened
        · rename_i content parses
          exact ⟨encryptedValue, jsonValue, content, rfl, decrypts, parses⟩
  | _ => cases opened

section
variable {iv : String → String} {sessionData : SessionData Number}

theorem opens_encrypted (sealing : crypto.Lawful) (lawful : numbers.Lawful)
    (random : ∀ field, IsIv (iv field)) (isJson : IsJson numbers sessionData)
    {encrypted : SessionData Number}
    (held : ∀ field ∈ SENSITIVE_SESSION_FIELDS,
      Holds crypto encryptionKey numbers iv sessionData encrypted field)
    (kept : ∀ name, Apart SENSITIVE_SESSION_FIELDS name → encrypted name = sessionData name) :
    Opens crypto encryptionKey numbers SENSITIVE_SESSION_FIELDS
      (update encrypted encryptedFlag none) sessionData ↔ Unreserved sessionData := by
  have unflagged : ∀ field ∈ SENSITIVE_SESSION_FIELDS,
      update encrypted encryptedFlag none (key field) = encrypted (key field) ∧
        update encrypted encryptedFlag none (encryptedKey field) =
          encrypted (encryptedKey field) := by
    intro field isField
    obtain ⟨notField, notCiphertext⟩ := flag_apart field isField
    exact ⟨update_of_ne notField.symm _ _, update_of_ne notCiphertext.symm _ _⟩
  constructor
  · rintro ⟨opensAll, others⟩
    refine ⟨?_, fun field isField => (opensAll field isField).2.1⟩
    rw [others _ flag_apart, update_self]
  · rintro ⟨noFlag, noCiphertexts⟩
    refine ⟨?_, ?_⟩
    · intro field isField
      obtain ⟨sameField, sameCiphertext⟩ := unflagged field isField
      obtain ⟨gone, ciphertext⟩ := held field isField
      refine ⟨sameField.trans gone, noCiphertexts field isField, ?_⟩
      rw [sameCiphertext]
      cases present : sessionData (key field) with
      | none =>
        rw [present] at ciphertext
        rw [ciphertext, noCiphertexts field isField]
      | some value =>
        rw [present] at ciphertext
        obtain ⟨envelope, isEnvelope, isHeld⟩ := ciphertext
        rw [isHeld]
        refine ⟨value, ?_, rfl⟩
        rw [(openField_envelope sealing lawful (random field) isEnvelope field).2,
          isJson _ value present]
    · intro name apart
      by_cases isFlag : name = encryptedFlag
      · rw [isFlag, noFlag, update_self]
      · rw [update_of_ne isFlag, kept name apart]

theorem decryptSession_flagged {encrypted decrypted : SessionData Number}
    (flagged : isFlagged numbers encrypted = true) :
    decryptSession crypto encryptionKey numbers encrypted = .ok decrypted ↔
      Opens crypto encryptionKey numbers SENSITIVE_SESSION_FIELDS
        (update encrypted encryptedFlag none) decrypted := by
  rw [decryptSession, if_neg (by simp [flagged]), decryptFields_ok sensitive_separate]

theorem decryptSession_rejects {mixed : SessionData Number}
    (flagged : isFlagged numbers mixed = true)
    (isMixed : ∃ field ∈ SENSITIVE_SESSION_FIELDS, mixed (key field) ≠ none ∨
      ∃ value, mixed (encryptedKey field) = some value ∧
        ¬IsEnvelope crypto encryptionKey numbers value) :
    ∃ failure, decryptSession crypto encryptionKey numbers mixed = .error failure := by
  cases outcome : decryptSession crypto encryptionKey numbers mixed with
  | error failure => exact ⟨failure, rfl⟩
  | ok decrypted =>
    exfalso
    obtain ⟨opensAll, _⟩ := (decryptSession_flagged flagged).mp outcome
    obtain ⟨field, isField, wrong⟩ := isMixed
    obtain ⟨notField, notCiphertext⟩ := flag_apart field isField
    obtain ⟨gone, _, ciphertext⟩ := opensAll field isField
    rw [update_of_ne notField.symm] at gone
    rw [update_of_ne notCiphertext.symm] at ciphertext
    rcases wrong with plain | ⟨value, present, noEnvelope⟩
    · exact plain gone
    · rw [present] at ciphertext
      obtain ⟨content, opened, _⟩ := ciphertext
      exact noEnvelope (isEnvelope_of_openField opened)

/-- For every session of JSON values, under a configured key: encrypting succeeds, decrypting
gives the session back if and only if it uses none of the reserved keys, and no sensitive field
is left in plain form. Every flagged record with a plain or broken field is rejected. -/
theorem encryptSession_exact (sealing : crypto.Lawful) (lawful : numbers.Lawful)
    {secret : List UInt8} (configured : getEncryptionKey crypto encryptionKey = some secret)
    (random : ∀ field, IsIv (iv field)) (isJson : IsJson numbers sessionData) :
    (∃ encrypted, encryptSession crypto encryptionKey numbers iv sessionData = .ok encrypted ∧
      (decryptSession crypto encryptionKey numbers encrypted = .ok sessionData ↔
        Unreserved sessionData) ∧
      ∀ field ∈ SENSITIVE_SESSION_FIELDS, encrypted (key field) = none ∧
        ∀ value, sessionData (key field) = some value → ∃ envelope,
          encrypted (encryptedKey field) = some (.str (CodeUnits.ofText envelope.toList)) ∧
            isEncrypted envelope = true) ∧
    ∀ mixed : SessionData Number, isFlagged numbers mixed = true →
      (∃ field ∈ SENSITIVE_SESSION_FIELDS, mixed (key field) ≠ none ∨
        ∃ value, mixed (encryptedKey field) = some value ∧
          ¬IsEnvelope crypto encryptionKey numbers value) →
      ∃ failure, decryptSession crypto encryptionKey numbers mixed = .error failure := by
  refine ⟨?_, fun _ => decryptSession_rejects⟩
  obtain ⟨encrypted, encrypts⟩ :=
    encryptFields_configured configured lawful SENSITIVE_SESSION_FIELDS iv sessionData
  obtain ⟨held, kept⟩ := encryptFields_holds sensitive_separate encrypts
  have flagged : isFlagged numbers
      (update encrypted encryptedFlag (some (.bool true))) = true := by
    rw [isFlagged, update_self]
    rfl
  refine ⟨update encrypted encryptedFlag (some (.bool true)),
    congrArg (Except.map _) encrypts, ?_, ?_⟩
  · rw [decryptSession_flagged flagged, Function.update_idem]
    exact opens_encrypted sealing lawful random isJson held kept
  · intro field isField
    obtain ⟨notField, notCiphertext⟩ := flag_apart field isField
    obtain ⟨gone, ciphertext⟩ := held field isField
    rw [update_of_ne notField.symm, update_of_ne notCiphertext.symm]
    refine ⟨gone, ?_⟩
    intro value present
    rw [present] at ciphertext
    obtain ⟨envelope, isEnvelope, isHeld⟩ := ciphertext
    exact ⟨envelope, isHeld,
      (openField_envelope sealing lawful (random field) isEnvelope field).1⟩

end

end

def tokenSession : SessionData Nat :=
  update (fun _ => none) (key "csrfToken") (some (.str (key "6f1c")))

theorem tokenSession_roundTrip :
    ∃ encrypted, encryptSession Settings.transparentCrypto Settings.zeroKey
        JsonText.wholeNumbers (fun _ => Settings.zeroIv) tokenSession = .ok encrypted ∧
      decryptSession Settings.transparentCrypto Settings.zeroKey JsonText.wholeNumbers encrypted =
        .ok tokenSession := by
  have configured : getEncryptionKey Settings.transparentCrypto Settings.zeroKey =
      some (List.replicate 32 0) := by decide +kernel
  have onlyToken : ∀ name, name ≠ key "csrfToken" → tokenSession name = none :=
    fun name other => update_of_ne other _ _
  have isJson : IsJson JsonText.wholeNumbers tokenSession := by
    intro name value present
    by_cases isToken : name = key "csrfToken"
    · rw [isToken, tokenSession, update_self, Option.some.injEq] at present
      rw [← present]
      rfl
    · rw [onlyToken name isToken] at present
      cases present
  have unreserved : Unreserved tokenSession := by
    refine ⟨onlyToken _ (by decide), ?_⟩
    intro field isField
    have csrfToken : "csrfToken" ∈ SENSITIVE_SESSION_FIELDS := by decide
    exact onlyToken _ (sensitive_separate.ciphertexts _ csrfToken field isField).symm
  obtain ⟨⟨encrypted, encrypts, roundTrip, _⟩, _⟩ :=
    encryptSession_exact Settings.transparentCrypto_lawful JsonText.wholeNumbers_lawful configured
      (fun _ => Settings.zeroIv_isIv) isJson
  exact ⟨encrypted, encrypts, roundTrip.mpr unreserved⟩

def flagSession : SessionData Nat :=
  update (fun _ => none) encryptedFlag (some (.str (key "yes")))

theorem flagSession_lost :
    ∃ encrypted decrypted, encryptSession Settings.transparentCrypto Settings.zeroKey
        JsonText.wholeNumbers (fun _ => Settings.zeroIv) flagSession = .ok encrypted ∧
      decryptSession Settings.transparentCrypto Settings.zeroKey JsonText.wholeNumbers encrypted =
        .ok decrypted ∧
      flagSession encryptedFlag = some (.str (key "yes")) ∧ decrypted encryptedFlag = none :=
  ⟨_, _, rfl, rfl, rfl, rfl⟩

end ParakoId.SealedSessions
