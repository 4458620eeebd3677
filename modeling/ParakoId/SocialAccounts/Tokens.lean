import ParakoId.Settings.Encryption

/-! The tokens of a social integration, and their refresh. -/

namespace ParakoId.SocialAccounts.Tokens

open Settings (Crypto IsIv ensureDecrypted ensureEncrypted getEncryptionKey isEncrypted)

inductive TextField
  | access_token
  | refresh_token
  | id_token
  | token_type
  | scope

def TextField.isSecret : TextField → Bool
  | .access_token | .refresh_token | .id_token => true
  | .token_type | .scope => false

inductive JsDate
  | invalid
  | time (milliseconds : Int)
  deriving DecidableEq

structure TokenData where
  text : TextField → Option String
  expires_at : Option JsDate

structure TokenUpdate where
  text : TextField → Option (Option String)
  expires_at : Option (Option JsDate)

section
variable (crypto : Crypto) (encryptionKey : String)

/-- `iv` is what `randomBytes` draws for each token. -/
def encryptToken (iv : TextField → String) (tokens : TokenUpdate) (field : TextField) :
    Except String (Option String) :=
  match (tokens.text field).join with
  | none => .ok none
  | some token =>
    if token = "" then .ok (some token)
    else (ensureEncrypted crypto (iv field) token encryptionKey).map some

def encryptTokens (iv : TextField → String) (tokens : TokenUpdate) :
    Except String TokenUpdate := do
  let access_token ← encryptToken crypto encryptionKey iv tokens .access_token
  let refresh_token ← encryptToken crypto encryptionKey iv tokens .refresh_token
  let id_token ← encryptToken crypto encryptionKey iv tokens .id_token
  pure { tokens with
    text := fun
      | .access_token => some access_token
      | .refresh_token => some refresh_token
      | .id_token => some id_token
      | field => tokens.text field }

end

def spread (stored : TokenData) (update : TokenUpdate) : TokenData where
  text field := (update.text field).getD (stored.text field)
  expires_at := update.expires_at.getD stored.expires_at

inductive Backend
  | prisma
  | mongoose
  deriving DecidableEq

/-- Prisma's column holds JSON, whose dates are read back with years of four digits only. -/
def Backend.keepsDate : Backend → JsDate → Bool
  | _, .invalid => false
  | .prisma, .time milliseconds =>
    decide (-62167219200000 ≤ milliseconds ∧ milliseconds < 253402300800000)
  | .mongoose, .time _ => true

def Backend.decodes (backend : Backend) (row : TokenData) : Bool :=
  (backend == .mongoose || (row.text .access_token).isSome) &&
    row.expires_at.all backend.keepsDate

inductive Failure
  | undecodable
  | uncastable
  | unencryptable (problem : String)

def findById (backend : Backend) (row : TokenData) : Except Failure TokenData :=
  if backend.decodes row then .ok row else .error .undecodable

def update (backend : Backend) (row tokens : TokenData) : TokenData × Except Failure TokenData :=
  if backend = .mongoose ∧ tokens.expires_at = some .invalid then (row, .error .uncastable)
  else (tokens, findById backend tokens)

def updateTokens (backend : Backend) (crypto : Crypto) (encryptionKey : String)
    (iv : TextField → String) (row : TokenData) (tokens : TokenUpdate) :
    TokenData × Except Failure TokenData :=
  match findById backend row with
  | .error failure => (row, .error failure)
  | .ok integration => match encryptTokens crypto encryptionKey iv tokens with
    | .error problem => (row, .error (.unencryptable problem))
    | .ok encryptedTokens => update backend row (spread integration encryptedTokens)

section
variable (crypto : Crypto) (encryptionKey : String)

def decrypted (tokens : TokenData) (field : TextField) : Option (Except String String) :=
  (tokens.text field).map fun token =>
    if field.isSecret then ensureDecrypted crypto token encryptionKey else .ok token

def Refreshes (backend : Backend) (row : TokenData) (tokens : TokenUpdate)
    (refreshed : TokenData × Except Failure TokenData) : Prop :=
  ∃ found, refreshed.2 = .ok found ∧ findById backend refreshed.1 = .ok found ∧
    (∀ field, decrypted crypto encryptionKey found field = match (tokens.text field).join with
      | some token => some (.ok token)
      | none => decrypted crypto encryptionKey row field) ∧
    found.expires_at = tokens.expires_at.join.or row.expires_at

/-- The update supplies every secret that is stored, in plain, says of no other stored value that
it is undefined, and expires at a time that the store can keep. -/
structure Complete (backend : Backend) (row : TokenData) (tokens : TokenUpdate) : Prop where
  secrets : ∀ field, field.isSecret = true → (tokens.text field).join = none →
    row.text field = none
  others : ∀ field, field.isSecret = false → tokens.text field = some none →
    row.text field = none
  expiry : tokens.expires_at = some none → row.expires_at = none
  plain : ∀ field token, field.isSecret = true → (tokens.text field).join = some token →
    ensureDecrypted crypto token encryptionKey = .ok token
  date : ∀ date, tokens.expires_at.join = some date → backend.keepsDate date = true

end

section
variable {backend : Backend} {crypto : Crypto} {encryptionKey : String} {secret : List UInt8}
  {iv : TextField → String} {row : TokenData} {tokens : TokenUpdate}

theorem encryptToken_opens (lawful : crypto.Lawful) (random : ∀ field, IsIv (iv field))
    {field : TextField} {token : String} (supplied : (tokens.text field).join = some token)
    {stored : Option String}
    (encrypts : encryptToken crypto encryptionKey iv tokens field = .ok stored) :
    ∃ envelope, stored = some envelope ∧
      (ensureDecrypted crypto envelope encryptionKey = .ok token ↔
        ensureDecrypted crypto token encryptionKey = .ok token) := by
  rw [encryptToken, supplied] at encrypts
  dsimp only at encrypts
  split at encrypts
  · cases encrypts
    exact ⟨token, rfl, Iff.rfl⟩
  · cases ensured : ensureEncrypted crypto (iv field) token encryptionKey with
    | error problem => simp [ensured, Except.map] at encrypts
    | ok envelope =>
      simp only [ensured, Except.map, Except.ok.injEq] at encrypts
      refine ⟨envelope, encrypts.symm, ?_⟩
      by_cases marked : isEncrypted token = true
      · rw [Settings.ensureEncrypted_marked ensured marked]
      · have plain : isEncrypted token = false := by simpa using marked
        have opens := (Settings.ensureEncrypted_plain lawful (random field) ensured plain).2
        simp [opens, Settings.ensureDecrypted_plain plain]

theorem encryptToken_plain (configured : getEncryptionKey crypto encryptionKey = some secret)
    (iv : TextField → String) {field : TextField}
    (plain : ∀ token, (tokens.text field).join = some token →
      ensureDecrypted crypto token encryptionKey = .ok token) :
    ∃ stored, encryptToken crypto encryptionKey iv tokens field = .ok stored := by
  rw [encryptToken]
  cases supplied : (tokens.text field).join with
  | none => exact ⟨none, rfl⟩
  | some token =>
    dsimp only
    split
    · exact ⟨some token, rfl⟩
    · rename_i nonempty
      by_cases marked : isEncrypted token = true
      · have opens := plain token supplied
        simp only [ensureDecrypted, marked, Bool.true_eq_false, if_false,
          Settings.decryptValue] at opens
        split at opens
        · cases opens
        · rename_i result parsed
          exact ⟨some token, by simp [ensureEncrypted, marked, parsed, Except.map]⟩
      · obtain ⟨envelope, isEnvelope⟩ :=
          Settings.encryptValue_configured configured (iv field) nonempty
        rw [ensureEncrypted, if_neg marked, isEnvelope]
        exact ⟨some envelope, rfl⟩

theorem encryptToken_absent {field : TextField} (absent : (tokens.text field).join = none) :
    encryptToken crypto encryptionKey iv tokens field = .ok none := by
  rw [encryptToken, absent]

structure Encrypts (crypto : Crypto) (encryptionKey : String) (iv : TextField → String)
    (tokens encryptedTokens : TokenUpdate) : Prop where
  secrets : ∀ field : TextField, field.isSecret = true → ∃ stored,
    encryptToken crypto encryptionKey iv tokens field = .ok stored ∧
      encryptedTokens.text field = some stored
  others : ∀ field : TextField, field.isSecret = false →
    encryptedTokens.text field = tokens.text field
  expiry : encryptedTokens.expires_at = tokens.expires_at

variable {encryptedTokens : TokenUpdate}

theorem encryptTokens_encrypts
    (isEncrypted : encryptTokens crypto encryptionKey iv tokens = .ok encryptedTokens) :
    Encrypts crypto encryptionKey iv tokens encryptedTokens := by
  rw [encryptTokens] at isEncrypted
  cases access : encryptToken crypto encryptionKey iv tokens .access_token with
  | error problem =>
    rw [access] at isEncrypted
    cases isEncrypted
  | ok access_token =>
    cases refresh : encryptToken crypto encryptionKey iv tokens .refresh_token with
    | error problem =>
      rw [access, refresh] at isEncrypted
      cases isEncrypted
    | ok refresh_token =>
      cases ident : encryptToken crypto encryptionKey iv tokens .id_token with
      | error problem =>
        rw [access, refresh, ident] at isEncrypted
        cases isEncrypted
      | ok id_token =>
        rw [access, refresh, ident] at isEncrypted
        cases isEncrypted
        refine ⟨?_, ?_, rfl⟩
        · intro field isSecret
          cases field with
          | access_token => exact ⟨access_token, access, rfl⟩
          | refresh_token => exact ⟨refresh_token, refresh, rfl⟩
          | id_token => exact ⟨id_token, ident, rfl⟩
          | token_type | scope => cases isSecret
        · intro field notSecret
          cases field with
          | token_type | scope => rfl
          | _ => cases notSecret

theorem encryptTokens_plain (configured : getEncryptionKey crypto encryptionKey = some secret)
    (iv : TextField → String)
    (plain : ∀ (field : TextField) (token : String), field.isSecret = true →
      (tokens.text field).join = some token →
        ensureDecrypted crypto token encryptionKey = .ok token) :
    ∃ encryptedTokens,
      encryptTokens crypto encryptionKey iv tokens = .ok encryptedTokens := by
  obtain ⟨access_token, access⟩ := encryptToken_plain configured iv
    fun token => plain .access_token token rfl
  obtain ⟨refresh_token, refresh⟩ := encryptToken_plain configured iv
    fun token => plain .refresh_token token rfl
  obtain ⟨id_token, ident⟩ := encryptToken_plain configured iv
    fun token => plain .id_token token rfl
  rw [encryptTokens, access, refresh, ident]
  exact ⟨_, rfl⟩

theorem updateTokens_ok {found stored : TokenData} (readable : backend.decodes row = true) :
    updateTokens backend crypto encryptionKey iv row tokens = (stored, .ok found) ↔
      ∃ encryptedTokens, encryptTokens crypto encryptionKey iv tokens = .ok encryptedTokens ∧
        found = spread row encryptedTokens ∧ stored = found ∧ backend.decodes found = true := by
  rw [updateTokens, findById, if_pos readable]
  dsimp only
  cases isEncrypted : encryptTokens crypto encryptionKey iv tokens with
  | error problem => simp
  | ok encryptedTokens =>
    simp only [update, Except.ok.injEq, exists_eq_left']
    split
    · rename_i uncastable
      constructor
      · intro failed
        cases failed
      · rintro ⟨rfl, _, decodes⟩
        simp [Backend.decodes, uncastable.2, Backend.keepsDate] at decodes
    · rw [findById]
      split
      · rename_i decodes
        simp only [Prod.mk.injEq, Except.ok.injEq]
        constructor
        · rintro ⟨rfl, rfl⟩
          exact ⟨rfl, rfl, decodes⟩
        · rintro ⟨rfl, rfl, _⟩
          exact ⟨rfl, rfl⟩
      · rename_i undecodable
        constructor
        · intro failed
          cases failed
        · rintro ⟨rfl, _, decodes⟩
          exact absurd decodes undecodable

theorem decrypted_spread_iff (lawful : crypto.Lawful) (random : ∀ field, IsIv (iv field))
    (encrypts : Encrypts crypto encryptionKey iv tokens encryptedTokens) (field : TextField) :
    (decrypted crypto encryptionKey (spread row encryptedTokens) field =
        match (tokens.text field).join with
        | some token => some (.ok token)
        | none => decrypted crypto encryptionKey row field) ↔
      (field.isSecret = true → (tokens.text field).join = none → row.text field = none) ∧
      (field.isSecret = false → tokens.text field = some none → row.text field = none) ∧
      ∀ token, field.isSecret = true → (tokens.text field).join = some token →
        ensureDecrypted crypto token encryptionKey = .ok token := by
  cases isSecret : field.isSecret with
  | true =>
    obtain ⟨stored, encryptsToken, isStored⟩ := encrypts.secrets field isSecret
    cases supplied : (tokens.text field).join with
    | none =>
      rw [encryptToken_absent supplied] at encryptsToken
      cases encryptsToken
      simp [decrypted, spread, isStored, eq_comm (a := none)]
    | some token =>
      obtain ⟨envelope, rfl, opens⟩ :=
        encryptToken_opens lawful random supplied encryptsToken
      simp [decrypted, spread, isStored, isSecret, opens]
  | false =>
    have unchanged := encrypts.others field isSecret
    match given : tokens.text field with
    | none => simp [decrypted, spread, unchanged, given, isSecret]
    | some none =>
      simp [decrypted, spread, unchanged, given, isSecret, eq_comm (a := none)]
    | some (some token) => simp [decrypted, spread, unchanged, given, isSecret]

theorem expiry_spread_iff (sameExpiry : encryptedTokens.expires_at = tokens.expires_at) :
    (spread row encryptedTokens).expires_at = tokens.expires_at.join.or row.expires_at ↔
      (tokens.expires_at = some none → row.expires_at = none) := by
  rw [spread, sameExpiry]
  match tokens.expires_at with
  | none => simp
  | some none => simp [eq_comm]
  | some (some date) => simp

theorem Complete.decodes (complete : Complete crypto encryptionKey backend row tokens)
    (readable : backend.decodes row = true) (lawful : crypto.Lawful)
    (random : ∀ field, IsIv (iv field))
    (encrypts : Encrypts crypto encryptionKey iv tokens encryptedTokens) :
    backend.decodes (spread row encryptedTokens) = true := by
  simp only [Backend.decodes, Bool.and_eq_true, Bool.or_eq_true, beq_iff_eq] at readable ⊢
  obtain ⟨present, date⟩ := readable
  constructor
  · refine present.imp_right fun isPresent => ?_
    obtain ⟨stored, encryptsToken, isStored⟩ := encrypts.secrets .access_token rfl
    cases supplied : (tokens.text .access_token).join with
    | none =>
      rw [complete.secrets .access_token rfl supplied] at isPresent
      cases isPresent
    | some token =>
      obtain ⟨envelope, rfl, _⟩ := encryptToken_opens lawful random supplied encryptsToken
      simp [spread, isStored]
  · have kept := complete.date
    rw [spread, encrypts.expiry]
    match given : tokens.expires_at with
    | none => simpa using date
    | some none => rfl
    | some (some supplied) => simpa [given] using kept supplied (by simp [given])

/-- For both back ends, every readable row and every update, under a configured key: the refresh
leaves what it supplies and keeps what it omits if and only if it is complete. -/
theorem updateTokens_refreshes_iff (lawful : crypto.Lawful)
    (configured : getEncryptionKey crypto encryptionKey = some secret)
    (random : ∀ field, IsIv (iv field)) (readable : backend.decodes row = true) :
    Refreshes crypto encryptionKey backend row tokens
        (updateTokens backend crypto encryptionKey iv row tokens) ↔
      Complete crypto encryptionKey backend row tokens := by
  constructor
  · rintro ⟨found, answered, _, texts, expiry⟩
    obtain ⟨encryptedTokens, isEncrypted, rfl, _, decodes⟩ :=
      (updateTokens_ok readable).mp (Prod.ext rfl answered)
    have encrypts := encryptTokens_encrypts isEncrypted
    have each := fun field => (decrypted_spread_iff lawful random encrypts field).mp (texts field)
    refine ⟨fun field => (each field).1, fun field => (each field).2.1,
      (expiry_spread_iff encrypts.expiry).mp expiry, fun field => (each field).2.2, ?_⟩
    intro date supplied
    simp only [Backend.decodes, Bool.and_eq_true, spread, encrypts.expiry] at decodes
    have given : tokens.expires_at = some (some date) := Option.join_eq_some_iff.mp supplied
    simpa [given] using decodes.2
  · intro complete
    obtain ⟨encryptedTokens, isEncrypted⟩ := encryptTokens_plain configured iv complete.plain
    have encrypts := encryptTokens_encrypts isEncrypted
    have decodes := complete.decodes readable lawful random encrypts
    have answered :=
      (updateTokens_ok readable).mpr ⟨encryptedTokens, isEncrypted, rfl, rfl, decodes⟩
    refine ⟨spread row encryptedTokens, ?_, ?_, ?_, ?_⟩
    · rw [answered]
    · rw [answered, findById, if_pos decodes]
    · intro field
      exact (decrypted_spread_iff lawful random encrypts field).mpr
        ⟨complete.secrets field, complete.others field, complete.plain field⟩
    · exact (expiry_spread_iff encrypts.expiry).mpr complete.expiry

end

def storedTokens : TokenData where
  text
    | .access_token => some "access-1"
    | .refresh_token => some "refresh-1"
    | _ => none
  expires_at := none

def accessOnly : TokenUpdate where
  text
    | .access_token => some (some "access-2")
    | _ => none
  expires_at := none

def accessAndRefresh : TokenUpdate where
  text
    | .access_token => some (some "access-2")
    | .refresh_token => some (some "refresh-2")
    | _ => none
  expires_at := none

theorem accessAndRefresh_refreshes :
    Refreshes Settings.transparentCrypto Settings.zeroKey .prisma storedTokens accessAndRefresh
      (updateTokens .prisma Settings.transparentCrypto Settings.zeroKey (fun _ => Settings.zeroIv)
        storedTokens accessAndRefresh) := by
  have configured : getEncryptionKey Settings.transparentCrypto Settings.zeroKey =
      some (List.replicate 32 0) := by decide +kernel
  refine (updateTokens_refreshes_iff Settings.transparentCrypto_lawful configured
    (fun _ => Settings.zeroIv_isIv) rfl).mpr ⟨?_, ?_, by simp [accessAndRefresh], ?_, ?_⟩
  · intro field isSecret absent
    cases field <;> first | rfl | cases absent
  · intro field notSecret given
    cases field <;> first | rfl | cases notSecret
  · intro field token isSecret supplied
    cases field <;> cases supplied <;> exact Settings.ensureDecrypted_plain (by decide)
  · intro date supplied
    cases supplied

def foundAfter (backend : Backend) : Except Failure TokenData :=
  (updateTokens backend Settings.transparentCrypto Settings.zeroKey (fun _ => Settings.zeroIv)
    storedTokens accessOnly).2

theorem accessOnly_loses :
    accessOnly.text .refresh_token = none ∧
      storedTokens.text .refresh_token = some "refresh-1" ∧
      (∃ after, foundAfter .prisma = .ok after ∧ after.text .refresh_token = none) ∧
      ∃ after, foundAfter .mongoose = .ok after ∧ after.text .refresh_token = none :=
  ⟨rfl, rfl, ⟨_, rfl, rfl⟩, _, rfl, rfl⟩

end ParakoId.SocialAccounts.Tokens
