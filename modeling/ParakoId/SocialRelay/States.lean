import ParakoId.Library.Schemas
import ParakoId.Tenancy.IssuerHosts

/-!
What the gateway makes of a callback before it stores anything: the signed state, the grammars of
tenants and providers, and the host that the tenants of a deployment have their names in front of.
-/

namespace ParakoId.SocialRelay

open TenantScope (isTenantSlug SYSTEM_TENANTS)
open Url (Tables Text Location)

def isTenant (slug : String) : Bool := SYSTEM_TENANTS.contains slug || isTenantSlug slug

structure Deployment where
  redis : Bool
  hasGetdel : Bool
  hmac_secret : String
  url : String

def STATE_TTL_MS : Nat := 10 * 60 * 1000

structure HmacStatePayload where
  tenant_id : String
  nonce : String
  timestamp : Nat

def hexBytes : List Char → List Nat
  | first :: second :: rest =>
    if Url.digitValue first < 16 ∧ Url.digitValue second < 16 then
      (16 * Url.digitValue first + Url.digitValue second) :: hexBytes rest
    else []
  | _ => []

section Signed

variable (hmac : String → Json → String)

def computeSignature (tenantId nonce timestamp : Json) (secret : String) : String :=
  hmac secret (Json.object [("nonce", nonce), ("tenant_id", tenantId), ("timestamp", timestamp)])

def createHmacState (payload : HmacStatePayload) (secret : String) : Json :=
  let timestamp : Json := .num (.finite payload.timestamp)
  Json.object [
    ("tenant_id", .str payload.tenant_id),
    ("nonce", .str payload.nonce),
    ("timestamp", timestamp),
    ("sig", .str (computeSignature hmac (.str payload.tenant_id) (.str payload.nonce) timestamp
      secret))]

def verifyHmacState (now : Nat) (state : Option Json) (secret : String) : Except String String :=
  match state with
  | none => .error "Malformed state: invalid encoding"
  | some parsed =>
    match parsed.property "tenant_id", parsed.property "nonce", parsed.property "timestamp",
      parsed.property "sig" with
    | some (.str tenantId), some (.str nonce), some (.num timestamp), some (.str sig) =>
      let expected := computeSignature hmac (.str tenantId) (.str nonce) (.num timestamp) secret
      if hexBytes sig.toList ≠ hexBytes expected.toList then .error "Invalid signature"
      else if .finite now < timestamp then .error "State timestamp in future"
      else if timestamp < .finite (now - STATE_TTL_MS) then .error "State expired"
      else .ok tenantId
    | _, _, _, _ => .error "Malformed state: missing required fields"

end Signed

def isWord (character : Char) : Bool :=
  decide ('a' ≤ character ∧ character ≤ 'z') || decide ('0' ≤ character ∧ character ≤ '9')

def isSafe (most : Nat) : Text → Bool
  | [] => false
  | [only] => isWord only
  | first :: rest =>
    isWord first && decide (rest.length ≤ most) &&
      rest.dropLast.all (fun character => isWord character || character == '-') &&
        rest.getLast?.any isWord

def SAFE_SUBDOMAIN_LABEL : Text → Bool := isSafe 62

def SAFE_PROVIDER_SLUG : Text → Bool := isSafe 63

/-- `toLowerCase`, for what it puts into ASCII: the Kelvin sign is there with the capitals. -/
def toLowerCase (text : Text) : Text :=
  text.map fun character => if character.toNat = 0x212A then 'k' else character.toLower

def toSafeSlug (value : String) (pattern : Text → Bool) : Option String :=
  let normalized := toLowerCase (Schemas.trim value).toList
  if pattern normalized then some (String.ofList normalized) else none

def extractBaseDomain (deploymentUrl : String) : Text :=
  let behindProtocol := (Config.withoutProtocol deploymentUrl).toList
  if behindProtocol.getLast? = some '/' then behindProtocol.dropLast else behindProtocol

def portText : Option Nat → Text
  | none => []
  | some port => ':' :: Nat.toDigits 10 port

def hostText (location : Location) : Text := location.host ++ portText location.port

def parseBaseDomain (tables : Tables) (deploymentUrl : String) : Option Location :=
  if extractBaseDomain deploymentUrl = [] then none
  else Url.parse tables (Url.webProtocol true ++ extractBaseDomain deploymentUrl)

def tenantUrl (base : Location) (tenantId : String) : Text :=
  Url.webProtocol true ++ tenantId.toList ++ '.' :: hostText base

structure SocialRefData where
  provider : String
  code : String
  tenant_id : String

def acceptCallback (tables : Tables) (hmac : String → Json → String) (deployment : Deployment)
    (now : Nat) (provider code : String) (state : Option Json) :
    Except String (SocialRefData × Location) :=
  if deployment.redis = false then .error "Service unavailable"
  else if deployment.hmac_secret = "" then .error "Service misconfigured"
  else
    match verifyHmacState hmac now state deployment.hmac_secret with
    | .error error => .error ("Invalid state: " ++ error)
    | .ok stateTenant =>
      match toSafeSlug stateTenant SAFE_SUBDOMAIN_LABEL with
      | none => .error "Invalid tenant"
      | some tenantId =>
        match toSafeSlug provider SAFE_PROVIDER_SLUG with
        | none => .error "Invalid provider"
        | some providerSlug =>
          match parseBaseDomain tables deployment.url with
          | none => .error "Service misconfigured"
          | some base => .ok (⟨providerSlug, code, tenantId⟩, base)

structure Redirect where
  location : Location
  pathname : String
  ref : Nat

def completePath (provider : String) : String := "/auth/social/" ++ provider ++ "/complete"

/-- `none` where the constructor of the URL throws. -/
def redirectUrl (tables : Tables) (data : SocialRefData) (base : Location) (ref : Nat) :
    Option Redirect :=
  (Url.parse tables (tenantUrl base data.tenant_id)).map fun location =>
    ⟨location, completePath data.provider, ref⟩

theorem finite_lt (first second : ℚ) :
    JsNumber.finite first < JsNumber.finite second ↔ first < second := by
  change JsNumber.extended (.finite first) < JsNumber.extended (.finite second) ↔ _
  simp [JsNumber.extended]

theorem verify_created_iff (hmac : String → Json → String) (now : Nat)
    (payload : HmacStatePayload) (secret : String) (tenantId : String) :
    verifyHmacState hmac now (some (createHmacState hmac payload secret)) secret = .ok tenantId ↔
      (payload.timestamp ≤ now ∧ now ≤ payload.timestamp + STATE_TTL_MS) ∧
        payload.tenant_id = tenantId := by
  have expired : ((payload.timestamp : ℚ) < (now : ℚ) - (STATE_TTL_MS : ℚ)) ↔
      payload.timestamp + STATE_TTL_MS < now := by
    rw [lt_sub_iff_add_lt]
    norm_cast
  have future : ((now : ℚ) < (payload.timestamp : ℚ)) ↔ now < payload.timestamp := by norm_cast
  have tenant : (createHmacState hmac payload secret).property "tenant_id" =
      some (.str payload.tenant_id) := rfl
  have nonce : (createHmacState hmac payload secret).property "nonce" =
      some (.str payload.nonce) := rfl
  have timestamp : (createHmacState hmac payload secret).property "timestamp" =
      some (.num (.finite payload.timestamp)) := rfl
  have sig : (createHmacState hmac payload secret).property "sig" =
      some (.str (computeSignature hmac (.str payload.tenant_id) (.str payload.nonce)
        (.num (.finite payload.timestamp)) secret)) := rfl
  simp only [verifyHmacState, tenant, nonce, timestamp, sig, ne_eq, not_true_eq_false, if_false,
    finite_lt, expired, future]
  split
  · rename_i isFuture
    simp only [reduceCtorEq, false_iff, not_and]
    omega
  · rename_i notFuture
    split
    · rename_i isExpired
      simp only [reduceCtorEq, false_iff, not_and]
      omega
    · rename_i notExpired
      have inTime : payload.timestamp ≤ now ∧ now ≤ payload.timestamp + STATE_TTL_MS := by omega
      simp [inTime]

theorem isWord_label {character : Char} (isLabel : character ∈ Url.LABEL_CHARACTERS) :
    isWord character = true ↔ character ≠ '_' ∧ character ≠ '-' := by
  have listed : ∀ character ∈ Url.LABEL_CHARACTERS,
      (isWord character = true ↔ character ≠ '_' ∧ character ≠ '-') :=
    Text.forall_of_all (by decide)
  exact listed character isLabel

def NamesHost (slug : String) : Prop :=
  '_' ∉ slug.toList ∧ slug.toList.getLast? ≠ some '-'

instance (slug : String) : Decidable (NamesHost slug) := inferInstanceAs (Decidable (_ ∧ _))

theorem isSafe_iff {first : Char} {rest : Text} {most : Nat} (firstWord : isWord first = true)
    (short : rest.length ≤ most)
    (isLabel : ∀ character ∈ first :: rest, character ∈ Url.LABEL_CHARACTERS) :
    isSafe most (first :: rest) = true ↔
      '_' ∉ first :: rest ∧ (first :: rest).getLast? ≠ some '-' := by
  have firstKept := (isWord_label (isLabel first List.mem_cons_self)).mp firstWord
  cases rest with
  | nil => simp [isSafe, firstWord, firstKept, Ne.symm firstKept.1]
  | cons second others =>
    obtain ⟨before, last, split⟩ : ∃ before last, second :: others = before ++ [last] :=
      ⟨_, _, (List.dropLast_append_getLast (List.cons_ne_nil second others)).symm⟩
    have lastLabel : last ∈ Url.LABEL_CHARACTERS := isLabel last (by simp [split])
    have middle : (∀ character ∈ before, isWord character = true ∨ character = '-') ↔
        '_' ∉ before := by
      constructor
      · intro kept isUnderscore
        rcases kept '_' isUnderscore with isWord | isHyphen
        · exact absurd isWord (by decide)
        · exact absurd isHyphen (by decide)
      · intro free character member
        have isCharacter : character ∈ Url.LABEL_CHARACTERS := isLabel character (by
          rw [split]
          simp [member])
        by_cases isHyphen : character = '-'
        · exact .inr isHyphen
        · refine .inl ((isWord_label isCharacter).mpr ⟨?_, isHyphen⟩)
          rintro rfl
          exact free member
    have shortened : (before ++ [last]).length ≤ most := by rwa [← split]
    have nonempty : before ++ [last] ≠ [] := by simp
    have unfolded : isSafe most (first :: (before ++ [last])) =
        (isWord first && decide ((before ++ [last]).length ≤ most) &&
          (before ++ [last]).dropLast.all (fun character => isWord character || character == '-') &&
            (before ++ [last]).getLast?.any isWord) := by
      rw [← split]
      rfl
    rw [split, unfolded]
    simp only [firstWord, shortened, decide_true, Bool.true_and, List.dropLast_concat,
      List.getLast?_concat, Option.any_some, Bool.and_eq_true, List.all_eq_true, Bool.or_eq_true,
      beq_iff_eq, middle, isWord_label lastLabel, List.mem_cons, List.mem_append,
      List.getLast?_cons, Option.getD_some, ne_eq, Option.some.injEq]
    simp [Ne.symm firstKept.1, and_assoc, eq_comm]

theorem toLowerCase_label {label : Text} (isLabel : Url.IsLabel label) :
    toLowerCase label = label := by
  have fixed : ∀ character ∈ Url.LABEL_CHARACTERS,
      (if character.toNat = 0x212A then 'k' else character.toLower) = character :=
    Text.forall_of_all (by decide)
  calc toLowerCase label = label.map id :=
        List.map_congr_left fun character member => fixed character (isLabel.characters _ member)
    _ = label := List.map_id label

theorem trim_label {label : String} (isLabel : Url.IsLabel label.toList) :
    Schemas.trim label = label := by
  have printable : ∀ character ∈ label.toList, Text.isWhiteSpace character = false :=
    Url.label_free isLabel (Text.forall_of_all (by decide))
  rw [Schemas.trim, Text.dropWhile_none printable, Text.rdropWhile_none printable,
    String.ofList_toList]

theorem toSafeSlug_label {label : String} (isLabel : Url.IsLabel label.toList)
    (pattern : Text → Bool) :
    toSafeSlug label pattern = if pattern label.toList then some label else none := by
  simp only [toSafeSlug, trim_label isLabel, toLowerCase_label isLabel, String.ofList_toList]

theorem isLabel_tenant {slug : String} (accepted : isTenant slug = true) :
    Url.IsLabel slug.toList := by
  simp only [isTenant, SYSTEM_TENANTS, Bool.or_eq_true, List.contains_eq_mem, List.mem_singleton,
    decide_eq_true_eq] at accepted
  rcases accepted with rfl | isSlug
  · exact ⟨by decide, Text.forall_of_all (by decide)⟩
  · exact Tenancy.isLabel_slug isSlug

theorem toSafeSlug_tenant {slug : String} (accepted : isTenant slug = true) :
    toSafeSlug slug SAFE_SUBDOMAIN_LABEL = if NamesHost slug then some slug else none := by
  have isLabel := isLabel_tenant accepted
  rw [toSafeSlug_label isLabel]
  have exactly : SAFE_SUBDOMAIN_LABEL slug.toList = true ↔ NamesHost slug := by
    simp only [isTenant, SYSTEM_TENANTS, Bool.or_eq_true, List.contains_eq_mem, List.mem_singleton,
      decide_eq_true_eq] at accepted
    rcases accepted with rfl | isSlug
    · decide
    · simp only [isTenantSlug] at isSlug
      split at isSlug
      · cases isSlug
      · rename_i first rest split
        simp only [Bool.and_eq_true, decide_eq_true_eq] at isSlug
        rw [SAFE_SUBDOMAIN_LABEL, NamesHost, split]
        exact isSafe_iff (by simpa [isWord] using isSlug.1.1) isSlug.1.2
          (by simpa [split] using isLabel.characters)
  simp only [exactly]

end ParakoId.SocialRelay
