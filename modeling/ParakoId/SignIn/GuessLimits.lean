import ParakoId.Library.Quotas
import ParakoId.RedisKeys.Keys
import ParakoId.Settings.Encryption
import ParakoId.SignIn.SecondFactorFirst

/-!
How many codes of a second factor one client address may have checked. The handlers look for whom a
code is and which method, and the services for a code that is well formed and a secret or hash to
check it against.
-/

namespace ParakoId.SignIn

open Quotas (count admits Within admits_iff count_same count_other)
open Runs (AlwaysFrom run run_cons)
open SecondFactors (Mfa MfaMethod)

section CodeChecks

variable {Profile : Type}

def EMAIL_OTP_LENGTH : Nat := 6

/-- `validateTotpCodeFormat`: what is left without white space. -/
def validateTotpCodeFormat (code : String) : Option String :=
  let sanitized := code.toList.filter fun letter => !Recovery.isSpace letter
  if sanitized.length = EMAIL_OTP_LENGTH ∧ sanitized.all Recovery.isDigit then
    some (String.ofList sanitized)
  else none

def isObjectId (identifier : String) : Bool :=
  identifier.toList.length = 24 && identifier.toList.all Settings.isHexDigit

variable (services : Services Profile)

def totpUser (userIdentifier : String) : Option (User Profile) :=
  match services.findByUsername userIdentifier with
  | .error _ => none
  | .ok (some user) => some user
  | .ok none =>
    if isObjectId userIdentifier then (services.findById userIdentifier).toOption.join else none

/-- `verifyTotp` comes to the comparison. -/
def checksTotp (userIdentifier code : String) : Bool :=
  userIdentifier ≠ "" && (validateTotpCodeFormat code).isSome &&
    (totpUser services userIdentifier).any isTotpEnabled

/-- `verifyEmailOtp` comes to the comparison: a hash is stored and has not expired. -/
def checksEmailOtp (username code : String) : Bool :=
  Schemas.trim code ≠ "" &&
    (services.findByUsername username).toOption.join.any fun user =>
      (user.mfa.bind Mfa.email_otp).any fun otp =>
        otp.hash ≠ "" && otp.expires.any fun expires => decide (services.now ≤ expires)

def checksCode (method : MfaMethod) (username code : String) : Bool :=
  match method with
  | .totp => checksTotp services username code
  | .email => checksEmailOtp services username code
  | .webauthn => false

def checksDevice (pending : PendingNewDeviceVerification Profile) (code : String) : Bool :=
  match pending.method with
  | .totp => checksTotp services pending.username code
  | .email =>
    (services.findById pending.userId).toOption.join.any fun user =>
      checksEmailOtp services user.username code

def checks (session : Option (BrowserSession Profile)) : SignInRequest → Bool
  | .processMfaVerify code _ =>
    (session.bind pendingUser).any fun pending =>
      Schemas.trim code ≠ "" && pending.mfa_method.any fun method =>
        checksCode services method pending.account.username (Schemas.trim code)
  | .newDeviceVerify uid code =>
    (verificationCode code).any fun code =>
      (session.bind BrowserSession.pendingNewDeviceVerification).any fun pending =>
        decide (pending.interactionUid = uid) &&
          !isPendingVerificationExpired services.now pending.created_at &&
            checksDevice services pending code
  | .mfa accountId code requestedMethod _ =>
    code ≠ "" && accountId.any fun accountId =>
      ((services.findByUsername accountId).toOption.getD none).any fun user =>
        (requestedMethod.or (getPreferredMethod user)).any fun method =>
          checksCode services method accountId code
  | _ => false

end CodeChecks

section GuessLimits

variable {Profile : Type}

/-- What comes to the routes of an interaction and of `authRoutes`. -/
inductive Visit
  | signIn (request : SignInRequest)
  | interactionWebAuthnOptions
  | interactionWebAuthnVerify
  | other

def mountsMfaVerifyLimiter : Visit → Bool
  | .signIn (.processMfaVerify _ _) => true
  | .signIn (.processMfaWebAuthn _) => true
  | .interactionWebAuthnOptions => true
  | .interactionWebAuthnVerify => true
  | _ => false

structure Arrival (Profile : Type) where
  tenantId : String
  visit : Visit
  services : Services Profile
  session : Option (BrowserSession Profile)
  /-- The middleware behind the limiter, such as the check of the CSRF token, lets it pass. -/
  isAdmitted : Bool

structure ClientAddress where
  redisBasePrefix : String
  ipKey : String
  isDev : Bool

def mfaVerifyMax (isDev : Bool) : Nat := if isDev then 5 * 10 else 5

def mfaVerifyKey (client : ClientAddress) (tenantId : String) : String :=
  RedisKeys.TenantKey.text client.redisBasePrefix tenantId (.rateLimit "mfa-verify" client.ipKey)

def Arrival.checksCode (arrival : Arrival Profile) : Bool :=
  arrival.isAdmitted &&
    match arrival.visit with
    | .signIn request => checks arrival.services arrival.session request
    | _ => false

structure Window where
  hits : String → Nat
  checked : Nat

def Window.fresh : Window where
  hits _ := 0
  checked := 0

def arrive (client : ClientAddress) (window : Window) (arrival : Arrival Profile) : Window :=
  let key := mfaVerifyKey client arrival.tenantId
  if mountsMfaVerifyLimiter arrival.visit then
    { hits := count window.hits key
      checked := if admits (mfaVerifyMax client.isDev) window.hits key && arrival.checksCode then
          window.checked + 1
        else window.checked }
  else { window with checked := if arrival.checksCode then window.checked + 1 else window.checked }

def GuessesBounded (client : ClientAddress) (window : Window) : Prop :=
  window.checked ≤ mfaVerifyMax client.isDev

variable (client : ClientAddress)

theorem arrive_within {key : String} {window : Window} {arrival : Arrival Profile}
    (within : Within (mfaVerifyMax client.isDev) window.hits key window.checked)
    (limited : arrival.checksCode = true → mountsMfaVerifyLimiter arrival.visit = true ∧
      mfaVerifyKey client arrival.tenantId = key) :
    Within (mfaVerifyMax client.isDev) (arrive client window arrival).hits key
      (arrive client window arrival).checked := by
  rw [arrive]
  cases checksCode : arrival.checksCode with
  | false =>
    cases mountsMfaVerifyLimiter arrival.visit with
    | true => simpa using within.refused (mfaVerifyKey client arrival.tenantId)
    | false => simpa using within
  | true =>
    obtain ⟨mounts, sameKey⟩ := limited checksCode
    simp only [mounts, if_true, sameKey, Bool.and_true]
    cases isAdmitted : admits (mfaVerifyMax client.isDev) window.hits key with
    | true => exact within.admitted isAdmitted
    | false => exact within.refused key

theorem bounded_of_within (key : String) {window : Window}
    (within : Within (mfaVerifyMax client.isDev) window.hits key window.checked)
    {arrivals : List (Arrival Profile)}
    (limited : ∀ arrival ∈ arrivals, arrival.checksCode = true →
      mountsMfaVerifyLimiter arrival.visit = true ∧
        mfaVerifyKey client arrival.tenantId = key) :
    AlwaysFrom (arrive client) (GuessesBounded client) window arrivals := by
  induction arrivals generalizing window with
  | nil => exact within.bounded
  | cons arrival rest ih =>
    have next := arrive_within client within (limited arrival List.mem_cons_self)
    refine ⟨within.bounded, ih next ?_⟩
    intro later member
    exact limited later (List.mem_cons_of_mem arrival member)

theorem run_unlimited {arrival : Arrival Profile} (checksCode : arrival.checksCode = true)
    (mountsNone : mountsMfaVerifyLimiter arrival.visit = false) (times : Nat) (window : Window) :
    (run (arrive client) window (List.replicate times arrival)).checked =
      window.checked + times := by
  induction times generalizing window with
  | zero => rfl
  | succ times ih =>
    rw [List.replicate_succ, run_cons, ih]
    simp only [arrive, mountsNone, Bool.false_eq_true, if_false, checksCode, if_true]
    omega

theorem run_limited {arrival : Arrival Profile} (checksCode : arrival.checksCode = true)
    (mounts : mountsMfaVerifyLimiter arrival.visit = true) (times : Nat) (window : Window)
    (room : window.hits (mfaVerifyKey client arrival.tenantId) + times ≤
      mfaVerifyMax client.isDev) :
    (run (arrive client) window (List.replicate times arrival)).checked =
        window.checked + times ∧
      ∀ other, other ≠ mfaVerifyKey client arrival.tenantId →
        (run (arrive client) window (List.replicate times arrival)).hits other =
          window.hits other := by
  induction times generalizing window with
  | zero => exact ⟨rfl, fun _ _ => rfl⟩
  | succ times ih =>
    rw [List.replicate_succ, run_cons]
    have isAdmitted : admits (mfaVerifyMax client.isDev) window.hits
        (mfaVerifyKey client arrival.tenantId) = true := by
      rw [admits_iff]
      omega
    have arrives : arrive client window arrival =
        ⟨count window.hits (mfaVerifyKey client arrival.tenantId), window.checked + 1⟩ := by
      simp only [arrive, mounts, if_true, isAdmitted, checksCode, Bool.and_true]
    have later := ih (arrive client window arrival) (by
      simp only [arrives, count_same]
      omega)
    rw [arrives] at later ⊢
    obtain ⟨checked, others⟩ := later
    simp only at checked
    refine ⟨by omega, ?_⟩
    intro other isOther
    rw [others other isOther]
    exact count_other window.hits isOther

theorem mfaVerifyKey_inj {first second : String} :
    mfaVerifyKey client first = mfaVerifyKey client second ↔ first = second := by
  refine ⟨fun sameKey => ?_, congrArg _⟩
  simp only [mfaVerifyKey, RedisKeys.TenantKey.text, RedisKeys.buildRedisKey_eq] at sameKey
  simpa [String.append_assoc] using sameKey

theorem exceeded_across_tenants {first second : Arrival Profile}
    (firstChecks : first.checksCode = true) (secondChecks : second.checksCode = true)
    (firstMounts : mountsMfaVerifyLimiter first.visit = true)
    (secondMounts : mountsMfaVerifyLimiter second.visit = true)
    (otherTenant : first.tenantId ≠ second.tenantId) :
    ¬GuessesBounded client (run (arrive client) .fresh
      (List.replicate (mfaVerifyMax client.isDev) first ++ [second])) := by
  have otherKey : mfaVerifyKey client second.tenantId ≠ mfaVerifyKey client first.tenantId :=
    fun sameKey => otherTenant ((mfaVerifyKey_inj client).mp sameKey).symm
  obtain ⟨checked, others⟩ := run_limited client firstChecks firstMounts
    (mfaVerifyMax client.isDev) .fresh (by simp [Window.fresh])
  rw [run, List.foldl_append, GuessesBounded, List.foldl_cons, List.foldl_nil]
  rw [run] at checked others
  generalize List.foldl (arrive client) Window.fresh
    (List.replicate (mfaVerifyMax client.isDev) first) = window at checked others ⊢
  have positive : 0 < mfaVerifyMax client.isDev := by
    rw [mfaVerifyMax]
    split <;> omega
  have isAdmitted : admits (mfaVerifyMax client.isDev) window.hits
      (mfaVerifyKey client second.tenantId) = true := by
    rw [admits_iff, others _ otherKey]
    exact positive
  simp only [arrive, secondMounts, if_true, isAdmitted, secondChecks, Bool.and_true]
  rw [checked]
  simp only [Window.fresh]
  omega

/-- Whatever requests may come, the bound holds in every order of them if and only if each that
has a code checked is counted, and all of these are for one tenant. -/
theorem guesses_bounded_iff (possible : Arrival Profile → Prop) :
    (∀ arrivals : List (Arrival Profile), (∀ arrival ∈ arrivals, possible arrival) →
        AlwaysFrom (arrive client) (GuessesBounded client) .fresh arrivals) ↔
      ∀ first second, possible first → possible second → first.checksCode = true →
        second.checksCode = true →
          mountsMfaVerifyLimiter first.visit = true ∧ first.tenantId = second.tenantId := by
  have mounts_of_bounded : (∀ arrivals : List (Arrival Profile),
      (∀ arrival ∈ arrivals, possible arrival) →
        AlwaysFrom (arrive client) (GuessesBounded client) .fresh arrivals) →
      ∀ arrival, possible arrival → arrival.checksCode = true →
        mountsMfaVerifyLimiter arrival.visit = true := by
    intro bounded arrival isPossible checksCode
    by_contra mountsNone
    rw [Bool.not_eq_true] at mountsNone
    have always := bounded (List.replicate (mfaVerifyMax client.isDev + 1) arrival)
      fun other member => List.eq_of_mem_replicate member ▸ isPossible
    have final := always.final
    rw [GuessesBounded, run_unlimited client checksCode mountsNone] at final
    simp only [Window.fresh] at final
    omega
  constructor
  · intro bounded first second isFirst isSecond firstChecks secondChecks
    have firstMounts := mounts_of_bounded bounded first isFirst firstChecks
    have secondMounts := mounts_of_bounded bounded second isSecond secondChecks
    refine ⟨firstMounts, ?_⟩
    by_contra otherTenant
    have arePossible : ∀ arrival ∈ List.replicate (mfaVerifyMax client.isDev) first ++ [second],
        possible arrival := by
      intro arrival member
      rcases List.mem_append.mp member with repeated | last
      · exact List.eq_of_mem_replicate repeated ▸ isFirst
      · exact List.mem_singleton.mp last ▸ isSecond
    exact exceeded_across_tenants client firstChecks secondChecks firstMounts secondMounts
      otherTenant (bounded _ arePossible).final
  · intro limited arrivals arePossible
    by_cases anyChecks : ∃ arrival ∈ arrivals, arrival.checksCode = true
    · obtain ⟨first, isFirst, firstChecks⟩ := anyChecks
      refine bounded_of_within client (mfaVerifyKey client first.tenantId)
        ⟨Nat.le_refl 0, Nat.zero_le _⟩ ?_
      intro arrival member checksCode
      obtain ⟨mounts, sameTenant⟩ := limited arrival first (arePossible arrival member)
        (arePossible first isFirst) checksCode firstChecks
      exact ⟨mounts, congrArg (mfaVerifyKey client) sameTenant⟩
    · refine bounded_of_within client "" ⟨Nat.le_refl 0, Nat.zero_le _⟩ ?_
      intro arrival member checksCode
      exact absurd ⟨arrival, member, checksCode⟩ anyChecks

end GuessLimits

def visitor : ClientAddress where
  redisBasePrefix := "parako"
  ipKey := "203.0.113.7"
  isDev := false

def interactionGuess : Arrival Unit where
  tenantId := "default"
  visit := .signIn (.mfa (some "ada") "123456" (some .totp) "uid")
  services := servicesOf protectedAda
  session := none
  isAdmitted := true

theorem sixth_guess_checked :
    ¬AlwaysFrom (arrive visitor) (GuessesBounded visitor) .fresh
      (List.replicate 6 interactionGuess) := by
  intro always
  have checked : (run (arrive visitor) .fresh (List.replicate 6 interactionGuess)).checked = 6 := by
    decide
  have final := always.final
  rw [GuessesBounded, checked] at final
  exact absurd final (by decide)

end ParakoId.SignIn
