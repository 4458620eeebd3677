import Mathlib.Data.Rat.Floor
import ParakoId.Library.Runs

/-!
The limits on the texts that are sent: their counters share one map, which is checked against what
the log of the texts sent makes of it.
-/

namespace ParakoId.Accounts

open Function (update)

/-- Positive, so that no default of `||` applies. -/
structure RateLimits where
  per_phone_per_hour : ℚ
  per_ip_per_day : ℚ
  cooldown_seconds : ℚ
  phone_pos : 0 < per_phone_per_hour
  ip_pos : 0 < per_ip_per_day
  cooldown_pos : 0 < cooldown_seconds

structure RateLimitEntry where
  count : Nat
  resetAt : Nat
  deriving DecidableEq

inductive CacheKey
  | phone (phone : String)
  | ip (ip : String)
  | cooldown (phone : String)
  deriving DecidableEq

abbrev RateLimitCache := CacheKey → Option RateLimitEntry

inductive RateLimitResult
  | allowed
  | limited (retryAfter : Nat)

def oneHour : Nat := 60 * 60 * 1000

def oneDay : Nat := 24 * 60 * 60 * 1000

/-- A `Date` keeps whole milliseconds. -/
def RateLimits.cooldown (limits : RateLimits) : Nat := (limits.cooldown_seconds * 1000).floor.toNat

def RateLimitEntry.live (now : Nat) (entry : RateLimitEntry) : Bool := decide (now < entry.resetAt)

def RateLimitEntry.retryAfter (now : Nat) (entry : RateLimitEntry) : Nat :=
  (entry.resetAt - now + 999) / 1000

def cleanupRateLimitCache (cache : RateLimitCache) (now : Nat) : RateLimitCache :=
  fun key => (cache key).filter fun entry => decide (now ≤ entry.resetAt)

def checkWindow (limit : ℚ) (key : CacheKey) (now : Nat) (cache : RateLimitCache) :
    RateLimitCache × Option RateLimitEntry :=
  match cache key with
  | none => (cache, none)
  | some entry =>
    if entry.live now then (cache, if limit ≤ entry.count then some entry else none)
    else (update cache key none, none)

def counted (duration now : Nat) : Option RateLimitEntry → RateLimitEntry
  | some entry => { entry with count := entry.count + 1 }
  | none => ⟨1, now + duration⟩

def countSend (duration : Nat) (key : CacheKey) (now : Nat) (cache : RateLimitCache) :
    RateLimitCache :=
  update cache key (some (counted duration now ((cache key).filter (·.live now))))

-- `if (ip)`
def presentIp (ip : Option String) : Option String := ip.filter (· ≠ "")

def checkIp (limits : RateLimits) (ip : Option String) (now : Nat) (cache : RateLimitCache) :
    RateLimitCache × Option RateLimitEntry :=
  match presentIp ip with
  | none => (cache, none)
  | some ip => checkWindow limits.per_ip_per_day (.ip ip) now cache

def countSms (limits : RateLimits) (cache : RateLimitCache) (now : Nat) (phone : String)
    (ip : Option String) : RateLimitCache :=
  let byPhone := countSend oneHour (.phone phone) now cache
  let byIp := match presentIp ip with
    | none => byPhone
    | some ip => countSend oneDay (.ip ip) now byPhone
  update byIp (.cooldown phone) (some ⟨1, now + limits.cooldown⟩)

def checkRateLimit (limits : RateLimits) (cache : RateLimitCache) (now : Nat) (phone : String)
    (ip : Option String) : RateLimitCache × RateLimitResult :=
  let byPhone := checkWindow limits.per_phone_per_hour (.phone phone) now cache
  let byIp := checkIp limits ip now byPhone.1
  match byPhone.2, byIp.2, (byIp.1 (.cooldown phone)).filter (·.live now) with
  | some entry, _, _ => (byPhone.1, .limited (entry.retryAfter now))
  | none, some entry, _ => (byIp.1, .limited (entry.retryAfter now))
  | none, none, some entry => (byIp.1, .limited (entry.retryAfter now))
  | none, none, none => (countSms limits byIp.1 now phone ip, .allowed)

structure SentSms where
  phone : String
  ip : Option String
  time : Nat

structure SmsState where
  rateLimitCache : RateLimitCache
  now : Nat
  sent : List SentSms

/-- `sendVerificationCode` and `sendRecoveryCode` send different texts under the same checks. Each
event comes some milliseconds after the one before it. -/
inductive SmsEvent
  | send (after : Nat) (phone : String) (ip : Option String)
  | cleanup (after : Nat)

def SmsEvent.after : SmsEvent → Nat
  | .send after _ _ => after
  | .cleanup after => after

namespace SmsState

def initial : SmsState := ⟨fun _ => none, 0, []⟩

def wait (state : SmsState) (after : Nat) : SmsState := { state with now := state.now + after }

section

variable (limits : RateLimits) (validatePhoneNumber : String → Option String)

/-- What an event decides: nothing where the number is not valid, and for a clean-up. -/
def decision (state : SmsState) : SmsEvent → Option RateLimitResult
  | .cleanup _ => none
  | .send after phone ip => (validatePhoneNumber phone).map fun formatted =>
    (checkRateLimit limits state.rateLimitCache (state.now + after) formatted ip).2

def step (state : SmsState) : SmsEvent → SmsState
  | .cleanup after =>
    { state.wait after with
      rateLimitCache := cleanupRateLimitCache state.rateLimitCache (state.now + after) }
  | .send after phone ip =>
    match validatePhoneNumber phone with
    | none => state.wait after
    | some formatted =>
      let checked := checkRateLimit limits state.rateLimitCache (state.now + after) formatted ip
      { state.wait after with
        rateLimitCache := checked.1
        sent := match checked.2 with
          | .allowed => ⟨formatted, ip, state.now + after⟩ :: state.sent
          | .limited _ => state.sent }

def decisions (state : SmsState) : List SmsEvent → List (Option RateLimitResult)
  | [] => []
  | event :: rest => state.decision limits validatePhoneNumber event ::
      (state.step limits validatePhoneNumber event).decisions rest

end

end SmsState

/-- The window that the newest of the times falls in: how many do, and when it ends. A time after
the end opens the next window. -/
def window (duration : Nat) : List Nat → Option RateLimitEntry
  | [] => none
  | time :: earlier => some (counted duration time ((window duration earlier).filter (·.live time)))

def timesTo (phone : String) (sent : List SentSms) : List Nat :=
  (sent.filter fun sms => sms.phone == phone).map SentSms.time

def timesFrom (ip : String) (sent : List SentSms) : List Nat :=
  (sent.filter fun sms => sms.ip == some ip).map SentSms.time

/-- What the log makes of each counter. -/
def ofLog (limits : RateLimits) (sent : List SentSms) : RateLimitCache
  | .phone phone => window oneHour (timesTo phone sent)
  | .ip ip => if ip = "" then none else window oneDay (timesFrom ip sent)
  | .cooldown phone => (timesTo phone sent).head?.map fun time => ⟨1, time + limits.cooldown⟩

/-- The maps agree on what is live. -/
def SameAt (now : Nat) (first second : RateLimitCache) : Prop :=
  ∀ key, (first key).filter (·.live now) = (second key).filter (·.live now)

def refusal (limits : RateLimits) (cache : RateLimitCache) (now : Nat) (phone : String)
    (ip : Option String) : Option RateLimitEntry :=
  let full (limit : ℚ) (key : CacheKey) :=
    ((cache key).filter (·.live now)).filter fun entry => decide (limit ≤ entry.count)
  (full limits.per_phone_per_hour (.phone phone)).or
    (((presentIp ip).bind fun ip => full limits.per_ip_per_day (.ip ip)).or
      ((cache (.cooldown phone)).filter (·.live now)))

variable {limits : RateLimits} {now time : Nat} {first second cache : RateLimitCache}
  {phone : String} {ip : Option String}

theorem presentIp_some {address : String} :
    presentIp ip = some address ↔ ip = some address ∧ address ≠ "" := by
  simp [presentIp, Option.filter_eq_some_iff]

theorem SameAt.later (same : SameAt now first second) (isLater : now ≤ time) :
    SameAt time first second := by
  have twice : ∀ found : Option RateLimitEntry,
      found.filter (·.live time) = (found.filter (·.live now)).filter (·.live time) := by
    intro found
    rw [Option.filter_filter]
    congr 1
    funext entry
    simp only [RateLimitEntry.live, Bool.and_eq_decide, decide_eq_true_eq, decide_eq_decide]
    omega
  intro key
  rw [twice, twice (second key), same key]

theorem SameAt.trans {third : RateLimitCache} (same : SameAt now first second)
    (next : SameAt now second third) : SameAt now first third :=
  fun key => (same key).trans (next key)

theorem SameAt.update (same : SameAt now first second) (key : CacheKey)
    (entry : Option RateLimitEntry) :
    SameAt now (update first key entry) (update second key entry) := by
  intro other
  by_cases isSame : other = key
  · subst isSame
    simp
  · simpa [Function.update_of_ne isSame] using same other

theorem cleanup_same (cache : RateLimitCache) (now : Nat) :
    SameAt now (cleanupRateLimitCache cache now) cache := by
  intro key
  rw [cleanupRateLimitCache, Option.filter_filter]
  congr 1
  funext entry
  simp only [RateLimitEntry.live, Bool.and_eq_decide, decide_eq_true_eq, decide_eq_decide]
  omega

theorem checkWindow_same (limit : ℚ) (key : CacheKey) (now : Nat) (cache : RateLimitCache) :
    SameAt now (checkWindow limit key now cache).1 cache := by
  intro other
  cases isEntry : cache key with
  | none => simp [checkWindow, isEntry]
  | some entry =>
    cases isLive : entry.live now with
    | true => simp [checkWindow, isEntry, isLive]
    | false =>
      by_cases isSame : other = key
      · subst isSame
        simp [checkWindow, isEntry, isLive, Option.filter]
      · simp [checkWindow, isEntry, isLive, Function.update_of_ne isSame]

theorem checkWindow_over (limit : ℚ) (key : CacheKey) (now : Nat) (cache : RateLimitCache) :
    (checkWindow limit key now cache).2 =
      ((cache key).filter (·.live now)).filter fun entry => decide (limit ≤ entry.count) := by
  cases isEntry : cache key with
  | none => simp [checkWindow, isEntry]
  | some entry =>
    cases isLive : entry.live now with
    | true | false => simp [checkWindow, isEntry, isLive, Option.filter]

theorem SameAt.countSend (same : SameAt now first second) (duration : Nat) (key : CacheKey) :
    SameAt now (countSend duration key now first) (countSend duration key now second) := by
  rw [Accounts.countSend, Accounts.countSend, same key]
  exact same.update key _

theorem SameAt.countSms (same : SameAt now first second) :
    SameAt now (countSms limits first now phone ip) (countSms limits second now phone ip) := by
  have byPhone := same.countSend oneHour (.phone phone)
  simp only [Accounts.countSms]
  cases presentIp ip with
  | none => exact byPhone.update _ _
  | some ip => exact (byPhone.countSend oneDay (.ip ip)).update _ _

theorem SameAt.refusal (same : SameAt now first second) :
    refusal limits first now phone ip = refusal limits second now phone ip := by
  simp only [Accounts.refusal, same _]

theorem checkRateLimit_spec (limits : RateLimits) (cache : RateLimitCache) (now : Nat)
    (phone : String) (ip : Option String) :
    (checkRateLimit limits cache now phone ip).2 =
      (refusal limits cache now phone ip).elim .allowed (fun entry =>
        .limited (entry.retryAfter now)) ∧
    SameAt now (checkRateLimit limits cache now phone ip).1
      ((refusal limits cache now phone ip).elim (countSms limits cache now phone ip)
        fun _ => cache) := by
  have phoneSame := checkWindow_same limits.per_phone_per_hour (.phone phone) now cache
  have phoneOver := checkWindow_over limits.per_phone_per_hour (.phone phone) now cache
  simp only [checkRateLimit, refusal, ← phoneOver]
  generalize checkWindow limits.per_phone_per_hour (.phone phone) now cache = byPhone at *
  obtain ⟨ipSame, ipOver⟩ : SameAt now (checkIp limits ip now byPhone.1).1 cache ∧
      (checkIp limits ip now byPhone.1).2 =
        (presentIp ip).bind fun ip => ((cache (.ip ip)).filter (·.live now)).filter fun entry =>
          decide (limits.per_ip_per_day ≤ entry.count) := by
    simp only [checkIp]
    cases presentIp ip with
    | none => exact ⟨phoneSame, rfl⟩
    | some ip =>
      refine ⟨(checkWindow_same _ _ _ _).trans phoneSame, ?_⟩
      simp only [checkWindow_over, phoneSame _, Option.bind_some]
  rw [← ipOver, ← ipSame (.cooldown phone)]
  generalize checkIp limits ip now byPhone.1 = byIp at *
  rcases byPhone with ⟨phoneCache, _ | entry⟩
  · rcases byIp with ⟨ipCache, _ | entry⟩
    · cases (ipCache (.cooldown phone)).filter (·.live now) with
      | none => exact ⟨rfl, ipSame.countSms⟩
      | some entry => exact ⟨rfl, ipSame⟩
    · exact ⟨rfl, ipSame⟩
  · exact ⟨rfl, phoneSame⟩

namespace SmsState

variable {validatePhoneNumber : String → Option String}

/-- The log accounts for what is live in the map, and has kept to the limits. -/
structure Sound (limits : RateLimits) (state : SmsState) : Prop where
  logged : SameAt state.now state.rateLimitCache (ofLog limits state.sent)
  spaced : ∀ phone, (timesTo phone state.sent).Pairwise fun later earlier =>
    earlier + limits.cooldown ≤ later
  to_phone : ∀ phone entry, window oneHour (timesTo phone state.sent) = some entry →
    (entry.count : ℚ) < limits.per_phone_per_hour + 1
  from_ip : ∀ ip entry, ip ≠ "" → window oneDay (timesFrom ip state.sent) = some entry →
    (entry.count : ℚ) < limits.per_ip_per_day + 1

theorem countSms_log (limits : RateLimits) (sent : List SentSms) (now : Nat) (phone : String)
    (ip : Option String) :
    countSms limits (ofLog limits sent) now phone ip = ofLog limits (⟨phone, ip, now⟩ :: sent) := by
  funext key
  cases key with
  | phone other =>
    by_cases isSame : phone = other
    · subst isSame
      cases found : presentIp ip <;> simp [countSms, countSend, ofLog, timesTo, window, found]
    · cases found : presentIp ip <;>
        simp [countSms, countSend, ofLog, timesTo, isSame, Ne.symm isSame, found]
  | ip other =>
    have isCounted : presentIp ip = some other ↔ ip = some other ∧ other ≠ "" := presentIp_some
    cases found : presentIp ip with
    | none =>
      rw [found] at isCounted
      by_cases isEmpty : other = ""
      · simp [countSms, countSend, ofLog, isEmpty, found]
      · have notFrom : ip ≠ some other := by simpa [isEmpty] using isCounted
        simp [countSms, countSend, ofLog, timesFrom, isEmpty, found, notFrom]
    | some address =>
      obtain ⟨rfl, named⟩ := presentIp_some.mp found
      by_cases isSame : address = other
      · subst isSame
        simp [countSms, countSend, ofLog, timesFrom, window, found, named]
      · simp [countSms, countSend, ofLog, timesFrom, isSame, Ne.symm isSame, found]
  | cooldown other =>
    by_cases isSame : phone = other
    · subst isSame
      simp [countSms, ofLog, timesTo]
    · cases found : presentIp ip <;>
        simp [countSms, countSend, ofLog, timesTo, isSame, Ne.symm isSame, found]

theorem Sound.wait {state : SmsState} (sound : state.Sound limits) (after : Nat) :
    (state.wait after).Sound limits :=
  ⟨sound.logged.later (Nat.le_add_right _ _), sound.spaced, sound.to_phone, sound.from_ip⟩

/-- The count of a window that a time joins, where the window was not full before. -/
theorem admitted_count {limit : ℚ} {duration : Nat} {times : List Nat} {entry : RateLimitEntry}
    (isPositive : 0 < limit)
    (isOpen : ((window duration times).filter (·.live now)).filter
      (fun entry => decide (limit ≤ entry.count)) = none)
    (isWindow : window duration (now :: times) = some entry) :
    (entry.count : ℚ) < limit + 1 := by
  simp only [window, Option.some.injEq] at isWindow
  subst isWindow
  cases isBefore : (window duration times).filter (·.live now) with
  | none => simpa [counted] using isPositive
  | some before =>
    rw [isBefore] at isOpen
    simpa [counted, Option.filter] using isOpen

theorem Sound.allowed {state : SmsState} (sound : state.Sound limits)
    (isOpen : refusal limits (ofLog limits state.sent) state.now phone ip = none)
    (isCounted : SameAt state.now cache
      (countSms limits (ofLog limits state.sent) state.now phone ip)) :
    Sound limits ⟨cache, state.now, ⟨phone, ip, state.now⟩ :: state.sent⟩ := by
  simp only [refusal, Option.or_eq_none_iff] at isOpen
  obtain ⟨phoneOpen, ipOpen, cooldownOver⟩ := isOpen
  rw [countSms_log] at isCounted
  refine ⟨isCounted, ?_, ?_, ?_⟩
  · intro other
    have spaced := sound.spaced other
    by_cases isSame : phone = other
    · subst isSame
      simp only [timesTo, List.filter_cons, beq_self_eq_true, if_true, List.map_cons]
      refine List.pairwise_cons.mpr ⟨?_, spaced⟩
      simp only [ofLog] at cooldownOver
      change ∀ earlier ∈ timesTo phone state.sent, earlier + limits.cooldown ≤ state.now
      revert spaced cooldownOver
      cases timesTo phone state.sent with
      | nil => simp
      | cons last earlier =>
        intro cooldownOver spaced
        have lastOver : last + limits.cooldown ≤ state.now := by
          simpa [RateLimitEntry.live, Option.filter] using cooldownOver
        intro time isTime
        rcases List.mem_cons.mp isTime with rfl | isEarlier
        · exact lastOver
        · have apart := List.rel_of_pairwise_cons spaced isEarlier
          omega
    · simpa [timesTo, isSame] using spaced
  · intro other entry isWindow
    by_cases isSame : phone = other
    · subst isSame
      apply admitted_count limits.phone_pos phoneOpen
      simpa [timesTo] using isWindow
    · apply sound.to_phone other entry
      simpa [timesTo, isSame] using isWindow
  · intro other entry named isWindow
    by_cases isSame : ip = some other
    · rw [presentIp_some.mpr ⟨isSame, named⟩, Option.bind_some, ofLog, if_neg named] at ipOpen
      apply admitted_count limits.ip_pos ipOpen
      simpa [timesFrom, isSame] using isWindow
    · apply sound.from_ip other entry named
      simpa [timesFrom, isSame] using isWindow

theorem Sound.step {state : SmsState} (sound : state.Sound limits) (event : SmsEvent) :
    (state.step limits validatePhoneNumber event).Sound limits := by
  have waited := sound.wait event.after
  cases event with
  | cleanup after =>
    exact { waited with logged := (cleanup_same _ _).trans waited.logged }
  | send after raw ip =>
    cases isValid : validatePhoneNumber raw with
    | none => simpa [SmsState.step, SmsEvent.after, isValid] using waited
    | some phone =>
      obtain ⟨result, same⟩ :=
        checkRateLimit_spec limits state.rateLimitCache (state.now + after) phone ip
      have logged := waited.logged
      simp only [SmsState.wait, SmsEvent.after] at logged
      rw [logged.refusal] at result same
      simp only [SmsState.step, isValid, result]
      cases isRefused : refusal limits (ofLog limits state.sent) (state.now + after) phone ip with
      | none =>
        rw [isRefused] at same
        exact waited.allowed isRefused (same.trans logged.countSms)
      | some entry =>
        rw [isRefused] at same
        exact { waited with logged := same.trans logged }

/-- States that no event tells apart. -/
def Alike (one other : SmsState) : Prop :=
  one.now = other.now ∧ SameAt one.now one.rateLimitCache other.rateLimitCache

theorem Alike.step {one other : SmsState} (alike : Alike one other) (event : SmsEvent) :
    one.decision limits validatePhoneNumber event =
        other.decision limits validatePhoneNumber event ∧
      Alike (one.step limits validatePhoneNumber event)
        (other.step limits validatePhoneNumber event) := by
  obtain ⟨oneCache, now, oneSent⟩ := one
  obtain ⟨otherCache, otherNow, otherSent⟩ := other
  obtain ⟨rfl, same⟩ := alike
  have later : SameAt (now + event.after) oneCache otherCache :=
    same.later (Nat.le_add_right now event.after)
  cases event with
  | cleanup after =>
    refine ⟨rfl, rfl, ?_⟩
    exact (cleanup_same _ _).trans (later.trans fun key => (cleanup_same _ _ key).symm)
  | send after raw ip =>
    cases isValid : validatePhoneNumber raw with
    | none =>
      simp only [decision, SmsState.step, isValid]
      exact ⟨rfl, rfl, later⟩
    | some phone =>
      have one := checkRateLimit_spec limits oneCache (now + after) phone ip
      have other := checkRateLimit_spec limits otherCache (now + after) phone ip
      simp only [SmsEvent.after] at later
      rw [later.refusal] at one
      simp only [decision, SmsState.step, isValid]
      refine ⟨congrArg some (one.1.trans other.1.symm), rfl, ?_⟩
      refine one.2.trans (SameAt.trans ?_ fun key => (other.2 key).symm)
      cases refusal limits otherCache (now + after) phone ip with
      | none => exact later.countSms
      | some entry => exact later

theorem Alike.decisions {one other : SmsState} (alike : Alike one other)
    (events : List SmsEvent) :
    one.decisions limits validatePhoneNumber events =
      other.decisions limits validatePhoneNumber events := by
  induction events generalizing one other with
  | nil => rfl
  | cons event rest ih => exact congrArg₂ List.cons (alike.step event).1 (ih (alike.step event).2)

theorem refused_alike (state : SmsState) {event : SmsEvent}
    (isRefused : state.decision limits validatePhoneNumber event ≠ some .allowed) :
    Alike (state.step limits validatePhoneNumber event) (state.wait event.after) := by
  cases event with
  | cleanup after => exact ⟨rfl, cleanup_same _ _⟩
  | send after raw ip =>
    cases isValid : validatePhoneNumber raw with
    | none =>
      simp only [SmsState.step, isValid]
      exact ⟨rfl, fun _ => rfl⟩
    | some phone =>
      have spec := checkRateLimit_spec limits state.rateLimitCache (state.now + after) phone ip
      simp only [decision, isValid, Option.map_some, spec.1] at isRefused
      simp only [SmsState.step, isValid]
      refine ⟨rfl, ?_⟩
      revert isRefused spec
      cases refusal limits state.rateLimitCache (state.now + after) phone ip with
      | none => simp
      | some entry => exact fun spec _ => spec.2

def reached (limits : RateLimits) (validatePhoneNumber : String → Option String)
    (events : List SmsEvent) : SmsState :=
  Runs.run (step limits validatePhoneNumber) initial events

theorem reached_sound (limits : RateLimits) (validatePhoneNumber : String → Option String)
    (events : List SmsEvent) : Sound limits (reached limits validatePhoneNumber events) := by
  have keeps : ∀ state event, Sound limits state →
      Sound limits (state.step limits validatePhoneNumber event) :=
    fun state event sound => sound.step event
  have atStart : Sound limits initial := by
    refine ⟨fun key => ?_, fun phone => List.Pairwise.nil, ?_, ?_⟩
    · cases key <;> simp [initial, ofLog, timesTo, timesFrom, window]
    · intro phone entry isWindow
      cases isWindow
    · intro ip entry _ isWindow
      cases isWindow
  exact Runs.invariant (step limits validatePhoneNumber) keeps atStart events

theorem sms_within_limits (limits : RateLimits) (validatePhoneNumber : String → Option String)
    (events : List SmsEvent) :
    let state := reached limits validatePhoneNumber events
    (∀ phone, (timesTo phone state.sent).Pairwise fun later earlier =>
      earlier + limits.cooldown ≤ later) ∧
    (∀ phone entry, window oneHour (timesTo phone state.sent) = some entry →
      (entry.count : ℚ) < limits.per_phone_per_hour + 1) ∧
    (∀ ip entry, ip ≠ "" → window oneDay (timesFrom ip state.sent) = some entry →
      (entry.count : ℚ) < limits.per_ip_per_day + 1) ∧
    ∀ event later, state.decision limits validatePhoneNumber event ≠ some .allowed →
      (state.step limits validatePhoneNumber event).decisions limits validatePhoneNumber later =
        (state.wait event.after).decisions limits validatePhoneNumber later := by
  have sound := reached_sound limits validatePhoneNumber events
  exact ⟨sound.spaced, sound.to_phone, sound.from_ip, fun event later isRefused =>
    (refused_alike _ isRefused).decisions later⟩

def twoAndAHalf : RateLimits where
  per_phone_per_hour := 5 / 2
  per_ip_per_day := 10
  cooldown_seconds := 60
  phone_pos := by decide +kernel
  ip_pos := by decide +kernel
  cooldown_pos := by decide +kernel

/-- A third text of the hour goes out where the limit is two and a half. -/
theorem third_of_hour :
    (∃ entry, window oneHour (timesTo "+15550100" (reached twoAndAHalf some
        (List.replicate 3 (.send 60000 "+15550100" none))).sent) = some entry ∧
      twoAndAHalf.per_phone_per_hour < entry.count) := by
  refine ⟨⟨3, 3660000⟩, ?_, ?_⟩ <;> decide +kernel

end SmsState

end ParakoId.Accounts
