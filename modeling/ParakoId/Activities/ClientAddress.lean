import ParakoId.Library.Addresses
import ParakoId.Library.Json

/-!
The address that activities, device matching and reputation checks take a request to come from.
-/

namespace ParakoId.Activities

open Url (Text isIP isIPv4)

inductive Family
  | ipv4
  | ipv6
  deriving DecidableEq

def familyOf (text : Text) : Option Family :=
  if isIPv4 text then some .ipv4 else if isIP text then some .ipv6 else none

def maxPrefix : Family → Nat
  | .ipv4 => 32
  | .ipv6 => 128

def dottedValue (text : Text) : Nat :=
  (text.splitOn '.').foldl (fun value octet => 256 * value + Url.digitsValue octet) 0

def groupValue (part : Text) : Nat :=
  part.foldl (fun value digit => 16 * value + Url.digitValue digit) 0

def groupValues : List Text → List Nat
  | [] => []
  | [part] =>
    if isIPv4 part then [dottedValue part / 65536, dottedValue part % 65536]
    else [groupValue part]
  | part :: rest => groupValue part :: groupValues rest

def groups (text : Text) : List Nat :=
  let address := text.takeWhile (· != '%')
  match Url.splitAtGap address with
  | none => groupValues (Url.partsOf address)
  | some (before, after) =>
    let left := groupValues (Url.partsOf before)
    let right := groupValues (Url.partsOf after)
    left ++ List.replicate (8 - left.length - right.length) 0 ++ right

def addressValue (text : Text) : Family → Nat
  | .ipv4 => dottedValue text
  | .ipv6 => (groups text).foldl (fun value group => 65536 * value + group) 0

/-- `BlockList.check` with one subnet. -/
def inSubnet (family : Family) (network : Text) (length : Nat) (address : Text) : Bool :=
  let hosts := 2 ^ (maxPrefix family - length)
  decide (addressValue address family / hosts = addressValue network family / hosts)

def trim (text : Text) : Text :=
  (text.dropWhile Text.isWhiteSpace).rdropWhile Text.isWhiteSpace

/-- `replace(/^::ffff:/, '')`. -/
def withoutMapping : Text → Text
  | ':' :: ':' :: 'f' :: 'f' :: 'f' :: 'f' :: ':' :: rest => rest
  | text => text

section
variable (stringToNumber : Text → Option JsNumber)

def isIPInRange (ip range : Text) : Bool :=
  let normalizedIP := withoutMapping ip
  let normalizedRange := withoutMapping range
  if '/' ∉ normalizedRange then
    isIP normalizedIP && isIP normalizedRange && decide (normalizedIP = normalizedRange)
  else match normalizedRange.splitOn '/' with
    | [rangeIP, prefixText] =>
      match familyOf normalizedIP, familyOf rangeIP, stringToNumber prefixText with
      | some ipFamily, some rangeFamily, some (.finite length) =>
        if ipFamily ≠ rangeFamily then false
        else if trim prefixText = [] ∨ length.den ≠ 1 ∨ length < 0 ∨
            maxPrefix ipFamily < length then false
        else inSubnet ipFamily rangeIP length.num.toNat normalizedIP
      | _, _, _ => false
    | _ => false

/-- The setting `trust proxy` of Express. -/
inductive TrustProxy
  | all
  | hops (count : Nat)
  | other

structure ProxyConfig where
  trusted_proxies : List Text
  trustProxy : TrustProxy

structure ForwardedRequest where
  remoteAddress : Option Text
  ip : Option Text
  forwardedFor : Option Text
  realIP : Option Text

def UNKNOWN : Text := ['u', 'n', 'k', 'n', 'o', 'w', 'n']

def truthy (text : Option Text) : Option Text := text.filter (· ≠ [])

def directIP (request : ForwardedRequest) : Text :=
  ((truthy request.remoteAddress).or (truthy request.ip)).getD UNKNOWN

def isFromTrustedProxy (config : ProxyConfig) (request : ForwardedRequest) : Bool :=
  if config.trusted_proxies = [] then
    match config.trustProxy with
    | .all => true
    | .hops count => decide (0 < count)
    | .other => false
  else config.trusted_proxies.any (isIPInRange stringToNumber (directIP request))

def firstEntry (forwardedFor : Text) : Text := trim (forwardedFor.takeWhile (· != ','))

def firstForwarded (request : ForwardedRequest) : Option Text :=
  (truthy request.forwardedFor).bind fun forwardedFor =>
    if firstEntry forwardedFor ≠ [] ∧ firstEntry forwardedFor ≠ UNKNOWN then
      some (firstEntry forwardedFor)
    else none

def extractClientIP (config : ProxyConfig) (request : ForwardedRequest) : Text :=
  if isFromTrustedProxy stringToNumber config request then
    match firstForwarded request with
    | some firstIP => firstIP
    | none =>
      match truthy request.realIP with
      | some realIP => if realIP ≠ UNKNOWN then trim realIP else directIP request
      | none => directIP request
  else directIP request

structure Supplied where
  forwardedFor : Option Text
  realIP : Option Text

structure Passage where
  peer : Text
  forwardedFor : Option Text

def pass (arriving : Passage) (proxy : Text) : Passage where
  peer := proxy
  forwardedFor := match arriving.forwardedFor with
    | none => some arriving.peer
    | some entries => some (entries ++ [',', ' '] ++ arriving.peer)

def arrival (client : Text) (proxies : List Text) (supplied : Supplied) : Passage :=
  proxies.foldl pass ⟨client, supplied.forwardedFor⟩

/-- `ip` is what Express makes of the request. -/
def requestFrom (client : Text) (proxies : List Text) (ip : Option Text) (supplied : Supplied) :
    ForwardedRequest where
  remoteAddress := some (arrival client proxies supplied).peer
  ip
  forwardedFor := (arrival client proxies supplied).forwardedFor
  realIP := supplied.realIP

def isTrustedProxy (config : ProxyConfig) (address : Text) : Bool :=
  config.trusted_proxies.any (isIPInRange stringToNumber address)

structure ArrivesThrough (config : ProxyConfig) (client : Text) (proxies : List Text) : Prop where
  addresses : ∀ address ∈ client :: proxies, isIP address = true
  ranges : config.trusted_proxies ≠ [] →
    (∀ proxy ∈ proxies, isTrustedProxy stringToNumber config proxy = true) ∧
      isTrustedProxy stringToNumber config client = false
  hops : config.trusted_proxies = [] → match config.trustProxy with
    | .all => False
    | .hops count => proxies.length = count
    | .other => proxies = []

def nearestUntrusted (config : ProxyConfig) (client : Text) (proxies : List Text) : Option Text :=
  let chain := (client :: proxies).reverse
  if config.trusted_proxies = [] then
    match config.trustProxy with
    | .all => none
    | .hops count => chain[count]?
    | .other => chain.head?
  else chain.find? fun address => !isTrustedProxy stringToNumber config address

end

section
variable {stringToNumber : Text → Option JsNumber} {config : ProxyConfig} {client : Text}
  {proxies : List Text}

theorem nearestUntrusted_client (arrives : ArrivesThrough stringToNumber config client proxies) :
    nearestUntrusted stringToNumber config client proxies = some client := by
  rw [nearestUntrusted]
  by_cases noRanges : config.trusted_proxies = []
  · have hops := arrives.hops noRanges
    rw [if_pos noRanges]
    cases trusts : config.trustProxy with
    | all => simp [trusts] at hops
    | hops count =>
      simp only [trusts] at hops
      simp [← hops]
    | other =>
      simp only [trusts] at hops
      simp [hops]
  · obtain ⟨trusted, untrusted⟩ := arrives.ranges noRanges
    rw [if_neg noRanges, List.reverse_cons, List.find?_append, List.find?_eq_none.mpr]
    · simp [untrusted]
    · intro proxy member
      simp [trusted proxy (List.mem_reverse.mp member)]

theorem isAddressCharacter_apart {character : Char}
    (isAddress : Url.isAddressCharacter character = true) :
    character ≠ ',' ∧ Text.isWhiteSpace character = false := by
  constructor
  · rintro rfl
    cases isAddress
  · by_contra isSpace
    simp only [Text.isWhiteSpace, Bool.not_eq_false, Bool.or_eq_true, Bool.and_eq_true,
      decide_eq_true_eq, List.mem_cons, List.not_mem_nil, or_false] at isSpace
    simp only [Url.isAddressCharacter, Bool.or_eq_true, Url.isAlpha_iff, Url.isDigit_toNat,
      List.contains_eq_mem, List.mem_cons, decide_eq_true_eq, List.not_mem_nil,
      or_false] at isAddress
    rcases isAddress with (bounds | bounds) | rfl | rfl | rfl | rfl
    · omega
    · omega
    all_goals revert isSpace; decide

theorem trim_none {text : Text} (kept : ∀ letter ∈ text, Text.isWhiteSpace letter = false) :
    trim text = text := by
  rw [trim, Text.dropWhile_none kept, Text.rdropWhile_none kept]

theorem firstEntry_address {address : Text} (isAddress : isIP address = true) :
    firstEntry address = address := by
  have apart : ∀ letter ∈ address, letter ≠ ',' ∧ Text.isWhiteSpace letter = false :=
    fun letter member => isAddressCharacter_apart (Url.isIP_characters isAddress member)
  rw [firstEntry, List.takeWhile_eq_self_iff.mpr]
  · exact trim_none fun letter member => (apart letter member).2
  · intro letter member
    simp [(apart letter member).1]

theorem address_nonempty {address : Text} (isAddress : isIP address = true) : address ≠ [] := by
  rintro rfl
  cases isAddress

theorem address_known {address : Text} (isAddress : isIP address = true) : address ≠ UNKNOWN := by
  rintro rfl
  revert isAddress
  decide +kernel

theorem firstEntry_append (entries later : Text) :
    firstEntry (entries ++ ',' :: later) = firstEntry entries := by
  rw [firstEntry, firstEntry, List.takeWhile_append]
  split
  next whole =>
    have same := (List.takeWhile_prefix fun letter => letter != ',').eq_of_length whole
    simp [same]
  next => rfl

def leadingEntry (passage : Passage) : Text :=
  firstEntry (passage.forwardedFor.getD passage.peer)

theorem leadingEntry_pass (arriving : Passage) (proxy : Text) :
    leadingEntry (pass arriving proxy) = leadingEntry arriving ∧
      (pass arriving proxy).forwardedFor.isSome = true := by
  rcases arriving with ⟨peer, _ | entries⟩
  · exact ⟨rfl, rfl⟩
  · refine ⟨?_, rfl⟩
    simp [leadingEntry, pass, firstEntry_append]

theorem leadingEntry_foldl (arriving : Passage) (proxies : List Text) :
    leadingEntry (proxies.foldl pass arriving) = leadingEntry arriving ∧
      (proxies ≠ [] → (proxies.foldl pass arriving).forwardedFor.isSome = true) := by
  induction proxies generalizing arriving with
  | nil => exact ⟨rfl, fun nonempty => (nonempty rfl).elim⟩
  | cons proxy rest ih =>
    obtain ⟨leads, present⟩ := ih (pass arriving proxy)
    refine ⟨leads.trans (leadingEntry_pass arriving proxy).1, fun _ => ?_⟩
    cases rest with
    | nil => exact (leadingEntry_pass arriving proxy).2
    | cons next others => exact present (by simp)

theorem peer_foldl (arriving : Passage) (proxies : List Text) :
    (proxies.foldl pass arriving).peer = proxies.getLastD arriving.peer := by
  induction proxies generalizing arriving with
  | nil => rfl
  | cons proxy rest ih =>
    rw [List.foldl_cons, ih]
    cases rest <;> rfl

theorem directIP_direct (isAddress : isIP client = true) (ip : Option Text) (supplied : Supplied) :
    directIP (requestFrom client [] ip supplied) = client := by
  simp [directIP, requestFrom, arrival, truthy, Option.filter, address_nonempty isAddress]

theorem directIP_proxied {earlier : List Text} {proxy : Text} (isAddress : isIP proxy = true)
    (ip : Option Text) (supplied : Supplied) :
    directIP (requestFrom client (earlier ++ [proxy]) ip supplied) = proxy := by
  have isPeer : (arrival client (earlier ++ [proxy]) supplied).peer = proxy := by
    rw [arrival, peer_foldl]
    simp
  simp [directIP, requestFrom, isPeer, truthy, Option.filter, address_nonempty isAddress]

theorem isFromTrustedProxy_direct (arrives : ArrivesThrough stringToNumber config client [])
    (ip : Option Text) (supplied : Supplied) :
    isFromTrustedProxy stringToNumber config (requestFrom client [] ip supplied) = false := by
  rw [isFromTrustedProxy, directIP_direct (arrives.addresses client (by simp))]
  by_cases noRanges : config.trusted_proxies = []
  · have hops := arrives.hops noRanges
    rw [if_pos noRanges]
    cases trusts : config.trustProxy with
    | all => simp [trusts] at hops
    | hops count =>
      simp only [trusts, List.length_nil] at hops
      simp [← hops]
    | other => rfl
  · rw [if_neg noRanges]
    exact (arrives.ranges noRanges).2

theorem isFromTrustedProxy_proxied
    (arrives : ArrivesThrough stringToNumber config client proxies) (proxied : proxies ≠ [])
    (ip : Option Text) (supplied : Supplied) :
    isFromTrustedProxy stringToNumber config (requestFrom client proxies ip supplied) = true := by
  obtain ⟨earlier, proxy, rfl⟩ := (List.eq_nil_or_concat' proxies).resolve_left proxied
  rw [isFromTrustedProxy, directIP_proxied (arrives.addresses proxy (by simp))]
  by_cases noRanges : config.trusted_proxies = []
  · have hops := arrives.hops noRanges
    rw [if_pos noRanges]
    cases trusts : config.trustProxy with
    | all => rfl
    | hops count =>
      simp only [trusts, List.length_append, List.length_singleton] at hops
      simp only [decide_eq_true_eq]
      omega
    | other => simp [trusts] at hops
  · rw [if_neg noRanges]
    exact (arrives.ranges noRanges).1 proxy (by simp)

theorem extractClientIP_direct (arrives : ArrivesThrough stringToNumber config client [])
    (ip : Option Text) (supplied : Supplied) :
    extractClientIP stringToNumber config (requestFrom client [] ip supplied) = client := by
  rw [extractClientIP, isFromTrustedProxy_direct arrives]
  exact directIP_direct (arrives.addresses client (by simp)) ip supplied

theorem extractClientIP_proxied (arrives : ArrivesThrough stringToNumber config client proxies)
    (proxied : proxies ≠ []) (ip : Option Text) {supplied : Supplied} {leading : Text}
    (leads : leadingEntry ⟨client, supplied.forwardedFor⟩ = leading) (nonempty : leading ≠ [])
    (known : leading ≠ UNKNOWN) :
    extractClientIP stringToNumber config (requestFrom client proxies ip supplied) = leading := by
  have run := leadingEntry_foldl ⟨client, supplied.forwardedFor⟩ proxies
  obtain ⟨entries, isHeader⟩ := Option.isSome_iff_exists.mp (run.2 proxied)
  have isFirst : firstEntry entries = leading := by
    have same := run.1
    rwa [leadingEntry, isHeader, Option.getD_some, leads] at same
  have present : entries ≠ [] := by
    rintro rfl
    exact nonempty isFirst.symm
  rw [extractClientIP, isFromTrustedProxy_proxied arrives proxied, if_pos rfl]
  simp [firstForwarded, requestFrom, arrival, isHeader, truthy, Option.filter, present, isFirst,
    nonempty, known]

/-- For every configuration and every request that arrives through proxies of that configuration:
what the client writes into the forwarded headers decides the address, and another one than the
nearest untrusted address can be returned, unless there is no proxy at all. A client that writes
no forwarded header is recognized. -/
theorem clientIP_unchosen_iff (arrives : ArrivesThrough stringToNumber config client proxies)
    (ip : Option Text) :
    ((∀ first second : Supplied,
        extractClientIP stringToNumber config (requestFrom client proxies ip first) =
          extractClientIP stringToNumber config (requestFrom client proxies ip second)) ↔
      proxies = []) ∧
    ((∀ supplied : Supplied,
        nearestUntrusted stringToNumber config client proxies =
          some (extractClientIP stringToNumber config (requestFrom client proxies ip supplied))) ↔
      proxies = []) ∧
    ∀ supplied : Supplied, supplied.forwardedFor = none →
      nearestUntrusted stringToNumber config client proxies =
        some (extractClientIP stringToNumber config (requestFrom client proxies ip supplied)) := by
  have isAddress := arrives.addresses client List.mem_cons_self
  have nearest := nearestUntrusted_client arrives
  have first (proxied : proxies ≠ []) :
      extractClientIP stringToNumber config (requestFrom client proxies ip ⟨some ['1'], none⟩) =
        ['1'] :=
    extractClientIP_proxied arrives proxied ip rfl (by simp) (by decide)
  have second (proxied : proxies ≠ []) :
      extractClientIP stringToNumber config (requestFrom client proxies ip ⟨some ['2'], none⟩) =
        ['2'] :=
    extractClientIP_proxied arrives proxied ip rfl (by simp) (by decide)
  refine ⟨⟨?_, ?_⟩, ⟨?_, ?_⟩, ?_⟩
  · intro same
    by_contra proxied
    have both := same ⟨some ['1'], none⟩ ⟨some ['2'], none⟩
    rw [first proxied, second proxied] at both
    cases both
  · rintro rfl one other
    rw [extractClientIP_direct arrives, extractClientIP_direct arrives]
  · intro recognized
    by_contra proxied
    have isFirst := recognized ⟨some ['1'], none⟩
    have isSecond := recognized ⟨some ['2'], none⟩
    rw [first proxied] at isFirst
    rw [second proxied, isFirst] at isSecond
    cases isSecond
  · rintro rfl supplied
    rw [extractClientIP_direct arrives, nearest]
  · intro supplied silent
    rw [nearest]
    by_cases direct : proxies = []
    · subst direct
      rw [extractClientIP_direct arrives]
    · have leads : leadingEntry ⟨client, supplied.forwardedFor⟩ = client := by
        rw [silent]
        exact firstEntry_address isAddress
      rw [extractClientIP_proxied arrives direct ip leads (address_nonempty isAddress)
        (address_known isAddress)]

def oneHop : ProxyConfig := ⟨[], .hops 1⟩

theorem oneHop_arrives : ArrivesThrough (fun _ => none) oneHop "203.0.113.7".toList
    ["10.0.0.1".toList] where
  addresses := by decide +kernel
  ranges := fun ranges => (ranges rfl).elim
  hops := fun _ => rfl

theorem clientIP_chosen :
    ArrivesThrough (fun _ => none) oneHop "203.0.113.7".toList ["10.0.0.1".toList] ∧
      nearestUntrusted (fun _ => none) oneHop "203.0.113.7".toList ["10.0.0.1".toList] =
        some "203.0.113.7".toList ∧
      extractClientIP (fun _ => none) oneHop (requestFrom "203.0.113.7".toList
        ["10.0.0.1".toList] none ⟨some "6.6.6.6".toList, none⟩) = "6.6.6.6".toList :=
  ⟨oneHop_arrives, by decide, by decide +kernel⟩

theorem oneHop_recognized :
    nearestUntrusted (fun _ => none) oneHop "203.0.113.7".toList ["10.0.0.1".toList] =
      some (extractClientIP (fun _ => none) oneHop (requestFrom "203.0.113.7".toList
        ["10.0.0.1".toList] none ⟨none, some "6.6.6.6".toList⟩)) :=
  (clientIP_unchosen_iff oneHop_arrives none).2.2 _ rfl

end

end ParakoId.Activities
