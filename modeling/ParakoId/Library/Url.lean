import ParakoId.Library.Text

/-!
The host name of a URL, after the URL standard, what a reference resolves to, and the test for IP
addresses of the Node library.
-/

namespace Url

abbrev Text := List Char

structure Tables where
  domainToASCII : Text → Option Text
  ipv6 : Text → Option Text
  otherHostname : Text → Text → Option Text

def isDigit (character : Char) : Bool := decide ('0' ≤ character ∧ character ≤ '9')

def isAlpha (character : Char) : Bool :=
  decide ('a' ≤ character ∧ character ≤ 'z') || decide ('A' ≤ character ∧ character ≤ 'Z')

def lower (text : Text) : Text := text.map Char.toLower

def labels (host : Text) : List Text := host.splitOn '.'

def isControlOrSpace (character : Char) : Bool := decide (character.toNat ≤ 0x20)

def isNewline (character : Char) : Bool := ['\t', '\n', '\r'].contains character

def cleaned (text : Text) : Text :=
  ((text.dropWhile isControlOrSpace).rdropWhile isControlOrSpace).filter (!isNewline ·)

def isSchemeCharacter (character : Char) : Bool :=
  isAlpha character || isDigit character || ['+', '-', '.'].contains character

def splitScheme (text : Text) : Option (Text × Text) :=
  let scheme := text.takeWhile isSchemeCharacter
  match text.dropWhile isSchemeCharacter with
  | ':' :: rest => if scheme.head?.any isAlpha then some (lower scheme, rest) else none
  | _ => none

def SPECIAL_SCHEMES : List Text :=
  [['h', 't', 't', 'p'], ['h', 't', 't', 'p', 's'], ['w', 's'], ['w', 's', 's'], ['f', 't', 'p']]

def isSlash (character : Char) : Bool := ['/', '\\'].contains character

def endsAuthority (character : Char) : Bool := ['/', '\\', '?', '#'].contains character

def untilPath (text : Text) : Text := text.takeWhile (!endsAuthority ·)

def withoutCredentials (authority : Text) : Text :=
  (authority.reverse.takeWhile (· != '@')).reverse

def splitPort : Bool → Text → Text × Text
  | _, [] => ([], [])
  | inside, character :: rest =>
    if character = ':' ∧ inside = false then ([], character :: rest)
    else
      let nowInside := if character = '[' then true else if character = ']' then false else inside
      let (host, port) := splitPort nowInside rest
      (character :: host, port)

def digitsValue (digits : Text) : Nat :=
  digits.foldl (fun value digit => 10 * value + (digit.toNat - 48)) 0

def isPort : Text → Bool
  | [] => true
  | _ :: digits => digits.all isDigit && decide (digitsValue digits ≤ 65535)

def startsPunycode (label : Text) : Bool := ['x', 'n', '-', '-'].isPrefixOf (lower label)

def isPlain (host : Text) : Bool :=
  host.all (fun character => decide (character.toNat < 128) && character != '%') &&
    (labels host).all (!startsPunycode ·)

def domainToASCII (tables : Tables) (host : Text) : Option Text :=
  if isPlain host then some (lower host) else tables.domainToASCII host

def isForbidden (character : Char) : Bool :=
  decide (character.toNat ≤ 0x20) || character.toNat == 0x7F ||
    ['#', '/', ':', '<', '>', '?', '@', '[', '\\', ']', '^', '|', '%'].contains character

def digitValue (character : Char) : Nat :=
  if isDigit character then character.toNat - 48
  else if decide ('a' ≤ character ∧ character ≤ 'f') then character.toNat - 87
  else if decide ('A' ≤ character ∧ character ≤ 'F') then character.toNat - 55
  else 16

def numberIn (radix : Nat) (digits : Text) : Option Nat :=
  if digits.all (fun digit => decide (digitValue digit < radix)) then
    some (digits.foldl (fun value digit => radix * value + digitValue digit) 0)
  else none

def ipv4Number : Text → Option Nat
  | [] => none
  | '0' :: 'x' :: digits => numberIn 16 digits
  | '0' :: 'X' :: digits => numberIn 16 digits
  | '0' :: digit :: digits => numberIn 8 (digit :: digits)
  | digits => numberIn 10 digits

def withoutRoot (parts : List Text) : List Text :=
  if parts.getLast? = some [] ∧ 1 < parts.length then parts.dropLast else parts

def endsInNumber (domain : Text) : Bool :=
  match (withoutRoot (labels domain)).getLast? with
  | some last => (last != [] && last.all isDigit) || (ipv4Number last).isSome
  | none => false

def octets (address : Nat) : List Nat :=
  [address / 2 ^ 24 % 256, address / 2 ^ 16 % 256, address / 2 ^ 8 % 256, address % 256]

def ipv4Address (numbers : List Nat) : Option Nat :=
  match numbers.reverse with
  | [] => none
  | last :: earlier =>
    if earlier.any (255 < ·) ∨ 256 ^ (5 - numbers.length) ≤ last then none
    else some (last + (numbers.dropLast.zipIdx.map fun (number, index) =>
      number * 256 ^ (3 - index)).sum)

def ipv4 (domain : Text) : Option Text :=
  let parts := withoutRoot (labels domain)
  if 4 < parts.length then none
  else match parts.mapM ipv4Number with
    | none => none
    | some numbers => (ipv4Address numbers).map fun address =>
      ['.'].intercalate ((octets address).map fun octet => Nat.toDigits 10 octet)

def parseDomain (tables : Tables) (host : Text) : Option Text :=
  match domainToASCII tables host with
  | none => none
  | some domain =>
    if domain = [] ∨ domain.any isForbidden then none
    else if endsInNumber domain then ipv4 domain
    else some domain

def parseHost (tables : Tables) (host : Text) : Option Text :=
  match host with
  | '[' :: inner =>
    if inner.getLast? = some ']' then
      (tables.ipv6 inner.dropLast).map fun address => '[' :: address ++ [']']
    else none
  | _ => parseDomain tables host

def hostOfAuthority (tables : Tables) (authority : Text) : Option Text :=
  let (host, port) := splitPort false (withoutCredentials authority)
  if host = [] ∨ isPort port = false then none else parseHost tables host

/-- `new URL(text).hostname`; `none` where the constructor throws. -/
def hostname (tables : Tables) (text : Text) : Option Text :=
  match splitScheme (cleaned text) with
  | none => none
  | some (scheme, rest) =>
    if scheme ∈ SPECIAL_SCHEMES then
      hostOfAuthority tables (untilPath (rest.dropWhile isSlash))
    else tables.otherHostname scheme rest

/-! `isIP`. -/

def isOctet (part : Text) : Bool :=
  ((List.range 256).map fun octet => Nat.toDigits 10 octet).contains part

def isIPv4 (text : Text) : Bool :=
  let parts := text.splitOn '.'
  decide (parts.length = 4) && parts.all isOctet

def isGroup (part : Text) : Bool :=
  decide (1 ≤ part.length ∧ part.length ≤ 4) && part.all fun digit => decide (digitValue digit < 16)

def groupCount : List Text → Option Nat
  | [] => some 0
  | [part] => if isGroup part then some 1 else if isIPv4 part then some 2 else none
  | part :: rest => if isGroup part then (groupCount rest).map (· + 1) else none

def splitAtGap : Text → Option (Text × Text)
  | ':' :: ':' :: rest => some ([], rest)
  | character :: rest => (splitAtGap rest).map fun (before, after) => (character :: before, after)
  | [] => none

def partsOf (text : Text) : List Text := if text = [] then [] else text.splitOn ':'

def isIPv6 (text : Text) : Bool :=
  let address := text.takeWhile (· != '%')
  let zone := text.dropWhile (· != '%')
  let zoneFits := match zone with
    | [] => true
    | _ :: name => name != [] && name.all fun character =>
      isAlpha character || isDigit character || ['-', '.', ':'].contains character
  zoneFits && ':' ∈ address && match splitAtGap address with
    | none => groupCount (partsOf address) = some 8
    | some (before, after) =>
      match groupCount (partsOf before), groupCount (partsOf after) with
      | some left, some right => left + right ≤ 7 && !(partsOf before).any isIPv4
      | _, _ => false

def isIP (text : Text) : Bool := isIPv4 text || isIPv6 text

def tidied (text : Text) : Text := (text.rdropWhile isControlOrSpace).filter (!isNewline ·)

theorem isNewline_control {character : Char} (printable : isControlOrSpace character = false) :
    isNewline character = false := by
  by_contra newline
  simp only [isNewline, Bool.not_eq_false, List.contains_eq_mem, decide_eq_true_eq, List.mem_cons,
    List.not_mem_nil, or_false] at newline
  rcases newline with same | same | same
  · rw [same] at printable
    exact absurd printable (by decide)
  · rw [same] at printable
    exact absurd printable (by decide)
  · rw [same] at printable
    exact absurd printable (by decide)

theorem filter_printable {text : Text}
    (printable : ∀ character ∈ text, isControlOrSpace character = false) :
    text.filter (!isNewline ·) = text := by
  apply List.filter_eq_self.mpr
  intro character member
  simp [isNewline_control (printable character member)]

theorem tidied_append_of_neg (first : Text) {last : Char}
    (printable : isControlOrSpace last = false) (rest : Text) :
    tidied (first ++ last :: rest) = first.filter (!isNewline ·) ++ last :: tidied rest := by
  rw [tidied, Text.rdropWhile_append_of_neg first rest printable, List.filter_append,
    List.filter_cons_of_pos (by simp [isNewline_control printable]), tidied]

theorem tidied_append {first : Text} {last : Char}
    (printable : ∀ character ∈ first ++ [last], isControlOrSpace character = false) (rest : Text) :
    tidied (first ++ last :: rest) = first ++ last :: tidied rest := by
  rw [tidied_append_of_neg first (printable last (by simp)), filter_printable]
  intro character member
  exact printable character (by simp [member])

theorem cleaned_of_printable {first : Char} {text : Text}
    (printable : isControlOrSpace first = false) :
    cleaned (first :: text) = tidied (first :: text) := by
  rw [cleaned, tidied, List.dropWhile_cons_of_neg (by simp [printable])]

theorem splitScheme_append (first : Char) (scheme : Text) (startsAlpha : isAlpha first = true)
    (valid : ∀ character ∈ first :: scheme, isSchemeCharacter character = true) (rest : Text) :
    splitScheme ((first :: scheme) ++ ':' :: rest) = some (lower (first :: scheme), rest) := by
  have colon : isSchemeCharacter ':' = false := by decide
  have taken : ((first :: scheme) ++ ':' :: rest).takeWhile isSchemeCharacter = first :: scheme := by
    rw [List.takeWhile_append_of_pos valid]
    simp [colon]
  have dropped : ((first :: scheme) ++ ':' :: rest).dropWhile isSchemeCharacter = ':' :: rest := by
    rw [List.dropWhile_append_of_pos valid]
    simp [colon]
  simp only [splitScheme, taken, dropped]
  simp [startsAlpha]

def webProtocol (secure : Bool) : Text :=
  (if secure then ['h', 't', 't', 'p', 's'] else ['h', 't', 't', 'p']) ++ [':', '/', '/']

def webScheme (secure : Bool) : Text :=
  if secure then ['h', 't', 't', 'p', 's'] else ['h', 't', 't', 'p']

theorem splitScheme_web (secure : Bool) (rest : Text) :
    splitScheme (cleaned (webProtocol secure ++ rest)) =
      some (webScheme secure, '/' :: '/' :: tidied rest) := by
  cases secure with
  | false =>
    have clean : cleaned (webProtocol false ++ rest) =
        ['h', 't', 't', 'p', ':', '/'] ++ '/' :: tidied rest := by
      rw [← tidied_append (Text.forall_of_all (by decide))]
      exact cleaned_of_printable (by decide)
    rw [clean]
    exact splitScheme_append 'h' ['t', 't', 'p'] (by decide) (Text.forall_of_all (by decide)) _
  | true =>
    have clean : cleaned (webProtocol true ++ rest) =
        ['h', 't', 't', 'p', 's', ':', '/'] ++ '/' :: tidied rest := by
      rw [← tidied_append (Text.forall_of_all (by decide))]
      exact cleaned_of_printable (by decide)
    rw [clean]
    exact splitScheme_append 'h' ['t', 't', 'p', 's'] (by decide)
      (Text.forall_of_all (by decide)) _

theorem webScheme_special (secure : Bool) : webScheme secure ∈ SPECIAL_SCHEMES := by
  cases secure <;> decide

theorem hostname_web (tables : Tables) (secure : Bool) (rest : Text) :
    hostname tables (webProtocol secure ++ rest) =
      hostOfAuthority tables (untilPath ((tidied rest).dropWhile isSlash)) := by
  have slash : isSlash '/' = true := by decide
  simp [hostname, splitScheme_web, webScheme_special, slash]

theorem hostOfAuthority_nil (tables : Tables) : hostOfAuthority tables [] = none := by
  simp [hostOfAuthority, withoutCredentials, splitPort]

def HTTP : Text := ['h', 't', 't', 'p']

def HTTPS : Text := ['h', 't', 't', 'p', 's']

structure Location where
  scheme : Text
  host : Text
  -- `none` for the scheme's own port
  port : Option Nat
  deriving DecidableEq

def isWeb (location : Location) : Bool := [HTTP, HTTPS].contains location.scheme

def DEFAULT_PORTS : List (Text × Nat) :=
  [(HTTP, 80), (HTTPS, 443), (['w', 's'], 80), (['w', 's', 's'], 443), (['f', 't', 'p'], 21)]

def portOf (scheme authority : Text) : Option Nat :=
  match (splitPort false (withoutCredentials authority)).2 with
  | [] | [_] => none
  | _ :: digits =>
    (some (digitsValue digits)).filter fun port => !DEFAULT_PORTS.contains (scheme, port)

def authorityBehind (slashes : Text) : Text := untilPath (slashes.dropWhile isSlash)

def locate (tables : Tables) (scheme rest : Text) : Option Location :=
  (hostOfAuthority tables (authorityBehind rest)).map fun host =>
    ⟨scheme, host, portOf scheme (authorityBehind rest)⟩

/-- `new URL(text)`; `none` where the constructor throws. -/
def parse (tables : Tables) (text : Text) : Option Location :=
  match splitScheme (cleaned text) with
  | none => none
  | some (scheme, rest) =>
    if scheme ∈ SPECIAL_SCHEMES then locate tables scheme rest
    else (tables.otherHostname scheme rest).map fun host => ⟨scheme, host, none⟩

def hasTwoSlashes : Text → Bool
  | first :: second :: _ => isSlash first && isSlash second
  | _ => false

/-- `new URL(text, base)`. Only two slashes, of either kind, lead to another host without a
scheme, or with the scheme of the base. -/
def resolve (tables : Tables) (base : Location) (text : Text) : Option Location :=
  match splitScheme (cleaned text) with
  | some (scheme, rest) =>
    if scheme ∈ SPECIAL_SCHEMES then
      if scheme = base.scheme ∧ hasTwoSlashes rest = false then some base
      else locate tables scheme rest
    else (tables.otherHostname scheme rest).map fun host => ⟨scheme, host, none⟩
  | none =>
    if base.scheme ∈ SPECIAL_SCHEMES then
      if hasTwoSlashes (cleaned text) then locate tables base.scheme (cleaned text)
      else some base
    else
      (tables.otherHostname base.scheme (cleaned text)).map fun host => ⟨base.scheme, host, none⟩

theorem isWeb_special {location : Location} (web : isWeb location = true) :
    location.scheme ∈ SPECIAL_SCHEMES := by
  simp only [isWeb, List.contains_eq_mem, List.mem_cons, List.not_mem_nil, or_false,
    decide_eq_true_eq] at web
  rcases web with http | https
  · rw [http]
    exact .head _
  · rw [https]
    exact .tail _ (.head _)

theorem locate_scheme {tables : Tables} {scheme rest : Text} {location : Location}
    (located : locate tables scheme rest = some location) : location.scheme = scheme := by
  obtain ⟨host, _, rfl⟩ := Option.map_eq_some_iff.mp located
  rfl

theorem resolve_of_parse {tables : Tables} (base : Location) {text : Text} {location : Location}
    (parsed : parse tables text = some location) (web : isWeb location = true) :
    resolve tables base text = some location ∨
      resolve tables base text = some base ∧ base.scheme = location.scheme := by
  rw [parse] at parsed
  rw [resolve]
  cases split : splitScheme (cleaned text) with
  | none =>
    rw [split] at parsed
    cases parsed
  | some parts =>
    obtain ⟨scheme, rest⟩ := parts
    rw [split] at parsed
    simp only at parsed ⊢
    by_cases special : scheme ∈ SPECIAL_SCHEMES
    · rw [if_pos special] at parsed ⊢
      split
      next relative => exact .inr ⟨rfl, by rw [locate_scheme parsed, relative.1]⟩
      next => exact .inl parsed
    · rw [if_neg special] at parsed
      obtain ⟨host, _, rfl⟩ := Option.map_eq_some_iff.mp parsed
      exact absurd (isWeb_special web) special

theorem splitScheme_slash (rest : Text) : splitScheme ('/' :: rest) = none := by
  have slash : isSchemeCharacter '/' = false := by decide
  simp [splitScheme, slash]

theorem cleaned_slash (rest : Text) : cleaned ('/' :: rest) = '/' :: tidied rest := by
  have printable : isControlOrSpace '/' = false := by decide
  rw [cleaned_of_printable printable]
  exact tidied_append_of_neg [] printable rest

end Url
