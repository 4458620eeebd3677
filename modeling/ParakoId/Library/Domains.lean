import ParakoId.Library.Url

/-!
One label in front of a host: what is left of the host's own labels, port and credentials,
and when the domain that comes out is an address.
-/

namespace Url

def LABEL_CHARACTERS : Text :=
  ['a', 'b', 'c', 'd', 'e', 'f', 'g', 'h', 'i', 'j', 'k', 'l', 'm', 'n', 'o', 'p', 'q', 'r', 's',
    't', 'u', 'v', 'w', 'x', 'y', 'z', '0', '1', '2', '3', '4', '5', '6', '7', '8', '9', '_', '-']

structure IsLabel (label : Text) : Prop where
  nonempty : label ≠ []
  characters : ∀ character ∈ label, character ∈ LABEL_CHARACTERS

theorem lower_lower (text : Text) : lower (lower text) = lower text := by
  rw [lower, lower, List.map_map]
  exact List.map_congr_left fun character _ => Text.toLower_toLower character

variable {text : Text}

theorem lower_part {part : Text} (isPart : part <:+: lower text) : lower part = part := by
  refine (List.map_congr_left ?_).trans (List.map_id part)
  intro character member
  obtain ⟨original, _, rfl⟩ := List.mem_map.mp (isPart.subset member)
  exact Text.toLower_toLower original

theorem labels_append (first rest : Text) :
    labels (first ++ '.' :: rest) = labels first ++ labels rest :=
  List.splitOn_append_cons_self first rest

section Label

variable {label : Text} (isLabel : IsLabel label)
include isLabel

theorem label_free {test : Char → Bool}
    (free : ∀ character ∈ LABEL_CHARACTERS, test character = false) :
    ∀ character ∈ label, test character = false := fun character member =>
  free character (isLabel.characters character member)

theorem labels_label (rest : Text) : labels (label ++ '.' :: rest) = label :: labels rest := by
  have dotFree : '.' ∉ label := by
    intro member
    exact absurd (isLabel.characters '.' member) (by decide)
  exact List.splitOn_append_cons_self_of_not_mem dotFree rest

theorem lower_label : lower label = label := by
  have fixed : ∀ character ∈ LABEL_CHARACTERS, character.toLower = character :=
    Text.forall_of_all (by decide)
  calc lower label = label.map id :=
        List.map_congr_left fun character member => fixed character (isLabel.characters _ member)
    _ = label := List.map_id label

theorem withoutCredentials_label (authority : Text) :
    withoutCredentials (label ++ '.' :: authority) =
      if '@' ∈ authority then withoutCredentials authority else label ++ '.' :: authority := by
  have labelFree : ∀ character ∈ label.reverse, (character != '@') = true := by
    intro character member
    have free : ∀ character ∈ LABEL_CHARACTERS, (character != '@') = true :=
      Text.forall_of_all (by decide)
    exact free character (isLabel.characters character (List.mem_reverse.mp member))
  simp only [withoutCredentials, List.reverse_append, List.reverse_cons, List.append_assoc]
  by_cases credentials : '@' ∈ authority
  · obtain ⟨before, after, split⟩ := List.append_of_mem (List.mem_reverse.mpr credentials)
    rw [if_pos credentials, split]
    congr 1
    have taken : ∀ rest : Text, (before ++ '@' :: rest).takeWhile (· != '@') =
        before.takeWhile (· != '@') := fun rest =>
      Text.takeWhile_append_of_neg before rest (by decide)
    rw [List.append_assoc, List.cons_append, taken, taken]
  · rw [if_neg credentials, List.takeWhile_append_of_pos, List.singleton_append,
      List.takeWhile_cons_of_pos (by decide), ← List.append_nil label.reverse,
      List.takeWhile_append_of_pos labelFree]
    · simp
    · intro character member
      simp only [bne_iff_ne, ne_eq]
      rintro rfl
      exact credentials (List.mem_reverse.mp member)

omit isLabel in
theorem splitPort_append {first : Text}
    (free : ∀ character ∈ first, ([':', '[', ']'].contains character) = false) (rest : Text) :
    splitPort false (first ++ rest) =
      (first ++ (splitPort false rest).1, (splitPort false rest).2) := by
  induction first with
  | nil => rfl
  | cons character others ih =>
    have characterFree := free character List.mem_cons_self
    simp only [List.contains_eq_mem, List.mem_cons, List.not_mem_nil, or_false,
      decide_eq_false_iff_not, not_or] at characterFree
    obtain ⟨notColon, notOpen, notClose⟩ := characterFree
    have othersFree := ih fun other member => free other (List.mem_cons_of_mem _ member)
    simp [splitPort, notColon, notOpen, notClose, othersFree]

theorem splitPort_label (authority : Text) :
    splitPort false (label ++ '.' :: authority) =
      (label ++ '.' :: (splitPort false authority).1, (splitPort false authority).2) := by
  have free : ∀ character ∈ label ++ ['.'], ([':', '[', ']'].contains character) = false := by
    intro character member
    rcases List.mem_append.mp member with inLabel | isDot
    · exact label_free isLabel (Text.forall_of_all (by decide)) character inLabel
    · rw [List.mem_singleton.mp isDot]
      decide
  have whole := splitPort_append free authority
  simpa only [List.append_assoc, List.singleton_append] using whole

theorem parseHost_label (tables : Tables) (host : Text) :
    parseHost tables (label ++ '.' :: host) = parseDomain tables (label ++ '.' :: host) := by
  cases label with
  | nil => exact absurd rfl isLabel.nonempty
  | cons first others =>
    have notOpen : first ≠ '[' := by
      rintro rfl
      exact absurd (isLabel.characters '[' List.mem_cons_self) (by decide)
    simp only [List.cons_append, parseHost]
    split
    next opened =>
      injection opened with isOpen
      exact absurd isOpen notOpen
    next => rfl

theorem hostOfAuthority_label (tables : Tables) (authority : Text) :
    hostOfAuthority tables (label ++ '.' :: authority) =
      if '@' ∈ authority then hostOfAuthority tables authority
      else if isPort (splitPort false authority).2 = false then none
      else parseDomain tables (label ++ '.' :: (splitPort false authority).1) := by
  simp only [hostOfAuthority, withoutCredentials_label isLabel]
  by_cases credentials : '@' ∈ authority
  · simp only [credentials, if_true]
  · have hostNonempty : label ++ '.' :: (splitPort false authority).1 ≠ [] := by simp
    simp only [credentials, if_false, splitPort_label isLabel, hostNonempty, false_or,
      parseHost_label isLabel]

theorem endsInNumber_label {base : Text} (twoLabels : 2 ≤ (labels base).length) :
    endsInNumber (label ++ '.' :: base) = endsInNumber base := by
  have rootKept : withoutRoot (label :: labels base) = label :: withoutRoot (labels base) := by
    have nonempty : labels base ≠ [] := List.splitOn_ne_nil '.' base
    have longer : 1 < (label :: labels base).length := by simp; omega
    have long : 1 < (labels base).length := by omega
    simp only [withoutRoot, List.getLast?_cons_of_ne_nil nonempty, longer, long, and_true]
    split
    · rw [List.dropLast_cons_of_ne_nil nonempty]
    · rfl
  have rest : withoutRoot (labels base) ≠ [] := by
    simp only [withoutRoot]
    split
    · intro empty
      have shorter := congrArg List.length empty
      simp at shorter
      omega
    · exact List.splitOn_ne_nil '.' base
  simp only [endsInNumber, labels_label isLabel, rootKept, List.getLast?_cons_of_ne_nil rest]

end Label

structure Tables.MapsLabels (tables : Tables) : Prop where
  lowered : ∀ {host domain : Text},
    tables.domainToASCII host = some domain → lower domain = domain
  labelFirst : ∀ {label host domain : Text}, IsLabel label →
    tables.domainToASCII (label ++ '.' :: host) = some domain →
      ∃ base, Url.domainToASCII tables host = some base ∧ domain = label ++ '.' :: base

section Mapping

variable {tables : Tables} (mapsLabels : tables.MapsLabels)
include mapsLabels

theorem lower_domainToASCII {host domain : Text}
    (mapped : domainToASCII tables host = some domain) : lower domain = domain := by
  rw [domainToASCII] at mapped
  split at mapped
  · injection mapped with isLower
    rw [← isLower, lower_lower]
  · exact mapsLabels.lowered mapped

theorem domainToASCII_label {label : Text} (isLabel : IsLabel label) {host domain : Text}
    (mapped : domainToASCII tables (label ++ '.' :: host) = some domain) :
    ∃ base, domainToASCII tables host = some base ∧ domain = label ++ '.' :: base := by
  rw [domainToASCII] at mapped
  split at mapped
  next plain =>
    have hostPlain : isPlain host = true := by
      simp only [isPlain, labels_label isLabel, Bool.and_eq_true, List.all_eq_true] at plain ⊢
      exact ⟨fun character member => plain.1 character (by simp [member]),
        fun part member => plain.2 part (List.mem_cons_of_mem _ member)⟩
    refine ⟨lower host, by rw [domainToASCII, if_pos hostPlain], ?_⟩
    injection mapped with isLower
    have dot : Char.toLower '.' = '.' := by decide
    rw [← isLower, lower, List.map_append, List.map_cons, dot, ← lower, lower_label isLabel, lower]
  next => exact mapsLabels.labelFirst isLabel mapped

end Mapping

theorem isDigit_iff (character : Char) : isDigit character = true ↔ character.isDigit = true := by
  simp only [isDigit, Char.isDigit, decide_eq_true_eq, Bool.and_eq_true]
  exact Iff.rfl

theorem toLower_digit {character : Char} (digit : isDigit character = true) :
    character.toLower = character := by
  have bound : character ≤ '9' := by
    simp only [isDigit, decide_eq_true_eq] at digit
    exact digit.2
  refine dif_neg ?_
  rintro ⟨upper, _⟩
  exact absurd (UInt32.le_trans upper bound) (by decide)

theorem isOctet_digits {part : Text} (octet : isOctet part = true) :
    part ≠ [] ∧ ∀ character ∈ part, isDigit character = true := by
  simp only [isOctet, List.contains_eq_mem, List.mem_map, decide_eq_true_eq] at octet
  obtain ⟨value, _, rfl⟩ := octet
  refine ⟨Nat.toDigits_ne_nil, ?_⟩
  intro character member
  exact (isDigit_iff character).mpr (Nat.isDigit_of_mem_toDigits (by decide) (by decide) member)

theorem isIPv4_last (address : isIPv4 text = true) :
    ∃ earlier last, labels text = earlier ++ [last] ∧ earlier ≠ [] ∧ isOctet last = true := by
  simp only [isIPv4, Bool.and_eq_true, decide_eq_true_eq, List.all_eq_true] at address
  obtain ⟨four, octets⟩ := address
  have nonempty : labels text ≠ [] := List.splitOn_ne_nil '.' text
  refine ⟨(labels text).dropLast, (labels text).getLast nonempty,
    (List.dropLast_append_getLast nonempty).symm, ?_, octets _ (List.getLast_mem nonempty)⟩
  intro empty
  have shorter := congrArg List.length empty
  simp only [List.length_dropLast, List.length_nil, labels] at shorter
  omega

theorem endsInNumber_isIPv4 (address : isIPv4 text = true) :
    endsInNumber text = true ∧ endsInNumber (text ++ ['.']) = true := by
  obtain ⟨earlier, last, split, some, octet⟩ := isIPv4_last address
  obtain ⟨lastNonempty, digits⟩ := isOctet_digits octet
  have number : (last != [] && last.all isDigit) = true := by
    simp only [Bool.and_eq_true, bne_iff_ne, ne_eq, lastNonempty, not_false_eq_true, true_and,
      List.all_eq_true]
    exact digits
  have kept : withoutRoot (earlier ++ [last]) = earlier ++ [last] := by
    simp [withoutRoot, lastNonempty]
  have dropped : withoutRoot (earlier ++ [last, []]) = earlier ++ [last] := by
    simp [withoutRoot]
  constructor
  · simp [endsInNumber, split, kept, number]
  · have rooted : labels (text ++ ['.']) = earlier ++ [last, []] := by
      rw [labels_append, split, List.append_assoc]
      rfl
    simp [endsInNumber, rooted, dropped, number]

theorem isIPv6_colon (address : isIPv6 text = true) : ':' ∈ text := by
  simp only [isIPv6, Bool.and_eq_true, decide_eq_true_eq] at address
  exact (List.takeWhile_prefix _).subset address.1.2

theorem mem_splitOn (mark : Char) {character : Char} (member : character ∈ text) :
    character = mark ∨ ∃ part ∈ text.splitOn mark, character ∈ part := by
  induction text with
  | nil => cases member
  | cons first rest ih =>
    by_cases isMark : first = mark
    · have split : (first :: rest).splitOn mark = [] :: rest.splitOn mark := by
        simp [List.splitOn_cons_eq_if_modifyHead, isMark]
      rcases List.mem_cons.mp member with same | inRest
      · exact .inl (same.trans isMark)
      · rcases ih inRest with isMark | ⟨part, isPart, inPart⟩
        · exact .inl isMark
        · exact .inr ⟨part, by simp [split, isPart], inPart⟩
    · obtain ⟨head, tail, parts⟩ := List.exists_cons_of_ne_nil (List.splitOn_ne_nil mark rest)
      have split : (first :: rest).splitOn mark = (first :: head) :: tail := by
        simp [List.splitOn_cons_eq_if_modifyHead, isMark, parts]
      rcases List.mem_cons.mp member with same | inRest
      · exact .inr ⟨first :: head, by simp [split], by simp [same]⟩
      · rcases ih inRest with isMark | ⟨part, isPart, inPart⟩
        · exact .inl isMark
        · rw [parts] at isPart
          rcases List.mem_cons.mp isPart with isHead | isTail
          · exact .inr ⟨first :: head, by simp [split], by simp [← isHead, inPart]⟩
          · exact .inr ⟨part, by simp [split, isTail], inPart⟩

theorem isIPv4_characters (address : isIPv4 text = true) {character : Char}
    (member : character ∈ text) : character = '.' ∨ isDigit character = true := by
  simp only [isIPv4, Bool.and_eq_true, List.all_eq_true] at address
  rcases mem_splitOn '.' member with isDot | ⟨part, isPart, inPart⟩
  · exact .inl isDot
  · exact .inr ((isOctet_digits (address.2 part isPart)).2 character inPart)

theorem isIPv4_settled (address : isIPv4 text = true) :
    lower text = text ∧ text.getLast? ≠ some '.' := by
  obtain ⟨earlier, last, split, some, octet⟩ := isIPv4_last address
  constructor
  · have fixed : ∀ character ∈ text, character.toLower = id character := by
      intro character member
      rcases isIPv4_characters address member with isDot | digit
      · rw [isDot]
        decide
      · exact toLower_digit digit
    calc lower text = text.map id := List.map_congr_left fixed
      _ = text := List.map_id text
  · intro ends
    obtain ⟨before, isText⟩ := List.getLast?_eq_some_iff.mp ends
    have rooted : labels text = labels before ++ [[]] := by
      rw [isText, labels_append]
      rfl
    rw [rooted] at split
    have lastEmpty : last = [] := by
      have lasts := congrArg List.getLast? split
      simpa using lasts.symm
    exact (isOctet_digits octet).1 lastEmpty

theorem isIPv4_ipv4 {domain address : Text} (parsed : ipv4 domain = some address) :
    isIPv4 address = true := by
  have shape : ∃ value, address =
      ['.'].intercalate ((octets value).map fun octet => Nat.toDigits 10 octet) := by
    simp only [ipv4] at parsed
    split at parsed
    · cases parsed
    · split at parsed
      · cases parsed
      · obtain ⟨value, _, isAddress⟩ := Option.map_eq_some_iff.mp parsed
        exact ⟨value, isAddress.symm⟩
  obtain ⟨value, rfl⟩ := shape
  have small : ∀ octet ∈ octets value, octet < 256 := by
    intro octet member
    simp only [octets, List.mem_cons, List.not_mem_nil, or_false] at member
    rcases member with rfl | rfl | rfl | rfl <;> exact Nat.mod_lt _ (by decide)
  have octetParts : ∀ part ∈ (octets value).map fun octet => Nat.toDigits 10 octet,
      isOctet part = true := by
    intro part member
    obtain ⟨octet, isMember, rfl⟩ := List.mem_map.mp member
    simp only [isOctet, List.contains_eq_mem, List.mem_map, decide_eq_true_eq, List.mem_range]
    exact ⟨octet, small octet isMember, rfl⟩
  have dotFree : ∀ part ∈ (octets value).map fun octet => Nat.toDigits 10 octet, '.' ∉ part := by
    intro part member isDot
    have digit := (isOctet_digits (octetParts part member)).2 '.' isDot
    exact absurd digit (by decide)
  have split := List.splitOn_intercalate '.' dotFree (by simp [octets])
  simp only [isIPv4, split, Bool.and_eq_true, decide_eq_true_eq, List.all_eq_true]
  exact ⟨rfl, octetParts⟩

theorem isIP_domain {domain : Text} (valid : domain.any isForbidden = false)
    (numberless : endsInNumber domain = false) (same : text = domain ∨ text ++ ['.'] = domain) :
    isIP text = false := by
  have notIPv4 : isIPv4 text = false := by
    by_contra address
    obtain ⟨ends, endsRooted⟩ := endsInNumber_isIPv4 (by simpa using address : isIPv4 text = true)
    rcases same with rfl | rfl
    · simp [ends] at numberless
    · simp [endsRooted] at numberless
  have notIPv6 : isIPv6 text = false := by
    by_contra address
    have colon := isIPv6_colon (by simpa using address : isIPv6 text = true)
    have inDomain : ':' ∈ domain := by
      rcases same with rfl | rfl
      · exact colon
      · simp [colon]
    have forbidden : domain.any isForbidden = true :=
      List.any_eq_true.mpr ⟨':', inDomain, by decide⟩
    rw [forbidden] at valid
    cases valid
  simp [isIP, notIPv4, notIPv6]

end Url
