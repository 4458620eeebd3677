import ParakoId.Library.Domains

/-!
The case of its letters decides neither how a text is split nor whether it is an address. What
an address is made of.
-/

namespace Url

open Text (toNat_toLower)

theorem le_iff_toNat (first second : Char) : first ≤ second ↔ first.toNat ≤ second.toNat :=
  UInt32.le_iff_toNat_le

theorem isAlpha_iff (character : Char) : isAlpha character = true ↔
    97 ≤ character.toNat ∧ character.toNat ≤ 122 ∨
      65 ≤ character.toNat ∧ character.toNat ≤ 90 := by
  simp only [isAlpha, Bool.or_eq_true, decide_eq_true_eq, le_iff_toNat]
  rfl

theorem isDigit_toNat (character : Char) : isDigit character = true ↔
    48 ≤ character.toNat ∧ character.toNat ≤ 57 := by
  simp only [isDigit, decide_eq_true_eq, le_iff_toNat]
  rfl

theorem toLower_eq_iff {mark : Char} (notLetter : isAlpha mark = false) (character : Char) :
    character.toLower = mark ↔ character = mark := by
  rw [← Bool.not_eq_true, isAlpha_iff] at notLetter
  rw [← Char.toNat_inj, ← Char.toNat_inj, toNat_toLower]
  split <;> omega

theorem isAlpha_toLower (character : Char) : isAlpha character.toLower = isAlpha character := by
  rw [Bool.eq_iff_iff, isAlpha_iff, isAlpha_iff, toNat_toLower]
  split <;> omega

theorem isDigit_toLower (character : Char) : isDigit character.toLower = isDigit character := by
  rw [Bool.eq_iff_iff, isDigit_toNat, isDigit_toNat, toNat_toLower]
  split <;> omega

theorem digitValue_toLower (character : Char) :
    digitValue character.toLower = digitValue character := by
  have small (digit : Char) :
      ('a' ≤ digit ∧ digit ≤ 'f') ↔ 97 ≤ digit.toNat ∧ digit.toNat ≤ 102 := by
    simp only [le_iff_toNat]
    rfl
  have large (digit : Char) :
      ('A' ≤ digit ∧ digit ≤ 'F') ↔ 65 ≤ digit.toNat ∧ digit.toNat ≤ 70 := by
    simp only [le_iff_toNat]
    rfl
  simp only [digitValue, decide_eq_true_eq, small, large, isDigit_toLower, isDigit_toNat,
    toNat_toLower]
  split_ifs <;> omega

theorem eq_of_lower {first second : Text}
    (letterless : ∀ character ∈ first, isAlpha character = false)
    (same : lower second = lower first) : second = first := by
  induction first generalizing second with
  | nil => exact List.map_eq_nil_iff.mp same
  | cons character rest ih =>
    cases second with
    | nil => cases same
    | cons other more =>
      simp only [lower, List.map_cons, List.cons.injEq] at same
      have notLetter := letterless character List.mem_cons_self
      have sameCharacter : other = character := by
        rw [← toLower_eq_iff notLetter, same.1, toLower_eq_iff notLetter]
      rw [sameCharacter, ih (fun later member => letterless later
        (List.mem_cons_of_mem character member)) same.2]

variable {character : Char}

theorem exists_otherCase (isLetter : isAlpha character = true) :
    ∃ other, other ≠ character ∧ other.toLower = character.toLower := by
  rw [isAlpha_iff] at isLetter
  by_cases upper : 65 ≤ character.toNat ∧ character.toNat ≤ 90
  · refine ⟨character.toLower, ?_, Text.toLower_toLower character⟩
    rw [ne_eq, ← Char.toNat_inj, toNat_toLower, if_pos upper]
    omega
  · have isSmall : 97 ≤ character.toNat ∧ character.toNat ≤ 122 := by omega
    have valid : (character.toNat - 32).isValidChar := .inl (by omega)
    have code : (Char.ofNat (character.toNat - 32)).toNat = character.toNat - 32 := by
      rw [Char.ofNat, dif_pos valid]
      rfl
    refine ⟨Char.ofNat (character.toNat - 32), ?_, ?_⟩
    · rw [ne_eq, ← Char.toNat_inj, code]
      omega
    · rw [← Char.toNat_inj, toNat_toLower, toNat_toLower, code, if_pos (by omega), if_neg upper]
      omega

theorem lower_digits {text : Text} (digits : ∀ character ∈ text, isDigit character = true) :
    lower text = text :=
  (List.map_congr_left fun character member => toLower_digit (digits character member)).trans
    (List.map_id text)

theorem isOctet_lower (part : Text) : isOctet (lower part) = isOctet part := by
  have same (digits : ∀ character ∈ part, isDigit character = true) :
      isOctet (lower part) = isOctet part := by rw [lower_digits digits]
  rw [Bool.eq_iff_iff]
  constructor
  · intro octet
    have digits : ∀ character ∈ part, isDigit character = true := by
      intro character member
      rw [← isDigit_toLower]
      exact (isOctet_digits octet).2 _ (List.mem_map_of_mem member)
    rwa [same digits] at octet
  · intro octet
    rwa [same (isOctet_digits octet).2]

theorem isGroup_lower (part : Text) : isGroup (lower part) = isGroup part := by
  simp only [isGroup, lower, List.length_map, List.all_map]
  congr 2
  funext digit
  rw [Function.comp_apply, digitValue_toLower]

theorem splitOn_lower {mark : Char} (notLetter : isAlpha mark = false) (text : Text) :
    (lower text).splitOn mark = (text.splitOn mark).map lower := by
  induction text with
  | nil => rfl
  | cons first rest ih =>
    have marks : (first.toLower == mark) = (first == mark) := by
      rw [Bool.eq_iff_iff, beq_iff_eq, beq_iff_eq, toLower_eq_iff notLetter]
    rw [lower] at ih
    rw [lower, List.map_cons, List.splitOn_cons_eq_if_modifyHead,
      List.splitOn_cons_eq_if_modifyHead, marks, ih]
    split
    next => rfl
    next => cases rest.splitOn mark <;> rfl

theorem isIPv4_lower (text : Text) : isIPv4 (lower text) = isIPv4 text := by
  have octets : isOctet ∘ lower = isOctet := funext isOctet_lower
  simp only [isIPv4, splitOn_lower (show isAlpha '.' = false by decide), List.length_map,
    List.all_map, octets]

theorem groupCount_lower (parts : List Text) :
    groupCount (parts.map lower) = groupCount parts := by
  induction parts with
  | nil => rfl
  | cons part rest ih =>
    cases rest with
    | nil => simp only [List.map_cons, List.map_nil, groupCount, isGroup_lower, isIPv4_lower]
    | cons next more =>
      simp only [List.map_cons, groupCount, isGroup_lower] at ih ⊢
      rw [ih]

theorem splitAtGap_lower (text : Text) :
    splitAtGap (lower text) = (splitAtGap text).map (Prod.map lower lower) := by
  fun_induction splitAtGap text with
  | case1 rest => rfl
  | case2 character rest notGap ih =>
    have lowered : splitAtGap (character.toLower :: lower rest) =
        (splitAtGap (lower rest)).map (Prod.map (character.toLower :: ·) id) := by
      rw [splitAtGap]
      · rfl
      intro after isColon isRest
      rw [toLower_eq_iff (by decide)] at isColon
      cases rest with
      | nil => cases isRest
      | cons next more =>
        simp only [lower, List.map_cons, List.cons.injEq,
          toLower_eq_iff (show isAlpha ':' = false by decide)] at isRest
        exact notGap more isColon (by rw [isRest.1])
    rw [lower, List.map_cons]
    rw [lower] at lowered ih
    rw [lowered, ih, Option.map_map, Option.map_map]
    rfl
  | case3 => rfl

theorem partsOf_lower (text : Text) : partsOf (lower text) = (partsOf text).map lower := by
  cases text with
  | nil => rfl
  | cons first rest => exact splitOn_lower (by decide) (first :: rest)

theorem isIPv6_lower (text : Text) : isIPv6 (lower text) = isIPv6 text := by
  have stops : (fun character : Char => character != '%') ∘ Char.toLower =
      fun character => character != '%' := by
    funext character
    rw [Function.comp_apply, Bool.eq_iff_iff, bne_iff_ne, bne_iff_ne, ne_eq, ne_eq,
      toLower_eq_iff (by decide)]
  have addressPart : (lower text).takeWhile (· != '%') = lower (text.takeWhile (· != '%')) := by
    rw [lower, List.takeWhile_map, stops, lower]
  have zonePart : (lower text).dropWhile (· != '%') = lower (text.dropWhile (· != '%')) := by
    rw [lower, List.dropWhile_map, stops, lower]
  have colon : ∀ address, ':' ∈ lower address ↔ ':' ∈ address := by
    intro address
    rw [lower, List.mem_map]
    constructor
    · rintro ⟨character, member, isColon⟩
      rwa [← (toLower_eq_iff (by decide) character).mp isColon]
    · intro member
      exact ⟨':', member, rfl⟩
  have isIPv4Part : isIPv4 ∘ lower = isIPv4 := funext isIPv4_lower
  have ofZone : (fun character => isAlpha character || isDigit character ||
      ['-', '.', ':'].contains character) ∘ Char.toLower = fun character =>
      isAlpha character || isDigit character || ['-', '.', ':'].contains character := by
    funext character
    simp only [Function.comp_apply, isAlpha_toLower, isDigit_toLower, List.contains_eq_mem,
      List.mem_cons, List.not_mem_nil, or_false,
      toLower_eq_iff (show isAlpha '-' = false by decide),
      toLower_eq_iff (show isAlpha '.' = false by decide),
      toLower_eq_iff (show isAlpha ':' = false by decide)]
  simp only [isIPv6, addressPart, zonePart, colon]
  congr 1
  · congr 1
    cases text.dropWhile (· != '%') with
    | nil => rfl
    | cons mark name =>
      simp only [lower, List.map_cons, List.all_map, ofZone]
      cases name <;> rfl
  · generalize text.takeWhile (· != '%') = address
    rw [splitAtGap_lower]
    cases splitAtGap address with
    | none => simp only [Option.map_none, partsOf_lower, groupCount_lower]
    | some sides =>
      obtain ⟨before, after⟩ := sides
      simp only [Option.map_some, Prod.map_apply, partsOf_lower, groupCount_lower, List.any_map,
        isIPv4Part]

theorem isIP_lower (text : Text) : isIP (lower text) = isIP text := by
  rw [isIP, isIP, isIPv4_lower, isIPv6_lower]

theorem groupCount_characters {parts : List Text} {count : Nat}
    (counted : groupCount parts = some count) {part : Text} (isPart : part ∈ parts)
    (member : character ∈ part) : character = '.' ∨ digitValue character < 16 := by
  have inGroup (fits : isGroup part = true) : digitValue character < 16 := by
    simp only [isGroup, Bool.and_eq_true, List.all_eq_true, decide_eq_true_eq] at fits
    exact fits.2 character member
  fun_induction groupCount parts generalizing count with
  | case1 => cases isPart
  | case2 only fits =>
    obtain rfl := List.mem_singleton.mp isPart
    exact .inr (inGroup fits)
  | case3 only notGroup dotted =>
    obtain rfl := List.mem_singleton.mp isPart
    rcases isIPv4_characters dotted member with isDot | digit
    · exact .inl isDot
    · right
      have bounds := (isDigit_toNat character).mp digit
      rw [digitValue, if_pos digit]
      omega
  | case4 => cases counted
  | case5 first rest more fits ih =>
    rcases List.mem_cons.mp isPart with rfl | inRest
    · exact .inr (inGroup fits)
    · obtain ⟨behind, isCounted, _⟩ := Option.map_eq_some_iff.mp counted
      exact ih isCounted inRest
  | case6 => cases counted

theorem partsOf_characters {text : Text} {count : Nat}
    (counted : groupCount (partsOf text) = some count) (member : character ∈ text) :
    character = ':' ∨ character = '.' ∨ digitValue character < 16 := by
  cases text with
  | nil => cases member
  | cons first rest =>
    rcases mem_splitOn ':' member with isColon | ⟨part, isPart, inPart⟩
    · exact .inl isColon
    · exact .inr (groupCount_characters counted isPart inPart)

theorem splitAtGap_some {text before after : Text}
    (isSplit : splitAtGap text = some (before, after)) :
    text = before ++ ':' :: ':' :: after := by
  fun_induction splitAtGap text generalizing before with
  | case1 rest =>
    cases isSplit
    rfl
  | case2 character rest notGap ih =>
    obtain ⟨sides, inRest, same⟩ := Option.map_eq_some_iff.mp isSplit
    cases same
    rw [ih inRest, List.cons_append]
  | case3 => cases isSplit

def isAddressCharacter (character : Char) : Bool :=
  isAlpha character || isDigit character || ['-', '.', ':', '%'].contains character

theorem isAddressCharacter_of_digitValue (digit : digitValue character < 16) :
    isAddressCharacter character = true := by
  by_contra notAddress
  simp only [isAddressCharacter, Bool.or_eq_true, not_or, Bool.not_eq_true] at notAddress
  obtain ⟨⟨notAlpha, notDigit⟩, _⟩ := notAddress
  have small : ¬('a' ≤ character ∧ character ≤ 'f') := by
    rintro ⟨lower, upper⟩
    have within : 'a' ≤ character ∧ character ≤ 'z' :=
      ⟨lower, Char.le_trans upper (show 'f' ≤ 'z' by decide)⟩
    simp [isAlpha, within] at notAlpha
  have large : ¬('A' ≤ character ∧ character ≤ 'F') := by
    rintro ⟨lower, upper⟩
    have within : 'A' ≤ character ∧ character ≤ 'Z' :=
      ⟨lower, Char.le_trans upper (show 'F' ≤ 'Z' by decide)⟩
    simp [isAlpha, within] at notAlpha
  simp [digitValue, notDigit, small, large] at digit

theorem isIPv6_characters {text : Text} (address : isIPv6 text = true)
    (member : character ∈ text) : isAddressCharacter character = true := by
  have ofGroup : character = ':' ∨ character = '.' ∨ digitValue character < 16 →
      isAddressCharacter character = true := by
    rintro (rfl | rfl | digit)
    · decide
    · decide
    · exact isAddressCharacter_of_digitValue digit
  simp only [isIPv6, Bool.and_eq_true] at address
  obtain ⟨⟨zoneFits, _⟩, groups⟩ := address
  rw [← List.takeWhile_append_dropWhile (p := (· != '%')) (l := text)] at member
  rcases List.mem_append.mp member with inAddress | inZone
  · apply ofGroup
    generalize text.takeWhile (· != '%') = numbers at groups inAddress
    split at groups
    · exact partsOf_characters (by simpa using groups) inAddress
    · rename_i before after isSplit
      split at groups
      · rename_i left right countedLeft countedRight
        rw [splitAtGap_some isSplit] at inAddress
        rcases List.mem_append.mp inAddress with inBefore | inAfter
        · exact partsOf_characters countedLeft inBefore
        · simp only [List.mem_cons] at inAfter
          rcases inAfter with isColon | isColon | inAfter
          · exact .inl isColon
          · exact .inl isColon
          · exact partsOf_characters countedRight inAfter
      · cases groups
  · generalize zone : text.dropWhile (· != '%') = name at zoneFits inZone
    cases name with
    | nil => cases inZone
    | cons mark name =>
      have isMark : mark = '%' := by
        have stops := List.head?_dropWhile_not (p := (· != '%')) (l := text)
        simpa [zone] using stops
      simp only [Bool.and_eq_true, List.all_eq_true] at zoneFits
      rcases List.mem_cons.mp inZone with same | inName
      · rw [same, isMark]
        decide
      · have fits := zoneFits.2 character inName
        simp only [isAddressCharacter, Bool.or_eq_true, List.contains_eq_mem, List.mem_cons,
          decide_eq_true_eq] at fits ⊢
        tauto

theorem isIP_characters {text : Text} (address : isIP text = true) (member : character ∈ text) :
    isAddressCharacter character = true := by
  rw [isIP, Bool.or_eq_true] at address
  rcases address with isIPv4 | isIPv6
  · rcases isIPv4_characters isIPv4 member with rfl | digit
    · decide
    · simp [isAddressCharacter, digit]
  · exact isIPv6_characters isIPv6 member

end Url
