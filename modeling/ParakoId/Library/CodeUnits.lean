import Mathlib.Data.List.Basic

/-!
Strings as lists of UTF-16 code units, where surrogates need not pair up, and the characters
that the units spell.
-/

abbrev CodeUnits := List UInt16

namespace CodeUnits

def isHigh (codeUnit : UInt16) : Bool :=
  decide (0xD800 ≤ codeUnit.toNat) && decide (codeUnit.toNat < 0xDC00)

def isLow (codeUnit : UInt16) : Bool :=
  decide (0xDC00 ≤ codeUnit.toNat) && decide (codeUnit.toNat < 0xE000)

def ofChar (character : Char) : CodeUnits :=
  if character.toNat < 0x10000 then [UInt16.ofNat character.toNat]
  else
    [UInt16.ofNat (0xD800 + (character.toNat - 0x10000) / 0x400),
      UInt16.ofNat (0xDC00 + (character.toNat - 0x10000) % 0x400)]

def ofText (text : List Char) : CodeUnits := text.flatMap ofChar

def pairChar (high low : UInt16) : Char :=
  Char.ofNat (0x10000 + (high.toNat - 0xD800) * 0x400 + (low.toNat - 0xDC00))

theorem toNat_ofNat {number : Nat} (valid : number.isValidChar) :
    (Char.ofNat number).toNat = number := by
  have small : number < UInt32.size := by
    simp only [Nat.isValidChar] at valid
    simp only [UInt32.size]
    omega
  rw [Char.ofNat, dif_pos valid]
  rfl

theorem toNat_pairChar {high low : UInt16} (isHigh : isHigh high = true)
    (isLow : isLow low = true) :
    (pairChar high low).toNat =
      0x10000 + (high.toNat - 0xD800) * 0x400 + (low.toNat - 0xDC00) := by
  simp only [CodeUnits.isHigh, CodeUnits.isLow, Bool.and_eq_true, decide_eq_true_eq] at isHigh isLow
  apply toNat_ofNat
  simp only [Nat.isValidChar]
  omega

theorem ofChar_pairChar {high low : UInt16} (isHigh : isHigh high = true)
    (isLow : isLow low = true) : ofChar (pairChar high low) = [high, low] := by
  have number := toNat_pairChar isHigh isLow
  simp only [CodeUnits.isHigh, CodeUnits.isLow, Bool.and_eq_true, decide_eq_true_eq] at isHigh isLow
  have large : ¬(pairChar high low).toNat < 0x10000 := by omega
  have highNumber : 0xD800 + ((pairChar high low).toNat - 0x10000) / 0x400 = high.toNat := by omega
  have lowNumber : 0xDC00 + ((pairChar high low).toNat - 0x10000) % 0x400 = low.toNat := by omega
  rw [ofChar, if_neg large, highNumber, lowNumber, UInt16.ofNat_toNat, UInt16.ofNat_toNat]

theorem toNat_ofNat_toNat {codeUnit : UInt16} (notHigh : isHigh codeUnit = false)
    (notLow : isLow codeUnit = false) : (Char.ofNat codeUnit.toNat).toNat = codeUnit.toNat := by
  have bound := codeUnit.toNat_lt
  simp only [isHigh, isLow, Bool.and_eq_false_iff, decide_eq_false_iff_not] at notHigh notLow
  apply toNat_ofNat
  simp only [Nat.isValidChar]
  omega

theorem ofChar_ofNat {codeUnit : UInt16} (notHigh : isHigh codeUnit = false)
    (notLow : isLow codeUnit = false) : ofChar (Char.ofNat codeUnit.toNat) = [codeUnit] := by
  have bound := codeUnit.toNat_lt
  rw [ofChar, toNat_ofNat_toNat notHigh notLow, if_pos (by simpa using bound),
    UInt16.ofNat_toNat]

def unitChar (codeUnit : UInt16) : Char :=
  if isHigh codeUnit || isLow codeUnit then Char.ofNat 0xFFFD else Char.ofNat codeUnit.toNat

def text : CodeUnits → List Char
  | [] => []
  | [codeUnit] => [unitChar codeUnit]
  | first :: second :: rest =>
    if isHigh first && isLow second then pairChar first second :: text rest
    else unitChar first :: text (second :: rest)

theorem text_cons {codeUnit : UInt16} (notHigh : isHigh codeUnit = false) (rest : CodeUnits) :
    text (codeUnit :: rest) = unitChar codeUnit :: text rest := by
  cases rest with
  | nil => rfl
  | cons second others => simp [text, notHigh]

theorem text_ofChar (character : Char) (rest : CodeUnits) :
    text (ofChar character ++ rest) = character :: text rest := by
  have valid := character.valid
  simp only [UInt32.isValidChar, Nat.isValidChar] at valid
  have same : character.toNat = character.val.toNat := rfl
  have size : UInt16.size = 0x10000 := rfl
  by_cases small : character.toNat < 0x10000
  · have number : (UInt16.ofNat character.toNat).toNat = character.toNat :=
      UInt16.toNat_ofNat_of_lt' small
    have notHigh : isHigh (UInt16.ofNat character.toNat) = false := by
      simp only [isHigh, number, Bool.and_eq_false_iff, decide_eq_false_iff_not]
      omega
    have notLow : isLow (UInt16.ofNat character.toNat) = false := by
      simp only [isLow, number, Bool.and_eq_false_iff, decide_eq_false_iff_not]
      omega
    rw [ofChar, if_pos small, List.singleton_append, text_cons notHigh, unitChar, notHigh, notLow,
      number]
    exact congrArg (· :: text rest) (Char.ofNat_toNat character)
  · have highNumber : (UInt16.ofNat (0xD800 + (character.toNat - 0x10000) / 0x400)).toNat =
        0xD800 + (character.toNat - 0x10000) / 0x400 :=
      UInt16.toNat_ofNat_of_lt' (by omega)
    have lowNumber : (UInt16.ofNat (0xDC00 + (character.toNat - 0x10000) % 0x400)).toNat =
        0xDC00 + (character.toNat - 0x10000) % 0x400 :=
      UInt16.toNat_ofNat_of_lt' (by omega)
    have isPair : (isHigh (UInt16.ofNat (0xD800 + (character.toNat - 0x10000) / 0x400)) &&
        isLow (UInt16.ofNat (0xDC00 + (character.toNat - 0x10000) % 0x400))) = true := by
      simp only [isHigh, isLow, highNumber, lowNumber, Bool.and_eq_true, decide_eq_true_eq]
      omega
    have comesBack : pairChar (UInt16.ofNat (0xD800 + (character.toNat - 0x10000) / 0x400))
        (UInt16.ofNat (0xDC00 + (character.toNat - 0x10000) % 0x400)) = character := by
      rw [pairChar, highNumber, lowNumber]
      have number : 0x10000 + (0xD800 + (character.toNat - 0x10000) / 0x400 - 0xD800) * 0x400 +
          (0xDC00 + (character.toNat - 0x10000) % 0x400 - 0xDC00) = character.toNat := by
        omega
      rw [number]
      exact Char.ofNat_toNat character
    rw [ofChar, if_neg small, List.cons_append, List.singleton_append, text, if_pos isPair,
      comesBack]

theorem text_ofText (characters : List Char) : text (ofText characters) = characters := by
  induction characters with
  | nil => rfl
  | cons character rest ih =>
    have split : ofText (character :: rest) = ofChar character ++ ofText rest := rfl
    rw [split, text_ofChar, ih]

end CodeUnits
