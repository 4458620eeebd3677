import Mathlib.Algebra.GroupWithZero.Nat
import Mathlib.Data.List.DropRight

/-! Texts: UTF-16 lengths, white space, characters dropped at the ends of a text, and digits. -/

namespace Text

def utf16Length (text : String) : Nat := (text.toList.map fun character =>
  if character.toNat ≤ 0xFFFF then 1 else 2).sum

def isWhiteSpace (letter : Char) : Bool :=
  letter.toNat ∈ [0x20, 0xA0, 0x1680, 0x2028, 0x2029, 0x202F, 0x205F, 0x3000, 0xFEFF] ||
    (0x9 ≤ letter.toNat && letter.toNat ≤ 0xD) || (0x2000 ≤ letter.toNat && letter.toNat ≤ 0x200A)

theorem toNat_toLower (character : Char) :
    character.toLower.toNat =
      if 65 ≤ character.toNat ∧ character.toNat ≤ 90 then character.toNat + 32
      else character.toNat := by
  delta Char.toLower
  split
  next upper =>
    obtain ⟨atLeast, atMost⟩ := upper
    rw [ge_iff_le, UInt32.le_iff_toNat_le] at atLeast
    rw [UInt32.le_iff_toNat_le] at atMost
    have bounds : 65 ≤ character.toNat ∧ character.toNat ≤ 90 := ⟨atLeast, atMost⟩
    have distance : ('a'.val - 'A'.val).toNat = 32 := rfl
    rw [if_pos bounds, Char.toNat, UInt32.toNat_add, distance]
    exact Nat.mod_eq_of_lt (by simp only [Char.toNat] at bounds ⊢; omega)
  next notUpper =>
    rw [if_neg]
    rintro ⟨atLeast, atMost⟩
    exact notUpper ⟨UInt32.le_iff_toNat_le.mpr atLeast, UInt32.le_iff_toNat_le.mpr atMost⟩

theorem toLower_toLower (character : Char) : character.toLower.toLower = character.toLower := by
  rw [← Char.toNat_inj, toNat_toLower, toNat_toLower]
  split_ifs <;> omega

variable {Letter : Type} {test : Letter → Bool}

variable {first text : List Letter}

theorem split_at_first {separator : Letter} {second rest other : List Letter}
    (firstWithout : separator ∉ first) (secondWithout : separator ∉ second)
    (same : first ++ separator :: rest = second ++ separator :: other) :
    first = second ∧ rest = other := by
  induction first generalizing second with
  | nil =>
    cases second with
    | nil => simpa using same
    | cons next more =>
      simp only [List.nil_append, List.cons_append, List.cons.injEq] at same
      simp [same.1] at secondWithout
  | cons head tail ih =>
    cases second with
    | nil =>
      simp only [List.nil_append, List.cons_append, List.cons.injEq] at same
      simp [same.1] at firstWithout
    | cons next more =>
      simp only [List.mem_cons, not_or] at firstWithout secondWithout
      simp only [List.cons_append, List.cons.injEq] at same
      obtain ⟨rfl, rfl⟩ := ih firstWithout.2 secondWithout.2 same.2
      simp [same.1]

theorem split_at_weight {weight : Letter → Nat} (positive : ∀ letter, 0 < weight letter)
    {second rest other : List Letter} (same : first ++ rest = second ++ other)
    (length : (first.map weight).sum = (second.map weight).sum) :
    first = second ∧ rest = other := by
  induction first generalizing second with
  | nil =>
    cases second with
    | nil => exact ⟨rfl, same⟩
    | cons next more =>
      have ahead := positive next
      simp only [List.map_nil, List.sum_nil, List.map_cons, List.sum_cons] at length
      omega
  | cons head tail ih =>
    cases second with
    | nil =>
      have ahead := positive head
      simp only [List.map_nil, List.sum_nil, List.map_cons, List.sum_cons] at length
      omega
    | cons next more =>
      simp only [List.cons_append, List.cons.injEq] at same
      obtain ⟨rfl, sameRest⟩ := same
      simp only [List.map_cons, List.sum_cons] at length
      obtain ⟨rfl, rfl⟩ := ih sameRest (by omega)
      exact ⟨rfl, rfl⟩

theorem forall_of_all {holds : Letter → Prop} [DecidablePred holds]
    (all : text.all (fun letter => decide (holds letter)) = true) :
    ∀ letter ∈ text, holds letter := by
  simpa using all

theorem dropWhile_none (kept : ∀ letter ∈ text, test letter = false) :
    text.dropWhile test = text := by
  cases text with
  | nil => rfl
  | cons first rest => exact List.dropWhile_cons_of_neg (by simp [kept first List.mem_cons_self])

theorem rdropWhile_none (kept : ∀ letter ∈ text, test letter = false) :
    text.rdropWhile test = text := by
  rw [List.rdropWhile_eq_self_iff]
  intro nonempty
  simp [kept _ (List.getLast_mem nonempty)]

theorem rdropWhile_append {rest : List Letter} (kept : rest.rdropWhile test ≠ []) :
    (first ++ rest).rdropWhile test = first ++ rest.rdropWhile test := by
  have notAll : (rest.reverse.dropWhile test).isEmpty = false := by
    by_contra empty
    apply kept
    simpa [List.rdropWhile] using empty
  simp [List.rdropWhile, List.dropWhile_append, notAll]

theorem rdropWhile_append_of_neg (first rest : List Letter) {last : Letter}
    (kept : test last = false) :
    (first ++ last :: rest).rdropWhile test = first ++ last :: rest.rdropWhile test := by
  have reversed : (first ++ last :: rest).reverse = rest.reverse ++ last :: first.reverse := by simp
  simp only [List.rdropWhile, reversed, List.dropWhile_append]
  split
  next allDropped =>
    have nothing : rest.reverse.dropWhile test = [] := by simpa using allDropped
    simp [List.dropWhile_cons_of_neg, kept, nothing]
  next => simp

theorem dropWhile_of_trimmed (trimmed : (text.dropWhile test).rdropWhile test = text) :
    text.dropWhile test = text := by
  have shorter := (List.rdropWhile_prefix test (text.dropWhile test)).length_le
  rw [trimmed] at shorter
  exact (List.dropWhile_suffix test).eq_of_length_le shorter

theorem trimmed_join {second : List Letter} (middle : List Letter)
    (firstTrimmed : (first.dropWhile test).rdropWhile test = first) (firstNonempty : first ≠ [])
    (secondTrimmed : (second.dropWhile test).rdropWhile test = second)
    (secondNonempty : second ≠ []) :
    ((first ++ middle ++ second).dropWhile test).rdropWhile test = first ++ middle ++ second := by
  have leading := dropWhile_of_trimmed firstTrimmed
  have trailing : second.rdropWhile test = second := by
    rwa [dropWhile_of_trimmed secondTrimmed] at secondTrimmed
  have kept : (first ++ middle ++ second).dropWhile test = first ++ middle ++ second := by
    rw [List.append_assoc, List.dropWhile_append, leading, if_neg]
    simpa using firstNonempty
  rw [kept, rdropWhile_append (by rwa [trailing]), trailing]

theorem trimmed_trimmed (text : List Letter) :
    (((text.dropWhile test).rdropWhile test).dropWhile test).rdropWhile test =
      (text.dropWhile test).rdropWhile test := by
  cases leading : text.dropWhile test with
  | nil => simp
  | cons first rest =>
    have kept : test first = false := by
      have head := List.dropWhile_get_zero_not test text (by simp [leading])
      simpa [leading] using head
    have trimmed := rdropWhile_append_of_neg [] rest kept
    simp only [List.nil_append] at trimmed
    rw [trimmed, List.dropWhile_cons_of_neg (by simp [kept]), ← trimmed,
      List.rdropWhile_idempotent]

theorem takeWhile_append_of_neg (first rest : List Letter) {stop : Letter}
    (stops : test stop = false) :
    (first ++ stop :: rest).takeWhile test = first.takeWhile test := by
  induction first with
  | nil => simp [stops]
  | cons letter others ih =>
    by_cases taken : test letter = true
    · simp [taken, ih]
    · simp [taken]

theorem toDigits_leading {number : Nat} (positive : 0 < number) :
    ∃ first rest, Nat.toDigits 10 number = first :: rest ∧ first ≠ '0' := by
  induction number using Nat.strongRecOn with
  | ind number ih =>
    rw [Nat.toDigits_eq_if (by decide)]
    split
    next small =>
      refine ⟨_, [], rfl, ?_⟩
      have nonzero : ∀ value < 10, 0 < value → Nat.digitChar value ≠ '0' := by decide
      exact nonzero number small positive
    next large =>
      obtain ⟨first, rest, isDigits, leading⟩ := ih (number / 10) (by omega) (by omega)
      exact ⟨first, _, by rw [isDigits, List.cons_append], leading⟩

end Text
