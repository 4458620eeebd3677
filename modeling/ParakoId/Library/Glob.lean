import Mathlib.Data.List.Infix

/-! Glob patterns, as Redis matches keys against them. -/

namespace Glob

inductive Token
  | any
  | one
  | letter (letter : Char)
  | bracket (negated : Bool) (ranges : List (Char × Char))

def tokens : Option (Bool × List (Char × Char)) → List Char → List Token
  | none, [] => []
  | none, '*' :: rest => .any :: tokens none rest
  | none, '?' :: rest => .one :: tokens none rest
  | none, '[' :: '^' :: rest => tokens (some (true, [])) rest
  | none, '[' :: rest => tokens (some (false, [])) rest
  | none, '\\' :: letter :: rest => .letter letter :: tokens none rest
  | none, letter :: rest => .letter letter :: tokens none rest
  | some (negated, ranges), [] => [.bracket negated ranges]
  | some (negated, ranges), '\\' :: letter :: rest =>
    tokens (some (negated, (letter, letter) :: ranges)) rest
  | some (negated, ranges), ']' :: rest => .bracket negated ranges :: tokens none rest
  | some (negated, ranges), low :: '-' :: high :: rest =>
    tokens (some (negated, (low, high) :: ranges)) rest
  | some (negated, ranges), letter :: rest =>
    tokens (some (negated, (letter, letter) :: ranges)) rest

def isWithin (letter : Char) (range : Char × Char) : Bool :=
  decide (range.1 ≤ letter ∧ letter ≤ range.2) || decide (range.2 ≤ letter ∧ letter ≤ range.1)

def Token.accepts (letter : Char) : Token → Bool
  | .any | .one => true
  | .letter expected => letter == expected
  | .bracket negated ranges => ranges.any (isWithin letter) != negated

def matchTokens : List Token → List Char → Bool
  | [], text => text.isEmpty
  | .any :: rest, text => text.tails.any (matchTokens rest)
  | token :: rest, letter :: text => token.accepts letter && matchTokens rest text
  | _ :: _, [] => false

def matchesPattern (pattern text : List Char) : Bool := matchTokens (tokens none pattern) text

def isPlain (letter : Char) : Bool := !(['*', '?', '[', '\\'].contains letter)

theorem tokens_plain {literal : List Char} (plain : ∀ letter ∈ literal, isPlain letter = true)
    (rest : List Char) :
    tokens none (literal ++ rest) = literal.map Token.letter ++ tokens none rest := by
  induction literal with
  | nil => rfl
  | cons first others ih =>
    have first_plain := plain first List.mem_cons_self
    simp only [isPlain, List.contains_eq_mem, List.mem_cons, List.not_mem_nil, or_false,
      Bool.not_eq_true', decide_eq_false_iff_not, not_or] at first_plain
    obtain ⟨_, _, notBracket, notBackslash⟩ := first_plain
    have isLetter : tokens none (first :: (others ++ rest)) =
        .letter first :: tokens none (others ++ rest) := by
      rw [tokens.eq_def]
      simp [notBracket, notBackslash]
    rw [List.cons_append, isLetter, ih fun letter member =>
      plain letter (List.mem_cons_of_mem first member)]
    rfl

theorem matchTokens_letters (literal : List Char) (rest : List Token) (text : List Char) :
    matchTokens (literal.map Token.letter ++ rest) text = true ↔
      ∃ behind, text = literal ++ behind ∧ matchTokens rest behind = true := by
  induction literal generalizing text with
  | nil => simp
  | cons first others ih =>
    cases text with
    | nil => simp [matchTokens]
    | cons letter more =>
      simp only [List.map_cons, List.cons_append, matchTokens, Token.accepts,
        Bool.and_eq_true, beq_iff_eq, ih, List.cons.injEq]
      constructor
      · rintro ⟨isFirst, behind, isMore, matched⟩
        exact ⟨behind, ⟨isFirst, isMore⟩, matched⟩
      · rintro ⟨behind, ⟨isFirst, isMore⟩, matched⟩
        exact ⟨isFirst, behind, isMore, matched⟩

theorem matches_between {first last : List Char} (plain : ∀ letter ∈ first, isPlain letter = true)
    (lastPlain : ∀ letter ∈ last, isPlain letter = true) (text : List Char) :
    matchesPattern (first ++ '*' :: last) text = true ↔
      ∃ middle, text = first ++ (middle ++ last) := by
  have isLast : tokens none last = last.map Token.letter ++ [] := by
    have read := tokens_plain lastPlain []
    rwa [List.append_nil] at read
  have isStar : tokens none ('*' :: last) = .any :: tokens none last := rfl
  have ends : ∀ behind, matchTokens (last.map Token.letter ++ []) behind = true ↔ behind = last := by
    intro behind
    rw [matchTokens_letters]
    constructor
    · rintro ⟨more, rfl, nothing⟩
      rw [List.isEmpty_iff.mp nothing, List.append_nil]
    · rintro rfl
      exact ⟨[], (List.append_nil _).symm, rfl⟩
  rw [matchesPattern, tokens_plain plain, isStar, isLast, matchTokens_letters]
  constructor
  · rintro ⟨behind, rfl, matched⟩
    simp only [matchTokens, List.any_eq_true, List.mem_tails] at matched
    obtain ⟨_, ⟨middle, rfl⟩, matched⟩ := matched
    exact ⟨middle, by rw [(ends _).mp matched]⟩
  · rintro ⟨middle, rfl⟩
    refine ⟨middle ++ last, rfl, ?_⟩
    simp only [matchTokens, List.any_eq_true, List.mem_tails]
    exact ⟨last, List.suffix_append middle last, (ends last).mpr rfl⟩

end Glob
