import Mathlib.Data.List.DropRight

/-! The words of a text, which its separators keep apart, and texts joined from words. -/

namespace Text

section Words

variable {Letter : Type} {isSeparator : Letter → Bool}

def words (isSeparator : Letter → Bool) (text : List Letter) : List (List Letter) :=
  (text.splitOnP isSeparator).filter fun word => !word.isEmpty

@[simp] theorem words_nil : words isSeparator [] = [] := by simp [words]

variable {separator : Letter}

theorem words_append (first rest : List Letter) (separates : isSeparator separator = true) :
    words isSeparator (first ++ separator :: rest) =
      words isSeparator first ++ words isSeparator rest := by
  rw [words, List.splitOnP_append_cons first rest separates, List.filter_append]
  rfl

theorem words_separator (rest : List Letter) (separates : isSeparator separator = true) :
    words isSeparator (separator :: rest) = words isSeparator rest := by
  simpa using words_append [] rest separates

theorem words_unseparated {word : List Letter}
    (unseparated : ∀ letter ∈ word, isSeparator letter = false) :
    words isSeparator word = [word].filter fun word => !word.isEmpty := by
  rw [words, List.splitOnP_eq_singleton unseparated]

theorem words_dropWhile (text : List Letter) :
    words isSeparator (text.dropWhile isSeparator) = words isSeparator text := by
  induction text with
  | nil => rfl
  | cons letter rest ih =>
    cases separates : isSeparator letter with
    | true => rw [List.dropWhile_cons_of_pos separates, ih, words_separator rest separates]
    | false => rw [List.dropWhile_cons_of_neg (by simp [separates])]

theorem words_rdropWhile (text : List Letter) :
    words isSeparator (text.rdropWhile isSeparator) = words isSeparator text := by
  induction text using List.reverseRecOn with
  | nil => rfl
  | append_singleton rest letter ih =>
    cases separates : isSeparator letter with
    | true =>
      rw [List.rdropWhile_concat_pos _ _ _ separates, ih]
      simp [words_append rest [] separates]
    | false => rw [List.rdropWhile_concat_neg _ _ _ (by simp [separates])]

theorem flatten_words (text : List Letter) :
    (words isSeparator text).flatten = text.filter fun letter => !isSeparator letter := by
  rw [words, List.flatten_filter_not_isEmpty]
  induction text with
  | nil => rfl
  | cons letter rest ih =>
    rw [List.splitOnP_cons_eq_if_modifyHead, List.filter_cons]
    cases separates : isSeparator letter with
    | true => simpa using ih
    | false =>
      cases isSplit : rest.splitOnP isSeparator with
      | nil => exact absurd isSplit (List.splitOnP_ne_nil isSeparator rest)
      | cons word others =>
        rw [isSplit] at ih
        simpa using ih

theorem word_unseparated {text word : List Letter} (isWord : word ∈ words isSeparator text) :
    ∀ letter ∈ word, isSeparator letter = false := by
  intro letter member
  have isLetter : letter ∈ (words isSeparator text).flatten :=
    List.mem_flatten.mpr ⟨word, isWord, member⟩
  rw [flatten_words] at isLetter
  simpa using (List.mem_filter.mp isLetter).2

theorem words_intercalate {pieces : List (List Letter)}
    (separates : isSeparator separator = true)
    (unseparated : ∀ piece ∈ pieces, ∀ letter ∈ piece, isSeparator letter = false) :
    words isSeparator ([separator].intercalate pieces) =
      pieces.filter fun piece => !piece.isEmpty := by
  induction pieces with
  | nil => rfl
  | cons piece rest ih =>
    rw [List.forall_mem_cons] at unseparated
    cases rest with
    | nil => simpa using words_unseparated unseparated.1
    | cons next others =>
      rw [List.intercalate_cons_cons, List.append_assoc, List.singleton_append,
        words_append _ _ separates, words_unseparated unseparated.1, ih unseparated.2,
        ← List.filter_append, List.singleton_append]

theorem mem_intercalate {letter : Letter} {pieces : List (List Letter)}
    (member : letter ∈ [separator].intercalate pieces) :
    letter = separator ∨ ∃ piece ∈ pieces, letter ∈ piece := by
  induction pieces with
  | nil => simp at member
  | cons piece rest ih =>
    cases rest with
    | nil => exact .inr ⟨piece, List.mem_cons_self, by simpa using member⟩
    | cons next others =>
      rw [List.intercalate_cons_cons, List.append_assoc, List.mem_append,
        List.singleton_append, List.mem_cons] at member
      rcases member with first | separates | later
      · exact .inr ⟨piece, List.mem_cons_self, first⟩
      · exact .inl separates
      · exact (ih later).imp_right fun ⟨other, isPiece, inPiece⟩ =>
          ⟨other, List.mem_cons_of_mem _ isPiece, inPiece⟩

theorem filter_intercalate {keep : Letter → Bool} (kept : keep separator = true)
    (pieces : List (List Letter)) :
    ([separator].intercalate pieces).filter keep =
      [separator].intercalate (pieces.map (List.filter keep)) := by
  induction pieces with
  | nil => rfl
  | cons piece rest ih =>
    cases rest with
    | nil => simp
    | cons next others =>
      rw [List.map_cons, List.map_cons, List.intercalate_cons_cons,
        List.intercalate_cons_cons, ← List.map_cons, ← ih]
      simp [kept]

theorem length_intercalate (separator : Letter) (pieces : List (List Letter)) :
    ([separator].intercalate pieces).length = pieces.flatten.length + (pieces.length - 1) := by
  induction pieces with
  | nil => rfl
  | cons piece rest ih =>
    cases rest with
    | nil => simp
    | cons next others =>
      rw [List.intercalate_cons_cons, List.length_append, List.length_append, ih]
      simp
      omega

theorem intercalate_filter_iff (separator : Letter) (pieces : List (List Letter)) :
    [separator].intercalate (pieces.filter fun piece => !piece.isEmpty) =
        [separator].intercalate pieces ↔
      (∀ piece ∈ pieces, piece ≠ []) ∨ pieces.length ≤ 1 := by
  constructor
  · intro same
    have lengths := congrArg List.length same
    rw [length_intercalate, length_intercalate, List.flatten_filter_not_isEmpty] at lengths
    have shorter := List.length_filter_le (fun piece : List Letter => !piece.isEmpty) pieces
    by_cases short : pieces.length ≤ 1
    · exact .inr short
    · have all : (pieces.filter fun piece => !piece.isEmpty).length = pieces.length := by omega
      rw [List.length_filter_eq_length_iff] at all
      exact .inl fun piece member => by simpa using all piece member
  · rintro (nonempty | short)
    · rw [List.filter_eq_self.mpr fun piece member => by simpa using nonempty piece member]
    · match pieces with
      | [] => rfl
      | [[]] => rfl
      | [_ :: _] => rfl
      | _ :: _ :: _ => simp at short

end Words

end Text
