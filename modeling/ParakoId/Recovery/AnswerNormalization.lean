import ParakoId.Library.Words
import ParakoId.Recovery.SecurityQuestions

/-!
Which answers normalise alike. Spaces are collapsed before punctuation goes, so that a word of
punctuation between two others leaves both of its spaces behind.
-/

namespace ParakoId.Recovery

open Text (words)

section AnswerNormalization

variable (unicode : Unicode)

def lowered (answer : String) : List Char := unicode.toLowerCase answer.toList

def answerLetters (text : List Char) : List Char :=
  text.filter fun letter => isAnswerCharacter unicode letter && !isSpace letter

def AnswersAlike (first second : String) : Prop :=
  answerLetters unicode (unicode.toLowerCase (answerLetters unicode first.toList)) =
    answerLetters unicode (unicode.toLowerCase (answerLetters unicode second.toList))

def answerWords (answer : String) : List (List Char) :=
  (words isSpace (lowered unicode answer)).map (List.filter (isAnswerCharacter unicode))

def IsTidy (answer : String) : Prop :=
  (∀ word ∈ answerWords unicode answer, word ≠ []) ∨ (answerWords unicode answer).length ≤ 1

def BreaksAlike (first second : String) : Prop :=
  answerLetters unicode (lowered unicode first) = answerLetters unicode (lowered unicode second) ∧
    ((answerWords unicode first).filter fun word => !word.isEmpty).map List.length =
      ((answerWords unicode second).filter fun word => !word.isEmpty).map List.length

def Unicode.LowersOnce : Prop :=
  ∀ text other, (∀ letter ∈ other, letter = ' ' ∨ letter ∈ unicode.toLowerCase text) →
    unicode.toLowerCase other = other

def Primitives.Verifies (primitives : Primitives) (hashPassword : String → String) : Prop :=
  ∀ password, password ≠ "" → hashPassword password ≠ "" ∧
    primitives.verifyPassword password (hashPassword password) = some true

def IsAccepted (primitives : Primitives) (hashPassword : String → String)
    (answer other : String) : Prop :=
  ∀ storedHash, hashSecurityAnswer unicode hashPassword other = .ok storedHash →
    verifySecurityAnswer primitives unicode answer storedHash = some true

def RespectsNormalization (primitives : Primitives) (hashPassword : String → String)
    (first second : String) : Prop :=
  normalizeSecurityAnswer unicode (normalizeSecurityAnswer unicode first) =
      normalizeSecurityAnswer unicode first ∧
    normalizeSecurityAnswer unicode (normalizeSecurityAnswer unicode second) =
      normalizeSecurityAnswer unicode second ∧
    (AnswersAlike unicode first second →
      normalizeSecurityAnswer unicode first = normalizeSecurityAnswer unicode second ∧
        IsAccepted unicode primitives hashPassword first second ∧
        IsAccepted unicode primitives hashPassword second first)

end AnswerNormalization

theorem collapse_inRun (text : List Char) :
    collapseSpaces true text = collapseSpaces false (text.dropWhile isSpace) := by
  induction text with
  | nil => rfl
  | cons letter rest ih =>
    cases isBlank : isSpace letter with
    | true =>
      rw [List.dropWhile_cons_of_pos isBlank, ← ih]
      simp [collapseSpaces, isBlank]
    | false =>
      rw [List.dropWhile_cons_of_neg (by simp [isBlank])]
      simp [collapseSpaces, isBlank]

theorem words_nonempty {text : List Char} (nonempty : text ≠ [])
    (ends : isSpace (text.getLast nonempty) = false) : words isSpace text ≠ [] := by
  intro wordless
  have blank : (words isSpace text).flatten = text.filter fun letter => !isSpace letter :=
    Text.flatten_words text
  rw [wordless, List.flatten_nil, eq_comm, List.filter_eq_nil_iff] at blank
  exact blank _ (List.getLast_mem nonempty) (by simp [ends])

theorem collapse_ended (text : List Char)
    (ends : ∀ nonempty : text ≠ [], isSpace (text.getLast nonempty) = false) :
    collapseSpaces true text = [' '].intercalate (words isSpace text) ∧
      ∀ word, word ≠ [] → (∀ letter ∈ word, isSpace letter = false) →
        word ++ collapseSpaces false text = [' '].intercalate (words isSpace (word ++ text)) := by
  induction text with
  | nil =>
    refine ⟨by simp [collapseSpaces], ?_⟩
    intro word nonempty unspaced
    simp [collapseSpaces, Text.words_unseparated unspaced, nonempty]
  | cons letter rest ih =>
    have endsRest (nonempty : rest ≠ []) : isSpace (rest.getLast nonempty) = false := by
      simpa [List.getLast_cons nonempty] using ends (List.cons_ne_nil letter rest)
    obtain ⟨inRun, afterWord⟩ := ih endsRest
    cases isBlank : isSpace letter with
    | true =>
      refine ⟨by simp [collapseSpaces, isBlank, inRun, Text.words_separator rest isBlank], ?_⟩
      intro word nonempty unspaced
      have more : rest ≠ [] := by
        rintro rfl
        simp [isBlank] at ends
      obtain ⟨next, others, isWords⟩ :=
        List.exists_cons_of_ne_nil (words_nonempty more (endsRest more))
      rw [Text.words_append word rest isBlank, Text.words_unseparated unspaced]
      simp [collapseSpaces, isBlank, inRun, nonempty, isWords]
    | false =>
      constructor
      · have single := afterWord [letter] (by simp) (by simpa using isBlank)
        simpa [collapseSpaces, isBlank] using single
      · intro word nonempty unspaced
        have longer := afterWord (word ++ [letter]) (by simp) (by
          simpa [or_imp, forall_and] using ⟨unspaced, isBlank⟩)
        simpa [collapseSpaces, isBlank] using longer

theorem collapse_trimmed (text : List Char) :
    collapseSpaces false ((text.dropWhile isSpace).rdropWhile isSpace) =
      [' '].intercalate (words isSpace text) := by
  have leading : ((text.dropWhile isSpace).rdropWhile isSpace).dropWhile isSpace =
      (text.dropWhile isSpace).rdropWhile isSpace :=
    Text.dropWhile_of_trimmed (Text.trimmed_trimmed text)
  have inRun := collapse_inRun ((text.dropWhile isSpace).rdropWhile isSpace)
  rw [leading] at inRun
  rw [← inRun, (collapse_ended _ fun nonempty => ?_).1, Text.words_rdropWhile,
    Text.words_dropWhile]
  simpa using List.rdropWhile_last_not isSpace _ nonempty

section NormalForms

variable {unicode : Unicode}

theorem isAnswerCharacter_space : isAnswerCharacter unicode ' ' = true := by
  have isBlank : isSpace ' ' = true := by decide
  simp [isAnswerCharacter, isBlank]

theorem lowered_empty (lowersOnce : unicode.LowersOnce) : lowered unicode "" = [] :=
  lowersOnce [] [] (by simp)

theorem normalize_words (lowersOnce : unicode.LowersOnce) (answer : String) :
    (normalizeSecurityAnswer unicode answer).toList =
      [' '].intercalate (answerWords unicode answer) := by
  rw [normalizeSecurityAnswer, answerWords]
  split
  next isEmpty => simp [isEmpty, lowered_empty lowersOnce]
  next =>
    rw [String.toList_ofList, collapse_trimmed,
      Text.filter_intercalate isAnswerCharacter_space, lowered]

theorem answerWord_letters {answer : String} {word : List Char}
    (isWord : word ∈ answerWords unicode answer) :
    ∀ letter ∈ word, isAnswerCharacter unicode letter = true ∧ isSpace letter = false ∧
      letter ∈ lowered unicode answer := by
  obtain ⟨whole, isWhole, rfl⟩ := List.mem_map.mp isWord
  intro letter member
  obtain ⟨inWhole, kept⟩ := List.mem_filter.mp member
  refine ⟨kept, Text.word_unseparated isWhole letter inWhole, ?_⟩
  have isLetter : letter ∈ (words isSpace (lowered unicode answer)).flatten :=
    List.mem_flatten.mpr ⟨whole, isWhole, inWhole⟩
  rw [Text.flatten_words] at isLetter
  exact (List.mem_filter.mp isLetter).1

section

variable (lowersOnce : unicode.LowersOnce)
include lowersOnce

theorem lowered_normalize (answer : String) :
    lowered unicode (normalizeSecurityAnswer unicode answer) =
      [' '].intercalate (answerWords unicode answer) := by
  rw [lowered, normalize_words lowersOnce]
  apply lowersOnce answer.toList
  intro letter member
  rcases Text.mem_intercalate member with isBlank | ⟨word, isWord, inWord⟩
  · exact .inl isBlank
  · exact .inr (answerWord_letters isWord letter inWord).2.2

theorem answerWords_normalize (answer : String) :
    answerWords unicode (normalizeSecurityAnswer unicode answer) =
      (answerWords unicode answer).filter fun word => !word.isEmpty := by
  have isBlank : isSpace ' ' = true := by decide
  rw [answerWords, lowered_normalize lowersOnce, Text.words_intercalate isBlank
    fun word isWord letter member => (answerWord_letters isWord letter member).2.1]
  refine (List.map_congr_left fun word isWord => ?_).trans (List.map_id _)
  exact List.filter_eq_self.mpr fun letter member =>
    (answerWord_letters (List.mem_of_mem_filter isWord) letter member).1

theorem normalize_idempotent_iff (answer : String) :
    normalizeSecurityAnswer unicode (normalizeSecurityAnswer unicode answer) =
        normalizeSecurityAnswer unicode answer ↔
      IsTidy unicode answer := by
  rw [IsTidy, ← Text.intercalate_filter_iff ' ', ← answerWords_normalize lowersOnce,
    ← normalize_words lowersOnce, ← normalize_words lowersOnce, String.toList_inj]

theorem normalize_eq_iff {first second : String} (firstTidy : IsTidy unicode first)
    (secondTidy : IsTidy unicode second) :
    normalizeSecurityAnswer unicode first = normalizeSecurityAnswer unicode second ↔
      BreaksAlike unicode first second := by
  have lettersOf (answer : String) :
      ((answerWords unicode answer).filter fun word => !word.isEmpty).flatten =
        answerLetters unicode (lowered unicode answer) := by
    rw [List.flatten_filter_not_isEmpty, answerWords, ← List.filter_flatten, Text.flatten_words,
      List.filter_filter, answerLetters]
  rw [BreaksAlike, ← lettersOf, ← lettersOf, ← List.eq_iff_flatten_eq]
  constructor
  · intro same
    rw [← answerWords_normalize lowersOnce, same, answerWords_normalize lowersOnce]
  · intro same
    rw [← String.toList_inj, normalize_words lowersOnce, normalize_words lowersOnce,
      ← (Text.intercalate_filter_iff ' ' _).mpr firstTidy, same,
      (Text.intercalate_filter_iff ' ' _).mpr secondTidy]

end

theorem accepted_of_same {primitives : Primitives} {hashPassword : String → String}
    (verifies : primitives.Verifies hashPassword) {answer other : String}
    (same : normalizeSecurityAnswer unicode answer = normalizeSecurityAnswer unicode other) :
    IsAccepted unicode primitives hashPassword answer other := by
  intro storedHash isHashed
  rw [hashSecurityAnswer] at isHashed
  split at isHashed
  next => cases isHashed
  next nonempty =>
    cases isHashed
    obtain ⟨hashed, verified⟩ := verifies _ nonempty
    rw [verifySecurityAnswer_iff, same]
    exact ⟨nonempty, hashed, verified⟩

/-- For any two answers: verification respects their normalisation exactly where neither has a
word of punctuation beside others, and where answers that differ in nothing but case,
punctuation and white space have the same letters in lower case and break into words alike. -/
theorem normalization_respected_iff {primitives : Primitives} {hashPassword : String → String}
    (lowersOnce : unicode.LowersOnce) (verifies : primitives.Verifies hashPassword)
    (first second : String) :
    RespectsNormalization unicode primitives hashPassword first second ↔
      IsTidy unicode first ∧ IsTidy unicode second ∧
        (AnswersAlike unicode first second → BreaksAlike unicode first second) := by
  rw [RespectsNormalization, normalize_idempotent_iff lowersOnce,
    normalize_idempotent_iff lowersOnce]
  refine and_congr_right fun firstTidy => and_congr_right fun secondTidy =>
    forall_congr' fun _ => ?_
  rw [← normalize_eq_iff lowersOnce firstTidy secondTidy]
  constructor
  · exact fun respected => respected.1
  · exact fun same => ⟨same, accepted_of_same verifies same, accepted_of_same verifies same.symm⟩

end NormalForms

def plainUnicode : Unicode :=
  { toLowerCase := List.map Char.toLower, isLetter := Char.isAlpha, isNumber := Char.isDigit }

def dollarHash (password : String) : String := "$" ++ password

def dollarPrimitives : Primitives :=
  { verifyPassword := fun password storedHash => some (decide (storedHash = dollarHash password))
    sha256 := id }

theorem plainUnicode_lowersOnce : plainUnicode.LowersOnce := by
  intro text other settled
  refine (List.map_congr_left fun letter member => ?_).trans (List.map_id _)
  rcases settled letter member with rfl | isLower
  · decide
  · obtain ⟨letter, _, rfl⟩ := List.mem_map.mp isLower
    exact Text.toLower_toLower letter

theorem dollarPrimitives_verifies : dollarPrimitives.Verifies dollarHash := by
  intro password _
  simp [dollarPrimitives, dollarHash]

theorem answer_respected :
    RespectsNormalization plainUnicode dollarPrimitives dollarHash " MY  Answer! " "my answer" :=
  (normalization_respected_iff plainUnicode_lowersOnce dollarPrimitives_verifies _ _).mpr
    ⟨.inl (by decide), .inl (by decide), fun _ => ⟨by decide, by decide⟩⟩

theorem dash_not_respected :
    ¬RespectsNormalization plainUnicode dollarPrimitives dollarHash "a - b" "a b" := by
  intro respected
  exact absurd respected.1 (by decide)

end ParakoId.Recovery
