import ParakoId.Library.Schemas

/-! The references to environment variables in a configuration file. -/

namespace ParakoId.Config

open Json (Step reached)

section Strings

variable (env : String → Option String)

def DANGEROUS_KEYS : List String := ["__proto__", "constructor", "prototype"]

/-- `VALID_VAR_NAME`. -/
def isValidVarName (name : String) : Bool :=
  match name.toList with
  | [] => false
  | first :: rest =>
    (first.isAlpha || first == '_') &&
      rest.all fun letter => letter.isAlphanum || letter == '_'

def validateVarName (name path : String) : Except String Unit :=
  if isValidVarName name then .ok ()
  else .error ("Config error at \"" ++ path ++ "\": invalid variable name \"" ++ name ++ "\". " ++
    "Variable names must start with a letter or underscore, " ++
    "followed by letters, digits, or underscores.")

/-- An empty value counts as none. -/
def envValue (name : String) : Option String := (env name).filter (· ≠ "")

/-- What stands before and after the first `:-`. -/
def splitDefault : List Char → Option (List Char × List Char)
  | ':' :: '-' :: rest => some ([], rest)
  | letter :: rest => (splitDefault rest).map fun parts => (letter :: parts.1, parts.2)
  | [] => none

inductive Answer
  | value (name text : String)
  | fallback (text : List Char)

def nameAndDefault (expr : List Char) : List Char × Option (List Char) :=
  match splitDefault expr with
  | some (name, defaultVal) => (name, some defaultVal)
  | none => (expr, none)

/-- The callback: what takes the place of a reference with this expression. -/
def answer (path : String) (expr : List Char) : Except String Answer := do
  let varName := Schemas.trim (String.ofList (nameAndDefault expr).1)
  validateVarName varName path
  match envValue env varName, (nameAndDefault expr).2 with
  | some value, _ => return .value varName value
  | none, some defaultVal => return .fallback defaultVal
  | none, none =>
    throw ("Config error at \"" ++ path ++ "\": environment variable $\x7b" ++ varName ++
      "\x7d is not set. Set it in .env or use $\x7b" ++ varName ++
      ":-default\x7d for a fallback.")

/-- The expression of the reference with which a text begins, and what stands after it. -/
def reference : List Char → Option (List Char × List Char)
  | '$' :: '\x7b' :: rest =>
    match rest.dropWhile (· != '\x7d') with
    | [] => none
    | _ :: after =>
      let expr := rest.takeWhile (· != '\x7d')
      if expr = [] then none else some (expr, after)
  | _ => none

/-- `text.replace` with a callback, past the letters of the last match that are left to skip. -/
def replace {Out : Type} (callback : List Char → List Char → Except String (List Out))
    (keep : Char → List Char → Out) : Nat → List Char → Except String (List Out)
  | _, [] => .ok []
  | skip + 1, _ :: rest => replace callback keep skip rest
  | 0, letter :: rest =>
    match reference (letter :: rest) with
    | some (expr, after) => do
        let replaced ← callback expr after
        return replaced ++ (← replace callback keep (expr.length + 2) rest)
    | none => do return keep letter rest :: (← replace callback keep 0 rest)

def Answer.text : Answer → List Char
  | .value _ text => text.toList
  | .fallback text => text

def resolveText (path : String) (text : List Char) : Except String (List Char) :=
  replace (fun expr _ => Answer.text <$> answer env path expr) (fun letter _ => letter) 0 text

/-- The first value that is refused refuses them all. -/
def firstError {Key : Type} (keys : List Key) (resolved : Key → Except String Json) :
    Option String :=
  keys.findSome? fun key => match resolved key with
    | .error message => some message
    | .ok _ => none

def resolveEnvVars : String → Json → Except String Json
  | path, .str text => do return .str (String.ofList (← resolveText env path text.toList))
  | path, .arr length item =>
    let resolved (index : Nat) := resolveEnvVars (path ++ "[" ++ toString index ++ "]") (item index)
    match firstError (List.range length) resolved with
    | some message => .error message
    | none => .ok (.arr length fun index => (resolved index).toOption.getD .null)
  | path, .obj keys value =>
    let kept := keys.filter fun key => !DANGEROUS_KEYS.contains key
    let resolved (key : String) :=
      resolveEnvVars (if path = "" then key else path ++ "." ++ key) (value key)
    match firstError kept resolved with
    | some message => .error message
    | none => .ok (.obj kept fun key => (resolved key).toOption.getD .null)
  | _, other => .ok other

/-! Where each letter of a resolved text comes from. -/

inductive Mark
  | written (source : List Char)
  | inserted (name : String)

/-- The letters, each with all that is written from it on. -/
def marksOf (after : List Char) : List Char → List Mark
  | [] => []
  | letter :: rest => .written (letter :: rest ++ after) :: marksOf after rest

def Answer.marks (after : List Char) : Answer → List Mark
  | .value name _ => [.inserted name]
  | .fallback text => marksOf ('\x7d' :: after) text

def markText (path : String) (text : List Char) : Except String (List Mark) :=
  replace (fun expr after => Answer.marks after <$> answer env path expr)
    (fun letter rest => .written (letter :: rest)) 0 text

def fill : Mark → List Char
  | .written source => source.take 1
  | .inserted name => ((envValue env name).getD "").toList

def SetsSame (other : String → Option String) : Prop :=
  ∀ name, (envValue env name).isSome = (envValue other name).isSome

/-- What a written text becomes. Its letters are its own, with values in between: no letter of its
own is left where a reference was written, and what the values are changes nothing else. -/
structure Rendered (written text : List Char) : Prop where
  marked : ∃ path marks, markText env path written = .ok marks ∧ text = marks.flatMap (fill env) ∧
    (∀ source, .written source ∈ marks → reference source = none) ∧
    ∀ other, SetsSame env other → markText other path written = .ok marks
  unchanged : (∀ suffix, suffix <:+ written → reference suffix = none) → text = written

def isSafeStep : Step → Bool
  | .key name => !DANGEROUS_KEYS.contains name
  | .index _ => true

structure Interpolated (tree result : Json) : Prop where
  rendered : ∀ path written, path.all isSafeStep = true → reached tree path = some (.str written) →
    ∃ text, reached result path = some (.str text) ∧ Rendered env written.toList text.toList
  written : ∀ path text, reached result path = some (.str text) →
    ∃ written, reached tree path = some (.str written)
  safe : ∀ path value, reached result path = some value → path.all isSafeStep = true

def references : Nat → List Char → List (List Char)
  | _, [] => []
  | skip + 1, _ :: rest => references skip rest
  | 0, letter :: rest =>
    match reference (letter :: rest) with
    | some (expr, _) => expr :: references (expr.length + 2) rest
    | none => references 0 rest

def opensReference : List Char → Bool
  | '$' :: '\x7b' :: _ :: _ => true
  | _ :: rest => opensReference rest
  | [] => false

/-- The default is used, and a reference is written in it. -/
def isNested (expr : List Char) : Bool :=
  (envValue env (Schemas.trim (String.ofList (nameAndDefault expr).1))).isNone &&
    (nameAndDefault expr).2.any opensReference

end Strings

variable {env other : String → Option String} {path : String}

theorem fill_marksOf (after text : List Char) : (marksOf after text).flatMap (fill env) = text := by
  induction text with
  | nil => rfl
  | cons letter rest ih => simp [marksOf, fill, ih]

theorem ok_of_bind {First Last : Type} {first : Except String First}
    {next : First → Except String Last} {result : Last} (isResult : first >>= next = .ok result) :
    ∃ value, first = .ok value ∧ next value = .ok result := by
  cases first with
  | error message => cases isResult
  | ok value => exact ⟨value, rfl, isResult⟩

variable {expr text after : List Char}

theorem answer_ok {given : Answer} (isAnswer : answer env path expr = .ok given) :
    (∃ name text, given = .value name text ∧ envValue env name = some text ∧
      isNested env expr = false) ∨
      ∃ text, given = .fallback text ∧ (nameAndDefault expr).2 = some text ∧
        isNested env expr = opensReference text := by
  obtain ⟨done, _, isAnswer⟩ := ok_of_bind isAnswer
  cases isSet : envValue env (Schemas.trim (String.ofList (nameAndDefault expr).1)) with
  | some value =>
    rw [isSet] at isAnswer
    cases isAnswer
    exact .inl ⟨_, value, rfl, isSet, by simp [isNested, isSet]⟩
  | none =>
    cases isDefault : (nameAndDefault expr).2 with
    | none =>
      rw [isSet, isDefault] at isAnswer
      cases isAnswer
    | some text =>
      rw [isSet, isDefault] at isAnswer
      cases isAnswer
      exact .inr ⟨text, rfl, rfl, by simp [isNested, isSet, isDefault]⟩

theorem fill_answer {given : Answer} (after : List Char)
    (isAnswer : answer env path expr = .ok given) :
    (given.marks after).flatMap (fill env) = given.text := by
  rcases answer_ok isAnswer with ⟨name, text, rfl, isSet, _⟩ | ⟨text, rfl, _⟩
  · simp [Answer.marks, Answer.text, fill, isSet]
  · exact fill_marksOf _ text

theorem answer_same (same : SetsSame env other) (path : String) (expr after : List Char) :
    Answer.marks after <$> answer other path expr = Answer.marks after <$> answer env path expr := by
  unfold answer
  dsimp only
  generalize Schemas.trim (String.ofList (nameAndDefault expr).1) = varName
  cases validateVarName varName path with
  | error message => rfl
  | ok done =>
    have isSame := same varName
    cases isSet : envValue env varName <;> cases isOther : envValue other varName <;>
      simp only [isSet, isOther, Option.isSome_none, Option.isSome_some, Bool.false_eq_true,
        Bool.true_eq_false] at isSame
    · rfl
    · rfl

theorem reference_some (isReference : reference text = some (expr, after)) : '\x7d' ∉ expr := by
  unfold reference at isReference
  split at isReference
  · split at isReference
    · cases isReference
    · dsimp only at isReference
      split at isReference
      · cases isReference
      · cases isReference
        intro member
        simpa using List.mem_takeWhile_imp member
  · cases isReference

theorem reference_shut {letter : Char} {rest : List Char}
    (shut : ∀ next more, letter = '$' → rest = '\x7b' :: next :: more → False) :
    reference (letter :: rest ++ '\x7d' :: after) = none := by
  unfold reference
  split
  · rename_i tail isText
    rcases rest with _ | ⟨second, _ | ⟨third, more⟩⟩
    · simp at isText
    · obtain ⟨rfl, rfl, rfl⟩ : letter = '$' ∧ second = '\x7b' ∧ '\x7d' :: after = tail := by
        simpa using isText
      simp
    · obtain ⟨isLetter, isSecond, _⟩ : letter = '$' ∧ second = '\x7b' ∧ _ := by
        simpa using isText
      exact (shut third more isLetter (by rw [isSecond])).elim
  · rfl

theorem reference_open {next : Char} {more : List Char} (isOpen : '\x7d' ∉ next :: more) :
    reference ('$' :: '\x7b' :: next :: more ++ '\x7d' :: after) =
      some (next :: more, after) := by
  have passes : ∀ letter ∈ next :: more, (letter != '\x7d') = true := by
    intro letter member
    simpa using fun same : letter = '\x7d' => isOpen (same ▸ member)
  have rests (rest : List Char) := @List.dropWhile_append_of_pos _ _ _ rest passes
  have takes (rest : List Char) := @List.takeWhile_append_of_pos _ _ _ rest passes
  simp only [List.cons_append] at rests takes ⊢
  simp [reference, rests, takes]

/-- A reference is written in a default where one is opened in it. -/
theorem marksOf_written_iff (isOpen : '\x7d' ∉ text) :
    (∃ source, .written source ∈ marksOf ('\x7d' :: after) text ∧ reference source ≠ none) ↔
      opensReference text = true := by
  induction text using opensReference.induct with
  | case1 next more =>
    refine iff_of_true ⟨_, List.mem_cons_self, ?_⟩ rfl
    rw [reference_open fun member => isOpen (by simp [member])]
    simp
  | case2 letter rest shut ih =>
    have isRest := ih fun member => isOpen (List.mem_cons_of_mem _ member)
    rw [opensReference, ← isRest]
    · constructor
      · rintro ⟨source, member, isReference⟩
        rcases List.mem_cons.mp member with same | isLater
        · cases same
          exact absurd (reference_shut shut) isReference
        · exact ⟨source, isLater, isReference⟩
      · rintro ⟨source, member, isReference⟩
        exact ⟨source, List.mem_cons_of_mem _ member, isReference⟩
    · exact shut
  | case3 => simp [marksOf, opensReference]

theorem splitDefault_mem {name : List Char} (isSplit : splitDefault expr = some (name, text))
    {letter : Char} (member : letter ∈ text) : letter ∈ expr := by
  induction expr using splitDefault.induct generalizing name with
  | case1 rest =>
    cases isSplit
    simp [member]
  | case2 first rest notDefault ih =>
    rw [splitDefault] at isSplit
    · obtain ⟨⟨front, back⟩, isBack, same⟩ := Option.map_eq_some_iff.mp isSplit
      cases same
      exact List.mem_cons_of_mem _ (ih isBack)
    · exact notDefault
  | case3 => cases isSplit

theorem default_mem (isDefault : (nameAndDefault expr).2 = some text) {letter : Char}
    (member : letter ∈ text) : letter ∈ expr := by
  rw [nameAndDefault] at isDefault
  split at isDefault
  · rename_i isSplit
    cases isDefault
    exact splitDefault_mem isSplit member
  · cases isDefault

theorem answer_written_iff {given : Answer} (after : List Char) (isOpen : '\x7d' ∉ expr)
    (isAnswer : answer env path expr = .ok given) :
    (∃ source, .written source ∈ given.marks after ∧ reference source ≠ none) ↔
      isNested env expr = true := by
  rcases answer_ok isAnswer with ⟨name, text, rfl, _, notNested⟩ | ⟨text, rfl, isDefault, nested⟩
  · simp [Answer.marks, notNested]
  · rw [Answer.marks, nested, marksOf_written_iff fun member => isOpen (default_mem isDefault member)]

theorem marks_written_iff (path : String) (text : List Char) : ∀ (skip : Nat) (marks : List Mark),
    replace (fun expr after => Answer.marks after <$> answer env path expr)
      (fun letter rest => .written (letter :: rest)) skip text = .ok marks →
    ((∃ source, .written source ∈ marks ∧ reference source ≠ none) ↔
      ∃ expr ∈ references skip text, isNested env expr = true) := by
  induction text with
  | nil =>
    rintro skip marks ⟨⟩
    simp [references]
  | cons letter rest ih =>
    intro skip marks isMarks
    cases skip with
    | succ skip => exact ih skip marks isMarks
    | zero =>
      unfold replace at isMarks
      unfold references
      cases isReference : reference (letter :: rest) with
      | none =>
        simp only [isReference] at isMarks ⊢
        obtain ⟨later, isLater, same⟩ := ok_of_bind isMarks
        cases same
        rw [← ih 0 later isLater]
        simp [isReference]
      | some parts =>
        obtain ⟨expr, after⟩ := parts
        simp only [isReference] at isMarks ⊢
        obtain ⟨front, isFront, isMarks⟩ := ok_of_bind isMarks
        obtain ⟨later, isLater, same⟩ := ok_of_bind isMarks
        cases same
        cases isAnswer : answer env path expr with
        | error message =>
          rw [isAnswer] at isFront
          cases isFront
        | ok given =>
          rw [isAnswer] at isFront
          cases isFront
          rw [List.exists_mem_cons_iff, ← ih _ later isLater,
            ← answer_written_iff after (reference_some isReference) isAnswer]
          simp only [List.mem_append, or_and_right, exists_or]

theorem resolve_marks (path : String) (text : List Char) : ∀ skip : Nat,
    replace (fun expr _ => Answer.text <$> answer env path expr) (fun letter _ => letter) skip text =
      (fun marks => marks.flatMap (fill env)) <$>
        replace (fun expr after => Answer.marks after <$> answer env path expr)
          (fun letter rest => .written (letter :: rest)) skip text := by
  induction text with
  | nil => exact fun _ => rfl
  | cons letter rest ih =>
    intro skip
    cases skip with
    | succ skip => exact ih skip
    | zero =>
      unfold replace
      cases isReference : reference (letter :: rest) with
      | none =>
        dsimp only
        rw [ih 0]
        cases replace (fun expr after => Answer.marks after <$> answer env path expr)
          (fun letter rest => Mark.written (letter :: rest)) 0 rest <;> rfl
      | some parts =>
        obtain ⟨expr, after⟩ := parts
        dsimp only
        rw [ih]
        cases isAnswer : answer env path expr with
        | error message => rfl
        | ok given =>
          cases replace (fun expr after => Answer.marks after <$> answer env path expr)
            (fun letter rest => Mark.written (letter :: rest)) (expr.length + 2) rest with
          | error message => rfl
          | ok later =>
            simp [Functor.map, Except.map, Bind.bind, Except.bind, Pure.pure, Except.pure,
              fill_answer after isAnswer]

theorem resolveText_unchanged (path : String)
    (plain : ∀ suffix, suffix <:+ text → reference suffix = none) :
    resolveText env path text = .ok text := by
  unfold resolveText
  induction text with
  | nil => rfl
  | cons letter rest ih =>
    unfold replace
    rw [plain _ List.suffix_rfl, ih fun suffix isSuffix => plain suffix
      (isSuffix.trans (List.suffix_cons letter rest))]
    rfl

theorem markText_same (same : SetsSame env other) (path : String) (text : List Char) :
    markText other path text = markText env path text := by
  unfold markText
  simp only [answer_same same]

theorem markText_ok {written : List Char} (isText : resolveText env path written = .ok text) :
    ∃ marks, markText env path written = .ok marks ∧ text = marks.flatMap (fill env) := by
  rw [resolveText, resolve_marks] at isText
  unfold markText
  cases isMarks : replace (fun expr after => Answer.marks after <$> answer env path expr)
      (fun letter rest => Mark.written (letter :: rest)) 0 written with
  | error message =>
    rw [isMarks] at isText
    cases isText
  | ok marks =>
    rw [isMarks] at isText
    cases isText
    exact ⟨marks, rfl, rfl⟩

/-- A text is rendered just where no default that is used has a reference in it. -/
theorem rendered_iff {written : List Char} (isText : resolveText env path written = .ok text) :
    Rendered env written text ↔ ∀ expr ∈ references 0 written, isNested env expr = false := by
  constructor
  · intro rendered expr member
    obtain ⟨at_, marks, isMarks, _, none_, _⟩ := rendered.marked
    have noneNested := (marks_written_iff at_ written 0 marks isMarks).not.mp
      fun ⟨source, isWritten, isReference⟩ => isReference (none_ source isWritten)
    simpa using fun nested => noneNested ⟨expr, member, nested⟩
  · intro noneNested
    obtain ⟨marks, isMarks, isFilled⟩ := markText_ok isText
    refine ⟨⟨path, marks, isMarks, isFilled, fun source isWritten => ?_, fun other same => ?_⟩,
      fun plain => ?_⟩
    · by_contra isReference
      obtain ⟨expr, member, nested⟩ := (marks_written_iff path written 0 marks isMarks).mp
        ⟨source, isWritten, isReference⟩
      rw [noneNested expr member] at nested
      cases nested
    · rw [markText_same same, isMarks]
    · rw [resolveText_unchanged path plain] at isText
      cases isText
      rfl

theorem ok_of_firstError {Key : Type} {keys : List Key} {resolved : Key → Except String Json}
    (noError : firstError keys resolved = none) {key : Key} (member : key ∈ keys) :
    resolved key = .ok ((resolved key).toOption.getD .null) := by
  have isOk := List.findSome?_eq_none_iff.mp noError key member
  cases isResolved : resolved key with
  | error message => simp [isResolved] at isOk
  | ok value => rfl

theorem resolved_arr {length : Nat} {item : Nat → Json} {result : Json}
    (returns : resolveEnvVars env path (.arr length item) = .ok result) :
    ∃ inner, result = .arr length inner ∧ ∀ index < length, ∃ name,
      resolveEnvVars env name (item index) = .ok (inner index) := by
  rw [resolveEnvVars] at returns
  split at returns
  · cases returns
  · rename_i noError
    cases returns
    exact ⟨_, rfl, fun index bound => ⟨_, ok_of_firstError noError (List.mem_range.mpr bound)⟩⟩

theorem resolved_obj {keys : List String} {value : String → Json} {result : Json}
    (returns : resolveEnvVars env path (.obj keys value) = .ok result) :
    ∃ inner, result = .obj (keys.filter fun key => !DANGEROUS_KEYS.contains key) inner ∧
      ∀ key ∈ keys, key ∉ DANGEROUS_KEYS → ∃ name,
        resolveEnvVars env name (value key) = .ok (inner key) := by
  rw [resolveEnvVars] at returns
  split at returns
  · cases returns
  · rename_i noError
    cases returns
    refine ⟨_, rfl, fun key member isSafe => ⟨_, ok_of_firstError noError ?_⟩⟩
    simp [member, isSafe]

/-- The steps that lead somewhere in a resolved tree are those that do in the tree, where none of
them is dangerous; and what they lead to there is resolved. -/
theorem reached_resolved (steps : List Step) : ∀ {tree result : Json} {path : String},
    resolveEnvVars env path tree = .ok result →
      Option.Rel (fun source value => ∃ name, resolveEnvVars env name source = .ok value)
        (if steps.all isSafeStep = true then reached tree steps else none)
        (reached result steps) := by
  induction steps with
  | nil =>
    intro tree result path returns
    simp only [List.all_nil, if_true, reached]
    exact .some ⟨path, returns⟩
  | cons step rest ih =>
    intro tree result path returns
    cases tree with
    | obj keys value =>
      obtain ⟨inner, rfl, returnsInner⟩ := resolved_obj returns
      cases step with
      | index position => simp [reached]
      | key name =>
        by_cases member : name ∈ keys ∧ name ∉ DANGEROUS_KEYS
        · obtain ⟨place, returnsValue⟩ := returnsInner name member.1 member.2
          simpa [reached, isSafeStep, member.1, member.2] using ih returnsValue
        · have unreached : (if ((Step.key name) :: rest).all isSafeStep = true then
              reached (.obj keys value) (.key name :: rest) else none) = none := by
            simp only [ite_eq_right_iff, List.all_cons, Bool.and_eq_true, isSafeStep]
            intro isSafe
            have missing : name ∉ keys := fun isKey => member ⟨isKey, by simpa using isSafe.1⟩
            simp [reached, missing]
          rw [unreached]
          simp [reached, member]
    | arr length item =>
      obtain ⟨inner, rfl, returnsInner⟩ := resolved_arr returns
      cases step with
      | key name => simp [reached]
      | index position =>
        by_cases bound : position < length
        · obtain ⟨place, returnsItem⟩ := returnsInner position bound
          simpa [reached, isSafeStep, bound] using ih returnsItem
        · simp [reached, bound]
    | str text =>
      obtain ⟨resolved, _, same⟩ := ok_of_bind returns
      cases same
      simp [reached]
    | _ =>
      cases returns
      simp [reached]

theorem resolved_str {written : String} {value : Json}
    (returns : resolveEnvVars env path (.str written) = .ok value) :
    ∃ text : String, value = .str text ∧
      resolveText env path written.toList = .ok text.toList := by
  obtain ⟨text, isText, same⟩ := ok_of_bind returns
  cases same
  exact ⟨_, rfl, by simpa using isText⟩

theorem str_of_resolved {source : Json} {text : String}
    (returns : resolveEnvVars env path source = .ok (.str text)) :
    ∃ written, source = .str written := by
  cases source with
  | str written => exact ⟨written, rfl⟩
  | arr length item =>
    obtain ⟨inner, same, _⟩ := resolved_arr returns
    cases same
  | obj keys value =>
    obtain ⟨inner, same, _⟩ := resolved_obj returns
    cases same
  | _ => cases returns

theorem references_resolved_iff (env : String → Option String) (tree result : Json)
    (returns : resolveEnvVars env "" tree = .ok result) :
    Interpolated env tree result ↔
      ∀ path written, path.all isSafeStep = true → reached tree path = some (.str written) →
        ∀ expr ∈ references 0 written.toList, isNested env expr = false := by
  have resolves (path : List Step) (written : String) (isSafe : path.all isSafeStep = true)
      (isWritten : reached tree path = some (.str written)) :
      ∃ name, ∃ text : String, reached result path = some (.str text) ∧
        resolveText env name written.toList = .ok text.toList := by
    have isReached := reached_resolved path returns
    rw [if_pos isSafe, isWritten] at isReached
    cases isValue : reached result path with
    | none =>
      rw [isValue] at isReached
      cases isReached
    | some value =>
      rw [isValue] at isReached
      cases isReached with
      | some resolved =>
        obtain ⟨name, returnsValue⟩ := resolved
        obtain ⟨text, rfl, isText⟩ := resolved_str returnsValue
        exact ⟨name, text, rfl, isText⟩
  have comes (path : List Step) (value : Json) (isValue : reached result path = some value) :
      path.all isSafeStep = true ∧ ∃ name source, reached tree path = some source ∧
        resolveEnvVars env name source = .ok value := by
    have isReached := reached_resolved path returns
    rw [isValue] at isReached
    split at isReached
    · rename_i isSafe
      refine ⟨isSafe, ?_⟩
      cases isSource : reached tree path with
      | none =>
        rw [isSource] at isReached
        cases isReached
      | some source =>
        rw [isSource] at isReached
        cases isReached with
        | some resolved => exact resolved.imp fun name same => ⟨source, rfl, same⟩
    · cases isReached
  constructor
  · intro interpolated path written isSafe isWritten
    obtain ⟨name, text, isText, isResolved⟩ := resolves path written isSafe isWritten
    obtain ⟨other, isOther, rendered⟩ := interpolated.rendered path written isSafe isWritten
    obtain rfl : text = other := by simpa [isText] using isOther
    exact (rendered_iff isResolved).mp rendered
  · intro noneNested
    constructor
    · intro path written isSafe isWritten
      obtain ⟨name, text, isText, isResolved⟩ := resolves path written isSafe isWritten
      exact ⟨text, isText, (rendered_iff isResolved).mpr (noneNested path written isSafe isWritten)⟩
    · intro path text isText
      obtain ⟨_, name, source, isSource, returnsText⟩ := comes path _ isText
      obtain ⟨written, rfl⟩ := str_of_resolved returnsText
      exact ⟨written, isSource⟩
    · exact fun path value isValue => (comes path value isValue).1

def homeOnly : String → Option String := fun name => if name = "HOME" then some "/root" else none

theorem references_resolved_home : Interpolated homeOnly (.str "$\x7bHOME\x7d/id")
    (.str "/root/id") := by
  refine (references_resolved_iff homeOnly (.str "$\x7bHOME\x7d/id") (.str "/root/id")
    rfl).mpr ?_
  rintro (_ | ⟨step, rest⟩) written _ isWritten
  · cases isWritten
    decide
  · simp [reached] at isWritten

theorem nested_reference_remains :
    resolveEnvVars homeOnly "" (.str "$\x7bA:-$\x7bHOME\x7d\x7d") = .ok (.str "$\x7bHOME\x7d") ∧
      ¬Interpolated homeOnly (.str "$\x7bA:-$\x7bHOME\x7d\x7d") (.str "$\x7bHOME\x7d") := by
  refine ⟨rfl, fun interpolated => ?_⟩
  obtain ⟨text, _, rendered⟩ := interpolated.rendered [] _ rfl (by rw [reached])
  obtain ⟨place, marks, isMarks, _, noneLeft, _⟩ := rendered.marked
  obtain ⟨source, isWritten, isReference⟩ :=
    (marks_written_iff place _ 0 marks isMarks).mpr (by decide)
  exact isReference (noneLeft source isWritten)

end ParakoId.Config
