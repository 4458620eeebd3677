import ParakoId.Library.Json

/-!
The middleware that takes the keys out of a request which MongoDB would read as operators.
-/

namespace ParakoId.Middlewares

open Json (Step reached)

structure SanitizeOptions where
  replaceWith : Option String
  allowDots : Bool
  dryRun : Bool

namespace SanitizeOptions

variable (options : SanitizeOptions)

/-- `getTestRegex`, of one letter. -/
def isProhibited (letter : Char) : Bool := letter == '$' || (!options.allowDots && letter == '.')

def test (text : String) : Bool := text.toList.any options.isProhibited

def replacement : Option String :=
  options.replaceWith.filter fun text => !options.test text && text != "." && text != ""

def replace (key text : String) : String :=
  String.ofList (key.toList.flatMap fun letter =>
    if options.isProhibited letter then text.toList else [letter])

end SanitizeOptions

structure Properties where
  keys : List String
  value : String → Json

section Sanitizer

variable (options : SanitizeOptions)

def hasProhibitedKeys : Json → Bool
  | .arr length item => (List.range length).any fun index => hasProhibitedKeys (item index)
  | .obj keys value => keys.any fun key => options.test key || hasProhibitedKeys (value key)
  | _ => false

def isPolluting (key : String) : Bool :=
  key == "__proto__" || key == "constructor" || key == "prototype"

/-- What becomes of a key of an object, where `inner` is what becomes of its value. -/
def visit (properties : Properties) (key : String) (inner : Json) : Properties :=
  if options.test key && !options.dryRun then
    let others := properties.keys.filter (· != key)
    match options.replacement with
    | none => { properties with keys := others }
    | some text =>
      let newKey := options.replace key text
      if isPolluting newKey || others.contains newKey then { properties with keys := others }
      else ⟨others ++ [newKey], Function.update properties.value newKey inner⟩
  else { properties with value := Function.update properties.value key inner }

/-- The keys are those the object had before any of them was visited. No visit writes over one
that is yet to come, so each still has the value it had. -/
def sanitizeInternal : Json → Json
  | .arr length item =>
    .arr length fun index => if index < length then sanitizeInternal (item index) else item index
  | .obj keys value =>
    let finished := keys.foldl
      (fun properties key => visit options properties key (sanitizeInternal (value key)))
      ⟨keys, value⟩
    .obj finished.keys finished.value
  | other => other

end Sanitizer

def isCleanStep (options : SanitizeOptions) : Step → Bool
  | .key name => !options.test name
  | .index _ => true

/-- What a value becomes when it is sanitised. -/
structure Sanitized (options : SanitizeOptions) (before after : Json) : Prop where
  clean : hasProhibitedKeys options after = false
  unchanged : ∀ path entry, path.all (isCleanStep options) = true →
    reached before path = some entry → hasProhibitedKeys options entry = false →
    reached after path = some entry
  settled : sanitizeInternal options after = after

section Requests

variable (parse : String → Json) (options : SanitizeOptions)

structure Request where
  body : Json
  /-- The settings import routes and the provider parse their bodies after the middleware. -/
  parsesLater : Bool
  params : Json
  headers : Json
  queryString : String

inductive SanitizeTarget
  | body
  | params
  | headers
  | query

def sanitizeTargets : List SanitizeTarget := [.body, .params, .headers, .query]

/-- What a handler reads. The query string is parsed on each read. -/
def Request.read (request : Request) : SanitizeTarget → Json
  | .body => request.body
  | .params => request.params
  | .headers => request.headers
  | .query => parse request.queryString

/-- What the middleware reads. -/
def Request.readEarly (request : Request) : SanitizeTarget → Json
  | .body => if request.parsesLater then .null else request.body
  | target => request.read parse target

/-- The value that was read is changed in place. Nothing holds that of the query. The `params` that
a route gets are its own, with no '$' or '.' in their names. -/
def Request.mutate (request : Request) (value : Json) : SanitizeTarget → Request
  | .body => { request with body := value }
  | .params => { request with params := value }
  | .headers => { request with headers := value }
  | .query => request

def middleware (request : Request) : Request :=
  sanitizeTargets.foldl (fun request target =>
    let targetValue := request.readEarly parse target
    if targetValue.truthy then request.mutate (sanitizeInternal options targetValue) target
    else request) request

def HandlersReadSanitized (request : Request) : Prop :=
  ∀ target ∈ [SanitizeTarget.body, .params, .query],
    Sanitized options (request.read parse target)
      ((middleware parse options request).read parse target)

end Requests

variable {options : SanitizeOptions}

theorem test_replace {key text : String} (isText : options.replacement = some text) :
    options.test (options.replace key text) = false := by
  have allowed : options.test text = false := by
    have kept := (Option.filter_eq_some_iff.mp isText).2
    simp only [Bool.and_eq_true, Bool.not_eq_true'] at kept
    exact kept.1.1
  simp only [SanitizeOptions.test, SanitizeOptions.replace, String.toList_ofList,
    List.any_eq_false] at allowed ⊢
  intro letter member
  obtain ⟨original, _, isLetter⟩ := List.mem_flatMap.mp member
  split at isLetter
  · exact allowed letter isLetter
  · rename_i notProhibited
    rw [List.mem_singleton.mp isLetter]
    exact notProhibited

theorem visit_clean {properties : Properties} {key : String} (inner : Json)
    (isClean : options.test key = false) :
    visit options properties key inner =
      { properties with value := Function.update properties.value key inner } := by
  simp [visit, isClean]

/-- A visit keeps the keys it does not visit, with their values. -/
theorem visit_other {properties : Properties} {key name : String} (inner : Json)
    (isKey : name ∈ properties.keys) (different : name ≠ key) :
    name ∈ (visit options properties key inner).keys ∧
      (visit options properties key inner).value name = properties.value name := by
  have isOther : name ∈ properties.keys.filter (· != key) := by simp [isKey, different]
  unfold visit
  split
  · dsimp only
    split
    · exact ⟨isOther, rfl⟩
    · split
      · exact ⟨isOther, rfl⟩
      · rename_i text _ fresh
        have notNew : name ≠ options.replace key text := by
          rintro rfl
          simp [isOther] at fresh
        exact ⟨by simp [isKey, different], Function.update_of_ne notNew _ _⟩
  · exact ⟨isKey, Function.update_of_ne different _ _⟩

/-- A visit leaves no prohibited key but those that are yet to be visited. -/
theorem visit_cleans {properties : Properties} {key : String} {inner : Json} {rest : List String}
    (writes : options.dryRun = false) (isInner : hasProhibitedKeys options inner = false)
    (before : ∀ name ∈ properties.keys, name ∈ key :: rest ∨
      options.test name = false ∧ hasProhibitedKeys options (properties.value name) = false) :
    ∀ name ∈ (visit options properties key inner).keys, name ∈ rest ∨
      options.test name = false ∧
        hasProhibitedKeys options ((visit options properties key inner).value name) = false := by
  have others (name : String) (isOther : name ∈ properties.keys.filter (· != key)) :
      name ∈ rest ∨ options.test name = false ∧
        hasProhibitedKeys options (properties.value name) = false := by
    obtain ⟨isKey, different⟩ := List.mem_filter.mp isOther
    refine (before name isKey).imp_left fun listed => ?_
    exact (List.mem_cons.mp listed).resolve_left (by simpa using different)
  intro name member
  cases isClean : options.test key with
  | false =>
    rw [visit_clean inner isClean] at member ⊢
    by_cases same : name = key
    · subst same
      exact Or.inr ⟨isClean, by simpa using isInner⟩
    · simpa [Function.update_of_ne same] using others name (by simp [same, member])
  | true =>
    simp only [visit, isClean, writes, Bool.not_false, Bool.and_self, if_true] at member ⊢
    split at member
    · exact others name member
    · rename_i text isText
      split at member
      · rename_i dropped
        simpa only [dropped, if_true] using others name member
      · rename_i fresh
        simp only [fresh, if_false, Bool.false_eq_true]
        rcases List.mem_append.mp member with isOther | isNew
        · have notNew : name ≠ options.replace key text := by
            rintro rfl
            simp [isOther] at fresh
          rw [Function.update_of_ne notNew]
          exact others name isOther
        · rw [List.mem_singleton.mp isNew, Function.update_self]
          exact Or.inr ⟨test_replace isText, isInner⟩

theorem visits_clean {inner : String → Json} (writes : options.dryRun = false)
    (isInner : ∀ key, hasProhibitedKeys options (inner key) = false) :
    ∀ (rest : List String) (properties : Properties),
      (∀ name ∈ properties.keys, name ∈ rest ∨
        options.test name = false ∧ hasProhibitedKeys options (properties.value name) = false) →
      ∀ name ∈ (rest.foldl (fun properties key => visit options properties key (inner key))
        properties).keys, options.test name = false ∧ hasProhibitedKeys options
          ((rest.foldl (fun properties key => visit options properties key (inner key))
            properties).value name) = false := by
  intro rest
  induction rest with
  | nil => exact fun properties before name member =>
    (before name member).resolve_left List.not_mem_nil
  | cons key rest ih =>
    exact fun properties before => ih _ (visit_cleans writes (isInner key) before)

theorem sanitizeInternal_clean (writes : options.dryRun = false) (json : Json) :
    hasProhibitedKeys options (sanitizeInternal options json) = false := by
  induction json with
  | arr length item ih =>
    simp only [sanitizeInternal, hasProhibitedKeys, List.any_eq_false, List.mem_range]
    intro index bound
    simp [bound, ih index]
  | obj keys value ih =>
    have finished := visits_clean writes ih keys ⟨keys, value⟩ fun _ member => Or.inl member
    simp only [sanitizeInternal, hasProhibitedKeys, List.any_eq_false]
    intro name member
    simp [finished name member]
  | _ => rfl

/-- What is clean stays as it is. -/
theorem sanitizeInternal_of_clean {json : Json}
    (isClean : hasProhibitedKeys options json = false) :
    sanitizeInternal options json = json := by
  induction json with
  | arr length item ih =>
    simp only [hasProhibitedKeys, List.any_eq_false, List.mem_range] at isClean
    simp only [sanitizeInternal, Json.arr.injEq, true_and]
    funext index
    split
    · rename_i bound
      exact ih index (by simpa using isClean index bound)
    · rfl
  | obj keys value ih =>
    have visited : ∀ key ∈ keys,
        visit options ⟨keys, value⟩ key (sanitizeInternal options (value key)) =
          ⟨keys, value⟩ := by
      intro key member
      have both : options.test key = false ∧ hasProhibitedKeys options (value key) = false := by
        simpa using List.any_eq_false.mp isClean key member
      simp [visit_clean _ both.1, ih key both.2]
    have finished : keys.foldl (fun properties key => visit options properties key
        (sanitizeInternal options (value key))) ⟨keys, value⟩ = ⟨keys, value⟩ := by
      refine List.foldlRecOn keys _ (motive := (· = Properties.mk keys value)) rfl ?_
      rintro properties rfl key member
      exact visited key member
    simp only [sanitizeInternal, finished]
  | _ => rfl

/-- The visits keep each clean key, with what becomes of its value. -/
theorem visits_keep {inner : String → Json} {name : String}
    (isClean : options.test name = false) :
    ∀ (rest : List String) (properties : Properties), name ∈ properties.keys →
      (name ∈ rest ∨ properties.value name = inner name) →
      name ∈ (rest.foldl (fun properties key => visit options properties key (inner key))
        properties).keys ∧
        (rest.foldl (fun properties key => visit options properties key (inner key))
          properties).value name = inner name := by
  intro rest
  induction rest with
  | nil => exact fun properties isKey before =>
    ⟨isKey, before.resolve_left List.not_mem_nil⟩
  | cons key rest ih =>
    intro properties isKey before
    rw [List.foldl_cons]
    by_cases same : name = key
    · subst same
      rw [visit_clean _ isClean]
      exact ih _ isKey (Or.inr (by simp))
    · obtain ⟨stays, sameValue⟩ := @visit_other options _ _ _ (inner key) isKey same
      refine ih _ stays (before.imp (fun listed => ?_) fun isValue => sameValue.trans isValue)
      exact (List.mem_cons.mp listed).resolve_left same

theorem reached_sanitizeInternal {json entry : Json} {path : List Step}
    (isClean : path.all (isCleanStep options) = true) (isEntry : reached json path = some entry) :
    reached (sanitizeInternal options json) path = some (sanitizeInternal options entry) := by
  induction json, path using Json.reached.induct with
  | case1 json => simp_all [reached]
  | case2 keys value name rest member ih =>
    simp only [List.all_cons, Bool.and_eq_true, isCleanStep, Bool.not_eq_true'] at isClean
    obtain ⟨stays, isValue⟩ := @visits_keep options
      (fun key => sanitizeInternal options (value key)) name isClean.1 keys ⟨keys, value⟩
      member (Or.inl member)
    simp only [reached, member, if_true] at isEntry
    simp only [sanitizeInternal, reached, stays, if_true, isValue]
    exact ih isClean.2 isEntry
  | case3 keys value name rest missing => simp [reached, missing] at isEntry
  | case4 length item position rest bound ih =>
    simp only [List.all_cons, Bool.and_eq_true] at isClean
    simp only [reached, bound, if_true] at isEntry
    simp only [sanitizeInternal, reached, bound, if_true]
    exact ih isClean.2 isEntry
  | case5 length item position rest outside => simp [reached, outside] at isEntry
  | case6 json step rest noKey noIndex => simp [reached] at isEntry

theorem sanitized_self {json : Json} (isClean : hasProhibitedKeys options json = false) :
    Sanitized options json json :=
  ⟨isClean, fun _ _ _ isEntry _ => isEntry, sanitizeInternal_of_clean isClean⟩

theorem sanitized_sanitizeInternal (writes : options.dryRun = false) (json : Json) :
    Sanitized options json (sanitizeInternal options json) where
  clean := sanitizeInternal_clean writes json
  unchanged path entry isPath isEntry isClean := by
    rw [reached_sanitizeInternal isPath isEntry, sanitizeInternal_of_clean isClean]
  settled := sanitizeInternal_of_clean (sanitizeInternal_clean writes json)

theorem clean_of_falsy {json : Json} (isFalsy : json.truthy = false) :
    hasProhibitedKeys options json = false := by
  cases json with
  | arr _ _ | obj _ _ => cases isFalsy
  | _ => rfl

theorem sanitized_of_truthy (writes : options.dryRun = false) (json : Json) :
    Sanitized options json
      (if json.truthy = true then sanitizeInternal options json else json) := by
  split
  · exact sanitized_sanitizeInternal writes json
  · rename_i notTruthy
    exact sanitized_self (clean_of_falsy (by simpa using notTruthy))

theorem middleware_eq (parse : String → Json) (request : Request) :
    middleware parse options request =
      { request with
        body := if request.parsesLater = false ∧ request.body.truthy = true then
          sanitizeInternal options request.body else request.body
        params := if request.params.truthy = true then sanitizeInternal options request.params
          else request.params
        headers := if request.headers.truthy = true then sanitizeInternal options request.headers
          else request.headers } := by
  have isNull : Json.null.truthy = false := rfl
  rcases request with ⟨body, parsesLater, params, headers, queryString⟩
  cases parsesLater <;> cases isBody : body.truthy <;> cases isParams : params.truthy <;>
    cases isHeaders : headers.truthy <;> cases isQuery : (parse queryString).truthy <;>
    simp [middleware, sanitizeTargets, Request.readEarly, Request.read, Request.mutate, isBody,
      isParams, isHeaders, isQuery, isNull]

theorem operatorKeys_removed_iff (parse : String → Json) (replaceWith : Option String)
    (allowDots : Bool) (request : Request) :
    ((∀ json, Sanitized ⟨replaceWith, allowDots, false⟩ json
        (sanitizeInternal ⟨replaceWith, allowDots, false⟩ json)) ∧
      HandlersReadSanitized parse ⟨replaceWith, allowDots, false⟩ request) ↔
      hasProhibitedKeys ⟨replaceWith, allowDots, false⟩ (parse request.queryString) = false ∧
        (request.parsesLater = true →
          hasProhibitedKeys ⟨replaceWith, allowDots, false⟩ request.body = false) := by
  generalize isOptions : SanitizeOptions.mk replaceWith allowDots false = options
  have writes : options.dryRun = false := by rw [← isOptions]
  rw [HandlersReadSanitized, middleware_eq]
  constructor
  · rintro ⟨-, reads⟩
    refine ⟨(reads .query (by simp)).clean, fun later => ?_⟩
    simpa [Request.read, later] using (reads .body (by simp)).clean
  · rintro ⟨cleanQuery, cleanBody⟩
    refine ⟨sanitized_sanitizeInternal writes, fun target member => ?_⟩
    cases target with
    | body =>
      cases later : request.parsesLater with
      | true => simpa [Request.read] using sanitized_self (cleanBody later)
      | false => simpa [Request.read] using sanitized_of_truthy writes request.body
    | params => exact sanitized_of_truthy writes request.params
    | query => exact sanitized_self cleanQuery
    | headers => simp at member

theorem query_operator_reaches_handler :
    ¬HandlersReadSanitized (fun _ => .object [("$where", .str "1")]) ⟨some "_", false, false⟩
      ⟨.null, false, .object [], .object [], "$where=1"⟩ := by
  intro reads
  have isClean := (reads .query (by simp)).clean
  revert isClean
  decide

end ParakoId.Middlewares
