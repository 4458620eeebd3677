import ParakoId.Redirects.Intents

/-!
A stored redirect intent is used once at most, in time and for its own type, and every way of
asking for it reports it alike.
-/

namespace ParakoId.Redirects

open Url (Text)

def IsStable (toLowerCase : Text → Text) : Prop :=
  ∀ text part : Text, part <:+: toLowerCase text → toLowerCase part = part

section Proofs

variable {Metadata : Type} {environment : Environment}

theorem trim_part (text : Text) : trim text <:+: text :=
  (List.rdropWhile_prefix _ _).isInfix.trans (List.dropWhile_suffix _).isInfix

theorem normalized_normalized (stable : IsStable environment.toLowerCase) (intent : Text) :
    normalized environment (normalized environment intent) = normalized environment intent := by
  have lowered : environment.toLowerCase (normalized environment intent) =
      normalized environment intent :=
    stable intent _ (trim_part _)
  rw [normalized, lowered]
  exact Text.trimmed_trimmed _

theorem storeIntent_cases (environment : Environment) (state : State Metadata)
    (request : Storing Metadata) :
    ((storeIntent environment state request).1 = false ∧
      (storeIntent environment state request).2.redirectIntent = state.redirectIntent) ∨
    ((storeIntent environment state request).1 = true ∧
      ∃ stored, (storeIntent environment state request).2.redirectIntent = some stored ∧
        stored.metadata = request.metadata ∧
        stored.intent = normalized environment request.intent) := by
  unfold storeIntent
  split
  · exact .inl ⟨rfl, rfl⟩
  · split
    · exact .inr ⟨rfl, _, rfl, rfl, rfl⟩
    · split
      · dsimp only
        split
        · exact .inr ⟨rfl, _, rfl, rfl, rfl⟩
        · exact .inl ⟨rfl, rfl⟩
      · exact .inl ⟨rfl, rfl⟩

theorem read_some {state : State Metadata} {expectedIntent : Text} {consume : Bool} {maxAge : Int}
    {redirectIntent : RedirectIntent Metadata}
    (returned : (getIntentWithMetadata environment state expectedIntent consume maxAge).1 =
      some redirectIntent) :
    state.redirectIntent = some redirectIntent ∧
      normalized environment redirectIntent.intent = normalized environment expectedIntent ∧
      (state.now : Int) - redirectIntent.timestamp ≤ maxAge ∧
      (getIntentWithMetadata environment state expectedIntent consume maxAge).2 =
        if consume then clearIntent state else state := by
  unfold getIntentWithMetadata at returned ⊢
  split at returned
  · cases returned
  next given =>
    rw [if_neg given]
    cases inSession : state.redirectIntent with
    | none =>
      rw [inSession] at returned
      cases returned
    | some stored =>
      simp only [inSession] at returned ⊢
      split at returned
      · cases returned
      next sameType =>
        split at returned
        · cases returned
        next young =>
          rw [if_neg sameType, if_neg young]
          injection returned with returned
          subst returned
          exact ⟨rfl, not_not.mp sameType, Int.not_lt.mp young, rfl⟩

theorem read_keeps (environment : Environment) (state : State Metadata) (expectedIntent : Text)
    (consume : Bool) (maxAge : Int) :
    (getIntentWithMetadata environment state expectedIntent consume maxAge).2.redirectIntent =
        state.redirectIntent ∨
      (getIntentWithMetadata environment state expectedIntent consume maxAge).2.redirectIntent =
        none := by
  unfold getIntentWithMetadata
  split
  · exact .inl rfl
  · split
    · exact .inl rfl
    · dsimp only
      split
      · exact .inl rfl
      · split
        · exact .inr rfl
        · cases consume
          · exact .inl rfl
          · exact .inr rfl

structure UsedOnce (environment : Environment) (all : List Used) : Prop where
  once : (all.map fun used => used.tag.serial).Nodup
  inTime : ∀ used ∈ all, used.age ≤ used.maxAge
  ownType : ∀ used ∈ all,
    normalized environment used.expectedIntent = normalized environment used.tag.storedFor

structure Traced (environment : Environment) (history : History Metadata) : Prop where
  usedOnce : UsedOnce environment history.used
  numbered : ∀ used ∈ history.used, used.tag.serial < history.stored
  unused : ∀ redirectIntent, history.state.redirectIntent = some redirectIntent →
    redirectIntent.metadata.1.serial < history.stored ∧
      redirectIntent.intent = normalized environment redirectIntent.metadata.1.storedFor ∧
      ∀ used ∈ history.used, used.tag.serial ≠ redirectIntent.metadata.1.serial

theorem traced_of_intent {history : History Metadata} (isTraced : Traced environment history)
    {state : State (Tag × Metadata)}
    (kept : state.redirectIntent = history.state.redirectIntent ∨ state.redirectIntent = none) :
    Traced environment { history with state := state } := by
  refine ⟨isTraced.usedOnce, isTraced.numbered, ?_⟩
  intro redirectIntent inSession
  rcases kept with same | gone
  · exact isTraced.unused redirectIntent (same.symm.trans inSession)
  · rw [gone] at inSession
    cases inSession

theorem read_traced (stable : IsStable environment.toLowerCase) {history : History Metadata}
    (isTraced : Traced environment history) (expectedIntent : Text) (consume : Bool)
    (maxAge : Int) :
    Traced environment (read environment history expectedIntent consume maxAge) := by
  have kept := read_keeps environment history.state expectedIntent consume maxAge
  unfold read
  dsimp only
  cases returned :
      (getIntentWithMetadata environment history.state expectedIntent consume maxAge).1 with
  | none => exact traced_of_intent isTraced kept
  | some redirectIntent =>
    obtain ⟨inSession, sameType, young, after⟩ := read_some returned
    obtain ⟨isNumbered, isNormalized, isUnused⟩ := isTraced.unused redirectIntent inSession
    cases consume with
    | false => exact traced_of_intent isTraced kept
    | true =>
      have ownType : normalized environment expectedIntent =
          normalized environment redirectIntent.metadata.1.storedFor := by
        rw [← sameType, isNormalized, normalized_normalized stable]
      refine ⟨⟨?_, ?_, ?_⟩, ?_, ?_⟩
      · refine List.nodup_cons.mpr ⟨?_, isTraced.usedOnce.once⟩
        intro member
        obtain ⟨used, isUsed, sameSerial⟩ := List.mem_map.mp member
        exact isUnused used isUsed sameSerial
      · rintro used (_ | ⟨_, earlier⟩)
        · exact young
        · exact isTraced.usedOnce.inTime used earlier
      · rintro used (_ | ⟨_, earlier⟩)
        · exact ownType
        · exact isTraced.usedOnce.ownType used earlier
      · rintro used (_ | ⟨_, earlier⟩)
        · exact isNumbered
        · exact isTraced.numbered used earlier
      · intro left inSessionAfter
        dsimp only at inSessionAfter
        rw [after, if_pos rfl] at inSessionAfter
        cases inSessionAfter

theorem step_traced (stable : IsStable environment.toLowerCase) {history : History Metadata}
    (isTraced : Traced environment history) (event : Event Metadata) :
    Traced environment (step environment history event) := by
  cases event with
  | storeIntent request =>
    unfold step
    dsimp only
    rcases storeIntent_cases environment history.state (tagged history request)
      with ⟨failed, kept⟩ | ⟨stored, redirectIntent, inSession, isTagged, isNormalized⟩
    · rw [failed]
      exact traced_of_intent isTraced (.inl kept)
    · rw [stored]
      refine ⟨isTraced.usedOnce, ?_, ?_⟩
      · intro used member
        exact (isTraced.numbered used member).trans (Nat.lt_succ_self _)
      · intro other isOther
        obtain rfl := Option.some.inj (inSession.symm.trans isOther)
        rw [isTagged, isNormalized]
        refine ⟨Nat.lt_succ_self _, rfl, ?_⟩
        intro used member
        exact (isTraced.numbered used member).ne
  | getIntent expectedIntent consume maxAge =>
    exact read_traced stable isTraced expectedIntent consume maxAge
  | getIntentWithMetadata expectedIntent consume maxAge =>
    exact read_traced stable isTraced expectedIntent consume maxAge
  | hasIntent expectedIntent => exact isTraced
  | clearIntent => exact traced_of_intent isTraced (.inr rfl)
  | clock now => exact traced_of_intent isTraced (.inl rfl)

theorem run_traced (stable : IsStable environment.toLowerCase) {start : History Metadata}
    (isTraced : Traced environment start) (events : List (Event Metadata)) :
    Traced environment (Runs.run (step environment) start events) := by
  have keeps : ∀ (history : History Metadata) event, Traced environment history →
      Traced environment (step environment history event) :=
    fun _ event before => step_traced stable before event
  exact Runs.invariant (step environment) keeps isTraced events

end Proofs

/-- At the default maximum age, `hasIntent` and reads that leave the intent in place tell what a
consuming read returns. -/
structure ReportsAlike {Metadata : Type} (environment : Environment) (state : State Metadata)
    (expectedIntent : Text) : Prop where
  presence : hasIntent environment state (some expectedIntent) =
    (getIntent environment state expectedIntent true DEFAULT_INTENT_EXPIRATION).1.isSome
  url : (getIntent environment state expectedIntent false DEFAULT_INTENT_EXPIRATION).1 =
    (getIntent environment state expectedIntent true DEFAULT_INTENT_EXPIRATION).1
  withMetadata :
    (getIntentWithMetadata environment state expectedIntent false DEFAULT_INTENT_EXPIRATION).1 =
      (getIntentWithMetadata environment state expectedIntent true DEFAULT_INTENT_EXPIRATION).1
  both : (getIntent environment state expectedIntent true DEFAULT_INTENT_EXPIRATION).1.isSome =
    (getIntentWithMetadata environment state expectedIntent true
      DEFAULT_INTENT_EXPIRATION).1.isSome

theorem getIntent_fst {Metadata : Type} (environment : Environment) (state : State Metadata)
    (expectedIntent : Text) (consume : Bool) (maxAge : Int) :
    (getIntent environment state expectedIntent consume maxAge).1 =
      (getIntentWithMetadata environment state expectedIntent consume maxAge).1.map
        RedirectIntent.url := rfl

theorem read_peek {Metadata : Type} (environment : Environment) (state : State Metadata)
    (expectedIntent : Text) (maxAge : Int) :
    (getIntentWithMetadata environment state expectedIntent false maxAge).1 =
      (getIntentWithMetadata environment state expectedIntent true maxAge).1 := by
  unfold getIntentWithMetadata
  split
  · rfl
  · split
    · rfl
    · dsimp only
      split
      · rfl
      · split <;> rfl

theorem hasIntent_eq {Metadata : Type} (environment : Environment) (state : State Metadata)
    {expectedIntent : Text} (given : expectedIntent ≠ []) :
    hasIntent environment state (some expectedIntent) =
      (getIntentWithMetadata environment state expectedIntent true
        DEFAULT_INTENT_EXPIRATION).1.isSome := by
  obtain ⟨first, rest, rfl⟩ := List.exists_cons_of_ne_nil given
  rw [hasIntent, getIntentWithMetadata, if_neg given]
  cases state.redirectIntent with
  | none => rfl
  | some redirectIntent =>
    dsimp only
    by_cases sameType : normalized environment redirectIntent.intent =
        normalized environment (first :: rest)
    · rw [if_neg (not_not.mpr sameType), decide_eq_true sameType]
      by_cases old : (state.now : Int) - redirectIntent.timestamp > DEFAULT_INTENT_EXPIRATION
      · rw [if_pos old, if_pos old]
        rfl
      · rw [if_neg old, if_neg old]
        rfl
    · rw [if_pos sameType, decide_eq_false sameType, ite_self]
      rfl

theorem reportsAlike {Metadata : Type} (environment : Environment) (state : State Metadata)
    {expectedIntent : Text} (given : expectedIntent ≠ []) :
    ReportsAlike environment state expectedIntent where
  presence := by rw [hasIntent_eq environment state given, getIntent_fst, Option.isSome_map]
  url := by rw [getIntent_fst, getIntent_fst, read_peek]
  withMetadata := read_peek environment state expectedIntent _
  both := by rw [getIntent_fst, Option.isSome_map]

def start {Metadata : Type} (authority : Authority) (now : Nat) : History Metadata where
  state := ⟨now, authority, none⟩

/-- In every run on one session an intent is used once at most, in time and for its own type, and
asking for a nonempty type reports what a consuming read would return. -/
theorem redirect_intents_used_once {Metadata : Type} (environment : Environment)
    (stable : IsStable environment.toLowerCase) (authority : Authority) (now : Nat)
    (events : List (Event Metadata)) :
    UsedOnce environment (Runs.run (step environment) (start authority now) events).used ∧
      ∀ expectedIntent, expectedIntent ≠ [] →
        ReportsAlike environment
          (Runs.run (step environment) (start authority now) events).state expectedIntent := by
  have initial : Traced environment (start authority now : History Metadata) := by
    refine ⟨⟨List.nodup_nil, ?_, ?_⟩, ?_, ?_⟩
    all_goals rintro _ ⟨⟩
  exact ⟨(run_traced stable initial events).usedOnce,
    fun expectedIntent given => reportsAlike environment _ given⟩

def localAuthority : Authority where
  deploymentUrl := []
  trustedDomains := []
  knowsClients := false
  clientDomains := none

def loginIntent : Storing Unit where
  url := ['/', 'm', 'e']
  intent := ['L', 'o', 'g', 'i', 'n']
  metadata := ()

def afterLogin : List (Event Unit) :=
  [.storeIntent loginIntent, .clock 60000, .getIntent ['l', 'o', 'g', 'i', 'n'] true 3600000]

theorem login_intent_used_once :
    (Runs.run (step plainEnvironment) (start localAuthority 0) afterLogin).used.length = 1 ∧
      UsedOnce plainEnvironment
        (Runs.run (step plainEnvironment) (start localAuthority 0) afterLogin).used :=
  ⟨by decide, (redirect_intents_used_once plainEnvironment (fun _ _ => Url.lower_part)
    localAuthority 0 afterLogin).1⟩

theorem empty_type_reported :
    ¬ReportsAlike plainEnvironment
      (Runs.run (step plainEnvironment) (start localAuthority 0)
        [.storeIntent loginIntent]).state [] := by
  intro alike
  exact absurd alike.presence (by decide)

end ParakoId.Redirects
