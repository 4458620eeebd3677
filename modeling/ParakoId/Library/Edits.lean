import ParakoId.Library.Json

/-!
Changes of JSON values in place: of the value at one path, of the values at several
separate paths, and of the items of an array when a change may fail.
-/

namespace Json

@[grind =]
def modify (change : Json → Json) : Path → Json → Json
  | [], json => change json
  | key :: rest, .obj keys value =>
    .obj keys fun name =>
      if name = key ∧ key ∈ keys then modify change rest (value key) else value name
  | _ :: _, other => other

theorem lookup_modify_self (change : Json → Json) (path : Path) (json : Json) :
    (modify change path json).lookup path = (json.lookup path).map change := by
  induction path generalizing json with
  | nil => simp [modify, Lookup.map]
  | cons key rest ih =>
    cases json with
    | obj keys value =>
      by_cases member : key ∈ keys
      · simp [modify, member, ih]
      · simp [modify, member, Lookup.map]
    | _ => simp [modify, lookup, Lookup.map]

theorem lookup_modify_apart (change : Json → Json) {modified path : Path}
    (separated : apart modified path = true) (json : Json) :
    (modify change modified json).lookup path = json.lookup path := by
  induction modified generalizing path json with
  | nil => simp [apart] at separated
  | cons key rest ih =>
    cases path with
    | nil => simp [apart] at separated
    | cons other otherRest =>
      simp only [apart, Bool.or_eq_true, bne_iff_ne] at separated
      cases json with
      | obj keys value =>
        by_cases same : other = key
        · subst same
          have restApart := separated.resolve_left (fun different => different rfl)
          by_cases member : other ∈ keys
          · simp [modify, member, ih restApart]
          · simp [modify, member]
        · simp [modify, same]
      | _ => rfl

theorem modify_comm (first second : Json → Json) {path other : Path}
    (separated : apart path other = true) (json : Json) :
    modify first path (modify second other json) =
      modify second other (modify first path json) := by
  induction path generalizing other json with
  | nil => simp [apart] at separated
  | cons key rest ih =>
    cases other with
    | nil => simp [apart] at separated
    | cons otherKey otherRest =>
      simp only [apart, Bool.or_eq_true, bne_iff_ne] at separated
      cases json with
      | obj keys value =>
        simp only [modify, obj.injEq, true_and]
        funext name
        by_cases same : key = otherKey
        · subst same
          have restApart := separated.resolve_left (fun different => different rfl)
          by_cases here : name = key ∧ key ∈ keys
          · obtain ⟨rfl, member⟩ := here
            simp [member, ih restApart]
          · simp [here]
        · by_cases here : name = key ∧ key ∈ keys
          · simp [here, same]
          · by_cases there : name = otherKey ∧ otherKey ∈ keys
            · simp [there, Ne.symm same]
            · simp [here, there]
      | _ => rfl

theorem modify_modify (first second : Json → Json) (path : Path) (json : Json) :
    modify first path (modify second path json) = modify (first ∘ second) path json := by
  induction path generalizing json with
  | nil => rfl
  | cons key rest ih =>
    cases json with
    | obj keys value =>
      simp only [modify, obj.injEq, true_and]
      funext name
      by_cases here : name = key ∧ key ∈ keys
      · obtain ⟨rfl, member⟩ := here
        simp [member, ih]
      · simp [here]
    | _ => rfl

theorem modify_eq_self {change : Json → Json} {path : Path} {json : Json}
    (unchanged : ∀ leaf, json.lookup path = .found leaf → change leaf = leaf) :
    modify change path json = json := by
  induction path generalizing json with
  | nil => exact unchanged json (lookup_nil json)
  | cons key rest ih =>
    cases json with
    | obj keys value =>
      simp only [modify, obj.injEq, true_and]
      funext name
      by_cases here : name = key ∧ key ∈ keys
      · obtain ⟨rfl, member⟩ := here
        simp only [member, and_self, if_true]
        apply ih
        intro leaf found
        exact unchanged leaf (by simpa [member] using found)
      · simp [here]
    | _ => rfl

theorem modify_missing {change : Json → Json} {path : Path} {json : Json}
    (missing : (json.lookup path).toOption = none) : modify change path json = json := by
  apply modify_eq_self
  intro leaf found
  simp [found, Lookup.toOption] at missing

theorem write_of_found (change : Json → Json) {leaf : Json} {path : Path} {json : Json}
    (found : json.lookup path = .found leaf) :
    write (change leaf) path json = modify change path json := by
  induction path generalizing json with
  | nil =>
    simp only [lookup_nil, Lookup.found.injEq] at found
    simp [write, modify, found]
  | cons key rest ih =>
    cases json with
    | obj keys value =>
      have member : key ∈ keys := by
        by_contra missing
        simp [missing] at found
      simp only [lookup_obj, member, if_true] at found
      simp only [write, modify, member, if_true, true_and, and_true, obj.injEq]
      funext name
      by_cases here : name = key
      · simp only [here, if_true]
        cases rest with
        | nil =>
          simp only [lookup_nil, Lookup.found.injEq] at found
          simp [write, modify, found]
        | cons next others =>
          have reference : isReference (value key) = true := by
            cases holds : value key <;> simp_all [lookup, isReference]
          simpa [reference] using ih found
      · simp [here]
    | _ => simp [lookup] at found

theorem write_same {json leaf : Json} {path : Path} (found : json.lookup path = .found leaf) :
    write leaf path json = json := by
  have written := write_of_found id found
  have unchanged : modify id path json = json := modify_eq_self fun _ _ => rfl
  rw [unchanged] at written
  exact written

theorem clone_modify {change : Json → Json}
    (natural : ∀ json, (change json).clone = change json.clone)
    (path : Path) (json : Json) : (modify change path json).clone = modify change path json.clone := by
  induction path generalizing json with
  | nil => exact natural json
  | cons key rest ih =>
    cases json with
    | obj keys value =>
      simp only [modify, clone, obj.injEq, true_and]
      funext name
      by_cases here : name = key ∧ key ∈ keys
      · simp only [here, and_self, if_true, ih]
      · simp only [here, if_false]
    | num value => cases value <;> rfl
    | _ => rfl

section SeparatePaths

def modifyAll (change : Path → Json → Json) (paths : List Path) (json : Json) : Json :=
  paths.foldl (fun changed path => modify (change path) path changed) json

variable {change : Path → Json → Json} {paths : List Path}

theorem modifyAll_cons (path : Path) (json : Json) :
    modifyAll change (path :: paths) json = modifyAll change paths (modify (change path) path json) :=
  rfl

theorem lookup_modifyAll_apart {path : Path} (separated : ∀ other ∈ paths, apart other path = true)
    (json : Json) : (modifyAll change paths json).lookup path = json.lookup path := by
  induction paths generalizing json with
  | nil => rfl
  | cons first rest ih =>
    rw [modifyAll_cons, ih fun other member => separated other (List.mem_cons_of_mem _ member)]
    exact lookup_modify_apart _ (separated first List.mem_cons_self) json

theorem lookup_modifyAll (separated : paths.Pairwise fun first second => apart first second = true)
    {path : Path} (member : path ∈ paths) (json : Json) :
    (modifyAll change paths json).lookup path = (json.lookup path).map (change path) := by
  induction paths generalizing json with
  | nil => simp at member
  | cons first rest ih =>
    rw [List.pairwise_cons] at separated
    rw [modifyAll_cons]
    rcases List.mem_cons.mp member with rfl | inRest
    · have later : ∀ other ∈ rest, apart other path = true := by
        intro other inRest
        rw [apart_symm]
        exact separated.1 other inRest
      rw [lookup_modifyAll_apart later, lookup_modify_self]
    · rw [ih separated.2 inRest, lookup_modify_apart _ (separated.1 path inRest)]

theorem modify_modifyAll (other : Json → Json) {path : Path}
    (separated : ∀ changed ∈ paths, apart path changed = true) (json : Json) :
    modify other path (modifyAll change paths json) =
      modifyAll change paths (modify other path json) := by
  induction paths generalizing json with
  | nil => rfl
  | cons first rest ih =>
    rw [modifyAll_cons, modifyAll_cons,
      ih fun changed member => separated changed (List.mem_cons_of_mem _ member),
      modify_comm _ _ (separated first List.mem_cons_self)]

theorem modifyAll_modifyAll
    (separated : paths.Pairwise fun first second => apart first second = true)
    (second : Path → Json → Json) (json : Json) :
    modifyAll second paths (modifyAll change paths json) =
      modifyAll (fun path => second path ∘ change path) paths json := by
  induction paths generalizing json with
  | nil => rfl
  | cons first rest ih =>
    rw [List.pairwise_cons] at separated
    rw [modifyAll_cons, modifyAll_cons, modifyAll_cons, modify_modifyAll _ separated.1,
      modify_modify, ih separated.2]

theorem modifyAll_eq_self_iff
    (separated : paths.Pairwise fun first second => apart first second = true) (json : Json) :
    modifyAll change paths json = json ↔
      ∀ path ∈ paths, ∀ leaf, json.lookup path = .found leaf → change path leaf = leaf := by
  constructor
  · intro unchanged path member leaf found
    have changed : (modifyAll change paths json).lookup path = (json.lookup path).map (change path) :=
      lookup_modifyAll separated member json
    rw [unchanged, found] at changed
    simpa [Lookup.map] using changed.symm
  · intro unchanged
    induction paths with
    | nil => rfl
    | cons first rest ih =>
      rw [List.pairwise_cons] at separated
      rw [modifyAll_cons, modify_eq_self (unchanged first List.mem_cons_self)]
      exact ih separated.2 fun path member => unchanged path (List.mem_cons_of_mem _ member)

theorem clone_modifyAll (natural : ∀ path json, (change path json).clone = change path json.clone)
    (json : Json) : (modifyAll change paths json).clone = modifyAll change paths json.clone := by
  induction paths generalizing json with
  | nil => rfl
  | cons first rest ih => rw [modifyAll_cons, modifyAll_cons, ih, clone_modify (natural first)]

end SeparatePaths

section Items

variable {Problem Element : Type}

/-- The items below a length, each changed; the first change that fails is the result. -/
@[grind =]
def mapItems (change : Nat → Element → Except Problem Element) :
    Nat → (Nat → Element) → Except Problem (Nat → Element)
  | 0, item => .ok item
  | length + 1, item =>
    match mapItems change length item with
    | .error problem => .error problem
    | .ok changed => match change length (item length) with
      | .error problem => .error problem
      | .ok last => .ok (Function.update changed length last)

variable {change : Nat → Element → Except Problem Element} {length : Nat} {item : Nat → Element}

theorem mapItems_spec {changed : Nat → Element}
    (mapped : mapItems change length item = .ok changed) :
    (∀ index < length, change index (item index) = .ok (changed index)) ∧
      ∀ index, length ≤ index → changed index = item index := by
  induction length generalizing changed with
  | zero =>
    simp only [mapItems, Except.ok.injEq] at mapped
    simp [mapped]
  | succ length ih =>
    simp only [mapItems] at mapped
    split at mapped
    next => simp at mapped
    next earlier earlierMapped =>
      split at mapped
      next => simp at mapped
      next last lastChanged =>
        obtain ⟨below, above⟩ := ih earlierMapped
        simp only [Except.ok.injEq] at mapped
        subst mapped
        constructor
        · intro index bound
          by_cases here : index = length
          · simpa [here] using lastChanged
          · simpa [here] using below index (by omega)
        · intro index bound
          have different : index ≠ length := by omega
          simpa [different] using above index (by omega)

theorem mapItems_failed {problem : Problem}
    (failed : mapItems change length item = .error problem) :
    ∃ index < length, ∃ first, change index (item index) = .error first := by
  induction length with
  | zero => simp [mapItems] at failed
  | succ length ih =>
    simp only [mapItems] at failed
    cases mapped : mapItems change length item with
    | error earlier =>
      obtain ⟨index, bound, first, fails⟩ := ih (by simpa [mapped] using failed)
      exact ⟨index, by omega, first, fails⟩
    | ok changed =>
      cases last : change length (item length) with
      | error first => exact ⟨length, by omega, first, last⟩
      | ok value => simp [mapped, last] at failed

theorem mapItems_map {other : Element → Element}
    (natural : ∀ index element, change index (other element) = (change index element).map other) :
    mapItems change length (other ∘ item) = (mapItems change length item).map (other ∘ ·) := by
  induction length with
  | zero => rfl
  | succ length ih =>
    simp only [mapItems, ih, Function.comp_apply, natural]
    cases mapItems change length item with
    | error problem => rfl
    | ok changed =>
      cases change length (item length) with
      | error problem => rfl
      | ok last => simp [Except.map, Function.comp_update]

end Items

end Json
