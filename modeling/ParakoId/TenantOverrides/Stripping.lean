import ParakoId.TenantOverrides.Service

/-!
What stripping leaves of a submitted document: at each allowed path the last value that was
submitted for it, unless it is empty, and no section without such a value.
-/

namespace ParakoId.TenantOverrides

open Json (Path Lookup)
open Config (getNestedValue setNestedValue)

theorem allowed_pairwise : ALLOWED_TENANT_FIELDS.Pairwise fun first second =>
    Json.apart first second = true :=
  @Json.pairwise_of_separate 6 _ (by decide +kernel)

theorem allowed_wellFormed : ∀ field ∈ ALLOWED_TENANT_FIELDS,
    field ≠ [] ∧ "__proto__" ∉ field := by
  decide +kernel

theorem allowed_apart {first second : Path} (firstAllowed : first ∈ ALLOWED_TENANT_FIELDS)
    (secondAllowed : second ∈ ALLOWED_TENANT_FIELDS) (different : first ≠ second) :
    Json.apart first second = true := by
  have symmetric : Std.Symm fun first second : Path => Json.apart first second = true :=
    ⟨fun first second separate => (Json.apart_symm second first).trans separate⟩
  exact List.Pairwise.forall allowed_pairwise firstAllowed secondAllowed different

theorem allowed_nonempty {field : Path} (allowed : field ∈ ALLOWED_TENANT_FIELDS) : field ≠ [] :=
  (allowed_wellFormed field allowed).1

theorem allowed_noProto {field : Path} (allowed : field ∈ ALLOWED_TENANT_FIELDS) :
    "__proto__" ∉ field :=
  (allowed_wellFormed field allowed).2

theorem walk_allowed {parent : Path} {json : Json} {entry : Path × Json}
    (member : entry ∈ walk parent json) : entry.1 ∈ ALLOWED_TENANT_FIELDS := by
  induction json generalizing parent with
  | obj keys value ih =>
    simp only [walk, List.mem_flatMap] at member
    obtain ⟨key, _, member⟩ := member
    split at member
    · rename_i allowed
      rw [List.mem_singleton.mp member]
      exact allowed
    · exact ih key member
  | _ => simp [walk] at member

def assigned (fields : List (Path × Json)) (field : Path) : Option Json :=
  fields.reverse.lookup field

def ofOption : Option Json → Lookup
  | some value => .found value
  | none => .absent

theorem setAll_append (fields : List (Path × Json)) (entry : Path × Json) :
    setAll (fields ++ [entry]) = setNestedValue (setAll fields) entry.1 entry.2 := by
  simp [setAll, List.foldl_append]

theorem lookup_setAll {fields : List (Path × Json)}
    (allowed : ∀ entry ∈ fields, entry.1 ∈ ALLOWED_TENANT_FIELDS) {field : Path}
    (fieldAllowed : field ∈ ALLOWED_TENANT_FIELDS) :
    (setAll fields).lookup field = ofOption (assigned fields field) := by
  induction fields using List.reverseRecOn with
  | nil =>
    obtain ⟨key, rest, rfl⟩ := List.exists_cons_of_ne_nil (allowed_nonempty fieldAllowed)
    simp [assigned, ofOption, setAll, emptyObject]
  | append_singleton before entry ih =>
    have previous := ih fun other member => allowed other (List.mem_append_left _ member)
    have isOpen : (setAll before).lookup field ≠ .blocked := by
      rw [previous]
      cases assigned before field <;> simp [ofOption]
    obtain ⟨path, value⟩ := entry
    rw [setAll_append]
    simp only [setNestedValue, assigned, List.reverse_append, List.reverse_singleton,
      List.singleton_append, List.lookup_cons]
    by_cases same : field = path
    · subst same
      simp only [beq_self_eq_true, ofOption]
      exact Json.lookup_write_self _ _ _ isOpen
    · have separate := allowed_apart (allowed (path, value) (by simp)) fieldAllowed
        fun eq => same eq.symm
      simp only [beq_eq_false_iff_ne.mpr same]
      exact (Json.lookup_write_apart _ _ separate isOpen).trans previous

theorem below_allowed {fields : List (Path × Json)}
    (allowed : ∀ entry ∈ fields, entry.1 ∈ ALLOWED_TENANT_FIELDS) {path : Path} {leaf : Json}
    (found : (setAll fields).lookup path = .found leaf) (isLeaf : leaf.isObject = false) :
    ∃ field ∈ ALLOWED_TENANT_FIELDS, field <+: path := by
  induction fields using List.reverseRecOn with
  | nil =>
    cases path with
    | nil =>
      simp only [Json.lookup_nil, Lookup.found.injEq] at found
      subst found
      simp [setAll, emptyObject, Json.isObject] at isLeaf
    | cons key rest => simp [setAll, emptyObject] at found
  | append_singleton before entry ih =>
    rw [setAll_append] at found
    rcases Json.found_of_write found isLeaf with below | earlier
    · exact ⟨entry.1, allowed entry (by simp), below⟩
    · exact ih (fun other member => allowed other (List.mem_append_left _ member)) earlier

def keptValue (value : Json) : Option Json :=
  if isKept value (stripEmptyValues value) then some (stripEmptyValues value) else none

theorem lookup_stripEmptyValues {json : Json} {path : Path} (isOpen : json.lookup path ≠ .blocked)
    (noProto : "__proto__" ∉ path) (nonempty : path ≠ []) :
    (stripEmptyValues json).lookup path = (json.lookup path).filterMap keptValue := by
  induction path generalizing json with
  | nil => exact (nonempty rfl).elim
  | cons key rest ih =>
    have keyNotProto : key ≠ "__proto__" := fun eq => noProto (by simp [eq])
    cases json with
    | obj keys value =>
      simp only [stripEmptyValues, Json.lookup_obj, List.mem_filter, bne_iff_ne, ne_eq,
        keyNotProto, not_false_eq_true, Bool.and_eq_true, true_and] at isOpen ⊢
      by_cases member : key ∈ keys
      · simp only [member, if_true, true_and] at isOpen ⊢
        cases rest with
        | nil =>
          simp only [Json.lookup_nil, Lookup.filterMap, keptValue]
          split <;> simp_all
        | cons next others =>
          have deeper := ih isOpen (fun bad => noProto (List.mem_cons_of_mem _ bad)) (by simp)
          rw [← deeper]
          have nested : (value key).isObject = true := by
            by_contra notObject
            exact isOpen (Json.lookup_blocked (by simpa using notObject) (by simp))
          cases shape : value key with
          | obj innerKeys inner =>
            cases remaining : stripEmptyValues (.obj innerKeys inner) with
            | obj left leftValue =>
              cases left with
              | nil | cons _ _ => simp [isKept, noKeys]
            | _ => simp [stripEmptyValues] at remaining
          | _ => simp [shape, Json.isObject] at nested
      · simp [member, Lookup.filterMap]
    | _ => simp [Json.lookup] at isOpen

theorem kept_leaf {json : Json} (kept : isKept json (stripEmptyValues json) = true) :
    ∃ path leaf, json.lookup path = .found leaf ∧ leaf.isObject = false ∧
      isKept leaf (stripEmptyValues leaf) = true ∧ "__proto__" ∉ path := by
  induction json with
  | obj keys value ih =>
    simp only [isKept, stripEmptyValues, noKeys, Bool.not_eq_true', List.isEmpty_eq_false_iff]
      at kept
    obtain ⟨key, left⟩ := List.exists_mem_of_ne_nil _ kept
    simp only [List.mem_filter, Bool.and_eq_true, bne_iff_ne, ne_eq] at left
    obtain ⟨member, notProto, entryKept⟩ := left
    obtain ⟨path, leaf, found, isLeaf, leafKept, noProto⟩ := ih key entryKept
    refine ⟨key :: path, leaf, by simp [member, found], isLeaf, leafKept, ?_⟩
    simp only [List.mem_cons, not_or]
    exact ⟨fun eq => notProto eq.symm, noProto⟩
  | _ => exact ⟨[], _, Json.lookup_nil _, rfl, kept, by simp⟩

theorem kept_of_leaf {json leaf : Json} {path : Path} (found : json.lookup path = .found leaf)
    (leafKept : isKept leaf (stripEmptyValues leaf) = true) (noProto : "__proto__" ∉ path) :
    isKept json (stripEmptyValues json) = true := by
  cases path with
  | nil =>
    simp only [Json.lookup_nil, Lookup.found.injEq] at found
    subst found
    exact leafKept
  | cons key rest =>
    have isOpen : json.lookup (key :: rest) ≠ .blocked := by simp [found]
    have remains := lookup_stripEmptyValues isOpen noProto (by simp)
    rw [found] at remains
    simp only [Lookup.filterMap, keptValue, leafKept, if_true] at remains
    cases json with
    | obj keys value =>
      cases left : stripEmptyValues (.obj keys value) with
      | obj leftKeys leftValue =>
        cases leftKeys with
        | nil => simp [left] at remains
        | cons first others => simp [isKept, noKeys]
      | _ => simp [stripEmptyValues] at left
    | _ => simp [Json.lookup] at found

def submitted (overrides : Json) (field : Path) : Option Json :=
  (assigned (walk [] (sectionFiltered overrides)) field).bind keptValue

def SubmitsSection (overrides : Json) (name : String) : Prop :=
  ∃ field ∈ ALLOWED_TENANT_FIELDS, field.head? = some name ∧ (submitted overrides field).isSome

instance (overrides : Json) (name : String) : Decidable (SubmitsSection overrides name) :=
  inferInstanceAs (Decidable (∃ field ∈ ALLOWED_TENANT_FIELDS, _))

def sanitized (overrides : Json) : Json :=
  stripEmptyValues (stripDisallowedFields (sectionFiltered overrides))

theorem lookup_stripped (overrides : Json) {field : Path} (allowed : field ∈ ALLOWED_TENANT_FIELDS) :
    (stripDisallowedFields (sectionFiltered overrides)).lookup field =
      ofOption (assigned (walk [] (sectionFiltered overrides)) field) :=
  lookup_setAll (fun _ member => walk_allowed member) allowed

theorem lookup_sanitized (overrides : Json) {field : Path}
    (allowed : field ∈ ALLOWED_TENANT_FIELDS) :
    (sanitized overrides).lookup field = ofOption (submitted overrides field) := by
  have stripped := lookup_stripped overrides allowed
  rw [sanitized, lookup_stripEmptyValues _ (allowed_noProto allowed) (allowed_nonempty allowed),
    stripped, submitted]
  · cases assigned (walk [] (sectionFiltered overrides)) field with
    | none => rfl
    | some value =>
      cases kept : keptValue value <;> simp [ofOption, Lookup.filterMap, kept]
  · rw [stripped]
    cases assigned (walk [] (sectionFiltered overrides)) field <;> simp [ofOption]

theorem sanitized_section_iff (overrides : Json) (name : String) :
    ((sanitized overrides).property name).isSome ↔ SubmitsSection overrides name := by
  constructor
  · intro present
    rw [sanitized] at present
    cases stripped : stripDisallowedFields (sectionFiltered overrides) with
    | obj keys value =>
      have kept : name ∈ keys ∧ name ≠ "__proto__" ∧
          isKept (value name) (stripEmptyValues (value name)) = true := by
        by_contra dropped
        simp only [stripped, stripEmptyValues, Json.property, List.mem_filter, bne_iff_ne, ne_eq,
          Bool.and_eq_true] at present
        simp [dropped] at present
      obtain ⟨member, notProto, entryKept⟩ := kept
      obtain ⟨path, leaf, found, isLeaf, leafKept, noProto⟩ := kept_leaf entryKept
      have inStripped : (stripDisallowedFields (sectionFiltered overrides)).lookup
          (name :: path) = .found leaf := by simp [stripped, member, found]
      obtain ⟨field, allowed, rest, isPath⟩ :=
        below_allowed (fun _ member => walk_allowed member) inStripped isLeaf
      refine ⟨field, allowed, ?_, ?_⟩
      · obtain ⟨key, others, rfl⟩ := List.exists_cons_of_ne_nil (allowed_nonempty allowed)
        simp only [List.cons_append, List.cons.injEq] at isPath
        simp [isPath.1]
      · have atField := lookup_stripped overrides allowed
        have through := Json.lookup_append (stripDisallowedFields (sectionFiltered overrides))
          field rest
        rw [isPath, inStripped, atField] at through
        have restNoProto : "__proto__" ∉ rest := by
          intro bad
          have inPath : "__proto__" ∈ name :: path := by
            rw [← isPath]
            exact List.mem_append_right _ bad
          rcases List.mem_cons.mp inPath with same | later
          · exact notProto same.symm
          · exact noProto later
        cases value : assigned (walk [] (sectionFiltered overrides)) field with
        | none => simp [value, ofOption] at through
        | some inner =>
          simp only [value, ofOption] at through
          have innerKept := kept_of_leaf through.symm leafKept restNoProto
          simp [submitted, value, keptValue, innerKept]
    | _ => simp [stripped, stripEmptyValues, Json.property] at present
  · rintro ⟨field, allowed, head, isSubmitted⟩
    obtain ⟨value, submits⟩ := Option.isSome_iff_exists.mp isSubmitted
    have found := lookup_sanitized overrides allowed
    rw [submits] at found
    cases field with
    | nil => simp at head
    | cons key rest =>
      simp only [List.head?_cons, Option.some.injEq] at head
      subst head
      exact Json.property_isSome_of_found found

end ParakoId.TenantOverrides
