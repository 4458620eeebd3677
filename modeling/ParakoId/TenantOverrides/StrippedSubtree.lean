import ParakoId.TenantOverrides.Stripping

/-!
What stripping keeps of a document: the subtrees at the allowed paths, under plain keys, and at
each of them the last value that the document has for it.
-/

namespace ParakoId.TenantOverrides

open Json (Path Lookup)

theorem allowed_keys : ∀ field ∈ ALLOWED_TENANT_FIELDS, ∀ key ∈ field,
    key ≠ "" ∧ '.' ∉ key.toList := by
  decide +kernel

theorem splitDots_plain {letters : List Char} (plain : '.' ∉ letters) :
    splitDots letters = [letters] := by
  induction letters with
  | nil => rfl
  | cons letter rest ih =>
    rw [List.mem_cons, not_or] at plain
    rw [splitDots.eq_3 _ _ fun isDot => plain.1 isDot.symm, ih plain.2]

theorem segments_plain {key : String} (plain : '.' ∉ key.toList) : segments key = [key] := by
  simp [segments, splitDots_plain plain]

def copied (value : Json) : Json := if value.isReference then value.clone else value

theorem copied_copied (value : Json) : copied (copied value) = copied value := by
  cases value with
  | arr _ _ | obj _ _ => simp [copied, Json.isReference, Json.clone, Json.clone_clone]
  | _ => simp [copied, Json.isReference]

theorem not_apart_of_above {first second : Path} (isPrefix : first <+: second) :
    Json.apart first second = false := by
  induction first generalizing second with
  | nil => cases second <;> rfl
  | cons key rest ih =>
    obtain ⟨others, rfl⟩ := isPrefix
    simp [Json.apart, ih (List.prefix_append rest others)]

theorem prefix_allowed {first second : Path} (firstAllowed : first ∈ ALLOWED_TENANT_FIELDS)
    (secondAllowed : second ∈ ALLOWED_TENANT_FIELDS) (isPrefix : first <+: second) :
    first = second := by
  by_contra different
  have separate := allowed_apart firstAllowed secondAllowed different
  rw [not_apart_of_above isPrefix] at separate
  cases separate

variable {field : Path} {fields : List (Path × Json)}

theorem childPath_allowed (allowed : field ∈ ALLOWED_TENANT_FIELDS) {parent : Path}
    {key : String} (isPrefix : parent ++ [key] <+: field) :
    childPath parent key = parent ++ [key] := by
  obtain ⟨nonempty, plain⟩ := allowed_keys field allowed key (isPrefix.subset (by simp))
  rw [childPath, if_neg (by simp [nonempty]), segments_plain plain]

theorem mem_walk (allowed : field ∈ ALLOWED_TENANT_FIELDS) {parent rest : Path}
    {json value : Json} (isField : field = parent ++ rest) (nonempty : rest ≠ [])
    (isFound : json.lookup rest = .found value) : (field, copied value) ∈ walk parent json := by
  induction rest generalizing parent json with
  | nil => exact (nonempty rfl).elim
  | cons key others ih =>
    obtain ⟨keys, inner, rfl, inKeys, below⟩ := Json.found_cons isFound
    have atKey : parent ++ [key] <+: field := ⟨others, by simp [isField]⟩
    rw [walk, List.mem_flatMap]
    refine ⟨key, inKeys, ?_⟩
    rw [childPath_allowed allowed atKey]
    cases others with
    | nil =>
      simp only [Json.lookup_nil, Lookup.found.injEq] at below
      subst below isField
      rw [if_pos allowed]
      exact List.mem_singleton.mpr rfl
    | cons next more =>
      have inside : parent ++ [key] ∉ ALLOWED_TENANT_FIELDS := by
        intro keyAllowed
        have same := prefix_allowed keyAllowed allowed atKey
        simp [isField] at same
      rw [if_neg inside]
      exact ih (by simp [isField]) (by simp) below

def SpelledOnce (json : Json) (field : Path) : Prop := ((walk [] json).map Prod.fst).count field ≤ 1

instance (json : Json) (field : Path) : Decidable (SpelledOnce json field) :=
  inferInstanceAs (Decidable (_ ≤ _))

theorem mem_of_assigned {value : Json} (isAssigned : assigned fields field = some value) :
    (field, value) ∈ fields := by
  rw [assigned] at isAssigned
  obtain ⟨before, after, isSplit, _⟩ := List.lookup_eq_some_iff.mp isAssigned
  rw [← List.mem_reverse, isSplit]
  simp

theorem assigned_isSome {value : Json} (isEntry : (field, value) ∈ fields) :
    ∃ last, assigned fields field = some last := by
  rw [← Option.isSome_iff_exists, assigned, Option.isSome_iff_ne_none, ne_eq,
    List.lookup_eq_none_iff]
  intro missing
  simpa using missing (field, value) (List.mem_reverse.mpr isEntry)

theorem assigned_of_once {value : Json} (isEntry : (field, value) ∈ fields)
    (once : (fields.map Prod.fst).count field ≤ 1) : assigned fields field = some value := by
  obtain ⟨last, isLast⟩ := assigned_isSome isEntry
  have isEntryToo := mem_of_assigned isLast
  obtain ⟨before, after, rfl⟩ := List.append_of_mem isEntry
  have others : field ∉ before.map Prod.fst ∧ field ∉ after.map Prod.fst := by
    rw [List.map_append, List.map_cons, List.count_append, List.count_cons_self] at once
    exact ⟨List.count_eq_zero.mp (by omega), List.count_eq_zero.mp (by omega)⟩
  rcases List.mem_append.mp isEntryToo with early | later
  · exact absurd (List.mem_map_of_mem early) others.1
  · rcases List.mem_cons.mp later with same | late
    · rw [isLast, (Prod.mk.inj same).2]
    · exact absurd (List.mem_map_of_mem late) others.2

theorem reached_setAll {path : Path} {found : Json}
    (isFound : (setAll fields).lookup path = .found found) :
    path = [] ∨ ∃ field ∈ fields.map Prod.fst, field <+: path ∨ path <+: field := by
  induction fields using List.reverseRecOn generalizing found with
  | nil =>
    cases path with
    | nil => exact .inl rfl
    | cons key rest => simp [setAll, emptyObject] at isFound
  | append_singleton before entry ih =>
    rw [setAll_append] at isFound
    rcases Json.reached_of_write isFound with below | above | ⟨earlier, isEarlier⟩
    · exact .inr ⟨entry.1, by simp, .inl below⟩
    · exact .inr ⟨entry.1, by simp, .inr above⟩
    · rcases ih isEarlier with isRoot | ⟨field, isField, related⟩
      · exact .inl isRoot
      · exact .inr ⟨field, by simpa using Or.inl (by simpa using isField), related⟩

section Results

variable {fields : List (Path × Json)}
  (allowed : ∀ entry ∈ fields, entry.1 ∈ ALLOWED_TENANT_FIELDS)

include allowed

theorem object_above {path : Path} (outside : ∀ field ∈ ALLOWED_TENANT_FIELDS, ¬field <+: path) :
    (setAll fields).lookup path = .absent ∨
      ∃ found, (setAll fields).lookup path = .found found ∧ found.isObject = true := by
  cases isLookup : (setAll fields).lookup path with
  | absent => exact .inl rfl
  | blocked =>
    obtain ⟨above, leaf, isPrefix, isFound, isLeaf⟩ := Json.leaf_of_blocked isLookup
    obtain ⟨field, isField, below⟩ := below_allowed allowed isFound isLeaf
    exact absurd (below.trans isPrefix) (outside field isField)
  | found value =>
    cases isObject : value.isObject with
    | true => exact .inr ⟨value, rfl, isObject⟩
    | false =>
      obtain ⟨field, isField, below⟩ := below_allowed allowed isLookup isObject
      exact absurd below (outside field isField)

theorem field_lookup {field : Path} (isField : field ∈ fields.map Prod.fst) :
    ∃ value, (setAll fields).lookup field = .found value := by
  obtain ⟨⟨path, value⟩, isEntry, rfl⟩ := List.mem_map.mp isField
  obtain ⟨last, isLast⟩ := assigned_isSome isEntry
  exact ⟨last, by rw [lookup_setAll allowed (allowed _ isEntry), isLast, ofOption]⟩

theorem key_above {parent : Path} {json : Json} {key : String}
    (outside : ∀ field ∈ ALLOWED_TENANT_FIELDS, ¬field <+: parent)
    (isFound : (setAll fields).lookup (parent ++ [key]) = .found json) :
    ∃ field ∈ ALLOWED_TENANT_FIELDS, parent ++ [key] <+: field := by
  rcases reached_setAll isFound with isEmpty | ⟨field, isField, related⟩
  · simp at isEmpty
  · obtain ⟨entry, isEntry, rfl⟩ := List.mem_map.mp isField
    refine ⟨entry.1, allowed entry isEntry, ?_⟩
    rcases related with below | above
    · rcases List.prefix_concat_iff.mp below with same | inParent
      · exact same ▸ List.prefix_rfl
      · exact absurd inParent (outside _ (allowed entry isEntry))
    · exact above

theorem walk_setAll {parent : Path} {json : Json}
    (outside : ∀ field ∈ ALLOWED_TENANT_FIELDS, ¬field <+: parent)
    (isFound : (setAll fields).lookup parent = .found json) {entry : Path × Json}
    (isEntry : entry ∈ walk parent json) :
    ∃ value, (setAll fields).lookup entry.1 = .found value ∧ entry.2 = copied value := by
  induction json generalizing parent with
  | obj keys value ih =>
    rw [walk, List.mem_flatMap] at isEntry
    obtain ⟨key, inKeys, isEntry⟩ := isEntry
    have atKey : (setAll fields).lookup (parent ++ [key]) = .found (value key) := by
      rw [Json.lookup_append, isFound]
      simp [inKeys]
    obtain ⟨field, isField, above⟩ := key_above allowed outside atKey
    rw [childPath_allowed isField above] at isEntry
    split at isEntry
    next =>
      rw [List.mem_singleton.mp isEntry]
      exact ⟨value key, atKey, rfl⟩
    next inside =>
      refine ih key (fun other isOther below => ?_) atKey isEntry
      rcases List.prefix_concat_iff.mp below with same | inParent
      · exact inside (same ▸ isOther)
      · exact outside other isOther inParent
  | _ => simp [walk] at isEntry

theorem assigned_walk {field : Path} (isField : field ∈ ALLOWED_TENANT_FIELDS) :
    assigned (walk [] (setAll fields)) field =
      ((setAll fields).lookup field).toOption.map copied := by
  have outside : ∀ other ∈ ALLOWED_TENANT_FIELDS, ¬other <+: [] := by
    intro other isOther isPrefix
    exact allowed_nonempty isOther (List.prefix_nil.mp isPrefix)
  cases isAssigned : assigned (walk [] (setAll fields)) field with
  | some last =>
    obtain ⟨value, isFound, isLast⟩ :=
      walk_setAll allowed outside (Json.lookup_nil _) (mem_of_assigned isAssigned)
    dsimp only at isFound isLast
    rw [isFound, isLast, Lookup.toOption, Option.map_some]
  | none =>
    cases isFound : (setAll fields).lookup field with
    | found value =>
      have isEntry := mem_walk isField (List.nil_append field).symm
        (allowed_nonempty isField) isFound
      obtain ⟨last, isLast⟩ := assigned_isSome isEntry
      rw [isAssigned] at isLast
      cases isLast
    | _ => rfl

end Results

section Contents

variable {first second : List (Path × Json)}

theorem reached_elsewhere (firstAllowed : ∀ entry ∈ first, entry.1 ∈ ALLOWED_TENANT_FIELDS)
    (same : ∀ field ∈ ALLOWED_TENANT_FIELDS,
      (setAll first).lookup field = (setAll second).lookup field) {path : Path}
    (outside : ∀ field ∈ ALLOWED_TENANT_FIELDS, ¬field <+: path) {found : Json}
    (isFound : (setAll first).lookup path = .found found) :
    ∃ other, (setAll second).lookup path = .found other := by
  rcases reached_setAll isFound with rfl | ⟨field, isField, related⟩
  · exact ⟨_, Json.lookup_nil _⟩
  · obtain ⟨entry, isEntry, rfl⟩ := List.mem_map.mp isField
    have isAllowed := firstAllowed entry isEntry
    obtain ⟨value, atField⟩ := field_lookup firstAllowed isField
    obtain ⟨rest, isPath⟩ := related.resolve_left (outside _ isAllowed)
    rw [same _ isAllowed, ← isPath] at atField
    obtain ⟨above, isAbove, _⟩ := Json.found_of_append atField
    exact ⟨above, isAbove⟩

theorem sameContent_setAll (firstAllowed : ∀ entry ∈ first, entry.1 ∈ ALLOWED_TENANT_FIELDS)
    (secondAllowed : ∀ entry ∈ second, entry.1 ∈ ALLOWED_TENANT_FIELDS)
    (same : ∀ field ∈ ALLOWED_TENANT_FIELDS,
      (setAll first).lookup field = (setAll second).lookup field) :
    Json.SameContent (setAll first) (setAll second) := by
  intro path
  by_cases inside : ∃ field ∈ ALLOWED_TENANT_FIELDS, field <+: path
  · obtain ⟨field, isField, rest, rfl⟩ := inside
    rw [Json.lookup_append, Json.lookup_append, same field isField]
  · simp only [not_exists, not_and] at inside
    rcases object_above firstAllowed inside with absent | ⟨found, isFound, isObject⟩
    · rcases object_above secondAllowed inside with alsoAbsent | ⟨other, isOther, _⟩
      · rw [absent, alsoAbsent]
      · obtain ⟨found, isFound⟩ := reached_elsewhere secondAllowed
          (fun field isField => (same field isField).symm) inside isOther
        rw [absent] at isFound
        cases isFound
    · obtain ⟨other, isOther⟩ := reached_elsewhere firstAllowed same inside isFound
      have otherObject : other.isObject = true := by
        rcases object_above secondAllowed inside with absent | ⟨value, isValue, isObject⟩
        · rw [absent] at isOther
          cases isOther
        · rw [isOther] at isValue
          cases isValue
          exact isObject
      obtain ⟨keys, value, rfl⟩ := Json.obj_of_isObject isObject
      obtain ⟨otherKeys, otherValue, rfl⟩ := Json.obj_of_isObject otherObject
      rw [isFound, isOther]
      rfl

end Contents

theorem walk_copied {parent : Path} {json : Json} {entry : Path × Json}
    (isEntry : entry ∈ walk parent json) : copied entry.2 = entry.2 := by
  induction json generalizing parent with
  | obj keys value ih =>
    rw [walk, List.mem_flatMap] at isEntry
    obtain ⟨key, _, isEntry⟩ := isEntry
    split at isEntry
    next =>
      rw [List.mem_singleton.mp isEntry]
      exact copied_copied (value key)
    next => exact ih key isEntry
  | _ => simp [walk] at isEntry

theorem lookup_stripped_field (incoming : Json) (isField : field ∈ ALLOWED_TENANT_FIELDS) :
    (stripDisallowedFields incoming).lookup field = ofOption (assigned (walk [] incoming) field) :=
  lookup_setAll (fun _ member => walk_allowed member) isField

theorem stripped_again (incoming : Json) :
    Json.SameContent (stripDisallowedFields (stripDisallowedFields incoming))
      (stripDisallowedFields incoming) := by
  have allowed : ∀ entry ∈ walk [] incoming, entry.1 ∈ ALLOWED_TENANT_FIELDS :=
    fun _ member => walk_allowed member
  refine sameContent_setAll (fun _ member => walk_allowed member) allowed fun field isField => ?_
  have again : assigned (walk [] (stripDisallowedFields incoming)) field = _ :=
    assigned_walk allowed isField
  rw [lookup_setAll allowed isField] at again
  rw [lookup_setAll (fun _ member => walk_allowed member) isField, again,
    lookup_setAll allowed isField]
  cases isAssigned : assigned (walk [] incoming) field with
  | none => rfl
  | some value =>
    have isCopied : copied value = value := walk_copied (mem_of_assigned isAssigned)
    simp [ofOption, Lookup.toOption, isCopied]

theorem leaf_kept {incoming : Json} (isJson : incoming.clone = incoming) {rest : Path}
    (isField : field ∈ ALLOWED_TENANT_FIELDS) (once : SpelledOnce incoming field) {leaf : Json}
    (isFound : incoming.lookup (field ++ rest) = .found leaf) :
    (stripDisallowedFields incoming).lookup (field ++ rest) = .found leaf := by
  obtain ⟨value, atField, below⟩ := Json.found_of_append isFound
  have isCloned : value.clone = value := by
    have cloned := Json.lookup_clone incoming field
    rw [isJson, atField, Lookup.map, Lookup.found.injEq] at cloned
    exact cloned.symm
  have isCopied : copied value = value := by
    rw [copied]
    split
    next => exact isCloned
    next => rfl
  have isEntry := mem_walk isField (List.nil_append field).symm (allowed_nonempty isField) atField
  rw [Json.lookup_append, lookup_stripped_field incoming isField,
    assigned_of_once isEntry once, ofOption, isCopied]
  exact below

/-- For every override document: each leaf of what stripping leaves is at or below an allowed
path, with objects above it; at each allowed path stands the last value of the document for it,
so that a leaf comes through where its field is spelled once; and stripping twice changes
nothing. -/
theorem stripping_keeps_subtree (incoming : Json) (isJson : incoming.clone = incoming) :
    (∀ path leaf, (stripDisallowedFields incoming).lookup path = .found leaf →
        leaf.isObject = false → ∃ field ∈ ALLOWED_TENANT_FIELDS, field <+: path) ∧
      (∀ field ∈ ALLOWED_TENANT_FIELDS,
        (stripDisallowedFields incoming).lookup field =
          ofOption (assigned (walk [] incoming) field)) ∧
      (∀ field ∈ ALLOWED_TENANT_FIELDS, SpelledOnce incoming field → ∀ rest leaf,
        incoming.lookup (field ++ rest) = .found leaf →
          (stripDisallowedFields incoming).lookup (field ++ rest) = .found leaf) ∧
      Json.SameContent (stripDisallowedFields (stripDisallowedFields incoming))
        (stripDisallowedFields incoming) ∧
      ∀ path, (∀ field ∈ ALLOWED_TENANT_FIELDS, ¬field <+: path) →
        (stripDisallowedFields incoming).lookup path = .absent ∨
          ∃ found, (stripDisallowedFields incoming).lookup path = .found found ∧
            found.isObject = true := by
  have allowed : ∀ entry ∈ walk [] incoming, entry.1 ∈ ALLOWED_TENANT_FIELDS :=
    fun _ member => walk_allowed member
  refine ⟨?_, ?_, ?_, stripped_again incoming, ?_⟩
  · exact fun path leaf isFound isLeaf => below_allowed allowed isFound isLeaf
  · exact fun field isField => lookup_stripped_field incoming isField
  · exact fun field isField once rest leaf isFound => leaf_kept isJson isField once isFound
  · exact fun path outside => object_above allowed outside

def logoAndSecrets : Json :=
  .object [("branding", .object [("logo", .str "a")]), ("security", .array [.str "b"])]

theorem logo_comesThrough :
    (stripDisallowedFields logoAndSecrets).lookup ["branding", "logo"] = .found (.str "a") :=
  (stripping_keeps_subtree logoAndSecrets (by simp [logoAndSecrets])).2.2.1
    ["branding", "logo"] (by decide) (by decide +kernel) [] _ rfl

def twoLogos : Json :=
  .object [("branding", .object [("logo", .str "a")]), ("branding.logo", .str "b")]

theorem logo_replaced :
    twoLogos.lookup ["branding", "logo"] = .found (.str "a") ∧
      (stripDisallowedFields twoLogos).lookup ["branding", "logo"] = .found (.str "b") :=
  ⟨rfl, rfl⟩

end ParakoId.TenantOverrides
