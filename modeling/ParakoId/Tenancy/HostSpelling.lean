import ParakoId.Library.Addresses
import ParakoId.Tenancy.SessionBinding

/-! Whether the spelling of a host decides its tenant. -/

namespace ParakoId.Tenancy

open Config (DEFAULT_TENANT_ID)
open Url (Text labels lower isAlpha)

inductive Respelled (hostname : String) : String → Prop
  | letterCase {other : String} (same : lower other.toList = lower hostname.toList) :
      Respelled hostname other
  | rootDot (unrooted : hostname.toList.getLast? ≠ some '.') : Respelled hostname (hostname ++ ".")

def ResolvesAlike (tenants : List Tenant) (hostname other : String) : Prop :=
  ∀ tenantHeader headers priority,
    extractTenant tenants tenantHeader ⟨other, headers⟩ priority =
      extractTenant tenants tenantHeader ⟨hostname, headers⟩ priority

def HasCustomDomain (tenants : List Tenant) (hostname : String) : Prop :=
  isIpHostname (normalizedHostname hostname).toList = false ∧
    ∃ tenant ∈ tenants, tenant.domain = some (normalizedHostname hostname)

/-- The first label of a host is a slug in every spelling of the host or in none, and the same
one in all. -/
structure SpellingIrrelevant (hostname : Text) : Prop where
  letterCase : isIpHostname hostname = true ∨ (labels hostname).length < 3 ∨
    ∀ character ∈ (labels hostname).headD [], isAlpha character = false
  rootDot : hostname.getLast? = some '.' ∨
    ((isIpHostname hostname = false ∧ 3 ≤ (labels hostname).length) ↔
      (isIpHostname (hostname ++ ['.']) = false ∧ 2 ≤ (labels hostname).length))

variable {tenants : List Tenant} {hostname other : String} {first : Text} {more : List Text}

theorem extractTenant_congr (same : tenantOfHost tenants other = tenantOfHost tenants hostname) :
    ResolvesAlike tenants hostname other := by
  intro tenantHeader headers priority
  have sources : tenantOfSource tenants tenantHeader ⟨other, headers⟩ =
      tenantOfSource tenants tenantHeader ⟨hostname, headers⟩ := by
    funext source
    cases source with
    | header => rfl
    | subdomain => exact same
  rw [extractTenant, extractTenant, sources]

theorem extractTenant_headerLast (tenants : List Tenant) (hostname : String) {header : String}
    (present : header ≠ "") :
    extractTenant tenants "x-tenant-id" ⟨hostname, fun _ => some header⟩ [.subdomain, .header] =
      (tenantOfHost tenants hostname).getD ⟨header, none⟩ := by
  have isPresent : presentText (some header) = some header := presentText_some.mpr ⟨rfl, present⟩
  cases found : tenantOfHost tenants hostname <;>
    simp [extractTenant, tenantOfSource, found, isPresent]

theorem resolvesAlike_iff :
    ResolvesAlike tenants hostname other ↔
      tenantOfHost tenants other = tenantOfHost tenants hostname := by
  refine ⟨?_, extractTenant_congr⟩
  intro alike
  have withHeader (header : String) (present : header ≠ "") :
      (tenantOfHost tenants other).getD ⟨header, none⟩ =
        (tenantOfHost tenants hostname).getD ⟨header, none⟩ := by
    rw [← extractTenant_headerLast tenants other present,
      ← extractTenant_headerLast tenants hostname present]
    exact alike _ _ _
  have first := withHeader "a" (by decide)
  have second := withHeader "b" (by decide)
  cases found : tenantOfHost tenants other <;> cases original : tenantOfHost tenants hostname <;>
    simp only [found, original, Option.getD_none, Option.getD_some] at first second
  next => rfl
  next => exact absurd (first.trans second.symm) (by simp)
  next => exact absurd (first.symm.trans second) (by simp)
  next => rw [first]

theorem customDomain_isSome (tenants : List Tenant) (hostname : String) :
    (customDomain tenants hostname).isSome = true ↔ HasCustomDomain tenants hostname := by
  simp only [customDomain, HasCustomDomain]
  split
  next isAddress => simp [isAddress]
  next notAddress => simp [notAddress, findByDomain]

theorem normalizedHostname_respelled (respelled : Respelled hostname other) :
    normalizedHostname other = normalizedHostname hostname := by
  cases respelled with
  | letterCase same => simp only [normalizedHostname, same]
  | rootDot unrooted =>
    have lowered : lower (hostname.toList ++ ['.']) = lower hostname.toList ++ ['.'] :=
      List.map_append
    have kept : (lower hostname.toList).getLast? ≠ some '.' := by
      rw [lower, List.getLast?_map]
      intro isDot
      obtain ⟨last, isLast, lowersToDot⟩ := Option.map_eq_some_iff.mp isDot
      rw [Url.toLower_eq_iff (by decide)] at lowersToDot
      exact unrooted (by rw [isLast, lowersToDot])
    simp [normalizedHostname, lowered, kept]

theorem customDomain_respelled (respelled : Respelled hostname other) (tenants : List Tenant) :
    customDomain tenants other = customDomain tenants hostname := by
  simp only [customDomain, normalizedHostname_respelled respelled]

def slugLabel (hostname : Text) : Option Text :=
  if isIpHostname hostname = false ∧ 3 ≤ (labels hostname).length then
    ((labels hostname).head?).filter (· != [])
  else none

theorem tenantOfHost_eq (noDomain : customDomain tenants hostname = none) :
    tenantOfHost tenants hostname =
      (slugLabel hostname.toList).map fun label => ⟨String.ofList label, none⟩ := by
  rw [tenantOfHost, noDomain, Option.elim_none, extractSubdomain, slugLabel]
  by_cases isAddress : isIpHostname hostname.toList = true
  · simp [isAddress, presentText]
  · by_cases long : 3 ≤ (labels hostname.toList).length
    · cases isHead : (labels hostname.toList).head? with
      | none => simp [isAddress, presentText, isHead]
      | some label =>
        by_cases empty : label = [] <;>
          simp [isAddress, long, presentText, isHead, empty, Option.filter]
    · simp [isAddress, long, presentText]

theorem tenantOfHost_respelled_iff (respelled : Respelled hostname other)
    (noDomain : customDomain tenants hostname = none) :
    tenantOfHost tenants other = tenantOfHost tenants hostname ↔
      slugLabel other.toList = slugLabel hostname.toList := by
  rw [tenantOfHost_eq noDomain,
    tenantOfHost_eq ((customDomain_respelled respelled tenants).trans noDomain)]
  refine (Option.map_injective ?_).eq_iff
  intro first second same
  exact String.ofList_injective (congrArg Extracted.tenantId same)

theorem slugLabel_empty {hostname : Text} (empty : (labels hostname).head? = some []) :
    slugLabel hostname = none := by
  rw [slugLabel, empty]
  split <;> rfl

theorem slugLabel_cons {hostname : Text} (parts : labels hostname = first :: more)
    (nonempty : first ≠ []) :
    slugLabel hostname =
      if isIpHostname hostname = false ∧ 3 ≤ (labels hostname).length then some first else none := by
  rw [slugLabel, parts]
  simp [Option.filter, nonempty]

theorem labels_lower (text : Text) : labels (lower text) = (labels text).map lower :=
  Url.splitOn_lower (by decide) text

theorem isIpHostname_lower (text : Text) : isIpHostname (lower text) = isIpHostname text := by
  cases text with
  | nil => rfl
  | cons first rest =>
    by_cases bracket : first = '['
    · have closes : (lower rest).getLast? = some ']' ↔ rest.getLast? = some ']' := by
        simp [lower, Url.toLower_eq_iff (show isAlpha ']' = false by decide)]
      have lowered : lower ('[' :: rest) = '[' :: lower rest := rfl
      rw [bracket, lowered]
      simp only [isIpHostname, closes]
      split
      next => rw [lower, ← List.map_dropLast, ← lower, Url.isIP_lower]
      next => rw [← lowered, Url.isIP_lower]
    · have otherBracket : first.toLower ≠ '[' := by
        rwa [ne_eq, Url.toLower_eq_iff (by decide)]
      have plain {start : Char} (others : Text) (noBracket : start ≠ '[') :
          isIpHostname (start :: others) = Url.isIP (start :: others) := by
        simp [isIpHostname, noBracket]
      rw [lower, List.map_cons, plain _ otherBracket, plain _ bracket, ← List.map_cons, ← lower,
        Url.isIP_lower]

theorem labels_root (text : Text) : labels (text ++ ['.']) = labels text ++ [[]] :=
  Url.labels_append text []

theorem some_eq_some_iff {Value : Type} {here there : Prop} [Decidable here] [Decidable there]
    (value : Value) :
    (if there then some value else none) = (if here then some value else none) ↔
      (here ↔ there) := by
  by_cases isHere : here <;> by_cases isThere : there <;> simp [isHere, isThere]

theorem slugLabel_root_iff {hostname : Text} (parts : labels hostname = first :: more)
    (nonempty : first ≠ []) :
    slugLabel (hostname ++ ['.']) = slugLabel hostname ↔
      ((isIpHostname hostname = false ∧ 3 ≤ (labels hostname).length) ↔
        (isIpHostname (hostname ++ ['.']) = false ∧ 2 ≤ (labels hostname).length)) := by
  have rooted : labels (hostname ++ ['.']) = first :: (more ++ [[]]) := by
    rw [labels_root, parts, List.cons_append]
  have oneMore : 3 ≤ (labels (hostname ++ ['.'])).length ↔ 2 ≤ (labels hostname).length := by
    rw [labels_root, List.length_append, List.length_singleton]
    omega
  rw [slugLabel_cons parts nonempty, slugLabel_cons rooted nonempty]
  simp only [oneMore]
  exact some_eq_some_iff first

theorem slugLabel_of_letterless {hostname other : Text} (parts : labels hostname = first :: more)
    (nonempty : first ≠ [])
    (plain : isIpHostname hostname = true ∨ (labels hostname).length < 3 ∨
      ∀ character ∈ first, isAlpha character = false) (same : lower other = lower hostname) :
    slugLabel other = slugLabel hostname := by
  have sameParts : (labels other).map lower = (labels hostname).map lower := by
    rw [← labels_lower, same, labels_lower]
  have sameKind : isIpHostname other = isIpHostname hostname := by
    rw [← isIpHostname_lower, same, isIpHostname_lower]
  have otherSplit : labels other ≠ [] := List.splitOn_ne_nil '.' other
  obtain ⟨otherFirst, otherMore, otherParts⟩ := List.exists_cons_of_ne_nil otherSplit
  have sameLength : (labels other).length = (labels hostname).length := by
    simpa using congrArg List.length sameParts
  have sameFirst : lower otherFirst = lower first := by
    rw [otherParts, parts] at sameParts
    exact (List.cons.inj sameParts).1
  have otherNonempty : otherFirst ≠ [] := by
    rintro rfl
    exact nonempty (List.map_eq_nil_iff.mp sameFirst.symm)
  rw [slugLabel_cons parts nonempty, slugLabel_cons otherParts otherNonempty, sameKind, sameLength]
  rcases plain with isAddress | short | letterless
  · simp [isAddress]
  · simp [show ¬3 ≤ (labels hostname).length by omega]
  · rw [Url.eq_of_lower letterless sameFirst]

theorem exists_letterCase {hostname next : Text}
    (parts : labels hostname = first :: next :: more) {letter : Char} (isIn : letter ∈ first)
    (isLetter : isAlpha letter = true) :
    ∃ other otherFirst, lower other = lower hostname ∧ otherFirst ≠ first ∧ otherFirst ≠ [] ∧
      labels other = otherFirst :: next :: more := by
  have hasDot : '.' ∈ hostname := by
    by_contra dotless
    rw [labels, List.splitOn_eq_singleton dotless] at parts
    cases parts
  obtain ⟨before, after, rfl, dotless⟩ := List.eq_append_cons_of_mem hasDot
  rw [labels, List.splitOn_append_cons_self_of_not_mem dotless, ← labels, List.cons.injEq] at parts
  obtain ⟨rfl, rest⟩ := parts
  obtain ⟨earlier, later, rfl⟩ := List.append_of_mem isIn
  obtain ⟨written, differs, sameLetter⟩ := Url.exists_otherCase isLetter
  refine ⟨(earlier ++ written :: later) ++ '.' :: after, earlier ++ written :: later, ?_, ?_,
    by simp, ?_⟩
  · simp [lower, sameLetter]
  · intro same
    exact differs (List.cons.inj (List.append_cancel_left same)).1
  · have stillDotless : '.' ∉ earlier ++ written :: later := by
      intro member
      rcases List.mem_append.mp member with inEarlier | inRest
      · exact dotless (List.mem_append_left _ inEarlier)
      · rcases List.mem_cons.mp inRest with isWritten | inLater
        · have isDot : letter = '.' := by
            rw [← Url.toLower_eq_iff (by decide), ← sameLetter, ← isWritten]
            decide
          exact dotless (List.mem_append_right _ (by simp [isDot]))
        · exact dotless (List.mem_append_right _ (List.mem_cons_of_mem _ inLater))
    rw [labels, List.splitOn_append_cons_self_of_not_mem stillDotless, ← labels, rest]

theorem slugLabel_letterCase_iff {hostname : Text} (parts : labels hostname = first :: more)
    (nonempty : first ≠ []) :
    (∀ other, lower other = lower hostname → slugLabel other = slugLabel hostname) ↔
      (isIpHostname hostname = true ∨ (labels hostname).length < 3 ∨
        ∀ character ∈ first, isAlpha character = false) := by
  refine ⟨?_, fun plain other same => slugLabel_of_letterless parts nonempty plain same⟩
  intro alike
  by_contra notPlain
  simp only [not_or, Bool.not_eq_true, Nat.not_lt, not_forall, Bool.not_eq_false] at notPlain
  obtain ⟨notAddress, long, letter, isIn, isLetter⟩ := notPlain
  have two : more ≠ [] := by
    rintro rfl
    simp [parts] at long
  obtain ⟨next, others, rfl⟩ := List.exists_cons_of_ne_nil two
  obtain ⟨other, otherFirst, same, differs, otherNonempty, otherParts⟩ :=
    exists_letterCase parts isIn isLetter
  have sameSlug := alike other same
  rw [slugLabel_cons parts nonempty, if_pos ⟨notAddress, long⟩,
    slugLabel_cons otherParts otherNonempty] at sameSlug
  split at sameSlug
  next => exact differs (Option.some.inj sameSlug)
  next => cases sameSlug

theorem forall_respelled (holds : Text → Prop) :
    (∀ other, Respelled hostname other → holds other.toList) ↔
      (∀ other, lower other = lower hostname.toList → holds other) ∧
        (hostname.toList.getLast? ≠ some '.' → holds (hostname.toList ++ ['.'])) := by
  constructor
  · intro all
    refine ⟨fun other same => ?_, fun unrooted => ?_⟩
    · have holdsOther := all (String.ofList other) (.letterCase (by rwa [String.toList_ofList]))
      rwa [String.toList_ofList] at holdsOther
    · have holdsRooted := all _ (.rootDot unrooted)
      rwa [String.toList_append] at holdsRooted
  · rintro ⟨inOtherCase, rooted⟩ other respelled
    cases respelled with
    | letterCase same => exact inOtherCase _ same
    | rootDot unrooted =>
      rw [String.toList_append]
      exact rooted unrooted

theorem slugLabel_respelled_iff (hostname : String) :
    (∀ other, Respelled hostname other → slugLabel other.toList = slugLabel hostname.toList) ↔
      (labels hostname.toList).head? = some [] ∨ SpellingIrrelevant hostname.toList := by
  rw [forall_respelled fun other => slugLabel other = slugLabel hostname.toList]
  generalize hostname.toList = host
  have split : labels host ≠ [] := List.splitOn_ne_nil '.' host
  obtain ⟨first, more, parts⟩ := List.exists_cons_of_ne_nil split
  by_cases empty : first = []
  · have isEmpty : (labels host).head? = some [] := by rw [parts, empty, List.head?_cons]
    refine iff_of_true ⟨fun other same => ?_, fun _ => ?_⟩ (.inl isEmpty)
    · have sameParts : (labels other).map lower = (labels host).map lower := by
        rw [← labels_lower, same, labels_lower]
      have otherEmpty : (labels other).head? = some [] := by
        have sameHead := congrArg List.head? sameParts
        rw [List.head?_map, List.head?_map, isEmpty] at sameHead
        obtain ⟨label, isHead, lowered⟩ := Option.map_eq_some_iff.mp sameHead
        rw [isHead, List.map_eq_nil_iff.mp lowered]
      rw [slugLabel_empty isEmpty, slugLabel_empty otherEmpty]
    · have rootedEmpty : (labels (host ++ ['.'])).head? = some [] := by
        rw [labels_root, parts, List.cons_append, List.head?_cons, empty]
      rw [slugLabel_empty isEmpty, slugLabel_empty rootedEmpty]
  · have notEmpty : (labels host).head? ≠ some [] := by simpa [parts] using empty
    rw [or_iff_right notEmpty, slugLabel_letterCase_iff parts empty, slugLabel_root_iff parts empty,
      ← or_iff_not_imp_left]
    constructor
    · rintro ⟨letterCase, rootDot⟩
      exact ⟨by rwa [parts] at letterCase ⊢, rootDot⟩
    · rintro ⟨letterCase, rootDot⟩
      exact ⟨by rwa [parts] at letterCase ⊢, rootDot⟩

/-- For every host and every set of tenants: all spellings of the host lead to the same tenant or
to none, exactly where it is a custom domain or its first label says the same in every spelling. -/
theorem respelled_alike_iff (tenants : List Tenant) (hostname : String) :
    (∀ other, Respelled hostname other → ResolvesAlike tenants hostname other) ↔
      HasCustomDomain tenants hostname ∨ (labels hostname.toList).head? = some [] ∨
        SpellingIrrelevant hostname.toList := by
  simp only [resolvesAlike_iff]
  cases domain : customDomain tenants hostname with
  | some tenant =>
    have hasDomain : HasCustomDomain tenants hostname := by
      rw [← customDomain_isSome, domain, Option.isSome_some]
    refine ⟨fun _ => .inl hasDomain, fun _ other respelled => ?_⟩
    rw [tenantOfHost, tenantOfHost, customDomain_respelled respelled, domain]
    rfl
  | none =>
    have noDomain : ¬HasCustomDomain tenants hostname := by
      rw [← customDomain_isSome, domain, Option.isSome_none]
      decide
    rw [or_iff_right noDomain, ← slugLabel_respelled_iff]
    exact forall₂_congr fun other respelled => tenantOfHost_respelled_iff respelled domain

def parako : Tenant := ⟨"parako", none, .active, none⟩

def arrivalAt (hostname : String) : Arrival :=
  ⟨⟨hostname, fun _ => none⟩, ⟨true, [.header, .subdomain], "x-tenant-id"⟩, .development, [parako],
    false, false, false⟩

theorem rooted_base_enters_tenant :
    ¬(∀ other, Respelled "parako.id" other → ResolvesAlike [parako] "parako.id" other) ∧
      (handler (arrivalAt "parako.id") .fresh).2 = .next DEFAULT_TENANT_ID ∧
      (handler (arrivalAt "parako.id.") .fresh).2 = .next "parako" := by
  refine ⟨?_, by decide +kernel, by decide +kernel⟩
  intro alike
  have same := alike _ (.rootDot (by decide)) "x-tenant-id" (fun _ => none) [.subdomain]
  exact absurd (congrArg Extracted.tenantId same) (by decide +kernel)

end ParakoId.Tenancy
