import ParakoId.Tenancy.Hosts

/-!
From a tenant to its issuer and back: the slug goes in front of the host of the deployment,
and only a host of three labels or more is read as a slug in front of something.
-/

namespace ParakoId.Tenancy

open Config (withoutProtocol)
open TenantScope (isTenantSlug)
open Url (Tables Text labels IsLabel endsInNumber isForbidden)

theorem slugCharacter_label {character : Char} (slugCharacter :
    (decide ('a' ≤ character ∧ character ≤ 'z') || decide ('0' ≤ character ∧ character ≤ '9') ||
      character == '_' || character == '-') = true) : character ∈ Url.LABEL_CHARACTERS := by
  have ascii : character.toNat < 128 := by
    simp only [Bool.or_eq_true, decide_eq_true_eq, beq_iff_eq] at slugCharacter
    rcases slugCharacter with ((letter | digit) | rfl) | rfl
    · have atMost : character.toNat ≤ 'z'.toNat := letter.2
      exact Nat.lt_of_le_of_lt atMost (by decide)
    · have atMost : character.toNat ≤ '9'.toNat := digit.2
      exact Nat.lt_of_le_of_lt atMost (by decide)
    · decide
    · decide
  have listed : ∀ code < 128, (decide ('a' ≤ Char.ofNat code ∧ Char.ofNat code ≤ 'z') ||
      decide ('0' ≤ Char.ofNat code ∧ Char.ofNat code ≤ '9') ||
      Char.ofNat code == '_' || Char.ofNat code == '-') = true →
        Char.ofNat code ∈ Url.LABEL_CHARACTERS := by decide
  have coded := listed character.toNat ascii
  rw [Char.ofNat_toNat] at coded
  exact coded slugCharacter

theorem isLabel_slug {slug : String} (valid : isTenantSlug slug = true) :
    IsLabel slug.toList := by
  simp only [isTenantSlug] at valid
  split at valid
  · cases valid
  · next first rest split =>
      simp only [Bool.and_eq_true, List.all_eq_true] at valid
      obtain ⟨⟨firstWord, _⟩, restWord⟩ := valid
      rw [split]
      refine ⟨by simp, ?_⟩
      intro character member
      apply slugCharacter_label
      rcases List.mem_cons.mp member with rfl | inRest
      · rw [firstWord]
        rfl
      · exact restWord character inRest

theorem protocolOf_isWeb (text : String) :
    ∃ secure, (protocolOf text).toList = Url.webProtocol secure := by
  rcases web_cases text with ⟨secure, web⟩ | ⟨notSecure, notPlain⟩
  · exact ⟨secure, protocolOf_web web⟩
  · exact ⟨false, by rw [(other_protocol notSecure notPlain).1]; rfl⟩

def baseAuthority (deploymentUrl : String) : Text :=
  Url.untilPath ((baseDomain deploymentUrl).toList.filter (!Url.isNewline ·))

theorem hostname_derived (tables : Tables) {tenant : Tenant}
    (valid : isTenantSlug tenant.slug = true) (noIssuer : presentText tenant.issuer_url = none)
    (noDomain : presentText tenant.domain = none) (deploymentUrl : String) {oidcPath : String}
    (isPath : oidcPath.toList.head? = some '/') :
    Url.hostname tables
        (deriveTenantIssuerUrl tenant.slug tenant deploymentUrl oidcPath).toList =
      Url.hostOfAuthority tables (tenant.slug.toList ++ '.' :: baseAuthority deploymentUrl) := by
  have isLabel := isLabel_slug valid
  obtain ⟨secure, protocol⟩ := protocolOf_isWeb deploymentUrl
  obtain ⟨more, path⟩ : ∃ more, oidcPath.toList = '/' :: more := by
    cases split : oidcPath.toList with
    | nil => simp [split] at isPath
    | cons first more =>
      rw [split] at isPath
      injection isPath with isSlash
      exact ⟨more, by rw [isSlash]⟩
  have host : (recordHost tenant.slug tenant deploymentUrl).toList =
      tenant.slug.toList ++ '.' :: (baseDomain deploymentUrl).toList := by
    simp [recordHost, noDomain]
  have slugDot : ∀ {test : Char → Bool}, (∀ character ∈ Url.LABEL_CHARACTERS,
      test character = false) → test '.' = false →
        ∀ character ∈ tenant.slug.toList ++ ['.'], (!test character) = true := by
    intro test labelFree dotFree character member
    rcases List.mem_append.mp member with inSlug | isDot
    · simp [Url.label_free isLabel labelFree character inSlug]
    · simp [List.mem_singleton.mp isDot, dotFree]
  have kept : (tenant.slug.toList ++ ['.']).filter (!Url.isNewline ·) =
      tenant.slug.toList ++ ['.'] :=
    List.filter_eq_self.mpr (slugDot (Text.forall_of_all (by decide)) (by decide))
  have text : (deriveTenantIssuerUrl tenant.slug tenant deploymentUrl oidcPath).toList =
      Url.webProtocol secure ++
        ((tenant.slug.toList ++ ['.'] ++ (baseDomain deploymentUrl).toList) ++ '/' :: more) := by
    rw [deriveTenantIssuerUrl_eq, noIssuer, Option.getD_none]
    simp only [String.toList_append, protocol, host, path, List.append_assoc, List.cons_append,
      List.nil_append]
  have tidy : Url.tidied ((tenant.slug.toList ++ ['.'] ++ (baseDomain deploymentUrl).toList) ++
      '/' :: more) = tenant.slug.toList ++ ['.'] ++
          ((baseDomain deploymentUrl).toList.filter (!Url.isNewline ·) ++
            '/' :: Url.tidied more) := by
    rw [Url.tidied_append_of_neg _ (by decide), List.filter_append, kept, List.append_assoc]
  have noSlash : ∀ rest, (tenant.slug.toList ++ ['.'] ++ rest).dropWhile Url.isSlash =
      tenant.slug.toList ++ ['.'] ++ rest := by
    intro rest
    obtain ⟨first, others, split⟩ := List.exists_cons_of_ne_nil isLabel.nonempty
    have firstKept : Url.isSlash first = false :=
      Url.label_free isLabel (Text.forall_of_all (by decide)) first (by simp [split])
    rw [split, List.cons_append, List.cons_append, List.dropWhile_cons_of_neg (by simp [firstKept])]
  rw [text, Url.hostname_web, tidy, noSlash, Url.untilPath,
    List.takeWhile_append_of_pos (slugDot (Text.forall_of_all (by decide)) (by decide)),
    Text.takeWhile_append_of_neg _ _ (by decide)]
  simp only [List.append_assoc, List.singleton_append]
  rfl

theorem isIpHostname_unbracketed {text : Text} (unbracketed : '[' ∉ text) :
    isIpHostname text = Url.isIP text := by
  rw [isIpHostname]
  rintro rest rfl
  exact unbracketed List.mem_cons_self

theorem isIpHostname_domain {domain text : Text} (valid : domain.any isForbidden = false)
    (numberless : endsInNumber domain = false) (same : text = domain ∨ text ++ ['.'] = domain) :
    isIpHostname text = false := by
  have unbracketed : '[' ∉ text := by
    intro bracket
    have inDomain : '[' ∈ domain := by
      rcases same with rfl | rfl
      · exact bracket
      · exact List.mem_append_left _ bracket
    have forbidden : domain.any isForbidden = true :=
      List.any_eq_true.mpr ⟨'[', inDomain, by decide⟩
    rw [forbidden] at valid
    cases valid
  rw [isIpHostname_unbracketed unbracketed]
  exact Url.isIP_domain valid numberless same

theorem isIpHostname_isIPv4 {text : Text} (address : Url.isIPv4 text = true) :
    isIpHostname text = true := by
  have unbracketed : '[' ∉ text := by
    intro bracket
    rcases Url.isIPv4_characters address bracket with isDot | isDigit
    · exact absurd isDot (by decide)
    · exact absurd isDigit (by decide)
  rw [isIpHostname_unbracketed unbracketed, Url.isIP, address, Bool.true_or]

theorem normalizedHostname_isIPv4 {text : Text} (address : Url.isIPv4 text = true) :
    normalizedHostname (String.ofList text) = String.ofList text := by
  obtain ⟨lowered, noDot⟩ := Url.isIPv4_settled address
  simp only [normalizedHostname, String.toList_ofList, lowered, if_neg noDot]

theorem address_namesTenant {tenants : List Tenant} {text : Text} {slug : String}
    (address : Url.isIPv4 text = true) : ¬ NamesTenant tenants (String.ofList text) slug := by
  have isAddress := isIpHostname_isIPv4 address
  have noDomain : customDomain tenants (String.ofList text) = none := by
    simp only [customDomain, normalizedHostname_isIPv4 address, String.toList_ofList, isAddress,
      if_true]
  rw [NamesTenant, noDomain, Option.elim_none, String.toList_ofList, isAddress]
  simp

theorem address_namesNoTenant {tenants : List Tenant} {domain : Text} {slug : String} :
    ¬∃ address, Url.ipv4 domain = some address ∧
      NamesTenant tenants (String.ofList address) slug := by
  rw [not_exists]
  intro address
  rw [not_and]
  intro isAddress
  exact address_namesTenant (Url.isIPv4_ipv4 isAddress)

theorem normalizedHostname_text {domain : Text} (lowered : Url.lower domain = domain) :
    (normalizedHostname (String.ofList domain)).toList = domain ∨
      (normalizedHostname (String.ofList domain)).toList ++ ['.'] = domain := by
  simp only [normalizedHostname, String.toList_ofList, lowered]
  split
  next ends =>
    obtain ⟨before, rfl⟩ := List.getLast?_eq_some_iff.mp ends
    simp
  next => exact .inl rfl

def DistinctSlugs (tenants : List Tenant) : Prop := (tenants.map Tenant.slug).Nodup

def HasRoom (tables : Tables) (tenants : List Tenant) (slug : String) (authority : Text) : Prop :=
  let (host, port) := Url.splitPort false authority
  Url.isPort port = true ∧
    (Url.domainToASCII tables (slug.toList ++ '.' :: host)).isSome = true ∧
    ∃ base, Url.domainToASCII tables host = some base ∧ base.any isForbidden = false ∧
      endsInNumber base = false ∧ 2 ≤ (labels base).length ∧
      customDomain tenants (String.ofList (slug.toList ++ '.' :: base)) = none

theorem namesTenant_domain {tenants : List Tenant} (distinct : DistinctSlugs tenants)
    {tenant : Tenant} (member : tenant ∈ tenants) (valid : isTenantSlug tenant.slug = true)
    (noDomain : presentText tenant.domain = none) {base : Text}
    (lowered : Url.lower (tenant.slug.toList ++ '.' :: base) = tenant.slug.toList ++ '.' :: base)
    (permitted : (tenant.slug.toList ++ '.' :: base).any isForbidden = false)
    (numberless : endsInNumber (tenant.slug.toList ++ '.' :: base) = false) :
    NamesTenant tenants (String.ofList (tenant.slug.toList ++ '.' :: base)) tenant.slug ↔
      2 ≤ (labels base).length ∧
        customDomain tenants (String.ofList (tenant.slug.toList ++ '.' :: base)) = none := by
  have isLabel := isLabel_slug valid
  cases found : customDomain tenants (String.ofList (tenant.slug.toList ++ '.' :: base)) with
  | none =>
    have notAddress := isIpHostname_domain permitted numberless (.inl rfl)
    rw [NamesTenant, found, Option.elim_none, String.toList_ofList, notAddress,
      Url.labels_label isLabel]
    simp
  | some other =>
    rw [NamesTenant, found, Option.elim_some]
    refine ⟨fun sameSlug => ?_, fun taken => by cases taken.2⟩
    exfalso
    have foundByDomain : findByDomain tenants (normalizedHostname
        (String.ofList (tenant.slug.toList ++ '.' :: base))) = some other := by
      simp only [customDomain] at found
      split at found
      · cases found
      · exact found
    have sameTenant : other = tenant := by
      apply List.inj_on_of_nodup_map distinct
        (List.mem_of_find?_eq_some foundByDomain) member sameSlug
    have ownDomain := List.find?_some foundByDomain
    rw [decide_eq_true_eq, sameTenant] at ownDomain
    have emptyDomain : normalizedHostname
        (String.ofList (tenant.slug.toList ++ '.' :: base)) = "" := by
      rw [ownDomain, presentText_none] at noDomain
      rcases noDomain with isNone | isEmpty
      · cases isNone
      · injection isEmpty
    have long : 2 ≤ (tenant.slug.toList ++ '.' :: base).length := by
      have slugLong := List.length_pos_iff.mpr isLabel.nonempty
      simp only [List.length_append, List.length_cons]
      omega
    rcases normalizedHostname_text lowered with same | same
    · rw [← same, emptyDomain] at long
      simp at long
    · rw [← same, emptyDomain] at long
      simp at long

theorem permitted_label {label : Text} (isLabel : IsLabel label) (base : Text) :
    (label ++ '.' :: base).any isForbidden = base.any isForbidden := by
  have labelPermitted : label.any isForbidden = false := by
    rw [List.any_eq_false]
    intro character member
    simp [Url.label_free isLabel (Text.forall_of_all (by decide) : ∀ letter ∈ Url.LABEL_CHARACTERS,
      isForbidden letter = false) character member]
  have dotPermitted : isForbidden '.' = false := by decide
  rw [List.any_append, List.any_cons, labelPermitted, dotPermitted, Bool.false_or, Bool.false_or]

def IssuerResolves (tables : Tables) (tenants : List Tenant) (deploymentUrl oidcPath : String)
    (tenant : Tenant) : Prop :=
  ∃ host, Url.hostname tables
      (deriveTenantIssuerUrl tenant.slug tenant deploymentUrl oidcPath).toList = some host ∧
    (tenantOfHost tenants (String.ofList host)).map Extracted.tenantId = some tenant.slug

/-- What decides whether the tenant is found again: the host of an issuer of its own, the
host behind credentials in the deployment URL, or room in front of the deployment's host. -/
def IsFound (tables : Tables) (tenants : List Tenant) (deploymentUrl : String) (tenant : Tenant) :
    Prop :=
  match presentText tenant.issuer_url with
  | some issuerUrl => ∃ host, Url.hostname tables issuerUrl.toList = some host ∧
      NamesTenant tenants (String.ofList host) tenant.slug
  | none =>
    if '@' ∈ baseAuthority deploymentUrl then
      ∃ host, Url.hostOfAuthority tables (baseAuthority deploymentUrl) = some host ∧
        NamesTenant tenants (String.ofList host) tenant.slug
    else HasRoom tables tenants tenant.slug (baseAuthority deploymentUrl)

section Resolving

variable {tables : Tables} (mapsLabels : tables.MapsLabels) {tenants : List Tenant}
  (distinct : DistinctSlugs tenants) {tenant : Tenant} (member : tenant ∈ tenants)
  (valid : isTenantSlug tenant.slug = true) (noDomain : presentText tenant.domain = none)
include mapsLabels distinct member valid noDomain

theorem namesTenant_parsed (host : Text) :
    (∃ parsed, Url.parseDomain tables (tenant.slug.toList ++ '.' :: host) = some parsed ∧
        NamesTenant tenants (String.ofList parsed) tenant.slug) ↔
      (Url.domainToASCII tables (tenant.slug.toList ++ '.' :: host)).isSome = true ∧
        ∃ base, Url.domainToASCII tables host = some base ∧ base.any isForbidden = false ∧
          endsInNumber base = false ∧ 2 ≤ (labels base).length ∧
          customDomain tenants (String.ofList (tenant.slug.toList ++ '.' :: base)) = none := by
  have isLabel := isLabel_slug valid
  cases mapped : Url.domainToASCII tables (tenant.slug.toList ++ '.' :: host) with
  | none => simp [Url.parseDomain, mapped]
  | some domain =>
    have lowered := Url.lower_domainToASCII mapsLabels mapped
    obtain ⟨base, hostMapped, rfl⟩ := Url.domainToASCII_label mapsLabels isLabel mapped
    have parsed : Url.parseDomain tables (tenant.slug.toList ++ '.' :: host) =
        if base.any isForbidden = true then none
        else if endsInNumber (tenant.slug.toList ++ '.' :: base) = true then
          Url.ipv4 (tenant.slug.toList ++ '.' :: base)
        else some (tenant.slug.toList ++ '.' :: base) := by
      simp only [Url.parseDomain, mapped, permitted_label isLabel, List.append_eq_nil_iff,
        List.cons_ne_nil, and_false, false_or]
    rw [parsed, hostMapped]
    simp only [Option.isSome_some, true_and, Option.some.injEq, exists_eq_left']
    by_cases forbidden : base.any isForbidden = true
    · simp [forbidden]
    · by_cases isNumber : endsInNumber (tenant.slug.toList ++ '.' :: base) = true
      · rw [if_neg forbidden, if_pos isNumber]
        refine iff_of_false address_namesNoTenant ?_
        rintro ⟨_, numberless, long, _⟩
        rw [Url.endsInNumber_label isLabel long, numberless] at isNumber
        cases isNumber
      · rw [if_neg forbidden, if_neg isNumber]
        have permitted : (tenant.slug.toList ++ '.' :: base).any isForbidden = false := by
          rw [permitted_label isLabel]
          simpa using forbidden
        have numberless : endsInNumber (tenant.slug.toList ++ '.' :: base) = false := by
          simpa using isNumber
        have names :=
          namesTenant_domain distinct member valid noDomain lowered permitted numberless
        simp only [Option.some.injEq, exists_eq_left', names]
        constructor
        · rintro ⟨long, free⟩
          rw [Url.endsInNumber_label isLabel long] at numberless
          exact ⟨by simpa using forbidden, numberless, long, free⟩
        · rintro ⟨_, _, long, free⟩
          exact ⟨long, free⟩

theorem issuerResolves_iff (deploymentUrl : String) {oidcPath : String}
    (isPath : oidcPath.toList.head? = some '/') :
    IssuerResolves tables tenants deploymentUrl oidcPath tenant ↔
      IsFound tables tenants deploymentUrl tenant := by
  have isLabel := isLabel_slug valid
  have named : tenant.slug ≠ "" := by
    intro empty
    apply isLabel.nonempty
    rw [empty]
    rfl
  simp only [IssuerResolves, tenantOfHost_some named]
  cases issuer : presentText tenant.issuer_url with
  | some issuerUrl =>
    simp only [IsFound, issuer, deriveTenantIssuerUrl_eq, Option.getD_some]
  | none =>
    simp only [IsFound, issuer,
      hostname_derived tables valid issuer noDomain deploymentUrl isPath,
      Url.hostOfAuthority_label isLabel]
    by_cases credentials : '@' ∈ baseAuthority deploymentUrl
    · simp only [credentials, if_true]
    · by_cases badPort :
          Url.isPort (Url.splitPort false (baseAuthority deploymentUrl)).2 = false
      · simp [credentials, badPort, HasRoom]
      · have goodPort :
            Url.isPort (Url.splitPort false (baseAuthority deploymentUrl)).2 = true := by
          simpa using badPort
        have parsed := namesTenant_parsed mapsLabels distinct member valid noDomain
          (Url.splitPort false (baseAuthority deploymentUrl)).1
        simp only [credentials, badPort, if_false, HasRoom, true_and]
        exact parsed

end Resolving

def IssuersInvert (tables : Tables) (tenants : List Tenant) (deploymentUrl oidcPath : String) :
    Prop :=
  (∀ tenant ∈ tenants, tenant.status = .active → isTenantSlug tenant.slug = true →
    presentText tenant.domain = none →
      IssuerResolves tables tenants deploymentUrl oidcPath tenant) ∧
  ∀ host, Url.hostname tables deploymentUrl.toList = some host →
    tenantOfHost tenants (String.ofList host) = none

theorem issuers_invert_iff {tables : Tables} (mapsLabels : tables.MapsLabels)
    {tenants : List Tenant} (distinct : DistinctSlugs tenants) (deploymentUrl : String)
    {oidcPath : String} (isPath : oidcPath.toList.head? = some '/') :
    IssuersInvert tables tenants deploymentUrl oidcPath ↔
      (∀ tenant ∈ tenants, tenant.status = .active → isTenantSlug tenant.slug = true →
        presentText tenant.domain = none → IsFound tables tenants deploymentUrl tenant) ∧
      ∀ host, Url.hostname tables deploymentUrl.toList = some host →
        NamesNoTenant tenants (String.ofList host) := by
  simp only [IssuersInvert, tenantOfHost_none]
  refine and_congr ?_ Iff.rfl
  refine forall_congr' fun tenant => forall_congr' fun member => forall_congr' fun _ =>
    forall_congr' fun valid => forall_congr' fun noDomain => ?_
  exact issuerResolves_iff mapsLabels distinct member valid noDomain deploymentUrl isPath

theorem noTables_mapsLabels : noTables.MapsLabels where
  lowered mapped := by cases mapped
  labelFirst _ mapped := by cases mapped

theorem parako_issuers_invert : IssuersInvert noTables [acme] "https://parako.test" "/oidc/v1" := by
  have distinct : DistinctSlugs [acme] := by simp [DistinctSlugs]
  have isPath : "/oidc/v1".toList.head? = some '/' := by decide
  apply (issuers_invert_iff noTables_mapsLabels distinct "https://parako.test" isPath).mpr
  constructor
  · intro tenant member _ _ _
    have isWeb : "https://parako.test".toList =
        Url.webProtocol true ++ "parako.test".toList := by decide +kernel
    have authority : baseAuthority "https://parako.test" = "parako.test".toList := by
      rw [baseAuthority, baseDomain, Config.withoutTrailingSlashes, withoutProtocol_web isWeb,
        String.toList_ofList]
      decide +kernel
    have noCredentials : '@' ∉ "parako.test".toList := by decide +kernel
    rw [List.mem_singleton.mp member, IsFound]
    show if '@' ∈ baseAuthority "https://parako.test" then _ else _
    rw [authority, if_neg noCredentials]
    exact ⟨by decide +kernel, by decide +kernel, "parako.test".toList, by decide +kernel,
      by decide +kernel, by decide +kernel, by decide +kernel, by decide +kernel⟩
  · intro host parsed
    have isHost : Url.hostname noTables "https://parako.test".toList =
        some "parako.test".toList := by decide +kernel
    rw [isHost] at parsed
    injection parsed with same
    rw [← same, String.ofList_toList]
    exact ⟨by decide +kernel, .inr (.inl (by decide +kernel))⟩

theorem deploymentHost_readAsTenant :
    Url.hostname noTables "https://auth.example.com".toList = some "auth.example.com".toList ∧
      tenantOfHost [acme] "auth.example.com" = some ⟨"auth", none⟩ ∧
      ¬ IssuersInvert noTables [acme] "https://auth.example.com" "/oidc/v1" := by
  have host : Url.hostname noTables "https://auth.example.com".toList =
      some "auth.example.com".toList := by decide +kernel
  have read : tenantOfHost [acme] "auth.example.com" = some ⟨"auth", none⟩ := by decide +kernel
  refine ⟨host, read, ?_⟩
  rintro ⟨_, bare⟩
  have unread := bare _ host
  rw [String.ofList_toList, read] at unread
  cases unread

end ParakoId.Tenancy
