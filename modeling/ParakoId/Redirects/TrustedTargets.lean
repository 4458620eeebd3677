import ParakoId.Redirects.Validation

/-!
Where a browser on a page of the deployment goes that is sent to an accepted URL.
-/

namespace ParakoId.Redirects

open Url (Text Tables Location isWeb parse resolve hasTwoSlashes cleaned tidied isSlash locate
  authorityBehind hostOfAuthority)

structure Deployment (tables : Tables) where
  url : Text
  location : Location
  parses : parse tables url = some location

section Targets

variable (environment : Environment) (deployment : Deployment environment.tables)
  (authority : Authority) (now : Nat)

def IsTrustedHost (host : Text) : Prop :=
  host = deployment.location.host ∨ isTrusted environment authority now host = true

def StaysOnTrustedHosts (target : Text) : Prop :=
  ∃ location, resolve environment.tables deployment.location target = some location ∧
    isWeb location = true ∧ IsTrustedHost environment deployment authority now location.host

end Targets

def isLocalPath (options : Options) (url : Text) : Bool :=
  let path := trim url
  decide ((Text.utf16Length (String.ofList url) : Int) ≤ options.maxLength) &&
    options.allowLocal && ['/'].isPrefixOf path && !(['/', '/'].isPrefixOf path) &&
    !includes ['/', '/'] path && !includes ['\\'] path &&
    options.customValidator.all fun validator => validator path

def PathIsTrusted (environment : Environment) (deployment : Deployment environment.tables)
    (authority : Authority) (now : Nat) (path : Text) : Prop :=
  isWeb deployment.location = true ∧
    (hasTwoSlashes (cleaned path) = true →
      ∃ host, hostOfAuthority environment.tables (authorityBehind (cleaned path)) = some host ∧
        IsTrustedHost environment deployment authority now host)

section Proofs

variable {environment : Environment} {deployment : Deployment environment.tables}
  {authority : Authority} {now : Nat} {options : Options} {url target : Text}

theorem staysOnTrustedHosts_path (rest : Text) :
    StaysOnTrustedHosts environment deployment authority now ('/' :: rest) ↔
      PathIsTrusted environment deployment authority now ('/' :: rest) := by
  have noScheme : Url.splitScheme (cleaned ('/' :: rest)) = none := by
    rw [Url.cleaned_slash]
    exact Url.splitScheme_slash _
  rw [StaysOnTrustedHosts, PathIsTrusted, resolve, noScheme]
  simp only
  by_cases special : deployment.location.scheme ∈ Url.SPECIAL_SCHEMES
  · rw [if_pos special]
    cases twoSlashes : hasTwoSlashes (cleaned ('/' :: rest)) with
    | false =>
      simp only [Bool.false_eq_true, if_false, false_implies, and_true]
      constructor
      · rintro ⟨location, isBase, web, _⟩
        injection isBase with isBase
        rwa [isBase]
      · intro web
        exact ⟨deployment.location, rfl, web, .inl rfl⟩
    | true =>
      simp only [if_true, true_implies]
      constructor
      · rintro ⟨location, located, web, trusted⟩
        have sameScheme := Url.locate_scheme located
        obtain ⟨host, isHost, rfl⟩ := Option.map_eq_some_iff.mp located
        exact ⟨web, host, isHost, trusted⟩
      · rintro ⟨web, host, isHost, trusted⟩
        let scheme := deployment.location.scheme
        let port := Url.portOf scheme (authorityBehind (cleaned ('/' :: rest)))
        refine ⟨⟨scheme, host, port⟩, ?_, web, trusted⟩
        rw [locate, isHost]
        rfl
  · rw [if_neg special]
    constructor
    · rintro ⟨location, resolved, web, _⟩
      obtain ⟨host, _, rfl⟩ := Option.map_eq_some_iff.mp resolved
      exact absurd (Url.isWeb_special web) special
    · rintro ⟨web, _⟩
      exact absurd (Url.isWeb_special web) special

theorem customValidated_ok {trimmedUrl : Text} :
    customValidated options trimmedUrl = .ok target ↔
      options.customValidator.all (fun validator => validator trimmedUrl) = true ∧
        trimmedUrl = target := by
  rw [customValidated]
  split
  next valid => simp [valid]
  next invalid => simp [invalid]

theorem guarded_ok {refused : Prop} [Decidable refused] {reason : Reason}
    {rest : Except Reason Text} :
    (if refused then .error reason else rest) = .ok target ↔ ¬refused ∧ rest = .ok target := by
  by_cases isRefused : refused
  · simp [isRefused]
  · simp [isRefused]

theorem accepted_cases (isDeployment : authority.deploymentUrl = deployment.url)
    (accepted : validateUrl environment authority now options url = .ok target) :
    target = trim url ∧
      (isLocalPath options url = true ∨
        ∃ location, parse environment.tables target = some location ∧ isWeb location = true ∧
          IsTrustedHost environment deployment authority now location.host) := by
  obtain ⟨_, accepted⟩ := guarded_ok.mp accepted
  obtain ⟨short, accepted⟩ := guarded_ok.mp accepted
  obtain ⟨_, accepted⟩ := guarded_ok.mp accepted
  obtain ⟨notRelative, accepted⟩ := guarded_ok.mp accepted
  by_cases path : ['/'].isPrefixOf (trim url) = true
  · rw [if_pos path] at accepted
    obtain ⟨allowed, accepted⟩ := guarded_ok.mp accepted
    obtain ⟨plain, accepted⟩ := guarded_ok.mp accepted
    obtain ⟨valid, isTarget⟩ := customValidated_ok.mp accepted
    refine ⟨isTarget.symm, .inl ?_⟩
    rw [not_or, Bool.not_eq_true, Bool.not_eq_true] at plain
    rw [Bool.not_eq_false] at allowed
    rw [Bool.not_eq_true] at notRelative
    have fits : (Text.utf16Length (String.ofList url) : Int) ≤ options.maxLength := by omega
    simp [isLocalPath, fits, allowed, path, notRelative, plain, valid]
  · rw [if_neg path] at accepted
    cases parsed : parse environment.tables (trim url) with
    | none =>
      rw [parsed] at accepted
      cases accepted
    | some location =>
      rw [parsed] at accepted
      obtain ⟨_, accepted⟩ := guarded_ok.mp accepted
      obtain ⟨web, accepted⟩ := guarded_ok.mp accepted
      rw [Bool.not_eq_false] at web
      by_cases sameOrigin : parse environment.tables authority.deploymentUrl = some location
      · rw [if_pos sameOrigin] at accepted
        obtain ⟨_, isTarget⟩ := customValidated_ok.mp accepted
        rw [isDeployment, deployment.parses, Option.some.injEq] at sameOrigin
        refine ⟨isTarget.symm, .inr ⟨location, ?_, web, .inl ?_⟩⟩
        · rw [← isTarget, parsed]
        · rw [sameOrigin]
      · rw [if_neg sameOrigin] at accepted
        by_cases trusted : isTrusted environment authority now location.host = true
        · rw [if_pos trusted] at accepted
          obtain ⟨_, isTarget⟩ := customValidated_ok.mp accepted
          refine ⟨isTarget.symm, .inr ⟨location, ?_, web, .inr trusted⟩⟩
          rw [← isTarget, parsed]
        · rw [if_neg trusted] at accepted
          cases accepted

theorem accepted_of_isLocalPath (isLocal : isLocalPath options url = true) :
    validateUrl environment authority now options url = .ok (trim url) := by
  simp only [isLocalPath, Bool.and_eq_true, decide_eq_true_eq, Bool.not_eq_true'] at isLocal
  obtain ⟨⟨⟨⟨⟨⟨short, allowed⟩, path⟩, notRelative⟩, noSlashes⟩, noBackslash⟩, valid⟩ := isLocal
  have nonempty : trim url ≠ [] := by
    intro empty
    rw [empty] at path
    cases path
  have given : url ≠ [] := by
    rintro rfl
    exact nonempty rfl
  rw [validateUrl, if_neg given, if_neg (by omega)]
  simp only [if_neg nonempty, notRelative, Bool.false_eq_true, if_false, path, if_true, allowed,
    Bool.true_eq_false, noSlashes, noBackslash, or_self]
  exact customValidated_ok.mpr ⟨valid, rfl⟩

theorem startsWithSlash_iff {text : Text} :
    ['/'].isPrefixOf text = true ↔ ∃ rest, text = '/' :: rest := by
  cases text with
  | nil => simp
  | cons first rest =>
    have same : ['/'].isPrefixOf (first :: rest) = true ↔ '/' = first := by
      simp [List.isPrefixOf]
    rw [same]
    constructor
    · rintro rfl
      exact ⟨rest, rfl⟩
    · rintro ⟨other, isPath⟩
      injection isPath with isFirst _
      exact isFirst.symm

end Proofs

/-- An accepted URL leads to the deployment or to a trusted host, exactly where it is not a path
that names another host. -/
theorem redirect_targets_iff (environment : Environment)
    (deployment : Deployment environment.tables) (authority : Authority)
    (isDeployment : authority.deploymentUrl = deployment.url) (now : Nat) (options : Options)
    (url : Text) :
    (∀ target, validateUrl environment authority now options url = .ok target →
      StaysOnTrustedHosts environment deployment authority now target) ↔
      (isLocalPath options url = true →
        PathIsTrusted environment deployment authority now (trim url)) := by
  have path : isLocalPath options url = true → ∃ rest, trim url = '/' :: rest := by
    intro isLocal
    simp only [isLocalPath, Bool.and_eq_true] at isLocal
    exact startsWithSlash_iff.mp isLocal.1.1.1.1.2
  constructor
  · intro stays isLocal
    obtain ⟨rest, isPath⟩ := path isLocal
    have target := stays (trim url) (accepted_of_isLocalPath isLocal)
    rw [isPath] at target ⊢
    exact (staysOnTrustedHosts_path rest).mp target
  · intro pathTrusted target accepted
    obtain ⟨isTarget, isLocal | ⟨location, parsed, web, trusted⟩⟩ :=
      accepted_cases isDeployment accepted
    · obtain ⟨rest, isPath⟩ := path isLocal
      have local_ := pathTrusted isLocal
      rw [isTarget]
      rw [isPath] at local_ ⊢
      exact (staysOnTrustedHosts_path rest).mpr local_
    · rcases Url.resolve_of_parse deployment.location parsed web with resolved | ⟨resolved, scheme⟩
      · exact ⟨location, resolved, web, trusted⟩
      · refine ⟨deployment.location, resolved, ?_, .inl rfl⟩
        rwa [isWeb, scheme]

def idExample : Text :=
  Url.HTTPS ++ [':', '/', '/', 'i', 'd', '.', 'e', 'x', 'a', 'm', 'p', 'l', 'e']

def idDeployment : Deployment plainEnvironment.tables where
  url := idExample
  location := ⟨Url.HTTPS, ['i', 'd', '.', 'e', 'x', 'a', 'm', 'p', 'l', 'e'], none⟩
  parses := by decide

def idAuthority : Authority where
  deploymentUrl := idExample
  trustedDomains := []
  knowsClients := false
  clientDomains := none

theorem account_page_stays :
    StaysOnTrustedHosts plainEnvironment idDeployment idAuthority 0 ['/', 'm', 'e'] :=
  (redirect_targets_iff plainEnvironment idDeployment idAuthority rfl 0 {} ['/', 'm', 'e']).mpr
    (fun _ => ⟨by decide, fun twoSlashes => absurd twoSlashes (by decide)⟩) ['/', 'm', 'e'] rfl

def tabbedPath : Text := ['/', '\t', '/', 'e', 'v', 'i', 'l', '.', 't', 'e', 's', 't']

theorem tabbed_path_leaves :
    validateUrl plainEnvironment idAuthority 0 {} tabbedPath = .ok tabbedPath ∧
      resolve plainEnvironment.tables idDeployment.location tabbedPath =
        some ⟨Url.HTTPS, ['e', 'v', 'i', 'l', '.', 't', 'e', 's', 't'], none⟩ ∧
      ¬StaysOnTrustedHosts plainEnvironment idDeployment idAuthority 0 tabbedPath := by
  have leaves : resolve plainEnvironment.tables idDeployment.location tabbedPath =
      some ⟨Url.HTTPS, ['e', 'v', 'i', 'l', '.', 't', 'e', 's', 't'], none⟩ := by
    decide
  refine ⟨rfl, leaves, ?_⟩
  rintro ⟨location, resolved, _, trusted⟩
  rw [leaves, Option.some.injEq] at resolved
  subst resolved
  rcases trusted with isDeployment | isTrusted
  · exact absurd isDeployment (by decide)
  · cases isTrusted

end ParakoId.Redirects
