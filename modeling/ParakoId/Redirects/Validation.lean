import ParakoId.Library.Url

/-!
`RedirectAuthority.validateUrl`: which URLs a user may be sent to. Texts are lists of characters,
and the lower case of Unicode is a parameter.
-/

namespace ParakoId.Redirects

open Url (Text Tables Location isWeb parse HTTP HTTPS)

structure Environment where
  tables : Tables
  toLowerCase : Text → Text

def plainEnvironment : Environment where
  tables :=
    { domainToASCII := fun _ => none, ipv6 := fun _ => none, otherHostname := fun _ _ => none }
  toLowerCase := Url.lower

def CACHE_TTL : Nat := 300000

structure ClientDomains where
  hosts : List Text
  loadedAt : Nat

structure Authority where
  deploymentUrl : Text
  trustedDomains : List Text
  -- `oidcAdapter || oidcClientMerger`
  knowsClients : Bool
  clientDomains : Option ClientDomains

structure Options where
  allowLocal : Bool := true
  requireHttps : Bool := false
  maxLength : Int := 2048
  customValidator : Option (Text → Bool) := none

inductive Reason
  | required
  | tooLong (maxLength : Int)
  | empty
  | protocolRelative
  | localPath
  | localCharacters
  | custom
  | https
  | protocols
  | noTrustedDomains (hostname : Text)
  | notTrusted (hostname : Text) (trustedDomains : List Text)
  | invalidFormat

def Reason.text : Reason → String
  | .required => "URL is required and must be a string"
  | .tooLong maxLength => "URL exceeds maximum length of " ++ toString maxLength ++ " characters"
  | .empty => "URL cannot be empty"
  | .protocolRelative => "Protocol-relative URLs are not allowed"
  | .localPath => "Local paths are not allowed"
  | .localCharacters => "Invalid characters in local path"
  | .custom => "URL failed custom validation"
  | .https => "HTTPS is required for external URLs"
  | .protocols => "Only HTTP and HTTPS protocols are allowed"
  | .noTrustedDomains hostname =>
    "No trusted domains configured. Add '" ++ String.ofList hostname ++
      "' to trusted domains or register it as an OIDC client redirect URI."
  | .notTrusted hostname trustedDomains =>
    "Domain '" ++ String.ofList hostname ++ "' is not in the list of trusted domains: " ++
      ", ".intercalate (trustedDomains.map String.ofList) ++
      ". You can also register it as an OIDC client redirect URI."
  | .invalidFormat => "Invalid URL format: Invalid URL"

def trim (text : Text) : Text :=
  (text.dropWhile Text.isWhiteSpace).rdropWhile Text.isWhiteSpace

def includes (part text : Text) : Bool := text.tails.any (part.isPrefixOf ·)

def matchesDomain (environment : Environment) (hostname trustedDomain : Text) : Bool :=
  let domain := trim (environment.toLowerCase trustedDomain)
  if domain = [] then false
  else if ['*', '.'].isPrefixOf domain then
    let baseDomain := domain.drop 2
    decide (hostname = baseDomain) || ('.' :: baseDomain).isSuffixOf hostname
  else decide (hostname = domain)

def freshClientDomains (authority : Authority) (now : Nat) : List Text :=
  if authority.knowsClients then
    match authority.clientDomains with
    | some domains => if (now : Int) - domains.loadedAt < CACHE_TTL then domains.hosts else []
    | none => []
  else []

def isTrusted (environment : Environment) (authority : Authority) (now : Nat) (host : Text) :
    Bool :=
  let hostname := environment.toLowerCase host
  authority.trustedDomains.any (matchesDomain environment hostname) ||
    (freshClientDomains authority now).contains hostname

def customValidated (options : Options) (trimmedUrl : Text) : Except Reason Text :=
  if options.customValidator.all fun validator => validator trimmedUrl then .ok trimmedUrl
  else .error .custom

def validateUrl (environment : Environment) (authority : Authority) (now : Nat)
    (options : Options) (url : Text) : Except Reason Text :=
  if url = [] then .error .required
  else if (Text.utf16Length (String.ofList url) : Int) > options.maxLength then
    .error (.tooLong options.maxLength)
  else
    let trimmedUrl := trim url
    if trimmedUrl = [] then .error .empty
    else if ['/', '/'].isPrefixOf trimmedUrl then .error .protocolRelative
    else if ['/'].isPrefixOf trimmedUrl then
      if options.allowLocal = false then .error .localPath
      else if includes ['/', '/'] trimmedUrl ∨ includes ['\\'] trimmedUrl then
        .error .localCharacters
      else customValidated options trimmedUrl
    else
      match parse environment.tables trimmedUrl with
      | none => .error .invalidFormat
      | some parsedUrl =>
        if options.requireHttps ∧ parsedUrl.scheme ≠ HTTPS then .error .https
        else if isWeb parsedUrl = false then .error .protocols
        -- the origins of URLs with a special scheme
        else if parse environment.tables authority.deploymentUrl = some parsedUrl then
          customValidated options trimmedUrl
        else if isTrusted environment authority now parsedUrl.host then
          customValidated options trimmedUrl
        else
          let hostname := environment.toLowerCase parsedUrl.host
          .error (if authority.trustedDomains = [] then .noTrustedDomains hostname
            else .notTrusted hostname authority.trustedDomains)

end ParakoId.Redirects
