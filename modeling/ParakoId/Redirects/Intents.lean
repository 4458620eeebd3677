import ParakoId.Library.Domains
import ParakoId.Library.Runs
import ParakoId.Redirects.Validation

/-!
The redirect intent of a session: where a user goes on to after a login, a registration and the
like.
-/

namespace ParakoId.Redirects

open Url (Text parse isWeb)

structure RedirectIntent (Metadata : Type) where
  url : Text
  intent : Text
  timestamp : Nat
  metadata : Metadata

structure State (Metadata : Type) where
  now : Nat
  authority : Authority
  -- `redirectIntent` in the session
  redirectIntent : Option (RedirectIntent Metadata)

def DEFAULT_INTENT_EXPIRATION : Int := 3600000

structure Storing (Metadata : Type) where
  url : Text
  intent : Text
  metadata : Metadata
  options : Options := {}
  -- the redirect URIs of all clients, should they be asked for; `none` where that fails
  redirectUris : Option (List Text) := none
  loadingTime : Nat := 0

def redirectHost (environment : Environment) (uri : Text) : Option Text :=
  match parse environment.tables uri with
  | some parsedUri =>
    if isWeb parsedUri = true ∧ parsedUri.host ≠ [] then
      some (environment.toLowerCase parsedUri.host)
    else none
  | none => none

def getOidcClientDomains (environment : Environment) (authority : Authority) (now : Nat)
    (redirectUris : Option (List Text)) : Authority :=
  if authority.clientDomains.any fun domains =>
      decide ((now : Int) - domains.loadedAt < CACHE_TTL) then authority
  else
    match redirectUris with
    | none => authority
    | some uris =>
      { authority with
        clientDomains := some ⟨uris.filterMap (redirectHost environment), now⟩ }

def Reason.asksForClients (reason : Reason) : Bool :=
  let text := reason.text.toList
  "No trusted domains configured.".toList.isPrefixOf text ||
    includes "not in the list of trusted domains".toList text

section Accessors

variable {Metadata : Type} (environment : Environment)

def normalized (intent : Text) : Text := trim (environment.toLowerCase intent)

def persistIntent (state : State Metadata) (url intent : Text) (metadata : Metadata) :
    State Metadata :=
  { state with redirectIntent := some ⟨url, normalized environment intent, state.now, metadata⟩ }

def storeIntent (state : State Metadata) (request : Storing Metadata) : Bool × State Metadata :=
  if request.intent = [] then (false, state)
  else
    match validateUrl environment state.authority state.now request.options request.url with
    | .ok url => (true, persistIntent environment state url request.intent request.metadata)
    | .error reason =>
      if reason.asksForClients && state.authority.knowsClients then
        let loaded : State Metadata :=
          { state with
            now := state.now + request.loadingTime
            authority :=
              getOidcClientDomains environment state.authority state.now request.redirectUris }
        match validateUrl environment loaded.authority loaded.now request.options request.url with
        | .ok url => (true, persistIntent environment loaded url request.intent request.metadata)
        | .error _ => (false, loaded)
      else (false, state)

def clearIntent (state : State Metadata) : State Metadata := { state with redirectIntent := none }

def getIntentWithMetadata (state : State Metadata) (expectedIntent : Text) (consume : Bool)
    (maxAge : Int) : Option (RedirectIntent Metadata) × State Metadata :=
  if expectedIntent = [] then (none, state)
  else
    match state.redirectIntent with
    | none => (none, state)
    | some redirectIntent =>
      let normalizedExpected := normalized environment expectedIntent
      let normalizedStored := normalized environment redirectIntent.intent
      if normalizedStored ≠ normalizedExpected then (none, state)
      else if (state.now : Int) - redirectIntent.timestamp > maxAge then (none, clearIntent state)
      else (some redirectIntent, if consume then clearIntent state else state)

/-- Apart from what it logs, `getIntent` is `getIntentWithMetadata` with the URL as its result. -/
def getIntent (state : State Metadata) (expectedIntent : Text) (consume : Bool) (maxAge : Int) :
    Option Text × State Metadata :=
  let (redirectIntent, after) :=
    getIntentWithMetadata environment state expectedIntent consume maxAge
  (redirectIntent.map RedirectIntent.url, after)

def hasIntent (state : State Metadata) (expectedIntent : Option Text) : Bool :=
  match state.redirectIntent with
  | none => false
  | some redirectIntent =>
    if (state.now : Int) - redirectIntent.timestamp > DEFAULT_INTENT_EXPIRATION then false
    else
      match expectedIntent with
      | none | some [] => true
      | some (first :: rest) =>
        decide (normalized environment redirectIntent.intent =
          normalized environment (first :: rest))

end Accessors

/-! What a run stores and what consuming reads return. The code passes the metadata on unread, so a
tag on it tells where a returned intent comes from. -/

structure Tag where
  serial : Nat
  storedFor : Text

structure Used where
  tag : Tag
  expectedIntent : Text
  age : Int
  maxAge : Int

structure History (Metadata : Type) where
  state : State (Tag × Metadata)
  stored : Nat := 0
  used : List Used := []

inductive Event (Metadata : Type)
  | storeIntent (request : Storing Metadata)
  | getIntent (expectedIntent : Text) (consume : Bool) (maxAge : Int)
  | getIntentWithMetadata (expectedIntent : Text) (consume : Bool) (maxAge : Int)
  | hasIntent (expectedIntent : Option Text)
  | clearIntent
  -- the time that the clock shows from then on
  | clock (now : Nat)

section Histories

variable {Metadata : Type} (environment : Environment)

def tagged (history : History Metadata) (request : Storing Metadata) : Storing (Tag × Metadata) :=
  { request with metadata := (⟨history.stored, request.intent⟩, request.metadata) }

def read (history : History Metadata) (expectedIntent : Text) (consume : Bool) (maxAge : Int) :
    History Metadata :=
  let (redirectIntent, after) :=
    getIntentWithMetadata environment history.state expectedIntent consume maxAge
  { history with
    state := after
    used := match redirectIntent with
      | some redirectIntent =>
        if consume then
          ⟨redirectIntent.metadata.1, expectedIntent,
            (history.state.now : Int) - redirectIntent.timestamp, maxAge⟩ :: history.used
        else history.used
      | none => history.used }

def step (history : History Metadata) : Event Metadata → History Metadata
  | .storeIntent request =>
    let (success, after) := storeIntent environment history.state (tagged history request)
    { history with state := after, stored := history.stored + success.toNat }
  | .getIntent expectedIntent consume maxAge =>
    read environment history expectedIntent consume maxAge
  | .getIntentWithMetadata expectedIntent consume maxAge =>
    read environment history expectedIntent consume maxAge
  | .hasIntent _ => history
  | .clearIntent => { history with state := clearIntent history.state }
  | .clock now => { history with state := { history.state with now := now } }

end Histories

end ParakoId.Redirects
