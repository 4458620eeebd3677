import ParakoId.ClientRegistry.Schema
import ParakoId.Library.Runs

/-!
`ClientRegistryManager`: the registry file and the configuration that is cached of it. The methods
change the cached configuration itself before they save it.
-/

namespace ParakoId.ClientRegistry

open Schemas (Fields)

/-- What a spread takes from an object, also the properties that are `undefined` there. -/
abbrev Updates := String → Option (Option Json)

structure Registry where
  version : String
  created_at : ℚ
  updated_at : ℚ
  clients : List Fields

structure RawRegistry where
  version : Option String
  created_at : Option ℚ
  updated_at : Option ℚ
  clients : Option (List Fields)

inductive File
  | absent
  -- no JSONC, or no object with these properties
  | broken (error : String)
  | holds (raw : RawRegistry)

inductive Failure
  | alreadyExists (clientId : String)
  | notFound (clientId : String)
  | cannotChangeId
  | typeError (error : String)
  | invalidClient (messages : List String)
  | invalidRegistry (messages : List String)
  | loading (error : String)
  | saving (error : String)

def Failure.text : Failure → String
  | .alreadyExists clientId => "Client with ID '" ++ clientId ++ "' already exists"
  | .notFound clientId => "Client with ID '" ++ clientId ++ "' not found"
  | .cannotChangeId => "Cannot change client_id. Use remove and add instead."
  | .typeError error => error
  | .invalidClient messages => "\n".intercalate messages
  | .invalidRegistry messages =>
    "Client configuration validation failed:\n" ++ "\n".intercalate messages
  | .loading error => "Failed to load client configuration: " ++ error
  | .saving error => "Failed to save client configuration: " ++ error

-- `/^\d+\.\d+\.\d+$/`
def isVersion (version : String) : Bool :=
  let parts := version.toList.splitOn '.'
  decide (parts.length = 3) && parts.all fun part => part != [] && part.all Url.isDigit

structure Manager where
  cachedConfig : Option Registry
  file : File

/-- What a write to the disk comes to. A write that fails may have emptied or cut the file. -/
inductive Disk
  | written
  | refused (error : String)
  | damaged (error : String) (left : File)

section Methods

variable (environment : Environment)

/-- `ClientRegistrySchema.parse` -/
def parseRegistry (now : Nat) (raw : RawRegistry) : Except Failure Registry :=
  if raw.version.all isVersion then
    match (raw.clients.getD []).mapM (parseClient environment) with
    | .ok clients =>
      .ok ⟨raw.version.getD "1.0.0", raw.created_at.getD now, raw.updated_at.getD now, clients⟩
    | .error messages => .error (.invalidRegistry messages)
  else .error (.invalidRegistry ["version: Version must be in semver format (X.Y.Z)"])

def readFile (now : Nat) : File → Except Failure Registry
  | .absent => .ok ⟨"1.0.0", now, now, []⟩
  | .broken error => .error (.loading error)
  | .holds raw => parseRegistry environment now raw

/-- `loadConfig` and `loadConfigAsync` -/
def loadConfig (now : Nat) (useCache : Bool) (manager : Manager) :
    Except Failure Registry × Manager :=
  match if useCache then manager.cachedConfig else none with
  | some config => (.ok config, manager)
  | none =>
    match readFile environment now manager.file with
    | .error failure => (.error failure, manager)
    | .ok config =>
      (.ok config, if useCache then { manager with cachedConfig := some config } else manager)

def rawOf (config : Registry) : RawRegistry where
  version := some config.version
  created_at := some config.created_at
  updated_at := some config.updated_at
  clients := some config.clients

def saveConfig (now : Nat) (disk : Disk) (config : Registry) (manager : Manager) :
    Except Failure Unit × Manager :=
  match parseRegistry environment now (rawOf { config with updated_at := now }) with
  | .error failure => (.error failure, manager)
  | .ok validatedConfig =>
    match disk with
    | .written => (.ok (), ⟨some validatedConfig, .holds (rawOf validatedConfig)⟩)
    | .refused error => (.error (.saving error), manager)
    | .damaged error left => (.error (.saving error), { manager with file := left })

def clearConfigCache (manager : Manager) : Manager := { manager with cachedConfig := none }

/-- `config`, which is the cached configuration, gets its clients and is saved. -/
def commit (now : Nat) (disk : Disk) (clients : List Fields) (config : Registry)
    (manager : Manager) : Except Failure Unit × Manager :=
  let changed := { config with clients := clients }
  saveConfig environment now disk changed { manager with cachedConfig := some changed }

def findClientById (id : Option Json) (config : Registry) : Option Fields :=
  match id with
  | some (.str id) => config.clients.find? fun client => clientId client == id
  | _ => none

/-- `none` is the `TypeError` of a method that is no text. -/
def clientAuthMethodUsesSecret : Option Json → Option Bool
  | none => some true
  | some (.str authMethod) => some ("client_secret_".toList.isPrefixOf authMethod.toList)
  | some _ => none

def isGiven (value : Option Json) : Bool := value.any Json.truthy

def setField (name : String) (value : Json) (fields : Fields) : Fields := fun other =>
  if other = name then some value else fields other

def withId (client : Fields) (generatedId : String) : Fields :=
  if isGiven (client "client_id") then client else setField "client_id" (.str generatedId) client

def timestamp (now : Nat) : Json := .num (.finite now)

/-- What `addClient` asks the schema for; `none` is a `TypeError`. -/
def candidateOf (now : Nat) (generatedId generatedSecret : String) (client : Fields) :
    Option Fields :=
  let candidate := withId client generatedId
  let stamped := fun candidate =>
    setField "updated_at" (timestamp now) (setField "created_at" (timestamp now) candidate)
  if isGiven (candidate "client_secret") then some (stamped candidate)
  else
    (clientAuthMethodUsesSecret (candidate "token_endpoint_auth_method")).map fun usesSecret =>
      stamped (if usesSecret then setField "client_secret" (.str generatedSecret) candidate
        else candidate)

def addClient (now : Nat) (disk : Disk) (generatedId generatedSecret : String) (client : Fields)
    (manager : Manager) : Except Failure Fields × Manager :=
  match loadConfig environment now true manager with
  | (.error failure, manager) => (.error failure, manager)
  | (.ok config, manager) =>
    let id := withId client generatedId "client_id"
    match findClientById id config with
    | some existing => (.error (.alreadyExists (clientId existing)), manager)
    | none =>
      match candidateOf now generatedId generatedSecret client with
      | none => (.error (.typeError "method.startsWith is not a function"), manager)
      | some candidate =>
        match parseClient environment candidate with
        | .error messages => (.error (.invalidClient messages), manager)
        | .ok validatedClient =>
          let (saved, manager) := commit environment now disk
            (config.clients ++ [validatedClient]) config manager
          (saved.map fun _ => validatedClient, manager)

def changesId (clientId : String) (updates : Updates) : Bool :=
  match (updates "client_id").join with
  | some (.str id) => id != "" && id != clientId
  | other => isGiven other

def updatedClient (now : Nat) (updates : Updates) (client : Fields) : Fields :=
  setField "updated_at" (timestamp now) fun name =>
    match updates name with
    | some value => value
    | none => client name

def indexOf (id : String) (config : Registry) : Option Nat :=
  config.clients.findIdx? fun client => clientId client == id

def updateClient (now : Nat) (disk : Disk) (id : String) (updates : Updates) (manager : Manager) :
    Except Failure Fields × Manager :=
  match loadConfig environment now true manager with
  | (.error failure, manager) => (.error failure, manager)
  | (.ok config, manager) =>
    match indexOf id config with
    | none => (.error (.notFound id), manager)
    | some clientIndex =>
      if changesId id updates then (.error .cannotChangeId, manager)
      else
        let client := config.clients.getD clientIndex fun _ => none
        match parseClient environment (updatedClient now updates client) with
        | .error messages => (.error (.invalidClient messages), manager)
        | .ok validatedClient =>
          let (saved, manager) := commit environment now disk
            (config.clients.set clientIndex validatedClient) config manager
          (saved.map fun _ => validatedClient, manager)

def removeClient (now : Nat) (disk : Disk) (id : String) (manager : Manager) :
    Except Failure Bool × Manager :=
  match loadConfig environment now true manager with
  | (.error failure, manager) => (.error failure, manager)
  | (.ok config, manager) =>
    match indexOf id config with
    | none => (.ok false, manager)
    | some clientIndex =>
      let (saved, manager) := commit environment now disk
        (config.clients.eraseIdx clientIndex) config manager
      (saved.map fun _ => true, manager)

end Methods

end ParakoId.ClientRegistry
