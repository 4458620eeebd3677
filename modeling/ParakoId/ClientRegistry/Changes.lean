import Mathlib.Data.List.InsertIdx
import ParakoId.ClientRegistry.Manager

/-!
When a change of the registry is made as a whole or not at all, as seen by those who read the
registry afterwards, from the cache or from the file.
-/

namespace ParakoId.ClientRegistry

open Schemas (Fields)

inductive Operation
  | addClient (client : Fields) (generatedId generatedSecret : String)
  | updateClient (id : String) (updates : Updates)
  | removeClient (id : String)

structure Call where
  operation : Operation
  now : Nat
  disk : Disk

inductive Event
  | call (call : Call)
  | loadConfig (now : Nat) (useCache : Bool)
  | clearConfigCache
  -- somebody else writes the file
  | write (file : File)

section Definitions

variable (environment : Environment)

def perform (call : Call) (manager : Manager) : Except Failure Unit × Manager :=
  match call.operation with
  | .addClient client generatedId generatedSecret =>
    let (result, after) :=
      addClient environment call.now call.disk generatedId generatedSecret client manager
    (result.map fun _ => (), after)
  | .updateClient id updates =>
    let (result, after) := updateClient environment call.now call.disk id updates manager
    (result.map fun _ => (), after)
  | .removeClient id =>
    let (result, after) := removeClient environment call.now call.disk id manager
    (result.map fun _ => (), after)

def step (manager : Manager) : Event → Manager
  | .call call => (perform environment call manager).2
  | .loadConfig now useCache => (loadConfig environment now useCache manager).2
  | .clearConfigCache => clearConfigCache manager
  | .write file => { manager with file := file }

def SameReads (first second : Manager) : Prop :=
  ∀ now useCache, (loadConfig environment now useCache first).1 =
    (loadConfig environment now useCache second).1

def ids (clients : List Fields) : List String := clients.map clientId

def HoldsAlike (manager : Manager) : Prop :=
  ∃ clients, (ids clients).Nodup ∧ ∀ now useCache, ∃ config,
    (loadConfig environment now useCache manager).1 = .ok config ∧ config.clients = clients

/-- Reads after a call that throws return what they returned before it. -/
def IsAtomic (call : Call) (manager : Manager) : Prop :=
  match perform environment call manager with
  | (.error _, after) =>
    SameReads environment after (loadConfig environment call.now true manager).2
  | (.ok _, after) => HoldsAlike environment after

def Accepts (config : Registry) (now : Nat) (generatedId generatedSecret : String)
    (client : Fields) : Prop :=
  findClientById (withId client generatedId "client_id") config = none ∧
    ∃ candidate, candidateOf now generatedId generatedSecret client = some candidate ∧
      ∃ validated, parseClient environment candidate = .ok validated

def AcceptsUpdate (config : Registry) (now : Nat) (id : String) (updates : Updates) : Prop :=
  ∃ index, indexOf id config = some index ∧ changesId id updates = false ∧
    ∃ validated, parseClient environment
      (updatedClient now updates (config.clients.getD index fun _ => none)) = .ok validated

def FailsCleanly (disk : Disk) (file : File) : Prop :=
  match disk with
  | .written => False
  | .refused _ => True
  | .damaged _ left => ∀ now, readFile environment now left = readFile environment now file

def Safe (call : Call) (manager : Manager) : Prop :=
  ∀ config, (loadConfig environment call.now true manager).1 = .ok config →
    match call.operation with
    | .addClient client generatedId generatedSecret =>
      Accepts environment config call.now generatedId generatedSecret client →
        call.disk = .written ∧ (ids config.clients).Nodup ∧
          ∀ given, withId client generatedId "client_id" = some (.str given) →
            Schemas.trim given ∉ ids config.clients
    | .updateClient id updates =>
      ∀ index, indexOf id config = some index → changesId id updates = false →
        ∀ validated, parseClient environment
            (updatedClient call.now updates (config.clients.getD index fun _ => none)) =
              .ok validated →
          (call.disk = .written ∧ (ids config.clients).Nodup) ∨
            (FailsCleanly environment call.disk manager.file ∧
              validated = config.clients.getD index fun _ => none)
    | .removeClient id =>
      match indexOf id config with
      | none => HoldsAlike environment (loadConfig environment call.now true manager).2
      | some index => call.disk = .written ∧ ((ids config.clients).eraseIdx index).Nodup

end Definitions

section Proofs

variable {environment : Environment}

structure Settled (environment : Environment) (config : Registry) : Prop where
  version : isVersion config.version = true
  clients : ∀ client ∈ config.clients, parseClient environment client = .ok client

variable {clients : List Fields} {config : Registry} {manager : Manager} {client : Fields}

theorem mapM_settled (settled : ∀ client ∈ clients, parseClient environment client = .ok client) :
    clients.mapM (parseClient environment) = .ok clients := by
  induction clients with
  | nil => rfl
  | cons first rest ih =>
    rw [List.mapM_cons, settled first List.mem_cons_self,
      ih fun client member => settled client (List.mem_cons_of_mem first member)]
    rfl

theorem mapM_parsed {given : List Fields}
    (parsed : given.mapM (parseClient environment) = .ok clients) :
    ∀ client ∈ clients, parseClient environment client = .ok client := by
  induction given generalizing clients with
  | nil =>
    cases parsed
    intro client member
    cases member
  | cons first rest ih =>
    rw [List.mapM_cons] at parsed
    cases isHead : parseClient environment first with
    | error messages =>
      rw [isHead] at parsed
      cases parsed
    | ok head =>
      cases isTail : rest.mapM (parseClient environment) with
      | error messages =>
        rw [isHead, isTail] at parsed
        cases parsed
      | ok tail =>
        rw [isHead, isTail] at parsed
        cases parsed
        intro client member
        rcases List.mem_cons.mp member with rfl | inTail
        · exact parseClient_settles isHead
        · exact ih isTail client inTail

theorem isVersion_default : isVersion "1.0.0" = true := by decide

theorem parseRegistry_settles {now : Nat} {raw : RawRegistry}
    (parsed : parseRegistry environment now raw = .ok config) : Settled environment config := by
  rw [parseRegistry] at parsed
  split at parsed
  next versionFits =>
    split at parsed
    next clients isClients =>
      injection parsed with isConfig
      subst isConfig
      refine ⟨?_, mapM_parsed isClients⟩
      cases given : raw.version with
      | none => exact isVersion_default
      | some version =>
        rw [given] at versionFits
        exact versionFits
    next => cases parsed
  next => cases parsed

theorem readFile_settles {now : Nat} {file : File}
    (read : readFile environment now file = .ok config) : Settled environment config := by
  cases file with
  | absent =>
    injection read with isConfig
    subst isConfig
    refine ⟨isVersion_default, ?_⟩
    rintro client ⟨⟩
  | broken error => cases read
  | holds raw => exact parseRegistry_settles read

theorem parseRegistry_rawOf (settled : Settled environment config) (now : Nat) :
    parseRegistry environment now (rawOf config) = .ok config := by
  rw [parseRegistry]
  simp only [rawOf, Option.all_some, settled.version, if_true, Option.getD_some,
    mapM_settled settled.clients]

def CacheSettled (environment : Environment) (manager : Manager) : Prop :=
  ∀ config, manager.cachedConfig = some config → Settled environment config

theorem loadConfig_cases (settled : CacheSettled environment manager) (now : Nat) :
    (∃ failure, loadConfig environment now true manager = (.error failure, manager)) ∨
      ∃ config, Settled environment config ∧ loadConfig environment now true manager =
        (.ok config, { manager with cachedConfig := some config }) := by
  obtain ⟨cachedConfig, file⟩ := manager
  cases cachedConfig with
  | some config => exact .inr ⟨config, settled config rfl, rfl⟩
  | none =>
    rw [loadConfig]
    simp only [if_true]
    cases read : readFile environment now file with
    | error failure => exact .inl ⟨failure, rfl⟩
    | ok config => exact .inr ⟨config, readFile_settles read, rfl⟩

theorem loadConfig_cached (now : Nat) (config : Registry) (file : File) :
    loadConfig environment now true ⟨some config, file⟩ = (.ok config, ⟨some config, file⟩) := rfl

theorem loadConfig_file (now : Nat) (manager : Manager) :
    (loadConfig environment now false manager).1 = readFile environment now manager.file := by
  rw [loadConfig]
  simp only [Bool.false_eq_true, if_false]
  cases readFile environment now manager.file <;> rfl

theorem sameReads_iff (first second : Registry) (file left : File) :
    SameReads environment ⟨some first, left⟩ ⟨some second, file⟩ ↔
      first = second ∧ ∀ now, readFile environment now left = readFile environment now file := by
  constructor
  · intro same
    refine ⟨?_, fun now => ?_⟩
    · have cached := same 0 true
      rw [loadConfig_cached, loadConfig_cached] at cached
      injection cached
    · have stored := same now false
      rwa [loadConfig_file, loadConfig_file] at stored
  · rintro ⟨rfl, sameFile⟩ now useCache
    cases useCache with
    | true => rfl
    | false => rw [loadConfig_file, loadConfig_file, sameFile]

theorem holdsAlike_iff (settled : Settled environment config) :
    HoldsAlike environment ⟨some config, .holds (rawOf config)⟩ ↔ (ids config.clients).Nodup := by
  constructor
  · rintro ⟨clients, distinct, reads⟩
    obtain ⟨read, isRead, rfl⟩ := reads 0 true
    rw [loadConfig_cached] at isRead
    injection isRead with isRead
    rwa [isRead]
  · intro distinct
    refine ⟨config.clients, distinct, fun now useCache => ⟨config, ?_, rfl⟩⟩
    cases useCache with
    | true => rfl
    | false => rw [loadConfig_file, readFile, parseRegistry_rawOf settled]

def saved (now : Nat) (clients : List Fields) (config : Registry) : Registry :=
  { config with updated_at := now, clients := clients }

theorem commit_eq (settled : Settled environment config)
    (clientsSettled : ∀ client ∈ clients, parseClient environment client = .ok client)
    (now : Nat) (disk : Disk) (manager : Manager) :
    commit environment now disk clients config manager =
      match disk with
      | .written =>
        (.ok (), ⟨some (saved now clients config), .holds (rawOf (saved now clients config))⟩)
      | .refused error =>
        (.error (.saving error), ⟨some { config with clients := clients }, manager.file⟩)
      | .damaged error left =>
        (.error (.saving error), ⟨some { config with clients := clients }, left⟩) := by
  have savedSettled : Settled environment (saved now clients config) :=
    ⟨settled.version, clientsSettled⟩
  have validated := parseRegistry_rawOf savedSettled now
  simp only [saved] at validated
  rw [commit, saveConfig, validated]
  cases disk <;> rfl

def Kept (environment : Environment) (config : Registry) (file : File)
    (result : Except Failure Unit × Manager) : Prop :=
  match result with
  | (.error _, after) => SameReads environment after ⟨some config, file⟩
  | (.ok _, after) => HoldsAlike environment after

theorem commit_kept_iff (settled : Settled environment config)
    (clientsSettled : ∀ client ∈ clients, parseClient environment client = .ok client)
    (now : Nat) (disk : Disk) (cachedConfig : Option Registry) (file : File) :
    Kept environment config file (commit environment now disk clients config ⟨cachedConfig, file⟩) ↔
      (disk = .written ∧ (ids clients).Nodup) ∨
        (FailsCleanly environment disk file ∧ clients = config.clients) := by
  have sameConfig : { config with clients := clients } = config ↔ clients = config.clients := by
    constructor
    · intro same
      rw [← same]
    · rintro rfl
      rfl
  rw [commit_eq settled clientsSettled]
  cases disk with
  | written =>
    have savedSettled : Settled environment (saved now clients config) :=
      ⟨settled.version, clientsSettled⟩
    simp only [Kept, holdsAlike_iff savedSettled, FailsCleanly, true_and, false_and, or_false]
    rfl
  | refused error =>
    simp only [Kept, sameReads_iff, sameConfig, FailsCleanly, reduceCtorEq, false_and, false_or,
      true_and, and_true, implies_true]
  | damaged error left =>
    simp only [Kept, sameReads_iff, sameConfig, FailsCleanly, reduceCtorEq, false_and, false_or]
    exact and_comm

section Loaded

variable {manager : Manager} {config : Registry} {now : Nat}
  (loaded : loadConfig environment now true manager =
    (.ok config, { manager with cachedConfig := some config }))
include loaded

theorem addClient_rejected (disk : Disk) {generatedId generatedSecret : String} {client : Fields}
    (rejected : ¬Accepts environment config now generatedId generatedSecret client) :
    ∃ failure, perform environment ⟨.addClient client generatedId generatedSecret, now, disk⟩
      manager = (.error failure, { manager with cachedConfig := some config }) := by
  simp only [perform, addClient, loaded]
  cases found : findClientById (withId client generatedId "client_id") config with
  | some existing => exact ⟨_, rfl⟩
  | none =>
    cases isCandidate : candidateOf now generatedId generatedSecret client with
    | none => exact ⟨_, rfl⟩
    | some candidate =>
      cases parsed : parseClient environment candidate with
      | error messages =>
        refine ⟨.invalidClient messages, ?_⟩
        simp only [parsed]
        rfl
      | ok validated => exact absurd ⟨found, candidate, isCandidate, validated, parsed⟩ rejected

theorem addClient_accepted (disk : Disk) {generatedId generatedSecret : String}
    {client candidate validated : Fields}
    (unknown : findClientById (withId client generatedId "client_id") config = none)
    (isCandidate : candidateOf now generatedId generatedSecret client = some candidate)
    (parsed : parseClient environment candidate = .ok validated) :
    perform environment ⟨.addClient client generatedId generatedSecret, now, disk⟩ manager =
      commit environment now disk (config.clients ++ [validated]) config
        { manager with cachedConfig := some config } := by
  simp only [perform, addClient, loaded, unknown, isCandidate, parsed]
  cases commit environment now disk (config.clients ++ [validated]) config
    { manager with cachedConfig := some config } with
  | mk saved after => cases saved <;> rfl

theorem updateClient_rejected (disk : Disk) {id : String} {updates : Updates}
    (rejected : ¬AcceptsUpdate environment config now id updates) :
    ∃ failure, perform environment ⟨.updateClient id updates, now, disk⟩ manager =
      (.error failure, { manager with cachedConfig := some config }) := by
  simp only [perform, updateClient, loaded]
  cases found : indexOf id config with
  | none => exact ⟨_, rfl⟩
  | some index =>
    cases changes : changesId id updates with
    | true => exact ⟨_, rfl⟩
    | false =>
      simp only [Bool.false_eq_true, if_false]
      cases parsed : parseClient environment
          (updatedClient now updates (config.clients.getD index fun _ => none)) with
      | error messages => exact ⟨_, rfl⟩
      | ok validated => exact absurd ⟨index, found, changes, validated, parsed⟩ rejected

theorem updateClient_accepted (disk : Disk) {id : String} {updates : Updates} {index : Nat}
    {validated : Fields} (found : indexOf id config = some index)
    (sameId : changesId id updates = false)
    (parsed : parseClient environment
      (updatedClient now updates (config.clients.getD index fun _ => none)) = .ok validated) :
    perform environment ⟨.updateClient id updates, now, disk⟩ manager =
      commit environment now disk (config.clients.set index validated) config
        { manager with cachedConfig := some config } := by
  simp only [perform, updateClient, loaded, found, sameId, Bool.false_eq_true, if_false, parsed]
  cases commit environment now disk (config.clients.set index validated) config
    { manager with cachedConfig := some config } with
  | mk saved after => cases saved <;> rfl

theorem removeClient_missing (disk : Disk) {id : String} (missing : indexOf id config = none) :
    perform environment ⟨.removeClient id, now, disk⟩ manager =
      (.ok (), { manager with cachedConfig := some config }) := by
  simp only [perform, removeClient, loaded, missing]
  rfl

theorem removeClient_found (disk : Disk) {id : String} {index : Nat}
    (found : indexOf id config = some index) :
    perform environment ⟨.removeClient id, now, disk⟩ manager =
      commit environment now disk (config.clients.eraseIdx index) config
        { manager with cachedConfig := some config } := by
  simp only [perform, removeClient, loaded, found]
  cases commit environment now disk (config.clients.eraseIdx index) config
    { manager with cachedConfig := some config } with
  | mk saved after => cases saved <;> rfl

end Loaded

theorem perform_throws {call : Call} {failure : Failure}
    (throws : loadConfig environment call.now true manager = (.error failure, manager)) :
    perform environment call manager = (.error failure, manager) := by
  obtain ⟨operation, now, disk⟩ := call
  cases operation with
  | addClient client generatedId generatedSecret =>
    simp only [perform, addClient, throws]
    rfl
  | updateClient id updates =>
    simp only [perform, updateClient, throws]
    rfl
  | removeClient id =>
    simp only [perform, removeClient, throws]
    rfl

theorem setField_id {name : String} (other : "client_id" ≠ name) (value : Json) (fields : Fields) :
    setField name value fields "client_id" = fields "client_id" := if_neg other

theorem candidate_id {now : Nat} {generatedId generatedSecret : String} {candidate : Fields}
    (isCandidate : candidateOf now generatedId generatedSecret client = some candidate) :
    candidate "client_id" = withId client generatedId "client_id" := by
  have stamped : ∀ fields : Fields, setField "updated_at" (timestamp now)
      (setField "created_at" (timestamp now) fields) "client_id" = fields "client_id" := by
    intro fields
    rw [setField_id (by decide : "client_id" ≠ "updated_at"),
      setField_id (by decide : "client_id" ≠ "created_at")]
  rw [candidateOf] at isCandidate
  simp only at isCandidate
  split at isCandidate
  · injection isCandidate with isCandidate
    rw [← isCandidate, stamped]
  · obtain ⟨usesSecret, _, rfl⟩ := Option.map_eq_some_iff.mp isCandidate
    rw [stamped]
    cases usesSecret with
    | true =>
      rw [if_pos rfl]
      exact setField_id (by decide) _ _
    | false => rfl

theorem nodup_append_id :
    (ids (clients ++ [client])).Nodup ↔
      (ids clients).Nodup ∧ clientId client ∉ ids clients := by
  rw [ids, List.map_append, List.nodup_append]
  constructor
  · rintro ⟨distinct, _, apart⟩
    exact ⟨distinct, fun member => apart _ member _ (by simp) rfl⟩
  · rintro ⟨distinct, fresh⟩
    refine ⟨distinct, by simp, ?_⟩
    rintro id member other isOther rfl
    rw [List.map_singleton, List.mem_singleton] at isOther
    exact fresh (isOther ▸ member)

theorem trim_of_settled {given : String} (settled : parseClient environment client = .ok client)
    (isGiven : client "client_id" = some (.str given)) : Schemas.trim given = given := by
  obtain ⟨text, isText, isTrimmed, _⟩ := parseClient_id settled
  rw [isGiven, Option.some.injEq, Json.str.injEq] at isText
  rw [← isText, clientId, isGiven] at isTrimmed
  exact isTrimmed.symm

theorem updated_id {validated : Fields} {now : Nat} {id : String} {updates : Updates}
    (settled : parseClient environment client = .ok client) (isId : clientId client = id)
    (sameId : changesId id updates = false)
    (parsed : parseClient environment (updatedClient now updates client) = .ok validated) :
    clientId validated = id := by
  obtain ⟨text, stored, _, _⟩ := parseClient_id settled
  have isText : text = id := by rw [← isId, clientId, stored]
  have idTrimmed : Schemas.trim id = id := trim_of_settled settled (isText ▸ stored)
  obtain ⟨given, isGiven, isTrimmed, nonempty⟩ := parseClient_id parsed
  rw [updatedClient, setField_id (by decide : "client_id" ≠ "updated_at")] at isGiven
  have givenId : Schemas.trim given = id := by
    rw [changesId] at sameId
    cases update : updates "client_id" with
    | none =>
      rw [update] at isGiven
      simp only [stored, Option.some.injEq, Json.str.injEq] at isGiven
      rw [← isGiven, isText, idTrimmed]
    | some value =>
      rw [update] at isGiven sameId
      simp only at isGiven
      rw [isGiven] at sameId
      simp only [Option.join_some, Bool.and_eq_false_iff, bne_eq_false_iff_eq] at sameId
      rcases sameId with empty | same
      · rw [empty] at nonempty
        exact absurd (by decide) nonempty
      · rw [same, idTrimmed]
  rw [isTrimmed, givenId]

theorem indexOf_some {id : String} {index : Nat} (found : indexOf id config = some index) :
    ∃ inBounds : index < config.clients.length, clientId config.clients[index] = id := by
  obtain ⟨inBounds, matched, _⟩ := List.findIdx?_eq_some_iff_getElem.mp found
  exact ⟨inBounds, by simpa using matched⟩

theorem ids_set {index : Nat} (inBounds : index < clients.length)
    (sameId : clientId client = clientId clients[index]) :
    ids (clients.set index client) = ids clients := by
  rw [ids, ids, List.map_set, sameId]
  apply List.ext_getElem
  · simp
  · intro position _ bound
    rw [List.getElem_set]
    split
    next same =>
      subst same
      simp
    next => rfl

theorem set_eq_iff {index : Nat} (inBounds : index < clients.length) (client : Fields) :
    clients.set index client = clients ↔ client = clients[index] := by
  constructor
  · intro same
    have inChanged : index < (clients.set index client).length := by simpa using inBounds
    have item := List.getElem_set_self inChanged
    rw [← item]
    simp only [same]
  · rintro rfl
    exact List.set_getElem_self inBounds

theorem settled_append (configSettled : Settled environment config) {given validated : Fields}
    (parsed : parseClient environment given = .ok validated) :
    ∀ client ∈ config.clients ++ [validated], parseClient environment client = .ok client := by
  intro client member
  rcases List.mem_append.mp member with before | isNew
  · exact configSettled.clients client before
  · rw [List.mem_singleton.mp isNew]
    exact parseClient_settles parsed

theorem settled_set (configSettled : Settled environment config) {given validated : Fields}
    (parsed : parseClient environment given = .ok validated) (index : Nat) :
    ∀ client ∈ config.clients.set index validated, parseClient environment client = .ok client := by
  intro client member
  rcases List.mem_or_eq_of_mem_set member with before | rfl
  · exact configSettled.clients client before
  · exact parseClient_settles parsed

theorem isAtomic_iff_kept {call : Call}
    (loaded : loadConfig environment call.now true manager =
      (.ok config, { manager with cachedConfig := some config })) :
    IsAtomic environment call manager ↔
      Kept environment config manager.file (perform environment call manager) := by
  rw [IsAtomic, loaded]
  rfl

section Atomic

variable {manager : Manager} {config : Registry} {now : Nat}
  (configSettled : Settled environment config)
  (loaded : loadConfig environment now true manager =
    (.ok config, { manager with cachedConfig := some config }))
include configSettled loaded

theorem addClient_atomic_iff (disk : Disk) (generatedId generatedSecret : String)
    (client : Fields) :
    IsAtomic environment ⟨.addClient client generatedId generatedSecret, now, disk⟩ manager ↔
      (Accepts environment config now generatedId generatedSecret client →
        disk = .written ∧ (ids config.clients).Nodup ∧
          ∀ given, withId client generatedId "client_id" = some (.str given) →
            Schemas.trim given ∉ ids config.clients) := by
  rw [isAtomic_iff_kept loaded]
  by_cases accepted : Accepts environment config now generatedId generatedSecret client
  · obtain ⟨unknown, candidate, isCandidate, validated, parsed⟩ := accepted
    have settled := settled_append configSettled parsed
    obtain ⟨given, isGiven, isId, _⟩ := parseClient_id parsed
    rw [candidate_id isCandidate] at isGiven
    have longer : config.clients ++ [validated] ≠ config.clients := by simp
    have fresh : (∀ other, withId client generatedId "client_id" = some (.str other) →
        Schemas.trim other ∉ ids config.clients) ↔ clientId validated ∉ ids config.clients := by
      rw [isId]
      constructor
      · intro all
        exact all given isGiven
      · intro notTaken other isOther
        rw [isGiven, Option.some.injEq, Json.str.injEq] at isOther
        rwa [← isOther]
    rw [addClient_accepted loaded disk unknown isCandidate parsed,
      commit_kept_iff configSettled settled, nodup_append_id, fresh]
    have isAccepted : Accepts environment config now generatedId generatedSecret client :=
      ⟨unknown, candidate, isCandidate, validated, parsed⟩
    simp only [longer, and_false, or_false, isAccepted, true_implies]
  · obtain ⟨failure, throws⟩ := addClient_rejected loaded disk accepted
    rw [throws]
    simp only [accepted, false_implies, iff_true]
    exact fun _ _ => rfl

theorem updateClient_atomic_iff (disk : Disk) (id : String) (updates : Updates) :
    IsAtomic environment ⟨.updateClient id updates, now, disk⟩ manager ↔
      ∀ index, indexOf id config = some index → changesId id updates = false →
        ∀ validated, parseClient environment
            (updatedClient now updates (config.clients.getD index fun _ => none)) =
              .ok validated →
          (disk = .written ∧ (ids config.clients).Nodup) ∨
            (FailsCleanly environment disk manager.file ∧
              validated = config.clients.getD index fun _ => none) := by
  rw [isAtomic_iff_kept loaded]
  by_cases accepted : AcceptsUpdate environment config now id updates
  · obtain ⟨index, found, sameId, validated, parsed⟩ := accepted
    obtain ⟨inBounds, isId⟩ := indexOf_some found
    have isClient : config.clients.getD index (fun _ => none) = config.clients[index] :=
      by simp [inBounds]
    have clientSettled := configSettled.clients _ (List.getElem_mem inBounds)
    have validatedId : clientId validated = clientId config.clients[index] := by
      rw [isClient] at parsed
      rw [isId]
      exact updated_id clientSettled isId sameId parsed
    have settled := settled_set configSettled parsed index
    rw [updateClient_accepted loaded disk found sameId parsed,
      commit_kept_iff configSettled settled, ids_set inBounds validatedId, set_eq_iff inBounds]
    constructor
    · intro kept other isOther _ otherValidated otherParsed
      obtain rfl := Option.some.inj (found.symm.trans isOther)
      obtain rfl := Except.ok.inj (parsed.symm.trans otherParsed)
      rwa [isClient]
    · intro all
      have kept := all index found sameId validated parsed
      rwa [isClient] at kept
  · obtain ⟨failure, throws⟩ := updateClient_rejected loaded disk accepted
    rw [throws]
    constructor
    · intro _ index found sameId validated parsed
      exact absurd ⟨index, found, sameId, validated, parsed⟩ accepted
    · intro _ _ _
      rfl

theorem removeClient_atomic_iff (disk : Disk) (id : String) :
    IsAtomic environment ⟨.removeClient id, now, disk⟩ manager ↔
      match indexOf id config with
      | none => HoldsAlike environment { manager with cachedConfig := some config }
      | some index => disk = .written ∧ ((ids config.clients).eraseIdx index).Nodup := by
  rw [isAtomic_iff_kept loaded]
  cases found : indexOf id config with
  | none =>
    rw [removeClient_missing loaded disk found]
    rfl
  | some index =>
    obtain ⟨inBounds, _⟩ := indexOf_some found
    have settled : ∀ other ∈ config.clients.eraseIdx index,
        parseClient environment other = .ok other := fun other member =>
      configSettled.clients other (List.mem_of_mem_eraseIdx member)
    have shorter : config.clients.eraseIdx index ≠ config.clients := by
      intro same
      have length := congrArg List.length same
      rw [List.length_eraseIdx_of_lt inBounds] at length
      omega
    have sameIds : ids (config.clients.eraseIdx index) = (ids config.clients).eraseIdx index :=
      (List.eraseIdx_map _ _ _).symm
    rw [removeClient_found loaded disk found, commit_kept_iff configSettled settled]
    simp only [shorter, and_false, or_false, sameIds]

end Atomic

theorem isAtomic_iff (settled : CacheSettled environment manager) (call : Call) :
    IsAtomic environment call manager ↔ Safe environment call manager := by
  rcases loadConfig_cases settled call.now with ⟨failure, throws⟩ | ⟨config, configSettled, loaded⟩
  · constructor
    · intro _ config isLoaded
      rw [throws] at isLoaded
      cases isLoaded
    · intro _
      rw [IsAtomic, perform_throws throws, throws]
      exact fun _ _ => rfl
  · have safe : ∀ condition : Registry → Prop,
        (∀ other, (loadConfig environment call.now true manager).1 = .ok other →
          condition other) ↔ condition config := by
      intro condition
      rw [loaded]
      constructor
      · intro all
        exact all config rfl
      · rintro holds other ⟨⟩
        exact holds
    obtain ⟨operation, now, disk⟩ := call
    rw [Safe, safe]
    cases operation with
    | addClient client generatedId generatedSecret =>
      exact addClient_atomic_iff configSettled loaded disk generatedId generatedSecret client
    | updateClient id updates => exact updateClient_atomic_iff configSettled loaded disk id updates
    | removeClient id =>
      rw [removeClient_atomic_iff configSettled loaded]
      simp only [loaded]

theorem step_settled (settled : CacheSettled environment manager) (event : Event) :
    CacheSettled environment (step environment manager event) := by
  have loadedSettled : ∀ now,
      CacheSettled environment (loadConfig environment now true manager).2 := by
    intro now
    rcases loadConfig_cases settled now with ⟨_, throws⟩ | ⟨config, configSettled, loaded⟩
    · rwa [throws]
    · rw [loaded]
      rintro other ⟨⟩
      exact configSettled
  have committed : ∀ {config : Registry} {clients : List Fields} (now : Nat) (disk : Disk)
      (other : Manager), Settled environment config →
        (∀ client ∈ clients, parseClient environment client = .ok client) →
          CacheSettled environment (commit environment now disk clients config other).2 := by
    intro config clients now disk other configSettled clientsSettled
    rw [commit_eq configSettled clientsSettled]
    cases disk
    all_goals
      rintro cached ⟨⟩
      exact ⟨configSettled.version, clientsSettled⟩
  cases event with
  | clearConfigCache =>
    rintro config ⟨⟩
  | write file => exact settled
  | loadConfig now useCache =>
    cases useCache with
    | true => exact loadedSettled now
    | false =>
      have same : (loadConfig environment now false manager).2 = manager := by
        rw [loadConfig]
        simp only [Bool.false_eq_true, if_false]
        cases readFile environment now manager.file <;> rfl
      rw [step, same]
      exact settled
  | call call =>
    rw [step]
    rcases loadConfig_cases settled call.now with ⟨_, throws⟩ | ⟨config, configSettled, loaded⟩
    · rwa [perform_throws throws]
    have afterThrow : ∀ failure : Failure, perform environment call manager =
        (.error failure, { manager with cachedConfig := some config }) →
          CacheSettled environment (perform environment call manager).2 := by
      intro failure throws
      rw [throws]
      rintro other ⟨⟩
      exact configSettled
    obtain ⟨operation, now, disk⟩ := call
    cases operation with
    | addClient client generatedId generatedSecret =>
      by_cases accepted : Accepts environment config now generatedId generatedSecret client
      · obtain ⟨unknown, candidate, isCandidate, validated, parsed⟩ := accepted
        rw [addClient_accepted loaded disk unknown isCandidate parsed]
        exact committed now disk _ configSettled (settled_append configSettled parsed)
      · obtain ⟨failure, throws⟩ := addClient_rejected loaded disk accepted
        exact afterThrow failure throws
    | updateClient id updates =>
      by_cases accepted : AcceptsUpdate environment config now id updates
      · obtain ⟨index, found, sameId, validated, parsed⟩ := accepted
        rw [updateClient_accepted loaded disk found sameId parsed]
        exact committed now disk _ configSettled (settled_set configSettled parsed index)
      · obtain ⟨failure, throws⟩ := updateClient_rejected loaded disk accepted
        exact afterThrow failure throws
    | removeClient id =>
      cases found : indexOf id config with
      | none =>
        rw [removeClient_missing loaded disk found]
        rintro other ⟨⟩
        exact configSettled
      | some index =>
        rw [removeClient_found loaded disk found]
        refine committed now disk _ configSettled ?_
        exact fun other member =>
          configSettled.clients other (List.mem_of_mem_eraseIdx member)

end Proofs

def start (file : File) : Manager where
  cachedConfig := none
  file := file

/-- In every state that a manager comes to, a call is atomic exactly where it is safe. -/
theorem registry_atomic_iff (environment : Environment) (file : File) (events : List Event)
    (call : Call) :
    IsAtomic environment call (Runs.run (step environment) (start file) events) ↔
      Safe environment call (Runs.run (step environment) (start file) events) := by
  have keeps : ∀ (manager : Manager) event, CacheSettled environment manager →
      CacheSettled environment (step environment manager event) :=
    fun _ event settled => step_settled settled event
  have initial : CacheSettled environment (start file) := by
    rintro config ⟨⟩
  exact isAtomic_iff (Runs.invariant (step environment) keeps initial events) call

def plainEnvironment : Environment where
  zod := { url := some, url_again := fun _ => rfl, email := fun _ => true }
  tables :=
    { domainToASCII := fun _ => none, ipv6 := fun _ => none, otherHostname := fun _ _ => none }

def publicClient (id : String) : Fields
  | "client_id" => some (.str id)
  | "application_type" => some (.str "web")
  | "token_endpoint_auth_method" => some (.str "none")
  | _ => none

def adding (id : String) (now : Nat) (disk : Disk) : Call where
  operation := .addClient (publicClient id) "" ""
  now := now
  disk := disk

theorem changes_not_atomic :
    ¬IsAtomic plainEnvironment (adding "app" 0 (.refused "ENOSPC")) (start .absent) ∧
      ¬IsAtomic plainEnvironment (adding " app" 1 .written)
        (Runs.run (step plainEnvironment) (start .absent) [.call (adding "app" 0 .written)]) := by
  have initial : CacheSettled plainEnvironment (start .absent) := by
    rintro config ⟨⟩
  constructor
  · rw [isAtomic_iff initial]
    intro safe
    obtain ⟨isWritten, _⟩ := safe _ rfl ⟨rfl, _, rfl, _, rfl⟩
    cases isWritten
  · have settled := step_settled initial (.call (adding "app" 0 .written))
    rw [Runs.run_cons, Runs.run_nil, isAtomic_iff settled]
    intro safe
    obtain ⟨_, _, fresh⟩ := safe _ rfl ⟨rfl, _, rfl, _, rfl⟩
    exact absurd (fresh " app" rfl) (by decide)

end ParakoId.ClientRegistry
