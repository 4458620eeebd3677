import ParakoId.Library.Interleavings
import ParakoId.Library.Schemas
import ParakoId.Library.Tables

/-! Social accounts that users of a tenant have linked. -/

namespace ParakoId.SocialAccounts

open Interleavings (Machine Shared Event)

inductive IntegrationMethod
  | «local»
  | oauth
  | ldap
  | google
  | github
  | facebook
  | linkedin
  | twitter
  | microsoft
  | apple
  deriving DecidableEq

def IntegrationMethod.name : IntegrationMethod → String
  | .local => "local"
  | .oauth => "oauth"
  | .ldap => "ldap"
  | .google => "google"
  | .github => "github"
  | .facebook => "facebook"
  | .linkedin => "linkedin"
  | .twitter => "twitter"
  | .microsoft => "microsoft"
  | .apple => "apple"

structure SocialIntegration where
  id : Nat
  user_id : String
  method : IntegrationMethod
  provider_sub : String
  is_active : Bool
  created_at : Nat
  deriving DecidableEq

namespace SocialIntegration

def userKey (row : SocialIntegration) : String × IntegrationMethod := (row.user_id, row.method)

def providerKey (row : SocialIntegration) : String × IntegrationMethod :=
  (row.provider_sub, row.method)

end SocialIntegration

inductive Database
  | sqlite
  | postgresql
  | mongodb
  deriving DecidableEq

def Database.hasUniqueIndexes : Database → Bool
  | .sqlite => false
  | .postgresql | .mongodb => true

/-- The MongoDB schema trims a subject, where it is stored and where it is looked for. -/
def Database.castSub : Database → String → String
  | .mongodb, sub => Schemas.trim sub
  | _, sub => sub

structure Link where
  user_id : String
  method : IntegrationMethod
  sub : String

def Link.row (database : Database) (link : Link) (id now : Nat) : SocialIntegration where
  id := id
  user_id := link.user_id
  method := link.method
  provider_sub := database.castSub link.sub
  is_active := true
  created_at := now

structure IntegrationTable (database : Database) where
  rows : List SocialIntegration
  created : Nat
  older : ∀ row ∈ rows, row.id < created
  distinct : rows.Pairwise fun first second => first.id ≠ second.id
  userIndex : database.hasUniqueIndexes = true →
    Tables.UniqueOn (fun _ => true) SocialIntegration.userKey rows
  providerIndex : database.hasUniqueIndexes = true →
    Tables.UniqueOn (fun _ => true) SocialIntegration.providerKey rows

def setActive (isActive : Bool) (row : SocialIntegration) : SocialIntegration :=
  { row with is_active := isActive }

def SocialIntegration.sharesKey (first second : SocialIntegration) : Bool :=
  first.userKey == second.userKey || first.providerKey == second.providerKey

namespace IntegrationTable

variable {database : Database}

def empty : IntegrationTable database where
  rows := []
  created := 0
  older := by simp
  distinct := .nil
  userIndex _ := .nil
  providerIndex _ := .nil

def refuses (table : IntegrationTable database) (row : SocialIntegration) : Bool :=
  database.hasUniqueIndexes && table.rows.any fun other => other.sharesKey row

theorem apart_of_not_refused {table : IntegrationTable database} {row : SocialIntegration}
    (indexed : database.hasUniqueIndexes = true) (notRefused : table.refuses row = false) :
    ∀ other ∈ table.rows,
      other.userKey ≠ row.userKey ∧ other.providerKey ≠ row.providerKey := by
  simpa [refuses, indexed, SocialIntegration.sharesKey] using notRefused

def create? (table : IntegrationTable database) (link : Link) (now : Nat) :
    Option (IntegrationTable database) :=
  if notRefused : table.refuses (link.row database table.created now) = false then
    some
      { rows := table.rows ++ [link.row database table.created now]
        created := table.created + 1
        older := by
          intro row member
          rcases List.mem_append.mp member with isOld | isNew
          · exact Nat.lt_succ_of_lt (table.older row isOld)
          · rw [List.mem_singleton.mp isNew]
            exact Nat.lt_succ_self _
        distinct := by
          refine List.pairwise_append.mpr ⟨table.distinct, List.pairwise_singleton _ _, ?_⟩
          intro row isOld new isNew
          rw [List.mem_singleton.mp isNew]
          exact Nat.ne_of_lt (table.older row isOld)
        userIndex := by
          intro indexed
          refine Tables.UniqueOn.append_iff.mpr
            ⟨table.userIndex indexed, List.pairwise_singleton _ _, ?_⟩
          intro row isOld new isNew _ _
          rw [List.mem_singleton.mp isNew]
          exact (apart_of_not_refused indexed notRefused row isOld).1
        providerIndex := by
          intro indexed
          refine Tables.UniqueOn.append_iff.mpr
            ⟨table.providerIndex indexed, List.pairwise_singleton _ _, ?_⟩
          intro row isOld new isNew _ _
          rw [List.mem_singleton.mp isNew]
          exact (apart_of_not_refused indexed notRefused row isOld).2 }
  else none

def update (table : IntegrationTable database) (id : Nat) (isActive : Bool) :
    IntegrationTable database where
  rows := Tables.updateMany (fun row => row.id = id) (setActive isActive) table.rows
  created := table.created
  older := by
    intro row member
    rcases Tables.mem_updateMany.mp member with ⟨old, isOld, _, rfl⟩ | ⟨isRow, _⟩
    · exact table.older old isOld
    · exact table.older row isRow
  distinct := by
    refine List.pairwise_map.mpr (table.distinct.imp ?_)
    intro first second differ
    split <;> split <;> exact differ
  userIndex indexed := (table.userIndex indexed).updateMany (fun _ => rfl) fun _ _ _ => rfl
  providerIndex indexed := (table.providerIndex indexed).updateMany (fun _ => rfl) fun _ _ _ => rfl

theorem create?_some {table next : IntegrationTable database} {link : Link} {now : Nat}
    (isCreated : table.create? link now = some next) :
    table.refuses (link.row database table.created now) = false ∧
      next.rows = table.rows ++ [link.row database table.created now] := by
  rw [create?] at isCreated
  split at isCreated
  · rename_i notRefused
    obtain rfl := Option.some.inj isCreated
    exact ⟨notRefused, rfl⟩
  · cases isCreated

theorem create?_none {table : IntegrationTable database} {link : Link} {now : Nat}
    (isRefused : table.create? link now = none) :
    table.refuses (link.row database table.created now) = true := by
  rw [create?] at isRefused
  split at isRefused
  · cases isRefused
  · rename_i refused
    simpa using refused

end IntegrationTable

inductive IntegrationFilter
  | ofUser (userId : String)
  | criteria (method : Option IntegrationMethod) (userId providerSub : Option String)
      (createdBefore : Option Nat)

/-- A text that is given and not empty. -/
def given (text : Option String) : Option String := text.filter fun value => value ≠ ""

def IntegrationFilter.selects (database : Database) :
    IntegrationFilter → SocialIntegration → Bool
  | .ofUser userId, row => row.user_id == userId && row.is_active
  | .criteria method userId providerSub createdBefore, row =>
    row.is_active && method.all (· == row.method) && (given userId).all (· == row.user_id) &&
      (given providerSub).all (fun sub => database.castSub sub == row.provider_sub) &&
      createdBefore.all fun bound => row.created_at < bound

inductive IntegrationCall
  | notStarted
  | findUser (link : Link)
  | findByUserAndMethod (link : Link)
  | findByProviderSub (link : Link)
  | create (link : Link)
  | findById (id : Nat) (isActive : Bool)
  | update (id : Nat) (isActive : Bool)
  | findMany (filter : IntegrationFilter)
  | updateAll (pending : List Nat)
  | ended
  | failed (message : Option String)

/-- Of the updates that a bulk operation has issued, any may be the next to be over. -/
inductive IntegrationInput
  | createIntegration (link : Link)
  | activate (id : Nat)
  | deactivate (id : Nat)
  | deactivateSocialIntegrations (userId : String)
  | bulkDeactivateIntegrations (method : Option IntegrationMethod)
      (userId providerSub : Option String) (createdBefore : Option Nat)
  | resolve (now : Nat)
  | resolveOne (id : Nat)
  | rejectOne (id : Nat)
  | reject

structure Linked (database : Database) where
  table : IntegrationTable database
  users : List String

section Service

variable {database : Database} (firstRow : Tables.FirstRow SocialIntegration)

def findByUserAndMethod (table : IntegrationTable database) (userId : String)
    (method : IntegrationMethod) : Option SocialIntegration :=
  firstRow.pick <| table.rows.filter fun row =>
    row.user_id == userId && row.method == method && row.is_active

def findByProviderSub (table : IntegrationTable database) (providerSub : String)
    (method : IntegrationMethod) : Option SocialIntegration :=
  firstRow.pick <| table.rows.filter fun row =>
    row.provider_sub == database.castSub providerSub && row.method == method && row.is_active

def started : IntegrationInput → IntegrationCall
  | .createIntegration link =>
    if Schemas.trim link.sub = "" then .failed (some "Provider subject is required")
    else .findUser link
  | .activate id => .findById id true
  | .deactivate id => .findById id false
  | .deactivateSocialIntegrations userId => .findMany (.ofUser userId)
  | .bulkDeactivateIntegrations method userId providerSub createdBefore =>
    .findMany (.criteria method userId providerSub createdBefore)
  | _ => .notStarted

def integrationTurn (linked : Linked database) :
    IntegrationCall → IntegrationInput → Linked database × IntegrationCall
  | .notStarted, input => (linked, started input)
  | .findUser link, .resolve _ =>
    if link.user_id ∈ linked.users then (linked, .findByUserAndMethod link)
    else (linked, .failed (some "User not found"))
  | .findByUserAndMethod link, .resolve _ =>
    match findByUserAndMethod firstRow linked.table link.user_id link.method with
    | some _ =>
      (linked, .failed (some ("User already has a " ++ link.method.name ++ " integration")))
    | none => (linked, .findByProviderSub link)
  | .findByProviderSub link, .resolve _ =>
    match findByProviderSub firstRow linked.table link.sub link.method with
    | some _ =>
      (linked, .failed (some ("This " ++ link.method.name ++
        " account is already linked to another user")))
    | none => (linked, .create link)
  | .create link, .resolve now =>
    match linked.table.create? link now with
    | some table => ({ linked with table }, .ended)
    | none => (linked, .failed none)
  | .findById id isActive, .resolve _ =>
    if linked.table.rows.any (fun row => row.id == id) then (linked, .update id isActive)
    else (linked, .failed (some "Integration not found"))
  | .update id isActive, .resolve _ =>
    ({ linked with table := linked.table.update id isActive }, .ended)
  | .findMany filter, .resolve _ =>
    (linked, .updateAll ((linked.table.rows.filter (filter.selects database)).map
      SocialIntegration.id))
  | .updateAll pending, .resolveOne id =>
    if id ∈ pending then
      ({ linked with table := linked.table.update id false }, .updateAll (pending.erase id))
    else (linked, .updateAll pending)
  | .updateAll pending, .rejectOne id => (linked, .updateAll (pending.erase id))
  | .updateAll pending, _ => (linked, .updateAll pending)
  | .ended, _ => (linked, .ended)
  | .failed message, _ => (linked, .failed message)
  | _, .reject => (linked, .failed none)
  | call, _ => (linked, call)

def integrationMachine :
    Machine (Linked database) IntegrationCall IntegrationInput (List String) where
  turn := integrationTurn firstRow
  outside linked users := { linked with users }

end Service

end ParakoId.SocialAccounts
