import ParakoId.SocialAccounts.Integrations

/-!
Whether a social account signs in one user at most, and a user has one account of a provider,
under any order of links, activations and deactivations.
-/

namespace ParakoId.SocialAccounts

open Interleavings (Machine Shared Event OnTurns)
open Runs (AlwaysFrom AllowedFrom)

variable {database : Database}

structure UniqueIdentities (table : IntegrationTable database) : Prop where
  byUser : Tables.UniqueOn SocialIntegration.is_active SocialIntegration.userKey table.rows
  byProvider : Tables.UniqueOn SocialIntegration.is_active SocialIntegration.providerKey table.rows

def AloneActive (table : IntegrationTable database) (row : SocialIntegration) : Prop :=
  ∀ other ∈ table.rows, other.id ≠ row.id → other.is_active = true →
    other.userKey ≠ row.userKey ∧ other.providerKey ≠ row.providerKey

def ActivatesAlone (linked : Linked database) : IntegrationCall → IntegrationInput → Prop
  | .create link, .resolve now =>
    linked.table.refuses (link.row database linked.table.created now) = false →
      AloneActive linked.table (link.row database linked.table.created now)
  | .update id true, .resolve _ =>
    ∀ row ∈ linked.table.rows, row.id = id → AloneActive linked.table row
  | _, _ => True

section Changes

variable {table : IntegrationTable database}

theorem unique_create_iff {next : IntegrationTable database} {link : Link} {now : Nat}
    (unique : UniqueIdentities table) (isCreated : table.create? link now = some next) :
    UniqueIdentities next ↔ AloneActive table (link.row database table.created now) := by
  have rows := (IntegrationTable.create?_some isCreated).2
  have older (row : SocialIntegration) (member : row ∈ table.rows) :
      row.id ≠ (link.row database table.created now).id := Nat.ne_of_lt (table.older row member)
  have added : link.row database table.created now ∈ [link.row database table.created now] :=
    List.mem_singleton_self _
  constructor
  · rintro ⟨byUser, byProvider⟩ other member _ isActive
    rw [rows, Tables.UniqueOn.append_iff] at byUser byProvider
    exact ⟨byUser.2.2 other member _ added isActive rfl,
      byProvider.2.2 other member _ added isActive rfl⟩
  · intro alone
    constructor
    · rw [rows, Tables.UniqueOn.append_iff]
      refine ⟨unique.byUser, List.pairwise_singleton _ _, ?_⟩
      intro row member new isNew isActive _
      rw [List.mem_singleton.mp isNew]
      exact (alone row member (older row member) isActive).1
    · rw [rows, Tables.UniqueOn.append_iff]
      refine ⟨unique.byProvider, List.pairwise_singleton _ _, ?_⟩
      intro row member new isNew isActive _
      rw [List.mem_singleton.mp isNew]
      exact (alone row member (older row member) isActive).2

theorem unique_activate_iff (unique : UniqueIdentities table) (id : Nat) :
    UniqueIdentities (table.update id true) ↔
      ∀ row ∈ table.rows, row.id = id → AloneActive table row := by
  have byUser : Tables.UniqueOn SocialIntegration.is_active SocialIntegration.userKey
      (table.update id true).rows ↔ _ :=
    unique.byUser.cover_iff table.distinct (fun _ => rfl) (fun _ => rfl) fun _ => rfl
  have byProvider : Tables.UniqueOn SocialIntegration.is_active SocialIntegration.providerKey
      (table.update id true).rows ↔ _ :=
    unique.byProvider.cover_iff table.distinct (fun _ => rfl) (fun _ => rfl) fun _ => rfl
  constructor
  · rintro ⟨userUnique, providerUnique⟩ row member rfl other isOther differ isActive
    exact ⟨byUser.mp userUnique row member rfl other isOther differ isActive,
      byProvider.mp providerUnique row member rfl other isOther differ isActive⟩
  · intro alone
    constructor
    · refine byUser.mpr ?_
      intro row member isRow other isOther differ isActive
      exact (alone row member isRow other isOther (isRow ▸ differ) isActive).1
    · refine byProvider.mpr ?_
      intro row member isRow other isOther differ isActive
      exact (alone row member isRow other isOther (isRow ▸ differ) isActive).2

theorem unique_deactivate (unique : UniqueIdentities table) (id : Nat) :
    UniqueIdentities (table.update id false) where
  byUser := unique.byUser.updateMany (fun _ => rfl) fun _ _ isActive => by cases isActive
  byProvider := unique.byProvider.updateMany (fun _ => rfl) fun _ _ isActive => by cases isActive

end Changes

def IntegrationCall.isReading : IntegrationCall → Bool
  | .findUser _ | .findByUserAndMethod _ | .findByProviderSub _ | .findById _ _ | .findMany _ => true
  | _ => false

theorem integrationTurn_reads (firstRow : Tables.FirstRow SocialIntegration)
    (linked : Linked database) {call : IntegrationCall} (isReading : call.isReading = true)
    (input : IntegrationInput) : (integrationTurn firstRow linked call input).1 = linked := by
  cases call with
  | findUser _ | findByUserAndMethod _ | findByProviderSub _ | findById _ _ =>
    cases input with
    | resolve now =>
      simp only [integrationTurn]
      split <;> rfl
    | _ => rfl
  | findMany filter => cases input <;> rfl
  | _ => cases isReading

theorem unique_turn_iff (firstRow : Tables.FirstRow SocialIntegration) (linked : Linked database)
    (call : IntegrationCall) (input : IntegrationInput)
    (unique : UniqueIdentities linked.table) :
    UniqueIdentities (integrationTurn firstRow linked call input).1.table ↔
      ActivatesAlone linked call input := by
  have kept (isAllowed : ActivatesAlone linked call input)
      (isKept : (integrationTurn firstRow linked call input).1 = linked) :
      UniqueIdentities (integrationTurn firstRow linked call input).1.table ↔
        ActivatesAlone linked call input := by
    rw [isKept]
    exact iff_of_true unique isAllowed
  cases call with
  | create link =>
    cases input with
    | resolve now =>
      simp only [integrationTurn, ActivatesAlone]
      split
      · rename_i next isCreated
        have notRefused := (IntegrationTable.create?_some isCreated).1
        rw [unique_create_iff unique isCreated, notRefused]
        simp
      · rename_i isRefused
        rw [IntegrationTable.create?_none isRefused]
        exact iff_of_true unique (by simp)
    | _ => exact kept trivial rfl
  | update id isActive =>
    cases input with
    | resolve now =>
      cases isActive with
      | true => exact unique_activate_iff unique id
      | false => exact iff_of_true (unique_deactivate unique id) trivial
    | _ => exact kept (by cases isActive <;> trivial) rfl
  | updateAll pending =>
    cases input with
    | resolveOne id =>
      simp only [integrationTurn]
      split
      · exact iff_of_true (unique_deactivate unique id) trivial
      · exact iff_of_true unique trivial
    | _ => exact kept trivial rfl
  | notStarted | ended | failed _ => exact kept trivial rfl
  | _ => exact kept trivial (integrationTurn_reads firstRow linked rfl input)

/-- In a run of any links, activations and deactivations, a user has one active account of a
provider and an account belongs to one user at all times, exactly where that is so at the start
and each row becomes active while no other has its user or its account. -/
theorem identities_unique_iff (firstRow : Tables.FirstRow SocialIntegration)
    (start : Shared (Linked database) IntegrationCall)
    (events : List (Event IntegrationInput (List String))) :
    AlwaysFrom (integrationMachine firstRow).step
        (fun state => UniqueIdentities state.store.table) start events ↔
      UniqueIdentities start.store.table ∧
        AllowedFrom (integrationMachine firstRow).step (OnTurns ActivatesAlone) start events := by
  refine Runs.always_iff_start _ ?_ start events
  intro state event unique
  cases event with
  | turn id input => exact unique_turn_iff firstRow state.store (state.calls id) input unique
  | outside users => exact iff_of_true unique trivial

/-- A link that the lookups of `createIntegration` would still find nothing of when it is written
becomes active alone. -/
theorem activatesAlone_of_lookups (firstRow : Tables.FirstRow SocialIntegration)
    {linked : Linked database} {link : Link}
    (userFree : findByUserAndMethod firstRow linked.table link.user_id link.method = none)
    (providerFree : findByProviderSub firstRow linked.table link.sub link.method = none)
    (now : Nat) : ActivatesAlone linked (.create link) (.resolve now) := by
  intro _ other member _ isActive
  have noUser := List.filter_eq_nil_iff.mp (firstRow.pick_none _ userFree) other member
  have noProvider := List.filter_eq_nil_iff.mp (firstRow.pick_none _ providerFree) other member
  constructor
  · intro same
    simp only [SocialIntegration.userKey, Link.row, Prod.mk.injEq] at same
    simp [same.1, same.2, isActive] at noUser
  · intro same
    simp only [SocialIntegration.providerKey, Link.row, Prod.mk.injEq] at same
    simp [same.1, same.2, isActive] at noProvider

/-- With the unique indexes of PostgreSQL or MongoDB every table has unique identities. -/
theorem unique_of_indexes (indexed : database.hasUniqueIndexes = true)
    (table : IntegrationTable database) : UniqueIdentities table where
  byUser := (table.userIndex indexed).weaken fun _ _ => rfl
  byProvider := (table.providerIndex indexed).weaken fun _ _ => rfl

theorem activatesAlone_of_indexes (indexed : database.hasUniqueIndexes = true)
    (firstRow : Tables.FirstRow SocialIntegration) (linked : Linked database)
    (call : IntegrationCall) (input : IntegrationInput) : ActivatesAlone linked call input :=
  (unique_turn_iff firstRow linked call input (unique_of_indexes indexed _)).mp
    (unique_of_indexes indexed _)

def googleLink (userId : String) : Link := ⟨userId, .google, "1234"⟩

def bothLink : List (Event IntegrationInput (List String)) :=
  [.outside ["ada", "bob"],
    .turn 0 (.createIntegration (googleLink "ada")), .turn 0 (.resolve 0), .turn 0 (.resolve 0),
    .turn 1 (.createIntegration (googleLink "bob")), .turn 1 (.resolve 0), .turn 1 (.resolve 0),
    .turn 0 (.resolve 0), .turn 1 (.resolve 0), .turn 0 (.resolve 0), .turn 1 (.resolve 0)]

/-- One after the other: a link is deactivated, the account is linked to another user, and the
first link is activated again. -/
def activatedAgain : List (Event IntegrationInput (List String)) :=
  [.outside ["ada", "bob"],
    .turn 0 (.createIntegration (googleLink "ada")), .turn 0 (.resolve 0), .turn 0 (.resolve 0),
    .turn 0 (.resolve 0), .turn 0 (.resolve 0),
    .turn 1 (.deactivate 0), .turn 1 (.resolve 0), .turn 1 (.resolve 0),
    .turn 2 (.createIntegration (googleLink "bob")), .turn 2 (.resolve 0), .turn 2 (.resolve 0),
    .turn 2 (.resolve 0), .turn 2 (.resolve 0),
    .turn 3 (.activate 0), .turn 3 (.resolve 0), .turn 3 (.resolve 0)]

def afterLinks (events : List (Event IntegrationInput (List String))) :
    Shared (Linked .sqlite) IntegrationCall :=
  Runs.run (integrationMachine Tables.firstInserted).step ⟨⟨.empty, []⟩, fun _ => .notStarted⟩ events

theorem account_linked_twice :
    ¬UniqueIdentities (afterLinks bothLink).store.table ∧
      ¬UniqueIdentities (afterLinks activatedAgain).store.table := by
  constructor
  · intro unique
    exact absurd unique.byProvider (by decide +kernel)
  · intro unique
    exact absurd unique.byProvider (by decide +kernel)

end ParakoId.SocialAccounts
