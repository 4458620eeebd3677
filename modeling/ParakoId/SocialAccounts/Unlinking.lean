import ParakoId.SocialAccounts.SocialLogin

/-! Links and unlinks of the accounts' owners, await by await. -/

namespace ParakoId.SocialAccounts

open Interleavings (Machine Shared Event OnTurns)
open Runs (AlwaysFrom AllowedFrom)

/-- `handleUserIntegration` for the active user, or `linkToUser` of a registration. -/
inductive LinkPath
  | activeUser
  | registration

inductive OwnerCall
  | notStarted
  | findByUsername (userId : String) (provider : IntegrationMethod)
  | findByUser (userId : String) (provider : IntegrationMethod) (hasPassword : Bool)
  | findByUserAndMethod (userId : String) (provider : IntegrationMethod)
  | revokeToken (id : Nat)
  | findByProviderSub (path : LinkPath) (link : Link) (hasContact : Bool)
  | findLinked (path : LinkPath) (link : Link)
  | findIncludingInactive (path : LinkPath) (link : Link)
  | findUser (id : Nat)
  | countIntegrations (link : Link)
  | creating (path : LinkPath) (call : CreationCall) (link : Link)
  | findCreatedUser (id : Nat)
  | findToUpdate (update : IntegrationUpdate) (id : Nat)
  | writeUpdate (update : IntegrationUpdate) (id : Nat)
  | refused (message : String)
  | ended
  | failed

inductive OwnerInput
  | unlinkSocialAccount (userId : String) (provider : IntegrationMethod)
  | handleUserIntegration (userId : String) (provider : IntegrationMethod)
      (providerData : ProviderUserData)
  | linkToUser (userId : String) (provider : IntegrationMethod) (providerData : ProviderUserData)
  | foundUser (password : Option String)
  | missingUser
  | resolve (now : Nat)
  | reject

def hasPassword (password : Option String) : Bool :=
  password.any fun password => Schemas.trim password != ""

def isOnlyProvider (integrations : List SocialIntegration) (provider : IntegrationMethod) : Bool :=
  let linkedProviders := integrations.map SocialIntegration.method
  decide (linkedProviders.length = 1) && decide (provider ∈ linkedProviders)

def onlyAccount : String :=
  "You must set a password before unlinking your only social account. Please change your " ++
    "password first to ensure you can always access your account."

section Requests

variable {database : Database} (firstRow : Tables.FirstRow SocialIntegration)
  (isAvailable : IntegrationMethod → Bool) (config : SocialBehaviorConfig)

def startedRequest : OwnerInput → OwnerCall
  | .unlinkSocialAccount userId provider => .findByUsername userId provider
  | .handleUserIntegration userId provider providerData =>
    .findByProviderSub .activeUser ⟨userId, provider, providerData.sub⟩
      (!(decide (given providerData.email = none) &&
        decide (given providerData.phone_number = none)))
  | .linkToUser userId provider providerData =>
    .findByProviderSub .registration ⟨userId, provider, providerData.sub⟩ true
  | _ => .notStarted

def createIntegrationCall (path : LinkPath) (link : Link) : OwnerCall :=
  if Schemas.trim link.sub = "" then .failed else .creating path .findUser link

def afterCreation (id : Nat) : LinkPath → OwnerCall
  | .activeUser => .findCreatedUser id
  | .registration => .ended

def afterUpdate (id : Nat) : IntegrationUpdate → OwnerCall
  | .providerData => .findToUpdate .tokens id
  | .tokens => .findToUpdate .activation id
  | _ => .ended

def writeIntegration (update : IntegrationUpdate) (id : Nat) (table : IntegrationTable database) :
    IntegrationTable database :=
  match update with
  | .activation => table.update id true
  | .deactivation => table.update id false
  | _ => table

def ownerTurn (table : IntegrationTable database) :
    OwnerCall → OwnerInput → IntegrationTable database × OwnerCall
  | .notStarted, input => (table, startedRequest input)
  | .findByUsername userId provider, .foundUser password =>
    (table, .findByUser userId provider (hasPassword password))
  | .findByUsername _ _, .missingUser => (table, .refused "User not found")
  | .findByUser userId provider hasPassword, .resolve _ =>
    if isOnlyProvider (findByUser table userId) provider && !hasPassword then
      (table, .refused onlyAccount)
    else if isAvailable provider then (table, .findByUserAndMethod userId provider)
    else (table, .failed)
  | .findByUserAndMethod userId provider, .resolve _ =>
    match findByUserAndMethod firstRow table userId provider with
    | none => (table, .failed)
    | some userIntegration => (table, .revokeToken userIntegration.id)
  -- without a token nothing is awaited here; a revocation that fails is only logged
  | .revokeToken id, .resolve _ => (table, .findToUpdate .deactivation id)
  | .revokeToken id, .reject => (table, .findToUpdate .deactivation id)
  | .findByProviderSub path link hasContact, .resolve _ =>
    match findByProviderSub firstRow table link.sub link.method with
    -- a returning account: nothing is written that rows are looked for by
    | some _ => (table, .ended)
    | none => (table, if hasContact then .findLinked path link else .ended)
  | .findLinked path link, .resolve _ =>
    match findByUserAndMethod firstRow table link.user_id link.method with
    | some _ => (table, .ended)
    | none => (table, .findIncludingInactive path link)
  | .findIncludingInactive path link, .resolve _ =>
    match findByUserAndMethodIncludingInactive firstRow table link.user_id link.method with
    | some deactivated => (table, match path with
        | .activeUser => .findUser deactivated.id
        | .registration => .findToUpdate .providerData deactivated.id)
    | none => (table, match path with
        | .activeUser => .countIntegrations link
        | .registration => createIntegrationCall path link)
  -- the one look-up of integrations that catches its error
  | .findIncludingInactive path link, .reject => (table, match path with
      | .activeUser => .countIntegrations link
      | .registration => createIntegrationCall path link)
  | .findUser id, .foundUser _ => (table, .findToUpdate .providerData id)
  | .findUser _, .missingUser => (table, .ended)
  | .countIntegrations link, .resolve _ =>
    let userIntegrations := findByUser table link.user_id
    if (config.allowMultipleProviders = false ∧ 0 < userIntegrations.length) ∨
        config.maxProvidersPerUser ≤ userIntegrations.length then (table, .ended)
    else (table, createIntegrationCall .activeUser link)
  | .creating path .findUser link, .foundUser _ =>
    (table, .creating path .findByUserAndMethod link)
  | .creating _ .findUser _, .missingUser => (table, .failed)
  | .creating path .findByUserAndMethod link, .resolve _ =>
    match findByUserAndMethod firstRow table link.user_id link.method with
    | some _ => (table, .failed)
    | none => (table, .creating path .findByProviderSub link)
  | .creating path .findByProviderSub link, .resolve _ =>
    match findByProviderSub firstRow table link.sub link.method with
    | some _ => (table, .failed)
    | none => (table, .creating path .create link)
  | .creating path .create link, .resolve now =>
    match table.create? link now with
    | some created => (created, afterCreation table.created path)
    | none => (table, .failed)
  | .findCreatedUser _, .foundUser _ => (table, .ended)
  | .findCreatedUser id, .missingUser => (table, .findToUpdate .deactivation id)
  | .findCreatedUser id, .reject => (table, .findToUpdate .deactivation id)
  | .findToUpdate update id, .resolve _ =>
    (table, if table.rows.any (fun row => row.id == id) then .writeUpdate update id
      else .failed)
  | .writeUpdate update id, .resolve _ =>
    (writeIntegration update id table, afterUpdate id update)
  | .refused message, _ => (table, .refused message)
  | .ended, _ => (table, .ended)
  | .failed, _ => (table, .failed)
  | _, .reject => (table, .failed)
  | call, _ => (table, call)

def ownerMachine : Machine (IntegrationTable database) OwnerCall OwnerInput Empty where
  turn := ownerTurn firstRow isAvailable config
  outside _ change := nomatch change

end Requests

variable {database : Database}

def HasIntegration (userId : String) (table : IntegrationTable database) : Prop :=
  findByUser table userId ≠ []

def GuardStillPasses (userId : String) (table : IntegrationTable database) :
    OwnerCall → OwnerInput → Prop
  | .writeUpdate .deactivation id, .resolve _ =>
    ∀ row ∈ findByUser table userId, row.id = id →
      isOnlyProvider (findByUser table userId) row.method = false
  | _, _ => True

variable {table : IntegrationTable database} {userId : String}

theorem mem_findByUser {row : SocialIntegration} :
    row ∈ findByUser table userId ↔
      row ∈ table.rows ∧ row.user_id = userId ∧ row.is_active = true := by
  simp [findByUser]

theorem hasIntegration_iff :
    HasIntegration userId table ↔
      ∃ row ∈ table.rows, row.user_id = userId ∧ row.is_active = true := by
  constructor
  · intro has
    obtain ⟨row, isRow⟩ := List.exists_mem_of_ne_nil _ has
    exact ⟨row, mem_findByUser.mp isRow⟩
  · rintro ⟨row, isRow⟩
    exact List.ne_nil_of_mem (mem_findByUser.mpr isRow)

theorem HasIntegration.of_kept {next : IntegrationTable database}
    (has : HasIntegration userId table)
    (kept : ∀ row ∈ table.rows, row.is_active = true → row ∈ next.rows) :
    HasIntegration userId next := by
  rw [hasIntegration_iff] at has ⊢
  obtain ⟨row, isRow, isOwner, isActive⟩ := has
  exact ⟨row, kept row isRow isActive, isOwner, isActive⟩

theorem mem_update {id : Nat} {isActive : Bool} {row : SocialIntegration} :
    row ∈ (table.update id isActive).rows ↔
      (∃ old ∈ table.rows, old.id = id ∧ setActive isActive old = row) ∨
        (row ∈ table.rows ∧ row.id ≠ id) := by
  simp only [IntegrationTable.update, Tables.mem_updateMany, decide_eq_true_eq, decide_eq_false_iff_not,
    ne_eq]

theorem hasIntegration_activate (id : Nat) (has : HasIntegration userId table) :
    HasIntegration userId (table.update id true) := by
  refine has.of_kept fun row isRow isActive => mem_update.mpr ?_
  by_cases isWritten : row.id = id
  · refine Or.inl ⟨row, isRow, isWritten, ?_⟩
    simp only [setActive, ← isActive]
  · exact Or.inr ⟨isRow, isWritten⟩

theorem isOnlyProvider_iff {integrations : List SocialIntegration} {row : SocialIntegration}
    (member : row ∈ integrations) :
    isOnlyProvider integrations row.method = true ↔ integrations = [row] := by
  have isLinked : row.method ∈ integrations.map SocialIntegration.method :=
    List.mem_map_of_mem member
  simp only [isOnlyProvider, isLinked, decide_true, Bool.and_true, decide_eq_true_eq,
    List.length_map]
  constructor
  · intro isSingle
    obtain ⟨only, rfl⟩ := List.length_eq_one_iff.mp isSingle
    rw [List.mem_singleton.mp member]
  · rintro rfl
    rfl

theorem hasIntegration_deactivate_iff (id : Nat) (has : HasIntegration userId table) :
    HasIntegration userId (table.update id false) ↔
      ∀ row ∈ findByUser table userId, row.id = id →
        isOnlyProvider (findByUser table userId) row.method = false := by
  have left : HasIntegration userId (table.update id false) ↔
      ∃ row ∈ findByUser table userId, row.id ≠ id := by
    simp only [hasIntegration_iff, mem_update, mem_findByUser]
    constructor
    · rintro ⟨row, ⟨old, _, _, rfl⟩ | ⟨isRow, different⟩, isOwner, isActive⟩
      · cases isActive
      · exact ⟨row, ⟨isRow, isOwner, isActive⟩, different⟩
    · rintro ⟨row, ⟨isRow, isOwner, isActive⟩, different⟩
      exact ⟨row, Or.inr ⟨isRow, different⟩, isOwner, isActive⟩
  rw [left]
  constructor
  · rintro ⟨other, isOther, different⟩ row isRow rfl
    rw [← Bool.not_eq_true, isOnlyProvider_iff isRow]
    intro isSingle
    rw [isSingle, List.mem_singleton] at isOther
    exact different (by rw [isOther])
  · intro passes
    by_contra none
    simp only [not_exists, not_and, not_not] at none
    obtain ⟨row, isRow⟩ := List.exists_mem_of_ne_nil _ has
    have notOnly := passes row isRow (none row isRow)
    rw [← Bool.not_eq_true, isOnlyProvider_iff isRow] at notOnly
    -- ids are distinct, so all rows with this id are one row
    have distinct : (findByUser table userId).Pairwise
        fun first second => first.id ≠ second.id :=
      table.distinct.sublist List.filter_sublist
    have single : (findByUser table userId).length ≤ 1 := by
      by_contra several
      have two := List.pairwise_iff_getElem.mp distinct 0 1 (by omega) (by omega) (by omega)
      exact two ((none _ (List.getElem_mem _)).trans (none _ (List.getElem_mem _)).symm)
    apply notOnly
    obtain ⟨only, isOnly⟩ := List.length_eq_one_iff.mp
      (Nat.le_antisymm single (List.length_pos_of_mem isRow))
    rw [isOnly, List.mem_singleton] at isRow
    rw [isOnly, isRow]

theorem ownerTurn_iff (firstRow : Tables.FirstRow SocialIntegration)
    (isAvailable : IntegrationMethod → Bool) (config : SocialBehaviorConfig) (userId : String)
    (table : IntegrationTable database) (call : OwnerCall) (input : OwnerInput)
    (has : HasIntegration userId table) :
    HasIntegration userId (ownerTurn firstRow isAvailable config table call input).1 ↔
      GuardStillPasses userId table call input := by
  have reads (allowed : GuardStillPasses userId table call input)
      (isKept : (ownerTurn firstRow isAvailable config table call input).1 = table) :
      HasIntegration userId (ownerTurn firstRow isAvailable config table call input).1 ↔
        GuardStillPasses userId table call input := by
    rw [isKept]
    exact iff_of_true has allowed
  cases call with
  | writeUpdate update id =>
    cases input with
    | resolve now =>
      cases update with
      | deactivation => exact hasIntegration_deactivate_iff id has
      | activation => exact iff_of_true (hasIntegration_activate id has) trivial
      | _ => exact reads trivial rfl
    | _ => exact reads (by cases update <;> trivial) rfl
  | creating path step link =>
    cases step with
    | create =>
      cases input with
      | resolve now =>
        refine iff_of_true ?_ trivial
        simp only [ownerTurn]
        split
        · rename_i created isCreated
          refine has.of_kept fun row isRow _ => ?_
          rw [(IntegrationTable.create?_some isCreated).2]
          exact List.mem_append_left _ isRow
        · exact has
      | _ => exact reads trivial rfl
    | _ =>
      refine reads trivial ?_
      cases input <;> simp only [ownerTurn] <;> split <;> rfl
  | _ =>
    refine reads trivial ?_
    cases input <;> simp only [ownerTurn] <;> first
      | rfl
      | (split <;> first | rfl | (split <;> rfl))

/-- In a run of any links and unlinks, a user keeps an active integration at all times exactly
where there is one at the start, and each of them is written inactive while the guard of an
unlink would still let it pass. -/
theorem integration_left_iff (firstRow : Tables.FirstRow SocialIntegration)
    (isAvailable : IntegrationMethod → Bool) (config : SocialBehaviorConfig) (userId : String)
    (start : Shared (IntegrationTable database) OwnerCall) (events : List (Event OwnerInput Empty)) :
    AlwaysFrom (ownerMachine firstRow isAvailable config).step
        (fun state => HasIntegration userId state.store) start events ↔
      HasIntegration userId start.store ∧
        AllowedFrom (ownerMachine firstRow isAvailable config).step
          (OnTurns (GuardStillPasses userId)) start events := by
  refine Runs.always_iff_start _ ?_ start events
  intro state event has
  cases event with
  | turn id input =>
    exact ownerTurn_iff firstRow isAvailable config userId state.store (state.calls id) input has
  | outside change => exact nomatch change

def manyProviders : SocialBehaviorConfig :=
  { existingUserNoIntegration := .auto_link, noUserAccount := .allow_registration
    missingContactInfo := .reject_login, allowMultipleProviders := true, showHelpfulErrors := true
    maxProvidersPerUser := 5 }

def twoLinked : IntegrationTable .postgresql where
  rows := [⟨0, "ada", .google, "1234", true, 0⟩, ⟨1, "ada", .github, "5678", true, 0⟩]
  created := 2
  older := by decide
  distinct := by decide
  userIndex _ := by decide
  providerIndex _ := by decide

def unlinkBoth : List (Event OwnerInput Empty) :=
  [.turn 0 (.unlinkSocialAccount "ada" .google), .turn 0 (.foundUser none), .turn 0 (.resolve 0),
    .turn 1 (.unlinkSocialAccount "ada" .github), .turn 1 (.foundUser none), .turn 1 (.resolve 0),
    .turn 0 (.resolve 0), .turn 0 (.resolve 0), .turn 0 (.resolve 0), .turn 0 (.resolve 0),
    .turn 1 (.resolve 0), .turn 1 (.resolve 0), .turn 1 (.resolve 0), .turn 1 (.resolve 0)]

theorem unlinkBoth_leaves_none :
    findByUser twoLinked "ada" ≠ [] ∧
      findByUser (Runs.run (ownerMachine Tables.firstInserted (fun _ => true) manyProviders).step
        ⟨twoLinked, fun _ => .notStarted⟩ unlinkBoth).store "ada" = [] := by
  decide +kernel

end ParakoId.SocialAccounts
