import Mathlib.Tactic.NormNum
import ParakoId.SocialAccounts.LinkedSubjects

/-! Whom a social account signs in, and how many active integrations a user has. -/

namespace ParakoId.SocialAccounts

open Calls (outcome Refused)
open Runs (AlwaysFrom AllowedFrom)

variable {database : Database}

def ProvesIdentity (setting : SocialSetting) (table : IntegrationTable database)
    (provider : IntegrationMethod) (data : ProviderUserData) (request : SocialRequest)
    (user : SocialUser) : Prop :=
  (∃ row ∈ table.rows, row.is_active = true ∧
      row.providerKey = (database.castSub data.sub, provider) ∧ row.user_id = user._id) ∨
    request.active = some user._id ∨
    (data.email_verified = some true ∧ ∃ email, data.email = some email ∧
      user.email = some (database.castEmail setting.toLowerCase email))

def activeCount (table : IntegrationTable database) (userId : String) : Nat :=
  (findByUser table userId).length

def SocialBehaviorConfig.limit (config : SocialBehaviorConfig) : ℚ :=
  if config.allowMultipleProviders then config.maxProvidersPerUser else 1

def WithinLimits (config : SocialBehaviorConfig) (table : IntegrationTable database) : Prop :=
  ∀ userId, (activeCount table userId : ℚ) ≤ config.limit

def HasRoom (config : SocialBehaviorConfig) (table : IntegrationTable database) (userId : String) :
    Prop :=
  (activeCount table userId : ℚ) + 1 ≤ config.limit

inductive SocialOperation
  | createIntegration (userId : String) (method : IntegrationMethod) (data : ProviderUserData)
  | linkToUser (provider : IntegrationMethod) (userId : String) (data : ProviderUserData)
  | handleUserIntegration (provider : IntegrationMethod) (data : ProviderUserData)
      (request : SocialRequest)
  | activate (id : Nat)
  | deactivate (id : Nat)
  | unlinkFromUser (provider : IntegrationMethod) (userId : String)

inductive SocialEvent
  | operation (attempt : Attempt) (operation : SocialOperation)
  | users (users : List SocialUser)

structure SocialState (database : Database) where
  table : IntegrationTable database
  users : List SocialUser

section Steps

variable (setting : SocialSetting)

def perform (users : List SocialUser) (attempt : Attempt) (table : IntegrationTable database) :
    SocialOperation → IntegrationTable database
  | .createIntegration userId method data =>
    (outcome (createIntegration setting users attempt userId method data) table).2
  | .linkToUser provider userId data =>
    (outcome (linkToUser setting users attempt provider userId data) table).2
  | .handleUserIntegration provider data request =>
    (outcome (handleUserIntegration setting users attempt provider data request) table).2
  | .activate id => (outcome (activate attempt id) table).2
  | .deactivate id => (outcome (deactivate attempt id) table).2
  | .unlinkFromUser provider userId =>
    (outcome (unlinkFromUser setting attempt provider userId) table).2

def socialStep (state : SocialState database) : SocialEvent → SocialState database
  | .operation attempt operation =>
    { state with table := perform setting state.users attempt state.table operation }
  | .users users => { state with users }

/-- A link that the signed-in user asks for and that stays. The check before it leaves room where
the maximum is a whole number. -/
structure LinkStays (users : List SocialUser) (attempt : Attempt)
    (table : IntegrationTable database)
    (provider : IntegrationMethod) (data : ProviderUserData) (request : SocialRequest)
    (userId : String) : Prop where
  links : LinksActive setting users attempt table provider data request userId
  notUndone : attempt.fails .findUser = true → ¬attempt.Updates .deactivation

def RoomKept (users : List SocialUser) (attempt : Attempt) (table : IntegrationTable database) :
    SocialOperation → Prop
  | .createIntegration userId method data =>
    Creates setting users attempt table method userId data.sub →
      HasRoom setting.config table userId
  | .linkToUser provider userId data =>
    (∀ row, Reactivates setting attempt table provider userId data.sub row →
      HasRoom setting.config table userId) ∧
    (Unlinked setting attempt table provider userId data.sub →
      knownIncludingInactive setting attempt table userId provider = none →
        Creates setting users attempt table provider userId data.sub →
          HasRoom setting.config table userId)
  | .handleUserIntegration provider data request =>
    (∀ userId row user,
      RelinksActive setting users attempt table provider data request userId row user →
        HasRoom setting.config table userId) ∧
    (∀ user, AutoLinks setting users attempt table provider data request user →
      HasRoom setting.config table user._id) ∧
    ∀ userId, LinkStays setting users attempt table provider data request userId →
      HasRoom setting.config table userId
  | .activate id =>
    attempt.Updates .activation → ∀ row ∈ table.rows, row.id = id → row.is_active = false →
      HasRoom setting.config table row.user_id
  | .deactivate _ => True
  | .unlinkFromUser _ _ => True

def StepKeepsRoom (state : SocialState database) : SocialEvent → Prop
  | .operation attempt operation => RoomKept setting state.users attempt state.table operation
  | .users _ => True

end Steps

section Counts

variable {table : IntegrationTable database}

theorem update_split {row : SocialIntegration} (isRow : row ∈ table.rows) (isActive : Bool) :
    ∃ before after, table.rows = before ++ row :: after ∧
      (table.update row.id isActive).rows = before ++ setActive isActive row :: after := by
  obtain ⟨before, after, isSplit⟩ := List.append_of_mem isRow
  refine ⟨before, after, isSplit, ?_⟩
  have distinct := table.distinct
  rw [isSplit, List.pairwise_append, List.pairwise_cons] at distinct
  have notBefore : ∀ other ∈ before, other.id ≠ row.id := fun other isOther =>
    distinct.2.2 other isOther row List.mem_cons_self
  have notAfter : ∀ other ∈ after, other.id ≠ row.id := fun other isOther =>
    (distinct.2.1.1 other isOther).symm
  have kept {rows : List SocialIntegration} (apart : ∀ other ∈ rows, other.id ≠ row.id) :
      (rows.map fun other => if other.id = row.id then setActive isActive other else other) =
        rows := by
    rw [List.map_congr_left fun other isOther => if_neg (apart other isOther)]
    exact List.map_id' rows
  simp only [IntegrationTable.update, Tables.updateMany, decide_eq_true_eq, isSplit,
    List.map_append, List.map_cons, if_true, kept notBefore, kept notAfter]

variable {next : IntegrationTable database}

theorem activeCount_create {link : Link} {now : Nat}
    (isCreated : table.create? link now = some next) (userId : String) :
    activeCount next userId = activeCount table userId + if link.user_id = userId then 1 else 0 := by
  rw [activeCount, findByUser, (IntegrationTable.create?_some isCreated).2, List.filter_append,
    List.length_append]
  by_cases isUser : link.user_id = userId <;> simp [activeCount, findByUser, Link.row, isUser]

theorem activeCount_activate {row : SocialIntegration} (isRow : row ∈ table.rows)
    (isInactive : row.is_active = false) (userId : String) :
    activeCount (table.update row.id true) userId =
      activeCount table userId + if row.user_id = userId then 1 else 0 := by
  obtain ⟨before, after, isSplit, isUpdated⟩ := update_split isRow true
  simp only [activeCount, findByUser, isSplit, isUpdated]
  by_cases isUser : row.user_id = userId
  · simp [isUser, isInactive, setActive, List.filter_append]
    omega
  · simp [isUser, List.filter_append, setActive]

theorem activeCount_deactivate {row : SocialIntegration} (isRow : row ∈ table.rows)
    (userId : String) :
    activeCount (table.update row.id false) userId ≤ activeCount table userId := by
  obtain ⟨before, after, isSplit, isUpdated⟩ := update_split isRow false
  simp only [activeCount, findByUser, isSplit, isUpdated]
  by_cases counted : row.user_id = userId ∧ row.is_active = true
  · simp [List.filter_append, setActive, counted]
  · simp [List.filter_append, setActive, counted]

theorem activeCount_undone {link : Link} {now : Nat}
    (isCreated : table.create? link now = some next) (userId : String) :
    activeCount (next.update table.created false) userId = activeCount table userId := by
  have rows := (IntegrationTable.create?_some isCreated).2
  have isNew : link.row database table.created now ∈ next.rows := by
    rw [rows]
    simp
  have isUpdated : (next.update table.created false).rows =
      table.rows ++ [setActive false (link.row database table.created now)] := by
    have kept : (table.rows.map fun other =>
        if other.id = table.created then setActive false other else other) = table.rows := by
      rw [List.map_congr_left fun other isOther => if_neg (Nat.ne_of_lt (table.older other isOther))]
      exact List.map_id' table.rows
    simp only [IntegrationTable.update, Tables.updateMany, decide_eq_true_eq, rows,
      List.map_append, kept, List.map_cons, List.map_nil]
    rw [if_pos (show (link.row database table.created now).id = table.created from rfl)]
  simp [activeCount, findByUser, isUpdated, List.filter_append, setActive]

variable {config : SocialBehaviorConfig}

theorem within_added_iff {userId : String} (within : WithinLimits config table)
    (added : ∀ other, activeCount next other =
      activeCount table other + if userId = other then 1 else 0) :
    WithinLimits config next ↔ HasRoom config table userId := by
  constructor
  · intro withinNext
    have isCounted := withinNext userId
    rw [added userId, if_pos rfl, Nat.cast_add, Nat.cast_one] at isCounted
    exact isCounted
  · intro hasRoom other
    rw [added other]
    by_cases isUser : userId = other
    · subst isUser
      rw [if_pos rfl, Nat.cast_add, Nat.cast_one]
      exact hasRoom
    · rw [if_neg isUser]
      exact within other

theorem within_of_le (within : WithinLimits config table)
    (le : ∀ userId, activeCount next userId ≤ activeCount table userId) :
    WithinLimits config next := fun userId =>
  le_trans (Nat.cast_le.mpr (le userId)) (within userId)

theorem within_deactivate (within : WithinLimits config table) (id : Nat) :
    WithinLimits config (table.update id false) := by
  by_cases isKnown : ∃ row ∈ table.rows, row.id = id
  · obtain ⟨row, isRow, rfl⟩ := isKnown
    exact within_of_le within (activeCount_deactivate isRow)
  · refine within_of_le within fun userId => le_of_eq ?_
    have kept : (table.update id false).rows = table.rows := by
      simp only [IntegrationTable.update, Tables.updateMany, decide_eq_true_eq]
      rw [List.map_congr_left fun other isOther => if_neg fun sameId =>
        isKnown ⟨other, isOther, sameId⟩]
      exact List.map_id' table.rows
    rw [activeCount, activeCount, findByUser, findByUser, kept]

end Counts

section StepLemmas

variable {setting : SocialSetting} {users : List SocialUser} {attempt : Attempt}
  {table : IntegrationTable database}

theorem updateIntegration_table (update : IntegrationUpdate) (integrationId : Nat)
    (data : IntegrationTable database → IntegrationTable database) :
    (outcome (updateIntegration attempt update integrationId data) table).2 =
      if attempt.Updates update ∧ ∃ row ∈ table.rows, row.id = integrationId then data table
      else table := by
  by_cases isKnown : ∃ row ∈ table.rows, row.id = integrationId
  · have isFound := isKnown
    obtain ⟨row, isRow, rfl⟩ := isFound
    rw [outcome_updateIntegration isRow]
    by_cases updates : attempt.Updates update
    · rw [if_pos updates, if_pos ⟨updates, isKnown⟩]
    · rw [if_neg updates, if_neg fun both => updates both.1]
  · have notFound : (table.rows.any fun row => row.id == integrationId) = false := by
      rw [List.any_eq_false]
      intro row isRow sameId
      exact isKnown ⟨row, isRow, by simpa using sameId⟩
    have refused : Refused (updateIntegration attempt update integrationId data) table :=
      refused_query fun _ => Calls.refused_throwIf fun isFound => absurd notFound isFound
    obtain ⟨error, isError⟩ := refused
    rw [isError, if_neg fun both => isKnown both.2]

variable {userId : String} {data : ProviderUserData} {provider : IntegrationMethod}

theorem within_createIntegration_iff {method : IntegrationMethod}
    (within : WithinLimits setting.config table) :
    WithinLimits setting.config
        (outcome (createIntegration setting users attempt userId method data) table).2 ↔
      (Creates setting users attempt table method userId data.sub →
        HasRoom setting.config table userId) := by
  by_cases creates : Creates setting users attempt table method userId data.sub
  · obtain ⟨created, isCreated, isOutcome⟩ := createIntegration_creates creates
    rw [isOutcome, within_added_iff within (activeCount_create isCreated)]
    exact ⟨fun hasRoom _ => hasRoom, fun hasRoom => hasRoom creates⟩
  · obtain ⟨error, isError⟩ := createIntegration_refused creates
    rw [isError]
    exact iff_of_true within fun isCreated => absurd isCreated creates

theorem reactivated_inactive {sub : String} {row : SocialIntegration}
    (reactivates : Reactivates setting attempt table provider userId sub row) :
    row.is_active = false := by
  obtain ⟨isRow, isUser, isMethod⟩ := known_mem reactivates.isKnown
  exact none_of_findByUserAndMethod reactivates.unlinked.noneByUser row isRow isUser isMethod

theorem within_reactivated_iff {sub : String} {row : SocialIntegration}
    (within : WithinLimits setting.config table)
    (reactivates : Reactivates setting attempt table provider userId sub row) :
    WithinLimits setting.config (table.update row.id true) ↔
      HasRoom setting.config table userId := by
  obtain ⟨isRow, rfl, _⟩ := known_mem reactivates.isKnown
  exact within_added_iff within (activeCount_activate isRow (reactivated_inactive reactivates))

theorem within_linkToUser_iff (within : WithinLimits setting.config table) :
    WithinLimits setting.config
        (outcome (linkToUser setting users attempt provider userId data) table).2 ↔
      RoomKept setting users attempt table (.linkToUser provider userId data) := by
  by_cases reactivated : ∃ row, Reactivates setting attempt table provider userId data.sub row
  · obtain ⟨row, reactivates⟩ := reactivated
    rw [linkToUser_reactivates reactivates, within_reactivated_iff within reactivates]
    constructor
    · intro hasRoom
      exact ⟨fun _ _ => hasRoom, fun _ _ _ => hasRoom⟩
    · intro kept
      exact kept.1 row reactivates
  have never : ∀ row, ¬Reactivates setting attempt table provider userId data.sub row :=
    fun row reactivates => reactivated ⟨row, reactivates⟩
  by_cases created : Unlinked setting attempt table provider userId data.sub ∧
      knownIncludingInactive setting attempt table userId provider = none
  · rw [linkToUser_creates created.1 created.2, within_createIntegration_iff within]
    constructor
    · intro kept
      exact ⟨fun row reactivates => absurd reactivates (never row), fun _ _ => kept⟩
    · intro kept
      exact kept.2 created.1 created.2
  · obtain ⟨error, isError⟩ := linkToUser_refused never
      (fun unlinked notKnown => absurd ⟨unlinked, notKnown⟩ created)
    rw [isError]
    exact iff_of_true within ⟨fun row reactivates => absurd reactivates (never row),
      fun unlinked notKnown => absurd ⟨unlinked, notKnown⟩ created⟩

theorem hasRoom_iff_of_stays {request : SocialRequest}
    (stays : LinkStays setting users attempt table provider data request userId) :
    HasRoom setting.config table userId ↔
      RoomKept setting users attempt table (.handleUserIntegration provider data request) := by
  constructor
  · intro hasRoom
    refine ⟨?_, ?_, ?_⟩
    · intro _ _ _ relinks
      exact absurd stays.links relinks.not_links
    · intro _ autoLinks
      exact absurd autoLinks stays.links.not_autoLinks
    · intro other again
      obtain rfl := stays.links.unique again.links
      exact hasRoom
  · intro kept
    exact kept.2.2 userId stays

section

variable (within : WithinLimits setting.config table)
include within

theorem within_handleUserIntegration_iff {request : SocialRequest} :
    WithinLimits setting.config
        (outcome (handleUserIntegration setting users attempt provider data request) table).2 ↔
      RoomKept setting users attempt table (.handleUserIntegration provider data request) := by
  have ends : HandleEnds setting users attempt table provider data request _ _ :=
    handleUserIntegration_ends provider data request
  rcases isOutcome : outcome (handleUserIntegration setting users attempt provider data request)
    table with ⟨ended, next⟩
  rw [isOutcome] at ends
  cases ends with
  | unsuccessful _ _ nothing =>
    refine iff_of_true within ⟨?_, ?_, ?_⟩
    · intro userId row user relinks
      exact absurd relinks (nothing.notRelinks userId row user)
    · intro user autoLinks
      exact absurd autoLinks (nothing.notAutoLinks user)
    · intro userId stays
      exact absurd stays.links (nothing.notLinks userId)
  | existing row user bySub _ =>
    refine iff_of_true within ⟨?_, ?_, ?_⟩
    · intro userId _ _ relinks
      rw [relinks.reactivates.unlinked.noneBySub] at bySub
      cases bySub
    · intro _ autoLinks
      rw [autoLinks.creates.noneBySub] at bySub
      cases bySub
    · intro userId stays
      rw [stays.links.unlinked.noneBySub] at bySub
      cases bySub
  | relinked userId row user _ relinks isNext =>
    rw [isNext, within_reactivated_iff within relinks.reactivates]
    constructor
    · intro hasRoom
      refine ⟨?_, ?_, ?_⟩
      · intro other _ _ again
        obtain ⟨rfl, _, _⟩ := relinks.unique again
        exact hasRoom
      · intro _ autoLinks
        exact absurd autoLinks relinks.not_autoLinks
      · intro _ stays
        exact absurd stays.links relinks.not_links
    · intro kept
      exact kept.1 userId row user relinks
  | linked userId user _ links reading _ isCreated =>
    have stays : LinkStays setting users attempt table provider data request userId :=
      ⟨links, fun failing => by rw [reading] at failing; cases failing⟩
    rw [within_added_iff within (activeCount_create isCreated)]
    exact hasRoom_iff_of_stays stays
  | orphaned userId error created _ links failing isCreated isNext =>
    by_cases deactivates : attempt.Updates .deactivation
    · rw [isNext, if_pos deactivates]
      refine iff_of_true (within_of_le within fun other =>
        le_of_eq (activeCount_undone isCreated other)) ⟨?_, ?_, ?_⟩
      · intro _ _ _ relinks
        exact absurd links relinks.not_links
      · intro _ autoLinks
        exact absurd autoLinks links.not_autoLinks
      · intro _ stays
        exact absurd deactivates (stays.notUndone failing)
    · rw [isNext, if_neg deactivates, within_added_iff within (activeCount_create isCreated)]
      exact hasRoom_iff_of_stays ⟨links, fun _ => deactivates⟩
  | autoLinked user _ autoLinks isCreated =>
    rw [within_added_iff within (activeCount_create isCreated)]
    constructor
    · intro hasRoom
      refine ⟨?_, ?_, ?_⟩
      · intro _ _ _ relinks
        exact absurd autoLinks relinks.not_autoLinks
      · intro other again
        obtain rfl := autoLinks.unique again
        exact hasRoom
      · intro _ stays
        exact absurd autoLinks stays.links.not_autoLinks
    · intro kept
      exact kept.2.1 user autoLinks

theorem within_activate_iff (integrationId : Nat) :
    WithinLimits setting.config (outcome (activate attempt integrationId) table).2 ↔
      RoomKept setting users attempt table (.activate integrationId) := by
  rw [activate, updateIntegration_table]
  split
  · rename_i written
    obtain ⟨updates, row, isRow, rfl⟩ := written
    cases isActive : row.is_active with
    | true =>
      have unchanged (userId : String) :
          activeCount (table.update row.id true) userId = activeCount table userId := by
        obtain ⟨before, after, isSplit, isUpdated⟩ := update_split isRow true
        have same : setActive true row = row := by
          rw [setActive, ← isActive]
        rw [activeCount, activeCount, findByUser, findByUser, isUpdated, same, ← isSplit]
      refine iff_of_true (within_of_le within fun userId => le_of_eq (unchanged userId)) ?_
      intro _ other isOther sameId isInactive
      rw [row_of_id isRow isOther sameId, isActive] at isInactive
      cases isInactive
    | false =>
      rw [within_added_iff within (activeCount_activate isRow isActive)]
      constructor
      · intro hasRoom _ other isOther sameId _
        rw [row_of_id isRow isOther sameId]
        exact hasRoom
      · intro kept
        exact kept updates row isRow rfl isActive
  · rename_i notWritten
    refine iff_of_true within ?_
    intro updates row isRow isId _
    exact absurd ⟨updates, row, isRow, isId⟩ notWritten

theorem within_deactivated (integrationId : Nat) :
    WithinLimits setting.config (outcome (deactivate attempt integrationId) table).2 := by
  rw [deactivate, updateIntegration_table]
  split
  · exact within_deactivate within integrationId
  · exact within

theorem within_unlinkFromUser (provider : IntegrationMethod) (userId : String) :
    WithinLimits setting.config
      (outcome (unlinkFromUser setting attempt provider userId) table).2 := by
  by_cases failing : attempt.fails .findByUserAndMethod = true
  · simpa [unlinkFromUser, Calls.outcome_bind, outcome_query, failing] using within
  · cases isFound : findByUserAndMethod setting.firstRow table userId provider with
    | none => simpa [unlinkFromUser, Calls.outcome_bind, outcome_query, failing, isFound] using within
    | some row =>
      simpa [unlinkFromUser, Calls.outcome_bind, outcome_query, failing, isFound] using
        within_deactivated within row.id

theorem within_perform_iff (operation : SocialOperation) :
    WithinLimits setting.config (perform setting users attempt table operation) ↔
      RoomKept setting users attempt table operation := by
  cases operation with
  | createIntegration userId method data => exact within_createIntegration_iff within
  | linkToUser provider userId data => exact within_linkToUser_iff within
  | handleUserIntegration provider data request => exact within_handleUserIntegration_iff within
  | activate id => exact within_activate_iff within id
  | deactivate id => exact iff_of_true (within_deactivated within id) trivial
  | unlinkFromUser provider userId =>
    exact iff_of_true (within_unlinkFromUser within provider userId) trivial

end

end StepLemmas

theorem findUserByEmail_email {setting : SocialSetting} {users : List SocialUser} {email : String}
    {user : SocialUser} (isFound : findUserByEmail setting users database email = some user) :
    user.email = some (database.castEmail setting.toLowerCase email) := by
  have member := setting.firstUser.pick_mem _ _ isFound
  simp only [List.mem_filter, Bool.and_eq_true, beq_iff_eq] at member
  exact member.2.1

theorem handleUserIntegration_proves {setting : SocialSetting} {users : List SocialUser}
    {attempt : Attempt} {table next : IntegrationTable database} {provider : IntegrationMethod}
    {data : ProviderUserData} {request : SocialRequest} {result : SocialLoginResult}
    {user : SocialUser}
    (isOutcome : outcome (handleUserIntegration setting users attempt provider data request) table =
      (.ok result, next)) (succeeds : result.success = true) (isUser : result.user = some user) :
    ProvesIdentity setting table provider data request user := by
  have ends : HandleEnds setting users attempt table provider data request _ _ :=
    handleUserIntegration_ends provider data request
  rw [isOutcome] at ends
  cases ends with
  | unsuccessful _ notSignedIn _ =>
    rw [show result.success = false from notSignedIn] at succeeds
    cases succeeds
  | existing row found bySub isFound =>
    obtain rfl : found = user := Option.some.inj isUser
    obtain ⟨isRow, isSub, isMethod, isActive⟩ := findByProviderSub_mem bySub
    exact Or.inl ⟨row, isRow, isActive, Prod.ext isSub isMethod, (findUserById_id isFound).symm⟩
  | relinked userId row found _ relinks _ =>
    obtain rfl : found = user := Option.some.inj isUser
    rw [← findUserById_id relinks.isUser] at relinks
    exact Or.inr (Or.inl relinks.isActive)
  | linked userId found _ links _ isFound _ =>
    obtain rfl : found = user := Option.some.inj isUser
    rw [← findUserById_id isFound] at links
    exact Or.inr (Or.inl links.isActive)
  | autoLinked found _ autoLinks _ =>
    obtain rfl : found = user := Option.some.inj isUser
    obtain ⟨email, isEmail, isFound⟩ := autoLinks.byEmail
    have isGiven : data.email = some email := (Option.filter_eq_some_iff.mp isEmail).1
    exact Or.inr (Or.inr ⟨autoLinks.verified, email, isGiven, findUserByEmail_email isFound⟩)

/-- A social account signs in a user who has proved the identity. In a run of any operations every
user stays within the limit exactly where that is so at the start and each user for whom an
integration is created or activated has room for it. -/
theorem sign_ins_proved_within_limits (setting : SocialSetting) :
    (∀ (users : List SocialUser) (attempt : Attempt) (table next : IntegrationTable database)
        (provider : IntegrationMethod) (data : ProviderUserData) (request : SocialRequest)
        (result : SocialLoginResult) (user : SocialUser),
      outcome (handleUserIntegration setting users attempt provider data request) table =
          (.ok result, next) → result.success = true → result.user = some user →
        ProvesIdentity setting table provider data request user) ∧
    ∀ (start : SocialState database) (events : List SocialEvent),
      AlwaysFrom (socialStep setting) (fun state => WithinLimits setting.config state.table) start
          events ↔
        WithinLimits setting.config start.table ∧
          AllowedFrom (socialStep setting) (StepKeepsRoom setting) start events := by
  constructor
  · intro users attempt table next provider data request result user isOutcome succeeds isUser
    exact handleUserIntegration_proves isOutcome succeeds isUser
  · intro start events
    refine Runs.always_iff_start _ ?_ start events
    intro state event within
    cases event with
    | operation attempt operation => exact within_perform_iff within operation
    | users users => exact iff_of_true within trivial

def singleProvider : SocialSetting :=
  { defaultSetting with
    config := { defaultBehavior with
      existingUserNoIntegration := .auto_link
      allowMultipleProviders := false } }

def linkedOnce : IntegrationTable .sqlite :=
  (IntegrationTable.empty.create? ⟨"ada", .google, "1234"⟩ 0).getD .empty

def firstProvider : List SocialEvent :=
  [.users [ada], .operation undisturbed (.linkToUser .google "ada" (googleProfile "1234"))]

theorem ada_signs_in_and_stays_single :
    ProvesIdentity singleProvider linkedOnce .google (googleProfile "1234") ⟨false, none⟩ ada ∧
      AlwaysFrom (socialStep singleProvider)
        (fun state => WithinLimits singleProvider.config state.table)
        ⟨(.empty : IntegrationTable .sqlite), []⟩ firstProvider := by
  have noneLinked (userId : String) :
      activeCount (IntegrationTable.empty : IntegrationTable .sqlite) userId = 0 := rfl
  have isSingle : singleProvider.config.limit = 1 := rfl
  have hasRoom (userId : String) :
      HasRoom singleProvider.config (.empty : IntegrationTable .sqlite) userId := by
    rw [HasRoom, noneLinked, isSingle]
    norm_num
  constructor
  · exact (sign_ins_proved_within_limits singleProvider).1 [ada] undisturbed linkedOnce linkedOnce
      .google (googleProfile "1234") ⟨false, none⟩
      (.signedIn ada ⟨0, "ada", .google, "1234", true, 0⟩) ada rfl rfl rfl
  · refine ((sign_ins_proved_within_limits singleProvider).2 _ firstProvider).mpr ⟨?_, ?_⟩
    · intro userId
      rw [noneLinked, isSingle]
      norm_num
    · exact ⟨trivial, ⟨fun _ _ => hasRoom "ada", fun _ _ _ => hasRoom "ada"⟩, trivial⟩

def secondProvider : List SocialEvent :=
  [.users [ada],
    .operation undisturbed (.linkToUser .google "ada" (googleProfile "1234")),
    .operation undisturbed (.handleUserIntegration .github (googleProfile "5678") ⟨false, none⟩)]

theorem second_provider_linked :
    WithinLimits singleProvider.config (IntegrationTable.empty : IntegrationTable .sqlite) ∧
      ¬WithinLimits singleProvider.config
        (Runs.run (socialStep singleProvider) ⟨(.empty : IntegrationTable .sqlite), []⟩
          secondProvider).table := by
  constructor
  · intro userId
    simp [activeCount, findByUser, IntegrationTable.empty, SocialBehaviorConfig.limit,
      singleProvider]
  · intro within
    have isCounted := within "ada"
    have isTwo : activeCount (Runs.run (socialStep singleProvider)
        ⟨(.empty : IntegrationTable .sqlite), []⟩ secondProvider).table "ada" = 2 := by
      decide +kernel
    rw [isTwo] at isCounted
    simp [SocialBehaviorConfig.limit, singleProvider] at isCounted

end ParakoId.SocialAccounts
