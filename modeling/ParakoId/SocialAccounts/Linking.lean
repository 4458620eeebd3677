import ParakoId.SocialAccounts.SocialLogin

/-!
How the calls of the social sign-in end: each activates one integration or creates one, or leaves
the table as it was.
-/

namespace ParakoId.SocialAccounts

open Calls (outcome Refused)

variable {database : Database} (setting : SocialSetting) (users : List SocialUser)
  (attempt : Attempt) (table : IntegrationTable database)

/-- What is known of a user's integration, active or not: nothing, where the query fails. -/
def knownIncludingInactive (userId : String) (method : IntegrationMethod) :
    Option SocialIntegration :=
  if attempt.fails .findByUserAndMethodIncludingInactive then none
  else findByUserAndMethodIncludingInactive setting.firstRow table userId method

def Attempt.Updates (attempt : Attempt) (update : IntegrationUpdate) : Prop :=
  attempt.fails (.finding update) = false ∧ attempt.fails (.updating update) = false

instance (update : IntegrationUpdate) : Decidable (attempt.Updates update) :=
  inferInstanceAs (Decidable (_ ∧ _))

def Attempt.Reactivates (attempt : Attempt) : Prop :=
  attempt.Updates .providerData ∧ attempt.Updates .tokens ∧ attempt.Updates .activation

instance : Decidable attempt.Reactivates := inferInstanceAs (Decidable (_ ∧ _))

structure Unlinked (provider : IntegrationMethod) (userId : String) (sub : String) : Prop where
  subRead : attempt.fails .findByProviderSub = false
  noneBySub : findByProviderSub setting.firstRow table sub provider = none
  userRead : attempt.fails .findByUserAndMethod = false
  noneByUser : findByUserAndMethod setting.firstRow table userId provider = none

structure Reactivates (provider : IntegrationMethod) (userId : String) (sub : String)
    (row : SocialIntegration) : Prop where
  unlinked : Unlinked setting attempt table provider userId sub
  isKnown : knownIncludingInactive setting attempt table userId provider = some row
  performed : attempt.Reactivates

structure Creates (provider : IntegrationMethod) (userId : String) (sub : String) : Prop where
  isGiven : Schemas.trim sub ≠ ""
  performed : ∀ call, attempt.fails (.creating call) = false
  isUser : (findUserById setting users userId).isSome = true
  noneByUser : findByUserAndMethod setting.firstRow table userId provider = none
  noneBySub : findByProviderSub setting.firstRow table sub provider = none
  notRefused :
    table.refuses (Link.row database ⟨userId, provider, sub⟩ table.created attempt.now) = false

section Requests

variable {setting users attempt table}

theorem outcome_query {Answer : Type} (call : DatabaseCall)
    (read : IntegrationTable database → Answer) :
    outcome (query attempt call read) table =
      if attempt.fails call then (.error .database, table) else (.ok (read table), table) := by
  cases failing : attempt.fails call <;> simp [query, Attempt.refusal, failing, Calls.outcome_request]

theorem outcome_queryIncludingInactive (userId : String) (method : IntegrationMethod) :
    outcome (queryIncludingInactive setting attempt userId method) table =
      (.ok (knownIncludingInactive setting attempt table userId method), table) := by
  simp only [queryIncludingInactive, Calls.outcome_tryCatch, outcome_query, knownIncludingInactive]
  cases attempt.fails .findByUserAndMethodIncludingInactive <;> simp

theorem created_of_not_refused {link : Link} {now : Nat}
    (notRefused : table.refuses (link.row database table.created now) = false) :
    ∃ created, table.create? link now = some created := by
  simp [IntegrationTable.create?, notRefused]

variable {provider : IntegrationMethod} {userId : String} {data : ProviderUserData}
  {row : SocialIntegration}

theorem createIntegration_creates
    (creates : Creates setting users attempt table provider userId data.sub) :
    ∃ created, table.create? ⟨userId, provider, data.sub⟩ attempt.now = some created ∧
      outcome (createIntegration setting users attempt userId provider data) table =
        (.ok (Link.row database ⟨userId, provider, data.sub⟩ table.created attempt.now),
          created) := by
  obtain ⟨created, isCreated⟩ := created_of_not_refused creates.notRefused
  refine ⟨created, isCreated, ?_⟩
  have isUser : findUserById setting users userId ≠ none := by
    simpa using Option.isSome_iff_ne_none.mp creates.isUser
  simp [createIntegration, creates.isGiven, Calls.outcome_bind, outcome_query, creates.performed,
    isUser, creates.noneByUser, creates.noneBySub, insert, Attempt.refusal, Calls.outcome_request,
    isCreated]

theorem refused_query {Answer Result : Type} {call : DatabaseCall}
    {read : IntegrationTable database → Answer} {next : Answer → ServiceCall database Result}
    (rest : attempt.fails call = false → Refused (next (read table)) table) :
    Refused (query attempt call read >>= next) table := by
  cases failing : attempt.fails call with
  | true => exact Refused.bind ⟨.database, by simp [outcome_query, failing]⟩ next
  | false =>
    obtain ⟨error, isError⟩ := rest failing
    exact ⟨error, by simp [Calls.outcome_bind, outcome_query, failing, isError]⟩

theorem createIntegration_refused
    (notCreates : ¬Creates setting users attempt table provider userId data.sub) :
    Refused (createIntegration setting users attempt userId provider data) table := by
  refine Calls.refused_throwIf fun isGiven => refused_query fun userRead => ?_
  refine Calls.refused_throwIf fun isUser => refused_query fun methodRead => ?_
  refine Calls.refused_throwIf fun noneByUser => refused_query fun subRead => ?_
  refine Calls.refused_throwIf fun noneBySub => Calls.refused_request fun creating => ?_
  cases isCreated : table.create? ⟨userId, provider, data.sub⟩ attempt.now with
  | none => exact ⟨.database, rfl⟩
  | some created =>
    refine absurd ?_ notCreates
    exact
      { isGiven
        performed := by
          intro call
          cases call with
          | findUser => exact userRead
          | findByUserAndMethod => exact methodRead
          | findByProviderSub => exact subRead
          | create => simpa [Attempt.refusal] using creating
        isUser := Option.isSome_iff_ne_none.mpr isUser
        noneByUser := not_not.mp noneByUser
        noneBySub := not_not.mp noneBySub
        notRefused := (IntegrationTable.create?_some isCreated).1 }

theorem outcome_updateIntegration (isRow : row ∈ table.rows) (update : IntegrationUpdate)
    (data : IntegrationTable database → IntegrationTable database) :
    outcome (updateIntegration attempt update row.id data) table =
      if attempt.Updates update then (.ok (), data table) else (.error .database, table) := by
  have isFound : (table.rows.any fun other => other.id == row.id) = true :=
    List.any_eq_true.mpr ⟨row, isRow, beq_self_eq_true _⟩
  simp only [updateIntegration, Calls.outcome_bind, outcome_query, isFound]
  by_cases finding : attempt.fails (.finding update) = true
  · simp [finding, Attempt.Updates]
  · by_cases updating : attempt.fails (.updating update) = true
    · simp [finding, updating, Attempt.Updates, Attempt.refusal]
    · simp [finding, updating, Attempt.Updates, Attempt.refusal, Calls.outcome_request]

theorem outcome_reactivate (isRow : row ∈ table.rows) :
    outcome (reactivate attempt row) table =
      if attempt.Reactivates then (.ok (), table.update row.id true)
      else (.error .database, table) := by
  simp only [reactivate, updateProviderData, updateTokens, activate, Calls.outcome_bind,
    outcome_updateIntegration isRow, Attempt.Reactivates]
  by_cases profile : attempt.Updates .providerData
  · by_cases tokens : attempt.Updates .tokens
    · simp [profile, tokens, outcome_updateIntegration isRow]
    · simp [profile, tokens, outcome_updateIntegration isRow]
  · simp [profile]

theorem known_mem {method : IntegrationMethod}
    (isKnown : knownIncludingInactive setting attempt table userId method = some row) :
    row ∈ table.rows ∧ row.user_id = userId ∧ row.method = method := by
  unfold knownIncludingInactive at isKnown
  split at isKnown
  · cases isKnown
  · have isRow := setting.firstRow.pick_mem _ _ isKnown
    simpa [List.mem_filter] using isRow

theorem linkToUser_reactivates
    (reactivates : Reactivates setting attempt table provider userId data.sub row) :
    outcome (linkToUser setting users attempt provider userId data) table =
      (.ok row, table.update row.id true) := by
  obtain ⟨⟨subRead, noneBySub, userRead, noneByUser⟩, isKnown, performed⟩ := reactivates
  simp [linkToUser, Calls.outcome_bind, outcome_query, subRead, noneBySub, userRead, noneByUser,
    outcome_queryIncludingInactive, isKnown, Calls.outcome_map,
    outcome_reactivate (known_mem isKnown).1, performed]

theorem linkToUser_creates (unlinked : Unlinked setting attempt table provider userId data.sub)
    (notKnown : knownIncludingInactive setting attempt table userId provider = none) :
    outcome (linkToUser setting users attempt provider userId data) table =
      outcome (createIntegration setting users attempt userId provider data) table := by
  obtain ⟨subRead, noneBySub, userRead, noneByUser⟩ := unlinked
  simp [linkToUser, Calls.outcome_bind, outcome_query, subRead, noneBySub, userRead, noneByUser,
    outcome_queryIncludingInactive, notKnown]

theorem linkToUser_refused
    (notReactivates : ∀ row, ¬Reactivates setting attempt table provider userId data.sub row)
    (notCreates : Unlinked setting attempt table provider userId data.sub →
      knownIncludingInactive setting attempt table userId provider = none →
        ¬Creates setting users attempt table provider userId data.sub) :
    Refused (linkToUser setting users attempt provider userId data) table := by
  refine refused_query fun subRead => ?_
  cases bySub : findByProviderSub setting.firstRow table data.sub provider with
  | some existing =>
    dsimp only
    split
    · exact Calls.refused_throw _ _
    · exact Calls.refused_throw _ _
  | none =>
    refine refused_query fun userRead => Calls.refused_throwIf fun noneByUser => ?_
    have unlinked : Unlinked setting attempt table provider userId data.sub :=
      ⟨subRead, bySub, userRead, not_not.mp noneByUser⟩
    cases isKnown : knownIncludingInactive setting attempt table userId provider with
    | none =>
      obtain ⟨error, isError⟩ := createIntegration_refused (notCreates unlinked isKnown)
      exact ⟨error, by
        simp [Calls.outcome_bind, outcome_queryIncludingInactive, isKnown, isError]⟩
    | some row =>
      have notPerformed : ¬attempt.Reactivates := fun performed =>
        notReactivates row ⟨unlinked, isKnown, performed⟩
      exact ⟨.database, by
        simp [Calls.outcome_bind, outcome_queryIncludingInactive, isKnown, Calls.outcome_map,
          outcome_reactivate (known_mem isKnown).1, notPerformed]⟩

end Requests

section HandleUserIntegration

variable (provider : IntegrationMethod) (providerData : ProviderUserData) (request : SocialRequest)

def ProviderUserData.HasContact (providerData : ProviderUserData) : Prop :=
  ¬(given providerData.email = none ∧ given providerData.phone_number = none)

/-- What `handleUserIntegration` asks of the number of integrations before it links another. -/
def SocialBehaviorConfig.AllowsAnother (config : SocialBehaviorConfig) (count : Nat) : Prop :=
  (config.allowMultipleProviders = true ∨ count = 0) ∧ (count : ℚ) < config.maxProvidersPerUser

structure RelinksActive (userId : String) (row : SocialIntegration) (user : SocialUser) :
    Prop where
  hasContact : providerData.HasContact
  isActive : request.active = some userId
  userRead : attempt.fails .findUser = false
  isUser : findUserById setting users userId = some user
  reactivates : Reactivates setting attempt table provider userId providerData.sub row

structure LinksActive (userId : String) : Prop where
  hasContact : providerData.HasContact
  isActive : request.active = some userId
  unlinked : Unlinked setting attempt table provider userId providerData.sub
  notKnown : knownIncludingInactive setting attempt table userId provider = none
  counted : attempt.fails .findByUser = false
  allowed : setting.config.AllowsAnother (findByUser table userId).length
  creates : Creates setting users attempt table provider userId providerData.sub

structure AutoLinks (user : SocialUser) : Prop where
  subRead : attempt.fails .findByProviderSub = false
  noneActive : request.active = none
  emailRead : attempt.fails .findUserByEmail = false
  byEmail : ∃ email, given providerData.email = some email ∧
    findUserByEmail setting users database email = some user
  autoLink : setting.config.existingUserNoIntegration = .auto_link
  verified : providerData.email_verified = some true
  creates : Creates setting users attempt table provider user._id providerData.sub

structure WritesNothing : Prop where
  notRelinks : ∀ userId row user,
    ¬RelinksActive setting users attempt table provider providerData request userId row user
  notLinks : ∀ userId, ¬LinksActive setting users attempt table provider providerData request userId
  notAutoLinks : ∀ user, ¬AutoLinks setting users attempt table provider providerData request user

def succeeded : Except ServiceError SocialLoginResult → Bool
  | .ok result => result.success
  | .error _ => false

inductive HandleEnds :
    Except ServiceError SocialLoginResult → IntegrationTable database → Prop
  | unsuccessful (ended : Except ServiceError SocialLoginResult)
      (notSignedIn : succeeded ended = false)
      (nothing : WritesNothing setting users attempt table provider providerData request) :
      HandleEnds ended table
  | existing (row : SocialIntegration) (user : SocialUser)
      (bySub : findByProviderSub setting.firstRow table providerData.sub provider = some row)
      (isUser : findUserById setting users row.user_id = some user) :
      HandleEnds (.ok (.signedIn user row)) table
  | relinked (userId : String) (row : SocialIntegration) (user : SocialUser)
      (next : IntegrationTable database)
      (relinks : RelinksActive setting users attempt table provider providerData request userId row
        user)
      (isNext : next = table.update row.id true) :
      HandleEnds (.ok (.signedIn user row)) next
  | linked (userId : String) (user : SocialUser) (created : IntegrationTable database)
      (links : LinksActive setting users attempt table provider providerData request userId)
      (reading : attempt.fails .findUser = false)
      (isUser : findUserById setting users userId = some user)
      (isCreated : table.create? ⟨userId, provider, providerData.sub⟩ attempt.now = some created) :
      HandleEnds (.ok (.signedIn user
        (Link.row database ⟨userId, provider, providerData.sub⟩ table.created attempt.now))) created
  | orphaned (userId : String) (error : ServiceError) (created next : IntegrationTable database)
      (links : LinksActive setting users attempt table provider providerData request userId)
      (failing : attempt.fails .findUser = true)
      (isCreated : table.create? ⟨userId, provider, providerData.sub⟩ attempt.now = some created)
      (isNext : next =
        if attempt.Updates .deactivation then created.update table.created false else created) :
      HandleEnds (.error error) next
  | autoLinked (user : SocialUser) (created : IntegrationTable database)
      (autoLinks : AutoLinks setting users attempt table provider providerData request user)
      (isCreated :
        table.create? ⟨user._id, provider, providerData.sub⟩ attempt.now = some created) :
      HandleEnds (.ok (.signedIn user
        (Link.row database ⟨user._id, provider, providerData.sub⟩ table.created attempt.now))) created

variable {setting users attempt table provider providerData request}

variable {row : SocialIntegration} {userId : String} {user : SocialUser}

theorem findByProviderSub_mem {sub : String} {method : IntegrationMethod}
    (isFound : findByProviderSub setting.firstRow table sub method = some row) :
    row ∈ table.rows ∧ row.provider_sub = database.castSub sub ∧ row.method = method ∧
      row.is_active = true := by
  have isRow := setting.firstRow.pick_mem _ _ isFound
  simpa [List.mem_filter, and_assoc] using isRow

theorem findUserById_id (isUser : findUserById setting users userId = some user) :
    user._id = userId := by
  have member := setting.firstUser.pick_mem _ _ isUser
  simpa using (List.mem_filter.mp member).2

theorem signInExisting_ends (isRow : row ∈ table.rows) :
    (∃ ended, succeeded ended = false ∧
      outcome (signInExisting setting users attempt provider request row) table = (ended, table)) ∨
    ∃ user, findUserById setting users row.user_id = some user ∧
      outcome (signInExisting setting users attempt provider request row) table =
        (.ok (.signedIn user row), table) := by
  by_cases isOther : request.hasOther row.user_id = true
  · exact Or.inl ⟨_, rfl, by simp only [signInExisting, isOther]; rfl⟩
  by_cases failing : attempt.fails .findUser = true
  · exact Or.inl ⟨.error .database, rfl, by
      simp [signInExisting, isOther, Calls.outcome_bind, outcome_query, failing]⟩
  cases isUser : findUserById setting users row.user_id with
  | none =>
    exact Or.inl ⟨.ok (.failed "User not found for existing integration"), rfl, by
      simp [signInExisting, isOther, Calls.outcome_bind, outcome_query, failing, isUser]⟩
  | some user =>
    have started : outcome (signInExisting setting users attempt provider request row) table =
        outcome (do
          updateProviderData attempt row.id
          updateTokens attempt row.id
          markAsUsed attempt row.id
          return .signedIn user row) table := by
      simp [signInExisting, isOther, Calls.outcome_bind, outcome_query, failing, isUser]
    rw [started]
    by_cases written : attempt.Updates .providerData ∧ attempt.Updates .tokens ∧
        attempt.Updates .lastUsed
    · refine Or.inr ⟨user, rfl, ?_⟩
      simp [updateProviderData, updateTokens, markAsUsed, Calls.outcome_bind, Calls.outcome_map,
        outcome_updateIntegration isRow, written.1, written.2.1, written.2.2]
    · refine Or.inl ⟨.error .database, rfl, ?_⟩
      by_cases profile : attempt.Updates .providerData
      · by_cases tokens : attempt.Updates .tokens
        · have notUsed : ¬attempt.Updates .lastUsed := fun used =>
            written ⟨profile, tokens, used⟩
          simp [updateProviderData, updateTokens, markAsUsed, Calls.outcome_bind,
            Calls.outcome_map, outcome_updateIntegration isRow, profile, tokens, notUsed]
        · simp [updateProviderData, updateTokens, Calls.outcome_bind,
            outcome_updateIntegration isRow, profile, tokens]
      · simp [updateProviderData, Calls.outcome_bind, outcome_updateIntegration isRow, profile]

theorem createLink_links
    (creates : Creates setting users attempt table provider userId providerData.sub)
    (isUser : findUserById setting users userId = some user) :
    ∃ created, table.create? ⟨userId, provider, providerData.sub⟩ attempt.now = some created ∧
      (attempt.fails .findUser = false →
        outcome (createLink setting users attempt provider providerData userId) table =
          (.ok (.signedIn user
            (Link.row database ⟨userId, provider, providerData.sub⟩ table.created attempt.now)),
          created)) ∧
      (attempt.fails .findUser = true →
        outcome (createLink setting users attempt provider providerData userId) table =
          (.error .database,
            if attempt.Updates .deactivation then created.update table.created false
            else created)) := by
  obtain ⟨created, isCreated, isOutcome⟩ := createIntegration_creates creates
  have isRow : Link.row database ⟨userId, provider, providerData.sub⟩ table.created attempt.now ∈
      created.rows := by
    rw [(IntegrationTable.create?_some isCreated).2]
    simp
  refine ⟨created, isCreated, ?_, ?_⟩
  · intro reading
    simp [createLink, Calls.outcome_bind, isOutcome, Calls.outcome_tryCatch, outcome_query, reading,
      isUser]
  · intro failing
    have isDeactivated : outcome (deactivate attempt
        (Link.row database ⟨userId, provider, providerData.sub⟩ table.created attempt.now).id)
        created = if attempt.Updates .deactivation then
          (.ok (), created.update table.created false) else (.error .database, created) :=
      outcome_updateIntegration isRow .deactivation _
    by_cases deactivates : attempt.Updates .deactivation
    · rw [if_pos deactivates] at isDeactivated
      simp [createLink, Calls.outcome_bind, isOutcome, Calls.outcome_tryCatch, outcome_query,
        failing, isDeactivated, deactivates]
    · rw [if_neg deactivates] at isDeactivated
      simp [createLink, Calls.outcome_bind, isOutcome, Calls.outcome_tryCatch, outcome_query,
        failing, isDeactivated, deactivates]

section Ends

variable (setting users attempt table provider providerData request)

/-- What a call that writes has met before it. -/
structure Unknown : Prop where
  subRead : attempt.fails .findByProviderSub = false
  noneBySub : findByProviderSub setting.firstRow table providerData.sub provider = none
  hasContact : providerData.HasContact

def Ends (call : ServiceCall database SocialLoginResult) : Prop :=
  HandleEnds setting users attempt table provider providerData request (outcome call table).1
    (outcome call table).2

end Ends

theorem WritesNothing.of_known (known : ¬Unknown setting attempt table provider providerData) :
    WritesNothing setting users attempt table provider providerData request where
  notRelinks _ _ _ relinks := by
    have unlinked := relinks.reactivates.unlinked
    exact known ⟨unlinked.subRead, unlinked.noneBySub, relinks.hasContact⟩
  notLinks _ links := known ⟨links.unlinked.subRead, links.unlinked.noneBySub, links.hasContact⟩
  notAutoLinks _ autoLinks := by
    refine known ⟨autoLinks.subRead, autoLinks.creates.noneBySub, fun noContact => ?_⟩
    obtain ⟨email, isEmail, _⟩ := autoLinks.byEmail
    rw [noContact.1] at isEmail
    cases isEmail

theorem WritesNothing.of_active (isActive : request.active = some userId)
    (notRelinks : ∀ row user,
      ¬RelinksActive setting users attempt table provider providerData request userId row user)
    (notLinks : ¬LinksActive setting users attempt table provider providerData request userId) :
    WritesNothing setting users attempt table provider providerData request := by
  constructor
  · intro other row user relinks
    obtain rfl : userId = other := Option.some.inj (isActive.symm.trans relinks.isActive)
    exact notRelinks row user relinks
  · intro other links
    obtain rfl : userId = other := Option.some.inj (isActive.symm.trans links.isActive)
    exact notLinks links
  · intro user autoLinks
    rw [autoLinks.noneActive] at isActive
    cases isActive

theorem WritesNothing.of_linked (isActive : request.active = some userId)
    (linked : ¬Unlinked setting attempt table provider userId providerData.sub) :
    WritesNothing setting users attempt table provider providerData request :=
  .of_active isActive (fun _ _ relinks => linked relinks.reactivates.unlinked)
    fun links => linked links.unlinked

theorem WritesNothing.of_inactive (noneActive : request.active = none)
    (notAutoLinks : ∀ user,
      ¬AutoLinks setting users attempt table provider providerData request user) :
    WritesNothing setting users attempt table provider providerData request := by
  refine ⟨fun userId row user relinks => ?_, fun userId links => ?_, notAutoLinks⟩
  · rw [relinks.isActive] at noneActive
    cases noneActive
  · rw [links.isActive] at noneActive
    cases noneActive

theorem Ends.of_outcome {call : ServiceCall database SocialLoginResult}
    {ended : Except ServiceError SocialLoginResult} {next : IntegrationTable database}
    (isOutcome : outcome call table = (ended, next))
    (ends : HandleEnds setting users attempt table provider providerData request ended next) :
    Ends setting users attempt table provider providerData request call := by
  rw [Ends, isOutcome]
  exact ends

theorem Ends.returned {result : SocialLoginResult} (notSignedIn : result.success = false)
    (nothing : WritesNothing setting users attempt table provider providerData request) :
    Ends setting users attempt table provider providerData request (pure result) :=
  .unsuccessful _ notSignedIn nothing

theorem Ends.refused {call : ServiceCall database SocialLoginResult} (refused : Refused call table)
    (nothing : WritesNothing setting users attempt table provider providerData request) :
    Ends setting users attempt table provider providerData request call := by
  obtain ⟨error, isError⟩ := refused
  exact .of_outcome isError (.unsuccessful _ rfl nothing)

theorem Ends.after {Value : Type} {call : ServiceCall database Value} {value : Value}
    {next : Value → ServiceCall database SocialLoginResult}
    (isOutcome : outcome call table = (.ok value, table))
    (rest : Ends setting users attempt table provider providerData request (next value)) :
    Ends setting users attempt table provider providerData request (call >>= next) := by
  have asked : outcome (call >>= next) table = outcome (next value) table := by
    rw [Calls.outcome_bind, isOutcome]
  rw [Ends, asked]
  exact rest

theorem Ends.query {Answer : Type} {call : DatabaseCall}
    {read : IntegrationTable database → Answer}
    {next : Answer → ServiceCall database SocialLoginResult}
    (nothing : attempt.fails call = true →
      WritesNothing setting users attempt table provider providerData request)
    (rest : attempt.fails call = false →
      Ends setting users attempt table provider providerData request (next (read table))) :
    Ends setting users attempt table provider providerData request
      (query attempt call read >>= next) := by
  cases failing : attempt.fails call with
  | true =>
    exact .refused (Refused.bind ⟨.database, by simp [outcome_query, failing]⟩ next)
      (nothing failing)
  | false => exact .after (by simp [outcome_query, failing]) (rest failing)

theorem relinkActiveUser_ends (hasContact : providerData.HasContact)
    (isActive : request.active = some userId)
    (unlinked : Unlinked setting attempt table provider userId providerData.sub)
    (isKnown : knownIncludingInactive setting attempt table userId provider = some row) :
    Ends setting users attempt table provider providerData request (do
      match ← query attempt .findUser fun _ => findUserById setting users userId with
      | none => return .failed "User not found for existing integration"
      | some user =>
        reactivate attempt row
        return .signedIn user row) := by
  have nothing (notRelinks : ∀ user, ¬RelinksActive setting users attempt table provider
      providerData request userId row user) :
      WritesNothing setting users attempt table provider providerData request := by
    refine .of_active isActive (fun other user relinks => ?_) fun links => ?_
    · obtain rfl : row = other := Option.some.inj (isKnown.symm.trans relinks.reactivates.isKnown)
      exact notRelinks user relinks
    · rw [links.notKnown] at isKnown
      cases isKnown
  refine .query (fun failing => nothing fun user relinks => ?_) fun reading => ?_
  · rw [relinks.userRead] at failing
    cases failing
  cases isUser : findUserById setting users userId with
  | none =>
    refine .returned rfl (nothing fun user relinks => ?_)
    rw [relinks.isUser] at isUser
    cases isUser
  | some user =>
    have isReactivated : outcome (reactivate attempt row) table = _ :=
      outcome_reactivate (known_mem isKnown).1
    by_cases performed : attempt.Reactivates
    · refine .of_outcome ?_ (.relinked userId row user _
        ⟨hasContact, isActive, reading, isUser, ⟨unlinked, isKnown, performed⟩⟩ rfl)
      simp [Calls.outcome_map, isReactivated, performed]
    · refine .refused ⟨.database, ?_⟩ (nothing fun user relinks =>
        performed relinks.reactivates.performed)
      simp [Calls.outcome_map, isReactivated, performed]

theorem addToActiveUser_ends (hasContact : providerData.HasContact)
    (isActive : request.active = some userId)
    (unlinked : Unlinked setting attempt table provider userId providerData.sub)
    (notKnown : knownIncludingInactive setting attempt table userId provider = none) :
    Ends setting users attempt table provider providerData request
      (addToActiveUser setting users attempt provider providerData userId) := by
  have nothing (notLinks :
      ¬LinksActive setting users attempt table provider providerData request userId) :
      WritesNothing setting users attempt table provider providerData request := by
    refine .of_active isActive (fun row user relinks => ?_) notLinks
    rw [relinks.reactivates.isKnown] at notKnown
    cases notKnown
  refine .query (fun failing => nothing fun links => ?_) fun counted => ?_
  · rw [links.counted] at failing
    cases failing
  split_ifs with alone isFull
  · refine .returned rfl (nothing fun links => ?_)
    rcases links.allowed.1 with several | noneLinked
    · rw [several] at alone
      cases alone.1
    · omega
  · exact .returned rfl (nothing fun links => absurd isFull (not_le.mpr links.allowed.2))
  have allowed : setting.config.AllowsAnother (findByUser table userId).length := by
    refine ⟨?_, not_le.mp isFull⟩
    rcases Nat.eq_zero_or_pos (findByUser table userId).length with noneLinked | linked
    · exact Or.inr noneLinked
    · exact Or.inl (by simpa [linked] using alone)
  by_cases creates : Creates setting users attempt table provider userId providerData.sub
  · have links : LinksActive setting users attempt table provider providerData request userId :=
      ⟨hasContact, isActive, unlinked, notKnown, counted, allowed, creates⟩
    obtain ⟨user, isUser⟩ := Option.isSome_iff_exists.mp creates.isUser
    obtain ⟨created, isCreated, whenRead, whenFailing⟩ := createLink_links creates isUser
    cases reading : attempt.fails .findUser with
    | false =>
      exact .of_outcome (whenRead reading)
        (.linked userId user created links reading isUser isCreated)
    | true =>
      exact .of_outcome (whenFailing reading)
        (.orphaned userId .database created _ links reading isCreated rfl)
  · exact .refused (Refused.bind (createIntegration_refused creates) _)
      (nothing fun links => creates links.creates)

theorem linkActiveUser_ends (isActive : request.active = some userId)
    (unknown : Unknown setting attempt table provider providerData) :
    Ends setting users attempt table provider providerData request
      (linkActiveUser setting users attempt provider providerData userId) := by
  refine .query (fun failing => .of_linked isActive fun unlinked => ?_) fun userRead => ?_
  · rw [unlinked.userRead] at failing
    cases failing
  split_ifs with linked
  · exact .returned rfl (.of_linked isActive fun unlinked => linked unlinked.noneByUser)
  have unlinked : Unlinked setting attempt table provider userId providerData.sub :=
    ⟨unknown.subRead, unknown.noneBySub, userRead, not_not.mp linked⟩
  refine .after (outcome_queryIncludingInactive userId provider) ?_
  cases isKnown : knownIncludingInactive setting attempt table userId provider with
  | some row => exact relinkActiveUser_ends unknown.hasContact isActive unlinked isKnown
  | none => exact addToActiveUser_ends unknown.hasContact isActive unlinked isKnown

theorem linkByEmail_ends {email : String} (subRead : attempt.fails .findByProviderSub = false)
    (noneActive : request.active = none) (emailRead : attempt.fails .findUserByEmail = false)
    (isEmail : given providerData.email = some email)
    (isUser : findUserByEmail setting users database email = some user) :
    Ends setting users attempt table provider providerData request
      (linkByEmail setting users attempt provider providerData email user) := by
  have nothing
      (notAutoLinks : ¬AutoLinks setting users attempt table provider providerData request user) :
      WritesNothing setting users attempt table provider providerData request := by
    refine .of_inactive noneActive fun other autoLinks => ?_
    obtain ⟨address, isAddress, isOther⟩ := autoLinks.byEmail
    obtain rfl : email = address := Option.some.inj (isEmail.symm.trans isAddress)
    obtain rfl : user = other := Option.some.inj (isUser.symm.trans isOther)
    exact notAutoLinks autoLinks
  unfold linkByEmail
  cases policy : setting.config.existingUserNoIntegration with
  | require_manual_link =>
    refine .returned rfl (nothing fun autoLinks => ?_)
    rw [autoLinks.autoLink] at policy
    cases policy
  | auto_link =>
    by_cases verified : providerData.email_verified = some true
    · dsimp only
      rw [if_neg (not_not.mpr verified)]
      by_cases creates : Creates setting users attempt table provider user._id providerData.sub
      · obtain ⟨created, isCreated, isOutcome⟩ := createIntegration_creates creates
        refine .of_outcome ?_ (.autoLinked user created ⟨subRead, noneActive, emailRead,
          ⟨email, isEmail, isUser⟩, policy, verified, creates⟩ isCreated)
        simp [Calls.outcome_map, isOutcome]
      · exact .refused (Refused.bind (createIntegration_refused creates) _)
          (nothing fun autoLinks => creates autoLinks.creates)
    · dsimp only
      rw [if_pos verified]
      exact .returned rfl (nothing fun autoLinks => verified autoLinks.verified)

theorem handleUserIntegration_ends (provider : IntegrationMethod) (providerData : ProviderUserData)
    (request : SocialRequest) :
    Ends setting users attempt table provider providerData request
      (handleUserIntegration setting users attempt provider providerData request) := by
  refine .query (fun failing => .of_known fun unknown => ?_) fun subRead => ?_
  · rw [unknown.subRead] at failing
    cases failing
  cases bySub : findByProviderSub setting.firstRow table providerData.sub provider with
  | some existing =>
    rcases signInExisting_ends (findByProviderSub_mem bySub).1 with
      ⟨ended, notSignedIn, isOutcome⟩ | ⟨user, isUser, isOutcome⟩
    · refine .of_outcome isOutcome (.unsuccessful _ notSignedIn (.of_known fun unknown => ?_))
      rw [unknown.noneBySub] at bySub
      cases bySub
    · exact .of_outcome isOutcome (.existing existing user bySub isUser)
  | none =>
    split_ifs with noContact
    · refine .returned ?_ (.of_known fun unknown => unknown.hasContact noContact)
      simp only [missingContact]
      split <;> rfl
    cases isActive : request.active with
    | some userId => exact linkActiveUser_ends isActive ⟨subRead, bySub, noContact⟩
    | none =>
      have refusesAll : (noAccount setting provider providerData).success = false := by
        simp only [noAccount]
        split <;> rfl
      cases isEmail : given providerData.email with
      | none =>
        refine .returned refusesAll (.of_inactive isActive fun user autoLinks => ?_)
        obtain ⟨email, isGiven, _⟩ := autoLinks.byEmail
        rw [isGiven] at isEmail
        cases isEmail
      | some email =>
        refine .query (fun failing => .of_inactive isActive fun user autoLinks => ?_)
          fun emailRead => ?_
        · rw [autoLinks.emailRead] at failing
          cases failing
        cases isUser : findUserByEmail setting users database email with
        | none =>
          refine .returned refusesAll (.of_inactive isActive fun user autoLinks => ?_)
          obtain ⟨address, isAddress, isOther⟩ := autoLinks.byEmail
          obtain rfl : email = address := Option.some.inj (isEmail.symm.trans isAddress)
          rw [isOther] at isUser
          cases isUser
        | some user => exact linkByEmail_ends subRead isActive emailRead isEmail isUser

theorem RelinksActive.not_links {other : String}
    (relinks : RelinksActive setting users attempt table provider providerData request userId row
      user) : ¬LinksActive setting users attempt table provider providerData request other := by
  intro links
  obtain rfl : userId = other := Option.some.inj (relinks.isActive.symm.trans links.isActive)
  have isKnown := relinks.reactivates.isKnown
  rw [links.notKnown] at isKnown
  cases isKnown

theorem RelinksActive.not_autoLinks {other : SocialUser}
    (relinks : RelinksActive setting users attempt table provider providerData request userId row
      user) : ¬AutoLinks setting users attempt table provider providerData request other := by
  intro autoLinks
  have isActive := relinks.isActive
  rw [autoLinks.noneActive] at isActive
  cases isActive

theorem LinksActive.not_autoLinks {other : SocialUser}
    (links : LinksActive setting users attempt table provider providerData request userId) :
    ¬AutoLinks setting users attempt table provider providerData request other := by
  intro autoLinks
  have isActive := links.isActive
  rw [autoLinks.noneActive] at isActive
  cases isActive

theorem RelinksActive.unique {other : String} {otherRow : SocialIntegration}
    {otherUser : SocialUser}
    (relinks : RelinksActive setting users attempt table provider providerData request userId row
      user)
    (again : RelinksActive setting users attempt table provider providerData request other otherRow
      otherUser) : userId = other ∧ row = otherRow ∧ user = otherUser := by
  obtain rfl : userId = other := Option.some.inj (relinks.isActive.symm.trans again.isActive)
  exact ⟨rfl, Option.some.inj (relinks.reactivates.isKnown.symm.trans again.reactivates.isKnown),
    Option.some.inj (relinks.isUser.symm.trans again.isUser)⟩

theorem LinksActive.unique {other : String}
    (links : LinksActive setting users attempt table provider providerData request userId)
    (again : LinksActive setting users attempt table provider providerData request other) :
    userId = other :=
  Option.some.inj (links.isActive.symm.trans again.isActive)

theorem AutoLinks.unique {other : SocialUser}
    (autoLinks : AutoLinks setting users attempt table provider providerData request user)
    (again : AutoLinks setting users attempt table provider providerData request other) :
    user = other := by
  obtain ⟨email, isEmail, isUser⟩ := autoLinks.byEmail
  obtain ⟨address, isAddress, isOther⟩ := again.byEmail
  obtain rfl : email = address := Option.some.inj (isEmail.symm.trans isAddress)
  exact Option.some.inj (isUser.symm.trans isOther)

theorem handleUserIntegration_relinks
    (relinks : RelinksActive setting users attempt table provider providerData request userId row
      user) :
    outcome (handleUserIntegration setting users attempt provider providerData request) table =
      (.ok (.signedIn user row), table.update row.id true) := by
  have ends : HandleEnds setting users attempt table provider providerData request _ _ :=
    handleUserIntegration_ends provider providerData request
  rcases isOutcome : outcome (handleUserIntegration setting users attempt provider providerData
    request) table with ⟨ended, next⟩
  rw [isOutcome] at ends
  cases ends with
  | unsuccessful _ _ nothing => exact absurd relinks (nothing.notRelinks userId row user)
  | existing found _ bySub _ =>
    rw [relinks.reactivates.unlinked.noneBySub] at bySub
    cases bySub
  | relinked other otherRow otherUser _ again isNext =>
    obtain ⟨rfl, rfl, rfl⟩ := relinks.unique again
    exact congrArg (Prod.mk _) isNext
  | linked _ _ _ links => exact absurd links relinks.not_links
  | orphaned _ _ _ _ links => exact absurd links relinks.not_links
  | autoLinked _ _ autoLinks => exact absurd autoLinks relinks.not_autoLinks

end HandleUserIntegration

end ParakoId.SocialAccounts
