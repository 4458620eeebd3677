import ParakoId.SocialAccounts.Linking

/-! Whether a link binds the account that was presented. -/

namespace ParakoId.SocialAccounts

open Calls (outcome Refused)

variable {database : Database}

def SignsInAs (firstRow : Tables.FirstRow SocialIntegration) (table : IntegrationTable database)
    (provider : IntegrationMethod) (sub userId : String) : Prop :=
  ∃ row, findByProviderSub firstRow table sub provider = some row ∧ row.user_id = userId

structure BindsPresented (firstRow : Tables.FirstRow SocialIntegration)
    (table next : IntegrationTable database) (provider : IntegrationMethod)
    (sub userId : String) : Prop where
  found : ∃ row ∈ next.rows, findByProviderSub firstRow next sub provider = some row ∧
    row.is_active = true ∧ row.user_id = userId
  noOther : ∀ other method, (database.castSub other, method) ≠ (database.castSub sub, provider) →
    SignsInAs firstRow next method other userId → SignsInAs firstRow table method other userId

section Lookups

variable {firstRow : Tables.FirstRow SocialIntegration} {table : IntegrationTable database}

variable {method : IntegrationMethod} {row : SocialIntegration}

theorem none_of_findByProviderSub {sub : String}
    (isNone : findByProviderSub firstRow table sub method = none) (row : SocialIntegration)
    (isRow : row ∈ table.rows) (isActive : row.is_active = true) (isMethod : row.method = method) :
    row.provider_sub ≠ database.castSub sub := by
  intro isSub
  have empty := firstRow.pick_none _ isNone
  have member : row ∈ table.rows.filter fun row =>
      row.provider_sub == database.castSub sub && row.method == method && row.is_active := by
    simp [List.mem_filter, isRow, isSub, isMethod, isActive]
  rw [empty] at member
  cases member

theorem none_of_findByUserAndMethod {userId : String}
    (isNone : findByUserAndMethod firstRow table userId method = none) (row : SocialIntegration)
    (isRow : row ∈ table.rows) (isUser : row.user_id = userId) (isMethod : row.method = method) :
    row.is_active = false := by
  have empty := firstRow.pick_none _ isNone
  rw [List.filter_eq_nil_iff] at empty
  simpa [isUser, isMethod] using empty row isRow

theorem findByProviderSub_only {sub : String} (isRow : row ∈ table.rows)
    (isSub : row.provider_sub = database.castSub sub) (isMethod : row.method = method)
    (isActive : row.is_active = true)
    (only : ∀ other ∈ table.rows, other.provider_sub = database.castSub sub →
      other.method = method → other.is_active = true → other = row) :
    findByProviderSub firstRow table sub method = some row := by
  cases isFound : findByProviderSub firstRow table sub method with
  | none => exact absurd isSub (none_of_findByProviderSub isFound row isRow isActive isMethod)
  | some found =>
    have isOther := firstRow.pick_mem _ _ isFound
    simp only [List.mem_filter, Bool.and_eq_true, beq_iff_eq] at isOther
    rw [only found isOther.1 isOther.2.1.1 isOther.2.1.2 isOther.2.2]

theorem row_of_id {other : SocialIntegration} (isRow : row ∈ table.rows)
    (isOther : other ∈ table.rows) (sameId : other.id = row.id) : other = row := by
  have unique : Tables.UniqueOn (fun _ => true) SocialIntegration.id table.rows :=
    table.distinct.imp fun apart _ _ => apart
  exact unique.eq_of_key_eq isOther isRow rfl rfl sameId

theorem updated_rows (isRow : row ∈ table.rows) (isActive : Bool) (other : SocialIntegration) :
    other ∈ (table.update row.id isActive).rows ↔
      other = setActive isActive row ∨ (other ∈ table.rows ∧ other.id ≠ row.id) := by
  simp only [IntegrationTable.update, Tables.mem_updateMany, decide_eq_true_eq, decide_eq_false_iff_not]
  constructor
  · rintro (⟨old, isOld, sameId, rfl⟩ | kept)
    · rw [row_of_id isRow isOld sameId]
      exact Or.inl rfl
    · exact Or.inr kept
  · rintro (rfl | kept)
    · exact Or.inl ⟨row, isRow, rfl, rfl⟩
    · exact Or.inr kept

theorem findByProviderSub_update_other (isRow : row ∈ table.rows) {other : String}
    (isActive : Bool) (apart : (database.castSub other, method) ≠ row.providerKey) :
    findByProviderSub firstRow (table.update row.id isActive) other method =
      findByProviderSub firstRow table other method := by
  have notSelected : ¬(row.provider_sub = database.castSub other ∧ row.method = method) :=
    fun selected => apart (Prod.ext selected.1.symm selected.2.symm)
  refine congrArg firstRow.pick (Tables.filter_updateMany ?_ ?_)
  · intro old isOld sameId
    rw [row_of_id isRow isOld (by simpa using sameId)]
    simp_all
  · intro old isOld sameId
    rw [row_of_id isRow isOld (by simpa using sameId)]
    simp_all [setActive]

theorem findByProviderSub_create_other {next : IntegrationTable database} {link : Link}
    {now : Nat} (isCreated : table.create? link now = some next) {other : String}
    (apart : (database.castSub other, method) ≠ (database.castSub link.sub, link.method)) :
    findByProviderSub firstRow next other method = findByProviderSub firstRow table other method := by
  have notSelected : ¬(database.castSub link.sub = database.castSub other ∧ link.method = method) :=
    fun selected => apart (Prod.ext selected.1.symm selected.2.symm)
  refine congrArg firstRow.pick ?_
  rw [(IntegrationTable.create?_some isCreated).2]
  refine Tables.filter_append_inside ?_
  intro row isNew
  rw [List.mem_singleton.mp isNew]
  simp_all [Link.row]

end Lookups

section Bindings

variable {setting : SocialSetting} {users : List SocialUser} {attempt : Attempt}
  {table : IntegrationTable database} {provider : IntegrationMethod}

theorem create_binds {userId sub : String} {next : IntegrationTable database} {now : Nat}
    (noneBySub : findByProviderSub setting.firstRow table sub provider = none)
    (isCreated : table.create? ⟨userId, provider, sub⟩ now = some next) :
    BindsPresented setting.firstRow table next provider sub userId := by
  have rows := (IntegrationTable.create?_some isCreated).2
  have isNew : Link.row database ⟨userId, provider, sub⟩ table.created now ∈ next.rows := by
    rw [rows]
    simp
  constructor
  · refine ⟨_, isNew, findByProviderSub_only isNew rfl rfl rfl ?_, rfl, rfl⟩
    intro other isOther isSub isMethod isActive
    rw [rows, List.mem_append, List.mem_singleton] at isOther
    rcases isOther with isOld | isNewest
    · exact absurd isSub (none_of_findByProviderSub noneBySub other isOld isActive isMethod)
    · exact isNewest
  · rintro other method apart ⟨row, isFound, isUser⟩
    exact ⟨row, findByProviderSub_create_other isCreated apart ▸ isFound, isUser⟩

theorem reactivation_binds_iff {userId sub : String} {row : SocialIntegration}
    (reactivates : Reactivates setting attempt table provider userId sub row) :
    BindsPresented setting.firstRow table (table.update row.id true) provider sub userId ↔
      row.provider_sub = database.castSub sub := by
  obtain ⟨isRow, isUser, isMethod⟩ := known_mem reactivates.isKnown
  have noneBySub := none_of_findByProviderSub reactivates.unlinked.noneBySub
  constructor
  · intro binds
    by_contra apart
    obtain ⟨found, _, isFound, _⟩ := binds.found
    have otherKey : (database.castSub sub, provider) ≠ row.providerKey :=
      fun same => apart (congrArg Prod.fst same).symm
    rw [findByProviderSub_update_other isRow true otherKey,
      reactivates.unlinked.noneBySub] at isFound
    cases isFound
  · intro isSub
    have isActivated : setActive true row ∈ (table.update row.id true).rows :=
      (updated_rows isRow true _).mpr (Or.inl rfl)
    constructor
    · refine ⟨_, isActivated, findByProviderSub_only isActivated isSub isMethod rfl ?_, rfl, isUser⟩
      intro other isOther otherSub otherMethod isActive
      rcases (updated_rows isRow true other).mp isOther with same | ⟨isOld, _⟩
      · exact same
      · exact absurd otherSub (noneBySub other isOld isActive otherMethod)
    · rintro other method apart ⟨found, isFound, foundUser⟩
      have isKey : row.providerKey = (database.castSub sub, provider) := Prod.ext isSub isMethod
      rw [findByProviderSub_update_other isRow true (isKey ▸ apart)] at isFound
      exact ⟨found, isFound, foundUser⟩

theorem linkToUser_binds_iff (users : List SocialUser) (userId : String)
    (data : ProviderUserData) :
    (∀ row next, outcome (linkToUser setting users attempt provider userId data) table =
        (.ok row, next) →
      BindsPresented setting.firstRow table next provider data.sub userId) ↔
      ∀ row, Reactivates setting attempt table provider userId data.sub row →
        row.provider_sub = database.castSub data.sub := by
  constructor
  · intro binds row reactivates
    exact (reactivation_binds_iff reactivates).mp
      (binds row _ (linkToUser_reactivates reactivates))
  · intro ownSubject row next isOutcome
    by_cases reactivated : ∃ old, Reactivates setting attempt table provider userId data.sub old
    · obtain ⟨old, reactivates⟩ := reactivated
      rw [linkToUser_reactivates reactivates] at isOutcome
      obtain rfl : table.update old.id true = next := congrArg Prod.snd isOutcome
      exact (reactivation_binds_iff reactivates).mpr (ownSubject old reactivates)
    by_cases created : Unlinked setting attempt table provider userId data.sub ∧
        knownIncludingInactive setting attempt table userId provider = none ∧
        Creates setting users attempt table provider userId data.sub
    · obtain ⟨unlinked, notKnown, creates⟩ := created
      obtain ⟨made, isCreated, isMade⟩ := createIntegration_creates creates
      rw [linkToUser_creates unlinked notKnown, isMade] at isOutcome
      obtain rfl : made = next := congrArg Prod.snd isOutcome
      exact create_binds unlinked.noneBySub isCreated
    · obtain ⟨error, isError⟩ := linkToUser_refused
        (fun old reactivates => reactivated ⟨old, reactivates⟩)
        (fun unlinked notKnown creates => created ⟨unlinked, notKnown, creates⟩)
      rw [isError] at isOutcome
      cases isOutcome

theorem handleUserIntegration_binds_iff (users : List SocialUser) (data : ProviderUserData)
    (request : SocialRequest) :
    (∀ result next user,
        outcome (handleUserIntegration setting users attempt provider data request) table =
          (.ok result, next) → result.success = true → result.user = some user →
      BindsPresented setting.firstRow table next provider data.sub user._id) ↔
      ∀ userId row user,
        RelinksActive setting users attempt table provider data request userId row user →
          row.provider_sub = database.castSub data.sub := by
  constructor
  · intro binds userId row user relinks
    have isBound := binds _ _ user (handleUserIntegration_relinks relinks) rfl rfl
    rw [findUserById_id relinks.isUser] at isBound
    exact (reactivation_binds_iff relinks.reactivates).mp isBound
  · intro ownSubject result next user isOutcome succeeds isUser
    have ends : HandleEnds setting users attempt table provider data request _ _ :=
      handleUserIntegration_ends provider data request
    rw [isOutcome] at ends
    cases ends with
    | unsuccessful _ notSignedIn _ =>
      rw [show result.success = false from notSignedIn] at succeeds
      cases succeeds
    | existing row found bySub isFound =>
      obtain rfl : found = user := Option.some.inj isUser
      obtain ⟨isRow, _, _, isActive⟩ := findByProviderSub_mem bySub
      exact
        { found := ⟨row, isRow, bySub, isActive, (findUserById_id isFound).symm⟩
          noOther := fun other method _ signsIn => signsIn }
    | relinked userId row found _ relinks isNext =>
      obtain rfl : found = user := Option.some.inj isUser
      rw [findUserById_id relinks.isUser, show next = table.update row.id true from isNext]
      exact (reactivation_binds_iff relinks.reactivates).mpr
        (ownSubject userId row found relinks)
    | linked userId found _ links _ isFound isCreated =>
      obtain rfl : found = user := Option.some.inj isUser
      rw [findUserById_id isFound]
      exact create_binds links.unlinked.noneBySub isCreated
    | autoLinked found _ autoLinks isCreated =>
      obtain rfl : found = user := Option.some.inj isUser
      exact create_binds autoLinks.creates.noneBySub isCreated

end Bindings

/-- `linkToUser` and `handleUserIntegration` bind the account that was presented, whenever they
succeed, exactly where an old integration of the user's that they activate again is one of that
same account. -/
theorem links_bind_presented_iff (setting : SocialSetting) (users : List SocialUser)
    (attempt : Attempt) (table : IntegrationTable database) (provider : IntegrationMethod)
    (data : ProviderUserData) (request : SocialRequest) (userId : String) :
    ((∀ row next, outcome (linkToUser setting users attempt provider userId data) table =
          (.ok row, next) →
        BindsPresented setting.firstRow table next provider data.sub userId) ↔
      ∀ row, Reactivates setting attempt table provider userId data.sub row →
        row.provider_sub = database.castSub data.sub) ∧
    ((∀ result next user,
        outcome (handleUserIntegration setting users attempt provider data request) table =
            (.ok result, next) → result.success = true → result.user = some user →
          BindsPresented setting.firstRow table next provider data.sub user._id) ↔
      ∀ activeId row user,
        RelinksActive setting users attempt table provider data request activeId row user →
          row.provider_sub = database.castSub data.sub) :=
  ⟨linkToUser_binds_iff users userId data, handleUserIntegration_binds_iff users data request⟩

def defaultBehavior : SocialBehaviorConfig where
  existingUserNoIntegration := .require_manual_link
  noUserAccount := .allow_registration
  missingContactInfo := .redirect_to_form
  allowMultipleProviders := true
  showHelpfulErrors := false
  maxProvidersPerUser := 5

def defaultSetting : SocialSetting where
  firstRow := Tables.firstInserted
  firstUser := Tables.firstInserted
  toLowerCase := fun text => text.map Char.toLower
  toText := fun _ => "5"
  config := defaultBehavior

def undisturbed : Attempt := ⟨fun _ => false, 0⟩

def ada : SocialUser := ⟨"ada", some "ada@example.org", true⟩

def googleProfile (sub : String) : ProviderUserData :=
  ⟨sub, some "ada@example.org", some true, none⟩

def unlinkedOnce : IntegrationTable .sqlite :=
  ((IntegrationTable.empty.create? ⟨"ada", .google, "old"⟩ 0).getD .empty).update 0 false

theorem old_account_signs_in :
    (∃ row, outcome (linkToUser defaultSetting [ada] undisturbed .google "ada"
        (googleProfile "new")) unlinkedOnce = (.ok row, unlinkedOnce.update 0 true)) ∧
      ¬SignsInAs Tables.firstInserted unlinkedOnce .google "old" "ada" ∧
      SignsInAs Tables.firstInserted (unlinkedOnce.update 0 true) .google "old" "ada" ∧
      ¬BindsPresented Tables.firstInserted unlinkedOnce (unlinkedOnce.update 0 true) .google "new"
        "ada" := by
  have noneBefore : findByProviderSub Tables.firstInserted unlinkedOnce "old" .google = none := by
    decide +kernel
  have noneAfter : findByProviderSub Tables.firstInserted (unlinkedOnce.update 0 true) "new"
      .google = none := by
    decide +kernel
  refine ⟨⟨⟨0, "ada", .google, "old", false, 0⟩, rfl⟩, ?_, ?_, ?_⟩
  · rintro ⟨row, isFound, _⟩
    rw [noneBefore] at isFound
    cases isFound
  · exact ⟨⟨0, "ada", .google, "old", true, 0⟩, by decide +kernel, rfl⟩
  · intro binds
    obtain ⟨row, _, isFound, _⟩ := binds.found
    rw [noneAfter] at isFound
    cases isFound

end ParakoId.SocialAccounts
