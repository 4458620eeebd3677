import ParakoId.SettingsVersions.Saves
import ParakoId.TenantOverrides.PlatformRules

/-! Saves of a tenant's overrides beside each other. -/

namespace ParakoId.TenantOverrides

open Interleavings (Machine Shared Event)
open Runs (AlwaysFrom AllowedFrom)
open SettingsVersions (Repository SaveCall SaveInput VersionRow VersionTable saveTurn)

def MANAGED_OVERRIDE_FIELDS : List String := [
  "_id",
  "id",
  "tenant_id",
  "key",
  "version",
  "_version",
  "is_active",
  "metadata",
  "created_at",
  "updated_at",
  "__v",
  "__proto__",
  "constructor",
  "prototype"]

def overrideContent : Json → Json
  | .obj keys value => .obj (keys.filter (· ∉ MANAGED_OVERRIDE_FIELDS)) value
  | other => other

inductive OverrideCall
  | notStarted
  | findActive (environment : Environment) (constrained : Json)
  | saving (existing : Option Json) (encrypted : Json) (call : SaveCall Json)
  | failed (message : Option String)

inductive OverrideInput
  | start (environment : Environment) (overrides : Json) (platformConfig : Option Json)
  | resolve
  | reject

def saveRequest (existing : Option Json) (encrypted : Json) : SettingsVersions.SaveRequest Json where
  value := overrideContent (mergeSections existing encrypted)
  expectedVersion := none
  read := none

section Machine

variable (repository : Repository) (firstRow : Tables.FirstRow (VersionRow Json))
  (tenantId : String)

@[grind =]
def overrideTurn (table : VersionTable Json) :
    OverrideCall → OverrideInput → VersionTable Json × OverrideCall
  | .notStarted, .start environment overrides platformConfig =>
    match constrainOverrides environment overrides platformConfig with
    | .ok constrained => (table, .findActive environment constrained.result)
    | .error message => (table, .failed (some message))
  | .findActive environment constrained, .resolve =>
    let existing := (table.findActive tenantId).map VersionRow.value
    match encryptSensitiveFields environment constrained existing with
    | .ok encrypted =>
      (table, .saving existing encrypted (.deactivate (saveRequest existing encrypted) 0))
    | .error message => (table, .failed (some message))
  | .findActive _ _, .reject => (table, .failed none)
  | .saving existing encrypted call, .resolve =>
    let next := saveTurn repository firstRow tenantId table call .resolve
    (next.1, .saving existing encrypted next.2)
  | .saving existing encrypted call, .reject =>
    let next := saveTurn repository firstRow tenantId table call .reject
    (next.1, .saving existing encrypted next.2)
  | call, _ => (table, call)

def overrideMachine : Machine (VersionTable Json) OverrideCall OverrideInput Empty where
  turn := overrideTurn repository firstRow tenantId
  outside table _ := table

end Machine

def beforeOverrides (table : VersionTable Json) : Shared (VersionTable Json) OverrideCall where
  store := table
  calls _ := .notStarted

def OverrideCall.saved : OverrideCall → Option Json
  | .saving _ encrypted (.succeeded _ _) => some encrypted
  | _ => none

def OverrideCall.isSettled : OverrideCall → Bool
  | .notStarted | .saving _ _ (.succeeded _ _) => true
  | _ => false

def Touches (change : Json) (name : String) : Prop :=
  name ∈ ALLOWED_OVERRIDE_SECTIONS ∧ (change.property name).isSome = true

instance (change : Json) (name : String) : Decidable (Touches change name) :=
  inferInstanceAs (Decidable (_ ∧ _))

def UntouchedByOthers (calls : Nat → OverrideCall) (id : Nat) (name : String) : Prop :=
  ∀ other, other ≠ id → ∀ change, (calls other).saved = some change → ¬Touches change name

def lastDocument (table : VersionTable Json) (tenantId : String) : Option Json :=
  (table.ofKey tenantId).getLast?.map VersionRow.value

/-- The document that was stored last has the values of every save that has reported success, in
the sections that no other of them touches; and once all saves have, it is the one that is
active. -/
structure KeepsUpdates (tenantId : String) (state : Shared (VersionTable Json) OverrideCall) :
    Prop where
  contains : ∀ id change, (state.calls id).saved = some change →
    ∀ name, Touches change name → UntouchedByOthers state.calls id name →
      (lastDocument state.store tenantId).bind (Json.property name) = change.property name
  active : ∀ id change, (state.calls id).saved = some change →
    (∀ other, (state.calls other).isSettled = true) →
      (state.store.findActive tenantId).map VersionRow.value =
        lastDocument state.store tenantId

/-- A save that gets to store its document had read one with the values of every save that has
reported success by now, in the sections that neither it nor another of them touches. -/
def ReadsEarlier (tenantId : String) (state : Shared (VersionTable Json) OverrideCall) :
    Event OverrideInput Empty → Prop
  | .turn id .resolve =>
    ∀ existing encrypted request attempt claimed latest seen,
      state.calls id = .saving existing encrypted
        (.create request attempt claimed latest seen) →
      state.store.findActive tenantId = none →
        ∀ other change, (state.calls other).saved = some change → ∀ name, Touches change name →
          UntouchedByOthers state.calls other name → ¬Touches encrypted name →
            storedSection existing name = change.property name
  | _ => True

theorem sections_unmanaged : ∀ name ∈ ALLOWED_OVERRIDE_SECTIONS, name ∉ MANAGED_OVERRIDE_FIELDS := by
  decide

theorem property_overrideContent (document : Json) {name : String}
    (isSection : name ∈ ALLOWED_OVERRIDE_SECTIONS) :
    (overrideContent document).property name = document.property name := by
  have unmanaged := sections_unmanaged name isSection
  cases document with
  | obj keys value => simp [overrideContent, Json.property, unmanaged]
  | _ => rfl

theorem property_carriedSections (existing : Option Json) {name : String}
    (isSection : name ∈ ALLOWED_OVERRIDE_SECTIONS) :
    (carriedSections existing).property name = storedSection existing name := by
  cases isStored : storedSection existing name with
  | none => simp [carriedSections, Json.property, isStored]
  | some value => simp [carriedSections, Json.property, isStored, isSection]

theorem property_saveRequest (existing : Option Json) (encrypted : Json) {name : String}
    (isSection : name ∈ ALLOWED_OVERRIDE_SECTIONS) :
    (saveRequest existing encrypted).value.property name =
      if Touches encrypted name then encrypted.property name else storedSection existing name := by
  have carried := property_carriedSections existing isSection
  rw [saveRequest, property_overrideContent _ isSection]
  cases encrypted with
  | obj keys value =>
    by_cases touched : name ∈ keys
    · simp [Touches, mergeSections, carriedSections, Json.property, touched, isSection]
    · simpa [Touches, mergeSections, carriedSections, Json.property, touched] using carried
  | _ => simpa [Touches, mergeSections, Json.property] using carried

section Documents

variable {table next : VersionTable Json} {tenantId : String}

theorem lastDocument_create {int_version : Int} {value : Json}
    (isCreated : table.create? tenantId int_version value = some next) :
    lastDocument next tenantId = some value := by
  simp [lastDocument, VersionTable.ofKey, (VersionTable.create?_some isCreated).2.2,
    List.filter_append]

theorem created_of_free (int_version : Int) (value : Json)
    (free : table.findActive tenantId = none) :
    ∃ next, table.create? tenantId int_version value = some next := by
  cases isCreated : table.create? tenantId int_version value with
  | none => exact absurd free (VersionTable.create?_none isCreated)
  | some next => exact ⟨next, rfl⟩

theorem findActive_create {int_version : Int} {value : Json}
    (isCreated : table.create? tenantId int_version value = some next) :
    (next.findActive tenantId).map VersionRow.value = some value := by
  obtain ⟨free, _, rows⟩ := VersionTable.create?_some isCreated
  have unmatched : table.rows.find? (fun row => row.key == tenantId && row.is_active) = none := free
  simp [VersionTable.findActive, rows, List.find?_append, unmatched]

theorem lastDocument_of_history (same : next.history = table.history) :
    lastDocument next tenantId = lastDocument table tenantId := by
  have fromHistory (rows : VersionTable Json) : lastDocument rows tenantId =
      (rows.history.filter fun row => row.key == tenantId).getLast?.map VersionRow.value := by
    rw [lastDocument, VersionTable.ofKey, VersionTable.history, List.filter_map,
      List.getLast?_map, Option.map_map]
    rfl
  rw [fromHistory, fromHistory, same]

end Documents

inductive OverrideStep (repository : Repository) (tenantId : String) (table : VersionTable Json)
    (call : OverrideCall) (input : OverrideInput) : VersionTable Json × OverrideCall → Prop
  | kept : OverrideStep repository tenantId table call input (table, call)
  | goesOn {next : VersionTable Json} {later : OverrideCall} (same : next.history = table.history)
      (unsaved : call.saved = none) (unsettled : later.isSettled = false) :
      OverrideStep repository tenantId table call input (next, later)
  | stored {existing : Option Json} {encrypted : Json} {request : SettingsVersions.SaveRequest Json}
      {attempt seen : Nat} {claimed : List (VersionRow Json)} {latest : Option (VersionRow Json)}
      {next : VersionTable Json}
      (isCall : call = .saving existing encrypted (.create request attempt claimed latest seen))
      (isInput : input = .resolve)
      (isCreated : table.create? tenantId (repository.nextVersion latest) request.value =
        some next) :
      OverrideStep repository tenantId table call input
        (next, .saving existing encrypted (.succeeded request claimed))

section Turns

variable {repository : Repository} {firstRow : Tables.FirstRow (VersionRow Json)}
  {tenantId : String}

theorem saving_resolve_step (table : VersionTable Json) (existing : Option Json) (encrypted : Json)
    (call : SaveCall Json) :
    OverrideStep repository tenantId table (.saving existing encrypted call) .resolve
      (overrideTurn repository firstRow tenantId table (.saving existing encrypted call)
        .resolve) := by
  simp only [overrideTurn]
  cases call with
  | notStarted read => exact .goesOn rfl rfl rfl
  | deactivate request attempt =>
    simp only [saveTurn]
    split
    · exact .goesOn (SettingsVersions.history_deactivate _ _) rfl rfl
    · exact .goesOn (SettingsVersions.history_deactivate _ _) rfl rfl
    · exact .goesOn rfl rfl rfl
  | findLatest request attempt claimed =>
    refine .goesOn rfl rfl ?_
    simp only [saveTurn, SettingsVersions.afterLatest]
    split
    · rfl
    · split <;> rfl
  | create request attempt claimed latest seen =>
    simp only [saveTurn]
    split
    · rename_i next isCreated
      exact .stored rfl rfl isCreated
    · refine .goesOn rfl rfl ?_
      rw [SettingsVersions.nextAttempt]
      split <;> rfl
  | succeeded _ _ | failed => exact .kept

theorem overrideTurn_step (table : VersionTable Json) (call : OverrideCall)
    (input : OverrideInput) :
    OverrideStep repository tenantId table call input
      (overrideTurn repository firstRow tenantId table call input) := by
  cases call with
  | notStarted =>
    cases input with
    | start environment overrides platformConfig =>
      simp only [overrideTurn]
      split <;> exact .goesOn rfl rfl rfl
    | _ => exact .kept
  | findActive environment constrained =>
    cases input with
    | resolve =>
      simp only [overrideTurn]
      split <;> exact .goesOn rfl rfl rfl
    | reject => exact .goesOn rfl rfl rfl
    | start environment overrides platformConfig => exact .kept
  | saving existing encrypted call =>
    cases input with
    | resolve => exact saving_resolve_step table existing encrypted call
    | reject =>
      cases call with
      | succeeded request claimed => exact .kept
      | _ => exact .goesOn rfl rfl rfl
    | start environment overrides platformConfig => exact .kept
  | failed message => cases input <;> exact .kept

def OverrideCall.HandsOver : OverrideCall → Prop
  | .saving existing encrypted (.deactivate request _)
  | .saving existing encrypted (.findLatest request _ _)
  | .saving existing encrypted (.create request _ _ _ _) =>
    request = saveRequest existing encrypted
  | _ => True

theorem overrideTurn_handsOver (table : VersionTable Json) {call : OverrideCall}
    (input : OverrideInput) (handsOver : call.HandsOver) :
    (overrideTurn repository firstRow tenantId table call input).2.HandsOver := by
  cases call with
  | notStarted =>
    cases input with
    | start environment overrides platformConfig =>
      simp only [overrideTurn]
      split <;> trivial
    | _ => trivial
  | findActive environment constrained =>
    cases input with
    | resolve =>
      simp only [overrideTurn]
      split
      · exact rfl
      · trivial
    | _ => trivial
  | saving existing encrypted call =>
    cases input with
    | resolve =>
      simp only [overrideTurn]
      cases call with
      | deactivate request attempt =>
        simp only [saveTurn]
        split <;> exact handsOver
      | findLatest request attempt claimed =>
        simp only [saveTurn, SettingsVersions.afterLatest]
        split
        · trivial
        · split <;> exact handsOver
      | create request attempt claimed latest seen =>
        simp only [saveTurn, SettingsVersions.nextAttempt]
        split
        · trivial
        · split
          · exact handsOver
          · trivial
      | _ => trivial
    | reject => cases call <;> trivial
    | start environment overrides platformConfig => exact handsOver
  | failed message => cases input <;> trivial

end Turns

section Steps

variable {repository : Repository} {firstRow : Tables.FirstRow (VersionRow Json)}
  {tenantId : String} {state : Shared (VersionTable Json) OverrideCall} {id : Nat}

theorem unsaved_of_unsettled {call : OverrideCall} (unsettled : call.isSettled = false) :
    call.saved = none := by
  cases call with
  | saving existing encrypted call =>
    cases call with
    | succeeded request claimed => cases unsettled
    | _ => rfl
  | _ => rfl

def AllHandOver (state : Shared (VersionTable Json) OverrideCall) : Prop :=
  ∀ id, (state.calls id).HandsOver

theorem handOver_step (event : Event OverrideInput Empty) (handOver : AllHandOver state) :
    AllHandOver ((overrideMachine repository firstRow tenantId).step state event) := by
  cases event with
  | turn id input =>
    intro other
    by_cases isOwn : other = id
    · simp only [Machine.step, if_pos isOwn]
      exact overrideTurn_handsOver state.store input (handOver id)
    · simp only [Machine.step, if_neg isOwn]
      exact handOver other
  | outside change => cases change

variable {after : Shared (VersionTable Json) OverrideCall}

theorem keeps_goesOn (keeps : KeepsUpdates tenantId state)
    (same : after.store.history = state.store.history) (unsaved : (state.calls id).saved = none)
    (unsettled : (after.calls id).isSettled = false)
    (others : ∀ other, other ≠ id → after.calls other = state.calls other) :
    KeepsUpdates tenantId after := by
  have sameSaved (other : Nat) : (after.calls other).saved = (state.calls other).saved := by
    by_cases isOwn : other = id
    · rw [isOwn, unsaved, unsaved_of_unsettled unsettled]
    · rw [others other isOwn]
  constructor
  · intro other change isSaved name touched untouched
    rw [lastDocument_of_history same]
    rw [sameSaved] at isSaved
    refine keeps.contains other change isSaved name touched ?_
    intro third different earlier isEarlier
    exact untouched third different earlier (by rw [sameSaved, isEarlier])
  · intro other change isSaved settled
    rw [settled id] at unsettled
    cases unsettled

theorem keeps_stored_iff {existing : Option Json} {encrypted : Json} {int_version : Int}
    {attempt seen : Nat} {claimed : List (VersionRow Json)} {latest : Option (VersionRow Json)}
    (isCall : state.calls id = .saving existing encrypted
      (.create (saveRequest existing encrypted) attempt claimed latest seen))
    (isCreated : state.store.create? tenantId int_version (saveRequest existing encrypted).value =
      some after.store)
    (isNext : after.calls id =
      .saving existing encrypted (.succeeded (saveRequest existing encrypted) claimed))
    (others : ∀ other, other ≠ id → after.calls other = state.calls other) :
    KeepsUpdates tenantId after ↔ ReadsEarlier tenantId state (.turn id .resolve) := by
  have isLast := lastDocument_create isCreated
  have unsaved : (state.calls id).saved = none := by rw [isCall]; rfl
  have isSavedNow : (after.calls id).saved = some encrypted := by rw [isNext]; rfl
  constructor
  · intro keepsAfter read written request _ _ _ _ isRead free
    rw [isCall] at isRead
    obtain ⟨rfl, rfl⟩ : existing = read ∧ encrypted = written := by
      cases isRead
      exact ⟨rfl, rfl⟩
    intro other change isSaved name touched untouched untouchedHere
    have different : other ≠ id := by
      rintro rfl
      rw [unsaved] at isSaved
      cases isSaved
    have contained := keepsAfter.contains other change (by rw [others other different, isSaved])
      name touched ?_
    · rw [isLast, Option.bind_some, property_saveRequest existing encrypted touched.1,
        if_neg untouchedHere] at contained
      exact contained
    · intro third apart later isLater
      by_cases isOwn : third = id
      · rw [isOwn, isSavedNow] at isLater
        cases isLater
        exact untouchedHere
      · rw [others third isOwn] at isLater
        exact untouched third apart later isLater
  · intro readsEarlier
    have free := (VersionTable.create?_some isCreated).1
    have carries := readsEarlier _ _ _ _ _ _ _ isCall free
    constructor
    · intro other change isSaved name touched untouched
      rw [isLast, Option.bind_some, property_saveRequest existing encrypted touched.1]
      by_cases isOwn : other = id
      · rw [isOwn, isSavedNow] at isSaved
        cases isSaved
        exact if_pos touched
      · rw [others other isOwn] at isSaved
        have untouchedHere := untouched id (Ne.symm isOwn) encrypted isSavedNow
        rw [if_neg untouchedHere]
        refine carries other change isSaved name touched ?_ untouchedHere
        intro third apart earlier isEarlier
        have notOwn : third ≠ id := by
          rintro rfl
          rw [unsaved] at isEarlier
          cases isEarlier
        exact untouched third apart earlier (by rw [others third notOwn, isEarlier])
    · intro other change isSaved settled
      rw [isLast, findActive_create isCreated]

def StoresNow (tenantId : String) (table : VersionTable Json) (call : OverrideCall)
    (input : OverrideInput) : Prop :=
  (∃ existing encrypted request attempt claimed latest seen,
    call = .saving existing encrypted (.create request attempt claimed latest seen)) ∧
    input = .resolve ∧ table.findActive tenantId = none

theorem readsEarlier_of_not_stores {input : OverrideInput}
    (notNow : ¬StoresNow tenantId state.store (state.calls id) input) :
    ReadsEarlier tenantId state (.turn id input) := by
  cases input with
  | resolve =>
    intro _ _ _ _ _ _ _ isCall free
    exact absurd ⟨⟨_, _, _, _, _, _, _, isCall⟩, rfl, free⟩ notNow
  | _ => trivial

theorem keeps_of_not_stores (repository : Repository) {input : OverrideInput}
    (keeps : KeepsUpdates tenantId state)
    (notNow : ¬StoresNow tenantId state.store (state.calls id) input)
    (step : OverrideStep repository tenantId state.store (state.calls id) input
      (after.store, after.calls id))
    (others : ∀ other, other ≠ id → after.calls other = state.calls other) :
    KeepsUpdates tenantId after := by
  generalize isNext : (after.store, after.calls id) = next at step
  cases step with
  | kept =>
    obtain ⟨sameStore, sameCall⟩ := Prod.mk.inj isNext
    have sameCalls : after.calls = state.calls := by
      funext other
      by_cases isOwn : other = id
      · rw [isOwn, sameCall]
      · exact others other isOwn
    have same : after = state := by
      cases after
      cases state
      simp_all
    rwa [same]
  | goesOn same unsaved unsettled =>
    obtain ⟨rfl, rfl⟩ := Prod.mk.inj isNext
    exact keeps_goesOn keeps same unsaved unsettled others
  | stored isCall isInput isCreated =>
    have free := (VersionTable.create?_some isCreated).1
    exact absurd ⟨⟨_, _, _, _, _, _, _, isCall⟩, isInput, free⟩ notNow

theorem keeps_step_iff (event : Event OverrideInput Empty)
    (handOver : AllHandOver state) (keeps : KeepsUpdates tenantId state) :
    KeepsUpdates tenantId ((overrideMachine repository firstRow tenantId).step state event) ↔
      ReadsEarlier tenantId state event := by
  cases event with
  | turn id input =>
    have others : ∀ other, other ≠ id →
        ((overrideMachine repository firstRow tenantId).step state (.turn id input)).calls
          other = state.calls other := by
      intro other different
      simp [Machine.step, different]
    by_cases now : StoresNow tenantId state.store (state.calls id) input
    · obtain ⟨⟨existing, encrypted, request, attempt, claimed, latest, seen, isCall⟩, rfl, free⟩ :=
        now
      have isRequest : request = saveRequest existing encrypted := by
        have own := handOver id
        rwa [isCall] at own
      subst isRequest
      obtain ⟨next, isCreated⟩ := created_of_free (repository.nextVersion latest)
        (saveRequest existing encrypted).value free
      have isTurn : overrideTurn repository firstRow tenantId state.store (state.calls id)
            .resolve =
          (next, .saving existing encrypted
            (.succeeded (saveRequest existing encrypted) claimed)) := by
        rw [isCall]
        simp only [overrideTurn, saveTurn, isCreated]
      have isStore : ((overrideMachine repository firstRow tenantId).step state
          (.turn id .resolve)).store = next := congrArg Prod.fst isTurn
      refine keeps_stored_iff isCall (isStore ▸ isCreated) ?_ others
      simp only [Machine.step, if_true]
      exact congrArg Prod.snd isTurn
    · refine iff_of_true ?_ (readsEarlier_of_not_stores now)
      have step : OverrideStep repository tenantId state.store (state.calls id) input
          (overrideTurn repository firstRow tenantId state.store (state.calls id) input) :=
        overrideTurn_step state.store (state.calls id) input
      refine keeps_of_not_stores repository keeps now ?_ others
      simp only [Machine.step, if_true]
      exact step
  | outside change => cases change

end Steps

/-- In a run of any number of saves of a tenant's overrides, the document stored last has the
values of every save that has reported success, in the sections that no other touches, exactly
where each save that stores its document had read one that has those of the saves before it. -/
theorem updates_kept_iff (repository : Repository)
    (firstRow : Tables.FirstRow (VersionRow Json)) (tenantId : String) (table : VersionTable Json)
    (events : List (Event OverrideInput Empty)) :
    AlwaysFrom (overrideMachine repository firstRow tenantId).step (KeepsUpdates tenantId)
        (beforeOverrides table) events ↔
      AllowedFrom (overrideMachine repository firstRow tenantId).step (ReadsEarlier tenantId)
        (beforeOverrides table) events := by
  refine Runs.always_iff_allowed _ (fun state event handOver => handOver_step event handOver)
    (fun state event handOver keeps => keeps_step_iff event handOver keeps) ?_ ?_
  · exact fun _ => trivial
  · constructor
    · rintro id change ⟨⟩
    · rintro id change ⟨⟩

def twoSections : List (Event OverrideInput Empty) :=
  [.turn 0 (.start plainEnvironment (atPath (.bool true) mfaPath) none),
    .turn 1 (.start plainEnvironment (atPath (.str "logo.png") ["branding", "logo"]) none),
    .turn 0 .resolve, .turn 1 .resolve, .turn 0 .resolve, .turn 0 .resolve, .turn 0 .resolve,
    .turn 1 .resolve, .turn 1 .resolve, .turn 1 .resolve]

def afterTwoSections (repository : Repository) : Shared (VersionTable Json) OverrideCall :=
  Runs.run (overrideMachine repository Tables.firstInserted "acme").step (beforeOverrides .empty)
    twoSections

def losesFirst (state : Shared (VersionTable Json) OverrideCall) : Bool :=
  (state.calls 0).saved.any (fun change => (change.property "security").isSome) &&
    (state.calls 1).saved.all (fun change => (change.property "security").isNone) &&
    ((lastDocument state.store "acme").bind (Json.property "security")).isNone

theorem not_kept_of_losesFirst {repository : Repository}
    (loses : losesFirst (afterTwoSections repository) = true) :
    ¬KeepsUpdates "acme" (afterTwoSections repository) := by
  intro keeps
  simp only [losesFirst, Bool.and_eq_true, Option.any_eq_true, Option.all_eq_true,
    Option.isNone_iff_eq_none] at loses
  obtain ⟨⟨⟨change, isSaved, isChanged⟩, apart⟩, isLost⟩ := loses
  have contained := keeps.contains 0 change isSaved "security" ⟨by decide, isChanged⟩ ?_
  · rw [isLost] at contained
    rw [← contained] at isChanged
    cases isChanged
  · intro other different earlier isEarlier touched
    match other with
    | 0 => exact different rfl
    | 1 =>
      rw [Touches, apart earlier isEarlier] at touched
      cases touched.2
    | other + 2 =>
      have unturned : (afterTwoSections repository).calls (other + 2) = .notStarted :=
        Interleavings.run_calls_of_no_turn (by simp [twoSections]) _
      rw [unturned] at isEarlier
      cases isEarlier

theorem concurrent_save_loses_section :
    ¬KeepsUpdates "acme"
        (afterTwoSections SettingsVersions.PrismaTenantSettingsOverrideRepository) ∧
      ¬KeepsUpdates "acme"
        (afterTwoSections SettingsVersions.MongooseTenantSettingsOverrideRepository) :=
  ⟨not_kept_of_losesFirst (by decide +kernel), not_kept_of_losesFirst (by decide +kernel)⟩

end ParakoId.TenantOverrides
