import ParakoId.ConfigManager.Freshness

/-!
What a rejected update leaves behind: the catch block restores the cache that the call found,
and nothing else.
-/

namespace ParakoId.ConfigManager

open Shadows (Traceless act enter)

def Atomic (manager : Manager) : Prop :=
  ∀ rejection ∈ manager.rejections, rejection.actual = rejection.expected

def Untraced (manager : Manager) : Prop :=
  ∀ id call, manager.updates id = some call → call.acted = false → Traceless manager.world id

inductive CallChange (before after : Manager) : Prop
  | others (effect : Shared → Shared)
      (world : after.world = before.world ∨ after.world = act none effect before.world)
      (updates : after.updates = before.updates)
      (rejections : after.rejections = before.rejections)
  | enters (id : Nat) (call : UpdateCall) (world : after.world = enter id before.world)
      (updates : after.updates = Function.update before.updates id (some call))
      (rejections : after.rejections = before.rejections)
  | continues (id : Nat) (call next : UpdateCall) (effect : Shared → Shared)
      (isCall : before.updates id = some call)
      (world : (after.world = before.world ∧ (next.acted = false → call.acted = false)) ∨
        (after.world = act (some id) effect before.world ∧ next.acted = true))
      (updates : after.updates = Function.update before.updates id (some next))
      (rejections : after.rejections = before.rejections)
  | ends (id : Nat) (world : after.world = before.world)
      (updates : after.updates = Function.update before.updates id none)
      (rejections : after.rejections = before.rejections)
  | rejects (id : Nat) (call : UpdateCall) (isCall : before.updates id = some call)
      (isRejected : after = reject id call before)

theorem CallChange.untraced {before after : Manager} (change : CallChange before after)
    (untraced : Untraced before) : Untraced after := by
  intro id call isCall quiet
  cases change with
  | others effect world updates _ =>
    rw [updates] at isCall
    have traceless := untraced id call isCall quiet
    rcases world with same | acts
    · rwa [same]
    · rw [acts]
      exact traceless.act_other (by simp) effect
  | enters entering entered world updates _ =>
    rw [world]
    rw [updates] at isCall
    by_cases same : id = entering
    · rw [same]
      exact Traceless.enter_self before.world entering
    · rw [Function.update_of_ne same] at isCall
      exact (untraced id call isCall quiet).enter_other same
  | continues moving _ next effect wasCall world updates _ =>
    rw [updates] at isCall
    by_cases same : id = moving
    · subst same
      rw [Function.update_self] at isCall
      injection isCall with isNext
      subst isNext
      rcases world with ⟨unchanged, stays⟩ | ⟨_, acted⟩
      · rw [unchanged]
        exact untraced id _ wasCall (stays quiet)
      · rw [quiet] at acted
        cases acted
    · rw [Function.update_of_ne same] at isCall
      have traceless := untraced id call isCall quiet
      rcases world with ⟨unchanged, _⟩ | ⟨acts, _⟩
      · rwa [unchanged]
      · rw [acts]
        exact traceless.act_other (by simpa using Ne.symm same) effect
  | ends ended world updates _ =>
    rw [updates] at isCall
    rw [world]
    by_cases same : id = ended
    · rw [same, Function.update_self] at isCall
      cases isCall
    · rw [Function.update_of_ne same] at isCall
      exact untraced id call isCall quiet
  | rejects rejected rejectedCall _ isRejected =>
    subst isRejected
    have remaining : Function.update before.updates rejected none id = some call := isCall
    by_cases same : id = rejected
    · rw [same, Function.update_self] at remaining
      cases remaining
    · rw [Function.update_of_ne same] at remaining
      exact (untraced id call remaining quiet).act_other (by simpa using Ne.symm same) _

theorem CallChange.refl (manager : Manager) : CallChange manager manager :=
  .others id (.inl rfl) rfl rfl

theorem CallChange.quiet {before after : Manager} (world : after.world = before.world)
    (updates : after.updates = before.updates) (rejections : after.rejections = before.rejections) :
    CallChange before after :=
  .others id (.inl world) updates rejections

theorem loads_calls (pipeline : Pipeline) (manager : Manager) (id : Nat) (tenantId : String) :
    CallChange manager (ensureTenantConfig pipeline id tenantId manager) ∧
      CallChange manager (overridesRead id manager) ∧
      CallChange manager (loadStores pipeline id manager) ∧
      CallChange manager (loadFails id manager) ∧ CallChange manager (lockReleased id manager) := by
  refine ⟨?_, ?_, ?_, ?_, ?_⟩
  · simp only [ensureTenantConfig]
    split
    · exact .refl manager
    · split
      · exact .quiet rfl rfl rfl
      · exact .others _ (.inr rfl) rfl rfl
  · simp only [overridesRead]
    split
    · split
      · exact .quiet rfl rfl rfl
      · exact .refl manager
    · exact .refl manager
  · simp only [loadStores]
    split
    · split
      · exact .others _ (.inr rfl) rfl rfl
      · exact .refl manager
    · exact .refl manager
  · simp only [loadFails]
    split
    · exact .quiet rfl rfl rfl
    · exact .refl manager
  · simp only [lockReleased]
    split
    · split
      · exact .quiet rfl rfl rfl
      · exact .refl manager
    · exact .refl manager

theorem update_calls (id : Nat) (changes : Json) (expectedVersion : Option Nat)
    (manager : Manager) : CallChange manager (update id changes expectedVersion manager) := by
  simp only [update]
  split
  · exact .refl manager
  · exact .enters id _ rfl rfl rfl

section Calls

variable {id : Nat} {call : UpdateCall} {manager : Manager}
  (isCall : manager.updates id = some call)
include isCall

theorem CallChange.waits (next : UpdateCall) (acted : next.acted = call.acted) :
    CallChange manager (withUpdate id next manager) :=
  .continues id call next (fun shared => shared) isCall
    (.inl ⟨rfl, fun quiet => by rwa [acted] at quiet⟩) rfl rfl

omit isCall in
theorem attempt_acted (call : UpdateCall) (number : Nat) :
    (attempt call number).acted = call.acted := by
  simp only [attempt]
  split
  · rfl
  · rfl

theorem retry_calls (number : Nat) : CallChange manager (retry id call number manager) := by
  simp only [retry]
  split
  · exact .waits isCall _ (attempt_acted call _)
  · exact .rejects id call isCall rfl

theorem continueUpdate_calls (pipeline : Pipeline) :
    CallChange manager (continueUpdate pipeline id call manager) := by
  simp only [continueUpdate]
  split
  case h_1 =>
    split
    · exact .waits isCall _ (attempt_acted call 1)
    · exact .refl manager
  case h_2 => exact .waits isCall _ rfl
  case h_3 =>
    split
    · split
      · exact .waits isCall _ rfl
      · exact .rejects id call isCall rfl
    · split
      · exact .continues id call _ _ isCall (.inr ⟨rfl, rfl⟩) rfl rfl
      · exact .rejects id call isCall rfl
  case h_4 =>
    split
    · exact retry_calls isCall _
    · exact .continues id call _ _ isCall (.inr ⟨rfl, rfl⟩) rfl rfl
  case h_5 =>
    split
    · exact retry_calls isCall _
    · exact .continues id call _ _ isCall (.inr ⟨rfl, rfl⟩) rfl rfl
  case h_6 =>
    split
    · exact .waits isCall _ rfl
    · exact .rejects id call isCall rfl
  case h_7 =>
    split
    · exact .continues id call _ _ isCall (.inr ⟨rfl, rfl⟩) rfl rfl
    · exact .rejects id call isCall rfl
  case h_8 => exact .ends id rfl rfl rfl

theorem failUpdate_calls : CallChange manager (failUpdate id call manager) := by
  simp only [failUpdate]
  split
  · exact .refl manager
  · exact .rejects id call isCall rfl

end Calls

theorem failReload_calls (id : Nat) (call : Reload) (manager : Manager) :
    CallChange manager (failReload id call manager) := by
  simp only [failReload]
  split
  · exact .others _ (.inr rfl) rfl rfl
  · exact .quiet rfl rfl rfl

theorem continueReload_calls (pipeline : Pipeline) (id : Nat) (call : Reload)
    (manager : Manager) : CallChange manager (continueReload pipeline id call manager) := by
  simp only [continueReload]
  split
  · split
    · exact .quiet rfl rfl rfl
    · split
      · exact .others _ (.inr rfl) rfl rfl
      · exact failReload_calls id call manager
  · split
    · exact .others _ (.inr rfl) rfl rfl
    · exact failReload_calls id call manager
  · exact .quiet rfl rfl rfl

theorem handleDbProviderChange_calls (id : Nat) (manager : Manager) :
    CallChange manager (handleDbProviderChange id manager) := by
  simp only [handleDbProviderChange]
  split
  · exact .refl manager
  · split
    · exact .quiet rfl rfl rfl
    · exact .refl manager

theorem reload_calls (id : Nat) (manager : Manager) : CallChange manager (reload id manager) := by
  simp only [reload]
  split
  · exact .refl manager
  · exact .quiet rfl rfl rfl

theorem step_calls (pipeline : Pipeline) (manager : Manager) (event : Event) :
    CallChange manager (step pipeline manager event) := by
  cases event with
  | ensureTenantConfig id tenantId => exact (loads_calls pipeline manager id tenantId).1
  | overridesRead id => exact (loads_calls pipeline manager id "").2.1
  | loadStores id => exact (loads_calls pipeline manager id "").2.2.1
  | loadFails id => exact (loads_calls pipeline manager id "").2.2.2.1
  | lockReleased id => exact (loads_calls pipeline manager id "").2.2.2.2
  | overridesSaved tenantId document => exact .quiet rfl rfl rfl
  | invalidateTenantConfig _ | clearTenantConfigs | settingsSaved _ =>
    exact .others _ (.inr rfl) rfl rfl
  | update id changes expectedVersion => exact update_calls id changes expectedVersion manager
  | updateContinues id =>
    simp only [step]
    split
    next call isCall => exact continueUpdate_calls isCall pipeline
    next => exact .refl manager
  | updateFails id =>
    simp only [step]
    split
    next call isCall => exact failUpdate_calls isCall
    next => exact .refl manager
  | reload id => exact reload_calls id manager
  | handleDbProviderChange id => exact handleDbProviderChange_calls id manager
  | reloadContinues id =>
    simp only [step]
    split
    · exact continueReload_calls pipeline id _ manager
    · exact .refl manager
  | reloadFails id =>
    simp only [step]
    split
    · exact failReload_calls id _ manager
    · exact .refl manager

def RejectsEarly (pipeline : Pipeline) (manager : Manager) (event : Event) : Prop :=
  ∀ id call, manager.updates id = some call →
    step pipeline manager event = reject id call manager →
      call.acted = false ∧ manager.shared.cache = call.previousCache

theorem restore_same {shared : Shared} {previous : Json} (same : shared.cache = previous) :
    shared.restore previous = shared := by
  rw [Shared.restore, ← same]

theorem step_atomic (pipeline : Pipeline) {manager : Manager} {event : Event}
    (untraced : Untraced manager) (atomic : Atomic manager)
    (early : RejectsEarly pipeline manager event) : Atomic (step pipeline manager event) := by
  cases step_calls pipeline manager event with
  | others _ _ _ rejections => rwa [Atomic, rejections]
  | enters _ _ _ _ rejections => rwa [Atomic, rejections]
  | continues _ _ _ _ _ _ _ rejections => rwa [Atomic, rejections]
  | ends _ _ _ rejections => rwa [Atomic, rejections]
  | rejects id call isCall isRejected =>
    obtain ⟨quiet, cacheKept⟩ := early id call isCall isRejected
    have traceless := untraced id call isCall quiet
    rw [isRejected]
    intro rejection member
    rcases List.mem_cons.mp member with isNew | earlier
    · rw [isNew]
      calc Shared.restore call.previousCache manager.world.store
          = manager.world.store := restore_same cacheKept
        _ = manager.world.shadow id := traceless.symm
        _ = (act (some id) (Shared.restore call.previousCache) manager.world).shadow id :=
            (Shadows.shadow_act_self id _ manager.world).symm
    · exact atomic rejection earlier

/-- Over every interleaving in which updates reject before they have reached the settings
document, and before anybody else has replaced the cache, every rejected update leaves the
cache, the settings document and the tenant caches as they would be without it. -/
theorem always_atomic (pipeline : Pipeline) (shared : Shared) (overrides : String → Option Json)
    (events : List Event)
    (early : Runs.AllowedFrom (step pipeline) (RejectsEarly pipeline)
      (Manager.start shared overrides) events) :
    Runs.AlwaysFrom (step pipeline) Atomic (Manager.start shared overrides) events := by
  have keeps : ∀ manager event, (Untraced manager ∧ Atomic manager) →
      RejectsEarly pipeline manager event →
        Untraced (step pipeline manager event) ∧ Atomic (step pipeline manager event) := by
    rintro manager event ⟨untraced, atomic⟩ allowed
    exact ⟨(step_calls pipeline manager event).untraced untraced,
      step_atomic pipeline untraced atomic allowed⟩
  have initial : Untraced (Manager.start shared overrides) ∧
      Atomic (Manager.start shared overrides) := by
    constructor
    · intro id call isCall _
      cases isCall
    · intro rejection member
      cases member
  exact (Runs.always_of_allowed (step pipeline) keeps initial early).mono _ fun _ both => both.2

def savedShared : Shared :=
  ⟨.obj [] fun _ => .null, ⟨some (.obj [] fun _ => .null), 1⟩, fun _ => none⟩

def strictPipeline : Pipeline := { plainPipeline with parse := fun _ => none }

def updateUntilSave : List Event :=
  [.update 0 .null none, .updateContinues 0, .updateContinues 0, .updateContinues 0]

theorem rejectsEarly_of_alone {pipeline : Pipeline} {manager : Manager} {event : Event}
    {call : UpdateCall} (isCall : manager.updates 0 = some call)
    (alone : ∀ id, id ≠ 0 → manager.updates id = none) (quiet : call.acted = false)
    (kept : manager.shared.cache = call.previousCache) : RejectsEarly pipeline manager event := by
  intro id other isOther _
  by_cases same : id = 0
  · subst same
    rw [isCall] at isOther
    injection isOther with isSame
    rw [← isSame]
    exact ⟨quiet, kept⟩
  · rw [alone id same] at isOther
    cases isOther

theorem invalidUpdate_isAtomic :
    Runs.AlwaysFrom (step strictPipeline) Atomic (Manager.start savedShared fun _ => none)
      updateUntilSave := by
  have others : ∀ {table : Nat → Option UpdateCall} {call : Option UpdateCall},
      (∀ id, id ≠ 0 → table id = none) → ∀ id, id ≠ 0 → Function.update table 0 call id = none :=
    fun alone id different => (Function.update_of_ne different _ _).trans (alone id different)
  have none : ∀ id, id ≠ 0 → (Manager.start savedShared fun _ => none).updates id = none :=
    fun _ _ => rfl
  apply always_atomic
  refine ⟨?_, ?_, ?_, ?_, trivial⟩
  · intro id call isCall
    cases isCall
  · exact rejectsEarly_of_alone rfl (others none) rfl rfl
  · exact rejectsEarly_of_alone rfl (others (others none)) rfl rfl
  · exact rejectsEarly_of_alone rfl (others (others (others none))) rfl rfl

theorem lateRejection_isTorn :
    let events := updateUntilSave ++ [.updateContinues 0, .updateContinues 0, .updateFails 0]
    let manager := Runs.run (step plainPipeline) (Manager.start savedShared fun _ => none) events
    manager.shared.settings.version = 2 ∧ manager.shared.cache = savedShared.cache ∧
      ¬ Runs.AlwaysFrom (step plainPipeline) Atomic (Manager.start savedShared fun _ => none)
        events := by
  refine ⟨rfl, rfl, ?_⟩
  intro always
  have atomic := always.final
  have same := atomic _ List.mem_cons_self
  have versions := congrArg (fun shared => shared.settings.version) same
  cases versions

end ParakoId.ConfigManager
