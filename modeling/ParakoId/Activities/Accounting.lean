import ParakoId.Activities.Queue

/-! What becomes of each event. -/

namespace ParakoId.Activities

open Runs (AlwaysFrom AllowedFrom)

def Activity.isCritical (activity : Activity) : Bool :=
  activity.type ∈ criticalEventTypes || activity.type ∈ retriedTypes

def AwaitsRetry (batch : Option Batch) (activity : Activity) : Prop :=
  ∃ running, batch = some running ∧ running.isTimer = true ∧
    match running.retries with
    | none => running.rejected = true ∧ activity ∈ running.items ∧ activity.type ∈ retriedTypes
    | some rest => activity ∈ rest

def Stored (service : ActivityService) (activity : Activity) : Prop :=
  (activity.tenant_id, activity) ∈ service.stored

def Written (writes : List Write) (activity : Activity) : Prop :=
  ∃ write ∈ writes, write.activity = activity

def Held (service : ActivityService) (activity : Activity) : Prop :=
  Stored service activity ∨ activity ∈ service.activityQueue ∨ Written service.writes activity ∨
    AwaitsRetry service.processingBatch activity

structure EventsAccounted (service : ActivityService) : Prop where
  ownTenant : ∀ row ∈ service.stored, row ∈ service.queued
  once : service.stored.Nodup
  critical : ∀ event ∈ service.queued, event.2.isCritical = true → Held service event.2
  others : ∀ event ∈ service.queued, Held service event.2 ∨ event.2 ∈ service.rejected ∨
    event.2 ∈ service.dropped

/-- A critical event that is queued finds room; a write that succeeds is of an event that is not
stored yet; one of a critical event fails only if the event is held otherwise; and the queue is
emptied by a shutdown only when the critical events in it are held otherwise. -/
def KeepsAccount (service : ActivityService) : ActivityEvent → Prop
  | .queueActivity _ type =>
    type ∈ retriedTypes → service.activityQueue.length < MAX_QUEUE_SIZE
  | .resolve index => ∀ write, service.writes[index]? = some write →
      ¬Stored service write.activity
  | .reject index => ∀ write, service.writes[index]? = some write →
      write.activity.isCritical = true →
        Stored service write.activity ∨ write.activity ∈ service.activityQueue ∨
          Written (service.writes.eraseIdx index) write.activity ∨
          AwaitsRetry (batchAfter write.owner service.processingBatch) write.activity
  | .resumeShutdown shutdown => service.flushIsOver shutdown = true →
      ∀ activity ∈ service.activityQueue, activity.isCritical = true →
        Stored service activity ∨ Written service.writes activity ∨
          AwaitsRetry service.processingBatch activity
  | _ => True

def Known (service : ActivityService) (activity : Activity) : Prop :=
  (activity.tenant_id, activity) ∈ service.queued

structure KnownBatch (known : Activity → Prop) (batch : Batch) : Prop where
  items : ∀ activity ∈ batch.items, known activity
  retries : ∀ rest, batch.retries = some rest →
    batch.isTimer = true ∧ ∀ activity ∈ rest, known activity

structure Tracked (service : ActivityService) : Prop where
  queue : ∀ activity ∈ service.activityQueue, Known service activity
  writes : ∀ write ∈ service.writes, Known service write.activity
  batch : ∀ batch, service.processingBatch = some batch → KnownBatch (Known service) batch
  stored : ∀ row ∈ service.stored, row ∈ service.queued
  fresh : ∀ event ∈ service.queued, event.2.id < service.nextId

theorem types_apart : ∀ type ∈ retriedTypes, type ∉ criticalEventTypes := by decide

/-- `next` knows the events of `service` and the `added` ones, and holds all but the `lost` ones. -/
structure Carries (service next : ActivityService) (added : List (String × Activity))
    (lost : Activity → Prop) : Prop where
  queued : next.queued = service.queued ++ added
  stored : next.stored = service.stored
  held : ∀ activity, Held service activity → Held next activity ∨ lost activity
  rejected : service.rejected ⊆ next.rejected
  dropped : service.dropped ⊆ next.dropped
  noted : ∀ activity, lost activity → activity ∈ next.rejected ∨ activity ∈ next.dropped

section Steps

variable {service next : ActivityService}

theorem accounted_iff (added : List (String × Activity)) (lost : Activity → Prop)
    (carries : Carries service next added lost) (accounted : EventsAccounted service) :
    EventsAccounted next ↔
      (∀ event ∈ added, (event.2.isCritical = true → Held next event.2) ∧
        (Held next event.2 ∨ event.2 ∈ next.rejected ∨ event.2 ∈ next.dropped)) ∧
      ∀ event ∈ service.queued, lost event.2 → event.2.isCritical = true → Held next event.2 := by
  have queued (event : String × Activity) :
      event ∈ next.queued ↔ event ∈ service.queued ∨ event ∈ added := by
    rw [carries.queued, List.mem_append]
  constructor
  · intro accountedNext
    refine ⟨fun event isAdded => ?_, fun event isOld _ => ?_⟩
    · have isNew := (queued event).mpr (.inr isAdded)
      exact ⟨accountedNext.critical event isNew, accountedNext.others event isNew⟩
    · exact accountedNext.critical event ((queued event).mpr (.inl isOld))
  · rintro ⟨new, kept⟩
    constructor
    · rw [carries.stored]
      exact fun row isStored => (queued row).mpr (.inl (accounted.ownTenant row isStored))
    · rw [carries.stored]
      exact accounted.once
    · intro event member isCritical
      rcases (queued event).mp member with isOld | isAdded
      · rcases carries.held _ (accounted.critical event isOld isCritical) with isHeld | isLost
        · exact isHeld
        · exact kept event isOld isLost isCritical
      · exact (new event isAdded).1 isCritical
    · intro event member
      rcases (queued event).mp member with isOld | isAdded
      · rcases accounted.others event isOld with isHeld | isRejected | isDropped
        · exact (carries.held _ isHeld).imp_right (carries.noted _)
        · exact .inr (.inl (carries.rejected isRejected))
        · exact .inr (.inr (carries.dropped isDropped))
      · exact (new event isAdded).2

def Kept (service next : ActivityService) : Prop := Carries service next [] fun _ => False

theorem accounted_of_kept (kept : Kept service next) (accounted : EventsAccounted service) :
    EventsAccounted next :=
  (accounted_iff _ _ kept accounted).mpr ⟨fun _ isAdded => (nomatch isAdded), fun _ _ => False.elim⟩

theorem kept_of_held (queued : next.queued = service.queued)
    (stored : next.stored = service.stored)
    (held : ∀ activity, Held service activity → Held next activity)
    (rejected : next.rejected = service.rejected) (dropped : next.dropped = service.dropped) :
    Kept service next where
  queued := by rw [queued, List.append_nil]
  stored := stored
  held activity isHeld := .inl (held activity isHeld)
  rejected := by rw [rejected]; exact fun _ => id
  dropped := by rw [dropped]; exact fun _ => id
  noted _ := False.elim

theorem held_mono {activity : Activity} (isHeld : Held service activity)
    (stored : next.stored = service.stored)
    (writes : ∀ activity, Written service.writes activity → Written next.writes activity)
    (queue : ∀ activity ∈ service.activityQueue, Held next activity)
    (awaits : ∀ activity, AwaitsRetry service.processingBatch activity → Held next activity) :
    Held next activity := by
  rcases isHeld with isStored | isQueued | isWritten | isAwaiting
  · rw [Held, Stored, stored]
    exact .inl isStored
  · exact queue activity isQueued
  · exact .inr (.inr (.inl (writes activity isWritten)))
  · exact awaits activity isAwaiting

theorem kept_refl : Kept service service := kept_of_held rfl rfl (fun _ => id) rfl rfl

variable {owner : WriteOwner} {activity : Activity}

theorem written_append {writes : List Write} {items : List Activity} :
    Written (writes ++ items.map fun item => ⟨item, owner⟩) activity ↔
      Written writes activity ∨ activity ∈ items := by
  simp only [Written, List.mem_append, List.mem_map, or_and_right, exists_or]
  refine or_congr Iff.rfl ?_
  constructor
  · rintro ⟨write, ⟨item, isItem, rfl⟩, rfl⟩
    exact isItem
  · intro isItem
    exact ⟨⟨activity, owner⟩, ⟨activity, isItem, rfl⟩, rfl⟩

theorem processBatch_kept (isTimer : Bool) : Kept service (service.processBatch isTimer) := by
  rw [ActivityService.processBatch]
  split
  · exact kept_refl
  · rename_i starts
    refine kept_of_held rfl rfl (fun _ isHeld => held_mono isHeld rfl ?_ ?_ ?_) rfl rfl
    · exact fun _ isWritten => written_append.mpr (.inl isWritten)
    · exact fun _ isQueued => .inr (.inr (.inl (written_append.mpr (.inr isQueued))))
    · rintro activity ⟨batch, isBatch, _⟩
      exact absurd (.inr (by rw [isBatch]; rfl)) starts

theorem written_abandon :
    Written service.abandon.writes activity ↔ Written service.writes activity := by
  simp only [Written, ActivityService.abandon, List.mem_map]
  constructor
  · rintro ⟨_, ⟨write, member, rfl⟩, same⟩
    refine ⟨write, member, ?_⟩
    split at same <;> exact same
  · rintro ⟨write, member, same⟩
    refine ⟨_, ⟨write, member, rfl⟩, ?_⟩
    split <;> exact same

theorem retryNext_kept (batch : Batch) (rest : List Activity) (isTimer : rest ≠ [] →
      batch.isTimer = true)
    (awaiting : ∀ activity, AwaitsRetry service.processingBatch activity → activity ∈ rest) :
    Kept service (service.retryNext batch rest) := by
  cases rest with
  | nil =>
    refine kept_of_held rfl rfl (fun _ isHeld => held_mono isHeld rfl (fun _ => id)
      (fun _ isQueued => .inr (.inl isQueued)) ?_) rfl rfl
    intro activity awaits
    cases awaiting activity awaits
  | cons first rest =>
    refine kept_of_held rfl rfl (fun _ isHeld => held_mono isHeld rfl ?_
      (fun _ isQueued => .inr (.inl isQueued)) ?_) rfl rfl
    · exact fun _ isWritten => written_append.mpr (.inl isWritten)
    · intro activity awaits
      rcases List.mem_cons.mp (awaiting activity awaits) with rfl | isLater
      · exact .inr (.inr (.inl (written_append.mpr (.inr (List.mem_singleton_self _)))))
      · exact .inr (.inr (.inr ⟨_, rfl, isTimer (by simp), isLater⟩))

theorem kept_of_abandon (kept : Kept service.abandon next) : Kept service next :=
  { kept with
    held := fun activity isHeld => kept.held activity <| held_mono isHeld rfl
      (fun _ => written_abandon.mpr) (fun _ isQueued => .inr (.inl isQueued))
      fun _ awaits => .inr (.inr (.inr awaits)) }

theorem mem_criticalLogs {batch : Batch} :
    activity ∈ criticalLogs batch ↔
      batch.isTimer = true ∧ activity ∈ batch.items ∧ activity.type ∈ retriedTypes := by
  rw [criticalLogs]
  split
  · rename_i isTimer
    simp [isTimer]
  · rename_i notTimer
    simp [notTimer]

theorem resume_kept (tracked : Tracked service) : Kept service service.resume := by
  rw [ActivityService.resume]
  split
  · exact kept_refl
  · rename_i batch isBatch
    split
    · rename_i noRetries
      split
      · rename_i isRejected
        refine kept_of_abandon (retryNext_kept batch (criticalLogs batch) ?_ ?_)
        · intro nonempty
          obtain ⟨activity, member⟩ := List.exists_mem_of_ne_nil _ nonempty
          exact (mem_criticalLogs.mp member).1
        · rintro activity ⟨running, isRunning, isTimer, awaits⟩
          obtain rfl : batch = running := Option.some.inj (isBatch.symm.trans isRunning)
          rw [noRetries] at awaits
          exact mem_criticalLogs.mpr ⟨isTimer, awaits.2⟩
      · rename_i notRejected
        split
        · exact kept_refl
        · refine retryNext_kept batch [] (fun nonempty => absurd rfl nonempty) ?_
          rintro activity ⟨running, isRunning, _, awaits⟩
          obtain rfl : batch = running := Option.some.inj (isBatch.symm.trans isRunning)
          rw [noRetries] at awaits
          exact absurd awaits.1 notRejected
    · rename_i rest isRetries
      split
      · exact kept_refl
      · have known := (tracked.batch batch isBatch).retries rest isRetries
        refine retryNext_kept batch rest (fun _ => known.1) ?_
        rintro activity ⟨running, isRunning, _, awaits⟩
        obtain rfl : batch = running := Option.some.inj (isBatch.symm.trans isRunning)
        rw [isRetries] at awaits
        exact awaits

theorem shutdown_kept : Kept service service.shutdown := by
  rw [ActivityService.shutdown]
  split
  · exact kept_of_held rfl rfl (fun _ => id) rfl rfl
  · exact kept_of_held rfl rfl (fun _ isHeld => held_mono isHeld rfl
      (fun _ isWritten => written_append.mpr (.inl isWritten))
      (fun _ isQueued => .inr (.inl isQueued)) fun _ awaits => .inr (.inr (.inr awaits))) rfl rfl

theorem tick_kept : Kept service service.tick := by
  rw [ActivityService.tick]
  split
  · exact processBatch_kept true
  · exact kept_refl

theorem known_of_held (tracked : Tracked service) (isHeld : Held service activity) :
    Known service activity := by
  rcases isHeld with isStored | isQueued | ⟨write, member, rfl⟩ | ⟨batch, isBatch, _, awaits⟩
  · exact tracked.stored _ isStored
  · exact tracked.queue activity isQueued
  · exact tracked.writes write member
  · cases isRetries : batch.retries with
    | none =>
      rw [isRetries] at awaits
      exact (tracked.batch batch isBatch).items activity awaits.2.1
    | some rest =>
      rw [isRetries] at awaits
      exact ((tracked.batch batch isBatch).retries rest isRetries).2 activity awaits

theorem accounted_added_iff {event : String × Activity}
    (carries : Carries service next [event] fun _ => False) (accounted : EventsAccounted service) :
    EventsAccounted next ↔
      (event.2.isCritical = true → Held next event.2) ∧
        (Held next event.2 ∨ event.2 ∈ next.rejected ∨ event.2 ∈ next.dropped) := by
  rw [accounted_iff _ _ carries accounted, List.forall_mem_singleton]
  exact and_iff_left fun _ _ => False.elim

theorem write_carries (tenantId : String) (owner : WriteOwner) (dto : Activity) :
    Carries service ((service.receive tenantId dto).write owner [dto]) [(tenantId, dto)]
      fun _ => False := by
  refine ⟨rfl, rfl, fun activity isHeld => .inl ?_, fun _ => id, fun _ => id, fun _ => False.elim⟩
  exact held_mono isHeld rfl (fun _ isWritten => written_append.mpr (.inl isWritten))
    (fun _ isQueued => .inr (.inl isQueued)) fun _ awaits => .inr (.inr (.inr awaits))

theorem push_carries (tenantId : String) (dto : Activity) :
    Carries service
      { service.receive tenantId dto with activityQueue := service.activityQueue ++ [dto] }
      [(tenantId, dto)] fun _ => False := by
  refine ⟨rfl, rfl, fun activity isHeld => .inl ?_, fun _ => id, fun _ => id, fun _ => False.elim⟩
  exact held_mono isHeld rfl (fun _ => id)
    (fun _ isQueued => .inr (.inl (List.mem_append_left _ isQueued)))
    fun _ awaits => .inr (.inr (.inr awaits))

theorem drop_carries (tenantId : String) (dto : Activity) :
    Carries service
      { service.receive tenantId dto with dropped := service.dropped ++ [dto] }
      [(tenantId, dto)] fun _ => False :=
  ⟨rfl, rfl, fun _ => .inl, fun _ => id, List.subset_append_left _ _, fun _ => False.elim⟩

theorem unknown_next (tracked : Tracked service) {type tenant : String}
    (isNext : Activity.mk service.nextId type tenant = activity) : ¬Known service activity := by
  subst isNext
  exact fun isKnown => Nat.lt_irrefl _ (tracked.fresh _ isKnown)

theorem queueActivity_accounted_iff (tracked : Tracked service)
    (accounted : EventsAccounted service) (tenantId : Option String) (type : String) :
    EventsAccounted (service.queueActivity tenantId type) ↔
      KeepsAccount service (.queueActivity tenantId type) := by
  rw [ActivityService.queueActivity]
  simp only [KeepsAccount]
  generalize tenantId.getD DEFAULT_TENANT_ID = tenant
  generalize isNext : Activity.mk service.nextId type tenant = dto
  split
  · rename_i isDirect
    refine iff_of_true ?_ fun isRetried => absurd isDirect (types_apart type isRetried)
    refine (accounted_added_iff (write_carries _ _ _) accounted).mpr ?_
    have isHeld : Held ((service.receive tenant dto).write .direct [dto]) dto :=
      .inr (.inr (.inl (written_append.mpr (.inr (List.mem_singleton_self _)))))
    exact ⟨fun _ => isHeld, .inl isHeld⟩
  · rename_i notDirect
    split
    · rename_i isFull
      have unknown : ¬Held service dto := fun isHeld =>
        unknown_next tracked isNext (known_of_held tracked isHeld)
      refine (accounted_added_iff (drop_carries _ _) accounted).trans ?_
      constructor
      · rintro ⟨critical, _⟩ isRetried
        exact absurd (critical (by simp [Activity.isCritical, ← isNext, isRetried])) unknown
      · intro hasRoom
        refine ⟨?_, .inr (.inr (List.mem_append_right _ (List.mem_singleton_self _)))⟩
        intro isCritical
        simp only [Activity.isCritical, ← isNext, Bool.or_eq_true,
          decide_eq_true_eq] at isCritical
        rcases isCritical with isDirect | isRetried
        · exact absurd isDirect notDirect
        · exact absurd isFull (Nat.not_le_of_lt (hasRoom isRetried))
    · rename_i hasRoom
      refine iff_of_true ?_ fun _ => Nat.lt_of_not_le hasRoom
      have pushed : EventsAccounted
          { service.receive tenant dto with activityQueue := service.activityQueue ++ [dto] } := by
        refine (accounted_added_iff (push_carries _ _) accounted).mpr ?_
        have isQueued := List.mem_append_right service.activityQueue (List.mem_singleton_self dto)
        exact ⟨fun _ => .inr (.inl isQueued), .inl (.inr (.inl isQueued))⟩
      split
      · exact accounted_of_kept (processBatch_kept false) pushed
      · exact pushed

theorem written_eraseIdx {writes : List Write} {index : Nat} {write : Write}
    (isWrite : writes[index]? = some write) (activity : Activity) :
    Written writes activity ↔
      Written (writes.eraseIdx index) activity ∨ write.activity = activity := by
  obtain ⟨bound, rfl⟩ := List.getElem?_eq_some_iff.mp isWrite
  constructor
  · rintro ⟨other, member, rfl⟩
    obtain ⟨place, placeBound, rfl⟩ := List.mem_iff_getElem.mp member
    by_cases same : place = index
    · subst same
      exact .inr rfl
    · refine .inl ⟨writes[place], ?_, rfl⟩
      exact List.mem_eraseIdx_iff_getElem.mpr ⟨place, placeBound, same, rfl⟩
  · rintro (⟨other, member, rfl⟩ | rfl)
    · exact ⟨other, List.mem_of_mem_eraseIdx member, rfl⟩
    · exact ⟨writes[index], List.getElem_mem bound, rfl⟩

theorem resolve_accounted_iff (tracked : Tracked service) (accounted : EventsAccounted service)
    (index : Nat) :
    EventsAccounted (service.resolve index) ↔ KeepsAccount service (.resolve index) := by
  rw [ActivityService.resolve]
  split
  · rename_i noWrite
    exact iff_of_true accounted fun write isWrite => by cases noWrite.symm.trans isWrite
  · rename_i write isWrite
    have isKnown := tracked.writes write (List.mem_of_getElem? isWrite)
    have held (activity : Activity) (isHeld : Held service activity) :
        Held
          { service with
            writes := service.writes.eraseIdx index
            stored := service.stored ++ [(write.activity.tenant_id, write.activity)] }
          activity := by
      rcases isHeld with isStored | isQueued | isWritten | awaits
      · exact .inl (List.mem_append_left _ isStored)
      · exact .inr (.inl isQueued)
      · rcases (written_eraseIdx isWrite activity).mp isWritten with isKept | rfl
        · exact .inr (.inr (.inl isKept))
        · exact .inl (List.mem_append_right _ (List.mem_singleton_self _))
      · exact .inr (.inr (.inr awaits))
    have nodup : (service.stored ++ [(write.activity.tenant_id, write.activity)]).Nodup ↔
        ¬Stored service write.activity := by
      rw [List.nodup_append]
      constructor
      · rintro ⟨_, _, apart⟩ isStored
        exact apart _ isStored _ (List.mem_singleton_self _) rfl
      · intro isNew
        refine ⟨accounted.once, by simp, ?_⟩
        intro row isStored other isOther same
        rw [same, List.mem_singleton.mp isOther] at isStored
        exact isNew isStored
    constructor
    · intro accountedNext other isOther
      obtain rfl : write = other := Option.some.inj (isWrite.symm.trans isOther)
      exact nodup.mp accountedNext.once
    · intro isNew
      constructor
      · intro row isRow
        rcases List.mem_append.mp isRow with isOld | isAdded
        · exact accounted.ownTenant row isOld
        · rw [List.mem_singleton.mp isAdded]
          exact isKnown
      · exact nodup.mpr (isNew write isWrite)
      · intro event isQueued isCritical
        exact held _ (accounted.critical event isQueued isCritical)
      · intro event isQueued
        exact (accounted.others event isQueued).imp_left (held _)

theorem awaitsRetry_after {batch : Option Batch} (awaits : AwaitsRetry batch activity) :
    AwaitsRetry (batchAfter owner batch) activity := by
  rw [batchAfter]
  split
  · obtain ⟨running, rfl, isTimer, retried⟩ := awaits
    refine ⟨_, rfl, isTimer, ?_⟩
    cases isRetries : running.retries with
    | none =>
      rw [isRetries] at retried
      exact ⟨rfl, retried.2⟩
    | some rest =>
      rw [isRetries] at retried
      exact retried
  · exact awaits

section

variable (tracked : Tracked service)
include tracked

theorem reject_accounted_iff (accounted : EventsAccounted service) (index : Nat) :
    EventsAccounted (service.reject index) ↔ KeepsAccount service (.reject index) := by
  rw [ActivityService.reject]
  split
  · rename_i noWrite
    exact iff_of_true accounted fun write isWrite => by cases noWrite.symm.trans isWrite
  · rename_i write isWrite
    have isKnown := tracked.writes write (List.mem_of_getElem? isWrite)
    refine (accounted_iff [] (· = write.activity) ?_ accounted).trans ?_
    · refine ⟨(List.append_nil _).symm, rfl, ?_, List.subset_append_left _ _, fun _ => id, ?_⟩
      · rintro activity (isStored | isQueued | isWritten | awaits)
        · exact .inl (.inl isStored)
        · exact .inl (.inr (.inl isQueued))
        · exact ((written_eraseIdx isWrite activity).mp isWritten).imp
            (fun isKept => .inr (.inr (.inl isKept))) Eq.symm
        · exact .inl (.inr (.inr (.inr (awaitsRetry_after awaits))))
      · rintro _ rfl
        exact .inl (List.mem_append_right _ (List.mem_singleton_self _))
    · constructor
      · rintro ⟨_, kept⟩ other isOther isCritical
        obtain rfl : write = other := Option.some.inj (isWrite.symm.trans isOther)
        exact kept _ isKnown rfl isCritical
      · intro isHeldBesides
        refine ⟨fun _ isAdded => (nomatch isAdded), fun event _ isLost isCritical => ?_⟩
        rw [show event.2 = write.activity from isLost] at isCritical ⊢
        exact isHeldBesides write isWrite isCritical

theorem resumeShutdown_accounted_iff (accounted : EventsAccounted service) (shutdown : Nat) :
    EventsAccounted (service.resumeShutdown shutdown) ↔
      KeepsAccount service (.resumeShutdown shutdown) := by
  rw [ActivityService.resumeShutdown]
  simp only [KeepsAccount]
  split
  · rename_i isOver
    refine (accounted_iff [] (· ∈ service.activityQueue) ?_ accounted).trans ?_
    · refine ⟨(List.append_nil _).symm, rfl, ?_, fun _ => id, List.subset_append_left _ _,
        fun _ isLost => .inr (List.mem_append_right _ isLost)⟩
      rintro activity (isStored | isQueued | isWritten | awaits)
      · exact .inl (.inl isStored)
      · exact .inr isQueued
      · exact .inl (.inr (.inr (.inl isWritten)))
      · exact .inl (.inr (.inr (.inr awaits)))
    · constructor
      · rintro ⟨_, kept⟩ _ activity isQueued isCritical
        rcases kept _ (tracked.queue activity isQueued) isQueued isCritical with
          isStored | impossible | isHeld
        · exact .inl isStored
        · cases impossible
        · exact .inr isHeld
      · intro isHeldBesides
        refine ⟨fun _ isAdded => (nomatch isAdded), fun event _ isQueued isCritical => ?_⟩
        exact (isHeldBesides isOver _ isQueued isCritical).imp_right .inr
  · rename_i notOver
    exact iff_of_true accounted fun isOver => absurd isOver notOver

theorem known_writes {items : List Activity} (known : ∀ activity ∈ items, Known service activity) :
    ∀ write ∈ (service.write owner items).writes, Known service write.activity := by
  intro write isWrite
  rcases List.mem_append.mp isWrite with isOld | isAdded
  · exact tracked.writes write isOld
  · obtain ⟨activity, isItem, rfl⟩ := List.mem_map.mp isAdded
    exact known activity isItem

theorem processBatch_tracked (isTimer : Bool) : Tracked (service.processBatch isTimer) := by
  rw [ActivityService.processBatch]
  split
  · exact tracked
  · refine ⟨?_, known_writes tracked tracked.queue, ?_, tracked.stored, tracked.fresh⟩
    · intro activity isQueued
      cases isQueued
    · rintro batch ⟨⟩
      exact ⟨tracked.queue, fun _ isRetries => nomatch isRetries⟩

theorem receive_tracked {type tenantId : String}
    (isNext : Activity.mk service.nextId type tenantId = activity) :
    Tracked (service.receive tenantId activity) := by
  subst isNext
  have grows : service.queued ⊆
      (service.receive tenantId ⟨service.nextId, type, tenantId⟩).queued :=
    List.subset_append_left _ _
  constructor
  · exact fun activity isQueued => grows (tracked.queue activity isQueued)
  · exact fun write isWrite => grows (tracked.writes write isWrite)
  · intro batch isBatch
    obtain ⟨items, retries⟩ := tracked.batch batch isBatch
    exact ⟨fun activity isItem => grows (items activity isItem), fun rest isRetries =>
      (retries rest isRetries).imp_right fun known activity member => grows (known activity member)⟩
  · exact fun row isStored => grows (tracked.stored row isStored)
  · intro event member
    rcases List.mem_append.mp member with isOld | isNew
    · exact Nat.lt_succ_of_lt (tracked.fresh event isOld)
    · rw [List.mem_singleton.mp isNew]
      exact Nat.lt_succ_self _

theorem queueActivity_tracked (tenantId : Option String) (type : String) :
    Tracked (service.queueActivity tenantId type) := by
  rw [ActivityService.queueActivity]
  dsimp only
  generalize tenantId.getD DEFAULT_TENANT_ID = tenant
  generalize isNext : Activity.mk service.nextId type tenant = dto
  have received := receive_tracked tracked isNext
  have isKnown : Known (service.receive tenant dto) dto := by
    rw [← isNext]
    exact List.mem_append_right _ (List.mem_singleton_self _)
  have known (activities : List Activity)
      (old : ∀ activity ∈ activities, Known (service.receive tenant dto) activity) :
      ∀ activity ∈ activities ++ [dto], Known (service.receive tenant dto) activity := by
    intro activity member
    rcases List.mem_append.mp member with isOld | isNew
    · exact old activity isOld
    · rw [List.mem_singleton.mp isNew]
      exact isKnown
  split
  · exact { received with
      writes := known_writes received (known [] (by simp)) }
  · split
    · exact { received with }
    · have pushed : Tracked
          { service.receive tenant dto with activityQueue := service.activityQueue ++ [dto] } :=
        { received with queue := known _ received.queue }
      split
      · exact processBatch_tracked pushed false
      · exact pushed

theorem tick_tracked : Tracked service.tick := by
  rw [ActivityService.tick]
  split
  · exact processBatch_tracked tracked true
  · exact tracked

theorem resolve_tracked (index : Nat) : Tracked (service.resolve index) := by
  rw [ActivityService.resolve]
  split
  · exact tracked
  · rename_i write isWrite
    refine { tracked with writes := ?_, stored := ?_ }
    · exact fun other isKept => tracked.writes other (List.mem_of_mem_eraseIdx isKept)
    · intro row isRow
      rcases List.mem_append.mp isRow with isOld | isAdded
      · exact tracked.stored row isOld
      · rw [List.mem_singleton.mp isAdded]
        exact tracked.writes write (List.mem_of_getElem? isWrite)

end

theorem batchAfter_eq {old : Option Batch} {batch : Batch}
    (isBatch : batchAfter owner old = some batch) :
    ∃ running, old = some running ∧
      batch.items = running.items ∧ batch.retries = running.retries ∧
        batch.isTimer = running.isTimer := by
  rw [batchAfter] at isBatch
  split at isBatch
  · obtain ⟨running, isOld, rfl⟩ := Option.map_eq_some_iff.mp isBatch
    exact ⟨running, isOld, rfl, rfl, rfl⟩
  · exact ⟨batch, isBatch, rfl, rfl, rfl⟩

section

variable (tracked : Tracked service)
include tracked

theorem reject_tracked (index : Nat) : Tracked (service.reject index) := by
  rw [ActivityService.reject]
  split
  · exact tracked
  · refine { tracked with writes := ?_, batch := ?_ }
    · exact fun other isKept => tracked.writes other (List.mem_of_mem_eraseIdx isKept)
    · intro batch isBatch
      obtain ⟨running, isRunning, sameItems, sameRetries, sameTimer⟩ := batchAfter_eq isBatch
      obtain ⟨items, retries⟩ := tracked.batch running isRunning
      exact ⟨by rwa [sameItems], by rwa [sameRetries, sameTimer]⟩

theorem finish_tracked (batch : Batch) : Tracked (service.finish batch) :=
  { tracked with batch := fun _ isBatch => nomatch isBatch }

theorem abandon_tracked : Tracked service.abandon := by
  refine { tracked with writes := ?_ }
  intro write isWrite
  obtain ⟨old, isOld, same⟩ := written_abandon.mp ⟨write, isWrite, rfl⟩
  rw [← same]
  exact tracked.writes old isOld

theorem retryNext_tracked {batch : Batch}
    (items : ∀ activity ∈ batch.items, Known service activity) {rest : List Activity}
    (known : ∀ activity ∈ rest, Known service activity)
    (isTimer : rest ≠ [] → batch.isTimer = true) : Tracked (service.retryNext batch rest) := by
  cases rest with
  | nil => exact finish_tracked tracked batch
  | cons first later =>
    refine { tracked with writes := ?_, batch := ?_ }
    · refine known_writes tracked ?_
      intro activity isFirst
      exact known activity (List.mem_singleton.mp isFirst ▸ List.mem_cons_self)
    · rintro _ ⟨⟩
      refine ⟨items, ?_⟩
      rintro _ ⟨⟩
      exact ⟨isTimer (List.cons_ne_nil _ _),
        fun activity isLater => known activity (List.mem_cons_of_mem _ isLater)⟩

theorem resume_tracked : Tracked service.resume := by
  rw [ActivityService.resume]
  split
  · exact tracked
  · rename_i batch isBatch
    obtain ⟨items, retries⟩ := tracked.batch batch isBatch
    split
    · split
      · refine retryNext_tracked (abandon_tracked tracked) items ?_ ?_
        · intro activity isRetried
          exact items activity (mem_criticalLogs.mp isRetried).2.1
        · intro nonempty
          obtain ⟨activity, member⟩ := List.exists_mem_of_ne_nil _ nonempty
          exact (mem_criticalLogs.mp member).1
      · split
        · exact tracked
        · exact finish_tracked tracked batch
    · rename_i rest isRetries
      obtain ⟨isTimer, known⟩ := retries rest isRetries
      split
      · exact tracked
      · exact retryNext_tracked tracked items known fun _ => isTimer

theorem shutdown_tracked : Tracked service.shutdown := by
  rw [ActivityService.shutdown]
  split
  · exact { tracked with }
  · refine { tracked with writes := known_writes tracked tracked.queue, fresh := ?_ }
    exact fun event isQueued => Nat.lt_succ_of_lt (tracked.fresh event isQueued)

theorem resumeShutdown_tracked (shutdown : Nat) : Tracked (service.resumeShutdown shutdown) := by
  rw [ActivityService.resumeShutdown]
  split
  · exact { tracked with queue := fun _ isQueued => nomatch isQueued }
  · exact tracked

theorem tracked_step (event : ActivityEvent) : Tracked (service.step event) := by
  cases event with
  | queueActivity tenantId type => exact queueActivity_tracked tracked tenantId type
  | tick => exact tick_tracked tracked
  | resolve index => exact resolve_tracked tracked index
  | reject index => exact reject_tracked tracked index
  | resume => exact resume_tracked tracked
  | shutdown => exact shutdown_tracked tracked
  | resumeShutdown shutdown => exact resumeShutdown_tracked tracked shutdown

theorem accounted_step_iff (accounted : EventsAccounted service) (event : ActivityEvent) :
    EventsAccounted (service.step event) ↔ KeepsAccount service event := by
  cases event with
  | queueActivity tenantId type => exact queueActivity_accounted_iff tracked accounted tenantId type
  | tick => exact iff_of_true (accounted_of_kept tick_kept accounted) trivial
  | resolve index => exact resolve_accounted_iff tracked accounted index
  | reject index => exact reject_accounted_iff tracked accounted index
  | resume =>
    exact iff_of_true (accounted_of_kept (resume_kept tracked) accounted) trivial
  | shutdown => exact iff_of_true (accounted_of_kept shutdown_kept accounted) trivial
  | resumeShutdown shutdown => exact resumeShutdown_accounted_iff tracked accounted shutdown

end

end Steps

theorem tracked_started : Tracked started := by
  constructor <;> simp [started]

theorem accounted_started : EventsAccounted started := by
  constructor <;> simp [started]

/-- No event is lost by another, or stored twice, exactly while each write that succeeds is of an
event that is not stored yet, and none loses a critical event. -/
theorem events_accounted_iff (events : List ActivityEvent) :
    AlwaysFrom ActivityService.step EventsAccounted started events ↔
      AllowedFrom ActivityService.step KeepsAccount started events :=
  Runs.always_iff_allowed _ (fun _ event tracked => tracked_step tracked event)
    (fun _ event tracked accounted => accounted_step_iff tracked accounted event)
    tracked_started accounted_started

theorem retry_stores_again :
    ¬AlwaysFrom ActivityService.step EventsAccounted started
      [.queueActivity (some "acme") "login_failed", .queueActivity (some "acme") "page_viewed",
        .tick, .resolve 0, .reject 0, .resume, .resolve 0] := by
  intro always
  have accounted := always.final
  exact absurd accounted.once (by decide)

end ParakoId.Activities
