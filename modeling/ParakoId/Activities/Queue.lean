import ParakoId.Library.Runs

/-! The queue of the activity service. -/

namespace ParakoId.Activities

structure Activity where
  id : Nat
  type : String
  tenant_id : String
  deriving DecidableEq

inductive WriteOwner
  | direct
  | batch
  | retry
  | flush (shutdown : Nat)
  | abandoned
  deriving DecidableEq

structure Write where
  activity : Activity
  owner : WriteOwner

/-- A batch waits for all of its writes, or for one of them to fail; the timer's batch then
writes the critical items again, one after another. -/
structure Batch where
  isTimer : Bool
  items : List Activity
  rejected : Bool
  retries : Option (List Activity)

structure Flush where
  shutdown : Nat
  rejected : Bool

/-- The fields of the service, the writes under way and the rows stored, each with its tenant;
besides, what was ever handed over, with the tenant of the context, and what became of it. -/
structure ActivityService where
  activityQueue : List Activity
  processingBatch : Option Batch
  batchTimer : Bool
  flushes : List Flush
  writes : List Write
  stored : List (String × Activity)
  queued : List (String × Activity)
  rejected : List Activity
  dropped : List Activity
  nextId : Nat

def started : ActivityService where
  activityQueue := []
  processingBatch := none
  batchTimer := true
  flushes := []
  writes := []
  stored := []
  queued := []
  rejected := []
  dropped := []
  nextId := 0

def DEFAULT_TENANT_ID : String := "default"

def MAX_QUEUE_SIZE : Nat := 10000

def batchSize : Nat := 50

def criticalEventTypes : List String := [
  "impossible_travel_detected",
  "vpn_detected",
  "high_fraud_score",
  "brute_force_detected",
  "account_lockout",
  "password_reset_success",
  "mfa_disabled",
  "admin_login_success",
  "new_device_verification_failed",
  "suspicious_activity"]

def retriedTypes : List String := ["login_failed", "password_changed", "registration"]

/-- The writes under way may settle in any order; what waits for them goes on some time after. -/
inductive ActivityEvent
  | queueActivity (tenantId : Option String) (type : String)
  | tick
  | resolve (index : Nat)
  | reject (index : Nat)
  | resume
  | shutdown
  | resumeShutdown (shutdown : Nat)

def batchAfter (owner : WriteOwner) (batch : Option Batch) : Option Batch :=
  if owner = .batch then batch.map fun running => { running with rejected := true } else batch

def flushesAfter (owner : WriteOwner) (flushes : List Flush) : List Flush :=
  flushes.map fun flush =>
    if owner = .flush flush.shutdown then { flush with rejected := true } else flush

def criticalLogs (batch : Batch) : List Activity :=
  if batch.isTimer then batch.items.filter fun activity => activity.type ∈ retriedTypes else []

namespace ActivityService

def write (service : ActivityService) (owner : WriteOwner) (items : List Activity) :
    ActivityService :=
  { service with writes := service.writes ++ items.map fun activity => ⟨activity, owner⟩ }

def processBatch (service : ActivityService) (isTimer : Bool) : ActivityService :=
  if service.activityQueue = [] ∨ service.processingBatch.isSome then service
  else
    { service.write .batch service.activityQueue with
      processingBatch := some ⟨isTimer, service.activityQueue, false, none⟩
      activityQueue := []
      batchTimer := if isTimer then false else service.batchTimer }

def receive (service : ActivityService) (currentTenantId : String) (dto : Activity) :
    ActivityService :=
  { service with
    nextId := service.nextId + 1
    queued := service.queued ++ [(currentTenantId, dto)] }

def queueActivity (service : ActivityService) (tenantId : Option String) (type : String) :
    ActivityService :=
  let currentTenantId := tenantId.getD DEFAULT_TENANT_ID
  let dto : Activity := ⟨service.nextId, type, currentTenantId⟩
  let next := service.receive currentTenantId dto
  if type ∈ criticalEventTypes then next.write .direct [dto]
  else if MAX_QUEUE_SIZE ≤ next.activityQueue.length then
    { next with dropped := next.dropped ++ [dto] }
  else
    let pushed := { next with activityQueue := next.activityQueue ++ [dto] }
    if batchSize ≤ pushed.activityQueue.length then pushed.processBatch false else pushed

def tick (service : ActivityService) : ActivityService :=
  if service.batchTimer then service.processBatch true else service

def resolve (service : ActivityService) (index : Nat) : ActivityService :=
  match service.writes[index]? with
  | none => service
  | some write =>
    { service with
      writes := service.writes.eraseIdx index
      stored := service.stored ++ [(write.activity.tenant_id, write.activity)] }

def reject (service : ActivityService) (index : Nat) : ActivityService :=
  match service.writes[index]? with
  | none => service
  | some write =>
    { service with
      writes := service.writes.eraseIdx index
      rejected := service.rejected ++ [write.activity]
      processingBatch := batchAfter write.owner service.processingBatch
      flushes := flushesAfter write.owner service.flushes }

def waitsFor (service : ActivityService) (owner : WriteOwner) : Bool :=
  service.writes.any fun write => write.owner == owner

def finish (service : ActivityService) (batch : Batch) : ActivityService :=
  { service with
    processingBatch := none
    batchTimer := service.batchTimer || batch.isTimer }

def retryNext (service : ActivityService) (batch : Batch) : List Activity → ActivityService
  | [] => service.finish batch
  | activity :: rest =>
    { service.write .retry [activity] with
      processingBatch := some { batch with retries := some rest } }

/-- Writes of a batch that has failed go on without it. -/
def abandon (service : ActivityService) : ActivityService :=
  { service with
    writes := service.writes.map fun write =>
      if write.owner = .batch then { write with owner := .abandoned } else write }

def resume (service : ActivityService) : ActivityService :=
  match service.processingBatch with
  | none => service
  | some batch =>
    match batch.retries with
    | none =>
      if batch.rejected then service.abandon.retryNext batch (criticalLogs batch)
      else if service.waitsFor .batch then service
      else service.finish batch
    | some rest => if service.waitsFor .retry then service else service.retryNext batch rest

def shutdown (service : ActivityService) : ActivityService :=
  if service.activityQueue = [] then { service with batchTimer := false }
  else
    { service.write (.flush service.nextId) service.activityQueue with
      batchTimer := false
      flushes := ⟨service.nextId, false⟩ :: service.flushes
      nextId := service.nextId + 1 }

def flushIsOver (service : ActivityService) (shutdown : Nat) : Bool :=
  service.flushes.any fun flush =>
    flush.shutdown == shutdown && (flush.rejected || !service.waitsFor (.flush shutdown))

def resumeShutdown (service : ActivityService) (shutdown : Nat) : ActivityService :=
  if service.flushIsOver shutdown then
    { service with
      activityQueue := []
      dropped := service.dropped ++ service.activityQueue
      flushes := service.flushes.filter fun flush => flush.shutdown ≠ shutdown }
  else service

def step (service : ActivityService) : ActivityEvent → ActivityService
  | .queueActivity tenantId type => service.queueActivity tenantId type
  | .tick => service.tick
  | .resolve index => service.resolve index
  | .reject index => service.reject index
  | .resume => service.resume
  | .shutdown => service.shutdown
  | .resumeShutdown shutdown => service.resumeShutdown shutdown

end ActivityService

end ParakoId.Activities
