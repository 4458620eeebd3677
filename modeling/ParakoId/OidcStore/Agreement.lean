import ParakoId.OidcStore.Mongo
import ParakoId.OidcStore.Prisma
import ParakoId.OidcStore.Redis

/-!
Where the three adapters agree: over any sequence of calls and of passing time in which every
input is one that each of them takes as the reference store does.
-/

namespace ParakoId.OidcStore

open RedisAdapter (ModelName OIDCPayload)
open Simulations (outputs together)
open Tables (FirstRow firstInserted)

theorem adapters_agree (firstRow : FirstRow Prisma.Row)
    (firstDocument : FirstRow (String × Mongo.Document)) (tenantId : String) (name : ModelName)
    (now : Nat) (inputs : List Input)
    (prisma : Runs.AllowedFrom (together (Prisma.step firstRow name) (Reference.step name))
      (Prisma.Allowed name) (Prisma.Table.start now, Reference.start now) inputs)
    (mongo : Runs.AllowedFrom
      (together (Mongo.step firstDocument name tenantId) (Reference.step name))
      (Mongo.Allowed name tenantId) (Mongo.Collection.start now, Reference.start now) inputs)
    (redis : Runs.AllowedFrom (together (Redis.step name) (Reference.step name))
      (Redis.Allowed name) (Keyspace.empty now, Reference.start now) inputs) :
    let results := outputs (Reference.step name) (Reference.start now) inputs
    outputs (Prisma.step firstRow name) (Prisma.Table.start now) inputs = results ∧
      outputs (Mongo.step firstDocument name tenantId) (Mongo.Collection.start now) inputs =
        results ∧
      outputs (Redis.step name) (Keyspace.empty now) inputs = results := by
  refine ⟨?_, ?_, ?_⟩
  · exact (Prisma.simulates firstRow name).outputs_eq (Prisma.start_related name now) prisma
  · exact (Mongo.simulates firstDocument name tenantId).outputs_eq
      (Mongo.start_related tenantId now) mongo
  · exact (Redis.simulates name).outputs_eq (Redis.start_related name now) redis

def plainPayload : OIDCPayload :=
  { grantId := none, userCode := none, uid := none, consumed := none, others := "" }

def devicePayload : OIDCPayload := { plainPayload with userCode := some "code" }

def issueAndRevoke : List Input :=
  [.upsert "device" devicePayload (some 60), .findByUserCode "code", .consume "device",
    .destroy "device", .find "device"]

def issued : Reference := (Reference.start 0).upsert "device" devicePayload (some 60)

theorem issued_only {id : String} {record : Record}
    (holds : issued.Holds (·.userCode) "code" id record) :
    id = "device" ∧ record = ⟨devicePayload, (60000 : Int), none⟩ := by
  obtain ⟨member, -⟩ := Reference.live_eq_some_iff.mp holds.isLive
  have entries : issued.records.entries =
      [("device", ⟨devicePayload, (60000 : Int), none⟩)] := rfl
  rw [entries] at member
  simpa using member

theorem adapters_agree_issueAndRevoke :
    outputs (Prisma.step firstInserted .DeviceCode) (Prisma.Table.start 0) issueAndRevoke =
      [.returns none, .returns (some ⟨devicePayload, none⟩), .returns none, .returns none,
        .returns none] := by
  have unique : issued.Unique (·.userCode) "code" :=
    fun _ _ _ _ holds others => (issued_only holds).1.trans (issued_only others).1.symm
  have unmarked (id : String) (record : Record)
      (holds : issued.Holds (·.userCode) "code" id record) : record.OwnMark :=
    .inl (by rw [(issued_only holds).2])
  have agree := adapters_agree firstInserted firstInserted "default" .DeviceCode 0 issueAndRevoke
    ⟨by rintro row ⟨⟩,
      fun _ => ⟨unique, fun _ _ holds => by rw [(issued_only holds).2]; decide, unmarked⟩,
      trivial, trivial, by rintro record ⟨⟩, trivial⟩
    ⟨⟨.inl rfl, by rintro record ⟨⟩, by rintro document ⟨⟩, by rintro documentId document ⟨⟩⟩,
      fun _ => ⟨nofun, unique, fun documentId document isThere _ => by
        have member := List.mem_singleton.mp (InsertionMap.get_eq_some_iff.mp isThere)
        cases member
        decide⟩,
      ⟨by decide, .inl rfl⟩, ⟨by decide, .inl rfl⟩,
      ⟨⟨by decide, .inl rfl⟩, by rintro document ⟨⟩⟩, trivial⟩
    ⟨⟨by rintro _ record ⟨⟩, by rintro other record helper ⟨⟩⟩,
      fun _ => ⟨nofun, by rintro id expiresAt record ⟨⟩ ⟨⟩; exact ⟨by decide, rfl⟩, unmarked⟩,
      ⟨by decide, by decide⟩, fun empty => absurd empty (by decide),
      ⟨by decide, by rintro record ⟨⟩⟩, trivial⟩
  exact agree.1.trans rfl

def expired : List Input :=
  [.upsert "token" plainPayload (some 60), .wait 61000, .find "token"]

def consumedDevice : List Input :=
  [.upsert "device" devicePayload none, .consume "device", .findByUserCode "code"]

def consumedAbsent : List Input := [.consume "token", .find "token"]

theorem adapters_disagree :
    (outputs (Prisma.step firstInserted .AccessToken) (Prisma.Table.start 0) expired ≠
      outputs (Mongo.step firstInserted .AccessToken "default") (Mongo.Collection.start 0)
        expired) ∧
    (outputs (Prisma.step firstInserted .DeviceCode) (Prisma.Table.start 0) consumedDevice ≠
      outputs (Mongo.step firstInserted .DeviceCode "default") (Mongo.Collection.start 0)
        consumedDevice) ∧
    outputs (Redis.step .RefreshToken) (Keyspace.empty 0) consumedAbsent =
      [.returns none, .throws] := by
  refine ⟨?_, ?_, ?_⟩
  · decide
  · decide
  · decide

end ParakoId.OidcStore
