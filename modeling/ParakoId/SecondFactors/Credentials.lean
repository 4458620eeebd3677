import ParakoId.Library.Interleavings
import ParakoId.SecondFactors.WebAuthn

/-!
Calls on the WebAuthn credentials of one user at the same time. Each writes back all second
factors that it has read, whatever was stored meanwhile.
-/

namespace ParakoId.SecondFactors

open Interleavings (Machine Shared Event Invariant Keeps OnTurns)
open Runs (AlwaysFrom AllowedFrom)

inductive CredentialRequest
  | notStarted
  | find (call : CredentialCall)
  | write (call : CredentialCall) (copy : List (String × Int)) (written : Mfa)
  | succeeded (changed : Bool)
  | failed

inductive CredentialInput
  | start (call : CredentialCall)
  | resolve (now : Nat)
  | reject

variable {Stored : Type}

def credentialTurn (repository : Repository Stored) (maxCredentialsPerUser : Nat)
    (stored : Stored) : CredentialRequest → CredentialInput → Stored × CredentialRequest
  | .notStarted, .start call => (stored, .find call)
  | .find call, .resolve now =>
    match call.write maxCredentialsPerUser now (repository.mfa stored) with
    | .error _ => (stored, .failed)
    | .ok none => (stored, .succeeded false)
    | .ok (some written) => (stored, .write call (countersOf (repository.mfa stored)) written)
  | .write _ _ written, .resolve _ => (repository.update written stored, .succeeded true)
  | .notStarted, _ => (stored, .notStarted)
  | .succeeded changed, _ => (stored, .succeeded changed)
  | .failed, _ => (stored, .failed)
  | _, .reject => (stored, .failed)
  | request, .start _ => (stored, request)

def credentialMachine (repository : Repository Stored) (maxCredentialsPerUser : Nat) :
    Machine Stored CredentialRequest CredentialInput Empty where
  turn := credentialTurn repository maxCredentialsPerUser
  outside stored _ := stored

structure Enrolled (repository : Repository Stored) (maxCredentialsPerUser : Nat) where
  stored : Stored
  distinct : ((countersOf (repository.mfa stored)).map Prod.fst).Nodup
  within : (countersOf (repository.mfa stored)).length ≤ maxCredentialsPerUser

def Enrolled.system {repository : Repository Stored} {maxCredentialsPerUser : Nat}
    (enrolled : Enrolled repository maxCredentialsPerUser) :
    Shared Stored CredentialRequest where
  store := enrolled.stored
  calls _ := .notStarted

def CredentialCall.adds : CredentialCall → Option (String × Int)
  | .add credential => some (credential.credential_id, credential.counter)
  | _ => none

def CredentialCall.removes : CredentialCall → Option String
  | .remove credentialId => some credentialId
  | _ => none

def CredentialCall.counterOf (call : CredentialCall) (entry : String × Int) : Int :=
  match call with
  | .updateCounter credentialId newCounter =>
    if entry.1 = credentialId then newCounter else entry.2
  | _ => entry.2

/-- From one stored state to the next no credential is lost but by its own removal, none appears
but by its own addition, and no counter decreases. -/
structure Preserved (writer : Option CredentialCall) (before after : List (String × Int)) :
    Prop where
  lost : ∀ entry ∈ before, (∃ other ∈ after, other.1 = entry.1) ∨
    writer.bind CredentialCall.removes = some entry.1
  revived : ∀ entry ∈ after, (∃ other ∈ before, other.1 = entry.1) ∨
    writer.bind CredentialCall.adds = some entry
  counters : ∀ entry ∈ before, ∀ other ∈ after, entry.1 = other.1 → entry.2 ≤ other.2

def writerOf (state : Shared Stored CredentialRequest) :
    Event CredentialInput Empty → Option CredentialCall
  | .turn id (.resolve _) =>
    match state.calls id with
    | .write call _ _ => some call
    | _ => none
  | _ => none

def PreservesCredentials (repository : Repository Stored) (maxCredentialsPerUser : Nat)
    (state : Shared Stored CredentialRequest) (event : Event CredentialInput Empty) : Prop :=
  Preserved (writerOf state event) (countersOf (repository.mfa state.store))
    (countersOf (repository.mfa
      ((credentialMachine repository maxCredentialsPerUser).step state event).store))

/-- A copy that lists what is stored, but for a credential that the call itself adds or removes,
and has no counter that is behind. -/
structure UpToDate (call : CredentialCall) (copy stored : List (String × Int)) : Prop where
  listed : ∀ entry ∈ stored, (∃ other ∈ copy, other.1 = entry.1) ∨
    call.removes = some entry.1 ∨ ∃ added, call.adds = some added ∧ added.1 = entry.1
  known : ∀ entry ∈ copy, (∃ other ∈ stored, other.1 = entry.1) ∨ call.removes = some entry.1
  counters : ∀ entry ∈ stored, ∀ other ∈ copy, entry.1 = other.1 →
    call.removes = some other.1 ∨ entry.2 ≤ call.counterOf other
  added : ∀ entry ∈ stored, ∀ added, call.adds = some added → entry.1 = added.1 →
    entry.2 ≤ added.2

def WritesUpToDate (repository : Repository Stored) (stored : Stored) :
    CredentialRequest → CredentialInput → Prop
  | .write call copy _, .resolve _ => UpToDate call copy (countersOf (repository.mfa stored))
  | _, _ => True

structure Copied (maxCredentialsPerUser : Nat) (call : CredentialCall)
    (copy : List (String × Int)) (written : Mfa) : Prop where
  isSome : written.webauthn.isSome = true
  counters : countersOf (some written) = call.counters copy
  distinct : (copy.map Prod.fst).Nodup
  within : copy.length ≤ maxCredentialsPerUser
  added : ∀ added, call.adds = some added → copy.length < maxCredentialsPerUser ∧
    ∀ entry ∈ copy, entry.1 ≠ added.1

def copiesStored (repository : Repository Stored) (maxCredentialsPerUser : Nat) :
    Invariant Stored CredentialRequest where
  store stored := ((countersOf (repository.mfa stored)).map Prod.fst).Nodup ∧
    (countersOf (repository.mfa stored)).length ≤ maxCredentialsPerUser
  call _
    | .write call copy written => Copied maxCredentialsPerUser call copy written
    | _ => True

theorem mem_counters (call : CredentialCall) (copy : List (String × Int)) (entry : String × Int) :
    entry ∈ call.counters copy ↔ call.adds = some entry ∨
      ∃ other ∈ copy, call.removes ≠ some other.1 ∧ entry = (other.1, call.counterOf other) := by
  cases call with
  | add credential =>
    simp [CredentialCall.counters, CredentialCall.adds, CredentialCall.removes,
      CredentialCall.counterOf, or_comm, eq_comm]
  | remove credentialId =>
    simp only [CredentialCall.counters, CredentialCall.adds, CredentialCall.removes,
      CredentialCall.counterOf, List.mem_filter, decide_eq_true_eq, reduceCtorEq, false_or,
      ne_eq, Option.some.injEq]
    constructor
    · rintro ⟨member, different⟩
      exact ⟨entry, member, fun same => different same.symm, rfl⟩
    · rintro ⟨other, member, different, rfl⟩
      exact ⟨member, fun same => different same.symm⟩
  | updateCounter credentialId newCounter =>
    simp only [CredentialCall.counters, CredentialCall.adds, CredentialCall.removes,
      CredentialCall.counterOf, List.mem_map, reduceCtorEq, false_or, ne_eq, not_false_eq_true,
      true_and]
    refine exists_congr fun other => and_congr_right fun _ => ?_
    split <;> exact eq_comm
  | _ =>
    simp [CredentialCall.counters, CredentialCall.adds, CredentialCall.removes,
      CredentialCall.counterOf]

variable {call : CredentialCall} {copy stored : List (String × Int)}

theorem counters_distinct {maxCredentialsPerUser : Nat} {written : Mfa}
    (copied : Copied maxCredentialsPerUser call copy written) :
    ((call.counters copy).map Prod.fst).Nodup ∧
      (call.counters copy).length ≤ maxCredentialsPerUser := by
  have distinct := copied.distinct
  have within := copied.within
  cases call with
  | add credential =>
    obtain ⟨room, isNew⟩ := copied.added _ rfl
    simp only [CredentialCall.counters, List.map_append, List.length_append,
      List.length_singleton]
    refine ⟨?_, by omega⟩
    apply List.Nodup.append distinct (List.nodup_singleton _)
    intro credentialId isCopied isAdded
    obtain ⟨entry, member, rfl⟩ := List.mem_map.mp isCopied
    exact isNew entry member (List.mem_singleton.mp isAdded)
  | remove credentialId =>
    have shorter := copy.filter_sublist (p := fun entry => entry.1 ≠ credentialId)
    exact ⟨distinct.sublist (shorter.map Prod.fst), shorter.length_le.trans within⟩
  | updateCounter credentialId newCounter =>
    have same : ((CredentialCall.updateCounter credentialId newCounter).counters copy).map
        Prod.fst = copy.map Prod.fst := by
      rw [CredentialCall.counters, List.map_map]
      apply List.map_congr_left
      intro entry _
      rw [Function.comp_apply]
      split <;> rfl
    rw [same]
    exact ⟨distinct, by simpa [CredentialCall.counters] using within⟩
  | rename _ _ | updateLastUsed _ => exact ⟨distinct, within⟩

theorem upToDate_of_preserved
    (isNew : ∀ added, call.adds = some added → ∀ entry ∈ copy, entry.1 ≠ added.1)
    (preserved : Preserved (some call) stored (call.counters copy)) :
    UpToDate call copy stored := by
  constructor
  · intro entry isStored
    rcases preserved.lost entry isStored with ⟨other, member, same⟩ | removed
    · rcases (mem_counters call copy other).mp member with adds | ⟨found, isCopied, _, rfl⟩
      · exact .inr (.inr ⟨other, adds, same⟩)
      · exact .inl ⟨found, isCopied, same⟩
    · exact .inr (.inl removed)
  · intro entry isCopied
    by_cases removed : call.removes = some entry.1
    · exact .inr removed
    · left
      have member := (mem_counters call copy (entry.1, call.counterOf entry)).mpr
        (.inr ⟨entry, isCopied, removed, rfl⟩)
      rcases preserved.revived _ member with found | adds
      · exact found
      · exact absurd rfl (isNew _ adds entry isCopied)
  · intro entry isStored other isCopied same
    by_cases removed : call.removes = some other.1
    · exact .inl removed
    · right
      have member := (mem_counters call copy (other.1, call.counterOf other)).mpr
        (.inr ⟨other, isCopied, removed, rfl⟩)
      exact preserved.counters entry isStored _ member same
  · intro entry isStored added adds same
    exact preserved.counters entry isStored added
      ((mem_counters call copy added).mpr (.inl adds)) same

theorem preserved_of_upToDate (upToDate : UpToDate call copy stored) :
    Preserved (some call) stored (call.counters copy) := by
  constructor
  · intro entry isStored
    rcases upToDate.listed entry isStored with ⟨other, isCopied, same⟩ | removed |
      ⟨added, adds, same⟩
    · by_cases removed : call.removes = some entry.1
      · exact .inr removed
      · exact .inl ⟨_, (mem_counters call copy _).mpr
          (.inr ⟨other, isCopied, same ▸ removed, rfl⟩), same⟩
    · exact .inr removed
    · exact .inl ⟨added, (mem_counters call copy added).mpr (.inl adds), same⟩
  · intro entry member
    rcases (mem_counters call copy entry).mp member with adds | ⟨other, isCopied, stays, rfl⟩
    · exact .inr adds
    · rcases upToDate.known other isCopied with found | removed
      · exact .inl found
      · exact absurd removed stays
  · intro entry isStored other member same
    rcases (mem_counters call copy other).mp member with adds | ⟨found, isCopied, stays, rfl⟩
    · exact upToDate.added entry isStored other adds same
    · rcases upToDate.counters entry isStored found isCopied same with removed | notBehind
      · exact absurd removed stays
      · exact notBehind

theorem preserved_iff
    (isNew : ∀ added, call.adds = some added → ∀ entry ∈ copy, entry.1 ≠ added.1)
    (stored : List (String × Int)) :
    Preserved (some call) stored (call.counters copy) ↔ UpToDate call copy stored :=
  ⟨upToDate_of_preserved isNew, preserved_of_upToDate⟩

theorem preserved_same (distinct : (stored.map Prod.fst).Nodup) :
    Preserved none stored stored := by
  constructor
  · exact fun entry isStored => .inl ⟨entry, isStored, rfl⟩
  · exact fun entry isStored => .inl ⟨entry, isStored, rfl⟩
  · intro entry isStored other isOther same
    rw [List.inj_on_of_nodup_map distinct isStored isOther same]

section Turns

variable {repository : Repository Stored} {maxCredentialsPerUser : Nat}

theorem find_copied {stored : Stored} (store :
      (copiesStored repository maxCredentialsPerUser).store stored) {call : CredentialCall}
    {now : Nat} {written : Mfa}
    (writes : call.write maxCredentialsPerUser now (repository.mfa stored) = .ok (some written)) :
    Copied maxCredentialsPerUser call (countersOf (repository.mfa stored)) written := by
  obtain ⟨isSome, counters⟩ := write_counters writes
  refine ⟨isSome, counters, store.1, store.2, ?_⟩
  intro added adds
  cases call with
  | add credential =>
    injection adds with isAdded
    subst isAdded
    exact add_writes writes
  | _ => cases adds

theorem credentialTurn_keeps (repository : Repository Stored) (maxCredentialsPerUser : Nat) :
    Keeps (credentialMachine repository maxCredentialsPerUser)
      (copiesStored repository maxCredentialsPerUser) fun _ _ _ => True := by
  constructor
  · intro stored request input store own _
    cases request with
    | notStarted | succeeded _ | failed => cases input <;> exact .of_store store trivial
    | find call =>
      cases input with
      | resolve now =>
        simp only [credentialMachine, credentialTurn]
        split
        · exact .of_store store trivial
        · exact .of_store store trivial
        · rename_i written writes
          exact .of_store store (find_copied store writes)
      | _ => exact .of_store store trivial
    | write call copy written =>
      cases input with
      | start other => exact .of_store store own
      | reject => exact .of_store store trivial
      | resolve unused =>
        have isWritten : countersOf (repository.mfa (repository.update written stored)) =
            call.counters copy :=
          (repository.update_counters written stored own.isSome).trans own.counters
        refine ⟨?_, trivial, fun other held => ?_⟩
        · have both := counters_distinct own
          rw [← isWritten] at both
          exact both
        · cases other with
          | write otherCall otherCopy otherWritten => exact held
          | _ => trivial
  · intro stored change
    cases change

theorem preserves_iff (state : Shared Stored CredentialRequest)
    (event : Event CredentialInput Empty)
    (holds : (copiesStored repository maxCredentialsPerUser).Holds state) :
    PreservesCredentials repository maxCredentialsPerUser state event ↔
      OnTurns (WritesUpToDate repository) state event := by
  have same := preserved_same holds.store.1
  rw [PreservesCredentials]
  cases event with
  | outside change => cases change
  | turn id input =>
    have own := holds.calls id
    simp only [Machine.step, credentialMachine, OnTurns]
    cases isRequest : state.calls id with
    | write call copy written =>
      rw [isRequest] at own
      cases input with
      | resolve now =>
        simp only [writerOf, isRequest, credentialTurn, WritesUpToDate]
        rw [repository.update_counters written state.store own.isSome, own.counters]
        exact preserved_iff (fun added adds => (own.added added adds).2) _
      | start _ | reject => exact iff_of_true same trivial
    | find call =>
      refine iff_of_true ?_ trivial
      cases input with
      | resolve now =>
        simp only [writerOf, isRequest, credentialTurn]
        split <;> exact same
      | _ => exact same
    | _ =>
      refine iff_of_true ?_ trivial
      cases input <;> simpa only [writerOf, isRequest, credentialTurn] using same

end Turns

/-- In every run of any number of calls the credentials stay within the maximum; and no step
loses or revives one or takes a counter back exactly where each call writes a copy that is up to
date. -/
theorem credentials_preserved_iff (repository : Repository Stored) (maxCredentialsPerUser : Nat)
    (enrolled : Enrolled repository maxCredentialsPerUser)
    (events : List (Event CredentialInput Empty)) :
    AlwaysFrom (credentialMachine repository maxCredentialsPerUser).step
        (fun state => (credentialsOf (repository.mfa state.store)).length ≤ maxCredentialsPerUser)
        enrolled.system events ∧
      (AllowedFrom (credentialMachine repository maxCredentialsPerUser).step
          (PreservesCredentials repository maxCredentialsPerUser) enrolled.system events ↔
        AllowedFrom (credentialMachine repository maxCredentialsPerUser).step
          (OnTurns (WritesUpToDate repository)) enrolled.system events) := by
  have keeps := credentialTurn_keeps repository maxCredentialsPerUser
  have stays : ∀ state event, (copiesStored repository maxCredentialsPerUser).Holds state →
      (copiesStored repository maxCredentialsPerUser).Holds
        ((credentialMachine repository maxCredentialsPerUser).step state event) := by
    intro state event held
    refine keeps.step held ?_
    cases event <;> trivial
  have start : (copiesStored repository maxCredentialsPerUser).Holds enrolled.system :=
    ⟨⟨enrolled.distinct, enrolled.within⟩, fun _ => trivial⟩
  constructor
  · have always := Runs.always_iff_initialRuns
      (credentialMachine repository maxCredentialsPerUser).step
      (copiesStored repository maxCredentialsPerUser).Holds enrolled.system events
    refine (always.mpr fun done _ => Runs.invariant _ stays start done).mono _ ?_
    intro state held
    have within := held.store.2
    rwa [countersOf, List.length_map] at within
  · exact Runs.allowed_congr _ stays preserves_iff start

def passkey : WebAuthnCredential where
  credential_id := "key"
  counter := 1
  friendly_name := "Passkey"
  last_used_at := none

def passkeyUser : Enrolled mongoose 10 where
  stored := some { Mfa.blank with enabled := true, webauthn := some ⟨true, [passkey], some 0⟩ }
  distinct := by decide
  within := by decide

def overtaken : List (Event CredentialInput Empty) :=
  [.turn 0 (.start (.updateCounter "key" 2)), .turn 0 (.resolve 0),
    .turn 1 (.start (.updateCounter "key" 3)), .turn 1 (.resolve 0), .turn 1 (.resolve 0),
    .turn 0 (.resolve 0)]

theorem counter_taken_back :
    let machine := credentialMachine mongoose 10
    let before := Runs.run machine.step passkeyUser.system (overtaken.take 5)
    let after := Runs.run machine.step passkeyUser.system overtaken
    countersOf (mongoose.mfa before.store) = [("key", 3)] ∧
      countersOf (mongoose.mfa after.store) = [("key", 2)] ∧
      ¬AllowedFrom machine.step (PreservesCredentials mongoose 10) passkeyUser.system
        overtaken := by
  refine ⟨by decide, by decide, ?_⟩
  rintro ⟨-, -, -, -, -, last, -⟩
  have decreased := last.counters ("key", 3) (by decide) ("key", 2) (by decide) rfl
  exact absurd decreased (by decide)

end ParakoId.SecondFactors
