import ParakoId.Library.Shadows
import ParakoId.Accounts.PhoneNumbers

/-! Phone challenges that are requested, renewed and confirmed at the same time. -/

namespace ParakoId.Accounts

open Shadows (Shadowed Traceless enter act)
open Runs (AlwaysFrom AllowedFrom)

inductive PhoneFunction
  | generate
  | renew (verificationToken : String) (deliver : Bool)
  | verify (verificationToken code : String)

inductive PhoneRequest
  | notStarted
  | findByToken (verificationToken : String) (deliver : Bool)
  | findUser (previousChallenge : Option PhoneChallenge)
  | writeChallenge (challenge : PhoneChallenge) (previousChallenge : Option PhoneChallenge)
  | deliver (previousChallenge : PhoneChallenge)
  | rollBack (previousChallenge : PhoneChallenge)
  | findPending (verificationToken code : String)
  | confirm
  | succeeded
  | failed
  | deliveryFailed
  deriving DecidableEq

/-- How an await ends: it resolves, at a time and with what is drawn then; a delivery answers
that it has not delivered; or it rejects. -/
inductive PhoneInput
  | resolve (draw : Draw)
  | undelivered
  | reject

def PhoneFunction.request : PhoneFunction → PhoneRequest
  | .generate => .findUser none
  | .renew verificationToken deliver =>
    if verificationToken = "" then .failed else .findByToken verificationToken deliver
  | .verify verificationToken code =>
    if verificationToken = "" ∨ isPhoneCode code = false then .failed
    else .findPending verificationToken code

def phoneTurn (primitives : Primitives) (user : User) :
    PhoneRequest → PhoneInput → (User → User) × PhoneRequest
  | .findByToken verificationToken deliver, .resolve _ =>
    if user.isRenewable (primitives.hashToken verificationToken) = false then (id, .failed)
    else (id, .findUser (if deliver then some user.challenge.previous else none))
  | .findUser previousChallenge, .resolve draw =>
    match challengedNumber user with
    | .error _ => (id, .failed)
    | .ok _ => (id, .writeChallenge (newChallenge primitives draw) previousChallenge)
  | .writeChallenge challenge previousChallenge, .resolve _ =>
    (fun stored => stored.withChallenge challenge,
      previousChallenge.elim .succeeded .deliver)
  | .deliver _, .resolve _ => (id, .succeeded)
  | .deliver previousChallenge, .undelivered => (id, .rollBack previousChallenge)
  | .deliver previousChallenge, .reject => (id, .rollBack previousChallenge)
  | .rollBack previousChallenge, .resolve _ =>
    (fun stored => stored.withChallenge previousChallenge, .deliveryFailed)
  -- the error of the roll-back is thrown in place of that of the delivery
  | .rollBack _, .reject => (id, .deliveryFailed)
  | .findPending verificationToken code, .resolve draw =>
    if user.acceptsPhoneCode (primitives.hashToken verificationToken)
      (primitives.hashToken code) draw.now then (id, .confirm)
    else (id, .failed)
  | .confirm, .resolve _ => (User.withVerifiedPhone, .succeeded)
  | .notStarted, _ => (id, .notStarted)
  | .succeeded, _ => (id, .succeeded)
  | .failed, _ => (id, .failed)
  | .deliveryFailed, _ => (id, .deliveryFailed)
  | request, .undelivered => (id, request)
  | _, .reject => (id, .failed)

structure PhoneSystem where
  contact : Shadowed Nat User
  requests : Nat → PhoneRequest

inductive PhoneStep
  | start (id : Nat) (function : PhoneFunction)
  | turn (id : Nat) (input : PhoneInput)

def PhoneSystem.put (system : PhoneSystem) (id : Nat) (request : PhoneRequest) : PhoneSystem :=
  { system with requests := fun other => if other = id then request else system.requests other }

def phoneSystemStep (primitives : Primitives) (system : PhoneSystem) : PhoneStep → PhoneSystem
  | .start id function =>
    match system.requests id with
    | .notStarted => { system.put id function.request with contact := enter id system.contact }
    | _ => system
  | .turn id input =>
    let next := phoneTurn primitives system.contact.store (system.requests id) input
    { system.put id next.2 with contact := act (some id) next.1 system.contact }

def withoutRequests (user : User) : PhoneSystem where
  contact := { store := user, shadow := fun _ => user }
  requests _ := .notStarted

def FailuresTraceless (system : PhoneSystem) : Prop :=
  ∀ id, system.requests id = .deliveryFailed → Traceless system.contact id

def RollsBackToShadow (system : PhoneSystem) : PhoneStep → Prop
  | .turn id input =>
    match system.requests id, input with
    | .rollBack previousChallenge, .resolve _ =>
      (system.contact.shadow id).challenge = previousChallenge
    | .rollBack _, .reject =>
      (system.contact.shadow id).challenge = system.contact.store.challenge
    | _, _ => True
  | _ => True

/-- The requests that may still end in a failed delivery, or have. -/
def PhoneRequest.mayFail : PhoneRequest → Bool
  | .findByToken _ _ => true
  | .findUser _ => true
  | .writeChallenge _ _ => true
  | .deliver _ => true
  | .rollBack _ => true
  | .deliveryFailed => true
  | _ => false

def Outlined (system : PhoneSystem) : Prop :=
  ∀ id, (system.requests id).mayFail = true → ∀ challenge,
    (system.contact.shadow id).withChallenge challenge =
      system.contact.store.withChallenge challenge

inductive PhoneEffect : PhoneRequest → PhoneInput → (User → User) × PhoneRequest → Prop
  | reads {request input next} (mayFail : next.mayFail = true → request.mayFail = true)
      (failed : next = .deliveryFailed → request = .deliveryFailed)
      (notRollBack : ∀ previousChallenge, request ≠ .rollBack previousChallenge) :
      PhoneEffect request input (id, next)
  | waits {request} : PhoneEffect request .undelivered (id, request)
  | challenges (challenge previousChallenge draw) :
      PhoneEffect (.writeChallenge challenge previousChallenge) (.resolve draw)
        (fun stored => stored.withChallenge challenge, previousChallenge.elim .succeeded .deliver)
  | rollsBack (previousChallenge draw) :
      PhoneEffect (.rollBack previousChallenge) (.resolve draw)
        (fun stored => stored.withChallenge previousChallenge, .deliveryFailed)
  | leaves (previousChallenge) :
      PhoneEffect (.rollBack previousChallenge) .reject (id, .deliveryFailed)
  | confirms (draw) :
      PhoneEffect .confirm (.resolve draw) (User.withVerifiedPhone, .succeeded)

section Turns

variable {primitives : Primitives} {system : PhoneSystem}

theorem phoneTurn_effect (primitives : Primitives) (user : User) (request : PhoneRequest)
    (input : PhoneInput) :
    PhoneEffect request input (phoneTurn primitives user request input) := by
  cases request with
  | findByToken _ _ | findUser _ =>
    cases input with
    | resolve draw =>
      simp only [phoneTurn]
      split
      · exact .reads (by simp [PhoneRequest.mayFail]) (by simp) (by simp)
      · exact .reads (fun _ => rfl) (by simp) (by simp)
    | undelivered => exact .waits
    | reject => exact .reads (by simp [PhoneRequest.mayFail]) (by simp) (by simp)
  | writeChallenge challenge previousChallenge =>
    cases input with
    | resolve draw => exact .challenges challenge previousChallenge draw
    | undelivered => exact .waits
    | reject => exact .reads (by simp [PhoneRequest.mayFail]) (by simp) (by simp)
  | deliver previousChallenge =>
    cases input with
    | resolve draw => exact .reads (by simp [PhoneRequest.mayFail]) (by simp) (by simp)
    | undelivered | reject => exact .reads (fun _ => rfl) (by simp) (by simp)
  | rollBack previousChallenge =>
    cases input with
    | resolve draw => exact .rollsBack previousChallenge draw
    | undelivered => exact .waits
    | reject => exact .leaves previousChallenge
  | findPending verificationToken code =>
    cases input with
    | resolve draw =>
      simp only [phoneTurn]
      split
      · exact .reads (by simp [PhoneRequest.mayFail]) (by simp) (by simp)
      · exact .reads (by simp [PhoneRequest.mayFail]) (by simp) (by simp)
    | undelivered => exact .waits
    | reject => exact .reads (by simp [PhoneRequest.mayFail]) (by simp) (by simp)
  | confirm =>
    cases input with
    | resolve draw => exact .confirms draw
    | undelivered => exact .waits
    | reject => exact .reads (by simp [PhoneRequest.mayFail]) (by simp) (by simp)
  | _ => exact .reads (fun held => held) (fun same => same) (by simp)

theorem PhoneEffect.congr {request : PhoneRequest} {input : PhoneInput}
    {next : (User → User) × PhoneRequest} (effect : PhoneEffect request input next)
    {first second : User}
    (alike : ∀ challenge, first.withChallenge challenge = second.withChallenge challenge)
    (challenge : PhoneChallenge) :
    (next.1 first).withChallenge challenge = (next.1 second).withChallenge challenge := by
  cases effect with
  | confirms draw =>
    have same := congrArg User.withVerifiedPhone (alike challenge)
    exact congrArg (fun user => user.withChallenge challenge) same
  | _ => exact alike challenge

theorem PhoneEffect.own {request : PhoneRequest} {input : PhoneInput}
    {next : (User → User) × PhoneRequest} (effect : PhoneEffect request input next)
    (mayFail : next.2.mayFail = true) :
    request.mayFail = true ∧ ∀ user challenge,
      (next.1 user).withChallenge challenge = user.withChallenge challenge := by
  cases effect with
  | reads still => exact ⟨still mayFail, fun _ _ => rfl⟩
  | waits => exact ⟨mayFail, fun _ _ => rfl⟩
  | challenges | rollsBack | leaves => exact ⟨rfl, fun _ _ => rfl⟩
  | confirms => cases mayFail

theorem phoneSystemStep_outlined (primitives : Primitives) (system : PhoneSystem)
    (event : PhoneStep) (outlined : Outlined system) :
    Outlined (phoneSystemStep primitives system event) := by
  cases event with
  | start id function =>
    simp only [phoneSystemStep]
    split
    · intro other mayFail challenge
      by_cases same : other = id
      · simp [enter, same]
      · have held := outlined other (by simpa [PhoneSystem.put, same] using mayFail) challenge
        simpa [PhoneSystem.put, enter, same] using held
    · exact outlined
  | turn id input =>
    have effect := phoneTurn_effect primitives system.contact.store (system.requests id) input
    intro other mayFail challenge
    simp only [phoneSystemStep, PhoneSystem.put] at mayFail ⊢
    by_cases same : other = id
    · subst same
      rw [if_pos rfl] at mayFail
      obtain ⟨before, own⟩ := effect.own mayFail
      rw [Shadows.shadow_act_self, outlined other before challenge]
      exact (own system.contact.store challenge).symm
    · rw [if_neg same] at mayFail
      have different : ¬some id = some other := by simpa using Ne.symm same
      simp only [act, if_neg different]
      exact effect.congr (outlined other mayFail) challenge

theorem turn_traceless_iff (id : Nat) (input : PhoneInput)
    (traceless : FailuresTraceless system) :
    FailuresTraceless (phoneSystemStep primitives system (.turn id input)) ↔
      let next := phoneTurn primitives system.contact.store (system.requests id) input
      next.2 = .deliveryFailed → system.contact.shadow id = next.1 system.contact.store := by
  simp only [FailuresTraceless, phoneSystemStep, PhoneSystem.put]
  constructor
  · intro after failed
    have own := after id (by rw [if_pos rfl, failed])
    rwa [Traceless, Shadows.shadow_act_self] at own
  · intro own other failed
    by_cases same : other = id
    · subst same
      rw [if_pos rfl] at failed
      rw [Traceless, Shadows.shadow_act_self]
      exact own failed
    · rw [if_neg same] at failed
      exact (traceless other failed).act_other (by simpa using Ne.symm same) _

theorem shadow_eq_iff (outlined : Outlined system) {id : Nat}
    (mayFail : (system.requests id).mayFail = true) (challenge : PhoneChallenge) :
    system.contact.shadow id = system.contact.store.withChallenge challenge ↔
      (system.contact.shadow id).challenge = challenge := by
  constructor
  · intro same
    rw [same]
    rfl
  · intro same
    rw [← outlined id mayFail challenge, ← same]
    rfl

theorem request_unfailed (function : PhoneFunction) : function.request ≠ .deliveryFailed := by
  intro failed
  cases function with
  | generate => cases failed
  | renew _ _ | verify _ _ =>
    rw [PhoneFunction.request] at failed
    split at failed <;> cases failed

theorem phoneSystemStep_traceless_iff (primitives : Primitives) (system : PhoneSystem)
    (event : PhoneStep) (outlined : Outlined system) (traceless : FailuresTraceless system) :
    FailuresTraceless (phoneSystemStep primitives system event) ↔
      RollsBackToShadow system event := by
  cases event with
  | start id function =>
    refine iff_of_true ?_ trivial
    simp only [phoneSystemStep]
    split
    · rename_i notStarted
      intro other failed
      by_cases same : other = id
      · simp only [PhoneSystem.put, same, if_true] at failed
        exact absurd failed (request_unfailed function)
      · simp only [PhoneSystem.put, same, if_false] at failed
        exact (traceless other failed).enter_other same
    · exact traceless
  | turn id input =>
    rw [turn_traceless_iff id input traceless]
    have effect := phoneTurn_effect primitives system.contact.store (system.requests id) input
    generalize phoneTurn primitives system.contact.store (system.requests id) input = next
      at effect
    generalize isRequest : system.requests id = request at effect
    simp only [RollsBackToShadow, isRequest]
    cases effect with
    | reads still failed notRollBack =>
      have holds : ∀ next : PhoneRequest, (next = .deliveryFailed → request = .deliveryFailed) →
          next = .deliveryFailed → system.contact.shadow id = system.contact.store := by
        intro next failed isNext
        exact traceless id (isRequest.trans (failed isNext))
      refine iff_of_true (holds _ failed) ?_
      split
      · exact absurd rfl (notRollBack _)
      · exact absurd rfl (notRollBack _)
      · trivial
    | waits =>
      refine iff_of_true (fun failed => traceless id (isRequest.trans failed)) ?_
      cases request <;> trivial
    | challenges challenge previousChallenge draw =>
      refine iff_of_true ?_ trivial
      cases previousChallenge <;> rintro ⟨⟩
    | rollsBack previousChallenge draw =>
      have mayFail : (system.requests id).mayFail = true := by rw [isRequest]; rfl
      simp only [true_implies]
      exact shadow_eq_iff outlined mayFail previousChallenge
    | leaves previousChallenge =>
      have mayFail : (system.requests id).mayFail = true := by rw [isRequest]; rfl
      simp only [true_implies]
      exact shadow_eq_iff outlined mayFail system.contact.store.challenge
    | confirms draw => exact iff_of_true (by simp) trivial

end Turns

/-- In every run, a renewal whose delivery has failed leaves no trace exactly where each
challenge is rolled back to what would be stored without the renewal. -/
theorem failed_delivery_traceless_iff (primitives : Primitives) (user : User)
    (events : List PhoneStep) :
    AlwaysFrom (phoneSystemStep primitives) FailuresTraceless (withoutRequests user) events ↔
      AllowedFrom (phoneSystemStep primitives) RollsBackToShadow (withoutRequests user) events := by
  refine Runs.always_iff_allowed (phoneSystemStep primitives)
    (phoneSystemStep_outlined primitives) (phoneSystemStep_traceless_iff primitives) ?_ ?_
  · intro id mayFail
    cases mayFail
  · intro id failed
    cases failed

def challengedUser : User :=
  { User.signedUp "hash" (some "+15550001") with
    challenge := ⟨.value "token", .value "123456", .value 900000⟩ }

def renewedTwice : List PhoneStep :=
  [.start 0 (.renew "token" true), .start 1 (.renew "token" true),
    .turn 0 (.resolve ⟨0, "", ""⟩), .turn 1 (.resolve ⟨0, "", ""⟩),
    .turn 0 (.resolve ⟨0, "first", "111111"⟩), .turn 0 (.resolve ⟨0, "", ""⟩),
    .turn 1 (.resolve ⟨0, "second", "222222"⟩), .turn 1 (.resolve ⟨0, "", ""⟩),
    .turn 1 (.resolve ⟨0, "", ""⟩), .turn 0 .undelivered, .turn 0 (.resolve ⟨0, "", ""⟩)]

theorem newer_challenge_overwritten :
    let final := Runs.run (phoneSystemStep contactPrimitives) (withoutRequests challengedUser)
      renewedTwice
    final.requests 1 = .succeeded ∧ final.requests 0 = .deliveryFailed ∧
      final.contact.store.challenge = challengedUser.challenge ∧ ¬FailuresTraceless final := by
  intro final
  have failed : final.requests 0 = .deliveryFailed := by decide +kernel
  refine ⟨by decide +kernel, failed, by decide +kernel, ?_⟩
  intro traceless
  have isStored : final.contact.store.challenge = challengedUser.challenge := by decide +kernel
  have newer : (final.contact.shadow 0).challenge.phone_verification_token = .value "second" := by
    decide +kernel
  rw [traceless 0 failed, isStored] at newer
  exact absurd newer (by decide)

end ParakoId.Accounts
