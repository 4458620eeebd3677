import Mathlib.Data.Finset.Lattice.Lemmas
import ParakoId.PubSub.Service

/-!
Whether a service that is connected is subscribed to the topics of its handlers, and dispatches
every message once to each of them, under any interleaving of its calls.
-/

namespace ParakoId.PubSub

open Function (update_of_ne update_self)
open Interleavings (Machine Shared Event)
open Runs (AlwaysFrom AllowedFrom)

variable {Handler : Type}

abbrev Calls := Nat → Call

def Call.isOver : Call → Bool
  | .notStarted | .ended => true
  | _ => false

/-- The call is a `connect` that closes the clients before it. -/
def Call.reconnects : Call → Bool
  | .closingSub _ _ connects => connects
  | .closingPub connects => connects
  | _ => false

def Closes (calls : Calls) (client : Nat) : Prop :=
  ∃ id hasPub connects, calls id = .closingSub client hasPub connects

structure Quiet (state : Shared (Service Handler) Call) : Prop where
  calls : ∀ id, (state.calls id).isOver = true
  commands : ∀ client, (state.store.clients client).isOpen = true →
    (state.store.clients client).pending = []

structure Delivers [DecidableEq Handler] (service : Service Handler) : Prop where
  subscriptions : ∀ topic,
    (∃ client, (service.clients client).isOpen = true ∧
        topic ∈ (service.clients client).subscribed) ↔ topic ∈ service.handlers.keys
  once : ∀ topic keys value handler, topic ∈ service.handlers.keys →
    (received service topic (some (.obj keys value))).count handler =
      if handler ∈ service.handlersOf topic then 1 else 0

structure Sound (service : Service Handler) (calls : Calls) : Prop where
  handlerSets : ∀ topic channelHandlers, service.handlers.get topic = some channelHandlers →
    channelHandlers.Nodup
  unborn : ∀ id, service.created ≤ id → service.clients id = .new
  idle : ∀ id, (service.clients id).listeners = 0 →
    (service.clients id).subscribed = ∅ ∧ (service.clients id).pending = []
  subBorn : ∀ client, service.sub = some client → client < service.created
  subOpen : ∀ client, service.sub = some client → (service.clients client).isOpen = true
  subOnce : ∀ client, service.sub = some client → (service.clients client).listeners ≤ 1
  subPub : service.pub = none → service.sub = none
  owned : ∀ id, (service.clients id).isOpen = true → (service.clients id).listeners ≠ 0 →
    service.sub = some id ∨ Closes calls id
  apart : ∀ client, Closes calls client → client < service.created ∧ service.sub ≠ some client
  listening : service.connected = true → ∀ publisher, service.pub = some publisher →
    ∃ client, service.sub = some client ∧ (service.clients client).listeners = 1
  reconnecting : service.connected = true → service.pub = none →
    ∃ id, (calls id).reconnects = true
  settledKeys : service.connected = true → ∀ client, service.sub = some client →
    (service.clients client).settled = service.handlers.keys.toFinset

def Released (service : Service Handler) (call : Call) : Prop :=
  ∀ client hasPub connects, call = .closingSub client hasPub connects →
    (service.clients client).isOpen = false ∨ (service.clients client).listeners = 0

section Calls

variable {service : Service Handler} {calls : Calls} {id : Nat}

theorem closes_update_iff {next : Call} {client : Nat} :
    Closes (Function.update calls id next) client ↔
      (∃ hasPub connects, next = .closingSub client hasPub connects) ∨
        ∃ other ≠ id, ∃ hasPub connects, calls other = .closingSub client hasPub connects := by
  constructor
  · rintro ⟨other, hasPub, connects, isClosing⟩
    by_cases same : other = id
    · subst same
      rw [update_self] at isClosing
      exact Or.inl ⟨hasPub, connects, isClosing⟩
    · rw [update_of_ne same] at isClosing
      exact Or.inr ⟨other, same, hasPub, connects, isClosing⟩
  · rintro (⟨hasPub, connects, isClosing⟩ | ⟨other, different, hasPub, connects, isClosing⟩)
    · exact ⟨id, hasPub, connects, by rw [update_self, isClosing]⟩
    · exact ⟨other, hasPub, connects, by rw [update_of_ne different, isClosing]⟩

theorem Released.closes {next : Call} {client : Nat} (released : Released service (calls id))
    (isOpen : (service.clients client).isOpen = true)
    (listens : (service.clients client).listeners ≠ 0) (closes : Closes calls client) :
    Closes (Function.update calls id next) client := by
  obtain ⟨other, hasPub, connects, isClosing⟩ := closes
  have different : other ≠ id := by
    rintro rfl
    rcases released client hasPub connects isClosing with closed | silent
    · rw [isOpen] at closed
      cases closed
    · exact listens silent
  exact ⟨other, hasPub, connects, by rw [update_of_ne different, isClosing]⟩

section

variable (sound : Sound service calls)
include sound

theorem Sound.goOn (released : Released service (calls id)) {next : Call}
    (notClosing : ∀ client hasPub connects, next ≠ .closingSub client hasPub connects)
    (stays : service.connected = true → (calls id).reconnects = true → next.reconnects = true) :
    Sound service (Function.update calls id next) :=
  { sound with
    owned := fun client isOpen listens =>
      (sound.owned client isOpen listens).imp_right (released.closes isOpen listens)
    apart := by
      intro client closes
      rcases closes_update_iff.mp closes with ⟨hasPub, connects, isNext⟩ | ⟨other, _, isClosing⟩
      · exact absurd isNext (notClosing client hasPub connects)
      · exact sound.apart client ⟨other, isClosing⟩
    reconnecting := by
      intro connected noPub
      obtain ⟨other, reconnects⟩ := sound.reconnecting connected noPub
      by_cases same : other = id
      · subst same
        exact ⟨other, by rw [update_self]; exact stays connected reconnects⟩
      · exact ⟨other, by rw [update_of_ne same]; exact reconnects⟩ }

theorem Sound.disconnected : Sound { service with connected := false } calls :=
  { sound with
    listening := fun connected => by cases connected
    reconnecting := fun connected => by cases connected
    settledKeys := fun connected => by cases connected }

section

variable (released : Released service (calls id))
include released

theorem Sound.openPub :
    Sound (openPub service).1 (Function.update calls id (openPub service).2) := by
  have opened : Sound (PubSub.openPub service).1 calls :=
    { sound with
      unborn := fun id born => sound.unborn id (Nat.le_of_succ_le born)
      subBorn := fun client isSub => Nat.lt_succ_of_lt (sound.subBorn client isSub)
      subPub := fun noPub => by cases noPub
      apart := fun client closes =>
        ⟨Nat.lt_succ_of_lt (sound.apart client closes).1, (sound.apart client closes).2⟩
      listening := fun connected => by cases connected
      reconnecting := fun connected => by cases connected
      settledKeys := fun connected => by cases connected }
  exact opened.goOn released (fun _ _ _ isClosing => by cases isClosing)
    (fun connected => by cases connected)

theorem Sound.afterClosing {connects : Bool}
    (isConnect : service.connected = true → (calls id).reconnects = true → connects = true) :
    Sound (afterClosing service connects).1
      (Function.update calls id (afterClosing service connects).2) := by
  cases connects with
  | true => exact sound.openPub released
  | false =>
    refine sound.goOn released (fun _ _ _ isClosing => by cases isClosing) ?_
    intro connected reconnects
    cases isConnect connected reconnects

theorem Sound.closeClients {connects : Bool}
    (isConnect : service.connected = true → connects = true) :
    Sound (closeClients service connects).1
      (Function.update calls id (closeClients service connects).2) := by
  have others {next : Call} (client : Nat) (isOpen : (service.clients client).isOpen = true)
      (listens : (service.clients client).listeners ≠ 0) (notSub : service.sub ≠ some client) :
      Closes (Function.update calls id next) client := by
    rcases sound.owned client isOpen listens with isSub | closes
    · exact absurd isSub notSub
    · exact released.closes isOpen listens closes
  cases isSub : service.sub with
  | some client =>
    simp only [PubSub.closeClients, isSub]
    exact
      { sound with
        subBorn := fun _ isNone => by cases isNone
        subOpen := fun _ isNone => by cases isNone
        subOnce := fun _ isNone => by cases isNone
        subPub := fun _ => rfl
        owned := by
          intro other isOpen listens
          by_cases same : other = client
          · subst same
            exact Or.inr ⟨id, _, _, update_self ..⟩
          · refine Or.inr (others other isOpen listens ?_)
            rw [isSub]
            exact fun isClient => same (Option.some.inj isClient).symm
        apart := by
          intro other closes
          refine ⟨?_, fun isNone => by cases isNone⟩
          rcases closes_update_iff.mp closes with ⟨_, _, isNext⟩ | ⟨call, _, isClosing⟩
          · cases isNext
            exact sound.subBorn client isSub
          · exact (sound.apart other ⟨call, isClosing⟩).1
        listening := fun _ _ isNone => by cases isNone
        reconnecting := fun connected _ =>
          ⟨id, by rw [update_self]; exact isConnect connected⟩
        settledKeys := fun _ _ isNone => by cases isNone }
  | none =>
    cases isPub : service.pub with
    | some publisher =>
      simp only [PubSub.closeClients, isSub, isPub]
      exact
        { sound with
          subBorn := fun _ isNone => by cases isNone
          subOpen := fun _ isNone => by cases isNone
          subOnce := fun _ isNone => by cases isNone
          subPub := fun _ => rfl
          owned := fun other isOpen listens => Or.inr <| others other isOpen listens <| by
            rw [isSub]
            exact fun isNone => by cases isNone
          apart := by
            intro other closes
            refine ⟨?_, fun isNone => by cases isNone⟩
            rcases closes_update_iff.mp closes with ⟨_, _, isNext⟩ | ⟨call, _, isClosing⟩
            · cases isNext
            · exact (sound.apart other ⟨call, isClosing⟩).1
          listening := fun _ _ isNone => by cases isNone
          reconnecting := fun connected _ =>
            ⟨id, by rw [update_self]; exact isConnect connected⟩
          settledKeys := fun _ _ isNone => by cases isNone }
    | none =>
      have same : { service with sub := none, pub := none } = service := by
        cases service
        simp_all
      simp only [PubSub.closeClients, isSub, isPub, same]
      exact sound.afterClosing released fun connected _ => isConnect connected

theorem Sound.connectionFailed :
    Sound (connectionFailed service).1
      (Function.update calls id (connectionFailed service).2) :=
  sound.disconnected.closeClients released fun connected => by cases connected

theorem Sound.startConnect :
    Sound (startConnect service).1 (Function.update calls id (startConnect service).2) := by
  rw [PubSub.startConnect]
  split
  · exact sound.closeClients released fun _ => rfl
  · exact sound.openPub released

theorem Sound.startDisconnect :
    Sound (startDisconnect service).1
      (Function.update calls id (startDisconnect service).2) := by
  have cleared : Sound ({ service with connected := false, handlers := .empty } : Service Handler)
      calls :=
    { sound.disconnected with
      handlerSets := fun topic channelHandlers isHeld => by
        rw [InsertionMap.get_empty] at isHeld
        cases isHeld
      settledKeys := fun connected => by cases connected }
  exact cleared.closeClients released fun connected => by cases connected

theorem Sound.closedSub {client : Nat} {hasPub connects : Bool}
    (isClosing : calls id = .closingSub client hasPub connects) :
    Sound (closedSub service hasPub connects).1
      (Function.update calls id (closedSub service hasPub connects).2) := by
  have stays (reconnects : (calls id).reconnects = true) : connects = true := by
    rw [isClosing] at reconnects
    exact reconnects
  cases hasPub with
  | true =>
    exact sound.goOn released (fun _ _ _ isSub => by cases isSub)
      fun _ reconnects => stays reconnects
  | false => exact sound.afterClosing released fun _ reconnects => stays reconnects

end

theorem Sound.closeClient {client : Nat} (born : client < service.created)
    (notSub : service.sub ≠ some client) :
    Sound (service.updateClient client fun held => { held with isOpen := false }) calls := by
  have kept {other : Nat} (isSub : service.sub = some other) : other ≠ client := by
    rintro rfl
    exact notSub isSub
  have others {other : Nat} (different : other ≠ client) :
      (service.updateClient client fun held => { held with isOpen := false }).clients other =
        service.clients other := update_of_ne different ..
  exact
    { handlerSets := sound.handlerSets
      subBorn := sound.subBorn
      subPub := sound.subPub
      apart := sound.apart
      reconnecting := sound.reconnecting
      unborn := by
        intro other unborn
        rw [others (Nat.ne_of_gt (Nat.lt_of_lt_of_le born unborn))]
        exact sound.unborn other unborn
      idle := by
        intro other silent
        by_cases same : other = client
        · subst same
          simp only [Service.updateClient, update_self] at silent ⊢
          exact sound.idle other silent
        · rw [others same] at silent ⊢
          exact sound.idle other silent
      subOpen := fun other isSub => by
        rw [others (kept isSub)]
        exact sound.subOpen other isSub
      subOnce := fun other isSub => by
        rw [others (kept isSub)]
        exact sound.subOnce other isSub
      owned := by
        intro other isOpen listens
        by_cases same : other = client
        · subst same
          simp [Service.updateClient] at isOpen
        · rw [others same] at isOpen listens
          exact sound.owned other isOpen listens
      listening := by
        intro connected publisher isPub
        obtain ⟨other, isSub, once⟩ := sound.listening connected publisher isPub
        exact ⟨other, isSub, by rw [others (kept isSub)]; exact once⟩
      settledKeys := fun connected other isSub => by
        rw [others (kept isSub)]
        exact sound.settledKeys connected other isSub }

theorem Sound.openSub (isPub : service.pub ≠ none)
    (silent : ∀ client, service.sub = some client → (service.clients client).listeners = 0) :
    Sound { service.updateClient service.created fun _ => .new with
      sub := some service.created, created := service.created + 1 } calls := by
  have notConnected : service.connected = false := by
    rw [← Bool.not_eq_true]
    intro connected
    obtain ⟨publisher, isPublisher⟩ := Option.ne_none_iff_exists'.mp isPub
    obtain ⟨client, isSub, once⟩ := sound.listening connected publisher isPublisher
    rw [silent client isSub] at once
    cases once
  have isNew : (service.updateClient service.created fun _ => .new).clients = service.clients := by
    refine Function.update_eq_self_iff.mpr ?_
    exact (sound.unborn service.created (Nat.le_refl _)).symm
  exact
    { handlerSets := sound.handlerSets
      unborn := fun id born => by
        simp only [isNew]
        exact sound.unborn id (Nat.le_of_succ_le born)
      idle := fun id quiet => by
        simp only [isNew] at quiet ⊢
        exact sound.idle id quiet
      subBorn := fun client isSub => by
        cases isSub
        exact Nat.lt_succ_self _
      subOpen := fun client isSub => by
        cases isSub
        simp [Service.updateClient, Client.new]
      subOnce := fun client isSub => by
        cases isSub
        simp [Service.updateClient, Client.new]
      subPub := fun noPub => absurd noPub isPub
      owned := by
        intro id isOpen listens
        simp only [isNew] at isOpen listens
        rcases sound.owned id isOpen listens with isSub | closes
        · exact absurd (silent id isSub) listens
        · exact Or.inr closes
      apart := by
        intro client closes
        have born := (sound.apart client closes).1
        refine ⟨Nat.lt_succ_of_lt born, ?_⟩
        intro isClient
        exact absurd (Option.some.inj isClient) (Nat.ne_of_gt born)
      listening := fun connected => by
        rw [show service.connected = true from connected] at notConnected
        cases notConnected
      reconnecting := fun connected => by
        rw [show service.connected = true from connected] at notConnected
        cases notConnected
      settledKeys := fun connected => by
        rw [show service.connected = true from connected] at notConnected
        cases notConnected }

theorem Sound.change {handlers : InsertionMap Topic (List Handler)} {client : Nat}
    {update : Client → Client}
    (sets : ∀ topic channelHandlers, handlers.get topic = some channelHandlers →
      channelHandlers.Nodup) (unborn : service.created ≤ client → update .new = .new)
    (listens : (update (service.clients client)).listeners = (service.clients client).listeners)
    (opens : (update (service.clients client)).isOpen = (service.clients client).isOpen)
    (idle : (service.clients client).listeners = 0 →
      (update (service.clients client)).subscribed = ∅ ∧
        (update (service.clients client)).pending = [])
    (settled : service.connected = true → ∀ current, service.sub = some current →
      ((service.updateClient client update).clients current).settled = handlers.keys.toFinset) :
    Sound { service.updateClient client update with handlers } calls := by
  have keepsListeners (other : Nat) : ((service.updateClient client update).clients other).listeners =
      (service.clients other).listeners := by
    by_cases same : other = client
    · subst same
      simpa [Service.updateClient] using listens
    · simp [Service.updateClient, update_of_ne same]
  have keepsOpen (other : Nat) : ((service.updateClient client update).clients other).isOpen =
      (service.clients other).isOpen := by
    by_cases same : other = client
    · subst same
      simpa [Service.updateClient] using opens
    · simp [Service.updateClient, update_of_ne same]
  exact
    { handlerSets := sets
      subBorn := sound.subBorn
      subPub := sound.subPub
      apart := sound.apart
      reconnecting := sound.reconnecting
      settledKeys := settled
      unborn := by
        intro other born
        by_cases same : other = client
        · subst same
          simp only [Service.updateClient, update_self]
          rw [sound.unborn other born]
          exact unborn born
        · simp only [Service.updateClient, update_of_ne same]
          exact sound.unborn other born
      idle := by
        intro other silent
        simp only [keepsListeners] at silent
        by_cases same : other = client
        · subst same
          simp only [Service.updateClient, update_self]
          exact idle silent
        · simp only [Service.updateClient, update_of_ne same]
          exact sound.idle other silent
      subOpen := fun current isSub => by
        simp only [keepsOpen]
        exact sound.subOpen current isSub
      subOnce := fun current isSub => by
        simp only [keepsListeners]
        exact sound.subOnce current isSub
      owned := by
        intro other isOpen isListening
        simp only [keepsOpen, keepsListeners] at isOpen isListening
        exact sound.owned other isOpen isListening
      listening := by
        intro connected publisher isPub
        obtain ⟨current, isSub, once⟩ := sound.listening connected publisher isPub
        exact ⟨current, isSub, by simpa only [keepsListeners] using once⟩ }

end

theorem settled_send (command : Command) (client : Client) :
    (client.send command).settled = command.apply client.settled := by
  simp [Client.settled, Client.send]

theorem settled_answer (client : Client) : (client.answer true).settled = client.settled := by
  rcases client with ⟨listeners, subscribed, _ | ⟨command, rest⟩, isOpen⟩ <;>
    simp [Client.answer, Client.settled]

theorem settled_reconnect (client : Client) : client.reconnect.settled = client.settled := by
  rw [Client.reconnect]
  split
  · rfl
  · simp only [Client.settled, List.foldl_cons, Command.apply, Finset.empty_union]

theorem foldl_subscribe (topics : List Topic) (subscribed : Finset Topic) :
    (topics.map fun topic => Command.subscribe {topic}).foldl Command.apply subscribed =
      subscribed ∪ topics.toFinset := by
  induction topics generalizing subscribed with
  | nil => simp
  | cons topic rest ih =>
    rw [List.map_cons, List.foldl_cons, ih, List.toFinset_cons]
    ext other
    simp [Command.apply]

theorem Sound.issue (sound : Sound service calls) {handlers : InsertionMap Topic (List Handler)}
    {command : Command}
    (sets : ∀ topic channelHandlers, handlers.get topic = some channelHandlers →
      channelHandlers.Nodup)
    (follows : command.apply service.handlers.keys.toFinset = handlers.keys.toFinset) :
    Sound (issue { service with handlers } command) calls := by
  rw [PubSub.issue]
  split
  · rename_i client connected isSub
    have isPub : service.pub ≠ none := by
      intro noPub
      have noSub := sound.subPub noPub
      rw [show service.sub = some client from isSub] at noSub
      cases noSub
    obtain ⟨publisher, isPublisher⟩ := Option.ne_none_iff_exists'.mp isPub
    obtain ⟨current, isCurrent, once⟩ := sound.listening connected publisher isPublisher
    obtain rfl : client = current := Option.some.inj (isSub.symm.trans isCurrent)
    refine sound.change sets ?_ rfl rfl ?_ ?_
    · intro unborn
      exact absurd (sound.subBorn client isSub) (Nat.not_lt.mpr unborn)
    · intro silent
      rw [silent] at once
      cases once
    · intro _ other isOther
      obtain rfl : client = other := Option.some.inj (isSub.symm.trans isOther)
      simp only [Service.updateClient, update_self]
      rw [settled_send, sound.settledKeys connected client isSub, follows]
  · rename_i notBoth
    exact
      { sound with
        handlerSets := sets
        settledKeys := fun connected client isSub => absurd isSub (notBoth client connected) }

end Calls

section Steps

variable {service : Service Handler} {calls : Calls}

theorem attach_self (client : Nat) :
    (attach service client).clients client =
      { service.clients client with
        listeners := (service.clients client).listeners + 1
        pending := (service.clients client).pending ++
          service.handlers.keys.map fun topic => .subscribe {topic} } := by
  simp [attach, Service.updateClient]

theorem attach_other {client other : Nat} (different : other ≠ client) :
    (attach service client).clients other = service.clients other := by
  simp [attach, Service.updateClient, update_of_ne different]

theorem Sound.attach (sound : Sound service calls) {client : Nat}
    (isSub : service.sub = some client) (silent : (service.clients client).listeners = 0) :
    Sound (attach service client) calls := by
  have isCurrent {other : Nat} (isOther : service.sub = some other) : other = client :=
    Option.some.inj (isOther.symm.trans isSub)
  have isPub : service.pub ≠ none := by
    intro noPub
    rw [sound.subPub noPub] at isSub
    cases isSub
  obtain ⟨nothing, unsent⟩ := sound.idle client silent
  exact
    { handlerSets := sound.handlerSets
      subBorn := sound.subBorn
      subPub := sound.subPub
      apart := sound.apart
      unborn := by
        intro other born
        rw [attach_other fun same => by
          subst same
          exact absurd (sound.subBorn other isSub) (Nat.not_lt.mpr born)]
        exact sound.unborn other born
      idle := by
        intro other quiet
        by_cases same : other = client
        · subst same
          rw [attach_self] at quiet
          cases quiet
        · rw [attach_other same] at quiet ⊢
          exact sound.idle other quiet
      subOpen := by
        intro other isOther
        obtain rfl := isCurrent isOther
        rw [attach_self]
        exact sound.subOpen other isSub
      subOnce := by
        intro other isOther
        obtain rfl := isCurrent isOther
        rw [attach_self, silent]
      owned := by
        intro other isOpen listens
        by_cases same : other = client
        · subst same
          exact Or.inl isSub
        · rw [attach_other same] at isOpen listens
          exact sound.owned other isOpen listens
      listening := fun _ _ _ => ⟨client, isSub, by rw [attach_self, silent]⟩
      reconnecting := fun _ noPub => absurd noPub isPub
      settledKeys := by
        intro _ other isOther
        obtain rfl := isCurrent isOther
        rw [attach_self, Client.settled, nothing, unsent, List.nil_append, foldl_subscribe,
          Finset.empty_union]
        rfl }

theorem Sound.reset (sound : Sound service calls) {topic : Topic}
    {channelHandlers remaining : List Handler}
    (isHeld : service.handlers.get topic = some channelHandlers) (nodup : remaining.Nodup) :
    Sound { service with handlers := service.handlers.set topic remaining } calls := by
  have present : topic ∈ service.handlers.keys :=
    InsertionMap.mem_keys_iff.mpr ⟨channelHandlers, isHeld⟩
  refine { sound with handlerSets := ?_, settledKeys := ?_ }
  · intro other held isSet
    rw [InsertionMap.get_set] at isSet
    split at isSet
    · cases isSet
      exact nodup
    · exact sound.handlerSets other held isSet
  · intro connected client isSub
    rw [sound.settledKeys connected client isSub]
    ext other
    simp only [List.mem_toFinset, InsertionMap.mem_keys_set]
    constructor
    · exact Or.inr
    · rintro (rfl | held)
      · exact present
      · exact held

variable [DecidableEq Handler]

theorem Sound.subscribe (sound : Sound service calls) (topic : Topic) (handler : Handler) :
    Sound (subscribe service topic handler) calls := by
  rw [PubSub.subscribe]
  split
  · rename_i channelHandlers isHeld
    exact sound.reset isHeld (sound.handlerSets topic channelHandlers isHeld).insert
  · refine sound.issue ?_ ?_
    · intro other held isSet
      rw [InsertionMap.get_set] at isSet
      split at isSet
      · cases isSet
        exact List.nodup_singleton handler
      · exact sound.handlerSets other held isSet
    · ext other
      simp [Command.apply]

theorem Sound.unsubscribe (sound : Sound service calls) (topic : Topic) (handler : Handler) :
    Sound (unsubscribe service topic handler) calls := by
  rw [PubSub.unsubscribe]
  split
  · exact sound
  · rename_i channelHandlers isHeld
    dsimp only
    split
    · refine sound.issue ?_ ?_
      · intro other held isKept
        exact sound.handlerSets other held (InsertionMap.get_delete_eq_some_iff.mp isKept).2
      · ext other
        simp [Command.apply]
    · exact sound.reset isHeld ((sound.handlerSets topic channelHandlers isHeld).filter _)

/-- No `connect` goes on at a subscriber that listens already, a subscriber that listens is closed
when it is asked to, and a command that is refused makes no difference. -/
def Undisturbed (state : Shared (Service Handler) Call) : Event Input (Change Handler) → Prop
  | .turn id .resolve =>
    state.calls id = .connectingPub ∨ state.calls id = .connectingSub →
      ∀ client, state.store.sub = some client → (state.store.clients client).listeners = 0
  | .turn id .reject =>
    ∀ client hasPub connects, state.calls id = .closingSub client hasPub connects →
      (state.store.clients client).listeners = 0
  | .outside (.answered client false) =>
    state.store.sub = some client →
      ((state.store.clients client).answer false).settled =
        (state.store.clients client).settled
  | _ => True

omit [DecidableEq Handler] in
theorem Sound.turn {state : Shared (Service Handler) Call} (sound : Sound state.store state.calls)
    (id : Nat) (input : Input)
    (undisturbed : Undisturbed state (.turn id input : Event Input (Change Handler))) :
    Sound (turn state.store (state.calls id) input).1
      (Function.update state.calls id (turn state.store (state.calls id) input).2) := by
  have unchanged {call : Call} (isCall : state.calls id = call) :
      Sound state.store (Function.update state.calls id call) := by
    rw [← isCall, Function.update_eq_self]
    exact sound
  have released {call : Call} (isCall : state.calls id = call) (service : Service Handler)
      (isOther : ∀ client hasPub connects, call ≠ .closingSub client hasPub connects) :
      Released service (state.calls id) :=
    fun client hasPub connects isClosing =>
      absurd (isCall.symm.trans isClosing) (isOther client hasPub connects)
  cases isCall : state.calls id with
  | notStarted =>
    have free := released isCall state.store fun _ _ _ isClosing => by cases isClosing
    cases input with
    | connect => exact sound.startConnect free
    | disconnect => exact sound.startDisconnect free
    | _ => exact unchanged isCall
  | closingSub client hasPub connects =>
    obtain ⟨born, notSub⟩ := sound.apart client ⟨id, hasPub, connects, isCall⟩
    cases input with
    | resolve =>
      refine (sound.closeClient born notSub).closedSub ?_ isCall
      intro other _ _ isClosing
      rw [isCall] at isClosing
      cases isClosing
      exact Or.inl (by simp [Service.updateClient])
    | reject =>
      refine sound.closedSub ?_ isCall
      intro other _ _ isClosing
      exact Or.inr (undisturbed other _ _ isClosing)
    | _ => exact unchanged isCall
  | closingPub connects =>
    have free := released isCall state.store fun _ _ _ isClosing => by cases isClosing
    have stays (_ : state.store.connected = true) (reconnects : (state.calls id).reconnects = true) :
        connects = true := by
      rw [isCall] at reconnects
      exact reconnects
    cases input with
    | resolve | reject => exact sound.afterClosing free stays
    | _ => exact unchanged isCall
  | connectingPub =>
    have free := released isCall state.store fun _ _ _ isClosing => by cases isClosing
    cases input with
    | resolve =>
      cases isPub : state.store.pub with
      | none =>
        simp only [PubSub.turn, isPub]
        exact sound.connectionFailed free
      | some publisher =>
        simp only [PubSub.turn, isPub]
        have opened := sound.openSub (by rw [isPub]; exact Option.some_ne_none _)
          (undisturbed (Or.inl isCall))
        refine opened.goOn (released isCall _ fun _ _ _ isClosing => by cases isClosing)
          (fun _ _ _ isClosing => by cases isClosing) ?_
        intro _ reconnects
        rw [isCall] at reconnects
        cases reconnects
    | reject => exact sound.connectionFailed free
    | _ => exact unchanged isCall
  | connectingSub =>
    have free := released isCall state.store fun _ _ _ isClosing => by cases isClosing
    cases input with
    | resolve =>
      cases isSub : state.store.sub with
      | none =>
        simp only [PubSub.turn, isSub]
        exact sound.connectionFailed free
      | some client =>
        simp only [PubSub.turn, isSub]
        have attached := sound.attach isSub (undisturbed (Or.inr isCall) client isSub)
        refine attached.goOn (released isCall _ fun _ _ _ isClosing => by cases isClosing)
          (fun _ _ _ isClosing => by cases isClosing) ?_
        intro _ reconnects
        rw [isCall] at reconnects
        cases reconnects
    | reject => exact sound.connectionFailed free
    | _ => exact unchanged isCall
  | subscribing =>
    have free := released isCall state.store fun _ _ _ isClosing => by cases isClosing
    cases input with
    | resolve =>
      refine sound.goOn free (fun _ _ _ isClosing => by cases isClosing) ?_
      intro _ reconnects
      rw [isCall] at reconnects
      cases reconnects
    | _ => exact unchanged isCall
  | ended => exact unchanged isCall

theorem Sound.outside {state : Shared (Service Handler) Call}
    (sound : Sound state.store state.calls)
    (change : Change Handler) (undisturbed : Undisturbed state (.outside change)) :
    Sound (outside state.store change) state.calls := by
  cases change with
  | subscribe topic handler => exact sound.subscribe topic handler
  | unsubscribe topic handler => exact sound.unsubscribe topic handler
  | answered client succeeded =>
    refine sound.change sound.handlerSets (fun _ => rfl) ?_ ?_ ?_ ?_
    · rw [Client.answer]
      split <;> rfl
    · rw [Client.answer]
      split <;> rfl
    · intro silent
      have isIdle := sound.idle client silent
      rw [Client.answer, isIdle.2]
      exact isIdle
    · intro connected current isSub
      by_cases same : current = client
      · subst same
        simp only [Service.updateClient, update_self]
        rw [← sound.settledKeys connected current isSub]
        cases succeeded with
        | true => exact settled_answer _
        | false => exact undisturbed isSub
      · simp only [Service.updateClient, update_of_ne same]
        exact sound.settledKeys connected current isSub
  | reconnected client =>
    refine sound.change sound.handlerSets (fun _ => rfl) ?_ ?_ ?_ ?_
    · rw [Client.reconnect]
      split <;> rfl
    · rw [Client.reconnect]
      split <;> rfl
    · intro silent
      have isIdle := sound.idle client silent
      rw [Client.reconnect, if_pos isIdle.1]
      exact isIdle
    · intro connected current isSub
      by_cases same : current = client
      · subst same
        simp only [Service.updateClient, update_self]
        rw [settled_reconnect]
        exact sound.settledKeys connected current isSub
      · simp only [Service.updateClient, update_of_ne same]
        exact sound.settledKeys connected current isSub

theorem Sound.step {state : Shared (Service Handler) Call} (sound : Sound state.store state.calls)
    (event : Event Input (Change Handler)) (undisturbed : Undisturbed state event) :
    Sound (pubSubMachine.step state event).store (pubSubMachine.step state event).calls := by
  cases event with
  | turn id input =>
    have isUpdate : (pubSubMachine.step state (.turn id input)).calls =
        Function.update state.calls id (PubSub.turn state.store (state.calls id) input).2 := by
      funext other
      simp [Machine.step, pubSubMachine, Function.update_apply]
    rw [isUpdate]
    exact sound.turn id input undisturbed
  | outside change => exact sound.outside change undisturbed

theorem flatMap_of_only {Item Result : Type} {items : List Item} {only : Item}
    {results : Item → List Result} (nodup : items.Nodup) (member : only ∈ items)
    (empty : ∀ item, item ≠ only → results item = []) :
    items.flatMap results = results only := by
  obtain ⟨before, after, rfl⟩ := List.append_of_mem member
  rw [List.nodup_append, List.nodup_cons] at nodup
  have none {others : List Item} (apart : ∀ item ∈ others, item ≠ only) :
      others.flatMap results = [] :=
    List.flatMap_eq_nil_iff.mpr fun item isOther => empty item (apart item isOther)
  have noneBefore := none fun item isBefore => nodup.2.2 item isBefore only List.mem_cons_self
  have noneAfter : after.flatMap results = [] := none fun item isAfter => by
    rintro rfl
    exact nodup.2.1.1 isAfter
  rw [List.flatMap_append, List.flatMap_cons, noneBefore, noneAfter, List.nil_append,
    List.append_nil]

theorem Sound.delivers {state : Shared (Service Handler) Call}
    (sound : Sound state.store state.calls) (quiet : Quiet state)
    (connected : state.store.connected = true) : Delivers state.store := by
  have isPub : state.store.pub ≠ none := by
    intro noPub
    obtain ⟨id, reconnects⟩ := sound.reconnecting connected noPub
    have isOver := quiet.calls id
    cases isCall : state.calls id with
    | notStarted | ended => rw [isCall] at reconnects; cases reconnects
    | _ => rw [isCall] at isOver; cases isOver
  obtain ⟨publisher, isPublisher⟩ := Option.ne_none_iff_exists'.mp isPub
  obtain ⟨client, isSub, once⟩ := sound.listening connected publisher isPublisher
  have isOpen := sound.subOpen client isSub
  have subscribed : (state.store.clients client).subscribed = state.store.handlers.keys.toFinset := by
    rw [← sound.settledKeys connected client isSub, Client.settled, quiet.commands client isOpen]
    rfl
  have silent {other : Nat} (different : other ≠ client)
      (otherOpen : (state.store.clients other).isOpen = true) :
      (state.store.clients other).listeners = 0 := by
    by_contra listens
    rcases sound.owned other otherOpen listens with isOther | ⟨id, hasPub, connects, isClosing⟩
    · exact different (Option.some.inj (isOther.symm.trans isSub))
    · have isOver := quiet.calls id
      rw [isClosing] at isOver
      cases isOver
  constructor
  · intro topic
    constructor
    · rintro ⟨other, otherOpen, isSubscribed⟩
      by_cases same : other = client
      · subst same
        rwa [subscribed, List.mem_toFinset] at isSubscribed
      · rw [(sound.idle other (silent same otherOpen)).1] at isSubscribed
        cases isSubscribed
    · intro hasHandlers
      exact ⟨client, isOpen, by rw [subscribed, List.mem_toFinset]; exact hasHandlers⟩
  · intro topic keys value handler hasHandlers
    have nothing (other : Nat) (different : other ≠ client) :
        deliver state.store topic (some (.obj keys value)) other = [] := by
      rw [deliver]
      split
      · rename_i delivered
        rw [silent different delivered.1]
        rfl
      · rfl
    have isDelivered : deliver state.store topic (some (.obj keys value)) client =
        state.store.handlersOf topic := by
      rw [deliver, if_pos ⟨isOpen, by rw [subscribed, List.mem_toFinset]; exact hasHandlers⟩, once]
      simp [dispatchMessage, parseMessage]
    rw [received, flatMap_of_only List.nodup_range
      (List.mem_range.mpr (sound.subBorn client isSub)) nothing, isDelivered]
    obtain ⟨channelHandlers, isHeld⟩ := InsertionMap.mem_keys_iff.mp hasHandlers
    have handlersHeld : state.store.handlersOf topic = channelHandlers := by
      rw [Service.handlersOf, isHeld]
      rfl
    rw [handlersHeld]
    exact (sound.handlerSets topic channelHandlers isHeld).count

omit [DecidableEq Handler] in
theorem Sound.initial : Sound (.initial : Service Handler) fun _ => .notStarted where
  handlerSets topic channelHandlers isHeld := by
    rw [Service.initial, InsertionMap.get_empty] at isHeld
    cases isHeld
  unborn _ _ := rfl
  idle _ _ := ⟨rfl, rfl⟩
  subBorn _ isSub := by cases isSub
  subOpen _ isSub := by cases isSub
  subOnce _ isSub := by cases isSub
  subPub _ := rfl
  owned _ _ listens := absurd rfl listens
  apart client closes := by
    obtain ⟨id, hasPub, connects, isClosing⟩ := closes
    cases isClosing
  listening connected := by cases connected
  reconnecting connected := by cases connected
  settledKeys connected := by cases connected

/-- In every run that is undisturbed, whenever the service is connected and nothing is under way,
what is subscribed at Redis is what has handlers, and a message reaches each of them once. -/
theorem delivers_once {events : List (Event Input (Change Handler))}
    (undisturbed : AllowedFrom pubSubMachine.step Undisturbed
      ⟨(.initial : Service Handler), fun _ => .notStarted⟩ events) :
    AlwaysFrom pubSubMachine.step
      (fun state => Quiet state → state.store.connected = true → Delivers state.store)
      ⟨(.initial : Service Handler), fun _ => .notStarted⟩ events := by
  have always := Runs.always_of_allowed pubSubMachine.step
    (fun state event (sound : Sound state.store state.calls) => sound.step event)
    Sound.initial undisturbed
  exact AlwaysFrom.mono pubSubMachine.step
    (fun state (sound : Sound state.store state.calls) => sound.delivers) always

end Steps

abbrev RunEvent := Event Input (Change Nat)

def connects (id : Nat) : List RunEvent :=
  [.turn id .connect, .turn id .resolve, .turn id .resolve, .turn id .resolve]

def rotated : Topic := .channel "parako:default:jwks:rotated"

def subscribes (client : Nat) (succeeded : Bool) : List RunEvent :=
  [.outside (.subscribe rotated 0), .outside (.answered client succeeded)]

def afterRun (events : List RunEvent) : Shared (Service Nat) Call :=
  Runs.run pubSubMachine.step ⟨.initial, fun _ => .notStarted⟩ events

theorem subscription_delivers : Delivers (afterRun (connects 0 ++ subscribes 1 true)).store := by
  have undisturbed : AllowedFrom pubSubMachine.step Undisturbed
      ⟨(.initial : Service Nat), fun _ => .notStarted⟩ (connects 0 ++ subscribes 1 true) := by
    refine ⟨trivial, ?_, ?_, ?_, trivial, trivial, trivial⟩
    · intro _ client isSub
      cases isSub
    · intro _ client isSub
      cases isSub
      rfl
    · rintro (isCall | isCall) <;> cases isCall
  have delivered := AlwaysFrom.final pubSubMachine.step (delivers_once undisturbed)
  refine delivered ⟨?_, ?_⟩ rfl
  · intro id
    rcases id with _ | id <;> rfl
  · intro client _
    rcases client with _ | _ | client <;> rfl

theorem subscription_lost :
    Quiet (afterRun (connects 0 ++ subscribes 1 false)) ∧
      (afterRun (connects 0 ++ subscribes 1 false)).store.connected = true ∧
        ¬Delivers (afterRun (connects 0 ++ subscribes 1 false)).store := by
  refine ⟨⟨?_, ?_⟩, rfl, ?_⟩
  · intro id
    rcases id with _ | id <;> rfl
  · intro client _
    rcases client with _ | _ | client <;> rfl
  · intro delivers
    obtain ⟨client, _, isSubscribed⟩ := (delivers.subscriptions rotated).mpr (by decide)
    rcases client with _ | _ | client
    · revert isSubscribed
      decide
    · revert isSubscribed
      decide
    · cases isSubscribed

end ParakoId.PubSub
