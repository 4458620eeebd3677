import Mathlib.Data.Finset.Basic
import ParakoId.Library.InsertionMap
import ParakoId.Library.Interleavings
import ParakoId.Library.Json

/-!
`RedisPubSubService`: the table of handlers, the two connections to Redis, and what each call does
between its awaits.
-/

namespace ParakoId.PubSub

open Interleavings (Machine Shared Event)

inductive Topic
  | channel (name : String)
  | pattern (glob : String)
  deriving DecidableEq

inductive Command
  | subscribe (topics : Finset Topic)
  | unsubscribe (topic : Topic)

def Command.apply (subscribed : Finset Topic) : Command → Finset Topic
  | .subscribe topics => subscribed ∪ topics
  | .unsubscribe topic => subscribed.erase topic

/-- A connection in subscriber mode: the listeners that the service has attached, what Redis has
subscribed for it, and the commands that Redis has not answered. -/
structure Client where
  listeners : Nat
  subscribed : Finset Topic
  pending : List Command
  isOpen : Bool

namespace Client

def new : Client := ⟨0, ∅, [], true⟩

def send (command : Command) (client : Client) : Client :=
  { client with pending := client.pending ++ [command] }

def settled (client : Client) : Finset Topic :=
  client.pending.foldl Command.apply client.subscribed

def answer (succeeded : Bool) (client : Client) : Client :=
  match client.pending with
  | [] => client
  | command :: rest =>
    { client with
      subscribed := if succeeded then command.apply client.subscribed else client.subscribed
      pending := rest }

/-- A connection that was lost and is there again: the library subscribes to all topics again, and
sends what was not answered once more. -/
def reconnect (client : Client) : Client :=
  if client.subscribed = ∅ then client
  else { client with subscribed := ∅, pending := .subscribe client.subscribed :: client.pending }

end Client

structure Service (Handler : Type) where
  pub : Option Nat
  sub : Option Nat
  connected : Bool
  handlers : InsertionMap Topic (List Handler)
  clients : Nat → Client
  created : Nat

/-- Where a call of `connect` or `disconnect` waits. Both close the old clients first or last, one
after the other. -/
inductive Call
  | notStarted
  | closingSub (client : Nat) (hasPub connects : Bool)
  | closingPub (connects : Bool)
  | connectingPub
  | connectingSub
  | subscribing
  | ended

inductive Input
  | connect
  | disconnect
  | resolve
  | reject

inductive Change (Handler : Type)
  | subscribe (topic : Topic) (handler : Handler)
  | unsubscribe (topic : Topic) (handler : Handler)
  | answered (client : Nat) (succeeded : Bool)
  | reconnected (client : Nat)

variable {Handler : Type}

namespace Service

def initial : Service Handler where
  pub := none
  sub := none
  connected := false
  handlers := .empty
  clients _ := .new
  created := 0

def updateClient (service : Service Handler) (id : Nat) (update : Client → Client) :
    Service Handler :=
  { service with clients := Function.update service.clients id (update (service.clients id)) }

def handlersOf (service : Service Handler) (topic : Topic) : List Handler :=
  (service.handlers.get topic).getD []

end Service

/-! `connect` and `disconnect`. -/

def openPub (service : Service Handler) : Service Handler × Call :=
  ({ service with
      connected := false
      pub := some service.created
      created := service.created + 1 }, .connectingPub)

def afterClosing (service : Service Handler) (connects : Bool) : Service Handler × Call :=
  if connects then openPub service else (service, .ended)

def closeClients (service : Service Handler) (connects : Bool) : Service Handler × Call :=
  let closing := { service with sub := none, pub := none }
  match service.sub with
  | some client => (closing, .closingSub client service.pub.isSome connects)
  | none =>
    match service.pub with
    | some _ => (closing, .closingPub connects)
    | none => afterClosing closing connects

def startConnect (service : Service Handler) : Service Handler × Call :=
  if service.pub.isSome || service.sub.isSome then closeClients service true
  else openPub service

def startDisconnect (service : Service Handler) : Service Handler × Call :=
  closeClients { service with connected := false, handlers := .empty } false

def connectionFailed (service : Service Handler) : Service Handler × Call :=
  closeClients { service with connected := false } false

def attach (service : Service Handler) (client : Nat) : Service Handler :=
  { service.updateClient client fun held =>
      { held with
        listeners := held.listeners + 1
        pending := held.pending ++ service.handlers.keys.map fun topic => .subscribe {topic} } with
    connected := true }

def closedSub (service : Service Handler) (hasPub connects : Bool) : Service Handler × Call :=
  if hasPub then (service, .closingPub connects) else afterClosing service connects

def turn (service : Service Handler) : Call → Input → Service Handler × Call
  | .notStarted, .connect => startConnect service
  | .notStarted, .disconnect => startDisconnect service
  | .closingSub client hasPub connects, .resolve =>
    closedSub (service.updateClient client fun held => { held with isOpen := false }) hasPub
      connects
  | .closingSub _ hasPub connects, .reject => closedSub service hasPub connects
  | .closingPub connects, .resolve => afterClosing service connects
  | .closingPub connects, .reject => afterClosing service connects
  | .connectingPub, .resolve =>
    match service.pub with
    | some _ =>
      ({ service.updateClient service.created fun _ => .new with
          sub := some service.created
          created := service.created + 1 }, .connectingSub)
    | none => connectionFailed service
  | .connectingPub, .reject => connectionFailed service
  | .connectingSub, .resolve =>
    match service.sub with
    | some client => (attach service client, .subscribing)
    | none => connectionFailed service
  | .connectingSub, .reject => connectionFailed service
  | .subscribing, .resolve => (service, .ended)
  | call, _ => (service, call)

/-! `subscribe` and `unsubscribe`. -/

variable [DecidableEq Handler]

def issue (service : Service Handler) (command : Command) : Service Handler :=
  match service.connected, service.sub with
  | true, some client => service.updateClient client (Client.send command)
  | _, _ => service

def subscribe (service : Service Handler) (topic : Topic) (handler : Handler) :
    Service Handler :=
  match service.handlers.get topic with
  | some channelHandlers =>
    { service with handlers := service.handlers.set topic (channelHandlers.insert handler) }
  | none =>
    issue { service with handlers := service.handlers.set topic [handler] } (.subscribe {topic})

def unsubscribe (service : Service Handler) (topic : Topic) (handler : Handler) :
    Service Handler :=
  match service.handlers.get topic with
  | none => service
  | some channelHandlers =>
    let remaining := channelHandlers.filter (· ≠ handler)
    if remaining = [] then
      issue { service with handlers := service.handlers.delete topic } (.unsubscribe topic)
    else { service with handlers := service.handlers.set topic remaining }

def outside (service : Service Handler) : Change Handler → Service Handler
  | .subscribe topic handler => subscribe service topic handler
  | .unsubscribe topic handler => unsubscribe service topic handler
  | .answered client succeeded => service.updateClient client (Client.answer succeeded)
  | .reconnected client => service.updateClient client Client.reconnect

def pubSubMachine : Machine (Service Handler) Call Input (Change Handler) where
  turn := turn
  outside := outside

def parseMessage : Option Json → Option Json
  | some (.obj keys value) => some (.obj keys value)
  | _ => none

def dispatchMessage (service : Service Handler) (topic : Topic) (raw : Option Json) :
    List Handler :=
  match parseMessage raw with
  | some _ => service.handlersOf topic
  | none => []

def deliver (service : Service Handler) (topic : Topic) (raw : Option Json) (client : Nat) :
    List Handler :=
  if (service.clients client).isOpen ∧ topic ∈ (service.clients client).subscribed then
    (List.replicate (service.clients client).listeners (dispatchMessage service topic raw)).flatten
  else []

def received (service : Service Handler) (topic : Topic) (raw : Option Json) : List Handler :=
  (List.range service.created).flatMap (deliver service topic raw)

end ParakoId.PubSub
