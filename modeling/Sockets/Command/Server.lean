import Sockets.Command.Session
import Sockets.Transport.Client

/-! `TCPCommandServer`: one session for each connection, in a fixed number of slots. The worker and
the setters hold one mutex, so the operations below are atomic. -/
namespace Sockets.Command
open Foundation Transport

/-- The network and ESPressio Command under a server, and the handlers an application gives it;
`maxTCPClients` is what the build sets `ESPRESSIO_SOCKETS_MAX_TCP_CLIENTS` to. -/
structure TCPCommandHost (Value : Type) [CommandLibrary Value] where
  net : Network
  maxTCPClients : ℕ := 8
  Registry : Type
  Policy : Type
  Observer : Type
  tokenize : Bytes → List Bytes × Bytes
  invoke : Registry → CommandInvocation Value → net.World → CommandResult × net.World
  invokeLine : Registry → Bytes → net.World → CommandResult × net.World
  policy : Policy → SocketCommandInvocationContext Value → net.World → CommandResult × net.World
  observe : Observer → SocketCommandInvocationContext Value → CommandResult → net.World → net.World

variable {Value : Type} [CommandLibrary Value]

/-- The client of the slot a writer captured, while the slot is active. -/
def writeToClient {N : Network} (slot : ℕ) (bytes : Bytes) (x : Clients N) : Bool × Clients N :=
  if !x.active slot then (false, x) else x.sendWhole slot bytes

/-- What the sessions of a server call: the handlers act on the outside world, the writer of a
slot on its client. -/
def TCPCommandHost.sessions (T : TCPCommandHost Value) : CommandHost Value where
  World := Clients T.net
  Registry := T.Registry
  Policy := T.Policy
  Observer := T.Observer
  Writer := ℕ
  tokenize := T.tokenize
  invoke registry invocation x :=
    let r := T.invoke registry invocation x.world
    (r.1, { x with world := r.2 })
  invokeLine registry line x :=
    let r := T.invokeLine registry line x.world
    (r.1, { x with world := r.2 })
  policy policy context x :=
    let r := T.policy policy context x.world
    (r.1, { x with world := r.2 })
  observe observer context result x :=
    { x with world := T.observe observer context result x.world }
  write := writeToClient

/-- Address and port of an incoming connection. -/
structure Incoming where
  remoteIP : Bytes
  remotePort : UInt16
  deriving DecidableEq

/-- What a connection was accepted as. -/
structure Peer where
  slot : ℕ
  incoming : Incoming
  sessionID : UInt64
  mode : SocketCommandMode
  deriving DecidableEq

variable (T : TCPCommandHost Value)

/-- What happened to a server, in order; the calls of a session carry its connection. -/
inductive ServerEvent where
  | policySet (policy : Option T.Policy)
  | accepted (connection : ℕ) (peer : Peer)
  | session (connection : ℕ) (event : CommandEvent T.sessions)

structure TCPCommandServerConfig [SizeWidth] where
  port : UInt16 := 0
  maximumClients : ℕ
  session : SocketCommandSessionConfig

/-- `server` says that the listening socket is open. -/
structure TCPCommandServer [SizeWidth] where
  clients : Clients T.net
  session : ℕ → SocketCommandSession T.sessions := fun _ => {}
  id : ℕ → UInt64 := fun _ => 0
  server : Bool := false
  config : TCPCommandServerConfig := { maximumClients := T.maxTCPClients, session := {} }
  registry : Option T.Registry := none
  policy : Option T.Policy := none
  observer : Option T.Observer := none
  nextSessionID : UInt64 := 1
  log : List (ServerEvent T) := []

/-- What the network brings a worker iteration: at most one incoming connection, and for each slot
the chunks its reads return before `available()` or `read()` ends the loop. -/
structure Iteration where
  incoming : Option Incoming := none
  reads : ℕ → List Bytes := fun _ => []

/-- The identifier after `id`; zero is left out when the counter comes round. -/
def advanceSessionID (id : UInt64) : UInt64 := if id + 1 = 0 then 1 else id + 1

variable {T} [SizeWidth]

namespace TCPCommandServer

def updateSession (slot : ℕ)
    (f : SocketCommandSession T.sessions → SocketCommandSession T.sessions)
    (v : TCPCommandServer T) : TCPCommandServer T :=
  { v with session := Function.update v.session slot (f (v.session slot)) }

def resetClient (slot : ℕ) (v : TCPCommandServer T) : TCPCommandServer T :=
  let v := v.updateSession slot SocketCommandSession.shutdown
  { v with clients := (v.clients.stop slot).setActive slot false
           id := Function.update v.id slot 0 }

def setPolicy (policy : Option T.Policy) (v : TCPCommandServer T) : TCPCommandServer T :=
  { v with policy
           session := fun slot =>
             if v.clients.active slot then (v.session slot).setPolicy policy else v.session slot
           log := v.log ++ [.policySet policy] }

def setResultObserver (observer : Option T.Observer) (v : TCPCommandServer T) :
    TCPCommandServer T :=
  { v with observer
           session := fun slot =>
             if v.clients.active slot then (v.session slot).setResultObserver observer
             else v.session slot }

/-- `Initialize`; `started` says whether the worker started. -/
def initializeWith (config : TCPCommandServerConfig) (registry : T.Registry) (started : Bool)
    (v : TCPCommandServer T) : TCPCommandServer T :=
  if v.server || config.port = 0 || config.maximumClients = 0 ||
      decide (T.maxTCPClients < config.maximumClients) ||
      config.session.maximumRequestBytes.val = 0 then v
  else if !started then { v with config, registry := none, server := false }
  else { v with config, registry := some registry, server := true }

def shutdown (v : TCPCommandServer T) : TCPCommandServer T :=
  if !v.server then v
  else
    let v := (List.range T.maxTCPClients).foldl (fun v slot => v.resetClient slot) v
    { v with server := false, registry := none }

/-- An incoming connection in a slot that is free. -/
def admitClient (registry : T.Registry) (incoming : Incoming) (slot : ℕ)
    (v : TCPCommandServer T) : TCPCommandServer T :=
  let v := v.resetClient slot
  let id := v.nextSessionID
  let peer : Peer := { slot, incoming, sessionID := id, mode := v.config.session.mode }
  let v := { v with
    clients := v.clients.assign slot
    id := Function.update v.id slot id
    nextSessionID := advanceSessionID v.nextSessionID
    log := v.log ++ [ServerEvent.accepted (v.clients.connections + 1) peer] }
  let metadata : SocketCommandMetadata :=
    { transport := text "tcp", remoteAddress := incoming.remoteIP
      remotePort := incoming.remotePort, sessionID := id }
  let r := (v.session slot).initializeWith registry v.config.session metadata (some slot)
  if !r.1 then (v.updateSession slot fun _ => r.2).resetClient slot
  else
    let v := v.updateSession slot fun _ => (r.2.setPolicy v.policy).setResultObserver v.observer
    { v with clients := v.clients.setActive slot true }

/-- The search for a free slot; one whose client is gone is free. -/
def place (registry : T.Registry) (incoming : Incoming) :
    List ℕ → TCPCommandServer T → TCPCommandServer T
  -- no slot is free: the incoming connection is closed
  | [], v => v
  | slot :: slots, v =>
    let q := if v.clients.active slot then v.clients.connected slot else (false, v.clients)
    let v := { v with clients := q.2 }
    if q.1 then place registry incoming slots v else admitClient registry incoming slot v

def acceptClientLocked (incoming : Option Incoming) (v : TCPCommandServer T) :
    TCPCommandServer T :=
  match v.registry, incoming with
  | some registry, some incoming =>
    if !v.server then v else place registry incoming (List.range v.config.maximumClients) v
  | _, _ => v

/-- `Feed` of the session in a slot. -/
def feedClient (slot : ℕ) (chunk : Bytes) (v : TCPCommandServer T) : Bool × TCPCommandServer T :=
  let r := (v.session slot).feed chunk { world := v.clients }
  let v' := v.updateSession slot fun _ => r.2.1
  (r.1, { v' with clients := r.2.2.world
                  log := v.log ++ r.2.2.log.map (.session (v.clients.client slot)) })

/-- The reads of one slot. -/
def readClient (slot : ℕ) : List Bytes → TCPCommandServer T → TCPCommandServer T
  | [], v => v
  | chunk :: chunks, v =>
    let r := v.feedClient slot chunk
    if !r.1 && v.config.session.disconnectOnProtocolError then r.2.resetClient slot
    else readClient slot chunks r.2

def serveClient (reads : ℕ → List Bytes) (v : TCPCommandServer T) (slot : ℕ) :
    TCPCommandServer T :=
  if !v.clients.active slot then v
  else
    let q := v.clients.connected slot
    let v := { v with clients := q.2 }
    if !q.1 then v.resetClient slot else v.readClient slot (reads slot)

def onWorkerIteration (i : Iteration) (v : TCPCommandServer T) : TCPCommandServer T :=
  if !v.server then v
  else
    let v := v.acceptClientLocked i.incoming
    (List.range v.config.maximumClients).foldl (serveClient i.reads) v

/-- What can happen to a server. -/
inductive Action (T : TCPCommandHost Value) where
  | startServer (config : TCPCommandServerConfig) (registry : T.Registry) (started : Bool)
  | shutdown
  | setPolicy (policy : Option T.Policy)
  | setResultObserver (observer : Option T.Observer)
  | onWorkerIteration (i : Iteration)

def step (v : TCPCommandServer T) : Action T → TCPCommandServer T
  | .startServer config registry started => v.initializeWith config registry started
  | .shutdown => v.shutdown
  | .setPolicy policy => v.setPolicy policy
  | .setResultObserver observer => v.setResultObserver observer
  | .onWorkerIteration i => v.onWorkerIteration i

/-- What is left of a client: a stopped connection, a session that is shut down and a free slot. -/
theorem resetClient_leaves (slot : ℕ) (v : TCPCommandServer T) :
    let reset := v.resetClient slot
    reset.clients = (v.clients.stop slot).setActive slot false ∧
      reset.clients.active slot = false ∧ reset.session slot = (v.session slot).shutdown ∧
      (reset.session slot).initialized = false ∧ reset.id slot = 0 := by
  intro reset
  have hsession : reset.session slot = (v.session slot).shutdown := Function.update_self ..
  refine ⟨rfl, Function.update_self .., hsession, ?_, Function.update_self ..⟩
  rw [hsession]
  rfl

/-- One read of a client that is connected. -/
theorem serveClient_single {v : TCPCommandServer T} {slot : ℕ}
    (hactive : v.clients.active slot = true)
    (hconnected : (v.clients.connected slot).1 = true) (chunk : Bytes) :
    let r := (v.session slot).feed chunk { world := (v.clients.connected slot).2 }
    (v.serveClient (fun _ => [chunk]) slot).log =
        v.log ++ r.2.2.log.map (.session (v.clients.client slot)) ∧
      (v.serveClient (fun _ => [chunk]) slot).clients.wire = r.2.2.world.wire := by
  simp only [serveClient, hactive, hconnected, Bool.not_true, Bool.false_eq_true, if_false,
    readClient]
  split_ifs <;> exact ⟨rfl, rfl⟩

/-- An iteration of a server with one slot and no incoming connection. -/
theorem onWorkerIteration_single {v : TCPCommandServer T} (hserver : v.server = true)
    (hmax : v.config.maximumClients = 1) {i : Iteration} (hi : i.incoming = none) :
    v.onWorkerIteration i = v.serveClient i.reads 0 := by
  have haccept : v.acceptClientLocked none = v := by
    unfold acceptClientLocked
    split <;> simp_all
  simp [onWorkerIteration, hserver, hi, haccept, hmax]

end TCPCommandServer
end Sockets.Command
