import Sockets.State.Session
import Sockets.Transport.Client

/-! `TCPStateServer`: one State session for each connection, over one store that all of them
share. -/
namespace Sockets.State
open Foundation Transport

/-- The sessions of TCP servers and clients send through the client of a slot, and have no
handlers. -/
def slotHost (L : StateLibrary) (N : Network) : StateHost L where
  World := Clients N
  SendHandler := ℕ
  PeerBoundHandler := Empty
  AcknowledgementHandler := Empty
  send := Clients.sendWhole
  peerBound handler := handler.elim
  acknowledged handler := handler.elim

structure TCPStateServerConfig (L : StateLibrary) [SizeWidth] where
  port : UInt16 := 0
  maximumClients : ℕ
  session : SocketStateSessionConfig L := {}

variable (L : StateLibrary) (N : Network)

/-- `server` says that the listening socket is open; `log` holds what the sessions did with the
availability of their peers, by connection. -/
structure TCPStateServer [SizeWidth] where
  clients : Clients N
  store : Store L
  session : ℕ → SocketStateSession (slotHost L N) := fun _ => {}
  maxTCPClients : ℕ := 8
  config : TCPStateServerConfig L := { maximumClients := maxTCPClients }
  server : Bool := false
  log : List (ℕ × StateEvent L) := []

variable {L N} [SizeWidth]

namespace TCPStateServer

/-- What a session of the server finds outside itself. -/
def outside (v : TCPStateServer L N) : Exterior (slotHost L N) :=
  { store := v.store, world := v.clients }

/-- The server after a call of the session in a slot. -/
def putSession (slot : ℕ) (r : SocketStateSession (slotHost L N) × Exterior (slotHost L N))
    (v : TCPStateServer L N) : TCPStateServer L N :=
  { v with session := Function.update v.session slot r.1
           store := r.2.store
           clients := r.2.world
           log := v.log ++ r.2.log.map (Prod.mk (v.clients.client slot)) }

/-- `Initialize`; `started` says whether the worker started. -/
def initializeWith (config : TCPStateServerConfig L) (started : Bool) (v : TCPStateServer L N) :
    TCPStateServer L N :=
  if v.server || config.port = 0 || config.maximumClients = 0 ||
      decide (v.maxTCPClients < config.maximumClients) ||
      config.session.maximumProtocolMessageBytes.val = 0 then v
  else { v with config, server := started }

/-- The connection in a slot is given up, and the slot with it. -/
def releaseClient (slot : ℕ) (v : TCPStateServer L N) : TCPStateServer L N :=
  { v with clients := (v.clients.stop slot).setActive slot false }

def resetClient (slot : ℕ) (v : TCPStateServer L N) : TCPStateServer L N :=
  (v.putSession slot ((v.session slot).shutdown v.outside)).releaseClient slot

def shutdown (v : TCPStateServer L N) : TCPStateServer L N :=
  if !v.server then v
  else
    { (List.range v.maxTCPClients).foldl (fun v slot => v.resetClient slot) v with server := false }

/-- A new connection in a slot. -/
def assignClient (slot : ℕ) (v : TCPStateServer L N) : TCPStateServer L N :=
  { v with clients := v.clients.assign slot }

/-- `Initialize` of the session in a slot: the devices of a server's clients are not known before
they say who they are. -/
def startSession (observed : Bool) (slot : ℕ) (v : TCPStateServer L N) : Bool × TCPStateServer L N :=
  let r := (v.session slot).initializeWith
    { v.config.session with expectedRemoteDevice := L.zero } (some slot) observed v.outside
  (r.1, v.putSession slot r.2)

def activateClient (slot : ℕ) (v : TCPStateServer L N) : TCPStateServer L N :=
  { v with clients := v.clients.setActive slot true }

/-- An incoming connection in a slot that is free. -/
def admitClient (observed : Bool) (slot : ℕ) (v : TCPStateServer L N) : TCPStateServer L N :=
  let r := ((v.resetClient slot).assignClient slot).startSession observed slot
  if !r.1 then r.2.resetClient slot else r.2.activateClient slot

/-- `connected()` of the client in a slot. -/
def queryClient (slot : ℕ) (v : TCPStateServer L N) : Bool × TCPStateServer L N :=
  let q := v.clients.connected slot
  (q.1, { v with clients := q.2 })

/-- The search for a free slot; one whose client is gone is free. -/
def place (observed : Bool) : List ℕ → TCPStateServer L N → TCPStateServer L N
  -- no slot is free: the incoming connection is closed
  | [], v => v
  | slot :: slots, v =>
    let q := if v.clients.active slot then v.queryClient slot else (false, v)
    if q.1 then place observed slots q.2 else q.2.admitClient observed slot

def acceptClientLocked (incoming observed : Bool) (v : TCPStateServer L N) : TCPStateServer L N :=
  if !v.server || !incoming then v else v.place observed (List.range v.config.maximumClients)

/-- The first look at a slot in an iteration. -/
def inspectClient (slot : ℕ) (v : TCPStateServer L N) : TCPStateServer L N :=
  if !v.clients.active slot then v
  else
    let q := v.queryClient slot
    if !q.1 then q.2.resetClient slot else q.2

/-- `Feed` of the session in a slot. -/
def feedClient (slot : ℕ) (chunk : Bytes) (v : TCPStateServer L N) : Bool × TCPStateServer L N :=
  let r := (v.session slot).feed chunk v.outside
  (r.1, v.putSession slot r.2)

/-- One read of a slot; a session that refuses what it is fed loses its connection. -/
def readClient (slot : ℕ) (chunk : Bytes) (v : TCPStateServer L N) : TCPStateServer L N :=
  if !v.clients.active slot then v
  else
    let r := v.feedClient slot chunk
    if !r.1 then r.2.resetClient slot else r.2

/-- A notification of the session in a slot, by the objects it observes. -/
def notifySession (slot : ℕ)
    (f : SocketStateSession (slotHost L N) → Exterior (slotHost L N) → Exterior (slotHost L N))
    (v : TCPStateServer L N) : TCPStateServer L N :=
  if !(v.session slot).registered then v
  else v.putSession slot (v.session slot, f (v.session slot) v.outside)

variable (L) in
/-- What can happen to a server. The worker, the publisher and the registry act from threads of
their own; a session is locked for the length of one call. `changed` is what the application does
to the publisher and the registry. -/
inductive Action where
  | startServer (config : TCPStateServerConfig L) (started : Bool)
  | shutdown
  | accept (incoming observed : Bool)
  | inspect (slot : ℕ)
  | read (slot : ℕ) (chunk : Bytes)
  | changed (publisher : L.Publisher) (subscriptions : L.Subscriptions)
  | published (slot : ℕ) (typeId : StateTypeId) (update : StateUpdate L.Device L.Value)
  | subscribed (slot : ℕ) (descriptor : Descriptor L.Device)
  | unsubscribed (slot : ℕ) (descriptor : Descriptor L.Device)

def step (v : TCPStateServer L N) : Action L → TCPStateServer L N
  | .startServer config started => v.initializeWith config started
  | .shutdown => v.shutdown
  | .accept incoming observed => v.acceptClientLocked incoming observed
  | .inspect slot => v.inspectClient slot
  | .read slot chunk => v.readClient slot chunk
  | .changed publisher subscriptions =>
    { v with store := { v.store with publisher, subscriptions } }
  | .published slot typeId update =>
    v.notifySession slot fun s x => s.onTypedStatePublished typeId update x
  | .subscribed slot d => v.notifySession slot fun s x => s.onStateSubscribed d x
  | .unsubscribed slot d => v.notifySession slot fun s x => s.onStateUnsubscribed d x

/-- The reads of one slot in an iteration. -/
def readAll (slot : ℕ) : List Bytes → TCPStateServer L N → TCPStateServer L N
  | [], v => v
  | chunk :: chunks, v =>
    let r := v.feedClient slot chunk
    if !r.1 then r.2.resetClient slot else readAll slot chunks r.2

def serveClient (reads : ℕ → List Bytes) (v : TCPStateServer L N) (slot : ℕ) :
    TCPStateServer L N :=
  if !v.clients.active slot then v
  else
    let q := v.queryClient slot
    if !q.1 then q.2.resetClient slot else readAll slot (reads slot) q.2

/-- `OnWorkerIteration`: at most one incoming connection, and for each slot the chunks that its
reads return. -/
def onWorkerIteration (incoming observed : Bool) (reads : ℕ → List Bytes)
    (v : TCPStateServer L N) : TCPStateServer L N :=
  (List.range v.config.maximumClients).foldl (serveClient reads)
    (v.acceptClientLocked incoming observed)

end TCPStateServer
end Sockets.State
