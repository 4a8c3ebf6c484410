import Sockets.State.Server

/-! `TCPStateClient`: one State session over a connection that is made again when it is lost. -/
namespace Sockets.State
open Foundation Transport

structure TCPStateClientConfig (L : StateLibrary) [SizeWidth] where
  host : Bytes := []
  port : UInt16 := 0
  reconnectIntervalMilliseconds : UInt32 := 2000
  session : SocketStateSessionConfig L := {}

variable (L : StateLibrary) (N : Network)

/-- The one client is the client of slot 0; `attached` says that the worker runs. -/
structure TCPStateClient [SizeWidth] where
  clients : Clients N
  store : Store L
  session : SocketStateSession (slotHost L N) := {}
  config : TCPStateClientConfig L := {}
  attached : Bool := false
  lastConnectAttempt : UInt32 := 0

variable {L N} [SizeWidth]

namespace TCPStateClient

def outside (v : TCPStateClient L N) : Exterior (slotHost L N) :=
  { store := v.store, world := v.clients }

/-- The client after a call of its session. -/
def putSession (r : SocketStateSession (slotHost L N) × Exterior (slotHost L N))
    (v : TCPStateClient L N) : TCPStateClient L N :=
  { v with session := r.1, store := r.2.store, clients := r.2.world }

/-- `Initialize`; `started` says whether the worker started. -/
def initializeWith (config : TCPStateClientConfig L) (started : Bool) (v : TCPStateClient L N) :
    TCPStateClient L N :=
  if v.attached || config.host = [] || config.port = 0 ||
      config.session.maximumProtocolMessageBytes.val = 0 then v
  else { v with config, lastConnectAttempt := 0, attached := started }

def disconnectLocked (v : TCPStateClient L N) : TCPStateClient L N :=
  let v := v.putSession (v.session.shutdown v.outside)
  { v with clients := v.clients.stop 0 }

def shutdown (v : TCPStateClient L N) : TCPStateClient L N :=
  if !v.attached then v else { v.disconnectLocked with attached := false }

/-- `connected()` of the client. -/
def queryClient (v : TCPStateClient L N) : Bool × TCPStateClient L N :=
  let q := v.clients.connected 0
  (q.1, { v with clients := q.2 })

/-- A connection is made, and the session on it is initialised. -/
def startSession (observed : Bool) (v : TCPStateClient L N) : Bool × TCPStateClient L N :=
  let v := { v with clients := v.clients.assign 0 }
  let r := v.session.initializeWith v.config.session (some (0 : ℕ)) observed v.outside
  (r.1, v.putSession r.2)

/-- `EnsureConnectedLocked`; `connects` says whether a connection is made. -/
def ensureConnectedLocked (now : UInt32) (connects observed : Bool) (v : TCPStateClient L N) :
    Bool × TCPStateClient L N :=
  let q := v.queryClient
  if q.1 && q.2.session.initialized then (true, q.2)
  else if !q.2.attached then (false, q.2)
  else if now - q.2.lastConnectAttempt < q.2.config.reconnectIntervalMilliseconds then (false, q.2)
  else
    let v := { q.2 with lastConnectAttempt := now }.disconnectLocked
    if !connects then (false, v)
    else
      let r := v.startSession observed
      if !r.1 then (false, { r.2 with clients := r.2.clients.stop 0 }) else r

/-- `Feed` of the session. -/
def feedSession (chunk : Bytes) (v : TCPStateClient L N) : Bool × TCPStateClient L N :=
  let r := v.session.feed chunk v.outside
  (r.1, v.putSession r.2)

/-- One read; a session that refuses what it is fed loses its connection, and an iteration reads
on only while the session stands. -/
def readClient (chunk : Bytes) (v : TCPStateClient L N) : TCPStateClient L N :=
  if !v.session.initialized then v
  else
    let r := v.feedSession chunk
    if !r.1 then r.2.disconnectLocked else r.2

/-- The last look at the connection in an iteration. -/
def inspectClient (v : TCPStateClient L N) : TCPStateClient L N :=
  let q := v.queryClient
  if !q.1 then q.2.disconnectLocked else q.2

/-- A call of the session that leaves its own state as it is. -/
def callSession
    (f : SocketStateSession (slotHost L N) → Exterior (slotHost L N) → Exterior (slotHost L N))
    (v : TCPStateClient L N) : TCPStateClient L N := v.putSession (v.session, f v.session v.outside)

variable (L) in
/-- What can happen to a client, from the threads of the worker, of the publisher and of the
registry. -/
inductive Action where
  | startClient (config : TCPStateClientConfig L) (started : Bool)
  | shutdown
  | ensureConnected (now : UInt32) (connects observed : Bool)
  | read (chunk : Bytes)
  | inspect
  | requestResynchronization (typeId : StateTypeId)
  | changed (publisher : L.Publisher) (subscriptions : L.Subscriptions)
  | published (typeId : StateTypeId) (update : StateUpdate L.Device L.Value)
  | subscribed (descriptor : Descriptor L.Device)
  | unsubscribed (descriptor : Descriptor L.Device)

def step (v : TCPStateClient L N) : Action L → TCPStateClient L N
  | .startClient config started => v.initializeWith config started
  | .shutdown => v.shutdown
  | .ensureConnected now connects observed => (v.ensureConnectedLocked now connects observed).2
  | .read chunk => v.readClient chunk
  | .inspect => v.inspectClient
  | .requestResynchronization typeId =>
    v.callSession fun s x => (s.requestResynchronization typeId x).2
  | .changed publisher subscriptions =>
    { v with store := { v.store with publisher, subscriptions } }
  | .published typeId update =>
    if !v.session.registered then v
    else v.callSession fun s x => s.onTypedStatePublished typeId update x
  | .subscribed d =>
    if !v.session.registered then v else v.callSession fun s x => s.onStateSubscribed d x
  | .unsubscribed d =>
    if !v.session.registered then v else v.callSession fun s x => s.onStateUnsubscribed d x

end TCPStateClient
end Sockets.State
