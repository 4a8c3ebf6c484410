import Sockets.Clock.Protocol
import Sockets.Foundation.Run
import Sockets.Frame.Decoders
import Sockets.Transport.Client

/-! `TCPClockSynchronizationServer`: the reference's half of the protocol, for one connection in each
slot. The worker holds a mutex for a whole iteration, so the operations below are atomic. -/
namespace Sockets.Clock
open Foundation Transport Sockets.Frame

/-- The network under a server, and the clock it is the reference for; `maxTCPClients` is what the
build sets `ESPRESSIO_SOCKETS_MAX_TCP_CLIENTS` to. -/
structure ClockServerHost where
  net : Network
  maxTCPClients : ℕ := 8
  localTimestamp : net.World → UInt64 × net.World

structure TCPClockSynchronizationServerConfig where
  port : UInt16 := 45110
  maximumClients : ℕ
  deriving DecidableEq

/-- What happened to a server, in order: a chunk was read from a connection, a message was taken from
it and answered or not. -/
inductive ClockServerEvent where
  | read (connection : ℕ) (chunk : Bytes) (receiveTime : UInt64)
  | request (connection : ℕ) (message : Bytes) (response : Option ResponseMessage)
  deriving DecidableEq

variable (R : ClockServerHost)

/-- `server` says that the listening socket is open and the worker runs. -/
structure TCPClockSynchronizationServer where
  clients : Clients R.net
  decoder : ℕ → SocketEventFrameDecoder := fun _ => {}
  config : TCPClockSynchronizationServerConfig := { maximumClients := R.maxTCPClients }
  protocol : SocketClockSynchronizationProtocol := { mode := .reference }
  server : Bool := false
  log : List ClockServerEvent := []

variable {R}

/-- The buffer an iteration reads into. -/
def readCapacity : ℕ := 256

/-- What the network brings a worker iteration: whether a client comes in, and for each slot the
chunks its reads return; one that brings nothing ends them. -/
structure ClockServerIteration where
  incoming : Bool := false
  reads : ℕ → List Bytes := fun _ => []

namespace TCPClockSynchronizationServer

def record (e : ClockServerEvent) (v : TCPClockSynchronizationServer R) :
    TCPClockSynchronizationServer R := { v with log := v.log ++ [e] }

def setDecoder (slot : ℕ) (d : SocketEventFrameDecoder) (v : TCPClockSynchronizationServer R) :
    TCPClockSynchronizationServer R := { v with decoder := Function.update v.decoder slot d }

/-- `GetLocalTimestamp`. -/
def getLocalTimestamp (v : TCPClockSynchronizationServer R) :
    UInt64 × TCPClockSynchronizationServer R :=
  let t := R.localTimestamp v.clients.world
  (t.1, { v with clients := { v.clients with world := t.2 } })

/-- The limit of the loops over the slots. -/
def limit (v : TCPClockSynchronizationServer R) : ℕ := min v.config.maximumClients R.maxTCPClients

/-- `SendMessage`; the client is not asked whether it is connected. -/
def sendMessage (slot : ℕ) (data : Bytes) (v : TCPClockSynchronizationServer R) :
    Bool × TCPClockSynchronizationServer R :=
  let frame := buildSocketEventFrame data
  if frame = [] then (false, v)
  else
    let connection := v.clients.client slot
    let r := writeAll R.net connection frame v.clients.world
    (r.1.1, { v with clients := { v.clients with
      world := r.2, wire := v.clients.wire ++ [.sent connection frame r.1.2] } })

/-- `ProcessRequest` on a message from a slot, with the callback that answers through its client. -/
def processRequest (slot : ℕ) (receiveTime : UInt64) (message : Bytes)
    (v : TCPClockSynchronizationServer R) : TCPClockSynchronizationServer R :=
  let t := v.getLocalTimestamp
  match v.protocol.processRequest message receiveTime t.1 with
  -- a message that is refused costs no look at the clock
  | none => v.record (.request (v.clients.client slot) message none)
  | some response =>
    ((t.2.record (.request (v.clients.client slot) message (some response))).sendMessage slot
      response.encode).2

/-- The connection in a slot is given up, and the slot with it. -/
def releaseClient (slot : ℕ) (v : TCPClockSynchronizationServer R) :
    TCPClockSynchronizationServer R :=
  { v with clients := (v.clients.stop slot).setActive slot false }

/-- One read: a chunk that the decoder refuses costs the connection. -/
def readChunk (slot : ℕ) (chunk : Bytes) (v : TCPClockSynchronizationServer R) :
    Bool × TCPClockSynchronizationServer R :=
  let t := v.getLocalTimestamp
  let v := t.2.record (.read (v.clients.client slot) chunk t.1)
  let r := (v.decoder slot).push (processRequest slot t.1) chunk v
  (r.1, if r.1 then r.2.2.setDecoder slot r.2.1 else (r.2.2.setDecoder slot r.2.1).releaseClient slot)

/-- The reads of one slot. -/
def readClient (slot : ℕ) : List Bytes → TCPClockSynchronizationServer R →
    TCPClockSynchronizationServer R
  | [], v => v
  | chunk :: chunks, v =>
    if chunk = [] then v
    else
      let r := v.readChunk slot (chunk.take readCapacity)
      if r.1 then readClient slot chunks r.2 else r.2

/-- `connected()` of the client in a slot. -/
def queryClient (slot : ℕ) (v : TCPClockSynchronizationServer R) :
    Bool × TCPClockSynchronizationServer R :=
  let q := v.clients.connected slot
  (q.1, { v with clients := q.2 })

def serveClient (reads : ℕ → List Bytes) (v : TCPClockSynchronizationServer R) (slot : ℕ) :
    TCPClockSynchronizationServer R :=
  if !v.clients.active slot then v
  else
    let q := v.queryClient slot
    if !q.1 then (q.2.setDecoder slot (q.2.decoder slot).reset).releaseClient slot
    else q.2.readClient slot (reads slot)

/-- An incoming connection in a slot that is free. -/
def admitClient (slot : ℕ) (v : TCPClockSynchronizationServer R) :
    TCPClockSynchronizationServer R :=
  { v with clients := ((v.clients.stop slot).assign slot).setActive slot true }.setDecoder slot
    (v.decoder slot).reset

/-- The search for a free slot; one whose client is gone is free. -/
def place : List ℕ → TCPClockSynchronizationServer R → TCPClockSynchronizationServer R
  -- no slot is free: the incoming connection is closed
  | [], v => v
  | slot :: slots, v =>
    let q := if v.clients.active slot then v.queryClient slot else (false, v)
    if q.1 then place slots q.2 else q.2.admitClient slot

def acceptClientLocked (incoming : Bool) (v : TCPClockSynchronizationServer R) :
    TCPClockSynchronizationServer R :=
  if !v.server || !incoming then v else v.place (List.range v.limit)

def onWorkerIteration (i : ClockServerIteration) (v : TCPClockSynchronizationServer R) :
    TCPClockSynchronizationServer R :=
  (List.range v.limit).foldl (serveClient i.reads) (v.acceptClientLocked i.incoming)

/-- `Initialize`; `started` says whether the worker started. -/
def initializeWith (config : TCPClockSynchronizationServerConfig) (started : Bool)
    (v : TCPClockSynchronizationServer R) : Bool × TCPClockSynchronizationServer R :=
  if v.server then (true, v)
  else if config.port = 0 ∨ config.maximumClients = 0 then (false, v)
  else if !started then (false, { v with config })
  else (true, { v with config, server := true })

/-- `Shutdown`: all slots are cleared, those beyond the limit as well. -/
def shutdown (v : TCPClockSynchronizationServer R) : TCPClockSynchronizationServer R :=
  if !v.server then v
  else
    let v := (List.range R.maxTCPClients).foldl
      (fun v slot => (v.setDecoder slot (v.decoder slot).reset).releaseClient slot) v
    { v with server := false }

/-- A call of the owner, or an iteration of the worker. -/
inductive Action where
  | startServer (config : TCPClockSynchronizationServerConfig) (started : Bool)
  | shutdown
  | onWorkerIteration (i : ClockServerIteration)

def step (v : TCPClockSynchronizationServer R) : Action → TCPClockSynchronizationServer R
  | .startServer config started => (v.initializeWith config started).2
  | .shutdown => v.shutdown
  | .onWorkerIteration i => if v.server then v.onWorkerIteration i else v

end TCPClockSynchronizationServer
end Sockets.Clock
