import Sockets.Clock.Protocol
import Sockets.Foundation.Run
import Sockets.Foundation.Wrap
import Sockets.Frame.Decoders

/-! `TCPClockSynchronizationClient`: the protocol over one connection that is made again when it is
lost. An action is one section under the mutex, or the handling of one message outside of it. Times
are true times in milliseconds, of which the code reads `millis`; the answers of the TCP client are
arguments. -/
namespace Sockets.Clock
open Foundation Sockets.Frame

structure TCPClockSynchronizationClientConfig where
  synchronizationIntervalMilliseconds : UInt32 := 5000
  requestTimeoutMilliseconds : UInt32 := 1500
  host : Bytes := []
  port : UInt16 := 45110
  reconnectIntervalMilliseconds : UInt32 := 2000
  deriving DecidableEq

/-- What `EnsureConnectedLocked` meets: the answers of `connected()` and of `connect`, when it reads
the clock and when it calls `connect`. -/
structure Connection where
  connected : Bool
  attempted : ℕ
  called : ℕ
  connects : Bool
  deriving DecidableEq

/-- A call of `connect`, with what it finds in the decoder and in the protocol. -/
structure ConnectCall extends Attempt where
  buffered : Bytes
  pendingSequence : UInt32
  deriving DecidableEq

/-- What `RequestSynchronization` meets: when it builds the request, the timestamp of that moment,
whether the request is written and when it is stamped. -/
structure RequestCall where
  connection : Connection
  built : ℕ
  requestTime : UInt64
  written : Bool
  stamped : ℕ
  deriving DecidableEq

/-- A response whose sample was submitted: when the request it answers was built, and when it was
received. -/
structure Answer where
  built : ℕ
  received : ℕ
  deriving DecidableEq

/-- `completed` are the messages of an iteration that wait for their handling; the last four fields
are what an observer notes. -/
structure TCPClockSynchronizationClient where
  config : TCPClockSynchronizationClientConfig := {}
  protocol : SocketClockSynchronizationProtocol := {}
  decoder : SocketEventFrameDecoder := {}
  lastConnectAttempt : UInt32 := 0
  lastRequest : UInt32 := 0
  initialized : Bool := false
  working : Bool := false
  completed : List Bytes := []
  connectCalls : List ConnectCall := []
  requestBuilt : ℕ := 0
  submitted : List Sample := []
  answers : List Answer := []

namespace TCPClockSynchronizationClient

def ensureConnectedLocked (c : Connection) (s : TCPClockSynchronizationClient) :
    Bool × TCPClockSynchronizationClient :=
  if c.connected then (true, s)
  else if millis c.attempted - s.lastConnectAttempt < s.config.reconnectIntervalMilliseconds then
    (false, s)
  else
    let s := { s with
      lastConnectAttempt := millis c.attempted
      decoder := s.decoder.reset
      protocol := s.protocol.cancelPendingRequest }
    (c.connects, { s with connectCalls :=
      { attempted := c.attempted
        called := c.called
        interval := s.config.reconnectIntervalMilliseconds
        buffered := s.decoder.buffer
        pendingSequence := s.protocol.pendingSequence } :: s.connectCalls })

/-- `SendMessageLocked`; `written` is the answer of `WriteAll`. -/
def sendMessageLocked (data : Bytes) (written : Bool) : Bool :=
  buildSocketEventFrame data ≠ [] && written

/-- The reads of an iteration; one that brings nothing ends them, and so does a refused chunk, which
also costs the connection and the pending request. -/
def readAvailable : List Bytes → TCPClockSynchronizationClient → TCPClockSynchronizationClient
  | [], s => s
  | chunk :: chunks, s =>
    if chunk = [] then s
    else
      let r := s.decoder.push (fun message completed => completed ++ [message]) chunk s.completed
      let s := { s with decoder := r.2.1, completed := r.2.2 }
      if r.1 then s.readAvailable chunks
      else { s with protocol := s.protocol.cancelPendingRequest }

/-- The section of `OnWorkerIteration` under the mutex. -/
def poll (c : Connection) (chunks : List Bytes) (s : TCPClockSynchronizationClient) :
    TCPClockSynchronizationClient :=
  let r := s.ensureConnectedLocked c
  if !r.1 then r.2 else r.2.readAvailable chunks

/-- `ProcessMessage`, at the true time `received`. -/
def processMessage (message : Bytes) (received : ℕ) (receiveTime : UInt64)
    (s : TCPClockSynchronizationClient) : TCPClockSynchronizationClient :=
  if message.length < headerSize then s
  else
    let header := MessageHeader.decode message
    if header.magic ≠ headerMagic ∨ header.version ≠ 1 then s
    else if header.type = MessageType.response.code then
      let r := s.protocol.processResponse message receiveTime
      { s with
        protocol := r.2
        submitted := s.submitted ++ r.1.toList
        answers := s.answers ++ r.1.toList.map fun _ => ⟨s.requestBuilt, received⟩ }
    else if header.type = MessageType.authoritativeBroadcast.code then
      let sample := s.protocol.processAuthoritativeBroadcast message receiveTime
      { s with submitted := s.submitted ++ sample.toList }
    else s

/-- The next of the completed messages is handled. -/
def processCompleted (received : ℕ) (receiveTime : UInt64) (s : TCPClockSynchronizationClient) :
    TCPClockSynchronizationClient :=
  match s.completed with
  | [] => s
  | message :: completed => { s with completed }.processMessage message received receiveTime

def requestSynchronization (c : RequestCall) (s : TCPClockSynchronizationClient) :
    Bool × TCPClockSynchronizationClient :=
  if !s.initialized then (false, s)
  else
    let r := s.ensureConnectedLocked c.connection
    if !r.1 then (false, r.2)
    else
      match r.2.protocol.buildRequest c.requestTime with
      | (none, protocol) => (false, { r.2 with protocol })
      | (some request, protocol) =>
        let s := { r.2 with protocol, requestBuilt := c.built }
        if sendMessageLocked request.encode c.written then
          (true, { s with lastRequest := millis c.stamped })
        else (false, { s with protocol := s.protocol.cancelPendingRequest })

/-- The test at the end of `OnWorkerIteration`. -/
def requestDue (now : ℕ) (s : TCPClockSynchronizationClient) : Bool :=
  s.config.synchronizationIntervalMilliseconds > 0 &&
    (s.lastRequest = 0 ||
      millis now - s.lastRequest ≥ s.config.synchronizationIntervalMilliseconds)

/-- `Initialize`; `started` says whether the worker started. -/
def initializeWith (config : TCPClockSynchronizationClientConfig) (started : Bool)
    (s : TCPClockSynchronizationClient) : Bool × TCPClockSynchronizationClient :=
  if s.initialized then (true, s)
  else if config.host = [] ∨ config.port = 0 then (false, s)
  else
    let s := { s with config, protocol := { s.protocol with mode := .client } }
    if !started then (false, s) else (true, { s with working := true, initialized := true })

/-- `Shutdown`; the worker finishes its iteration first. -/
def shutdown (s : TCPClockSynchronizationClient) : TCPClockSynchronizationClient :=
  if !s.initialized then s
  else { s with
    working := false, completed := [], decoder := s.decoder.reset
    protocol := s.protocol.cancelPendingRequest, initialized := false }

/-- A call of the owner, or a part of an iteration of the worker. -/
inductive Action where
  | initializeWith (config : TCPClockSynchronizationClientConfig) (started : Bool)
  | shutdown
  | poll (c : Connection) (chunks : List Bytes)
  | processCompleted (received : ℕ) (receiveTime : UInt64)
  | requestDue (now : ℕ) (c : RequestCall)
  | requestSynchronization (c : RequestCall)
  deriving DecidableEq

def step (s : TCPClockSynchronizationClient) : Action → TCPClockSynchronizationClient
  | .initializeWith config started => (s.initializeWith config started).2
  | .shutdown => s.shutdown
  | .poll c chunks => if s.working then s.poll c chunks else s
  | .processCompleted received receiveTime =>
    if s.working then s.processCompleted received receiveTime else s
  | .requestDue now c =>
    if s.working && s.requestDue now then (s.requestSynchronization c).2 else s
  | .requestSynchronization c => (s.requestSynchronization c).2

end TCPClockSynchronizationClient
end Sockets.Clock
