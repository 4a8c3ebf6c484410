import Sockets.Clock.Replies
import Sockets.Clock.Tcp

/-! A TCP clock client and the server it connects to, which may have other clients, over the byte
streams of one connection after the other. -/
namespace Sockets.Clock
open Foundation Transport Sockets.Frame

/-- `connections` counts the connects of the client that succeeded; `usable` says that it has not
stopped the latest of them, from which it has read `received`. What it wrote on its connections is
`written`. -/
structure TCPClockLink (R : ClockServerHost) where
  client : TCPClockSynchronizationClient := {}
  server : TCPClockSynchronizationServer R
  connections : ℕ := 0
  usable : Bool := false
  received : Bytes := []
  written : ℕ → Bytes := fun _ => []

namespace TCPClockLink
variable {R : ClockServerHost}

/-- The client and the server before anything has happened. -/
def start (world : R.net.World) : TCPClockLink R where
  server := { clients := { world } }

/-- `EnsureConnectedLocked` calls `stop` and `connect` unless it is too early for that. -/
def ensureConnectedLocked (c : Connection) (n : TCPClockLink R) : Bool × TCPClockLink R :=
  let r := n.client.ensureConnectedLocked c
  let later := { n with client := r.2 }
  if c.connected || decide (millis c.attempted - n.client.lastConnectAttempt <
      n.client.config.reconnectIntervalMilliseconds) then (r.1, later)
  else if c.connects then
    (r.1, { later with connections := n.connections + 1, usable := true, received := [] })
  else (r.1, { later with usable := false })

/-- The reads of an iteration; a chunk that is refused costs the connection. -/
def readAvailable : List Bytes → TCPClockLink R → TCPClockLink R
  | [], n => n
  | chunk :: chunks, n =>
    if chunk = [] then n
    else
      let r := n.client.decoder.push (fun message completed => completed ++ [message]) chunk
        n.client.completed
      let n := { n with
        client := { n.client with decoder := r.2.1, completed := r.2.2 }
        received := n.received ++ chunk }
      if r.1 then n.readAvailable chunks
      else { n with
        client := { n.client with protocol := n.client.protocol.cancelPendingRequest }
        usable := false }

def poll (c : Connection) (chunks : List Bytes) (n : TCPClockLink R) : TCPClockLink R :=
  let r := n.ensureConnectedLocked c
  if !r.1 then r.2 else r.2.readAvailable chunks

/-- Of a request that is not written whole, `accepted` bytes are, and the connection is stopped. -/
def requestSynchronization (c : RequestCall) (accepted : ℕ) (n : TCPClockLink R) :
    TCPClockLink R :=
  if !n.client.initialized then n
  else
    let r := n.ensureConnectedLocked c.connection
    if !r.1 then r.2
    else
      let n := r.2
      match n.client.protocol.buildRequest c.requestTime with
      | (none, protocol) => { n with client := { n.client with protocol } }
      | (some request, protocol) =>
        let frame := buildSocketEventFrame request.encode
        let client := { n.client with protocol, requestBuilt := c.built }
        if frame ≠ [] && c.written then
          { n with
            client := { client with lastRequest := millis c.stamped }
            written := Function.update n.written n.connections
              (n.written n.connections ++ frame) }
        else
          { n with
            client := { client with protocol := client.protocol.cancelPendingRequest }
            usable := false
            written := Function.update n.written n.connections
              (n.written n.connections ++ frame.take accepted) }

def shutdown (n : TCPClockLink R) : TCPClockLink R :=
  { n with client := n.client.shutdown, usable := n.usable && !n.client.initialized }

/-- What the client does, with the connection it does it to. -/
def actClient (accepted : ℕ) (n : TCPClockLink R) :
    TCPClockSynchronizationClient.Action → TCPClockLink R
  | .initializeWith config started =>
    { n with client := (n.client.initializeWith config started).2 }
  | .shutdown => n.shutdown
  | .poll c chunks => if n.client.working then n.poll c chunks else n
  | .processCompleted received receiveTime =>
    if n.client.working then { n with client := n.client.processCompleted received receiveTime }
    else n
  | .requestDue now c =>
    if n.client.working && n.client.requestDue now then n.requestSynchronization c accepted else n
  | .requestSynchronization c => n.requestSynchronization c accepted

/-- A step of either side; `accepted` is for a request that is not written whole. -/
inductive Action where
  | client (action : TCPClockSynchronizationClient.Action) (accepted : ℕ)
  | server (action : TCPClockSynchronizationServer.Action)

def step (n : TCPClockLink R) : Action → TCPClockLink R
  | .client a accepted => n.actClient accepted a
  | .server a => { n with server := n.server.step a }

/-- What the network answers a client that has no connection, or has stopped it. -/
def Honest (n : TCPClockLink R) : TCPClockSynchronizationClient.Action → Prop
  | .poll c _ => c.connected = true → n.usable = true
  | .requestDue _ c => c.connection.connected = true → n.usable = true
  | .requestSynchronization c => c.connection.connected = true → n.usable = true
  | _ => True

/-- Each side reads what the other has sent, in order; behind a frame that was cut short nothing is
read. `number` is under which number the server knows the connections of the client. -/
structure InOrder (number : ℕ → ℕ) (n : TCPClockLink R) : Prop where
  client : n.received <+: (framesOn (number n.connections) n.server.clients.wire).flatten
  server : ∀ k, bytesRead (number k) n.server.log <+: n.written k

/-- The steps that a network allows. -/
def Permitted (number : ℕ → ℕ) (n : TCPClockLink R) (a : Action) : Prop :=
  (match a with
    | .client a _ => n.Honest a
    | .server _ => True) ∧ (n.step a).InOrder number

theorem ensureConnectedLocked_client (c : Connection) (n : TCPClockLink R) :
    (n.ensureConnectedLocked c).1 = (n.client.ensureConnectedLocked c).1 ∧
      (n.ensureConnectedLocked c).2.client = (n.client.ensureConnectedLocked c).2 := by
  unfold TCPClockLink.ensureConnectedLocked
  dsimp only
  split_ifs <;> exact ⟨rfl, rfl⟩

theorem readAvailable_client (chunks : List Bytes) (n : TCPClockLink R) :
    (n.readAvailable chunks).client = n.client.readAvailable chunks := by
  induction chunks generalizing n with
  | nil => rfl
  | cons chunk chunks ih =>
    unfold TCPClockLink.readAvailable TCPClockSynchronizationClient.readAvailable
    dsimp only
    split_ifs
    · rfl
    · exact ih _
    · rfl

theorem requestSynchronization_client (c : RequestCall) (accepted : ℕ) (n : TCPClockLink R) :
    (n.requestSynchronization c accepted).client = (n.client.requestSynchronization c).2 := by
  obtain ⟨hanswer, hclient⟩ := ensureConnectedLocked_client c.connection n
  unfold TCPClockLink.requestSynchronization TCPClockSynchronizationClient.requestSynchronization
  dsimp only
  rw [← hanswer, ← hclient]
  split_ifs
  · rfl
  · rfl
  · cases (n.ensureConnectedLocked c.connection).2.client.protocol.buildRequest c.requestTime with
    | mk request protocol =>
      cases request with
      | none => rfl
      | some request =>
        unfold TCPClockSynchronizationClient.sendMessageLocked
        dsimp only
        split_ifs <;> rfl

/-- The client of a link does what a client does. -/
theorem step_client (a : TCPClockSynchronizationClient.Action) (accepted : ℕ)
    (n : TCPClockLink R) : (n.step (.client a accepted)).client = n.client.step a := by
  change (n.actClient accepted a).client = n.client.step a
  unfold actClient TCPClockSynchronizationClient.step
  cases a with
  | initializeWith config started => rfl
  | shutdown => rfl
  | poll c chunks =>
    obtain ⟨hanswer, hclient⟩ := ensureConnectedLocked_client c n
    dsimp only
    split_ifs
    · unfold TCPClockLink.poll TCPClockSynchronizationClient.poll
      dsimp only
      rw [← hanswer, ← hclient]
      split_ifs
      · rfl
      · exact readAvailable_client chunks _
    · rfl
  | processCompleted received receiveTime =>
    dsimp only
    split_ifs <;> rfl
  | requestDue now c =>
    dsimp only
    split_ifs
    · exact requestSynchronization_client c accepted n
    · rfl
  | requestSynchronization c => exact requestSynchronization_client c accepted n

end TCPClockLink

namespace TCPClockSynchronizationServer
variable {R : ClockServerHost} {u v w : TCPClockSynchronizationServer R}

/-- What has happened stays on record. -/
def Extends (u v : TCPClockSynchronizationServer R) : Prop :=
  u.log <+: v.log ∧ u.clients.wire <+: v.clients.wire

theorem Extends.refl (v : TCPClockSynchronizationServer R) : Extends v v :=
  ⟨List.prefix_rfl, List.prefix_rfl⟩

theorem Extends.trans (h : Extends u v) (h' : Extends v w) : Extends u w :=
  ⟨h.1.trans h'.1, h.2.trans h'.2⟩

theorem extends_record (e : ClockServerEvent) (v : TCPClockSynchronizationServer R) :
    Extends v (v.record e) := ⟨List.prefix_append _ _, List.prefix_rfl⟩

theorem extends_queryClient (slot : ℕ) (v : TCPClockSynchronizationServer R) :
    Extends v (v.queryClient slot).2 := ⟨List.prefix_rfl, List.prefix_append _ _⟩

theorem extends_sendMessage (slot : ℕ) (data : Bytes) (v : TCPClockSynchronizationServer R) :
    Extends v (v.sendMessage slot data).2 := by
  unfold sendMessage
  dsimp only
  split_ifs
  · exact .refl v
  · exact ⟨List.prefix_rfl, List.prefix_append _ _⟩

theorem extends_processRequest (slot : ℕ) (receiveTime : UInt64) (message : Bytes)
    (v : TCPClockSynchronizationServer R) :
    Extends v (v.processRequest slot receiveTime message) := by
  unfold processRequest
  dsimp only
  cases v.protocol.processRequest message receiveTime v.getLocalTimestamp.1 with
  | none => exact extends_record _ v
  | some response =>
    have hrecord : Extends v (v.getLocalTimestamp.2.record
        (.request (v.clients.client slot) message (some response))) :=
      ⟨List.prefix_append _ _, List.prefix_rfl⟩
    exact hrecord.trans (extends_sendMessage slot _ _)

theorem extends_readChunk (slot : ℕ) {chunk : Bytes} (hchunk : chunk ≠ [])
    (v : TCPClockSynchronizationServer R) : Extends v (v.readChunk slot chunk).2 := by
  have hbegin : Extends v (v.begin slot chunk) := ⟨List.prefix_append _ _, List.prefix_rfl⟩
  have hpush : Extends v ((v.decoder slot).push (processRequest slot v.getLocalTimestamp.1) chunk
      (v.begin slot chunk)).2.2 := by
    rw [event_push_eq _ hchunk]
    have hall : Extends v ((eventFramer.frames ((v.decoder slot).buffer ++ chunk)).foldl
        (fun u m => processRequest slot v.getLocalTimestamp.1 m u) (v.begin slot chunk)) :=
      List.foldlRecOn (motive := Extends v) _ _ hbegin fun u hu m _ =>
        hu.trans (extends_processRequest slot _ m u)
    split_ifs
    · dsimp only
      cases eventFramer.leftover ((v.decoder slot).buffer ++ chunk) <;> exact hall
    · exact hbegin
  change Extends v (if _ then _ else _)
  split_ifs <;> exact hpush

theorem extends_readClient (slot : ℕ) (chunks : List Bytes) (v : TCPClockSynchronizationServer R) :
    Extends v (v.readClient slot chunks) := by
  induction chunks generalizing v with
  | nil => exact .refl v
  | cons chunk chunks ih =>
    unfold readClient
    split_ifs with hempty
    · exact .refl v
    · have hread := extends_readChunk slot (take_readCapacity_ne_nil hempty) v
      dsimp only
      split_ifs
      · exact hread.trans (ih _)
      · exact hread

theorem extends_serveClient (reads : ℕ → List Bytes) (v : TCPClockSynchronizationServer R)
    (slot : ℕ) : Extends v (v.serveClient reads slot) := by
  have hquery := extends_queryClient slot v
  unfold serveClient
  split_ifs
  · exact .refl v
  · dsimp only
    split_ifs
    · exact hquery
    · exact hquery.trans (extends_readClient slot _ _)

theorem extends_place (slots : List ℕ) (v : TCPClockSynchronizationServer R) :
    Extends v (v.place slots) := by
  induction slots generalizing v with
  | nil => exact .refl v
  | cons slot slots ih =>
    have hquery : Extends v (if v.clients.active slot then v.queryClient slot else (false, v)).2 := by
      split_ifs
      · exact extends_queryClient slot v
      · exact .refl v
    unfold place
    dsimp only
    generalize (if v.clients.active slot then v.queryClient slot else (false, v)) = q at hquery ⊢
    split_ifs
    · exact hquery.trans (ih q.2)
    · exact hquery

theorem extends_step (v : TCPClockSynchronizationServer R) (a : Action) : Extends v (v.step a) := by
  cases a with
  | startServer config started =>
    change Extends v (v.initializeWith config started).2
    unfold initializeWith
    split_ifs <;> exact .refl v
  | shutdown =>
    have hcleared : Extends v ((List.range R.maxTCPClients).foldl
        (fun v slot => (v.setDecoder slot (v.decoder slot).reset).releaseClient slot) v) :=
      List.foldlRecOn (motive := Extends v) _ _ (.refl v) fun _ hu _ _ => hu
    change Extends v v.shutdown
    unfold shutdown
    split_ifs
    · exact .refl v
    · exact hcleared
  | onWorkerIteration i =>
    have haccept : Extends v (v.acceptClientLocked i.incoming) := by
      unfold acceptClientLocked
      split_ifs
      · exact .refl v
      · exact extends_place _ v
    change Extends v (if v.server then v.onWorkerIteration i else v)
    split_ifs
    · exact List.foldlRecOn (motive := Extends v) _ _ haccept fun u hu slot _ =>
        hu.trans (extends_serveClient i.reads u slot)
    · exact .refl v

end TCPClockSynchronizationServer
end Sockets.Clock
