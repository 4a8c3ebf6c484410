import Sockets.Clock.Protocol
import Sockets.Foundation.Run

/-! Two instances of the protocol over a network that may lose, duplicate, delay and reorder what
they send: whatever was sent once can be delivered any number of times, or never. -/
namespace Sockets.Clock
open Foundation

inductive Side where
  | client
  | reference
  deriving DecidableEq

def Side.other : Side → Side
  | .client => .reference
  | .reference => .client

inductive ClockEvent where
  | requested (side : Side) (sequence : UInt32) (t1 : UInt64)
  | cancelled (side : Side)
  | announced (side : Side) (sequence : UInt32)
  | handled (side : Side) (sequence : UInt32) (t1 t2 t3 : UInt64)
  | sampled (side : Side) (receiveTime : UInt64) (sample : Sample)
  | broadcastSampled (side : Side) (receiveTime : UInt64) (sample : Sample)
  deriving DecidableEq

/-- `inbox` keeps every datagram ever sent to a side; `history` is latest first. -/
structure Exchange where
  node : Side → SocketClockSynchronizationProtocol
  inbox : Side → List Bytes := fun _ => []
  history : List ClockEvent := []

/-- Each operation of the protocol at either side. A datagram is chosen by its place in the inbox,
timestamps are whatever the clocks show, and a send that fails is a datagram never delivered. -/
inductive Action where
  | buildRequest (side : Side) (now : UInt64)
  | cancelPendingRequest (side : Side)
  | processRequest (side : Side) (datagram : ℕ) (receiveTime now : UInt64)
  | processResponse (side : Side) (datagram : ℕ) (receiveTime : UInt64)
  | buildAuthoritativeBroadcast (side : Side) (now : UInt64)
  | processAuthoritativeBroadcast (side : Side) (datagram : ℕ) (receiveTime : UInt64)
  deriving DecidableEq

namespace Exchange

def setNode (side : Side) (p : SocketClockSynchronizationProtocol) (x : Exchange) : Exchange :=
  { x with node := Function.update x.node side p }

/-- Hand a datagram to the network on its way to `side`. -/
def send (side : Side) (datagram : Bytes) (x : Exchange) : Exchange :=
  { x with inbox := Function.update x.inbox side (x.inbox side ++ [datagram]) }

def record (e : ClockEvent) (x : Exchange) : Exchange := { x with history := e :: x.history }

def step (x : Exchange) : Action → Exchange
  | .buildRequest side now =>
    match (x.node side).buildRequest now with
    | (none, _) => x
    | (some request, p) =>
      ((x.setNode side p).send side.other request.encode).record
        (.requested side request.header.sequence request.t1)
  | .cancelPendingRequest side =>
    (x.setNode side (x.node side).cancelPendingRequest).record (.cancelled side)
  | .processRequest side datagram receiveTime now =>
    match (x.inbox side)[datagram]? with
    | none => x
    | some data =>
      match (x.node side).processRequest data receiveTime now with
      | none => x
      | some response =>
        (x.send side.other response.encode).record
          (.handled side response.header.sequence response.t1 response.t2 response.t3)
  | .processResponse side datagram receiveTime =>
    match (x.inbox side)[datagram]? with
    | none => x
    | some data =>
      match (x.node side).processResponse data receiveTime with
      | (none, p) => x.setNode side p
      | (some sample, p) => (x.setNode side p).record (.sampled side receiveTime sample)
  | .buildAuthoritativeBroadcast side now =>
    match (x.node side).buildAuthoritativeBroadcast now with
    | (none, _) => x
    | (some message, p) =>
      ((x.setNode side p).send side.other message.encode).record
        (.announced side message.header.sequence)
  | .processAuthoritativeBroadcast side datagram receiveTime =>
    match (x.inbox side)[datagram]? with
    | none => x
    | some data =>
      match (x.node side).processAuthoritativeBroadcast data receiveTime with
      | none => x
      | some sample => x.record (.broadcastSampled side receiveTime sample)

/-- Two instances as they are constructed and configured. -/
def start (mode : Side → SocketClockSynchronizationMode) : Exchange where
  node side := { mode := mode side }

end Exchange

/-- Sequence numbers a side has drawn, for requests and for broadcasts. -/
def draws (side : Side) : List ClockEvent → ℕ
  | [] => 0
  | .requested s _ _ :: older => (if s = side then 1 else 0) + draws side older
  | .announced s _ :: older => (if s = side then 1 else 0) + draws side older
  | _ :: older => draws side older

/-- Events after which the client's latest request is no longer the one waiting for an answer. -/
def ClockEvent.endsRequest : ClockEvent → Bool
  | .requested .client _ _ => true
  | .cancelled .client => true
  | .sampled .client _ _ => true
  | _ => false

/-- What the events before an event owe it. -/
def ClockEvent.Justified (older : List ClockEvent) : ClockEvent → Prop
  | .requested .client sequence _ => ∀ t1, .requested .client sequence t1 ∉ older
  | .handled .reference sequence t1 _ _ => .requested .client sequence t1 ∈ older
  | .sampled .client receiveTime sample =>
    ∃ since earlier sequence, older =
        since ++ .requested .client sequence sample.localRequestTransmitTime :: earlier ∧
      (∀ e ∈ since, e.endsRequest = false) ∧
      (∀ t1, .requested .client sequence t1 ∉ earlier) ∧
      .handled .reference sequence sample.localRequestTransmitTime
        sample.remoteRequestReceiveTime sample.remoteResponseTransmitTime ∈ since ∧
      sample.localResponseReceiveTime = receiveTime
  | _ => True

/-- Every event of the history is justified by the events before it. -/
def Sound : List ClockEvent → Prop
  | [] => True
  | e :: older => e.Justified older ∧ Sound older

theorem Sound.justified {after older : List ClockEvent} {e : ClockEvent}
    (h : Sound (after ++ e :: older)) : e.Justified older := by
  induction after with
  | nil => exact h.1
  | cons _ after ih => exact ih h.2

theorem Sound.of_append {after older : List ClockEvent} (h : Sound (after ++ older)) :
    Sound older := by
  induction after with
  | nil => exact h
  | cons _ after ih => exact ih h.2

/-- A handling belongs to a request made before it. -/
theorem Sound.requested_of_handled {history : List ClockEvent} (h : Sound history)
    {sequence : UInt32} {t1 t2 t3 : UInt64}
    (hm : .handled .reference sequence t1 t2 t3 ∈ history) :
    .requested .client sequence t1 ∈ history := by
  obtain ⟨after, older, rfl⟩ := List.append_of_mem hm
  have hj : ClockEvent.requested .client sequence t1 ∈ older := h.justified
  simp [hj]

/-- What an event comes of, however often the numbers have come round. -/
def ClockEvent.CausedBy (older : List ClockEvent) : ClockEvent → Prop
  | .handled .reference sequence t1 _ _ => .requested .client sequence t1 ∈ older
  | .sampled .client receiveTime sample =>
    (∃ sequence, .handled .reference sequence sample.localRequestTransmitTime
        sample.remoteRequestReceiveTime sample.remoteResponseTransmitTime ∈ older) ∧
      sample.localResponseReceiveTime = receiveTime
  | _ => True

/-- Every event of the history comes of the events before it. -/
def Caused : List ClockEvent → Prop
  | [] => True
  | e :: older => e.CausedBy older ∧ Caused older

theorem Caused.causedBy {after older : List ClockEvent} {e : ClockEvent}
    (h : Caused (after ++ e :: older)) : e.CausedBy older := by
  induction after with
  | nil => exact h.1
  | cons _ after ih => exact ih h.2

/-- Every request and every response under way has its event in the history. -/
structure Genuine (x : Exchange) : Prop where
  caused : Caused x.history
  requests : ∀ d ∈ x.inbox .reference, d.length = requestSize →
    (RequestMessage.decode d).header.IsOf .request →
    .requested .client (RequestMessage.decode d).header.sequence (RequestMessage.decode d).t1 ∈
      x.history
  responses : ∀ d ∈ x.inbox .client, d.length = responseSize →
    (ResponseMessage.decode d).header.IsOf .response →
    .handled .reference (ResponseMessage.decode d).header.sequence (ResponseMessage.decode d).t1
      (ResponseMessage.decode d).t2 (ResponseMessage.decode d).t3 ∈ x.history

theorem genuine_start (mode : Side → SocketClockSynchronizationMode) :
    Genuine (Exchange.start mode) where
  caused := trivial
  requests := by simp [Exchange.start]
  responses := by simp [Exchange.start]

theorem Genuine.record {x : Exchange} (h : Genuine x) {e : ClockEvent}
    (he : e.CausedBy x.history) : Genuine (x.record e) where
  caused := ⟨he, h.caused⟩
  requests d hd hl ho := List.mem_cons_of_mem _ (h.requests d hd hl ho)
  responses d hd hl ho := List.mem_cons_of_mem _ (h.responses d hd hl ho)

/-- A datagram to the reference that is no request, or the request of an event. -/
theorem Genuine.send_reference {x : Exchange} (h : Genuine x) {d : Bytes}
    (hd : d.length = requestSize → (RequestMessage.decode d).header.IsOf .request →
      .requested .client (RequestMessage.decode d).header.sequence (RequestMessage.decode d).t1 ∈
        x.history) : Genuine (x.send .reference d) where
  caused := h.caused
  requests d' hd' hl ho := by
    simp only [Exchange.send, Function.update_self, List.mem_append, List.mem_singleton] at hd'
    rcases hd' with hd' | rfl
    · exact h.requests d' hd' hl ho
    · exact hd hl ho
  responses d' hd' := h.responses d' (by simpa [Exchange.send] using hd')

/-- A datagram to the client that is no response, or the response of an event. -/
theorem Genuine.send_client {x : Exchange} (h : Genuine x) {d : Bytes}
    (hd : d.length = responseSize → (ResponseMessage.decode d).header.IsOf .response →
      .handled .reference (ResponseMessage.decode d).header.sequence (ResponseMessage.decode d).t1
        (ResponseMessage.decode d).t2 (ResponseMessage.decode d).t3 ∈ x.history) :
    Genuine (x.send .client d) where
  caused := h.caused
  requests d' hd' := h.requests d' (by simpa [Exchange.send] using hd')
  responses d' hd' hl ho := by
    simp only [Exchange.send, Function.update_self, List.mem_append, List.mem_singleton] at hd'
    rcases hd' with hd' | rfl
    · exact h.responses d' hd' hl ho
    · exact hd hl ho

theorem Genuine.setNode {x : Exchange} (h : Genuine x) (side : Side)
    (p : SocketClockSynchronizationProtocol) : Genuine (x.setNode side p) :=
  ⟨h.caused, h.requests, h.responses⟩

/-- The numbers of the client and its pending request, read off the history. -/
structure Counted (x : Exchange) : Prop where
  next : (x.node .client).nextSequence.toNat = 1 + draws .client x.history
  drawn : ∀ sequence t1, .requested .client sequence t1 ∈ x.history →
    0 < sequence.toNat ∧ sequence.toNat ≤ draws .client x.history
  sound : Sound x.history
  pending : (x.node .client).pendingSequence ≠ 0 → ∃ since earlier t1,
    x.history =
      since ++ .requested .client (x.node .client).pendingSequence t1 :: earlier ∧
    ∀ e ∈ since, e.endsRequest = false

/-- The state of an exchange, while the numbers of the client last. -/
structure Inv (x : Exchange) : Prop extends Genuine x, Counted x

/-- Below this many draws the client's counter has not come back to zero, which stands for "no
pending request". -/
def maximumDraws : ℕ := 2 ^ 32 - 1

theorem inv_start (mode : Side → SocketClockSynchronizationMode) :
    Inv (Exchange.start mode) where
  toGenuine := genuine_start mode
  next := rfl
  drawn := by simp [Exchange.start]
  sound := trivial
  pending h := absurd rfl h

/-- An event that draws no number for the client and leaves its pending request alone. -/
theorem Counted.record {x : Exchange} (h : Counted x) {e : ClockEvent} (hj : e.Justified x.history)
    (hnew : ∀ sequence t1, e ≠ .requested .client sequence t1)
    (hdraws : draws .client (e :: x.history) = draws .client x.history)
    (hquiet : (x.node .client).pendingSequence ≠ 0 → e.endsRequest = false) :
    Counted (x.record e) where
  next := by simpa only [Exchange.record, hdraws] using h.next
  drawn sequence t1 hm := by
    simp only [Exchange.record, hdraws] at hm ⊢
    rcases List.mem_cons.mp hm with he | hm
    · exact absurd he.symm (hnew sequence t1)
    · exact h.drawn sequence t1 hm
  sound := ⟨hj, h.sound⟩
  pending hp := by
    obtain ⟨since, earlier, t1, hh, hq⟩ := h.pending hp
    refine ⟨e :: since, earlier, t1, by simp [Exchange.record, hh], ?_⟩
    intro e' he'
    rcases List.mem_cons.mp he' with rfl | he'
    · exact hquiet hp
    · exact hq e' he'

theorem Counted.send {x : Exchange} (h : Counted x) (side : Side) (datagram : Bytes) :
    Counted (x.send side datagram) := ⟨h.next, h.drawn, h.sound, h.pending⟩

theorem Counted.setNode_reference {x : Exchange} (h : Counted x)
    (p : SocketClockSynchronizationProtocol) : Counted (x.setNode .reference p) := by
  have hnode : (x.setNode .reference p).node .client = x.node .client := by
    simp [Exchange.setNode]
  exact ⟨by rw [hnode]; exact h.next, h.drawn, h.sound, by rw [hnode]; exact h.pending⟩

theorem Counted.cancel {x : Exchange} (h : Counted x) :
    Counted (x.setNode .client (x.node .client).cancelPendingRequest) where
  next := by simpa [Exchange.setNode, SocketClockSynchronizationProtocol.cancelPendingRequest]
    using h.next
  drawn := h.drawn
  sound := h.sound
  pending hp := by
    simp [Exchange.setNode, SocketClockSynchronizationProtocol.cancelPendingRequest] at hp

end Sockets.Clock
