import Sockets.Clock.Protocol
import Sockets.Foundation.Run

/-! One client, and whatever bytes are presented to it as responses: what its samples are made of.
The protocol keeps the sequence number of its latest request, and no timestamp. -/
namespace Sockets.Clock
open Foundation

inductive ClientEvent where
  | requested (request : RequestMessage)
  | cancelled
  | sampled (data : Bytes) (receiveTime : UInt64) (sample : Sample)
  deriving DecidableEq

/-- `history` is latest first. -/
structure Client where
  protocol : SocketClockSynchronizationProtocol := {}
  history : List ClientEvent := []

inductive ClientAction where
  | buildRequest (now : UInt64)
  | cancelPendingRequest
  | processResponse (data : Bytes) (receiveTime : UInt64)
  deriving DecidableEq

namespace Client

def step (c : Client) : ClientAction → Client
  | .buildRequest now =>
    match c.protocol.buildRequest now with
    | (none, p) => { c with protocol := p }
    | (some request, p) => ⟨p, .requested request :: c.history⟩
  | .cancelPendingRequest => ⟨c.protocol.cancelPendingRequest, .cancelled :: c.history⟩
  | .processResponse data receiveTime =>
    match c.protocol.processResponse data receiveTime with
    | (none, p) => { c with protocol := p }
    | (some sample, p) => ⟨p, .sampled data receiveTime sample :: c.history⟩

/-- A protocol as it is constructed and configured. -/
def start (mode : SocketClockSynchronizationMode) : Client where
  protocol := { mode }

/-- Where a sample comes from: the bytes are a response, its number is that of the request made
just before, and the times are its own three and the reception's. So the first of them is the
client's own exactly when the response brings it back. -/
def SampledFrom (older : List ClientEvent) (data : Bytes) (receiveTime : UInt64)
    (sample : Sample) : Prop :=
  let response := ResponseMessage.decode data
  data.length = responseSize ∧ response.header.IsOf .response ∧
    sample = ⟨response.t1, response.t2, response.t3, receiveTime⟩ ∧
    ∃ request earlier, older = .requested request :: earlier ∧
      request.header.sequence = response.header.sequence ∧
      (sample.localRequestTransmitTime = request.t1 ↔ response.t1 = request.t1)

/-- Every sample of a history comes from the events before it. -/
def Traced : List ClientEvent → Prop
  | [] => True
  | .sampled data receiveTime sample :: older =>
    SampledFrom older data receiveTime sample ∧ Traced older
  | _ :: older => Traced older

theorem Traced.sampled {newer older : List ClientEvent} {data : Bytes} {receiveTime : UInt64}
    {sample : Sample} (h : Traced (newer ++ .sampled data receiveTime sample :: older)) :
    SampledFrom older data receiveTime sample := by
  induction newer with
  | nil => exact h.1
  | cons e newer ih =>
    cases e with
    | sampled => exact ih h.2
    | requested | cancelled => exact ih h

/-- A request that waits for its response is the latest event. -/
structure Inv (c : Client) : Prop where
  traced : Traced c.history
  pending : c.protocol.pendingSequence ≠ 0 → ∃ request earlier,
    c.history = .requested request :: earlier ∧
      request.header.sequence = c.protocol.pendingSequence

theorem inv_start (mode : SocketClockSynchronizationMode) : Inv (start mode) where
  traced := trivial
  pending h := absurd rfl h

theorem Inv.buildRequest {c : Client} (h : Inv c) (now : UInt64) :
    Inv (c.step (.buildRequest now)) := by
  unfold step SocketClockSynchronizationProtocol.buildRequest
  by_cases hmode : c.protocol.isClientMode
  · simp only [hmode, Bool.not_true, Bool.false_eq_true, if_false]
    exact ⟨h.traced, fun _ => ⟨_, _, rfl, rfl⟩⟩
  · simp only [hmode, Bool.not_false, if_true]
    exact h

theorem Inv.cancelPendingRequest {c : Client} (h : Inv c) :
    Inv (c.step .cancelPendingRequest) where
  traced := h.traced
  pending hp := absurd rfl hp

theorem Inv.processResponse {c : Client} (h : Inv c) (data : Bytes) (receiveTime : UInt64) :
    Inv (c.step (.processResponse data receiveTime)) := by
  cases hs : (c.protocol.processResponse data receiveTime).1 with
  | none =>
    have hkept : c.protocol.processResponse data receiveTime = (none, c.protocol) :=
      Prod.ext hs (SocketClockSynchronizationProtocol.processResponse_eq_none hs)
    simp only [step, hkept]
    exact h
  | some sample =>
    obtain ⟨hlength, htype, hpending, hsequence, hsample, hnext⟩ :=
      SocketClockSynchronizationProtocol.processResponse_eq_some hs
    obtain ⟨request, earlier, hhistory, hrequest⟩ := h.pending hpending
    have hfrom : SampledFrom c.history data receiveTime sample := by
      refine ⟨hlength, htype, hsample, request, earlier, hhistory, ?_, ?_⟩
      · exact hrequest.trans hsequence.symm
      · rw [hsample]
    have hsampled : c.protocol.processResponse data receiveTime =
        (some sample, c.protocol.cancelPendingRequest) := Prod.ext hs hnext
    simp only [step, hsampled]
    constructor
    · exact ⟨hfrom, h.traced⟩
    · intro hafter
      exact absurd rfl hafter

theorem Inv.step {c : Client} (h : Inv c) (a : ClientAction) : Inv (c.step a) := by
  cases a with
  | buildRequest now => exact h.buildRequest now
  | cancelPendingRequest => exact h.cancelPendingRequest
  | processResponse data receiveTime => exact h.processResponse data receiveTime

/-- Every sample of a client comes from the request it made last, neither cancelled nor answered
before, and begins with the time that the response names for it. -/
theorem origin_of_sample (mode : SocketClockSynchronizationMode) (actions : List ClientAction)
    (newer older : List ClientEvent) (data : Bytes) (receiveTime : UInt64) (sample : Sample)
    (h : (run step (start mode) actions).history =
      newer ++ .sampled data receiveTime sample :: older) :
    SampledFrom older data receiveTime sample := by
  have hinv := run_induction (P := Inv) (fun _ a hc => hc.step a) (inv_start mode) actions
  exact (h ▸ hinv.traced).sampled

/-- A response to the first request that names another time of departure. -/
def forgedResponse : Bytes :=
  ResponseMessage.encode
    { header := { type := MessageType.response.code, sequence := 1 }, t1 := 77, t2 := 5, t3 := 6 }

theorem origin_of_sample_forged :
    (run step (start .client) [.buildRequest 1000, .processResponse forgedResponse 1200]).history =
      [.sampled forgedResponse 1200 ⟨77, 5, 6, 1200⟩,
        .requested { header := { type := 1, sequence := 1 }, t1 := 1000 }] ∧
    SampledFrom [.requested { header := { type := 1, sequence := 1 }, t1 := 1000 }] forgedResponse
      1200 ⟨77, 5, 6, 1200⟩ := by
  have hrun : (run step (start .client)
      [.buildRequest 1000, .processResponse forgedResponse 1200]).history =
      [.sampled forgedResponse 1200 ⟨77, 5, 6, 1200⟩,
        .requested { header := { type := 1, sequence := 1 }, t1 := 1000 }] := by decide
  exact ⟨hrun, origin_of_sample .client _ [] _ forgedResponse 1200 ⟨77, 5, 6, 1200⟩ hrun⟩

/-- The time a sample begins with need not be one the client wrote. -/
theorem origin_not_authentic :
    ¬ ∀ actions newer data receiveTime sample request earlier,
      (run step (start .client) actions).history =
        newer ++ .sampled data receiveTime sample :: .requested request :: earlier →
      sample.localRequestTransmitTime = request.t1 := by
  intro h
  have htime := h _ [] _ _ _ _ [] origin_of_sample_forged.1
  exact absurd htime (by decide)

end Client
end Sockets.Clock
