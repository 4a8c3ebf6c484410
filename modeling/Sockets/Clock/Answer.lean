import Sockets.Clock.Protocol
import Sockets.Foundation.Run

/-! One client over any calls on its protocol: which of its requests can still be answered. -/
namespace Sockets.Clock
open Foundation
namespace SocketClockSynchronizationProtocol

/-- A call on the protocol, with the timestamps it takes. -/
inductive Operation where
  | buildRequest (now : UInt64)
  | cancelPendingRequest
  | processRequest (data : Bytes) (localReceiveTime now : UInt64)
  | processResponse (data : Bytes) (localReceiveTime : UInt64)
  | buildAuthoritativeBroadcast (now : UInt64)
  | processAuthoritativeBroadcast (data : Bytes) (localReceiveTime : UInt64)
  deriving DecidableEq

/-- What a call leaves behind; the two that serve a request or a broadcast store nothing. -/
def operate (p : SocketClockSynchronizationProtocol) :
    Operation → SocketClockSynchronizationProtocol
  | .buildRequest now => (p.buildRequest now).2
  | .cancelPendingRequest => p.cancelPendingRequest
  | .processRequest _ _ _ => p
  | .processResponse data localReceiveTime => (p.processResponse data localReceiveTime).2
  | .buildAuthoritativeBroadcast now => (p.buildAuthoritativeBroadcast now).2
  | .processAuthoritativeBroadcast _ _ => p

/-- The call gives up the pending request or puts another in its place. -/
def Operation.endsRequest : Operation → Bool
  | .buildRequest _ => true
  | .cancelPendingRequest => true
  | _ => false

/-- A response under the number. -/
def Bears (sequence : UInt32) (data : Bytes) : Prop :=
  data.length = responseSize ∧ (ResponseMessage.decode data).header.IsOf .response ∧
    (ResponseMessage.decode data).header.sequence = sequence

instance (sequence : UInt32) (data : Bytes) : Decidable (Bears sequence data) :=
  inferInstanceAs (Decidable (_ ∧ _))

/-- The call processes a response under the number. -/
def Operation.Answers (sequence : UInt32) : Operation → Prop
  | .processResponse data _ => Bears sequence data
  | _ => False

instance (sequence : UInt32) : ∀ o : Operation, Decidable (o.Answers sequence)
  | .processResponse data _ => inferInstanceAs (Decidable (Bears sequence data))
  | .buildRequest _ => isFalse id
  | .cancelPendingRequest => isFalse id
  | .processRequest _ _ _ => isFalse id
  | .buildAuthoritativeBroadcast _ => isFalse id
  | .processAuthoritativeBroadcast _ _ => isFalse id

variable {p : SocketClockSynchronizationProtocol}

@[simp] theorem mode_operate (p : SocketClockSynchronizationProtocol) (o : Operation) :
    (p.operate o).mode = p.mode := by
  cases o with
  | buildRequest now => unfold operate buildRequest; dsimp only; split_ifs <;> rfl
  | cancelPendingRequest => rfl
  | processRequest data localReceiveTime now => rfl
  | processResponse data localReceiveTime =>
    unfold operate processResponse
    dsimp only
    split_ifs <;> rfl
  | buildAuthoritativeBroadcast now =>
    unfold operate buildAuthoritativeBroadcast
    dsimp only
    split_ifs <;> rfl
  | processAuthoritativeBroadcast data localReceiveTime => rfl

theorem mode_run (p : SocketClockSynchronizationProtocol) (os : List Operation) :
    (run operate p os).mode = p.mode := by
  induction os generalizing p with
  | nil => rfl
  | cons o os ih => rw [run_cons, ih, mode_operate]

theorem isClientMode_run (hmode : p.isClientMode = true) (os : List Operation) :
    (run operate p os).isClientMode = true := by
  unfold isClientMode at hmode ⊢
  rw [mode_run]
  exact hmode

/-- A client takes a response if and only if it bears the number of a pending request. -/
theorem processResponse_client (hmode : p.isClientMode = true) (data : Bytes)
    (localReceiveTime : UInt64) :
    p.processResponse data localReceiveTime =
      if p.pendingSequence ≠ 0 ∧ Bears p.pendingSequence data then
        (some ⟨(ResponseMessage.decode data).t1, (ResponseMessage.decode data).t2,
          (ResponseMessage.decode data).t3, localReceiveTime⟩, p.cancelPendingRequest)
      else (none, p) := by
  unfold processResponse Bears
  simp only [hmode, Bool.not_true, Bool.false_or, decide_eq_true_eq, ite_not]
  split_ifs with hlength hheader hpending htaken hpending htaken <;> first | rfl | (exfalso; tauto)

theorem processResponse_pendingSequence (hmode : p.isClientMode = true) (data : Bytes)
    (localReceiveTime : UInt64) :
    (p.processResponse data localReceiveTime).2.pendingSequence =
      if Bears p.pendingSequence data then 0 else p.pendingSequence := by
  rw [processResponse_client hmode]
  by_cases hpending : p.pendingSequence = 0
  · simp [hpending]
  · by_cases hbears : Bears p.pendingSequence data
    · simp [hpending, hbears, cancelPendingRequest]
    · simp [hbears]

/-- The pending number over one call that does not end the request. -/
theorem pendingSequence_operate (hmode : p.isClientMode = true) {o : Operation}
    (ho : o.endsRequest = false) :
    (p.operate o).pendingSequence =
      if o.Answers p.pendingSequence then 0 else p.pendingSequence := by
  cases o with
  | buildRequest now => cases ho
  | cancelPendingRequest => cases ho
  | processRequest data localReceiveTime now => exact (if_neg id).symm
  | processResponse data localReceiveTime =>
    exact processResponse_pendingSequence hmode data localReceiveTime
  | buildAuthoritativeBroadcast now =>
    have hkept : (p.buildAuthoritativeBroadcast now).2.pendingSequence = p.pendingSequence := by
      unfold buildAuthoritativeBroadcast
      dsimp only
      split_ifs <;> rfl
    exact hkept.trans (if_neg id).symm
  | processAuthoritativeBroadcast data localReceiveTime => exact (if_neg id).symm

/-- A number is pending until a response under it comes, and zero was never pending. -/
theorem pendingSequence_run (hmode : p.isClientMode = true) {os : List Operation}
    (hos : ∀ o ∈ os, o.endsRequest = false) :
    (run operate p os).pendingSequence =
      if ∃ o ∈ os, o.Answers p.pendingSequence then 0 else p.pendingSequence := by
  induction os generalizing p with
  | nil => simp
  | cons o os ih =>
    have hstep := pendingSequence_operate hmode (hos o (by simp))
    have hrest : ∀ o' ∈ os, o'.endsRequest = false := fun o' ho' => hos o' (by simp [ho'])
    have hclient : (p.operate o).isClientMode = true := isClientMode_run hmode [o]
    rw [run_cons, ih hclient hrest, hstep]
    by_cases ho : o.Answers p.pendingSequence
    · simp [ho]
    · simp [ho]

theorem buildRequest_eq_some {now : UInt64} {request : RequestMessage}
    (h : (p.buildRequest now).1 = some request) :
    p.isClientMode = true ∧ request.header.IsOf .request ∧ request.t1 = now ∧
      request.header.sequence = p.nextSequence ∧
      (p.buildRequest now).2.pendingSequence = p.nextSequence ∧
      (p.buildRequest now).2.isClientMode = true := by
  unfold buildRequest at h ⊢
  split_ifs at h ⊢ with hmode
  cases h
  have hclient : p.isClientMode = true := by simpa using hmode
  exact ⟨hclient, ⟨rfl, rfl, rfl⟩, rfl, rfl, rfl, hclient⟩

/-- What a reference answers to a request of the client is taken by the client exactly while the
number of the request is pending. -/
theorem processResponse_genuine {reference : SocketClockSynchronizationProtocol}
    {request : RequestMessage} {response : ResponseMessage} {t2 t3 : UInt64}
    (hmode : p.isClientMode = true)
    (hanswer : reference.processRequest request.encode t2 t3 = some response) (t4 : UInt64) :
    (p.processResponse response.encode t4).1 = some ⟨request.t1, t2, t3, t4⟩ ↔
      p.pendingSequence ≠ 0 ∧ request.header.sequence = p.pendingSequence := by
  obtain ⟨-, -, hresponse⟩ := processRequest_eq_some hanswer
  rw [RequestMessage.decode_encode] at hresponse
  have hdecoded := ResponseMessage.decode_encode response
  have hbears : Bears p.pendingSequence response.encode ↔
      request.header.sequence = p.pendingSequence := by
    unfold Bears
    rw [hdecoded, hresponse]
    simp [MessageHeader.IsOf]
  rw [processResponse_client hmode, hdecoded, ← hbears]
  split_ifs with htaken
  · exact iff_of_true (by rw [hresponse]) htaken
  · exact iff_of_false nofun htaken

/-- The genuine response to a request is taken if and only if the request did not draw the number
zero and no response under its number has been processed since. -/
theorem answered_iff (mode : SocketClockSynchronizationMode) (before later : List Operation)
    (t1 t2 t3 t4 : UInt64) {request : RequestMessage} {response : ResponseMessage}
    {reference : SocketClockSynchronizationProtocol}
    (hbuilt : ((run operate { mode } before).buildRequest t1).1 = some request)
    (hlater : ∀ o ∈ later, o.endsRequest = false)
    (hanswer : reference.processRequest request.encode t2 t3 = some response) :
    ((run operate ((run operate { mode } before).buildRequest t1).2 later).processResponse
        response.encode t4).1 = some ⟨t1, t2, t3, t4⟩ ↔
      request.header.sequence ≠ 0 ∧ ∀ o ∈ later, ¬ o.Answers request.header.sequence := by
  obtain ⟨-, -, hnow, hsequence, hpending, hclient⟩ := buildRequest_eq_some hbuilt
  have hrun := pendingSequence_run hclient hlater
  rw [hpending, ← hsequence] at hrun
  have htaken := processResponse_genuine (isClientMode_run hclient later) hanswer t4
  rw [hnow, hrun] at htaken
  rw [htaken]
  by_cases hanswered : ∃ o ∈ later, o.Answers request.header.sequence
  · obtain ⟨o, ho, ha⟩ := hanswered
    rw [if_pos ⟨o, ho, ha⟩]
    exact iff_of_false (fun h => h.1 rfl) fun h => h.2 o ho ha
  · rw [if_neg hanswered]
    have hnone : ∀ o ∈ later, ¬ o.Answers request.header.sequence :=
      fun o ho ha => hanswered ⟨o, ho, ha⟩
    exact and_congr_right fun _ => iff_of_true rfl hnone

/-- The second request of a client that has given up its first, and what comes before the answer:
the answer to the first, a broadcast and noise. -/
def earlierCalls : List Operation := [.buildRequest 5, .cancelPendingRequest]

def strayCalls : List Operation :=
  [.processResponse (ResponseMessage.encode
      { header := { type := MessageType.response.code, sequence := 1 }, t1 := 5 }) 21,
    .processAuthoritativeBroadcast (AuthoritativeBroadcastMessage.encode
      { header := { type := MessageType.authoritativeBroadcast.code, sequence := 2 } }) 22,
    .processResponse [1, 2, 3] 23]

theorem answered_second :
    ((run operate ((run operate { mode := .client } earlierCalls).buildRequest 20).2
      strayCalls).processResponse (ResponseMessage.encode
        { header := { type := MessageType.response.code, sequence := 2 }
          t1 := 20, t2 := 100, t3 := 101 }) 30).1 = some ⟨20, 100, 101, 30⟩ := by
  have hbuilt : ((run operate { mode := .client } earlierCalls).buildRequest 20).1 =
      some { header := { type := MessageType.request.code, sequence := 2 }, t1 := 20 } := by decide
  have hanswer : processRequest (RequestMessage.encode
      { header := { type := MessageType.request.code, sequence := 2 }, t1 := 20 }) 100 101
        { mode := .reference } =
      some { header := { type := MessageType.response.code, sequence := 2 }
             t1 := 20, t2 := 100, t3 := 101 } := by decide
  have hlater : ∀ o ∈ strayCalls, o.endsRequest = false := by decide
  exact (answered_iff .client earlierCalls strayCalls 20 100 101 30 hbuilt hlater hanswer).mpr
    ⟨by decide, by decide⟩

/-- The numbers a client draws. -/
theorem nextSequence_run_buildRequest (hmode : p.isClientMode = true) (now : UInt64) (n : ℕ) :
    (run operate p (List.replicate n (.buildRequest now))).nextSequence =
      p.nextSequence + UInt32.ofNat n := by
  induction n generalizing p with
  | zero => simp
  | succ n ih =>
    have hclient : (p.operate (.buildRequest now)).isClientMode = true :=
      isClientMode_run hmode [.buildRequest now]
    have hdrawn : (p.operate (.buildRequest now)).nextSequence = p.nextSequence + 1 := by
      simp [operate, buildRequest, hmode]
    rw [List.replicate_succ, run_cons, ih hclient, hdrawn, UInt32.ofNat_add,
      UInt32.add_assoc, UInt32.add_comm (UInt32.ofNat n)]
    rfl

/-- After a full round of the counter the next request draws the number zero. -/
theorem nextSequence_of_round {n : ℕ} (hn : (1 : UInt32) + UInt32.ofNat n = 0) :
    (run operate {} (List.replicate n (.buildRequest 0))).nextSequence = 0 := by
  have hdrawn := nextSequence_run_buildRequest (p := {}) rfl 0 n
  exact hdrawn.trans hn

/-- The request that draws the number zero leaves nothing pending. -/
theorem processResponse_of_nextSequence_zero (hmode : p.isClientMode = true)
    (hzero : p.nextSequence = 0) (now : UInt64) (data : Bytes) (localReceiveTime : UInt64) :
    ((p.buildRequest now).2.processResponse data localReceiveTime).1 = none := by
  have hclient : (p.buildRequest now).2.isClientMode = true :=
    isClientMode_run hmode [.buildRequest now]
  have hpending : (p.buildRequest now).2.pendingSequence = 0 := by
    simp [buildRequest, hmode, hzero]
  rw [processResponse_client hclient]
  exact congrArg Prod.fst (if_neg fun h => h.1 hpending)

def fullRound : List Operation := List.replicate (2 ^ 32 - 1) (.buildRequest 0)

/-- Request number 2^32 draws the number zero, and its answer is thrown away. -/
theorem zero_unanswered :
    ∃ request response,
      ((run operate {} fullRound).buildRequest 20).1 = some request ∧
      processRequest request.encode 100 101 { mode := .reference } = some response ∧
      (((run operate {} fullRound).buildRequest 20).2.processResponse response.encode 30).1 =
        none := by
  have hround : (1 : UInt32) + UInt32.ofNat (2 ^ 32 - 1) = 0 := by decide
  have hzero : (run operate {} fullRound).nextSequence = 0 := nextSequence_of_round hround
  have hclient : (run operate {} fullRound).isClientMode = true := isClientMode_run rfl fullRound
  have hbuilt : ((run operate {} fullRound).buildRequest 20).1 =
      some { header := { type := MessageType.request.code, sequence := 0 }, t1 := 20 } := by
    simp only [buildRequest, hclient, hzero, Bool.not_true, Bool.false_eq_true, if_false]
  have hanswer : processRequest (RequestMessage.encode
      { header := { type := MessageType.request.code, sequence := 0 }, t1 := 20 }) 100 101
        { mode := .reference } =
      some { header := { type := MessageType.response.code, sequence := 0 }
             t1 := 20, t2 := 100, t3 := 101 } := by decide
  exact ⟨_, _, hbuilt, hanswer, processResponse_of_nextSequence_zero hclient hzero _ _ _⟩

end SocketClockSynchronizationProtocol
end Sockets.Clock
