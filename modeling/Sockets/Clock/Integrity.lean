import Sockets.Clock.Exchange

/-! What the client's clock is given by an exchange over a lossy network. -/
namespace Sockets.Clock
open Foundation

/-- A counter that has not come back to zero gives a number no request of the client has. -/
private theorem fresh_sequence {x : Exchange} (h : Counted x) (t1 : UInt64) :
    .requested .client (x.node .client).nextSequence t1 ∉ x.history := by
  intro hm
  have hle := (h.drawn _ _ hm).2
  have hnext := h.next
  omega

private theorem nextSequence_succ {x : Exchange} (h : Counted x)
    (hbound : 1 + draws .client x.history < maximumDraws) :
    ((x.node .client).nextSequence + 1).toNat = 1 + (1 + draws .client x.history) := by
  have hnext := h.next
  unfold maximumDraws at hbound
  rw [UInt32.toNat_add, hnext, UInt32.toNat_one]
  omega

private theorem Counted.request {x : Exchange} (h : Counted x) (now : UInt64)
    (hbound : 1 + draws .client x.history < maximumDraws) :
    let p := x.node .client
    Counted ((x.setNode .client { p with nextSequence := p.nextSequence + 1
                                         pendingSequence := p.nextSequence }).record
      (.requested .client p.nextSequence now)) where
  next := by simpa [Exchange.record, Exchange.setNode, draws] using nextSequence_succ h hbound
  drawn sequence t1 hm := by
    have hnext := h.next
    rcases List.mem_cons.mp hm with he | hm
    · cases he
      simp only [Exchange.record, Exchange.setNode, draws, if_true]
      constructor <;> omega
    · have hd := h.drawn sequence t1 hm
      simp only [Exchange.record, Exchange.setNode, draws, if_true]
      constructor <;> omega
  sound := ⟨fresh_sequence h, h.sound⟩
  pending _ := ⟨[], x.history, now, by simp [Exchange.record, Exchange.setNode], by simp⟩

private theorem Counted.announce {x : Exchange} (h : Counted x)
    (hbound : 1 + draws .client x.history < maximumDraws) :
    let p := x.node .client
    Counted ((x.setNode .client { p with nextSequence := p.nextSequence + 1 }).record
      (.announced .client p.nextSequence)) where
  next := by simpa [Exchange.record, Exchange.setNode, draws] using nextSequence_succ h hbound
  drawn sequence t1 hm := by
    rcases List.mem_cons.mp hm with he | hm
    · cases he
    · have hd := h.drawn sequence t1 hm
      simp only [Exchange.record, Exchange.setNode, draws, if_true]
      constructor <;> omega
  sound := ⟨trivial, h.sound⟩
  pending hp := by
    have hp' : (x.node .client).pendingSequence ≠ 0 := by
      simpa [Exchange.record, Exchange.setNode] using hp
    obtain ⟨since, earlier, t1, hh, hq⟩ := h.pending hp'
    refine ⟨.announced .client (x.node .client).nextSequence :: since, earlier, t1,
      by simp [Exchange.record, Exchange.setNode, hh], ?_⟩
    intro e he
    rcases List.mem_cons.mp he with rfl | he
    · rfl
    · exact hq e he

/-- The client's sample has the timestamps of the request it waits for. -/
private theorem sample_justified {x : Exchange} (h : Inv x) {data : Bytes}
    (hd : data ∈ x.inbox .client) {receiveTime : UInt64} {sample : Sample}
    (hs : ((x.node .client).processResponse data receiveTime).1 = some sample) :
    ClockEvent.Justified x.history (.sampled .client receiveTime sample) := by
  obtain ⟨hl, ho, hp, hseq, rfl, -⟩ :=
    SocketClockSynchronizationProtocol.processResponse_eq_some hs
  obtain ⟨since, earlier, t1, hh, hq⟩ := h.pending hp
  have hfresh : ∀ t, .requested .client (x.node .client).pendingSequence t ∉ earlier :=
    (hh ▸ h.sound).justified
  have hearlier : Sound earlier := ((hh ▸ h.sound).of_append).2
  have hhandled := h.responses data hd hl ho
  rw [hseq] at hhandled
  -- the handling is newer than the request, whose number nothing earlier has
  have hsince : ClockEvent.handled .reference (x.node .client).pendingSequence
      (ResponseMessage.decode data).t1 (ResponseMessage.decode data).t2
      (ResponseMessage.decode data).t3 ∈ since := by
    rw [hh, List.mem_append, List.mem_cons] at hhandled
    rcases hhandled with hm | hm | hm
    · exact hm
    · cases hm
    · exact absurd (hearlier.requested_of_handled hm) (hfresh _)
  have ht1 : (ResponseMessage.decode data).t1 = t1 := by
    have hm := h.sound.requested_of_handled (h.responses data hd hl ho)
    rw [hseq, hh, List.mem_append, List.mem_cons] at hm
    rcases hm with hm | hm | hm
    · exact absurd (hq _ hm) (show ¬ true = false by decide)
    · cases hm; rfl
    · exact absurd hm (hfresh _)
  exact ⟨since, earlier, _, by rw [hh, ht1], hq, hfresh, hsince, rfl⟩

private theorem history_suffix_step (x : Exchange) (a : Action) :
    x.history <:+ (x.step a).history := by
  cases a <;> simp only [Exchange.step] <;> (repeat' split) <;>
    simp [Exchange.record, Exchange.send, Exchange.setNode]

private theorem draws_le_of_suffix (side : Side) {older newer : List ClockEvent}
    (h : older <:+ newer) : draws side older ≤ draws side newer := by
  obtain ⟨since, rfl⟩ := h
  induction since with
  | nil => exact le_rfl
  | cons e since ih => cases e <;> simp only [List.cons_append, draws] <;> omega

private theorem step_buildRequest (x : Exchange) (side : Side) (now : UInt64) :
    x.step (.buildRequest side now) =
      let p := x.node side
      let request : RequestMessage :=
        { header := { type := MessageType.request.code, sequence := p.nextSequence }, t1 := now }
      if p.isClientMode then
        ((x.setNode side { p with nextSequence := p.nextSequence + 1
                                  pendingSequence := p.nextSequence }).send side.other
          request.encode).record (.requested side p.nextSequence now)
      else x := by
  cases h : (x.node side).isClientMode <;>
    simp [Exchange.step, SocketClockSynchronizationProtocol.buildRequest, h]

private theorem step_buildAuthoritativeBroadcast (x : Exchange) (side : Side) (now : UInt64) :
    x.step (.buildAuthoritativeBroadcast side now) =
      let p := x.node side
      let message : AuthoritativeBroadcastMessage :=
        { header := { type := MessageType.authoritativeBroadcast.code, sequence := p.nextSequence }
          referenceTransmitTime := now }
      if p.isReferenceMode then
        ((x.setNode side { p with nextSequence := p.nextSequence + 1 }).send side.other
          message.encode).record (.announced side p.nextSequence)
      else x := by
  cases h : (x.node side).isReferenceMode <;>
    simp [Exchange.step, SocketClockSynchronizationProtocol.buildAuthoritativeBroadcast, h]

/-- An authoritative broadcast is no request, though it is as long as one. -/
private theorem broadcast_not_request (sequence : UInt32) (now : UInt64) :
    let m : AuthoritativeBroadcastMessage :=
      { header := { type := MessageType.authoritativeBroadcast.code, sequence := sequence }
        referenceTransmitTime := now }
    ¬ (RequestMessage.decode m.encode).header.IsOf .request := by
  intro m ho
  have htype := ho.2.2
  rw [RequestMessage.decode, AuthoritativeBroadcastMessage.encode,
    MessageHeader.decode_encode_append] at htype
  exact absurd (show MessageType.authoritativeBroadcast.code = MessageType.request.code from htype)
    (by decide)

private theorem Genuine.buildRequest {x : Exchange} (h : Genuine x) (side : Side) (now : UInt64) :
    Genuine (x.step (.buildRequest side now)) := by
  rw [step_buildRequest]
  dsimp only
  split_ifs
  · have hr := (h.setNode side { x.node side with
      nextSequence := (x.node side).nextSequence + 1
      pendingSequence := (x.node side).nextSequence }).record
      (e := .requested side (x.node side).nextSequence now) trivial
    cases side with
    | client =>
      refine hr.send_reference fun _ _ => ?_
      rw [RequestMessage.decode_encode]
      exact List.mem_cons_self
    | reference => exact hr.send_client fun hl => by simp [requestSize, responseSize] at hl
  · exact h

private theorem Genuine.processRequest {x : Exchange} (h : Genuine x) (side : Side) (datagram : ℕ)
    (receiveTime now : UInt64) :
    Genuine (x.step (.processRequest side datagram receiveTime now)) := by
  simp only [Exchange.step]
  split
  · exact h
  · rename_i data hdata
    split
    · exact h
    · rename_i response hresponse
      obtain ⟨hl, ho, rfl⟩ :=
        SocketClockSynchronizationProtocol.processRequest_eq_some hresponse
      cases side with
      | client =>
        have he := h.record (e := .handled .client (RequestMessage.decode data).header.sequence
          (RequestMessage.decode data).t1 receiveTime now) trivial
        exact he.send_reference fun hl => by simp [requestSize, responseSize] at hl
      | reference =>
        have he := h.record (e := .handled .reference (RequestMessage.decode data).header.sequence
          (RequestMessage.decode data).t1 receiveTime now)
          (h.requests data (List.mem_of_getElem? hdata) hl ho)
        refine he.send_client fun _ _ => ?_
        rw [ResponseMessage.decode_encode]
        exact List.mem_cons_self

private theorem Genuine.processResponse {x : Exchange} (h : Genuine x) (side : Side)
    (datagram : ℕ) (receiveTime : UInt64) :
    Genuine (x.step (.processResponse side datagram receiveTime)) := by
  simp only [Exchange.step]
  split
  · exact h
  · rename_i data hdata
    split
    · exact h.setNode _ _
    · rename_i sample p hp
      refine (h.setNode side p).record ?_
      cases side with
      | reference => trivial
      | client =>
        obtain ⟨hl, ho, -, -, rfl, -⟩ :=
          SocketClockSynchronizationProtocol.processResponse_eq_some (congrArg Prod.fst hp)
        exact ⟨⟨_, h.responses data (List.mem_of_getElem? hdata) hl ho⟩, rfl⟩

private theorem Genuine.buildAuthoritativeBroadcast {x : Exchange} (h : Genuine x) (side : Side)
    (now : UInt64) : Genuine (x.step (.buildAuthoritativeBroadcast side now)) := by
  rw [step_buildAuthoritativeBroadcast]
  dsimp only
  split_ifs
  · have ha := (h.setNode side { x.node side with
      nextSequence := (x.node side).nextSequence + 1 }).record
      (e := .announced side (x.node side).nextSequence) trivial
    cases side with
    | client => exact ha.send_reference fun _ ho => absurd ho (broadcast_not_request _ _)
    | reference => exact ha.send_client fun hl => by simp [broadcastSize, responseSize] at hl
  · exact h

/-- What is under way stays genuine, also where the numbers come round. -/
theorem Genuine.step {x : Exchange} (h : Genuine x) (a : Action) : Genuine (x.step a) := by
  cases a with
  | buildRequest side now => exact h.buildRequest side now
  | cancelPendingRequest side => exact (h.setNode _ _).record trivial
  | processRequest side datagram receiveTime now =>
    exact h.processRequest side datagram receiveTime now
  | processResponse side datagram receiveTime =>
    exact h.processResponse side datagram receiveTime
  | buildAuthoritativeBroadcast side now => exact h.buildAuthoritativeBroadcast side now
  | processAuthoritativeBroadcast side datagram receiveTime =>
    simp only [Exchange.step]
    split
    · exact h
    · split
      · exact h
      · exact h.record trivial

theorem Genuine.run {x : Exchange} (h : Genuine x) (actions : List Action) :
    Genuine (run Exchange.step x actions) :=
  run_induction (P := Genuine) (fun _ a h => h.step a) h actions

private theorem Counted.buildRequest {x : Exchange} (h : Counted x) (side : Side) (now : UInt64)
    (hbound : draws .client (x.step (.buildRequest side now)).history < maximumDraws) :
    Counted (x.step (.buildRequest side now)) := by
  rw [step_buildRequest] at hbound ⊢
  dsimp only at hbound ⊢
  split_ifs at hbound ⊢ with hmode
  · cases side with
    | client =>
      have hr := h.request now (by simpa [Exchange.record, Exchange.send, Exchange.setNode, draws]
        using hbound)
      exact hr.send .reference _
    | reference =>
      have hn := h.setNode_reference { x.node .reference with
        nextSequence := (x.node .reference).nextSequence + 1
        pendingSequence := (x.node .reference).nextSequence }
      have he := hn.record (e := .requested .reference (x.node .reference).nextSequence now)
        trivial (by simp) (by simp [draws]) (fun _ => rfl)
      exact he.send .client _
  · exact h

private theorem Counted.cancelPendingRequest {x : Exchange} (h : Counted x) (side : Side) :
    Counted (x.step (.cancelPendingRequest side)) := by
  cases side with
  | client =>
    refine h.cancel.record trivial (by simp) rfl fun hp => ?_
    simp [Exchange.setNode, SocketClockSynchronizationProtocol.cancelPendingRequest] at hp
  | reference => exact (h.setNode_reference _).record trivial (by simp) rfl fun _ => rfl

private theorem Inv.processRequest {x : Exchange} (h : Inv x) (side : Side) (datagram : ℕ)
    (receiveTime now : UInt64) :
    Counted (x.step (.processRequest side datagram receiveTime now)) := by
  simp only [Exchange.step]
  split
  · exact h.toCounted
  · rename_i data hdata
    split
    · exact h.toCounted
    · rename_i response hresponse
      obtain ⟨hl, ho, rfl⟩ :=
        SocketClockSynchronizationProtocol.processRequest_eq_some hresponse
      refine (h.toCounted.send side.other _).record ?_ (by simp) rfl fun _ => rfl
      cases side with
      | client => trivial
      | reference => exact h.requests data (List.mem_of_getElem? hdata) hl ho

private theorem Inv.processResponse {x : Exchange} (h : Inv x) (side : Side) (datagram : ℕ)
    (receiveTime : UInt64) : Counted (x.step (.processResponse side datagram receiveTime)) := by
  simp only [Exchange.step]
  split
  · exact h.toCounted
  · rename_i data hdata
    cases side with
    | reference =>
      split
      · exact h.toCounted.setNode_reference _
      · exact (h.toCounted.setNode_reference _).record trivial (by simp) rfl fun _ => rfl
    | client =>
      split
      · rename_i p hp
        have hsame := SocketClockSynchronizationProtocol.processResponse_eq_none
          (congrArg Prod.fst hp)
        rw [hp] at hsame
        subst hsame
        simpa [Exchange.setNode] using h.toCounted
      · rename_i sample p hp
        have hj := sample_justified h (List.mem_of_getElem? hdata) (congrArg Prod.fst hp)
        obtain ⟨-, -, -, -, -, hcancel⟩ :=
          SocketClockSynchronizationProtocol.processResponse_eq_some (congrArg Prod.fst hp)
        rw [hp] at hcancel
        subst hcancel
        refine h.toCounted.cancel.record hj (by simp) rfl fun hpending => ?_
        simp [Exchange.setNode, SocketClockSynchronizationProtocol.cancelPendingRequest]
          at hpending

private theorem Counted.buildAuthoritativeBroadcast {x : Exchange} (h : Counted x) (side : Side)
    (now : UInt64)
    (hbound : draws .client (x.step (.buildAuthoritativeBroadcast side now)).history <
      maximumDraws) :
    Counted (x.step (.buildAuthoritativeBroadcast side now)) := by
  rw [step_buildAuthoritativeBroadcast] at hbound ⊢
  dsimp only at hbound ⊢
  split_ifs at hbound ⊢ with hmode
  · cases side with
    | client =>
      have ha := h.announce (by simpa [Exchange.record, Exchange.send, Exchange.setNode, draws]
        using hbound)
      exact ha.send .reference _
    | reference =>
      have hn := h.setNode_reference { x.node .reference with
        nextSequence := (x.node .reference).nextSequence + 1 }
      have he := hn.record (e := .announced .reference (x.node .reference).nextSequence)
        trivial (by simp) (by simp [draws]) (fun _ => rfl)
      exact he.send .client _
  · exact h

private theorem Counted.processAuthoritativeBroadcast {x : Exchange} (h : Counted x) (side : Side)
    (datagram : ℕ) (receiveTime : UInt64) :
    Counted (x.step (.processAuthoritativeBroadcast side datagram receiveTime)) := by
  simp only [Exchange.step]
  split
  · exact h
  · split
    · exact h
    · exact h.record trivial (by simp) rfl fun _ => rfl

/-- Every step keeps the invariant while the client's numbers last. -/
theorem Inv.step {x : Exchange} (h : Inv x) (a : Action)
    (hbound : draws .client (x.step a).history < maximumDraws) : Inv (x.step a) := by
  refine ⟨h.toGenuine.step a, ?_⟩
  cases a with
  | buildRequest side now => exact h.toCounted.buildRequest side now hbound
  | cancelPendingRequest side => exact h.toCounted.cancelPendingRequest side
  | processRequest side datagram receiveTime now =>
    exact h.processRequest side datagram receiveTime now
  | processResponse side datagram receiveTime =>
    exact h.processResponse side datagram receiveTime
  | buildAuthoritativeBroadcast side now =>
    exact h.toCounted.buildAuthoritativeBroadcast side now hbound
  | processAuthoritativeBroadcast side datagram receiveTime =>
    exact h.toCounted.processAuthoritativeBroadcast side datagram receiveTime

private theorem history_suffix_run (x : Exchange) (actions : List Action) :
    x.history <:+ (run Exchange.step x actions).history :=
  run_induction (P := fun y => x.history <:+ y.history)
    (fun y a hy => hy.trans (history_suffix_step y a)) (List.suffix_refl _) actions

theorem Inv.run {x : Exchange} (h : Inv x) (actions : List Action)
    (hbound : draws .client (run Exchange.step x actions).history < maximumDraws) :
    Inv (run Exchange.step x actions) := by
  induction actions generalizing x with
  | nil => exact h
  | cons a actions ih =>
    have hle := draws_le_of_suffix .client (history_suffix_run (x.step a) actions)
    exact ih (h.step a (hle.trans_lt hbound)) hbound

def ClockEvent.isSample : ClockEvent → Bool
  | .sampled .client _ _ => true
  | _ => false

def ClockEvent.isRequest : ClockEvent → Bool
  | .requested .client _ _ => true
  | _ => false

/-- Behind a sample that belongs to the latest request there is no other one. -/
private theorem no_earlier_sample {between since before earlier : List ClockEvent}
    {sequence number : UInt32} {t1 t1' : UInt64}
    (hsplit : between ++ .requested .client sequence t1 :: earlier =
      since ++ .requested .client number t1' :: before)
    (hquiet : ∀ e ∈ since, e.endsRequest = false)
    (hlatest : ∀ e ∈ between, e.isRequest = false) :
    between.countP ClockEvent.isSample = 0 := by
  have hsub : between ⊆ since := by
    rcases List.append_eq_append_iff.mp hsplit with ⟨gap, rfl, -⟩ | ⟨gap, rfl, hgap⟩
    · exact List.subset_append_left _ _
    · cases gap with
      | nil => simp
      | cons r gap =>
        obtain ⟨rfl, -⟩ := List.cons.inj hgap
        have hr := hlatest (.requested .client number t1') (by simp)
        simp [ClockEvent.isRequest] at hr
  rw [List.countP_eq_zero]
  intro e he hs
  have hq := hquiet e (hsub he)
  cases e with
  | sampled side receiveTime sample =>
    cases side with
    | client => exact absurd hq (show ¬ true = false by decide)
    | reference => simp [ClockEvent.isSample] at hs
  | _ => simp [ClockEvent.isSample] at hs

private theorem Sound.sample_once {between : List ClockEvent} {sequence : UInt32} {t1 : UInt64}
    {earlier : List ClockEvent}
    (h : Sound (between ++ .requested .client sequence t1 :: earlier))
    (hlatest : ∀ e ∈ between, e.isRequest = false) :
    between.countP ClockEvent.isSample ≤ 1 := by
  induction between with
  | nil => simp
  | cons e between ih =>
    have hlatest' : ∀ e' ∈ between, e'.isRequest = false := fun e' he' =>
      hlatest e' (List.mem_cons_of_mem _ he')
    have hrest := ih h.2 hlatest'
    match e with
    | .sampled .client receiveTime sample =>
      obtain ⟨since, before, number, hsplit, hquiet, -⟩ := h.1
      rw [List.countP_cons, no_earlier_sample hsplit hquiet hlatest']
      simp [ClockEvent.isSample]
    | .sampled .reference _ _ | .requested _ _ _ | .cancelled _ | .announced _ _
    | .handled _ _ _ _ _ | .broadcastSampled _ _ _ =>
      simpa [ClockEvent.isSample] using hrest

/-- Every client sample carries the times of the client's latest request, still unanswered and
not cancelled, of one handling of that request, and of its own reception; and no request leads to
two samples. -/
theorem exchange_integrity (mode : Side → SocketClockSynchronizationMode) (actions : List Action)
    (hdraws : draws .client (run Exchange.step (Exchange.start mode) actions).history <
      maximumDraws) :
    (∀ newer older receiveTime sample,
      (run Exchange.step (Exchange.start mode) actions).history =
        newer ++ .sampled .client receiveTime sample :: older →
      ∃ since earlier sequence, older =
          since ++ .requested .client sequence sample.localRequestTransmitTime :: earlier ∧
        (∀ e ∈ since, e.endsRequest = false) ∧
        (∀ t1, .requested .client sequence t1 ∉ earlier) ∧
        .handled .reference sequence sample.localRequestTransmitTime
          sample.remoteRequestReceiveTime sample.remoteResponseTransmitTime ∈ since ∧
        sample.localResponseReceiveTime = receiveTime) ∧
    (∀ newer between earlier sequence t1,
      (run Exchange.step (Exchange.start mode) actions).history =
        newer ++ (between ++ .requested .client sequence t1 :: earlier) →
      (∀ e ∈ between, e.isRequest = false) → between.countP ClockEvent.isSample ≤ 1) := by
  have hsound := ((inv_start mode).run actions hdraws).sound
  constructor
  · intro newer older receiveTime sample h
    exact (h ▸ hsound).justified
  · intro newer between earlier sequence t1 h hlatest
    exact (h ▸ hsound).of_append.sample_once hlatest

/-- A client and a reference, one exchange, and a duplicate of its response. -/
def honestPair : Side → SocketClockSynchronizationMode
  | .client => .client
  | .reference => .reference

def oneExchange : List Action :=
  [.buildRequest .client 1000, .processRequest .reference 0 1500 1600,
    .processResponse .client 0 1200, .processResponse .client 0 1300]

theorem exchange_integrity_one :
    (run Exchange.step (Exchange.start honestPair) oneExchange).history =
      [.sampled .client 1200 ⟨1000, 1500, 1600, 1200⟩, .handled .reference 1 1000 1500 1600,
        .requested .client 1 1000] ∧
    ∃ since earlier sequence,
      [ClockEvent.handled .reference 1 1000 1500 1600, .requested .client 1 1000] =
        since ++ .requested .client sequence 1000 :: earlier ∧
      ClockEvent.handled .reference sequence 1000 1500 1600 ∈ since := by
  have hrun : (run Exchange.step (Exchange.start honestPair) oneExchange).history =
      [.sampled .client 1200 ⟨1000, 1500, 1600, 1200⟩, .handled .reference 1 1000 1500 1600,
        .requested .client 1 1000] := by decide
  refine ⟨hrun, ?_⟩
  have hdraws : draws .client
      (run Exchange.step (Exchange.start honestPair) oneExchange).history < maximumDraws := by
    rw [hrun]
    decide
  obtain ⟨since, earlier, sequence, hold, -, -, hhandled, -⟩ :=
    (exchange_integrity honestPair oneExchange hdraws).1 [] _ 1200 ⟨1000, 1500, 1600, 1200⟩ hrun
  exact ⟨since, earlier, sequence, hold, hhandled⟩

end Sockets.Clock
