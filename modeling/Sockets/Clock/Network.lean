import Sockets.Clock.Exchange
import Sockets.Clock.Late
import Sockets.Clock.Replies

/-! Any number of `UDPClockSynchronizer`s on a network that may lose, duplicate, delay and reorder
what they send, and on which others send what they like: where the times of a sample come from. -/
namespace Sockets.Clock
open Foundation

/-- The messages that `ProcessResponse` is for. -/
def IsResponse (data : Bytes) : Prop :=
  data.length = responseSize ∧ (ResponseMessage.decode data).header.IsOf .response

/-- The response of a reference to a request. -/
def reply (request : RequestMessage) (t2 t3 : UInt64) : ResponseMessage where
  header := { type := MessageType.response.code, sequence := request.header.sequence }
  t1 := request.t1
  t2 := t2
  t3 := t3

theorem isResponse_encode (request : RequestMessage) (t2 t3 : UInt64) :
    IsResponse (reply request t2 t3).encode := by
  refine ⟨ResponseMessage.length_encode _, ?_⟩
  rw [ResponseMessage.decode_encode]
  exact ⟨rfl, rfl, rfl⟩

/-- The broadcast of a reference. -/
def announcement (sequence : UInt32) (time : UInt64) : AuthoritativeBroadcastMessage where
  header := { type := MessageType.authoritativeBroadcast.code, sequence }
  referenceTransmitTime := time

theorem isBroadcast_encode (sequence : UInt32) (time : UInt64) :
    UDPClockSynchronizer.IsBroadcast (announcement sequence time).encode := by
  refine ⟨AuthoritativeBroadcastMessage.length_encode _, ?_⟩
  rw [AuthoritativeBroadcastMessage.encode, MessageHeader.decode_encode_append]
  exact ⟨rfl, rfl, rfl⟩

section Kinds
variable {data : Bytes}

theorem IsResponse.not_isRequest (h : IsResponse data) : ¬ IsRequest data := by
  intro hrequest
  have hlength := h.1.symm.trans hrequest.1
  exact absurd hlength (by decide)

theorem IsResponse.not_isBroadcast (h : IsResponse data) :
    ¬ UDPClockSynchronizer.IsBroadcast data := by
  intro hbroadcast
  have hlength := h.1.symm.trans hbroadcast.1
  exact absurd hlength (by decide)

theorem not_isRequest_of_isBroadcast (h : UDPClockSynchronizer.IsBroadcast data) :
    ¬ IsRequest data := by
  intro hrequest
  have htype : MessageType.authoritativeBroadcast.code = MessageType.request.code :=
    h.2.2.2.symm.trans hrequest.2.2.2
  exact absurd htype (by decide)

end Kinds

namespace UDPClockSynchronizer
variable {s s' s'' : UDPClockSynchronizer}

/-- Everything sent on the way from one state to another is of this kind. -/
def Sends (P : Datagram → Prop) (s s' : UDPClockSynchronizer) : Prop :=
  ∃ fresh, s'.sent = s.sent ++ fresh ∧ ∀ d ∈ fresh, P d

section Sends
variable {P Q : Datagram → Prop}

theorem Sends.of_eq (h : s'.sent = s.sent) : Sends P s s' :=
  ⟨[], by rw [h, List.append_nil], by simp⟩

theorem Sends.trans (h : Sends P s s') (h' : Sends P s' s'') : Sends P s s'' := by
  obtain ⟨first, hfirst, hall⟩ := h
  obtain ⟨later, hlater, hrest⟩ := h'
  refine ⟨first ++ later, ?_, ?_⟩
  · rw [hlater, hfirst, List.append_assoc]
  · intro d hd
    rcases List.mem_append.mp hd with hd | hd
    · exact hall d hd
    · exact hrest d hd

theorem Sends.mono (h : Sends P s s') (hPQ : ∀ d, P d → Q d) : Sends Q s s' := by
  obtain ⟨fresh, hsent, hall⟩ := h
  exact ⟨fresh, hsent, fun d hd => hPQ d (hall d hd)⟩

theorem Sends.subset (h : Sends P s s') : s.sent ⊆ s'.sent := by
  obtain ⟨fresh, hsent, -⟩ := h
  rw [hsent]
  exact List.subset_append_left _ _

/-- A datagram is an old one or of this kind. -/
theorem Sends.mem (h : Sends P s s') {d : Datagram} (hd : d ∈ s'.sent) : d ∈ s.sent ∨ P d := by
  obtain ⟨fresh, hsent, hall⟩ := h
  rw [hsent] at hd
  exact (List.mem_append.mp hd).imp_right (hall d)

theorem sends_sendDatagram (address : IPAddress) (port : UInt16) (data : Bytes) (accepted : Bool)
    (s : UDPClockSynchronizer) : Sends (fun d => d.address = address ∧ d.data = data) s
      (s.sendDatagram address port data accepted).2 := by
  unfold sendDatagram
  split_ifs
  · exact .of_eq rfl
  · refine ⟨[⟨address, port, data⟩], rfl, ?_⟩
    intro d hd
    rw [List.mem_singleton.mp hd]
    exact ⟨rfl, rfl⟩
  · exact .of_eq rfl

end Sends

theorem sends_requestSynchronization (t1 now : UInt64) (accepted : Bool)
    (s : UDPClockSynchronizer) :
    Sends (fun d => IsRequest d.data) s (s.requestSynchronization t1 now accepted).2 := by
  unfold requestSynchronization
  split_ifs
  · exact .of_eq rfl
  · split
    · exact .of_eq rfl
    · rename_i request p hbuild
      have hrequest : IsRequest request.encode := by
        unfold SocketClockSynchronizationProtocol.buildRequest at hbuild
        split_ifs at hbuild
        · cases hbuild
        · obtain ⟨hsome, -⟩ := Prod.mk.inj hbuild
          obtain rfl := Option.some.inj hsome
          exact isRequest_encode _ _
      have hsent := (sends_sendDatagram s.config.referenceAddress s.config.referencePort
        request.encode accepted { s with protocol := p }).mono
        (Q := fun d => IsRequest d.data) fun d hd => by rw [hd.2]; exact hrequest
      dsimp only
      split_ifs
      · exact hsent
      · exact hsent

theorem sends_broadcastTime (time now : UInt64) (broadcast multicast : Bool)
    (s : UDPClockSynchronizer) :
    Sends (fun d => ∃ sequence, d.data = (announcement sequence time).encode) s
      (s.broadcastTime time now broadcast multicast).2 := by
  unfold broadcastTime
  split_ifs
  · exact .of_eq rfl
  · split
    · exact .of_eq rfl
    · rename_i message p hbuild
      have hmessage : ∃ sequence, message = announcement sequence time := by
        unfold SocketClockSynchronizationProtocol.buildAuthoritativeBroadcast at hbuild
        split_ifs at hbuild
        · cases hbuild
        · obtain ⟨hsome, -⟩ := Prod.mk.inj hbuild
          exact ⟨_, (Option.some.inj hsome).symm⟩
      obtain ⟨sequence, rfl⟩ := hmessage
      have hsent (address : IPAddress) (port : UInt16) (accepted : Bool)
          (s : UDPClockSynchronizer) :
          Sends (fun d => ∃ sequence, d.data = (announcement sequence time).encode) s
            (s.sendDatagram address port (announcement sequence time).encode accepted).2 :=
        (sends_sendDatagram address port _ accepted s).mono fun d hd => ⟨sequence, hd.2⟩
      dsimp only
      split_ifs
      all_goals first
        | exact .of_eq rfl
        | exact hsent _ _ _ { s with protocol := p }
        | exact (hsent _ _ _ { s with protocol := p }).trans (hsent _ _ _ _)


theorem sends_sendDue (t : Tick) (s : UDPClockSynchronizer) :
    Sends (fun d => IsRequest d.data ∨
      ∃ sequence, d.data = (announcement sequence t.broadcastTime).encode) s (s.sendDue t) := by
  have hrequest : Sends (fun d => IsRequest d.data ∨
      ∃ sequence, d.data = (announcement sequence t.broadcastTime).encode) s
      (s.automaticRequest t).2 := by
    unfold automaticRequest
    split_ifs
    · exact (sends_requestSynchronization _ _ _ s).mono fun _ => .inl
    · exact .of_eq rfl
  rw [sendDue_eq]
  refine hrequest.trans ?_
  unfold automaticBroadcast
  split_ifs
  · exact (sends_broadcastTime _ _ _ _ _).mono fun _ => .inr
  · exact .of_eq rfl

/-- A response goes to where the request came from. -/
theorem sends_handlePacket (source : IPAddress) (sourcePort : UInt16) (data : Bytes)
    (localReceiveTime answerTime : UInt64) (answered : Bool) (s : UDPClockSynchronizer) :
    Sends (fun d => d.address = source ∧ IsRequest data ∧
        d.data = (reply (RequestMessage.decode data) localReceiveTime answerTime).encode) s
      (s.handlePacket source sourcePort data localReceiveTime answerTime answered) := by
  unfold handlePacket
  dsimp only
  split_ifs
  · exact .of_eq rfl
  · exact .of_eq rfl
  · split
    · exact .of_eq rfl
    · rename_i response hresponse
      obtain ⟨hlength, hof, rfl⟩ :=
        SocketClockSynchronizationProtocol.processRequest_eq_some hresponse
      refine (sends_sendDatagram _ _ _ _ s).mono fun d hd => ?_
      exact ⟨hd.1, ⟨hlength, hof⟩, hd.2⟩
  · exact .of_eq rfl
  · exact .of_eq rfl
  · exact .of_eq rfl
  · exact .of_eq rfl

/-- The time that an action would broadcast. -/
def Action.announces : Action → Option UInt64
  | .broadcastTime time _ _ _ => some time
  | .sendDue t => some t.broadcastTime
  | _ => none

/-- What a step sends: a request, a broadcast, or the response to a request it has received. -/
def Emits (a : Action) (d : Datagram) : Prop :=
  IsRequest d.data ∨
  (∃ time, a.announces = some time ∧
    ∃ sequence, d.data = (announcement sequence time).encode) ∨
  ∃ b, a = .receivePacket b ∧ Arrival.Read b ∧
    d.address = b.source ∧ IsRequest (Arrival.data b) ∧
    d.data = (reply (RequestMessage.decode (Arrival.data b)) b.receiveTime b.answerTime).encode

theorem sends_step (s : UDPClockSynchronizer) (a : Action) : Sends (Emits a) s (s.step a) := by
  cases a with
  | initializeWith config begun started =>
    apply Sends.of_eq
    unfold step initializeWith
    dsimp only
    split_ifs <;> rfl
  | shutdown =>
    apply Sends.of_eq
    unfold step shutdown
    dsimp only
    split_ifs <;> rfl
  | requestSynchronization t1 now accepted =>
    exact (sends_requestSynchronization t1 now accepted s).mono fun _ => .inl
  | broadcastTime time now broadcast multicast =>
    exact (sends_broadcastTime time now broadcast multicast s).mono fun _ h =>
      .inr (.inl ⟨time, rfl, h⟩)
  | receivePacket b =>
    unfold step receivePacket
    dsimp only
    split_ifs with hworking hread
    · refine (sends_handlePacket _ _ _ _ _ _ s).mono fun d hd => ?_
      exact .inr (.inr ⟨b, rfl, hread, hd⟩)
    · exact .of_eq rfl
    · exact .of_eq rfl
  | sendDue t =>
    unfold step
    dsimp only
    split_ifs
    · exact (sends_sendDue t s).mono fun _ h => h.imp_right fun h =>
        .inl ⟨t.broadcastTime, rfl, h⟩
    · exact .of_eq rfl

/-- The number of a request. -/
def number (data : Bytes) : UInt32 := (RequestMessage.decode data).header.sequence

/-- The latest request in the log went to this address. -/
def Latest (address : IPAddress) (request : Bytes) (sent : List Datagram) : Prop :=
  ∃ earlier later port, sent = earlier ++ ⟨address, port, request⟩ :: later ∧
    IsRequest request ∧ ∀ d ∈ later, ¬ IsRequest d.data

theorem Latest.append {address : IPAddress} {request : Bytes} {sent fresh : List Datagram}
    (h : Latest address request sent) (hfresh : ∀ d ∈ fresh, ¬ IsRequest d.data) :
    Latest address request (sent ++ fresh) := by
  obtain ⟨earlier, later, port, rfl, hrequest, hlater⟩ := h
  refine ⟨earlier, later ++ fresh, port, by simp, hrequest, ?_⟩
  intro d hd
  rcases List.mem_append.mp hd with hd | hd
  · exact hlater d hd
  · exact hfresh d hd

/-- No two requests have the same number, and the pending one is the latest. -/
structure Numbered (s : UDPClockSynchronizer) : Prop where
  drawn_before : ∀ d ∈ s.sent, IsRequest d.data →
    (number d.data).toNat < s.protocol.nextSequence.toNat
  distinct : s.sent.Pairwise fun d e =>
    IsRequest d.data → IsRequest e.data → number d.data ≠ number e.data
  pending : s.protocol.pendingSequence ≠ 0 → s.initialized = true ∧
    s.config.referenceAddress ≠ 0 ∧ ∃ request, number request = s.protocol.pendingSequence ∧
      Latest s.config.referenceAddress request s.sent

theorem numbered_start : Numbered {} where
  drawn_before d hd := by cases hd
  distinct := List.Pairwise.nil
  pending h := absurd rfl h

/-- Two requests with one number are the same. -/
theorem Numbered.eq (h : Numbered s) {d e : Datagram} (hd : d ∈ s.sent)
    (he : e ∈ s.sent) (hrequest : IsRequest d.data) (hrequest' : IsRequest e.data)
    (hnumber : number d.data = number e.data) : d = e := by
  by_contra hne
  have : Std.Symm fun d e : Datagram =>
      IsRequest d.data → IsRequest e.data → number d.data ≠ number e.data :=
    ⟨fun _ _ hde hd he heq => hde he hd heq.symm⟩
  exact h.distinct.forall hd he hne hrequest hrequest' hnumber

/-- Other messages change nothing about the requests. -/
theorem Numbered.sends (h : Numbered s)
    (hsends : Sends (fun d => ¬ IsRequest d.data) s s')
    (hnext : s.protocol.nextSequence.toNat ≤ s'.protocol.nextSequence.toNat)
    (hpending : s'.protocol.pendingSequence ≠ 0 →
      s'.protocol.pendingSequence = s.protocol.pendingSequence ∧
      s'.initialized = s.initialized ∧ s'.config = s.config) : Numbered s' := by
  obtain ⟨fresh, hsent, hfresh⟩ := hsends
  constructor
  · intro d hd hrequest
    rw [hsent] at hd
    rcases List.mem_append.mp hd with hd | hd
    · exact (h.drawn_before d hd hrequest).trans_le hnext
    · exact absurd hrequest (hfresh d hd)
  · rw [hsent, List.pairwise_append]
    refine ⟨h.distinct, ?_, fun d _ e he _ hrequest => absurd hrequest (hfresh e he)⟩
    exact List.Pairwise.imp_of_mem (fun hd _ _ hrequest _ => absurd hrequest (hfresh _ hd))
      (List.pairwise_of_forall fun _ _ => trivial)
  · intro hwaiting
    obtain ⟨hsame, hinitialized, hconfig⟩ := hpending hwaiting
    rw [hsame] at hwaiting
    obtain ⟨hon, haddress, request, hnumber, hlatest⟩ := h.pending hwaiting
    rw [hinitialized, hconfig, hsame, hsent]
    exact ⟨hon, haddress, request, hnumber, hlatest.append hfresh⟩

@[simp] theorem protocol_sendDatagram (address : IPAddress) (port : UInt16) (data : Bytes)
    (accepted : Bool) (s : UDPClockSynchronizer) :
    (s.sendDatagram address port data accepted).2.protocol = s.protocol := by
  unfold sendDatagram
  split_ifs <;> rfl

/-- The counter stands still or moves on by one. -/
def Ticks (sequence sequence' : UInt32) : Prop := sequence' = sequence ∨ sequence' = sequence + 1

/-- Where two ticks do not lead back behind zero, neither of them does. -/
theorem Ticks.between {first second third : UInt32} (h : Ticks first second)
    (h' : Ticks second third) (hle : first.toNat ≤ third.toNat) :
    first.toNat ≤ second.toNat ∧ second.toNat ≤ third.toNat := by
  rcases h with rfl | rfl
  · exact ⟨le_rfl, hle⟩
  · rcases h' with rfl | rfl
    · exact ⟨hle, le_rfl⟩
    · have hlt := first.toNat_lt
      simp only [UInt32.toNat_add, UInt32.toNat_one] at hle ⊢
      omega

theorem lt_next {sequence : UInt32} (hle : sequence.toNat ≤ (sequence + 1).toNat) :
    sequence.toNat < (sequence + 1).toNat := by
  have hlt := sequence.toNat_lt
  rw [UInt32.toNat_add, UInt32.toNat_one] at hle ⊢
  omega

theorem ticks_requestSynchronization (t1 now : UInt64) (accepted : Bool)
    (s : UDPClockSynchronizer) : Ticks s.protocol.nextSequence
      (s.requestSynchronization t1 now accepted).2.protocol.nextSequence := by
  unfold UDPClockSynchronizer.requestSynchronization
    SocketClockSynchronizationProtocol.buildRequest
  split_ifs
  · exact .inl rfl
  · exact .inl rfl
  · dsimp only
    split_ifs
    · exact .inr (by simp)
    · exact .inr (by simp [SocketClockSynchronizationProtocol.cancelPendingRequest])

theorem Numbered.requestSynchronization (h : Numbered s) (t1 now : UInt64) (accepted : Bool)
    (hup : s.protocol.nextSequence.toNat ≤
      (s.requestSynchronization t1 now accepted).2.protocol.nextSequence.toNat) :
    Numbered (s.requestSynchronization t1 now accepted).2 := by
  by_cases hrequesting : s.Requesting
  · obtain ⟨hinitialized, hmode, haddress, hport⟩ := hrequesting
    have hrequest := isRequest_encode s.protocol.nextSequence t1
    have hnumber : number (RequestMessage.encode
        { header := { type := MessageType.request.code, sequence := s.protocol.nextSequence }
          t1 := t1 }) = s.protocol.nextSequence := by
      rw [number, RequestMessage.decode_encode]
    have hother : ∀ d ∈ s.sent, IsRequest d.data → number d.data ≠ s.protocol.nextSequence :=
      fun d hd hd' heq => (h.drawn_before d hd hd').ne (congrArg UInt32.toNat heq)
    unfold UDPClockSynchronizer.requestSynchronization
      SocketClockSynchronizationProtocol.buildRequest at hup ⊢
    cases accepted with
    | false =>
      -- nothing is sent, and the number is given up
      simp only [hinitialized, hmode, haddress, hport, sendDatagram, Bool.not_true, decide_false,
        Bool.or_false, Bool.false_eq_true, if_false, encode_request_ne_nil, or_self] at hup ⊢
      exact h.sends (.of_eq rfl) hup fun hwaiting => absurd rfl hwaiting
    | true =>
      simp only [hinitialized, hmode, haddress, hport, Bool.not_true, decide_false, Bool.or_false,
        Bool.false_eq_true, if_false, ne_eq, not_false_eq_true, encode_request_ne_nil,
        sendDatagram_accepted, if_true] at hup ⊢
      have hnext := lt_next hup
      constructor
      · intro d hd hd'
        rcases List.mem_append.mp hd with hd | hd
        · exact (h.drawn_before d hd hd').trans hnext
        · rw [List.mem_singleton.mp hd, hnumber]
          exact hnext
      · rw [List.pairwise_append]
        refine ⟨h.distinct, List.pairwise_singleton _ _, fun d hd e he hd' _ => ?_⟩
        rw [List.mem_singleton.mp he, hnumber]
        exact hother d hd hd'
      · intro _
        exact ⟨rfl, haddress, _, hnumber, s.sent, [], _, rfl, hrequest, by simp⟩
  · rw [requestSynchronization_refused hrequesting]
    exact h

/-- A broadcast draws one number at most, and leaves the pending request alone. -/
theorem broadcastTime_spec (time now : UInt64) (broadcast multicast : Bool)
    (s : UDPClockSynchronizer) :
    let s' := (s.broadcastTime time now broadcast multicast).2
    Ticks s.protocol.nextSequence s'.protocol.nextSequence ∧
      s'.protocol.pendingSequence = s.protocol.pendingSequence ∧
      s'.initialized = s.initialized ∧ s'.config = s.config := by
  intro s'
  have hs' : s' = (s.broadcastTime time now broadcast multicast).2 := rfl
  have hkept (address : IPAddress) (port : UInt16) (data : Bytes) (accepted : Bool)
      (s : UDPClockSynchronizer) :
      (s.sendDatagram address port data accepted).2.initialized = s.initialized ∧
        (s.sendDatagram address port data accepted).2.config = s.config := by
    unfold sendDatagram
    split_ifs <;> exact ⟨rfl, rfl⟩
  unfold broadcastTime SocketClockSynchronizationProtocol.buildAuthoritativeBroadcast at hs'
  rw [hs']
  by_cases hmode : s.protocol.isReferenceMode = true
  · cases hinitialized : s.initialized with
    | false => simp [hinitialized, Ticks]
    | true =>
      simp only [hmode, Bool.not_true, Bool.or_self, Bool.false_eq_true, if_false]
      split_ifs <;> simp [hkept, Ticks]
  · simp [hmode, Ticks]

theorem Numbered.broadcastTime (h : Numbered s) (time now : UInt64) (broadcast multicast : Bool)
    (hup : s.protocol.nextSequence.toNat ≤
      (s.broadcastTime time now broadcast multicast).2.protocol.nextSequence.toNat) :
    Numbered (s.broadcastTime time now broadcast multicast).2 := by
  have hsends := (sends_broadcastTime time now broadcast multicast s).mono
    (Q := fun d => ¬ IsRequest d.data) fun d ⟨sequence, hd⟩ => by
      rw [hd]
      exact not_isRequest_of_isBroadcast (isBroadcast_encode _ _)
  obtain ⟨-, hpending, hinitialized, hconfig⟩ := broadcastTime_spec time now broadcast multicast s
  exact h.sends hsends hup fun _ => ⟨hpending, hinitialized, hconfig⟩

theorem ticks_automaticRequest (t : Tick) (s : UDPClockSynchronizer) :
    Ticks s.protocol.nextSequence (s.automaticRequest t).2.protocol.nextSequence := by
  unfold automaticRequest
  split_ifs
  · exact ticks_requestSynchronization _ _ _ s
  · exact .inl rfl

theorem ticks_automaticBroadcast (t : Tick) (s : UDPClockSynchronizer) :
    Ticks s.protocol.nextSequence (s.automaticBroadcast t).2.protocol.nextSequence := by
  unfold automaticBroadcast
  split_ifs
  · exact (broadcastTime_spec _ _ _ _ s).1
  · exact .inl rfl

theorem Numbered.sendDue (h : Numbered s) (t : Tick) (hup : s.protocol.nextSequence.toNat ≤
    (s.sendDue t).protocol.nextSequence.toNat) : Numbered (s.sendDue t) := by
  rw [sendDue_eq] at hup ⊢
  obtain ⟨hfirst, hsecond⟩ :=
    (ticks_automaticRequest t s).between (ticks_automaticBroadcast t (s.automaticRequest t).2) hup
  have hrequest : Numbered (s.automaticRequest t).2 := by
    unfold automaticRequest at hfirst ⊢
    split_ifs at hfirst ⊢
    · exact h.requestSynchronization _ _ _ hfirst
    · exact h
  generalize (s.automaticRequest t).2 = s' at hrequest hsecond ⊢
  unfold automaticBroadcast at hsecond ⊢
  split_ifs at hsecond ⊢
  · exact hrequest.broadcastTime _ _ _ _ hsecond
  · exact hrequest

/-- Of the numbers, a datagram can only use up the pending one. -/
theorem handlePacket_numbers (source : IPAddress) (sourcePort : UInt16) (data : Bytes)
    (localReceiveTime answerTime : UInt64) (answered : Bool) (s : UDPClockSynchronizer) :
    let s' := s.handlePacket source sourcePort data localReceiveTime answerTime answered
    s'.protocol.nextSequence = s.protocol.nextSequence ∧
      (s'.protocol.pendingSequence ≠ 0 →
        s'.protocol.pendingSequence = s.protocol.pendingSequence) := by
  intro s'
  have hs' : s' = s.handlePacket source sourcePort data localReceiveTime answerTime answered := rfl
  have hsame : s.protocol.nextSequence = s.protocol.nextSequence ∧
      (s.protocol.pendingSequence ≠ 0 → s.protocol.pendingSequence = s.protocol.pendingSequence) :=
    ⟨rfl, fun _ => rfl⟩
  unfold handlePacket at hs'
  dsimp only at hs'
  rw [hs']
  split_ifs
  · exact hsame
  · exact hsame
  · split
    · exact hsame
    · rw [protocol_sendDatagram]
      exact hsame
  · exact hsame
  · change (s.protocol.processResponse data localReceiveTime).2.nextSequence = _ ∧
      ((s.protocol.processResponse data localReceiveTime).2.pendingSequence ≠ 0 →
        (s.protocol.processResponse data localReceiveTime).2.pendingSequence = _)
    cases hsample : (s.protocol.processResponse data localReceiveTime).1 with
    | none =>
      rw [SocketClockSynchronizationProtocol.processResponse_eq_none hsample]
      exact hsame
    | some sample =>
      have husedUp := (SocketClockSynchronizationProtocol.processResponse_eq_some hsample).2.2.2.2.2
      rw [husedUp]
      exact ⟨rfl, fun hwaiting => absurd rfl hwaiting⟩
  · exact hsame
  · exact hsame

/-- While the counter does not come back to zero, every step keeps the numbers apart. -/
theorem Numbered.step (h : Numbered s) (a : Action) (hup : s.protocol.nextSequence.toNat ≤
    (s.step a).protocol.nextSequence.toNat) : Numbered (s.step a) := by
  have hidle {s' : UDPClockSynchronizer} (hsent : s'.sent = s.sent)
      (hnext : s'.protocol.nextSequence = s.protocol.nextSequence)
      (hpending : s'.protocol.pendingSequence = 0) : Numbered s' :=
    h.sends (.of_eq hsent) (by rw [hnext]) fun hwaiting => absurd hpending hwaiting
  cases a with
  | initializeWith config begun started =>
    change Numbered (s.initializeWith config begun started).2
    by_cases hinitialized : s.initialized = true
    · have hsame : (s.initializeWith config begun started).2 = s := by
        simp [initializeWith, hinitialized]
      rw [hsame]
      exact h
    · -- nothing is pending where the configuration can change
      have hpending : s.protocol.pendingSequence = 0 := by
        by_contra hwaiting
        exact hinitialized (h.pending hwaiting).1
      unfold initializeWith
      dsimp only
      split_ifs
      · exact h
      · exact hidle rfl rfl hpending
      · exact hidle rfl rfl hpending
      · exact hidle rfl rfl hpending
  | shutdown =>
    change Numbered s.shutdown
    unfold shutdown
    split_ifs
    · exact h
    · exact hidle rfl rfl rfl
  | requestSynchronization t1 now accepted => exact h.requestSynchronization t1 now accepted hup
  | broadcastTime time now broadcast multicast =>
    exact h.broadcastTime time now broadcast multicast hup
  | receivePacket b =>
    change Numbered (if s.working then s.receivePacket b else s)
    unfold receivePacket
    split_ifs
    · have hsends := (sends_handlePacket b.source b.sourcePort (Arrival.data b) b.receiveTime
        b.answerTime b.answered s).mono (Q := fun d => ¬ IsRequest d.data) fun d hd => by
          rw [hd.2.2]
          exact (isResponse_encode _ _ _).not_isRequest
      obtain ⟨hnext, hpending⟩ := handlePacket_numbers b.source b.sourcePort (Arrival.data b)
        b.receiveTime b.answerTime b.answered s
      obtain ⟨hsetting, -, -⟩ := handlePacket_spec b.source b.sourcePort (Arrival.data b)
        b.receiveTime b.answerTime b.answered s
      exact h.sends hsends (by rw [hnext]) fun hwaiting =>
        ⟨hpending hwaiting, hsetting.initialized, hsetting.config⟩
    · exact h
    · exact h
  | sendDue t =>
    change s.protocol.nextSequence.toNat ≤
      (if s.working then s.sendDue t else s).protocol.nextSequence.toNat at hup
    change Numbered (if s.working then s.sendDue t else s)
    split_ifs at hup ⊢
    · exact h.sendDue t hup
    · exact h

/-- An awaited response is submitted, with its three times. -/
theorem submitted_awaited {b : Arrival} (hworking : s.working = true) (hread : Arrival.Read b)
    (hawaited : Timed.Awaited b s) : (s.step (.receivePacket b)).submitted =
      s.submitted ++ [⟨b.source, s.config.referenceAddress,
        ⟨(ResponseMessage.decode (Arrival.data b)).t1, (ResponseMessage.decode (Arrival.data b)).t2,
          (ResponseMessage.decode (Arrival.data b)).t3, b.receiveTime⟩⟩] := by
  obtain ⟨hsource, hawaits⟩ := hawaited
  obtain ⟨hlength, hmagic, hversion, htype⟩ := hawaits.header
  have hlong : ¬ (Arrival.data b).length < headerSize := by
    rw [hlength]
    decide
  have hchecked : ¬ ((MessageHeader.decode (Arrival.data b)).magic ≠ headerMagic ∨
      (MessageHeader.decode (Arrival.data b)).version ≠ 1) := by
    rw [hmagic, hversion]
    decide
  have hother : MessageType.response.code ≠ MessageType.request.code := by decide
  have hstray : ¬ (s.config.referenceAddress ≠ 0 ∧ b.source ≠ s.config.referenceAddress) := by
    tauto
  have hsome := (SocketClockSynchronizationProtocol.isSome_processResponse s.protocol
    (Arrival.data b) b.receiveTime).mpr hawaits
  obtain ⟨sample, hsample⟩ := Option.isSome_iff_exists.mp hsome
  obtain ⟨-, -, -, -, rfl, -⟩ :=
    SocketClockSynchronizationProtocol.processResponse_eq_some hsample
  unfold step receivePacket handlePacket
  dsimp only
  rw [if_pos hworking, if_pos hread, if_neg hlong, if_neg hchecked, if_neg (htype ▸ hother),
    if_pos htype, if_neg hstray, submit, hsample]
  rfl

/-- What a reception submits: nothing, the sample of an awaited response, or that of a broadcast. -/
theorem submitted_receivePacket (b : Arrival) (s : UDPClockSynchronizer) :
    (s.step (.receivePacket b)).submitted = s.submitted ∨
      s.working = true ∧ Arrival.Read b ∧ (Timed.Awaited b s ∨
        IsBroadcast (Arrival.data b) ∧ (s.step (.receivePacket b)).submitted =
          s.submitted ++ [⟨b.source, s.config.referenceAddress, ⟨b.receiveTime,
            (AuthoritativeBroadcastMessage.decode (Arrival.data b)).referenceTransmitTime,
            (AuthoritativeBroadcastMessage.decode (Arrival.data b)).referenceTransmitTime,
            b.receiveTime⟩⟩]) := by
  unfold step receivePacket
  dsimp only
  split_ifs with hworking hread
  · unfold handlePacket
    dsimp only
    split_ifs with hshort hheader hrequest hresponse hstray hbroadcast
    · exact .inl rfl
    · exact .inl rfl
    · split
      · exact .inl rfl
      · exact .inl (submitted_sendDatagram _ _ _)
    · exact .inl rfl
    · cases hsample : (s.protocol.processResponse (Arrival.data b) b.receiveTime).1 with
      | none => exact .inl (List.append_nil _)
      | some sample =>
        refine .inr ⟨hworking, hread, .inl ⟨fun hnamed => ?_, ?_⟩⟩
        · by_contra hne
          exact hstray ⟨hnamed, hne⟩
        · apply (SocketClockSynchronizationProtocol.isSome_processResponse s.protocol _
            b.receiveTime).mp
          rw [hsample]
          rfl
    · cases hsample : s.protocol.processAuthoritativeBroadcast (Arrival.data b) b.receiveTime with
      | none => exact .inl (List.append_nil _)
      | some sample =>
        have hsome : (s.protocol.processAuthoritativeBroadcast (Arrival.data b)
            b.receiveTime).isSome = true := by
          rw [hsample]
          rfl
        rw [isSome_processAuthoritativeBroadcast] at hsome
        refine .inr ⟨hworking, hread, .inr ⟨hsome.2, ?_⟩⟩
        unfold SocketClockSynchronizationProtocol.processAuthoritativeBroadcast at hsample
        dsimp only at hsample
        split_ifs at hsample
        obtain rfl := Option.some.inj hsample
        rfl
    · exact .inl rfl
  · exact .inl rfl
  · exact .inl rfl

/-- A datagram shorter than the buffer is read whole. -/
theorem Arrival.data_eq {b : Arrival} (h : (Arrival.data b).length < packetCapacity) :
    Arrival.data b = b.received := by
  rw [Arrival.data, List.length_take] at h
  rw [Arrival.data, List.take_of_length_le (by omega)]

end UDPClockSynchronizer

/-- Synchronizers, each with an address of its own. -/
abbrev UDPClockNetwork (ι : Type*) := ι → UDPClockSynchronizer

namespace UDPClockNetwork
open UDPClockSynchronizer hiding step
variable {ι : Type*} {address : ι → IPAddress} {groups : Set IPAddress}

/-- What is received was sent to that synchronizer or to a group by one of them, at whatever time
and however often it has been received before; or it is from a host that is none of them. -/
def Delivers (address : ι → IPAddress) (groups : Set IPAddress) (n : UDPClockNetwork ι) (i : ι)
    (b : Arrival) : Prop :=
  (∃ j, b.source = address j ∧ ∃ d ∈ (n j).sent,
    (d.address = address i ∨ d.address ∈ groups) ∧ b.received = d.data) ∨
  b.source ∉ Set.range address ∪ groups

/-- The steps of the network: anything at all, but for the datagrams. -/
def Permitted (address : ι → IPAddress) (groups : Set IPAddress) (n : UDPClockNetwork ι)
    (a : ι × UDPClockSynchronizer.Action) : Prop :=
  ∀ b, a.2 = .receivePacket b → Arrival.Read b → Delivers address groups n a.1 b

/-- It is the response that `j` made of a request of `i` that it had received. -/
def Answered (address : ι → IPAddress) (past : List (ι × UDPClockSynchronizer.Action))
    (n : UDPClockNetwork ι) (i j : ι) (response : Bytes) : Prop :=
  ∃ b, (j, .receivePacket b) ∈ past ∧ b.source = address i ∧ ∃ d ∈ (n i).sent,
    IsRequest d.data ∧ Arrival.data b = d.data ∧
    response = (reply (RequestMessage.decode d.data) b.receiveTime b.answerTime).encode

/-- It is a broadcast of a time that `j` had read. -/
def Announced (past : List (ι × UDPClockSynchronizer.Action)) (j : ι) (data : Bytes) : Prop :=
  ∃ a time, (j, a) ∈ past ∧ a.announces = some time ∧
    ∃ sequence, data = (announcement sequence time).encode

/-- Every response has its request, and every broadcast its reading of the clock. -/
structure Inv (address : ι → IPAddress) (groups : Set IPAddress)
    (past : List (ι × UDPClockSynchronizer.Action)) (n : UDPClockNetwork ι) : Prop where
  answered : ∀ i j, ∀ d ∈ (n j).sent, IsResponse d.data → d.address = address i →
    Answered address past n i j d.data
  ungrouped : ∀ j, ∀ d ∈ (n j).sent, IsResponse d.data → d.address ∉ groups
  announced : ∀ j, ∀ d ∈ (n j).sent, IsBroadcast d.data → Announced past j d.data

theorem inv_start : Inv address groups [] fun _ => {} where
  answered _ _ d hd := by cases hd
  ungrouped _ d hd := by cases hd
  announced _ d hd := by cases hd

variable [DecidableEq ι]

/-- One of them takes a step. -/
def step (n : UDPClockNetwork ι) (a : ι × UDPClockSynchronizer.Action) : UDPClockNetwork ι :=
  Function.update n a.1 ((n a.1).step a.2)

variable {n : UDPClockNetwork ι} {past : List (ι × UDPClockSynchronizer.Action)}

theorem sent_subset_step (n : UDPClockNetwork ι) (a : ι × UDPClockSynchronizer.Action) (i : ι) :
    (n i).sent ⊆ (step n a i).sent := by
  unfold step
  by_cases hi : i = a.1
  · rw [hi, Function.update_self]
    exact (UDPClockSynchronizer.sends_step _ _).subset
  · rw [Function.update_of_ne hi]
    exact List.Subset.refl _

theorem Answered.mono {a : ι × UDPClockSynchronizer.Action} {i j : ι} {response : Bytes}
    (h : Answered address past n i j response) :
    Answered address (past ++ [a]) (step n a) i j response := by
  obtain ⟨b, hb, hsource, d, hd, hanswer⟩ := h
  exact ⟨b, List.mem_append_left _ hb, hsource, d, sent_subset_step n a i hd, hanswer⟩

/-- A datagram is an old one, or the step of its sender has sent it. -/
theorem emitted_step (a : ι × UDPClockSynchronizer.Action) {j : ι} {d : Datagram}
    (hd : d ∈ (step n a j).sent) : d ∈ (n j).sent ∨ a.1 = j ∧ Emits a.2 d := by
  unfold step at hd
  by_cases hj : j = a.1
  · rw [hj, Function.update_self] at hd
    rw [hj]
    exact ((UDPClockSynchronizer.sends_step _ _).mem hd).imp_right fun hnew => ⟨rfl, hnew⟩
  · rw [Function.update_of_ne hj] at hd
    exact .inl hd

/-- A response is an old one, or the step has made it of a request from where it goes to. -/
theorem response_step (a : ι × UDPClockSynchronizer.Action) {j : ι} {d : Datagram}
    (hd : d ∈ (step n a j).sent) (hresponse : IsResponse d.data) : d ∈ (n j).sent ∨
      ∃ b, a = (j, .receivePacket b) ∧ Arrival.Read b ∧ d.address = b.source ∧
        IsRequest (Arrival.data b) ∧ d.data =
          (reply (RequestMessage.decode (Arrival.data b)) b.receiveTime b.answerTime).encode := by
  refine (emitted_step a hd).imp_right fun ⟨hj, hnew⟩ => ?_
  rcases hnew with hrequest | hbroadcast | ⟨b, hb, hnew⟩
  · exact absurd hrequest hresponse.not_isRequest
  · obtain ⟨time, -, sequence, hdata⟩ := hbroadcast
    refine absurd ?_ hresponse.not_isBroadcast
    rw [hdata]
    exact isBroadcast_encode _ _
  · exact ⟨b, Prod.ext hj hb, hnew⟩

/-- A broadcast is an old one, or the step has made it of a reading of the clock. -/
theorem broadcast_step (a : ι × UDPClockSynchronizer.Action) {j : ι} {d : Datagram}
    (hd : d ∈ (step n a j).sent) (hbroadcast : IsBroadcast d.data) : d ∈ (n j).sent ∨
      a.1 = j ∧ ∃ time, a.2.announces = some time ∧
        ∃ sequence, d.data = (announcement sequence time).encode := by
  refine (emitted_step a hd).imp_right fun ⟨hj, hnew⟩ => ?_
  rcases hnew with hrequest | hnew | ⟨b, -, -, -, -, hdata⟩
  · exact absurd hrequest (not_isRequest_of_isBroadcast hbroadcast)
  · exact ⟨hj, hnew⟩
  · rw [hdata] at hbroadcast
    exact absurd hbroadcast (isResponse_encode _ _ _).not_isBroadcast

theorem Inv.step (haddress : Function.Injective address) (hgroups : ∀ i, address i ∉ groups)
    (h : Inv address groups past n) {a : ι × UDPClockSynchronizer.Action}
    (hpermitted : Permitted address groups n a) :
    Inv address groups (past ++ [a]) (step n a) where
  answered i j d hd hresponse hto := by
    rcases response_step a hd hresponse with hold | ⟨b, rfl, hread, hsource, hrequest, hreply⟩
    · exact (h.answered i j d hold hresponse hto).mono
    · rw [hto] at hsource
      rcases hpermitted b rfl hread with ⟨k, hk, e, he, -, hreceived⟩ | hstranger
      · obtain rfl : i = k := haddress (hsource.trans hk)
        have hwhole : Arrival.data b = e.data := by
          rw [← hreceived]
          apply Arrival.data_eq
          rw [hrequest.1]
          decide
        rw [hwhole] at hrequest hreply
        exact ⟨b, by simp, hsource.symm, e, sent_subset_step n _ i he, hrequest, hwhole, hreply⟩
      · refine absurd (Or.inl ?_) hstranger
        exact ⟨i, hsource⟩
  ungrouped j d hd hresponse := by
    rcases response_step a hd hresponse with hold | ⟨b, rfl, hread, hsource, -, -⟩
    · exact h.ungrouped j d hold hresponse
    · rw [hsource]
      rcases hpermitted b rfl hread with ⟨k, hk, -⟩ | hstranger
      · rw [hk]
        exact hgroups k
      · exact fun hmem => hstranger (Or.inr hmem)
  announced j d hd hbroadcast := by
    rcases broadcast_step a hd hbroadcast with hold | ⟨rfl, time, htime, hnew⟩
    · obtain ⟨b, time, hb, hread⟩ := h.announced j d hold hbroadcast
      exact ⟨b, time, List.mem_append_left _ hb, hread⟩
    · exact ⟨a.2, time, by simp, htime, hnew⟩

theorem Inv.run (haddress : Function.Injective address) (hgroups : ∀ i, address i ∉ groups)
    (h : Inv address groups past n) (actions : List (ι × UDPClockSynchronizer.Action))
    (hpermitted : Meets UDPClockNetwork.step (Permitted address groups) n actions) :
    Inv address groups (past ++ actions) (run UDPClockNetwork.step n actions) := by
  induction actions generalizing past n with
  | nil =>
    rw [List.append_nil]
    exact h
  | cons a actions ih =>
    have hnext := ih (h.step haddress hgroups hpermitted.1) hpermitted.2
    rwa [List.append_assoc, List.singleton_append] at hnext

/-- How many numbers one of them draws for its requests and broadcasts: its counter counts them. -/
def drawn (i : ι) : UDPClockNetwork ι → List (ι × UDPClockSynchronizer.Action) → ℕ
  | _, [] => 0
  | n, a :: actions =>
    ((step n a i).protocol.nextSequence - (n i).protocol.nextSequence).toNat +
      drawn i (step n a) actions

/-- Before the counter comes back to zero, the numbers of a synchronizer stay apart. -/
theorem numbered_run {i : ι} (h : Numbered (n i))
    (actions : List (ι × UDPClockSynchronizer.Action))
    (hdrawn : (n i).protocol.nextSequence.toNat + drawn i n actions < 2 ^ 32) :
    Numbered (run step n actions i) := by
  induction actions generalizing n with
  | nil => exact h
  | cons a actions ih =>
    unfold drawn at hdrawn
    have hcounted : (step n a i).protocol.nextSequence.toNat = (n i).protocol.nextSequence.toNat +
        ((step n a i).protocol.nextSequence - (n i).protocol.nextSequence).toNat := by
      have hlt := (step n a i).protocol.nextSequence.toNat_lt
      rw [UInt32.toNat_sub] at hdrawn ⊢
      omega
    refine ih ?_ (by omega)
    by_cases hi : i = a.1
    · subst hi
      have hself : step n a a.1 = (n a.1).step a.2 := Function.update_self _ _ _
      rw [hself] at hcounted ⊢
      exact h.step a.2 (by omega)
    · have hother : step n a i = n i := Function.update_of_ne hi _ _
      rwa [hother]

omit [DecidableEq ι] in
/-- A datagram from one of them was sent by it, and is read whole if it is no longer than a
message. -/
theorem Delivers.whole (haddress : Function.Injective address) {i j : ι} {b : Arrival}
    (h : Delivers address groups n i b) (hsource : b.source = address j)
    (hlength : (Arrival.data b).length < packetCapacity) : ∃ d ∈ (n j).sent,
      (d.address = address i ∨ d.address ∈ groups) ∧ Arrival.data b = d.data := by
  rcases h with ⟨k, hk, d, hd, hto, hreceived⟩ | hstranger
  · obtain rfl : k = j := haddress (hk.symm.trans hsource)
    exact ⟨d, hd, hto, (Arrival.data_eq hlength).trans hreceived⟩
  · refine absurd (Or.inl ?_) hstranger
    exact ⟨j, hsource.symm⟩

omit [DecidableEq ι] in
/-- The times in an awaited response are those of the latest request and of its answer. -/
theorem Inv.awaited (haddress : Function.Injective address) (h : Inv address groups past n)
    {i j : ι} (hnumbered : Numbered (n i)) {b : Arrival} (hdelivers : Delivers address groups n i b)
    (hsource : b.source = address j) (hawaited : Timed.Awaited b (n i)) :
    (n i).config.referenceAddress = address j ∧ ∃ request c, Latest (address j) request (n i).sent ∧
      (j, .receivePacket c) ∈ past ∧ c.source = address i ∧ Arrival.data c = request ∧
      ResponseMessage.decode (Arrival.data b) =
        reply (RequestMessage.decode request) c.receiveTime c.answerTime := by
  obtain ⟨hfrom, -, hpending, hlong, hof, hsequence⟩ := hawaited
  obtain ⟨-, hnamed, request, hnumber, hlatest⟩ := hnumbered.pending hpending
  have hreference : (n i).config.referenceAddress = address j := (hfrom hnamed).symm.trans hsource
  obtain ⟨d, hd, hto, hwhole⟩ := hdelivers.whole haddress hsource (by rw [hlong]; decide)
  have hresponse : IsResponse d.data := by
    rw [← hwhole]
    exact ⟨hlong, hof⟩
  have hhere : d.address = address i := hto.resolve_right (h.ungrouped j d hd hresponse)
  obtain ⟨c, hc, hcsource, e, he, hrequest, hcdata, hreply⟩ := h.answered i j d hd hresponse hhere
  have hdecoded : ResponseMessage.decode (Arrival.data b) =
      reply (RequestMessage.decode e.data) c.receiveTime c.answerTime := by
    rw [hwhole, hreply, ResponseMessage.decode_encode]
  -- the request it answers has the pending number, and so has the latest
  have hsame : e.data = request := by
    obtain ⟨earlier, later, port, hsent, hisRequest, -⟩ := hlatest
    have hmem : ⟨(n i).config.referenceAddress, port, request⟩ ∈ (n i).sent := by
      rw [hsent]
      simp
    rw [hdecoded] at hsequence
    exact congrArg Datagram.data (hnumbered.eq he hmem hrequest hisRequest
      (hsequence.trans hnumber.symm))
  rw [hreference] at hlatest
  rw [hsame] at hcdata hdecoded
  exact ⟨hreference, request, c, hlatest, hc, hcsource, hcdata, hdecoded⟩

/-- Whatever becomes of the datagrams among any number of synchronizers, and whatever other hosts
send: where a sample comes of a datagram of one of them, its times are that one's own. It is made of
the answer to the latest request, with the times at which that very request was received and
answered, or of a time that was read to be broadcast. Only the receiver must not have used up its
numbers. -/
theorem sample_origin (address : ι → IPAddress) (haddress : Function.Injective address)
    (groups : Set IPAddress) (hgroups : ∀ i, address i ∉ groups)
    (past : List (ι × UDPClockSynchronizer.Action)) (i j : ι) (b : Arrival)
    (hpermitted : Meets step (Permitted address groups) (fun _ => {})
      (past ++ [(i, .receivePacket b)])) (hdrawn : drawn i (fun _ => {}) past < maximumDraws)
    (hsource : b.source = address j) :
    let s := run step (fun _ => {}) past i
    (s.step (.receivePacket b)).submitted = s.submitted ∨
    (∃ request c, Latest (address j) request s.sent ∧ (j, .receivePacket c) ∈ past ∧
      c.source = address i ∧ Arrival.data c = request ∧
      (s.step (.receivePacket b)).submitted = s.submitted ++ [⟨address j, address j,
        ⟨(RequestMessage.decode request).t1, c.receiveTime, c.answerTime, b.receiveTime⟩⟩]) ∨
    ∃ a time, (j, a) ∈ past ∧ a.announces = some time ∧
      (s.step (.receivePacket b)).submitted = s.submitted ++ [⟨address j,
        s.config.referenceAddress, ⟨b.receiveTime, time, time, b.receiveTime⟩⟩] := by
  intro s
  obtain ⟨hpast, hdelivered, -⟩ := meets_append.mp hpermitted
  have hinv := Inv.run haddress hgroups inv_start past hpast
  rw [List.nil_append] at hinv
  have hnumbered : Numbered s := by
    have hfirst : (1 : UInt32).toNat + drawn i (fun _ => {}) past < 2 ^ 32 := by
      unfold maximumDraws at hdrawn
      rw [UInt32.toNat_one]
      omega
    exact numbered_run (n := fun _ => {}) numbered_start past hfirst
  rcases submitted_receivePacket b s with hsame | ⟨hworking, hread, hresponse | hbroadcast⟩
  · exact .inl hsame
  · obtain ⟨hreference, request, c, hlatest, hc, hcsource, hcdata, hdecoded⟩ :=
      hinv.awaited haddress hnumbered (hdelivered b rfl hread) hsource hresponse
    refine .inr (.inl ⟨request, c, hlatest, hc, hcsource, hcdata, ?_⟩)
    rw [submitted_awaited hworking hread hresponse, hdecoded, hsource, hreference]
    rfl
  · obtain ⟨hbroadcast, hsubmitted⟩ := hbroadcast
    obtain ⟨d, hd, -, hwhole⟩ := (hdelivered b rfl hread).whole haddress hsource
      (by rw [hbroadcast.1]; decide)
    rw [hwhole] at hbroadcast hsubmitted
    obtain ⟨a, time, ha, htime, sequence, hdata⟩ := hinv.announced j d hd hbroadcast
    refine .inr (.inr ⟨a, time, ha, htime, ?_⟩)
    rw [hsubmitted, hdata, AuthoritativeBroadcastMessage.decode_encode, hsource]
    rfl

/-- A client at 192.168.1.10 and its reference at 192.168.1.50. -/
def pairAddress : Bool → IPAddress
  | false => ipAddress 192 168 1 10
  | true => ipAddress 192 168 1 50

/-- The first request of the client, built at 1000. -/
def firstRequest : Bytes :=
  RequestMessage.encode { header := { type := MessageType.request.code, sequence := 1 }, t1 := 1000 }

/-- The request is answered twice, for the network has doubled it. -/
def doubledPast : List (Bool × UDPClockSynchronizer.Action) :=
  [(false, .initializeWith { referenceAddress := pairAddress true } true true),
    (true, .initializeWith { mode := .reference } true true),
    (false, .sendDue ⟨100, 1000, 101, true, 0, 0, false, false⟩),
    (true, .receivePacket ⟨20, pairAddress false, 45100, firstRequest, 1500, 1600, true⟩),
    (true, .receivePacket ⟨20, pairAddress false, 45100, firstRequest, 1700, 1800, true⟩)]

/-- The answer to the second copy, which arrives first. -/
def secondAnswer : Arrival where
  packetSize := 36
  source := pairAddress true
  sourcePort := 45100
  received := (reply (RequestMessage.decode firstRequest) 1700 1800).encode
  receiveTime := 1250
  answerTime := 0
  answered := false

theorem sample_origin_doubled : ∃ c, (true, .receivePacket c) ∈ doubledPast ∧
    ((run step (fun _ => {}) doubledPast false).step (.receivePacket secondAnswer)).submitted =
      [⟨pairAddress true, pairAddress true, ⟨1000, c.receiveTime, c.answerTime, 1250⟩⟩] := by
  have hinjective : Function.Injective pairAddress := by decide
  have hrequest (n : UDPClockNetwork Bool) (answer : Arrival)
      (hsource : answer.source = pairAddress false) (hreceived : answer.received = firstRequest)
      (hsent : ⟨pairAddress true, 45100, firstRequest⟩ ∈ (n false).sent) :
      Permitted pairAddress ∅ n (true, .receivePacket answer) := by
    intro b hb _
    cases hb
    exact .inl ⟨false, hsource, _, hsent, .inl rfl, hreceived⟩
  have hpermitted : Meets step (Permitted pairAddress ∅) (fun _ => {})
      (doubledPast ++ [(false, .receivePacket secondAnswer)]) := by
    refine ⟨by simp [Permitted], by simp [Permitted], by simp [Permitted], ?_, ?_, ?_, trivial⟩
    · exact hrequest _ _ rfl rfl (by decide +kernel)
    · exact hrequest _ _ rfl rfl (by decide +kernel)
    · intro b hb _
      cases hb
      exact .inl ⟨true, rfl, ⟨pairAddress false, 45100, secondAnswer.received⟩,
        by decide +kernel, .inl rfl, rfl⟩
  have hnone : (run step (fun _ => {}) doubledPast false).submitted = [] := by decide +kernel
  rcases sample_origin pairAddress hinjective ∅ (by simp) doubledPast false true secondAnswer
    hpermitted (by decide +kernel) rfl with
    hsame | ⟨request, c, -, hc, -, hdata, hsubmitted⟩ | ⟨a, time, ha, htime, -⟩
  · exact absurd hsame (by decide +kernel)
  · have hfirst : (RequestMessage.decode request).t1 = 1000 := by
      rw [← hdata]
      simp only [doubledPast, List.mem_cons, Prod.mk.injEq, Bool.true_eq_false, false_and, true_and,
        UDPClockSynchronizer.Action.receivePacket.injEq, reduceCtorEq, List.not_mem_nil, or_false,
        false_or] at hc
      rcases hc with rfl | rfl <;> decide +kernel
    rw [hfirst, hnone] at hsubmitted
    exact ⟨c, hc, hsubmitted⟩
  · simp only [doubledPast, List.mem_cons, Prod.mk.injEq, Bool.true_eq_false, false_and, true_and,
      List.not_mem_nil, or_false, false_or] at ha
    rcases ha with rfl | rfl | rfl <;> cases htime

end UDPClockNetwork
end Sockets.Clock
