import Sockets.Clock.Udp
import Sockets.Foundation.Wrap

/-! Iterations of a `UDPClockSynchronizer` in true time: how far apart its own requests and
broadcasts are. `millis()` is the true time modulo 2^32, held in 64 bits. -/
namespace Sockets.Clock
open Foundation
namespace UDPClockSynchronizer

/-- The elapsed-time test: nothing was stamped, or the interval has passed since. -/
def intervalPassed (interval : UInt32) (stamp now : UInt64) : Bool :=
  stamp = 0 || now - stamp ≥ interval.toUInt64

/-- The test an iteration makes before it requests. -/
def requestDue (now : UInt64) (s : UDPClockSynchronizer) : Bool :=
  s.protocol.isClientMode && s.config.synchronizationIntervalMilliseconds > 0 &&
    intervalPassed s.config.synchronizationIntervalMilliseconds s.lastRequestMilliseconds now

/-- The test an iteration makes before it broadcasts. -/
def broadcastDue (now : UInt64) (s : UDPClockSynchronizer) : Bool :=
  s.protocol.isReferenceMode &&
    (s.config.enableAuthoritativeBroadcast || s.config.enableAuthoritativeMulticast) &&
    s.config.broadcastIntervalMilliseconds > 0 &&
    intervalPassed s.config.broadcastIntervalMilliseconds s.lastBroadcastMilliseconds now

def automaticRequest (t : Tick) (s : UDPClockSynchronizer) : Bool × UDPClockSynchronizer :=
  if s.requestDue t.now then s.requestSynchronization t.requestTime t.requestedAt t.requestAccepted
  else (false, s)

def automaticBroadcast (t : Tick) (s : UDPClockSynchronizer) : Bool × UDPClockSynchronizer :=
  if s.broadcastDue t.now then
    s.broadcastTime t.broadcastTime t.broadcastAt t.broadcastAccepted t.multicastAccepted
  else (false, s)

theorem sendDue_eq (t : Tick) (s : UDPClockSynchronizer) :
    s.sendDue t = ((s.automaticRequest t).2.automaticBroadcast t).2 := by
  unfold sendDue automaticRequest automaticBroadcast requestDue broadcastDue intervalPassed
  dsimp only
  split_ifs <;> rfl

/-- An iteration with the true times at which it reads the clock, hands over its request, stamps
it, hands over its broadcast and stamps that. -/
structure Iteration where
  arrival : Arrival
  requestTime : UInt64
  broadcastTime : UInt64
  checked : ℕ
  requested : ℕ
  requestStamped : ℕ
  broadcast : ℕ
  broadcastStamped : ℕ
  deriving DecidableEq

/-- All sends succeed. -/
def Iteration.tick (i : Iteration) : Tick where
  now := (millis i.checked).toUInt64
  requestTime := i.requestTime
  requestedAt := (millis i.requestStamped).toUInt64
  requestAccepted := true
  broadcastTime := i.broadcastTime
  broadcastAt := (millis i.broadcastStamped).toUInt64
  broadcastAccepted := true
  multicastAccepted := true

/-- A synchronizer with the true times of its requests and of its broadcasts, the latest first. -/
structure Pacing where
  synchronizer : UDPClockSynchronizer
  requests : List ℕ := []
  broadcasts : List ℕ := []
  deriving DecidableEq

/-- `OnWorkerIteration`. -/
def Pacing.iterate (x : Pacing) (i : Iteration) : Pacing :=
  let s := x.synchronizer.receivePacket i.arrival
  let request := s.automaticRequest i.tick
  let broadcast := request.2.automaticBroadcast i.tick
  { synchronizer := broadcast.2
    requests := if request.1 then i.requested :: x.requests else x.requests
    broadcasts := if broadcast.1 then i.broadcast :: x.broadcasts else x.broadcasts }

theorem synchronizer_iterate (x : Pacing) (i : Iteration) :
    (x.iterate i).synchronizer = (x.synchronizer.receivePacket i.arrival).sendDue i.tick :=
  (sendDue_eq i.tick _).symm

/-- Time does not go back, within an iteration or from one to the next. -/
def Chronological : ℕ → List Iteration → Prop
  | _, [] => True
  | time, i :: iterations =>
    (time ≤ i.checked ∧ i.checked ≤ i.requested ∧ i.requested ≤ i.requestStamped ∧
      i.requestStamped ≤ i.broadcast ∧ i.broadcast ≤ i.broadcastStamped) ∧
    Chronological i.broadcastStamped iterations

instance decidableChronological : ∀ time iterations, Decidable (Chronological time iterations)
  | _, [] => isTrue trivial
  | _, i :: iterations =>
    have : Decidable (Chronological i.broadcastStamped iterations) := decidableChronological _ _
    inferInstanceAs (Decidable (_ ∧ Chronological i.broadcastStamped iterations))

/-- The stamp does not tell how long ago it was taken: it is zero, as if nothing had been sent, or
the clock has wrapped and reads below it. -/
def Misread (stamp now : UInt64) : Prop := stamp = 0 ∨ now < stamp

instance (stamp now : UInt64) : Decidable (Misread stamp now) :=
  inferInstanceAs (Decidable (_ ∨ _))

/-- Where the stamp is misread, the interval has passed since the last of the times. -/
def Harmless (interval : UInt32) (stamp : UInt64) (checked sent : ℕ) (times : List ℕ) : Prop :=
  Misread stamp (millis checked).toUInt64 → ∀ last ∈ times.head?, last + interval.toNat ≤ sent

instance (interval : UInt32) (stamp : UInt64) (checked sent : ℕ) (times : List ℕ) :
    Decidable (Harmless interval stamp checked sent times) :=
  inferInstanceAs (Decidable (_ → ∀ last ∈ times.head?, _))

/-- The iteration does not come within the interval after the last request, or the last broadcast,
with a stamp that it misreads. -/
def Pacing.WellRead (x : Pacing) (i : Iteration) : Prop :=
  Harmless x.synchronizer.config.synchronizationIntervalMilliseconds
    x.synchronizer.lastRequestMilliseconds i.checked i.requested x.requests ∧
  Harmless x.synchronizer.config.broadcastIntervalMilliseconds
    x.synchronizer.lastBroadcastMilliseconds i.checked i.broadcast x.broadcasts

instance (x : Pacing) (i : Iteration) : Decidable (x.WellRead i) :=
  inferInstanceAs (Decidable (_ ∧ _))

/-- The stamp was taken at or after the last of the times. -/
def Stamped (stamp : UInt64) (clock : ℕ) (times : List ℕ) : Prop :=
  ∀ last ∈ times.head?, ∃ stamped, last ≤ stamped ∧ stamped ≤ clock ∧
    stamp = (millis stamped).toUInt64

theorem Stamped.mono {stamp : UInt64} {clock later : ℕ} {times : List ℕ}
    (h : Stamped stamp clock times) (hle : clock ≤ later) : Stamped stamp later times := by
  intro last hlast
  obtain ⟨stamped, hsent, hclock, hstamp⟩ := h last hlast
  exact ⟨stamped, hsent, hclock.trans hle, hstamp⟩

/-- One check of one of the two stamps: `active` says that the rest of the test and of the call
goes through, as it did for the times there are. -/
theorem spaced_check (interval : UInt32) {stamp : UInt64} {clock checked sent : ℕ}
    {times : List ℕ} {active : Bool} (hstamped : Stamped stamp clock times)
    (hactive : times ≠ [] → active = true) (hchecked : clock ≤ checked) (hsent : checked ≤ sent) :
    Spaced interval.toNat (if active && intervalPassed interval stamp (millis checked).toUInt64 then
        sent :: times else times) ↔
      Spaced interval.toNat times ∧ Harmless interval stamp checked sent times := by
  cases times with
  | nil => split_ifs <;> simp [Harmless, spaced_cons]
  | cons last times =>
    obtain ⟨stamped, hlast, hclock, rfl⟩ := hstamped last rfl
    rw [hactive (by simp), Bool.true_and]
    have hpassed : stamped ≤ checked := hclock.trans hchecked
    by_cases hmisread : Misread (millis stamped).toUInt64 (millis checked).toUInt64
    · -- the check passes whatever the time
      have hdue : intervalPassed interval (millis stamped).toUInt64 (millis checked).toUInt64 =
          true := by
        rcases hmisread with hzero | hbelow
        · simp [intervalPassed, hzero]
        · simpa [intervalPassed] using Or.inr (interval_le_wideElapsed interval hbelow)
      rw [if_pos hdue, spaced_cons, and_comm]
      exact and_congr_right fun _ => ⟨fun h _ => h, fun h => h hmisread⟩
    · have hharmless : Harmless interval (millis stamped).toUInt64 checked sent (last :: times) :=
        fun h => absurd h hmisread
      rw [and_iff_left hharmless]
      obtain ⟨hnonzero, hordered⟩ := not_or.mp hmisread
      split_ifs with hdue
      · have helapsed := wideElapsed_le hpassed (UInt64.not_lt.mp hordered)
        have hinterval : interval.toUInt64 ≤
            (millis checked).toUInt64 - (millis stamped).toUInt64 := by
          simpa [intervalPassed, hnonzero] using hdue
        rw [UInt64.le_iff_toNat_le, UInt32.toNat_toUInt64] at hinterval
        rw [spaced_cons]
        refine and_iff_right fun last' hlast' => ?_
        cases hlast'
        omega
      · exact Iff.rfl

/-- A time is logged together with a stamp that is not before it. -/
theorem Stamped.check {stamp : UInt64} {clock later sent stamped : ℕ} {times : List ℕ}
    (h : Stamped stamp clock times) (hlater : clock ≤ later) (hsent : sent ≤ stamped)
    (hstamped : stamped ≤ later) (sends : Bool) :
    Stamped (if sends then (millis stamped).toUInt64 else stamp) later
      (if sends then sent :: times else times) := by
  cases sends with
  | false => exact h.mono hlater
  | true =>
    intro last hlast
    cases hlast
    exact ⟨stamped, hsent, hstamped, rfl⟩

/-- What an iteration leaves as `Initialize` set it. -/
structure SameSetting (s s' : UDPClockSynchronizer) : Prop where
  config : s'.config = s.config
  initialized : s'.initialized = s.initialized
  mode : s'.protocol.mode = s.protocol.mode

theorem SameSetting.refl (s : UDPClockSynchronizer) : SameSetting s s := ⟨rfl, rfl, rfl⟩

theorem SameSetting.trans {s s' s'' : UDPClockSynchronizer} (h : SameSetting s s')
    (h' : SameSetting s' s'') : SameSetting s s'' :=
  ⟨h'.config.trans h.config, h'.initialized.trans h.initialized, h'.mode.trans h.mode⟩

variable {s : UDPClockSynchronizer}

/-- A datagram with a receiver and a content goes out when the stack takes it. -/
theorem sendDatagram_accepted {address : IPAddress} {port : UInt16} {data : Bytes}
    (hport : port ≠ 0) (haddress : address ≠ 0) (hdata : data ≠ []) :
    s.sendDatagram address port data true =
      (true, { s with sent := s.sent ++ [⟨address, port, data⟩] }) := by
  simp [sendDatagram, hport, haddress, hdata]

theorem sendDatagram_refused {address : IPAddress} {port : UInt16} {data : Bytes}
    (h : port ≠ 0 → address = 0) (accepted : Bool) :
    s.sendDatagram address port data accepted = (false, s) := by
  have hguard : port = 0 ∨ address = 0 ∨ data = [] := by tauto
  exact if_pos hguard

/-- What a call of `RequestSynchronization` needs to get its request sent. -/
def Requesting (s : UDPClockSynchronizer) : Prop :=
  s.initialized = true ∧ s.protocol.isClientMode = true ∧ s.config.referenceAddress ≠ 0 ∧
    s.config.referencePort ≠ 0

instance (s : UDPClockSynchronizer) : Decidable s.Requesting :=
  inferInstanceAs (Decidable (_ ∧ _))

/-- What a call of `BroadcastTime` needs to get its broadcast sent. -/
def Broadcasting (s : UDPClockSynchronizer) : Prop :=
  s.initialized = true ∧ s.protocol.isReferenceMode = true ∧
    (s.config.enableAuthoritativeBroadcast = true ∧ s.config.localPort ≠ 0 ∧
        s.config.broadcastAddress ≠ 0 ∨
      s.config.enableAuthoritativeMulticast = true ∧ s.config.multicastPort ≠ 0 ∧
        s.config.multicastGroup ≠ 0)

instance (s : UDPClockSynchronizer) : Decidable s.Broadcasting :=
  inferInstanceAs (Decidable (_ ∧ _))

theorem encode_request_ne_nil (m : RequestMessage) : m.encode ≠ [] := by
  intro h
  have hlength := m.length_encode
  rw [h] at hlength
  cases hlength

theorem encode_broadcast_ne_nil (m : AuthoritativeBroadcastMessage) : m.encode ≠ [] := by
  intro h
  have hlength := m.length_encode
  rw [h] at hlength
  cases hlength

theorem requestSynchronization_refused (h : ¬ s.Requesting) (t1 now : UInt64) (accepted : Bool) :
    s.requestSynchronization t1 now accepted = (false, s) := by
  have hguard : (!s.initialized || !s.protocol.isClientMode || s.config.referenceAddress = 0 ||
      s.config.referencePort = 0) = true := by
    simp only [Requesting, Bool.or_eq_true, Bool.not_eq_true', decide_eq_true_eq] at h ⊢
    cases hinitialized : s.initialized <;> cases hmode : s.protocol.isClientMode <;> tauto
  exact if_pos hguard

/-- A request that goes out is stamped, and nothing else of the state is touched but the numbers. -/
theorem requestSynchronization_accepted (h : s.Requesting) (t1 now : UInt64) :
    ∃ protocol sent, protocol.mode = s.protocol.mode ∧
      s.requestSynchronization t1 now true =
        (true, { s with protocol, sent, lastRequestMilliseconds := now }) := by
  obtain ⟨hinitialized, hmode, haddress, hport⟩ := h
  unfold requestSynchronization SocketClockSynchronizationProtocol.buildRequest
  simp only [hinitialized, hmode, haddress, hport, Bool.not_true, decide_false, Bool.or_false,
    Bool.false_eq_true, if_false, ne_eq, not_false_eq_true, encode_request_ne_nil,
    sendDatagram_accepted, if_true]
  refine ⟨_, _, ?_, rfl⟩
  rfl

/-- One of the two datagrams of a broadcast. -/
theorem sendEnabled_accepted (enabled : Bool) (address : IPAddress) (port : UInt16) {data : Bytes}
    (hdata : data ≠ []) (s : UDPClockSynchronizer) :
    ∃ sent, (if enabled = true then s.sendDatagram address port data true else (false, s)) =
      (decide (enabled = true ∧ port ≠ 0 ∧ address ≠ 0), { s with sent }) := by
  by_cases hsent : enabled = true ∧ port ≠ 0 ∧ address ≠ 0
  · obtain ⟨henabled, hport, haddress⟩ := hsent
    rw [if_pos henabled, sendDatagram_accepted hport haddress hdata,
      decide_eq_true ⟨henabled, hport, haddress⟩]
    exact ⟨_, rfl⟩
  · rw [decide_eq_false hsent]
    refine ⟨s.sent, ?_⟩
    split_ifs with henabled
    · exact sendDatagram_refused (by tauto) true
    · rfl

theorem buildAuthoritativeBroadcast_reference {p : SocketClockSynchronizationProtocol}
    (hmode : p.isReferenceMode = true) (now : UInt64) :
    ∃ message protocol, protocol.mode = p.mode ∧
      p.buildAuthoritativeBroadcast now = (some message, protocol) := by
  unfold SocketClockSynchronizationProtocol.buildAuthoritativeBroadcast
  rw [hmode]
  refine ⟨_, _, ?_, rfl⟩
  rfl

/-- `BroadcastTime` when the stack accepts what it is handed. -/
theorem broadcastTime_accepted (time now : UInt64) :
    ∃ protocol sent, protocol.mode = s.protocol.mode ∧
      s.broadcastTime time now true true = (decide s.Broadcasting,
        { s with
          protocol, sent
          lastBroadcastMilliseconds :=
            if s.Broadcasting then now else s.lastBroadcastMilliseconds }) := by
  by_cases hactive : s.initialized = true ∧ s.protocol.isReferenceMode = true
  · obtain ⟨hinitialized, hmode⟩ := hactive
    obtain ⟨message, protocol, hkept, hbuilt⟩ := buildAuthoritativeBroadcast_reference hmode time
    have hdata := encode_broadcast_ne_nil message
    obtain ⟨sent, hbroadcast⟩ := sendEnabled_accepted s.config.enableAuthoritativeBroadcast
      s.config.broadcastAddress s.config.localPort hdata { s with protocol }
    obtain ⟨sent', hmulticast⟩ := sendEnabled_accepted s.config.enableAuthoritativeMulticast
      s.config.multicastGroup s.config.multicastPort hdata { s with protocol, sent }
    refine ⟨protocol, sent', hkept, ?_⟩
    have hguard : ¬ (!s.initialized || !s.protocol.isReferenceMode) = true := by
      simp [hinitialized, hmode]
    have hsent : s.Broadcasting ↔
        (s.config.enableAuthoritativeBroadcast = true ∧ s.config.localPort ≠ 0 ∧
          s.config.broadcastAddress ≠ 0) ∨ s.config.enableAuthoritativeMulticast = true ∧
          s.config.multicastPort ≠ 0 ∧ s.config.multicastGroup ≠ 0 := by
      simp only [Broadcasting, hinitialized, hmode, true_and]
    unfold broadcastTime
    rw [if_neg hguard, hbuilt]
    dsimp only
    rw [hbroadcast]
    dsimp only
    rw [hmulticast]
    dsimp only
    rw [← Bool.decide_or, decide_eq_decide.mpr hsent.symm]
    by_cases h : s.Broadcasting
    · rw [if_pos (decide_eq_true h), if_pos h, decide_eq_true h]
    · rw [if_neg (by simpa using h), if_neg h, decide_eq_false h]
  · have hguard : (!s.initialized || !s.protocol.isReferenceMode) = true := by
      cases hinitialized : s.initialized <;> cases hmode : s.protocol.isReferenceMode <;> tauto
    have hidle : ¬ s.Broadcasting := fun h => hactive ⟨h.1, h.2.1⟩
    have hrefused : s.broadcastTime time now true true = (false, s) := if_pos hguard
    rw [hrefused, if_neg hidle, decide_eq_false hidle]
    exact ⟨s.protocol, s.sent, rfl, rfl⟩

/-- One automatic request, as far as the pace goes. -/
theorem automaticRequest_spec (i : Iteration) (s : UDPClockSynchronizer) :
    let r := s.automaticRequest i.tick
    r.1 = (decide (s.Requesting ∧ s.config.synchronizationIntervalMilliseconds > 0) &&
      intervalPassed s.config.synchronizationIntervalMilliseconds s.lastRequestMilliseconds
        (millis i.checked).toUInt64) ∧
    SameSetting s r.2 ∧ r.2.lastBroadcastMilliseconds = s.lastBroadcastMilliseconds ∧
    r.2.lastRequestMilliseconds =
      if r.1 then (millis i.requestStamped).toUInt64 else s.lastRequestMilliseconds := by
  intro r
  have hr : r = s.automaticRequest i.tick := rfl
  unfold automaticRequest at hr
  have hnow : i.tick.now = (millis i.checked).toUInt64 := rfl
  by_cases hrequesting : s.Requesting
  · have hdue : s.requestDue i.tick.now =
        (decide (s.Requesting ∧ s.config.synchronizationIntervalMilliseconds > 0) &&
          intervalPassed s.config.synchronizationIntervalMilliseconds s.lastRequestMilliseconds
            (millis i.checked).toUInt64) := by
      simp only [requestDue, hnow, hrequesting, hrequesting.2.1, true_and, Bool.true_and]
    rw [← hdue]
    split_ifs at hr with hsend
    · obtain ⟨protocol, sent, hmode, hsent⟩ :=
        requestSynchronization_accepted hrequesting i.tick.requestTime i.tick.requestedAt
      have hr' : r = _ := hr.trans hsent
      rw [hr']
      exact ⟨hsend.symm, ⟨rfl, rfl, hmode⟩, rfl, rfl⟩
    · rw [hr]
      exact ⟨(Bool.not_eq_true _ ▸ hsend).symm, SameSetting.refl s, rfl, rfl⟩
  · have hr' : r = (false, s) := by
      rw [hr, requestSynchronization_refused hrequesting]
      exact ite_self _
    rw [hr']
    refine ⟨?_, SameSetting.refl s, rfl, rfl⟩
    simp [hrequesting]

/-- One automatic broadcast, as far as the pace goes. -/
theorem automaticBroadcast_spec (i : Iteration) (s : UDPClockSynchronizer) :
    let r := s.automaticBroadcast i.tick
    r.1 = (decide (s.Broadcasting ∧ s.config.broadcastIntervalMilliseconds > 0) &&
      intervalPassed s.config.broadcastIntervalMilliseconds s.lastBroadcastMilliseconds
        (millis i.checked).toUInt64) ∧
    SameSetting s r.2 ∧ r.2.lastRequestMilliseconds = s.lastRequestMilliseconds ∧
    r.2.lastBroadcastMilliseconds =
      if r.1 then (millis i.broadcastStamped).toUInt64 else s.lastBroadcastMilliseconds := by
  intro r
  have hr : r = s.automaticBroadcast i.tick := rfl
  unfold automaticBroadcast at hr
  have hnow : i.tick.now = (millis i.checked).toUInt64 := rfl
  have henabled : s.Broadcasting →
      (s.config.enableAuthoritativeBroadcast || s.config.enableAuthoritativeMulticast) = true := by
    rintro ⟨-, -, ⟨h, -⟩ | ⟨h, -⟩⟩ <;> simp [h]
  obtain ⟨protocol, sent, hmode, hsent⟩ :=
    broadcastTime_accepted (s := s) i.tick.broadcastTime i.tick.broadcastAt
  by_cases hbroadcasting : s.Broadcasting
  · have hdue : s.broadcastDue i.tick.now =
        (decide (s.Broadcasting ∧ s.config.broadcastIntervalMilliseconds > 0) &&
          intervalPassed s.config.broadcastIntervalMilliseconds s.lastBroadcastMilliseconds
            (millis i.checked).toUInt64) := by
      simp only [broadcastDue, hnow, hbroadcasting, hbroadcasting.2.1, henabled hbroadcasting,
        true_and, Bool.true_and]
    rw [← hdue]
    rw [if_pos hbroadcasting, decide_eq_true hbroadcasting] at hsent
    split_ifs at hr with hsend
    · have hr' : r = _ := hr.trans hsent
      rw [hr']
      exact ⟨hsend.symm, ⟨rfl, rfl, hmode⟩, rfl, rfl⟩
    · rw [hr]
      exact ⟨(Bool.not_eq_true _ ▸ hsend).symm, SameSetting.refl s, rfl, rfl⟩
  · rw [if_neg hbroadcasting, decide_eq_false hbroadcasting] at hsent
    have hidle : r.1 = false ∧ SameSetting s r.2 ∧
        r.2.lastRequestMilliseconds = s.lastRequestMilliseconds ∧
        r.2.lastBroadcastMilliseconds = s.lastBroadcastMilliseconds := by
      split_ifs at hr with hsend
      · have hr' : r = _ := hr.trans hsent
        rw [hr']
        exact ⟨rfl, ⟨rfl, rfl, hmode⟩, rfl, rfl⟩
      · rw [hr]
        exact ⟨rfl, SameSetting.refl s, rfl, rfl⟩
    obtain ⟨hnone, hsame, hrequest, hstamp⟩ := hidle
    refine ⟨?_, hsame, hrequest, ?_⟩
    · simp [hnone, hbroadcasting]
    · simp [hnone, hstamp]

theorem handlePacket_spec (source : IPAddress) (sourcePort : UInt16) (data : Bytes)
    (localReceiveTime answerTime : UInt64) (answered : Bool) (s : UDPClockSynchronizer) :
    let s' := s.handlePacket source sourcePort data localReceiveTime answerTime answered
    SameSetting s s' ∧ s'.lastRequestMilliseconds = s.lastRequestMilliseconds ∧
      s'.lastBroadcastMilliseconds = s.lastBroadcastMilliseconds := by
  intro s'
  have hs' : s' = s.handlePacket source sourcePort data localReceiveTime answerTime answered := rfl
  unfold handlePacket at hs'
  dsimp only at hs'
  have hsame : SameSetting s s ∧ s.lastRequestMilliseconds = s.lastRequestMilliseconds ∧
      s.lastBroadcastMilliseconds = s.lastBroadcastMilliseconds := ⟨SameSetting.refl s, rfl, rfl⟩
  split_ifs at hs' with hshort hheader hrequest hresponse hstray hbroadcast
  · rwa [hs']
  · rwa [hs']
  · split at hs'
    · rwa [hs']
    · rename_i response hanswer
      rw [hs']
      unfold sendDatagram
      split_ifs <;> exact ⟨⟨rfl, rfl, rfl⟩, rfl, rfl⟩
  · rwa [hs']
  · have hmode : (s.protocol.processResponse data localReceiveTime).2.mode = s.protocol.mode := by
      unfold SocketClockSynchronizationProtocol.processResponse
      dsimp only
      split_ifs <;> rfl
    rw [hs']
    exact ⟨⟨rfl, rfl, hmode⟩, rfl, rfl⟩
  · rw [hs']
    exact ⟨⟨rfl, rfl, rfl⟩, rfl, rfl⟩
  · rwa [hs']

theorem receivePacket_spec (a : Arrival) (s : UDPClockSynchronizer) :
    SameSetting s (s.receivePacket a) ∧
      (s.receivePacket a).lastRequestMilliseconds = s.lastRequestMilliseconds ∧
      (s.receivePacket a).lastBroadcastMilliseconds = s.lastBroadcastMilliseconds := by
  unfold receivePacket
  split_ifs
  · exact handlePacket_spec _ _ _ _ _ _ s
  · exact ⟨SameSetting.refl s, rfl, rfl⟩

theorem SameSetting.requesting {s s' : UDPClockSynchronizer} (h : SameSetting s s') :
    s'.Requesting ↔ s.Requesting := by
  unfold Requesting SocketClockSynchronizationProtocol.isClientMode
  rw [h.config, h.initialized, h.mode]

theorem SameSetting.broadcasting {s s' : UDPClockSynchronizer} (h : SameSetting s s') :
    s'.Broadcasting ↔ s.Broadcasting := by
  unfold Broadcasting SocketClockSynchronizationProtocol.isReferenceMode
  rw [h.config, h.initialized, h.mode]

/-- What one iteration does to the two logs and their stamps. -/
theorem iterate_spec (x : Pacing) (i : Iteration) :
    let s := x.synchronizer
    let requested := decide (s.Requesting ∧ s.config.synchronizationIntervalMilliseconds > 0) &&
      intervalPassed s.config.synchronizationIntervalMilliseconds s.lastRequestMilliseconds
        (millis i.checked).toUInt64
    let broadcast := decide (s.Broadcasting ∧ s.config.broadcastIntervalMilliseconds > 0) &&
      intervalPassed s.config.broadcastIntervalMilliseconds s.lastBroadcastMilliseconds
        (millis i.checked).toUInt64
    SameSetting s (x.iterate i).synchronizer ∧
    (x.iterate i).requests = (if requested then i.requested :: x.requests else x.requests) ∧
    (x.iterate i).broadcasts = (if broadcast then i.broadcast :: x.broadcasts else x.broadcasts) ∧
    (x.iterate i).synchronizer.lastRequestMilliseconds =
      (if requested then (millis i.requestStamped).toUInt64 else s.lastRequestMilliseconds) ∧
    (x.iterate i).synchronizer.lastBroadcastMilliseconds =
      (if broadcast then (millis i.broadcastStamped).toUInt64
        else s.lastBroadcastMilliseconds) := by
  intro s requested broadcast
  obtain ⟨hreceived, hrequest, hbroadcast⟩ := receivePacket_spec i.arrival s
  generalize hs1 : s.receivePacket i.arrival = s1 at hreceived hrequest hbroadcast
  obtain ⟨hsent1, hsame1, hkept1, hstamp1⟩ := automaticRequest_spec i s1
  generalize hs2 : s1.automaticRequest i.tick = r1 at hsent1 hsame1 hkept1 hstamp1
  obtain ⟨hsent2, hsame2, hkept2, hstamp2⟩ := automaticBroadcast_spec i r1.2
  have hiterate : x.iterate i =
      { synchronizer := (r1.2.automaticBroadcast i.tick).2
        requests := if r1.1 then i.requested :: x.requests else x.requests
        broadcasts := if (r1.2.automaticBroadcast i.tick).1 then i.broadcast :: x.broadcasts
          else x.broadcasts } := by
    rw [← hs2, ← hs1]
    rfl
  have hrequested : r1.1 = requested := by
    rw [hsent1, hrequest, hreceived.config, decide_eq_decide.mpr
      (and_congr_left fun _ => hreceived.requesting)]
  have hsame := hreceived.trans hsame1
  have hbroadcasted : (r1.2.automaticBroadcast i.tick).1 = broadcast := by
    rw [hsent2, hkept1, hbroadcast, hsame.config, decide_eq_decide.mpr
      (and_congr_left fun _ => hsame.broadcasting)]
  rw [hiterate]
  dsimp only
  refine ⟨hsame.trans hsame2, ?_, ?_, ?_, ?_⟩
  · rw [hrequested]
  · rw [hbroadcasted]
  · rw [hkept2, hstamp1, hrequested, hrequest]
  · rw [hstamp2, hbroadcasted, hkept1, hbroadcast]

namespace Pacing

/-- Requests are the synchronization interval apart, broadcasts the broadcast interval. -/
def Paced (x : Pacing) : Prop :=
  Spaced x.synchronizer.config.synchronizationIntervalMilliseconds.toNat x.requests ∧
    Spaced x.synchronizer.config.broadcastIntervalMilliseconds.toNat x.broadcasts

/-- The stamps belong to the last entries of the logs, and what was sent once can be sent again. -/
structure Inv (clock : ℕ) (x : Pacing) : Prop where
  requestStamped : Stamped x.synchronizer.lastRequestMilliseconds clock x.requests
  broadcastStamped : Stamped x.synchronizer.lastBroadcastMilliseconds clock x.broadcasts
  requesting : x.requests ≠ [] → x.synchronizer.Requesting ∧
    x.synchronizer.config.synchronizationIntervalMilliseconds > 0
  broadcasting : x.broadcasts ≠ [] → x.synchronizer.Broadcasting ∧
    x.synchronizer.config.broadcastIntervalMilliseconds > 0

theorem inv_start (s : UDPClockSynchronizer) (clock : ℕ) : Inv clock { synchronizer := s } where
  requestStamped := by intro last hlast; cases hlast
  broadcastStamped := by intro last hlast; cases hlast
  requesting h := absurd rfl h
  broadcasting h := absurd rfl h

/-- One iteration keeps the invariant, and the pace exactly if it misreads no stamp to harm. -/
theorem Inv.iterate {clock : ℕ} {x : Pacing} (h : Inv clock x) {i : Iteration}
    (horder : clock ≤ i.checked ∧ i.checked ≤ i.requested ∧ i.requested ≤ i.requestStamped ∧
      i.requestStamped ≤ i.broadcast ∧ i.broadcast ≤ i.broadcastStamped) :
    Inv i.broadcastStamped (x.iterate i) ∧ ((x.iterate i).Paced ↔ x.Paced ∧ x.WellRead i) := by
  obtain ⟨hchecked, hrequested, hstamped, hbroadcast, hbroadcastStamped⟩ := horder
  obtain ⟨hsame, hrequests, hbroadcasts, hlastRequest, hlastBroadcast⟩ := iterate_spec x i
  constructor
  · constructor
    · rw [hlastRequest, hrequests]
      exact h.requestStamped.check (by omega) hstamped (by omega) _
    · rw [hlastBroadcast, hbroadcasts]
      exact h.broadcastStamped.check (by omega) hbroadcastStamped le_rfl _
    · rw [hrequests, hsame.requesting, hsame.config]
      split_ifs with hsent
      · intro _
        exact of_decide_eq_true (Bool.and_eq_true_iff.mp hsent).1
      · exact h.requesting
    · rw [hbroadcasts, hsame.broadcasting, hsame.config]
      split_ifs with hsent
      · intro _
        exact of_decide_eq_true (Bool.and_eq_true_iff.mp hsent).1
      · exact h.broadcasting
  · have hrequest := spaced_check x.synchronizer.config.synchronizationIntervalMilliseconds
      h.requestStamped (fun hne => decide_eq_true (h.requesting hne)) hchecked hrequested
    have hannounce := spaced_check x.synchronizer.config.broadcastIntervalMilliseconds
      h.broadcastStamped (fun hne => decide_eq_true (h.broadcasting hne)) hchecked
      (show i.checked ≤ i.broadcast by omega)
    unfold Paced WellRead
    rw [hrequests, hbroadcasts, hsame.config, hrequest, hannounce]
    exact and_and_and_comm

theorem Inv.run_paced {clock : ℕ} {x : Pacing} (h : Inv clock x) {iterations : List Iteration}
    (horder : Chronological clock iterations) :
    (run Pacing.iterate x iterations).Paced ↔
      x.Paced ∧ Meets Pacing.iterate WellRead x iterations := by
  induction iterations generalizing clock x with
  | nil => exact (and_iff_left trivial).symm
  | cons i iterations ih =>
    obtain ⟨hi, hrest⟩ := horder
    obtain ⟨hinv, hpaced⟩ := h.iterate hi
    rw [run_cons, ih hinv hrest, hpaced, Meets, and_assoc]

/-- The requests of a run, and its broadcasts, keep their intervals in true time if and only if no
iteration within the interval after the last one misreads its stamp. -/
theorem paced_iff (s : UDPClockSynchronizer) {iterations : List Iteration}
    (h : Chronological 0 iterations) :
    (run Pacing.iterate { synchronizer := s } iterations).Paced ↔
      Meets Pacing.iterate WellRead { synchronizer := s } iterations := by
  rw [(inv_start s 0).run_paced h]
  exact and_iff_right ⟨spaced_nil, spaced_nil⟩

/-- A client of a reference, initialised. -/
def client : UDPClockSynchronizer :=
  (({} : UDPClockSynchronizer).initializeWith { referenceAddress := ipAddress 192 168 1 50 }
    true true).2

def silence : Arrival := ⟨0, 0, 0, [], 0, 0, false⟩

/-- A request every five seconds. -/
def steadyRun : List Iteration :=
  [⟨silence, 10, 0, 100, 100, 101, 101, 101⟩, ⟨silence, 20, 0, 3000, 3000, 3000, 3000, 3000⟩,
    ⟨silence, 30, 0, 5101, 5102, 5103, 5103, 5103⟩]

theorem paced_steady :
    (run Pacing.iterate { synchronizer := client } steadyRun).requests = [5102, 100] ∧
      (run Pacing.iterate { synchronizer := client } steadyRun).Paced :=
  ⟨by decide +kernel, (paced_iff client (by decide +kernel)).mpr (by decide +kernel)⟩

/-- One request 1000 ms before `millis()` wraps, and an iteration 10 ms after it. -/
def wrappingRun : List Iteration :=
  [⟨silence, 10, 0, 2 ^ 32 - 1000, 2 ^ 32 - 1000, 2 ^ 32 - 1000, 2 ^ 32 - 1000, 2 ^ 32 - 1000⟩,
    ⟨silence, 20, 0, 2 ^ 32 + 10, 2 ^ 32 + 10, 2 ^ 32 + 10, 2 ^ 32 + 10, 2 ^ 32 + 10⟩]

/-- Two requests 1010 ms apart, where the interval is 5000 ms. -/
theorem wrap_not_paced :
    Chronological 0 wrappingRun ∧
    (run Pacing.iterate { synchronizer := client } wrappingRun).requests =
      [2 ^ 32 + 10, 2 ^ 32 - 1000] ∧
    client.config.synchronizationIntervalMilliseconds = 5000 ∧
    ¬ (run Pacing.iterate { synchronizer := client } wrappingRun).Paced := by
  have hrequests : (run Pacing.iterate { synchronizer := client } wrappingRun).requests =
      [2 ^ 32 + 10, 2 ^ 32 - 1000] := by decide +kernel
  have hinterval : (run Pacing.iterate { synchronizer := client }
      wrappingRun).synchronizer.config.synchronizationIntervalMilliseconds = 5000 := by
    decide +kernel
  refine ⟨by decide +kernel, hrequests, by decide +kernel, ?_⟩
  rintro ⟨hspaced, -⟩
  rw [hrequests, hinterval, spaced_cons] at hspaced
  have happart : 2 ^ 32 - 1000 + 5000 ≤ 2 ^ 32 + 10 := hspaced.1 _ rfl
  exact absurd happart (by decide)

end Pacing
end UDPClockSynchronizer
end Sockets.Clock
