import Sockets.Clock.Protocol
import Sockets.Foundation.Run

/-! `UDPClockSynchronizer`: the protocol over datagrams. Results of the UDP stack and the times are
arguments of the operation that asks for them; `submitted` is what the clock target was given. -/
namespace Sockets.Clock
open Foundation

/-- An IPv4 address as the 32-bit number it converts to. -/
abbrev IPAddress := UInt32

def ipAddress (a b c d : UInt8) : IPAddress :=
  a.toUInt32 <<< 24 ||| b.toUInt32 <<< 16 ||| c.toUInt32 <<< 8 ||| d.toUInt32

structure UDPClockSynchronizationConfig where
  mode : SocketClockSynchronizationMode := .client
  synchronizationIntervalMilliseconds : UInt32 := 5000
  localPort : UInt16 := 45100
  referencePort : UInt16 := 45100
  referenceAddress : IPAddress := 0
  enableAuthoritativeBroadcast : Bool := false
  broadcastAddress : IPAddress := ipAddress 255 255 255 255
  broadcastIntervalMilliseconds : UInt32 := 5000
  enableAuthoritativeMulticast : Bool := false
  multicastGroup : IPAddress := ipAddress 239 45 10 1
  multicastPort : UInt16 := 45100
  deriving DecidableEq

structure Datagram where
  address : IPAddress
  port : UInt16
  data : Bytes
  deriving DecidableEq

/-- A sample with the sender of the datagram it was made of, and the `ReferenceAddress` in force. -/
structure Submission where
  source : IPAddress
  referenceAddress : IPAddress
  sample : Sample
  deriving DecidableEq

/-- The sample is from the reference, where one has been named. -/
def Submission.Authentic (m : Submission) : Prop :=
  m.referenceAddress ≠ 0 → m.source = m.referenceAddress

instance (m : Submission) : Decidable m.Authentic :=
  inferInstanceAs (Decidable (_ → _))

/-- What one poll of the socket finds: the announced size, the sender, what `read` copies out, the
time of reception, and time and success of an answer. -/
structure Arrival where
  packetSize : ℤ
  source : IPAddress
  sourcePort : UInt16
  received : Bytes
  receiveTime : UInt64
  answerTime : UInt64
  answered : Bool
  deriving DecidableEq

structure UDPClockSynchronizer where
  config : UDPClockSynchronizationConfig := {}
  protocol : SocketClockSynchronizationProtocol := {}
  lastRequestMilliseconds : UInt64 := 0
  lastBroadcastMilliseconds : UInt64 := 0
  initialized : Bool := false
  working : Bool := false
  submitted : List Submission := []
  sent : List Datagram := []
  deriving DecidableEq

/-- The buffer an iteration reads into. -/
def packetCapacity : ℕ := 256

namespace UDPClockSynchronizer

/-- `accepted` is the answer of the UDP stack. -/
def sendDatagram (address : IPAddress) (port : UInt16) (data : Bytes) (accepted : Bool)
    (s : UDPClockSynchronizer) : Bool × UDPClockSynchronizer :=
  if port = 0 ∨ address = 0 ∨ data = [] then (false, s)
  else if accepted then (true, { s with sent := s.sent ++ [⟨address, port, data⟩] })
  else (false, s)

/-- `SubmitSynchronizationSample`. -/
def submit (source : IPAddress) (sample : Option Sample) (s : UDPClockSynchronizer) :
    UDPClockSynchronizer :=
  { s with submitted := s.submitted ++
      sample.toList.map fun sample => ⟨source, s.config.referenceAddress, sample⟩ }

def handlePacket (source : IPAddress) (sourcePort : UInt16) (data : Bytes)
    (localReceiveTime answerTime : UInt64) (answered : Bool) (s : UDPClockSynchronizer) :
    UDPClockSynchronizer :=
  if data.length < headerSize then s
  else
    let header := MessageHeader.decode data
    if header.magic ≠ headerMagic ∨ header.version ≠ 1 then s
    else if header.type = MessageType.request.code then
      match s.protocol.processRequest data localReceiveTime answerTime with
      | none => s
      | some response => (s.sendDatagram source sourcePort response.encode answered).2
    else if header.type = MessageType.response.code then
      if s.config.referenceAddress ≠ 0 ∧ source ≠ s.config.referenceAddress then s
      else
        let r := s.protocol.processResponse data localReceiveTime
        { s with protocol := r.2 }.submit source r.1
    else if header.type = MessageType.authoritativeBroadcast.code then
      -- the sender is not looked at here
      s.submit source (s.protocol.processAuthoritativeBroadcast data localReceiveTime)
    else s

/-- The datagram is taken from the socket and has a content. -/
def Arrival.Read (a : Arrival) : Prop :=
  0 < a.packetSize ∧ a.packetSize ≤ packetCapacity ∧ a.received ≠ []

instance (a : Arrival) : Decidable (Arrival.Read a) :=
  inferInstanceAs (Decidable (_ ∧ _))

/-- What `read` leaves in the packet buffer. -/
def Arrival.data (a : Arrival) : Bytes := a.received.take packetCapacity

/-- The first half of `OnWorkerIteration`. -/
def receivePacket (a : Arrival) (s : UDPClockSynchronizer) : UDPClockSynchronizer :=
  if Arrival.Read a then
    s.handlePacket a.source a.sourcePort (Arrival.data a) a.receiveTime a.answerTime a.answered
  else s

/-- `t1` and `now` are read when the request is built and when it has been sent. -/
def requestSynchronization (t1 now : UInt64) (accepted : Bool) (s : UDPClockSynchronizer) :
    Bool × UDPClockSynchronizer :=
  if !s.initialized || !s.protocol.isClientMode || s.config.referenceAddress = 0 ||
      s.config.referencePort = 0 then (false, s)
  else
    match s.protocol.buildRequest t1 with
    | (none, p) => (false, { s with protocol := p })
    | (some request, p) =>
      let r := { s with protocol := p }.sendDatagram s.config.referenceAddress
        s.config.referencePort request.encode accepted
      if r.1 then (true, { r.2 with lastRequestMilliseconds := now })
      else (false, { r.2 with protocol := r.2.protocol.cancelPendingRequest })

def broadcastTime (time now : UInt64) (broadcast multicast : Bool) (s : UDPClockSynchronizer) :
    Bool × UDPClockSynchronizer :=
  if !s.initialized || !s.protocol.isReferenceMode then (false, s)
  else
    match s.protocol.buildAuthoritativeBroadcast time with
    | (none, p) => (false, { s with protocol := p })
    | (some message, p) =>
      let s := { s with protocol := p }
      let r := if s.config.enableAuthoritativeBroadcast then
          s.sendDatagram s.config.broadcastAddress s.config.localPort message.encode broadcast
        else (false, s)
      let q := if s.config.enableAuthoritativeMulticast then
          r.2.sendDatagram s.config.multicastGroup s.config.multicastPort message.encode multicast
        else (false, r.2)
      if r.1 || q.1 then (true, { q.2 with lastBroadcastMilliseconds := now })
      else (false, q.2)

/-- What the second half of an iteration finds: `millis()`, times and results of what it sends. -/
structure Tick where
  now : UInt64
  requestTime : UInt64
  requestedAt : UInt64
  requestAccepted : Bool
  broadcastTime : UInt64
  broadcastAt : UInt64
  broadcastAccepted : Bool
  multicastAccepted : Bool
  deriving DecidableEq

/-- The second half of `OnWorkerIteration`. -/
def sendDue (t : Tick) (s : UDPClockSynchronizer) : UDPClockSynchronizer :=
  let s := if s.protocol.isClientMode && s.config.synchronizationIntervalMilliseconds > 0 &&
      (s.lastRequestMilliseconds = 0 || t.now - s.lastRequestMilliseconds ≥
        s.config.synchronizationIntervalMilliseconds.toUInt64) then
      (s.requestSynchronization t.requestTime t.requestedAt t.requestAccepted).2
    else s
  if s.protocol.isReferenceMode &&
      (s.config.enableAuthoritativeBroadcast || s.config.enableAuthoritativeMulticast) &&
      s.config.broadcastIntervalMilliseconds > 0 &&
      (s.lastBroadcastMilliseconds = 0 || t.now - s.lastBroadcastMilliseconds ≥
        s.config.broadcastIntervalMilliseconds.toUInt64) then
    (s.broadcastTime t.broadcastTime t.broadcastAt t.broadcastAccepted t.multicastAccepted).2
  else s

/-- `Initialize`; `begun` and `started` are the answers of the UDP stack and of `StartWorker`. -/
def initializeWith (config : UDPClockSynchronizationConfig) (begun started : Bool)
    (s : UDPClockSynchronizer) : Bool × UDPClockSynchronizer :=
  if s.initialized then (true, s)
  else if config.localPort = 0 then (false, s)
  else
    let s := { s with config, protocol := { s.protocol with mode := config.mode } }
    if !begun then (false, s)
    else if !started then (false, s)
    else (true, { s with
      working := true, lastRequestMilliseconds := 0, lastBroadcastMilliseconds := 0
      initialized := true })

def shutdown (s : UDPClockSynchronizer) : UDPClockSynchronizer :=
  if !s.initialized then s
  else { s with
    working := false, protocol := s.protocol.cancelPendingRequest, initialized := false }

/-- A call of the owner, or half an iteration of the worker. -/
inductive Action where
  | initializeWith (config : UDPClockSynchronizationConfig) (begun started : Bool)
  | shutdown
  | requestSynchronization (t1 now : UInt64) (accepted : Bool)
  | broadcastTime (time now : UInt64) (broadcast multicast : Bool)
  | receivePacket (a : Arrival)
  | sendDue (t : Tick)
  deriving DecidableEq

def step (s : UDPClockSynchronizer) : Action → UDPClockSynchronizer
  | .initializeWith config begun started => (s.initializeWith config begun started).2
  | .shutdown => s.shutdown
  | .requestSynchronization t1 now accepted => (s.requestSynchronization t1 now accepted).2
  | .broadcastTime time now broadcast multicast => (s.broadcastTime time now broadcast multicast).2
  | .receivePacket a => if s.working then s.receivePacket a else s
  | .sendDue t => if s.working then s.sendDue t else s

/-- Every sample the target was given is from the reference. -/
def Authentic (s : UDPClockSynchronizer) : Prop := ∀ m ∈ s.submitted, m.Authentic

/-- What an authoritative broadcast looks like. -/
def IsBroadcast (data : Bytes) : Prop :=
  data.length = broadcastSize ∧ (MessageHeader.decode data).IsOf .authoritativeBroadcast

/-- A broadcast that a client takes is from the reference. -/
def FromReference (source : IPAddress) (data : Bytes) (s : UDPClockSynchronizer) : Prop :=
  s.protocol.isClientMode = true → s.config.referenceAddress ≠ 0 → IsBroadcast data →
    source = s.config.referenceAddress

/-- The step is not the reception of a stranger's broadcast. -/
def Trusted (s : UDPClockSynchronizer) : Action → Prop
  | .receivePacket a =>
    s.working = true → Arrival.Read a → s.FromReference a.source (Arrival.data a)
  | _ => True

variable {s : UDPClockSynchronizer} {source : IPAddress} {data : Bytes} {receiveTime : UInt64}

@[simp] theorem submitted_sendDatagram (address : IPAddress) (port : UInt16) (accepted : Bool) :
    (s.sendDatagram address port data accepted).2.submitted = s.submitted := by
  unfold sendDatagram
  split_ifs <;> rfl

theorem submitted_requestSynchronization (t1 now : UInt64) (accepted : Bool) :
    (s.requestSynchronization t1 now accepted).2.submitted = s.submitted := by
  unfold requestSynchronization
  split_ifs
  · rfl
  · split
    · rfl
    · dsimp only
      split_ifs <;> simp

theorem submitted_broadcastTime (time now : UInt64) (broadcast multicast : Bool) :
    (s.broadcastTime time now broadcast multicast).2.submitted = s.submitted := by
  unfold broadcastTime
  split_ifs
  · rfl
  · split
    · rfl
    · dsimp only
      split_ifs <;> simp

theorem submitted_sendDue (t : Tick) : (s.sendDue t).submitted = s.submitted := by
  unfold sendDue
  dsimp only
  split_ifs <;> simp only [submitted_broadcastTime, submitted_requestSynchronization]

theorem submitted_initializeWith (config : UDPClockSynchronizationConfig) (begun started : Bool) :
    (s.initializeWith config begun started).2.submitted = s.submitted := by
  unfold initializeWith
  dsimp only
  split_ifs <;> rfl

theorem submitted_shutdown : s.shutdown.submitted = s.submitted := by
  unfold shutdown
  split_ifs <;> rfl

theorem authentic_congr {s' : UDPClockSynchronizer} (h : s'.submitted = s.submitted) :
    s'.Authentic ↔ s.Authentic := by
  rw [Authentic, Authentic, h]

theorem authentic_submit (sample : Option Sample) :
    (s.submit source sample).Authentic ↔ s.Authentic ∧
      (sample.isSome = true → s.config.referenceAddress ≠ 0 →
        source = s.config.referenceAddress) := by
  cases sample with
  | none => simp [Authentic, submit]
  | some sample => simp [Authentic, submit, or_imp, forall_and, Submission.Authentic]

theorem isSome_processAuthoritativeBroadcast (p : SocketClockSynchronizationProtocol) :
    (p.processAuthoritativeBroadcast data receiveTime).isSome = true ↔
      p.isClientMode = true ∧ IsBroadcast data := by
  have hheader : (AuthoritativeBroadcastMessage.decode data).header = MessageHeader.decode data :=
    rfl
  unfold SocketClockSynchronizationProtocol.processAuthoritativeBroadcast IsBroadcast
  dsimp only
  rw [hheader]
  split_ifs with h1 h2
  · simp only [Bool.or_eq_true, Bool.not_eq_true', decide_eq_true_eq] at h1
    simp only [Option.isSome_none, Bool.false_eq_true, false_iff, not_and]
    intro hmode hlength
    rcases h1 with h1 | h1
    · exact absurd hmode (by simp [h1])
    · exact absurd hlength h1
  · simp only [Bool.or_eq_true, Bool.not_eq_true', decide_eq_true_eq, not_or, not_not,
      Bool.not_eq_false] at h1
    simp [h1, h2]
  · simp [h2]

/-- A message of another type is no broadcast. -/
theorem fromReference_of_type (h : (MessageHeader.decode data).type ≠
    MessageType.authoritativeBroadcast.code) : s.FromReference source data :=
  fun _ _ hb => absurd hb.2.2.2 h

/-- The reception of a datagram, as far as the samples are concerned. -/
theorem authentic_handlePacket (sourcePort : UInt16) (answerTime : UInt64) (answered : Bool) :
    (s.handlePacket source sourcePort data receiveTime answerTime answered).Authentic ↔
      s.Authentic ∧ s.FromReference source data := by
  unfold handlePacket
  dsimp only
  split_ifs with hshort hheader hrequest hresponse hstray hbroadcast
  · refine (and_iff_left fun _ _ hb => ?_).symm
    exact absurd hb.1 (by unfold broadcastSize headerSize at *; omega)
  · refine (and_iff_left fun _ _ hb => ?_).symm
    rcases hheader with hmagic | hversion
    · exact absurd hb.2.1 hmagic
    · exact absurd hb.2.2.1 hversion
  · have hother : s.FromReference source data := fromReference_of_type (by rw [hrequest]; decide)
    rw [and_iff_left hother]
    split
    · exact Iff.rfl
    · exact authentic_congr (submitted_sendDatagram _ _ _)
  · have hother : s.FromReference source data := fromReference_of_type (by rw [hresponse]; decide)
    exact (and_iff_left hother).symm
  · -- a response is taken from the reference alone
    have hother : s.FromReference source data := fromReference_of_type (by rw [hresponse]; decide)
    have hsource : s.config.referenceAddress ≠ 0 → source = s.config.referenceAddress := by
      intro hnamed
      by_contra hne
      exact hstray ⟨hnamed, hne⟩
    rw [authentic_submit, and_iff_left hother]
    exact and_iff_left fun _ => hsource
  · rw [authentic_submit, isSome_processAuthoritativeBroadcast]
    exact and_congr_right fun _ => and_imp.trans
      ⟨fun h hmode hnamed hb => h hmode hb hnamed, fun h hmode hb hnamed => h hmode hnamed hb⟩
  · exact (and_iff_left (fromReference_of_type hbroadcast)).symm

theorem authentic_step (s : UDPClockSynchronizer) (a : Action) :
    (s.step a).Authentic ↔ s.Authentic ∧ s.Trusted a := by
  cases a with
  | initializeWith config begun started =>
    simp only [Trusted, and_true]
    exact authentic_congr (submitted_initializeWith config begun started)
  | shutdown =>
    simp only [Trusted, and_true]
    exact authentic_congr submitted_shutdown
  | requestSynchronization t1 now accepted =>
    simp only [Trusted, and_true]
    exact authentic_congr (submitted_requestSynchronization t1 now accepted)
  | broadcastTime time now broadcast multicast =>
    simp only [Trusted, and_true]
    exact authentic_congr (submitted_broadcastTime time now broadcast multicast)
  | receivePacket a =>
    simp only [step, Trusted, receivePacket]
    split_ifs with hworking hread
    · rw [authentic_handlePacket]
      exact and_congr_right fun _ => ⟨fun h _ _ => h, fun h => h hworking hread⟩
    · exact (and_iff_left fun _ h => absurd h hread).symm
    · exact (and_iff_left fun h => absurd h hworking).symm
  | sendDue t =>
    simp only [step, Trusted, and_true]
    split_ifs
    · exact authentic_congr (submitted_sendDue t)
    · exact Iff.rfl

theorem authentic_run (s : UDPClockSynchronizer) (actions : List Action) :
    (run step s actions).Authentic ↔ s.Authentic ∧ Meets step Trusted s actions := by
  induction actions generalizing s with
  | nil => simp [Meets]
  | cons a actions ih =>
    rw [run_cons, ih, authentic_step, Meets, and_assoc]

/-- The samples of a synchronizer all come from its reference if and only if no client has read a
broadcast of another sender while a reference was named. -/
theorem source_authenticity (actions : List Action) :
    (run step {} actions).Authentic ↔ Meets step Trusted {} actions := by
  rw [authentic_run]
  exact and_iff_right (by simp [Authentic])

/-- A client of the reference 192.168.1.50 that hears another host's broadcast. -/
def strangerConfig : UDPClockSynchronizationConfig := { referenceAddress := ipAddress 192 168 1 50 }

def strangerBroadcast : Bytes :=
  AuthoritativeBroadcastMessage.encode
    { header := { type := MessageType.authoritativeBroadcast.code, sequence := 9 }
      referenceTransmitTime := 4000 }

def strangerRun : List Action :=
  [.initializeWith strangerConfig true true,
    .receivePacket ⟨20, ipAddress 10 0 0 66, 45100, strangerBroadcast, 1200, 0, false⟩]

theorem stranger_sampled :
    (run step {} strangerRun).protocol.isClientMode = true ∧
    (run step {} strangerRun).submitted = [{ source := ipAddress 10 0 0 66
                                             referenceAddress := ipAddress 192 168 1 50
                                             sample := ⟨1200, 4000, 4000, 1200⟩ }] ∧
    ¬ (run step {} strangerRun).Authentic := by
  have hsubmitted : (run step {} strangerRun).submitted =
      [⟨ipAddress 10 0 0 66, ipAddress 192 168 1 50, ⟨1200, 4000, 4000, 1200⟩⟩] := by decide
  refine ⟨by decide, hsubmitted, ?_⟩
  intro h
  have hfirst := h _ (by rw [hsubmitted]; exact List.mem_singleton_self _)
  exact absurd hfirst (by decide)

end UDPClockSynchronizer
end Sockets.Clock
