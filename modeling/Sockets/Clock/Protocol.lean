import Sockets.Platform

/-! `SocketClockSynchronizationProtocol`: the four-timestamp exchange and the one-way broadcast,
on packed little-endian messages. The constructor never leaves `_target` null, so the model has no
null target; what the target answers is an argument of the operation that asks it. -/
namespace Sockets.Clock
open Foundation

inductive MessageType where
  | request
  | response
  | authoritativeBroadcast
  deriving DecidableEq

def MessageType.code : MessageType → UInt8
  | .request => 1
  | .response => 2
  | .authoritativeBroadcast => 3

/-- "KLCS" on the wire. -/
def headerMagic : UInt32 := 0x53434C4B

structure MessageHeader where
  magic : UInt32 := headerMagic
  version : UInt8 := 1
  type : UInt8 := 0
  reserved : UInt16 := 0
  sequence : UInt32 := 0
  deriving DecidableEq

structure RequestMessage where
  header : MessageHeader := {}
  t1 : UInt64 := 0
  deriving DecidableEq

structure ResponseMessage where
  header : MessageHeader := {}
  t1 : UInt64 := 0
  t2 : UInt64 := 0
  t3 : UInt64 := 0
  deriving DecidableEq

structure AuthoritativeBroadcastMessage where
  header : MessageHeader := {}
  referenceTransmitTime : UInt64 := 0
  deriving DecidableEq

/-- The `width` little-endian bytes at `offset` of a message copied out of a buffer. -/
def field (offset width : ℕ) (data : Bytes) : ℕ := leNat ((data.drop offset).take width)

def MessageHeader.encode (h : MessageHeader) : Bytes :=
  leBytes 4 h.magic.toNat ++ (leBytes 1 h.version.toNat ++ (leBytes 1 h.type.toNat ++
    (leBytes 2 h.reserved.toNat ++ leBytes 4 h.sequence.toNat)))

def MessageHeader.decode (data : Bytes) : MessageHeader where
  magic := .ofNat (field 0 4 data)
  version := .ofNat (field 4 1 data)
  type := .ofNat (field 5 1 data)
  reserved := .ofNat (field 6 2 data)
  sequence := .ofNat (field 8 4 data)

def RequestMessage.encode (m : RequestMessage) : Bytes := m.header.encode ++ leBytes 8 m.t1.toNat

def RequestMessage.decode (data : Bytes) : RequestMessage where
  header := .decode data
  t1 := .ofNat (field 12 8 data)

def ResponseMessage.encode (m : ResponseMessage) : Bytes :=
  m.header.encode ++ (leBytes 8 m.t1.toNat ++ (leBytes 8 m.t2.toNat ++ leBytes 8 m.t3.toNat))

def ResponseMessage.decode (data : Bytes) : ResponseMessage where
  header := .decode data
  t1 := .ofNat (field 12 8 data)
  t2 := .ofNat (field 20 8 data)
  t3 := .ofNat (field 28 8 data)

def AuthoritativeBroadcastMessage.encode (m : AuthoritativeBroadcastMessage) : Bytes :=
  m.header.encode ++ leBytes 8 m.referenceTransmitTime.toNat

def AuthoritativeBroadcastMessage.decode (data : Bytes) : AuthoritativeBroadcastMessage where
  header := .decode data
  referenceTransmitTime := .ofNat (field 12 8 data)

/-- `sizeof` of the packed messages. -/
def headerSize : ℕ := 12
def requestSize : ℕ := 20
def responseSize : ℕ := 36
def broadcastSize : ℕ := 20

/-- The check every receiving function makes on the header it copied. -/
def MessageHeader.IsOf (type : MessageType) (h : MessageHeader) : Prop :=
  h.magic = headerMagic ∧ h.version = 1 ∧ h.type = type.code

instance (type : MessageType) (h : MessageHeader) : Decidable (h.IsOf type) :=
  inferInstanceAs (Decidable (_ ∧ _))

@[simp] theorem field_leBytes_append (width n : ℕ) (ys : Bytes) (h : n < 256 ^ width) :
    field 0 width (leBytes width n ++ ys) = n := by
  rw [field, List.drop_zero, List.take_left' (length_leBytes width n), leNat_leBytes width n h]

@[simp] theorem field_leBytes (width n : ℕ) (h : n < 256 ^ width) :
    field 0 width (leBytes width n) = n := by
  simpa using field_leBytes_append width n [] h

/-- A field behind a complete one is read at the distance left. -/
theorem field_skip {offset skipped : ℕ} (hs : skipped ≤ offset) (width n : ℕ) (ys : Bytes) :
    field offset width (leBytes skipped n ++ ys) = field (offset - skipped) width ys := by
  have hnil : (leBytes skipped n).drop offset = [] := List.drop_eq_nil_of_le (by simpa using hs)
  simp [field, List.drop_append, hnil]

theorem MessageHeader.decode_encode_append (h : MessageHeader) (ys : Bytes) :
    MessageHeader.decode (h.encode ++ ys) = h := by
  obtain ⟨magic, version, type, reserved, sequence⟩ := h
  have h0 := magic.toNat_lt
  have h1 := version.toNat_lt
  have h2 := type.toNat_lt
  have h3 := reserved.toNat_lt
  have h4 := sequence.toNat_lt
  simp only [decode, encode, List.append_assoc, mk.injEq]
  refine ⟨?_, ?_, ?_, ?_, ?_⟩
  · rw [field_leBytes_append _ _ _ (by omega), UInt32.ofNat_toNat]
  · rw [field_skip (by norm_num), field_leBytes_append _ _ _ (by omega), UInt8.ofNat_toNat]
  · rw [field_skip (by norm_num), field_skip (by norm_num), field_leBytes_append _ _ _ (by omega),
      UInt8.ofNat_toNat]
  · rw [field_skip (by norm_num), field_skip (by norm_num), field_skip (by norm_num),
      field_leBytes_append _ _ _ (by omega), UInt16.ofNat_toNat]
  · rw [field_skip (by norm_num), field_skip (by norm_num), field_skip (by norm_num),
      field_skip (by norm_num), field_leBytes_append _ _ _ (by omega), UInt32.ofNat_toNat]

@[simp] theorem MessageHeader.length_encode (h : MessageHeader) :
    h.encode.length = headerSize := by
  simp [encode, headerSize]

/-- A field behind the header. -/
theorem field_header_append (h : MessageHeader) {offset : ℕ} (ho : headerSize ≤ offset) (width : ℕ)
    (ys : Bytes) : field offset width (h.encode ++ ys) = field (offset - headerSize) width ys := by
  have hnil : h.encode.drop offset = [] := List.drop_eq_nil_of_le (by simpa using ho)
  simp [field, List.drop_append, hnil]

theorem RequestMessage.decode_encode (m : RequestMessage) :
    RequestMessage.decode m.encode = m := by
  obtain ⟨header, t1⟩ := m
  have h1 := t1.toNat_lt
  simp only [decode, encode, MessageHeader.decode_encode_append, mk.injEq, true_and]
  rw [field_header_append _ (by norm_num [headerSize]), headerSize, field_leBytes _ _ (by omega),
    UInt64.ofNat_toNat]

theorem ResponseMessage.decode_encode (m : ResponseMessage) :
    ResponseMessage.decode m.encode = m := by
  obtain ⟨header, t1, t2, t3⟩ := m
  have h1 := t1.toNat_lt
  have h2 := t2.toNat_lt
  have h3 := t3.toNat_lt
  simp only [decode, encode, MessageHeader.decode_encode_append, mk.injEq, true_and]
  refine ⟨?_, ?_, ?_⟩ <;> rw [field_header_append _ (by norm_num [headerSize]), headerSize]
  · rw [field_leBytes_append _ _ _ (by omega), UInt64.ofNat_toNat]
  · rw [field_skip (by norm_num), field_leBytes_append _ _ _ (by omega), UInt64.ofNat_toNat]
  · rw [field_skip (by norm_num), field_skip (by norm_num), field_leBytes _ _ (by omega),
      UInt64.ofNat_toNat]

@[simp] theorem RequestMessage.length_encode (m : RequestMessage) :
    m.encode.length = requestSize := by
  simp [encode, headerSize, requestSize]

@[simp] theorem ResponseMessage.length_encode (m : ResponseMessage) :
    m.encode.length = responseSize := by
  simp [encode, headerSize, responseSize]

@[simp] theorem AuthoritativeBroadcastMessage.length_encode (m : AuthoritativeBroadcastMessage) :
    m.encode.length = broadcastSize := by
  simp [encode, headerSize, broadcastSize]

theorem AuthoritativeBroadcastMessage.decode_encode (m : AuthoritativeBroadcastMessage) :
    AuthoritativeBroadcastMessage.decode m.encode = m := by
  obtain ⟨header, t⟩ := m
  have h1 := t.toNat_lt
  simp only [decode, encode, MessageHeader.decode_encode_append, mk.injEq, true_and]
  rw [field_header_append _ (by norm_num [headerSize]), headerSize, field_leBytes _ _ (by omega),
    UInt64.ofNat_toNat]

inductive SocketClockSynchronizationMode where
  | client
  | reference
  | clientAndReference
  deriving DecidableEq

/-- `ClockSynchronizationSample`: the four timestamps handed to the clock discipline. -/
structure Sample where
  localRequestTransmitTime : UInt64
  remoteRequestReceiveTime : UInt64
  remoteResponseTransmitTime : UInt64
  localResponseReceiveTime : UInt64
  deriving DecidableEq

structure SocketClockSynchronizationProtocol where
  mode : SocketClockSynchronizationMode := .client
  nextSequence : UInt32 := 1
  pendingSequence : UInt32 := 0
  deriving DecidableEq

namespace SocketClockSynchronizationProtocol

def isClientMode (p : SocketClockSynchronizationProtocol) : Bool :=
  p.mode = .client || p.mode = .clientAndReference

def isReferenceMode (p : SocketClockSynchronizationProtocol) : Bool :=
  p.mode = .reference || p.mode = .clientAndReference

def cancelPendingRequest (p : SocketClockSynchronizationProtocol) :
    SocketClockSynchronizationProtocol := { p with pendingSequence := 0 }

/-- `now` is the target's timestamp, taken after the sequence number was drawn. -/
def buildRequest (now : UInt64) (p : SocketClockSynchronizationProtocol) :
    Option RequestMessage × SocketClockSynchronizationProtocol :=
  if !p.isClientMode then (none, p)
  else
    let request : RequestMessage :=
      { header := { type := MessageType.request.code, sequence := p.nextSequence }, t1 := now }
    (some request, { p with nextSequence := p.nextSequence + 1, pendingSequence := p.nextSequence })

/-- The response `ProcessRequest` hands to `sendResponse`, whose answer it returns. -/
def processRequest (data : Bytes) (localReceiveTime now : UInt64)
    (p : SocketClockSynchronizationProtocol) : Option ResponseMessage :=
  if !p.isReferenceMode || data.length ≠ requestSize then none
  else
    let request := RequestMessage.decode data
    if ¬ request.header.IsOf .request then none
    else some
      { header := { type := MessageType.response.code, sequence := request.header.sequence }
        t1 := request.t1, t2 := localReceiveTime, t3 := now }

/-- The sample `ProcessResponse` submits; its return value is the target's verdict on it. -/
def processResponse (data : Bytes) (localReceiveTime : UInt64)
    (p : SocketClockSynchronizationProtocol) :
    Option Sample × SocketClockSynchronizationProtocol :=
  if !p.isClientMode || data.length ≠ responseSize then (none, p)
  else
    let response := ResponseMessage.decode data
    if ¬ response.header.IsOf .response then (none, p)
    else if p.pendingSequence = 0 ∨ response.header.sequence ≠ p.pendingSequence then (none, p)
    else
      (some ⟨response.t1, response.t2, response.t3, localReceiveTime⟩, p.cancelPendingRequest)

def buildAuthoritativeBroadcast (now : UInt64) (p : SocketClockSynchronizationProtocol) :
    Option AuthoritativeBroadcastMessage × SocketClockSynchronizationProtocol :=
  if !p.isReferenceMode then (none, p)
  else
    let message : AuthoritativeBroadcastMessage :=
      { header := { type := MessageType.authoritativeBroadcast.code, sequence := p.nextSequence }
        referenceTransmitTime := now }
    (some message, { p with nextSequence := p.nextSequence + 1 })

/-- The zero-duration sample `ProcessAuthoritativeBroadcast` submits. -/
def processAuthoritativeBroadcast (data : Bytes) (localReceiveTime : UInt64)
    (p : SocketClockSynchronizationProtocol) : Option Sample :=
  if !p.isClientMode || data.length ≠ broadcastSize then none
  else
    let message := AuthoritativeBroadcastMessage.decode data
    if ¬ message.header.IsOf .authoritativeBroadcast then none
    else some ⟨localReceiveTime, message.referenceTransmitTime, message.referenceTransmitTime,
      localReceiveTime⟩

/-- Which sample a response gives, and from what. -/
theorem processResponse_eq_some {data : Bytes} {receiveTime : UInt64}
    {p : SocketClockSynchronizationProtocol} {sample : Sample}
    (h : (p.processResponse data receiveTime).1 = some sample) :
    let response := ResponseMessage.decode data
    data.length = responseSize ∧ response.header.IsOf .response ∧ p.pendingSequence ≠ 0 ∧
      response.header.sequence = p.pendingSequence ∧
      sample = ⟨response.t1, response.t2, response.t3, receiveTime⟩ ∧
      (p.processResponse data receiveTime).2 = p.cancelPendingRequest := by
  unfold processResponse at h ⊢
  dsimp only at h ⊢
  split_ifs at h ⊢ with h1 h2 h3
  simp only [Bool.or_eq_true, not_or] at h1 h3
  cases h
  exact ⟨by simpa using h1.2, h2, h3.1, not_not.mp h3.2, rfl, rfl⟩

/-- A response without a sample leaves the protocol as it was. -/
theorem processResponse_eq_none {data : Bytes} {receiveTime : UInt64}
    {p : SocketClockSynchronizationProtocol}
    (h : (p.processResponse data receiveTime).1 = none) :
    (p.processResponse data receiveTime).2 = p := by
  unfold processResponse at h ⊢
  dsimp only at h ⊢
  split_ifs at h ⊢ <;> rfl

theorem processRequest_eq_some {data : Bytes} {receiveTime now : UInt64}
    {p : SocketClockSynchronizationProtocol} {response : ResponseMessage}
    (h : p.processRequest data receiveTime now = some response) :
    let request := RequestMessage.decode data
    data.length = requestSize ∧ request.header.IsOf .request ∧
      response = { header := { type := MessageType.response.code
                               sequence := request.header.sequence }
                   t1 := request.t1, t2 := receiveTime, t3 := now } := by
  unfold processRequest at h
  dsimp only at h ⊢
  split_ifs at h with h1 h2
  simp only [Bool.or_eq_true, not_or] at h1
  exact ⟨by simpa using h1.2, h2, (Option.some.inj h).symm⟩

end SocketClockSynchronizationProtocol
end Sockets.Clock
