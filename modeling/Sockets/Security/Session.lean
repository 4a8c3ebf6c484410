import Sockets.Foundation.Framing
import Sockets.Platform

/-! `SocketSecuritySession`: length-prefixed frames around the payloads of `TransportSecurity`. -/
namespace Sockets.Security
open Foundation

inductive SecurityError where
  | bufferLimitExceeded

/-- What a session calls: `TransportSecurity`, the write callback, and the callbacks and observers
that receive its results. All of them may keep state in `World`; none touches the session. -/
structure SecurityHost where
  World : Type
  SecurityResult : Type
  UnprotectedPayload : Type
  success : SecurityResult → Bool
  fail : SecurityError → Bytes → SecurityResult
  protect : UInt8 → Bytes → World → (SecurityResult × Bytes) × World
  unprotect : UInt8 → Bytes → World → (SecurityResult × UnprotectedPayload) × World
  writer : Bytes → World → Bool × World
  receive : UnprotectedPayload → World → World
  failure : SecurityResult → World → World
  faulted : SecurityResult → World → World

variable (H : SecurityHost)

/-- Calls that leave the session, in order. -/
inductive SecurityEvent where
  | unprotected (protocol : UInt8) (envelope : Bytes) (result : H.SecurityResult)
      (opened : H.UnprotectedPayload)
  | received (opened : H.UnprotectedPayload)
  | failed (result : H.SecurityResult)
  | faulted (result : H.SecurityResult)
  | wrote (protocol : UInt8) (protectedBytes frame : Bytes) (accepted : Bool)
  | wasReset

/-- The outside of a session and the calls made to it. -/
structure Exterior where
  world : H.World
  log : List (SecurityEvent H) := []

/-- Callbacks are present or not; what they do is the host's. -/
structure SocketSecuritySession [SizeWidth] where
  writer : Bool
  receive : Bool
  failure : Bool
  maximumProtectedFrameBytes : SizeT
  buffer : Bytes := []
  discarding : Bool := false

/-- Four bytes of length, little-endian unlike the Command protocol's, and the protocol byte. -/
def prefixSize : ℕ := 5

/-- Why the receive loop stops for good. `outOfBounds` is the 32-bit target whose `5 + length`
wrapped: the loop takes the frame for complete and reads past the buffer. -/
inductive FeedError where
  | invalidLength
  | outOfBounds

theorem take_append_eq_left {buffer : Bytes} (h : prefixSize ≤ buffer.length) (ys : Bytes) :
    (buffer ++ ys).take 4 = buffer.take 4 := by
  simp only [prefixSize] at h
  rw [List.take_append_of_le_length (by omega)]

variable [SizeWidth]

/-- One turn of the loop of `Feed`, up to `ProcessEnvelope`. -/
def cutEnvelope (maximum : ℕ) (buffer : Bytes) : Cut UInt8 (UInt8 × Bytes) FeedError :=
  if buffer.length < prefixSize then .more
  else
    let length := leNat (buffer.take 4)
    if length = 0 ∨ maximum < length then .fail .invalidLength
    else
      let frameSize := sizeAdd prefixSize length
      if buffer.length < frameSize then .more
      else if frameSize < prefixSize + length then .fail .outOfBounds
      else .frame (buffer.getD 4 0, (buffer.drop prefixSize).take length) (buffer.drop frameSize)

private theorem cutEnvelope_shrinks {maximum : ℕ} {buffer : Bytes} {frame : UInt8 × Bytes}
    {rest : Bytes} (h : cutEnvelope maximum buffer = .frame frame rest) :
    rest.length < buffer.length := by
  unfold cutEnvelope at h
  dsimp only at h
  split_ifs at h with h1 h2 h3 h4
  cases h
  simp only [prefixSize, List.length_drop] at *
  omega

private theorem cutEnvelope_frame_append {maximum : ℕ} {buffer : Bytes} {frame : UInt8 × Bytes}
    {rest : Bytes} (ys : Bytes) (h : cutEnvelope maximum buffer = .frame frame rest) :
    cutEnvelope maximum (buffer ++ ys) = .frame frame (rest ++ ys) := by
  unfold cutEnvelope at h ⊢
  dsimp only at h ⊢
  split_ifs at h with h1 h2 h3 h4
  rw [take_append_eq_left (not_lt.mp h1)]
  cases h
  simp only [List.length_append, not_lt] at *
  simp only [show ¬ buffer.length + ys.length < prefixSize by omega, if_false, h2, not_lt.mpr h4,
    show ¬ buffer.length + ys.length < sizeAdd prefixSize (leNat (buffer.take 4)) by omega]
  simp only [prefixSize] at *
  rw [List.drop_append_of_le_length h3, List.drop_append_of_le_length h1,
    List.take_append_of_le_length (by rw [List.length_drop]; omega), List.getD_eq_getElem?_getD,
    List.getElem?_append_left h1, ← List.getD_eq_getElem?_getD]

private theorem cutEnvelope_fail_append {maximum : ℕ} {buffer : Bytes} {e : FeedError}
    (ys : Bytes) (h : cutEnvelope maximum buffer = .fail e) :
    cutEnvelope maximum (buffer ++ ys) = .fail e := by
  unfold cutEnvelope at h ⊢
  dsimp only at h ⊢
  split_ifs at h with h1 h2 h3 h4
  · rw [take_append_eq_left (not_lt.mp h1)]
    simp only [List.length_append, show ¬ buffer.length + ys.length < prefixSize by omega,
      if_false, h2, if_true, h]
  · rw [take_append_eq_left (not_lt.mp h1)]
    simp only [List.length_append, show ¬ buffer.length + ys.length < prefixSize by omega,
      if_false, h2, h4, if_true, h, show ¬ buffer.length + ys.length <
        sizeAdd prefixSize (leNat (buffer.take 4)) by omega]

/-- The loop of `Feed` as a framer. -/
def envelopeFramer (maximum : ℕ) : Framer UInt8 (UInt8 × Bytes) FeedError where
  cut := cutEnvelope maximum
  cut_nil := rfl
  shrinks := cutEnvelope_shrinks
  frame_append := cutEnvelope_frame_append
  fail_append := cutEnvelope_fail_append

@[simp] theorem envelopeFramer_cut (maximum : ℕ) (buffer : Bytes) :
    (envelopeFramer maximum).cut buffer = cutEnvelope maximum buffer := rfl

variable {H}

def publishFailure (s : SocketSecuritySession) (result : H.SecurityResult) (x : Exterior H) :
    Exterior H :=
  let x := if s.failure then { world := H.failure result x.world, log := x.log ++ [.failed result] }
    else x
  { world := H.faulted result x.world, log := x.log ++ [.faulted result] }

def processEnvelope (s : SocketSecuritySession) (frame : UInt8 × Bytes) (x : Exterior H) :
    Exterior H :=
  let r := H.unprotect frame.1 frame.2 x.world
  let x := { world := r.2, log := x.log ++ [.unprotected frame.1 frame.2 r.1.1 r.1.2] }
  if H.success r.1.1 then
    if s.receive then
      { world := H.receive r.1.2 x.world, log := x.log ++ [.received r.1.2] }
    else x
  else publishFailure s r.1.1 x

def exceedsLimit : Bytes :=
  text "Protected secure socket frame is empty or exceeds configured limit"

def invalidLength : Bytes :=
  text "Secure socket frame length is invalid or exceeds configured limit"

/-- The frame `Send` writes around protected bytes. -/
def encodeEnvelope (frame : UInt8 × Bytes) : Bytes :=
  leBytes 4 frame.2.length ++ frame.1 :: frame.2

/-- `Send`: the answer, what `resultOut` is set to, and the exterior after the calls. -/
def send (s : SocketSecuritySession) (protocol : UInt8) (payload : Bytes) (x : Exterior H) :
    Bool × Option H.SecurityResult × Exterior H :=
  if !s.writer then (false, none, x)
  else
    let r := H.protect protocol payload x.world
    let x := { x with world := r.2 }
    let result := r.1.1
    let protectedBytes := r.1.2
    if !H.success result then (false, some result, publishFailure s result x)
    else if protectedBytes = [] ∨ s.maximumProtectedFrameBytes.val < protectedBytes.length ∨
        0xFFFFFFFF < protectedBytes.length then
      let failure := H.fail .bufferLimitExceeded exceedsLimit
      (false, some failure, publishFailure s failure x)
    else
      let frame := encodeEnvelope (protocol, protectedBytes)
      let w := H.writer frame x.world
      (w.1, some result,
        { world := w.2, log := x.log ++ [.wrote protocol protectedBytes frame w.1] })

/-- `Feed`; `none` where the code reads past its buffer. -/
def feed (data : Bytes) (s : SocketSecuritySession) (x : Exterior H) :
    Option Bool × SocketSecuritySession × Exterior H :=
  if s.discarding then (some false, s, x)
  else
    match (envelopeFramer s.maximumProtectedFrameBytes.val).drain (processEnvelope s)
        (s.buffer ++ data) x with
    | (.ok rest, x) => (some true, { s with buffer := rest }, x)
    | (.error .invalidLength, x) =>
      (some false, { s with buffer := [], discarding := true },
        publishFailure s (H.fail .bufferLimitExceeded invalidLength) x)
    | (.error .outOfBounds, x) => (none, s, x)

def reset (s : SocketSecuritySession) (x : Exterior H) : SocketSecuritySession × Exterior H :=
  ({ s with buffer := [], discarding := false }, { x with log := x.log ++ [.wasReset] })

def bufferedBytes (s : SocketSecuritySession) : ℕ := s.buffer.length

/-- A sequence of `Send` calls; their answers are in the log. -/
def sendAll (s : SocketSecuritySession) (calls : List (UInt8 × Bytes)) (x : Exterior H) :
    Exterior H :=
  calls.foldl (fun x call => (send s call.1 call.2 x).2.2) x

/-- A sequence of `Feed` calls. -/
def feedAll : List Bytes → SocketSecuritySession → Exterior H →
    List (Option Bool) × SocketSecuritySession × Exterior H
  | [], s, x => ([], s, x)
  | chunk :: chunks, s, x =>
    let r := feed chunk s x
    let t := feedAll chunks r.2.1 r.2.2
    (r.1 :: t.1, t.2)

end Sockets.Security
