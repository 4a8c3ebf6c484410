import Sockets.State.Session

/-! The messages on a State connection, one to a frame. -/
namespace Sockets.State
open Foundation Sockets.Frame

inductive Message (L : StateLibrary) where
  | update (parsed : ParsedUpdate L.Device)
  | acknowledgement (acknowledgement : StateAcknowledgement L.Device)
  | control (control : ControlMessage L.Device)

variable {L : StateLibrary} {H : StateHost L}

variable (L) in
/-- The message a payload is taken for. -/
def parse (payload : Bytes) : Option (Message L) :=
  match L.getMessageType payload with
  | none => none
  | some .update => (L.decodeUpdate payload).map .update
  | some .acknowledgement => (L.decodeAcknowledgement payload).map .acknowledgement
  | some _ => (L.decodeControl payload).map .control

/-- A frame with a payload of this message, within a limit. -/
def Carries (limit : ℕ) (m : Message L) (frame : Bytes) : Prop :=
  ∃ payload, frame = encodeFrame stateMagic payload ∧ Fits limit payload ∧
    parse L payload = some m

variable (L) in
/-- The message in a frame. -/
def messageOf (frame : Bytes) : Option (Message L) := parse L (frame.drop headerSize)

theorem messageOf_encodeFrame (payload : Bytes) :
    messageOf L (encodeFrame stateMagic payload) = parse L payload := by
  rw [messageOf, encodeFrame, ← FrameHeader.length_encode
    { magic := stateMagic, payloadLength := payload.length } rfl, List.drop_left]

theorem Carries.messageOf {limit : ℕ} {m : Message L} {frame : Bytes} (h : Carries limit m frame) :
    messageOf L frame = some m := by
  obtain ⟨payload, rfl, -, hparse⟩ := h
  rw [messageOf_encodeFrame, hparse]

/-- A subscription announced or withdrawn. -/
def wordOf (frame : Bytes) : Option (Bool × StateTypeId) :=
  match messageOf L frame with
  | some (.control c) =>
    if c.type = .subscribe then some (true, c.typeId)
    else if c.type = .unsubscribe then some (false, c.typeId)
    else none
  | _ => none

variable (L) in
/-- The subscriptions announced and withdrawn by frames, in order. -/
def words (frames : List Bytes) : List (Bool × StateTypeId) := frames.filterMap (wordOf (L := L))

/-- What the last word about a type leaves of what was known before. -/
def settled (typeId : StateTypeId) : Bool → List (Bool × StateTypeId) → Bool
  | known, [] => known
  | known, w :: ws => settled typeId (if w.2 = typeId then w.1 else known) ws

theorem settled_append (typeId : StateTypeId) (known : Bool) (ws ws' : List (Bool × StateTypeId)) :
    settled typeId known (ws ++ ws') = settled typeId (settled typeId known ws) ws' := by
  induction ws generalizing known with
  | nil => rfl
  | cons w ws ih => exact ih _

theorem settled_of_forall_ne {typeId : StateTypeId} {ws : List (Bool × StateTypeId)}
    (h : ∀ w ∈ ws, w.2 ≠ typeId) (known : Bool) : settled typeId known ws = known := by
  induction ws generalizing known with
  | nil => rfl
  | cons w ws ih =>
    rw [settled, if_neg (h w List.mem_cons_self)]
    exact ih (fun w' hw' => h w' (List.mem_cons_of_mem _ hw')) known

/-- Announcements only: the type is known after them if it was before or is among them. -/
theorem settled_announced {typeId : StateTypeId} {ws : List (Bool × StateTypeId)}
    (h : ∀ w ∈ ws, w.1 = true) (known : Bool) :
    settled typeId known ws = (known || decide (∃ w ∈ ws, w.2 = typeId)) := by
  induction ws generalizing known with
  | nil => simp [settled]
  | cons w ws ih =>
    rw [settled, ih fun w' hw' => h w' (List.mem_cons_of_mem _ hw')]
    by_cases hw : w.2 = typeId
    · simp [hw, h w List.mem_cons_self]
    · simp [hw]

namespace SocketStateSession
variable [SizeWidth]

/-- A message, once its payload has been understood. -/
def handleMessage (m : Message L) (s : SocketStateSession H) (x : Exterior H) :
    Bool × SocketStateSession H × Exterior H :=
  match m with
  | .update parsed => s.handleUpdate parsed x
  | .acknowledgement acknowledgement => s.handleAcknowledgement acknowledgement x
  | .control control =>
    let b := s.bindPeer control.device x
    if !b.1 then b else b.2.1.handleControl control b.2.2

theorem handleProtocolMessage_eq {payload : Bytes} {m : Message L} (h : parse L payload = some m)
    (s : SocketStateSession H) (x : Exterior H) :
    s.handleProtocolMessage payload x = s.handleMessage m x := by
  unfold parse at h
  unfold handleProtocolMessage
  split at h
  · cases h
  all_goals
    obtain ⟨decoded, hdecode, rfl⟩ := Option.map_eq_some_iff.mp h
    simp_all [handleMessage]

/-- A whole frame comes out of the decoder at once, if it is within the session's limit. -/
theorem push_frame {σ : Type} (cb : Bytes → σ → σ) {d : SocketStateFrameDecoder}
    (hd : d.buffer = []) (hwrap : d.maximumPayloadBytes.val + headerSize < 2 ^ SizeWidth.bits)
    {payload : Bytes} (h : Fits d.maximumPayloadBytes.val payload) (s : σ) :
    d.push cb (encodeFrame stateMagic payload) s = (true, d, cb payload s) := by
  have henc := encodes_frame (show stateMagic < 2 ^ 32 by norm_num [stateMagic]) h
  have hfits : SocketStateFrameDecoder.fits d.maximumPayloadBytes 0
      (encodeFrame stateMagic payload).length = true := by
    have hpos := List.length_pos_iff.mpr h.nonempty
    have hle := h.le_maximum
    simp only [SocketStateFrameDecoder.fits, SocketStateFrameDecoder.capacity, sizeAdd_eq hwrap,
      length_encodeFrame, decide_eq_true_eq]
    omega
  have hdrain : (frameFramer stateMagic d.maximumPayloadBytes.val).drain cb
      (encodeFrame stateMagic payload) s = (.ok [], cb payload s) := by
    have hcut := henc.cut_encode []
    rw [List.append_nil] at hcut
    rw [Framer.drain_frame cb hcut, Framer.drain_more cb (Framer.cut_nil _)]
  cases d
  simp_all [SocketStateFrameDecoder.push, Framer.feed, encodeFrame_ne_nil]

/-- A frame above the session's limit is refused before it is looked at. -/
theorem push_oversized {σ : Type} (cb : Bytes → σ → σ) {d : SocketStateFrameDecoder}
    (hd : d.buffer = []) (hwrap : d.maximumPayloadBytes.val + headerSize < 2 ^ SizeWidth.bits)
    {payload : Bytes} (h : d.maximumPayloadBytes.val < payload.length) (s : σ) :
    d.push cb (encodeFrame stateMagic payload) s = (false, d, s) := by
  have hfits : SocketStateFrameDecoder.fits d.maximumPayloadBytes 0
      (encodeFrame stateMagic payload).length = false := by
    simp only [SocketStateFrameDecoder.fits, SocketStateFrameDecoder.capacity, sizeAdd_eq hwrap,
      length_encodeFrame, decide_eq_false_iff_not]
    omega
  cases d
  simp_all [SocketStateFrameDecoder.push, Framer.feed, encodeFrame_ne_nil]

/-- Whatever the limit, a whole frame is either handed over or refused, and leaves nothing behind. -/
theorem push_whole {σ : Type} (cb : Bytes → σ → σ) {d : SocketStateFrameDecoder}
    (hd : d.buffer = []) {payload : Bytes} (hne : payload ≠ []) (hlt : payload.length < 2 ^ 32)
    (s : σ) : d.push cb (encodeFrame stateMagic payload) s = (true, d, cb payload s) ∨
      d.push cb (encodeFrame stateMagic payload) s = (false, d, s) := by
  have hmagic : stateMagic < 2 ^ 32 := by norm_num [stateMagic]
  obtain ⟨maximum, buffer⟩ := d
  subst hd
  unfold SocketStateFrameDecoder.push Framer.feed
  rw [if_neg (encodeFrame_ne_nil stateMagic payload)]
  dsimp only
  rw [List.nil_append]
  split_ifs
  · by_cases hle : payload.length ≤ maximum.val
    · have hcut := (encodes_frame hmagic (Fits.mk hne hle hlt)).cut_encode []
      rw [List.append_nil] at hcut
      rw [Framer.drain_frame cb hcut, Framer.drain_more cb (Framer.cut_nil _)]
      exact .inl rfl
    · rw [Framer.drain_fail cb (cut_oversized hmagic hlt (not_le.mp hle))]
      exact .inr rfl
  · exact .inr rfl

/-- A session between two frames handles the payload of the next one. -/
theorem feed_frame {s : SocketStateSession H} (hinitialized : s.initialized = true)
    (hd : s.decoder.buffer = [])
    (hwrap : s.decoder.maximumPayloadBytes.val + headerSize < 2 ^ SizeWidth.bits)
    {payload : Bytes} (h : Fits s.decoder.maximumPayloadBytes.val payload) (x : Exterior H) :
    s.feed (encodeFrame stateMagic payload) x = ((s.handleProtocolMessage payload x).1,
      { (s.handleProtocolMessage payload x).2.1 with decoder := s.decoder },
      (s.handleProtocolMessage payload x).2.2) := by
  have hpush := push_frame takeMessage hd hwrap h (true, s, x)
  unfold SocketStateSession.feed
  rw [hinitialized, hpush]
  simp only [takeMessage, Bool.not_true, Bool.false_eq_true, if_false, Bool.true_and]

end SocketStateSession
end Sockets.State
