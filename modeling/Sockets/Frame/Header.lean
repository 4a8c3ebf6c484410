import Sockets.Foundation.Framing
import Sockets.Platform

/-! The 12-byte header shared by the State and the Event framing: packed, and little-endian as
`std::memcpy` of the structure leaves it on the supported targets. -/
namespace Sockets.Frame
open Foundation

/-- `SocketStateFrameHeader` and `SocketEventFrameHeader` differ in `Magic` only. -/
structure FrameHeader where
  magic : ℕ
  version : ℕ := 1
  reserved : Bytes := [0, 0, 0]
  payloadLength : ℕ := 0

def headerSize : ℕ := 12

def FrameHeader.encode (h : FrameHeader) : Bytes :=
  leBytes 4 h.magic ++ leBytes 1 h.version ++ h.reserved ++ leBytes 4 h.payloadLength

/-- `std::memcpy(&header, buffer, sizeof(header))`. -/
def FrameHeader.decode (bs : Bytes) : FrameHeader where
  magic := leNat (bs.take 4)
  version := leNat ((bs.drop 4).take 1)
  reserved := (bs.drop 5).take 3
  payloadLength := leNat ((bs.drop 8).take 4)

/-- The rejection test both decoders make on a complete header. -/
def FrameHeader.Invalid (magic maximum : ℕ) (h : FrameHeader) : Prop :=
  h.magic ≠ magic ∨ h.version ≠ 1 ∨ h.payloadLength = 0 ∨ maximum < h.payloadLength

instance (magic maximum : ℕ) (h : FrameHeader) : Decidable (h.Invalid magic maximum) :=
  inferInstanceAs (Decidable (_ ∨ _))

@[simp] theorem FrameHeader.length_encode (h : FrameHeader) (hr : h.reserved.length = 3) :
    h.encode.length = headerSize := by
  simp [FrameHeader.encode, headerSize, hr]

/-- The header fields survive the wire when they fit their widths. -/
theorem FrameHeader.decode_encode (h : FrameHeader) (hm : h.magic < 2 ^ 32) (hv : h.version < 2 ^ 8)
    (hr : h.reserved.length = 3) (hp : h.payloadLength < 2 ^ 32) (ys : Bytes) :
    FrameHeader.decode (h.encode ++ ys) = h := by
  have past (k w n : ℕ) (hk : w ≤ k) : (leBytes w n).drop k = [] :=
    List.drop_eq_nil_of_le (by simpa using hk)
  have hmagic : (h.encode ++ ys).take 4 = leBytes 4 h.magic := by
    simp [encode, List.append_assoc]
  have hversion : ((h.encode ++ ys).drop 4).take 1 = leBytes 1 h.version := by
    simp [encode, List.append_assoc]
  have hreserved : ((h.encode ++ ys).drop 5).take 3 = h.reserved := by
    simp [encode, List.append_assoc, List.drop_append, hr, past]
  have hlength : ((h.encode ++ ys).drop 8).take 4 = leBytes 4 h.payloadLength := by
    simp [encode, List.append_assoc, List.drop_append, hr, past]
  cases h
  simp only [decode, hmagic, hversion, hreserved, hlength]
  simp only [leNat_leBytes 4 _ hm, leNat_leBytes 1 _ hv, leNat_leBytes 4 _ hp]

theorem FrameHeader.decode_append {bs : Bytes} (h : headerSize ≤ bs.length) (ys : Bytes) :
    FrameHeader.decode (bs ++ ys) = FrameHeader.decode bs := by
  simp only [headerSize] at h
  simp only [decode, FrameHeader.mk.injEq]
  refine ⟨?_, ?_, ?_, ?_⟩ <;>
    simp only [List.take_append, List.drop_append, List.length_drop]
  · simp [show 4 - bs.length = 0 by omega]
  · simp [show 4 - bs.length = 0 by omega, show 1 - (bs.length - 4) = 0 by omega]
  · simp [show 5 - bs.length = 0 by omega, show 3 - (bs.length - 5) = 0 by omega]
  · simp [show 8 - bs.length = 0 by omega, show 4 - (bs.length - 8) = 0 by omega]

/-- One turn of the decoders' loop, up to the callback. -/
def cutFrame (magic maximum : ℕ) (buffer : Bytes) : Cut UInt8 Bytes Unit :=
  if buffer.length < headerSize then .more
  else
    let header := FrameHeader.decode buffer
    if header.Invalid magic maximum then .fail ()
    else
      let frameSize := headerSize + header.payloadLength
      if buffer.length < frameSize then .more
      else .frame ((buffer.drop headerSize).take header.payloadLength) (buffer.drop frameSize)

/-- The decoders' loop as a framer. -/
def frameFramer (magic maximum : ℕ) : Framer UInt8 Bytes Unit where
  cut := cutFrame magic maximum
  cut_nil := rfl
  shrinks {xs b rest} h := by
    unfold cutFrame at h
    dsimp only at h
    split_ifs at h with h1 h2 h3
    cases h
    simp only [headerSize, List.length_drop] at *
    omega
  frame_append {xs b rest} ys h := by
    unfold cutFrame at h ⊢
    dsimp only at h ⊢
    split_ifs at h with h1 h2 h3
    rw [FrameHeader.decode_append (not_lt.mp h1)]
    cases h
    simp only [headerSize, List.length_append, not_lt] at *
    simp only [show ¬ xs.length + ys.length < 12 by omega, if_false, h2,
      show ¬ xs.length + ys.length < 12 + (FrameHeader.decode xs).payloadLength by omega]
    rw [List.drop_append_of_le_length h1, List.drop_append_of_le_length h3,
      List.take_append_of_le_length (by rw [List.length_drop]; omega)]
  fail_append {xs e} ys h := by
    unfold cutFrame at h ⊢
    dsimp only at h ⊢
    split_ifs at h with h1 h2 h3
    rw [FrameHeader.decode_append (not_lt.mp h1)]
    simp only [List.length_append, not_lt] at *
    simp only [show ¬ xs.length + ys.length < headerSize by omega, if_false, h2, if_true]

@[simp] theorem frameFramer_cut (magic maximum : ℕ) (buffer : Bytes) :
    (frameFramer magic maximum).cut buffer = cutFrame magic maximum buffer := rfl

/-- The frame written for a payload: the header, then the payload. -/
def encodeFrame (magic : ℕ) (payload : Bytes) : Bytes :=
  FrameHeader.encode { magic, payloadLength := payload.length } ++ payload

@[simp] theorem length_encodeFrame (magic : ℕ) (payload : Bytes) :
    (encodeFrame magic payload).length = headerSize + payload.length := by
  rw [encodeFrame, List.length_append, FrameHeader.length_encode _ rfl]

theorem encodeFrame_ne_nil (magic : ℕ) (payload : Bytes) : encodeFrame magic payload ≠ [] := by
  rw [← List.length_pos_iff, length_encodeFrame]
  simp [headerSize]

/-- Payloads a decoder with this limit accepts. -/
structure Fits (maximum : ℕ) (payload : Bytes) : Prop where
  nonempty : payload ≠ []
  le_maximum : payload.length ≤ maximum
  lt_uint32 : payload.length < 2 ^ 32

/-- The frame of a payload above the limit is refused. -/
theorem cut_oversized {magic maximum : ℕ} (hm : magic < 2 ^ 32) {payload : Bytes}
    (hlt : payload.length < 2 ^ 32) (hlarge : maximum < payload.length) :
    (frameFramer magic maximum).cut (encodeFrame magic payload) = .fail () := by
  have hdec := FrameHeader.decode_encode { magic, payloadLength := payload.length } hm
    (by norm_num) rfl hlt payload
  change FrameHeader.decode (encodeFrame magic payload) = _ at hdec
  have hlong : ¬ headerSize + payload.length < headerSize := by omega
  rw [frameFramer_cut, cutFrame, hdec, length_encodeFrame, if_neg hlong]
  exact if_pos (by simp [FrameHeader.Invalid, hlarge])

/-- A frame at the head of the buffer is cut off whole, whatever its reserved bytes are. -/
theorem cutFrame_encode {magic maximum : ℕ} (hm : magic < 2 ^ 32) {reserved payload : Bytes}
    (hr : reserved.length = 3) (h : Fits maximum payload) (ys : Bytes) :
    cutFrame magic maximum
      (FrameHeader.encode { magic, reserved, payloadLength := payload.length } ++ payload ++ ys) =
        .frame payload ys := by
  have hlen := FrameHeader.length_encode
    { magic, reserved, payloadLength := payload.length } hr
  have hdec := FrameHeader.decode_encode { magic, reserved, payloadLength := payload.length } hm
    (by norm_num) hr h.lt_uint32 (payload ++ ys)
  rw [List.append_assoc]
  generalize FrameHeader.encode { magic, reserved, payloadLength := payload.length } = header at *
  have hpos := List.length_pos_iff.mpr h.nonempty
  have hmax := h.le_maximum
  have hlong : (header ++ (payload ++ ys)).length = headerSize + payload.length + ys.length := by
    rw [List.length_append, List.length_append, hlen, Nat.add_assoc]
  rw [cutFrame, hlong, hdec, if_neg (by omega)]
  dsimp only
  rw [if_neg (by simp only [FrameHeader.Invalid]; omega), if_neg (by omega), ← List.drop_drop,
    ← hlen, List.drop_left, List.drop_left, List.take_left]

theorem encodes_frame {magic maximum : ℕ} (hm : magic < 2 ^ 32) {payload : Bytes}
    (h : Fits maximum payload) :
    (frameFramer magic maximum).Encodes (encodeFrame magic) payload where
  cut_encode ys := by
    rw [frameFramer_cut, encodeFrame]
    exact cutFrame_encode hm rfl h ys
  cut_prefix {p q} hq hpq := by
    have hlen := congrArg List.length hpq
    simp only [length_encodeFrame, List.length_append] at hlen
    have hqpos := List.length_pos_iff.mpr hq
    have hdec := FrameHeader.decode_encode { magic, payloadLength := payload.length } hm
      (by norm_num) rfl h.lt_uint32 payload
    change FrameHeader.decode (encodeFrame magic payload) = _ at hdec
    rw [frameFramer_cut, cutFrame]
    dsimp only
    split_ifs with h1 h2 h3
    · rfl
    · exfalso
      rw [hpq, FrameHeader.decode_append (not_lt.mp h1)] at hdec
      have hpos := List.length_pos_iff.mpr h.nonempty
      have hmax := h.le_maximum
      rw [hdec] at h2
      simp only [FrameHeader.Invalid] at h2
      omega
    · rfl
    · exfalso
      rw [hpq, FrameHeader.decode_append (not_lt.mp h1)] at hdec
      rw [hdec] at h3
      dsimp only at h3
      omega

end Sockets.Frame
