import Sockets.Frame.Header

/-! The State and the Event frame decoders. A callback that does not touch the decoder cannot tell
whether its frame was erased before the call, as the State decoder does, or after it. -/
namespace Sockets.Frame
open Foundation
variable {σ : Type*}

/-- "STSK" on the wire. -/
def stateMagic : ℕ := 0x4B535453

/-- "KSVE" on the wire. -/
def eventMagic : ℕ := 0x4556534B

/-- `ESPRESSIO_SOCKETS_MAX_EVENT_PACKET_SIZE`. -/
def maxEventPacketSize : ℕ := 65536

section State
variable [SizeWidth]

structure SocketStateFrameDecoder where
  maximumPayloadBytes : SizeT
  buffer : Bytes := []

namespace SocketStateFrameDecoder

/-- `_maximumPayloadBytes + sizeof(SocketStateFrameHeader)`. -/
def capacity (maximum : SizeT) : ℕ := sizeAdd maximum.val headerSize

def setMaximumPayloadBytes (value : SizeT) (d : SocketStateFrameDecoder) :
    SocketStateFrameDecoder where
  maximumPayloadBytes := value
  buffer := if capacity value < d.buffer.length then [] else d.buffer

/-- The test made on the buffered bytes and the whole chunk, before any frame is consumed. -/
def fits (maximum : SizeT) (buffered size : ℕ) : Bool :=
  decide (maximum.val ≠ 0 ∧ buffered + size ≤ capacity maximum)

/-- `Push`: an empty chunk is accepted as it is; a refused chunk and a bad header clear the
buffer. -/
def push (cb : Bytes → σ → σ) (data : Bytes) (d : SocketStateFrameDecoder) (s : σ) :
    Bool × SocketStateFrameDecoder × σ :=
  if data = [] then (true, d, s)
  else
    let r := (frameFramer stateMagic d.maximumPayloadBytes.val).feed (fits d.maximumPayloadBytes)
      cb d.buffer data s
    (r.1, { d with buffer := r.2.1 }, r.2.2)

/-- What the callback keeps, a `Push` keeps. -/
theorem push_preserves (cb : Bytes → σ → σ) {Q : σ → Prop} (hcb : ∀ p s, Q s → Q (cb p s))
    (d : SocketStateFrameDecoder) (data : Bytes) {s : σ} (hs : Q s) : Q (d.push cb data s).2.2 := by
  unfold push
  split_ifs
  · exact hs
  · exact Framer.feed_preserves hcb _ _ _ hs

/-- The payloads that a chunk completes. -/
def payloads (data : Bytes) (d : SocketStateFrameDecoder) : List Bytes :=
  (d.push (fun p ps => ps ++ [p]) data []).2.2

/-- A `Push` hands these payloads to the callback, one after the other; its answer and what it leaves
in the buffer do not depend on the callback. -/
theorem push_eq (cb : Bytes → σ → σ) (data : Bytes) (d : SocketStateFrameDecoder) (s : σ) :
    d.push cb data s = ((d.push (fun p ps => ps ++ [p]) data []).1,
      (d.push (fun p ps => ps ++ [p]) data []).2.1, (d.payloads data).foldl (fun s p => cb p s) s) := by
  unfold payloads push
  split_ifs
  · rfl
  · dsimp only [Framer.feed]
    split_ifs
    · rw [Framer.drain_eq_foldl cb]
      unfold Framer.frames
      generalize (frameFramer stateMagic d.maximumPayloadBytes.val).drain (fun p ps => ps ++ [p])
        (d.buffer ++ data) [] = r
      obtain ⟨_ | _, ps⟩ := r <;> rfl
    · rfl

theorem push_payloads (cb : Bytes → σ → σ) (data : Bytes) (d : SocketStateFrameDecoder) (s : σ) :
    (d.push cb data s).2.2 = (d.payloads data).foldl (fun s p => cb p s) s := by
  rw [push_eq]

def reset (d : SocketStateFrameDecoder) : SocketStateFrameDecoder := { d with buffer := [] }

/-- The answers of successive `Push` calls, with the decoder and the callback state they leave. -/
def pushAll (cb : Bytes → σ → σ) :
    List Bytes → SocketStateFrameDecoder → σ → List Bool × SocketStateFrameDecoder × σ
  | [], d, s => ([], d, s)
  | chunk :: chunks, d, s =>
    let r := d.push cb chunk s
    let t := pushAll cb chunks r.2.1 r.2.2
    (r.1 :: t.1, t.2)

/-- `frameSize` is added without wrapping: the capacity test bounded the buffer before a header
was read from it. -/
theorem frameSize_lt {maximum : SizeT} {buffered payloadLength : ℕ} (hh : headerSize ≤ buffered)
    (hb : buffered ≤ capacity maximum) (hp : payloadLength ≤ maximum.val) :
    headerSize + payloadLength < 2 ^ SizeWidth.bits := by
  have h12 : headerSize < 2 ^ SizeWidth.bits := uint32_lt_size (by norm_num [headerSize])
  by_contra hw
  have hlt := sizeAdd_lt_of_wrap maximum.isLt (b := headerSize) (by omega) h12
  unfold capacity at hb
  omega

theorem pushAll_eq_feedAll (cb : Bytes → σ → σ) {chunks : List Bytes} (hc : ∀ c ∈ chunks, c ≠ [])
    (maximum : SizeT) (buffer : Bytes) (s : σ) :
    pushAll cb chunks ⟨maximum, buffer⟩ s =
      let r := (frameFramer stateMagic maximum.val).feedAll (fits maximum) cb buffer chunks s
      (r.1, ⟨maximum, r.2.1⟩, r.2.2) := by
  induction chunks generalizing buffer s with
  | nil => rfl
  | cons chunk chunks ih =>
    have hne := hc chunk (by simp)
    simp only [pushAll, push, hne, if_false, Framer.feedAll,
      ih (fun c hc' => hc c (by simp [hc']))]

end SocketStateFrameDecoder

/-- `BuildSocketStateFrame`; an empty frame reports a payload it does not frame. -/
def buildSocketStateFrame (payload : Bytes) (maximumPayloadBytes : SizeT) : Bytes :=
  if payload = [] ∨ maximumPayloadBytes.val = 0 ∨ maximumPayloadBytes.val < payload.length ∨
      0xFFFFFFFF < payload.length then []
  else encodeFrame stateMagic payload

theorem buildSocketStateFrame_ne_nil_iff {payload : Bytes} {maximum : SizeT} :
    buildSocketStateFrame payload maximum ≠ [] ↔ Fits maximum.val payload := by
  unfold buildSocketStateFrame
  split_ifs with h
  · simp only [ne_eq, not_true, false_iff]
    rintro ⟨h1, h2, h3⟩
    have hpos := List.length_pos_iff.mpr h1
    rcases h with h | h
    · exact h1 h
    · omega
  · simp only [not_or, not_lt] at h
    exact ⟨fun _ => ⟨h.1, h.2.2.1, by omega⟩, fun _ => encodeFrame_ne_nil _ _⟩

theorem buildSocketStateFrame_eq {payload : Bytes} {maximum : SizeT} (h : Fits maximum.val payload) :
    buildSocketStateFrame payload maximum = encodeFrame stateMagic payload := by
  have hne := buildSocketStateFrame_ne_nil_iff.mpr h
  unfold buildSocketStateFrame at hne ⊢
  split_ifs at hne ⊢ with hc
  · exact absurd rfl hne
  · rfl

end State

structure SocketEventFrameDecoder where
  buffer : Bytes := []

namespace SocketEventFrameDecoder

def fits (buffered size : ℕ) : Bool := decide (buffered + size ≤ maxEventPacketSize + headerSize)

def push (cb : Bytes → σ → σ) (data : Bytes) (d : SocketEventFrameDecoder) (s : σ) :
    Bool × SocketEventFrameDecoder × σ :=
  if data = [] then (true, d, s)
  else
    let r := (frameFramer eventMagic maxEventPacketSize).feed fits cb d.buffer data s
    (r.1, { d with buffer := r.2.1 }, r.2.2)

def reset (_ : SocketEventFrameDecoder) : SocketEventFrameDecoder := { buffer := [] }

def pushAll (cb : Bytes → σ → σ) :
    List Bytes → SocketEventFrameDecoder → σ → List Bool × SocketEventFrameDecoder × σ
  | [], d, s => ([], d, s)
  | chunk :: chunks, d, s =>
    let r := d.push cb chunk s
    let t := pushAll cb chunks r.2.1 r.2.2
    (r.1 :: t.1, t.2)

theorem pushAll_eq_feedAll (cb : Bytes → σ → σ) {chunks : List Bytes} (hc : ∀ c ∈ chunks, c ≠ [])
    (buffer : Bytes) (s : σ) :
    pushAll cb chunks ⟨buffer⟩ s =
      let r := (frameFramer eventMagic maxEventPacketSize).feedAll fits cb buffer chunks s
      (r.1, ⟨r.2.1⟩, r.2.2) := by
  induction chunks generalizing buffer s with
  | nil => rfl
  | cons chunk chunks ih =>
    have hne := hc chunk (by simp)
    simp only [pushAll, push, hne, if_false, Framer.feedAll,
      ih (fun c hc' => hc c (by simp [hc']))]

end SocketEventFrameDecoder

/-- `BuildSocketEventFrame`. -/
def buildSocketEventFrame (data : Bytes) : Bytes :=
  if data = [] ∨ maxEventPacketSize < data.length then [] else encodeFrame eventMagic data

theorem buildSocketEventFrame_ne_nil_iff {data : Bytes} :
    buildSocketEventFrame data ≠ [] ↔ Fits maxEventPacketSize data := by
  unfold buildSocketEventFrame
  split_ifs with h
  · simp only [ne_eq, not_true, false_iff]
    rintro ⟨h1, h2, h3⟩
    rcases h with h | h
    · exact h1 h
    · omega
  · simp only [not_or, not_lt] at h
    have hlt : data.length < 2 ^ 32 := by
      have := h.2
      simp only [maxEventPacketSize] at this
      omega
    exact ⟨fun _ => ⟨h.1, h.2, hlt⟩, fun _ => encodeFrame_ne_nil _ _⟩

theorem buildSocketEventFrame_eq {data : Bytes} (h : Fits maxEventPacketSize data) :
    buildSocketEventFrame data = encodeFrame eventMagic data := by
  have hne := buildSocketEventFrame_ne_nil_iff.mpr h
  unfold buildSocketEventFrame at hne ⊢
  split_ifs at hne ⊢ with hc
  · exact absurd rfl hne
  · rfl

end Sockets.Frame
