import Sockets.Frame.Decoders

/-! When a stream of valid frames comes through the decoders whole. The size test is made on a
whole chunk, so it can refuse frames that a smaller chunk would have carried through. -/
namespace Sockets.Frame
open Foundation Framer

/-- Sizes on the wire of the frames of these payloads. -/
def frameSizes (payloads : List Bytes) : List ℕ := payloads.map fun p => headerSize + p.length

private theorem map_encodeFrame_length (magic : ℕ) (payloads : List Bytes) :
    (payloads.map fun p => (encodeFrame magic p).length) = frameSizes payloads := by
  simp [frameSizes]

private theorem flatten_build {build encode : Bytes → Bytes} {payloads : List Bytes}
    (h : ∀ p ∈ payloads, build p = encode p) :
    (payloads.map build).flatten = (payloads.map encode).flatten := by
  rw [List.map_congr_left h]

/-- The framed payloads arrive complete, in order and once each, and leave the buffers empty,
exactly when no chunk takes the buffered bytes over the decoder's capacity. -/
theorem framing_lossless_iff [SizeWidth] {σ : Type} (cb : Bytes → σ → σ) (s : σ)
    (payloads chunks : List Bytes) :
    (∀ maximum : SizeT, 1 ≤ maximum.val →
      (∀ p ∈ payloads, buildSocketStateFrame p maximum ≠ []) → (∀ c ∈ chunks, c ≠ []) →
      chunks.flatten = (payloads.map fun p => buildSocketStateFrame p maximum).flatten →
      (SocketStateFrameDecoder.pushAll cb chunks { maximumPayloadBytes := maximum } s =
          (List.replicate chunks.length true, { maximumPayloadBytes := maximum },
            payloads.foldl (fun s p => cb p s) s) ↔
        Admitted (fun buffered size => buffered + size ≤ sizeAdd maximum.val headerSize)
          (frameSizes payloads) 0 (chunks.map List.length))) ∧
    ((∀ p ∈ payloads, buildSocketEventFrame p ≠ []) → (∀ c ∈ chunks, c ≠ []) →
      chunks.flatten = (payloads.map buildSocketEventFrame).flatten →
      (SocketEventFrameDecoder.pushAll cb chunks {} s =
          (List.replicate chunks.length true, {}, payloads.foldl (fun s p => cb p s) s) ↔
        Admitted (fun buffered size => buffered + size ≤ maxEventPacketSize + headerSize)
          (frameSizes payloads) 0 (chunks.map List.length))) := by
  constructor
  · intro maximum hmax hp hc hw
    have hfit : ∀ p ∈ payloads, Fits maximum.val p := fun p h =>
      buildSocketStateFrame_ne_nil_iff.mp (hp p h)
    rw [flatten_build fun p h => buildSocketStateFrame_eq (hfit p h)] at hw
    have henc : ∀ p ∈ payloads,
        (frameFramer stateMagic maximum.val).Encodes (encodeFrame stateMagic) p :=
      fun p h => encodes_frame (by norm_num [stateMagic]) (hfit p h)
    have hfits : SocketStateFrameDecoder.fits maximum =
        fun buffered size => decide (buffered + size ≤ sizeAdd maximum.val headerSize) := by
      funext buffered size
      simp [SocketStateFrameDecoder.fits, SocketStateFrameDecoder.capacity,
        Nat.one_le_iff_ne_zero.mp hmax]
    rw [← map_encodeFrame_length stateMagic, ← hfits, ← feedAll_lossless_iff _ cb henc hw s,
      SocketStateFrameDecoder.pushAll_eq_feedAll cb hc]
    simp [Prod.ext_iff, SocketStateFrameDecoder.mk.injEq]
  · intro hp hc hw
    have hfit : ∀ p ∈ payloads, Fits maxEventPacketSize p := fun p h =>
      buildSocketEventFrame_ne_nil_iff.mp (hp p h)
    rw [flatten_build fun p h => buildSocketEventFrame_eq (hfit p h)] at hw
    have henc : ∀ p ∈ payloads,
        (frameFramer eventMagic maxEventPacketSize).Encodes (encodeFrame eventMagic) p :=
      fun p h => encodes_frame (by norm_num [eventMagic]) (hfit p h)
    rw [← map_encodeFrame_length eventMagic]
    change _ ↔ Admitted SocketEventFrameDecoder.fits _ _ _
    rw [← feedAll_lossless_iff _ cb henc hw s, SocketEventFrameDecoder.pushAll_eq_feedAll cb hc]
    simp [Prod.ext_iff, SocketEventFrameDecoder.mk.injEq]

/-- Two frames of a 5-byte and a 1-byte payload, the first one split inside its header. -/
theorem framing_lossless_split :
    letI := SizeWidth.esp32
    SocketStateFrameDecoder.pushAll (fun p (s : List Bytes) => s ++ [p])
        [[0x53, 0x54, 0x53], [0x4B, 1, 0, 0, 0, 5, 0, 0, 0, 1, 2, 3, 4, 5, 0x53],
          [0x54, 0x53, 0x4B, 1, 0, 0, 0, 1, 0, 0, 0, 9]] { maximumPayloadBytes := 64 } [] =
      ([true, true, true], { maximumPayloadBytes := 64 }, [[1, 2, 3, 4, 5], [9]]) := by
  let := SizeWidth.esp32
  exact ((framing_lossless_iff (fun p (s : List Bytes) => s ++ [p]) [] [[1, 2, 3, 4, 5], [9]]
    [[0x53, 0x54, 0x53], [0x4B, 1, 0, 0, 0, 5, 0, 0, 0, 1, 2, 3, 4, 5, 0x53],
      [0x54, 0x53, 0x4B, 1, 0, 0, 0, 1, 0, 0, 0, 9]]).1 64 (by decide) (by decide) (by decide)
    (by decide)).mpr (by decide)

/-- Five 17-byte frames read at once by a decoder for payloads of up to 64 bytes: each is valid,
the read is shorter than 512 bytes, and all five are lost. -/
theorem coalesced_frames_refused :
    letI := SizeWidth.esp32
    let payloads : List Bytes := List.replicate 5 [1, 2, 3, 4, 5]
    let chunk := (payloads.map fun p => buildSocketStateFrame p 64).flatten
    (∀ p ∈ payloads, buildSocketStateFrame p 64 ≠ []) ∧ chunk ≠ [] ∧ chunk.length ≤ 512 ∧
      SocketStateFrameDecoder.pushAll (fun p (s : List Bytes) => s ++ [p]) [chunk]
          { maximumPayloadBytes := 64 } [] = ([false], { maximumPayloadBytes := 64 }, []) ∧
      SocketStateFrameDecoder.pushAll (fun p (s : List Bytes) => s ++ [p]) [chunk]
          { maximumPayloadBytes := 64 } [] ≠
        ([true], { maximumPayloadBytes := 64 }, payloads) := by
  let _ := SizeWidth.esp32
  have hpush : SocketStateFrameDecoder.pushAll (fun p (s : List Bytes) => s ++ [p])
      [((List.replicate 5 [1, 2, 3, 4, 5]).map fun p => buildSocketStateFrame p 64).flatten]
      { maximumPayloadBytes := 64 } [] = ([false], { maximumPayloadBytes := 64 }, []) := rfl
  refine ⟨by decide, by decide, by decide, hpush, ?_⟩
  rw [hpush]
  simp

end Sockets.Frame
