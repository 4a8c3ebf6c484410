import Sockets.Command.Session
import Sockets.Frame.Decoders
import Sockets.Security.Session

/-! The sums that the framers compare with sizes: a header added to a configured limit or to a
length from the wire, in `std::size_t`. -/
namespace Sockets
open Foundation

section Sums
variable [SizeWidth]

/-- A test against a limit and a header decides as over the naturals for every size if and only if
their sum does not wrap. -/
theorem sizeAdd_lt_iff {limit header : ℕ} (hlimit : limit < 2 ^ SizeWidth.bits)
    (hheader : header < 2 ^ SizeWidth.bits) :
    (∀ size < 2 ^ SizeWidth.bits, (sizeAdd limit header < size ↔ limit + header < size)) ↔
      limit + header < 2 ^ SizeWidth.bits := by
  constructor
  · intro h
    by_contra hwraps
    have hsmall := sizeAdd_lt_of_wrap hlimit (not_lt.mp hwraps) hheader
    -- the first size above the wrapped sum
    have hrefused := (h (sizeAdd limit header + 1) (by omega)).mp (Nat.lt_succ_self _)
    omega
  · intro h size _
    rw [sizeAdd_eq h]

/-- A test of a size, a header at least, against a header and a length decides as over the naturals
for every size if and only if their sum does not wrap. -/
theorem lt_sizeAdd_iff {header length : ℕ} (hheader : header < 2 ^ SizeWidth.bits)
    (hlength : length < 2 ^ SizeWidth.bits) :
    (∀ size < 2 ^ SizeWidth.bits, header ≤ size →
      (size < sizeAdd header length ↔ size < header + length)) ↔
      header + length < 2 ^ SizeWidth.bits := by
  constructor
  · intro h
    by_contra hwraps
    have hsmall := sizeAdd_lt_of_wrap (a := length) (b := header) hlength (by omega) hheader
    have hcomm : sizeAdd header length = sizeAdd length header := by
      rw [sizeAdd, sizeAdd, Nat.add_comm]
    have hcomplete := (h header hheader le_rfl).mpr (by omega)
    omega
  · intro h size _ _
    rw [sizeAdd_eq h]

end Sums

namespace Frame.SocketStateFrameDecoder
variable [SizeWidth]

/-- The comparisons of `Push` and of `SetMaximumPayloadBytes` decide as over the naturals: on the
chunk, on what is kept under a new limit, and on the frame, which is only looked at in a buffer that
passed the first test. What is buffered and a chunk are in memory together. -/
structure Exact (maximum : SizeT) : Prop where
  chunk : ∀ buffered size, buffered + size < 2 ^ SizeWidth.bits →
    (fits maximum buffered size = true ↔
      maximum.val ≠ 0 ∧ buffered + size ≤ maximum.val + headerSize)
  kept : ∀ buffered < 2 ^ SizeWidth.bits,
    (capacity maximum < buffered ↔ maximum.val + headerSize < buffered)
  frame : ∀ buffered payloadLength, headerSize ≤ buffered → buffered ≤ capacity maximum →
    payloadLength ≤ maximum.val →
    (buffered < sizeAdd headerSize payloadLength ↔ buffered < headerSize + payloadLength)

theorem headerSize_lt : headerSize < 2 ^ SizeWidth.bits :=
  uint32_lt_size (by norm_num [headerSize])

theorem exact_iff (maximum : SizeT) :
    Exact maximum ↔ maximum.val + headerSize < 2 ^ SizeWidth.bits := by
  constructor
  · intro h
    exact (sizeAdd_lt_iff maximum.isLt headerSize_lt).mp h.kept
  · intro h
    have hcapacity : capacity maximum = maximum.val + headerSize := sizeAdd_eq h
    constructor
    · intro buffered size _
      rw [fits, hcapacity, decide_eq_true_eq]
    · intro buffered _
      rw [hcapacity]
    · intro buffered payloadLength hheader hbuffered hpayload
      rw [sizeAdd_eq (frameSize_lt hheader hbuffered hpayload)]

end Frame.SocketStateFrameDecoder

namespace Command.SocketCommandSession
variable [SizeWidth]

/-- The first comparison of `FeedStructured`; the others add nothing. -/
def chunkExceeds (maximum : SizeT) (size : ℕ) : Bool := sizeAdd maximum.val 4 < size

theorem feedStructured_eq {Value : Type} [CommandLibrary Value] {H : CommandHost Value}
    (data : Bytes) (s : SocketCommandSession H) (x : Exterior H) :
    s.feedStructured data x =
      if chunkExceeds s.config.maximumRequestBytes data.length = true ∧ s.structured = [] then
        (false, s, x)
      else structuredLoop true { s with structured := s.structured ++ data } x := by
  unfold feedStructured chunkExceeds
  simp only [decide_eq_true_eq]

/-- The comparison of `FeedStructured` decides as over the naturals. -/
def Exact (maximum : SizeT) : Prop :=
  ∀ size < 2 ^ SizeWidth.bits, (chunkExceeds maximum size = true ↔ maximum.val + 4 < size)

theorem exact_iff (maximum : SizeT) : Exact maximum ↔ maximum.val + 4 < 2 ^ SizeWidth.bits := by
  have h4 : 4 < 2 ^ SizeWidth.bits := uint32_lt_size (by norm_num)
  simp only [Exact, chunkExceeds, decide_eq_true_eq]
  exact sizeAdd_lt_iff maximum.isLt h4

end Command.SocketCommandSession

namespace Security
variable [SizeWidth]

/-- The comparison of `Feed` with the size of a frame decides as over the naturals, for every length
that passes the test before it. -/
def Exact (maximum : SizeT) : Prop :=
  ∀ buffered length, buffered < 2 ^ SizeWidth.bits → prefixSize ≤ buffered → length < 2 ^ 32 →
    length ≠ 0 → length ≤ maximum.val →
    (buffered < sizeAdd prefixSize length ↔ buffered < prefixSize + length)

theorem prefixSize_lt : prefixSize < 2 ^ SizeWidth.bits :=
  uint32_lt_size (by norm_num [prefixSize])

theorem exact_iff (maximum : SizeT) :
    Exact maximum ↔ prefixSize + min maximum.val (2 ^ 32 - 1) < 2 ^ SizeWidth.bits := by
  have hmin : min maximum.val (2 ^ 32 - 1) < 2 ^ SizeWidth.bits :=
    uint32_lt_size ((min_le_right _ _).trans_lt (by norm_num))
  constructor
  · intro h
    by_cases hzero : min maximum.val (2 ^ 32 - 1) = 0
    · rw [hzero]
      exact prefixSize_lt
    · refine (lt_sizeAdd_iff prefixSize_lt hmin).mp fun size hsize hprefix => ?_
      exact h size _ hsize hprefix (by omega) hzero (min_le_left _ _)
  · intro h buffered length _ _ hlength _ hmaximum
    have hle : length ≤ min maximum.val (2 ^ 32 - 1) := le_min hmaximum (by omega)
    rw [sizeAdd_eq (by omega)]

end Security

/-- The comparisons with a limit decide as over the naturals if and only if the limit leaves room
for the header; a limit on protected frames above the largest length counts as that. -/
theorem limits_exact_iff [SizeWidth] (state command security : SizeT) :
    (Frame.SocketStateFrameDecoder.Exact state ↔
      state.val + Frame.headerSize < 2 ^ SizeWidth.bits) ∧
    (Command.SocketCommandSession.Exact command ↔ command.val + 4 < 2 ^ SizeWidth.bits) ∧
    (Security.Exact security ↔
      Security.prefixSize + min security.val (2 ^ 32 - 1) < 2 ^ SizeWidth.bits) :=
  ⟨Frame.SocketStateFrameDecoder.exact_iff state, Command.SocketCommandSession.exact_iff command,
    Security.exact_iff security⟩

section Unlimited
open Sockets.Frame Command Security
attribute [local instance] SizeWidth.esp32

/-- `SIZE_MAX` of the ESP32, a limit that stands for none. -/
def unlimited : SizeT := ⟨2 ^ 32 - 1, by decide⟩

/-- Under it the State decoder refuses a frame of 13 bytes, the Command session refuses a chunk of
four, and the secure session reads behind a buffer of five bytes that announces the largest frame. -/
theorem unlimited_not_exact :
    (∀ (σ : Type) (cb : Bytes → σ → σ) (s : σ),
      ((⟨unlimited, []⟩ : SocketStateFrameDecoder).push cb (encodeFrame stateMagic [7]) s).1 =
        false) ∧
    ¬ SocketStateFrameDecoder.Exact unlimited ∧
    SocketCommandSession.chunkExceeds unlimited 4 = true ∧
    ¬ SocketCommandSession.Exact unlimited ∧
    cutEnvelope unlimited.val [0xFF, 0xFF, 0xFF, 0xFF, 0] = .fail .outOfBounds ∧
    ¬ Security.Exact unlimited := by
  refine ⟨fun σ cb s => rfl, ?_, by decide, ?_, rfl, ?_⟩
  · rw [SocketStateFrameDecoder.exact_iff]
    decide
  · rw [SocketCommandSession.exact_iff]
    decide
  · rw [Security.exact_iff]
    decide

end Unlimited
end Sockets
