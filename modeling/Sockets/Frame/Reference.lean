import Sockets.Foundation.Chunking
import Sockets.Frame.Decoders

/-! Both decoders against one parser that sees the whole stream at once: what is delivered, and when
the stream is refused, depends on its bytes alone. -/
namespace Sockets.Frame
open Foundation

/-- A frame that a decoder with this limit accepts; the reserved bytes may be any. -/
structure ValidFrame (maximum : ℕ) where
  reserved : Bytes
  payload : Bytes
  length_reserved : reserved.length = 3
  fits : Fits maximum payload

namespace ValidFrame
variable {maximum : ℕ}

def header (magic : ℕ) (f : ValidFrame maximum) : FrameHeader where
  magic := magic
  reserved := f.reserved
  payloadLength := f.payload.length

def bytes (magic : ℕ) (f : ValidFrame maximum) : Bytes := (f.header magic).encode ++ f.payload

theorem length_bytes (magic : ℕ) (f : ValidFrame maximum) :
    (f.bytes magic).length = headerSize + f.payload.length := by
  rw [bytes, List.length_append, FrameHeader.length_encode _ f.length_reserved]

theorem cut_bytes {magic : ℕ} (hm : magic < 2 ^ 32) (f : ValidFrame maximum) (ys : Bytes) :
    cutFrame magic maximum (f.bytes magic ++ ys) = .frame f.payload ys :=
  cutFrame_encode hm f.length_reserved f.fits ys

end ValidFrame

/-- Not a complete frame yet, and nothing wrong with it so far. -/
def Incomplete (magic maximum : ℕ) (bs : Bytes) : Prop :=
  bs.length < headerSize ∨ ¬ (FrameHeader.decode bs).Invalid magic maximum ∧
    bs.length < headerSize + (FrameHeader.decode bs).payloadLength

/-- A stream read from its beginning: the payloads of its frames up to the first invalid header at
a frame boundary, and whether there is one. -/
inductive Parses (magic maximum : ℕ) : Bytes → List Bytes → Bool → Prop
  | incomplete {bs : Bytes} (h : Incomplete magic maximum bs) : Parses magic maximum bs [] false
  | invalid {bs : Bytes} (hlength : headerSize ≤ bs.length)
      (h : (FrameHeader.decode bs).Invalid magic maximum) : Parses magic maximum bs [] true
  | frame (f : ValidFrame maximum) {rest : Bytes} {payloads : List Bytes} {bad : Bool}
      (h : Parses magic maximum rest payloads bad) :
      Parses magic maximum (f.bytes magic ++ rest) (f.payload :: payloads) bad

variable {magic maximum : ℕ}

theorem cut_of_incomplete {bs : Bytes} (h : Incomplete magic maximum bs) :
    cutFrame magic maximum bs = .more := by
  unfold cutFrame
  rcases h with hshort | ⟨hvalid, hshort⟩
  · exact if_pos hshort
  · dsimp only
    rw [if_neg hvalid, if_pos hshort, ite_self]

theorem cut_of_invalid {bs : Bytes} (hlength : headerSize ≤ bs.length)
    (h : (FrameHeader.decode bs).Invalid magic maximum) : cutFrame magic maximum bs = .fail () := by
  unfold cutFrame
  rw [if_neg (not_lt.mpr hlength)]
  exact if_pos h

/-- The header that `decode` reads is the one that the bytes encode. -/
theorem FrameHeader.encode_decode {bs : Bytes} (h : headerSize ≤ bs.length) :
    (FrameHeader.decode bs).encode = bs.take headerSize := by
  have hfield (offset width : ℕ) (hw : offset + width ≤ headerSize) :
      leBytes width (leNat ((bs.drop offset).take width)) = (bs.drop offset).take width := by
    have hlength : ((bs.drop offset).take width).length = width := by
      rw [List.length_take, List.length_drop]
      omega
    have hback := leBytes_leNat ((bs.drop offset).take width)
    rwa [hlength] at hback
  have hmagic := hfield 0 4 (by norm_num [headerSize])
  rw [List.drop_zero] at hmagic
  simp only [encode, decode, hmagic, hfield 4 1 (by norm_num [headerSize]),
    hfield 8 4 (by norm_num [headerSize])]
  have hjoin (offset width : ℕ) : bs.take offset ++ (bs.drop offset).take width =
      bs.take (offset + width) := (List.take_add).symm
  rw [hjoin, hjoin, hjoin]
  rfl

/-- A frame that has been cut off is a valid one. -/
theorem exists_validFrame {bs payload rest : Bytes}
    (h : cutFrame magic maximum bs = .frame payload rest) :
    ∃ f : ValidFrame maximum, f.payload = payload ∧ bs = f.bytes magic ++ rest := by
  unfold cutFrame at h
  dsimp only at h
  split_ifs at h with hshort hinvalid hpart
  simp only [FrameHeader.Invalid, not_or, not_not, not_lt] at hshort hinvalid hpart
  obtain ⟨hmagic, hversion, hzero, hmax⟩ := hinvalid
  obtain ⟨hpayload, hrest⟩ := Cut.frame.inj h
  have hlength : payload.length = (FrameHeader.decode bs).payloadLength := by
    rw [← hpayload, List.length_take, List.length_drop]
    omega
  have hreserved : (FrameHeader.decode bs).reserved.length = 3 := by
    simp only [FrameHeader.decode, List.length_take, List.length_drop]
    unfold headerSize at hshort
    omega
  have hbound : (FrameHeader.decode bs).payloadLength < 2 ^ 32 := by
    have hlt := leNat_lt ((bs.drop 8).take 4)
    have hle : ((bs.drop 8).take 4).length ≤ 4 := List.length_take_le _ _
    calc (FrameHeader.decode bs).payloadLength < 256 ^ ((bs.drop 8).take 4).length := hlt
      _ ≤ 256 ^ 4 := Nat.pow_le_pow_right (by norm_num) hle
      _ = 2 ^ 32 := by norm_num
  have hfits : Fits maximum payload := by
    refine ⟨?_, by omega, by omega⟩
    intro hnil
    exact hzero (by rw [← hlength, hnil]; rfl)
  refine ⟨⟨(FrameHeader.decode bs).reserved, payload, hreserved, hfits⟩, rfl, ?_⟩
  have hheader : ValidFrame.header magic
      ⟨(FrameHeader.decode bs).reserved, payload, hreserved, hfits⟩ = FrameHeader.decode bs := by
    simp only [ValidFrame.header, hlength, ← hmagic, ← hversion]
  rw [ValidFrame.bytes, hheader, FrameHeader.encode_decode hshort]
  change bs = bs.take headerSize ++ payload ++ rest
  rw [← hpayload, ← hrest, List.append_assoc, ← List.drop_drop, List.take_append_drop,
    List.take_append_drop]

/-- Every stream has a reading. -/
theorem exists_parses (magic maximum : ℕ) (bs : Bytes) :
    Parses magic maximum bs ((frameFramer magic maximum).frames bs)
      ((frameFramer magic maximum).fails bs) := by
  induction hn : bs.length using Nat.strong_induction_on generalizing bs with
  | _ n ih =>
    cases hcut : (frameFramer magic maximum).cut bs with
    | more =>
      obtain ⟨hfails, hframes⟩ := Framer.drain_of_more hcut
      rw [hfails, hframes]
      apply Parses.incomplete
      rw [frameFramer_cut, cutFrame] at hcut
      dsimp only at hcut
      split_ifs at hcut with hshort hinvalid hpart
      · exact .inl hshort
      · exact .inr ⟨hinvalid, hpart⟩
    | fail e =>
      obtain ⟨hfails, hframes⟩ := Framer.drain_of_fail hcut
      rw [hfails, hframes]
      rw [frameFramer_cut, cutFrame] at hcut
      dsimp only at hcut
      split_ifs at hcut with hshort hinvalid
      exact .invalid (not_lt.mp hshort) hinvalid
    | frame payload rest =>
      obtain ⟨hfails, hframes⟩ := Framer.drain_of_frame hcut
      obtain ⟨f, rfl, rfl⟩ := exists_validFrame hcut
      rw [hfails, hframes]
      have hshorter : rest.length < n := hn ▸ (frameFramer magic maximum).shrinks hcut
      exact .frame f (ih rest.length hshorter rest rfl)

/-- The reading of a stream is what a drain delivers. -/
theorem Parses.drain (hm : magic < 2 ^ 32) {bs : Bytes} {payloads : List Bytes} {bad : Bool}
    (h : Parses magic maximum bs payloads bad) :
    payloads = (frameFramer magic maximum).frames bs ∧
      bad = (frameFramer magic maximum).fails bs := by
  induction h with
  | incomplete h =>
    obtain ⟨hfails, hframes⟩ :=
      Framer.drain_of_more (F := frameFramer magic maximum) (cut_of_incomplete h)
    exact ⟨hframes.symm, hfails.symm⟩
  | invalid hlength h =>
    obtain ⟨hfails, hframes⟩ :=
      Framer.drain_of_fail (F := frameFramer magic maximum) (cut_of_invalid hlength h)
    exact ⟨hframes.symm, hfails.symm⟩
  | @frame f rest payloads bad _ ih =>
    obtain ⟨hfails, hframes⟩ :=
      Framer.drain_of_frame (F := frameFramer magic maximum) (f.cut_bytes hm rest)
    rw [hfails, hframes, ih.1, ih.2]
    exact ⟨rfl, rfl⟩

theorem parses_iff (hm : magic < 2 ^ 32) {bs : Bytes} {payloads : List Bytes} {bad : Bool} :
    Parses magic maximum bs payloads bad ↔ payloads = (frameFramer magic maximum).frames bs ∧
      bad = (frameFramer magic maximum).fails bs := by
  constructor
  · exact Parses.drain hm
  · rintro ⟨rfl, rfl⟩
    exact exists_parses magic maximum bs

section Decoders
variable {σ : Type*}

/-- `Push` calls up to and including the first that returns false. -/
def SocketStateFrameDecoder.pushUntil [SizeWidth] (cb : Bytes → σ → σ) :
    List Bytes → SocketStateFrameDecoder → σ → Bool × SocketStateFrameDecoder × σ
  | [], d, s => (true, d, s)
  | chunk :: chunks, d, s =>
    let r := d.push cb chunk s
    if r.1 then pushUntil cb chunks r.2.1 r.2.2 else r

def SocketEventFrameDecoder.pushUntil (cb : Bytes → σ → σ) :
    List Bytes → SocketEventFrameDecoder → σ → Bool × SocketEventFrameDecoder × σ
  | [], d, s => (true, d, s)
  | chunk :: chunks, d, s =>
    let r := d.push cb chunk s
    if r.1 then pushUntil cb chunks r.2.1 r.2.2 else r

theorem SocketStateFrameDecoder.pushUntil_eq [SizeWidth] (cb : Bytes → σ → σ)
    (chunks : List Bytes) (maximum : SizeT) (buffer : Bytes) (s : σ) :
    pushUntil cb chunks ⟨maximum, buffer⟩ s =
      let r := (frameFramer stateMagic maximum.val).arriveUntil (fits maximum) cb buffer chunks s
      (r.1, ⟨maximum, r.2.1⟩, r.2.2) := by
  induction chunks generalizing buffer s with
  | nil => rfl
  | cons chunk chunks ih =>
    by_cases hempty : chunk = []
    · simp [pushUntil, push, Framer.arriveUntil, Framer.arrive, hempty, ih]
    · simp only [pushUntil, push, Framer.arriveUntil, Framer.arrive, hempty, if_false]
      split_ifs
      · rw [ih]
      · rfl

theorem SocketEventFrameDecoder.pushUntil_eq (cb : Bytes → σ → σ) (chunks : List Bytes)
    (buffer : Bytes) (s : σ) :
    pushUntil cb chunks ⟨buffer⟩ s =
      let r := (frameFramer eventMagic maxEventPacketSize).arriveUntil fits cb buffer chunks s
      (r.1, ⟨r.2.1⟩, r.2.2) := by
  induction chunks generalizing buffer s with
  | nil => rfl
  | cons chunk chunks ih =>
    by_cases hempty : chunk = []
    · simp [pushUntil, push, Framer.arriveUntil, Framer.arrive, hempty, ih]
    · simp only [pushUntil, push, Framer.arriveUntil, Framer.arrive, hempty, if_false]
      split_ifs
      · rw [ih]
      · rfl

/-- The outcome of some `Push` calls is the parser's reading of a stream: its payloads went to the
callback in order, and the last call failed, leaving the buffer empty, if and only if the stream
has an invalid header at a frame boundary. -/
def Reads (magic maximum : ℕ) (cb : Bytes → σ → σ) (s : σ) (stream : Bytes)
    (accepted : Bool) (buffer : Bytes) (t : σ) : Prop :=
  ∃ payloads bad, (∀ payloads' bad', Parses magic maximum stream payloads' bad' ↔
      payloads' = payloads ∧ bad' = bad) ∧
    accepted = !bad ∧ t = payloads.foldl (fun s p => cb p s) s ∧ (bad = true → buffer = [])

theorem reads_arriveUntil (hm : magic < 2 ^ 32) {fits : ℕ → ℕ → Bool} (cb : Bytes → σ → σ) (s : σ)
    {chunks : List Bytes} (hwithin : (frameFramer magic maximum).Within fits [] chunks) :
    Reads magic maximum cb s chunks.flatten
      ((frameFramer magic maximum).arriveUntil fits cb [] chunks s).1
      ((frameFramer magic maximum).arriveUntil fits cb [] chunks s).2.1
      ((frameFramer magic maximum).arriveUntil fits cb [] chunks s).2.2 := by
  rw [Framer.arriveUntil_eq (frameFramer magic maximum).cut_nil hwithin, List.nil_append]
  obtain ⟨haccepted, hstate, hbuffer⟩ :=
    Framer.report_drain (F := frameFramer magic maximum) cb chunks.flatten s
  exact ⟨_, _, fun _ _ => parses_iff hm, haccepted, hstate, hbuffer⟩

/-- Two outcomes that are readings of one stream agree. -/
theorem Reads.agree {cb : Bytes → σ → σ} {s t t' : σ} {stream buffer buffer' : Bytes}
    {accepted accepted' : Bool} (h : Reads magic maximum cb s stream accepted buffer t)
    (h' : Reads magic maximum cb s stream accepted' buffer' t') :
    accepted' = accepted ∧ t' = t := by
  obtain ⟨payloads, bad, hreading, rfl, rfl, -⟩ := h
  obtain ⟨payloads', bad', hreading', rfl, rfl, -⟩ := h'
  obtain ⟨rfl, rfl⟩ := (hreading payloads' bad').mp ((hreading' payloads' bad').mpr ⟨rfl, rfl⟩)
  exact ⟨rfl, rfl⟩

/-- What arrives is read as the parser reads it, and another way to cut it into chunks changes
nothing. -/
theorem reads_regardless (hm : magic < 2 ^ 32) {fits : ℕ → ℕ → Bool} (cb : Bytes → σ → σ) (s : σ)
    {chunks : List Bytes} (hwithin : (frameFramer magic maximum).Within fits [] chunks) :
    let arrive := fun chunks => (frameFramer magic maximum).arriveUntil fits cb [] chunks s
    Reads magic maximum cb s chunks.flatten (arrive chunks).1 (arrive chunks).2.1
        (arrive chunks).2.2 ∧
      ∀ chunks', chunks'.flatten = chunks.flatten →
        (frameFramer magic maximum).Within fits [] chunks' →
        (arrive chunks').1 = (arrive chunks).1 ∧ (arrive chunks').2.2 = (arrive chunks).2.2 := by
  intro arrive
  have hreads := reads_arriveUntil hm cb s hwithin
  refine ⟨hreads, ?_⟩
  intro chunks' hsame hwithin'
  have hreads' := reads_arriveUntil hm cb s hwithin'
  rw [hsame] at hreads'
  exact hreads.agree hreads'

/-- Both decoders read a stream as the parser does, in whatever chunks it comes, as long as the
capacity test refuses none of them; so two ways to cut it into chunks deliver the same. -/
theorem decoders_read [SizeWidth] (cb : Bytes → σ → σ) (s : σ) (chunks : List Bytes) :
    (∀ maximum : SizeT, 1 ≤ maximum.val →
      (frameFramer stateMagic maximum.val).Within (SocketStateFrameDecoder.fits maximum) [] chunks →
      let r := SocketStateFrameDecoder.pushUntil cb chunks { maximumPayloadBytes := maximum } s
      Reads stateMagic maximum.val cb s chunks.flatten r.1 r.2.1.buffer r.2.2 ∧
      ∀ chunks', chunks'.flatten = chunks.flatten →
        (frameFramer stateMagic maximum.val).Within (SocketStateFrameDecoder.fits maximum) []
          chunks' →
        let r' := SocketStateFrameDecoder.pushUntil cb chunks' { maximumPayloadBytes := maximum } s
        r'.1 = r.1 ∧ r'.2.2 = r.2.2) ∧
    ((frameFramer eventMagic maxEventPacketSize).Within SocketEventFrameDecoder.fits [] chunks →
      let r := SocketEventFrameDecoder.pushUntil cb chunks {} s
      Reads eventMagic maxEventPacketSize cb s chunks.flatten r.1 r.2.1.buffer r.2.2 ∧
      ∀ chunks', chunks'.flatten = chunks.flatten →
        (frameFramer eventMagic maxEventPacketSize).Within SocketEventFrameDecoder.fits []
          chunks' →
        let r' := SocketEventFrameDecoder.pushUntil cb chunks' {} s
        r'.1 = r.1 ∧ r'.2.2 = r.2.2) := by
  constructor
  · intro maximum _ hwithin
    simp only [SocketStateFrameDecoder.pushUntil_eq]
    exact reads_regardless (by norm_num [stateMagic]) cb s hwithin
  · intro hwithin
    simp only [SocketEventFrameDecoder.pushUntil_eq]
    exact reads_regardless (by norm_num [eventMagic]) cb s hwithin

/-- A frame with reserved bytes of its own, then a header of another version, cut inside both. -/
def strayChunks : List Bytes :=
  [[0x53, 0x54, 0x53], [0x4B, 1, 7, 7, 7, 1, 0, 0, 0, 9, 0x53, 0x54], [],
    [0x53, 0x4B, 2, 0, 0, 0, 1, 0, 0, 0, 9, 9]]

theorem decoders_read_stray :
    letI := SizeWidth.esp32
    let r := SocketStateFrameDecoder.pushUntil (fun p (ps : List Bytes) => ps ++ [p]) strayChunks
      { maximumPayloadBytes := 64 } []
    (r.1 = false ∧ r.2.1.buffer = [] ∧ r.2.2 = [[9]]) ∧
      Reads stateMagic 64 (fun p (ps : List Bytes) => ps ++ [p]) [] strayChunks.flatten r.1
        r.2.1.buffer r.2.2 := by
  let _ := SizeWidth.esp32
  refine ⟨by decide +kernel, ?_⟩
  exact ((decoders_read (fun p (ps : List Bytes) => ps ++ [p]) [] strayChunks).1 64 (by decide)
    (by decide +kernel)).1

end Decoders
end Sockets.Frame
