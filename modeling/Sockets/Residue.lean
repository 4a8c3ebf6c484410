import Sockets.Command.Structured
import Sockets.Frame.Decoders
import Sockets.Foundation.Run
import Sockets.Security.Session

/-! What the four framers still buffer after any calls: less than one frame that they would take. -/
namespace Sockets
open Foundation

/-- A call on a framer: bytes that arrive, or its reset. -/
inductive FramerCall where
  | feed (data : Bytes)
  | reset
  deriving DecidableEq

namespace Frame

/-- Fewer bytes than a header, or a valid header with fewer bytes than its payload. -/
def Unfinished (magic maximum : ℕ) (buffer : Bytes) : Prop :=
  buffer.length < headerSize ∨
    headerSize ≤ buffer.length ∧ ¬ (FrameHeader.decode buffer).Invalid magic maximum ∧
      buffer.length < headerSize + (FrameHeader.decode buffer).payloadLength

theorem unfinished_of_more {magic maximum : ℕ} {buffer : Bytes}
    (h : (frameFramer magic maximum).cut buffer = .more) : Unfinished magic maximum buffer := by
  rw [frameFramer_cut, cutFrame] at h
  dsimp only at h
  split_ifs at h with hshort hinvalid hpart
  · exact .inl hshort
  · exact .inr ⟨not_lt.mp hshort, hinvalid, hpart⟩

theorem Unfinished.length_lt {magic maximum : ℕ} {buffer : Bytes}
    (h : Unfinished magic maximum buffer) : buffer.length < maximum + headerSize := by
  rcases h with hshort | ⟨-, hvalid, hpart⟩
  · omega
  · simp only [FrameHeader.Invalid, not_or, not_lt] at hvalid
    omega

variable {σ : Type*}

theorem SocketStateFrameDecoder.unfinished_push [SizeWidth] (cb : Bytes → σ → σ)
    {d : SocketStateFrameDecoder}
    (h : Unfinished stateMagic d.maximumPayloadBytes.val d.buffer) (data : Bytes) (s : σ) :
    Unfinished stateMagic d.maximumPayloadBytes.val (d.push cb data s).2.1.buffer := by
  unfold push
  split_ifs
  · exact h
  · exact unfinished_of_more (Framer.cut_feed _ cb d.buffer data s)

theorem SocketEventFrameDecoder.unfinished_push (cb : Bytes → σ → σ)
    {d : SocketEventFrameDecoder} (h : Unfinished eventMagic maxEventPacketSize d.buffer)
    (data : Bytes) (s : σ) :
    Unfinished eventMagic maxEventPacketSize (d.push cb data s).2.1.buffer := by
  unfold push
  split_ifs
  · exact h
  · exact unfinished_of_more (Framer.cut_feed _ cb d.buffer data s)

/-- One call on a decoder and on what its callback works on. -/
def SocketStateFrameDecoder.call [SizeWidth] (cb : Bytes → σ → σ)
    (x : SocketStateFrameDecoder × σ) : FramerCall → SocketStateFrameDecoder × σ
  | .feed data => (x.1.push cb data x.2).2
  | .reset => (x.1.reset, x.2)

def SocketEventFrameDecoder.call (cb : Bytes → σ → σ) (x : SocketEventFrameDecoder × σ) :
    FramerCall → SocketEventFrameDecoder × σ
  | .feed data => (x.1.push cb data x.2).2
  | .reset => (x.1.reset, x.2)

theorem unfinished_nil (magic maximum : ℕ) : Unfinished magic maximum [] :=
  .inl (by norm_num [headerSize])

theorem SocketStateFrameDecoder.maximumPayloadBytes_push [SizeWidth] (cb : Bytes → σ → σ)
    (d : SocketStateFrameDecoder) (data : Bytes) (s : σ) :
    (d.push cb data s).2.1.maximumPayloadBytes = d.maximumPayloadBytes := by
  unfold push
  split_ifs <;> rfl

theorem SocketStateFrameDecoder.unfinished_calls [SizeWidth] (cb : Bytes → σ → σ)
    (maximum : SizeT) (s : σ) (calls : List FramerCall) :
    Unfinished stateMagic maximum.val (run (call cb) (⟨maximum, []⟩, s) calls).1.buffer := by
  have hkept : let x := run (call cb) (⟨maximum, []⟩, s) calls
      x.1.maximumPayloadBytes = maximum ∧ Unfinished stateMagic maximum.val x.1.buffer := by
    refine run_induction (P := fun x : SocketStateFrameDecoder × σ =>
      x.1.maximumPayloadBytes = maximum ∧ Unfinished stateMagic maximum.val x.1.buffer) ?_
        ⟨rfl, unfinished_nil _ _⟩ calls
    rintro ⟨d, s⟩ (data | _) ⟨rfl, h⟩
    · exact ⟨maximumPayloadBytes_push cb d data s, unfinished_push cb h data s⟩
    · exact ⟨rfl, unfinished_nil _ _⟩
  exact hkept.2

theorem SocketEventFrameDecoder.unfinished_calls (cb : Bytes → σ → σ) (s : σ)
    (calls : List FramerCall) :
    Unfinished eventMagic maxEventPacketSize (run (call cb) ({}, s) calls).1.buffer := by
  refine run_induction
    (P := fun x : SocketEventFrameDecoder × σ =>
      Unfinished eventMagic maxEventPacketSize x.1.buffer) ?_
    (unfinished_nil _ _) calls
  rintro ⟨d, s⟩ (data | _) h
  · exact unfinished_push cb h data s
  · exact unfinished_nil _ _

end Frame

namespace Security
variable [SizeWidth] {H : SecurityHost}

/-- Fewer bytes than a prefix, or a valid length with fewer bytes than it announces; nothing while
what arrives is thrown away. -/
structure Unfinished (s : SocketSecuritySession) : Prop where
  buffered : s.buffer.length < prefixSize ∨
    prefixSize ≤ s.buffer.length ∧ leNat (s.buffer.take 4) ≠ 0 ∧
      leNat (s.buffer.take 4) ≤ s.maximumProtectedFrameBytes.val ∧
      s.buffer.length < prefixSize + leNat (s.buffer.take 4)
  discarding : s.discarding = true → s.buffer = []

theorem unfinished_of_more {s : SocketSecuritySession} {rest : Bytes}
    (h : cutEnvelope s.maximumProtectedFrameBytes.val rest = .more) (hs : s.discarding = false) :
    Unfinished { s with buffer := rest } := by
  refine ⟨?_, fun hd => absurd (hs.symm.trans hd) (by decide)⟩
  unfold cutEnvelope at h
  dsimp only at h
  split_ifs at h with hshort hinvalid hpart
  · exact .inl hshort
  · have hle : sizeAdd prefixSize (leNat (rest.take 4)) ≤ prefixSize + leNat (rest.take 4) :=
      Nat.mod_le _ _
    obtain ⟨hpos, hmaximum⟩ := not_or.mp hinvalid
    exact .inr ⟨not_lt.mp hshort, hpos, not_lt.mp hmaximum, hpart.trans_le hle⟩

theorem Unfinished.length_lt {s : SocketSecuritySession} (h : Unfinished s) :
    s.buffer.length < s.maximumProtectedFrameBytes.val + prefixSize := by
  rcases h.buffered with hshort | ⟨-, -, hmaximum, hpart⟩ <;> omega

theorem Unfinished.feed {s : SocketSecuritySession} (h : Unfinished s) (data : Bytes)
    (x : Exterior H) : Unfinished (Security.feed data s x).2.1 := by
  unfold Security.feed
  split_ifs with hdiscarding
  · exact h
  · have hs : s.discarding = false := Bool.eq_false_of_not_eq_true hdiscarding
    generalize hdrain : (envelopeFramer s.maximumProtectedFrameBytes.val).drain
      (processEnvelope s) (s.buffer ++ data) x = r
    obtain ⟨(_ | _) | rest, y⟩ := r
    · exact ⟨.inl (by norm_num [prefixSize]), fun _ => rfl⟩
    · exact h
    · exact unfinished_of_more (Framer.cut_of_drain_ok hdrain) hs

theorem Unfinished.reset (s : SocketSecuritySession) (x : Exterior H) :
    Unfinished (Security.reset s x).1 where
  buffered := .inl (by norm_num [Security.reset, prefixSize])
  discarding _ := rfl

/-- One call on a session and its outside. -/
def call (y : SocketSecuritySession × Exterior H) :
    FramerCall → SocketSecuritySession × Exterior H
  | .feed data => (Security.feed data y.1 y.2).2
  | .reset => Security.reset y.1 y.2

theorem Unfinished.calls {s : SocketSecuritySession} (h : Unfinished s) (x : Exterior H)
    (calls : List FramerCall) : Unfinished (run call (s, x) calls).1 := by
  refine run_induction (P := fun y : SocketSecuritySession × Exterior H => Unfinished y.1) ?_ h calls
  rintro ⟨s, x⟩ (data | _) h
  · exact h.feed data x
  · exact Unfinished.reset s x

theorem maximum_call (y : SocketSecuritySession × Exterior H) (c : FramerCall) :
    (call y c).1.maximumProtectedFrameBytes = y.1.maximumProtectedFrameBytes := by
  cases c with
  | feed data =>
    unfold call Security.feed
    dsimp only
    split_ifs
    · rfl
    · split <;> rfl
  | reset => rfl

theorem maximum_calls (y : SocketSecuritySession × Exterior H) (calls : List FramerCall) :
    (run call y calls).1.maximumProtectedFrameBytes = y.1.maximumProtectedFrameBytes :=
  run_induction
    (P := fun z : SocketSecuritySession × Exterior H =>
      z.1.maximumProtectedFrameBytes = y.1.maximumProtectedFrameBytes)
    (fun z c h => (maximum_call z c).trans h) rfl calls

end Security

namespace Command
variable [SizeWidth] {Value : Type} [CommandLibrary Value] {H : CommandHost Value}
namespace SocketCommandSession

/-- A line without its end, within the limit, and nothing while a line is thrown away; a part of a
length, or less than a pending length that the session accepts. -/
structure Unfinished (s : SocketCommandSession H) : Prop where
  line : s.line.length ≤ s.config.maximumRequestBytes.val
  no_cr : cr ∉ s.line
  no_lf : lf ∉ s.line
  discarding : s.discardUntilNewline = true → s.line = []
  structured : s.expectedStructuredBytes = 0 ∧ s.structured.length < 4 ∨
    Announces s.config.maximumRequestBytes.val s.expectedStructuredBytes ∧
      s.structured.length < s.expectedStructuredBytes

theorem unfinished_empty {s : SocketCommandSession H} (hline : s.line = [])
    (hstructured : s.structured = []) (hexpected : s.expectedStructuredBytes = 0) :
    s.Unfinished where
  line := by rw [hline]; exact Nat.zero_le _
  no_cr := by simp [hline]
  no_lf := by simp [hline]
  discarding _ := hline
  structured := .inl ⟨hexpected, by rw [hstructured]; norm_num⟩

/-- An empty line keeps what is buffered of a request. -/
theorem Unfinished.clearLine {s : SocketCommandSession H} (h : s.Unfinished) (discard : Bool)
    (metadata : SocketCommandMetadata) :
    Unfinished { s with line := [], discardUntilNewline := discard, metadata } where
  line := Nat.zero_le _
  no_cr := by simp
  no_lf := by simp
  discarding _ := rfl
  structured := h.structured

theorem Unfinished.pushChar {s : SocketCommandSession H} (h : s.Unfinished) {c : UInt8}
    (hcr : c ≠ cr) (hlf : c ≠ lf) (hkeep : ¬ s.discardUntilNewline = true)
    (hroom : ¬ s.config.maximumRequestBytes.val ≤ s.line.length) :
    Unfinished { s with line := s.line ++ [c] } where
  line := by
    rw [List.length_append]
    exact not_le.mp hroom
  no_cr := by simpa [h.no_cr] using hcr.symm
  no_lf := by simpa [h.no_lf] using hlf.symm
  discarding hd := absurd hd hkeep
  structured := h.structured

theorem Unfinished.feedLine {s : SocketCommandSession H} (h : s.Unfinished) (data : Bytes)
    (success : Bool) (x : Exterior H) : (feedLine data success s x).2.1.Unfinished := by
  induction data generalizing success s x with
  | nil => exact h
  | cons c data ih =>
    unfold SocketCommandSession.feedLine
    dsimp only
    split_ifs with hcr hlf hdiscard hdisconnect hskip hfull
    · exact ih h success x
    · exact h.clearLine false s.metadata
    · exact ih (h.clearLine false s.metadata) _ _
    · exact ih (h.clearLine s.discardUntilNewline _) _ _
    · exact ih h success x
    · exact ih (h.clearLine true s.metadata) success x
    · exact ih (h.pushChar hcr hlf hskip hfull) success x

theorem config_feedLine (data : Bytes) (success : Bool) (s : SocketCommandSession H)
    (x : Exterior H) : (feedLine data success s x).2.1.config = s.config := by
  induction data generalizing success s x with
  | nil => rfl
  | cons c data ih =>
    unfold SocketCommandSession.feedLine
    dsimp only
    split_ifs <;> first | rfl | exact ih _ _ _

/-- The line and the limits of a session, which the structured path leaves alone. -/
structure SameLine (s s' : SocketCommandSession H) : Prop where
  config : s'.config = s.config
  line : s'.line = s.line
  discarding : s'.discardUntilNewline = s.discardUntilNewline

theorem Unfinished.of_sameLine {s s' : SocketCommandSession H} (h : s.Unfinished)
    (hsame : SameLine s s')
    (hstructured : s'.expectedStructuredBytes = 0 ∧ s'.structured.length < 4 ∨
      Announces s'.config.maximumRequestBytes.val s'.expectedStructuredBytes ∧
        s'.structured.length < s'.expectedStructuredBytes) : s'.Unfinished where
  line := by
    rw [hsame.line, hsame.config]
    exact h.line
  no_cr := by
    rw [hsame.line]
    exact h.no_cr
  no_lf := by
    rw [hsame.line]
    exact h.no_lf
  discarding hd := by
    rw [hsame.line]
    exact h.discarding (hsame.discarding.symm.trans hd)
  structured := hstructured

/-- What is parked of a request that is not complete. -/
theorem structured_park {s : SocketCommandSession H} {rest : Bytes}
    (h : cutRequest s.config.maximumRequestBytes.val rest = .more)
    (metadata : SocketCommandMetadata) :
    let s' := s.park rest metadata
    s'.expectedStructuredBytes = 0 ∧ s'.structured.length < 4 ∨
      Announces s'.config.maximumRequestBytes.val s'.expectedStructuredBytes ∧
        s'.structured.length < s'.expectedStructuredBytes := by
  unfold cutRequest at h
  dsimp only at h
  unfold park
  split_ifs at h ⊢ with hshort hinvalid hpart
  · exact .inl ⟨rfl, hshort⟩
  · obtain ⟨hpos, hmaximum⟩ := not_or.mp hinvalid
    have hlt := beNat_lt (rest.take 4)
    have htake : (rest.take 4).length = 4 := by
      rw [List.length_take]
      omega
    rw [htake] at hlt
    refine .inr ⟨⟨hpos, not_lt.mp hmaximum, hlt⟩, ?_⟩
    dsimp only
    rw [List.length_drop]
    omega

/-- The end of the structured path leaves what it is given, or nothing. -/
theorem Unfinished.settle {s : SocketCommandSession H} (h : s.Unfinished) (success : Bool)
    (x : Exterior H) :
    (settle success s x).2.1.Unfinished ∧ SameLine s (settle success s x).2.1 := by
  have hcleared : SameLine s { s with structured := [], expectedStructuredBytes := 0 } :=
    ⟨rfl, rfl, rfl⟩
  unfold SocketCommandSession.settle
  split_ifs
  · exact ⟨h.of_sameLine hcleared (.inl ⟨rfl, by norm_num⟩), hcleared⟩
  · exact ⟨h, ⟨rfl, rfl, rfl⟩⟩

theorem Unfinished.feedStructured {s : SocketCommandSession H} (h : s.Unfinished) (data : Bytes)
    (x : Exterior H) :
    (s.feedStructured data x).2.1.Unfinished ∧ SameLine s (s.feedStructured data x).2.1 := by
  unfold SocketCommandSession.feedStructured
  split_ifs
  · exact ⟨h, ⟨rfl, rfl, rfl⟩⟩
  · have hexpecting : Expecting { s with structured := s.structured ++ data } := by
      intro hne
      exact h.structured.elim (fun hzero => absurd hzero.1 hne) fun hpending => hpending.1
    rw [structuredLoop_eq true _ x hexpecting]
    generalize hdrain : (requestFramer s.config.maximumRequestBytes.val).drain _ _ _ = r
    obtain ⟨error | rest, t⟩ := r
    · exact ⟨h.of_sameLine ⟨rfl, rfl, rfl⟩ (.inl ⟨rfl, by norm_num⟩), ⟨rfl, rfl, rfl⟩⟩
    · have hcut := Framer.cut_of_drain_ok hdrain
      have hpark : SameLine s ({ s with structured := s.structured ++ data }.park rest t.2.1) := by
        unfold park
        split_ifs <;> exact ⟨rfl, rfl, rfl⟩
      obtain ⟨hsettled, hsame⟩ :=
        (h.of_sameLine hpark (structured_park hcut t.2.1)).settle t.1 t.2.2
      exact ⟨hsettled, hsame.config.trans hpark.config, hsame.line.trans hpark.line,
        hsame.discarding.trans hpark.discarding⟩

theorem Unfinished.feed {s : SocketCommandSession H} (h : s.Unfinished) (data : Bytes)
    (x : Exterior H) :
    (s.feed data x).2.1.Unfinished ∧ (s.feed data x).2.1.config = s.config := by
  unfold SocketCommandSession.feed
  split_ifs
  · exact ⟨h, rfl⟩
  · cases s.config.mode with
    | line => exact ⟨h.feedLine data true x, config_feedLine data true s x⟩
    | structuredBinary =>
      obtain ⟨hfed, hsame⟩ := h.feedStructured data x
      exact ⟨hfed, hsame.config⟩

/-- One call on a session and its outside. -/
def call (y : SocketCommandSession H × Exterior H) :
    FramerCall → SocketCommandSession H × Exterior H
  | .feed data => (y.1.feed data y.2).2
  | .reset => (y.1.resetInput, y.2)

theorem Unfinished.calls {s : SocketCommandSession H} (h : s.Unfinished) (x : Exterior H)
    (calls : List FramerCall) :
    (run call (s, x) calls).1.Unfinished ∧ (run call (s, x) calls).1.config = s.config := by
  refine run_induction
    (P := fun y : SocketCommandSession H × Exterior H => y.1.Unfinished ∧ y.1.config = s.config) ?_
    ⟨h, rfl⟩ calls
  rintro ⟨s', x⟩ (data | _) ⟨h, hconfig⟩
  · obtain ⟨hfed, hsame⟩ := h.feed data x
    exact ⟨hfed, hsame.trans hconfig⟩
  · exact ⟨unfinished_empty rfl rfl rfl, hconfig⟩

theorem unfinished_initializeWith (registry : H.Registry) (config : SocketCommandSessionConfig)
    (metadata : SocketCommandMetadata) (writer : Option H.Writer) (s : SocketCommandSession H) :
    (s.initializeWith registry config metadata writer).2.Unfinished := by
  unfold initializeWith
  dsimp only
  split_ifs <;> exact unfinished_empty rfl rfl rfl

theorem Unfinished.length_structured {s : SocketCommandSession H} (h : s.Unfinished) :
    s.structured.length < s.config.maximumRequestBytes.val + 4 := by
  rcases h.structured with ⟨-, hshort⟩ | ⟨hannounced, hpart⟩
  · omega
  · have hmaximum := hannounced.le_maximum
    omega

end SocketCommandSession
end Command

/-- Whatever a framer is fed and however often it is reset, it buffers less than one frame that it
would take, and so no more than its configured limit and a header. -/
theorem bounded_residue [SizeWidth] {σ : Type*} (cb : Bytes → σ → σ) (s : σ) (maximum : SizeT)
    {G : Security.SecurityHost} (secure : Security.SocketSecuritySession)
    (y : Security.Exterior G) {Value : Type} [Command.CommandLibrary Value]
    {H : Command.CommandHost Value} (command : Command.SocketCommandSession H)
    (registry : H.Registry) (config : Command.SocketCommandSessionConfig)
    (metadata : Command.SocketCommandMetadata) (writer : Option H.Writer)
    (x : Command.Exterior H) (calls : List FramerCall) :
    let state := (run (Frame.SocketStateFrameDecoder.call cb) (⟨maximum, []⟩, s) calls).1
    let event := (run (Frame.SocketEventFrameDecoder.call cb) ({}, s) calls).1
    let secured := (run Security.call ((Security.reset secure y).1, y) calls).1
    let opened := (command.initializeWith registry config metadata writer).2
    let commanded := (run Command.SocketCommandSession.call (opened, x) calls).1
    (Frame.Unfinished Frame.stateMagic maximum.val state.buffer ∧
      state.buffer.length < maximum.val + Frame.headerSize) ∧
    (Frame.Unfinished Frame.eventMagic Frame.maxEventPacketSize event.buffer ∧
      event.buffer.length < Frame.maxEventPacketSize + Frame.headerSize) ∧
    (Security.Unfinished secured ∧
      secured.buffer.length < secure.maximumProtectedFrameBytes.val + Security.prefixSize) ∧
    commanded.Unfinished ∧ commanded.line.length ≤ opened.config.maximumRequestBytes.val ∧
      commanded.structured.length < opened.config.maximumRequestBytes.val + 4 := by
  intro state event secured opened commanded
  have hstate := Frame.SocketStateFrameDecoder.unfinished_calls cb maximum s calls
  have hevent := Frame.SocketEventFrameDecoder.unfinished_calls cb s calls
  have hsecure : Security.Unfinished secured := (Security.Unfinished.reset secure y).calls y calls
  have hmaximum : secured.maximumProtectedFrameBytes = secure.maximumProtectedFrameBytes :=
    Security.maximum_calls _ calls
  obtain ⟨hcommand, hconfig⟩ : commanded.Unfinished ∧ commanded.config = opened.config :=
    (Command.SocketCommandSession.unfinished_initializeWith registry config metadata writer
      command).calls x calls
  refine ⟨⟨hstate, hstate.length_lt⟩, ⟨hevent, hevent.length_lt⟩, ⟨hsecure, ?_⟩, hcommand, ?_, ?_⟩
  · rw [← hmaximum]
    exact hsecure.length_lt
  · rw [← hconfig]
    exact hcommand.line
  · rw [← hconfig]
    exact hcommand.length_structured

end Sockets
