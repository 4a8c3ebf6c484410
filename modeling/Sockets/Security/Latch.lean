import Sockets.Foundation.Chunking
import Sockets.Security.Stream

/-! What `Feed` makes of any byte stream: the envelopes up to the first invalid length, one fault
for it, and then nothing until `Reset`. -/
namespace Sockets.Security
open Foundation

/-- The length field at the front of a buffer that holds a whole prefix. -/
def lengthField (bs : Bytes) : ℕ := leNat (bs.take 4)

/-- An envelope whose length a session with this limit accepts. -/
structure Acceptable (maximum : ℕ) (frame : UInt8 × Bytes) : Prop where
  nonempty : frame.2 ≠ []
  le_maximum : frame.2.length ≤ maximum
  lt_uint32 : frame.2.length < 2 ^ 32

/-- A stream read from its beginning: its envelopes up to the first length that is zero or above the
limit, and whether there is one. -/
inductive EnvelopeParses (maximum : ℕ) : Bytes → List (UInt8 × Bytes) → Bool → Prop
  | short {bs : Bytes} (h : bs.length < prefixSize) : EnvelopeParses maximum bs [] false
  | incomplete {bs : Bytes} (hlength : prefixSize ≤ bs.length) (hpos : lengthField bs ≠ 0)
      (hmax : lengthField bs ≤ maximum) (h : bs.length < prefixSize + lengthField bs) :
      EnvelopeParses maximum bs [] false
  | invalid {bs : Bytes} (hlength : prefixSize ≤ bs.length)
      (h : lengthField bs = 0 ∨ maximum < lengthField bs) : EnvelopeParses maximum bs [] true
  | frame {frame : UInt8 × Bytes} (hframe : Acceptable maximum frame) {rest : Bytes}
      {frames : List (UInt8 × Bytes)} {bad : Bool} (h : EnvelopeParses maximum rest frames bad) :
      EnvelopeParses maximum (encodeEnvelope frame ++ rest) (frame :: frames) bad

section Overrun
variable [SizeWidth]

/-- Some length at an envelope boundary is accepted and takes `5 + length` past `std::size_t`. -/
inductive Overruns (maximum : ℕ) : Bytes → Prop
  | here {bs : Bytes} (hlength : prefixSize ≤ bs.length) (hmax : lengthField bs ≤ maximum)
      (h : 2 ^ SizeWidth.bits ≤ prefixSize + lengthField bs) : Overruns maximum bs
  | later {frame : UInt8 × Bytes} (hframe : Acceptable maximum frame)
      (hsum : prefixSize + frame.2.length < 2 ^ SizeWidth.bits) {rest : Bytes}
      (h : Overruns maximum rest) : Overruns maximum (encodeEnvelope frame ++ rest)

variable {maximum : ℕ}

omit [SizeWidth] in
theorem lengthField_lt (bs : Bytes) : lengthField bs < 2 ^ 32 := by
  have hlt := leNat_lt (bs.take 4)
  have hle : (bs.take 4).length ≤ 4 := List.length_take_le _ _
  calc lengthField bs < 256 ^ (bs.take 4).length := hlt
    _ ≤ 256 ^ 4 := Nat.pow_le_pow_right (by norm_num) hle
    _ = 2 ^ 32 := by norm_num

omit [SizeWidth] in
theorem lengthField_encode {frame : UInt8 × Bytes} (h : frame.2.length < 2 ^ 32) (ys : Bytes) :
    lengthField (encodeEnvelope frame ++ ys) = frame.2.length := by
  have htake : (encodeEnvelope frame ++ ys).take 4 = leBytes 4 frame.2.length := by
    simp [encodeEnvelope]
  rw [lengthField, htake, leNat_leBytes 4 _ (by omega)]

theorem cut_incomplete {bs : Bytes} (hlength : prefixSize ≤ bs.length) (hpos : lengthField bs ≠ 0)
    (hmax : lengthField bs ≤ maximum) (hsum : prefixSize + lengthField bs < 2 ^ SizeWidth.bits)
    (h : bs.length < prefixSize + lengthField bs) : cutEnvelope maximum bs = .more := by
  rw [cutEnvelope, ← lengthField]
  dsimp only
  rw [sizeAdd_eq hsum, if_neg (not_lt.mpr hlength),
    if_neg (not_or.mpr ⟨hpos, not_lt.mpr hmax⟩), if_pos h]

theorem cut_invalid {bs : Bytes} (hlength : prefixSize ≤ bs.length)
    (h : lengthField bs = 0 ∨ maximum < lengthField bs) :
    cutEnvelope maximum bs = .fail .invalidLength := by
  rw [cutEnvelope, ← lengthField, if_neg (by omega)]
  exact if_pos h

/-- The sum comes out below the five bytes that are there. -/
theorem cut_wrapped {bs : Bytes} (hlength : prefixSize ≤ bs.length)
    (hmax : lengthField bs ≤ maximum) (hsum : 2 ^ SizeWidth.bits ≤ prefixSize + lengthField bs) :
    cutEnvelope maximum bs = .fail .outOfBounds := by
  have hlt : lengthField bs < 2 ^ SizeWidth.bits := uint32_lt_size (lengthField_lt bs)
  have hfive : prefixSize < 2 ^ SizeWidth.bits := uint32_lt_size (by norm_num [prefixSize])
  have hwrapped : sizeAdd prefixSize (lengthField bs) < prefixSize := by
    rw [sizeAdd, Nat.mod_eq_sub_mod hsum, Nat.mod_eq_of_lt (by omega)]
    omega
  rw [cutEnvelope, ← lengthField]
  dsimp only
  rw [if_neg (by omega), if_neg (by omega), if_neg (by omega), if_pos (by omega)]

omit [SizeWidth] in
/-- A whole envelope at the front of a buffer. -/
theorem exists_acceptable {bs : Bytes} (hlength : prefixSize ≤ bs.length)
    (hpos : lengthField bs ≠ 0) (hmax : lengthField bs ≤ maximum)
    (h : prefixSize + lengthField bs ≤ bs.length) :
    ∃ frame rest, bs = encodeEnvelope frame ++ rest ∧ Acceptable maximum frame ∧
      frame.2.length = lengthField bs := by
  have hlt := lengthField_lt bs
  obtain ⟨front, rest, rfl, hfront⟩ :
      ∃ front rest, bs = front ++ rest ∧ front.length = prefixSize + lengthField bs :=
    ⟨_, _, (List.take_append_drop _ bs).symm, List.length_take_of_le h⟩
  obtain ⟨b0, b1, b2, b3, protocol, body, rfl⟩ :
      ∃ b0 b1 b2 b3 protocol body, front = b0 :: b1 :: b2 :: b3 :: protocol :: body := by
    unfold prefixSize at hfront
    match front, hfront with
    | b0 :: b1 :: b2 :: b3 :: protocol :: body, _ => exact ⟨b0, b1, b2, b3, protocol, body, rfl⟩
    | [_, _, _, _], h | [_, _, _], h | [_, _], h | [_], h | [], h =>
      simp only [List.length_cons, List.length_nil] at h
      omega
  have hbody : body.length = lengthField (b0 :: b1 :: b2 :: b3 :: protocol :: body ++ rest) := by
    simp only [List.length_cons, prefixSize] at hfront
    omega
  have hfield : leBytes 4 body.length = [b0, b1, b2, b3] := by
    rw [hbody]
    exact leBytes_leNat [b0, b1, b2, b3]
  refine ⟨(protocol, body), rest, ?_, ⟨?_, hbody ▸ hmax, hbody ▸ hlt⟩, hbody⟩
  · simp [encodeEnvelope, hfield]
  · rintro rfl
    exact hpos (hbody ▸ rfl)

/-- A stream that overruns ends the loop with a read past the buffer. -/
theorem Overruns.leftover {bs : Bytes} (h : Overruns maximum bs) :
    (envelopeFramer maximum).leftover bs = .error .outOfBounds := by
  induction h with
  | here hlength hmax hsum =>
    have hcut := cut_wrapped hlength hmax hsum
    rw [← envelopeFramer_cut] at hcut
    rw [Framer.leftover, Framer.drain_fail _ hcut]
  | @later frame hframe hsum rest _ ih =>
    have hcut := cut_encodeEnvelope hframe.nonempty hframe.le_maximum hframe.lt_uint32 hsum rest
    rw [← envelopeFramer_cut] at hcut
    rw [Framer.leftover_of_frame hcut, ih]

/-- Only a limit that near the end of `std::size_t` lets a stream overrun. -/
theorem Overruns.limit {bs : Bytes} (h : Overruns maximum bs) :
    2 ^ SizeWidth.bits ≤ prefixSize + maximum := by
  induction h with
  | here _ hmax hsum => omega
  | later _ _ _ ih => exact ih

/-- The outcome of a stream in a session. -/
def Outcome (maximum : ℕ) (bs : Bytes) (frames : List (UInt8 × Bytes)) (bad : Bool) : Prop :=
  frames = (envelopeFramer maximum).frames bs ∧
    if bad then (envelopeFramer maximum).leftover bs = .error .invalidLength
    else ∃ rest, (envelopeFramer maximum).leftover bs = .ok rest

/-- A reading of a stream that does not overrun is what the loop delivers. -/
theorem EnvelopeParses.outcome {bs : Bytes} {frames : List (UInt8 × Bytes)} {bad : Bool}
    (h : EnvelopeParses maximum bs frames bad) (hsafe : ¬ Overruns maximum bs) :
    Outcome maximum bs frames bad := by
  have hmore {bs : Bytes} (hcut : (envelopeFramer maximum).cut bs = .more) :
      Outcome maximum bs [] false := by
    have hleft : (envelopeFramer maximum).leftover bs = .ok bs := by
      rw [Framer.leftover, Framer.drain_more _ hcut]
    exact ⟨(Framer.drain_of_more hcut).2.symm, bs, hleft⟩
  induction h with
  | @short bs h =>
    apply hmore
    rw [envelopeFramer_cut, cutEnvelope]
    exact if_pos h
  | @incomplete bs hlength hpos hmax h =>
    refine hmore (cut_incomplete hlength hpos hmax ?_ h)
    by_contra hsum
    exact hsafe (.here hlength hmax (not_lt.mp hsum))
  | invalid hlength h =>
    have hcut := cut_invalid hlength h
    rw [← envelopeFramer_cut] at hcut
    refine ⟨(Framer.drain_of_fail hcut).2.symm, ?_⟩
    rw [if_pos rfl, Framer.leftover, Framer.drain_fail _ hcut]
  | @frame frame hframe rest frames bad _ ih =>
    have hlength : prefixSize ≤ (encodeEnvelope frame ++ rest).length := by
      rw [List.length_append, length_encodeEnvelope]
      omega
    have hfield := lengthField_encode hframe.lt_uint32 rest
    have hsum : prefixSize + frame.2.length < 2 ^ SizeWidth.bits := by
      by_contra hsum
      exact hsafe (.here hlength (hfield ▸ hframe.le_maximum) (hfield ▸ not_lt.mp hsum))
    have hcut := cut_encodeEnvelope hframe.nonempty hframe.le_maximum hframe.lt_uint32 hsum rest
    rw [← envelopeFramer_cut] at hcut
    obtain ⟨hframes, hleft⟩ := ih (fun hrest => hsafe (.later hframe hsum hrest))
    constructor
    · rw [hframes, (Framer.drain_of_frame hcut).2]
    · rwa [Framer.leftover_of_frame hcut]

omit [SizeWidth] in
theorem exists_envelopeParses (maximum : ℕ) (bs : Bytes) :
    ∃ frames bad, EnvelopeParses maximum bs frames bad := by
  induction hn : bs.length using Nat.strong_induction_on generalizing bs with
  | _ n ih =>
    by_cases hlength : prefixSize ≤ bs.length
    · by_cases hvalid : lengthField bs ≠ 0 ∧ lengthField bs ≤ maximum
      · by_cases hpart : bs.length < prefixSize + lengthField bs
        · exact ⟨_, _, .incomplete hlength hvalid.1 hvalid.2 hpart⟩
        · obtain ⟨frame, rest, rfl, hframe, -⟩ :=
            exists_acceptable hlength hvalid.1 hvalid.2 (not_lt.mp hpart)
          have hshorter : rest.length < n := by
            rw [← hn, List.length_append, length_encodeEnvelope]
            unfold prefixSize
            omega
          obtain ⟨frames, bad, h⟩ := ih rest.length hshorter rest rfl
          exact ⟨_, _, .frame hframe h⟩
      · refine ⟨_, _, .invalid hlength ?_⟩
        by_contra hne
        exact hvalid ⟨fun h0 => hne (.inl h0), not_lt.mp fun hlt => hne (.inr hlt)⟩
    · exact ⟨_, _, .short (not_le.mp hlength)⟩

/-- The outcome of a stream is one reading. -/
theorem Outcome.unique {bs : Bytes} {frames frames' : List (UInt8 × Bytes)} {bad bad' : Bool}
    (h : Outcome maximum bs frames bad) (h' : Outcome maximum bs frames' bad') :
    frames' = frames ∧ bad' = bad := by
  refine ⟨h'.1.trans h.1.symm, ?_⟩
  have hleft := h.2
  have hleft' := h'.2
  cases bad <;> cases bad' <;> simp_all

end Overrun

section Feed
variable {H : SecurityHost} [SizeWidth]

def fresh (s : SocketSecuritySession) : SocketSecuritySession :=
  { s with buffer := [], discarding := false }

/-- A session that has seen an invalid length. -/
def latched (s : SocketSecuritySession) : SocketSecuritySession :=
  { s with buffer := [], discarding := true }

/-- The envelopes of a stream go through `Unprotect` one after the other. -/
def processAll (s : SocketSecuritySession) (frames : List (UInt8 × Bytes)) (x : Exterior H) :
    Exterior H :=
  frames.foldl (fun x frame => processEnvelope s frame x) x

/-- The one fault that is published for an invalid length. -/
def publishFault (s : SocketSecuritySession) (x : Exterior H) : Exterior H :=
  publishFailure s (H.fail .bufferLimitExceeded invalidLength) x

theorem feedAll_latched (s : SocketSecuritySession) (chunks : List Bytes) (x : Exterior H) :
    feedAll chunks (latched s) x = (List.replicate chunks.length (some false), latched s, x) := by
  induction chunks with
  | nil => rfl
  | cons chunk chunks ih =>
    have hfeed : feed chunk (latched s) x = (some false, latched s, x) := rfl
    rw [feedAll, hfeed, ih]
    rfl

theorem reset_latched (s : SocketSecuritySession) (x : Exterior H) :
    (reset (latched s) x).1 = fresh s := rfl

/-- One `Feed` of a session that has not seen an invalid length. -/
theorem feed_eq (s : SocketSecuritySession) (buffer chunk : Bytes) (x : Exterior H) :
    feed chunk { fresh s with buffer } x =
      let y := processAll s ((envelopeFramer s.maximumProtectedFrameBytes.val).frames
        (buffer ++ chunk)) x
      match (envelopeFramer s.maximumProtectedFrameBytes.val).leftover (buffer ++ chunk) with
      | .ok rest => (some true, { fresh s with buffer := rest }, y)
      | .error .invalidLength => (some false, latched s, publishFault s y)
      | .error .outOfBounds => (none, { fresh s with buffer }, y) := by
  have hsame (s' : SocketSecuritySession) (hreceive : s'.receive = s.receive)
      (hfailure : s'.failure = s.failure) : processEnvelope (H := H) s' = processEnvelope s := by
    funext frame x
    simp only [processEnvelope, publishFailure, hreceive, hfailure]
  unfold feed
  rw [hsame { fresh s with buffer } rfl rfl, Framer.drain_leftover]
  simp only [fresh, Bool.false_eq_true, if_false, processAll]
  cases Framer.leftover _ (buffer ++ chunk) with
  | ok rest => rfl
  | error e => cases e <;> rfl

/-- What `n` calls of `Feed` come to when their bytes leave this over. -/
def Settles (s : SocketSecuritySession) (left : Except FeedError Bytes) (y : Exterior H) (n : ℕ)
    (r : List (Option Bool) × SocketSecuritySession × Exterior H) : Prop :=
  match left with
  | .ok rest => r = (List.replicate n (some true), { fresh s with buffer := rest }, y)
  | .error .invalidLength => ∃ k < n, r =
      (List.replicate k (some true) ++ List.replicate (n - k) (some false), latched s,
        publishFault s y)
  | .error .outOfBounds => none ∈ r.1

/-- A call that goes well in front of the others. -/
theorem Settles.cons {s : SocketSecuritySession} {left : Except FeedError Bytes} {y : Exterior H}
    {n : ℕ} {r : List (Option Bool) × SocketSecuritySession × Exterior H}
    (h : Settles s left y n r) : Settles s left y (n + 1) (some true :: r.1, r.2) := by
  match left, h with
  | .ok rest, h =>
    obtain rfl : r = _ := h
    rfl
  | .error .invalidLength, h =>
    obtain ⟨k, hk, rfl⟩ := h
    refine ⟨k + 1, by omega, ?_⟩
    rw [Nat.add_sub_add_right, List.replicate_succ]
    rfl
  | .error .outOfBounds, h => exact List.mem_cons_of_mem _ h

/-- A sequence of `Feed` calls, in terms of the bytes alone. -/
theorem feedAll_settles (s : SocketSecuritySession) {buffer : Bytes}
    (hmore : cutEnvelope s.maximumProtectedFrameBytes.val buffer = .more) (chunks : List Bytes)
    (x : Exterior H) :
    Settles s
      ((envelopeFramer s.maximumProtectedFrameBytes.val).leftover (buffer ++ chunks.flatten))
      (processAll s ((envelopeFramer s.maximumProtectedFrameBytes.val).frames
        (buffer ++ chunks.flatten)) x)
      chunks.length (feedAll chunks { fresh s with buffer } x) := by
  induction chunks generalizing buffer x with
  | nil =>
    have hleft : (envelopeFramer s.maximumProtectedFrameBytes.val).leftover buffer =
        .ok buffer := by
      rw [Framer.leftover, Framer.drain_more _ hmore]
    have hframes := (Framer.drain_of_more (F := envelopeFramer _) hmore).2
    rw [List.flatten_nil, List.append_nil, hleft, hframes]
    rfl
  | cons chunk chunks ih =>
    have hfeed := feed_eq s buffer chunk x
    rw [List.flatten_cons, ← List.append_assoc]
    cases hleft : (envelopeFramer s.maximumProtectedFrameBytes.val).leftover (buffer ++ chunk) with
    | ok rest =>
      obtain ⟨hjoin, hframes⟩ := Framer.leftover_append hleft chunks.flatten
      rw [hleft] at hfeed
      have hrest := (ih (Framer.cut_leftover hleft) (processAll s
        ((envelopeFramer s.maximumProtectedFrameBytes.val).frames (buffer ++ chunk)) x)).cons
      rw [feedAll, hfeed, hjoin, hframes, processAll, List.foldl_append]
      exact hrest
    | error e =>
      obtain ⟨hjoin, hframes⟩ := Framer.leftover_append_error hleft chunks.flatten
      rw [hleft] at hfeed
      rw [hjoin, hframes, feedAll, hfeed]
      cases e with
      | invalidLength =>
        refine ⟨0, by simp, ?_⟩
        simp only [feedAll_latched]
        rfl
      | outOfBounds => exact List.mem_cons_self

/-- The calls made for the envelopes of a stream, one after the other. -/
def openingCalls (s : SocketSecuritySession) (frames : List (UInt8 × Bytes)) (w : H.World) :
    List (SecurityEvent H) :=
  (List.zipWith (envelopeCalls s) frames (unprotectEach s frames w).1).flatten

/-- The calls made for an invalid length. -/
def faultCalls (s : SocketSecuritySession) : List (SecurityEvent H) :=
  (if s.failure then [.failed (H.fail .bufferLimitExceeded invalidLength)] else []) ++
    [.faulted (H.fail .bufferLimitExceeded invalidLength)]

theorem processAll_log (s : SocketSecuritySession) (frames : List (UInt8 × Bytes))
    (x : Exterior H) : (processAll s frames x).log = x.log ++ openingCalls s frames x.world := by
  rw [processAll, processAll_eq]
  rfl

theorem publishFault_log (s : SocketSecuritySession) (frames : List (UInt8 × Bytes))
    (x : Exterior H) : (publishFault s (processAll s frames x)).log =
      x.log ++ openingCalls s frames x.world ++ faultCalls s := by
  rw [publishFault, publishFailure_log, processAll_log]
  rfl

/-- The calls made for a stream depend on its bytes alone: its envelopes in order, up to the first
invalid length; one fault there, and a session that is latched; and every answer given. -/
def ReadsAs (s : SocketSecuritySession) (x : Exterior H) (chunks : List Bytes) : Prop :=
  ∃ frames bad, (∀ frames' bad', EnvelopeParses s.maximumProtectedFrameBytes.val chunks.flatten
      frames' bad' ↔ frames' = frames ∧ bad' = bad) ∧
    (feedAll chunks (fresh s) x).2.2.log =
      x.log ++ openingCalls s frames x.world ++ (if bad then faultCalls s else []) ∧
    if bad then ∃ k < chunks.length, feedAll chunks (fresh s) x =
      (List.replicate k (some true) ++ List.replicate (chunks.length - k) (some false), latched s,
        publishFault s (processAll s frames x))
    else ∃ rest, feedAll chunks (fresh s) x =
      (List.replicate chunks.length (some true), { fresh s with buffer := rest },
        processAll s frames x)

/-- Whatever comes, and however it is cut, a session makes the calls of its stream, as long as no
accepted length takes `5 + length` past `std::size_t`; a latched session does nothing at all until
`Reset`, which leaves it as it was when it was fresh. -/
theorem secure_feed_latches (s : SocketSecuritySession) (x : Exterior H) (stream : Bytes) :
    ((∀ chunks, chunks.flatten = stream → ReadsAs s x chunks) ↔
      ¬ Overruns s.maximumProtectedFrameBytes.val stream) ∧
    (∀ chunks (y : Exterior H), feedAll chunks (latched s) y =
      (List.replicate chunks.length (some false), latched s, y)) ∧
    ∀ y : Exterior H, (reset (latched s) y).1 = fresh s := by
  refine ⟨⟨?_, ?_⟩, feedAll_latched s, reset_latched s⟩
  · intro hreads hover
    have hmore : cutEnvelope s.maximumProtectedFrameBytes.val [] = .more := rfl
    have hsettles := feedAll_settles s hmore [stream] x
    rw [List.nil_append, List.flatten_singleton, hover.leftover] at hsettles
    obtain ⟨frames, bad, -, -, hfeed⟩ := hreads [stream] (List.flatten_singleton)
    cases bad with
    | false =>
      obtain ⟨rest, hfeed⟩ := hfeed
      have hnone : none ∈ (feedAll [stream] (fresh s) x).1 := hsettles
      rw [hfeed] at hnone
      simp at hnone
    | true =>
      obtain ⟨k, -, hfeed⟩ := hfeed
      have hnone : none ∈ (feedAll [stream] (fresh s) x).1 := hsettles
      rw [hfeed] at hnone
      simp at hnone
  · rintro hsafe chunks rfl
    obtain ⟨frames, bad, hparses⟩ :=
      exists_envelopeParses s.maximumProtectedFrameBytes.val chunks.flatten
    have houtcome := hparses.outcome hsafe
    have hmore : cutEnvelope s.maximumProtectedFrameBytes.val [] = .more := rfl
    have hsettles := feedAll_settles s hmore chunks x
    rw [List.nil_append, ← houtcome.1] at hsettles
    refine ⟨frames, bad, fun frames' bad' => ⟨fun h => houtcome.unique (h.outcome hsafe), ?_⟩, ?_⟩
    · rintro ⟨rfl, rfl⟩
      exact hparses
    · have hleft := houtcome.2
      cases bad with
      | false =>
        obtain ⟨rest, hleft⟩ := hleft
        rw [hleft] at hsettles
        have hfeed : feedAll chunks (fresh s) x = _ := hsettles
        refine ⟨?_, rest, hfeed⟩
        rw [hfeed, processAll_log]
        exact (List.append_nil _).symm
      | true =>
        rw [if_pos rfl] at hleft
        rw [hleft] at hsettles
        obtain ⟨k, hk, hfeed⟩ := hsettles
        refine ⟨?_, k, hk, hfeed⟩
        have hlog : (feedAll chunks (fresh s) x).2.2.log = _ :=
          congrArg (fun r => r.2.2.log) hfeed
        rw [hlog, publishFault_log]
        rfl

end Feed

/-- A session of a 32-bit target without a limit of its own is fed a length of 2³² − 1 and a
protocol byte: an envelope of which nothing has come yet, and a read past the buffer. -/
theorem unlimited_session_overruns :
    letI := SizeWidth.esp32
    let s : SocketSecuritySession := { writer := true, receive := true, failure := true
                                       maximumProtectedFrameBytes := sizeConstant 0xFFFFFFFF }
    EnvelopeParses s.maximumProtectedFrameBytes.val [255, 255, 255, 255, 12] [] false ∧
      (feedAll (H := plainHost) [[255, 255, 255, 255], [12]] s { world := () }).1 =
        [some true, none] ∧
      ¬ ∀ chunks, chunks.flatten = [255, 255, 255, 255, 12] →
        ReadsAs (H := plainHost) s { world := () } chunks := by
  let _ := SizeWidth.esp32
  refine ⟨.incomplete (by decide) (by decide) (by decide) (by decide), by decide +kernel, ?_⟩
  rw [(secure_feed_latches _ _ _).1, not_not]
  exact .here (by decide) (by decide) (by decide)

end Sockets.Security
