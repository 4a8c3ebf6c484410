import Sockets.Security.Session

/-! What one session sends, another one receives: the envelopes come out of the byte stream in
order and once each, however it is cut into chunks and whatever becomes of each envelope. -/
namespace Sockets.Security
open Foundation Framer

variable {H : SecurityHost}

/-- The envelope a successful write put on the wire. -/
def SecurityEvent.sent? : SecurityEvent H → Option (UInt8 × Bytes)
  | .wrote protocol protectedBytes _ true => some (protocol, protectedBytes)
  | _ => none

/-- The bytes a successful write put on the wire. -/
def SecurityEvent.wire? : SecurityEvent H → Option Bytes
  | .wrote _ _ frame true => some frame
  | _ => none

def sentEnvelopes (log : List (SecurityEvent H)) : List (UInt8 × Bytes) :=
  log.filterMap SecurityEvent.sent?

theorem sentEnvelopes_append (log events : List (SecurityEvent H)) :
    sentEnvelopes (log ++ events) = sentEnvelopes log ++ sentEnvelopes events :=
  List.filterMap_append

def wireBytes (log : List (SecurityEvent H)) : Bytes := (log.filterMap SecurityEvent.wire?).flatten

/-- What a session calls after `Unprotect` answered `result` and opened the payload. -/
def reaction [SizeWidth] (s : SocketSecuritySession) (result : H.SecurityResult)
    (opened : H.UnprotectedPayload) : List (SecurityEvent H) :=
  if H.success result then (if s.receive then [.received opened] else [])
  else (if s.failure then [.failed result] else []) ++ [.faulted result]

/-- The calls made for one envelope. -/
def envelopeCalls [SizeWidth] (s : SocketSecuritySession) (frame : UInt8 × Bytes)
    (outcome : H.SecurityResult × H.UnprotectedPayload) : List (SecurityEvent H) :=
  .unprotected frame.1 frame.2 outcome.1 outcome.2 :: reaction s outcome.1 outcome.2

variable [SizeWidth]

theorem publishFailure_log (s : SocketSecuritySession) (result : H.SecurityResult)
    (x : Exterior H) : (publishFailure s result x).log =
      x.log ++ ((if s.failure then [.failed result] else []) ++ [.faulted result]) := by
  unfold publishFailure
  cases s.failure <;> simp

theorem processEnvelope_log (s : SocketSecuritySession) (frame : UInt8 × Bytes) (x : Exterior H) :
    (processEnvelope s frame x).log =
      x.log ++ envelopeCalls s frame (H.unprotect frame.1 frame.2 x.world).1 := by
  unfold processEnvelope envelopeCalls reaction
  by_cases hs : H.success (H.unprotect frame.1 frame.2 x.world).1.1
  · cases s.receive <;> simp [hs]
  · simp [hs, publishFailure_log]

/-- What the callbacks for an envelope make of the world. -/
def reactionWorld (s : SocketSecuritySession)
    (r : (H.SecurityResult × H.UnprotectedPayload) × H.World) : H.World :=
  if H.success r.1.1 then (if s.receive then H.receive r.1.2 r.2 else r.2)
  else H.faulted r.1.1 (if s.failure then H.failure r.1.1 r.2 else r.2)

/-- What `Unprotect` answers to these envelopes, one after another, and the world behind them. -/
def unprotectEach (s : SocketSecuritySession) : List (UInt8 × Bytes) → H.World →
    List (H.SecurityResult × H.UnprotectedPayload) × H.World
  | [], w => ([], w)
  | frame :: frames, w =>
    let r := H.unprotect frame.1 frame.2 w
    let t := unprotectEach s frames (reactionWorld s r)
    (r.1 :: t.1, t.2)

theorem processEnvelope_world (s : SocketSecuritySession) (frame : UInt8 × Bytes)
    (x : Exterior H) : (processEnvelope s frame x).world =
      reactionWorld s (H.unprotect frame.1 frame.2 x.world) := by
  unfold processEnvelope reactionWorld publishFailure
  by_cases hs : H.success (H.unprotect frame.1 frame.2 x.world).1.1
  · cases s.receive <;> simp [hs]
  · cases s.failure <;> simp [hs]

/-- Every envelope is opened once, in order, and its outcome goes to the callback meant for it. -/
theorem processAll_eq (s : SocketSecuritySession) (frames : List (UInt8 × Bytes))
    (x : Exterior H) : frames.foldl (fun x frame => processEnvelope s frame x) x =
      { world := (unprotectEach s frames x.world).2
        log := x.log ++
          (List.zipWith (envelopeCalls s) frames (unprotectEach s frames x.world).1).flatten } := by
  induction frames generalizing x with
  | nil => simp [unprotectEach]
  | cons frame frames ih =>
    simp only [List.foldl_cons, ih, unprotectEach, processEnvelope_log, processEnvelope_world,
      List.zipWith_cons_cons, List.flatten_cons, List.append_assoc]

/-- Protected bytes that `Send` frames and a receiver with this limit accepts. -/
structure Carries (maximum : ℕ) (frame : UInt8 × Bytes) : Prop where
  nonempty : frame.2 ≠ []
  le_maximum : frame.2.length ≤ maximum
  lt_uint32 : frame.2.length < 2 ^ 32 - prefixSize

omit [SizeWidth] in
@[simp] theorem length_encodeEnvelope (frame : UInt8 × Bytes) :
    (encodeEnvelope frame).length = prefixSize + frame.2.length := by
  simp [encodeEnvelope, prefixSize]
  omega

/-- A whole envelope is cut off the front of the buffer. -/
theorem cut_encodeEnvelope {maximum : ℕ} {frame : UInt8 × Bytes} (hne : frame.2 ≠ [])
    (hmax : frame.2.length ≤ maximum) (hlt : frame.2.length < 2 ^ 32)
    (hsum : prefixSize + frame.2.length < 2 ^ SizeWidth.bits) (ys : Bytes) :
    cutEnvelope maximum (encodeEnvelope frame ++ ys) = .frame frame ys := by
  obtain ⟨protocol, body⟩ := frame
  have hpos := List.length_pos_iff.mpr hne
  dsimp only at hpos hmax hlt hsum
  have htake : (encodeEnvelope (protocol, body) ++ ys).take 4 = leBytes 4 body.length := by
    simp [encodeEnvelope]
  have hval : leNat (leBytes 4 body.length) = body.length := leNat_leBytes 4 _ (by omega)
  have hlen : (encodeEnvelope (protocol, body) ++ ys).length =
      prefixSize + body.length + ys.length := by simp
  have hhead : leBytes 4 body.length ++ [protocol] ++ (body ++ ys) =
      encodeEnvelope (protocol, body) ++ ys := by simp [encodeEnvelope]
  have hfive : (leBytes 4 body.length ++ [protocol]).length = prefixSize := by simp [prefixSize]
  have hdrop : (encodeEnvelope (protocol, body) ++ ys).drop prefixSize = body ++ ys := by
    rw [← hhead, ← hfive, List.drop_left]
  have hdrop' : (encodeEnvelope (protocol, body) ++ ys).drop (prefixSize + body.length) = ys := by
    rw [← List.drop_drop, hdrop, List.drop_left]
  have hget : (encodeEnvelope (protocol, body) ++ ys).getD 4 0 = protocol := by
    simp [encodeEnvelope, List.getD_eq_getElem?_getD]
  simp only [cutEnvelope, htake, hval, sizeAdd_eq hsum, hlen]
  rw [if_neg (by omega), if_neg (by omega), if_neg (by omega), if_neg (lt_irrefl _), hdrop,
    hdrop', hget, List.take_left]

theorem encodes_envelope {maximum : ℕ} {frame : UInt8 × Bytes} (h : Carries maximum frame) :
    (envelopeFramer maximum).Encodes encodeEnvelope frame where
  cut_encode ys := by
    have hlt := h.lt_uint32
    rw [envelopeFramer_cut]
    exact cut_encodeEnvelope h.nonempty h.le_maximum (by omega) (uint32_lt_size (by omega)) ys
  cut_prefix {p q} hq hpq := by
    obtain ⟨protocol, body⟩ := frame
    obtain ⟨hne, hmax, hlt⟩ := h
    have hpos := List.length_pos_iff.mpr hne
    have hqpos := List.length_pos_iff.mpr hq
    dsimp only at hpos hmax hlt
    have hlen := congrArg List.length hpq
    simp only [length_encodeEnvelope, List.length_append] at hlen
    rw [envelopeFramer_cut, cutEnvelope]
    by_cases h5 : p.length < prefixSize
    · simp only [h5, if_true]
    · have htake : p.take 4 = leBytes 4 body.length := by
        rw [← take_append_eq_left (not_lt.mp h5) q, ← hpq]
        simp [encodeEnvelope]
      have hval : leNat (leBytes 4 body.length) = body.length :=
        leNat_leBytes 4 _ (by simp only [prefixSize] at hlt; omega)
      have hsum : sizeAdd prefixSize body.length = prefixSize + body.length :=
        sizeAdd_eq (uint32_lt_size (by omega))
      simp only [h5, if_false, htake, hval, hsum,
        show ¬ (body.length = 0 ∨ maximum < body.length) by omega,
        show p.length < prefixSize + body.length by omega, if_true]

/-- The receive loop is the framer's, with no size test in front of it. -/
theorem feedAll_of_framer {chunks : List Bytes} {s : SocketSecuritySession} {x y : Exterior H}
    {buffer rest : Bytes} (hd : s.discarding = false)
    (h : (envelopeFramer s.maximumProtectedFrameBytes.val).feedAll (fun _ _ => true)
      (processEnvelope s) buffer chunks x = (List.replicate chunks.length true, rest, y)) :
    feedAll chunks { s with buffer := buffer } x =
      (List.replicate chunks.length (some true), { s with buffer := rest }, y) := by
  induction chunks generalizing buffer x with
  | nil =>
    cases h
    rfl
  | cons chunk chunks ih =>
    have hcb : processEnvelope (H := H) { s with buffer := buffer } = processEnvelope s := rfl
    simp only [Framer.feedAll, Framer.feed, if_true, List.length_cons, List.replicate_succ] at h
    simp only [feedAll, feed, hd, if_false, List.length_cons, List.replicate_succ,
      Bool.false_eq_true]
    simp only [hd] at hcb
    rw [hcb]
    cases hdrain : (envelopeFramer s.maximumProtectedFrameBytes.val).drain (processEnvelope s)
        (buffer ++ chunk) x with
    | mk outcome z =>
      rw [hdrain] at h
      cases outcome with
      | error e => simp at h
      | ok kept =>
        simp only [Prod.mk.injEq, List.cons.injEq, true_and] at h
        have htail := ih (Prod.ext h.1 h.2)
        simp only [hd] at htail
        simp only [htail]

/-- `Send` frames what `Protect` has answered. -/
def Frames (s : SocketSecuritySession) (r : H.SecurityResult × Bytes) : Prop :=
  s.writer = true ∧ H.success r.1 = true ∧ r.2 ≠ [] ∧
    r.2.length ≤ s.maximumProtectedFrameBytes.val ∧ r.2.length ≤ 0xFFFFFFFF

instance (s : SocketSecuritySession) (r : H.SecurityResult × Bytes) : Decidable (Frames s r) :=
  inferInstanceAs (Decidable (_ ∧ _))

/-- The world behind a call that comes to no frame: the failure has been reported, if there is a
writer. -/
def refusedWorld (s : SocketSecuritySession) (protocol : UInt8) (payload : Bytes) (w : H.World) :
    H.World :=
  if s.writer then
    let r := H.protect protocol payload w
    let result := if H.success r.1.1 then H.fail .bufferLimitExceeded exceedsLimit else r.1.1
    H.faulted result (if s.failure then H.failure result r.2 else r.2)
  else w

/-- The envelopes of the calls that `Protect` and the writer let through, in order: the protocol of
the call, and what `Protect` has made of its payload. -/
def acceptedEnvelopes (s : SocketSecuritySession) :
    List (UInt8 × Bytes) → H.World → List (UInt8 × Bytes)
  | [], _ => []
  | (protocol, payload) :: calls, w =>
    let r := H.protect protocol payload w
    if Frames s r.1 then
      let a := H.writer (encodeEnvelope (protocol, r.1.2)) r.2
      if a.1 then (protocol, r.1.2) :: acceptedEnvelopes s calls a.2
      else acceptedEnvelopes s calls a.2
    else acceptedEnvelopes s calls (refusedWorld s protocol payload w)

theorem send_frames {s : SocketSecuritySession} {protocol : UInt8} {payload : Bytes}
    {x : Exterior H} (h : Frames s (H.protect protocol payload x.world).1) :
    let r := H.protect protocol payload x.world
    let frame := encodeEnvelope (protocol, r.1.2)
    let a := H.writer frame r.2
    (send s protocol payload x).2.2 =
      { world := a.2, log := x.log ++ [.wrote protocol r.1.2 frame a.1] } := by
  obtain ⟨hwriter, hsuccess, hne, hmaximum, hlength⟩ := h
  intro r frame a
  have hfits : ¬ (r.1.2 = [] ∨ s.maximumProtectedFrameBytes.val < r.1.2.length ∨
      0xFFFFFFFF < r.1.2.length) := by
    rintro (hempty | hlarge | hlarge)
    · exact hne hempty
    · exact absurd hmaximum (not_le.mpr hlarge)
    · exact absurd hlength (not_le.mpr hlarge)
  unfold send
  dsimp only
  rw [hwriter, hsuccess, if_neg hfits]
  rfl

/-- A failure that is published sends nothing. -/
theorem publishFailure_quiet (s : SocketSecuritySession) (result : H.SecurityResult)
    (x : Exterior H) :
    (publishFailure s result x).world =
        H.faulted result (if s.failure then H.failure result x.world else x.world) ∧
      sentEnvelopes (publishFailure s result x).log = sentEnvelopes x.log := by
  unfold publishFailure
  cases s.failure <;> simp [sentEnvelopes, SecurityEvent.sent?]

/-- A call that comes to no frame writes nothing. -/
theorem send_refused {s : SocketSecuritySession} {protocol : UInt8} {payload : Bytes}
    {x : Exterior H} (h : ¬ Frames s (H.protect protocol payload x.world).1) :
    (send s protocol payload x).2.2.world = refusedWorld s protocol payload x.world ∧
      sentEnvelopes (send s protocol payload x).2.2.log = sentEnvelopes x.log := by
  unfold send refusedWorld
  cases hwriter : s.writer with
  | false => exact ⟨rfl, rfl⟩
  | true =>
    cases hsuccess : H.success (H.protect protocol payload x.world).1.1 with
    | false =>
      dsimp only
      rw [hsuccess]
      exact publishFailure_quiet s _ { x with world := _ }
    | true =>
      have hunfit : (H.protect protocol payload x.world).1.2 = [] ∨
          s.maximumProtectedFrameBytes.val < (H.protect protocol payload x.world).1.2.length ∨
          0xFFFFFFFF < (H.protect protocol payload x.world).1.2.length := by
        by_contra hfits
        simp only [not_or, not_lt] at hfits
        exact h ⟨hwriter, hsuccess, hfits⟩
      dsimp only
      rw [hsuccess, if_pos hunfit]
      exact publishFailure_quiet s _ { x with world := _ }

theorem sendAll_sent (s : SocketSecuritySession) (calls : List (UInt8 × Bytes)) (x : Exterior H) :
    sentEnvelopes (sendAll s calls x).log =
      sentEnvelopes x.log ++ acceptedEnvelopes s calls x.world := by
  induction calls generalizing x with
  | nil => exact (List.append_nil _).symm
  | cons call calls ih =>
    obtain ⟨protocol, payload⟩ := call
    change sentEnvelopes (sendAll s calls (send s protocol payload x).2.2).log = _
    rw [ih, acceptedEnvelopes]
    by_cases hframes : Frames s (H.protect protocol payload x.world).1
    · rw [if_pos hframes, send_frames hframes, sentEnvelopes_append, List.append_assoc]
      congr 1
      dsimp only
      split_ifs with haccepted
      · rw [haccepted]
        rfl
      · rw [Bool.eq_false_iff.mpr haccepted]
        rfl
    · obtain ⟨hworld, hlog⟩ := send_refused hframes
      rw [if_neg hframes, hlog, hworld]

/-- Every write `Send` makes is the frame of protected bytes within its limit. -/
theorem send_log (s : SocketSecuritySession) (protocol : UInt8) (payload : Bytes)
    (x : Exterior H) : ∃ events : List (SecurityEvent H),
      (send s protocol payload x).2.2.log = x.log ++ events ∧
      ∀ p b frame accepted, SecurityEvent.wrote p b frame accepted ∈ events →
        frame = encodeEnvelope (p, b) ∧ b ≠ [] ∧ b.length ≤ s.maximumProtectedFrameBytes.val := by
  have hfail (result : H.SecurityResult) (w : H.World) :
      ∃ events : List (SecurityEvent H),
        (publishFailure s result { x with world := w }).log = x.log ++ events ∧
        ∀ p b frame accepted, SecurityEvent.wrote p b frame accepted ∈ events →
          frame = encodeEnvelope (p, b) ∧ b ≠ [] ∧
            b.length ≤ s.maximumProtectedFrameBytes.val := by
    refine ⟨_, publishFailure_log s result _, ?_⟩
    intro p b frame accepted hmem
    cases s.failure <;> simp at hmem
  unfold send
  dsimp only
  split_ifs with hw hs hb
  · exact ⟨[], by simp, by simp⟩
  · exact hfail _ _
  · exact hfail _ _
  · refine ⟨_, rfl, ?_⟩
    intro p b frame accepted hmem
    simp only [List.mem_singleton, SecurityEvent.wrote.injEq] at hmem
    obtain ⟨rfl, rfl, rfl, rfl⟩ := hmem
    simp only [not_or, not_lt] at hb
    exact ⟨rfl, hb.1, hb.2.1⟩

theorem sendAll_log (s : SocketSecuritySession) (calls : List (UInt8 × Bytes)) (x : Exterior H) :
    ∃ events : List (SecurityEvent H), (sendAll s calls x).log = x.log ++ events ∧
      ∀ p b frame accepted, SecurityEvent.wrote p b frame accepted ∈ events →
        frame = encodeEnvelope (p, b) ∧ b ≠ [] ∧ b.length ≤ s.maximumProtectedFrameBytes.val := by
  induction calls generalizing x with
  | nil => exact ⟨[], by simp [sendAll], by simp⟩
  | cons call calls ih =>
    obtain ⟨first, hfirst, hall⟩ := send_log s call.1 call.2 x
    obtain ⟨later, hlater, hrest⟩ := ih (send s call.1 call.2 x).2.2
    refine ⟨first ++ later, ?_, ?_⟩
    · rw [← List.append_assoc, ← hfirst, ← hlater]
      rfl
    · intro p b frame accepted hmem
      rcases List.mem_append.mp hmem with hmem | hmem
      · exact hall p b frame accepted hmem
      · exact hrest p b frame accepted hmem

omit [SizeWidth] in
/-- The wire carries the frames of the envelopes that were sent. -/
theorem wireBytes_eq {log : List (SecurityEvent H)}
    (h : ∀ p b frame accepted, SecurityEvent.wrote p b frame accepted ∈ log →
      frame = encodeEnvelope (p, b)) :
    wireBytes log = ((sentEnvelopes log).map encodeEnvelope).flatten := by
  unfold wireBytes sentEnvelopes
  rw [List.map_filterMap]
  congr 1
  apply List.filterMap_congr
  intro event hmem
  cases event with
  | wrote p b frame accepted =>
    cases accepted with
    | false => rfl
    | true => simp [SecurityEvent.wire?, SecurityEvent.sent?, h p b frame true hmem]
  | _ => rfl

/-- Whatever was sent and accepted by the writer reaches `Unprotect` in order and once each, and
every outcome reaches the callback meant for it; no chunking makes `Feed` fail or leaves bytes. -/
theorem secure_stream_lossless {Hs Hr : SecurityHost} (sender receiver : SocketSecuritySession)
    (hmax : sender.maximumProtectedFrameBytes ≤ receiver.maximumProtectedFrameBytes)
    (hbuffer : receiver.buffer = []) (hdiscarding : receiver.discarding = false)
    (calls : List (UInt8 × Bytes)) (w : Hs.World) (y : Exterior Hr) (chunks : List Bytes)
    (hsize : ∀ e ∈ acceptedEnvelopes sender calls w, e.2.length < 2 ^ 32 - prefixSize)
    (hwire : chunks.flatten = wireBytes (sendAll sender calls { world := w }).log) :
    let envelopes := acceptedEnvelopes sender calls w
    let opened := unprotectEach receiver envelopes y.world
    sentEnvelopes (sendAll sender calls { world := w }).log = envelopes ∧
      feedAll chunks receiver y =
        (List.replicate chunks.length (some true), receiver,
          { world := opened.2
            log := y.log ++ (List.zipWith (envelopeCalls receiver) envelopes opened.1).flatten }) ∧
      bufferedBytes (feedAll chunks receiver y).2.1 = 0 := by
  intro envelopes opened
  have hsent : sentEnvelopes (sendAll sender calls { world := w }).log = envelopes :=
    sendAll_sent sender calls { world := w }
  obtain ⟨events, hlog, hwrote⟩ := sendAll_log sender calls { world := w }
  rw [List.nil_append] at hlog
  have hcarries : ∀ e ∈ envelopes, Carries receiver.maximumProtectedFrameBytes.val e := by
    intro e he
    have hlt := hsize e he
    rw [← hsent, hlog, sentEnvelopes, List.mem_filterMap] at he
    obtain ⟨event, hmem, hput⟩ := he
    cases event with
    | wrote p b frame accepted =>
      cases accepted with
      | false => cases hput
      | true =>
        cases hput
        obtain ⟨-, hne, hle⟩ := hwrote p b frame true hmem
        exact ⟨hne, hle.trans hmax, hlt⟩
    | _ => cases hput
  rw [hlog, wireBytes_eq fun p b frame accepted h => (hwrote p b frame accepted h).1, ← hlog,
    hsent] at hwire
  have hadmitted (n : ℕ) (sizes lengths : List ℕ) :
      Admitted (fun _ _ => true) sizes n lengths := by
    induction lengths generalizing n with
    | nil => trivial
    | cons l lengths ih => exact ⟨rfl, ih _⟩
  have hframer := (feedAll_lossless_iff (fun _ _ => true) (processEnvelope receiver)
    (fun e he => encodes_envelope (hcarries e he)) hwire y).mpr (hadmitted _ _ _)
  have hfeed := feedAll_of_framer hdiscarding hframer
  rw [← hbuffer, processAll_eq] at hfeed
  refine ⟨hsent, hfeed, ?_⟩
  rw [hfeed, bufferedBytes, hbuffer]
  rfl

/-- `TransportSecurity` under the `Disabled` policy: plaintext passes through both ways. -/
def plainHost : SecurityHost where
  World := Unit
  SecurityResult := Bool
  UnprotectedPayload := UInt8 × Bytes
  success := id
  fail _ _ := false
  protect _ payload w := ((true, payload), w)
  unprotect protocol envelope w := ((true, (protocol, envelope)), w)
  writer _ w := (true, w)
  receive _ w := w
  failure _ w := w
  faulted _ w := w

omit [SizeWidth] in
/-- One 5-byte payload of protocol 12, cut inside its length field and inside its body. -/
theorem secure_stream_lossless_plain :
    letI := SizeWidth.esp32
    let s : SocketSecuritySession :=
      { writer := true, receive := true, failure := true, maximumProtectedFrameBytes := 64 }
    sentEnvelopes (sendAll (H := plainHost) s [(12, text "plain")] { world := () }).log =
        [(12, text "plain")] ∧
      let r := feedAll (H := plainHost) [[5, 0], [0, 0, 12, 112, 108, 97], [105, 110]] s
        { world := () }
      r.1 = [some true, some true, some true] ∧
        r.2.2.log = [.unprotected 12 (text "plain") true (12, text "plain"),
          .received (12, text "plain")] := by
  let := SizeWidth.esp32
  let s : SocketSecuritySession :=
    { writer := true, receive := true, failure := true, maximumProtectedFrameBytes := 64 }
  have h := @secure_stream_lossless _ plainHost plainHost s s le_rfl rfl rfl
    [(12, text "plain")] () { world := () } [[5, 0], [0, 0, 12, 112, 108, 97], [105, 110]]
    (by decide) (by decide)
  obtain ⟨hsent, hfeed, -⟩ := h
  refine ⟨hsent.trans (by decide), congrArg Prod.fst hfeed, ?_⟩
  exact congrArg (fun r => r.2.2.log) hfeed

end Sockets.Security
