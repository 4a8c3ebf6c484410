import Sockets.Security.Stream

/-! `SocketSecurityDatagram`: the payloads of `TransportSecurity` in datagrams. It calls back as a
session does, but tells no observers and is silent about what it cannot send. -/
namespace Sockets.Security
open Foundation

/-- Callbacks are present or not; what they do is the host's. -/
structure SocketSecurityDatagram where
  sender : Bool
  receive : Bool
  failure : Bool

variable {H : SecurityHost}

namespace SocketSecurityDatagram

/-- The datagram around protected bytes. -/
def encode (frame : UInt8 × Bytes) : Bytes := frame.1 :: frame.2

/-- `Send`: the answer, what `resultOut` is set to, and the exterior after the calls. -/
def send (d : SocketSecurityDatagram) (protocol : UInt8) (payload : Bytes) (x : Exterior H) :
    Bool × Option H.SecurityResult × Exterior H :=
  if !d.sender then (false, none, x)
  else
    let r := H.protect protocol payload x.world
    let x := { x with world := r.2 }
    let result := r.1.1
    let protectedBytes := r.1.2
    if !H.success result || decide (protectedBytes = []) then (false, some result, x)
    else
      let datagram := encode (protocol, protectedBytes)
      let w := H.writer datagram x.world
      (w.1, some result,
        { world := w.2, log := x.log ++ [.wrote protocol protectedBytes datagram w.1] })

/-- What follows the size check of `Receive`. -/
def openDatagram (d : SocketSecurityDatagram) (frame : UInt8 × Bytes) (x : Exterior H) :
    Bool × Exterior H :=
  let r := H.unprotect frame.1 frame.2 x.world
  let x := { world := r.2, log := x.log ++ [.unprotected frame.1 frame.2 r.1.1 r.1.2] }
  if !H.success r.1.1 then
    if d.failure then
      (false, { world := H.failure r.1.1 x.world, log := x.log ++ [.failed r.1.1] })
    else (false, x)
  else if d.receive then
    (true, { world := H.receive r.1.2 x.world, log := x.log ++ [.received r.1.2] })
  else (true, x)

/-- `Receive`; a datagram without a payload is dropped. -/
def receiveDatagram (d : SocketSecurityDatagram) (datagram : Bytes) (x : Exterior H) :
    Bool × Exterior H :=
  match datagram with
  | protocol :: first :: rest => d.openDatagram (protocol, first :: rest) x
  | _ => (false, x)

/-- A sequence of `Send` calls; their answers are in the log. -/
def sendAll (d : SocketSecurityDatagram) (calls : List (UInt8 × Bytes)) (x : Exterior H) :
    Exterior H :=
  calls.foldl (fun x call => (d.send call.1 call.2 x).2.2) x

/-- A sequence of `Receive` calls. -/
def receiveAll (d : SocketSecurityDatagram) (datagrams : List Bytes) (x : Exterior H) :
    Exterior H :=
  datagrams.foldl (fun x datagram => (d.receiveDatagram datagram x).2) x

end SocketSecurityDatagram

/-- The calls that the application sees. -/
def SecurityEvent.callback : SecurityEvent H → Bool
  | .received _ => true
  | .failed _ => true
  | _ => false

/-- What the application was called with. -/
def callbacks (log : List (SecurityEvent H)) : List (SecurityEvent H) :=
  log.filter SecurityEvent.callback

/-- The datagrams that the carrier took. -/
def datagrams (log : List (SecurityEvent H)) : List Bytes := log.filterMap SecurityEvent.wire?

/-- What `TransportSecurity` keeps of the world: keys, sequence numbers and replay windows, which it
alone reads and which no callback, observer or carrier touches. -/
structure TransportSecurity (H : SecurityHost) where
  State : Type
  state : H.World → State
  protect : UInt8 → Bytes → State → (H.SecurityResult × Bytes) × State
  unprotect : UInt8 → Bytes → State → (H.SecurityResult × H.UnprotectedPayload) × State
  protect_fst : ∀ protocol payload w,
    (H.protect protocol payload w).1 = (protect protocol payload (state w)).1
  protect_snd : ∀ protocol payload w,
    state (H.protect protocol payload w).2 = (protect protocol payload (state w)).2
  unprotect_fst : ∀ protocol envelope w,
    (H.unprotect protocol envelope w).1 = (unprotect protocol envelope (state w)).1
  unprotect_snd : ∀ protocol envelope w,
    state (H.unprotect protocol envelope w).2 = (unprotect protocol envelope (state w)).2
  writer : ∀ bytes w, state (H.writer bytes w).2 = state w
  receive : ∀ opened w, state (H.receive opened w) = state w
  failure : ∀ result w, state (H.failure result w) = state w
  faulted : ∀ result w, state (H.faulted result w) = state w

namespace TransportSecurity

/-- The envelopes of a sequence of calls that can be sent, and the state behind it. -/
def protectAll (T : TransportSecurity H) :
    List (UInt8 × Bytes) → T.State → List (UInt8 × Bytes) × T.State
  | [], k => ([], k)
  | call :: calls, k =>
    let r := T.protect call.1 call.2 k
    let t := T.protectAll calls r.2
    if H.success r.1.1 && decide (r.1.2 ≠ []) then ((call.1, r.1.2) :: t.1, t.2) else t

/-- What the application hears of an envelope. -/
def outcome (receive failure : Bool) (r : H.SecurityResult × H.UnprotectedPayload) :
    List (SecurityEvent H) :=
  if H.success r.1 then (if receive then [.received r.2] else [])
  else (if failure then [.failed r.1] else [])

/-- What the application hears of a sequence of envelopes, and the state behind it. -/
def unprotectAll (T : TransportSecurity H) (receive failure : Bool) :
    List (UInt8 × Bytes) → T.State → List (SecurityEvent H) × T.State
  | [], k => ([], k)
  | frame :: frames, k =>
    let r := T.unprotect frame.1 frame.2 k
    let t := T.unprotectAll receive failure frames r.2
    (outcome receive failure r.1 ++ t.1, t.2)

theorem protectAll_cons (T : TransportSecurity H) (call : UInt8 × Bytes)
    (calls : List (UInt8 × Bytes)) (k : T.State) :
    let r := T.protect call.1 call.2 k
    (T.protectAll (call :: calls) k).1 =
      (if H.success r.1.1 && decide (r.1.2 ≠ []) then [(call.1, r.1.2)] else []) ++
        (T.protectAll calls r.2).1 := by
  intro r
  change (if H.success r.1.1 && decide (r.1.2 ≠ []) then
    ((call.1, r.1.2) :: (T.protectAll calls r.2).1, (T.protectAll calls r.2).2)
    else T.protectAll calls r.2).1 = _
  split_ifs <;> rfl

theorem ne_nil_of_mem_protectAll (T : TransportSecurity H) {calls : List (UInt8 × Bytes)}
    {k : T.State} {e : UInt8 × Bytes} (h : e ∈ (T.protectAll calls k).1) : e.2 ≠ [] := by
  induction calls generalizing k with
  | nil => cases h
  | cons call calls ih =>
    rw [protectAll_cons] at h
    rcases List.mem_append.mp h with h | h
    · split_ifs at h with hsent
      · rw [List.mem_singleton.mp h]
        exact of_decide_eq_true (Bool.and_eq_true_iff.mp hsent).2
      · cases h
    · exact ih h

end TransportSecurity

section Sending
variable (T : TransportSecurity H)

/-- One call of a datagram adapter whose carrier takes everything. -/
theorem send_datagram {d : SocketSecurityDatagram} (hsender : d.sender = true)
    (haccept : ∀ bytes w, (H.writer bytes w).1 = true) (protocol : UInt8) (payload : Bytes)
    (x : Exterior H) :
    let r := T.protect protocol payload (T.state x.world)
    T.state (d.send protocol payload x).2.2.world = r.2 ∧
      ∃ events, (d.send protocol payload x).2.2.log = x.log ++ events ∧
        sentEnvelopes events =
          (if H.success r.1.1 && decide (r.1.2 ≠ []) then [(protocol, r.1.2)] else []) ∧
        datagrams events = (sentEnvelopes events).map SocketSecurityDatagram.encode := by
  intro r
  have hr : r = T.protect protocol payload (T.state x.world) := rfl
  unfold SocketSecurityDatagram.send
  dsimp only
  rw [hsender, T.protect_fst, ← hr]
  by_cases hsent : H.success r.1.1 = true ∧ r.1.2 ≠ []
  · obtain ⟨hsuccess, hne⟩ := hsent
    simp only [hsuccess, hne, haccept, T.writer, T.protect_snd, ← hr, Bool.not_true, decide_false,
      Bool.or_self, Bool.false_eq_true, if_false, ne_eq, not_false_eq_true, decide_true,
      Bool.and_self, if_true, true_and]
    exact ⟨_, rfl, rfl, rfl⟩
  · have hrefused : (!H.success r.1.1 || decide (r.1.2 = [])) = true := by
      cases hsuccess : H.success r.1.1 <;> simp_all
    have hnone : (H.success r.1.1 && decide (r.1.2 ≠ [])) = false := by
      cases hsuccess : H.success r.1.1 <;> simp_all
    rw [hrefused, hnone]
    simp only [Bool.not_true, Bool.false_eq_true, if_false, if_true, T.protect_snd, ← hr, true_and]
    exact ⟨[], (List.append_nil _).symm, rfl, rfl⟩

theorem sendAll_datagram {d : SocketSecurityDatagram} (hsender : d.sender = true)
    (haccept : ∀ bytes w, (H.writer bytes w).1 = true) (calls : List (UInt8 × Bytes))
    (x : Exterior H) : ∃ events, (d.sendAll calls x).log = x.log ++ events ∧
      sentEnvelopes events = (T.protectAll calls (T.state x.world)).1 ∧
      datagrams events = (sentEnvelopes events).map SocketSecurityDatagram.encode := by
  induction calls generalizing x with
  | nil => exact ⟨[], (List.append_nil _).symm, rfl, rfl⟩
  | cons call calls ih =>
    obtain ⟨hstate, first, hfirst, hsent, hdatagrams⟩ :=
      send_datagram T hsender haccept call.1 call.2 x
    obtain ⟨later, hlater, hrest, hothers⟩ := ih (d.send call.1 call.2 x).2.2
    refine ⟨first ++ later, ?_, ?_, ?_⟩
    · change (d.sendAll calls (d.send call.1 call.2 x).2.2).log = _
      rw [hlater, hfirst, List.append_assoc]
    · rw [sentEnvelopes_append, hsent, hrest, hstate, T.protectAll_cons]
    · rw [sentEnvelopes_append, List.map_append, ← hdatagrams, ← hothers]
      exact List.filterMap_append

variable [SizeWidth]

theorem sentEnvelopes_publishFailure (s : SocketSecuritySession) (result : H.SecurityResult)
    (x : Exterior H) :
    T.state (publishFailure s result x).world = T.state x.world ∧
      ∃ events, (publishFailure s result x).log = x.log ++ events ∧ sentEnvelopes events = [] := by
  unfold publishFailure
  cases s.failure with
  | true => exact ⟨by simp [T.failure, T.faulted], [.failed result, .faulted result], by simp, rfl⟩
  | false => exact ⟨by simp [T.faulted], [.faulted result], by simp, rfl⟩

/-- One call of a session whose writer takes everything. -/
theorem send_session {s : SocketSecuritySession} (hwriter : s.writer = true)
    (haccept : ∀ bytes w, (H.writer bytes w).1 = true) (protocol : UInt8) (payload : Bytes)
    (x : Exterior H) :
    let r := T.protect protocol payload (T.state x.world)
    (H.success r.1.1 = true → r.1.2 ≠ [] →
      r.1.2.length ≤ s.maximumProtectedFrameBytes.val ∧ r.1.2.length ≤ 0xFFFFFFFF) →
    T.state (send s protocol payload x).2.2.world = r.2 ∧
      ∃ events, (send s protocol payload x).2.2.log = x.log ++ events ∧ sentEnvelopes events =
        (if H.success r.1.1 && decide (r.1.2 ≠ []) then [(protocol, r.1.2)] else []) := by
  intro r hfits
  have hr : r = T.protect protocol payload (T.state x.world) := rfl
  have hstate : T.state (H.protect protocol payload x.world).2 = r.2 := T.protect_snd _ _ _
  unfold send
  dsimp only
  rw [hwriter, T.protect_fst, ← hr]
  cases hsuccess : H.success r.1.1 with
  | false =>
    simp only [Bool.not_true, Bool.not_false, Bool.false_eq_true, Bool.false_and, if_false, if_true]
    obtain ⟨hkept, events, hlog, hnone⟩ := sentEnvelopes_publishFailure T s r.1.1
      { x with world := (H.protect protocol payload x.world).2 }
    exact ⟨hkept.trans hstate, events, hlog, hnone⟩
  | true =>
    by_cases hne : r.1.2 = []
    · simp only [hne, Bool.not_true, Bool.false_eq_true, if_false, true_or, if_true, ne_eq,
        not_true_eq_false, decide_false, Bool.and_false]
      obtain ⟨hkept, events, hlog, hnone⟩ := sentEnvelopes_publishFailure T s
        (H.fail .bufferLimitExceeded exceedsLimit)
        { x with world := (H.protect protocol payload x.world).2 }
      exact ⟨hkept.trans hstate, events, hlog, hnone⟩
    · obtain ⟨hmaximum, hlength⟩ := hfits hsuccess hne
      simp only [hne, not_lt.mpr hmaximum, not_lt.mpr hlength, haccept, T.writer, hstate,
        Bool.not_true, Bool.false_eq_true, if_false, or_self, ne_eq, not_false_eq_true,
        decide_true, Bool.and_self, if_true, true_and]
      exact ⟨_, rfl, rfl⟩

theorem sendAll_session {s : SocketSecuritySession} (hwriter : s.writer = true)
    (haccept : ∀ bytes w, (H.writer bytes w).1 = true) (calls : List (UInt8 × Bytes))
    (x : Exterior H) (hfits : ∀ e ∈ (T.protectAll calls (T.state x.world)).1,
      e.2.length ≤ s.maximumProtectedFrameBytes.val ∧ e.2.length ≤ 0xFFFFFFFF) :
    sentEnvelopes (sendAll s calls x).log =
      sentEnvelopes x.log ++ (T.protectAll calls (T.state x.world)).1 := by
  induction calls generalizing x with
  | nil => exact (List.append_nil _).symm
  | cons call calls ih =>
    rw [T.protectAll_cons] at hfits
    obtain ⟨hstate, events, hlog, hsent⟩ := send_session T hwriter haccept call.1 call.2 x
      fun hsuccess hne => by
        have hmem := hfits (call.1, (T.protect call.1 call.2 (T.state x.world)).1.2)
        rw [hsuccess, decide_eq_true hne] at hmem
        exact hmem (by simp)
    have hrest := ih (send s call.1 call.2 x).2.2 fun e he => by
      rw [hstate] at he
      exact hfits e (List.mem_append_right _ he)
    change sentEnvelopes (sendAll s calls (send s call.1 call.2 x).2.2).log = _
    rw [hrest, hlog, sentEnvelopes_append, hsent, hstate, T.protectAll_cons, List.append_assoc]

end Sending

section Receiving
variable (T : TransportSecurity H)

theorem openDatagram_callbacks (d : SocketSecurityDatagram) (frame : UInt8 × Bytes)
    (x : Exterior H) :
    let r := T.unprotect frame.1 frame.2 (T.state x.world)
    T.state (d.openDatagram frame x).2.world = r.2 ∧ callbacks (d.openDatagram frame x).2.log =
      callbacks x.log ++ TransportSecurity.outcome d.receive d.failure r.1 := by
  intro r
  have hr : r = T.unprotect frame.1 frame.2 (T.state x.world) := rfl
  have hstate : T.state (H.unprotect frame.1 frame.2 x.world).2 = r.2 := T.unprotect_snd _ _ _
  unfold SocketSecurityDatagram.openDatagram TransportSecurity.outcome
  dsimp only
  rw [T.unprotect_fst, ← hr]
  cases H.success r.1.1 <;> cases d.receive <;> cases d.failure <;>
    simp [hstate, T.receive, T.failure, callbacks, SecurityEvent.callback]

theorem receiveAll_callbacks (d : SocketSecurityDatagram) {frames : List (UInt8 × Bytes)}
    (hne : ∀ e ∈ frames, e.2 ≠ []) (x : Exterior H) :
    callbacks (d.receiveAll (frames.map SocketSecurityDatagram.encode) x).log =
      callbacks x.log ++ (T.unprotectAll d.receive d.failure frames (T.state x.world)).1 := by
  induction frames generalizing x with
  | nil => exact (List.append_nil _).symm
  | cons frame frames ih =>
    obtain ⟨protocol, envelope⟩ := frame
    obtain ⟨hfirst, hrest⟩ := List.forall_mem_cons.mp hne
    cases envelope with
    | nil => exact absurd rfl hfirst
    | cons first rest =>
      obtain ⟨hstate, hcallbacks⟩ := openDatagram_callbacks T d (protocol, first :: rest) x
      have htail := ih hrest (d.openDatagram (protocol, first :: rest) x).2
      change callbacks (d.receiveAll (frames.map SocketSecurityDatagram.encode)
        (d.openDatagram (protocol, first :: rest) x).2).log = _
      rw [htail, hcallbacks, hstate, List.append_assoc]
      rfl

variable [SizeWidth]

theorem processEnvelope_callbacks (s : SocketSecuritySession) (frame : UInt8 × Bytes)
    (x : Exterior H) :
    let r := T.unprotect frame.1 frame.2 (T.state x.world)
    T.state (processEnvelope s frame x).world = r.2 ∧ callbacks (processEnvelope s frame x).log =
      callbacks x.log ++ TransportSecurity.outcome s.receive s.failure r.1 := by
  intro r
  have hr : r = T.unprotect frame.1 frame.2 (T.state x.world) := rfl
  have hstate : T.state (H.unprotect frame.1 frame.2 x.world).2 = r.2 := T.unprotect_snd _ _ _
  unfold processEnvelope publishFailure TransportSecurity.outcome
  dsimp only
  rw [T.unprotect_fst, ← hr]
  cases H.success r.1.1 <;> cases s.receive <;> cases s.failure <;>
    simp [hstate, T.receive, T.failure, T.faulted, callbacks, SecurityEvent.callback]
  all_goals rfl

theorem processAll_callbacks (s : SocketSecuritySession) (frames : List (UInt8 × Bytes))
    (x : Exterior H) :
    callbacks (frames.foldl (fun x frame => processEnvelope s frame x) x).log =
      callbacks x.log ++ (T.unprotectAll s.receive s.failure frames (T.state x.world)).1 := by
  induction frames generalizing x with
  | nil => exact (List.append_nil _).symm
  | cons frame frames ih =>
    obtain ⟨hstate, hcallbacks⟩ := processEnvelope_callbacks T s frame x
    have htail := ih (processEnvelope s frame x)
    rw [List.foldl_cons, htail, hcallbacks, hstate, List.append_assoc]
    rfl

/-- However the stream is cut, a session processes the envelopes in it. -/
theorem feedAll_envelopes {s : SocketSecuritySession} (hbuffer : s.buffer = [])
    (hdiscarding : s.discarding = false) {envelopes : List (UInt8 × Bytes)}
    (hcarries : ∀ e ∈ envelopes, Carries s.maximumProtectedFrameBytes.val e) {chunks : List Bytes}
    (hwire : chunks.flatten = (envelopes.map encodeEnvelope).flatten) (x : Exterior H) :
    (feedAll chunks s x).2.2 = envelopes.foldl (fun x e => processEnvelope s e x) x := by
  have hadmitted (n : ℕ) (sizes lengths : List ℕ) :
      Framer.Admitted (fun _ _ => true) sizes n lengths := by
    induction lengths generalizing n with
    | nil => trivial
    | cons l lengths ih => exact ⟨rfl, ih _⟩
  have hframer := (Framer.feedAll_lossless_iff (fun _ _ => true) (processEnvelope s)
    (fun e he => encodes_envelope (hcarries e he)) hwire x).mpr (hadmitted _ _ _)
  have hfeed := feedAll_of_framer hdiscarding hframer
  rw [← hbuffer] at hfeed
  rw [hfeed]

end Receiving

/-- The two adapters are interchangeable: over a stream that is cut in any way, and in datagrams that
arrive in order, the same calls at one end make the same calls at the other. -/
theorem adapters_agree [SizeWidth] {Hs Hr : SecurityHost} (S : TransportSecurity Hs)
    (R : TransportSecurity Hr) (sender receiver : SocketSecuritySession)
    (dsender dreceiver : SocketSecurityDatagram) (hwriter : sender.writer = true)
    (hsender : dsender.sender = true) (haccept : ∀ bytes w, (Hs.writer bytes w).1 = true)
    (hreceive : dreceiver.receive = receiver.receive)
    (hfailure : dreceiver.failure = receiver.failure)
    (hmax : sender.maximumProtectedFrameBytes ≤ receiver.maximumProtectedFrameBytes)
    (hbuffer : receiver.buffer = []) (hdiscarding : receiver.discarding = false)
    (calls : List (UInt8 × Bytes)) (w w' : Hs.World) (hw : S.state w = S.state w')
    (v v' : Hr.World) (hv : R.state v = R.state v')
    (hfits : ∀ e ∈ sentEnvelopes (dsender.sendAll calls { world := w' }).log,
      e.2.length ≤ sender.maximumProtectedFrameBytes.val ∧ e.2.length < 2 ^ 32 - prefixSize)
    (chunks : List Bytes)
    (hwire : chunks.flatten = wireBytes (sendAll sender calls { world := w }).log) :
    callbacks (feedAll chunks receiver ({ world := v } : Exterior Hr)).2.2.log =
      callbacks (dreceiver.receiveAll (datagrams (dsender.sendAll calls { world := w' }).log)
        ({ world := v' } : Exterior Hr)).log := by
  obtain ⟨events, hlog, hsent, hdatagrams⟩ :=
    sendAll_datagram S hsender haccept calls { world := w' }
  rw [List.nil_append] at hlog
  rw [hlog] at hfits ⊢
  rw [hsent] at hfits hdatagrams
  have hstream := sendAll_session S hwriter haccept calls { world := w } fun e he => by
    rw [hw] at he
    obtain ⟨hle, hlt⟩ := hfits e he
    unfold prefixSize at hlt
    exact ⟨hle, by omega⟩
  obtain ⟨written, hwritten, hframes⟩ := sendAll_log sender calls { world := w }
  rw [List.nil_append] at hwritten
  rw [hwritten, wireBytes_eq fun p b frame accepted h => (hframes p b frame accepted h).1,
    ← hwritten, hstream, hw] at hwire
  have hcarries : ∀ e ∈ (S.protectAll calls (S.state w')).1,
      Carries receiver.maximumProtectedFrameBytes.val e := fun e he =>
    ⟨S.ne_nil_of_mem_protectAll he, (hfits e he).1.trans hmax, (hfits e he).2⟩
  rw [feedAll_envelopes hbuffer hdiscarding hcarries hwire, processAll_callbacks R, hdatagrams,
    receiveAll_callbacks R dreceiver fun e he => S.ne_nil_of_mem_protectAll he, hreceive, hfailure,
    hv]

/-- The `Disabled` policy keeps nothing. -/
def plainSecurity : TransportSecurity plainHost where
  State := Unit
  state w := w
  protect _ payload k := ((true, payload), k)
  unprotect protocol envelope k := ((true, (protocol, envelope)), k)
  protect_fst _ _ _ := rfl
  protect_snd _ _ _ := rfl
  unprotect_fst _ _ _ := rfl
  unprotect_snd _ _ _ := rfl
  writer _ _ := rfl
  receive _ _ := rfl
  failure _ _ := rfl
  faulted _ _ := rfl

/-- One 5-byte payload, in two chunks and in a datagram of six bytes. -/
theorem adapters_agree_plain :
    letI := SizeWidth.esp32
    let s : SocketSecuritySession :=
      { writer := true, receive := true, failure := true, maximumProtectedFrameBytes := 64 }
    let d : SocketSecurityDatagram := ⟨true, true, true⟩
    callbacks (feedAll (H := plainHost) [[5, 0, 0], [0, 12, 112, 108, 97, 105, 110]] s
        { world := () }).2.2.log =
      callbacks (d.receiveAll (H := plainHost) [[12, 112, 108, 97, 105, 110]]
        { world := () }).log := by
  let := SizeWidth.esp32
  let s : SocketSecuritySession :=
    { writer := true, receive := true, failure := true, maximumProtectedFrameBytes := 64 }
  let d : SocketSecurityDatagram := ⟨true, true, true⟩
  exact adapters_agree plainSecurity plainSecurity s s d d rfl rfl (fun _ _ => rfl) rfl rfl le_rfl
    rfl rfl [(12, text "plain")] () () rfl () () rfl (by decide)
    [[5, 0, 0], [0, 12, 112, 108, 97, 105, 110]] (by decide)

end Sockets.Security
