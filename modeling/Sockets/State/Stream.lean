import Sockets.Foundation.Chunking
import Sockets.Foundation.Simulation
import Sockets.State.Departure
import Sockets.State.Reentrant

/-! Two State sessions over a stream of bytes in each direction, as TCP carries them: a frame is
written whole or not at all, a side reads whatever part of the stream is there, and a session that
refuses what it is fed is shut down. -/
namespace Sockets.State
open Foundation Sockets.Frame

variable {L : StateLibrary} [SizeWidth]

variable (L) in
/-- `read i` counts the bytes of the other side's stream that side `i` has read. A side whose session
has been shut down has closed its connection. -/
structure Stream where
  side : Side → Endpoint (lineHost L)
  read : Side → ℕ := fun _ => 0
  closed : Side → Bool := fun _ => false

namespace Stream

def start (store : Side → Store L) (outcomes : Side → ℕ → Bool) : Stream L where
  side i := { exterior := { store := store i, world := { outcomes := outcomes i } } }

/-- The frames a side has written, and the stream they make: a write that fails leaves nothing. -/
def sent (i : Side) (n : Stream L) : List Bytes := (n.side i).exterior.world.sent

def bytes (i : Side) (n : Stream L) : Bytes := (n.sent i).flatten

/-- A call on one side. -/
def act (i : Side) (a : Endpoint.Action (lineHost L)) (n : Stream L) : Stream L :=
  let e := (n.side i).step a
  { n with
    side := Function.update n.side i e
    closed := Function.update n.closed i
      (n.closed i || (n.side i).session.initialized && !e.session.initialized) }

/-- The bytes that a read of this size brings to a side. -/
def chunk (i : Side) (size : ℕ) (n : Stream L) : Bytes :=
  ((n.bytes i.other).drop (n.read i)).take size

/-- The session of a side is fed bytes that the side has read. -/
def feed (i : Side) (data : Bytes) (n : Stream L) : Bool × Stream L :=
  let r := (n.side i).perform (.feed data)
  (r.1, { n with
    side := Function.update n.side i r.2
    read := Function.update n.read i (n.read i + data.length) })

/-- One read of a side that has a session. -/
def receive (i : Side) (size : ℕ) (n : Stream L) : Stream L :=
  if n.closed i || !(n.side i).session.initialized || decide (n.chunk i size = []) then n
  else
    let r := n.feed i (n.chunk i size)
    if r.1 then r.2 else r.2.act i .shutdown

variable (L) in
inductive Action where
  | act (side : Side) (action : Endpoint.Action (lineHost L)) (isLocal : action.IsLocal)
  | receive (side : Side) (size : ℕ)

def step (n : Stream L) : Action L → Stream L
  | .act i a _ => n.act i a
  | .receive i size => n.receive i size

/-- A call on a side is that call. A read is the delivery of so many frames, and a shutdown where
the session refuses. -/
inductive Answers : Action L → List (Link.Action L) → Prop where
  | act (i : Side) (a : Endpoint.Action (lineHost L)) (ha : a.IsLocal) :
    Answers (.act i a ha) [.act i a ha]
  | accepted (i : Side) (size k : ℕ) : Answers (.receive i size) (List.replicate k (.deliver i))
  | refused (i : Side) (size k : ℕ) :
    Answers (.receive i size) (List.replicate k (.deliver i) ++ [.act i .shutdown trivial])

end Stream

/-- Between two frames. -/
def Endpoint.whole {H : StateHost L} (e : Endpoint H) : Endpoint H :=
  { e with session := { e.session with decoder := e.session.decoder.reset } }

namespace Endpoint
variable {H : StateHost L}

/-- What goes on locally does not look at the decoder. -/
theorem step_whole {e : Endpoint H} (hresting : e.session.Resting) {a : Action H} (ha : a.IsLocal) :
    e.whole.step a = (e.step a).whole := by
  have hnotify (f : SocketStateSession H → Exterior H → Exterior H) (e' : Endpoint H)
      (hf : ∀ s d (x : Exterior H), f { s with decoder := d } x = f s x) :
      e'.whole.notify f = (e'.notify f).whole := by
    unfold notify
    change (if !e'.session.registered then _ else _) = _
    split_ifs
    · rfl
    · exact congrArg (Endpoint.mk e'.whole.session) (hf _ _ _)
  cases a with
  | initializeWith config handler observed =>
    cases hinitialized : e.session.initialized with
    | true =>
      change Endpoint.mk (e.whole.session.initializeWith config handler observed e.exterior).2.1
          (e.whole.session.initializeWith config handler observed e.exterior).2.2 =
        Endpoint.whole ⟨(e.session.initializeWith config handler observed e.exterior).2.1,
          (e.session.initializeWith config handler observed e.exterior).2.2⟩
      unfold SocketStateSession.initializeWith
      rw [if_pos hinitialized, if_pos (show e.whole.session.initialized = true from hinitialized)]
      rfl
    | false =>
      have hfree := (hresting.off hinitialized).1
      change Endpoint.mk (e.whole.session.initializeWith config handler observed e.exterior).2.1
          (e.whole.session.initializeWith config handler observed e.exterior).2.2 =
        Endpoint.whole ⟨(e.session.initializeWith config handler observed e.exterior).2.1,
          (e.session.initializeWith config handler observed e.exterior).2.2⟩
      rw [SocketStateSession.initializeWith_eq hinitialized hfree,
        SocketStateSession.initializeWith_eq (s := e.whole.session) hinitialized hfree]
      split_ifs <;> rfl
  | shutdown =>
    change Endpoint.mk (e.whole.session.shutdown e.exterior).1
        (e.whole.session.shutdown e.exterior).2 =
      Endpoint.whole ⟨(e.session.shutdown e.exterior).1, (e.session.shutdown e.exterior).2⟩
    cases hinitialized : e.session.initialized with
    | true =>
      have hattached := (hresting.on hinitialized).1
      rw [SocketStateSession.shutdown_on hinitialized hattached,
        SocketStateSession.shutdown_on (s := e.whole.session) hinitialized hattached]
      rfl
    | false =>
      rw [SocketStateSession.shutdown_off hresting hinitialized,
        SocketStateSession.shutdown_off (s := e.whole.session) ⟨hresting.off, hresting.on⟩
          hinitialized]
      rfl
  | feed data => exact ha.elim
  | publish t =>
    change e.whole.publish t = (e.publish t).whole
    unfold publish
    split_ifs
    · have hsame : e.whole.exterior = e.exterior := rfl
      rw [hsame]
      dsimp only
      cases (L.publish t e.exterior.store.publisher).1 with
      | none => rfl
      | some update =>
        exact hnotify (fun s x => s.onTypedStatePublished t update x)
          (e.setPublisher (L.publish t e.exterior.store.publisher).2) fun _ _ _ => rfl
    · rfl
  | subscribe d =>
    change e.whole.subscribe d = (e.subscribe d).whole
    unfold subscribe
    change (if (L.subscribe d e.exterior.store.subscriptions).1 then _ else _) = _
    dsimp only
    split_ifs
    · exact hnotify (fun s x => s.onStateSubscribed d x)
        (e.setSubscriptions (L.subscribe d e.exterior.store.subscriptions).2) fun _ _ _ => rfl
    · rfl
  | unsubscribe d =>
    change e.whole.unsubscribe d = (e.unsubscribe d).whole
    unfold unsubscribe
    change (if (L.unsubscribe d e.exterior.store.subscriptions).1 then _ else _) = _
    dsimp only
    split_ifs
    · exact hnotify (fun s x => s.onStateUnsubscribed d x)
        (e.setSubscriptions (L.unsubscribe d e.exterior.store.subscriptions).2) fun _ _ _ => rfl
    · rfl
  | requestResynchronization t => rfl
  | setPeerBoundHandler handler => rfl
  | setAcknowledgementHandler handler => rfl
  | change store => rfl

/-- Neither does the handling of a message. -/
private theorem handled_decoder (payload : Bytes) (e : Endpoint H) :
    (e.session.handleProtocolMessage payload e.exterior).2.1.decoder = e.session.decoder := by
  have hsame := handleProtocolMessage_decoder e.session.decoder payload e.session e.exterior
  exact congrArg (fun r => r.2.1.decoder) hsame

theorem hear_decoder (payload : Bytes) (e : Endpoint H) :
    (e.hear payload).session.decoder = e.session.decoder := by
  unfold hear
  split_ifs
  · rfl
  · exact handled_decoder payload e

theorem hear_whole (payload : Bytes) (e : Endpoint H) :
    e.whole.hear payload = (e.hear payload).whole := by
  unfold hear
  change (if !e.session.initialized then _ else _) = _
  split_ifs
  · rfl
  · dsimp only [whole]
    rw [handleProtocolMessage_decoder, handled_decoder]

theorem hears_whole (payloads : List Bytes) (e : Endpoint H) :
    run take e.whole (payloads.map .hear) = (run take e (payloads.map .hear)).whole := by
  induction payloads generalizing e with
  | nil => rfl
  | cons payload payloads ih =>
    rw [List.map_cons, run_cons, run_cons]
    change run take (e.whole.hear payload) _ = (run take (e.hear payload) _).whole
    rw [hear_whole, ih]

theorem hears_decoder (payloads : List Bytes) (e : Endpoint H) :
    (run take e (payloads.map .hear)).session.decoder = e.session.decoder := by
  induction payloads generalizing e with
  | nil => rfl
  | cons payload payloads ih =>
    rw [List.map_cons, run_cons]
    exact (ih (e.hear payload)).trans (hear_decoder payload e)

theorem whole_collect {e : Endpoint H} {d : SocketStateFrameDecoder}
    (h : d.reset = e.session.decoder.reset) : (take e (.collect d)).whole = e.whole :=
  congrArg (fun decoder => (⟨{ e.session with decoder }, e.exterior⟩ : Endpoint H)) h

/-- A chunk is the messages it completes, and what the decoder keeps of the rest. -/
theorem feed_hears {e : Endpoint H} (hon : e.session.initialized = true) (data : Bytes) :
    let r := e.session.decoder.push (fun payload payloads => payloads ++ [payload]) data []
    (e.perform (.feed data)).2 = take (run take e (r.2.2.map .hear)) (.collect r.2.1) ∧
      ((e.perform (.feed data)).1 = true → r.1 = true) := by
  intro r
  have hpush := SocketStateFrameDecoder.push_eq SocketStateSession.takeMessage data e.session.decoder
    (true, e.session, e.exterior)
  have hfeed : e.session.feed data e.exterior = _ := if_neg (by simp [hon])
  rw [hpush] at hfeed
  change _ = Endpoint.mk _ _ ∧ _
  rw [run_hear _ hon true]
  change Endpoint.mk (e.session.feed data e.exterior).2.1 (e.session.feed data e.exterior).2.2 = _ ∧
    ((e.session.feed data e.exterior).1 = true → r.1 = true)
  rw [hfeed]
  refine ⟨rfl, fun htrue => ?_⟩
  exact (Bool.and_eq_true_iff.mp htrue).1

/-- What every call keeps, messages keep. -/
theorem hears_preserves {P : H.World → Prop} (hP : Preserves H P) (payloads : List Bytes)
    {e : Endpoint H} (he : P e.exterior.world) :
    P (run take e (payloads.map .hear)).exterior.world := by
  induction payloads generalizing e with
  | nil => exact he
  | cons payload payloads ih =>
    rw [List.map_cons, run_cons]
    refine ih (e := e.hear payload) ?_
    unfold hear
    split_ifs
    · exact he
    · exact SocketStateSession.handleProtocolMessage_preserves hP payload e.session he

theorem hears_initialized (payloads : List Bytes) (e : Endpoint H) :
    (run take e (payloads.map .hear)).session.initialized = e.session.initialized := by
  induction payloads generalizing e with
  | nil => rfl
  | cons payload payloads ih =>
    rw [List.map_cons, run_cons]
    exact (ih (e.hear payload)).trans (hear_initialized payload e)

/-- On its own a session that stays up keeps its decoder. -/
theorem decoder_local {e : Endpoint H} (hresting : e.session.Resting) {a : Action H} (ha : a.IsLocal)
    (hon : e.session.initialized = true) (hstays : (e.step a).session.initialized = true) :
    (e.step a).session.decoder = e.session.decoder := by
  cases a with
  | initializeWith config handler observed =>
    change (e.session.initializeWith config handler observed e.exterior).2.1.decoder = _
    unfold SocketStateSession.initializeWith
    rw [if_pos hon]
  | shutdown =>
    have hoff : (e.session.shutdown e.exterior).1.initialized = false :=
      (hresting.shutdown e.exterior).1
    change (e.session.shutdown e.exterior).1.initialized = true at hstays
    rw [hoff] at hstays
    cases hstays
  | feed data => exact ha.elim
  | publish t => exact congrArg SocketStateSession.decoder (publish_session t e)
  | subscribe d => exact congrArg SocketStateSession.decoder (subscribe_session d e)
  | unsubscribe d => exact congrArg SocketStateSession.decoder (unsubscribe_session d e)
  | requestResynchronization t => rfl
  | setPeerBoundHandler handler => rfl
  | setAcknowledgementHandler handler => rfl
  | change store => rfl

end Endpoint

/-- What a chunk of a stream of frames brings out of a decoder: the next of them, and, if the chunk
is accepted, a part of the one behind them. -/
theorem push_split {d : SocketStateFrameDecoder} {data q : Bytes} (hdata : data ≠ [])
    {payloads : List Bytes} (hpayloads : ∀ p ∈ payloads, p ≠ [] ∧ p.length < 2 ^ 32)
    (hstream : d.buffer ++ data ++ q = (payloads.map (encodeFrame stateMagic)).flatten) :
    let r := d.push (fun payload payloads => payloads ++ [payload]) data []
    ∃ done rest, payloads = done ++ rest ∧ r.2.2 = done ∧
      (∀ p ∈ done, Fits d.maximumPayloadBytes.val p ∧
        d.maximumPayloadBytes.val + headerSize < 2 ^ SizeWidth.bits) ∧
      r.2.1.maximumPayloadBytes = d.maximumPayloadBytes ∧
      (r.1 = true → d.buffer ++ data = (done.map (encodeFrame stateMagic)).flatten ++ r.2.1.buffer ∧
        (frameFramer stateMagic d.maximumPayloadBytes.val).cut r.2.1.buffer = .more) := by
  intro r
  let F := frameFramer stateMagic d.maximumPayloadBytes.val
  have hmagic : stateMagic < 2 ^ 32 := by norm_num [stateMagic]
  have hpush : r = _ := if_neg hdata
  by_cases hfits : SocketStateFrameDecoder.fits d.maximumPayloadBytes d.buffer.length data.length = true
  · have hfeed : F.feed (SocketStateFrameDecoder.fits d.maximumPayloadBytes)
        (fun payload payloads => payloads ++ [payload]) d.buffer data [] =
          Framer.report (F.leftover (d.buffer ++ data), F.frames (d.buffer ++ data)) :=
      Framer.feed_eq_report hfits []
    have hcapacity := (of_decide_eq_true hfits).2
    have hr : r = ((Framer.report (F.leftover (d.buffer ++ data), F.frames (d.buffer ++ data))).1,
        { d with buffer :=
          (Framer.report (F.leftover (d.buffer ++ data), F.frames (d.buffer ++ data))).2.1 },
        (Framer.report (F.leftover (d.buffer ++ data), F.frames (d.buffer ++ data))).2.2) := by
      rw [hpush, ← hfeed]
    have hkinds : ∀ p ∈ payloads, F.Encodes (encodeFrame stateMagic) p ∨
        ∀ ys, ∃ e, F.cut (encodeFrame stateMagic p ++ ys) = .fail e := by
      intro p hp
      obtain ⟨hne, hlt⟩ := hpayloads p hp
      by_cases hle : p.length ≤ d.maximumPayloadBytes.val
      · exact .inl (encodes_frame hmagic ⟨hne, hle, hlt⟩)
      · right
        intro ys
        exact ⟨(), Framer.fail_append _ ys (cut_oversized hmagic hlt (not_le.mp hle))⟩
    obtain ⟨done, rest, hsplit, hframes, hdone, hpart⟩ := Framer.split_leftover hkinds hstream
    have htaken : r.2.2 = done := by
      rw [hr, ← hframes]
      exact Framer.report_state _
    have hwithin : ∀ p ∈ done, Fits d.maximumPayloadBytes.val p ∧
        d.maximumPayloadBytes.val + headerSize < 2 ^ SizeWidth.bits := by
      intro p hp
      obtain ⟨hne, hlt⟩ := hpayloads p (by rw [hsplit]; exact List.mem_append_left _ hp)
      refine ⟨⟨hne, not_lt.mp fun hlarge => ?_, hlt⟩, not_le.mp fun hwrap => ?_⟩
      · have hcut := (hdone p hp).cut_encode []
        rw [List.append_nil, cut_oversized hmagic hlt hlarge] at hcut
        cases hcut
      · -- a limit whose sum with the header wraps lets not even a header in
        have hheader : headerSize < 2 ^ SizeWidth.bits := uint32_lt_size (by norm_num [headerSize])
        have hsmall := sizeAdd_lt_of_wrap d.maximumPayloadBytes.isLt hwrap hheader
        have hshort : (d.buffer ++ data).length < headerSize := by
          rw [List.length_append]
          exact hcapacity.trans_lt hsmall
        have hmore : F.cut (d.buffer ++ data) = .more := if_pos hshort
        rw [← hframes, (Framer.drain_of_more hmore).2] at hp
        cases hp
    refine ⟨done, rest, hsplit, htaken, hwithin, by rw [hr], ?_⟩
    · rw [hr]
      cases hleft : F.leftover (d.buffer ++ data) with
      | error e => exact fun hfalse => by cases hfalse
      | ok part => exact fun _ => ⟨hpart part hleft, Framer.cut_leftover hleft⟩
  · have hfeed : F.feed (SocketStateFrameDecoder.fits d.maximumPayloadBytes)
        (fun payload payloads => payloads ++ [payload]) d.buffer data [] = (false, [], []) :=
      if_neg hfits
    have hr : r = (false, { d with buffer := [] }, []) := by
      rw [hpush, hfeed]
    rw [hr]
    exact ⟨[], payloads, rfl, rfl, by simp, rfl, fun hfalse => by cases hfalse⟩

/-- A payload that a session which is up accepts as a whole frame. -/
def Admits {H : StateHost L} (e : Endpoint H) (payload : Bytes) : Prop :=
  Fits e.session.decoder.maximumPayloadBytes.val payload ∧
    e.session.decoder.maximumPayloadBytes.val + headerSize < 2 ^ SizeWidth.bits

namespace Link
variable {m : Link L} {i : Side}

/-- A frame that is accepted is heard. -/
theorem deliver_hears (hempty : (m.side i).session.decoder.buffer = [])
    (hon : (m.side i).session.initialized = true) {payload : Bytes} {rest : List Bytes}
    (hflight : m.flight i.other = encodeFrame stateMagic payload :: rest)
    (hadmits : Admits (m.side i) payload) : (m.deliver i).side i = (m.side i).hear payload := by
  have hfeed := SocketStateSession.feed_frame hon hempty hadmits.2 hadmits.1 (m.side i).exterior
  have hdecoder := Endpoint.hear_decoder payload (m.side i)
  rw [Endpoint.hear_on hon] at hdecoder ⊢
  rw [deliver_side hflight]
  change Endpoint.mk ((m.side i).session.feed _ (m.side i).exterior).2.1
    ((m.side i).session.feed _ (m.side i).exterior).2.2 = _
  rw [hfeed, ← hdecoder]

theorem deliver_received {frame : Bytes} {rest : List Bytes}
    (hflight : m.flight i.other = frame :: rest) :
    (m.deliver i).received = Function.update m.received i (m.received i + 1) := by
  rw [deliver_cons hflight]

/-- The frames behind the one that is delivered. -/
theorem deliver_flight {frame : Bytes} {rest : List Bytes}
    (hflight : m.flight i.other = frame :: rest) : (m.deliver i).flight i.other = rest := by
  have hsent : (m.deliver i).sent i.other = m.sent i.other := by
    unfold sent
    rw [deliver_other (Side.other_ne i)]
  unfold flight at hflight ⊢
  rw [Side.other_other] at hflight ⊢
  rw [hsent, deliver_received (by rwa [flight, Side.other_other]), Function.update_self,
    ← List.drop_drop, hflight]
  rfl

/-- Frames that are accepted are heard one after the other. -/
theorem deliveries_hear (payloads : List Bytes) {rest : List Bytes}
    (hempty : (m.side i).session.decoder.buffer = [])
    (hon : (m.side i).session.initialized = true)
    (hflight : m.flight i.other = payloads.map (encodeFrame stateMagic) ++ rest)
    (hadmits : ∀ p ∈ payloads, Admits (m.side i) p) :
    let m' := run step m (List.replicate payloads.length (.deliver i))
    m'.side i = run Endpoint.take (m.side i) (payloads.map .hear) ∧
      m'.side i.other = m.side i.other ∧
      m'.received = Function.update m.received i (m.received i + payloads.length) := by
  induction payloads generalizing m with
  | nil => exact ⟨rfl, rfl, (Function.update_eq_self _ _).symm⟩
  | cons payload payloads ih =>
    have hfirst := deliver_hears hempty hon hflight (hadmits payload List.mem_cons_self)
    have hdecoder : ((m.deliver i).side i).session.decoder = (m.side i).session.decoder := by
      rw [hfirst, Endpoint.hear_decoder]
    obtain ⟨hside, hother, hreceived⟩ := ih (m := m.deliver i) (by rw [hdecoder]; exact hempty)
      (by rw [hfirst, Endpoint.hear_initialized]; exact hon) (deliver_flight hflight)
      (fun p hp => by
        unfold Admits
        rw [hdecoder]
        exact hadmits p (List.mem_cons_of_mem _ hp))
    rw [hfirst] at hside
    rw [deliver_other (Side.other_ne i)] at hother
    rw [deliver_received hflight, Function.update_self, Function.update_idem, Nat.add_assoc,
      Nat.add_comm 1] at hreceived
    exact ⟨hside, hother, hreceived⟩

end Link

namespace Stream
variable {n n' : Stream L} {m m' : Link L} {i : Side}

/-- How far a side has come that reads on: whole frames, and a part of the next one. -/
structure Position (n : Stream L) (m : Link L) (i : Side) : Prop where
  read_le : n.read i ≤ (n.bytes i.other).length
  taken : (n.bytes i.other).take (n.read i) = ((m.sent i.other).take (m.received i)).flatten ++
    (n.side i).session.decoder.buffer
  waits : (frameFramer stateMagic (n.side i).session.decoder.maximumPayloadBytes.val).cut
    (n.side i).session.decoder.buffer = .more
  unread : (n.side i).session.initialized = false → n.read i = 0

/-- The sessions are where those are between which frames are delivered whole. -/
structure Shadow (n : Stream L) (m : Link L) : Prop where
  orderly : m.Orderly
  side : ∀ i, m.side i = (n.side i).whole
  position : ∀ i, n.closed i = false → Position n m i

theorem Shadow.sent (h : Shadow n m) (i : Side) : m.sent i = n.sent i := by
  unfold Link.sent
  rw [h.side i]
  rfl

theorem Shadow.resting (h : Shadow n m) (i : Side) : (n.side i).session.Resting := by
  have hresting := h.orderly.resting i
  rw [h.side i] at hresting
  exact ⟨hresting.off, hresting.on⟩

/-- A position does not mind what the other side writes. -/
theorem Position.grown (h : Position n m i) (hside : n'.side i = n.side i)
    (hread : n'.read i = n.read i) (hreceived : m'.received i = m.received i)
    (hle : m.received i ≤ (m.sent i.other).length)
    (hbytes : n.sent i.other <+: n'.sent i.other) (hsent : m.sent i.other <+: m'.sent i.other) :
    Position n' m' i := by
  obtain ⟨more, hmore⟩ := hbytes
  obtain ⟨more', hmore'⟩ := hsent
  have hgrown : n'.bytes i.other = n.bytes i.other ++ more.flatten := by
    unfold bytes
    rw [← hmore, List.flatten_append]
  refine ⟨?_, ?_, ?_, ?_⟩
  · rw [hread, hgrown, List.length_append]
    exact h.read_le.trans (Nat.le_add_right _ _)
  · rw [hread, hgrown, List.take_append_of_le_length h.read_le, h.taken, hside, hreceived, ← hmore',
      List.take_append_of_le_length hle]
  · rw [hside]
    exact h.waits
  · rw [hside, hread]
    exact h.unread

/-- What a side has sent stays sent. -/
theorem grows_sent (frames : List Bytes) :
    Preserves (lineHost L) fun w => frames <+: w.sent where
  send _ frame w _ h := by
    change frames <+: if w.outcomes 0 then w.sent ++ [frame] else w.sent
    split_ifs
    · exact h.trans (List.prefix_append w.sent [frame])
    · exact h
  peerBound _ _ _ h := h
  acknowledged _ _ _ h := h

/-- A step is taken by one side. -/
theorem Shadow.of_side (h : Shadow n m) (horderly : m'.Orderly)
    (hother : n'.side i.other = n.side i.other ∧ m'.side i.other = m.side i.other)
    (hread : n'.read i.other = n.read i.other) (hclosed : n'.closed i.other = n.closed i.other)
    (hreceived : m'.received i.other = m.received i.other)
    (hside : m'.side i = (n'.side i).whole) (hgrows : n.sent i <+: n'.sent i)
    (hposition : n'.closed i = false → Position n' m' i) : Shadow n' m' := by
  have hsides (j : Side) : m'.side j = (n'.side j).whole := by
    rcases Side.eq_or_other i j with rfl | rfl
    · exact hside
    · rw [hother.1, hother.2]
      exact h.side i.other
  refine ⟨horderly, hsides, fun j hj => ?_⟩
  rcases Side.eq_or_other i j with rfl | rfl
  · exact hposition hj
  · rw [hclosed] at hj
    have hsent : m.sent i.other.other <+: m'.sent i.other.other := by
      have hsame : m'.sent i = n'.sent i := by
        unfold Link.sent
        rw [hside]
        rfl
      rw [Side.other_other, hsame, h.sent i]
      exact hgrows
    refine (h.position i.other hj).grown hother.1 hread hreceived
      (h.orderly.received_le i.other) ?_ hsent
    rwa [Side.other_other]

/-- What a session that is not shut down does locally leaves the part of the next frame alone. -/
theorem Position.part (h : Position n m i) (hresting : (n.side i).session.Resting)
    {a : Endpoint.Action (lineHost L)} (ha : a.IsLocal)
    (hstays : ((n.side i).session.initialized && !((n.side i).step a).session.initialized) = false) :
    let d := ((n.side i).step a).session.decoder
    d.buffer = (n.side i).session.decoder.buffer ∧
      (frameFramer stateMagic d.maximumPayloadBytes.val).cut d.buffer = .more ∧
      (((n.side i).step a).session.initialized = false → n.read i = 0) := by
  intro d
  cases hon : (n.side i).session.initialized with
  | true =>
    rw [hon, Bool.true_and, Bool.not_eq_false'] at hstays
    have hdecoder : d = (n.side i).session.decoder :=
      Endpoint.decoder_local hresting ha hon hstays
    refine ⟨by rw [hdecoder], by rw [hdecoder]; exact h.waits, fun hoff => ?_⟩
    rw [hstays] at hoff
    cases hoff
  | false =>
    have hread := h.unread hon
    have hempty : (n.side i).session.decoder.buffer = [] := by
      have htaken := h.taken
      rw [hread, List.take_zero] at htaken
      exact (List.append_eq_nil_iff.mp htaken.symm).2
    have hempty' : d.buffer = [] := Endpoint.empty_local hresting hempty ha
    refine ⟨hempty'.trans hempty.symm, ?_, fun _ => hread⟩
    rw [hempty']
    exact Framer.cut_nil _

/-- What a call does to one side, it does in the shadow. -/
theorem Shadow.act (h : Shadow n m) (hL : FaithfulProtocol L) {a : Endpoint.Action (lineHost L)}
    (ha : a.IsLocal) : Shadow (n.act i a) (m.act i a) := by
  have hside : (n.act i a).side i = (n.side i).step a := Function.update_self ..
  have hother : (n.act i a).side i.other = n.side i.other :=
    Function.update_of_ne (Side.other_ne i) ..
  have hbytes : (n.act i a).bytes i.other = n.bytes i.other := by
    unfold bytes Stream.sent
    rw [hother]
  have hsent : (m.act i a).sent i.other = m.sent i.other := by
    unfold Link.sent
    rw [Link.act_other (Side.other_ne i)]
  refine h.of_side (i := i) (h.orderly.step hL (.act i a ha))
    ⟨hother, Link.act_other (Side.other_ne i) a m⟩ rfl
    (Function.update_of_ne (Side.other_ne i) ..) rfl ?_ ?_ fun hopen => ?_
  · rw [Link.act_side, h.side i, Endpoint.step_whole (h.resting i) ha, hside]
  · unfold Stream.sent
    rw [hside]
    exact Endpoint.sustains_local (grows_sent _).toSustains ha (List.prefix_refl _)
  · have hclosed : (n.act i a).closed i = (n.closed i ||
        (n.side i).session.initialized && !((n.side i).step a).session.initialized) :=
      Function.update_self ..
    rw [hclosed] at hopen
    obtain ⟨hopen, hstays⟩ := Bool.or_eq_false_iff.mp hopen
    have hposition := h.position i hopen
    obtain ⟨hbuffer, hwaits, hunread⟩ := hposition.part (h.resting i) ha hstays
    refine ⟨?_, ?_, ?_, ?_⟩
    · rw [hbytes]
      exact hposition.read_le
    · rw [hbytes, hsent, hside, hbuffer]
      exact hposition.taken
    · rw [hside]
      exact hwaits
    · rw [hside]
      exact hunread

/-- What a side has not read makes whole frames with the part that it has. -/
theorem Position.rest (h : Position n m i) (hsent : m.sent i.other = n.sent i.other) (size : ℕ) :
    (n.side i).session.decoder.buffer ++ n.chunk i size ++
      ((n.bytes i.other).drop (n.read i)).drop size = (m.flight i.other).flatten := by
  have hframes : ((m.sent i.other).take (m.received i)).flatten ++ (m.flight i.other).flatten =
      n.bytes i.other := by
    rw [Link.flight, Side.other_other, ← List.flatten_append, List.take_append_drop, hsent, bytes]
  rw [List.append_assoc, chunk, List.take_append_drop]
  rw [← List.append_cancel_left_eq ((m.sent i.other).take (m.received i)).flatten, hframes,
    ← List.append_assoc, ← h.taken, List.take_append_drop]

omit [SizeWidth] in
/-- Frames that say something are frames around payloads. -/
theorem says_payloads {frames : List Bytes}
    (h : ∀ frame ∈ frames, Says (fun _ : Message L => True) frame) : ∃ payloads : List Bytes,
      frames = payloads.map (encodeFrame stateMagic) ∧ ∀ p ∈ payloads, p ≠ [] ∧ p.length < 2 ^ 32 := by
  induction frames with
  | nil => exact ⟨[], rfl, by simp⟩
  | cons frame frames ih =>
    obtain ⟨payloads, rfl, hpayloads⟩ := ih fun f hf => h f (List.mem_cons_of_mem _ hf)
    obtain ⟨payload, rfl, hne, hlt, -⟩ := h frame List.mem_cons_self
    exact ⟨payload :: payloads, rfl, List.forall_mem_cons.mpr ⟨⟨hne, hlt⟩, hpayloads⟩⟩

theorem Shadow.payloads (h : Shadow n m) (i : Side) : ∃ payloads : List Bytes,
    m.flight i.other = payloads.map (encodeFrame stateMagic) ∧
      ∀ p ∈ payloads, p ≠ [] ∧ p.length < 2 ^ 32 := by
  have hsays : ∀ frame ∈ m.flight i.other, Says (fun _ : Message L => True) frame :=
    fun frame hframe => h.orderly.whole i.other frame (List.mem_of_mem_drop hframe)
  exact says_payloads hsays

/-- A read is followed by the delivery of the frames it completes. -/
theorem Shadow.feed (h : Shadow n m) (hL : FaithfulProtocol L) (hopen : n.closed i = false)
    (hon : (n.side i).session.initialized = true) {size : ℕ} (hchunk : n.chunk i size ≠ []) :
    let r := n.feed i (n.chunk i size)
    ∃ k, let m' := run Link.step m (List.replicate k (.deliver i))
      m'.Orderly ∧ m'.side i = (r.2.side i).whole ∧ m'.side i.other = m.side i.other ∧
        m'.received i.other = m.received i.other ∧
        (r.2.side i).session.initialized = true ∧ n.sent i <+: r.2.sent i ∧
        (r.1 = true → Position r.2 m' i) := by
  intro r
  set e := n.side i with he
  set data := n.chunk i size with hdata
  have hposition := h.position i hopen
  obtain ⟨payloads, hpayloads, hsays⟩ := h.payloads i
  have hrest := hposition.rest (h.sent i.other) size
  rw [hpayloads] at hrest
  obtain ⟨done, rest, hsplit, hdone, hadmits, hlimit, htaken⟩ := push_split hchunk hsays hrest
  obtain ⟨hfed, hanswer⟩ := Endpoint.feed_hears hon data
  rw [hdone] at hfed
  set d := (e.session.decoder.push (fun payload payloads => payloads ++ [payload]) data []).2.1
    with hd
  have hflight : m.flight i.other = done.map (encodeFrame stateMagic) ++
      rest.map (encodeFrame stateMagic) := by
    rw [hpayloads, hsplit, List.map_append]
  obtain ⟨hside, hother, hreceived⟩ := Link.deliveries_hear (m := m) (i := i) done
    (h.orderly.empty i) (by rw [h.side i]; exact hon) hflight (by rw [h.side i]; exact hadmits)
  have hafter : r.2.side i = Endpoint.take (run Endpoint.take e (done.map .hear)) (.collect d) :=
    (Function.update_self ..).trans hfed
  have hotherside : r.2.side i.other = n.side i.other :=
    Function.update_of_ne (Side.other_ne i) ..
  have hbytes : r.2.bytes i.other = n.bytes i.other := by
    unfold bytes Stream.sent
    rw [hotherside]
  have hread : r.2.read i = n.read i + data.length := Function.update_self ..
  have hprefix : data <+: (n.bytes i.other).drop (n.read i) := List.take_prefix ..
  have hup : (r.2.side i).session.initialized = true := by
    rw [hafter]
    exact (Endpoint.hears_initialized _ e).trans hon
  refine ⟨done.length, run_induction (P := Link.Orderly) (fun _ a h => h.step hL a) h.orderly _,
    ?_, hother, ?_, hup, ?_, fun htrue => ?_⟩
  · rw [hside, hafter, h.side i, Endpoint.hears_whole]
    refine (Endpoint.whole_collect ?_).symm
    rw [Endpoint.hears_decoder]
    unfold SocketStateFrameDecoder.reset
    rw [hlimit]
  · rw [hreceived]
    exact Function.update_of_ne (Side.other_ne i) ..
  · unfold Stream.sent
    rw [hafter]
    exact Endpoint.hears_preserves (grows_sent _) done (List.prefix_refl _)
  · obtain ⟨hkept, hwaits⟩ := htaken (hanswer htrue)
    refine ⟨?_, ?_, ?_, ?_⟩
    · have hlength := hprefix.length_le
      have hle := hposition.read_le
      rw [List.length_drop] at hlength
      rw [hread, hbytes]
      omega
    · have hframes : (m.sent i.other).drop (m.received i) = m.flight i.other := by
        rw [Link.flight, Side.other_other]
      have hsent : (run Link.step m (List.replicate done.length (.deliver i))).sent i.other =
          m.sent i.other := by
        unfold Link.sent
        rw [hother]
      have htake : (done.map (encodeFrame stateMagic) ++ rest.map (encodeFrame stateMagic)).take
          done.length = done.map (encodeFrame stateMagic) := List.take_left' (by simp)
      rw [hread, hbytes, List.take_add, hposition.taken, ← List.prefix_iff_eq_take.mp hprefix,
        hsent, hreceived, Function.update_self, List.take_add, hframes, hflight, htake,
        List.flatten_append, hafter, List.append_assoc, List.append_assoc, hkept]
      rfl
    · rw [hafter]
      change (frameFramer stateMagic d.maximumPayloadBytes.val).cut d.buffer = .more
      rw [hlimit]
      exact hwaits
    · intro hoff
      rw [hup] at hoff
      cases hoff

/-- So is a read that ends in a shutdown. -/
theorem Shadow.receive (h : Shadow n m) (hL : FaithfulProtocol L) (size : ℕ) : ∃ actions,
    Answers (.receive i size) actions ∧ Shadow (n.receive i size) (run Link.step m actions) := by
  unfold Stream.receive
  split_ifs with hskip
  · exact ⟨[], .accepted i size 0, h⟩
  simp only [Bool.or_eq_true, Bool.not_eq_true', decide_eq_true_eq, not_or, Bool.not_eq_true,
    Bool.not_eq_false] at hskip
  obtain ⟨⟨hopen, hon⟩, hchunk⟩ := hskip
  obtain ⟨k, horderly, hside, hother, hreceived, hup, hgrows, hposition⟩ :=
    h.feed hL hopen hon hchunk
  have hotherside : (n.feed i (n.chunk i size)).2.side i.other = n.side i.other :=
    Function.update_of_ne (Side.other_ne i) ..
  have hread : (n.feed i (n.chunk i size)).2.read i.other = n.read i.other :=
    Function.update_of_ne (Side.other_ne i) ..
  dsimp only
  split_ifs with hanswer
  · exact ⟨_, .accepted i size k, h.of_side (i := i) horderly ⟨hotherside, hother⟩ hread rfl
      hreceived hside hgrows fun _ => hposition hanswer⟩
  · set n' := (n.feed i (n.chunk i size)).2
    set m' := run Link.step m (List.replicate k (.deliver i))
    have hresting : (n'.side i).session.Resting := by
      have hwhole := horderly.resting i
      rw [hside] at hwhole
      exact ⟨hwhole.off, hwhole.on⟩
    have hdown : ((n'.side i).step .shutdown).session.initialized = false :=
      (hresting.shutdown (n'.side i).exterior).1
    have hshutdown : (n'.act i .shutdown).side i = (n'.side i).step .shutdown :=
      Function.update_self ..
    refine ⟨_, .refused i size k, ?_⟩
    rw [run_append]
    refine h.of_side (i := i) (horderly.step hL (.act i .shutdown trivial)) ⟨?_, ?_⟩ hread
      (Function.update_of_ne (Side.other_ne i) ..) hreceived ?_ ?_ fun hopen' => ?_
    · exact (Function.update_of_ne (Side.other_ne i) ..).trans hotherside
    · exact (Link.act_other (Side.other_ne i) .shutdown m').trans hother
    · change (m'.act i .shutdown).side i = _
      rw [Link.act_side, hside, Endpoint.step_whole hresting (a := .shutdown) trivial, hshutdown]
    · refine hgrows.trans ?_
      unfold Stream.sent
      rw [hshutdown]
      exact Endpoint.sustains_local (grows_sent _).toSustains trivial (List.prefix_refl _)
    · have hclosed : (n'.act i .shutdown).closed i = (n'.closed i ||
          (n'.side i).session.initialized && !((n'.side i).step .shutdown).session.initialized) :=
        Function.update_self ..
      rw [hclosed, hup, hdown, Bool.true_and, Bool.not_false, Bool.or_true] at hopen'
      cases hopen'

theorem shadow_start (store : Side → Store L) (outcomes : Side → ℕ → Bool) :
    Shadow (start store outcomes) (Link.start store outcomes) where
  orderly := Link.orderly_start store outcomes
  side _ := rfl
  position _ _ := ⟨Nat.zero_le _, rfl, Framer.cut_nil _, fun _ => rfl⟩

theorem simulates (hL : FaithfulProtocol L) :
    Simulates (Stream.step (L := L)) Link.step (fun _ _ => True) Answers Shadow := by
  intro n m a _ h
  cases a with
  | act i a ha => exact ⟨[.act i a ha], .act i a ha, h.act hL ha⟩
  | receive i size => exact h.receive hL size

/-- No frame is kept waiting for bytes that do not belong to it. -/
theorem Position.all_read (h : Position n m i) (hshadow : Shadow n m)
    (hread : n.read i = (n.bytes i.other).length) : m.flight i.other = [] := by
  have hrest := h.rest (hshadow.sent i.other) 0
  rw [hread, List.drop_length, List.drop_nil, chunk, List.take_zero, List.append_nil,
    List.append_nil] at hrest
  have hwaits := h.waits
  obtain ⟨payloads, hpayloads, hsays⟩ := hshadow.payloads i
  cases payloads with
  | nil => exact hpayloads
  | cons payload payloads =>
    have hmagic : stateMagic < 2 ^ 32 := by norm_num [stateMagic]
    obtain ⟨hne, hlt⟩ := hsays payload List.mem_cons_self
    rw [hrest, hpayloads, List.map_cons, List.flatten_cons] at hwaits
    by_cases hle : payload.length ≤ (n.side i).session.decoder.maximumPayloadBytes.val
    · rw [(encodes_frame hmagic ⟨hne, hle, hlt⟩).cut_encode] at hwaits
      cases hwaits
    · rw [Framer.fail_append _ _ (cut_oversized hmagic hlt (not_le.mp hle))] at hwaits
      cases hwaits

/-- However the streams are cut into reads, two sessions do what they do between which frames are
delivered whole: the calls are the same, a read delivers the frames that it completes, and a side
that has read everything has been delivered everything. -/
theorem stream_refines (hL : FaithfulProtocol L) (store : Side → Store L)
    (outcomes : Side → ℕ → Bool) (actions : List (Action L)) :
    ∃ answers, List.Forall₂ Answers actions answers ∧
      let n := run Stream.step (start store outcomes) actions
      let m := run Link.step (Link.start store outcomes) answers.flatten
      ∀ i, m.side i = (n.side i).whole ∧ (n.closed i = false →
        (n.bytes i.other).take (n.read i) = ((m.sent i.other).take (m.received i)).flatten ++
          (n.side i).session.decoder.buffer ∧
        (n.read i = (n.bytes i.other).length → m.received i = (m.sent i.other).length)) := by
  obtain ⟨answers, hanswers, h⟩ := (simulates hL).run (shadow_start store outcomes)
    (Meets.of_forall (fun _ _ => trivial) _ actions)
  refine ⟨answers, hanswers, fun i => ⟨h.side i, fun hopen => ?_⟩⟩
  have hposition := h.position i hopen
  refine ⟨hposition.taken, fun hread => ?_⟩
  have hnone := hposition.all_read h hread
  rw [Link.flight, Side.other_other, List.drop_eq_nil_iff] at hnone
  exact le_antisymm (h.orderly.received_le i) hnone

end Stream
end Sockets.State

namespace Sockets.State.Stream
open Foundation

section Table

attribute [local instance] SizeWidth.host

/-- Device 2 subscribes to the type of device 1, and device 1 reads in pieces of 16 bytes. -/
def piecewise : List (Action tableLibrary) :=
  [.act .a (.initializeWith {} (some ()) true) trivial,
    .act .b (.initializeWith {} (some ()) true) trivial,
    .act .b (.subscribe ⟨1, .anyDevice, 0⟩) trivial, .receive .a 16, .receive .a 16]

theorem stream_refines_piecewise : ∃ answers, List.Forall₂ Answers piecewise answers ∧
    let m := run Link.step (Link.start Link.sourceStore fun _ _ => true) answers.flatten
    m.received .a = (m.sent .b).length := by
  obtain ⟨answers, hanswers, h⟩ := stream_refines faithfulProtocol_table Link.sourceStore
    (fun _ _ => true) piecewise
  obtain ⟨-, hreads⟩ := h .a
  exact ⟨answers, hanswers, (hreads (by decide +kernel)).2 (by decide +kernel)⟩

end Table
end Sockets.State.Stream
