import Sockets.State.Effects
import Sockets.State.Ledger
import Sockets.State.Peers

/-! Two State sessions and a channel in each direction, whatever else is done with the sessions. -/
namespace Sockets.State
open Foundation Sockets.Frame

variable (L : StateLibrary)

/-- One end of a connection: what the sends to come will return, the frames that have been sent, and
the acknowledgements that have been reported. -/
structure LineEnd where
  outcomes : ℕ → Bool
  sent : List Bytes := []
  reports : List (StateAcknowledgement L.Device) := []

@[reducible] def lineHost : StateHost L where
  World := LineEnd L
  SendHandler := Unit
  PeerBoundHandler := Unit
  AcknowledgementHandler := Unit
  send _ frame w := (w.outcomes 0, { w with
    outcomes := fun k => w.outcomes (k + 1)
    sent := if w.outcomes 0 then w.sent ++ [frame] else w.sent })
  peerBound _ _ w := w
  acknowledged _ a w := { w with reports := w.reports ++ [a] }

def lineLedger : Ledger (lineHost L) where
  frames w := w.sent
  send _ frame w := by
    cases h : w.outcomes 0
    · exact .inl (if_neg (by simp [h]))
    · exact .inr (if_pos h)
  peerBound _ _ _ := rfl
  acknowledged _ _ _ := rfl

variable [SizeWidth]

/-- `received i` counts the frames of the other side that have been fed to the session of side
`i`. -/
structure Link where
  side : Side → Endpoint (lineHost L)
  received : Side → ℕ := fun _ => 0

variable {L}

namespace Link

/-- Two sessions that have not been initialised, between which nothing has been sent. -/
def start (store : Side → Store L) (outcomes : Side → ℕ → Bool) : Link L where
  side i := { exterior := { store := store i, world := { outcomes := outcomes i } } }

def store (i : Side) (n : Link L) : Store L := (n.side i).exterior.store

/-- What a side has sent. -/
def sent (i : Side) (n : Link L) : List Bytes := (n.side i).exterior.world.sent

/-- What the acknowledgement handler of a side has been called with. -/
def reports (i : Side) (n : Link L) : List (StateAcknowledgement L.Device) :=
  (n.side i).exterior.world.reports

/-- What a side has sent and the other side has not received. -/
def flight (i : Side) (n : Link L) : List Bytes := (n.sent i).drop (n.received i.other)

/-- A call on one side. -/
def act (i : Side) (a : Endpoint.Action (lineHost L)) (n : Link L) : Link L :=
  { n with side := Function.update n.side i ((n.side i).step a) }

/-- The next frame on its way to a side is fed to the side's session. -/
def deliver (i : Side) (n : Link L) : Link L :=
  match n.flight i.other with
  | [] => n
  | frame :: _ =>
    { n.act i (.feed frame) with received := Function.update n.received i (n.received i + 1) }

variable (L) in
/-- `act` is everything that can be done with a side but `Feed`. -/
inductive Action where
  | act (side : Side) (action : Endpoint.Action (lineHost L)) (isLocal : action.IsLocal)
  | deliver (side : Side)

def step (n : Link L) : Action L → Link L
  | .act i a _ => n.act i a
  | .deliver i => n.deliver i

end Link

namespace SocketStateSession
variable {H : StateHost L} {P : Message L → Prop}

/-- A session between two frames handles the message in the next one, or does nothing. -/
theorem feed_whole {s : SocketStateSession H} (hempty : s.decoder.buffer = []) {frame : Bytes}
    (hframe : Says P frame) (x : Exterior H) : ∃ r : Situation H,
      (r = (s, x) ∨ ∃ m, messageOf L frame = some m ∧ r = (s.handleMessage m x).2) ∧
      (s.feed frame x).2 = ({ r.1 with decoder := s.decoder }, r.2) := by
  obtain ⟨payload, rfl, hne, hlt, -⟩ := hframe
  unfold SocketStateSession.feed
  split_ifs
  · exact ⟨(s, x), .inl rfl, rfl⟩
  · rcases push_whole takeMessage hempty hne hlt (true, s, x) with hpush | hpush
    · rw [hpush]
      refine ⟨(s.handleProtocolMessage payload x).2, ?_, rfl⟩
      rw [messageOf_encodeFrame]
      cases hparse : parse L payload with
      | none =>
        rw [handleProtocolMessage_none hparse]
        exact .inl rfl
      | some m =>
        rw [handleProtocolMessage_eq hparse]
        exact .inr ⟨m, rfl, rfl⟩
    · rw [hpush]
      exact ⟨(s, x), .inl rfl, rfl⟩

end SocketStateSession

/-- On its own a session never keeps a part of a frame. -/
theorem Endpoint.empty_local {H : StateHost L} {e : Endpoint H} (hresting : e.session.Resting)
    (hempty : e.session.decoder.buffer = []) {a : Action H} (ha : a.IsLocal) :
    (e.step a).session.decoder.buffer = [] := by
  cases a with
  | initializeWith config handler observed =>
    change (e.session.initializeWith config handler observed e.exterior).2.1.decoder.buffer = []
    cases hinitialized : e.session.initialized with
    | true => rwa [SocketStateSession.initializeWith, if_pos hinitialized]
    | false =>
      rw [SocketStateSession.initializeWith_eq hinitialized (hresting.off hinitialized).1]
      split_ifs
      · exact hempty
      · rfl
      · rfl
  | shutdown =>
    change (e.session.shutdown e.exterior).1.decoder.buffer = []
    cases hinitialized : e.session.initialized with
    | true =>
      rw [SocketStateSession.shutdown_on hinitialized (hresting.on hinitialized).1]
      rfl
    | false => rwa [SocketStateSession.shutdown_off hresting hinitialized]
  | feed data => exact ha.elim
  | publish t => exact (publish_session t e).symm ▸ hempty
  | subscribe d => exact (subscribe_session d e).symm ▸ hempty
  | unsubscribe d => exact (unsubscribe_session d e).symm ▸ hempty
  | requestResynchronization t => exact hempty
  | setPeerBoundHandler handler => exact hempty
  | setAcknowledgementHandler handler => exact hempty
  | change store => exact hempty

/-- What sending and greeting keep, everything but `Feed` keeps. -/
theorem Endpoint.sustains_local {H : StateHost L} {P : H.World → Prop} (hP : Sustains H P)
    {e : Endpoint H} {a : Action H} (ha : a.IsLocal) (he : P e.exterior.world) :
    P (e.step a).exterior.world := by
  have hnotify {f : SocketStateSession H → Exterior H → Exterior H} (e' : Endpoint H)
      (hsame : e'.exterior.world = e.exterior.world)
      (hf : ∀ s {x : Exterior H}, P x.world → P (f s x).world) :
      P (e'.notify f).exterior.world := by
    have he' : P e'.exterior.world := hsame ▸ he
    unfold notify
    split_ifs
    · exact he'
    · exact hf _ he'
  cases a with
  | initializeWith config handler observed =>
    exact SocketStateSession.initializeWith_preserves hP _ _ _ _ he
  | shutdown => exact SocketStateSession.shutdownLocked_preserves hP _ _ he
  | feed data => exact ha.elim
  | publish t =>
    change P (e.publish t).exterior.world
    unfold publish
    split_ifs
    · dsimp only
      split
      · exact he
      · exact hnotify _ rfl fun s _ => SocketStateSession.onTypedStatePublished_preserves hP _ _ s
    · exact he
  | subscribe d =>
    change P (e.subscribe d).exterior.world
    unfold subscribe
    dsimp only
    split_ifs
    · exact hnotify _ rfl fun s _ => SocketStateSession.onStateSubscribed_preserves hP _ s
    · exact he
  | unsubscribe d =>
    change P (e.unsubscribe d).exterior.world
    unfold unsubscribe
    dsimp only
    split_ifs
    · exact hnotify _ rfl fun s _ => SocketStateSession.onStateUnsubscribed_preserves hP _ s
    · exact he
  | requestResynchronization t =>
    exact SocketStateSession.requestResynchronization_preserves hP _ _ he
  | setPeerBoundHandler handler => exact he
  | setAcknowledgementHandler handler => exact he
  | change store => exact he

namespace Link
open SocketStateSession
variable {n : Link L} {i : Side}

/-- What holds between two steps: only whole frames are on their way. -/
structure Orderly (n : Link L) : Prop where
  resting : ∀ i, (n.side i).session.Resting
  empty : ∀ i, (n.side i).session.decoder.buffer = []
  whole : ∀ i, ∀ frame ∈ n.sent i, Says (fun _ : Message L => True) frame
  received_le : ∀ i, n.received i ≤ (n.sent i.other).length

theorem deliver_nil (h : n.flight i.other = []) : n.deliver i = n := by
  unfold deliver
  rw [h]

theorem deliver_cons {frame : Bytes} {rest : List Bytes} (h : n.flight i.other = frame :: rest) :
    n.deliver i = { n.act i (.feed frame) with
      received := Function.update n.received i (n.received i + 1) } := by
  unfold deliver
  rw [h]

theorem act_side (i : Side) (a : Endpoint.Action (lineHost L)) (n : Link L) :
    (n.act i a).side i = (n.side i).step a := Function.update_self ..

theorem act_other {j : Side} (hj : j ≠ i) (a : Endpoint.Action (lineHost L)) (n : Link L) :
    (n.act i a).side j = n.side j := Function.update_of_ne hj ..

theorem deliver_other {j : Side} (hj : j ≠ i) (n : Link L) : (n.deliver i).side j = n.side j := by
  unfold deliver
  split
  · rfl
  · exact act_other hj _ n

theorem deliver_side {frame : Bytes} {rest : List Bytes} (h : n.flight i.other = frame :: rest) :
    (n.deliver i).side i = (n.side i).step (.feed frame) := by
  rw [deliver_cons h]
  exact act_side i _ n

/-- The side that is fed handles the message in the frame, or does nothing. -/
theorem Orderly.hears (h : n.Orderly) {frame : Bytes} {rest : List Bytes}
    (hflight : n.flight i.other = frame :: rest) : ∃ r : Situation (lineHost L),
      (r = ((n.side i).session, (n.side i).exterior) ∨ ∃ m, messageOf L frame = some m ∧
        r = ((n.side i).session.handleMessage m (n.side i).exterior).2) ∧
      (n.deliver i).side i = ⟨{ r.1 with decoder := (n.side i).session.decoder }, r.2⟩ := by
  have hmem : frame ∈ n.flight i.other := hflight ▸ List.mem_cons_self
  obtain ⟨r, hr, hfeed⟩ := feed_whole (h.empty i)
    (h.whole i.other frame (List.mem_of_mem_drop hmem)) (n.side i).exterior
  refine ⟨r, hr, ?_⟩
  rw [deliver_side hflight]
  change Endpoint.mk ((n.side i).session.feed frame (n.side i).exterior).2.1
    ((n.side i).session.feed frame (n.side i).exterior).2.2 = _
  rw [hfeed]

/-- A step is taken by one side. -/
private theorem Orderly.of_side {n' : Link L} (h : n.Orderly)
    (hother : ∀ j ≠ i, n'.side j = n.side j) (hresting : (n'.side i).session.Resting)
    (hempty : (n'.side i).session.decoder.buffer = [])
    (hsent : Hands (lineLedger L) (fun _ => True) (n.side i).exterior (n'.side i).exterior)
    (hreceived : ∀ j, n'.received j ≤ (n.sent j.other).length) : n'.Orderly := by
  have hgrows (j : Side) : (n.sent j).length ≤ (n'.sent j).length := by
    by_cases hj : j = i
    · subst hj
      obtain ⟨frames, hframes, -⟩ := hsent
      change n'.sent j = n.sent j ++ frames at hframes
      rw [hframes, List.length_append]
      exact Nat.le_add_right _ _
    · rw [sent, sent, hother j hj]
  refine ⟨fun j => ?_, fun j => ?_, fun j => ?_, fun j => (hreceived j).trans (hgrows _)⟩
  all_goals by_cases hj : j = i
  · exact hj ▸ hresting
  · exact hother j hj ▸ h.resting j
  · exact hj ▸ hempty
  · exact hother j hj ▸ h.empty j
  · subst hj
    obtain ⟨frames, hframes, hspoken⟩ := hsent
    intro frame hframe
    have hmem : frame ∈ n.sent j ++ frames := hframes ▸ hframe
    exact (List.mem_append.mp hmem).elim (h.whole j frame) (hspoken frame)
  · have hsame : n'.sent j = n.sent j := by
      unfold sent
      rw [hother j hj]
    exact hsame ▸ h.whole j

theorem Orderly.step (h : n.Orderly) (hL : FaithfulProtocol L) (a : Action L) :
    (n.step a).Orderly := by
  cases a with
  | act i a ha =>
    have hside : (n.step (.act i a ha)).side i = (n.side i).step a := act_side i a n
    refine h.of_side (i := i) (fun j hj => act_other hj a n) ?_ ?_ ?_ h.received_le
    · rw [hside]
      exact Endpoint.resting_step _ a (h.resting i)
    · rw [hside]
      exact Endpoint.empty_local (h.resting i) (h.empty i) ha
    · rw [hside]
      exact Endpoint.hands_local _ hL (h.resting i) (fun _ => trivial) ha fun _ _ _ => trivial
  | deliver i =>
    change (n.deliver i).Orderly
    cases hflight : n.flight i.other with
    | nil => rwa [deliver_nil hflight]
    | cons frame rest =>
      obtain ⟨r, hr, hside⟩ := h.hears hflight
      refine h.of_side (i := i) (fun j hj => deliver_other hj n) ?_ ?_ ?_ fun j => ?_
      · rw [deliver_side hflight]
        exact Endpoint.resting_step _ _ (h.resting i)
      · rw [hside]
        exact h.empty i
      · rw [hside]
        rcases hr with rfl | ⟨m, -, rfl⟩
        · exact .of_eq rfl
        · exact handleMessage_replies _ hL (fun _ _ _ => trivial) _
      · rw [deliver_cons hflight]
        change Function.update n.received i (n.received i + 1) j ≤ _
        by_cases hj : j = i
        · subst hj
          have hlt : n.received j < (n.sent j.other).length := by
            by_contra hge
            rw [flight, Side.other_other, List.drop_eq_nil_of_le (not_lt.mp hge)] at hflight
            cases hflight
          rwa [Function.update_self]
        · rw [Function.update_of_ne hj]
          exact h.received_le j

theorem orderly_start (store : Side → Store L) (outcomes : Side → ℕ → Bool) :
    (start store outcomes).Orderly where
  resting _ := ⟨fun _ => ⟨rfl, rfl, rfl⟩, nofun⟩
  empty _ := rfl
  whole _ frame hframe := by cases hframe
  received_le _ := le_rfl

theorem orderly_run (hL : FaithfulProtocol L) (store : Side → Store L)
    (outcomes : Side → ℕ → Bool) (actions : List (Action L)) :
    (run step (start store outcomes) actions).Orderly :=
  run_induction (P := Orderly) (fun _ a h => h.step hL a) (orderly_start store outcomes) actions

end Link
end Sockets.State

namespace Sockets.State.Link
open Foundation

section Table

attribute [local instance] SizeWidth.host

/-- Device 1 has a source for the type 1, device 2 has none. -/
def sourceStore : Side → Store tableLibrary
  | .a => plainStore 1 (some 7)
  | .b => plainStore 2 none

/-- Device 2 subscribes to the type of device 1. -/
def requesting : List (Action tableLibrary) :=
  [.act .a (.initializeWith {} (some ()) true) trivial,
    .act .a (.setAcknowledgementHandler (some ())) trivial,
    .act .b (.initializeWith {} (some ()) true) trivial,
    .act .b (.subscribe ⟨1, .anyDevice, 0⟩) trivial]

end Table
end Sockets.State.Link
