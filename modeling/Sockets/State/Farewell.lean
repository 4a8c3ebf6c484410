import Sockets.State.Availability
import Sockets.State.Effects
import Sockets.State.Endpoint
import Sockets.State.Laws
import Sockets.State.Publications

/-! How a peer takes its leave, and what it is told while it is there. -/
namespace Sockets.State
open Foundation Sockets.Frame

variable {L : StateLibrary} {H : StateHost L}

/-- The value of a call of `SetAvailability` for a device. -/
def StateEvent.said (device : L.Device) : StateEvent L → Option RemoteDeviceAvailability
  | .availability d value => if d = device then some value else none
  | _ => none

/-- The value of the last such call. -/
def lastSaid (device : L.Device) (log : List (StateEvent L)) : Option RemoteDeviceAvailability :=
  (log.filterMap (StateEvent.said device)).getLast?

theorem lastSaid_bound (d : L.Device) (log : List (StateEvent L)) :
    lastSaid d (log ++ [.bound d, .availability d .connected]) = some .connected := by
  simp [lastSaid, StateEvent.said]

theorem lastSaid_left (d : L.Device) (log : List (StateEvent L)) :
    lastSaid d (log ++ [.left d, .availability d .disconnected]) = some .disconnected := by
  simp [lastSaid, StateEvent.said]

variable [SizeWidth]

/-- The frames that were handed over stay handed over. -/
theorem preserves_handed (frames : List Bytes) :
    Preserves H.recorded fun w => frames <+: w.2 where
  send _ frame w _ h := h.trans (List.prefix_append w.2 [frame])
  peerBound _ _ _ h := h
  acknowledged _ _ _ h := h

/-- All subscriptions that apply to the peer are among the announcements in these frames. -/
def Announced (s : SocketStateSession H) (subscriptions : L.Subscriptions) (frames : List Bytes) :
    Prop :=
  ∀ d ∈ L.descriptors subscriptions, s.subscriptionApplies d.scope d.device = true →
    (true, d.typeId) ∈ words L frames

namespace SocketStateSession

/-- What a session needs to send a control message. -/
structure Able (s : SocketStateSession H) : Prop where
  attached : s.attached = true
  handler : s.sendHandler.isSome = true
  control_le : L.controlSize ≤ s.config.maximumProtocolMessageBytes.val

variable {s : SocketStateSession H.recorded} {x : Exterior H.recorded}

/-- An announcement is handed over. -/
theorem Able.sendControl_handed (hs : s.Able) (hL : LawfulProtocol L) (t : StateTypeId)
    (horigin : L.origin x.store.publisher ≠ L.zero) : ∃ frame,
      (s.sendControl .subscribe t x).2.world.2 = x.world.2 ++ [frame] ∧
        wordOf (L := L) frame = some (true, t) := by
  obtain ⟨payload, hencode, hne, hlen, hparse⟩ :=
    hL.control ⟨.subscribe, L.origin x.store.publisher, t⟩ trivial horigin
  have hfits : Fits s.config.maximumProtocolMessageBytes.val payload :=
    ⟨hne, hlen.trans hs.control_le, hlen.trans_lt hL.controlSize_lt⟩
  have hframes : framesOf s.config.maximumProtocolMessageBytes (some payload) =
      [encodeFrame stateMagic payload] := by
    simp [framesOf, buildSocketStateFrame_eq hfits, encodeFrame_ne_nil]
  refine ⟨encodeFrame stateMagic payload, ?_, ?_⟩
  · unfold sendControl
    rw [if_neg (by simp [hs.attached]), sendEncoded_handed, if_pos hs.handler, hencode, hframes]
  · simp [wordOf, messageOf_encodeFrame, hparse]

/-- What `SendCurrentSubscriptionsLocked` hands over. -/
theorem Able.sendCurrentSubscriptions_handed (hs : s.Able) (hL : LawfulProtocol L)
    (hon : s.initialized = true) (horigin : L.origin x.store.publisher ≠ L.zero) : ∃ frames,
      (s.sendCurrentSubscriptions x).world.2 = x.world.2 ++ frames ∧
        Announced s x.store.subscriptions frames := by
  unfold sendCurrentSubscriptions Announced
  rw [if_neg (by simp [hs.attached, hon])]
  generalize L.descriptors x.store.subscriptions = ds
  induction ds generalizing x with
  | nil => exact ⟨[], (List.append_nil _).symm, by simp⟩
  | cons d ds ih =>
    by_cases happlies : s.subscriptionApplies d.scope d.device = true
    · have hannounce : s.announce x d = (s.sendControl .subscribe d.typeId x).2 := if_pos happlies
      obtain ⟨frame, hfirst, hword⟩ := hs.sendControl_handed hL d.typeId horigin
      have horigin' : L.origin (s.announce x d).store.publisher ≠ L.zero := by
        rwa [hannounce, sendControl_store]
      obtain ⟨frames, hrest, hall⟩ := ih horigin'
      refine ⟨frame :: frames, ?_, fun e he happ => ?_⟩
      · rw [List.foldl_cons, hrest, hannounce, hfirst, List.append_assoc, List.singleton_append]
      · rw [words, List.filterMap_cons_some hword]
        rcases List.mem_cons.mp he with rfl | he
        · exact List.mem_cons_self
        · exact List.mem_cons_of_mem _ (hall e he happ)
    · have hannounce : s.announce x d = x := if_neg happlies
      obtain ⟨frames, hrest, hall⟩ := ih horigin
      refine ⟨frames, by rw [List.foldl_cons, hannounce, hrest], fun e he happ => ?_⟩
      rcases List.mem_cons.mp he with rfl | he
      · exact absurd happ happlies
      · exact hall e he happ

end SocketStateSession

/-- The message is a `Disconnect` of a device that is the session's peer, or becomes it. -/
def Message.Leaves (m : Message L) (s : SocketStateSession H) : Bool :=
  match m with
  | .control c => decide (c.type = .disconnect) && s.admits c.device
  | _ => false

namespace SocketStateSession

section Log
variable {s : SocketStateSession H} {x : Exterior H}

theorem met_log (hattached : s.attached = true) (d : L.Device) :
    (s.met d x).log = x.log ++ [.bound d, .availability d .connected] := by
  unfold met
  dsimp only
  rw [if_pos hattached]
  split <;> simp [Exterior.setAvailability, Exterior.record]

theorem handleControl_log (hattached : s.attached = true) (c : ControlMessage L.Device) :
    (s.handleControl c x).2.2.log = x.log ++ if c.type = .disconnect then
      [.left s.remoteDevice, .availability s.remoteDevice .disconnected] else [] := by
  unfold handleControl
  cases htype : c.type with
  | subscribe =>
    dsimp only
    split_ifs <;> simp_all
  | unsubscribe => simp
  | resynchronize =>
    have hall (ts : List StateTypeId) (y : Exterior H) :
        (ts.foldl (fun x t => (s.sendSnapshotByType t x).2) y).log = y.log := by
      induction ts generalizing y with
      | nil => rfl
      | cons t ts ih => rw [List.foldl_cons, ih, sendSnapshotByType_log]
    dsimp only
    split_ifs <;> simp_all
  | disconnect => simp [hattached, Exterior.setAvailability, Exterior.record]
  | _ => simp

theorem handleUpdate_log (parsed : ParsedUpdate L.Device) :
    (s.handleUpdate parsed x).2.2.log = (s.bindPeer parsed.header.origin x).2.2.log := by
  unfold handleUpdate
  dsimp only
  split_ifs <;> simp [sendAcknowledgement]

theorem handleAcknowledgement_log (a : StateAcknowledgement L.Device) :
    (s.handleAcknowledgement a x).2.2.log = x.log := by
  unfold handleAcknowledgement
  split_ifs
  · rfl
  · split <;> rfl

/-- A session that knows its peer binds to nobody. -/
theorem bindPeer_bound (hbound : s.remoteDevice ≠ L.zero) (d : L.Device) :
    s.bindPeer d x = (s.admits d, s, x) := by
  cases hadmits : s.admits d with
  | false => exact bindPeer_refused hadmits x
  | true =>
    obtain ⟨hd, hexpected, hfree | hsame⟩ := of_decide_eq_true hadmits
    · exact absurd hfree hbound
    · exact bindPeer_known hd hsame hexpected x

theorem handleMessage_log (hattached : s.attached = true) (hbound : s.remoteDevice ≠ L.zero)
    (m : Message L) : (s.handleMessage m x).2.2.log = x.log ++ if m.Leaves s then
      [.left s.remoteDevice, .availability s.remoteDevice .disconnected] else [] := by
  cases m with
  | update parsed =>
    change (s.handleUpdate parsed x).2.2.log = _
    rw [handleUpdate_log, bindPeer_bound hbound]
    simp [Message.Leaves]
  | acknowledgement a =>
    change (s.handleAcknowledgement a x).2.2.log = _
    rw [handleAcknowledgement_log]
    simp [Message.Leaves]
  | control c =>
    have hbind : s.bindPeer c.device x = (s.admits c.device, s, x) := bindPeer_bound hbound _
    cases hadmits : s.admits c.device with
    | false => simp [handleMessage, Message.Leaves, hbind, hadmits]
    | true => simp [handleMessage, Message.Leaves, hbind, hadmits, handleControl_log hattached]

theorem handleMessage_remoteDevice (hbound : s.remoteDevice ≠ L.zero) (m : Message L) :
    (s.handleMessage m x).2.1.remoteDevice = s.remoteDevice := by
  rw [handleMessage_session]
  cases m.sender with
  | none => rfl
  | some d =>
    dsimp only
    split_ifs with hadmits
    · obtain ⟨-, -, hfree | hsame⟩ := of_decide_eq_true hadmits
      · exact absurd hfree hbound
      · exact hsame.symm
    · rfl

/-- Once its sender is bound, a message is handled as it would have been handled anyway. -/
theorem handleMessage_introduced {m : Message L} {d : L.Device} (hsender : m.sender = some d)
    (hadmits : s.admits d = true) : s.handleMessage m x =
      (s.bindPeer d x).2.1.handleMessage m (s.bindPeer d x).2.2 := by
  obtain ⟨hbound, hsession⟩ := bindPeer_admitted hadmits x
  obtain ⟨hd, hexpected, -⟩ := of_decide_eq_true hadmits
  have hagain : (s.bindPeer d x).2.1.bindPeer d (s.bindPeer d x).2.2 = s.bindPeer d x := by
    have hpeer : (s.bindPeer d x).2.1.remoteDevice = d := by rw [hsession]
    have hconfig : (s.bindPeer d x).2.1.config = s.config := by rw [hsession]
    rw [bindPeer_known hd hpeer (hconfig ▸ hexpected)]
    exact Prod.ext hbound.symm rfl
  cases m with
  | update parsed =>
    cases hsender
    change s.handleUpdate parsed x = handleUpdate parsed _ _
    unfold handleUpdate
    rw [hagain]
  | acknowledgement a => cases hsender
  | control c =>
    cases hsender
    unfold handleMessage
    dsimp only
    rw [hagain]

/-- Only a device that may be the peer can leave. -/
theorem leaves_refused {m : Message L} {d : L.Device} (hsender : m.sender = some d)
    (h : s.admits d = false) : m.Leaves s = false := by
  cases m with
  | control c =>
    cases hsender
    simp [Message.Leaves, h]
  | update parsed => rfl
  | acknowledgement a => rfl

theorem leaves_bound {m : Message L} {d : L.Device} (hsender : m.sender = some d)
    (h : s.admits d = true) : m.Leaves { s with remoteDevice := d } = m.Leaves s := by
  cases m with
  | control c =>
    cases hsender
    obtain ⟨hd, hexpected, -⟩ := of_decide_eq_true h
    have hagain : admits c.device { s with remoteDevice := c.device } = true :=
      decide_eq_true ⟨hd, hexpected, .inr rfl⟩
    simp only [Message.Leaves, h, hagain]
  | update parsed => rfl
  | acknowledgement a => rfl

/-- The peer that has left stays the peer. -/
theorem handleMessage_left (hattached : s.attached = true) {m : Message L}
    (hleaves : m.Leaves s = true) : (s.handleMessage m x).2.1.remoteDevice ≠ L.zero ∧
      lastSaid (s.handleMessage m x).2.1.remoteDevice (s.handleMessage m x).2.2.log =
        some .disconnected := by
  have hknown {s : SocketStateSession H} {x : Exterior H} (hattached : s.attached = true)
      (hbound : s.remoteDevice ≠ L.zero) (hleaves : m.Leaves s = true) :
      (s.handleMessage m x).2.1.remoteDevice ≠ L.zero ∧
        lastSaid (s.handleMessage m x).2.1.remoteDevice (s.handleMessage m x).2.2.log =
          some .disconnected := by
    rw [handleMessage_remoteDevice hbound, handleMessage_log hattached hbound, if_pos hleaves]
    exact ⟨hbound, lastSaid_left _ _⟩
  cases hsender : m.sender with
  | none => cases m <;> first | cases hleaves | cases hsender
  | some d =>
    cases hadmits : s.admits d with
    | false => exact absurd ((leaves_refused hsender hadmits).symm.trans hleaves) (by decide)
    | true =>
      obtain ⟨hd, -, -⟩ := of_decide_eq_true hadmits
      have hsession := (bindPeer_admitted hadmits x).2
      rw [handleMessage_introduced hsender hadmits]
      refine hknown ?_ ?_ ?_ <;> rw [hsession]
      · exact hattached
      · exact hd
      · rwa [leaves_bound hsender hadmits]

end Log

/-- A session that can send whenever it is initialised. -/
structure Ready (s : SocketStateSession H) : Prop extends Resting s where
  control_le : s.initialized = true → L.controlSize ≤ s.config.maximumProtocolMessageBytes.val

theorem Ready.able {s : SocketStateSession H} (h : s.Ready) (hon : s.initialized = true) : s.Able :=
  ⟨(h.on hon).1, (h.on hon).2.2, h.control_le hon⟩

/-- What a message leaves as it was. -/
structure Kept (r r' : Situation H) : Prop where
  initialized : r'.1.initialized = r.1.initialized
  attached : r'.1.attached = r.1.attached
  registered : r'.1.registered = r.1.registered
  handler : r'.1.sendHandler = r.1.sendHandler
  config : r'.1.config = r.1.config
  subscriptions : r'.2.store.subscriptions = r.2.store.subscriptions
  origin : L.origin r'.2.store.publisher = L.origin r.2.store.publisher

theorem Kept.refl (r : Situation H) : Kept r r := ⟨rfl, rfl, rfl, rfl, rfl, rfl, rfl⟩

theorem sendSnapshotByType_kept (hP : LawfulPublisher L) (t : StateTypeId) (s : SocketStateSession H)
    (x : Exterior H) : Kept (s, x) (s, (s.sendSnapshotByType t x).2) := by
  have hsnapshot : (s.sendSnapshotByType t x).2.store.subscriptions = x.store.subscriptions ∧
      L.origin (s.sendSnapshotByType t x).2.store.publisher = L.origin x.store.publisher := by
    unfold sendSnapshotByType sendSnapshot
    split_ifs
    · exact ⟨rfl, rfl⟩
    · dsimp only
      split
      · exact ⟨rfl, hP.origin_snapshot _ _⟩
      · rw [sendUpdate_store]
        exact ⟨rfl, hP.origin_snapshot _ _⟩
    · exact ⟨rfl, rfl⟩
  exact ⟨rfl, rfl, rfl, rfl, rfl, hsnapshot.1, hsnapshot.2⟩

theorem Deed.kept (hP : LawfulPublisher L) {m : Message L} {known : L.Device}
    {r₀ r r' : Situation H} (h : Deed m known r r') (hr : Kept r₀ r) : Kept r₀ r' := by
  have hstore {s : SocketStateSession H} {x y : Exterior H} (hx : Kept r₀ (s, x))
      (hsubscriptions : y.store.subscriptions = x.store.subscriptions)
      (hpublisher : L.origin y.store.publisher = L.origin x.store.publisher) : Kept r₀ (s, y) :=
    { hx with subscriptions := hsubscriptions.trans hx.subscriptions
              origin := hpublisher.trans hx.origin }
  cases h with
  | bind _ _ _ _ _ => exact { hr with }
  | available value _ => exact hstore hr rfl rfl
  | greet handler _ => exact hstore hr rfl rfl
  | announce t _ _ => exact hstore hr (by rw [sendControl_store]) (by rw [sendControl_store])
  | @apply s x parsed _ _ =>
    refine hstore hr (applyIncoming_subscriptions parsed x) ?_
    unfold applyIncoming
    split_ifs
    · split <;> rfl
    · split <;> rfl
    · rfl
  | acknowledge _ _ _ _ =>
    exact hstore hr (by rw [sendAcknowledgement_store]) (by rw [sendAcknowledgement_store])
  | report handler _ _ => exact hstore hr rfl rfl
  | add _ _ _ => exact { hr with }
  | remove _ _ _ => exact { hr with }
  | forget _ _ _ => exact { hr with }
  | @snapshot s x c t _ _ _ =>
    have hsnapshot := sendSnapshotByType_kept hP t s x
    exact hstore hr hsnapshot.subscriptions hsnapshot.origin
  | answer _ _ _ => exact hstore hr (by rw [sendControl_store]) (by rw [sendControl_store])

theorem handleProtocolMessage_kept (hP : LawfulPublisher L) (payload : Bytes)
    (s : SocketStateSession H) (x : Exterior H) :
    Kept (s, x) (s.handleProtocolMessage payload x).2 :=
  handleProtocolMessage_keeps (fun _ _ _ _ hdeed hr => hdeed.kept hP hr) payload (.refl (s, x))

theorem Ready.kept {r r' : Situation H} (h : r.1.Ready) (hkept : Kept r r')
    (hon : r.1.initialized = true) : r'.1.Ready := by
  have hon' : r'.1.initialized = true := hkept.initialized.trans hon
  obtain ⟨hattached, hregistered, hhandler⟩ := h.on hon
  refine ⟨⟨fun hoff => ?_, fun _ => ⟨?_, ?_, ?_⟩⟩, fun _ => ?_⟩
  · exact absurd (hon'.symm.trans hoff) (by decide)
  · exact hkept.attached.trans hattached
  · exact hkept.registered.trans hregistered
  · rwa [hkept.handler]
  · rw [hkept.config]
    exact h.control_le hon

end SocketStateSession

end Sockets.State
