import Sockets.State.Loyalty

/-! A session that is used again after a `Shutdown` does what a new one would do. -/
namespace Sockets.State
open Foundation Sockets.Frame

variable {L : StateLibrary}

variable (L) in
/-- A transport whose answers depend on the frames it has been handed; the other handlers keep state
of their own on their `Desk`. -/
structure Medium where
  SendHandler : Type
  PeerBoundHandler : Type
  AcknowledgementHandler : Type
  Desk : Type
  answer : SendHandler → List Bytes → Bytes → Bool
  peerBound : PeerBoundHandler → L.Device → Desk → Desk
  acknowledged : AcknowledgementHandler → StateAcknowledgement L.Device → Desk → Desk

@[reducible] def Medium.host (T : Medium L) : StateHost L where
  World := List Bytes × T.Desk
  SendHandler := T.SendHandler
  PeerBoundHandler := T.PeerBoundHandler
  AcknowledgementHandler := T.AcknowledgementHandler
  send handler frame w := (T.answer handler w.1 frame, w.1 ++ [frame], w.2)
  peerBound handler device w := (w.1, T.peerBound handler device w.2)
  acknowledged handler acknowledgement w := (w.1, T.acknowledged handler acknowledgement w.2)

/-- Registries that cannot be told apart by what they answer; those without subscribers cannot be
told from a new one. -/
structure Interchangeable (R : L.Subscribers → L.Subscribers → Prop) : Prop where
  empty : ∀ r, (∀ d t, L.hasSubscriber d t r = false) → R r L.noSubscribers
  add : ∀ d t r r', R r r' → (L.addSubscriber d t r').1 = (L.addSubscriber d t r).1 ∧
    R (L.addSubscriber d t r).2 (L.addSubscriber d t r').2
  remove : ∀ d t r r', R r r' → R (L.removeSubscriber d t r) (L.removeSubscriber d t r')
  removeDevice : ∀ d r r', R r r' → R (L.removeDevice d r) (L.removeDevice d r')
  hasSubscriber : ∀ d t r r', R r r' → L.hasSubscriber d t r' = L.hasSubscriber d t r
  subscribedTypes : ∀ d r r', R r r' → L.subscribedTypes d r' = L.subscribedTypes d r

/-- A record beside the registry does not make a difference. -/
theorem Interchangeable.recorded {R : L.Subscribers → L.Subscribers → Prop} (h : Interchangeable R) :
    Interchangeable (L := L.recorded) fun r r' => R r.1 r'.1 where
  empty r hr := h.empty r.1 hr
  add d t r r' hr := h.add d t r.1 r'.1 hr
  remove d t r r' hr := h.remove d t r.1 r'.1 hr
  removeDevice d r r' hr := h.removeDevice d r.1 r'.1 hr
  hasSubscriber d t r r' hr := h.hasSubscriber d t r.1 r'.1 hr
  subscribedTypes d r r' hr := h.subscribedTypes d r.1 r'.1 hr

theorem SubscriberSet.recorded (h : SubscriberSet L) : SubscriberSet L.recorded where
  empty := h.empty
  room d t r := h.room d t r.1
  add d t r := h.add d t r.1
  add_refused d t r := h.add_refused d t r.1
  remove d t r := h.remove d t r.1
  contract d t r := h.contract d t r.1
  removeDevice d r := h.removeDevice d r.1
  subscribedTypes d r := h.subscribedTypes d r.1

variable {T : Medium L}

/-- Something else on the desk. -/
def Exterior.withDesk (v : T.Desk) (x : Exterior T.host) : Exterior T.host :=
  { x with world := (x.world.1, v) }

theorem Exterior.withDesk_store (v : T.Desk) (x : Exterior T.host) :
    (x.withDesk v).store = x.store := rfl

variable [SizeWidth]

namespace SocketStateSession

/-- The same session with another registry and other handlers of the application. -/
def twin (r : L.Subscribers) (p : Option T.PeerBoundHandler) (a : Option T.AcknowledgementHandler)
    (s : SocketStateSession T.host) : SocketStateSession T.host :=
  { s with subscribers := r, peerBoundHandler := p, acknowledgementHandler := a }

variable {R : L.Subscribers → L.Subscribers → Prop} {r : L.Subscribers}
  {p : Option T.PeerBoundHandler} {a : Option T.AcknowledgementHandler}
  {s : SocketStateSession T.host} {x : Exterior T.host} {v : T.Desk}

section Sends
variable (r : L.Subscribers) (p : Option T.PeerBoundHandler) (a : Option T.AcknowledgementHandler)
  (s : SocketStateSession T.host) (x : Exterior T.host) (v : T.Desk)

theorem sendEncoded_twin (payload : Option Bytes) :
    (s.twin r p a).sendEncoded payload (x.withDesk v) =
      ((s.sendEncoded payload x).1, (s.sendEncoded payload x).2.withDesk v) := by
  cases payload with
  | none => rfl
  | some payload =>
    unfold sendEncoded sendProtocolPayload twin
    dsimp only
    split
    · rfl
    · split_ifs <;> rfl

theorem sendControl_twin (type : MessageType) (t : StateTypeId) :
    (s.twin r p a).sendControl type t (x.withDesk v) =
      ((s.sendControl type t x).1, (s.sendControl type t x).2.withDesk v) := by
  unfold sendControl
  change (if !s.attached then _ else _) = _
  split_ifs
  · rfl
  · exact sendEncoded_twin r p a s x v _

theorem sendAcknowledgement_twin (header : StateUpdateHeader L.Device) :
    (s.twin r p a).sendAcknowledgement header (x.withDesk v) =
      ((s.sendAcknowledgement header x).1, (s.sendAcknowledgement header x).2.withDesk v) :=
  sendEncoded_twin r p a s x v _

theorem sendUpdate_twin (update : StateUpdate L.Device L.Value) :
    (s.twin r p a).sendUpdate update (x.withDesk v) =
      ((s.sendUpdate update x).1, (s.sendUpdate update x).2.withDesk v) :=
  sendEncoded_twin r p a s x v _

theorem sendSnapshotByType_twin (t : StateTypeId) :
    (s.twin r p a).sendSnapshotByType t (x.withDesk v) =
      ((s.sendSnapshotByType t x).1, (s.sendSnapshotByType t x).2.withDesk v) := by
  unfold sendSnapshotByType sendSnapshot
  change (if t ∈ L.definitions then if !s.attached then _ else _ else _) = _
  split_ifs
  · rfl
  · dsimp only
    rw [Exterior.withDesk_store]
    obtain ⟨_ | update, q⟩ := L.snapshot t x.store.publisher
    · rfl
    · exact sendUpdate_twin r p a s { x with store := { x.store with publisher := q } } v update
  · rfl

theorem sendCurrentSubscriptions_twin : (s.twin r p a).sendCurrentSubscriptions (x.withDesk v) =
    (s.sendCurrentSubscriptions x).withDesk v := by
  unfold sendCurrentSubscriptions
  change (if !s.attached || !s.initialized then _ else
    (L.descriptors x.store.subscriptions).foldl _ _) = _
  split_ifs
  · rfl
  · generalize L.descriptors x.store.subscriptions = ds
    induction ds generalizing x with
    | nil => rfl
    | cons d ds ih =>
      have hfirst : (s.twin r p a).announce (x.withDesk v) d = (s.announce x d).withDesk v := by
        unfold announce
        change (if s.subscriptionApplies d.scope d.device then _ else _) = _
        split_ifs
        · rw [sendControl_twin]
        · rfl
      rw [List.foldl_cons, List.foldl_cons, hfirst]
      exact ih _

omit [SizeWidth] in
theorem applyIncoming_withDesk (parsed : ParsedUpdate L.Device) :
    applyIncoming parsed (x.withDesk v) =
      ((applyIncoming parsed x).1, (applyIncoming parsed x).2.withDesk v) := by
  unfold applyIncoming
  rw [Exterior.withDesk_store]
  by_cases hdefined : parsed.header.typeId ∈ L.definitions
  · rw [if_pos hdefined, if_pos hdefined]
    cases L.decodeValue parsed.header.typeId parsed with
    | none => rfl
    | some value =>
      dsimp only
      split_ifs <;> rfl
  · rw [if_neg hdefined, if_neg hdefined]

theorem closing_twin : (s.twin r p a).closing (x.withDesk v) = (s.closing x).withDesk v := by
  unfold closing
  change (if s.remoteDevice = L.zero then _ else Exterior.setAvailability _ _ (Exterior.record _
    (if s.config.sendDisconnectOnShutdown then _ else _))) = _
  rw [sendControl_twin]
  by_cases hfree : s.remoteDevice = L.zero
  · rw [if_pos hfree, if_pos hfree]
  · rw [if_neg hfree, if_neg hfree]
    dsimp only
    split_ifs <;> rfl

theorem onStateSubscribed_twin (d : Descriptor L.Device) :
    (s.twin r p a).onStateSubscribed d (x.withDesk v) = (s.onStateSubscribed d x).withDesk v := by
  unfold onStateSubscribed
  change (if !s.initialized || !s.subscriptionApplies d.scope d.device then _ else _) = _
  rw [sendControl_twin]
  split_ifs <;> rfl

theorem onStateUnsubscribed_twin (d : Descriptor L.Device) :
    (s.twin r p a).onStateUnsubscribed d (x.withDesk v) = (s.onStateUnsubscribed d x).withDesk v := by
  unfold onStateUnsubscribed
  change (if !s.initialized || !s.subscriptionApplies d.scope d.device then _ else _) = _
  rw [sendControl_twin]
  split_ifs <;> rfl

theorem requestResynchronization_twin (t : StateTypeId) :
    (s.twin r p a).requestResynchronization t (x.withDesk v) =
      ((s.requestResynchronization t x).1, (s.requestResynchronization t x).2.withDesk v) := by
  unfold requestResynchronization
  change (if !s.initialized then _ else _) = _
  rw [sendControl_twin]
  split_ifs <;> rfl

theorem onTypedStatePublished_twin (t : StateTypeId) (update : StateUpdate L.Device L.Value)
    (hknown : L.hasSubscriber s.remoteDevice t r = L.hasSubscriber s.remoteDevice t s.subscribers) :
    (s.twin r p a).onTypedStatePublished t update (x.withDesk v) =
      (s.onTypedStatePublished t update x).withDesk v := by
  unfold onTypedStatePublished
  change (if !s.initialized || decide (s.remoteDevice = L.zero) then _ else
    if !L.hasSubscriber s.remoteDevice t r then _ else _) = _
  rw [sendUpdate_twin, hknown]
  split_ifs <;> rfl

end Sends

/-- The same answer, from a session that is a twin, in front of a desk that may be another. -/
def Mirrors (R : L.Subscribers → L.Subscribers → Prop)
    (r r' : Bool × SocketStateSession T.host × Exterior T.host) : Prop :=
  ∃ subscribers p a v, r' = (r.1, r.2.1.twin subscribers p a, r.2.2.withDesk v) ∧
    R r.2.1.subscribers subscribers

theorem met_twin (d : L.Device) : ∃ v',
    (s.twin r p a).met d (x.withDesk v) = (s.met d x).withDesk v' := by
  have hattached : (s.twin r p a).attached = s.attached := rfl
  have hbefore : (if s.attached then ((x.withDesk v).record (.bound d)).setAvailability d .connected
      else (x.withDesk v).record (.bound d)) = (if s.attached
        then (x.record (.bound d)).setAvailability d .connected else x.record (.bound d)).withDesk v := by
    split_ifs <;> rfl
  unfold met
  rw [hattached]
  dsimp only
  rw [hbefore]
  cases p <;> cases s.peerBoundHandler <;> exact ⟨_, rfl⟩

theorem bindPeer_mirrors (d : L.Device) (hR : R s.subscribers r) :
    Mirrors R (s.bindPeer d x) ((s.twin r p a).bindPeer d (x.withDesk v)) := by
  have hadmits : (s.twin r p a).admits d = s.admits d := rfl
  cases hadmitted : s.admits d with
  | false =>
    rw [bindPeer_refused hadmitted, bindPeer_refused (hadmits.trans hadmitted)]
    exact ⟨r, p, a, v, rfl, hR⟩
  | true =>
    obtain ⟨hd, hexpected, hfree | hsame⟩ := of_decide_eq_true hadmitted
    · rw [bindPeer_free hd hfree hexpected,
        bindPeer_free (s := s.twin r p a) hd hfree hexpected]
      obtain ⟨v', hmet⟩ := met_twin (p := p) (a := a) (x := x) (v := v) d
      refine ⟨r, p, a, v', ?_, hR⟩
      rw [hmet]
      exact congrArg (fun y => (true, twin r p a { s with remoteDevice := d }, y))
        (sendCurrentSubscriptions_twin r p a { s with remoteDevice := d } (s.met d x) v')
    · rw [bindPeer_known hd hsame hexpected,
        bindPeer_known (s := s.twin r p a) hd hsame hexpected]
      exact ⟨r, p, a, v, rfl, hR⟩

theorem handleUpdate_mirrors (parsed : ParsedUpdate L.Device) (hR : R s.subscribers r) :
    Mirrors R (s.handleUpdate parsed x) ((s.twin r p a).handleUpdate parsed (x.withDesk v)) := by
  obtain ⟨r', p', a', v', hbind, hR'⟩ := bindPeer_mirrors (p := p) (a := a) (x := x) (v := v)
    parsed.header.origin hR
  unfold handleUpdate
  rw [hbind]
  generalize s.bindPeer parsed.header.origin x = b at hbind hR' ⊢
  dsimp only
  rw [applyIncoming_withDesk]
  dsimp only
  rw [sendAcknowledgement_twin]
  change Mirrors R _ (if !b.1 then _ else if !L.isSubscribed b.2.1.remoteDevice
    parsed.header.typeId b.2.2.store.subscriptions then _ else _)
  split_ifs <;> exact ⟨r', p', a', v', rfl, hR'⟩

theorem handleAcknowledgement_mirrors (acknowledgement : StateAcknowledgement L.Device)
    (hR : R s.subscribers r) : Mirrors R (s.handleAcknowledgement acknowledgement x)
      ((s.twin r p a).handleAcknowledgement acknowledgement (x.withDesk v)) := by
  unfold handleAcknowledgement
  change Mirrors R _ (if !s.attached ||
    decide (acknowledgement.origin ≠ L.origin x.store.publisher) then _ else _)
  split_ifs
  · exact ⟨r, p, a, v, rfl, hR⟩
  · cases a <;> cases s.acknowledgementHandler <;> exact ⟨r, p, _, _, rfl, hR⟩

private theorem resynchronizeAll_twin (types : List StateTypeId) :
    types.foldl (fun x t => ((s.twin r p a).sendSnapshotByType t x).2) (x.withDesk v) =
      (types.foldl (fun x t => (s.sendSnapshotByType t x).2) x).withDesk v := by
  induction types generalizing x with
  | nil => rfl
  | cons t types ih =>
    rw [List.foldl_cons, List.foldl_cons, sendSnapshotByType_twin]
    exact ih

theorem handleControl_mirrors (hI : Interchangeable R) (c : ControlMessage L.Device)
    (hR : R s.subscribers r) :
    Mirrors R (s.handleControl c x) ((s.twin r p a).handleControl c (x.withDesk v)) := by
  unfold handleControl
  cases htype : c.type with
  | subscribe =>
    obtain ⟨hanswer, hR'⟩ := hI.add s.remoteDevice c.typeId _ _ hR
    let added : SocketStateSession T.host :=
      { s with subscribers := (L.addSubscriber s.remoteDevice c.typeId s.subscribers).2 }
    have hadded : { s.twin r p a with subscribers := (L.addSubscriber (s.twin r p a).remoteDevice
        c.typeId (s.twin r p a).subscribers).2 } =
          added.twin (L.addSubscriber s.remoteDevice c.typeId r).2 p a := rfl
    dsimp only
    rw [hadded, sendSnapshotByType_twin]
    dsimp only
    rw [sendControl_twin]
    change Mirrors R _ (if !(L.addSubscriber s.remoteDevice c.typeId r).1 then _ else _)
    rw [hanswer]
    split_ifs <;> exact ⟨_, p, a, v, rfl, hR'⟩
  | unsubscribe =>
    have hR' := hI.remove s.remoteDevice c.typeId _ _ hR
    let removed : SocketStateSession T.host :=
      { s with subscribers := L.removeSubscriber s.remoteDevice c.typeId s.subscribers }
    have hremoved : { s.twin r p a with subscribers := (L.removeSubscriber
        (s.twin r p a).remoteDevice c.typeId (s.twin r p a).subscribers) } =
          removed.twin (L.removeSubscriber s.remoteDevice c.typeId r) p a := rfl
    dsimp only
    rw [hremoved, sendControl_twin]
    exact ⟨_, p, a, v, rfl, hR'⟩
  | resynchronize =>
    have hknown : L.hasSubscriber (s.twin r p a).remoteDevice c.typeId (s.twin r p a).subscribers =
        L.hasSubscriber s.remoteDevice c.typeId s.subscribers := hI.hasSubscriber _ _ _ _ hR
    have htypes : L.subscribedTypes (s.twin r p a).remoteDevice (s.twin r p a).subscribers =
        L.subscribedTypes s.remoteDevice s.subscribers := hI.subscribedTypes _ _ _ hR
    dsimp only
    rw [hknown, htypes, sendSnapshotByType_twin, resynchronizeAll_twin]
    split_ifs <;> exact ⟨r, p, a, v, rfl, hR⟩
  | disconnect =>
    have hR' := hI.removeDevice s.remoteDevice _ _ hR
    dsimp only
    change Mirrors R _ (true, _, if s.attached then _ else _)
    split_ifs <;> exact ⟨_, p, a, v, rfl, hR'⟩
  | _ => exact ⟨r, p, a, v, rfl, hR⟩

theorem handleMessage_mirrors (hI : Interchangeable R) (m : Message L) (hR : R s.subscribers r) :
    Mirrors R (s.handleMessage m x) ((s.twin r p a).handleMessage m (x.withDesk v)) := by
  cases m with
  | update parsed => exact handleUpdate_mirrors parsed hR
  | acknowledgement acknowledgement => exact handleAcknowledgement_mirrors acknowledgement hR
  | control c =>
    obtain ⟨r', p', a', v', hbind, hR'⟩ := bindPeer_mirrors (p := p) (a := a) (x := x) (v := v)
      c.device hR
    unfold handleMessage
    dsimp only
    rw [hbind]
    generalize s.bindPeer c.device x = b at hR' ⊢
    obtain ⟨_ | _, b⟩ := b
    · exact ⟨r', p', a', v', rfl, hR'⟩
    · exact handleControl_mirrors hI c hR'

theorem Mirrors.takeMessage (hI : Interchangeable R)
    {b b' : Bool × SocketStateSession T.host × Exterior T.host} (h : Mirrors R b b')
    (payload : Bytes) : Mirrors R (takeMessage payload b) (takeMessage payload b') := by
  obtain ⟨r, p, a, v, rfl, hR⟩ := h
  unfold SocketStateSession.takeMessage
  dsimp only
  cases hparse : parse L payload with
  | none =>
    rw [handleProtocolMessage_none hparse, handleProtocolMessage_none hparse]
    exact ⟨r, p, a, v, rfl, hR⟩
  | some m =>
    obtain ⟨r', p', a', v', hmessage, hR'⟩ :=
      handleMessage_mirrors (p := p) (a := a) (x := b.2.2) (v := v) hI m hR
    rw [handleProtocolMessage_eq hparse, handleProtocolMessage_eq hparse, hmessage]
    exact ⟨r', p', a', v', rfl, hR'⟩

theorem feed_mirrors (hI : Interchangeable R) (data : Bytes) (hR : R s.subscribers r) :
    Mirrors R (s.feed data x) ((s.twin r p a).feed data (x.withDesk v)) := by
  have hpayloads (payloads : List Bytes) {b b' : Bool × SocketStateSession T.host × Exterior T.host}
      (h : Mirrors R b b') : Mirrors R (payloads.foldl (fun b payload => takeMessage payload b) b)
        (payloads.foldl (fun b payload => takeMessage payload b) b') := by
    induction payloads generalizing b b' with
    | nil => exact h
    | cons payload payloads ih => exact ih (h.takeMessage hI payload)
  have hstart : Mirrors R (true, s, x) (true, s.twin r p a, x.withDesk v) := ⟨r, p, a, v, rfl, hR⟩
  obtain ⟨r', p', a', v', hdrained, hR'⟩ := hpayloads (s.decoder.payloads data) hstart
  have hdecoder : (s.twin r p a).decoder = s.decoder := rfl
  have hinitialized : (s.twin r p a).initialized = s.initialized := rfl
  have hpush := s.decoder.push_eq takeMessage data (true, s, x)
  have hpush' := s.decoder.push_eq takeMessage data (true, s.twin r p a, x.withDesk v)
  rw [hdrained] at hpush'
  unfold SocketStateSession.feed
  rw [hdecoder, hinitialized, hpush, hpush']
  split_ifs
  · exact ⟨r, p, a, v, rfl, hR⟩
  · exact ⟨r', p', a', v', rfl, hR'⟩

/-- The subscribers belong to the peer. -/
def Owned {H : StateHost L} (s : SocketStateSession H) : Prop :=
  ∀ d t, L.hasSubscriber d t s.subscribers = true → d = s.remoteDevice ∧ d ≠ L.zero

theorem Owned.none {H : StateHost L} {s : SocketStateSession H} (h : s.Owned)
    (hfree : s.remoteDevice = L.zero) (d : L.Device) (t : StateTypeId) :
    L.hasSubscriber d t s.subscribers = false := by
  by_contra hd
  obtain ⟨hsame, hne⟩ := h d t (by simpa using hd)
  exact hne (hsame.trans hfree)

theorem Deed.owned {H : StateHost L} (hS : SubscriberSet L) {m : Message L} {known : L.Device}
    {b b' : Situation H} (h : Deed m known b b') (hb : b.1.Owned) : b'.1.Owned := by
  cases h with
  | @bind s x d _ hfree _ _ _ =>
    exact fun d' t hd' => absurd (hd'.symm.trans (hb.none hfree d' t)) Bool.noConfusion
  | @add s x c _ _ hpeer =>
    intro d t hd
    cases hadd : (L.addSubscriber s.remoteDevice c.typeId s.subscribers).1 with
    | true =>
      rcases (hS.add _ _ _ hadd d t).mp hd with ⟨rfl, -⟩ | hold
      · exact ⟨rfl, hpeer.1⟩
      · exact hb d t hold
    | false =>
      have hsame := hS.add_refused _ _ _ hadd d t
      exact hb d t (hsame.symm.trans hd)
  | remove _ _ _ => exact fun d t hd => hb d t ((hS.remove _ _ _ d t).mp hd).2
  | forget _ _ _ => exact fun d t hd => hb d t ((hS.removeDevice _ _ d t).mp hd).2
  | _ => exact hb

theorem Owned.shutdown {H : StateHost L} {s : SocketStateSession H} (hS : SubscriberSet L)
    (h : s.Owned) (hresting : s.Resting) (x : Exterior H) (d : L.Device) (t : StateTypeId) :
    L.hasSubscriber d t (s.shutdown x).1.subscribers = false := by
  cases hinitialized : s.initialized with
  | false =>
    rw [shutdown_off hresting hinitialized]
    exact h.none (hresting.off hinitialized).1 d t
  | true =>
    rw [shutdown_on hinitialized (hresting.on hinitialized).1]
    unfold ended
    dsimp only
    split_ifs with hfree
    · exact h.none hfree d t
    · by_contra hd
      obtain ⟨hne, hold⟩ := (hS.removeDevice _ _ d t).mp (by simpa using hd)
      exact hne (h d t hold).1

theorem Owned.initializeWith {H : StateHost L} {s : SocketStateSession H} (h : s.Owned)
    (hresting : s.Resting) (config : SocketStateSessionConfig L) (handler : Option H.SendHandler)
    (observed : Bool) (x : Exterior H) :
    (s.initializeWith config handler observed x).2.1.Owned := by
  cases hinitialized : s.initialized with
  | true => rwa [SocketStateSession.initializeWith, if_pos hinitialized]
  | false =>
    have hnone := h.none (hresting.off hinitialized).1
    rw [initializeWith_eq hinitialized (hresting.off hinitialized).1]
    split_ifs
    · exact h
    · exact h
    · exact fun d t hd => absurd (hd.symm.trans (hnone d t)) Bool.noConfusion

end SocketStateSession

namespace Endpoint
open SocketStateSession

/-- In every run the subscribers belong to the peer. -/
theorem owned_step {H : StateHost L} (hS : SubscriberSet L) (e : Endpoint H) (a : Action H)
    (h : e.session.Resting ∧ e.session.Owned) : (e.step a).session.Resting ∧ (e.step a).session.Owned := by
  obtain ⟨hresting, howned⟩ := h
  refine ⟨resting_step e a hresting, ?_⟩
  cases a with
  | initializeWith config handler observed => exact howned.initializeWith hresting _ _ _ _
  | shutdown =>
    exact fun d t hd =>
      absurd (hd.symm.trans (howned.shutdown hS hresting e.exterior d t)) Bool.noConfusion
  | feed data =>
    exact feed_keeps (Q := fun b : Situation H => b.1.Owned)
      (fun m known b b' hdeed hb => hdeed.owned hS hb) (fun _ _ _ hb => hb) data howned
  | publish t => exact (publish_session t e).symm ▸ howned
  | subscribe d => exact (subscribe_session d e).symm ▸ howned
  | unsubscribe d => exact (unsubscribe_session d e).symm ▸ howned
  | requestResynchronization t => exact howned
  | setPeerBoundHandler handler => exact howned
  | setAcknowledgementHandler handler => exact howned
  | change store => exact howned

/-- Two endpoints that only differ in what nobody else can see. -/
structure Alike (R : L.Subscribers → L.Subscribers → Prop) (e e' : Endpoint T.host) : Prop where
  exterior : ∃ v, e'.exterior = e.exterior.withDesk v
  off : e.session.initialized = false →
    e'.session.initialized = false ∧ R e.session.subscribers e'.session.subscribers
  on : e.session.initialized = true → ∃ r p a,
    e'.session = e.session.twin r p a ∧ R e.session.subscribers r

variable {R : L.Subscribers → L.Subscribers → Prop} {e e' : Endpoint T.host}

private theorem opening_twin {r : L.Subscribers} {p : Option T.PeerBoundHandler}
    {a : Option T.AcknowledgementHandler} (s : SocketStateSession T.host) (x : Exterior T.host)
    (v : T.Desk) : ∃ v', (s.twin r p a).opening (x.withDesk v) = (s.opening x).withDesk v' := by
  unfold opening
  change ∃ v', (if s.remoteDevice = L.zero then _ else _) = _
  split_ifs
  · exact ⟨v, sendCurrentSubscriptions_twin r p a s x v⟩
  · obtain ⟨v', hmet⟩ := met_twin (r := r) (p := p) (a := a) (s := s) (x := x) (v := v) s.remoteDevice
    refine ⟨v', ?_⟩
    change (s.twin r p a).sendCurrentSubscriptions ((s.twin r p a).sendCurrentSubscriptions
      ((s.twin r p a).met s.remoteDevice (x.withDesk v))) = _
    rw [hmet, sendCurrentSubscriptions_twin, sendCurrentSubscriptions_twin]

/-- From now on both do the same, whatever happens. -/
theorem Alike.initializeWith (h : Alike R e e') (hresting : e.session.Resting)
    (hresting' : e'.session.Resting) (config : SocketStateSessionConfig L)
    (handler : Option T.SendHandler) (observed : Bool) :
    (e'.perform (.initializeWith config handler observed)).1 =
        (e.perform (.initializeWith config handler observed)).1 ∧
      Alike R (e.step (.initializeWith config handler observed))
        (e'.step (.initializeWith config handler observed)) := by
  obtain ⟨v, hexterior⟩ := h.exterior
  change (e'.session.initializeWith config handler observed e'.exterior).1 =
      (e.session.initializeWith config handler observed e.exterior).1 ∧
    Alike R ⟨(e.session.initializeWith config handler observed e.exterior).2.1, _⟩
      ⟨(e'.session.initializeWith config handler observed e'.exterior).2.1, _⟩
  cases hinitialized : e.session.initialized with
  | true =>
    obtain ⟨r, p, a, hsession, hR⟩ := h.on hinitialized
    have hinitialized' : e'.session.initialized = true := by
      rw [hsession]
      exact hinitialized
    have hsame : e.session.initializeWith config handler observed e.exterior =
        (true, e.session, e.exterior) := if_pos hinitialized
    have hsame' : e'.session.initializeWith config handler observed e'.exterior =
        (true, e'.session, e'.exterior) := if_pos hinitialized'
    rw [hsame, hsame']
    exact ⟨rfl, h⟩
  | false =>
    obtain ⟨hinitialized', hR⟩ := h.off hinitialized
    rw [initializeWith_eq hinitialized (hresting.off hinitialized).1,
      initializeWith_eq hinitialized' (hresting'.off hinitialized').1]
    split_ifs
    · exact ⟨rfl, h⟩
    · refine ⟨rfl, h.exterior, fun _ => ⟨hinitialized', hR⟩, fun hon => ?_⟩
      exact absurd (hinitialized.symm.trans hon) Bool.noConfusion
    · have hprepared : e'.session.prepared config handler = (e.session.prepared config handler).twin
          e'.session.subscribers e'.session.peerBoundHandler e'.session.acknowledgementHandler := rfl
      rw [hprepared, hexterior]
      exact ⟨rfl, opening_twin _ _ v, nofun, fun _ => ⟨_, _, _, rfl, hR⟩⟩

theorem Alike.shutdown (hI : Interchangeable R) (h : Alike R e e') (hresting : e.session.Resting)
    (hresting' : e'.session.Resting) : Alike R (e.step .shutdown) (e'.step .shutdown) := by
  obtain ⟨v, hexterior⟩ := h.exterior
  change Alike R ⟨(e.session.shutdown e.exterior).1, _⟩ ⟨(e'.session.shutdown e'.exterior).1, _⟩
  cases hinitialized : e.session.initialized with
  | true =>
    obtain ⟨r, p, a, hsession, hR⟩ := h.on hinitialized
    have htwin : (e.session.twin r p a).shutdown e'.exterior =
        ((e.session.twin r p a).ended, (e.session.twin r p a).closing e'.exterior) :=
      shutdown_on (s := e.session.twin r p a) hinitialized (hresting.on hinitialized).1 _
    rw [shutdown_on hinitialized (hresting.on hinitialized).1, hsession, htwin, hexterior, closing_twin]
    refine ⟨⟨v, rfl⟩, fun _ => ⟨rfl, ?_⟩, nofun⟩
    change R (if e.session.remoteDevice = L.zero then _ else _)
      (if e.session.remoteDevice = L.zero then _ else _)
    split_ifs
    · exact hR
    · exact hI.removeDevice _ _ _ hR
  | false =>
    rw [shutdown_off hresting hinitialized, shutdown_off hresting' (h.off hinitialized).1]
    exact h

theorem Alike.feed (hI : Interchangeable R) (h : Alike R e e') (data : Bytes) :
    (e'.perform (.feed data)).1 = (e.perform (.feed data)).1 ∧
      Alike R (e.step (.feed data)) (e'.step (.feed data)) := by
  obtain ⟨v, hexterior⟩ := h.exterior
  change (e'.session.feed data e'.exterior).1 = (e.session.feed data e.exterior).1 ∧
    Alike R ⟨(e.session.feed data e.exterior).2.1, _⟩ ⟨(e'.session.feed data e'.exterior).2.1, _⟩
  cases hinitialized : e.session.initialized with
  | true =>
    obtain ⟨r, p, a, hsession, hR⟩ := h.on hinitialized
    obtain ⟨r', p', a', v', hfeed, hR'⟩ :=
      feed_mirrors (p := p) (a := a) (x := e.exterior) (v := v) hI data hR
    have hon : (e.session.feed data e.exterior).2.1.initialized = true :=
      (feed_same data e.session e.exterior).1.trans hinitialized
    rw [hsession, hexterior, hfeed]
    refine ⟨rfl, ⟨v', rfl⟩, fun hoff => ?_, fun _ => ⟨r', p', a', rfl, hR'⟩⟩
    exact absurd (hoff.symm.trans hon) Bool.noConfusion
  | false =>
    have hidle : e.session.feed data e.exterior = (false, e.session, e.exterior) :=
      if_pos (by simp [hinitialized])
    have hidle' : e'.session.feed data e'.exterior = (false, e'.session, e'.exterior) :=
      if_pos (by simp [(h.off hinitialized).1])
    rw [hidle, hidle']
    exact ⟨rfl, h⟩

/-- A notification that a twin takes in the same way. -/
private theorem Alike.notify (h : Alike R e e') (hresting : e.session.Resting)
    (hresting' : e'.session.Resting)
    {f : SocketStateSession T.host → Exterior T.host → Exterior T.host}
    (hf : ∀ s r p a x v, R s.subscribers r →
      f (s.twin r p a) (x.withDesk v) = (f s x).withDesk v) :
    Alike R (e.notify f) (e'.notify f) := by
  obtain ⟨v, hexterior⟩ := h.exterior
  cases hinitialized : e.session.initialized with
  | true =>
    obtain ⟨r, p, a, hsession, hR⟩ := h.on hinitialized
    have hregistered := (hresting.on hinitialized).2.1
    have hregistered' : e'.session.registered = true := by
      rw [hsession]
      exact hregistered
    have hnotify : e.notify f = { e with exterior := f e.session e.exterior } :=
      if_neg (by simp [hregistered])
    have hnotify' : e'.notify f = { e' with exterior := f e'.session e'.exterior } :=
      if_neg (by simp [hregistered'])
    rw [hnotify, hnotify']
    refine ⟨⟨v, ?_⟩, h.off, h.on⟩
    change f e'.session e'.exterior = _
    rw [hsession, hexterior]
    exact hf _ r p a _ v hR
  | false =>
    have hidle : e.notify f = e := if_pos (by simp [(hresting.off hinitialized).2.2])
    have hidle' : e'.notify f = e' :=
      if_pos (by simp [(hresting'.off (h.off hinitialized).1).2.2])
    rw [hidle, hidle']
    exact h

private theorem Alike.store (h : Alike R e e') : e'.exterior.store = e.exterior.store := by
  obtain ⟨v, hexterior⟩ := h.exterior
  rw [hexterior]
  rfl

theorem Alike.publish (hI : Interchangeable R) (h : Alike R e e') (hresting : e.session.Resting)
    (hresting' : e'.session.Resting) (t : StateTypeId) : Alike R (e.publish t) (e'.publish t) := by
  obtain ⟨v, hexterior⟩ := h.exterior
  have hmoved (q : L.Publisher) : Alike R (e.setPublisher q) (e'.setPublisher q) :=
    ⟨⟨v, by rw [setPublisher, hexterior]; rfl⟩, h.off, h.on⟩
  unfold Endpoint.publish
  rw [h.store]
  split_ifs
  · dsimp only
    split
    · exact hmoved _
    · refine (hmoved (L.publish t e.exterior.store.publisher).2).notify hresting hresting'
        fun s r p a x v hR => ?_
      exact onTypedStatePublished_twin r p a s x v t _ (hI.hasSubscriber _ _ _ _ hR)
  · exact h

theorem Alike.subscribe (h : Alike R e e') (hresting : e.session.Resting)
    (hresting' : e'.session.Resting) (d : Descriptor L.Device) :
    Alike R (e.subscribe d) (e'.subscribe d) ∧ Alike R (e.unsubscribe d) (e'.unsubscribe d) := by
  obtain ⟨v, hexterior⟩ := h.exterior
  have hmoved (q : L.Subscriptions) : Alike R (e.setSubscriptions q) (e'.setSubscriptions q) :=
    ⟨⟨v, by rw [setSubscriptions, hexterior]; rfl⟩, h.off, h.on⟩
  unfold Endpoint.subscribe Endpoint.unsubscribe
  rw [h.store]
  constructor
  · dsimp only
    split_ifs
    · exact (hmoved (L.subscribe d e.exterior.store.subscriptions).2).notify hresting hresting'
        fun s r p a x v _ => onStateSubscribed_twin r p a s x v d
    · exact hmoved _
  · dsimp only
    split_ifs
    · exact (hmoved (L.unsubscribe d e.exterior.store.subscriptions).2).notify hresting hresting'
        fun s r p a x v _ => onStateUnsubscribed_twin r p a s x v d
    · exact hmoved _

theorem Alike.step (hI : Interchangeable R) (h : Alike R e e') (hresting : e.session.Resting)
    (hresting' : e'.session.Resting) (action : Action T.host) :
    (e'.perform action).1 = (e.perform action).1 ∧ Alike R (e.step action) (e'.step action) := by
  obtain ⟨v, hexterior⟩ := h.exterior
  cases action with
  | initializeWith config handler observed =>
    exact h.initializeWith hresting hresting' config handler observed
  | shutdown => exact ⟨rfl, h.shutdown hI hresting hresting'⟩
  | feed data => exact h.feed hI data
  | publish t => exact ⟨rfl, h.publish hI hresting hresting' t⟩
  | subscribe d => exact ⟨rfl, (h.subscribe hresting hresting' d).1⟩
  | unsubscribe d => exact ⟨rfl, (h.subscribe hresting hresting' d).2⟩
  | requestResynchronization t =>
    change (e'.session.requestResynchronization t e'.exterior).1 = _ ∧
      Alike R _ ⟨e'.session, (e'.session.requestResynchronization t e'.exterior).2⟩
    cases hinitialized : e.session.initialized with
    | true =>
      obtain ⟨r, p, a, hsession, hR⟩ := h.on hinitialized
      rw [hsession, hexterior, requestResynchronization_twin, ← hsession]
      exact ⟨rfl, ⟨v, rfl⟩, h.off, h.on⟩
    | false =>
      have hidle : e.session.requestResynchronization t e.exterior = (false, e.exterior) :=
        if_pos (by simp [hinitialized])
      have hidle' : e'.session.requestResynchronization t e'.exterior = (false, e'.exterior) :=
        if_pos (by simp [(h.off hinitialized).1])
      have hsame : e.step (.requestResynchronization t) = e := by
        rw [Endpoint.step, perform, hidle]
      rw [hidle', hsame]
      exact ⟨by rw [perform, hidle], h⟩
  | setPeerBoundHandler handler =>
    refine ⟨rfl, ⟨v, hexterior⟩, h.off, fun hon => ?_⟩
    obtain ⟨r, p, a, hsession, hR⟩ := h.on hon
    refine ⟨r, handler, a, ?_, hR⟩
    change e'.session.setPeerBoundHandler handler = _
    rw [hsession]
    rfl
  | setAcknowledgementHandler handler =>
    refine ⟨rfl, ⟨v, hexterior⟩, h.off, fun hon => ?_⟩
    obtain ⟨r, p, a, hsession, hR⟩ := h.on hon
    refine ⟨r, p, handler, ?_, hR⟩
    change e'.session.setAcknowledgementHandler handler = _
    rw [hsession]
    rfl
  | change store => exact ⟨rfl, ⟨v, congrArg (fun x => { x with store }) hexterior⟩, h.off, h.on⟩

/-- What the calls of a run return. -/
def answers {H : StateHost L} : Endpoint H → List (Action H) → List Bool
  | _, [] => []
  | e, action :: actions => (e.perform action).1 :: answers (e.step action) actions

theorem Alike.run (hI : Interchangeable R) (h : Alike R e e') (hresting : e.session.Resting)
    (hresting' : e'.session.Resting) (actions : List (Action T.host)) :
    answers e' actions = answers e actions ∧
      Alike R (run Endpoint.step e actions) (run Endpoint.step e' actions) := by
  induction actions generalizing e e' with
  | nil => exact ⟨rfl, h⟩
  | cons action actions ih =>
    obtain ⟨hanswer, hstep⟩ := h.step hI hresting hresting' action
    obtain ⟨hanswers, hrun⟩ := ih hstep (resting_step e action hresting) (resting_step e' action hresting')
    exact ⟨congrArg₂ List.cons hanswer hanswers, hrun⟩

/-- After a `Shutdown`, whatever happened before, `Initialize` and all that follows return the same, hand
over the same frames, make the same calls on the remote manager and leave the same store as with a
new session in front of the same objects. -/
theorem reconnect_fresh {L : StateLibrary} {T : Medium L.recorded} (hS : SubscriberSet L)
    {R : L.Subscribers → L.Subscribers → Prop} (hI : Interchangeable R) (x : Exterior T.host)
    (before later : List (Action T.host)) (config : SocketStateSessionConfig L.recorded)
    (handler : Option T.SendHandler) (observed : Bool) :
    let old : Endpoint T.host := run Endpoint.step { exterior := x } (before ++ [.shutdown])
    let new : Endpoint T.host := { exterior := old.exterior }
    let actions : List (Action T.host) := .initializeWith config handler observed :: later
    let e := run Endpoint.step old actions
    let e' := run Endpoint.step new actions
    answers new actions = answers old actions ∧
      e'.exterior.world.1 = e.exterior.world.1 ∧
      e'.exterior.store.remote.2 = e.exterior.store.remote.2 ∧
      e'.exterior.store = e.exterior.store ∧ e'.exterior.log = e.exterior.log := by
  intro old new actions e e'
  have hstart : Resting ({} : SocketStateSession T.host) :=
    ⟨fun _ => ⟨rfl, rfl, rfl⟩, fun hon => absurd hon Bool.false_ne_true⟩
  have hnone : Owned ({} : SocketStateSession T.host) := fun d t hd =>
    absurd (hd.symm.trans (hS.empty d t)) Bool.noConfusion
  obtain ⟨hresting, howned⟩ : (run Endpoint.step { exterior := x } before).session.Resting ∧
      (run Endpoint.step { exterior := x } before).session.Owned :=
    run_induction (P := fun e : Endpoint T.host => e.session.Resting ∧ e.session.Owned)
      (owned_step hS.recorded) ⟨hstart, hnone⟩ before
  have hold : old = (run Endpoint.step { exterior := x } before).step .shutdown :=
    run_append Endpoint.step _ before [.shutdown]
  obtain ⟨hoff, hrest⟩ := hresting.shutdown (run Endpoint.step { exterior := x } before).exterior
  have halike : Alike (fun r r' : L.recorded.Subscribers => R r.1 r'.1) old new := by
    refine ⟨⟨old.exterior.world.2, rfl⟩, fun _ => ⟨rfl, ?_⟩, fun hon => ?_⟩
    · rw [hold]
      exact hI.recorded.empty _ (howned.shutdown hS.recorded hresting _)
    · rw [hold] at hon
      exact absurd (hoff.symm.trans hon) Bool.noConfusion
  have hrest' : old.session.Resting := by
    rw [hold]
    exact hrest
  obtain ⟨hanswers, hrun⟩ := halike.run hI.recorded hrest' hstart actions
  obtain ⟨v, hexterior⟩ := hrun.exterior
  have hsame : e'.exterior = e.exterior.withDesk v := hexterior
  rw [hsame]
  exact ⟨hanswers, rfl, rfl, rfl, rfl⟩

end Endpoint
end Sockets.State

namespace Sockets.State.Endpoint
open Foundation Sockets.Frame

section Table

attribute [local instance] SizeWidth.host

theorem interchangeable_table :
    Interchangeable (L := tableLibrary) (fun r r' : List (UInt8 × StateTypeId) => r = r') where
  empty r hr := List.eq_nil_iff_forall_not_mem.mpr fun e he =>
    absurd ((decide_eq_true he).symm.trans (hr e.1 e.2)) Bool.noConfusion
  add d t r r' hr := by subst hr; exact ⟨rfl, rfl⟩
  remove d t r r' hr := by subst hr; rfl
  removeDevice d r r' hr := by subst hr; rfl
  hasSubscriber d t r r' hr := by subst hr; rfl
  subscribedTypes d r r' hr := by subst hr; rfl

/-- A transport that takes everything. -/
@[reducible] def openMedium : Medium tableLibrary.recorded where
  SendHandler := Unit
  PeerBoundHandler := Empty
  AcknowledgementHandler := Empty
  Desk := Unit
  answer _ _ _ := true
  peerBound handler := handler.elim
  acknowledged handler := handler.elim

def recordedExterior : Exterior openMedium.host where
  store := recordedStore
  world := ([], ())

def subscribeFrame (device : UInt8) : Bytes :=
  encodeFrame stateMagic (preamble .subscribe device 1)

/-- Device 2 subscribes and sends part of another frame; after that device 3 is heard. -/
theorem reconnect_fresh_third :
    let old : Endpoint openMedium.host := run Endpoint.step { exterior := recordedExterior }
      ([.initializeWith {} (some ()) true, .feed (subscribeFrame 2),
        .feed ((subscribeFrame 2).take 5)] ++ [.shutdown])
    let new : Endpoint openMedium.host := { exterior := old.exterior }
    let actions : List (Action openMedium.host) :=
      .initializeWith {} (some ()) true :: [.feed (subscribeFrame 3)]
    old.exterior.world.1.length = 2 ∧ answers new actions = answers old actions ∧
      (run Endpoint.step new actions).exterior.world.1 =
        (run Endpoint.step old actions).exterior.world.1 := by
  obtain ⟨hanswers, hframes, -⟩ := reconnect_fresh (T := openMedium) subscriberSet_table
    interchangeable_table recordedExterior [.initializeWith {} (some ()) true,
      .feed (subscribeFrame 2), .feed ((subscribeFrame 2).take 5)] [.feed (subscribeFrame 3)] {}
    (some ()) true
  exact ⟨by decide +kernel, hanswers, hframes⟩

end Table
end Sockets.State.Endpoint
