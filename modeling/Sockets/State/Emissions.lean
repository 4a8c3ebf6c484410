import Sockets.State.Laws
import Sockets.State.Peers

/-! What the operations of a session put on its channel, when ESPressio State keeps to its
protocol. -/
namespace Sockets.State
open Foundation Sockets.Frame

variable {L : StateLibrary}

/-- A publisher's snapshot or publication of a type, and the publisher behind it. -/
def Produces (t : StateTypeId) (p : L.Publisher) (u : Option (StateUpdate L.Device L.Value))
    (q : L.Publisher) : Prop := L.snapshot t p = (u, q) ∨ L.publish t p = (u, q)

/-- Frames a side sends while its publisher moves from one state to another: requests under the
publisher's own name, acknowledgements for the peer, and updates the publisher has just
produced. -/
inductive Emits (limit : ℕ) (peer : L.Device) : L.Publisher → List Bytes → L.Publisher → Prop
  | nil (p) : Emits limit peer p [] p
  | control {p p' c frame frames} : Carries L.controlSize (.control c) frame → c.type.IsRequest →
      c.device = L.origin p → Emits limit peer p frames p' → Emits limit peer p (frame :: frames) p'
  | acknowledgement {p p' a frame frames} : Carries L.acknowledgementSize (.acknowledgement a) frame →
      a.origin = peer → Emits limit peer p frames p' → Emits limit peer p (frame :: frames) p'
  | moved {t p u q p' frames} : Produces t p u q → Emits limit peer q frames p' →
      Emits limit peer p frames p'
  | update {t p u q p' parsed frame frames} : t ∈ L.definitions → Produces t p (some u) q →
      Carries limit (.update parsed) frame → parsed.header = u.header → Readable L parsed →
      Emits limit peer q frames p' → Emits limit peer p (frame :: frames) p'

theorem Emits.append {limit : ℕ} {peer : L.Device} {p q r : L.Publisher} {frames frames' : List Bytes}
    (h : Emits limit peer p frames q) (h' : Emits limit peer q frames' r) :
    Emits limit peer p (frames ++ frames') r := by
  induction h with
  | nil p => exact h'
  | control hc hreq hdev _ ih => exact .control hc hreq hdev (ih h')
  | acknowledgement hc ha _ ih => exact .acknowledgement hc ha (ih h')
  | moved hp _ ih => exact .moved hp (ih h')
  | update ht hp hc hhead hread _ ih => exact .update ht hp hc hhead hread (ih h')

theorem Produces.origin (hL : LawfulPublisher L) {t : StateTypeId} {p q : L.Publisher}
    {u : Option (StateUpdate L.Device L.Value)} (h : Produces t p u q) :
    L.origin q = L.origin p := by
  rcases h with h | h
  · exact (congrArg (fun r => L.origin r.2) h).symm.trans (hL.origin_snapshot t p)
  · exact (congrArg (fun r => L.origin r.2) h).symm.trans (hL.origin_publish t p)

theorem Emits.origin (hL : LawfulPublisher L) {limit : ℕ} {peer : L.Device} {p q : L.Publisher}
    {frames : List Bytes} (h : Emits limit peer p frames q) : L.origin q = L.origin p := by
  induction h with
  | nil p => rfl
  | control _ _ _ _ ih => exact ih
  | acknowledgement _ _ _ ih => exact ih
  | moved hp _ ih => exact ih.trans (hp.origin hL)
  | update _ hp _ _ _ _ ih => exact ih.trans (hp.origin hL)

/-- A message that a device may send to another. -/
def Proper (own peer : L.Device) : Message L → Prop
  | .update parsed => parsed.header.origin = own ∧ parsed.header.typeId ∈ L.definitions ∧
      Readable L parsed
  | .acknowledgement a => a.origin = peer
  | .control c => c.device = own ∧ c.type.IsRequest

/-- The sizes messages come in. -/
def sizeOf (L : StateLibrary) (limit : ℕ) : Message L → ℕ
  | .update _ => limit
  | .acknowledgement _ => L.acknowledgementSize
  | .control _ => L.controlSize

/-- A frame that a device may send to another. -/
def Sent (limit : ℕ) (own peer : L.Device) (frame : Bytes) : Prop :=
  ∃ m, Carries (sizeOf L limit m) m frame ∧ Proper own peer m

theorem Emits.sent (hL : LawfulPublisher L) {limit : ℕ} {peer : L.Device} {p q : L.Publisher}
    {frames : List Bytes} (h : Emits limit peer p frames q) :
    ∀ frame ∈ frames, Sent limit (L.origin p) peer frame := by
  induction h with
  | nil p => simp
  | control hc hreq hdev _ ih => exact List.forall_mem_cons.mpr ⟨⟨.control _, hc, hdev, hreq⟩, ih⟩
  | acknowledgement hc ha _ ih => exact List.forall_mem_cons.mpr ⟨⟨.acknowledgement _, hc, ha⟩, ih⟩
  | moved hp _ ih => rwa [hp.origin hL] at ih
  | @update t p u q p' parsed frame frames ht hp hc hhead hread _ ih =>
    rw [hp.origin hL] at ih
    have hown : u.header.origin = L.origin p ∧ u.header.typeId = t := by
      rcases hp with hp | hp
      · exact hL.snapshot t p u (by simp [hp])
      · exact hL.publish t p u (by simp [hp])
    refine List.forall_mem_cons.mpr ⟨⟨.update parsed, hc, ?_, ?_, hread⟩, ih⟩
    · rw [hhead, hown.1]
    · rwa [hhead, hown.2]

/-- What a session has done when an operation returns: it has sent frames with these words. -/
structure Sends (limit : ℕ) (peer : L.Device) (x x' : Exterior (peerHost L))
    (ws : List (Bool × StateTypeId)) : Prop where
  subscriptions : x'.store.subscriptions = x.store.subscriptions
  sent : ∃ frames : List Bytes, x'.world = List.append x.world frames ∧
    Emits limit peer x.store.publisher frames x'.store.publisher ∧ words L frames = ws

section
variable {limit : ℕ} {peer : L.Device} {x y z : Exterior (peerHost L)}
  {ws ws' : List (Bool × StateTypeId)}

theorem Sends.refl (x : Exterior (peerHost L)) : Sends limit peer x x [] :=
  ⟨rfl, [], (List.append_nil _).symm, .nil _, rfl⟩

theorem Sends.trans (h : Sends limit peer x y ws) (h' : Sends limit peer y z ws') :
    Sends limit peer x z (ws ++ ws') := by
  obtain ⟨frames, hworld, hemits, rfl⟩ := h.sent
  obtain ⟨frames', hworld', hemits', rfl⟩ := h'.sent
  refine ⟨h'.subscriptions.trans h.subscriptions, frames ++ frames', ?_, hemits.append hemits',
    List.filterMap_append⟩
  rw [hworld', hworld]
  exact List.append_assoc _ _ _

theorem Sends.trans_nil (h : Sends limit peer x y ws) (h' : Sends limit peer y z []) :
    Sends limit peer x z ws := List.append_nil ws ▸ h.trans h'

/-- Nothing is sent by what touches neither the channel nor the publisher. -/
theorem Sends.of_eq (hsubscriptions : y.store.subscriptions = x.store.subscriptions)
    (hpublisher : y.store.publisher = x.store.publisher) (hworld : y.world = x.world) :
    Sends limit peer x y [] :=
  ⟨hsubscriptions, [], hworld.trans (List.append_nil _).symm, hpublisher ▸ .nil _, rfl⟩

/-- An operation that only hands frames to the channel. -/
def Exterior.say (frame : Bytes) (x : Exterior (peerHost L)) : Exterior (peerHost L) :=
  { x with world := List.append x.world [frame] }

end

def Exterior.setPublisher (q : L.Publisher) (x : Exterior (peerHost L)) : Exterior (peerHost L) :=
  { x with store := { x.store with publisher := q } }

namespace SocketStateSession
variable [SizeWidth]

/-- `MaximumProtocolMessageBytes`. -/
def limit {H : StateHost L} (s : SocketStateSession H) : ℕ :=
  s.config.maximumProtocolMessageBytes.val

/-- A session that is initialised and between two messages. -/
structure Up (s : SocketStateSession (peerHost L)) : Prop where
  initialized : s.initialized = true
  attached : s.attached = true
  registered : s.registered = true
  handler : s.sendHandler = some ()
  control_le : L.controlSize ≤ s.limit
  decoder : s.decoder = { maximumPayloadBytes := s.config.maximumProtocolMessageBytes }

variable {s : SocketStateSession (peerHost L)}

theorem Up.sendProtocolPayload (hup : s.Up) {payload : Bytes} (hfits : Fits s.limit payload)
    (x : Exterior (peerHost L)) : s.sendProtocolPayload payload x =
      (true, x.say (encodeFrame stateMagic payload)) := by
  have hsize : ¬ (payload = [] ∨ s.config.maximumProtocolMessageBytes.val < payload.length) :=
    not_or.mpr ⟨hfits.nonempty, not_lt.mpr hfits.le_maximum⟩
  have hframe : buildSocketStateFrame payload s.config.maximumProtocolMessageBytes =
      encodeFrame stateMagic payload := buildSocketStateFrame_eq hfits
  unfold SocketStateSession.sendProtocolPayload
  rw [hup.handler]
  simp only [hsize, if_false, hframe, encodeFrame_ne_nil]
  rfl

/-- A request under the publisher's name always goes out. -/
theorem Up.sendControl (hup : s.Up) (hL : LawfulProtocol L) {type : MessageType}
    (htype : type.IsRequest) (t : StateTypeId) (x : Exterior (peerHost L))
    (horigin : L.origin x.store.publisher ≠ L.zero) : ∃ frame,
      Carries L.controlSize (.control ⟨type, L.origin x.store.publisher, t⟩) frame ∧
        s.sendControl type t x = (true, x.say frame) := by
  obtain ⟨payload, hencode, hne, hlen, hparse⟩ :=
    hL.control ⟨type, L.origin x.store.publisher, t⟩ htype horigin
  have hlt := hlen.trans_lt hL.controlSize_lt
  refine ⟨encodeFrame stateMagic payload, ⟨payload, rfl, ⟨hne, hlen, hlt⟩, hparse⟩, ?_⟩
  simp only [SocketStateSession.sendControl, hup.attached, hencode, sendEncoded, Bool.not_true,
    Bool.false_eq_true, if_false]
  exact hup.sendProtocolPayload ⟨hne, hlen.trans hup.control_le, hlt⟩ x

/-- The word of a request. -/
def wordsOf (type : MessageType) (t : StateTypeId) : List (Bool × StateTypeId) :=
  if type = .subscribe then [(true, t)] else if type = .unsubscribe then [(false, t)] else []

theorem Up.sendControl_sends (hup : s.Up) (hL : LawfulProtocol L) (type : MessageType)
    (htype : type.IsRequest) (t : StateTypeId) (peer : L.Device) (x : Exterior (peerHost L))
    (horigin : L.origin x.store.publisher ≠ L.zero) : ∃ y, s.sendControl type t x = (true, y) ∧
      y.store = x.store ∧ Sends s.limit peer x y (wordsOf type t) := by
  obtain ⟨frame, hcarries, hsend⟩ := hup.sendControl hL htype t x horigin
  refine ⟨_, hsend, rfl, rfl, [frame], rfl, .control hcarries htype rfl (.nil _), ?_⟩
  simp only [words, List.filterMap_cons, List.filterMap_nil, wordOf, hcarries.messageOf, wordsOf]
  split_ifs <;> rfl

/-- An update that a frame can hold goes out, any other does not. -/
theorem Up.sendUpdate (hup : s.Up) (hL : LawfulProtocol L) (u : StateUpdate L.Device L.Value)
    (x : Exterior (peerHost L)) :
    (s.sendUpdate u x = (false, x) ∧
      ∀ payload ∈ L.encodeUpdate u s.limit, 2 ^ 32 ≤ payload.length) ∨
    ∃ frame parsed, s.sendUpdate u x = (true, x.say frame) ∧
      Carries s.limit (.update parsed) frame ∧ parsed.header = u.header ∧ Readable L parsed := by
  unfold SocketStateSession.sendUpdate
  change (s.sendEncoded (L.encodeUpdate u s.limit) x = _ ∧ _) ∨ ∃ frame parsed,
    s.sendEncoded (L.encodeUpdate u s.limit) x = _ ∧ _
  cases hencode : L.encodeUpdate u s.limit with
  | none => exact .inl ⟨rfl, by simp⟩
  | some payload =>
    obtain ⟨hne, hlen, parsed, hparse, hhead, hread⟩ := hL.update _ _ _ hencode
    by_cases hlt : payload.length < 2 ^ 32
    · exact .inr ⟨_, parsed, hup.sendProtocolPayload ⟨hne, hlen, hlt⟩ x,
        ⟨payload, rfl, ⟨hne, hlen, hlt⟩, hparse⟩, hhead, hread⟩
    · have hframe : buildSocketStateFrame payload s.config.maximumProtocolMessageBytes = [] := by
        by_contra h
        exact hlt (buildSocketStateFrame_ne_nil_iff.mp h).lt_uint32
      refine .inl ⟨?_, by simpa using not_lt.mp hlt⟩
      simp [sendEncoded, SocketStateSession.sendProtocolPayload, hup.handler, hframe]

theorem Up.sendUpdate_sends (hup : s.Up) (hL : LawfulProtocol L) {t : StateTypeId}
    (ht : t ∈ L.definitions) {u : StateUpdate L.Device L.Value} {q : L.Publisher}
    {x : Exterior (peerHost L)} (hp : Produces t x.store.publisher (some u) q) (peer : L.Device) :
    Sends s.limit peer x (s.sendUpdate u (x.setPublisher q)).2 [] ∧
      (s.sendUpdate u (x.setPublisher q)).2.store.remote = x.store.remote := by
  rcases hup.sendUpdate hL u (x.setPublisher q) with
    ⟨hsend, -⟩ | ⟨frame, parsed, hsend, hcarries, hhead, hread⟩
  · rw [hsend]
    exact ⟨⟨rfl, [], (List.append_nil _).symm, .moved hp (.nil _), rfl⟩, rfl⟩
  · rw [hsend]
    refine ⟨⟨rfl, [frame], rfl, .update ht hp hcarries hhead hread (.nil _), ?_⟩, rfl⟩
    simp [words, wordOf, hcarries.messageOf]

/-- A snapshot of a type can be sent: the type has a source, and a frame holds its value. -/
def Sendable {H : StateHost L} (t : StateTypeId) (s : SocketStateSession H)
    (p : L.Publisher) : Prop :=
  t ∈ L.definitions ∧ ∃ u ∈ (L.snapshot t p).1, ∃ payload ∈ L.encodeUpdate u s.limit,
    payload.length < 2 ^ 32

theorem Up.sendSnapshotByType_sends (hup : s.Up) (hL : LawfulProtocol L) (t : StateTypeId)
    (peer : L.Device) (x : Exterior (peerHost L)) :
    Sends s.limit peer x (s.sendSnapshotByType t x).2 [] ∧
      (s.sendSnapshotByType t x).2.store.remote = x.store.remote ∧
      (s.Sendable t x.store.publisher → (s.sendSnapshotByType t x).1 = true) := by
  unfold sendSnapshotByType sendSnapshot
  rw [hup.attached]
  by_cases ht : t ∈ L.definitions
  · rw [if_pos ht]
    simp only [Bool.not_true, Bool.false_eq_true, if_false]
    cases hsnap : (L.snapshot t x.store.publisher).1 with
    | none =>
      refine ⟨⟨rfl, [], (List.append_nil _).symm, .moved (.inl rfl) (.nil _), rfl⟩, rfl, ?_⟩
      rintro ⟨-, u, hu, -⟩
      simp [hsnap] at hu
    | some u =>
      have hp : Produces t x.store.publisher (some u) (L.snapshot t x.store.publisher).2 :=
        .inl (Prod.ext hsnap rfl)
      obtain ⟨hsends, hremote⟩ := hup.sendUpdate_sends hL ht hp peer
      refine ⟨hsends, hremote, ?_⟩
      rintro ⟨-, u', hu', payload, hpayload, hlt⟩
      obtain rfl : u = u' := by simpa [hsnap] using hu'
      rcases hup.sendUpdate hL u (x.setPublisher (L.snapshot t x.store.publisher).2) with
        ⟨-, hlarge⟩ | ⟨frame, parsed, hsend, -⟩
      · exact absurd (hlarge payload hpayload) (not_le.mpr hlt)
      · exact congrArg Prod.fst hsend
  · rw [if_neg ht]
    exact ⟨.refl x, rfl, fun h => absurd h.1 ht⟩

theorem Up.withDevice (hup : s.Up) (d : L.Device) : Up { s with remoteDevice := d } :=
  ⟨hup.initialized, hup.attached, hup.registered, hup.handler, hup.control_le, hup.decoder⟩

theorem Up.withSubscribers (hup : s.Up) (r : L.Subscribers) : Up { s with subscribers := r } :=
  ⟨hup.initialized, hup.attached, hup.registered, hup.handler, hup.control_le, hup.decoder⟩

/-- An acknowledgement goes out if it has an encoding within the limit. -/
theorem Up.sendAcknowledgement (hup : s.Up) (hL : LawfulProtocol L)
    (h : StateUpdateHeader L.Device) (x : Exterior (peerHost L)) :
    (s.sendAcknowledgement h x = (false, x) ∧
      ((L.encodeAcknowledgement ⟨h.origin, h.typeId, h.epoch, h.revision⟩).isSome →
        s.limit < L.acknowledgementSize)) ∨
    ∃ frame, s.sendAcknowledgement h x = (true, x.say frame) ∧ Carries L.acknowledgementSize
      (.acknowledgement ⟨h.origin, h.typeId, h.epoch, h.revision⟩) frame := by
  unfold SocketStateSession.sendAcknowledgement
  cases hencode : L.encodeAcknowledgement ⟨h.origin, h.typeId, h.epoch, h.revision⟩ with
  | none => exact .inl ⟨rfl, by simp⟩
  | some payload =>
    obtain ⟨hne, hlen, hparse⟩ := hL.acknowledgement _ _ hencode
    have hlt := hlen.trans_lt hL.acknowledgementSize_lt
    by_cases hle : payload.length ≤ s.limit
    · exact .inr ⟨_, hup.sendProtocolPayload ⟨hne, hle, hlt⟩ x, payload, rfl, ⟨hne, hlen, hlt⟩,
        hparse⟩
    · refine .inl ⟨?_, fun _ => (not_le.mp hle).trans_le hlen⟩
      have hlarge : s.config.maximumProtocolMessageBytes.val < payload.length := not_le.mp hle
      simp [sendEncoded, SocketStateSession.sendProtocolPayload, hup.handler, hlarge]

/-- The words of a session that announces what applies to its peer. -/
def announced (s : SocketStateSession (peerHost L)) (subscriptions : L.Subscriptions) :
    List (Bool × StateTypeId) :=
  ((L.descriptors subscriptions).filter fun d => s.subscriptionApplies d.scope d.device).map
    fun d => (true, d.typeId)

theorem Up.sendCurrentSubscriptions_sends (hup : s.Up) (hL : LawfulProtocol L) (peer : L.Device)
    {x : Exterior (peerHost L)} (horigin : L.origin x.store.publisher ≠ L.zero) :
    (s.sendCurrentSubscriptions x).store = x.store ∧
      Sends s.limit peer x (s.sendCurrentSubscriptions x) (s.announced x.store.subscriptions) := by
  unfold sendCurrentSubscriptions announced
  rw [hup.attached, hup.initialized]
  simp only [Bool.not_true, Bool.or_self, Bool.false_eq_true, if_false]
  generalize L.descriptors x.store.subscriptions = ds
  induction ds generalizing x with
  | nil => exact ⟨rfl, .refl x⟩
  | cons d ds ih =>
    rw [List.foldl_cons, announce]
    by_cases happlies : s.subscriptionApplies d.scope d.device = true
    · obtain ⟨y, hsend, hstore, hsends⟩ :=
        hup.sendControl_sends hL .subscribe trivial d.typeId peer x horigin
      obtain ⟨hstore', hsends'⟩ := ih (x := y) (by rwa [hstore])
      rw [if_pos happlies, hsend, List.filter_cons, if_pos happlies]
      exact ⟨hstore'.trans hstore, hsends.trans hsends'⟩
    · rw [if_neg happlies, List.filter_cons, if_neg happlies]
      exact ih horigin

/-- The words of a session that hears from `d`: it has some the first time. -/
def greeting (s : SocketStateSession (peerHost L)) (d : L.Device)
    (subscriptions : L.Subscriptions) : List (Bool × StateTypeId) :=
  if s.remoteDevice = d then [] else announced { s with remoteDevice := d } subscriptions

/-- The session takes a device for its peer. -/
structure Willing (d : L.Device) (s : SocketStateSession (peerHost L)) : Prop where
  expected : s.config.expectedRemoteDevice = L.zero ∨ s.config.expectedRemoteDevice = d
  remote : s.remoteDevice = L.zero ∨ s.remoteDevice = d

theorem Up.bindPeer (hup : s.Up) (hL : LawfulProtocol L) {d : L.Device} (hd : d ≠ L.zero)
    (hwilling : s.Willing d) (peer : L.Device) {x : Exterior (peerHost L)}
    (horigin : L.origin x.store.publisher ≠ L.zero) : ∃ y,
      s.bindPeer d x = (true, { s with remoteDevice := d }, y) ∧
      y.store.publisher = x.store.publisher ∧
      y.store.remote = (if s.remoteDevice = d then x.store.remote
        else L.setAvailability d .connected x.store.remote) ∧
      Sends s.limit peer x y (s.greeting d x.store.subscriptions) := by
  have hexpected : ¬ (s.config.expectedRemoteDevice ≠ L.zero ∧
      d ≠ s.config.expectedRemoteDevice) := by
    rintro ⟨h0, hne⟩
    rcases hwilling.expected with h | h
    · exact h0 h
    · exact hne h.symm
  unfold SocketStateSession.bindPeer greeting
  rw [if_neg hd, if_neg hexpected]
  by_cases hbound : s.remoteDevice = d
  · rw [if_pos (by rwa [hbound])]
    have hsame : { s with remoteDevice := d } = s := by rw [← hbound]
    exact ⟨x, by simp [hbound, hsame], rfl, by simp [hbound], by simpa [hbound] using .refl x⟩
  · have hfree : s.remoteDevice = L.zero := hwilling.remote.resolve_right hbound
    rw [if_neg (not_not.mpr hfree), if_neg hbound, if_neg hbound]
    dsimp only
    rw [if_pos hup.attached]
    obtain ⟨hstore, hsends⟩ := (hup.withDevice d).sendCurrentSubscriptions_sends hL peer
      (x := (x.record (.bound d)).setAvailability d .connected) horigin
    split
    · exact ⟨_, rfl, by rw [hstore]; rfl, by rw [hstore]; rfl, hsends.subscriptions, hsends.sent⟩
    · rename_i handler _
      exact handler.elim

/-- What a request changes in the subscribers of the session that hears it from `d`. -/
def heard (d : L.Device) (c : ControlMessage L.Device) (r : L.Subscribers) : L.Subscribers :=
  match c.type with
  | .subscribe => (L.addSubscriber d c.typeId r).2
  | .unsubscribe => L.removeSubscriber d c.typeId r
  | _ => r

/-- A request that the session grants. -/
structure Grantable (s : SocketStateSession (peerHost L)) (d : L.Device) (p : L.Publisher)
    (c : ControlMessage L.Device) : Prop where
  subscribe : c.type = .subscribe → (L.addSubscriber d c.typeId s.subscribers).1 = true
  resynchronize : c.type = .resynchronize → c.typeId ≠ 0 →
    L.hasSubscriber d c.typeId s.subscribers = true → s.Sendable c.typeId p

private theorem resynchronizeAll_sends (hup : s.Up) (hL : LawfulProtocol L) (peer : L.Device)
    (types : List StateTypeId) (x : Exterior (peerHost L)) :
    Sends s.limit peer x (types.foldl (fun x t => (s.sendSnapshotByType t x).2) x) [] ∧
      (types.foldl (fun x t => (s.sendSnapshotByType t x).2) x).store.remote = x.store.remote := by
  induction types generalizing x with
  | nil => exact ⟨.refl x, rfl⟩
  | cons t types ih =>
    obtain ⟨hsends, hremote, -⟩ := hup.sendSnapshotByType_sends hL t peer x
    obtain ⟨hsends', hremote'⟩ := ih (s.sendSnapshotByType t x).2
    exact ⟨hsends.trans hsends', hremote'.trans hremote⟩

theorem Up.handleControl (hup : s.Up) (hL : LawfulProtocol L) (hP : LawfulPublisher L)
    {c : ControlMessage L.Device} (hc : c.type.IsRequest) (peer : L.Device)
    {x : Exterior (peerHost L)} (horigin : L.origin x.store.publisher ≠ L.zero) :
    (s.handleControl c x).2.1 = { s with subscribers := heard s.remoteDevice c s.subscribers } ∧
      Sends s.limit peer x (s.handleControl c x).2.2 [] ∧
      (s.handleControl c x).2.2.store.remote = x.store.remote ∧
      (s.Grantable s.remoteDevice x.store.publisher c → (s.handleControl c x).1 = true) := by
  unfold SocketStateSession.handleControl heard
  cases htype : c.type with
  | subscribe =>
    dsimp only
    by_cases hadd : (L.addSubscriber s.remoteDevice c.typeId s.subscribers).1 = true
    · have hup' := hup.withSubscribers (L.addSubscriber s.remoteDevice c.typeId s.subscribers).2
      obtain ⟨hsends, hremote, -⟩ := hup'.sendSnapshotByType_sends hL c.typeId peer x
      obtain ⟨frames, -, hemits, -⟩ := hsends.sent
      obtain ⟨y, hsend, hstore, hsends'⟩ := hup'.sendControl_sends hL
        .subscribeAcknowledgement trivial c.typeId peer _
        (by rwa [hemits.origin hP] : L.origin (SocketStateSession.sendSnapshotByType c.typeId _
          x).2.store.publisher ≠ L.zero)
      simp only [hadd, Bool.not_true, Bool.false_eq_true, if_false, hsend]
      exact ⟨trivial, hsends.trans hsends', by rw [hstore, hremote], fun _ => trivial⟩
    · simp only [hadd, Bool.not_false, if_true]
      exact ⟨trivial, .refl x, trivial, fun h => absurd (h.subscribe htype) hadd⟩
  | unsubscribe =>
    obtain ⟨y, hsend, hstore, hsends⟩ :=
      (hup.withSubscribers (L.removeSubscriber s.remoteDevice c.typeId s.subscribers)).sendControl_sends hL
        .unsubscribeAcknowledgement trivial c.typeId peer x horigin
    simp only [hsend]
    exact ⟨trivial, hsends, by rw [hstore], fun _ => trivial⟩
  | resynchronize =>
    dsimp only
    by_cases hall : c.typeId = 0
    · rw [if_neg (not_not.mpr hall)]
      obtain ⟨hsends, hremote⟩ := resynchronizeAll_sends hup hL peer
        (L.subscribedTypes s.remoteDevice s.subscribers) x
      exact ⟨rfl, hsends, hremote, fun _ => rfl⟩
    · rw [if_pos hall]
      split_ifs with hknown
      · obtain ⟨hsends, hremote, hanswer⟩ := hup.sendSnapshotByType_sends hL c.typeId peer x
        exact ⟨rfl, hsends, hremote, fun h => hanswer (h.resynchronize htype hall hknown)⟩
      · exact ⟨rfl, .refl x, rfl, fun _ => rfl⟩
  | subscribeAcknowledgement => exact ⟨rfl, .refl x, rfl, fun _ => rfl⟩
  | unsubscribeAcknowledgement => exact ⟨rfl, .refl x, rfl, fun _ => rfl⟩
  | update => exact absurd hc (by simp [htype, MessageType.IsRequest])
  | acknowledgement => exact absurd hc (by simp [htype, MessageType.IsRequest])
  | disconnect => exact absurd hc (by simp [htype, MessageType.IsRequest])
  | other code => exact absurd hc (by simp [htype, MessageType.IsRequest])

omit [SizeWidth] in
private theorem applyIncoming_same (parsed : ParsedUpdate L.Device) (x : Exterior (peerHost L)) :
    (applyIncoming parsed x).2.store.subscriptions = x.store.subscriptions ∧
      (applyIncoming parsed x).2.store.publisher = x.store.publisher ∧
      (applyIncoming parsed x).2.world = x.world := by
  unfold applyIncoming
  split_ifs
  · split <;> exact ⟨rfl, rfl, rfl⟩
  · split <;> exact ⟨rfl, rfl, rfl⟩
  · exact ⟨rfl, rfl, rfl⟩

private theorem sendAcknowledgement_sends (hup : s.Up) (hL : LawfulProtocol L)
    (h : StateUpdateHeader L.Device) (x : Exterior (peerHost L)) :
    Sends s.limit h.origin x (s.sendAcknowledgement h x).2 [] ∧
      (s.sendAcknowledgement h x).2.store.remote = x.store.remote := by
  rcases hup.sendAcknowledgement hL h x with ⟨hsend, -⟩ | ⟨frame, hsend, hcarries⟩
  · rw [hsend]
    exact ⟨.refl x, rfl⟩
  · rw [hsend]
    refine ⟨⟨rfl, [frame], rfl, .acknowledgement hcarries rfl (.nil _), ?_⟩, rfl⟩
    simp [words, wordOf, hcarries.messageOf]

theorem Up.handleUpdate (hup : s.Up) (hL : LawfulProtocol L) {parsed : ParsedUpdate L.Device}
    (hd : parsed.header.origin ≠ L.zero) (hwilling : s.Willing parsed.header.origin)
    {x : Exterior (peerHost L)} (horigin : L.origin x.store.publisher ≠ L.zero) :
    (s.handleUpdate parsed x).2.1 = { s with remoteDevice := parsed.header.origin } ∧
      Sends s.limit parsed.header.origin x (s.handleUpdate parsed x).2.2
        (s.greeting parsed.header.origin x.store.subscriptions) := by
  obtain ⟨y, hbind, -, -, hsends⟩ := hup.bindPeer hL hd hwilling parsed.header.origin horigin
  obtain ⟨hsubscriptions, hpublisher, hworld⟩ := applyIncoming_same parsed y
  have happlied := hsends.trans_nil (.of_eq hsubscriptions hpublisher hworld)
  unfold SocketStateSession.handleUpdate
  simp only [hbind, Bool.not_true, Bool.false_eq_true, if_false]
  split_ifs
  · exact ⟨rfl, hsends⟩
  · exact ⟨rfl, happlied⟩
  · have hsent := (sendAcknowledgement_sends (hup.withDevice parsed.header.origin) hL parsed.header
      (applyIncoming parsed y).2).1
    exact ⟨rfl, happlied.trans_nil hsent⟩

omit [SizeWidth] in
theorem exactDuplicate_iff (h : StateUpdateHeader L.Device) (m : L.RemoteManager) :
    exactDuplicate h m = true ↔ heldStamp L h.typeId h.origin m = h.stamp := by
  unfold exactDuplicate heldStamp
  cases L.read h.typeId h.origin m with
  | none => simp
  | some current =>
    cases hvalue : current.hasValue with
    | false => simp [hvalue]
    | true => simp [hvalue, StateUpdateHeader.stamp, stamp]

/-- A subscribed update that is not older than what is held is taken over and acknowledged. -/
theorem Up.handleUpdate_accepts (hup : s.Up) (hL : LawfulProtocol L)
    {room : L.Device → L.RemoteManager → Prop} (hR : LawfulRemote L room)
    {parsed : ParsedUpdate L.Device} (hd : parsed.header.origin ≠ L.zero)
    (hwilling : s.Willing parsed.header.origin) (hdefined : parsed.header.typeId ∈ L.definitions)
    (hreadable : Readable L parsed) (hsize : L.acknowledgementSize ≤ s.limit)
    {x : Exterior (peerHost L)} (horigin : L.origin x.store.publisher ≠ L.zero)
    (hsubscribed : L.isSubscribed parsed.header.origin parsed.header.typeId
      x.store.subscriptions = true)
    (hroom : room parsed.header.origin x.store.remote)
    (hheld : heldStamp L parsed.header.typeId parsed.header.origin x.store.remote ≤
      parsed.header.stamp) :
    (s.handleUpdate parsed x).1 = true ∧
      room parsed.header.origin (s.handleUpdate parsed x).2.2.store.remote ∧
      heldStamp L parsed.header.typeId parsed.header.origin
        (s.handleUpdate parsed x).2.2.store.remote = parsed.header.stamp ∧
      ∀ t ≠ parsed.header.typeId, heldStamp L t parsed.header.origin
        (s.handleUpdate parsed x).2.2.store.remote =
          heldStamp L t parsed.header.origin x.store.remote := by
  obtain ⟨y, hbind, -, hremote, hsends⟩ := hup.bindPeer hL hd hwilling parsed.header.origin horigin
  have hkept : ∀ t, heldStamp L t parsed.header.origin y.store.remote =
      heldStamp L t parsed.header.origin x.store.remote := fun t => by
    rw [hremote]
    split_ifs
    · rfl
    · exact hR.held_setAvailability _ _ _ _ _
  have hroom' : room parsed.header.origin y.store.remote := by
    rw [hremote]
    split_ifs
    · exact hroom
    · exact hR.room_setAvailability _ _ _ _ hroom
  obtain ⟨value, hvalue⟩ := Option.isSome_iff_exists.mp (hreadable.decodes hdefined)
  have happlied : (applyIncoming parsed y).1 = true ∧
      room parsed.header.origin (applyIncoming parsed y).2.store.remote ∧
      heldStamp L parsed.header.typeId parsed.header.origin
        (applyIncoming parsed y).2.store.remote = parsed.header.stamp ∧
      ∀ t ≠ parsed.header.typeId, heldStamp L t parsed.header.origin
        (applyIncoming parsed y).2.store.remote =
          heldStamp L t parsed.header.origin y.store.remote := by
    rw [← hkept] at hheld
    unfold applyIncoming
    simp only [hdefined, if_true, hvalue]
    split_ifs with hduplicate
    · exact ⟨rfl, hroom', (exactDuplicate_iff _ _).mp hduplicate, fun _ _ => rfl⟩
    · have hnewer := lt_of_le_of_ne hheld ((exactDuplicate_iff _ _).not.mp hduplicate)
      obtain ⟨hanswer, hheld', hroom'', hothers⟩ := hR.apply _ _ _ _ value _ hroom' hnewer
      exact ⟨hanswer, hroom'', hheld', hothers⟩
  obtain ⟨hanswer, hroom'', hheld', hothers⟩ := happlied
  have hknown : L.isSubscribed parsed.header.origin parsed.header.typeId
      y.store.subscriptions = true := by rwa [hsends.subscriptions]
  unfold SocketStateSession.handleUpdate
  simp only [hbind, hknown, hanswer, Bool.not_true, Bool.false_eq_true, if_false]
  rcases (hup.withDevice parsed.header.origin).sendAcknowledgement hL parsed.header
    (applyIncoming parsed y).2 with ⟨-, hsmall⟩ | ⟨frame, hsend, -⟩
  · exact absurd (hsmall hreadable.acknowledges) (not_lt.mpr hsize)
  · rw [hsend]
    exact ⟨rfl, hroom'', hheld', fun t ht => (hothers t ht).trans (hkept t)⟩

theorem Up.onTypedStatePublished_sends (hup : s.Up) (hL : LawfulProtocol L) {t : StateTypeId}
    (ht : t ∈ L.definitions) {u : StateUpdate L.Device L.Value} {q : L.Publisher}
    {x : Exterior (peerHost L)} (hp : Produces t x.store.publisher (some u) q) (peer : L.Device) :
    Sends s.limit peer x (s.onTypedStatePublished t u (x.setPublisher q)) [] ∧
      (s.onTypedStatePublished t u (x.setPublisher q)).store.remote = x.store.remote := by
  have hquiet : Sends s.limit peer x (x.setPublisher q) [] :=
    ⟨rfl, [], (List.append_nil _).symm, .moved hp (.nil _), rfl⟩
  unfold SocketStateSession.onTypedStatePublished
  split_ifs
  · exact ⟨hquiet, rfl⟩
  · exact ⟨hquiet, rfl⟩
  · exact hup.sendUpdate_sends hL ht hp peer

/-- The word of a notification, if the descriptor applies to the peer. -/
def wordFor (s : SocketStateSession (peerHost L)) (type : MessageType)
    (d : Descriptor L.Device) : List (Bool × StateTypeId) :=
  if s.subscriptionApplies d.scope d.device then wordsOf type d.typeId else []

theorem Up.onStateSubscribed_sends (hup : s.Up) (hL : LawfulProtocol L) (d : Descriptor L.Device)
    (peer : L.Device) {x : Exterior (peerHost L)}
    (horigin : L.origin x.store.publisher ≠ L.zero) :
    (s.onStateSubscribed d x).store = x.store ∧
      Sends s.limit peer x (s.onStateSubscribed d x) (s.wordFor .subscribe d) := by
  unfold SocketStateSession.onStateSubscribed wordFor
  rw [hup.initialized]
  cases s.subscriptionApplies d.scope d.device with
  | false => exact ⟨rfl, .refl x⟩
  | true =>
    obtain ⟨y, hsend, hstore, hsends⟩ :=
      hup.sendControl_sends hL .subscribe trivial d.typeId peer x horigin
    simp only [hsend]
    exact ⟨hstore, hsends⟩

theorem Up.onStateUnsubscribed_sends (hup : s.Up) (hL : LawfulProtocol L)
    (d : Descriptor L.Device) (peer : L.Device) {x : Exterior (peerHost L)}
    (horigin : L.origin x.store.publisher ≠ L.zero) :
    (s.onStateUnsubscribed d x).store = x.store ∧
      Sends s.limit peer x (s.onStateUnsubscribed d x) (s.wordFor .unsubscribe d) := by
  unfold SocketStateSession.onStateUnsubscribed wordFor
  rw [hup.initialized]
  cases s.subscriptionApplies d.scope d.device with
  | false => exact ⟨rfl, .refl x⟩
  | true =>
    obtain ⟨y, hsend, hstore, hsends⟩ :=
      hup.sendControl_sends hL .unsubscribe trivial d.typeId peer x horigin
    simp only [hsend]
    exact ⟨hstore, hsends⟩

theorem Up.requestResynchronization_sends (hup : s.Up) (hL : LawfulProtocol L) (t : StateTypeId)
    (peer : L.Device) {x : Exterior (peerHost L)}
    (horigin : L.origin x.store.publisher ≠ L.zero) :
    (s.requestResynchronization t x).2.store = x.store ∧
      Sends s.limit peer x (s.requestResynchronization t x).2 [] := by
  obtain ⟨y, hsend, hstore, hsends⟩ :=
    hup.sendControl_sends hL .resynchronize trivial t peer x horigin
  unfold SocketStateSession.requestResynchronization
  rw [hup.initialized]
  simp only [hsend]
  exact ⟨hstore, hsends⟩

/-- A fresh session, just before it looks for a peer. -/
def opened (config : SocketStateSessionConfig L) : SocketStateSession (peerHost L) where
  attached := true
  config := config
  sendHandler := some ()
  decoder := (({} : SocketStateSession (peerHost L)).decoder.setMaximumPayloadBytes
    config.maximumProtocolMessageBytes).reset
  registered := true
  initialized := true

theorem initializeWith_fresh {config : SocketStateSessionConfig L}
    (hsize : L.controlSize ≤ config.maximumProtocolMessageBytes.val) (x : Exterior (peerHost L)) :
    initializeWith config (some ()) true ({} : SocketStateSession (peerHost L)) x =
      if config.expectedRemoteDevice ≠ L.zero then
        let r := (opened config).bindPeer config.expectedRemoteDevice x
        if !r.1 then (false, r.2.1.shutdownLocked false r.2.2)
        else (true, r.2.1, r.2.1.sendCurrentSubscriptions r.2.2)
      else (true, opened config, (opened config).sendCurrentSubscriptions x) := by
  unfold initializeWith
  simp only [Bool.false_eq_true, if_false, Option.isNone_some, Bool.false_or, decide_eq_true_eq,
    not_lt.mpr hsize, Bool.not_true]
  rfl

/-- `Initialize` of a fresh session that may have `d` for its peer. -/
theorem initializeWith_sends (hL : LawfulProtocol L) {config : SocketStateSessionConfig L}
    {d : L.Device} (hd : d ≠ L.zero)
    (hexpected : config.expectedRemoteDevice = L.zero ∨ config.expectedRemoteDevice = d)
    (hsize : L.controlSize ≤ config.maximumProtocolMessageBytes.val)
    {x : Exterior (peerHost L)} (horigin : L.origin x.store.publisher ≠ L.zero) :
    ∃ s y ws, initializeWith config (some ()) true ({} : SocketStateSession (peerHost L)) x =
        (true, s, y) ∧ s.Up ∧ s.Willing d ∧ s.config = config ∧ s.subscribers = L.noSubscribers ∧
      (y.store.remote = x.store.remote ∨
        y.store.remote = L.setAvailability d .connected x.store.remote) ∧
      Sends config.maximumProtocolMessageBytes.val d x y ws ∧
      ∀ w, w ∈ ws ↔ w ∈ s.announced x.store.subscriptions := by
  have hup : (opened config).Up := ⟨rfl, rfl, rfl, rfl, hsize, rfl⟩
  rw [initializeWith_fresh hsize]
  by_cases hzero : config.expectedRemoteDevice = L.zero
  · obtain ⟨hstore, hsends⟩ := hup.sendCurrentSubscriptions_sends hL d horigin
    rw [if_neg (not_not.mpr hzero)]
    exact ⟨_, _, _, rfl, hup, ⟨.inl hzero, .inl rfl⟩, rfl, rfl, .inl (congrArg Store.remote hstore),
      hsends, fun _ => Iff.rfl⟩
  · have hd' := hexpected.resolve_left hzero
    obtain ⟨y, hbind, hpublisher, hremote, hsends⟩ :=
      hup.bindPeer hL hd ⟨.inr hd', .inl rfl⟩ d horigin
    obtain ⟨hstore, hsends'⟩ := (hup.withDevice d).sendCurrentSubscriptions_sends hL d (x := y)
      (by rwa [hpublisher])
    have hunbound : (opened config).remoteDevice ≠ d := hd.symm
    rw [greeting, if_neg hunbound] at hsends
    rw [if_neg hunbound] at hremote
    rw [if_pos hzero, hd', hbind]
    refine ⟨_, _, _, rfl, hup.withDevice d, ⟨.inr hd', .inr rfl⟩, rfl, rfl, .inr ?_,
      hsends.trans hsends', fun w => ?_⟩
    · exact (congrArg Store.remote hstore).trans hremote
    · rw [hsends.subscriptions, List.mem_append, or_self]

/-- What a message changes in the subscribers of the session that hears it from `d`. -/
def hears (d : L.Device) : Message L → L.Subscribers → L.Subscribers
  | .control c, r => heard d c r
  | _, r => r

/-- A message from the peer leaves the session bound to the peer, or as it was; a session that
binds announces its subscriptions. -/
theorem Up.handleMessage (hup : s.Up) (hL : LawfulProtocol L) (hP : LawfulPublisher L)
    {d own : L.Device} (hd : d ≠ L.zero) (hwilling : s.Willing d) {m : Message L}
    (hm : Proper d own m) {x : Exterior (peerHost L)}
    (horigin : L.origin x.store.publisher ≠ L.zero) : ∃ e, (e = s.remoteDevice ∨ e = d) ∧
      (s.handleMessage m x).2.1 =
        { s with remoteDevice := e, subscribers := hears d m s.subscribers } ∧
      Sends s.limit d x (s.handleMessage m x).2.2
        (if e = s.remoteDevice then []
          else announced { s with remoteDevice := d } x.store.subscriptions) := by
  have hgreeting : s.greeting d x.store.subscriptions = if d = s.remoteDevice then []
      else announced { s with remoteDevice := d } x.store.subscriptions := by
    unfold greeting
    simp only [eq_comm]
  cases m with
  | update parsed =>
    obtain ⟨rfl, -, -⟩ := hm
    obtain ⟨hsession, hsends⟩ := hup.handleUpdate hL hd hwilling horigin
    exact ⟨_, .inr rfl, hsession, hgreeting ▸ hsends⟩
  | acknowledgement a =>
    refine ⟨s.remoteDevice, .inl rfl, ?_⟩
    rw [if_pos rfl]
    unfold SocketStateSession.handleMessage handleAcknowledgement
    dsimp only
    split_ifs
    · exact ⟨rfl, .refl x⟩
    · split
      · exact ⟨rfl, .refl x⟩
      · rename_i handler _
        exact handler.elim
  | control c =>
    obtain ⟨rfl, hreq⟩ := hm
    obtain ⟨y, hbind, hpublisher, -, hsends⟩ := hup.bindPeer hL hd hwilling c.device horigin
    obtain ⟨hsession, hsends', -, -⟩ := (hup.withDevice c.device).handleControl hL hP hreq c.device
      (x := y) (by rwa [hpublisher])
    refine ⟨c.device, .inr rfl, ?_⟩
    rw [← hgreeting]
    simp only [SocketStateSession.handleMessage, hbind, Bool.not_true, Bool.false_eq_true, if_false]
    exact ⟨hsession, hsends.trans_nil hsends'⟩

/-- A frame on its own is handled as its message, if it is within the session's limit. -/
theorem Up.feed (hup : s.Up) (hwrap : s.limit + headerSize < 2 ^ SizeWidth.bits) {n : ℕ}
    {m : Message L} {frame : Bytes} (hc : Carries n m frame)
    (hle : frame.length ≤ s.limit + headerSize) (x : Exterior (peerHost L)) :
    s.feed frame x = ((s.handleMessage m x).1,
      { (s.handleMessage m x).2.1 with decoder := s.decoder }, (s.handleMessage m x).2.2) := by
  obtain ⟨payload, rfl, hfits, hparse⟩ := hc
  rw [length_encodeFrame] at hle
  have hfeed := feed_frame hup.initialized (by rw [hup.decoder]) (by rwa [hup.decoder])
    (show Fits s.decoder.maximumPayloadBytes.val payload from ⟨hfits.nonempty, by
      rw [hup.decoder]
      exact (by omega : payload.length ≤ s.limit), hfits.lt_uint32⟩) x
  rw [hfeed, handleProtocolMessage_eq hparse]

/-- A frame above the limit is refused, and leaves no trace. -/
theorem Up.feed_oversized (hup : s.Up) (hwrap : s.limit + headerSize < 2 ^ SizeWidth.bits) {n : ℕ}
    {m : Message L} {frame : Bytes} (hc : Carries n m frame)
    (hlarge : s.limit + headerSize < frame.length) (x : Exterior (peerHost L)) :
    s.feed frame x = (false, s, x) := by
  obtain ⟨payload, rfl, hfits, hparse⟩ := hc
  rw [length_encodeFrame] at hlarge
  have hpush := push_oversized takeMessage (d := s.decoder) (by rw [hup.decoder])
    (by rwa [hup.decoder]) (show s.decoder.maximumPayloadBytes.val < payload.length by
      rw [hup.decoder]; exact (by omega : s.limit < payload.length)) (true, s, x)
  unfold SocketStateSession.feed
  rw [hup.initialized, hpush]
  rfl

/-- A frame from the peer, whether it is within the session's limit or not. -/
theorem Up.feed_sent (hup : s.Up) (hL : LawfulProtocol L) (hP : LawfulPublisher L)
    (hwrap : s.limit + headerSize < 2 ^ SizeWidth.bits) {d own : L.Device} (hd : d ≠ L.zero)
    (hwilling : s.Willing d) {n : ℕ} {m : Message L} {frame : Bytes}
    (hc : Carries (sizeOf L n m) m frame) (hm : Proper d own m) {x : Exterior (peerHost L)}
    (horigin : L.origin x.store.publisher ≠ L.zero) : ∃ e, (e = s.remoteDevice ∨ e = d) ∧
      ∃ answer y, s.feed frame x =
          (answer, { s with remoteDevice := e, subscribers := hears d m s.subscribers }, y) ∧
        Sends s.limit d x y (if e = s.remoteDevice then []
          else announced { s with remoteDevice := d } x.store.subscriptions) := by
  by_cases hle : frame.length ≤ s.limit + headerSize
  · obtain ⟨e, he, hsession, hsends⟩ := hup.handleMessage hL hP hd hwilling hm horigin
    refine ⟨e, he, (s.handleMessage m x).1, _, ?_, hsends⟩
    rw [hup.feed hwrap hc hle x, hsession]
  · refine ⟨s.remoteDevice, .inl rfl, false, x, ?_, by simpa using .refl x⟩
    rw [hup.feed_oversized hwrap hc (not_le.mp hle) x]
    cases m with
    | update parsed => rfl
    | acknowledgement a => rfl
    | control c =>
      obtain ⟨payload, rfl, hfits, -⟩ := hc
      have hsmall : payload.length ≤ L.controlSize := hfits.le_maximum
      have hcontrol := hup.control_le
      rw [length_encodeFrame] at hle
      omega

end SocketStateSession
end Sockets.State
