import Sockets.State.Messages

/-! What a session may do, one thing at a time, while it handles a message. -/
namespace Sockets.State
open Foundation Sockets.Frame

variable {L : StateLibrary} {H : StateHost L} [SizeWidth]

/-- The device that a message names as its sender. -/
def Message.sender : Message L → Option L.Device
  | .update parsed => some parsed.header.origin
  | .acknowledgement _ => none
  | .control c => some c.device

variable (H) in
/-- A session and what is outside it. -/
abbrev Situation := SocketStateSession H × Exterior H

namespace SocketStateSession

@[simp] theorem sendProtocolPayload_store (payload : Bytes) (s : SocketStateSession H)
    (x : Exterior H) : (s.sendProtocolPayload payload x).2.store = x.store := by
  unfold sendProtocolPayload
  split
  · rfl
  · dsimp only
    split_ifs <;> rfl

@[simp] theorem sendEncoded_store (payload : Option Bytes) (s : SocketStateSession H)
    (x : Exterior H) : (s.sendEncoded payload x).2.store = x.store := by
  cases payload with
  | none => rfl
  | some payload => exact sendProtocolPayload_store payload s x

@[simp] theorem sendControl_store (type : MessageType) (typeId : StateTypeId)
    (s : SocketStateSession H) (x : Exterior H) :
    (s.sendControl type typeId x).2.store = x.store := by
  unfold sendControl
  split_ifs
  · rfl
  · exact sendEncoded_store _ s x

@[simp] theorem sendAcknowledgement_store (header : StateUpdateHeader L.Device)
    (s : SocketStateSession H) (x : Exterior H) :
    (s.sendAcknowledgement header x).2.store = x.store := sendEncoded_store _ s x

@[simp] theorem sendUpdate_store (update : StateUpdate L.Device L.Value)
    (s : SocketStateSession H) (x : Exterior H) : (s.sendUpdate update x).2.store = x.store :=
  sendEncoded_store _ s x

@[simp] theorem sendCurrentSubscriptions_store (s : SocketStateSession H) (x : Exterior H) :
    (s.sendCurrentSubscriptions x).store = x.store := by
  unfold sendCurrentSubscriptions
  split_ifs
  · rfl
  · refine List.foldlRecOn (motive := fun y : Exterior H => y.store = x.store) _ s.announce rfl
      fun y hy d _ => ?_
    unfold announce
    split_ifs
    · rw [sendControl_store, hy]
    · exact hy

@[simp] theorem onTypedStatePublished_store (typeId : StateTypeId)
    (update : StateUpdate L.Device L.Value) (s : SocketStateSession H) (x : Exterior H) :
    (s.onTypedStatePublished typeId update x).store = x.store := by
  unfold onTypedStatePublished
  split_ifs
  · rfl
  · rfl
  · exact sendUpdate_store update s x

@[simp] theorem onStateSubscribed_store (d : Descriptor L.Device) (s : SocketStateSession H)
    (x : Exterior H) : (s.onStateSubscribed d x).store = x.store := by
  unfold onStateSubscribed
  split_ifs
  · rfl
  · exact sendControl_store _ _ s x

@[simp] theorem onStateUnsubscribed_store (d : Descriptor L.Device) (s : SocketStateSession H)
    (x : Exterior H) : (s.onStateUnsubscribed d x).store = x.store := by
  unfold onStateUnsubscribed
  split_ifs
  · rfl
  · exact sendControl_store _ _ s x

@[simp] theorem requestResynchronization_store (typeId : StateTypeId) (s : SocketStateSession H)
    (x : Exterior H) : (s.requestResynchronization typeId x).2.store = x.store := by
  unfold requestResynchronization
  split_ifs
  · rfl
  · exact sendControl_store _ _ s x

/-- A snapshot moves the publisher and nothing else in the store. -/
theorem sendSnapshotByType_store (typeId : StateTypeId) (s : SocketStateSession H)
    (x : Exterior H) : ∃ q, (s.sendSnapshotByType typeId x).2.store =
      { x.store with publisher := q } := by
  unfold sendSnapshotByType sendSnapshot
  split_ifs
  · exact ⟨_, rfl⟩
  · dsimp only
    split
    · exact ⟨_, rfl⟩
    · exact ⟨_, sendUpdate_store _ s _⟩
  · exact ⟨_, rfl⟩

/-- A message of the device that the session is bound to. -/
def FromPeer (m : Message L) (s : SocketStateSession H) : Prop :=
  s.remoteDevice ≠ L.zero ∧ m.sender = some s.remoteDevice

/-- The types of which a request calls for snapshots. -/
inductive Due (c : ControlMessage L.Device) (s : SocketStateSession H) : StateTypeId → Prop
  | subscribed (r : L.Subscribers) : c.type = .subscribe →
      L.addSubscriber s.remoteDevice c.typeId r = (true, s.subscribers) → Due c s c.typeId
  | one : c.type = .resynchronize → c.typeId ≠ 0 →
      L.hasSubscriber s.remoteDevice c.typeId s.subscribers = true → Due c s c.typeId
  | all {t : StateTypeId} : c.type = .resynchronize → c.typeId = 0 →
      t ∈ L.subscribedTypes s.remoteDevice s.subscribers → Due c s t

/-- The answer to a request, if it has one. -/
def answerOf : MessageType → Option MessageType
  | .subscribe => some .subscribeAcknowledgement
  | .unsubscribe => some .unsubscribeAcknowledgement
  | _ => none

/-- The value of an update is the one that was held before, or the one that was just taken. -/
def Stored (parsed : ParsedUpdate L.Device) (m : L.RemoteManager) : Prop :=
  exactDuplicate parsed.header m = true ∨
    ∃ value m₀, L.apply parsed.header.typeId parsed.header.origin parsed.header.epoch
      parsed.header.revision value m₀ = (true, m)

/-- One thing that a session does while it handles the message `m`; it was bound to `known` when the
message came. -/
inductive Deed (m : Message L) (known : L.Device) : Situation H → Situation H → Prop
  | bind {s x d} : known = L.zero → s.remoteDevice = L.zero → d ≠ L.zero → m.sender = some d →
      (s.config.expectedRemoteDevice = L.zero ∨ d = s.config.expectedRemoteDevice) →
      Deed m known (s, x) ({ s with remoteDevice := d }, x.record (.bound d))
  | available {s x} (value) : s.FromPeer m →
      Deed m known (s, x) (s, x.setAvailability s.remoteDevice value)
  | greet {s x} (handler) : s.FromPeer m →
      Deed m known (s, x) (s, { x with world := H.peerBound handler s.remoteDevice x.world })
  | announce {s x} (t) : known = L.zero → s.FromPeer m →
      Deed m known (s, x) (s, (s.sendControl .subscribe t x).2)
  | apply {s x parsed} : m = .update parsed → s.FromPeer m →
      Deed m known (s, x) (s, (applyIncoming parsed x).2)
  | acknowledge {s x parsed} : m = .update parsed → s.FromPeer m →
      L.isSubscribed s.remoteDevice parsed.header.typeId x.store.subscriptions = true →
      Stored parsed x.store.remote →
      Deed m known (s, x) (s, (s.sendAcknowledgement parsed.header x).2)
  | report {s x a} (handler) : m = .acknowledgement a → a.origin = L.origin x.store.publisher →
      Deed m known (s, x) (s, { x with world := H.acknowledged handler a x.world })
  | add {s x c} : m = .control c → c.type = .subscribe → s.FromPeer m → Deed m known (s, x)
      ({ s with subscribers := (L.addSubscriber s.remoteDevice c.typeId s.subscribers).2 }, x)
  | remove {s x c} : m = .control c → c.type = .unsubscribe → s.FromPeer m → Deed m known (s, x)
      ({ s with subscribers := L.removeSubscriber s.remoteDevice c.typeId s.subscribers }, x)
  | forget {s x c} : m = .control c → c.type = .disconnect → s.FromPeer m → Deed m known (s, x)
      ({ s with subscribers := L.removeDevice s.remoteDevice s.subscribers },
        x.record (.left s.remoteDevice))
  | snapshot {s x c t} : m = .control c → s.FromPeer m → Due c s t →
      Deed m known (s, x) (s, (s.sendSnapshotByType t x).2)
  | answer {s x c type} : m = .control c → s.FromPeer m → answerOf c.type = some type →
      Deed m known (s, x) (s, (s.sendControl type c.typeId x).2)

/-- Several things, one after the other. -/
def Deeds (m : Message L) (known : L.Device) : Situation H → Situation H → Prop :=
  Relation.ReflTransGen (Deed m known)

/-- What is told to the outside when a session has found its peer. -/
def met (d : L.Device) (s : SocketStateSession H) (x : Exterior H) : Exterior H :=
  let x := x.record (.bound d)
  let x := if s.attached then x.setAvailability d .connected else x
  match s.peerBoundHandler with
  | none => x
  | some handler => { x with world := H.peerBound handler d x.world }

theorem met_store (d : L.Device) (s : SocketStateSession H) (x : Exterior H) :
    (s.met d x).store = if s.attached then
      { x.store with remote := L.setAvailability d .connected x.store.remote } else x.store := by
  unfold met
  dsimp only
  split
  · split_ifs <;> rfl
  · split_ifs <;> rfl

/-- A session that knows no peer binds to a device that it may have for one. -/
theorem bindPeer_free {d : L.Device} {s : SocketStateSession H} (hd : d ≠ L.zero)
    (hfree : s.remoteDevice = L.zero)
    (hexpected : s.config.expectedRemoteDevice = L.zero ∨ d = s.config.expectedRemoteDevice)
    (x : Exterior H) : s.bindPeer d x = (true, { s with remoteDevice := d },
      sendCurrentSubscriptions { s with remoteDevice := d } (s.met d x)) := by
  have hother : ¬ (s.config.expectedRemoteDevice ≠ L.zero ∧ d ≠ s.config.expectedRemoteDevice) := by
    tauto
  unfold bindPeer
  rw [if_neg hd, if_neg hother, if_neg (not_not.mpr hfree)]
  rfl

theorem bindPeer_known {d : L.Device} {s : SocketStateSession H} (hd : d ≠ L.zero)
    (hsame : s.remoteDevice = d)
    (hexpected : s.config.expectedRemoteDevice = L.zero ∨ d = s.config.expectedRemoteDevice)
    (x : Exterior H) : s.bindPeer d x = (true, s, x) := by
  have hother : ¬ (s.config.expectedRemoteDevice ≠ L.zero ∧ d ≠ s.config.expectedRemoteDevice) := by
    tauto
  unfold bindPeer
  rw [if_neg hd, if_neg hother, if_pos (hsame ▸ hd), decide_eq_true hsame]

/-- A session refuses a device, knows it already, or binds to it. -/
theorem bindPeer_cases (d : L.Device) (s : SocketStateSession H) (x : Exterior H) :
    s.bindPeer d x = (false, s, x) ∨
    (d ≠ L.zero ∧ s.remoteDevice = d ∧ s.bindPeer d x = (true, s, x)) ∨
    (d ≠ L.zero ∧ s.remoteDevice = L.zero ∧
      (s.config.expectedRemoteDevice = L.zero ∨ d = s.config.expectedRemoteDevice) ∧
      s.bindPeer d x = (true, { s with remoteDevice := d },
        sendCurrentSubscriptions { s with remoteDevice := d } (s.met d x))) := by
  by_cases hzero : d = L.zero
  · exact .inl (if_pos hzero)
  by_cases hother : s.config.expectedRemoteDevice ≠ L.zero ∧ d ≠ s.config.expectedRemoteDevice
  · exact .inl ((if_neg hzero).trans (if_pos hother))
  have hexpected : s.config.expectedRemoteDevice = L.zero ∨ d = s.config.expectedRemoteDevice := by
    tauto
  by_cases hbound : s.remoteDevice = L.zero
  · exact .inr (.inr ⟨hzero, hbound, hexpected, bindPeer_free hzero hbound hexpected x⟩)
  · unfold bindPeer
    rw [if_neg hzero, if_neg hother, if_pos hbound]
    by_cases hsame : s.remoteDevice = d
    · exact .inr (.inl ⟨hzero, hsame, by rw [decide_eq_true hsame]⟩)
    · exact .inl (by rw [decide_eq_false hsame])

/-- The device may be the session's peer. -/
def admits (d : L.Device) (s : SocketStateSession H) : Bool :=
  decide (d ≠ L.zero ∧
    (s.config.expectedRemoteDevice = L.zero ∨ d = s.config.expectedRemoteDevice) ∧
    (s.remoteDevice = L.zero ∨ s.remoteDevice = d))

theorem bindPeer_refused {d : L.Device} {s : SocketStateSession H} (h : s.admits d = false)
    (x : Exterior H) : s.bindPeer d x = (false, s, x) := by
  have hnot := of_decide_eq_false h
  unfold bindPeer
  split_ifs with hzero hother hbound
  · rfl
  · rfl
  · have hne : s.remoteDevice ≠ d := fun hsame => hnot ⟨hzero, by tauto, .inr hsame⟩
    rw [decide_eq_false hne]
  · exact absurd ⟨hzero, by tauto, .inl (not_not.mp hbound)⟩ hnot

theorem bindPeer_admitted {d : L.Device} {s : SocketStateSession H} (h : s.admits d = true)
    (x : Exterior H) : (s.bindPeer d x).1 = true ∧
      (s.bindPeer d x).2.1 = { s with remoteDevice := d } := by
  obtain ⟨hd, hexpected, hfree | hsame⟩ := of_decide_eq_true h
  · rw [bindPeer_free hd hfree hexpected]
    exact ⟨rfl, rfl⟩
  · rw [bindPeer_known hd hsame hexpected]
    exact ⟨rfl, by rw [← hsame]⟩

/-- The subscribers after a message of the device. -/
def subscribersAfter (d : L.Device) (m : Message L) (r : L.Subscribers) : L.Subscribers :=
  match m with
  | .control c =>
    match c.type with
    | .subscribe => (L.addSubscriber d c.typeId r).2
    | .unsubscribe => L.removeSubscriber d c.typeId r
    | .disconnect => L.removeDevice d r
    | _ => r
  | _ => r

/-- What a message makes of the session. -/
theorem handleMessage_session (m : Message L) (s : SocketStateSession H) (x : Exterior H) :
    (s.handleMessage m x).2.1 = match m.sender with
      | none => s
      | some d => if s.admits d then
          { s with remoteDevice := d, subscribers := subscribersAfter d m s.subscribers } else s := by
  cases m with
  | acknowledgement a =>
    unfold handleMessage handleAcknowledgement
    dsimp only [Message.sender]
    split_ifs
    · rfl
    · split <;> rfl
  | update parsed =>
    unfold handleMessage handleUpdate
    dsimp only [Message.sender]
    cases hadmits : s.admits parsed.header.origin with
    | false =>
      rw [bindPeer_refused hadmits]
      rfl
    | true =>
      obtain ⟨hbound, hsession⟩ := bindPeer_admitted hadmits x
      rw [hbound]
      split_ifs <;> first | exact hsession | simp_all
  | control c =>
    unfold handleMessage
    dsimp only [Message.sender]
    cases hadmits : s.admits c.device with
    | false =>
      rw [bindPeer_refused hadmits]
      rfl
    | true =>
      obtain ⟨hbound, hsession⟩ := bindPeer_admitted hadmits x
      rw [hbound, hsession]
      unfold handleControl subscribersAfter
      cases htype : c.type <;> dsimp only <;> split_ifs <;> simp_all

variable {m : Message L} {known : L.Device} {s : SocketStateSession H} {x : Exterior H}

theorem sendCurrentSubscriptions_deeds (hknown : known = L.zero) (hpeer : s.FromPeer m) :
    Deeds m known (s, x) (s, s.sendCurrentSubscriptions x) := by
  unfold sendCurrentSubscriptions
  split_ifs
  · exact .refl
  · generalize L.descriptors x.store.subscriptions = ds
    induction ds generalizing x with
    | nil => exact .refl
    | cons d ds ih =>
      have hfirst : Deeds m known (s, x) (s, s.announce x d) := by
        unfold announce
        split_ifs
        · exact .single (.announce d.typeId hknown hpeer)
        · exact .refl
      exact hfirst.trans ih

theorem met_deeds {d : L.Device} (hpeer : FromPeer m { s with remoteDevice := d }) :
    Deeds m known ({ s with remoteDevice := d }, x.record (.bound d))
      ({ s with remoteDevice := d }, s.met d x) := by
  have havailable : Deeds m known ({ s with remoteDevice := d }, x.record (.bound d))
      ({ s with remoteDevice := d }, if s.attached
        then (x.record (.bound d)).setAvailability d .connected else x.record (.bound d)) := by
    split_ifs
    · exact .single (.available _ hpeer)
    · exact .refl
  unfold met
  dsimp only
  split
  · exact havailable
  · exact havailable.tail (.greet _ hpeer)

/-- A session that has accepted the sender of a message is bound to it. -/
theorem bindPeer_deeds {d : L.Device} (hsender : m.sender = some d) :
    Deeds m s.remoteDevice (s, x) (s.bindPeer d x).2 ∧
      ((s.bindPeer d x).1 = true → (s.bindPeer d x).2.1.FromPeer m) := by
  rcases s.bindPeer_cases d x with h | ⟨hd, hsame, h⟩ | ⟨hd, hfree, hexpected, h⟩
  · rw [h]
    exact ⟨.refl, fun hbound => by cases hbound⟩
  · rw [h]
    exact ⟨.refl, fun _ => ⟨hsame ▸ hd, hsame ▸ hsender⟩⟩
  · have hpeer : FromPeer m { s with remoteDevice := d } := ⟨hd, hsender⟩
    have hbind : Deed m s.remoteDevice (s, x) ({ s with remoteDevice := d }, x.record (.bound d)) :=
      .bind hfree hfree hd hsender hexpected
    rw [h]
    exact ⟨(Relation.ReflTransGen.single hbind).trans
      ((met_deeds hpeer).trans (sendCurrentSubscriptions_deeds hfree hpeer)), fun _ => hpeer⟩

omit [SizeWidth] in
/-- An update is taken only if its value is held afterwards. -/
theorem stored_of_applyIncoming (parsed : ParsedUpdate L.Device) (x : Exterior H) :
    (applyIncoming parsed x).1 = true → Stored parsed (applyIncoming parsed x).2.store.remote := by
  unfold applyIncoming
  split_ifs with hdefined hduplicate
  · split
    · exact nofun
    · exact fun _ => .inl hduplicate
  · split
    · exact nofun
    · rename_i value _
      exact fun h => .inr ⟨value, x.store.remote, Prod.ext h rfl⟩
  · exact nofun

omit [SizeWidth] in
@[simp] theorem applyIncoming_subscriptions (parsed : ParsedUpdate L.Device) (x : Exterior H) :
    (applyIncoming parsed x).2.store.subscriptions = x.store.subscriptions := by
  unfold applyIncoming
  split_ifs
  · split <;> rfl
  · split <;> rfl
  · rfl

theorem handleUpdate_deeds (parsed : ParsedUpdate L.Device) :
    Deeds (.update parsed) s.remoteDevice (s, x) (s.handleUpdate parsed x).2 := by
  obtain ⟨hbind, hpeer⟩ := bindPeer_deeds (m := .update parsed) (s := s) (x := x) rfl
  unfold handleUpdate
  dsimp only
  split_ifs with hrefused hsubscribed happlied
  · exact hbind
  · exact hbind
  · exact hbind.tail (.apply rfl (hpeer (by simpa using hrefused)))
  · have hpeer := hpeer (by simpa using hrefused)
    refine (hbind.tail (.apply rfl hpeer)).tail (.acknowledge rfl hpeer ?_ ?_)
    · simpa using hsubscribed
    · exact stored_of_applyIncoming parsed _ (by simpa using happlied)

theorem handleAcknowledgement_deeds (a : StateAcknowledgement L.Device) :
    Deeds (.acknowledgement a) known (s, x) (s.handleAcknowledgement a x).2 := by
  unfold handleAcknowledgement
  split_ifs with hstranger
  · exact .refl
  · split
    · exact .refl
    · rename_i handler _
      refine .single (.report handler rfl ?_)
      by_contra hne
      exact hstranger (by simp [hne])

theorem handleControl_deeds {c : ControlMessage L.Device} (hpeer : s.FromPeer (.control c)) :
    Deeds (.control c) known (s, x) (s.handleControl c x).2 := by
  unfold handleControl
  cases htype : c.type with
  | subscribe =>
    have hadd : Deed (.control c) known (s, x) ({ s with
        subscribers := (L.addSubscriber s.remoteDevice c.typeId s.subscribers).2 }, x) :=
      .add rfl htype hpeer
    dsimp only
    split_ifs with hrefused
    · exact .single hadd
    · have htaken : (L.addSubscriber s.remoteDevice c.typeId s.subscribers).1 = true := by
        simpa using hrefused
      refine ((Relation.ReflTransGen.single hadd).tail (.snapshot rfl hpeer ?_)).tail
        (.answer rfl hpeer (by rw [htype]; rfl))
      exact .subscribed s.subscribers htype (Prod.ext htaken rfl)
  | unsubscribe =>
    have hremove : Deed (.control c) known (s, x) ({ s with
        subscribers := L.removeSubscriber s.remoteDevice c.typeId s.subscribers }, x) :=
      .remove rfl htype hpeer
    exact (Relation.ReflTransGen.single hremove).tail (.answer rfl hpeer (by rw [htype]; rfl))
  | resynchronize =>
    dsimp only
    split_ifs with hone hknown
    · exact .single (.snapshot rfl hpeer (.one htype hone hknown))
    · exact .refl
    · have hall : ∀ t ∈ L.subscribedTypes s.remoteDevice s.subscribers, Due c s t :=
        fun t ht => .all htype (not_not.mp hone) ht
      revert hall
      generalize L.subscribedTypes s.remoteDevice s.subscribers = types
      intro hall
      induction types generalizing x with
      | nil => exact .refl
      | cons t types ih =>
        have hfirst : Deed (.control c) known (s, x) (s, (s.sendSnapshotByType t x).2) :=
          .snapshot rfl hpeer (hall t List.mem_cons_self)
        exact .head hfirst (ih fun t' ht' => hall t' (List.mem_cons_of_mem _ ht'))
  | disconnect =>
    have hforget : Deed (.control c) known (s, x) ({ s with
        subscribers := L.removeDevice s.remoteDevice s.subscribers },
        x.record (.left s.remoteDevice)) := .forget rfl htype hpeer
    dsimp only
    split_ifs
    · exact (Relation.ReflTransGen.single hforget).tail (.available _ hpeer)
    · exact .single hforget
  | _ => exact .refl

theorem handleMessage_deeds (m : Message L) (s : SocketStateSession H) (x : Exterior H) :
    Deeds m s.remoteDevice (s, x) (s.handleMessage m x).2 := by
  cases m with
  | update parsed => exact handleUpdate_deeds parsed
  | acknowledgement a => exact handleAcknowledgement_deeds a
  | control c =>
    obtain ⟨hbind, hpeer⟩ := bindPeer_deeds (m := .control c) (s := s) (x := x) rfl
    unfold handleMessage
    dsimp only
    split_ifs with hrefused
    · exact hbind
    · exact hbind.trans (handleControl_deeds (hpeer (by simpa using hrefused)))

/-- A message of a device that may not be the peer is turned down. -/
theorem handleMessage_refused {d : L.Device} (hsender : m.sender = some d) (h : s.admits d = false) :
    s.handleMessage m x = (false, s, x) := by
  cases m with
  | update parsed =>
    cases hsender
    unfold handleMessage handleUpdate
    dsimp only
    rw [bindPeer_refused h]
    rfl
  | acknowledgement a => cases hsender
  | control c =>
    cases hsender
    unfold handleMessage
    dsimp only
    rw [bindPeer_refused h]
    rfl

/-- A session that is bound turns down what another device sends. -/
theorem handleMessage_stranger {d : L.Device} (hbound : s.remoteDevice ≠ L.zero)
    (hsender : m.sender = some d) (hd : d ≠ s.remoteDevice) : s.handleMessage m x = (false, s, x) := by
  refine handleMessage_refused hsender (decide_eq_false ?_)
  rintro ⟨-, -, hfree | hsame⟩
  · exact hbound hfree
  · exact hd hsame.symm

/-- A payload that is no message changes nothing. -/
theorem handleProtocolMessage_none {payload : Bytes} (h : parse L payload = none)
    (s : SocketStateSession H) (x : Exterior H) :
    s.handleProtocolMessage payload x = (false, s, x) := by
  unfold parse at h
  unfold handleProtocolMessage
  cases htype : L.getMessageType payload with
  | none => rfl
  | some type =>
    rw [htype] at h
    cases type <;> dsimp only at h ⊢ <;> rw [Option.map_eq_none_iff.mp h]

/-- What every deed keeps, the handling of a payload keeps. -/
theorem handleProtocolMessage_keeps {Q : Situation H → Prop}
    (hdeed : ∀ m known r r', Deed m known r r' → Q r → Q r') (payload : Bytes) {s : SocketStateSession H}
    {x : Exterior H} (h : Q (s, x)) : Q (s.handleProtocolMessage payload x).2 := by
  cases hparse : parse L payload with
  | none => rwa [handleProtocolMessage_none hparse]
  | some m =>
    rw [handleProtocolMessage_eq hparse]
    have hdeeds := handleMessage_deeds m s x
    revert hdeeds
    generalize (s.handleMessage m x).2 = r
    intro hdeeds
    induction hdeeds with
    | refl => exact h
    | tail _ hlast ih => exact hdeed _ _ _ _ hlast ih

/-- What every deed keeps and the decoder has no part in, `Feed` keeps. -/
theorem feed_keeps {Q : Situation H → Prop}
    (hdeed : ∀ m known r r', Deed m known r r' → Q r → Q r')
    (hdecoder : ∀ s x d, Q (s, x) → Q ({ s with decoder := d }, x)) (data : Bytes)
    {s : SocketStateSession H} {x : Exterior H} (h : Q (s, x)) : Q (s.feed data x).2 := by
  unfold feed
  split_ifs
  · exact h
  · exact hdecoder _ _ _ (s.decoder.push_preserves takeMessage
      (Q := fun r : Bool × SocketStateSession H × Exterior H => Q r.2)
      (fun payload r hr => handleProtocolMessage_keeps hdeed payload hr) data (s := (true, s, x)) h)

end SocketStateSession
end Sockets.State
