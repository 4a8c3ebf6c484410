import Sockets.Foundation.Register
import Sockets.State.Endpoint
import Sockets.State.Emissions

/-! What a publisher has put on its way to a subscriber. -/
namespace Sockets.State
open Foundation Sockets.Frame

/-- A value with its epoch and its revision. -/
structure StateValue (Value : Type) where
  epoch : ℕ
  revision : ℕ
  value : Value
  deriving DecidableEq

def StateValue.stamp {Value : Type} (v : StateValue Value) : ℕ ×ₗ ℕ :=
  State.stamp v.epoch v.revision

def StateUpdate.state {Device Value : Type} (u : StateUpdate Device Value) : StateValue Value :=
  ⟨u.header.epoch, u.header.revision, u.value⟩

variable {L : StateLibrary}

variable (L) in
/-- `latest` is the latest update or snapshot of a type that a publisher has produced: publications
carry ever newer revisions, and snapshots show the latest value. -/
structure LatestValues
    (latest : StateTypeId → L.Publisher → Option (StateUpdate L.Device L.Value)) : Prop where
  publish : ∀ t p, ∀ u ∈ (L.publish t p).1, latest t (L.publish t p).2 = some u ∧
    ∀ v ∈ latest t p, v.header.stamp < u.header.stamp
  publish_none : ∀ t p, (L.publish t p).1 = none → latest t (L.publish t p).2 = latest t p
  snapshot : ∀ t p, (L.snapshot t p).1 = latest t (L.snapshot t p).2
  snapshot_keeps : ∀ t p, ∀ u ∈ latest t p, latest t (L.snapshot t p).2 = some u
  others : ∀ t ∈ L.definitions, ∀ t' ∈ L.definitions, t' ≠ t → ∀ p,
    latest t' (L.publish t p).2 = latest t' p ∧ latest t' (L.snapshot t p).2 = latest t' p

variable (L) in
/-- Whoever reads an update finds the value that was put into it. -/
structure FaithfulValues : Prop where
  value : ∀ u limit payload parsed, u.header.typeId ∈ L.definitions →
    L.encodeUpdate u limit = some payload → parse L payload = some (.update parsed) →
      L.decodeValue u.header.typeId parsed = some u.value

variable (L) in
/-- The frame carries this value of a type. -/
def Brings (t : StateTypeId) (v : StateValue L.Value) (frame : Bytes) : Prop :=
  ∃ parsed, messageOf L frame = some (.update parsed) ∧ parsed.header.typeId = t ∧
    parsed.header.epoch = v.epoch ∧ parsed.header.revision = v.revision ∧
      L.decodeValue t parsed = some v.value

variable (L) in
def IsUpdateFrame (frame : Bytes) : Prop := ∃ parsed, messageOf L frame = some (.update parsed)

/-- An update that a frame can hold. -/
def Encodable (limit : ℕ) (u : StateUpdate L.Device L.Value) : Prop :=
  ∃ payload ∈ L.encodeUpdate u limit, payload.length < 2 ^ 32

/-- The latest value of a type. -/
def newest (latest : StateTypeId → L.Publisher → Option (StateUpdate L.Device L.Value))
    (t : StateTypeId) (p : L.Publisher) : Option (StateValue L.Value) :=
  (latest t p).map StateUpdate.state

/-- A request is no update. -/
private theorem not_update_of_control (hL : LawfulProtocol L) {c : ControlMessage L.Device}
    (htype : c.type.IsRequest) (hdevice : c.device ≠ L.zero) {payload : Bytes}
    (hpayload : payload ∈ L.encodeControl c) :
    ¬ IsUpdateFrame L (encodeFrame stateMagic payload) := by
  rintro ⟨parsed, hparsed⟩
  obtain ⟨payload', hencode, -, -, hparse⟩ := hL.control c htype hdevice
  obtain rfl : payload' = payload := Option.some.inj (hencode.symm.trans hpayload)
  rw [messageOf_encodeFrame, hparse] at hparsed
  cases hparsed

private theorem brings_of_encodeUpdate (hL : LawfulProtocol L) (hV : FaithfulValues L)
    {u : StateUpdate L.Device L.Value} (ht : u.header.typeId ∈ L.definitions) {limit : ℕ}
    {payload : Bytes} (hpayload : payload ∈ L.encodeUpdate u limit) :
    Brings L u.header.typeId u.state (encodeFrame stateMagic payload) := by
  obtain ⟨-, -, parsed, hparse, hheader, -⟩ := hL.update u limit payload hpayload
  refine ⟨parsed, ?_, by rw [hheader], by rw [hheader]; rfl, by rw [hheader]; rfl, ?_⟩
  · rw [messageOf_encodeFrame, hparse]
  · exact hV.value u limit payload parsed ht hpayload hparse

theorem Brings.unique {t t' : StateTypeId} {v v' : StateValue L.Value} {frame : Bytes}
    (h : Brings L t v frame) (h' : Brings L t' v' frame) : t = t' ∧ v = v' := by
  obtain ⟨parsed, hparsed, rfl, hepoch, hrevision, hvalue⟩ := h
  obtain ⟨parsed', hparsed', htype, hepoch', hrevision', hvalue'⟩ := h'
  obtain rfl : parsed = parsed' := by
    rw [hparsed] at hparsed'
    exact Message.update.inj (Option.some.inj hparsed')
  refine ⟨htype, ?_⟩
  rw [← htype, hvalue] at hvalue'
  obtain ⟨epoch, revision, value⟩ := v
  obtain ⟨epoch', revision', value'⟩ := v'
  simp_all

variable [SizeWidth]

/-- A payload goes out as a frame if it is within the limit. -/
theorem SocketStateSession.sendEncoded_says {s : SocketStateSession (peerHost L)}
    (hhandler : s.sendHandler = some ()) (payload : Option Bytes)
    (x : Exterior (peerHost L)) :
    ((s.sendEncoded payload x).2 = x ∧ ∀ p ∈ payload, ¬ Fits s.limit p) ∨
      ∃ p ∈ payload, (s.sendEncoded payload x).2 = x.say (encodeFrame stateMagic p) := by
  cases payload with
  | none => exact .inl ⟨rfl, by simp⟩
  | some p =>
    unfold sendEncoded SocketStateSession.sendProtocolPayload
    rw [hhandler]
    dsimp only
    split_ifs with hsize hframe
    · refine .inl ⟨rfl, fun p' hp' hfits => ?_⟩
      obtain rfl := Option.some.inj hp'
      rcases hsize with hempty | hlarge
      · exact hfits.nonempty hempty
      · exact absurd hfits.le_maximum (not_le.mpr hlarge)
    · refine .inl ⟨rfl, fun p' hp' hfits => ?_⟩
      obtain rfl := Option.some.inj hp'
      exact buildSocketStateFrame_ne_nil_iff.mpr hfits hframe
    · refine .inr ⟨p, rfl, ?_⟩
      rw [buildSocketStateFrame_eq (buildSocketStateFrame_ne_nil_iff.mp hframe)]
      rfl

/-- The situation of a publisher, as far as its subscriber is concerned: what is on its way is no
newer than the latest value, nor is what is known at the other end; and of the types of which `T`
holds the latest value is known there, or on its way. -/
structure Informing (latest : StateTypeId → L.Publisher → Option (StateUpdate L.Device L.Value))
    (own : L.Device) (T : StateTypeId → Prop) (known : StateTypeId → StateValue L.Value → Prop)
    (r : Situation (peerHost L)) : Prop where
  handler : r.1.sendHandler = some ()
  origin : L.origin r.2.store.publisher = own
  truthful : ∀ frame ∈ (r.2.world : List Bytes), IsUpdateFrame L frame → ∃ t ∈ L.definitions, ∃ v,
    Brings L t v frame ∧ UpTo StateValue.stamp (newest latest t r.2.store.publisher) v
  upTo : ∀ t ∈ L.definitions, ∀ v, known t v →
    UpTo StateValue.stamp (newest latest t r.2.store.publisher) v
  present : ∀ t ∈ L.definitions, T t → ∀ u ∈ latest t r.2.store.publisher,
    Encodable r.1.limit u → known t u.state ∨
      ∃ frame ∈ (r.2.world : List Bytes), Brings L t u.state frame

namespace Informing
variable {latest : StateTypeId → L.Publisher → Option (StateUpdate L.Device L.Value)}
  {own : L.Device} {T T' : StateTypeId → Prop} {known : StateTypeId → StateValue L.Value → Prop}
  {r r' : Situation (peerHost L)} {s : SocketStateSession (peerHost L)}
  {x x' : Exterior (peerHost L)}

theorem mono (h : Informing latest own T known r) (hT : ∀ t ∈ L.definitions, T' t → T t) :
    Informing latest own T' known r :=
  ⟨h.handler, h.origin, h.truthful, h.upTo, fun t ht hT' => h.present t ht (hT t ht hT')⟩

/-- Nothing changes by frames that carry no updates. -/
theorem quiet (h : Informing latest own T known r) (hhandler : r'.1.sendHandler = r.1.sendHandler)
    (hlimit : r'.1.limit = r.1.limit) (hpublisher : r'.2.store.publisher = r.2.store.publisher)
    {frames : List Bytes} (hworld : r'.2.world = List.append r.2.world frames)
    (hframes : ∀ frame ∈ frames, ¬ IsUpdateFrame L frame) :
    Informing latest own T known r' := by
  refine ⟨hhandler.trans h.handler, hpublisher ▸ h.origin, ?_, hpublisher ▸ h.upTo, ?_⟩
  · rw [hworld, hpublisher]
    intro frame hmem hupdate
    rcases List.mem_append.mp hmem with hmem | hmem
    · exact h.truthful frame hmem hupdate
    · exact absurd hupdate (hframes frame hmem)
  · rw [hworld, hpublisher, hlimit]
    intro t ht hT u hu hencodable
    refine (h.present t ht hT u hu hencodable).imp id ?_
    rintro ⟨frame, hmem, hbrings⟩
    exact ⟨frame, List.mem_append_left _ hmem, hbrings⟩

theorem idle (h : Informing latest own T known r) (hhandler : r'.1.sendHandler = r.1.sendHandler)
    (hlimit : r'.1.limit = r.1.limit) (hpublisher : r'.2.store.publisher = r.2.store.publisher)
    (hworld : r'.2.world = r.2.world) : Informing latest own T known r' :=
  h.quiet hhandler hlimit hpublisher (hworld.trans (List.append_nil _).symm) (by simp)

theorem say (h : Informing latest own T known (s, x)) {frame : Bytes}
    (hframe : ¬ IsUpdateFrame L frame) : Informing latest own T known (s, x.say frame) := by
  have hworld : (x.say frame).world = List.append x.world [frame] := rfl
  refine h.quiet rfl rfl rfl hworld fun frame' hmem => ?_
  rwa [List.mem_singleton.mp hmem]

/-- The publisher moves; nothing is said any more of the types of which the latest value changes. -/
theorem moved (h : Informing latest own T known (s, x)) {q : L.Publisher}
    (horigin : L.origin q = L.origin x.store.publisher)
    (hmono : ∀ t ∈ L.definitions, ∀ v, UpTo StateValue.stamp (newest latest t x.store.publisher) v →
      UpTo StateValue.stamp (newest latest t q) v)
    (hkept : ∀ t ∈ L.definitions, T' t → T t ∧ latest t q = latest t x.store.publisher) :
    Informing latest own T' known (s, x.setPublisher q) := by
  refine ⟨h.handler, horigin.trans h.origin, fun frame hmem hupdate => ?_, fun t ht v hv => ?_,
    fun t ht hT => ?_⟩
  · obtain ⟨t, ht, v, hbrings, hv⟩ := h.truthful frame hmem hupdate
    exact ⟨t, ht, v, hbrings, hmono t ht v hv⟩
  · exact hmono t ht v (h.upTo t ht v hv)
  · obtain ⟨hT, hsame⟩ := hkept t ht hT
    change ∀ u ∈ latest t q, _
    rw [hsame]
    exact h.present t ht hT

/-- The latest value of a type is sent. -/
theorem sent (hL : LawfulProtocol L) (hV : FaithfulValues L) {t : StateTypeId}
    (ht : t ∈ L.definitions) {u : StateUpdate L.Device L.Value} (htype : u.header.typeId = t)
    (hlatest : latest t x.store.publisher = some u) (h : Informing latest own T known (s, x)) :
    Informing latest own (fun t' => T t' ∨ t' = t) known (s, (s.sendUpdate u x).2) := by
  subst htype
  unfold SocketStateSession.sendUpdate
  rcases SocketStateSession.sendEncoded_says h.handler
    (L.encodeUpdate u s.config.maximumProtocolMessageBytes.val) x with
      ⟨hsame, hunfit⟩ | ⟨p, hp, hsaid⟩
  · rw [hsame]
    refine ⟨h.handler, h.origin, h.truthful, h.upTo, fun t' ht' hT u' hu' hencodable => ?_⟩
    rcases hT with hT | rfl
    · exact h.present t' ht' hT u' hu' hencodable
    · obtain rfl : u = u' := Option.some.inj (hlatest.symm.trans hu')
      obtain ⟨payload, hpayload, hlt⟩ := hencodable
      obtain ⟨hne, hle, -⟩ := hL.update u _ payload hpayload
      exact absurd ⟨hne, hle, hlt⟩ (hunfit payload hpayload)
  · have hbrings := brings_of_encodeUpdate hL hV ht hp
    rw [hsaid]
    refine ⟨h.handler, h.origin, fun frame hmem hupdate => ?_, h.upTo,
      fun t' ht' hT u' hu' hencodable => ?_⟩
    · rcases List.mem_append.mp hmem with hmem | hmem
      · exact h.truthful frame hmem hupdate
      · rw [List.mem_singleton.mp hmem]
        refine ⟨_, ht, _, hbrings, ?_⟩
        change UpTo StateValue.stamp (newest latest _ x.store.publisher) u.state
        rw [newest, hlatest]
        exact upTo_some.mpr (.inl rfl)
    · have hlast : encodeFrame stateMagic p ∈
          ((x.say (encodeFrame stateMagic p)).world : List Bytes) :=
        List.mem_append_right _ (List.mem_singleton_self _)
      rcases hT with hT | rfl
      · refine (h.present t' ht' hT u' hu' hencodable).imp id ?_
        rintro ⟨frame, hmem, hframe⟩
        exact ⟨frame, List.mem_append_left _ hmem, hframe⟩
      · obtain rfl : u = u' := Option.some.inj (hlatest.symm.trans hu')
        exact .inr ⟨_, hlast, hbrings⟩

end Informing

namespace SocketStateSession
variable {latest : StateTypeId → L.Publisher → Option (StateUpdate L.Device L.Value)}
  {own : L.Device} {T : StateTypeId → Prop} {known : StateTypeId → StateValue L.Value → Prop}
  {s : SocketStateSession (peerHost L)} {x : Exterior (peerHost L)}

theorem sendControl_informs (hL : LawfulProtocol L) (hown : own ≠ L.zero) {type : MessageType}
    (htype : type.IsRequest) (t : StateTypeId) (h : Informing latest own T known (s, x)) :
    Informing latest own T known (s, (s.sendControl type t x).2) := by
  unfold SocketStateSession.sendControl
  split_ifs
  · exact h
  · rcases sendEncoded_says h.handler
      (L.encodeControl ⟨type, L.origin x.store.publisher, t⟩) x with ⟨hsame, -⟩ | ⟨p, hp, hsaid⟩
    · rwa [hsame]
    · rw [hsaid]
      refine h.say (not_update_of_control hL htype ?_ hp)
      rw [h.origin]
      exact hown

theorem sendAcknowledgement_informs (hL : LawfulProtocol L) (header : StateUpdateHeader L.Device)
    (h : Informing latest own T known (s, x)) :
    Informing latest own T known (s, (s.sendAcknowledgement header x).2) := by
  rcases sendEncoded_says h.handler (L.encodeAcknowledgement
    ⟨header.origin, header.typeId, header.epoch, header.revision⟩) x with ⟨hsame, -⟩ | ⟨p, hp, hsaid⟩
  · unfold SocketStateSession.sendAcknowledgement
    rwa [hsame]
  · unfold SocketStateSession.sendAcknowledgement
    rw [hsaid]
    apply h.say
    rintro ⟨parsed, hparsed⟩
    rw [messageOf_encodeFrame, (hL.acknowledgement _ p hp).2.2] at hparsed
    cases hparsed

theorem sendCurrentSubscriptions_informs (hL : LawfulProtocol L) (hown : own ≠ L.zero)
    (h : Informing latest own T known (s, x)) :
    Informing latest own T known (s, s.sendCurrentSubscriptions x) := by
  have htype : MessageType.IsRequest .subscribe := trivial
  unfold sendCurrentSubscriptions
  split_ifs
  · exact h
  · refine List.foldlRecOn (motive := fun y => Informing latest own T known (s, y)) _ s.announce h
      fun y hy d _ => ?_
    unfold announce
    split_ifs
    · exact sendControl_informs hL hown htype _ hy
    · exact hy

/-- A snapshot leaves the latest values what they are, or is the first value of its type; in any
case the latest value is sent. -/
theorem sendSnapshotByType_informs (hL : LawfulProtocol L) (hV : FaithfulValues L)
    (hP : LawfulPublisher L) (hlatest : LatestValues L latest) (t : StateTypeId)
    (h : Informing latest own T known (s, x)) :
    Informing latest own (fun t' => T t' ∨ (t' = t ∧ s.attached = true)) known
      (s, (s.sendSnapshotByType t x).2) := by
  unfold sendSnapshotByType sendSnapshot
  split_ifs with ht hdetached
  · exact h.mono fun t' _ hT => hT.resolve_right fun hnew => by simp [hnew.2] at hdetached
  · dsimp only
    have hmono : ∀ t' ∈ L.definitions, ∀ v,
        UpTo StateValue.stamp (newest latest t' x.store.publisher) v →
          UpTo StateValue.stamp (newest latest t' (L.snapshot t x.store.publisher).2) v := by
      intro t' ht' v hv
      by_cases hsame : t' = t
      · subst hsame
        obtain ⟨w, hw, hle⟩ := hv
        obtain ⟨u, hu, rfl⟩ := Option.map_eq_some_iff.mp hw
        refine ⟨u.state, ?_, hle⟩
        rw [newest, hlatest.snapshot_keeps t' _ u hu]
        rfl
      · rwa [newest, (hlatest.others t ht t' ht' hsame _).2]
    have hmoved : Informing latest own (fun t' => T t' ∧ t' ≠ t) known
        (s, x.setPublisher (L.snapshot t x.store.publisher).2) :=
      h.moved (hP.origin_snapshot t _) hmono
        fun t' ht' hT => ⟨hT.1, (hlatest.others t ht t' ht' hT.2 _).2⟩
    cases hsnapshot : (L.snapshot t x.store.publisher).1 with
    | none =>
      -- without a snapshot there is no latest value
      refine ⟨hmoved.handler, hmoved.origin, hmoved.truthful, hmoved.upTo,
        fun t' ht' hT u hu hencodable => ?_⟩
      by_cases hsame : t' = t
      · subst hsame
        change u ∈ latest t' (L.snapshot t' x.store.publisher).2 at hu
        rw [← hlatest.snapshot, hsnapshot] at hu
        cases hu
      · exact hmoved.present t' ht' ⟨hT.resolve_right fun hnew => hsame hnew.1, hsame⟩ u hu
          hencodable
    | some u =>
      refine (hmoved.sent hL hV ht (hP.snapshot t _ u hsnapshot).2 ?_).mono fun t' _ hT => ?_
      · exact (hlatest.snapshot t _).symm.trans hsnapshot
      · by_cases hsame : t' = t
        · exact .inr hsame
        · exact .inl ⟨hT.resolve_right fun hnew => hsame hnew.1, hsame⟩
  · exact h.mono fun t' ht' hT => hT.resolve_right fun hnew => ht (hnew.1 ▸ ht')

omit [SizeWidth] in
private theorem isRequest_of_answerOf {type type' : MessageType} (h : answerOf type = some type') :
    type'.IsRequest := by
  unfold answerOf at h
  split at h <;> cases h <;> exact trivial

/-- Whatever a publisher does while it handles a message, its subscriber is informed. -/
theorem Deed.informs (hL : LawfulProtocol L) (hV : FaithfulValues L) (hP : LawfulPublisher L)
    (hlatest : LatestValues L latest) (hown : own ≠ L.zero) {m : Message L} {peer : L.Device}
    {r r' : Situation (peerHost L)} (h : Deed m peer r r') (hr : Informing latest own T known r) :
    Informing latest own T known r' := by
  have htype : MessageType.IsRequest .subscribe := trivial
  cases h with
  | bind _ _ _ _ _ => exact hr.idle rfl rfl rfl rfl
  | available value _ => exact hr.idle rfl rfl rfl rfl
  | greet handler _ => exact handler.elim
  | announce t _ _ => exact sendControl_informs hL hown htype t hr
  | @apply s x parsed _ _ =>
    have hsame : (applyIncoming parsed x).2.store.publisher = x.store.publisher ∧
        (applyIncoming parsed x).2.world = x.world := by
      unfold applyIncoming
      split_ifs
      · split <;> exact ⟨rfl, rfl⟩
      · split <;> exact ⟨rfl, rfl⟩
      · exact ⟨rfl, rfl⟩
    exact hr.idle rfl rfl hsame.1 hsame.2
  | acknowledge _ _ _ _ => exact sendAcknowledgement_informs hL _ hr
  | report handler _ _ => exact handler.elim
  | add _ _ _ => exact hr.idle rfl rfl rfl rfl
  | remove _ _ _ => exact hr.idle rfl rfl rfl rfl
  | forget _ _ _ => exact hr.idle rfl rfl rfl rfl
  | snapshot _ _ _ =>
    exact (sendSnapshotByType_informs hL hV hP hlatest _ hr).mono fun _ _ hT => .inl hT
  | answer _ _ hanswer => exact sendControl_informs hL hown (isRequest_of_answerOf hanswer) _ hr

theorem Deeds.informs (hL : LawfulProtocol L) (hV : FaithfulValues L) (hP : LawfulPublisher L)
    (hlatest : LatestValues L latest) (hown : own ≠ L.zero) {m : Message L} {peer : L.Device}
    {r r' : Situation (peerHost L)} (h : Deeds m peer r r') (hr : Informing latest own T known r) :
    Informing latest own T known r' := by
  induction h with
  | refl => exact hr
  | tail _ hlast ih => exact hlast.informs hL hV hP hlatest hown ih

theorem handleMessage_informs (hL : LawfulProtocol L) (hV : FaithfulValues L)
    (hP : LawfulPublisher L) (hlatest : LatestValues L latest) (hown : own ≠ L.zero)
    (m : Message L) (h : Informing latest own T known (s, x)) :
    Informing latest own T known (s.handleMessage m x).2 :=
  (handleMessage_deeds m s x).informs hL hV hP hlatest hown h

/-- A subscription that is granted is served: the latest value of its type is sent. -/
theorem handleMessage_serves (hL : LawfulProtocol L) (hV : FaithfulValues L)
    (hP : LawfulPublisher L) (hlatest : LatestValues L latest) (hown : own ≠ L.zero)
    {c : ControlMessage L.Device} (htype : c.type = .subscribe) (hattached : s.attached = true)
    (hadmits : s.admits c.device = true)
    (hadd : (L.addSubscriber c.device c.typeId s.subscribers).1 = true)
    (h : Informing latest own T known (s, x)) :
    Informing latest own (fun t => T t ∨ t = c.typeId) known (s.handleMessage (.control c) x).2 := by
  have hanswer : MessageType.IsRequest .subscribeAcknowledgement := trivial
  obtain ⟨hbound, hsession⟩ := bindPeer_admitted hadmits x
  have hbind : Informing latest own T known (s.bindPeer c.device x).2 :=
    (bindPeer_deeds (m := .control c) rfl).1.informs hL hV hP hlatest hown h
  unfold handleMessage
  dsimp only
  rw [hbound, hsession]
  unfold handleControl
  rw [htype]
  simp only [hadd, Bool.not_true, Bool.false_eq_true, if_false]
  apply sendControl_informs hL hown hanswer _
  refine (sendSnapshotByType_informs hL hV hP hlatest _ (T := T) ?_).mono
    fun t _ hT => hT.imp id fun ht => ⟨ht, hattached⟩
  exact hbind.idle (by rw [hsession]) (by rw [hsession]; rfl) rfl rfl

/-- A publication is sent to whoever has subscribed to its type. -/
theorem onTypedStatePublished_informs (hL : LawfulProtocol L) (hV : FaithfulValues L)
    (hP : LawfulPublisher L) (hlatest : LatestValues L latest) {t : StateTypeId}
    (ht : t ∈ L.definitions) {u : StateUpdate L.Device L.Value}
    (hpublish : (L.publish t x.store.publisher).1 = some u)
    (hserved : T t → s.initialized = true ∧ s.remoteDevice ≠ L.zero ∧
      L.hasSubscriber s.remoteDevice t s.subscribers = true)
    (h : Informing latest own T known (s, x)) : Informing latest own T known
      (s, s.onTypedStatePublished t u (x.setPublisher (L.publish t x.store.publisher).2)) := by
  obtain ⟨hnew, holder⟩ := hlatest.publish t x.store.publisher u hpublish
  have hmono : ∀ t' ∈ L.definitions, ∀ v,
      UpTo StateValue.stamp (newest latest t' x.store.publisher) v →
        UpTo StateValue.stamp (newest latest t' (L.publish t x.store.publisher).2) v := by
    intro t' ht' v hv
    by_cases hsame : t' = t
    · subst hsame
      rw [newest, hnew]
      refine hv.newer fun w hw => ?_
      obtain ⟨u', hu', rfl⟩ := Option.map_eq_some_iff.mp hw
      exact holder u' hu'
    · rwa [newest, (hlatest.others t ht t' ht' hsame _).1]
  have hmoved : Informing latest own (fun t' => T t' ∧ t' ≠ t) known
      (s, x.setPublisher (L.publish t x.store.publisher).2) :=
    h.moved (hP.origin_publish t _) hmono
      fun t' ht' hT => ⟨hT.1, (hlatest.others t ht t' ht' hT.2 _).1⟩
  have hidle (hunserved : ¬ T t) : Informing latest own T known
      (s, x.setPublisher (L.publish t x.store.publisher).2) :=
    hmoved.mono fun t' _ hT => ⟨hT, fun hsame => hunserved (hsame ▸ hT)⟩
  unfold SocketStateSession.onTypedStatePublished
  split_ifs with hunbound hunknown
  · refine hidle fun hT => ?_
    obtain ⟨hinitialized, hbound, -⟩ := hserved hT
    simp [hinitialized, hbound] at hunbound
  · refine hidle fun hT => ?_
    obtain ⟨-, -, hsubscribed⟩ := hserved hT
    simp [hsubscribed] at hunknown
  · refine (hmoved.sent hL hV ht (hP.publish t _ u hpublish).2 hnew).mono fun t' _ hT => ?_
    by_cases hsame : t' = t
    · exact .inr hsame
    · exact .inl ⟨hT, hsame⟩

/-- An attempt to publish that produces nothing changes nothing. -/
theorem publishNone_informs (hP : LawfulPublisher L) (hlatest : LatestValues L latest)
    {t : StateTypeId} (ht : t ∈ L.definitions) (hpublish : (L.publish t x.store.publisher).1 = none)
    (h : Informing latest own T known (s, x)) :
    Informing latest own T known (s, x.setPublisher (L.publish t x.store.publisher).2) := by
  have hsame : ∀ t' ∈ L.definitions,
      latest t' (L.publish t x.store.publisher).2 = latest t' x.store.publisher := by
    intro t' ht'
    by_cases htt : t' = t
    · subst htt
      exact hlatest.publish_none t' _ hpublish
    · exact (hlatest.others t ht t' ht' htt _).1
  refine h.moved (hP.origin_publish t _) (fun t' ht' v hv => ?_) fun t' ht' hT => ⟨hT, hsame t' ht'⟩
  rwa [newest, hsame t' ht']

/-- What is sent when a session is opened carries no updates. -/
theorem opening_informs (hL : LawfulProtocol L) (hown : own ≠ L.zero)
    (h : Informing latest own T known (s, x)) : Informing latest own T known (s, s.opening x) := by
  have hmet (d : L.Device) : Informing latest own T known (s, s.met d x) := by
    refine h.idle rfl rfl ?_ ?_
    · change (s.met d x).store.publisher = x.store.publisher
      rw [met_store]
      split_ifs <;> rfl
    · change (s.met d x).world = x.world
      unfold met
      dsimp only
      split
      · split_ifs <;> rfl
      · rename_i handler _
        exact handler.elim
  unfold opening
  split_ifs
  · exact sendCurrentSubscriptions_informs hL hown h
  · exact sendCurrentSubscriptions_informs hL hown
      (sendCurrentSubscriptions_informs hL hown (hmet s.remoteDevice))

end SocketStateSession
end Sockets.State
