import Sockets.State.Endpoint
import Sockets.State.Laws

/-! The frames a session hands over, and the messages in them. -/
namespace Sockets.State
open Foundation Sockets.Frame

variable {L : StateLibrary}

/-- What a host keeps of the frames it is handed, in order. -/
structure Ledger (H : StateHost L) where
  frames : H.World → List Bytes
  send : ∀ handler frame w, frames (H.send handler frame w).2 = frames w ∨
    frames (H.send handler frame w).2 = frames w ++ [frame]
  peerBound : ∀ handler device w, frames (H.peerBound handler device w) = frames w
  acknowledged : ∀ handler acknowledgement w,
    frames (H.acknowledged handler acknowledgement w) = frames w

/-- A whole frame; `P` holds of the message in it, if there is one. -/
def Says (P : Message L → Prop) (frame : Bytes) : Prop :=
  ∃ payload, frame = encodeFrame stateMagic payload ∧ payload ≠ [] ∧ payload.length < 2 ^ 32 ∧
    ∀ m, parse L payload = some m → P m

theorem Says.mono {P Q : Message L → Prop} (hPQ : ∀ m, P m → Q m) {frame : Bytes}
    (h : Says P frame) : Says Q frame := by
  obtain ⟨payload, hframe, hne, hlt, hP⟩ := h
  exact ⟨payload, hframe, hne, hlt, fun m hm => hPQ m (hP m hm)⟩

theorem Says.message {P : Message L → Prop} {frame : Bytes} (h : Says P frame) {m : Message L}
    (hm : messageOf L frame = some m) : P m := by
  obtain ⟨payload, rfl, -, -, hP⟩ := h
  rw [messageOf_encodeFrame] at hm
  exact hP m hm

variable {H : StateHost L} (K : Ledger H)

/-- Between two moments frames have been handed over, with messages of which `P` holds. -/
def Hands (P : Message L → Prop) (x x' : Exterior H) : Prop :=
  ∃ frames, K.frames x'.world = K.frames x.world ++ frames ∧ ∀ frame ∈ frames, Says P frame

section
variable {K} {P Q : Message L → Prop} {x y z : Exterior H}

theorem Hands.of_eq (h : K.frames y.world = K.frames x.world) : Hands K P x y :=
  ⟨[], by rw [h, List.append_nil], by simp⟩

theorem Hands.trans (h : Hands K P x y) (h' : Hands K P y z) : Hands K P x z := by
  obtain ⟨frames, hworld, hframes⟩ := h
  obtain ⟨frames', hworld', hframes'⟩ := h'
  refine ⟨frames ++ frames', by rw [hworld', hworld, List.append_assoc], fun frame hframe => ?_⟩
  exact (List.mem_append.mp hframe).elim (hframes frame) (hframes' frame)

theorem Hands.mono (hPQ : ∀ m, P m → Q m) (h : Hands K P x y) : Hands K Q x y := by
  obtain ⟨frames, hworld, hframes⟩ := h
  exact ⟨frames, hworld, fun frame hframe => (hframes frame hframe).mono hPQ⟩

end

variable [SizeWidth]

namespace SocketStateSession
variable {P : Message L → Prop}

theorem sendEncoded_hands {payload : Option Bytes}
    (hP : ∀ p m, payload = some p → parse L p = some m → P m) (s : SocketStateSession H)
    (x : Exterior H) : Hands K P x (s.sendEncoded payload x).2 := by
  cases payload with
  | none => exact .of_eq rfl
  | some payload =>
    unfold sendEncoded sendProtocolPayload
    dsimp only
    split
    · exact .of_eq rfl
    · rename_i handler _
      split_ifs with hsize hframe
      · exact .of_eq rfl
      · exact .of_eq rfl
      · have hfits := buildSocketStateFrame_ne_nil_iff.mp hframe
        rcases K.send handler (buildSocketStateFrame payload s.config.maximumProtocolMessageBytes)
          x.world with hsend | hsend
        · exact .of_eq hsend
        · refine ⟨_, hsend, fun frame hmem => ?_⟩
          rw [List.mem_singleton.mp hmem, buildSocketStateFrame_eq hfits]
          exact ⟨payload, rfl, hfits.nonempty, hfits.lt_uint32, fun m hm => hP payload m rfl hm⟩

theorem sendControl_hands (hL : FaithfulProtocol L) {type : MessageType} (htype : type.IsControl)
    (hP : ∀ c : ControlMessage L.Device, c.type = type → P (.control c)) (t : StateTypeId)
    (s : SocketStateSession H) (x : Exterior H) : Hands K P x (s.sendControl type t x).2 := by
  unfold sendControl
  split_ifs
  · exact .of_eq rfl
  · refine sendEncoded_hands K (fun p m hp hm => ?_) s x
    rw [hL.control _ p m htype hp hm]
    exact hP _ rfl

theorem sendAcknowledgement_hands (hL : FaithfulProtocol L) {header : StateUpdateHeader L.Device}
    (hP : P (.acknowledgement ⟨header.origin, header.typeId, header.epoch, header.revision⟩))
    (s : SocketStateSession H) (x : Exterior H) :
    Hands K P x (s.sendAcknowledgement header x).2 := by
  refine sendEncoded_hands K (fun p m hp hm => ?_) s x
  rw [hL.acknowledgement _ p m hp hm]
  exact hP

theorem sendUpdate_hands (hL : FaithfulProtocol L) {update : StateUpdate L.Device L.Value}
    (hP : ∀ parsed : ParsedUpdate L.Device, parsed.header = update.header → P (.update parsed))
    (s : SocketStateSession H) (x : Exterior H) : Hands K P x (s.sendUpdate update x).2 := by
  refine sendEncoded_hands K (fun p m hp hm => ?_) s x
  obtain ⟨parsed, rfl, hheader⟩ := hL.update _ _ p m hp hm
  exact hP parsed hheader

theorem sendSnapshotByType_hands (hL : FaithfulProtocol L) {t : StateTypeId}
    (hP : ∀ q, ∀ u ∈ (L.snapshot t q).1, ∀ parsed : ParsedUpdate L.Device,
      parsed.header = u.header → P (.update parsed)) (s : SocketStateSession H) (x : Exterior H) :
    Hands K P x (s.sendSnapshotByType t x).2 := by
  unfold sendSnapshotByType sendSnapshot
  split_ifs
  · exact .of_eq rfl
  · dsimp only
    split
    · exact .of_eq rfl
    · rename_i update hsnapshot
      exact Hands.trans (.of_eq rfl) (sendUpdate_hands K hL (hP _ update hsnapshot) s _)
  · exact .of_eq rfl

theorem sendCurrentSubscriptions_hands (hL : FaithfulProtocol L)
    (hP : ∀ c : ControlMessage L.Device, c.type = .subscribe → P (.control c))
    (s : SocketStateSession H) (x : Exterior H) : Hands K P x (s.sendCurrentSubscriptions x) := by
  unfold sendCurrentSubscriptions
  split_ifs
  · exact .of_eq rfl
  · refine List.foldlRecOn (motive := fun y => Hands K P x y) _ s.announce (.of_eq rfl)
      fun y hy d _ => hy.trans ?_
    unfold announce
    split_ifs
    · exact sendControl_hands K hL MessageType.isControl_subscribe hP _ s y
    · exact .of_eq rfl

theorem met_hands (d : L.Device) (s : SocketStateSession H) (x : Exterior H) :
    Hands K P x (s.met d x) := by
  refine .of_eq ?_
  unfold met
  dsimp only
  split
  · split_ifs <;> rfl
  · rw [K.peerBound]
    split_ifs <;> rfl

theorem bindPeer_hands (hL : FaithfulProtocol L)
    (hP : ∀ c : ControlMessage L.Device, c.type = .subscribe → P (.control c)) (d : L.Device)
    (s : SocketStateSession H) (x : Exterior H) : Hands K P x (s.bindPeer d x).2.2 := by
  rcases s.bindPeer_cases d x with h | ⟨-, -, h⟩ | ⟨-, -, -, h⟩
  · rw [h]
    exact .of_eq rfl
  · rw [h]
    exact .of_eq rfl
  · rw [h]
    exact (met_hands K d s x).trans (sendCurrentSubscriptions_hands K hL hP _ _)

theorem opening_hands (hL : FaithfulProtocol L)
    (hP : ∀ c : ControlMessage L.Device, c.type = .subscribe → P (.control c))
    (s : SocketStateSession H) (x : Exterior H) : Hands K P x (s.opening x) := by
  have hannounced := sendCurrentSubscriptions_hands K hL hP s
  unfold opening
  split_ifs
  · exact hannounced x
  · exact ((met_hands K _ s x).trans (hannounced _)).trans (hannounced _)

theorem closing_hands (hL : FaithfulProtocol L)
    (hP : ∀ c : ControlMessage L.Device, c.type = .disconnect → P (.control c))
    (s : SocketStateSession H) (x : Exterior H) : Hands K P x (s.closing x) := by
  unfold closing
  dsimp only
  split_ifs
  · exact .of_eq rfl
  · exact (sendControl_hands K hL (.inr rfl) hP 0 s x).trans (.of_eq rfl)
  · exact .of_eq rfl

/-- What a session may send while it handles the message `m`. -/
def Reply (m : Message L) (known : L.Device) (s : SocketStateSession H) (m' : Message L) : Prop :=
  s.FromPeer m ∧ match m' with
    | .update parsed => ∃ c t q, m = .control c ∧ Due c s t ∧
        ∃ u ∈ (L.snapshot t q).1, parsed.header = u.header
    | .acknowledgement a => ∃ parsed, m = .update parsed ∧ a = ⟨parsed.header.origin,
        parsed.header.typeId, parsed.header.epoch, parsed.header.revision⟩
    | .control c' => (known = L.zero ∧ c'.type = .subscribe) ∨
        ∃ c, m = .control c ∧ answerOf c.type = some c'.type

omit [SizeWidth] in
theorem isControl_of_answerOf {type type' : MessageType} (h : answerOf type = some type') :
    type'.IsControl := by
  unfold answerOf at h
  split at h <;> cases h <;> exact .inl trivial

omit [SizeWidth] in
@[simp] theorem applyIncoming_world (parsed : ParsedUpdate L.Device) (x : Exterior H) :
    (applyIncoming parsed x).2.world = x.world := by
  unfold applyIncoming
  split_ifs
  · split <;> rfl
  · split <;> rfl
  · rfl

theorem Deed.hands (hL : FaithfulProtocol L) {m : Message L} {known : L.Device}
    {r r' : Situation H} (h : Deed m known r r') :
    Hands K (Reply m known r.1) r.2 r'.2 := by
  cases h with
  | bind _ _ _ _ _ => exact .of_eq rfl
  | available value _ => exact .of_eq rfl
  | greet handler _ => exact .of_eq (K.peerBound _ _ _)
  | @announce s x t hknown hpeer =>
    exact sendControl_hands K hL MessageType.isControl_subscribe
      (fun c hc => ⟨hpeer, .inl ⟨hknown, hc⟩⟩) t s x
  | @apply s x parsed _ _ => exact .of_eq (congrArg K.frames (applyIncoming_world parsed x))
  | @acknowledge s x parsed hm hpeer _ _ =>
    exact sendAcknowledgement_hands K hL ⟨hpeer, parsed, hm, rfl⟩ s x
  | report handler _ _ => exact .of_eq (K.acknowledged _ _ _)
  | add _ _ _ => exact .of_eq rfl
  | remove _ _ _ => exact .of_eq rfl
  | forget _ _ _ => exact .of_eq rfl
  | @snapshot s x c t hm hpeer hdue =>
    exact sendSnapshotByType_hands K hL
      (fun q u hu parsed hparsed => ⟨hpeer, c, t, q, hm, hdue, u, hu, hparsed⟩) s x
  | @answer s x c type hm hpeer htype =>
    exact sendControl_hands K hL (isControl_of_answerOf htype)
      (fun c' hc' => ⟨hpeer, .inr ⟨c, hm, hc'.symm ▸ htype⟩⟩) _ s x

/-- Whatever is handed over while a message is handled is a reply to it. -/
theorem handleMessage_replies (hL : FaithfulProtocol L) {m : Message L} {s : SocketStateSession H}
    (hP : ∀ s' : SocketStateSession H, ∀ m', Reply m s.remoteDevice s' m' → P m')
    (x : Exterior H) : Hands K P x (s.handleMessage m x).2.2 := by
  have hdeeds := handleMessage_deeds m s x
  generalize (s.handleMessage m x).2 = r at hdeeds ⊢
  induction hdeeds with
  | refl => exact .of_eq rfl
  | tail _ hlast ih => exact ih.trans ((hlast.hands K hL).mono (hP _))

end SocketStateSession

namespace Endpoint
open SocketStateSession
variable {P : Message L → Prop} {e : Endpoint H}

private theorem notify_hands {f : SocketStateSession H → Exterior H → Exterior H} (e : Endpoint H)
    (hf : ∀ s x, Hands K P x (f s x)) : Hands K P e.exterior (e.notify f).exterior := by
  unfold notify
  split_ifs
  · exact .of_eq rfl
  · exact hf _ _

private theorem publish_hands (hL : FaithfulProtocol L) (hP : ∀ parsed, P (.update parsed))
    (t : StateTypeId) (e : Endpoint H) : Hands K P e.exterior (e.publish t).exterior := by
  unfold publish
  split_ifs
  · dsimp only
    split
    · exact .of_eq rfl
    · refine Hands.trans (y := (e.setPublisher _).exterior) (.of_eq rfl)
        (notify_hands K _ fun s x => ?_)
      unfold onTypedStatePublished
      split_ifs
      · exact .of_eq rfl
      · exact .of_eq rfl
      · exact sendUpdate_hands K hL (fun parsed _ => hP parsed) s x
  · exact .of_eq rfl

private theorem subscribe_hands (hL : FaithfulProtocol L) (hP : ∀ c, P (.control c))
    (d : Descriptor L.Device) (e : Endpoint H) :
    Hands K P e.exterior (e.subscribe d).exterior := by
  unfold subscribe
  dsimp only
  split_ifs
  · refine Hands.trans (y := (e.setSubscriptions _).exterior) (.of_eq rfl)
      (notify_hands K _ fun s x => ?_)
    unfold onStateSubscribed
    split_ifs
    · exact .of_eq rfl
    · exact sendControl_hands K hL MessageType.isControl_subscribe (fun c _ => hP c) _ s x
  · exact .of_eq rfl

private theorem unsubscribe_hands (hL : FaithfulProtocol L) (hP : ∀ c, P (.control c))
    (d : Descriptor L.Device) (e : Endpoint H) :
    Hands K P e.exterior (e.unsubscribe d).exterior := by
  have htype : MessageType.IsControl .unsubscribe := .inl trivial
  unfold unsubscribe
  dsimp only
  split_ifs
  · refine Hands.trans (y := (e.setSubscriptions _).exterior) (.of_eq rfl)
      (notify_hands K _ fun s x => ?_)
    unfold onStateUnsubscribed
    split_ifs
    · exact .of_eq rfl
    · exact sendControl_hands K hL htype (fun c _ => hP c) _ s x
  · exact .of_eq rfl

/-- An action that is not a call of `Feed`. -/
def Action.IsLocal : Action H → Prop
  | .feed _ => False
  | _ => True

/-- On its own a session hands over control messages, and updates that are published. -/
theorem hands_local (hL : FaithfulProtocol L) (hresting : e.session.Resting)
    (hcontrol : ∀ c, P (.control c)) {a : Action H} (ha : a.IsLocal)
    (hupdate : ∀ t, a = .publish t → ∀ parsed, P (.update parsed)) :
    Hands K P e.exterior (e.step a).exterior := by
  cases a with
  | initializeWith config handler observed =>
    change Hands K P e.exterior (e.session.initializeWith config handler observed e.exterior).2.2
    cases hinitialized : e.session.initialized with
    | true =>
      rw [initializeWith, if_pos hinitialized]
      exact .of_eq rfl
    | false =>
      rw [initializeWith_eq hinitialized (hresting.off hinitialized).1]
      split_ifs
      · exact .of_eq rfl
      · exact .of_eq rfl
      · exact opening_hands K hL (fun c _ => hcontrol c) _ _
  | shutdown =>
    change Hands K P e.exterior (e.session.shutdown e.exterior).2
    cases hinitialized : e.session.initialized with
    | true =>
      rw [shutdown_on hinitialized (hresting.on hinitialized).1]
      exact closing_hands K hL (fun c _ => hcontrol c) _ _
    | false =>
      rw [shutdown_off hresting hinitialized]
      exact .of_eq rfl
  | feed data => exact ha.elim
  | publish t => exact publish_hands K hL (hupdate t rfl) t e
  | subscribe d => exact subscribe_hands K hL hcontrol d e
  | unsubscribe d => exact unsubscribe_hands K hL hcontrol d e
  | requestResynchronization t =>
    have htype : MessageType.IsControl .resynchronize := .inl trivial
    change Hands K P e.exterior (e.session.requestResynchronization t e.exterior).2
    unfold SocketStateSession.requestResynchronization
    split_ifs
    · exact .of_eq rfl
    · exact sendControl_hands K hL htype (fun c _ => hcontrol c) _ _ _
  | setPeerBoundHandler handler => exact .of_eq rfl
  | setAcknowledgementHandler handler => exact .of_eq rfl
  | change store => exact .of_eq rfl

end Endpoint
end Sockets.State
