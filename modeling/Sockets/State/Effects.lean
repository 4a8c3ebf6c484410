import Sockets.State.Session

/-! What a State session does to the world outside it: it calls its handlers, and what it sends are
State frames. -/
namespace Sockets.State
open Foundation Sockets.Frame

variable {L : StateLibrary} {H : StateHost L} [SizeWidth]

/-- A frame that `BuildSocketStateFrame` made of some payload. -/
def IsStateFrame (frame : Bytes) : Prop :=
  ∃ payload maximum, frame = buildSocketStateFrame payload maximum ∧ frame ≠ []

variable (H) in
/-- What every call of a session keeps, except those of the acknowledgement handler. -/
structure Sustains (P : H.World → Prop) : Prop where
  send : ∀ handler frame w, IsStateFrame frame → P w → P (H.send handler frame w).2
  peerBound : ∀ handler device w, P w → P (H.peerBound handler device w)

variable (H) in
/-- What every call of a session keeps. -/
structure Preserves (P : H.World → Prop) : Prop extends Sustains H P where
  acknowledged : ∀ handler acknowledgement w, P w → P (H.acknowledged handler acknowledgement w)

variable {P : H.World → Prop}

namespace SocketStateSession

theorem sendEncoded_preserves (hP : Sustains H P) (payload : Option Bytes)
    (s : SocketStateSession H) {x : Exterior H} (hx : P x.world) :
    P (s.sendEncoded payload x).2.world := by
  cases payload with
  | none => exact hx
  | some payload =>
    unfold sendEncoded sendProtocolPayload
    dsimp only
    split
    · exact hx
    · split_ifs with hsize hframe
      · exact hx
      · exact hx
      · exact hP.send _ _ _ ⟨payload, _, rfl, hframe⟩ hx

theorem sendControl_preserves (hP : Sustains H P) (type : MessageType) (typeId : StateTypeId)
    (s : SocketStateSession H) {x : Exterior H} (hx : P x.world) :
    P (s.sendControl type typeId x).2.world := by
  unfold sendControl
  split_ifs
  · exact hx
  · exact sendEncoded_preserves hP _ s hx

theorem sendSnapshotByType_preserves (hP : Sustains H P) (typeId : StateTypeId)
    (s : SocketStateSession H) {x : Exterior H} (hx : P x.world) :
    P (s.sendSnapshotByType typeId x).2.world := by
  unfold sendSnapshotByType sendSnapshot
  split_ifs
  · exact hx
  · dsimp only
    split
    · exact hx
    · exact sendEncoded_preserves hP _ s hx
  · exact hx

theorem sendCurrentSubscriptions_preserves (hP : Sustains H P) (s : SocketStateSession H)
    {x : Exterior H} (hx : P x.world) : P (s.sendCurrentSubscriptions x).world := by
  unfold sendCurrentSubscriptions
  split_ifs
  · exact hx
  · generalize L.descriptors x.store.subscriptions = ds
    induction ds generalizing x with
    | nil => exact hx
    | cons d ds ih =>
      apply ih
      unfold announce
      split_ifs
      · exact sendControl_preserves hP _ _ s hx
      · exact hx

theorem bindPeer_preserves (hP : Sustains H P) (device : L.Device) (s : SocketStateSession H)
    {x : Exterior H} (hx : P x.world) : P (s.bindPeer device x).2.2.world := by
  unfold bindPeer
  split_ifs
  · exact hx
  · exact hx
  · exact hx
  · apply sendCurrentSubscriptions_preserves hP _
    have hrecord : P (if s.attached then (x.record (.bound device)).setAvailability device .connected
        else x.record (.bound device)).world := by
      split_ifs <;> exact hx
    dsimp only
    split
    · exact hrecord
    · exact hP.peerBound _ _ _ hrecord

theorem shutdownLocked_preserves (hP : Sustains H P) (notifyRemote : Bool)
    (s : SocketStateSession H) {x : Exterior H} (hx : P x.world) :
    P (s.shutdownLocked notifyRemote x).2.world := by
  have hsent : P (s.sendControl .disconnect 0 x).2.world := sendControl_preserves hP _ _ s hx
  by_cases hoff : (!s.initialized && !s.attached) = true
  · rw [shutdownLocked, if_pos hoff]
    exact hx
  · rw [shutdownLocked, if_neg hoff]
    dsimp only
    split_ifs <;> first | exact hsent | exact hx

theorem initializeWith_preserves (hP : Sustains H P) (config : SocketStateSessionConfig L)
    (handler : Option H.SendHandler) (observed : Bool) (s : SocketStateSession H)
    {x : Exterior H} (hx : P x.world) :
    P (s.initializeWith config handler observed x).2.2.world := by
  unfold initializeWith
  split_ifs
  · exact hx
  · exact hx
  · exact hx
  · dsimp only
    split_ifs
    · exact shutdownLocked_preserves hP _ _ (bindPeer_preserves hP _ _ hx)
    · exact sendCurrentSubscriptions_preserves hP _ (bindPeer_preserves hP _ _ hx)
  · exact sendCurrentSubscriptions_preserves hP _ hx

theorem onTypedStatePublished_preserves (hP : Sustains H P) (typeId : StateTypeId)
    (update : StateUpdate L.Device L.Value) (s : SocketStateSession H) {x : Exterior H}
    (hx : P x.world) : P (s.onTypedStatePublished typeId update x).world := by
  unfold onTypedStatePublished
  split_ifs
  · exact hx
  · exact hx
  · exact sendEncoded_preserves hP _ s hx

theorem onStateSubscribed_preserves (hP : Sustains H P) (d : Descriptor L.Device)
    (s : SocketStateSession H) {x : Exterior H} (hx : P x.world) :
    P (s.onStateSubscribed d x).world := by
  unfold onStateSubscribed
  split_ifs
  · exact hx
  · exact sendControl_preserves hP _ _ s hx

theorem onStateUnsubscribed_preserves (hP : Sustains H P) (d : Descriptor L.Device)
    (s : SocketStateSession H) {x : Exterior H} (hx : P x.world) :
    P (s.onStateUnsubscribed d x).world := by
  unfold onStateUnsubscribed
  split_ifs
  · exact hx
  · exact sendControl_preserves hP _ _ s hx

theorem requestResynchronization_preserves (hP : Sustains H P) (typeId : StateTypeId)
    (s : SocketStateSession H) {x : Exterior H} (hx : P x.world) :
    P (s.requestResynchronization typeId x).2.world := by
  unfold requestResynchronization
  split_ifs
  · exact hx
  · exact sendControl_preserves hP _ _ s hx

theorem handleUpdate_preserves (hP : Sustains H P) (parsed : ParsedUpdate L.Device)
    (s : SocketStateSession H) {x : Exterior H} (hx : P x.world) :
    P (s.handleUpdate parsed x).2.2.world := by
  have hbind := bindPeer_preserves hP parsed.header.origin s hx
  have happly {y : Exterior H} (hy : P y.world) : P (applyIncoming parsed y).2.world := by
    unfold applyIncoming
    split_ifs
    · split <;> exact hy
    · split <;> exact hy
    · exact hy
  unfold handleUpdate
  dsimp only
  split_ifs
  · exact hbind
  · exact hbind
  · exact happly hbind
  · exact sendEncoded_preserves hP _ _ (happly hbind)

theorem handleControl_preserves (hP : Sustains H P) (control : ControlMessage L.Device)
    (s : SocketStateSession H) {x : Exterior H} (hx : P x.world) :
    P (s.handleControl control x).2.2.world := by
  have hsnapshot (s : SocketStateSession H) {y : Exterior H} (typeId : StateTypeId)
      (hy : P y.world) : P (s.sendSnapshotByType typeId y).2.world :=
    sendSnapshotByType_preserves hP typeId s hy
  unfold handleControl
  split
  · dsimp only
    split_ifs
    · exact hx
    · exact sendControl_preserves hP _ _ _ (hsnapshot _ _ hx)
  · exact sendControl_preserves hP _ _ _ hx
  · split_ifs
    · exact hsnapshot s _ hx
    · exact hx
    · dsimp only
      generalize L.subscribedTypes s.remoteDevice s.subscribers = types
      induction types generalizing x with
      | nil => exact hx
      | cons typeId types ih => exact ih (hsnapshot s typeId hx)
  · dsimp only
    split_ifs <;> exact hx
  all_goals exact hx

theorem handleProtocolMessage_preserves (hP : Preserves H P) (payload : Bytes)
    (s : SocketStateSession H) {x : Exterior H} (hx : P x.world) :
    P (s.handleProtocolMessage payload x).2.2.world := by
  unfold handleProtocolMessage
  split
  · exact hx
  · split
    · exact hx
    · exact handleUpdate_preserves hP.toSustains _ s hx
  · split
    · exact hx
    · unfold handleAcknowledgement
      split_ifs
      · exact hx
      · split
        · exact hx
        · exact hP.acknowledged _ _ _ hx
  · split
    · exact hx
    · rename_i control _
      have hbind := bindPeer_preserves hP.toSustains control.device s hx
      dsimp only
      split_ifs
      · exact hbind
      · exact handleControl_preserves hP.toSustains control _ hbind

theorem feed_preserves (hP : Preserves H P) (data : Bytes) (s : SocketStateSession H)
    {x : Exterior H} (hx : P x.world) : P (s.feed data x).2.2.world := by
  unfold feed
  split_ifs
  · exact hx
  · exact s.decoder.push_preserves takeMessage
      (Q := fun r : Bool × SocketStateSession H × Exterior H => P r.2.2.world)
      (fun payload r hr => handleProtocolMessage_preserves hP payload r.2.1 hr) data
      (s := (true, s, x)) hx

end SocketStateSession
end Sockets.State
