import Sockets.Foundation.Presence
import Sockets.State.Session

/-! What a State session does with the availability of its peer. -/
namespace Sockets.State
open Foundation Sockets.Frame

variable {L : StateLibrary} {H : StateHost L} [SizeWidth]

/-- The events of a move. -/
def script : Move L.Device → List (StateEvent L)
  | .bound d => [.bound d, .availability d .connected]
  | .left d => [.left d, .availability d .disconnected]
  | .closed d => [.closed d, .availability d .disconnected]

namespace SocketStateSession

/-- The device a session is bound to. -/
def peer (s : SocketStateSession H) : Option L.Device :=
  if s.remoteDevice = L.zero then none else some s.remoteDevice

/-- Only an initialised session is bound, and it has the objects it was initialised with. -/
structure Tied (s : SocketStateSession H) : Prop where
  initialized : s.peer ≠ none → s.initialized = true
  attached : s.initialized = true → s.attached = true

/-- Between two states of a session these moves were made and put down. -/
structure Made (moves : List (Move L.Device)) (s : SocketStateSession H) (x : Exterior H)
    (s' : SocketStateSession H) (x' : Exterior H) : Prop where
  log : x'.log = x.log ++ moves.flatMap script
  peer : s'.peer = nameAfter s.peer moves

variable {s s' s'' : SocketStateSession H} {x x' x'' : Exterior H}

theorem Made.refl (s : SocketStateSession H) (x : Exterior H) : Made [] s x s x :=
  ⟨(List.append_nil _).symm, rfl⟩

theorem Made.trans {moves moves' : List (Move L.Device)} (h : Made moves s x s' x')
    (h' : Made moves' s' x' s'' x'') : Made (moves ++ moves') s x s'' x'' :=
  ⟨by rw [h'.log, h.log, List.flatMap_append, List.append_assoc],
    by rw [h'.peer, h.peer, nameAfter_append]⟩

theorem Made.of_eq (hpeer : s'.peer = s.peer) (hlog : x'.log = x.log) : Made [] s x s' x' :=
  ⟨by simp [hlog], hpeer⟩

@[simp] theorem sendProtocolPayload_log (payload : Bytes) (s : SocketStateSession H)
    (x : Exterior H) : (s.sendProtocolPayload payload x).2.log = x.log := by
  unfold sendProtocolPayload
  split
  · rfl
  · dsimp only
    split_ifs <;> rfl

@[simp] theorem sendEncoded_log (payload : Option Bytes) (s : SocketStateSession H)
    (x : Exterior H) : (s.sendEncoded payload x).2.log = x.log := by
  cases payload with
  | none => rfl
  | some payload => exact sendProtocolPayload_log payload s x

@[simp] theorem sendControl_log (type : MessageType) (typeId : StateTypeId)
    (s : SocketStateSession H) (x : Exterior H) : (s.sendControl type typeId x).2.log = x.log := by
  unfold sendControl
  split_ifs
  · rfl
  · exact sendEncoded_log _ s x

@[simp] theorem sendSnapshotByType_log (typeId : StateTypeId) (s : SocketStateSession H)
    (x : Exterior H) : (s.sendSnapshotByType typeId x).2.log = x.log := by
  unfold sendSnapshotByType sendSnapshot
  split_ifs
  · rfl
  · dsimp only
    split
    · rfl
    · exact sendEncoded_log _ s _
  · rfl

omit [SizeWidth] in
private theorem foldl_log {α : Type} (l : List α) (f : Exterior H → α → Exterior H)
    (hf : ∀ x a, (f x a).log = x.log) (x : Exterior H) : (l.foldl f x).log = x.log :=
  List.foldlRecOn (motive := fun y : Exterior H => y.log = x.log) l f rfl
    fun y hy a _ => (hf y a).trans hy

@[simp] theorem sendCurrentSubscriptions_log (s : SocketStateSession H) (x : Exterior H) :
    (s.sendCurrentSubscriptions x).log = x.log := by
  unfold sendCurrentSubscriptions
  split_ifs
  · rfl
  · refine foldl_log _ _ (fun x d => ?_) x
    unfold announce
    split_ifs
    · exact sendControl_log _ _ s x
    · rfl

omit [SizeWidth] in
@[simp] theorem applyIncoming_log (parsed : ParsedUpdate L.Device) (x : Exterior H) :
    (applyIncoming parsed x).2.log = x.log := by
  unfold applyIncoming
  split_ifs
  · split <;> rfl
  · split <;> rfl
  · rfl

@[simp] theorem onTypedStatePublished_log (typeId : StateTypeId)
    (update : StateUpdate L.Device L.Value) (s : SocketStateSession H) (x : Exterior H) :
    (s.onTypedStatePublished typeId update x).log = x.log := by
  unfold onTypedStatePublished
  split_ifs
  · rfl
  · rfl
  · exact sendEncoded_log _ s x

@[simp] theorem onStateSubscribed_log (d : Descriptor L.Device) (s : SocketStateSession H)
    (x : Exterior H) : (s.onStateSubscribed d x).log = x.log := by
  unfold onStateSubscribed
  split_ifs
  · rfl
  · exact sendControl_log _ _ s x

@[simp] theorem onStateUnsubscribed_log (d : Descriptor L.Device) (s : SocketStateSession H)
    (x : Exterior H) : (s.onStateUnsubscribed d x).log = x.log := by
  unfold onStateUnsubscribed
  split_ifs
  · rfl
  · exact sendControl_log _ _ s x

/-- A call that makes some moves and leaves the session as initialised as it was. -/
def Carried (s : SocketStateSession H) (x : Exterior H)
    (r : SocketStateSession H × Exterior H) : Prop :=
  r.1.initialized = s.initialized ∧ r.1.attached = s.attached ∧ ∃ moves, Made moves s x r.1 r.2

theorem Carried.refl (s : SocketStateSession H) (x : Exterior H) : Carried s x (s, x) :=
  ⟨rfl, rfl, [], .refl s x⟩

theorem Carried.trans {r : SocketStateSession H × Exterior H} (h : Carried s x (s', x'))
    (h' : Carried s' x' r) : Carried s x r := by
  obtain ⟨hi, ha, moves, hm⟩ := h
  obtain ⟨hi', ha', moves', hm'⟩ := h'
  exact ⟨hi'.trans hi, ha'.trans ha, _, hm.trans hm'⟩

theorem Carried.of_log (hlog : x'.log = x.log) : Carried s x (s, x') :=
  ⟨rfl, rfl, [], .of_eq rfl hlog⟩

theorem Carried.withSubscribers (r : L.Subscribers) (hlog : x'.log = x.log) :
    Carried s x ({ s with subscribers := r }, x') :=
  ⟨rfl, rfl, [], .of_eq rfl hlog⟩

/-- A session binds once at most. -/
theorem bindPeer_carried (d : L.Device) {s : SocketStateSession H} (x : Exterior H)
    (hattached : s.attached = true) : Carried s x (s.bindPeer d x).2 := by
  unfold bindPeer
  split_ifs with hzero hexpected hbound
  · exact .refl s x
  · exact .refl s x
  · exact .refl s x
  · refine ⟨rfl, rfl, [.bound d], ?_, ?_⟩
    · dsimp only
      split <;> simp [Exterior.record, Exterior.setAvailability, script, hattached]
    · simp [peer, nameAfter, Move.rename, hzero]

theorem handleControl_carried (c : ControlMessage L.Device) {s : SocketStateSession H}
    (x : Exterior H) (hattached : s.attached = true) :
    Carried s x (s.handleControl c x).2 := by
  unfold handleControl
  split
  · dsimp only
    split_ifs
    · exact .withSubscribers _ rfl
    · exact .withSubscribers _ (by simp)
  · exact .withSubscribers _ (by simp)
  · split_ifs
    · exact .of_log (by simp)
    · exact .refl s x
    · exact .of_log (foldl_log _ _ (fun x t => by simp) x)
  · refine ⟨rfl, rfl, [.left s.remoteDevice], ?_, rfl⟩
    simp [Exterior.record, Exterior.setAvailability, script, hattached]
  all_goals exact .refl s x

theorem handleUpdate_carried (parsed : ParsedUpdate L.Device) {s : SocketStateSession H}
    (x : Exterior H) (hattached : s.attached = true) :
    Carried s x (s.handleUpdate parsed x).2 := by
  have hbind := bindPeer_carried parsed.header.origin x hattached
  unfold handleUpdate
  dsimp only
  split_ifs
  · exact hbind
  · exact hbind
  · exact hbind.trans (.of_log (by simp))
  · exact hbind.trans (.of_log (by simp [sendAcknowledgement]))

theorem handleProtocolMessage_carried (payload : Bytes) {s : SocketStateSession H}
    (x : Exterior H) (hattached : s.attached = true) :
    Carried s x (s.handleProtocolMessage payload x).2 := by
  unfold handleProtocolMessage
  split
  · exact .refl s x
  · split
    · exact .refl s x
    · exact handleUpdate_carried _ x hattached
  · split
    · exact .refl s x
    · unfold handleAcknowledgement
      split_ifs
      · exact .refl s x
      · split
        · exact .refl s x
        · exact .of_log rfl
  · split
    · exact .refl s x
    · rename_i c _
      have hbind := bindPeer_carried c.device x hattached
      dsimp only
      split_ifs
      · exact hbind
      · exact hbind.trans (handleControl_carried c _ (hbind.2.1.trans hattached))

theorem feed_carried (data : Bytes) (h : s.Tied) (x : Exterior H) :
    Carried s x (s.feed data x).2 := by
  unfold feed
  split_ifs with hinitialized
  · exact .refl s x
  · have hattached : s.attached = true := h.attached (by simpa using hinitialized)
    have hpushed := s.decoder.push_preserves takeMessage
      (Q := fun r : Bool × SocketStateSession H × Exterior H => Carried s x r.2)
      (fun payload r hr =>
        hr.trans (handleProtocolMessage_carried payload r.2.2 (hr.2.1.trans hattached)))
      data (s := (true, s, x)) (.refl s x)
    obtain ⟨hi, ha, moves, hmade⟩ := hpushed
    exact ⟨hi, ha, moves, hmade.log, hmade.peer⟩

theorem Tied.carried {r : SocketStateSession H × Exterior H} (h : s.Tied) (hc : Carried s x r)
    (hinitialized : s.initialized = true) : r.1.Tied :=
  ⟨fun _ => hc.1.trans hinitialized, fun _ => hc.2.1.trans (h.attached hinitialized)⟩

theorem Tied.feed (h : s.Tied) (data : Bytes) (x : Exterior H) : (s.feed data x).2.1.Tied := by
  by_cases hinitialized : s.initialized = true
  · exact h.carried (feed_carried data h x) hinitialized
  · unfold SocketStateSession.feed
    rw [if_pos (by simpa using hinitialized)]
    exact h

/-- A session that is shut down ends the connection of the device it was bound to. -/
theorem shutdownLocked_made (notifyRemote : Bool) (h : s.Tied) (x : Exterior H) :
    Made (s.peer.map Move.closed).toList s x (s.shutdownLocked notifyRemote x).1
      (s.shutdownLocked notifyRemote x).2 ∧
      (s.shutdownLocked notifyRemote x).1.initialized = false ∧
      (s.shutdownLocked notifyRemote x).1.peer = none := by
  by_cases hdown : (!s.initialized && !s.attached) = true
  · have hinitialized : s.initialized = false := by simp_all
    have hpeer : s.peer = none := by
      by_contra hbound
      rw [h.initialized hbound] at hinitialized
      cases hinitialized
    unfold shutdownLocked
    rw [if_pos hdown, hpeer]
    exact ⟨.refl s x, hinitialized, rfl⟩
  · unfold shutdownLocked
    rw [if_neg hdown]
    refine ⟨⟨?_, ?_⟩, rfl, if_pos rfl⟩
    · by_cases hbound : s.remoteDevice = L.zero
      · have hpeer : s.peer = none := if_pos hbound
        simp [hpeer, hbound]
      · have hpeer : s.peer = some s.remoteDevice := if_neg hbound
        have hattached : s.attached = true := h.attached (h.initialized (by simp [hpeer]))
        rw [hpeer]
        simp only [hbound, hattached, if_true, if_false, Exterior.record,
          Exterior.setAvailability, script, Option.map_some, Option.toList_some,
          List.flatMap_cons, List.flatMap_nil, List.append_nil, List.append_assoc,
          List.cons_append, List.nil_append]
        split_ifs
        · rw [sendControl_log]
        · rfl
    · have hpeer (r : SocketStateSession H) (hr : r.remoteDevice = L.zero) : r.peer = none :=
        if_pos hr
      rw [hpeer _ rfl]
      cases s.peer <;> rfl

theorem Tied.of_shut (hinitialized : s.initialized = false) (hpeer : s.peer = none) : s.Tied :=
  ⟨fun h => absurd hpeer h, fun h => by rw [hinitialized] at h; cases h⟩

/-- What `Initialize` does once the session is set up. -/
private theorem greet_made (d : L.Device) (h : s.Tied) (hinitialized : s.initialized = true)
    (x : Exterior H) :
    let r := if d ≠ L.zero then
        let b := s.bindPeer d x
        if !b.1 then (false, b.2.1.shutdownLocked false b.2.2)
        else (true, b.2.1, b.2.1.sendCurrentSubscriptions b.2.2)
      else (true, s, s.sendCurrentSubscriptions x)
    r.2.1.Tied ∧ ∃ moves, Made moves s x r.2.1 r.2.2 := by
  have hbind := bindPeer_carried d x (h.attached hinitialized)
  have htied := h.carried hbind hinitialized
  obtain ⟨-, -, moves, hmade⟩ := hbind
  dsimp only
  split_ifs
  · obtain ⟨hshut, hinitialized', hpeer⟩ := shutdownLocked_made false htied (s.bindPeer d x).2.2
    exact ⟨.of_shut hinitialized' hpeer, _, hmade.trans hshut⟩
  · exact ⟨htied, _, hmade.trans (.of_eq rfl (by simp))⟩
  · exact ⟨h, [], .of_eq rfl (by simp)⟩

theorem initializeWith_made (config : SocketStateSessionConfig L)
    (handler : Option H.SendHandler) (observed : Bool) (h : s.Tied) (x : Exterior H) :
    let r := s.initializeWith config handler observed x
    r.2.1.Tied ∧ ∃ moves, Made moves s x r.2.1 r.2.2 := by
  dsimp only
  unfold initializeWith
  by_cases hinitialized : s.initialized = true
  · rw [if_pos hinitialized]
    exact ⟨h, [], .refl s x⟩
  rw [if_neg hinitialized]
  have hpeer : s.peer = none := by
    by_contra hpeer
    exact hinitialized (h.initialized hpeer)
  by_cases hrefused : (handler.isNone ||
      decide (config.maximumProtocolMessageBytes.val < L.controlSize)) = true
  · rw [if_pos hrefused]
    exact ⟨h, [], .refl s x⟩
  rw [if_neg hrefused]
  dsimp only
  by_cases hobserved : (!observed) = true
  · rw [if_pos hobserved]
    exact ⟨.of_shut (by simpa using hinitialized) hpeer, [], .of_eq rfl rfl⟩
  · rw [if_neg hobserved]
    obtain ⟨htied, moves, hmade⟩ := greet_made config.expectedRemoteDevice (s := { s with
      attached := true, config := config, sendHandler := handler
      decoder := (s.decoder.setMaximumPayloadBytes config.maximumProtocolMessageBytes).reset
      registered := true, initialized := true }) ⟨fun _ => rfl, fun _ => rfl⟩ rfl x
    exact ⟨htied, moves, hmade.log, hmade.peer⟩

end SocketStateSession
end Sockets.State
