import Sockets.Foundation.Run
import Sockets.State.Deeds

/-! One State session, and everything that can happen to it. -/
namespace Sockets.State
open Foundation

variable {L : StateLibrary} [SizeWidth]

namespace SocketStateSession
variable {H : StateHost L}

/-- A session that `Initialize` has opened; it is bound at once to a device that it expects. -/
def prepared (config : SocketStateSessionConfig L) (handler : Option H.SendHandler)
    (s : SocketStateSession H) : SocketStateSession H :=
  { s with attached := true, config, sendHandler := handler
           decoder := (s.decoder.setMaximumPayloadBytes config.maximumProtocolMessageBytes).reset
           registered := true, remoteDevice := config.expectedRemoteDevice, initialized := true }

/-- What a session that has just been opened does to the outside: to a peer that it expects it
announces its subscriptions twice. -/
def opening (s : SocketStateSession H) (x : Exterior H) : Exterior H :=
  if s.remoteDevice = L.zero then s.sendCurrentSubscriptions x
  else s.sendCurrentSubscriptions (s.sendCurrentSubscriptions (s.met s.remoteDevice x))

theorem initializeWith_eq {s : SocketStateSession H} (hoff : s.initialized = false)
    (hfree : s.remoteDevice = L.zero) (config : SocketStateSessionConfig L)
    (handler : Option H.SendHandler) (observed : Bool) (x : Exterior H) :
    s.initializeWith config handler observed x =
      if handler.isNone || decide (config.maximumProtocolMessageBytes.val < L.controlSize) then
        (false, s, x)
      else if !observed then
        (false, { s with
          attached := false, config, sendHandler := none, registered := false
          decoder := (s.decoder.setMaximumPayloadBytes
            config.maximumProtocolMessageBytes).reset }, x)
      else (true, s.prepared config handler, (s.prepared config handler).opening x) := by
  unfold initializeWith
  rw [if_neg (by simp [hoff])]
  congr 1
  dsimp only
  congr 1
  by_cases hexpected : config.expectedRemoteDevice = L.zero
  · have hsame : { s with
        attached := true, config, sendHandler := handler, registered := true, initialized := true
        decoder := (s.decoder.setMaximumPayloadBytes config.maximumProtocolMessageBytes).reset } =
          s.prepared config handler := by
      rw [prepared, hexpected, ← hfree]
    have hopening : (s.prepared config handler).opening x =
        (s.prepared config handler).sendCurrentSubscriptions x := if_pos hexpected
    rw [if_neg (not_not.mpr hexpected), hopening, hsame]
  · have hopening : (s.prepared config handler).opening x =
        (s.prepared config handler).sendCurrentSubscriptions
          ((s.prepared config handler).sendCurrentSubscriptions
            ((s.prepared config handler).met config.expectedRemoteDevice x)) := if_neg hexpected
    rw [if_pos hexpected, hopening, bindPeer_free]
    · rfl
    · exact hexpected
    · exact hfree
    · exact .inr rfl

theorem opening_store (s : SocketStateSession H) (x : Exterior H) :
    (s.opening x).store = if s.remoteDevice ≠ L.zero ∧ s.attached = true then
      { x.store with remote := L.setAvailability s.remoteDevice .connected x.store.remote }
      else x.store := by
  unfold opening
  by_cases hfree : s.remoteDevice = L.zero
  · rw [if_pos hfree, if_neg fun h => h.1 hfree, sendCurrentSubscriptions_store]
  · rw [if_neg hfree, sendCurrentSubscriptions_store, sendCurrentSubscriptions_store, met_store]
    simp only [hfree, not_false_eq_true, true_and, ne_eq]

/-- A session that is not initialised knows no peer and refers to nothing; one that is has all that
it needs. -/
structure Resting (s : SocketStateSession H) : Prop where
  off : s.initialized = false →
    s.remoteDevice = L.zero ∧ s.attached = false ∧ s.registered = false
  on : s.initialized = true → s.attached = true ∧ s.registered = true ∧ s.sendHandler.isSome

/-- A session after `Shutdown`. -/
def ended (s : SocketStateSession H) : SocketStateSession H where
  subscribers := if s.remoteDevice = L.zero then s.subscribers
    else L.removeDevice s.remoteDevice s.subscribers
  config := s.config
  decoder := s.decoder.reset

/-- What `Shutdown` does to the outside: the peer is told, and counts as disconnected. -/
def closing (s : SocketStateSession H) (x : Exterior H) : Exterior H :=
  if s.remoteDevice = L.zero then x
  else
    let x := if s.config.sendDisconnectOnShutdown then (s.sendControl .disconnect 0 x).2 else x
    (x.record (.closed s.remoteDevice)).setAvailability s.remoteDevice .disconnected

theorem shutdown_on {s : SocketStateSession H} (hon : s.initialized = true)
    (hattached : s.attached = true) (x : Exterior H) : s.shutdown x = (s.ended, s.closing x) := by
  unfold shutdown shutdownLocked
  rw [if_neg (by simp [hon])]
  unfold closing ended
  by_cases hfree : s.remoteDevice = L.zero
  · simp [hfree]
  · simp [hfree, hon, hattached]

theorem shutdown_off {s : SocketStateSession H} (h : s.Resting) (hoff : s.initialized = false)
    (x : Exterior H) : s.shutdown x = (s, x) :=
  if_pos (by simp [hoff, (h.off hoff).2.1])

theorem Resting.shutdown {s : SocketStateSession H} (h : s.Resting) (x : Exterior H) :
    (s.shutdown x).1.initialized = false ∧ (s.shutdown x).1.Resting := by
  cases hinitialized : s.initialized with
  | false =>
    rw [shutdown_off h hinitialized]
    exact ⟨hinitialized, h⟩
  | true =>
    rw [shutdown_on hinitialized (h.on hinitialized).1]
    exact ⟨rfl, fun _ => ⟨rfl, rfl, rfl⟩, nofun⟩

theorem Resting.initializeWith {s : SocketStateSession H} (h : s.Resting)
    (config : SocketStateSessionConfig L) (handler : Option H.SendHandler) (observed : Bool)
    (x : Exterior H) : (s.initializeWith config handler observed x).2.1.Resting := by
  cases hinitialized : s.initialized with
  | true => rwa [SocketStateSession.initializeWith, if_pos hinitialized]
  | false =>
    rw [initializeWith_eq hinitialized (h.off hinitialized).1]
    split_ifs with hrefused
    · exact h
    · exact ⟨fun _ => ⟨(h.off hinitialized).1, rfl, rfl⟩, fun hon => by simp [hinitialized] at hon⟩
    · refine ⟨nofun, fun _ => ⟨rfl, rfl, ?_⟩⟩
      change handler.isSome = true
      cases handler <;> simp_all

/-- What `Feed` leaves alone: it does not end a session. -/
theorem feed_same (data : Bytes) (s : SocketStateSession H) (x : Exterior H) :
    (s.feed data x).2.1.initialized = s.initialized ∧
      (s.feed data x).2.1.attached = s.attached ∧
      (s.feed data x).2.1.registered = s.registered ∧
      (s.feed data x).2.1.sendHandler = s.sendHandler ∧
      (s.feed data x).2.1.config = s.config := by
  refine feed_keeps (Q := fun r => r.1.initialized = s.initialized ∧ r.1.attached = s.attached ∧
    r.1.registered = s.registered ∧ r.1.sendHandler = s.sendHandler ∧ r.1.config = s.config)
    (fun m known r r' hdeed hr => ?_) (fun _ _ _ hr => hr) data ⟨rfl, rfl, rfl, rfl, rfl⟩
  cases hdeed <;> exact hr

theorem Resting.feed {s : SocketStateSession H} (h : s.Resting) (data : Bytes) (x : Exterior H) :
    (s.feed data x).2.1.Resting := by
  cases hinitialized : s.initialized with
  | false =>
    unfold SocketStateSession.feed
    rwa [if_pos (by simp [hinitialized])]
  | true =>
    obtain ⟨hon, hattached, hregistered, hhandler, -⟩ := feed_same data s x
    refine ⟨fun hoff => ?_, fun _ => ?_⟩
    · rw [hon, hinitialized] at hoff
      cases hoff
    · rw [hattached, hregistered, hhandler]
      exact h.on hinitialized

end SocketStateSession

/-- A session and what is outside it. -/
structure Endpoint (H : StateHost L) where
  session : SocketStateSession H := {}
  exterior : Exterior H

namespace Endpoint
variable {H : StateHost L}

def setPublisher (publisher : L.Publisher) (e : Endpoint H) : Endpoint H :=
  { e with exterior := { e.exterior with store := { e.exterior.store with publisher } } }

def setSubscriptions (subscriptions : L.Subscriptions) (e : Endpoint H) : Endpoint H :=
  { e with exterior := { e.exterior with store := { e.exterior.store with subscriptions } } }

/-- A notification by the objects that the session observes. -/
def notify (f : SocketStateSession H → Exterior H → Exterior H) (e : Endpoint H) : Endpoint H :=
  if !e.session.registered then e else { e with exterior := f e.session e.exterior }

/-- `Publish`; only types of the contract have one. -/
def publish (typeId : StateTypeId) (e : Endpoint H) : Endpoint H :=
  if typeId ∈ L.definitions then
    let r := L.publish typeId e.exterior.store.publisher
    let e := e.setPublisher r.2
    match r.1 with
    | none => e
    | some update => e.notify fun s x => s.onTypedStatePublished typeId update x
  else e

def subscribe (d : Descriptor L.Device) (e : Endpoint H) : Endpoint H :=
  let r := L.subscribe d e.exterior.store.subscriptions
  let e := e.setSubscriptions r.2
  if r.1 then e.notify fun s x => s.onStateSubscribed d x else e

def unsubscribe (d : Descriptor L.Device) (e : Endpoint H) : Endpoint H :=
  let r := L.unsubscribe d e.exterior.store.subscriptions
  let e := e.setSubscriptions r.2
  if r.1 then e.notify fun s x => s.onStateUnsubscribed d x else e

variable (H) in
/-- `change` is what others do with the objects that the session refers to. -/
inductive Action where
  | initializeWith (config : SocketStateSessionConfig L) (handler : Option H.SendHandler)
      (observed : Bool)
  | shutdown
  | feed (data : Bytes)
  | publish (typeId : StateTypeId)
  | subscribe (descriptor : Descriptor L.Device)
  | unsubscribe (descriptor : Descriptor L.Device)
  | requestResynchronization (typeId : StateTypeId)
  | setPeerBoundHandler (handler : Option H.PeerBoundHandler)
  | setAcknowledgementHandler (handler : Option H.AcknowledgementHandler)
  | change (store : Store L)

/-- What a call returns, and what it leaves; calls without a result return true. -/
def perform (e : Endpoint H) : Action H → Bool × Endpoint H
  | .initializeWith config handler observed =>
    let r := e.session.initializeWith config handler observed e.exterior
    (r.1, ⟨r.2.1, r.2.2⟩)
  | .shutdown =>
    let r := e.session.shutdown e.exterior
    (true, ⟨r.1, r.2⟩)
  | .feed data =>
    let r := e.session.feed data e.exterior
    (r.1, ⟨r.2.1, r.2.2⟩)
  | .publish typeId => (true, e.publish typeId)
  | .subscribe d => (true, e.subscribe d)
  | .unsubscribe d => (true, e.unsubscribe d)
  | .requestResynchronization typeId =>
    let r := e.session.requestResynchronization typeId e.exterior
    (r.1, { e with exterior := r.2 })
  | .setPeerBoundHandler handler =>
    (true, { e with session := e.session.setPeerBoundHandler handler })
  | .setAcknowledgementHandler handler =>
    (true, { e with session := e.session.setAcknowledgementHandler handler })
  | .change store => (true, { e with exterior := { e.exterior with store } })

def step (e : Endpoint H) (a : Action H) : Endpoint H := (e.perform a).2

/-- What goes on locally leaves the session as it is. -/
theorem notify_session (f : SocketStateSession H → Exterior H → Exterior H) (e : Endpoint H) :
    (e.notify f).session = e.session := by
  unfold notify
  split_ifs <;> rfl

theorem publish_session (t : StateTypeId) (e : Endpoint H) : (e.publish t).session = e.session := by
  unfold publish
  split_ifs
  · dsimp only
    split
    · rfl
    · exact notify_session _ _
  · rfl

theorem subscribe_session (d : Descriptor L.Device) (e : Endpoint H) :
    (e.subscribe d).session = e.session := by
  unfold subscribe
  dsimp only
  split_ifs
  · exact notify_session _ _
  · rfl

theorem unsubscribe_session (d : Descriptor L.Device) (e : Endpoint H) :
    (e.unsubscribe d).session = e.session := by
  unfold unsubscribe
  dsimp only
  split_ifs
  · exact notify_session _ _
  · rfl

/-- What a notification leaves in the store. -/
theorem notify_store {f : SocketStateSession H → Exterior H → Exterior H} (e : Endpoint H)
    (hf : ∀ s x, (f s x).store = x.store) : (e.notify f).exterior.store = e.exterior.store := by
  unfold notify
  split_ifs
  · rfl
  · exact hf _ _

/-- A publication moves the publisher and nothing else in the store. -/
theorem publish_store (t : StateTypeId) (e : Endpoint H) : ∃ q, (e.publish t).exterior.store =
    { e.exterior.store with publisher := q } := by
  unfold publish
  split_ifs
  · dsimp only
    split
    · exact ⟨_, rfl⟩
    · exact ⟨_, notify_store _ fun s x => SocketStateSession.onTypedStatePublished_store _ _ s x⟩
  · exact ⟨_, rfl⟩

theorem subscribe_store (d : Descriptor L.Device) (e : Endpoint H) :
    (e.subscribe d).exterior.store = { e.exterior.store with
      subscriptions := (L.subscribe d e.exterior.store.subscriptions).2 } := by
  unfold subscribe
  dsimp only
  split_ifs
  · exact notify_store _ fun s x => SocketStateSession.onStateSubscribed_store d s x
  · rfl

theorem unsubscribe_store (d : Descriptor L.Device) (e : Endpoint H) :
    (e.unsubscribe d).exterior.store = { e.exterior.store with
      subscriptions := (L.unsubscribe d e.exterior.store.subscriptions).2 } := by
  unfold unsubscribe
  dsimp only
  split_ifs
  · exact notify_store _ fun s x => SocketStateSession.onStateUnsubscribed_store d s x
  · rfl

/-- In every run a session that is not initialised rests. -/
theorem resting_step (e : Endpoint H) (a : Action H) (h : e.session.Resting) :
    (e.step a).session.Resting := by
  cases a with
  | initializeWith config handler observed => exact h.initializeWith config handler observed _
  | shutdown => exact (h.shutdown e.exterior).2
  | feed data => exact h.feed data _
  | publish t => exact (publish_session t e).symm ▸ h
  | subscribe d => exact (subscribe_session d e).symm ▸ h
  | unsubscribe d => exact (unsubscribe_session d e).symm ▸ h
  | requestResynchronization t => exact h
  | setPeerBoundHandler handler => exact ⟨h.off, h.on⟩
  | setAcknowledgementHandler handler => exact ⟨h.off, h.on⟩
  | change store => exact h

theorem resting_run (x : Exterior H) (actions : List (Action H)) :
    (run step { exterior := x } actions).session.Resting :=
  run_induction (P := fun e : Endpoint H => e.session.Resting) resting_step
    ⟨fun _ => ⟨rfl, rfl, rfl⟩, fun hon => absurd hon Bool.false_ne_true⟩ actions

end Endpoint
end Sockets.State
