import Sockets.State.Endpoint
import Sockets.State.Laws
import Sockets.State.Peers

/-! A session deals with one peer only, until it is shut down. -/
namespace Sockets.State
open Foundation Sockets.Frame

variable {L : StateLibrary}

variable (L) in
/-- A call that changes a remote manager. -/
inductive RemoteCall where
  | setAvailability (device : L.Device) (value : RemoteDeviceAvailability)
  | apply (device : L.Device) (typeId : StateTypeId) (epoch revision : ℕ) (value : L.Value)

def RemoteCall.device : RemoteCall L → L.Device
  | .setAvailability device _ | .apply device _ _ _ _ => device

variable (L) in
/-- A call that changes a registry of subscribers. -/
inductive SubscriberCall where
  | subscribe (device : L.Device) (typeId : StateTypeId)
  | unsubscribe (device : L.Device) (typeId : StateTypeId)
  | remove (device : L.Device)

def SubscriberCall.device : SubscriberCall L → L.Device
  | .subscribe device _ | .unsubscribe device _ | .remove device => device

/-- The same library, with a record of the calls made on a remote manager and on a registry of
subscribers beside each of them. -/
@[reducible] def StateLibrary.recorded (L : StateLibrary) : StateLibrary :=
  { L with
    RemoteManager := L.RemoteManager × List (RemoteCall L)
    setAvailability := fun d a m => (L.setAvailability d a m.1, m.2 ++ [.setAvailability d a])
    read := fun t d m => L.read t d m.1
    apply := fun t d e r v m =>
      ((L.apply t d e r v m.1).1, (L.apply t d e r v m.1).2, m.2 ++ [.apply d t e r v])
    Subscribers := L.Subscribers × List (SubscriberCall L)
    noSubscribers := (L.noSubscribers, [])
    addSubscriber := fun d t r =>
      ((L.addSubscriber d t r.1).1, (L.addSubscriber d t r.1).2, r.2 ++ [.subscribe d t])
    removeSubscriber := fun d t r => (L.removeSubscriber d t r.1, r.2 ++ [.unsubscribe d t])
    removeDevice := fun d r => (L.removeDevice d r.1, r.2 ++ [.remove d])
    hasSubscriber := fun d t r => L.hasSubscriber d t r.1
    subscribedTypes := fun d r => L.subscribedTypes d r.1 }

variable (L) in
/-- The calls a session has made on its remote manager, and on its registry of subscribers. -/
structure Calls where
  remote : List (RemoteCall L)
  subscribers : List (SubscriberCall L)

/-- Every call made between two moments names this device. -/
structure NamesOnly (before after : Calls L) (d : L.Device) : Prop where
  remote : ∃ calls, after.remote = before.remote ++ calls ∧ ∀ c ∈ calls, c.device = d ∧ d ≠ L.zero
  subscribers : ∃ calls, after.subscribers = before.subscribers ++ calls ∧
    ∀ c ∈ calls, c.device = d ∧ d ≠ L.zero

variable {before after : Calls L} {d : L.Device}

theorem NamesOnly.refl (calls : Calls L) (d : L.Device) : NamesOnly calls calls d :=
  ⟨⟨[], by simp⟩, ⟨[], by simp⟩⟩

theorem NamesOnly.remoteCall (h : NamesOnly before after d) (hd : d ≠ L.zero) {c : RemoteCall L}
    (hc : c.device = d) :
    NamesOnly before { after with remote := after.remote ++ [c] } d := by
  obtain ⟨⟨calls, hcalls, hdevice⟩, hsubscribers⟩ := h
  refine ⟨⟨calls ++ [c], by rw [hcalls, List.append_assoc], fun c' hc' => ?_⟩, hsubscribers⟩
  rcases List.mem_append.mp hc' with hc' | hc'
  · exact hdevice c' hc'
  · rw [List.mem_singleton.mp hc']
    exact ⟨hc, hd⟩

theorem NamesOnly.subscriberCall (h : NamesOnly before after d) (hd : d ≠ L.zero)
    {c : SubscriberCall L} (hc : c.device = d) :
    NamesOnly before { after with subscribers := after.subscribers ++ [c] } d := by
  obtain ⟨hremote, ⟨calls, hcalls, hdevice⟩⟩ := h
  refine ⟨hremote, ⟨calls ++ [c], by rw [hcalls, List.append_assoc], fun c' hc' => ?_⟩⟩
  rcases List.mem_append.mp hc' with hc' | hc'
  · exact hdevice c' hc'
  · rw [List.mem_singleton.mp hc']
    exact ⟨hc, hd⟩

/-- As long as no device is known, no call is made. -/
theorem NamesOnly.of_zero (h : NamesOnly before after L.zero) (d : L.Device) :
    NamesOnly before after d := by
  obtain ⟨⟨remote, hremote, hrdevice⟩, ⟨subscribers, hsubscribers, hsdevice⟩⟩ := h
  have hr : remote = [] := List.eq_nil_iff_forall_not_mem.mpr fun c hc => (hrdevice c hc).2 rfl
  have hs : subscribers = [] := List.eq_nil_iff_forall_not_mem.mpr fun c hc => (hsdevice c hc).2 rfl
  subst hr hs
  exact ⟨⟨[], hremote, by simp⟩, ⟨[], hsubscribers, by simp⟩⟩

variable [SizeWidth] {H : StateHost L.recorded}

def callsOf (r : Situation H) : Calls L := ⟨r.2.store.remote.2, r.1.subscribers.2⟩

/-- A session since its `Initialize`, when these calls had been made. -/
structure Loyal (config : SocketStateSessionConfig L.recorded) (before : Calls L)
    (r : Situation H) : Prop where
  initialized : r.1.initialized = true
  configured : r.1.config = config
  expected : config.expectedRemoteDevice ≠ L.zero →
    r.1.remoteDevice = config.expectedRemoteDevice
  names : NamesOnly before (callsOf r) r.1.remoteDevice

namespace SocketStateSession

variable {config : SocketStateSessionConfig L.recorded} {m : Message L.recorded} {known : L.Device}
  {r r' : Situation H}

omit [SizeWidth] in
theorem applyIncoming_calls (parsed : ParsedUpdate L.recorded.Device) (x : Exterior H) :
    (applyIncoming parsed x).2.store.remote.2 = x.store.remote.2 ∨
      ∃ e v n, (applyIncoming parsed x).2.store.remote.2 = x.store.remote.2 ++
        [.apply parsed.header.origin parsed.header.typeId e n v] := by
  unfold applyIncoming
  split_ifs
  · split
    · exact .inl rfl
    · exact .inl rfl
  · split
    · exact .inl rfl
    · exact .inr ⟨_, _, _, rfl⟩
  · exact .inl rfl

theorem Deed.loyal (h : Deed m known r r') (hr : Loyal config before r) :
    Loyal config before r' := by
  obtain ⟨hinitialized, hconfigured, hexpected, hnames⟩ := hr
  cases h with
  | @bind s x d _ hfree hd _ hallowed =>
    refine ⟨hinitialized, hconfigured, fun hne => ?_, ?_⟩
    · have hbound : s.remoteDevice = config.expectedRemoteDevice := hexpected hne
      exact absurd (hbound.symm.trans hfree) hne
    · have hnone : NamesOnly before (callsOf (s, x)) L.zero := by
        rw [← hfree]
        exact hnames
      exact hnone.of_zero d
  | available value hpeer =>
    exact ⟨hinitialized, hconfigured, hexpected, hnames.remoteCall hpeer.1 rfl⟩
  | greet handler hpeer => exact ⟨hinitialized, hconfigured, hexpected, hnames⟩
  | @announce s x t _ _ =>
    refine ⟨hinitialized, hconfigured, hexpected, ?_⟩
    rw [callsOf, sendControl_store]
    exact hnames
  | @apply s x parsed hm hpeer =>
    refine ⟨hinitialized, hconfigured, hexpected, ?_⟩
    subst hm
    have hsender : parsed.header.origin = s.remoteDevice := Option.some.inj hpeer.2
    rcases applyIncoming_calls parsed x with hsame | ⟨e, v, n, hcall⟩
    · rw [callsOf, hsame]
      exact hnames
    · rw [callsOf, hcall]
      exact hnames.remoteCall hpeer.1 hsender
  | acknowledge hm hpeer _ _ =>
    refine ⟨hinitialized, hconfigured, hexpected, ?_⟩
    rw [callsOf, sendAcknowledgement_store]
    exact hnames
  | report handler _ _ => exact ⟨hinitialized, hconfigured, hexpected, hnames⟩
  | add _ _ hpeer =>
    exact ⟨hinitialized, hconfigured, hexpected, hnames.subscriberCall hpeer.1 rfl⟩
  | remove _ _ hpeer =>
    exact ⟨hinitialized, hconfigured, hexpected, hnames.subscriberCall hpeer.1 rfl⟩
  | forget _ _ hpeer =>
    exact ⟨hinitialized, hconfigured, hexpected, hnames.subscriberCall hpeer.1 rfl⟩
  | @snapshot s x c t _ _ _ =>
    refine ⟨hinitialized, hconfigured, hexpected, ?_⟩
    obtain ⟨q, hstore⟩ := s.sendSnapshotByType_store t x
    rw [callsOf, hstore]
    exact hnames
  | answer _ _ _ =>
    refine ⟨hinitialized, hconfigured, hexpected, ?_⟩
    rw [callsOf, sendControl_store]
    exact hnames

/-- Only a session that is not bound binds. -/
theorem Deed.remoteDevice {L : StateLibrary} {H : StateHost L} {m : Message L} {known : L.Device}
    {r r' : Situation H} (h : Deed m known r r') (hbound : r.1.remoteDevice ≠ L.zero) :
    r'.1.remoteDevice = r.1.remoteDevice := by
  cases h with
  | bind _ hfree _ _ _ => exact absurd hfree hbound
  | _ => rfl

/-- A session that has just been opened, by any calls it made before. -/
theorem loyal_prepared (s : SocketStateSession H) (config : SocketStateSessionConfig L.recorded)
    (handler : Option H.SendHandler) (x : Exterior H) :
    Loyal config (callsOf (s, x)) (s.prepared config handler,
      (s.prepared config handler).opening x) := by
  refine ⟨rfl, rfl, fun _ => rfl, ?_⟩
  unfold callsOf
  rw [opening_store]
  by_cases hexpected : config.expectedRemoteDevice = L.zero
  · rw [if_neg fun h => h.1 hexpected]
    exact .refl _ _
  · rw [if_pos ⟨hexpected, rfl⟩]
    exact (NamesOnly.refl (callsOf (s, x)) _).remoteCall hexpected rfl

/-- The last calls are about the same device. -/
theorem shutdown_names {s : SocketStateSession H} {x : Exterior H}
    (h : NamesOnly before (callsOf (s, x)) s.remoteDevice) (hon : s.initialized = true)
    (hattached : s.attached = true) : NamesOnly before (callsOf (s.shutdown x)) s.remoteDevice := by
  rw [shutdown_on hon hattached]
  by_cases hfree : s.remoteDevice = L.zero
  · have hclosing : s.closing x = x := if_pos hfree
    have hended : s.ended.subscribers = s.subscribers := if_pos hfree
    rw [callsOf, hclosing, hended]
    exact h
  · have hclosing : (s.closing x).store.remote.2 =
        x.store.remote.2 ++ [.setAvailability s.remoteDevice .disconnected] := by
      unfold closing
      rw [if_neg hfree]
      dsimp only
      split_ifs
      · change (sendControl .disconnect 0 s x).2.store.remote.2 ++ _ = _
        rw [sendControl_store]
      · rfl
    have hended : s.ended.subscribers.2 = s.subscribers.2 ++ [.remove s.remoteDevice] :=
      congrArg Prod.snd (if_neg hfree)
    rw [callsOf, hclosing, hended]
    exact (h.remoteCall hfree rfl).subscriberCall hfree rfl

end SocketStateSession

namespace Endpoint
open SocketStateSession

variable {config : SocketStateSessionConfig L.recorded} {e : Endpoint H} {a : Action H}

def situation (e : Endpoint H) : Situation H := (e.session, e.exterior)

/-- The session is not shut down, and others leave the record of its calls alone. -/
def Open (e : Endpoint H) : Action H → Prop
  | .shutdown => False
  | .change store => store.remote.2 = e.exterior.store.remote.2
  | _ => True

theorem loyal_step (h : Loyal config before e.situation) (ha : e.Open a) :
    Loyal config before (e.step a).situation := by
  obtain ⟨hinitialized, hconfigured, hexpected, hnames⟩ := h
  have hlocal {x : Exterior H} (hremote : x.store.remote = e.exterior.store.remote) :
      Loyal config before (e.session, x) := by
    refine ⟨hinitialized, hconfigured, hexpected, ?_⟩
    rw [callsOf, hremote]
    exact hnames
  cases a with
  | initializeWith config' handler observed =>
    have hsame : e.session.initializeWith config' handler observed e.exterior =
        (true, e.session, e.exterior) := if_pos hinitialized
    rw [step, perform, hsame]
    exact ⟨hinitialized, hconfigured, hexpected, hnames⟩
  | shutdown => exact ha.elim
  | feed data =>
    exact feed_keeps (Q := Loyal config before) (fun m known r r' hdeed hr => hdeed.loyal hr)
      (fun s x d hr => ⟨hr.initialized, hr.configured, hr.expected, hr.names⟩) data
      ⟨hinitialized, hconfigured, hexpected, hnames⟩
  | publish t =>
    obtain ⟨q, hstore⟩ := e.publish_store t
    change Loyal config before ((e.publish t).session, (e.publish t).exterior)
    rw [publish_session]
    exact hlocal (by rw [hstore])
  | subscribe d =>
    change Loyal config before ((e.subscribe d).session, (e.subscribe d).exterior)
    rw [subscribe_session]
    exact hlocal (by rw [subscribe_store])
  | unsubscribe d =>
    change Loyal config before ((e.unsubscribe d).session, (e.unsubscribe d).exterior)
    rw [unsubscribe_session]
    exact hlocal (by rw [unsubscribe_store])
  | requestResynchronization t =>
    have hstore := requestResynchronization_store t e.session e.exterior
    exact hlocal (x := (e.session.requestResynchronization t e.exterior).2) (by rw [hstore])
  | setPeerBoundHandler handler => exact ⟨hinitialized, hconfigured, hexpected, hnames⟩
  | setAcknowledgementHandler handler => exact ⟨hinitialized, hconfigured, hexpected, hnames⟩
  | change store =>
    have hrecord : store.remote.2 = e.exterior.store.remote.2 := ha
    refine ⟨hinitialized, hconfigured, hexpected, ?_⟩
    change NamesOnly before ⟨store.remote.2, _⟩ _
    rw [hrecord]
    exact hnames

/-- A peer that is known stays the same. -/
theorem remoteDevice_step {d : L.Device} (hd : d ≠ L.zero) (hinitialized : e.session.initialized = true)
    (h : e.session.remoteDevice = d) (ha : e.Open a) : (e.step a).session.remoteDevice = d := by
  cases a with
  | initializeWith config' handler observed =>
    have hsame : e.session.initializeWith config' handler observed e.exterior =
        (true, e.session, e.exterior) := if_pos hinitialized
    rw [step, perform, hsame]
    exact h
  | shutdown => exact ha.elim
  | feed data =>
    refine feed_keeps (Q := fun r : Situation H => r.1.remoteDevice = d)
      (fun m known r r' hdeed hr => ?_) (fun _ _ _ hr => hr) data (x := e.exterior) h
    have hbound : r.1.remoteDevice ≠ L.zero := fun hzero => hd (hr.symm.trans hzero)
    exact (hdeed.remoteDevice hbound).trans hr
  | publish t => exact (congrArg _ (publish_session t e)).trans h
  | subscribe d => exact (congrArg _ (subscribe_session d e)).trans h
  | unsubscribe d => exact (congrArg _ (unsubscribe_session d e)).trans h
  | requestResynchronization t => exact h
  | setPeerBoundHandler handler => exact h
  | setAcknowledgementHandler handler => exact h
  | change store => exact h

/-- Between a successful `Initialize` and the next `Shutdown` a session has one peer at most: the
device it expects, if it expects one; all calls that change the remote manager or the subscribers
name it, those of `Shutdown` included, and a message of any other device changes nothing. -/
theorem one_peer (x : Exterior H) (before during later : List (Action H))
    (config : SocketStateSessionConfig L.recorded) (handler : Option H.SendHandler) (observed : Bool)
    (hoff : (run step { exterior := x } before).session.initialized = false)
    (hon : ((run step { exterior := x } before).perform
      (.initializeWith config handler observed)).1 = true)
    (hopen : Meets step Open ((run step { exterior := x } before).step
      (.initializeWith config handler observed)) (during ++ later)) :
    let e₀ := run step { exterior := x } before
    let e := run step (e₀.step (.initializeWith config handler observed)) during
    let d := e.session.remoteDevice
    (d ≠ L.zero → (run step e later).session.remoteDevice = d) ∧
    (config.expectedRemoteDevice ≠ L.zero → d = config.expectedRemoteDevice) ∧
    NamesOnly (callsOf e₀.situation) (callsOf e.situation) d ∧
    NamesOnly (callsOf e₀.situation) (callsOf (e.step .shutdown).situation) d ∧
    ∀ payload m d', parse L.recorded payload = some m → m.sender = some d' → d ≠ L.zero → d' ≠ d →
      e.session.handleProtocolMessage payload e.exterior = (false, e.session, e.exterior) := by
  intro e₀ e d
  have hresting : e₀.session.Resting := resting_run x before
  have hstart : Loyal config (callsOf e₀.situation)
      (e₀.step (.initializeWith config handler observed)).situation := by
    have heq := initializeWith_eq hoff (hresting.off hoff).1 config handler observed e₀.exterior
    change (e₀.session.initializeWith config handler observed e₀.exterior).1 = true at hon
    change Loyal config _ (e₀.session.initializeWith config handler observed e₀.exterior).2
    rw [heq] at hon ⊢
    split_ifs at hon ⊢
    exact loyal_prepared e₀.session config handler e₀.exterior
  rw [meets_append] at hopen
  have hloyal : Loyal config (callsOf e₀.situation) e.situation :=
    hopen.1.run_induction (P := fun e : Endpoint H => Loyal config (callsOf e₀.situation) e.situation)
      (fun _ _ ha h => loyal_step h ha) hstart
  refine ⟨fun hd => ?_, hloyal.expected, hloyal.names, ?_, ?_⟩
  · have hrun : Loyal config (callsOf e₀.situation) (run step e later).situation ∧
        (run step e later).session.remoteDevice = d :=
      hopen.2.run_induction (P := fun e : Endpoint H =>
          Loyal config (callsOf e₀.situation) e.situation ∧ e.session.remoteDevice = d)
        (fun _ _ ha h => ⟨loyal_step h.1 ha, remoteDevice_step hd h.1.initialized h.2 ha⟩)
        ⟨hloyal, rfl⟩
    exact hrun.2
  · have hattached : e.session.attached = true := by
      have hrest : e.session.Resting := run_induction (P := fun e : Endpoint H => e.session.Resting)
        resting_step (resting_step _ _ hresting) during
      exact (hrest.on hloyal.initialized).1
    exact shutdown_names hloyal.names hloyal.initialized hattached
  · intro payload m d' hparse hsender hbound hd'
    rw [handleProtocolMessage_eq hparse]
    exact handleMessage_stranger hbound hsender hd'

end Endpoint
end Sockets.State

namespace Sockets.State.Endpoint
open Foundation Sockets.Frame

section Table

attribute [local instance] SizeWidth.host

/-- The objects of device 1, and no call so far. -/
def recordedStore : Store tableLibrary.recorded where
  publisher := { device := 1, source := none }
  remote := (({} : TableRemote), [])
  subscriptions := ([] : List (Descriptor UInt8))

/-- A device subscribes to the type 1. -/
def subscribing (device : UInt8) : Action (peerHost tableLibrary.recorded) :=
  .feed (encodeFrame stateMagic (preamble .subscribe device 1))

/-- Device 2 is heard first, so that it is the peer, and device 3 after it. -/
theorem one_peer_second_heard :
    let e : Endpoint (peerHost tableLibrary.recorded) :=
      run step (step { exterior := { store := recordedStore, world := ([] : List Bytes) } }
        (.initializeWith {} (some ()) true)) [subscribing 2]
    e.session.remoteDevice = 2 ∧ (run step e [subscribing 3]).session.remoteDevice = 2 := by
  intro e
  have hbound : e.session.remoteDevice = 2 := by decide +kernel
  have hopen : Meets step Open (step { exterior := { store := recordedStore, world := ([] : List Bytes) } }
      (.initializeWith {} (some ()) true)) ([subscribing 2] ++ [subscribing 3]) :=
    ⟨trivial, trivial, trivial⟩
  obtain ⟨hsame, -⟩ := one_peer (H := peerHost tableLibrary.recorded)
    { store := recordedStore, world := ([] : List Bytes) } [] [subscribing 2] [subscribing 3] {}
    (some ()) true rfl rfl hopen
  have hknown : e.session.remoteDevice ≠ tableLibrary.zero := by
    rw [hbound]
    decide
  exact ⟨hbound, (hsame hknown).trans hbound⟩

end Table
end Sockets.State.Endpoint
