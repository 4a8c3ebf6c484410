import Sockets.State.Loyalty
import Sockets.State.Sharing

/-! Which connection of a server may write to the replicas of which device. -/
namespace Sockets.State
open Foundation Transport Sockets.Frame

variable {L : StateLibrary}

/-- The call brings a value. -/
def RemoteCall.IsApply : RemoteCall L → Prop
  | .apply .. => True
  | .setAvailability .. => False

variable [SizeWidth] {H : StateHost L.recorded}

namespace SocketStateSession

/-- Since it was `s`, a session has made these calls on the remote manager and put these events
down; all of them are about the device that it is bound to now. -/
structure Dealt (s : SocketStateSession H) (x : Exterior H) (calls : List (RemoteCall L))
    (events : List (StateEvent L.recorded)) (r : Situation H) : Prop where
  remote : r.2.store.remote.2 = x.store.remote.2 ++ calls
  log : r.2.log = x.log ++ events
  initialized : r.1.initialized = s.initialized
  names : ∀ call ∈ calls, call.device = r.1.remoteDevice ∧ r.1.remoteDevice ≠ L.zero
  binds : ∀ d, .bound d ∈ events → s.remoteDevice = L.zero ∧ d = r.1.remoteDevice ∧ d ≠ L.zero
  bound : r.1.remoteDevice ≠ L.zero →
    s.remoteDevice = r.1.remoteDevice ∨ .bound r.1.remoteDevice ∈ events
  same : s.remoteDevice ≠ L.zero → r.1.remoteDevice = s.remoteDevice

/-- What a call of a session in a slot leaves behind. -/
structure Account (s : SocketStateSession H) (x : Exterior H) (calls : List (RemoteCall L))
    (events : List (StateEvent L.recorded)) (r : Situation H) : Prop where
  remote : r.2.store.remote.2 = x.store.remote.2 ++ calls
  log : r.2.log = x.log ++ events
  names : ∀ call ∈ calls, call.device ≠ L.zero ∧
    (s.remoteDevice = call.device ∨ .bound call.device ∈ events)
  binds : ∀ d, .bound d ∈ events →
    s.initialized = true ∧ s.remoteDevice = L.zero ∧ d = r.1.remoteDevice ∧ d ≠ L.zero
  bound : r.1.remoteDevice ≠ L.zero →
    s.remoteDevice = r.1.remoteDevice ∨ .bound r.1.remoteDevice ∈ events

variable {s : SocketStateSession H} {x : Exterior H} {calls calls' : List (RemoteCall L)}
  {events events' : List (StateEvent L.recorded)} {m : Message L.recorded} {known : L.Device}
  {r r' : Situation H}

theorem Dealt.refl (s : SocketStateSession H) (x : Exterior H) : Dealt s x [] [] (s, x) where
  remote := (List.append_nil _).symm
  log := (List.append_nil _).symm
  initialized := rfl
  names := by simp
  binds := by simp
  bound := fun _ => .inl rfl
  same := fun _ => rfl

/-- More calls about the device that the session is bound to. -/
theorem Dealt.more (h : Dealt s x calls events r)
    (hsession : r'.1.remoteDevice = r.1.remoteDevice ∧ r'.1.initialized = r.1.initialized)
    (hremote : r'.2.store.remote.2 = r.2.store.remote.2 ++ calls')
    (hlog : r'.2.log = r.2.log ++ events')
    (hnames : ∀ call ∈ calls', call.device = r.1.remoteDevice ∧ r.1.remoteDevice ≠ L.zero)
    (hbinds : ∀ d, .bound d ∉ events') :
    Dealt s x (calls ++ calls') (events ++ events') r' := by
  obtain ⟨hdevice, hinitialized⟩ := hsession
  constructor
  · rw [hremote, h.remote, List.append_assoc]
  · rw [hlog, h.log, List.append_assoc]
  · rw [hinitialized, h.initialized]
  · intro call hcall
    rw [hdevice]
    rcases List.mem_append.mp hcall with hcall | hcall
    · exact h.names call hcall
    · exact hnames call hcall
  · intro d hd
    rw [hdevice]
    rcases List.mem_append.mp hd with hd | hd
    · exact h.binds d hd
    · exact absurd hd (hbinds d)
  · intro hbound
    rw [hdevice] at hbound ⊢
    exact (h.bound hbound).imp_right (List.mem_append_left _)
  · intro hbound
    rw [hdevice]
    exact h.same hbound

/-- Nothing that matters has happened. -/
theorem Dealt.quiet (h : Dealt s x calls events r)
    (hsession : r'.1.remoteDevice = r.1.remoteDevice ∧ r'.1.initialized = r.1.initialized)
    (hremote : r'.2.store.remote.2 = r.2.store.remote.2) (hlog : r'.2.log = r.2.log) :
    Dealt s x calls events r' := by
  have hmore : Dealt s x (calls ++ []) (events ++ []) r' := by
    refine h.more hsession ?_ ?_ ?_ ?_
    · rw [hremote, List.append_nil]
    · rw [hlog, List.append_nil]
    · simp
    · simp
  simpa using hmore

theorem Deed.dealt (hdeed : Deed m known r r') (h : Dealt s x calls events r) :
    ∃ calls events, Dealt s x calls events r' := by
  cases hdeed with
  | @bind s' x' d _ hfree hd _ _ =>
    -- as long as no device is known, no call has been made and no device bound
    have hnone : calls = [] := by
      apply List.eq_nil_iff_forall_not_mem.mpr
      intro call hcall
      exact (h.names call hcall).2 hfree
    subst hnone
    have hzero : s.remoteDevice = L.zero := by
      by_contra hbound
      exact hbound ((h.same hbound).symm.trans hfree)
    refine ⟨[], events ++ [.bound d], ?_⟩
    constructor
    · exact h.remote
    · change x'.log ++ [.bound d] = _
      rw [h.log, List.append_assoc]
    · exact h.initialized
    · simp
    · intro d' hd'
      rcases List.mem_append.mp hd' with hd' | hd'
      · obtain ⟨-, hsame, hne⟩ := h.binds d' hd'
        exact absurd (hsame.trans hfree) hne
      · have hsame : d' = d := by simpa using hd'
        exact ⟨hzero, hsame, hsame ▸ hd⟩
    · intro _
      exact .inr (by simp)
    · intro hbound
      exact absurd hzero hbound
  | @available s' x' value hpeer =>
    refine ⟨calls ++ [.setAvailability s'.remoteDevice value],
      events ++ [.availability s'.remoteDevice value], ?_⟩
    refine h.more ⟨rfl, rfl⟩ rfl rfl ?_ ?_
    · intro call hcall
      rw [List.mem_singleton.mp hcall]
      exact ⟨rfl, hpeer.1⟩
    · simp
  | greet handler hpeer => exact ⟨calls, events, h.quiet ⟨rfl, rfl⟩ rfl rfl⟩
  | @announce s' x' t _ _ =>
    refine ⟨calls, events, h.quiet ⟨rfl, rfl⟩ ?_ ?_⟩
    · rw [sendControl_store]
    · rw [sendControl_log]
  | @apply s' x' parsed hm hpeer =>
    subst hm
    have hsender : parsed.header.origin = s'.remoteDevice := Option.some.inj hpeer.2
    rcases applyIncoming_calls parsed x' with hsame | ⟨e, v, n, hcall⟩
    · exact ⟨calls, events, h.quiet ⟨rfl, rfl⟩ hsame (applyIncoming_log parsed x')⟩
    · refine ⟨calls ++ [.apply parsed.header.origin parsed.header.typeId e n v], events ++ [], ?_⟩
      refine h.more ⟨rfl, rfl⟩ hcall ?_ ?_ ?_
      · rw [applyIncoming_log, List.append_nil]
      · intro call hmem
        rw [List.mem_singleton.mp hmem]
        exact ⟨hsender, hpeer.1⟩
      · simp
  | @acknowledge s' x' parsed _ _ _ _ =>
    refine ⟨calls, events, h.quiet ⟨rfl, rfl⟩ ?_ ?_⟩
    · rw [sendAcknowledgement_store]
    · exact sendEncoded_log _ s' x'
  | report handler _ _ => exact ⟨calls, events, h.quiet ⟨rfl, rfl⟩ rfl rfl⟩
  | add _ _ _ => exact ⟨calls, events, h.quiet ⟨rfl, rfl⟩ rfl rfl⟩
  | remove _ _ _ => exact ⟨calls, events, h.quiet ⟨rfl, rfl⟩ rfl rfl⟩
  | @forget s' x' c _ _ _ =>
    refine ⟨calls ++ [], events ++ [.left s'.remoteDevice], ?_⟩
    refine h.more ⟨rfl, rfl⟩ ?_ ?_ ?_ ?_
    · exact (List.append_nil _).symm
    · rfl
    · simp
    · simp
  | @snapshot s' x' c t _ _ _ =>
    obtain ⟨q, hstore⟩ := s'.sendSnapshotByType_store t x'
    refine ⟨calls, events, h.quiet ⟨rfl, rfl⟩ ?_ ?_⟩
    · rw [hstore]
    · rw [sendSnapshotByType_log]
  | answer _ _ _ =>
    refine ⟨calls, events, h.quiet ⟨rfl, rfl⟩ ?_ ?_⟩
    · rw [sendControl_store]
    · rw [sendControl_log]

theorem feed_dealt (data : Bytes) (s : SocketStateSession H) (x : Exterior H) :
    ∃ calls events, Dealt s x calls events (s.feed data x).2 :=
  feed_keeps (Q := fun r => ∃ calls events, Dealt s x calls events r)
    (fun _ _ _ _ hdeed ⟨_, _, h⟩ => hdeed.dealt h)
    (fun _ _ _ ⟨_, _, h⟩ => ⟨_, _, h.quiet ⟨rfl, rfl⟩ rfl rfl⟩) data ⟨[], [], .refl s x⟩

theorem Dealt.account (h : Dealt s x calls events r) (hinitialized : s.initialized = true) :
    Account s x calls events r where
  remote := h.remote
  log := h.log
  names := by
    intro call hcall
    obtain ⟨hdevice, hbound⟩ := h.names call hcall
    rw [hdevice]
    exact ⟨hbound, h.bound hbound⟩
  binds := fun d hd => ⟨hinitialized, h.binds d hd⟩
  bound := h.bound

/-- A call that leaves the remote manager and the peer alone. -/
theorem Account.of_eq (hremote : r.2.store.remote.2 = x.store.remote.2) (hlog : r.2.log = x.log)
    (hdevice : r.1.remoteDevice = s.remoteDevice) : Account s x [] [] r where
  remote := by rw [hremote, List.append_nil]
  log := by rw [hlog, List.append_nil]
  names := by simp
  binds := by simp
  bound := fun _ => .inl hdevice.symm

/-- A session that does not expect a device in particular knows none when it starts. -/
theorem initializeWith_account (config : SocketStateSessionConfig L.recorded)
    (hexpected : config.expectedRemoteDevice = L.zero) (handler : Option H.SendHandler)
    (observed : Bool) (s : SocketStateSession H) (x : Exterior H) :
    Account s x [] [] (s.initializeWith config handler observed x).2 := by
  have hnone : ¬ config.expectedRemoteDevice ≠ L.recorded.zero := not_not.mpr hexpected
  unfold initializeWith
  split_ifs
  · exact .of_eq rfl rfl rfl
  · exact .of_eq rfl rfl rfl
  · exact .of_eq rfl rfl rfl
  · apply Account.of_eq
    · rw [sendCurrentSubscriptions_store]
    · rw [sendCurrentSubscriptions_log]
    · rfl

theorem shutdown_calls (s : SocketStateSession H) (x : Exterior H) :
    ∃ calls, (s.shutdown x).2.store.remote.2 = x.store.remote.2 ++ calls ∧
      ∀ call ∈ calls, call = .setAvailability s.remoteDevice .disconnected ∧
        s.remoteDevice ≠ L.zero := by
  by_cases hoff : (!s.initialized && !s.attached) = true
  · rw [shutdown, shutdownLocked, if_pos hoff]
    exact ⟨[], (List.append_nil _).symm, by simp⟩
  rw [shutdown, shutdownLocked, if_neg hoff]
  dsimp only
  have hstore : (if (true && s.initialized && s.config.sendDisconnectOnShutdown &&
      decide (s.remoteDevice ≠ L.recorded.zero)) = true then (s.sendControl .disconnect 0 x).2
      else x).store = x.store := by
    split_ifs
    · rw [sendControl_store]
    · rfl
  revert hstore
  generalize (if (true && s.initialized && s.config.sendDisconnectOnShutdown &&
    decide (s.remoteDevice ≠ L.recorded.zero)) = true then (s.sendControl .disconnect 0 x).2
    else x) = y
  intro hstore
  split_ifs with hfree hattached
  · exact ⟨[], by rw [hstore, List.append_nil], by simp⟩
  · refine ⟨[.setAvailability s.remoteDevice .disconnected], ?_, ?_⟩
    · change y.store.remote.2 ++ _ = _
      rw [hstore]
    · intro call hcall
      exact ⟨List.mem_singleton.mp hcall, hfree⟩
  · refine ⟨[], ?_, by simp⟩
    change y.store.remote.2 = _
    rw [hstore, List.append_nil]

/-- A session that is shut down says no more than that its peer is gone. -/
theorem shutdown_account (h : s.Tied) (x : Exterior H) : ∃ calls events,
    Account s x calls events (s.shutdown x) ∧ (∀ call ∈ calls, ¬ call.IsApply) ∧
      ∀ d, .bound d ∉ events := by
  obtain ⟨hmade, -, hpeer⟩ := shutdownLocked_made true h x
  have hnone : (s.shutdown x).1.remoteDevice = L.zero := by
    by_contra hbound
    have hsome : (s.shutdown x).1.peer = some (s.shutdown x).1.remoteDevice := if_neg hbound
    exact Option.some_ne_none _ (hsome.symm.trans hpeer)
  have hquiet (d : L.Device) : .bound d ∉ (s.peer.map Move.closed).toList.flatMap script := by
    intro hd
    cases hpeer : s.peer <;> simp [hpeer, script] at hd
  obtain ⟨calls, hremote, hnames⟩ := s.shutdown_calls x
  refine ⟨calls, (s.peer.map Move.closed).toList.flatMap script, ?_, ?_, hquiet⟩
  · constructor
    · exact hremote
    · exact hmade.log
    · intro call hcall
      obtain ⟨rfl, hbound⟩ := hnames call hcall
      exact ⟨hbound, .inl rfl⟩
    · intro d hd
      exact absurd hd (hquiet d)
    · intro hbound
      exact absurd hnone hbound
  · intro call hcall
    obtain ⟨rfl, -⟩ := hnames call hcall
    exact id

end SocketStateSession

namespace TCPStateServer

open SocketStateSession (Account)

variable {N : Network} {v : TCPStateServer L.recorded N} {slot : ℕ}

/-- A connection speaks for one device at most: what its session is bound to, and nothing before
that. -/
structure Claimed (v : TCPStateServer L.recorded N) : Prop where
  once : ∀ c d d', (c, .bound d) ∈ v.log → (c, .bound d') ∈ v.log → d = d'
  fresh : ∀ slot, (v.session slot).initialized = true → (v.session slot).remoteDevice = L.zero →
    ∀ d, (v.clients.client slot, .bound d) ∉ v.log
  bound : ∀ slot, (v.session slot).remoteDevice ≠ L.zero →
    (v.clients.client slot, .bound (v.session slot).remoteDevice) ∈ v.log

/-- Between two states of a server every call on the remote manager was about a device that some
connection speaks for, and those that bring values were made for the connections of `P`. -/
def Granted (P : ℕ → Prop) (v v' : TCPStateServer L.recorded N) : Prop :=
  (∃ events, v'.log = v.log ++ events) ∧
    ∃ calls, v'.store.remote.2 = v.store.remote.2 ++ calls ∧
      ∀ call ∈ calls, ∃ c, (c, .bound call.device) ∈ v'.log ∧ (call.IsApply → P c)

theorem Granted.of_eq {P : ℕ → Prop} {v v' : TCPStateServer L.recorded N} (hlog : v'.log = v.log)
    (hstore : v'.store.remote.2 = v.store.remote.2) : Granted P v v' :=
  ⟨⟨[], by rw [hlog, List.append_nil]⟩, [], by rw [hstore, List.append_nil], by simp⟩

theorem Granted.trans {P : ℕ → Prop} {v v' v'' : TCPStateServer L.recorded N}
    (h : Granted P v v') (h' : Granted P v' v'') : Granted P v v'' := by
  obtain ⟨⟨events, hlog⟩, calls, hremote, hcalls⟩ := h
  obtain ⟨⟨events', hlog'⟩, calls', hremote', hcalls'⟩ := h'
  refine ⟨⟨events ++ events', ?_⟩, calls ++ calls', ?_, ?_⟩
  · rw [hlog', hlog, List.append_assoc]
  · rw [hremote', hremote, List.append_assoc]
  · intro call hcall
    rcases List.mem_append.mp hcall with hcall | hcall
    · obtain ⟨c, hbound, hP⟩ := hcalls call hcall
      rw [hlog']
      exact ⟨c, List.mem_append_left _ hbound, hP⟩
    · exact hcalls' call hcall

theorem Granted.mono {P Q : ℕ → Prop} {v v' : TCPStateServer L.recorded N} (h : Granted P v v')
    (hPQ : ∀ c, P c → Q c) : Granted Q v v' := by
  obtain ⟨hlog, calls, hremote, hcalls⟩ := h
  refine ⟨hlog, calls, hremote, ?_⟩
  intro call hcall
  obtain ⟨c, hbound, hP⟩ := hcalls call hcall
  exact ⟨c, hbound, fun happly => hPQ c (hP happly)⟩

theorem Kept.bound_le (h : v.Kept) {c : ℕ} {d : L.Device} (hbound : (c, .bound d) ∈ v.log) :
    c ≤ v.clients.connections := by
  have hmove : (c, Move.bound d) ∈ moves v.log := List.mem_filterMap.mpr ⟨_, hbound, rfl⟩
  exact (h.numbered _ hmove).2

theorem remoteDevice_of_peer {H : StateHost L.recorded} {s : SocketStateSession H}
    (h : s.peer = none) : s.remoteDevice = L.zero := by
  by_contra hbound
  have hpeer : s.peer = some s.remoteDevice := if_neg hbound
  rw [h] at hpeer
  cases hpeer

/-- A call of the session in a slot. -/
theorem Claimed.putSession (hkept : v.Kept) (h : v.Claimed)
    {r : SocketStateSession (slotHost L.recorded N) × Exterior (slotHost L.recorded N)}
    {calls : List (RemoteCall L)} {events : List (StateEvent L.recorded)}
    (haccount : Account (v.session slot) v.outside calls events r)
    (hslots : v.clients.SameSlots r.2.world)
    (hreal : ∀ d, .bound d ∈ events → v.clients.client slot ≠ 0)
    (hfresh : r.1.initialized = true → r.1.remoteDevice = L.zero →
      ∀ d, (v.clients.client slot, .bound d) ∉ v.log) {P : ℕ → Prop}
    (hP : ∀ call ∈ calls, call.IsApply → P (v.clients.client slot)) :
    (v.putSession slot r).Claimed ∧ Granted P v (v.putSession slot r) := by
  obtain ⟨hclient, -, -⟩ := hslots
  have hlog : (v.putSession slot r).log =
      v.log ++ events.map (Prod.mk (v.clients.client slot)) := by
    change v.log ++ r.2.log.map _ = _
    rw [haccount.log]
    rfl
  have hmem {c : ℕ} {e : StateEvent L.recorded} : (c, e) ∈ (v.putSession slot r).log ↔
      (c, e) ∈ v.log ∨ (c = v.clients.client slot ∧ e ∈ events) := by
    rw [hlog, List.mem_append, List.mem_map]
    constructor
    · rintro (hold | ⟨e', he', heq⟩)
      · exact .inl hold
      · cases heq
        exact .inr ⟨rfl, he'⟩
    · rintro (hold | ⟨rfl, he⟩)
      · exact .inl hold
      · exact .inr ⟨e, he, rfl⟩
  have hspeaks {d : L.Device} (hd : d ≠ L.zero)
      (hnamed : (v.session slot).remoteDevice = d ∨ .bound d ∈ events) :
      (v.clients.client slot, .bound d) ∈ (v.putSession slot r).log := by
    rw [hmem]
    rcases hnamed with hold | hnew
    · subst hold
      exact .inl (h.bound slot hd)
    · exact .inr ⟨rfl, hnew⟩
  refine ⟨⟨?_, ?_, ?_⟩, ⟨_, hlog⟩, calls, haccount.remote, ?_⟩
  · intro c d d' hd hd'
    rw [hmem] at hd hd'
    -- a session binds only while it is not bound, so that its connection has spoken for nobody
    have hfirst {d : L.Device} (hd : .bound d ∈ events) (d' : L.Device) :
        (v.clients.client slot, .bound d') ∉ v.log := by
      obtain ⟨hinitialized, hfree, -⟩ := haccount.binds d hd
      exact h.fresh slot hinitialized hfree d'
    rcases hd with hd | ⟨rfl, hd⟩
    · rcases hd' with hd' | ⟨rfl, hd'⟩
      · exact h.once c d d' hd hd'
      · exact absurd hd (hfirst hd' d)
    · rcases hd' with hd' | ⟨-, hd'⟩
      · exact absurd hd' (hfirst hd d')
      · obtain ⟨-, -, hsame, -⟩ := haccount.binds d hd
        obtain ⟨-, -, hsame', -⟩ := haccount.binds d' hd'
        exact hsame.trans hsame'.symm
  · intro other hinitialized hfree d hd
    change (Function.update v.session slot r.1 other).initialized = true at hinitialized
    change (Function.update v.session slot r.1 other).remoteDevice = L.zero at hfree
    change (r.2.world.client other, _) ∈ _ at hd
    rw [hclient, hmem] at hd
    by_cases hother : other = slot
    · subst hother
      rw [Function.update_self] at hinitialized hfree
      rcases hd with hd | ⟨-, hd⟩
      · exact hfresh hinitialized hfree d hd
      · obtain ⟨-, -, hsame, hne⟩ := haccount.binds d hd
        exact hne (hsame.trans hfree)
    · rw [Function.update_of_ne hother] at hinitialized hfree
      rcases hd with hd | ⟨hsame, hd⟩
      · exact h.fresh other hinitialized hfree d hd
      · rcases hkept.single other slot hsame with hzero | hslot
        · exact hreal d hd (hsame.symm.trans hzero)
        · exact hother hslot
  · intro other hbound
    change (Function.update v.session slot r.1 other).remoteDevice ≠ L.zero at hbound
    change (r.2.world.client other,
      StateEvent.bound (Function.update v.session slot r.1 other).remoteDevice) ∈ _
    rw [hclient]
    by_cases hother : other = slot
    · subst hother
      rw [Function.update_self] at hbound ⊢
      exact hspeaks hbound (haccount.bound hbound)
    · rw [Function.update_of_ne hother] at hbound ⊢
      exact hmem.mpr (.inl (h.bound other hbound))
  · intro call hcall
    obtain ⟨hne, hnamed⟩ := haccount.names call hcall
    exact ⟨_, hspeaks hne hnamed, hP call hcall⟩

theorem Claimed.resetClient (hkept : v.Kept) (h : v.Claimed) (slot : ℕ) :
    (v.resetClient slot).Claimed ∧ Granted (fun _ => False) v (v.resetClient slot) := by
  obtain ⟨calls, events, haccount, hcalls, hevents⟩ :=
    SocketStateSession.shutdown_account (hkept.tied slot) v.outside
  obtain ⟨-, hinitialized, -⟩ :=
    SocketStateSession.shutdownLocked_made true (hkept.tied slot) v.outside
  have hslots : v.clients.SameSlots ((v.session slot).shutdown v.outside).2.world :=
    SocketStateSession.shutdownLocked_preserves (same_slots v.clients).toSustains true _
      (x := v.outside) (.refl _)
  obtain ⟨hput, hgranted⟩ := h.putSession hkept haccount hslots
    (fun d hd => absurd hd (hevents d))
    (fun hon => absurd (hon.symm.trans hinitialized) (by simp))
    (P := fun _ => False) hcalls
  exact ⟨⟨hput.once, hput.fresh, hput.bound⟩, hgranted⟩

theorem Claimed.feedClient (hkept : v.Kept) (h : v.Claimed)
    (hactive : v.clients.active slot = true) (chunk : Bytes) :
    (v.feedClient slot chunk).2.Claimed ∧
      Granted (· = v.clients.client slot) v (v.feedClient slot chunk).2 := by
  have hslots : v.clients.SameSlots ((v.session slot).feed chunk v.outside).2.2.world :=
    SocketStateSession.feed_preserves (same_slots v.clients) chunk _ (x := v.outside) (.refl _)
  by_cases hinitialized : (v.session slot).initialized = true
  · obtain ⟨calls, events, hdealt⟩ :=
      SocketStateSession.feed_dealt chunk (v.session slot) v.outside
    apply h.putSession hkept (hdealt.account hinitialized) hslots
    · intro _ _
      exact hkept.live slot hactive
    · intro _ hfree
      apply h.fresh slot hinitialized
      by_contra hbound
      exact hbound ((hdealt.same hbound).symm.trans hfree)
    · intro _ _ _
      rfl
  · have hoff : (v.session slot).feed chunk v.outside = (false, v.session slot, v.outside) :=
      if_pos (by simpa using hinitialized)
    have haccount : Account (v.session slot) v.outside [] []
        ((v.session slot).feed chunk v.outside).2 := by
      rw [hoff]
      exact .of_eq rfl rfl rfl
    apply h.putSession hkept haccount hslots
    · simp
    · rw [hoff]
      exact fun hon => absurd hon hinitialized
    · simp

theorem Claimed.notifySession (hkept : v.Kept) (h : v.Claimed) (slot : ℕ)
    {f : SocketStateSession (slotHost L.recorded N) → Exterior (slotHost L.recorded N) →
      Exterior (slotHost L.recorded N)}
    (hstore : (f (v.session slot) v.outside).store = v.outside.store)
    (hlog : (f (v.session slot) v.outside).log = v.outside.log)
    (hslots : v.clients.SameSlots (f (v.session slot) v.outside).world) :
    (v.notifySession slot f).Claimed ∧ Granted (fun _ => False) v (v.notifySession slot f) := by
  unfold TCPStateServer.notifySession
  split_ifs
  · exact ⟨h, .of_eq rfl rfl⟩
  · have haccount : Account (v.session slot) v.outside [] []
        (v.session slot, f (v.session slot) v.outside) := .of_eq (by rw [hstore]) hlog rfl
    apply h.putSession hkept haccount hslots
    · simp
    · exact h.fresh slot
    · simp

theorem Claimed.assignClient (hkept : v.Kept) (h : v.Claimed)
    (hpeer : (v.session slot).peer = none) : (v.assignClient slot).Claimed ∧
      ∀ d, ((v.assignClient slot).clients.client slot, .bound d) ∉ (v.assignClient slot).log := by
  have hnew (d : L.Device) : (v.clients.connections + 1, .bound d) ∉ v.log := by
    intro hd
    have hle := hkept.bound_le hd
    omega
  have hclient (other : ℕ) : (v.assignClient slot).clients.client other =
      if other = slot then v.clients.connections + 1 else v.clients.client other := by
    simp [TCPStateServer.assignClient, Clients.assign, Function.update_apply]
  refine ⟨⟨h.once, ?_, ?_⟩, ?_⟩
  · intro other hinitialized hfree d
    rw [hclient]
    split_ifs
    · exact hnew d
    · exact h.fresh other hinitialized hfree d
  · intro other hbound
    rw [hclient]
    split_ifs with hother
    · subst hother
      exact absurd (remoteDevice_of_peer hpeer) hbound
    · exact h.bound other hbound
  · intro d
    rw [hclient, if_pos rfl]
    exact hnew d

theorem Claimed.startSession (hkept : v.Kept) (h : v.Claimed)
    (hnew : ∀ d, (v.clients.client slot, .bound d) ∉ v.log) (observed : Bool) :
    (v.startSession observed slot).2.Claimed ∧
      Granted (fun _ => False) v (v.startSession observed slot).2 := by
  let config : SocketStateSessionConfig L.recorded :=
    { v.config.session with expectedRemoteDevice := L.recorded.zero }
  have hslots : v.clients.SameSlots
      ((v.session slot).initializeWith config (some slot) observed v.outside).2.2.world :=
    SocketStateSession.initializeWith_preserves (same_slots v.clients).toSustains _ _ observed _
      (x := v.outside) (.refl _)
  have haccount := SocketStateSession.initializeWith_account config rfl (some slot) observed
    (v.session slot) v.outside
  apply h.putSession hkept haccount hslots
  · simp
  · intro _ _
    exact hnew
  · simp

theorem Claimed.admitClient (hkept : v.Kept) (h : v.Claimed) (observed : Bool) (slot : ℕ) :
    (v.admitClient observed slot).Claimed ∧
      Granted (fun _ => False) v (v.admitClient observed slot) := by
  obtain ⟨hkept₁, hpeer⟩ := hkept.resetClient slot
  obtain ⟨h₁, hgranted₁⟩ := h.resetClient hkept slot
  obtain ⟨hkept₂, hclient⟩ := hkept₁.assignClient hpeer
  obtain ⟨h₂, hnew⟩ := h₁.assignClient hkept₁ hpeer
  obtain ⟨hkept₃, -⟩ := hkept₂.startSession hclient observed
  obtain ⟨h₃, hgranted₃⟩ := h₂.startSession hkept₂ hnew observed
  have hassigned : Granted (fun _ => False) (v.resetClient slot)
      ((v.resetClient slot).assignClient slot) := .of_eq rfl rfl
  have hgranted := (hgranted₁.trans hassigned).trans hgranted₃
  unfold TCPStateServer.admitClient
  dsimp only
  split_ifs
  · obtain ⟨h₄, hgranted₄⟩ := h₃.resetClient hkept₃ slot
    exact ⟨h₄, hgranted.trans hgranted₄⟩
  · exact ⟨⟨h₃.once, h₃.fresh, h₃.bound⟩, hgranted⟩

theorem Claimed.place (hkept : v.Kept) (h : v.Claimed) (observed : Bool) (slots : List ℕ) :
    (v.place observed slots).Claimed ∧
      Granted (fun _ => False) v (v.place observed slots) := by
  induction slots generalizing v with
  | nil => exact ⟨h, .of_eq rfl rfl⟩
  | cons slot slots ih =>
    have hquery : (if v.clients.active slot then v.queryClient slot else (false, v)).2.Kept ∧
        (if v.clients.active slot then v.queryClient slot else (false, v)).2.Claimed ∧
        Granted (fun _ => False) v
          (if v.clients.active slot then v.queryClient slot else (false, v)).2 := by
      split_ifs
      · exact ⟨hkept.queryClient slot, ⟨h.once, h.fresh, h.bound⟩, .of_eq rfl rfl⟩
      · exact ⟨hkept, h, .of_eq rfl rfl⟩
    unfold TCPStateServer.place
    dsimp only
    generalize (if v.clients.active slot then v.queryClient slot else (false, v)) = q at hquery ⊢
    obtain ⟨hkept', h', hgranted⟩ := hquery
    split_ifs
    · obtain ⟨hplaced, hgranted'⟩ := ih hkept' h'
      exact ⟨hplaced, hgranted.trans hgranted'⟩
    · obtain ⟨hadmitted, hgranted'⟩ := h'.admitClient hkept' observed slot
      exact ⟨hadmitted, hgranted.trans hgranted'⟩

theorem Claimed.initial (w : N.World) (store : Store L.recorded) (maxTCPClients : ℕ) :
    Claimed ({ clients := { world := w }, store, maxTCPClients } :
      TCPStateServer L.recorded N) := by
  constructor
  · simp
  · simp
  · intro slot hbound
    exact absurd rfl hbound

/-- The connection for which an action may bring values. -/
def Writes (v : TCPStateServer L.recorded N) : Action L.recorded → ℕ → Prop
  | .read slot _, c => v.clients.active slot = true ∧ c = v.clients.client slot
  | _, _ => False

theorem Claimed.resetAll (hkept : v.Kept) (h : v.Claimed) (slots : List ℕ) :
    (slots.foldl (fun v slot => v.resetClient slot) v).Claimed ∧
      Granted (fun _ => False) v (slots.foldl (fun v slot => v.resetClient slot) v) := by
  induction slots generalizing v with
  | nil => exact ⟨h, .of_eq rfl rfl⟩
  | cons slot slots ih =>
    obtain ⟨hreset, hgranted⟩ := h.resetClient hkept slot
    obtain ⟨hrest, hgranted'⟩ := ih (hkept.resetClient slot).1 hreset
    exact ⟨hrest, hgranted.trans hgranted'⟩

theorem Claimed.step (hkept : v.Kept) (h : v.Claimed) (a : Action L.recorded) :
    (v.step a).Claimed ∧ Granted (v.Writes a) v (v.step a) := by
  cases a with
  | startServer config started =>
    change (v.initializeWith config started).Claimed ∧
      Granted (fun _ => False) v (v.initializeWith config started)
    unfold initializeWith
    split_ifs
    · exact ⟨h, .of_eq rfl rfl⟩
    · exact ⟨⟨h.once, h.fresh, h.bound⟩, .of_eq rfl rfl⟩
  | shutdown =>
    change v.shutdown.Claimed ∧ Granted (fun _ => False) v v.shutdown
    unfold shutdown
    split_ifs
    · exact ⟨h, .of_eq rfl rfl⟩
    · obtain ⟨hreset, hgranted⟩ := h.resetAll hkept (List.range v.maxTCPClients)
      exact ⟨⟨hreset.once, hreset.fresh, hreset.bound⟩, hgranted⟩
  | accept incoming observed =>
    change (v.acceptClientLocked incoming observed).Claimed ∧
      Granted (fun _ => False) v (v.acceptClientLocked incoming observed)
    unfold acceptClientLocked
    split_ifs
    · exact ⟨h, .of_eq rfl rfl⟩
    · exact h.place hkept observed _
  | inspect slot =>
    change (v.inspectClient slot).Claimed ∧ Granted (fun _ => False) v (v.inspectClient slot)
    have hquery : (v.queryClient slot).2.Claimed := ⟨h.once, h.fresh, h.bound⟩
    have hgranted : Granted (fun _ => False) v (v.queryClient slot).2 := .of_eq rfl rfl
    unfold inspectClient
    dsimp only
    split_ifs
    · exact ⟨h, .of_eq rfl rfl⟩
    · obtain ⟨hreset, hgranted'⟩ := hquery.resetClient (hkept.queryClient slot) slot
      exact ⟨hreset, hgranted.trans hgranted'⟩
    · exact ⟨hquery, hgranted⟩
  | read slot chunk =>
    change (v.readClient slot chunk).Claimed ∧
      Granted (fun c => v.clients.active slot = true ∧ c = v.clients.client slot) v
        (v.readClient slot chunk)
    unfold readClient
    dsimp only
    by_cases hactive : v.clients.active slot = true
    · rw [if_neg (by simp [hactive])]
      obtain ⟨hfed, hgranted⟩ := h.feedClient hkept hactive chunk
      have hgranted := hgranted.mono fun c hc =>
        (⟨hactive, hc⟩ : v.clients.active slot = true ∧ c = v.clients.client slot)
      split_ifs
      · obtain ⟨hreset, hgranted'⟩ := hfed.resetClient (hkept.feedClient hactive chunk) slot
        exact ⟨hreset, hgranted.trans (hgranted'.mono fun _ => False.elim)⟩
      · exact ⟨hfed, hgranted⟩
    · rw [if_pos (by simpa using hactive)]
      exact ⟨h, .of_eq rfl rfl⟩
  | changed publisher subscriptions =>
    exact ⟨⟨h.once, h.fresh, h.bound⟩, .of_eq rfl rfl⟩
  | published slot typeId update =>
    exact h.notifySession hkept slot (SocketStateSession.onTypedStatePublished_store ..)
      (SocketStateSession.onTypedStatePublished_log ..)
      (SocketStateSession.onTypedStatePublished_preserves (same_slots v.clients).toSustains _ _ _
        (x := v.outside) (.refl _))
  | subscribed slot d =>
    exact h.notifySession hkept slot (SocketStateSession.onStateSubscribed_store ..)
      (SocketStateSession.onStateSubscribed_log ..)
      (SocketStateSession.onStateSubscribed_preserves (same_slots v.clients).toSustains d _
        (x := v.outside) (.refl _))
  | unsubscribed slot d =>
    exact h.notifySession hkept slot (SocketStateSession.onStateUnsubscribed_store ..)
      (SocketStateSession.onStateUnsubscribed_log ..)
      (SocketStateSession.onStateUnsubscribed_preserves (same_slots v.clients).toSustains d _
        (x := v.outside) (.refl _))

/-- Whatever has happened to a server, and whatever happens next: the calls on the remote manager
that all its sessions share are about devices that connections of the server have spoken for, and
a value is brought by a read of an active slot only, whose connection speaks for that device and
for no other, ever. -/
theorem replicas_owned (w : N.World) (store : Store L.recorded) (maxTCPClients : ℕ)
    (past : List (Action L.recorded)) (a : Action L.recorded) :
    let v := run step ({ clients := { world := w }, store, maxTCPClients } :
      TCPStateServer L.recorded N) past
    ∃ calls, (v.step a).store.remote.2 = v.store.remote.2 ++ calls ∧
      (∀ call ∈ calls, ∃ c, (c, .bound call.device) ∈ (v.step a).log) ∧
      ∀ d t epoch revision value, RemoteCall.apply d t epoch revision value ∈ calls →
        ∃ slot chunk, a = .read slot chunk ∧ v.clients.active slot = true ∧
          (v.clients.client slot, .bound d) ∈ (v.step a).log ∧
          ∀ d', (v.clients.client slot, .bound d') ∈ (v.step a).log → d' = d := by
  intro v
  have hrun : v.Kept ∧ v.Claimed :=
    run_induction (P := fun v : TCPStateServer L.recorded N => v.Kept ∧ v.Claimed)
      (fun _ a h => ⟨h.1.step a, (h.2.step h.1 a).1⟩)
      ⟨Kept.initial w store maxTCPClients, Claimed.initial w store maxTCPClients⟩ past
  obtain ⟨hkept, h⟩ := hrun
  obtain ⟨hclaimed, -, calls, hremote, hcalls⟩ := h.step hkept a
  refine ⟨calls, hremote, ?_, ?_⟩
  · intro call hcall
    obtain ⟨c, hbound, -⟩ := hcalls call hcall
    exact ⟨c, hbound⟩
  · intro d t epoch revision value hcall
    obtain ⟨c, hbound, hwrites⟩ := hcalls _ hcall
    have hwrites := hwrites trivial
    cases a with
    | read slot chunk =>
      obtain ⟨hactive, rfl⟩ := hwrites
      exact ⟨slot, chunk, rfl, hactive, hbound, fun d' hd' => hclaimed.once _ _ _ hd' hbound⟩
    | _ => exact hwrites.elim

end TCPStateServer
end Sockets.State
