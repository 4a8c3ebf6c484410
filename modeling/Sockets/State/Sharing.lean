import Sockets.Foundation.Run
import Sockets.State.Availability
import Sockets.State.Effects
import Sockets.State.Laws
import Sockets.State.Server

/-! The availability of devices in the remote manager that all sessions of a server share. -/
namespace Sockets.State
open Foundation Transport

variable {L : StateLibrary} {N : Network}

/-- The move an event stands for. -/
def moveOf : ℕ × StateEvent L → Option (ℕ × Move L.Device)
  | (c, .bound d) => some (c, .bound d)
  | (c, .left d) => some (c, .left d)
  | (c, .closed d) => some (c, .closed d)
  | (_, .availability _ _) => none

/-- The moves in a server's log. -/
def moves (log : List (ℕ × StateEvent L)) : List (ℕ × Move L.Device) := log.filterMap moveOf

/-- The events of a connection's move. -/
def entry (m : ℕ × Move L.Device) : List (ℕ × StateEvent L) := (script m.2).map (Prod.mk m.1)

/-- The value of a call of `SetAvailability` for a device. -/
def availabilityOf (device : L.Device) : ℕ × StateEvent L → Option RemoteDeviceAvailability
  | (_, .availability d value) => if d = device then some value else none
  | _ => none

/-- The value of the last such call. -/
def lastAvailability (device : L.Device) (log : List (ℕ × StateEvent L)) :
    Option RemoteDeviceAvailability := (log.filterMap (availabilityOf device)).getLast?

theorem moves_append (log log' : List (ℕ × StateEvent L)) :
    moves (log ++ log') = moves log ++ moves log' :=
  List.filterMap_append

theorem moves_entries (ms : List (ℕ × Move L.Device)) : moves (ms.flatMap entry) = ms := by
  induction ms with
  | nil => rfl
  | cons m ms ih =>
    obtain ⟨c, move⟩ := m
    rw [List.flatMap_cons, moves_append, ih]
    cases move <;> rfl

theorem tagged_script (c : ℕ) (ms : List (Move L.Device)) :
    (ms.flatMap script).map (Prod.mk c) = (ms.map (Prod.mk c)).flatMap entry := by
  induction ms with
  | nil => rfl
  | cons m ms ih => simp [ih, entry]

/-- The availability a flag stands for. -/
def availability : Bool → RemoteDeviceAvailability
  | true => .connected
  | false => .disconnected

private theorem availabilityOf_entry (d : L.Device) (m : ℕ × Move L.Device) :
    (entry m).filterMap (availabilityOf d) = ((m.2.flag d).map availability).toList := by
  obtain ⟨c, move⟩ := m
  cases move <;>
  · rename_i e
    by_cases he : e = d <;>
      simp only [entry, script, List.map_cons, List.map_nil, List.filterMap_cons, availabilityOf,
        Move.flag, he, if_true, if_false] <;> rfl

/-- What the moves of a log do with the flags is what its calls do with the availability. -/
theorem lastAvailability_entries (d : L.Device) (ms : List (ℕ × Move L.Device)) :
    lastAvailability d (ms.flatMap entry) = (flags d ms).getLast?.map availability := by
  rw [lastAvailability, ← List.getLast?_map]
  congr 1
  induction ms with
  | nil => rfl
  | cons m ms ih =>
    rw [List.flatMap_cons, List.filterMap_append, ih, availabilityOf_entry, flags, flags,
      List.filterMap_cons]
    cases m.2.flag d <;> rfl

theorem mem_left_of_moves {c : ℕ} {d : L.Device} {log : List (ℕ × StateEvent L)}
    (h : (c, .left d) ∈ moves log) : (c, .left d) ∈ log := by
  obtain ⟨⟨c', e⟩, he, hmove⟩ := List.mem_filterMap.mp h
  cases e <;> simp_all [moveOf]

variable [SizeWidth]

theorem same_slots (x : Clients N) :
    Preserves (slotHost L N) (Clients.SameSlots x) where
  send slot _ y _ h := h.trans (y.sameSlots_sendWhole slot _)
  peerBound handler := handler.elim
  acknowledged handler := handler.elim

namespace TCPStateServer

/-- What every step of a server keeps: its log is the moves of its sessions with their calls, every
slot has a connection of its own, and its session is bound to what the moves of that connection
make of it. -/
structure Kept (v : TCPStateServer L N) : Prop where
  log : v.log = (moves v.log).flatMap entry
  peer : ∀ slot, (v.session slot).peer =
    nameAfter none (own (v.clients.client slot) (moves v.log))
  tied : ∀ slot, (v.session slot).Tied
  numbered : ∀ m ∈ moves v.log, 0 < m.1 ∧ m.1 ≤ v.clients.connections
  client_le : ∀ slot, v.clients.client slot ≤ v.clients.connections
  single : ∀ slot slot', v.clients.client slot = v.clients.client slot' →
    v.clients.client slot = 0 ∨ slot = slot'
  live : ∀ slot, v.clients.active slot = true → v.clients.client slot ≠ 0

variable {v : TCPStateServer L N}

theorem Kept.putSession (h : v.Kept) (slot : ℕ)
    {r : SocketStateSession (slotHost L N) × Exterior (slotHost L N)}
    {ms : List (Move L.Device)}
    (hmade : SocketStateSession.Made ms (v.session slot) v.outside r.1 r.2) (htied : r.1.Tied)
    (hslots : v.clients.SameSlots r.2.world) (hreal : ms ≠ [] → v.clients.client slot ≠ 0) :
    (v.putSession slot r).Kept := by
  obtain ⟨hclient, hactive, hconnections⟩ := hslots
  have hlog : (v.putSession slot r).log =
      (moves v.log ++ ms.map (Prod.mk (v.clients.client slot))).flatMap entry := by
    rw [List.flatMap_append, ← h.log, ← tagged_script]
    simp [TCPStateServer.putSession, hmade.log, outside]
  have hmoves : moves (v.putSession slot r).log =
      moves v.log ++ ms.map (Prod.mk (v.clients.client slot)) := by
    rw [hlog, moves_entries]
  refine ⟨by rw [hmoves, hlog], fun other => ?_, fun other => ?_, fun m hm => ?_, ?_, ?_, ?_⟩
  · change (Function.update v.session slot r.1 other).peer =
      nameAfter none (own (r.2.world.client other) (moves (v.putSession slot r).log))
    rw [hmoves, hclient, own_append, nameAfter_append, ← h.peer]
    by_cases hother : other = slot
    · subst hother
      rw [Function.update_self, own_tagged, hmade.peer]
    · rw [Function.update_of_ne hother]
      by_cases hnone : ms = []
      · rw [hnone]
        rfl
      · have hne : v.clients.client slot ≠ v.clients.client other := fun heq =>
          (h.single slot other heq).elim (hreal hnone) fun hsame => hother hsame.symm
        rw [own_tagged_ne hne]
        rfl
  · change (Function.update v.session slot r.1 other).Tied
    by_cases hother : other = slot
    · subst hother
      rwa [Function.update_self]
    · rw [Function.update_of_ne hother]
      exact h.tied other
  · change 0 < m.1 ∧ m.1 ≤ r.2.world.connections
    rw [hconnections]
    rw [hmoves] at hm
    rcases List.mem_append.mp hm with hm | hm
    · exact h.numbered m hm
    · obtain ⟨move, hmove, rfl⟩ := List.mem_map.mp hm
      exact ⟨Nat.pos_of_ne_zero (hreal (List.ne_nil_of_mem hmove)), h.client_le slot⟩
  · change ∀ slot, r.2.world.client slot ≤ r.2.world.connections
    rw [hclient, hconnections]
    exact h.client_le
  · change ∀ slot slot', r.2.world.client slot = r.2.world.client slot' →
      r.2.world.client slot = 0 ∨ slot = slot'
    rw [hclient]
    exact h.single
  · change ∀ slot, r.2.world.active slot = true → r.2.world.client slot ≠ 0
    rw [hclient, hactive]
    exact h.live

/-- A slot whose client has never been connected has a session that is not bound. -/
theorem Kept.peer_of_client_eq_zero (h : v.Kept) {slot : ℕ} (hclient : v.clients.client slot = 0) :
    (v.session slot).peer = none := by
  have hown : own 0 (moves v.log) = [] := by
    rw [own, List.map_eq_nil_iff, List.filter_eq_nil_iff]
    intro m hm hzero
    have hpos := (h.numbered m hm).1
    simp at hzero
    omega
  rw [h.peer, hclient, hown]
  rfl

theorem Kept.setActive (h : v.Kept) (slot : ℕ) {b : Bool} (w : N.World)
    (hb : b = true → v.clients.client slot ≠ 0) :
    Kept { v with clients := { v.clients with world := w }.setActive slot b } := by
  refine ⟨h.log, h.peer, h.tied, h.numbered, h.client_le, h.single, fun other hactive => ?_⟩
  change Function.update v.clients.active slot b other = true at hactive
  by_cases hother : other = slot
  · subst hother
    rw [Function.update_self] at hactive
    exact hb hactive
  · rw [Function.update_of_ne hother] at hactive
    exact h.live other hactive

theorem Kept.resetClient (h : v.Kept) (slot : ℕ) : (v.resetClient slot).Kept ∧
    ((v.resetClient slot).session slot).peer = none := by
  obtain ⟨hmade, hinitialized, hpeer⟩ :=
    SocketStateSession.shutdownLocked_made true (h.tied slot) v.outside
  have hslots : v.clients.SameSlots ((v.session slot).shutdown v.outside).2.world :=
    SocketStateSession.shutdownLocked_preserves (same_slots v.clients).toSustains true _ (x := v.outside)
      (.refl _)
  have hput := h.putSession slot hmade (.of_shut hinitialized hpeer) hslots fun hms hzero =>
    hms (by simp [h.peer_of_client_eq_zero hzero])
  refine ⟨hput.setActive slot _ (by simp), ?_⟩
  change (Function.update v.session slot _ slot).peer = none
  rwa [Function.update_self]

theorem Kept.queryClient (h : v.Kept) (slot : ℕ) : (v.queryClient slot).2.Kept :=
  ⟨h.log, h.peer, h.tied, h.numbered, h.client_le, h.single, h.live⟩

theorem Kept.feedClient (h : v.Kept) {slot : ℕ} (hactive : v.clients.active slot = true)
    (chunk : Bytes) : (v.feedClient slot chunk).2.Kept := by
  obtain ⟨-, -, ms, hmade⟩ := SocketStateSession.feed_carried chunk (h.tied slot) v.outside
  exact h.putSession slot hmade ((h.tied slot).feed chunk _)
    (SocketStateSession.feed_preserves (same_slots v.clients) chunk _ (x := v.outside) (.refl _))
    fun _ => h.live slot hactive

/-- A notification changes nothing but what is on the wire. -/
theorem Kept.notifySession (h : v.Kept) (slot : ℕ)
    {f : SocketStateSession (slotHost L N) → Exterior (slotHost L N) → Exterior (slotHost L N)}
    (hlog : (f (v.session slot) v.outside).log = [])
    (hslots : v.clients.SameSlots (f (v.session slot) v.outside).world) :
    (v.notifySession slot f).Kept := by
  unfold TCPStateServer.notifySession
  split_ifs
  · exact h
  · exact h.putSession slot (.of_eq rfl hlog) (h.tied slot) hslots (absurd rfl)

theorem Kept.assignClient (h : v.Kept) {slot : ℕ} (hpeer : (v.session slot).peer = none) :
    (v.assignClient slot).Kept ∧ (v.assignClient slot).clients.client slot ≠ 0 := by
  have hclient (other : ℕ) : (v.assignClient slot).clients.client other =
      if other = slot then v.clients.connections + 1 else v.clients.client other := by
    simp [TCPStateServer.assignClient, Clients.assign, Function.update_apply]
  have hnew : own (v.clients.connections + 1) (moves v.log) = [] := by
    rw [own, List.map_eq_nil_iff, List.filter_eq_nil_iff]
    intro m hm heq
    have hle := (h.numbered m hm).2
    simp at heq
    omega
  refine ⟨⟨h.log, fun other => ?_, h.tied, fun m hm => ?_, fun other => ?_, fun other other' => ?_,
    fun other hactive => ?_⟩, by rw [hclient, if_pos rfl]; omega⟩
  · change (v.session other).peer =
      nameAfter none (own ((v.assignClient slot).clients.client other) (moves v.log))
    rw [hclient]
    split_ifs with hother
    · rw [hnew, hother, hpeer]
      rfl
    · exact h.peer other
  · have hbounds := h.numbered m hm
    change 0 < m.1 ∧ m.1 ≤ v.clients.connections + 1
    omega
  · have hle := h.client_le other
    change _ ≤ v.clients.connections + 1
    rw [hclient]
    split_ifs <;> omega
  · have hle := h.client_le other
    have hle' := h.client_le other'
    have hsingle := h.single other other'
    rw [hclient, hclient]
    split_ifs with hother hother' hother'
    · exact fun _ => .inr (hother.trans hother'.symm)
    · omega
    · omega
    · exact hsingle
  · rw [hclient]
    split_ifs
    · omega
    · exact h.live other hactive

theorem Kept.startSession (h : v.Kept) {slot : ℕ} (hclient : v.clients.client slot ≠ 0)
    (observed : Bool) : (v.startSession observed slot).2.Kept ∧
      (v.startSession observed slot).2.clients.client slot ≠ 0 := by
  obtain ⟨htied, ms, hmade⟩ := SocketStateSession.initializeWith_made
    { v.config.session with expectedRemoteDevice := L.zero } (some slot) observed (h.tied slot)
    v.outside
  have hslots : v.clients.SameSlots ((v.session slot).initializeWith
      { v.config.session with expectedRemoteDevice := L.zero } (some slot) observed
        v.outside).2.2.world :=
    SocketStateSession.initializeWith_preserves (same_slots v.clients).toSustains _ _ observed _
      (x := v.outside) (.refl _)
  have hsame : (v.startSession observed slot).2.clients.client = v.clients.client := hslots.1
  exact ⟨h.putSession slot hmade htied hslots fun _ => hclient, by rwa [hsame]⟩

theorem Kept.admitClient (h : v.Kept) (observed : Bool) (slot : ℕ) :
    (v.admitClient observed slot).Kept := by
  obtain ⟨hreset, hpeer⟩ := h.resetClient slot
  obtain ⟨hassigned, hclient⟩ := hreset.assignClient hpeer
  obtain ⟨hstarted, hclient'⟩ := hassigned.startSession hclient observed
  unfold TCPStateServer.admitClient
  dsimp only
  split_ifs
  · exact (hstarted.resetClient slot).1
  · exact hstarted.setActive slot _ fun _ => hclient'

theorem Kept.place (h : v.Kept) (observed : Bool) (slots : List ℕ) :
    (v.place observed slots).Kept := by
  induction slots generalizing v with
  | nil => exact h
  | cons slot slots ih =>
    have hquery : (if v.clients.active slot then v.queryClient slot else (false, v)).2.Kept := by
      split_ifs
      · exact h.queryClient slot
      · exact h
    unfold TCPStateServer.place
    dsimp only
    generalize (if v.clients.active slot then v.queryClient slot else (false, v)) = q at hquery ⊢
    split_ifs
    · exact ih hquery
    · exact hquery.admitClient observed slot

theorem Kept.initial (w : N.World) (store : Store L) (maxTCPClients : ℕ) :
    ({ clients := { world := w }, store, maxTCPClients } : TCPStateServer L N).Kept := by
  refine ⟨rfl, fun _ => if_pos rfl, fun _ => ?_, by simp [moves], fun _ => le_rfl,
    fun _ _ _ => .inl rfl, by simp⟩
  exact ⟨fun h => absurd (if_pos rfl) h, by simp⟩

theorem Kept.step (h : v.Kept) (a : Action L) : (v.step a).Kept := by
  cases a with
  | startServer config started =>
    change (v.initializeWith config started).Kept
    unfold initializeWith
    split_ifs
    · exact h
    · exact ⟨h.log, h.peer, h.tied, h.numbered, h.client_le, h.single, h.live⟩
  | shutdown =>
    change v.shutdown.Kept
    unfold shutdown
    split_ifs
    · exact h
    · have hreset := List.foldlRecOn (motive := Kept) (List.range v.maxTCPClients)
        (fun v slot => v.resetClient slot) h fun v hv slot _ => (hv.resetClient slot).1
      exact ⟨hreset.log, hreset.peer, hreset.tied, hreset.numbered, hreset.client_le,
        hreset.single, hreset.live⟩
  | accept incoming observed =>
    change (v.acceptClientLocked incoming observed).Kept
    unfold acceptClientLocked
    split_ifs
    · exact h
    · exact h.place _ _
  | inspect slot =>
    change (v.inspectClient slot).Kept
    unfold inspectClient
    dsimp only
    split_ifs
    · exact h
    · exact ((h.queryClient slot).resetClient slot).1
    · exact h.queryClient slot
  | read slot chunk =>
    change (v.readClient slot chunk).Kept
    unfold readClient
    dsimp only
    split_ifs with hactive
    · exact h
    · exact ((h.feedClient (by simpa using hactive) chunk).resetClient slot).1
    · exact h.feedClient (by simpa using hactive) chunk
  | changed publisher subscriptions =>
    exact ⟨h.log, h.peer, h.tied, h.numbered, h.client_le, h.single, h.live⟩
  | published slot typeId update =>
    exact h.notifySession slot (SocketStateSession.onTypedStatePublished_log ..)
      (SocketStateSession.onTypedStatePublished_preserves (same_slots v.clients).toSustains _ _ _
        (x := v.outside) (.refl _))
  | subscribed slot d =>
    exact h.notifySession slot (SocketStateSession.onStateSubscribed_log ..)
      (SocketStateSession.onStateSubscribed_preserves (same_slots v.clients).toSustains d _
        (x := v.outside) (.refl _))
  | unsubscribed slot d =>
    exact h.notifySession slot (SocketStateSession.onStateUnsubscribed_log ..)
      (SocketStateSession.onStateUnsubscribed_preserves (same_slots v.clients).toSustains d _
        (x := v.outside) (.refl _))

/-- What one worker iteration does, one action at a time. -/
def iteration (maximumClients : ℕ) (incoming observed : Bool) (reads : ℕ → List Bytes) :
    List (Action L) :=
  .accept incoming observed :: (List.range maximumClients).flatMap fun slot =>
    .inspect slot :: (reads slot).map (.read slot)

theorem active_resetClient (slot : ℕ) (v : TCPStateServer L N) :
    (v.resetClient slot).clients.active slot = false :=
  Function.update_self ..

private theorem run_read_inactive {slot : ℕ} (hactive : v.clients.active slot = false)
    (chunks : List Bytes) :
    run step v (chunks.map fun chunk => (.read slot chunk : Action L)) = v := by
  induction chunks with
  | nil => rfl
  | cons chunk chunks ih =>
    have hread : v.step (.read slot chunk) = v := if_pos (by rw [hactive]; rfl)
    rw [List.map_cons, run_cons, hread, ih]

private theorem readAll_eq {slot : ℕ} (hactive : v.clients.active slot = true)
    (chunks : List Bytes) :
    v.readAll slot chunks = run step v (chunks.map fun chunk => (.read slot chunk : Action L)) := by
  induction chunks generalizing v with
  | nil => rfl
  | cons chunk chunks ih =>
    have hslots : v.clients.SameSlots (v.feedClient slot chunk).2.clients :=
      SocketStateSession.feed_preserves (same_slots v.clients) chunk _ (x := v.outside) (.refl _)
    have hread : v.step (.read slot chunk) = if !(v.feedClient slot chunk).1 then
        (v.feedClient slot chunk).2.resetClient slot else (v.feedClient slot chunk).2 :=
      if_neg (by rw [hactive]; decide)
    rw [List.map_cons, run_cons, hread]
    change (if !(v.feedClient slot chunk).1 then (v.feedClient slot chunk).2.resetClient slot
      else readAll slot chunks (v.feedClient slot chunk).2) = _
    split_ifs
    · rw [run_read_inactive (active_resetClient slot _)]
    · exact ih (by rw [hslots.2.1, hactive])

private theorem serveClient_eq (reads : ℕ → List Bytes) (v : TCPStateServer L N) (slot : ℕ) :
    v.serveClient reads slot = run step v
      (.inspect slot :: (reads slot).map fun chunk => (.read slot chunk : Action L)) := by
  rw [run_cons]
  change _ = run step (v.inspectClient slot) _
  unfold serveClient inspectClient
  dsimp only
  split_ifs with hactive
  · rw [run_read_inactive (by simpa using hactive)]
  · rw [run_read_inactive (active_resetClient slot _)]
  · exact readAll_eq (v := (v.queryClient slot).2)
      (by simpa using hactive : v.clients.active slot = true) _

/-- A worker iteration is a run. -/
theorem onWorkerIteration_eq (incoming observed : Bool) (reads : ℕ → List Bytes)
    (v : TCPStateServer L N) : v.onWorkerIteration incoming observed reads =
      run step v (iteration v.config.maximumClients incoming observed reads) := by
  rw [iteration, run_cons, onWorkerIteration]
  change _ = run step (v.acceptClientLocked incoming observed) _
  generalize v.acceptClientLocked incoming observed = w
  induction List.range v.config.maximumClients generalizing w with
  | nil => rfl
  | cons slot slots ih =>
    rw [List.foldl_cons, ih, List.flatMap_cons, run_append, ← serveClient_eq]

/-- As long as no connection of a device ends or says goodbye while another one of the same device
is open, a device whose connection is open is connected for everybody. -/
theorem availability_shared (w : N.World) (store : Store L) (maxTCPClients : ℕ)
    (actions : List (Action L)) :
    let v := run step { clients := { world := w }, store, maxTCPClients } actions
    Orderly (moves v.log) → ∀ slot, v.clients.active slot = true →
      ∀ d, (v.session slot).remoteDevice = d → d ≠ L.zero →
        (v.clients.client slot, .left d) ∉ v.log → lastAvailability d v.log = some .connected := by
  intro v horderly slot _ d hdevice hzero hleft
  have hkept : v.Kept := run_induction (P := Kept) (fun v a h => h.step a)
    (.initial w store maxTCPClients) actions
  have hpeer : (v.session slot).peer = some d := by
    rw [SocketStateSession.peer, hdevice, if_neg hzero]
  have hopen : Open (v.clients.client slot) d (moves v.log) :=
    ⟨(hkept.peer slot).symm.trans hpeer, fun h => hleft (mem_left_of_moves h)⟩
  rw [hkept.log, lastAvailability_entries, horderly.last_flag hopen]
  rfl

end TCPStateServer
end Sockets.State

namespace Sockets.State.TCPStateServer
open Foundation Transport Sockets.Frame

section Table

attribute [local instance] SizeWidth.host

/-- Connections that take everything; the first is lost after one look at a connection. -/
@[reducible] def fadingNetwork : Network where
  World := ℕ
  connected connection w := (decide (connection ≠ 1 ∨ w = 0), w + 1)
  write _ data w := (data.length, w)
  write_le _ _ _ := le_rfl
  stop _ w := w

def sharedServer : TCPStateServer tableLibrary fadingNetwork :=
  { clients := { world := (0 : ℕ) }, store := plainStore 1 none, maxTCPClients := 8 }

/-- Device 5 asks for everything it has subscribed to. -/
def hello : Bytes := preamble .resynchronize 5 0

/-- The session in a slot handles one message. -/
def hearClient (slot : ℕ) (payload : Bytes) (v : TCPStateServer tableLibrary fadingNetwork) :
    TCPStateServer tableLibrary fadingNetwork :=
  let r := (v.session slot).handleProtocolMessage payload v.outside
  let v' := v.putSession slot ({ r.2.1 with decoder := (v.session slot).decoder }, r.2.2)
  if !r.1 then v'.resetClient slot else v'

private theorem readClient_hello (slot : ℕ) (v : TCPStateServer tableLibrary fadingNetwork)
    (h : v.clients.active slot = true ∧ (v.session slot).initialized = true ∧
      (v.session slot).decoder.buffer = [] ∧
      (v.session slot).decoder.maximumPayloadBytes.val = 4096) :
    v.step (.read slot (encodeFrame stateMagic hello)) = v.hearClient slot hello := by
  obtain ⟨hactive, hinitialized, hbuffer, hmaximum⟩ := h
  have hfits : Fits 4096 hello := ⟨by decide, by decide, by decide⟩
  have hfeed := SocketStateSession.feed_frame hinitialized hbuffer (by rw [hmaximum]; decide)
    (hmaximum ▸ hfits) v.outside
  change v.readClient slot _ = _
  simp only [readClient, hactive, feedClient, hfeed]
  rfl

/-- A connection is accepted, and device 5 is on it. -/
def connecting : List (Action tableLibrary) :=
  [.startServer { port := 2333, maximumClients := 2 } true, .accept true true,
    .read 0 (encodeFrame stateMagic hello)]

def greetedServer : TCPStateServer tableLibrary fadingNetwork :=
  hearClient 0 hello (run step sharedServer
    [.startServer { port := 2333, maximumClients := 2 } true, .accept true true])

private theorem run_connecting (actions : List (Action tableLibrary)) :
    run step sharedServer (connecting ++ actions) = run step greetedServer actions := by
  have hheard := readClient_hello 0 (run step sharedServer
    [.startServer { port := 2333, maximumClients := 2 } true, .accept true true])
    (by decide +kernel)
  rw [run_append]
  exact congrArg (fun v => run step v actions) hheard

/-- The device comes back before its first connection is found dead. -/
def reconnecting : List (Action tableLibrary) :=
  [.accept true true, .read 1 (encodeFrame stateMagic hello), .inspect 0]

theorem departed_too_late :
    let v := run step sharedServer (connecting ++ reconnecting)
    v.clients.active 1 = true ∧ (v.session 1).remoteDevice = (5 : UInt8) ∧
      (v.clients.client 1, .left (5 : UInt8)) ∉ v.log ∧
      lastAvailability (L := tableLibrary) (5 : UInt8) v.log = some .disconnected := by
  have hheard := readClient_hello 1 (greetedServer.step (.accept true true)) (by decide +kernel)
  rw [run_connecting, reconnecting, run_cons, run_cons, hheard]
  decide +kernel

/-- The device comes back after its first connection was found dead. -/
def returning : List (Action tableLibrary) :=
  [.inspect 0, .inspect 0, .accept true true, .read 0 (encodeFrame stateMagic hello)]

private theorem returning_eq : ∃ v : TCPStateServer tableLibrary fadingNetwork,
    run step sharedServer (connecting ++ returning) = v ∧ v.clients.active 0 = true ∧
      (v.session 0).remoteDevice = (5 : UInt8) ∧ (v.clients.client 0, .left (5 : UInt8)) ∉ v.log ∧
      moves v.log = [(1, .bound (5 : UInt8)), (1, .closed 5), (2, .bound 5)] := by
  have hheard := readClient_hello 0 (run step greetedServer
    [.inspect 0, .inspect 0, .accept true true]) (by decide +kernel)
  refine ⟨_, (run_connecting returning).trans hheard, ?_⟩
  decide +kernel

theorem availability_shared_returning :
    lastAvailability (L := tableLibrary) (5 : UInt8)
      (run step sharedServer (connecting ++ returning)).log = some .connected := by
  obtain ⟨v, rfl, hactive, hdevice, hleft, hmoves⟩ := returning_eq
  have horderly : Orderly (moves (run step sharedServer (connecting ++ returning)).log) := by
    rw [hmoves]
    refine .cons ?_ (.cons ?_ (.singleton ?_))
    · intro d hflag
      simp [Move.flag] at hflag
    · intro d _ c hc hopen
      simp [Open, own, nameAfter, hc.symm] at hopen
    · intro d hflag
      simp [Move.flag] at hflag
  have hshared := availability_shared (N := fadingNetwork) (0 : ℕ) (plainStore 1 none) 8
    (connecting ++ returning)
  change let v := run step sharedServer (connecting ++ returning)
    Orderly (moves v.log) → ∀ slot, v.clients.active slot = true → ∀ d : UInt8,
      (v.session slot).remoteDevice = d → d ≠ 0 → (v.clients.client slot, .left d) ∉ v.log →
        lastAvailability (L := tableLibrary) d v.log = some .connected at hshared
  exact hshared horderly 0 hactive 5 hdevice (by decide) hleft

end Table
end Sockets.State.TCPStateServer
