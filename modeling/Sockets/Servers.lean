import Sockets.Command.Effects
import Sockets.Command.RoundTrip
import Sockets.Command.Server
import Sockets.Foundation.Run
import Sockets.State.Client
import Sockets.State.Effects
import Sockets.State.Laws
import Sockets.Transport.WholeFrames

/-! What the three TCP endpoints leave on their connections. -/
namespace Sockets
open Foundation Transport

section Command
open Command
variable {Value : Type} [CommandLibrary Value] {T : TCPCommandHost Value} [SizeWidth]

omit [SizeWidth] in
private theorem guarded_sessions :
    Command.Preserves T.sessions fun x : Clients T.net => Guarded IsResponse x.wire where
  policy _ _ _ h := h
  invoke _ _ _ h := h
  invokeLine _ _ _ h := h
  observe _ _ _ _ h := h
  write slot bytes x hbytes h := by
    change Guarded IsResponse (writeToClient slot bytes x).2.wire
    unfold writeToClient
    split_ifs
    · exact h
    · exact h.sendWhole slot hbytes

namespace Command.TCPCommandServer

def WireGuarded (v : TCPCommandServer T) : Prop := Guarded IsResponse v.clients.wire

theorem WireGuarded.resetClient {v : TCPCommandServer T} (h : v.WireGuarded) (slot : ℕ) :
    (v.resetClient slot).WireGuarded := h

theorem WireGuarded.readClient {v : TCPCommandServer T} (h : v.WireGuarded) (slot : ℕ)
    (chunks : List Bytes) : (v.readClient slot chunks).WireGuarded := by
  induction chunks generalizing v with
  | nil => exact h
  | cons chunk chunks ih =>
    have hfed : (v.feedClient slot chunk).2.WireGuarded :=
      SocketCommandSession.feed_preserves guarded_sessions chunk (v.session slot)
        (x := { world := v.clients }) h
    unfold TCPCommandServer.readClient
    dsimp only
    split_ifs
    · exact hfed.resetClient slot
    · exact ih hfed

theorem WireGuarded.serveClient {v : TCPCommandServer T} (h : v.WireGuarded)
    (reads : ℕ → List Bytes) (slot : ℕ) : (v.serveClient reads slot).WireGuarded := by
  have hquery : Guarded IsResponse (v.clients.connected slot).2.wire := Guarded.connected h slot
  unfold TCPCommandServer.serveClient
  dsimp only
  split_ifs
  · exact h
  · exact WireGuarded.resetClient (v := { v with clients := _ }) hquery slot
  · exact WireGuarded.readClient (v := { v with clients := _ }) hquery slot _

theorem WireGuarded.admitClient {v : TCPCommandServer T} (h : v.WireGuarded)
    (registry : T.Registry) (incoming : Incoming) (slot : ℕ) :
    (v.admitClient registry incoming slot).WireGuarded := by
  unfold TCPCommandServer.admitClient
  dsimp only
  split_ifs <;> exact h

theorem WireGuarded.place {v : TCPCommandServer T} (h : v.WireGuarded) (registry : T.Registry)
    (incoming : Incoming) (slots : List ℕ) : (v.place registry incoming slots).WireGuarded := by
  induction slots generalizing v with
  | nil => exact h
  | cons slot slots ih =>
    have hquery : Guarded IsResponse
        (if v.clients.active slot then v.clients.connected slot else (false, v.clients)).2.wire := by
      split_ifs
      · exact Guarded.connected h slot
      · exact h
    unfold TCPCommandServer.place
    dsimp only
    generalize (if v.clients.active slot then v.clients.connected slot
      else (false, v.clients)) = q at hquery ⊢
    split_ifs
    · exact ih (v := { v with clients := _ }) hquery
    · exact WireGuarded.admitClient (v := { v with clients := _ }) hquery registry incoming slot

theorem WireGuarded.step {v : TCPCommandServer T} (h : v.WireGuarded) (a : Action T) :
    (v.step a).WireGuarded := by
  cases a with
  | startServer config registry started =>
    change WireGuarded (v.initializeWith config registry started)
    unfold initializeWith
    split_ifs <;> exact h
  | shutdown =>
    change WireGuarded v.shutdown
    unfold shutdown
    split_ifs
    · exact h
    · exact List.foldlRecOn (motive := WireGuarded) (List.range T.maxTCPClients) _ h
        fun v hv slot _ => hv.resetClient slot
  | setPolicy policy => exact h
  | setResultObserver observer => exact h
  | onWorkerIteration i =>
    have haccept : (v.acceptClientLocked i.incoming).WireGuarded := by
      unfold acceptClientLocked
      split
      · split_ifs
        · exact h
        · exact h.place _ _ _
      · exact h
    change WireGuarded (v.onWorkerIteration i)
    unfold TCPCommandServer.onWorkerIteration
    split_ifs
    · exact h
    · exact List.foldlRecOn (motive := WireGuarded) (List.range _) _ haccept
        fun v hv slot _ => hv.serveClient i.reads slot

theorem WireGuarded.run {v : TCPCommandServer T} (h : v.WireGuarded)
    (actions : List (Action T)) : (Foundation.run TCPCommandServer.step v actions).WireGuarded :=
  run_induction (P := WireGuarded) (fun _ a h => h.step a) h actions

end Command.TCPCommandServer
end Command

section State
open State
variable {L : StateLibrary} {N : Network} [SizeWidth]

private theorem guarded_slots :
    State.Preserves (slotHost L N) fun x : Clients N => Guarded IsStateFrame x.wire where
  send slot _ _ hframe h := h.sendWhole slot hframe
  peerBound handler := handler.elim
  acknowledged handler := handler.elim

namespace State.TCPStateServer

def WireGuarded (v : TCPStateServer L N) : Prop := Guarded IsStateFrame v.clients.wire

theorem WireGuarded.resetClient {v : TCPStateServer L N} (h : v.WireGuarded) (slot : ℕ) :
    (v.resetClient slot).WireGuarded :=
  SocketStateSession.shutdownLocked_preserves guarded_slots.toSustains true _ (x := v.outside) h

theorem WireGuarded.startSession {v : TCPStateServer L N} (h : v.WireGuarded) (observed : Bool)
    (slot : ℕ) : (v.startSession observed slot).2.WireGuarded :=
  SocketStateSession.initializeWith_preserves guarded_slots.toSustains _ _ observed _ (x := v.outside) h

theorem WireGuarded.admitClient {v : TCPStateServer L N} (h : v.WireGuarded) (observed : Bool)
    (slot : ℕ) : (v.admitClient observed slot).WireGuarded := by
  have hassigned : ((v.resetClient slot).assignClient slot).WireGuarded := h.resetClient slot
  unfold TCPStateServer.admitClient
  dsimp only
  split_ifs
  · exact (hassigned.startSession observed slot).resetClient slot
  · exact hassigned.startSession observed slot

theorem WireGuarded.place {v : TCPStateServer L N} (h : v.WireGuarded) (observed : Bool)
    (slots : List ℕ) : (v.place observed slots).WireGuarded := by
  induction slots generalizing v with
  | nil => exact h
  | cons slot slots ih =>
    have hquery :
        (if v.clients.active slot then v.queryClient slot else (false, v)).2.WireGuarded := by
      split_ifs
      · exact Guarded.connected h slot
      · exact h
    unfold TCPStateServer.place
    dsimp only
    generalize (if v.clients.active slot then v.queryClient slot else (false, v)) = q at hquery ⊢
    split_ifs
    · exact ih hquery
    · exact hquery.admitClient observed slot

theorem WireGuarded.notifySession {v : TCPStateServer L N} (h : v.WireGuarded) (slot : ℕ)
    {f : SocketStateSession (slotHost L N) → Exterior (slotHost L N) → Exterior (slotHost L N)}
    (hf : Guarded IsStateFrame (f (v.session slot) v.outside).world.wire) :
    (v.notifySession slot f).WireGuarded := by
  unfold TCPStateServer.notifySession
  split_ifs
  · exact h
  · exact hf

theorem WireGuarded.step {v : TCPStateServer L N} (h : v.WireGuarded) (a : Action L) :
    (v.step a).WireGuarded := by
  cases a with
  | startServer config started =>
    change WireGuarded (v.initializeWith config started)
    unfold initializeWith
    split_ifs <;> exact h
  | shutdown =>
    change WireGuarded v.shutdown
    unfold shutdown
    split_ifs
    · exact h
    · exact List.foldlRecOn (motive := WireGuarded) (List.range v.maxTCPClients) _ h
        fun v hv slot _ => hv.resetClient slot
  | accept incoming observed =>
    change WireGuarded (v.acceptClientLocked incoming observed)
    unfold acceptClientLocked
    split_ifs
    · exact h
    · exact h.place _ _
  | inspect slot =>
    have hquery : (v.queryClient slot).2.WireGuarded := Guarded.connected h slot
    change WireGuarded (v.inspectClient slot)
    unfold inspectClient
    dsimp only
    split_ifs
    · exact h
    · exact hquery.resetClient slot
    · exact hquery
  | read slot chunk =>
    have hfed : (v.feedClient slot chunk).2.WireGuarded :=
      SocketStateSession.feed_preserves guarded_slots chunk _ (x := v.outside) h
    change WireGuarded (v.readClient slot chunk)
    unfold readClient
    dsimp only
    split_ifs
    · exact h
    · exact hfed.resetClient slot
    · exact hfed
  | changed publisher subscriptions => exact h
  | published slot typeId update =>
    exact h.notifySession slot
      (SocketStateSession.onTypedStatePublished_preserves guarded_slots.toSustains _ _ _
        (x := v.outside) h)
  | subscribed slot d =>
    exact h.notifySession slot
      (SocketStateSession.onStateSubscribed_preserves guarded_slots.toSustains d _
        (x := v.outside) h)
  | unsubscribed slot d =>
    exact h.notifySession slot
      (SocketStateSession.onStateUnsubscribed_preserves guarded_slots.toSustains d _
        (x := v.outside) h)

theorem WireGuarded.run {v : TCPStateServer L N} (h : v.WireGuarded)
    (actions : List (Action L)) : (Foundation.run TCPStateServer.step v actions).WireGuarded :=
  run_induction (P := WireGuarded) (fun _ a h => h.step a) h actions

end State.TCPStateServer

namespace State.TCPStateClient

def WireGuarded (v : TCPStateClient L N) : Prop := Guarded IsStateFrame v.clients.wire

theorem WireGuarded.disconnectLocked {v : TCPStateClient L N} (h : v.WireGuarded) :
    v.disconnectLocked.WireGuarded :=
  SocketStateSession.shutdownLocked_preserves guarded_slots.toSustains true v.session (x := v.outside) h

theorem WireGuarded.queryClient {v : TCPStateClient L N} (h : v.WireGuarded) :
    v.queryClient.2.WireGuarded := Guarded.connected h 0

theorem WireGuarded.startSession {v : TCPStateClient L N} (h : v.WireGuarded) (observed : Bool) :
    (v.startSession observed).2.WireGuarded :=
  SocketStateSession.initializeWith_preserves guarded_slots.toSustains _ _ observed _
    (x := { store := v.store, world := v.clients.assign 0 }) h

theorem WireGuarded.ensureConnectedLocked {v : TCPStateClient L N} (h : v.WireGuarded)
    (now : UInt32) (connects observed : Bool) :
    (v.ensureConnectedLocked now connects observed).2.WireGuarded := by
  have hlost : WireGuarded { v.queryClient.2 with lastConnectAttempt := now }.disconnectLocked :=
    WireGuarded.disconnectLocked (v := { v.queryClient.2 with lastConnectAttempt := now })
      h.queryClient
  unfold TCPStateClient.ensureConnectedLocked
  dsimp only
  split_ifs
  · exact h.queryClient
  · exact h.queryClient
  · exact h.queryClient
  · exact hlost
  · exact hlost.startSession observed
  · exact hlost.startSession observed

theorem WireGuarded.callSession {v : TCPStateClient L N}
    {f : SocketStateSession (slotHost L N) → Exterior (slotHost L N) → Exterior (slotHost L N)}
    (hf : Guarded IsStateFrame (f v.session v.outside).world.wire) :
    (v.callSession f).WireGuarded := hf

theorem WireGuarded.step {v : TCPStateClient L N} (h : v.WireGuarded) (a : Action L) :
    (v.step a).WireGuarded := by
  cases a with
  | startClient config started =>
    change WireGuarded (v.initializeWith config started)
    unfold initializeWith
    split_ifs <;> exact h
  | shutdown =>
    change WireGuarded v.shutdown
    unfold shutdown
    split_ifs
    · exact h
    · exact h.disconnectLocked
  | ensureConnected now connects observed => exact h.ensureConnectedLocked now connects observed
  | read chunk =>
    have hfed : (v.feedSession chunk).2.WireGuarded :=
      SocketStateSession.feed_preserves guarded_slots chunk _ (x := v.outside) h
    change WireGuarded (v.readClient chunk)
    unfold readClient
    dsimp only
    split_ifs
    · exact h
    · exact hfed.disconnectLocked
    · exact hfed
  | inspect =>
    change WireGuarded v.inspectClient
    unfold inspectClient
    dsimp only
    split_ifs
    · exact h.queryClient.disconnectLocked
    · exact h.queryClient
  | requestResynchronization typeId =>
    exact WireGuarded.callSession
      (SocketStateSession.requestResynchronization_preserves guarded_slots.toSustains _ _
        (x := v.outside) h)
  | changed publisher subscriptions => exact h
  | published typeId update =>
    change WireGuarded (if !v.session.registered then v else _)
    split_ifs
    · exact h
    · exact WireGuarded.callSession
        (SocketStateSession.onTypedStatePublished_preserves guarded_slots.toSustains _ _ _
          (x := v.outside) h)
  | subscribed d =>
    change WireGuarded (if !v.session.registered then v else _)
    split_ifs
    · exact h
    · exact WireGuarded.callSession
        (SocketStateSession.onStateSubscribed_preserves guarded_slots.toSustains d _
          (x := v.outside) h)
  | unsubscribed d =>
    change WireGuarded (if !v.session.registered then v else _)
    split_ifs
    · exact h
    · exact WireGuarded.callSession
        (SocketStateSession.onStateUnsubscribed_preserves guarded_slots.toSustains d _
          (x := v.outside) h)

theorem WireGuarded.run {v : TCPStateClient L N} (h : v.WireGuarded)
    (actions : List (Action L)) : (Foundation.run TCPStateClient.step v actions).WireGuarded :=
  run_induction (P := WireGuarded) (fun _ a h => h.step a) h actions

end State.TCPStateClient
end State

/-- As long as no client that cut a frame short answers again that it is connected, every connection
of the three endpoints has whole frames at all times, and one truncated frame at the end at most. -/
theorem whole_frames [SizeWidth] :
    (∀ (Value : Type) [Command.CommandLibrary Value] (T : Command.TCPCommandHost Value)
      (w : T.net.World) (actions : List (Command.TCPCommandServer.Action T)),
      let wire := (run Command.TCPCommandServer.step { clients := { world := w } }
        actions).clients.wire
      Drops wire → ∀ connection, WholeFrames Command.IsResponse connection wire) ∧
    ∀ (L : State.StateLibrary) (N : Network) (w : N.World) (store : State.Store L),
      (∀ (maxTCPClients : ℕ) (actions : List (State.TCPStateServer.Action L)),
        let wire := (run State.TCPStateServer.step
          { clients := { world := w }, store, maxTCPClients } actions).clients.wire
        Drops wire → ∀ connection, WholeFrames State.IsStateFrame connection wire) ∧
      ∀ actions : List (State.TCPStateClient.Action L),
        let wire := (run State.TCPStateClient.step { clients := { world := w }, store }
          actions).clients.wire
        Drops wire → ∀ connection, WholeFrames State.IsStateFrame connection wire := by
  refine ⟨fun Value _ T w actions => ?_, fun L N w store => ⟨fun maxTCPClients actions => ?_,
    fun actions => ?_⟩⟩
  · exact wholeFrames_of_drops (Command.TCPCommandServer.WireGuarded.run
      (v := { clients := { world := w } }) Throughout.nil actions)
  · exact wholeFrames_of_drops (State.TCPStateServer.WireGuarded.run
      (v := { clients := { world := w }, store, maxTCPClients }) Throughout.nil actions)
  · exact wholeFrames_of_drops (State.TCPStateClient.WireGuarded.run
      (v := { clients := { world := w }, store }) Throughout.nil actions)

end Sockets

namespace Sockets
open Foundation Transport Command State

section Cut

attribute [local instance] scalarLibrary SizeWidth.host

/-- Clients that stay connected whatever they take: three bytes of the first write, nothing of the
second, and all of every other. -/
@[reducible] def cuttingNetwork : Network where
  World := ℕ
  connected _ w := (true, w)
  write _ data w := (if w = 0 then min 3 data.length else if w = 1 then 0 else data.length, w + 1)
  write_le _ data w := by
    dsimp only
    split_ifs <;> omega
  stop _ w := w

@[reducible] def cuttingHost : TCPCommandHost ScalarValue where
  net := cuttingNetwork
  Registry := Unit
  Policy := Empty
  Observer := Empty
  tokenize line := ([line], [])
  invoke _ _ w := ({}, w)
  invokeLine _ _ w := ({}, w)
  policy p := p.elim
  observe o := o.elim

/-- A server of request lines before its first action. -/
def freshServer : TCPCommandServer cuttingHost := { clients := { world := (0 : ℕ) } }

/-- It is started, and takes one connection. -/
def acceptLine : List (TCPCommandServer.Action cuttingHost) :=
  [.startServer { port := 2323, maximumClients := 1, session := { maximumRequestBytes := 64 } } ()
      true,
    .onWorkerIteration { incoming := some ⟨[], 1⟩ }]

/-- The worker reads these bytes. -/
def readBytes (data : Bytes) : TCPCommandServer.Action cuttingHost :=
  .onWorkerIteration { reads := fun _ => [data] }

private theorem readBytes_wire (data : Bytes) :
    (run TCPCommandServer.step freshServer (acceptLine ++ [readBytes data])).clients.wire =
      let v := run TCPCommandServer.step freshServer acceptLine
      ((v.session 0).feed data { world := (v.clients.connected 0).2 }).2.2.world.wire := by
  rw [run_append]
  change ((run TCPCommandServer.step freshServer acceptLine).onWorkerIteration _).clients.wire = _
  rw [TCPCommandServer.onWorkerIteration_single rfl rfl rfl,
    (TCPCommandServer.serveClient_single rfl rfl data).2]

def anySource : Descriptor UInt8 := { typeId := 1, scope := .anyDevice, device := 0 }

/-- A server with one connection, and a client with its connection, announce a subscription. -/
def serverAnnounces : List (TCPStateServer.Action tableLibrary) :=
  [.startServer { port := 2333, maximumClients := 1 } true, .accept true true,
    .subscribed 0 anySource]

def clientAnnounces : List (TCPStateClient.Action tableLibrary) :=
  [.startClient { host := [104], port := 2333 } true, .ensureConnected 5000 true true,
    .subscribed anySource]

/-- What is cut short at the very end leaves nothing to be dropped. -/
private theorem drops_last (before : List WireEvent) (c : ℕ) (frame : Bytes) (accepted : ℕ)
    (h : ∀ e ∈ before, ∀ c, ¬ CutShort c e) : Drops (before ++ [.sent c frame accepted]) := by
  refine Throughout.append (fun older e newer hlog c hcut => ?_) (.singleton (by simp)) ?_
  · exact absurd hcut (h e (by simp [hlog]) c)
  · intro older e newer hdrops c hcut
    simpa using hdrops c hcut

private theorem not_cutShort_connected (c c' : ℕ) (answer : Bool) :
    ¬ CutShort c (.connected c' answer) := by
  rintro ⟨frame, accepted, he, -⟩
  cases he

theorem whole_frames_announced :
    (∀ connection, WholeFrames IsResponse connection (run TCPCommandServer.step
      ({ clients := { world := (0 : ℕ) } } : TCPCommandServer cuttingHost)
      (acceptLine ++ [readBytes (text "status" ++ [lf])])).clients.wire) ∧
    (∀ connection, WholeFrames IsStateFrame connection (run TCPStateServer.step
      ({ clients := { world := (0 : ℕ) }, store := plainStore 1 none, maxTCPClients := 8 } :
        TCPStateServer tableLibrary cuttingNetwork) serverAnnounces).clients.wire) ∧
    ∀ connection, WholeFrames IsStateFrame connection (run TCPStateClient.step
      ({ clients := { world := (0 : ℕ) }, store := plainStore 1 none } :
        TCPStateClient tableLibrary cuttingNetwork) clientAnnounces).clients.wire := by
  obtain ⟨hcommand, hstate⟩ := whole_frames
  obtain ⟨hserver, hclient⟩ := hstate tableLibrary cuttingNetwork (0 : ℕ) (plainStore 1 none)
  refine ⟨hcommand _ cuttingHost (0 : ℕ) (acceptLine ++ [readBytes _]) ?_,
    hserver 8 serverAnnounces ?_, hclient clientAnnounces ?_⟩
  · change Drops (run TCPCommandServer.step freshServer _).clients.wire
    rw [readBytes_wire]
    exact drops_last [.connected 1 true, .connected 1 true, .connected 1 true] _ _ _
      (by simp [not_cutShort_connected])
  · exact drops_last [.connected 1 true] _ _ _ (by simp [not_cutShort_connected])
  · exact drops_last [.connected 0 true, .connected 1 true] _ _ _
      (by simp [not_cutShort_connected])

/-- The first response is cut short after three bytes, and the second one follows. -/
private theorem two_lines_wire :
    (run TCPCommandServer.step freshServer
      (acceptLine ++ [readBytes [0x61, lf, 0x62, lf]])).clients.wire =
      [.connected 1 true, .connected 1 true, .connected 1 true] ++
        .sent 1 (lineResponse {}) 3 ::
          [.connected 1 true, .sent 1 (lineResponse {}) (lineResponse {}).length] := by
  have hlength : 3 < (lineResponse {}).length := by
    simp [lineResponse, text]
  have hne : lineResponse {} ≠ [] := List.ne_nil_of_length_pos (by omega)
  have hcut : writeAll cuttingNetwork 1 (lineResponse {}) (0 : ℕ) = ((false, 3), (2 : ℕ)) := by
    have hthree : cuttingNetwork.write 1 (lineResponse {}) (0 : ℕ) = (3, (1 : ℕ)) := by
      change (min 3 (lineResponse {}).length, 1) = (3, 1)
      rw [min_eq_left hlength.le]
    have hdrop : (lineResponse {}).drop 3 ≠ [] := by simp [hlength]
    rw [writeAll_some hne hthree (by omega), writeAll_zero hdrop rfl]
    rfl
  have hwhole : writeAll cuttingNetwork 1 (lineResponse {}) (2 : ℕ) =
      ((true, (lineResponse {}).length), (3 : ℕ)) := by
    have hall : cuttingNetwork.write 1 (lineResponse {}) (2 : ℕ) =
        ((lineResponse {}).length, (3 : ℕ)) := rfl
    rw [writeAll_some hne hall (by omega), List.drop_length, writeAll_nil]
    rfl
  have hwire : (run TCPCommandServer.step freshServer
      (acceptLine ++ [readBytes [0x61, lf, 0x62, lf]])).clients.wire =
      [.connected 1 true, .connected 1 true, .connected 1 true, .sent 1 (lineResponse {})
        (writeAll cuttingNetwork 1 (lineResponse {}) (0 : ℕ)).1.2, .connected 1 true,
        .sent 1 (lineResponse {}) (writeAll cuttingNetwork 1 (lineResponse {})
          (writeAll cuttingNetwork 1 (lineResponse {}) (0 : ℕ)).2).1.2] := by
    rw [readBytes_wire]
    rfl
  rw [hwire, hcut, hwhole]
  rfl

theorem response_after_cut :
    ¬ WholeFrames IsResponse 1 (run TCPCommandServer.step freshServer
      (acceptLine ++ [readBytes [0x61, lf, 0x62, lf]])).clients.wire := by
  intro h
  have hlength : 3 < (lineResponse {}).length := by
    simp [lineResponse, text]
  have hsilent := h.silent _ _ _ two_lines_wire ⟨_, 3, rfl, by omega, hlength⟩
  have hbytes : bytesOn 1 [.connected 1 true, .sent 1 (lineResponse {}) (lineResponse {}).length] =
      lineResponse {} := by
    simp [bytesOn]
  rw [hbytes] at hsilent
  simp [hsilent] at hlength

end Cut
end Sockets
