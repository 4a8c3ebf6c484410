import Sockets.Command.Effects
import Sockets.Command.Gate
import Sockets.Command.Pipeline
import Sockets.Command.Server
import Sockets.Foundation.Run

/-! The policy of a server stands in front of every command, on every connection and in every slot,
however often slots are reused and policies replaced. -/
namespace Sockets.Command
open Foundation Transport

section
variable {Value : Type} [CommandLibrary Value] {T : TCPCommandHost Value}

/-- The policy set last; none before the first call of `SetPolicy`. -/
def currentPolicy (log : List (ServerEvent T)) : Option T.Policy :=
  log.foldl (fun
    | _, .policySet policy => policy
    | current, _ => current) none

/-- The terms on which a session serves a peer. -/
def peerTerms (policy : Option T.Policy) (peer : Peer) : Terms T.sessions where
  policy := policy
  writer := peer.slot
  mode := peer.mode
  sessionID := peer.sessionID
  remoteAddress := peer.incoming.remoteIP
  remotePort := peer.incoming.remotePort

/-- The gate of a connection's session, on the log of the server. -/
def PolicyGateAt (before : List (ServerEvent T)) (e : ServerEvent T)
    (after : List (ServerEvent T)) : Prop :=
  ∀ connection call, e = .session connection call → ∃ peer, .accepted connection peer ∈ before ∧
    (call.IsCall → ∀ policy ∈ currentPolicy before, ∃ before' context result,
      before = before' ++ [.session connection (.policyCalled policy context result)] ∧
        result.success = true ∧ (peerTerms none peer : Terms T.sessions).Shown context.metadata ∧
        Executes context call) ∧
    ∀ policy context result, call = .policyCalled policy context result →
      result.success = false → ∃ observed tail rest,
        after = (observed ++ (tail ++ [.handled])).map (.session connection) ++ rest ∧
          Observed context result observed ∧
          Written (H := T.sessions) peer.slot
            ((peerTerms none peer : Terms T.sessions).answer context result) tail

theorem currentPolicy_append_sessions (log : List (ServerEvent T)) (connection : ℕ)
    (calls : List (CommandEvent T.sessions)) :
    currentPolicy (log ++ calls.map (.session connection)) = currentPolicy log := by
  rw [currentPolicy, List.foldl_append, List.foldl_map]
  induction calls with
  | nil => rfl
  | cons call calls ih => exact ih

theorem currentPolicy_append_accepted (log : List (ServerEvent T)) (connection : ℕ) (peer : Peer) :
    currentPolicy (log ++ [.accepted connection peer]) = currentPolicy log := by
  rw [currentPolicy, List.foldl_append]
  rfl

theorem currentPolicy_append_policySet (log : List (ServerEvent T)) (policy : Option T.Policy) :
    currentPolicy (log ++ [.policySet policy]) = policy := by
  rw [currentPolicy, List.foldl_append]
  rfl

theorem PolicyGateAt.extend {before after : List (ServerEvent T)} {e : ServerEvent T}
    (h : PolicyGateAt before e after) (newer : List (ServerEvent T)) :
    PolicyGateAt before e (after ++ newer) := by
  intro connection call he
  obtain ⟨peer, hpeer, hgate, hrefused⟩ := h connection call he
  refine ⟨peer, hpeer, hgate, fun policy context result hcall hfail => ?_⟩
  obtain ⟨observed, tail, rest, rfl, hrest⟩ := hrefused policy context result hcall hfail
  exact ⟨observed, tail, rest ++ newer, by simp, hrest⟩

/-- An event that is no session's keeps the gate. -/
theorem gate_append_event {log : List (ServerEvent T)} (h : Throughout PolicyGateAt log)
    {e : ServerEvent T} (he : ∀ connection call, e ≠ .session connection call) :
    Throughout PolicyGateAt (log ++ [e]) :=
  h.append (.singleton fun connection call hcall => absurd hcall (he connection call))
    fun h => h.extend [e]

/-- What a session logs keeps the gate, when the session works on the terms of the server. -/
theorem gate_append_sessions {log : List (ServerEvent T)} (h : Throughout PolicyGateAt log)
    {connection : ℕ} {peer : Peer} (hpeer : .accepted connection peer ∈ log)
    {calls : List (CommandEvent T.sessions)}
    (hcalls : Throughout (peerTerms (currentPolicy log) peer).GateAt calls) :
    Throughout PolicyGateAt (log ++ calls.map (.session connection)) := by
  refine h.append (Throughout.map (hcalls.mono fun {before e after} hgate => ?_))
    fun h => h.extend _
  rintro _ _ ⟨rfl, rfl⟩
  refine ⟨peer, by simp [hpeer], fun hcall policy hpolicy => ?_,
    fun policy context result hcall hfail => ?_⟩
  · rw [currentPolicy_append_sessions] at hpolicy
    obtain ⟨before', context, result, rfl, hrest⟩ := hgate.1 hcall policy hpolicy
    exact ⟨log ++ before'.map (.session connection), context, result, by simp, hrest⟩
  · obtain ⟨observed, tail, rest, rfl, hobserved, hwritten⟩ :=
      hgate.2 policy context result hcall hfail
    exact ⟨observed, tail, rest.map (.session connection), by simp, hobserved, hwritten⟩

variable [SizeWidth]

/-- What holds of a server between its operations. -/
structure TCPCommandServer.Inv (v : TCPCommandServer T) : Prop where
  policy : v.policy = currentPolicy v.log
  active : ∀ slot, v.clients.active slot = true → ∃ peer,
    .accepted (v.clients.client slot) peer ∈ v.log ∧ peer.slot = slot ∧
      (peerTerms v.policy peer).Holds (v.session slot)
  numbered : ∀ connection peer, .accepted connection peer ∈ v.log →
    connection ≤ v.clients.connections
  unique : ∀ connection peer peer', .accepted connection peer ∈ v.log →
    .accepted connection peer' ∈ v.log → peer = peer'
  gate : Throughout PolicyGateAt v.log

namespace TCPCommandServer
open Clients

theorem inv_start (world : T.net.World) : Inv { clients := { world } : TCPCommandServer T } where
  policy := rfl
  active _ h := absurd h (by simp)
  numbered := by simp
  unique := by simp
  gate := .nil

theorem Inv.resetClient {v : TCPCommandServer T} (h : v.Inv) (slot : ℕ) :
    (v.resetClient slot).Inv where
  policy := h.policy
  active slot' hactive := by
    by_cases hs : slot' = slot
    · simp [TCPCommandServer.resetClient, setActive, hs] at hactive
    · have hactive' : v.clients.active slot' = true := by
        simpa [TCPCommandServer.resetClient, setActive, Clients.stop, updateSession,
          Function.update_of_ne hs] using hactive
      have hsession : (v.resetClient slot).session slot' = v.session slot' := by
        simp [TCPCommandServer.resetClient, updateSession, Function.update_of_ne hs]
      rw [hsession]
      exact h.active slot' hactive'
  numbered := h.numbered
  unique := h.unique
  gate := h.gate

/-- The network may move on between the operations on the slots. -/
theorem Inv.clients {v : TCPCommandServer T} (h : v.Inv) {x : Clients T.net}
    (hx : SameSlots v.clients x) : Inv { v with clients := x } where
  policy := h.policy
  active slot hactive := by
    rw [hx.2.1] at hactive
    rw [hx.1]
    exact h.active slot hactive
  numbered connection peer hmem := by
    rw [hx.2.2]
    exact h.numbered connection peer hmem
  unique := h.unique
  gate := h.gate

theorem Inv.setPolicy {v : TCPCommandServer T} (h : v.Inv) (policy : Option T.Policy) :
    (v.setPolicy policy).Inv where
  policy := (currentPolicy_append_policySet v.log policy).symm
  active slot hactive := by
    obtain ⟨peer, hpeer, hslot, hholds⟩ := h.active slot hactive
    refine ⟨peer, List.mem_append_left _ hpeer, hslot, ?_⟩
    have hsession : (v.setPolicy policy).session slot = (v.session slot).setPolicy policy :=
      if_pos hactive
    rw [hsession]
    exact ⟨hholds.registry, rfl, hholds.writer, hholds.mode, hholds.shown⟩
  numbered connection peer hmem := by
    simp only [TCPCommandServer.setPolicy, List.mem_append, List.mem_singleton] at hmem
    exact h.numbered connection peer (by simpa using hmem)
  unique connection peer peer' hmem hmem' := by
    simp only [TCPCommandServer.setPolicy, List.mem_append, List.mem_singleton] at hmem hmem'
    exact h.unique connection peer peer' (by simpa using hmem) (by simpa using hmem')
  gate := gate_append_event h.gate (by simp)

theorem Inv.setResultObserver {v : TCPCommandServer T} (h : v.Inv)
    (observer : Option T.Observer) : (v.setResultObserver observer).Inv where
  policy := h.policy
  active slot hactive := by
    obtain ⟨peer, hpeer, hslot, hholds⟩ := h.active slot hactive
    have hsession : (v.setResultObserver observer).session slot =
        (v.session slot).setResultObserver observer := if_pos hactive
    rw [hsession]
    exact ⟨peer, hpeer, hslot,
      ⟨hholds.registry, hholds.policy, hholds.writer, hholds.mode, hholds.shown⟩⟩
  numbered := h.numbered
  unique := h.unique
  gate := h.gate

theorem Inv.initializeWith {v : TCPCommandServer T} (h : v.Inv) (config : TCPCommandServerConfig)
    (registry : T.Registry) (started : Bool) : (v.initializeWith config registry started).Inv := by
  unfold TCPCommandServer.initializeWith
  split_ifs
  · exact h
  · exact ⟨h.policy, h.active, h.numbered, h.unique, h.gate⟩
  · exact ⟨h.policy, h.active, h.numbered, h.unique, h.gate⟩

theorem Inv.shutdown {v : TCPCommandServer T} (h : v.Inv) : v.shutdown.Inv := by
  have hfold (slots : List ℕ) {v : TCPCommandServer T} (h : v.Inv) :
      (slots.foldl (fun v slot => v.resetClient slot) v).Inv := by
    induction slots generalizing v with
    | nil => exact h
    | cons slot slots ih => exact ih (h.resetClient slot)
  unfold TCPCommandServer.shutdown
  split_ifs
  · exact h
  · have hreset := hfold (List.range T.maxTCPClients) h
    exact ⟨hreset.policy, hreset.active, hreset.numbered, hreset.unique, hreset.gate⟩

/-- An accepted connection gets a number and a slot that no session serves yet. -/
theorem Inv.accept {v : TCPCommandServer T} (h : v.Inv) {slot : ℕ}
    (hfree : v.clients.active slot = false) (peer : Peer) (id : ℕ → UInt64)
    (nextSessionID : UInt64) :
    Inv { v with
      clients := v.clients.assign slot, id, nextSessionID
      log := v.log ++ [.accepted (v.clients.connections + 1) peer] } where
  policy := h.policy.trans (currentPolicy_append_accepted v.log _ peer).symm
  active slot' hactive := by
    have hne : slot' ≠ slot := by
      rintro rfl
      exact absurd hactive (by simp [assign, hfree])
    obtain ⟨peer', hpeer, hslot, hholds⟩ := h.active slot' hactive
    refine ⟨peer', ?_, hslot, hholds⟩
    simpa [assign, Function.update_of_ne hne] using .inl hpeer
  numbered connection peer' hmem := by
    rcases List.mem_append.mp hmem with hmem | hmem
    · exact (h.numbered connection peer' hmem).trans (Nat.le_succ _)
    · cases List.mem_singleton.mp hmem
      exact le_rfl
  unique connection peer₁ peer₂ h₁ h₂ := by
    rcases List.mem_append.mp h₁ with h₁ | h₁ <;> rcases List.mem_append.mp h₂ with h₂ | h₂
    · exact h.unique connection peer₁ peer₂ h₁ h₂
    · cases List.mem_singleton.mp h₂
      exact absurd (h.numbered _ _ h₁) (Nat.not_succ_le_self _)
    · cases List.mem_singleton.mp h₁
      exact absurd (h.numbered _ _ h₂) (Nat.not_succ_le_self _)
    · cases List.mem_singleton.mp h₁
      cases List.mem_singleton.mp h₂
      rfl
  gate := gate_append_event h.gate (by simp)

/-- A session that was put on the terms of its peer may be served. -/
theorem Inv.activate {v : TCPCommandServer T} (h : v.Inv) {slot : ℕ} (peer : Peer)
    (hpeer : .accepted (v.clients.client slot) peer ∈ v.log) (hslot : peer.slot = slot)
    {s : SocketCommandSession T.sessions} (hs : (peerTerms v.policy peer).Holds s) :
    Inv { v with
      session := Function.update v.session slot s
      clients := v.clients.setActive slot true } where
  policy := h.policy
  active slot' hactive := by
    by_cases heq : slot' = slot
    · subst heq
      exact ⟨peer, hpeer, hslot, by simpa using hs⟩
    · simp only [Function.update_of_ne heq]
      exact h.active slot' (by simpa [setActive, Function.update_of_ne heq] using hactive)
  numbered := h.numbered
  unique := h.unique
  gate := h.gate

/-- A session in a slot that is not active may become anything. -/
theorem Inv.updateSession {v : TCPCommandServer T} (h : v.Inv) {slot : ℕ}
    (hfree : v.clients.active slot = false)
    (f : SocketCommandSession T.sessions → SocketCommandSession T.sessions) :
    (v.updateSession slot f).Inv where
  policy := h.policy
  active slot' hactive := by
    have hne : slot' ≠ slot := by
      rintro rfl
      exact absurd hactive (by simp [TCPCommandServer.updateSession, hfree])
    simp only [TCPCommandServer.updateSession, Function.update_of_ne hne]
    exact h.active slot' hactive
  numbered := h.numbered
  unique := h.unique
  gate := h.gate

theorem Inv.admitClient {v : TCPCommandServer T} (h : v.Inv) (registry : T.Registry)
    (incoming : Incoming) (slot : ℕ) : (admitClient registry incoming slot v).Inv := by
  have hfree : (v.resetClient slot).clients.active slot = false := by
    simp [TCPCommandServer.resetClient, setActive]
  have haccept := (h.resetClient slot).accept hfree
    { slot, incoming, sessionID := v.nextSessionID, mode := v.config.session.mode }
    (Function.update (v.resetClient slot).id slot v.nextSessionID)
    (advanceSessionID v.nextSessionID)
  unfold TCPCommandServer.admitClient
  dsimp only
  split_ifs with hfailed
  · exact (haccept.updateSession hfree _).resetClient slot
  · refine haccept.activate { slot, incoming, sessionID := v.nextSessionID
                              mode := v.config.session.mode } (by simp [assign]) rfl ?_
    rw [Bool.not_eq_true', Bool.not_eq_false] at hfailed
    exact SocketCommandSession.initializeWith_holds hfailed rfl ⟨rfl, rfl, rfl⟩ _

theorem Inv.place {v : TCPCommandServer T} (h : v.Inv) (registry : T.Registry)
    (incoming : Incoming) (slots : List ℕ) : (place registry incoming slots v).Inv := by
  induction slots generalizing v with
  | nil => exact h
  | cons slot slots ih =>
    have hquery : SameSlots v.clients
        (if v.clients.active slot then v.clients.connected slot else (false, v.clients)).2 := by
      split_ifs
      · exact sameSlots_connected slot v.clients
      · exact ⟨rfl, rfl, rfl⟩
    unfold TCPCommandServer.place
    dsimp only
    generalize (if v.clients.active slot then v.clients.connected slot else (false, v.clients)) = q
      at hquery
    split_ifs
    · exact ih (h.clients hquery)
    · exact (h.clients hquery).admitClient registry incoming slot

omit [SizeWidth] in
/-- Whatever a session calls, the slots stay as they are. -/
theorem preserves_sameSlots (x : Clients T.net) : Preserves T.sessions (SameSlots x) where
  policy _ _ _ hw := hw
  invoke _ _ _ hw := hw
  invokeLine _ _ _ hw := hw
  observe _ _ _ _ hw := hw
  write slot bytes w _ hw := by
    change SameSlots x (writeToClient slot bytes w).2
    unfold writeToClient
    split_ifs
    · exact hw
    · obtain ⟨h1, h2, h3⟩ := sameSlots_sendWhole slot bytes w
      exact ⟨h1.trans hw.1, h2.trans hw.2.1, h3.trans hw.2.2⟩

theorem Inv.feedClient {v : TCPCommandServer T} (h : v.Inv) {slot : ℕ}
    (hactive : v.clients.active slot = true) (chunk : Bytes) :
    (v.feedClient slot chunk).2.Inv ∧
      SameSlots v.clients (v.feedClient slot chunk).2.clients := by
  obtain ⟨peer, hpeer, hslot, hholds⟩ := h.active slot hactive
  obtain ⟨calls, hadds, hgate, hholds'⟩ :=
    SocketCommandSession.feed_gate chunk (v.session slot) hholds { world := v.clients }
  have hsame : SameSlots v.clients (v.feedClient slot chunk).2.clients :=
    SocketCommandSession.feed_preserves (preserves_sameSlots v.clients) chunk
      (v.session slot) (x := { world := v.clients }) ⟨rfl, rfl, rfl⟩
  refine ⟨?_, hsame⟩
  have hlog : (v.feedClient slot chunk).2.log =
      v.log ++ calls.map (.session (v.clients.client slot)) := by
    rw [TCPCommandServer.feedClient, hadds]
    simp
  have hmem : ∀ connection peer, .accepted connection peer ∈ (v.feedClient slot chunk).2.log →
      .accepted connection peer ∈ v.log := by
    intro connection peer hmem
    rw [hlog] at hmem
    simpa using hmem
  refine ⟨?_, fun slot' hactive' => ?_, fun connection peer hm => ?_, fun connection peer peer' hm hm' =>
    h.unique connection peer peer' (hmem _ _ hm) (hmem _ _ hm'), ?_⟩
  · rw [hlog, currentPolicy_append_sessions]
    exact h.policy
  · rw [hsame.2.1] at hactive'
    rw [hlog, hsame.1]
    by_cases heq : slot' = slot
    · subst heq
      refine ⟨peer, by simp [hpeer], hslot, ?_⟩
      simpa [TCPCommandServer.feedClient, TCPCommandServer.updateSession] using hholds'
    · obtain ⟨peer', hpeer', hslot', hholds''⟩ := h.active slot' hactive'
      refine ⟨peer', by simp [hpeer'], hslot', ?_⟩
      simpa [TCPCommandServer.feedClient, TCPCommandServer.updateSession,
        Function.update_of_ne heq] using hholds''
  · rw [hsame.2.2]
    exact h.numbered connection peer (hmem _ _ hm)
  · rw [hlog]
    exact gate_append_sessions h.gate hpeer (h.policy ▸ hgate)

theorem Inv.readClient {v : TCPCommandServer T} (h : v.Inv) {slot : ℕ}
    (hactive : v.clients.active slot = true) (chunks : List Bytes) :
    (v.readClient slot chunks).Inv := by
  induction chunks generalizing v with
  | nil => exact h
  | cons chunk chunks ih =>
    obtain ⟨hfed, hsame⟩ := h.feedClient hactive chunk
    unfold TCPCommandServer.readClient
    dsimp only
    split_ifs
    · exact hfed.resetClient slot
    · exact ih hfed (by rw [hsame.2.1]; exact hactive)

theorem Inv.serveClient {v : TCPCommandServer T} (h : v.Inv) (reads : ℕ → List Bytes) (slot : ℕ) :
    (v.serveClient reads slot).Inv := by
  have hquery := h.clients (sameSlots_connected slot v.clients)
  unfold TCPCommandServer.serveClient
  dsimp only
  split_ifs with hactive
  · exact h
  · exact hquery.resetClient slot
  · exact hquery.readClient (by simpa [Clients.connected] using hactive) (reads slot)

theorem Inv.onWorkerIteration {v : TCPCommandServer T} (h : v.Inv) (i : Iteration) :
    (v.onWorkerIteration i).Inv := by
  have haccept : (v.acceptClientLocked i.incoming).Inv := by
    unfold acceptClientLocked
    split
    · split_ifs
      · exact h
      · exact h.place _ _ _
    · exact h
  have hfold (slots : List ℕ) {v : TCPCommandServer T} (h : v.Inv) :
      (slots.foldl (TCPCommandServer.serveClient i.reads) v).Inv := by
    induction slots generalizing v with
    | nil => exact h
    | cons slot slots ih => exact ih (h.serveClient i.reads slot)
  unfold TCPCommandServer.onWorkerIteration
  split_ifs
  · exact h
  · exact hfold _ haccept

theorem Inv.step {v : TCPCommandServer T} (h : v.Inv) (a : Action T) : (v.step a).Inv := by
  cases a with
  | startServer config registry started => exact h.initializeWith config registry started
  | shutdown => exact h.shutdown
  | setPolicy policy => exact h.setPolicy policy
  | setResultObserver observer => exact h.setResultObserver observer
  | onWorkerIteration i => exact h.onWorkerIteration i

end TCPCommandServer

/-- Every command runs behind the current policy's consent to the very request, made out to the
connection it came from; a refusal runs nothing and is answered once, by the policy's own result,
where a response can hold its message. -/
theorem policy_gate (world : T.net.World) (actions : List (TCPCommandServer.Action T)) :
    let log := (run TCPCommandServer.step { clients := { world } } actions).log
    (∀ before after connection call, log = before ++ .session connection call :: after →
      call.IsCall → ∀ policy ∈ currentPolicy before, ∃ before' context result peer,
        before = before' ++ [.session connection (.policyCalled policy context result)] ∧
          result.success = true ∧ Executes context call ∧ .accepted connection peer ∈ before ∧
          context.metadata.sessionID = peer.sessionID ∧
          context.metadata.remoteAddress = peer.incoming.remoteIP ∧
          context.metadata.remotePort = peer.incoming.remotePort) ∧
    (∀ before after connection policy context result,
      log = before ++ .session connection (.policyCalled policy context result) :: after →
      result.success = false → ∃ peer observed tail rest, .accepted connection peer ∈ before ∧
        after = (observed ++ (tail ++ [.handled])).map (.session connection) ++ rest ∧
        Observed context result observed ∧
        match peer.mode with
        | .line => ∃ accepted, tail = [.wrote peer.slot (lineResponse result) accepted]
        | .structuredBinary =>
          if 2 ^ 32 ≤ result.message.length + 22 then tail = []
          else ∃ accepted, tail = [.wrote peer.slot
            (responseFrame { requestID := context.metadata.requestID, result }) accepted]) ∧
    ∀ connection peer peer', .accepted connection peer ∈ log → .accepted connection peer' ∈ log →
      peer = peer' := by
  have hinv : TCPCommandServer.Inv (run TCPCommandServer.step { clients := { world } } actions) :=
    run_induction (fun v a h => h.step a) (TCPCommandServer.inv_start world) actions
  refine ⟨fun before after connection call hlog hcall policy hpolicy => ?_,
    fun before after connection policy context result hlog hfail => ?_, hinv.unique⟩
  · obtain ⟨peer, hpeer, hgate, -⟩ := hinv.gate before _ after hlog connection call rfl
    obtain ⟨before', context, result, hbefore, hsuccess, hshown, hexecutes⟩ :=
      hgate hcall policy hpolicy
    exact ⟨before', context, result, peer, hbefore, hsuccess, hexecutes, hpeer, hshown⟩
  · obtain ⟨peer, hpeer, -, hrefused⟩ := hinv.gate before _ after hlog connection _ rfl
    obtain ⟨observed, tail, rest, hafter, hobserved, hwritten⟩ :=
      hrefused policy context result rfl hfail
    refine ⟨peer, observed, tail, rest, hpeer, hafter, hobserved, ?_⟩
    unfold Written Terms.answer at hwritten
    cases hmode : peer.mode with
    | line =>
      simp only [peerTerms, hmode, lineResponse_ne_nil, if_false] at hwritten
      exact hwritten
    | structuredBinary =>
      simp only [peerTerms, hmode, responseFrame_eq_nil_iff] at hwritten
      exact hwritten

private theorem handleStructuredFrame_unanswered
    {H : CommandHost Value} {s : SocketCommandSession H} {registry : H.Registry}
    {policy : H.Policy} {data : Bytes} {context : SocketCommandInvocationContext Value}
    {x : Exterior H} (hregistry : s.registry = some registry) (hpolicy : s.policy = some policy)
    (hobserver : s.observer = none)
    (hdecode : decodeRequest data { metadata := s.metadata } = some context)
    (hfail : (H.policy policy context x.world).1.success = false)
    (hlong : 2 ^ 32 ≤ (H.policy policy context x.world).1.message.length + 22) :
    (s.handleStructuredFrame data x).2.2.log =
      x.log ++ [.policyCalled policy context (H.policy policy context x.world).1] := by
  have hframe : responseFrame { requestID := context.metadata.requestID
                                result := (H.policy policy context x.world).1 } = [] :=
    (responseFrame_eq_nil_iff _).mpr hlong
  simp [SocketCommandSession.handleStructuredFrame, hdecode, SocketCommandSession.execute,
    hregistry, hpolicy, Exterior.callPolicy, hfail, hobserver, Exterior.observe,
    SocketCommandSession.writeResponse, hframe, Exterior.record]

end

/-- A server whose clients take every byte and whose policy gives one answer to everything. -/
@[reducible] def fixedPolicyHost (result : CommandResult) :
    @TCPCommandHost ScalarValue scalarLibrary :=
  letI := scalarLibrary
  { net :=
      { World := Unit
        connected := fun _ w => (true, w)
        write := fun _ data w => (data.length, w)
        write_le := fun _ _ _ => le_rfl
        stop := fun _ w => w }
    Registry := Unit, Policy := Unit, Observer := Unit
    tokenize := fun line => ([line], [])
    invoke := fun _ _ w => ({}, w)
    invokeLine := fun _ _ w => ({}, w)
    policy := fun _ _ w => (result, w)
    observe := fun _ _ _ w => w }

/-- The request `ping`, number 7. -/
def pingRequest : Bytes :=
  [0x45, 0x53, 0x43, 0x51, 1, 0, 0, 0, 0, 0, 0, 0, 7, 0, 1, 0, 4, 0x70, 0x69, 0x6E, 0x67,
    0, 0, 0, 0, 0, 0, 0, 0]

def pingContext (m : SocketCommandMetadata) :
    @SocketCommandInvocationContext ScalarValue bytewise :=
  letI := scalarLibrary
  { invocation := { path := [text "ping"] }, metadata := { m with requestID := 7 } }

/-- A server with a policy and one connection of structured requests. -/
def acceptOne (result : CommandResult) :
    letI := scalarLibrary
    letI := SizeWidth.host
    List (TCPCommandServer.Action (fixedPolicyHost result)) :=
  letI := scalarLibrary
  letI := SizeWidth.host
  [.setPolicy (some ()),
    .startServer { port := 2323
                   maximumClients := 1
                   session := { mode := .structuredBinary, maximumRequestBytes := 64 } } () true,
    .onWorkerIteration { incoming := some ⟨[], 1⟩ }]

/-- The worker reads one request. -/
def readPing : Iteration := { reads := fun _ => [frameStructuredPayload pingRequest] }

def pingMetadata : SocketCommandMetadata :=
  { transport := text "tcp", remotePort := 1, sessionID := 1 }

/-- The session of the first connection. -/
def pingSession (result : CommandResult) :
    letI := scalarLibrary
    letI := SizeWidth.host
    SocketCommandSession (fixedPolicyHost result).sessions :=
  letI := scalarLibrary
  letI := SizeWidth.host
  { registry := some (), config := { mode := .structuredBinary, maximumRequestBytes := 64 }
    metadata := pingMetadata, writer := some (0 : ℕ), policy := some (), initialized := true }

/-- The calls made for the refused request. -/
private theorem feed_refused_ping (result : CommandResult) (hfail : result.success = false)
    (hlong : 2 ^ 32 ≤ result.message.length + 22) :
    letI := scalarLibrary
    letI := SizeWidth.host
    ∀ x : Clients (fixedPolicyHost result).net,
      ((pingSession result).feed (frameStructuredPayload pingRequest) { world := x }).2.2.log =
        [.received pingRequest, .policyCalled () (pingContext pingMetadata) result, .handled] := by
  let _ := scalarLibrary
  let _ := SizeWidth.host
  intro x
  have hcarries : Carries 64 pingRequest := ⟨by decide, by decide, by decide⟩
  have hframes : [] ++ frameStructuredPayload pingRequest =
      ([pingRequest].map frameStructuredPayload).flatten ++ [] := by simp
  have hfeed := SocketCommandSession.feed_admitted (s := pingSession result) rfl rfl
    rfl rfl rfl (fun _ => Nat.zero_le _) (List.forall_mem_singleton.mpr hcarries) hframes
    (show SocketCommandSession.admits 64 0 _ = true by decide) { world := x }
  have hdecode : decodeRequest pingRequest { metadata := pingMetadata } =
      some (pingContext pingMetadata) := rfl
  have hhandle := handleStructuredFrame_unanswered (s := pingSession result)
    (x := Exterior.record (.received pingRequest) { world := x }) rfl rfl rfl hdecode hfail hlong
  rw [hfeed]
  change ((pingSession result).handleStructuredFrame pingRequest _).2.2.log ++ [.handled] = _
  rw [hhandle]
  rfl

private theorem acceptOne_log (result : CommandResult) (hfail : result.success = false)
    (hlong : 2 ^ 32 ≤ result.message.length + 22) :
    letI := scalarLibrary
    letI := SizeWidth.host
    (run TCPCommandServer.step { clients := { world := () } }
        (acceptOne result ++ [.onWorkerIteration readPing])).log =
      ([.policySet (some ()), .accepted 1 { slot := 0, incoming := ⟨[], 1⟩, sessionID := 1
                                            mode := .structuredBinary },
        .session 1 (.received pingRequest),
        .session 1 (.policyCalled () (pingContext pingMetadata) result), .session 1 .handled] :
        List (ServerEvent (fixedPolicyHost result))) := by
  let _ := scalarLibrary
  let _ := SizeWidth.host
  have hsession : (run TCPCommandServer.step { clients := { world := () } }
      (acceptOne result)).session 0 = pingSession result := rfl
  have hlog : (run TCPCommandServer.step { clients := { world := () } } (acceptOne result)).log =
    [.policySet (some ()), .accepted 1 { slot := 0, incoming := ⟨[], 1⟩, sessionID := 1
                                         mode := .structuredBinary }] := rfl
  have hclient : (run TCPCommandServer.step { clients := { world := () } }
      (acceptOne result)).clients.client 0 = 1 := rfl
  rw [run_append, run_cons, run_nil]
  change (TCPCommandServer.onWorkerIteration readPing _).log = _
  rw [TCPCommandServer.onWorkerIteration_single rfl rfl rfl, readPing,
    (TCPCommandServer.serveClient_single rfl rfl _).1, hsession, hlog, hclient,
    feed_refused_ping result hfail hlong]
  rfl

/-- A refusal whose message no response frame holds is not written at all. -/
theorem refusal_unanswered :
    letI := scalarLibrary
    letI := SizeWidth.host
    ∃ (result : CommandResult) (before after : List (ServerEvent (fixedPolicyHost result)))
      (context : SocketCommandInvocationContext ScalarValue), result.success = false ∧
      (run TCPCommandServer.step { clients := { world := () } }
        (acceptOne result ++ [.onWorkerIteration readPing])).log =
        before ++ .session 1 (.policyCalled () context result) :: after ∧
      ∀ writer bytes accepted, .session 1 (.wrote writer bytes accepted) ∉ after := by
  let _ := scalarLibrary
  let _ := SizeWidth.host
  obtain ⟨message, hmessage⟩ : ∃ message : Bytes, message.length = 2 ^ 32 :=
    ⟨List.replicate (2 ^ 32) 0, List.length_replicate⟩
  refine ⟨⟨false, 1, message⟩, _, _, _, rfl,
    (acceptOne_log ⟨false, 1, message⟩ rfl (by simp only [hmessage]; omega)).trans
      (List.append_cons [_, _, _] _ [_]).symm, ?_⟩
  simp

end Sockets.Command
