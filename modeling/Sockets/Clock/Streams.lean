import Sockets.Clock.Integrity
import Sockets.Clock.Link
import Sockets.Foundation.Simulation

/-! What comes of the timestamps on their way through TCP: however the streams are cut into reads, and
whatever other clients do with the server, a client and its server are two instances of the protocol
that exchange datagrams. -/
namespace Sockets.Clock
open Foundation Transport Sockets.Frame

/-- The samples of the client, oldest first. -/
def samples (history : List ClockEvent) : List Sample :=
  (history.filterMap fun
    | .sampled .client _ sample => some sample
    | _ => none).reverse

theorem samples_sampled (receiveTime : UInt64) (sample : Sample) (history : List ClockEvent) :
    samples (.sampled .client receiveTime sample :: history) = samples history ++ [sample] :=
  List.reverse_cons

/-- An operation that takes a sequence number of the client. -/
def Action.draws : Action → Bool
  | .buildRequest .client _ => true
  | .buildAuthoritativeBroadcast .client _ => true
  | _ => false

theorem draws_step (x : Exchange) (a : Action) :
    draws .client (x.step a).history ≤ draws .client x.history + a.draws.toNat := by
  cases a with
  | buildRequest side now =>
    cases side <;> simp only [Exchange.step] <;> split <;>
      simp [Exchange.record, Exchange.send, Exchange.setNode, draws, Action.draws, Nat.add_comm]
  | buildAuthoritativeBroadcast side now =>
    cases side <;> simp only [Exchange.step] <;> split <;>
      simp [Exchange.record, Exchange.send, Exchange.setNode, draws, Action.draws, Nat.add_comm]
  | cancelPendingRequest side => exact le_rfl
  | processRequest side datagram receiveTime now =>
    simp only [Exchange.step]
    repeat' split
    all_goals exact le_rfl
  | processResponse side datagram receiveTime =>
    simp only [Exchange.step]
    repeat' split
    all_goals exact le_rfl
  | processAuthoritativeBroadcast side datagram receiveTime =>
    simp only [Exchange.step]
    repeat' split
    all_goals exact le_rfl

theorem draws_run (x : Exchange) (operations : List Action) :
    draws .client (run Exchange.step x operations).history ≤
      draws .client x.history + operations.countP Action.draws := by
  induction operations generalizing x with
  | nil => exact le_rfl
  | cons a operations ih =>
    have hstep := draws_step x a
    have hrest := ih (x.step a)
    have hcount : (a :: operations).countP Action.draws =
        operations.countP Action.draws + a.draws.toNat := by
      rw [List.countP_cons]
      cases a.draws <;> rfl
    rw [run_cons, hcount]
    omega

theorem inbox_send (side : Side) (datagram : Bytes) (x : Exchange) :
    (x.send side datagram).inbox side = x.inbox side ++ [datagram] := Function.update_self ..

theorem inbox_send_other {side other : Side} (h : other ≠ side) (datagram : Bytes) (x : Exchange) :
    (x.send side datagram).inbox other = x.inbox other := Function.update_of_ne h ..

/-- The stream of these messages. -/
def stream (messages : List Bytes) : Bytes := (messages.map (encodeFrame eventMagic)).flatten

theorem fits_request {message : Bytes} (h : IsRequest message) : Fits maxEventPacketSize message :=
  fits_of_length h.1 (by decide) (by decide)

theorem encodes_request {message : Bytes} (h : IsRequest message) :
    eventFramer.Encodes (encodeFrame eventMagic) message :=
  encodes_frame (by norm_num [eventMagic]) (fits_request h)

theorem encodes_response (response : ResponseMessage) :
    eventFramer.Encodes (encodeFrame eventMagic) response.encode :=
  encodes_frame (by norm_num [eventMagic]) (fits_response response)

/-- The response that answers a request is the one that the protocol gives at its times. -/
theorem processRequest_of_answers {p : SocketClockSynchronizationProtocol}
    (hp : p.isReferenceMode = true) {receiveTime : UInt64} {message : Bytes}
    {response : ResponseMessage} (h : Answers receiveTime message (some response)) :
    p.processRequest message response.t2 response.t3 = some response := by
  unfold Answers at h
  split_ifs at h with hrequest
  obtain ⟨t3, ht3⟩ := h
  obtain rfl := Option.some.inj ht3
  have hread : ¬ (!p.isReferenceMode || decide (message.length ≠ requestSize)) = true := by
    simp [hp, hrequest.1]
  unfold SocketClockSynchronizationProtocol.processRequest
  dsimp only
  rw [if_neg hread, if_neg (not_not.mpr hrequest.2)]

theorem answers_shape {receiveTime : UInt64} {message : Bytes} {response : ResponseMessage}
    (h : Answers receiveTime message (some response)) :
    response = { header := { type := MessageType.response.code, sequence := response.header.sequence }
                 t1 := response.t1, t2 := response.t2, t3 := response.t3 } := by
  unfold Answers at h
  split_ifs at h
  obtain ⟨t3, ht3⟩ := h
  obtain rfl := Option.some.inj ht3
  rfl

theorem answers_time {receiveTime : UInt64} {message : Bytes} {response : ResponseMessage}
    (h : Answers receiveTime message (some response)) : response.t2 = receiveTime := by
  unfold Answers at h
  split_ifs at h
  obtain ⟨t3, ht3⟩ := h
  obtain rfl := Option.some.inj ht3
  rfl

/-- The request that has been answered, and its connection. -/
def ClockServerEvent.answered : ClockServerEvent → Option (ℕ × Bytes × ResponseMessage)
  | .request c message (some response) => some (c, message, response)
  | _ => none

theorem ClockServerEvent.answered_eq {event : ClockServerEvent} {c : ℕ}
    {e : Bytes × ResponseMessage} (h : event.answered = some (c, e)) :
    event = .request c e.1 (some e.2) := by
  unfold ClockServerEvent.answered at h
  split at h
  · cases h
    rfl
  · cases h

/-- A reference that is asked for these answers gives them. -/
theorem answers_delivered {x : Exchange} (hreference : (x.node .reference).isReferenceMode = true)
    (entries : List (Bytes × ResponseMessage))
    (h : ∀ e ∈ entries, e.1 ∈ x.inbox .reference ∧ ∃ t, Answers t e.1 (some e.2)) :
    ∃ operations : List Action, operations.countP Action.draws = 0 ∧
      let y := run Exchange.step x operations
      y.node = x.node ∧ y.inbox .reference = x.inbox .reference ∧
        x.inbox .client ⊆ y.inbox .client ∧ (∀ e ∈ entries, e.2.encode ∈ y.inbox .client) ∧
        samples y.history = samples x.history ∧
        ∀ event ∈ y.history, event ∈ x.history ∨ ∃ e ∈ entries,
          event = .handled .reference e.2.header.sequence e.2.t1 e.2.t2 e.2.t3 := by
  induction entries generalizing x with
  | nil =>
    exact ⟨[], rfl, rfl, rfl, List.Subset.refl _, by simp, rfl, fun event he => .inl he⟩
  | cons e entries ih =>
    obtain ⟨⟨hmem, t, hanswer⟩, hrest⟩ := List.forall_mem_cons.mp h
    obtain ⟨j, hj⟩ := List.getElem?_of_mem hmem
    have hresponse := processRequest_of_answers hreference hanswer
    have hstep : x.step (.processRequest .reference j e.2.t2 e.2.t3) =
        (x.send .client e.2.encode).record
          (.handled .reference e.2.header.sequence e.2.t1 e.2.t2 e.2.t3) := by
      simp only [Exchange.step, hj, hresponse]
      rfl
    set handled := ClockEvent.handled .reference e.2.header.sequence e.2.t1 e.2.t2 e.2.t3
    have hother : Side.reference ≠ Side.client := by decide
    have hinbox : ((x.send .client e.2.encode).record handled).inbox .reference =
        x.inbox .reference := inbox_send_other hother e.2.encode x
    have hclient : ((x.send .client e.2.encode).record handled).inbox .client =
        x.inbox .client ++ [e.2.encode] := inbox_send .client e.2.encode x
    obtain ⟨operations, hdraws, hnode, hreferences, hclients, hentries, hsamples, hevents⟩ :=
      ih (x := (x.send .client e.2.encode).record handled) hreference
        (by rw [hinbox]; exact hrest)
    refine ⟨.processRequest .reference j e.2.t2 e.2.t3 :: operations, ?_, ?_⟩
    · rw [List.countP_cons, hdraws]
      rfl
    · rw [run_cons, hstep]
      refine ⟨hnode, hreferences.trans hinbox, ?_, ?_, hsamples, ?_⟩
      · rw [hclient] at hclients
        exact fun d hd => hclients (List.mem_append_left _ hd)
      · refine List.forall_mem_cons.mpr ⟨?_, hentries⟩
        rw [hclient] at hclients
        exact hclients (List.mem_append_right _ (List.mem_singleton.mpr rfl))
      · intro event hevent
        rcases hevents event hevent with hold | ⟨e', he', rfl⟩
        · rcases List.mem_cons.mp hold with rfl | hold
          · exact .inr ⟨e, List.mem_cons_self, rfl⟩
          · exact .inl hold
        · exact .inr ⟨e', List.mem_cons_of_mem _ he', rfl⟩

namespace TCPClockLink
variable {R : ClockServerHost} {number : ℕ → ℕ} {n : TCPClockLink R} {x : Exchange}

/-- The two sides are where the instances of an exchange are that has delivered what has come
through the streams. -/
structure Matches (number : ℕ → ℕ) (n : TCPClockLink R) (x : Exchange) : Prop where
  serving : n.server.Serving
  client : x.node .client = n.client.protocol
  mode : n.client.protocol.mode = .client
  reference : (x.node .reference).isReferenceMode = true
  written : ∀ k, ∃ messages, (∀ m ∈ messages, IsRequest m ∧ m ∈ x.inbox .reference) ∧
    n.written k <+: stream messages ∧
    (k = n.connections → n.usable = true → n.written k = stream messages)
  unwritten : ∀ k, n.connections < k → n.written k = []
  answered : ∀ k message response,
    .request (number k) message (some response) ∈ n.server.log → response.encode ∈ x.inbox .client
  part : n.usable = true → eventFramer.leftover n.received = .ok n.client.decoder.buffer
  completed : ∀ m ∈ n.client.completed, m ∈ x.inbox .client ∧
    ∃ response : ResponseMessage, m = response.encode ∧
      response.header.type = MessageType.response.code
  submitted : n.client.submitted = samples x.history
  handled : ∀ sequence t1 t2 t3, .handled .reference sequence t1 t2 t3 ∈ x.history →
    ∃ k message, .request (number k) message (some
      { header := { type := MessageType.response.code, sequence }, t1, t2, t3 }) ∈ n.server.log

theorem matches_start (number : ℕ → ℕ) (world : R.net.World) :
    Matches number (start world : TCPClockLink R) (Exchange.start honestPair) where
  serving := TCPClockSynchronizationServer.serving_start world
  client := rfl
  mode := rfl
  reference := rfl
  written _ := ⟨[], by simp, List.nil_prefix, fun _ _ => rfl⟩
  unwritten _ _ := rfl
  answered k message response h := by cases h
  part _ := leftover_nil
  completed m h := by cases h
  submitted := rfl
  handled sequence t1 t2 t3 h := by cases h

/-- A request that the server has answered was among those the client has written. -/
theorem Matches.answers (h : Matches number n x) {v : TCPClockSynchronizationServer R}
    (hv : v.Serving) (hread : ∀ k, bytesRead (number k) v.log <+: n.written k) {k : ℕ}
    {message : Bytes} {response : ResponseMessage}
    (hmem : .request (number k) message (some response) ∈ v.log) :
    message ∈ x.inbox .reference ∧ ∃ t, Answers t message (some response) := by
  constructor
  · obtain ⟨done, hdone, hframes⟩ := (hv.follows (number k)).front
    obtain ⟨messages, hmessages, hwritten, -⟩ := h.written k
    have htaken : message ∈ (requestsOn (number k) v.log).map Prod.fst := by
      refine List.mem_map.mpr ⟨(message, some response), ?_, rfl⟩
      exact List.mem_filterMap.mpr ⟨_, hmem, if_pos rfl⟩
    rw [hframes] at htaken
    obtain ⟨hall, -⟩ := Framer.prefix_encoded (fun m hm => encodes_request (hmessages m hm).1)
      (hdone.trans ((hread k).trans hwritten))
    exact (hmessages message (hall message htaken)).2
  · obtain ⟨before, after, hlog⟩ := List.append_of_mem hmem
    obtain ⟨t, -, hanswer⟩ := hv.dated before _ after hlog _ _ _ rfl
    exact ⟨t, hanswer⟩

/-- The server serves, the requests of the client among others. -/
theorem Matches.server (h : Matches number n x) (a : TCPClockSynchronizationServer.Action)
    (hread : ∀ k, bytesRead (number k) (n.server.step a).log <+: n.written k) :
    ∃ operations : List Clock.Action, operations.countP Clock.Action.draws = 0 ∧
      Matches number { n with server := n.server.step a } (run Exchange.step x operations) := by
  classical
  have hserving := h.serving.step a
  have hextends := TCPClockSynchronizationServer.extends_step n.server a
  let entries : List (Bytes × ResponseMessage) :=
    (((n.server.step a).log.filterMap ClockServerEvent.answered).filter
      fun e => ∃ k, e.1 = number k).map Prod.snd
  have hentries : ∀ e ∈ entries, ∃ k,
      .request (number k) e.1 (some e.2) ∈ (n.server.step a).log := by
    intro e he
    obtain ⟨⟨c, e'⟩, hmem, rfl⟩ := List.mem_map.mp he
    obtain ⟨hanswered, hk⟩ := List.mem_filter.mp hmem
    obtain ⟨k, rfl⟩ := of_decide_eq_true hk
    obtain ⟨event, hevent, hsome⟩ := List.mem_filterMap.mp hanswered
    rw [ClockServerEvent.answered_eq hsome] at hevent
    exact ⟨k, hevent⟩
  obtain ⟨operations, hdraws, hnode, hreferences, hclients, hdelivered, hsamples, hevents⟩ :=
    answers_delivered h.reference entries fun e he => by
      obtain ⟨k, hk⟩ := hentries e he
      exact h.answers hserving hread hk
  refine ⟨operations, hdraws, hserving, ?_, h.mode, ?_, fun k => ?_, h.unwritten, ?_, h.part, ?_,
    ?_, ?_⟩
  · rw [hnode]
    exact h.client
  · rw [hnode]
    exact h.reference
  · obtain ⟨messages, hmessages, hwritten⟩ := h.written k
    rw [hreferences]
    exact ⟨messages, hmessages, hwritten⟩
  · intro k message response hmem
    refine hdelivered (message, response) (List.mem_map.mpr ⟨(number k, message, response), ?_, rfl⟩)
    exact List.mem_filter.mpr ⟨List.mem_filterMap.mpr ⟨_, hmem, rfl⟩, decide_eq_true ⟨k, rfl⟩⟩
  · exact fun m hm => ⟨hclients (h.completed m hm).1, (h.completed m hm).2⟩
  · rw [hsamples]
    exact h.submitted
  · intro sequence t1 t2 t3 hmem
    rcases hevents _ hmem with hold | ⟨e, he, hevent⟩
    · obtain ⟨k, message, hk⟩ := h.handled sequence t1 t2 t3 hold
      exact ⟨k, message, hextends.1.subset hk⟩
    · obtain ⟨k, hk⟩ := hentries e he
      refine ⟨k, e.1, ?_⟩
      obtain ⟨-, t, hanswer⟩ := h.answers hserving hread hk
      obtain ⟨rfl, rfl, rfl, rfl⟩ := ClockEvent.handled.inj hevent |>.2
      rw [← answers_shape hanswer]
      exact hk

/-- What an exchange does not know of the client may change, as long as a client that keeps its
connection keeps its decoder. -/
theorem Matches.withClient (h : Matches number n x) {client : TCPClockSynchronizationClient}
    (usable : Bool) (hprotocol : client.protocol = n.client.protocol)
    (hsubmitted : client.submitted = n.client.submitted)
    (hcompleted : client.completed ⊆ n.client.completed)
    (husable : usable = true → n.usable = true ∧ client.decoder = n.client.decoder) :
    Matches number { n with client, usable } x where
  serving := h.serving
  client := h.client.trans hprotocol.symm
  mode := by
    rw [← h.mode]
    exact congrArg SocketClockSynchronizationProtocol.mode hprotocol
  reference := h.reference
  written k := by
    obtain ⟨messages, hmessages, hwritten, hall⟩ := h.written k
    exact ⟨messages, hmessages, hwritten, fun hk hopen => hall hk (husable hopen).1⟩
  unwritten := h.unwritten
  answered := h.answered
  part hopen := by
    obtain ⟨hbefore, hdecoder⟩ := husable hopen
    have hpart := h.part hbefore
    rw [← hdecoder] at hpart
    exact hpart
  completed m hm := h.completed m (hcompleted hm)
  submitted := hsubmitted.trans h.submitted
  handled := h.handled

/-- An event of the client's. -/
theorem Matches.settle (h : Matches number n x) {client : TCPClockSynchronizationClient}
    (e : ClockEvent) (hevent : ∀ sequence t1 t2 t3, .handled .reference sequence t1 t2 t3 ≠ e)
    (hmode : client.protocol.mode = .client)
    (hsubmitted : client.submitted = samples (e :: x.history))
    (hcompleted : client.completed ⊆ n.client.completed)
    (hdecoder : client.decoder = n.client.decoder) :
    Matches number { n with client } ((x.setNode .client client.protocol).record e) where
  serving := h.serving
  client := by
    change Function.update x.node .client client.protocol .client = _
    exact Function.update_self ..
  mode := hmode
  reference := h.reference
  written := h.written
  unwritten := h.unwritten
  answered := h.answered
  part hopen := by
    have hpart := h.part hopen
    rwa [← hdecoder] at hpart
  completed m hm := h.completed m (hcompleted hm)
  submitted := hsubmitted
  handled sequence t1 t2 t3 hmem := by
    rcases List.mem_cons.mp hmem with hnew | hold
    · exact absurd hnew (hevent sequence t1 t2 t3)
    · exact h.handled sequence t1 t2 t3 hold

theorem Matches.cancel (h : Matches number n x) : Matches number
    { n with client :=
      { n.client with protocol := n.client.protocol.cancelPendingRequest } }
    (x.step (.cancelPendingRequest .client)) := by
  change Matches number _ ((x.setNode .client (x.node .client).cancelPendingRequest).record _)
  rw [h.client]
  exact h.settle (.cancelled .client) (fun _ _ _ _ he => by cases he) h.mode h.submitted
    (List.Subset.refl _) rfl

/-- The client writes a request, or a part of one, behind the others. -/
theorem Matches.write (h : Matches number n x) (hopen : n.usable = true) {message : Bytes}
    (hrequest : IsRequest message) {bytes : Bytes}
    (hbytes : bytes <+: encodeFrame eventMagic message) {usable : Bool}
    (hwhole : usable = true → bytes = encodeFrame eventMagic message) :
    Matches number { n with
      usable
      written := Function.update n.written n.connections (n.written n.connections ++ bytes) }
      (x.send .reference message) where
  serving := h.serving
  client := h.client
  mode := h.mode
  reference := h.reference
  written k := by
    obtain ⟨messages, hmessages, hwritten, hall⟩ := h.written k
    have hinbox := inbox_send .reference message x
    by_cases hk : k = n.connections
    · subst hk
      have hbefore := hall rfl hopen
      have hstream : stream (messages ++ [message]) =
          n.written n.connections ++ encodeFrame eventMagic message := by
        rw [hbefore]
        simp [stream]
      refine ⟨messages ++ [message], fun m hm => ?_, ?_, fun _ hopen' => ?_⟩
      · rw [hinbox]
        rcases List.mem_append.mp hm with hold | hnew
        · exact ⟨(hmessages m hold).1, List.mem_append_left _ (hmessages m hold).2⟩
        · obtain rfl := List.mem_singleton.mp hnew
          exact ⟨hrequest, List.mem_append_right _ (List.mem_singleton.mpr rfl)⟩
      · change Function.update n.written n.connections _ n.connections <+: _
        rw [hstream, Function.update_self]
        exact (List.prefix_append_right_inj _).mpr hbytes
      · change Function.update n.written n.connections _ n.connections = _
        rw [hstream, Function.update_self, hwhole hopen']
    · refine ⟨messages, fun m hm => ?_, ?_, fun hlast => absurd hlast hk⟩
      · rw [hinbox]
        exact ⟨(hmessages m hm).1, List.mem_append_left _ (hmessages m hm).2⟩
      · change Function.update n.written n.connections _ k <+: _
        rw [Function.update_of_ne hk]
        exact hwritten
  unwritten k hk := by
    change n.connections < k at hk
    change Function.update n.written n.connections _ k = []
    rw [Function.update_of_ne (by omega)]
    exact h.unwritten k hk
  answered := h.answered
  part _ := h.part hopen
  completed := h.completed
  submitted := h.submitted
  handled := h.handled

/-- The client connects again; what it asked before is given up. -/
theorem Matches.connect (h : Matches number n x) {client : TCPClockSynchronizationClient}
    (hprotocol : client.protocol = n.client.protocol)
    (hsubmitted : client.submitted = n.client.submitted)
    (hcompleted : client.completed = n.client.completed) (hdecoder : client.decoder.buffer = []) :
    Matches number { n with
      client, connections := n.connections + 1, usable := true, received := [] } x where
  serving := h.serving
  client := h.client.trans hprotocol.symm
  mode := by
    rw [← h.mode]
    exact congrArg SocketClockSynchronizationProtocol.mode hprotocol
  reference := h.reference
  written k := by
    obtain ⟨messages, hmessages, hwritten, -⟩ := h.written k
    by_cases hk : k = n.connections + 1
    · refine ⟨[], by simp, ?_, fun _ _ => ?_⟩
      · rw [show n.written k = [] from h.unwritten k (by omega)]
        exact List.nil_prefix
      · exact h.unwritten k (by omega)
    · exact ⟨messages, hmessages, hwritten, fun hlast => absurd hlast hk⟩
  unwritten k hk := h.unwritten k (by
    change n.connections + 1 < k at hk
    omega)
  answered := h.answered
  part _ := by
    change eventFramer.leftover [] = .ok client.decoder.buffer
    rw [hdecoder]
    exact leftover_nil
  completed m hm := h.completed m (hcompleted ▸ hm)
  submitted := hsubmitted.trans h.submitted
  handled := h.handled

/-- A connection is there, or it is made again, or there is none. -/
theorem Matches.ensureConnectedLocked (h : Matches number n x) {c : Connection}
    (hhonest : c.connected = true → n.usable = true) :
    let r := n.ensureConnectedLocked c
    ∃ operations : List Clock.Action, operations.countP Clock.Action.draws = 0 ∧
      Matches number r.2 (run Exchange.step x operations) ∧ (r.1 = true → r.2.usable = true) := by
  intro r
  by_cases hconnected : c.connected = true
  · have hr : r = (true, n) := by
      simp [r, TCPClockLink.ensureConnectedLocked, hconnected,
        TCPClockSynchronizationClient.ensureConnectedLocked]
    rw [hr]
    exact ⟨[], rfl, h, fun _ => hhonest hconnected⟩
  · by_cases hearly : millis c.attempted - n.client.lastConnectAttempt <
        n.client.config.reconnectIntervalMilliseconds
    · have hr : r = (false, n) := by
        simp [r, TCPClockLink.ensureConnectedLocked, hconnected, hearly,
          TCPClockSynchronizationClient.ensureConnectedLocked]
      rw [hr]
      exact ⟨[], rfl, h, fun hfalse => by cases hfalse⟩
    · let client := (n.client.ensureConnectedLocked c).2
      have hclient : n.client.ensureConnectedLocked c = (c.connects, client) := by
        simp [client, TCPClockSynchronizationClient.ensureConnectedLocked, hconnected, hearly]
      have hprotocol : client.protocol = n.client.protocol.cancelPendingRequest := by
        simp [client, TCPClockSynchronizationClient.ensureConnectedLocked, hconnected, hearly]
      have hsubmitted : client.submitted = n.client.submitted := by
        simp [client, TCPClockSynchronizationClient.ensureConnectedLocked, hconnected, hearly]
      have hcompleted : client.completed = n.client.completed := by
        simp [client, TCPClockSynchronizationClient.ensureConnectedLocked, hconnected, hearly]
      have hdecoder : client.decoder.buffer = [] := by
        simp [client, TCPClockSynchronizationClient.ensureConnectedLocked, hconnected, hearly,
          SocketEventFrameDecoder.reset]
      refine ⟨[.cancelPendingRequest .client], rfl, ?_⟩
      cases hconnects : c.connects with
      | true =>
        have hr : r = (true, { n with
            client, connections := n.connections + 1, usable := true, received := [] }) := by
          simp [r, TCPClockLink.ensureConnectedLocked, hconnected, hearly, hclient, hconnects]
        rw [hr]
        exact ⟨h.cancel.connect hprotocol hsubmitted hcompleted hdecoder, fun _ => rfl⟩
      | false =>
        have hr : r = (false, { n with client, usable := false }) := by
          simp [r, TCPClockLink.ensureConnectedLocked, hconnected, hearly, hclient, hconnects]
        rw [hr]
        exact ⟨h.cancel.withClient false hprotocol hsubmitted (hcompleted ▸ List.Subset.refl _)
          (fun hfalse => by cases hfalse), fun hfalse => by cases hfalse⟩

/-- What the server has offered the client on its connection is a stream of its answers. -/
theorem Matches.offered (h : Matches number n x) : ∃ responses : List ResponseMessage,
    (framesOn (number n.connections) n.server.clients.wire).flatten =
        stream (responses.map ResponseMessage.encode) ∧
      ∀ response ∈ responses, response.encode ∈ x.inbox .client ∧
        response.header.type = MessageType.response.code := by
  let k := n.connections
  refine ⟨(requestsOn (number k) n.server.log).filterMap Prod.snd, ?_, ?_⟩
  · rw [h.serving.sent, stream, List.map_map, List.map_filterMap]
    rfl
  · intro response hresponse
    obtain ⟨⟨message, answer⟩, hrequest, hsome⟩ := List.mem_filterMap.mp hresponse
    obtain ⟨event, hevent, hthis⟩ := List.mem_filterMap.mp hrequest
    split at hthis
    · split_ifs at hthis with hk
      cases hthis
      cases hsome
      have hmem : ClockServerEvent.request (number k) message (some response) ∈ n.server.log :=
        hk ▸ hevent
      obtain ⟨before, after, hlog⟩ := List.append_of_mem hmem
      obtain ⟨t, -, hanswer⟩ := h.serving.dated before _ after hlog _ _ _ rfl
      refine ⟨h.answered k message response hmem, ?_⟩
      rw [answers_shape hanswer]
    · cases hthis

/-- What a read completes are answers of the server. -/
theorem Matches.chunk (h : Matches number n x) (husable : n.usable = true) {chunk : Bytes}
    (hchunk : chunk ≠ [])
    (hread : n.received ++ chunk <+:
      (framesOn (number n.connections) n.server.clients.wire).flatten) :
    let r := n.client.decoder.push (fun message completed => completed ++ [message]) chunk
      n.client.completed
    Matches number { n with
      client := { n.client with decoder := r.2.1, completed := r.2.2 }
      received := n.received ++ chunk, usable := r.1 } x := by
  intro r
  obtain ⟨responses, hoffered, hresponses⟩ := h.offered
  rw [hoffered] at hread
  have hencodes : ∀ m ∈ responses.map ResponseMessage.encode,
      eventFramer.Encodes (encodeFrame eventMagic) m := by
    intro m hm
    obtain ⟨response, -, rfl⟩ := List.mem_map.mp hm
    exact encodes_response response
  obtain ⟨hframes, part, hpart⟩ := Framer.prefix_encoded hencodes hread
  obtain ⟨hleft, happend⟩ := Framer.leftover_append (h.part husable) chunk
  rw [hleft] at hpart
  rw [happend] at hframes
  -- the messages of the chunk, as the decoder hands them over
  have hnew : ∀ m ∈ eventFramer.frames (n.client.decoder.buffer ++ chunk), m ∈ x.inbox .client ∧
      ∃ response : ResponseMessage, m = response.encode ∧
        response.header.type = MessageType.response.code := by
    intro m hm
    obtain ⟨response, hresponse, rfl⟩ :=
      List.mem_map.mp (hframes m (List.mem_append_right _ hm))
    obtain ⟨hdelivered, htype⟩ := hresponses response hresponse
    exact ⟨hdelivered, response, rfl, htype⟩
  have hcollect (messages completed : List Bytes) :
      messages.foldl (fun s m => s ++ [m]) completed = completed ++ messages := by
    induction messages generalizing completed with
    | nil => simp
    | cons m messages ih => simp [ih]
  have hr : r = _ := event_push_eq _ hchunk n.client.decoder n.client.completed
  rw [hcollect, hpart] at hr
  refine ⟨h.serving, h.client, h.mode, h.reference, fun k => ?_, h.unwritten, h.answered, ?_,
    fun m hm => ?_, h.submitted, h.handled⟩
  · obtain ⟨messages, hmessages, hwritten, hall⟩ := h.written k
    exact ⟨messages, hmessages, hwritten, fun hk _ => hall hk husable⟩
  · intro htrue
    change r.1 = true at htrue
    change eventFramer.leftover (n.received ++ chunk) = .ok r.2.1.buffer
    rw [hleft, hpart]
    rw [hr] at htrue ⊢
    split_ifs at htrue ⊢
    rfl
  · change m ∈ r.2.2 at hm
    rw [hr] at hm
    split_ifs at hm
    · rcases List.mem_append.mp hm with hold | hm
      · exact h.completed m hold
      · exact hnew m hm
    · exact h.completed m hm

/-- Reading goes on behind what has been read. -/
theorem received_readAvailable (chunks : List Bytes) (n : TCPClockLink R) :
    n.received <+: (n.readAvailable chunks).received ∧
      (n.readAvailable chunks).connections = n.connections ∧
      (n.readAvailable chunks).server = n.server := by
  induction chunks generalizing n with
  | nil => exact ⟨List.prefix_rfl, rfl, rfl⟩
  | cons chunk chunks ih =>
    unfold TCPClockLink.readAvailable
    split_ifs
    · exact ⟨List.prefix_rfl, rfl, rfl⟩
    · dsimp only
      split_ifs
      · obtain ⟨hextends, hconnections, hserver⟩ := ih { n with
          client := { n.client with
            decoder := (n.client.decoder.push
              (fun message completed => completed ++ [message]) chunk n.client.completed).2.1
            completed := (n.client.decoder.push
              (fun message completed => completed ++ [message]) chunk n.client.completed).2.2 }
          received := n.received ++ chunk }
        exact ⟨(List.prefix_append _ _).trans hextends, hconnections, hserver⟩
      · exact ⟨List.prefix_append _ _, rfl, rfl⟩

theorem Matches.readAvailable (h : Matches number n x) (husable : n.usable = true)
    (chunks : List Bytes) (hread : (n.readAvailable chunks).received <+:
      (framesOn (number n.connections) n.server.clients.wire).flatten) :
    ∃ operations : List Clock.Action, operations.countP Clock.Action.draws = 0 ∧
      Matches number (n.readAvailable chunks) (run Exchange.step x operations) := by
  induction chunks generalizing n with
  | nil => exact ⟨[], rfl, h⟩
  | cons chunk chunks ih =>
    unfold TCPClockLink.readAvailable at hread ⊢
    split_ifs at hread ⊢ with hempty
    · exact ⟨[], rfl, h⟩
    · dsimp only at hread ⊢
      split_ifs at hread ⊢ with haccepted
      · have hfirst := (received_readAvailable chunks _).1.trans hread
        have hchunk := h.chunk husable hempty hfirst
        dsimp only at hchunk
        rw [haccepted, ← husable] at hchunk
        exact ih hchunk husable hread
      · have hchunk := h.chunk husable hempty hread
        dsimp only at hchunk
        rw [Bool.not_eq_true] at haccepted
        rw [haccepted] at hchunk
        exact ⟨[.cancelPendingRequest .client], rfl, hchunk.cancel⟩

/-- The section of an iteration under the mutex. -/
theorem Matches.poll (h : Matches number n x) {c : Connection} {chunks : List Bytes}
    (hhonest : c.connected = true → n.usable = true) (hread : (n.poll c chunks).InOrder number) :
    ∃ operations : List Clock.Action, operations.countP Clock.Action.draws = 0 ∧
      Matches number (n.poll c chunks) (run Exchange.step x operations) := by
  obtain ⟨before, hbefore, hmatches, husable⟩ := h.ensureConnectedLocked hhonest
  have hclient := hread.client
  unfold TCPClockLink.poll at hclient ⊢
  dsimp only at hclient ⊢
  split_ifs at hclient ⊢ with hthere
  · exact ⟨before, hbefore, hmatches⟩
  · rw [Bool.not_eq_true', Bool.not_eq_false] at hthere
    obtain ⟨-, hconnections, hserver⟩ := received_readAvailable chunks (n.ensureConnectedLocked c).2
    rw [hconnections, hserver] at hclient
    obtain ⟨after, hafter, hlast⟩ := hmatches.readAvailable (husable hthere) chunks hclient
    refine ⟨before ++ after, ?_, ?_⟩
    · rw [List.countP_append, hbefore, hafter]
    · rwa [run_append]

/-- A message of the server is the answer to the request that waits for one, or it is ignored. -/
theorem Matches.processCompleted (h : Matches number n x) (received : ℕ) (receiveTime : UInt64) :
    ∃ operations : List Clock.Action, operations.countP Clock.Action.draws = 0 ∧
      Matches number { n with client := n.client.processCompleted received receiveTime }
        (run Exchange.step x operations) := by
  unfold TCPClockSynchronizationClient.processCompleted
  cases hcompleted : n.client.completed with
  | nil => exact ⟨[], rfl, h⟩
  | cons message completed =>
    obtain ⟨⟨hdelivered, response, rfl, htype⟩, -⟩ :=
      List.forall_mem_cons.mp (hcompleted ▸ h.completed)
    have hrest : Matches number { n with client := { n.client with completed } } x :=
      h.withClient n.usable rfl rfl (hcompleted ▸ List.subset_cons_self _ _)
        fun hopen => ⟨hopen, rfl⟩
    have hheader : MessageHeader.decode response.encode = response.header :=
      MessageHeader.decode_encode_append _ _
    have hlong : ¬ response.encode.length < headerSize := by
      rw [response.length_encode]
      norm_num [responseSize, headerSize]
    dsimp only
    unfold TCPClockSynchronizationClient.processMessage
    rw [if_neg hlong, hheader]
    dsimp only
    split_ifs with hforeign
    · exact ⟨[], rfl, hrest⟩
    · obtain ⟨j, hj⟩ := List.getElem?_of_mem hdelivered
      refine ⟨[.processResponse .client j receiveTime], rfl, ?_⟩
      change Matches number _ (x.step (.processResponse .client j receiveTime))
      simp only [Exchange.step, hj, h.client]
      cases hsample : (n.client.protocol.processResponse response.encode receiveTime).1 with
      | none =>
        have hresult : n.client.protocol.processResponse response.encode receiveTime =
            (none, n.client.protocol) :=
          Prod.ext hsample (SocketClockSynchronizationProtocol.processResponse_eq_none hsample)
        have hsame : x.setNode .client n.client.protocol = x := by
          rw [← h.client, Exchange.setNode, Function.update_eq_self]
        rw [hresult]
        dsimp only
        rw [hsame]
        exact hrest.withClient n.usable rfl (List.append_nil _) (List.Subset.refl _)
          fun hopen => ⟨hopen, rfl⟩
      | some sample =>
        obtain ⟨-, -, -, -, -, hcancel⟩ :=
          SocketClockSynchronizationProtocol.processResponse_eq_some hsample
        have hresult : n.client.protocol.processResponse response.encode receiveTime =
            (some sample, n.client.protocol.cancelPendingRequest) := Prod.ext hsample hcancel
        have hsubmitted : n.client.submitted ++ [sample] =
            samples (.sampled .client receiveTime sample :: x.history) := by
          rw [h.submitted, samples_sampled]
        rw [hresult]
        exact hrest.settle (.sampled .client receiveTime sample) (fun _ _ _ _ he => by cases he)
          h.mode hsubmitted
          (List.Subset.refl _) rfl

/-- A request is written, whole or in part, or there is none. -/
theorem Matches.requestSynchronization (h : Matches number n x) {c : RequestCall} (accepted : ℕ)
    (hhonest : c.connection.connected = true → n.usable = true) :
    ∃ operations : List Clock.Action, operations.countP Clock.Action.draws ≤ 1 ∧
      Matches number (n.requestSynchronization c accepted) (run Exchange.step x operations) := by
  obtain ⟨before, hbefore, hmatches, husable⟩ := h.ensureConnectedLocked hhonest
  unfold TCPClockLink.requestSynchronization
  dsimp only
  split_ifs with hoff hnone
  · exact ⟨[], Nat.zero_le _, h⟩
  · exact ⟨before, by omega, hmatches⟩
  · rw [Bool.not_eq_true', Bool.not_eq_false] at hnone
    have hopen := husable hnone
    set m := (n.ensureConnectedLocked c.connection).2
    have hmode : m.client.protocol.isClientMode = true := by
      rw [SocketClockSynchronizationProtocol.isClientMode, hmatches.mode]
      rfl
    have hbuild : m.client.protocol.buildRequest c.requestTime = _ := if_neg (by simp [hmode])
    set p : SocketClockSynchronizationProtocol := { m.client.protocol with
      nextSequence := m.client.protocol.nextSequence + 1
      pendingSequence := m.client.protocol.nextSequence } with hp
    set request : RequestMessage :=
      { header := { type := MessageType.request.code, sequence := m.client.protocol.nextSequence }
        t1 := c.requestTime } with hmessage
    have hrequest : IsRequest request.encode := isRequest_encode _ _
    have hframe := buildSocketEventFrame_eq (fits_request hrequest)
    set y := run Exchange.step x before
    have hstep : y.step (.buildRequest .client c.requestTime) =
        ((y.setNode .client p).record (.requested .client request.header.sequence request.t1)).send
          .reference request.encode := by
      simp only [Exchange.step, hmatches.client, hbuild]
      rfl
    have hbuilt (client : TCPClockSynchronizationClient) (hprotocol : client.protocol = p)
        (hsubmitted : client.submitted = m.client.submitted)
        (hcompleted : client.completed = m.client.completed)
        (hdecoder : client.decoder = m.client.decoder) : Matches number { m with client }
          ((y.setNode .client p).record
            (.requested .client request.header.sequence request.t1)) := by
      rw [← hprotocol]
      refine hmatches.settle _ (fun _ _ _ _ he => by cases he) ?_ (hsubmitted.trans hmatches.submitted)
        (hcompleted ▸ List.Subset.refl _) hdecoder
      rw [hprotocol]
      exact hmatches.mode
    rw [hbuild]
    dsimp only
    rw [hframe]
    split_ifs
    · refine ⟨before ++ [.buildRequest .client c.requestTime], ?_, ?_⟩
      · rw [List.countP_append, hbefore]
        rfl
      · rw [run_append, run_cons, run_nil, hstep]
        have hsettled := hbuilt { m.client with
          protocol := p, requestBuilt := c.built, lastRequest := millis c.stamped } rfl rfl rfl rfl
        exact hsettled.write hopen hrequest List.prefix_rfl fun _ => rfl
    · refine ⟨before ++ [.buildRequest .client c.requestTime, .cancelPendingRequest .client], ?_, ?_⟩
      · rw [List.countP_append, hbefore]
        rfl
      · rw [run_append, run_cons, run_cons, run_nil, hstep]
        have hsettled := hbuilt { m.client with
          protocol := p, requestBuilt := c.built } rfl rfl rfl rfl
        have hwritten := hsettled.write hopen hrequest (List.take_prefix accepted _)
          fun hfalse : false = true => by cases hfalse
        exact hwritten.cancel

theorem Matches.initializeWith (h : Matches number n x)
    (config : TCPClockSynchronizationClientConfig) (started : Bool) :
    Matches number { n with client := (n.client.initializeWith config started).2 } x := by
  have hmode : { n.client.protocol with mode := .client } = n.client.protocol := by
    rw [← h.mode]
  unfold TCPClockSynchronizationClient.initializeWith
  split_ifs
  · exact h
  · exact h
  · exact h.withClient n.usable hmode rfl (List.Subset.refl _) fun hopen => ⟨hopen, rfl⟩
  · exact h.withClient n.usable hmode rfl (List.Subset.refl _) fun hopen => ⟨hopen, rfl⟩

theorem Matches.shutdown (h : Matches number n x) :
    ∃ operations : List Clock.Action, operations.countP Clock.Action.draws = 0 ∧
      Matches number n.shutdown (run Exchange.step x operations) := by
  unfold TCPClockLink.shutdown TCPClockSynchronizationClient.shutdown
  cases hinitialized : n.client.initialized with
  | false =>
    refine ⟨[], rfl, ?_⟩
    simpa using h
  | true =>
    refine ⟨[.cancelPendingRequest .client], rfl, ?_⟩
    exact h.cancel.withClient _ rfl rfl (List.nil_subset _) fun hfalse => by simp at hfalse

/-- The actions that may send a request. -/
def Action.requests : Action → Bool
  | .client (.requestDue _ _) _ => true
  | .client (.requestSynchronization _) _ => true
  | _ => false

theorem simulates (number : ℕ → ℕ) :
    Simulates (step (R := R)) Exchange.step (Permitted number)
      (fun a operations => operations.countP Clock.Action.draws ≤ a.requests.toNat)
      (Matches number) := by
  rintro n x a ⟨hhonest, hread⟩ h
  have hnone {n' : TCPClockLink R} (hops : ∃ operations : List Clock.Action,
      operations.countP Clock.Action.draws = 0 ∧
        Matches number n' (run Exchange.step x operations)) (k : ℕ) :
      ∃ operations : List Clock.Action, operations.countP Clock.Action.draws ≤ k ∧
        Matches number n' (run Exchange.step x operations) := by
    obtain ⟨operations, hcount, hmatches⟩ := hops
    exact ⟨operations, by omega, hmatches⟩
  cases a with
  | server a => exact hnone (h.server a hread.server) _
  | client a accepted =>
    cases a with
    | initializeWith config started => exact ⟨[], Nat.zero_le _, h.initializeWith config started⟩
    | shutdown => exact hnone h.shutdown _
    | poll c chunks =>
      change InOrder number (if n.client.working then n.poll c chunks else n) at hread
      change ∃ operations : List Clock.Action, _ ∧
        Matches number (if n.client.working then n.poll c chunks else n) _
      split_ifs at hread ⊢
      · exact hnone (h.poll hhonest hread) _
      · exact ⟨[], Nat.zero_le _, h⟩
    | processCompleted received receiveTime =>
      change ∃ operations : List Clock.Action, _ ∧ Matches number (if n.client.working then
        { n with client := n.client.processCompleted received receiveTime } else n) _
      split_ifs
      · exact hnone (h.processCompleted received receiveTime) _
      · exact ⟨[], Nat.zero_le _, h⟩
    | requestDue now c =>
      change ∃ operations : List Clock.Action, _ ∧ Matches number
        (if n.client.working && n.client.requestDue now then n.requestSynchronization c accepted
          else n) _
      split_ifs
      · exact h.requestSynchronization accepted hhonest
      · exact ⟨[], Nat.zero_le _, h⟩
    | requestSynchronization c => exact h.requestSynchronization accepted hhonest

/-- As few numbers are drawn as requests may have been sent. -/
theorem draws_answers {actions : List Action} {answers : List (List Clock.Action)}
    (h : List.Forall₂ (fun a operations =>
      operations.countP Clock.Action.draws ≤ a.requests.toNat) actions answers) :
    answers.flatten.countP Clock.Action.draws ≤ actions.countP Action.requests := by
  induction h with
  | nil => exact le_rfl
  | @cons a operations actions answers hfirst _ ih =>
    have hcount : (a :: actions).countP Action.requests =
        actions.countP Action.requests + a.requests.toNat := by
      rw [List.countP_cons]
      cases a.requests <;> rfl
    rw [List.flatten_cons, List.countP_append, hcount]
    omega

/-- A client and a server between which TCP runs are two instances of the protocol that exchange
datagrams, with the same samples, which are sound while the numbers of the client last: the times in
a sample are those of one answer of the server to one request of the client, which came in on a
connection of the client's, at the time the answer says. -/
theorem tcp_exchange (number : ℕ → ℕ) (world : R.net.World) (actions : List Action)
    (hpermitted : Meets step (Permitted number) (start world : TCPClockLink R) actions) :
    let n := run step (start world : TCPClockLink R) actions
    (∃ operations, let x := run Exchange.step (Exchange.start honestPair) operations
      x.node .client = n.client.protocol ∧ samples x.history = n.client.submitted ∧
        (actions.countP Action.requests < maximumDraws → Sound x.history)) ∧
    ∀ sample ∈ n.client.submitted, ∃ k message sequence before after,
      n.server.log = before ++ .request (number k) message (some
        { header := { type := MessageType.response.code, sequence }
          t1 := sample.localRequestTransmitTime
          t2 := sample.remoteRequestReceiveTime
          t3 := sample.remoteResponseTransmitTime }) :: after ∧
      lastRead before = some (number k, sample.remoteRequestReceiveTime) := by
  intro n
  obtain ⟨answers, hanswers, h⟩ := (simulates number).run (matches_start number world) hpermitted
  set x := run Exchange.step (Exchange.start honestPair) answers.flatten with hx
  have hdraws : draws .client x.history ≤ actions.countP Action.requests := by
    have hrun := draws_run (Exchange.start honestPair) answers.flatten
    have hstart : draws .client (Exchange.start honestPair).history = 0 := rfl
    have hanswered := draws_answers hanswers
    rw [← hx, hstart] at hrun
    omega
  have hcaused : Caused x.history := ((genuine_start honestPair).run answers.flatten).caused
  refine ⟨⟨answers.flatten, h.client, h.submitted.symm, fun hfew =>
    ((inv_start honestPair).run answers.flatten (hdraws.trans_lt hfew)).sound⟩,
    fun sample hsample => ?_⟩
  have hmem : sample ∈ samples x.history := h.submitted ▸ hsample
  obtain ⟨event, hevent, hthis⟩ := List.mem_filterMap.mp (List.mem_reverse.mp hmem)
  split at hthis
  · cases hthis
    obtain ⟨newer, older, hhistory⟩ := List.append_of_mem hevent
    obtain ⟨⟨sequence, hhandled⟩, -⟩ := (hhistory ▸ hcaused : Caused (newer ++ _ :: older)).causedBy
    have hin : ClockEvent.handled .reference sequence sample.localRequestTransmitTime
        sample.remoteRequestReceiveTime sample.remoteResponseTransmitTime ∈ x.history := by
      rw [hhistory]
      simp [hhandled]
    obtain ⟨k, message, hk⟩ := h.handled _ _ _ _ hin
    obtain ⟨before, after, hlog⟩ := List.append_of_mem hk
    obtain ⟨t, hread, hanswer⟩ := h.serving.dated before _ after hlog _ _ _ rfl
    refine ⟨k, message, sequence, before, after, hlog, ?_⟩
    rw [hread, ← answers_time hanswer]
  · cases hthis

theorem wholeLength_le (_ : ℕ) (data : Bytes) (_ : ℕ) : data.length ≤ data.length := le_rfl

/-- A server over a network that takes all it is given, with a clock that ticks when it is read. -/
@[reducible] def tickingHost : ClockServerHost where
  net :=
    { World := ℕ
      connected := fun _ w => (true, w)
      write := fun _ data w => (data.length, w)
      write_le := wholeLength_le
      stop := fun _ w => w }
  localTimestamp w := (UInt64.ofNat w, w + 1)

/-- The first connection of the client is the first of the server. -/
def firstOnly (k : ℕ) : ℕ := if k = 1 then 1 else 0

theorem inOrder_firstOnly {n : TCPClockLink tickingHost}
    (hclient : n.received <+: (framesOn (firstOnly n.connections) n.server.clients.wire).flatten)
    (hfirst : bytesRead 1 n.server.log <+: n.written 1) (hnone : bytesRead 0 n.server.log = []) :
    n.InOrder firstOnly where
  client := hclient
  server k := by
    by_cases hk : k = 1
    · subst hk
      exact hfirst
    · rw [firstOnly, if_neg hk, hnone]
      exact List.nil_prefix

def oneRequest : Bytes := encodeFrame eventMagic (RequestMessage.encode
  { header := { type := MessageType.request.code, sequence := 1 }, t1 := 1000 })

def oneResponse : Bytes := responseFrame
  { header := { type := MessageType.response.code, sequence := 1 }, t1 := 1000, t2 := 1500, t3 := 1501 }

/-- The client connects and asks, the server reads the request in two pieces and answers. -/
def oneRound : List Action :=
  [.client (.initializeWith { host := [104] } true) 0,
    .server (.startServer { maximumClients := 1 } true),
    .client (.requestSynchronization ⟨⟨false, 3000, 3000, true⟩, 3000, 1000, true, 3000⟩) 0,
    .server (.onWorkerIteration
      { incoming := true, reads := fun _ => [oneRequest.take 9, oneRequest.drop 9] }),
    .client (.poll ⟨true, 3000, 3000, true⟩ [oneResponse]) 0, .client (.processCompleted 3001 1200) 0]

theorem oneRound_permitted :
    Meets step (Permitted firstOnly) (start (1499 : ℕ) : TCPClockLink tickingHost) oneRound := by
  have hread {n : TCPClockLink tickingHost} (a : Action)
      (hclient : (n.step a).received <+:
        (framesOn (firstOnly (n.step a).connections) (n.step a).server.clients.wire).flatten)
      (hfirst : bytesRead 1 (n.step a).server.log <+: (n.step a).written 1)
      (hnone : bytesRead 0 (n.step a).server.log = []) : (n.step a).InOrder firstOnly :=
    inOrder_firstOnly hclient hfirst hnone
  refine ⟨⟨trivial, hread _ ?_ ?_ ?_⟩, ⟨trivial, hread _ ?_ ?_ ?_⟩,
    ⟨(fun hfalse => by cases hfalse), hread _ ?_ ?_ ?_⟩, ⟨trivial, hread _ ?_ ?_ ?_⟩,
    ⟨fun _ => ?_, hread _ ?_ ?_ ?_⟩, ⟨trivial, hread _ ?_ ?_ ?_⟩, trivial⟩
  all_goals decide +kernel

theorem tcp_exchange_oneRound :
    let n := run step (start (1499 : ℕ) : TCPClockLink tickingHost) oneRound
    n.client.submitted = [⟨1000, 1500, 1501, 1200⟩] ∧
      ∃ k message sequence before after,
        n.server.log = before ++ .request (firstOnly k) message (some
          { header := { type := MessageType.response.code, sequence }
            t1 := 1000, t2 := 1500, t3 := 1501 }) :: after ∧
        lastRead before = some (firstOnly k, 1500) := by
  intro n
  have hsubmitted : n.client.submitted = [⟨1000, 1500, 1501, 1200⟩] := by decide +kernel
  have hsamples := (tcp_exchange (R := tickingHost) firstOnly (1499 : ℕ) oneRound
    oneRound_permitted).2
  refine ⟨hsubmitted, hsamples ⟨1000, 1500, 1501, 1200⟩ ?_⟩
  change _ ∈ n.client.submitted
  rw [hsubmitted]
  exact List.mem_singleton.mpr rfl

end TCPClockLink
end Sockets.Clock
