import Sockets.Clock.Server
import Sockets.Foundation.Chunking
import Sockets.Foundation.Log

/-! What a TCP clock server makes of its connections: each is served as if it were the only one, and
by the bytes that were read from it alone. -/
namespace Sockets.Clock
open Foundation Transport Sockets.Frame

/-- The decoder of a connection. -/
def eventFramer : Framer UInt8 Bytes Unit := frameFramer eventMagic maxEventPacketSize

/-- The chunks read from a connection. -/
def chunksRead (connection : ℕ) (log : List ClockServerEvent) : List Bytes :=
  log.filterMap fun
    | .read c chunk _ => if c = connection then some chunk else none
    | .request _ _ _ => none

/-- The bytes read from a connection. -/
def bytesRead (connection : ℕ) (log : List ClockServerEvent) : Bytes :=
  (chunksRead connection log).flatten

/-- The messages taken from a connection, with their answers. -/
def requestsOn (connection : ℕ) (log : List ClockServerEvent) :
    List (Bytes × Option ResponseMessage) :=
  log.filterMap fun
    | .request c message response => if c = connection then some (message, response) else none
    | .read _ _ _ => none

/-- From which connection the latest chunk was read, and when. -/
def lastRead (log : List ClockServerEvent) : Option (ℕ × UInt64) :=
  (log.filterMap fun
    | .read c _ receiveTime => some (c, receiveTime)
    | .request _ _ _ => none).getLast?

/-- The frames a connection was offered. -/
def framesOn (connection : ℕ) (wire : List WireEvent) : List Bytes :=
  wire.filterMap fun
    | .sent c frame _ => if c = connection then some frame else none
    | .connected _ _ => none

/-- The frame of a response. -/
def responseFrame (response : ResponseMessage) : Bytes := encodeFrame eventMagic response.encode

/-- The messages that a reference answers. -/
def IsRequest (message : Bytes) : Prop :=
  message.length = requestSize ∧ (RequestMessage.decode message).header.IsOf .request

instance (message : Bytes) : Decidable (IsRequest message) := inferInstanceAs (Decidable (_ ∧ _))

theorem isRequest_encode (sequence : UInt32) (t1 : UInt64) : IsRequest (RequestMessage.encode
    { header := { type := MessageType.request.code, sequence }, t1 }) := by
  refine ⟨RequestMessage.length_encode _, ?_⟩
  rw [RequestMessage.decode_encode]
  exact ⟨rfl, rfl, rfl⟩

/-- A request is answered with its own number and time, the time of reception and some time of
transmission; nothing else is answered. -/
def Answers (receiveTime : UInt64) (message : Bytes) (response : Option ResponseMessage) : Prop :=
  if IsRequest message then
    ∃ t3, response = some
      { header := { type := MessageType.response.code
                    sequence := (RequestMessage.decode message).header.sequence }
        t1 := (RequestMessage.decode message).t1, t2 := receiveTime, t3 }
  else response = none

/-- Every message has the answer it is due, with the time at which the chunk that completed it was
read from its connection. -/
def Dated (log : List ClockServerEvent) : Prop :=
  Throughout (fun before e _ => ∀ connection message response,
    e = .request connection message response →
    ∃ receiveTime, lastRead before = some (connection, receiveTime) ∧
      Answers receiveTime message response) log

/-- The last chunk read from a connection found no room in its decoder, behind the part of a frame
that the chunks before it had left there. -/
def Overran (connection : ℕ) (log : List ClockServerEvent) : Prop :=
  ∃ done last part, chunksRead connection log = done ++ [last] ∧
    eventFramer.leftover done.flatten = .ok part ∧
    maxEventPacketSize + Frame.headerSize < part.length + last.length ∧
    (requestsOn connection log).map Prod.fst = eventFramer.frames done.flatten

/-- The messages taken from a connection are the frames in what was read of it, but for a last chunk
that was refused because of its length. -/
def Follows (connection : ℕ) (log : List ClockServerEvent) : Prop :=
  (requestsOn connection log).map Prod.fst = eventFramer.frames (bytesRead connection log) ∨
    Overran connection log

/-- The messages taken from a connection are the frames in the first of the bytes read from it. -/
theorem Follows.front {connection : ℕ} {log : List ClockServerEvent}
    (h : Follows connection log) : ∃ done, done <+: bytesRead connection log ∧
      (requestsOn connection log).map Prod.fst = eventFramer.frames done := by
  rcases h with hall | ⟨done, last, -, hchunks, -, -, htaken⟩
  · exact ⟨_, List.prefix_rfl, hall⟩
  · refine ⟨done.flatten, ?_, htaken⟩
    rw [bytesRead, hchunks, List.flatten_append]
    exact List.prefix_append _ _

theorem leftover_nil : eventFramer.leftover [] = .ok [] := by
  rw [Framer.leftover, Framer.drain_more _ eventFramer.cut_nil]

theorem frames_nil : eventFramer.frames [] = [] :=
  (Framer.drain_of_more eventFramer.cut_nil).2

/-- The messages of the protocol have a size each, and all of them fit into a frame. -/
theorem fits_of_length {message : Bytes} {size : ℕ} (hlength : message.length = size)
    (hpos : 0 < size) (hmax : size ≤ maxEventPacketSize) : Fits maxEventPacketSize message := by
  refine ⟨?_, hlength.trans_le hmax, ?_⟩
  · rw [← List.length_pos_iff, hlength]
    exact hpos
  · rw [hlength]
    exact hmax.trans_lt (by norm_num [maxEventPacketSize])

theorem fits_response (response : ResponseMessage) : Fits maxEventPacketSize response.encode :=
  fits_of_length response.length_encode (by decide) (by decide)

theorem framesOn_append (connection : ℕ) (older newer : List WireEvent) :
    framesOn connection (older ++ newer) =
      framesOn connection older ++ framesOn connection newer := List.filterMap_append

/-- The messages of one chunk, with their answers. -/
def taken (connection : ℕ) (answered : List (Bytes × Option ResponseMessage)) :
    List ClockServerEvent :=
  answered.map fun a => .request connection a.1 a.2

theorem chunksRead_taken (c connection : ℕ) (answered : List (Bytes × Option ResponseMessage)) :
    chunksRead c (taken connection answered) = [] := by
  rw [chunksRead, List.filterMap_eq_nil_iff]
  intro e he
  obtain ⟨a, -, rfl⟩ := List.mem_map.mp he
  rfl

theorem requestsOn_taken (c connection : ℕ) (answered : List (Bytes × Option ResponseMessage)) :
    requestsOn c (taken connection answered) = if connection = c then answered else [] := by
  unfold requestsOn taken
  rw [List.filterMap_map]
  split_ifs with hc
  · subst hc
    simp
  · simp [hc]

theorem lastRead_taken (log : List ClockServerEvent) (connection : ℕ)
    (answered : List (Bytes × Option ResponseMessage)) :
    lastRead (log ++ taken connection answered) = lastRead log := by
  have hnone : (taken connection answered).filterMap (fun
      | .read c _ receiveTime => some (c, receiveTime)
      | .request _ _ _ => none) = [] := by
    unfold taken
    rw [List.filterMap_map]
    simp
  unfold lastRead
  rw [List.filterMap_append, hnone, List.append_nil]

/-- One chunk more of a connection, and what was taken from it. -/
def chunkTaken (connection : ℕ) (chunk : Bytes) (receiveTime : UInt64)
    (answered : List (Bytes × Option ResponseMessage)) : List ClockServerEvent :=
  .read connection chunk receiveTime :: taken connection answered

section Chunk
variable (connection : ℕ) (chunk : Bytes) (receiveTime : UInt64)
  (answered : List (Bytes × Option ResponseMessage)) (log : List ClockServerEvent)

theorem chunksRead_chunkTaken (c : ℕ) :
    chunksRead c (log ++ chunkTaken connection chunk receiveTime answered) =
      chunksRead c log ++ if connection = c then [chunk] else [] := by
  have hrest := chunksRead_taken c connection answered
  unfold chunksRead at hrest ⊢
  rw [chunkTaken, List.filterMap_append, List.filterMap_cons, hrest]
  split_ifs with hc <;> simp [hc]

theorem bytesRead_chunkTaken (c : ℕ) :
    bytesRead c (log ++ chunkTaken connection chunk receiveTime answered) =
      bytesRead c log ++ if connection = c then chunk else [] := by
  unfold bytesRead
  rw [chunksRead_chunkTaken, List.flatten_append]
  split_ifs
  · rw [List.flatten_singleton]
  · rfl

theorem requestsOn_chunkTaken (c : ℕ) :
    requestsOn c (log ++ chunkTaken connection chunk receiveTime answered) =
      requestsOn c log ++ if connection = c then answered else [] := by
  have hrest := requestsOn_taken c connection answered
  unfold requestsOn at hrest ⊢
  rw [chunkTaken, List.filterMap_append, List.filterMap_cons_none rfl, hrest]

/-- The answers of a chunk carry the time at which it was read. -/
theorem dated_chunkTaken (h : Dated log) (hdue : ∀ a ∈ answered, Answers receiveTime a.1 a.2) :
    Dated (log ++ chunkTaken connection chunk receiveTime answered) := by
  refine Throughout.append h ?_ fun h => h
  refine Throughout.cons (fun _ _ _ he => by cases he) ?_
  rintro before e after hlog c message response rfl
  -- in front of a message there are only messages of the same chunk
  have hbefore : before = taken connection (answered.take before.length) := by
    rw [taken, List.map_take, ← taken, hlog, List.take_left]
  obtain ⟨a, ha, he⟩ : ∃ a ∈ answered, .request connection a.1 a.2 =
      ClockServerEvent.request c message response := by
    have hmem : ClockServerEvent.request c message response ∈ taken connection answered := by
      rw [hlog]
      simp
    exact List.mem_map.mp hmem
  cases he
  refine ⟨receiveTime, ?_, hdue a ha⟩
  rw [hbefore, List.append_cons, lastRead_taken]
  unfold lastRead
  rw [List.filterMap_append]
  exact List.getLast?_concat

end Chunk

/-- A `Push` hands over the frames at the front of what it has, unless the chunk is too long. -/
theorem event_push_eq {σ : Type*} (cb : Bytes → σ → σ) {chunk : Bytes} (hchunk : chunk ≠ [])
    (d : SocketEventFrameDecoder) (s : σ) :
    d.push cb chunk s =
      if SocketEventFrameDecoder.fits d.buffer.length chunk.length then
        let s' := (eventFramer.frames (d.buffer ++ chunk)).foldl (fun s m => cb m s) s
        match eventFramer.leftover (d.buffer ++ chunk) with
        | .ok rest => (true, ⟨rest⟩, s')
        | .error _ => (false, ⟨[]⟩, s')
      else (false, ⟨[]⟩, s) := by
  unfold SocketEventFrameDecoder.push
  rw [if_neg hchunk]
  by_cases hfits : SocketEventFrameDecoder.fits d.buffer.length chunk.length = true
  · rw [if_pos hfits, Framer.feed_eq_report hfits, Framer.drain_leftover]
    change _ = match eventFramer.leftover (d.buffer ++ chunk) with
      | .ok rest => _
      | .error _ => _
    unfold eventFramer
    cases (frameFramer eventMagic maxEventPacketSize).leftover (d.buffer ++ chunk) <;> rfl
  · rw [if_neg hfits, Framer.feed, if_neg hfits]

namespace TCPClockSynchronizationServer
variable {R : ClockServerHost} {v v' v'' : TCPClockSynchronizationServer R}

/-- From `v` to `v'` these messages of the connection in a slot were taken and answered. -/
structure Handles (slot : ℕ) (receiveTime : UInt64)
    (answered : List (Bytes × Option ResponseMessage)) (v v' : TCPClockSynchronizationServer R) :
    Prop where
  slots : Clients.SameSlots v.clients v'.clients
  decoder : v'.decoder = v.decoder
  protocol : v'.protocol = v.protocol
  config : v'.config = v.config
  log : v'.log = v.log ++ taken (v.clients.client slot) answered
  due : ∀ a ∈ answered, Answers receiveTime a.1 a.2
  sent : ∃ sends, v'.clients.wire = v.clients.wire ++ sends ∧ ∀ c, framesOn c sends =
    if v.clients.client slot = c then answered.filterMap fun a => a.2.map responseFrame else []

theorem Handles.nil (slot : ℕ) (receiveTime : UInt64) (v : TCPClockSynchronizationServer R) :
    Handles slot receiveTime [] v v where
  slots := .refl _
  decoder := rfl
  protocol := rfl
  config := rfl
  log := (List.append_nil _).symm
  due := by simp
  sent := ⟨[], (List.append_nil _).symm, fun c => by split_ifs <;> rfl⟩

theorem Handles.trans {slot : ℕ} {receiveTime : UInt64}
    {answered answered' : List (Bytes × Option ResponseMessage)}
    (h : Handles slot receiveTime answered v v') (h' : Handles slot receiveTime answered' v' v'') :
    Handles slot receiveTime (answered ++ answered') v v'' where
  slots := h.slots.trans h'.slots
  decoder := h'.decoder.trans h.decoder
  protocol := h'.protocol.trans h.protocol
  config := h'.config.trans h.config
  log := by
    rw [h'.log, h.log, h.slots.1, List.append_assoc, taken, taken, taken, List.map_append]
  due a ha := (List.mem_append.mp ha).elim (h.due a) (h'.due a)
  sent := by
    obtain ⟨sends, hwire, hframes⟩ := h.sent
    obtain ⟨sends', hwire', hframes'⟩ := h'.sent
    refine ⟨sends ++ sends', by rw [hwire', hwire, List.append_assoc], fun c => ?_⟩
    rw [h.slots.1] at hframes'
    rw [framesOn_append, hframes, hframes']
    split_ifs
    · rw [List.filterMap_append]
    · rfl

theorem buildSocketEventFrame_response (response : ResponseMessage) :
    buildSocketEventFrame response.encode = responseFrame response :=
  buildSocketEventFrame_eq (fits_response response)

/-- What a response leaves on the wire. -/
theorem sendMessage_response (slot : ℕ) (response : ResponseMessage)
    (v : TCPClockSynchronizationServer R) : ∃ w accepted,
    (v.sendMessage slot response.encode).2 = { v with clients := { v.clients with
      world := w
      wire := v.clients.wire ++ [.sent (v.clients.client slot) (responseFrame response)
        accepted] } } := by
  have hframe : responseFrame response ≠ [] := encodeFrame_ne_nil _ _
  unfold sendMessage
  rw [buildSocketEventFrame_response]
  dsimp only
  rw [if_neg hframe]
  exact ⟨_, _, rfl⟩

/-- The answer of a reference, whatever its clock shows. -/
theorem answers_processRequest {p : SocketClockSynchronizationProtocol}
    (hp : p.isReferenceMode = true) (message : Bytes) (receiveTime now : UInt64) :
    Answers receiveTime message (p.processRequest message receiveTime now) := by
  unfold Answers SocketClockSynchronizationProtocol.processRequest
  dsimp only
  by_cases hlength : message.length = requestSize
  · have hread : ¬ (!p.isReferenceMode || decide (message.length ≠ requestSize)) = true := by
      simp [hp, hlength]
    by_cases hof : (RequestMessage.decode message).header.IsOf .request
    · have hrequest : IsRequest message := ⟨hlength, hof⟩
      rw [if_pos hrequest, if_neg hread, if_neg (not_not.mpr hof)]
      exact ⟨now, rfl⟩
    · have hrequest : ¬ IsRequest message := fun h => hof h.2
      rw [if_neg hrequest, if_neg hread, if_pos hof]
  · have hrequest : ¬ IsRequest message := fun h => hlength h.1
    have hskip : (!p.isReferenceMode || decide (message.length ≠ requestSize)) = true := by
      simp [hlength]
    rw [if_neg hrequest, if_pos hskip]

theorem processRequest_handles (hp : v.protocol.isReferenceMode = true) (slot : ℕ)
    (receiveTime : UInt64) (message : Bytes) : ∃ response,
    Handles slot receiveTime [(message, response)] v (v.processRequest slot receiveTime message) := by
  have hanswer := answers_processRequest hp message receiveTime v.getLocalTimestamp.1
  unfold processRequest
  dsimp only
  cases hresponse : v.protocol.processRequest message receiveTime v.getLocalTimestamp.1 with
  | none =>
    rw [hresponse] at hanswer
    refine ⟨none, ⟨rfl, rfl, rfl⟩, rfl, rfl, rfl, rfl, by simpa using hanswer,
      [], (List.append_nil _).symm, fun c => ?_⟩
    split_ifs <;> rfl
  | some response =>
    rw [hresponse] at hanswer
    obtain ⟨w, accepted, hsent⟩ := sendMessage_response slot response
      (v.getLocalTimestamp.2.record (.request (v.clients.client slot) message (some response)))
    dsimp only
    rw [hsent]
    refine ⟨some response, ⟨rfl, rfl, rfl⟩, rfl, rfl, rfl, rfl, by simpa using hanswer,
      _, rfl, fun c => ?_⟩
    change framesOn c [.sent (v.clients.client slot) (responseFrame response) accepted] = _
    unfold framesOn
    split_ifs with hc <;> simp [hc]

/-- The messages of a chunk, one after the other. -/
theorem processRequests_handles (hp : v.protocol.isReferenceMode = true) (slot : ℕ)
    (receiveTime : UInt64) (messages : List Bytes) : ∃ answered, answered.map Prod.fst = messages ∧
    Handles slot receiveTime answered v
      (messages.foldl (fun v m => v.processRequest slot receiveTime m) v) := by
  induction messages generalizing v with
  | nil => exact ⟨[], rfl, .nil slot receiveTime v⟩
  | cons message messages ih =>
    obtain ⟨response, hfirst⟩ := processRequest_handles hp slot receiveTime message
    obtain ⟨answered, hmessages, hrest⟩ :=
      ih (v := v.processRequest slot receiveTime message) (by rw [hfirst.protocol]; exact hp)
    exact ⟨(message, response) :: answered, by rw [List.map_cons, hmessages], hfirst.trans hrest⟩

/-- The server once a chunk has been read, and before the decoder has seen it. -/
def begin (slot : ℕ) (chunk : Bytes) (v : TCPClockSynchronizationServer R) :
    TCPClockSynchronizationServer R :=
  v.getLocalTimestamp.2.record (.read (v.clients.client slot) chunk v.getLocalTimestamp.1)

/-- What a chunk adds to the log. -/
theorem Handles.log_begin {slot : ℕ} {chunk : Bytes}
    {answered : List (Bytes × Option ResponseMessage)}
    (hu : Handles slot v.getLocalTimestamp.1 answered (v.begin slot chunk) v') :
    v'.log = v.log ++ chunkTaken (v.clients.client slot) chunk v.getLocalTimestamp.1 answered := by
  rw [hu.log]
  exact List.append_assoc _ _ _

/-- A chunk that is accepted leaves a part of a frame behind; one that is refused, for its length or
for what is in it, is the last of its connection. -/
theorem readChunk_outcome (hp : v.protocol.isReferenceMode = true) (slot : ℕ) {chunk : Bytes}
    (hchunk : chunk ≠ []) :
    let bytes := (v.decoder slot).buffer ++ chunk
    ∃ answered u, Handles slot v.getLocalTimestamp.1 answered (v.begin slot chunk) u ∧
      ((∃ rest, eventFramer.leftover bytes = .ok rest ∧
          answered.map Prod.fst = eventFramer.frames bytes ∧
          v.readChunk slot chunk = (true, u.setDecoder slot ⟨rest⟩)) ∨
        v.readChunk slot chunk = (false, (u.setDecoder slot ⟨[]⟩).releaseClient slot) ∧
          (SocketEventFrameDecoder.fits (v.decoder slot).buffer.length chunk.length = false ∧
              answered = [] ∨
            (∃ e, eventFramer.leftover bytes = .error e) ∧
              answered.map Prod.fst = eventFramer.frames bytes)) := by
  intro bytes
  have hbegun : (v.begin slot chunk).protocol.isReferenceMode = true := hp
  have hread : v.readChunk slot chunk =
      let r := (v.decoder slot).push (processRequest slot v.getLocalTimestamp.1) chunk
        (v.begin slot chunk)
      (r.1, if r.1 then r.2.2.setDecoder slot r.2.1
        else (r.2.2.setDecoder slot r.2.1).releaseClient slot) := rfl
  rw [hread, event_push_eq _ hchunk]
  by_cases hfits : SocketEventFrameDecoder.fits (v.decoder slot).buffer.length chunk.length = true
  · obtain ⟨answered, hmessages, hhandles⟩ := processRequests_handles hbegun slot
      v.getLocalTimestamp.1 (eventFramer.frames bytes)
    rw [if_pos hfits]
    refine ⟨answered, _, hhandles, ?_⟩
    cases hleft : eventFramer.leftover bytes with
    | ok rest => exact .inl ⟨rest, rfl, hmessages, rfl⟩
    | error e => exact .inr ⟨rfl, .inr ⟨⟨e, rfl⟩, hmessages⟩⟩
  · rw [if_neg hfits]
    exact ⟨[], _, .nil slot _ _, .inr ⟨rfl, .inl ⟨by simpa using hfits, rfl⟩⟩⟩

/-- What is known of the decoder of a slot: it has read all that was read of the slot's connection. -/
def Current (v : TCPClockSynchronizationServer R) (slot : ℕ) : Prop :=
  eventFramer.leftover (bytesRead (v.clients.client slot) v.log) = .ok (v.decoder slot).buffer ∧
    (requestsOn (v.clients.client slot) v.log).map Prod.fst =
      eventFramer.frames (bytesRead (v.clients.client slot) v.log)

/-- What holds at all times. -/
structure Sound (v : TCPClockSynchronizationServer R) : Prop where
  reference : v.protocol.isReferenceMode = true
  numbered : ∀ slot, v.clients.client slot ≤ v.clients.connections
  apart : ∀ slot slot', v.clients.active slot = true → v.clients.active slot' = true →
    v.clients.client slot = v.clients.client slot' → slot = slot'
  follows : ∀ connection, Follows connection v.log
  unread : ∀ connection, v.clients.connections < connection →
    bytesRead connection v.log = [] ∧ requestsOn connection v.log = []
  dated : Dated v.log
  sent : ∀ connection, framesOn connection v.clients.wire =
    (requestsOn connection v.log).filterMap fun a => a.2.map responseFrame

/-- What holds between two operations. -/
structure Serving (v : TCPClockSynchronizationServer R) : Prop extends Sound v where
  current : ∀ slot, v.clients.active slot = true → v.Current slot

theorem serving_start (world : R.net.World) :
    Serving ({ clients := { world } } : TCPClockSynchronizationServer R) where
  reference := rfl
  numbered _ := le_rfl
  apart _ _ h := absurd h Bool.false_ne_true
  current _ h := absurd h Bool.false_ne_true
  follows _ := .inl frames_nil.symm
  unread _ _ := ⟨rfl, rfl⟩
  dated := .nil
  sent _ := rfl

/-- `connected()` moves the network on, and nothing else. -/
theorem Serving.queryClient (h : Serving v) (slot : ℕ) : Serving (v.queryClient slot).2 where
  reference := h.reference
  numbered := h.numbered
  apart := h.apart
  current := h.current
  follows := h.follows
  unread := h.unread
  dated := h.dated
  sent connection := by
    change framesOn connection (v.clients.wire ++ [.connected _ _]) = _
    rw [framesOn_append, h.sent connection]
    exact List.append_nil _

/-- Of a slot that is given up nothing is asked any more. -/
theorem Sound.releaseClient (h : Sound v) {slot : ℕ} (d : SocketEventFrameDecoder)
    (hcurrent : ∀ s ≠ slot, v.clients.active s = true → v.Current s) :
    Serving ((v.setDecoder slot d).releaseClient slot) where
  reference := h.reference
  numbered := h.numbered
  apart slot₁ slot₂ h₁ h₂ := by
    have hstill {s : ℕ} (hs : Function.update v.clients.active slot false s = true) :
        v.clients.active s = true := by
      by_cases hsame : s = slot
      · subst hsame
        simp at hs
      · rwa [Function.update_of_ne hsame] at hs
    exact h.apart slot₁ slot₂ (hstill h₁) (hstill h₂)
  current s hs := by
    change Function.update v.clients.active slot false s = true at hs
    by_cases hsame : s = slot
    · subst hsame
      simp at hs
    · rw [Function.update_of_ne hsame] at hs
      have hdecoder : (Function.update v.decoder slot d) s = v.decoder s :=
        Function.update_of_ne hsame _ _
      change _ = Except.ok ((Function.update v.decoder slot d) s).buffer ∧ _
      rw [hdecoder]
      exact hcurrent s hsame hs
  follows := h.follows
  unread := h.unread
  dated := h.dated
  sent := h.sent

/-- Nothing has been read of a connection that has just come in. -/
theorem Serving.admitClient (h : Serving v) (slot : ℕ) : Serving (v.admitClient slot) := by
  have hclient (s : ℕ) : (v.admitClient slot).clients.client s =
      if s = slot then v.clients.connections + 1 else v.clients.client s :=
    Function.update_apply _ _ _ _
  have hactive (s : ℕ) : (v.admitClient slot).clients.active s =
      if s = slot then true else v.clients.active s := Function.update_apply _ _ _ _
  have hdecoder (s : ℕ) : (v.admitClient slot).decoder s =
      if s = slot then (v.decoder slot).reset else v.decoder s := Function.update_apply _ _ _ _
  obtain ⟨hbytes, hrequests⟩ := h.unread (v.clients.connections + 1) (Nat.lt_succ_self _)
  refine ⟨⟨h.reference, fun s => ?_, fun s s' hs hs' hsame => ?_, h.follows,
    fun c hc => h.unread c ((Nat.lt_succ_self _).trans hc), h.dated, h.sent⟩, fun s hs => ?_⟩
  · change _ ≤ v.clients.connections + 1
    rw [hclient]
    split_ifs
    · exact le_rfl
    · exact (h.numbered s).trans (Nat.le_succ _)
  · have hnew (s : ℕ) := h.numbered s
    rw [hclient, hclient] at hsame
    rw [hactive] at hs hs'
    split_ifs at hsame hs hs' with hslot hslot' hslot'
    · exact hslot.trans hslot'.symm
    · have hle := hnew s'
      omega
    · have hle := hnew s
      omega
    · exact h.apart s s' hs hs' hsame
  · unfold Current
    rw [hclient, hdecoder]
    rw [hactive] at hs
    split_ifs at hs ⊢ with hslot
    · change eventFramer.leftover (bytesRead _ v.log) = _ ∧ List.map _ (requestsOn _ v.log) =
        eventFramer.frames (bytesRead _ v.log)
      rw [hbytes, hrequests, frames_nil]
      exact ⟨leftover_nil, rfl⟩
    · exact h.current s hs

theorem Serving.place (h : Serving v) (slots : List ℕ) : Serving (v.place slots) := by
  induction slots generalizing v with
  | nil => exact h
  | cons slot slots ih =>
    have hquery : Serving (if v.clients.active slot then v.queryClient slot else (false, v)).2 := by
      split_ifs
      · exact h.queryClient slot
      · exact h
    unfold TCPClockSynchronizationServer.place
    dsimp only
    generalize (if v.clients.active slot then v.queryClient slot else (false, v)) = q at hquery ⊢
    split_ifs
    · exact ih hquery
    · exact hquery.admitClient slot

/-- Reading from one connection leaves the decoders of the others where they are. -/
theorem Serving.current_other (h : Serving v) {slot : ℕ} (hactive : v.clients.active slot = true)
    {chunk : Bytes} {answered : List (Bytes × Option ResponseMessage)}
    {u : TCPClockSynchronizationServer R}
    (hu : Handles slot v.getLocalTimestamp.1 answered (v.begin slot chunk) u)
    (d : SocketEventFrameDecoder) {s : ℕ} (hs : s ≠ slot) (hsactive : u.clients.active s = true) :
    (u.setDecoder slot d).Current s := by
  have hclient : u.clients.client = v.clients.client := hu.slots.1
  have hstill : v.clients.active s = true := by
    rw [hu.slots.2.1] at hsactive
    exact hsactive
  have hlog := hu.log_begin
  have hdecoder : (u.setDecoder slot d).decoder s = v.decoder s := by
    change Function.update u.decoder slot d s = _
    rw [Function.update_of_ne hs, hu.decoder]
    rfl
  have hother : ¬ v.clients.client slot = v.clients.client s := fun heq =>
    hs (h.apart s slot hstill hactive heq.symm)
  have hcurrent := h.current s hstill
  unfold Current at hcurrent ⊢
  rw [hdecoder]
  change eventFramer.leftover (bytesRead (u.clients.client s) u.log) = _ ∧
    (requestsOn (u.clients.client s) u.log).map _ =
      eventFramer.frames (bytesRead (u.clients.client s) u.log)
  rw [hclient, hlog, bytesRead_chunkTaken, requestsOn_chunkTaken, if_neg hother, if_neg hother,
    List.append_nil, List.append_nil]
  exact hcurrent

/-- What holds while the messages of a chunk are taken. -/
theorem Serving.sound (h : Serving v) {slot : ℕ} {chunk : Bytes}
    {answered : List (Bytes × Option ResponseMessage)} {u : TCPClockSynchronizationServer R}
    (hu : Handles slot v.getLocalTimestamp.1 answered (v.begin slot chunk) u)
    (hfollows : Follows (v.clients.client slot) u.log) : Sound u := by
  obtain ⟨sends, hwire, hframes⟩ := hu.sent
  have hlog := hu.log_begin
  refine ⟨?_, fun s => ?_, fun s s' hs hs' hsame => ?_, fun c => ?_, fun c hc => ?_, ?_, fun c => ?_⟩
  · rw [hu.protocol]
    exact h.reference
  · rw [hu.slots.1, hu.slots.2.2]
    exact h.numbered s
  · rw [hu.slots.2.1] at hs hs'
    rw [hu.slots.1] at hsame
    exact h.apart s s' hs hs' hsame
  · by_cases hc : v.clients.client slot = c
    · exact hc ▸ hfollows
    · have hsame := h.follows c
      unfold Follows Overran bytesRead at hsame ⊢
      rwa [hlog, chunksRead_chunkTaken, requestsOn_chunkTaken, if_neg hc, if_neg hc,
        List.append_nil, List.append_nil]
  · rw [hu.slots.2.2] at hc
    have hother : ¬ v.clients.client slot = c := by
      have hle := h.numbered slot
      change v.clients.connections < c at hc
      omega
    rw [hlog, bytesRead_chunkTaken, requestsOn_chunkTaken, if_neg hother, if_neg hother,
      List.append_nil, List.append_nil]
    exact h.unread c hc
  · rw [hlog]
    exact dated_chunkTaken _ _ _ _ _ h.dated hu.due
  · have hbefore : framesOn c (v.begin slot chunk).clients.wire = framesOn c v.clients.wire := rfl
    have hthis : (v.begin slot chunk).clients.client slot = v.clients.client slot := rfl
    rw [hwire, framesOn_append, hframes, hbefore, h.sent c, hlog, requestsOn_chunkTaken, hthis]
    split_ifs
    · rw [List.filterMap_append]
    · rw [List.append_nil, List.append_nil]

/-- One read of an active slot. -/
theorem Serving.readChunk (h : Serving v) {slot : ℕ} (hactive : v.clients.active slot = true)
    {chunk : Bytes} (hchunk : chunk ≠ []) :
    Serving (v.readChunk slot chunk).2 ∧
      ((v.readChunk slot chunk).1 = true → (v.readChunk slot chunk).2.clients.active slot = true) := by
  obtain ⟨hleft, hframes⟩ := h.current slot hactive
  obtain ⟨answered, u, hu, houtcome⟩ := readChunk_outcome h.reference slot hchunk
  have hlog := hu.log_begin
  have hbytes : bytesRead (v.clients.client slot) u.log =
      bytesRead (v.clients.client slot) v.log ++ chunk := by
    rw [hlog, bytesRead_chunkTaken, if_pos rfl]
  have hrequests : (requestsOn (v.clients.client slot) u.log).map Prod.fst =
      eventFramer.frames (bytesRead (v.clients.client slot) v.log) ++ answered.map Prod.fst := by
    rw [hlog, requestsOn_chunkTaken, if_pos rfl, List.map_append, hframes]
  obtain ⟨hleftover, happend⟩ := Framer.leftover_append hleft chunk
  rcases houtcome with ⟨rest, hrest, hanswered, hread⟩ | ⟨hread, hrefused⟩
  · have hall : (requestsOn (v.clients.client slot) u.log).map Prod.fst =
        eventFramer.frames (bytesRead (v.clients.client slot) u.log) := by
      rw [hrequests, hanswered, hbytes, happend]
    have hsound : Sound u := h.sound hu (.inl hall)
    rw [hread]
    refine ⟨⟨⟨hsound.reference, hsound.numbered, hsound.apart, hsound.follows, hsound.unread,
      hsound.dated, hsound.sent⟩, fun s hs => ?_⟩, fun _ => ?_⟩
    · by_cases hsame : s = slot
      · subst hsame
        have hdecoder : (u.setDecoder s ⟨rest⟩).decoder s = ⟨rest⟩ := Function.update_self _ _ _
        have hclient : u.clients.client s = v.clients.client s := congrFun hu.slots.1 s
        unfold Current
        rw [hdecoder]
        change eventFramer.leftover (bytesRead (u.clients.client s) u.log) = _ ∧
          (requestsOn (u.clients.client s) u.log).map _ =
            eventFramer.frames (bytesRead (u.clients.client s) u.log)
        rw [hclient, hbytes, hleftover, hrest, ← hbytes]
        exact ⟨rfl, hall⟩
      · exact h.current_other hactive hu _ hsame hs
    · change u.clients.active slot = true
      rw [hu.slots.2.1]
      exact hactive
  · have hfollows : Follows (v.clients.client slot) u.log := by
      rcases hrefused with ⟨hlong, hnone⟩ | ⟨-, hanswered⟩
      · -- a chunk that is refused for its length has not been looked at
        refine .inr ⟨chunksRead (v.clients.client slot) v.log, chunk, _, ?_, hleft, ?_, ?_⟩
        · rw [hlog, chunksRead_chunkTaken, if_pos rfl]
        · simp only [SocketEventFrameDecoder.fits, decide_eq_false_iff_not] at hlong
          omega
        · rw [hrequests, hnone, List.map_nil, List.append_nil]
          rfl
      · refine .inl ?_
        rw [hrequests, hanswered, hbytes, happend]
    rw [hread]
    refine ⟨(h.sound hu hfollows).releaseClient _ fun s hs hsactive => ?_,
      fun hfalse => by cases hfalse⟩
    have hother := h.current_other hactive hu (u.decoder slot) hs hsactive
    have hsame : u.setDecoder slot (u.decoder slot) = u := by
      unfold setDecoder
      rw [Function.update_eq_self]
    rwa [hsame] at hother

theorem take_readCapacity_ne_nil {chunk : Bytes} (h : chunk ≠ []) :
    chunk.take readCapacity ≠ [] := by
  have hpos := List.length_pos_iff.mpr h
  rw [← List.length_pos_iff, List.length_take]
  unfold readCapacity
  omega

theorem Serving.readClient (h : Serving v) {slot : ℕ} (hactive : v.clients.active slot = true)
    (chunks : List Bytes) : Serving (v.readClient slot chunks) := by
  induction chunks generalizing v with
  | nil => exact h
  | cons chunk chunks ih =>
    unfold TCPClockSynchronizationServer.readClient
    split_ifs with hempty
    · exact h
    · obtain ⟨hserving, hstill⟩ := h.readChunk hactive (take_readCapacity_ne_nil hempty)
      dsimp only
      split_ifs with hread
      · exact ih hserving (hstill hread)
      · exact hserving

theorem Serving.serveClient (h : Serving v) (reads : ℕ → List Bytes) (slot : ℕ) :
    Serving (v.serveClient reads slot) := by
  have hquery := h.queryClient slot
  unfold TCPClockSynchronizationServer.serveClient
  split_ifs with hactive
  · exact h
  · dsimp only
    split_ifs
    · exact hquery.toSound.releaseClient _ fun s _ => hquery.current s
    · exact hquery.readClient (by simpa [TCPClockSynchronizationServer.queryClient,
        Clients.connected] using hactive) _

theorem Serving.step (h : Serving v) (a : Action) : Serving (v.step a) := by
  cases a with
  | startServer config started =>
    change Serving (v.initializeWith config started).2
    unfold initializeWith
    split_ifs
    · exact h
    · exact h
    · exact ⟨⟨h.reference, h.numbered, h.apart, h.follows, h.unread, h.dated, h.sent⟩, h.current⟩
    · exact ⟨⟨h.reference, h.numbered, h.apart, h.follows, h.unread, h.dated, h.sent⟩, h.current⟩
  | shutdown =>
    have hcleared : Serving ((List.range R.maxTCPClients).foldl
        (fun v slot => (v.setDecoder slot (v.decoder slot).reset).releaseClient slot) v) :=
      List.foldlRecOn (motive := Serving) _ _ h fun v hv slot _ =>
        hv.toSound.releaseClient _ fun s _ => hv.current s
    change Serving v.shutdown
    unfold shutdown
    split_ifs
    · exact h
    · exact ⟨⟨hcleared.reference, hcleared.numbered, hcleared.apart, hcleared.follows,
        hcleared.unread, hcleared.dated, hcleared.sent⟩, hcleared.current⟩
  | onWorkerIteration i =>
    have haccept : Serving (v.acceptClientLocked i.incoming) := by
      unfold acceptClientLocked
      split_ifs
      · exact h
      · exact h.place _
    change Serving (if v.server then v.onWorkerIteration i else v)
    split_ifs
    · exact List.foldlRecOn (motive := Serving) _ _ haccept fun v hv slot _ =>
        hv.serveClient i.reads slot
    · exact h

end TCPClockSynchronizationServer

/-- Whatever clients come and go, the messages taken from a connection are the frames in the bytes
read from it, but for a last chunk that overran the decoder; each request among them, and nothing
else, is answered on that connection, in order, with its own number and time and with the time at
which the chunk that completed it was read. -/
theorem requests_answered {R : ClockServerHost} (world : R.net.World)
    (actions : List TCPClockSynchronizationServer.Action) :
    let v := run TCPClockSynchronizationServer.step
      ({ clients := { world } } : TCPClockSynchronizationServer R) actions
    (∀ slot slot', v.clients.active slot = true → v.clients.active slot' = true →
        v.clients.client slot = v.clients.client slot' → slot = slot') ∧
      Dated v.log ∧
      ∀ connection, Follows connection v.log ∧ framesOn connection v.clients.wire =
        (requestsOn connection v.log).filterMap fun a => a.2.map responseFrame := by
  intro v
  have h : v.Serving := run_induction (P := TCPClockSynchronizationServer.Serving)
    (fun _ a h => h.step a) (TCPClockSynchronizationServer.serving_start world) actions
  exact ⟨h.apart, h.dated, fun connection => ⟨h.follows connection, h.sent connection⟩⟩

end Sockets.Clock
