import Sockets.Command.Policy

/-! Sessions of different connections: what one is taken for depends on what was read from it. -/
namespace Sockets.Command
open Foundation Transport

section
variable {Value : Type} [CommandLibrary Value] {H : CommandHost Value}

/-- Between `x` and `y` these requests were handled. -/
def Handled (x y : Exterior H) (requests : List Bytes) : Prop := ∃ accepted, Calls x y requests accepted

theorem Handled.refl (x : Exterior H) : Handled x x [] := ⟨0, .refl x⟩

theorem Handled.trans {x y z : Exterior H} {r r' : List Bytes} (h : Handled x y r)
    (h' : Handled y z r') : Handled x z (r ++ r') := by
  obtain ⟨_, h⟩ := h
  obtain ⟨_, h'⟩ := h'
  exact ⟨_, h.trans h'⟩

/-- The requests in a piece of a log. -/
theorem Handled.requests {x y : Exterior H} {r : List Bytes} (h : Handled x y r) :
    (y.log.drop x.log.length).filterMap CommandEvent.request? = r := by
  obtain ⟨_, calls, hlog, hrequests, -⟩ := h
  rw [hlog, List.drop_left, hrequests]

/-- The sessions have the same input behind them and read it in the same way. -/
structure SameInput [SizeWidth] (s s' : SocketCommandSession H) : Prop where
  config : s.config = s'.config
  line : s.line = s'.line
  structured : s.structured = s'.structured
  discard : s.discardUntilNewline = s'.discardUntilNewline
  expected : s.expectedStructuredBytes = s'.expectedStructuredBytes
  initialized : s.initialized = s'.initialized

theorem SameInput.refl [SizeWidth] (s : SocketCommandSession H) : SameInput s s :=
  ⟨rfl, rfl, rfl, rfl, rfl, rfl⟩

theorem SameInput.trans [SizeWidth] {s s' s'' : SocketCommandSession H} (h : SameInput s s')
    (h' : SameInput s' s'') : SameInput s s'' :=
  ⟨h.config.trans h'.config, h.line.trans h'.line, h.structured.trans h'.structured,
    h.discard.trans h'.discard, h.expected.trans h'.expected, h.initialized.trans h'.initialized⟩

/-- Beside their input, sessions have their handlers and metadata. -/
theorem SameInput.exists_eq [SizeWidth] {s s' : SocketCommandSession H} (h : SameInput s s') :
    ∃ registry metadata writer policy observer,
      s' = { s with registry, metadata, writer, policy, observer } := by
  obtain ⟨hconfig, hline, hstructured, hdiscard, hexpected, hinit⟩ := h
  refine ⟨s'.registry, s'.metadata, s'.writer, s'.policy, s'.observer, ?_⟩
  rw [hconfig, hline, hstructured, hdiscard, hexpected, hinit]

/-- Both sessions handled the same requests and have the same input left. -/
def TakenAlike [SizeWidth] (x x' : Exterior H) (r r' : Bool × SocketCommandSession H × Exterior H) :
    Prop :=
  SameInput r.2.1 r'.2.1 ∧ ∃ requests, Handled x r.2.2 requests ∧ Handled x' r'.2.2 requests

theorem TakenAlike.behind [SizeWidth] {x x' y y' : Exterior H}
    {r r' : Bool × SocketCommandSession H × Exterior H} {requests : List Bytes}
    (h : TakenAlike y y' r r') (hx : Handled x y requests) (hx' : Handled x' y' requests) :
    TakenAlike x x' r r' := by
  obtain ⟨hsame, rest, hr, hr'⟩ := h
  exact ⟨hsame, requests ++ rest, hx.trans hr, hx'.trans hr'⟩

namespace SocketCommandSession
variable [SizeWidth]

theorem handled_writeLineResult (s : SocketCommandSession H) (result : CommandResult)
    (x : Exterior H) : Handled x (s.writeLineResult result x).2 [] := ⟨_, calls_write _ _ _⟩

/-- Handling a line starts no other request. -/
theorem handled_handleLine (line : Bytes) (s : SocketCommandSession H) (x : Exterior H) :
    Handled x (s.handleLine line x).2.2 [] := by
  unfold handleLine
  dsimp only
  split_ifs
  · exact .refl x
  · exact s.handled_writeLineResult _ x
  · split
    · exact s.handled_writeLineResult _ x
    · rename_i command _ _
      have hrun (y : Exterior H) (context : SocketCommandInvocationContext Value)
          (registry : H.Registry) :
          Handled y (s.writeLineResult (y.invokeLine registry (trim line)).1
            ((y.invokeLine registry (trim line)).2.observe s.observer context
              (y.invokeLine registry (trim line)).1)).2 [] := by
        have hinvoked : Handled y (y.invokeLine registry (trim line)).2 [] :=
          ⟨_, calls_record { y with world := _ } _⟩
        exact (hinvoked.trans ⟨_, calls_observe _ _ _ _⟩).trans (s.handled_writeLineResult _ _)
      split
      · split
        · exact .refl x
        · exact hrun x _ _
      · rename_i policy _
        have hasked (context : SocketCommandInvocationContext Value) :
            Handled x (x.callPolicy policy context).2 [] := ⟨_, calls_policy x policy context⟩
        split_ifs
        · exact ((hasked _).trans ⟨_, calls_observe _ _ _ _⟩).trans (s.handled_writeLineResult _ _)
        · split
          · exact hasked _
          · exact (hasked _).trans (hrun _ _ _)

omit [SizeWidth] in
theorem handled_during {handle : Exterior H → Bool × SocketCommandMetadata × Exterior H}
    (h : ∀ y, Handled y (handle y).2.2 []) (request : Bytes) (x : Exterior H) :
    Handled x (during request handle x).2.2 [request] :=
  (Handled.trans ⟨_, calls_record x (.received request)⟩ (h _)).trans ⟨_, calls_record _ .handled⟩

/-- In line mode the requests in a chunk are those of any session with the same input. -/
theorem feedLine_alike {s s' : SocketCommandSession H} (h : SameInput s s') (data : Bytes)
    (success success' : Bool) (x x' : Exterior H) :
    TakenAlike x x' (feedLine data success s x) (feedLine data success' s' x') := by
  induction data generalizing success success' s s' x x' with
  | nil => exact ⟨h, [], .refl x, .refl x'⟩
  | cons c data ih =>
    obtain ⟨registry, metadata, writer, policy, observer, rfl⟩ := h.exists_eq
    unfold feedLine
    dsimp only
    split_ifs with hcr hlf hlong hstop hfull
    · exact ih h _ _ _ _
    · exact ⟨⟨rfl, rfl, rfl, rfl, rfl, rfl⟩, [], handled_writeLineResult _ _ _,
        handled_writeLineResult _ _ _⟩
    · refine (ih ?_ _ _ _ _).behind (handled_writeLineResult _ _ _) (handled_writeLineResult _ _ _)
      exact ⟨rfl, rfl, rfl, rfl, rfl, rfl⟩
    · refine (ih ?_ _ _ _ _).behind (handled_during (handled_handleLine _ _) _ _)
        (handled_during (handled_handleLine _ _) _ _)
      exact ⟨rfl, rfl, rfl, rfl, rfl, rfl⟩
    · exact ih h _ _ _ _
    · refine ih ?_ _ _ _ _
      exact ⟨rfl, rfl, rfl, rfl, rfl, rfl⟩
    · refine ih ?_ _ _ _ _
      exact ⟨rfl, rfl, rfl, rfl, rfl, rfl⟩

theorem expect_alike {s s' : SocketCommandSession H} (h : SameInput s s') :
    match s.expect with
    | .wait => s'.expect = .wait
    | .invalid => s'.expect = .invalid
    | .ready t => ∃ t', s'.expect = .ready t' ∧ SameInput t t' := by
  obtain ⟨registry, metadata, writer, policy, observer, rfl⟩ := h.exists_eq
  unfold expect
  dsimp only
  split_ifs
  · exact ⟨_, rfl, h⟩
  · rfl
  · rfl
  · exact ⟨_, rfl, rfl, rfl, rfl, rfl, rfl, rfl⟩

theorem settle_alike {s s' : SocketCommandSession H} (h : SameInput s s') (success success' : Bool)
    (x x' : Exterior H) : TakenAlike x x' (settle success s x) (settle success' s' x') := by
  obtain ⟨registry, metadata, writer, policy, observer, rfl⟩ := h.exists_eq
  unfold settle
  dsimp only
  split_ifs
  · exact ⟨⟨rfl, rfl, rfl, rfl, rfl, rfl⟩, [], .refl x, .refl x'⟩
  · exact ⟨h, [], .refl x, .refl x'⟩

theorem handled_handleStructuredFrame (data : Bytes) (s : SocketCommandSession H)
    (x : Exterior H) : Handled x (s.handleStructuredFrame data x).2.2 [] :=
  ⟨_, calls_handleStructuredFrame data s x⟩

/-- In structured mode, too. -/
theorem structuredLoop_alike {s s' : SocketCommandSession H} (h : SameInput s s')
    (success success' : Bool) (x x' : Exterior H) :
    TakenAlike x x' (structuredLoop success s x) (structuredLoop success' s' x') := by
  induction success, s, x using structuredLoop.induct generalizing success' s' x' with
  | case1 success s x hexpect =>
    have hexpect' := expect_alike h
    simp only [hexpect] at hexpect'
    rw [structuredLoop_wait hexpect, structuredLoop_wait hexpect']
    exact settle_alike h success success' x x'
  | case2 success s x hexpect =>
    have hexpect' := expect_alike h
    simp only [hexpect] at hexpect'
    rw [structuredLoop_invalid hexpect, structuredLoop_invalid hexpect']
    exact ⟨⟨h.config, h.line, rfl, h.discard, rfl, h.initialized⟩, [],
      ⟨_, calls_writeResponse _ _ _⟩, ⟨_, calls_writeResponse _ _ _⟩⟩
  | case3 success s x t hexpect hlen =>
    have hexpect' := expect_alike h
    simp only [hexpect] at hexpect'
    obtain ⟨t', hexpect', ht⟩ := hexpect'
    rw [structuredLoop_ready hexpect, structuredLoop_ready hexpect', if_pos hlen,
      if_pos (by rwa [← ht.structured, ← ht.expected])]
    exact settle_alike ht success success' x x'
  | case4 success s x t hexpect hlen data r =>
    rename_i ih
    have hexpect' := expect_alike h
    simp only [hexpect] at hexpect'
    obtain ⟨t', hexpect', ht⟩ := hexpect'
    obtain ⟨registry, metadata, writer, policy, observer, rfl⟩ := ht.exists_eq
    rw [structuredLoop_ready hexpect, structuredLoop_ready hexpect', if_neg hlen, if_neg hlen]
    refine TakenAlike.behind (ih ?_ _ _) (handled_during (handled_handleStructuredFrame _ t) _ _)
        (handled_during (handled_handleStructuredFrame _ _) _ _)
    exact ⟨rfl, rfl, rfl, rfl, rfl, rfl⟩

/-- Whatever their handlers answer, sessions with the same input take a chunk alike. -/
theorem feed_alike {s s' : SocketCommandSession H} (h : SameInput s s') (chunk : Bytes)
    (x x' : Exterior H) : TakenAlike x x' (s.feed chunk x) (s'.feed chunk x') := by
  obtain ⟨registry, metadata, writer, policy, observer, rfl⟩ := h.exists_eq
  unfold feed
  dsimp only
  split_ifs
  · exact ⟨h, [], .refl x, .refl x'⟩
  · cases s.config.mode with
    | line => exact feedLine_alike h chunk true true x x'
    | structuredBinary =>
      unfold feedStructured
      dsimp only
      split_ifs
      · exact ⟨h, [], .refl x, .refl x'⟩
      · refine structuredLoop_alike ?_ true true x x'
        exact ⟨rfl, rfl, rfl, rfl, rfl, rfl⟩

/-- So they take any sequence of chunks. -/
theorem feedAll_alike {s s' : SocketCommandSession H} (h : SameInput s s') (chunks : List Bytes)
    (x x' : Exterior H) :
    SameInput (feedAll chunks s x).2.1 (feedAll chunks s' x').2.1 ∧
      (feedAll chunks s x).1.flatMap FeedCall.requests =
        (feedAll chunks s' x').1.flatMap FeedCall.requests := by
  induction chunks generalizing s s' x x' with
  | nil => exact ⟨h, rfl⟩
  | cons chunk chunks ih =>
    obtain ⟨hsame, requests, hx, hx'⟩ := feed_alike h chunk x x'
    obtain ⟨hrest, hrequests⟩ := ih hsame (s.feed chunk x).2.2 (s'.feed chunk x').2.2
    refine ⟨hrest, ?_⟩
    simp only [feedAll, List.flatMap_cons, FeedCall.requests, hx.requests, hx'.requests]
    exact congrArg (requests ++ ·) hrequests

theorem feedAll_append (chunks more : List Bytes) (s : SocketCommandSession H) (x : Exterior H) :
    feedAll (chunks ++ more) s x =
      let r := feedAll chunks s x
      let t := feedAll more r.2.1 r.2.2
      (r.1 ++ t.1, t.2) := by
  induction chunks generalizing s x with
  | nil => rfl
  | cons chunk chunks ih => simp only [List.cons_append, feedAll, ih]

/-- A session as `Initialize` leaves it, but for its handlers and metadata. -/
def blank (config : SocketCommandSessionConfig) : SocketCommandSession H :=
  { config, initialized := true }

theorem blank_opened (registry : H.Registry) {config : SocketCommandSessionConfig}
    (hmax : config.maximumRequestBytes.val ≠ 0) (metadata : SocketCommandMetadata)
    (writer : H.Writer) (policy : Option H.Policy) (observer : Option H.Observer) :
    SameInput (blank config) (opened registry config metadata writer policy observer) := by
  rw [opened_eq registry hmax]
  exact ⟨rfl, rfl, rfl, rfl, rfl, rfl⟩

/-- Whatever a session was used for before, `Initialize` leaves nothing of its input. -/
theorem blank_initialized {registry : H.Registry} {config : SocketCommandSessionConfig}
    {metadata : SocketCommandMetadata} {writer : Option H.Writer} {s : SocketCommandSession H}
    (h : (initializeWith registry config metadata writer s).1 = true) :
    config.maximumRequestBytes.val ≠ 0 ∧
      SameInput (blank config) (initializeWith registry config metadata writer s).2 := by
  unfold initializeWith at h ⊢
  dsimp only at h ⊢
  split_ifs at h ⊢ with hfail
  simp only [Bool.or_eq_true, decide_eq_true_eq, not_or] at hfail
  exact ⟨hfail.2, rfl, rfl, rfl, rfl, rfl, rfl⟩

end SocketCommandSession
end

section
variable {Value : Type} [CommandLibrary Value] {T : TCPCommandHost Value}

/-- The requests handled on a connection. -/
def requestsOf (connection : ℕ) (log : List (ServerEvent T)) : List Bytes :=
  log.filterMap fun
    | .session c call => if c = connection then call.request? else none
    | _ => none

/-- The identifier that a connection was accepted with. -/
def sessionIDOf (connection : ℕ) (log : List (ServerEvent T)) : Option UInt64 :=
  log.findSome? fun
    | .accepted c peer => if c = connection then some peer.sessionID else none
    | _ => none

/-- The requests handled under an identifier. -/
def requestsUnder (sessionID : UInt64) (log : List (ServerEvent T)) : List Bytes :=
  log.filterMap fun
    | .session c call => if sessionIDOf c log = some sessionID then call.request? else none
    | _ => none

theorem requestsOf_append (connection : ℕ) (log log' : List (ServerEvent T)) :
    requestsOf connection (log ++ log') = requestsOf connection log ++ requestsOf connection log' :=
  List.filterMap_append

theorem requestsOf_sessions (connection connection' : ℕ) (calls : List (CommandEvent T.sessions)) :
    requestsOf connection (calls.map (.session connection')) =
      if connection' = connection then calls.filterMap CommandEvent.request? else [] := by
  unfold requestsOf
  rw [List.filterMap_map]
  split_ifs with h
  · exact List.filterMap_congr fun call _ => by simp [h]
  · exact List.filterMap_eq_nil_iff.mpr fun call _ => by simp [h]

theorem exists_of_sessionIDOf {connection : ℕ} {log : List (ServerEvent T)} {sessionID : UInt64}
    (h : sessionIDOf connection log = some sessionID) :
    ∃ peer, .accepted connection peer ∈ log ∧ peer.sessionID = sessionID := by
  obtain ⟨e, hmem, he⟩ := List.exists_of_findSome?_eq_some h
  cases e with
  | accepted c peer =>
    simp only [Option.ite_none_right_eq_some, Option.some.injEq] at he
    exact ⟨peer, he.1 ▸ hmem, he.2⟩
  | _ => cases he

theorem sessionIDOf_eq {connection : ℕ} {log : List (ServerEvent T)} {peer : Peer}
    (hmem : .accepted connection peer ∈ log)
    (hunique : ∀ peer', .accepted connection peer' ∈ log → peer' = peer) :
    sessionIDOf connection log = some peer.sessionID := by
  cases h : sessionIDOf connection log with
  | none =>
    have hnone := List.findSome?_eq_none_iff.mp h _ hmem
    simp at hnone
  | some sessionID =>
    obtain ⟨peer', hmem', rfl⟩ := exists_of_sessionIDOf h
    rw [hunique peer' hmem']

variable [SizeWidth]

namespace TCPCommandServer

/-- The chunks that the reads of one slot return until the connection is given up. -/
def chunksRead (slot : ℕ) : List Bytes → TCPCommandServer T → List Bytes
  | [], _ => []
  | chunk :: chunks, v =>
    let r := v.feedClient slot chunk
    chunk :: if !r.1 && v.config.session.disconnectOnProtocolError then []
      else chunksRead slot chunks r.2

def chunksServed (reads : ℕ → List Bytes) (slot : ℕ) (v : TCPCommandServer T) : List Bytes :=
  if !v.clients.active slot then []
  else
    let q := v.clients.connected slot
    if !q.1 then [] else chunksRead slot (reads slot) { v with clients := q.2 }

/-- The configuration under which a connection that came up was accepted. -/
def noteConfig (older newer : TCPCommandServer T) (config : ℕ → SocketCommandSessionConfig) :
    ℕ → SocketCommandSessionConfig :=
  if older.clients.connections < newer.clients.connections then
    Function.update config newer.clients.connections older.config.session
  else config

end TCPCommandServer

/-- A server beside which is kept what was read from every connection, and the configuration the
connection was accepted under. -/
structure Reading (T : TCPCommandHost Value) [SizeWidth] where
  server : TCPCommandServer T
  read : ℕ → List Bytes := fun _ => []
  config : ℕ → SocketCommandSessionConfig := fun _ => {}

namespace Reading
open TCPCommandServer

def accept (incoming : Option Incoming) (g : Reading T) : Reading T :=
  let v := g.server.acceptClientLocked incoming
  { g with
    server := v
    config := noteConfig g.server v g.config }

def serve (reads : ℕ → List Bytes) (g : Reading T) (slot : ℕ) : Reading T :=
  let connection := g.server.clients.client slot
  { g with
    server := g.server.serveClient reads slot
    read := Function.update g.read connection
      (g.read connection ++ g.server.chunksServed reads slot) }

def onWorkerIteration (i : Iteration) (g : Reading T) : Reading T :=
  if !g.server.server then g
  else
    let g := g.accept i.incoming
    (List.range g.server.config.maximumClients).foldl (serve i.reads) g

def step (g : Reading T) : Action T → Reading T
  | .onWorkerIteration i => g.onWorkerIteration i
  | a => { g with server := g.server.step a }

/-- The server does not notice. -/
theorem step_server (g : Reading T) (a : Action T) : (g.step a).server = g.server.step a := by
  cases a with
  | onWorkerIteration i =>
    have hfold (slots : List ℕ) (g : Reading T) :
        (slots.foldl (serve i.reads) g).server = slots.foldl (serveClient i.reads) g.server := by
      induction slots generalizing g with
      | nil => rfl
      | cons slot slots ih => exact ih (g.serve i.reads slot)
    simp only [step, TCPCommandServer.step, onWorkerIteration, TCPCommandServer.onWorkerIteration]
    split_ifs
    · rfl
    · exact hfold _ _
  | _ => rfl

theorem run_server (g : Reading T) (actions : List (Action T)) :
    (run step g actions).server = run TCPCommandServer.step g.server actions := by
  induction actions generalizing g with
  | nil => rfl
  | cons a actions ih => rw [run_cons, ih, step_server, run_cons]

end Reading

open TCPCommandServer SocketCommandSession

/-- What holds between a server, what was read from its connections and the configurations they
were accepted under. -/
structure Isolated (v : TCPCommandServer T) (read : ℕ → List Bytes)
    (config : ℕ → SocketCommandSessionConfig) : Prop where
  inv : v.Inv
  numbered : ∀ connection peer, .accepted connection peer ∈ v.log →
    0 < connection ∧ (connection < 2 ^ 64 → peer.sessionID.toNat = connection)
  next : v.clients.connections + 1 < 2 ^ 64 →
    v.nextSessionID.toNat = v.clients.connections + 1
  id : ∀ slot, v.clients.active slot = true → ∀ peer,
    .accepted (v.clients.client slot) peer ∈ v.log → v.id slot = peer.sessionID
  ready : ∀ slot, v.clients.active slot = true →
    (config (v.clients.client slot)).maximumRequestBytes.val ≠ 0
  input : ∀ slot, v.clients.active slot = true → ∀ x,
    SameInput (feedAll (read (v.clients.client slot)) (blank (config (v.clients.client slot))) x).2.1
      (v.session slot)
  limited : ∀ connection, read connection ≠ [] → (config connection).maximumRequestBytes.val ≠ 0
  requests : ∀ connection (x : Exterior T.sessions),
    (feedAll (read connection) (blank (config connection)) x).1.flatMap FeedCall.requests =
      requestsOf connection v.log
  unread : ∀ connection, v.clients.connections < connection → read connection = []

namespace Isolated
variable {v v' : TCPCommandServer T} {read : ℕ → List Bytes}
  {config : ℕ → SocketCommandSessionConfig}

theorem start (world : T.net.World) :
    Isolated { clients := { world } : TCPCommandServer T } (fun _ => []) (fun _ => {}) where
  inv := inv_start world
  numbered := by simp
  next _ := rfl
  id _ h := absurd h (by simp)
  ready _ h := absurd h (by simp)
  input _ h := absurd h (by simp)
  limited _ h := absurd rfl h
  requests _ _ := rfl
  unread _ _ := rfl

/-- Operations that read nothing and accept nobody. -/
theorem frame (h : Isolated v read config) (hinv : v'.Inv)
    (haccepted : ∀ connection peer, .accepted connection peer ∈ v'.log →
      .accepted connection peer ∈ v.log)
    (hrequests : ∀ connection, requestsOf connection v'.log = requestsOf connection v.log)
    (hnext : v'.nextSessionID = v.nextSessionID)
    (hconnections : v'.clients.connections = v.clients.connections)
    (hslots : ∀ slot, v'.clients.active slot = true → v.clients.active slot = true ∧
      v'.clients.client slot = v.clients.client slot ∧ v'.id slot = v.id slot ∧
        SameInput (v.session slot) (v'.session slot)) : Isolated v' read config where
  inv := hinv
  numbered connection peer hmem := h.numbered connection peer (haccepted connection peer hmem)
  next := by
    rw [hnext, hconnections]
    exact h.next
  id slot hactive peer hmem := by
    obtain ⟨hwas, hclient, hid, -⟩ := hslots slot hactive
    rw [hid]
    exact h.id slot hwas peer (hclient ▸ haccepted _ peer hmem)
  ready slot hactive := by
    obtain ⟨hwas, hclient, -⟩ := hslots slot hactive
    rw [hclient]
    exact h.ready slot hwas
  input slot hactive x := by
    obtain ⟨hwas, hclient, -, hsame⟩ := hslots slot hactive
    rw [hclient]
    exact (h.input slot hwas x).trans hsame
  limited := h.limited
  requests connection x := by
    rw [hrequests]
    exact h.requests connection x
  unread := by
    rw [hconnections]
    exact h.unread

theorem resetClient (h : Isolated v read config) (slot : ℕ) :
    Isolated (v.resetClient slot) read config := by
  refine h.frame (h.inv.resetClient slot) (fun _ _ hmem => hmem) (fun _ => rfl) rfl rfl
    fun slot' hactive => ?_
  have hne : slot' ≠ slot := by
    rintro rfl
    simp [TCPCommandServer.resetClient, Clients.setActive] at hactive
  have hactive' : v.clients.active slot' = true := by
    simpa [TCPCommandServer.resetClient, Clients.setActive, Clients.stop, updateSession,
      Function.update_of_ne hne] using hactive
  refine ⟨hactive', rfl, ?_, ?_⟩
  · simp [TCPCommandServer.resetClient, Function.update_of_ne hne, updateSession]
  · simp only [TCPCommandServer.resetClient, updateSession, Function.update_of_ne hne]
    exact .refl _

/-- The network may move on. -/
theorem clients (h : Isolated v read config) {x : Clients T.net}
    (hx : Clients.SameSlots v.clients x) : Isolated { v with clients := x } read config :=
  h.frame (h.inv.clients hx) (fun _ _ hmem => hmem) (fun _ => rfl) rfl hx.2.2
    fun slot hactive => ⟨hx.2.1 ▸ hactive, congrFun hx.1 slot, rfl, .refl _⟩

theorem setPolicy (h : Isolated v read config) (policy : Option T.Policy) :
    Isolated (v.setPolicy policy) read config := by
  refine h.frame (h.inv.setPolicy policy) (fun _ _ hmem => ?_) (fun _ => ?_) rfl rfl
    fun slot hactive => ⟨hactive, rfl, rfl, ?_⟩
  · simpa [TCPCommandServer.setPolicy] using hmem
  · exact (requestsOf_append _ _ _).trans (List.append_nil _)
  · have hsession : (v.setPolicy policy).session slot = (v.session slot).setPolicy policy :=
      if_pos hactive
    rw [hsession]
    exact ⟨rfl, rfl, rfl, rfl, rfl, rfl⟩

theorem setResultObserver (h : Isolated v read config) (observer : Option T.Observer) :
    Isolated (v.setResultObserver observer) read config := by
  refine h.frame (h.inv.setResultObserver observer) (fun _ _ hmem => hmem) (fun _ => rfl) rfl rfl
    fun slot hactive => ⟨hactive, rfl, rfl, ?_⟩
  have hsession : (v.setResultObserver observer).session slot =
      (v.session slot).setResultObserver observer := if_pos hactive
  rw [hsession]
  exact ⟨rfl, rfl, rfl, rfl, rfl, rfl⟩

theorem initializeWith (h : Isolated v read config) (c : TCPCommandServerConfig)
    (registry : T.Registry) (started : Bool) :
    Isolated (v.initializeWith c registry started) read config := by
  have hinv := h.inv.initializeWith c registry started
  unfold TCPCommandServer.initializeWith at hinv ⊢
  split_ifs at hinv ⊢
  · exact h
  · exact h.frame hinv (fun _ _ hmem => hmem) (fun _ => rfl) rfl rfl
      fun slot hactive => ⟨hactive, rfl, rfl, .refl _⟩
  · exact h.frame hinv (fun _ _ hmem => hmem) (fun _ => rfl) rfl rfl
      fun slot hactive => ⟨hactive, rfl, rfl, .refl _⟩

theorem shutdown (h : Isolated v read config) : Isolated v.shutdown read config := by
  have hfold (slots : List ℕ) {v : TCPCommandServer T} (h : Isolated v read config) :
      Isolated (slots.foldl (fun v slot => v.resetClient slot) v) read config := by
    induction slots generalizing v with
    | nil => exact h
    | cons slot slots ih => exact ih (h.resetClient slot)
  have hinv := h.inv.shutdown
  unfold TCPCommandServer.shutdown at hinv ⊢
  split_ifs at hinv ⊢
  · exact h
  · exact (hfold (List.range T.maxTCPClients) h).frame hinv (fun _ _ hmem => hmem) (fun _ => rfl)
      rfl rfl fun slot hactive => ⟨hactive, rfl, rfl, .refl _⟩

omit [SizeWidth] in
theorem toNat_advanceSessionID {id : UInt64} {n : ℕ} (h : id.toNat = n) (hn : n + 1 < 2 ^ 64) :
    (advanceSessionID id).toNat = n + 1 := by
  have hsum : (id + 1).toNat = n + 1 := by
    rw [UInt64.toNat_add, h, UInt64.toNat_one, Nat.mod_eq_of_lt hn]
  unfold advanceSessionID
  rw [if_neg fun h0 => ?_, hsum]
  rw [h0] at hsum
  cases hsum

/-- A connection gets its number as its identifier, as long as identifiers last. -/
theorem accept (h : Isolated v read config) {slot : ℕ} (hfree : v.clients.active slot = false)
    (peer : Peer) (hpeer : peer.sessionID = v.nextSessionID) (c : SocketCommandSessionConfig) :
    Isolated { v with
      clients := v.clients.assign slot
      id := Function.update v.id slot v.nextSessionID
      nextSessionID := advanceSessionID v.nextSessionID
      log := v.log ++ [.accepted (v.clients.connections + 1) peer] } read
      (Function.update config (v.clients.connections + 1) c) := by
  have hinv := h.inv.accept hfree peer (Function.update v.id slot v.nextSessionID)
    (advanceSessionID v.nextSessionID)
  have hold (connection : ℕ) (hread : read connection ≠ []) :
      connection ≠ v.clients.connections + 1 := by
    rintro rfl
    exact hread (h.unread _ (Nat.lt_succ_self _))
  have hother {slot' : ℕ} (hactive : v.clients.active slot' = true) : slot' ≠ slot := by
    rintro rfl
    rw [hfree] at hactive
    cases hactive
  have hclient {slot' : ℕ} (hactive : v.clients.active slot' = true) :
      (v.clients.assign slot).client slot' = v.clients.client slot' ∧
        v.clients.client slot' ≠ v.clients.connections + 1 := by
    obtain ⟨peer', hmem, -⟩ := h.inv.active slot' hactive
    have hle := h.inv.numbered _ _ hmem
    exact ⟨Function.update_of_ne (hother hactive) _ _, by omega⟩
  refine ⟨hinv, ?_, ?_, ?_, ?_, ?_, ?_, ?_, ?_⟩
  · intro connection peer' hmem
    rcases List.mem_append.mp hmem with hmem | hmem
    · exact h.numbered connection peer' hmem
    · cases List.mem_singleton.mp hmem
      exact ⟨Nat.succ_pos _, fun hlt => by rw [hpeer]; exact h.next hlt⟩
  · intro hlt
    exact toNat_advanceSessionID (h.next (Nat.lt_of_succ_lt hlt)) hlt
  · intro slot' hactive peer' hmem
    obtain ⟨hsame, hne⟩ := hclient hactive
    simp only [hsame] at hmem
    simp only [Function.update_of_ne (hother hactive)]
    apply h.id slot' hactive peer'
    simpa [hne] using hmem
  · intro slot' hactive
    obtain ⟨hsame, hne⟩ := hclient hactive
    simp only [hsame, Function.update_of_ne hne]
    exact h.ready slot' hactive
  · intro slot' hactive x
    obtain ⟨hsame, hne⟩ := hclient hactive
    simp only [hsame, Function.update_of_ne hne]
    exact h.input slot' hactive x
  · intro connection hread
    rw [Function.update_of_ne (hold connection hread)]
    exact h.limited connection hread
  · intro connection x
    rw [requestsOf_append]
    refine Eq.trans ?_ (List.append_nil _).symm
    by_cases hread : read connection = []
    · rw [← h.requests connection x, hread]
      rfl
    · rw [Function.update_of_ne (hold connection hread)]
      exact h.requests connection x
  · intro connection hlt
    exact h.unread connection (Nat.lt_of_succ_lt hlt)

/-- A session that was just initialised may be served. -/
theorem activate (h : Isolated v read config) {slot : ℕ} {s : SocketCommandSession T.sessions}
    (hinv : Inv { v with session := Function.update v.session slot s
                         clients := v.clients.setActive slot true })
    (hid : ∀ peer, .accepted (v.clients.client slot) peer ∈ v.log → v.id slot = peer.sessionID)
    (hmax : (config (v.clients.client slot)).maximumRequestBytes.val ≠ 0)
    (hread : read (v.clients.client slot) = [])
    (hs : SameInput (blank (config (v.clients.client slot))) s) :
    Isolated { v with session := Function.update v.session slot s
                      clients := v.clients.setActive slot true } read config := by
  have hactive' {slot' : ℕ} (hne : slot' ≠ slot)
      (hactive : (v.clients.setActive slot true).active slot' = true) :
      v.clients.active slot' = true := by
    simpa [Clients.setActive, Function.update_of_ne hne] using hactive
  refine ⟨hinv, h.numbered, h.next, ?_, ?_, ?_, h.limited, h.requests, h.unread⟩
  · intro slot' hactive peer hmem
    by_cases heq : slot' = slot
    · subst heq
      exact hid peer hmem
    · exact h.id slot' (hactive' heq hactive) peer hmem
  · intro slot' hactive
    by_cases heq : slot' = slot
    · subst heq
      exact hmax
    · exact h.ready slot' (hactive' heq hactive)
  · intro slot' hactive x
    by_cases heq : slot' = slot
    · subst heq
      simp only [Function.update_self]
      change SameInput (feedAll (read (v.clients.client slot')) _ x).2.1 s
      rw [hread]
      exact hs
    · simp only [Function.update_of_ne heq]
      exact h.input slot' (hactive' heq hactive) x

/-- A session in a slot that is not active may become anything. -/
theorem updateSession (h : Isolated v read config) {slot : ℕ}
    (hfree : v.clients.active slot = false)
    (f : SocketCommandSession T.sessions → SocketCommandSession T.sessions) :
    Isolated (v.updateSession slot f) read config := by
  refine h.frame (h.inv.updateSession hfree f) (fun _ _ hmem => hmem) (fun _ => rfl) rfl rfl
    fun slot' hactive => ⟨hactive, rfl, rfl, ?_⟩
  have hne : slot' ≠ slot := by
    rintro rfl
    exact absurd hactive (by simp [TCPCommandServer.updateSession, hfree])
  simp only [TCPCommandServer.updateSession, Function.update_of_ne hne]
  exact .refl _

theorem admitClient (h : Isolated v read config) (registry : T.Registry) (incoming : Incoming)
    (slot : ℕ) : Isolated (admitClient registry incoming slot v) read
      (Function.update config (v.clients.connections + 1) v.config.session) := by
  have hfree : (v.resetClient slot).clients.active slot = false := by
    simp [TCPCommandServer.resetClient, Clients.setActive]
  have haccept := (h.resetClient slot).accept hfree
    { slot, incoming, sessionID := v.nextSessionID, mode := v.config.session.mode } rfl
    v.config.session
  have hinv := h.inv.admitClient registry incoming slot
  unfold TCPCommandServer.admitClient at hinv ⊢
  dsimp only at hinv ⊢
  split_ifs at hinv ⊢ with hfailed
  · exact (haccept.updateSession hfree _).resetClient slot
  · rw [Bool.not_eq_true', Bool.not_eq_false] at hfailed
    obtain ⟨hmax, hblank⟩ := SocketCommandSession.blank_initialized hfailed
    have hclient : ((v.resetClient slot).clients.assign slot).client slot =
        v.clients.connections + 1 := Function.update_self _ _ _
    have hconfig : Function.update config ((v.resetClient slot).clients.connections + 1)
        v.config.session (v.clients.connections + 1) = v.config.session := Function.update_self _ _ _
    apply haccept.activate hinv
    · intro peer hmem
      simp only [hclient] at hmem
      rcases List.mem_append.mp hmem with hmem | hmem
      · exact absurd (h.inv.numbered _ _ hmem) (Nat.not_succ_le_self _)
      · cases List.mem_singleton.mp hmem
        exact Function.update_self _ _ _
    · simp only [hclient, hconfig]
      exact hmax
    · simp only [hclient]
      exact h.unread _ (Nat.lt_succ_self _)
    · simp only [hclient, hconfig]
      exact hblank.trans ⟨rfl, rfl, rfl, rfl, rfl, rfl⟩

theorem admitClient_connections (registry : T.Registry) (incoming : Incoming) (slot : ℕ)
    (v : TCPCommandServer T) :
    (TCPCommandServer.admitClient registry incoming slot v).clients.connections =
      v.clients.connections + 1 := by
  unfold TCPCommandServer.admitClient
  dsimp only
  split_ifs <;> rfl

theorem place (h : Isolated v read config) (registry : T.Registry) (incoming : Incoming)
    (slots : List ℕ) : Isolated (place registry incoming slots v) read
      (noteConfig v (TCPCommandServer.place registry incoming slots v) config) := by
  induction slots generalizing v with
  | nil =>
    unfold noteConfig TCPCommandServer.place
    rw [if_neg (lt_irrefl _)]
    exact h
  | cons slot slots ih =>
    have hquery : Clients.SameSlots v.clients
        (if v.clients.active slot then v.clients.connected slot else (false, v.clients)).2 := by
      split_ifs
      · exact Clients.sameSlots_connected slot v.clients
      · exact ⟨rfl, rfl, rfl⟩
    unfold TCPCommandServer.place
    dsimp only
    generalize (if v.clients.active slot then v.clients.connected slot else (false, v.clients)) = q
      at hquery
    have hmoved := h.clients hquery
    split_ifs
    · have hrest := ih hmoved
      unfold noteConfig at hrest ⊢
      rwa [show ({ v with clients := q.2 } : TCPCommandServer T).clients.connections =
        v.clients.connections from hquery.2.2] at hrest
    · have hconnections := admitClient_connections registry incoming slot { v with clients := q.2 }
      have hmore : v.clients.connections < (TCPCommandServer.admitClient registry incoming slot
          { v with clients := q.2 }).clients.connections := by
        rw [hconnections]
        exact Nat.lt_succ_of_le hquery.2.2.ge
      unfold noteConfig
      rw [if_pos hmore, hconnections]
      exact hmoved.admitClient registry incoming slot

/-- One more chunk of a connection in an active slot. -/
theorem feedClient (h : Isolated v read config) {slot : ℕ}
    (hactive : v.clients.active slot = true) (chunk : Bytes) :
    Isolated (v.feedClient slot chunk).2 (Function.update read (v.clients.client slot)
      (read (v.clients.client slot) ++ [chunk])) config := by
  obtain ⟨hinv, hslots⟩ := h.inv.feedClient hactive chunk
  obtain ⟨peer, hpeer, hpeerSlot, -⟩ := h.inv.active slot hactive
  have hother {slot' : ℕ} (hactive' : v.clients.active slot' = true)
      (heq : v.clients.client slot' = v.clients.client slot) : slot' = slot := by
    obtain ⟨peer', hpeer', hslot', -⟩ := h.inv.active slot' hactive'
    rw [heq] at hpeer'
    rw [← hslot', h.inv.unique _ _ _ hpeer' hpeer, hpeerSlot]
  have hfed (x : Exterior T.sessions) := feed_alike (h.input slot hactive x) chunk
    (feedAll (read (v.clients.client slot)) (blank (config (v.clients.client slot))) x).2.2
    { world := v.clients }
  have hlog : (v.feedClient slot chunk).2.log = v.log ++
      ((v.session slot).feed chunk { world := v.clients }).2.2.log.map
        (.session (v.clients.client slot)) := rfl
  have haccepted : ∀ connection peer, .accepted connection peer ∈ (v.feedClient slot chunk).2.log →
      .accepted connection peer ∈ v.log := by
    intro connection peer hmem
    rw [hlog] at hmem
    simpa using hmem
  refine ⟨hinv, fun connection peer hmem => h.numbered connection peer (haccepted _ _ hmem),
    ?_, ?_, ?_, ?_, ?_, ?_, ?_⟩
  · rw [hslots.2.2]
    exact h.next
  · intro slot' hactive' peer' hmem
    rw [hslots.2.1] at hactive'
    rw [hslots.1] at hmem
    exact h.id slot' hactive' peer' (haccepted _ _ hmem)
  · intro slot' hactive'
    rw [hslots.2.1] at hactive'
    rw [hslots.1]
    exact h.ready slot' hactive'
  · intro slot' hactive' x
    rw [hslots.2.1] at hactive'
    rw [hslots.1]
    by_cases heq : slot' = slot
    · subst heq
      have hsession : (v.feedClient slot' chunk).2.session slot' =
          ((v.session slot').feed chunk { world := v.clients }).2.1 := Function.update_self _ _ _
      rw [hsession, Function.update_self, feedAll_append]
      exact (hfed x).1
    · have hsession : (v.feedClient slot chunk).2.session slot' = v.session slot' :=
        Function.update_of_ne heq _ _
      rw [hsession, Function.update_of_ne fun hc => heq (hother hactive' hc)]
      exact h.input slot' hactive' x
  · intro connection hread
    by_cases heq : connection = v.clients.client slot
    · rw [heq]
      exact h.ready slot hactive
    · rw [Function.update_of_ne heq] at hread
      exact h.limited connection hread
  · intro connection x
    rw [hlog, requestsOf_append, requestsOf_sessions, ← h.requests connection x]
    by_cases heq : connection = v.clients.client slot
    · obtain ⟨-, requests, hx, hx'⟩ := hfed x
      have hevents := hx'.requests
      rw [List.length_nil, List.drop_zero] at hevents
      rw [heq, if_pos rfl, Function.update_self, feedAll_append, List.flatMap_append, hevents]
      simp only [feedAll, List.flatMap_cons, List.flatMap_nil, List.append_nil, FeedCall.requests,
        hx.requests]
    · rw [if_neg (Ne.symm heq), Function.update_of_ne heq, List.append_nil]
  · intro connection hlt
    rw [hslots.2.2] at hlt
    have hle := h.inv.numbered _ _ hpeer
    rw [Function.update_of_ne (by omega)]
    exact h.unread connection hlt

/-- The reads of one slot. -/
theorem readClient (h : Isolated v read config) {slot : ℕ}
    (hactive : v.clients.active slot = true) (chunks : List Bytes) :
    Isolated (v.readClient slot chunks) (Function.update read (v.clients.client slot)
      (read (v.clients.client slot) ++ v.chunksRead slot chunks)) config := by
  induction chunks generalizing v read with
  | nil =>
    unfold TCPCommandServer.readClient chunksRead
    rw [List.append_nil, Function.update_eq_self]
    exact h
  | cons chunk chunks ih =>
    have hfed := h.feedClient hactive chunk
    have hslots := (h.inv.feedClient hactive chunk).2
    unfold TCPCommandServer.readClient chunksRead
    dsimp only
    split_ifs
    · exact hfed.resetClient slot
    · have hrest := ih hfed (by rw [hslots.2.1]; exact hactive)
      rw [hslots.1, Function.update_self, Function.update_idem, List.append_assoc,
        List.singleton_append] at hrest
      exact hrest

end Isolated

namespace Reading

theorem isolated_serve {g : Reading T} (h : Isolated g.server g.read g.config)
    (reads : ℕ → List Bytes) (slot : ℕ) :
    Isolated (g.serve reads slot).server (g.serve reads slot).read (g.serve reads slot).config := by
  have hquery := h.clients (Clients.sameSlots_connected slot g.server.clients)
  unfold serve serveClient chunksServed
  dsimp only
  split_ifs with hactive hconnected
  · rw [List.append_nil, Function.update_eq_self]
    exact h
  · rw [List.append_nil, Function.update_eq_self]
    exact hquery.resetClient slot
  · exact hquery.readClient (by simpa [Clients.connected] using hactive) (reads slot)

theorem isolated_accept {g : Reading T} (h : Isolated g.server g.read g.config)
    (incoming : Option Incoming) :
    Isolated (g.accept incoming).server (g.accept incoming).read (g.accept incoming).config := by
  have hsame : Isolated g.server g.read (noteConfig g.server g.server g.config) := by
    rw [noteConfig, if_neg (lt_irrefl _)]
    exact h
  unfold accept acceptClientLocked
  split
  · split_ifs
    · exact hsame
    · exact h.place _ _ _
  · exact hsame

theorem isolated_step {g : Reading T} (h : Isolated g.server g.read g.config) (a : Action T) :
    Isolated (g.step a).server (g.step a).read (g.step a).config := by
  cases a with
  | startServer config registry started => exact h.initializeWith config registry started
  | shutdown => exact h.shutdown
  | setPolicy policy => exact h.setPolicy policy
  | setResultObserver observer => exact h.setResultObserver observer
  | onWorkerIteration i =>
    have hfold (slots : List ℕ) {g : Reading T} (h : Isolated g.server g.read g.config) :
        let g' := slots.foldl (serve i.reads) g
        Isolated g'.server g'.read g'.config := by
      induction slots generalizing g with
      | nil => exact h
      | cons slot slots ih => exact ih (isolated_serve h i.reads slot)
    simp only [step, onWorkerIteration]
    split_ifs
    · exact h
    · exact hfold _ (isolated_accept h i.incoming)

end Reading

namespace Isolated
variable {v : TCPCommandServer T} {read : ℕ → List Bytes}
  {config : ℕ → SocketCommandSessionConfig}

/-- As long as identifiers last, they are the numbers of the connections. -/
theorem toNat_sessionID (h : Isolated v read config) (hfew : v.clients.connections < 2 ^ 64)
    {connection : ℕ} {peer : Peer} (hmem : .accepted connection peer ∈ v.log) :
    peer.sessionID.toNat = connection :=
  (h.numbered connection peer hmem).2 ((h.inv.numbered connection peer hmem).trans_lt hfew)

/-- The requests under an identifier are those of one connection. -/
theorem requestsUnder_eq (h : Isolated v read config) (hfew : v.clients.connections < 2 ^ 64)
    {connection : ℕ} {peer : Peer} (hmem : .accepted connection peer ∈ v.log) :
    requestsUnder peer.sessionID v.log = requestsOf connection v.log := by
  refine List.filterMap_congr fun e _ => ?_
  cases e with
  | session c call =>
    have hiff : sessionIDOf c v.log = some peer.sessionID ↔ c = connection := by
      constructor
      · intro hid
        obtain ⟨peer', hmem', hsame⟩ := exists_of_sessionIDOf hid
        rw [← h.toNat_sessionID hfew hmem', ← h.toNat_sessionID hfew hmem, hsame]
      · rintro rfl
        exact sessionIDOf_eq hmem fun peer' hmem' => h.inv.unique _ _ _ hmem' hmem
    simp only [hiff]
  | _ => rfl

end Isolated

/-- Whatever connections come and go, the active slots have identifiers of their own, and what is
handled under an identifier is what a fresh session takes the chunks of its connection for. -/
theorem sessions_isolated (world : T.net.World) (actions : List (TCPCommandServer.Action T))
    (hfew : (run TCPCommandServer.step { clients := { world } } actions).clients.connections <
      2 ^ 64) :
    let v := run TCPCommandServer.step { clients := { world } } actions
    let g := run Reading.step { server := { clients := { world } } } actions
    g.server = v ∧
      (∀ slot, v.clients.active slot = true → v.id slot ≠ 0 ∧
        (v.session slot).metadata.sessionID = v.id slot ∧
        ∃ peer, .accepted (v.clients.client slot) peer ∈ v.log ∧ peer.sessionID = v.id slot) ∧
      (∀ slot slot', v.clients.active slot = true → v.clients.active slot' = true →
        v.id slot = v.id slot' → slot = slot') ∧
      ∀ connection peer, .accepted connection peer ∈ v.log →
        ∀ registry metadata writer policy observer (x : Exterior T.sessions),
          requestsUnder peer.sessionID v.log =
            (feedAll (g.read connection) (opened registry (g.config connection) metadata writer
              policy observer) x).1.flatMap FeedCall.requests := by
  intro v g
  have hserver : g.server = v := Reading.run_server _ actions
  have h : Isolated v g.read g.config := by
    rw [← hserver]
    exact run_induction (P := fun g : Reading T => Isolated g.server g.read g.config)
      (fun _ a h => Reading.isolated_step h a) (Isolated.start world) actions
  have hid {slot : ℕ} (hactive : v.clients.active slot = true) :
      ∃ peer, .accepted (v.clients.client slot) peer ∈ v.log ∧ peer.slot = slot ∧
        v.id slot = peer.sessionID ∧ (v.session slot).metadata.sessionID = peer.sessionID := by
    obtain ⟨peer, hmem, hslot, hholds⟩ := h.inv.active slot hactive
    exact ⟨peer, hmem, hslot, h.id slot hactive peer hmem, hholds.shown.1⟩
  refine ⟨hserver, fun slot hactive => ?_, fun slot slot' hactive hactive' hsame => ?_,
    fun connection peer hmem registry metadata writer policy observer x => ?_⟩
  · obtain ⟨peer, hmem, hslot, hslotID, hshown⟩ := hid hactive
    refine ⟨fun hzero => ?_, hshown.trans hslotID.symm, peer, hmem, hslotID.symm⟩
    have hnumber := h.toNat_sessionID hfew hmem
    have hpos := (h.numbered _ _ hmem).1
    rw [← hslotID, hzero, UInt64.toNat_zero] at hnumber
    omega
  · obtain ⟨peer, hmem, hslot, hslotID, -⟩ := hid hactive
    obtain ⟨peer', hmem', hslot', hslotID', -⟩ := hid hactive'
    have hclient : v.clients.client slot = v.clients.client slot' := by
      rw [← h.toNat_sessionID hfew hmem, ← h.toNat_sessionID hfew hmem', ← hslotID, ← hslotID',
        hsame]
    rw [hclient] at hmem
    rw [← hslot, ← hslot', h.inv.unique _ _ _ hmem hmem']
  · rw [h.requestsUnder_eq hfew hmem, ← h.requests connection x]
    by_cases hread : g.read connection = []
    · rw [hread]
      rfl
    · exact (feedAll_alike (blank_opened registry (h.limited connection hread) metadata writer policy
        observer) (g.read connection) x x).2

end

section
attribute [local instance] scalarLibrary SizeWidth.host

/-- Two connections, one of them with a line in two pieces. -/
def twoVisitors : List (TCPCommandServer.Action (fixedPolicyHost {})) :=
  [.startServer { port := 2323, maximumClients := 2, session := {} } () true,
    .onWorkerIteration { incoming := some ⟨[], 1⟩, reads := fun _ => [text "st"] },
    .onWorkerIteration { incoming := some ⟨[], 2⟩
                         reads := fun slot => if slot = 0 then [text "op\n"] else [text "ru"] }]

theorem sessions_isolated_visitors :
    let v := run TCPCommandServer.step { clients := { world := () } } twoVisitors
    let g := run Reading.step { server := { clients := { world := () } } } twoVisitors
    v.id 0 ≠ v.id 1 ∧ g.read 1 = [text "st", text "op\n"] ∧ g.read 2 = [text "ru"] ∧
      requestsUnder 1 v.log = [text "stop"] := by
  obtain ⟨-, hactive, hdistinct, hrequests⟩ := sessions_isolated (T := fixedPolicyHost {}) ()
    twoVisitors (by decide +kernel)
  obtain ⟨-, -, peer, hmem, hid⟩ := hactive 0 (by decide +kernel)
  have hclient : (run TCPCommandServer.step { clients := { world := () } }
      twoVisitors).clients.client 0 = 1 := by decide +kernel
  have hfirst : (run TCPCommandServer.step { clients := { world := () } } twoVisitors).id 0 = 1 := by
    decide +kernel
  have hread : (run Reading.step { server := { clients := { world := () } } } twoVisitors).read 1 =
      [text "st", text "op\n"] := by decide +kernel
  refine ⟨fun hsame => ?_, hread, by decide +kernel, ?_⟩
  · exact absurd (hdistinct 0 1 (by decide +kernel) (by decide +kernel) hsame) (by decide)
  · have hunder := hrequests _ peer hmem () {} (0 : ℕ) none none { world := { world := () } }
    rw [hclient, hread, hid, hfirst] at hunder
    rw [hunder]
    decide +kernel

end

end Sockets.Command
