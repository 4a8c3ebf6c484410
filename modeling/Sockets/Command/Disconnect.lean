import Sockets.Command.Exchange
import Sockets.Command.Responses
import Sockets.Command.Server
import Sockets.Command.Wire

/-! Protocol errors: whether the `Feed` that answers one also ends there. -/
namespace Sockets.Command
open Foundation Framer

variable {Value : Type} [CommandLibrary Value] {H : CommandHost Value}

variable (Value) in
/-- A payload that `DecodeRequest` accepts. -/
def wellFormed (request : Bytes) : Bool :=
  (decodeRequest request ({} : SocketCommandInvocationContext Value)).isSome

/-- The metadata a request is decoded into do not decide whether it is accepted. -/
theorem decodeRequest_eq_none {request : Bytes} {target : SocketCommandInvocationContext Value} :
    decodeRequest request target = none ↔ wellFormed Value request = false := by
  have hsome (target target' : SocketCommandInvocationContext Value)
      (h : (decodeRequest request target).isSome) : (decodeRequest request target').isSome := by
    obtain ⟨decoded, hdecoded⟩ := Option.isSome_iff_exists.mp h
    obtain ⟨w, hbytes, -⟩ := decodeRequest_eq_some.mp hdecoded
    exact Option.isSome_iff_exists.mpr ⟨_, decodeRequest_eq_some.mpr ⟨w, hbytes, rfl⟩⟩
  rw [wellFormed, ← Option.not_isSome_iff_eq_none, ← Bool.not_eq_true, not_iff_not]
  exact ⟨hsome target _, hsome _ target⟩

/-- The request under way after one more call. -/
def CommandEvent.opens (request : Option Bytes) : CommandEvent H → Option Bytes
  | .received request => some request
  | .handled => none
  | _ => request

/-- The request under way after these calls. -/
def underWay (calls : List (CommandEvent H)) : Option Bytes :=
  calls.foldl CommandEvent.opens none

def CommandEvent.isWrite : CommandEvent H → Bool
  | .wrote _ _ _ => true
  | _ => false

/-- What is written after these calls answers a breach of the protocol: outside of requests only an
overlong line and a refused length are answered, within one a structured request that does not
decode is a breach. -/
def Breach (mode : SocketCommandMode) (calls : List (CommandEvent H)) : Prop :=
  match underWay calls with
  | none => True
  | some request => mode = .structuredBinary ∧ wellFormed Value request = false

/-- `Feed` answers false to what it answers as a breach, and handles nothing after it. -/
def SocketCommandSession.FeedCall.EndsAtBreach (mode : SocketCommandMode) (call : FeedCall H) : Prop :=
  Throughout (fun before e after => e.isWrite = true → Breach mode before →
    call.answer = false ∧ after.filterMap CommandEvent.request? = []) call.events

/-- The calls in which these requests are handled one after another; `refused` tells whether a
response outside of requests follows. -/
inductive Served (mode : SocketCommandMode) (refused : Bool) :
    List Bytes → List (CommandEvent H) → Prop
  | done (h : refused = false) : Served mode refused [] []
  | refusal {e : CommandEvent H} (h : refused = true) (he : e.isWrite = true) :
      Served mode refused [] [e]
  | next {request : Bytes} {inner : List (CommandEvent H)} {requests : List Bytes}
      {calls : List (CommandEvent H)} (hinner : ∀ e ∈ inner, e.isCall = true)
      (hbreach : mode = .structuredBinary → wellFormed Value request = false →
        ∃ e ∈ inner, e.isWrite = true)
      (hrest : Served mode refused requests calls) :
      Served mode refused (request :: requests) (.received request :: (inner ++ .handled :: calls))

section Served
open SocketCommandSession
variable {mode : SocketCommandMode} {refused : Bool} {requests : List Bytes}
  {calls : List (CommandEvent H)}

theorem request?_of_isCall {e : CommandEvent H} (h : e.isCall = true) : e.request? = none := by
  cases e <;> first | rfl | cases h

theorem requests_of_isCall {calls : List (CommandEvent H)} (h : ∀ e ∈ calls, e.isCall = true) :
    calls.filterMap CommandEvent.request? = [] :=
  List.filterMap_eq_nil_iff.mpr fun e he => request?_of_isCall (h e he)

/-- What is left of a request starts no other. -/
theorem requests_behind {inner : List (CommandEvent H)} (h : ∀ e ∈ inner, e.isCall = true) :
    (inner ++ .handled :: calls).filterMap CommandEvent.request? =
      calls.filterMap CommandEvent.request? := by
  rw [List.filterMap_append, requests_of_isCall h, List.nil_append, List.filterMap_cons]
  rfl

theorem Served.requests_eq (h : Served mode refused requests calls) :
    calls.filterMap CommandEvent.request? = requests := by
  induction h with
  | done => rfl
  | @refusal e _ he =>
    have hnone : e.request? = none := by cases e <;> first | rfl | cases he
    simp [hnone]
  | next hinner _ _ ih =>
    rw [List.filterMap_cons, requests_behind hinner, ih]
    rfl

theorem underWay_calls (request : Bytes) {calls : List (CommandEvent H)}
    (h : ∀ e ∈ calls, e.isCall = true) : underWay (.received request :: calls) = some request := by
  have hkeeps (u : Option Bytes) : calls.foldl CommandEvent.opens u = u := by
    induction calls generalizing u with
    | nil => rfl
    | cons e calls ih =>
      have he := h e List.mem_cons_self
      have hsame : CommandEvent.opens u e = u := by cases e <;> first | rfl | cases he
      rw [List.foldl_cons, hsame, ih fun e' he' => h e' (List.mem_cons_of_mem _ he')]
  exact hkeeps (some request)

/-- Behind the end of a request nothing is left of it. -/
theorem underWay_handled (older newer : List (CommandEvent H)) :
    underWay (older ++ .handled :: newer) = underWay newer := by
  rw [underWay, List.foldl_append, List.foldl_cons]
  rfl

theorem breach_within (request : Bytes) {calls : List (CommandEvent H)}
    (h : ∀ e ∈ calls, e.isCall = true) : Breach mode (.received request :: calls) ↔
      mode = .structuredBinary ∧ wellFormed Value request = false := by
  rw [Breach, underWay_calls request h]

theorem breach_handled (older newer : List (CommandEvent H)) :
    Breach mode (older ++ .handled :: newer) ↔ Breach mode newer := by
  rw [Breach, Breach, underWay_handled]

/-- The breaches in a call are its malformed requests and the refusal at its end. -/
theorem Served.endsAtBreach_iff (h : Served mode refused requests calls) (answer : Bool) :
    FeedCall.EndsAtBreach mode ⟨answer, calls⟩ ↔
      (refused = true → answer = false) ∧
        (mode = .structuredBinary → Throughout (fun _ request after =>
          wellFormed Value request = false → answer = false ∧ after = []) requests) := by
  induction h with
  | done h =>
    rw [h]
    exact ⟨fun _ => ⟨fun htrue => absurd htrue Bool.false_ne_true, fun _ => .nil⟩, fun _ => .nil⟩
  | refusal h he =>
    constructor
    · intro hends
      exact ⟨fun _ => (hends [] _ [] rfl he trivial).1, fun _ => .nil⟩
    · intro hanswer
      exact .singleton fun _ _ => ⟨hanswer.1 h, rfl⟩
  | @next request inner requests calls hinner hbreach hrest ih =>
    constructor
    · intro hends
      have htail : FeedCall.EndsAtBreach mode ⟨answer, calls⟩ := by
        intro before e after hcalls he hbefore
        refine hends (.received request :: (inner ++ .handled :: before)) e after ?_ he ?_
        · simp [show calls = before ++ e :: after from hcalls]
        · rw [← List.cons_append]
          exact (breach_handled _ _).mpr hbefore
      obtain ⟨hrefusal, hrequests⟩ := ih.mp htail
      refine ⟨hrefusal, fun hmode => .cons (fun hmalformed => ?_) (hrequests hmode)⟩
      obtain ⟨e, hmem, he⟩ := hbreach hmode hmalformed
      obtain ⟨front, back, rfl⟩ := List.append_of_mem hmem
      have hfront : ∀ e' ∈ front, e'.isCall = true := fun e' he' => hinner e' (by simp [he'])
      have hback : ∀ e' ∈ back, e'.isCall = true := fun e' he' => hinner e' (by simp [he'])
      have hend := hends (.received request :: front) e (back ++ .handled :: calls) (by simp) he
        ((breach_within request hfront).mpr ⟨hmode, hmalformed⟩)
      rwa [requests_behind hback, hrest.requests_eq] at hend
    · rintro ⟨hrefusal, hrequests⟩
      have htail : FeedCall.EndsAtBreach mode ⟨answer, calls⟩ := by
        refine ih.mpr ⟨hrefusal, fun hmode before r after hsplit => ?_⟩
        exact hrequests hmode (request :: before) r after (by rw [hsplit, List.cons_append])
      refine .cons (fun he => by cases he) ?_
      intro before e after hsplit he hbefore
      rw [List.append_eq_append_iff] at hsplit
      rcases hsplit with ⟨gap, rfl, hgap⟩ | ⟨gap, rfl, hgap⟩
      · cases gap with
        | nil =>
          obtain ⟨rfl, -⟩ := List.cons.inj hgap
          cases he
        | cons e' gap =>
          obtain ⟨rfl, hgap⟩ := List.cons.inj hgap
          rw [← List.cons_append, breach_handled] at hbefore
          exact htail gap e after (List.cons.inj hgap).2 he hbefore
      · cases gap with
        | nil =>
          obtain ⟨rfl, -⟩ := List.cons.inj hgap
          cases he
        | cons e' gap =>
          obtain rfl : e = e' := (List.cons.inj hgap).1
          have hafter : after = gap ++ .handled :: calls := (List.cons.inj hgap).2
          have hfront : ∀ e' ∈ before, e'.isCall = true := fun e' he' => hinner e' (by simp [he'])
          have hback : ∀ e' ∈ gap, e'.isCall = true := fun e' he' => hinner e' (by simp [he'])
          obtain ⟨hmode, hmalformed⟩ := (breach_within request hfront).mp hbefore
          obtain ⟨hanswer, hlast⟩ := hrequests hmode [] request requests rfl hmalformed
          exact ⟨hanswer, by rw [hafter, requests_behind hback, hrest.requests_eq, hlast]⟩

end Served

/-- Results whose responses fit a frame. -/
structure BriefResults (H : CommandHost Value) : Prop where
  policy : ∀ policy context w, (H.policy policy context w).1.message.length + 22 < 2 ^ 32
  invoke : ∀ registry invocation w, (H.invoke registry invocation w).1.message.length + 22 < 2 ^ 32

/-- What is left behind the last request is refused: a length, or more bytes than are kept. -/
def refusesRest (maximum : ℕ) (stream : Bytes) : Bool :=
  match (requestFramer maximum).leftover stream with
  | .ok rest => rest.length < 4 && maximum < rest.length
  | .error _ => true

theorem isCall_of_isQuestion {e : CommandEvent H} (h : e.IsQuestion) : e.isCall = true := by
  cases e <;> first | rfl | cases h

theorem decides_isCall {registry : H.Registry} {policy : Option H.Policy}
    {context : SocketCommandInvocationContext Value} {w : H.World} {calls : List (CommandEvent H)}
    {result : CommandResult} (h : Decides registry policy context w calls result) :
    ∀ e ∈ calls, e.isCall = true := by
  cases h <;> simp [CommandEvent.isCall]

theorem tells_isCall (observer : Option H.Observer)
    (context : SocketCommandInvocationContext Value) (result : CommandResult) :
    ∀ e ∈ tells observer context result, e.isCall = true := by
  cases observer <;> simp [tells, CommandEvent.isCall]

theorem sends_isCall {writer : H.Writer} {response : SocketCommandResponse}
    {calls : List (CommandEvent H)} (h : Sends writer response calls) :
    ∀ e ∈ calls, e.isCall = true := by
  unfold Sends at h
  split_ifs at h
  · obtain ⟨bytes, accepted, rfl, -⟩ := h
    simp [CommandEvent.isCall]
  · simp [h]

namespace SocketCommandSession
variable [SizeWidth] {s : SocketCommandSession H} {registry : H.Registry} {writer : H.Writer}

/-- One call of `Feed`. -/
def feedCall (s : SocketCommandSession H) (chunk : Bytes) (x : Exterior H) : FeedCall H :=
  let r := s.feed chunk x
  ⟨r.1, r.2.2.log.drop x.log.length⟩

/-- The chunk completes no malformed request but one, with which the requests end and behind which
`Feed` refuses something. -/
def BreachLast (s : SocketCommandSession H) (chunk : Bytes) : Prop :=
  let maximum := s.config.maximumRequestBytes.val
  s.initialized = true → s.config.mode = .structuredBinary →
    ¬ (sizeAdd maximum 4 < chunk.length ∧ s.structured = []) →
      Throughout (fun _ request after => wellFormed Value request = false →
        refusesRest maximum (s.pending ++ chunk) = true ∧ after = [])
        ((requestFramer maximum).frames (s.pending ++ chunk))

theorem writeLineResult_log (hwriter : s.writer = some writer) (result : CommandResult)
    (x : Exterior H) : ∃ accepted, (s.writeLineResult result x).2.log =
      x.log ++ [.wrote writer (lineResponse result) accepted] := by
  rw [writeLineResult, hwriter]
  exact ⟨_, rfl⟩

/-- Between its marks a line is nothing but calls. -/
theorem handleLine_calls (hwriter : s.writer = some writer) (hregistry : s.registry ≠ none)
    (line : Bytes) (x : Exterior H) :
    ∃ calls, (s.handleLine line x).2.2.log = x.log ++ calls ∧ ∀ e ∈ calls, e.isCall = true := by
  obtain ⟨-, -, -, asked, hasked, -, hquestions⟩ := together_answerLine (x := x) rfl line s
  have hcalls : ∀ e ∈ asked, e.isCall = true := fun e he => isCall_of_isQuestion (hquestions e he)
  rw [handleLine_eq hregistry, respond]
  cases (s.answerLine line x).1 with
  | none => exact ⟨asked, hasked, hcalls⟩
  | some result =>
    obtain ⟨accepted, hlog⟩ := writeLineResult_log hwriter result (s.answerLine line x).2.2
    refine ⟨asked ++ [.wrote writer (lineResponse result) accepted], ?_, ?_⟩
    · rw [hlog, hasked, List.append_assoc]
    · intro e he
      rcases List.mem_append.mp he with he | he
      · exact hcalls e he
      · rw [List.mem_singleton.mp he]
        rfl

/-- With `DisconnectOnProtocolError`, what `FeedLine` answers outside of lines is the last thing it
does. -/
theorem served_feedLine (hdisconnect : s.config.disconnectOnProtocolError = true)
    (hwriter : s.writer = some writer) (hregistry : s.registry ≠ none) (data : Bytes)
    (success : Bool) (x : Exterior H) :
    ∃ refused requests calls, (feedLine data success s x).2.2.log = x.log ++ calls ∧
      Served .line refused requests calls ∧
      (refused = true → (feedLine data success s x).1 = false) := by
  induction data generalizing success s x with
  | nil => exact ⟨false, [], [], (List.append_nil _).symm, .done rfl, fun h => absurd h (by simp)⟩
  | cons c data ih =>
    unfold feedLine
    dsimp only
    split_ifs with hcr hlf hdiscard hfull
    · exact ih hdisconnect hwriter hregistry success x
    · obtain ⟨accepted, hlog⟩ := writeLineResult_log
        (s := { s with discardUntilNewline := false, line := [] }) hwriter
        (CommandLibrary.error Value tooLong) x
      exact ⟨true, [], _, hlog, .refusal rfl rfl, fun _ => rfl⟩
    · obtain ⟨inner, hinner, hcalls⟩ := handleLine_calls (s := { s with line := [] }) hwriter
        hregistry s.line (x.record (.received s.line))
      obtain ⟨refused, requests, calls, hlog, hserved, hanswer⟩ := ih (s := { s with
        line := []
        metadata := (during s.line (handleLine s.line { s with line := [] }) x).2.1 })
        hdisconnect hwriter hregistry
        ((during s.line (handleLine s.line { s with line := [] }) x).1 && success)
        (during s.line (handleLine s.line { s with line := [] }) x).2.2
      refine ⟨refused, s.line :: requests, .received s.line :: (inner ++ .handled :: calls), ?_,
        .next hcalls (fun h => by cases h) hserved, hanswer⟩
      rw [hlog]
      simp only [during, Exterior.record] at hinner ⊢
      rw [hinner]
      simp
    · exact ih hdisconnect hwriter hregistry success x
    · exact ih (s := { s with line := [], discardUntilNewline := true }) hdisconnect hwriter
        hregistry success x
    · exact ih (s := { s with line := s.line ++ [c] }) hdisconnect hwriter hregistry success x

section Structured
variable [LawfulErrors Value]

theorem emitStructuredError_log (hwriter : s.writer = some writer) (message : Bytes)
    (hshort : message.length + 22 < 2 ^ 32) (requestID : UInt64) (x : Exterior H) :
    ∃ bytes accepted, (s.emitStructuredError requestID message x).2.log =
      x.log ++ [.wrote writer bytes accepted] := by
  obtain ⟨calls, hsends, hlog⟩ := writeResponse_log hwriter
    { requestID, result := CommandLibrary.error Value message } x
  obtain ⟨bytes, accepted, rfl, -⟩ :=
    (sends_of_fits (by rw [LawfulErrors.message_error]; exact hshort)).mp hsends
  exact ⟨bytes, accepted, hlog⟩

/-- A structured request is nothing but calls between its marks, and a malformed one is answered. -/
theorem served_handleRequest (hwriter : s.writer = some writer)
    (hregistry : s.registry = some registry) (request : Bytes)
    (t : Bool × SocketCommandMetadata × Exterior H) :
    ∃ inner, (s.handleRequest request t).2.2.log =
        t.2.2.log ++ .received request :: (inner ++ [.handled]) ∧
      (∀ e ∈ inner, e.isCall = true) ∧
      (wellFormed Value request = false → ∃ e ∈ inner, e.isWrite = true) := by
  have hexchange := exchange_handleRequest (s := { s with metadata := t.2.1 }) hregistry hwriter
    request t.2.2
  unfold Exchange at hexchange
  cases hdecode : decodeRequest request
      ({ metadata := t.2.1 } : SocketCommandInvocationContext Value) with
  | none =>
    simp only [hdecode] at hexchange
    obtain ⟨-, -, bytes, accepted, -, -, hlog⟩ := hexchange
    exact ⟨[.wrote writer bytes accepted], hlog, by simp [CommandEvent.isCall],
      fun _ => ⟨_, List.mem_singleton_self _, rfl⟩⟩
  | some context =>
    simp only [hdecode] at hexchange
    obtain ⟨-, decided, result, sent, hdecides, hsends, hlog⟩ := hexchange
    refine ⟨decided ++ tells s.observer context result ++ sent, hlog, ?_, fun hmalformed => ?_⟩
    · intro e he
      rcases List.mem_append.mp he with he | he
      · exact (List.mem_append.mp he).elim (decides_isCall hdecides e) (tells_isCall _ _ _ e)
      · exact sends_isCall hsends e he
    · rw [decodeRequest_eq_none.mpr hmalformed] at hdecode
      cases hdecode

theorem served_handleRequests (hwriter : s.writer = some writer)
    (hregistry : s.registry = some registry) {refused : Bool} {tail : List (CommandEvent H)}
    (htail : Served .structuredBinary refused [] tail) (requests : List Bytes)
    (t : Bool × SocketCommandMetadata × Exterior H) :
    ∃ calls, (requests.foldl (fun t data => s.handleRequest data t) t).2.2.log =
        t.2.2.log ++ calls ∧ Served .structuredBinary refused requests (calls ++ tail) := by
  induction requests generalizing t with
  | nil => exact ⟨[], (List.append_nil _).symm, htail⟩
  | cons request requests ih =>
    obtain ⟨inner, hinner, hcalls, hwrite⟩ := served_handleRequest hwriter hregistry request t
    obtain ⟨calls, hlog, hserved⟩ := ih (s.handleRequest request t)
    refine ⟨.received request :: (inner ++ .handled :: calls), ?_, ?_⟩
    · rw [List.foldl_cons, hlog, hinner]
      simp
    · have hnext : Served .structuredBinary refused (request :: requests)
          (.received request :: (inner ++ .handled :: (calls ++ tail))) :=
        .next hcalls (fun _ => hwrite) hserved
      simpa using hnext

/-- Where results are brief and everything written is accepted, requests are answered true. -/
theorem handleRequest_accepted (hwriter : s.writer = some writer) (hbrief : BriefResults H)
    (haccepts : ∀ bytes w, (H.write writer bytes w).1 = true)
    (hregistry : s.registry = some registry) (request : Bytes)
    (t : Bool × SocketCommandMetadata × Exterior H) : (s.handleRequest request t).1 = t.1 := by
  have hwrites (metadata : SocketCommandMetadata) (response : SocketCommandResponse)
      (hshort : response.result.message.length + 22 < 2 ^ 32) (x : Exterior H) :
      ({ s with metadata }.writeResponse response x).1 = true := by
    have hne : responseFrame response ≠ [] := (delivers_responseFrame hshort).1
    simp only [writeResponse, hne, if_false, hwriter, Exterior.write, haccepts]
  have hbriefly (metadata : SocketCommandMetadata)
      (context : SocketCommandInvocationContext Value) (x : Exterior H) :
      ({ s with metadata }.execute context x).1.message.length + 22 < 2 ^ 32 := by
    unfold execute
    simp only [hregistry]
    cases s.policy with
    | none => exact hbrief.invoke _ _ _
    | some policy =>
      dsimp only
      split_ifs
      · exact hbrief.policy _ _ _
      · exact hbrief.invoke _ _ _
  unfold handleRequest during handleStructuredFrame
  dsimp only
  cases decodeRequest request ({ metadata := t.2.1 } : SocketCommandInvocationContext Value) with
  | none =>
    have hanswered := hwrites t.2.1 ⟨0, CommandLibrary.error Value malformedRequest⟩
      (by rw [LawfulErrors.message_error]; decide) (t.2.2.record (.received request))
    simp only [emitStructuredError, hanswered, Bool.true_and]
  | some context =>
    have hanswered := hwrites t.2.1 ⟨context.metadata.requestID, _⟩
      (hbriefly t.2.1 context (t.2.2.record (.received request)))
      ({ s with metadata := t.2.1 }.execute context (t.2.2.record (.received request))).2
    simp only [hanswered, Bool.true_and]

theorem handleRequests_accepted (hwriter : s.writer = some writer) (hbrief : BriefResults H)
    (haccepts : ∀ bytes w, (H.write writer bytes w).1 = true)
    (hregistry : s.registry = some registry) (requests : List Bytes)
    (t : Bool × SocketCommandMetadata × Exterior H) :
    (requests.foldl (fun t data => s.handleRequest data t) t).1 = t.1 := by
  induction requests generalizing t with
  | nil => rfl
  | cons request requests ih =>
    rw [List.foldl_cons, ih, handleRequest_accepted hwriter hbrief haccepts hregistry]

/-- A chunk that is let in: the answer, the calls and the session that are left. -/
theorem structured_feed (hwriter : s.writer = some writer) (hinit : s.initialized = true)
    (hmode : s.config.mode = .structuredBinary)
    (hdisconnect : s.config.disconnectOnProtocolError = true) (hs : s.Expecting) {chunk : Bytes}
    (hadmitted : ¬ (sizeAdd s.config.maximumRequestBytes.val 4 < chunk.length ∧
      s.structured = [])) (x : Exterior H) :
    let maximum := s.config.maximumRequestBytes.val
    let stream := s.pending ++ chunk
    let t := ((requestFramer maximum).frames stream).foldl (fun t data => s.handleRequest data t)
      (true, s.metadata, x)
    ∃ refused tail, (s.feed chunk x).1 = (t.1 && !refusesRest maximum stream) ∧
      (s.feed chunk x).2.2.log = t.2.2.log ++ tail ∧ Served .structuredBinary refused [] tail ∧
      (refused = true → refusesRest maximum stream = true) := by
  intro maximum stream t
  have hpending : ({ s with structured := s.structured ++ chunk } : SocketCommandSession H).pending =
      stream := by
    simp only [pending, stream]
    split_ifs <;> simp
  have hfeed : s.feed chunk x =
      structuredLoop true { s with structured := s.structured ++ chunk } x := by
    simp only [feed, hinit, hmode, Bool.not_true, Bool.false_eq_true, if_false, feedStructured,
      if_neg hadmitted]
  have hloop := structuredLoop_eq true { s with structured := s.structured ++ chunk } x hs
  rw [hpending, drain_leftover, ← hfeed] at hloop
  cases hleft : (requestFramer maximum).leftover stream with
  | error e =>
    have hrefuses : refusesRest maximum stream = true := by simp [refusesRest, hleft]
    obtain ⟨bytes, accepted, hlog⟩ := emitStructuredError_log
      (s := { s with structured := [], expectedStructuredBytes := 0, metadata := t.2.1 })
      hwriter exceedsLimit (by decide) 0 t.2.2
    rw [hleft] at hloop
    refine ⟨true, [.wrote writer bytes accepted], ?_, ?_, .refusal rfl rfl, fun _ => hrefuses⟩
    · simp [hloop, hdisconnect, hrefuses]
    · rw [hloop]
      exact hlog
  | ok rest =>
    have hkept := (park_spec (s := { s with structured := s.structured ++ chunk })
      (cut_leftover hleft) t.2.1).2.2.2
    have hsettle : s.feed chunk x = settle t.1
        (SocketCommandSession.park rest t.2.1 { s with structured := s.structured ++ chunk })
        t.2.2 := by
      rw [hloop, hleft]
      rfl
    have hrefuses : refusesRest maximum stream = (decide (rest.length < 4) &&
        decide (maximum < rest.length)) := by simp [refusesRest, hleft]
    rw [hsettle, settle, park_config, hrefuses]
    refine ⟨false, [], ?_, ?_, .done rfl, fun h => absurd h Bool.false_ne_true⟩
    · split_ifs with hover
      · have hshort : ¬ (rest.length < 4 → rest.length ≤ maximum) := fun h =>
          absurd (hkept.mp h) (not_le.mpr hover)
        push Not at hshort
        simp [hshort]
      · have hshort : rest.length < 4 → rest.length ≤ maximum := hkept.mpr (not_lt.mp hover)
        by_cases h4 : rest.length < 4
        · simp [h4, hshort h4]
        · simp [h4]
    · split_ifs <;> exact (List.append_nil _).symm

end Structured

/-- What an action makes of a session and its outside. -/
def act (u : SocketCommandSession H × Exterior H) :
    SessionAction H → SocketCommandSession H × Exterior H
  | .feed chunk => (u.1.feed chunk u.2).2
  | .setMetadata metadata => (u.1.setMetadata metadata, u.2)
  | .setPolicy policy => (u.1.setPolicy policy, u.2)
  | .setResultObserver observer => (u.1.setResultObserver observer, u.2)
  | .resetInput => (u.1.resetInput, u.2)
  | .shutdown => (u.1.shutdown, u.2)

/-- A session with these terms, or none of them. -/
structure Works (registry : H.Registry) (config : SocketCommandSessionConfig) (writer : H.Writer)
    (s : SocketCommandSession H) : Prop where
  terms : s.initialized = true →
    s.registry = some registry ∧ s.writer = some writer ∧ s.config = config
  expecting : s.Expecting

theorem feedLine_frame (data : Bytes) (success : Bool) (s : SocketCommandSession H)
    (x : Exterior H) : ∃ line discard metadata, (feedLine data success s x).2.1 =
      { s with line, discardUntilNewline := discard, metadata } := by
  induction data generalizing success s x with
  | nil => exact ⟨s.line, s.discardUntilNewline, s.metadata, rfl⟩
  | cons c data ih =>
    unfold feedLine
    dsimp only
    split_ifs
    · exact ih success s x
    · exact ⟨[], false, s.metadata, rfl⟩
    · exact ih _ { s with discardUntilNewline := false, line := [] } _
    · exact ih _ { s with line := [], metadata := _ } _
    · exact ih success s x
    · exact ih success { s with line := [], discardUntilNewline := true } x
    · exact ih success { s with line := s.line ++ [c] } x

theorem structuredLoop_frame (success : Bool) {s : SocketCommandSession H} (hs : s.Expecting)
    (x : Exterior H) : ∃ structured expected metadata, (structuredLoop success s x).2.1 =
      { s with structured, expectedStructuredBytes := expected, metadata } ∧
      (structuredLoop success s x).2.1.Expecting := by
  rw [structuredLoop_eq success s x hs, drain_leftover]
  cases hleft : (requestFramer s.config.maximumRequestBytes.val).leftover s.pending with
  | error e => exact ⟨[], 0, _, rfl, fun h => absurd rfl h⟩
  | ok rest =>
    dsimp only
    generalize List.foldl _ _ _ = t
    have hexpecting := (park_spec (s := s) (cut_leftover hleft) t.2.1).2.1
    unfold settle
    split_ifs
    · refine ⟨[], 0, t.2.1, ?_, fun h => absurd rfl h⟩
      unfold SocketCommandSession.park
      split_ifs <;> rfl
    · have hpark : ∃ structured expected, s.park rest t.2.1 =
          { s with structured, expectedStructuredBytes := expected, metadata := t.2.1 } := by
        unfold SocketCommandSession.park
        split_ifs <;> exact ⟨_, _, rfl⟩
      obtain ⟨structured, expected, hpark⟩ := hpark
      exact ⟨structured, expected, t.2.1, hpark, hexpecting⟩

section Works
variable {config : SocketCommandSessionConfig}

theorem works_start (registry : H.Registry) (config : SocketCommandSessionConfig)
    (metadata : SocketCommandMetadata) (writer : H.Writer) :
    Works registry config writer (initializeWith registry config metadata (some writer) {}).2 := by
  unfold initializeWith
  dsimp only
  split_ifs
  · exact ⟨fun hinit => absurd hinit Bool.false_ne_true, fun h => absurd rfl h⟩
  · exact ⟨fun _ => ⟨rfl, rfl, rfl⟩, fun h => absurd rfl h⟩

theorem Works.feed (h : Works registry config writer s) (chunk : Bytes) (x : Exterior H) :
    Works registry config writer (s.feed chunk x).2.1 := by
  unfold SocketCommandSession.feed
  split_ifs
  · exact h
  · cases s.config.mode with
    | line =>
      obtain ⟨line, discard, metadata, hframe⟩ := feedLine_frame chunk true s x
      rw [hframe]
      exact ⟨h.terms, h.expecting⟩
    | structuredBinary =>
      dsimp only
      unfold feedStructured
      split_ifs
      · exact h
      · obtain ⟨structured, expected, metadata, hframe, hexpecting⟩ := structuredLoop_frame
          (s := { s with structured := s.structured ++ chunk }) true h.expecting x
        refine ⟨?_, hexpecting⟩
        rw [hframe]
        exact h.terms

theorem Works.act {u : SocketCommandSession H × Exterior H} (h : Works registry config writer u.1)
    (a : SessionAction H) : Works registry config writer (act u a).1 := by
  cases a with
  | feed chunk => exact h.feed chunk u.2
  | setMetadata metadata => exact ⟨h.terms, h.expecting⟩
  | setPolicy policy => exact ⟨h.terms, h.expecting⟩
  | setResultObserver observer => exact ⟨h.terms, h.expecting⟩
  | resetInput => exact ⟨h.terms, fun h0 => absurd rfl h0⟩
  | shutdown => exact ⟨fun hinit => absurd hinit Bool.false_ne_true, fun h0 => absurd rfl h0⟩

theorem Works.run {u : SocketCommandSession H × Exterior H} (h : Works registry config writer u.1)
    (actions : List (SessionAction H)) :
    Works registry config writer (actions.foldl SocketCommandSession.act u).1 := by
  induction actions generalizing u with
  | nil => exact h
  | cons a actions ih => exact ih (h.act a)

/-- One call of `Feed` in line mode. -/
theorem Works.ends_line (h : Works registry config writer s) (hinit : s.initialized = true)
    (hmode : config.mode = .line) (hdisconnect : config.disconnectOnProtocolError = true)
    (chunk : Bytes) (x : Exterior H) : (s.feedCall chunk x).EndsAtBreach config.mode := by
  obtain ⟨hregistry, hwriter, rfl⟩ := h.terms hinit
  obtain ⟨refused, requests, calls, hlog, hserved, hanswer⟩ := served_feedLine hdisconnect hwriter
    (hregistry ▸ Option.some_ne_none registry) chunk true x
  have hfeed : s.feed chunk x = feedLine chunk true s x := by
    simp only [SocketCommandSession.feed, hinit, hmode, Bool.not_true, Bool.false_eq_true, if_false]
  rw [feedCall, hfeed, hlog, List.drop_left, hmode, hserved.endsAtBreach_iff]
  exact ⟨hanswer, fun h => by cases h⟩

/-- One call of `Feed` in structured mode that is let in. -/
theorem Works.ends_structured [LawfulErrors Value] (h : Works registry config writer s)
    (hinit : s.initialized = true) (hmode : config.mode = .structuredBinary)
    (hdisconnect : config.disconnectOnProtocolError = true) {chunk : Bytes}
    (hadmitted : ¬ (sizeAdd config.maximumRequestBytes.val 4 < chunk.length ∧ s.structured = []))
    (x : Exterior H) :
    ((s.feedCall chunk x).EndsAtBreach config.mode ↔
      Throughout (fun _ request after => wellFormed Value request = false →
        (s.feedCall chunk x).answer = false ∧ after = [])
        ((requestFramer config.maximumRequestBytes.val).frames (s.pending ++ chunk))) ∧
    (refusesRest config.maximumRequestBytes.val (s.pending ++ chunk) = true →
      (s.feedCall chunk x).answer = false) ∧
    (BriefResults H → (∀ bytes w, (H.write writer bytes w).1 = true) →
      (s.feedCall chunk x).answer = false →
        refusesRest config.maximumRequestBytes.val (s.pending ++ chunk) = true) := by
  obtain ⟨hregistry, hwriter, rfl⟩ := h.terms hinit
  obtain ⟨refused, tail, hanswer, hlog, htail, hrefuses⟩ :=
    structured_feed hwriter hinit hmode hdisconnect h.expecting hadmitted x
  obtain ⟨calls, hcalls, hserved⟩ := served_handleRequests hwriter hregistry htail
    ((requestFramer s.config.maximumRequestBytes.val).frames (s.pending ++ chunk))
    (true, s.metadata, x)
  refine ⟨?_, fun hrest => ?_, fun hbrief haccepts hfalse => ?_⟩
  · have hevents : (s.feedCall chunk x).events = calls ++ tail := by
      rw [feedCall, hlog, hcalls, List.append_assoc, List.drop_left]
    have hiff := hserved.endsAtBreach_iff (s.feedCall chunk x).answer
    rw [← hevents, ← hmode] at hiff
    refine hiff.trans ⟨fun h => h.2 rfl, fun h => ⟨fun hrefused => ?_, fun _ => h⟩⟩
    rw [feedCall, hanswer, hrefuses hrefused, Bool.not_true, Bool.and_false]
  · rw [feedCall, hanswer, hrest, Bool.not_true, Bool.and_false]
  · rw [feedCall, hanswer, handleRequests_accepted hwriter hbrief haccepts hregistry,
      Bool.true_and, Bool.not_eq_false'] at hfalse
    exact hfalse

/-- A call that is not let in does nothing. -/
theorem feedCall_refused (hmode : s.config.mode = .structuredBinary) {chunk : Bytes}
    (hrefused : sizeAdd s.config.maximumRequestBytes.val 4 < chunk.length ∧ s.structured = [])
    (x : Exterior H) : s.feedCall chunk x = ⟨false, []⟩ := by
  have hfeed : s.feed chunk x = (false, s, x) := by
    simp only [SocketCommandSession.feed, hmode, feedStructured, if_pos hrefused, ite_self]
  rw [feedCall, hfeed, List.drop_length]

theorem feedCall_uninitialized (hinit : s.initialized ≠ true) (chunk : Bytes) (x : Exterior H) :
    s.feedCall chunk x = ⟨false, []⟩ := by
  have hfeed : s.feed chunk x = (false, s, x) := by
    simp [SocketCommandSession.feed, hinit]
  rw [feedCall, hfeed, List.drop_length]

end Works

end SocketCommandSession

/-- A breach of the protocol is answered in the call. -/
def SocketCommandSession.FeedCall.Breaches (mode : SocketCommandMode)
    (call : SocketCommandSession.FeedCall H) : Prop :=
  ∃ before e after, call.events = before ++ e :: after ∧ e.isWrite = true ∧ Breach mode before

open SocketCommandSession in
/-- With `DisconnectOnProtocolError` a `Feed` ends at a breach of the protocol if, in structured
mode, a malformed request is the last that the chunk completes and something behind it is refused;
where results are brief and all writes are accepted, only then. The server resets a client whose
`Feed` ends so: its connection is stopped, its session is shut down and its slot is free. -/
theorem errors_disconnect [LawfulErrors Value] [SizeWidth] (registry : H.Registry)
    (config : SocketCommandSessionConfig) (metadata : SocketCommandMetadata) (writer : H.Writer)
    (world : H.World) (hdisconnect : config.disconnectOnProtocolError = true)
    (actions : List (SessionAction H)) (chunk : Bytes) :
    let u := actions.foldl act
      ((initializeWith registry config metadata (some writer) {}).2, { world })
    let call := u.1.feedCall chunk u.2
    (u.1.BreachLast chunk → call.EndsAtBreach config.mode) ∧
    (BriefResults H → (∀ bytes w, (H.write writer bytes w).1 = true) →
      call.EndsAtBreach config.mode → u.1.BreachLast chunk) ∧
    ∀ (T : TCPCommandHost Value) (v : TCPCommandServer T) (slot : ℕ) (chunks : List Bytes),
      v.config.session.disconnectOnProtocolError = true →
      let served := (v.session slot).feedCall chunk { world := v.clients }
      served.EndsAtBreach config.mode → served.Breaches config.mode →
        let fed := (v.feedClient slot chunk).2
        let reset := v.readClient slot (chunk :: chunks)
        reset = fed.resetClient slot ∧
          reset.clients = (fed.clients.stop slot).setActive slot false ∧
          reset.clients.active slot = false ∧
          reset.session slot = (fed.session slot).shutdown ∧
          (reset.session slot).initialized = false ∧ reset.id slot = 0 := by
  intro u call
  have hworks : Works registry config writer u.1 :=
    (works_start registry config metadata writer).run (u := (_, { world })) actions
  refine ⟨fun hlast => ?_, fun hbrief haccepts hends => ?_, ?_⟩
  · by_cases hinit : u.1.initialized = true
    · obtain ⟨-, -, hconfig⟩ := hworks.terms hinit
      cases hmode : config.mode with
      | line => exact hmode ▸ hworks.ends_line hinit hmode hdisconnect chunk u.2
      | structuredBinary =>
        rw [← hmode]
        by_cases hadmitted : sizeAdd config.maximumRequestBytes.val 4 < chunk.length ∧
            u.1.structured = []
        · have hcall : call = ⟨false, []⟩ := feedCall_refused (by rw [hconfig, hmode])
            (by rw [hconfig]; exact hadmitted) u.2
          rw [hcall]
          exact .nil
        · obtain ⟨hiff, hanswer, -⟩ :=
            hworks.ends_structured hinit hmode hdisconnect hadmitted u.2
          unfold BreachLast at hlast
          rw [hconfig] at hlast
          refine hiff.mpr ((hlast hinit hmode hadmitted).mono fun hrequest hmalformed => ?_)
          exact ⟨hanswer (hrequest hmalformed).1, (hrequest hmalformed).2⟩
    · have hcall : call = ⟨false, []⟩ := feedCall_uninitialized hinit chunk u.2
      rw [hcall]
      exact .nil
  · unfold BreachLast
    dsimp only
    intro hinit
    obtain ⟨-, -, hconfig⟩ := hworks.terms hinit
    rw [hconfig]
    intro hmode hadmitted
    obtain ⟨hiff, -, hrefuses⟩ := hworks.ends_structured hinit hmode hdisconnect hadmitted u.2
    refine (hiff.mp hends).mono fun hrequest hmalformed => ?_
    exact ⟨hrefuses hbrief haccepts (hrequest hmalformed).1, (hrequest hmalformed).2⟩
  · intro T v slot chunks hserver served hends hbreach
    obtain ⟨before, e, after, hevents, hwrite, hbefore⟩ := hbreach
    have hanswer : (v.feedClient slot chunk).1 = false :=
      (hends before e after hevents hwrite hbefore).1
    have hreset : v.readClient slot (chunk :: chunks) =
        (v.feedClient slot chunk).2.resetClient slot := by
      simp only [TCPCommandServer.readClient, hanswer, hserver, Bool.not_false, Bool.and_self,
        if_true]
    intro fed reset
    have hleft := fed.resetClient_leaves slot
    rw [← hreset] at hleft
    exact ⟨hreset, hleft⟩

/-- Structured requests of up to 64 bytes, with `DisconnectOnProtocolError`. -/
@[reducible] def strictRequests : @SocketCommandSessionConfig SizeWidth.host :=
  letI := SizeWidth.host
  { smallRequests with disconnectOnProtocolError := true }

def strictSession : @SocketCommandSession ScalarValue scalarLibrary directHost SizeWidth.host :=
  letI := scalarLibrary
  letI := SizeWidth.host
  (SocketCommandSession.initializeWith (H := directHost) () strictRequests {} (some ()) {}).2

/-- A malformed request is answered and the next one is handled, in a `Feed` that answers true. -/
theorem malformed_request_passed :
    letI := scalarLibrary
    letI := SizeWidth.host
    let call := strictSession.feedCall
      (frameStructuredPayload [9] ++ frameStructuredPayload oneRequest) { world := () }
    call.answer = true ∧ call.requests = [[9], oneRequest] ∧
      wellFormed ScalarValue [9] = false ∧ ¬ call.EndsAtBreach .structuredBinary := by
  let := scalarLibrary
  let := SizeWidth.host
  have hanswer : (strictSession.feedCall
      (frameStructuredPayload [9] ++ frameStructuredPayload oneRequest) { world := () }).answer =
        true := by decide +kernel
  have : LawfulErrors ScalarValue := ⟨fun _ => rfl, fun _ => rfl⟩
  refine ⟨hanswer, by decide +kernel, by decide +kernel, fun hends => ?_⟩
  have hadmitted : ¬ (sizeAdd strictRequests.maximumRequestBytes.val 4 <
      (frameStructuredPayload [9] ++ frameStructuredPayload oneRequest).length ∧
        strictSession.structured = []) := by decide
  obtain ⟨hiff, -, -⟩ := (SocketCommandSession.works_start (H := directHost) () strictRequests {}
    ()).ends_structured rfl rfl rfl hadmitted { world := () }
  obtain ⟨hfalse, -⟩ := hiff.mp hends [] [9] [oneRequest] (by decide +kernel) (by decide +kernel)
  exact absurd (hanswer.symm.trans hfalse) (by decide)

/-- A malformed request behind which a length is refused. -/
theorem errors_disconnect_last :
    letI := scalarLibrary
    letI := SizeWidth.host
    let call := strictSession.feedCall (frameStructuredPayload [9] ++ [0, 0, 0, 0])
      { world := () }
    call.EndsAtBreach .structuredBinary ∧ call.requests = [[9]] := by
  let := scalarLibrary
  let := SizeWidth.host
  have : LawfulErrors ScalarValue := ⟨fun _ => rfl, fun _ => rfl⟩
  have hframes : (requestFramer 64).frames (frameStructuredPayload [9] ++ [0, 0, 0, 0]) = [[9]] := by
    decide +kernel
  have hlast : strictSession.BreachLast (frameStructuredPayload [9] ++ [0, 0, 0, 0]) := by
    intro _ _ _
    change Throughout _ ((requestFramer 64).frames
      (frameStructuredPayload [9] ++ [0, 0, 0, 0]))
    rw [hframes]
    exact .singleton fun _ => ⟨by decide +kernel, rfl⟩
  exact ⟨(errors_disconnect (H := directHost) () strictRequests {} () () rfl []
    (frameStructuredPayload [9] ++ [0, 0, 0, 0])).1 hlast, by decide +kernel⟩

end Sockets.Command
