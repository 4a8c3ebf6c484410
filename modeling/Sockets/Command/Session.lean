import Sockets.Command.Protocol

/-! `SocketCommandSession`: Commands of one connection, as lines of text or as structured frames. -/
namespace Sockets.Command
open Foundation

/-- What a session calls. Registries and handlers are referred to by handles and may keep state in
`World`; none calls back into the session. `tokenize` gives the tokens and the parse error of a
line, which is empty when there was none. -/
structure CommandHost (Value : Type) [CommandLibrary Value] where
  World : Type
  Registry : Type
  Policy : Type
  Observer : Type
  Writer : Type
  tokenize : Bytes → List Bytes × Bytes
  invoke : Registry → CommandInvocation Value → World → CommandResult × World
  invokeLine : Registry → Bytes → World → CommandResult × World
  policy : Policy → SocketCommandInvocationContext Value → World → CommandResult × World
  observe : Observer → SocketCommandInvocationContext Value → CommandResult → World → World
  write : Writer → Bytes → World → Bool × World

variable {Value : Type} [CommandLibrary Value] (H : CommandHost Value)

/-- Calls that leave a session, in order; `received` and `handled` mark where the handling of a
line or of a structured frame starts and ends. -/
inductive CommandEvent where
  | received (request : Bytes)
  | policyCalled (policy : H.Policy) (context : SocketCommandInvocationContext Value)
      (result : CommandResult)
  | invoked (invocation : CommandInvocation Value) (result : CommandResult)
  | invokedLine (line : Bytes) (result : CommandResult)
  | observed (observer : H.Observer) (context : SocketCommandInvocationContext Value)
      (result : CommandResult)
  | wrote (writer : H.Writer) (bytes : Bytes) (accepted : Bool)
  | handled

/-- The outside of a session and the calls made to it. -/
structure Exterior where
  world : H.World
  log : List (CommandEvent H) := []

/-- An empty handler or a null registry is `none`. -/
structure SocketCommandSession [SizeWidth] where
  registry : Option H.Registry := none
  config : SocketCommandSessionConfig := {}
  metadata : SocketCommandMetadata := {}
  writer : Option H.Writer := none
  policy : Option H.Policy := none
  observer : Option H.Observer := none
  line : Bytes := []
  structured : Bytes := []
  discardUntilNewline : Bool := false
  expectedStructuredBytes : ℕ := 0
  initialized : Bool := false

variable {H}

namespace Exterior

def record (e : CommandEvent H) (x : Exterior H) : Exterior H := { x with log := x.log ++ [e] }

def callPolicy (policy : H.Policy) (context : SocketCommandInvocationContext Value)
    (x : Exterior H) : CommandResult × Exterior H :=
  let r := H.policy policy context x.world
  (r.1, { x with world := r.2 }.record (.policyCalled policy context r.1))

def invoke (registry : H.Registry) (invocation : CommandInvocation Value) (x : Exterior H) :
    CommandResult × Exterior H :=
  let r := H.invoke registry invocation x.world
  (r.1, { x with world := r.2 }.record (.invoked invocation r.1))

def invokeLine (registry : H.Registry) (line : Bytes) (x : Exterior H) :
    CommandResult × Exterior H :=
  let r := H.invokeLine registry line x.world
  (r.1, { x with world := r.2 }.record (.invokedLine line r.1))

def observe (observer : Option H.Observer) (context : SocketCommandInvocationContext Value)
    (result : CommandResult) (x : Exterior H) : Exterior H :=
  match observer with
  | none => x
  | some o =>
    { x with world := H.observe o context result x.world }.record (.observed o context result)

/-- An empty writer is never called: a session without one is not fed. -/
def write (writer : Option H.Writer) (bytes : Bytes) (x : Exterior H) : Bool × Exterior H :=
  match writer with
  | none => (false, x)
  | some w =>
    let r := H.write w bytes x.world
    (r.1, { x with world := r.2 }.record (.wrote w bytes r.1))

end Exterior

def isSpace (c : UInt8) : Bool := c = 0x20 || (0x09 ≤ c && c ≤ 0x0D)

def trim (value : Bytes) : Bytes :=
  ((value.dropWhile isSpace).reverse.dropWhile isSpace).reverse

def cr : UInt8 := 0x0D
def lf : UInt8 := 0x0A

/-- The line `WriteLineResult` writes. -/
def lineResponse (result : CommandResult) : Bytes :=
  text (if result.success then "OK " else "ERR ") ++ text (toString result.code.toInt) ++
    (if result.message = [] then [] else text " " ++ result.message) ++ [lf]

/-- The frame around an encoded response; empty where there is none to write. -/
def responseFrame (response : SocketCommandResponse) : Bytes :=
  match encodeResponse response with
  | none => []
  | some payload => frameStructuredPayload payload

theorem encodeResponse_length {response : SocketCommandResponse}
    (h : response.result.message.length ≤ 0xFFFFFFFF) :
    ∃ payload, encodeResponse response = some payload ∧
      payload.length = response.result.message.length + 22 := by
  refine ⟨_, by simp [encodeResponse, appendString32, not_lt.mpr h]; rfl, ?_⟩
  simp only [appendU8, appendU32, appendU64, appendI32, List.length_append, length_beBytes]
  omega

theorem frameStructuredPayload_eq_nil_iff (payload : Bytes) :
    frameStructuredPayload payload = [] ↔ 2 ^ 32 ≤ payload.length := by
  unfold frameStructuredPayload
  split_ifs with h
  · simp only [true_iff]
    omega
  · have hne : appendU32 payload.length ++ payload ≠ [] := by
      intro h0
      have hlen := congrArg List.length h0
      simp [appendU32] at hlen
    simp only [hne, false_iff]
    omega

/-- A response is too long for a frame from 2^32 - 22 bytes of message on. -/
theorem responseFrame_eq_nil_iff (response : SocketCommandResponse) :
    responseFrame response = [] ↔ 2 ^ 32 ≤ response.result.message.length + 22 := by
  unfold responseFrame
  by_cases h : response.result.message.length ≤ 0xFFFFFFFF
  · obtain ⟨payload, hencode, hlen⟩ := encodeResponse_length h
    rw [hencode, ← hlen]
    exact frameStructuredPayload_eq_nil_iff payload
  · have hnone : encodeResponse response = none := by
      simp [encodeResponse, appendString32, not_le.mp h]
    simp only [hnone, true_iff]
    omega

namespace SocketCommandSession
variable [SizeWidth]

def shutdown (s : SocketCommandSession H) : SocketCommandSession H :=
  { s with registry := none, writer := none, policy := none, observer := none, line := []
           structured := [], discardUntilNewline := false, expectedStructuredBytes := 0
           initialized := false }

def initializeWith (registry : H.Registry) (config : SocketCommandSessionConfig)
    (metadata : SocketCommandMetadata) (writer : Option H.Writer) (s : SocketCommandSession H) :
    Bool × SocketCommandSession H :=
  let s := s.shutdown
  if writer.isNone || config.maximumRequestBytes.val = 0 then (false, s)
  else (true, { s with registry := some registry, config, metadata, writer, initialized := true })

def resetInput (s : SocketCommandSession H) : SocketCommandSession H :=
  { s with line := [], structured := [], discardUntilNewline := false
           expectedStructuredBytes := 0 }

def setMetadata (metadata : SocketCommandMetadata) (s : SocketCommandSession H) :
    SocketCommandSession H := { s with metadata }

def setPolicy (policy : Option H.Policy) (s : SocketCommandSession H) : SocketCommandSession H :=
  { s with policy }

def setResultObserver (observer : Option H.Observer) (s : SocketCommandSession H) :
    SocketCommandSession H := { s with observer }

def writeLineResult (s : SocketCommandSession H) (result : CommandResult) (x : Exterior H) :
    Bool × Exterior H := x.write s.writer (lineResponse result)

/-- `Execute`, the policy and the registry of the structured path. -/
def execute (context : SocketCommandInvocationContext Value) (s : SocketCommandSession H)
    (x : Exterior H) : CommandResult × Exterior H :=
  match s.registry with
  | none => (CommandLibrary.error Value (text "Socket Command session is not initialized"), x)
  | some registry =>
    let run (x : Exterior H) :=
      let r := x.invoke registry context.invocation
      (r.1, r.2.observe s.observer context r.1)
    match s.policy with
    | none => run x
    | some policy =>
      let verdict := x.callPolicy policy context
      if !verdict.1.success then (verdict.1, verdict.2.observe s.observer context verdict.1)
      else run verdict.2

/-- `HandleLine`: its answer and the metadata it leaves. -/
def handleLine (line : Bytes) (s : SocketCommandSession H) (x : Exterior H) :
    Bool × SocketCommandMetadata × Exterior H :=
  let line := trim line
  if line = [] ∧ s.config.ignoreEmptyLines then (true, s.metadata, x)
  else
    let metadata := { s.metadata with requestID := s.metadata.requestID + 1 }
    let tokens := H.tokenize line
    let respond (result : CommandResult) (x : Exterior H) :=
      let w := s.writeLineResult result x
      (w.1, metadata, w.2)
    if tokens.2 ≠ [] then respond (CommandLibrary.error Value tokens.2) x
    else
      match tokens.1 with
      | [] => respond (CommandLibrary.error Value (text "No command supplied")) x
      | command :: _ =>
        let context : SocketCommandInvocationContext Value :=
          { invocation := { path := [command], raw := line }, metadata }
        let run (x : Exterior H) :=
          match s.registry with
          -- a null registry would be undefined behaviour; an initialised session has one
          | none => (false, metadata, x)
          | some registry =>
            let r := x.invokeLine registry line
            respond r.1 (r.2.observe s.observer context r.1)
        match s.policy with
        | none => run x
        | some policy =>
          let verdict := x.callPolicy policy context
          if !verdict.1.success then
            respond verdict.1 (verdict.2.observe s.observer context verdict.1)
          else run verdict.2

/-- The handling of one request, between its marks in the log. -/
def during (request : Bytes)
    (handle : Exterior H → Bool × SocketCommandMetadata × Exterior H) (x : Exterior H) :
    Bool × SocketCommandMetadata × Exterior H :=
  let r := handle (x.record (.received request))
  (r.1, r.2.1, r.2.2.record .handled)

def tooLong : Bytes := text "Command exceeds maximum request length"

def feedLine : Bytes → Bool → SocketCommandSession H → Exterior H →
    Bool × SocketCommandSession H × Exterior H
  | [], success, s, x => (success, s, x)
  | c :: data, success, s, x =>
    if c = cr then feedLine data success s x
    else if c = lf then
      if s.discardUntilNewline then
        let s := { s with discardUntilNewline := false, line := [] }
        let w := s.writeLineResult (CommandLibrary.error Value tooLong) x
        if s.config.disconnectOnProtocolError then (false, s, w.2)
        else feedLine data (w.1 && success) s w.2
      else
        let line := s.line
        let s := { s with line := [] }
        let r := during line (s.handleLine line) x
        feedLine data (r.1 && success) { s with metadata := r.2.1 } r.2.2
    else if s.discardUntilNewline then feedLine data success s x
    else if s.config.maximumRequestBytes.val ≤ s.line.length then
      feedLine data success { s with line := [], discardUntilNewline := true } x
    else feedLine data success { s with line := s.line ++ [c] } x

/-- The common end of the structured path: encode, frame and write a response. -/
def writeResponse (s : SocketCommandSession H) (response : SocketCommandResponse)
    (x : Exterior H) : Bool × Exterior H :=
  let frame := responseFrame response
  if frame = [] then (false, x) else x.write s.writer frame

def emitStructuredError (s : SocketCommandSession H) (requestID : UInt64) (message : Bytes)
    (x : Exterior H) : Bool × Exterior H :=
  s.writeResponse { requestID, result := CommandLibrary.error Value message } x

def malformedRequest : Bytes := text "Malformed structured Command request"

/-- `HandleStructuredFrame`: its answer and the metadata it leaves. -/
def handleStructuredFrame (data : Bytes) (s : SocketCommandSession H) (x : Exterior H) :
    Bool × SocketCommandMetadata × Exterior H :=
  match decodeRequest data { metadata := s.metadata : SocketCommandInvocationContext Value } with
  | none =>
    let w := s.emitStructuredError 0 malformedRequest x
    (w.1, s.metadata, w.2)
  | some context =>
    let r := s.execute context x
    let w := s.writeResponse { requestID := context.metadata.requestID, result := r.1 } r.2
    (w.1, { s.metadata with requestID := context.metadata.requestID }, w.2)

/-- What the top of the structured loop finds: too little for a length, a length it refuses, or a
length, read now or in an earlier call, with what follows it. -/
inductive Expect (H : CommandHost Value) where
  | wait
  | invalid
  | ready (s : SocketCommandSession H)

def expect (s : SocketCommandSession H) : Expect H :=
  if s.expectedStructuredBytes ≠ 0 then .ready s
  else if s.structured.length < 4 then .wait
  else
    let expected := beNat (s.structured.take 4)
    if expected = 0 ∨ s.config.maximumRequestBytes.val < expected then .invalid
    else .ready { s with structured := s.structured.drop 4, expectedStructuredBytes := expected }

theorem expect_ready {s s' : SocketCommandSession H} (h : s.expect = .ready s') :
    s'.structured.length ≤ s.structured.length ∧ s'.expectedStructuredBytes ≠ 0 := by
  unfold expect at h
  dsimp only at h
  split_ifs at h with h1 h2 h3
  · cases h
    exact ⟨le_rfl, h1⟩
  · cases h
    exact ⟨by simp, fun h0 => h3 (.inl h0)⟩

def exceedsLimit : Bytes := text "Structured Command frame exceeds configured limit"

/-- Behind the loop: more than a whole request is never kept. -/
def settle (success : Bool) (s : SocketCommandSession H) (x : Exterior H) :
    Bool × SocketCommandSession H × Exterior H :=
  if s.config.maximumRequestBytes.val < s.structured.length then
    (false, { s with structured := [], expectedStructuredBytes := 0 }, x)
  else (success, s, x)

/-- The loop of `FeedStructured` and what follows it. -/
def structuredLoop (success : Bool) (s : SocketCommandSession H) (x : Exterior H) :
    Bool × SocketCommandSession H × Exterior H :=
  match _h : s.expect with
  | .wait => settle success s x
  | .invalid =>
    let s := { s with structured := [], expectedStructuredBytes := 0 }
    let w := s.emitStructuredError 0 exceedsLimit x
    (if s.config.disconnectOnProtocolError then false else w.1, s, w.2)
  | .ready s' =>
    if _hlen : s'.structured.length < s'.expectedStructuredBytes then settle success s' x
    else
      let data := s'.structured.take s'.expectedStructuredBytes
      let r := during data (s'.handleStructuredFrame data) x
      structuredLoop (r.1 && success)
        { s' with structured := s'.structured.drop s'.expectedStructuredBytes
                  expectedStructuredBytes := 0, metadata := r.2.1 } r.2.2
termination_by s.structured.length
decreasing_by
  have hready := expect_ready _h
  rw [List.length_drop]
  omega

theorem structuredLoop_wait {s : SocketCommandSession H} (h : s.expect = .wait)
    (success : Bool) (x : Exterior H) : structuredLoop success s x = settle success s x := by
  rw [structuredLoop]
  split <;> simp_all

theorem structuredLoop_invalid {s : SocketCommandSession H} (h : s.expect = .invalid)
    (success : Bool) (x : Exterior H) :
    structuredLoop success s x =
      let s := { s with structured := [], expectedStructuredBytes := 0 }
      let w := s.emitStructuredError 0 exceedsLimit x
      (if s.config.disconnectOnProtocolError then false else w.1, s, w.2) := by
  rw [structuredLoop]
  split <;> simp_all

theorem structuredLoop_ready {s s' : SocketCommandSession H} (h : s.expect = .ready s')
    (success : Bool) (x : Exterior H) :
    structuredLoop success s x =
      if s'.structured.length < s'.expectedStructuredBytes then settle success s' x
      else
        let data := s'.structured.take s'.expectedStructuredBytes
        let r := during data (s'.handleStructuredFrame data) x
        structuredLoop (r.1 && success)
          { s' with structured := s'.structured.drop s'.expectedStructuredBytes
                    expectedStructuredBytes := 0, metadata := r.2.1 } r.2.2 := by
  rw [structuredLoop]
  split
  · simp_all
  · simp_all
  · rename_i s'' h''
    obtain rfl : s'' = s' := by simpa [h] using h''.symm
    split_ifs <;> rfl

def feedStructured (data : Bytes) (s : SocketCommandSession H) (x : Exterior H) :
    Bool × SocketCommandSession H × Exterior H :=
  if sizeAdd s.config.maximumRequestBytes.val 4 < data.length ∧ s.structured = [] then (false, s, x)
  else structuredLoop true { s with structured := s.structured ++ data } x

def feed (data : Bytes) (s : SocketCommandSession H) (x : Exterior H) :
    Bool × SocketCommandSession H × Exterior H :=
  if !s.initialized then (false, s, x)
  else
    match s.config.mode with
    | .line => feedLine data true s x
    | .structuredBinary => feedStructured data s x

end SocketCommandSession
end Sockets.Command
