import Sockets.Foundation.Reentrant
import Sockets.Command.Lines
import Sockets.Command.Oversized

/-! `Feed`, `ResetInput` and `Shutdown` when the policy, the Commands, the observer and the writer
of a session call them again. -/
namespace Sockets.Command
open Foundation

variable {Value : Type} [CommandLibrary Value] (H : CommandHost Value)

/-- The calls a session makes while it is fed. -/
inductive CommandQuery where
  | policy (policy : H.Policy) (context : SocketCommandInvocationContext Value)
  | invoke (registry : H.Registry) (invocation : CommandInvocation Value)
  | invokeLine (registry : H.Registry) (line : Bytes)
  | observe (observer : H.Observer) (context : SocketCommandInvocationContext Value)
      (result : CommandResult)
  | write (writer : H.Writer) (bytes : Bytes)

@[reducible] def CommandQuery.Answer : CommandQuery H → Type
  | .policy _ _ | .invoke _ _ | .invokeLine _ _ => CommandResult
  | .observe _ _ _ => Unit
  | .write _ _ => Bool

inductive CommandEntry where
  | feed (data : Bytes)
  | resetInput
  | shutdown

/-- Where `Feed` goes on: in the loop of `FeedLine`, with the bytes that are left, or in that of
`FeedStructured`. -/
inductive FeedLabel where
  | line (data : Bytes) (success : Bool)
  | structured (success : Bool)

/-- The bytes that were taken between two times the input was cleared, and the lines or structured
frames that were handled in that time. -/
structure Intake where
  stream : Bytes := []
  handled : List Bytes := []

/-- A session and what happened to it: `answering` counts the lines whose result has not gone to the
writer, and `handling` the structured frames that have not been erased. -/
structure CommandState [SizeWidth] where
  session : SocketCommandSession H
  past : List Intake := []
  current : Intake := {}
  answering : ℕ := 0
  handling : ℕ := 0

variable [SizeWidth]

abbrev CommandCode (R : Type) := Code (CommandState H) (CommandQuery H) (CommandQuery.Answer H) R

variable {H}

namespace CommandState

/-- The input is cleared. -/
def clear (session : SocketCommandSession H) (s : CommandState H) : CommandState H :=
  { s with session, past := s.past ++ [s.current], current := {} }

/-- `data` is taken, which leaves this session. -/
def take (data : Bytes) (session : SocketCommandSession H) (s : CommandState H) : CommandState H :=
  { s with session, current := { s.current with stream := s.current.stream ++ data } }

/-- A line feed ends a line, which is moved out of the session. -/
def takeLine (s : CommandState H) : CommandState H :=
  { s with session := { s.session with line := [] }
           current := { stream := s.current.stream ++ [lf]
                        handled := s.current.handled ++ [s.session.line] } }

/-- `HandleLine` numbers a request. -/
def number (s : CommandState H) : CommandState H :=
  { s with session := s.session.setMetadata
             { s.session.metadata with requestID := s.session.metadata.requestID + 1 }
           answering := s.answering + 1 }

/-- A frame goes to `HandleStructuredFrame`. -/
def start (session : SocketCommandSession H) (frame : Bytes) (s : CommandState H) :
    CommandState H :=
  { s with session, current := { s.current with handled := s.current.handled ++ [frame] }
           handling := s.handling + 1 }

/-- The handled frame is erased. -/
def erase (frameSize : ℕ) (s : CommandState H) : CommandState H :=
  { s with session := { s.session with structured := s.session.structured.drop frameSize
                                       expectedStructuredBytes := 0 }
           handling := s.handling - 1 }

end CommandState

/-- The writer is called, which must not be empty. -/
def writeCode (bytes : Bytes) : CommandCode H Bool := do
  let s ← Code.get
  match s.session.writer with
  | none => Code.fault
  | some writer => Code.ask (CommandQuery.write writer bytes)

def observeCode (context : SocketCommandInvocationContext Value) (result : CommandResult) :
    CommandCode H PUnit := do
  let s ← Code.get
  match s.session.observer with
  | none => pure ⟨⟩
  | some observer => Code.ask (CommandQuery.observe observer context result) >>= fun _ => pure ⟨⟩

/-- The registry is called, which must not be null, and then the observer. -/
def invokeCode (context : SocketCommandInvocationContext Value)
    (invoke : H.Registry → CommandCode H CommandResult) : CommandCode H CommandResult := do
  let s ← Code.get
  match s.session.registry with
  | none => Code.fault
  | some registry =>
    let result ← invoke registry
    observeCode context result
    pure result

/-- What `HandleLine` and `Execute` have in common: the policy, then the Command. -/
def decideCode (context : SocketCommandInvocationContext Value)
    (invoke : H.Registry → CommandCode H CommandResult) : CommandCode H CommandResult := do
  let s ← Code.get
  match s.session.policy with
  | none => invokeCode context invoke
  | some policy =>
    let verdict : CommandResult ← Code.ask (CommandQuery.policy policy context)
    if !verdict.success then
      observeCode context verdict
      pure verdict
    else invokeCode context invoke

/-- `WriteLineResult` for a line that was numbered. -/
def answerCode (result : CommandResult) : CommandCode H Bool := do
  Code.modify fun s => { s with answering := s.answering - 1 }
  writeCode (lineResponse result)

def handleLineCode (line : Bytes) : CommandCode H Bool := do
  let line := trim line
  let s ← Code.get
  if line = [] ∧ s.session.config.ignoreEmptyLines then pure true
  else
    Code.set s.number
    let tokens := H.tokenize line
    if tokens.2 ≠ [] then answerCode (CommandLibrary.error Value tokens.2)
    else
      match tokens.1 with
      | [] => answerCode (CommandLibrary.error Value (text "No command supplied"))
      | command :: _ =>
        let result ← decideCode
          { invocation := { path := [command], raw := line }
            metadata := s.number.session.metadata }
          fun registry => Code.ask (CommandQuery.invokeLine registry line)
        answerCode result

/-- One turn of the loop of `FeedLine`. -/
def lineLoop : Bytes → Bool → CommandCode H (Exit FeedLabel Bool)
  | [], success => pure (.ret success)
  | c :: data, success => do
    let s ← Code.get
    let session := s.session
    if c = cr then
      Code.set (s.take [c] session)
      pure (.goto (.line data success))
    else if c = lf then
      if session.discardUntilNewline then
        Code.set (s.take [c] { session with discardUntilNewline := false, line := [] })
        let tooLong := CommandLibrary.error Value SocketCommandSession.tooLong
        let wrote : Bool ← writeCode (lineResponse tooLong)
        let s ← Code.get
        if s.session.config.disconnectOnProtocolError then pure (.ret false)
        else pure (.goto (.line data (wrote && success)))
      else
        Code.set s.takeLine
        let handled : Bool ← handleLineCode session.line
        pure (.goto (.line data (handled && success)))
    else if session.discardUntilNewline then
      Code.set (s.take [c] session)
      pure (.goto (.line data success))
    else if session.config.maximumRequestBytes.val ≤ session.line.length then
      Code.set (s.take [c] { session with line := [], discardUntilNewline := true })
      pure (.goto (.line data success))
    else
      Code.set (s.take [c] { session with line := session.line ++ [c] })
      pure (.goto (.line data success))

def executeCode (context : SocketCommandInvocationContext Value) : CommandCode H CommandResult := do
  let s ← Code.get
  if s.session.registry.isNone then
    pure (CommandLibrary.error Value (text "Socket Command session is not initialized"))
  else
    decideCode context fun registry => Code.ask (CommandQuery.invoke registry context.invocation)

def writeResponseCode (response : SocketCommandResponse) : CommandCode H Bool :=
  if responseFrame response = [] then pure false else writeCode (responseFrame response)

def handleStructuredFrameCode (data : Bytes) : CommandCode H Bool := do
  let s ← Code.get
  match decodeRequest data
    { metadata := s.session.metadata : SocketCommandInvocationContext Value } with
  | none =>
    writeResponseCode
      { requestID := 0, result := CommandLibrary.error Value SocketCommandSession.malformedRequest }
  | some context =>
    let requestID := context.metadata.requestID
    Code.set { s with session := s.session.setMetadata { s.session.metadata with requestID } }
    let result : CommandResult ← executeCode context
    writeResponseCode { requestID, result }

/-- Behind the loop of `FeedStructured`: more than a whole request is never kept. -/
def settleCode (success : Bool) (s : CommandState H) : CommandCode H (Exit FeedLabel Bool) :=
  if s.session.config.maximumRequestBytes.val < s.session.structured.length then do
    Code.set (s.clear { s.session with structured := [], expectedStructuredBytes := 0 })
    pure (.ret false)
  else do
    Code.set s
    pure (.ret success)

/-- One turn of the loop of `FeedStructured`, and what follows its last one. -/
def structuredLoop (success : Bool) : CommandCode H (Exit FeedLabel Bool) := do
  let s ← Code.get
  match s.session.expect with
  | .wait => settleCode success s
  | .invalid =>
    Code.set (s.clear { s.session with structured := [], expectedStructuredBytes := 0 })
    let wrote : Bool ← writeResponseCode
      { requestID := 0, result := CommandLibrary.error Value SocketCommandSession.exceedsLimit }
    let s ← Code.get
    pure (.ret (if s.session.config.disconnectOnProtocolError then false else wrote))
  | .ready session =>
    let frameSize := session.expectedStructuredBytes
    if session.structured.length < frameSize then settleCode success { s with session }
    else
      let data := session.structured.take frameSize
      Code.set (s.start session data)
      let handled : Bool ← handleStructuredFrameCode data
      let s ← Code.get
      -- an erase beyond the buffer is undefined
      if s.session.structured.length < frameSize then Code.fault
      else
        Code.set (s.erase frameSize)
        pure (.goto (.structured (handled && success)))

/-- `Feed` up to its loop. -/
def feedCode (data : Bytes) : CommandCode H (Exit FeedLabel Bool) := do
  let s ← Code.get
  let session := s.session
  if !session.initialized then pure (.ret false)
  else
    match session.config.mode with
    | .line => pure (.goto (.line data true))
    | .structuredBinary =>
      if sizeAdd session.config.maximumRequestBytes.val 4 < data.length ∧
          session.structured = [] then
        pure (.ret false)
      else
        Code.set (s.take data { session with structured := session.structured ++ data })
        pure (.goto (.structured true))

/-- `ResetInput` and `Shutdown`. -/
def clearCode (f : SocketCommandSession H → SocketCommandSession H) :
    CommandCode H (Exit FeedLabel Bool) := do
  Code.modify fun s => s.clear (f s.session)
  pure (.ret true)

variable (H) in
def feedProgram : Program (CommandState H) (CommandQuery H) (CommandQuery.Answer H) FeedLabel Bool
    CommandEntry where
  entry
    | .feed data => feedCode data
    | .resetInput => clearCode SocketCommandSession.resetInput
    | .shutdown => clearCode SocketCommandSession.shutdown
  body
    | .line data success => lineLoop data success
    | .structured success => structuredLoop success

/-- The lines or frames that were handled are those of the stream, once each and in order: the lines
that are short enough, and frames from its beginning. -/
def Intake.Once (config : SocketCommandSessionConfig) (a : Intake) : Prop :=
  match config.mode with
  | .line => a.handled = (completed lf (a.stream.filter (· ≠ cr))).filter
      (·.length ≤ config.maximumRequestBytes.val)
  | .structuredBinary => ∃ part, a.stream = framed a.handled ++ part

namespace CommandState

def Once (s : CommandState H) : Prop :=
  (∀ a ∈ s.past, a.Once s.session.config) ∧ s.current.Once s.session.config

/-- What is left of the stream is what the session keeps. -/
def Level (s : CommandState H) : Prop :=
  match s.session.config.mode with
  | .line => s.session.kept = lineRequest s.session.config.maximumRequestBytes.val
      (unfinished lf (s.current.stream.filter (· ≠ cr)))
  | .structuredBinary => s.current.stream = framed s.current.handled ++ s.session.pending ∧
      s.session.Expecting

/-- Where control may be outside the session. -/
structure Sane (s : CommandState H) : Prop where
  once : s.Once
  attached : s.session.initialized = true → s.session.registry ≠ none ∧ s.session.writer ≠ none
  answering : 0 < s.answering → s.session.initialized = true
  level : s.handling = 0 → s.Level

/-- The line that is kept is one that `HandleLine` ignores. -/
def Ignores (s : CommandState H) : Prop :=
  s.session.discardUntilNewline = false ∧ trim s.session.line = [] ∧
    s.session.config.ignoreEmptyLines = true

end CommandState

/-- Nothing is called while a frame is handled, and `Shutdown` not while a line is. -/
def CommandEntry.Permitted (s : CommandState H) : CommandEntry → Prop
  | .shutdown => s.handling = 0 ∧ s.answering = 0
  | .feed _ | .resetInput => s.handling = 0

/-- After `Shutdown` no line ends but blank ones that are ignored. -/
def FeedLabel.Admitted (s : CommandState H) : FeedLabel → Prop
  | .line (c :: _) _ => c = lf → s.session.initialized = true ∨ s.Ignores
  | .line [] _ | .structured _ => True

/-- A routine that was entered in `s₀` has come to `s`, between two requests. -/
structure Between (s₀ s : CommandState H) : Prop extends s.Sane where
  config : s.session.config = s₀.session.config
  answered : s.answering = s₀.answering
  handled : s.handling = 0
  entered : s₀.handling = 0

/-- A line that is answered finds the session initialised, and a frame that is handled finds it as
it was. -/
def commandTerms : Discipline (CommandState H) FeedLabel CommandEntry where
  permits e s := e.Permitted s
  admits l s := l.Admitted s
  always := CommandState.Once
  rest := CommandState.Sane
  rely s s' := s'.session.config = s.session.config ∧ s'.answering = s.answering ∧
    s'.handling = s.handling ∧ (0 < s.handling → s' = s)
  loop l s₀ s := Between s₀ s ∧
    match l with
    | .line _ _ => s.session.config.mode = .line
    | .structured _ => s.session.config.mode = .structuredBinary ∧ s.session.initialized = true

theorem command_trans {s s' s'' : CommandState H} (h : commandTerms.rely s s')
    (h' : commandTerms.rely s' s'') : commandTerms.rely s s'' := by
  obtain ⟨hconfig, hanswering, hhandling, hsame⟩ := h
  obtain ⟨hconfig', hanswering', hhandling', hsame'⟩ := h'
  refine ⟨hconfig'.trans hconfig, hanswering'.trans hanswering, hhandling'.trans hhandling,
    fun hpos => ?_⟩
  obtain rfl := hsame hpos
  exact hsame' hpos

theorem command_refl (s : CommandState H) : commandTerms.rely s s := ⟨rfl, rfl, rfl, fun _ => rfl⟩

section Keeps
open Discipline
variable {s : CommandState H}

/-- What a call inside a request may leave. -/
def After (s s' : CommandState H) : Prop := s'.Sane ∧ commandTerms.rely s s'

theorem Between.after {s₀ s' : CommandState H} (h : Between s₀ s) (h' : After s s') :
    Between s₀ s' := by
  obtain ⟨hsane, hconfig, hanswering, hhandling, -⟩ := h'
  exact ⟨hsane, hconfig.trans h.config, hanswering.trans h.answered, hhandling.trans h.handled,
    h.entered⟩

theorem Between.ends {s₀ : CommandState H} (h : Between s₀ s) : After s₀ s :=
  ⟨h.toSane, h.config, h.answered, h.handled.trans h.entered.symm,
    fun hpos => absurd hpos (by rw [h.entered]; exact Nat.lt_irrefl 0)⟩

/-- Where no frame is handled, what a turn leaves is not bound to be the same. -/
theorem after_of (h0 : s.handling = 0) {s' s'' : CommandState H} (h : After s' s'')
    (hstep : s'.session.config = s.session.config ∧ s'.answering = s.answering ∧
      s'.handling = s.handling) : After s s'' :=
  ⟨h.1, command_trans ⟨hstep.1, hstep.2.1, hstep.2.2, fun hpos => absurd hpos (by omega)⟩ h.2⟩

/-- A request is being answered or handled, in a session that is initialised. -/
structure Busy (s : CommandState H) : Prop extends s.Sane where
  initialized : s.session.initialized = true
  held : 0 < s.answering ∨ 0 < s.handling

theorem Busy.after (h : Busy s) {s' : CommandState H} (h' : After s s') : Busy s' := by
  obtain ⟨hsane, -, hanswering, hhandling, hsame⟩ := h'
  refine ⟨hsane, ?_, by rw [hanswering, hhandling]; exact h.held⟩
  rcases h.held with hpos | hpos
  · exact hsane.answering (hanswering ▸ hpos)
  · rw [hsame hpos]
    exact h.initialized

theorem writeCode_keeps (h : s.Sane) (hinit : s.session.initialized = true) (bytes : Bytes) :
    commandTerms.Keeps (fun _ => After s) (writeCode bytes) s := by
  unfold writeCode
  rw [keeps_get]
  cases hwriter : s.session.writer with
  | none => exact absurd hwriter (h.attached hinit).2
  | some writer => exact ⟨h, fun _ s' hrely hrest => ⟨hrest, hrely⟩⟩

theorem observeCode_keeps (h : s.Sane) (context : SocketCommandInvocationContext Value)
    (result : CommandResult) :
    commandTerms.Keeps (fun _ => After s) (observeCode context result) s := by
  unfold observeCode
  rw [keeps_get]
  cases s.session.observer with
  | none => exact ⟨h, command_refl s⟩
  | some observer => exact ⟨h, fun _ s' hrely hrest => ⟨hrest, hrely⟩⟩

theorem invokeCode_keeps (h : Busy s) (context : SocketCommandInvocationContext Value)
    {invoke : H.Registry → CommandCode H CommandResult}
    (hinvoke : ∀ registry {s : CommandState H}, s.Sane →
      commandTerms.Keeps (fun _ => After s) (invoke registry) s) :
    commandTerms.Keeps (fun _ => After s) (invokeCode context invoke) s := by
  unfold invokeCode
  rw [keeps_get]
  cases hregistry : s.session.registry with
  | none => exact absurd hregistry (h.attached h.initialized).1
  | some registry =>
    apply Keeps.bind
    refine (hinvoke registry h.toSane).mono fun result s' hs' => ?_
    apply Keeps.bind
    refine (observeCode_keeps hs'.1 context result).mono fun _ s'' hs'' => ?_
    exact ⟨hs''.1, command_trans hs'.2 hs''.2⟩

theorem decideCode_keeps (h : Busy s) (context : SocketCommandInvocationContext Value)
    {invoke : H.Registry → CommandCode H CommandResult}
    (hinvoke : ∀ registry {s : CommandState H}, s.Sane →
      commandTerms.Keeps (fun _ => After s) (invoke registry) s) :
    commandTerms.Keeps (fun _ => After s) (decideCode context invoke) s := by
  unfold decideCode
  rw [keeps_get]
  cases s.session.policy with
  | none => exact invokeCode_keeps h context hinvoke
  | some policy =>
    dsimp only
    rw [keeps_ask]
    refine ⟨h.toSane, fun verdict s' hrely hrest => ?_⟩
    split_ifs
    · apply Keeps.bind
      refine (observeCode_keeps hrest context verdict).mono fun _ s'' hs'' => ?_
      exact ⟨hs''.1, command_trans hrely hs''.2⟩
    · refine (invokeCode_keeps (h.after ⟨hrest, hrely⟩) context hinvoke).mono fun _ s'' hs'' => ?_
      exact ⟨hs''.1, command_trans hrely hs''.2⟩

/-- The result of a numbered line goes to the writer. -/
theorem answerCode_keeps (h : Busy s) (result : CommandResult) :
    commandTerms.Keeps (fun _ => After { s with answering := s.answering - 1 })
      (answerCode result) s := by
  have hanswered : CommandState.Sane { s with answering := s.answering - 1 } :=
    { once := h.once
      attached := h.attached
      answering := fun _ => h.initialized
      level := h.level }
  unfold answerCode
  rw [keeps_modify]
  exact ⟨h.once, writeCode_keeps hanswered h.initialized _⟩

theorem handleLineCode_keeps (h : s.Sane) (h0 : s.handling = 0) {line : Bytes}
    (hline : s.session.initialized = true ∨
      trim line = [] ∧ s.session.config.ignoreEmptyLines = true) :
    commandTerms.Keeps (fun _ => After s) (handleLineCode line) s := by
  unfold handleLineCode
  dsimp only
  rw [keeps_get]
  split_ifs with hignored herror
  · exact ⟨h, command_refl s⟩
  all_goals
    have hinit : s.session.initialized = true := hline.resolve_right hignored
    have hbusy : Busy s.number :=
      { once := h.once
        attached := h.attached
        answering := fun _ => hinit
        level := h.level
        initialized := hinit
        held := .inl (Nat.succ_pos _) }
    -- the line is answered in a state that the number of answers leads back to
    have hanswer {s' : CommandState H} (hs' : After s.number s') (result : CommandResult) :
        commandTerms.Keeps (fun _ => After s) (answerCode result) s' := by
      refine (answerCode_keeps (hbusy.after hs') result).mono fun _ s'' hs'' => ⟨hs''.1, ?_⟩
      obtain ⟨-, hconfig, hanswering, hhandling, -⟩ := hs'
      obtain ⟨-, hconfig', hanswering', hhandling', -⟩ := hs''
      refine ⟨hconfig'.trans hconfig, ?_, hhandling'.trans hhandling, fun hpos => ?_⟩
      · have hnumber : s.number.answering = s.answering + 1 := rfl
        dsimp only at hanswering'
        omega
      · omega
    rw [keeps_set]
    refine ⟨hbusy.once, ?_⟩
  · exact hanswer ⟨hbusy.toSane, command_refl _⟩ _
  · cases (H.tokenize (trim line)).1 with
    | nil => exact hanswer ⟨hbusy.toSane, command_refl _⟩ _
    | cons command arguments =>
      apply Keeps.bind
      refine (decideCode_keeps hbusy _ fun registry s hs => ?_).mono fun result s' hs' =>
        hanswer hs' result
      exact ⟨hs, fun _ s' hrely hrest => ⟨hrest, hrely⟩⟩

omit [SizeWidth] in
theorem filter_cr (stream : Bytes) :
    (stream ++ [cr]).filter (· ≠ cr) = stream.filter (· ≠ cr) := by
  simp

omit [SizeWidth] in
theorem filter_byte {c : UInt8} (hc : c ≠ cr) (stream : Bytes) :
    (stream ++ [c]).filter (· ≠ cr) = stream.filter (· ≠ cr) ++ [c] := by
  simp [hc]

section Line
variable (hmode : s.session.config.mode = .line)
include hmode

theorem once_line : s.current.Once s.session.config ↔
    s.current.handled = (completed lf (s.current.stream.filter (· ≠ cr))).filter
      (·.length ≤ s.session.config.maximumRequestBytes.val) := by
  simp only [Intake.Once, hmode]

theorem level_line : s.Level ↔ s.session.kept = lineRequest s.session.config.maximumRequestBytes.val
    (unfinished lf (s.current.stream.filter (· ≠ cr))) := by
  simp only [CommandState.Level, hmode]

/-- What is kept of a line is all of it, if it is short enough. -/
theorem kept_line (h : s.Sane) (h0 : s.handling = 0) :
    if s.session.discardUntilNewline then s.session.config.maximumRequestBytes.val <
      (unfinished lf (s.current.stream.filter (· ≠ cr))).length
    else s.session.line = unfinished lf (s.current.stream.filter (· ≠ cr)) ∧
      (unfinished lf (s.current.stream.filter (· ≠ cr))).length ≤
        s.session.config.maximumRequestBytes.val := by
  have hkept := (level_line hmode).mp (h.level h0)
  unfold SocketCommandSession.kept lineRequest at hkept
  split_ifs at hkept ⊢ with hdiscard hlong
  · exact hlong
  · exact ⟨LineRequest.line.inj hkept, not_lt.mp ‹_›⟩

/-- A byte that ends no line which is handled. -/
theorem sane_take (h : s.Sane) (c : UInt8) {line : Bytes} {discard : Bool}
    (hhandled : (completed lf ((s.current.stream ++ [c]).filter (· ≠ cr))).filter
        (·.length ≤ s.session.config.maximumRequestBytes.val) =
      (completed lf (s.current.stream.filter (· ≠ cr))).filter
        (·.length ≤ s.session.config.maximumRequestBytes.val))
    (hkept : (if discard then LineRequest.overlong else .line line) =
      lineRequest s.session.config.maximumRequestBytes.val
        (unfinished lf ((s.current.stream ++ [c]).filter (· ≠ cr)))) :
    (s.take [c] { s.session with line, discardUntilNewline := discard }).Sane where
  once := by
    refine ⟨h.once.1, (once_line (s := s.take [c] _) hmode).mpr ?_⟩
    exact ((once_line hmode).mp h.once.2).trans hhandled.symm
  attached := h.attached
  answering := h.answering
  level _ := (level_line (s := s.take [c] { s.session with line, discardUntilNewline := discard })
    hmode).mpr hkept

/-- A byte of a line. -/
theorem sane_grow (h : s.Sane) (h0 : s.handling = 0) {c : UInt8} (hcr : c ≠ cr) (hlf : c ≠ lf)
    {line : Bytes} {discard : Bool}
    (hkept : (if discard then LineRequest.overlong else .line line) =
      s.session.kept.grow s.session.config.maximumRequestBytes.val c) :
    (s.take [c] { s.session with line, discardUntilNewline := discard }).Sane := by
  apply sane_take hmode h
  · rw [filter_byte hcr, completed_grow _ hlf]
  · rw [filter_byte hcr, unfinished_grow _ hlf, ← grow_lineRequest,
      ← (level_line hmode).mp (h.level h0), hkept]

/-- The end of a line that was too long. -/
theorem sane_resume (h : s.Sane) (h0 : s.handling = 0)
    (hdiscard : s.session.discardUntilNewline = true) :
    (s.take [lf] { s.session with discardUntilNewline := false, line := [] }).Sane := by
  have hkept := kept_line hmode h h0
  rw [hdiscard, if_pos rfl] at hkept
  apply sane_take hmode h
  · rw [filter_byte (by decide), completed_sep, List.filter_append,
      List.filter_cons_of_neg (by simpa using hkept), List.filter_nil, List.append_nil]
  · rw [filter_byte (by decide), unfinished_sep]
    simp [lineRequest]

theorem sane_takeLine (h : s.Sane) (h0 : s.handling = 0)
    (hkeep : s.session.discardUntilNewline = false) : s.takeLine.Sane where
  once := by
    have hkept := kept_line hmode h h0
    rw [hkeep, if_neg Bool.false_ne_true] at hkept
    refine ⟨h.once.1, (once_line (s := s.takeLine) hmode).mpr ?_⟩
    change s.current.handled ++ [s.session.line] =
      (completed lf ((s.current.stream ++ [lf]).filter (· ≠ cr))).filter
        (·.length ≤ s.session.config.maximumRequestBytes.val)
    rw [filter_byte (by decide), completed_sep, List.filter_append, (once_line hmode).mp h.once.2,
      List.filter_cons_of_pos (by simpa using hkept.2), hkept.1]
    rfl
  attached := h.attached
  answering := h.answering
  level _ := by
    refine (level_line (s := s.takeLine) hmode).mpr ?_
    change s.takeLine.session.kept =
      lineRequest _ (unfinished lf ((s.current.stream ++ [lf]).filter _))
    rw [filter_byte (by decide), unfinished_sep]
    simp [SocketCommandSession.kept, CommandState.takeLine, hkeep, lineRequest]

end Line

theorem lineLoop_keeps {s₀ : CommandState H} {data : Bytes} {success : Bool}
    (hadmitted : FeedLabel.Admitted s (.line data success)) (h : Between s₀ s)
    (hmode : s.session.config.mode = .line) :
    commandTerms.Keeps (commandTerms.Ends s₀) (lineLoop data success) s := by
  have hsane := h.toSane
  have h0 := h.handled
  have hnext {data' : Bytes} {success' : Bool} {s' : CommandState H} (hs' : After s s') :
      commandTerms.loop (.line data' success') s₀ s' :=
    ⟨h.after hs', (congrArg SocketCommandSessionConfig.mode hs'.2.1).trans hmode⟩
  -- a byte that makes no call
  have hquiet {data' line : Bytes} {discard : Bool} {c : UInt8}
      (hs : (s.take [c] { s.session with line, discardUntilNewline := discard }).Sane) :
      commandTerms.Keeps (commandTerms.Ends s₀) (do
        Code.set (s.take [c] { s.session with line, discardUntilNewline := discard })
        pure (.goto (.line data' success)) : CommandCode H (Exit FeedLabel Bool)) s := by
    rw [keeps_set]
    exact ⟨hs.once, hnext (after_of h0 ⟨hs, command_refl _⟩ ⟨rfl, rfl, rfl⟩)⟩
  cases data with
  | nil => exact h.ends
  | cons c data =>
    have hkept := (level_line hmode).mp (hsane.level h0)
    unfold lineLoop
    dsimp only
    rw [keeps_get]
    split_ifs with hcr hlf hdiscard hdiscard hlong
    · subst hcr
      refine hquiet (sane_take hmode hsane cr ?_ ?_)
      · rw [filter_cr]
      · rw [filter_cr, ← hkept]
        rfl
    · subst hlf
      have hresumed := sane_resume hmode hsane h0 hdiscard
      have hinit : s.session.initialized = true :=
        (hadmitted rfl).resolve_right fun hignores =>
          absurd (hdiscard.symm.trans hignores.1) (by decide)
      rw [keeps_set]
      refine ⟨hresumed.once, ?_⟩
      apply Keeps.bind
      refine (writeCode_keeps hresumed hinit _).mono fun wrote s' hs' => ?_
      have hafter := after_of h0 hs' ⟨rfl, rfl, rfl⟩
      rw [keeps_get]
      split_ifs
      · exact (h.after hafter).ends
      · exact hnext hafter
    · subst hlf
      have hline := sane_takeLine hmode hsane h0 (Bool.eq_false_of_not_eq_true hdiscard)
      have hready : s.takeLine.session.initialized = true ∨
          trim s.session.line = [] ∧ s.takeLine.session.config.ignoreEmptyLines = true :=
        (hadmitted rfl).imp_right And.right
      rw [keeps_set]
      refine ⟨hline.once, ?_⟩
      apply Keeps.bind
      refine (handleLineCode_keeps hline h0 hready).mono fun handled s' hs' => ?_
      exact hnext (after_of h0 hs' ⟨rfl, rfl, rfl⟩)
    · refine hquiet (sane_grow hmode hsane h0 hcr hlf ?_)
      rw [SocketCommandSession.kept, hdiscard]
      rfl
    · refine hquiet (sane_grow hmode hsane h0 hcr hlf ?_)
      rw [SocketCommandSession.kept, if_neg hdiscard]
      exact (if_pos hlong).symm
    · refine hquiet (sane_grow hmode hsane h0 hcr hlf ?_)
      rw [SocketCommandSession.kept, if_neg hdiscard, if_neg hdiscard]
      exact (if_neg hlong).symm

theorem writeResponseCode_keeps (h : s.Sane) (hinit : s.session.initialized = true)
    (response : SocketCommandResponse) :
    commandTerms.Keeps (fun _ => After s) (writeResponseCode response) s := by
  unfold writeResponseCode
  split_ifs
  · exact ⟨h, command_refl s⟩
  · exact writeCode_keeps h hinit _

/-- While a frame is handled nothing changes but the number of the last request. -/
theorem handleStructuredFrameCode_keeps (h : Busy s) (hpos : 0 < s.handling) (data : Bytes) :
    commandTerms.Keeps (fun _ s' => ∃ metadata,
      s' = { s with session := s.session.setMetadata metadata })
      (handleStructuredFrameCode data) s := by
  unfold handleStructuredFrameCode
  rw [keeps_get]
  cases decodeRequest data
    { metadata := s.session.metadata : SocketCommandInvocationContext Value } with
  | none =>
    refine (writeResponseCode_keeps h.toSane h.initialized _).mono fun _ s' hs' => ?_
    exact ⟨s.session.metadata, hs'.2.2.2.2 hpos⟩
  | some context =>
    dsimp only
    generalize hmetadata : ({ s.session.metadata with requestID := context.metadata.requestID } :
      SocketCommandMetadata) = metadata
    have hbusy : Busy { s with session := s.session.setMetadata metadata } :=
      { once := h.once
        attached := h.attached
        answering := h.answering
        level := h.level
        initialized := h.initialized
        held := h.held }
    rw [keeps_set]
    refine ⟨hbusy.once, ?_⟩
    apply Keeps.bind
    unfold executeCode
    rw [keeps_get]
    split_ifs with hnull
    · exact absurd (Option.isNone_iff_eq_none.mp hnull) (h.attached h.initialized).1
    · refine (decideCode_keeps hbusy context fun registry s hs => ?_).mono fun result s' hs' => ?_
      · exact ⟨hs, fun _ s' hrely hrest => ⟨hrest, hrely⟩⟩
      · obtain rfl := hs'.2.2.2.2 hpos
        refine (writeResponseCode_keeps hbusy.toSane hbusy.initialized _).mono fun _ s'' hs'' => ?_
        exact ⟨metadata, hs''.2.2.2.2 hpos⟩

section Structured
variable (hmode : s.session.config.mode = .structuredBinary)
include hmode

theorem once_structured :
    s.current.Once s.session.config ↔
      ∃ part, s.current.stream = framed s.current.handled ++ part := by
  simp only [Intake.Once, hmode]

theorem level_structured : s.Level ↔
    s.current.stream = framed s.current.handled ++ s.session.pending ∧ s.session.Expecting := by
  simp only [CommandState.Level, hmode]

end Structured

/-- The input is cleared where no frame is handled. -/
theorem sane_clear (h : s.Sane) {session : SocketCommandSession H}
    (hconfig : session.config = s.session.config)
    (hattached : session.initialized = true → session.registry ≠ none ∧ session.writer ≠ none)
    (hanswering : 0 < s.answering → session.initialized = true)
    (hlevel : (s.clear session).Level) : (s.clear session).Sane where
  once := by
    rw [CommandState.Once, show (s.clear session).session.config = _ from hconfig]
    refine ⟨fun a ha => ?_, ?_⟩
    · rcases List.mem_append.mp ha with ha | ha
      · exact h.once.1 a ha
      · exact List.mem_singleton.mp ha ▸ h.once.2
    · unfold Intake.Once
      split
      · simp [CommandState.clear]
      · exact ⟨[], rfl⟩
  attached := hattached
  answering := hanswering
  level _ := hlevel

/-- The input is given up in structured mode. -/
theorem between_drop {s₀ : CommandState H} (h : Between s₀ s)
    (hmode : s.session.config.mode = .structuredBinary) :
    Between s₀ (s.clear { s.session with structured := [], expectedStructuredBytes := 0 }) where
  toSane := by
    refine sane_clear h.toSane rfl h.attached h.answering ?_
    exact (level_structured (s := s.clear { s.session with structured := []
                                                           expectedStructuredBytes := 0 })
      hmode).mpr ⟨rfl, fun h0 => absurd rfl h0⟩
  config := h.config
  answered := h.answered
  handled := h.handled
  entered := h.entered

theorem settleCode_keeps {s₀ : CommandState H} (h : Between s₀ s)
    (hmode : s.session.config.mode = .structuredBinary) (success : Bool) (s' : CommandState H) :
    commandTerms.Keeps (commandTerms.Ends s₀) (settleCode success s) s' := by
  unfold settleCode
  split_ifs
  · have hdrop := between_drop h hmode
    rw [keeps_set]
    exact ⟨hdrop.once, hdrop.ends⟩
  · rw [keeps_set]
    exact ⟨h.once, h.ends⟩

/-- A frame is handled and erased. -/
theorem frame_keeps {s₀ : CommandState H} {success : Bool} {n : ℕ} {body : Bytes} (h : Between s₀ s)
    (hmode : s.session.config.mode = .structuredBinary) (hinit : s.session.initialized = true)
    (hn : Announces s.session.config.maximumRequestBytes.val n)
    (hstream : s.current.stream = framed s.current.handled ++ beBytes 4 n ++ body)
    (hwhole : ¬ body.length < n) :
    let session : SocketCommandSession H :=
      { s.session with structured := body, expectedStructuredBytes := n }
    commandTerms.Keeps (commandTerms.Ends s₀) (do
      Code.set (s.start session (body.take n))
      let handled : Bool ← handleStructuredFrameCode (body.take n)
      let s ← Code.get
      if s.session.structured.length < n then Code.fault
      else
        Code.set (s.erase n)
        pure (.goto (.structured (handled && success))) :
          CommandCode H (Exit FeedLabel Bool)) s := by
  intro session
  have hlength : (body.take n).length = n := List.length_take_of_le (not_lt.mp hwhole)
  have hframe : s.current.stream = framed (s.current.handled ++ [body.take n]) ++ body.drop n := by
    have hpayload : frameStructuredPayload (body.take n) = beBytes 4 n ++ body.take n := by
      rw [frameStructuredPayload_eq (by rw [hlength]; exact hn.lt_uint32), hlength]
    have hone : framed [body.take n] = frameStructuredPayload (body.take n) := by
      simp [framed]
    rw [hstream, SocketCommandSession.framed_append, hone, hpayload, List.append_assoc,
      List.append_assoc, List.append_assoc, List.take_append_drop]
  have hstarted : Busy (s.start session (body.take n)) :=
    { once := ⟨h.once.1, (once_structured (s := s.start session (body.take n)) hmode).mpr
        ⟨body.drop n, hframe⟩⟩
      attached := h.attached
      answering := h.answering
      level := fun h0 => absurd h0 (Nat.succ_ne_zero _)
      initialized := hinit
      held := .inr (Nat.succ_pos _) }
  rw [keeps_set]
  refine ⟨hstarted.once, ?_⟩
  apply Keeps.bind
  refine (handleStructuredFrameCode_keeps hstarted (Nat.succ_pos _) _).mono fun handled s' hs' => ?_
  obtain ⟨metadata, rfl⟩ := hs'
  rw [keeps_get]
  split_ifs with hshort
  · exact absurd hshort hwhole
  rw [keeps_set]
  refine ⟨hstarted.once, ⟨⟨hstarted.once, h.attached, h.answering, fun _ => ?_⟩, h.config,
    h.answered, h.handled, h.entered⟩, hmode, hinit⟩
  refine (level_structured (s := ({ s.start session (body.take n) with
    session := session.setMetadata metadata } : CommandState H).erase n) hmode).mpr
    ⟨hframe, fun h0 => absurd rfl h0⟩

theorem structuredLoop_keeps {s₀ : CommandState H} {success : Bool} (h : Between s₀ s)
    (hmode : s.session.config.mode = .structuredBinary) (hinit : s.session.initialized = true) :
    commandTerms.Keeps (commandTerms.Ends s₀) (structuredLoop success) s := by
  obtain ⟨hstream, hexpecting⟩ := (level_structured hmode).mp (h.level h.handled)
  unfold structuredLoop
  rw [keeps_get]
  rcases SocketCommandSession.expect_cases hexpecting with
    ⟨hexpect, -, -⟩ | ⟨hexpect, -⟩ | ⟨n, body, hexpect, hn, hpending⟩
  · rw [hexpect]
    exact settleCode_keeps h hmode success s
  · have hdrop := between_drop h hmode
    rw [hexpect]
    dsimp only
    rw [keeps_set]
    refine ⟨hdrop.once, ?_⟩
    apply Keeps.bind
    refine (writeResponseCode_keeps hdrop.toSane hinit _).mono fun wrote s' hs' => ?_
    exact (hdrop.after hs').ends
  · rw [hpending, ← List.append_assoc] at hstream
    rw [hexpect]
    dsimp only
    split_ifs with hshort
    · let read : CommandState H :=
        { s with session := { s.session with structured := body, expectedStructuredBytes := n } }
      have hread : Between s₀ read := by
        refine ⟨⟨h.once, h.attached, h.answering, fun _ => ?_⟩, h.config, h.answered, h.handled,
          h.entered⟩
        refine (level_structured (s := read) hmode).mpr ⟨?_, fun _ => hn⟩
        rw [SocketCommandSession.pending, if_neg hn.pos, ← List.append_assoc]
        exact hstream
      exact settleCode_keeps hread hmode success s
    · exact frame_keeps h hmode hinit hn hstream hshort

theorem feedCode_keeps (h : s.Sane) (h0 : s.handling = 0) (data : Bytes) :
    commandTerms.Keeps (commandTerms.Ends s) (feedCode data) s := by
  have hbetween : Between s s := ⟨h, rfl, rfl, h0, h0⟩
  unfold feedCode
  dsimp only
  rw [keeps_get]
  by_cases hinit : s.session.initialized = true
  · rw [if_neg (by simp [hinit])]
    cases hmode : s.session.config.mode with
    | line => exact ⟨hbetween, hmode⟩
    | structuredBinary =>
      dsimp only
      split_ifs
      · exact hbetween.ends
      · obtain ⟨hstream, hexpecting⟩ := (level_structured hmode).mp (h.level h0)
        let fed := s.take data { s.session with structured := s.session.structured ++ data }
        have hfed :
            fed.current.stream = framed s.current.handled ++ (s.session.pending ++ data) := by
          rw [← List.append_assoc, ← hstream]
          rfl
        have honce : fed.Once := ⟨h.once.1, (once_structured (s := fed) hmode).mpr ⟨_, hfed⟩⟩
        rw [keeps_set]
        refine ⟨honce, ⟨⟨honce, h.attached, h.answering, fun _ => ?_⟩, rfl, rfl, h0, h0⟩, hmode,
          hinit⟩
        refine (level_structured (s := fed) hmode).mpr ⟨hfed.trans ?_, hexpecting⟩
        unfold SocketCommandSession.pending
        change _ = _ ++ if s.session.expectedStructuredBytes = 0 then _ else _
        split_ifs
        · rfl
        · rw [List.append_assoc]
          rfl
  · rw [if_pos (by simpa using hinit)]
    exact hbetween.ends

theorem resetInput_keeps (h : s.Sane) (h0 : s.handling = 0) :
    commandTerms.Keeps (commandTerms.Ends s) (clearCode (H := H) .resetInput) s := by
  have hcleared : (s.clear s.session.resetInput).Sane := by
    refine sane_clear h rfl h.attached h.answering ?_
    unfold CommandState.Level
    split
    · simp [CommandState.clear, SocketCommandSession.resetInput, SocketCommandSession.kept,
        lineRequest]
    · exact ⟨rfl, fun h0 => absurd rfl h0⟩
  unfold clearCode
  rw [keeps_modify]
  exact ⟨hcleared.once, after_of h0 ⟨hcleared, command_refl _⟩ ⟨rfl, rfl, rfl⟩⟩

theorem shutdown_keeps (h : s.Sane) (h0 : s.handling = 0) (hnone : s.answering = 0) :
    commandTerms.Keeps (commandTerms.Ends s) (clearCode (H := H) .shutdown) s := by
  have hcleared : (s.clear s.session.shutdown).Sane := by
    refine sane_clear h rfl (fun hinit => absurd hinit Bool.false_ne_true)
      (fun hpos => absurd hpos (by omega)) ?_
    unfold CommandState.Level
    split
    · simp [CommandState.clear, SocketCommandSession.shutdown, SocketCommandSession.kept,
        lineRequest]
    · exact ⟨rfl, fun h0 => absurd rfl h0⟩
  unfold clearCode
  rw [keeps_modify]
  exact ⟨hcleared.once, after_of h0 ⟨hcleared, command_refl _⟩ ⟨rfl, rfl, rfl⟩⟩

end Keeps

variable (H) in
theorem command_sound : commandTerms.Sound (feedProgram H) where
  refl := command_refl
  trans := command_trans
  entry e s hpermits hrest := by
    cases e with
    | feed data => exact feedCode_keeps hrest hpermits data
    | resetInput => exact resetInput_keeps hrest hpermits
    | shutdown => exact shutdown_keeps hrest hpermits.1 hpermits.2
  body l s₀ s hadmits h := by
    cases l with
    | line data success => exact lineLoop_keeps hadmits h.1 h.2
    | structured success => exact structuredLoop_keeps h.1 h.2.1 h.2.2

section Returns

/-- What the host makes of the calls of a session. -/
def hostAnswer : (q : CommandQuery H) → H.World → q.Answer × H.World
  | .policy policy context, w => H.policy policy context w
  | .invoke registry invocation, w => H.invoke registry invocation w
  | .invokeLine registry line, w => H.invokeLine registry line w
  | .observe observer context result, w => ((), H.observe observer context result w)
  | .write writer bytes, w => H.write writer bytes w

/-- What the policy and the Command of a session come to. -/
def decided (session : SocketCommandSession H) (context : SocketCommandInvocationContext Value)
    (call : Exterior H → CommandResult × Exterior H) (x : Exterior H) : CommandResult × Exterior H :=
  let run (x : Exterior H) :=
    let r := call x
    (r.1, r.2.observe session.observer context r.1)
  match session.policy with
  | none => run x
  | some policy =>
    let verdict := x.callPolicy policy context
    if !verdict.1.success then (verdict.1, verdict.2.observe session.observer context verdict.1)
    else run verdict.2

section Eval
variable {s : CommandState H} {registry : H.Registry} {writer : H.Writer}

theorem observeCode_eval (context : SocketCommandInvocationContext Value) (result : CommandResult)
    (s : CommandState H) (x : Exterior H) :
    (observeCode context result).eval hostAnswer s x.world =
      some (⟨⟩, s, (x.observe s.session.observer context result).world) := by
  unfold observeCode Exterior.observe
  rw [Code.eval_get]
  cases s.session.observer <;> rfl

theorem writeCode_eval (hwriter : s.session.writer = some writer) (bytes : Bytes) (x : Exterior H) :
    (writeCode bytes).eval hostAnswer s x.world =
      some ((x.write s.session.writer bytes).1, s, (x.write s.session.writer bytes).2.world) := by
  unfold writeCode Exterior.write
  rw [Code.eval_get, hwriter]
  rfl

theorem decideCode_eval (hregistry : s.session.registry = some registry)
    (context : SocketCommandInvocationContext Value)
    {invoke : H.Registry → CommandCode H CommandResult}
    (call : Exterior H → CommandResult × Exterior H)
    (hinvoke : ∀ x, (invoke registry).eval hostAnswer s x.world =
      some ((call x).1, s, (call x).2.world)) (x : Exterior H) :
    (decideCode context invoke).eval hostAnswer s x.world =
      some ((decided s.session context call x).1, s, (decided s.session context call x).2.world) := by
  have hrun (x : Exterior H) : (invokeCode context invoke).eval hostAnswer s x.world =
      some ((call x).1, s, ((call x).2.observe s.session.observer context (call x).1).world) := by
    unfold invokeCode
    rw [Code.eval_get, hregistry]
    dsimp only
    rw [Code.eval_bind, hinvoke, Option.bind_some, Code.eval_bind, observeCode_eval]
    rfl
  unfold decideCode decided
  rw [Code.eval_get]
  cases s.session.policy with
  | none => exact hrun x
  | some policy =>
    dsimp only
    rw [Code.eval_ask]
    change (if !(x.callPolicy policy context).1.success then _ else _ : CommandCode H _).eval _ _
      (x.callPolicy policy context).2.world = _
    split_ifs
    · rw [Code.eval_bind]
      change ((observeCode context (x.callPolicy policy context).1).eval hostAnswer s
        (x.callPolicy policy context).2.world).bind _ = _
      rw [observeCode_eval]
      rfl
    · exact hrun _

theorem answerCode_eval (hwriter : s.session.writer = some writer) (result : CommandResult)
    (x : Exterior H) : (answerCode result).eval hostAnswer s x.world =
      some ((s.session.writeLineResult result x).1, { s with answering := s.answering - 1 },
        (s.session.writeLineResult result x).2.world) := by
  unfold answerCode
  rw [Code.eval_modify]
  exact writeCode_eval (s := { s with answering := s.answering - 1 }) hwriter _ x

/-- A line with a command in it is answered with what is decided about it. -/
theorem answerLine_decided (hregistry : s.session.registry = some registry) {line : Bytes}
    (hanswer : ¬ (trim line = [] ∧ s.session.config.ignoreEmptyLines = true))
    (herror : (H.tokenize (trim line)).2 = []) {command : Bytes} {arguments : List Bytes}
    (htokens : (H.tokenize (trim line)).1 = command :: arguments) (x : Exterior H) :
    let context : SocketCommandInvocationContext Value :=
      { invocation := { path := [command], raw := trim line }
        metadata := s.number.session.metadata }
    let r := decided s.session context (fun x => x.invokeLine registry (trim line)) x
    s.session.answerLine line x = (some r.1, s.number.session.metadata, r.2) := by
  unfold SocketCommandSession.answerLine decided CommandState.number SocketCommandSession.setMetadata
  dsimp only
  rw [if_neg hanswer, if_neg (not_not.mpr herror), htokens, hregistry]
  cases s.session.policy with
  | none => rfl
  | some policy =>
    dsimp only
    split_ifs <;> rfl

theorem handleLineCode_eval (hregistry : s.session.registry = some registry)
    (hwriter : s.session.writer = some writer) (line : Bytes) (x : Exterior H) :
    let r := s.session.handleLine line x
    ∃ s', s'.session = s.session.setMetadata r.2.1 ∧
      (handleLineCode line).eval hostAnswer s x.world = some (r.1, s', r.2.2.world) := by
  have hsome : s.session.registry ≠ none := hregistry ▸ Option.some_ne_none registry
  intro r
  have hr : r = s.session.respond (s.session.answerLine line x) :=
    SocketCommandSession.handleLine_eq hsome line x
  -- a line that is answered comes to its result in a session that has numbered it
  have hanswered {result : CommandResult} {y : Exterior H} {code : CommandCode H Bool}
      (hline : s.session.answerLine line x = (some result, s.number.session.metadata, y))
      (hcode : code.eval hostAnswer s.number x.world =
        (answerCode result).eval hostAnswer s.number y.world) :
      ∃ s', s'.session = s.session.setMetadata r.2.1 ∧
        code.eval hostAnswer s.number x.world = some (r.1, s', r.2.2.world) := by
    rw [hcode, answerCode_eval (s := s.number) hwriter, hr, hline]
    exact ⟨_, rfl, rfl⟩
  unfold handleLineCode
  dsimp only
  rw [Code.eval_get]
  by_cases hignored : trim line = [] ∧ s.session.config.ignoreEmptyLines = true
  · have hline : s.session.answerLine line x = (none, s.session.metadata, x) := if_pos hignored
    rw [if_pos hignored, hr, hline]
    exact ⟨s, rfl, rfl⟩
  rw [if_neg hignored, Code.eval_set]
  by_cases herror : (H.tokenize (trim line)).2 = []
  · rw [if_neg (not_not.mpr herror)]
    cases htokens : (H.tokenize (trim line)).1 with
    | nil =>
      refine hanswered ?_ rfl
      unfold SocketCommandSession.answerLine
      dsimp only
      rw [if_neg hignored, if_neg (not_not.mpr herror), htokens]
      rfl
    | cons command arguments =>
      refine hanswered (answerLine_decided hregistry hignored herror htokens x) ?_
      dsimp only
      rw [Code.eval_bind, decideCode_eval (s := s.number) hregistry _
        (fun x => x.invokeLine registry (trim line)) fun _ => rfl]
      rfl
  · rw [if_pos herror]
    refine hanswered ?_ rfl
    unfold SocketCommandSession.answerLine
    dsimp only
    rw [if_neg hignored, if_pos herror]
    rfl

/-- The end of an overlong line: the line is answered, and the loop goes on unless that is to end
the connection. -/
private theorem lineLoop_resumes (hwriter : s.session.writer = some writer) {c : UInt8}
    (hcr : c ≠ cr) (hlf : c = lf) (hdiscard : s.session.discardUntilNewline = true) (data : Bytes)
    (success : Bool) (x : Exterior H) :
    let resumed : CommandState H :=
      s.take [c] { s.session with discardUntilNewline := false, line := [] }
    let w := resumed.session.writeLineResult
      (CommandLibrary.error Value SocketCommandSession.tooLong) x
    (lineLoop (c :: data) success).eval hostAnswer s x.world =
      some (if s.session.config.disconnectOnProtocolError then .ret false
        else .goto (.line data (w.1 && success)), resumed, w.2.world) := by
  intro resumed w
  have hwrote := writeCode_eval (s := resumed) hwriter
    (lineResponse (CommandLibrary.error Value SocketCommandSession.tooLong)) x
  rw [lineLoop, Code.eval_get, if_neg hcr, if_pos hlf, if_pos hdiscard, Code.eval_set]
  dsimp only
  rw [Code.eval_bind, hwrote, Option.bind_some, Code.eval_get]
  have hconfig : resumed.session.config = s.session.config := rfl
  dsimp only
  rw [hconfig]
  split_ifs
  · rfl
  · rfl

/-- The loop of `FeedLine` does what `feedLine` does. -/
theorem lineLoop_returns (hregistry : s.session.registry = some registry)
    (hwriter : s.session.writer = some writer) (data : Bytes) (success : Bool) (x : Exterior H) :
    let r := SocketCommandSession.feedLine data success s.session x
    ∃ s', s'.session = r.2.1 ∧ Returns (feedProgram H) hostAnswer (lineLoop data success) s x.world
      r.1 s' r.2.2.world := by
  induction data generalizing s success x with
  | nil => exact ⟨s, rfl, .ret rfl⟩
  | cons c data ih =>
    -- a turn of the loop, in front of the rest of it
    have hturn (s₁ : CommandState H) (success' : Bool) (x₁ : Exterior H)
        (heval : (lineLoop (c :: data) success).eval hostAnswer s x.world =
          some (.goto (.line data success'), s₁, x₁.world))
        (hfeed : SocketCommandSession.feedLine (c :: data) success s.session x =
          SocketCommandSession.feedLine data success' s₁.session x₁)
        (hregistry : s₁.session.registry = some registry)
        (hwriter : s₁.session.writer = some writer) :
        ∃ s', s'.session = (SocketCommandSession.feedLine (c :: data) success s.session x).2.1 ∧
          Returns (feedProgram H) hostAnswer (lineLoop (c :: data) success) s x.world
            (SocketCommandSession.feedLine (c :: data) success s.session x).1 s'
            (SocketCommandSession.feedLine (c :: data) success s.session x).2.2.world := by
      obtain ⟨s', hs', hreturns⟩ := ih hregistry hwriter success' x₁
      rw [hfeed]
      exact ⟨s', hs', .goto heval hreturns⟩
    intro r
    by_cases hcr : c = cr
    · refine hturn (s.take [c] s.session) success x ?_ ?_ hregistry hwriter
      · rw [lineLoop, Code.eval_get, if_pos hcr]
        rfl
      · rw [SocketCommandSession.feedLine, if_pos hcr]
        rfl
    by_cases hlf : c = lf
    · by_cases hdiscard : s.session.discardUntilNewline = true
      · let resumed : CommandState H :=
          s.take [c] { s.session with discardUntilNewline := false, line := [] }
        let w := resumed.session.writeLineResult
          (CommandLibrary.error Value SocketCommandSession.tooLong) x
        have hresumes := lineLoop_resumes hwriter hcr hlf hdiscard data success x
        by_cases hdisconnect : s.session.config.disconnectOnProtocolError = true
        · have hr : r = (false, resumed.session, w.2) := by
            simp only [r, SocketCommandSession.feedLine, if_neg hcr, if_pos hlf, hdiscard,
              hdisconnect, if_true]
            rfl
          rw [hr]
          refine ⟨resumed, rfl, .ret ?_⟩
          rw [hresumes, if_pos hdisconnect]
        · refine hturn resumed (w.1 && success) w.2 ?_ ?_ hregistry hwriter
          · rw [hresumes, if_neg hdisconnect]
          · rw [SocketCommandSession.feedLine, if_neg hcr, if_pos hlf, if_pos hdiscard]
            exact if_neg hdisconnect
      · obtain ⟨s₁, hs₁, hline⟩ :=
          handleLineCode_eval (s := s.takeLine) hregistry hwriter s.session.line
            (x.record (.received s.session.line))
        let handled := s.takeLine.session.handleLine s.session.line
          (x.record (.received s.session.line))
        refine hturn s₁ (handled.1 && success)
          (handled.2.2.record .handled) ?_ ?_ ?_ ?_
        · rw [lineLoop, Code.eval_get, if_neg hcr, if_pos hlf, if_neg hdiscard, Code.eval_set]
          rw [Code.eval_bind]
          exact congrArg (Option.bind · _) hline
        · rw [SocketCommandSession.feedLine, if_neg hcr, if_pos hlf, if_neg hdiscard, hs₁]
          rfl
        · rw [hs₁]
          exact hregistry
        · rw [hs₁]
          exact hwriter
    by_cases hdiscard : s.session.discardUntilNewline = true
    · refine hturn (s.take [c] s.session) success x ?_ ?_ hregistry hwriter
      · rw [lineLoop, Code.eval_get, if_neg hcr, if_neg hlf, if_pos hdiscard]
        rfl
      · rw [SocketCommandSession.feedLine, if_neg hcr, if_neg hlf, if_pos hdiscard]
        rfl
    by_cases hlong : s.session.config.maximumRequestBytes.val ≤ s.session.line.length
    · refine hturn (s.take [c] { s.session with line := [], discardUntilNewline := true })
        success x ?_ ?_ hregistry hwriter
      · rw [lineLoop, Code.eval_get, if_neg hcr, if_neg hlf, if_neg hdiscard, if_pos hlong]
        rfl
      · rw [SocketCommandSession.feedLine, if_neg hcr, if_neg hlf, if_neg hdiscard, if_pos hlong]
        rfl
    · refine hturn (s.take [c] { s.session with line := s.session.line ++ [c] })
        success x ?_ ?_ hregistry hwriter
      · rw [lineLoop, Code.eval_get, if_neg hcr, if_neg hlf, if_neg hdiscard, if_neg hlong]
        rfl
      · rw [SocketCommandSession.feedLine, if_neg hcr, if_neg hlf, if_neg hdiscard, if_neg hlong]
        rfl

theorem writeResponseCode_eval (hwriter : s.session.writer = some writer)
    (response : SocketCommandResponse) (x : Exterior H) :
    (writeResponseCode response).eval hostAnswer s x.world =
      some ((s.session.writeResponse response x).1, s,
        (s.session.writeResponse response x).2.world) := by
  unfold writeResponseCode SocketCommandSession.writeResponse
  dsimp only
  split_ifs
  · rfl
  · exact writeCode_eval hwriter _ x

theorem handleStructuredFrameCode_eval (hregistry : s.session.registry = some registry)
    (hwriter : s.session.writer = some writer) (data : Bytes) (x : Exterior H) :
    let r := s.session.handleStructuredFrame data x
    ∃ s', s'.session = s.session.setMetadata r.2.1 ∧
      (handleStructuredFrameCode data).eval hostAnswer s x.world = some (r.1, s', r.2.2.world) := by
  unfold handleStructuredFrameCode SocketCommandSession.handleStructuredFrame
  dsimp only
  rw [Code.eval_get]
  cases decodeRequest data
    { metadata := s.session.metadata : SocketCommandInvocationContext Value } with
  | none => exact ⟨s, rfl, writeResponseCode_eval hwriter _ x⟩
  | some context =>
    let read : CommandState H :=
      { s with session := s.session.setMetadata
                 { s.session.metadata with requestID := context.metadata.requestID } }
    have hexecute : s.session.execute context x =
        decided s.session context (fun x => x.invoke registry context.invocation) x := by
      unfold SocketCommandSession.execute decided
      cases s.session.policy <;> simp only [hregistry]
    refine ⟨read, rfl, ?_⟩
    dsimp only
    rw [Code.eval_set, Code.eval_bind, executeCode, Code.eval_get,
      if_neg (by simp [SocketCommandSession.setMetadata, hregistry]),
      decideCode_eval (s := read) hregistry context
        (fun x => x.invoke registry context.invocation) (fun _ => rfl) x, hexecute]
    exact writeResponseCode_eval (s := read) hwriter _ _

theorem settleCode_eval (success : Bool) (t s : CommandState H) (x : Exterior H) :
    let r := t.session.settle success x
    ∃ s', s'.session = r.2.1 ∧
      (settleCode success t).eval hostAnswer s x.world = some (.ret r.1, s', r.2.2.world) := by
  unfold settleCode SocketCommandSession.settle
  split_ifs
  · exact ⟨_, rfl, rfl⟩
  · exact ⟨t, rfl, rfl⟩

/-- Reading a length ahead leaves the registry and the writer. -/
theorem expect_attached {session session' : SocketCommandSession H}
    (h : session.expect = .ready session') :
    session'.registry = session.registry ∧ session'.writer = session.writer := by
  unfold SocketCommandSession.expect at h
  dsimp only at h
  split_ifs at h
  · cases h
    exact ⟨rfl, rfl⟩
  · cases h
    exact ⟨rfl, rfl⟩

/-- The loop of `FeedStructured` does what `structuredLoop` does. -/
theorem structuredLoop_returns (hregistry : s.session.registry = some registry)
    (hwriter : s.session.writer = some writer) (success : Bool) (x : Exterior H) :
    let r := s.session.structuredLoop success x
    ∃ s', s'.session = r.2.1 ∧ Returns (feedProgram H) hostAnswer (structuredLoop success) s x.world
      r.1 s' r.2.2.world := by
  induction hn : s.session.structured.length using Nat.strong_induction_on
    generalizing s success x with
  | _ n ih =>
  intro r
  cases hexpect : s.session.expect with
  | wait =>
    obtain ⟨s', hs', heval⟩ := settleCode_eval success s s x
    have hr : r = s.session.settle success x := SocketCommandSession.structuredLoop_wait hexpect _ _
    rw [hr]
    refine ⟨s', hs', .ret ?_⟩
    rw [structuredLoop, Code.eval_get, hexpect]
    exact heval
  | invalid =>
    let cleared : CommandState H :=
      s.clear { s.session with structured := [], expectedStructuredBytes := 0 }
    have hr : r = _ := SocketCommandSession.structuredLoop_invalid hexpect _ _
    rw [hr]
    refine ⟨cleared, rfl, .ret ?_⟩
    rw [structuredLoop, Code.eval_get, hexpect]
    dsimp only
    rw [Code.eval_set, Code.eval_bind, writeResponseCode_eval (s := cleared) hwriter,
      Option.bind_some, Code.eval_get]
    rfl
  | ready session =>
    have hr : r = _ := SocketCommandSession.structuredLoop_ready hexpect _ _
    obtain ⟨hregistry', hwriter'⟩ := expect_attached hexpect
    obtain ⟨hlength, hpos⟩ := SocketCommandSession.expect_ready hexpect
    by_cases hshort : session.structured.length < session.expectedStructuredBytes
    · obtain ⟨s', hs', heval⟩ := settleCode_eval success { s with session } s x
      rw [if_pos hshort] at hr
      rw [hr]
      refine ⟨s', hs', .ret ?_⟩
      rw [structuredLoop, Code.eval_get, hexpect]
      dsimp only
      rw [if_pos hshort]
      exact heval
    · let frameSize := session.expectedStructuredBytes
      let data := session.structured.take frameSize
      let handled := session.handleStructuredFrame data (x.record (.received data))
      obtain ⟨s₁, hs₁, heval⟩ := handleStructuredFrameCode_eval (s := s.start session data)
        (hregistry'.trans hregistry) (hwriter'.trans hwriter) data (x.record (.received data))
      have hbuffer : ¬ s₁.session.structured.length < frameSize := by
        rw [hs₁]
        exact hshort
      have hshorter : (s₁.erase frameSize).session.structured.length < n := by
        change (s₁.session.structured.drop frameSize).length < n
        rw [List.length_drop, hs₁]
        change session.structured.length - frameSize < n
        omega
      obtain ⟨s', hs', hreturns⟩ := ih _ hshorter (s := s₁.erase frameSize)
        (by change s₁.session.registry = _; rw [hs₁]; exact hregistry'.trans hregistry)
        (by change s₁.session.writer = _; rw [hs₁]; exact hwriter'.trans hwriter)
        (handled.1 && success) (handled.2.2.record .handled) rfl
      rw [if_neg hshort] at hr
      have hr' : r = (s₁.erase frameSize).session.structuredLoop (handled.1 && success)
          (handled.2.2.record .handled) := by
        rw [hr, CommandState.erase, hs₁]
        rfl
      rw [hr']
      refine ⟨s', hs', .goto (l := FeedLabel.structured (handled.1 && success)) ?_ hreturns⟩
      rw [structuredLoop, Code.eval_get, hexpect]
      dsimp only
      rw [if_neg hshort, Code.eval_set, Code.eval_bind]
      refine (congrArg (Option.bind · _) heval).trans ?_
      rw [Option.bind_some, Code.eval_get, if_neg hbuffer]
      rfl

/-- A `Feed` that is not entered again does what `feed` does. -/
theorem feedCode_returns (hregistry : s.session.registry = some registry)
    (hwriter : s.session.writer = some writer) (data : Bytes) (x : Exterior H) :
    let r := s.session.feed data x
    ∃ s', s'.session = r.2.1 ∧
      Returns (feedProgram H) hostAnswer (feedCode data) s x.world r.1 s' r.2.2.world := by
  unfold feedCode SocketCommandSession.feed
  dsimp only
  by_cases hinit : s.session.initialized = true
  · cases hmode : s.session.config.mode with
    | line =>
      obtain ⟨s', hs', hreturns⟩ := lineLoop_returns hregistry hwriter data true x
      rw [if_neg (by simp [hinit])]
      refine ⟨s', hs', .goto (l := FeedLabel.line data true) ?_ hreturns⟩
      rw [Code.eval_get, if_neg (by simp [hinit]), hmode]
      rfl
    | structuredBinary =>
      rw [if_neg (by simp [hinit])]
      dsimp only
      unfold SocketCommandSession.feedStructured
      by_cases hrefused : sizeAdd s.session.config.maximumRequestBytes.val 4 < data.length ∧
          s.session.structured = []
      · rw [if_pos hrefused]
        refine ⟨s, rfl, .ret ?_⟩
        rw [Code.eval_get, if_neg (by simp [hinit]), hmode]
        dsimp only
        rw [if_pos hrefused]
        rfl
      · let fed := s.take data { s.session with structured := s.session.structured ++ data }
        obtain ⟨s', hs', hreturns⟩ := structuredLoop_returns (s := fed) hregistry hwriter true x
        rw [if_neg hrefused]
        refine ⟨s', hs', .goto (l := FeedLabel.structured true) ?_ hreturns⟩
        rw [Code.eval_get, if_neg (by simp [hinit]), hmode]
        dsimp only
        rw [if_neg hrefused]
        rfl
  · rw [if_pos (by simpa using hinit)]
    refine ⟨s, rfl, .ret ?_⟩
    rw [Code.eval_get, if_pos (by simpa using hinit)]
    rfl

end Eval
end Returns

section Runs

/-- A session, the routines of it that have not returned, and what happened to it. -/
abbrev CommandMachine (H : CommandHost Value) :=
  Machine (CommandState H) (CommandQuery H) (CommandQuery.Answer H) FeedLabel Bool

abbrev CommandTurn (H : CommandHost Value) := Turn CommandEntry (CommandQuery.Answer H)

/-- Nothing is called while a structured frame is handled, nor `Shutdown` while the result of a line
has not gone to the writer; and a `Feed` that goes on after `Shutdown` finds no line feed but behind
blank lines that are ignored. -/
def Considerate (m : CommandMachine H) : CommandTurn H → Prop
  | .enter e => m.waits = true → e.Permitted m.state
  | .answer _ => True
  | .proceed => ∀ l ∈ m.label, l.Admitted m.state

instance (s : CommandState H) : Decidable s.Ignores := inferInstanceAs (Decidable (_ ∧ _))

instance (s : CommandState H) : ∀ e : CommandEntry, Decidable (e.Permitted s)
  | .shutdown => inferInstanceAs (Decidable (_ ∧ _))
  | .feed _ | .resetInput => inferInstanceAs (Decidable (_ = _))

instance (s : CommandState H) : ∀ l : FeedLabel, Decidable (l.Admitted s)
  | .line (_ :: _) _ => inferInstanceAs (Decidable (_ → _))
  | .line [] _ | .structured _ => isTrue trivial

instance (m : CommandMachine H) : ∀ t, Decidable (Considerate m t)
  | .enter _ => inferInstanceAs (Decidable (_ → _))
  | .answer _ => isTrue trivial
  | .proceed => inferInstanceAs (Decidable (∀ _ ∈ _, _))

/-- No null registry and no empty writer is called, nothing beyond the buffer is erased, and every
line and frame is handled once and in order. -/
structure Tolerated (m : CommandMachine H) : Prop where
  fault : m.fault = false
  once : m.state.Once

/-- The frames that were handled are at the beginning of the stream. -/
theorem Tolerated.begins {m : CommandMachine H} (h : Tolerated m)
    (hmode : m.state.session.config.mode = .structuredBinary) :
    framed m.state.current.handled <+: m.state.current.stream := by
  obtain ⟨part, hpart⟩ := (once_structured hmode).mp h.once.2
  exact ⟨part, hpart.symm⟩

/-- A session before its first `Feed`. -/
def opening (registry : H.Registry) (config : SocketCommandSessionConfig)
    (metadata : SocketCommandMetadata) (writer : H.Writer) (policy : Option H.Policy)
    (observer : Option H.Observer) : CommandMachine H :=
  { state := { session := .opened registry config metadata writer policy observer } }

theorem sane_opening (registry : H.Registry) (config : SocketCommandSessionConfig)
    (metadata : SocketCommandMetadata) (writer : H.Writer) (policy : Option H.Policy)
    (observer : Option H.Observer) :
    (opening registry config metadata writer policy observer).state.Sane where
  once := by
    refine ⟨by simp [opening], ?_⟩
    unfold Intake.Once
    split
    · simp [opening]
    · exact ⟨[], rfl⟩
  attached := by
    unfold opening SocketCommandSession.opened SocketCommandSession.initializeWith
    dsimp only
    split_ifs
    · exact fun hinit => absurd hinit Bool.false_ne_true
    · exact fun _ => ⟨Option.some_ne_none registry, Option.some_ne_none writer⟩
  answering := fun hpos => absurd hpos (Nat.lt_irrefl 0)
  level _ := by
    unfold opening SocketCommandSession.opened SocketCommandSession.initializeWith
    dsimp only
    split_ifs <;> unfold CommandState.Level <;> split <;>
      first | exact ⟨rfl, fun h0 => absurd rfl h0⟩ | simp [SocketCommandSession.kept, lineRequest,
        SocketCommandSession.setPolicy, SocketCommandSession.setResultObserver,
        SocketCommandSession.shutdown]

/-- Whatever the policy, the Commands, the observer and the writer call in a run that is considerate,
the session tolerates it. -/
theorem calls_tolerated (registry : H.Registry) (config : SocketCommandSessionConfig)
    (metadata : SocketCommandMetadata) (writer : H.Writer) (policy : Option H.Policy)
    (observer : Option H.Observer) (turns : List (CommandTurn H))
    (h : Meets (Machine.step (feedProgram H)) Considerate
      (opening registry config metadata writer policy observer) turns) :
    Tolerated (run (Machine.step (feedProgram H))
      (opening registry config metadata writer policy observer) turns) := by
  have hsane := sane_opening registry config metadata writer policy observer
  have hstart : commandTerms.Settled (opening registry config metadata writer policy observer).state
      (opening registry config metadata writer policy observer) :=
    Discipline.settled_start (command_sound H) hsane.once hsane
  have hturns : Meets (Machine.step (feedProgram H)) commandTerms.Allows
      (opening registry config metadata writer policy observer) turns := by
    refine h.mono fun m t ht => ?_
    cases t <;> exact ht
  have hend := hstart.run (command_sound H) hturns
  exact ⟨hend.fault, hend.always⟩

end Runs

section Examples

/-- Every call succeeds. -/
def consent : (q : CommandQuery H) → q.Answer
  | .policy _ _ | .invoke _ _ | .invokeLine _ _ => ({} : CommandResult)
  | .observe _ _ _ => ()
  | .write _ _ => true

/-- The routines go on until the next call, which is answered, so many times. -/
def onward (calls : ℕ) : List (CommandTurn H) :=
  (List.replicate calls (List.replicate 24 .proceed ++ [.answer consent])).flatten

/-- A routine is entered at the call that a `Feed` makes after a number of others. -/
def duringCall (data : Bytes) (calls : ℕ) (e : CommandEntry) : List (CommandTurn H) :=
  .enter (.feed data) :: onward calls ++ (List.replicate 24 .proceed ++ .enter e :: onward 8)

/-- A session with a policy after a number of turns. -/
def after (config : @SocketCommandSessionConfig SizeWidth.host)
    (turns : List (@CommandTurn ScalarValue scalarLibrary directHost)) :
    @CommandMachine ScalarValue scalarLibrary SizeWidth.host directHost :=
  letI := scalarLibrary
  letI := SizeWidth.host
  run (Machine.step (feedProgram directHost)) (opening () config {} () (some ()) none) turns

/-- The policy of a line feeds another one. -/
def fedByPolicy : List (@CommandTurn ScalarValue scalarLibrary directHost) :=
  letI := scalarLibrary
  duringCall (text "run\n") 0 (.feed (text "stop\n"))

omit [SizeWidth] in
theorem calls_tolerated_feed :
    letI := scalarLibrary
    letI := SizeWidth.host
    Tolerated (after shortLines fedByPolicy) ∧
      (after shortLines fedByPolicy).state.current.handled = [text "run", text "stop"] := by
  exact ⟨@calls_tolerated ScalarValue scalarLibrary directHost SizeWidth.host () shortLines {} ()
    (some ()) none fedByPolicy (by decide +kernel), by decide +kernel⟩

/-- The Command of a frame feeds nothing. -/
def fedByCommand : @CommandMachine ScalarValue scalarLibrary SizeWidth.host directHost :=
  letI := scalarLibrary
  after smallRequests (duringCall (frameStructuredPayload oneRequest) 1 (.feed []))

omit [SizeWidth] in
/-- In line mode the policy or, in front of another line, the writer shuts the session down; in
structured mode the Command resets the input, or feeds nothing. -/
theorem calls_not_tolerated :
    letI := scalarLibrary
    letI := SizeWidth.host
    let frame := frameStructuredPayload oneRequest
    (after shortLines (duringCall (text "run\n") 0 .shutdown)).fault = true ∧
      (after shortLines (duringCall (text "run\nrun\n") 2 .shutdown)).fault = true ∧
      (after smallRequests (duringCall frame 1 .resetInput)).fault = true ∧
      fedByCommand.state.current.stream = frame ∧
      fedByCommand.state.current.handled = [oneRequest, oneRequest] ∧
      ¬ Tolerated fedByCommand := by
  let := scalarLibrary
  let := SizeWidth.host
  have hstream : fedByCommand.state.current.stream = frameStructuredPayload oneRequest := by
    decide +kernel
  have hhandled : fedByCommand.state.current.handled = [oneRequest, oneRequest] := by
    decide +kernel
  have hmode : fedByCommand.state.session.config.mode = .structuredBinary := by
    decide +kernel
  refine ⟨by decide +kernel, by decide +kernel, by decide +kernel, hstream, hhandled, fun h => ?_⟩
  have hprefix :=
    @Tolerated.begins ScalarValue scalarLibrary directHost SizeWidth.host fedByCommand h hmode
  rw [hstream, hhandled] at hprefix
  exact absurd hprefix (by decide +kernel)

end Examples
end Sockets.Command
