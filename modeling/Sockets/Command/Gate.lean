import Sockets.Command.Session
import Sockets.Foundation.Log

/-! What the policy sees before a session runs a command, and what becomes of a refused one. -/
namespace Sockets.Command
open Foundation

variable {Value : Type} [CommandLibrary Value] {H : CommandHost Value}

/-- The calls of a registry. -/
def CommandEvent.IsCall : CommandEvent H → Prop
  | .invoked _ _ | .invokedLine _ _ => True
  | _ => False

/-- The call runs what the context shows: the very invocation, or the same raw line. -/
def Executes (context : SocketCommandInvocationContext Value) : CommandEvent H → Prop
  | .invoked invocation _ => context.invocation = invocation
  | .invokedLine line _ => context.invocation.raw = line
  | _ => False

/-- The observer, if there is one, is shown a result. -/
def Observed (context : SocketCommandInvocationContext Value) (result : CommandResult)
    (calls : List (CommandEvent H)) : Prop :=
  calls = [] ∨ ∃ observer, calls = [.observed observer context result]

/-- An answer is written once; there is nothing to write where no frame can hold it. -/
def Written (writer : H.Writer) (bytes : Bytes) (calls : List (CommandEvent H)) : Prop :=
  if bytes = [] then calls = [] else ∃ accepted, calls = [.wrote writer bytes accepted]

/-- An event that neither runs a command nor asks the policy. -/
def Neutral (e : CommandEvent H) : Prop :=
  ¬ e.IsCall ∧ ∀ policy context result, e ≠ .policyCalled policy context result

theorem Observed.neutral {context : SocketCommandInvocationContext Value} {result : CommandResult}
    {calls : List (CommandEvent H)} (h : Observed context result calls) :
    ∀ e ∈ calls, Neutral e := by
  rcases h with rfl | ⟨observer, rfl⟩ <;> simp [Neutral, CommandEvent.IsCall]

theorem Written.neutral {writer : H.Writer} {bytes : Bytes} {calls : List (CommandEvent H)}
    (h : Written writer bytes calls) : ∀ e ∈ calls, Neutral e := by
  unfold Written at h
  split_ifs at h
  · simp [h]
  · obtain ⟨accepted, rfl⟩ := h
    simp [Neutral, CommandEvent.IsCall]

/-- What a session was given to work with: its handlers and the peer it speaks to. -/
structure Terms (H : CommandHost Value) where
  policy : Option H.Policy
  writer : H.Writer
  mode : SocketCommandMode
  sessionID : UInt64
  remoteAddress : Bytes
  remotePort : UInt16

namespace Terms

/-- Metadata that shows the peer. -/
def Shown (t : Terms H) (m : SocketCommandMetadata) : Prop :=
  m.sessionID = t.sessionID ∧ m.remoteAddress = t.remoteAddress ∧ m.remotePort = t.remotePort

/-- The answer to a request with this context. -/
def answer (t : Terms H) (context : SocketCommandInvocationContext Value)
    (result : CommandResult) : Bytes :=
  match t.mode with
  | .line => lineResponse result
  | .structuredBinary => responseFrame { requestID := context.metadata.requestID, result }

/-- A session on these terms. -/
structure Holds [SizeWidth] (t : Terms H) (s : SocketCommandSession H) : Prop where
  registry : s.registry ≠ none
  policy : s.policy = t.policy
  writer : s.writer = some t.writer
  mode : s.config.mode = t.mode
  shown : t.Shown s.metadata

/-- The calls made while one request is handled. -/
inductive Episode (t : Terms H) : List (CommandEvent H) → Prop
  | answered {bytes : Bytes} {tail : List (CommandEvent H)} (htail : Written t.writer bytes tail) :
    Episode t tail
  | refused {policy : H.Policy} {context : SocketCommandInvocationContext Value}
    {result : CommandResult} {observed tail : List (CommandEvent H)}
    (hobserved : Observed context result observed)
    (htail : Written t.writer (t.answer context result) tail) :
    Episode t (.policyCalled policy context result :: (observed ++ tail))
  | ungated {call : CommandEvent H} {context : SocketCommandInvocationContext Value}
    {result : CommandResult} {observed tail : List (CommandEvent H)} {bytes : Bytes}
    (hpolicy : t.policy = none) (hcall : call.IsCall)
    (hobserved : Observed context result observed) (htail : Written t.writer bytes tail) :
    Episode t (call :: (observed ++ tail))
  | allowed {policy : H.Policy} {call : CommandEvent H}
    {context : SocketCommandInvocationContext Value} {verdict result : CommandResult}
    {observed tail : List (CommandEvent H)} {bytes : Bytes} (hpolicy : t.policy = some policy)
    (hverdict : verdict.success = true) (hshown : t.Shown context.metadata)
    (hcall : call.IsCall) (hexecutes : Executes context call)
    (hobserved : Observed context result observed) (htail : Written t.writer bytes tail) :
    Episode t (.policyCalled policy context verdict :: call :: (observed ++ tail))

/-- A registry call comes right behind a policy that allowed it; a refusal is answered and ends the
request. -/
def GateAt (t : Terms H) (before : List (CommandEvent H)) (e : CommandEvent H)
    (after : List (CommandEvent H)) : Prop :=
  (e.IsCall → ∀ policy ∈ t.policy, ∃ before' context result,
    before = before' ++ [.policyCalled policy context result] ∧ result.success = true ∧
      t.Shown context.metadata ∧ Executes context e) ∧
  ∀ policy context result, e = .policyCalled policy context result → result.success = false →
    ∃ observed tail rest, after = observed ++ (tail ++ .handled :: rest) ∧
      Observed context result observed ∧ Written t.writer (t.answer context result) tail

theorem GateAt.of_neutral {t : Terms H} {e : CommandEvent H} (h : Neutral e)
    (before after : List (CommandEvent H)) : t.GateAt before e after :=
  ⟨fun hcall => absurd hcall h.1, fun _ _ _ he => absurd he (h.2 _ _ _)⟩

theorem GateAt.extend {t : Terms H} {e : CommandEvent H} {before after : List (CommandEvent H)}
    (h : t.GateAt before e after) (older newer : List (CommandEvent H)) :
    t.GateAt (older ++ before) e (after ++ newer) := by
  refine ⟨fun hcall policy hp => ?_, fun policy context result he hfail => ?_⟩
  · obtain ⟨before', context, result, rfl, hrest⟩ := h.1 hcall policy hp
    exact ⟨older ++ before', context, result, by simp, hrest⟩
  · obtain ⟨observed, tail, rest, rfl, hrest⟩ := h.2 policy context result he hfail
    exact ⟨observed, tail, rest ++ newer, by simp, hrest⟩

/-- Logs that keep the gate can be put behind one another. -/
theorem gate_append {t : Terms H} {older newer : List (CommandEvent H)}
    (ho : Throughout t.GateAt older) (hn : Throughout t.GateAt newer) :
    Throughout t.GateAt (older ++ newer) :=
  ho.append (hn.mono fun h => by simpa using h.extend older [])
    fun h => by simpa using h.extend [] newer

theorem gate_neutral {t : Terms H} {calls : List (CommandEvent H)}
    (h : ∀ e ∈ calls, Neutral e) : Throughout t.GateAt calls := by
  intro before e after hcalls
  exact GateAt.of_neutral (h e (by simp [hcalls])) before after

theorem neutral_rest {observed tail : List (CommandEvent H)} (ho : ∀ e ∈ observed, Neutral e)
    (ht : ∀ e ∈ tail, Neutral e) : ∀ e ∈ observed ++ tail ++ [.handled], Neutral e := by
  intro e he
  simp only [List.mem_append, List.mem_singleton] at he
  rcases he with (he | he) | rfl
  · exact ho e he
  · exact ht e he
  · simp [Neutral, CommandEvent.IsCall]

/-- Every request keeps the gate, from its first mark to its last. -/
theorem Episode.gate {t : Terms H} {calls : List (CommandEvent H)} (h : t.Episode calls)
    (request : Bytes) : Throughout t.GateAt (.received request :: (calls ++ [.handled])) := by
  have hreceived : Neutral (.received request : CommandEvent H) := by
    simp [Neutral, CommandEvent.IsCall]
  have hquiet (older : List (CommandEvent H)) {rest : List (CommandEvent H)}
      (hr : ∀ e ∈ rest, Neutral e) :
      Throughout (fun before => t.GateAt (older ++ before)) rest := fun before e after hcalls =>
    GateAt.of_neutral (hr e (by simp [hcalls])) _ _
  refine .cons (.of_neutral hreceived _ _) ?_
  cases h with
  | answered htail => exact hquiet [_] (neutral_rest (by simp : ∀ e ∈ [], Neutral e) htail.neutral)
  | @refused policy context result observed tail hobserved htail =>
    refine .cons ⟨fun hcall => hcall.elim, ?_⟩
      (hquiet [_, _] (neutral_rest hobserved.neutral htail.neutral))
    rintro _ _ _ he -
    cases he
    exact ⟨observed, tail, [], by simp, hobserved, htail⟩
  | @ungated call context result observed tail bytes hpolicy hcall hobserved htail =>
    refine .cons ⟨fun _ policy hp => ?_, ?_⟩
      (hquiet [_, _] (neutral_rest hobserved.neutral htail.neutral))
    · rw [hpolicy] at hp
      cases hp
    · rintro _ _ _ rfl
      exact hcall.elim
  | @allowed policy call context verdict result observed tail bytes hpolicy hverdict hshown hcall
      hexecutes hobserved htail =>
    refine .cons ⟨fun hcall => hcall.elim, ?_⟩ (.cons ⟨?_, ?_⟩
      (hquiet [_, _, _] (neutral_rest hobserved.neutral htail.neutral)))
    · rintro _ _ _ he hfail
      cases he
      rw [hverdict] at hfail
      cases hfail
    · rintro - p hp
      rw [hpolicy] at hp
      cases hp
      exact ⟨[_], context, verdict, rfl, hverdict, hshown, hexecutes⟩
    · rintro _ _ _ rfl
      exact hcall.elim

end Terms

/-- What a call added to the log. -/
def Adds (x y : Exterior H) (calls : List (CommandEvent H)) : Prop := y.log = x.log ++ calls

theorem Adds.trans {x y z : Exterior H} {calls calls' : List (CommandEvent H)}
    (h : Adds x y calls) (h' : Adds y z calls') : Adds x z (calls ++ calls') := by
  rw [Adds, h', h, List.append_assoc]

theorem adds_observe (x : Exterior H) (observer : Option H.Observer)
    (context : SocketCommandInvocationContext Value) (result : CommandResult) :
    ∃ calls, Adds x (x.observe observer context result) calls ∧ Observed context result calls := by
  cases observer with
  | none => exact ⟨[], (List.append_nil _).symm, .inl rfl⟩
  | some observer => exact ⟨_, rfl, .inr ⟨observer, rfl⟩⟩

theorem adds_write (x : Exterior H) (writer : H.Writer) {bytes : Bytes} (h : bytes ≠ []) :
    ∃ calls, Adds x (x.write (some writer) bytes).2 calls ∧ Written writer bytes calls := by
  refine ⟨_, rfl, ?_⟩
  rw [Written, if_neg h]
  exact ⟨_, rfl⟩

theorem adds_policy (x : Exterior H) (policy : H.Policy)
    (context : SocketCommandInvocationContext Value) :
    Adds x (x.callPolicy policy context).2
      [.policyCalled policy context (x.callPolicy policy context).1] := rfl

theorem adds_invoke (x : Exterior H) (registry : H.Registry)
    (invocation : CommandInvocation Value) :
    Adds x (x.invoke registry invocation).2
      [.invoked invocation (x.invoke registry invocation).1] := rfl

theorem adds_invokeLine (x : Exterior H) (registry : H.Registry) (line : Bytes) :
    Adds x (x.invokeLine registry line).2
      [.invokedLine line (x.invokeLine registry line).1] := rfl

theorem lineResponse_ne_nil (result : CommandResult) : lineResponse result ≠ [] := by
  simp [lineResponse]

namespace SocketCommandSession
open Terms
variable [SizeWidth] {t : Terms H} {s : SocketCommandSession H}

theorem adds_writeLineResult (hs : t.Holds s) (result : CommandResult) (x : Exterior H) :
    ∃ calls, Adds x (s.writeLineResult result x).2 calls ∧
      Written t.writer (lineResponse result) calls := by
  rw [writeLineResult, hs.writer]
  exact adds_write x t.writer (lineResponse_ne_nil result)

theorem adds_writeResponse (hs : t.Holds s) (response : SocketCommandResponse) (x : Exterior H) :
    ∃ calls, Adds x (s.writeResponse response x).2 calls ∧
      Written t.writer (responseFrame response) calls := by
  unfold writeResponse
  dsimp only
  split_ifs with h
  · exact ⟨[], (List.append_nil _).symm, by rw [Written, if_pos h]⟩
  · rw [hs.writer]
    exact adds_write x t.writer h

omit [SizeWidth] in
/-- Running a command behind what was logged in front of it. -/
private theorem adds_run (x : Exterior H) (registry : H.Registry)
    (context : SocketCommandInvocationContext Value) (observer : Option H.Observer) :
    ∃ call observed, call.IsCall ∧ Executes context call ∧
      Observed context (x.invoke registry context.invocation).1 observed ∧
      Adds x ((x.invoke registry context.invocation).2.observe observer context
        (x.invoke registry context.invocation).1) (call :: observed) := by
  obtain ⟨observed, hadds, hobserved⟩ := adds_observe (x.invoke registry context.invocation).2
    observer context (x.invoke registry context.invocation).1
  exact ⟨.invoked context.invocation (x.invoke registry context.invocation).1, observed, trivial,
    rfl, hobserved, (adds_invoke x registry context.invocation).trans hadds⟩

/-- `Execute`, whatever is written behind it. -/
theorem execute_episode (hs : t.Holds s) {context : SocketCommandInvocationContext Value}
    (hshown : t.Shown context.metadata) (x : Exterior H) :
    ∃ calls, Adds x (s.execute context x).2 calls ∧ ∀ tail,
      Written t.writer (t.answer context (s.execute context x).1) tail →
        t.Episode (calls ++ tail) := by
  unfold execute
  cases hregistry : s.registry with
  | none => exact ⟨[], (List.append_nil _).symm, fun tail htail => .answered htail⟩
  | some registry =>
    cases hpolicy : s.policy with
    | none =>
      obtain ⟨call, observed, hcall, -, hobserved, hadds⟩ :=
        adds_run x registry context s.observer
      exact ⟨_, hadds, fun tail htail =>
        .ungated (hs.policy ▸ hpolicy) hcall hobserved htail⟩
    | some policy =>
      have hverdict := adds_policy x policy context
      dsimp only
      split_ifs with hfail
      · obtain ⟨observed, hadds, hobserved⟩ := adds_observe (x.callPolicy policy context).2
          s.observer context (x.callPolicy policy context).1
        exact ⟨_, hverdict.trans hadds, fun tail htail => .refused hobserved htail⟩
      · obtain ⟨call, observed, hcall, hexecutes, hobserved, hadds⟩ :=
          adds_run (x.callPolicy policy context).2 registry context s.observer
        exact ⟨_, hverdict.trans hadds, fun tail htail => .allowed (hs.policy ▸ hpolicy)
          (by simpa using hfail) hshown hcall hexecutes hobserved htail⟩

omit [SizeWidth] in
theorem shown_of_decode {m : SocketCommandMetadata} (hm : t.Shown m) {data : Bytes}
    {context : SocketCommandInvocationContext Value}
    (h : decodeRequest data { metadata := m } = some context) : t.Shown context.metadata := by
  rw [decodeRequest_metadata h]
  exact hm

theorem handleStructuredFrame_episode (hs : t.Holds s) (hmode : t.mode = .structuredBinary)
    (data : Bytes) (x : Exterior H) :
    ∃ calls, Adds x (s.handleStructuredFrame data x).2.2 calls ∧ t.Episode calls ∧
      t.Shown (s.handleStructuredFrame data x).2.1 := by
  unfold handleStructuredFrame
  split
  · obtain ⟨calls, hadds, hwritten⟩ := adds_writeResponse hs _ x
    exact ⟨calls, hadds, .answered hwritten, hs.shown⟩
  · rename_i context hdecode
    obtain ⟨calls, hadds, hepisode⟩ :=
      execute_episode hs (shown_of_decode hs.shown hdecode) x
    obtain ⟨tail, hadds', hwritten⟩ := adds_writeResponse hs
      { requestID := context.metadata.requestID, result := (s.execute context x).1 }
      (s.execute context x).2
    refine ⟨calls ++ tail, hadds.trans hadds', hepisode tail ?_, hs.shown⟩
    rw [answer, hmode]
    exact hwritten

/-- Running a text command, with its response, behind what was logged in front of it. -/
private theorem adds_runLine (hs : t.Holds s) (x : Exterior H) (registry : H.Registry)
    (context : SocketCommandInvocationContext Value) :
    let r := x.invokeLine registry context.invocation.raw
    ∃ call observed tail, call.IsCall ∧ Executes context call ∧ Observed context r.1 observed ∧
      Written t.writer (lineResponse r.1) tail ∧
      Adds x (s.writeLineResult r.1 (r.2.observe s.observer context r.1)).2
        (call :: (observed ++ tail)) := by
  intro r
  obtain ⟨observed, hadds, hobserved⟩ := adds_observe r.2 s.observer context r.1
  obtain ⟨tail, hadds', hwritten⟩ := adds_writeLineResult hs r.1
    (r.2.observe s.observer context r.1)
  exact ⟨.invokedLine context.invocation.raw r.1, observed, tail, trivial, rfl, hobserved, hwritten,
    (adds_invokeLine x registry context.invocation.raw).trans (hadds.trans hadds')⟩

theorem handleLine_episode (hs : t.Holds s) (hmode : t.mode = .line) (line : Bytes)
    (x : Exterior H) :
    ∃ calls, Adds x (s.handleLine line x).2.2 calls ∧ t.Episode calls ∧
      t.Shown (s.handleLine line x).2.1 := by
  have hanswered (result : CommandResult) : ∃ calls,
      Adds x (s.writeLineResult result x).2 calls ∧ t.Episode calls := by
    obtain ⟨calls, hadds, hwritten⟩ := adds_writeLineResult hs result x
    exact ⟨calls, hadds, .answered hwritten⟩
  have hshown : t.Shown { s.metadata with requestID := s.metadata.requestID + 1 } := hs.shown
  have hsilent : t.Episode [] := .answered (by simp [Written] : Written t.writer [] [])
  unfold handleLine
  dsimp only
  split_ifs
  · exact ⟨[], (List.append_nil _).symm, hsilent, hs.shown⟩
  · obtain ⟨calls, hadds, hepisode⟩ := hanswered (CommandLibrary.error Value (H.tokenize (trim line)).2)
    exact ⟨calls, hadds, hepisode, hshown⟩
  · split
    · obtain ⟨calls, hadds, hepisode⟩ := hanswered (CommandLibrary.error Value
        (text "No command supplied"))
      exact ⟨calls, hadds, hepisode, hshown⟩
    · rename_i command _ _
      split
      · rename_i hpolicy
        split
        · exact ⟨[], (List.append_nil _).symm, hsilent, hshown⟩
        · rename_i registry _
          obtain ⟨call, observed, tail, hcall, -, hobserved, hwritten, hadds⟩ :=
            adds_runLine hs x registry
              { invocation := { path := [command], raw := trim line }
                metadata := { s.metadata with requestID := s.metadata.requestID + 1 } }
          exact ⟨_, hadds, .ungated (hs.policy ▸ hpolicy) hcall hobserved hwritten, hshown⟩
      · rename_i policy hpolicy
        generalize hcontext : ({ invocation := { path := [command], raw := trim line }
                                 metadata := { s.metadata with
                                   requestID := s.metadata.requestID + 1 } } :
          SocketCommandInvocationContext Value) = context
        have hraw : trim line = context.invocation.raw := hcontext ▸ rfl
        have hcontextShown : t.Shown context.metadata := hcontext ▸ hshown
        have hverdict := adds_policy x policy context
        split_ifs with hfail
        · obtain ⟨observed, hadds, hobserved⟩ := adds_observe (x.callPolicy policy context).2
            s.observer context (x.callPolicy policy context).1
          obtain ⟨tail, hadds', hwritten⟩ := adds_writeLineResult hs
            (x.callPolicy policy context).1 ((x.callPolicy policy context).2.observe s.observer
              context (x.callPolicy policy context).1)
          have hanswer : Written t.writer
              (t.answer context (x.callPolicy policy context).1) tail := by
            rw [answer, hmode]
            exact hwritten
          exact ⟨.policyCalled policy context _ :: (observed ++ tail),
            hverdict.trans (hadds.trans hadds'), .refused hobserved hanswer, hshown⟩
        · split
          · rename_i hregistry
            exact absurd hregistry hs.registry
          · rename_i registry _
            rw [hraw]
            obtain ⟨call, observed, tail, hcall, hexecutes, hobserved, hwritten, hadds⟩ :=
              adds_runLine hs (x.callPolicy policy context).2 registry context
            exact ⟨_, hverdict.trans hadds, .allowed (hs.policy ▸ hpolicy) (by simpa using hfail)
              hcontextShown hcall hexecutes hobserved hwritten, hshown⟩

/-- A session that was initialised and given its handlers is on the terms these make. -/
theorem initializeWith_holds {registry : H.Registry} {config : SocketCommandSessionConfig}
    {metadata : SocketCommandMetadata}
    (h : (s.initializeWith registry config metadata (some t.writer)).1 = true)
    (hmode : config.mode = t.mode) (hshown : t.Shown metadata) (observer : Option H.Observer) :
    t.Holds (((s.initializeWith registry config metadata (some t.writer)).2.setPolicy
      t.policy).setResultObserver observer) := by
  unfold initializeWith at h ⊢
  dsimp only at h ⊢
  split_ifs at h ⊢
  exact ⟨by simp [setPolicy, setResultObserver], rfl, rfl, hmode, hshown⟩

/-- The part of a session that handling requests leaves alone. -/
theorem holds_metadata (hs : t.Holds s) {m : SocketCommandMetadata} (hm : t.Shown m) :
    t.Holds { s with metadata := m } :=
  ⟨hs.registry, hs.policy, hs.writer, hs.mode, hm⟩

omit [SizeWidth] in
/-- A handled request keeps the gate. -/
theorem during_gate {handle : Exterior H → Bool × SocketCommandMetadata × Exterior H}
    (h : ∀ x, ∃ calls, Adds x (handle x).2.2 calls ∧ t.Episode calls ∧ t.Shown (handle x).2.1)
    (request : Bytes) (x : Exterior H) :
    ∃ calls, Adds x (during request handle x).2.2 calls ∧ Throughout t.GateAt calls ∧
      t.Shown (during request handle x).2.1 := by
  obtain ⟨calls, hadds, hepisode, hshown⟩ := h (x.record (.received request))
  have hreceived : Adds x (x.record (.received request)) [.received request] := rfl
  have hhandled : Adds (handle (x.record (.received request))).2.2 (during request handle x).2.2
    [.handled] := rfl
  exact ⟨_, hreceived.trans (hadds.trans hhandled), hepisode.gate request, hshown⟩

theorem feedLine_gate (hmode : t.mode = .line) (data : Bytes) (success : Bool)
    (s : SocketCommandSession H) (hs : t.Holds s) (x : Exterior H) :
    ∃ calls, Adds x (feedLine data success s x).2.2 calls ∧ Throughout t.GateAt calls ∧
      t.Holds (feedLine data success s x).2.1 := by
  have hsame {s : SocketCommandSession H} (hs : t.Holds s) (line : Bytes) (discard : Bool) :
      t.Holds { s with line := line, discardUntilNewline := discard } :=
    ⟨hs.registry, hs.policy, hs.writer, hs.mode, hs.shown⟩
  induction data generalizing success s x with
  | nil => exact ⟨[], (List.append_nil _).symm, .nil, hs⟩
  | cons c data ih =>
    unfold feedLine
    dsimp only
    split_ifs
    · exact ih _ s hs x
    · obtain ⟨calls, hadds, hwritten⟩ := adds_writeLineResult (hsame hs [] false)
        (CommandLibrary.error Value tooLong) x
      exact ⟨calls, hadds, gate_neutral hwritten.neutral, hsame hs [] false⟩
    · obtain ⟨calls, hadds, hwritten⟩ := adds_writeLineResult (hsame hs [] false)
        (CommandLibrary.error Value tooLong) x
      obtain ⟨calls', hadds', hgate, hholds⟩ := ih _ _ (hsame hs [] false) _
      exact ⟨_, hadds.trans hadds', gate_append (gate_neutral hwritten.neutral) hgate, hholds⟩
    · have hcleared := hsame hs [] s.discardUntilNewline
      obtain ⟨calls, hadds, hgate, hshown⟩ :=
        during_gate (handleLine_episode hcleared hmode s.line) s.line x
      obtain ⟨calls', hadds', hgate', hholds⟩ := ih _ _ (holds_metadata hcleared hshown) _
      exact ⟨_, hadds.trans hadds', gate_append hgate hgate', hholds⟩
    · exact ih _ s hs x
    · exact ih _ _ (hsame hs [] true) x
    · exact ih _ _ (hsame hs _ s.discardUntilNewline) x

theorem holds_input (hs : t.Holds s) (structured : Bytes) (expected : ℕ) :
    t.Holds { s with structured, expectedStructuredBytes := expected } :=
  ⟨hs.registry, hs.policy, hs.writer, hs.mode, hs.shown⟩

theorem structuredLoop_gate (hmode : t.mode = .structuredBinary) (success : Bool)
    (s : SocketCommandSession H) (hs : t.Holds s) (x : Exterior H) :
    ∃ calls, Adds x (structuredLoop success s x).2.2 calls ∧ Throughout t.GateAt calls ∧
      t.Holds (structuredLoop success s x).2.1 := by
  have hready {s s' : SocketCommandSession H} (hs : t.Holds s) (h : s.expect = .ready s') :
      t.Holds s' := by
    unfold expect at h
    dsimp only at h
    split_ifs at h <;> cases h
    · exact hs
    · exact holds_input hs _ _
  have hsettle (success : Bool) {s : SocketCommandSession H} (hs : t.Holds s) (x : Exterior H) :
      ∃ calls, Adds x (settle success s x).2.2 calls ∧ Throughout t.GateAt calls ∧
        t.Holds (settle success s x).2.1 := by
    unfold settle
    split_ifs
    · exact ⟨[], (List.append_nil _).symm, .nil, holds_input hs [] 0⟩
    · exact ⟨[], (List.append_nil _).symm, .nil, hs⟩
  induction success, s, x using structuredLoop.induct with
  | case1 success s x h =>
    rw [structuredLoop_wait h]
    exact hsettle success hs x
  | case2 success s x h =>
    rw [structuredLoop_invalid h]
    obtain ⟨calls, hadds, hwritten⟩ := adds_writeResponse (holds_input hs [] 0)
      { requestID := 0, result := CommandLibrary.error Value exceedsLimit } x
    exact ⟨calls, hadds, gate_neutral hwritten.neutral, holds_input hs [] 0⟩
  | case3 success s x s' h hlen =>
    rw [structuredLoop_ready h, if_pos hlen]
    exact hsettle success (hready hs h) x
  | case4 success s x s' h hlen data r ih =>
    rw [structuredLoop_ready h, if_neg hlen]
    obtain ⟨calls, hadds, hgate, hshown⟩ :=
      during_gate (handleStructuredFrame_episode (hready hs h) hmode data) data x
    obtain ⟨calls', hadds', hgate', hholds⟩ := ih (holds_metadata (holds_input (hready hs h) _ 0) hshown)
    exact ⟨_, hadds.trans hadds', gate_append hgate hgate', hholds⟩

/-- Feeding a session keeps the gate and the session's terms. -/
theorem feed_gate (data : Bytes) (s : SocketCommandSession H) (hs : t.Holds s) (x : Exterior H) :
    ∃ calls, Adds x (s.feed data x).2.2 calls ∧ Throughout t.GateAt calls ∧
      t.Holds (s.feed data x).2.1 := by
  have hnone : ∃ calls, Adds x x calls ∧ Throughout t.GateAt calls ∧ t.Holds s :=
    ⟨[], (List.append_nil _).symm, .nil, hs⟩
  unfold feed
  split_ifs
  · exact hnone
  · split
    · rename_i hmode
      exact feedLine_gate (hs.mode ▸ hmode) data true s hs x
    · rename_i hmode
      unfold feedStructured
      split_ifs
      · exact hnone
      · exact structuredLoop_gate (hs.mode ▸ hmode) true _ (holds_input hs _ _) x

end SocketCommandSession
end Sockets.Command
