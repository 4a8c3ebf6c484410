import Mathlib.Data.List.DropRight
import Mathlib.Data.List.TakeWhile
import Sockets.Command.Arguments
import Sockets.Command.Gate

/-! What the policy sees of one command in the two modes: of a line its first token and its text, of
a structured request the path. -/
namespace Sockets.Command
open Foundation

def space : UInt8 := 0x20

/-- A token that needs no quoting. -/
structure Plain (token : Bytes) : Prop where
  ne_nil : token ≠ []
  noSpace : ∀ c ∈ token, isSpace c = false
  /-- Neither a quotation mark nor a backslash. -/
  noQuote : ∀ c ∈ token, c ≠ 0x22 ∧ c ≠ 0x27 ∧ c ≠ 0x5C

/-- The line made of some tokens. -/
def lineOf (tokens : List Bytes) : Bytes := [space].intercalate tokens

/-- What is assumed of `TextCommandParser::Tokenize`. -/
def SplitsAtSpaces (tokenize : Bytes → List Bytes × Bytes) : Prop :=
  ∀ tokens, (∀ token ∈ tokens, Plain token) → tokenize (lineOf tokens) = (tokens, [])

theorem lineOf_cons (token : Bytes) {tokens : List Bytes} (h : tokens ≠ []) :
    lineOf (token :: tokens) = token ++ space :: lineOf tokens := by
  rw [lineOf, List.intercalate_cons_of_ne_nil h, List.append_assoc, List.singleton_append, lineOf]

theorem lineOf_ne_nil {tokens : List Bytes} (h : ∀ token ∈ tokens, Plain token)
    (hne : tokens ≠ []) : lineOf tokens ≠ [] := by
  cases tokens with
  | nil => exact absurd rfl hne
  | cons token tokens =>
    have htoken := (h token List.mem_cons_self).ne_nil
    by_cases hrest : tokens = []
    · rw [hrest, lineOf, List.intercalate_singleton]
      exact htoken
    · rw [lineOf_cons token hrest]
      exact List.append_ne_nil_of_left_ne_nil htoken _

theorem isSpace_head_lineOf {tokens : List Bytes} (h : ∀ token ∈ tokens, Plain token) :
    ∀ c ∈ (lineOf tokens).head?, isSpace c = false := by
  cases tokens with
  | nil => simp [lineOf]
  | cons token tokens =>
    intro c hc
    have htoken := h token List.mem_cons_self
    have hhead : (lineOf (token :: tokens)).head? = token.head? := by
      by_cases hrest : tokens = []
      · rw [hrest, lineOf, List.intercalate_singleton]
      · rw [lineOf_cons token hrest, List.head?_append_of_ne_nil _ htoken.ne_nil]
    rw [hhead] at hc
    exact htoken.noSpace c (List.mem_of_mem_head? hc)

theorem isSpace_getLast_lineOf {tokens : List Bytes} (h : ∀ token ∈ tokens, Plain token) :
    ∀ c ∈ (lineOf tokens).getLast?, isSpace c = false := by
  induction tokens with
  | nil => simp [lineOf]
  | cons token tokens ih =>
    have htokens : ∀ token ∈ tokens, Plain token := fun t ht => h t (List.mem_cons_of_mem _ ht)
    intro c hc
    by_cases hrest : tokens = []
    · rw [hrest, lineOf, List.intercalate_singleton] at hc
      exact (h token List.mem_cons_self).noSpace c (List.mem_of_mem_getLast? hc)
    · have hne := lineOf_ne_nil htokens hrest
      rw [lineOf_cons token hrest, List.getLast?_append, List.getLast?_cons,
        List.getLast?_eq_some_getLast hne] at hc
      apply ih htokens c
      rw [List.getLast?_eq_some_getLast hne]
      simpa using hc

/-- `Trim` finds nothing to take off. -/
theorem trim_lineOf {tokens : List Bytes} (h : ∀ token ∈ tokens, Plain token) :
    trim (lineOf tokens) = lineOf tokens := by
  have hfront : (lineOf tokens).dropWhile isSpace = lineOf tokens := by
    rw [List.dropWhile_eq_self_iff]
    intro hl
    have hhead := isSpace_head_lineOf h _ (List.head?_eq_getElem? ▸ List.getElem?_eq_getElem hl)
    simp [hhead]
  have hback : (lineOf tokens).rdropWhile isSpace = lineOf tokens := by
    rw [List.rdropWhile_eq_self_iff]
    intro hl
    have hlast := isSpace_getLast_lineOf h _ (List.getLast?_eq_some_getLast hl)
    simp [hlast]
  rw [trim, hfront]
  exact hback

section
variable {Value : Type} [CommandLibrary Value] {H : CommandHost Value}

/-- A request was put to the policy once, as `context`, and a command ran exactly where the policy
allowed it. -/
def Ruled (policy : H.Policy) (context : SocketCommandInvocationContext Value) (allowed : Bool)
    (x y : Exterior H) : Prop :=
  ∃ result rest, Adds x y (.policyCalled policy context result :: rest) ∧
    result.success = allowed ∧ ((∃ e ∈ rest, e.IsCall) ↔ allowed = true) ∧
      ∀ e ∈ rest, ∀ policy context result, e ≠ .policyCalled policy context result

variable {policy : H.Policy} {context : SocketCommandInvocationContext Value} {x y : Exterior H}

theorem Ruled.denied {result : CommandResult} {rest : List (CommandEvent H)}
    (h : Adds x y (.policyCalled policy context result :: rest)) (hresult : result.success = false)
    (hrest : ∀ e ∈ rest, Neutral e) : Ruled policy context false x y := by
  refine ⟨result, rest, h, hresult, ?_, fun e he => (hrest e he).2⟩
  constructor
  · rintro ⟨e, he, hcall⟩
    exact absurd hcall (hrest e he).1
  · intro hfalse
    cases hfalse

theorem Ruled.allowed {result : CommandResult} {call : CommandEvent H}
    {rest : List (CommandEvent H)}
    (h : Adds x y (.policyCalled policy context result :: call :: rest))
    (hresult : result.success = true) (hcall : call.IsCall) (hrest : ∀ e ∈ rest, Neutral e) :
    Ruled policy context true x y := by
  refine ⟨result, call :: rest, h, hresult, ?_, ?_⟩
  · constructor
    · intro _
      rfl
    · intro _
      exact ⟨call, List.mem_cons_self, hcall⟩
  · intro e he p c r heq
    rcases List.mem_cons.mp he with rfl | he
    · rw [heq] at hcall
      exact hcall
    · exact (hrest e he).2 p c r heq

theorem neutral_write (x : Exterior H) (writer : Option H.Writer) (bytes : Bytes) :
    ∃ calls, Adds x (x.write writer bytes).2 calls ∧ ∀ e ∈ calls, Neutral e := by
  cases writer with
  | none => exact ⟨[], (List.append_nil _).symm, by simp⟩
  | some writer => exact ⟨_, rfl, by simp [Neutral, CommandEvent.IsCall]⟩

theorem neutral_observe (x : Exterior H) (observer : Option H.Observer)
    (context : SocketCommandInvocationContext Value) (result : CommandResult) :
    ∃ calls, Adds x (x.observe observer context result) calls ∧ ∀ e ∈ calls, Neutral e := by
  obtain ⟨calls, hadds, hobserved⟩ := adds_observe x observer context result
  exact ⟨calls, hadds, hobserved.neutral⟩

theorem neutral_append {calls calls' : List (CommandEvent H)} (h : ∀ e ∈ calls, Neutral e)
    (h' : ∀ e ∈ calls', Neutral e) : ∀ e ∈ calls ++ calls', Neutral e := by
  intro e he
  exact (List.mem_append.mp he).elim (h e) (h' e)

variable [SizeWidth]

namespace SocketCommandSession

/-- The session has a registry, and `policy` decides who may use it. -/
structure Guarded (policy : H.Policy) (s : SocketCommandSession H) : Prop where
  policy : s.policy = some policy
  registry : ∃ registry, s.registry = some registry

/-- What `HandleLine` shows its policy. -/
def lineContext (s : SocketCommandSession H) (command line : Bytes) :
    SocketCommandInvocationContext Value where
  invocation := { path := [command], raw := line }
  metadata := { s.metadata with requestID := s.metadata.requestID + 1 }

variable {s : SocketCommandSession H}

theorem neutral_writeResponse (s : SocketCommandSession H) (response : SocketCommandResponse)
    (x : Exterior H) :
    ∃ calls, Adds x (s.writeResponse response x).2 calls ∧ ∀ e ∈ calls, Neutral e := by
  unfold writeResponse
  dsimp only
  split_ifs
  · exact ⟨[], (List.append_nil _).symm, by simp⟩
  · exact neutral_write x s.writer _

/-- `HandleLine` on a line that has a command, in a session that asks its policy. -/
theorem handleLine_guarded {registry : H.Registry} (hpolicy : s.policy = some policy)
    (hregistry : s.registry = some registry) {line command : Bytes} {rest : List Bytes}
    (hline : trim line ≠ []) (htokens : H.tokenize (trim line) = (command :: rest, []))
    (x : Exterior H) :
    let context := s.lineContext command (trim line)
    let verdict := x.callPolicy policy context
    (s.handleLine line x).2.2 =
      if verdict.1.success = true then
        let r := verdict.2.invokeLine registry (trim line)
        (s.writeLineResult r.1 (r.2.observe s.observer context r.1)).2
      else (s.writeLineResult verdict.1 (verdict.2.observe s.observer context verdict.1)).2 := by
  intro context verdict
  have hskip : ¬ (trim line = [] ∧ s.config.ignoreEmptyLines = true) := fun h => hline h.1
  rw [handleLine, if_neg hskip]
  simp only [htokens, ne_eq, not_true_eq_false, if_false, hpolicy, hregistry]
  change (if (!verdict.1.success) = true then _ else _ :
    Bool × SocketCommandMetadata × Exterior H).2.2 = _
  cases verdict.1.success with
  | false => rfl
  | true => rfl

theorem handleLine_ruled (hs : s.Guarded policy) {line command : Bytes} {rest : List Bytes}
    (hline : trim line ≠ []) (htokens : H.tokenize (trim line) = (command :: rest, []))
    (x : Exterior H) :
    Ruled policy (s.lineContext command (trim line))
      (H.policy policy (s.lineContext command (trim line)) x.world).1.success x
        (s.handleLine line x).2.2 := by
  obtain ⟨registry, hregistry⟩ := hs.registry
  have heq := handleLine_guarded hs.policy hregistry hline htokens x
  generalize s.lineContext command (trim line) = context at heq ⊢
  dsimp only at heq
  have hverdict := adds_policy x policy context
  have hsame : (x.callPolicy policy context).1.success =
      (H.policy policy context x.world).1.success := rfl
  cases hallowed : (H.policy policy context x.world).1.success with
  | false =>
    rw [if_neg (by rw [hsame, hallowed]; exact Bool.false_ne_true)] at heq
    obtain ⟨observed, hobserved, hquiet⟩ := neutral_observe (x.callPolicy policy context).2
      s.observer context (x.callPolicy policy context).1
    obtain ⟨tail, htail, hquiet'⟩ := neutral_write _ s.writer
      (lineResponse (x.callPolicy policy context).1)
    rw [heq]
    have hadds : Adds x _ (.policyCalled policy context _ :: (observed ++ tail)) :=
      hverdict.trans (hobserved.trans htail)
    exact Ruled.denied hadds hallowed (neutral_append hquiet hquiet')
  | true =>
    rw [if_pos (hsame.trans hallowed)] at heq
    have hcall := adds_invokeLine (x.callPolicy policy context).2 registry (trim line)
    generalize ((x.callPolicy policy context).2.invokeLine registry (trim line)) = r at heq hcall
    obtain ⟨observed, hobserved, hquiet⟩ := neutral_observe r.2 s.observer context r.1
    obtain ⟨tail, htail, hquiet'⟩ := neutral_write _ s.writer (lineResponse r.1)
    rw [heq]
    have hadds : Adds x _ (.policyCalled policy context _ :: .invokedLine (trim line) _ ::
        (observed ++ tail)) := hverdict.trans (hcall.trans (hobserved.trans htail))
    exact Ruled.allowed hadds hallowed trivial (neutral_append hquiet hquiet')

theorem handleStructuredFrame_ruled (hs : s.Guarded policy) {data : Bytes}
    (hdecode : decodeRequest data { metadata := s.metadata } = some context) (x : Exterior H) :
    Ruled policy context (H.policy policy context x.world).1.success x
      (s.handleStructuredFrame data x).2.2 := by
  obtain ⟨registry, hregistry⟩ := hs.registry
  have heq : (s.handleStructuredFrame data x).2.2 = (s.writeResponse
      { requestID := context.metadata.requestID, result := (s.execute context x).1 }
        (s.execute context x).2).2 := by
    rw [handleStructuredFrame, hdecode]
  obtain ⟨tail, htail, hquiet'⟩ := neutral_writeResponse s
    { requestID := context.metadata.requestID, result := (s.execute context x).1 }
    (s.execute context x).2
  have hverdict := adds_policy x policy context
  have hsame : (x.callPolicy policy context).1.success =
      (H.policy policy context x.world).1.success := rfl
  rw [heq]
  cases hallowed : (H.policy policy context x.world).1.success with
  | false =>
    have hdenied : (!(x.callPolicy policy context).1.success) = true := by
      rw [hsame, hallowed]
      rfl
    have hexecute : (s.execute context x).2 = (x.callPolicy policy context).2.observe s.observer
        context (x.callPolicy policy context).1 := by
      simp only [execute, hregistry, hs.policy, if_pos hdenied]
    obtain ⟨observed, hobserved, hquiet⟩ := neutral_observe (x.callPolicy policy context).2
      s.observer context (x.callPolicy policy context).1
    rw [← hexecute] at hobserved
    have hadds : Adds x _ (.policyCalled policy context _ :: (observed ++ tail)) :=
      hverdict.trans (hobserved.trans htail)
    exact Ruled.denied hadds hallowed (neutral_append hquiet hquiet')
  | true =>
    have hpassed : ¬ (!(x.callPolicy policy context).1.success) = true := by
      rw [hsame, hallowed]
      decide
    have hexecute : (s.execute context x).2 =
        ((x.callPolicy policy context).2.invoke registry context.invocation).2.observe s.observer
          context ((x.callPolicy policy context).2.invoke registry context.invocation).1 := by
      simp only [execute, hregistry, hs.policy, if_neg hpassed]
    have hcall := adds_invoke (x.callPolicy policy context).2 registry context.invocation
    obtain ⟨observed, hobserved, hquiet⟩ := neutral_observe
      ((x.callPolicy policy context).2.invoke registry context.invocation).2 s.observer context
        ((x.callPolicy policy context).2.invoke registry context.invocation).1
    rw [← hexecute] at hobserved
    have hadds : Adds x _ (.policyCalled policy context _ :: .invoked context.invocation _ ::
        (observed ++ tail)) := hverdict.trans (hcall.trans (hobserved.trans htail))
    exact Ruled.allowed hadds hallowed trivial (neutral_append hquiet hquiet')

end SocketCommandSession

/-- The policy looks at nothing but the path. -/
def DecidesOnPath (policy : H.Policy) (verdict : List Bytes → Bool) : Prop :=
  ∀ (context : SocketCommandInvocationContext Value) (world : H.World),
    (H.policy policy context world).1.success = verdict context.invocation.path

omit [SizeWidth] in
/-- The structured request that is written for a path is shown to the policy with this path. -/
theorem decodeRequest_path {source : SocketCommandInvocationContext Value} {payload : Bytes}
    (hpath : source.invocation.path ≠ []) (hencode : encodeRequest source = some payload)
    (target : SocketCommandInvocationContext Value) :
    ∃ context, decodeRequest payload target = some context ∧
      context.invocation.path = source.invocation.path := by
  have hwithin : WithinLimits source.invocation :=
    (encodeRequest_isSome_iff source).mp (hencode ▸ rfl)
  have hpayload : payload = (fieldsOf source).bytes := by
    rw [encodeRequest_within hwithin, encodedRequest_eq] at hencode
    exact (Option.some.inj hencode).symm
  rw [hpayload]
  exact ⟨_, decodeRequest_written hpath hwithin target, rfl⟩

/-- Of a line the policy is shown the first component of the command's path, beside the text, and of
a structured request the whole path: the same where the path has one component. -/
theorem policy_sees_first_component (hsplit : SplitsAtSpaces H.tokenize) {path args : List Bytes}
    (hpath : path ≠ []) (hplain : ∀ token ∈ path ++ args, Plain token)
    {source : SocketCommandInvocationContext Value} (hsource : source.invocation.path = path)
    {payload : Bytes} (hencode : encodeRequest source = some payload)
    {s s' : SocketCommandSession H} (hs : s.Guarded policy) (hs' : s'.Guarded policy)
    (x x' : Exterior H) :
    ∃ shown shown' : SocketCommandInvocationContext Value,
      Ruled policy shown (H.policy policy shown x.world).1.success x
        (s.handleLine (lineOf (path ++ args)) x).2.2 ∧
      Ruled policy shown' (H.policy policy shown' x'.world).1.success x'
        (s'.handleStructuredFrame payload x').2.2 ∧
      shown.invocation.path = path.take 1 ∧ shown.invocation.raw = lineOf (path ++ args) ∧
      shown'.invocation.path = path ∧
      (shown.invocation.path = shown'.invocation.path ↔ path.length = 1) ∧
      ∀ verdict, DecidesOnPath policy verdict →
        ((∀ p, verdict p = verdict (p.take 1)) ∨ path.length = 1) →
        (H.policy policy shown x.world).1.success =
          (H.policy policy shown' x'.world).1.success := by
  cases path with
  | nil => exact absurd rfl hpath
  | cons command components =>
    have htrim := trim_lineOf hplain
    have hline : trim (lineOf (command :: components ++ args)) ≠ [] := by
      rw [htrim]
      exact lineOf_ne_nil hplain (List.cons_ne_nil _ _)
    have htokens : H.tokenize (trim (lineOf (command :: components ++ args))) =
        (command :: (components ++ args), []) := by
      rw [htrim]
      exact hsplit _ hplain
    obtain ⟨shown', hdecode, hshown'⟩ := decodeRequest_path
      (by rw [hsource]; exact hpath) hencode { metadata := s'.metadata }
    rw [hsource] at hshown'
    refine ⟨_, shown', SocketCommandSession.handleLine_ruled hs hline htokens x,
      SocketCommandSession.handleStructuredFrame_ruled hs' hdecode x', rfl, htrim, hshown', ?_, ?_⟩
    · rw [hshown']
      simp [SocketCommandSession.lineContext]
    · intro verdict hverdict hfirst
      rw [hverdict, hverdict, hshown']
      rcases hfirst with hfirst | hone
      · exact (hfirst (command :: components)).symm
      · have hnil : components = [] := by simpa using hone
        rw [hnil]
        rfl

omit [SizeWidth]

/-- A tokenizer that knows no quotes. -/
def splitSpaces (line : Bytes) : List Bytes × Bytes :=
  (if line = [] then [] else line.splitOn space, [])

omit [CommandLibrary Value] in
theorem splitsAtSpaces_splitSpaces : SplitsAtSpaces splitSpaces := by
  intro tokens hplain
  by_cases hnil : tokens = []
  · rw [hnil]
    rfl
  · have hspace : ∀ token ∈ tokens, space ∉ token := by
      intro token htoken hmem
      have hfalse := (hplain token htoken).noSpace space hmem
      exact absurd hfalse (by decide)
    rw [splitSpaces, if_neg (lineOf_ne_nil hplain hnil), lineOf,
      List.splitOn_intercalate space hspace hnil]

end

/-- A host whose policy refuses `gpio write` and nothing else. -/
def guardedHost : @CommandHost ScalarValue scalarLibrary :=
  letI := scalarLibrary
  { World := Unit, Registry := Unit, Policy := Unit, Observer := Unit, Writer := Unit
    tokenize := splitSpaces
    invoke := fun _ _ w => ({}, w)
    invokeLine := fun _ _ w => ({}, w)
    policy := fun _ context w =>
      ({ success := context.invocation.path ≠ [text "gpio", text "write"] }, w)
    observe := fun _ _ _ w => w
    write := fun _ _ w => (true, w) }

/-- A session, in either mode, that asks this policy. -/
def guardedSession : @SocketCommandSession ScalarValue scalarLibrary guardedHost SizeWidth.esp32 :=
  letI := scalarLibrary
  letI := SizeWidth.esp32
  { registry := some (), writer := some (), policy := some (), initialized := true }

def gpioWrite : @SocketCommandInvocationContext ScalarValue bytewise :=
  letI := scalarLibrary
  { invocation :=
      { path := [text "gpio", text "write"]
        positional := [.string (text "2"), .string (text "high")] } }

/-- `gpio write 2 high`. -/
def gpioTokens : List Bytes := [text "gpio", text "write"] ++ [text "2", text "high"]

theorem plain_gpioTokens : ∀ token ∈ gpioTokens, Plain token := by
  intro token htoken
  have hcases : token = text "gpio" ∨ token = text "write" ∨ token = text "2" ∨
      token = text "high" := by simpa [gpioTokens] using htoken
  rcases hcases with rfl | rfl | rfl | rfl <;> constructor <;> decide +kernel

theorem guardedSession_guarded :
    letI := scalarLibrary
    letI := SizeWidth.esp32
    guardedSession.Guarded (H := guardedHost) () :=
  letI := scalarLibrary
  letI := SizeWidth.esp32
  ⟨rfl, (), rfl⟩

theorem policy_sees_first_component_gpio :
    letI := scalarLibrary
    letI := SizeWidth.esp32
    ∃ payload shown shown', encodeRequest gpioWrite = some payload ∧
      Ruled (H := guardedHost) () shown true { world := () }
        (guardedSession.handleLine (lineOf gpioTokens) { world := () }).2.2 ∧
      Ruled (H := guardedHost) () shown' false { world := () }
        (guardedSession.handleStructuredFrame payload { world := () }).2.2 := by
  let := scalarLibrary
  let := SizeWidth.esp32
  obtain ⟨payload, hencode⟩ := Option.isSome_iff_exists.mp
    (show (encodeRequest gpioWrite).isSome = true by decide)
  obtain ⟨shown, shown', hline, hframe, hpath, -, hpath', -⟩ :=
    policy_sees_first_component (H := guardedHost) splitsAtSpaces_splitSpaces
      (List.cons_ne_nil _ _) plain_gpioTokens
      (rfl : gpioWrite.invocation.path = _) hencode guardedSession_guarded guardedSession_guarded
      { world := () } { world := () }
  have hallowed : (guardedHost.policy () shown ()).1.success = true := by
    show decide (shown.invocation.path ≠ [text "gpio", text "write"]) = true
    rw [hpath]
    decide
  have hdenied : (guardedHost.policy () shown' ()).1.success = false := by
    show decide (shown'.invocation.path ≠ [text "gpio", text "write"]) = false
    rw [hpath']
    decide
  rw [hallowed] at hline
  rw [hdenied] at hframe
  exact ⟨payload, shown, shown', hencode, hline, hframe⟩

/-- A policy that refuses `gpio write` refuses it as a structured request and lets it run as a
line, of which it is shown `gpio` alone. -/
theorem subcommand_allowed_as_line :
    letI := scalarLibrary
    letI := SizeWidth.esp32
    SplitsAtSpaces guardedHost.tokenize ∧
    DecidesOnPath (H := guardedHost) () (fun path => path ≠ [text "gpio", text "write"]) ∧
    ∃ payload shown shown', encodeRequest gpioWrite = some payload ∧
      Ruled (H := guardedHost) () shown true { world := () }
        (guardedSession.handleLine (lineOf gpioTokens) { world := () }).2.2 ∧
      Ruled (H := guardedHost) () shown' false { world := () }
        (guardedSession.handleStructuredFrame payload { world := () }).2.2 ∧
      shown.invocation.path = [text "gpio"] ∧
      shown'.invocation.path = [text "gpio", text "write"] := by
  let := scalarLibrary
  let := SizeWidth.esp32
  have htrim := trim_lineOf plain_gpioTokens
  have hline : trim (lineOf gpioTokens) ≠ [] := by
    rw [htrim]
    exact lineOf_ne_nil plain_gpioTokens (List.cons_ne_nil _ _)
  have htokens : guardedHost.tokenize (trim (lineOf gpioTokens)) =
      (text "gpio" :: [text "write", text "2", text "high"], []) := by
    rw [htrim]
    exact splitsAtSpaces_splitSpaces _ plain_gpioTokens
  obtain ⟨payload, hencode⟩ := Option.isSome_iff_exists.mp
    (show (encodeRequest gpioWrite).isSome = true by decide)
  obtain ⟨shown', hdecode, hshown'⟩ := decodeRequest_path
    (show gpioWrite.invocation.path ≠ [] by decide) hencode { metadata := guardedSession.metadata }
  have hframe := SocketCommandSession.handleStructuredFrame_ruled guardedSession_guarded hdecode
    { world := () }
  have hdenied : (guardedHost.policy () shown' ()).1.success = false := by
    show decide (shown'.invocation.path ≠ [text "gpio", text "write"]) = false
    rw [hshown']
    decide
  rw [hdenied] at hframe
  have hruled := SocketCommandSession.handleLine_ruled guardedSession_guarded hline htokens
    { world := () }
  exact ⟨splitsAtSpaces_splitSpaces, fun _ _ => rfl, payload,
    guardedSession.lineContext (text "gpio") (trim (lineOf gpioTokens)), shown', hencode, hruled,
    hframe, rfl, hshown'⟩

end Sockets.Command
