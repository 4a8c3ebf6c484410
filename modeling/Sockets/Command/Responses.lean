import Sockets.Command.Lines
import Sockets.Foundation.Run

/-! Line mode: how a client tells the responses apart. -/
namespace Sockets.Command
open Foundation

variable {Value : Type} [CommandLibrary Value] {H : CommandHost Value}

theorem digit_ne_lf {c : Char} (h : c.isDigit = true) : UInt8.ofNat c.toNat ≠ lf := by
  intro hlf
  have hbounds : 48 ≤ c.toNat ∧ c.toNat ≤ 57 := by
    simpa [Char.isDigit, UInt32.le_iff_toNat_le] using h
  have hvalue := congrArg UInt8.toNat hlf
  rw [UInt8.toNat_ofNat', Nat.mod_eq_of_lt (by omega)] at hvalue
  change c.toNat = 10 at hvalue
  omega

theorem lf_notMem_digits (n : ℕ) : lf ∉ text n.repr := by
  simp only [text, Nat.toList_repr, List.mem_map, not_exists, not_and]
  exact fun c hc => digit_ne_lf (Nat.isDigit_of_mem_toDigits (by decide) (by decide) hc)

theorem lf_notMem_code (code : ℤ) : lf ∉ text (toString code) := by
  cases code with
  | ofNat n => exact lf_notMem_digits n
  | negSucc n =>
    have hsign : text (toString (Int.negSucc n)) = text "-" ++ text (n + 1).repr := by
      change text ("-" ++ (n + 1).repr) = _
      simp [text]
    rw [hsign, List.mem_append, not_or]
    exact ⟨by decide, lf_notMem_digits (n + 1)⟩

/-- Only the message can bring a line feed into a record. -/
theorem lf_mem_lineRecord (result : CommandResult) :
    lf ∈ lineRecord result ↔ lf ∈ result.message := by
  have hstatus : lf ∉ text (if result.success then "OK " else "ERR ") := by
    cases result.success <;> decide
  have hspace : lf ∉ text " " := by decide
  unfold lineRecord
  rw [List.mem_append, List.mem_append, or_iff_right (not_or.mpr ⟨hstatus, lf_notMem_code _⟩)]
  split_ifs with hempty
  · rw [hempty]
  · rw [List.mem_append, or_iff_right hspace]

theorem lineRecord_head (result : CommandResult) :
    text "OK " <+: lineRecord result ∨ text "ERR " <+: lineRecord result := by
  unfold lineRecord
  rw [List.append_assoc]
  cases result.success with
  | true => exact .inl (List.prefix_append _ _)
  | false => exact .inr (List.prefix_append _ _)

/-- A request that is answered; blank lines can be ignored. -/
def LineRequest.isHandled [SizeWidth] (config : SocketCommandSessionConfig) : LineRequest → Bool
  | .line segment => !(trim segment = [] ∧ config.ignoreEmptyLines)
  | .overlong => true

/-- What can happen to a session that has been initialised. -/
inductive SessionAction (H : CommandHost Value) where
  | feed (chunk : Bytes)
  | setMetadata (metadata : SocketCommandMetadata)
  | setPolicy (policy : Option H.Policy)
  | setResultObserver (observer : Option H.Observer)
  | resetInput
  | shutdown

/-- A session in line mode and what is outside it, with the requests it has handled and the results
they were answered with. -/
structure Conversation (H : CommandHost Value) [SizeWidth] where
  session : SocketCommandSession H
  exterior : Exterior H
  requests : List LineRequest := []
  answers : List CommandResult := []

namespace Conversation
open SocketCommandSession
variable [SizeWidth]

/-- The requests that a chunk brings. -/
def arriving (chunk : Bytes) (c : Conversation H) : List LineRequest :=
  if c.session.initialized then (cutLines c.session.config c.session.kept chunk).1 else []

def step (c : Conversation H) : SessionAction H → Conversation H
  | .feed chunk =>
    let r := c.session.feed chunk c.exterior
    { session := r.2.1
      exterior := r.2.2
      requests := c.requests ++
        (c.arriving chunk).filter (LineRequest.isHandled c.session.config)
      answers := c.answers ++
        c.session.answers (true, c.session.metadata, c.exterior) (c.arriving chunk) }
  | .setMetadata metadata => { c with session := c.session.setMetadata metadata }
  | .setPolicy policy => { c with session := c.session.setPolicy policy }
  | .setResultObserver observer => { c with session := c.session.setResultObserver observer }
  | .resetInput => { c with session := c.session.resetInput }
  | .shutdown => { c with session := c.session.shutdown }

/-- The bytes handed to the writer. -/
def output (c : Conversation H) : Bytes := c.exterior.log.flatMap CommandEvent.output

/-- Cut at the line feeds, the output is one record for each request, in order. -/
structure Paired (c : Conversation H) : Prop where
  count : (completed lf c.output).length = c.requests.length
  records : completed lf c.output = c.answers.map lineRecord
  heads : ∀ record ∈ completed lf c.output, text "OK " <+: record ∨ text "ERR " <+: record

/-- What holds throughout a conversation. -/
structure Orderly (c : Conversation H) : Prop where
  ready : c.session.initialized = true →
    c.session.config.mode = .line ∧ c.session.writer ≠ none ∧ c.session.registry ≠ none
  discarding : c.session.discardUntilNewline = true → c.session.line = []
  output : c.output = (c.answers.map lineResponse).flatten
  count : c.answers.length = c.requests.length

/-- A line is answered unless it is blank and blank lines are ignored. -/
theorem isSome_answerLine {s : SocketCommandSession H} (hregistry : s.registry ≠ none)
    (line : Bytes) (x : Exterior H) :
    (s.answerLine line x).1.isSome = LineRequest.isHandled s.config (.line line) := by
  obtain ⟨registry, hsome⟩ := Option.ne_none_iff_exists'.mp hregistry
  unfold answerLine LineRequest.isHandled
  rw [hsome]
  dsimp only
  by_cases hempty : trim line = [] ∧ s.config.ignoreEmptyLines = true
  · rw [if_pos hempty]
    simp [hempty]
  · rw [if_neg hempty]
    simp only [hempty, decide_false, Bool.not_false]
    split_ifs
    · rfl
    · cases (H.tokenize (trim line)).1 with
      | nil => rfl
      | cons command arguments =>
        cases s.policy with
        | none => rfl
        | some policy =>
          dsimp only
          split_ifs <;> rfl

theorem length_answered {s : SocketCommandSession H} (hregistry : s.registry ≠ none)
    (t : Bool × SocketCommandMetadata × Exterior H) (request : LineRequest) :
    (s.answered t request).toList.length =
      ([request].filter (LineRequest.isHandled s.config)).length := by
  have hsome : (s.answered t request).isSome = LineRequest.isHandled s.config request := by
    cases request with
    | overlong => rfl
    | line line => exact isSome_answerLine (s := { s with metadata := t.2.1 }) hregistry line t.2.2
  cases h : s.answered t request with
  | none =>
    rw [h] at hsome
    simp [← hsome]
  | some result =>
    rw [h] at hsome
    simp [← hsome]

theorem length_answers {s : SocketCommandSession H} (hregistry : s.registry ≠ none)
    (requests : List LineRequest) (t : Bool × SocketCommandMetadata × Exterior H) :
    (s.answers t requests).length =
      (requests.filter (LineRequest.isHandled s.config)).length := by
  induction requests generalizing t with
  | nil => rfl
  | cons request requests ih =>
    rw [SocketCommandSession.answers, List.length_append, ih, length_answered hregistry,
      ← List.length_append, ← List.filter_append, List.singleton_append]

/-- A session in order is one that keeps what it keeps. -/
theorem keep_kept {s : SocketCommandSession H}
    (h : s.discardUntilNewline = true → s.line = []) : s.keep s.kept s.metadata = s := by
  obtain ⟨registry, config, metadata, writer, policy, observer, line, structured, discard,
    expected, initialized⟩ := s
  cases discard with
  | false => rfl
  | true =>
    have hline : line = [] := h rfl
    rw [hline]
    rfl

theorem keep_line {request : LineRequest} {metadata : SocketCommandMetadata}
    {s : SocketCommandSession H} (h : (s.keep request metadata).discardUntilNewline = true) :
    (s.keep request metadata).line = [] := by
  cases request with
  | line part => cases h
  | overlong => rfl

/-- `Feed` serves the requests that the chunk brings. -/
theorem feed_eq {c : Conversation H} (h : c.Orderly) (hinit : c.session.initialized = true)
    (chunk : Bytes) :
    let cut := cutLines c.session.config c.session.kept chunk
    let t := cut.1.foldl c.session.serve (true, c.session.metadata, c.exterior)
    c.session.feed chunk c.exterior = (!cut.2.2 && t.1, c.session.keep cut.2.1 t.2.1, t.2.2) := by
  have hfeed := feedLine_eq c.session chunk c.session.kept true c.session.metadata c.exterior
  rw [keep_kept h.discarding] at hfeed
  simp only [feed, hinit, (h.ready hinit).1, Bool.not_true, Bool.false_eq_true, if_false]
  exact hfeed

theorem Orderly.feed {c : Conversation H} (h : c.Orderly) (chunk : Bytes) :
    (c.step (.feed chunk)).Orderly := by
  by_cases hinit : c.session.initialized = true
  · obtain ⟨hmode, hwriter, hregistry⟩ := h.ready hinit
    obtain ⟨writer, hsome⟩ := Option.ne_none_iff_exists'.mp hwriter
    obtain ⟨calls, hlog, -, hout⟩ := serves_log hsome hregistry
      (cutLines c.session.config c.session.kept chunk).1
      (true, c.session.metadata, c.exterior)
    have hcount := length_answers hregistry
      (cutLines c.session.config c.session.kept chunk).1 (true, c.session.metadata, c.exterior)
    have hoccurred := h.output
    simp only [Conversation.output] at hoccurred
    simp only [Conversation.step, feed_eq h hinit, arriving, hinit, if_true]
    constructor
    · intro _
      rw [keep_config]
      refine ⟨hmode, ?_, ?_⟩
      · unfold keep
        split <;> exact hwriter
      · unfold keep
        split <;> exact hregistry
    · exact keep_line
    · simp only [Conversation.output]
      rw [hlog, List.flatMap_append, hoccurred, hout, List.map_append, List.flatten_append]
    · rw [List.length_append, List.length_append, h.count, hcount]
  · have hfeed : c.session.feed chunk c.exterior = (false, c.session, c.exterior) := by
      simp [SocketCommandSession.feed, hinit]
    simp only [Conversation.step, hfeed, arriving, hinit]
    exact ⟨h.ready, h.discarding, by simpa [SocketCommandSession.answers] using h.output,
      by simpa [SocketCommandSession.answers] using h.count⟩

theorem Orderly.step {c : Conversation H} (h : c.Orderly) (a : SessionAction H) :
    (c.step a).Orderly := by
  cases a with
  | feed chunk => exact h.feed chunk
  | setMetadata metadata => exact ⟨h.ready, h.discarding, h.output, h.count⟩
  | setPolicy policy => exact ⟨h.ready, h.discarding, h.output, h.count⟩
  | setResultObserver observer => exact ⟨h.ready, h.discarding, h.output, h.count⟩
  | resetInput => exact ⟨h.ready, fun _ => rfl, h.output, h.count⟩
  | shutdown => exact ⟨fun hinit => absurd hinit Bool.false_ne_true, fun _ => rfl, h.output, h.count⟩

/-- A session as it is when a conversation starts. -/
def start (registry : H.Registry) (config : SocketCommandSessionConfig)
    (metadata : SocketCommandMetadata) (writer : H.Writer) (world : H.World) : Conversation H :=
  { session := (initializeWith registry config metadata (some writer) {}).2, exterior := { world } }

theorem orderly_start (registry : H.Registry) {config : SocketCommandSessionConfig}
    (hmode : config.mode = .line) (metadata : SocketCommandMetadata) (writer : H.Writer)
    (world : H.World) : (start registry config metadata writer world).Orderly := by
  have hsession : (start registry config metadata writer world).session.initialized = true →
      config.mode = .line := fun _ => hmode
  unfold start initializeWith
  dsimp only
  split_ifs
  · exact ⟨fun hinit => absurd hinit Bool.false_ne_true, fun _ => rfl, rfl, rfl⟩
  · exact ⟨fun _ => ⟨hmode, Option.some_ne_none _, Option.some_ne_none _⟩, fun _ => rfl, rfl, rfl⟩

/-- In a conversation in line mode the output is one record for each request exactly when no result
that a request was answered with has a line feed in its message. -/
theorem responses_pair_iff (registry : H.Registry) (config : SocketCommandSessionConfig)
    (hmode : config.mode = .line) (metadata : SocketCommandMetadata) (writer : H.Writer)
    (world : H.World) (actions : List (SessionAction H)) :
    let c := run step (start registry config metadata writer world) actions
    c.Paired ↔ ∀ result ∈ c.answers, lf ∉ result.message := by
  intro c
  have h : c.Orderly := run_induction (P := Orderly) (fun _ a h => h.step a)
    (orderly_start registry hmode metadata writer world) actions
  have houtput : c.output = ((c.answers.map lineRecord).map (· ++ [lf])).flatten := by
    rw [h.output, List.map_map]
    rfl
  have hiff : completed lf c.output = c.answers.map lineRecord ↔
      ∀ result ∈ c.answers, lf ∉ result.message := by
    rw [houtput, completed_flatten_iff, List.forall_mem_map]
    exact forall₂_congr fun result _ => not_congr (lf_mem_lineRecord result)
  constructor
  · exact fun hpaired => hiff.mp hpaired.records
  · intro hfree
    have hrecords := hiff.mpr hfree
    constructor
    · rw [hrecords, List.length_map, h.count]
    · exact hrecords
    · rw [hrecords, List.forall_mem_map]
      exact fun result _ => lineRecord_head result

end Conversation

/-- A host whose registry answers every line with the same message. -/
@[reducible] def tellingHost (message : Bytes) : @CommandHost ScalarValue scalarLibrary :=
  letI := scalarLibrary
  { directHost with invokeLine := fun _ _ w => ({ message }, w) }

/-- A session in line mode that is fed one request. -/
def oneLine (message : Bytes) :
    @Conversation ScalarValue scalarLibrary (tellingHost message) SizeWidth.host :=
  letI := scalarLibrary
  letI := SizeWidth.host
  run Conversation.step (Conversation.start (H := tellingHost message) () {} {} () ())
    [.feed (text "system status\r\n")]

theorem responses_pair_line :
    letI := scalarLibrary
    letI := SizeWidth.host
    (oneLine (text "System OK")).Paired := by
  let := scalarLibrary
  let := SizeWidth.host
  exact (Conversation.responses_pair_iff (H := tellingHost (text "System OK")) () {} rfl {} () ()
    [.feed (text "system status\r\n")]).mpr (by decide +kernel)

/-- One request, answered with a message of two lines. -/
theorem response_of_two_lines :
    letI := scalarLibrary
    letI := SizeWidth.host
    let c := oneLine (text "uptime 12\nclients 3")
    c.requests = [.line (text "system status")] ∧
      completed lf c.output = [text "OK 0 uptime 12", text "clients 3"] ∧ ¬ c.Paired := by
  let := scalarLibrary
  let := SizeWidth.host
  have hrecords : completed lf (oneLine (text "uptime 12\nclients 3")).output =
      [text "OK 0 uptime 12", text "clients 3"] := by decide +kernel
  refine ⟨by decide +kernel, hrecords, fun hpaired => ?_⟩
  have hcount := hpaired.count
  rw [hrecords] at hcount
  exact absurd hcount (by decide +kernel)

end Sockets.Command
