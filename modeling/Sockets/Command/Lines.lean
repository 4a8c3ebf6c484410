import Sockets.Command.Pipeline
import Sockets.Foundation.Segments

/-! Line mode: what a stream cut into chunks in any way is taken for. -/
namespace Sockets.Command
open Foundation

variable {Value : Type} [CommandLibrary Value] {H : CommandHost Value}

/-- A line as a session keeps it: its bytes, or only that there were too many of them. -/
inductive LineRequest where
  | line (request : Bytes)
  | overlong
  deriving DecidableEq

/-- A segment of the stream, as a session keeps it. -/
def lineRequest (maximum : ℕ) (segment : Bytes) : LineRequest :=
  if maximum < segment.length then .overlong else .line segment

/-- One more byte of a line. -/
def LineRequest.grow (maximum : ℕ) (c : UInt8) : LineRequest → LineRequest
  | .line part => if maximum ≤ part.length then .overlong else .line (part ++ [c])
  | .overlong => .overlong

theorem grow_lineRequest (maximum : ℕ) (part : Bytes) (c : UInt8) :
    (lineRequest maximum part).grow maximum c = lineRequest maximum (part ++ [c]) := by
  unfold lineRequest
  rw [List.length_append, List.length_singleton]
  split_ifs with hlong hmore
  · rfl
  · omega
  · exact if_pos (by omega)
  · exact if_neg (by omega)

/-- The requests in a chunk, with what was kept of a line before it and what is kept behind it, and
whether an overlong line has ended the call. -/
def cutLines [SizeWidth] (config : SocketCommandSessionConfig) :
    LineRequest → Bytes → List LineRequest × LineRequest × Bool
  | kept, [] => ([], kept, false)
  | kept, c :: data =>
    if c = cr then cutLines config kept data
    else if c = lf then
      if kept = .overlong ∧ config.disconnectOnProtocolError then ([.overlong], .line [], true)
      else
        let r := cutLines config (.line []) data
        (kept :: r.1, r.2)
    else cutLines config (kept.grow config.maximumRequestBytes.val c) data

/-- As long as overlong lines do not end a call, the requests are the segments between the line
feeds, with every carriage return deleted. -/
theorem cutLines_eq [SizeWidth] {config : SocketCommandSessionConfig}
    (hcontinue : config.disconnectOnProtocolError = false) {part : Bytes} (hpart : lf ∉ part)
    (data : Bytes) :
    cutLines config (lineRequest config.maximumRequestBytes.val part) data =
      ((completed lf (part ++ data.filter (· ≠ cr))).map
        (lineRequest config.maximumRequestBytes.val),
        lineRequest config.maximumRequestBytes.val
          (unfinished lf (part ++ data.filter (· ≠ cr))), false) := by
  induction data generalizing part with
  | nil => simp [cutLines, completed_of_notMem hpart, unfinished_of_notMem hpart]
  | cons c data ih =>
    unfold cutLines
    split_ifs with hcr hlf hstop
    · rw [ih hpart, List.filter_cons_of_neg (by simpa using hcr)]
    · rw [hcontinue] at hstop
      cases hstop.2
    · subst hlf
      have hnone : LineRequest.line [] = lineRequest config.maximumRequestBytes.val [] :=
        (if_neg (Nat.not_lt_zero _)).symm
      rw [List.filter_cons_of_pos (by simpa using hcr), completed_append_cons hpart,
        unfinished_append_cons hpart, hnone, ih List.not_mem_nil]
      rfl
    · have hmore : lf ∉ part ++ [c] := by
        simp only [List.mem_append, List.mem_singleton, not_or]
        exact ⟨hpart, fun h => hlf h.symm⟩
      rw [grow_lineRequest, ih hmore, List.filter_cons_of_pos (by simpa using hcr),
        List.append_assoc, List.singleton_append]

/-- A response without the line feed behind it. -/
def lineRecord (result : CommandResult) : Bytes :=
  text (if result.success then "OK " else "ERR ") ++ text (toString result.code.toInt) ++
    (if result.message = [] then [] else text " " ++ result.message)

/-- A request is answered with one write of one record, or with nothing. -/
def Exterior.answer (writer : H.Writer) (result : Option CommandResult) (x : Exterior H) :
    Exterior H :=
  match result with
  | none => x
  | some result =>
    let record := lineRecord result ++ [lf]
    let r := H.write writer record x.world
    { world := r.2, log := x.log ++ [.wrote writer record r.1] }

/-- Every call is made on both sides alike, and satisfies `P`. -/
def Together (P : CommandEvent H → Prop) (x y x' y' : Exterior H) : Prop :=
  x'.world = y'.world ∧
    ∃ calls, x'.log = x.log ++ calls ∧ y'.log = y.log ++ calls ∧ ∀ e ∈ calls, P e

section Together
variable {P : CommandEvent H → Prop} {x y x' y' x'' y'' : Exterior H}

theorem Together.refl (h : x.world = y.world) : Together P x y x y :=
  ⟨h, [], by simp, by simp, by simp⟩

theorem Together.trans (h : Together P x y x' y') (h' : Together P x' y' x'' y'') :
    Together P x y x'' y'' := by
  obtain ⟨-, calls, hx, hy, hP⟩ := h
  obtain ⟨hworld, calls', hx', hy', hP'⟩ := h'
  refine ⟨hworld, calls ++ calls', by rw [hx', hx, List.append_assoc],
    by rw [hy', hy, List.append_assoc], fun e he => ?_⟩
  exact (List.mem_append.mp he).elim (hP e) (hP' e)

end Together

/-- A call of something other than the writer. -/
def CommandEvent.IsQuestion : CommandEvent H → Prop
  | .policyCalled _ _ _ | .invokedLine _ _ | .invoked _ _ | .observed _ _ _ => True
  | .received _ | .wrote _ _ _ | .handled => False

/-- The bytes handed to the writer. -/
def CommandEvent.output : CommandEvent H → Bytes
  | .wrote _ bytes _ => bytes
  | _ => []

/-- A write that was not accepted. -/
def CommandEvent.failed : CommandEvent H → Bool
  | .wrote _ _ accepted => !accepted
  | _ => false

/-- Questions write nothing. -/
theorem questions_quiet {calls : List (CommandEvent H)} (h : ∀ e ∈ calls, e.IsQuestion) :
    calls.all (fun e => !e.failed) = true ∧ calls.flatMap CommandEvent.output = [] := by
  have hquiet (e : CommandEvent H) (he : e.IsQuestion) : e.failed = false ∧ e.output = [] := by
    cases e <;> first | exact ⟨rfl, rfl⟩ | cases he
  constructor
  · exact List.all_eq_true.mpr fun e he => by rw [(hquiet e (h e he)).1]; rfl
  · exact List.flatMap_eq_nil_iff.mpr fun e he => (hquiet e (h e he)).2

theorem all_accepted_iff (calls : List (CommandEvent H)) :
    calls.all (fun e => !e.failed) = true ↔
      ∀ writer bytes, CommandEvent.wrote writer bytes false ∉ calls := by
  rw [List.all_eq_true]
  constructor
  · intro hall writer bytes hmem
    simpa [CommandEvent.failed] using hall _ hmem
  · intro hnone e he
    cases e with
    | wrote writer bytes accepted =>
      cases accepted with
      | true => rfl
      | false => exact absurd he (hnone writer bytes)
    | _ => rfl

section Calls
variable {x y : Exterior H}

theorem together_policy (h : x.world = y.world) (policy : H.Policy)
    (context : SocketCommandInvocationContext Value) :
    (x.callPolicy policy context).1 = (y.callPolicy policy context).1 ∧
      Together CommandEvent.IsQuestion x y (x.callPolicy policy context).2
        (y.callPolicy policy context).2 := by
  unfold Exterior.callPolicy
  rw [h]
  exact ⟨rfl, rfl, [_], rfl, rfl, by simp [CommandEvent.IsQuestion]⟩

theorem together_invokeLine (h : x.world = y.world) (registry : H.Registry) (line : Bytes) :
    (x.invokeLine registry line).1 = (y.invokeLine registry line).1 ∧
      Together CommandEvent.IsQuestion x y (x.invokeLine registry line).2
        (y.invokeLine registry line).2 := by
  unfold Exterior.invokeLine
  rw [h]
  exact ⟨rfl, rfl, [_], rfl, rfl, by simp [CommandEvent.IsQuestion]⟩

theorem together_observe (h : x.world = y.world) (observer : Option H.Observer)
    (context : SocketCommandInvocationContext Value) (result : CommandResult) :
    Together CommandEvent.IsQuestion x y (x.observe observer context result)
      (y.observe observer context result) := by
  cases observer with
  | none => exact .refl h
  | some observer =>
    unfold Exterior.observe
    rw [h]
    exact ⟨rfl, [_], rfl, rfl, by simp [CommandEvent.IsQuestion]⟩

end Calls

namespace SocketCommandSession
variable [SizeWidth]

/-- `HandleLine` up to its response: the result it answers with, if it answers, and the metadata it
leaves. -/
def answerLine (line : Bytes) (s : SocketCommandSession H) (x : Exterior H) :
    Option CommandResult × SocketCommandMetadata × Exterior H :=
  let line := trim line
  if line = [] ∧ s.config.ignoreEmptyLines then (none, s.metadata, x)
  else
    let metadata := { s.metadata with requestID := s.metadata.requestID + 1 }
    let tokens := H.tokenize line
    if tokens.2 ≠ [] then (some (CommandLibrary.error Value tokens.2), metadata, x)
    else
      match tokens.1 with
      | [] => (some (CommandLibrary.error Value (text "No command supplied")), metadata, x)
      | command :: _ =>
        let context : SocketCommandInvocationContext Value :=
          { invocation := { path := [command], raw := line }, metadata }
        let run (x : Exterior H) :=
          match s.registry with
          | none => (none, metadata, x)
          | some registry =>
            let r := x.invokeLine registry line
            (some r.1, metadata, r.2.observe s.observer context r.1)
        match s.policy with
        | none => run x
        | some policy =>
          let verdict := x.callPolicy policy context
          if !verdict.1.success then
            (some verdict.1, metadata, verdict.2.observe s.observer context verdict.1)
          else run verdict.2

/-- The response to a request that is answered. -/
def respond (s : SocketCommandSession H)
    (r : Option CommandResult × SocketCommandMetadata × Exterior H) :
    Bool × SocketCommandMetadata × Exterior H :=
  match r.1 with
  | none => (true, r.2.1, r.2.2)
  | some result =>
    let w := s.writeLineResult result r.2.2
    (w.1, r.2.1, w.2)

theorem handleLine_eq {s : SocketCommandSession H} (hregistry : s.registry ≠ none) (line : Bytes)
    (x : Exterior H) : s.handleLine line x = s.respond (s.answerLine line x) := by
  obtain ⟨registry, hsome⟩ := Option.ne_none_iff_exists'.mp hregistry
  unfold handleLine answerLine
  rw [hsome]
  dsimp only
  split_ifs with hempty herror
  · rfl
  · rfl
  · cases (H.tokenize (trim line)).1 with
    | nil => rfl
    | cons command arguments =>
      cases s.policy with
      | none => rfl
      | some policy =>
        dsimp only
        split_ifs <;> rfl

/-- What `HandleLine` answers depends on the world alone, and it asks before it answers. -/
theorem together_answerLine {x y : Exterior H} (h : x.world = y.world) (line : Bytes)
    (s : SocketCommandSession H) :
    (s.answerLine line x).1 = (s.answerLine line y).1 ∧
      (s.answerLine line x).2.1 = (s.answerLine line y).2.1 ∧
      Together CommandEvent.IsQuestion x y (s.answerLine line x).2.2
        (s.answerLine line y).2.2 := by
  unfold answerLine
  dsimp only
  split_ifs with hempty herror
  · exact ⟨rfl, rfl, .refl h⟩
  · exact ⟨rfl, rfl, .refl h⟩
  · cases (H.tokenize (trim line)).1 with
    | nil => exact ⟨rfl, rfl, .refl h⟩
    | cons command arguments =>
      generalize hcontext : ({ invocation := { path := [command], raw := trim line }
                               metadata := { s.metadata with
                                 requestID := s.metadata.requestID + 1 } } :
        SocketCommandInvocationContext Value) = context
      have hrun {x y : Exterior H} (h : x.world = y.world) (registry : H.Registry) :
          (x.invokeLine registry (trim line)).1 = (y.invokeLine registry (trim line)).1 ∧
            Together CommandEvent.IsQuestion x y
              ((x.invokeLine registry (trim line)).2.observe s.observer context
                (x.invokeLine registry (trim line)).1)
              ((y.invokeLine registry (trim line)).2.observe s.observer context
                (y.invokeLine registry (trim line)).1) := by
        obtain ⟨hresult, hcalls⟩ := together_invokeLine h registry (trim line)
        refine ⟨hresult, hcalls.trans ?_⟩
        rw [hresult]
        exact together_observe hcalls.1 _ _ _
      cases s.policy with
      | none =>
        cases s.registry with
        | none => exact ⟨rfl, rfl, .refl h⟩
        | some registry =>
          obtain ⟨hresult, hcalls⟩ := hrun h registry
          dsimp only
          rw [hcontext]
          exact ⟨congrArg some hresult, rfl, hcalls⟩
      | some policy =>
        obtain ⟨hverdict, hasked⟩ := together_policy h policy context
        dsimp only
        rw [hcontext, hverdict]
        split_ifs
        · exact ⟨rfl, rfl, hasked.trans (together_observe hasked.1 _ _ _)⟩
        · cases s.registry with
          | none => exact ⟨rfl, rfl, hasked⟩
          | some registry =>
            obtain ⟨hresult, hcalls⟩ := hrun hasked.1 registry
            exact ⟨congrArg some hresult, rfl, hasked.trans hcalls⟩

/-- What is kept of the line that is being read. -/
def kept (s : SocketCommandSession H) : LineRequest :=
  if s.discardUntilNewline then .overlong else .line s.line

/-- A session that keeps `request` of a line. -/
def keep (request : LineRequest) (metadata : SocketCommandMetadata) (s : SocketCommandSession H) :
    SocketCommandSession H :=
  match request with
  | .line part => { s with line := part, discardUntilNewline := false, metadata }
  | .overlong => { s with line := [], discardUntilNewline := true, metadata }

@[simp] theorem keep_config (request : LineRequest) (metadata : SocketCommandMetadata)
    (s : SocketCommandSession H) : (s.keep request metadata).config = s.config := by
  cases request <;> rfl

@[simp] theorem keep_initialized (request : LineRequest) (metadata : SocketCommandMetadata)
    (s : SocketCommandSession H) : (s.keep request metadata).initialized = s.initialized := by
  cases request <;> rfl

/-- The response to a request found in the stream. -/
def serve (s : SocketCommandSession H) (t : Bool × SocketCommandMetadata × Exterior H) :
    LineRequest → Bool × SocketCommandMetadata × Exterior H
  | .overlong =>
    let w := s.writeLineResult (CommandLibrary.error Value tooLong) t.2.2
    (w.1 && t.1, t.2.1, w.2)
  | .line line =>
    let r := during line ({ s with metadata := t.2.1 }.handleLine line) t.2.2
    (r.1 && t.1, r.2)

/-- `FeedLine` serves the requests it cuts out of the chunk. -/
theorem feedLine_eq (s : SocketCommandSession H) (data : Bytes) (request : LineRequest)
    (success : Bool) (metadata : SocketCommandMetadata) (x : Exterior H) :
    feedLine data success (s.keep request metadata) x =
      let c := cutLines s.config request data
      let t := c.1.foldl s.serve (success, metadata, x)
      (!c.2.2 && t.1, s.keep c.2.1 t.2.1, t.2.2) := by
  induction data generalizing request success metadata x with
  | nil => rfl
  | cons c data ih =>
    unfold feedLine cutLines
    by_cases hcr : c = cr
    · simp only [if_pos hcr, ih]
    · simp only [if_neg hcr]
      by_cases hlf : c = lf
      · simp only [if_pos hlf]
        cases request with
        | overlong =>
          by_cases hstop : s.config.disconnectOnProtocolError = true
          · simp only [keep, hstop]
            rfl
          · simp only [keep_config, hstop, Bool.false_eq_true, and_false, if_false]
            exact ih (.line []) _ metadata _
        | line part =>
          simp only [reduceCtorEq, false_and, if_false, List.foldl_cons]
          exact ih (.line []) _ _ _
      · simp only [if_neg hlf]
        rw [← ih]
        cases request with
        | overlong => rfl
        | line part =>
          simp only [keep, LineRequest.grow, Bool.false_eq_true, if_false]
          by_cases hfull : s.config.maximumRequestBytes.val ≤ part.length
          · simp only [if_pos hfull]
            exact if_pos hfull
          · simp only [if_neg hfull]
            exact if_neg hfull

section Written
variable {s : SocketCommandSession H} {writer : H.Writer}

theorem respond_log (hwriter : s.writer = some writer)
    (r : Option CommandResult × SocketCommandMetadata × Exterior H) :
    ∃ calls, (s.respond r).2.2.log = r.2.2.log ++ calls ∧
      (s.respond r).1 = calls.all (fun e => !e.failed) ∧
      calls.flatMap CommandEvent.output = (r.1.toList.map lineResponse).flatten := by
  unfold respond
  cases r.1 with
  | none => exact ⟨[], (List.append_nil _).symm, rfl, rfl⟩
  | some result =>
    dsimp only
    rw [writeLineResult, hwriter]
    exact ⟨[.wrote writer (lineResponse result) _], rfl, by simp [CommandEvent.failed, Exterior.write],
      by simp [CommandEvent.output]⟩

/-- A line is answered with one write at most, and the answer tells whether it was accepted. -/
theorem handleLine_log (hwriter : s.writer = some writer) (hregistry : s.registry ≠ none)
    (line : Bytes) (x : Exterior H) :
    ∃ calls, (s.handleLine line x).2.2.log = x.log ++ calls ∧
      (s.handleLine line x).1 = calls.all (fun e => !e.failed) ∧
      calls.flatMap CommandEvent.output =
        ((s.answerLine line x).1.toList.map lineResponse).flatten := by
  obtain ⟨-, -, -, asked, hasked, -, hquestions⟩ := together_answerLine (x := x) rfl line s
  obtain ⟨haccepted, hsilent⟩ := questions_quiet hquestions
  obtain ⟨wrote, hwrote, hanswer, houtput⟩ := respond_log hwriter (s.answerLine line x)
  rw [handleLine_eq hregistry]
  refine ⟨asked ++ wrote, ?_, ?_, ?_⟩
  · rw [hwrote, hasked, List.append_assoc]
  · rw [hanswer, List.all_append, haccepted, Bool.true_and]
  · rw [List.flatMap_append, hsilent, List.nil_append, houtput]

end Written

/-- The result that a request found in the stream is answered with, if it is answered. -/
def answered (s : SocketCommandSession H) (t : Bool × SocketCommandMetadata × Exterior H) :
    LineRequest → Option CommandResult
  | .overlong => some (CommandLibrary.error Value tooLong)
  | .line line => ({ s with metadata := t.2.1 }.answerLine line t.2.2).1

/-- A request is answered with one write at most. -/
theorem serve_log {s : SocketCommandSession H} {writer : H.Writer}
    (hwriter : s.writer = some writer) (hregistry : s.registry ≠ none)
    (t : Bool × SocketCommandMetadata × Exterior H) (request : LineRequest) :
    ∃ calls, (s.serve t request).2.2.log = t.2.2.log ++ calls ∧
      (s.serve t request).1 = (calls.all (fun e => !e.failed) && t.1) ∧
      calls.flatMap CommandEvent.output =
        ((s.answered t request).toList.map lineResponse).flatten := by
  cases request with
  | overlong =>
    obtain ⟨calls, hlog, hanswer, houtput⟩ := respond_log hwriter
      (some (CommandLibrary.error Value tooLong), t.2.1, t.2.2)
    exact ⟨calls, hlog, by rw [← hanswer]; rfl, houtput⟩
  | line line =>
    obtain ⟨calls, hlog, hanswer, houtput⟩ := handleLine_log
      (s := { s with metadata := t.2.1 }) hwriter hregistry line (t.2.2.record (.received line))
    have hsame := (together_answerLine (x := t.2.2) (y := t.2.2.record (.received line)) rfl line
      { s with metadata := t.2.1 }).1
    refine ⟨.received line :: calls ++ [.handled], ?_, ?_, ?_⟩
    · simp only [serve, during, Exterior.record, List.cons_append] at hlog ⊢
      rw [hlog]
      simp
    · simp only [serve, during, hanswer]
      simp [CommandEvent.failed]
    · simp only [answered, hsame, ← houtput]
      simp [CommandEvent.output]

/-- The results that requests are answered with, one after another. -/
def answers (s : SocketCommandSession H) : Bool × SocketCommandMetadata × Exterior H →
    List LineRequest → List CommandResult
  | _, [] => []
  | t, request :: requests => (s.answered t request).toList ++ s.answers (s.serve t request) requests

theorem serves_log {s : SocketCommandSession H} {writer : H.Writer}
    (hwriter : s.writer = some writer) (hregistry : s.registry ≠ none)
    (requests : List LineRequest) (t : Bool × SocketCommandMetadata × Exterior H) :
    ∃ calls, (requests.foldl s.serve t).2.2.log = t.2.2.log ++ calls ∧
      (requests.foldl s.serve t).1 = (calls.all (fun e => !e.failed) && t.1) ∧
      calls.flatMap CommandEvent.output = ((s.answers t requests).map lineResponse).flatten := by
  induction requests generalizing t with
  | nil => exact ⟨[], (List.append_nil _).symm, rfl, rfl⟩
  | cons request requests ih =>
    obtain ⟨calls, hlog, hanswer, houtput⟩ := serve_log hwriter hregistry t request
    obtain ⟨calls', hlog', hanswer', houtput'⟩ := ih (s.serve t request)
    refine ⟨calls ++ calls', ?_, ?_, ?_⟩
    · rw [List.foldl_cons, hlog', hlog, List.append_assoc]
    · rw [List.foldl_cons, hanswer', hanswer, List.all_append, Bool.and_left_comm, Bool.and_assoc]
    · rw [List.flatMap_append, houtput, houtput', answers, List.map_append, List.flatten_append]

end SocketCommandSession

/-- A call of a handler, of the registry or of the writer; the others are marks between them. -/
def CommandEvent.isCall : CommandEvent H → Bool
  | .received _ | .handled => false
  | _ => true

/-- The calls that were made. -/
def Exterior.calls (x : Exterior H) : List (CommandEvent H) := x.log.filter CommandEvent.isCall

/-- Two exteriors that the same calls have left alike. -/
def Alike (x y : Exterior H) : Prop := x.world = y.world ∧ x.calls = y.calls

theorem Alike.together {P : CommandEvent H → Prop} {x y x' y' : Exterior H} (h : Alike x y)
    (ht : Together P x y x' y') : Alike x' y' := by
  obtain ⟨hworld, calls, hx, hy, -⟩ := ht
  refine ⟨hworld, ?_⟩
  rw [Exterior.calls, Exterior.calls, hx, hy, List.filter_append, List.filter_append]
  exact congrArg (· ++ _) h.2

theorem Alike.mark {x y : Exterior H} (h : Alike x y) {e : CommandEvent H}
    (he : e.isCall = false) : Alike (x.record e) y := by
  refine ⟨h.1, ?_⟩
  rw [Exterior.calls, Exterior.record, List.filter_append, List.filter_cons_of_neg (by simp [he])]
  exact (List.append_nil _).trans h.2

namespace SocketCommandSession
variable [SizeWidth]

/-- The reference for one segment of the stream: an overlong one is refused, a blank one may be
ignored, and any other is asked about as a whole and answered. -/
def handleSegment (s : SocketCommandSession H) (writer : H.Writer)
    (t : SocketCommandMetadata × Exterior H) (segment : Bytes) :
    SocketCommandMetadata × Exterior H :=
  if s.config.maximumRequestBytes.val < segment.length then
    let refusal := CommandLibrary.error Value (text "Command exceeds maximum request length")
    (t.1, t.2.answer writer (some refusal))
  else if trim segment = [] ∧ s.config.ignoreEmptyLines then t
  else
    let r := { s with metadata := t.1 }.answerLine segment t.2
    (r.2.1, r.2.2.answer writer r.1)

theorem respond_metadata (s : SocketCommandSession H)
    (r : Option CommandResult × SocketCommandMetadata × Exterior H) :
    (s.respond r).2.1 = r.2.1 := by
  unfold respond
  cases r.1 <;> rfl

theorem together_respond {r q : Option CommandResult × SocketCommandMetadata × Exterior H}
    (hanswer : r.1 = q.1) (h : r.2.2.world = q.2.2.world) (s : SocketCommandSession H) :
    Together (fun _ => True) r.2.2 q.2.2 (s.respond r).2.2 (s.respond q).2.2 := by
  unfold respond
  rw [hanswer]
  cases q.1 with
  | none => exact .refl h
  | some result =>
    unfold writeLineResult Exterior.write
    cases s.writer with
    | none => exact .refl h
    | some writer =>
      dsimp only
      rw [h]
      exact ⟨rfl, [_], rfl, rfl, by simp⟩

/-- The response is the record of the result, handed to the writer once. -/
theorem respond_answer {s : SocketCommandSession H} {writer : H.Writer}
    (hwriter : s.writer = some writer)
    (r : Option CommandResult × SocketCommandMetadata × Exterior H) :
    (s.respond r).2 = (r.2.1, r.2.2.answer writer r.1) := by
  unfold respond
  cases r.1 with
  | none => rfl
  | some result =>
    unfold writeLineResult
    rw [hwriter]
    rfl

theorem handleLine_alike {x y : Exterior H} (h : Alike x y) {s : SocketCommandSession H}
    (hregistry : s.registry ≠ none) (line : Bytes) :
    (s.handleLine line x).2.1 = (s.handleLine line y).2.1 ∧
      Alike (s.handleLine line x).2.2 (s.handleLine line y).2.2 := by
  obtain ⟨hanswer, hmetadata, hasked⟩ := together_answerLine h.1 line s
  rw [handleLine_eq hregistry, handleLine_eq hregistry, respond_metadata, respond_metadata]
  exact ⟨hmetadata, (h.together hasked).together (together_respond hanswer hasked.1 s)⟩

/-- A request is served as the reference handles its segment. -/
theorem serve_handleSegment {s : SocketCommandSession H} {writer : H.Writer}
    (hwriter : s.writer = some writer) (hregistry : s.registry ≠ none) (segment : Bytes)
    {t : Bool × SocketCommandMetadata × Exterior H} {u : SocketCommandMetadata × Exterior H}
    (hmetadata : t.2.1 = u.1) (h : Alike t.2.2 u.2) :
    let t' := s.serve t (lineRequest s.config.maximumRequestBytes.val segment)
    let u' := s.handleSegment writer u segment
    t'.2.1 = u'.1 ∧ Alike t'.2.2 u'.2 := by
  unfold handleSegment lineRequest
  split_ifs with hlong hempty
  · have hrefused := together_respond
      (r := (some (CommandLibrary.error Value tooLong), t.2.1, t.2.2))
      (q := (some (CommandLibrary.error Value tooLong), t.2.1, u.2)) rfl h.1 s
    rw [respond_answer hwriter (some _, t.2.1, u.2)] at hrefused
    exact ⟨hmetadata, h.together hrefused⟩
  · have hignored (s : SocketCommandSession H) (x : Exterior H)
        (h : trim segment = [] ∧ s.config.ignoreEmptyLines) :
        s.handleLine segment x = (true, s.metadata, x) := if_pos h
    simp only [serve, during, hignored { s with metadata := t.2.1 } _ hempty]
    exact ⟨hmetadata, (h.mark rfl).mark rfl⟩
  · obtain ⟨hsame, halike⟩ := handleLine_alike (s := { s with metadata := t.2.1 })
      (h.mark (e := .received segment) rfl) hregistry segment
    have hanswered := respond_answer (s := { s with metadata := t.2.1 }) hwriter
      ({ s with metadata := t.2.1 }.answerLine segment u.2)
    rw [← handleLine_eq (s := { s with metadata := t.2.1 }) hregistry] at hanswered
    rw [hanswered] at hsame halike
    dsimp only
    rw [← hmetadata]
    exact ⟨hsame, halike.mark rfl⟩

theorem serves_handleSegments {s : SocketCommandSession H} {writer : H.Writer}
    (hwriter : s.writer = some writer) (hregistry : s.registry ≠ none) (segments : List Bytes)
    {t : Bool × SocketCommandMetadata × Exterior H} {u : SocketCommandMetadata × Exterior H}
    (hmetadata : t.2.1 = u.1) (h : Alike t.2.2 u.2) :
    let t' := (segments.map (lineRequest s.config.maximumRequestBytes.val)).foldl s.serve t
    let u' := segments.foldl (s.handleSegment writer) u
    t'.2.1 = u'.1 ∧ Alike t'.2.2 u'.2 := by
  induction segments generalizing t u with
  | nil => exact ⟨hmetadata, h⟩
  | cons segment segments ih =>
    obtain ⟨hsame, halike⟩ := serve_handleSegment hwriter hregistry segment hmetadata h
    exact ih hsame halike

/-- Every chunk is served as far as it completes segments. -/
theorem feedAll_lines {s : SocketCommandSession H} {writer : H.Writer}
    (hwriter : s.writer = some writer) (hregistry : s.registry ≠ none)
    (hinit : s.initialized = true) (hmode : s.config.mode = .line)
    (hcontinue : s.config.disconnectOnProtocolError = false) {part : Bytes} (hpart : lf ∉ part)
    (metadata : SocketCommandMetadata) {x y : Exterior H} (h : Alike x y) (chunks : List Bytes) :
    let r := feedAll chunks
      (s.keep (lineRequest s.config.maximumRequestBytes.val part) metadata) x
    let u := (completed lf (part ++ chunks.flatten.filter (· ≠ cr))).foldl
      (s.handleSegment writer) (metadata, y)
    r.2.1.metadata = u.1 ∧ Alike r.2.2 u.2 ∧ ∀ call ∈ r.1,
      (call.answer = true ↔ ∀ writer bytes, .wrote writer bytes false ∉ call.events) := by
  induction chunks generalizing part metadata x y with
  | nil =>
    simp only [List.flatten_nil, List.filter_nil, List.append_nil, completed_of_notMem hpart]
    refine ⟨?_, h, by simp [feedAll]⟩
    unfold feedAll keep
    split <;> rfl
  | cons chunk chunks ih =>
    let stream := part ++ chunk.filter (· ≠ cr)
    let t := ((completed lf stream).map (lineRequest s.config.maximumRequestBytes.val)).foldl
      s.serve (true, metadata, x)
    have hfeed : (s.keep (lineRequest s.config.maximumRequestBytes.val part) metadata).feed chunk x =
        (t.1, s.keep (lineRequest s.config.maximumRequestBytes.val (unfinished lf stream)) t.2.1,
          t.2.2) := by
      simp only [feed, keep_initialized, keep_config, hinit, hmode, Bool.not_true,
        Bool.false_eq_true, if_false]
      rw [feedLine_eq, cutLines_eq hcontinue hpart]
      rfl
    obtain ⟨hmetadata, halike⟩ := serves_handleSegments hwriter hregistry (completed lf stream)
      (t := (true, metadata, x)) (u := (metadata, y)) rfl h
    obtain ⟨calls, hlog, hanswer, -⟩ := serves_log hwriter hregistry
      ((completed lf stream).map (lineRequest s.config.maximumRequestBytes.val)) (true, metadata, x)
    have hevents : t.2.2.log.drop x.log.length = calls := by
      rw [hlog, List.drop_left]
    obtain ⟨hrest, hrestAlike, hcalls⟩ := ih (notMem_unfinished stream) t.2.1 halike
    have hsplit : part ++ (chunk :: chunks).flatten.filter (· ≠ cr) =
        stream ++ chunks.flatten.filter (· ≠ cr) := by
      simp [stream]
    rw [hsplit, completed_append, List.foldl_append, ← Prod.mk.eta (p := (completed lf stream).foldl
      (s.handleSegment writer) (metadata, y)), ← hmetadata]
    simp only [feedAll, hfeed]
    refine ⟨hrest, hrestAlike, List.forall_mem_cons.mpr ⟨?_, hcalls⟩⟩
    rw [hevents, hanswer, Bool.and_true]
    exact all_accepted_iff calls

/-- What a session in line mode does with a stream: every carriage return is deleted, and the
segments that a line feed ends are handled in order. -/
def lineReference (writer : H.Writer) (stream : Bytes) (s : SocketCommandSession H)
    (x : Exterior H) : SocketCommandMetadata × Exterior H :=
  (completed lf (stream.filter (· ≠ cr))).foldl (s.handleSegment writer) (s.metadata, x)

/-- However a stream is cut into chunks, a session in line mode that does not disconnect makes the
calls of its reference, and a call of `Feed` returns true exactly when every write made in it was
accepted. -/
theorem line_mode_reference (registry : H.Registry) (config : SocketCommandSessionConfig)
    (metadata : SocketCommandMetadata) (writer : H.Writer) (policy : Option H.Policy)
    (observer : Option H.Observer) (x : Exterior H) (hmode : config.mode = .line)
    (hcontinue : config.disconnectOnProtocolError = false)
    (hmax : 1 ≤ config.maximumRequestBytes.val) (chunks : List Bytes) :
    let s := opened registry config metadata writer policy observer
    let r := feedAll chunks s x
    let reference := s.lineReference writer chunks.flatten x
    r.2.2.calls = reference.2.calls ∧ r.2.2.world = reference.2.world ∧
      r.2.1.metadata = reference.1 ∧
      ∀ call ∈ r.1,
        (call.answer = true ↔ ∀ writer bytes, .wrote writer bytes false ∉ call.events) := by
  rw [opened_eq registry (by omega)]
  obtain ⟨hmetadata, ⟨hworld, hcalls⟩, hanswers⟩ := feedAll_lines
    (s := { registry := some registry, config, metadata, writer := some writer, policy, observer
            initialized := true }) (x := x) (y := x) rfl (Option.some_ne_none registry) rfl hmode
    hcontinue List.not_mem_nil metadata ⟨rfl, rfl⟩ chunks
  exact ⟨hcalls, hworld, hmetadata, hanswers⟩

end SocketCommandSession

/-- Lines of up to eight bytes. -/
@[reducible] def shortLines : @SocketCommandSessionConfig SizeWidth.host :=
  letI := SizeWidth.host
  { maximumRequestBytes := 8 }

/-- A line cut in two, a blank line and a line that is too long. -/
theorem line_mode_reference_short :
    letI := scalarLibrary
    letI := SizeWidth.host
    let s := SocketCommandSession.opened (H := directHost) () shortLines {} () (some ()) none
    let chunks := [text "st", text "op\r\n \r", text "\nfar too long", text "\nrun\n"]
    let r := SocketCommandSession.feedAll chunks s { world := () }
    let reference := s.lineReference () chunks.flatten { world := () }
    r.2.2.calls = reference.2.calls ∧ r.2.1.metadata.requestID = 2 ∧
      r.2.2.calls.flatMap CommandEvent.output =
        text "OK 0\nERR 1 Command exceeds maximum request length\nOK 0\n" ∧
      ∀ call ∈ r.1,
        (call.answer = true ↔ ∀ writer bytes, .wrote writer bytes false ∉ call.events) := by
  let := scalarLibrary
  let := SizeWidth.host
  obtain ⟨hcalls, -, hmetadata, hanswers⟩ := SocketCommandSession.line_mode_reference
    (H := directHost) () shortLines {} () (some ()) none { world := () } rfl rfl (by decide)
    [text "st", text "op\r\n \r", text "\nfar too long", text "\nrun\n"]
  refine ⟨hcalls, ?_, ?_, hanswers⟩
  · rw [hmetadata]
    decide +kernel
  · rw [hcalls]
    decide +kernel

end Sockets.Command
