import Sockets.Command.Chunks

/-! Structured requests and their responses, end to end. -/
namespace Sockets.Command
open Foundation Framer

variable {Value : Type} [CommandLibrary Value] {H : CommandHost Value}

/-- One length-prefixed payload, which `DecodeResponse` takes for this response. -/
def Delivers (bytes : Bytes) (response : SocketCommandResponse) : Prop :=
  ∃ payload : Bytes, payload.length < 2 ^ 32 ∧ bytes = beBytes 4 payload.length ++ payload ∧
    decodeResponse payload = some response

/-- A response is written in one call, unless it is too long for a frame. -/
def Sends (writer : H.Writer) (response : SocketCommandResponse)
    (calls : List (CommandEvent H)) : Prop :=
  if response.result.message.length + 22 < 2 ^ 32 then
    ∃ bytes accepted, calls = [.wrote writer bytes accepted] ∧ Delivers bytes response
  else calls = []

/-- The calls that decide a request, and what they come to: the policy's refusal, or what the
registry returned for the very invocation. -/
inductive Decides (registry : H.Registry) (policy : Option H.Policy)
    (context : SocketCommandInvocationContext Value) (w : H.World) :
    List (CommandEvent H) → CommandResult → Prop
  | denied {p : H.Policy} {verdict : CommandResult} (hpolicy : policy = some p)
      (hverdict : (H.policy p context w).1 = verdict) (hdenied : verdict.success = false) :
      Decides registry policy context w [.policyCalled p context verdict] verdict
  | ungated {result : CommandResult} (hpolicy : policy = none)
      (hresult : (H.invoke registry context.invocation w).1 = result) :
      Decides registry policy context w [.invoked context.invocation result] result
  | allowed {p : H.Policy} {verdict result : CommandResult} (hpolicy : policy = some p)
      (hverdict : (H.policy p context w).1 = verdict) (hallowed : verdict.success = true)
      (hresult : (H.invoke registry context.invocation (H.policy p context w).2).1 = result) :
      Decides registry policy context w
        [.policyCalled p context verdict, .invoked context.invocation result] result

/-- The observer, if there is one, is told. -/
def tells (observer : Option H.Observer) (context : SocketCommandInvocationContext Value)
    (result : CommandResult) : List (CommandEvent H) :=
  observer.toList.map fun o => .observed o context result

/-- What one payload comes to: a request is decided and answered under its number, which the
metadata keep; anything else is answered with a failure under number 0 and changes nothing. -/
def Exchange [SizeWidth] (registry : H.Registry) (writer : H.Writer) (payload : Bytes)
    (s : SocketCommandSession H) (x : Exterior H) (s' : SocketCommandSession H)
    (x' : Exterior H) : Prop :=
  match decodeRequest payload
      ({ metadata := s.metadata } : SocketCommandInvocationContext Value) with
  | some context =>
    s' = { s with metadata := { s.metadata with requestID := context.metadata.requestID } } ∧
      ∃ decided result sent, Decides registry s.policy context x.world decided result ∧
        Sends writer { requestID := context.metadata.requestID, result } sent ∧
        x'.log = x.log ++
          .received payload :: (decided ++ tells s.observer context result ++ sent ++ [.handled])
  | none =>
    s' = s ∧ ∃ result bytes accepted, result.success = false ∧
      Delivers bytes { requestID := 0, result } ∧
      x'.log = x.log ++ [.received payload, .wrote writer bytes accepted, .handled]

/-- The calls of an exchange over a request. -/
theorem Exchange.of_decoded [SizeWidth] {registry : H.Registry} {writer : H.Writer}
    {payload : Bytes} {s s' : SocketCommandSession H} {x x' : Exterior H}
    (h : Exchange registry writer payload s x s' x')
    {context : SocketCommandInvocationContext Value}
    (hdecode : decodeRequest payload { metadata := s.metadata } = some context) :
    ∃ decided result sent, Decides registry s.policy context x.world decided result ∧
      Sends writer { requestID := context.metadata.requestID, result } sent ∧
      x'.log = x.log ++ .received payload ::
        (decided ++ tells s.observer context result ++ sent ++ [.handled]) := by
  rw [Exchange, hdecode] at h
  exact h.2

theorem delivers_responseFrame {response : SocketCommandResponse}
    (h : response.result.message.length + 22 < 2 ^ 32) :
    responseFrame response ≠ [] ∧ Delivers (responseFrame response) response := by
  have hmessage : response.result.message.length ≤ 0xFFFFFFFF := by omega
  obtain ⟨payload, hencode, hlength⟩ := encodeResponse_length hmessage
  have hlt : payload.length < 2 ^ 32 := hlength ▸ h
  have hne : responseFrame response ≠ [] := fun hnil =>
    absurd ((responseFrame_eq_nil_iff response).mp hnil) (not_le.mpr h)
  refine ⟨hne, payload, hlt, ?_, response_round_trip hencode⟩
  rw [responseFrame, hencode]
  exact frameStructuredPayload_eq hlt

theorem sends_of_fits {writer : H.Writer} {response : SocketCommandResponse}
    {calls : List (CommandEvent H)} (h : response.result.message.length + 22 < 2 ^ 32) :
    Sends writer response calls ↔
      ∃ bytes accepted, calls = [.wrote writer bytes accepted] ∧ Delivers bytes response := by
  rw [Sends, if_pos h]

theorem sends_of_long {writer : H.Writer} {response : SocketCommandResponse}
    {calls : List (CommandEvent H)} (h : ¬ response.result.message.length + 22 < 2 ^ 32) :
    Sends writer response calls ↔ calls = [] := by
  rw [Sends, if_neg h]

theorem observe_log (x : Exterior H) (observer : Option H.Observer)
    (context : SocketCommandInvocationContext Value) (result : CommandResult) :
    (x.observe observer context result).log = x.log ++ tells observer context result := by
  cases observer with
  | none => exact (List.append_nil _).symm
  | some o => rfl

namespace SocketCommandSession
variable [SizeWidth]

theorem writeResponse_log {writer : H.Writer} {s : SocketCommandSession H}
    (hwriter : s.writer = some writer) (response : SocketCommandResponse) (x : Exterior H) :
    ∃ calls, Sends writer response calls ∧
      (s.writeResponse response x).2.log = x.log ++ calls := by
  unfold writeResponse
  dsimp only
  by_cases hfits : response.result.message.length + 22 < 2 ^ 32
  · obtain ⟨hne, hdelivers⟩ := delivers_responseFrame hfits
    rw [if_neg hne, hwriter]
    exact ⟨_, (sends_of_fits hfits).mpr ⟨_, _, rfl, hdelivers⟩, rfl⟩
  · have hnil := (responseFrame_eq_nil_iff response).mpr (not_lt.mp hfits)
    rw [if_pos hnil]
    exact ⟨[], (sends_of_long hfits).mpr rfl, (List.append_nil _).symm⟩

theorem execute_log {registry : H.Registry} {s : SocketCommandSession H}
    (hregistry : s.registry = some registry) (context : SocketCommandInvocationContext Value)
    (x : Exterior H) :
    ∃ calls, Decides registry s.policy context x.world calls (s.execute context x).1 ∧
      (s.execute context x).2.log =
        x.log ++ (calls ++ tells s.observer context (s.execute context x).1) := by
  unfold execute
  rw [hregistry]
  dsimp only
  cases hpolicy : s.policy with
  | none =>
    refine ⟨_, .ungated rfl rfl, ?_⟩
    rw [observe_log]
    simp [Exterior.invoke, Exterior.record]
  | some p =>
    dsimp only
    cases hverdict : (x.callPolicy p context).1.success with
    | false =>
      refine ⟨_, .denied rfl rfl hverdict, ?_⟩
      rw [Bool.not_false, if_pos rfl, observe_log]
      simp [Exterior.callPolicy, Exterior.record]
    | true =>
      refine ⟨_, .allowed rfl rfl hverdict rfl, ?_⟩
      rw [Bool.not_true, if_neg Bool.false_ne_true, observe_log]
      simp [Exterior.callPolicy, Exterior.invoke, Exterior.record]

/-- Handling a payload is an exchange. -/
theorem exchange_handleRequest [LawfulErrors Value] {registry : H.Registry} {writer : H.Writer}
    {s : SocketCommandSession H} (hregistry : s.registry = some registry)
    (hwriter : s.writer = some writer) (payload : Bytes) (x : Exterior H) :
    let t := s.handleRequest payload (true, s.metadata, x)
    Exchange registry writer payload s x { s with metadata := t.2.1 } t.2.2 := by
  unfold Exchange handleRequest during handleStructuredFrame
  dsimp only
  cases hdecode : decodeRequest payload
      ({ metadata := s.metadata } : SocketCommandInvocationContext Value) with
  | none =>
    dsimp only
    obtain ⟨calls, hsends, hlog⟩ := writeResponse_log hwriter
      ⟨0, CommandLibrary.error Value malformedRequest⟩ (x.record (.received payload))
    have hshort : (CommandLibrary.error Value malformedRequest).message.length + 22 < 2 ^ 32 := by
      rw [LawfulErrors.message_error]
      decide
    obtain ⟨bytes, accepted, rfl, hdelivers⟩ := (sends_of_fits hshort).mp hsends
    refine ⟨rfl, _, bytes, accepted, LawfulErrors.success_error _, hdelivers, ?_⟩
    change (s.writeResponse _ _).2.log ++ [.handled] = _
    rw [hlog]
    simp [Exterior.record]
  | some context =>
    dsimp only
    obtain ⟨decided, hdecides, hexecute⟩ := execute_log hregistry context
      (x.record (.received payload))
    obtain ⟨sent, hsends, hwrite⟩ := writeResponse_log hwriter
      ⟨context.metadata.requestID, (s.execute context (x.record (.received payload))).1⟩
      (s.execute context (x.record (.received payload))).2
    refine ⟨rfl, decided, _, sent, hdecides, hsends, ?_⟩
    change (s.writeResponse _ _).2.log ++ [.handled] = _
    rw [hwrite, hexecute]
    simp [Exterior.record]

/-- A whole frame that is let in between two requests is handled and leaves nothing behind. -/
theorem Waits.feed_whole {maximum : ℕ} {s : SocketCommandSession H} (h : s.Waits maximum [])
    {payload : Bytes} (hcarries : Carries maximum payload)
    (hfits : maximum + 4 < 2 ^ SizeWidth.bits) (x : Exterior H) :
    let t := s.handleRequest payload (true, s.metadata, x)
    (s.feed (frameStructuredPayload payload) x).2 = (s.park [] t.2.1, t.2.2) := by
  have hmax := hcarries.le_maximum
  have hlength : (frameStructuredPayload payload).length = 4 + payload.length := by
    rw [frameStructuredPayload_eq hcarries.lt_uint32, List.length_append, length_beBytes]
  have hadmitted : admits maximum ([] : Bytes).length (frameStructuredPayload payload).length =
      true := by
    rw [admits, sizeAdd_eq hfits, hlength, decide_eq_false (by omega)]
    rfl
  have hcut : (requestFramer maximum).cut ([] ++ frameStructuredPayload payload) =
      .frame payload [] := by
    have hencode := (encodes_request hcarries).cut_encode []
    rwa [List.append_nil] at hencode
  have hnil : (requestFramer maximum).cut [] = .more := rfl
  have hleft : (requestFramer maximum).leftover ([] ++ frameStructuredPayload payload) =
      .ok [] := by
    rw [leftover_of_frame hcut, leftover, drain_more _ hnil]
  have hframes := (drain_of_frame hcut).2
  rw [(drain_of_more hnil).2] at hframes
  rw [h.feed_ok hadmitted hleft (fun _ => Nat.zero_le _), hframes]
  rfl

/-- A whole frame handed to `Feed` between two requests is one exchange. -/
theorem feed_frame [LawfulErrors Value] (registry : H.Registry)
    (config : SocketCommandSessionConfig) (hmode : config.mode = .structuredBinary)
    (hfits : config.maximumRequestBytes.val + 4 < 2 ^ SizeWidth.bits)
    (metadata : SocketCommandMetadata) (writer : H.Writer) (policy : Option H.Policy)
    (observer : Option H.Observer) {payload : Bytes}
    (hcarries : Carries config.maximumRequestBytes.val payload) (x : Exterior H) :
    let s := opened registry config metadata writer policy observer
    let r := s.feed (frameStructuredPayload payload) x
    (∃ metadata', r.2.1 = opened registry config metadata' writer policy observer) ∧
      Exchange registry writer payload s x r.2.1 r.2.2 := by
  have hpos := hcarries.pos
  have hmax := hcarries.le_maximum
  have hopened (m : SocketCommandMetadata) := opened_eq registry
    (show config.maximumRequestBytes.val ≠ 0 by omega) m writer policy observer
  have hwaits : (opened registry config metadata writer policy observer).Waits
      config.maximumRequestBytes.val [] := by
    rw [hopened]
    exact ⟨rfl, hmode, rfl, rfl, rfl⟩
  dsimp only
  rw [hwaits.feed_whole hcarries hfits, hopened metadata]
  exact ⟨⟨_, (hopened _).symm⟩, exchange_handleRequest rfl rfl payload x⟩

/-- In a run of whole frames, one for each call of `Feed`, every frame is one exchange. -/
theorem structured_end_to_end [LawfulErrors Value] (registry : H.Registry)
    (config : SocketCommandSessionConfig) (hmode : config.mode = .structuredBinary)
    (hfits : config.maximumRequestBytes.val + 4 < 2 ^ SizeWidth.bits)
    (metadata : SocketCommandMetadata) (writer : H.Writer) (policy : Option H.Policy)
    (observer : Option H.Observer) (x : Exterior H) (payloads : List Bytes) (payload : Bytes)
    (hlength : ∀ p ∈ payloads ++ [payload], 1 ≤ p.length ∧
      p.length ≤ config.maximumRequestBytes.val ∧ p.length < 2 ^ 32) :
    let r := (feedAll (payloads.map frameStructuredPayload)
      (opened registry config metadata writer policy observer) x).2
    let r' := r.1.feed (frameStructuredPayload payload) r.2
    (∃ metadata', r.1 = opened registry config metadata' writer policy observer) ∧
      Exchange registry writer payload r.1 r.2 r'.2.1 r'.2.2 := by
  have hcarries : ∀ p ∈ payloads ++ [payload], Carries config.maximumRequestBytes.val p := by
    intro p hp
    obtain ⟨hpos, hmax, hlt⟩ := hlength p hp
    exact ⟨by omega, hmax, hlt⟩
  clear hlength
  induction payloads generalizing metadata x with
  | nil =>
    have hexchange := feed_frame registry config hmode hfits metadata writer policy observer
      (hcarries payload (by simp)) x
    exact ⟨⟨metadata, rfl⟩, hexchange.2⟩
  | cons p payloads ih =>
    obtain ⟨⟨metadata', hsession⟩, -⟩ := feed_frame registry config hmode hfits metadata writer
      policy observer (hcarries p (by simp)) x
    have hrest := ih metadata' ((opened registry config metadata writer policy observer).feed
      (frameStructuredPayload p) x).2.2 fun q hq => hcarries q (by simp_all)
    rw [← hsession] at hrest
    exact hrest

end SocketCommandSession

/-- A host whose registry answers every invocation with the same message. -/
@[reducible] def replyingHost (message : Bytes) : @CommandHost ScalarValue scalarLibrary :=
  letI := scalarLibrary
  { directHost with invoke := fun _ _ w => ({ message }, w) }

/-- A session of structured requests with this host. -/
def replyingSession (message : Bytes) :
    @SocketCommandSession ScalarValue scalarLibrary (replyingHost message) SizeWidth.host :=
  letI := scalarLibrary
  letI := SizeWidth.host
  SocketCommandSession.opened (H := replyingHost message) () smallRequests {} () none none

theorem structured_end_to_end_malformed :
    letI := scalarLibrary
    letI := SizeWidth.host
    let r := (SocketCommandSession.feedAll [frameStructuredPayload [9]]
      (replyingSession (text "done")) { world := () }).2
    let r' := r.1.feed (frameStructuredPayload oneRequest) r.2
    Exchange () () oneRequest r.1 r.2 r'.2.1 r'.2.2 := by
  let := scalarLibrary
  let := SizeWidth.host
  have : LawfulErrors ScalarValue := ⟨fun _ => rfl, fun _ => rfl⟩
  exact (SocketCommandSession.structured_end_to_end (H := replyingHost (text "done")) ()
    smallRequests rfl (by decide) {} () none none { world := () } [[9]] oneRequest (by decide)).2

/-- A result whose message no response frame holds is not written at all. -/
theorem result_unanswered :
    letI := scalarLibrary
    letI := SizeWidth.host
    ∃ message : Bytes, message.length < 2 ^ 32 ∧
      ∀ writer bytes accepted, .wrote writer bytes accepted ∉
        ((replyingSession message).feed (frameStructuredPayload oneRequest)
          { world := () }).2.2.log := by
  let := scalarLibrary
  let := SizeWidth.host
  have : LawfulErrors ScalarValue := ⟨fun _ => rfl, fun _ => rfl⟩
  obtain ⟨message, hmessage⟩ : ∃ message : Bytes, message.length = 2 ^ 32 - 22 :=
    ⟨List.replicate (2 ^ 32 - 22) 0, List.length_replicate⟩
  refine ⟨message, by omega, fun writer bytes accepted => ?_⟩
  obtain ⟨-, hexchange⟩ := SocketCommandSession.feed_frame (H := replyingHost message) ()
    smallRequests rfl (by decide) {} () none none
    (⟨by decide, by decide, by decide⟩ : Carries 64 oneRequest) { world := () }
  have hdecode : decodeRequest oneRequest
      ({ metadata := {} } : SocketCommandInvocationContext ScalarValue) =
      some { invocation := { path := [text "x"] }, metadata := { requestID := 7 } } := rfl
  obtain ⟨decided, result, sent, hdecides, hsends, hlog⟩ := hexchange.of_decoded hdecode
  cases hdecides with
  | denied hpolicy => cases hpolicy
  | allowed hpolicy => cases hpolicy
  | ungated hpolicy hresult =>
    subst hresult
    obtain rfl := (sends_of_long (by simp only [hmessage]; decide)).mp hsends
    change CommandEvent.wrote writer bytes accepted ∉
      (SocketCommandSession.feed _ (SocketCommandSession.opened (H := replyingHost message) ()
        smallRequests {} () none none) { world := () }).2.2.log
    rw [hlog]
    simp [tells, SocketCommandSession.opened, SocketCommandSession.setResultObserver]

end Sockets.Command
