import Sockets.Command.RoundTrip
import Sockets.Command.Structured

/-! Structured requests cut into chunks: which streams a session takes whole. -/
namespace Sockets.Command
open Foundation Framer

variable {Value : Type} [CommandLibrary Value] {H : CommandHost Value}

/-- The request a session started to handle. -/
def CommandEvent.request? : CommandEvent H → Option Bytes
  | .received request => some request
  | _ => none

def CommandEvent.isAccepted : CommandEvent H → Bool
  | .wrote _ _ accepted => accepted
  | _ => false

/-- Between `x` and `y` these requests were handled and this many writes were accepted. -/
def Calls (x y : Exterior H) (requests : List Bytes) (accepted : ℕ) : Prop :=
  ∃ calls, y.log = x.log ++ calls ∧ calls.filterMap CommandEvent.request? = requests ∧
    calls.countP CommandEvent.isAccepted = accepted

theorem Calls.refl (x : Exterior H) : Calls x x [] 0 := ⟨[], by simp, rfl, rfl⟩

theorem Calls.trans {x y z : Exterior H} {r r' : List Bytes} {a a' : ℕ} (h : Calls x y r a)
    (h' : Calls y z r' a') : Calls x z (r ++ r') (a + a') := by
  obtain ⟨calls, hlog, rfl, rfl⟩ := h
  obtain ⟨calls', hlog', rfl, rfl⟩ := h'
  exact ⟨calls ++ calls', by rw [hlog', hlog, List.append_assoc], List.filterMap_append,
    List.countP_append⟩

theorem calls_record (x : Exterior H) (e : CommandEvent H) :
    Calls x (x.record e) e.request?.toList e.isAccepted.toNat := by
  refine ⟨[e], rfl, ?_, ?_⟩
  · cases h : e.request? <;> simp [h]
  · cases h : e.isAccepted <;> simp [h]

theorem calls_policy (x : Exterior H) (policy : H.Policy)
    (context : SocketCommandInvocationContext Value) :
    Calls x (x.callPolicy policy context).2 [] 0 :=
  calls_record { x with world := _ } _

theorem calls_invoke (x : Exterior H) (registry : H.Registry)
    (invocation : CommandInvocation Value) : Calls x (x.invoke registry invocation).2 [] 0 :=
  calls_record { x with world := _ } _

theorem calls_observe (x : Exterior H) (observer : Option H.Observer)
    (context : SocketCommandInvocationContext Value) (result : CommandResult) :
    Calls x (x.observe observer context result) [] 0 := by
  cases observer with
  | none => exact .refl x
  | some observer => exact calls_record { x with world := _ } _

theorem calls_write (x : Exterior H) (writer : Option H.Writer) (bytes : Bytes) :
    Calls x (x.write writer bytes).2 [] (x.write writer bytes).1.toNat := by
  cases writer with
  | none => exact .refl x
  | some writer => exact calls_record { x with world := _ } _

namespace SocketCommandSession
variable [SizeWidth]

theorem calls_execute (context : SocketCommandInvocationContext Value)
    (s : SocketCommandSession H) (x : Exterior H) : Calls x (s.execute context x).2 [] 0 := by
  unfold execute
  split
  · exact .refl x
  · rename_i registry _
    have hrun (y : Exterior H) : Calls y ((y.invoke registry context.invocation).2.observe s.observer
        context (y.invoke registry context.invocation).1) [] 0 :=
      (calls_invoke y registry context.invocation).trans (calls_observe _ _ _ _)
    split
    · exact hrun x
    · rename_i policy _
      dsimp only
      split_ifs
      · exact (calls_policy x policy context).trans (calls_observe _ _ _ _)
      · exact (calls_policy x policy context).trans (hrun _)

theorem calls_writeResponse (s : SocketCommandSession H) (response : SocketCommandResponse)
    (x : Exterior H) :
    Calls x (s.writeResponse response x).2 [] (s.writeResponse response x).1.toNat := by
  unfold writeResponse
  dsimp only
  split_ifs
  · exact .refl x
  · exact calls_write _ _ _

theorem calls_handleStructuredFrame (data : Bytes) (s : SocketCommandSession H)
    (x : Exterior H) : Calls x (s.handleStructuredFrame data x).2.2 []
      (s.handleStructuredFrame data x).1.toNat := by
  unfold handleStructuredFrame
  split
  · exact calls_writeResponse _ _ _
  · rename_i context _
    have h := (calls_execute context s x).trans (calls_writeResponse s
      { requestID := context.metadata.requestID, result := (s.execute context x).1 } _)
    rwa [Nat.zero_add] at h

theorem calls_handleRequest (s : SocketCommandSession H) (data : Bytes)
    (t : Bool × SocketCommandMetadata × Exterior H) :
    ∃ accepted : Bool, (s.handleRequest data t).1 = (accepted && t.1) ∧
      Calls t.2.2 (s.handleRequest data t).2.2 [data] accepted.toNat := by
  have h := ((calls_record t.2.2 (.received data)).trans
    (calls_handleStructuredFrame data { s with metadata := t.2.1 } _)).trans
      (calls_record _ .handled)
  refine ⟨({ s with metadata := t.2.1 }.handleStructuredFrame data
    (t.2.2.record (.received data))).1, rfl, ?_⟩
  simp only [CommandEvent.request?, CommandEvent.isAccepted, Option.toList_some,
    Option.toList_none, List.append_nil, Bool.toNat_false, Nat.zero_add, Nat.add_zero] at h
  exact h

/-- Handling frames succeeds when every one of them is answered. -/
theorem calls_handleRequests (s : SocketCommandSession H) (frames : List Bytes)
    (t : Bool × SocketCommandMetadata × Exterior H) :
    ∃ accepted ≤ frames.length,
      Calls t.2.2 (frames.foldl (fun t frame => s.handleRequest frame t) t).2.2 frames accepted ∧
      (accepted = frames.length →
        (frames.foldl (fun t frame => s.handleRequest frame t) t).1 = t.1) := by
  induction frames generalizing t with
  | nil => exact ⟨0, le_rfl, .refl _, fun _ => rfl⟩
  | cons frame frames ih =>
    obtain ⟨answered, hflag, hcalls⟩ := s.calls_handleRequest frame t
    obtain ⟨accepted, hle, hrest, hall⟩ := ih (s.handleRequest frame t)
    have hbit : answered.toNat ≤ 1 := Bool.toNat_le answered
    refine ⟨answered.toNat + accepted, by rw [List.length_cons]; omega, hcalls.trans hrest, ?_⟩
    intro h
    rw [List.length_cons] at h
    have hanswered : answered = true := by
      cases answered with
      | true => rfl
      | false =>
        rw [Bool.toNat_false] at h
        omega
    rw [List.foldl_cons, hall (by omega), hflag, hanswered, Bool.true_and]

@[simp] theorem park_config (s : SocketCommandSession H) (rest : Bytes)
    (metadata : SocketCommandMetadata) : (s.park rest metadata).config = s.config := by
  unfold park
  split_ifs <;> rfl

/-- What `park` keeps of a request that is not complete. -/
theorem park_spec {s : SocketCommandSession H} {rest : Bytes}
    (h : cutRequest s.config.maximumRequestBytes.val rest = .more)
    (metadata : SocketCommandMetadata) :
    (s.park rest metadata).pending = rest ∧ (s.park rest metadata).Expecting ∧
      ((s.park rest metadata).structured = [] ↔ rest.length = 0 ∨ rest.length = 4) ∧
      ((rest.length < 4 → rest.length ≤ s.config.maximumRequestBytes.val) ↔
        (s.park rest metadata).structured.length ≤ s.config.maximumRequestBytes.val) := by
  by_cases hshort : rest.length < 4
  · have hpark : s.park rest metadata =
        { s with structured := rest, expectedStructuredBytes := 0, metadata } := by
      simp [park, hshort]
    rw [hpark]
    refine ⟨by simp [pending], fun h0 => absurd rfl h0, ?_, by simp [hshort]⟩
    rw [← List.length_eq_zero_iff]
    simp only
    omega
  · have hpark : s.park rest metadata =
        { s with structured := rest.drop 4, expectedStructuredBytes := beNat (rest.take 4)
                 metadata } := by
      simp [park, hshort]
    have htake : (rest.take 4).length = 4 := by
      rw [List.length_take]
      omega
    have hlt := beNat_lt (rest.take 4)
    have hbytes := beBytes_beNat (rest.take 4)
    rw [htake] at hlt hbytes
    unfold cutRequest at h
    dsimp only at h
    rw [if_neg hshort] at h
    split_ifs at h with hvalid hmore
    have hpos : beNat (rest.take 4) ≠ 0 := fun h0 => hvalid (.inl h0)
    have hann : Announces s.config.maximumRequestBytes.val (beNat (rest.take 4)) :=
      ⟨hpos, by omega, by omega⟩
    rw [hpark]
    refine ⟨?_, fun _ => hann, ?_, ?_⟩
    · simp only [pending, if_neg hpos]
      rw [hbytes, List.take_append_drop]
    · rw [← List.length_eq_zero_iff, List.length_drop]
      omega
    · simp only [List.length_drop]
      omega

/-- One call of `Feed`: its answer and the calls made in it. -/
structure FeedCall (H : CommandHost Value) where
  answer : Bool
  events : List (CommandEvent H)

/-- A sequence of `Feed` calls. -/
def feedAll : List Bytes → SocketCommandSession H → Exterior H →
    List (FeedCall H) × SocketCommandSession H × Exterior H
  | [], s, x => ([], s, x)
  | chunk :: chunks, s, x =>
    let r := s.feed chunk x
    let t := feedAll chunks r.2.1 r.2.2
    (⟨r.1, r.2.2.log.drop x.log.length⟩ :: t.1, t.2)

def FeedCall.requests (call : FeedCall H) : List Bytes :=
  call.events.filterMap CommandEvent.request?

/-- The writer returned true for every frame handled in the call. -/
def FeedCall.Answered (call : FeedCall H) : Prop :=
  call.events.countP CommandEvent.isAccepted = call.requests.length

/-- The payloads are handled in order and once each, nothing stays buffered, and a call whose
writes succeed returns true. -/
def TakenWhole (payloads : List Bytes)
    (r : List (FeedCall H) × SocketCommandSession H × Exterior H) : Prop :=
  r.1.flatMap FeedCall.requests = payloads ∧
    (r.2.1.structured = [] ∧ r.2.1.expectedStructuredBytes = 0) ∧
    ∀ call ∈ r.1, call.Answered → call.answer = true

/-- The test `FeedStructured` makes on a chunk, by the size of what is pending: nothing is buffered
at the start of a request, and nothing behind its length either. -/
def admits (maximum : ℕ) (pending chunk : ℕ) : Bool :=
  !(sizeAdd maximum 4 < chunk && (pending = 0 || pending = 4))

theorem admits_eq_false {s : SocketCommandSession H} {part : Bytes}
    (hpart : s.park part s.metadata = s)
    (hcut : cutRequest s.config.maximumRequestBytes.val part = .more) (chunk : Bytes) :
    (sizeAdd s.config.maximumRequestBytes.val 4 < chunk.length ∧ s.structured = []) ↔
      admits s.config.maximumRequestBytes.val part.length chunk.length = false := by
  have hempty := (park_spec hcut s.metadata).2.2.1
  rw [hpart] at hempty
  simp only [admits, hempty, Bool.not_eq_false', Bool.and_eq_true, Bool.or_eq_true,
    decide_eq_true_eq]

/-- An admitted chunk is drained behind the part that has arrived. -/
theorem feed_drain {s : SocketCommandSession H} {part chunk : Bytes}
    (hinit : s.initialized = true) (hmode : s.config.mode = .structuredBinary)
    (hpart : s.park part s.metadata = s)
    (hcut : cutRequest s.config.maximumRequestBytes.val part = .more)
    (hadmitted : admits s.config.maximumRequestBytes.val part.length chunk.length = true)
    (x : Exterior H) :
    s.feed chunk x =
      match (requestFramer s.config.maximumRequestBytes.val).drain s.handleRequest (part ++ chunk)
          (true, s.metadata, x) with
      | (.ok rest, t) => settle t.1 (s.park rest t.2.1) t.2.2
      | (.error _, t) =>
        let w := s.emitStructuredError 0 exceedsLimit t.2.2
        (if s.config.disconnectOnProtocolError then false else w.1, s.park [] t.2.1, w.2) := by
  have hspec := park_spec (s := s) hcut s.metadata
  rw [hpart] at hspec
  have hrefuse : ¬ (sizeAdd s.config.maximumRequestBytes.val 4 < chunk.length ∧
      s.structured = []) := by
    rw [admits_eq_false hpart hcut, hadmitted]
    simp
  have happend : ({ s with structured := s.structured ++ chunk } : SocketCommandSession H).pending =
      part ++ chunk := by
    rw [← hspec.1]
    unfold pending
    split_ifs <;> simp
  rw [← happend, feed, hinit, hmode]
  simp only [Bool.not_true, Bool.false_eq_true, if_false]
  rw [feedStructured, if_neg hrefuse,
    structuredLoop_eq true { s with structured := s.structured ++ chunk } x hspec.2.1]
  rfl

/-- More of a request than fits is not kept. -/
theorem settle_park {s : SocketCommandSession H} {rest : Bytes}
    (hcut : cutRequest s.config.maximumRequestBytes.val rest = .more)
    (hkept : rest.length < 4 → rest.length ≤ s.config.maximumRequestBytes.val) (success : Bool)
    (metadata : SocketCommandMetadata) (x : Exterior H) :
    settle success (s.park rest metadata) x = (success, s.park rest metadata, x) := by
  have hlength := (park_spec hcut metadata).2.2.2.mp hkept
  rw [settle, park_config, if_neg (not_lt.mpr hlength)]

/-- An admitted chunk is handled frame by frame, and the part of the next one is kept. -/
theorem feed_admitted {s : SocketCommandSession H} {part part' chunk : Bytes} {sent : List Bytes}
    (hinit : s.initialized = true) (hmode : s.config.mode = .structuredBinary)
    (hpart : s.park part s.metadata = s)
    (hcut : cutRequest s.config.maximumRequestBytes.val part = .more)
    (hcut' : cutRequest s.config.maximumRequestBytes.val part' = .more)
    (hkept : part'.length < 4 → part'.length ≤ s.config.maximumRequestBytes.val)
    (hsent : ∀ b ∈ sent, Carries s.config.maximumRequestBytes.val b)
    (hp : part ++ chunk = (sent.map frameStructuredPayload).flatten ++ part')
    (hadmitted : admits s.config.maximumRequestBytes.val part.length chunk.length = true)
    (x : Exterior H) :
    let t := sent.foldl (fun t frame => s.handleRequest frame t) (true, s.metadata, x)
    s.feed chunk x = (t.1, s.park part' t.2.1, t.2.2) := by
  intro t
  have hdrain := drain_chunk (F := requestFramer s.config.maximumRequestBytes.val)
    s.handleRequest (fun b hb => encodes_request (hsent b hb)) hp hcut' (true, s.metadata, x)
  rw [feed_drain hinit hmode hpart hcut hadmitted, hdrain]
  exact settle_park hcut' hkept t.1 t.2.1 t.2.2

@[simp] theorem park_initialized (s : SocketCommandSession H) (rest : Bytes)
    (metadata : SocketCommandMetadata) : (s.park rest metadata).initialized = s.initialized := by
  unfold park
  split_ifs <;> rfl

theorem park_park (s : SocketCommandSession H) (rest : Bytes) (metadata : SocketCommandMetadata) :
    (s.park rest metadata).park rest (s.park rest metadata).metadata = s.park rest metadata := by
  unfold park
  split_ifs <;> rfl

theorem park_nil {s : SocketCommandSession H} (h : s.park [] s.metadata = s) :
    s.structured = [] ∧ s.expectedStructuredBytes = 0 := by
  rw [← h]
  exact ⟨rfl, rfl⟩

theorem feed_refused {s : SocketCommandSession H} {part chunk : Bytes}
    (hinit : s.initialized = true) (hmode : s.config.mode = .structuredBinary)
    (hpart : s.park part s.metadata = s)
    (hcut : cutRequest s.config.maximumRequestBytes.val part = .more)
    (hrefuse : admits s.config.maximumRequestBytes.val part.length chunk.length = false)
    (x : Exterior H) : s.feed chunk x = (false, s, x) := by
  have hguard := (admits_eq_false hpart hcut chunk).mpr hrefuse
  simp only [feed, hinit, hmode, Bool.not_true, Bool.false_eq_true, if_false, feedStructured,
    if_pos hguard]

/-- A call in which everything is answered adds its requests and nothing else. -/
theorem takenWhole_cons {call : FeedCall H} {sent rest : List Bytes}
    {r : List (FeedCall H) × SocketCommandSession H × Exterior H} (hsent : call.requests = sent)
    (hcall : call.Answered → call.answer = true) :
    TakenWhole (sent ++ rest) (call :: r.1, r.2) ↔ TakenWhole rest r := by
  simp only [TakenWhole, List.flatMap_cons, hsent, List.append_cancel_left_eq, List.mem_cons,
    forall_eq_or_imp]
  tauto

/-- From the middle of a stream on: a stream is taken whole exactly when its chunks are
admitted. -/
theorem takenWhole_iff {maximum : ℕ} (h4 : 4 ≤ maximum) {payloads : List Bytes}
    (hcarry : ∀ payload ∈ payloads, Carries maximum payload) {part : Bytes} {chunks : List Bytes}
    (hw : part ++ chunks.flatten = (payloads.map frameStructuredPayload).flatten)
    (hcut : cutRequest maximum part = .more) (s : SocketCommandSession H) (x : Exterior H)
    (hinit : s.initialized = true) (hmode : s.config.mode = .structuredBinary)
    (hmax : s.config.maximumRequestBytes.val = maximum) (hpart : s.park part s.metadata = s) :
    TakenWhole payloads (feedAll chunks s x) ↔
      Admitted (admits maximum) (payloads.map fun p => (frameStructuredPayload p).length)
        part.length (chunks.map List.length) := by
  have hencodes (b : Bytes) (hb : b ∈ payloads) := encodes_request (hcarry b hb)
  refine chunk_induction (F := requestFramer maximum)
    (motive := fun payloads part chunks => (∀ b ∈ payloads, Carries maximum b) →
      ∀ (s : SocketCommandSession H) (x : Exterior H), s.initialized = true →
        s.config.mode = .structuredBinary → s.config.maximumRequestBytes.val = maximum →
        s.park part s.metadata = s → (TakenWhole payloads (feedAll chunks s x) ↔
          Admitted (admits maximum) (payloads.map fun p => (frameStructuredPayload p).length)
            part.length (chunks.map List.length)))
    ?_ ?_ hencodes hw hcut hcarry s x hinit hmode hmax hpart
  · intro _ s x _ _ _ hpart
    simp [TakenWhole, feedAll, Admitted, park_nil hpart]
  · intro sent rest part part' chunk chunks hencodes hp hq hcut hcut' ih hcarry s x hinit hmode
      hmax hpart
    rw [admitted_cons hencodes hp hq hcut]
    subst hmax
    by_cases hadmitted : admits s.config.maximumRequestBytes.val part.length chunk.length = true
    · have hfeed := feed_admitted hinit hmode hpart hcut hcut' (fun hshort => by omega)
        (fun b hb => hcarry b (by simp [hb])) hp hadmitted x
      obtain ⟨accepted, -, ⟨calls, hlog, hrequests, hcount⟩, hall⟩ :=
        s.calls_handleRequests sent (true, s.metadata, x)
      dsimp only at hfeed hlog hall
      generalize sent.foldl (fun t frame => s.handleRequest frame t) (true, s.metadata, x) = t
        at hfeed hlog hall
      rw [← ih (fun b hb => hcarry b (by simp [hb])) (s.park part' t.2.1) t.2.2
        ((park_initialized s part' _).trans hinit) (by rw [park_config]; exact hmode)
        (by rw [park_config]) (park_park s part' _)]
      have hevents : t.2.2.log.drop x.log.length = calls := by rw [hlog, List.drop_left]
      simp only [hadmitted, true_and, feedAll, hfeed, hevents]
      refine takenWhole_cons hrequests fun hanswered => hall ?_
      rw [← hcount, ← hrequests]
      exact hanswered
    · have hrefuse : admits s.config.maximumRequestBytes.val part.length chunk.length = false := by
        simpa using hadmitted
      have hfeed := feed_refused hinit hmode hpart hcut hrefuse x
      simp only [hrefuse, Bool.false_eq_true, false_and, iff_false, feedAll, hfeed]
      intro hwhole
      have hfalse := hwhole.2.2 ⟨false, x.log.drop x.log.length⟩ List.mem_cons_self
        (by simp [FeedCall.Answered, FeedCall.requests])
      cases hfalse

/-- A session as it is before its first `Feed`. -/
def opened (registry : H.Registry) (config : SocketCommandSessionConfig)
    (metadata : SocketCommandMetadata) (writer : H.Writer) (policy : Option H.Policy)
    (observer : Option H.Observer) : SocketCommandSession H :=
  ((initializeWith registry config metadata (some writer) {}).2.setPolicy policy).setResultObserver
    observer

theorem opened_eq (registry : H.Registry) {config : SocketCommandSessionConfig}
    (hmax : config.maximumRequestBytes.val ≠ 0) (metadata : SocketCommandMetadata)
    (writer : H.Writer) (policy : Option H.Policy) (observer : Option H.Observer) :
    opened registry config metadata writer policy observer =
      { registry := some registry, config, metadata, writer := some writer, policy, observer
        initialized := true } := by
  simp [opened, initializeWith, shutdown, setPolicy, setResultObserver, hmax]

/-- A fresh session takes a stream of structured frames whole exactly when every chunk is within
the size of one request and its length, or finds the session with something buffered. -/
theorem structured_lossless_iff (registry : H.Registry) (config : SocketCommandSessionConfig)
    (metadata : SocketCommandMetadata) (writer : H.Writer) (policy : Option H.Policy)
    (observer : Option H.Observer) (x : Exterior H) (hmode : config.mode = .structuredBinary)
    (h4 : 4 ≤ config.maximumRequestBytes.val) (payloads chunks : List Bytes)
    (hlength : ∀ payload ∈ payloads, 1 ≤ payload.length ∧
      payload.length ≤ config.maximumRequestBytes.val ∧ payload.length < 2 ^ 32)
    (hw : chunks.flatten = (payloads.map frameStructuredPayload).flatten) :
    TakenWhole payloads (feedAll chunks (opened registry config metadata writer policy observer) x) ↔
      Admitted (fun pending chunk =>
          !(sizeAdd config.maximumRequestBytes.val 4 < chunk && (pending = 0 || pending = 4)))
        (payloads.map fun p => (frameStructuredPayload p).length) 0 (chunks.map List.length) := by
  have hcarry : ∀ payload ∈ payloads, Carries config.maximumRequestBytes.val payload := by
    intro payload hp
    obtain ⟨h1, hmax, hlt⟩ := hlength payload hp
    exact ⟨by omega, hmax, hlt⟩
  rw [opened_eq registry (by omega)]
  exact takenWhole_iff h4 hcarry (by simpa using hw : [] ++ chunks.flatten = _) rfl _ x rfl hmode rfl rfl

end SocketCommandSession

/-- A host whose policy allows, whose registry answers and whose writer accepts everything. -/
@[reducible] def directHost : @CommandHost ScalarValue scalarLibrary :=
  letI := scalarLibrary
  { World := Unit, Registry := Unit, Policy := Unit, Observer := Unit, Writer := Unit
    tokenize := fun line => ([line], [])
    invoke := fun _ _ w => ({}, w)
    invokeLine := fun _ _ w => ({}, w)
    policy := fun _ _ w => ({}, w)
    observe := fun _ _ _ w => w
    write := fun _ _ w => (true, w) }

/-- Structured requests of up to 64 bytes. -/
@[reducible] def smallRequests : @SocketCommandSessionConfig SizeWidth.host :=
  letI := SizeWidth.host
  { mode := .structuredBinary, maximumRequestBytes := 64 }

def smallSession : @SocketCommandSession ScalarValue scalarLibrary directHost SizeWidth.host :=
  letI := scalarLibrary
  letI := SizeWidth.host
  SocketCommandSession.opened (H := directHost) () smallRequests {} () none none

/-- The command "x", request 7. -/
def oneRequest : Bytes :=
  [0x45, 0x53, 0x43, 0x51, 1, 0, 0, 0, 0, 0, 0, 0, 7, 0, 1, 0, 1, 0x78, 0, 0, 0, 0, 0, 0, 0, 0]

/-- Two requests of 40 bytes each. -/
def twoRequests : List Bytes := [List.replicate 40 1, List.replicate 40 2]

theorem structured_lossless_split :
    letI := scalarLibrary
    letI := SizeWidth.host
    SocketCommandSession.TakenWhole twoRequests
      (SocketCommandSession.feedAll
        [[0, 0, 0, 40, 1, 1], List.replicate 38 1 ++ [0, 0], [0, 40] ++ List.replicate 40 2]
        smallSession { world := () }) := by
  let := scalarLibrary
  let := SizeWidth.host
  exact (SocketCommandSession.structured_lossless_iff (H := directHost) () smallRequests {} () none
    none _ rfl (by decide) twoRequests _ (by decide) (by decide)).mpr (by decide)

/-- The same requests in one read: longer than one request may be, though every request is within
the limit. -/
theorem pipelined_requests_refused :
    letI := scalarLibrary
    letI := SizeWidth.host
    let chunk := (twoRequests.map frameStructuredPayload).flatten
    (∀ payload ∈ twoRequests, 1 ≤ payload.length ∧ payload.length ≤ 64) ∧ chunk.length ≤ 512 ∧
      ¬ SocketCommandSession.TakenWhole twoRequests
        (SocketCommandSession.feedAll [chunk] smallSession { world := () }) := by
  let := scalarLibrary
  let := SizeWidth.host
  refine ⟨by decide, by decide, fun hwhole => ?_⟩
  have hfeed : (SocketCommandSession.feedAll [(twoRequests.map frameStructuredPayload).flatten]
      smallSession { world := () }).1 = [⟨false, []⟩] := rfl
  have hrequests := hwhole.1
  rw [hfeed] at hrequests
  cases hrequests

end Sockets.Command
