import Sockets.Command.Pipeline
import Sockets.Foundation.Chunking

/-! Structured requests on arbitrary bytes: what a stream comes to, however it is cut. -/
namespace Sockets.Command
open Foundation Framer

variable {Value : Type} [CommandLibrary Value] {H : CommandHost Value}

/-- The requests that were handled between two states of the outside. -/
def handledIn (x y : Exterior H) : List Bytes :=
  (y.log.drop x.log.length).filterMap CommandEvent.request?

theorem Calls.handledIn {x y : Exterior H} {requests : List Bytes} {accepted : ℕ}
    (h : Calls x y requests accepted) : handledIn x y = requests := by
  obtain ⟨calls, hlog, hrequests, -⟩ := h
  rw [Command.handledIn, hlog, List.drop_left, hrequests]

/-- What a stream comes to up to the first length that is refused: whether there is one, the request
number in the metadata after each request, and the metadata and the calls at the end. -/
structure Outcome (H : CommandHost Value) where
  rejected : Bool
  requestIDs : List UInt64
  metadata : SocketCommandMetadata
  exterior : Exterior H

/-- The chunks of a stream, none longer than a request and its length. -/
structure Partition (maximum : ℕ) (stream : Bytes) (chunks : List Bytes) : Prop where
  flatten : chunks.flatten = stream
  short : ∀ chunk ∈ chunks, chunk.length ≤ maximum + 4

namespace SocketCommandSession
variable [SizeWidth]

/-- Handling one request, by the metadata and the calls it leaves. -/
def handleOne (s : SocketCommandSession H) (u : SocketCommandMetadata × Exterior H)
    (data : Bytes) : SocketCommandMetadata × Exterior H := (s.handleRequest data (true, u)).2

def handleAll (s : SocketCommandSession H) (payloads : List Bytes)
    (u : SocketCommandMetadata × Exterior H) : SocketCommandMetadata × Exterior H :=
  payloads.foldl s.handleOne u

/-- The request number in the metadata after each of these requests. -/
def requestIDs (s : SocketCommandSession H) :
    List Bytes → SocketCommandMetadata × Exterior H → List UInt64
  | [], _ => []
  | data :: payloads, u =>
    (s.handleOne u data).1.requestID :: s.requestIDs payloads (s.handleOne u data)

/-- The chunk is let in and a length is refused in it. -/
def rejects (s : SocketCommandSession H) (chunk : Bytes) : Bool :=
  let maximum := s.config.maximumRequestBytes.val
  !(sizeAdd maximum 4 < chunk.length && s.structured.isEmpty) &&
    (requestFramer maximum).fails (s.pending ++ chunk)

/-- `Feed` calls up to and including the one in which a length is refused. -/
def feedUntil : List Bytes → SocketCommandSession H → Exterior H → Outcome H
  | [], s, x => { rejected := false, requestIDs := [], metadata := s.metadata, exterior := x }
  | chunk :: chunks, s, x =>
    let r := s.feed chunk x
    let ids := s.requestIDs (handledIn x r.2.2) (s.metadata, x)
    if s.rejects chunk then
      { rejected := true, requestIDs := ids, metadata := r.2.1.metadata, exterior := r.2.2 }
    else
      let o := feedUntil chunks r.2.1 r.2.2
      { o with requestIDs := ids ++ o.requestIDs }

/-- A stream read in one piece. -/
def reading (s : SocketCommandSession H) (stream : Bytes)
    (u : SocketCommandMetadata × Exterior H) : Outcome H :=
  let framer := requestFramer s.config.maximumRequestBytes.val
  let payloads := framer.frames stream
  let v := s.handleAll payloads u
  { rejected := framer.fails stream
    requestIDs := s.requestIDs payloads u
    metadata := v.1
    exterior := if framer.fails stream then (s.emitStructuredError 0 exceedsLimit v.2).2 else v.2 }

/-- A session in structured mode that has this much of the next request. -/
structure Waits (maximum : ℕ) (part : Bytes) (s : SocketCommandSession H) : Prop where
  initialized : s.initialized = true
  mode : s.config.mode = .structuredBinary
  limit : s.config.maximumRequestBytes.val = maximum
  parked : s.park part s.metadata = s
  more : cutRequest maximum part = .more

theorem waits_nil {s : SocketCommandSession H} (hinit : s.initialized = true)
    (hmode : s.config.mode = .structuredBinary) (hbuffer : s.structured = [])
    (hexpected : s.expectedStructuredBytes = 0) :
    s.Waits s.config.maximumRequestBytes.val [] where
  initialized := hinit
  mode := hmode
  limit := rfl
  parked := by
    obtain ⟨registry, config, metadata, writer, policy, observer, line, structured, discard,
      expected, initialized⟩ := s
    obtain rfl : structured = [] := hbuffer
    obtain rfl : expected = 0 := hexpected
    rfl
  more := rfl

variable {maximum : ℕ} {part rest : Bytes} {s : SocketCommandSession H}

theorem Waits.park (h : s.Waits maximum part) (hrest : cutRequest maximum rest = .more)
    (metadata : SocketCommandMetadata) : (s.park rest metadata).Waits maximum rest where
  initialized := (park_initialized s rest metadata).trans h.initialized
  mode := by rw [park_config]; exact h.mode
  limit := by rw [park_config]; exact h.limit
  parked := park_park s rest metadata
  more := hrest

@[simp] theorem park_metadata (s : SocketCommandSession H) (rest : Bytes)
    (metadata : SocketCommandMetadata) : (s.park rest metadata).metadata = metadata := by
  unfold SocketCommandSession.park
  split_ifs <;> rfl

/-- What is buffered makes no difference to how requests are handled. -/
@[simp] theorem park_handleOne (s : SocketCommandSession H) (rest : Bytes)
    (metadata : SocketCommandMetadata) : (s.park rest metadata).handleOne = s.handleOne := by
  funext u data
  unfold SocketCommandSession.park
  split_ifs <;> rfl

theorem park_requestIDs (s : SocketCommandSession H) (rest : Bytes)
    (metadata : SocketCommandMetadata) (payloads : List Bytes)
    (u : SocketCommandMetadata × Exterior H) :
    (s.park rest metadata).requestIDs payloads u = s.requestIDs payloads u := by
  induction payloads generalizing u with
  | nil => rfl
  | cons data payloads ih => rw [requestIDs, requestIDs, park_handleOne, ih]

theorem park_reading (s : SocketCommandSession H) (rest : Bytes)
    (metadata : SocketCommandMetadata) (stream : Bytes)
    (u : SocketCommandMetadata × Exterior H) :
    (s.park rest metadata).reading stream u = s.reading stream u := by
  have hwriter : (s.park rest metadata).writer = s.writer := by
    unfold SocketCommandSession.park
    split_ifs <;> rfl
  simp only [reading, park_config, park_requestIDs, handleAll, park_handleOne, emitStructuredError,
    writeResponse, hwriter]

theorem handleAll_append (s : SocketCommandSession H) (payloads payloads' : List Bytes)
    (u : SocketCommandMetadata × Exterior H) :
    s.handleAll (payloads ++ payloads') u = s.handleAll payloads' (s.handleAll payloads u) :=
  List.foldl_append

theorem requestIDs_append (s : SocketCommandSession H) (payloads payloads' : List Bytes)
    (u : SocketCommandMetadata × Exterior H) :
    s.requestIDs (payloads ++ payloads') u =
      s.requestIDs payloads u ++ s.requestIDs payloads' (s.handleAll payloads u) := by
  induction payloads generalizing u with
  | nil => rfl
  | cons data payloads ih =>
    rw [List.cons_append, requestIDs, requestIDs, ih, List.cons_append]
    rfl

/-- The metadata and the calls do not depend on what was answered. -/
theorem foldl_handleRequest (s : SocketCommandSession H) (payloads : List Bytes)
    (t : Bool × SocketCommandMetadata × Exterior H) :
    (payloads.foldl (fun t data => s.handleRequest data t) t).2 = s.handleAll payloads t.2 := by
  induction payloads generalizing t with
  | nil => rfl
  | cons data payloads ih => exact ih (s.handleRequest data t)

theorem calls_handleAll (s : SocketCommandSession H) (payloads : List Bytes)
    (u : SocketCommandMetadata × Exterior H) :
    handledIn u.2 (s.handleAll payloads u).2 = payloads := by
  obtain ⟨accepted, -, hcalls, -⟩ := s.calls_handleRequests payloads (true, u)
  rw [foldl_handleRequest] at hcalls
  exact hcalls.handledIn

theorem Waits.rejects_eq (h : s.Waits maximum part) (chunk : Bytes) :
    s.rejects chunk = (admits maximum part.length chunk.length &&
      (requestFramer maximum).fails (part ++ chunk)) := by
  obtain ⟨-, -, rfl, hparked, hmore⟩ := h
  have hspec := park_spec hmore s.metadata
  rw [hparked] at hspec
  have hempty : s.structured.isEmpty = (part.length = 0 || part.length = 4 : Bool) := by
    rw [Bool.eq_iff_iff, List.isEmpty_iff, hspec.2.2.1]
    simp
  rw [rejects, hempty, hspec.1]
  rfl

/-- A chunk that is let in and leaves a part of the next request. -/
theorem Waits.feed_ok (h : s.Waits maximum part) {chunk : Bytes}
    (hadmitted : admits maximum part.length chunk.length = true)
    (hleft : (requestFramer maximum).leftover (part ++ chunk) = .ok rest)
    (hkept : rest.length < 4 → rest.length ≤ maximum) (x : Exterior H) :
    let u := s.handleAll ((requestFramer maximum).frames (part ++ chunk)) (s.metadata, x)
    (s.feed chunk x).2 = (s.park rest u.1, u.2) := by
  have hcut := cut_leftover hleft
  rw [requestFramer_cut] at hcut
  obtain ⟨hinit, hmode, rfl, hparked, hmore⟩ := h
  rw [feed_drain hinit hmode hparked hmore hadmitted, drain_leftover, hleft]
  dsimp only
  rw [settle_park hcut hkept, foldl_handleRequest]

/-- A chunk that is let in and in which a length is refused. -/
theorem Waits.feed_error (h : s.Waits maximum part) {chunk : Bytes}
    (hadmitted : admits maximum part.length chunk.length = true)
    (hleft : (requestFramer maximum).leftover (part ++ chunk) = .error ()) (x : Exterior H) :
    let u := s.handleAll ((requestFramer maximum).frames (part ++ chunk)) (s.metadata, x)
    (s.feed chunk x).2 = (s.park [] u.1, (s.emitStructuredError 0 exceedsLimit u.2).2) := by
  obtain ⟨hinit, hmode, rfl, hparked, hmore⟩ := h
  rw [feed_drain hinit hmode hparked hmore hadmitted, drain_leftover, hleft]
  dsimp only
  rw [foldl_handleRequest]

theorem Waits.feed_refused (h : s.Waits maximum part) {chunk : Bytes}
    (hrefuse : admits maximum part.length chunk.length = false) (x : Exterior H) :
    s.feed chunk x = (false, s, x) := by
  obtain ⟨hinit, hmode, rfl, hparked, hmore⟩ := h
  exact SocketCommandSession.feed_refused hinit hmode hparked hmore hrefuse x

/-- The error for a refused length starts no request. -/
theorem calls_refused (s : SocketCommandSession H) (payloads : List Bytes)
    (u : SocketCommandMetadata × Exterior H) :
    handledIn u.2 (s.emitStructuredError 0 exceedsLimit (s.handleAll payloads u).2).2 =
      payloads := by
  obtain ⟨accepted, -, hcalls, -⟩ := s.calls_handleRequests payloads (true, u)
  rw [foldl_handleRequest] at hcalls
  have hboth := (hcalls.trans (s.calls_writeResponse
    ⟨0, CommandLibrary.error Value exceedsLimit⟩ (s.handleAll payloads u).2)).handledIn
  rwa [List.append_nil] at hboth

/-- Chunks that are let in come to the reading of the stream. -/
theorem feedUntil_eq (h4 : 4 ≤ maximum) (h : s.Waits maximum part) {chunks : List Bytes}
    (hshort : ∀ chunk ∈ chunks, chunk.length ≤ sizeAdd maximum 4) (x : Exterior H) :
    feedUntil chunks s x = s.reading (part ++ chunks.flatten) (s.metadata, x) := by
  induction chunks generalizing part s x with
  | nil =>
    obtain ⟨-, -, rfl, -, hmore⟩ := h
    obtain ⟨hfails, hframes⟩ :=
      drain_of_more (F := requestFramer s.config.maximumRequestBytes.val) hmore
    simp [feedUntil, reading, hfails, hframes, handleAll, requestIDs]
  | cons chunk chunks ih =>
    have hadmitted : admits maximum part.length chunk.length = true := by
      simp [admits, hshort chunk List.mem_cons_self]
    have hrejects := h.rejects_eq chunk
    rw [hadmitted, Bool.true_and] at hrejects
    have hhandled := s.calls_handleAll ((requestFramer maximum).frames (part ++ chunk))
      (s.metadata, x)
    rw [List.flatten_cons, ← List.append_assoc, feedUntil, hrejects]
    dsimp only
    cases hleft : (requestFramer maximum).leftover (part ++ chunk) with
    | ok rest =>
      have hcut := cut_leftover hleft
      have hfails : (requestFramer maximum).fails (part ++ chunk) = false := by
        rw [fails, hleft]
      obtain ⟨hleft', hframes'⟩ := leftover_append hleft chunks.flatten
      rw [h.feed_ok hadmitted hleft (fun hlt => by omega), hfails, hhandled,
        ih (h.park hcut _) (fun c hc => hshort c (List.mem_cons_of_mem _ hc)), park_reading]
      obtain ⟨-, -, rfl, -, -⟩ := h
      simp only [Bool.false_eq_true, if_false, reading, hframes', fails, hleft', handleAll_append,
        requestIDs_append, park_metadata]
    | error e =>
      have hfails : (requestFramer maximum).fails (part ++ chunk) = true := by
        rw [fails, hleft]
      obtain ⟨hleft', hframes'⟩ := leftover_append_error hleft chunks.flatten
      have hrefused := s.calls_refused ((requestFramer maximum).frames (part ++ chunk))
        (s.metadata, x)
      rw [h.feed_error hadmitted hleft, hfails]
      dsimp only
      rw [hrefused]
      obtain ⟨-, -, rfl, -, -⟩ := h
      simp only [if_true, reading, hframes', fails, hleft', park_metadata]

/-- Nothing begins in `rest` behind `part`, nor behind any chunk that the size test can drop while
nothing is buffered. -/
def Quiet (maximum : ℕ) (part rest : Bytes) : Prop :=
  cutRequest maximum (part ++ rest) = .more ∧
    (part = [] → ∀ n, sizeAdd maximum 4 < n → cutRequest maximum (rest.drop n) = .more)

omit [SizeWidth] in
/-- Behind a length that was accepted, fewer bytes do not complete a request either. -/
theorem cutRequest_shorter {part ys zs : Bytes} (hpart : part.length = 4)
    (h : cutRequest maximum (part ++ ys) = .more) (hle : zs.length ≤ ys.length) :
    cutRequest maximum (part ++ zs) = .more := by
  have htake (ws : Bytes) : (part ++ ws).take 4 = part := by rw [← hpart, List.take_left]
  unfold cutRequest at h ⊢
  simp only [htake, List.length_append, hpart] at h ⊢
  rw [if_neg (by omega)] at h ⊢
  split_ifs at h with hvalid hlong
  rw [if_neg hvalid, if_pos (by omega)]

theorem Quiet.admitted {chunk : Bytes} (h : Quiet maximum part (chunk ++ rest)) :
    Quiet maximum (part ++ chunk) rest := by
  refine ⟨by rw [List.append_assoc]; exact h.1, fun hnil => ?_⟩
  obtain ⟨rfl, rfl⟩ := List.append_eq_nil_iff.mp hnil
  exact h.2 rfl

theorem Quiet.refused {chunk : Bytes} (h : Quiet maximum part (chunk ++ rest))
    (hrefuse : admits maximum part.length chunk.length = false) : Quiet maximum part rest := by
  simp only [admits, Bool.not_eq_false', Bool.and_eq_true, Bool.or_eq_true,
    decide_eq_true_eq] at hrefuse
  obtain ⟨hlong, hempty | hfour⟩ := hrefuse
  · obtain rfl := List.length_eq_zero_iff.mp hempty
    refine ⟨?_, fun _ n hn => ?_⟩
    · simpa using h.2 rfl chunk.length hlong
    · have hdrop := h.2 rfl (chunk.length + n) (by omega)
      rwa [← List.drop_drop, List.drop_left] at hdrop
  · refine ⟨cutRequest_shorter hfour h.1 (by simp), fun hnil => ?_⟩
    rw [hnil] at hfour
    cases hfour

/-- While nothing begins, nothing happens, whether the chunks are let in or not. -/
theorem feedUntil_quiet (h4 : 4 ≤ maximum) (h : s.Waits maximum part) {chunks : List Bytes}
    (hquiet : Quiet maximum part chunks.flatten) (x : Exterior H) :
    feedUntil chunks s x =
      { rejected := false, requestIDs := [], metadata := s.metadata, exterior := x } := by
  induction chunks generalizing part s with
  | nil => rfl
  | cons chunk chunks ih =>
    rw [List.flatten_cons] at hquiet
    have hrejects := h.rejects_eq chunk
    by_cases hadmitted : admits maximum part.length chunk.length = true
    · have hstream : (requestFramer maximum).cut (part ++ chunk ++ chunks.flatten) = .more := by
        rw [List.append_assoc]
        exact hquiet.1
      have hcut := cut_more_of_append hstream
      obtain ⟨hfails, hframes⟩ := drain_of_more hcut
      have hleft : (requestFramer maximum).leftover (part ++ chunk) = .ok (part ++ chunk) := by
        rw [leftover, drain_more _ hcut]
      have hfeed := h.feed_ok hadmitted hleft (fun hlt => by omega) x
      rw [hframes] at hfeed
      rw [feedUntil, hrejects, hfails, Bool.and_false, hfeed]
      have hnone : handledIn x x = [] := (Calls.refl x).handledIn
      simp only [handleAll, List.foldl_nil, hnone, requestIDs, Bool.false_eq_true, if_false,
        List.nil_append]
      rw [ih (h.park hcut _) hquiet.admitted, park_metadata]
    · have hrefuse : admits maximum part.length chunk.length = false := by simpa using hadmitted
      have hnone : handledIn x x = [] := (Calls.refl x).handledIn
      rw [feedUntil, hrejects, hrefuse, Bool.false_and, h.feed_refused hrefuse]
      simp only [hnone, requestIDs, Bool.false_eq_true, if_false, List.nil_append]
      exact ih h (hquiet.refused hrefuse)

/-- Chunks that the size test drops while nothing is buffered. -/
theorem feedUntil_dropped (h : s.Waits maximum []) {dropped : List Bytes}
    (hlong : ∀ chunk ∈ dropped, sizeAdd maximum 4 < chunk.length) (chunks : List Bytes)
    (x : Exterior H) : feedUntil (dropped ++ chunks) s x = feedUntil chunks s x := by
  induction dropped with
  | nil => rfl
  | cons chunk dropped ih =>
    have hrefuse : admits maximum ([] : Bytes).length chunk.length = false := by
      simp [admits, hlong chunk List.mem_cons_self]
    have hnone : handledIn x x = [] := (Calls.refl x).handledIn
    rw [List.cons_append, feedUntil, h.rejects_eq, hrefuse, Bool.false_and, h.feed_refused hrefuse]
    simp only [hnone, requestIDs, Bool.false_eq_true, if_false, List.nil_append]
    exact ih fun c hc => hlong c (List.mem_cons_of_mem _ hc)

/-- A sum that wraps to zero lets nothing in. -/
theorem feedUntil_shut (h : s.Waits maximum []) (hzero : sizeAdd maximum 4 = 0)
    (chunks : List Bytes) (x : Exterior H) :
    feedUntil chunks s x =
      { rejected := false, requestIDs := [], metadata := s.metadata, exterior := x } := by
  induction chunks with
  | nil => rfl
  | cons chunk chunks ih =>
    by_cases hempty : chunk = []
    · subst hempty
      have hleft : (requestFramer maximum).leftover ([] ++ []) = .ok [] := by
        rw [List.append_nil, leftover, drain_more _ rfl]
      have hfeed := h.feed_ok rfl hleft (fun _ => Nat.zero_le _) x
      have hcut : (requestFramer maximum).cut ([] ++ []) = .more := rfl
      obtain ⟨hfails, hframes⟩ := drain_of_more hcut
      have hnone : handledIn x x = [] := (Calls.refl x).handledIn
      rw [hframes] at hfeed
      rw [feedUntil, h.rejects_eq, hfails, Bool.and_false, hfeed]
      simp only [handleAll, List.foldl_nil, hnone, requestIDs, Bool.false_eq_true, if_false,
        List.nil_append, h.parked]
      exact ih
    · have hpos := List.length_pos_iff.mpr hempty
      rw [← ih]
      exact feedUntil_dropped h (List.forall_mem_singleton.mpr (by omega)) chunks x

/-- A stream at whose front something begins is not read as one in which nothing does. -/
theorem reading_ne {stream : Bytes} (h : cutRequest s.config.maximumRequestBytes.val stream ≠ .more)
    (u : SocketCommandMetadata × Exterior H) :
    (s.reading stream u).rejected = true ∨ (s.reading stream u).requestIDs ≠ [] := by
  cases hcut : (requestFramer s.config.maximumRequestBytes.val).cut stream with
  | more => exact absurd hcut h
  | fail e => exact .inl (drain_of_fail hcut).1
  | frame payload rest =>
    right
    simp [reading, (drain_of_frame hcut).2, requestIDs]

/-- The bytes of a list, one by one. -/
def oneByOne (stream : Bytes) : List Bytes := stream.map fun b => [b]

omit [SizeWidth] in
theorem partition_oneByOne (maximum : ℕ) (stream : Bytes) :
    Partition maximum stream (oneByOne stream) where
  flatten := by rw [oneByOne, ← List.flatMap_def, List.flatMap_singleton']
  short chunk hchunk := by
    obtain ⟨b, -, rfl⟩ := List.mem_map.mp hchunk
    rw [List.length_singleton]
    omega

/-- A window that lets single bytes in but no longer chunk than a length: where something begins
behind bytes that can be dropped, reading on byte by byte shows it and longer chunks do not. -/
theorem exists_disagreement (h4 : 4 ≤ maximum) (h : s.Waits maximum [])
    (hpos : 1 ≤ sizeAdd maximum 4) (hwindow : sizeAdd maximum 4 ≤ 3) {stream : Bytes} {n : ℕ}
    (hn : n = 0 ∨ sizeAdd maximum 4 < n) (hbegins : cutRequest maximum (stream.drop n) ≠ .more)
    (x : Exterior H) :
    ∃ chunks chunks', Partition maximum stream chunks ∧ Partition maximum stream chunks' ∧
      feedUntil chunks s x ≠ feedUntil chunks' s x := by
  have hfour : 4 ≤ (stream.drop n).length := by
    by_contra hless
    exact hbegins (if_pos (by omega))
  rw [List.length_drop] at hfour
  have hwhole : sizeAdd maximum 4 < stream.length := by omega
  obtain ⟨all, hall, hlong⟩ := exists_long_chunks (m := maximum + 4) (by omega) hwhole
  obtain ⟨dropped, hdropped, hlong'⟩ : ∃ dropped : List Bytes, dropped.flatten = stream.take n ∧
      ∀ chunk ∈ dropped, sizeAdd maximum 4 < chunk.length ∧ chunk.length ≤ maximum + 4 := by
    rcases hn with rfl | hn
    · exact ⟨[], by simp, by simp⟩
    · refine exists_long_chunks (by omega) ?_
      rw [List.length_take]
      omega
  have hsingle := partition_oneByOne maximum (stream.drop n)
  refine ⟨all, dropped ++ oneByOne (stream.drop n), ⟨hall, fun c hc => (hlong c hc).2⟩, ?_, ?_⟩
  · constructor
    · rw [List.flatten_append, hdropped, hsingle.flatten, List.take_append_drop]
    · intro c hc
      rcases List.mem_append.mp hc with hc | hc
      · exact (hlong' c hc).2
      · exact hsingle.short c hc
  · have hnothing := feedUntil_dropped h (fun c hc => (hlong c hc).1) [] x
    have hread : feedUntil (oneByOne (stream.drop n)) s x =
        s.reading (stream.drop n) (s.metadata, x) := by
      rw [feedUntil_eq h4 h ?_ x, hsingle.flatten, List.nil_append]
      intro c hc
      obtain ⟨b, -, rfl⟩ := List.mem_map.mp hc
      exact hpos
    rw [List.append_nil] at hnothing
    rw [hnothing, feedUntil_dropped h (fun c hc => (hlong' c hc).1), hread]
    intro hagree
    rw [← h.limit] at hbegins
    rcases reading_ne hbegins (s.metadata, x) with hrejected | hids
    · rw [← hagree] at hrejected
      cases hrejected
    · rw [← hagree] at hids
      exact hids rfl

/-- Any two ways to cut a stream come to the same exactly when `MaximumRequestBytes + 4` does not
wrap, or nothing begins in the stream wherever the size test lets the session look. -/
theorem chunk_independent_iff (s : SocketCommandSession H) (hinit : s.initialized = true)
    (hmode : s.config.mode = .structuredBinary) (hbuffer : s.structured = [])
    (hexpected : s.expectedStructuredBytes = 0) (h4 : 4 ≤ s.config.maximumRequestBytes.val)
    (stream : Bytes) (x : Exterior H) :
    (∀ chunks chunks', Partition s.config.maximumRequestBytes.val stream chunks →
        Partition s.config.maximumRequestBytes.val stream chunks' →
        feedUntil chunks s x = feedUntil chunks' s x) ↔
      s.config.maximumRequestBytes.val + 4 ≤ 2 ^ SizeWidth.bits ∨
        Quiet s.config.maximumRequestBytes.val [] stream := by
  have hwaits := waits_nil hinit hmode hbuffer hexpected
  have hlt := s.config.maximumRequestBytes.isLt
  generalize s.config.maximumRequestBytes.val = maximum at *
  constructor
  · intro hsame
    by_contra hneither
    obtain ⟨hwrap, hloud⟩ := not_or.mp hneither
    have hwindow : sizeAdd maximum 4 = maximum + 4 - 2 ^ SizeWidth.bits := by
      rw [sizeAdd, Nat.mod_eq_sub_mod (by omega), Nat.mod_eq_of_lt (by omega)]
    obtain ⟨n, hn, hbegins⟩ : ∃ n, (n = 0 ∨ sizeAdd maximum 4 < n) ∧
        cutRequest maximum (stream.drop n) ≠ .more := by
      by_contra hnone
      push Not at hnone
      exact hloud ⟨hnone 0 (.inl rfl), fun _ n hn => hnone n (.inr hn)⟩
    obtain ⟨chunks, chunks', hchunks, hchunks', hne⟩ :=
      exists_disagreement h4 hwaits (by omega) (by omega) hn hbegins x
    exact hne (hsame chunks chunks' hchunks hchunks')
  · rintro (hfits | hquiet) chunks chunks' ⟨hflatten, hshort⟩ ⟨hflatten', hshort'⟩
    · rcases hfits.lt_or_eq with hfits | hzero
      · have hsum := sizeAdd_eq hfits
        rw [feedUntil_eq h4 hwaits (fun c hc => hsum ▸ hshort c hc), hflatten,
          feedUntil_eq h4 hwaits (fun c hc => hsum ▸ hshort' c hc), hflatten']
      · have hsum : sizeAdd maximum 4 = 0 := by rw [sizeAdd, hzero, Nat.mod_self]
        rw [feedUntil_shut hwaits hsum, feedUntil_shut hwaits hsum]
    · rw [feedUntil_quiet h4 hwaits (hflatten ▸ hquiet),
        feedUntil_quiet h4 hwaits (hflatten' ▸ hquiet)]

end SocketCommandSession

/-- A session with no limit on what a request may be. -/
def unlimitedSession : @SocketCommandSession ScalarValue scalarLibrary directHost SizeWidth.esp32 :=
  letI := scalarLibrary
  letI := SizeWidth.esp32
  SocketCommandSession.opened (H := directHost) ()
    { mode := .structuredBinary, maximumRequestBytes := sizeConstant 0xFFFFFFFF } {} () none none

/-- A frame of one byte: whole it is taken for longer than 2^32 + 3 bytes, one by one its bytes are
let in. -/
theorem whole_frame_dropped :
    letI := scalarLibrary
    letI := SizeWidth.esp32
    let s := unlimitedSession
    let x : Exterior directHost := { world := () }
    let stream : Bytes := [0, 0, 0, 1, 9]
    4 ≤ s.config.maximumRequestBytes.val ∧
      Partition s.config.maximumRequestBytes.val stream [stream] ∧
      Partition s.config.maximumRequestBytes.val stream (SocketCommandSession.oneByOne stream) ∧
      handledIn x (SocketCommandSession.feedUntil [stream] s x).exterior = [] ∧
      handledIn x (SocketCommandSession.feedUntil (SocketCommandSession.oneByOne stream) s
        x).exterior = [[9]] := by
  let := scalarLibrary
  let := SizeWidth.esp32
  refine ⟨by decide, ⟨rfl, ?_⟩, SocketCommandSession.partition_oneByOne _ _, ?_, ?_⟩
  · decide +kernel
  · decide +kernel
  · decide +kernel

theorem chunk_independent_small :
    letI := scalarLibrary
    letI := SizeWidth.host
    let stream := (twoRequests.map frameStructuredPayload).flatten ++ [0, 0, 1, 0, 7]
    ∀ chunks chunks', Partition 64 stream chunks → Partition 64 stream chunks' →
      SocketCommandSession.feedUntil chunks smallSession { world := () } =
        SocketCommandSession.feedUntil chunks' smallSession { world := () } := by
  let := scalarLibrary
  let := SizeWidth.host
  exact (SocketCommandSession.chunk_independent_iff smallSession rfl rfl rfl rfl (by decide)
    ((twoRequests.map frameStructuredPayload).flatten ++ [0, 0, 1, 0, 7])
    { world := () }).mpr (.inl (by decide))

end Sockets.Command
