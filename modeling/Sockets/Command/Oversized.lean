import Sockets.Command.Chunks

/-! Frames above the limit: when their payloads are skipped. -/
namespace Sockets.Command
open Foundation Framer

/-- What a session does with the frame at `start`: it handles the payload, or refuses the length. -/
inductive Deed where
  | handled (start : ℕ) (payload : Bytes)
  | refused (start : ℕ)
  deriving DecidableEq

def Deed.start : Deed → ℕ
  | .handled start _ | .refused start => start

/-- The deeds on bytes of which the first is at `front`. -/
def deeds : ℕ → List Bytes → Bool → List Deed
  | front, [], rejected => if rejected then [.refused front] else []
  | front, payload :: payloads, rejected =>
    .handled front payload :: deeds (front + (4 + payload.length)) payloads rejected

/-- The deeds that a stream of frames asks for. -/
def deedsDue (maximum : ℕ) : ℕ → List Bytes → List Deed
  | _, [] => []
  | front, payload :: payloads =>
    (if payload.length ≤ maximum then .handled front payload else .refused front) ::
      deedsDue maximum (front + (4 + payload.length)) payloads

/-- A payload that a frame can announce. -/
structure Framed (payload : Bytes) : Prop where
  pos : 1 ≤ payload.length
  lt_uint32 : payload.length < 2 ^ 32

def framed (payloads : List Bytes) : Bytes := (payloads.map frameStructuredPayload).flatten

/-- Where a number of bytes of a stream of frames ends: in a frame under way, of which so many bytes
have arrived, or behind the length of one above the limit, with so many bytes. -/
inductive Reach where
  | underway (payloads : List Bytes) (arrived : ℕ)
  | oversized (payload : Bytes) (payloads : List Bytes) (arrived : ℕ)

def reach (maximum : ℕ) : List Bytes → ℕ → Reach
  | [], n => .underway [] n
  | payload :: payloads, n =>
    if n < 4 then .underway (payload :: payloads) n
    else if maximum < payload.length then .oversized payload payloads (n - 4)
    else if n < 4 + payload.length then .underway (payload :: payloads) n
    else reach maximum payloads (n - (4 + payload.length))

theorem Framed.frame_eq {payload : Bytes} (h : Framed payload) :
    frameStructuredPayload payload = beBytes 4 payload.length ++ payload :=
  frameStructuredPayload_eq h.lt_uint32

theorem length_frame {payload : Bytes} (h : payload.length < 2 ^ 32) :
    (frameStructuredPayload payload).length = 4 + payload.length := by
  rw [frameStructuredPayload_eq h, List.length_append, length_beBytes]

theorem Framed.carries {maximum : ℕ} {payload : Bytes} (h : Framed payload)
    (hmax : payload.length ≤ maximum) : Carries maximum payload :=
  ⟨Nat.pos_iff_ne_zero.mp h.pos, hmax, h.lt_uint32⟩

theorem cutRequest_oversized {maximum n : ℕ} (hmax : maximum < n) (h : n < 2 ^ 32) (tail : Bytes) :
    cutRequest maximum (beBytes 4 n ++ tail) = .fail () := by
  have htake : (beBytes 4 n ++ tail).take 4 = beBytes 4 n := List.take_left' (length_beBytes 4 n)
  have hn : beNat (beBytes 4 n) = n := beNat_beBytes 4 n h
  rw [cutRequest, htake, hn, if_neg (by simp)]
  exact if_pos (.inr hmax)

/-- A part of a stream of frames is some frames within the limit, and then a part of the next one or
the length of one above the limit. -/
theorem reach_spec (maximum : ℕ) {payloads : List Bytes} (hframed : ∀ p ∈ payloads, Framed p)
    {xs ys : Bytes} (h : xs ++ ys = framed payloads) :
    (∃ sent rest part, payloads = sent ++ rest ∧ (∀ p ∈ sent, Carries maximum p) ∧
      xs = framed sent ++ part ∧ cutRequest maximum part = .more ∧
        reach maximum payloads xs.length = .underway rest part.length) ∨
    ∃ sent payload rest tail, payloads = sent ++ payload :: rest ∧
      (∀ p ∈ sent, Carries maximum p) ∧ maximum < payload.length ∧
      xs = framed sent ++ (beBytes 4 payload.length ++ tail) ∧
        reach maximum payloads xs.length = .oversized payload rest tail.length := by
  induction payloads generalizing xs with
  | nil =>
    obtain ⟨rfl, -⟩ := List.append_eq_nil_iff.mp h
    exact .inl ⟨[], [], [], rfl, by simp, rfl, rfl, rfl⟩
  | cons payload payloads ih =>
    have hpayload := hframed payload List.mem_cons_self
    have hframe := hpayload.frame_eq
    have hfront : xs ++ ys = beBytes 4 payload.length ++ (payload ++ framed payloads) := by
      rw [h, framed, List.map_cons, List.flatten_cons, hframe, List.append_assoc]
      rfl
    by_cases hshort : xs.length < 4
    · exact .inl ⟨[], payload :: payloads, xs, rfl, by simp, rfl, if_pos hshort,
        by rw [reach, if_pos hshort]⟩
    · obtain ⟨tail, rfl⟩ := List.prefix_of_prefix_length_le
        (List.prefix_append (beBytes 4 payload.length) _) ⟨ys, hfront⟩
        (by rw [length_beBytes]; omega)
      have htail : tail ++ ys = payload ++ framed payloads := by simpa using hfront
      have hlength : (beBytes 4 payload.length ++ tail).length = 4 + tail.length := by simp
      rw [hlength] at hshort ⊢
      rw [reach, if_neg hshort, Nat.add_sub_cancel_left, Nat.add_sub_add_left]
      by_cases hmax : maximum < payload.length
      · exact .inr ⟨[], payload, payloads, tail, rfl, by simp, hmax, rfl, by rw [if_pos hmax]⟩
      · have hcarries := hpayload.carries (not_lt.mp hmax)
        rw [if_neg hmax]
        by_cases hpart : tail.length < payload.length
        · refine .inl ⟨[], payload :: payloads, beBytes 4 payload.length ++ tail, rfl, by simp, rfl,
            ?_, ?_⟩
          · rw [cutRequest_announced hcarries, if_pos hpart]
          · rw [if_pos (by omega), hlength]
        · obtain ⟨tail', rfl⟩ := List.prefix_of_prefix_length_le (List.prefix_append payload _)
            ⟨ys, htail⟩ (not_lt.mp hpart)
          have hrest : tail' ++ ys = framed payloads := by simpa using htail
          have hjoin (sent : List Bytes) (zs : Bytes) :
              beBytes 4 payload.length ++ (payload ++ (framed sent ++ zs)) =
                framed (payload :: sent) ++ zs := by
            rw [framed, framed, List.map_cons, List.flatten_cons, hframe]
            simp
          rw [if_neg (by omega), List.length_append, Nat.add_sub_cancel_left]
          rcases ih (fun p hp => hframed p (List.mem_cons_of_mem _ hp)) hrest with
            ⟨sent, rest, part, rfl, hsent, rfl, hcut, hreach⟩ |
            ⟨sent, p, rest, tail, rfl, hsent, hover, rfl, hreach⟩
          · exact .inl ⟨payload :: sent, rest, part, rfl,
              List.forall_mem_cons.mpr ⟨hcarries, hsent⟩, hjoin _ _, hcut, hreach⟩
          · exact .inr ⟨payload :: sent, p, rest, tail, rfl,
              List.forall_mem_cons.mpr ⟨hcarries, hsent⟩, hover, hjoin _ _, hreach⟩

section
variable {Value : Type} [CommandLibrary Value] {H : CommandHost Value}

namespace SocketCommandSession

variable (Value) in
/-- The frame of the limit error. -/
def limitResponse : Bytes :=
  responseFrame { requestID := 0, result := CommandLibrary.error Value exceedsLimit }

theorem limitResponse_ne_nil [LawfulErrors Value] : limitResponse Value ≠ [] := by
  intro hnil
  have hlength := (responseFrame_eq_nil_iff _).mp hnil
  rw [LawfulErrors.message_error] at hlength
  exact absurd hlength (by decide)

variable [SizeWidth]

/-- `Feed` calls from some byte of the stream on: the deeds of each, and the session and the outside
at the end. What is buffered are the bytes before that byte. -/
def feedTrace : ℕ → List Bytes → SocketCommandSession H → Exterior H →
    List Deed × SocketCommandSession H × Exterior H
  | _, [], s, x => ([], s, x)
  | fed, chunk :: chunks, s, x =>
    let r := s.feed chunk x
    let t := feedTrace (fed + chunk.length) chunks r.2.1 r.2.2
    (deeds (fed - s.pending.length) (handledIn x r.2.2) (s.rejects chunk) ++ t.1, t.2)

/-- What one frame of the stream asks for: a request is handled, and a frame above the limit has one
response, the limit error. -/
def serveFrame (s : SocketCommandSession H) (u : SocketCommandMetadata × Exterior H)
    (payload : Bytes) : SocketCommandMetadata × Exterior H :=
  if payload.length ≤ s.config.maximumRequestBytes.val then s.handleOne u payload
  else (u.1, (u.2.write s.writer (limitResponse Value)).2)

/-- Every frame of a stream is handled or refused where it is, once and in order, and no other byte
is read as a length. -/
structure Skips (s : SocketCommandSession H) (payloads chunks : List Bytes) (x : Exterior H) :
    Prop where
  deeds : (feedTrace 0 chunks s x).1 = deedsDue s.config.maximumRequestBytes.val 0 payloads
  nothingRead : (feedTrace 0 chunks s x).2.1.expectedStructuredBytes = 0
  outside : ((feedTrace 0 chunks s x).2.1.metadata, (feedTrace 0 chunks s x).2.2) =
    payloads.foldl s.serveFrame (s.metadata, x)

/-- With `n` bytes of the first of these frames arrived, every chunk is let in and leaves no more of
a length than is kept; and one that completes the length of a frame above the limit ends with
that frame, or the rest of the stream is too short for a length. -/
def aligned (maximum : ℕ) : List Bytes → ℕ → List Bytes → Bool
  | _, _, [] => true
  | payloads, n, chunk :: chunks =>
    admits maximum n chunk.length &&
      match reach maximum payloads (n + chunk.length) with
      | .underway rest n => (4 ≤ n || n ≤ maximum) && aligned maximum rest n chunks
      | .oversized payload rest n =>
        if n = payload.length then aligned maximum rest 0 chunks
        else rest.isEmpty && payload.length < n + 4

variable {maximum : ℕ} {part rest : Bytes} {s : SocketCommandSession H}

theorem Waits.pending_eq (h : s.Waits maximum part) : s.pending = part := by
  obtain ⟨-, -, rfl, hparked, hmore⟩ := h
  rw [← hparked]
  exact (park_spec hmore s.metadata).1

theorem Waits.expecting (h : s.Waits maximum part) :
    s.expectedStructuredBytes = 0 ↔ part.length < 4 := by
  have hpending := h.pending_eq
  obtain ⟨-, -, -, hparked, hmore⟩ := h
  constructor
  · intro hzero
    by_contra hlong
    rw [← hparked] at hzero
    simp only [SocketCommandSession.park, if_neg hlong] at hzero
    simp [cutRequest, hlong, hzero] at hmore
  · intro hshort
    rw [← hparked]
    simp [SocketCommandSession.park, hshort]

/-- A chunk that is let in and leaves a part of the next request. -/
theorem Waits.trace_ok (h : s.Waits maximum part) {chunk : Bytes}
    (hadmitted : admits maximum part.length chunk.length = true)
    (hleft : (requestFramer maximum).leftover (part ++ chunk) = .ok rest)
    (hkept : rest.length < 4 → rest.length ≤ maximum) (front : ℕ) (chunks : List Bytes)
    (x : Exterior H) :
    let payloads := (requestFramer maximum).frames (part ++ chunk)
    let u := s.handleAll payloads (s.metadata, x)
    let t := feedTrace (front + (part ++ chunk).length) chunks (s.park rest u.1) u.2
    feedTrace (front + part.length) (chunk :: chunks) s x =
      (deeds front payloads false ++ t.1, t.2) := by
  have hfails : (requestFramer maximum).fails (part ++ chunk) = false := by rw [fails, hleft]
  have hhandled := s.calls_handleAll ((requestFramer maximum).frames (part ++ chunk))
    (s.metadata, x)
  rw [feedTrace, h.feed_ok hadmitted hleft hkept, h.rejects_eq, hfails, Bool.and_false, hhandled,
    h.pending_eq, Nat.add_sub_cancel, List.length_append, Nat.add_assoc]

/-- A chunk that is let in and in which a length is refused. -/
theorem Waits.trace_error (h : s.Waits maximum part) {chunk : Bytes}
    (hadmitted : admits maximum part.length chunk.length = true)
    (hleft : (requestFramer maximum).leftover (part ++ chunk) = .error ()) (front : ℕ)
    (chunks : List Bytes) (x : Exterior H) :
    let payloads := (requestFramer maximum).frames (part ++ chunk)
    let u := s.handleAll payloads (s.metadata, x)
    let t := feedTrace (front + (part ++ chunk).length) chunks (s.park [] u.1)
      (s.emitStructuredError 0 exceedsLimit u.2).2
    feedTrace (front + part.length) (chunk :: chunks) s x =
      (deeds front payloads true ++ t.1, t.2) := by
  have hfails : (requestFramer maximum).fails (part ++ chunk) = true := by rw [fails, hleft]
  have hhandled := (s.calls_refused ((requestFramer maximum).frames (part ++ chunk))
    (s.metadata, x))
  rw [feedTrace, h.feed_error hadmitted hleft, h.rejects_eq, hfails, hadmitted, hhandled,
    h.pending_eq, Nat.add_sub_cancel, List.length_append, Nat.add_assoc]
  rfl

omit [SizeWidth] in
theorem leftover_underway {sent : List Bytes} (hsent : ∀ p ∈ sent, Carries maximum p)
    (hcut : cutRequest maximum part = .more) :
    (requestFramer maximum).leftover (framed sent ++ part) = .ok part ∧
      (requestFramer maximum).frames (framed sent ++ part) = sent := by
  obtain ⟨hleft, hframes⟩ := leftover_encoded (F := requestFramer maximum)
    (fun p hp => encodes_request (hsent p hp)) part
  have hmore : (requestFramer maximum).cut part = .more := hcut
  rw [framed, hleft, hframes, (drain_of_more hmore).2, List.append_nil, leftover,
    drain_more _ hmore]
  exact ⟨rfl, rfl⟩

omit [SizeWidth] in
theorem leftover_oversized {sent : List Bytes} (hsent : ∀ p ∈ sent, Carries maximum p)
    (hcut : cutRequest maximum part = .fail ()) :
    (requestFramer maximum).leftover (framed sent ++ part) = .error () ∧
      (requestFramer maximum).frames (framed sent ++ part) = sent := by
  obtain ⟨hleft, hframes⟩ := leftover_encoded (F := requestFramer maximum)
    (fun p hp => encodes_request (hsent p hp)) part
  have hfail : (requestFramer maximum).cut part = .fail () := hcut
  rw [framed, hleft, hframes, (drain_of_fail hfail).2, List.append_nil, leftover,
    drain_fail _ hfail]
  exact ⟨rfl, rfl⟩

omit [SizeWidth] in
/-- A whole frame does not wait for more. -/
theorem cut_frame_ne_more {payload : Bytes} (h : Framed payload) (ys : Bytes) :
    cutRequest maximum (frameStructuredPayload payload ++ ys) ≠ .more := by
  by_cases hmax : payload.length ≤ maximum
  · have hcut := (encodes_request (h.carries hmax)).cut_encode ys
    rw [requestFramer_cut] at hcut
    simp [hcut]
  · rw [h.frame_eq, List.append_assoc, cutRequest_oversized (not_le.mp hmax) h.lt_uint32]
    simp

omit [SizeWidth] in
/-- A part of a request is no stream of frames. -/
theorem eq_nil_of_more (hmore : cutRequest maximum part = .more) {payloads : List Bytes}
    (hframed : ∀ p ∈ payloads, Framed p) (hstream : part = framed payloads) :
    payloads = [] ∧ part = [] := by
  cases payloads with
  | nil => exact ⟨rfl, hstream⟩
  | cons payload payloads =>
    rw [hstream] at hmore
    exact absurd hmore (cut_frame_ne_more (hframed payload List.mem_cons_self) _)

omit [SizeWidth] in
theorem framed_append (sent rest : List Bytes) :
    framed (sent ++ rest) = framed sent ++ framed rest := by
  simp [framed]

omit [SizeWidth] in
theorem deedsDue_append (front : ℕ) {sent : List Bytes} (hsent : ∀ p ∈ sent, Carries maximum p)
    (rest : List Bytes) :
    deedsDue maximum front (sent ++ rest) =
      deeds front sent false ++ deedsDue maximum (front + (framed sent).length) rest := by
  induction sent generalizing front with
  | nil => rfl
  | cons payload sent ih =>
    have hcarries := hsent payload List.mem_cons_self
    rw [List.cons_append, deedsDue, deeds, if_pos hcarries.le_maximum,
      ih _ fun p hp => hsent p (List.mem_cons_of_mem _ hp), framed, framed, List.map_cons,
      List.flatten_cons, List.length_append, length_frame hcarries.lt_uint32, List.cons_append,
      Nat.add_assoc]

omit [SizeWidth] in
theorem deeds_true (front : ℕ) {sent : List Bytes} (hsent : ∀ p ∈ sent, Carries maximum p) :
    deeds front sent true =
      deeds front sent false ++ [.refused (front + (framed sent).length)] := by
  induction sent generalizing front with
  | nil => rfl
  | cons payload sent ih =>
    have hcarries := hsent payload List.mem_cons_self
    rw [deeds, deeds, ih _ fun p hp => hsent p (List.mem_cons_of_mem _ hp), framed, framed,
      List.map_cons, List.flatten_cons, List.length_append, length_frame hcarries.lt_uint32,
      List.cons_append, Nat.add_assoc]

omit [SizeWidth] in
theorem deedsDue_oversized (front : ℕ) {sent : List Bytes} {payload : Bytes}
    (hsent : ∀ p ∈ sent, Carries maximum p) (hover : maximum < payload.length)
    (rest : List Bytes) :
    deedsDue maximum front (sent ++ payload :: rest) = deeds front sent true ++
      deedsDue maximum (front + (framed sent).length + (4 + payload.length)) rest := by
  rw [deedsDue_append front hsent, deeds_true front hsent, deedsDue, if_neg (not_le.mpr hover),
    List.append_assoc, List.singleton_append]

omit [SizeWidth] in
/-- What has arrived behind the length of a frame, and what has not, are its payload and the frames
behind it. -/
theorem tail_of_oversized {sent rest : List Bytes} {payload tail ys : Bytes}
    (hpayload : Framed payload)
    (h : framed sent ++ (beBytes 4 payload.length ++ tail) ++ ys =
      framed (sent ++ payload :: rest)) : tail ++ ys = payload ++ framed rest := by
  have hframe := hpayload.frame_eq
  rw [framed_append, List.append_assoc, List.append_assoc] at h
  have hbody := List.append_cancel_left h
  rw [framed, List.map_cons, List.flatten_cons, hframe, List.append_assoc] at hbody
  exact List.append_cancel_left hbody

@[simp] theorem park_serveFrame (s : SocketCommandSession H) (rest : Bytes)
    (metadata : SocketCommandMetadata) : (s.park rest metadata).serveFrame = s.serveFrame := by
  funext u data
  unfold SocketCommandSession.park
  split_ifs <;> rfl

theorem foldl_serveFrame (h : s.config.maximumRequestBytes.val = maximum) {sent : List Bytes}
    (hsent : ∀ p ∈ sent, Carries maximum p) (u : SocketCommandMetadata × Exterior H) :
    sent.foldl s.serveFrame u = s.handleAll sent u := by
  induction sent generalizing u with
  | nil => rfl
  | cons payload sent ih =>
    have hmax := (hsent payload List.mem_cons_self).le_maximum
    rw [List.foldl_cons, serveFrame, h, if_pos hmax,
      ih fun p hp => hsent p (List.mem_cons_of_mem _ hp)]
    rfl

theorem serveFrame_oversized {payload : Bytes}
    (hover : s.config.maximumRequestBytes.val < payload.length)
    (u : SocketCommandMetadata × Exterior H) :
    s.serveFrame u payload = (u.1, (u.2.write s.writer (limitResponse Value)).2) :=
  if_neg (not_le.mpr hover)

/-- Less than a length does nothing, whether it is let in and kept or not. -/
theorem feed_short (hinit : s.initialized = true) (hmode : s.config.mode = .structuredBinary)
    (hexpected : s.expectedStructuredBytes = 0) {chunk : Bytes}
    (hshort : s.structured.length + chunk.length < 4) (x : Exterior H) :
    ∃ buffer : Bytes, (s.feed chunk x).2 = ({ s with structured := buffer }, x) ∧
      buffer.length ≤ s.structured.length + chunk.length ∧ s.rejects chunk = false := by
  have hpending : s.pending = s.structured := by simp [pending, hexpected]
  have hlength : (s.structured ++ chunk).length < 4 := by
    rw [List.length_append]
    exact hshort
  have hcut : (requestFramer s.config.maximumRequestBytes.val).cut (s.structured ++ chunk) =
      .more := if_pos hlength
  have hrejects : s.rejects chunk = false := by
    rw [rejects, hpending, (drain_of_more hcut).1, Bool.and_false]
  have hfeed : s.feed chunk x = s.feedStructured chunk x := by
    simp only [feed, hinit, hmode, Bool.not_true, Bool.false_eq_true, if_false]
  rw [hfeed, feedStructured]
  split_ifs with hrefuse
  · exact ⟨s.structured, rfl, by omega, hrejects⟩
  · have hwait : ({ s with structured := s.structured ++ chunk } : SocketCommandSession H).expect =
        .wait := by
      simp only [expect, hexpected, ne_eq, not_true_eq_false, if_false, if_pos hlength]
    rw [structuredLoop_wait hwait]
    unfold settle
    split_ifs
    · exact ⟨[], by rw [hexpected], Nat.zero_le _, hrejects⟩
    · exact ⟨s.structured ++ chunk, rfl, le_of_eq List.length_append, hrejects⟩

/-- Nor does a stream that is too short for a length. -/
theorem trace_short (hinit : s.initialized = true) (hmode : s.config.mode = .structuredBinary)
    (hexpected : s.expectedStructuredBytes = 0) {chunks : List Bytes}
    (hshort : s.structured.length + chunks.flatten.length < 4) (fed : ℕ) (x : Exterior H) :
    let t := feedTrace fed chunks s x
    t.1 = [] ∧ t.2.1.expectedStructuredBytes = 0 ∧ (t.2.1.metadata, t.2.2) = (s.metadata, x) := by
  induction chunks generalizing s fed with
  | nil => exact ⟨rfl, hexpected, rfl⟩
  | cons chunk chunks ih =>
    rw [List.flatten_cons, List.length_append] at hshort
    have hless : s.structured.length + chunk.length < 4 := by omega
    obtain ⟨buffer, hfeed, hbuffer, hrejects⟩ := feed_short hinit hmode hexpected hless x
    have hnone : handledIn x x = [] := (Calls.refl x).handledIn
    obtain ⟨hdeeds, hrest⟩ := ih (s := { s with structured := buffer }) hinit hmode hexpected
      (by simp only; omega) (fed + chunk.length)
    rw [feedTrace, hfeed, hrejects]
    dsimp only at hdeeds hrest ⊢
    rw [hnone, hdeeds]
    exact ⟨rfl, hrest⟩

/-- A chunk that completes the frames `sent` and leaves a part of the next one. -/
theorem Waits.trace_underway (h : s.Waits maximum part) {chunk part' : Bytes} {sent : List Bytes}
    (hadmitted : admits maximum part.length chunk.length = true)
    (hsent : ∀ p ∈ sent, Carries maximum p) (hxs : part ++ chunk = framed sent ++ part')
    (hcut : cutRequest maximum part' = .more)
    (hkept : part'.length < 4 → part'.length ≤ maximum) (front : ℕ) (chunks : List Bytes)
    (x : Exterior H) :
    let u := s.handleAll sent (s.metadata, x)
    let t := feedTrace (front + (framed sent).length + part'.length) chunks (s.park part' u.1) u.2
    feedTrace (front + part.length) (chunk :: chunks) s x =
      (deeds front sent false ++ t.1, t.2) := by
  obtain ⟨hleft, hframes⟩ := leftover_underway hsent hcut
  rw [← hxs] at hleft hframes
  have htrace := h.trace_ok hadmitted hleft hkept front chunks x
  rwa [hframes, hxs, List.length_append, ← Nat.add_assoc] at htrace

/-- A chunk that completes the frames `sent` and then the length of one above the limit. -/
theorem Waits.trace_oversized [LawfulErrors Value] (h : s.Waits maximum part)
    {chunk payload tail : Bytes} {sent : List Bytes}
    (hadmitted : admits maximum part.length chunk.length = true)
    (hsent : ∀ p ∈ sent, Carries maximum p)
    (hxs : part ++ chunk = framed sent ++ (beBytes 4 payload.length ++ tail))
    (hpayload : Framed payload) (hover : maximum < payload.length) (front : ℕ)
    (chunks : List Bytes) (x : Exterior H) :
    let u := s.handleAll sent (s.metadata, x)
    let t := feedTrace (front + (framed sent).length + (4 + tail.length)) chunks (s.park [] u.1)
      (u.2.write s.writer (limitResponse Value)).2
    feedTrace (front + part.length) (chunk :: chunks) s x =
      (deeds front sent true ++ t.1, t.2) := by
  obtain ⟨hleft, hframes⟩ := leftover_oversized hsent
    (cutRequest_oversized hover hpayload.lt_uint32 tail)
  rw [← hxs] at hleft hframes
  have htrace := h.trace_error hadmitted hleft front chunks x
  have hwrite (y : Exterior H) : s.emitStructuredError 0 exceedsLimit y =
      y.write s.writer (limitResponse Value) := if_neg limitResponse_ne_nil
  simp only [hwrite] at htrace
  rwa [hframes, hxs, List.length_append, List.length_append, length_beBytes,
    ← Nat.add_assoc] at htrace

/-- From the middle of a stream on: chunks that are aligned with the frames skip those above the
limit. -/
theorem aligned_trace [LawfulErrors Value] {payloads chunks : List Bytes}
    (h : s.Waits maximum part) (hframed : ∀ p ∈ payloads, Framed p)
    (hstream : part ++ chunks.flatten = framed payloads)
    (haligned : aligned maximum payloads part.length chunks = true) (front : ℕ) (x : Exterior H) :
    let t := feedTrace (front + part.length) chunks s x
    t.1 = deedsDue maximum front payloads ∧ t.2.1.expectedStructuredBytes = 0 ∧
      (t.2.1.metadata, t.2.2) = payloads.foldl s.serveFrame (s.metadata, x) := by
  induction chunks generalizing part s payloads front x with
  | nil =>
    obtain ⟨rfl, rfl⟩ := eq_nil_of_more h.more hframed (by simpa using hstream)
    exact ⟨rfl, h.expecting.mpr (by decide), rfl⟩
  | cons chunk chunks ih =>
    rw [List.flatten_cons, ← List.append_assoc] at hstream
    rw [aligned, ← List.length_append, Bool.and_eq_true] at haligned
    obtain ⟨hadmitted, haligned⟩ := haligned
    rcases reach_spec maximum hframed hstream with
      ⟨sent, rest, part', rfl, hsent, hxs, hcut, hreach⟩ |
      ⟨sent, payload, rest, tail, rfl, hsent, hover, hxs, hreach⟩
    · have hrest : part' ++ chunks.flatten = framed rest := by
        rw [hxs, framed_append, List.append_assoc] at hstream
        exact List.append_cancel_left hstream
      rw [hreach, Bool.and_eq_true, Bool.or_eq_true, decide_eq_true_eq,
        decide_eq_true_eq] at haligned
      obtain ⟨hkept, haligned⟩ := haligned
      rw [h.trace_underway hadmitted hsent hxs hcut (fun hlt => by omega)]
      obtain ⟨hdeeds, hread, houtside⟩ := ih (h.park hcut _)
        (fun p hp => hframed p (List.mem_append_right _ hp)) hrest haligned
        (front + (framed sent).length) (s.handleAll sent (s.metadata, x)).2
      refine ⟨?_, hread, ?_⟩
      · rw [deedsDue_append front hsent, hdeeds]
      · rw [List.foldl_append, foldl_serveFrame h.limit hsent]
        rwa [park_serveFrame, park_metadata] at houtside
    · have hpayload := hframed payload (by simp)
      have hframed' : ∀ p ∈ rest, Framed p := fun p hp => hframed p (by simp [hp])
      have htail := tail_of_oversized hpayload (hxs ▸ hstream)
      rw [hreach] at haligned
      rw [h.trace_oversized hadmitted hsent hxs hpayload hover,
        deedsDue_oversized front hsent hover, List.foldl_append, foldl_serveFrame h.limit hsent,
        List.foldl_cons, serveFrame_oversized (h.limit ▸ hover)]
      dsimp only at haligned ⊢
      split_ifs at haligned with hend
      · obtain ⟨rfl, hrest⟩ := List.append_inj htail hend
        have hidle := h.park (show cutRequest maximum [] = .more from rfl)
          (s.handleAll sent (s.metadata, x)).1
        obtain ⟨hdeeds, hread, houtside⟩ := ih hidle hframed' hrest haligned
          (front + (framed sent).length + (4 + tail.length)) _
        rw [park_serveFrame, park_metadata] at houtside
        rw [← hdeeds]
        exact ⟨rfl, hread, houtside⟩
      · rw [Bool.and_eq_true, List.isEmpty_iff, decide_eq_true_eq] at haligned
        obtain ⟨rfl, hless⟩ := haligned
        have hlength := congrArg List.length htail
        rw [List.length_append, List.length_append] at hlength
        have hnil : (framed []).length = 0 := rfl
        have hidle := h.park (show cutRequest maximum [] = .more from rfl)
          (s.handleAll sent (s.metadata, x)).1
        have hless' : 0 + chunks.flatten.length < 4 := by omega
        obtain ⟨hdeeds, hread, houtside⟩ := trace_short hidle.initialized hidle.mode rfl hless'
          (front + (framed sent).length + (4 + tail.length)) _
        rw [hdeeds]
        exact ⟨rfl, hread, houtside⟩

/-- Where a length can be read, one is: the first thing done is done with the first byte. -/
theorem first_deed (h3 : 3 ≤ maximum) {chunks : List Bytes} (h : s.Waits maximum part)
    (hshort : ∀ chunk ∈ chunks, chunk.length ≤ sizeAdd maximum 4)
    (hlong : 4 ≤ (part ++ chunks.flatten).length) (front : ℕ) (x : Exterior H) :
    let t := feedTrace (front + part.length) chunks s x
    (∃ d ds, t.1 = d :: ds ∧ d.start = front) ∨ t.1 = [] ∧ t.2.1.expectedStructuredBytes ≠ 0 := by
  induction chunks generalizing part s x with
  | nil =>
    rw [List.flatten_nil, List.append_nil] at hlong
    exact .inr ⟨rfl, fun hzero => absurd (h.expecting.mp hzero) (not_lt.mpr hlong)⟩
  | cons chunk chunks ih =>
    have hadmitted : admits maximum part.length chunk.length = true := by
      simp [admits, hshort chunk List.mem_cons_self]
    cases hcut : (requestFramer maximum).cut (part ++ chunk) with
    | more =>
      have hleft : (requestFramer maximum).leftover (part ++ chunk) = .ok (part ++ chunk) := by
        rw [leftover, drain_more _ hcut]
      rw [h.trace_ok hadmitted hleft (fun hlt => by omega), (drain_of_more hcut).2]
      rw [List.flatten_cons, ← List.append_assoc] at hlong
      exact ih (h.park hcut _) (fun c hc => hshort c (List.mem_cons_of_mem _ hc)) hlong _
    | fail e =>
      have hleft : (requestFramer maximum).leftover (part ++ chunk) = .error () := by
        rw [leftover, drain_fail _ hcut]
      rw [h.trace_error hadmitted hleft, (drain_of_fail hcut).2]
      exact .inl ⟨.refused front, _, rfl, rfl⟩
    | frame payload rest =>
      have hframes := (drain_of_frame hcut).2
      cases hleft : (requestFramer maximum).leftover (part ++ chunk) with
      | ok rest =>
        rw [h.trace_ok hadmitted hleft (fun hlt => by omega), hframes]
        exact .inl ⟨.handled front payload, _, rfl, rfl⟩
      | error e =>
        rw [h.trace_error hadmitted hleft, hframes]
        exact .inl ⟨.handled front payload, _, rfl, rfl⟩

omit [SizeWidth] in
theorem deedsDue_start {front : ℕ} {payloads : List Bytes} {d : Deed} {ds : List Deed}
    (h : deedsDue maximum front payloads = d :: ds) : d.start = front := by
  cases payloads with
  | nil => cases h
  | cons payload payloads =>
    rw [deedsDue] at h
    split_ifs at h
    · rw [← (List.cons.inj h).1]
      rfl
    · rw [← (List.cons.inj h).1]
      rfl

/-- From the middle of a stream on: frames above the limit are skipped only by chunks that are
aligned with them. -/
theorem trace_aligned [LawfulErrors Value] (h3 : 3 ≤ maximum) {payloads chunks : List Bytes}
    (h : s.Waits maximum part) (hframed : ∀ p ∈ payloads, Framed p)
    (hstream : part ++ chunks.flatten = framed payloads)
    (hshort : ∀ chunk ∈ chunks, chunk.length ≤ sizeAdd maximum 4) {front : ℕ} {x : Exterior H}
    (hdue : (feedTrace (front + part.length) chunks s x).1 = deedsDue maximum front payloads)
    (hread : (feedTrace (front + part.length) chunks s x).2.1.expectedStructuredBytes = 0) :
    aligned maximum payloads part.length chunks = true := by
  induction chunks generalizing part s payloads front x with
  | nil => rfl
  | cons chunk chunks ih =>
    have hadmitted : admits maximum part.length chunk.length = true := by
      simp [admits, hshort chunk List.mem_cons_self]
    have hshort' : ∀ c ∈ chunks, c.length ≤ sizeAdd maximum 4 := fun c hc =>
      hshort c (List.mem_cons_of_mem _ hc)
    rw [List.flatten_cons, ← List.append_assoc] at hstream
    rw [aligned, ← List.length_append, hadmitted, Bool.true_and]
    rcases reach_spec maximum hframed hstream with
      ⟨sent, rest, part', rfl, hsent, hxs, hcut, hreach⟩ |
      ⟨sent, payload, rest, tail, rfl, hsent, hover, hxs, hreach⟩
    · have hrest : part' ++ chunks.flatten = framed rest := by
        rw [hxs, framed_append, List.append_assoc] at hstream
        exact List.append_cancel_left hstream
      have hkept : part'.length < 4 → part'.length ≤ maximum := fun hlt => by omega
      rw [h.trace_underway hadmitted hsent hxs hcut hkept] at hdue hread
      rw [deedsDue_append front hsent] at hdue
      rw [hreach, Bool.and_eq_true, Bool.or_eq_true, decide_eq_true_eq, decide_eq_true_eq]
      refine ⟨by omega, ?_⟩
      exact ih (h.park hcut _) (fun p hp => hframed p (List.mem_append_right _ hp)) hrest hshort'
        (List.append_cancel_left hdue) hread
    · have hpayload := hframed payload (by simp)
      have hframed' : ∀ p ∈ rest, Framed p := fun p hp => hframed p (by simp [hp])
      have htail := tail_of_oversized hpayload (hxs ▸ hstream)
      have hidle := h.park (show cutRequest maximum [] = .more from rfl)
        (s.handleAll sent (s.metadata, x)).1
      rw [h.trace_oversized hadmitted hsent hxs hpayload hover] at hdue hread
      rw [deedsDue_oversized front hsent hover] at hdue
      have hdue := List.append_cancel_left hdue
      rw [hreach]
      dsimp only
      split_ifs with hend
      · obtain ⟨rfl, hrest⟩ := List.append_inj htail hend
        exact ih hidle hframed' hrest hshort' hdue hread
      · by_cases hfour : 4 ≤ chunks.flatten.length
        · -- the session reads a length behind the chunk, and no frame begins there
          rcases first_deed h3 hidle hshort' hfour (front + (framed sent).length +
              (4 + tail.length)) _ with ⟨d, ds, hfirst, hstart⟩ | ⟨-, hwaiting⟩
          · have hbegin := deedsDue_start (hdue.symm.trans hfirst)
            omega
          · exact absurd hread hwaiting
        · -- nothing is done behind the chunk, so no frame is left
          have hless : 0 + chunks.flatten.length < 4 := by omega
          obtain ⟨hnone, -⟩ := trace_short hidle.initialized hidle.mode rfl hless
            (front + (framed sent).length + (4 + tail.length)) _
          have hnil := hdue.symm.trans hnone
          obtain rfl : rest = [] := by
            cases rest with
            | nil => rfl
            | cons payload rest => cases hnil
          have hlength := congrArg List.length htail
          have hnothing : (framed []).length = 0 := rfl
          rw [List.length_append, List.length_append] at hlength
          rw [List.isEmpty_nil, Bool.true_and, decide_eq_true_eq]
          omega

/-- In chunks that are aligned with them, the frames of a stream are handled or skipped one by one;
and in no others, where the size test does not wrap and no part of a length is too long to keep. -/
theorem oversized_skipped [LawfulErrors Value] (s : SocketCommandSession H)
    (hinit : s.initialized = true) (hmode : s.config.mode = .structuredBinary)
    (hbuffer : s.structured = []) (hexpected : s.expectedStructuredBytes = 0)
    (payloads chunks : List Bytes)
    (hlength : ∀ payload ∈ payloads, 1 ≤ payload.length ∧ payload.length < 2 ^ 32)
    (hchunks : Partition s.config.maximumRequestBytes.val (framed payloads) chunks)
    (x : Exterior H) :
    (aligned s.config.maximumRequestBytes.val payloads 0 chunks = true →
      s.Skips payloads chunks x) ∧
    (3 ≤ s.config.maximumRequestBytes.val →
      s.config.maximumRequestBytes.val + 4 < 2 ^ SizeWidth.bits → s.Skips payloads chunks x →
        aligned s.config.maximumRequestBytes.val payloads 0 chunks = true) := by
  have hwaits := waits_nil hinit hmode hbuffer hexpected
  have hframed : ∀ payload ∈ payloads, Framed payload := fun payload hp =>
    ⟨(hlength payload hp).1, (hlength payload hp).2⟩
  obtain ⟨hflatten, hshort⟩ := hchunks
  constructor
  · intro haligned
    obtain ⟨hdeeds, hread, houtside⟩ := aligned_trace hwaits hframed hflatten haligned 0 x
    exact ⟨hdeeds, hread, houtside⟩
  · intro h3 hfits hskips
    have hadmitted : ∀ chunk ∈ chunks,
        chunk.length ≤ sizeAdd s.config.maximumRequestBytes.val 4 := fun chunk hc =>
      (sizeAdd_eq hfits).symm ▸ hshort chunk hc
    exact trace_aligned h3 hwaits hframed hflatten hadmitted hskips.deeds hskips.nothingRead

end SocketCommandSession
end

/-- A payload of 65 bytes, of which the last are a request in its frame. -/
def hidingPayload : Bytes := List.replicate 35 0 ++ frameStructuredPayload oneRequest

/-- One frame above the limit of 64 bytes, in two chunks: the end of its payload is run. -/
theorem hidden_request_run :
    letI := scalarLibrary
    letI := SizeWidth.host
    let x : Exterior directHost := { world := () }
    let chunks := [beBytes 4 65 ++ List.replicate 35 0, frameStructuredPayload oneRequest]
    smallSession.config.disconnectOnProtocolError = false ∧ 64 < hidingPayload.length ∧
      Partition 64 (framed [hidingPayload]) chunks ∧
      (decodeRequest oneRequest ({} : SocketCommandInvocationContext ScalarValue)).isSome ∧
      handledIn x (SocketCommandSession.feedTrace 0 chunks smallSession x).2.2 = [oneRequest] ∧
      ¬ smallSession.Skips [hidingPayload] chunks x := by
  let := scalarLibrary
  let := SizeWidth.host
  have hdeeds : (SocketCommandSession.feedTrace 0
      [beBytes 4 65 ++ List.replicate 35 0, frameStructuredPayload oneRequest] smallSession
      { world := () }).1 = [.refused 0, .handled 39 oneRequest] := by decide +kernel
  refine ⟨rfl, by decide, ⟨by decide, by decide⟩, by decide +kernel, by decide +kernel, ?_⟩
  intro hskips
  have hdue := hskips.deeds
  rw [hdeeds] at hdue
  exact absurd hdue (by decide +kernel)

theorem oversized_skipped_split :
    letI := scalarLibrary
    letI := SizeWidth.host
    smallSession.Skips [List.replicate 65 7, [9]]
      [[0], [0, 0, 65] ++ List.replicate 65 7, frameStructuredPayload [9]] { world := () } := by
  let := scalarLibrary
  let := SizeWidth.host
  have : LawfulErrors ScalarValue := ⟨fun _ => rfl, fun _ => rfl⟩
  exact (SocketCommandSession.oversized_skipped smallSession rfl rfl rfl rfl
    [List.replicate 65 7, [9]] [[0], [0, 0, 65] ++ List.replicate 65 7, frameStructuredPayload [9]]
    (by decide) ⟨by decide, by decide⟩ { world := () }).1 (by decide)

end Sockets.Command
