import Sockets.Foundation.Framing
import Sockets.Command.Session

/-! The structured input path as a framer: a length that was read ahead and the bytes behind it
stand for the front of one buffer. -/
namespace Sockets.Command
open Foundation Framer

/-- One length-prefixed request at the front of a buffer. -/
def cutRequest (maximum : ℕ) (buffer : Bytes) : Cut UInt8 Bytes Unit :=
  if buffer.length < 4 then .more
  else
    let length := beNat (buffer.take 4)
    if length = 0 ∨ maximum < length then .fail ()
    else if buffer.length < 4 + length then .more
    else .frame ((buffer.drop 4).take length) (buffer.drop (4 + length))

theorem take_four_append {buffer : Bytes} (h : ¬ buffer.length < 4) (ys : Bytes) :
    (buffer ++ ys).take 4 = buffer.take 4 :=
  List.take_append_of_le_length (not_lt.mp h)

def requestFramer (maximum : ℕ) : Framer UInt8 Bytes Unit where
  cut := cutRequest maximum
  cut_nil := rfl
  shrinks {xs b rest} h := by
    unfold cutRequest at h
    dsimp only at h
    split_ifs at h with h1 h2 h3
    cases h
    rw [List.length_drop]
    omega
  frame_append {xs b rest} ys h := by
    unfold cutRequest at h ⊢
    dsimp only at h ⊢
    split_ifs at h with h1 h2 h3
    cases h
    rw [take_four_append h1]
    simp only [List.length_append, show ¬ xs.length + ys.length < 4 by omega, if_false, h2,
      show ¬ xs.length + ys.length < 4 + beNat (xs.take 4) by omega]
    rw [List.drop_append_of_le_length (not_lt.mp h3), List.drop_append_of_le_length (not_lt.mp h1),
      List.take_append_of_le_length (by rw [List.length_drop]; omega)]
  fail_append {xs e} ys h := by
    unfold cutRequest at h ⊢
    dsimp only at h ⊢
    split_ifs at h with h1 h2 h3
    rw [take_four_append h1]
    simp only [List.length_append, show ¬ xs.length + ys.length < 4 by omega, if_false, h2, if_true]

@[simp] theorem requestFramer_cut (maximum : ℕ) (buffer : Bytes) :
    (requestFramer maximum).cut buffer = cutRequest maximum buffer := rfl

/-- A length that can stand in front of a request. -/
structure Announces (maximum n : ℕ) : Prop where
  pos : n ≠ 0
  le_maximum : n ≤ maximum
  lt_uint32 : n < 2 ^ 32

theorem cutRequest_announced {maximum n : ℕ} (h : Announces maximum n) (body : Bytes) :
    cutRequest maximum (beBytes 4 n ++ body) =
      if body.length < n then .more else .frame (body.take n) (body.drop n) := by
  have htake : (beBytes 4 n ++ body).take 4 = beBytes 4 n := List.take_left' (length_beBytes 4 n)
  have hdrop : (beBytes 4 n ++ body).drop 4 = body := List.drop_left' (length_beBytes 4 n)
  have hn : beNat (beBytes 4 n) = n := beNat_beBytes 4 n h.lt_uint32
  have hvalid : ¬ (n = 0 ∨ maximum < n) := by
    have := h.pos
    have := h.le_maximum
    omega
  have hlong : ¬ (beBytes 4 n ++ body).length < 4 := by simp
  have hlen : (beBytes 4 n ++ body).length < 4 + n ↔ body.length < n := by simp
  simp only [cutRequest, hlong, if_false, htake, hn, hvalid, hlen, hdrop, ← List.drop_drop]

/-- Payloads that a frame can carry to a session with this limit. -/
def Carries (maximum : ℕ) (payload : Bytes) : Prop := Announces maximum payload.length

theorem frameStructuredPayload_eq {payload : Bytes} (h : payload.length < 2 ^ 32) :
    frameStructuredPayload payload = beBytes 4 payload.length ++ payload := by
  rw [frameStructuredPayload, if_neg (by omega), appendU32]

theorem encodes_request {maximum : ℕ} {payload : Bytes} (h : Carries maximum payload) :
    (requestFramer maximum).Encodes frameStructuredPayload payload where
  cut_encode ys := by
    rw [frameStructuredPayload_eq h.lt_uint32, List.append_assoc, requestFramer_cut,
      cutRequest_announced h, if_neg (by simp), List.take_left, List.drop_left]
  cut_prefix {p q} hq hpq := by
    rw [frameStructuredPayload_eq h.lt_uint32] at hpq
    rw [requestFramer_cut]
    by_cases hshort : p.length < 4
    · simp [cutRequest, hshort]
    · obtain ⟨body, rfl⟩ := List.prefix_of_prefix_length_le
        (List.prefix_append (beBytes 4 payload.length) payload) ⟨q, hpq.symm⟩ (by simpa using hshort)
      have hbody : payload = body ++ q := by simpa [List.append_assoc] using hpq
      have hlt : body.length < payload.length := by
        have := List.length_pos_iff.mpr hq
        rw [hbody, List.length_append]
        omega
      rw [cutRequest_announced h, if_pos hlt]

namespace SocketCommandSession
variable [SizeWidth] {Value : Type} [CommandLibrary Value] {H : CommandHost Value}

/-- What has arrived of the request under way, its length included. -/
def pending (s : SocketCommandSession H) : Bytes :=
  if s.expectedStructuredBytes = 0 then s.structured
  else beBytes 4 s.expectedStructuredBytes ++ s.structured

/-- A length the session has read was one it accepts. -/
def Expecting (s : SocketCommandSession H) : Prop :=
  s.expectedStructuredBytes ≠ 0 →
    Announces s.config.maximumRequestBytes.val s.expectedStructuredBytes

/-- The session that keeps `rest` of the next request. -/
def park (rest : Bytes) (metadata : SocketCommandMetadata) (s : SocketCommandSession H) :
    SocketCommandSession H :=
  if rest.length < 4 then { s with structured := rest, expectedStructuredBytes := 0, metadata }
  else { s with structured := rest.drop 4, expectedStructuredBytes := beNat (rest.take 4), metadata }

/-- The handling of one request inside the loop. -/
def handleRequest (s : SocketCommandSession H) (data : Bytes)
    (t : Bool × SocketCommandMetadata × Exterior H) : Bool × SocketCommandMetadata × Exterior H :=
  let r := during data ({ s with metadata := t.2.1 }.handleStructuredFrame data) t.2.2
  (r.1 && t.1, r.2)

theorem expect_cases {s : SocketCommandSession H} (hs : s.Expecting) :
    (s.expect = .wait ∧ s.expectedStructuredBytes = 0 ∧ s.structured.length < 4) ∨
    (s.expect = .invalid ∧ cutRequest s.config.maximumRequestBytes.val s.pending = .fail ()) ∨
    ∃ n body, s.expect = .ready { s with structured := body, expectedStructuredBytes := n } ∧
      Announces s.config.maximumRequestBytes.val n ∧ s.pending = beBytes 4 n ++ body := by
  by_cases h0 : s.expectedStructuredBytes = 0
  · have hpending : s.pending = s.structured := by simp [pending, h0]
    by_cases hlen : s.structured.length < 4
    · exact .inl ⟨by simp [expect, h0, hlen], h0, hlen⟩
    · by_cases hn : beNat (s.structured.take 4) = 0 ∨
          s.config.maximumRequestBytes.val < beNat (s.structured.take 4)
      · exact .inr (.inl ⟨by simp [expect, h0, hlen, hn], by simp [hpending, cutRequest, hlen, hn]⟩)
      · have htake : (s.structured.take 4).length = 4 := by
          rw [List.length_take]
          omega
        have hlt := beNat_lt (s.structured.take 4)
        have hbytes := beBytes_beNat (s.structured.take 4)
        rw [htake] at hlt hbytes
        refine .inr (.inr ⟨beNat (s.structured.take 4), s.structured.drop 4, ?_, ⟨?_, ?_, ?_⟩, ?_⟩)
        · simp [expect, h0, hlen, hn]
        · omega
        · omega
        · omega
        · rw [hpending, hbytes, List.take_append_drop]
  · exact .inr (.inr ⟨s.expectedStructuredBytes, s.structured, by simp [expect, h0], hs h0,
      by simp [pending, h0]⟩)

/-- The loop drains what is pending. -/
theorem structuredLoop_eq (success : Bool) (s : SocketCommandSession H) (x : Exterior H)
    (hs : s.Expecting) :
    structuredLoop success s x =
      match (requestFramer s.config.maximumRequestBytes.val).drain s.handleRequest s.pending
          (success, s.metadata, x) with
      | (.ok rest, t) => settle t.1 (s.park rest t.2.1) t.2.2
      | (.error _, t) =>
        let s := { s with structured := [], expectedStructuredBytes := 0, metadata := t.2.1 }
        let w := s.emitStructuredError 0 exceedsLimit t.2.2
        (if s.config.disconnectOnProtocolError then false else w.1, s, w.2) := by
  induction hn : s.pending.length using Nat.strong_induction_on generalizing s success x with
  | _ n ih =>
  rcases expect_cases hs with ⟨hwait, h0, hlen⟩ | ⟨hinvalid, hcut⟩ | ⟨m, body, hready, hm, hpend⟩
  · have hpend : s.pending = s.structured := by simp [pending, h0]
    have hcut : cutRequest s.config.maximumRequestBytes.val s.pending = .more := by
      simp [cutRequest, hpend, hlen]
    have hpark : s.park s.structured s.metadata = s := by
      simp [park, hlen, ← h0]
    rw [structuredLoop_wait hwait, drain_more _ hcut, hpend]
    simp only [hpark]
  · rw [structuredLoop_invalid hinvalid, drain_fail _ hcut]
  · have hcut := cutRequest_announced hm body
    rw [← hpend] at hcut
    rw [structuredLoop_ready hready]
    by_cases hshort : body.length < m
    · have hpark : s.park s.pending s.metadata =
          { s with structured := body, expectedStructuredBytes := m } := by
        simp [park, hpend, List.drop_left' (length_beBytes 4 m),
          List.take_left' (length_beBytes 4 m), beNat_beBytes 4 m hm.lt_uint32]
      rw [if_pos hshort] at hcut ⊢
      rw [drain_more _ hcut]
      simp only [hpark]
    · rw [if_neg hshort] at hcut ⊢
      rw [drain_frame _ hcut]
      have hlt : (body.drop m).length < n := by
        rw [← hn, hpend, List.length_append, length_beBytes, List.length_drop]
        omega
      exact ih _ hlt _ { s with
        structured := body.drop m, expectedStructuredBytes := 0
        metadata := (s.handleRequest (body.take m) (success, s.metadata, x)).2.1 } _
        (fun h => absurd rfl h) rfl

end SocketCommandSession
end Sockets.Command
