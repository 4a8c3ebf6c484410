import Mathlib.Tactic

/-! Incremental framing: a receive buffer from which complete frames are cut. A framer looks only
at the front of the buffer, so what it delivers depends on the bytes and not on the chunks they
arrive in; a size test made before a chunk is appended is the one thing that depends on both. -/
namespace Sockets.Foundation

/-- What a look at the front of the buffer finds. -/
inductive Cut (α β ε : Type*) where
  | more
  | frame (body : β) (rest : List α)
  | fail (error : ε)

/-- More input never changes a frame or a failure that was already found. -/
structure Framer (α β ε : Type*) where
  cut : List α → Cut α β ε
  cut_nil : cut [] = .more
  shrinks : ∀ {xs : List α} {b : β} {rest : List α}, cut xs = .frame b rest →
    rest.length < xs.length
  frame_append : ∀ {xs : List α} {b : β} {rest : List α} (ys : List α), cut xs = .frame b rest →
    cut (xs ++ ys) = .frame b (rest ++ ys)
  fail_append : ∀ {xs : List α} {e : ε} (ys : List α), cut xs = .fail e → cut (xs ++ ys) = .fail e

namespace Framer
variable {α β ε σ : Type*} (F : Framer α β ε)

/-- Hand every complete frame at the front of `xs` to the callback; what is left over, or the
failure that ended the loop. -/
def drain (cb : β → σ → σ) (xs : List α) (s : σ) : Except ε (List α) × σ :=
  match _h : F.cut xs with
  | .more => (.ok xs, s)
  | .fail e => (.error e, s)
  | .frame b rest => drain cb rest (cb b s)
termination_by xs.length
decreasing_by exact F.shrinks _h

variable {F}

theorem drain_more (cb : β → σ → σ) {xs : List α} (h : F.cut xs = .more) (s : σ) :
    F.drain cb xs s = (.ok xs, s) := by
  rw [drain]
  split <;> simp_all

theorem drain_fail (cb : β → σ → σ) {xs : List α} {e : ε} (h : F.cut xs = .fail e) (s : σ) :
    F.drain cb xs s = (.error e, s) := by
  rw [drain]
  split <;> simp_all

theorem drain_frame (cb : β → σ → σ) {xs : List α} {b : β} {rest : List α}
    (h : F.cut xs = .frame b rest) (s : σ) :
    F.drain cb xs s = F.drain cb rest (cb b s) := by
  rw [drain]
  split <;> simp_all

/-- Draining in two chunks is draining their concatenation. -/
theorem drain_append (cb : β → σ → σ) (xs ys : List α) (s : σ) :
    F.drain cb (xs ++ ys) s =
      match F.drain cb xs s with
      | (.ok rest, t) => F.drain cb (rest ++ ys) t
      | (.error e, t) => (.error e, t) := by
  induction xs, s using drain.induct F cb with
  | case1 xs s h => rw [drain_more cb h]
  | case2 xs s e h => rw [drain_fail cb h, drain_fail cb (F.fail_append ys h)]
  | case3 xs s b rest h ih => rw [drain_frame cb h, drain_frame cb (F.frame_append ys h), ih]

variable (F) in
/-- The complete frames at the front of `xs`. -/
def frames (xs : List α) : List β := (F.drain (fun b bs => bs ++ [b]) xs []).2

/-- A drain hands over the frames that are there, and leaves over what is left of them, whatever the
callback does. -/
private theorem drain_eq (cb : β → σ → σ) (xs : List α) (bs : List β) (s : σ) :
    F.drain cb xs (bs.foldl (fun s b => cb b s) s) =
      ((F.drain (fun b bs => bs ++ [b]) xs bs).1,
        (F.drain (fun b bs => bs ++ [b]) xs bs).2.foldl (fun s b => cb b s) s) := by
  induction xs, bs using drain.induct F (fun b bs => bs ++ [b]) with
  | case1 xs bs h => rw [drain_more _ h, drain_more _ h]
  | case2 xs bs e h => rw [drain_fail _ h, drain_fail _ h]
  | case3 xs bs b rest h ih =>
    rw [List.foldl_append] at ih
    rw [drain_frame _ h, drain_frame _ h]
    exact ih

theorem drain_eq_foldl (cb : β → σ → σ) (xs : List α) (s : σ) :
    F.drain cb xs s = ((F.drain (fun b bs => bs ++ [b]) xs []).1,
      (F.frames xs).foldl (fun s b => cb b s) s) := drain_eq cb xs [] s

/-- What the callback keeps, a drain keeps. -/
theorem drain_preserves {cb : β → σ → σ} {Q : σ → Prop} (hcb : ∀ b s, Q s → Q (cb b s))
    (xs : List α) {s : σ} (hs : Q s) : Q (F.drain cb xs s).2 := by
  induction xs, s using drain.induct F cb with
  | case1 xs s h => rwa [drain_more cb h]
  | case2 xs s e h => rwa [drain_fail cb h]
  | case3 xs s b rest h ih => rw [drain_frame cb h]; exact ih (hcb b s hs)

/-- What a drain leaves over holds no complete frame. -/
theorem cut_of_drain_ok {cb : β → σ → σ} {xs rest : List α} {s t : σ}
    (h : F.drain cb xs s = (.ok rest, t)) : F.cut rest = .more := by
  induction xs, s using drain.induct F cb with
  | case1 xs s hc =>
    rw [drain_more cb hc] at h
    cases h
    exact hc
  | case2 xs s e hc =>
    rw [drain_fail cb hc] at h
    cases h
  | case3 xs s b rest' hc ih =>
    rw [drain_frame cb hc] at h
    exact ih h

variable (F) in
/-- The framer recovers `b` from `encode b`, and waits for more on every proper prefix of it. -/
structure Encodes (encode : β → List α) (b : β) : Prop where
  cut_encode : ∀ ys, F.cut (encode b ++ ys) = .frame b ys
  cut_prefix : ∀ {p q : List α}, q ≠ [] → encode b = p ++ q → F.cut p = .more

variable {encode : β → List α}

theorem drain_encoded (cb : β → σ → σ) {bs : List β} (h : ∀ b ∈ bs, F.Encodes encode b)
    (ys : List α) (s : σ) :
    F.drain cb ((bs.map encode).flatten ++ ys) s =
      F.drain cb ys (bs.foldl (fun s b => cb b s) s) := by
  induction bs generalizing s with
  | nil => simp
  | cons b bs ih =>
    have hb := (h b (by simp)).cut_encode ((bs.map encode).flatten ++ ys)
    simp only [List.map_cons, List.flatten_cons, List.append_assoc, List.foldl_cons]
    rw [drain_frame cb hb, ih (fun b' hb' => h b' (by simp [hb']))]

/-- Bytes of the frame under way after `n` bytes of a stream of frames of these sizes. -/
def residue : List ℕ → ℕ → ℕ
  | [], n => n
  | size :: sizes, n => if n < size then n else residue sizes (n - size)

theorem residue_append (done rest : List ℕ) (n : ℕ) :
    residue (done ++ rest) (done.sum + n) = residue rest n := by
  induction done with
  | nil => simp
  | cons size done ih =>
    have hge : ¬ size + done.sum + n < size := by omega
    have hsub : size + done.sum + n - size = done.sum + n := by omega
    simp only [List.cons_append, residue, List.sum_cons, hge, if_false, hsub, ih]

/-- A prefix of a stream of frames is some whole frames and the part of the next one that the
drain leaves over. -/
theorem split_encoded {bs : List β} (h : ∀ b ∈ bs, F.Encodes encode b) {p q : List α}
    (hpq : p ++ q = (bs.map encode).flatten) :
    ∃ (done rest : List β) (part : List α), bs = done ++ rest ∧
      p = (done.map encode).flatten ++ part ∧ part ++ q = (rest.map encode).flatten ∧
      F.cut part = .more ∧
      part.length = residue (bs.map fun b => (encode b).length) p.length := by
  induction bs generalizing p with
  | nil =>
    have hp : p = [] := by simp_all
    subst hp
    exact ⟨[], [], [], rfl, rfl, hpq, F.cut_nil, rfl⟩
  | cons b bs ih =>
    have hb := h b (by simp)
    simp only [List.map_cons, List.flatten_cons] at hpq
    by_cases hlt : p.length < (encode b).length
    · obtain ⟨tail, htail⟩ := List.prefix_of_prefix_length_le ⟨q, hpq⟩
        (List.prefix_append (encode b) _) hlt.le
      have hne : tail ≠ [] := by
        rintro rfl
        simp [← htail] at hlt
      refine ⟨[], b :: bs, p, rfl, rfl, by simpa using hpq, hb.cut_prefix hne htail.symm, ?_⟩
      simp [residue, hlt]
    · obtain ⟨p', rfl⟩ := List.prefix_of_prefix_length_le (List.prefix_append (encode b) _)
        ⟨q, hpq⟩ (not_lt.mp hlt)
      have hpq' : p' ++ q = (bs.map encode).flatten := by
        simpa [List.append_assoc] using hpq
      obtain ⟨done, rest, part, hbs, hp, hq, hc, hlen⟩ :=
        ih (fun b' hb' => h b' (by simp [hb'])) hpq'
      refine ⟨b :: done, rest, part, by simp [hbs], by simp [hp], hq, hc, ?_⟩
      simp [residue, hlen]

/-- One arrival: a chunk that passes the size test is appended and drained; a refused chunk and a
failed drain both empty the buffer. -/
def feed (F : Framer α β ε) (fits : ℕ → ℕ → Bool) (cb : β → σ → σ) (buffer chunk : List α)
    (s : σ) : Bool × List α × σ :=
  if fits buffer.length chunk.length then
    match F.drain cb (buffer ++ chunk) s with
    | (.ok rest, t) => (true, rest, t)
    | (.error _, t) => (false, [], t)
  else (false, [], s)

theorem feed_preserves {cb : β → σ → σ} {Q : σ → Prop} (hcb : ∀ b s, Q s → Q (cb b s))
    (fits : ℕ → ℕ → Bool) (buffer chunk : List α) {s : σ} (hs : Q s) :
    Q (F.feed fits cb buffer chunk s).2.2 := by
  have hdrain := F.drain_preserves hcb (buffer ++ chunk) hs
  unfold feed
  split_ifs
  · split <;> simp_all
  · exact hs

/-- After an arrival the buffer holds no complete frame, whether it was accepted or not. -/
theorem cut_feed (fits : ℕ → ℕ → Bool) (cb : β → σ → σ) (buffer chunk : List α) (s : σ) :
    F.cut (F.feed fits cb buffer chunk s).2.1 = .more := by
  unfold feed
  split_ifs
  · generalize hdrain : F.drain cb (buffer ++ chunk) s = r
    obtain ⟨error | rest, t⟩ := r
    · exact F.cut_nil
    · exact cut_of_drain_ok hdrain
  · exact F.cut_nil

/-- The answers to a sequence of arrivals, with the final buffer and callback state. -/
def feedAll (F : Framer α β ε) (fits : ℕ → ℕ → Bool) (cb : β → σ → σ) :
    List α → List (List α) → σ → List Bool × List α × σ
  | buffer, [], s => ([], buffer, s)
  | buffer, chunk :: chunks, s =>
    let r := F.feed fits cb buffer chunk s
    let t := feedAll F fits cb r.2.1 chunks r.2.2
    (r.1 :: t.1, t.2)

/-- Every chunk passes the size test against what the bytes before it leave over, `n` bytes into
a stream of frames of these sizes. -/
def Admitted (fits : ℕ → ℕ → Bool) (sizes : List ℕ) : ℕ → List ℕ → Prop
  | _, [] => True
  | n, chunk :: chunks =>
    fits (residue sizes n) chunk = true ∧ Admitted fits sizes (n + chunk) chunks

instance (fits : ℕ → ℕ → Bool) (sizes : List ℕ) :
    ∀ n chunks, Decidable (Admitted fits sizes n chunks)
  | _, [] => isTrue trivial
  | n, chunk :: chunks =>
    haveI := instDecidableAdmitted fits sizes (n + chunk) chunks
    inferInstanceAs (Decidable (_ ∧ _))

theorem admitted_append {fits : ℕ → ℕ → Bool} (done sizes : List ℕ) (n : ℕ) (chunks : List ℕ) :
    Admitted fits (done ++ sizes) (done.sum + n) chunks ↔ Admitted fits sizes n chunks := by
  induction chunks generalizing n with
  | nil => exact Iff.rfl
  | cons chunk chunks ih => rw [Admitted, Admitted, residue_append, Nat.add_assoc, ih]

/-- What waits for more is all that is left of the stream so far. -/
theorem residue_of_more {bs : List β} (h : ∀ b ∈ bs, F.Encodes encode b) {part q : List α}
    (hpq : part ++ q = (bs.map encode).flatten) (hpart : F.cut part = .more) :
    residue (bs.map fun b => (encode b).length) part.length = part.length := by
  cases bs with
  | nil => rfl
  | cons b bs =>
    by_cases hlt : part.length < (encode b).length
    · simp [residue, hlt]
    · obtain ⟨tail, rfl⟩ := List.prefix_of_prefix_length_le (List.prefix_append (encode b) _)
        ⟨q, by simpa using hpq⟩ (not_lt.mp hlt)
      rw [(h b (by simp)).cut_encode] at hpart
      cases hpart

theorem length_flatten_map (bs : List β) :
    (bs.map encode).flatten.length = (bs.map fun b => (encode b).length).sum := by
  rw [List.length_flatten, List.map_map]
  rfl

/-- Induction over the chunks of a stream of frames: `part` of the first remaining frame has
arrived; a chunk completes the frames `sent` and leaves `part'` of the next one. -/
theorem chunk_induction {motive : List β → List α → List (List α) → Prop}
    (nil : motive [] [] [])
    (cons : ∀ (sent rest : List β) (part part' chunk : List α) (chunks : List (List α)),
      (∀ b ∈ sent ++ rest, F.Encodes encode b) →
      part ++ chunk = (sent.map encode).flatten ++ part' →
      part' ++ chunks.flatten = (rest.map encode).flatten →
      F.cut part = .more → F.cut part' = .more →
      motive rest part' chunks → motive (sent ++ rest) part (chunk :: chunks))
    {bs : List β} (h : ∀ b ∈ bs, F.Encodes encode b) {part : List α} {chunks : List (List α)}
    (hw : part ++ chunks.flatten = (bs.map encode).flatten) (hpart : F.cut part = .more) :
    motive bs part chunks := by
  induction chunks generalizing bs part with
  | nil =>
    cases bs with
    | nil =>
      have hnil : part = [] := by simpa using hw
      exact hnil ▸ nil
    | cons b bs =>
      have hw' : part = encode b ++ (bs.map encode).flatten := by simpa using hw
      rw [hw', (h b (by simp)).cut_encode] at hpart
      cases hpart
  | cons chunk chunks ih =>
    obtain ⟨sent, rest, part', rfl, hp, hq, hc, -⟩ :=
      split_encoded h (p := part ++ chunk) (q := chunks.flatten) (by simpa using hw)
    exact cons sent rest part part' chunk chunks h hp hq hpart hc
      (ih (fun b hb => h b (by simp [hb])) hq hc)

/-- A chunk is admitted against the part that has arrived, the chunks behind it against what it
leaves over. -/
theorem admitted_cons {fits : ℕ → ℕ → Bool} {sent rest : List β}
    (h : ∀ b ∈ sent ++ rest, F.Encodes encode b) {part part' chunk : List α}
    {chunks : List (List α)} (hp : part ++ chunk = (sent.map encode).flatten ++ part')
    (hq : part' ++ chunks.flatten = (rest.map encode).flatten) (hpart : F.cut part = .more) :
    Admitted fits ((sent ++ rest).map fun b => (encode b).length) part.length
        ((chunk :: chunks).map List.length) ↔
      fits part.length chunk.length = true ∧
        Admitted fits (rest.map fun b => (encode b).length) part'.length
          (chunks.map List.length) := by
  have hw : part ++ (chunk ++ chunks.flatten) = ((sent ++ rest).map encode).flatten := by
    rw [← List.append_assoc, hp, List.append_assoc, hq, List.map_append, List.flatten_append]
  have hlen := congrArg List.length hp
  rw [List.length_append, List.length_append, length_flatten_map] at hlen
  rw [List.map_cons, Admitted, residue_of_more h hw hpart, hlen, List.map_append, admitted_append]

theorem drain_chunk (cb : β → σ → σ) {sent : List β} {part part' chunk : List α}
    (h : ∀ b ∈ sent, F.Encodes encode b)
    (hp : part ++ chunk = (sent.map encode).flatten ++ part') (hc : F.cut part' = .more) (s : σ) :
    F.drain cb (part ++ chunk) s = (.ok part', sent.foldl (fun s b => cb b s) s) := by
  rw [hp, drain_encoded cb h, drain_more cb hc]

/-- A stream of frames cut into chunks in any way is delivered whole exactly when every chunk
passes the size test. -/
theorem feedAll_lossless_iff (fits : ℕ → ℕ → Bool) (cb : β → σ → σ) {bs : List β}
    (h : ∀ b ∈ bs, F.Encodes encode b) {chunks : List (List α)}
    (hw : chunks.flatten = (bs.map encode).flatten) (s : σ) :
    F.feedAll fits cb [] chunks s =
        (List.replicate chunks.length true, [], bs.foldl (fun s b => cb b s) s) ↔
      Admitted fits (bs.map fun b => (encode b).length) 0 (chunks.map List.length) := by
  refine chunk_induction (motive := fun bs part chunks => ∀ s,
    F.feedAll fits cb part chunks s =
        (List.replicate chunks.length true, [], bs.foldl (fun s b => cb b s) s) ↔
      Admitted fits (bs.map fun b => (encode b).length) part.length (chunks.map List.length))
    (fun s => by simp [feedAll, Admitted]) ?_ h (by simpa using hw) F.cut_nil s
  intro sent rest part part' chunk chunks h hp hq hpart hc ih s
  have hsent : ∀ b ∈ sent, F.Encodes encode b := fun b hb => h b (by simp [hb])
  rw [admitted_cons h hp hq hpart, ← ih (sent.foldl (fun s b => cb b s) s)]
  by_cases hfits : fits part.length chunk.length = true
  · simp [feedAll, feed, hfits, drain_chunk cb hsent hp hc, List.replicate_succ, Prod.ext_iff]
  · simp [feedAll, feed, hfits, List.replicate_succ]

end Framer
end Sockets.Foundation
