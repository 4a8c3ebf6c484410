import Sockets.Foundation.Framing

/-! A framer fed until it first refuses: as long as the size test lets every chunk in, the outcome
is that of one drain of all the bytes, wherever they were cut. -/
namespace Sockets.Foundation
namespace Framer
variable {α β ε σ : Type*} (F : Framer α β ε) (fits : ℕ → ℕ → Bool) (cb : β → σ → σ)

/-- What a drain leaves over, or the failure that ends it. -/
def leftover (xs : List α) : Except ε (List α) := (F.drain (fun b bs => bs ++ [b]) xs []).1

/-- A drain ends in a failure. -/
def fails (xs : List α) : Bool :=
  match F.leftover xs with
  | .ok _ => false
  | .error _ => true

/-- An arrival of which an empty chunk is none. -/
def arrive [DecidableEq α] (buffer chunk : List α) (s : σ) : Bool × List α × σ :=
  if chunk = [] then (true, buffer, s) else F.feed fits cb buffer chunk s

/-- Arrivals up to and including the first that is refused. -/
def arriveUntil [DecidableEq α] : List α → List (List α) → σ → Bool × List α × σ
  | buffer, [], s => (true, buffer, s)
  | buffer, chunk :: chunks, s =>
    let r := F.arrive fits cb buffer chunk s
    if r.1 then arriveUntil r.2.1 chunks r.2.2 else r

/-- Up to the first failure no chunk is refused for its size. -/
def Within : List α → List (List α) → Prop
  | _, [] => True
  | buffer, chunk :: chunks =>
    (chunk ≠ [] → fits buffer.length chunk.length = true) ∧
      match F.leftover (buffer ++ chunk) with
      | .ok rest => Within rest chunks
      | .error _ => True

instance decidableWithin [DecidableEq α] : ∀ buffer chunks, Decidable (F.Within fits buffer chunks)
  | _, [] => isTrue trivial
  | buffer, chunk :: chunks =>
    have : Decidable (match F.leftover (buffer ++ chunk) with
        | .ok rest => F.Within fits rest chunks
        | .error _ => True) :=
      match F.leftover (buffer ++ chunk) with
      | .ok rest => decidableWithin rest chunks
      | .error _ => isTrue trivial
    inferInstanceAs (Decidable ((_ → _) ∧ _))

/-- The outcome of one drain, as an arrival reports it. -/
def report (r : Except ε (List α) × σ) : Bool × List α × σ :=
  match r with
  | (.ok rest, s) => (true, rest, s)
  | (.error _, s) => (false, [], s)

variable {F fits cb}

theorem report_state (r : Except ε (List α) × σ) : (report r).2.2 = r.2 := by
  obtain ⟨_ | _, s⟩ := r <;> rfl

theorem feed_eq_report {buffer chunk : List α} (h : fits buffer.length chunk.length = true)
    (s : σ) : F.feed fits cb buffer chunk s = report (F.drain cb (buffer ++ chunk) s) := by
  rw [feed, if_pos h]
  rfl

variable (cb) in
theorem drain_leftover (xs : List α) (s : σ) :
    F.drain cb xs s = (F.leftover xs, (F.frames xs).foldl (fun s b => cb b s) s) :=
  drain_eq_foldl cb xs s

theorem drain_of_more {xs : List α} (h : F.cut xs = .more) :
    F.fails xs = false ∧ F.frames xs = [] := by
  rw [fails, leftover, frames, drain_more _ h]
  exact ⟨rfl, rfl⟩

theorem drain_of_fail {xs : List α} {e : ε} (h : F.cut xs = .fail e) :
    F.fails xs = true ∧ F.frames xs = [] := by
  rw [fails, leftover, frames, drain_fail _ h]
  exact ⟨rfl, rfl⟩

private theorem foldl_snoc (bs front : List β) :
    bs.foldl (fun s b => s ++ [b]) front = front ++ bs := by
  induction bs generalizing front with
  | nil => simp
  | cons b bs ih => simp [ih]

theorem leftover_of_frame {xs : List α} {b : β} {rest : List α} (h : F.cut xs = .frame b rest) :
    F.leftover xs = F.leftover rest := by
  have hdrain := drain_leftover (F := F) (fun b bs => bs ++ [b]) rest [b]
  rw [leftover, drain_frame _ h, List.nil_append, hdrain]

/-- A frame at the front is the first of the frames. -/
theorem drain_of_frame {xs : List α} {b : β} {rest : List α} (h : F.cut xs = .frame b rest) :
    F.fails xs = F.fails rest ∧ F.frames xs = b :: F.frames rest := by
  have hdrain := drain_leftover (F := F) (fun b bs => bs ++ [b]) rest [b]
  rw [fails, leftover_of_frame h, frames, drain_frame _ h, List.nil_append, hdrain, foldl_snoc]
  exact ⟨rfl, rfl⟩

/-- Encoded frames at the front are frames, and leave over what the rest leaves over. -/
theorem leftover_encoded {encode : β → List α} {bs : List β} (h : ∀ b ∈ bs, F.Encodes encode b)
    (ys : List α) :
    F.leftover ((bs.map encode).flatten ++ ys) = F.leftover ys ∧
      F.frames ((bs.map encode).flatten ++ ys) = bs ++ F.frames ys := by
  induction bs with
  | nil => exact ⟨rfl, rfl⟩
  | cons b bs ih =>
    obtain ⟨hleft, hframes⟩ := ih fun b' hb' => h b' (List.mem_cons_of_mem _ hb')
    have hcut := (h b List.mem_cons_self).cut_encode ((bs.map encode).flatten ++ ys)
    rw [List.map_cons, List.flatten_cons, List.append_assoc, leftover_of_frame hcut, hleft,
      (drain_of_frame hcut).2, hframes]
    exact ⟨rfl, rfl⟩

/-- What is left over is cut no further. -/
theorem cut_leftover {xs rest : List α} (h : F.leftover xs = .ok rest) : F.cut rest = .more :=
  cut_of_drain_ok (Prod.ext h rfl : F.drain (fun b bs => bs ++ [b]) xs [] = (.ok rest, F.frames xs))

/-- More input goes on from what is left over. -/
theorem leftover_append {xs rest : List α} (h : F.leftover xs = .ok rest) (ys : List α) :
    F.leftover (xs ++ ys) = F.leftover (rest ++ ys) ∧
      F.frames (xs ++ ys) = F.frames xs ++ F.frames (rest ++ ys) := by
  have hdrain := drain_append (F := F) (fun b bs => bs ++ [b]) xs ys []
  rw [drain_leftover, drain_leftover _ xs, h] at hdrain
  dsimp only at hdrain
  rw [drain_leftover, foldl_snoc, foldl_snoc, foldl_snoc, Prod.mk.injEq] at hdrain
  exact ⟨hdrain.1, by simpa using hdrain.2⟩

/-- After a failure more input changes nothing. -/
theorem leftover_append_error {xs : List α} {e : ε} (h : F.leftover xs = .error e) (ys : List α) :
    F.leftover (xs ++ ys) = .error e ∧ F.frames (xs ++ ys) = F.frames xs := by
  have hdrain := drain_append (F := F) (fun b bs => bs ++ [b]) xs ys []
  rw [drain_leftover, drain_leftover _ xs, h, foldl_snoc, foldl_snoc] at hdrain
  exact ⟨(Prod.mk.inj hdrain).1, by simpa using (Prod.mk.inj hdrain).2⟩

/-- A list cut into pieces that are all longer than `w`. -/
theorem exists_long_chunks {w m : ℕ} (hm : 2 * w + 1 ≤ m) {xs : List α} (h : w < xs.length) :
    ∃ chunks : List (List α), chunks.flatten = xs ∧
      ∀ chunk ∈ chunks, w < chunk.length ∧ chunk.length ≤ m := by
  induction hn : xs.length using Nat.strong_induction_on generalizing xs with
  | _ n ih =>
    by_cases hshort : xs.length ≤ 2 * w + 1
    · exact ⟨[xs], by simp, List.forall_mem_singleton.mpr ⟨h, by omega⟩⟩
    · have htake : (xs.take (w + 1)).length = w + 1 := by
        rw [List.length_take]
        omega
      have hdrop : (xs.drop (w + 1)).length = xs.length - (w + 1) := List.length_drop
      have hrest : w < (xs.drop (w + 1)).length := by omega
      obtain ⟨chunks, hflatten, hlong⟩ := ih _ (by omega) hrest rfl
      refine ⟨xs.take (w + 1) :: chunks, ?_, List.forall_mem_cons.mpr ⟨by omega, hlong⟩⟩
      rw [List.flatten_cons, hflatten, List.take_append_drop]

/-- What waits with more input behind it waits without it. -/
theorem cut_more_of_append {xs ys : List α} (h : F.cut (xs ++ ys) = .more) : F.cut xs = .more := by
  cases hcut : F.cut xs with
  | more => rfl
  | fail e =>
    rw [F.fail_append ys hcut] at h
    cases h
  | frame b rest =>
    rw [F.frame_append ys hcut] at h
    cases h

/-- A proper part of a frame waits for the rest of it. -/
theorem cut_part {xs ys : List α} {b : β} (hys : ys ≠ []) (h : F.cut (xs ++ ys) = .frame b []) :
    F.cut xs = .more := by
  cases hcut : F.cut xs with
  | more => rfl
  | fail e =>
    rw [F.fail_append ys hcut] at h
    cases h
  | frame b' rest =>
    rw [F.frame_append ys hcut] at h
    have hrest : rest ++ ys = [] := (Cut.frame.inj h).2
    exact absurd (List.append_eq_nil_iff.mp hrest).2 hys

/-- What a drain takes from the beginning of a stream of frames, some of which may be refused. -/
theorem split_leftover {encode : β → List α} {bs : List β}
    (h : ∀ b ∈ bs, F.Encodes encode b ∨ ∀ ys, ∃ e, F.cut (encode b ++ ys) = .fail e)
    {p q : List α} (hpq : p ++ q = (bs.map encode).flatten) :
    ∃ done rest, bs = done ++ rest ∧ F.frames p = done ∧ (∀ b ∈ done, F.Encodes encode b) ∧
      ∀ part, F.leftover p = .ok part → p = (done.map encode).flatten ++ part := by
  induction bs generalizing p with
  | nil =>
    have hp : p = [] := (List.append_eq_nil_iff.mp (by simpa using hpq)).1
    subst hp
    refine ⟨[], [], rfl, (drain_of_more F.cut_nil).2, by simp, fun part hpart => ?_⟩
    rw [leftover, drain_more _ F.cut_nil] at hpart
    exact Except.ok.inj hpart
  | cons b bs ih =>
    cases hcut : F.cut p with
    | more =>
      refine ⟨[], b :: bs, rfl, (drain_of_more hcut).2, by simp, fun part hpart => ?_⟩
      rw [leftover, drain_more _ hcut] at hpart
      exact Except.ok.inj hpart
    | fail e =>
      refine ⟨[], b :: bs, rfl, (drain_of_fail hcut).2, by simp, fun part hpart => ?_⟩
      rw [leftover, drain_fail _ hcut] at hpart
      cases hpart
    | frame b' r =>
      have hwhole := F.frame_append q hcut
      rw [hpq, List.map_cons, List.flatten_cons] at hwhole
      rcases h b List.mem_cons_self with hencodes | hfails
      · rw [hencodes.cut_encode] at hwhole
        obtain ⟨rfl, hrest⟩ := Cut.frame.inj hwhole
        have hp : p = encode b ++ r := by
          rw [List.map_cons, List.flatten_cons, hrest, ← List.append_assoc] at hpq
          exact List.append_cancel_right hpq
        obtain ⟨done, rest, rfl, hframes, hdone, hpart⟩ :=
          ih (fun b' hb' => h b' (List.mem_cons_of_mem _ hb')) hrest.symm
        refine ⟨b :: done, rest, rfl, ?_, ?_, fun part hleft => ?_⟩
        · rw [(drain_of_frame hcut).2, hframes]
        · exact List.forall_mem_cons.mpr ⟨hencodes, hdone⟩
        · rw [leftover_of_frame hcut] at hleft
          rw [hp, hpart part hleft, List.map_cons, List.flatten_cons, List.append_assoc]
      · obtain ⟨e, he⟩ := hfails (bs.map encode).flatten
        rw [he] at hwhole
        cases hwhole

/-- The beginning of a stream of frames is frames of it and a part of one. -/
theorem prefix_encoded {encode : β → List α} {bs : List β} (h : ∀ b ∈ bs, F.Encodes encode b)
    {p : List α} (hp : p <+: (bs.map encode).flatten) :
    (∀ b ∈ F.frames p, b ∈ bs) ∧ ∃ part, F.leftover p = .ok part := by
  obtain ⟨q, hq⟩ := hp
  obtain ⟨done, rest, rfl, hframes, -, -⟩ := split_leftover (fun b hb => .inl (h b hb)) hq
  refine ⟨fun b hb => List.mem_append_left _ (hframes ▸ hb), ?_⟩
  cases hleft : F.leftover p with
  | ok part => exact ⟨part, rfl⟩
  | error e =>
    have hall := (leftover_encoded h []).1
    rw [List.append_nil, ← hq, (leftover_append_error hleft q).1, leftover, drain_more _ F.cut_nil]
      at hall
    cases hall

/-- Chunks that the size test lets in are reported as one. -/
theorem arriveUntil_eq [DecidableEq α] {buffer : List α} {chunks : List (List α)}
    (hmore : F.cut buffer = .more) (hwithin : F.Within fits buffer chunks) (s : σ) :
    F.arriveUntil fits cb buffer chunks s =
      report (F.drain cb (buffer ++ chunks.flatten) s) := by
  induction chunks generalizing buffer s with
  | nil => simp [arriveUntil, drain_more cb hmore, report]
  | cons chunk chunks ih =>
    obtain ⟨hfits, hrest⟩ := hwithin
    have hfirst : F.arrive fits cb buffer chunk s = report (F.drain cb (buffer ++ chunk) s) := by
      unfold arrive
      split_ifs with hempty
      · simp [hempty, drain_more cb hmore, report]
      · exact feed_eq_report (hfits hempty) s
    have hjoin := drain_append (F := F) cb (buffer ++ chunk) chunks.flatten s
    rw [drain_leftover cb (buffer ++ chunk)] at hfirst hjoin
    rw [List.flatten_cons, ← List.append_assoc, hjoin, arriveUntil, hfirst]
    cases hleft : F.leftover (buffer ++ chunk) with
    | error e => rfl
    | ok rest =>
      rw [hleft] at hrest
      exact ih (cut_leftover hleft) hrest _

variable (cb) in
theorem report_drain (xs : List α) (s : σ) :
    (report (F.drain cb xs s)).1 = !F.fails xs ∧
      (report (F.drain cb xs s)).2.2 = (F.frames xs).foldl (fun s b => cb b s) s ∧
      (F.fails xs = true → (report (F.drain cb xs s)).2.1 = []) := by
  rw [drain_leftover, fails]
  cases F.leftover xs with
  | ok rest => simp [report]
  | error e => simp [report]

end Framer
end Sockets.Foundation
