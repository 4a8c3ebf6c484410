import Mathlib.Tactic

/-! Streams in which a separator ends one segment after another. -/
namespace Sockets.Foundation
variable {α : Type*} [DecidableEq α] {sep : α} {segment rest : List α}

/-- The segments that the separator has ended. -/
def completed (sep : α) (stream : List α) : List (List α) := (stream.splitOn sep).dropLast

/-- What stands behind the last separator. -/
def unfinished (sep : α) (stream : List α) : List α := (stream.splitOn sep).getLastD []

theorem completed_of_notMem (h : sep ∉ segment) : completed sep segment = [] := by
  rw [completed, List.splitOn_eq_singleton h]
  rfl

theorem unfinished_of_notMem (h : sep ∉ segment) : unfinished sep segment = segment := by
  rw [unfinished, List.splitOn_eq_singleton h]
  rfl

theorem completed_append_cons (h : sep ∉ segment) :
    completed sep (segment ++ sep :: rest) = segment :: completed sep rest := by
  rw [completed, List.splitOn_append_cons_self_of_not_mem h,
    List.dropLast_cons_of_ne_nil (List.splitOn_ne_nil sep rest)]
  rfl

theorem unfinished_append_cons (h : sep ∉ segment) :
    unfinished sep (segment ++ sep :: rest) = unfinished sep rest := by
  obtain ⟨first, others, hsplit⟩ := List.exists_cons_of_ne_nil (List.splitOn_ne_nil sep rest)
  rw [unfinished, List.splitOn_append_cons_self_of_not_mem h, unfinished, hsplit]
  rfl

/-- A stream is one unfinished segment, or a segment and its separator before another stream. -/
theorem segment_induction (sep : α) {motive : List α → Prop}
    (unfinished : ∀ segment, sep ∉ segment → motive segment)
    (ended : ∀ segment rest, sep ∉ segment → motive rest → motive (segment ++ sep :: rest))
    (stream : List α) : motive stream := by
  induction h : stream.length using Nat.strong_induction_on generalizing stream with
  | _ n ih =>
    by_cases hsep : sep ∈ stream
    · obtain ⟨segment, rest, rfl, hsegment⟩ := List.eq_append_cons_of_mem hsep
      refine ended segment rest hsegment (ih rest.length ?_ rest rfl)
      rw [← h, List.length_append, List.length_cons]
      omega
    · exact unfinished stream hsep

theorem notMem_unfinished (stream : List α) : sep ∉ unfinished sep stream := by
  induction stream using segment_induction sep with
  | unfinished segment h => rwa [unfinished_of_notMem h]
  | ended segment rest h ih => rwa [unfinished_append_cons h]

/-- A stream is read on from what is unfinished. -/
theorem completed_append (stream more : List α) :
    completed sep (stream ++ more) =
      completed sep stream ++ completed sep (unfinished sep stream ++ more) := by
  induction stream using segment_induction sep with
  | unfinished segment h => rw [completed_of_notMem h, unfinished_of_notMem h, List.nil_append]
  | ended segment rest h ih =>
    rw [List.append_assoc, List.cons_append, completed_append_cons h, completed_append_cons h,
      unfinished_append_cons h, ih, List.cons_append]

theorem unfinished_append (stream more : List α) :
    unfinished sep (stream ++ more) = unfinished sep (unfinished sep stream ++ more) := by
  induction stream using segment_induction sep with
  | unfinished segment h => rw [unfinished_of_notMem h]
  | ended segment rest h ih =>
    rw [List.append_assoc, List.cons_append, unfinished_append_cons h, unfinished_append_cons h, ih]

section Grow
variable (stream : List α)

@[simp] theorem completed_nil : completed sep ([] : List α) = [] :=
  completed_of_notMem List.not_mem_nil

@[simp] theorem unfinished_nil : unfinished sep ([] : List α) = [] :=
  unfinished_of_notMem List.not_mem_nil

theorem completed_sep : completed sep (stream ++ [sep]) = completed sep stream ++
    [unfinished sep stream] := by
  rw [completed_append, completed_append_cons (notMem_unfinished stream), completed_nil]

theorem unfinished_sep : unfinished sep (stream ++ [sep]) = [] := by
  rw [unfinished_append, unfinished_append_cons (notMem_unfinished stream), unfinished_nil]

variable {c : α}

theorem notMem_grow (hc : c ≠ sep) : sep ∉ unfinished sep stream ++ [c] := by
  simp only [List.mem_append, List.mem_singleton, not_or]
  exact ⟨notMem_unfinished stream, hc.symm⟩

theorem completed_grow (hc : c ≠ sep) : completed sep (stream ++ [c]) = completed sep stream := by
  rw [completed_append, completed_of_notMem (notMem_grow stream hc), List.append_nil]

theorem unfinished_grow (hc : c ≠ sep) :
    unfinished sep (stream ++ [c]) = unfinished sep stream ++ [c] := by
  rw [unfinished_append, unfinished_of_notMem (notMem_grow stream hc)]

end Grow

/-- As many segments are ended as there are separators. -/
theorem length_completed (sep : α) (stream : List α) :
    (completed sep stream).length = stream.count sep := by
  unfold completed
  induction stream with
  | nil => rfl
  | cons x stream ih =>
    have hne := List.splitOn_ne_nil sep stream
    rw [List.splitOn_cons_eq_if_modifyHead]
    by_cases hx : x = sep
    · subst hx
      rw [if_pos (beq_self_eq_true x), List.dropLast_cons_of_ne_nil hne, List.length_cons, ih,
        List.count_cons_self]
    · rw [if_neg (by simpa using hx), List.count_cons_of_ne hx, ← ih]
      simp only [List.length_dropLast, List.length_modifyHead]

/-- Segments written one behind the other are found again. -/
theorem completed_flatten {segments : List (List α)} (h : ∀ s ∈ segments, sep ∉ s) :
    completed sep (segments.map (· ++ [sep])).flatten = segments := by
  induction segments with
  | nil => exact completed_of_notMem List.not_mem_nil
  | cons s segments ih =>
    obtain ⟨hs, hsegments⟩ := List.forall_mem_cons.mp h
    rw [List.map_cons, List.flatten_cons, List.append_assoc, List.singleton_append,
      completed_append_cons hs, ih hsegments]

/-- Records that are ended by the separator come back one by one exactly when none of them has the
separator inside. -/
theorem completed_flatten_iff {segments : List (List α)} :
    completed sep (segments.map (· ++ [sep])).flatten = segments ↔ ∀ s ∈ segments, sep ∉ s := by
  refine ⟨fun h => ?_, completed_flatten⟩
  have hcount : (segments.map (· ++ [sep])).flatten.count sep = segments.length := by
    rw [← length_completed, h]
  clear h
  have hle (segments : List (List α)) :
      segments.length ≤ (segments.map (· ++ [sep])).flatten.count sep := by
    induction segments with
    | nil => exact Nat.zero_le _
    | cons s segments ih =>
      simp only [List.map_cons, List.flatten_cons, List.count_append, List.count_singleton_self,
        List.length_cons]
      omega
  induction segments with
  | nil => simp
  | cons s segments ih =>
    have hrest := hle segments
    simp only [List.map_cons, List.flatten_cons, List.count_append, List.count_singleton_self,
      List.length_cons] at hcount
    refine List.forall_mem_cons.mpr ⟨List.count_eq_zero.mp (by omega), ih (by omega)⟩

end Sockets.Foundation
