import Sockets.Foundation.Cursor

/-! What a reader has read stood in the data: the counterpart of `Reads`, one lemma for each way to
build a reader. -/
namespace Sockets.Foundation
variable {α β : Type}

/-- Whatever `p` reads is spelled out by the bytes it finds, and it stops behind them. -/
def Spells (p : Read α) (W : α → Bytes → Prop) : Prop :=
  ∀ before rest a c, p ⟨before ++ rest, before.length⟩ = some (a, c) →
    ∃ bytes after, rest = bytes ++ after ∧ W a bytes ∧
      c = ⟨before ++ rest, before.length + bytes.length⟩

theorem Spells.mono {p : Read α} {W W' : α → Bytes → Prop} (h : Spells p W)
    (hW : ∀ a bytes, W a bytes → W' a bytes) : Spells p W' := by
  intro before rest a c hp
  obtain ⟨bytes, after, hrest, hw, hc⟩ := h before rest a c hp
  exact ⟨bytes, after, hrest, hW a bytes hw, hc⟩

theorem Spells.pure (a : α) : Spells (Pure.pure a) fun b bytes => b = a ∧ bytes = [] := by
  intro before rest b c h
  obtain ⟨rfl, rfl⟩ := Prod.mk.inj (Option.some.inj h)
  exact ⟨[], rest, rfl, ⟨rfl, rfl⟩, rfl⟩

theorem Spells.take (n : ℕ) : Spells (Cursor.take n) fun a bytes => bytes = a ∧ a.length = n := by
  intro before rest a c h
  unfold Cursor.take at h
  split_ifs at h with hneed
  obtain ⟨ha, hc⟩ := Prod.mk.inj (Option.some.inj h)
  have hlen : n ≤ rest.length := by
    simpa [Cursor.need, Cursor.remaining] using hneed
  rw [List.drop_left] at ha
  have htake : a.length = n := by
    rw [← ha, List.length_take_of_le hlen]
  refine ⟨a, rest.drop n, ?_, ⟨rfl, htake⟩, ?_⟩
  · rw [← ha, List.take_append_drop]
  · rw [← hc, htake]

/-- The first of two reads has found its bytes, and the second one starts behind them. -/
theorem Spells.peel {p : Read α} {W : α → Bytes → Prop} (hp : Spells p W) {q : α → Read β}
    {before rest : Bytes} {b : β} {c : Cursor}
    (h : (p >>= q) ⟨before ++ rest, before.length⟩ = some (b, c)) :
    ∃ a bytes after, rest = bytes ++ after ∧ W a bytes ∧
      q a ⟨(before ++ bytes) ++ after, (before ++ bytes).length⟩ = some (b, c) := by
  obtain ⟨⟨a, c'⟩, hfirst, hsecond⟩ := Option.bind_eq_some_iff.mp h
  obtain ⟨bytes, after, rfl, hw, rfl⟩ := hp before rest a c' hfirst
  refine ⟨a, bytes, after, rfl, hw, ?_⟩
  rw [List.append_assoc, List.length_append]
  exact hsecond

/-- A check between two reads. -/
theorem guard_bind_eq_some {P : Prop} [Decidable P] {q : Unit → Read β} {c : Cursor}
    {r : β × Cursor} : (guard P >>= q) c = some r ↔ P ∧ q () c = some r := by
  by_cases hP : P
  · simp only [guard, hP, if_true, true_and]
    exact Iff.rfl
  · simp only [guard, hP, if_false, false_and, iff_false]
    exact fun h => by cases h

theorem Spells.bind {p : Read α} {q : α → Read β} {W : α → Bytes → Prop}
    {V : α → β → Bytes → Prop} (hp : Spells p W) (hq : ∀ a, Spells (q a) (V a)) :
    Spells (p >>= q) fun b bytes => ∃ a xs ys, W a xs ∧ V a b ys ∧ bytes = xs ++ ys := by
  intro before rest b c h
  obtain ⟨a, xs, after, rfl, hw, h⟩ := hp.peel h
  obtain ⟨ys, after', rfl, hv, rfl⟩ := hq a _ _ b c h
  refine ⟨xs ++ ys, after', by rw [List.append_assoc], ⟨a, xs, ys, hw, hv, rfl⟩, ?_⟩
  rw [List.append_assoc, List.length_append, List.length_append, Nat.add_assoc]

theorem Spells.map {p : Read α} {W : α → Bytes → Prop} (f : α → β) (hp : Spells p W) :
    Spells (f <$> p) fun b bytes => ∃ a, W a bytes ∧ f a = b := by
  intro before rest b c h
  obtain ⟨⟨a, c'⟩, hfirst, hlast⟩ := Option.bind_eq_some_iff.mp h
  obtain ⟨rfl, rfl⟩ := Prod.mk.inj (Option.some.inj hlast)
  obtain ⟨bytes, after, hrest, hw, hc⟩ := hp before rest a c' hfirst
  exact ⟨bytes, after, hrest, ⟨a, hw, rfl⟩, hc⟩

/-- Equal parts one after another, each spelled by what an encoder writes for it. -/
theorem Spells.many {p : Read α} {encode : α → Bytes} {Q : α → Prop}
    (h : Spells p fun a bytes => Q a ∧ bytes = encode a) (n : ℕ) :
    Spells (Cursor.many p n) fun as bytes =>
      as.length = n ∧ (∀ a ∈ as, Q a) ∧ bytes = (as.map encode).flatten := by
  induction n with
  | zero =>
    refine (Spells.pure []).mono ?_
    rintro as bytes ⟨rfl, rfl⟩
    exact ⟨rfl, by simp, rfl⟩
  | succ n ih =>
    refine (h.bind fun a => ih.bind fun as => Spells.pure (a :: as)).mono ?_
    rintro as bytes ⟨a, xs, ys, ⟨ha, rfl⟩, ⟨as', xs', ys', ⟨hlen, has, rfl⟩, ⟨rfl, rfl⟩, rfl⟩, rfl⟩
    refine ⟨by rw [List.length_cons, hlen], ?_, by simp⟩
    intro b hb
    rcases List.mem_cons.mp hb with rfl | hb
    · exact ha
    · exact has b hb

theorem Reads.checked {P : Prop} [Decidable P] (h : P) {q : Unit → Read β} {ys : Bytes} {b : β}
    (hq : Reads (q ()) ys b) : Reads (guard P >>= q) ys b := by
  intro before after
  simp only [guard, if_pos h]
  exact hq before after

/-- The bytes of which one reader is sure form a prefix code. -/
theorem Reads.unique {p : Read α} {xs ys us vs : Bytes} {a b : α} (hx : Reads p xs a)
    (hy : Reads p ys b) (h : xs ++ us = ys ++ vs) : a = b ∧ xs = ys := by
  have hreadx := hx [] us
  have hready := hy [] vs
  rw [h, hready] at hreadx
  obtain ⟨hvalue, hcursor⟩ := Prod.mk.inj (Option.some.inj hreadx)
  have hlen : ys.length = xs.length := by simpa using hcursor
  exact ⟨hvalue.symm, List.append_inj_left h hlen.symm⟩

/-- A fixed-width big-endian number. -/
theorem Spells.beNat (w : ℕ) : Spells (Foundation.beNat <$> Cursor.take w) fun n bytes =>
    n < 256 ^ w ∧ bytes = beBytes w n := by
  refine ((Spells.take w).map Foundation.beNat).mono ?_
  rintro n bytes ⟨a, ⟨rfl, rfl⟩, rfl⟩
  exact ⟨beNat_lt bytes, (beBytes_beNat bytes).symm⟩

end Sockets.Foundation
