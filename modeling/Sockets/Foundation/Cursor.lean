import Sockets.Foundation.Endian

/-! Reading a byte string front to back, and what a reader finds where an encoder wrote. -/
namespace Sockets.Foundation
variable {α β : Type}

/-- Bytes, and how many of them were read. -/
structure Cursor where
  data : Bytes
  offset : ℕ := 0
  deriving DecidableEq

/-- A read moves the cursor or fails. -/
abbrev Read (α : Type) := StateT Cursor Option α

namespace Cursor

def remaining (c : Cursor) : ℕ := c.data.length - c.offset

def need (count : ℕ) (c : Cursor) : Bool := count ≤ c.remaining

def finished (c : Cursor) : Bool := c.offset = c.data.length

/-- The next `count` bytes. -/
def take (count : ℕ) : Read Bytes := fun c =>
  if c.need count then some ((c.data.drop c.offset).take count, { c with offset := c.offset + count })
  else none

/-- The same read `n` times. -/
def many (p : Read α) : ℕ → Read (List α)
  | 0 => pure []
  | n + 1 => do
    let a ← p
    let as ← many p n
    return a :: as

end Cursor

/-- Wherever `bytes` stand in the data, `p` at their start reads `a` and stops at their end. -/
def Reads (p : Read α) (bytes : Bytes) (a : α) : Prop :=
  ∀ before after, p ⟨before ++ (bytes ++ after), before.length⟩ =
    some (a, ⟨before ++ (bytes ++ after), before.length + bytes.length⟩)

theorem Reads.pure (a : α) : Reads (Pure.pure a) [] a := fun _ _ => rfl

theorem Reads.take {n : ℕ} {bytes : Bytes} (h : bytes.length = n) :
    Reads (Cursor.take n) bytes bytes := by
  intro before after
  have hneed : Cursor.need n ⟨before ++ (bytes ++ after), before.length⟩ = true := by
    simp [Cursor.need, Cursor.remaining, h]
  rw [Cursor.take, if_pos hneed, List.drop_left, List.take_left' h, h]

/-- A read that depends on what the one before it found. -/
theorem Reads.bind {p : Read α} {q : α → Read β} {xs ys : Bytes} {a : α} {b : β}
    (hp : Reads p xs a) (hq : Reads (q a) ys b) : Reads (p >>= q) (xs ++ ys) b := by
  intro before after
  have h1 := hp before (ys ++ after)
  have h2 := hq (before ++ xs) after
  simp only [List.append_assoc, List.length_append] at h1 h2 ⊢
  simp only [Bind.bind, StateT.bind, h1, Option.bind]
  rw [h2, Nat.add_assoc]

theorem Reads.map {p : Read α} {xs : Bytes} {a : α} (f : α → β) (hp : Reads p xs a) :
    Reads (f <$> p) xs (f a) := by
  intro before after
  simp [Functor.map, StateT.map, hp before after]

/-- Equal parts read one after another. -/
theorem Reads.many {γ : Type} {p : Read α} {encode : γ → Bytes} {value : γ → α} {xs : List γ}
    (h : ∀ x ∈ xs, Reads p (encode x) (value x)) :
    Reads (Cursor.many p xs.length) (xs.map encode).flatten (xs.map value) := by
  induction xs with
  | nil => exact Reads.pure []
  | cons x xs ih =>
    have hrest := ih fun y hy => h y (List.mem_cons_of_mem _ hy)
    have htail := hrest.bind (q := fun as => Pure.pure (value x :: as)) (Reads.pure _)
    rw [List.append_nil] at htail
    exact (h x List.mem_cons_self).bind htail

/-- Like `Reads`, where `bytes` are the end of the data. -/
def ReadsLast (p : Read α) (bytes : Bytes) (a : α) : Prop :=
  ∀ before, p ⟨before ++ bytes, before.length⟩ =
    some (a, ⟨before ++ bytes, before.length + bytes.length⟩)

theorem Reads.bindLast {p : Read α} {q : α → Read β} {xs ys : Bytes} {a : α} {b : β}
    (hp : Reads p xs a) (hq : ReadsLast (q a) ys b) : ReadsLast (p >>= q) (xs ++ ys) b := by
  intro before
  have h1 := hp before ys
  have h2 := hq (before ++ xs)
  simp only [List.append_assoc, List.length_append] at h1 h2 ⊢
  simp only [Bind.bind, StateT.bind, h1, Option.bind]
  rw [h2, Nat.add_assoc]

theorem ReadsLast.checked {P : Prop} [Decidable P] (h : P) {q : Unit → Read β} {ys : Bytes} {b : β}
    (hq : ReadsLast (q ()) ys b) : ReadsLast (guard P >>= q) ys b := by
  intro before
  simp only [guard, if_pos h]
  exact hq before

theorem ReadsLast.run {p : Read α} {bytes : Bytes} {a : α} (h : ReadsLast p bytes a) :
    p ⟨bytes, 0⟩ = some (a, ⟨bytes, bytes.length⟩) := by
  simpa using h []

/-- What every value satisfies that `p` can read. -/
def Yields (p : Read α) (Q : α → Prop) : Prop := ∀ c a c', p c = some (a, c') → Q a

theorem Yields.pure {Q : α → Prop} {a : α} (h : Q a) : Yields (Pure.pure a) Q := by
  intro c b c' hb
  cases hb
  exact h

theorem Yields.bind {p : Read α} {q : α → Read β} {Q : β → Prop} (h : ∀ a, Yields (q a) Q) :
    Yields (p >>= q) Q := by
  intro c b c' hb
  obtain ⟨⟨a, c1⟩, -, hq⟩ := Option.bind_eq_some_iff.mp hb
  exact h a c1 b c' hq

/-- A fixed-width big-endian number. -/
theorem Reads.beNat {w n : ℕ} (h : n < 256 ^ w) :
    Reads (Foundation.beNat <$> Cursor.take w) (beBytes w n) n := by
  have hread := (Reads.take (length_beBytes w n)).map Foundation.beNat
  rwa [beNat_beBytes w n h] at hread

end Sockets.Foundation
