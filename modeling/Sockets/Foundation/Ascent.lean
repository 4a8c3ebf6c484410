import Mathlib.Order.Basic
import Mathlib.Data.List.Chain

/-! Values that do not descend on their way from a lower bound to an upper one. -/
namespace Sockets.Foundation
variable {α : Type*} [Preorder α] {a b c : α} {l l' : List α}

/-- From `a`, along `l`, to `b`, no value is below the one before. -/
def Ascends (a : α) (l : List α) (b : α) : Prop := (a :: (l ++ [b])).IsChain (· ≤ ·)

@[simp] theorem ascends_nil : Ascends a [] b ↔ a ≤ b := by simp [Ascends]

@[simp] theorem ascends_cons {x : α} : Ascends a (x :: l) b ↔ a ≤ x ∧ Ascends x l b := by
  simp [Ascends]

theorem Ascends.of_le (h : Ascends b l c) (hle : a ≤ b) : Ascends a l c := by
  cases l with
  | nil => exact ascends_nil.mpr (hle.trans (ascends_nil.mp h))
  | cons x l =>
    obtain ⟨hx, hl⟩ := ascends_cons.mp h
    exact ascends_cons.mpr ⟨hle.trans hx, hl⟩

theorem Ascends.append (h : Ascends a l b) (h' : Ascends b l' c) : Ascends a (l ++ l') c := by
  induction l generalizing a with
  | nil => exact h'.of_le (ascends_nil.mp h)
  | cons x l ih =>
    obtain ⟨hx, hl⟩ := ascends_cons.mp h
    exact ascends_cons.mpr ⟨hx, ih hl⟩

end Sockets.Foundation
