import Mathlib.Tactic

/-! A register that takes over what is strictly newer than what it holds. -/
namespace Sockets.Foundation
variable {α σ : Type*} [LinearOrder σ] {stamp : α → σ} {held newest : Option α} {x u : α}

variable (stamp) in
/-- What the register holds after a value has been offered to it. -/
def offer (x : α) (held : Option α) : Option α :=
  if ∀ y ∈ held, stamp y < stamp x then some x else held

variable (stamp) in
/-- The value is the newest one, or older. -/
def UpTo (newest : Option α) (x : α) : Prop := ∃ u ∈ newest, x = u ∨ stamp x < stamp u

theorem upTo_some : UpTo stamp (some u) x ↔ x = u ∨ stamp x < stamp u := by
  simp [UpTo]

theorem UpTo.newer (h : UpTo stamp newest x) (hu : ∀ v ∈ newest, stamp v < stamp u) :
    UpTo stamp (some u) x := by
  obtain ⟨v, hv, rfl | hlt⟩ := h
  · exact upTo_some.mpr (.inr (hu x hv))
  · exact upTo_some.mpr (.inr (hlt.trans (hu v hv)))

/-- The newest value is held once it has been offered. -/
theorem offer_newest (h : ∀ y ∈ held, UpTo stamp (some u) y) : offer stamp u held = some u := by
  unfold offer
  split_ifs with hnewer
  · rfl
  · push Not at hnewer
    obtain ⟨y, hy, hle⟩ := hnewer
    rcases upTo_some.mp (h y hy) with rfl | hlt
    · exact hy
    · exact absurd hlt (not_lt.mpr hle)

/-- The newest value is not replaced. -/
theorem offer_of_newest (h : UpTo stamp (some u) x) : offer stamp x (some u) = some u := by
  unfold offer
  split_ifs with hnewer
  · have hlt := hnewer u rfl
    rcases upTo_some.mp h with rfl | hlt'
    · exact absurd hlt (lt_irrefl _)
    · exact absurd hlt (lt_asymm hlt')
  · rfl

theorem upTo_offer (hheld : ∀ y ∈ held, UpTo stamp newest y) (hx : UpTo stamp newest x) :
    ∀ y ∈ offer stamp x held, UpTo stamp newest y := by
  unfold offer
  split_ifs
  · intro y hy
    obtain rfl := Option.some.inj hy
    exact hx
  · exact hheld

end Sockets.Foundation
