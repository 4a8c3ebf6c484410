import Mathlib.Tactic

/-! Lists of pairs of a name and a value, and what a map keeps of them. -/
namespace Sockets.Foundation
variable {α β γ : Type*} [DecidableEq α]

/-- The first pair of each name. -/
def firsts : List (α × β) → List (α × β)
  | [] => []
  | item :: items => item :: (firsts items).filter (·.1 ≠ item.1)

theorem firsts_map (f : β → γ) (items : List (α × β)) :
    firsts (items.map (Prod.map id f)) = (firsts items).map (Prod.map id f) := by
  induction items with
  | nil => rfl
  | cons item items ih =>
    simp only [List.map_cons, firsts, ih, List.filter_map]
    rfl

theorem firsts_sublist (items : List (α × β)) : (firsts items).Sublist items := by
  induction items with
  | nil => exact .slnil
  | cons item items ih => exact (List.filter_sublist.trans ih).cons_cons item

theorem nodup_firsts (items : List (α × β)) : ((firsts items).map Prod.fst).Nodup := by
  induction items with
  | nil => exact List.nodup_nil
  | cons item items ih =>
    refine List.nodup_cons.mpr ⟨?_, ih.sublist (List.filter_sublist.map _)⟩
    simp

/-- Nothing is left out when the names differ. -/
theorem firsts_eq_self {items : List (α × β)} (h : (items.map Prod.fst).Nodup) :
    firsts items = items := by
  induction items with
  | nil => rfl
  | cons item items ih =>
    obtain ⟨hnew, hrest⟩ := List.nodup_cons.mp h
    rw [firsts, ih hrest, List.filter_eq_self.mpr]
    intro other hother
    rw [decide_eq_true_iff]
    exact fun hsame => hnew (hsame ▸ List.mem_map_of_mem hother)

/-- As many as there are, or fewer. -/
theorem length_firsts_eq_iff (items : List (α × β)) :
    (firsts items).length = items.length ↔ (items.map Prod.fst).Nodup := by
  constructor
  · intro h
    rw [← (firsts_sublist items).eq_of_length h]
    exact nodup_firsts items
  · intro h
    rw [firsts_eq_self h]

theorem firsts_perm_iff (items : List (α × β)) :
    (firsts items).Perm items ↔ (items.map Prod.fst).Nodup := by
  constructor
  · intro h
    exact (length_firsts_eq_iff items).mp h.length_eq
  · intro h
    rw [firsts_eq_self h]

end Sockets.Foundation
