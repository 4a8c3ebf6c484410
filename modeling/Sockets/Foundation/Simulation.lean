import Sockets.Foundation.Run

/-! Forward simulation between two systems. -/
namespace Sockets.Foundation
variable {S A T B : Type*}

/-- Whatever the first system does that is permitted, the second one answers with a run that is
allowed for it. -/
def Simulates (step : S → A → S) (step' : T → B → T) (Permitted : S → A → Prop)
    (Answers : A → List B → Prop) (R : S → T → Prop) : Prop :=
  ∀ s t a, Permitted s a → R s t → ∃ actions, Answers a actions ∧ R (step s a) (run step' t actions)

variable {step : S → A → S} {step' : T → B → T} {Permitted : S → A → Prop}
  {Answers : A → List B → Prop} {R : S → T → Prop}

/-- A run of the first system is answered action by action. -/
theorem Simulates.run (h : Simulates step step' Permitted Answers R) {s : S} {t : T} (hR : R s t)
    {actions : List A} (hactions : Meets step Permitted s actions) :
    ∃ answers, List.Forall₂ Answers actions answers ∧
      R (run step s actions) (Foundation.run step' t answers.flatten) := by
  induction actions generalizing s t with
  | nil => exact ⟨[], .nil, hR⟩
  | cons a actions ih =>
    obtain ⟨ha, hactions⟩ := hactions
    obtain ⟨first, hanswers, hfirst⟩ := h s t a ha hR
    obtain ⟨rest, hrest, hlast⟩ := ih hfirst hactions
    refine ⟨first :: rest, .cons hanswers hrest, ?_⟩
    rwa [List.flatten_cons, run_append]

end Sockets.Foundation
