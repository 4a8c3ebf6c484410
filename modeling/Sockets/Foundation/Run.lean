import Mathlib.Tactic

/-! Runs of a system that takes one action after another. -/
namespace Sockets.Foundation
variable {S A : Type*} (step : S → A → S)

def run (s : S) (actions : List A) : S := actions.foldl step s

@[simp] theorem run_nil (s : S) : run step s [] = s := rfl

@[simp] theorem run_cons (s : S) (a : A) (actions : List A) :
    run step s (a :: actions) = run step (step s a) actions := rfl

theorem run_append (s : S) (before after : List A) :
    run step s (before ++ after) = run step (run step s before) after :=
  List.foldl_append

/-- Every step of the run meets `C` in the state it starts from. -/
def Meets (C : S → A → Prop) : S → List A → Prop
  | _, [] => True
  | s, a :: actions => C s a ∧ Meets C (step s a) actions

instance decidableMeets {C : S → A → Prop} [∀ s a, Decidable (C s a)] :
    ∀ s actions, Decidable (Meets step C s actions)
  | _, [] => isTrue trivial
  | s, a :: actions =>
    have : Decidable (Meets step C (step s a) actions) := decidableMeets _ _
    inferInstanceAs (Decidable (C s a ∧ Meets step C (step s a) actions))

variable {step}

theorem meets_append {C : S → A → Prop} {s : S} {before after : List A} :
    Meets step C s (before ++ after) ↔
      Meets step C s before ∧ Meets step C (run step s before) after := by
  induction before generalizing s with
  | nil => exact (and_iff_right trivial).symm
  | cons a before ih => exact (and_congr_right fun _ => ih).trans and_assoc.symm

theorem Meets.mono {C C' : S → A → Prop} (h : ∀ s a, C s a → C' s a) {s : S} {actions : List A}
    (hm : Meets step C s actions) : Meets step C' s actions := by
  induction actions generalizing s with
  | nil => exact hm
  | cons a actions ih => exact ⟨h s a hm.1, ih hm.2⟩

/-- Where everything is permitted, every run is. -/
theorem Meets.of_forall {C : S → A → Prop} (h : ∀ s a, C s a) (s : S) (actions : List A) :
    Meets step C s actions := by
  induction actions generalizing s with
  | nil => trivial
  | cons a actions ih => exact ⟨h s a, ih (step s a)⟩

/-- What every permitted step preserves holds at the end of every permitted run. -/
theorem Meets.run_induction {C : S → A → Prop} {P : S → Prop}
    (hstep : ∀ s a, C s a → P s → P (step s a)) {s : S} {actions : List A}
    (hm : Meets step C s actions) (hs : P s) : P (run step s actions) := by
  induction actions generalizing s with
  | nil => exact hs
  | cons a actions ih => exact ih hm.2 (hstep s a hm.1 hs)

/-- What every step preserves holds at the end of every run. -/
theorem run_induction {P : S → Prop} (hstep : ∀ s a, P s → P (step s a)) {s : S}
    (hs : P s) (actions : List A) : P (run step s actions) := by
  induction actions generalizing s with
  | nil => exact hs
  | cons a actions ih => exact ih (hstep s a hs)

variable (step) in
/-- `P` holds of some step of the run, and of the state that it starts from. -/
def Sometime (P : S → A → Prop) (s : S) (actions : List A) : Prop :=
  ∃ before a after, actions = before ++ a :: after ∧ P (run step s before) a

theorem Sometime.append {P : S → A → Prop} {s : S} {actions : List A}
    (h : Sometime step P s actions) (later : List A) : Sometime step P s (actions ++ later) := by
  obtain ⟨before, a, after, rfl, hP⟩ := h
  exact ⟨before, a, after ++ later, by rw [List.append_assoc, List.cons_append], hP⟩

theorem Sometime.last {P : S → A → Prop} {s : S} {actions : List A} {a : A}
    (h : P (run step s actions) a) : Sometime step P s (actions ++ [a]) :=
  ⟨actions, a, [], rfl, h⟩

/-- What holds of the start and is carried over by one more step holds at the end of every run,
together with what has been done. -/
theorem run_snoc_induction {P : List A → S → Prop} {s : S} (hs : P [] s)
    (hstep : ∀ past a, P past (run step s past) → P (past ++ [a]) (step (run step s past) a))
    (actions : List A) : P actions (run step s actions) := by
  induction actions using List.reverseRecOn with
  | nil => exact hs
  | append_singleton past a ih =>
    rw [run_append]
    exact hstep past a ih

end Sockets.Foundation
