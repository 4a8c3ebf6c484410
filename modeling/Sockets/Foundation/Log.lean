import Mathlib.Tactic

/-! Properties of the entries of a log, each with what stands before and behind it. -/
namespace Sockets.Foundation
variable {E F : Type*}

/-- `R` holds of every entry of the log. -/
def Throughout (R : List E → E → List E → Prop) (log : List E) : Prop :=
  ∀ before e after, log = before ++ e :: after → R before e after

theorem Throughout.nil {R : List E → E → List E → Prop} : Throughout R [] := by
  intro before e after h
  simp at h

/-- A log that grows: what holds of an entry must not mind what is appended, and the new entries
are judged behind the old ones. -/
theorem Throughout.append {R : List E → E → List E → Prop} {older newer : List E}
    (ho : Throughout R older)
    (hn : Throughout (fun before => R (older ++ before)) newer)
    (hmono : ∀ {before e after}, R before e after → R before e (after ++ newer)) :
    Throughout R (older ++ newer) := by
  intro before e after h
  rcases List.append_eq_append_iff.mp h with ⟨gap, rfl, hgap⟩ | ⟨gap, rfl, hgap⟩
  · exact hn gap e after hgap
  · cases gap with
    | nil => simpa using hn [] e after (by simpa using hgap.symm)
    | cons e' gap =>
      obtain ⟨rfl, rfl⟩ := List.cons.inj hgap
      exact hmono (ho before e gap rfl)

theorem Throughout.mono {R R' : List E → E → List E → Prop} {log : List E}
    (h : Throughout R log) (hR : ∀ {before e after}, R before e after → R' before e after) :
    Throughout R' log := fun before e after hlog => hR (h before e after hlog)

theorem Throughout.cons {R : List E → E → List E → Prop} {e : E} {log : List E}
    (he : R [] e log) (h : Throughout (fun before => R (e :: before)) log) :
    Throughout R (e :: log) := by
  intro before e' after hlog
  cases before with
  | nil =>
    obtain ⟨rfl, rfl⟩ := List.cons.inj hlog
    exact he
  | cons b before =>
    obtain ⟨rfl, rfl⟩ := List.cons.inj hlog
    exact h before e' after rfl

theorem Throughout.singleton {R : List E → E → List E → Prop} {e : E} (h : R [] e []) :
    Throughout R [e] := .cons h .nil

theorem Throughout.map {R : List F → F → List F → Prop} {f : E → F} {log : List E}
    (h : Throughout (fun before e after => R (before.map f) (f e) (after.map f)) log) :
    Throughout R (log.map f) := by
  intro before e after he
  obtain ⟨before', rest, rfl, rfl, hrest⟩ := List.map_eq_append_iff.mp he
  obtain ⟨e', after', rfl, rfl, rfl⟩ := List.map_eq_cons_iff.mp hrest
  exact h before' e' after' rfl

end Sockets.Foundation
