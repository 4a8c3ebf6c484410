import Sockets.Foundation.Cursor

/-! Computations that may fail and, unlike a `Read`, keep the state they have reached when they do:
rules of pre- and postconditions, and when such a computation is another account of a `Read`. -/
namespace Sockets.Foundation

def Fallible (σ α : Type) := σ → Option α × σ

variable {σ α β : Type}

namespace Fallible

instance : Monad (Fallible σ) where
  pure a s := (some a, s)
  bind p q s :=
    match p s with
    | (none, t) => (none, t)
    | (some a, t) => q a t

/-- A test that leaves the state alone. -/
def require (P : Prop) [Decidable P] : Fallible σ Unit :=
  fun s => (if P then some () else none, s)

/-- A value read off the state. -/
def query (f : σ → α) : Fallible σ α := fun s => (some (f s), s)

/-- The same computation `n` times. -/
def many (p : Fallible σ α) : ℕ → Fallible σ (List α)
  | 0 => pure []
  | n + 1 => do
    let a ← p
    let as ← many p n
    return a :: as

theorem bind_some {p : Fallible σ α} {q : α → Fallible σ β} {s t : σ} {a : α}
    (h : p s = (some a, t)) : (p >>= q) s = q a t := by
  simp only [Bind.bind, h]

theorem bind_none {p : Fallible σ α} {q : α → Fallible σ β} {s t : σ} (h : p s = (none, t)) :
    (p >>= q) s = (none, t) := by
  simp only [Bind.bind, h]

theorem map_eq (f : α → β) (p : Fallible σ α) (s : σ) :
    (f <$> p) s = ((p s).1.map f, (p s).2) := by
  rcases hr : p s with ⟨_ | a, t⟩
  · exact bind_none hr
  · exact bind_some hr

theorem map_bind {γ : Type} (f : α → β) (p : Fallible σ α) (q : β → Fallible σ γ) :
    f <$> p >>= q = p >>= fun a => q (f a) := by
  funext s
  rcases hr : p s with ⟨_ | a, t⟩
  · rw [bind_none hr, bind_none (by rw [map_eq, hr]; rfl)]
  · rw [bind_some hr, bind_some (by rw [map_eq, hr]; rfl)]

/-- From `pre` the computation ends in `post` with a value, or in `failed` without one. -/
def Holds (pre : σ → Prop) (p : Fallible σ α) (post failed : σ → Prop) : Prop :=
  ∀ s, pre s → (∀ a t, p s = (some a, t) → post t) ∧ ∀ t, p s = (none, t) → failed t

section
variable {pre post mid failed : σ → Prop} {p : Fallible σ α} {q : α → Fallible σ β}

theorem Holds.pure (a : α) : Holds pre (Pure.pure a : Fallible σ α) pre failed := by
  intro s hs
  constructor
  · intro b t h
    cases h
    exact hs
  · intro t h
    cases h

theorem Holds.bind (hp : Holds pre p mid failed) (hq : ∀ a, Holds mid (q a) post failed) :
    Holds pre (p >>= q) post failed := by
  intro s hs
  obtain ⟨hsome, hnone⟩ := hp s hs
  rcases hr : p s with ⟨_ | a, t⟩
  · rw [bind_none hr]
    constructor
    · intro b u h
      cases h
    · intro u h
      cases h
      exact hnone t hr
  · rw [bind_some hr]
    exact hq a t (hsome a t hr)

theorem Holds.require (P : Prop) [Decidable P] (hfailed : ∀ s, pre s → failed s) :
    Holds pre (Fallible.require P) pre failed := by
  intro s hs
  constructor
  · intro a t h
    have ht : s = t := congrArg Prod.snd h
    exact ht ▸ hs
  · intro t h
    have ht : s = t := congrArg Prod.snd h
    exact ht ▸ hfailed s hs

theorem Holds.query (f : σ → α) : Holds pre (Fallible.query f) pre failed := by
  intro s hs
  constructor
  · intro a t h
    cases h
    exact hs
  · intro t h
    cases h

/-- What one turn of a loop keeps, the loop keeps. -/
theorem Holds.many (hp : Holds pre p pre failed) (n : ℕ) :
    Holds pre (Fallible.many p n) pre failed := by
  induction n with
  | zero => exact Holds.pure []
  | succ n ih => exact hp.bind fun a => ih.bind fun as => Holds.pure (a :: as)

/-- However the computation ends. -/
theorem Holds.ends (h : Holds pre p post failed) (hpost : ∀ s, post s → failed s) {s : σ}
    (hs : pre s) : failed (p s).2 := by
  obtain ⟨hsome, hnone⟩ := h s hs
  rcases hr : p s with ⟨_ | a, t⟩
  · exact hnone t hr
  · exact hpost t (hsome a t hr)

end

/-- Where `kept` holds, `p` finds what the read `q` finds on the bytes that `view` shows, moves on
as far as `q` does and keeps `kept`. -/
def Follows (view : σ → Cursor) (kept : σ → Prop) (p : Fallible σ α) (q : Read α) : Prop :=
  ∀ s, kept s → (∀ a t, p s = (some a, t) → q (view s) = some (a, view t) ∧ kept t) ∧
    ∀ t, p s = (none, t) → q (view s) = none

section
variable {view : σ → Cursor} {kept : σ → Prop} {p : Fallible σ α} {q : Read α}

theorem Follows.pure (a : α) :
    Follows view kept (Pure.pure a : Fallible σ α) (Pure.pure a) := by
  intro s hs
  constructor
  · intro b t h
    cases h
    exact ⟨rfl, hs⟩
  · intro t h
    cases h

theorem Follows.bind {p' : α → Fallible σ β} {q' : α → Read β} (hp : Follows view kept p q)
    (hq : ∀ a, Follows view kept (p' a) (q' a)) :
    Follows view kept (p >>= p') (q >>= q') := by
  intro s hs
  obtain ⟨hsome, hnone⟩ := hp s hs
  rcases hr : p s with ⟨_ | a, t⟩
  · have hread : (q >>= q') (view s) = none := by
      simp only [Bind.bind, StateT.bind, hnone t hr, Option.bind]
    rw [bind_none hr]
    constructor
    · intro b u h
      cases h
    · intro u _
      exact hread
  · obtain ⟨hfirst, ht⟩ := hsome a t hr
    have hread : (q >>= q') (view s) = q' a (view t) := by
      simp only [Bind.bind, StateT.bind, hfirst, Option.bind]
    rw [bind_some hr, hread]
    exact hq a t ht

theorem Follows.map (f : α → β) (hp : Follows view kept p q) :
    Follows view kept (f <$> p) (f <$> q) :=
  hp.bind fun a => Follows.pure (f a)

theorem Follows.seq {p' : Fallible σ (α → β)} {q' : Read (α → β)} (hf : Follows view kept p' q')
    (hp : Follows view kept p q) : Follows view kept (p' <*> p) (q' <*> q) :=
  hf.bind fun f => hp.map f

theorem Follows.require (P : Prop) [Decidable P] :
    Follows view kept (Fallible.require P) (guard P) := by
  intro s hs
  by_cases hP : P
  · simp only [Fallible.require, guard, if_pos hP]
    constructor
    · intro a t h
      cases h
      exact ⟨rfl, hs⟩
    · intro t h
      cases h
  · simp only [Fallible.require, guard, if_neg hP]
    constructor
    · intro a t h
      cases h
    · intro t _
      rfl

theorem Follows.many (hp : Follows view kept p q) (n : ℕ) :
    Follows view kept (Fallible.many p n) (Cursor.many q n) := by
  induction n with
  | zero => exact Follows.pure []
  | succ n ih => exact hp.bind fun a => ih.bind fun as => Follows.pure (a :: as)

/-- What is done before and after `p` may be anything that `view` does not show. -/
theorem Follows.around {p' : Fallible σ α} (hp : Follows view kept p q) (enter : σ → σ)
    (henter : ∀ s, kept s → kept (enter s) ∧ view (enter s) = view s)
    (hvalue : ∀ s, (p' s).1 = (p (enter s)).1)
    (hleave : ∀ s, kept (p (enter s)).2 → kept (p' s).2 ∧ view (p' s).2 = view (p (enter s)).2) :
    Follows view kept p' q := by
  intro s hs
  obtain ⟨hkept, hview⟩ := henter s hs
  obtain ⟨hsome, hnone⟩ := hp (enter s) hkept
  have hfirst := hvalue s
  rw [hview] at hsome hnone
  rcases hrun : p (enter s) with ⟨_ | a, t⟩
  · constructor
    · intro b u h
      rw [h, hrun] at hfirst
      cases hfirst
    · intro u _
      exact hnone t hrun
  · obtain ⟨hread, ht⟩ := hsome a t hrun
    have hlast := hleave s
    rw [hrun] at hlast
    obtain ⟨hkept', hview'⟩ := hlast ht
    constructor
    · intro b u h
      rw [h] at hfirst hkept' hview'
      rw [hrun] at hfirst
      cases hfirst
      exact ⟨hread.trans (congrArg (fun c => some (_, c)) hview'.symm), hkept'⟩
    · intro u h
      rw [h, hrun] at hfirst
      cases hfirst

/-- The values agree. -/
theorem Follows.value (h : Follows view kept p q) {s : σ} (hs : kept s) :
    (p s).1 = (q (view s)).map Prod.fst := by
  obtain ⟨hsome, hnone⟩ := h s hs
  rcases hr : p s with ⟨_ | a, t⟩
  · rw [hnone t hr]
    rfl
  · rw [(hsome a t hr).1]
    rfl

end

end Fallible
end Sockets.Foundation
