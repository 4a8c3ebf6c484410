import Sockets.Foundation.Run

/-! Routines that call out of a system and may be entered again before the call returns. The code of
a routine is a tree of what it does; a machine keeps every routine that has been entered and has not
returned; a discipline says what a routine may find changed after a call, in the way of rely and
guarantee, and is checked on one routine at a time. -/
namespace Sockets.Foundation
universe u

/-- Code on a state `S` that makes calls `Q` to the outside, each with a type of answers. -/
inductive Code (S Q : Type u) (A : Q → Type u) (R : Type u) where
  | done (r : R)
  | read (k : S → Code S Q A R)
  | write (s : S) (k : Code S Q A R)
  | call (q : Q) (k : A q → Code S Q A R)
  | fault

namespace Code
variable {S Q : Type u} {A : Q → Type u} {R R' : Type u}

def bind : Code S Q A R → (R → Code S Q A R') → Code S Q A R'
  | .done r, f => f r
  | .read k, f => .read fun s => (k s).bind f
  | .write s k, f => .write s (k.bind f)
  | .call q k, f => .call q fun a => (k a).bind f
  | .fault, _ => .fault

instance : Monad (Code S Q A) where
  pure := .done
  bind := .bind

def get : Code S Q A S := .read .done
def set (s : S) : Code S Q A PUnit := .write s (.done ⟨⟩)
def modify (f : S → S) : Code S Q A PUnit := .read fun s => .write (f s) (.done ⟨⟩)
def ask (q : Q) : Code S Q A (A q) := .call q .done

/-- The same for every item of a list, in order. -/
def each {α : Type*} (f : α → Code S Q A PUnit) : List α → Code S Q A PUnit
  | [] => pure ⟨⟩
  | a :: as => f a >>= fun _ => each f as

/-- A piece of code run to its end, with calls answered by functions of a world that leave the state
alone; `none` where it faults. -/
def eval {W : Type*} (answer : (q : Q) → W → A q × W) : Code S Q A R → S → W → Option (R × S × W)
  | .done r, s, w => some (r, s, w)
  | .read k, s, w => (k s).eval answer s w
  | .write s k, _, w => k.eval answer s w
  | .call q k, s, w => (k (answer q w).1).eval answer s (answer q w).2
  | .fault, _, _ => none

section Eval
variable {W : Type*} {answer : (q : Q) → W → A q × W}

theorem eval_bind (c : Code S Q A R) (f : R → Code S Q A R') (s : S) (w : W) :
    (c >>= f).eval answer s w =
      (c.eval answer s w).bind fun t => (f t.1).eval answer t.2.1 t.2.2 := by
  change (c.bind f).eval answer s w = _
  induction c generalizing s w with
  | done r => rfl
  | read k ih => exact ih s s w
  | write s' k ih => exact ih s' w
  | call q k ih => exact ih _ s _
  | fault => rfl

@[simp] theorem eval_get (f : S → Code S Q A R) (s : S) (w : W) :
    (get >>= f).eval answer s w = (f s).eval answer s w := rfl

@[simp] theorem eval_set (s' : S) (f : PUnit → Code S Q A R) (s : S) (w : W) :
    (set s' >>= f).eval answer s w = (f ⟨⟩).eval answer s' w := rfl

@[simp] theorem eval_modify (g : S → S) (f : PUnit → Code S Q A R) (s : S) (w : W) :
    (modify g >>= f).eval answer s w = (f ⟨⟩).eval answer (g s) w := rfl

@[simp] theorem eval_ask (q : Q) (f : A q → Code S Q A R) (s : S) (w : W) :
    (ask q >>= f).eval answer s w = (f (answer q w).1).eval answer s (answer q w).2 := rfl

end Eval
end Code

/-- How a piece of a routine ends: at a label where the routine goes on, or with its result. -/
inductive Exit (L R : Type u) where
  | goto (l : L)
  | ret (r : R)

/-- The routines that can be entered from the outside, and the pieces they go on with. -/
structure Program (S Q : Type u) (A : Q → Type u) (L R E : Type u) where
  entry : E → Code S Q A (Exit L R)
  body : L → Code S Q A (Exit L R)

/-- `stack` holds the routines that have not returned, the innermost first. -/
structure Machine (S Q : Type u) (A : Q → Type u) (L R : Type u) where
  state : S
  stack : List (Code S Q A (Exit L R)) := []
  fault : Bool := false

/-- What happens next: a routine is entered, a call is answered, or the innermost routine goes on. -/
inductive Turn (E : Type u) {Q : Type u} (A : Q → Type u) where
  | enter (e : E)
  | answer (a : (q : Q) → A q)
  | proceed

variable {S Q : Type u} {A : Q → Type u} {L R E : Type u} (P : Program S Q A L R E)

namespace Machine

/-- Control is outside: nothing runs, or the innermost routine waits for an answer. -/
def waits (m : Machine S Q A L R) : Bool :=
  match m.stack with
  | [] => true
  | .call _ _ :: _ => true
  | _ => false

/-- The label at which the innermost routine is about to go on. -/
def label (m : Machine S Q A L R) : Option L :=
  match m.stack with
  | .done (.goto l) :: _ => some l
  | _ => none

/-- The innermost routine takes a step. -/
def proceed (m : Machine S Q A L R) : Machine S Q A L R :=
  match m.stack with
  | .done (.ret _) :: rest => { m with stack := rest }
  | .done (.goto l) :: rest => { m with stack := P.body l :: rest }
  | .read k :: rest => { m with stack := k m.state :: rest }
  | .write s k :: rest => { m with state := s, stack := k :: rest }
  | .fault :: _ => { m with fault := true }
  | _ => m

def step (m : Machine S Q A L R) : Turn E A → Machine S Q A L R
  | .enter e => if m.waits then { m with stack := P.entry e :: m.stack } else m
  | .answer a =>
    match m.stack with
    | .call q k :: rest => { m with stack := k (a q) :: rest }
    | _ => m
  | .proceed => m.proceed P

end Machine

/-- A routine run to its end, piece by piece, without being entered again. -/
inductive Returns {W : Type*} (answer : (q : Q) → W → A q × W) :
    Code S Q A (Exit L R) → S → W → R → S → W → Prop
  | ret {c : Code S Q A (Exit L R)} {s s' : S} {w w' : W} {r : R}
      (h : c.eval answer s w = some (.ret r, s', w')) : Returns answer c s w r s' w'
  | goto {c : Code S Q A (Exit L R)} {s s' s'' : S} {w w' w'' : W} {l : L} {r : R}
      (h : c.eval answer s w = some (.goto l, s', w'))
      (h' : Returns answer (P.body l) s' w' r s'' w'') : Returns answer c s w r s'' w''

/-- Code that comes to the same end is followed by the same. -/
theorem Returns.of_eval {W : Type*} {answer : (q : Q) → W → A q × W}
    {c c' : Code S Q A (Exit L R)} {s s' t : S} {w w' v : W} {r : R}
    (heval : c.eval answer s w = c'.eval answer s' w') (h : Returns P answer c' s' w' r t v) :
    Returns P answer c s w r t v := by
  cases h with
  | ret h => exact .ret (heval.trans h)
  | goto h h' => exact .goto (heval.trans h) h'

/-- The machine runs a piece of code to its end, above whatever is suspended. -/
theorem eval_run {W : Type*} {answer : (q : Q) → W → A q × W} (c : Code S Q A (Exit L R)) {s s' : S}
    {w w' : W} {x : Exit L R} (h : c.eval answer s w = some (x, s', w'))
    (rest : List (Code S Q A (Exit L R))) :
    ∃ turns : List (Turn E A), run (Machine.step P) ⟨s, c :: rest, false⟩ turns =
      ⟨s', .done x :: rest, false⟩ := by
  induction c generalizing s w with
  | done r =>
    obtain ⟨rfl, rfl, rfl⟩ : r = x ∧ s = s' ∧ w = w' := by
      simpa [Code.eval] using h
    exact ⟨[], rfl⟩
  | read k ih =>
    obtain ⟨turns, hturns⟩ := ih s h
    exact ⟨.proceed :: turns, hturns⟩
  | write s₁ k ih =>
    obtain ⟨turns, hturns⟩ := ih h
    exact ⟨.proceed :: turns, hturns⟩
  | call q k ih =>
    obtain ⟨turns, hturns⟩ := ih _ h
    exact ⟨.answer (fun q => (answer q w).1) :: turns, hturns⟩
  | fault => cases h

/-- A routine that is not entered again does in the machine what its code does. -/
theorem Returns.run {W : Type*} {answer : (q : Q) → W → A q × W} {c : Code S Q A (Exit L R)}
    {s s' : S} {w w' : W} {r : R} (h : Returns P answer c s w r s' w')
    (rest : List (Code S Q A (Exit L R))) :
    ∃ turns : List (Turn E A),
      Foundation.run (Machine.step P) ⟨s, c :: rest, false⟩ turns = ⟨s', rest, false⟩ := by
  induction h with
  | ret h =>
    obtain ⟨turns, hturns⟩ := eval_run P _ h rest
    exact ⟨turns ++ [.proceed], by rw [run_append, hturns]; rfl⟩
  | goto h _ ih =>
    obtain ⟨turns, hturns⟩ := eval_run P _ h rest
    obtain ⟨turns', hturns'⟩ := ih
    refine ⟨turns ++ .proceed :: turns', ?_⟩
    rw [run_append, hturns]
    exact hturns'

/-- The terms on which routines are entered while others wait. `always` holds of every state and
`rest` of every state in which control is outside; `rely` relates the state at a call to the states
in which the caller may find itself afterwards; `loop` is what holds at a label, of the state in
which the routine was entered and the present one. `permits` and `admits` are conditions on a run:
in which states a routine may be entered, and in which it may go on at a label. -/
structure Discipline (S L E : Type u) where
  permits : E → S → Prop
  admits : L → S → Prop
  always : S → Prop
  rest : S → Prop
  rely : S → S → Prop
  loop : L → S → S → Prop

namespace Discipline
variable {P} (D : Discipline S L E)

/-- Code that keeps the terms from a state on and ends in `post`. -/
def Keeps {R : Type u} (post : R → S → Prop) : Code S Q A R → S → Prop
  | .done r, s => post r s
  | .read k, s => Keeps post (k s) s
  | .write s k, _ => D.always s ∧ Keeps post k s
  | .call _ k, s => D.rest s ∧ ∀ a s', D.rely s s' → D.rest s' → Keeps post (k a) s'
  | .fault, _ => False

/-- How a piece of a routine that was entered in `s₀` has to end. -/
def Ends (s₀ : S) : Exit L R → S → Prop
  | .goto l, s => D.loop l s₀ s
  | .ret _, s => D.rest s ∧ D.rely s₀ s

variable (P) in
structure Sound : Prop where
  refl : ∀ s, D.rely s s
  trans : ∀ {s s' s''}, D.rely s s' → D.rely s' s'' → D.rely s s''
  entry : ∀ e s, D.permits e s → D.rest s → D.Keeps (D.Ends s) (P.entry e) s
  body : ∀ l s₀ s, D.admits l s → D.loop l s₀ s → D.Keeps (D.Ends s₀) (P.body l) s

section Keeps
variable {D} {R' : Type u} {post post' : R → S → Prop}

theorem Keeps.mono {c : Code S Q A R} {s : S} (h : D.Keeps post c s)
    (hpost : ∀ r s, post r s → post' r s) : D.Keeps post' c s := by
  induction c generalizing s with
  | done r => exact hpost r s h
  | read k ih => exact ih s h
  | write s k ih => exact ⟨h.1, ih h.2⟩
  | call q k ih => exact ⟨h.1, fun a s' hrely hrest => ih a (h.2 a s' hrely hrest)⟩
  | fault => exact h

/-- A piece of code is checked on its own, and what follows it from where it ends. -/
theorem Keeps.bind {post : R' → S → Prop} {c : Code S Q A R} {f : R → Code S Q A R'} {s : S}
    (h : D.Keeps (fun r s => D.Keeps post (f r) s) c s) : D.Keeps post (c >>= f) s := by
  change D.Keeps post (c.bind f) s
  induction c generalizing s with
  | done r => exact h
  | read k ih => exact ih s h
  | write s k ih => exact ⟨h.1, ih h.2⟩
  | call q k ih => exact ⟨h.1, fun a s' hrely hrest => ih a (h.2 a s' hrely hrest)⟩
  | fault => exact h

/-- What every step keeps, all of them keep. -/
theorem Keeps.each {α : Type*} {I : S → Prop} {f : α → Code S Q A PUnit}
    (h : ∀ a s, I s → D.Keeps (fun _ => I) (f a) s) (as : List α) {s : S} (hs : I s) :
    D.Keeps (fun _ => I) (Code.each f as) s := by
  induction as generalizing s with
  | nil => exact hs
  | cons a as ih => exact ((h a s hs).mono fun _ _ hs' => ih hs').bind

variable (f : S → Code S Q A R) (f' : PUnit → Code S Q A R) (s : S)

@[simp] theorem keeps_pure (r : R) : D.Keeps post (pure r : Code S Q A R) s ↔ post r s := Iff.rfl

@[simp] theorem keeps_get :
    D.Keeps post (Code.get >>= f) s ↔ D.Keeps post (f s) s := Iff.rfl

@[simp] theorem keeps_set (s' : S) :
    D.Keeps post (Code.set s' >>= f') s ↔ D.always s' ∧ D.Keeps post (f' ⟨⟩) s' := Iff.rfl

@[simp] theorem keeps_modify (g : S → S) :
    D.Keeps post (Code.modify g >>= f') s ↔
      D.always (g s) ∧ D.Keeps post (f' ⟨⟩) (g s) := Iff.rfl

@[simp] theorem keeps_ask (q : Q) (k : A q → Code S Q A R) :
    D.Keeps post (Code.ask q >>= k) s ↔
      D.rest s ∧ ∀ a s', D.rely s s' → D.rest s' → D.Keeps post (k a) s' := Iff.rfl

end Keeps

/-- The routines below one that was entered in `s`: each can go on from what it relies on. `base` is
where the machine started. -/
def Suspended (base : S) : List (Code S Q A (Exit L R)) → S → Prop
  | [], s => D.rely base s
  | .call _ k :: stack, s => ∃ s₀, (∀ a s', D.rely s s' → D.rest s' →
      D.Keeps (D.Ends s₀) (k a) s') ∧ Suspended base stack s₀
  | _ :: _, _ => False

/-- What holds throughout a run. -/
structure Settled (base : S) (m : Machine S Q A L R) : Prop where
  fault : m.fault = false
  always : D.always m.state
  stack : match m.stack with
    | [] => D.rest m.state ∧ D.rely base m.state
    | c :: stack => ∃ s₀, D.Keeps (D.Ends s₀) c m.state ∧ D.Suspended base stack s₀

/-- The condition on a move. -/
def Allows (m : Machine S Q A L R) : Turn E A → Prop
  | .enter e => m.waits = true → D.permits e m.state
  | .answer _ => True
  | .proceed => ∀ l ∈ m.label, D.admits l m.state

variable {D}

theorem Settled.enter (h : D.Sound P) {base : S} {m : Machine S Q A L R}
    (hm : D.Settled base m) {e : E} (hwaits : m.waits = true) (hpermits : D.permits e m.state) :
    D.Settled base { m with stack := P.entry e :: m.stack } := by
  obtain ⟨s, stack, fault⟩ := m
  refine ⟨hm.fault, hm.always, s, ?_⟩
  match stack, hm.stack, hwaits with
  | [], ⟨hrest, hbase⟩, _ => exact ⟨h.entry e s hpermits hrest, hbase⟩
  | .call q k :: stack, ⟨s₀, ⟨hrest, hk⟩, hstack⟩, _ =>
    exact ⟨h.entry e s hpermits hrest, s₀, hk, hstack⟩

theorem Settled.answer (h : D.Sound P) {base : S} {m : Machine S Q A L R}
    (hm : D.Settled base m) (a : (q : Q) → A q) : D.Settled base (m.step P (.answer a)) := by
  obtain ⟨s, stack, fault⟩ := m
  match stack, hm with
  | .call q k :: stack, ⟨hfault, halways, s₀, ⟨hrest, hk⟩, hstack⟩ =>
    exact ⟨hfault, halways, s₀, hk (a q) s (h.refl s) hrest, hstack⟩
  | [], hm | .done _ :: _, hm | .read _ :: _, hm | .write _ _ :: _, hm | .fault :: _, hm =>
    exact hm

/-- A routine that returns leaves the one below it a state that one relies on. -/
theorem Settled.ret (h : D.Sound P) {base s₀ s : S} (hrest : D.rest s) (hrely : D.rely s₀ s)
    (halways : D.always s) {stack : List (Code S Q A (Exit L R))}
    (hstack : D.Suspended base stack s₀) : D.Settled base { state := s, stack } := by
  refine ⟨rfl, halways, ?_⟩
  match stack, hstack with
  | [], hbase => exact ⟨hrest, h.trans hbase hrely⟩
  | .call q k :: stack, ⟨s₁, hk, hstack⟩ =>
    refine ⟨s₁, ⟨hrest, fun a s' hrely' hrest' => ?_⟩, hstack⟩
    exact hk a s' (h.trans hrely hrely') hrest'

theorem Settled.proceed (h : D.Sound P) {base : S} {m : Machine S Q A L R} (hm : D.Settled base m)
    (hallows : D.Allows (A := A) m .proceed) : D.Settled base (m.proceed P) := by
  obtain ⟨s, stack, fault⟩ := m
  obtain ⟨rfl, halways, hm⟩ := hm
  match stack, hm with
  | [], hrest => exact ⟨rfl, halways, hrest⟩
  | .done (.ret r) :: stack, ⟨s₀, ⟨hrest, hrely⟩, hstack⟩ => exact .ret h hrest hrely halways hstack
  | .done (.goto l) :: stack, ⟨s₀, hloop, hstack⟩ =>
    exact ⟨rfl, halways, s₀, h.body l s₀ s (hallows l rfl) hloop, hstack⟩
  | .read k :: stack, ⟨s₀, hk, hstack⟩ => exact ⟨rfl, halways, s₀, hk, hstack⟩
  | .write s' k :: stack, ⟨s₀, ⟨halways', hk⟩, hstack⟩ => exact ⟨rfl, halways', s₀, hk, hstack⟩
  | .call q k :: stack, hcall => exact ⟨rfl, halways, hcall⟩

theorem Settled.step (h : D.Sound P) {base : S} {m : Machine S Q A L R}
    (hm : D.Settled base m) {a : Turn E A} (hallows : D.Allows m a) : D.Settled base (m.step P a) := by
  cases a with
  | enter e =>
    by_cases hwaits : m.waits = true
    · simp only [Machine.step, hwaits, if_true]
      exact hm.enter h hwaits (hallows hwaits)
    · have hstep : m.step P (.enter e) = m := by simp [Machine.step, hwaits]
      rwa [hstep]
  | answer a => exact hm.answer h a
  | proceed => exact hm.proceed h hallows

/-- A run in which every move is allowed does not fault, and `always` holds throughout. -/
theorem Settled.run (h : D.Sound P) {base : S} {m : Machine S Q A L R} (hm : D.Settled base m)
    {turns : List (Turn E A)} (hturns : Meets (Machine.step P) D.Allows m turns) :
    D.Settled base (run (Machine.step P) m turns) :=
  hturns.run_induction (fun _ _ hallows hs => hs.step h hallows) hm

theorem settled_start (h : D.Sound P) {s : S} (halways : D.always s) (hrest : D.rest s) :
    D.Settled s ({ state := s } : Machine S Q A L R) := ⟨rfl, halways, hrest, h.refl s⟩

end Discipline
end Sockets.Foundation
