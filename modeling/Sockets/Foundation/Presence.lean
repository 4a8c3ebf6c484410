import Sockets.Foundation.Log

/-! Connections that come and go under names, and one flag for each name that all of them set. -/
namespace Sockets.Foundation
variable {C D : Type*}

/-- A connection takes a name, takes its leave under it, or ends. -/
inductive Move (D : Type*) where
  | bound (name : D)
  | left (name : D)
  | closed (name : D)
  deriving DecidableEq

/-- The name a connection goes by after a move. -/
def Move.rename : Option D → Move D → Option D
  | _, .bound d => some d
  | name, .left _ => name
  | _, .closed _ => none

/-- What a move sets the flag of a name to: whoever takes the name raises it, whoever leaves or ends
lowers it. -/
def Move.flag [DecidableEq D] (d : D) : Move D → Option Bool
  | .bound e => if e = d then some true else none
  | .left e | .closed e => if e = d then some false else none

/-- The name a connection goes by after several moves. -/
def nameAfter (name : Option D) (moves : List (Move D)) : Option D := moves.foldl Move.rename name

/-- What the flag of a name has been set to, in order. -/
def flags [DecidableEq D] (d : D) (moves : List (C × Move D)) : List Bool :=
  moves.filterMap fun m => m.2.flag d

theorem nameAfter_append (name : Option D) (moves moves' : List (Move D)) :
    nameAfter name (moves ++ moves') = nameAfter (nameAfter name moves) moves' :=
  List.foldl_append

variable [DecidableEq C]

/-- The moves of one connection. -/
def own (c : C) (moves : List (C × Move D)) : List (Move D) :=
  (moves.filter fun m => m.1 = c).map Prod.snd

/-- The connection goes by the name, and has not taken its leave. -/
def Open (c : C) (d : D) (moves : List (C × Move D)) : Prop :=
  nameAfter none (own c moves) = some d ∧ (c, .left d) ∉ moves

/-- No connection leaves a name, or ends under it, while another one goes by the name. -/
def Orderly [DecidableEq D] (moves : List (C × Move D)) : Prop :=
  Throughout (fun before m _ => ∀ d, m.2.flag d = some false → ∀ c ≠ m.1, ¬ Open c d before) moves

theorem own_append (c : C) (moves moves' : List (C × Move D)) :
    own c (moves ++ moves') = own c moves ++ own c moves' := by
  simp [own]

theorem own_tagged (c : C) (moves : List (Move D)) : own c (moves.map (Prod.mk c)) = moves := by
  simp [own, List.filter_map, Function.comp_def]

theorem own_tagged_ne {c c' : C} (h : c' ≠ c) (moves : List (Move D)) :
    own c (moves.map (Prod.mk c')) = [] := by
  simp [own, h]

/-- A connection that is open after one more move has made it, or was open before. -/
private theorem Open.of_append {c : C} {d : D} {moves : List (C × Move D)} {m : C × Move D}
    (h : Open c d (moves ++ [m])) (hm : m.1 = c → m.2 ≠ .bound d) : Open c d moves := by
  obtain ⟨hname, hleft⟩ := h
  refine ⟨?_, fun hmem => hleft (List.mem_append_left _ hmem)⟩
  obtain ⟨c', move⟩ := m
  rw [own_append, nameAfter_append] at hname
  by_cases hc : c' = c
  · subst hc
    cases move with
    | bound e =>
      obtain rfl : e = d := by simpa [own, nameAfter, Move.rename] using hname
      exact absurd rfl (hm rfl)
    | left e => simpa [own, nameAfter, Move.rename] using hname
    | closed e => simp [own, nameAfter, Move.rename] at hname
  · simpa [own, hc, nameAfter] using hname

/-- Where departures are orderly, the flag of a name is up as long as a connection is open under
it. -/
theorem Orderly.last_flag [DecidableEq D] {c : C} {d : D} {moves : List (C × Move D)} (h : Orderly moves)
    (hopen : Open c d moves) : (flags d moves).getLast? = some true := by
  induction moves using List.reverseRecOn with
  | nil => simp [Open, own, nameAfter] at hopen
  | append_singleton moves m ih =>
    have hprefix : Orderly moves := fun before e after hmoves =>
      h before e (after ++ [m]) (by simp [hmoves])
    have hflags : flags d (moves ++ [m]) = flags d moves ++ (m.2.flag d).toList := by
      cases hflag : m.2.flag d <;> simp [flags, hflag]
    rw [hflags]
    cases hflag : m.2.flag d with
    | none =>
      rw [Option.toList_none, List.append_nil]
      refine ih hprefix (hopen.of_append fun _ hbound => ?_)
      simp [hbound, Move.flag] at hflag
    | some raised =>
      cases raised with
      | true => simp
      | false =>
        have hbefore : Open c d moves := hopen.of_append fun _ hbound => by
          simp [hbound, Move.flag] at hflag
        by_cases hc : c = m.1
        · obtain ⟨c', move⟩ := m
          subst hc
          obtain ⟨hname, hleft⟩ := hopen
          cases move with
          | bound e => simp [Move.flag] at hflag
          | left e =>
            obtain rfl : e = d := by simpa [Move.flag] using hflag
            simp at hleft
          | closed e => simp [own, nameAfter, Move.rename] at hname
        · exact absurd hbefore (h moves m [] rfl d hflag c hc)

end Sockets.Foundation
