import Mathlib.Data.Multiset.DershowitzManna
import Sockets.State.Link

/-! Two State sessions that are left alone fall silent. -/
namespace Sockets.State
open Foundation Sockets.Frame

variable {L : StateLibrary}

/-- Requests set off updates, and updates set off acknowledgements; a frame without a message has
level 0. -/
def Message.level : Message L → ℕ
  | .update _ => 2
  | .acknowledgement _ => 1
  | .control c =>
    if c.type = .subscribe ∨ c.type = .unsubscribe ∨ c.type = .resynchronize then 3 else 1

variable (L) in
def level (frame : Bytes) : ℕ := (messageOf L frame).elim 0 Message.level

theorem Says.level_lt {k : ℕ} (hk : 0 < k) {frame : Bytes}
    (h : Says (fun m : Message L => m.level < k) frame) : level L frame < k := by
  unfold level
  cases hm : messageOf L frame with
  | none => exact hk
  | some m => exact h.message hm

theorem Message.level_pos (m : Message L) : 0 < m.level := by
  unfold level
  split
  · norm_num
  · norm_num
  · split_ifs <;> norm_num

variable (L) in
def levels (frames : List Bytes) : Multiset ℕ := frames.map (level L)

theorem levels_append (frames frames' : List Bytes) :
    levels L (frames ++ frames') = levels L frames + levels L frames' := by
  rw [levels, List.map_append, ← Multiset.coe_add]
  rfl

theorem levels_cons (frame : Bytes) (frames : List Bytes) :
    levels L (frame :: frames) = {level L frame} + levels L frames := rfl

/-- Less can happen: fewer sides have to find their peers, or messages set off less. -/
def Lower : ℕ × Multiset ℕ → ℕ × Multiset ℕ → Prop :=
  Prod.Lex (· < ·) Multiset.IsDershowitzMannaLT

theorem lower_wf : WellFounded Lower :=
  WellFounded.prod_lex wellFounded_lt Multiset.wellFounded_isDershowitzMannaLT

/-- A message is replaced by others that set off less. -/
theorem lower_of_replaced {k : ℕ} {old new rest : List Bytes} {frame : Bytes}
    (h : ∀ frame' ∈ new, level L frame' < level L frame) :
    Lower (k, levels L (old ++ new) + levels L rest)
      (k, levels L old + levels L (frame :: rest)) := by
  refine .right _ ⟨levels L old + levels L rest, levels L new, {level L frame}, by simp, ?_, ?_, ?_⟩
  · rw [levels_append, add_right_comm]
  · rw [levels_cons, add_comm {_}, add_assoc]
  · intro y hy
    obtain ⟨frame', hmem, rfl⟩ := List.mem_map.mp (Multiset.mem_coe.mp hy)
    exact ⟨level L frame, Multiset.mem_singleton_self _, h frame' hmem⟩

variable [SizeWidth]

namespace SocketStateSession
variable {H : StateHost L}

/-- The replies of a session that knows its peer set off less than what they reply to. -/
theorem Reply.level_lt {m m' : Message L} {known : L.Device} {s : SocketStateSession H}
    (hknown : known ≠ L.zero) (h : Reply m known s m') : m'.level < m.level := by
  obtain ⟨-, hreply⟩ := h
  cases m' with
  | update parsed =>
    obtain ⟨c, t, q, rfl, hdue, -⟩ := hreply
    have htype : c.type = .subscribe ∨ c.type = .resynchronize := by
      cases hdue with
      | subscribed _ htype _ => exact .inl htype
      | one htype _ _ => exact .inr htype
      | all htype _ _ => exact .inr htype
    rcases htype with htype | htype <;> simp [Message.level, htype]
  | acknowledgement a =>
    obtain ⟨parsed, rfl, -⟩ := hreply
    norm_num [Message.level]
  | control c' =>
    obtain ⟨hzero, -⟩ | ⟨c, rfl, hanswer⟩ := hreply
    · exact absurd hzero hknown
    · unfold answerOf at hanswer
      split at hanswer
      · rename_i htype
        simp [Message.level, htype, ← Option.some.inj hanswer]
      · rename_i htype
        simp [Message.level, htype, ← Option.some.inj hanswer]
      · cases hanswer

/-- A session that handles a message finds its peer, or replies with what sets off less. -/
theorem handleMessage_calms (K : Ledger H) (hL : FaithfulProtocol L) (m : Message L)
    (s : SocketStateSession H) (x : Exterior H) :
    (s.remoteDevice = L.zero ∧ (s.handleMessage m x).2.1.remoteDevice ≠ L.zero) ∨
    ((s.handleMessage m x).2.1.remoteDevice = s.remoteDevice ∧
      Hands K (fun m' => m'.level < m.level) x (s.handleMessage m x).2.2) := by
  have hsession := handleMessage_session m s x
  cases hsender : m.sender with
  | none =>
    rw [hsender] at hsession
    refine .inr ⟨by rw [hsession], handleMessage_replies K hL (fun s' m' hreply => ?_) x⟩
    have hpeer := hreply.1.2
    rw [hsender] at hpeer
    cases hpeer
  | some d =>
    rw [hsender] at hsession
    cases hadmits : s.admits d with
    | false =>
      rw [handleMessage_refused hsender hadmits]
      exact .inr ⟨rfl, .of_eq rfl⟩
    | true =>
      simp only [hadmits, if_true] at hsession
      obtain ⟨hd, -, hfree | hsame⟩ := of_decide_eq_true hadmits
      · exact .inl ⟨hfree, by rwa [hsession]⟩
      · refine .inr ⟨by rw [hsession, hsame], ?_⟩
        exact handleMessage_replies K hL (fun s' m' hreply => hreply.level_lt (hsame ▸ hd)) x

end SocketStateSession

namespace Link
open SocketStateSession
variable {n : Link L} {i : Side}

/-- Whether a side still has to find its peer. -/
def unbound (i : Side) (n : Link L) : ℕ :=
  if (n.side i).session.remoteDevice = L.zero then 1 else 0

/-- What can still happen without further calls. -/
def energy (n : Link L) : ℕ × Multiset ℕ :=
  (n.unbound .a + n.unbound .b, levels L (n.flight .a) + levels L (n.flight .b))

theorem energy_eq (i : Side) (n : Link L) : n.energy =
    (n.unbound i + n.unbound i.other, levels L (n.flight i) + levels L (n.flight i.other)) := by
  cases i
  · rfl
  · rw [energy, Nat.add_comm, add_comm (levels L (n.flight .a))]
    rfl

/-- Every delivery uses up energy. -/
theorem Orderly.lower (h : n.Orderly) (hL : FaithfulProtocol L)
    (hflight : n.flight i.other ≠ []) : Lower (n.deliver i).energy n.energy := by
  obtain ⟨frame, rest, hcons⟩ := List.exists_cons_of_ne_nil hflight
  obtain ⟨r, hr, hside⟩ := h.hears hcons
  have hother : (n.deliver i).side i.other = n.side i.other := deliver_other i.other_ne n
  have hreceived : (n.deliver i).received = Function.update n.received i (n.received i + 1) := by
    rw [deliver_cons hcons]
  have hunbound : (n.deliver i).unbound i.other = n.unbound i.other := by
    rw [unbound, hother, unbound]
  have hrest : (n.deliver i).flight i.other = rest := by
    have htail := congrArg List.tail hcons
    rw [flight, List.tail_drop, Side.other_other] at htail
    rw [flight, sent, hother, hreceived, Side.other_other, Function.update_self]
    exact htail
  have hsent (frames : List Bytes) (hframes : (n.deliver i).sent i = n.sent i ++ frames) :
      (n.deliver i).flight i = n.flight i ++ frames := by
    have hle := h.received_le i.other
    rw [Side.other_other] at hle
    rw [flight, flight, hframes, hreceived, Function.update_of_ne i.other_ne,
      List.drop_append_of_le_length hle]
  have hreplaced (hsame : (n.deliver i).unbound i = n.unbound i) (frames : List Bytes)
      (hframes : (n.deliver i).sent i = n.sent i ++ frames)
      (hlevel : ∀ frame' ∈ frames, level L frame' < level L frame) :
      Lower (n.deliver i).energy n.energy := by
    rw [energy_eq i, energy_eq i n, hunbound, hrest, hcons, hsame, hsent frames hframes]
    exact lower_of_replaced hlevel
  rcases hr with rfl | ⟨m, hm, rfl⟩
  · refine hreplaced ?_ [] ?_ (by simp)
    · rw [unbound, hside]
      rfl
    · rw [sent, hside, List.append_nil]
      rfl
  · have hlevel : level L frame = m.level := by rw [level, hm, Option.elim_some]
    rcases handleMessage_calms (lineLedger L) hL m (n.side i).session (n.side i).exterior with
      ⟨hfree, hbound⟩ | ⟨hsame, frames, hframes, hspoken⟩
    · -- the side has found its peer, whatever it has sent because of that
      have hold : n.unbound i = 1 := if_pos hfree
      have hnew : (n.deliver i).unbound i = 0 := by
        rw [unbound, hside]
        exact if_neg hbound
      rw [energy_eq i, energy_eq i n, hunbound, hold, hnew]
      exact .left _ _ (by omega)
    · refine hreplaced ?_ frames ?_ fun frame' hmem => ?_
      · rw [unbound, hside, unbound, ← hsame]
      · rw [sent, hside]
        exact hframes
      · rw [hlevel]
        exact (hspoken frame' hmem).level_lt m.level_pos

/-- The link after so many deliveries of a schedule. -/
def after (schedule : ℕ → Side) (n : Link L) : ℕ → Link L
  | 0 => n
  | k + 1 => (n.after schedule k).deliver (schedule k)

theorem Orderly.after (h : n.Orderly) (hL : FaithfulProtocol L) (schedule : ℕ → Side) (k : ℕ) :
    (n.after schedule k).Orderly := by
  induction k with
  | zero => exact h
  | succ k ih => exact ih.step hL (.deliver (schedule k))

/-- Whatever has been done with two sessions, from then on every delivery uses up energy, of which
there is no infinite descent: no sequence of deliveries goes on forever. -/
theorem deliveries_end (hL : FaithfulProtocol L) (store : Side → Store L)
    (outcomes : Side → ℕ → Bool) (actions : List (Action L)) :
    let n := run step (start store outcomes) actions
    WellFounded Lower ∧
      (∀ i, n.flight i.other ≠ [] → Lower (n.deliver i).energy n.energy) ∧
      ∀ schedule : ℕ → Side, ∃ k, (n.after schedule k).flight (schedule k).other = [] := by
  intro n
  have horderly : n.Orderly := orderly_run hL store outcomes actions
  refine ⟨lower_wf, fun i => horderly.lower hL, fun schedule => ?_⟩
  have : IsWellFounded _ Lower := ⟨lower_wf⟩
  obtain ⟨k, hk⟩ := WellFounded.not_rel_apply_succ (r := Lower) fun k => (n.after schedule k).energy
  refine ⟨k, ?_⟩
  by_contra hflight
  exact hk ((horderly.after hL schedule k).lower hL hflight)

end Link
end Sockets.State

namespace Sockets.State.Link
open Foundation Sockets.Frame

section Table

attribute [local instance] SizeWidth.host

/-- The sides are fed by turns. -/
def byTurns (k : ℕ) : Side := if k % 2 = 0 then .a else .b

theorem deliveries_end_requesting : ∃ k,
    ((run step (start sourceStore fun _ _ => true) requesting).after byTurns k).flight
      (byTurns k).other = [] :=
  (deliveries_end faithfulProtocol_table sourceStore (fun _ _ => true) requesting).2.2 byTurns

end Table
end Sockets.State.Link
