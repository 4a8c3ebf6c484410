import Sockets.State.Link

/-! What an acknowledgement assures the publisher of. -/
namespace Sockets.State
open Foundation Sockets.Frame

variable {L : StateLibrary}

/-- What is held for a device is the very value that is acknowledged. -/
def Holds (a : StateAcknowledgement L.Device) (m : L.RemoteManager) : Prop :=
  L.read a.typeId a.origin m = some ⟨true, a.epoch, a.revision⟩

variable (L) in
/-- `Apply` returns true only after it has stored the epoch and the revision. -/
structure TruthfulApply : Prop where
  holds : ∀ t d e r v m, (L.apply t d e r v m).1 = true →
    Holds ⟨d, t, e, r⟩ (L.apply t d e r v m).2

/-- The acknowledgement of an update with this header. -/
def StateUpdateHeader.acknowledgement {Device : Type} (h : StateUpdateHeader Device) :
    StateAcknowledgement Device := ⟨h.origin, h.typeId, h.epoch, h.revision⟩

variable [SizeWidth]

namespace SocketStateSession
variable {H : StateHost L}

omit [SizeWidth] in
theorem Stored.holds (hA : TruthfulApply L) {parsed : ParsedUpdate L.Device} {m : L.RemoteManager}
    (h : Stored parsed m) : Holds parsed.header.acknowledgement m := by
  rcases h with hduplicate | ⟨value, m₀, happly⟩
  · unfold exactDuplicate at hduplicate
    unfold Holds StateUpdateHeader.acknowledgement
    dsimp only
    cases hread : L.read parsed.header.typeId parsed.header.origin m with
    | none => simp [hread] at hduplicate
    | some current =>
      obtain ⟨hasValue, epoch, revision⟩ := current
      simp_all
  · have hholds := hA.holds parsed.header.typeId parsed.header.origin parsed.header.epoch
      parsed.header.revision value m₀ (by rw [happly])
    rwa [happly] at hholds

/-- An update is acknowledged only if its value is held afterwards, and its type is subscribed. -/
theorem handleUpdate_acknowledges (K : Ledger H) (hL : FaithfulProtocol L) (hA : TruthfulApply L)
    (parsed : ParsedUpdate L.Device) (s : SocketStateSession H) (x : Exterior H) :
    Hands K (fun m => ∀ a, m = .acknowledgement a → a = parsed.header.acknowledgement ∧
        Holds a (s.handleUpdate parsed x).2.2.store.remote ∧
        L.isSubscribed a.origin a.typeId (s.handleUpdate parsed x).2.2.store.subscriptions = true)
      x (s.handleUpdate parsed x).2.2 := by
  obtain ⟨-, hpeer⟩ := bindPeer_deeds (m := .update parsed) (s := s) (x := x) rfl
  have hbind (P : Message L → Prop) (hP : ∀ c, P (.control c)) :
      Hands K P x (s.bindPeer parsed.header.origin x).2.2 :=
    bindPeer_hands K hL (fun c _ => hP c) _ s x
  unfold handleUpdate
  dsimp only
  split_ifs with hrefused hsubscribed happlied
  · exact hbind _ fun c a ha => by cases ha
  · exact hbind _ fun c a ha => by cases ha
  · exact (hbind _ fun c a ha => by cases ha).trans
      (.of_eq (congrArg K.frames (applyIncoming_world parsed _)))
  · obtain ⟨-, hsender⟩ := hpeer (by simpa using hrefused)
    have horigin : parsed.header.origin = (s.bindPeer parsed.header.origin x).2.1.remoteDevice :=
      Option.some.inj hsender
    refine ((hbind _ fun c a ha => by cases ha).trans
      (.of_eq (congrArg K.frames (applyIncoming_world parsed _)))).trans
        (sendAcknowledgement_hands K hL (fun a ha => ?_) _ _)
    obtain rfl : parsed.header.acknowledgement = a := Message.acknowledgement.inj ha
    refine ⟨rfl, ?_, ?_⟩
    · rw [sendAcknowledgement_store]
      exact (stored_of_applyIncoming parsed _ (by simpa using happlied)).holds hA
    · rw [sendAcknowledgement_store, applyIncoming_subscriptions]
      change L.isSubscribed parsed.header.origin parsed.header.typeId _ = true
      rw [← horigin] at hsubscribed
      simpa using hsubscribed

end SocketStateSession

namespace Link
open SocketStateSession
variable {n n' : Link L} {i : Side} {a : StateAcknowledgement L.Device}

/-- The step from `n` to `n'` is one in which the other side may acknowledge this to side `i`: an
update with this epoch and revision has been sent, the other side holds its value now, and it is
subscribed to its type. -/
structure Assured (i : Side) (a : StateAcknowledgement L.Device) (n n' : Link L) : Prop where
  sent : ∃ frame ∈ n.sent i, ∃ parsed, messageOf L frame = some (.update parsed) ∧
    parsed.header.acknowledgement = a
  held : Holds a (n'.store i.other).remote
  subscribed : L.isSubscribed a.origin a.typeId (n'.store i.other).subscriptions = true

/-- What is handed over in a step, if it is an acknowledgement, is one that may be given. -/
theorem Orderly.assures (h : n.Orderly) (hL : FaithfulProtocol L) (hA : TruthfulApply L)
    (act : Action L) (i : Side) :
    Hands (lineLedger L) (fun m => ∀ a, m = .acknowledgement a → act = .deliver i.other ∧
        Assured i a n (n.step act))
      (n.side i.other).exterior ((n.step act).side i.other).exterior := by
  cases act with
  | act j x hx =>
    by_cases hj : i.other = j
    · subst hj
      have hside : (n.step (.act i.other x hx)).side i.other = (n.side i.other).step x :=
        act_side _ x n
      rw [hside]
      exact Endpoint.hands_local _ hL (h.resting _) (fun c a ha => by cases ha) hx
        fun _ _ _ a ha => by cases ha
    · refine .of_eq (congrArg (fun e : Endpoint (lineHost L) => e.exterior.world.sent) ?_)
      exact act_other hj x n
  | deliver j =>
    by_cases hj : i.other = j
    · subst hj
      change Hands _ _ _ ((n.deliver i.other).side i.other).exterior
      cases hflight : n.flight i.other.other with
      | nil =>
        rw [deliver_nil hflight]
        exact .of_eq rfl
      | cons frame rest =>
        have hmem : frame ∈ n.flight i.other.other := hflight ▸ List.mem_cons_self
        rw [Side.other_other] at hmem
        obtain ⟨r, hr, hside⟩ := h.hears hflight
        have hafter : (n.step (.deliver i.other)).side i.other = _ := hside
        rw [hside]
        rcases hr with rfl | ⟨m, hm, rfl⟩
        · exact .of_eq rfl
        · have hstore : (n.step (.deliver i.other)).store i.other =
              ((n.side i.other).session.handleMessage m (n.side i.other).exterior).2.2.store := by
            rw [store, hafter]
          cases m with
          | update parsed =>
            refine (handleUpdate_acknowledges _ hL hA parsed _ _).mono fun m' hm' a ha => ?_
            obtain ⟨rfl, hheld, hsubscribed⟩ := hm' a ha
            refine ⟨rfl, ⟨frame, List.mem_of_mem_drop hmem, parsed, hm, rfl⟩, ?_, ?_⟩
            · rw [hstore]
              exact hheld
            · rw [hstore]
              exact hsubscribed
          | acknowledgement b =>
            refine handleMessage_replies _ hL (fun s' m' hreply a ha => ?_) _
            subst ha
            obtain ⟨-, parsed, hparsed, -⟩ := hreply
            cases hparsed
          | control c =>
            refine handleMessage_replies _ hL (fun s' m' hreply a ha => ?_) _
            subst ha
            obtain ⟨-, parsed, hparsed, -⟩ := hreply
            cases hparsed
    · refine .of_eq (congrArg (fun e : Endpoint (lineHost L) => e.exterior.world.sent) ?_)
      exact deliver_other hj n

theorem sustains_reports (reports : List (StateAcknowledgement L.Device)) :
    Sustains (lineHost L) fun w => w.reports = reports where
  send _ _ _ _ h := h
  peerBound _ _ _ h := h

/-- Reports are made only of acknowledgements that have just been received, and name the device of
the side. -/
theorem Orderly.reports_step (h : n.Orderly) (act : Action L) (i : Side) :
    (n.step act).reports i = n.reports i ∨ ∃ frame rest a, act = .deliver i ∧
      n.flight i.other = frame :: rest ∧ messageOf L frame = some (.acknowledgement a) ∧
      a.origin = L.origin (n.store i).publisher ∧ (n.step act).reports i = n.reports i ++ [a] := by
  have hkeeps := sustains_reports (n.reports i)
  cases act with
  | act j x hx =>
    left
    by_cases hj : i = j
    · subst hj
      have hside : (n.step (.act i x hx)).side i = (n.side i).step x := act_side _ x n
      unfold reports
      rw [hside]
      exact Endpoint.sustains_local hkeeps hx rfl
    · exact congrArg (fun e : Endpoint (lineHost L) => e.exterior.world.reports)
        (act_other hj x n)
  | deliver j =>
    by_cases hj : i = j
    · subst hj
      change (n.deliver i).reports i = _ ∨ ∃ frame rest a, _ ∧ _ ∧ _ ∧ _ ∧ (n.deliver i).reports i = _
      cases hflight : n.flight i.other with
      | nil => exact .inl (by rw [deliver_nil hflight])
      | cons frame rest =>
        obtain ⟨r, hr, hside⟩ := h.hears hflight
        have hreports : (n.deliver i).reports i = r.2.world.reports := by rw [reports, hside]
        rw [hreports]
        rcases hr with rfl | ⟨m, hm, rfl⟩
        · exact .inl rfl
        · cases m with
          | update parsed => exact .inl (handleUpdate_preserves hkeeps parsed _ rfl)
          | control c =>
            left
            unfold handleMessage
            dsimp only
            split_ifs
            · exact bindPeer_preserves hkeeps _ _ rfl
            · exact handleControl_preserves hkeeps c _ (bindPeer_preserves hkeeps _ _ rfl)
          | acknowledgement a =>
            unfold handleMessage handleAcknowledgement
            dsimp only
            split_ifs with hstranger
            · exact .inl rfl
            · split
              · exact .inl rfl
              · refine .inr ⟨frame, rest, a, rfl, rfl, hm, ?_, rfl⟩
                simp only [Bool.or_eq_true, decide_eq_true_eq, not_or, not_not] at hstranger
                exact hstranger.2
    · exact .inl (congrArg (fun e : Endpoint (lineHost L) => e.exterior.world.reports)
        (deliver_other hj n))

/-- The frame with this number was sent by a side in the step from `n` to `n'`. -/
def SentIn (i : Side) (k : ℕ) (n n' : Link L) : Prop := (n.sent i).length ≤ k ∧ k < (n'.sent i).length

/-- Every acknowledgement that has been sent was one that could be given at the time. -/
theorem acknowledgement_assured (hL : FaithfulProtocol L) (hA : TruthfulApply L)
    (store : Side → Store L) (outcomes : Side → ℕ → Bool) (actions : List (Action L)) (i : Side)
    {k : ℕ} {frame : Bytes}
    (hk : ((run step (start store outcomes) actions).sent i.other)[k]? = some frame)
    (ha : messageOf L frame = some (.acknowledgement a)) :
    ∃ before after, actions = before ++ .deliver i.other :: after ∧
      let n := run step (start store outcomes) before
      SentIn i.other k n (n.step (.deliver i.other)) ∧
        Assured i a n (n.step (.deliver i.other)) := by
  induction actions using List.reverseRecOn with
  | nil => cases hk
  | append_singleton actions act ih =>
    have horderly := orderly_run hL store outcomes actions
    rw [run_append] at hk
    change ((Link.step (run step (start store outcomes) actions) act).sent i.other)[k]? = _ at hk
    obtain ⟨frames, hframes, hspoken⟩ := horderly.assures hL hA act i
    change Link.sent i.other _ = Link.sent i.other _ ++ frames at hframes
    have hold := hk
    rw [hframes] at hk
    rcases lt_or_ge k ((run step (start store outcomes) actions).sent i.other).length with hlt | hge
    · rw [List.getElem?_append_left hlt] at hk
      obtain ⟨before, after, rfl, hbefore⟩ := ih hk
      exact ⟨before, after ++ [act], by simp, hbefore⟩
    · rw [List.getElem?_append_right hge] at hk
      obtain ⟨rfl, hassured⟩ := (hspoken frame (List.mem_of_getElem? hk)).message ha a rfl
      exact ⟨actions, [], rfl, ⟨hge, (List.getElem?_eq_some_iff.mp hold).1⟩, hassured⟩

/-- Whenever a side reports an acknowledgement, the frame it has received was sent in an earlier
step, in which the other side held the value and was subscribed to its type, and which was taken
after the side had sent an update with this epoch and revision. -/
theorem report_assured (hL : FaithfulProtocol L) (hA : TruthfulApply L) (store : Side → Store L)
    (outcomes : Side → ℕ → Bool) (actions : List (Action L)) (i : Side) {k : ℕ}
    (hk : ((run step (start store outcomes) actions).reports i)[k]? = some a) :
    ∃ before between after,
      actions = before ++ .deliver i.other :: between ++ .deliver i :: after ∧
      let sending := run step (start store outcomes) before
      let reporting := run step (start store outcomes) (before ++ .deliver i.other :: between)
      Assured i a sending (sending.step (.deliver i.other)) ∧
        SentIn i.other (reporting.received i) sending (sending.step (.deliver i.other)) ∧
        (∃ frame ∈ (reporting.flight i.other).head?,
          messageOf L frame = some (.acknowledgement a)) ∧
        (reporting.reports i).length = k ∧ a.origin = L.origin (reporting.store i).publisher := by
  induction actions using List.reverseRecOn with
  | nil => cases hk
  | append_singleton actions act ih =>
    have horderly := orderly_run hL store outcomes actions
    rw [run_append] at hk
    change ((Link.step (run step (start store outcomes) actions) act).reports i)[k]? = _ at hk
    rcases horderly.reports_step act i with
      hsame | ⟨frame, rest, b, rfl, hflight, hb, horigin, hreports⟩
    · rw [hsame] at hk
      obtain ⟨before, between, after, rfl, hbefore⟩ := ih hk
      exact ⟨before, between, after ++ [act], by simp, hbefore⟩
    · rw [hreports] at hk
      rcases lt_or_ge k ((run step (start store outcomes) actions).reports i).length with hlt | hge
      · rw [List.getElem?_append_left hlt] at hk
        obtain ⟨before, between, after, rfl, hbefore⟩ := ih hk
        exact ⟨before, between, after ++ [.deliver i], by simp, hbefore⟩
      · rw [List.getElem?_append_right hge] at hk
        obtain ⟨hzero, rfl⟩ : k - ((run step (start store outcomes) actions).reports i).length = 0 ∧
            b = a := by
          cases hk' : k - ((run step (start store outcomes) actions).reports i).length <;>
            simp_all
        have hframe : ((run step (start store outcomes) actions).sent i.other)[
            (run step (start store outcomes) actions).received i]? = some frame := by
          rw [← List.head?_drop]
          have hhead := congrArg List.head? hflight
          unfold flight at hhead
          rwa [Side.other_other] at hhead
        obtain ⟨before, between, rfl, hsent, hassured⟩ :=
          acknowledgement_assured hL hA store outcomes actions i hframe hb
        exact ⟨before, between, [], rfl, hassured, hsent, ⟨frame, by rw [hflight]; rfl, hb⟩,
          by omega, horigin⟩

end Link
end Sockets.State

namespace Sockets.State.Link
open Foundation Sockets.Frame

section Table

theorem truthfulApply_table : TruthfulApply tableLibrary where
  holds t d e r v m h := by
    simp only [tableLibrary] at h ⊢
    split_ifs at h ⊢
    simp [Holds]

attribute [local instance] SizeWidth.host

def snapshotAcknowledgement : StateAcknowledgement UInt8 := ⟨1, 1, 0, 0⟩

/-- Device 1 sends a snapshot, and device 2 acknowledges it. -/
def acknowledging : List (Action tableLibrary) :=
  requesting ++ [.deliver .a, .deliver .b, .deliver .b, .deliver .a, .deliver .a]

theorem report_assured_snapshot : ∃ before between after,
    acknowledging = before ++ .deliver .b :: between ++ .deliver .a :: after ∧
      let n := run step (start sourceStore fun _ _ => true) before
      Assured .a snapshotAcknowledgement n (n.step (.deliver .b)) := by
  obtain ⟨before, between, after, hactions, hassured, -⟩ := report_assured faithfulProtocol_table
    truthfulApply_table sourceStore (fun _ _ => true) acknowledging .a (k := 0)
      (a := snapshotAcknowledgement) (by decide +kernel)
  exact ⟨before, between, after, hactions, hassured⟩

end Table
end Sockets.State.Link
