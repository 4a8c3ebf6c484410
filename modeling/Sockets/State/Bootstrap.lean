import Sockets.State.Agreement

/-! How two sessions that expect nobody find each other. -/
namespace Sockets.State
open Foundation Sockets.Frame

variable {L : StateLibrary}

variable (L) in
/-- A frame with a control message. -/
def IsControlFrame (frame : Bytes) : Prop := ∃ c, messageOf L frame = some (.control c)

variable (L) in
/-- A frame that announces a subscription to a type. -/
def Announces (t : StateTypeId) (frame : Bytes) : Prop :=
  ∃ c : ControlMessage L.Device, messageOf L frame = some (.control c) ∧ c.type = .subscribe ∧
    c.typeId = t

theorem announces_of_mem_words {t : StateTypeId} {frames : List Bytes}
    (h : (true, t) ∈ words L frames) : ∃ frame ∈ frames, Announces L t frame := by
  obtain ⟨frame, hframe, hword⟩ := List.mem_filterMap.mp h
  refine ⟨frame, hframe, ?_⟩
  unfold wordOf at hword
  split at hword
  · rename_i c hmessage
    split_ifs at hword with hsubscribe
    · exact ⟨c, hmessage, hsubscribe, congrArg Prod.snd (Option.some.inj hword)⟩
    · cases hword
  · cases hword

variable [SizeWidth]

namespace SocketStateSession
variable {s : SocketStateSession (peerHost L)}

/-- Whoever subscribes to a type of the contract hears back. -/
theorem Up.handleControl_answers (hup : s.Up) (hL : LawfulProtocol L) (hP : LawfulPublisher L)
    {c : ControlMessage L.Device} (htype : c.type = .subscribe)
    (hadd : (L.addSubscriber s.remoteDevice c.typeId s.subscribers).1 = true)
    {x : Exterior (peerHost L)} (horigin : L.origin x.store.publisher ≠ L.zero) :
    ∃ frame ∈ ((s.handleControl c x).2.2.world : List Bytes), IsControlFrame L frame := by
  have hup' := hup.withSubscribers (L.addSubscriber s.remoteDevice c.typeId s.subscribers).2
  obtain ⟨hsends, -, -⟩ := hup'.sendSnapshotByType_sends hL c.typeId s.remoteDevice x
  obtain ⟨frames, -, hemits, -⟩ := hsends.sent
  have hanswer : MessageType.IsRequest .subscribeAcknowledgement := trivial
  obtain ⟨frame, hcarries, hsend⟩ := hup'.sendControl hL hanswer c.typeId _
    (by rwa [hemits.origin hP] : L.origin
      (SocketStateSession.sendSnapshotByType c.typeId _ x).2.store.publisher ≠ L.zero)
  refine ⟨frame, ?_, _, hcarries.messageOf⟩
  unfold SocketStateSession.handleControl
  rw [htype]
  simp only [hadd, Bool.not_true, Bool.false_eq_true, if_false, hsend]
  exact List.mem_append_right _ (List.mem_singleton_self frame)

end SocketStateSession

namespace Pair
open SocketStateSession
variable {o : Side → L.Device} {i : Side} {p : Pair L}

/-- Since the pair was `p`, a side has sent a frame of which `P` holds. -/
def HasSent (P : Bytes → Prop) (i : Side) (p : Pair L) (actions : List (Action L)) : Prop :=
  ∃ before after, actions = before ++ after ∧ ∃ frame ∈ (run step p before).channel i, P frame

theorem HasSent.now {P : Bytes → Prop} {actions : List (Action L)} {frame : Bytes}
    (hmem : frame ∈ (run step p actions).channel i) (hP : P frame) : HasSent P i p actions :=
  ⟨actions, [], (List.append_nil _).symm, frame, hmem, hP⟩

theorem HasSent.later {P : Bytes → Prop} {actions : List (Action L)}
    (h : HasSent P i p actions) (later : List (Action L)) : HasSent P i p (actions ++ later) := by
  obtain ⟨before, after, rfl, hframe⟩ := h
  exact ⟨before, after ++ later, List.append_assoc _ _ _, hframe⟩

theorem HasSent.mono {P Q : Bytes → Prop} {actions : List (Action L)}
    (hPQ : ∀ frame, P frame → Q frame) (h : HasSent P i p actions) : HasSent Q i p actions := by
  obtain ⟨before, after, hactions, frame, hmem, hP⟩ := h
  exact ⟨before, after, hactions, frame, hmem, hPQ frame hP⟩

/-- A frame leaves a channel only when it is delivered. -/
theorem Standing.channel_step (h : p.Standing o) (hL : LawfulProtocol L) (hP : LawfulPublisher L)
    (hS : LawfulSubscribers L) (ho : ∀ i, o i ≠ L.zero) (a : Action L) (i : Side) :
    (∃ frames, (p.step a).channel i = p.channel i ++ frames) ∨
      (a = .deliver i.other ∧ ∃ frame, p.channel i = frame :: (p.step a).channel i) := by
  have hacts {j : Side} {ws : List (Bool × StateTypeId)} {p' : Pair L} (ha : Acts o j ws p p') :
      ∃ frames, p'.channel i = p.channel i ++ frames := by
    by_cases hi : i = j
    · subst hi
      obtain ⟨frames, hframes, -⟩ := ha.sent
      exact ⟨frames, hframes⟩
    · exact ⟨[], by rw [(ha.others i hi).2, List.append_nil]⟩
  cases a with
  | publish j t => exact .inl (hacts (acts_publish hL h j t).1)
  | subscribe j d => exact .inl (hacts (acts_subscribe hL h ho j d).1)
  | unsubscribe j d => exact .inl (hacts (acts_unsubscribe hL h ho j d).1)
  | requestResynchronization j t => exact .inl (hacts (acts_requestResynchronization hL h ho j t).1)
  | deliver j =>
    cases hframe : p.channel j.other with
    | nil =>
      change (∃ frames, (p.deliver j).channel i = _) ∨ _
      rw [deliver_nil hframe]
      exact .inl ⟨[], (List.append_nil _).symm⟩
    | cons frame rest =>
      obtain ⟨htakes, -⟩ := h.takes hL hP hS ho hframe
      rcases j.eq_or_other i with rfl | rfl
      · obtain ⟨frames, hframes, -⟩ := htakes.sent
        exact .inl ⟨frames, hframes⟩
      · exact .inr ⟨by rw [Side.other_other], frame, htakes.popped⟩

theorem standing_run (h : p.Standing o) (hL : LawfulProtocol L) (hP : LawfulPublisher L)
    (hS : LawfulSubscribers L) (ho : ∀ i, o i ≠ L.zero) (actions : List (Action L)) :
    (run step p actions).Standing o :=
  run_induction (P := fun p : Pair L => p.Standing o) (fun _ a h => h.step hL hP hS ho a) h actions

/-- What has been sent is on its way, or has been delivered. -/
theorem HasSent.arrives {P : Bytes → Prop} (hstanding : p.Standing o) (hL : LawfulProtocol L)
    (hP : LawfulPublisher L) (hS : LawfulSubscribers L) (ho : ∀ i, o i ≠ L.zero)
    {actions : List (Action L)} (h : HasSent P i p actions) :
    (∃ frame ∈ (run step p actions).channel i, P frame) ∨
      ∃ before after, actions = before ++ .deliver i.other :: after ∧
        ∃ frame rest, (run step p before).channel i = frame :: rest ∧ P frame := by
  induction actions using List.reverseRecOn with
  | nil =>
    obtain ⟨before, after, hnil, hframe⟩ := h
    obtain ⟨rfl, rfl⟩ := List.append_eq_nil_iff.mp hnil.symm
    exact .inl hframe
  | append_singleton actions a ih =>
    obtain ⟨before, after, hsplit, hframe⟩ := h
    rcases List.eq_nil_or_concat after with rfl | ⟨after, a', rfl⟩
    · rw [List.append_nil] at hsplit
      exact .inl (hsplit ▸ hframe)
    · rw [List.concat_eq_append, ← List.append_assoc] at hsplit
      obtain ⟨rfl, -⟩ := List.append_inj' hsplit rfl
      rcases ih ⟨before, after, rfl, hframe⟩ with ⟨frame, hmem, hframe⟩ | ⟨b, c, hdelivered, hframe⟩
      · rw [run_append]
        rcases (standing_run hstanding hL hP hS ho (before ++ after)).channel_step hL hP hS ho a i with
          ⟨frames, hframes⟩ | ⟨rfl, first, hfirst⟩
        · exact .inl ⟨frame, hframes ▸ List.mem_append_left _ hmem, hframe⟩
        · rw [hfirst] at hmem
          rcases List.mem_cons.mp hmem with rfl | hmem
          · exact .inr ⟨before ++ after, [], rfl, frame, _, hfirst, hframe⟩
          · exact .inl ⟨frame, hmem, hframe⟩
      · exact .inr ⟨b, c ++ [a], by rw [hdelivered, List.append_assoc, List.cons_append], hframe⟩

/-- A side that hears a control message is bound to its peer, and answers a subscription to a type
of the contract. -/
theorem Standing.hears_control (h : p.Standing o) (hL : LawfulProtocol L) (hP : LawfulPublisher L)
    (hS : LawfulSubscribers L) (ho : ∀ i, o i ≠ L.zero) {frame : Bytes} {rest : List Bytes}
    (hframe : p.channel i.other = frame :: rest) {c : ControlMessage L.Device}
    (hc : messageOf L frame = some (.control c)) :
    ((p.deliver i).session i).remoteDevice = o i.other ∧
      (c.type = .subscribe → c.typeId ∈ L.definitions →
        ∃ frame' ∈ (p.deliver i).channel i, IsControlFrame L frame') := by
  obtain ⟨n, m, hcarries, hproper⟩ := h.sent i.other frame (by simp [hframe])
  obtain rfl : m = .control c := Option.some.inj (hcarries.messageOf.symm.trans hc)
  rw [Side.other_other] at hproper
  obtain ⟨hdevice, hrequest⟩ := hproper
  have hup := h.up i
  have hbound := hup.withDevice (o i.other)
  obtain ⟨y, hbind, hpublisher, -, -⟩ := hup.bindPeer hL (ho i.other) (h.willing i) (o i.other)
    (x := p.outside i) (h.origin i ▸ ho i)
  have horigin : L.origin y.store.publisher ≠ L.zero := by
    rw [hpublisher]
    exact h.origin i ▸ ho i
  have hmessage : (p.session i).handleMessage (.control c) (p.outside i) =
      SocketStateSession.handleControl c { p.session i with remoteDevice := o i.other } y := by
    simp only [handleMessage, hdevice, hbind, Bool.not_true, Bool.false_eq_true, if_false]
  have hlength : frame.length ≤ (p.session i).limit + headerSize := by
    obtain ⟨payload, rfl, hfits, -⟩ := hcarries
    have hle : payload.length ≤ L.controlSize := hfits.le_maximum
    have hcontrol := hup.control_le
    rw [length_encodeFrame]
    omega
  have hdeliver : p.deliver i = { ({ p with channel := Function.update p.channel i.other rest } :
      Pair L).put i ((p.session i).handleMessage (.control c) (p.outside i)).2 with
        answers := p.answers ++ [((p.session i).handleMessage (.control c) (p.outside i)).1] } := by
    rw [h.deliver_eq hL hP ho i, hand, hframe]
    dsimp only
    rw [if_pos hlength, handleProtocolMessage_eq hc]
  refine ⟨?_, fun hsubscribe hdefined => ?_⟩
  · obtain ⟨hsession, -⟩ := hbound.handleControl hL hP hrequest (o i.other) horigin
    rw [hdeliver, hmessage]
    simp only [put, Function.update_self, hsession]
  · have hchannel : (p.deliver i).channel i =
        ((p.session i).handleMessage (.control c) (p.outside i)).2.2.world := by
      rw [hdeliver]
      simp only [put, Function.update_self]
    rw [hchannel, hmessage]
    exact hbound.handleControl_answers hL hP hsubscribe
      (hS.room _ _ _ hdefined (ho i.other) (h.subscribers i)) horigin

theorem Standing.bound_step (h : p.Standing o) (hL : LawfulProtocol L) (hP : LawfulPublisher L)
    (hS : LawfulSubscribers L) (ho : ∀ i, o i ≠ L.zero) (a : Action L)
    (hbound : (p.session i).remoteDevice = o i.other) :
    ((p.step a).session i).remoteDevice = o i.other := by
  have hacts {j : Side} {ws : List (Bool × StateTypeId)} {p' : Pair L} (ha : Acts o j ws p p') :
      (p'.session i).remoteDevice = o i.other := by
    rwa [ha.session]
  cases a with
  | publish j t => exact hacts (acts_publish hL h j t).1
  | subscribe j d => exact hacts (acts_subscribe hL h ho j d).1
  | unsubscribe j d => exact hacts (acts_unsubscribe hL h ho j d).1
  | requestResynchronization j t => exact hacts (acts_requestResynchronization hL h ho j t).1
  | deliver j =>
    change ((p.deliver j).session i).remoteDevice = o i.other
    cases hframe : p.channel j.other with
    | nil => rwa [deliver_nil hframe]
    | cons frame rest =>
      obtain ⟨htakes, -⟩ := h.takes hL hP hS ho hframe
      rcases j.eq_or_other i with rfl | rfl
      · exact htakes.device.elim (fun hsame => hsame.trans hbound) id
      · rwa [htakes.session_other]

/-- What a side does on its own announces the descriptors that are new. -/
private theorem told_acts {i j : Side} {ws : List (Bool × StateTypeId)} {p p' : Pair L}
    {d : Descriptor L.Device} (ha : Acts o j ws p p')
    (hd : d ∈ L.descriptors (p'.store i).subscriptions)
    (happlies : (p'.session i).subscriptionApplies d.scope d.device = true)
    (hnew : i = j → d ∈ L.descriptors (p.store i).subscriptions ∨ (true, d.typeId) ∈ ws) :
    (d ∈ L.descriptors (p.store i).subscriptions ∧
      (p.session i).subscriptionApplies d.scope d.device = true) ∨
    ∃ frame ∈ p'.channel i, Announces L d.typeId frame := by
  rw [ha.session] at happlies
  by_cases hi : i = j
  · rcases hnew hi with hold | hword
    · exact .inl ⟨hold, happlies⟩
    · subst hi
      obtain ⟨frames, hframes, -, hwords⟩ := ha.sent
      obtain ⟨frame, hmem, hannounces⟩ := announces_of_mem_words (hwords ▸ hword)
      exact .inr ⟨frame, hframes ▸ List.mem_append_right _ hmem, hannounces⟩
  · rw [(ha.others i hi).1] at hd
    exact .inl ⟨hd, happlies⟩

/-- A side that binds to its peer announces all it wants. -/
private theorem told_takes {i : Side} {frame : Bytes} {p p' : Pair L} {d : Descriptor L.Device}
    (ht : Takes o i frame p p') (hd : d ∈ L.descriptors (p'.store i).subscriptions)
    (happlies : (p'.session i).subscriptionApplies d.scope d.device = true) :
    (d ∈ L.descriptors (p.store i).subscriptions ∧
      (p.session i).subscriptionApplies d.scope d.device = true) ∨
    ∃ frame ∈ p'.channel i, Announces L d.typeId frame := by
  rw [ht.subscriptions] at hd
  obtain ⟨frames, hframes, -, hwords⟩ := ht.sent
  by_cases hsame : (p'.session i).remoteDevice = (p.session i).remoteDevice
  · refine .inl ⟨hd, ?_⟩
    unfold subscriptionApplies at happlies ⊢
    rwa [hsame, ht.config] at happlies
  · rw [if_neg hsame] at hwords
    have hword : (true, d.typeId) ∈ words L frames := by
      rw [hwords]
      exact List.mem_map.mpr ⟨d, List.mem_filter.mpr ⟨hd, happlies⟩, rfl⟩
    obtain ⟨frame, hmem, hannounces⟩ := announces_of_mem_words hword
    exact .inr ⟨frame, hframes ▸ List.mem_append_right _ hmem, hannounces⟩

/-- A subscription that has come to apply to the peer of a side is announced in the same step. -/
theorem Standing.told_step (h : p.Standing o) (hL : LawfulProtocol L) (hP : LawfulPublisher L)
    (hS : LawfulSubscribers L) (hR : LawfulSubscriptions L) (ho : ∀ i, o i ≠ L.zero)
    (a : Action L) (i : Side) {d : Descriptor L.Device}
    (hd : d ∈ L.descriptors ((p.step a).store i).subscriptions)
    (happlies : ((p.step a).session i).subscriptionApplies d.scope d.device = true) :
    (d ∈ L.descriptors (p.store i).subscriptions ∧
      (p.session i).subscriptionApplies d.scope d.device = true) ∨
    ∃ frame ∈ (p.step a).channel i, Announces L d.typeId frame := by
  cases a with
  | publish j t =>
    obtain ⟨ha, hsubscriptions⟩ := acts_publish hL h j t
    refine told_acts ha hd happlies fun hi => .inl ?_
    subst hi
    exact hsubscriptions ▸ hd
  | requestResynchronization j t =>
    obtain ⟨ha, hsubscriptions⟩ := acts_requestResynchronization hL h ho j t
    refine told_acts ha hd happlies fun hi => .inl ?_
    subst hi
    exact hsubscriptions ▸ hd
  | subscribe j e =>
    obtain ⟨ha, hsubscriptions⟩ := acts_subscribe hL h ho j e
    refine told_acts ha hd happlies fun hi => ?_
    subst hi
    have hnow := hd
    change d ∈ L.descriptors ((p.subscribe i e).store i).subscriptions at hnow
    rw [hsubscriptions] at hnow
    cases hadded : (L.subscribe e (p.store i).subscriptions).1 with
    | false => exact .inl ((hR.subscribe_refused e _ hadded d).mp hnow)
    | true =>
      rcases (hR.subscribe e _ hadded d).mp hnow with rfl | hold
      · right
        have hsame : ((p.subscribe i d).session i) = p.session i := by rw [ha.session]
        change ((p.subscribe i d).session i).subscriptionApplies d.scope d.device = true at happlies
        rw [hsame] at happlies
        simp [wordFor, wordsOf, happlies]
      · exact .inl hold
  | unsubscribe j e =>
    obtain ⟨ha, hsubscriptions⟩ := acts_unsubscribe hL h ho j e
    refine told_acts ha hd happlies fun hi => .inl ?_
    subst hi
    have hnow := hd
    change d ∈ L.descriptors ((p.unsubscribe i e).store i).subscriptions at hnow
    rw [hsubscriptions] at hnow
    cases hremoved : (L.unsubscribe e (p.store i).subscriptions).1 with
    | false => exact (hR.unsubscribe_refused e _ hremoved d).mp hnow
    | true => exact (((hR.unsubscribe e _ hremoved).2 d).mp hnow).2
  | deliver j =>
    change d ∈ L.descriptors ((p.deliver j).store i).subscriptions at hd
    change ((p.deliver j).session i).subscriptionApplies d.scope d.device = true at happlies
    change _ ∨ ∃ frame ∈ (p.deliver j).channel i, _
    cases hframe : p.channel j.other with
    | nil =>
      rw [deliver_nil hframe] at hd happlies
      exact .inl ⟨hd, happlies⟩
    | cons frame rest =>
      obtain ⟨htakes, -⟩ := h.takes hL hP hS ho hframe
      rcases j.eq_or_other i with rfl | rfl
      · exact told_takes htakes hd happlies
      · rw [htakes.store_other] at hd
        rw [htakes.session_other] at happlies
        exact .inl ⟨hd, happlies⟩

/-- Every subscription that applies to the peer of a side has been announced. -/
theorem told_run (h : p.Standing o) (hL : LawfulProtocol L) (hP : LawfulPublisher L)
    (hS : LawfulSubscribers L) (hR : LawfulSubscriptions L) (ho : ∀ i, o i ≠ L.zero)
    (hstart : ∀ d ∈ L.descriptors (p.store i).subscriptions,
      (p.session i).subscriptionApplies d.scope d.device = true →
        ∃ frame ∈ p.channel i, Announces L d.typeId frame)
    (actions : List (Action L)) {d : Descriptor L.Device}
    (hd : d ∈ L.descriptors ((run step p actions).store i).subscriptions)
    (happlies : ((run step p actions).session i).subscriptionApplies d.scope d.device = true) :
    HasSent (Announces L d.typeId) i p actions := by
  induction actions using List.reverseRecOn with
  | nil =>
    obtain ⟨frame, hmem, hannounces⟩ := hstart d hd happlies
    exact ⟨[], [], rfl, frame, hmem, hannounces⟩
  | append_singleton actions a ih =>
    have hstanding := standing_run h hL hP hS ho actions
    have hrun : run step p (actions ++ [a]) = (run step p actions).step a := run_append ..
    rw [hrun] at hd happlies
    rcases hstanding.told_step hL hP hS hR ho a i hd happlies with
      ⟨hold, happlies⟩ | ⟨frame, hmem, hannounces⟩
    · exact (ih hold happlies).later [a]
    · exact .now (hrun ▸ hmem) hannounces

/-- Since the pair was `p`, the registry of a side has held a descriptor of which `P` holds. -/
def HasHeld (P : Descriptor L.Device → Prop) (i : Side) (p : Pair L) (actions : List (Action L)) :
    Prop :=
  ∃ before after, actions = before ++ after ∧
    ∃ d ∈ L.descriptors ((run step p before).store i).subscriptions, P d

/-- What has been sent on a channel that is empty has been delivered. -/
theorem HasSent.delivered {P : Bytes → Prop} (hstanding : p.Standing o) (hL : LawfulProtocol L)
    (hP : LawfulPublisher L) (hS : LawfulSubscribers L) (ho : ∀ i, o i ≠ L.zero)
    {actions : List (Action L)} (hquiet : (run step p actions).channel i = [])
    (h : HasSent P i p actions) : ∃ before after, actions = before ++ .deliver i.other :: after ∧
      ∃ frame rest, (run step p before).channel i = frame :: rest ∧ P frame := by
  refine (h.arrives hstanding hL hP hS ho).resolve_left ?_
  rintro ⟨frame, hmem, -⟩
  rw [hquiet] at hmem
  cases hmem

/-- A side to which the other has sent a control message is bound to it. -/
theorem HasSent.binds (hstanding : p.Standing o) (hL : LawfulProtocol L) (hP : LawfulPublisher L)
    (hS : LawfulSubscribers L) (ho : ∀ i, o i ≠ L.zero) {actions : List (Action L)}
    (hquiet : (run step p actions).channel i.other = [])
    (h : HasSent (IsControlFrame L) i.other p actions) :
    ((run step p actions).session i).remoteDevice = o i.other := by
  obtain ⟨before, after, rfl, frame, rest, hframe, c, hc⟩ :=
    h.delivered hstanding hL hP hS ho hquiet
  have hbefore := standing_run hstanding hL hP hS ho before
  obtain ⟨hbound, -⟩ := hbefore.hears_control hL hP hS ho hframe hc
  rw [Side.other_other, run_append, run_cons]
  exact (run_induction (P := fun p : Pair L => p.Standing o ∧
      (p.session i).remoteDevice = o i.other)
    (fun _ a h => ⟨h.1.step hL hP hS ho a, h.1.bound_step hL hP hS ho a h.2⟩)
    ⟨hbefore.step hL hP hS ho (.deliver i), hbound⟩ after).2

/-- A side that has announced a type of the contract has been answered. -/
theorem HasSent.answered (hstanding : p.Standing o) (hL : LawfulProtocol L)
    (hP : LawfulPublisher L) (hS : LawfulSubscribers L) (ho : ∀ i, o i ≠ L.zero) {t : StateTypeId}
    (ht : t ∈ L.definitions) {actions : List (Action L)}
    (hquiet : (run step p actions).channel i = []) (h : HasSent (Announces L t) i p actions) :
    HasSent (IsControlFrame L) i.other p actions := by
  obtain ⟨before, after, rfl, frame, rest, hframe, c, hc, hsubscribe, rfl⟩ :=
    h.delivered hstanding hL hP hS ho hquiet
  have hframe' : (run step p before).channel i.other.other = frame :: rest := by
    rwa [Side.other_other]
  obtain ⟨-, hanswer⟩ := (standing_run hstanding hL hP hS ho before).hears_control hL hP hS ho
    hframe' hc
  obtain ⟨frame', hmem, hcontrol⟩ := hanswer hsubscribe ht
  have hrun : run step p (before ++ [.deliver i.other]) =
      (run step p before).deliver i.other := run_append ..
  have hnow : HasSent (IsControlFrame L) i.other p (before ++ [.deliver i.other]) :=
    .now (hrun ▸ hmem) hcontrol
  rw [← List.singleton_append, ← List.append_assoc]
  exact hnow.later after

/-- When no message is on its way, a side to which the other has sent a control message is bound to
it and has announced whatever applies to it; and the other side has sent one as soon as its registry
has held a descriptor for any device, or the registry of this side one for a type of the
contract. -/
theorem bootstrapping (hL : LawfulProtocol L) (hP : LawfulPublisher L) (hS : LawfulSubscribers L)
    (hR : LawfulSubscriptions L) {config : Side → SocketStateSessionConfig L}
    {store : Side → Store L} (hstartable : Startable o config store) (actions : List (Action L))
    (hquiet : ∀ i, (run step (start config store) actions).channel i = []) (i : Side) :
    let p₀ := start config store
    let p := run step p₀ actions
    (HasHeld (fun d => d.scope = .anyDevice) i.other p₀ actions ∨
        HasHeld (fun d => d.scope = .anyDevice ∧ d.typeId ∈ L.definitions) i p₀ actions →
      HasSent (IsControlFrame L) i.other p₀ actions) ∧
    (HasSent (IsControlFrame L) i.other p₀ actions →
      (p.session i).remoteDevice = o i.other ∧
        ∀ d ∈ L.descriptors (p.store i).subscriptions, d.scope = .anyDevice ∨ d.device = o i.other →
          HasSent (Announces L d.typeId) i p₀ actions) := by
  intro p₀ p
  have ho := hstartable.identified
  obtain ⟨hstanding, hstarted⟩ := hstartable.start hL hP hS
  have htold (j : Side) (actions : List (Action L)) {d : Descriptor L.Device} :=
    told_run (i := j) (d := d) hstanding hL hP hS hR ho (fun d hd happlies => by
      rw [(hstarted j).subscriptions] at hd
      exact announces_of_mem_words (((hstarted j).words (true, d.typeId)).mpr
        (List.mem_map.mpr ⟨d, List.mem_filter.mpr ⟨hd, happlies⟩, rfl⟩))) actions
  have hheld {j : Side} {P : Descriptor L.Device → Prop} (hany : ∀ d, P d → d.scope = .anyDevice)
      (h : HasHeld P j p₀ actions) : ∃ d, P d ∧ HasSent (Announces L d.typeId) j p₀ actions := by
    obtain ⟨before, after, rfl, d, hd, hPd⟩ := h
    exact ⟨d, hPd, (htold j before hd (by simp [subscriptionApplies, hany d hPd])).later after⟩
  refine ⟨?_, fun hsent => ?_⟩
  · rintro (hother | hown)
    · obtain ⟨d, -, hsent⟩ := hheld (fun _ => id) hother
      exact hsent.mono fun _ ⟨c, hc, _⟩ => ⟨c, hc⟩
    · obtain ⟨d, ⟨-, hdefined⟩, hsent⟩ := hheld (fun _ h => h.1) hown
      exact hsent.answered hstanding hL hP hS ho hdefined (hquiet i)
  · have hbound : (p.session i).remoteDevice = o i.other :=
      hsent.binds hstanding hL hP hS ho (hquiet i.other)
    refine ⟨hbound, fun d hd happlies => htold i actions hd ?_⟩
    change (p.session i).subscriptionApplies d.scope d.device = true
    have hne : (p.session i).remoteDevice ≠ L.zero := hbound ▸ ho i.other
    unfold subscriptionApplies
    rw [if_pos hne, hbound]
    split_ifs with hany
    · rfl
    · exact decide_eq_true (happlies.resolve_left hany)

end Pair
end Sockets.State

namespace Sockets.State.Pair
open Foundation

section Table

attribute [local instance] SizeWidth.host

/-- No side expects a peer. -/
def openConfig (_ : Side) : SocketStateSessionConfig tableLibrary := {}

theorem startable_open (source : Option UInt8) :
    Startable (L := tableLibrary) deviceOf openConfig (deviceStore source) := by
  refine ⟨fun i => ?_, fun _ => rfl, fun _ => .inl rfl, fun i => ?_, fun i => ?_⟩ <;>
    cases i <;> decide

/-- Device 1 subscribes to a type of device 2, and then to the same of any device. -/
def approaching : List (Action tableLibrary) :=
  [.subscribe .a deviceTwo, .subscribe .a anyDevice, .deliver .b, .deliver .a, .deliver .b,
    .deliver .b, .deliver .a, .deliver .a]

theorem bootstrapping_approach :
    let p₀ := start openConfig (deviceStore none)
    ((run step p₀ approaching).session .a).remoteDevice = (2 : UInt8) ∧
      HasSent (Announces tableLibrary 1) .a p₀ approaching := by
  intro p₀
  have hquiet : ∀ i, (run step p₀ approaching).channel i = [] := by
    intro i
    cases i <;> decide +kernel
  have hd : deviceTwo ∈ tableLibrary.descriptors
      ((run step p₀ approaching).store .a).subscriptions := by decide +kernel
  have hheld : HasHeld (fun d => d.scope = .anyDevice ∧ d.typeId ∈ tableLibrary.definitions) .a p₀
      approaching :=
    ⟨approaching, [], rfl, anyDevice, by decide +kernel, rfl, by decide⟩
  obtain ⟨hspoken, hfound⟩ := bootstrapping lawfulProtocol_table lawfulPublisher_table
    lawfulSubscribers_table lawfulSubscriptions_table (startable_open none) approaching hquiet .a
  obtain ⟨hbound, htold⟩ := hfound (hspoken (.inr hheld))
  exact ⟨hbound, htold deviceTwo hd (.inr rfl)⟩

/-- Nobody speaks first if all that is wanted is something of a certain device. -/
theorem strangers_stay_apart :
    let p := run step (start openConfig (deviceStore none)) [.subscribe .a deviceTwo]
    (∀ i, (p.session i).initialized = true ∧ p.channel i = []) ∧
      deviceTwo ∈ tableLibrary.descriptors (p.store .a).subscriptions ∧
      deviceTwo.device = tableLibrary.origin (p.store .b).publisher ∧
      (p.session .a).remoteDevice ≠ tableLibrary.origin (p.store .b).publisher := by
  refine ⟨fun i => ?_, by decide +kernel, by decide +kernel, by decide +kernel⟩
  cases i <;> decide +kernel

end Table
end Sockets.State.Pair
