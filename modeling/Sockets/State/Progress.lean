import Sockets.State.Emissions

/-! What one step does to a pair of sessions: a side acts on its own, or hears what the other side
has sent. -/
namespace Sockets.State
open Foundation Sockets.Frame

variable {L : StateLibrary} [SizeWidth]

namespace Pair

/-- What holds of a pair between two steps; the sides have the identifiers `o`. -/
structure Standing (o : Side → L.Device) (p : Pair L) : Prop where
  up : ∀ i, (p.session i).Up
  wrap : ∀ i, (p.session i).limit + headerSize < 2 ^ SizeWidth.bits
  origin : ∀ i, L.origin (p.store i).publisher = o i
  willing : ∀ i, (p.session i).Willing (o i.other)
  sent : ∀ i, ∀ frame ∈ p.channel i, ∃ n, Sent n (o i) (o i.other) frame
  subscribers : ∀ i d t, L.hasSubscriber d t (p.session i).subscribers = true → d = o i.other

/-- A side has acted on its own, and has sent these words. -/
structure Acts (o : Side → L.Device) (i : Side) (ws : List (Bool × StateTypeId))
    (p p' : Pair L) : Prop where
  session : p'.session = p.session
  others : ∀ j ≠ i, p'.store j = p.store j ∧ p'.channel j = p.channel j
  remote : (p'.store i).remote = (p.store i).remote
  answers : p'.answers = p.answers
  sent : ∃ frames, p'.channel i = p.channel i ++ frames ∧
    Emits (p.session i).limit (o i.other) (p.store i).publisher frames (p'.store i).publisher ∧
    words L frames = ws

variable {o : Side → L.Device} {i : Side} {p : Pair L}

theorem notify_eq (hup : (p.session i).Up)
    (f : SocketStateSession (peerHost L) → Exterior (peerHost L) → Exterior (peerHost L)) :
    p.notify i f = p.call i f := by
  rw [notify, hup.registered]
  rfl

/-- A call of a session's operation, after the side's own objects have changed. -/
private theorem acts_call {q : Pair L} {ws : List (Bool × StateTypeId)}
    {f : SocketStateSession (peerHost L) → Exterior (peerHost L) → Exterior (peerHost L)}
    (hsession : q.session = p.session) (hchannel : q.channel = p.channel)
    (hanswers : q.answers = p.answers) (hothers : ∀ j ≠ i, q.store j = p.store j)
    (hremote : (f (q.session i) (q.outside i)).store.remote = (p.store i).remote)
    (hsent : ∃ frames, (f (q.session i) (q.outside i)).world = List.append (p.channel i) frames ∧
      Emits (p.session i).limit (o i.other) (p.store i).publisher frames
        (f (q.session i) (q.outside i)).store.publisher ∧ words L frames = ws) :
    Acts o i ws p (q.call i f) where
  session := by simp [call, put, hsession]
  others j hj := by simp [call, put, hj, hchannel, hothers j hj]
  remote := by simpa [call, put] using hremote
  answers := hanswers
  sent := by
    obtain ⟨frames, hworld, hemits, hwords⟩ := hsent
    exact ⟨frames, by simpa [call, put] using hworld, by simpa [call, put] using hemits, hwords⟩

theorem setPublisher_outside (i : Side) (q : L.Publisher) (p : Pair L) :
    (p.setPublisher i q).outside i = (p.outside i).setPublisher q := by
  simp [setPublisher, outside, Exterior.setPublisher]

private theorem acts_idle (i : Side) (p : Pair L) : Acts o i [] p p :=
  ⟨rfl, fun _ _ => ⟨rfl, rfl⟩, rfl, rfl, [], (List.append_nil _).symm, .nil _, rfl⟩

theorem acts_publish (hL : LawfulProtocol L) (h : p.Standing o) (i : Side) (t : StateTypeId) :
    Acts o i [] p (p.publish i t) ∧
      ((p.publish i t).store i).subscriptions = (p.store i).subscriptions := by
  unfold publish
  split_ifs with ht
  · dsimp only
    split
    · rename_i hnone
      have hp : Produces t (p.store i).publisher none (L.publish t (p.store i).publisher).2 :=
        .inr (Prod.ext hnone rfl)
      refine ⟨⟨rfl, fun j hj => ⟨by simp [setPublisher, hj], rfl⟩, by simp [setPublisher], rfl, [],
        (List.append_nil _).symm, ?_, rfl⟩, by simp [setPublisher]⟩
      simpa [setPublisher] using Emits.moved hp (.nil _)
    · rename_i u hsome
      have hp : Produces t (p.store i).publisher (some u) (L.publish t (p.store i).publisher).2 :=
        .inr (Prod.ext hsome rfl)
      obtain ⟨hsends, hremote⟩ := (h.up i).onTypedStatePublished_sends hL ht (x := p.outside i) hp
        (o i.other)
      rw [notify_eq (p := p.setPublisher i _) (h.up i)]
      refine ⟨acts_call rfl rfl rfl (fun j hj => by simp [setPublisher, hj]) ?_ ?_, ?_⟩
      · rw [setPublisher_outside]
        exact hremote
      · rw [setPublisher_outside]
        exact hsends.sent
      · simp only [call, put, Function.update_self, setPublisher_outside]
        exact hsends.subscriptions
  · exact ⟨acts_idle i p, rfl⟩

private theorem setSubscriptions_outside (i : Side) (subscriptions : L.Subscriptions) (p : Pair L) :
    (p.setSubscriptions i subscriptions).outside i =
      { p.outside i with store := { p.store i with subscriptions } } := by
  simp [setSubscriptions, outside]

/-- A notification about a change in a side's registry. -/
private theorem acts_notify (h : p.Standing o) (ho : ∀ i, o i ≠ L.zero) (i : Side)
    (subscriptions : L.Subscriptions) {ws : List (Bool × StateTypeId)}
    {f : SocketStateSession (peerHost L) → Exterior (peerHost L) → Exterior (peerHost L)}
    (hf : ∀ x, L.origin x.store.publisher ≠ L.zero → (f (p.session i) x).store = x.store ∧
      Sends (p.session i).limit (o i.other) x (f (p.session i) x) ws) :
    Acts o i ws p ((p.setSubscriptions i subscriptions).notify i f) ∧
      (((p.setSubscriptions i subscriptions).notify i f).store i).subscriptions =
        subscriptions := by
  obtain ⟨hstore, hsends⟩ := hf ((p.setSubscriptions i subscriptions).outside i) (by
    rw [setSubscriptions_outside]
    exact h.origin i ▸ ho i)
  rw [notify_eq (p := p.setSubscriptions i _) (h.up i)]
  refine ⟨acts_call rfl rfl rfl (fun j hj => by simp [setSubscriptions, hj]) ?_ ?_, ?_⟩
  · change (f (p.session i) _).store.remote = _
    rw [hstore, setSubscriptions_outside]
  · have hsent := hsends.sent
    rw [setSubscriptions_outside] at hsent ⊢
    exact hsent
  · simp only [call, put, Function.update_self]
    change (f (p.session i) _).store.subscriptions = _
    rw [hstore, setSubscriptions_outside]

private theorem acts_setSubscriptions (i : Side) (subscriptions : L.Subscriptions) (p : Pair L) :
    Acts o i [] p (p.setSubscriptions i subscriptions) ∧
      ((p.setSubscriptions i subscriptions).store i).subscriptions = subscriptions := by
  refine ⟨⟨rfl, fun j hj => ⟨by simp [setSubscriptions, hj], rfl⟩, by simp [setSubscriptions], rfl,
    [], (List.append_nil _).symm, ?_, rfl⟩, by simp [setSubscriptions]⟩
  simpa [setSubscriptions] using Emits.nil _

theorem acts_subscribe (hL : LawfulProtocol L) (h : p.Standing o) (ho : ∀ i, o i ≠ L.zero)
    (i : Side) (d : Descriptor L.Device) :
    Acts o i (if (L.subscribe d (p.store i).subscriptions).1 then
        (p.session i).wordFor .subscribe d else []) p (p.subscribe i d) ∧
      ((p.subscribe i d).store i).subscriptions =
        (L.subscribe d (p.store i).subscriptions).2 := by
  unfold subscribe
  dsimp only
  split_ifs
  · exact acts_notify h ho i _ fun x hx => (h.up i).onStateSubscribed_sends hL d _ hx
  · exact acts_setSubscriptions i _ p

theorem acts_unsubscribe (hL : LawfulProtocol L) (h : p.Standing o) (ho : ∀ i, o i ≠ L.zero)
    (i : Side) (d : Descriptor L.Device) :
    Acts o i (if (L.unsubscribe d (p.store i).subscriptions).1 then
        (p.session i).wordFor .unsubscribe d else []) p (p.unsubscribe i d) ∧
      ((p.unsubscribe i d).store i).subscriptions =
        (L.unsubscribe d (p.store i).subscriptions).2 := by
  unfold unsubscribe
  dsimp only
  split_ifs
  · exact acts_notify h ho i _ fun x hx => (h.up i).onStateUnsubscribed_sends hL d _ hx
  · exact acts_setSubscriptions i _ p

theorem acts_requestResynchronization (hL : LawfulProtocol L) (h : p.Standing o)
    (ho : ∀ i, o i ≠ L.zero) (i : Side) (t : StateTypeId) :
    Acts o i [] p (p.step (.requestResynchronization i t)) ∧
      ((p.step (.requestResynchronization i t)).store i).subscriptions =
        (p.store i).subscriptions := by
  obtain ⟨hstore, hsends⟩ := (h.up i).requestResynchronization_sends hL t (o i.other)
    (x := p.outside i) (h.origin i ▸ ho i)
  change Acts o i [] p (p.call i fun s x => (s.requestResynchronization t x).2) ∧
    ((p.call i fun s x => (s.requestResynchronization t x).2).store i).subscriptions = _
  refine ⟨acts_call rfl rfl rfl (fun _ _ => rfl) ?_ hsends.sent, ?_⟩
  · exact congrArg Store.remote hstore
  · simp only [call, put, Function.update_self]
    exact congrArg Store.subscriptions hstore

/-- A side that acts on its own keeps the pair as it should be. -/
theorem Standing.acts (h : p.Standing o) (hP : LawfulPublisher L) {ws : List (Bool × StateTypeId)}
    {p' : Pair L} (ha : Acts o i ws p p') : p'.Standing o := by
  obtain ⟨frames, hchannel, hemits, -⟩ := ha.sent
  refine ⟨fun j => ha.session ▸ h.up j, fun j => ha.session ▸ h.wrap j, fun j => ?_,
    fun j => ha.session ▸ h.willing j, fun j => ?_, fun j => ha.session ▸ h.subscribers j⟩
  · by_cases hj : j = i
    · rw [hj, hemits.origin hP, h.origin i]
    · rw [(ha.others j hj).1, h.origin j]
  · by_cases hj : j = i
    · subst hj
      rw [hchannel]
      intro frame hframe
      rcases List.mem_append.mp hframe with hframe | hframe
      · exact h.sent j frame hframe
      · exact ⟨_, h.origin j ▸ hemits.sent hP frame hframe⟩
    · rw [(ha.others j hj).2]
      exact h.sent j

/-- A side has heard the first frame of the other side's channel. -/
structure Takes (o : Side → L.Device) (i : Side) (frame : Bytes) (p p' : Pair L) : Prop where
  session_other : p'.session i.other = p.session i.other
  config : (p'.session i).config = (p.session i).config
  device : (p'.session i).remoteDevice = (p.session i).remoteDevice ∨
    (p'.session i).remoteDevice = o i.other
  store_other : p'.store i.other = p.store i.other
  subscriptions : (p'.store i).subscriptions = (p.store i).subscriptions
  popped : p.channel i.other = frame :: p'.channel i.other
  told : ∀ t ∈ L.definitions, L.hasSubscriber (o i.other) t (p'.session i).subscribers =
    settled t (L.hasSubscriber (o i.other) t (p.session i).subscribers) (words L [frame])
  sent : ∃ frames, p'.channel i = p.channel i ++ frames ∧
    Emits (p.session i).limit (o i.other) (p.store i).publisher frames (p'.store i).publisher ∧
    words L frames = if (p'.session i).remoteDevice = (p.session i).remoteDevice then []
      else (p'.session i).announced (p.store i).subscriptions

theorem deliver_nil (h : p.channel i.other = []) : p.deliver i = p := by
  unfold deliver
  rw [h]

theorem deliver_cons {frame : Bytes} {rest : List Bytes} (h : p.channel i.other = frame :: rest) :
    p.deliver i = { ({ p with channel := Function.update p.channel i.other rest } : Pair L).put i
        ((p.session i).feed frame (p.outside i)).2 with
      answers := p.answers ++ [((p.session i).feed frame (p.outside i)).1] } := by
  have hchannel : Function.update p.channel i.other rest i = p.channel i :=
    Function.update_of_ne i.other_ne.symm _ _
  unfold deliver
  rw [h]
  simp only [outside, hchannel]

omit [SizeWidth] in
open SocketStateSession in
/-- The subscribers after a message are what its word says. -/
private theorem hears_told (hS : LawfulSubscribers L) {d : L.Device} (hd : d ≠ L.zero)
    {m : Message L} {frame : Bytes} {n : ℕ} (hc : Carries n m frame) {r : L.Subscribers}
    (hroom : ∀ d' t, L.hasSubscriber d' t r = true → d' = d) :
    (∀ t ∈ L.definitions, L.hasSubscriber d t (hears d m r) =
      settled t (L.hasSubscriber d t r) (words L [frame])) ∧
    ∀ d' t, L.hasSubscriber d' t (hears d m r) = true → d' = d := by
  have hword : words L [frame] = (wordOf (L := L) frame).toList := by
    cases h : wordOf (L := L) frame <;> simp [words, h]
  rw [hword, wordOf, hc.messageOf]
  cases m with
  | update parsed => exact ⟨fun t _ => rfl, hroom⟩
  | acknowledgement a => exact ⟨fun t _ => rfl, hroom⟩
  | control c =>
    simp only [hears, heard]
    cases htype : c.type with
    | subscribe =>
      cases hadd : (L.addSubscriber d c.typeId r).1 with
      | true =>
        have hmem := hS.add d c.typeId r hadd
        refine ⟨fun t _ => ?_, fun d' t h => ?_⟩
        · rw [Bool.eq_iff_iff, hmem]
          by_cases ht : t = c.typeId
          · simp [settled, ht]
          · simp [settled, ht, Ne.symm ht]
        · rcases (hmem d' t).mp h with h | h
          · exact h.1
          · exact hroom d' t h
      | false =>
        have hsame := hS.add_refused d c.typeId r hadd
        refine ⟨fun t ht => ?_, fun d' t h => hroom d' t (hsame d' t ▸ h)⟩
        have hne : c.typeId ≠ t := by
          rintro rfl
          rw [hS.room d c.typeId r ht hd hroom] at hadd
          cases hadd
        simp [settled, hne, hsame]
    | unsubscribe =>
      have hmem := hS.remove d c.typeId r
      refine ⟨fun t _ => ?_, fun d' t h => hroom d' t ((hmem d' t).mp h).2⟩
      rw [Bool.eq_iff_iff, hmem]
      by_cases ht : t = c.typeId
      · simp [settled, ht]
      · simp [settled, ht, Ne.symm ht]
    | _ => exact ⟨fun t _ => rfl, hroom⟩

open SocketStateSession in
theorem Standing.takes (h : p.Standing o) (hL : LawfulProtocol L) (hP : LawfulPublisher L)
    (hS : LawfulSubscribers L) (ho : ∀ i, o i ≠ L.zero) {frame : Bytes} {rest : List Bytes}
    (hframe : p.channel i.other = frame :: rest) :
    Takes o i frame p (p.deliver i) ∧ (p.deliver i).Standing o := by
  have hup := h.up i
  obtain ⟨n, m, hcarries, hproper⟩ := h.sent i.other frame (by simp [hframe])
  rw [Side.other_other] at hproper
  obtain ⟨e, he, answer, y, hfeed, hsends⟩ := hup.feed_sent hL hP (h.wrap i) (ho i.other)
    (h.willing i) hcarries hproper (x := p.outside i) (h.origin i ▸ ho i)
  obtain ⟨frames, hworld, hemits, hwords⟩ : ∃ frames, y.world = p.channel i ++ frames ∧
    Emits (p.session i).limit (o i.other) (p.store i).publisher frames y.store.publisher ∧
      words L frames = _ := hsends.sent
  have hsubscriptions : y.store.subscriptions = (p.store i).subscriptions := hsends.subscriptions
  obtain ⟨htold, hroom⟩ := hears_told hS (ho i.other) hcarries (h.subscribers i)
  have hi : i.other ≠ i := i.other_ne
  rw [deliver_cons hframe, hfeed]
  constructor
  · refine ⟨by simp [put, hi], by simp [put], by simpa [put] using he, by simp [put, hi],
      by simpa [put] using hsubscriptions, by simpa [put, hi] using hframe,
      by simpa [put] using htold, frames, by simpa [put] using hworld, by simpa [put] using hemits, ?_⟩
    rw [hwords]
    simp only [put, Function.update_self]
    split_ifs with hsame
    · rfl
    · obtain rfl := he.resolve_left hsame
      rfl
  · have hpair : ∀ {Q : Side → Prop}, Q i → Q i.other → ∀ j, Q j := fun {Q} hQ hQ' j => by
      rcases i.eq_or_other j with rfl | rfl
      · exact hQ
      · exact hQ'
    refine ⟨hpair ?_ ?_, hpair ?_ ?_, hpair ?_ ?_, hpair ?_ ?_, hpair ?_ ?_, hpair ?_ ?_⟩
    · simpa [put] using (hup.withDevice e).withSubscribers _
    · simpa [put, hi] using h.up i.other
    · simp only [put, Function.update_self]
      exact h.wrap i
    · simpa [put, hi] using h.wrap i.other
    · simpa [put] using (hemits.origin hP).trans (h.origin i)
    · simpa [put, hi] using h.origin i.other
    · have hw := h.willing i
      simp only [put, Function.update_self]
      exact ⟨hw.expected, by rcases he with rfl | rfl; exacts [hw.remote, .inr rfl]⟩
    · simpa [put, hi] using h.willing i.other
    · simp only [put, Function.update_self]
      rw [hworld]
      intro f hf
      rcases List.mem_append.mp hf with hf | hf
      · exact h.sent i f hf
      · exact ⟨_, h.origin i ▸ hemits.sent hP f hf⟩
    · simp only [put, Function.update_of_ne hi, Function.update_self]
      intro f hf
      exact h.sent i.other f (by simp [hframe, hf])
    · simpa [put] using hroom
    · simpa [put, hi] using h.subscribers i.other

/-- Both sides have identifiers of their own, may have each other for peers, and have a limit to
which the size of a header can be added. -/
structure Startable (o : Side → L.Device) (config : Side → SocketStateSessionConfig L)
    (store : Side → Store L) : Prop where
  identified : ∀ i, o i ≠ L.zero
  origin : ∀ i, L.origin (store i).publisher = o i
  expected : ∀ i, (config i).expectedRemoteDevice = L.zero ∨
    (config i).expectedRemoteDevice = o i.other
  size : ∀ i, L.controlSize ≤ (config i).maximumProtocolMessageBytes.val
  wrap : ∀ i, (config i).maximumProtocolMessageBytes.val + headerSize < 2 ^ SizeWidth.bits

variable {config : Side → SocketStateSessionConfig L} {store : Side → Store L}

/-- A side right after `Initialize`. -/
structure Started (o : Side → L.Device) (config : SocketStateSessionConfig L) (store : Store L)
    (i : Side) (p : Pair L) : Prop where
  configured : (p.session i).config = config
  subscribers : (p.session i).subscribers = L.noSubscribers
  subscriptions : (p.store i).subscriptions = store.subscriptions
  remote : (p.store i).remote = store.remote ∨
    (p.store i).remote = L.setAvailability (o i.other) .connected store.remote
  emits : Emits config.maximumProtocolMessageBytes.val (o i.other) store.publisher (p.channel i)
    (p.store i).publisher
  words : ∀ w, w ∈ words L (p.channel i) ↔ w ∈ (p.session i).announced store.subscriptions

theorem Startable.start (h : Startable o config store) (hL : LawfulProtocol L)
    (hP : LawfulPublisher L) (hS : LawfulSubscribers L) :
    (start config store).Standing o ∧ ∀ i, Started o (config i) (store i) i (start config store) := by
  have hside : ∀ i, ((Pair.start config store).session i).Up ∧
      ((Pair.start config store).session i).Willing (o i.other) ∧
      Started o (config i) (store i) i (Pair.start config store) := by
    intro i
    obtain ⟨s, y, ws, hinit, hup, hwilling, hconfig, hsubscribers, hremote, hsends, hwords⟩ :=
      SocketStateSession.initializeWith_sends hL (h.identified i.other) (h.expected i) (h.size i)
        (x := { store := store i, world := ([] : List Bytes) }) (h.origin i ▸ h.identified i)
    obtain ⟨frames, hworld, hemits, rfl⟩ := hsends.sent
    have hchannel : (Pair.start config store).channel i = frames := by
      simp only [Pair.start, hinit]
      exact hworld
    have hsession : (Pair.start config store).session i = s := by simp only [Pair.start, hinit]
    have hstore : (Pair.start config store).store i = y.store := by simp only [Pair.start, hinit]
    refine ⟨hsession ▸ hup, hsession ▸ hwilling, ?_, ?_, ?_, ?_, ?_, ?_⟩
    · rw [hsession, hconfig]
    · rw [hsession, hsubscribers]
    · rw [hstore, hsends.subscriptions]
    · rwa [hstore]
    · rwa [hchannel, hstore]
    · rwa [hchannel, hsession]
  refine ⟨⟨fun i => (hside i).1, fun i => ?_, fun i => ?_, fun i => (hside i).2.1, fun i => ?_,
    fun i d t hd => ?_⟩, fun i => (hside i).2.2⟩
  · rw [SocketStateSession.limit, (hside i).2.2.configured]
    exact h.wrap i
  · rw [(hside i).2.2.emits.origin hP, h.origin i]
  · exact fun frame hf => ⟨_, h.origin i ▸ (hside i).2.2.emits.sent hP frame hf⟩
  · rw [(hside i).2.2.subscribers, hS.empty] at hd
    cases hd

/-- A delivery without the framing: the session handles the payload of the frame, unless the frame
is too large for it. -/
def hand (i : Side) (p : Pair L) : Pair L :=
  match p.channel i.other with
  | [] => p
  | frame :: rest =>
    let s := p.session i
    let r := if frame.length ≤ s.limit + headerSize then
        s.handleProtocolMessage (frame.drop headerSize) (p.outside i)
      else (false, s, p.outside i)
    { ({ p with channel := Function.update p.channel i.other rest } : Pair L).put i r.2 with
      answers := p.answers ++ [r.1] }

/-- A step of messages instead of bytes. -/
def handStep (p : Pair L) : Action L → Pair L
  | .deliver i => p.hand i
  | a => p.step a

theorem Standing.deliver_eq (h : p.Standing o) (hL : LawfulProtocol L) (hP : LawfulPublisher L)
    (ho : ∀ i, o i ≠ L.zero) (i : Side) : p.deliver i = p.hand i := by
  cases hframe : p.channel i.other with
  | nil => rw [deliver_nil hframe, hand, hframe]
  | cons frame rest =>
    obtain ⟨n, m, hcarries, hproper⟩ := h.sent i.other frame (by simp [hframe])
    rw [Side.other_other] at hproper
    rw [deliver_cons hframe, hand, hframe]
    dsimp only
    split_ifs with hle
    · obtain ⟨e, -, hsession, -⟩ := (h.up i).handleMessage hL hP (ho i.other) (h.willing i) hproper
        (x := p.outside i) (h.origin i ▸ ho i)
      have hsame : { ((p.session i).handleMessage m (p.outside i)).2.1 with
          decoder := (p.session i).decoder } = ((p.session i).handleMessage m (p.outside i)).2.1 := by
        rw [hsession]
      rw [(h.up i).feed (h.wrap i) hcarries hle, hsame,
        SocketStateSession.handleProtocolMessage_eq hcarries.messageOf]
    · rw [(h.up i).feed_oversized (h.wrap i) hcarries (not_le.mp hle)]

/-- The side that a frame is delivered to handles its message, unless it is too large. -/
theorem Standing.delivers (h : p.Standing o) (hL : LawfulProtocol L) (hP : LawfulPublisher L)
    (ho : ∀ i, o i ≠ L.zero) {frame : Bytes} {rest : List Bytes}
    (hframe : p.channel i.other = frame :: rest) {m : Message L} (hm : messageOf L frame = some m) :
    ∃ r : Bool × SocketStateSession (peerHost L) × Exterior (peerHost L),
      r = (if frame.length ≤ (p.session i).limit + headerSize then
        (p.session i).handleMessage m (p.outside i) else (false, p.session i, p.outside i)) ∧
      (p.deliver i).session i = r.2.1 ∧ (p.deliver i).store i = r.2.2.store ∧
        (p.deliver i).channel i = r.2.2.world ∧ (p.deliver i).answers = p.answers ++ [r.1] := by
  refine ⟨_, rfl, ?_⟩
  rw [h.deliver_eq hL hP ho i, hand, hframe]
  dsimp only
  rw [SocketStateSession.handleProtocolMessage_eq hm]
  simp only [put, Function.update_self, and_self]

theorem Standing.step (h : p.Standing o) (hL : LawfulProtocol L) (hP : LawfulPublisher L)
    (hS : LawfulSubscribers L) (ho : ∀ i, o i ≠ L.zero) (a : Action L) : (p.step a).Standing o := by
  cases a with
  | publish i t => exact h.acts hP (acts_publish hL h i t).1
  | subscribe i d => exact h.acts hP (acts_subscribe hL h ho i d).1
  | unsubscribe i d => exact h.acts hP (acts_unsubscribe hL h ho i d).1
  | requestResynchronization i t => exact h.acts hP (acts_requestResynchronization hL h ho i t).1
  | deliver i =>
    cases hframe : p.channel i.other with
    | nil =>
      change (p.deliver i).Standing o
      rwa [deliver_nil hframe]
    | cons frame rest => exact (h.takes hL hP hS ho hframe).2

theorem Standing.step_eq (h : p.Standing o) (hL : LawfulProtocol L) (hP : LawfulPublisher L)
    (ho : ∀ i, o i ≠ L.zero) (a : Action L) : p.step a = p.handStep a := by
  cases a with
  | deliver i => exact h.deliver_eq hL hP ho i
  | _ => rfl

/-- A run of bytes is a run of messages. -/
theorem Standing.run_eq (h : p.Standing o) (hL : LawfulProtocol L) (hP : LawfulPublisher L)
    (hS : LawfulSubscribers L) (ho : ∀ i, o i ≠ L.zero) (actions : List (Action L)) :
    run Pair.step p actions = run handStep p actions := by
  induction actions generalizing p with
  | nil => rfl
  | cons a actions ih =>
    rw [run_cons, run_cons, ih (h.step hL hP hS ho a), h.step_eq hL hP ho a]

theorem Standing.meets (h : p.Standing o) (hL : LawfulProtocol L) (hP : LawfulPublisher L)
    (hS : LawfulSubscribers L) (ho : ∀ i, o i ≠ L.zero) {C : Pair L → Action L → Prop}
    {actions : List (Action L)} (hmeets : Meets handStep C p actions) :
    Meets Pair.step C p actions := by
  induction actions generalizing p with
  | nil => trivial
  | cons a actions ih =>
    refine ⟨hmeets.1, ih (h.step hL hP hS ho a) ?_⟩
    rw [h.step_eq hL hP ho a]
    exact hmeets.2

end Pair
end Sockets.State

namespace Sockets.State.Pair
open Foundation

section Table

attribute [local instance] SizeWidth.host

/-- Devices 1 and 2. -/
def deviceOf : Side → UInt8
  | .a => 1
  | .b => 2

def deviceStore (source : Option UInt8) (i : Side) : Store tableLibrary :=
  plainStore (deviceOf i) source

/-- Each side expects the other. -/
def mutualConfig (i : Side) : SocketStateSessionConfig tableLibrary :=
  { expectedRemoteDevice := deviceOf i.other }

def anyDevice : Descriptor UInt8 := { typeId := 1, scope := .anyDevice, device := 0 }
def deviceTwo : Descriptor UInt8 := { typeId := 1, scope := .oneDevice, device := 2 }

/-- Both sides hear three frames. -/
def exchange : List (Action tableLibrary) :=
  [.deliver .b, .deliver .b, .deliver .b, .deliver .a, .deliver .a, .deliver .a]

theorem startable_mutual (source : Option UInt8) :
    Startable (L := tableLibrary) deviceOf mutualConfig (deviceStore source) := by
  refine ⟨fun i => ?_, fun _ => rfl, fun _ => .inr rfl, fun i => ?_, fun i => ?_⟩ <;>
    cases i <;> decide

private theorem standing_mutual (source : Option UInt8) :
    (start mutualConfig (deviceStore source)).Standing deviceOf :=
  ((startable_mutual source).start lawfulProtocol_table lawfulPublisher_table
    lawfulSubscribers_table).1

theorem run_mutual (source : Option UInt8) (actions : List (Action tableLibrary)) :
    run step (start mutualConfig (deviceStore source)) actions =
      run handStep (start mutualConfig (deviceStore source)) actions :=
  (standing_mutual source).run_eq lawfulProtocol_table lawfulPublisher_table
    lawfulSubscribers_table (startable_mutual source).identified actions

theorem meets_mutual (source : Option UInt8)
    {C : Pair tableLibrary → Action tableLibrary → Prop} {actions : List (Action tableLibrary)}
    (h : Meets handStep C (start mutualConfig (deviceStore source)) actions) :
    Meets step C (start mutualConfig (deviceStore source)) actions :=
  (standing_mutual source).meets lawfulProtocol_table lawfulPublisher_table
    lawfulSubscribers_table (startable_mutual source).identified h

end Table
end Sockets.State.Pair
