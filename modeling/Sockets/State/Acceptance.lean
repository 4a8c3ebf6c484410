import Sockets.Foundation.Ascent
import Sockets.State.Progress

/-! When a session accepts everything its peer sends. -/
namespace Sockets.State
open Foundation Sockets.Frame

variable {L : StateLibrary}

/-- The stamp a message carries for a type, if it is an update of the type. -/
def Message.stampOf (t : StateTypeId) : Message L → Option (ℕ ×ₗ ℕ)
  | .update parsed => if parsed.header.typeId = t then some parsed.header.stamp else none
  | _ => none

variable (L) in
/-- The stamps of the updates of a type in frames, in order. -/
def stamps (t : StateTypeId) (frames : List Bytes) : List (WithBot (ℕ ×ₗ ℕ)) :=
  frames.filterMap fun frame => ((messageOf L frame).bind (Message.stampOf t)).map (↑)

theorem stamps_append (t : StateTypeId) (frames frames' : List Bytes) :
    stamps L t (frames ++ frames') = stamps L t frames ++ stamps L t frames' :=
  List.filterMap_append

theorem Carries.stamps_cons {n : ℕ} {m : Message L} {frame : Bytes} (h : Carries n m frame)
    (t : StateTypeId) (frames : List Bytes) : stamps L t (frame :: frames) =
      ((m.stampOf t).map (↑)).toList ++ stamps L t frames := by
  rw [stamps, List.filterMap_cons, h.messageOf, Option.bind_some]
  cases m.stampOf t <;> rfl

section Ascent
variable {latest : StateTypeId → L.Publisher → ℕ ×ₗ ℕ}

theorem Produces.latest_le (hI : IncreasingRevisions L latest) {t : StateTypeId}
    {p q : L.Publisher} {u : Option (StateUpdate L.Device L.Value)} (h : Produces t p u q)
    (t' : StateTypeId) : latest t' p ≤ latest t' q := by
  rcases h with h | h
  · simpa [h] using hI.snapshot_le t t' p
  · simpa [h] using hI.publish_le t t' p

theorem Produces.stamp (hI : IncreasingRevisions L latest) (hP : LawfulPublisher L)
    {t : StateTypeId} {p q : L.Publisher} {u : StateUpdate L.Device L.Value}
    (h : Produces t p (some u) q) : u.header.typeId = t ∧ u.header.stamp = latest t q := by
  rcases h with h | h
  · have hstamp := hI.snapshot t p u (by simp [h])
    rw [h] at hstamp
    exact ⟨(hP.snapshot t p u (by simp [h])).2, hstamp⟩
  · have hstamp := (hI.publish t p u (by simp [h])).2
    rw [h] at hstamp
    exact ⟨(hP.publish t p u (by simp [h])).2, hstamp⟩

/-- The updates that leave a side are never older than the ones before. -/
theorem Emits.ascends (hI : IncreasingRevisions L latest) (hP : LawfulPublisher L) {limit : ℕ}
    {peer : L.Device} {p q : L.Publisher} {frames : List Bytes} (h : Emits limit peer p frames q)
    (t : StateTypeId) :
    Ascends (latest t p : WithBot (ℕ ×ₗ ℕ)) (stamps L t frames) (latest t q) := by
  induction h with
  | nil p => exact ascends_nil.mpr le_rfl
  | control hc _ _ _ ih =>
    rw [hc.stamps_cons]
    exact ih
  | acknowledgement hc _ _ ih =>
    rw [hc.stamps_cons]
    exact ih
  | moved hp _ ih => exact ih.of_le (WithBot.coe_le_coe.mpr (hp.latest_le hI t))
  | @update t' p u q p' parsed frame frames _ hp hc hhead _ _ ih =>
    obtain ⟨htype, hstamp⟩ := hp.stamp hI hP
    have hle : (latest t p : WithBot (ℕ ×ₗ ℕ)) ≤ latest t q :=
      WithBot.coe_le_coe.mpr (hp.latest_le hI t)
    rw [hc.stamps_cons, Message.stampOf, hhead, htype]
    by_cases ht : t' = t
    · subst ht
      rw [if_pos rfl, hstamp]
      exact ascends_cons.mpr ⟨hle, ih⟩
    · rw [if_neg ht]
      exact ih.of_le hle

end Ascent

namespace SocketStateSession
variable [SizeWidth] {s : SocketStateSession (peerHost L)}

/-- A message from `d` that the session has no reason to turn down: an update of a type that is
still subscribed, or a request for a snapshot that can be sent. -/
def Welcome (s : SocketStateSession (peerHost L)) (d : L.Device) (store : Store L) :
    Message L → Prop
  | .update parsed => L.isSubscribed d parsed.header.typeId store.subscriptions = true
  | .acknowledgement _ => True
  | .control c => c.type = .resynchronize → c.typeId ≠ 0 →
      L.hasSubscriber d c.typeId s.subscribers = true → s.Sendable c.typeId store.publisher

/-- A welcome message of the peer is accepted; if it is an update, its revision is held
afterwards. -/
theorem Up.handleMessage_accepts (hup : s.Up) (hL : LawfulProtocol L) (hP : LawfulPublisher L)
    (hS : LawfulSubscribers L) {room : L.Device → L.RemoteManager → Prop}
    (hR : LawfulRemote L room) {d : L.Device} (hd : d ≠ L.zero) (hwilling : s.Willing d)
    (hsize : L.acknowledgementSize ≤ s.limit)
    (hsubscribers : ∀ d' t, L.hasSubscriber d' t s.subscribers = true → d' = d)
    {x : Exterior (peerHost L)} (horigin : L.origin x.store.publisher ≠ L.zero)
    (hroom : room d x.store.remote) {m : Message L}
    (hm : Proper d (L.origin x.store.publisher) m)
    (hasked : ∀ c, m = .control c → c.type = .subscribe → c.typeId ∈ L.definitions)
    (hheld : ∀ t, ∀ v ∈ m.stampOf t, heldStamp L t d x.store.remote ≤ v)
    (hwelcome : s.Welcome d x.store m) :
    (s.handleMessage m x).1 = true ∧ room d (s.handleMessage m x).2.2.store.remote ∧
      ∀ t, heldStamp L t d (s.handleMessage m x).2.2.store.remote =
        ((m.stampOf t).map (↑)).getD (heldStamp L t d x.store.remote) := by
  cases m with
  | update parsed =>
    obtain ⟨rfl, hdefined, hreadable⟩ := hm
    obtain ⟨hanswer, hroom', hheld', hothers⟩ := hup.handleUpdate_accepts hL hR hd hwilling hdefined
      hreadable hsize horigin hwelcome hroom
      (hheld parsed.header.typeId parsed.header.stamp (by simp [Message.stampOf]))
    refine ⟨hanswer, hroom', fun t => ?_⟩
    simp only [Message.stampOf]
    split_ifs with ht
    · exact ht ▸ hheld'
    · exact hothers t (Ne.symm ht)
  | acknowledgement a =>
    unfold SocketStateSession.handleMessage handleAcknowledgement
    have hknown : (!s.attached || decide (a.origin ≠ L.origin x.store.publisher)) = false := by
      have hown : a.origin = L.origin x.store.publisher := hm
      simp [hup.attached, hown]
    simp only [hknown, Bool.false_eq_true, if_false]
    split
    · exact ⟨rfl, hroom, fun t => rfl⟩
    · rename_i handler _
      exact handler.elim
  | control c =>
    obtain ⟨rfl, hreq⟩ := hm
    obtain ⟨y, hbind, hpublisher, hremote, -⟩ := hup.bindPeer hL hd hwilling c.device horigin
    obtain ⟨-, -, hremote', hgranted⟩ := (hup.withDevice c.device).handleControl hL hP hreq c.device
      (x := y) (by rwa [hpublisher])
    simp only [SocketStateSession.handleMessage, hbind, Bool.not_true, Bool.false_eq_true, if_false]
    refine ⟨hgranted ⟨fun htype => ?_, fun htype hne hknown => ?_⟩, ?_, fun t => ?_⟩
    · exact hS.room c.device c.typeId _ (hasked c rfl htype) hd hsubscribers
    · rw [hpublisher]
      exact hwelcome htype hne hknown
    · rw [hremote', hremote]
      split_ifs
      · exact hroom
      · exact hR.room_setAvailability _ _ _ _ hroom
    · rw [hremote', hremote]
      split_ifs
      · rfl
      · exact hR.held_setAvailability _ _ _ _ _

end SocketStateSession

namespace Pair
open SocketStateSession
variable [SizeWidth] {o : Side → L.Device} {latest : StateTypeId → L.Publisher → ℕ ×ₗ ℕ}
  {room : L.Device → L.RemoteManager → Prop} {i : Side} {p p' : Pair L}

/-- Between two steps of a run in which every message is welcome: from what a side holds, along
the updates on their way to it, to the newest revision of its peer, no revision is older than the
one before. -/
structure Flowing (o : Side → L.Device) (latest : StateTypeId → L.Publisher → ℕ ×ₗ ℕ)
    (room : L.Device → L.RemoteManager → Prop) (p : Pair L) : Prop where
  size : ∀ i, L.acknowledgementSize ≤ (p.session i).limit
  ascends : ∀ i t, Ascends (heldStamp L t (o i) (p.store i.other).remote)
    (stamps L t (p.channel i)) (latest t (p.store i).publisher)
  room : ∀ i, room (o i) (p.store i.other).remote
  defined : ∀ i, ∀ d ∈ L.descriptors (p.store i).subscriptions, d.typeId ∈ L.definitions
  asked : ∀ i, ∀ w ∈ words L (p.channel i), w.1 = true → w.2 ∈ L.definitions
  accepted : ∀ answer ∈ p.answers, answer = true

/-- Only types of the contract are subscribed, and the frame that is delivered is within the
receiver's limit and welcome. -/
def Cordial (o : Side → L.Device) (p : Pair L) : Action L → Prop
  | .subscribe _ d => d.typeId ∈ L.definitions
  | .deliver i => ∀ frame ∈ (p.channel i.other).head?,
      frame.length ≤ (p.session i).limit + headerSize ∧
      ∀ m ∈ messageOf L frame, (p.session i).Welcome (o i.other) (p.store i) m
  | _ => True

theorem Flowing.acts (h : p.Flowing o latest room) (hI : IncreasingRevisions L latest)
    (hP : LawfulPublisher L) {ws : List (Bool × StateTypeId)} (ha : Acts o i ws p p')
    (hdefined : ∀ d ∈ L.descriptors (p'.store i).subscriptions, d.typeId ∈ L.definitions)
    (hasked : ∀ w ∈ ws, w.1 = true → w.2 ∈ L.definitions) : p'.Flowing o latest room := by
  obtain ⟨frames, hchannel, hemits, rfl⟩ := ha.sent
  have hremote (j : Side) : (p'.store j).remote = (p.store j).remote := by
    by_cases hj : j = i
    · exact hj ▸ ha.remote
    · rw [(ha.others j hj).1]
  refine ⟨fun j => ha.session ▸ h.size j, fun j t => ?_, fun j => hremote j.other ▸ h.room j,
    fun j => ?_, fun j => ?_, ha.answers ▸ h.accepted⟩
  all_goals by_cases hj : j = i
  · subst hj
    rw [hremote, hchannel, stamps_append]
    exact (h.ascends j t).append (hemits.ascends hI hP t)
  · rw [hremote, (ha.others j hj).1, (ha.others j hj).2]
    exact h.ascends j t
  · exact hj ▸ hdefined
  · rw [(ha.others j hj).1]
    exact h.defined j
  · subst hj
    rw [hchannel, words, List.filterMap_append]
    intro w hw
    exact (List.mem_append.mp hw).elim (h.asked j w) (hasked w)
  · rw [(ha.others j hj).2]
    exact h.asked j

/-- What is announced is in the registry. -/
private theorem defined_of_announced {s : SocketStateSession (peerHost L)}
    {subscriptions : L.Subscriptions}
    (h : ∀ d ∈ L.descriptors subscriptions, d.typeId ∈ L.definitions) {w : Bool × StateTypeId}
    (hw : w ∈ s.announced subscriptions) : w.2 ∈ L.definitions := by
  obtain ⟨d, hd, rfl⟩ := List.mem_map.mp hw
  exact h d (List.mem_filter.mp hd).1

/-- The frame that is delivered is accepted, and the revisions ahead of it have become older. -/
private theorem Flowing.hears (h : p.Flowing o latest room) (hstanding : p.Standing o)
    (hL : LawfulProtocol L) (hP : LawfulPublisher L) (hS : LawfulSubscribers L)
    (hR : LawfulRemote L room) (ho : ∀ i, o i ≠ L.zero) {frame : Bytes} {rest : List Bytes}
    (hframe : p.channel i.other = frame :: rest) (hcordial : p.Cordial o (.deliver i)) :
    (p.deliver i).answers = p.answers ++ [true] ∧
      room (o i.other) ((p.deliver i).store i).remote ∧
      ∀ t, Ascends (heldStamp L t (o i.other) ((p.deliver i).store i).remote) (stamps L t rest)
        (latest t (p.store i.other).publisher) := by
  obtain ⟨n, m, hcarries, hproper⟩ := hstanding.sent i.other frame (by simp [hframe])
  obtain ⟨hlength, hwelcome⟩ := hcordial frame (by simp [hframe])
  have hupdates (t : StateTypeId) := h.ascends i.other t
  have hroom := h.room i.other
  have hasked := h.asked i.other
  rw [Side.other_other] at hproper hroom
  simp only [Side.other_other, hframe, hcarries.stamps_cons] at hupdates
  rw [hframe] at hasked
  obtain ⟨hanswer, hroom', hheld⟩ := (hstanding.up i).handleMessage_accepts hL hP hS hR
    (ho i.other) (hstanding.willing i) (h.size i) (hstanding.subscribers i)
    (x := p.outside i) (hstanding.origin i ▸ ho i) hroom (hstanding.origin i ▸ hproper)
    (fun c hc htype => hasked (true, c.typeId)
      (by simp [words, wordOf, hcarries.messageOf, hc, htype]) rfl)
    (fun t v hv => by
      have hfirst := hupdates t
      rw [hv] at hfirst
      exact (ascends_cons.mp hfirst).1)
    (hwelcome m hcarries.messageOf)
  obtain ⟨hstore, hanswers⟩ : (p.deliver i).store i =
      ((p.session i).handleMessage m (p.outside i)).2.2.store ∧ (p.deliver i).answers =
        p.answers ++ [((p.session i).handleMessage m (p.outside i)).1] := by
    rw [hstanding.deliver_eq hL hP ho i, hand, hframe]
    dsimp only
    rw [if_pos hlength, handleProtocolMessage_eq hcarries.messageOf]
    simp [put]
  refine ⟨hanswer ▸ hanswers, hstore ▸ hroom', fun t => ?_⟩
  rw [hstore, hheld t]
  have hupdate := hupdates t
  cases hstamp : m.stampOf t with
  | none =>
    rw [hstamp] at hupdate
    exact hupdate
  | some v =>
    rw [hstamp] at hupdate
    exact (ascends_cons.mp hupdate).2

theorem Flowing.deliver (h : p.Flowing o latest room) (hstanding : p.Standing o)
    (hL : LawfulProtocol L) (hP : LawfulPublisher L) (hS : LawfulSubscribers L)
    (hI : IncreasingRevisions L latest) (hR : LawfulRemote L room) (ho : ∀ i, o i ≠ L.zero)
    (hcordial : p.Cordial o (.deliver i)) : (p.deliver i).Flowing o latest room := by
  cases hframe : p.channel i.other with
  | nil => rwa [deliver_nil hframe]
  | cons frame rest =>
    obtain ⟨hanswers, hroom, hupdates⟩ := h.hears hstanding hL hP hS hR ho hframe hcordial
    obtain ⟨ht, -⟩ := hstanding.takes hL hP hS ho hframe
    obtain ⟨frames, hchannel, hemits, hwords⟩ := ht.sent
    have hpopped : (p.deliver i).channel i.other = rest :=
      (List.cons.inj (hframe.symm.trans ht.popped)).2.symm
    have hpair {Q : Side → Prop} (hQ : Q i) (hQ' : Q i.other) (j : Side) : Q j := by
      rcases i.eq_or_other j with rfl | rfl
      · exact hQ
      · exact hQ'
    refine ⟨hpair ?_ ?_, hpair (fun t => ?_) (fun t => ?_), hpair ?_ ?_, hpair ?_ ?_, hpair ?_ ?_, ?_⟩
    · rw [limit, ht.config]
      exact h.size i
    · rw [ht.session_other]
      exact h.size i.other
    · rw [ht.store_other, hchannel, stamps_append]
      exact (h.ascends i t).append (hemits.ascends hI hP t)
    · rw [Side.other_other, ht.store_other, hpopped]
      exact hupdates t
    · rw [ht.store_other]
      exact h.room i
    · rw [Side.other_other]
      exact hroom
    · rw [ht.subscriptions]
      exact h.defined i
    · rw [ht.store_other]
      exact h.defined i.other
    · rw [hchannel, words, List.filterMap_append]
      intro w hw
      rcases List.mem_append.mp hw with hw | hw
      · exact h.asked i w hw
      · change w ∈ words L frames at hw
        rw [hwords] at hw
        split_ifs at hw
        · cases hw
        · exact fun _ => defined_of_announced (h.defined i) hw
    · rw [hpopped]
      intro w hw
      apply h.asked i.other w
      rw [ht.popped, hpopped, ← List.singleton_append, words, List.filterMap_append]
      exact List.mem_append_right _ hw
    · rw [hanswers]
      intro answer hmem
      exact (List.mem_append.mp hmem).elim (h.accepted answer) List.mem_singleton.mp

theorem Flowing.step (h : p.Flowing o latest room) (hstanding : p.Standing o)
    (hL : LawfulProtocol L) (hP : LawfulPublisher L) (hS : LawfulSubscribers L)
    (hU : LawfulSubscriptions L) (hI : IncreasingRevisions L latest) (hR : LawfulRemote L room)
    (ho : ∀ i, o i ≠ L.zero) {a : Action L} (hcordial : p.Cordial o a) :
    (p.step a).Flowing o latest room := by
  cases a with
  | publish j t =>
    obtain ⟨ha, hsubscriptions⟩ := acts_publish hL hstanding j t
    exact h.acts hI hP ha (hsubscriptions ▸ h.defined j) (by simp)
  | requestResynchronization j t =>
    obtain ⟨ha, hsubscriptions⟩ := acts_requestResynchronization hL hstanding ho j t
    exact h.acts hI hP ha (hsubscriptions ▸ h.defined j) (by simp)
  | subscribe j d =>
    obtain ⟨ha, hsubscriptions⟩ := acts_subscribe hL hstanding ho j d
    refine h.acts hI hP ha (hsubscriptions ▸ fun e he => ?_) fun w hw _ => ?_
    · cases hadded : (L.subscribe d (p.store j).subscriptions).1 with
      | false => exact h.defined j e ((hU.subscribe_refused d _ hadded e).mp he)
      | true =>
        rcases (hU.subscribe d _ hadded e).mp he with rfl | he
        · exact hcordial
        · exact h.defined j e he
    · simp only [wordFor, wordsOf, if_true] at hw
      split_ifs at hw
      · obtain rfl := List.mem_singleton.mp hw
        exact hcordial
      all_goals cases hw
  | unsubscribe j d =>
    obtain ⟨ha, hsubscriptions⟩ := acts_unsubscribe hL hstanding ho j d
    refine h.acts hI hP ha (hsubscriptions ▸ fun e he => ?_) fun w hw htrue => ?_
    · cases hremoved : (L.unsubscribe d (p.store j).subscriptions).1 with
      | false => exact h.defined j e ((hU.unsubscribe_refused d _ hremoved e).mp he)
      | true => exact h.defined j e ((hU.unsubscribe d _ hremoved).2 e |>.mp he).2
    · simp only [wordFor, wordsOf, if_true, reduceCtorEq, if_false] at hw
      split_ifs at hw
      · obtain rfl := List.mem_singleton.mp hw
        cases htrue
      all_goals cases hw
  | deliver j => exact h.deliver hstanding hL hP hS hI hR ho hcordial

theorem Started.flowing {config : Side → SocketStateSessionConfig L} {store : Side → Store L}
    (h : ∀ i, Started o (config i) (store i) i p) (hP : LawfulPublisher L)
    (hI : IncreasingRevisions L latest) (hR : LawfulRemote L room)
    (hsize : ∀ i, L.acknowledgementSize ≤ (config i).maximumProtocolMessageBytes.val)
    (hheld : ∀ i t, heldStamp L t (o i) (store i.other).remote ≤ latest t (store i).publisher)
    (hroom : ∀ i, room (o i) (store i.other).remote)
    (hdefined : ∀ i, ∀ d ∈ L.descriptors (store i).subscriptions, d.typeId ∈ L.definitions)
    (hanswers : p.answers = []) : p.Flowing o latest room where
  size i := by
    rw [limit, (h i).configured]
    exact hsize i
  ascends i t := by
    have hkept : heldStamp L t (o i) (p.store i.other).remote =
        heldStamp L t (o i) (store i.other).remote := by
      rcases (h i.other).remote with hremote | hremote
      · rw [hremote]
      · rw [hremote, hR.held_setAvailability]
    rw [hkept]
    exact ((h i).emits.ascends hI hP t).of_le (hheld i t)
  room i := by
    rcases (h i.other).remote with hremote | hremote
    · exact hremote ▸ hroom i
    · exact hremote ▸ hR.room_setAvailability _ _ _ _ (hroom i)
  defined i := (h i).subscriptions ▸ hdefined i
  asked i w hw _ := defined_of_announced (hdefined i) (((h i).words w).mp hw)
  accepted := hanswers ▸ by simp

/-- Between two sessions that follow the protocol, every message is accepted as long as what is
delivered is within the receiver's limit, updates are still subscribed when they arrive, and a
snapshot that is asked for can be sent. -/
theorem feed_accepts (hL : LawfulProtocol L) (hP : LawfulPublisher L) (hS : LawfulSubscribers L)
    (hU : LawfulSubscriptions L) (hI : IncreasingRevisions L latest) (hR : LawfulRemote L room)
    (config : Side → SocketStateSessionConfig L) (store : Side → Store L)
    (hstartable : Startable o config store)
    (hsize : ∀ i, L.acknowledgementSize ≤ (config i).maximumProtocolMessageBytes.val)
    (hheld : ∀ i t, heldStamp L t (o i) (store i.other).remote ≤ latest t (store i).publisher)
    (hroom : ∀ i, room (o i) (store i.other).remote)
    (hdefined : ∀ i, ∀ d ∈ L.descriptors (store i).subscriptions, d.typeId ∈ L.definitions)
    (actions : List (Action L))
    (hcordial : Meets Pair.step (Cordial o) (start config store) actions) :
    ∀ answer ∈ (run Pair.step (start config store) actions).answers, answer = true := by
  obtain ⟨hstanding, hstarted⟩ := hstartable.start hL hP hS
  have hflowing := Started.flowing hstarted hP hI hR hsize hheld hroom hdefined rfl
  exact (hcordial.run_induction (P := fun p : Pair L => p.Standing o ∧ p.Flowing o latest room)
    (fun p a hc h => ⟨h.1.step hL hP hS hstartable.identified a,
      h.2.step h.1 hL hP hS hU hI hR hstartable.identified hc⟩)
    ⟨hstanding, hflowing⟩).2.accepted

end Pair
end Sockets.State

namespace Sockets.State.Pair
open Foundation Sockets.Frame

section Table

attribute [local instance] SizeWidth.host

private theorem cordial_deliver {p : Pair tableLibrary} {i : Side} {frame : Bytes}
    {rest : List Bytes} {m : Message tableLibrary} (hchannel : p.channel i.other = frame :: rest)
    (hmessage : messageOf tableLibrary frame = some m)
    (hlength : frame.length ≤ (p.session i).limit + headerSize)
    (hwelcome : (p.session i).Welcome (deviceOf i.other) (p.store i) m) :
    Cordial deviceOf p (.deliver i) := by
  intro frame' hframe
  rw [hchannel] at hframe
  obtain rfl : frame = frame' := by simpa using hframe
  refine ⟨hlength, fun m' hm' => ?_⟩
  rw [hmessage] at hm'
  obtain rfl : m = m' := by simpa using hm'
  exact hwelcome

/-- Device 1 subscribes, and device 2 publishes. -/
def publishing : List (Action tableLibrary) :=
  [.subscribe .a deviceTwo, .deliver .b, .publish .b 1, .deliver .a, .deliver .a, .deliver .a,
    .deliver .b, .deliver .b]

theorem feed_accepts_publication :
    (run step (start mutualConfig (deviceStore (some 7))) publishing).answers.all id = true := by
  refine List.all_eq_true.mpr (feed_accepts lawfulProtocol_table lawfulPublisher_table
    lawfulSubscribers_table lawfulSubscriptions_table increasingRevisions_table
    lawfulRemote_table mutualConfig
    (deviceStore (some 7)) (startable_mutual (some 7)) ?_ (fun _ _ => bot_le) (fun _ => trivial)
    ?_ publishing (meets_mutual (some 7) ?_))
  · intro i
    cases i <;> decide
  · intro i d hd
    cases hd
  · refine ⟨?_, ?_, trivial, ?_, ?_, ?_, ?_, ?_, trivial⟩
    · exact List.mem_singleton.mpr rfl
    · exact cordial_deliver rfl rfl (by decide) fun htype => absurd htype (by decide)
    · exact cordial_deliver rfl rfl (by decide) rfl
    · exact cordial_deliver rfl rfl (by decide) fun htype => absurd htype (by decide)
    · exact cordial_deliver rfl rfl (by decide) rfl
    · exact cordial_deliver rfl rfl (by decide) trivial
    · exact cordial_deliver rfl rfl (by decide) trivial

/-- Device 1 withdraws its subscription while an update is on its way. -/
def withdrawingInFlight : List (Action tableLibrary) :=
  [.subscribe .a deviceTwo, .deliver .b, .unsubscribe .a deviceTwo, .deliver .a]

theorem update_in_flight_refused :
    (run step (start mutualConfig (deviceStore (some 7))) withdrawingInFlight).answers =
      [true, false] := by
  rw [run_mutual]
  rfl

end Table
end Sockets.State.Pair
