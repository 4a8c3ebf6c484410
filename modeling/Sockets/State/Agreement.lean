import Sockets.State.Progress

/-! When the subscribers of one side are what the other side's registry asks for. -/
namespace Sockets.State
open Foundation Sockets.Frame

variable {L : StateLibrary} [SizeWidth]

namespace SocketStateSession
variable {s : SocketStateSession (peerHost L)}

/-- Some descriptor of the type applies to the session's peer. -/
def Wanted (s : SocketStateSession (peerHost L)) (t : StateTypeId)
    (subscriptions : L.Subscriptions) : Prop :=
  ∃ d ∈ L.descriptors subscriptions, d.typeId = t ∧ s.subscriptionApplies d.scope d.device = true

theorem wanted_iff_announced {t : StateTypeId} {subscriptions : L.Subscriptions} :
    s.Wanted t subscriptions ↔ ∃ w ∈ s.announced subscriptions, w.2 = t := by
  simp only [Wanted, announced, List.mem_map, List.mem_filter]
  constructor
  · rintro ⟨d, hd, rfl, happlies⟩
    exact ⟨_, ⟨d, ⟨hd, happlies⟩, rfl⟩, rfl⟩
  · rintro ⟨w, ⟨d, ⟨hd, happlies⟩, rfl⟩, rfl⟩
    exact ⟨d, hd, rfl, happlies⟩

theorem announced_true {subscriptions : L.Subscriptions} {w : Bool × StateTypeId}
    (hw : w ∈ s.announced subscriptions) : w.1 = true := by
  obtain ⟨d, -, rfl⟩ := List.mem_map.mp hw
  rfl

/-- A session that is bound wants what its registry has for the peer. -/
theorem wanted_iff_isSubscribed (hR : LawfulSubscriptions L) {d : L.Device}
    (hd : s.remoteDevice = d) (hzero : d ≠ L.zero) (t : StateTypeId)
    (subscriptions : L.Subscriptions) :
    s.Wanted t subscriptions ↔ L.isSubscribed d t subscriptions = true := by
  subst hd
  have happlies (scope : StateSubscriptionScope) (device : L.Device) :
      s.subscriptionApplies scope device = true ↔ scope = .anyDevice ∨ device = s.remoteDevice := by
    unfold subscriptionApplies
    split_ifs with hany <;> simp_all
  rw [hR.isSubscribed_iff]
  simp only [Wanted, happlies]

end SocketStateSession

namespace Pair
open SocketStateSession
variable {o : Side → L.Device} {i : Side} {p p' : Pair L}

/-- What the other side will know of this side's wishes when it has heard everything. -/
def Agreed (o : Side → L.Device) (i : Side) (p : Pair L) : Prop :=
  ∀ t ∈ L.definitions, settled t
      (L.hasSubscriber (o i) t (p.session i.other).subscribers) (words L (p.channel i)) = true ↔
    (p.session i).Wanted t (p.store i).subscriptions

/-- Nothing about a subscription is withdrawn while another descriptor for the same type still
applies to the peer. -/
def LoneUnsubscribe (i : Side) (p : Pair L) : Action L → Prop
  | .unsubscribe j d => j = i → d ∈ L.descriptors (p.store i).subscriptions →
      (p.session i).subscriptionApplies d.scope d.device = true →
      ∀ e ∈ L.descriptors (p.store i).subscriptions, e ≠ d → e.typeId = d.typeId →
        (p.session i).subscriptionApplies e.scope e.device = false
  | _ => True

/-- What a side does on its own leaves it agreed if its words say how its wishes have changed. -/
theorem Agreed.acts {ws : List (Bool × StateTypeId)} (h : Agreed o i p) (ha : Acts o i ws p p')
    (hws : ∀ t ∈ L.definitions, ∀ known,
      (known = true ↔ (p.session i).Wanted t (p.store i).subscriptions) →
      (settled t known ws = true ↔ (p.session i).Wanted t (p'.store i).subscriptions)) :
    Agreed o i p' := by
  obtain ⟨frames, hchannel, -, rfl⟩ := ha.sent
  intro t ht
  rw [hchannel, words, List.filterMap_append, settled_append, ha.session]
  exact hws t ht _ (h t ht)

theorem Agreed.acts_other {j : Side} {ws : List (Bool × StateTypeId)} (h : Agreed o i p)
    (ha : Acts o j ws p p') (hj : j ≠ i) : Agreed o i p' := by
  obtain ⟨hstore, hchannel⟩ := ha.others i hj.symm
  unfold Agreed
  rw [hchannel, hstore, ha.session]
  exact h

/-- A side that binds to its peer wants no less than before. -/
private theorem wanted_mono {s s' : SocketStateSession (peerHost L)} {d : L.Device}
    (hd : d ≠ L.zero) (hwilling : s.Willing d) (hdevice : s'.remoteDevice = d)
    (hnew : s'.remoteDevice ≠ s.remoteDevice) {t : StateTypeId} {subscriptions : L.Subscriptions}
    (h : s.Wanted t subscriptions) : s'.Wanted t subscriptions := by
  have hfree : s.remoteDevice = L.zero :=
    hwilling.remote.resolve_right fun hsame => hnew (hdevice.trans hsame.symm)
  obtain ⟨e, he, ht, happlies⟩ := h
  refine ⟨e, he, ht, ?_⟩
  unfold subscriptionApplies at happlies ⊢
  rw [hdevice]
  rcases hwilling.expected with hexpected | hexpected
  · simp_all
  · by_cases hany : e.scope = .anyDevice <;> simp_all

theorem Agreed.takes (h : Agreed o i p) (hstanding : p.Standing o) (ho : ∀ i, o i ≠ L.zero)
    {frame : Bytes} (ht : Takes o i frame p p') : Agreed o i p' := by
  obtain ⟨frames, hchannel, -, hwords⟩ := ht.sent
  intro t hdefined
  rw [hchannel, words, List.filterMap_append, settled_append, ht.session_other, ht.subscriptions]
  change settled t (settled t _ (words L (p.channel i))) (words L frames) = true ↔ _
  rw [hwords]
  split_ifs with hsame
  · have happlies (scope : StateSubscriptionScope) (device : L.Device) :
        (p'.session i).subscriptionApplies scope device =
          (p.session i).subscriptionApplies scope device := by
      unfold subscriptionApplies
      rw [hsame, ht.config]
    simp only [settled, h t hdefined, Wanted, happlies]
  · have hdevice := ht.device.resolve_left hsame
    rw [settled_announced fun w hw => announced_true hw, Bool.or_eq_true, h t hdefined,
      decide_eq_true_eq, ← wanted_iff_announced]
    exact or_iff_right_of_imp (wanted_mono (ho i.other) (hstanding.willing i) hdevice hsame)

theorem Agreed.takes_other {j : Side} (h : Agreed o i p) (hj : j = i.other) {frame : Bytes}
    (ht : Takes o j frame p p') : Agreed o i p' := by
  subst hj
  intro t hdefined
  have htold := ht.told t hdefined
  have hsession := ht.session_other
  have hstore := ht.store_other
  have hpopped := ht.popped
  rw [Side.other_other] at htold hsession hstore hpopped
  have hagreed := h t hdefined
  rw [hpopped, ← List.singleton_append, words, List.filterMap_append, settled_append] at hagreed
  rw [htold, hsession, hstore]
  exact hagreed

private theorem settled_wordFor {s : SocketStateSession (peerHost L)} {type : MessageType}
    {d : Descriptor L.Device} (t : StateTypeId) (known : Bool) :
    settled t known (s.wordFor type d) =
      if s.subscriptionApplies d.scope d.device = true ∧ d.typeId = t then
        (if type = .subscribe then true else if type = .unsubscribe then false else known)
      else known := by
  unfold wordFor wordsOf
  split_ifs <;> simp_all [settled]

/-- The word about a new descriptor says what becomes of the wish for a type. -/
private theorem settled_subscribe (hR : LawfulSubscriptions L)
    {s : SocketStateSession (peerHost L)} {subscriptions : L.Subscriptions} {t : StateTypeId}
    {known : Bool} (d : Descriptor L.Device) (hknown : known = true ↔ s.Wanted t subscriptions) :
    settled t known (if (L.subscribe d subscriptions).1 then s.wordFor .subscribe d else []) =
      true ↔ s.Wanted t (L.subscribe d subscriptions).2 := by
  cases hadded : (L.subscribe d subscriptions).1 with
  | false =>
    simp only [Bool.false_eq_true, if_false, settled, hknown, Wanted,
      hR.subscribe_refused d _ hadded]
  | true =>
    simp only [if_true, settled_wordFor, Wanted, hR.subscribe d _ hadded]
    split_ifs with happlies
    · exact iff_of_true rfl ⟨d, .inl rfl, happlies.2, happlies.1⟩
    · rw [hknown]
      constructor
      · rintro ⟨e, he, ht, happlies'⟩
        exact ⟨e, .inr he, ht, happlies'⟩
      · rintro ⟨e, rfl | he, ht, happlies'⟩
        · exact absurd ⟨happlies', ht⟩ happlies
        · exact ⟨e, he, ht, happlies'⟩

/-- So does the word about a removed one, where no other descriptor asks for its type. -/
private theorem settled_unsubscribe (hR : LawfulSubscriptions L)
    {s : SocketStateSession (peerHost L)} {subscriptions : L.Subscriptions} {t : StateTypeId}
    {known : Bool} (d : Descriptor L.Device) (hknown : known = true ↔ s.Wanted t subscriptions)
    (hlone : d ∈ L.descriptors subscriptions → s.subscriptionApplies d.scope d.device = true →
      ∀ e ∈ L.descriptors subscriptions, e ≠ d → e.typeId = d.typeId →
        s.subscriptionApplies e.scope e.device = false) :
    settled t known (if (L.unsubscribe d subscriptions).1 then s.wordFor .unsubscribe d else []) =
      true ↔ s.Wanted t (L.unsubscribe d subscriptions).2 := by
  cases hremoved : (L.unsubscribe d subscriptions).1 with
  | false =>
    simp only [Bool.false_eq_true, if_false, settled, hknown, Wanted,
      hR.unsubscribe_refused d _ hremoved]
  | true =>
    obtain ⟨hmem, hrest⟩ := hR.unsubscribe d _ hremoved
    simp only [if_true, settled_wordFor, Wanted, hrest, reduceCtorEq, if_false]
    split_ifs with happlies
    · apply iff_of_false id
      rintro ⟨e, ⟨hne, he⟩, ht, happlies'⟩
      rw [hlone hmem happlies.1 e he hne (ht.trans happlies.2.symm)] at happlies'
      cases happlies'
    · rw [hknown]
      constructor
      · rintro ⟨e, he, ht, happlies'⟩
        refine ⟨e, ⟨?_, he⟩, ht, happlies'⟩
        rintro rfl
        exact happlies ⟨happlies', ht⟩
      · rintro ⟨e, ⟨-, he⟩, ht, happlies'⟩
        exact ⟨e, he, ht, happlies'⟩

theorem Agreed.step (h : Agreed o i p) (hstanding : p.Standing o) (hL : LawfulProtocol L)
    (hP : LawfulPublisher L) (hS : LawfulSubscribers L) (hR : LawfulSubscriptions L)
    (ho : ∀ i, o i ≠ L.zero) {a : Action L} (hlone : p.LoneUnsubscribe i a) :
    Agreed o i (p.step a) := by
  have hquiet {j : Side} {p' : Pair L} (ha : Acts o j [] p p')
      (hsubscriptions : (p'.store j).subscriptions = (p.store j).subscriptions) :
      Agreed o i p' := by
    by_cases hj : j = i
    · subst hj
      exact h.acts ha fun t _ known hknown => by rwa [hsubscriptions]
    · exact h.acts_other ha hj
  cases a with
  | publish j t =>
    obtain ⟨ha, hsubscriptions⟩ := acts_publish hL hstanding j t
    exact hquiet ha hsubscriptions
  | requestResynchronization j t =>
    obtain ⟨ha, hsubscriptions⟩ := acts_requestResynchronization hL hstanding ho j t
    exact hquiet ha hsubscriptions
  | subscribe j d =>
    obtain ⟨ha, hsubscriptions⟩ := acts_subscribe hL hstanding ho j d
    by_cases hj : j = i
    · subst hj
      refine h.acts ha fun t _ known hknown => ?_
      change settled t known _ = true ↔ Wanted _ _ ((p.subscribe j d).store j).subscriptions
      rw [hsubscriptions]
      exact settled_subscribe hR d hknown
    · exact h.acts_other ha hj
  | unsubscribe j d =>
    obtain ⟨ha, hsubscriptions⟩ := acts_unsubscribe hL hstanding ho j d
    by_cases hj : j = i
    · subst hj
      refine h.acts ha fun t _ known hknown => ?_
      change settled t known _ = true ↔ Wanted _ _ ((p.unsubscribe j d).store j).subscriptions
      rw [hsubscriptions]
      exact settled_unsubscribe hR d hknown (hlone rfl)
    · exact h.acts_other ha hj
  | deliver j =>
    cases hframe : p.channel j.other with
    | nil =>
      change Agreed o i (p.deliver j)
      rwa [deliver_nil hframe]
    | cons frame rest =>
      obtain ⟨ht, -⟩ := hstanding.takes hL hP hS ho hframe
      rcases i.eq_or_other j with rfl | hj
      · exact h.takes hstanding ho ht
      · exact h.takes_other hj ht

/-- Sessions that have only just announced what they want are agreed. -/
theorem Started.agreed {config : SocketStateSessionConfig L} {store : Store L}
    (h : Started o config store i p) (hS : LawfulSubscribers L)
    (hother : (p.session i.other).subscribers = L.noSubscribers) : Agreed o i p := by
  intro t _
  rw [hother, hS.empty, settled_announced fun w hw => announced_true ((h.words w).mp hw),
    h.subscriptions, wanted_iff_announced]
  simp [h.words]

end Pair

namespace SocketStateSession
variable {H : StateHost L} {s : SocketStateSession H} {x : Exterior H}

/-- A session that expects a device is bound to it and to no other. -/
structure Anchored (config : SocketStateSessionConfig L) (s : SocketStateSession H) : Prop where
  configured : s.config = config
  device : config.expectedRemoteDevice ≠ L.zero → s.remoteDevice = config.expectedRemoteDevice

variable {config : SocketStateSessionConfig L}

theorem Anchored.bindPeer (h : Anchored config s) (d : L.Device) :
    Anchored config (s.bindPeer d x).2.1 := by
  unfold SocketStateSession.bindPeer
  split_ifs with hzero hother hbound
  · exact h
  · exact h
  · exact h
  · refine ⟨h.configured, fun hexpected => absurd (h.device hexpected) ?_⟩
    rw [not_not.mp hbound]
    exact hexpected.symm

theorem Anchored.handleControl (h : Anchored config s) (c : ControlMessage L.Device) :
    Anchored config (s.handleControl c x).2.1 := by
  unfold SocketStateSession.handleControl
  split
  · dsimp only
    split_ifs <;> exact ⟨h.configured, h.device⟩
  · exact ⟨h.configured, h.device⟩
  · split_ifs <;> exact h
  · exact ⟨h.configured, h.device⟩
  all_goals exact h

theorem Anchored.handleProtocolMessage (h : Anchored config s) (payload : Bytes) :
    Anchored config (s.handleProtocolMessage payload x).2.1 := by
  unfold SocketStateSession.handleProtocolMessage
  split
  · exact h
  · split
    · exact h
    · unfold handleUpdate
      dsimp only
      split_ifs <;> exact h.bindPeer _
  · split
    · exact h
    · unfold handleAcknowledgement
      split_ifs
      · exact h
      · split <;> exact h
  · split
    · exact h
    · dsimp only
      split_ifs
      · exact h.bindPeer _
      · exact (h.bindPeer _).handleControl _

theorem Anchored.feed (h : Anchored config s) (data : Bytes) :
    Anchored config (s.feed data x).2.1 := by
  unfold SocketStateSession.feed
  split_ifs
  · exact h
  · have hpushed := s.decoder.push_preserves takeMessage
      (Q := fun r : Bool × SocketStateSession H × Exterior H => Anchored config r.2.1)
      (fun payload r hr => hr.handleProtocolMessage payload) data (s := (true, s, x)) h
    exact ⟨hpushed.configured, hpushed.device⟩

/-- A fresh session that has been initialised has a limit for requests, and is anchored. -/
theorem anchored_of_initialized {x : Exterior (peerHost L)}
    (h : (initializeWith config (some ()) true ({} : SocketStateSession (peerHost L))
      x).2.1.initialized = true) :
    L.controlSize ≤ config.maximumProtocolMessageBytes.val ∧
      Anchored config (initializeWith config (some ()) true ({} : SocketStateSession (peerHost L))
        x).2.1 := by
  by_cases hsize : L.controlSize ≤ config.maximumProtocolMessageBytes.val
  · refine ⟨hsize, ?_⟩
    rw [initializeWith_fresh hsize] at h ⊢
    by_cases hexpected : config.expectedRemoteDevice = L.zero
    · rw [if_neg (not_not.mpr hexpected)]
      exact ⟨rfl, fun hne => absurd hexpected hne⟩
    · have hbind : (opened config).bindPeer config.expectedRemoteDevice x = (true,
          { opened config with remoteDevice := config.expectedRemoteDevice },
          ((opened config).bindPeer config.expectedRemoteDevice x).2.2) := by
        have hfree : (opened config).remoteDevice = L.zero := rfl
        unfold SocketStateSession.bindPeer
        rw [if_neg hexpected, if_neg fun h => h.2 rfl, if_neg (not_not.mpr hfree)]
      rw [if_pos hexpected, hbind]
      exact ⟨rfl, fun _ => rfl⟩
  · rw [initializeWith, if_neg Bool.false_ne_true, if_pos (by simpa using hsize)] at h
    cases h

end SocketStateSession

namespace Pair
variable {o : Side → L.Device} {p : Pair L}

theorem anchored_step {config : Side → SocketStateSessionConfig L}
    (h : ∀ i, (p.session i).Anchored (config i)) (a : Action L) :
    ∀ i, ((p.step a).session i).Anchored (config i) := by
  have hcall (i : Side) (q : Pair L) (hq : q.session = p.session)
      (f : SocketStateSession (peerHost L) → Exterior (peerHost L) → Exterior (peerHost L)) :
      (q.call i f).session = p.session := by
    simp [call, put, hq]
  have hnotify (i : Side) (q : Pair L) (hq : q.session = p.session)
      (f : SocketStateSession (peerHost L) → Exterior (peerHost L) → Exterior (peerHost L)) :
      (q.notify i f).session = p.session := by
    unfold notify
    split_ifs
    · exact hq
    · exact hcall i q hq f
  have hlocal (q : Pair L) (hq : q.session = p.session) (i : Side) :
      (q.session i).Anchored (config i) := hq ▸ h i
  cases a with
  | publish j t =>
    apply hlocal _
    change (p.publish j t).session = p.session
    unfold publish
    split_ifs
    · dsimp only
      split
      · rfl
      · exact hnotify j (p.setPublisher j _) rfl _
    · rfl
  | subscribe j d =>
    apply hlocal _
    change (p.subscribe j d).session = p.session
    unfold subscribe
    dsimp only
    split_ifs
    · exact hnotify j (p.setSubscriptions j _) rfl _
    · rfl
  | unsubscribe j d =>
    apply hlocal _
    change (p.unsubscribe j d).session = p.session
    unfold unsubscribe
    dsimp only
    split_ifs
    · exact hnotify j (p.setSubscriptions j _) rfl _
    · rfl
  | requestResynchronization j t => exact hlocal _ (hcall j p rfl _)
  | deliver j =>
    cases hframe : p.channel j.other with
    | nil =>
      change ∀ i, ((p.deliver j).session i).Anchored (config i)
      rwa [deliver_nil hframe]
    | cons frame rest =>
      intro i
      change ((p.deliver j).session i).Anchored (config i)
      rw [deliver_cons hframe]
      by_cases hi : i = j
      · subst hi
        simpa [put] using (h i).feed frame
      · simpa [put, hi] using h i

/-- As long as no descriptor is withdrawn while another one for the same type applies to the peer,
two sessions that are bound to each other agree on the subscriptions of either side whenever no
message is on its way. -/
theorem subscription_agreement (hL : LawfulProtocol L) (hP : LawfulPublisher L)
    (hS : LawfulSubscribers L) (hR : LawfulSubscriptions L)
    (config : Side → SocketStateSessionConfig L) (store : Side → Store L)
    (hinit : ∀ i, ((start config store).session i).initialized = true)
    (hwrap : ∀ i, (config i).maximumProtocolMessageBytes.val + headerSize < 2 ^ SizeWidth.bits)
    (i : Side) (actions : List (Action L))
    (hlone : Meets step (LoneUnsubscribe i) (start config store) actions) :
    let p := run step (start config store) actions
    let device (i : Side) := L.origin (store i).publisher
    (∀ i, (p.session i).remoteDevice = device i.other ∧ device i.other ≠ L.zero) →
    (∀ i, p.channel i = []) → ∀ t ∈ L.definitions,
      L.hasSubscriber (device i) t (p.session i.other).subscribers =
        L.isSubscribed (device i.other) t (p.store i).subscriptions := by
  intro p device hbound hquiet t ht
  have hanchored : ∀ i, (p.session i).Anchored (config i) :=
    run_induction (P := fun p : Pair L => ∀ i, (p.session i).Anchored (config i))
      (fun p a h => anchored_step h a)
      (fun i => (SocketStateSession.anchored_of_initialized (hinit i)).2) actions
  have ho : ∀ i, device i ≠ L.zero := fun i => by simpa using (hbound i.other).2
  have hstartable : Startable device config store := by
    refine ⟨ho, fun _ => rfl, fun i => ?_,
      fun i => (SocketStateSession.anchored_of_initialized (hinit i)).1, hwrap⟩
    by_cases hexpected : (config i).expectedRemoteDevice = L.zero
    · exact .inl hexpected
    · exact .inr (((hanchored i).device hexpected).symm.trans (hbound i).1)
  obtain ⟨hstanding, hstarted⟩ := hstartable.start hL hP hS
  have hrun : p.Standing device ∧ Agreed device i p :=
    hlone.run_induction (P := fun p => p.Standing device ∧ Agreed device i p)
      (fun p a hlone h => ⟨h.1.step hL hP hS ho a, h.2.step h.1 hL hP hS hR ho hlone⟩)
      ⟨hstanding, (hstarted i).agreed hS (hstarted i.other).subscribers⟩
  have hagreed := hrun.2 t ht
  rw [hquiet i] at hagreed
  rw [Bool.eq_iff_iff, ← SocketStateSession.wanted_iff_isSubscribed hR (hbound i).1 (hbound i).2]
  exact hagreed

end Pair
end Sockets.State

namespace Sockets.State.Pair
open Foundation

section Table

attribute [local instance] SizeWidth.host

/-- Subscribed, unsubscribed and subscribed again. -/
def resubscribing : List (Action tableLibrary) :=
  [.subscribe .a deviceTwo, .unsubscribe .a deviceTwo, .subscribe .a deviceTwo] ++ exchange

theorem subscription_agreement_again :
    let p := run step (start mutualConfig (deviceStore none)) resubscribing
    let device (i : Side) := tableLibrary.origin (deviceStore none i).publisher
    ∀ t ∈ tableLibrary.definitions,
      tableLibrary.hasSubscriber (device .a) t (p.session Side.a.other).subscribers =
        tableLibrary.isSubscribed (device Side.a.other) t (p.store .a).subscriptions := by
  have hinit : ∀ i, ((start mutualConfig (deviceStore none)).session i).initialized = true := by
    intro i
    cases i <;> rfl
  have hlone : Meets step (LoneUnsubscribe .a) (start mutualConfig (deviceStore none)) resubscribing := by
    refine ⟨trivial, ?_, trivial, trivial, trivial, trivial, trivial, trivial, trivial, trivial⟩
    intro _ _ _ e he hne
    exact absurd (List.mem_singleton.mp he) hne
  have hbound : ∀ i, ((run step (start mutualConfig (deviceStore none)) resubscribing).session
      i).remoteDevice = deviceOf i.other ∧ deviceOf i.other ≠ 0 := by
    rw [run_mutual]
    intro i
    cases i
    · exact ⟨by rfl, by decide⟩
    · exact ⟨by rfl, by decide⟩
  have hquiet : ∀ i, (run step (start mutualConfig (deviceStore none)) resubscribing).channel i = [] := by
    rw [run_mutual]
    intro i
    cases i <;> rfl
  exact subscription_agreement lawfulProtocol_table lawfulPublisher_table
    lawfulSubscribers_table lawfulSubscriptions_table mutualConfig (deviceStore none) hinit
    (fun i => by cases i <;> decide) .a resubscribing hlone hbound hquiet

/-- Device 1 asks for a type of any device and again of device 2, and withdraws the first. -/
def withdrawing : List (Action tableLibrary) :=
  [.subscribe .a anyDevice, .subscribe .a deviceTwo, .unsubscribe .a anyDevice] ++ exchange

theorem withdrawn_too_much :
    let p := run step (start mutualConfig (deviceStore none)) withdrawing
    (∀ i, (p.session i).remoteDevice = deviceOf i.other) ∧ (∀ i, p.channel i = []) ∧
      tableLibrary.isSubscribed (2 : UInt8) 1 (p.store .a).subscriptions = true ∧
      tableLibrary.hasSubscriber (1 : UInt8) 1 (p.session .b).subscribers = false := by
  rw [run_mutual]
  refine ⟨fun i => ?_, fun i => ?_, by rfl, by rfl⟩
  · cases i <;> rfl
  · cases i <;> rfl

end Table
end Sockets.State.Pair
