import Sockets.State.Bootstrap
import Sockets.State.Freshness

/-! The subscriber of a type ends up with the latest value of its publisher. -/
namespace Sockets.State
open Foundation Sockets.Frame

variable {L : StateLibrary}

variable (L) in
/-- `held` is the value that a remote manager holds of a type and a device: it is replaced by what
is strictly newer, and by nothing else. -/
structure NewestWins
    (held : StateTypeId → L.Device → L.RemoteManager → Option (StateValue L.Value)) : Prop where
  read : ∀ t d m current, L.read t d m = some current → current.hasValue = true →
    ∃ v ∈ held t d m, v.epoch = current.epoch ∧ v.revision = current.revision
  setAvailability : ∀ t d d' a m, held t d (L.setAvailability d' a m) = held t d m
  apply : ∀ t ∈ L.definitions, ∀ d e r v m,
    held t d (L.apply t d e r v m).2 = offer StateValue.stamp ⟨e, r, v⟩ (held t d m)
  others : ∀ t ∈ L.definitions, ∀ d e r v m t' d', ¬(t' = t ∧ d' = d) →
    held t' d' (L.apply t d e r v m).2 = held t' d' m

/-- The value in an update. -/
def ParsedUpdate.state {Device Value : Type} (parsed : ParsedUpdate Device) (value : Value) :
    StateValue Value := ⟨parsed.header.epoch, parsed.header.revision, value⟩

variable {H : StateHost L} [SizeWidth]
  {held : StateTypeId → L.Device → L.RemoteManager → Option (StateValue L.Value)}

namespace SocketStateSession
variable {s : SocketStateSession H} {x : Exterior H} {parsed : ParsedUpdate L.Device}

omit [SizeWidth] in
/-- Nothing is lost by leaving out the very value that is held already. -/
theorem exactDuplicate_offer (hW : NewestWins L held) {remote : L.RemoteManager}
    (h : exactDuplicate parsed.header remote = true) (value : L.Value) :
    offer StateValue.stamp (parsed.state value)
        (held parsed.header.typeId parsed.header.origin remote) =
      held parsed.header.typeId parsed.header.origin remote := by
  unfold exactDuplicate at h
  split at h
  · cases h
  · rename_i current hread
    simp only [Bool.and_eq_true, decide_eq_true_eq] at h
    obtain ⟨v, hv, hepoch, hrevision⟩ := hW.read _ _ _ _ hread h.1.1
    have hstamp : (parsed.state value).stamp = v.stamp := by
      rw [StateValue.stamp, StateValue.stamp, hepoch, hrevision, h.1.2, h.2]
      rfl
    refine if_neg fun hnewer => ?_
    exact absurd (hnewer v hv) (hstamp ▸ lt_irrefl _)

omit [SizeWidth] in
theorem applyIncoming_held (hW : NewestWins L held) (ht : parsed.header.typeId ∈ L.definitions)
    {value : L.Value} (hvalue : L.decodeValue parsed.header.typeId parsed = some value) :
    held parsed.header.typeId parsed.header.origin (applyIncoming parsed x).2.store.remote =
      offer StateValue.stamp (parsed.state value)
        (held parsed.header.typeId parsed.header.origin x.store.remote) := by
  unfold applyIncoming
  rw [if_pos ht, hvalue]
  dsimp only
  split_ifs with hduplicate
  · exact (exactDuplicate_offer hW hduplicate value).symm
  · exact hW.apply _ ht _ _ _ _ _

omit [SizeWidth] in
/-- The value of a type and a device changes only by an update that is about them. -/
theorem applyIncoming_keeps (hW : NewestWins L held) (parsed : ParsedUpdate L.Device)
    (t : StateTypeId) (d : L.Device) :
    held t d (applyIncoming parsed x).2.store.remote = held t d x.store.remote ∨
      (parsed.header.typeId = t ∧ parsed.header.origin = d ∧ ∃ value ∈ L.decodeValue t parsed,
        held t d (applyIncoming parsed x).2.store.remote =
          offer StateValue.stamp (parsed.state value) (held t d x.store.remote)) := by
  by_cases ht : parsed.header.typeId ∈ L.definitions
  · cases hvalue : L.decodeValue parsed.header.typeId parsed with
    | none =>
      left
      unfold applyIncoming
      rw [if_pos ht, hvalue]
    | some value =>
      by_cases hsame : t = parsed.header.typeId ∧ d = parsed.header.origin
      · obtain ⟨rfl, rfl⟩ := hsame
        exact .inr ⟨rfl, rfl, value, hvalue, applyIncoming_held hW ht hvalue⟩
      · left
        unfold applyIncoming
        rw [if_pos ht, hvalue]
        dsimp only
        split_ifs
        · rfl
        · exact hW.others _ ht _ _ _ _ _ _ _ hsame
  · left
    unfold applyIncoming
    rw [if_neg ht]

/-- What binding to a device leaves alone. -/
theorem bindPeer_held (hW : NewestWins L held) (d : L.Device) (s : SocketStateSession H)
    (x : Exterior H) : (s.bindPeer d x).2.2.store.subscriptions = x.store.subscriptions ∧
      ∀ t d', held t d' (s.bindPeer d x).2.2.store.remote = held t d' x.store.remote := by
  rcases s.bindPeer_cases d x with h | ⟨-, -, h⟩ | ⟨-, -, -, h⟩
  · rw [h]
    exact ⟨rfl, fun _ _ => rfl⟩
  · rw [h]
    exact ⟨rfl, fun _ _ => rfl⟩
  · rw [h]
    dsimp only
    rw [sendCurrentSubscriptions_store, met_store]
    split_ifs
    · exact ⟨rfl, fun t d' => hW.setAvailability t d' d _ _⟩
    · exact ⟨rfl, fun _ _ => rfl⟩

/-- An update of a type that is subscribed to is offered to the remote manager. -/
theorem handleUpdate_held (hW : NewestWins L held) (hadmits : s.admits parsed.header.origin = true)
    (hsubscribed : L.isSubscribed parsed.header.origin parsed.header.typeId
      x.store.subscriptions = true)
    (ht : parsed.header.typeId ∈ L.definitions) {value : L.Value}
    (hvalue : L.decodeValue parsed.header.typeId parsed = some value) :
    held parsed.header.typeId parsed.header.origin (s.handleUpdate parsed x).2.2.store.remote =
      offer StateValue.stamp (parsed.state value)
        (held parsed.header.typeId parsed.header.origin x.store.remote) := by
  obtain ⟨hbound, hsession⟩ := bindPeer_admitted hadmits x
  obtain ⟨hsubscriptions, hheld⟩ := bindPeer_held hW parsed.header.origin s x
  have happlied := applyIncoming_held hW ht hvalue (x := (s.bindPeer parsed.header.origin x).2.2)
  rw [hheld] at happlied
  unfold handleUpdate
  simp only [hbound, hsession, hsubscriptions, hsubscribed, Bool.not_true, Bool.false_eq_true,
    if_false]
  split_ifs
  · exact happlied
  · rw [sendAcknowledgement_store]
    exact happlied

theorem handleUpdate_keeps (hW : NewestWins L held) (parsed : ParsedUpdate L.Device)
    (t : StateTypeId) (d : L.Device) :
    held t d (s.handleUpdate parsed x).2.2.store.remote = held t d x.store.remote ∨
      (parsed.header.typeId = t ∧ parsed.header.origin = d ∧ ∃ value ∈ L.decodeValue t parsed,
        held t d (s.handleUpdate parsed x).2.2.store.remote =
          offer StateValue.stamp (parsed.state value) (held t d x.store.remote)) := by
  obtain ⟨-, hheld⟩ := bindPeer_held hW parsed.header.origin s x
  have happlied := applyIncoming_keeps hW parsed t d (x := (s.bindPeer parsed.header.origin x).2.2)
  rw [hheld] at happlied
  unfold handleUpdate
  dsimp only
  split_ifs
  · exact .inl (hheld t d)
  · exact .inl (hheld t d)
  · exact happlied
  · rw [sendAcknowledgement_store]
    exact happlied

/-- Messages without a value leave the values that are held alone. -/
theorem handleMessage_keeps (hW : NewestWins L held) {m : Message L}
    (hm : ∀ parsed, m ≠ .update parsed) (t : StateTypeId) (d : L.Device) :
    held t d (s.handleMessage m x).2.2.store.remote = held t d x.store.remote := by
  have hdeeds := handleMessage_deeds m s x
  revert hdeeds
  generalize (s.handleMessage m x).2 = r
  intro hdeeds
  induction hdeeds with
  | refl => rfl
  | tail _ hlast ih =>
    rw [← ih]
    cases hlast with
    | available value _ => exact hW.setAvailability _ _ _ _ _
    | announce t' _ _ => rw [sendControl_store]
    | apply hupdate _ => exact absurd hupdate (hm _)
    | acknowledge hupdate _ _ _ => exact absurd hupdate (hm _)
    | @snapshot s x c t' _ _ _ =>
      obtain ⟨q, hstore⟩ := sendSnapshotByType_store t' s x
      rw [hstore]
    | answer _ _ _ => rw [sendControl_store]
    | _ => rfl

end SocketStateSession

/-- The first frame on its way is heard at the other end: whatever it brings of the types in `T` is
offered there, and nothing else is taken. -/
theorem Informing.heard {latest : StateTypeId → L.Publisher → Option (StateUpdate L.Device L.Value)}
    {own : L.Device} {T : StateTypeId → Prop} {values values' : StateTypeId → Option (StateValue L.Value)}
    {r r' : Situation (peerHost L)}
    (h : Informing latest own T (fun t v => values t = some v) r) {frame : Bytes}
    (hsession : r'.1 = r.1) (hstore : r'.2.store = r.2.store)
    (hworld : (r.2.world : List Bytes) = frame :: (r'.2.world : List Bytes))
    (hkeeps : ∀ t ∈ L.definitions, values' t = values t ∨
      ∃ v, Brings L t v frame ∧ values' t = offer StateValue.stamp v (values t))
    (htakes : ∀ t ∈ L.definitions, T t → ∀ v, Brings L t v frame →
      values' t = offer StateValue.stamp v (values t)) :
    Informing latest own T (fun t v => values' t = some v) r' := by
  have hnewest : ∀ t ∈ L.definitions, ∀ v, Brings L t v frame →
      UpTo StateValue.stamp (newest latest t r.2.store.publisher) v := by
    intro t ht v hv
    obtain ⟨parsed, hparsed, -⟩ := id hv
    obtain ⟨t', -, v', hv', hupTo⟩ := h.truthful frame (by simp [hworld]) ⟨parsed, hparsed⟩
    obtain ⟨rfl, rfl⟩ := hv.unique hv'
    exact hupTo
  refine ⟨hsession ▸ h.handler, hstore ▸ h.origin, ?_, ?_, ?_⟩
  · rw [hstore]
    exact fun frame' hmem => h.truthful frame' (hworld ▸ List.mem_cons_of_mem _ hmem)
  · rw [hstore]
    intro t ht
    rcases hkeeps t ht with hsame | ⟨v, hv, hoffer⟩
    · rw [hsame]
      exact h.upTo t ht
    · rw [hoffer]
      exact upTo_offer (h.upTo t ht) (hnewest t ht v hv)
  · rw [hstore, hsession]
    intro t ht hT u hu hencodable
    have hlatest : newest latest t r.2.store.publisher = some u.state := by
      rw [newest, hu]
      rfl
    rcases h.present t ht hT u hu hencodable with hknown | ⟨frame', hmem, hbrings⟩
    · left
      rcases hkeeps t ht with hsame | ⟨v, hv, hoffer⟩
      · rw [hsame, hknown]
      · rw [hoffer, hknown]
        exact offer_of_newest (hlatest ▸ hnewest t ht v hv)
    · rw [hworld] at hmem
      rcases List.mem_cons.mp hmem with rfl | hmem
      · left
        rw [htakes t ht hT _ hbrings]
        exact offer_newest (hlatest ▸ h.upTo t ht)
      · exact .inr ⟨frame', hmem, hbrings⟩

namespace Pair
open SocketStateSession
variable {latest : StateTypeId → L.Publisher → Option (StateUpdate L.Device L.Value)}
  {o : Side → L.Device} {i : Side} {p p' : Pair L} {t : StateTypeId}

variable (L) in
/-- The subscription to a type of any device. -/
def anyOf (t : StateTypeId) : Descriptor L.Device :=
  { typeId := t, scope := .anyDevice, device := L.zero }

/-- Side `i` publishes, and the other side subscribes to types of any device. -/
def Permitted (i : Side) : Action L → Prop
  | .publish j _ => j = i
  | .subscribe j d | .unsubscribe j d => j = i.other ∧ d = anyOf L d.typeId
  | .requestResynchronization j _ => j = i.other
  | .deliver _ => True

instance (i : Side) : ∀ a : Action L, Decidable (Permitted i a)
  | .publish j _ => inferInstanceAs (Decidable (j = i))
  | .subscribe j d => inferInstanceAs (Decidable (j = i.other ∧ d = anyOf L d.typeId))
  | .unsubscribe j d => inferInstanceAs (Decidable (j = i.other ∧ d = anyOf L d.typeId))
  | .requestResynchronization j _ => inferInstanceAs (Decidable (j = i.other))
  | .deliver _ => isTrue trivial

/-- What side `i` has sent is within the limit of the other side. -/
def Fitting (i : Side) (p : Pair L) : Prop :=
  ∀ frame ∈ p.channel i, frame.length ≤ (p.session i.other).limit + headerSize

instance (i : Side) (p : Pair L) : Decidable (Fitting i p) :=
  inferInstanceAs (Decidable (∀ frame ∈ p.channel i, _))

/-- Side `i` has heard everything about a type, and the other side is subscribed to it. -/
def Asked (o : Side → L.Device) (i : Side) (p : Pair L) (t : StateTypeId) : Prop :=
  L.hasSubscriber (o i.other) t (p.session i).subscribers = true ∧
    ∀ w ∈ words L (p.channel i.other), w.2 ≠ t

/-- What the other side holds of side `i`. -/
def heldBy (held : StateTypeId → L.Device → L.RemoteManager → Option (StateValue L.Value))
    (o : Side → L.Device) (i : Side) (p : Pair L) (t : StateTypeId) : Option (StateValue L.Value) :=
  held t (o i) (p.store i.other).remote

/-- The pair is on its way to where the other side holds the latest values of side `i`. -/
structure Converging (latest : StateTypeId → L.Publisher → Option (StateUpdate L.Device L.Value))
    (held : StateTypeId → L.Device → L.RemoteManager → Option (StateValue L.Value))
    (o : Side → L.Device) (i : Side) (p : Pair L) : Prop where
  informing : Informing latest (o i) (Asked o i p) (fun t v => heldBy held o i p t = some v)
    (p.session i, p.outside i)
  bound : ∀ t ∈ L.definitions, L.hasSubscriber (o i.other) t (p.session i).subscribers = true →
    (p.session i).remoteDevice = o i.other
  general : ∀ d ∈ L.descriptors (p.store i.other).subscriptions, d = anyOf L d.typeId

/-- In a registry without certain devices, what is wanted is what is subscribed to. -/
theorem wanted_iff_of_general (hR : LawfulSubscriptions L) {s : SocketStateSession (peerHost L)}
    {subscriptions : L.Subscriptions} (hgeneral : ∀ d ∈ L.descriptors subscriptions, d = anyOf L d.typeId)
    (d : L.Device) : s.Wanted t subscriptions ↔ L.isSubscribed d t subscriptions = true := by
  have hany : ∀ e ∈ L.descriptors subscriptions, e.scope = .anyDevice := by
    intro e he
    rw [hgeneral e he]
    rfl
  rw [hR.isSubscribed_iff]
  constructor
  · rintro ⟨e, he, ht, -⟩
    exact ⟨e, he, ht, .inl (hany e he)⟩
  · rintro ⟨e, he, ht, -⟩
    exact ⟨e, he, ht, by simp [subscriptionApplies, hany e he]⟩

theorem Asked.subscribed (hR : LawfulSubscriptions L) (hagreed : Agreed o i.other p)
    (hgeneral : ∀ d ∈ L.descriptors (p.store i.other).subscriptions, d = anyOf L d.typeId)
    (ht : t ∈ L.definitions) (h : Asked o i p t) (d : L.Device) :
    L.isSubscribed d t (p.store i.other).subscriptions = true := by
  have hwanted := hagreed t ht
  rw [Side.other_other, settled_of_forall_ne h.2, wanted_iff_of_general hR hgeneral d] at hwanted
  exact hwanted.mp h.1

/-- When nothing is on its way, whatever is subscribed to has been asked for. -/
theorem asked_of_quiet (hR : LawfulSubscriptions L) (hagreed : Agreed o i.other p)
    (hgeneral : ∀ d ∈ L.descriptors (p.store i.other).subscriptions, d = anyOf L d.typeId)
    (hquiet : p.channel i.other = []) (ht : t ∈ L.definitions) {d : L.Device}
    (h : L.isSubscribed d t (p.store i.other).subscriptions = true) : Asked o i p t := by
  have hwanted := hagreed t ht
  rw [Side.other_other, hquiet, wanted_iff_of_general hR hgeneral d] at hwanted
  refine ⟨hwanted.mpr h, ?_⟩
  rw [hquiet]
  nofun

/-- Whatever the other side says, no more has been asked for than before. -/
theorem Asked.before {frames : List Bytes} (hsession : p'.session i = p.session i)
    (hchannel : p'.channel i.other = p.channel i.other ++ frames) (h : Asked o i p' t) :
    Asked o i p t := by
  refine ⟨hsession ▸ h.1, fun w hw => h.2 w ?_⟩
  rw [hchannel, words, List.filterMap_append]
  exact List.mem_append_left _ hw

/-- What has been asked for once a message has been heard had been asked for before, or is what the
message asks for. -/
theorem Asked.heard {frame : Bytes} (htakes : Takes o i frame p p') (ht : t ∈ L.definitions)
    (h : Asked o i p' t) : Asked o i p t ∨ Announces L t frame := by
  obtain ⟨hsubscribed, hrest⟩ := h
  rw [htakes.told t ht] at hsubscribed
  have hwords : words L (p.channel i.other) = words L [frame] ++ words L (p'.channel i.other) := by
    rw [htakes.popped, ← List.singleton_append]
    exact List.filterMap_append
  by_cases hmem : (true, t) ∈ words L [frame]
  · obtain ⟨frame', hmem', hannounces⟩ := announces_of_mem_words hmem
    exact .inr (List.mem_singleton.mp hmem' ▸ hannounces)
  · have hnone : ∀ w ∈ words L [frame], w.2 ≠ t := by
      rintro ⟨announced, t'⟩ hw rfl
      cases hword : wordOf (L := L) frame with
      | none => simp [words, hword] at hw
      | some w =>
        obtain rfl : (announced, t') = w := by simpa [words, hword] using hw
        cases announced with
        | true => exact hmem hw
        | false => simp [words, hword, settled] at hsubscribed
    rw [settled_of_forall_ne hnone] at hsubscribed
    refine .inl ⟨hsubscribed, ?_⟩
    rw [hwords]
    exact List.forall_mem_append.mpr ⟨hnone, hrest⟩

namespace Converging

/-- The other side acts on its own. -/
theorem acts_other (h : Converging latest held o i p) {ws : List (Bool × StateTypeId)}
    (ha : Acts o i.other ws p p')
    (hgeneral : ∀ d ∈ L.descriptors (p'.store i.other).subscriptions, d = anyOf L d.typeId) :
    Converging latest held o i p' := by
  obtain ⟨hstore, hchannel⟩ := ha.others i i.other_ne.symm
  obtain ⟨frames, hframes, -⟩ := ha.sent
  have hsession : p'.session i = p.session i := by rw [ha.session]
  have hheld : heldBy held o i p' = heldBy held o i p := by
    funext t
    rw [heldBy, ha.remote]
    rfl
  refine ⟨?_, by rw [hsession]; exact h.bound, hgeneral⟩
  rw [hheld, hsession, outside, hstore, hchannel]
  exact h.informing.mono fun t _ hT => hT.before hsession hframes

theorem publish (h : Converging latest held o i p) (hstanding : p.Standing o)
    (hL : LawfulProtocol L) (hV : FaithfulValues L) (hP : LawfulPublisher L)
    (hlatest : LatestValues L latest) (ho : ∀ i, o i ≠ L.zero) (t : StateTypeId) :
    Converging latest held o i (p.publish i t) := by
  obtain ⟨ha, -⟩ := acts_publish hL hstanding i t
  obtain ⟨hstore, hchannel⟩ := ha.others i.other i.other_ne
  have hsession : (p.publish i t).session i = p.session i := by rw [ha.session]
  have hheld : heldBy held o i (p.publish i t) = heldBy held o i p := by
    funext t
    rw [heldBy, hstore]
    rfl
  have hasked : Asked o i (p.publish i t) = Asked o i p := by
    funext t
    rw [Asked, hsession, hchannel]
    rfl
  refine ⟨?_, by rw [hsession]; exact h.bound, by rw [hstore]; exact h.general⟩
  rw [hheld, hasked, hsession]
  unfold Pair.publish
  split_ifs with ht
  · dsimp only
    split
    · rename_i hnone
      rw [setPublisher_outside]
      exact publishNone_informs hP hlatest ht hnone h.informing
    · rename_i u hsome
      rw [notify_eq (p := p.setPublisher i _) (hstanding.up i)]
      have hserved : Asked o i p t → (p.session i).initialized = true ∧
          (p.session i).remoteDevice ≠ L.zero ∧
          L.hasSubscriber (p.session i).remoteDevice t (p.session i).subscribers = true := by
        intro hT
        have hbound := h.bound t ht hT.1
        exact ⟨(hstanding.up i).initialized, hbound ▸ ho i.other, hbound ▸ hT.1⟩
      have hinforms := onTypedStatePublished_informs hL hV hP hlatest ht hsome hserved h.informing
      rw [← setPublisher_outside] at hinforms
      refine hinforms.idle rfl rfl ?_ ?_
      · simp only [outside, call, put, Function.update_self]
        rfl
      · simp only [outside, call, put, Function.update_self]
        rfl
  · exact h.informing

/-- Side `i` hears the other side. -/
theorem hears (h : Converging latest held o i p) (hstanding : p.Standing o)
    (hL : LawfulProtocol L) (hV : FaithfulValues L) (hP : LawfulPublisher L)
    (hS : LawfulSubscribers L) (hlatest : LatestValues L latest) (ho : ∀ i, o i ≠ L.zero)
    {frame : Bytes} {rest : List Bytes} (hframe : p.channel i.other = frame :: rest) :
    Converging latest held o i (p.deliver i) := by
  obtain ⟨htakes, -⟩ := hstanding.takes hL hP hS ho hframe
  obtain ⟨n, m, hcarries, hproper⟩ := hstanding.sent i.other frame (by simp [hframe])
  rw [Side.other_other] at hproper
  obtain ⟨r, hr, hsession, hstore, hchannel, -⟩ :=
    hstanding.delivers hL hP ho hframe hcarries.messageOf
  have hheld : heldBy held o i (p.deliver i) = heldBy held o i p := by
    funext t
    rw [heldBy, htakes.store_other]
    rfl
  refine ⟨?_, fun t ht hsubscribed => ?_, by rw [htakes.store_other]; exact h.general⟩
  · rw [hheld]
    have hinforms : Informing latest (o i) (Asked o i (p.deliver i))
        (fun t v => heldBy held o i p t = some v) r.2 := by
      by_cases hannounces : ∃ t ∈ L.definitions, Announces L t frame
      · obtain ⟨t, ht, c, hc, htype, rfl⟩ := hannounces
        obtain rfl : m = .control c := Option.some.inj (hcarries.messageOf.symm.trans hc)
        have hle : frame.length ≤ (p.session i).limit + headerSize := by
          obtain ⟨payload, rfl, hfits, -⟩ := hcarries
          have hsize : payload.length ≤ L.controlSize := hfits.le_maximum
          have hcontrol := (hstanding.up i).control_le
          rw [length_encodeFrame]
          omega
        have hadmits : (p.session i).admits c.device = true := by
          have hw := hstanding.willing i
          rw [hproper.1]
          exact decide_eq_true ⟨ho i.other, hw.expected.imp id Eq.symm, hw.remote⟩
        have hadd : (L.addSubscriber c.device c.typeId (p.session i).subscribers).1 = true := by
          rw [hproper.1]
          exact hS.room _ _ _ ht (ho i.other) (hstanding.subscribers i)
        rw [hr, if_pos hle]
        refine (handleMessage_serves hL hV hP hlatest (ho i) htype (hstanding.up i).attached hadmits
          hadd h.informing).mono fun t ht hT => (hT.heard htakes ht).imp id ?_
        rintro ⟨c', hc', -, rfl⟩
        rw [hc] at hc'
        cases hc'
        rfl
      · have hasked : Informing latest (o i) (Asked o i (p.deliver i))
            (fun t v => heldBy held o i p t = some v) (p.session i, p.outside i) :=
          h.informing.mono fun t ht hT => (hT.heard htakes ht).resolve_right
            fun hannounced => hannounces ⟨t, ht, hannounced⟩
        rw [hr]
        split_ifs
        · exact handleMessage_informs hL hV hP hlatest (ho i) m hasked
        · exact hasked
    apply hinforms.idle
    · rw [hsession]
    · rw [hsession]
    · exact congrArg Store.publisher hstore
    · exact hchannel
  · rw [htakes.told t ht] at hsubscribed
    by_cases hknown : L.hasSubscriber (o i.other) t (p.session i).subscribers = true
    · exact htakes.device.elim (fun hsame => hsame.trans (h.bound t ht hknown)) id
    · cases hmessage : messageOf L frame with
      | none => simp [words, wordOf, hmessage, settled, hknown] at hsubscribed
      | some m =>
        cases m with
        | control c => exact (hstanding.hears_control hL hP hS ho hframe hmessage).1
        | update parsed => simp [words, wordOf, hmessage, settled, hknown] at hsubscribed
        | acknowledgement a => simp [words, wordOf, hmessage, settled, hknown] at hsubscribed

/-- The other side hears side `i`. -/
theorem heard (h : Converging latest held o i p) (hstanding : p.Standing o)
    (hagreed : Agreed o i.other p) (hfitting : Fitting i p) (hL : LawfulProtocol L)
    (hP : LawfulPublisher L) (hS : LawfulSubscribers L) (hR : LawfulSubscriptions L)
    (hW : NewestWins L held) (ho : ∀ i, o i ≠ L.zero) {frame : Bytes} {rest : List Bytes}
    (hframe : p.channel i = frame :: rest) :
    Converging latest held o i (p.deliver i.other) := by
  have hframe' : p.channel i.other.other = frame :: rest := by rwa [Side.other_other]
  obtain ⟨htakes, -⟩ := hstanding.takes hL hP hS ho hframe'
  obtain ⟨n, m, hcarries, hproper⟩ := hstanding.sent i frame (by simp [hframe])
  obtain ⟨r, hr, -, hstore, -⟩ := hstanding.delivers hL hP ho hframe' hcarries.messageOf
  rw [if_pos (hfitting frame (by simp [hframe]))] at hr
  have hsession_i := htakes.session_other
  have hstore_i := htakes.store_other
  have hpopped := htakes.popped
  obtain ⟨frames, hframes, -⟩ := htakes.sent
  rw [Side.other_other] at hsession_i hstore_i hpopped
  have hheld : ∀ t, heldBy held o i (p.deliver i.other) t =
      held t (o i) ((p.session i.other).handleMessage m (p.outside i.other)).2.2.store.remote := by
    intro t
    rw [heldBy, hstore, hr]
  refine ⟨?_, by rw [hsession_i]; exact h.bound, by rw [htakes.subscriptions]; exact h.general⟩
  suffices hheard : Informing latest (o i) (Asked o i p)
      (fun t v => heldBy held o i (p.deliver i.other) t = some v)
      ((p.deliver i.other).session i, (p.deliver i.other).outside i) from
    hheard.mono fun t _ hT => hT.before hsession_i hframes
  refine h.informing.heard hsession_i hstore_i hpopped ?_ ?_
  · intro t _
    rw [hheld]
    cases m with
    | update parsed =>
      rcases handleUpdate_keeps hW parsed t (o i) (s := p.session i.other) (x := p.outside i.other)
        with hsame | ⟨rfl, -, value, hvalue, hoffer⟩
      · exact .inl hsame
      · exact .inr ⟨_, ⟨parsed, hcarries.messageOf, rfl, rfl, rfl, hvalue⟩, hoffer⟩
    | acknowledgement a => exact .inl (handleMessage_keeps hW (by simp) t (o i))
    | control c => exact .inl (handleMessage_keeps hW (by simp) t (o i))
  · rintro t ht hT ⟨epoch, revision, value⟩ ⟨parsed, hparsed, rfl, rfl, rfl, hvalue⟩
    obtain rfl : m = .update parsed := Option.some.inj (hcarries.messageOf.symm.trans hparsed)
    obtain ⟨horigin, -, -⟩ := hproper
    have hw := hstanding.willing i.other
    rw [Side.other_other] at hw
    have hadmits : (p.session i.other).admits parsed.header.origin = true := by
      rw [horigin]
      exact decide_eq_true ⟨ho i, hw.expected.imp id Eq.symm, hw.remote⟩
    rw [hheld, heldBy, ← horigin]
    exact handleUpdate_held hW hadmits (hT.subscribed hR hagreed h.general ht _) ht hvalue

theorem step (h : Converging latest held o i p) (hstanding : p.Standing o)
    (hagreed : Agreed o i.other p) (hfitting : Fitting i p) {a : Action L} (ha : Permitted i a)
    (hL : LawfulProtocol L) (hV : FaithfulValues L) (hP : LawfulPublisher L)
    (hS : LawfulSubscribers L) (hR : LawfulSubscriptions L) (hlatest : LatestValues L latest)
    (hW : NewestWins L held) (ho : ∀ i, o i ≠ L.zero) :
    Converging latest held o i (p.step a) := by
  cases a with
  | publish j t =>
    obtain rfl : j = i := ha
    exact h.publish hstanding hL hV hP hlatest ho t
  | subscribe j d =>
    obtain ⟨rfl, hd⟩ : j = i.other ∧ d = anyOf L d.typeId := ha
    obtain ⟨hacts, hsubscriptions⟩ := acts_subscribe hL hstanding ho i.other d
    refine h.acts_other hacts fun e he => ?_
    change e ∈ L.descriptors ((p.subscribe i.other d).store i.other).subscriptions at he
    rw [hsubscriptions] at he
    cases hadded : (L.subscribe d (p.store i.other).subscriptions).1 with
    | false => exact h.general e ((hR.subscribe_refused d _ hadded e).mp he)
    | true =>
      rcases (hR.subscribe d _ hadded e).mp he with rfl | he
      · exact hd
      · exact h.general e he
  | unsubscribe j d =>
    obtain ⟨rfl, hd⟩ : j = i.other ∧ d = anyOf L d.typeId := ha
    obtain ⟨hacts, hsubscriptions⟩ := acts_unsubscribe hL hstanding ho i.other d
    refine h.acts_other hacts fun e he => ?_
    change e ∈ L.descriptors ((p.unsubscribe i.other d).store i.other).subscriptions at he
    rw [hsubscriptions] at he
    cases hremoved : (L.unsubscribe d (p.store i.other).subscriptions).1 with
    | false => exact h.general e ((hR.unsubscribe_refused d _ hremoved e).mp he)
    | true => exact h.general e (((hR.unsubscribe d _ hremoved).2 e).mp he).2
  | requestResynchronization j t =>
    obtain rfl : j = i.other := ha
    obtain ⟨hacts, hsubscriptions⟩ := acts_requestResynchronization hL hstanding ho i.other t
    exact h.acts_other hacts (hsubscriptions ▸ h.general)
  | deliver j =>
    change Converging latest held o i (p.deliver j)
    cases hframe : p.channel j.other with
    | nil => rwa [deliver_nil hframe]
    | cons frame rest =>
      rcases i.eq_or_other j with rfl | rfl
      · exact h.hears hstanding hL hV hP hS hlatest ho hframe
      · rw [Side.other_other] at hframe
        exact h.heard hstanding hagreed hfitting hL hP hS hR hW ho hframe

end Converging

/-- Of two subscriptions to any device for one type there is only one. -/
theorem Converging.lone (h : Converging latest held o i p) {a : Action L} (ha : Permitted i a) :
    p.LoneUnsubscribe i.other a := by
  cases a with
  | unsubscribe j d =>
    intro _ _ _ e he hne htype
    obtain ⟨-, hd⟩ : j = i.other ∧ d = anyOf L d.typeId := ha
    refine absurd ?_ hne
    rw [h.general e he, htype, ← hd]
  | _ => trivial

/-- Two sessions that have just been initialised. -/
theorem converging_start {config : Side → SocketStateSessionConfig L} {store : Side → Store L}
    (h : Startable o config store) (hL : LawfulProtocol L) (hP : LawfulPublisher L)
    (hS : LawfulSubscribers L) (hW : NewestWins L held)
    (hgeneral : ∀ d ∈ L.descriptors (store i.other).subscriptions, d = anyOf L d.typeId)
    (hheld : ∀ t ∈ L.definitions, ∀ v ∈ held t (o i) (store i.other).remote,
      UpTo StateValue.stamp (newest latest t (store i).publisher) v) :
    Converging latest held o i (start config store) := by
  obtain ⟨-, hstarted⟩ := h.start hL hP hS
  have hsame : ∀ t, heldBy held o i (start config store) t = held t (o i) (store i.other).remote := by
    intro t
    rcases (hstarted i.other).remote with hremote | hremote
    · rw [heldBy, hremote]
    · rw [heldBy, hremote, hW.setAvailability]
  have hnobody (t : StateTypeId) : L.hasSubscriber (o i.other) t
      ((start config store).session i).subscribers = false := by
    rw [(hstarted i).subscribers, hS.empty]
  refine ⟨?_, fun t _ hsubscribed => ?_, ?_⟩
  · have hbefore : Informing latest (o i) (fun _ => False)
        (fun t v => heldBy held o i (start config store) t = some v)
        (prepared (config i) (some ()) {}, { store := store i, world := ([] : List Bytes) }) := by
      refine ⟨rfl, h.origin i, nofun, fun t ht v hv => ?_, nofun⟩
      exact hheld t ht v (hsame t ▸ hv)
    have hinit := initializeWith_eq (s := ({} : SocketStateSession (peerHost L))) rfl rfl (config i)
      (some ()) true { store := store i, world := ([] : List Bytes) }
    rw [if_neg (by simpa using h.size i), if_neg (by simp)] at hinit
    refine ((opening_informs hL (h.identified i) hbefore).mono fun t _ hT => ?_).idle ?_ ?_ ?_ ?_
    · exact absurd hT.1 (by simp [hnobody])
    all_goals simp only [start, outside, hinit]
  · rw [hnobody] at hsubscribed
    cases hsubscribed
  · rw [(hstarted i.other).subscriptions]
    exact hgeneral

/-- When nothing is on its way, the subscriber of a type holds the latest value that the publisher
has produced of it. -/
theorem state_convergence (hL : LawfulProtocol L) (hV : FaithfulValues L) (hP : LawfulPublisher L)
    (hS : LawfulSubscribers L) (hR : LawfulSubscriptions L) (hlatest : LatestValues L latest)
    (hW : NewestWins L held) {config : Side → SocketStateSessionConfig L} {store : Side → Store L}
    (hstartable : Startable o config store) (i : Side)
    (hgeneral : ∀ d ∈ L.descriptors (store i.other).subscriptions, d = anyOf L d.typeId)
    (hheld : ∀ t ∈ L.definitions, ∀ v ∈ held t (o i) (store i.other).remote,
      UpTo StateValue.stamp (newest latest t (store i).publisher) v)
    (actions : List (Action L))
    (hmeets : Meets step (fun p a => Permitted i a ∧ Fitting i p) (start config store) actions)
    (hquiet : ∀ j, (run step (start config store) actions).channel j = []) :
    let p := run step (start config store) actions
    ∀ t ∈ L.definitions, L.isSubscribed (o i) t (p.store i.other).subscriptions = true →
      ∀ u ∈ latest t (p.store i).publisher, Encodable (p.session i).limit u →
        held t (o i) (p.store i.other).remote = some u.state := by
  intro p t ht hsubscribed u hu hencodable
  have ho := hstartable.identified
  obtain ⟨hstanding, hstarted⟩ := hstartable.start hL hP hS
  have hagreed := (hstarted i.other).agreed hS (hstarted i.other.other).subscribers
  have hconverging := converging_start hstartable hL hP hS hW hgeneral hheld
  have hrun : p.Standing o ∧ Agreed o i.other p ∧ Converging latest held o i p :=
    hmeets.run_induction (P := fun p => p.Standing o ∧ Agreed o i.other p ∧
        Converging latest held o i p)
      (fun p a ha h => ⟨h.1.step hL hP hS ho a,
        h.2.1.step h.1 hL hP hS hR ho (h.2.2.lone ha.1),
        h.2.2.step h.1 h.2.1 ha.2 ha.1 hL hV hP hS hR hlatest hW ho⟩)
      ⟨hstanding, hagreed, hconverging⟩
  obtain ⟨-, hagreed, hconverging⟩ := hrun
  have hasked := asked_of_quiet hR hagreed hconverging.general (hquiet i.other) ht hsubscribed
  rcases hconverging.informing.present t ht hasked u hu hencodable with
    hheld | ⟨frame, hframe, -⟩
  · exact hheld
  · change frame ∈ p.channel i at hframe
    rw [hquiet i] at hframe
    cases hframe

end Pair
end Sockets.State

namespace Sockets.State.Pair
open Foundation

section Table

attribute [local instance] SizeWidth.host

/-- What a publisher with a source shows of it. -/
def sourceUpdate (t : StateTypeId) (p : TablePublisher) : Option (StateUpdate UInt8 UInt8) :=
  p.source.map (p.update t)

def heldState (t : StateTypeId) (d : UInt8) (m : TableRemote) : Option (StateValue UInt8) :=
  (m.held t d).map fun e => ⟨e.1, e.2.1, e.2.2⟩

theorem latestValues_table : LatestValues tableLibrary sourceUpdate where
  publish t p u hu := by
    cases hs : p.source <;> simp_all [sourceUpdate, TablePublisher.update]
    subst hu
    simp [StateUpdateHeader.stamp, stamp, Prod.Lex.lt_iff]
  publish_none t p h := by
    cases hs : p.source <;> simp_all
  snapshot t p := by
    cases hs : p.source <;> simp [sourceUpdate, hs]
  snapshot_keeps t p u hu := by
    cases hs : p.source <;> simp_all [sourceUpdate]
  others t ht t' ht' hne := by
    rw [List.mem_singleton.mp ht, List.mem_singleton.mp ht'] at hne
    exact absurd rfl hne

theorem faithfulValues_table : FaithfulValues tableLibrary where
  value u limit payload parsed _ h hparse := by
    obtain ⟨-, rfl⟩ : _ ∧ headerBytes .update u.header ++ [u.value] = payload := by
      simpa [tableLibrary] using h
    have hlength : (headerBytes .update u.header).length = 18 := by simp [headerBytes, preamble]
    have htype : tableLibrary.getMessageType (headerBytes .update u.header ++ [u.value]) =
        some .update := rfl
    have hdecode (payload : Bytes) : tableLibrary.decodeUpdate payload =
        (readHeader payload).map fun header => ⟨header, payload.drop 18⟩ := rfl
    unfold parse at hparse
    rw [htype] at hparse
    obtain ⟨parsed', hparsed, hsame⟩ := Option.map_eq_some_iff.mp hparse
    obtain rfl := Message.update.inj hsame
    rw [hdecode] at hparsed
    obtain ⟨header, -, rfl⟩ := Option.map_eq_some_iff.mp hparsed
    change ((headerBytes .update u.header ++ [u.value]).drop 18).head? = some u.value
    rw [List.drop_left' hlength]
    rfl

theorem newestWins_table : NewestWins tableLibrary heldState where
  read t d m current h _ := by
    obtain ⟨e, he, rfl⟩ := Option.map_eq_some_iff.mp h
    exact ⟨_, Option.map_eq_some_iff.mpr ⟨e, he, rfl⟩, rfl, rfl⟩
  setAvailability t d d' a m := rfl
  apply t _ d e r v m := by
    have hnewer : (m.held t d).any (fun h => e < h.1 || e = h.1 && r ≤ h.2.1) = true ↔
        ¬ ∀ y ∈ heldState t d m, y.stamp < (⟨e, r, v⟩ : StateValue UInt8).stamp := by
      cases hheld : m.held t d <;>
        simp [heldState, hheld, StateValue.stamp, stamp, Prod.Lex.le_iff]
    by_cases hold : (m.held t d).any (fun h => e < h.1 || e = h.1 && r ≤ h.2.1) = true
    · simp only [offer, if_neg (hnewer.mp hold), if_pos hold]
    · simp only [offer, if_pos (not_not.mp (mt hnewer.mpr hold)), if_neg hold]
      simp [heldState]
  others t _ d e r v m t' d' hne := by
    simp only [heldState]
    split_ifs <;> simp [hne]

/-- Both sides hear two frames. -/
def turn : List (Action tableLibrary) := [.deliver .a, .deliver .a, .deliver .b, .deliver .b]

/-- Device 2 subscribes and hears a snapshot, and then a publication. -/
def following : List (Action tableLibrary) :=
  [.subscribe .b (anyOf tableLibrary 1)] ++ turn ++ [.publish .a 1] ++ turn ++ turn

theorem state_convergence_following :
    let p := run step (start openConfig (deviceStore (some 7))) following
    heldState 1 1 (p.store .b).remote = some ⟨0, 1, 7⟩ := by
  intro p
  have hmeets : Meets step (fun p a => Permitted .a a ∧ Fitting .a p)
      (start openConfig (deviceStore (some 7))) following := by decide +kernel
  have hquiet : ∀ i, p.channel i = [] := by
    intro i
    cases i <;> decide +kernel
  have hsubscribed : tableLibrary.isSubscribed (1 : UInt8) 1 (p.store .b).subscriptions = true := by
    decide +kernel
  have hnewest : newest (L := tableLibrary) sourceUpdate 1 (p.store .a).publisher =
      some ⟨0, 1, 7⟩ := by decide +kernel
  have hlimit : (p.session .a).limit = 4096 := by decide +kernel
  obtain ⟨u, hu, hstate⟩ := Option.map_eq_some_iff.mp hnewest
  have hepoch : u.header.epoch = 0 := congrArg StateValue.epoch hstate
  have hrevision : u.header.revision = 1 := congrArg StateValue.revision hstate
  have hencodable : Encodable (L := tableLibrary) (p.session .a).limit u := by
    refine ⟨headerBytes .update u.header ++ [u.value], ?_, by simp [headerBytes, preamble]⟩
    exact if_pos ⟨by simp [hepoch], by simp [hrevision], by simp [hlimit]⟩
  have hstart : (deviceStore (some 7) Side.b).subscriptions = ([] : List (Descriptor UInt8)) ∧
      ∀ t d, heldState t d (deviceStore (some 7) Side.b).remote = none := ⟨rfl, fun _ _ => rfl⟩
  rw [← hstate]
  exact state_convergence lawfulProtocol_table faithfulValues_table lawfulPublisher_table
    lawfulSubscribers_table lawfulSubscriptions_table latestValues_table newestWins_table
    (startable_open (some 7)) .a (by simp [Side.other, hstart]) (by simp [Side.other, hstart])
    following hmeets hquiet 1 (by decide) hsubscribed u hu hencodable

/-- Device 2 expects another device, or not. -/
def expecting (d : UInt8) (i : Side) : SocketStateSessionConfig tableLibrary :=
  match i with
  | .a => {}
  | .b => { expectedRemoteDevice := d }

/-- Device 1 has a source; device 2 has subscriptions and holds values from the start. -/
def storesOf (subscriptions : List (Descriptor UInt8)) (remote : TableRemote) (i : Side) :
    Store tableLibrary :=
  match i with
  | .a => plainStore 1 (some 7)
  | .b => { plainStore 2 none with subscriptions, remote }

/-- Nothing is on its way, and the subscriber does not hold the latest value. -/
def Missed (p : Pair tableLibrary) : Prop :=
  (∀ i, (p.session i).initialized = true ∧ p.channel i = []) ∧
    tableLibrary.isSubscribed (1 : UInt8) 1 (p.store .b).subscriptions = true ∧
      (newest (L := tableLibrary) sourceUpdate 1 (p.store .a).publisher).isSome ∧
        heldState 1 1 (p.store .b).remote ≠
          newest (L := tableLibrary) sourceUpdate 1 (p.store .a).publisher

/-- A subscriber that expects another device, one that was subscribed to a certain device from the
start, and one that holds something newer from the start. -/
theorem latest_values_missed :
    let subscribing := [.subscribe .b (anyOf tableLibrary 1)] ++ turn ++ turn
    let newer : TableRemote :=
      { held := fun t d => if t = 1 ∧ d = 1 then some (0, 5, 9) else none }
    Missed (run step (start (expecting 3) (storesOf [] {})) subscribing) ∧
      Missed (run step (start (expecting 0) (storesOf [⟨1, .oneDevice, 1⟩] {})) [.publish .a 1]) ∧
      Missed (run step (start (expecting 0) (storesOf [] newer)) subscribing) := by
  intro subscribing newer
  refine ⟨⟨fun i => ?_, by decide +kernel⟩, ⟨fun i => ?_, by decide +kernel⟩, fun i => ?_,
    by decide +kernel⟩
  all_goals cases i <;> decide +kernel

end Table
end Sockets.State.Pair
