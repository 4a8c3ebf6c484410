import Sockets.State.Convergence

/-! Two State sessions whose connection is lost and made again, any number of times. -/
namespace Sockets.State
open Foundation Sockets.Frame

variable {L : StateLibrary} [SizeWidth]

namespace SocketStateSession
variable {s : SocketStateSession (peerHost L)}

/-- A session that has been shut down starts like a new one, but for its registry of subscribers. -/
theorem initializeWith_again (hoff : s.initialized = false) (hresting : s.Resting)
    (config : SocketStateSessionConfig L)
    (hsize : L.controlSize ≤ config.maximumProtocolMessageBytes.val)
    (x : Exterior (peerHost L)) :
    let r := ({} : SocketStateSession (peerHost L)).initializeWith config (some ()) true x
    s.initializeWith config (some ()) true x =
      (r.1, { r.2.1 with subscribers := s.subscribers }, r.2.2) := by
  have hrefused : ¬ ((some () : Option (peerHost L).SendHandler).isNone ||
      decide (config.maximumProtocolMessageBytes.val < L.controlSize)) = true := by
    simpa using hsize
  have hprepared : s.prepared config (some ()) =
      { prepared config (some ()) ({} : SocketStateSession (peerHost L)) with
        subscribers := s.subscribers } := by
    obtain ⟨attached, subscribers, config', handler, peerBound, acknowledgement, decoder,
      registered, remoteDevice, initialized⟩ := s
    cases peerBound with
    | some handler => exact handler.elim
    | none =>
      cases acknowledgement with
      | some handler => exact handler.elim
      | none => rfl
  rw [initializeWith_eq hoff (hresting.off hoff).1, initializeWith_eq rfl rfl]
  rw [if_neg hrefused, if_neg hrefused, if_neg (by simp), if_neg (by simp), hprepared]
  rfl

/-- What `Shutdown` leaves of a session, and of the store. -/
theorem shutdown_leaves {H : StateHost L} {s : SocketStateSession H} (hresting : s.Resting)
    (x : Exterior H) : (s.shutdown x).1.remoteDevice = L.zero ∧
      (s.shutdown x).1.subscribers = (if s.remoteDevice = L.zero then s.subscribers
        else L.removeDevice s.remoteDevice s.subscribers) ∧
      ((s.shutdown x).2.store = x.store ∨ (s.shutdown x).2.store =
        { x.store with
          remote := L.setAvailability s.remoteDevice .disconnected x.store.remote }) := by
  cases hinitialized : s.initialized with
  | false =>
    have hfree := (hresting.off hinitialized).1
    rw [shutdown_off hresting hinitialized, if_pos hfree]
    exact ⟨hfree, rfl, .inl rfl⟩
  | true =>
    rw [shutdown_on hinitialized (hresting.on hinitialized).1]
    refine ⟨rfl, rfl, ?_⟩
    unfold closing
    split_ifs
    · exact .inl rfl
    · right
      dsimp only [Exterior.setAvailability, Exterior.record]
      rw [sendControl_store]
    · exact .inr rfl

end SocketStateSession

variable (L) in
/-- `joined` says that the two sessions are at the ends of one connection. -/
structure Intermittent where
  pair : Pair L
  joined : Bool := false

namespace Intermittent

/-- Two sessions that have not been initialised. -/
def start (store : Side → Store L) : Intermittent L where
  pair := { session := fun _ => {}, store, channel := fun _ => [] }

/-- `Shutdown` of a side, which ends the connection: what is on its way in either direction is
lost, and what the other side sends before it takes notice goes nowhere. -/
def hangUp (i : Side) (n : Intermittent L) : Intermittent L where
  pair := n.pair.put i ((n.pair.session i).shutdown (n.pair.outside i))

/-- `Initialize` of both sides, over a new connection. -/
def connect (config : Side → SocketStateSessionConfig L) (n : Intermittent L) : Intermittent L :=
  let started (i : Side) : Bool × SocketStateSession (peerHost L) × Exterior (peerHost L) :=
    (n.pair.session i).initializeWith (config i) (some ()) true
      { store := n.pair.store i, world := ([] : List Bytes) }
  if (n.pair.session .a).initialized || (n.pair.session .b).initialized then n
  else
    { pair := { n.pair with session := fun i => (started i).2.1
                            store := fun i => (started i).2.2.store
                            channel := fun i => (started i).2.2.world }
      joined := true }

variable (L) in
/-- The connection is lost at any time, each side takes notice in its own time, and when both have,
there may be a new one. -/
inductive Action where
  | use (action : Pair.Action L)
  | lose
  | hangUp (side : Side)
  | connect

/-- Nothing is delivered but over the connection. -/
def step (config : Side → SocketStateSessionConfig L) (n : Intermittent L) :
    Action L → Intermittent L
  | .use (.deliver i) => if n.joined then { n with pair := n.pair.deliver i } else n
  | .use a => { n with pair := n.pair.step a }
  | .lose => { n with joined := false }
  | .hangUp i => n.hangUp i
  | .connect => n.connect config

/-- What a side does on its own changes its publisher or its registry, whether its session is up or
not, and no session. -/
structure Apart (i : Side) (publisher : L.Publisher) (subscriptions : L.Subscriptions)
    (p p' : Pair L) : Prop where
  session : p'.session = p.session
  store : p'.store = Function.update p.store i { p.store i with publisher, subscriptions }

section Apart
variable {p : Pair L} {i : Side}

private theorem apart_call {q : Pair L} (hsession : q.session = p.session)
    {publisher : L.Publisher} {subscriptions : L.Subscriptions}
    (hstore : q.store = Function.update p.store i { p.store i with publisher, subscriptions })
    {f : SocketStateSession (peerHost L) → Exterior (peerHost L) → Exterior (peerHost L)}
    (hf : ∀ s x, (f s x).store = x.store) : Apart i publisher subscriptions p (q.call i f) := by
  constructor
  · change Function.update q.session i (q.session i) = _
    rw [Function.update_eq_self, hsession]
  · change Function.update q.store i (f (q.session i) (q.outside i)).store = _
    rw [hf]
    change Function.update q.store i (q.store i) = _
    rw [Function.update_eq_self, hstore]

private theorem apart_notify {q : Pair L} (hsession : q.session = p.session)
    {publisher : L.Publisher} {subscriptions : L.Subscriptions}
    (hstore : q.store = Function.update p.store i { p.store i with publisher, subscriptions })
    {f : SocketStateSession (peerHost L) → Exterior (peerHost L) → Exterior (peerHost L)}
    (hf : ∀ s x, (f s x).store = x.store) : Apart i publisher subscriptions p (q.notify i f) := by
  unfold Pair.notify
  split_ifs
  · exact ⟨hsession, hstore⟩
  · exact apart_call hsession hstore hf

theorem apart_publish (i : Side) (t : StateTypeId) (p : Pair L) :
    Apart i (if t ∈ L.definitions then (L.publish t (p.store i).publisher).2
      else (p.store i).publisher) (p.store i).subscriptions p (p.publish i t) := by
  unfold Pair.publish
  split_ifs
  · dsimp only
    split
    · exact ⟨rfl, rfl⟩
    · exact apart_notify (p := p) (q := p.setPublisher i _) rfl rfl
        fun s x => s.onTypedStatePublished_store t _ x
  · exact ⟨rfl, (Function.update_eq_self i p.store).symm⟩

theorem apart_subscribe (i : Side) (d : Descriptor L.Device) (p : Pair L) :
    Apart i (p.store i).publisher (L.subscribe d (p.store i).subscriptions).2 p
      (p.subscribe i d) := by
  unfold Pair.subscribe
  dsimp only
  split_ifs
  · exact apart_notify (p := p) (q := p.setSubscriptions i _) rfl rfl
      fun s x => s.onStateSubscribed_store d x
  · exact ⟨rfl, rfl⟩

theorem apart_unsubscribe (i : Side) (d : Descriptor L.Device) (p : Pair L) :
    Apart i (p.store i).publisher (L.unsubscribe d (p.store i).subscriptions).2 p
      (p.unsubscribe i d) := by
  unfold Pair.unsubscribe
  dsimp only
  split_ifs
  · exact apart_notify (p := p) (q := p.setSubscriptions i _) rfl rfl
      fun s x => s.onStateUnsubscribed_store d x
  · exact ⟨rfl, rfl⟩

theorem apart_requestResynchronization (i : Side) (t : StateTypeId) (p : Pair L) :
    Apart i (p.store i).publisher (p.store i).subscriptions p
      (p.step (.requestResynchronization i t)) :=
  apart_call rfl (Function.update_eq_self i p.store).symm
    fun s x => s.requestResynchronization_store t x

end Apart

open Pair SocketStateSession

variable {latest : StateTypeId → L.Publisher → Option (StateUpdate L.Device L.Value)}
  {held : StateTypeId → L.Device → L.RemoteManager → Option (StateValue L.Value)}
  {o : Side → L.Device} {i j : Side} {config : Side → SocketStateSessionConfig L}
  {p p' : Pair L}

/-- The two sides of one connection, of which side `i` publishes and the other one subscribes. -/
structure Together (latest : StateTypeId → L.Publisher → Option (StateUpdate L.Device L.Value))
    (held : StateTypeId → L.Device → L.RemoteManager → Option (StateValue L.Value))
    (o : Side → L.Device) (i : Side) (p : Pair L) : Prop where
  standing : p.Standing o
  agreed : Agreed o i.other p
  converging : Converging latest held o i p

/-- What is left of it when the connection is lost. -/
structure Parted (latest : StateTypeId → L.Publisher → Option (StateUpdate L.Device L.Value))
    (held : StateTypeId → L.Device → L.RemoteManager → Option (StateValue L.Value))
    (o : Side → L.Device) (i : Side) (p : Pair L) : Prop where
  resting : ∀ j, (p.session j).Resting
  willing : ∀ j, (p.session j).remoteDevice = L.zero ∨ (p.session j).remoteDevice = o j.other
  origin : ∀ j, L.origin (p.store j).publisher = o j
  subscribers : ∀ j d t, L.hasSubscriber d t (p.session j).subscribers = true → d = o j.other
  bound : ∀ t ∈ L.definitions, L.hasSubscriber (o i.other) t (p.session i).subscribers = true →
    (p.session i).remoteDevice = o i.other
  general : ∀ d ∈ L.descriptors (p.store i.other).subscriptions, d = anyOf L d.typeId
  upTo : ∀ t ∈ L.definitions, ∀ v ∈ heldBy held o i p t,
    UpTo StateValue.stamp (newest latest t (p.store i).publisher) v

theorem Together.parted (h : Together latest held o i p) : Parted latest held o i p where
  resting := by
    intro j
    have hup := h.standing.up j
    constructor
    · intro hoff
      rw [hup.initialized] at hoff
      cases hoff
    · intro _
      exact ⟨hup.attached, hup.registered, by rw [hup.handler]; rfl⟩
  willing := fun j => (h.standing.willing j).remote
  origin := h.standing.origin
  subscribers := h.standing.subscribers
  bound := h.converging.bound
  general := h.converging.general
  upTo := h.converging.informing.upTo

/-- A side that is on its own moves its publisher forward, or changes its registry. -/
theorem Parted.apart (h : Parted latest held o i p) {publisher : L.Publisher}
    {subscriptions : L.Subscriptions} (ha : Apart j publisher subscriptions p p')
    (horigin : L.origin publisher = L.origin (p.store j).publisher)
    (hnewest : j = i → ∀ t ∈ L.definitions, ∀ v,
      UpTo StateValue.stamp (newest latest t (p.store i).publisher) v →
        UpTo StateValue.stamp (newest latest t publisher) v)
    (hgeneral : j = i.other → ∀ d ∈ L.descriptors subscriptions, d = anyOf L d.typeId) :
    Parted latest held o i p' := by
  have hremote (k : Side) : (p'.store k).remote = (p.store k).remote := by
    rw [ha.store]
    by_cases hk : k = j
    · subst hk
      rw [Function.update_self]
    · rw [Function.update_of_ne hk]
  constructor
  · rw [ha.session]
    exact h.resting
  · rw [ha.session]
    exact h.willing
  · intro k
    rw [ha.store]
    by_cases hk : k = j
    · subst hk
      rw [Function.update_self]
      exact horigin.trans (h.origin k)
    · rw [Function.update_of_ne hk]
      exact h.origin k
  · rw [ha.session]
    exact h.subscribers
  · rw [ha.session]
    exact h.bound
  · rw [ha.store]
    by_cases hi : i.other = j
    · subst hi
      rw [Function.update_self]
      exact hgeneral rfl
    · rw [Function.update_of_ne hi]
      exact h.general
  · intro t ht v hv
    rw [heldBy, hremote] at hv
    have hold := h.upTo t ht v hv
    rw [ha.store]
    by_cases hi : i = j
    · subst hi
      rw [Function.update_self]
      exact hnewest rfl t ht v hold
    · rw [Function.update_of_ne hi]
      exact hold

omit [SizeWidth] in
/-- Whatever is tried, the latest values of a publisher do not become older. -/
theorem upTo_publish (hlatest : LatestValues L latest) {t t' : StateTypeId}
    (ht : t ∈ L.definitions) (ht' : t' ∈ L.definitions) {q : L.Publisher} {v : StateValue L.Value}
    (h : UpTo StateValue.stamp (newest latest t' q) v) :
    UpTo StateValue.stamp (newest latest t' (L.publish t q).2) v := by
  by_cases hsame : t' = t
  · subst hsame
    cases hpublished : (L.publish t' q).1 with
    | none => rwa [newest, hlatest.publish_none t' q hpublished]
    | some u =>
      obtain ⟨hnew, holder⟩ := hlatest.publish t' q u hpublished
      rw [newest, hnew]
      refine h.newer fun w hw => ?_
      obtain ⟨u', hu', rfl⟩ := Option.map_eq_some_iff.mp hw
      exact holder u' hu'
  · rwa [newest, (hlatest.others t ht t' ht' hsame q).1]

omit [SizeWidth] in
theorem general_subscribe (hR : LawfulSubscriptions L) {subscriptions : L.Subscriptions}
    (h : ∀ d ∈ L.descriptors subscriptions, d = anyOf L d.typeId) {d : Descriptor L.Device}
    (hd : d = anyOf L d.typeId) :
    ∀ e ∈ L.descriptors (L.subscribe d subscriptions).2, e = anyOf L e.typeId := by
  intro e he
  cases hadded : (L.subscribe d subscriptions).1 with
  | false => exact h e ((hR.subscribe_refused d _ hadded e).mp he)
  | true =>
    rcases (hR.subscribe d _ hadded e).mp he with rfl | he
    · exact hd
    · exact h e he

omit [SizeWidth] in
theorem general_unsubscribe (hR : LawfulSubscriptions L) {subscriptions : L.Subscriptions}
    (h : ∀ d ∈ L.descriptors subscriptions, d = anyOf L d.typeId) (d : Descriptor L.Device) :
    ∀ e ∈ L.descriptors (L.unsubscribe d subscriptions).2, e = anyOf L e.typeId := by
  intro e he
  cases hremoved : (L.unsubscribe d subscriptions).1 with
  | false => exact h e ((hR.unsubscribe_refused d _ hremoved e).mp he)
  | true => exact h e (((hR.unsubscribe d _ hremoved).2 e).mp he).2

/-- Without a connection the sides only get further apart. -/
theorem Parted.step (h : Parted latest held o i p) (hP : LawfulPublisher L)
    (hR : LawfulSubscriptions L) (hlatest : LatestValues L latest) {a : Pair.Action L}
    (ha : Permitted i a) (hlocal : ∀ j, a ≠ .deliver j) : Parted latest held o i (p.step a) := by
  cases a with
  | publish j t =>
    obtain rfl : j = i := ha
    refine h.apart (apart_publish j t p) ?_ ?_ ?_
    · split_ifs
      · exact hP.origin_publish t _
      · rfl
    · intro _ t' ht' v hv
      split_ifs with ht
      · exact upTo_publish hlatest ht ht' hv
      · exact hv
    · intro hj
      exact absurd hj.symm j.other_ne
  | subscribe j d =>
    obtain ⟨rfl, hd⟩ : j = i.other ∧ d = anyOf L d.typeId := ha
    refine h.apart (apart_subscribe i.other d p) rfl ?_ ?_
    · intro hi
      exact absurd hi i.other_ne
    · intro _
      exact general_subscribe hR h.general hd
  | unsubscribe j d =>
    obtain ⟨rfl, -⟩ : j = i.other ∧ d = anyOf L d.typeId := ha
    refine h.apart (apart_unsubscribe i.other d p) rfl ?_ ?_
    · intro hi
      exact absurd hi i.other_ne
    · intro _
      exact general_unsubscribe hR h.general d
  | requestResynchronization j t =>
    obtain rfl : j = i.other := ha
    refine h.apart (apart_requestResynchronization i.other t p) rfl ?_ ?_
    · intro hi
      exact absurd hi i.other_ne
    · intro _
      exact h.general
  | deliver j => exact absurd rfl (hlocal j)

/-- A side takes notice, and forgets who has subscribed. -/
theorem Parted.hangUp {n : Intermittent L} (h : Parted latest held o i n.pair)
    (hS : SubscriberSet L) (hW : NewestWins L held) (ho : ∀ i, o i ≠ L.zero) (j : Side) :
    Parted latest held o i (n.hangUp j).pair := by
  obtain ⟨hfree, hsubscribers, hstore⟩ :=
    shutdown_leaves (h.resting j) (n.pair.outside j)
  have hkeeps : (((n.hangUp j).pair.store j).publisher = (n.pair.store j).publisher ∧
      ((n.hangUp j).pair.store j).subscriptions = (n.pair.store j).subscriptions ∧
      ∀ t d, held t d ((n.hangUp j).pair.store j).remote = held t d (n.pair.store j).remote) := by
    have hsame : (n.hangUp j).pair.store j =
        ((n.pair.session j).shutdown (n.pair.outside j)).2.store := Function.update_self ..
    rw [hsame]
    rcases hstore with hstore | hstore
    · rw [hstore]
      exact ⟨rfl, rfl, fun _ _ => rfl⟩
    · rw [hstore]
      exact ⟨rfl, rfl, fun t d => hW.setAvailability t d _ _ _⟩
  have hothers {k : Side} (hk : k ≠ j) : (n.hangUp j).pair.session k = n.pair.session k ∧
      (n.hangUp j).pair.store k = n.pair.store k :=
    ⟨Function.update_of_ne hk .., Function.update_of_ne hk ..⟩
  have hself : (n.hangUp j).pair.session j =
      ((n.pair.session j).shutdown (n.pair.outside j)).1 := Function.update_self ..
  have hfewer : ∀ d t, L.hasSubscriber d t ((n.hangUp j).pair.session j).subscribers = true →
      L.hasSubscriber d t (n.pair.session j).subscribers = true ∧
        (d = (n.pair.session j).remoteDevice → d = L.zero) := by
    intro d t
    rw [hself, hsubscribers]
    split_ifs with hzero
    · exact fun hd => ⟨hd, fun hsame => hsame.trans hzero⟩
    · intro hd
      obtain ⟨hne, hd⟩ := (hS.removeDevice _ _ _ _).mp hd
      exact ⟨hd, fun hsame => absurd hsame hne⟩
  constructor
  · intro k
    by_cases hk : k = j
    · subst hk
      rw [hself]
      exact ((h.resting k).shutdown _).2
    · rw [(hothers hk).1]
      exact h.resting k
  · intro k
    by_cases hk : k = j
    · subst hk
      rw [hself]
      exact .inl hfree
    · rw [(hothers hk).1]
      exact h.willing k
  · intro k
    by_cases hk : k = j
    · subst hk
      rw [hkeeps.1]
      exact h.origin k
    · rw [(hothers hk).2]
      exact h.origin k
  · intro k d t hd
    by_cases hk : k = j
    · subst hk
      exact h.subscribers k d t (hfewer d t hd).1
    · rw [(hothers hk).1] at hd
      exact h.subscribers k d t hd
  · intro t ht hd
    by_cases hi : i = j
    · subst hi
      -- whoever had subscribed was the peer, and is forgotten
      obtain ⟨hold, hgone⟩ := hfewer _ t hd
      exact absurd (hgone (h.bound t ht hold).symm) (ho i.other)
    · rw [(hothers hi).1] at hd ⊢
      exact h.bound t ht hd
  · by_cases hi : i.other = j
    · subst hi
      rw [hkeeps.2.1]
      exact h.general
    · rw [(hothers hi).2]
      exact h.general
  · intro t ht v hv
    have hheld : heldBy held o i (n.hangUp j).pair t = heldBy held o i n.pair t := by
      unfold heldBy
      by_cases hi : i.other = j
      · subst hi
        exact hkeeps.2.2 t (o i)
      · rw [(hothers hi).2]
    have hpublisher : ((n.hangUp j).pair.store i).publisher = (n.pair.store i).publisher := by
      by_cases hi : i = j
      · subst hi
        exact hkeeps.1
      · rw [(hothers hi).2]
    rw [hheld] at hv
    rw [hpublisher]
    exact h.upTo t ht v hv

/-- Other registries of subscribers, and other answers. -/
def withSubscribers (r : Side → L.Subscribers) (answers : List Bool) (p : Pair L) : Pair L :=
  { p with session := fun i => { p.session i with subscribers := r i }, answers }

/-- A registry in which nobody has subscribed is as good as a new one. -/
theorem together_withSubscribers {store : Side → Store L} (hstartable : Startable o config store)
    (hL : LawfulProtocol L) (hP : LawfulPublisher L) (hS : LawfulSubscribers L)
    (hW : NewestWins L held)
    (hgeneral : ∀ d ∈ L.descriptors (store i.other).subscriptions, d = anyOf L d.typeId)
    (hheld : ∀ t ∈ L.definitions, ∀ v ∈ held t (o i) (store i.other).remote,
      UpTo StateValue.stamp (newest latest t (store i).publisher) v)
    {r : Side → L.Subscribers} (hr : ∀ j d t, L.hasSubscriber d t (r j) = true → d = o j.other)
    (hnone : ∀ t ∈ L.definitions, L.hasSubscriber (o i.other) t (r i) = false)
    (answers : List Bool) :
    Together latest held o i (withSubscribers r answers (Pair.start config store)) := by
  obtain ⟨hstanding, hstarted⟩ := hstartable.start hL hP hS
  have hagreed := (hstarted i.other).agreed hS (hstarted i.other.other).subscribers
  have hconverging := converging_start hstartable hL hP hS hW hgeneral hheld
  refine ⟨⟨?_, hstanding.wrap, hstanding.origin, ?_, hstanding.sent, hr⟩, ?_, ?_, ?_, ?_⟩
  · intro j
    exact (hstanding.up j).withSubscribers (r j)
  · intro j
    exact ⟨(hstanding.willing j).expected, (hstanding.willing j).remote⟩
  · intro t ht
    have hnobody : L.hasSubscriber (o i.other) t (r i) = L.hasSubscriber (o i.other) t
        ((Pair.start config store).session i.other.other).subscribers := by
      rw [hnone t ht, (hstarted i.other.other).subscribers, hS.empty]
    change settled t (L.hasSubscriber (o i.other) t (r i.other.other)) _ = true ↔ _
    rw [Side.other_other] at hnobody ⊢
    rw [hnobody]
    have hsame := hagreed t ht
    rw [Side.other_other] at hsame
    exact hsame
  · refine (hconverging.informing.mono fun t ht hasked => ?_).idle rfl rfl rfl rfl
    have hsubscribed : L.hasSubscriber (o i.other) t (r i) = true := hasked.1
    rw [hnone t ht] at hsubscribed
    cases hsubscribed
  · intro t ht hsubscribed
    have hsubscribed : L.hasSubscriber (o i.other) t (r i) = true := hsubscribed
    rw [hnone t ht] at hsubscribed
    cases hsubscribed
  · exact hconverging.general

variable {n : Intermittent L}

/-- A new connection between two sessions that have been shut down. -/
theorem connect_eq (hresting : ∀ j, (n.pair.session j).Resting)
    (hoff : ∀ j, (n.pair.session j).initialized = false)
    (hsize : ∀ j, L.controlSize ≤ (config j).maximumProtocolMessageBytes.val) :
    n.connect config = ⟨withSubscribers (fun j => (n.pair.session j).subscribers) n.pair.answers
      (Pair.start config n.pair.store), true⟩ := by
  have hside (j : Side) := initializeWith_again (hoff j) (hresting j) (config j) (hsize j)
    { store := n.pair.store j, world := ([] : List Bytes) }
  unfold connect
  dsimp only
  rw [if_neg (by simp [hoff])]
  congr 1
  unfold withSubscribers Pair.start
  congr 1
  · funext j
    rw [hside]
  · funext j
    rw [hside]
  · funext j
    rw [hside]

/-- What holds at any time. -/
structure Sound (latest : StateTypeId → L.Publisher → Option (StateUpdate L.Device L.Value))
    (held : StateTypeId → L.Device → L.RemoteManager → Option (StateValue L.Value))
    (o : Side → L.Device) (i : Side) (n : Intermittent L) : Prop where
  parted : Parted latest held o i n.pair
  together : n.joined = true → Together latest held o i n.pair

/-- Side `i` publishes and the other one subscribes to types of any device; and what is on its way
over a connection is within the limit of the subscriber. -/
def Allowed (i : Side) (n : Intermittent L) : Action L → Prop
  | .use a => Permitted i a ∧ (n.joined = true → Fitting i n.pair)
  | _ => True

instance (i : Side) (n : Intermittent L) : ∀ a : Action L, Decidable (Allowed i n a)
  | .use _ => inferInstanceAs (Decidable (_ ∧ _))
  | .lose | .hangUp _ | .connect => isTrue trivial

theorem Sound.connect (h : Sound latest held o i n) {store : Side → Store L}
    (hstartable : Startable o config store) (hL : LawfulProtocol L) (hP : LawfulPublisher L)
    (hS : LawfulSubscribers L) (hW : NewestWins L held) :
    Sound latest held o i (n.connect config) := by
  by_cases hon : ((n.pair.session .a).initialized || (n.pair.session .b).initialized) = true
  · unfold Intermittent.connect
    dsimp only
    rwa [if_pos hon]
  · have hoff : ∀ j, (n.pair.session j).initialized = false := by
      intro j
      cases j <;> simp_all
    have hagain : Startable o config n.pair.store :=
      ⟨hstartable.identified, h.parted.origin, hstartable.expected, hstartable.size,
        hstartable.wrap⟩
    have hnone : ∀ t ∈ L.definitions,
        L.hasSubscriber (o i.other) t (n.pair.session i).subscribers = false := by
      intro t ht
      by_contra hsubscribed
      have hbound := h.parted.bound t ht (by simpa using hsubscribed)
      have hfree := ((h.parted.resting i).off (hoff i)).1
      exact hstartable.identified i.other (hbound.symm.trans hfree)
    have htogether := together_withSubscribers hagain hL hP hS hW h.parted.general h.parted.upTo
      h.parted.subscribers hnone n.pair.answers
    rw [connect_eq h.parted.resting hoff hstartable.size]
    exact ⟨htogether.parted, fun _ => htogether⟩

theorem Sound.use (h : Sound latest held o i n) (hL : LawfulProtocol L) (hV : FaithfulValues L)
    (hP : LawfulPublisher L) (hS : LawfulSubscribers L) (hR : LawfulSubscriptions L)
    (hlatest : LatestValues L latest) (hW : NewestWins L held) (ho : ∀ i, o i ≠ L.zero)
    {a : Pair.Action L} (ha : Permitted i a) (hfitting : n.joined = true → Fitting i n.pair) :
    Sound latest held o i (n.step config (.use a)) := by
  cases hjoined : n.joined with
  | true =>
    have hold := h.together hjoined
    have hnew : Together latest held o i (n.pair.step a) :=
      ⟨hold.standing.step hL hP hS ho a,
        hold.agreed.step hold.standing hL hP hS hR ho (hold.converging.lone ha),
        hold.converging.step hold.standing hold.agreed (hfitting hjoined) ha hL hV hP hS hR hlatest
          hW ho⟩
    have hstep : n.step config (.use a) = { n with pair := n.pair.step a } := by
      cases a with
      | deliver j => exact if_pos hjoined
      | _ => rfl
    rw [hstep]
    exact ⟨hnew.parted, fun _ => hnew⟩
  | false =>
    have hlost (n' : Intermittent L) (hn' : n'.joined = false)
        (hparted : Parted latest held o i n'.pair) : Sound latest held o i n' := by
      refine ⟨hparted, fun hon => ?_⟩
      rw [hn'] at hon
      cases hon
    cases a with
    | deliver j =>
      have hstep : n.step config (.use (.deliver j)) = n := if_neg (by simp [hjoined])
      rwa [hstep]
    | _ => exact hlost _ hjoined (h.parted.step hP hR hlatest ha nofun)

/-- However often the connection between a publisher and a subscriber has been lost, at whatever
moment and with whatever was on its way, and whatever either of them has done meanwhile: when they
are connected and nothing is on its way, the subscriber of a type holds the latest value that the
publisher has produced of it. -/
theorem convergence_across_connections (hL : LawfulProtocol L) (hV : FaithfulValues L)
    (hP : LawfulPublisher L) (hS : SubscriberSet L) (hR : LawfulSubscriptions L)
    (hlatest : LatestValues L latest) (hW : NewestWins L held) {store : Side → Store L}
    (hstartable : Startable o config store) (i : Side)
    (hgeneral : ∀ d ∈ L.descriptors (store i.other).subscriptions, d = anyOf L d.typeId)
    (hheld : ∀ t ∈ L.definitions, ∀ v ∈ held t (o i) (store i.other).remote,
      UpTo StateValue.stamp (newest latest t (store i).publisher) v)
    (actions : List (Action L)) (hmeets : Meets (step config) (Allowed i) (start store) actions) :
    let n := run (step config) (start store) actions
    n.joined = true → (∀ j, n.pair.channel j = []) →
      ∀ t ∈ L.definitions, L.isSubscribed (o i) t (n.pair.store i.other).subscriptions = true →
        ∀ u ∈ latest t (n.pair.store i).publisher, Encodable (n.pair.session i).limit u →
          held t (o i) (n.pair.store i.other).remote = some u.state := by
  intro n hjoined hquiet t ht hsubscribed u hu hencodable
  have hstart : Sound latest held o i (start store) := by
    refine ⟨⟨?_, ?_, hstartable.origin, ?_, ?_, hgeneral, hheld⟩, nofun⟩
    · intro j
      exact ⟨fun _ => ⟨rfl, rfl, rfl⟩, nofun⟩
    · intro j
      exact .inl rfl
    · intro j d t hd
      have hd : L.hasSubscriber d t L.noSubscribers = true := hd
      rw [hS.empty] at hd
      cases hd
    · intro t _ hd
      have hd : L.hasSubscriber (o i.other) t L.noSubscribers = true := hd
      rw [hS.empty] at hd
      cases hd
  have hrun : Sound latest held o i n := by
    refine hmeets.run_induction (P := Sound latest held o i) (fun n a ha h => ?_) hstart
    cases a with
    | use b =>
      exact h.use hL hV hP hS.toLawfulSubscribers hR hlatest hW hstartable.identified ha.1 ha.2
    | lose => exact ⟨h.parted, nofun⟩
    | hangUp j => exact ⟨h.parted.hangUp hS hW hstartable.identified j, nofun⟩
    | connect => exact h.connect hstartable hL hP hS.toLawfulSubscribers hW
  have htogether := hrun.together hjoined
  have hasked := asked_of_quiet hR htogether.agreed htogether.converging.general
    (hquiet i.other) ht hsubscribed
  rcases htogether.converging.informing.present t ht hasked u hu hencodable with
    hheld | ⟨frame, hframe, -⟩
  · exact hheld
  · change frame ∈ n.pair.channel i at hframe
    rw [hquiet i] at hframe
    cases hframe

end Intermittent
end Sockets.State

namespace Sockets.State.Intermittent
open Foundation Pair

section Table

attribute [local instance] SizeWidth.host

/-- Both sides hear two frames. -/
def exchanged : List (Action tableLibrary) := turn.map .use

/-- Device 2 subscribes, and its request is lost; device 1 publishes before and after it takes
notice, and they meet again. -/
def interrupted : List (Action tableLibrary) :=
  [.connect, .use (.subscribe .b (anyOf tableLibrary 1)), .lose, .use (.publish .a 1), .hangUp .b,
    .hangUp .a, .use (.publish .a 1), .connect] ++ exchanged ++ exchanged ++ exchanged

theorem convergence_across_connections_interrupted :
    let n := run (step openConfig) (start (deviceStore (some 7))) interrupted
    heldState 1 1 (n.pair.store .b).remote = some ⟨0, 2, 7⟩ := by
  intro n
  have hmeets : Meets (step openConfig) (Allowed .a) (start (deviceStore (some 7)))
      interrupted := by decide +kernel
  have hjoined : n.joined = true := by decide +kernel
  have hquiet : ∀ i, n.pair.channel i = [] := by
    intro i
    cases i <;> decide +kernel
  have hsubscribed : tableLibrary.isSubscribed (1 : UInt8) 1
      (n.pair.store .b).subscriptions = true := by decide +kernel
  have hnewest : newest (L := tableLibrary) sourceUpdate 1 (n.pair.store .a).publisher =
      some ⟨0, 2, 7⟩ := by decide +kernel
  have hlimit : (n.pair.session .a).limit = 4096 := by decide +kernel
  obtain ⟨u, hu, hstate⟩ := Option.map_eq_some_iff.mp hnewest
  have hepoch : u.header.epoch = 0 := congrArg StateValue.epoch hstate
  have hrevision : u.header.revision = 2 := congrArg StateValue.revision hstate
  have hencodable : Encodable (L := tableLibrary) (n.pair.session .a).limit u := by
    refine ⟨headerBytes .update u.header ++ [u.value], ?_, by simp [headerBytes, preamble]⟩
    exact if_pos ⟨by simp [hepoch], by simp [hrevision], by simp [hlimit]⟩
  have hstart : (deviceStore (some 7) Side.b).subscriptions = ([] : List (Descriptor UInt8)) ∧
      ∀ t d, heldState t d (deviceStore (some 7) Side.b).remote = none := ⟨rfl, fun _ _ => rfl⟩
  rw [← hstate]
  exact convergence_across_connections lawfulProtocol_table faithfulValues_table
    lawfulPublisher_table subscriberSet_table lawfulSubscriptions_table latestValues_table
    newestWins_table (startable_open (some 7)) .a (by simp [Side.other, hstart])
    (by simp [Side.other, hstart]) interrupted hmeets hjoined hquiet 1 (by decide) hsubscribed u hu
    hencodable

end Table
end Sockets.State.Intermittent
