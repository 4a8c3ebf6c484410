import Sockets.Foundation.Log
import Sockets.State.Ledger
import Sockets.State.Peers

/-! The updates a session sends, and what it sends them for. -/
namespace Sockets.State
open Foundation Sockets.Frame

variable {L : StateLibrary}

/-- The same host, with the frames handed to its send handlers beside its world. -/
@[reducible] def StateHost.recorded (H : StateHost L) : StateHost L where
  World := H.World × List Bytes
  SendHandler := H.SendHandler
  PeerBoundHandler := H.PeerBoundHandler
  AcknowledgementHandler := H.AcknowledgementHandler
  send handler frame w :=
    ((H.send handler frame w.1).1, (H.send handler frame w.1).2, w.2 ++ [frame])
  peerBound handler device w := (H.peerBound handler device w.1, w.2)
  acknowledged handler acknowledgement w := (H.acknowledged handler acknowledgement w.1, w.2)

variable {H : StateHost L}

def recordedLedger (H : StateHost L) : Ledger H.recorded where
  frames w := w.2
  send _ _ _ := .inr rfl
  peerBound _ _ _ := rfl
  acknowledged _ _ _ := rfl

variable [SizeWidth]

/-- The frame of a payload, if it has been encoded and fits. -/
def framesOf (maximum : SizeT) (payload : Option Bytes) : List Bytes :=
  (payload.toList.map fun payload => buildSocketStateFrame payload maximum).filter (· ≠ [])

/-- The frame of a payload says what the payload says. -/
theorem says_framesOf {P : Message L → Prop} {maximum : SizeT} {payload : Option Bytes}
    (hP : ∀ p m, payload = some p → parse L p = some m → P m) :
    ∀ frame ∈ framesOf maximum payload, Says P frame := by
  intro frame h
  obtain ⟨hmem, hne⟩ := List.mem_filter.mp h
  obtain ⟨p, hp, rfl⟩ := List.mem_map.mp hmem
  have hfits := buildSocketStateFrame_ne_nil_iff.mp (of_decide_eq_true hne)
  rw [buildSocketStateFrame_eq hfits]
  exact ⟨p, rfl, hfits.nonempty, hfits.lt_uint32, fun m => hP p m (Option.mem_toList.mp hp)⟩

namespace SocketStateSession
variable {s : SocketStateSession H.recorded} {x : Exterior H.recorded}

theorem sendEncoded_handed (payload : Option Bytes) (s : SocketStateSession H.recorded)
    (x : Exterior H.recorded) : (s.sendEncoded payload x).2.world.2 = x.world.2 ++
      if s.sendHandler.isSome then framesOf s.config.maximumProtocolMessageBytes payload else [] := by
  cases payload with
  | none => simp [sendEncoded, framesOf]
  | some payload =>
    cases hhandler : s.sendHandler with
    | none => simp [sendEncoded, sendProtocolPayload, hhandler]
    | some handler =>
      unfold sendEncoded sendProtocolPayload
      simp only [hhandler, Option.isSome_some, if_true]
      by_cases hframe : buildSocketStateFrame payload s.config.maximumProtocolMessageBytes = []
      · simp [framesOf, hframe]
      · have hfits := buildSocketStateFrame_ne_nil_iff.mp hframe
        have hsize : ¬ (payload = [] ∨ s.config.maximumProtocolMessageBytes.val < payload.length) :=
          not_or.mpr ⟨hfits.nonempty, not_lt.mpr hfits.le_maximum⟩
        rw [if_neg hsize, if_neg hframe]
        simp [framesOf, hframe]

theorem onTypedStatePublished_handed (t : StateTypeId) (u : StateUpdate L.Device L.Value)
    (s : SocketStateSession H.recorded) (x : Exterior H.recorded) :
    (s.onTypedStatePublished t u x).world.2 = x.world.2 ++
      if s.initialized ∧ s.remoteDevice ≠ L.zero ∧ L.hasSubscriber s.remoteDevice t s.subscribers ∧
        s.sendHandler.isSome then
          framesOf s.config.maximumProtocolMessageBytes
            (L.encodeUpdate u s.config.maximumProtocolMessageBytes.val)
      else [] := by
  unfold onTypedStatePublished
  split_ifs with hidle hunknown
  · simp_all
  · simp_all
  · simp_all
  · simp_all
  · simp_all [sendUpdate, sendEncoded_handed]
  · simp_all [sendUpdate, sendEncoded_handed]

/-- A message calls for updates of a type, where these were the subscribers before. -/
def Called (m : Message L) (r : L.Subscribers) (t : StateTypeId) : Prop :=
  ∃ c, m = .control c ∧ ((c.type = .subscribe ∧ c.typeId = t ∧ t ∈ L.definitions) ∨
    (c.type = .resynchronize ∧ (c.typeId = t ∨ c.typeId = 0) ∧ L.hasSubscriber c.device t r = true))

/-- The subscribers stay what they were while a resynchronization is handled. -/
def Steady (m : Message L) (r : L.Subscribers) (s : SocketStateSession H) : Prop :=
  ∀ c, m = .control c → c.type = .resynchronize → s.subscribers = r

theorem Due.called {H : StateHost L} {s : SocketStateSession H} (hS : SubscriberSet L)
    {c : ControlMessage L.Device} {t : StateTypeId} {r : L.Subscribers} (h : Due c s t)
    (hpeer : s.FromPeer (.control c)) (hsteady : Steady (.control c) r s) :
    Called (.control c) r t := by
  have hdevice : c.device = s.remoteDevice := Option.some.inj hpeer.2
  cases h with
  | subscribed r' htype hadd =>
    exact ⟨c, rfl, .inl ⟨htype, rfl, hS.contract _ _ _ (congrArg Prod.fst hadd)⟩⟩
  | one htype hne hknown =>
    refine ⟨c, rfl, .inr ⟨htype, .inl rfl, ?_⟩⟩
    rwa [hdevice, ← hsteady c rfl htype]
  | all htype hzero hmem =>
    refine ⟨c, rfl, .inr ⟨htype, .inr hzero, ?_⟩⟩
    rw [hdevice, ← hsteady c rfl htype]
    exact (hS.subscribedTypes _ _ _).mp hmem

/-- Only a request for a change makes the subscribers other than they were. -/
theorem Deed.steady {H : StateHost L} {m : Message L} {known : L.Device} {r r' : Situation H}
    (h : Deed m known r r') {subscribers : L.Subscribers} (hsteady : Steady m subscribers r.1) :
    Steady m subscribers r'.1 := by
  have hother {type : MessageType} {c : ControlMessage L.Device} (hm : m = .control c)
      (htype : c.type = type) (hne : type ≠ .resynchronize) {s : SocketStateSession H} :
      Steady m subscribers s := by
    intro c' hc' hresync
    cases hm.symm.trans hc'
    exact absurd (htype.symm.trans hresync) hne
  cases h with
  | add hm htype _ => exact hother hm htype nofun
  | remove hm htype _ => exact hother hm htype nofun
  | forget hm htype _ => exact hother hm htype nofun
  | _ => exact hsteady

/-- The updates among the replies to a message are the ones that it calls for. -/
theorem handleMessage_hands (hL : FaithfulProtocol L) (hP : LawfulPublisher L) (hS : SubscriberSet L)
    (m : Message L) (s : SocketStateSession H.recorded) (x : Exterior H.recorded) :
    Hands (recordedLedger H) (fun m' => ∀ parsed, m' = .update parsed →
      Called m s.subscribers parsed.header.typeId) x (s.handleMessage m x).2.2 := by
  have hdeeds := handleMessage_deeds m s x
  generalize (s.handleMessage m x).2 = r at hdeeds ⊢
  suffices h : Hands (recordedLedger H) (fun m' => ∀ parsed, m' = .update parsed →
      Called m s.subscribers parsed.header.typeId) x r.2 ∧ Steady m s.subscribers r.1 from h.1
  induction hdeeds with
  | refl => exact ⟨.of_eq rfl, fun _ _ _ => rfl⟩
  | tail _ hlast ih =>
    refine ⟨ih.1.trans ((hlast.hands _ hL).mono fun m' hreply parsed hm' => ?_), hlast.steady ih.2⟩
    subst hm'
    obtain ⟨hpeer, c, t, q, rfl, hdue, u, hu, hheader⟩ := hreply
    rw [hheader, (hP.snapshot t q u hu).2]
    exact hdue.called hS hpeer ih.2

/-- A message that the session accepts: it comes from the peer, or from the first device that may
be one, and a subscription is to a type of the contract. -/
def accepts (m : Message L) (s : SocketStateSession H) : Bool :=
  match m with
  | .update parsed => s.admits parsed.header.origin
  | .acknowledgement _ => true
  | .control c => s.admits c.device &&
      (decide (c.type ≠ .subscribe) || decide (c.typeId ∈ L.definitions))

end SocketStateSession

variable (L) in
/-- Something that happens to a session. -/
inductive Cause where
  | opened
  | shutdown
  | heard (m : Message L) (accepted : Bool)
  | published (typeId : StateTypeId) (update : StateUpdate L.Device L.Value)
  | other

/-- What an event makes of the peer's subscription to a type. -/
def Cause.subscription (t : StateTypeId) : Cause L → Option Bool
  | .opened | .shutdown => some false
  | .heard (.control c) true =>
    if c.type = .disconnect then some false
    else if c.typeId ≠ t then none
    else if c.type = .subscribe then some true
    else if c.type = .unsubscribe then some false
    else none
  | _ => none

variable (L) in
/-- An event, the limit of the session at the time, and the frames it handed over because of it. -/
structure Entry where
  cause : Cause L
  maximum : SizeT
  handed : List Bytes

/-- The last word about a type since the session was opened is a subscription. -/
def peerSubscribed (t : StateTypeId) (entries : List (Entry L)) : Bool :=
  ((entries.filterMap fun e => e.cause.subscription t).getLast?).getD false

theorem peerSubscribed_append (t : StateTypeId) (entries : List (Entry L)) (e : Entry L) :
    peerSubscribed t (entries ++ [e]) =
      (e.cause.subscription t).getD (peerSubscribed t entries) := by
  unfold peerSubscribed
  rw [List.filterMap_append]
  cases h : e.cause.subscription t <;> simp [h]

/-- An event for which an update of the type may be sent. -/
def Warrants (t : StateTypeId) (before : List (Entry L)) : Cause L → Prop
  | .published t' _ => t' = t ∧ peerSubscribed t before = true
  | .heard (.control c) true => (c.type = .subscribe ∧ c.typeId = t) ∨
      (c.type = .resynchronize ∧ (c.typeId = t ∨ c.typeId = 0) ∧ peerSubscribed t before = true)
  | _ => False

/-- A message that may be sent because of an event. -/
def Warranted (before : List (Entry L)) (cause : Cause L) (m : Message L) : Prop :=
  ∀ parsed, m = .update parsed → Warrants parsed.header.typeId before cause

/-- Updates are sent only for a reason, and what is published to a subscriber is sent once. -/
structure Regular (before : List (Entry L)) (e : Entry L) : Prop where
  warranted : ∀ frame ∈ e.handed, Says (Warranted before e.cause) frame
  served : ∀ t u, e.cause = .published t u → peerSubscribed t before = true →
    e.handed = framesOf e.maximum (L.encodeUpdate u e.maximum.val)

/-- The subscribers of a session are what its peer has asked for since the session was opened. -/
structure Follows {H : StateHost L} (before : List (Entry L)) (s : SocketStateSession H) : Prop where
  resting : s.Resting
  subscribers : ∀ d t, L.hasSubscriber d t s.subscribers = true ↔
    d = s.remoteDevice ∧ d ≠ L.zero ∧ peerSubscribed t before = true
  unbound : s.remoteDevice = L.zero → ∀ t, peerSubscribed t before = false

namespace Follows
variable {H : StateHost L} {before : List (Entry L)} {s : SocketStateSession H}

theorem bind (h : Follows before s) (hon : s.initialized = true) {d : L.Device}
    (hadmits : s.admits d = true) : Follows before { s with remoteDevice := d } := by
  obtain ⟨hd, -, hfree | hsame⟩ := of_decide_eq_true hadmits
  · refine ⟨⟨fun hoff => ?_, h.resting.on⟩, fun d' t => ?_, fun hzero => absurd hzero hd⟩
    · exact absurd (hon.symm.trans hoff) nofun
    · rw [h.subscribers, h.unbound hfree t]
      simp
  · rwa [← hsame]

/-- An event after which the subscribers are what it makes of the peer's subscriptions. -/
theorem append (h : Follows before s) (hbound : s.remoteDevice ≠ L.zero) {e : Entry L}
    {r : L.Subscribers} (hr : ∀ d t, L.hasSubscriber d t r = true ↔ d = s.remoteDevice ∧
      (e.cause.subscription t).getD (peerSubscribed t before) = true) :
    Follows (before ++ [e]) { s with subscribers := r } := by
  refine ⟨⟨h.resting.off, h.resting.on⟩, fun d t => ?_, fun hzero => absurd hzero hbound⟩
  rw [hr, peerSubscribed_append]
  constructor
  · rintro ⟨rfl, hknown⟩
    exact ⟨rfl, hbound, hknown⟩
  · rintro ⟨rfl, -, hknown⟩
    exact ⟨rfl, hknown⟩

/-- An event that has nothing to do with the peer's subscriptions. -/
theorem idle (h : Follows before s) {e : Entry L} (he : ∀ t, e.cause.subscription t = none) :
    Follows (before ++ [e]) s := by
  have hsame (t : StateTypeId) : peerSubscribed t (before ++ [e]) = peerSubscribed t before := by
    rw [peerSubscribed_append, he, Option.getD_none]
  exact ⟨h.resting, fun d t => by rw [hsame, h.subscribers], fun hzero t => by
    rw [hsame, h.unbound hzero]⟩

/-- A control message that comes from the peer. -/
private theorem control (hS : SubscriberSet L) (h : Follows before s) {c : ControlMessage L.Device}
    (hbound : s.remoteDevice ≠ L.zero) (hdevice : c.device = s.remoteDevice) {e : Entry L}
    (he : e.cause = .heard (.control c)
      (decide (c.type ≠ .subscribe) || decide (c.typeId ∈ L.definitions))) :
    Follows (before ++ [e]) { s with subscribers :=
      SocketStateSession.subscribersAfter c.device (.control c) s.subscribers } := by
  have hold (d : L.Device) (t : StateTypeId) : L.hasSubscriber d t s.subscribers = true ↔
      d = s.remoteDevice ∧ peerSubscribed t before = true := by
    rw [h.subscribers]
    exact ⟨fun hd => ⟨hd.1, hd.2.2⟩, fun hd => ⟨hd.1, hd.1 ▸ hbound, hd.2⟩⟩
  refine h.append hbound fun d t => ?_
  rw [hdevice, he]
  unfold SocketStateSession.subscribersAfter
  cases htype : c.type with
  | subscribe =>
    by_cases hdefined : c.typeId ∈ L.definitions
    · have hroom := hS.room s.remoteDevice c.typeId s.subscribers hdefined hbound
        fun d' t' hd' => ((hold d' t').mp hd').1
      have hadd := hS.add _ _ _ hroom d t
      by_cases ht : c.typeId = t
      · subst ht
        simp_all [Cause.subscription]
      · simp_all [Cause.subscription, Ne.symm ht]
    · have hadd : (L.addSubscriber s.remoteDevice c.typeId s.subscribers).1 = false := by
        by_contra hadd
        exact hdefined (hS.contract _ _ _ (by simpa using hadd))
      have hsame := hS.add_refused _ _ _ hadd d t
      simp_all [Cause.subscription]
  | unsubscribe =>
    have hremove := hS.remove s.remoteDevice c.typeId s.subscribers d t
    by_cases ht : c.typeId = t
    · subst ht
      simp_all [Cause.subscription]
    · simp_all [Cause.subscription, Ne.symm ht]
  | disconnect =>
    have hremove := hS.removeDevice s.remoteDevice s.subscribers d t
    simp_all [Cause.subscription]
  | _ => simp_all [Cause.subscription]

/-- A message, whoever it comes from. -/
theorem message (hS : SubscriberSet L) (h : Follows before s) (hon : s.initialized = true)
    (m : Message L) (x : Exterior H) {e : Entry L} (he : e.cause = .heard m (s.accepts m)) :
    Follows (before ++ [e]) (s.handleMessage m x).2.1 := by
  rw [SocketStateSession.handleMessage_session]
  cases m with
  | acknowledgement a => exact h.idle fun t => by rw [he]; rfl
  | update parsed =>
    have hidle (t : StateTypeId) : e.cause.subscription t = none := by rw [he]; rfl
    dsimp only [Message.sender]
    split_ifs with hadmits
    · exact (h.bind hon hadmits).idle hidle
    · exact h.idle hidle
  | control c =>
    dsimp only [Message.sender]
    unfold SocketStateSession.accepts at he
    dsimp only at he
    cases hadmits : s.admits c.device with
    | true =>
      rw [if_pos rfl]
      rw [hadmits, Bool.true_and] at he
      exact control hS (h.bind hon hadmits) (of_decide_eq_true hadmits).1 rfl he
    | false =>
      rw [if_neg Bool.false_ne_true]
      refine h.idle fun t => ?_
      rw [he, hadmits]
      rfl

/-- `Shutdown` leaves no subscriber. -/
theorem shutdown_none (hS : SubscriberSet L) (h : Follows before s) (x : Exterior H) (d : L.Device)
    (t : StateTypeId) : ¬ L.hasSubscriber d t (s.shutdown x).1.subscribers = true := by
  have hfree (hzero : s.remoteDevice = L.zero) : ¬ L.hasSubscriber d t s.subscribers = true := by
    rw [h.subscribers, h.unbound hzero t]
    exact fun hd => absurd hd.2.2 nofun
  cases hinitialized : s.initialized with
  | false =>
    rw [SocketStateSession.shutdown_off h.resting hinitialized]
    exact hfree (h.resting.off hinitialized).1
  | true =>
    rw [SocketStateSession.shutdown_on hinitialized (h.resting.on hinitialized).1]
    unfold SocketStateSession.ended
    dsimp only
    split_ifs with hzero
    · exact hfree hzero
    · rw [hS.removeDevice, h.subscribers]
      exact fun hd => hd.1 hd.2.1

end Follows

/-- The frames handed over between two moments. -/
def newly (x x' : Exterior H.recorded) : List Bytes := x'.world.2.drop x.world.2.length

namespace Endpoint

/-- The entries of several payloads, one after the other. -/
def heard : List Bytes → SocketStateSession H.recorded → Exterior H.recorded → List (Entry L)
  | [], _, _ => []
  | payload :: payloads, s, x =>
    let r := (s.handleProtocolMessage payload x).2
    let cause := match parse L payload with
      | none => .other
      | some m => .heard m (s.accepts m)
    ⟨cause, s.config.maximumProtocolMessageBytes, newly x r.2⟩ :: heard payloads r.1 r.2

/-- What happens to a session in one call. -/
def entries (e : Endpoint H.recorded) (a : Action H.recorded) : List (Entry L) :=
  let entry (cause : Cause L) : Entry L :=
    ⟨cause, e.session.config.maximumProtocolMessageBytes, newly e.exterior (e.step a).exterior⟩
  match a with
  | .feed data =>
    if e.session.initialized then heard (e.session.decoder.payloads data) e.session e.exterior else []
  | .initializeWith .. => [entry (if e.session.initialized then .other else .opened)]
  | .shutdown => [entry .shutdown]
  | .publish t =>
    let published := if t ∈ L.definitions then (L.publish t e.exterior.store.publisher).1 else none
    [entry (match published with
      | none => .other
      | some update => .published t update)]
  | _ => [entry .other]

/-- A log of what has happened between two situations, behind another log. -/
structure Chronicle (before : List (Entry L)) (r r' : Situation H.recorded)
    (log : List (Entry L)) : Prop where
  regular : Throughout (fun earlier e _ => Regular (before ++ earlier) e) log
  follows : Follows (before ++ log) r'.1
  handed : r'.2.world.2 = r.2.world.2 ++ log.flatMap Entry.handed

namespace Chronicle
variable {before log log' : List (Entry L)} {r r' r'' : Situation H.recorded}

theorem nil (h : Follows before r.1) : Chronicle before r r [] :=
  ⟨.nil, by rwa [List.append_nil], by simp⟩

theorem append (h : Chronicle before r r' log) (h' : Chronicle (before ++ log) r' r'' log') :
    Chronicle before r r'' (log ++ log') := by
  refine ⟨h.regular.append (h'.regular.mono fun {b e _} hb => ?_) id, ?_, ?_⟩
  · rwa [List.append_assoc] at hb
  · rw [← List.append_assoc]
    exact h'.follows
  · rw [h'.handed, h.handed, List.flatMap_append, List.append_assoc]

theorem single {cause : Cause L} {maximum : SizeT}
    (hhands : Hands (recordedLedger H) (Warranted before cause) r.2 r'.2)
    (hserved : ∀ t u, cause = .published t u → peerSubscribed t before = true →
      newly r.2 r'.2 = framesOf maximum (L.encodeUpdate u maximum.val))
    (hfollows : Follows (before ++ [⟨cause, maximum, newly r.2 r'.2⟩]) r'.1) :
    Chronicle before r r' [⟨cause, maximum, newly r.2 r'.2⟩] := by
  obtain ⟨frames, hworld, hframes⟩ := hhands
  have hworld' : r'.2.world.2 = r.2.world.2 ++ frames := hworld
  have hnewly : newly r.2 r'.2 = frames := by simp [newly, hworld']
  refine ⟨.singleton ?_, hfollows, by simp [hnewly, hworld']⟩
  rw [List.append_nil]
  exact ⟨hnewly.symm ▸ hframes, hserved⟩

end Chronicle

/-- Everything that happens in a run. -/
def history : Endpoint H.recorded → List (Action H.recorded) → List (Entry L)
  | _, [] => []
  | e, a :: actions => e.entries a ++ history (e.step a) actions

open SocketStateSession

variable {before : List (Entry L)}

/-- What is called for by a message of the peer is warranted by it. -/
private theorem warrants_of_called {s : SocketStateSession H.recorded} {m : Message L}
    {t : StateTypeId} (h : Follows before s) (hcalled : Called m s.subscribers t)
    (hadmits : ∀ d, m.sender = some d → s.admits d = true) :
    Warrants t before (.heard m (s.accepts m)) := by
  obtain ⟨c, rfl, hcall⟩ := hcalled
  have hadmitted : s.admits c.device = true := hadmits c.device rfl
  rcases hcall with ⟨htype, rfl, hdefined⟩ | ⟨htype, ht, hknown⟩
  · have haccepts : s.accepts (.control c) = true := by simp [accepts, hadmitted, hdefined]
    rw [haccepts]
    exact .inl ⟨htype, rfl⟩
  · have haccepts : s.accepts (.control c) = true := by simp [accepts, hadmitted, htype]
    rw [haccepts]
    exact .inr ⟨htype, ht, ((h.subscribers _ _).mp hknown).2.2⟩

theorem chronicle_message (hL : FaithfulProtocol L) (hP : LawfulPublisher L) (hS : SubscriberSet L)
    {s : SocketStateSession H.recorded} (h : Follows before s) (hon : s.initialized = true)
    (m : Message L) (x : Exterior H.recorded) (maximum : SizeT) :
    Chronicle before (s, x) (s.handleMessage m x).2
      [⟨.heard m (s.accepts m), maximum, newly x (s.handleMessage m x).2.2⟩] := by
  refine .single (r := (s, x)) ?_ nofun (h.message hS hon m x rfl)
  by_cases hadmits : ∀ d, m.sender = some d → s.admits d = true
  · exact (handleMessage_hands hL hP hS m s x).mono fun m' hcalled parsed hm' =>
      warrants_of_called h (hcalled parsed hm') hadmits
  · push Not at hadmits
    obtain ⟨d, hsender, hrefused⟩ := hadmits
    rw [handleMessage_refused hsender (by simpa using hrefused)]
    exact .of_eq rfl

theorem chronicle_heard (hL : FaithfulProtocol L) (hP : LawfulPublisher L) (hS : SubscriberSet L)
    (payloads : List Bytes) {s : SocketStateSession H.recorded} (x : Exterior H.recorded)
    (answer : Bool) (h : Follows before s) (hon : s.initialized = true) :
    Chronicle before (s, x)
      (payloads.foldl (fun r payload => takeMessage payload r) (answer, s, x)).2
      (heard payloads s x) := by
  induction payloads generalizing before s x answer with
  | nil => exact .nil h
  | cons payload payloads ih =>
    have hfirst : Chronicle before (s, x) (s.handleProtocolMessage payload x).2
        [⟨match parse L payload with
          | none => .other
          | some m => .heard m (s.accepts m),
        s.config.maximumProtocolMessageBytes, newly x (s.handleProtocolMessage payload x).2.2⟩] := by
      cases hparse : parse L payload with
      | none =>
        rw [handleProtocolMessage_none hparse]
        exact .single (r := (s, x)) (.of_eq rfl) nofun (h.idle fun _ => rfl)
      | some m =>
        rw [handleProtocolMessage_eq hparse]
        exact chronicle_message hL hP hS h hon m x _
    have hon' : (s.handleProtocolMessage payload x).2.1.initialized = true :=
      handleProtocolMessage_keeps (Q := fun r => r.1.initialized = true)
        (fun m known r r' hdeed hr => by cases hdeed <;> exact hr) payload hon
    exact hfirst.append (ih _ _ hfirst.follows hon')

/-- A publication goes to a peer that has subscribed to the type, and to no other. -/
private theorem notify_published {e : Endpoint H.recorded} (h : Follows before e.session)
    (t : StateTypeId) (u : StateUpdate L.Device L.Value) :
    (e.notify fun s x => s.onTypedStatePublished t u x).exterior.world.2 = e.exterior.world.2 ++
      if peerSubscribed t before then framesOf e.session.config.maximumProtocolMessageBytes
        (L.encodeUpdate u e.session.config.maximumProtocolMessageBytes.val) else [] := by
  have hknown := h.subscribers e.session.remoteDevice t
  unfold notify
  cases hsubscribed : peerSubscribed t before with
  | true =>
    have hbound : e.session.remoteDevice ≠ L.zero := fun hzero =>
      absurd (hsubscribed.symm.trans (h.unbound hzero t)) nofun
    have hon : e.session.initialized = true := by
      by_contra hoff
      exact hbound (h.resting.off (by simpa using hoff)).1
    obtain ⟨-, hregistered, hhandler⟩ := h.resting.on hon
    rw [if_neg (by simp [hregistered]), onTypedStatePublished_handed, if_pos rfl,
      if_pos ⟨hon, hbound, hknown.mpr ⟨rfl, hbound, hsubscribed⟩, hhandler⟩]
  | false =>
    rw [if_neg Bool.false_ne_true]
    split_ifs
    · exact (List.append_nil _).symm
    · rw [onTypedStatePublished_handed, if_neg]
      rintro ⟨-, -, hsubscriber, -⟩
      exact absurd ((hknown.mp hsubscriber).2.2.symm.trans hsubscribed) nofun

private theorem chronicle_publish (hL : FaithfulProtocol L) (hP : LawfulPublisher L)
    {e : Endpoint H.recorded} (h : Follows before e.session) (t : StateTypeId) :
    Chronicle before (e.session, e.exterior) ((e.publish t).session, (e.publish t).exterior)
      (e.entries (.publish t)) := by
  have hfollows {entry : Entry L} (hentry : ∀ t', entry.cause.subscription t' = none) :
      Follows (before ++ [entry]) (e.publish t).session := by
    rw [publish_session]
    exact h.idle hentry
  unfold entries
  dsimp only
  by_cases ht : t ∈ L.definitions
  · simp only [if_pos ht]
    cases hupdate : (L.publish t e.exterior.store.publisher).1 with
    | none =>
      refine .single (r := (e.session, e.exterior)) (.of_eq ?_) nofun (hfollows fun _ => rfl)
      unfold publish
      simp only [if_pos ht, hupdate]
      rfl
    | some u =>
      have hpublish : e.publish t = (e.setPublisher (L.publish t e.exterior.store.publisher).2).notify
          fun s x => s.onTypedStatePublished t u x := by
        unfold publish
        simp only [if_pos ht, hupdate]
      have hworld : (e.publish t).exterior.world.2 = e.exterior.world.2 ++
          if peerSubscribed t before then framesOf e.session.config.maximumProtocolMessageBytes
            (L.encodeUpdate u e.session.config.maximumProtocolMessageBytes.val) else [] := by
        have hsame : Follows before
            (e.setPublisher (L.publish t e.exterior.store.publisher).2).session := h
        rw [hpublish]
        exact notify_published hsame t u
      refine .single (r := (e.session, e.exterior)) ⟨_, hworld, fun frame hframe => ?_⟩
        (fun t' u' hcause hsubscribed => ?_) (hfollows fun _ => rfl)
      · split_ifs at hframe with hsubscribed
        · refine says_framesOf (fun p m hp hm parsed hparsed => ?_) frame hframe
          obtain ⟨parsed', hm', hheader⟩ := hL.update _ _ p m hp hm
          cases hm'.symm.trans hparsed
          rw [hheader, (hP.publish t _ u hupdate).2]
          exact ⟨rfl, hsubscribed⟩
        · cases hframe
      · cases hcause
        rw [if_pos hsubscribed] at hworld
        exact (congrArg _ hworld).trans (List.drop_left)
  · refine .single (r := (e.session, e.exterior)) (.of_eq ?_) ?_ (hfollows ?_)
    · unfold publish
      rw [if_neg ht]
    · simp [if_neg ht]
    · simp [if_neg ht, Cause.subscription]

/-- What an action of the application on the registries or the session hands over is warranted by
any cause: it sends no update. -/
private theorem hands_warranted (hL : FaithfulProtocol L) {e : Endpoint H.recorded}
    (h : Follows before e.session) (a : Action H.recorded) (ha : a.IsLocal)
    (hpublish : ∀ t, a ≠ .publish t) (cause : Cause L) :
    Hands (recordedLedger H) (Warranted before cause) e.exterior (e.step a).exterior :=
  hands_local _ hL h.resting (fun _ _ hm => by cases hm) ha fun t hat => absurd hat (hpublish t)

private theorem chronicle_initializeWith (hL : FaithfulProtocol L) {e : Endpoint H.recorded}
    (h : Follows before e.session) (config : SocketStateSessionConfig L)
    (handler : Option H.recorded.SendHandler) (observed : Bool) :
    let a : Action H.recorded := .initializeWith config handler observed
    Chronicle before (e.session, e.exterior) ((e.step a).session, (e.step a).exterior)
      (e.entries a) := by
  intro a
  have hresting : (e.step a).session.Resting := resting_step e _ h.resting
  cases hinitialized : e.session.initialized with
  | true =>
    have hsame : e.step a = e := by
      have heq : e.session.initializeWith config handler observed e.exterior =
          (true, e.session, e.exterior) := if_pos hinitialized
      rw [step, perform, heq]
    unfold entries
    dsimp only [a]
    rw [if_pos hinitialized, hsame]
    exact .single (r := (e.session, e.exterior)) (.of_eq rfl) nofun (h.idle fun _ => rfl)
  | false =>
    have hfree := (h.resting.off hinitialized).1
    have heq := initializeWith_eq hinitialized hfree config handler observed e.exterior
    have hsubscribers : (e.step a).session.subscribers = e.session.subscribers := by
      change (e.session.initializeWith config handler observed e.exterior).2.1.subscribers = _
      rw [heq]
      split_ifs <;> rfl
    unfold entries
    dsimp only [a]
    rw [if_neg (by simp [hinitialized])]
    refine .single (r := (e.session, e.exterior)) (hands_warranted hL h a trivial nofun _) nofun
      ⟨hresting, fun d t => ?_, fun _ t => ?_⟩
    · rw [hsubscribers, h.subscribers, h.unbound hfree, peerSubscribed_append]
      simp [Cause.subscription]
    · rw [peerSubscribed_append]
      rfl

private theorem chronicle_feed (hL : FaithfulProtocol L) (hP : LawfulPublisher L)
    (hS : SubscriberSet L) {e : Endpoint H.recorded} (h : Follows before e.session)
    (data : Bytes) :
    let a : Action H.recorded := .feed data
    Chronicle before (e.session, e.exterior) ((e.step a).session, (e.step a).exterior)
      (e.entries a) := by
  intro a
  unfold entries
  dsimp only [a]
  cases hinitialized : e.session.initialized with
  | false =>
    have hsame : e.step a = e := by
      have heq : e.session.feed data e.exterior = (false, e.session, e.exterior) :=
        if_pos (by simp [hinitialized])
      rw [step, perform, heq]
    rw [if_neg Bool.false_ne_true, hsame]
    exact .nil h
  | true =>
    rw [if_pos rfl]
    have hheard := chronicle_heard hL hP hS (e.session.decoder.payloads data) e.exterior true h
      hinitialized
    rw [← SocketStateFrameDecoder.push_payloads] at hheard
    have heq : ((e.step a).session, (e.step a).exterior) =
        ({ (e.session.decoder.push takeMessage data (true, e.session, e.exterior)).2.2.2.1 with
            decoder := (e.session.decoder.push takeMessage data (true, e.session, e.exterior)).2.1 },
          (e.session.decoder.push takeMessage data (true, e.session, e.exterior)).2.2.2.2) := by
      change (e.session.feed data e.exterior).2 = _
      unfold SocketStateSession.feed
      rw [if_neg (by simp [hinitialized])]
    rw [heq]
    exact ⟨hheard.regular, ⟨⟨hheard.follows.resting.off, hheard.follows.resting.on⟩,
      hheard.follows.subscribers, hheard.follows.unbound⟩, hheard.handed⟩

theorem chronicle_step (hL : FaithfulProtocol L) (hP : LawfulPublisher L) (hS : SubscriberSet L)
    {e : Endpoint H.recorded} (h : Follows before e.session) (a : Action H.recorded) :
    Chronicle before (e.session, e.exterior) ((e.step a).session, (e.step a).exterior)
      (e.entries a) := by
  -- a new handler is not seen by what the log says of the session
  have hhandler : Follows (before ++ [⟨.other, e.session.config.maximumProtocolMessageBytes,
      newly e.exterior e.exterior⟩]) e.session := h.idle fun _ => rfl
  have hlocal := hands_warranted hL h a
  cases a with
  | initializeWith config handler observed =>
    exact chronicle_initializeWith hL h config handler observed
  | shutdown =>
    have hresting : (e.step .shutdown).session.Resting := resting_step e _ h.resting
    refine .single (r := (e.session, e.exterior)) (hlocal trivial nofun _) nofun
      ⟨hresting, fun d t => ?_, fun _ t => ?_⟩
    · rw [peerSubscribed_append]
      exact iff_of_false (h.shutdown_none hS e.exterior d t) fun hd => absurd hd.2.2 nofun
    · rw [peerSubscribed_append]
      rfl
  | feed data => exact chronicle_feed hL hP hS h data
  | publish t => exact chronicle_publish hL hP h t
  | subscribe d =>
    refine .single (r := (e.session, e.exterior)) (hlocal trivial nofun _) nofun ?_
    change Follows _ (e.subscribe d).session
    rw [subscribe_session]
    exact h.idle fun _ => rfl
  | unsubscribe d =>
    refine .single (r := (e.session, e.exterior)) (hlocal trivial nofun _) nofun ?_
    change Follows _ (e.unsubscribe d).session
    rw [unsubscribe_session]
    exact h.idle fun _ => rfl
  | requestResynchronization t =>
    exact .single (r := (e.session, e.exterior)) (hlocal trivial nofun _) nofun
      (h.idle fun _ => rfl)
  | setPeerBoundHandler handler =>
    exact .single (r := (e.session, e.exterior)) (hlocal trivial nofun _) nofun
      ⟨⟨hhandler.resting.off, hhandler.resting.on⟩, hhandler.subscribers, hhandler.unbound⟩
  | setAcknowledgementHandler handler =>
    exact .single (r := (e.session, e.exterior)) (hlocal trivial nofun _) nofun
      ⟨⟨hhandler.resting.off, hhandler.resting.on⟩, hhandler.subscribers, hhandler.unbound⟩
  | change store =>
    exact .single (r := (e.session, e.exterior)) (hlocal trivial nofun _) nofun
      (h.idle fun _ => rfl)

theorem chronicle_run (hL : FaithfulProtocol L) (hP : LawfulPublisher L) (hS : SubscriberSet L)
    (actions : List (Action H.recorded)) {e : Endpoint H.recorded} (h : Follows before e.session) :
    Chronicle before (e.session, e.exterior)
      ((run step e actions).session, (run step e actions).exterior) (history e actions) := by
  induction actions generalizing before e with
  | nil => exact .nil h
  | cons a actions ih =>
    have hfirst := chronicle_step hL hP hS h a
    exact hfirst.append (ih hfirst.follows)

/-- In every run the frames handed to the send handler are those of the history; an update is among
them only for a publication of its type while the peer is subscribed to it, for an accepted
subscription to it, or for an accepted resynchronization of it, or of all types, while the peer is
subscribed to it; and each publication of a type to which the peer is subscribed is handed over as
one frame, if its encoding fits into one. -/
theorem publications_follow (hL : FaithfulProtocol L) (hP : LawfulPublisher L)
    (hS : SubscriberSet L) (x : Exterior H.recorded) (actions : List (Action H.recorded)) :
    let log := history { exterior := x } actions
    (run step { exterior := x } actions).exterior.world.2 =
        x.world.2 ++ log.flatMap Entry.handed ∧
      Throughout (fun before e _ =>
        (∀ frame ∈ e.handed, ∀ parsed, messageOf L frame = some (.update parsed) →
          Warrants parsed.header.typeId before e.cause) ∧
        ∀ t u, e.cause = .published t u → peerSubscribed t before = true →
          e.handed = framesOf e.maximum (L.encodeUpdate u e.maximum.val)) log := by
  intro log
  have hstart : Follows [] ({} : SocketStateSession H.recorded) := by
    refine ⟨⟨fun _ => ⟨rfl, rfl, rfl⟩, fun hon => absurd hon Bool.false_ne_true⟩, fun d t => ?_,
      fun _ _ => rfl⟩
    rw [hS.empty]
    exact iff_of_false Bool.false_ne_true fun hd => absurd hd.2.2 nofun
  have hrun := chronicle_run hL hP hS actions (e := { exterior := x }) hstart
  refine ⟨hrun.handed, hrun.regular.mono fun he => ⟨fun frame hframe parsed hparsed => ?_, he.served⟩⟩
  exact (he.warranted frame hframe).message hparsed parsed rfl

end Endpoint
end Sockets.State

namespace Sockets.State.Endpoint
open Foundation Sockets.Frame

section Table

attribute [local instance] SizeWidth.host

/-- Device 1 with a value, before anything has happened. -/
def publishing : Endpoint (peerHost tableLibrary).recorded where
  exterior := { store := plainStore 1 (some 7), world := (([] : List Bytes), []) }

/-- Device 2 subscribes, and the value is published. -/
def served : List (Action (peerHost tableLibrary).recorded) :=
  [.initializeWith {} (some ()) true, .feed (encodeFrame stateMagic (preamble .subscribe 2 1)),
    .publish 1]

theorem publications_follow_served :
    (history publishing served).map (fun e => e.handed.length) = [0, 2, 1] ∧
      Throughout (fun before e _ => ∀ frame ∈ e.handed, ∀ parsed,
        messageOf tableLibrary frame = some (.update parsed) →
          Warrants parsed.header.typeId before e.cause) (history publishing served) := by
  refine ⟨by decide +kernel, ?_⟩
  have hlog := publications_follow (H := peerHost tableLibrary) faithfulProtocol_table
    lawfulPublisher_table subscriberSet_table publishing.exterior served
  exact hlog.2.mono fun he => he.1

end Table
end Sockets.State.Endpoint
