import Sockets.State.Farewell
import Sockets.State.Link

/-! A peer that has taken its leave, and is heard again. -/
namespace Sockets.State
open Foundation Sockets.Frame

variable {L : StateLibrary} {H : StateHost L} [SizeWidth]

/-- A peer that has left is disconnected, unless the session has been renewed since: then the peer,
if there is one again, is connected, and has been told of the subscriptions. -/
structure Watched (x₁ : Exterior H.recorded) (r : Situation H.recorded) (renewed : Bool) : Prop where
  origin : L.origin r.2.store.publisher ≠ L.zero
  handed : x₁.world.2 <+: r.2.world.2
  away : renewed = false → r.1.initialized = true ∧ r.1.remoteDevice ≠ L.zero ∧
    lastSaid r.1.remoteDevice r.2.log = some .disconnected
  back : renewed = true → r.1.remoteDevice ≠ L.zero →
    lastSaid r.1.remoteDevice r.2.log = some .connected ∧
      Announced r.1 r.2.store.subscriptions (newly x₁ r.2)

namespace Watched
open SocketStateSession
variable {x₁ x x' : Exterior H.recorded} {s s' : SocketStateSession H.recorded} {renewed : Bool}

omit [SizeWidth] in
theorem newly_append {frames : List Bytes} (h : x₁.world.2 <+: x.world.2)
    (hframes : x'.world.2 = x.world.2 ++ frames) : newly x₁ x' = newly x₁ x ++ frames := by
  obtain ⟨rest, hrest⟩ := h
  simp [newly, hframes, ← hrest]

/-- What changes neither the peer nor what was said of it; a new subscription is announced. -/
theorem told (h : Watched x₁ (s, x) renewed) (hremote : s'.remoteDevice = s.remoteDevice)
    (hconfig : s'.config = s.config) (hon : s'.initialized = s.initialized) (hlog : x'.log = x.log)
    (horigin : L.origin x'.store.publisher ≠ L.zero) {frames : List Bytes}
    (hframes : x'.world.2 = x.world.2 ++ frames)
    (hsubscriptions : s.remoteDevice ≠ L.zero → ∀ d ∈ L.descriptors x'.store.subscriptions,
      d ∈ L.descriptors x.store.subscriptions ∨
        (s.subscriptionApplies d.scope d.device = true → (true, d.typeId) ∈ words L frames)) :
    Watched x₁ (s', x') renewed := by
  refine ⟨horigin, ?_, fun hold => ?_, fun hnew hbound => ?_⟩
  · dsimp only
    rw [hframes]
    exact h.handed.trans (List.prefix_append _ _)
  · dsimp only
    rw [hremote, hon, hlog]
    exact h.away hold
  · dsimp only at hbound ⊢
    rw [hremote] at hbound ⊢
    rw [hlog]
    obtain ⟨hconnected, hannounced⟩ := h.back hnew hbound
    refine ⟨hconnected, fun d hd happlies => ?_⟩
    have hsame : s.subscriptionApplies d.scope d.device = true := by
      unfold subscriptionApplies at happlies ⊢
      rwa [hremote, hconfig] at happlies
    rw [newly_append h.handed hframes, words, List.filterMap_append]
    rcases hsubscriptions hbound d hd with hold | hannounce
    · exact List.mem_append_left _ (hannounced d hold hsame)
    · exact List.mem_append_right _ (hannounce hsame)

/-- What changes neither the peer nor what was said of it, and adds no subscription. -/
theorem still (h : Watched x₁ (s, x) renewed) (hremote : s'.remoteDevice = s.remoteDevice)
    (hconfig : s'.config = s.config) (hon : s'.initialized = s.initialized) (hlog : x'.log = x.log)
    (hsubscriptions : ∀ d ∈ L.descriptors x'.store.subscriptions,
      d ∈ L.descriptors x.store.subscriptions)
    (horigin : L.origin x'.store.publisher ≠ L.zero) (hgrown : x.world.2 <+: x'.world.2) :
    Watched x₁ (s', x') renewed := by
  obtain ⟨frames, hframes⟩ := hgrown
  exact h.told hremote hconfig hon hlog horigin hframes.symm fun _ d hd => .inl (hsubscriptions d hd)

/-- A session that is not initialised has no peer to speak of. -/
theorem off (hoff : s.initialized = false) (hs : s.Resting)
    (horigin : L.origin x.store.publisher ≠ L.zero) (hhanded : x₁.world.2 <+: x.world.2) :
    Watched x₁ (s, x) true :=
  ⟨horigin, hhanded, nofun, fun _ hbound => absurd (hs.off hoff).1 hbound⟩

theorem rested (h : Watched x₁ (s, x) renewed) (hs : s.Resting) :
    Watched x₁ (s, x) (!s.initialized || renewed) := by
  cases hinitialized : s.initialized with
  | true => exact h
  | false => exact off hinitialized hs h.origin h.handed

/-- The peer is told of every subscription when it is bound. -/
theorem bind (h : Watched x₁ (s, x) renewed) (hL : LawfulProtocol L) (hs : s.Able)
    (hon : s.initialized = true) {d : L.Device} (hfree : s.remoteDevice = L.zero)
    (hadmits : s.admits d = true) : Watched x₁ (s.bindPeer d x).2 true := by
  obtain ⟨hd, hexpected, -⟩ := of_decide_eq_true hadmits
  rw [bindPeer_free hd hfree hexpected]
  have hs' : Able { s with remoteDevice := d } := ⟨hs.attached, hs.handler, hs.control_le⟩
  have hstore : (s.met d x).store.subscriptions = x.store.subscriptions ∧
      (s.met d x).store.publisher = x.store.publisher := by
    rw [met_store, if_pos hs.attached]
    exact ⟨rfl, rfl⟩
  have hworld : (s.met d x).world.2 = x.world.2 := by
    unfold met
    dsimp only
    split <;> split_ifs <;> rfl
  have horigin : L.origin (s.met d x).store.publisher ≠ L.zero := by
    rw [hstore.2]
    exact h.origin
  obtain ⟨frames, hframes, hannounced⟩ := hs'.sendCurrentSubscriptions_handed hL hon horigin
  rw [hworld] at hframes
  refine ⟨?_, ?_, nofun, fun _ _ => ⟨?_, ?_⟩⟩
  · dsimp only
    rwa [sendCurrentSubscriptions_store]
  · dsimp only
    rw [hframes]
    exact h.handed.trans (List.prefix_append _ _)
  · dsimp only
    rw [sendCurrentSubscriptions_log, met_log hs.attached]
    exact lastSaid_bound d x.log
  · intro e he happlies
    dsimp only at he ⊢
    rw [sendCurrentSubscriptions_store] at he
    rw [newly_append h.handed hframes, words, List.filterMap_append]
    exact List.mem_append_right _ (hannounced e he happlies)

/-- A message to a session that knows its peer. -/
theorem message (h : Watched x₁ (s, x) renewed) (hs : s.Able) (hon : s.initialized = true)
    (hbound : s.remoteDevice ≠ L.zero) {m : Message L} (hkept : Kept (s, x) (s.handleMessage m x).2)
    (hgrown : x.world.2 <+: (s.handleMessage m x).2.2.world.2) :
    Watched x₁ (s.handleMessage m x).2 (renewed && !m.Leaves s) := by
  have horigin : L.origin (s.handleMessage m x).2.2.store.publisher ≠ L.zero := by
    rw [hkept.origin]
    exact h.origin
  cases hleaves : m.Leaves s with
  | true =>
    rw [Bool.not_true, Bool.and_false]
    exact ⟨horigin, h.handed.trans hgrown, fun _ => ⟨hkept.initialized.trans hon,
      handleMessage_left hs.attached hleaves⟩, nofun⟩
  | false =>
    have hremote := handleMessage_remoteDevice (x := x) hbound m
    have hlog := handleMessage_log (x := x) hs.attached hbound m
    rw [hleaves, if_neg Bool.false_ne_true, List.append_nil] at hlog
    rw [Bool.not_false, Bool.and_true]
    refine h.still hremote hkept.config hkept.initialized hlog (fun d hd => ?_) horigin hgrown
    rwa [hkept.subscriptions] at hd

/-- A message that leaves the session as it is. -/
theorem idle (h : Watched x₁ (s, x) renewed) {m : Message L}
    (hkept : Kept (s, x) (s.handleMessage m x).2)
    (hgrown : x.world.2 <+: (s.handleMessage m x).2.2.world.2)
    (hsame : (s.handleMessage m x).2.1 = s) (hlog : (s.handleMessage m x).2.2.log = x.log) (hstays : m.Leaves s = false) :
    Watched x₁ (s.handleMessage m x).2 (renewed && !m.Leaves s) := by
  have horigin : L.origin (s.handleMessage m x).2.2.store.publisher ≠ L.zero := by
    rw [hkept.origin]
    exact h.origin
  rw [hstays, Bool.not_false, Bool.and_true]
  refine h.still ?_ ?_ ?_ hlog (fun d hd => ?_) horigin hgrown
  · rw [hsame]
  · rw [hsame]
  · rw [hsame]
  · rwa [hkept.subscriptions] at hd

/-- What a payload makes of a session that is initialised. -/
theorem handled (h : Watched x₁ (s, x) renewed) (hL : LawfulProtocol L) (hP : LawfulPublisher L)
    (hs : s.Able) (hon : s.initialized = true) (payload : Bytes) :
    Watched x₁ (s.handleProtocolMessage payload x).2
      (renewed && !(parse L payload).any (Message.Leaves · s)) := by
  have hkept (s : SocketStateSession H.recorded) (x : Exterior H.recorded) :=
    handleProtocolMessage_kept hP payload s x
  have hgrown (s : SocketStateSession H.recorded) (x : Exterior H.recorded) :=
    handleProtocolMessage_preserves (preserves_handed x.world.2) payload s (x := x)
      (List.prefix_rfl)
  cases hparse : parse L payload with
  | none =>
    rw [handleProtocolMessage_none hparse]
    simpa using h
  | some m =>
    simp only [handleProtocolMessage_eq hparse] at hkept hgrown ⊢
    rw [Option.any_some]
    by_cases hbound : s.remoteDevice = L.zero
    · have hrenewed : renewed = true := by
        by_contra hold
        exact (h.away (by simpa using hold)).2.1 hbound
      cases hsender : m.sender with
      | none =>
        have hsame := handleMessage_session m s x
        rw [hsender] at hsame
        cases m with
        | acknowledgement a =>
          exact h.idle (hkept s x) (hgrown s x) hsame (handleAcknowledgement_log a) rfl
        | update parsed => cases hsender
        | control c => cases hsender
      | some d =>
        cases hadmits : s.admits d with
        | false =>
          have hrefused := handleMessage_refused (x := x) hsender hadmits
          refine h.idle (hkept s x) (hgrown s x) ?_ ?_ (leaves_refused hsender hadmits)
          · rw [hrefused]
          · rw [hrefused]
        | true =>
          obtain ⟨hd, -, -⟩ := of_decide_eq_true hadmits
          have hsession := (bindPeer_admitted hadmits x).2
          have hbind := h.bind hL hs hon hbound hadmits
          have hhandled : Watched x₁ ((s.bindPeer d x).2.1.handleMessage m (s.bindPeer d x).2.2).2
              (true && !m.Leaves (s.bindPeer d x).2.1) := by
            refine hbind.message ?_ ?_ ?_ (hkept _ _) (hgrown _ _) <;> rw [hsession]
            · exact ⟨hs.attached, hs.handler, hs.control_le⟩
            · exact hon
            · exact hd
          rw [← handleMessage_introduced hsender hadmits, hsession, leaves_bound hsender hadmits]
            at hhandled
          rwa [hrenewed]
    · exact h.message hs hon hbound (hkept s x) (hgrown s x)

end Watched

namespace Endpoint
open SocketStateSession
variable {H : StateHost L}

variable (H) in
/-- What happens to a session, one message after the other; `collect` is what the decoder keeps of
the bytes it is given. -/
inductive Occasion where
  | act (action : Action H) (isLocal : action.IsLocal)
  | hear (payload : Bytes)
  | collect (decoder : SocketStateFrameDecoder)

def hear (payload : Bytes) (e : Endpoint H) : Endpoint H :=
  if !e.session.initialized then e
  else
    let r := e.session.handleProtocolMessage payload e.exterior
    ⟨r.2.1, r.2.2⟩

def take (e : Endpoint H) : Occasion H → Endpoint H
  | .act action _ => e.step action
  | .hear payload => e.hear payload
  | .collect decoder => { e with session := { e.session with decoder } }

theorem hear_on {e : Endpoint H} (hon : e.session.initialized = true) (payload : Bytes) :
    e.hear payload = ⟨(e.session.handleProtocolMessage payload e.exterior).2.1,
      (e.session.handleProtocolMessage payload e.exterior).2.2⟩ :=
  if_neg (by simp [hon])

theorem hear_initialized (payload : Bytes) (e : Endpoint H) :
    (e.hear payload).session.initialized = e.session.initialized := by
  unfold hear
  split_ifs
  · rfl
  · exact handleProtocolMessage_keeps (Q := fun r => r.1.initialized = e.session.initialized)
      (fun m known r r' hdeed hr => by cases hdeed <;> exact hr) payload rfl

theorem run_hear (payloads : List Bytes) {e : Endpoint H} (hon : e.session.initialized = true)
    (answer : Bool) : run take e (payloads.map .hear) =
      ⟨(payloads.foldl (fun r payload => takeMessage payload r) (answer, e.session, e.exterior)).2.1,
        (payloads.foldl (fun r payload => takeMessage payload r)
          (answer, e.session, e.exterior)).2.2⟩ := by
  induction payloads generalizing e answer with
  | nil => rfl
  | cons payload payloads ih =>
    rw [List.map_cons, run_cons, take, ih ((hear_initialized payload e).trans hon)
      (answer && (e.session.handleProtocolMessage payload e.exterior).1), hear_on hon]
    rfl

/-- A `Feed` is the messages it completes. -/
theorem step_occasions (e : Endpoint H) (a : Action H) :
    ∃ occasions, run take e occasions = e.step a := by
  by_cases hlocal : a.IsLocal
  · exact ⟨[.act a hlocal], rfl⟩
  cases a with
  | feed data =>
    cases hinitialized : e.session.initialized with
    | false =>
      refine ⟨[], ?_⟩
      change e = ⟨(e.session.feed data e.exterior).2.1, (e.session.feed data e.exterior).2.2⟩
      unfold feed
      rw [if_pos (by simp [hinitialized])]
    | true =>
      let r := e.session.decoder.push takeMessage data (true, e.session, e.exterior)
      refine ⟨(e.session.decoder.payloads data).map .hear ++ [.collect r.2.1], ?_⟩
      change _ = Endpoint.mk (e.session.feed data e.exterior).2.1
        (e.session.feed data e.exterior).2.2
      unfold feed
      rw [if_neg (by simp [hinitialized]), run_append, run_hear _ hinitialized true,
        ← SocketStateFrameDecoder.push_payloads]
      rfl
  | _ => exact absurd trivial hlocal

theorem run_occasions (e : Endpoint H) (actions : List (Action H)) :
    ∃ occasions, run take e occasions = run step e actions := by
  induction actions generalizing e with
  | nil => exact ⟨[], rfl⟩
  | cons a actions ih =>
    obtain ⟨first, hfirst⟩ := step_occasions e a
    obtain ⟨rest, hrest⟩ := ih (e.step a)
    exact ⟨first ++ rest, by rw [run_append, hfirst, hrest, run_cons]⟩

/-- The peer takes its leave. -/
def Occasion.Leaves (e : Endpoint H) : Occasion H → Bool
  | .hear payload => e.session.initialized && (parse L payload).any (Message.Leaves · e.session)
  | .act _ _ | .collect _ => false

/-- Those who share the objects keep the device's identity, and subscribe where observers are told. -/
def Minds (e : Endpoint H) : Occasion H → Prop
  | .act (.change store) _ => L.origin store.publisher ≠ L.zero ∧
      ∀ d ∈ L.descriptors store.subscriptions, d ∈ L.descriptors e.exterior.store.subscriptions
  | _ => True

/-- The session was down at some moment, and nobody has left since. -/
def Renewed (e : Endpoint H) (later : List (Occasion H)) : Prop :=
  ∃ before since, later = before ++ since ∧ (run take e before).session.initialized = false ∧
    Meets take (fun e o => o.Leaves e = false) (run take e before) since

theorem renewed_nil {e : Endpoint H} (hon : e.session.initialized = true) : ¬ Renewed e [] := by
  rintro ⟨before, since, hsplit, hoff, -⟩
  obtain ⟨rfl, -⟩ := List.append_eq_nil_iff.mp hsplit.symm
  exact absurd (hon.symm.trans hoff) (by decide)

theorem renewed_append_singleton {e : Endpoint H} {later : List (Occasion H)} {o : Occasion H} :
    Renewed e (later ++ [o]) ↔ (run take e (later ++ [o])).session.initialized = false ∨
      Renewed e later ∧ o.Leaves (run take e later) = false := by
  constructor
  · rintro ⟨before, since, hsplit, hoff, hstays⟩
    induction since using List.reverseRecOn with
    | nil =>
      rw [List.append_nil] at hsplit
      rw [hsplit]
      exact .inl hoff
    | append_singleton since o' _ =>
      rw [← List.append_assoc] at hsplit
      obtain ⟨rfl, ho⟩ := List.append_inj' hsplit rfl
      cases ho
      obtain ⟨hsince, hlast, -⟩ := meets_append.mp hstays
      rw [← run_append] at hlast
      exact .inr ⟨⟨before, since, rfl, hoff, hsince⟩, hlast⟩
  · rintro (hoff | ⟨⟨before, since, rfl, hoff, hstays⟩, hlast⟩)
    · exact ⟨later ++ [o], [], (List.append_nil _).symm, hoff, trivial⟩
    · rw [run_append] at hlast
      exact ⟨before, since ++ [o], List.append_assoc _ _ _, hoff,
        meets_append.mpr ⟨hstays, hlast, trivial⟩⟩

theorem notify_log {f : SocketStateSession H → Exterior H → Exterior H} (e : Endpoint H)
    (hf : ∀ s x, (f s x).log = x.log) : (e.notify f).exterior.log = e.exterior.log := by
  unfold notify
  split_ifs
  · rfl
  · exact hf _ _

theorem publish_log (t : StateTypeId) (e : Endpoint H) :
    (e.publish t).exterior.log = e.exterior.log := by
  unfold publish
  split_ifs
  · dsimp only
    split
    · rfl
    · exact notify_log _ fun s x => onTypedStatePublished_log _ _ s x
  · rfl

theorem subscribe_log (d : Descriptor L.Device) (e : Endpoint H) :
    (e.subscribe d).exterior.log = e.exterior.log := by
  unfold subscribe
  dsimp only
  split_ifs
  · exact notify_log _ fun s x => onStateSubscribed_log d s x
  · rfl

theorem unsubscribe_log (d : Descriptor L.Device) (e : Endpoint H) :
    (e.unsubscribe d).exterior.log = e.exterior.log := by
  unfold unsubscribe
  dsimp only
  split_ifs
  · exact notify_log _ fun s x => onStateUnsubscribed_log d s x
  · rfl

theorem publish_origin (hP : LawfulPublisher L) (t : StateTypeId) (e : Endpoint H) :
    L.origin (e.publish t).exterior.store.publisher = L.origin e.exterior.store.publisher := by
  unfold publish
  split_ifs
  · dsimp only
    split
    · exact hP.origin_publish t _
    · rw [notify_store _ fun s x => onTypedStatePublished_store _ _ s x]
      exact hP.origin_publish t _
  · rfl

theorem ready_act {e : Endpoint H} (h : e.session.Ready) (a : Action H) (ha : a.IsLocal) :
    (e.step a).session.Ready := by
  have hsame {s : SocketStateSession H} (hs : s = e.session) (hon : s.initialized = true) :
      L.controlSize ≤ s.config.maximumProtocolMessageBytes.val := by
    rw [hs] at hon ⊢
    exact h.control_le hon
  refine ⟨resting_step e a h.toResting, fun hon => ?_⟩
  cases a with
  | initializeWith config handler observed =>
    change (e.session.initializeWith config handler observed e.exterior).2.1.initialized = true at hon
    change L.controlSize ≤ (e.session.initializeWith config handler observed
      e.exterior).2.1.config.maximumProtocolMessageBytes.val
    cases hinitialized : e.session.initialized with
    | true =>
      rw [SocketStateSession.initializeWith, if_pos hinitialized]
      exact h.control_le hinitialized
    | false =>
      rw [initializeWith_eq hinitialized (h.off hinitialized).1] at hon ⊢
      split_ifs at hon ⊢ with hrefused hobserved
      · exact absurd (hinitialized.symm.trans hon) (by decide)
      · exact absurd (hinitialized.symm.trans hon) (by decide)
      · change L.controlSize ≤ config.maximumProtocolMessageBytes.val
        by_contra hsmall
        simp [not_le.mp hsmall] at hrefused
  | shutdown => exact absurd ((h.shutdown e.exterior).1.symm.trans hon) (by decide)
  | feed data => exact ha.elim
  | publish t => exact hsame (publish_session t e) hon
  | subscribe d => exact hsame (subscribe_session d e) hon
  | unsubscribe d => exact hsame (unsubscribe_session d e) hon
  | _ => exact h.control_le hon

theorem ready_take (hP : LawfulPublisher L) {e : Endpoint H} (h : e.session.Ready)
    (o : Occasion H) : (e.take o).session.Ready := by
  cases o with
  | act a ha => exact ready_act h a ha
  | hear payload =>
    change (e.hear payload).session.Ready
    unfold hear
    split_ifs with hoff
    · exact h
    · exact h.kept (handleProtocolMessage_kept hP payload _ _) (by simpa using hoff)
  | collect decoder => exact ⟨⟨h.off, h.on⟩, h.control_le⟩

theorem ready_run (hP : LawfulPublisher L) {e : Endpoint H} (h : e.session.Ready)
    (occasions : List (Occasion H)) : (run take e occasions).session.Ready :=
  run_induction (P := fun e : Endpoint H => e.session.Ready) (fun _ o h => ready_take hP h o) h
    occasions

theorem ready_start (x : Exterior H) : ({ exterior := x } : Endpoint H).session.Ready :=
  ⟨⟨fun _ => ⟨rfl, rfl, rfl⟩, fun hon => absurd hon Bool.false_ne_true⟩,
    fun hon => absurd hon Bool.false_ne_true⟩

end Endpoint

theorem SocketStateSession.shutdown_publisher {s : SocketStateSession H} (hs : s.Resting)
    (x : Exterior H) : (s.shutdown x).2.store.publisher = x.store.publisher := by
  cases hinitialized : s.initialized with
  | false => rw [shutdown_off hs hinitialized]
  | true =>
    rw [shutdown_on hinitialized (hs.on hinitialized).1]
    unfold closing
    dsimp only
    split_ifs
    · rfl
    · change (s.sendControl .disconnect 0 x).2.store.publisher = _
      rw [sendControl_store]
    · rfl

namespace Watched
open SocketStateSession Endpoint
variable {x₁ : Exterior H.recorded} {e : Endpoint H.recorded} {renewed : Bool}

/-- A session that has just been opened has told a peer that it expects. -/
theorem opening {s : SocketStateSession H.recorded} {x : Exterior H.recorded}
    (horigin : L.origin x.store.publisher ≠ L.zero) (hhanded : x₁.world.2 <+: x.world.2)
    (hL : LawfulProtocol L) (hs : s.Able) (hon : s.initialized = true)
    (hremote : s.remoteDevice = s.config.expectedRemoteDevice) :
    Watched x₁ (s, s.opening x) true := by
  have hgrown (y : Exterior H.recorded) : y.world.2 <+: (s.sendCurrentSubscriptions y).world.2 :=
    sendCurrentSubscriptions_preserves (preserves_handed y.world.2).toSustains s List.prefix_rfl
  have hagain {y : Exterior H.recorded} (hy : Watched x₁ (s, y) true) :
      Watched x₁ (s, s.sendCurrentSubscriptions y) true := by
    have hstore := sendCurrentSubscriptions_store s y
    refine hy.still rfl rfl rfl (sendCurrentSubscriptions_log s y) (fun d hd => ?_) ?_ (hgrown y)
    · rwa [hstore] at hd
    · rw [hstore]
      exact hy.origin
  unfold SocketStateSession.opening
  split_ifs with hfree
  · exact hagain ⟨horigin, hhanded, nofun, fun _ hbound => absurd hfree hbound⟩
  · have hbefore : Watched x₁ ({ s with remoteDevice := L.zero }, x) true :=
      ⟨horigin, hhanded, nofun, fun _ hbound => absurd rfl hbound⟩
    have hadmits : admits s.remoteDevice { s with remoteDevice := L.zero } = true :=
      decide_eq_true ⟨hfree, .inr hremote, .inl rfl⟩
    have hbind := hbefore.bind hL ⟨hs.attached, hs.handler, hs.control_le⟩ hon rfl hadmits
    rw [bindPeer_free (s := { s with remoteDevice := L.zero }) hfree rfl (.inr hremote)] at hbind
    exact hagain hbind

theorem initializeWith (h : Watched x₁ (e.session, e.exterior) renewed) (hL : LawfulProtocol L)
    (hready : e.session.Ready) (config : SocketStateSessionConfig L)
    (handler : Option H.recorded.SendHandler) (observed : Bool)
    (hgrown : e.exterior.world.2 <+:
      (e.session.initializeWith config handler observed e.exterior).2.2.world.2) :
    let r := (e.session.initializeWith config handler observed e.exterior).2
    Watched x₁ r (!r.1.initialized || renewed) := by
  have hhanded := h.handed.trans hgrown
  have hafter : (e.session.initializeWith config handler observed e.exterior).2.1.Ready :=
    ready_act hready (.initializeWith config handler observed) trivial
  dsimp only
  cases hinitialized : e.session.initialized with
  | true =>
    rw [SocketStateSession.initializeWith, if_pos hinitialized]
    exact h.rested hready.toResting
  | false =>
    have hrenewed : renewed = true := by
      by_contra hold
      have hon := (h.away (by simpa using hold)).1
      exact absurd (hon.symm.trans hinitialized) (by decide)
    rw [hrenewed, Bool.or_true]
    rw [initializeWith_eq hinitialized (hready.off hinitialized).1] at hhanded hafter ⊢
    split_ifs at hhanded hafter ⊢
    · exact off hinitialized hafter.toResting h.origin hhanded
    · exact off hinitialized hafter.toResting h.origin hhanded
    · exact opening h.origin h.handed hL (hafter.able rfl) rfl rfl

theorem shutdown (h : Watched x₁ (e.session, e.exterior) renewed) (hresting : e.session.Resting)
    (hgrown : e.exterior.world.2 <+: (e.session.shutdown e.exterior).2.world.2) :
    Watched x₁ (e.session.shutdown e.exterior) true := by
  have horigin : L.origin (e.session.shutdown e.exterior).2.store.publisher ≠ L.zero := by
    rw [shutdown_publisher hresting]
    exact h.origin
  obtain ⟨hoff, hrests⟩ := hresting.shutdown e.exterior
  exact off hoff hrests horigin (h.handed.trans hgrown)

theorem subscribe (h : Watched x₁ (e.session, e.exterior) renewed) (hL : LawfulProtocol L)
    (hS : LawfulSubscriptions L) (hready : e.session.Ready) (d : Descriptor L.Device) :
    Watched x₁ (e.session, (e.subscribe d).exterior) renewed := by
  have hstore := subscribe_store d e
  have horigin : L.origin (e.subscribe d).exterior.store.publisher ≠ L.zero := by
    rw [hstore]
    exact h.origin
  obtain ⟨frames, hframes⟩ : e.exterior.world.2 <+: (e.subscribe d).exterior.world.2 :=
    sustains_local (a := .subscribe d) (preserves_handed e.exterior.world.2).toSustains trivial
      List.prefix_rfl
  refine h.told rfl rfl rfl (subscribe_log d e) horigin hframes.symm fun hbound d' hd' => ?_
  rw [hstore] at hd'
  cases hadded : (L.subscribe d e.exterior.store.subscriptions).1 with
  | false => exact .inl ((hS.subscribe_refused d _ hadded d').mp hd')
  | true =>
    rcases (hS.subscribe d _ hadded d').mp hd' with rfl | hold
    · refine .inr fun happlies => ?_
      have hon : e.session.initialized = true := by
        by_contra hoff
        exact hbound (hready.off (by simpa using hoff)).1
      let added := (e.setSubscriptions (L.subscribe d' e.exterior.store.subscriptions).2).exterior
      obtain ⟨frame, hframe, hword⟩ :=
        (hready.able hon).sendControl_handed hL d'.typeId (x := added) h.origin
      have hsent : (e.subscribe d').exterior.world.2 = e.exterior.world.2 ++ [frame] := by
        refine Eq.trans ?_ hframe
        unfold Endpoint.subscribe notify onStateSubscribed
        dsimp only
        rw [if_pos hadded, if_neg (by simp [setSubscriptions, (hready.on hon).2.1]),
          if_neg (by simp [setSubscriptions, hon, happlies])]
        rfl
      obtain rfl : frames = [frame] := List.append_cancel_left (hframes.trans hsent)
      simp [words, hword]
    · exact .inl hold

theorem publish (h : Watched x₁ (e.session, e.exterior) renewed) (hP : LawfulPublisher L)
    (t : StateTypeId) (hgrown : e.exterior.world.2 <+: (e.publish t).exterior.world.2) :
    Watched x₁ (e.session, (e.publish t).exterior) renewed := by
  obtain ⟨q, hstore⟩ := publish_store t e
  refine h.still rfl rfl rfl (publish_log t e) (fun d hd => ?_) ?_ hgrown
  · rwa [hstore] at hd
  · rw [publish_origin hP]
    exact h.origin

theorem unsubscribe (h : Watched x₁ (e.session, e.exterior) renewed) (hS : LawfulSubscriptions L)
    (d : Descriptor L.Device)
    (hgrown : e.exterior.world.2 <+: (e.unsubscribe d).exterior.world.2) :
    Watched x₁ (e.session, (e.unsubscribe d).exterior) renewed := by
  have hstore := unsubscribe_store d e
  refine h.still rfl rfl rfl (unsubscribe_log d e) (fun d' hd' => ?_) ?_ hgrown
  · rw [hstore] at hd'
    cases hremoved : (L.unsubscribe d e.exterior.store.subscriptions).1 with
    | false => exact (hS.unsubscribe_refused d _ hremoved d').mp hd'
    | true => exact (((hS.unsubscribe d _ hremoved).2 d').mp hd').2
  · rw [hstore]
    exact h.origin

theorem requestResynchronization (h : Watched x₁ (e.session, e.exterior) renewed) (t : StateTypeId)
    (hgrown : e.exterior.world.2 <+:
      (e.session.requestResynchronization t e.exterior).2.world.2) :
    Watched x₁ (e.session, (e.session.requestResynchronization t e.exterior).2) renewed := by
  have hsame : (e.session.requestResynchronization t e.exterior).2.log = e.exterior.log ∧
      (e.session.requestResynchronization t e.exterior).2.store = e.exterior.store := by
    unfold SocketStateSession.requestResynchronization
    split_ifs
    · exact ⟨rfl, rfl⟩
    · exact ⟨sendControl_log _ _ _ _, sendControl_store _ _ _ _⟩
  refine h.still rfl rfl rfl hsame.1 (fun d hd => ?_) ?_ hgrown
  · rwa [hsame.2] at hd
  · rw [hsame.2]
    exact h.origin

/-- What goes on at the session's own end. -/
theorem act (h : Watched x₁ (e.session, e.exterior) renewed) (hL : LawfulProtocol L)
    (hP : LawfulPublisher L) (hS : LawfulSubscriptions L) (hready : e.session.Ready)
    {a : Action H.recorded} (ha : a.IsLocal) (hminds : Minds e (.act a ha)) :
    Watched x₁ ((e.step a).session, (e.step a).exterior)
      (!(e.step a).session.initialized || renewed) := by
  have hgrown : e.exterior.world.2 <+: (e.step a).exterior.world.2 :=
    sustains_local (preserves_handed e.exterior.world.2).toSustains ha List.prefix_rfl
  have hrests := (ready_act hready a ha).toResting
  have hsame {e' : Endpoint H.recorded} (hsession : e'.session = e.session)
      (hrests : e'.session.Resting) (hafter : Watched x₁ (e.session, e'.exterior) renewed) :
      Watched x₁ (e'.session, e'.exterior) (!e'.session.initialized || renewed) := by
    refine rested ?_ hrests
    rwa [hsession]
  cases a with
  | initializeWith config handler observed =>
    exact h.initializeWith hL hready config handler observed hgrown
  | shutdown =>
    change Watched x₁ (e.session.shutdown e.exterior)
      (!(e.session.shutdown e.exterior).1.initialized || renewed)
    rw [(hready.shutdown e.exterior).1]
    exact h.shutdown hready.toResting hgrown
  | feed data => exact ha.elim
  | publish t => exact hsame (publish_session t e) hrests (h.publish hP t hgrown)
  | subscribe d => exact hsame (subscribe_session d e) hrests (h.subscribe hL hS hready d)
  | unsubscribe d => exact hsame (unsubscribe_session d e) hrests (h.unsubscribe hS d hgrown)
  | requestResynchronization t => exact hsame rfl hrests (h.requestResynchronization t hgrown)
  | setPeerBoundHandler handler =>
    refine rested ?_ hrests
    exact h.still rfl rfl rfl rfl (fun _ hd => hd) h.origin hgrown
  | setAcknowledgementHandler handler =>
    refine rested ?_ hrests
    exact h.still rfl rfl rfl rfl (fun _ hd => hd) h.origin hgrown
  | change store =>
    exact hsame rfl hrests (h.still rfl rfl rfl rfl hminds.2 hminds.1 hgrown)

theorem farewell (hP : LawfulPublisher L) (hready : e.session.Ready)
    (horigin : L.origin e.exterior.store.publisher ≠ L.zero) {payload : Bytes}
    (hleaves : (Occasion.hear payload).Leaves e = true) :
    Watched (e.hear payload).exterior ((e.hear payload).session, (e.hear payload).exterior)
      false := by
  rw [Occasion.Leaves, Bool.and_eq_true] at hleaves
  obtain ⟨hon, hany⟩ := hleaves
  cases hparse : parse L payload with
  | none => simp [hparse] at hany
  | some m =>
    rw [hparse, Option.any_some] at hany
    have hhear := hear_on hon payload
    have hkept := handleProtocolMessage_kept hP payload e.session e.exterior
    rw [handleProtocolMessage_eq hparse] at hhear hkept
    rw [hhear]
    refine ⟨?_, List.prefix_rfl, fun _ => ⟨hkept.initialized.trans hon,
      handleMessage_left (hready.able hon).attached hany⟩, nofun⟩
    rw [hkept.origin]
    exact horigin

/-- What goes on at either end. -/
theorem occasion (h : Watched x₁ (e.session, e.exterior) renewed) (hL : LawfulProtocol L)
    (hP : LawfulPublisher L) (hS : LawfulSubscriptions L) (hready : e.session.Ready)
    (o : Occasion H.recorded) (hminds : Minds e o) :
    Watched x₁ ((e.take o).session, (e.take o).exterior)
      (!(e.take o).session.initialized || renewed && !o.Leaves e) := by
  have hrests := (ready_take hP hready o).toResting
  cases o with
  | act a ha =>
    have hact := h.act hL hP hS hready ha hminds
    rwa [Occasion.Leaves, Bool.not_false, Bool.and_true]
  | hear payload =>
    refine rested ?_ hrests
    cases hinitialized : e.session.initialized with
    | false =>
      have hidle : e.hear payload = e := if_pos (by simp [hinitialized])
      rw [take, hidle]
      simpa [Occasion.Leaves, hinitialized] using h
    | true =>
      rw [take, hear_on hinitialized, Occasion.Leaves, hinitialized, Bool.true_and]
      exact h.handled hL hP (hready.able hinitialized) hinitialized payload
  | collect decoder =>
    refine rested ?_ hrests
    rw [Occasion.Leaves, Bool.not_false, Bool.and_true]
    exact h.still rfl rfl rfl rfl (fun _ hd => hd) h.origin List.prefix_rfl

theorem occasions (h : Watched x₁ (e.session, e.exterior) false) (hL : LawfulProtocol L)
    (hP : LawfulPublisher L) (hS : LawfulSubscriptions L) (hready : e.session.Ready)
    (later : List (Occasion H.recorded)) (hmeets : Meets take Minds e later) :
    ∃ renewed, (renewed = true ↔ Renewed e later) ∧
      Watched x₁ ((run take e later).session, (run take e later).exterior) renewed := by
  induction later using List.reverseRecOn with
  | nil => exact ⟨false, iff_of_false Bool.false_ne_true (renewed_nil (h.away rfl).1), h⟩
  | append_singleton later o ih =>
    obtain ⟨hbefore, hminds, -⟩ := meets_append.mp hmeets
    obtain ⟨renewed, hiff, hwatched⟩ := ih hbefore
    have hready' := ready_run hP hready later
    refine ⟨_, ?_, by simpa [run_append] using hwatched.occasion hL hP hS hready' o hminds⟩
    rw [renewed_append_singleton, ← hiff, run_append]
    simp

end Watched

namespace Endpoint
open SocketStateSession

/-- A message that is not a leave-taking, of this device and accepted. -/
def Accepts (e : Endpoint H) (payload : Bytes) (d : L.Device) : Prop :=
  e.session.initialized = true ∧ (e.session.handleProtocolMessage payload e.exterior).1 = true ∧
    ∃ m, parse L payload = some m ∧ m.sender = some d ∧ ∀ c, m = .control c → c.type ≠ .disconnect

/-- Whose message is accepted is the peer. -/
theorem Accepts.peer {e : Endpoint H} {payload : Bytes} {d : L.Device} (h : e.Accepts payload d) :
    (e.hear payload).session.remoteDevice = d ∧ d ≠ L.zero := by
  obtain ⟨hon, haccepted, m, hparse, hsender, -⟩ := h
  have hhear := hear_on hon payload
  rw [handleProtocolMessage_eq hparse] at haccepted hhear
  cases hadmits : e.session.admits d with
  | false =>
    rw [handleMessage_refused hsender hadmits] at haccepted
    exact absurd haccepted Bool.false_ne_true
  | true =>
    rw [hhear, handleMessage_session, hsender]
    dsimp only
    rw [if_pos hadmits]
    exact ⟨rfl, (of_decide_eq_true hadmits).1⟩

theorem Accepts.stays {e : Endpoint H} {payload : Bytes} {d : L.Device} (h : e.Accepts payload d) :
    (Occasion.hear payload).Leaves e = false := by
  obtain ⟨-, -, m, hparse, hsender, hstays⟩ := h
  cases m with
  | control c => simp [Occasion.Leaves, hparse, Message.Leaves, hstays c rfl]
  | update parsed => simp [Occasion.Leaves, hparse, Message.Leaves]
  | acknowledgement a => cases hsender

/-- The device counts as connected, and has been told of the subscriptions since. -/
def Reattached (d : L.Device) (e₁ e₂ : Endpoint H.recorded) : Prop :=
  lastSaid d e₂.exterior.log = some .connected ∧
    Announced e₂.session e₂.exterior.store.subscriptions (newly e₁.exterior e₂.exterior)

/-- A peer that has left is attached again by its next message if and only if the session itself
has been down since the peer last left. -/
theorem reattached_iff (hL : LawfulProtocol L) (hP : LawfulPublisher L) (hS : LawfulSubscriptions L)
    (x : Exterior H.recorded) (before later : List (Occasion H.recorded)) (farewell payload : Bytes)
    (d : L.Device) :
    let e₀ := run take { exterior := x } before
    let e₁ := e₀.hear farewell
    let e₂ := run take e₁ later
    L.origin e₀.exterior.store.publisher ≠ L.zero → (Occasion.hear farewell).Leaves e₀ = true →
      Meets take Minds e₁ later → e₂.Accepts payload d →
        (Reattached d e₁ (e₂.hear payload) ↔ Renewed e₁ later) := by
  intro e₀ e₁ e₂ horigin hleaves hmeets haccepts
  have hready : e₀.session.Ready := ready_run hP (ready_start x) before
  have hready₁ : e₁.session.Ready := ready_take hP hready (.hear farewell)
  have hready₂ : e₂.session.Ready := ready_run hP hready₁ later
  obtain ⟨renewed, hiff, hwatched⟩ :=
    (Watched.farewell hP hready horigin hleaves).occasions hL hP hS hready₁ later hmeets
  obtain ⟨hpeer, hd⟩ := haccepts.peer
  have hon : (e₂.hear payload).session.initialized = true :=
    (hear_initialized payload e₂).trans haccepts.1
  have hwatched₃ := hwatched.occasion hL hP hS hready₂ (.hear payload) trivial
  change Watched e₁.exterior ((e₂.hear payload).session, (e₂.hear payload).exterior)
    (!(e₂.hear payload).session.initialized || renewed && !(Occasion.hear payload).Leaves e₂)
    at hwatched₃
  rw [hon, haccepts.stays, Bool.not_false, Bool.and_true, Bool.not_true, Bool.false_or] at hwatched₃
  rw [← hiff]
  cases renewed with
  | false =>
    obtain ⟨-, -, hgone⟩ := hwatched₃.away rfl
    refine iff_of_false (fun h => ?_) Bool.false_ne_true
    have hback := h.1
    rw [← hpeer] at hback
    exact absurd (hgone.symm.trans hback) (by decide)
  | true =>
    obtain ⟨hconnected, hannounced⟩ := hwatched₃.back rfl (hpeer ▸ hd)
    rw [hpeer] at hconnected
    exact iff_of_true ⟨hconnected, hannounced⟩ rfl

end Endpoint
end Sockets.State

namespace Sockets.State.Endpoint
open Foundation

section Table

attribute [local instance] SizeWidth.host

/-- A device that follows the type of the contract. -/
def followerExterior : Exterior (peerHost tableLibrary).recorded where
  store := { plainStore 1 none with subscriptions := [⟨1, .anyDevice, (0 : UInt8)⟩] }
  world := (([] : List Bytes), ([] : List Bytes))

def initializing : Occasion (peerHost tableLibrary).recorded :=
  .act (.initializeWith {} (some ()) true) trivial

def request : Bytes := preamble .subscribe 2 1

def farewell : Bytes := preamble .disconnect 2 0

/-- Device 2 has asked for the type, and has left. -/
def deserted : Endpoint (peerHost tableLibrary).recorded :=
  hear farewell (run take { exterior := followerExterior } [initializing, .hear request])

def renewing : List (Occasion (peerHost tableLibrary).recorded) :=
  [.act .shutdown trivial, initializing]

/-- The session is shut down and initialised again before device 2 asks once more. -/
theorem reattached_renewed :
    Reattached (2 : UInt8) deserted ((run take deserted renewing).hear request) := by
  have hrenewed : Renewed deserted renewing :=
    ⟨[.act .shutdown trivial], [initializing], rfl, by decide +kernel, rfl, trivial⟩
  have haccepts : (run take deserted renewing).Accepts request (2 : UInt8) :=
    ⟨by decide +kernel, by decide +kernel, .control ⟨.subscribe, (2 : UInt8), 1⟩, rfl, rfl,
      fun c hc => by cases hc; decide⟩
  exact (reattached_iff lawfulProtocol_table lawfulPublisher_table lawfulSubscriptions_table
    followerExterior [initializing, .hear request] renewing farewell request (2 : UInt8)
    (by decide +kernel) (by decide +kernel) ⟨trivial, trivial, trivial⟩ haccepts).mpr hrenewed

/-- Device 2 asks again on the same connection: it is served, but counts as disconnected, and is not
told of the subscription again. -/
theorem not_reattached :
    (Occasion.hear farewell).Leaves
        (run take { exterior := followerExterior } [initializing, .hear request]) = true ∧
      deserted.Accepts request (2 : UInt8) ∧
      lastSaid (2 : UInt8) (deserted.hear request).exterior.log = some .disconnected ∧
      ¬ Announced (deserted.hear request).session
        (deserted.hear request).exterior.store.subscriptions (newly deserted.exterior (deserted.hear request).exterior) ∧
      ¬ Reattached (2 : UInt8) deserted (deserted.hear request) := by
  have hgone : lastSaid (2 : UInt8) (deserted.hear request).exterior.log = some .disconnected := by
    decide +kernel
  refine ⟨by decide +kernel, ⟨by decide +kernel, by decide +kernel,
    .control ⟨.subscribe, (2 : UInt8), 1⟩, rfl, rfl, fun c hc => by cases hc; decide⟩, hgone, ?_, ?_⟩
  · intro hannounced
    have hword := hannounced ⟨1, .anyDevice, (0 : UInt8)⟩ (by decide +kernel) (by decide +kernel)
    exact absurd hword (by decide +kernel)
  · rintro ⟨hback, -⟩
    rw [hgone] at hback
    cases hback

end Table
end Sockets.State.Endpoint
