import Sockets.Foundation.Reentrant
import Sockets.State.Deeds
import Sockets.State.Laws

/-! A State session whose handlers call it again. -/
namespace Sockets.State
open Foundation Sockets.Frame

variable {L : StateLibrary} (H : StateHost L)

/-- The handlers a session calls. -/
inductive StateQuery where
  | send (handler : H.SendHandler) (frame : Bytes)
  | peerBound (handler : H.PeerBoundHandler) (device : L.Device)
  | acknowledged (handler : H.AcknowledgementHandler)
      (acknowledgement : StateAcknowledgement L.Device)

@[reducible] def StateQuery.Answer : StateQuery H → Type
  | .send _ _ => Bool
  | .peerBound _ _ | .acknowledged _ _ => Unit

/-- What can be called: the members of the session, and others change the store. -/
inductive StateEntry [SizeWidth] where
  | initializeWith (config : SocketStateSessionConfig L) (handler : Option H.SendHandler)
      (observed : Bool)
  | shutdown
  | feed (data : Bytes)
  | setPeerBoundHandler (handler : Option H.PeerBoundHandler)
  | setAcknowledgementHandler (handler : Option H.AcknowledgementHandler)
  | requestResynchronization (typeId : StateTypeId)
  | published (typeId : StateTypeId) (update : StateUpdate L.Device L.Value)
  | subscribed (d : Descriptor L.Device)
  | unsubscribed (d : Descriptor L.Device)
  | change (store : Store L)

/-- Where `Feed` goes on: in the loop of `Push`, and in the handling of an update or of a control
message behind `BindPeerLocked`. -/
inductive StateLabel (L : StateLibrary) where
  | push (accepted : Bool)
  | update (parsed : ParsedUpdate L.Device) (accepted : Bool)
  | control (control : ControlMessage L.Device) (accepted : Bool)

/-- A session and the store it was given. `changes` says of everything the session changed through
its remote manager whether it held the manager, and `closed` are the subscribers that the last
`Shutdown` left. -/
structure StateState [SizeWidth] where
  session : SocketStateSession H
  store : Store L
  changes : List Bool := []
  closed : L.Subscribers := L.noSubscribers

variable [SizeWidth]

abbrev StateCode (R : Type) := Code (StateState H) (StateQuery H) (StateQuery.Answer H) R

variable {H}

namespace StateState

def setAvailability (value : RemoteDeviceAvailability) (s : StateState H) : StateState H :=
  { s with store := { s.store with
             remote := L.setAvailability s.session.remoteDevice value s.store.remote }
           changes := s.changes ++ [s.session.attached] }

@[simp] theorem setAvailability_session (value : RemoteDeviceAvailability) (s : StateState H) :
    (s.setAvailability value).session = s.session := rfl

/-- A control message changes the subscribers, or leaves them as they are. -/
def hear (control : ControlMessage L.Device) (s : StateState H) : StateState H :=
  { s with session := { s.session with
      subscribers := SocketStateSession.subscribersAfter s.session.remoteDevice (.control control)
        s.session.subscribers } }

/-- The end of `ShutdownLocked`. -/
def close (s : StateState H) : StateState H :=
  { s with session := { s.session with
             registered := false, decoder := s.session.decoder.reset, sendHandler := none
             peerBoundHandler := none, acknowledgementHandler := none, remoteDevice := L.zero
             attached := false, initialized := false }
           closed := s.session.subscribers }

end StateState

def sendProtocolPayloadCode (payload : Bytes) : StateCode H Bool := do
  let s ← Code.get
  match s.session.sendHandler with
  | none => pure false
  | some handler =>
    let maximum := s.session.config.maximumProtocolMessageBytes
    if payload = [] ∨ maximum.val < payload.length then pure false
    else
      let frame := buildSocketStateFrame payload maximum
      if frame = [] then pure false else Code.ask (StateQuery.send handler frame)

def sendEncodedCode : Option Bytes → StateCode H Bool
  | none => pure false
  | some payload => sendProtocolPayloadCode payload

def sendControlCode (type : MessageType) (typeId : StateTypeId) : StateCode H Bool := do
  let s ← Code.get
  if !s.session.attached then pure false
  else sendEncodedCode (L.encodeControl ⟨type, L.origin s.store.publisher, typeId⟩)

def sendAcknowledgementCode (header : StateUpdateHeader L.Device) : StateCode H Bool :=
  sendEncodedCode (L.encodeAcknowledgement
    ⟨header.origin, header.typeId, header.epoch, header.revision⟩)

def sendUpdateCode (update : StateUpdate L.Device L.Value) : StateCode H Bool := do
  let s ← Code.get
  sendEncodedCode (L.encodeUpdate update s.session.config.maximumProtocolMessageBytes.val)

def sendSnapshotByTypeCode (typeId : StateTypeId) : StateCode H Bool := do
  if typeId ∈ L.definitions then
    let s ← Code.get
    if !s.session.attached then pure false
    else
      let r := L.snapshot typeId s.store.publisher
      Code.set { s with store := { s.store with publisher := r.2 } }
      match r.1 with
      | none => pure false
      | some update => sendUpdateCode update
  else pure false

def announceCode (d : Descriptor L.Device) : StateCode H PUnit := do
  let s ← Code.get
  if s.session.subscriptionApplies d.scope d.device then
    let _ ← sendControlCode .subscribe d.typeId
    pure ⟨⟩
  else pure ⟨⟩

def sendCurrentSubscriptionsCode : StateCode H PUnit := do
  let s ← Code.get
  if !s.session.attached || !s.session.initialized then pure ⟨⟩
  else Code.each announceCode (L.descriptors s.store.subscriptions)

def notifyBoundCode (device : L.Device) : StateCode H PUnit := do
  let s ← Code.get
  match s.session.peerBoundHandler with
  | none => pure ⟨⟩
  | some handler => Code.ask (StateQuery.peerBound handler device) >>= fun _ => pure ⟨⟩

def bindPeerCode (device : L.Device) : StateCode H Bool := do
  let s ← Code.get
  let expected := s.session.config.expectedRemoteDevice
  if device = L.zero then pure false
  else if expected ≠ L.zero ∧ device ≠ expected then pure false
  else if s.session.remoteDevice ≠ L.zero then pure (decide (s.session.remoteDevice = device))
  else
    let bound : StateState H := { s with session := { s.session with remoteDevice := device } }
    Code.set (if bound.session.attached then bound.setAvailability .connected else bound)
    notifyBoundCode device
    sendCurrentSubscriptionsCode
    pure true

/-- The notification in `ShutdownLocked`. -/
def sendDisconnectCode (notifyRemote : Bool) : StateCode H PUnit := do
  let s ← Code.get
  if notifyRemote && s.session.initialized && s.session.config.sendDisconnectOnShutdown &&
      decide (s.session.remoteDevice ≠ L.zero) then
    let _ ← sendControlCode .disconnect 0
    pure ⟨⟩
  else pure ⟨⟩

def shutdownLockedCode (notifyRemote : Bool) : StateCode H PUnit := do
  let s ← Code.get
  if !s.session.initialized && !s.session.attached then pure ⟨⟩
  else
    sendDisconnectCode notifyRemote
    Code.modify fun s =>
      if s.session.attached && decide (s.session.remoteDevice ≠ L.zero) then
        s.setAvailability .disconnected
      else s
    Code.modify fun s =>
      if s.session.remoteDevice = L.zero then s
      else { s with session := { s.session with
               subscribers := L.removeDevice s.session.remoteDevice s.session.subscribers } }
    Code.modify StateState.close

def initializeCode (config : SocketStateSessionConfig L) (handler : Option H.SendHandler)
    (observed : Bool) : StateCode H Bool := do
  let s ← Code.get
  let session := s.session
  if session.initialized then pure true
  else if handler.isNone || decide (config.maximumProtocolMessageBytes.val < L.controlSize) then
    pure false
  else
    let decoder :=
      (session.decoder.setMaximumPayloadBytes config.maximumProtocolMessageBytes).reset
    if !observed then
      Code.set { s with session := { session with config, decoder, sendHandler := none
                                                  attached := false, registered := false } }
      pure false
    else
      Code.set { s with session := { session with
        config, decoder, sendHandler := handler, attached := true, registered := true
        initialized := true } }
      if config.expectedRemoteDevice ≠ L.zero then
        let bound : Bool ← bindPeerCode config.expectedRemoteDevice
        if !bound then
          shutdownLockedCode false
          pure false
        else
          sendCurrentSubscriptionsCode
          pure true
      else
        sendCurrentSubscriptionsCode
        pure true

/-- `ApplyIncomingLocked`, through a remote manager that must not be null. -/
def applyIncomingCode (parsed : ParsedUpdate L.Device) : StateCode H Bool := do
  if parsed.header.typeId ∈ L.definitions then
    match L.decodeValue parsed.header.typeId parsed with
    | none => pure false
    | some value =>
      let s ← Code.get
      if !s.session.attached then Code.fault
      else if SocketStateSession.exactDuplicate parsed.header s.store.remote then pure true
      else
        let r := L.apply parsed.header.typeId parsed.header.origin parsed.header.epoch
          parsed.header.revision value s.store.remote
        Code.set { s with store := { s.store with remote := r.2 }
                          changes := s.changes ++ [s.session.attached] }
        pure r.1
  else pure false

/-- An update behind `BindPeerLocked`: the subscriptions must not be null. -/
def handleUpdateCode (parsed : ParsedUpdate L.Device) : StateCode H Bool := do
  let s ← Code.get
  if !s.session.attached then Code.fault
  else if !L.isSubscribed s.session.remoteDevice parsed.header.typeId s.store.subscriptions then
    pure false
  else
    let applied : Bool ← applyIncomingCode parsed
    if !applied then pure false else sendAcknowledgementCode parsed.header

def handleAcknowledgementCode (acknowledgement : StateAcknowledgement L.Device) :
    StateCode H Bool := do
  let s ← Code.get
  if !s.session.attached || decide (acknowledgement.origin ≠ L.origin s.store.publisher) then
    pure false
  else
    match s.session.acknowledgementHandler with
    | none => pure true
    | some handler =>
      Code.ask (StateQuery.acknowledged handler acknowledgement) >>= fun _ => pure true

/-- A control message behind `BindPeerLocked`. -/
def handleControlCode (control : ControlMessage L.Device) : StateCode H Bool := do
  let s ← Code.get
  Code.set (s.hear control)
  match control.type with
  | .subscribe =>
    if !(L.addSubscriber s.session.remoteDevice control.typeId s.session.subscribers).1 then
      pure false
    else
      let _ ← sendSnapshotByTypeCode control.typeId
      sendControlCode .subscribeAcknowledgement control.typeId
  | .unsubscribe => sendControlCode .unsubscribeAcknowledgement control.typeId
  | .resynchronize =>
    if control.typeId ≠ 0 then
      if L.hasSubscriber s.session.remoteDevice control.typeId s.session.subscribers then
        sendSnapshotByTypeCode control.typeId
      else pure true
    else
      Code.each (fun typeId => sendSnapshotByTypeCode typeId >>= fun _ => pure ⟨⟩)
        (L.subscribedTypes s.session.remoteDevice s.session.subscribers)
      pure true
  | .disconnect =>
    Code.modify fun s => if s.session.attached then s.setAvailability .disconnected else s
    pure true
  | .subscribeAcknowledgement | .unsubscribeAcknowledgement => pure true
  | .update | .acknowledgement | .other _ => pure false

/-- `HandleProtocolMessageLocked` up to `BindPeerLocked`, or to its end. -/
def handleProtocolMessageCode (payload : Bytes) (accepted : Bool) :
    StateCode H (Exit (StateLabel L) Bool) :=
  match L.getMessageType payload with
  | none => pure (.goto (.push false))
  | some .update =>
    match L.decodeUpdate payload with
    | none => pure (.goto (.push false))
    | some parsed => do
      let bound : Bool ← bindPeerCode parsed.header.origin
      pure (.goto (if !bound then .push false else .update parsed accepted))
  | some .acknowledgement =>
    match L.decodeAcknowledgement payload with
    | none => pure (.goto (.push false))
    | some acknowledgement => do
      let handled : Bool ← handleAcknowledgementCode acknowledgement
      pure (.goto (.push (accepted && handled)))
  | some _ =>
    match L.decodeControl payload with
    | none => pure (.goto (.push false))
    | some control => do
      let bound : Bool ← bindPeerCode control.device
      pure (.goto (if !bound then .push false else .control control accepted))

/-- One turn of the loop of `Push`, which erases a frame before it is handled. -/
def pushLoop (accepted : Bool) : StateCode H (Exit (StateLabel L) Bool) := do
  let s ← Code.get
  let decoder := s.session.decoder
  match cutFrame stateMagic decoder.maximumPayloadBytes.val decoder.buffer with
  | .more => pure (.ret accepted)
  | .fail _ =>
    Code.set { s with session := { s.session with decoder := decoder.reset } }
    pure (.ret false)
  | .frame payload rest =>
    Code.set { s with session := { s.session with decoder := { decoder with buffer := rest } } }
    handleProtocolMessageCode payload accepted

/-- `Feed` up to the loop of `Push`. -/
def feedCode (data : Bytes) : StateCode H (Exit (StateLabel L) Bool) := do
  let s ← Code.get
  let decoder := s.session.decoder
  if !s.session.initialized then pure (.ret false)
  else if data = [] then pure (.ret true)
  else if !SocketStateFrameDecoder.fits decoder.maximumPayloadBytes decoder.buffer.length
      data.length then
    Code.set { s with session := { s.session with decoder := decoder.reset } }
    pure (.ret false)
  else
    Code.set { s with session := { s.session with
      decoder := { decoder with buffer := decoder.buffer ++ data } } }
    pure (.goto (.push true))

/-- A notification or a request that is sent if the session wants it to be. -/
def sendIfCode (wanted : StateState H → Bool) (send : StateCode H Bool) : StateCode H Bool := do
  let s ← Code.get
  if wanted s then send else pure false

/-- A member that runs to its end. -/
def wholeCode {R : Type} (code : StateCode H R) (answer : R → Bool) :
    StateCode H (Exit (StateLabel L) Bool) := code >>= fun r => pure (.ret (answer r))

variable (H) in
def sessionProgram : Program (StateState H) (StateQuery H) (StateQuery.Answer H) (StateLabel L)
    Bool (StateEntry H) where
  entry
    | .initializeWith config handler observed => wholeCode (initializeCode config handler observed) id
    | .shutdown => wholeCode (shutdownLockedCode true) fun _ => true
    | .feed data => feedCode data
    | .setPeerBoundHandler handler => wholeCode
        (Code.modify fun s => { s with session := s.session.setPeerBoundHandler handler })
        fun _ => true
    | .setAcknowledgementHandler handler => wholeCode
        (Code.modify fun s => { s with session := s.session.setAcknowledgementHandler handler })
        fun _ => true
    | .requestResynchronization typeId => wholeCode
        (sendIfCode (fun s => s.session.initialized) (sendControlCode .resynchronize typeId)) id
    | .published typeId update => wholeCode
        (sendIfCode (fun s => s.session.initialized && decide (s.session.remoteDevice ≠ L.zero) &&
          L.hasSubscriber s.session.remoteDevice typeId s.session.subscribers)
          (sendUpdateCode update)) id
    | .subscribed d => wholeCode
        (sendIfCode (fun s => s.session.initialized &&
          s.session.subscriptionApplies d.scope d.device) (sendControlCode .subscribe d.typeId)) id
    | .unsubscribed d => wholeCode
        (sendIfCode (fun s => s.session.initialized &&
          s.session.subscriptionApplies d.scope d.device)
          (sendControlCode .unsubscribe d.typeId)) id
    | .change store => wholeCode (Code.modify fun s => { s with store }) fun _ => true
  body
    | .push accepted => pushLoop accepted
    | .update parsed accepted => do
      let handled : Bool ← handleUpdateCode parsed
      pure (.goto (.push (accepted && handled)))
    | .control control accepted => do
      let handled : Bool ← handleControlCode control
      pure (.goto (.push (accepted && handled)))

namespace StateState

/-- Nothing was changed while the session was shut down. -/
structure Unmoved (s : StateState H) : Prop where
  changes : ∀ held ∈ s.changes, held = true
  subscribers : s.session.attached = false → s.session.subscribers = s.closed

/-- Where control may be outside the session. -/
structure Coherent (s : StateState H) : Prop extends Unmoved s where
  attached : s.session.attached = s.session.initialized
  buffer : s.session.attached = false → s.session.decoder.buffer = []
  remoteDevice : s.session.attached = false → s.session.remoteDevice = L.zero

end StateState

/-- Behind `BindPeerLocked` the session holds its store, or a control message leaves the subscribers
as they are. -/
def StateLabel.Admitted (s : StateState H) : StateLabel L → Prop
  | .push _ => True
  | .update _ _ => s.session.attached = true
  | .control c _ => s.session.attached = true ∨
      (s.hear c).session.subscribers = s.session.subscribers

/-- A routine relies on nothing that its handlers may change. -/
def stateTerms : Discipline (StateState H) (StateLabel L) (StateEntry H) where
  permits _ _ := True
  admits l s := l.Admitted s
  always := StateState.Unmoved
  rest := StateState.Coherent
  rely _ _ := True
  loop _ _ s := s.Coherent

section Keeps
open Discipline
variable {s : StateState H}

/-- Code that can be run wherever control may be outside. -/
def Safe {R : Type} (c : StateCode H R) : Prop :=
  ∀ s : StateState H, s.Coherent → stateTerms.Keeps (fun _ => StateState.Coherent) c s

theorem Safe.bind {R R' : Type} {c : StateCode H R} {f : R → StateCode H R'} (h : Safe c)
    (hf : ∀ r, Safe (f r)) : Safe (c >>= f) :=
  fun s hs => ((h s hs).mono fun r s' hs' => hf r s' hs').bind

theorem safe_pure {R : Type} (r : R) : Safe (pure r : StateCode H R) := fun _ hs => hs

theorem safe_get {R : Type} {f : StateState H → StateCode H R}
    (h : ∀ s, s.Coherent → stateTerms.Keeps (fun _ => StateState.Coherent) (f s) s) :
    Safe (Code.get >>= f) := fun s hs => h s hs

theorem safe_ask (q : StateQuery H) : Safe (Code.ask q : StateCode H q.Answer) :=
  fun _ hs => ⟨hs, fun _ _ _ hrest => hrest⟩

theorem safe_sendProtocolPayload (payload : Bytes) :
    Safe (sendProtocolPayloadCode (H := H) payload) := by
  apply safe_get
  intro s hs
  cases s.session.sendHandler with
  | none => exact hs
  | some handler =>
    dsimp only
    split_ifs
    · exact hs
    · exact hs
    · exact safe_ask _ s hs

theorem safe_sendEncoded (payload : Option Bytes) : Safe (sendEncodedCode (H := H) payload) := by
  cases payload with
  | none => exact safe_pure false
  | some payload => exact safe_sendProtocolPayload payload

theorem safe_sendControl (type : MessageType) (typeId : StateTypeId) :
    Safe (sendControlCode (H := H) type typeId) := by
  apply safe_get
  intro s hs
  split_ifs
  · exact hs
  · exact safe_sendEncoded _ s hs

theorem safe_sendAcknowledgement (header : StateUpdateHeader L.Device) :
    Safe (sendAcknowledgementCode (H := H) header) := safe_sendEncoded _

theorem safe_sendUpdate (update : StateUpdate L.Device L.Value) :
    Safe (sendUpdateCode (H := H) update) :=
  safe_get fun s hs => safe_sendEncoded _ s hs

theorem safe_sendSnapshotByType (typeId : StateTypeId) :
    Safe (sendSnapshotByTypeCode (H := H) typeId) := by
  unfold sendSnapshotByTypeCode
  split_ifs
  · apply safe_get
    intro s hs
    split_ifs
    · exact hs
    · have hs' : StateState.Coherent
          { s with store := { s.store with publisher := (L.snapshot typeId s.store.publisher).2 } } :=
        { hs with }
      dsimp only
      rw [keeps_set]
      refine ⟨hs'.toUnmoved, ?_⟩
      cases (L.snapshot typeId s.store.publisher).1 with
      | none => exact hs'
      | some update => exact safe_sendUpdate update _ hs'
  · exact safe_pure false

theorem safe_announce (d : Descriptor L.Device) : Safe (announceCode (H := H) d) := by
  apply safe_get
  intro s hs
  split_ifs
  · exact (safe_sendControl _ _).bind (fun _ => safe_pure _) s hs
  · exact hs

theorem safe_sendCurrentSubscriptions : Safe (sendCurrentSubscriptionsCode (H := H)) := by
  apply safe_get
  intro s hs
  split_ifs
  · exact hs
  · exact Keeps.each (fun d s hs => safe_announce d s hs) _ hs

theorem safe_notifyBound (device : L.Device) : Safe (notifyBoundCode (H := H) device) := by
  apply safe_get
  intro s hs
  cases s.session.peerBoundHandler with
  | none => exact hs
  | some handler => exact (safe_ask _).bind (fun _ => safe_pure _) s hs

/-- A session that holds its store. -/
theorem coherent_of_attached (hchanges : ∀ held ∈ s.changes, held = true)
    (hattached : s.session.attached = true) (hinit : s.session.initialized = true) :
    s.Coherent := by
  have hheld : s.session.attached ≠ false := fun h => absurd (hattached.symm.trans h) (by decide)
  exact ⟨⟨hchanges, fun h => absurd h hheld⟩, hattached.trans hinit.symm, fun h => absurd h hheld,
    fun h => absurd h hheld⟩

/-- The remote manager is told of an availability by a session that holds it. -/
theorem coherent_setAvailability (hs : s.Coherent) (hattached : s.session.attached = true)
    (value : RemoteDeviceAvailability) : (s.setAvailability value).Coherent where
  changes := by
    intro held hmem
    rcases List.mem_append.mp hmem with hmem | hmem
    · exact hs.changes held hmem
    · exact (List.mem_singleton.mp hmem).trans hattached
  subscribers := hs.subscribers
  attached := hs.attached
  buffer := hs.buffer
  remoteDevice := hs.remoteDevice

/-- A peer is bound by a session that holds its store. -/
theorem bindPeer_keeps (hs : s.Coherent) (hattached : s.session.attached = true)
    (device : L.Device) :
    stateTerms.Keeps (fun _ => StateState.Coherent) (bindPeerCode device) s := by
  unfold bindPeerCode
  dsimp only
  rw [keeps_get]
  split_ifs
  · exact hs
  · exact hs
  · exact hs
  · have hbound : StateState.Coherent
        { s with session := { s.session with remoteDevice := device } } :=
      coherent_of_attached hs.changes hattached (hs.attached.symm.trans hattached)
    have hconnected := coherent_setAvailability hbound hattached .connected
    rw [keeps_set]
    refine ⟨hconnected.toUnmoved, ?_⟩
    exact (safe_notifyBound device).bind (fun _ => safe_sendCurrentSubscriptions.bind
      fun _ => safe_pure true) _ hconnected

theorem safe_sendDisconnect (notifyRemote : Bool) :
    Safe (sendDisconnectCode (H := H) notifyRemote) := by
  apply safe_get
  intro s hs
  split_ifs
  · exact (safe_sendControl _ _).bind (fun _ => safe_pure _) s hs
  · exact hs

/-- `ShutdownLocked` may find that its own notification has shut the session down. -/
theorem safe_shutdownLocked (notifyRemote : Bool) :
    Safe (shutdownLockedCode (H := H) notifyRemote) := by
  apply safe_get
  intro s hs
  split_ifs
  · exact hs
  · apply Keeps.bind
    refine (safe_sendDisconnect notifyRemote s hs).mono fun _ s hs => ?_
    have hleft : StateState.Coherent
        (if s.session.attached && decide (s.session.remoteDevice ≠ L.zero) then
          s.setAvailability .disconnected else s) := by
      split_ifs with hheld
      · exact coherent_setAvailability hs (Bool.and_eq_true_iff.mp hheld).1 _
      · exact hs
    rw [keeps_modify]
    refine ⟨hleft.toUnmoved, ?_⟩
    generalize (if s.session.attached && decide (s.session.remoteDevice ≠ L.zero) then
      s.setAvailability .disconnected else s) = s at hleft
    have hremoved : StateState.Coherent (if s.session.remoteDevice = L.zero then s
        else { s with session := { s.session with
                 subscribers := L.removeDevice s.session.remoteDevice s.session.subscribers } }) := by
      split_ifs with hzero
      · exact hleft
      · have hheld : s.session.attached ≠ false := fun h => hzero (hleft.remoteDevice h)
        exact { hleft with subscribers := fun h => absurd h hheld }
    rw [keeps_modify]
    refine ⟨hremoved.toUnmoved, ?_⟩
    generalize (if s.session.remoteDevice = L.zero then s else _) = s at hremoved
    have hclosed : s.close.Coherent :=
      { changes := hremoved.changes
        subscribers := fun _ => rfl
        attached := rfl
        buffer := fun _ => rfl
        remoteDevice := fun _ => rfl }
    exact ⟨hclosed.toUnmoved, hclosed⟩

theorem safe_opening (config : SocketStateSessionConfig L) (handler : Option H.SendHandler)
    (observed : Bool) : Safe (initializeCode config handler observed) := by
  apply safe_get
  intro s hs
  dsimp only
  split_ifs with hinit hrefused hobserved hexpected
  · exact hs
  · exact hs
  · rw [keeps_set]
    have hdetached : s.session.attached = false :=
      hs.attached.trans (Bool.eq_false_of_not_eq_true hinit)
    have hkept : s.session.subscribers = s.closed := hs.subscribers hdetached
    have hremote : s.session.remoteDevice = L.zero := hs.remoteDevice hdetached
    refine ⟨⟨hs.changes, fun _ => hkept⟩, ⟨hs.changes, fun _ => hkept⟩, ?_, fun _ => rfl,
      fun _ => hremote⟩
    exact (Bool.eq_false_of_not_eq_true hinit).symm
  all_goals
    have hfresh {session : SocketStateSession H} (hattached : session.attached = true)
        (hinit : session.initialized = true) : StateState.Coherent { s with session } :=
      coherent_of_attached hs.changes hattached hinit
    rw [keeps_set]
    refine ⟨(hfresh rfl rfl).toUnmoved, ?_⟩
  · apply Keeps.bind
    refine (bindPeer_keeps (hfresh rfl rfl) rfl _).mono fun bound s' hs' => ?_
    split_ifs
    · exact (safe_shutdownLocked false).bind (fun _ => safe_pure false) s' hs'
    · exact safe_sendCurrentSubscriptions.bind (fun _ => safe_pure true) s' hs'
  · exact safe_sendCurrentSubscriptions.bind (fun _ => safe_pure true) _ (hfresh rfl rfl)

theorem safe_handleAcknowledgement (acknowledgement : StateAcknowledgement L.Device) :
    Safe (handleAcknowledgementCode (H := H) acknowledgement) := by
  apply safe_get
  intro s hs
  split_ifs
  · exact hs
  · cases s.session.acknowledgementHandler with
    | none => exact hs
    | some handler => exact (safe_ask _).bind (fun _ => safe_pure true) s hs

theorem handleUpdate_keeps (hs : s.Coherent) (hattached : s.session.attached = true)
    (parsed : ParsedUpdate L.Device) :
    stateTerms.Keeps (fun _ => StateState.Coherent) (handleUpdateCode parsed) s := by
  have hnull : ¬ (!s.session.attached) = true := by
    simp [hattached]
  -- nothing is called between the test of the subscriptions and the use of the remote manager
  have happly : stateTerms.Keeps (fun _ => StateState.Coherent) (applyIncomingCode parsed) s := by
    unfold applyIncomingCode
    split_ifs
    · cases L.decodeValue parsed.header.typeId parsed with
      | none => exact hs
      | some value =>
        dsimp only
        rw [keeps_get, if_neg hnull]
        split_ifs
        · exact hs
        · have happlied : StateState.Coherent
              { s with store := { s.store with remote :=
                         (L.apply parsed.header.typeId parsed.header.origin parsed.header.epoch
                           parsed.header.revision value s.store.remote).2 }
                       changes := s.changes ++ [s.session.attached] } := by
            refine coherent_of_attached ?_ hattached (hs.attached.symm.trans hattached)
            intro held hmem
            rcases List.mem_append.mp hmem with hmem | hmem
            · exact hs.changes held hmem
            · exact (List.mem_singleton.mp hmem).trans hattached
          rw [keeps_set]
          exact ⟨happlied.toUnmoved, happlied⟩
    · exact hs
  unfold handleUpdateCode
  rw [keeps_get, if_neg hnull]
  split_ifs
  · exact hs
  · apply Keeps.bind
    refine happly.mono fun applied s' hs' => ?_
    split_ifs
    · exact hs'
    · exact safe_sendAcknowledgement _ s' hs'

/-- A control message finds the session with its store, or leaves the subscribers as they are. -/
theorem handleControl_keeps (hs : s.Coherent) {control : ControlMessage L.Device}
    (hok : s.session.attached = true ∨
      (s.hear control).session.subscribers = s.session.subscribers) :
    stateTerms.Keeps (fun _ => StateState.Coherent) (handleControlCode control) s := by
  have hs' : (s.hear control).Coherent := by
    rcases hok with hattached | hsame
    · exact coherent_of_attached hs.changes hattached (hs.attached.symm.trans hattached)
    · exact { hs with subscribers := fun hdetached => hsame.trans (hs.subscribers hdetached) }
  unfold handleControlCode
  rw [keeps_get, keeps_set]
  refine ⟨hs'.toUnmoved, ?_⟩
  generalize s.hear control = s' at hs'
  cases control.type with
  | subscribe =>
    dsimp only
    split_ifs
    · exact hs'
    · exact (safe_sendSnapshotByType _).bind (fun _ => safe_sendControl _ _) s' hs'
  | unsubscribe => exact safe_sendControl _ _ s' hs'
  | resynchronize =>
    dsimp only
    split_ifs
    · exact safe_sendSnapshotByType _ s' hs'
    · exact hs'
    · refine Keeps.bind ((Keeps.each (fun typeId s hs => ?_) _ hs').mono fun _ _ hs => hs)
      exact (safe_sendSnapshotByType typeId).bind (fun _ => safe_pure _) s hs
  | disconnect =>
    dsimp only
    rw [keeps_modify]
    have hleft : StateState.Coherent
        (if s'.session.attached then s'.setAvailability .disconnected else s') := by
      split_ifs with hheld
      · exact coherent_setAvailability hs' hheld _
      · exact hs'
    exact ⟨hleft.toUnmoved, hleft⟩
  | _ => exact hs'

theorem handleProtocolMessage_keeps {s₀ : StateState H} (hs : s.Coherent)
    (hattached : s.session.attached = true) (payload : Bytes) (accepted : Bool) :
    stateTerms.Keeps (stateTerms.Ends s₀) (handleProtocolMessageCode payload accepted) s := by
  unfold handleProtocolMessageCode
  split
  · exact hs
  · split
    · exact hs
    · refine Keeps.bind ((bindPeer_keeps hs hattached _).mono fun bound s' hs' => ?_)
      exact hs'
  · split
    · exact hs
    · refine Keeps.bind ((safe_handleAcknowledgement _ s hs).mono fun handled s' hs' => ?_)
      exact hs'
  · split
    · exact hs
    · refine Keeps.bind ((bindPeer_keeps hs hattached _).mono fun bound s' hs' => ?_)
      exact hs'

/-- After a `Shutdown` the loop of `Push` finds nothing more. -/
theorem pushLoop_keeps {s₀ : StateState H} (hs : s.Coherent) (accepted : Bool) :
    stateTerms.Keeps (stateTerms.Ends s₀) (pushLoop accepted) s := by
  have hdecoder (decoder : SocketStateFrameDecoder)
      (h : s.session.attached = false → decoder.buffer = []) :
      StateState.Coherent { s with session := { s.session with decoder } } :=
    { hs with buffer := h }
  unfold pushLoop
  dsimp only
  rw [keeps_get]
  cases hcut : cutFrame stateMagic s.session.decoder.maximumPayloadBytes.val
      s.session.decoder.buffer with
  | more => exact ⟨hs, trivial⟩
  | fail e =>
    have hreset := hdecoder s.session.decoder.reset fun _ => rfl
    exact ⟨hreset.toUnmoved, hreset, trivial⟩
  | frame payload rest =>
    have hattached : s.session.attached = true := by
      by_contra hdetached
      rw [hs.buffer (Bool.eq_false_of_not_eq_true hdetached)] at hcut
      cases hcut
    have htaken := hdecoder { s.session.decoder with buffer := rest }
      fun h => absurd (hattached.symm.trans h) (by decide)
    dsimp only
    rw [keeps_set]
    exact ⟨htaken.toUnmoved, handleProtocolMessage_keeps htaken hattached payload accepted⟩

theorem feedCode_keeps {s₀ : StateState H} (hs : s.Coherent) (data : Bytes) :
    stateTerms.Keeps (stateTerms.Ends s₀) (feedCode data) s := by
  unfold feedCode
  dsimp only
  rw [keeps_get]
  split_ifs with hinit
  · exact ⟨hs, trivial⟩
  · exact ⟨hs, trivial⟩
  all_goals
    have hinit : s.session.initialized = true := by simpa using hinit
    have hfed {decoder : SocketStateFrameDecoder} :
        StateState.Coherent { s with session := { s.session with decoder } } :=
      coherent_of_attached hs.changes (hs.attached.trans hinit) hinit
    rw [keeps_set]
  · exact ⟨hfed.toUnmoved, hfed, trivial⟩
  · exact ⟨hfed.toUnmoved, hfed⟩

theorem wholeCode_keeps {R : Type} {code : StateCode H R} (h : Safe code) (answer : R → Bool)
    {s₀ : StateState H} (hs : s.Coherent) :
    stateTerms.Keeps (stateTerms.Ends s₀) (wholeCode code answer) s :=
  Keeps.bind ((h s hs).mono fun _ _ hs' => ⟨hs', trivial⟩)

theorem safe_sendIf (wanted : StateState H → Bool) {send : StateCode H Bool} (h : Safe send) :
    Safe (sendIfCode wanted send) := by
  apply safe_get
  intro s hs
  split_ifs
  · exact h s hs
  · exact hs

theorem safe_modify {f : StateState H → StateState H} (h : ∀ s, s.Coherent → (f s).Coherent) :
    Safe (Code.modify f : StateCode H PUnit) := fun s hs => ⟨(h s hs).toUnmoved, h s hs⟩

end Keeps

variable (H) in
theorem session_sound : stateTerms.Sound (sessionProgram H) where
  refl _ := trivial
  trans _ _ := trivial
  entry e s _ hs := by
    cases e with
    | initializeWith config handler observed => exact wholeCode_keeps (safe_opening _ _ _) _ hs
    | shutdown => exact wholeCode_keeps (safe_shutdownLocked true) _ hs
    | feed data => exact feedCode_keeps hs data
    | setPeerBoundHandler handler =>
      refine wholeCode_keeps (safe_modify fun s hs => ?_) _ hs
      exact ⟨⟨hs.changes, hs.subscribers⟩, hs.attached, hs.buffer, hs.remoteDevice⟩
    | setAcknowledgementHandler handler =>
      refine wholeCode_keeps (safe_modify fun s hs => ?_) _ hs
      exact ⟨⟨hs.changes, hs.subscribers⟩, hs.attached, hs.buffer, hs.remoteDevice⟩
    | requestResynchronization typeId =>
      exact wholeCode_keeps (safe_sendIf _ (safe_sendControl _ _)) _ hs
    | published typeId update => exact wholeCode_keeps (safe_sendIf _ (safe_sendUpdate _)) _ hs
    | subscribed d => exact wholeCode_keeps (safe_sendIf _ (safe_sendControl _ _)) _ hs
    | unsubscribed d => exact wholeCode_keeps (safe_sendIf _ (safe_sendControl _ _)) _ hs
    | change store =>
      refine wholeCode_keeps (safe_modify fun s hs => ?_) _ hs
      exact ⟨⟨hs.changes, hs.subscribers⟩, hs.attached, hs.buffer, hs.remoteDevice⟩
  body l s₀ s hadmits hs := by
    cases l with
    | push accepted => exact pushLoop_keeps hs accepted
    | update parsed accepted =>
      exact Discipline.Keeps.bind ((handleUpdate_keeps hs hadmits parsed).mono fun _ _ hs' => hs')
    | control control accepted =>
      exact Discipline.Keeps.bind ((handleControl_keeps hs hadmits).mono fun _ _ hs' => hs')

section Returns

/-- What the host makes of the calls of a session. -/
def hostAnswer : (q : StateQuery H) → H.World → q.Answer × H.World
  | .send handler frame, w => H.send handler frame w
  | .peerBound handler device, w => ((), H.peerBound handler device w)
  | .acknowledged handler acknowledgement, w => ((), H.acknowledged handler acknowledgement w)

/-- Code that is not called again comes to this result, this session and this outside. -/
def Does {R : Type} (c : StateCode H R) (s : StateState H) (x : Exterior H) (r : R)
    (session : SocketStateSession H) (y : Exterior H) : Prop :=
  ∃ s', s'.session = session ∧ s'.store = y.store ∧
    c.eval hostAnswer s x.world = some (r, s', y.world)

section Does
variable {s : StateState H} {x y z : Exterior H} {session session' : SocketStateSession H}

theorem does_pure {R : Type} (hs : s.session = session) (h : s.store = x.store) (r : R) :
    Does (pure r : StateCode H R) s x r session x := ⟨s, hs, h, rfl⟩

theorem does_modify {g : StateState H → StateState H} (hs : (g s).session = session)
    (h : (g s).store = x.store) : Does (Code.modify g) s x ⟨⟩ session x := ⟨g s, hs, h, rfl⟩

theorem Does.bind {R R' : Type} {c : StateCode H R} {f : R → StateCode H R'} {r : R} {r' : R'}
    (h : Does c s x r session y)
    (hf : ∀ s' : StateState H, s'.session = session → s'.store = y.store →
      Does (f r) s' y r' session' z) : Does (c >>= f) s x r' session' z := by
  obtain ⟨s', hsession, hstore, heval⟩ := h
  obtain ⟨s'', hsession', hstore', heval'⟩ := hf s' hsession hstore
  refine ⟨s'', hsession', hstore', ?_⟩
  rw [Code.eval_bind, heval, Option.bind_some]
  exact heval'

theorem Does.get {R : Type} {f : StateState H → StateCode H R} {r : R}
    (h : Does (f s) s x r session y) : Does (Code.get >>= f) s x r session y := h

theorem Does.set {R : Type} {f : PUnit → StateCode H R} {r : R} {s' : StateState H}
    (hworld : z.world = x.world) (h : Does (f ⟨⟩) s' z r session y) :
    Does (Code.set s' >>= f) s x r session y := by
  obtain ⟨t, hsession, hstore, heval⟩ := h
  exact ⟨t, hsession, hstore, by rw [Code.eval_set, ← hworld, heval]⟩

theorem Does.modify {R : Type} {f : PUnit → StateCode H R} {r : R} {g : StateState H → StateState H}
    (hworld : z.world = x.world) (h : Does (f ⟨⟩) (g s) z r session y) :
    Does (Code.modify g >>= f) s x r session y := Does.get (Does.set hworld h)

theorem Does.each {α : Type*} {f : α → StateCode H PUnit} {step : Exterior H → α → Exterior H}
    (hf : ∀ (s' : StateState H) (x : Exterior H) (a : α), s'.session = session →
      s'.store = x.store → Does (f a) s' x ⟨⟩ session (step x a)) (as : List α)
    (hs : s.session = session) (h : s.store = x.store) :
    Does (Code.each f as) s x ⟨⟩ session (as.foldl step x) := by
  induction as generalizing s x with
  | nil => exact ⟨s, hs, h, rfl⟩
  | cons a as ih => exact (hf s x a hs h).bind fun s' hs' h' => ih hs' h'

theorem sendProtocolPayload_does (hs : s.session = session) (h : s.store = x.store)
    (payload : Bytes) :
    let r := session.sendProtocolPayload payload x
    Does (sendProtocolPayloadCode payload) s x r.1 session r.2 := by
  subst hs
  unfold sendProtocolPayloadCode SocketStateSession.sendProtocolPayload
  apply Does.get
  cases s.session.sendHandler with
  | none => exact does_pure rfl h false
  | some handler =>
    dsimp only
    split_ifs
    · exact does_pure rfl h false
    · exact does_pure rfl h false
    · exact ⟨s, rfl, h, rfl⟩

theorem sendEncoded_does (hs : s.session = session) (h : s.store = x.store)
    (payload : Option Bytes) :
    let r := session.sendEncoded payload x
    Does (sendEncodedCode payload) s x r.1 session r.2 := by
  cases payload with
  | none => exact does_pure hs h false
  | some payload => exact sendProtocolPayload_does hs h payload

theorem sendControl_does (hs : s.session = session) (h : s.store = x.store) (type : MessageType)
    (typeId : StateTypeId) :
    let r := session.sendControl type typeId x
    Does (sendControlCode type typeId) s x r.1 session r.2 := by
  subst hs
  unfold sendControlCode SocketStateSession.sendControl
  apply Does.get
  rw [← h]
  split_ifs
  · exact does_pure rfl h false
  · exact sendEncoded_does rfl h _

theorem sendAcknowledgement_does (hs : s.session = session) (h : s.store = x.store)
    (header : StateUpdateHeader L.Device) :
    let r := session.sendAcknowledgement header x
    Does (sendAcknowledgementCode header) s x r.1 session r.2 := sendEncoded_does hs h _

theorem sendUpdate_does (hs : s.session = session) (h : s.store = x.store)
    (update : StateUpdate L.Device L.Value) :
    let r := session.sendUpdate update x
    Does (sendUpdateCode update) s x r.1 session r.2 := by
  subst hs
  exact Does.get (sendEncoded_does rfl h _)

theorem sendSnapshotByType_does (hs : s.session = session) (h : s.store = x.store)
    (typeId : StateTypeId) :
    let r := session.sendSnapshotByType typeId x
    Does (sendSnapshotByTypeCode typeId) s x r.1 session r.2 := by
  subst hs
  unfold sendSnapshotByTypeCode SocketStateSession.sendSnapshotByType SocketStateSession.sendSnapshot
  by_cases hdefined : typeId ∈ L.definitions
  · rw [if_pos hdefined, if_pos hdefined]
    apply Does.get
    rw [← h]
    split_ifs
    · exact does_pure rfl h false
    · dsimp only
      set q := L.snapshot typeId s.store.publisher
      refine Does.set (z := { x with store := { s.store with publisher := q.2 } }) rfl ?_
      cases q.1 with
      | none => exact does_pure rfl rfl false
      | some update => exact sendUpdate_does rfl rfl update
  · rw [if_neg hdefined, if_neg hdefined]
    exact does_pure rfl h false

theorem announce_does (hs : s.session = session) (h : s.store = x.store) (d : Descriptor L.Device) :
    Does (announceCode d) s x ⟨⟩ session (session.announce x d) := by
  subst hs
  unfold announceCode SocketStateSession.announce
  apply Does.get
  split_ifs
  · refine (sendControl_does rfl h _ _).bind fun s' hs' h' => ?_
    exact does_pure hs' h' _
  · exact does_pure rfl h _

theorem sendCurrentSubscriptions_does (hs : s.session = session) (h : s.store = x.store) :
    Does sendCurrentSubscriptionsCode s x ⟨⟩ session (session.sendCurrentSubscriptions x) := by
  subst hs
  unfold sendCurrentSubscriptionsCode SocketStateSession.sendCurrentSubscriptions
  apply Does.get
  rw [← h]
  split_ifs
  · exact does_pure rfl h _
  · exact Does.each (fun s' x d hs' h' => announce_does hs' h' d) _ rfl h

theorem notifyBound_does (hs : s.session = session) (h : s.store = x.store) (device : L.Device) :
    Does (notifyBoundCode device) s x ⟨⟩ session (match session.peerBoundHandler with
      | none => x
      | some handler => { x with world := H.peerBound handler device x.world }) := by
  subst hs
  unfold notifyBoundCode
  apply Does.get
  cases s.session.peerBoundHandler with
  | none => exact does_pure rfl h _
  | some handler => exact ⟨s, rfl, h, rfl⟩

/-- The end of `BindPeerLocked`. -/
theorem greet_does (hs : s.session = session) (h : s.store = x.store) (device : L.Device) :
    Does (do
      notifyBoundCode device
      sendCurrentSubscriptionsCode
      pure true) s x true session (session.sendCurrentSubscriptions
        (match session.peerBoundHandler with
          | none => x
          | some handler => { x with world := H.peerBound handler device x.world })) := by
  refine (notifyBound_does hs h device).bind fun s' hs' h' => ?_
  refine (sendCurrentSubscriptions_does hs' h').bind fun s'' hs'' h'' => ?_
  exact does_pure hs'' h'' true

theorem setAvailability_store (h : s.store = x.store) (device : L.Device)
    (value : RemoteDeviceAvailability) :
    { s.store with remote := L.setAvailability device value s.store.remote } =
      (x.setAvailability device value).store := by
  rw [h]
  rfl

theorem bindPeer_does (hs : s.session = session) (h : s.store = x.store) (device : L.Device) :
    let r := session.bindPeer device x
    Does (bindPeerCode device) s x r.1 r.2.1 r.2.2 := by
  subst hs
  unfold bindPeerCode SocketStateSession.bindPeer
  apply Does.get
  dsimp only
  split_ifs
  · exact does_pure rfl h _
  · exact does_pure rfl h _
  · exact does_pure rfl h _
  · have hstore := setAvailability_store h device .connected
    exact Does.set (z := (x.record (.bound device)).setAvailability device .connected) rfl
      (greet_does rfl hstore device)
  · refine Does.set (z := x.record (.bound device)) rfl (greet_does rfl ?_ device)
    exact h

theorem applyIncoming_does (hs : s.session = session) (h : s.store = x.store)
    (hattached : session.attached = true) (parsed : ParsedUpdate L.Device) :
    let r := SocketStateSession.applyIncoming parsed x
    Does (applyIncomingCode parsed) s x r.1 session r.2 := by
  subst hs
  have hnull : ¬ (!s.session.attached) = true := by simp [hattached]
  unfold applyIncomingCode SocketStateSession.applyIncoming
  by_cases hdefined : parsed.header.typeId ∈ L.definitions
  · rw [if_pos hdefined, if_pos hdefined, ← h]
    cases L.decodeValue parsed.header.typeId parsed with
    | none => exact does_pure rfl h false
    | some value =>
      dsimp only
      apply Does.get
      rw [if_neg hnull]
      split_ifs
      · exact does_pure rfl h true
      · set r := L.apply parsed.header.typeId parsed.header.origin parsed.header.epoch
          parsed.header.revision value s.store.remote
        exact Does.set (z := { x with store := { s.store with remote := r.2 } }) rfl
          (does_pure rfl rfl r.1)
  · rw [if_neg hdefined, if_neg hdefined]
    exact does_pure rfl h false

theorem handleAcknowledgement_does (hs : s.session = session) (h : s.store = x.store)
    (acknowledgement : StateAcknowledgement L.Device) :
    let r := session.handleAcknowledgement acknowledgement x
    Does (handleAcknowledgementCode acknowledgement) s x r.1 r.2.1 r.2.2 := by
  subst hs
  have hpublisher : s.store.publisher = x.store.publisher := by rw [h]
  unfold handleAcknowledgementCode SocketStateSession.handleAcknowledgement
  apply Does.get
  rw [hpublisher]
  split_ifs
  · exact does_pure rfl h false
  · cases s.session.acknowledgementHandler with
    | none => exact does_pure rfl h true
    | some handler => exact ⟨s, rfl, h, rfl⟩

theorem handleControl_does (hs : s.session = session) (h : s.store = x.store)
    (control : ControlMessage L.Device) :
    let r := session.handleControl control x
    Does (handleControlCode control) s x r.1 r.2.1 r.2.2 := by
  subst hs
  unfold handleControlCode SocketStateSession.handleControl
  apply Does.get
  have hheard : (s.hear control).store = x.store := h
  have hsession : (s.hear control).session = { s.session with
      subscribers := SocketStateSession.subscribersAfter s.session.remoteDevice (.control control)
        s.session.subscribers } := rfl
  rw [SocketStateSession.subscribersAfter] at hsession
  refine Does.set (z := x) rfl ?_
  cases htype : control.type with
  | subscribe =>
    rw [htype] at hsession
    dsimp only
    split_ifs
    · exact does_pure hsession hheard false
    · refine (sendSnapshotByType_does hsession hheard _).bind fun s' hs' h' => ?_
      exact sendControl_does hs' h' _ _
  | unsubscribe =>
    rw [htype] at hsession
    exact sendControl_does hsession hheard _ _
  | resynchronize =>
    rw [htype] at hsession
    dsimp only
    split_ifs
    · exact sendSnapshotByType_does hsession hheard _
    · exact does_pure hsession hheard true
    · have hone (s' : StateState H) (x : Exterior H) (typeId : StateTypeId)
          (hs' : s'.session = s.session) (h' : s'.store = x.store) :
          Does (do
            let _ ← sendSnapshotByTypeCode typeId
            pure PUnit.unit) s' x PUnit.unit s.session (s.session.sendSnapshotByType typeId x).2 := by
        refine (sendSnapshotByType_does hs' h' typeId).bind fun s'' hs'' h'' => ?_
        exact does_pure hs'' h'' _
      refine (Does.each hone _ hsession hheard).bind fun s' hs' h' => ?_
      exact does_pure hs' h' true
  | disconnect =>
    rw [htype] at hsession
    dsimp only
    split_ifs with hattached
    · have hheld : (s.hear control).session.attached = true := hattached
      have hstore := setAvailability_store hheard s.session.remoteDevice .disconnected
      refine Does.modify (z := (x.record (.left s.session.remoteDevice)).setAvailability
        s.session.remoteDevice .disconnected) rfl ?_
      rw [if_pos hheld]
      exact ⟨(s.hear control).setAvailability .disconnected, hsession, hstore, rfl⟩
    · have hheld : ¬ (s.hear control).session.attached = true := hattached
      refine Does.modify (z := x.record (.left s.session.remoteDevice)) rfl ?_
      rw [if_neg hheld]
      exact does_pure hsession hheard true
  | subscribeAcknowledgement | unsubscribeAcknowledgement =>
    rw [htype] at hsession
    exact does_pure hsession hheard true
  | update | acknowledgement | other =>
    rw [htype] at hsession
    exact does_pure hsession hheard false

/-- The code of a routine that is not entered again comes to this answer. -/
def Comes (c : StateCode H (Exit (StateLabel L) Bool)) (s : StateState H) (x : Exterior H)
    (r : Bool) (session : SocketStateSession H) (y : Exterior H) : Prop :=
  ∃ s', s'.session = session ∧ s'.store = y.store ∧
    Returns (sessionProgram H) hostAnswer c s x.world r s' y.world

theorem Does.comes {c : StateCode H (Exit (StateLabel L) Bool)} {r : Bool}
    (h : Does c s x (.ret r) session y) : Comes c s x r session y := by
  obtain ⟨s', hs', h', heval⟩ := h
  exact ⟨s', hs', h', .ret heval⟩

theorem Does.goto {c : StateCode H (Exit (StateLabel L) Bool)} {l : StateLabel L} {r : Bool}
    (h : Does c s x (.goto l) session y)
    (hl : ∀ s' : StateState H, s'.session = session → s'.store = y.store →
      Comes ((sessionProgram H).body l) s' y r session' z) : Comes c s x r session' z := by
  obtain ⟨s', hs', h', heval⟩ := h
  obtain ⟨t, ht, htstore, hreturns⟩ := hl s' hs' h'
  exact ⟨t, ht, htstore, .goto heval hreturns⟩

theorem handleUpdate_does {parsed : ParsedUpdate L.Device}
    (hbind : session.bindPeer parsed.header.origin x = (true, session', y))
    (hs : s.session = session') (h : s.store = y.store) (hattached : session'.attached = true) :
    let r := session.handleUpdate parsed x
    Does (handleUpdateCode parsed) s y r.1 r.2.1 r.2.2 := by
  subst hs
  have hnull : ¬ (!s.session.attached) = true := by simp [hattached]
  have hsubscriptions : s.store.subscriptions = y.store.subscriptions := by rw [h]
  unfold handleUpdateCode SocketStateSession.handleUpdate
  apply Does.get
  rw [if_neg hnull, hsubscriptions, hbind]
  dsimp only
  simp only [Bool.not_true, Bool.false_eq_true, if_false]
  by_cases hsubscribed : (!L.isSubscribed s.session.remoteDevice parsed.header.typeId
      y.store.subscriptions) = true
  · rw [if_pos hsubscribed, if_pos hsubscribed]
    exact does_pure rfl h false
  · rw [if_neg hsubscribed, if_neg hsubscribed]
    refine (applyIncoming_does rfl h hattached parsed).bind fun s' hs' h' => ?_
    split_ifs
    · exact does_pure hs' h' false
    · exact sendAcknowledgement_does hs' h' _

/-- `HandleProtocolMessageLocked`, once its payload has been understood. -/
def handleMessageCode (accepted : Bool) :
    Option (Message L) → StateCode H (Exit (StateLabel L) Bool)
  | none => pure (.goto (.push false))
  | some (.update parsed) => do
    let bound : Bool ← bindPeerCode parsed.header.origin
    pure (.goto (if !bound then .push false else .update parsed accepted))
  | some (.acknowledgement acknowledgement) => do
    let handled : Bool ← handleAcknowledgementCode acknowledgement
    pure (.goto (.push (accepted && handled)))
  | some (.control control) => do
    let bound : Bool ← bindPeerCode control.device
    pure (.goto (if !bound then .push false else .control control accepted))

theorem handleProtocolMessageCode_eq (payload : Bytes) (accepted : Bool) :
    handleProtocolMessageCode (H := H) payload accepted =
      handleMessageCode accepted (parse L payload) := by
  unfold handleProtocolMessageCode parse
  cases L.getMessageType payload with
  | none => rfl
  | some type =>
    cases type with
    | update => cases L.decodeUpdate payload <;> rfl
    | acknowledgement => cases L.decodeAcknowledgement payload <;> rfl
    | _ => cases L.decodeControl payload <;> rfl

theorem bindPeer_attached (device : L.Device) (session : SocketStateSession H) (x : Exterior H) :
    (session.bindPeer device x).2.1.attached = session.attached := by
  rcases session.bindPeer_cases device x with h | ⟨-, -, h⟩ | ⟨-, -, -, h⟩ <;> rw [h]

/-- A message is handled, and the loop of `Push` goes on. -/
theorem handleProtocolMessage_comes (hs : s.session = session) (h : s.store = x.store)
    (hattached : session.attached = true) (payload : Bytes) (accepted : Bool) {r : Bool}
    (hpush : let m := session.handleProtocolMessage payload x
      ∀ s' : StateState H, s'.session = m.2.1 → s'.store = m.2.2.store →
        Comes (pushLoop (accepted && m.1)) s' m.2.2 r session' z) :
    Comes (handleProtocolMessageCode payload accepted) s x r session' z := by
  rw [handleProtocolMessageCode_eq]
  dsimp only at hpush
  cases hparse : parse L payload with
  | none =>
    rw [SocketStateSession.handleProtocolMessage_none hparse, Bool.and_false] at hpush
    have hgoto : Does (handleMessageCode accepted none) s x (.goto (.push false)) session x :=
      does_pure hs h _
    exact hgoto.goto hpush
  | some m =>
    rw [SocketStateSession.handleProtocolMessage_eq hparse] at hpush
    cases m with
    | update parsed =>
      dsimp only [SocketStateSession.handleMessage] at hpush
      have hbind := bindPeer_does hs h parsed.header.origin
      have hheld := bindPeer_attached parsed.header.origin session x
      cases hbound : session.bindPeer parsed.header.origin x with | mk bound b
      rw [hbound] at hbind hheld
      have hgoto : Does (handleMessageCode accepted (some (.update parsed))) s x
          (.goto (if !bound then .push false else .update parsed accepted)) b.1 b.2 :=
        hbind.bind fun s' hs' h' => does_pure hs' h' _
      cases bound with
      | false =>
        have hrefused : session.handleUpdate parsed x = (false, b) := by
          rw [SocketStateSession.handleUpdate, hbound]
          rfl
        rw [hrefused, Bool.and_false] at hpush
        exact hgoto.goto hpush
      | true =>
        refine hgoto.goto fun s' hs' h' => ?_
        have hupdate := handleUpdate_does hbound hs' h' (hheld.trans hattached)
        have hthen : Does ((sessionProgram H).body (.update parsed accepted)) s' b.2
            (.goto (.push (accepted && (session.handleUpdate parsed x).1)))
            (session.handleUpdate parsed x).2.1 (session.handleUpdate parsed x).2.2 :=
          hupdate.bind fun s'' hs'' h'' => does_pure hs'' h'' _
        exact hthen.goto hpush
    | acknowledgement a =>
      dsimp only [SocketStateSession.handleMessage] at hpush
      have hgoto : Does (handleMessageCode accepted (some (.acknowledgement a))) s x
          (.goto (.push (accepted && (session.handleAcknowledgement a x).1)))
          (session.handleAcknowledgement a x).2.1 (session.handleAcknowledgement a x).2.2 :=
        (handleAcknowledgement_does hs h a).bind fun s' hs' h' => does_pure hs' h' _
      exact hgoto.goto hpush
    | control c =>
      dsimp only [SocketStateSession.handleMessage] at hpush
      have hbind := bindPeer_does hs h c.device
      cases hbound : session.bindPeer c.device x with | mk bound b
      rw [hbound] at hbind hpush
      have hgoto : Does (handleMessageCode accepted (some (.control c))) s x
          (.goto (if !bound then .push false else .control c accepted)) b.1 b.2 :=
        hbind.bind fun s' hs' h' => does_pure hs' h' _
      cases bound with
      | false =>
        simp only [Bool.not_false, if_true, Bool.and_false] at hpush
        exact hgoto.goto hpush
      | true =>
        simp only [Bool.not_true, Bool.false_eq_true, if_false] at hpush
        refine hgoto.goto fun s' hs' h' => ?_
        have hthen : Does ((sessionProgram H).body (.control c accepted)) s' b.2
            (.goto (.push (accepted && (b.1.handleControl c b.2).1)))
            (b.1.handleControl c b.2).2.1 (b.1.handleControl c b.2).2.2 :=
          (handleControl_does hs' h' c).bind fun s'' hs'' h'' => does_pure hs'' h'' _
        exact hthen.goto hpush

/-- The handling of a message does not look at the decoder. -/
theorem handleProtocolMessage_decoder (d : SocketStateFrameDecoder) (payload : Bytes)
    (session : SocketStateSession H) (x : Exterior H) :
    SocketStateSession.handleProtocolMessage payload { session with decoder := d } x =
      ((session.handleProtocolMessage payload x).1,
        { (session.handleProtocolMessage payload x).2.1 with decoder := d },
        (session.handleProtocolMessage payload x).2.2) := by
  have hbind (device : L.Device) :
      SocketStateSession.bindPeer device { session with decoder := d } x =
        ((session.bindPeer device x).1, { (session.bindPeer device x).2.1 with decoder := d },
          (session.bindPeer device x).2.2) := by
    unfold SocketStateSession.bindPeer
    dsimp only
    split_ifs <;> rfl
  cases hparse : parse L payload with
  | none => rw [SocketStateSession.handleProtocolMessage_none hparse,
      SocketStateSession.handleProtocolMessage_none hparse]
  | some m =>
    rw [SocketStateSession.handleProtocolMessage_eq hparse,
      SocketStateSession.handleProtocolMessage_eq hparse]
    unfold SocketStateSession.handleMessage
    cases m with
    | update parsed =>
      dsimp only
      unfold SocketStateSession.handleUpdate
      rw [hbind]
      dsimp only
      split_ifs <;> rfl
    | acknowledgement a =>
      dsimp only
      unfold SocketStateSession.handleAcknowledgement
      split_ifs
      · rfl
      · dsimp only
        split <;> rfl
    | control c =>
      dsimp only
      rw [hbind]
      split_ifs
      · rfl
      · unfold SocketStateSession.handleControl
        cases c.type with
        | subscribe | resynchronize =>
          dsimp only
          split_ifs <;> rfl
        | _ => rfl

theorem Comes.set {f : PUnit → StateCode H (Exit (StateLabel L) Bool)} {s' : StateState H} {r : Bool}
    (h : Comes (f ⟨⟩) s' x r session y) : Comes (Code.set s' >>= f) s x r session y := by
  obtain ⟨t, ht, htstore, hreturns⟩ := h
  exact ⟨t, ht, htstore, .of_eval _ (Code.eval_set s' f s x.world) hreturns⟩

theorem Comes.get {f : StateState H → StateCode H (Exit (StateLabel L) Bool)} {r : Bool}
    (h : Comes (f s) s x r session y) : Comes (Code.get >>= f) s x r session y := by
  obtain ⟨t, ht, htstore, hreturns⟩ := h
  exact ⟨t, ht, htstore, .of_eval _ (Code.eval_get f s x.world) hreturns⟩

/-- What the loop of `Push` comes to, of what a drain of the buffer came to. -/
def LoopComes (maximum : SizeT) (accepted : Bool) (s : StateState H) (x : Exterior H) :
    Except Unit Bytes × Bool × SocketStateSession H × Exterior H → Prop
  | (.ok rest, r) => Comes (pushLoop accepted) s x r.1 { r.2.1 with decoder := ⟨maximum, rest⟩ } r.2.2
  | (.error _, r) => Comes (pushLoop accepted) s x false { r.2.1 with decoder := ⟨maximum, []⟩ } r.2.2

theorem pushLoop_comes (maximum : SizeT) (buffer : Bytes)
    (r : Bool × SocketStateSession H × Exterior H) (hattached : r.2.1.attached = true)
    (hs : s.session = { r.2.1 with decoder := ⟨maximum, buffer⟩ }) (h : s.store = r.2.2.store) :
    LoopComes maximum r.1 s r.2.2
      ((frameFramer stateMagic maximum.val).drain SocketStateSession.takeMessage buffer r) := by
  induction buffer, r using Framer.drain.induct (frameFramer stateMagic maximum.val)
    SocketStateSession.takeMessage generalizing s with
  | case1 buffer r hcut =>
    rw [Framer.drain_more _ hcut]
    change cutFrame stateMagic maximum.val buffer = .more at hcut
    refine Comes.get (Does.comes ?_)
    rw [hs]
    dsimp only
    rw [hcut]
    exact does_pure hs h _
  | case2 buffer r e hcut =>
    rw [Framer.drain_fail _ hcut]
    change cutFrame stateMagic maximum.val buffer = .fail e at hcut
    refine Comes.get ?_
    rw [hs]
    dsimp only
    rw [hcut]
    refine Comes.set (Does.comes (does_pure rfl ?_ _))
    exact h
  | case3 buffer r payload rest hcut ih =>
    rw [Framer.drain_frame _ hcut]
    change cutFrame stateMagic maximum.val buffer = .frame payload rest at hcut
    obtain ⟨accepted, session, x⟩ := r
    have hheld : (session.handleProtocolMessage payload x).2.1.attached = true :=
      SocketStateSession.handleProtocolMessage_keeps (Q := fun r => r.1.attached = true)
        (fun m known r r' hdeed hr => by cases hdeed <;> exact hr) payload hattached
    have hdecoder := handleProtocolMessage_decoder ⟨maximum, rest⟩ payload session x
    have hturn {r : Bool} {session' : SocketStateSession H} {z : Exterior H}
        (hthen : let m := session.handleProtocolMessage payload x
          ∀ s' : StateState H, s'.session = { m.2.1 with decoder := ⟨maximum, rest⟩ } →
            s'.store = m.2.2.store → Comes (pushLoop (accepted && m.1)) s' m.2.2 r session' z) :
        Comes (pushLoop accepted) s x r session' z := by
      refine Comes.get ?_
      rw [hs]
      dsimp only
      rw [hcut]
      refine Comes.set (handleProtocolMessage_comes rfl ?_ hattached payload accepted ?_)
      · exact h
      · dsimp only
        rw [hdecoder]
        exact hthen
    have hloop (s' : StateState H) := ih (s := s') hheld
    generalize (frameFramer stateMagic maximum.val).drain SocketStateSession.takeMessage rest
      (SocketStateSession.takeMessage payload (accepted, session, x)) = p at hloop
    obtain ⟨_ | rest', q⟩ := p
    · exact hturn fun s' hs' h' => hloop s' hs' h'
    · exact hturn fun s' hs' h' => hloop s' hs' h'

/-- A `Feed` that is not entered again does what `feed` does. -/
theorem feed_comes (h : s.store = x.store)
    (hattached : s.session.attached = s.session.initialized) (data : Bytes) :
    let r := s.session.feed data x
    Comes (feedCode data) s x r.1 r.2.1 r.2.2 := by
  unfold feedCode SocketStateSession.feed SocketStateFrameDecoder.push Framer.feed
  refine Comes.get ?_
  dsimp only
  by_cases hoff : (!s.session.initialized) = true
  · rw [if_pos hoff, if_pos hoff]
    exact Does.comes (does_pure rfl h _)
  have hheld : s.session.attached = true := hattached.trans (by simpa using hoff)
  rw [if_neg hoff, if_neg hoff]
  by_cases hempty : data = []
  · rw [if_pos hempty, if_pos hempty]
    exact Does.comes (does_pure rfl h _)
  rw [if_neg hempty, if_neg hempty]
  cases hfits : SocketStateFrameDecoder.fits s.session.decoder.maximumPayloadBytes
      s.session.decoder.buffer.length data.length with
  | false =>
    simp only [Bool.not_false, Bool.false_eq_true, if_true, if_false, Bool.false_and]
    refine Comes.set (Does.comes (does_pure rfl ?_ _))
    exact h
  | true =>
    simp only [Bool.not_true, Bool.false_eq_true, if_true, if_false]
    have hloop (s' : StateState H) := pushLoop_comes (s := s') s.session.decoder.maximumPayloadBytes
      (s.session.decoder.buffer ++ data) (true, s.session, x) hheld
    generalize (frameFramer stateMagic s.session.decoder.maximumPayloadBytes.val).drain
      SocketStateSession.takeMessage (s.session.decoder.buffer ++ data) (true, s.session, x) = p at hloop
    refine Comes.set (Does.goto (l := StateLabel.push true) (does_pure rfl ?_ _) fun s' hs' h' => ?_)
    · exact h
    · have hend := hloop s' hs' h'
      obtain ⟨_ | rest, q⟩ := p
      · exact hend
      · exact hend

/-- A member that runs to its end. -/
theorem Does.whole {R : Type} {c : StateCode H R} {r : R} (h : Does c s x r session y)
    (answer : R → Bool) : Comes (wholeCode c answer) s x (answer r) session y := by
  have hdone : Does (wholeCode c answer) s x (.ret (answer r)) session y :=
    h.bind fun s' hs' h' => does_pure hs' h' _
  exact hdone.comes

theorem sendDisconnect_does (hs : s.session = session) (h : s.store = x.store)
    (notifyRemote : Bool) :
    Does (sendDisconnectCode notifyRemote) s x ⟨⟩ session
      (if notifyRemote && session.initialized && session.config.sendDisconnectOnShutdown &&
        decide (session.remoteDevice ≠ L.zero) then (session.sendControl .disconnect 0 x).2
      else x) := by
  subst hs
  unfold sendDisconnectCode
  apply Does.get
  split_ifs
  · exact (sendControl_does rfl h _ _).bind fun s' hs' h' => does_pure hs' h' _
  · exact does_pure rfl h _

theorem shutdownLocked_does (hs : s.session = session) (h : s.store = x.store)
    (notifyRemote : Bool) :
    let r := session.shutdownLocked notifyRemote x
    Does (shutdownLockedCode notifyRemote) s x ⟨⟩ r.1 r.2 := by
  subst hs
  unfold shutdownLockedCode SocketStateSession.shutdownLocked
  apply Does.get
  by_cases hoff : (!s.session.initialized && !s.session.attached) = true
  · rw [if_pos hoff, if_pos hoff]
    exact does_pure rfl h _
  rw [if_neg hoff, if_neg hoff]
  refine (sendDisconnect_does rfl h notifyRemote).bind fun s' hs' h' => ?_
  generalize (if notifyRemote && s.session.initialized && _ && _ then _ else x) = y at h' ⊢
  dsimp only
  rw [← hs']
  clear hs'
  split_ifs with hzero hattached
  · have hsilent : ¬ (s'.session.attached && decide (s'.session.remoteDevice ≠ L.zero)) = true := by
      simp [hzero]
    refine Does.modify (z := y) rfl ?_
    rw [if_neg hsilent]
    refine Does.modify (z := y) rfl ?_
    rw [if_pos hzero]
    exact does_modify rfl h'
  · have htold : (s'.session.attached && decide (s'.session.remoteDevice ≠ L.zero)) = true := by
      simp [hzero, hattached]
    set z := (y.record (.closed s'.session.remoteDevice)).setAvailability s'.session.remoteDevice
      .disconnected with hz
    have hstore : (s'.setAvailability .disconnected).store = z.store := by
      rw [hz, Exterior.setAvailability, Exterior.record, Exterior.record, ← h']
      rfl
    refine Does.modify (z := z) rfl ?_
    rw [if_pos htold]
    refine Does.modify (z := z) rfl ?_
    rw [StateState.setAvailability_session, if_neg hzero]
    exact does_modify rfl hstore
  · have hsilent : ¬ (s'.session.attached && decide (s'.session.remoteDevice ≠ L.zero)) = true := by
      simp [hattached]
    refine Does.modify (z := y.record (.closed s'.session.remoteDevice)) rfl ?_
    rw [if_neg hsilent]
    refine Does.modify (z := y.record (.closed s'.session.remoteDevice)) rfl ?_
    rw [if_neg hzero]
    exact does_modify rfl h'

theorem initialize_does (hs : s.session = session) (h : s.store = x.store)
    (config : SocketStateSessionConfig L) (handler : Option H.SendHandler) (observed : Bool) :
    let r := session.initializeWith config handler observed x
    Does (initializeCode config handler observed) s x r.1 r.2.1 r.2.2 := by
  subst hs
  unfold initializeCode SocketStateSession.initializeWith
  apply Does.get
  dsimp only
  split_ifs with hon hinvalid hunobserved hexpected hrefused
  · exact does_pure rfl h _
  · exact does_pure rfl h _
  · refine Does.set rfl (does_pure rfl ?_ _)
    exact h
  · refine Does.set (z := x) rfl ((bindPeer_does rfl ?_ _).bind fun s' hs' h' => ?_)
    · exact h
    · rw [if_pos hrefused]
      refine (shutdownLocked_does hs' h' false).bind fun s'' hs'' h'' => ?_
      exact does_pure hs'' h'' false
  · refine Does.set (z := x) rfl ((bindPeer_does rfl ?_ _).bind fun s' hs' h' => ?_)
    · exact h
    · rw [if_neg hrefused]
      refine (sendCurrentSubscriptions_does hs' h').bind fun s'' hs'' h'' => ?_
      exact does_pure hs'' h'' true
  · refine Does.set (z := x) rfl ((sendCurrentSubscriptions_does rfl ?_).bind fun s' hs' h' => ?_)
    · exact h
    · exact does_pure hs' h' true

/-- `Initialize`, `Shutdown` and `Feed` do what they do in the model of the session alone, if they
are not entered again. -/
theorem entry_comes (h : s.store = x.store)
    (hattached : s.session.attached = s.session.initialized) :
    (∀ config handler observed, let r := s.session.initializeWith config handler observed x
      Comes ((sessionProgram H).entry (.initializeWith config handler observed)) s x r.1 r.2.1
        r.2.2) ∧
    Comes ((sessionProgram H).entry .shutdown) s x true (s.session.shutdown x).1
      (s.session.shutdown x).2 ∧
    ∀ data, let r := s.session.feed data x
      Comes ((sessionProgram H).entry (.feed data)) s x r.1 r.2.1 r.2.2 := by
  refine ⟨fun config handler observed => ?_, ?_, fun data => feed_comes h hattached data⟩
  · exact (initialize_does rfl h config handler observed).whole id
  · exact (shutdownLocked_does rfl h true).whole fun _ => true

end Does
end Returns

section Runs

/-- A session, the routines of it that have not returned, and what happened to it. -/
abbrev StateMachine (H : StateHost L) :=
  Machine (StateState H) (StateQuery H) (StateQuery.Answer H) (StateLabel L) Bool

abbrev StateTurn (H : StateHost L) := Turn (StateEntry H) (StateQuery.Answer H)

/-- Behind `BindPeerLocked` handling goes on in a session that holds its store, or with a control
message that leaves the subscribers as they are. -/
def StillHeld (m : StateMachine H) : StateTurn H → Prop
  | .enter _ | .answer _ => True
  | .proceed => ∀ l ∈ m.label, l.Admitted m.state

instance [DecidableEq L.Subscribers] (s : StateState H) :
    ∀ l : StateLabel L, Decidable (l.Admitted s)
  | .push _ => isTrue trivial
  | .update _ _ => inferInstanceAs (Decidable (_ = _))
  | .control _ _ => inferInstanceAs (Decidable (_ ∨ _))

instance [DecidableEq L.Subscribers] (m : StateMachine H) : ∀ t, Decidable (StillHeld m t)
  | .enter _ | .answer _ => isTrue trivial
  | .proceed => inferInstanceAs (Decidable (∀ _ ∈ _, _))

/-- Nothing was reached through a null reference, and nothing was changed after a `Shutdown`. -/
structure ShutTight (m : StateMachine H) : Prop where
  fault : m.fault = false
  unmoved : m.state.Unmoved

/-- A session that has not been initialised. -/
def asleep (H : StateHost L) (store : Store L) : StateMachine H :=
  { state := { session := {}, store } }

/-- The handlers may call `Shutdown`, or anything else, wherever the session calls them. -/
theorem shutdown_tolerated (store : Store L) (turns : List (StateTurn H))
    (h : Meets (Machine.step (sessionProgram H)) StillHeld (asleep H store) turns) :
    ShutTight (run (Machine.step (sessionProgram H)) (asleep H store) turns) := by
  have hcoherent : (asleep H store).state.Coherent :=
    { changes := by simp [asleep]
      subscribers := fun _ => rfl
      attached := rfl
      buffer := fun _ => rfl
      remoteDevice := fun _ => rfl }
  have hstart : stateTerms.Settled (asleep H store).state (asleep H store) :=
    Discipline.settled_start (session_sound H) hcoherent.toUnmoved hcoherent
  have hturns : Meets (Machine.step (sessionProgram H)) stateTerms.Allows (asleep H store) turns := by
    refine h.mono fun m t ht => ?_
    cases t with
    | enter e => exact fun _ => trivial
    | answer a => trivial
    | proceed => exact ht
  have hend := hstart.run (session_sound H) hturns
  exact ⟨hend.fault, hend.always⟩

end Runs

section Examples

/-- Frames go nowhere, and handlers do nothing. -/
@[reducible] def muteHost (L : StateLibrary) : StateHost L where
  World := Unit
  SendHandler := Unit
  PeerBoundHandler := Unit
  AcknowledgementHandler := Unit
  send _ _ w := (true, w)
  peerBound _ _ w := w
  acknowledged _ _ w := w

/-- Every call returns, and every frame was sent. -/
def consent : (q : StateQuery H) → q.Answer
  | .send _ _ => true
  | .peerBound _ _ | .acknowledged _ _ => ()

/-- The routines go on until the next call, which is answered, so many times. -/
def onward (calls : ℕ) : List (StateTurn H) :=
  (List.replicate calls (List.replicate 32 .proceed ++ [.answer consent])).flatten

/-- A session with handlers is fed, and shut down by the first handler that it calls. -/
def shutByHandler (config : SocketStateSessionConfig L) (data : Bytes) :
    List (StateTurn (muteHost L)) :=
  .enter (.initializeWith config (some ()) true) :: onward 2 ++
    .enter (.setPeerBoundHandler (some ())) :: onward 2 ++
    .enter (.setAcknowledgementHandler (some ())) :: onward 2 ++
    .enter (.feed data) :: List.replicate 32 .proceed ++ .enter .shutdown :: onward 8

def acknowledgementFrame : Bytes :=
  encodeFrame stateMagic (headerBytes .acknowledgement ⟨1, 1, 0, 1⟩)

def updateFrame : Bytes := encodeFrame stateMagic (headerBytes .update ⟨2, 1, 0, 1⟩ ++ [5])

/-- The acknowledgement handler shuts the session down while an update waits in the decoder. -/
def shutByAcknowledgement : List (@StateTurn tableLibrary SizeWidth.esp32 (muteHost tableLibrary)) :=
  letI := SizeWidth.esp32
  shutByHandler {} (acknowledgementFrame ++ updateFrame)

/-- The peer-bound handler shuts the session down, and there is an update of the peer to handle. -/
def shutByPeerBound : List (@StateTurn tableLibrary SizeWidth.esp32 (muteHost tableLibrary)) :=
  letI := SizeWidth.esp32
  shutByHandler {} updateFrame

/-- The session of one device after a number of turns. -/
def tableAfter (turns : List (@StateTurn tableLibrary SizeWidth.esp32 (muteHost tableLibrary))) :
    @StateMachine tableLibrary SizeWidth.esp32 (muteHost tableLibrary) :=
  letI := SizeWidth.esp32
  run (Machine.step (sessionProgram (muteHost tableLibrary)))
    (asleep (muteHost tableLibrary) (plainStore 1 none)) turns

omit [SizeWidth] in
theorem shutdown_tolerated_acknowledgement :
    letI := SizeWidth.esp32
    ShutTight (tableAfter shutByAcknowledgement) ∧
      (tableAfter shutByAcknowledgement).stack.length = 0 ∧
      (tableAfter shutByAcknowledgement).state.session.attached = false := by
  exact ⟨@shutdown_tolerated tableLibrary (muteHost tableLibrary) SizeWidth.esp32 (plainStore 1 none)
    shutByAcknowledgement (by decide +kernel), by decide +kernel, by decide +kernel⟩

omit [SizeWidth] in
/-- `_subscriptions` is null behind `BindPeerLocked`. -/
theorem shutdown_not_tolerated :
    letI := SizeWidth.esp32
    (tableAfter shutByPeerBound).fault = true ∧ ¬ ShutTight (tableAfter shutByPeerBound) := by
  refine ⟨by decide +kernel, ?_⟩
  rintro ⟨hfault, -⟩
  exact absurd hfault (by decide +kernel)

end Examples

end Sockets.State
