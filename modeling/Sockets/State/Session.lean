import Sockets.Frame.Decoders
import Sockets.State.Library

/-! `SocketStateSession`: State between two devices over one connection. -/
namespace Sockets.State
open Foundation Sockets.Frame

/-- What a session calls besides ESPressio State. Handlers may keep state in `World`; none calls
back into the session. -/
structure StateHost (L : StateLibrary) where
  World : Type
  SendHandler : Type
  PeerBoundHandler : Type
  AcknowledgementHandler : Type
  send : SendHandler → Bytes → World → Bool × World
  peerBound : PeerBoundHandler → L.Device → World → World
  acknowledged : AcknowledgementHandler → StateAcknowledgement L.Device → World → World

/-- What a session does with the availability of its peer: `availability` is a call of
`SetAvailability`, the others say why it is made. -/
inductive StateEvent (L : StateLibrary) where
  | bound (device : L.Device)
  | left (device : L.Device)
  | closed (device : L.Device)
  | availability (device : L.Device) (value : RemoteDeviceAvailability)
  deriving DecidableEq

variable {L : StateLibrary} (H : StateHost L)

/-- The outside of a session. -/
structure Exterior where
  store : Store L
  world : H.World
  log : List (StateEvent L) := []

/-- An empty handler is `none`. `attached` says that the session holds references to a store,
`registered` that it observes its publisher and its subscriptions. -/
structure SocketStateSession [SizeWidth] where
  attached : Bool := false
  subscribers : L.Subscribers := L.noSubscribers
  config : SocketStateSessionConfig L := {}
  sendHandler : Option H.SendHandler := none
  peerBoundHandler : Option H.PeerBoundHandler := none
  acknowledgementHandler : Option H.AcknowledgementHandler := none
  decoder : SocketStateFrameDecoder :=
    { maximumPayloadBytes := sizeConstant 4096 }
  registered : Bool := false
  remoteDevice : L.Device := L.zero
  initialized : Bool := false

variable {H}

namespace Exterior

def record (e : StateEvent L) (x : Exterior H) : Exterior H := { x with log := x.log ++ [e] }

def setAvailability (device : L.Device) (value : RemoteDeviceAvailability) (x : Exterior H) :
    Exterior H :=
  { x with store := { x.store with remote := L.setAvailability device value x.store.remote } }.record
    (.availability device value)

end Exterior

namespace SocketStateSession
variable [SizeWidth]

def subscriptionApplies (scope : StateSubscriptionScope) (device : L.Device)
    (s : SocketStateSession H) : Bool :=
  if scope = .anyDevice then true
  else if s.remoteDevice ≠ L.zero then decide (device = s.remoteDevice)
  else if s.config.expectedRemoteDevice ≠ L.zero then
    decide (device = s.config.expectedRemoteDevice)
  else false

def sendProtocolPayload (payload : Bytes) (s : SocketStateSession H) (x : Exterior H) :
    Bool × Exterior H :=
  match s.sendHandler with
  | none => (false, x)
  | some handler =>
    if payload = [] ∨ s.config.maximumProtocolMessageBytes.val < payload.length then (false, x)
    else
      let frame := buildSocketStateFrame payload s.config.maximumProtocolMessageBytes
      if frame = [] then (false, x)
      else
        let r := H.send handler frame x.world
        (r.1, { x with world := r.2 })

/-- A payload that the library could not encode is not sent. -/
def sendEncoded (payload : Option Bytes) (s : SocketStateSession H) (x : Exterior H) :
    Bool × Exterior H :=
  match payload with
  | none => (false, x)
  | some payload => s.sendProtocolPayload payload x

def sendControl (type : MessageType) (typeId : StateTypeId) (s : SocketStateSession H)
    (x : Exterior H) : Bool × Exterior H :=
  if !s.attached then (false, x)
  else s.sendEncoded (L.encodeControl ⟨type, L.origin x.store.publisher, typeId⟩) x

def sendAcknowledgement (header : StateUpdateHeader L.Device) (s : SocketStateSession H)
    (x : Exterior H) : Bool × Exterior H :=
  s.sendEncoded (L.encodeAcknowledgement
    ⟨header.origin, header.typeId, header.epoch, header.revision⟩) x

def sendUpdate (update : StateUpdate L.Device L.Value) (s : SocketStateSession H)
    (x : Exterior H) : Bool × Exterior H :=
  s.sendEncoded (L.encodeUpdate update s.config.maximumProtocolMessageBytes.val) x

def sendSnapshot (typeId : StateTypeId) (s : SocketStateSession H) (x : Exterior H) :
    Bool × Exterior H :=
  if !s.attached then (false, x)
  else
    let r := L.snapshot typeId x.store.publisher
    let x := { x with store := { x.store with publisher := r.2 } }
    match r.1 with
    | none => (false, x)
    | some update => s.sendUpdate update x

/-- `SendSnapshotByTypeLocked`, the search through the definitions of the contract. -/
def sendSnapshotByType (typeId : StateTypeId) (s : SocketStateSession H) (x : Exterior H) :
    Bool × Exterior H :=
  if typeId ∈ L.definitions then s.sendSnapshot typeId x else (false, x)

/-- One descriptor of `SendCurrentSubscriptionsLocked`. -/
def announce (s : SocketStateSession H) (x : Exterior H) (d : Descriptor L.Device) : Exterior H :=
  if s.subscriptionApplies d.scope d.device then (s.sendControl .subscribe d.typeId x).2 else x

def sendCurrentSubscriptions (s : SocketStateSession H) (x : Exterior H) : Exterior H :=
  if !s.attached || !s.initialized then x
  else (L.descriptors x.store.subscriptions).foldl s.announce x

def bindPeer (device : L.Device) (s : SocketStateSession H) (x : Exterior H) :
    Bool × SocketStateSession H × Exterior H :=
  if device = L.zero then (false, s, x)
  else if s.config.expectedRemoteDevice ≠ L.zero ∧ device ≠ s.config.expectedRemoteDevice then
    (false, s, x)
  else if s.remoteDevice ≠ L.zero then (decide (s.remoteDevice = device), s, x)
  else
    let s := { s with remoteDevice := device }
    let x := x.record (.bound device)
    let x := if s.attached then x.setAvailability device .connected else x
    let x := match s.peerBoundHandler with
      | none => x
      | some handler => { x with world := H.peerBound handler device x.world }
    (true, s, s.sendCurrentSubscriptions x)

def shutdownLocked (notifyRemote : Bool) (s : SocketStateSession H) (x : Exterior H) :
    SocketStateSession H × Exterior H :=
  if !s.initialized && !s.attached then (s, x)
  else
    let x := if notifyRemote && s.initialized && s.config.sendDisconnectOnShutdown &&
        decide (s.remoteDevice ≠ L.zero) then (s.sendControl .disconnect 0 x).2 else x
    let x := if s.remoteDevice = L.zero then x
      else if s.attached then
        (x.record (.closed s.remoteDevice)).setAvailability s.remoteDevice .disconnected
      else x.record (.closed s.remoteDevice)
    let subscribers :=
      if s.remoteDevice = L.zero then s.subscribers
      else L.removeDevice s.remoteDevice s.subscribers
    ({ s with subscribers, registered := false, decoder := s.decoder.reset, sendHandler := none
              peerBoundHandler := none, acknowledgementHandler := none
              remoteDevice := L.zero, attached := false, initialized := false }, x)

def shutdown (s : SocketStateSession H) (x : Exterior H) : SocketStateSession H × Exterior H :=
  s.shutdownLocked true x

/-- `Initialize`; `observed` says whether the publisher and the subscriptions took the session as
an observer. -/
def initializeWith (config : SocketStateSessionConfig L) (handler : Option H.SendHandler)
    (observed : Bool) (s : SocketStateSession H) (x : Exterior H) :
    Bool × SocketStateSession H × Exterior H :=
  if s.initialized then (true, s, x)
  else if handler.isNone || decide (config.maximumProtocolMessageBytes.val < L.controlSize) then
    (false, s, x)
  else
    let s := { s with
      attached := true, config, sendHandler := handler
      decoder := (s.decoder.setMaximumPayloadBytes config.maximumProtocolMessageBytes).reset }
    if !observed then
      (false, { s with registered := false, attached := false, sendHandler := none }, x)
    else
      let s := { s with registered := true, initialized := true }
      if config.expectedRemoteDevice ≠ L.zero then
        let r := s.bindPeer config.expectedRemoteDevice x
        if !r.1 then (false, r.2.1.shutdownLocked false r.2.2)
        else (true, r.2.1, r.2.1.sendCurrentSubscriptions r.2.2)
      else (true, s, s.sendCurrentSubscriptions x)

def setPeerBoundHandler (handler : Option H.PeerBoundHandler) (s : SocketStateSession H) :
    SocketStateSession H := { s with peerBoundHandler := handler }

def setAcknowledgementHandler (handler : Option H.AcknowledgementHandler)
    (s : SocketStateSession H) : SocketStateSession H := { s with acknowledgementHandler := handler }

def requestResynchronization (typeId : StateTypeId) (s : SocketStateSession H) (x : Exterior H) :
    Bool × Exterior H :=
  if !s.initialized then (false, x) else s.sendControl .resynchronize typeId x

def onTypedStatePublished (typeId : StateTypeId) (update : StateUpdate L.Device L.Value)
    (s : SocketStateSession H) (x : Exterior H) : Exterior H :=
  if !s.initialized || decide (s.remoteDevice = L.zero) then x
  else if !L.hasSubscriber s.remoteDevice typeId s.subscribers then x
  else (s.sendUpdate update x).2

def onStateSubscribed (d : Descriptor L.Device) (s : SocketStateSession H) (x : Exterior H) :
    Exterior H :=
  if !s.initialized || !s.subscriptionApplies d.scope d.device then x
  else (s.sendControl .subscribe d.typeId x).2

def onStateUnsubscribed (d : Descriptor L.Device) (s : SocketStateSession H) (x : Exterior H) :
    Exterior H :=
  if !s.initialized || !s.subscriptionApplies d.scope d.device then x
  else (s.sendControl .unsubscribe d.typeId x).2

/-- Whether the value held for the origin is the very one of an update. -/
def exactDuplicate (header : StateUpdateHeader L.Device) (remote : L.RemoteManager) : Bool :=
  match L.read header.typeId header.origin remote with
  | none => false
  | some current => current.hasValue && decide (current.epoch = header.epoch) &&
      decide (current.revision = header.revision)

def applyIncoming (parsed : ParsedUpdate L.Device) (x : Exterior H) : Bool × Exterior H :=
  if parsed.header.typeId ∈ L.definitions then
    match L.decodeValue parsed.header.typeId parsed with
    | none => (false, x)
    | some value =>
      if exactDuplicate parsed.header x.store.remote then (true, x)
      else
        let r := L.apply parsed.header.typeId parsed.header.origin parsed.header.epoch
          parsed.header.revision value x.store.remote
        (r.1, { x with store := { x.store with remote := r.2 } })
  else (false, x)

def handleUpdate (parsed : ParsedUpdate L.Device) (s : SocketStateSession H) (x : Exterior H) :
    Bool × SocketStateSession H × Exterior H :=
  let b := s.bindPeer parsed.header.origin x
  if !b.1 then b
  else if !L.isSubscribed b.2.1.remoteDevice parsed.header.typeId b.2.2.store.subscriptions then
    (false, b.2)
  else
    let a := applyIncoming parsed b.2.2
    if !a.1 then (false, b.2.1, a.2)
    else
      let r := b.2.1.sendAcknowledgement parsed.header a.2
      (r.1, b.2.1, r.2)

def handleAcknowledgement (acknowledgement : StateAcknowledgement L.Device)
    (s : SocketStateSession H) (x : Exterior H) : Bool × SocketStateSession H × Exterior H :=
  if !s.attached || decide (acknowledgement.origin ≠ L.origin x.store.publisher) then (false, s, x)
  else
    match s.acknowledgementHandler with
    | none => (true, s, x)
    | some handler => (true, s, { x with world := H.acknowledged handler acknowledgement x.world })

/-- The control messages of a peer that is bound. -/
def handleControl (control : ControlMessage L.Device) (s : SocketStateSession H)
    (x : Exterior H) : Bool × SocketStateSession H × Exterior H :=
  match control.type with
  | .subscribe =>
    let a := L.addSubscriber s.remoteDevice control.typeId s.subscribers
    let s := { s with subscribers := a.2 }
    if !a.1 then (false, s, x)
    else
      let r := s.sendControl .subscribeAcknowledgement control.typeId
        (s.sendSnapshotByType control.typeId x).2
      (r.1, s, r.2)
  | .unsubscribe =>
    let s := { s with subscribers :=
      L.removeSubscriber s.remoteDevice control.typeId s.subscribers }
    let r := s.sendControl .unsubscribeAcknowledgement control.typeId x
    (r.1, s, r.2)
  | .resynchronize =>
    if control.typeId ≠ 0 then
      if L.hasSubscriber s.remoteDevice control.typeId s.subscribers then
        let r := s.sendSnapshotByType control.typeId x
        (r.1, s, r.2)
      else (true, s, x)
    else
      (true, s, (L.subscribedTypes s.remoteDevice s.subscribers).foldl
        (fun x typeId => (s.sendSnapshotByType typeId x).2) x)
  | .disconnect =>
    let x := x.record (.left s.remoteDevice)
    let x := if s.attached then x.setAvailability s.remoteDevice .disconnected else x
    (true, { s with subscribers := L.removeDevice s.remoteDevice s.subscribers }, x)
  | .subscribeAcknowledgement | .unsubscribeAcknowledgement => (true, s, x)
  | .update | .acknowledgement | .other _ => (false, s, x)

def handleProtocolMessage (payload : Bytes) (s : SocketStateSession H) (x : Exterior H) :
    Bool × SocketStateSession H × Exterior H :=
  match L.getMessageType payload with
  | none => (false, s, x)
  | some .update =>
    match L.decodeUpdate payload with
    | none => (false, s, x)
    | some parsed => s.handleUpdate parsed x
  | some .acknowledgement =>
    match L.decodeAcknowledgement payload with
    | none => (false, s, x)
    | some acknowledgement => s.handleAcknowledgement acknowledgement x
  | some _ =>
    match L.decodeControl payload with
    | none => (false, s, x)
    | some control =>
      let b := s.bindPeer control.device x
      if !b.1 then b else b.2.1.handleControl control b.2.2

/-- What `Feed` does with one complete message. -/
def takeMessage (payload : Bytes) (r : Bool × SocketStateSession H × Exterior H) :
    Bool × SocketStateSession H × Exterior H :=
  let h := r.2.1.handleProtocolMessage payload r.2.2
  (r.1 && h.1, h.2)

def feed (data : Bytes) (s : SocketStateSession H) (x : Exterior H) :
    Bool × SocketStateSession H × Exterior H :=
  if !s.initialized then (false, s, x)
  else
    let r := s.decoder.push takeMessage data (true, s, x)
    (r.1 && r.2.2.1, { r.2.2.2.1 with decoder := r.2.1 }, r.2.2.2.2)

end SocketStateSession
end Sockets.State
