import Sockets.Platform

/-! What the State sessions use of ESPressio State: its wire protocol, and the publishers, remote
managers and registries behind it. -/
namespace Sockets.State
open Foundation

abbrev StateTypeId := UInt64

/-- The message types a session tells apart; every other one is `other`. -/
inductive MessageType where
  | update
  | acknowledgement
  | subscribe
  | subscribeAcknowledgement
  | unsubscribe
  | unsubscribeAcknowledgement
  | resynchronize
  | disconnect
  | other (code : UInt8)
  deriving DecidableEq

inductive StateSubscriptionScope where
  | anyDevice
  | oneDevice
  deriving DecidableEq

inductive RemoteDeviceAvailability where
  | connected
  | disconnected
  deriving DecidableEq

/-- An entry of a subscription registry. -/
structure Descriptor (Device : Type) where
  typeId : StateTypeId
  scope : StateSubscriptionScope
  device : Device
  deriving DecidableEq

structure ControlMessage (Device : Type) where
  type : MessageType
  device : Device
  typeId : StateTypeId
  deriving DecidableEq

structure StateAcknowledgement (Device : Type) where
  origin : Device
  typeId : StateTypeId
  epoch : ℕ
  revision : ℕ
  deriving DecidableEq

structure StateUpdateHeader (Device : Type) where
  origin : Device
  typeId : StateTypeId
  epoch : ℕ
  revision : ℕ
  deriving DecidableEq

structure StateUpdate (Device Value : Type) where
  header : StateUpdateHeader Device
  value : Value

structure ParsedUpdate (Device : Type) where
  header : StateUpdateHeader Device
  value : Bytes

/-- What a session reads of the value held for a remote device. -/
structure RemoteStateSnapshot where
  hasValue : Bool
  epoch : ℕ
  revision : ℕ
  deriving DecidableEq

/-- ESPressio State over one contract; `definitions` are the type identifiers of the contract.
`subscribe` and `unsubscribe` of a registry answer whether a descriptor was added or removed, in
which case the registry notifies its observers. -/
structure StateLibrary where
  Device : Type
  deviceEq : DecidableEq Device
  zero : Device
  Value : Type
  definitions : List StateTypeId
  controlSize : ℕ
  acknowledgementSize : ℕ
  getMessageType : Bytes → Option MessageType
  encodeControl : ControlMessage Device → Option Bytes
  decodeControl : Bytes → Option (ControlMessage Device)
  encodeAcknowledgement : StateAcknowledgement Device → Option Bytes
  decodeAcknowledgement : Bytes → Option (StateAcknowledgement Device)
  encodeUpdate : StateUpdate Device Value → ℕ → Option Bytes
  decodeUpdate : Bytes → Option (ParsedUpdate Device)
  decodeValue : StateTypeId → ParsedUpdate Device → Option Value
  Publisher : Type
  origin : Publisher → Device
  publish : StateTypeId → Publisher → Option (StateUpdate Device Value) × Publisher
  snapshot : StateTypeId → Publisher → Option (StateUpdate Device Value) × Publisher
  RemoteManager : Type
  setAvailability : Device → RemoteDeviceAvailability → RemoteManager → RemoteManager
  read : StateTypeId → Device → RemoteManager → Option RemoteStateSnapshot
  apply : StateTypeId → Device → ℕ → ℕ → Value → RemoteManager → Bool × RemoteManager
  Subscriptions : Type
  descriptors : Subscriptions → List (Descriptor Device)
  isSubscribed : Device → StateTypeId → Subscriptions → Bool
  subscribe : Descriptor Device → Subscriptions → Bool × Subscriptions
  unsubscribe : Descriptor Device → Subscriptions → Bool × Subscriptions
  Subscribers : Type
  noSubscribers : Subscribers
  addSubscriber : Device → StateTypeId → Subscribers → Bool × Subscribers
  removeSubscriber : Device → StateTypeId → Subscribers → Subscribers
  removeDevice : Device → Subscribers → Subscribers
  hasSubscriber : Device → StateTypeId → Subscribers → Bool
  subscribedTypes : Device → Subscribers → List StateTypeId

variable {L : StateLibrary}

instance : DecidableEq L.Device := L.deviceEq

/-- The objects a session is given references to. -/
structure Store (L : StateLibrary) where
  publisher : L.Publisher
  remote : L.RemoteManager
  subscriptions : L.Subscriptions

structure SocketStateSessionConfig (L : StateLibrary) [SizeWidth] where
  maximumProtocolMessageBytes : SizeT := sizeConstant 4096
  expectedRemoteDevice : L.Device := L.zero
  sendDisconnectOnShutdown : Bool := true

end Sockets.State
