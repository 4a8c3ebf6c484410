import Sockets.Foundation.Run
import Sockets.State.Messages

/-! Two State sessions joined by a reliable channel in each direction. Frames are delivered whole
and in the order in which they were sent. -/
namespace Sockets.State
open Foundation

inductive Side where
  | a
  | b
  deriving DecidableEq

def Side.other : Side → Side
  | .a => .b
  | .b => .a

@[simp] theorem Side.other_other (i : Side) : i.other.other = i := by cases i <;> rfl

theorem Side.other_ne (i : Side) : i.other ≠ i := by cases i <;> decide

theorem Side.eq_or_other (i j : Side) : j = i ∨ j = i.other := by
  cases i <;> cases j <;> decide

variable (L : StateLibrary)

/-- A session of the pair sends into the channel that leads to the other side. -/
@[reducible] def peerHost : StateHost L where
  World := List Bytes
  SendHandler := Unit
  PeerBoundHandler := Empty
  AcknowledgementHandler := Empty
  send _ frame channel := (true, channel ++ [frame])
  peerBound handler := handler.elim
  acknowledged handler := handler.elim

variable [SizeWidth]

/-- `channel i` holds what side `i` has sent and the other side has not received; `answers` are
those of `Feed`, in order. -/
structure Pair where
  session : Side → SocketStateSession (peerHost L)
  store : Side → Store L
  channel : Side → List Bytes
  answers : List Bool := []

variable {L}

namespace Pair

/-- Both sides after `Initialize`. -/
def start (config : Side → SocketStateSessionConfig L) (store : Side → Store L) : Pair L :=
  let started (i : Side) : Bool × SocketStateSession (peerHost L) × Exterior (peerHost L) :=
    SocketStateSession.initializeWith (config i) (some ()) true {}
      { store := store i, world := ([] : List Bytes) }
  { session := fun i => (started i).2.1
    store := fun i => (started i).2.2.store
    channel := fun i => (started i).2.2.world }

/-- What the session of a side finds outside itself. -/
def outside (i : Side) (p : Pair L) : Exterior (peerHost L) :=
  { store := p.store i, world := p.channel i }

/-- The pair after a call of the session of a side. -/
def put (i : Side) (r : SocketStateSession (peerHost L) × Exterior (peerHost L)) (p : Pair L) :
    Pair L :=
  { p with session := Function.update p.session i r.1
           store := Function.update p.store i r.2.store
           channel := Function.update p.channel i r.2.world }

def setPublisher (i : Side) (publisher : L.Publisher) (p : Pair L) : Pair L :=
  { p with store := Function.update p.store i { p.store i with publisher } }

def setSubscriptions (i : Side) (subscriptions : L.Subscriptions) (p : Pair L) : Pair L :=
  { p with store := Function.update p.store i { p.store i with subscriptions } }

/-- A call of the session of a side that leaves the session's own state as it is. -/
def call (i : Side)
    (f : SocketStateSession (peerHost L) → Exterior (peerHost L) → Exterior (peerHost L))
    (p : Pair L) : Pair L := p.put i (p.session i, f (p.session i) (p.outside i))

/-- A notification by the objects that the session of a side observes. -/
def notify (i : Side)
    (f : SocketStateSession (peerHost L) → Exterior (peerHost L) → Exterior (peerHost L))
    (p : Pair L) : Pair L := if !(p.session i).registered then p else p.call i f

/-- `Publish`; only types of the contract have one. -/
def publish (i : Side) (typeId : StateTypeId) (p : Pair L) : Pair L :=
  if typeId ∈ L.definitions then
    let r := L.publish typeId (p.store i).publisher
    let p := p.setPublisher i r.2
    match r.1 with
    | none => p
    | some update => p.notify i fun s x => s.onTypedStatePublished typeId update x
  else p

def subscribe (i : Side) (d : Descriptor L.Device) (p : Pair L) : Pair L :=
  let r := L.subscribe d (p.store i).subscriptions
  let p := p.setSubscriptions i r.2
  if r.1 then p.notify i fun s x => s.onStateSubscribed d x else p

def unsubscribe (i : Side) (d : Descriptor L.Device) (p : Pair L) : Pair L :=
  let r := L.unsubscribe d (p.store i).subscriptions
  let p := p.setSubscriptions i r.2
  if r.1 then p.notify i fun s x => s.onStateUnsubscribed d x else p

/-- The next frame on its way to a side is fed to the side's session. -/
def deliver (i : Side) (p : Pair L) : Pair L :=
  match p.channel i.other with
  | [] => p
  | frame :: rest =>
    let p := { p with channel := Function.update p.channel i.other rest }
    let r := (p.session i).feed frame (p.outside i)
    { p.put i r.2 with answers := p.answers ++ [r.1] }

variable (L) in
inductive Action where
  | publish (side : Side) (typeId : StateTypeId)
  | subscribe (side : Side) (descriptor : Descriptor L.Device)
  | unsubscribe (side : Side) (descriptor : Descriptor L.Device)
  | requestResynchronization (side : Side) (typeId : StateTypeId)
  | deliver (side : Side)

def step (p : Pair L) : Action L → Pair L
  | .publish i typeId => p.publish i typeId
  | .subscribe i d => p.subscribe i d
  | .unsubscribe i d => p.unsubscribe i d
  | .requestResynchronization i typeId =>
    p.call i fun s x => (s.requestResynchronization typeId x).2
  | .deliver i => p.deliver i

end Pair
end Sockets.State
