import Sockets.Foundation.Log
import Sockets.Platform

/-! TCP connections as the servers and clients use them: `connected()`, `write()` and `stop()` of a
`WiFiClient`, and `WriteAll` over them. -/
namespace Sockets.Transport
open Foundation

/-- What the network stack answers. Connections are numbered in the order in which they come up,
from 1 on; 0 is a client object without a connection. -/
structure Network where
  World : Type
  connected : ℕ → World → Bool × World
  write : ℕ → Bytes → World → ℕ × World
  write_le : ∀ connection data w, (write connection data w).1 ≤ data.length
  stop : ℕ → World → World

/-- What the connections were asked and what they took, in order. -/
inductive WireEvent where
  | connected (connection : ℕ) (answer : Bool)
  | sent (connection : ℕ) (frame : Bytes) (accepted : ℕ)
  deriving DecidableEq

variable {N : Network}

/-- The client objects of a server, by slot, over a network. -/
structure Clients (N : Network) where
  world : N.World
  wire : List WireEvent := []
  client : ℕ → ℕ := fun _ => 0
  active : ℕ → Bool := fun _ => false
  connections : ℕ := 0

/-- `WriteAll`: its answer, and how many bytes the client took in all. -/
def writeAll (N : Network) (connection : ℕ) (data : Bytes) (w : N.World) :
    (Bool × ℕ) × N.World :=
  if _hd : data = [] then ((true, 0), w)
  else if _h0 : (N.write connection data w).1 = 0 then ((false, 0), (N.write connection data w).2)
  else
    let current := N.write connection data w
    let rest := writeAll N connection (data.drop current.1) current.2
    ((rest.1.1, current.1 + rest.1.2), rest.2)
termination_by data.length
decreasing_by
  have hpos := List.length_pos_iff.mpr _hd
  rw [List.length_drop]
  exact Nat.sub_lt hpos (Nat.pos_of_ne_zero _h0)

theorem writeAll_nil (connection : ℕ) (w : N.World) :
    writeAll N connection [] w = ((true, 0), w) := by
  rw [writeAll, dif_pos rfl]

/-- A client that takes nothing ends the loop. -/
theorem writeAll_zero {connection : ℕ} {data : Bytes} {w : N.World} (hd : data ≠ [])
    (h0 : (N.write connection data w).1 = 0) :
    writeAll N connection data w = ((false, 0), (N.write connection data w).2) := by
  rw [writeAll, dif_neg hd, dif_pos h0]

theorem writeAll_some {connection n : ℕ} {data : Bytes} {w w' : N.World} (hd : data ≠ [])
    (hw : N.write connection data w = (n, w')) (hn : n ≠ 0) :
    writeAll N connection data w =
      let rest := writeAll N connection (data.drop n) w'
      ((rest.1.1, n + rest.1.2), rest.2) := by
  rw [writeAll, dif_neg hd, dif_neg (by rwa [hw])]
  simp only [hw]

theorem writeAll_le (connection : ℕ) (data : Bytes) (w : N.World) :
    (writeAll N connection data w).1.2 ≤ data.length := by
  induction data, w using writeAll.induct N connection with
  | case1 w => rw [writeAll_nil]; exact Nat.zero_le _
  | case2 data w hd h0 => rw [writeAll_zero hd h0]; exact Nat.zero_le _
  | case3 data w hd h0 current ih =>
    have hle := N.write_le connection data w
    rw [writeAll_some hd rfl h0]
    rw [List.length_drop] at ih
    exact (Nat.add_le_add_left ih _).trans (Nat.add_sub_of_le hle).le

namespace Clients

/-- `connected()` of the client in a slot. -/
def connected (slot : ℕ) (x : Clients N) : Bool × Clients N :=
  let r := N.connected (x.client slot) x.world
  (r.1, { x with world := r.2, wire := x.wire ++ [.connected (x.client slot) r.1] })

/-- The part the send handlers share: no byte to a client that is not connected. -/
def sendWhole (slot : ℕ) (data : Bytes) (x : Clients N) : Bool × Clients N :=
  let q := x.connected slot
  if !q.1 then (false, q.2)
  else
    let r := writeAll N (q.2.client slot) data q.2.world
    (r.1.1, { q.2 with world := r.2, wire := q.2.wire ++ [.sent (q.2.client slot) data r.1.2] })

def stop (slot : ℕ) (x : Clients N) : Clients N :=
  { x with world := N.stop (x.client slot) x.world }

def setActive (slot : ℕ) (b : Bool) (x : Clients N) : Clients N :=
  { x with active := Function.update x.active slot b }

/-- A new connection in a slot. -/
def assign (slot : ℕ) (x : Clients N) : Clients N :=
  { x with connections := x.connections + 1
           client := Function.update x.client slot (x.connections + 1) }

/-- The slots and their clients are as they were; only the network moved on. -/
def SameSlots (x y : Clients N) : Prop :=
  y.client = x.client ∧ y.active = x.active ∧ y.connections = x.connections

theorem SameSlots.refl (x : Clients N) : SameSlots x x := ⟨rfl, rfl, rfl⟩

theorem SameSlots.trans {x y z : Clients N} (h : SameSlots x y) (h' : SameSlots y z) :
    SameSlots x z :=
  ⟨h'.1.trans h.1, h'.2.1.trans h.2.1, h'.2.2.trans h.2.2⟩

theorem sameSlots_connected (slot : ℕ) (x : Clients N) : SameSlots x (x.connected slot).2 :=
  ⟨rfl, rfl, rfl⟩

theorem sameSlots_sendWhole (slot : ℕ) (data : Bytes) (x : Clients N) :
    SameSlots x (x.sendWhole slot data).2 := by
  unfold sendWhole
  dsimp only
  split_ifs <;> exact ⟨rfl, rfl, rfl⟩

end Clients
end Sockets.Transport
