import Sockets.Clock.Integrity
import Sockets.Foundation.TimeTransfer

/-! How far a sample can be from the truth, when the timestamps are readings of two clocks that do
not run backwards. -/
namespace Sockets.Clock
open Foundation

/-- An operation, with the true times at which it begins and is done. -/
structure Performance where
  action : Action
  begun : ℕ
  done : ℕ

namespace Performance

/-- The timestamps of an operation are readings of the clock of its side: as it begins, and for a
response as it is done. -/
def Reads (clock : Side → ℕ → UInt64) (p : Performance) : Prop :=
  match p.action with
  | .buildRequest side now => now = clock side p.begun
  | .processRequest side _ receiveTime now =>
    receiveTime = clock side p.begun ∧ now = clock side p.done
  | .processResponse side _ receiveTime => receiveTime = clock side p.begun
  | .buildAuthoritativeBroadcast side now => now = clock side p.begun
  | .processAuthoritativeBroadcast side _ receiveTime => receiveTime = clock side p.begun
  | .cancelPendingRequest _ => True

end Performance

/-- The timestamps that an event has of its own, read in this interval. -/
def ClockEvent.ReadIn (clock : Side → ℕ → UInt64) (begun done : ℕ) : ClockEvent → Prop
  | .requested side _ t1 => t1 = clock side begun
  | .handled side _ _ t2 t3 => t2 = clock side begun ∧ t3 = clock side done
  | .sampled side receiveTime _ => receiveTime = clock side begun
  | _ => True

/-- The events of a history are read one after the other, and by `latest`. -/
def ReadInTurn (clock : Side → ℕ → UInt64) : ℕ → List ClockEvent → Prop
  | _, [] => True
  | latest, e :: older => ∃ begun done, begun ≤ done ∧ done ≤ latest ∧ e.ReadIn clock begun done ∧
      ReadInTurn clock begun older

variable {clock : Side → ℕ → UInt64}

theorem ReadInTurn.mono {t t' : ℕ} (h : t ≤ t') {history : List ClockEvent}
    (hread : ReadInTurn clock t history) : ReadInTurn clock t' history := by
  cases history with
  | nil => trivial
  | cons e older =>
    obtain ⟨begun, done, hle, hlatest, hevent, hrest⟩ := hread
    exact ⟨begun, done, hle, hlatest.trans h, hevent, hrest⟩

/-- Older events are read earlier. -/
theorem ReadInTurn.older {latest : ℕ} {since older : List ClockEvent}
    (h : ReadInTurn clock latest (since ++ older)) : ReadInTurn clock latest older := by
  induction since generalizing latest with
  | nil => exact h
  | cons e since ih =>
    obtain ⟨begun, done, hle, hlatest, -, hrest⟩ := h
    exact (ih hrest).mono (hle.trans hlatest)

/-- How far the clock of the reference is ahead of the client's. -/
def offset (clock : Side → ℕ → UInt64) (t : ℕ) : ℤ :=
  (clock .reference t).toNat - (clock .client t).toNat

end Sockets.Clock
