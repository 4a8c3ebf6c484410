import Mathlib.Tactic
import Mathlib.Data.List.Chain

/-! A 32-bit millisecond counter over a true time that does not wrap: the tests of elapsed time that
are made with it, and the logs of times that such tests keep apart. -/
namespace Sockets.Foundation

/-- What the counter reads at a true time. -/
def millis (time : ℕ) : UInt32 := .ofNat time

theorem toNat_millis (time : ℕ) : (millis time).toNat = time % 2 ^ 32 := UInt32.toNat_ofNat'

theorem toNat_toUInt64_millis (time : ℕ) : (millis time).toUInt64.toNat = time % 2 ^ 32 := by
  rw [UInt32.toNat_toUInt64, toNat_millis]

/-- Subtraction modulo 2^32 never reports more than has passed, whatever the gap. -/
theorem elapsed_le {earlier later : ℕ} (h : earlier ≤ later) :
    (millis later - millis earlier).toNat ≤ later - earlier := by
  have hearlier := toNat_millis earlier
  have hlater := toNat_millis later
  have hlt := Nat.mod_lt earlier (show 0 < 2 ^ 32 by norm_num)
  have hle := Nat.mod_le (later - earlier) (2 ^ 32)
  rw [UInt32.toNat_sub, hearlier, hlater]
  omega

/-- Subtraction in 64 bits reports no more than has passed when the readings are in order. -/
theorem wideElapsed_le {earlier later : ℕ} (h : earlier ≤ later)
    (hread : (millis earlier).toUInt64 ≤ (millis later).toUInt64) :
    ((millis later).toUInt64 - (millis earlier).toUInt64).toNat ≤ later - earlier := by
  have hearlier := toNat_toUInt64_millis earlier
  have hlater := toNat_toUInt64_millis later
  rw [UInt64.le_iff_toNat_le] at hread
  rw [UInt64.toNat_sub_of_le _ _ (UInt64.le_iff_toNat_le.mpr hread)]
  omega

/-- Readings out of order seem further apart in 64 bits than any 32-bit interval. -/
theorem interval_le_wideElapsed {earlier later : ℕ} (interval : UInt32)
    (hread : (millis later).toUInt64 < (millis earlier).toUInt64) :
    interval.toUInt64 ≤ (millis later).toUInt64 - (millis earlier).toUInt64 := by
  have hearlier := toNat_toUInt64_millis earlier
  have hlater := toNat_toUInt64_millis later
  have hinterval := interval.toNat_lt
  have hlt := Nat.mod_lt earlier (show 0 < 2 ^ 32 by norm_num)
  rw [UInt64.lt_iff_toNat_lt] at hread
  rw [UInt64.le_iff_toNat_le, UInt64.toNat_sub, UInt32.toNat_toUInt64]
  omega

/-- The times of a log, the latest first, of which each comes the interval after the one before. -/
def Spaced (interval : ℕ) (times : List ℕ) : Prop :=
  times.IsChain fun later earlier => earlier + interval ≤ later

theorem spaced_cons {interval time : ℕ} {times : List ℕ} :
    Spaced interval (time :: times) ↔
      (∀ last ∈ times.head?, last + interval ≤ time) ∧ Spaced interval times :=
  List.isChain_cons

@[simp] theorem spaced_nil {interval : ℕ} : Spaced interval [] := List.isChain_nil

/-- Something that is called for when the counter is read and called a little later, with the
interval that the test at the reading asks for. -/
structure Attempt where
  attempted : ℕ
  called : ℕ
  interval : UInt32
  deriving DecidableEq

/-- Attempts, the latest first: none is called within its interval after the reading that let the
one before it through. -/
def RateLimited (attempts : List Attempt) : Prop :=
  attempts.IsChain fun later earlier => earlier.attempted + later.interval.toNat ≤ later.called

/-- The stamp is the reading of the last attempt. -/
def Recorded (stamp : UInt32) (clock : ℕ) (attempts : List Attempt) : Prop :=
  ∀ last ∈ attempts.head?, stamp = millis last.attempted ∧ last.attempted ≤ clock

theorem Recorded.mono {stamp : UInt32} {clock later : ℕ} {attempts : List Attempt}
    (h : Recorded stamp clock attempts) (hle : clock ≤ later) : Recorded stamp later attempts :=
  fun last hlast => ⟨(h last hlast).1, (h last hlast).2.trans hle⟩

/-- An attempt that the modular test lets through keeps the rate. -/
theorem RateLimited.attempt {attempts : List Attempt} (h : RateLimited attempts) {stamp : UInt32}
    {clock : ℕ} (hstamp : Recorded stamp clock attempts) {a : Attempt}
    (hclock : clock ≤ a.attempted) (hcalled : a.attempted ≤ a.called)
    (hpassed : ¬ millis a.attempted - stamp < a.interval) : RateLimited (a :: attempts) := by
  refine List.isChain_cons.mpr ⟨fun last hlast => ?_, h⟩
  obtain ⟨rfl, hlastClock⟩ := hstamp last hlast
  have helapsed := elapsed_le (hlastClock.trans hclock)
  have hinterval := UInt32.le_iff_toNat_le.mp (UInt32.not_lt.mp hpassed)
  omega

theorem Recorded.attempt {stamp : UInt32} {attempts : List Attempt} (a : Attempt)
    (hstamp : stamp = millis a.attempted) (hcalled : a.attempted ≤ a.called) :
    Recorded stamp a.called (a :: attempts) := by
  intro last hlast
  cases hlast
  exact ⟨hstamp, hcalled⟩

end Sockets.Foundation
