import Sockets.Foundation.Endian

/-! The C++ platform under the sockets: `std::size_t`, and text as bytes. -/
namespace Sockets
open Foundation

/-- Width of the target's `std::size_t`: 32 bits on the ESP32, 64 on a host. -/
class SizeWidth where
  bits : ℕ
  wide : 32 ≤ bits

@[reducible] def SizeWidth.esp32 : SizeWidth := ⟨32, le_rfl⟩

@[reducible] def SizeWidth.host : SizeWidth := ⟨64, by norm_num⟩

/-- A `std::size_t` that nothing in memory bounds, such as a configured limit. -/
abbrev SizeT [SizeWidth] := Fin (2 ^ SizeWidth.bits)

/-- `std::size_t` addition. Sizes of objects that are in memory together are added as naturals:
their sum is an amount of memory and does not wrap. -/
def sizeAdd [SizeWidth] (a b : ℕ) : ℕ := (a + b) % 2 ^ SizeWidth.bits

theorem size_pos [SizeWidth] : 0 < 2 ^ SizeWidth.bits := by positivity

theorem sizeAdd_eq [SizeWidth] {a b : ℕ} (h : a + b < 2 ^ SizeWidth.bits) : sizeAdd a b = a + b :=
  Nat.mod_eq_of_lt h

theorem uint32_lt_size [SizeWidth] {n : ℕ} (h : n < 2 ^ 32) : n < 2 ^ SizeWidth.bits :=
  h.trans_le (Nat.pow_le_pow_right (by norm_num) SizeWidth.wide)

instance [SizeWidth] : NeZero (2 ^ SizeWidth.bits) := ⟨size_pos.ne'⟩

/-- A constant of the source. -/
def sizeConstant [SizeWidth] (n : UInt32) : SizeT := ⟨n.toNat, uint32_lt_size n.toNat_lt⟩

/-- A sum that wraps is smaller than either summand. -/
theorem sizeAdd_lt_of_wrap [SizeWidth] {a b : ℕ} (ha : a < 2 ^ SizeWidth.bits)
    (h : 2 ^ SizeWidth.bits ≤ a + b) (hb : b < 2 ^ SizeWidth.bits) : sizeAdd a b < b := by
  have hsub : (a + b) % 2 ^ SizeWidth.bits = a + b - 2 ^ SizeWidth.bits := by
    rw [Nat.mod_eq_sub_mod h, Nat.mod_eq_of_lt (by omega)]
  rw [sizeAdd, hsub]
  omega

/-- The bytes of a string literal of the source. -/
def text (s : String) : Bytes := s.toList.map fun c => UInt8.ofNat c.toNat

end Sockets
