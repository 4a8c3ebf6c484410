import Mathlib.Tactic

/-! Two-way time transfer: what the four readings of a round trip say about two clocks. -/
namespace Sockets.Foundation
variable {T α : Type*}

namespace RoundTrip

section Order
variable [Preorder T]

end Order

variable [Preorder T] [CommRing α] [LinearOrder α] [IsStrictOrderedRing α] {near : T → α} {drift : α}

end RoundTrip
end Sockets.Foundation
