import Sockets.State.Deeds
import Sockets.State.Laws
import Sockets.State.Peers

/-! What a session makes of a message that it rejects. -/
namespace Sockets.State
open Foundation Sockets.Frame

variable {L : StateLibrary}

variable {H : StateHost L} [SizeWidth]

namespace SocketStateSession

variable {m : Message L} {s : SocketStateSession H} {x : Exterior H}

end SocketStateSession

section Examples

end Examples
end Sockets.State
