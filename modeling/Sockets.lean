import Sockets.Frame.Lossless
import Sockets.Security.Stream
import Sockets.Clock.Integrity
import Sockets.Foundation.Run
import Sockets.Foundation.Cursor
import Sockets.Command.RoundTrip
import Sockets.Command.Pipeline
import Sockets.Transport.WholeFrames
import Sockets.Command.Server
import Sockets.Command.Effects
import Sockets.Command.Gate
import Sockets.Command.Policy
import Sockets.State.Session
import Sockets.State.Effects
import Sockets.State.Client
import Sockets.Servers
import Sockets.State.Messages
import Sockets.State.Laws
import Sockets.State.Emissions
import Sockets.State.Progress
import Sockets.State.Agreement
import Sockets.State.Acceptance
import Sockets.State.Sharing
import Sockets.Foundation.Segments
import Sockets.Command.Lines
import Sockets.Command.Responses
import Sockets.Command.Isolation
import Sockets.State.Deeds
import Sockets.State.Endpoint
import Sockets.State.Loyalty
import Sockets.State.Publications
import Sockets.State.Reconnect
import Sockets.State.Ledger
import Sockets.State.Link
import Sockets.State.Assurance
import Sockets.State.Quiescence
import Sockets.State.Bootstrap
import Sockets.Foundation.Register
import Sockets.State.Freshness
import Sockets.State.Convergence
import Sockets.Clock.Udp
import Sockets.Clock.Origin
import Sockets.Worker.Tasks
import Sockets.Worker.Stale
import Sockets.Worker.Stop
import Sockets.Worker.Orderly
import Sockets.Foundation.Chunking
import Sockets.Frame.Reference
import Sockets.Frame.Reentrant
import Sockets.Security.Latch
import Sockets.Command.Chunks
import Sockets.Command.Oversized
import Sockets.Command.Exchange
import Sockets.Command.Wire
import Sockets.Command.Arguments
import Sockets.Command.Disconnect
import Sockets.Frame.EventReentrant
import Sockets.Foundation.Reentrant
import Sockets.Security.Reentrant
import Sockets.Command.Reentrant
import Sockets.State.Reentrant
import Sockets.State.Rejection
import Sockets.State.Farewell
import Sockets.State.Departure
import Sockets.Foundation.Wrap
import Sockets.Clock.Answer
import Sockets.Clock.Pacing
import Sockets.Clock.Tcp
import Sockets.Attempts
import Sockets.Clock.Late
import Sockets.Limits
import Sockets.Residue
import Sockets.Foundation.Fallible
import Sockets.Command.Reader
import Sockets.Command.Verdict
import Sockets.Clock.Server
import Sockets.Clock.Replies
import Sockets.Foundation.Simulation
import Sockets.State.Stream
import Sockets.Clock.Link
import Sockets.Clock.Streams
import Sockets.Foundation.TimeTransfer
import Sockets.Clock.Accuracy
import Sockets.Clock.Network
import Sockets.Security.Datagram
import Sockets.State.Ownership
import Sockets.State.Recovery
import Sockets.Clock.Sntp
import Sockets.Worker.Notifications
