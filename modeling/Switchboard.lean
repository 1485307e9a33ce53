import Switchboard.Config
import Switchboard.Connection
import Switchboard.Http.Exchange
import Switchboard.Hub.Clock
import Switchboard.Hub.Manage
import Switchboard.Hub.Peer
import Switchboard.Main
import Switchboard.Metrics.Exposition
import Switchboard.Protocol
import Switchboard.Service
import Switchboard.Settings.Load
import Switchboard.Transport
import Switchboard.Transport.Link
import Switchboard.Proofs.Ledger
import Switchboard.Proofs.Registry
import Switchboard.Proofs.Turns
import Switchboard.Proofs.Run
import Switchboard.Proofs.Lifecycle
import Switchboard.Proofs.Accounting
import Switchboard.Proofs.Outbound
import Switchboard.Proofs.OriginGate
import Switchboard.Proofs.Within
import Switchboard.Proofs.Solo
import Switchboard.Proofs.Spares
import Switchboard.Proofs.Timing
import Switchboard.Proofs.CloseReason
import Switchboard.Proofs.Alike
import Switchboard.Proofs.Twins
import Switchboard.Proofs.Tandem
import Switchboard.Proofs.Heartbeat
import Switchboard.Proofs.Responsive
import Switchboard.Proofs.Besides
import Switchboard.Proofs.Apart
import Switchboard.Proofs.Unwinding
import Switchboard.Proofs.Isolation
import Switchboard.Proofs.Changes
import Switchboard.Proofs.Answers
import Switchboard.Proofs.Balance
import Switchboard.Proofs.Stories
import Switchboard.Proofs.Fates
import Switchboard.Proofs.Inbox
import Switchboard.Proofs.Reading
import Switchboard.Proofs.Reader
import Switchboard.Proofs.Invocations
import Switchboard.Proofs.Rota
import Switchboard.Proofs.Handling
import Switchboard.Proofs.Lines
import Switchboard.Proofs.Chores
import Switchboard.Proofs.Heedful
import Switchboard.Proofs.Settled
import Switchboard.Proofs.FanOut
import Switchboard.Proofs.Copies
import Switchboard.Proofs.Faithful
import Switchboard.Proofs.Watched
import Switchboard.Proofs.Parting
import Switchboard.Proofs.Leaving
import Switchboard.Proofs.Codec
import Switchboard.Proofs.Replies
import Switchboard.Proofs.Launch
import Switchboard.Proofs.Oversized
import Switchboard.Proofs.LastWord
import Switchboard.Proofs.Layers
