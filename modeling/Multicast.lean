import Multicast.CommandLine
import Multicast.Daemon
import Multicast.Dashboard
import Multicast.Descriptors
import Multicast.Locale
import Multicast.Loop
import Multicast.Main
import Multicast.Path
import Multicast.Program
import Multicast.Progress
import Multicast.Receiver
import Multicast.Rehearsal
import Multicast.Sender
import Multicast.Text.Percent
import Multicast.Proofs.Act.Alike
import Multicast.Proofs.Act.Ends
import Multicast.Proofs.Act.Frame
import Multicast.Proofs.Act.Tally
import Multicast.Proofs.Address.Canonical
import Multicast.Proofs.Address.RoundTrip
import Multicast.Proofs.Dashboard.Activity
import Multicast.Proofs.Dashboard.Alike
import Multicast.Proofs.Dashboard.Faults
import Multicast.Proofs.Dashboard.Run
import Multicast.Proofs.Delivery
import Multicast.Proofs.Loop.Accounts
import Multicast.Proofs.Loop.Display
import Multicast.Proofs.Loop.Faults
import Multicast.Proofs.Loop.Frame
import Multicast.Proofs.Loop.Ledger
import Multicast.Proofs.Loop.Metered
import Multicast.Proofs.Loop.Prospect
import Multicast.Proofs.Loop.Protocol
import Multicast.Proofs.Loop.Release
import Multicast.Proofs.Loop.Resources
import Multicast.Proofs.Loop.Schedule
import Multicast.Proofs.Loop.Termination
import Multicast.Proofs.Loop.Tidy
import Multicast.Proofs.Packet.Codec
import Multicast.Proofs.Program.Domain
import Multicast.Proofs.Program.Failure
import Multicast.Proofs.Program.Frame
import Multicast.Proofs.Program.Restore
import Multicast.Proofs.Program.Serving
import Multicast.Proofs.Program.Start
import Multicast.Proofs.Program.Statistics
import Multicast.Proofs.Program.Surroundings
import Multicast.Proofs.Quantity.Order
import Multicast.Proofs.Quantity.Positive
import Multicast.Proofs.Receiver.Accepted
import Multicast.Proofs.Receiver.Counting
import Multicast.Proofs.Receiver.Draining
import Multicast.Proofs.Receiver.Epochs
import Multicast.Proofs.Receiver.Joined
import Multicast.Proofs.Receiver.Sockets
import Multicast.Proofs.Restart
import Multicast.Proofs.Sender.Books
import Multicast.Proofs.Sender.Numbering
import Multicast.Proofs.Sender.Opening
import Multicast.Proofs.Sender.Rounds
import Multicast.Proofs.Sender.Uplinks
import Multicast.Proofs.Sender.Wire
import Multicast.Proofs.Session.Activity
import Multicast.Proofs.Table.Build
import Multicast.Proofs.Table.Capacity
import Multicast.Proofs.Table.Operations
import Multicast.Proofs.Table.Refusal
import Multicast.Proofs.Table.Resolutions
import Multicast.Proofs.Terminal.Curtain
import Multicast.Proofs.Terminal.Frame
import Multicast.Proofs.Terminal.Scene
import Multicast.Proofs.Transport.Alongside
import Multicast.Proofs.Transport.Blind
import Multicast.Proofs.Transport.Faults
import Multicast.Proofs.Transport.Footing
import Multicast.Proofs.Transport.Frame
import Multicast.Proofs.Token.Grammar
import Multicast.Proofs.Membership.Layout
import Multicast.Proofs.Receiver.Joining
import Multicast.Proofs.Dashboard.Overhang
import Multicast.Proofs.Interfaces.Listing
import Multicast.Proofs.Signals.Restoring
import Multicast.Proofs.Dashboard.Placement
import Multicast.Proofs.Dashboard.Region
