import PolledNet.Link.Bench
import PolledNet.File.RamVolume
import PolledNet.File.Scripted
import PolledNet.Log.Text
import PolledNet.Stack.Client
import PolledNet.Proofs.File.Volume
import PolledNet.Proofs.Tftp.Numbering
import PolledNet.Proofs.Tftp.Octets
import PolledNet.Proofs.Tftp.Run
import PolledNet.Proofs.Tftp.Content
import PolledNet.Proofs.Tftp.Get
import PolledNet.Proofs.Core.Uplink
import PolledNet.Proofs.Tftp.Recording
import PolledNet.Proofs.Tftp.Completion
import PolledNet.Proofs.Tftp.Window
import PolledNet.Proofs.Tftp.Put
import PolledNet.Proofs.Deadline
import PolledNet.Proofs.Core.Sending
import PolledNet.Proofs.Core.Activity
import PolledNet.Proofs.Arp.Cache
import PolledNet.Proofs.Core.Waiters
import PolledNet.Proofs.Core.Services
import PolledNet.Proofs.Core.Letters
import PolledNet.Proofs.Core.Mail
import PolledNet.Proofs.Core.Ownership
import PolledNet.Proofs.Tftp.Conduct
import PolledNet.Proofs.Dhcp.Conduct
import PolledNet.Proofs.Dhcp.Soundness
import PolledNet.Proofs.Stack.Serving
import PolledNet.Proofs.Stack.Acquisition
import PolledNet.Proofs.Core.Traffic
import PolledNet.Proofs.Stack.Operation
import PolledNet.Proofs.Stack.Backlog
import PolledNet.Proofs.Stack.Wired
import PolledNet.Proofs.Stack.Receiving
import PolledNet.Proofs.Dhcp.Renewal
import PolledNet.Proofs.Stack.Lifetime
import PolledNet.Proofs.Access.Octets
import PolledNet.Proofs.Access.Frames
import PolledNet.Proofs.Access.Messages
import PolledNet.Proofs.Access.Building
import PolledNet.Proofs.Access.Bindings
import PolledNet.Proofs.Access.Sending
import PolledNet.Proofs.Access.Clients
import PolledNet.Proofs.Access.Files
import PolledNet.Proofs.Access.Transfers
import PolledNet.Proofs.Access.Services
import PolledNet.Proofs.Access.Passes
import PolledNet.Proofs.Stack.Safety
import PolledNet.Proofs.File.Watch
import PolledNet.Proofs.Tftp.Course
import PolledNet.Proofs.Tftp.Lifecycle
import PolledNet.Proofs.Tftp.Patience
import PolledNet.Proofs.Tftp.Reagreement
import PolledNet.Proofs.Core.Silence
import PolledNet.Proofs.Stack.Silence
import PolledNet.Proofs.Tftp.Codec
import PolledNet.Proofs.Dhcp.Codec
import PolledNet.Proofs.Inet.Checksum
import PolledNet.Proofs.Stack.Arrival
import PolledNet.Proofs.Core.Notes
import PolledNet.Proofs.Tftp.Projection
import PolledNet.Proofs.Tftp.Garbage
import PolledNet.Proofs.Sink.Order
import PolledNet.Proofs.Core.Routing
import PolledNet.Proofs.Core.Diary
import PolledNet.Proofs.Core.Addressing
import PolledNet.Proofs.Stack.Addressing
import PolledNet.Proofs.Core.Freshness
import PolledNet.Proofs.Stack.Sweeping
import PolledNet.Proofs.Stack.Freshness
import PolledNet.Proofs.Stack.Reading
import PolledNet.Proofs.Stack.Neighbour
import PolledNet.Proofs.Stack.Joined
import PolledNet.Proofs.Stack.Command
import PolledNet.Proofs.Core.Attendance
import PolledNet.Proofs.Stack.Attendance
import PolledNet.Proofs.File.Numbered
import PolledNet.Proofs.Tftp.Changes
import PolledNet.Proofs.Stack.Roster
import PolledNet.Proofs.Stack.Turnover
import PolledNet.Proofs.Stack.Ports
import PolledNet.Proofs.Stack.Cleanup
import PolledNet.Proofs.Core.Unclaimed
import PolledNet.Proofs.Stack.Unclaimed
import PolledNet.Proofs.Dhcp.Walk
import PolledNet.Proofs.Stack.Request
import PolledNet.Proofs.Tftp.Observed
import PolledNet.Proofs.Tftp.Naming
import PolledNet.Proofs.Tftp.Acknowledging
import PolledNet.Proofs.Tftp.Streaming
import PolledNet.Proofs.Arp.Map
import PolledNet.Proofs.Arp.Schedule
import PolledNet.Proofs.Dhcp.Irrelevance
import PolledNet.Proofs.Dhcp.Search
import PolledNet.Proofs.Stack.Search
import PolledNet.Proofs.Inet.Header
import PolledNet.Proofs.Inet.Corruption
import PolledNet.Proofs.Stack.Echo
import PolledNet.Proofs.File.Writing
import PolledNet.Proofs.File.Sharing
import PolledNet.Proofs.File.Pieces
import PolledNet.Proofs.Tftp.Counter
import PolledNet.Proofs.Inet.Accumulator
import PolledNet.Proofs.Expiry
