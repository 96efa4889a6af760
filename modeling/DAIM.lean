import DAIM.Library.Memory
import DAIM.Library.Runs
import DAIM.Library.FirstSeen
import DAIM.Library.History
import DAIM.Library.Routes
import DAIM.Library.Pieces
import DAIM.Library.Mutex
import DAIM.Library.Traces
import DAIM.Library.Agreement
import DAIM.Library.Questions
import DAIM.OpenFlow.Layout
import DAIM.OpenFlow.Messages
import DAIM.OpenFlow.Frames
import DAIM.Linked.Represents
import DAIM.Linked.Cursor
import DAIM.Linked.Remove
import DAIM.Linked.Sequence
import DAIM.Linked.Elements
import DAIM.Linked.Traversals
import DAIM.Linked.Dangling
import DAIM.Com
import DAIM.Hosts
import DAIM.PacketIn
import DAIM.Ani1.Packout
import DAIM.Ani41.State
import DAIM.Ani41.Anim
import DAIM.Ani41.Handlers
import DAIM.Ani41.Answers
import DAIM.Ani41.NodeShare
import DAIM.Ani41.Process
import DAIM.Ani1.Process
import DAIM.Ani41.Tables
import DAIM.Ani41.Shared
import DAIM.Ani41.Learning
import DAIM.Ani41.FlowMods
import DAIM.Ani41.TransportPorts
import DAIM.Ani41.Sent
import DAIM.Ani41.Results
import DAIM.Ani41.Framing
import DAIM.Ani41.Reconnect
import DAIM.Ani41.Interleaving
import DAIM.Ani41.Threads
import DAIM.Ani41.Identity
import DAIM.Ani41.Told
import DAIM.Ani41.Rounds
import DAIM.Ani41.Replys
import DAIM.Ani41.Wire
import DAIM.Ani41.Ports
import DAIM.Ani41.Probes
import DAIM.Ani41.Quiet
import DAIM.Ani41.Returns
import DAIM.Ani41.Calling
import DAIM.Ani41.TableLoops
import DAIM.Ani41.Traversals
import DAIM.Ani1.Calls
import DAIM.Ani1.Copies
import DAIM.Ani41.FeaturesReply
import DAIM.Ani41.Lldp
import DAIM.Ani41.Dispatch
import DAIM.Ani41.Isolation
import DAIM.Ani41.Hellos
import DAIM.Ani41.Pairing
import DAIM.Ani41.Scan
import DAIM.Ani41.Loop
import DAIM.Ani41.Modes
import DAIM.Ani41.Forwarding
import DAIM.Rewrite
import DAIM.Stage1.Relay
import DAIM.Stage1.Endings
import DAIM.Network.Basic
import DAIM.Network.Controllers
import DAIM.Network.Answers
import DAIM.Network.Routing
import DAIM.Network.Identity
import DAIM.Network.Handshake
import DAIM.Network.Discovery
import DAIM.Network.Duplicates
import DAIM.Ani41.Extent
import DAIM.Library.Trails
import DAIM.Ani41.Floods
import DAIM.Network.Traffic
import DAIM.Network.Storm
import DAIM.Network.Copies
import DAIM.Network.Cables
import DAIM.Network.Loops
import DAIM.Network.Chunks
import DAIM.Library.Simulation
import DAIM.Library.Decimal
import DAIM.Ani21.State
import DAIM.Ani21.NodeShare
import DAIM.Ani21.Handlers
import DAIM.Ani21.Process
import DAIM.Ani21.Greetings
import DAIM.Ani21.Upgrade
import DAIM.Ani21.Effects
import DAIM.Ani21.Sharing
import DAIM.Ani21.Framing
import DAIM.Neighbours.Basic
import DAIM.Neighbours.Greetings
import DAIM.Stage1.Lifecycle
import DAIM.Stage1.Signals
import DAIM.Stage1.Orphans
import DAIM.Stage1.Whole
import DAIM.Library.Drains
import DAIM.Network.Worked
import DAIM.Network.Lossless
import DAIM.Network.Spent
import DAIM.Network.Forwards
import DAIM.Network.Homeward
import DAIM.Network.Arrivals
