import SumCluster.Text.Numeral
import SumCluster.Text.Blank
import SumCluster.Text.Printable
import SumCluster.Text.Quoted
import SumCluster.Text.Scan
import SumCluster.Text.Hex
import SumCluster.Address.Basic
import SumCluster.Address.Printer
import SumCluster.Address.Parser
import SumCluster.Checksum
import SumCluster.Message
import SumCluster.Wire.Layout
import SumCluster.Wire.Payload
import SumCluster.Wire.Frame
import SumCluster.Wire.Client
import SumCluster.Error
import SumCluster.Retry
import SumCluster.Time
import SumCluster.Directory.Basic
import SumCluster.Directory.Liveness
import SumCluster.State
import SumCluster.Config.Basic
import SumCluster.Settings.Value
import SumCluster.Config.Settings
import SumCluster.Json.Scalar
import SumCluster.Json.Reader
import SumCluster.Json.Printer
import SumCluster.Toml.Scalar
import SumCluster.Toml.Value
import SumCluster.Toml.Document
import SumCluster.Server.PeerText
import SumCluster.Server.Config
import SumCluster.Node.Basic
import SumCluster.Node.Following
import SumCluster.Node.Membership
import SumCluster.Node.Contest
import SumCluster.Node.Handling
import SumCluster.Node.Writing
import SumCluster.Node.Duties
import SumCluster.Carrier.Basic
import SumCluster.Carrier.Recorder
import SumCluster.Carrier.Network
import SumCluster.Work.Site
import SumCluster.Work.Burst
import SumCluster.Work.Contest
import SumCluster.Work.Joining
import SumCluster.Work.Replication
import SumCluster.Work.Duty
import SumCluster.Work.Activity
import SumCluster.Timeline.Basic
import SumCluster.Timeline.Call
import SumCluster.Timeline.Cluster
import SumCluster.Timeline.Loopback
import SumCluster.Proofs.Config
import SumCluster.Proofs.Directory.Acks
import SumCluster.Proofs.Message
import SumCluster.Proofs.Node.Acks
import SumCluster.Proofs.Node.Boot
import SumCluster.Proofs.Node.Speech
import SumCluster.Proofs.Node.Standing
import SumCluster.Proofs.Node.Yielding
import SumCluster.Proofs.Work.Deeds
import SumCluster.Proofs.World.Acks
import SumCluster.Proofs.World.Agreement
import SumCluster.Proofs.World.Failover
import SumCluster.Proofs.World.SplitBrain
import SumCluster.Proofs.World.Replication
import SumCluster.Proofs.Node.Place
import SumCluster.Proofs.Node.Integrity
import SumCluster.Proofs.Node.Bid
import SumCluster.Proofs.Node.Move
import SumCluster.Proofs.Node.Coherence
import SumCluster.Proofs.Node.Contention
import SumCluster.Proofs.Work.Bids
import SumCluster.Proofs.Directory.Records
import SumCluster.Proofs.Node.Records
import SumCluster.Proofs.World.Campaign
import SumCluster.Proofs.World.HighestWins
import SumCluster.Proofs.Node.Replies
import SumCluster.Proofs.Node.Unease
import SumCluster.Proofs.World.Wiring
import SumCluster.Proofs.World.Weights
import SumCluster.Proofs.World.Storm
import SumCluster.Proofs.Node.Primary
import SumCluster.Proofs.Directory.Copies
import SumCluster.Proofs.Node.Copies
import SumCluster.Proofs.Node.Delivery
import SumCluster.Proofs.Wire.Frame
import SumCluster.Proofs.Wire.Corruption
import SumCluster.Proofs.World.Gossip
import SumCluster.Proofs.Work.Service
import SumCluster.Proofs.Node.Room
import SumCluster.Proofs.Node.Repair
import SumCluster.Proofs.Node.Winners
import SumCluster.Proofs.Node.Joining
import SumCluster.Proofs.Work.Tapped
import SumCluster.Proofs.Work.Writing
import SumCluster.Proofs.Directory.Export
import SumCluster.Proofs.Work.Polling
import SumCluster.Proofs.Work.Silence
import SumCluster.Proofs.Directory.Operations
import SumCluster.Proofs.Node.Attendance
import SumCluster.Proofs.Node.Lists
import SumCluster.Proofs.Node.Newcomers
import SumCluster.Proofs.Node.Tally
import SumCluster.Proofs.Wire.Size
import SumCluster.Proofs.Node.Sendable
import SumCluster.Proofs.Work.Sweep
import SumCluster.Proofs.Work.Polls
import SumCluster.Proofs.Work.Waiting
import SumCluster.Proofs.Server.Startup
import SumCluster.Proofs.Server.Endpoints
import SumCluster.Proofs.Text.Numeral
import SumCluster.Proofs.Text.Blank
import SumCluster.Proofs.Address.Text
import SumCluster.Proofs.Server.PeerText
import SumCluster.Proofs.Carrier.Operations
import SumCluster.Proofs.Carrier.Closing
