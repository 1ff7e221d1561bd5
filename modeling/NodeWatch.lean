import NodeWatch.Json.Document
import NodeWatch.Main
import NodeWatch.Proofs.Run
import NodeWatch.Proofs.Round
import NodeWatch.Proofs.Step
import NodeWatch.Proofs.Connection
import NodeWatch.Proofs.Obtained
import NodeWatch.Proofs.Entries
import NodeWatch.Proofs.Sink
import NodeWatch.Proofs.Readings
import NodeWatch.Proofs.Record
import NodeWatch.Proofs.Shown
import NodeWatch.Proofs.Metrics
import NodeWatch.Proofs.Json.Assembly
import NodeWatch.Proofs.Json.Lexing
import NodeWatch.Proofs.Json.RoundTrip
import NodeWatch.Proofs.Conduct
import NodeWatch.Proofs.Registration
import NodeWatch.Proofs.Schedule
import NodeWatch.Proofs.Polling
import NodeWatch.Proofs.InUse
import NodeWatch.Proofs.Family
import NodeWatch.Proofs.GaugeMap
import NodeWatch.Proofs.BlockTimes
import NodeWatch.Proofs.Course
import NodeWatch.Proofs.Transitions
import NodeWatch.Proofs.NodeSide
import NodeWatch.Proofs.Recovery
import NodeWatch.Proofs.Threshold
import NodeWatch.Proofs.SplitRead
import NodeWatch.Proofs.Namespace
import NodeWatch.Proofs.SocketAddress
import NodeWatch.Proofs.Validation
import NodeWatch.Proofs.HealthAddress
import NodeWatch.Proofs.Document
import NodeWatch.Proofs.Json.Bytes
import NodeWatch.Proofs.Json.Records
import NodeWatch.Proofs.NodeForms
import NodeWatch.Proofs.NodeReply
import NodeWatch.Proofs.Quantity
import NodeWatch.Proofs.RoundEffect
import NodeWatch.Proofs.UnsupportedChain
import NodeWatch.Proofs.Lag
import NodeWatch.Proofs.Elapsed
import NodeWatch.Proofs.Service
import NodeWatch.Proofs.Answer
import NodeWatch.Proofs.ExplorerReply
import NodeWatch.Proofs.Loading
import NodeWatch.Proofs.FailedAttempt
import NodeWatch.Proofs.Fields
import NodeWatch.Proofs.ConfigEncoding
import NodeWatch.Proofs.ConfigDefaults
