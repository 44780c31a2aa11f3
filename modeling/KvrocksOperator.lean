import KvrocksOperator.Interaction.Program
import KvrocksOperator.Interaction.Interference
import KvrocksOperator.Interaction.Mutex
import KvrocksOperator.Interaction.Fallible
import KvrocksOperator.Text.Fields
import KvrocksOperator.Api.Types
import KvrocksOperator.Api.Calls
import KvrocksOperator.Client.Kvrocks
import KvrocksOperator.Client.Controller
import KvrocksOperator.Resources.Names
import KvrocksOperator.Resources.Objects
import KvrocksOperator.Client.K8s
import KvrocksOperator.Common.Command
import KvrocksOperator.Cluster.Handler
import KvrocksOperator.Cluster.Kubernetes
import KvrocksOperator.Cluster.Handle
import KvrocksOperator.Controllers.Reconcile
import KvrocksOperator.Events.Failover
import KvrocksOperator.Standard.Config
import KvrocksOperator.Sentinel.Monitor
import KvrocksOperator.Cluster.Topology
import KvrocksOperator.Events.Decoding
import KvrocksOperator.Cluster.Convergence
import KvrocksOperator.Common.Rotation
import KvrocksOperator.Client.Slots
import KvrocksOperator.Migration.Moves
import KvrocksOperator.Migration.Pass
import KvrocksOperator.Cluster.Rules
import KvrocksOperator.Migration.Resume
import KvrocksOperator.Events.AtMostOnce
import KvrocksOperator.Cluster.Agreement
import KvrocksOperator.Interaction.Recorded
import KvrocksOperator.Sentinel.Handler
import KvrocksOperator.Standard.Handler
import KvrocksOperator.Controllers.Handlers
import KvrocksOperator.Controllers.Accounted
import KvrocksOperator.Api.Footprint
import KvrocksOperator.Controllers.Footprint
import KvrocksOperator.Controllers.Finalization
import KvrocksOperator.Controllers.Writers
import KvrocksOperator.Controllers.Lifecycle
import KvrocksOperator.Cluster.FailedNodes
import KvrocksOperator.Cluster.Responses
import KvrocksOperator.Events.Crash
import KvrocksOperator.Events.Loop
import KvrocksOperator.Events.Producer
import KvrocksOperator.Events.Queue
import KvrocksOperator.Segments.Smallest
import KvrocksOperator.Cluster.Victims
import KvrocksOperator.Client.StatefulSets
import KvrocksOperator.Controllers.Scaling
import KvrocksOperator.Cluster.Shrinking
import KvrocksOperator.Cluster.ShrinkPlan
import KvrocksOperator.Events.Records
import KvrocksOperator.Events.Subscriptions
import KvrocksOperator.Cluster.Phases
import KvrocksOperator.Cluster.Election
import KvrocksOperator.Cluster.Admission
import KvrocksOperator.Cluster.Encoding
import KvrocksOperator.Cluster.Steady
import KvrocksOperator.Cluster.Rest
import KvrocksOperator.Standard.Replication
import KvrocksOperator.Cluster.Claims
import KvrocksOperator.Migration.Books
import KvrocksOperator.Sentinel.Coverage
import KvrocksOperator.Sentinel.Setup
import KvrocksOperator.Controllers.Monitors
import KvrocksOperator.Controllers.OwnedShards
import KvrocksOperator.Controllers.Quiescence
import KvrocksOperator.Controllers.Isolation
import KvrocksOperator.Controllers.TopologyVersion
import KvrocksOperator.Controllers.RecordedMasters
import KvrocksOperator.Migration.Source
import KvrocksOperator.Interaction.Table
