import HostRegistry.Client.Command
import HostRegistry.Main
import HostRegistry.Metrics
import HostRegistry.Registry.Describe
import HostRegistry.Service.Shutdown
import HostRegistry.SortedMap.Lookup
import HostRegistry.Proofs.Release
import HostRegistry.Proofs.SortedSet
import HostRegistry.Proofs.Record
import HostRegistry.Proofs.Snapshot.Built
import HostRegistry.Proofs.Json.Layout
import HostRegistry.Proofs.Storage
import HostRegistry.Proofs.FileTree.Walk
import HostRegistry.Proofs.Snapshot.Deployments
import HostRegistry.Proofs.FileTree.Settled
import HostRegistry.Proofs.FileTree.Replace
import HostRegistry.Proofs.Repository.Operations
import HostRegistry.Proofs.Repository.Quiet
import HostRegistry.Proofs.Management.Requests
import HostRegistry.Proofs.FileTree.Above
import HostRegistry.Proofs.Management.Acknowledged
import HostRegistry.Proofs.Snapshot.InfoSet
import HostRegistry.Proofs.Snapshot.HostLog
import HostRegistry.Proofs.Registry.Observers
import HostRegistry.Proofs.Repository.Mirror
import HostRegistry.Proofs.Management.Interleaving
import HostRegistry.Proofs.Management.Atomicity
import HostRegistry.Proofs.Bytes
import HostRegistry.Proofs.Client.Url
import HostRegistry.Proofs.Repository.FailedLoad
import HostRegistry.Proofs.Client.Addressing
import HostRegistry.Proofs.Registry.Machine
import HostRegistry.Proofs.Registry.Trace
import HostRegistry.Proofs.Registry.Notification
import HostRegistry.Proofs.Record.Acceptance
import HostRegistry.Proofs.Snapshot.Sweep
import HostRegistry.Proofs.Management.Persisting
import HostRegistry.Proofs.Repository.LifeCycle
import HostRegistry.Proofs.Snapshot.HostLists
import HostRegistry.Proofs.Snapshot.DeploymentHosts
import HostRegistry.Proofs.Snapshot.AddRemove
import HostRegistry.Proofs.Json.Compact
import HostRegistry.Proofs.Json.Struct
import HostRegistry.Proofs.Record.HandWritten
import HostRegistry.Proofs.ContainerInfo
import HostRegistry.Proofs.Metrics.Samples
import HostRegistry.Proofs.Metrics.Opening
import HostRegistry.Proofs.Settings.Layers
import HostRegistry.Proofs.Settings.Document
import HostRegistry.Proofs.Settings.Rules
import HostRegistry.Proofs.Settings.Values
import HostRegistry.Proofs.Repository.Debounce
import HostRegistry.Proofs.Repository.Placement
