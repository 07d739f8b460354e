import FlyDpi.Lib.Outcome
import FlyDpi.Lib.DropOldest
import FlyDpi.Lib.Runs
import FlyDpi.Lib.Scan
import FlyDpi.Core.Fragments
import FlyDpi.Core.TransportBounds
import FlyDpi.Core.ClientHelloWire
import FlyDpi.Core.ClientHelloSoundness
import FlyDpi.Core.ClientHelloTail
import FlyDpi.Core.RecordFinality
import FlyDpi.Core.QuicWire
import FlyDpi.Core.FlowHistory
import FlyDpi.Core.ConnectLatency
import FlyDpi.Core.FlowTable
import FlyDpi.Core.Lockstep
import FlyDpi.Core.BridgeContract
import FlyDpi.Core.EndpointMetadata
import FlyDpi.Core.AddressFamilies
import FlyDpi.Core.RingHistory
import FlyDpi.Core.IngestMemory
import FlyDpi.Core.StopLatency
import FlyDpi.Core.FilterOwnership
import FlyDpi.Core.FeedSnapshot
import FlyDpi.Orchestrator.SnapshotDecoding
import FlyDpi.Orchestrator.ProfileStore
import FlyDpi.Orchestrator.ProfileNames
import FlyDpi.Orchestrator.HistoryIds
import FlyDpi.Orchestrator.ProbeEngine
import FlyDpi.Orchestrator.DnsAttribution
import FlyDpi.Orchestrator.DiagnosticStages
import FlyDpi.Orchestrator.ErrorClass
import FlyDpi.Orchestrator.Selector
import FlyDpi.Orchestrator.SharedRing
import FlyDpi.Orchestrator.BatchPolling
import FlyDpi.Ui.RpcFraming
import FlyDpi.Ui.RpcRouting
import FlyDpi.Orchestrator.ManagerRuns
import FlyDpi.Core.Provenance
import FlyDpi.Orchestrator.BackendProgress
import FlyDpi.Ui.ShownData
import FlyDpi.Ui.ApplicationProgress
