import DnetEngine.Lib.Run
import DnetEngine.Lib.SortFind
import DnetEngine.Lib.Fallible
import DnetEngine.Lib.IpText
import DnetEngine.Lib.IpRoundTrip
import DnetEngine.Core.EngineEndpoint
import DnetEngine.Core.EngineNamed
import DnetEngine.Core.EngineAttempt
import DnetEngine.Rules.Cidr
import DnetEngine.Rules.Name
import DnetEngine.Rules.Rule
import DnetEngine.Rules.Eval
import DnetEngine.Rules.Builtin
import DnetEngine.Config.Agreement
import DnetEngine.Config.Lookup
import DnetEngine.Core.Failover
import DnetEngine.Core.FailoverBudget
import DnetEngine.Core.FailoverEvidence
import DnetEngine.Daemon.Orchestrator
import DnetEngine.Daemon.TunnelPlan
import DnetEngine.Daemon.TunnelSound
import DnetEngine.Daemon.TunnelExecutor
import DnetEngine.Daemon.OrchestratorTunnel
import DnetEngine.Daemon.Handle
import DnetEngine.Daemon.HandleConnect
import DnetEngine.Core.PathMonitor
import DnetEngine.Daemon.Netwatch
import DnetEngine.Daemon.NetwatchTunnel
import DnetEngine.Daemon.Tunnels
import DnetEngine.Lib.Recorded
import DnetEngine.Daemon.TunnelsOrder
import DnetEngine.Daemon.TunnelsResidue
import DnetEngine.Lib.Mortal
import DnetEngine.Netstate.Undo
import DnetEngine.Netstate.UndoCrash
import DnetEngine.Netstate.RouteInstaller
import DnetEngine.Daemon.CarryOver
import DnetEngine.Config.Credentials
import DnetEngine.Daemon.Approval
import DnetEngine.Ipc.Protocol
import DnetEngine.Rules.EncryptedDns
import DnetEngine.Daemon.DomainState
import DnetEngine.Daemon.Configure
import DnetEngine.Daemon.Service
import DnetEngine.Daemon.ServiceApproval
import DnetEngine.Rules.Stricter
import DnetEngine.Daemon.Unapproved
import DnetEngine.Feed.Document
import DnetEngine.Lib.HighWater
import DnetEngine.Feed.State
import DnetEngine.Feed.Rollback
import DnetEngine.Feed.Authorised
import DnetEngine.Feed.Service
import DnetEngine.Feed.Eviction
import DnetEngine.Ipc.Frame
import DnetEngine.Ipc.Wire
import DnetEngine.Ipc.EventBus
import DnetEngine.Lib.Derived
import DnetEngine.Config.StoredCredentials
import DnetEngine.Ipc.Request
import DnetEngine.Ipc.RequestRoundTrip
import DnetEngine.Core.FailoverDecision
import DnetEngine.Config.InstallTrust
import DnetEngine.Config.TrustedFile
import DnetEngine.Provision.Ledger
import DnetEngine.Provision.Stages
import DnetEngine.Provision.Accounting
import DnetEngine.Provision.RootCredential
import DnetEngine.Lib.JsonText
import DnetEngine.Provision.LedgerFile
import DnetEngine.Provision.LedgerReopen
import DnetEngine.Daemon.Diagnostics
import DnetEngine.Daemon.Intent
import DnetEngine.Core.EngineTried
import DnetEngine.Daemon.Race
import DnetEngine.Feed.Unambiguous
import DnetEngine.Lib.Leading
import DnetEngine.Rules.Blocks
import DnetEngine.Rules.Personal
import DnetEngine.Rules.Placement
import DnetEngine.Core.EngineChecks
import DnetEngine.Probe.Measure
import DnetEngine.Core.Degraded
import DnetEngine.Core.EngineWarned
import DnetEngine.Core.HealthHistory
import DnetEngine.Core.PortalExpiry
import DnetEngine.Netstate.Paths
import DnetEngine.Daemon.KeepTrying
import DnetEngine.Daemon.NetwatchBudget
import DnetEngine.Daemon.Snapshots
import DnetEngine.Supervisor.Lines
