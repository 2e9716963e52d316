import Nxpod.Blobserve.Blobspace
import Nxpod.Blobserve.Collection
import Nxpod.Blobserve.Recovery
import Nxpod.Blobserve.Server
import Nxpod.Cerc.Options
import Nxpod.Cerc.Probes
import Nxpod.Consensus.Election
import Nxpod.Consensus.Recovery
import Nxpod.Content.Git
import Nxpod.Content.LayerProvider
import Nxpod.Content.Manifest
import Nxpod.Content.Naming
import Nxpod.Content.Porcelain
import Nxpod.Content.Prebuild
import Nxpod.Content.Slots
import Nxpod.Content.UploadChunks
import Nxpod.Content.UploadSections
import Nxpod.HostsGov.HostsFile
import Nxpod.HostsGov.Kubernetes
import Nxpod.HostsGov.Source
import Nxpod.ImageBuilder.LogCensor
import Nxpod.ImageBuilder.LogListener
import Nxpod.ImageBuilder.References
import Nxpod.ImageBuilder.Waiting
import Nxpod.Library.Alignment
import Nxpod.Library.Base64
import Nxpod.Library.Cookie
import Nxpod.Library.Duration
import Nxpod.Library.Group
import Nxpod.Library.Hex
import Nxpod.Library.Index
import Nxpod.Library.InitialRun
import Nxpod.Library.Ledger
import Nxpod.Library.Majority
import Nxpod.Library.Map
import Nxpod.Library.Numbering
import Nxpod.Library.Parties
import Nxpod.Library.Pool
import Nxpod.Library.Regex
import Nxpod.Library.Router
import Nxpod.Library.Scanner
import Nxpod.Library.Span
import Nxpod.Library.Timeline
import Nxpod.Library.Transition
import Nxpod.Library.Url
import Nxpod.Library.View
import Nxpod.Library.Window
import Nxpod.Library.Word
import Nxpod.Licensor.Evaluator
import Nxpod.PortAuth.Authorization
import Nxpod.Prebuilds.Bridge
import Nxpod.Prebuilds.Follows
import Nxpod.Prebuilds.Outcome
import Nxpod.Prebuilds.Queue
import Nxpod.Prebuilds.Record
import Nxpod.Protocol.Encryption
import Nxpod.Protocol.Queue
import Nxpod.Protocol.Semaphore
import Nxpod.Protocol.UserEnvVar
import Nxpod.RegistryFacade.Image
import Nxpod.RegistryFacade.LayerSource
import Nxpod.RegistryFacade.Manifest
import Nxpod.ResourceGov.Budget
import Nxpod.ResourceGov.Controller
import Nxpod.ResourceGov.Dispatch
import Nxpod.ResourceGov.Governer
import Nxpod.ResourceGov.Quota
import Nxpod.Scheduler.BindingCache
import Nxpod.Scheduler.Booking
import Nxpod.Scheduler.Cluster
import Nxpod.Scheduler.Density
import Nxpod.Scheduler.EvenLoadSpots
import Nxpod.Scheduler.State
import Nxpod.Scheduler.Strategy
import Nxpod.Server.Bitbucket
import Nxpod.Server.EnvvarPrefix
import Nxpod.Server.ExposedPorts
import Nxpod.Server.GithubTree
import Nxpod.Server.ProviderHost
import Nxpod.Server.RepositoryUrl
import Nxpod.Supervisor.BackupCanary
import Nxpod.Supervisor.DropWriter
import Nxpod.Theia.DiffPositions
import Nxpod.Theia.LineMapper
import Nxpod.Theia.ProcNet
import Nxpod.Theia.ServedPorts
import Nxpod.UserStore.Plugins
import Nxpod.UserStore.SingleToken
import Nxpod.WsManager.Dangling
import Nxpod.WsManager.Environment
import Nxpod.WsManager.Finalize
import Nxpod.WsManager.GrpcPool
import Nxpod.WsManager.Headless
import Nxpod.WsManager.IngressAllocator
import Nxpod.WsManager.IngressBooks
import Nxpod.WsManager.IngressReconcile
import Nxpod.WsManager.IngressSearch
import Nxpod.WsManager.Listening
import Nxpod.WsManager.Objects
import Nxpod.WsManager.Patch
import Nxpod.WsManager.Ports
import Nxpod.WsManager.Report
import Nxpod.WsManager.Status
import Nxpod.WsManager.Stop
import Nxpod.WsManager.Subscribers
import Nxpod.WsManager.Timeout
import Nxpod.WsManager.WorkPool
import Nxpod.WsProxy.Auth
import Nxpod.WsProxy.Cookies
import Nxpod.WsProxy.Cors
import Nxpod.WsProxy.HostMatch
import Nxpod.WsProxy.InfoCache
import Nxpod.WsProxy.InfoSync
import Nxpod.WsProxy.Listen
import Nxpod.WsProxy.Routes
import Nxpod.WsProxy.WorkspaceRouter
import Nxpod.WsSync.Backup
import Nxpod.WsSync.DisposeWorkspace
import Nxpod.WsSync.InitWorkspace
import Nxpod.WsSync.Lifecycle
import Nxpod.WsSync.Mounts
import Nxpod.WsSync.QuotaSize
import Nxpod.WsSync.Restart
import Nxpod.WsSync.Waiting
import Nxpod.WsSync.Workspace
import Nxpod.WsManager.Monitor
import Nxpod.WsManager.FinalBackup
import Nxpod.Library.Paths
import Nxpod.Server.ConfigProvider
import Nxpod.Library.History
import Nxpod.Server.GarbageCollector
import Nxpod.Server.OneTimeSecret
import Nxpod.CommonGo.Redact
import Nxpod.RegistryFacade.Pull
import Nxpod.Library.Topic
import Nxpod.MessageBus.Topics
import Nxpod.Server.Initializer
import Nxpod.WsManager.Create
import Nxpod.WsManager.Requested
import Nxpod.WsSync.ContainerdCRI
