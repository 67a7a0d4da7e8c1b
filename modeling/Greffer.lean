import Greffer.Effects.Routine
import Greffer.Effects.Implement
import Greffer.Effects.Threads
import Greffer.Python.Value
import Greffer.Python.Builtins
import Greffer.Ops.Ledger
import Greffer.Ops.Registry
import Greffer.Ops.Runner
import Greffer.Ops.Batch
import Greffer.Ops.LedgerLaw
import Greffer.Ops.DamagedLedger
import Greffer.Ops.NamespaceVolumes
import Greffer.Ops.VolumeMigration
import Greffer.Retention.Buckets
import Greffer.Docker.Containers
import Greffer.Backup.Model
import Greffer.Backup.Calls
import Greffer.Backup.BackupJob
import Greffer.Backup.RestoreJob
import Greffer.Backup.Spawn
import Greffer.Backup.Footprints
import Greffer.Backup.RestoreQuiet
import Greffer.Backup.RestorePointer
import Greffer.Backup.Callback
import Greffer.Backup.HotManifest
import Greffer.Backup.RepoOps
import Greffer.Backup.RepoExclusive
import Greffer.Backup.Repository
import Greffer.Backup.RetentionSteps
import Greffer.Backup.RetentionLaw
import Greffer.Updater.Commands
import Greffer.Updater.CreateArgs
import Greffer.Updater.Version
import Greffer.Updater.Recreate
import Greffer.Updater.Gate
import Greffer.Updater.Engine
import Greffer.Updater.AllOrNothing
import Greffer.Updater.VerifiedOnly
import Greffer.CertRenewal.Model
import Greffer.CertRenewal.RenewOne
import Greffer.CertRenewal.Pass
import Greffer.CertRenewal.Footprints
import Greffer.CertRenewal.Manager
import Greffer.CertRenewal.MintDebt
import Greffer.Instance.Lock
import Greffer.Instance.Discipline
import Greffer.Instance.Handoff
import Greffer.Instance.Teardown
import Greffer.Instance.Isolation
import Greffer.Backup.TenantVolumes
import Greffer.L4.Ports
import Greffer.L4.Exclusive
import Greffer.Compose.Yaml
import Greffer.Compose.Sharing
import Greffer.Compose.Shape
import Greffer.Compose.Info
import Greffer.Compose.Normalized
import Greffer.Compose.Template
import Greffer.Compose.Collected
import Greffer.Compose.Rebuilt
import Greffer.Compose.Reserved
import Greffer.Compose.Mounts
import Greffer.Compose.Preflight
import Greffer.Backup.ColdQuiet
import Greffer.Backup.RestoreOrder
import Greffer.Python.Lines
import Greffer.Logs.Read
import Greffer.Logs.Daemon
import Greffer.Logs.Poll
import Greffer.Logs.Follow
import Greffer.Python.Layers
import Greffer.Updater.Overlay
import Greffer.Updater.OverlayChain
import Greffer.Instance.Start
import Greffer.Instance.StartRefusal
import Greffer.Effects.Loops
import Greffer.Registration.Workers
import Greffer.Registration.Conduct
import Greffer.Registration.Node
import Greffer.Registration.NeverStranded
import Greffer.Registration.OneToken
import Greffer.Effects.Traces
import Greffer.Updater.Observed
import Greffer.Backup.RestoreRestart
import Greffer.Backup.BootReconcile
import Greffer.Backup.RestoreTarget
import Greffer.Docker.StatusLaw
import Greffer.CertRenewal.Served
import Greffer.CertRenewal.PassLaw
import Greffer.CertRenewal.Schedule
import Greffer.Compose.PortPartition
import Greffer.Python.Paths
import Greffer.Backup.OwnFiles
import Greffer.Effects.Touching
import Greffer.Compose.Postcondition
import Greffer.Compose.Total
import Greffer.L4.Allocation
import Greffer.L4.Stickiness
import Greffer.Compose.StripWarnings
import Greffer.Compose.IntegrationStrip
import Greffer.Instance.L4Mapping
import Greffer.Instance.BakedFiles
import Greffer.Instance.SharedSecret
import Greffer.Instance.PathContainment
import Greffer.Cli.Target
import Greffer.Cli.ImageLines
import Greffer.Cli.Update
import Greffer.Cli.LocalOrder
import Greffer.Effects.Within
import Greffer.Cli.Node
import Greffer.Cli.PutBack
import Greffer.Cli.CrashConsistency
import Greffer.Instance.Finality
import Greffer.Logs.Framing
import Greffer.Logs.DeployFollow
import Greffer.Render.Budget
import Greffer.Render.TreeBudget
import Greffer.Render.Submit
import Greffer.Render.Routes
import Greffer.Cli.RetagUndone
import Greffer.Compose.Idempotent
import Greffer.Compose.InPlace
import Greffer.Compose.PortLaw
import Greffer.Images.Admission
import Greffer.Images.CountCap
import Greffer.Images.Cleanup
import Greffer.Updater.DockerCreate
import Greffer.Updater.Carried
import Greffer.Updater.Faithful
import Greffer.Python.Padded
import Greffer.Cli.VersionOrder
import Greffer.Cli.EnvFile
import Greffer.Instance.ComposeChild
import Greffer.Updater.LockProbe
import Greffer.Registration.StatusReports
import Greffer.Ops.AnyOutcome
import Greffer.Effects.Reliance
import Greffer.Health.Readiness
import Greffer.Health.Watchdog
import Greffer.Health.FalseAlarms
import Greffer.Health.Wedged
import Greffer.Files.Disk
import Greffer.Files.Drafts
import Greffer.Files.Writers
import Greffer.Metrics.DiskUsage
import Greffer.Metrics.OneWalk
import Greffer.Metrics.CpuSamples
import Greffer.Metrics.OwnSamples
import Greffer.Files.NeverTorn
import Greffer.Python.Floats
import Greffer.Bringup.Up
import Greffer.Bringup.Journey
import Greffer.Bringup.Told
import Greffer.Bringup.Ends
import Greffer.Ops.KeyStrays
import Greffer.Heartbeat.Honest
import Greffer.Http.Identified
