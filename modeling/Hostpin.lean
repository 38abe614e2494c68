import Hostpin.Foundation.Clock
import Hostpin.Foundation.Calendar
import Hostpin.Foundation.Binary64
import Hostpin.Foundation.KeyedTable
import Hostpin.Foundation.Ledger
import Hostpin.Foundation.Rollup
import Hostpin.Foundation.Text
import Hostpin.Foundation.Json
import Hostpin.Foundation.Bytes
import Hostpin.Foundation.Utf8
import Hostpin.Foundation.Procedure
import Hostpin.Foundation.Interleaving
import Hostpin.Foundation.Runs
import Hostpin.Foundation.Serial
import Hostpin.Foundation.Sorting
import Hostpin.Foundation.TwoRuns
import Hostpin.Foundation.NetIP
import Hostpin.Foundation.Mailbox
import Hostpin.Model.Types
import Hostpin.Alerting.Rule
import Hostpin.Alerting.Engine
import Hostpin.Alerting.Calls
import Hostpin.Alerting.LifeCycle
import Hostpin.Alerting.Sweep
import Hostpin.Alerting.Admin
import Hostpin.Alerting.Reload
import Hostpin.Traffic.Tracker
import Hostpin.Traffic.Total
import Hostpin.Store.Metrics
import Hostpin.Store.Stability
import Hostpin.Store.History
import Hostpin.Store.Coverage
import Hostpin.Traffic.Restart
import Hostpin.Traffic.Correction
import Hostpin.Traffic.Live
import Hostpin.Traffic.LiveView
import Hostpin.Agent.Wire
import Hostpin.Agent.Runtime
import Hostpin.Agent.Stream
import Hostpin.Agent.Convergence
import Hostpin.Agent.LockStep
import Hostpin.Agent.Delivery
import Hostpin.Backup.Container
import Hostpin.Backup.RoundTrip
import Hostpin.Backup.Authentic
import Hostpin.Backup.Manifest
import Hostpin.Backup.FileSystem
import Hostpin.Backup.Restore
import Hostpin.Backup.Checks
import Hostpin.Backup.Rollback
import Hostpin.Backup.Install
import Hostpin.Backup.Pending
import Hostpin.Backup.Recovery
import Hostpin.Backup.Integrity
import Hostpin.Backup.Archive
import Hostpin.Backup.Limits
import Hostpin.Backup.Restorable
import Hostpin.Core.Persister
import Hostpin.Core.Hub
import Hostpin.Core.HubStream
import Hostpin.Security.RateLimit
import Hostpin.Store.Nodes
import Hostpin.Store.Probes
import Hostpin.Store.EnrollmentPINs
import Hostpin.Store.Enrollment
import Hostpin.Store.Identity
import Hostpin.Store.OneUse
import Hostpin.Httpapi.TemporaryPIN
import Hostpin.Httpapi.Credentials
import Hostpin.Httpapi.NodeEdits
import Hostpin.Httpapi.AgentConfigs
import Hostpin.Httpapi.Setup
import Hostpin.Httpapi.AgentStreams
import Hostpin.Httpapi.DeletedNodes
import Hostpin.Httpapi.ClientIP
import Hostpin.Httpapi.Site
import Hostpin.Httpapi.Public
import Hostpin.Httpapi.LiveFeed
import Hostpin.Httpapi.Notifications
import Hostpin.Httpapi.Komari
import Hostpin.Httpapi.KomariMetrics
import Hostpin.Httpapi.KomariRPC
import Hostpin.Httpapi.PrivateSite
import Hostpin.Httpapi.Disclosure
import Hostpin.Httpapi.Visitors
import Hostpin.Httpapi.KomariVisitors
import Hostpin.Httpapi.Noninterference
import Hostpin.Notification.Dispatcher
import Hostpin.Alerting.Emit
import Hostpin.Foundation.Attempts
import Hostpin.Store.Transfer
import Hostpin.Alerting.DaysLeft
import Hostpin.Alerting.Expiry
import Hostpin.Alerting.Online
import Hostpin.Alerting.Tasks
import Hostpin.Foundation.EvenPositions
import Hostpin.Foundation.Months
import Hostpin.Foundation.SlidingWindow
import Hostpin.Httpapi.Latency
import Hostpin.Httpapi.Recording
import Hostpin.Security.RateLimitHistory
import Hostpin.Security.RetryAfter
import Hostpin.Store.MetricColumns
import Hostpin.Traffic.Periods
import Hostpin.Foundation.Decimal
import Hostpin.Foundation.SemVer
import Hostpin.Updater.Version
import Hostpin.Probe.Scheduler
import Hostpin.Httpapi.ProbeTasks
import Hostpin.Httpapi.ProbeTaskRuns
import Hostpin.Httpapi.ProbeTaskPurposes
import Hostpin.Backup.Paths
import Hostpin.Theme.Archive
import Hostpin.Theme.Extraction
import Hostpin.Theme.Containment
import Hostpin.Theme.Install
import Hostpin.Foundation.Base64
import Hostpin.Foundation.Cut
import Hostpin.Security.Token
import Hostpin.Security.Password
import Hostpin.Security.SecretBox
import Hostpin.Httpapi.Access
import Hostpin.Httpapi.AccessRuns
import Hostpin.Httpapi.Admission
import Hostpin.Httpapi.Authority
import Hostpin.Updater.Apply
