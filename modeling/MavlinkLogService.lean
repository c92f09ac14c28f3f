import MavlinkLogService.Library.Runs
import MavlinkLogService.Library.Simulation
import MavlinkLogService.Library.Disk
import MavlinkLogService.Library.Programs
import MavlinkLogService.Library.TwoRuns
import MavlinkLogService.Library.Totality
import MavlinkLogService.Library.Executions
import MavlinkLogService.Library.Watched
import MavlinkLogService.Library.Intervals
import MavlinkLogService.Library.Bytes
import MavlinkLogService.Library.Crc
import MavlinkLogService.Library.BoundedQueue
import MavlinkLogService.Library.Blocks
import MavlinkLogService.Library.Fips180
import MavlinkLogService.Library.Json
import MavlinkLogService.Words
import MavlinkLogService.Types
import MavlinkLogService.FlightMonitor
import MavlinkLogService.Transport.UdpTransport
import MavlinkLogService.Transport.MavlinkClient
import MavlinkLogService.Recording.VideoRecorder
import MavlinkLogService.Recording.Processes
import MavlinkLogService.Recording.PidReuse
import MavlinkLogService.Storage.StorageManager
import MavlinkLogService.Storage.Eviction
import MavlinkLogService.Storage.Finalization
import MavlinkLogService.Storage.Durability
import MavlinkLogService.Storage.Database
import MavlinkLogService.Storage.Catalog
import MavlinkLogService.Archive.DataFlash
import MavlinkLogService.Archive.DataFlashGrammar
import MavlinkLogService.Archive.FcSampleOffsets
import MavlinkLogService.Actions
import MavlinkLogService.Session.Sha256
import MavlinkLogService.Session.Sha256Standard
import MavlinkLogService.Session.ReceivedRanges
import MavlinkLogService.Session.GapRequests
import MavlinkLogService.Session.CanonicalRanges
import MavlinkLogService.Session.ChunkCoverage
import MavlinkLogService.Session.Inbox
import MavlinkLogService.Session.ChunkQueue
import MavlinkLogService.Session.OutputFile
import MavlinkLogService.Session.Transfer
import MavlinkLogService.Session.SizeArithmetic
import MavlinkLogService.Session.StreamDownload
import MavlinkLogService.Session.FileOperations
import MavlinkLogService.Session.SlotCoverage
import MavlinkLogService.Session.CoverageHistory
import MavlinkLogService.Session.BurstErrors
import MavlinkLogService.Session.SentBytes
import MavlinkLogService.Session.Contradictions
import MavlinkLogService.Session.Correctness
import MavlinkLogService.Session.OrderedSession
import MavlinkLogService.Session.SessionHistory
import MavlinkLogService.Session.HonestSession
import MavlinkLogService.Session.Termination
import MavlinkLogService.Session.Timeouts
import MavlinkLogService.Session.Delivery
import MavlinkLogService.Session.Attendance
import MavlinkLogService.Session.FedSession
import MavlinkLogService.Session.LossyLink
import MavlinkLogService.Session.Reports
import MavlinkLogService.Archive.LogDownloader
import MavlinkLogService.Archive.SampleReread
import MavlinkLogService.Archive.Watching
import MavlinkLogService.Archive.WriteErrors
import MavlinkLogService.Archive.History
import MavlinkLogService.Archive.Archiving
import MavlinkLogService.Archive.Cycle
import MavlinkLogService.Archive.Ledger
import MavlinkLogService.Archive.Leftovers
import MavlinkLogService.Archive.Deadlines
import MavlinkLogService.Archive.Deduplication
import MavlinkLogService.Archive.ProbeRecognition
import MavlinkLogService.Archive.Provenance
import MavlinkLogService.Archive.Skipping
import MavlinkLogService.Archive.Interruption
import MavlinkLogService.Archive.CancelledCycle
import MavlinkLogService.Library.Handlers
import MavlinkLogService.Service.Arrivals
import MavlinkLogService.Service.Backup
import MavlinkLogService.Service.Cancellation
import MavlinkLogService.Service.PartialLists
import MavlinkLogService.Service.Control
import MavlinkLogService.Service.DroneLogService
import MavlinkLogService.Service.DownloadAck
import MavlinkLogService.Service.Steps
import MavlinkLogService.Service.EraseGate
import MavlinkLogService.Service.Statistics
import MavlinkLogService.Service.Leftovers
import MavlinkLogService.Service.ReconnectPolicy
import MavlinkLogService.Service.WorkEnds
import MavlinkLogService.Service.PendingDisarm
import MavlinkLogService.Service.Rest
import MavlinkLogService.Service.JobQueue
import MavlinkLogService.Service.DrainGate
import MavlinkLogService.Service.CleanupOrder
import MavlinkLogService.Service.FcLogCache
import MavlinkLogService.Service.CancelledOutcome
import MavlinkLogService.Service.DeadTransport
import MavlinkLogService.Companion.Protocol
import MavlinkLogService.Companion.UdpServer
import MavlinkLogService.Service.CompanionApi
import MavlinkLogService.Service.ProgressReadings
import MavlinkLogService.Companion.Replies
import MavlinkLogService.Companion.Requests
import MavlinkLogService.Companion.ReceiveLoop
import MavlinkLogService.Companion.Paging
