import MavlinkLogService.Companion.UdpServer
import MavlinkLogService.Service.DroneLogService

/-! What the service answers to the companion server. The recorder is a component of its own, and the
connection state and the download progress are read from theirs. -/

namespace MavlinkLogService.Service

open Companion Storage

/-- `activeProgress()` as the companion thread reads it, in the middle of a job too. -/
structure ProgressReading where
  active : Bool := false
  logId : UInt16 := 0
  bytesReceived : UInt32 := 0
  totalBytes : UInt32 := 0
  bytesPerSec : UInt32 := 0
  deriving DecidableEq, Repr

structure RecorderSnapshot where
  enabled : Bool := false
  active : Bool := false
  durationSec : UInt32 := 0
  freeBytes : UInt64 := 0
  crashReason : String := ""
  deriving DecidableEq, Repr

structure Recorder (R : Type) where
  start : R → RecStartResult × R
  stop : R → R
  snapshot : R → RecorderSnapshot

structure World (R : Type) where
  service : DroneLogService
  recorder : R
  connected : Bool := false
  heartbeatFresh : Bool := false
  progress : ProgressReading := {}

def stateToString : State → String
  | .boot => "boot"
  | .connect => "connect"
  | .waitHeartbeat => "wait_heartbeat"
  | .waitArm => "wait_arm"
  | .waitDisarm => "wait_disarm"
  | .delay => "delay"
  | .enumerate => "enumerate"
  | .archive => "archive"
  | .eraseAll => "erase_all"
  | .cleanup => "cleanup"
  | .connectionLost => "connection_lost"
  | .manualRefresh => "manual_refresh"
  | .manualDownload => "manual_download"
  | .manualErase => "manual_erase"

def jobType : State → String
  | .delay | .enumerate | .archive | .eraseAll => "archive"
  | .manualRefresh => "refresh"
  | .manualDownload => "download"
  | .manualErase => "erase"
  | _ => ""

def archivePercent (prog : ProgressReading) : ℤ :=
  if 0 < prog.totalBytes.toNat then
    toInt32 (prog.bytesReceived.toNat * 100 / prog.totalBytes.toNat % 2 ^ 32)
  else 0

section

variable {R : Type} (recorder : Recorder R)

def buildSnapshot (w : World R) : ServiceSnapshot :=
  let rec_ := recorder.snapshot w.recorder
  let control := w.service.control
  let last := w.service.lastCycleResult
  { state := stateToString control.state
    version := "1.0.0"
    jobType := jobType control.state
    transportConnected := w.connected
    heartbeatFresh := w.heartbeatFresh
    vehicleDetected := control.monitor.vehicleDetected
    vehicleArmed := control.monitor.armed
    fcLogsCount := control.cachedFcLogs.length
    fcLogsStale := control.fcLogsStale
    archiveActive := w.progress.active
    archiveCurrentLogId := w.progress.logId
    archiveProgressBytes := w.progress.bytesReceived
    archiveProgressTotalBytes := w.progress.totalBytes
    archivePercent := archivePercent w.progress
    archiveBytesPerSec := w.progress.bytesPerSec
    lastCycleDownloaded := last.downloaded
    lastCycleSkipped := last.skipped
    lastCycleFailed := last.failed
    lastCycleCancelled := last.cancelled
    lastCycleAllArchived := last.allArchived
    storageUsedBytes := UInt64.ofNat w.service.storage.totalVerifiedBytes
    storageLimitBytes := UInt64.ofNat (StorageManager.maxBytes w.service.config.storage)
    storageArchivedCount := w.service.downloader.database.getStat .flightsArchived
    recordingEnabled := rec_.enabled
    recordingActive := rec_.active
    recordingDurationSec := rec_.durationSec
    recordingFreeBytes := rec_.freeBytes
    recordingCrashReason := rec_.crashReason }

def fcLogEntry (database : Database) (e : LogEntry) : FcLogEntry where
  id := e.id
  size := e.size
  timeUtc := e.timeUtc
  downloaded := database.hasArchived e.id e.size

def buildFcLogsPage (s : DroneLogService) (offset limit : ℤ) : FcLogsPage :=
  let logs := s.control.cachedFcLogs
  let start := max 0 offset
  let stop := min (logs.length : ℤ) (start + limit)
  { count := logs.length
    offset := offset
    stale := s.control.fcLogsStale
    entries := ((logs.take stop.toNat).drop start.toNat).map (fcLogEntry s.downloader.database) }

def callbacks : Callbacks (World R) where
  snapshotFn := buildSnapshot recorder
  fcLogsFn offset limit w := buildFcLogsPage w.service offset limit
  jobGate kind ids all w :=
    ((w.service.control.requestCompanionJob kind ids all w.connected).1,
      { w with service := w.service.arrive (.job kind ids all w.connected) })
  cancelFn w := { w with service := w.service.arrive .cancel }
  recStartFn w :=
    let (result, r) := recorder.start w.recorder
    (result, { w with recorder := r })
  recStopFn w := { w with recorder := recorder.stop w.recorder }

end

end MavlinkLogService.Service
