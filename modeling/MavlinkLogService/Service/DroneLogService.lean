import Mathlib
import MavlinkLogService.Archive.LogDownloader
import MavlinkLogService.Service.Control

/-! The service: its main loop, its state machine, and its steps interleaved with the arrivals of the
other threads. -/

namespace MavlinkLogService.Service

open Archive Library Session Storage

/-- `draining` tells whether the main loop is in `drainCompanionCommands` or about to call `processState`. -/
structure DroneLogService where
  config : Settings
  control : Control := {}
  downloader : LogDownloader := {}
  lastCycleResult : ArchiveCycleResult := {}
  consecutiveArchiveFailures : ℤ := 0
  draining : Bool := true

structure Reading where
  now : ℤ := 0
  reconnected : Bool := true
  heartbeatFresh : Bool := true
  connectOk : Bool := true
  listing : List Path := []

/-- A step of the main loop is a `turn` when it runs no task of the downloader, and `work` when it does. -/
inductive Event
  | arrive (a : Arrival)
  | drain (connected : Bool)
  | turn (reading : Reading)
  | work (moments : List Moment)
  | restart (config : Settings)

def doReconnect (settings : DownloadSettings) (failures : ℤ) (result : ArchiveCycleResult) : Bool :=
  (settings.reconnectOnTransportFailure && isTransportFailure result.lastFailureReason) ||
    decide (0 < settings.reconnectAfterConsecutiveFailures ∧ settings.reconnectAfterConsecutiveFailures ≤ failures)

/-- The new count of consecutive failures, and what is done to the transport. -/
def evaluateArchiveOutcome (settings : DownloadSettings) (failures : ℤ) (result : ArchiveCycleResult)
    (connectOk : Bool) : ℤ × List Action :=
  if 0 < result.cancelled ∧ result.failed = 0 then (failures, [])
  else if result.allArchived = true ∧ result.failed = 0 then (0, [])
  else if doReconnect settings (failures + 1) result then (if connectOk then 0 else failures + 1, [.reconnect])
  else (failures + 1, [])

namespace DroneLogService

def trace (s : DroneLogService) : List Action := s.downloader.trace

def storage (s : DroneLogService) : StorageManager := s.downloader.storage

def rows (s : DroneLogService) : List ArchivedLog := s.downloader.database.archivedLogs

def setState (s : DroneLogService) (state : State) : DroneLogService :=
  { s with control := { s.control with state := state } }

def mark (s : DroneLogService) (marks : List Action) : DroneLogService :=
  { s with downloader := { s.downloader with trace := s.downloader.trace ++ marks } }

def requestCancel (s : DroneLogService) : DroneLogService :=
  { s with downloader := { s.downloader with inbox := s.downloader.inbox.requestCancel } }

def resetCancel (s : DroneLogService) : DroneLogService :=
  { s with downloader := { s.downloader with inbox := s.downloader.inbox.resetCancel } }

def cacheEnumerationResult (s : DroneLogService) (logs : List LogEntry) : DroneLogService :=
  { s with control := { s.control with cachedFcLogs := logs, fcLogsStale := false } }

def returnToIdleState (s : DroneLogService) : DroneLogService :=
  { s with control := s.control.returnToIdleState }

def handleConnectionLost (s : DroneLogService) : DroneLogService :=
  { s with control := s.control.handleConnectionLost }

def arrive (s : DroneLogService) (a : Arrival) : DroneLogService :=
  let (control, x) := s.control.receive a
  { s with control := control, downloader := s.downloader.deliver s.config (Moment.tick {} x) }

def drainCommand (s : DroneLogService) (connected : Bool) : CompanionCommand → DroneLogService
  | .startArchive =>
    if isArchiveBusy s.control.state || s.control.monitor.armed || !connected then s
    else (({ s with control := { s.control with archiveRequested := false, state := .enumerate } }).resetCancel).mark
      [.consume, .job]
  | .cancelArchive => s.requestCancel.mark (hits s.control.state)
  | .refreshLogs => ((s.setState .manualRefresh).resetCancel).mark [.job]
  | .downloadLogs ids all =>
    (({ s with control := { s.control with
        manualDownloadIds := ids, manualDownloadAll := all, state := .manualDownload } }).resetCancel).mark [.job]
  | .eraseAllLogs => ((s.setState .manualErase).resetCancel).mark [.job]

def drain (s : DroneLogService) (connected : Bool) : DroneLogService :=
  match s.control.commands with
  | [] => { s with draining := false }
  | cmd :: cmds => ({ s with control := { s.control with commands := cmds } }).drainCommand connected cmd

def cleanup (s : DroneLogService) (r : Reading) : DroneLogService :=
  let storage := s.downloader.storage.enforceStorageLimit s.config.storage r.listing
  let database := s.downloader.database.setStat .storageBytes storage.totalVerifiedBytes
  let (failures, actions) :=
    evaluateArchiveOutcome s.config.download s.consecutiveArchiveFailures s.lastCycleResult r.connectOk
  let s := ({ s with
    downloader := { s.downloader with storage := storage, database := database }
    consecutiveArchiveFailures := failures }).mark actions
  if s.control.archiveRequested then (s.setState .delay).mark [.job] else s.returnToIdleState

def beginCycle (s : DroneLogService) : DroneLogService :=
  (({ s with control := { s.control with archiveRequested := false, state := .enumerate } }).resetCancel).mark
    [.consume]

def turn (s : DroneLogService) (r : Reading) : Option DroneLogService :=
  match s.control.state with
  | .boot => some (s.setState .connect)
  | .connect =>
    some (if r.reconnected then { s with control := { s.control with fcLogsStale := true, state := .waitHeartbeat } }
      else s)
  | .waitHeartbeat =>
    some (if s.control.monitor.vehicleDetected then s.setState .waitArm
      else if !r.heartbeatFresh then s.handleConnectionLost else s)
  | .waitArm | .waitDisarm => some (if !r.heartbeatFresh then s.handleConnectionLost else s)
  | .delay =>
    some (if s.config.download.delayAfterDisarmSec * 1000 ≤ r.now - s.control.disarmTime then s.beginCycle else s)
  | .enumerate => some (s.setState .archive)
  | .cleanup => some (s.cleanup r)
  | .connectionLost => some (s.setState .connect)
  | .archive | .eraseAll | .manualRefresh | .manualDownload | .manualErase => none

def perform {α : Type} (s : DroneLogService) (moments : List Moment) (task : Archive.Task α) :
    Option (α × DroneLogService) :=
  let (control, ticks) := s.control.observe moments
  match task.run s.downloader ticks with
  | some (a, downloader, []) => some (a, { s with control := control, downloader := downloader })
  | _ => none

def archiveCycle (settings : Settings) (select : LogEntry → Bool) :
    Archive.Task (List LogEntry × ArchiveCycleResult) := do
  let logs ← LogDownloader.enumerateLogs settings
  let result ← LogDownloader.archiveAll settings (logs.filter select)
  return (logs, result)

def eraseUnlessCancelled (settings : Settings) : Archive.Task Unit := do
  let stop ← LogDownloader.cancelled settings
  if stop then return ()
  else
    let _ ← LogDownloader.eraseFlightControllerLogs settings
    return ()

def selected (c : Control) (e : LogEntry) : Bool := c.manualDownloadAll || c.manualDownloadIds.contains e.id

def work (s : DroneLogService) (moments : List Moment) : Option DroneLogService :=
  match s.control.state with
  | .archive => do
    let ((logs, result), s) ← s.perform moments (archiveCycle s.config fun _ => true)
    let s := { s.cacheEnumerationResult logs with lastCycleResult := result }
    if result.cancelled = 0 ∧ result.allArchived = true ∧ s.config.download.eraseAfterSuccess = true ∧ logs ≠ [] then
      return s.setState .eraseAll
    else return s.setState .cleanup
  | .eraseAll => do
    let (_, s) ← s.perform moments (eraseUnlessCancelled s.config)
    return s.setState .cleanup
  | .manualRefresh => do
    let (logs, s) ← s.perform moments (LogDownloader.enumerateLogs s.config)
    return (s.cacheEnumerationResult logs).returnToIdleState
  | .manualDownload => do
    let ((logs, result), s) ← s.perform moments (archiveCycle s.config (selected s.control))
    let s := { s.cacheEnumerationResult logs with lastCycleResult := result }
    let s := { s with control := { s.control with manualDownloadIds := [], manualDownloadAll := false } }
    return s.setState .cleanup
  | .manualErase => do
    let (_, s) ← s.resetCancel.perform moments (LogDownloader.eraseFlightControllerLogs s.config)
    return (s.cacheEnumerationResult []).returnToIdleState
  | _ => none

def start (config : Settings) (storage : StorageManager) (database : Database) (history : List Action) :
    DroneLogService :=
  { config := config
    downloader := { storage := storage.initializeStorage, database := database, trace := history } }

def step (s : DroneLogService) : Event → Option DroneLogService
  | .arrive a => some (s.arrive a)
  | .drain connected => if s.draining then some (s.drain connected) else none
  | .turn r => if s.draining then none else (s.turn r).map fun s => { s with draining := true }
  | .work moments => if s.draining then none else (s.work moments).map fun s => { s with draining := true }
  | .restart config =>
    some (start config s.downloader.storage s.downloader.database (s.downloader.trace ++ [.restart]))

end DroneLogService

end MavlinkLogService.Service
