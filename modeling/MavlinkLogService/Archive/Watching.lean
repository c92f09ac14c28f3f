import MavlinkLogService.Archive.SampleReread
import MavlinkLogService.Library.Watched
import MavlinkLogService.Session.Reports

/-! The log downloader watched from outside: the updates of its progress, the looks of a re-read at the cancel
flag, the time-outs, and where it gives up a log. -/

namespace MavlinkLogService.Archive

open Library Session Storage

/-- The calls of `updateProgressBegin`, `updateProgressBytes` and `updateProgressEnd`, with the time at which
the first two read the clock. -/
inductive ProgressUpdate
  | begin (logId : UInt16) (totalBytes : UInt32) (now : ℤ)
  | bytes (bytesReceived : ℕ) (now : ℤ)
  | finish
  deriving DecidableEq, Repr

inductive Failure
  | opening
  | stream
  | size
  | parse
  | reread
  | finalize
  deriving DecidableEq, Repr

/-- What is seen of a cycle: `polled` is a look of a re-read at the cancel flag, and `ended` the end of a session
or of a re-read by samples, with the state of the transport (connected or not) at the look that waited in vain,
if there was one. -/
inductive Sighting
  | progress (update : ProgressUpdate)
  | polled (raised : Bool)
  | ended (timeout : Option Bool)
  | gaveUp (failure : Failure)
  deriving DecidableEq, Repr

abbrev WatchedTask := Watched LogDownloader.law Sighting

def SampleVerdict.silent : SampleVerdict → Bool
  | .notSent _ | .unanswered _ => true
  | _ => false

def lastUsed (ticks rest : List Tick) : Option Tick := (ticks.take (ticks.length - rest.length)).getLast?

namespace LogDownloader.Watch

open Watched

variable (settings : Settings)

def runSession (p : Params) (file : OutputFile) : WatchedTask (StreamDownloadResult × OutputFile) where
  prog := LogDownloader.runSession settings p file
  seen d ticks :=
    (StreamDownload.progressReports settings.download p (.start p d.inbox file) ticks).map
      (fun report => .progress (.bytes report.1 report.2)) ++
    if ((LogDownloader.runSession settings p file).run d ticks).isSome then
      [.ended ((StreamDownload.timeoutLook settings.download p (.start p d.inbox file) ticks).map (·.connected))]
    else []

def downloadProbeAndCompare (entry : LogEntry) (candidate : ArchivedLog) : WatchedTask Bool := do
  quiet clearDataChunks
  let (result, _) ← runSession settings (probeParams settings entry) {}
  quiet requestLogEnd
  if !result.success then
    quiet (setFailure result.failure)
    return false
  else
    return result.probeSha256 == candidate.probeSha256 &&
      (probeParams settings entry).probeBytes == candidate.probeBytes

def downloadLogData (entry : LogEntry) (path : Path) : WatchedTask (Option StreamDownloadResult) := do
  quiet (setFailure .none)
  quiet clearDataChunks
  let tick ← quiet (await settings)
  if !tick.ioOk then
    showing (.gaveUp .opening) (setFailure .storageError)
    return none
  else
    quiet (updateStorage (·.write path ⟨[], tick.wall⟩))
    let (result, file) ← runSession settings (downloadParams settings entry) { fails := tick.fileFails }
    quiet requestLogEnd
    let tick ← quiet (await settings)
    quiet (updateStorage (·.write path ⟨file.content, tick.wall⟩))
    if !result.success then
      showing (.gaveUp .stream) (setFailure result.failure)
      return none
    else if settings.download.verifyAfterDownload = true ∧ result.ranges.bytesReceived ≠ entry.size.toNat then
      showing (.gaveUp .size) (setFailure .verificationFailed)
      return none
    else
      quiet (setFailure .none)
      return some result

def rereadSession (entry : LogEntry) : WatchedTask (StreamDownloadResult × OutputFile) where
  prog := LogDownloader.runSession settings (rereadParams entry) {}
  seen d ticks :=
    (StreamDownload.flagPolls settings.download (rereadParams entry) (.start (rereadParams entry) d.inbox {}) ticks).map
      .polled ++ (runSession settings (rereadParams entry) {}).seen d ticks

def endReread (accepted : Bool) : WatchedTask Unit where
  prog := requestLogEnd
  seen _ _ := if accepted then [] else [.gaveUp .reread]

def fullReread (entry : LogEntry) (sha256 : String) : WatchedTask Bool := do
  quiet clearDataChunks
  let (result, _) ← rereadSession settings entry
  endReread (result.success && result.sha256 == sha256)
  return result.success && result.sha256 == sha256

def waitRound (id : UInt16) (expectedOffset : ℕ) (deadline : ℤ) : WatchedTask (Unit ⊕ Option (List UInt8)) where
  prog := LogDownloader.waitRound settings id expectedOffset deadline ()
  seen d ticks := match ticks with
    | [] => []
    | tick :: _ => if deadline ≤ tick.now then [] else [.polled (deliver settings tick d).inbox.cancelRequested]

def waitForLogData (id : UInt16) (expectedOffset : ℕ) : WatchedTask (Option (List UInt8)) := do
  let tick ← quiet (await settings)
  let deadline := tick.now + settings.download.downloadTimeoutSec * 1000
  iterate (fun _ => waitRound settings id expectedOffset deadline) ()

def rereadSamples (entry : LogEntry) (content : List UInt8) : Bool → List ℕ → WatchedTask Bool
  | _, [] => do
    quiet requestLogEnd
    return true
  | good, ofs :: offsets => do
    let sent ← quiet (requestLogData settings entry.id ofs logChunkSize)
    if !sent then return false
    else
      match ← waitForLogData settings entry.id ofs with
      | none => return false
      | some chunk =>
        let got := if good then (content.drop ofs).take logChunkSize else []
        if !slotMatches settings.signedChar chunk got then return false
        else rereadSamples entry content (good && got.length == logChunkSize) offsets

def samplePolls (entry : LogEntry) (path : Path) (sha256 : String) : WatchedTask Bool := do
  let offsets := buildFcSampleOffsets entry.size settings.download.verifyFcRereadSampleCount entry.id entry.size sha256
  if offsets.isEmpty then return true
  else
    match ← quiet (readFile settings path) with
    | none => return false
    | some content =>
      quiet clearDataChunks
      rereadSamples settings entry content true offsets

def sampleEnd (entry : LogEntry) (path : Path) (sha256 : String) (d : LogDownloader) (ticks : List Tick) :
    List Sighting :=
  match (sampleVerdict settings entry path sha256).run d ticks with
  | none => []
  | some (verdict, _, rest) =>
    if verdict.accepted then []
    else [.ended (if verdict.silent then (lastUsed ticks rest).map (·.connected) else none), .gaveUp .reread]

def sampleReread (entry : LogEntry) (path : Path) (sha256 : String) : WatchedTask Bool where
  prog := LogDownloader.verifyFcSampleReread settings entry path sha256
  seen d ticks := (samplePolls settings entry path sha256).seen d ticks ++ sampleEnd settings entry path sha256 d ticks

def verifyFcSampleReread (entry : LogEntry) (path : Path) (sha256 : String) : WatchedTask Bool :=
  match parseFcRereadMode settings.download.verifyFcReread with
  | .none => return true
  | .full => fullReread settings entry sha256
  | .sample => sampleReread settings entry path sha256

def fail (reason : ArchiveFailureReason) : WatchedTask ArchiveResult :=
  showing (.progress .finish) (LogDownloader.fail reason)

def verifyAndStore (entry : LogEntry) (path : Path) (result : StreamDownloadResult) (started : ℤ) :
    WatchedTask ArchiveResult := do
  let parsed ← quiet (verifyDataFlashFile settings path)
  if !parsed then
    showing (.gaveUp .parse) (removePartial settings path)
    fail .parseFailed
  else
    let reread ← verifyFcSampleReread settings entry path result.sha256
    if !reread then
      quiet (removePartial settings path)
      fail .rereadMismatch
    else
      match ← quiet (finalizePartial settings path) with
      | none =>
        showing (.gaveUp .finalize) (pure ())
        fail .storageError
      | some final => showing (.progress .finish) (recordArchive settings entry result started final)

def abandonDownload (path : Path) : WatchedTask ArchiveResult :=
  showing (.progress .finish) (LogDownloader.abandonDownload settings path)

def downloadFull (entry : LogEntry) : WatchedTask ArchiveResult := do
  let tick ← quiet (await settings)
  let d ← quiet Prog.get
  let (path, storage) := d.storage.beginPartialFile settings.storage tick.wall
  quiet (updateStorage fun _ => storage)
  showing (.progress (.begin entry.id entry.size tick.now)) (updateProgress ⟨true, entry.id, 0, entry.size.toNat⟩)
  match ← downloadLogData settings entry path with
  | none => abandonDownload settings path
  | some result => verifyAndStore settings entry path result tick.now

def isDuplicate (entry : LogEntry) : WatchedTask Bool := do
  match ← quiet (checkDedup settings entry) with
  | none => return false
  | some candidate => downloadProbeAndCompare settings entry candidate

def archiveOne (entry : LogEntry) : WatchedTask ArchiveResult := do
  let duplicate ← isDuplicate settings entry
  if duplicate then
    quiet (updateDatabase (·.incrementStat .flightsSkipped))
    return .skippedDuplicate
  else
    let stop ← quiet (cancelled settings)
    if stop then return .cancelled else downloadFull settings entry

def archiveLoop : ArchiveCycleResult → Bool → List LogEntry → WatchedTask (ArchiveCycleResult × Bool)
  | result, anyFailed, [] => return (result, anyFailed)
  | result, anyFailed, entry :: logs => do
    let stop ← quiet (cancelled settings)
    if stop then return (tally result .cancelled .cancelled, true)
    else
      quiet (note (.begin entry) rfl)
      let outcome ← archiveOne settings entry
      quiet (note (.outcome entry outcome) rfl)
      let d ← quiet Prog.get
      let result := tally result d.lastFailureReason outcome
      if outcome = .cancelled then return (result, true)
      else archiveLoop result (anyFailed || outcome == .failed) logs

/-! Forgetting what is seen gives back the programs of the downloader. -/

lemma downloadProbeAndCompare_prog (entry : LogEntry) (candidate : ArchivedLog) :
    (downloadProbeAndCompare settings entry candidate).prog =
      LogDownloader.downloadProbeAndCompare settings entry candidate := by
  refine congrArg (Bind.bind _) (funext fun _ => congrArg (Bind.bind _) (funext fun x => ?_))
  refine congrArg (Bind.bind _) (funext fun _ => ?_)
  exact ite_prog _ _

lemma downloadLogData_prog (entry : LogEntry) (path : Path) :
    (downloadLogData settings entry path).prog = LogDownloader.downloadLogData settings entry path := by
  refine congrArg (Bind.bind _) (funext fun _ => congrArg (Bind.bind _) (funext fun _ => ?_))
  refine congrArg (Bind.bind _) (funext fun tick => ?_)
  refine (ite_prog _ _).trans (if_congr Iff.rfl rfl ?_)
  refine congrArg (Bind.bind _) (funext fun _ => congrArg (Bind.bind _) (funext fun x => ?_))
  refine congrArg (Bind.bind _) (funext fun _ => congrArg (Bind.bind _) (funext fun last => ?_))
  refine congrArg (Bind.bind _) (funext fun _ => ?_)
  refine (ite_prog _ _).trans (if_congr Iff.rfl rfl ?_)
  exact ite_prog _ _

lemma rereadSamples_prog (entry : LogEntry) (content : List UInt8) (good : Bool) (offsets : List ℕ) :
    (rereadSamples settings entry content good offsets).prog =
      LogDownloader.rereadSamples settings entry content good offsets := by
  induction offsets generalizing good with
  | nil => rfl
  | cons ofs offsets ih =>
    refine congrArg (Bind.bind _) (funext fun sent => ?_)
    refine (ite_prog _ _).trans (if_congr Iff.rfl rfl (congrArg (Bind.bind _) (funext fun answer => ?_)))
    cases answer with
    | none => rfl
    | some chunk => exact (ite_prog _ _).trans (if_congr Iff.rfl rfl (ih _))

lemma samplePolls_prog (hmode : parseFcRereadMode settings.download.verifyFcReread = .sample) (entry : LogEntry)
    (path : Path) (sha256 : String) : (samplePolls settings entry path sha256).prog =
      LogDownloader.verifyFcSampleReread settings entry path sha256 := by
  rw [LogDownloader.verifyFcSampleReread, hmode]
  refine (ite_prog _ _).trans (if_congr Iff.rfl rfl (congrArg (Bind.bind _) (funext fun content => ?_)))
  cases content with
  | none => rfl
  | some content => exact congrArg (Bind.bind _) (funext fun _ => rereadSamples_prog settings entry content true _)

lemma verifyFcSampleReread_prog (entry : LogEntry) (path : Path) (sha256 : String) :
    (verifyFcSampleReread settings entry path sha256).prog =
      LogDownloader.verifyFcSampleReread settings entry path sha256 := by
  rw [verifyFcSampleReread, LogDownloader.verifyFcSampleReread]
  cases hmode : parseFcRereadMode settings.download.verifyFcReread with
  | none => rfl
  | full => rfl
  | sample =>
    simp only [sampleReread, LogDownloader.verifyFcSampleReread, hmode]

lemma verifyAndStore_prog (entry : LogEntry) (path : Path) (result : StreamDownloadResult) (started : ℤ) :
    (verifyAndStore settings entry path result started).prog =
      LogDownloader.verifyAndStore settings entry path result started := by
  refine congrArg (Bind.bind _) (funext fun parsed => ?_)
  refine (ite_prog _ _).trans (if_congr Iff.rfl rfl ?_)
  refine congrArg₂ Bind.bind (verifyFcSampleReread_prog settings entry path result.sha256) (funext fun reread => ?_)
  refine (ite_prog _ _).trans (if_congr Iff.rfl rfl ?_)
  refine congrArg (Bind.bind _) (funext fun final => ?_)
  cases final <;> rfl

lemma downloadFull_prog (entry : LogEntry) :
    (downloadFull settings entry).prog = LogDownloader.downloadFull settings entry := by
  refine congrArg (Bind.bind _) (funext fun tick => congrArg (Bind.bind _) (funext fun d => ?_))
  refine congrArg (Bind.bind _) (funext fun _ => congrArg (Bind.bind _) (funext fun _ => ?_))
  refine congrArg₂ Bind.bind (downloadLogData_prog settings entry _) (funext fun result => ?_)
  cases result with
  | none => rfl
  | some result => exact verifyAndStore_prog settings entry _ result tick.now

lemma isDuplicate_prog (entry : LogEntry) :
    (isDuplicate settings entry).prog = LogDownloader.isDuplicate settings entry := by
  refine congrArg (Bind.bind _) (funext fun candidate => ?_)
  cases candidate with
  | none => rfl
  | some candidate => exact downloadProbeAndCompare_prog settings entry candidate

lemma archiveOne_prog (entry : LogEntry) :
    (archiveOne settings entry).prog = LogDownloader.archiveOne settings entry := by
  refine congrArg₂ Bind.bind (isDuplicate_prog settings entry) (funext fun duplicate => ?_)
  refine (ite_prog _ _).trans (if_congr Iff.rfl rfl ?_)
  refine congrArg (Bind.bind _) (funext fun stop => ?_)
  exact (ite_prog _ _).trans (if_congr Iff.rfl rfl (downloadFull_prog settings entry))

lemma archiveLoop_prog (result : ArchiveCycleResult) (anyFailed : Bool) (logs : List LogEntry) :
    (archiveLoop settings result anyFailed logs).prog = LogDownloader.archiveLoop settings result anyFailed logs := by
  induction logs generalizing result anyFailed with
  | nil => rfl
  | cons entry logs ih =>
    refine congrArg (Bind.bind _) (funext fun stop => ?_)
    refine (ite_prog _ _).trans (if_congr Iff.rfl rfl ?_)
    refine congrArg (Bind.bind _) (funext fun _ => ?_)
    refine congrArg₂ Bind.bind (archiveOne_prog settings entry) (funext fun outcome => ?_)
    refine congrArg (Bind.bind _) (funext fun _ => congrArg (Bind.bind _) (funext fun d => ?_))
    exact (ite_prog _ _).trans (if_congr Iff.rfl rfl (ih _ _))

lemma runSession_sights {p : Params} {file : OutputFile} {d : LogDownloader} {ticks : List Tick} {x : Sighting}
    (hx : x ∈ (runSession settings p file).seen d ticks) :
    (∃ report ∈ StreamDownload.progressReports settings.download p (.start p d.inbox file) ticks,
      x = .progress (.bytes report.1 report.2)) ∨ ∃ timeout, x = .ended timeout := by
  rcases List.mem_append.mp hx with hx | hx
  · obtain ⟨report, hreport, rfl⟩ := List.mem_map.mp hx
    exact Or.inl ⟨report, hreport, rfl⟩
  · split_ifs at hx
    · exact Or.inr ⟨_, List.mem_singleton.mp hx⟩
    · cases hx

lemma rereadSamples_polls (entry : LogEntry) (content : List UInt8) (good : Bool) (offsets : List ℕ) :
    Only (fun x => ∃ raised, x = .polled raised) (rereadSamples settings entry content good offsets) := by
  have hround : ∀ ofs deadline, Only (fun x => ∃ raised, x = .polled raised)
      (waitRound settings entry.id ofs deadline) := by
    intro ofs deadline d ticks x hx
    cases ticks with
    | nil => cases hx
    | cons tick ticks =>
      simp only [waitRound] at hx
      split_ifs at hx
      · cases hx
      · exact ⟨_, List.mem_singleton.mp hx⟩
  induction offsets generalizing good with
  | nil => exact .bind (.quiet _) fun _ => .quiet _
  | cons ofs offsets ih =>
    refine .bind (.quiet _) fun sent => .ite (.quiet _) (.bind ?_ fun answer => ?_)
    · exact .bind (.quiet _) fun tick => .iterate (fun _ => hround ofs _) ()
    · cases answer with
      | none => exact .quiet _
      | some chunk => exact .ite (.quiet _) (ih _)

lemma samplePolls_polls (entry : LogEntry) (path : Path) (sha256 : String) :
    Only (fun x => ∃ raised, x = .polled raised) (samplePolls settings entry path sha256) := by
  refine .ite (.quiet _) (.bind (.quiet _) fun content => ?_)
  cases content with
  | none => exact .quiet _
  | some content => exact .bind (.quiet _) fun _ => rereadSamples_polls settings entry content true _

lemma sampleReread_sights (entry : LogEntry) (path : Path) (sha256 : String) (d : LogDownloader) (ticks : List Tick) :
    ∀ x ∈ (sampleReread settings entry path sha256).seen d ticks, ∀ u, x ≠ .progress u := by
  rintro x hx u rfl
  rcases List.mem_append.mp hx with hx | hx
  · obtain ⟨raised, h⟩ := samplePolls_polls settings entry path sha256 d ticks _ hx
    cases h
  · rw [sampleEnd] at hx
    split at hx
    · cases hx
    · split_ifs at hx <;> simp at hx

end LogDownloader.Watch

end MavlinkLogService.Archive
