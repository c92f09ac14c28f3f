import MavlinkLogService.Archive.DataFlash
import MavlinkLogService.Archive.FcSampleOffsets
import MavlinkLogService.Library.Programs
import MavlinkLogService.Session.SessionHistory
import MavlinkLogService.Storage.Database

/-! The log downloader: enumeration, deduplication, download, verification and erase, as programs that
take one tick from the environment at each of their interactions with it. -/

namespace MavlinkLogService.Archive

open Library Session Storage

structure ActiveArchiveProgress where
  active : Bool := false
  logId : UInt16 := 0
  bytesReceived : ℕ := 0
  totalBytes : ℕ := 0
  deriving DecidableEq, Repr

structure LogDownloader where
  inbox : Inbox := {}
  storage : StorageManager := {}
  database : Database := {}
  lastFailureReason : ArchiveFailureReason := .none
  progress : ActiveArchiveProgress := {}
  trace : List Action := []

/-- `signedChar` is the platform's choice for `char`: signed on x86-64, unsigned on ARM Linux. -/
structure Settings where
  download : DownloadSettings := {}
  storage : StorageSettings
  signedChar : Bool := true

namespace LogDownloader

def law : Law LogDownloader Tick where
  rel d ticks d' := events d'.trace = events d.trace ++ ticks.flatMap (fun t => events t.marks) ∧
    d'.inbox.cancelRequested = (d.inbox.cancelRequested || ticks.any (·.cancel))
  refl d := by simp
  trans {d d' d'' u v} h h' := by
    refine ⟨?_, ?_⟩
    · rw [h'.1, h.1, List.flatMap_append, List.append_assoc]
    · rw [h'.2, h.2, List.any_append, Bool.or_assoc]

lemma law_unheard {d d' : LogDownloader} (ht : d'.trace = d.trace)
    (hc : d'.inbox.cancelRequested = d.inbox.cancelRequested) : law.rel d [] d' := by
  simp [law, ht, hc]

end LogDownloader

abbrev Task := Prog LogDownloader.law

namespace LogDownloader

variable (settings : Settings)

def deliver (tick : Tick) (d : LogDownloader) : LogDownloader :=
  { d with inbox := d.inbox.deliver settings.download tick, trace := d.trace ++ tick.marks }

lemma law_deliver (tick : Tick) (d : LogDownloader) : law.rel d [tick] (deliver settings tick d) := by
  simp [law, deliver, Inbox.deliver_cancel]

def await : Task Tick := Prog.next (deliver settings) (law_deliver settings)

lemma law_note {a : Action} (h : a.isEvent = false) (d : LogDownloader) :
    law.rel d [] { d with trace := d.trace ++ [a] } := by
  simp [law, events, h]

def note (a : Action) (h : a.isEvent = false) : Task Unit :=
  Prog.modify (fun d => { d with trace := d.trace ++ [a] }) (law_note h)

def cancelled : Task Bool := do
  let _ ← await settings
  let d ← Prog.get
  return d.inbox.cancelRequested

def clearDataChunks : Task Unit :=
  Prog.modify (fun d => { d with inbox := d.inbox.clearDataChunks }) fun _ => law_unheard rfl rfl

def requestLogList : Task Unit := note (.request .list) rfl

def requestLogEnd : Task Unit := note (.request .finish) rfl

def requestLogData (id : UInt16) (offset count : ℕ) : Task Bool := do
  let tick ← await settings
  note (.request (.data id offset count)) rfl
  return tick.ioOk

def pendingCount : Task ℕ := do
  let d ← Prog.get
  return d.inbox.pendingEntries.length

def enumerationRound (deadline : ℤ) (seen : ℕ × ℤ) : Task ((ℕ × ℤ) ⊕ Unit) := do
  let tick ← await settings
  let d ← Prog.get
  if deadline ≤ tick.now ∨ d.inbox.cancelRequested = true then return .inr ()
  else
    let tick ← await settings
    let count ← pendingCount
    if seen.1 < count then return .inl (count, tick.now)
    else if 1000 ≤ tick.now - seen.2 then return .inr ()
    else return .inl seen

def enumerationAttempt (attempts attempt : ℤ) : Task (ℤ ⊕ Unit) := do
  requestLogList
  let tick ← await settings
  let seen ← pendingCount
  Prog.iterate (enumerationRound settings (tick.now + 15000)) (seen, tick.now)
  let stop ← cancelled settings
  let total ← pendingCount
  if 0 < total ∨ stop = true ∨ attempts ≤ attempt then return .inr ()
  else
    let stop ← cancelled settings
    if stop then return .inr () else return .inl (attempt + 1)

/-- The sort of the source is not stable: which of several entries of one id comes first is left to
`order`. -/
def settleEntries (order : List ℕ) (received : List LogEntry) : List LogEntry :=
  let arranged := order.filterMap (received[·]?) ++ received
  (arranged.insertionSort (fun a b => a.id ≤ b.id)).destutter (fun a b => a.id ≠ b.id)

def enumerateLogs : Task (List LogEntry) := do
  Prog.modify (fun d => { d with inbox := { d.inbox with pendingEntries := [] } }) fun _ => law_unheard rfl rfl
  Prog.iterate (enumerationAttempt settings (max 1 settings.download.enumerateAttempts)) 1
  let tick ← await settings
  let d ← Prog.get
  let entries := settleEntries tick.order d.inbox.pendingEntries
  note (.enumerated d.inbox.pendingEntries entries) rfl
  requestLogEnd
  return entries

def setFailure (reason : ArchiveFailureReason) : Task Unit :=
  Prog.modify (fun d => { d with lastFailureReason := reason }) fun _ => law_unheard rfl rfl

def updateStorage (f : StorageManager → StorageManager) : Task Unit :=
  Prog.modify (fun d => { d with storage := f d.storage }) fun _ => law_unheard rfl rfl

def updateDatabase (f : Database → Database) : Task Unit :=
  Prog.modify (fun d => { d with database := f d.database }) fun _ => law_unheard rfl rfl

def runSession (p : Params) (file : OutputFile) : Task (StreamDownloadResult × OutputFile) where
  run d ticks :=
    (StreamDownload.run settings.download p d.inbox file ticks).map fun (r, s, rest) =>
      ((r, s.transfer.file),
        { d with
          inbox := s.inbox
          progress := if 0 < s.lastProgressBytes then { d.progress with bytesReceived := s.lastProgressBytes }
            else d.progress
          trace := d.trace ++ s.trace ++ [.session p s.transfer.processed] }, rest)
  lawful {d d' ticks rest x} h := by
    obtain ⟨⟨r, s, rest'⟩, hr, heq⟩ := Option.map_eq_some_iff.mp h
    obtain ⟨_, rfl, rfl⟩ : _ ∧ _ ∧ rest' = rest := by simpa using heq
    obtain ⟨used, hu, hh⟩ := StreamDownload.run_heard hr
    refine ⟨used, hu, ?_, hh.cancel⟩
    rw [events_append, events_append, hh.events]
    simp [events, Action.isEvent]

def probeParams (entry : LogEntry) : Params :=
  let n := probeCount settings.download.probeBytes entry.size.toNat
  ⟨entry.id, 0, n, toInt32 n, false⟩

def downloadProbeAndCompare (entry : LogEntry) (candidate : ArchivedLog) : Task Bool := do
  clearDataChunks
  let (result, _) ← runSession settings (probeParams settings entry) {}
  requestLogEnd
  if !result.success then
    setFailure result.failure
    return false
  else
    return result.probeSha256 == candidate.probeSha256 &&
      (probeParams settings entry).probeBytes == candidate.probeBytes

def downloadParams (entry : LogEntry) : Params :=
  ⟨entry.id, 0, entry.size.toNat, settings.download.probeBytes, true⟩

def downloadLogData (entry : LogEntry) (path : Path) : Task (Option StreamDownloadResult) := do
  setFailure .none
  clearDataChunks
  let tick ← await settings
  if !tick.ioOk then
    setFailure .storageError
    return none
  else
    updateStorage (·.write path ⟨[], tick.wall⟩)
    let (result, file) ← runSession settings (downloadParams settings entry) { fails := tick.fileFails }
    requestLogEnd
    let tick ← await settings
    updateStorage (·.write path ⟨file.content, tick.wall⟩)
    if !result.success then
      setFailure result.failure
      return none
    else if settings.download.verifyAfterDownload = true ∧ result.ranges.bytesReceived ≠ entry.size.toNat then
      setFailure .verificationFailed
      return none
    else
      setFailure .none
      return some result

structure Downloaded (settings : Settings) (entry : LogEntry) (path : Path) (d : LogDownloader) (first : Tick)
    (ticks : List Tick) (s : StreamDownload) (result : StreamDownloadResult) (last : Tick) (d' : LogDownloader)
    (rest : List Tick) : Prop where
  session : StreamDownload.run settings.download (downloadParams settings entry)
    (d.inbox.clearDataChunks.deliver settings.download first) { fails := first.fileFails } ticks =
      some (result, s, last :: rest)
  success : result.success = true
  inbox : d'.inbox = s.inbox.deliver settings.download last
  trace : d'.trace = d.trace ++ (first.marks ++ s.trace) ++
    .session (downloadParams settings entry) s.transfer.processed :: .request .finish :: last.marks
  stored : d'.storage.files.lookup path = some ⟨s.transfer.file.content, last.wall⟩

variable {settings} in
lemma downloadLogData_session {entry : LogEntry} {path : Path} {d d' : LogDownloader} {ticks rest : List Tick}
    {result : StreamDownloadResult}
    (h : (downloadLogData settings entry path).run d ticks = some (some result, d', rest)) :
    ∃ first ticks' s last, ticks = first :: ticks' ∧
      Downloaded settings entry path d first ticks' s result last d' rest := by
  obtain ⟨_, d₁, t₁, hf, h⟩ := Prog.bind_returns h
  simp only [setFailure, Prog.modify_run, Option.some.injEq, Prod.mk.injEq, true_and] at hf
  obtain ⟨rfl, rfl⟩ := hf
  obtain ⟨_, d₂, t₂, hf, h⟩ := Prog.bind_returns h
  simp only [clearDataChunks, Prog.modify_run, Option.some.injEq, Prod.mk.injEq, true_and] at hf
  obtain ⟨rfl, rfl⟩ := hf
  obtain ⟨first, d₃, t₃, hf, h⟩ := Prog.bind_returns h
  obtain ⟨rfl, rfl⟩ := Prog.next_returns hf
  split_ifs at h with hio
  · obtain ⟨_, d₄, t₄, _, h⟩ := Prog.bind_returns h
    simp at h
  obtain ⟨_, d₄, t₄, hf, h⟩ := Prog.bind_returns h
  simp only [updateStorage, Prog.modify_run, Option.some.injEq, Prod.mk.injEq, true_and] at hf
  obtain ⟨rfl, rfl⟩ := hf
  obtain ⟨x, d₅, t₅, hsession, h⟩ := Prog.bind_returns h
  obtain ⟨_, d₆, t₆, hf, h⟩ := Prog.bind_returns h
  simp only [requestLogEnd, note, Prog.modify_run, Option.some.injEq, Prod.mk.injEq, true_and] at hf
  obtain ⟨rfl, rfl⟩ := hf
  obtain ⟨last, d₇, t₇, hf, h⟩ := Prog.bind_returns h
  obtain ⟨rfl, rfl⟩ := Prog.next_returns hf
  obtain ⟨_, d₈, t₈, hf, h⟩ := Prog.bind_returns h
  simp only [updateStorage, Prog.modify_run, Option.some.injEq, Prod.mk.injEq, true_and] at hf
  obtain ⟨rfl, rfl⟩ := hf
  split_ifs at h with hfail hshort
  · obtain ⟨_, d₉, t₉, _, h⟩ := Prog.bind_returns h
    simp at h
  · obtain ⟨_, d₉, t₉, _, h⟩ := Prog.bind_returns h
    simp at h
  obtain ⟨_, d₉, t₉, hf, h⟩ := Prog.bind_returns h
  simp only [setFailure, Prog.modify_run, Option.some.injEq, Prod.mk.injEq, true_and] at hf
  obtain ⟨rfl, rfl⟩ := hf
  simp only [Prog.pure_run, Option.some.injEq, Prod.mk.injEq] at h
  obtain ⟨rfl, rfl, rfl⟩ := h
  obtain ⟨⟨r, s, t⟩, hrun, heq⟩ := Option.map_eq_some_iff.mp hsession
  simp only [Prod.mk.injEq] at heq
  obtain ⟨rfl, rfl, rfl⟩ := heq
  refine ⟨first, t₃, s, last, rfl, hrun, by simpa using hfail, rfl, by simp [deliver], AList.lookup_insert _⟩

def readFile (path : Path) : Task (Option (List UInt8)) := do
  let tick ← await settings
  let d ← Prog.get
  return if tick.ioOk then (d.storage.files.lookup path).map File.bytes else none

def verifyDataFlashFile (path : Path) : Task Bool := do
  if !settings.download.verifyDataflashParse then return true
  else
    match ← readFile settings path with
    | none => return false
    | some bytes =>
      let result := validateBytes bytes
      return result.ok && !dataFlashResyncRatioExceeded settings.download result (bytes.length % 2 ^ 32)

def isWanted (id : UInt16) (expectedOffset : ℕ) (c : LogDataChunk) : Bool :=
  c.id == id && c.offset.toNat == expectedOffset

def waitRound (id : UInt16) (expectedOffset : ℕ) (deadline : ℤ) :
    Unit → Task (Unit ⊕ Option (List UInt8)) := fun _ => do
  let tick ← await settings
  let d ← Prog.get
  if deadline ≤ tick.now ∨ d.inbox.cancelRequested = true then return .inr none
  else
    let _ ← await settings
    let d ← Prog.get
    match d.inbox.dataChunks.find? (isWanted id expectedOffset) with
    | none => return .inl ()
    | some chunk =>
      Prog.modify (fun d => { d with inbox.dataChunks := d.inbox.dataChunks.eraseP (isWanted id expectedOffset) })
        fun _ => law_unheard rfl rfl
      return .inr (some chunk.data)

def waitForLogData (id : UInt16) (expectedOffset : ℕ) : Task (Option (List UInt8)) := do
  let tick ← await settings
  let deadline := tick.now + settings.download.downloadTimeoutSec * 1000
  Prog.iterate (waitRound settings id expectedOffset deadline) ()

/-- A byte of the file as a `char`, promoted to `int`. -/
def charValue (signed : Bool) (byte : UInt8) : ℤ :=
  if signed = true ∧ 128 ≤ byte.toNat then byte.toNat - 256 else byte.toNat

/-- The comparison of `std::equal` promotes the `uint8_t` of the answer and the `char` of the file to `int`. -/
def slotMatches (signed : Bool) (chunk got : List UInt8) : Bool :=
  got.length == chunk.length && chunk.map (fun byte => (byte.toNat : ℤ)) == got.map (charValue signed)

/-- The stream reads nothing more once a read came to the end of the file. -/
def rereadSamples (entry : LogEntry) (content : List UInt8) : Bool → List ℕ → Task Bool
  | _, [] => do
    requestLogEnd
    return true
  | good, ofs :: offsets => do
    let sent ← requestLogData settings entry.id ofs logChunkSize
    if !sent then return false
    else
      match ← waitForLogData settings entry.id ofs with
      | none => return false
      | some chunk =>
        let got := if good then (content.drop ofs).take logChunkSize else []
        if !slotMatches settings.signedChar chunk got then return false
        else rereadSamples entry content (good && got.length == logChunkSize) offsets

def rereadParams (entry : LogEntry) : Params := ⟨entry.id, 0, entry.size.toNat, 0, false⟩

def verifyFcSampleReread (entry : LogEntry) (path : Path) (sha256 : String) : Task Bool := do
  match parseFcRereadMode settings.download.verifyFcReread with
  | .none => return true
  | .full =>
    clearDataChunks
    let (result, _) ← runSession settings (rereadParams entry) {}
    requestLogEnd
    return result.success && result.sha256 == sha256
  | .sample =>
    let offsets := buildFcSampleOffsets entry.size settings.download.verifyFcRereadSampleCount entry.id
      entry.size sha256
    if offsets.isEmpty then return true
    else
      match ← readFile settings path with
      | none => return false
      | some content =>
        clearDataChunks
        rereadSamples settings entry content true offsets

def updateProgress (progress : ActiveArchiveProgress) : Task Unit :=
  Prog.modify (fun d => { d with progress := progress }) fun _ => law_unheard rfl rfl

def fail (reason : ArchiveFailureReason) : Task ArchiveResult := do
  updateProgress {}
  setFailure reason
  updateDatabase (·.incrementStat .archiveFailures)
  return .failed

def removePartial (path : Path) : Task Unit := do
  let tick ← await settings
  if tick.ioOk then updateStorage fun st => { st with files := st.files.erase path }
  else return ()

def finalizePartial (path : Path) : Task (Option Path) := do
  let day ← await settings
  let name ← await settings
  let sync ← await settings
  let move ← await settings
  let d ← Prog.get
  let (final, storage) :=
    d.storage.finalizePartial settings.storage path ⟨day.wall, name.wall, sync.ioOk, move.ioOk⟩
  updateStorage fun _ => storage
  return final

def catalogRow (entry : LogEntry) (result : StreamDownloadResult) (started : ℤ) (tick : Tick)
    (final : Path) : ArchivedLog where
  sha256 := result.sha256
  fcLogId := entry.id
  fcLogSize := entry.size
  fcLogTimeUtc := entry.timeUtc
  probeSha256 := result.probeSha256
  probeBytes := result.probeBytes
  archiveTime := tick.wall
  archiveDurationMs := tick.now - started
  filename := final

def recordArchive (entry : LogEntry) (result : StreamDownloadResult) (started : ℤ) (final : Path) :
    Task ArchiveResult := do
  note (.archived final) rfl
  updateProgress {}
  let tick ← await settings
  updateDatabase fun db => (((db.insertArchivedLog (catalogRow entry result started tick final)).incrementStat
    .flightsArchived).incrementStat .bytesDownloaded entry.size.toNat).setStat .lastArchiveTime tick.wall
  return .downloaded

def verifyAndStore (entry : LogEntry) (path : Path) (result : StreamDownloadResult) (started : ℤ) :
    Task ArchiveResult := do
  let parsed ← verifyDataFlashFile settings path
  if !parsed then
    removePartial settings path
    fail .parseFailed
  else
    let reread ← verifyFcSampleReread settings entry path result.sha256
    if !reread then
      removePartial settings path
      fail .rereadMismatch
    else
      match ← finalizePartial settings path with
      | none => fail .storageError
      | some final => recordArchive settings entry result started final

def abandonDownload (path : Path) : Task ArchiveResult := do
  updateProgress {}
  removePartial settings path
  let stop ← cancelled settings
  let d ← Prog.get
  if d.lastFailureReason = .cancelled ∨ stop = true then
    updateDatabase (·.incrementStat .archiveCancellations)
    return .cancelled
  else
    updateDatabase (·.incrementStat .archiveFailures)
    return .failed

def downloadFull (entry : LogEntry) : Task ArchiveResult := do
  let tick ← await settings
  let d ← Prog.get
  let (path, storage) := d.storage.beginPartialFile settings.storage tick.wall
  updateStorage fun _ => storage
  updateProgress ⟨true, entry.id, 0, entry.size.toNat⟩
  match ← downloadLogData settings entry path with
  | none => abandonDownload settings path
  | some result => verifyAndStore settings entry path result tick.now

def checkDedup (entry : LogEntry) : Task (Option ArchivedLog) := do
  let tick ← await settings
  let d ← Prog.get
  return d.database.findCandidate entry.id entry.size (tick.order.headD 0)

def isDuplicate (entry : LogEntry) : Task Bool := do
  match ← checkDedup settings entry with
  | none => return false
  | some candidate => downloadProbeAndCompare settings entry candidate

def archiveOne (entry : LogEntry) : Task ArchiveResult := do
  let duplicate ← isDuplicate settings entry
  if duplicate then
    updateDatabase (·.incrementStat .flightsSkipped)
    return .skippedDuplicate
  else
    let stop ← cancelled settings
    if stop then return .cancelled else downloadFull settings entry

def tally (result : ArchiveCycleResult) (lastFailure : ArchiveFailureReason) :
    ArchiveResult → ArchiveCycleResult
  | .skippedDuplicate => { result with skipped := result.skipped + 1 }
  | .downloaded => { result with downloaded := result.downloaded + 1 }
  | .cancelled => { result with cancelled := result.cancelled + 1, lastFailureReason := .cancelled }
  | .failed => { result with failed := result.failed + 1, lastFailureReason := lastFailure }

def archiveLoop : ArchiveCycleResult → Bool → List LogEntry → Task (ArchiveCycleResult × Bool)
  | result, anyFailed, [] => return (result, anyFailed)
  | result, anyFailed, entry :: logs => do
    let stop ← cancelled settings
    if stop then return (tally result .cancelled .cancelled, true)
    else
      note (.begin entry) rfl
      let outcome ← archiveOne settings entry
      note (.outcome entry outcome) rfl
      let d ← Prog.get
      let result := tally result d.lastFailureReason outcome
      if outcome = .cancelled then return (result, true)
      else archiveLoop result (anyFailed || outcome == .failed) logs

def archiveAll (logs : List LogEntry) : Task ArchiveCycleResult := do
  let (result, anyFailed) ← archiveLoop settings {} false logs
  clearDataChunks
  requestLogEnd
  return { result with allArchived := !anyFailed }

def eraseFlightControllerLogs : Task Bool := do
  let tick ← await settings
  note (.request .erase) rfl
  if tick.ioOk then
    updateDatabase Database.markAllErased
    return true
  else return false

end LogDownloader

end MavlinkLogService.Archive
