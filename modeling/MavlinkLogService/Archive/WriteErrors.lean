import MavlinkLogService.Archive.LogDownloader
import MavlinkLogService.Session.FileOperations
import MavlinkLogService.Storage.Finalization

/-! What becomes of an error of the output stream. -/

namespace MavlinkLogService

namespace Session

structure FirstFailure (fails : ℕ → Option ℕ) (count j n : ℕ) : Prop where
  lt : j < count
  failed : fails j = some n
  before : ∀ k < j, fails k = none

lemma exists_firstFailure {fails : ℕ → Option ℕ} {count : ℕ} (h : ¬ ∀ k < count, fails k = none) :
    ∃ j n, FirstFailure fails count j n := by
  have hex : ∃ k, k < count ∧ fails k ≠ none := by
    push Not at h
    exact h
  classical
  obtain ⟨hlt, hne⟩ := Nat.find_spec hex
  obtain ⟨n, hn⟩ := Option.ne_none_iff_exists'.mp hne
  refine ⟨Nat.find hex, n, hlt, hn, fun k hk => ?_⟩
  by_contra hfails
  exact Nat.find_min hex hk ⟨hk.trans hlt, hfails⟩

namespace StreamDownload

/-- If the chunks that the session takes complete the download, no operation on its stream fails: a seek and a
write for each chunk that is stored, and the flush. -/
def Undisturbed (settings : DownloadSettings) (p : Params) (inbox : Inbox) (file : OutputFile) (ticks : List Tick) :
    Prop :=
  let chunks := received settings p (start p inbox file) ticks
  Completes p chunks → Agree p settings.detectOverlapConflict chunks →
    ∀ k < 2 * (storedChunks p chunks).length + 1, file.fails (file.operations + k) = none

variable {settings : DownloadSettings} {p : Params} {inbox : Inbox} {file : OutputFile} {ticks rest : List Tick}
  {r : StreamDownloadResult} {s : StreamDownload}

lemma run_good_iff (h₀ : p.byteCount ≠ 0) (hw : p.writeFile = true) (hf : file.good = true)
    (hr : run settings p inbox file ticks = some (r, s, rest)) (hs : r.success = true) :
    s.transfer.file.good = true ↔
      ∀ k < 2 * (storedChunks p (received settings p (start p inbox file) ticks)).length + 1,
        file.fails (file.operations + k) = none := by
  rw [run_file h₀ hw hr hs, OutputFile.perform_good, fileOps, length_pairs, and_iff_right hf]

lemma run_empty (h₀ : p.byteCount = 0) (hr : run settings p inbox file ticks = some (r, s, rest)) :
    s.transfer.file = file := by
  obtain ⟨r', hdone, _, htransfer⟩ := start_empty h₀ inbox file
  rw [run, runFrom_done ticks hdone] at hr
  obtain ⟨_, rfl, _⟩ : _ ∧ start p inbox file = s ∧ _ := by simpa using hr
  rw [htransfer]

lemma failures_reported_iff (hw : p.writeFile = true) (hf : file.good = true) :
    (∀ r s rest, run settings p inbox file ticks = some (r, s, rest) → s.transfer.file.good = false →
      r.success = false) ↔ Undisturbed settings p inbox file ticks := by
  constructor
  · intro h hcompletes hagree
    have h₀ : p.byteCount ≠ 0 := fun hz => hcompletes.slots.1 (by rw [hz]; rfl)
    obtain ⟨r, s, rest, hr, hs⟩ := (run_endsWell_iff h₀ inbox file ticks).mpr ⟨hcompletes, hagree⟩
    rw [← run_good_iff h₀ hw hf hr hs]
    by_contra hbad
    rw [h r s rest hr (Bool.eq_false_iff.mpr hbad)] at hs
    cases hs
  · intro h r s rest hr hbad
    by_contra hs
    rw [Bool.not_eq_false] at hs
    by_cases h₀ : p.byteCount = 0
    · rw [run_empty h₀ hr, hf] at hbad
      cases hbad
    · obtain ⟨hcompletes, hagree⟩ := (run_endsWell_iff h₀ inbox file ticks).mp ⟨r, s, rest, hr, hs⟩
      rw [(run_good_iff h₀ hw hf hr hs).mpr (h hcompletes hagree)] at hbad
      cases hbad

lemma run_content_iff (hw : p.writeFile = true) {fails : ℕ → Option ℕ}
    (hr : run settings p inbox { fails := fails } ticks = some (r, s, rest)) (hs : r.success = true) :
    let chunks := received settings p (start p inbox { fails := fails }) ticks
    s.transfer.file.content = receivedBytes p chunks ↔
      ∀ j n, FirstFailure fails (2 * (storedChunks p chunks).length + 1) j n →
        receivedBytes p (survivors (storedChunks p chunks) j n) = receivedBytes p chunks := by
  intro chunks
  by_cases h₀ : p.byteCount = 0
  · obtain ⟨r', hdone, _⟩ := start_empty h₀ inbox { fails := fails }
    have hnone : chunks = [] := received_done hdone ticks
    rw [run_empty h₀ hr, hnone]
    refine iff_of_true rfl fun j n h => ?_
    obtain rfl : j = 0 := by simpa [storedChunks] using h.lt
    rfl
  · rw [run_file h₀ hw hr hs, fileOps]
    have hleft : ∀ j n, FirstFailure fails (2 * (storedChunks p chunks).length + 1) j n →
        (OutputFile.perform { fails := fails } ((storedChunks p chunks).flatMap (chunkOps p) ++ [.flush])).content =
          receivedBytes p (survivors (storedChunks p chunks) j n) := by
      intro j n h
      rw [perform_left rfl (storedChunks p chunks) h.lt (by simpa using h.failed) (by simpa using h.before)]
      split_ifs with hj
      · rw [hj]
        simp [survivors, receivedBytes]
      · rfl
    constructor
    · intro hc j n h
      rw [← hleft j n h]
      exact hc
    · intro h
      by_cases hall : ∀ k < 2 * (storedChunks p chunks).length + 1, fails k = none
      · rw [← receivedBytes_stored p chunks]
        exact perform_works rfl _ (by simpa using hall)
      · obtain ⟨j, n, hfirst⟩ := exists_firstFailure hall
        rw [← h j n hfirst]
        exact hleft j n hfirst

end StreamDownload

end Session

namespace Archive.LogDownloader

open Session Storage

def downloadChunks (settings : Settings) (entry : LogEntry) (d : LogDownloader) (first : Tick) (ticks : List Tick) :
    List LogDataChunk :=
  StreamDownload.received settings.download (downloadParams settings entry)
    (StreamDownload.start (downloadParams settings entry) (d.inbox.clearDataChunks.deliver settings.download first)
      { fails := first.fileFails }) ticks

theorem write_errors_reported_iff (settings : Settings) :
    (∀ (p : Params) (inbox : Inbox) (file : OutputFile) (ticks : List Tick), p.writeFile = true → file.good = true →
      ((∀ r s rest, StreamDownload.run settings.download p inbox file ticks = some (r, s, rest) →
          s.transfer.file.good = false → r.success = false) ↔
        StreamDownload.Undisturbed settings.download p inbox file ticks)) ∧
      ∀ (entry : LogEntry) (path : Path) (d d' : LogDownloader) (first : Tick) (ticks rest : List Tick)
        (result : StreamDownloadResult),
        (downloadLogData settings entry path).run d (first :: ticks) = some (some result, d', rest) →
        let p := downloadParams settings entry
        let chunks := downloadChunks settings entry d first ticks
        ((d'.storage.files.lookup path).map File.bytes = some (receivedBytes p chunks) ↔
          ∀ j n, FirstFailure first.fileFails (2 * (storedChunks p chunks).length + 1) j n →
            receivedBytes p (survivors (storedChunks p chunks) j n) = receivedBytes p chunks) := by
  refine ⟨fun p inbox file ticks hw hf => StreamDownload.failures_reported_iff hw hf, ?_⟩
  intro entry path d d' first ticks rest result hrun p chunks
  obtain ⟨first', ticks', s, last, heq, hd⟩ := downloadLogData_session hrun
  obtain ⟨rfl, rfl⟩ := List.cons.inj heq
  rw [hd.stored, Option.map_some, Option.some.injEq]
  exact StreamDownload.run_content_iff rfl hd.session hd.success

def oneByteLog : LogEntry := ⟨1, 1, 1, 0, 1⟩

def partialPath : Path := ⟨["tmp"], "log.bin", ".partial"⟩

def oneByteTicks : List Tick := [{}, { messages := [.logData 1 0 1 [7]] }, {}]

def flushFails (n : ℕ) : ℕ → Option ℕ := fun k => if k = 2 then some n else none

theorem write_errors_reported_iff_late_failure :
    let settings : Settings := { storage := epochSettings }
    let p := downloadParams settings oneByteLog
    ∃ x, (downloadLogData settings oneByteLog partialPath).run {} ({ fileFails := flushFails 1 } :: oneByteTicks) =
        some x ∧ x.1.isSome = true ∧
      (x.2.1.storage.files.lookup partialPath).map File.bytes = some (receivedBytes p [⟨1, 0, 1, [7]⟩]) := by
  intro settings p
  have h : ((downloadLogData settings oneByteLog partialPath).run {}
      ({ fileFails := flushFails 1 } :: oneByteTicks)).any (fun x => x.1.isSome) = true := by decide +kernel
  obtain ⟨⟨res, d', rest⟩, hrun, hres⟩ := (Option.any_eq_true _ _).mp h
  obtain ⟨result, rfl⟩ := Option.isSome_iff_exists.mp hres
  refine ⟨_, hrun, rfl, ?_⟩
  have hchunks : downloadChunks settings oneByteLog {} { fileFails := flushFails 1 } oneByteTicks =
      [⟨1, 0, 1, [7]⟩] := by decide +kernel
  have hiff := (write_errors_reported_iff settings).2 oneByteLog partialPath {} d' { fileFails := flushFails 1 }
    oneByteTicks rest result hrun
  rw [hchunks] at hiff
  refine hiff.mpr fun j n hj => ?_
  obtain rfl : j = 2 := by
    by_contra hne
    simpa [flushFails, hne] using hj.failed
  obtain rfl : 1 = n := by simpa [flushFails] using hj.failed
  decide

/-- The flush fails before it has moved anything. The session succeeds on the failed stream, and the download
returns success with an empty file. -/
theorem failed_flush_reported_as_success :
    let settings : Settings := { storage := epochSettings }
    let p := downloadParams settings oneByteLog
    (∃ x, StreamDownload.run settings.download p {} { fails := flushFails 0 } oneByteTicks = some x ∧
        x.1.success = true ∧ x.2.1.transfer.file.good = false) ∧
      ∃ x, (downloadLogData settings oneByteLog partialPath).run {} ({ fileFails := flushFails 0 } :: oneByteTicks) =
          some x ∧ x.1.isSome = true ∧ .session p [⟨1, 0, 1, [7]⟩] ∈ x.2.1.trace ∧
        (x.2.1.storage.files.lookup partialPath).map File.bytes = some [] ∧
        receivedBytes p [⟨1, 0, 1, [7]⟩] = [7] := by
  intro settings p
  have hrun : (StreamDownload.run settings.download p {} { fails := flushFails 0 } oneByteTicks).any (fun x =>
      decide (x.1.success = true ∧ x.2.1.transfer.file.good = false)) = true := by decide +kernel
  have hload : ((downloadLogData settings oneByteLog partialPath).run {}
      ({ fileFails := flushFails 0 } :: oneByteTicks)).any (fun x => decide (x.1.isSome = true ∧
        .session p [⟨1, 0, 1, [7]⟩] ∈ x.2.1.trace ∧
        (x.2.1.storage.files.lookup partialPath).map File.bytes = some [] ∧
        receivedBytes p [⟨1, 0, 1, [7]⟩] = [7])) = true := by decide +kernel
  obtain ⟨x, hx, hd⟩ := (Option.any_eq_true _ _).mp hrun
  obtain ⟨y, hy, he⟩ := (Option.any_eq_true _ _).mp hload
  exact ⟨⟨x, hx, of_decide_eq_true hd⟩, y, hy, of_decide_eq_true he⟩

end Archive.LogDownloader

end MavlinkLogService
