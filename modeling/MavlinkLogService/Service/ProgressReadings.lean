import MavlinkLogService.Archive.Watching
import MavlinkLogService.Service.CompanionApi
import MavlinkLogService.Storage.Finalization

/-! What `activeProgress()` returns between the calls of `archiveOne` and in the middle of them. -/

namespace MavlinkLogService

open Library Session Storage

namespace Archive.LogDownloader

def SameProgress (d d' : LogDownloader) : Prop := d'.progress = d.progress

instance : Std.Refl SameProgress := ⟨fun _ => rfl⟩

instance : IsTrans LogDownloader SameProgress := ⟨fun _ _ _ h h' => Eq.trans h' h⟩

abbrev Unreported {α : Type} (p : Task α) : Prop := Prog.Moves (fun _ => True) SameProgress p

variable (settings : Settings)

lemma await_unreported : Unreported (await settings) := .next fun _ _ _ => rfl

lemma modify_unreported {f : LogDownloader → LogDownloader} {hl : ∀ d, law.rel d [] (f d)}
    (hf : ∀ d, (f d).progress = d.progress) : Unreported (Prog.modify f hl) := .modify hf

lemma clearDataChunks_unreported : Unreported clearDataChunks := modify_unreported fun _ => rfl

lemma note_unreported {a : Action} (h : a.isEvent = false) : Unreported (note a h) := modify_unreported fun _ => rfl

lemma requestLogEnd_unreported : Unreported requestLogEnd := note_unreported rfl

lemma setFailure_unreported (reason : ArchiveFailureReason) : Unreported (setFailure reason) :=
  modify_unreported fun _ => rfl

lemma updateStorage_unreported (f : StorageManager → StorageManager) : Unreported (updateStorage f) :=
  modify_unreported fun _ => rfl

lemma updateDatabase_unreported (f : Database → Database) : Unreported (updateDatabase f) :=
  modify_unreported fun _ => rfl

lemma cancelled_unreported : Unreported (cancelled settings) :=
  .bind (await_unreported settings) fun _ => .bind .get fun _ => .pure _

lemma checkDedup_unreported (entry : LogEntry) : Unreported (checkDedup settings entry) :=
  .bind (await_unreported settings) fun _ => .bind .get fun _ => .pure _

lemma readFile_unreported (path : Path) : Unreported (readFile settings path) :=
  .bind (await_unreported settings) fun _ => .bind .get fun _ => .pure _

lemma verifyDataFlashFile_unreported (path : Path) : Unreported (verifyDataFlashFile settings path) := by
  refine .ite (.pure _) (.bind (readFile_unreported settings path) fun bytes => ?_)
  cases bytes <;> exact .pure _

lemma removePartial_unreported (path : Path) : Unreported (removePartial settings path) :=
  .bind (await_unreported settings) fun _ => .ite (updateStorage_unreported _) (.pure _)

lemma finalizePartial_unreported (path : Path) : Unreported (finalizePartial settings path) := by
  refine .bind (await_unreported settings) fun day => .bind (await_unreported settings) fun name => ?_
  refine .bind (await_unreported settings) fun sync => .bind (await_unreported settings) fun move => ?_
  exact .bind .get fun d => .bind (updateStorage_unreported _) fun _ => .pure _

lemma waitForLogData_unreported (id : UInt16) (expectedOffset : ℕ) :
    Unreported (waitForLogData settings id expectedOffset) := by
  refine .bind (await_unreported settings) fun tick => .iterate (fun _ => ?_) _
  refine .bind (await_unreported settings) fun tick => .bind .get fun d => .ite (.pure _) ?_
  refine .bind (await_unreported settings) fun _ => .bind .get fun d => ?_
  cases d.inbox.dataChunks.find? (isWanted id expectedOffset) with
  | none => exact .pure _
  | some chunk => exact .bind (modify_unreported fun _ => rfl) fun _ => .pure _

lemma rereadSamples_unreported (entry : LogEntry) (content : List UInt8) (good : Bool) (offsets : List ℕ) :
    Unreported (rereadSamples settings entry content good offsets) := by
  induction offsets generalizing good with
  | nil => exact .bind requestLogEnd_unreported fun _ => .pure _
  | cons ofs offsets ih =>
    refine .bind (.bind (await_unreported settings) fun _ => .bind (note_unreported rfl) fun _ => .pure _)
      fun sent => .ite (.pure _) (.bind (waitForLogData_unreported settings entry.id ofs) fun answer => ?_)
    cases answer with
    | none => exact .pure _
    | some chunk => exact .ite (.pure _) (ih _)

lemma sampleReread_unreported (hmode : parseFcRereadMode settings.download.verifyFcReread = .sample)
    (entry : LogEntry) (path : Path) (sha256 : String) :
    Unreported (verifyFcSampleReread settings entry path sha256) := by
  simp only [verifyFcSampleReread, hmode]
  refine .ite (.pure _) (.bind (readFile_unreported settings path) fun content => ?_)
  cases content with
  | none => exact .pure _
  | some content =>
    exact .bind clearDataChunks_unreported fun _ => rereadSamples_unreported settings entry content true _

variable {settings} in
lemma updateProgress_returns {α : Type} {progress : ActiveArchiveProgress} {q : Unit → Task α} {d d' : LogDownloader}
    {ticks rest : List Tick} {a : α} (hq : ∀ u, Unreported (q u))
    (hr : (updateProgress progress >>= q).run d ticks = some (a, d', rest)) : d'.progress = progress := by
  obtain ⟨u, d₁, ticks₁, hp, hr₁⟩ := Prog.bind_returns hr
  simp only [updateProgress, Prog.modify_run, Option.some.injEq, Prod.mk.injEq, true_and] at hp
  obtain ⟨rfl, rfl⟩ := hp
  exact (hq u _ _ ticks a d' rest rfl (fun _ _ => trivial) hr₁).1

end Archive.LogDownloader

namespace Service

open Archive LogDownloader Watched

structure ProgressState where
  reading : ProgressReading := {}
  begun : ℤ := 0
  deriving DecidableEq, Repr

/-- The throughput, a quotient of doubles, enters as a function of the bytes and of the milliseconds since the
log began. -/
def ProgressState.update (throughput : ℕ → ℤ → UInt32) (w : ProgressState) : ProgressUpdate → ProgressState
  | .begin logId totalBytes now =>
    { reading :=
        { active := true
          logId := logId
          bytesReceived := 0
          totalBytes := totalBytes
          bytesPerSec := 0 }
      begun := now }
  | .bytes bytesReceived now =>
    { w with
      reading.bytesReceived := .ofNat bytesReceived
      reading.bytesPerSec :=
        if 200 < now - w.begun then throughput bytesReceived (now - w.begun) else w.reading.bytesPerSec }
  | .finish => { w with reading := {} }

structure Honest (r : ProgressReading) : Prop where
  bytes : r.active = true → r.bytesReceived ≤ r.totalBytes
  percent : 0 ≤ archivePercent r ∧ archivePercent r ≤ 100

def progressMonitor (throughput : ℕ → ℤ → UInt32) : Monitor ProgressState Sighting where
  see w
    | .progress u => w.update throughput u
    | _ => w
  permits w
    | .progress u => Honest (w.update throughput u).reading
    | _ => True

def Shows (d : LogDownloader) (r : ProgressReading) : Prop :=
  d.progress = ⟨r.active, r.logId, r.bytesReceived.toNat, r.totalBytes.toNat⟩

structure Idle (w : ProgressState) : Prop where
  active : w.reading.active = false
  total : w.reading.totalBytes = 0

structure Running (size : UInt32) (w : ProgressState) : Prop where
  total : w.reading.totalBytes = size
  bytes : w.reading.bytesReceived ≤ size

lemma Idle.of_zero {w : ProgressState} (h : w.reading = {}) : Idle w := ⟨by rw [h], by rw [h]⟩

lemma Idle.honest {w : ProgressState} (h : Idle w) : Honest w.reading := by
  refine ⟨fun ha => by simp [h.active] at ha, ?_⟩
  rw [archivePercent, h.total, if_neg (by decide)]
  decide

lemma Running.honest {size : UInt32} {w : ProgressState} (h : Running size w) : Honest w.reading := by
  refine ⟨fun _ => h.total.symm ▸ h.bytes, ?_⟩
  rw [archivePercent, h.total]
  split_ifs with hpos
  · have hle : w.reading.bytesReceived.toNat * 100 / size.toNat ≤ 100 :=
      Nat.div_le_of_le_mul (Nat.mul_le_mul_right 100 (UInt32.le_iff_toNat_le.mp h.bytes))
    generalize w.reading.bytesReceived.toNat * 100 / size.toNat = percent at hle ⊢
    rw [toInt32, Nat.mod_eq_of_lt (by omega), if_pos (by omega)]
    omega
  · decide

section

variable (settings : Settings) (throughput : ℕ → ℤ → UInt32)

def Reads (X : ProgressState → Prop) (d : LogDownloader) (_ : List Tick) (w : ProgressState) : Prop :=
  Shows d w.reading ∧ X w

variable {settings throughput} {X Y : ProgressState → Prop}

lemma quiet_reads {α : Type} {p : Archive.Task α} (hp : Unreported p) :
    Triple (progressMonitor throughput) (Reads X) (quiet p) (fun _ => Reads X) := by
  refine .quiet fun d ticks w a d' rest h hr => ?_
  have hsame : d'.progress = d.progress := (hp d d ticks a d' rest rfl (fun _ _ => trivial) hr).1
  exact ⟨hsame.trans h.1, h.2⟩

lemma gaveUp_reads {α : Type} {p : Archive.Task α} (f : Failure) (hp : Unreported p) :
    Triple (progressMonitor throughput) (Reads X) (showing (.gaveUp f) p) (fun _ => Reads X) := by
  refine .showing (fun _ _ _ _ => trivial) fun d ticks w a d' rest h hr => ?_
  have hsame : d'.progress = d.progress := (hp d d ticks a d' rest rfl (fun _ _ => trivial) hr).1
  exact ⟨hsame.trans h.1, h.2⟩

lemma zero_honest (w : ProgressState) : Honest (w.update throughput .finish).reading :=
  (Idle.of_zero (w := w.update throughput .finish) rfl).honest

lemma finish_reads {α : Type} {p : Archive.Task α}
    (hp : ∀ d ticks a d' rest, p.run d ticks = some (a, d', rest) → d'.progress = {}) :
    Triple (progressMonitor throughput) (Reads X) (showing (.progress .finish) p)
      (fun _ => Reads (·.reading = {})) :=
  .showing (fun _ _ w _ => zero_honest w) fun d ticks _ a d' rest _ hr => ⟨hp d ticks a d' rest hr, rfl⟩

variable (throughput) in
lemma after_reports (reports : List (ℕ × ℤ)) (w : ProgressState) :
    let r := ((progressMonitor throughput).after w
      (reports.map fun report => .progress (.bytes report.1 report.2))).reading
    r.active = w.reading.active ∧ r.logId = w.reading.logId ∧ r.totalBytes = w.reading.totalBytes ∧
      r.bytesReceived = (reports.getLast?.map fun report => .ofNat report.1).getD w.reading.bytesReceived := by
  induction reports generalizing w with
  | nil => exact ⟨rfl, rfl, rfl, rfl⟩
  | cons report reports ih =>
    obtain ⟨hactive, hid, htotal, hbytes⟩ := ih (w.update throughput (.bytes report.1 report.2))
    refine ⟨hactive, hid, htotal, hbytes.trans ?_⟩
    rw [List.getLast?_cons]
    cases reports.getLast? <;> rfl

lemma after_session (p : Params) (file : OutputFile) (d : LogDownloader) (ticks : List Tick) (w : ProgressState) :
    (progressMonitor throughput).after w ((Watch.runSession settings p file).seen d ticks) =
      (progressMonitor throughput).after w
        ((StreamDownload.progressReports settings.download p (.start p d.inbox file) ticks).map
          fun report => .progress (.bytes report.1 report.2)) := by
  simp only [Watch.runSession, Monitor.after_append]
  split_ifs <;> rfl

variable (throughput) in
lemma neutral_keeps {l : List Sighting} (hl : ∀ x ∈ l, ∀ u, x ≠ .progress u) (w : ProgressState) :
    (progressMonitor throughput).Accepts w l ∧ (progressMonitor throughput).after w l = w := by
  refine Monitor.keeps (M := progressMonitor throughput) (· = w) _ (fun w' x hw hx => ?_) hl rfl
  cases x with
  | progress u => exact absurd rfl (hx u)
  | _ => exact ⟨trivial, hw⟩

lemma runSession_shows {p : Params} {file : OutputFile} {d d' : LogDownloader} {ticks rest : List Tick}
    {x : StreamDownloadResult × OutputFile} {w : ProgressState} (hw : Shows d w.reading)
    (hr : (LogDownloader.runSession settings p file).run d ticks = some (x, d', rest)) :
    Shows d' ((progressMonitor throughput).after w ((Watch.runSession settings p file).seen d ticks)).reading := by
  obtain ⟨⟨r, s, rest'⟩, hrun, heq⟩ := Option.map_eq_some_iff.mp hr
  obtain ⟨_, rfl, _⟩ : _ ∧ _ ∧ rest' = rest := by simpa using heq
  have hlast := StreamDownload.progressReports_last hrun
  have hstart : (StreamDownload.start p d.inbox file).lastProgressBytes = 0 := by
    rw [StreamDownload.start]
    split_ifs <;> rfl
  obtain ⟨hactive, hid, htotal, hbytes⟩ := after_reports throughput
    (StreamDownload.progressReports settings.download p (.start p d.inbox file) ticks) w
  rw [Shows, after_session, hactive, hid, htotal, hbytes]
  rw [hstart] at hlast
  cases hreport : (StreamDownload.progressReports settings.download p (.start p d.inbox file) ticks).getLast? with
  | none =>
    rw [hreport] at hlast
    simp only [Option.map_none, Option.getD_none] at hlast ⊢
    rw [if_neg (by omega)]
    exact hw
  | some report =>
    rw [hreport] at hlast
    simp only [Option.map_some, Option.getD_some] at hlast ⊢
    obtain ⟨hpos, hlt⟩ := StreamDownload.progressReports_pos (List.mem_of_getLast? hreport)
    rw [if_pos (by omega), hw, ← hlast, UInt32.toNat_ofNat_of_lt' hlt]

lemma runSession_reads {p : Params} {file : OutputFile} {R : ℕ → Prop}
    (hR : ∀ inbox ticks, ∀ x ∈ StreamDownload.progressReports settings.download p (.start p inbox file) ticks, R x.1)
    (hX : ∀ w n now, X w → R n → X (w.update throughput (.bytes n now))) (hX' : ∀ w, X w → Honest w.reading) :
    Triple (progressMonitor throughput) (Reads X) (Watch.runSession settings p file) (fun _ => Reads X) := by
  intro d ticks w hw
  have hsession := Monitor.keeps (M := progressMonitor throughput) X
    (fun e => (∃ n now, e = .progress (.bytes n now) ∧ R n) ∨ ∃ timeout, e = .ended timeout)
    (l := (Watch.runSession settings p file).seen d ticks) ?_ ?_ hw.2
  · exact ⟨hsession.1, fun x d' rest hr => ⟨runSession_shows hw.1 hr, hsession.2⟩⟩
  · rintro w e hx (⟨n, now, rfl, hn⟩ | ⟨timeout, rfl⟩)
    · exact ⟨hX' _ (hX w n now hx hn), hX w n now hx hn⟩
    · exact ⟨trivial, hx⟩
  · intro e he
    rcases Watch.runSession_sights settings he with ⟨report, hm, rfl⟩ | h
    · exact Or.inl ⟨report.1, report.2, rfl, hR d.inbox ticks report hm⟩
    · exact Or.inr h

lemma probe_reads (p : Params) (file : OutputFile) :
    Triple (progressMonitor throughput) (Reads Idle) (Watch.runSession settings p file) (fun _ => Reads Idle) :=
  runSession_reads (R := fun _ => True) (fun _ _ _ _ => trivial) (fun _ _ _ h _ => ⟨h.active, h.total⟩)
    fun _ h => h.honest

lemma stream_reads {p : Params} {size : UInt32} (hofs : p.byteOffset = 0) (hcount : p.byteCount = size.toNat)
    (hsize : size.toNat ≤ 2 ^ 32 - 256) (file : OutputFile) :
    Triple (progressMonitor throughput) (Reads (Running size)) (Watch.runSession settings p file)
      (fun _ => Reads (Running size)) := by
  refine runSession_reads (R := (· ≤ size.toNat)) (fun inbox ticks x hx => ?_) (fun w n now h hn => ⟨h.total, ?_⟩)
    fun _ h => h.honest
  · rw [← hcount]
    exact StreamDownload.progressReports_le (by omega) hx
  · rw [UInt32.le_iff_toNat_le]
    change (UInt32.ofNat n).toNat ≤ size.toNat
    rwa [UInt32.toNat_ofNat_of_lt' (hn.trans_lt size.toNat_lt)]

variable {entry : LogEntry}

lemma rereadSession_reads (hsize : entry.size.toNat ≤ 2 ^ 32 - 256) :
    Triple (progressMonitor throughput) (Reads (Running entry.size)) (Watch.rereadSession settings entry)
      (fun _ => Reads (Running entry.size)) := by
  intro d ticks w hw
  have hsession : Triple (progressMonitor throughput) (Reads (Running entry.size))
      (Watch.runSession settings (rereadParams entry) {}) (fun _ => Reads (Running entry.size)) :=
    stream_reads rfl rfl hsize {}
  obtain ⟨haccepts, hreads⟩ := hsession d ticks w hw
  obtain ⟨hpolls, hsame⟩ := neutral_keeps throughput (l := (StreamDownload.flagPolls settings.download
    (rereadParams entry) (.start (rereadParams entry) d.inbox {}) ticks).map .polled)
    (fun x hx u hu => by obtain ⟨raised, _, rfl⟩ := List.mem_map.mp hx; cases hu) w
  refine ⟨hpolls.append (hsame.symm ▸ haccepts), fun x d' rest hr => ?_⟩
  rw [Watch.rereadSession, Monitor.after_append, hsame]
  exact hreads x d' rest hr

lemma isDuplicate_reads :
    Triple (progressMonitor throughput) (Reads Idle) (Watch.isDuplicate settings entry) (fun _ => Reads Idle) := by
  refine .bind (quiet_reads (checkDedup_unreported settings entry)) fun candidate => ?_
  cases candidate with
  | none => exact .pure fun _ _ _ h => h
  | some candidate =>
    refine .bind (quiet_reads clearDataChunks_unreported) fun _ => .bind (probe_reads _ _) fun x => ?_
    refine .bind (quiet_reads requestLogEnd_unreported) fun _ => .ite (fun _ => ?_) fun _ => .pure fun _ _ _ h => h
    exact .bind (quiet_reads (setFailure_unreported _)) fun _ => .pure fun _ _ _ h => h

lemma downloadLogData_reads (hsize : entry.size.toNat ≤ 2 ^ 32 - 256) (path : Path) :
    Triple (progressMonitor throughput) (Reads (Running entry.size)) (Watch.downloadLogData settings entry path)
      (fun _ => Reads (Running entry.size)) := by
  refine .bind (quiet_reads (setFailure_unreported _)) fun _ =>
    .bind (quiet_reads clearDataChunks_unreported) fun _ => ?_
  refine .bind (quiet_reads (await_unreported settings)) fun tick => .ite (fun _ => ?_) fun _ => ?_
  · exact .bind (gaveUp_reads _ (setFailure_unreported _)) fun _ => .pure fun _ _ _ h => h
  refine .bind (quiet_reads (updateStorage_unreported _)) fun _ => .bind (stream_reads rfl rfl hsize _) fun x => ?_
  refine .bind (quiet_reads requestLogEnd_unreported) fun _ =>
    .bind (quiet_reads (await_unreported settings)) fun _ => ?_
  refine .bind (quiet_reads (updateStorage_unreported _)) fun _ => .ite (fun _ => ?_) fun _ => ?_
  · exact .bind (gaveUp_reads _ (setFailure_unreported _)) fun _ => .pure fun _ _ _ h => h
  refine .ite (fun _ => ?_) fun _ => ?_
  · exact .bind (gaveUp_reads _ (setFailure_unreported _)) fun _ => .pure fun _ _ _ h => h
  · exact .bind (quiet_reads (setFailure_unreported _)) fun _ => .pure fun _ _ _ h => h

lemma reread_reads (hsize : entry.size.toNat ≤ 2 ^ 32 - 256) (path : Path) (sha256 : String) :
    Triple (progressMonitor throughput) (Reads (Running entry.size))
      (Watch.verifyFcSampleReread settings entry path sha256) (fun _ => Reads (Running entry.size)) := by
  have hend : ∀ accepted, Triple (progressMonitor throughput) (Reads (Running entry.size))
      (Watch.endReread accepted) (fun _ => Reads (Running entry.size)) := by
    intro accepted
    cases accepted with
    | true => exact quiet_reads requestLogEnd_unreported
    | false => exact gaveUp_reads .reread requestLogEnd_unreported
  rw [Watch.verifyFcSampleReread]
  cases hmode : parseFcRereadMode settings.download.verifyFcReread with
  | none => exact .pure fun _ _ _ h => h
  | full =>
    refine .bind (quiet_reads clearDataChunks_unreported) fun _ => .bind (rereadSession_reads hsize) fun x => ?_
    exact .bind (hend _) fun _ => .pure fun _ _ _ h => h
  | sample =>
    intro d ticks w hw
    obtain ⟨haccepts, hafter⟩ := neutral_keeps throughput
      (Watch.sampleReread_sights settings entry path sha256 d ticks) w
    refine ⟨haccepts, fun a d' rest hr => ?_⟩
    rw [hafter]
    have hsame := (sampleReread_unreported settings hmode entry path sha256 d d ticks a d' rest rfl
      (fun _ _ => trivial) hr).1
    exact ⟨Eq.trans hsame hw.1, hw.2⟩

lemma verifyAndStore_reads (hsize : entry.size.toNat ≤ 2 ^ 32 - 256) (path : Path) (result : StreamDownloadResult)
    (started : ℤ) : Triple (progressMonitor throughput) (Reads (Running entry.size))
      (Watch.verifyAndStore settings entry path result started) (fun _ => Reads (·.reading = {})) := by
  have hfail : ∀ reason, Triple (progressMonitor throughput) (Reads (Running entry.size)) (Watch.fail reason)
      (fun _ => Reads (·.reading = {})) := by
    refine fun reason => finish_reads fun d ticks a d' rest hr => updateProgress_returns (fun _ => ?_) hr
    exact .bind (setFailure_unreported reason) fun _ => .bind (updateDatabase_unreported _) fun _ => .pure _
  refine .bind (quiet_reads (verifyDataFlashFile_unreported settings path)) fun parsed => .ite (fun _ => ?_) fun _ => ?_
  · exact .bind (gaveUp_reads _ (removePartial_unreported settings path)) fun _ => hfail _
  refine .bind (reread_reads hsize path result.sha256) fun reread => .ite (fun _ => ?_) fun _ => ?_
  · exact .bind (quiet_reads (removePartial_unreported settings path)) fun _ => hfail _
  refine .bind (quiet_reads (finalizePartial_unreported settings path)) fun final => ?_
  cases final with
  | none => exact .bind (gaveUp_reads _ (.pure _)) fun _ => hfail _
  | some final =>
    refine finish_reads fun d ticks a d' rest hr => ?_
    obtain ⟨_, d₁, ticks₁, _, hr₁⟩ := Prog.bind_returns hr
    refine updateProgress_returns (fun _ => ?_) hr₁
    exact .bind (await_unreported settings) fun _ => .bind (updateDatabase_unreported _) fun _ => .pure _

lemma abandonDownload_reads (path : Path) :
    Triple (progressMonitor throughput) (Reads X) (Watch.abandonDownload settings path)
      (fun _ => Reads (·.reading = {})) := by
  refine finish_reads fun d ticks a d' rest hr => updateProgress_returns (fun _ => ?_) hr
  refine .bind (removePartial_unreported settings path) fun _ => .bind (cancelled_unreported settings) fun stop => ?_
  refine .bind .get fun d => ?_
  exact .ite (.bind (updateDatabase_unreported _) fun _ => .pure _)
    (.bind (updateDatabase_unreported _) fun _ => .pure _)

lemma downloadFull_reads (hsize : entry.size.toNat ≤ 2 ^ 32 - 256) :
    Triple (progressMonitor throughput) (Reads X) (Watch.downloadFull settings entry)
      (fun _ => Reads (·.reading = {})) := by
  refine .bind (quiet_reads (await_unreported settings)) fun tick => .bind (quiet_reads .get) fun d => ?_
  refine .bind (quiet_reads (updateStorage_unreported _)) fun _ => ?_
  have hbegun : ∀ w : ProgressState, Running entry.size (w.update throughput (.begin entry.id entry.size tick.now)) :=
    fun w => ⟨rfl, UInt32.zero_le⟩
  refine .bind (R := fun _ => Reads (Running entry.size)) ?_ fun _ => ?_
  · refine .showing (fun _ _ w _ => (hbegun w).honest) fun d ticks w a d' rest _ hr => ⟨?_, hbegun w⟩
    obtain ⟨rfl, _⟩ : _ = d' ∧ ticks = rest := by simpa [updateProgress] using hr
    rfl
  · refine .bind (downloadLogData_reads hsize _) fun result => ?_
    cases result with
    | none => exact abandonDownload_reads _
    | some result => exact verifyAndStore_reads hsize _ result tick.now

lemma archiveOne_reads (hsize : entry.size.toNat ≤ 2 ^ 32 - 256) :
    Triple (progressMonitor throughput) (Reads Idle) (Watch.archiveOne settings entry) (fun _ => Reads Idle) := by
  refine .bind isDuplicate_reads fun duplicate => .ite (fun _ => ?_) fun _ => ?_
  · exact .bind (quiet_reads (updateDatabase_unreported _)) fun _ => .pure fun _ _ _ h => h
  refine .bind (quiet_reads (cancelled_unreported settings)) fun stop => .ite (fun _ => ?_) fun _ => ?_
  · exact .pure fun _ _ _ h => h
  exact (downloadFull_reads hsize).weaken (fun _ _ _ h => h) fun _ _ _ w h => ⟨h.1, .of_zero h.2⟩

lemma prefix_honest {w : ProgressState} {l us : List Sighting} (h : (progressMonitor throughput).Accepts w l)
    (hw : Honest w.reading) (hus : us <+: l) : Honest ((progressMonitor throughput).after w us).reading := by
  induction us using List.reverseRecOn with
  | nil => exact hw
  | append_singleton us x ih =>
    obtain ⟨rest, rfl⟩ := hus
    have hbefore := ih ⟨[x] ++ rest, by simp⟩
    have hpermits := h us.length x (by simp)
    rw [List.append_assoc, List.take_left] at hpermits
    rw [Monitor.after_append]
    cases x with
    | progress u => exact hpermits
    | _ => exact hbefore

def ProbeSight (x : Sighting) : Prop :=
  (∃ n now, x = .progress (.bytes n now) ∧ 0 < n ∧ n < 2 ^ 32) ∨ ∃ timeout, x = .ended timeout

lemma after_probe {w : ProgressState} {l : List Sighting} (hw : w.reading = {}) (hl : ∀ x ∈ l, ProbeSight x) :
    ((progressMonitor throughput).after w l).reading = {} ↔ ∀ u, .progress u ∉ l := by
  induction l using List.reverseRecOn with
  | nil => exact iff_of_true hw (by simp)
  | append_singleton us x ih =>
    have hus := ih fun x hx => hl x (List.mem_append_left _ hx)
    rw [Monitor.after_append]
    rcases hl x (by simp) with ⟨n, now, rfl, hpos, hlt⟩ | ⟨timeout, rfl⟩
    · refine iff_of_false (fun h => ?_) fun h => h (.bytes n now) (by simp)
      have hzero : (UInt32.ofNat n).toNat = 0 := congrArg (fun r => r.bytesReceived.toNat) h
      rw [UInt32.toNat_ofNat_of_lt' hlt] at hzero
      omega
    · rw [show (progressMonitor throughput).after ((progressMonitor throughput).after w us) [.ended timeout] =
        (progressMonitor throughput).after w us from rfl, hus]
      simp

lemma isDuplicate_only : Only ProbeSight (Watch.isDuplicate settings entry) := by
  refine .bind (.quiet _) fun candidate => ?_
  cases candidate with
  | none => exact .quiet _
  | some candidate =>
    refine .bind (.quiet _) fun _ => .bind (fun d ticks x hx => ?_) fun x => .bind (.quiet _) fun _ => ?_
    · rcases Watch.runSession_sights settings hx with ⟨report, hreport, rfl⟩ | h
      · exact Or.inl ⟨report.1, report.2, rfl, StreamDownload.progressReports_pos hreport⟩
      · exact Or.inr h
    · exact .ite (.bind (.quiet _) fun _ => .quiet _) (.quiet _)

def LeavesBeforeDownload (settings : Settings) (entry : LogEntry) (d : LogDownloader) (ticks : List Tick) : Prop :=
  ∃ duplicate d₁ ticks₁, (isDuplicate settings entry).run d ticks = some (duplicate, d₁, ticks₁) ∧
    (duplicate = true ∨ ∃ d₂ ticks₂, (cancelled settings).run d₁ ticks₁ = some (true, d₂, ticks₂))

/-- The probe session reported bytes, and the download that would have reset them does not begin. -/
def AbandonedProbe (settings : Settings) (entry : LogEntry) (d : LogDownloader) (ticks : List Tick) : Prop :=
  (∃ u, .progress u ∈ (Watch.isDuplicate settings entry).seen d ticks) ∧ LeavesBeforeDownload settings entry d ticks

variable (throughput) in
lemma archiveOne_zeroed (hsize : entry.size.toNat ≤ 2 ^ 32 - 256) {d d' : LogDownloader} {ticks rest : List Tick}
    {outcome : ArchiveResult} {w : ProgressState} (hs : Shows d w.reading) (hw : w.reading = {})
    (hr : (archiveOne settings entry).run d ticks = some (outcome, d', rest)) :
    ((progressMonitor throughput).after w ((Watch.archiveOne settings entry).seen d ticks)).reading = {} ↔
      ¬ AbandonedProbe settings entry d ticks := by
  obtain ⟨duplicate, d₁, ticks₁, hdup, hr₁⟩ := Prog.bind_returns hr
  have hdup' : (Watch.isDuplicate settings entry).prog.run d ticks = some (duplicate, d₁, ticks₁) := by
    rwa [Watch.isDuplicate_prog]
  have hprobe : ((progressMonitor throughput).after w ((Watch.isDuplicate settings entry).seen d ticks)).reading = {} ↔
      ∀ u, .progress u ∉ (Watch.isDuplicate settings entry).seen d ticks := after_probe hw (isDuplicate_only d ticks)
  have hleaves : LeavesBeforeDownload settings entry d ticks →
      (((progressMonitor throughput).after w ((Watch.isDuplicate settings entry).seen d ticks)).reading = {} ↔
        ¬ AbandonedProbe settings entry d ticks) := by
    intro h
    rw [hprobe, AbandonedProbe, not_and_or, not_exists]
    exact (or_iff_left (not_not_intro h)).symm
  rw [Watch.archiveOne, seen_returned hdup', Monitor.after_append]
  cases duplicate with
  | true => exact hleaves ⟨true, d₁, ticks₁, hdup, Or.inl rfl⟩
  | false =>
    obtain ⟨stop, d₂, ticks₂, hstop, hr₂⟩ := Prog.bind_returns hr₁
    have hstop' : (quiet (ω := Sighting) (cancelled settings)).prog.run d₁ ticks₁ = some (stop, d₂, ticks₂) := hstop
    simp only [Bool.false_eq_true, if_false]
    rw [seen_returned hstop', Monitor.after_append]
    cases stop with
    | true => exact hleaves ⟨false, d₁, ticks₁, hdup, Or.inr ⟨d₂, ticks₂, hstop⟩⟩
    | false =>
      have hprobed : Reads Idle d₁ ticks₁
          ((progressMonitor throughput).after w ((Watch.isDuplicate settings entry).seen d ticks)) :=
        (isDuplicate_reads d ticks w ⟨hs, .of_zero hw⟩).2 _ _ _ hdup'
      have hreads : Reads Idle d₂ ticks₂
          ((progressMonitor throughput).after w ((Watch.isDuplicate settings entry).seen d ticks)) :=
        ⟨Eq.trans (cancelled_unreported settings d₁ d₁ ticks₁ _ d₂ ticks₂ rfl (fun _ _ => trivial) hstop).1 hprobed.1,
          hprobed.2⟩
      rw [← Watch.downloadFull_prog] at hr₂
      refine iff_of_true ((downloadFull_reads hsize d₂ ticks₂ _ hreads).2 _ _ _ hr₂).2 fun habandoned => ?_
      obtain ⟨duplicate, e₁, rest₁, hdup₁, h⟩ := habandoned.2
      simp only [hdup, Option.some.injEq, Prod.mk.injEq] at hdup₁
      obtain ⟨rfl, rfl, rfl⟩ := hdup₁
      rcases h with h | ⟨e₂, rest₂, h⟩
      · cases h
      · rw [hstop] at h
        simp at h

/-- What happens to a downloader, as far as its progress is concerned: calls of `archiveOne`, and between them
whatever leaves the progress alone. -/
inductive Happening
  | call (entry : LogEntry) (ticks : List Tick)
  | other (downloader : LogDownloader)

structure Scene where
  downloader : LogDownloader
  progress : ProgressState := {}

def happen (settings : Settings) (throughput : ℕ → ℤ → UInt32) (s : Scene) : Happening → Option Scene
  | .call entry ticks => ((archiveOne settings entry).run s.downloader ticks).map fun x =>
      ⟨x.2.1, (progressMonitor throughput).after s.progress ((Watch.archiveOne settings entry).seen s.downloader ticks)⟩
  | .other d => if d.progress = s.downloader.progress then some ⟨d, s.progress⟩ else none

def Zeroed (s : Scene) : Prop := s.progress.reading = {} ∧ s.downloader.progress = {}

def HonestDuring (settings : Settings) (throughput : ℕ → ℤ → UInt32) (s : Scene) (entry : LogEntry)
    (ticks : List Tick) : Prop :=
  ∀ us, us <+: (Watch.archiveOne settings entry).seen s.downloader ticks →
    Honest ((progressMonitor throughput).after s.progress us).reading

def SmallLog (entry : LogEntry) : Prop := entry.size.toNat ≤ 2 ^ 32 - 256

def Shown (s : Scene) : Prop := Shows s.downloader s.progress.reading ∧ Idle s.progress

lemma happen_call {s s' : Scene} {entry : LogEntry} {ticks : List Tick}
    (h : happen settings throughput s (.call entry ticks) = some s') : ∃ outcome rest,
      (archiveOne settings entry).run s.downloader ticks = some (outcome, s'.downloader, rest) ∧
      s'.progress = (progressMonitor throughput).after s.progress
        ((Watch.archiveOne settings entry).seen s.downloader ticks) := by
  obtain ⟨⟨outcome, d', rest⟩, hr, rfl⟩ := Option.map_eq_some_iff.mp h
  exact ⟨outcome, rest, hr, rfl⟩

lemma happen_shown {s s' : Scene} {e : Happening} (h : happen settings throughput s e = some s')
    (hc : ∀ entry ticks, e = .call entry ticks → SmallLog entry) (hs : Shown s) : Shown s' := by
  cases e with
  | call entry ticks =>
    obtain ⟨outcome, rest, hr, hp⟩ := happen_call h
    rw [← Watch.archiveOne_prog] at hr
    rw [Shown, hp]
    exact (archiveOne_reads (hc entry ticks rfl) s.downloader ticks s.progress hs).2 outcome s'.downloader rest hr
  | other d =>
    rw [happen] at h
    split_ifs at h with hsame
    obtain rfl := Option.some.inj h
    exact ⟨hsame.trans hs.1, hs.2⟩

lemma happen_zeroed {s s' : Scene} {e : Happening} (h : happen settings throughput s e = some s')
    (hc : ∀ entry ticks, e = .call entry ticks → SmallLog entry) (hs : Zeroed s) :
    Zeroed s' ↔ ∀ entry ticks, e = .call entry ticks → ¬ AbandonedProbe settings entry s.downloader ticks := by
  have hshows : Shows s.downloader s.progress.reading := by
    rw [Shows, hs.1]
    exact hs.2
  cases e with
  | call entry ticks =>
    have hreads := happen_shown h hc ⟨hshows, .of_zero hs.1⟩
    obtain ⟨outcome, rest, hr, hp⟩ := happen_call h
    have hiff := archiveOne_zeroed throughput (hc entry ticks rfl) hshows hs.1 hr
    rw [← hp] at hiff
    constructor
    · rintro hz entry' ticks' he
      cases he
      exact hiff.mp hz.1
    · intro hleft
      have hz := hiff.mpr (hleft entry ticks rfl)
      have hsame := hreads.1
      rw [Shows, hz] at hsame
      exact ⟨hz, hsame⟩
  | other d =>
    rw [happen] at h
    split_ifs at h with hsame
    obtain rfl := Option.some.inj h
    exact iff_of_true ⟨hs.1, hsame.trans hs.2⟩ fun _ _ he => by cases he

theorem progress_honest_iff (settings : Settings) (throughput : ℕ → ℤ → UInt32) (d : LogDownloader)
    (hd : d.progress = {}) (ts : List (Transition Scene Happening)) (s : Scene)
    (hrun : Run (happen settings throughput) ⟨d, {}⟩ ts s)
    (hsize : ∀ t ∈ ts, ∀ entry ticks, t.event = .call entry ticks → SmallLog entry) :
    ((∀ t ∈ ts, Zeroed t.post) ∧ ∀ s ∈ ⟨d, {}⟩ :: ts.map (·.post), ∀ entry ticks, SmallLog entry →
        HonestDuring settings throughput s entry ticks) ↔
      ∀ t ∈ ts, ∀ entry ticks, t.event = .call entry ticks →
        ¬ AbandonedProbe settings entry t.pre.downloader ticks := by
  have hzero : Zeroed ⟨d, {}⟩ := ⟨rfl, hd⟩
  have hsplit : ∀ t ∈ ts, ∃ a, Run (happen settings throughput) ⟨d, {}⟩ a t.pre ∧ (∀ u ∈ a, u ∈ ts) ∧
      happen settings throughput t.pre t.event = some t.post := by
    intro t ht
    obtain ⟨a, b, rfl⟩ := List.append_of_mem ht
    obtain ⟨hbefore, hstep⟩ := hrun.split rfl
    exact ⟨a, hbefore, fun u hu => List.mem_append_left _ hu, hstep⟩
  have hshown : Shown ⟨d, {}⟩ := ⟨hd, .of_zero rfl⟩
  constructor
  · rintro ⟨hposts, _⟩ t ht
    obtain ⟨a, hbefore, hsub, hstep⟩ := hsplit t ht
    have hpre : Zeroed t.pre := Run.invariant (fun u => Zeroed u.post) Zeroed hzero (fun _ _ _ _ _ hc => hc) hbefore
      fun u hu => hposts u (hsub u hu)
    exact (happen_zeroed hstep (hsize t ht) hpre).mp (hposts t ht)
  · intro hleft
    have hposts : ∀ t ∈ ts, Zeroed t.post := by
      intro t ht
      obtain ⟨a, hbefore, hsub, hstep⟩ := hsplit t ht
      have hpre : Zeroed t.pre := by
        refine Run.invariant (fun u => u ∈ ts) Zeroed hzero (fun s e s' hs he hu => ?_) hbefore hsub
        exact (happen_zeroed he (hsize ⟨s, e, s'⟩ hu) hs).mpr (hleft ⟨s, e, s'⟩ hu)
      exact (happen_zeroed hstep (hsize t ht) hpre).mpr (hleft t ht)
    refine ⟨hposts, fun s hs entry ticks hsmall us hus => ?_⟩
    have hidle : Shown s := by
      rcases List.mem_cons.mp hs with rfl | hs
      · exact hshown
      · obtain ⟨t, ht, rfl⟩ := List.mem_map.mp hs
        obtain ⟨a, hbefore, hsub, hstep⟩ := hsplit t ht
        have hpre : Shown t.pre := by
          refine Run.invariant (fun u => u ∈ ts) Shown hshown (fun s e s' hs he hu => ?_) hbefore hsub
          exact happen_shown he (hsize ⟨s, e, s'⟩ hu) hs
        exact happen_shown hstep (hsize t ht) hpre
    exact prefix_honest (archiveOne_reads hsmall s.downloader ticks s.progress hidle).1 hidle.2.honest hus

def singleByteLog : LogEntry := ⟨1, 1, 1, 0, 1⟩

def unverifiedSettings : Settings where
  download := { verifyDataflashParse := false, verifyFcReread := "none" }
  storage := epochSettings

def cataloguedDownloader : LogDownloader where
  database :=
    { archivedLogs :=
        [{ sha256 := Sha256.hashHex [7]
           fcLogId := 1
           fcLogSize := 1
           fcLogTimeUtc := 0
           probeSha256 := Sha256.hashHex [7]
           probeBytes := 1
           archiveTime := 0
           archiveDurationMs := 0
           filename := ⟨["logs"], "1", ".bin"⟩ }] }

def probeTicks : List Tick := [{}, {}, { messages := [.logData 1 0 1 [7]] }]

def downloadTicks : List Tick :=
  let idle : Tick := {}
  List.replicate 5 idle ++ [{ messages := [.logData 1 0 1 [7]] }] ++ List.replicate 6 idle

def twoByteLog : LogEntry := ⟨2, 2, 2, 0, 2⟩

def cancelledTicks : List Tick :=
  let idle : Tick := {}
  List.replicate 5 idle ++ [{ messages := [.logData 2 0 1 [7]] }, { cancel := true }] ++ List.replicate 6 idle

theorem progress_honest_iff_cancelled_download : ∃ t u s,
    Run (happen unverifiedSettings fun _ _ => 0) ⟨{}, {}⟩ [t, u] s ∧ t.event = .call singleByteLog downloadTicks ∧
      u.event = .call twoByteLog cancelledTicks ∧
      ((archiveOne unverifiedSettings twoByteLog).run u.pre.downloader cancelledTicks).map (·.1) = some .cancelled ∧
      .progress (.bytes 1 0) ∈ (Watch.archiveOne unverifiedSettings twoByteLog).seen u.pre.downloader cancelledTicks ∧
      Zeroed t.post ∧ Zeroed u.post ∧
      HonestDuring unverifiedSettings (fun _ _ => 0) u.pre twoByteLog cancelledTicks := by
  have hruns : ((happen unverifiedSettings (fun _ _ => 0) ⟨{}, {}⟩ (.call singleByteLog downloadTicks)).bind fun s =>
      (happen unverifiedSettings (fun _ _ => 0) s (.call twoByteLog cancelledTicks)).map fun s' => (s, s')).any
      (fun x => decide (
        ((archiveOne unverifiedSettings twoByteLog).run x.1.downloader cancelledTicks).map (·.1) = some .cancelled ∧
        .progress (.bytes 1 0) ∈
          (Watch.archiveOne unverifiedSettings twoByteLog).seen x.1.downloader cancelledTicks ∧
        (Watch.isDuplicate unverifiedSettings singleByteLog).seen {} downloadTicks = [] ∧
        (Watch.isDuplicate unverifiedSettings twoByteLog).seen x.1.downloader cancelledTicks = [])) = true := by
    decide +kernel
  obtain ⟨⟨s, s'⟩, hs, hfacts⟩ := (Option.any_eq_true _ _).mp hruns
  obtain ⟨hcancelled, hbyte, hfirst, hsecond⟩ := of_decide_eq_true hfacts
  obtain ⟨s₁, hdownload, hs⟩ := Option.bind_eq_some_iff.mp hs
  obtain ⟨s₂, hcancel, heq⟩ := Option.map_eq_some_iff.mp hs
  obtain ⟨rfl, rfl⟩ := Prod.mk.inj heq
  let t : Transition Scene Happening := ⟨⟨{}, {}⟩, .call singleByteLog downloadTicks, s₁⟩
  let u : Transition Scene Happening := ⟨s₁, .call twoByteLog cancelledTicks, s₂⟩
  have hrun : Run (happen unverifiedSettings fun _ _ => 0) ⟨{}, {}⟩ [t, u] s₂ := (Run.nil.snoc hdownload).snoc hcancel
  have hsmall : SmallLog twoByteLog := by rw [SmallLog]; decide
  have hcalls : ∀ x ∈ [t, u], ∀ entry ticks, x.event = .call entry ticks →
      SmallLog entry ∧ (Watch.isDuplicate unverifiedSettings entry).seen x.pre.downloader ticks = [] := by
    intro x hx entry ticks he
    rcases List.mem_cons.mp hx with rfl | hx
    · cases he
      exact ⟨by rw [SmallLog]; decide, hfirst⟩
    · obtain rfl := List.mem_singleton.mp hx
      cases he
      exact ⟨hsmall, hsecond⟩
  obtain ⟨hzero, hhonest⟩ := (progress_honest_iff unverifiedSettings (fun _ _ => 0) {} rfl _ s₂ hrun
    fun x hx entry ticks he => (hcalls x hx entry ticks he).1).mpr fun x hx entry ticks he habandoned => by
      obtain ⟨⟨v, hv⟩, _⟩ := habandoned
      rw [(hcalls x hx entry ticks he).2] at hv
      cases hv
  exact ⟨t, u, s₂, hrun, rfl, rfl, hcancelled, hbyte, hzero t (by simp), hzero u (by simp),
    hhonest s₁ (by simp [t]) _ _ hsmall⟩

theorem skipped_duplicate_leaves_bytes :
    (happen unverifiedSettings (fun _ _ => 0) ⟨cataloguedDownloader, {}⟩ (.call singleByteLog probeTicks)).any (fun s =>
      decide (s.downloader.database.getStat .flightsSkipped = 1 ∧ s.downloader.progress = ⟨false, 0, 1, 0⟩ ∧
        s.progress.reading.bytesReceived = 1)) = true := by
  decide +kernel

end

end Service

end MavlinkLogService
