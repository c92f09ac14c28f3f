import MavlinkLogService.Archive.History
import MavlinkLogService.Session.HonestSession
import MavlinkLogService.Storage.Finalization

/-! What `archiveOne` does to the storage and the catalog, for each of its four results. -/

namespace MavlinkLogService.Archive.LogDownloader

open Library Session Storage

variable {H : Promise} {settings : Settings} {entry : LogEntry}

def Recorded (a : Action) (d d' : LogDownloader) : Prop := ∃ ext, d'.trace = d.trace ++ ext ∧ a ∈ ext

lemma Recorded.later {a : Action} {R : Action → Prop} {d d' d'' : LogDownloader} (h : Recorded a d d')
    (h' : Later H R d' d'') : Recorded a d d'' := by
  obtain ⟨x, hx, ha⟩ := h
  obtain ⟨y, hy, _, _⟩ := h'.trace
  exact ⟨x ++ y, by rw [hy, hx, List.append_assoc], List.mem_append_left y ha⟩

lemma Recorded.earlier {a : Action} {R : Action → Prop} {d d' d'' : LogDownloader} (h : Later H R d d')
    (h' : Recorded a d' d'') : Recorded a d d'' := by
  obtain ⟨x, hx, _, _⟩ := h.trace
  obtain ⟨y, hy, ha⟩ := h'
  exact ⟨x ++ y, by rw [hy, hx, List.append_assoc], List.mem_append_right x ha⟩

lemma Recorded.split {a : Action} {R R' : Action → Prop} {d mid d' : LogDownloader} (h : Recorded a d d')
    (h₁ : Later H R d mid) (h₂ : Later H R' mid d') : Recorded a d mid ∨ Recorded a mid d' := by
  obtain ⟨x, hx, _, _⟩ := h₁.trace
  obtain ⟨y, hy, _, _⟩ := h₂.trace
  obtain ⟨ext, ht, ha⟩ := h
  obtain rfl : ext = x ++ y := by
    rw [hy, hx, List.append_assoc] at ht
    exact (List.append_cancel_left ht).symm
  rcases List.mem_append.mp ha with ha | ha
  · exact Or.inl ⟨x, hx, ha⟩
  · exact Or.inr ⟨y, hy, ha⟩

structure Tentative (H : Promise) (id : UInt16) (d d' : LogDownloader) : Prop where
  later : Later H (Routine (· = id)) d d'
  archives : ∀ q, q.isArchive = true → d'.storage.files.lookup q = d.storage.files.lookup q
  rows : d'.database.archivedLogs = d.database.archivedLogs

instance (id : UInt16) : Std.Refl (Tentative H id) := ⟨fun d => ⟨Later.refl d, fun _ _ => rfl, rfl⟩⟩

instance (id : UInt16) : IsTrans LogDownloader (Tentative H id) :=
  ⟨fun _ _ _ h h' => ⟨h.later.trans h'.later, fun q hq => (h'.archives q hq).trans (h.archives q hq),
    h'.rows.trans h.rows⟩⟩

lemma Quiet.tentative {id : UInt16} {d d' : LogDownloader} (h : Quiet H (· = id) d d') :
    Tentative H id d d' :=
  ⟨h.later, fun _ _ => by rw [h.storage], by rw [h.database]⟩

lemma updateDatabase_tentative {f : Database → Database} (id : UInt16)
    (hf : ∀ db, (f db).archivedLogs = db.archivedLogs) :
    Prog.Moves (Fair H) (Tentative H id) (updateDatabase f) :=
  .modify fun d => ⟨⟨fun h => h, fun h => h, [], by simp, by simp, by simp⟩, fun _ _ => rfl, hf _⟩

lemma updateStorage_tentative {f : StorageManager → StorageManager} (id : UInt16)
    (hf : ∀ st q, q.isArchive = true → (f st).files.lookup q = st.files.lookup q) :
    Prog.Moves (Fair H) (Tentative H id) (updateStorage f) :=
  .modify fun d => ⟨⟨fun h => h, fun h => h, [], by simp, by simp, by simp⟩, fun q hq => hf _ q hq, rfl⟩

lemma write_archive {path q : Path} (hp : path.isPartial = true) (hq : q.isArchive = true)
    (st : StorageManager) (file : File) : (st.write path file).files.lookup q = st.files.lookup q := by
  rw [StorageManager.write, AList.lookup_insert_ne (archive_ne_partialPath hq hp)]

lemma write_tentative {path : Path} (hp : path.isPartial = true) (id : UInt16) (file : File)
    (d : LogDownloader) : Tentative H id d { d with storage := d.storage.write path file } :=
  ⟨⟨fun h => h, fun h => h, [], by simp, by simp, by simp⟩, fun _ hq => write_archive hp hq _ _, rfl⟩

lemma removePartial_tentative {path : Path} (hp : path.isPartial = true) (id : UInt16) :
    Prog.Moves (Fair H) (Tentative H id) (removePartial settings path) := by
  refine .bind ((await_quiet settings).mono fun _ _ hq => hq.tentative) fun _ => .ite ?_ (.pure _)
  exact updateStorage_tentative id fun _ _ hq => AList.lookup_erase_ne (archive_ne_partialPath hq hp)

def Trusted (H : Promise) (p : Params) (file file' : OutputFile) (processed : List LogDataChunk)
    (r : StreamDownloadResult) : Prop :=
  ∀ L : List UInt8, L.length < 2 ^ 32 → (∀ m, H.message m → m.SliceOf L p.logId) →
    HonestOutcome L p file file' processed r

lemma runSession_returns {p : Params} (hofs : p.byteOffset = 0) (hn : p.byteCount < 2 ^ 32)
    (file : OutputFile) (d₀ : LogDownloader) :
    Prog.Triple (Fair H) (fun d => d = d₀) (runSession settings p file) (fun x d =>
      Quiet H (· = p.logId) d₀ d ∧ ∃ processed, Recorded (.session p processed) d₀ d ∧
        (x.1.success = true → Trusted H p file x.2 processed x.1)) := by
  intro d ticks x d' rest hd hf hr
  obtain ⟨hq, hrest⟩ := @runSession_quiet H (· = p.logId) settings p rfl file d₀ d ticks x d' rest hd hf hr
  subst hd
  obtain ⟨⟨r, s, rest'⟩, hrun, heq⟩ := Option.map_eq_some_iff.mp hr
  obtain ⟨rfl, rfl, rfl⟩ : (r, s.transfer.file) = x ∧ _ ∧ rest' = rest := by simpa using heq
  refine ⟨⟨hq, s.transfer.processed, ⟨s.trace ++ [.session p s.transfer.processed], rfl, by simp⟩, ?_⟩, hrest⟩
  intro hs L hL hslice
  exact honest_session hL hofs hn (fun tick ht m hm => hslice m ((hf tick ht).messages m hm)) hrun hs

structure Recognised (H : Promise) (settings : Settings) (entry : LogEntry) (d d' : LogDownloader)
    (row : ArchivedLog) (processed : List LogDataChunk) (r : StreamDownloadResult) : Prop where
  mem : row ∈ d.database.archivedLogs
  id : row.fcLogId = entry.id
  size : row.fcLogSize = entry.size
  session : Recorded (.session (probeParams settings entry) processed) d d'
  trusted : ∃ file', Trusted H (probeParams settings entry) {} file' processed r
  sha256 : r.probeSha256 = row.probeSha256
  bytes : (probeParams settings entry).probeBytes = row.probeBytes

lemma downloadProbeAndCompare_returns {candidate : ArchivedLog} (d₀ : LogDownloader)
    (hc : candidate ∈ d₀.database.archivedLogs ∧ candidate.fcLogId = entry.id ∧
      candidate.fcLogSize = entry.size) :
    Prog.Triple (Fair H) (fun d => d = d₀) (downloadProbeAndCompare settings entry candidate)
      (fun same d => Quiet H (· = entry.id) d₀ d ∧
        (same = true → ∃ row processed r, Recognised H settings entry d₀ d row processed r)) := by
  let p := probeParams settings entry
  let ran (x : StreamDownloadResult × OutputFile) (d : LogDownloader) : Prop :=
    Quiet H (· = entry.id) d₀ d ∧ ∃ processed, Recorded (.session p processed) d₀ d ∧
      (x.1.success = true → Trusted H p {} x.2 processed x.1)
  have hran : ∀ x d d', Quiet H (· = entry.id) d d' → ran x d → ran x d' := by
    rintro x d d' hq ⟨hd, processed, hrec, ht⟩
    exact ⟨trans_of (Quiet H (· = entry.id)) hd hq, processed, hrec.later hq.later, ht⟩
  refine .bind (M := fun _ => Quiet H (· = entry.id) d₀) (clearDataChunks_quiet d₀) fun _ => ?_
  refine .bind (M := ran) ?_ fun x => ?_
  · intro d ticks x d' rest hd hf hr
    have hn : p.byteCount < 2 ^ 32 := probeCount_lt _ _
    obtain ⟨⟨hq, processed, hrec, ht⟩, hrest⟩ := runSession_returns (p := p) rfl hn {} d d ticks x d' rest rfl hf hr
    exact ⟨⟨trans_of (Quiet H (· = entry.id)) hd hq, processed, Recorded.earlier hd.later hrec, ht⟩, hrest⟩
  refine .bind (M := fun _ => ran x) (requestLogEnd_quiet.keeps (hran x)) fun _ => .ite (fun hs => ?_) (fun hs => ?_)
  · refine .bind (M := fun _ => ran x) ((setFailure_quiet _).keeps (hran x)) fun _ => .pure ?_
    exact fun d hd => ⟨hd.1, by simp⟩
  · refine .pure ?_
    rintro d ⟨hq, processed, hrec, ht⟩
    refine ⟨hq, ?_⟩
    intro hsame
    simp only [Bool.and_eq_true, beq_iff_eq] at hsame
    exact ⟨candidate, processed, x.1, hc.1, hc.2.1, hc.2.2, hrec, ⟨x.2, ht (by simpa using hs)⟩,
      hsame.1, hsame.2⟩

lemma isDuplicate_returns (d₀ : LogDownloader) :
    Prog.Triple (Fair H) (fun d => d = d₀) (isDuplicate settings entry)
      (fun same d => Quiet H (· = entry.id) d₀ d ∧
        (same = true → ∃ row processed r, Recognised H settings entry d₀ d row processed r)) := by
  refine .bind (M := fun c d => Quiet H (· = entry.id) d₀ d ∧ ∀ row, c = some row →
      row ∈ d.database.archivedLogs ∧ row.fcLogId = entry.id ∧ row.fcLogSize = entry.size) ?_ ?_
  · refine .bind (M := fun _ => Quiet H (· = entry.id) d₀) (await_quiet settings d₀) fun tick => ?_
    refine .bind (M := fun d' d => Quiet H (· = entry.id) d₀ d ∧ d' = d) (.get fun d hd => ⟨hd, rfl⟩) fun d' => ?_
    refine .pure ?_
    rintro d ⟨hq, rfl⟩
    exact ⟨hq, fun row hrow => Database.findCandidate_mem hrow⟩
  · rintro (_ | candidate)
    · exact .pure fun d hd => ⟨hd.1, by simp⟩
    · intro d ticks same d' rest hd hf hr
      obtain ⟨⟨hq, hsame⟩, hrest⟩ :=
        downloadProbeAndCompare_returns d (hd.2 candidate rfl) d ticks same d' rest rfl hf hr
      refine ⟨⟨trans_of (Quiet H (· = entry.id)) hd.1 hq, ?_⟩, hrest⟩
      intro hs
      obtain ⟨row, processed, r, hrow⟩ := hsame hs
      refine ⟨row, processed, r, ?_, hrow.id, hrow.size, Recorded.earlier hd.1.later hrow.session,
        hrow.trusted, hrow.sha256, hrow.bytes⟩
      rw [← hd.1.database]
      exact hrow.mem

def Fetched (H : Promise) (settings : Settings) (entry : LogEntry) (bytes : List UInt8)
    (processed : List LogDataChunk) (r : StreamDownloadResult) : Prop :=
  ∀ L : List UInt8, L.length = entry.size.toNat → (∀ m, H.message m → m.SliceOf L entry.id) →
    (H.disk → bytes = L) ∧
    (ProbeInOrder L (downloadParams settings entry) processed →
      r.probeSha256 = Sha256.hashHex (L.take (min (probeN (downloadParams settings entry)) L.length))) ∧
    (entry.size.toNat ≠ 0 → r.probeBytes = toInt32 (probeN (downloadParams settings entry)))

lemma fetched_of_trusted {file file' : OutputFile} {processed : List LogDataChunk}
    {r : StreamDownloadResult} (h : Trusted H (downloadParams settings entry) file file' processed r)
    (hnew : file.content = []) (hf : H.disk → file.Reliable) :
    Fetched H settings entry file'.content processed r := by
  intro L hL hslice
  have hlt : L.length < 2 ^ 32 := by
    rw [hL]
    exact entry.size.toNat_lt
  have ho := h L hlt hslice
  have htake : L.take (downloadParams settings entry).byteCount = L :=
    List.take_of_length_le hL.le
  have hcount : (downloadParams settings entry).byteCount = L.length := hL.symm
  refine ⟨?_, ?_, ho.probeBytes⟩
  · intro hdisk
    rw [ho.content rfl (hf hdisk) hnew, htake]
  · intro hin
    rw [← hcount]
    exact ho.probe hin

structure Holding (H : Promise) (settings : Settings) (entry : LogEntry) (path : Path)
    (r : StreamDownloadResult) (d₀ d : LogDownloader) : Prop where
  tentative : Tentative H entry.id d₀ d
  fetched : ∃ file processed, d.storage.files.lookup path = some file ∧
    Recorded (.session (downloadParams settings entry) processed) d₀ d ∧
    Fetched H settings entry file.bytes processed r

lemma Holding.quiet {path : Path} {r : StreamDownloadResult} {d₀ d d' : LogDownloader}
    (h : Holding H settings entry path r d₀ d) (hq : Quiet H (· = entry.id) d d') :
    Holding H settings entry path r d₀ d' := by
  obtain ⟨file, processed, hl, hrec, hf⟩ := h.fetched
  refine ⟨trans_of (Tentative H entry.id) h.tentative hq.tentative, file, processed, ?_, ?_, hf⟩
  · rw [hq.storage]
    exact hl
  · exact hrec.later hq.later

lemma downloadLogData_returns {path : Path} (hp : path.isPartial = true) (d₀ : LogDownloader) :
    Prog.Triple (Fair H) (Tentative H entry.id d₀) (downloadLogData settings entry path) (fun res d =>
      Tentative H entry.id d₀ d ∧ ∀ r, res = some r → Holding H settings entry path r d₀ d) := by
  have hquiet : ∀ d d', Quiet H (· = entry.id) d d' → Tentative H entry.id d₀ d → Tentative H entry.id d₀ d' :=
    fun d d' hq hd => trans_of (Tentative H entry.id) hd hq.tentative
  let ran (x : StreamDownloadResult × OutputFile) (d : LogDownloader) : Prop :=
    Tentative H entry.id d₀ d ∧ ∃ processed,
      Recorded (.session (downloadParams settings entry) processed) d₀ d ∧
      (x.1.success = true → Fetched H settings entry x.2.content processed x.1)
  have hran : ∀ x d d', Quiet H (· = entry.id) d d' → ran x d → ran x d' := by
    rintro x d d' hq ⟨hd, processed, hrec, ht⟩
    exact ⟨hquiet d d' hq hd, processed, hrec.later hq.later, ht⟩
  have hnone : ∀ reason, Prog.Triple (Fair H) (Tentative H entry.id d₀)
      (setFailure reason >>= fun _ => pure none) (fun res d => Tentative H entry.id d₀ d ∧
        ∀ r : StreamDownloadResult, res = some r → Holding H settings entry path r d₀ d) := by
    intro reason
    refine .bind (M := fun _ => Tentative H entry.id d₀) ((setFailure_quiet _).keeps hquiet) fun _ => ?_
    exact .pure fun d hd => ⟨hd, by simp⟩
  refine .bind (M := fun _ => Tentative H entry.id d₀) ((setFailure_quiet _).keeps hquiet) fun _ => ?_
  refine .bind (M := fun _ => Tentative H entry.id d₀) (clearDataChunks_quiet.keeps hquiet) fun _ => ?_
  refine .bind (M := fun tick d => Tentative H entry.id d₀ d ∧ Fair H tick) ?_ fun tick => ?_
  · refine .next fun tick d hf hd => ⟨hquiet _ _ ⟨deliver_later settings hf (hf.routine _) d, rfl, rfl⟩ hd, hf⟩
  refine .ite (fun _ => (hnone _).weaken (fun _ hd => hd.1) fun _ _ h => h) fun _ => ?_
  refine .bind (M := fun _ d => Tentative H entry.id d₀ d ∧ Fair H tick) ?_ fun _ => ?_
  · exact .modify fun d hd =>
      ⟨trans_of (Tentative H entry.id) hd.1 (write_tentative hp entry.id _ d), hd.2⟩
  refine .bind (M := ran) ?_ fun x => ?_
  · intro d ticks x d' rest hd hf hr
    have hn : (downloadParams settings entry).byteCount < 2 ^ 32 := entry.size.toNat_lt
    obtain ⟨⟨hq, processed, hrec, ht⟩, hrest⟩ := runSession_returns rfl hn _ d d ticks x d' rest rfl hf hr
    refine ⟨⟨hquiet d d' hq hd.1, processed, Recorded.earlier hd.1.later hrec, ?_⟩, hrest⟩
    intro hs
    exact fetched_of_trusted (ht hs) rfl fun hdisk => ⟨rfl, hd.2.disk hdisk⟩
  refine .bind (M := fun _ => ran x) (requestLogEnd_quiet.keeps (hran x)) fun _ => ?_
  refine .bind (M := fun _ => ran x) ((await_quiet settings).keeps (hran x)) fun tick' => ?_
  refine .bind (M := fun _ d => Tentative H entry.id d₀ d ∧
      (x.1.success = true → Holding H settings entry path x.1 d₀ d)) ?_ fun _ => ?_
  · refine .modify ?_
    rintro d ⟨hd, processed, hrec, ht⟩
    have hstep := write_tentative (H := H) hp entry.id ⟨x.2.content, tick'.wall⟩ d
    have hnow := trans_of (Tentative H entry.id) hd hstep
    refine ⟨hnow, fun hs => ⟨hnow, ⟨x.2.content, tick'.wall⟩, processed, ?_, hrec.later hstep.later, ht hs⟩⟩
    exact AList.lookup_insert _
  refine .ite (fun _ => (hnone _).weaken (fun _ hd => hd.1) fun _ _ h => h) fun hs => ?_
  refine .ite (fun _ => (hnone _).weaken (fun _ hd => hd.1) fun _ _ h => h) fun _ => ?_
  refine .bind (M := fun _ => Holding H settings entry path x.1 d₀) ?_ fun _ => ?_
  · exact ((setFailure_quiet _).keeps fun d d' hq hd => hd.quiet hq).weaken
      (fun d hd => hd.2 (by simpa using hs)) fun _ _ h => h
  · refine .pure fun d hd => ⟨hd.tentative, ?_⟩
    rintro r hr
    obtain rfl := Option.some.inj hr
    exact hd

structure Placed (H : Promise) (settings : Settings) (entry : LogEntry) (R : Action → Prop)
    (r : StreamDownloadResult) (final : Path) (d₀ d : LogDownloader) : Prop where
  later : Later H R d₀ d
  archive : final.isArchive = true
  others : ∀ q, q.isArchive = true → q ≠ final → d.storage.files.lookup q = d₀.storage.files.lookup q
  placed : ∃ file processed, d.storage.files.lookup final = some file ∧
    Recorded (.session (downloadParams settings entry) processed) d₀ d ∧
    Fetched H settings entry file.bytes processed r

lemma Placed.quiet {R : Action → Prop} {r : StreamDownloadResult} {final : Path} {d₀ d d' : LogDownloader}
    (h : Placed H settings entry R r final d₀ d) (hl : Later H R d d') (hs : d'.storage = d.storage) :
    Placed H settings entry R r final d₀ d' := by
  obtain ⟨file, processed, hf, hrec, ht⟩ := h.placed
  refine ⟨h.later.trans hl, h.archive, ?_, file, processed, ?_, hrec.later hl, ht⟩
  · intro q hq hne
    rw [hs]
    exact h.others q hq hne
  · rw [hs]
    exact hf

def Finalized (H : Promise) (settings : Settings) (entry : LogEntry) (r : StreamDownloadResult)
    (d₀ d : LogDownloader) : Option Path → Prop
  | none => Tentative H entry.id d₀ d
  | some final => d.database.archivedLogs = d₀.database.archivedLogs ∧
      Placed H settings entry (Routine (· = entry.id)) r final d₀ d

lemma finalizePartial_returns {path : Path} {r : StreamDownloadResult} (hp : path.isPartial = true)
    (d₀ : LogDownloader) :
    Prog.Triple (Fair H) (Holding H settings entry path r d₀) (finalizePartial settings path)
      (fun res d => Finalized H settings entry r d₀ d res) := by
  have hquiet := (await_quiet (H := H) settings).keeps
    fun d d' hq (hd : Holding H settings entry path r d₀ d) => hd.quiet hq
  refine .bind (M := fun _ => Holding H settings entry path r d₀) hquiet fun day => ?_
  refine .bind (M := fun _ => Holding H settings entry path r d₀) hquiet fun name => ?_
  refine .bind (M := fun _ => Holding H settings entry path r d₀) hquiet fun sync => ?_
  refine .bind (M := fun _ => Holding H settings entry path r d₀) hquiet fun move => ?_
  refine .bind (M := fun d' d => Holding H settings entry path r d₀ d ∧ d' = d)
    (.get fun d hd => ⟨hd, rfl⟩) fun d' => ?_
  obtain ⟨⟨res, st⟩, hfin⟩ : ∃ y, d'.storage.finalizePartial settings.storage path
      ⟨day.wall, name.wall, sync.ioOk, move.ioOk⟩ = y := ⟨_, rfl⟩
  simp only [hfin]
  refine .bind (M := fun _ d => Finalized H settings entry r d₀ d res) ?_ fun _ => .pure fun _ hd => hd
  refine .modify ?_
  rintro d ⟨hd, rfl⟩
  cases res with
  | none =>
    rw [StorageManager.finalizePartial_none hfin]
    exact hd.tentative
  | some final =>
    obtain ⟨file, hl, hfp, rfl⟩ := StorageManager.finalizePartial_some hfin
    obtain ⟨file', processed, hl', hrec, ht⟩ := hd.fetched
    obtain rfl : file' = file := Option.some.inj (hl'.symm.trans hl)
    have htrace := hd.tentative.later
    refine ⟨hd.tentative.rows, ⟨htrace.cancel, htrace.pending, htrace.trace⟩, by rw [hfp]; rfl, ?_, file', processed,
      ?_, hrec, ht⟩
    · intro q hq hne
      simp only
      rw [StorageManager.rename_lookup_other file' hne (archive_ne_partialPath hq hp), hd.tentative.archives q hq]
    · exact StorageManager.rename_lookup_target file'

structure Stores (H : Promise) (settings : Settings) (entry : LogEntry) (final : Path)
    (row : ArchivedLog) (r : StreamDownloadResult) (d d' : LogDownloader) : Prop where
  placed : Placed H settings entry (fun a => Routine (· = entry.id) a ∨ a = .archived final) r final d d'
  archived : Recorded (.archived final) d d'
  rows : d'.database.archivedLogs = d.database.archivedLogs.filter (fun x => x.sha256 != row.sha256) ++ [row]
  sha256 : row.sha256 = r.sha256
  id : row.fcLogId = entry.id
  size : row.fcLogSize = entry.size
  probe : row.probeSha256 = r.probeSha256 ∧ row.probeBytes = r.probeBytes
  filename : row.filename = final

lemma recordArchive_returns {r : StreamDownloadResult} (started : ℤ) (final : Path) (d₀ : LogDownloader) :
    Prog.Triple (Fair H) (fun d => d.database.archivedLogs = d₀.database.archivedLogs ∧
        Placed H settings entry (Routine (· = entry.id)) r final d₀ d)
      (recordArchive settings entry r started final)
      (fun res d => res = .downloaded ∧ ∃ row, Stores H settings entry final row r d₀ d) := by
  let noted (d : LogDownloader) : Prop := d.database.archivedLogs = d₀.database.archivedLogs ∧
    Placed H settings entry (fun a => Routine (· = entry.id) a ∨ a = .archived final) r final d₀ d ∧
    Recorded (.archived final) d₀ d
  have hnoted : ∀ d d', Quiet H (· = entry.id) d d' → noted d → noted d' := by
    rintro d d' hq ⟨hr, hp, ha⟩
    refine ⟨by rw [hq.database]; exact hr, ?_, ha.later hq.later⟩
    exact hp.quiet (hq.later.mono fun a ha => Or.inl ha) hq.storage
  refine .bind (M := fun _ => noted) ?_ fun _ => ?_
  · refine .modify ?_
    rintro d ⟨hr, hp⟩
    have hlater : Later H (fun a => Routine (· = entry.id) a ∨ a = .archived final) d
        { d with trace := d.trace ++ [.archived final] } := note_later (Or.inr rfl) rfl d
    have hp' : Placed H settings entry (fun a => Routine (· = entry.id) a ∨ a = .archived final) r final d₀ d :=
      ⟨hp.later.mono fun a ha => Or.inl ha, hp.archive, hp.others, hp.placed⟩
    exact ⟨hr, hp'.quiet hlater rfl, Recorded.earlier hp.later ⟨[.archived final], rfl, by simp⟩⟩
  refine .bind (M := fun _ => noted) ((updateProgress_quiet _).keeps hnoted) fun _ => ?_
  refine .bind (M := fun _ => noted) ((await_quiet settings).keeps hnoted) fun tick => ?_
  refine .bind (M := fun _ d => ∃ row, Stores H settings entry final row r d₀ d) ?_ fun _ => .pure fun d hd => ⟨rfl, hd⟩
  refine .modify ?_
  rintro d ⟨hr, hp, ha⟩
  refine ⟨catalogRow entry r started tick final,
    hp.quiet ⟨fun h => h, fun h => h, [], by simp, by simp, by simp⟩ rfl, ha, ?_, rfl, rfl, rfl, ⟨rfl, rfl⟩, rfl⟩
  rw [← hr]
  rfl

def Outcome (H : Promise) (settings : Settings) (entry : LogEntry) (d d' : LogDownloader) :
    ArchiveResult → Prop
  | .downloaded => ∃ final row r, Stores H settings entry final row r d d'
  | .skippedDuplicate => Tentative H entry.id d d' ∧
      ∃ row processed r, Recognised H settings entry d d' row processed r
  | .cancelled => Tentative H entry.id d d'
  | .failed => Tentative H entry.id d d'

lemma quiet_tentative {α : Type} {p : Task α} (h : Prog.Moves (Fair H) (Quiet H (· = entry.id)) p)
    (d₀ : LogDownloader) :
    Prog.Triple (Fair H) (Tentative H entry.id d₀) p (fun _ => Tentative H entry.id d₀) :=
  (h.mono fun _ _ => Quiet.tentative).triple d₀

lemma count_tentative (s : Stat) (d₀ : LogDownloader) :
    Prog.Triple (Fair H) (Tentative H entry.id d₀) (updateDatabase (·.incrementStat s))
      (fun _ => Tentative H entry.id d₀) :=
  Prog.Moves.triple (updateDatabase_tentative (f := fun db => db.incrementStat s) entry.id fun _ => rfl) d₀

lemma fail_returns (reason : ArchiveFailureReason) (d₀ : LogDownloader) :
    Prog.Triple (Fair H) (Tentative H entry.id d₀) (fail reason)
      (fun res d => Outcome H settings entry d₀ d res) := by
  apply Prog.Triple.bind (quiet_tentative (updateProgress_quiet _) d₀)
  intro _
  apply Prog.Triple.bind (quiet_tentative (setFailure_quiet reason) d₀)
  intro _
  apply Prog.Triple.bind (count_tentative .archiveFailures d₀)
  exact fun _ => .pure fun _ hd => hd

lemma abandonDownload_returns {path : Path} (hp : path.isPartial = true) (d₀ : LogDownloader) :
    Prog.Triple (Fair H) (Tentative H entry.id d₀) (abandonDownload settings path)
      (fun res d => Outcome H settings entry d₀ d res) := by
  apply Prog.Triple.bind (quiet_tentative (updateProgress_quiet _) d₀)
  intro _
  apply Prog.Triple.bind ((removePartial_tentative hp entry.id).triple d₀)
  intro _
  apply Prog.Triple.bind (quiet_tentative (cancelled_quiet settings) d₀)
  intro stop
  apply Prog.Triple.bind (M := fun _ => Tentative H entry.id d₀) (.get fun _ hd => hd)
  intro d
  apply Prog.Triple.ite
  · intro _
    apply Prog.Triple.bind (count_tentative .archiveCancellations d₀)
    exact fun _ => .pure fun _ hd => hd
  · intro _
    apply Prog.Triple.bind (count_tentative .archiveFailures d₀)
    exact fun _ => .pure fun _ hd => hd

lemma rejected_returns {path : Path} (hp : path.isPartial = true) (reason : ArchiveFailureReason)
    (d₀ : LogDownloader) :
    Prog.Triple (Fair H) (Tentative H entry.id d₀) (removePartial settings path >>= fun _ => fail reason)
      (fun res d => Outcome H settings entry d₀ d res) := by
  apply Prog.Triple.bind ((removePartial_tentative hp entry.id).triple d₀)
  exact fun _ => fail_returns reason d₀

lemma verifyAndStore_returns {path : Path} {r : StreamDownloadResult} (hp : path.isPartial = true)
    (started : ℤ) (d₀ : LogDownloader) :
    Prog.Triple (Fair H) (Holding H settings entry path r d₀) (verifyAndStore settings entry path r started)
      (fun res d => Outcome H settings entry d₀ d res) := by
  have hkeep : ∀ d d', Quiet H (· = entry.id) d d' → Holding H settings entry path r d₀ d →
      Holding H settings entry path r d₀ d' := fun d d' hq hd => hd.quiet hq
  apply Prog.Triple.bind ((verifyDataFlashFile_quiet settings path).keeps hkeep)
  intro parsed
  apply Prog.Triple.ite
  · exact fun _ => (rejected_returns hp _ d₀).weaken (fun _ hd => hd.tentative) fun _ _ h => h
  intro _
  have hreread : Prog.Moves (Fair H) (Quiet H (· = entry.id)) (verifyFcSampleReread settings entry path r.sha256) :=
    @verifyFcSampleReread_quiet H (· = entry.id) settings entry rfl path r.sha256
  apply Prog.Triple.bind (hreread.keeps hkeep)
  intro reread
  apply Prog.Triple.ite
  · exact fun _ => (rejected_returns hp _ d₀).weaken (fun _ hd => hd.tentative) fun _ _ h => h
  intro _
  apply Prog.Triple.bind (finalizePartial_returns hp d₀)
  intro final
  cases final with
  | none => exact fail_returns _ d₀
  | some final =>
    apply (recordArchive_returns started final d₀).weaken (fun _ hd => hd)
    rintro res d ⟨rfl, row, hrow⟩
    exact ⟨final, row, r, hrow⟩

lemma downloadFull_returns (d₀ : LogDownloader) :
    Prog.Triple (Fair H) (Tentative H entry.id d₀) (downloadFull settings entry)
      (fun res d => Outcome H settings entry d₀ d res) := by
  apply Prog.Triple.bind (quiet_tentative (await_quiet settings) d₀)
  intro tick
  apply Prog.Triple.bind (M := fun d' d => Tentative H entry.id d₀ d ∧ d' = d) (.get fun d hd => ⟨hd, rfl⟩)
  intro d'
  have hp : (d'.storage.beginPartialFile settings.storage tick.wall).1.isPartial = true := rfl
  apply Prog.Triple.bind (M := fun _ => Tentative H entry.id d₀)
  · apply Prog.Triple.modify
    rintro d ⟨hd, rfl⟩
    exact ⟨⟨hd.later.cancel, hd.later.pending, hd.later.trace⟩, hd.archives, hd.rows⟩
  intro _
  apply Prog.Triple.bind (quiet_tentative (updateProgress_quiet _) d₀)
  intro _
  apply Prog.Triple.bind (downloadLogData_returns hp d₀)
  intro res
  cases res with
  | none => exact (abandonDownload_returns hp d₀).weaken (fun _ hd => hd.1) fun _ _ h => h
  | some r => exact (verifyAndStore_returns hp tick.now d₀).weaken (fun _ hd => hd.2 r rfl) fun _ _ h => h

lemma archiveOne_returns (d₀ : LogDownloader) :
    Prog.Triple (Fair H) (fun d => d = d₀) (archiveOne settings entry)
      (fun res d => Outcome H settings entry d₀ d res) := by
  apply Prog.Triple.bind (isDuplicate_returns d₀)
  intro duplicate
  apply Prog.Triple.ite
  · intro hdup
    apply Prog.Triple.bind (M := fun _ d => Outcome H settings entry d₀ d .skippedDuplicate)
    · apply Prog.Triple.modify
      rintro d ⟨hq, hrow⟩
      obtain ⟨row, processed, r, hrow⟩ := hrow hdup
      have ht := hq.tentative
      exact ⟨⟨⟨ht.later.cancel, ht.later.pending, ht.later.trace⟩, ht.archives, ht.rows⟩, row, processed, r,
        hrow.mem, hrow.id, hrow.size, hrow.session, hrow.trusted, hrow.sha256, hrow.bytes⟩
    · exact fun _ => .pure fun _ hd => hd
  intro _
  apply Prog.Triple.bind (M := fun _ => Tentative H entry.id d₀)
  · exact (quiet_tentative (cancelled_quiet settings) d₀).weaken (fun _ hd => hd.1.tentative) fun _ _ h => h
  intro stop
  apply Prog.Triple.ite
  · exact fun _ => .pure fun _ hd => hd
  · exact fun _ => downloadFull_returns d₀

end MavlinkLogService.Archive.LogDownloader
