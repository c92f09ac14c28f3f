import MavlinkLogService.Archive.Deduplication
import MavlinkLogService.Session.OrderedSession

/-! The probe of a log that arrives in order again is the one that was stored when it was archived. -/

namespace MavlinkLogService.Archive.LogDownloader

open Library Session Storage

variable {settings : Settings} {entry : LogEntry}

def Hashed (p : Params) (processed : List LogDataChunk) (r : StreamDownloadResult) : Prop :=
  ∀ L : List UInt8, arrival p processed = L.take p.byteCount → p.byteCount ≤ L.length → L.length < 2 ^ 32 →
    r.probeSha256 = Sha256.hashHex (L.take (min (probeN p) p.byteCount)) ∧
      (p.byteCount ≠ 0 → r.probeBytes = toInt32 (probeN p))

def Fetches (settings : Settings) (entry : LogEntry) (r : StreamDownloadResult) (d₀ d : LogDownloader) : Prop :=
  ∃ processed, Recorded (.session (downloadParams settings entry) processed) d₀ d ∧
    Hashed (downloadParams settings entry) processed r

lemma Fetches.later {r : StreamDownloadResult} {R : Action → Prop} {d₀ d d' : LogDownloader}
    (h : Fetches settings entry r d₀ d) (hl : Later {} R d d') : Fetches settings entry r d₀ d' := by
  obtain ⟨processed, hrec, hhashed⟩ := h
  exact ⟨processed, hrec.later hl, hhashed⟩

lemma runSession_fetches (file : OutputFile) (d₀ : LogDownloader) :
    Prog.Triple (Fair {}) (Tentative {} entry.id d₀) (runSession settings (downloadParams settings entry) file)
      (fun x d => x.1.success = true → Fetches settings entry x.1 d₀ d) := by
  intro d ticks x d' rest hd hf hr
  obtain ⟨_, hrest⟩ := Prog.Triple.any _ d ticks x d' rest hd hf hr
  obtain ⟨⟨r, s, rest'⟩, hrun, heq⟩ := Option.map_eq_some_iff.mp hr
  obtain ⟨rfl, rfl, rfl⟩ : (r, s.transfer.file) = x ∧ _ ∧ rest' = rest := by simpa using heq
  refine ⟨fun hs => ⟨s.transfer.processed, Recorded.earlier hd.later ⟨_, rfl, by simp⟩, ?_⟩, hrest⟩
  exact fun L harrival hn hL => StreamDownload.run_probe hrun hs harrival hn hL

lemma downloadLogData_fetches {path : Path} (hp : path.isPartial = true) (d₀ : LogDownloader) :
    Prog.Triple (Fair {}) (Tentative {} entry.id d₀) (downloadLogData settings entry path)
      (fun res d => ∀ r, res = some r → Fetches settings entry r d₀ d) := by
  have hnone : ∀ reason P, Prog.Triple (Fair {}) P (setFailure reason >>= fun _ => pure none)
      (fun res d => ∀ r : StreamDownloadResult, res = some r → Fetches settings entry r d₀ d) :=
    fun reason P => .bind (.any _) fun _ => .pure (by simp)
  have hkeep : ∀ (x : StreamDownloadResult × OutputFile) (d d' : LogDownloader), Quiet {} (· = entry.id) d d' →
      (x.1.success = true → Fetches settings entry x.1 d₀ d) → x.1.success = true → Fetches settings entry x.1 d₀ d' :=
    fun x d d' hq h hs => (h hs).later hq.later
  refine .bind (quiet_tentative (setFailure_quiet _) d₀) fun _ => ?_
  refine .bind (quiet_tentative clearDataChunks_quiet d₀) fun _ => ?_
  refine .bind (quiet_tentative (await_quiet settings) d₀) fun tick => .ite (fun _ => hnone _ _) fun _ => ?_
  refine .bind (M := fun _ => Tentative {} entry.id d₀) ?_ fun _ => ?_
  · exact .modify fun d hd => trans_of (Tentative {} entry.id) hd (write_tentative hp entry.id _ d)
  refine .bind (runSession_fetches _ d₀) fun x => ?_
  refine .bind (requestLogEnd_quiet.keeps (hkeep x)) fun _ => ?_
  refine .bind ((await_quiet settings).keeps (hkeep x)) fun tick => ?_
  refine .bind (M := fun _ d => x.1.success = true → Fetches settings entry x.1 d₀ d) ?_ fun _ => ?_
  · exact .modify fun d h hs => (h hs).later (write_tentative hp entry.id _ d).later
  refine .ite (fun _ => hnone _ _) fun hs => .ite (fun _ => hnone _ _) fun _ => ?_
  refine .bind ((setFailure_quiet _).keeps (hkeep x)) fun _ => .pure fun d h r hr => ?_
  obtain rfl := Option.some.inj hr
  exact h (by simpa using hs)

def StoredProbe (settings : Settings) (entry : LogEntry) (d₀ d : LogDownloader) : Prop :=
  ∃ row r, d.database.archivedLogs.getLast? = some row ∧ row.probeSha256 = r.probeSha256 ∧
    row.probeBytes = r.probeBytes ∧ Fetches settings entry r d₀ d

lemma fail_never {reason : ArchiveFailureReason} {P : LogDownloader → Prop} {Q : LogDownloader → Prop} :
    Prog.Triple (Fair {}) P (fail reason) (fun res d => res = .downloaded → Q d) :=
  .bind (.any _) fun _ => .bind (.any _) fun _ => .bind (.any _) fun _ => .pure (by simp)

lemma abandonDownload_never {path : Path} {P : LogDownloader → Prop} {Q : LogDownloader → Prop} :
    Prog.Triple (Fair {}) P (abandonDownload settings path) (fun res d => res = .downloaded → Q d) := by
  refine .bind (.any _) fun _ => .bind (.any _) fun _ => .bind (.any _) fun _ => .bind (.any _) fun _ => ?_
  refine .ite (fun _ => ?_) fun _ => ?_
  · exact .bind (.any _) fun _ => .pure (by simp)
  · exact .bind (.any _) fun _ => .pure (by simp)

lemma recordArchive_stores {r : StreamDownloadResult} (started : ℤ) (final : Path) (d₀ : LogDownloader) :
    Prog.Triple (Fair {}) (Fetches settings entry r d₀) (recordArchive settings entry r started final)
      (fun res d => res = .downloaded → StoredProbe settings entry d₀ d) := by
  have hkeep : ∀ d d', Quiet {} (· = entry.id) d d' → Fetches settings entry r d₀ d → Fetches settings entry r d₀ d' :=
    fun d d' hq h => h.later hq.later
  refine .bind (M := fun _ => Fetches settings entry r d₀) ?_ fun _ => ?_
  · exact .modify fun d h => h.later (note_later (R := fun _ => True) trivial rfl d)
  refine .bind ((updateProgress_quiet _).keeps hkeep) fun _ => ?_
  refine .bind ((await_quiet settings).keeps hkeep) fun tick => ?_
  refine .bind (M := fun _ => StoredProbe settings entry d₀) ?_ fun _ => .pure fun _ h _ => h
  refine .modify fun d ⟨processed, ⟨ext, hext, hmem⟩, hhashed⟩ => ?_
  exact ⟨catalogRow entry r started tick final, r, List.getLast?_concat, rfl, rfl, processed,
    ⟨ext, hext, hmem⟩, hhashed⟩

lemma finalizePartial_fetches {r : StreamDownloadResult} (path : Path) (d₀ : LogDownloader) :
    Prog.Triple (Fair {}) (Fetches settings entry r d₀) (finalizePartial settings path)
      (fun _ => Fetches settings entry r d₀) := by
  have hawait : Prog.Triple (Fair {}) (Fetches settings entry r d₀) (await settings)
      (fun _ => Fetches settings entry r d₀) :=
    (await_quiet settings).keeps fun d d' (hq : Quiet {} (· = entry.id) d d') h => h.later hq.later
  refine .bind hawait fun _ => .bind hawait fun _ => .bind hawait fun _ => .bind hawait fun _ => ?_
  refine .bind (M := fun _ => Fetches settings entry r d₀) (.get fun _ h => h) fun d' => ?_
  exact .bind (M := fun _ => Fetches settings entry r d₀) (.modify fun _ h => h) fun _ => .pure fun _ h => h

lemma verifyAndStore_stores {path : Path} {r : StreamDownloadResult} (started : ℤ) (d₀ : LogDownloader) :
    Prog.Triple (Fair {}) (Fetches settings entry r d₀) (verifyAndStore settings entry path r started)
      (fun res d => res = .downloaded → StoredProbe settings entry d₀ d) := by
  have hkeep : ∀ d d', Quiet {} (· = entry.id) d d' → Fetches settings entry r d₀ d → Fetches settings entry r d₀ d' :=
    fun d d' hq h => h.later hq.later
  have hrejected : ∀ reason, Prog.Triple (Fair {}) (Fetches settings entry r d₀)
      (removePartial settings path >>= fun _ => fail reason)
      (fun res d => res = .downloaded → StoredProbe settings entry d₀ d) :=
    fun reason => .bind (.any _) fun _ => fail_never
  refine .bind ((verifyDataFlashFile_quiet settings path).keeps hkeep) fun parsed =>
    .ite (fun _ => hrejected _) fun _ => ?_
  have hreread : Prog.Moves (Fair {}) (Quiet {} (· = entry.id)) (verifyFcSampleReread settings entry path r.sha256) :=
    @verifyFcSampleReread_quiet {} (· = entry.id) settings entry rfl path r.sha256
  refine .bind (hreread.keeps hkeep) fun reread => .ite (fun _ => hrejected _) fun _ => ?_
  refine .bind (finalizePartial_fetches path d₀) ?_
  rintro (_ | final)
  · exact fail_never
  · exact recordArchive_stores started final d₀

lemma archiveOne_stores (d₀ : LogDownloader) :
    Prog.Triple (Fair {}) (fun d => d = d₀) (archiveOne settings entry)
      (fun res d => res = .downloaded → StoredProbe settings entry d₀ d) := by
  refine .bind (M := fun _ => Tentative {} entry.id d₀) ?_ fun duplicate => .ite (fun _ => ?_) fun _ => ?_
  · exact (isDuplicate_returns d₀).weaken (fun _ hd => hd) fun _ _ h => h.1.tentative
  · exact .bind (.any _) fun _ => .pure (by simp)
  refine .bind (quiet_tentative (cancelled_quiet settings) d₀) fun stop => .ite (fun _ => .pure (by simp)) fun _ => ?_
  refine .bind (quiet_tentative (await_quiet settings) d₀) fun tick => ?_
  refine .bind (M := fun d' d => Tentative {} entry.id d₀ d ∧ d' = d) (.get fun _ hd => ⟨hd, rfl⟩) fun d' => ?_
  refine .bind (M := fun _ => Tentative {} entry.id d₀) (.modify ?_) fun _ => ?_
  · rintro d ⟨hd, rfl⟩
    exact ⟨⟨hd.later.cancel, hd.later.pending, hd.later.trace⟩, hd.archives, hd.rows⟩
  refine .bind (quiet_tentative (updateProgress_quiet _) d₀) fun _ => ?_
  refine .bind (downloadLogData_fetches rfl d₀) ?_
  rintro (_ | r)
  · exact abandonDownload_never
  · exact (verifyAndStore_stores tick.now d₀).weaken (fun _ h => h r rfl) fun _ _ h => h

def probeSession (settings : Settings) (entry : LogEntry) (tick : Tick) (d : LogDownloader) : StreamDownload :=
  .start (probeParams settings entry) (deliver settings tick d).inbox.clearDataChunks {}

lemma isDuplicate_recognises {row : ArchivedLog} {tick : Tick} {d : LogDownloader} {ticks rest : List Tick}
    {r : StreamDownloadResult} {s : StreamDownload}
    (hrow : d.database.findCandidate entry.id entry.size (tick.order.headD 0) = some row)
    (hrun : StreamDownload.run settings.download (probeParams settings entry)
      (deliver settings tick d).inbox.clearDataChunks {} ticks = some (r, s, rest)) (hok : r.success = true)
    (hsha : r.probeSha256 = row.probeSha256) (hbytes : (probeParams settings entry).probeBytes = row.probeBytes) :
    ∃ d', (archiveOne settings entry).run d (tick :: ticks) = some (.skippedDuplicate, d', rest) := by
  have hrow' : (deliver settings tick d).database.findCandidate entry.id entry.size (tick.order.headD 0) =
      some row := hrow
  obtain ⟨d₁, hsession⟩ : ∃ d₁, (runSession settings (probeParams settings entry) {}).run
      { deliver settings tick d with inbox := (deliver settings tick d).inbox.clearDataChunks } ticks =
        some ((r, s.transfer.file), d₁, rest) := ⟨_, congrArg (Option.map _) hrun⟩
  let d₂ : LogDownloader := { d₁ with trace := d₁.trace ++ [.request .finish] }
  have hsame : (downloadProbeAndCompare settings entry row).run (deliver settings tick d) ticks =
      some (true, d₂, rest) := by
    simp [downloadProbeAndCompare, Prog.bind_run, clearDataChunks, hsession, requestLogEnd, note, hok, hsha, hbytes, d₂]
  have hduplicate : (isDuplicate settings entry).run d (tick :: ticks) = some (true, d₂, rest) := by
    simp only [isDuplicate, checkDedup, Prog.bind_run, await, Prog.next_run, Option.bind_some, Prog.get_run,
      Prog.pure_run, hrow', hsame]
  refine ⟨{ d₂ with database := d₂.database.incrementStat .flightsSkipped }, ?_⟩
  simp [archiveOne, Prog.bind_run, hduplicate, updateDatabase]

lemma run_recognises {L : List UInt8} (hL : L.length < 2 ^ 31) (hsize : entry.size.toNat = L.length)
    (hprobe : 0 ≤ settings.download.probeBytes) {tick : Tick} {d : LogDownloader} {ticks : List Tick}
    (hpre : StreamDownload.received settings.download (probeParams settings entry) (probeSession settings entry tick d)
      ticks <+: logChunks entry.id L)
    (hcover : min settings.download.probeBytes.toNat L.length ≤
      90 * (StreamDownload.received settings.download (probeParams settings entry) (probeSession settings entry tick d)
        ticks).length) :
    ∃ r s rest, StreamDownload.run settings.download (probeParams settings entry)
        (deliver settings tick d).inbox.clearDataChunks {} ticks = some (r, s, rest) ∧ r.success = true ∧
      r.probeSha256 = Sha256.hashHex (L.take (min settings.download.probeBytes.toNat L.length)) := by
  have hcount : (probeParams settings entry).byteCount = min settings.download.probeBytes.toNat L.length := by
    rw [← hsize]
    exact probeCount_small hprobe (by omega)
  obtain ⟨r, s, rest, hrun, hok, harrival⟩ :=
    StreamDownload.run_ordered (p := probeParams settings entry) rfl (by omega) hL
    hpre (by rw [hcount]; exact hcover)
  obtain ⟨hsha, _⟩ := StreamDownload.run_probe hrun hok harrival (by omega) (by omega)
  rw [probeN_probeParams, min_self, hcount] at hsha
  exact ⟨r, s, rest, hrun, hok, hsha⟩

theorem stored_probe_recognised (settings : Settings) (L : List UInt8) (hne : L ≠ []) (hL : L.length < 2 ^ 31)
    (hprobe : 0 ≤ settings.download.probeBytes) (entry : LogEntry) (hsize : entry.size.toNat = L.length)
    (d₁ d₁' : LogDownloader) (ticks₁ rest₁ : List Tick) (hfair : ∀ tick ∈ ticks₁, Fair {} tick)
    (harchive : (archiveOne settings entry).run d₁ ticks₁ = some (.downloaded, d₁', rest₁))
    (hfull : ∀ processed, Recorded (.session (downloadParams settings entry) processed) d₁ d₁' →
      processed = logChunks entry.id L) :
    ∃ row, d₁'.database.archivedLogs.getLast? = some row ∧
      row.probeSha256 = Sha256.hashHex (L.take (min settings.download.probeBytes.toNat L.length)) ∧
      row.probeBytes = min settings.download.probeBytes L.length ∧
      ∀ (entry' : LogEntry) (d₂ : LogDownloader) (tick : Tick) (ticks₂ : List Tick), entry'.size.toNat = L.length →
        StreamDownload.received settings.download (probeParams settings entry') (probeSession settings entry' tick d₂)
          ticks₂ <+: logChunks entry'.id L →
        min settings.download.probeBytes.toNat L.length ≤ 90 * (StreamDownload.received settings.download
          (probeParams settings entry') (probeSession settings entry' tick d₂) ticks₂).length →
        (∃ r s rest, StreamDownload.run settings.download (probeParams settings entry')
          (deliver settings tick d₂).inbox.clearDataChunks {} ticks₂ = some (r, s, rest) ∧ r.success = true ∧
          r.probeSha256 = row.probeSha256 ∧ (probeParams settings entry').probeBytes = row.probeBytes) ∧
        (d₂.database.findCandidate entry'.id entry'.size (tick.order.headD 0) = some row →
          ∃ d₂' rest₂, (archiveOne settings entry').run d₂ (tick :: ticks₂) =
            some (.skippedDuplicate, d₂', rest₂)) := by
  obtain ⟨hstored, _⟩ := archiveOne_stores d₁ d₁ ticks₁ .downloaded d₁' rest₁ rfl hfair harchive
  obtain ⟨row, r, hlast, hsha, hbytes, processed, hrec, hhashed⟩ := hstored rfl
  obtain rfl := hfull processed hrec
  have hcount : (downloadParams settings entry).byteCount = L.length := hsize
  have hprobeN : probeN (downloadParams settings entry) = min settings.download.probeBytes.toNat L.length := by
    rw [probeN, hcount]
    exact probeCount_small hprobe hL
  have harrival : arrival (downloadParams settings entry) (logChunks entry.id L) =
      L.take (downloadParams settings entry).byteCount :=
    arrival_prefix rfl (by omega) hL List.prefix_rfl (by rw [logChunks_length]; omega)
  have hne' : (downloadParams settings entry).byteCount ≠ 0 := by
    rw [hcount]
    exact fun h => hne (List.length_eq_zero_iff.mp h)
  have hint : toInt32 (min settings.download.probeBytes.toNat L.length) =
      min settings.download.probeBytes L.length := by
    rw [toInt32, if_pos (by omega)]
    omega
  obtain ⟨hprobeSha, hprobeBytes⟩ := hhashed L harrival (by omega) (by omega)
  rw [hprobeN, hcount, min_assoc, min_self, ← hsha] at hprobeSha
  have hrowBytes : row.probeBytes = min settings.download.probeBytes L.length := by
    rw [hbytes, hprobeBytes hne', hprobeN, hint]
  refine ⟨row, hlast, hprobeSha, hrowBytes, fun entry' d₂ tick ticks₂ hsize' hpre hcover => ?_⟩
  obtain ⟨r', s', rest₂, hrun, hok, hsame⟩ := run_recognises hL hsize' hprobe hpre hcover
  have hsame' : (probeParams settings entry').probeBytes = row.probeBytes := by
    have hcount' : probeCount settings.download.probeBytes entry'.size.toNat =
        min settings.download.probeBytes.toNat L.length := by
      rw [hsize', probeCount_small hprobe hL]
    simp only [probeParams, hcount', hint, hrowBytes]
  rw [← hprobeSha] at hsame
  refine ⟨⟨r', s', rest₂, hrun, hok, hsame, hsame'⟩, fun hrow => ?_⟩
  obtain ⟨d₂', hskip⟩ := isDuplicate_recognises hrow hrun hok hsame hsame'
  exact ⟨d₂', rest₂, hskip⟩

def downloadsWhole (settings : Settings) (entry : LogEntry) (L : List UInt8) : Action → Bool
  | .session p processed => decide (p = downloadParams settings entry → processed = logChunks entry.id L)
  | _ => true

lemma downloads_whole {settings : Settings} {entry : LogEntry} {L : List UInt8} {d d' : LogDownloader}
    (h : (d'.trace.drop d.trace.length).all (downloadsWhole settings entry L) = true) (processed : List LogDataChunk)
    (hrec : Recorded (.session (downloadParams settings entry) processed) d d') : processed = logChunks entry.id L := by
  obtain ⟨ext, hext, hmem⟩ := hrec
  rw [hext, List.drop_left, List.all_eq_true] at h
  exact of_decide_eq_true (h _ hmem) rfl

theorem stored_probe_recognised_pair :
    let settings := (offerPair 7 1).settings
    let entry := (offerPair 7 1).entry
    ∃ d₁ d₂ rest₁ rest₂, (archiveOne settings entry).run {} (pairTicks 7 1) = some (.downloaded, d₁, rest₁) ∧
      (archiveOne settings entry).run d₁ (pairTicks 7 1) = some (.skippedDuplicate, d₂, rest₂) := by
  intro settings entry
  have h : ((archiveOne settings entry).run {} (pairTicks 7 1)).any (fun x => decide (x.1 = .downloaded ∧
      x.2.1.trace.all (downloadsWhole settings entry [7, 1]) = true ∧
      x.2.1.database.findCandidate entry.id entry.size 0 = x.2.1.database.archivedLogs.getLast? ∧
      StreamDownload.received settings.download (probeParams settings entry) (probeSession settings entry {} x.2.1)
        (pairTicks 7 1).tail = logChunks 1 [7, 1])) = true := by decide +kernel
  obtain ⟨⟨res, d₁, rest₁⟩, harchive, h⟩ := (Option.any_eq_true _ _).mp h
  obtain ⟨rfl, hwhole, hcandidate, hreceived⟩ := of_decide_eq_true h
  have hfair : ∀ tick ∈ pairTicks 7 1, Fair {} tick := by
    intro tick ht
    have hmarks := (offerPair 7 1).silent tick ht
    exact ⟨by simp [hmarks], by simp [hmarks], fun _ _ => trivial, fun h => h.elim⟩
  obtain ⟨row, hlast, _, _, hlater⟩ :=
    stored_probe_recognised settings [7, 1] (by decide) (by decide) (by decide) entry rfl
    {} d₁ (pairTicks 7 1) rest₁ hfair harchive (downloads_whole hwhole)
  obtain ⟨_, hskip⟩ := hlater entry d₁ {} (pairTicks 7 1).tail rfl (by rw [hreceived]; exact List.prefix_rfl)
    (by rw [hreceived, logChunks_length]; decide)
  obtain ⟨d₂, rest₂, hrun⟩ := hskip (hcandidate.trans hlast)
  have hticks : ({} : Tick) :: (pairTicks 7 1).tail = pairTicks 7 1 := rfl
  rw [hticks] at hrun
  exact ⟨d₁, d₂, rest₁, rest₂, harchive, hrun⟩

end MavlinkLogService.Archive.LogDownloader
