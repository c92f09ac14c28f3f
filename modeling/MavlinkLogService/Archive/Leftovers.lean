import MavlinkLogService.Archive.Ledger

/-! What the tasks of the downloader leave among the partial files: at most the file of a log that failed or
was cancelled, and this only if an operation of the disk failed. -/

namespace MavlinkLogService.Archive.LogDownloader

open Library Session Storage

def partials (st : StorageManager) : List Path := st.files.keys.filter Path.isPartial

lemma mem_partials {st : StorageManager} {q : Path} : q ∈ partials st ↔ q ∈ st.files ∧ q.isPartial = true := by
  rw [partials, List.mem_filter]
  exact Iff.rfl

lemma nodup_partials (st : StorageManager) : (partials st).Nodup := st.files.keys_nodup.filter _

def unfinishedLogs (l : List Action) : ℕ := (outcomes l).countP fun x => x.2 = .failed ∨ x.2 = .cancelled

structure Calm (calm : Prop) (tick : Tick) : Prop where
  fair : Fair {} tick
  io : calm → tick.ioOk = true

structure Leaves (new : List Path) (d d' : LogDownloader) : Prop where
  unrecorded : outcomes d'.trace = outcomes d.trace
  files : partials d'.storage ⊆ partials d.storage ++ new

variable {calm : Prop} {settings : Settings} {entry : LogEntry} {path : Path} {new : List Path}
  {d₀ d d' : LogDownloader}

lemma subset_new {a b c new more : List Path} (h : b ⊆ a ++ new) (h' : c ⊆ b ++ more) : c ⊆ a ++ (new ++ more) := by
  rw [← List.append_assoc]
  exact List.Subset.trans h' (List.append_subset.mpr
    ⟨List.Subset.trans h (List.subset_append_left _ _), List.subset_append_right _ _⟩)

lemma Leaves.keep (h : Leaves new d₀ d) (h' : Leaves [] d d') : Leaves new d₀ d' :=
  ⟨h'.unrecorded.trans h.unrecorded, by simpa using subset_new h.files h'.files⟩

instance : Std.Refl (Leaves []) := ⟨fun d => ⟨rfl, by simp⟩⟩

instance : IsTrans LogDownloader (Leaves []) := ⟨fun _ _ _ h h' => h.keep h'⟩

lemma Leaves.of_storage (ho : outcomes d'.trace = outcomes d.trace) (hs : d'.storage = d.storage) :
    Leaves [] d d' :=
  ⟨ho, by rw [hs]; simp⟩

lemma Quiet.leaves {ids : UInt16 → Prop} (h : Quiet {} ids d d') : Leaves [] d d' :=
  .of_storage h.unbooked.outcomes h.storage

lemma quiet_leaves {α : Type} {p : Task α} (h : Prog.Moves (Fair {}) (Quiet {} fun _ => True) p) :
    Prog.Triple (Calm calm) (Leaves new d₀) p (fun _ => Leaves new d₀) :=
  (h.keeps fun _ _ hq hl => hl.keep hq.leaves).assume fun _ hi => hi.fair

variable (settings) in
lemma await_leaves : Prog.Triple (Calm calm) (Leaves new d₀) (await settings)
    (fun tick d => (calm → tick.ioOk = true) ∧ Leaves new d₀ d) :=
  .next fun tick d hi hd =>
    ⟨hi.io, (quiet_leaves (await_quiet settings) d [tick] tick _ [] hd (by simpa using hi) rfl).1⟩

lemma updateDatabase_leaves (f : Database → Database) :
    Prog.Triple (Calm calm) (Leaves new d₀) (updateDatabase f) (fun _ => Leaves new d₀) :=
  .modify fun _ hd => hd.keep (.of_storage rfl rfl)

lemma updateStorage_leaves {f : StorageManager → StorageManager} {new' : List Path}
    (hf : ∀ d, Leaves new d₀ d → partials (f d.storage) ⊆ partials d₀.storage ++ new') :
    Prog.Triple (Calm calm) (Leaves new d₀) (updateStorage f) (fun _ => Leaves new' d₀) :=
  .modify fun d hd => ⟨hd.unrecorded, hf d hd⟩

lemma write_leaves (file : File) :
    Prog.Triple (Calm calm) (Leaves [path] d₀) (updateStorage (·.write path file)) (fun _ => Leaves [path] d₀) := by
  refine updateStorage_leaves fun d hd q hq => ?_
  obtain ⟨hm, hp⟩ := mem_partials.mp hq
  rcases (AList.mem_insert _).mp hm with rfl | hm
  · simp
  · exact hd.files (mem_partials.mpr ⟨hm, hp⟩)

lemma Leaves.gone {st : StorageManager} (h : Leaves [path] d₀ d)
    (hs : ∀ q ∈ partials st, q ∈ partials d.storage ∧ q ≠ path) : partials st ⊆ partials d₀.storage ++ [] := by
  intro q hq
  obtain ⟨hold, hne⟩ := hs q hq
  rcases List.mem_append.mp (h.files hold) with hold | hnew
  · simpa using hold
  · exact absurd (List.mem_singleton.mp hnew) hne

def Settles (calm : Prop) (d₀ : LogDownloader) (res : ArchiveResult) (d : LogDownloader) : Prop :=
  ∃ new : List Path, new.length ≤ (if res = .failed ∨ res = .cancelled then 1 else 0) ∧
    (calm → new = []) ∧ Leaves new d₀ d

lemma Leaves.settles (h : Leaves [] d₀ d) (res : ArchiveResult) : Settles calm d₀ res d :=
  ⟨[], Nat.zero_le _, fun _ => rfl, h⟩

def Removes (calm : Prop) (d₀ d : LogDownloader) : Prop :=
  ∃ new : List Path, new.length ≤ 1 ∧ (calm → new = []) ∧ Leaves new d₀ d

lemma Removes.keep (h : Removes calm d₀ d) (h' : Leaves [] d d') : Removes calm d₀ d' := by
  obtain ⟨new, hlen, hcalm, hd⟩ := h
  exact ⟨new, hlen, hcalm, hd.keep h'⟩

lemma Removes.settles {res : ArchiveResult} (h : Removes calm d₀ d) (hres : res = .failed ∨ res = .cancelled) :
    Settles calm d₀ res d := by
  rw [Settles, if_pos hres]
  exact h

lemma quiet_removes {α : Type} {p : Task α} (h : Prog.Moves (Fair {}) (Quiet {} fun _ => True) p) :
    Prog.Triple (Calm calm) (Removes calm d₀) p (fun _ => Removes calm d₀) :=
  (h.keeps fun _ _ hq hl => hl.keep hq.leaves).assume fun _ hi => hi.fair

lemma removePartial_removes :
    Prog.Triple (Calm calm) (Leaves [path] d₀) (removePartial settings path) (fun _ => Removes calm d₀) := by
  refine .bind (await_leaves settings) fun tick => .given fun hio => .ite (fun _ => ?_) fun hfails => ?_
  · refine .modify fun d hd => ⟨[], Nat.zero_le _, fun _ => rfl, hd.unrecorded, hd.gone fun q hq => ?_⟩
    obtain ⟨hm, hp⟩ := mem_partials.mp hq
    obtain ⟨hne, hm⟩ := AList.mem_erase.mp hm
    exact ⟨mem_partials.mpr ⟨hm, hp⟩, hne⟩
  · exact .pure fun d hd => ⟨[path], le_rfl, fun hc => absurd (hio hc) hfails, hd⟩

lemma finalizePartial_gone {storage : StorageSettings} {st st' : StorageManager} {env : FinalizeEnv}
    {final : Option Path} (h : st.finalizePartial storage path env = (final, st'))
    (hok : final ≠ none ∨ env.fsyncOk = true ∧ env.renameOk = true) :
    ∀ q ∈ partials st', q ∈ partials st ∧ q ≠ path := by
  intro q hq
  obtain ⟨hm, hp⟩ := mem_partials.mp hq
  cases final with
  | some target =>
    obtain ⟨file, _, rfl, rfl⟩ := StorageManager.finalizePartial_some h
    rcases (AList.mem_insert _).mp hm with rfl | hm
    · rw [finalPath_isPartial] at hp
      cases hp
    · obtain ⟨hne, hm⟩ := AList.mem_erase.mp hm
      exact ⟨mem_partials.mpr ⟨hm, hp⟩, hne⟩
  | none =>
    obtain ⟨hsync, hmove⟩ := hok.resolve_left fun hne => hne rfl
    obtain rfl := StorageManager.finalizePartial_none h
    refine ⟨hq, ?_⟩
    rintro rfl
    obtain ⟨file, hl⟩ := Option.isSome_iff_exists.mp (AList.lookup_isSome.mpr hm)
    rw [StorageManager.finalizePartial, hl] at h
    simp [hsync, hmove, StorageManager.rename] at h

lemma finalizePartial_leaves :
    Prog.Triple (Calm calm) (Leaves [path] d₀) (finalizePartial settings path)
      (fun final d => if final = none then Removes calm d₀ d else Leaves [] d₀ d) := by
  refine .bind (await_leaves settings) fun day => .given fun _ => .bind (await_leaves settings) fun name => ?_
  refine .given fun _ => .bind (await_leaves settings) fun sync => .given fun hsync => ?_
  refine .bind (await_leaves settings) fun move => .given fun hmove => ?_
  refine .bind (M := fun now d => now = d ∧ Leaves [path] d₀ d) (.get fun _ hd => ⟨rfl, hd⟩) fun now => ?_
  generalize hf : now.storage.finalizePartial settings.storage path ⟨day.wall, name.wall, sync.ioOk, move.ioOk⟩ = x
  refine .bind (M := fun _ d => if x.1 = none then Removes calm d₀ d else Leaves [] d₀ d)
    (.modify fun d hd => ?_) fun _ => .pure fun d hd => hd
  obtain ⟨rfl, hd⟩ := hd
  have hgone : (x.1 ≠ none ∨ calm) → Leaves [] d₀ { now with storage := x.2 } := fun h =>
    ⟨hd.unrecorded, hd.gone (finalizePartial_gone hf (h.imp_right fun hc => ⟨hsync hc, hmove hc⟩))⟩
  split_ifs with hnone
  · by_cases hc : calm
    · exact ⟨[], Nat.zero_le _, fun _ => rfl, hgone (.inr hc)⟩
    · refine ⟨[path], le_rfl, fun h => absurd h hc, hd.unrecorded, ?_⟩
      have hsame : x.2 = now.storage := StorageManager.finalizePartial_none (hf.trans (Prod.ext hnone rfl))
      rw [hsame]
      exact hd.files
  · exact hgone (.inl hnone)

lemma downloadLogData_leaves :
    Prog.Triple (Calm calm) (Leaves [path] d₀) (downloadLogData settings entry path) (fun _ => Leaves [path] d₀) := by
  have hnone : ∀ reason, Prog.Triple (Calm calm) (Leaves [path] d₀)
      (setFailure reason >>= fun _ => pure (none : Option StreamDownloadResult)) (fun _ => Leaves [path] d₀) :=
    fun reason => .bind (quiet_leaves (setFailure_quiet reason)) fun _ => .pure fun _ hd => hd
  refine .bind (quiet_leaves (setFailure_quiet _)) fun _ => ?_
  refine .bind (quiet_leaves clearDataChunks_quiet) fun _ => ?_
  refine .bind (quiet_leaves (await_quiet settings)) fun _ => .ite (fun _ => hnone _) fun _ => ?_
  refine .bind (write_leaves _) fun _ => ?_
  refine .bind (quiet_leaves (runSession_quiet settings trivial _)) fun _ => ?_
  refine .bind (quiet_leaves requestLogEnd_quiet) fun _ => ?_
  refine .bind (quiet_leaves (await_quiet settings)) fun _ => ?_
  refine .bind (write_leaves _) fun _ => .ite (fun _ => hnone _) fun _ => .ite (fun _ => hnone _) fun _ => ?_
  exact .bind (quiet_leaves (setFailure_quiet _)) fun _ => .pure fun _ hd => hd

lemma count_settles (s : Stat) {res : ArchiveResult} (hres : res = .failed ∨ res = .cancelled) :
    Prog.Triple (Calm calm) (Removes calm d₀) (updateDatabase (·.incrementStat s) >>= fun _ => pure res)
      (Settles calm d₀) := by
  refine .bind (M := fun _ => Removes calm d₀) (.modify fun d hd => ?_) fun _ => .pure fun _ hd => hd.settles hres
  exact hd.keep (.of_storage rfl rfl)

lemma fail_settles (reason : ArchiveFailureReason) :
    Prog.Triple (Calm calm) (Removes calm d₀) (fail reason) (Settles calm d₀) := by
  refine .bind (quiet_removes (updateProgress_quiet _)) fun _ => ?_
  refine .bind (quiet_removes (setFailure_quiet reason)) fun _ => ?_
  exact count_settles _ (.inl rfl)

lemma abandonDownload_settles :
    Prog.Triple (Calm calm) (Leaves [path] d₀) (abandonDownload settings path) (Settles calm d₀) := by
  refine .bind (quiet_leaves (updateProgress_quiet _)) fun _ => ?_
  refine .bind removePartial_removes fun _ => ?_
  refine .bind (quiet_removes (cancelled_quiet settings)) fun _ => ?_
  refine .bind (M := fun _ => Removes calm d₀) (.get fun _ hd => hd) fun _ => .ite (fun _ => ?_) fun _ => ?_
  · exact count_settles _ (.inr rfl)
  · exact count_settles _ (.inl rfl)

lemma recordArchive_settles (r : StreamDownloadResult) (started : ℤ) (final : Path) :
    Prog.Triple (Calm calm) (Leaves [] d₀) (recordArchive settings entry r started final) (Settles calm d₀) := by
  refine .bind (M := fun _ => Leaves [] d₀) ?_ fun _ => ?_
  · exact .modify fun d hd => hd.keep (.of_storage (outcomes_note _ rfl) rfl)
  refine .bind (quiet_leaves (updateProgress_quiet _)) fun _ => ?_
  refine .bind (quiet_leaves (await_quiet settings)) fun _ => ?_
  exact .bind (updateDatabase_leaves _) fun _ => .pure fun _ hd => hd.settles _

lemma verifyAndStore_settles (r : StreamDownloadResult) (started : ℤ) :
    Prog.Triple (Calm calm) (Leaves [path] d₀) (verifyAndStore settings entry path r started) (Settles calm d₀) := by
  have hreject : ∀ reason, Prog.Triple (Calm calm) (Leaves [path] d₀)
      (removePartial settings path >>= fun _ => fail reason) (Settles calm d₀) :=
    fun reason => .bind removePartial_removes fun _ => fail_settles reason
  refine .bind (quiet_leaves (verifyDataFlashFile_quiet settings path)) fun _ => .ite (fun _ => hreject _) fun _ => ?_
  refine .bind (quiet_leaves (verifyFcSampleReread_quiet settings trivial path r.sha256)) fun _ =>
    .ite (fun _ => hreject _) fun _ => ?_
  refine .bind finalizePartial_leaves fun final => ?_
  cases final with
  | none => exact (fail_settles _).weaken (fun _ hd => by simpa using hd) fun _ _ hd => hd
  | some final => exact (recordArchive_settles r started final).weaken (fun _ hd => by simpa using hd) fun _ _ hd => hd

lemma downloadFull_settles :
    Prog.Triple (Calm calm) (Leaves [] d₀) (downloadFull settings entry) (Settles calm d₀) := by
  refine .bind (quiet_leaves (await_quiet settings)) fun tick => ?_
  refine .bind (M := fun now d => now = d ∧ Leaves [] d₀ d) (.get fun _ hd => ⟨rfl, hd⟩) fun now => ?_
  refine .bind (M := fun _ => Leaves [(now.storage.beginPartialFile settings.storage tick.wall).1] d₀) ?_ fun _ => ?_
  · refine .modify fun d hd => ?_
    obtain ⟨rfl, hd⟩ := hd
    exact ⟨hd.unrecorded, List.Subset.trans hd.files (by simp)⟩
  refine .bind (quiet_leaves (updateProgress_quiet _)) fun _ => ?_
  refine .bind downloadLogData_leaves fun res => ?_
  cases res with
  | none => exact abandonDownload_settles
  | some r => exact verifyAndStore_settles r tick.now

lemma isDuplicate_leaves :
    Prog.Triple (Calm calm) (Leaves [] d₀) (isDuplicate settings entry) (fun _ => Leaves [] d₀) := by
  have hcheck : Prog.Triple (Calm calm) (Leaves [] d₀) (checkDedup settings entry) (fun _ => Leaves [] d₀) :=
    .bind (quiet_leaves (await_quiet settings)) fun _ => .bind (M := fun _ => Leaves [] d₀) (.get fun _ hd => hd)
      fun _ => .pure fun _ hd => hd
  refine .bind hcheck ?_
  rintro (_ | candidate)
  · exact .pure fun _ hd => hd
  refine .bind (quiet_leaves clearDataChunks_quiet) fun _ => ?_
  refine .bind (quiet_leaves (runSession_quiet settings trivial _)) fun _ => ?_
  refine .bind (quiet_leaves requestLogEnd_quiet) fun _ => .ite (fun _ => ?_) fun _ => .pure fun _ hd => hd
  exact .bind (quiet_leaves (setFailure_quiet _)) fun _ => .pure fun _ hd => hd

lemma archiveOne_settles : Prog.Triple (Calm calm) (Leaves [] d₀) (archiveOne settings entry) (Settles calm d₀) := by
  refine .bind isDuplicate_leaves fun _ => .ite (fun _ => ?_) fun _ => ?_
  · exact .bind (updateDatabase_leaves _) fun _ => .pure fun _ hd => hd.settles _
  refine .bind (quiet_leaves (cancelled_quiet settings)) fun _ => .ite (fun _ => ?_) fun _ => downloadFull_settles
  exact .pure fun _ hd => hd.settles _

def Tidies (calm : Prop) (d d' : LogDownloader) : Prop :=
  ∃ new : List Path, unfinishedLogs d.trace + new.length ≤ unfinishedLogs d'.trace ∧ (calm → new = []) ∧
    partials d'.storage ⊆ partials d.storage ++ new

lemma Leaves.tidies (h : Leaves [] d d') : Tidies calm d d' :=
  ⟨[], by rw [unfinishedLogs, unfinishedLogs, h.unrecorded]; simp, fun _ => rfl, h.files⟩

lemma Tidies.mono {calm' : Prop} (h : Tidies calm d d') (hc : calm' → calm) : Tidies calm' d d' := by
  obtain ⟨new, hlen, hcalm, hfiles⟩ := h
  exact ⟨new, hlen, fun h => hcalm (hc h), hfiles⟩

instance : Std.Refl (Tidies calm) := ⟨fun d => (refl_of (Leaves []) d).tidies⟩

instance : IsTrans LogDownloader (Tidies calm) := by
  refine ⟨?_⟩
  rintro d d' d'' ⟨new, hlen, hcalm, hfiles⟩ ⟨more, hlen', hcalm', hfiles'⟩
  refine ⟨new ++ more, ?_, fun hc => by rw [hcalm hc, hcalm' hc, List.append_nil], subset_new hfiles hfiles'⟩
  rw [List.length_append]
  omega

lemma Settles.recorded {res : ArchiveResult} (h : Settles calm d res d') :
    Tidies calm d (noted (.outcome entry res) d') := by
  obtain ⟨new, hlen, hcalm, hd⟩ := h
  refine ⟨new, ?_, hcalm, hd.files⟩
  have hone : outcomes [.outcome entry res] = [(entry, res)] := rfl
  rw [noted, unfinishedLogs, unfinishedLogs, outcomes_append, hd.unrecorded, hone,
    List.countP_append, List.countP_singleton]
  simpa using hlen

lemma quiet_tidies {α : Type} {p : Task α} (h : Prog.Moves (Fair {}) (Quiet {} fun _ => True) p) :
    Prog.Moves (Calm calm) (Tidies calm) p :=
  fun d₀ => ((h d₀).assume fun _ hi => hi.fair).weaken (fun _ hd => hd) fun _ _ hq => hq.leaves.tidies

lemma archiveLoop_tidies (r : ArchiveCycleResult) (anyFailed : Bool) (logs : List LogEntry) :
    Prog.Moves (Calm calm) (Tidies calm) (archiveLoop settings r anyFailed logs) := by
  induction logs generalizing r anyFailed with
  | nil => exact .pure _
  | cons entry logs ih =>
    refine .bind (quiet_tidies (cancelled_quiet settings)) fun _ => .ite (.pure _) ?_
    refine .bind (.modify fun d => Leaves.tidies ⟨outcomes_note _ rfl, by simp⟩) fun _ d₀ => ?_
    -- the outcome is recorded one step after the log is done
    refine .bind (M := Settles calm d₀) (archiveOne_settles.weaken ?_ fun _ _ hd => hd) fun res => ?_
    · rintro d rfl
      exact refl_of (Leaves []) d
    refine .bind (M := fun _ => Tidies calm d₀) (.modify fun d hd => hd.recorded) fun _ => ?_
    refine .bind (M := fun _ => Tidies calm d₀) (.get fun _ hd => hd) fun now => .ite (fun _ => ?_) fun _ => ?_
    · exact .pure fun _ hd => hd
    · exact (ih _ _).triple d₀

lemma archiveAll_tidies (logs : List LogEntry) :
    Prog.Moves (Calm calm) (Tidies calm) (archiveAll settings logs) := by
  refine .bind (archiveLoop_tidies {} false logs) fun x => ?_
  refine .bind (quiet_tidies clearDataChunks_quiet) fun _ => ?_
  exact .bind (quiet_tidies requestLogEnd_quiet) fun _ => .pure _

lemma enumerateLogs_tidies : Prog.Moves (Calm calm) (Tidies calm) (enumerateLogs settings) := by
  refine fun d₀ => (enumerateLogs_returns settings d₀ |>.assume fun _ hi => hi.fair).weaken (fun _ hd => hd) ?_
  intro logs d he
  obtain ⟨mid, order, hq, _, _, rfl⟩ := he.step
  refine Leaves.tidies (hq.leaves.keep ⟨?_, by simp⟩)
  rw [outcomes_append]
  exact List.append_nil _

lemma eraseFlightControllerLogs_tidies :
    Prog.Moves (Calm calm) (Tidies calm) (eraseFlightControllerLogs settings) := by
  refine .bind (quiet_tidies (await_quiet settings)) fun _ => ?_
  refine .bind (.modify fun d => Leaves.tidies ⟨outcomes_note _ rfl, by simp⟩) fun _ => .ite ?_ (.pure _)
  exact .bind (.modify fun d => Leaves.tidies ⟨rfl, by simp⟩) fun _ => .pure _

end MavlinkLogService.Archive.LogDownloader
