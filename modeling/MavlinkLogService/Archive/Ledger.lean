import MavlinkLogService.Archive.Cycle

/-! What the tasks of the downloader book: how the statistics and the result of a cycle follow from the
outcomes of the logs it turned to. -/

namespace MavlinkLogService.Archive.LogDownloader

open Library Session Storage

def outcome? : Action → Option (LogEntry × ArchiveResult)
  | .outcome entry res => some (entry, res)
  | _ => none

def outcomes (l : List Action) : List (LogEntry × ArchiveResult) := l.filterMap outcome?

@[simp] lemma outcomes_append (l l' : List Action) : outcomes (l ++ l') = outcomes l ++ outcomes l' :=
  List.filterMap_append

lemma outcomes_eq_nil {l : List Action} (h : ∀ a ∈ l, outcome? a = none) : outcomes l = [] :=
  List.filterMap_eq_nil_iff.mpr h

lemma outcomes_note (l : List Action) {a : Action} (h : outcome? a = none) : outcomes (l ++ [a]) = outcomes l := by
  have hnone : outcomes [a] = [] := outcomes_eq_nil (by simpa using h)
  rw [outcomes_append, hnone, List.append_nil]

lemma routine_outcome {ids : UInt16 → Prop} {a : Action} (h : Routine ids a) : outcome? a = none := by
  cases a with
  | outcome entry res => exact h.elim
  | _ => rfl

def booking (x : LogEntry × ArchiveResult) : Stat → ℤ
  | .flightsArchived => if x.2 = .downloaded then 1 else 0
  | .bytesDownloaded => if x.2 = .downloaded then x.1.size.toNat else 0
  | .flightsSkipped => if x.2 = .skippedDuplicate then 1 else 0
  | .archiveFailures => if x.2 = .failed then 1 else 0
  | _ => 0

def Exact : Stat → Prop
  | .flightsArchived | .bytesDownloaded | .flightsSkipped | .archiveFailures => True
  | _ => False

structure Booked (done : List (LogEntry × ArchiveResult)) (db db' : Database) : Prop where
  exact : ∀ k, Exact k → db'.getStat k = db.getStat k + (done.map (booking · k)).sum
  atLeast : db.getStat .archiveCancellations ≤ db'.getStat .archiveCancellations
  atMost : db'.getStat .archiveCancellations ≤
    db.getStat .archiveCancellations + done.countP (fun x => x.2 = .cancelled)

lemma Booked.nothing {db db' : Database} (h : ∀ k, k ≠ .storageBytes → db'.getStat k = db.getStat k) :
    Booked [] db db' := by
  have hc := h .archiveCancellations (by simp)
  refine ⟨fun k hk => ?_, hc.ge, by simpa using hc.le⟩
  rw [h k (by rintro rfl; exact hk), List.map_nil, List.sum_nil, add_zero]

lemma Booked.refl (db : Database) : Booked [] db db := .nothing fun _ _ => rfl

lemma Booked.trans {a b : List (LogEntry × ArchiveResult)} {db db' db'' : Database} (h : Booked a db db')
    (h' : Booked b db' db'') : Booked (a ++ b) db db'' := by
  refine ⟨fun k hk => ?_, h.atLeast.trans h'.atLeast, ?_⟩
  · rw [h'.exact k hk, h.exact k hk, List.map_append, List.sum_append, add_assoc]
  · have hmost := h'.atMost
    have hmost' := h.atMost
    rw [List.countP_append]
    push_cast
    linarith

lemma getStat_increment (db : Database) (k k' : Stat) (delta : ℤ) :
    (db.incrementStat k delta).getStat k' = if k' = k then db.getStat k' + delta else db.getStat k' := by
  change Function.update db.statistics k (db.getStat k + delta) k' = _
  rw [Function.update_apply]
  split_ifs with h
  · rw [h]
  · rfl

lemma booked_skipped (entry : LogEntry) (db : Database) :
    Booked [(entry, .skippedDuplicate)] db (db.incrementStat .flightsSkipped) := by
  refine ⟨fun k hk => ?_, ?_, ?_⟩
  · cases k <;> simp [getStat_increment, booking, Exact] at hk ⊢
  · simp [getStat_increment]
  · simp [getStat_increment]

lemma booked_failed (entry : LogEntry) (db : Database) :
    Booked [(entry, .failed)] db (db.incrementStat .archiveFailures) := by
  refine ⟨fun k hk => ?_, ?_, ?_⟩
  · cases k <;> simp [getStat_increment, booking, Exact] at hk ⊢
  · simp [getStat_increment]
  · simp [getStat_increment]

lemma booked_cancelled (entry : LogEntry) (db : Database) :
    Booked [(entry, .cancelled)] db (db.incrementStat .archiveCancellations) := by
  refine ⟨fun k hk => ?_, ?_, ?_⟩
  · cases k <;> simp [getStat_increment, booking, Exact] at hk ⊢
  · simp [getStat_increment]
  · simp [getStat_increment]

lemma booked_uncounted (entry : LogEntry) (db : Database) : Booked [(entry, .cancelled)] db db := by
  refine ⟨fun k hk => ?_, le_rfl, by simp⟩
  cases k <;> simp [booking, Exact] at hk ⊢

lemma booked_downloaded (entry : LogEntry) (row : ArchivedLog) (time : ℤ) (db : Database) :
    Booked [(entry, .downloaded)] db ((((db.insertArchivedLog row).incrementStat .flightsArchived).incrementStat
      .bytesDownloaded entry.size.toNat).setStat .lastArchiveTime time) := by
  have hset : ∀ k, k ≠ .lastArchiveTime → ∀ db : Database,
      (db.setStat .lastArchiveTime time).getStat k = db.getStat k := fun k hk db => Function.update_of_ne hk _ _
  have hrow : ∀ k, (db.insertArchivedLog row).getStat k = db.getStat k := fun _ => rfl
  refine ⟨fun k hk => ?_, ?_, ?_⟩
  · rw [hset k (by rintro rfl; exact hk)]
    cases k <;> simp [getStat_increment, booking, Exact, hrow] at hk ⊢
  · rw [hset _ (by simp)]
    simp [getStat_increment, hrow]
  · rw [hset _ (by simp)]
    simp [getStat_increment, hrow]

structure Unbooked (d d' : LogDownloader) : Prop where
  database : d'.database = d.database
  outcomes : outcomes d'.trace = outcomes d.trace

instance : Std.Refl Unbooked := ⟨fun _ => ⟨rfl, rfl⟩⟩

instance : IsTrans LogDownloader Unbooked :=
  ⟨fun _ _ _ h h' => ⟨h'.database.trans h.database, h'.outcomes.trans h.outcomes⟩⟩

variable {H : Promise} {settings : Settings} {entry : LogEntry}

lemma Quiet.unbooked {ids : UInt16 → Prop} {d d' : LogDownloader} (h : Quiet H ids d d') : Unbooked d d' := by
  obtain ⟨ext, ht, hext, _⟩ := h.later.trace
  refine ⟨h.database, ?_⟩
  rw [ht, outcomes_append, outcomes_eq_nil fun a ha => routine_outcome (hext a ha), List.append_nil]

lemma unbooked_of_quiet {α : Type} {p : Task α} (h : Prog.Moves (Fair H) (Quiet H fun _ => True) p) :
    Prog.Moves (Fair H) Unbooked p :=
  h.mono fun _ _ => Quiet.unbooked

lemma updateStorage_unbooked (f : StorageManager → StorageManager) :
    Prog.Moves (Fair H) Unbooked (updateStorage f) :=
  .modify fun _ => ⟨rfl, rfl⟩

lemma downloadLogData_unbooked (path : Path) :
    Prog.Moves (Fair H) Unbooked (downloadLogData settings entry path) := by
  have hnone : ∀ reason, Prog.Moves (Fair H) Unbooked
      (setFailure reason >>= fun _ => pure (none : Option StreamDownloadResult)) := fun reason =>
    .bind (unbooked_of_quiet (setFailure_quiet reason)) fun _ => .pure _
  refine .bind (unbooked_of_quiet (setFailure_quiet _)) fun _ => ?_
  refine .bind (unbooked_of_quiet clearDataChunks_quiet) fun _ => ?_
  refine .bind (unbooked_of_quiet (await_quiet settings)) fun _ => .ite (hnone _) ?_
  refine .bind (updateStorage_unbooked _) fun _ => ?_
  refine .bind (unbooked_of_quiet (runSession_quiet settings trivial _)) fun _ => ?_
  refine .bind (unbooked_of_quiet requestLogEnd_quiet) fun _ => ?_
  refine .bind (unbooked_of_quiet (await_quiet settings)) fun _ => ?_
  refine .bind (updateStorage_unbooked _) fun _ => .ite (hnone _) (.ite (hnone _) ?_)
  exact .bind (unbooked_of_quiet (setFailure_quiet _)) fun _ => .pure _

lemma finalizePartial_unbooked (path : Path) :
    Prog.Moves (Fair H) Unbooked (finalizePartial settings path) := by
  have hawait := unbooked_of_quiet (await_quiet (H := H) settings)
  refine .bind hawait fun _ => .bind hawait fun _ => .bind hawait fun _ => .bind hawait fun _ => ?_
  exact .bind .get fun _ => .bind (updateStorage_unbooked _) fun _ => .pure _

structure Books (entry : LogEntry) (d₀ : LogDownloader) (res : ArchiveResult) (d : LogDownloader) : Prop where
  booked : Booked [(entry, res)] d₀.database d.database
  outcomes : outcomes d.trace = outcomes d₀.trace

lemma updateDatabase_books {d₀ : LogDownloader} {res : ArchiveResult} {f : Database → Database}
    (hf : ∀ db, Booked [(entry, res)] db (f db)) :
    Prog.Triple (Fair H) (Unbooked d₀) (updateDatabase f >>= fun _ => pure res)
      (fun res d => Books entry d₀ res d) := by
  refine .bind (M := fun _ d => Books entry d₀ res d) ?_ fun _ => .pure fun _ hd => hd
  exact .modify fun d hd => ⟨by rw [← hd.database]; exact hf _, hd.outcomes⟩

lemma fail_books (reason : ArchiveFailureReason) (d₀ : LogDownloader) :
    Prog.Triple (Fair H) (Unbooked d₀) (fail reason) (fun res d => Books entry d₀ res d) := by
  refine .bind ((unbooked_of_quiet (updateProgress_quiet _)).triple d₀) fun _ => ?_
  refine .bind ((unbooked_of_quiet (setFailure_quiet reason)).triple d₀) fun _ => ?_
  exact updateDatabase_books (booked_failed entry)

lemma removePartial_unbooked (path : Path) : Prog.Moves (Fair H) Unbooked (removePartial settings path) :=
  .bind (unbooked_of_quiet (await_quiet settings)) fun _ => .ite (updateStorage_unbooked _) (.pure _)

lemma abandonDownload_books (path : Path) (d₀ : LogDownloader) :
    Prog.Triple (Fair H) (Unbooked d₀) (abandonDownload settings path) (fun res d => Books entry d₀ res d) := by
  refine .bind ((unbooked_of_quiet (updateProgress_quiet _)).triple d₀) fun _ => ?_
  refine .bind ((removePartial_unbooked path).triple d₀) fun _ => ?_
  refine .bind ((unbooked_of_quiet (cancelled_quiet settings)).triple d₀) fun _ => ?_
  refine .bind (M := fun _ => Unbooked d₀) (.get fun _ hd => hd) fun _ => .ite (fun _ => ?_) fun _ => ?_
  · exact updateDatabase_books (booked_cancelled entry)
  · exact updateDatabase_books (booked_failed entry)

lemma recordArchive_books (r : StreamDownloadResult) (started : ℤ) (final : Path) (d₀ : LogDownloader) :
    Prog.Triple (Fair H) (Unbooked d₀) (recordArchive settings entry r started final)
      (fun res d => Books entry d₀ res d) := by
  refine .bind (M := fun _ => Unbooked d₀) ?_ fun _ => ?_
  · exact .modify fun d hd => ⟨hd.database, (outcomes_note _ rfl).trans hd.outcomes⟩
  refine .bind ((unbooked_of_quiet (updateProgress_quiet _)).triple d₀) fun _ => ?_
  refine .bind ((unbooked_of_quiet (await_quiet settings)).triple d₀) fun tick => ?_
  exact updateDatabase_books (booked_downloaded entry _ tick.wall)

lemma verifyAndStore_books (path : Path) (r : StreamDownloadResult) (started : ℤ) (d₀ : LogDownloader) :
    Prog.Triple (Fair H) (Unbooked d₀) (verifyAndStore settings entry path r started)
      (fun res d => Books entry d₀ res d) := by
  have hreject : ∀ reason, Prog.Triple (Fair H) (Unbooked d₀) (removePartial settings path >>= fun _ => fail reason)
      (fun res d => Books entry d₀ res d) := fun reason =>
    .bind ((removePartial_unbooked path).triple d₀) fun _ => fail_books reason d₀
  refine .bind ((unbooked_of_quiet (verifyDataFlashFile_quiet settings path)).triple d₀)
    fun _ => .ite (fun _ => hreject _) fun _ => ?_
  refine .bind ((unbooked_of_quiet (verifyFcSampleReread_quiet settings trivial path r.sha256)).triple d₀)
    fun _ => .ite (fun _ => hreject _) fun _ => ?_
  refine .bind ((finalizePartial_unbooked path).triple d₀) fun final => ?_
  cases final with
  | none => exact fail_books _ d₀
  | some final => exact recordArchive_books r started final d₀

lemma downloadFull_books (d₀ : LogDownloader) :
    Prog.Triple (Fair H) (Unbooked d₀) (downloadFull settings entry) (fun res d => Books entry d₀ res d) := by
  refine .bind ((unbooked_of_quiet (await_quiet settings)).triple d₀) fun tick => ?_
  refine .bind (M := fun _ => Unbooked d₀) (.get fun _ hd => hd) fun d' => ?_
  refine .bind ((updateStorage_unbooked _).triple d₀) fun _ => ?_
  refine .bind ((unbooked_of_quiet (updateProgress_quiet _)).triple d₀) fun _ => ?_
  refine .bind ((downloadLogData_unbooked _).triple d₀) fun res => ?_
  cases res with
  | none => exact abandonDownload_books _ d₀
  | some r => exact verifyAndStore_books _ r tick.now d₀

lemma isDuplicate_unbooked : Prog.Moves (Fair H) Unbooked (isDuplicate settings entry) := by
  have hcheck : Prog.Moves (Fair H) Unbooked (checkDedup settings entry) :=
    .bind (unbooked_of_quiet (await_quiet settings)) fun _ => .bind .get fun _ => .pure _
  refine .bind hcheck ?_
  rintro (_ | candidate)
  · exact .pure _
  refine .bind (unbooked_of_quiet clearDataChunks_quiet) fun _ => ?_
  refine .bind (unbooked_of_quiet (runSession_quiet settings trivial _)) fun _ => ?_
  refine .bind (unbooked_of_quiet requestLogEnd_quiet) fun _ => .ite ?_ (.pure _)
  exact .bind (unbooked_of_quiet (setFailure_quiet _)) fun _ => .pure _

lemma archiveOne_books (d₀ : LogDownloader) :
    Prog.Triple (Fair H) (Unbooked d₀) (archiveOne settings entry) (fun res d => Books entry d₀ res d) := by
  refine .bind (isDuplicate_unbooked.triple d₀) fun _ => .ite (fun _ => ?_) fun _ => ?_
  · exact updateDatabase_books (booked_skipped entry)
  refine .bind ((unbooked_of_quiet (cancelled_quiet settings)).triple d₀) fun _ =>
    .ite (fun _ => .pure fun d hd => ⟨?_, hd.outcomes⟩) fun _ => downloadFull_books d₀
  rw [hd.database]
  exact booked_uncounted entry _

def Unbroken (logs : List LogEntry) (done : List (LogEntry × ArchiveResult)) : Prop :=
  done.map Prod.fst = logs ∧ ∀ x ∈ done, x.2 ≠ .cancelled

instance (logs : List LogEntry) (done : List (LogEntry × ArchiveResult)) : Decidable (Unbroken logs done) :=
  inferInstanceAs (Decidable (_ ∧ _))

structure Reckoned (logs : List LogEntry) (done : List (LogEntry × ArchiveResult)) (r r' : ArchiveCycleResult) :
    Prop where
  order : done.map Prod.fst <+: logs
  downloaded : r'.downloaded = r.downloaded + done.countP (fun x => x.2 = .downloaded)
  skipped : r'.skipped = r.skipped + done.countP (fun x => x.2 = .skippedDuplicate)
  failed : r'.failed = r.failed + done.countP (fun x => x.2 = .failed)
  cancelled : r'.cancelled = r.cancelled + if Unbroken logs done then 0 else 1

lemma Reckoned.nothing (r : ArchiveCycleResult) : Reckoned [] [] r r :=
  ⟨List.nil_prefix, by simp, by simp, by simp, by simp [Unbroken]⟩

lemma Reckoned.stopped (logs : List LogEntry) (r : ArchiveCycleResult) (reason : ArchiveFailureReason) :
    Reckoned (entry :: logs) [] r (tally r reason .cancelled) :=
  ⟨List.nil_prefix, by simp [tally], by simp [tally], by simp [tally], by simp [tally, Unbroken]⟩

lemma Reckoned.cancelled_log (logs : List LogEntry) (r : ArchiveCycleResult) (reason : ArchiveFailureReason) :
    Reckoned (entry :: logs) [(entry, .cancelled)] r (tally r reason .cancelled) :=
  ⟨List.cons_prefix_cons.mpr ⟨rfl, List.nil_prefix⟩, by simp [tally], by simp [tally], by simp [tally],
    by simp [tally, Unbroken]⟩

lemma Reckoned.cons {logs : List LogEntry} {done : List (LogEntry × ArchiveResult)} {r r' : ArchiveCycleResult}
    {reason : ArchiveFailureReason} {res : ArchiveResult} (hres : res ≠ .cancelled)
    (h : Reckoned logs done (tally r reason res) r') : Reckoned (entry :: logs) ((entry, res) :: done) r r' := by
  have hwhole : Unbroken (entry :: logs) ((entry, res) :: done) ↔ Unbroken logs done := by
    simp [Unbroken, hres]
  have hdownloaded := h.downloaded
  have hskipped := h.skipped
  have hfailed := h.failed
  have hcancelled := h.cancelled
  refine ⟨List.cons_prefix_cons.mpr ⟨rfl, h.order⟩, ?_, ?_, ?_, ?_⟩
  · cases res <;> simp [tally] at hdownloaded ⊢ <;> omega
  · cases res <;> simp [tally] at hskipped ⊢ <;> omega
  · cases res <;> simp [tally] at hfailed ⊢ <;> omega
  · simp only [hwhole]
    cases res <;> first | exact hcancelled | exact absurd rfl hres

def Flagged (r : ArchiveCycleResult) (anyFailed : Bool) (r' : ArchiveCycleResult) (anyFailed' : Bool) : Prop :=
  anyFailed' = false ↔ anyFailed = false ∧ r'.failed = r.failed ∧ r'.cancelled = r.cancelled

lemma Flagged.cons {logs : List LogEntry} {done : List (LogEntry × ArchiveResult)} {r r' : ArchiveCycleResult}
    {reason : ArchiveFailureReason} {res : ArchiveResult} {anyFailed anyFailed' : Bool} (hres : res ≠ .cancelled)
    (ht : Reckoned logs done (tally r reason res) r')
    (h : Flagged (tally r reason res) (anyFailed || res == .failed) r' anyFailed') :
    Flagged r anyFailed r' anyFailed' := by
  rw [Flagged] at h ⊢
  rw [h]
  cases res with
  | failed =>
    have hfailed := ht.failed
    simp only [tally] at hfailed ⊢
    simp
    omega
  | cancelled => exact absurd rfl hres
  | downloaded => simp [tally]
  | skippedDuplicate => simp [tally]

structure Entered (d : LogDownloader) (done : List (LogEntry × ArchiveResult)) (d' : LogDownloader) : Prop where
  outcomes : outcomes d'.trace = outcomes d.trace ++ done
  booked : Booked done d.database d'.database

lemma Unbooked.entered {d d' : LogDownloader} (h : Unbooked d d') : Entered d [] d' := by
  refine ⟨by rw [h.outcomes, List.append_nil], ?_⟩
  rw [h.database]
  exact .refl _

lemma Entered.trans {d d' d'' : LogDownloader} {a b : List (LogEntry × ArchiveResult)} (h : Entered d a d')
    (h' : Entered d' b d'') : Entered d (a ++ b) d'' :=
  ⟨by rw [h'.outcomes, h.outcomes, List.append_assoc], h.booked.trans h'.booked⟩

lemma archiveLoop_accounts (r : ArchiveCycleResult) (anyFailed : Bool) (logs : List LogEntry) (d₀ : LogDownloader) :
    Prog.Triple (Fair H) (Unbooked d₀) (archiveLoop settings r anyFailed logs)
      (fun x d => ∃ done, Entered d₀ done d ∧ Reckoned logs done r x.1 ∧ Flagged r anyFailed x.1 x.2) := by
  induction logs generalizing r anyFailed d₀ with
  | nil => exact .pure fun d hd => ⟨[], hd.entered, .nothing r, by simp [Flagged]⟩
  | cons entry logs ih =>
    refine .bind ((unbooked_of_quiet (cancelled_quiet settings)).triple d₀) fun _ => .ite (fun _ => ?_) fun _ => ?_
    · exact .pure fun d hd => ⟨[], hd.entered, .stopped logs r .cancelled, by simp [Flagged, tally]⟩
    refine .bind (M := fun _ => Unbooked d₀) ?_ fun _ => ?_
    · exact .modify fun d hd => ⟨hd.database, (outcomes_note _ rfl).trans hd.outcomes⟩
    refine .bind (archiveOne_books d₀) fun res => ?_
    refine .bind (M := fun _ => Entered d₀ [(entry, res)]) ?_ fun _ => ?_
    · exact .modify fun d hd => ⟨by rw [outcomes_append, hd.outcomes]; rfl, hd.booked⟩
    refine .bind (M := fun _ => Entered d₀ [(entry, res)]) (.get fun _ hd => hd) fun now =>
      .ite (fun hres => ?_) fun hres => ?_
    · subst hres
      exact .pure fun d hd => ⟨_, hd, .cancelled_log logs r now.lastFailureReason, by simp [Flagged, tally]⟩
    · intro d ticks x d' rest hd hf hr
      obtain ⟨⟨done, hdone, ht, hflag⟩, hrest⟩ := ih _ _ d d ticks x d' rest (refl_of Unbooked d) hf hr
      exact ⟨⟨(entry, res) :: done, hd.trans hdone, ht.cons hres, hflag.cons hres ht⟩, hrest⟩

lemma archiveAll_accounts (logs : List LogEntry) (d₀ : LogDownloader) :
    Prog.Triple (Fair H) (Unbooked d₀) (archiveAll settings logs) (fun result d => ∃ done, Entered d₀ done d ∧
      Reckoned logs done {} result ∧ (result.allArchived = true ↔ result.failed = 0 ∧ result.cancelled = 0)) := by
  refine .bind (archiveLoop_accounts {} false logs d₀) fun x => ?_
  let closed (d : LogDownloader) : Prop :=
    ∃ done, Entered d₀ done d ∧ Reckoned logs done {} x.1 ∧ Flagged {} false x.1 x.2
  have hkeep : ∀ d d', Unbooked d d' → closed d → closed d' := by
    rintro d d' hu ⟨done, hd, hclosed⟩
    exact ⟨done, by simpa using hd.trans hu.entered, hclosed⟩
  refine .bind ((unbooked_of_quiet clearDataChunks_quiet).keeps hkeep) fun _ => ?_
  refine .bind ((unbooked_of_quiet requestLogEnd_quiet).keeps hkeep) fun _ => ?_
  refine .pure fun d ⟨done, hd, ht, hflag⟩ => ⟨done, hd, ?_, ?_⟩
  · exact ⟨ht.order, ht.downloaded, ht.skipped, ht.failed, ht.cancelled⟩
  · rw [Flagged] at hflag
    simpa using hflag

lemma enumerateLogs_unbooked : Prog.Moves (Fair H) Unbooked (enumerateLogs settings) := by
  intro d₀ d ticks logs d' rest hd hf hr
  obtain ⟨he, hrest⟩ := enumerateLogs_returns settings d₀ d ticks logs d' rest hd hf hr
  obtain ⟨mid, order, hq, _, _, rfl⟩ := he.step
  refine ⟨⟨hq.unbooked.database, ?_⟩, hrest⟩
  rw [outcomes_append, hq.unbooked.outcomes]
  exact List.append_nil _

lemma eraseFlightControllerLogs_entered (d₀ : LogDownloader) :
    Prog.Triple (Fair H) (Unbooked d₀) (eraseFlightControllerLogs settings) (fun _ d => Entered d₀ [] d) := by
  refine .bind ((unbooked_of_quiet (await_quiet settings)).triple d₀) fun _ => ?_
  refine .bind (M := fun _ => Unbooked d₀) ?_ fun _ => .ite (fun _ => ?_) fun _ => ?_
  · exact .modify fun d hd => ⟨hd.database, (outcomes_note _ rfl).trans hd.outcomes⟩
  · refine .bind (M := fun _ => Entered d₀ []) ?_ fun _ => .pure fun _ hd => hd
    refine .modify fun d hd => ⟨hd.entered.outcomes, ?_⟩
    -- only the rows of the logs are marked
    change Booked [] d₀.database d.database.markAllErased
    rw [hd.database]
    exact .nothing fun _ _ => rfl
  · exact .pure fun d hd => hd.entered

end MavlinkLogService.Archive.LogDownloader
