import MavlinkLogService.Archive.History
import MavlinkLogService.Session.Timeouts

/-! Every task of the downloader ends on every clock that keeps going, whatever the flight controller sends or
fails to send. -/

namespace MavlinkLogService.Archive.LogDownloader

open Library Session Storage

variable {settings : Settings} {f : ℕ → Tick}

lemma await_halts : Prog.Halts f (await settings) := .next

lemma note_halts {a : Action} (h : a.isEvent = false) : Prog.Halts f (note a h) := .modify

lemma requestLogEnd_halts : Prog.Halts f requestLogEnd := note_halts rfl

lemma cancelled_halts : Prog.Halts f (cancelled settings) :=
  .bind await_halts fun _ => .bind .get fun _ => .pure _

lemma pendingCount_halts : Prog.Halts f pendingCount := .bind .get fun _ => .pure _

lemma requestLogData_halts (id : UInt16) (offset count : ℕ) : Prog.Halts f (requestLogData settings id offset count) :=
  .bind await_halts fun _ => .bind (note_halts rfl) fun _ => .pure _

lemma round_ends {α β : Type} (hf : Flows f) {deadline : ℤ} {a : α} {rest : Task (β ⊕ α)} (hrest : Prog.Halts f rest)
    (d : LogDownloader) (k : ℕ) :
    Prog.Ends f (do
        let tick ← await settings
        let d ← Prog.get
        if deadline ≤ tick.now ∨ d.inbox.cancelRequested = true then return .inr a else rest)
      d k (fun x _ k' => ∀ b, x = .inl b → k < k' ∧ k < hf.past deadline) := by
  refine .bind (M := fun tick _ k' => tick = f k ∧ k' = k + 1) (.next ⟨rfl, rfl⟩) ?_
  rintro _ d₁ _ _ ⟨rfl, rfl⟩
  refine .bind (M := fun _ _ k' => k' = k + 1) (.get rfl) ?_
  rintro d₂ d₃ _ _ rfl
  refine .ite (fun _ => .pure fun _ hx => nomatch hx) fun hgo => .of_halts hrest fun _ _ k' hk' _ _ => ⟨hk', ?_⟩
  rw [← not_le, hf.past_le]
  exact fun h => hgo (Or.inl h)

lemma enumerationRound_ends (hf : Flows f) (deadline : ℤ) (seen : ℕ × ℤ) (d : LogDownloader) (k : ℕ) :
    Prog.Ends f (enumerationRound settings deadline seen) d k
      (fun x _ k' => ∀ b, x = .inl b → k < k' ∧ k < hf.past deadline) := by
  refine round_ends hf (.bind await_halts fun _ => .bind pendingCount_halts fun _ => ?_) d k
  exact .ite (.pure _) (.ite (.pure _) (.pure _))

lemma enumerationAttempt_ends (hf : Flows f) (attempts attempt : ℤ) (d : LogDownloader) (k : ℕ) :
    Prog.Ends f (enumerationAttempt settings attempts attempt) d k
      (Prog.Ends.Goes (fun _ _ _ => True) (fun b _ _ => (attempts - b).toNat) (fun _ _ _ => True) attempt d k) := by
  refine .bind (note_halts rfl d k) fun _ d₁ k₁ hk₁ _ => ?_
  refine .bind (M := fun _ _ k' => k₁ < k') (.next (Nat.lt_succ_self k₁)) fun tick d₂ k₂ _ hk₂ => ?_
  refine .bind (pendingCount_halts d₂ k₂) fun seen d₃ k₃ hk₃ _ => ?_
  have hloop : Prog.Halts f (Prog.iterate (enumerationRound settings (tick.now + 15000)) (seen, tick.now)) :=
    .iterate_until _ (enumerationRound_ends hf (tick.now + 15000)) (seen, tick.now)
  refine .bind (hloop d₃ k₃) fun _ d₄ k₄ hk₄ _ => .bind (cancelled_halts d₄ k₄) fun stop d₅ k₅ hk₅ _ => ?_
  refine .bind (pendingCount_halts d₅ k₅) fun total d₆ k₆ hk₆ _ => ?_
  refine .ite (fun _ => .pure trivial) fun hgo => .bind (cancelled_halts d₆ k₆) fun stop' d₇ k₇ hk₇ _ => ?_
  refine .ite (fun _ => .pure trivial) fun _ => .pure ⟨by omega, trivial, ?_⟩
  push Not at hgo
  change (attempts - (attempt + 1)).toNat < (attempts - attempt).toNat
  omega

lemma enumerateLogs_halts (hf : Flows f) : Prog.Halts f (enumerateLogs settings) := by
  refine .bind .modify fun _ => .bind (fun d k => ?_) fun _ => ?_
  · exact .iterate (fun b _ _ => (max 1 settings.download.enumerateAttempts - b).toNat)
      (fun b d k _ => enumerationAttempt_ends hf _ b d k) 1 trivial
  exact .bind await_halts fun _ => .bind .get fun _ => .bind (note_halts rfl) fun _ =>
    .bind requestLogEnd_halts fun _ => .pure _

lemma runSession_halts (hf : Flows f) {p : Params} (hw : p.byteOffset + p.byteCount ≤ 2 ^ 32 - 256)
    (file : OutputFile) : Prog.Halts f (runSession settings p file) := by
  intro d k
  obtain ⟨r, s, k', hk, hrun⟩ := StreamDownload.run_ends settings.download hf hw d.inbox file k
  exact ⟨_, _, k', hk, fun more => congrArg (Option.map _) (hrun more), trivial⟩

lemma waitForLogData_halts (hf : Flows f) (id : UInt16) (offset : ℕ) :
    Prog.Halts f (waitForLogData settings id offset) := by
  refine .bind await_halts fun tick => .iterate_until _ (fun _ => round_ends hf ?_) ()
  refine .bind await_halts fun _ => .bind .get fun d => ?_
  split
  · exact .pure _
  · exact .bind .modify fun _ => .pure _

lemma rereadSamples_halts (hf : Flows f) (entry : LogEntry) (content : List UInt8) (good : Bool) (offsets : List ℕ) :
    Prog.Halts f (rereadSamples settings entry content good offsets) := by
  induction offsets generalizing good with
  | nil => exact .bind requestLogEnd_halts fun _ => .pure _
  | cons ofs offsets ih =>
    refine .bind (requestLogData_halts entry.id ofs logChunkSize) fun _ => .ite (.pure _) ?_
    refine .bind (waitForLogData_halts hf entry.id ofs) ?_
    rintro (_ | chunk)
    · exact .pure _
    · exact .ite (.pure _) (ih _)

lemma readFile_halts (path : Path) : Prog.Halts f (readFile settings path) :=
  .bind await_halts fun _ => .bind .get fun _ => .pure _

lemma verifyDataFlashFile_halts (path : Path) : Prog.Halts f (verifyDataFlashFile settings path) := by
  refine .ite (.pure _) (.bind (readFile_halts path) ?_)
  rintro (_ | bytes)
  · exact .pure _
  · exact .pure _

structure Fits (settings : Settings) (entry : LogEntry) : Prop where
  probe : 0 ≤ settings.download.probeBytes
  size : entry.size.toNat ≤ 2 ^ 32 - 256

variable {entry : LogEntry}

lemma Fits.probeCount (h : Fits settings entry) :
    probeCount settings.download.probeBytes entry.size.toNat ≤ 2 ^ 32 - 256 := by
  have hsize := h.size
  rcases lt_or_ge entry.size.toNat (2 ^ 31) with hlt | hge
  · rw [probeCount_small h.probe hlt]
    omega
  · rw [probeCount_large h.probe hge (by omega)]
    exact hsize

lemma verifyFcSampleReread_halts (hf : Flows f) (hfits : Fits settings entry) (path : Path) (sha256 : String) :
    Prog.Halts f (verifyFcSampleReread settings entry path sha256) := by
  have hw : (rereadParams entry).byteOffset + (rereadParams entry).byteCount ≤ 2 ^ 32 - 256 := by
    simpa [rereadParams] using hfits.size
  rw [verifyFcSampleReread]
  split
  · exact .pure _
  · exact .bind .modify fun _ => .bind (runSession_halts hf hw _) fun _ => .bind requestLogEnd_halts fun _ => .pure _
  · refine .ite (.pure _) (.bind (readFile_halts path) ?_)
    rintro (_ | content)
    · exact .pure _
    · exact .bind .modify fun _ => rereadSamples_halts hf entry content true _

lemma fail_halts (reason : ArchiveFailureReason) : Prog.Halts f (fail reason) :=
  .bind .modify fun _ => .bind .modify fun _ => .bind .modify fun _ => .pure _

lemma finalizePartial_halts (path : Path) : Prog.Halts f (finalizePartial settings path) :=
  .bind await_halts fun _ => .bind await_halts fun _ => .bind await_halts fun _ => .bind await_halts fun _ =>
    .bind .get fun _ => .bind .modify fun _ => .pure _

lemma removePartial_halts (path : Path) : Prog.Halts f (removePartial settings path) :=
  .bind await_halts fun _ => .ite .modify (.pure _)

lemma verifyAndStore_halts (hf : Flows f) (hfits : Fits settings entry) (path : Path) (r : StreamDownloadResult)
    (started : ℤ) : Prog.Halts f (verifyAndStore settings entry path r started) := by
  have hreject : ∀ reason, Prog.Halts f (removePartial settings path >>= fun _ => fail reason) :=
    fun reason => .bind (removePartial_halts path) fun _ => fail_halts reason
  refine .bind (verifyDataFlashFile_halts path) fun _ => .ite (hreject _) ?_
  refine .bind (verifyFcSampleReread_halts hf hfits path _) fun _ => .ite (hreject _) ?_
  refine .bind (finalizePartial_halts path) ?_
  rintro (_ | final)
  · exact fail_halts _
  · exact .bind .modify fun _ => .bind .modify fun _ => .bind await_halts fun _ => .bind .modify fun _ => .pure _

lemma downloadLogData_halts (hf : Flows f) (hfits : Fits settings entry) (path : Path) :
    Prog.Halts f (downloadLogData settings entry path) := by
  have hw : (downloadParams settings entry).byteOffset + (downloadParams settings entry).byteCount ≤ 2 ^ 32 - 256 := by
    simpa [downloadParams] using hfits.size
  refine .bind .modify fun _ => .bind .modify fun _ => .bind await_halts fun _ => .ite ?_ ?_
  · exact .bind .modify fun _ => .pure _
  refine .bind .modify fun _ => .bind (runSession_halts hf hw _) fun _ => .bind requestLogEnd_halts fun _ => ?_
  refine .bind await_halts fun _ => .bind .modify fun _ => .ite ?_ (.ite ?_ ?_)
  all_goals exact .bind .modify fun _ => .pure _

lemma downloadFull_halts (hf : Flows f) (hfits : Fits settings entry) : Prog.Halts f (downloadFull settings entry) := by
  refine .bind await_halts fun _ => .bind .get fun _ => .bind .modify fun _ => .bind .modify fun _ => ?_
  refine .bind (downloadLogData_halts hf hfits _) ?_
  rintro (_ | r)
  · refine .bind .modify fun _ => .bind (removePartial_halts _) fun _ => .bind cancelled_halts fun _ =>
      .bind .get fun _ => .ite ?_ ?_
    all_goals exact .bind .modify fun _ => .pure _
  · exact verifyAndStore_halts hf hfits _ r _

lemma isDuplicate_halts (hf : Flows f) (hfits : Fits settings entry) : Prog.Halts f (isDuplicate settings entry) := by
  have hw : (probeParams settings entry).byteOffset + (probeParams settings entry).byteCount ≤ 2 ^ 32 - 256 := by
    simpa [probeParams] using hfits.probeCount
  refine .bind (.bind await_halts fun _ => .bind .get fun _ => .pure _) ?_
  rintro (_ | candidate)
  · exact .pure _
  · refine .bind .modify fun _ => .bind (runSession_halts hf hw _) fun _ => ?_
    refine .bind requestLogEnd_halts fun _ => .ite ?_ (.pure _)
    exact .bind .modify fun _ => .pure _

lemma archiveOne_halts (hf : Flows f) (hfits : Fits settings entry) : Prog.Halts f (archiveOne settings entry) := by
  refine .bind (isDuplicate_halts hf hfits) fun _ => .ite (.bind .modify fun _ => .pure _) ?_
  exact .bind cancelled_halts fun _ => .ite (.pure _) (downloadFull_halts hf hfits)

lemma archiveLoop_halts (hf : Flows f) (r : ArchiveCycleResult) (anyFailed : Bool) (logs : List LogEntry)
    (hfits : ∀ entry ∈ logs, Fits settings entry) : Prog.Halts f (archiveLoop settings r anyFailed logs) := by
  induction logs generalizing r anyFailed with
  | nil => exact .pure _
  | cons entry logs ih =>
    refine .bind cancelled_halts fun _ => .ite (.pure _) (.bind .modify fun _ => ?_)
    refine .bind (archiveOne_halts hf (hfits entry List.mem_cons_self)) fun _ => .bind .modify fun _ => ?_
    exact .bind .get fun _ => .ite (.pure _) (ih _ _ fun e he => hfits e (List.mem_cons_of_mem entry he))

lemma archiveAll_halts (hf : Flows f) (logs : List LogEntry) (hfits : ∀ entry ∈ logs, Fits settings entry) :
    Prog.Halts f (archiveAll settings logs) :=
  .bind (archiveLoop_halts hf {} false logs hfits) fun _ => .bind .modify fun _ =>
    .bind requestLogEnd_halts fun _ => .pure _

lemma eraseFlightControllerLogs_halts : Prog.Halts f (eraseFlightControllerLogs settings) :=
  .bind await_halts fun _ => .bind .modify fun _ => .ite (.bind .modify fun _ => .pure _) (.pure _)

end MavlinkLogService.Archive.LogDownloader
