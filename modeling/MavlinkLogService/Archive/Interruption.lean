import MavlinkLogService.Archive.Watching
import MavlinkLogService.Library.TwoRuns

/-! A cycle that is cancelled against the same cycle left alone: they agree until the cancel flag is
raised, and the parts of a cycle that do not look at the flag agree beyond that. -/

namespace MavlinkLogService

open Library

namespace Session

def Tick.calm (tick : Tick) : Tick := { tick with cancel := false }

lemma Tick.calm_eq {tick : Tick} (h : tick.cancel = false) : tick.calm = tick := by
  rw [calm, ← h]

lemma calm_ticks {ticks : List Tick} (h : ∀ tick ∈ ticks, tick.cancel = false) : ticks.map Tick.calm = ticks := by
  have hid : ticks.map Tick.calm = ticks.map id := List.map_congr_left fun tick ht => Tick.calm_eq (h tick ht)
  rw [hid, List.map_id]

lemma Inbox.deliver_calm (settings : DownloadSettings) (tick : Tick) (inbox : Inbox) :
    inbox.resetCancel.deliver settings tick.calm = (inbox.deliver settings tick).resetCancel := by
  have hmessage : ∀ (inbox : Inbox) (m : LogMessage),
      inbox.resetCancel.onMessage settings m = (inbox.onMessage settings m).resetCancel := by
    intro inbox m
    cases m with
    | logEntry entry => rfl
    | logData id ofs count bytes =>
      simp only [onMessage]
      split_ifs <;> rfl
  have hfold : ∀ (ms : List LogMessage) (inbox : Inbox),
      ms.foldl (onMessage settings) inbox.resetCancel = (ms.foldl (onMessage settings) inbox).resetCancel := by
    intro ms
    induction ms with
    | nil => intro inbox; rfl
    | cons m ms ih => intro inbox; rw [List.foldl_cons, List.foldl_cons, hmessage, ih]
  simp only [deliver, Tick.calm, Bool.false_eq_true, if_false, hfold]
  split_ifs <;> rfl

lemma Inbox.resetCancel_eq {inbox : Inbox} (h : inbox.cancelRequested = false) : inbox.resetCancel = inbox := by
  rw [resetCancel, ← h]

namespace StreamDownload

variable {settings : DownloadSettings} {p : Params} {s s' : StreamDownload} {tick : Tick}

lemma runFrom_local {used rest : List Tick} {r : StreamDownloadResult}
    (h : runFrom settings p (used ++ rest) s = some (r, s', rest)) (rest' : List Tick) :
    runFrom settings p (used ++ rest') s = some (r, s', rest') := by
  induction used generalizing s with
  | nil =>
    by_cases hp : ∃ result, s.phase = .done result
    · obtain ⟨result, hp⟩ := hp
      rw [runFrom_done _ hp] at h ⊢
      simp only [Option.some.injEq, Prod.mk.injEq] at h
      obtain ⟨rfl, rfl, _⟩ := h
      rfl
    · have hlen : rest.length < rest.length := by
        cases rest with
        | nil =>
          rw [List.nil_append, runFrom] at h
          split at h
          · next result hd => exact absurd ⟨result, hd⟩ hp
          · cases h
        | cons tick rest =>
          rw [List.nil_append, runFrom_running (not_exists.mp hp)] at h
          exact Nat.lt_succ_of_le (runFrom_suffix h).length_le
      exact absurd hlen (lt_irrefl _)
  | cons tick used ih =>
    by_cases hp : ∃ result, s.phase = .done result
    · obtain ⟨result, hp⟩ := hp
      rw [runFrom_done _ hp] at h
      simp only [Option.some.injEq, Prod.mk.injEq] at h
      have hlen := congrArg List.length h.2.2
      simp only [List.length_append, List.length_cons] at hlen
      omega
    · rw [List.cons_append, runFrom_running (not_exists.mp hp)] at h ⊢
      exact ih h

lemma leaveAttempt_unsuccessful {r : StreamDownloadResult} (h : (s.leaveAttempt settings p).phase = .done r) :
    r.success = false := by
  rw [leaveAttempt] at h
  split_ifs at h
  · cases h
  · obtain rfl := Phase.done.inj h
    rfl
  · obtain rfl := Phase.done.inj h
    rfl
  · rw [nextAttempt] at h
    cases h

lemma startAttempt_unsuccessful {r : StreamDownloadResult} (h : (s.startAttempt settings p tick).phase = .done r) :
    r.success = false := by
  simp only [startAttempt] at h
  split_ifs at h
  · obtain rfl := Phase.done.inj h
    rfl
  · obtain rfl := Phase.done.inj h
    rfl

lemma step_success (hp : ∀ r, s.phase ≠ .done r) {r : StreamDownloadResult}
    (h : (s.step settings p tick).phase = .done r) (hr : r.success = true) :
    (s.step settings p tick).inbox.cancelRequested = false := by
  have hsends : Sends p (s.deliver settings tick) (s.step settings p tick) := advance_sends
  rw [hsends.cancel]
  rw [step, advance] at h
  split at h
  · rw [startAttempt_unsuccessful h] at hr
    cases hr
  · rw [poll] at h
    split_ifs at h with hcancel
    · rw [leaveAttempt_unsuccessful h] at hr
      cases hr
    · exact Bool.eq_false_iff.mpr hcancel
  · next hhung =>
    rw [hhung] at h
    cases h
  · exact absurd h (hp r)

lemma runFrom_success {ticks rest : List Tick} {r : StreamDownloadResult} (hp : ∀ r, s.phase ≠ .done r)
    (h : runFrom settings p ticks s = some (r, s', rest)) (hr : r.success = true) :
    s'.inbox.cancelRequested = false := by
  have hend : (s = s' ∧ s'.phase = .done r) ∨ s'.inbox.cancelRequested = false := by
    refine runFrom_induct (M := fun _ s => (s = s' ∧ s'.phase = .done r) ∨ s'.inbox.cancelRequested = false) h
      (fun hd => Or.inl ⟨rfl, hd⟩) fun tick ticks s hrunning ih => Or.inr ?_
    rcases ih with ⟨rfl, hd⟩ | ih
    · exact step_success hrunning hd hr
    · exact ih
  rcases hend with ⟨rfl, hd⟩ | hend
  · exact absurd hd (hp r)
  · exact hend

lemma run_success {inbox : Inbox} {file : OutputFile} {ticks rest : List Tick} {r : StreamDownloadResult}
    (hz : p.byteCount ≠ 0) (h : run settings p inbox file ticks = some (r, s', rest)) (hr : r.success = true) :
    s'.inbox.cancelRequested = false := by
  refine runFrom_success ?_ h hr
  intro r hr
  rw [start, if_neg hz] at hr
  cases hr

def calm (s : StreamDownload) : StreamDownload := { s with inbox := s.inbox.resetCancel }

lemma calm_eq (h : s.inbox.cancelRequested = false) : s.calm = s := by
  rw [calm, Inbox.resetCancel_eq h]

lemma step_cancel (settings : DownloadSettings) (p : Params) (s : StreamDownload) (tick : Tick) :
    (s.step settings p tick).inbox.cancelRequested = (s.inbox.cancelRequested || tick.cancel) := by
  have hsends : Sends p (s.deliver settings tick) (s.step settings p tick) := advance_sends
  rw [hsends.cancel, deliver, Inbox.deliver_cancel]

lemma finish_calm (success : Bool) : s.calm.finish p success = (s.finish p success).calm := by
  simp only [finish, flushFile, calm]
  split_ifs <;> rfl

lemma step_calm (h : s.pollsFlag settings = true → (s.deliver settings tick).inbox.cancelRequested = false) :
    s.calm.step settings p tick.calm = (s.step settings p tick).calm := by
  have hdeliver : s.calm.deliver settings tick.calm = (s.deliver settings tick).calm := by
    rw [calm, deliver, Inbox.deliver_calm]
    rfl
  by_cases hdown : (s.deliver settings tick).inbox.cancelRequested = false
  · -- the flag is down before and after the step, and the two steps are one
    have hstep := step_cancel settings p s tick
    rw [deliver, Inbox.deliver_cancel] at hdown
    rw [hdown] at hstep
    rw [calm_eq hstep, calm_eq (Bool.or_eq_false_iff.mp hdown).1, Tick.calm_eq (Bool.or_eq_false_iff.mp hdown).2]
  · have hunseen : s.pollsFlag settings = false := Bool.eq_false_iff.mpr fun hp => hdown (h hp)
    rw [step, hdeliver, step, advance, advance]
    cases hphase : s.phase with
    | attempt =>
      have hlast : settings.retryCount < s.attempt := by simpa [pollsFlag, beginsAttempt, hphase] using hunseen
      have hcalm : (s.deliver settings tick).calm.phase = .attempt := hphase
      have hreal : (s.deliver settings tick).phase = .attempt := hphase
      rw [hcalm, hreal]
      simp only [startAttempt]
      rw [if_pos (by exact hlast), if_pos (by exact hlast), finish_calm]
    | poll => simp [pollsFlag, hphase] at hunseen
    | hung =>
      have hcalm : (s.deliver settings tick).calm.phase = .hung := hphase
      have hreal : (s.deliver settings tick).phase = .hung := hphase
      rw [hcalm, hreal]
    | done r =>
      have hcalm : (s.deliver settings tick).calm.phase = .done r := hphase
      have hreal : (s.deliver settings tick).phase = .done r := hphase
      rw [hcalm, hreal]

lemma flagPolls_done {r : StreamDownloadResult} (hp : s.phase = .done r) (ticks : List Tick) :
    flagPolls settings p s ticks = [] := by
  rw [flagPolls, visited_done hp, List.filter_nil, List.map_nil]

lemma mem_flagPolls {ticks : List Tick} {b : Bool} (hp : ∀ r, s.phase ≠ .done r) :
    b ∈ flagPolls settings p s (tick :: ticks) ↔
      s.pollsFlag settings = true ∧ (s.deliver settings tick).inbox.cancelRequested = b ∨
        b ∈ flagPolls settings p (s.step settings p tick) ticks := by
  rw [flagPolls, visited_running hp, List.filter_cons]
  split_ifs with h
  · rw [List.map_cons, List.mem_cons, eq_comm, ← flagPolls]
    simp [h]
  · rw [← flagPolls]
    simp [h]

lemma runFrom_calm {ticks rest : List Tick} {r : StreamDownloadResult}
    (hpolls : ∀ b ∈ flagPolls settings p s ticks, b = false) (h : runFrom settings p ticks s = some (r, s', rest)) :
    runFrom settings p (ticks.map Tick.calm) s.calm = some (r, s'.calm, rest.map Tick.calm) := by
  revert hpolls
  refine runFrom_induct (M := fun ticks s => (∀ b ∈ flagPolls settings p s ticks, b = false) →
    runFrom settings p (ticks.map Tick.calm) s.calm = some (r, s'.calm, rest.map Tick.calm)) h
    (fun hd _ => runFrom_done _ hd) fun tick ticks s hrunning ih hpolls => ?_
  rw [List.map_cons, runFrom_running (s := s.calm) hrunning, step_calm fun hpoll => ?_]
  · exact ih fun b hb => hpolls b ((mem_flagPolls hrunning).mpr (Or.inr hb))
  · exact hpolls _ ((mem_flagPolls hrunning).mpr (Or.inl ⟨hpoll, rfl⟩))

lemma runFrom_down {ticks rest : List Tick} {r : StreamDownloadResult}
    (h : runFrom settings p ticks s = some (r, s', rest)) (hd : s'.inbox.cancelRequested = false) :
    s.inbox.cancelRequested = false ∧ ∀ b ∈ flagPolls settings p s ticks, b = false := by
  apply runFrom_induct (M := fun ticks s =>
    s.inbox.cancelRequested = false ∧ ∀ b ∈ flagPolls settings p s ticks, b = false) h
  · exact fun hp => ⟨hd, by simp [flagPolls_done hp]⟩
  · rintro tick ticks s hrunning ⟨hstep, hrest⟩
    rw [step_cancel] at hstep
    refine ⟨(Bool.or_eq_false_iff.mp hstep).1, fun b hb => ?_⟩
    rcases (mem_flagPolls hrunning).mp hb with ⟨_, rfl⟩ | hb
    · rwa [← Inbox.deliver_cancel] at hstep
    · exact hrest b hb

lemma run_polls {inbox : Inbox} {file : OutputFile} {ticks rest : List Tick} {r : StreamDownloadResult}
    (h : run settings p inbox file ticks = some (r, s', rest)) (hr : r.success = true) :
    ∀ b ∈ flagPolls settings p (start p inbox file) ticks, b = false := by
  by_cases hz : p.byteCount = 0
  · obtain ⟨result, hd, _⟩ := start_empty hz inbox file
    simp [flagPolls_done hd]
  · exact (runFrom_down h (run_success hz h hr)).2

lemma start_calm (inbox : Inbox) (file : OutputFile) : start p inbox.resetCancel file = (start p inbox file).calm := by
  rw [start, start]
  split_ifs <;> rfl

end StreamDownload

end Session

namespace Archive.LogDownloader

open Session Storage Prog

section

variable (settings : Settings)

lemma await_local : Local (await settings) := .next _ _

lemma cancelled_local : Local (cancelled settings) :=
  .bind (await_local settings) fun _ => .bind .get fun _ => .pure _

lemma note_local {a : Action} (h : a.isEvent = false) : Local (note a h) := .modify _ (law_note h)

lemma requestLogData_local (id : UInt16) (offset count : ℕ) : Local (requestLogData settings id offset count) :=
  .bind (await_local settings) fun _ => .bind (note_local rfl) fun _ => .pure _

lemma runSession_local (p : Params) (file : OutputFile) : Local (runSession settings p file) := by
  intro d d' used rest x h rest'
  obtain ⟨⟨r, s, t⟩, hr, heq⟩ := Option.map_eq_some_iff.mp h
  obtain rfl : t = rest := congrArg (fun x => x.2.2) heq
  have hlocal : StreamDownload.run settings.download p d.inbox file (used ++ rest') = some (r, s, rest') :=
    StreamDownload.runFrom_local hr rest'
  refine Option.map_eq_some_iff.mpr ⟨(r, s, rest'), hlocal, ?_⟩
  simp only [Prod.mk.injEq, and_true] at heq ⊢
  exact heq

lemma downloadProbeAndCompare_local (entry : LogEntry) (candidate : ArchivedLog) :
    Local (downloadProbeAndCompare settings entry candidate) :=
  .bind (.modify _ _) fun _ => .bind (runSession_local settings _ _) fun _ => .bind (note_local rfl) fun _ =>
    .ite (.bind (.modify _ _) fun _ => .pure _) (.pure _)

lemma isDuplicate_local (entry : LogEntry) : Local (isDuplicate settings entry) := by
  refine .bind (.bind (await_local settings) fun _ => .bind .get fun _ => .pure _) ?_
  rintro (_ | candidate)
  · exact .pure _
  · exact downloadProbeAndCompare_local settings entry candidate

lemma downloadLogData_local (entry : LogEntry) (path : Path) : Local (downloadLogData settings entry path) := by
  refine .bind (.modify _ _) fun _ => .bind (.modify _ _) fun _ => .bind (await_local settings) fun tick => ?_
  refine .ite (.bind (.modify _ _) fun _ => .pure _) (.bind (.modify _ _) fun _ => ?_)
  refine .bind (runSession_local settings _ _) fun x => .bind (note_local rfl) fun _ => ?_
  refine .bind (await_local settings) fun _ => .bind (.modify _ _) fun _ => ?_
  refine .ite (.bind (.modify _ _) fun _ => .pure _) (.ite ?_ ?_)
  · exact .bind (.modify _ _) fun _ => .pure _
  · exact .bind (.modify _ _) fun _ => .pure _

lemma readFile_local (path : Path) : Local (readFile settings path) :=
  .bind (await_local settings) fun _ => .bind .get fun _ => .pure _

lemma verifyDataFlashFile_local (path : Path) : Local (verifyDataFlashFile settings path) := by
  refine .ite (.pure _) (.bind (readFile_local settings path) ?_)
  rintro (_ | bytes)
  · exact .pure _
  · exact .pure _

lemma waitRound_local (id : UInt16) (offset : ℕ) (deadline : ℤ) : Local (waitRound settings id offset deadline ()) := by
  refine .bind (await_local settings) fun tick => .bind .get fun d => .ite (.pure _) ?_
  refine .bind (await_local settings) fun _ => .bind .get fun d' => ?_
  cases d'.inbox.dataChunks.find? (isWanted id offset) with
  | none => exact .pure _
  | some chunk => exact .bind (.modify _ _) fun _ => .pure _

lemma waitForLogData_local (id : UInt16) (offset : ℕ) : Local (waitForLogData settings id offset) :=
  .bind (await_local settings) fun _ =>
    .iterate (fun _ => waitRound_local settings id offset _) (fun _ => Hungry.next_bind) _

lemma rereadSamples_local (entry : LogEntry) (content : List UInt8) (good : Bool) (offsets : List ℕ) :
    Local (rereadSamples settings entry content good offsets) := by
  induction offsets generalizing good with
  | nil => exact .bind (note_local rfl) fun _ => .pure _
  | cons ofs offsets ih =>
    refine .bind (requestLogData_local settings _ _ _) fun sent => .ite (.pure _) ?_
    refine .bind (waitForLogData_local settings _ _) ?_
    rintro (_ | chunk)
    · exact .pure _
    · exact .ite (.pure _) (ih _)

lemma verifyFcSampleReread_local (entry : LogEntry) (path : Path) (sha256 : String) :
    Local (verifyFcSampleReread settings entry path sha256) := by
  rw [verifyFcSampleReread]
  cases parseFcRereadMode settings.download.verifyFcReread with
  | none => exact .pure _
  | full =>
    exact .bind (.modify _ _) fun _ => .bind (runSession_local settings _ _) fun _ =>
      .bind (note_local rfl) fun _ => .pure _
  | sample =>
    refine .ite (.pure _) (.bind (readFile_local settings path) ?_)
    rintro (_ | content)
    · exact .pure _
    · exact .bind (.modify _ _) fun _ => rereadSamples_local settings entry content _ _

lemma removePartial_local (path : Path) : Local (removePartial settings path) :=
  .bind (await_local settings) fun _ => .ite (.modify _ _) (.pure _)

lemma fail_local (reason : ArchiveFailureReason) : Local (fail reason) :=
  .bind (.modify _ _) fun _ => .bind (.modify _ _) fun _ => .bind (.modify _ _) fun _ => .pure _

lemma finalizePartial_local (path : Path) : Local (finalizePartial settings path) :=
  .bind (await_local settings) fun _ => .bind (await_local settings) fun _ => .bind (await_local settings) fun _ =>
    .bind (await_local settings) fun _ => .bind .get fun _ => .bind (.modify _ _) fun _ => .pure _

lemma verifyAndStore_local (entry : LogEntry) (path : Path) (result : StreamDownloadResult) (started : ℤ) :
    Local (verifyAndStore settings entry path result started) := by
  refine .bind (verifyDataFlashFile_local settings path) fun _ =>
    .ite (.bind (removePartial_local settings path) fun _ => fail_local _) ?_
  refine .bind (verifyFcSampleReread_local settings entry path _) fun _ =>
    .ite (.bind (removePartial_local settings path) fun _ => fail_local _) ?_
  refine .bind (finalizePartial_local settings path) ?_
  rintro (_ | final)
  · exact fail_local _
  · exact .bind (note_local rfl) fun _ => .bind (.modify _ _) fun _ => .bind (await_local settings) fun _ =>
      .bind (.modify _ _) fun _ => .pure _

lemma abandonDownload_local (path : Path) : Local (abandonDownload settings path) := by
  refine .bind (.modify _ _) fun _ => .bind (removePartial_local settings path) fun _ =>
    .bind (cancelled_local settings) fun _ => ?_
  refine .bind .get fun _ => .ite ?_ ?_
  · exact .bind (.modify _ _) fun _ => .pure _
  · exact .bind (.modify _ _) fun _ => .pure _

lemma downloadFull_local (entry : LogEntry) : Local (downloadFull settings entry) := by
  refine .bind (await_local settings) fun tick => .bind .get fun d => .bind (.modify _ _) fun _ => ?_
  refine .bind (.modify _ _) fun _ => .bind (downloadLogData_local settings entry _) ?_
  rintro (_ | result)
  · exact abandonDownload_local settings _
  · exact verifyAndStore_local settings entry _ result _

lemma archiveOne_local (entry : LogEntry) : Local (archiveOne settings entry) := by
  refine .bind (isDuplicate_local settings entry) fun _ => .ite (.bind (.modify _ _) fun _ => .pure _) ?_
  exact .bind (cancelled_local settings) fun _ => .ite (.pure _) (downloadFull_local settings entry)

end

def calm (d : LogDownloader) : LogDownloader := { d with inbox := d.inbox.resetCancel }

lemma calm_eq {d : LogDownloader} (h : d.inbox.cancelRequested = false) : d.calm = d := by
  rw [calm, Inbox.resetCancel_eq h]

section

variable (settings : Settings)

lemma deliver_calm (tick : Tick) (d : LogDownloader) :
    deliver settings tick.calm d.calm = (deliver settings tick d).calm := by
  simp only [deliver, calm, Inbox.deliver_calm]
  rfl

lemma note_mirrors {a : Action} (h : a.isEvent = false) {P : Unit → Prop} :
    Mirrors calm Tick.calm P (note a h) (note a h) :=
  .modify fun _ => rfl

lemma updateStorage_mirrors (f : StorageManager → StorageManager) {P : Unit → Prop} :
    Mirrors calm Tick.calm P (updateStorage f) (updateStorage f) :=
  .modify fun _ => rfl

lemma clearDataChunks_mirrors {P : Unit → Prop} : Mirrors calm Tick.calm P clearDataChunks clearDataChunks :=
  .modify fun _ => rfl

lemma setFailure_mirrors (reason : ArchiveFailureReason) {P : Unit → Prop} :
    Mirrors calm Tick.calm P (setFailure reason) (setFailure reason) :=
  .modify fun _ => rfl

lemma readFile_mirrors (path : Path) {P : Option (List UInt8) → Prop} :
    Mirrors calm Tick.calm P (readFile settings path) (readFile settings path) :=
  .next_bind (deliver_calm settings) fun _ => .get_bind fun _ => .pure _

lemma verifyDataFlashFile_mirrors (path : Path) {P : Bool → Prop} :
    Mirrors calm Tick.calm P (verifyDataFlashFile settings path) (verifyDataFlashFile settings path) := by
  refine .ite (fun _ => .pure _) fun _ => .seq (readFile_mirrors settings path) ?_
  rintro (_ | bytes)
  · exact .pure _
  · exact .pure _

lemma requestLogData_mirrors (id : UInt16) (offset count : ℕ) {P : Bool → Prop} :
    Mirrors calm Tick.calm P (requestLogData settings id offset count) (requestLogData settings id offset count) :=
  .next_bind (deliver_calm settings) fun _ => .seq (note_mirrors rfl) fun _ => .pure _

lemma finalizePartial_mirrors (path : Path) {P : Option Path → Prop} :
    Mirrors calm Tick.calm P (finalizePartial settings path) (finalizePartial settings path) := by
  refine .next_bind (deliver_calm settings) fun day => .next_bind (deliver_calm settings) fun name => ?_
  refine .next_bind (deliver_calm settings) fun sync => .next_bind (deliver_calm settings) fun move => ?_
  exact .get_bind fun d => .seq (updateStorage_mirrors _) fun _ => .pure _

lemma removePartial_mirrors (path : Path) {P : Unit → Prop} :
    Mirrors calm Tick.calm P (removePartial settings path) (removePartial settings path) :=
  .next_bind (deliver_calm settings) fun _ => .ite (fun _ => updateStorage_mirrors _) fun _ => .pure _

lemma fail_mirrors (reason : ArchiveFailureReason) {P : ArchiveResult → Prop} :
    Mirrors calm Tick.calm P (fail reason) (fail reason) :=
  .seq (.modify fun _ => rfl) fun _ => .seq (setFailure_mirrors _) fun _ => .seq (.modify fun _ => rfl) fun _ => .pure _

lemma recordArchive_mirrors (entry : LogEntry) (result : StreamDownloadResult) (started : ℤ) (final : Path)
    {P : ArchiveResult → Prop} : Mirrors calm Tick.calm P (recordArchive settings entry result started final)
      (recordArchive settings entry result started final) := by
  refine .seq (note_mirrors rfl) fun _ => .seq (.modify fun _ => rfl) fun _ =>
    .next_bind (deliver_calm settings) fun _ => ?_
  exact .seq (.modify fun _ => rfl) fun _ => .pure _

lemma law_down {d d' : LogDownloader} {used : List Tick} (h : law.rel d used d')
    (hd : d'.inbox.cancelRequested = false) :
    d.inbox.cancelRequested = false ∧ ∀ tick ∈ used, tick.cancel = false := by
  have hor := h.2
  rw [hd, eq_comm, Bool.or_eq_false_iff, List.any_eq_false] at hor
  exact ⟨hor.1, fun tick ht => by simpa using hor.2 tick ht⟩

lemma run_calm {α : Type} {p : Task α} (hp : Local p) {d d' : LogDownloader} {ticks rest : List Tick} {a : α}
    (h : p.run d ticks = some (a, d', rest)) (hd : d'.inbox.cancelRequested = false) :
    p.run d.calm (ticks.map Tick.calm) = some (a, d', rest.map Tick.calm) := by
  -- the flag is still down at the end, so no input used so far has raised it
  obtain ⟨used, rfl, hl⟩ := p.lawful h
  obtain ⟨hdown, hused⟩ := law_down hl hd
  rw [calm_eq hdown, List.map_append, calm_ticks hused]
  exact hp _ _ _ _ _ h _

lemma runSession_spared {p : Params} {file : OutputFile} {d d' : LogDownloader} {ticks rest : List Tick}
    {x : StreamDownloadResult × OutputFile}
    (hpolls : ∀ b ∈ StreamDownload.flagPolls settings.download p (.start p d.inbox file) ticks, b = false)
    (h : (runSession settings p file).run d ticks = some (x, d', rest)) :
    (runSession settings p file).run d.calm (ticks.map Tick.calm) = some (x, d'.calm, rest.map Tick.calm) := by
  obtain ⟨⟨r, s, t⟩, hr, heq⟩ := Option.map_eq_some_iff.mp h
  simp only [Prod.mk.injEq] at heq
  obtain ⟨rfl, rfl, rfl⟩ := heq
  have hcalm := StreamDownload.runFrom_calm hpolls hr
  rw [← StreamDownload.start_calm] at hcalm
  exact Option.map_eq_some_iff.mpr ⟨_, hcalm, rfl⟩

lemma runSession_mirrors (p : Params) (file : OutputFile) :
    Mirrors calm Tick.calm (fun x => x.1.success = true) (runSession settings p file) (runSession settings p file) := by
  intro d d' ticks rest x h hx
  refine runSession_spared settings ?_ h
  obtain ⟨⟨r, s, t⟩, hr, heq⟩ := Option.map_eq_some_iff.mp h
  simp only [Prod.mk.injEq] at heq
  obtain ⟨rfl, _⟩ := heq
  exact StreamDownload.run_polls hr hx

lemma downloadLogData_mirrors (entry : LogEntry) (path : Path) :
    Mirrors calm Tick.calm (fun result => result.isSome = true) (downloadLogData settings entry path)
      (downloadLogData settings entry path) := by
  refine .seq (setFailure_mirrors _) fun _ => .seq clearDataChunks_mirrors fun _ => ?_
  refine .next_bind (deliver_calm settings) fun tick => .ite ?_ ?_
  · exact fun _ => .seq (setFailure_mirrors _) fun _ => .pure _
  · intro _
    refine .seq (updateStorage_mirrors _) fun _ => .bind (runSession_mirrors settings _ _) ?_ ?_
    · intro x hx
      refine .seq (note_mirrors rfl) fun _ => .next_bind (deliver_calm settings) fun tick => ?_
      refine .seq (updateStorage_mirrors _) fun _ => .ite ?_ fun _ => .ite ?_ ?_
      · exact fun _ => .seq (setFailure_mirrors _) fun _ => .pure _
      · exact fun _ => .seq (setFailure_mirrors _) fun _ => .pure _
      · exact fun _ => .seq (setFailure_mirrors _) fun _ => .pure _
    · intro x s is a s' is' hr ha
      obtain ⟨_, s₁, is₁, _, hr₁⟩ := bind_returns hr
      obtain ⟨tick', s₂, is₂, _, hr₂⟩ := bind_returns hr₁
      obtain ⟨_, s₃, is₃, _, hr₃⟩ := bind_returns hr₂
      by_contra hfail
      rw [if_pos (by simpa using hfail)] at hr₃
      obtain ⟨_, s₄, is₄, _, hr₄⟩ := bind_returns hr₃
      simp only [pure_run, Option.some.injEq, Prod.mk.injEq] at hr₄
      rw [← hr₄.1] at ha
      cases ha

end

/-! The re-read, as long as it does not find the flag raised. -/

def Spared (x : Sighting) : Prop := x ≠ .polled true

section

variable (settings : Settings)

lemma rereadSession_spared (entry : LogEntry) :
    Watched.Mirrors Spared calm Tick.calm (Watch.rereadSession settings entry)
      (runSession settings (rereadParams entry) {}) := by
  intro d d' ticks rest x h hseen
  refine runSession_spared settings (fun b hb => ?_) h
  refine Bool.eq_false_iff.mpr fun htrue => hseen (.polled b) ?_ (congrArg _ htrue)
  exact List.mem_append_left _ (List.mem_map_of_mem hb)

lemma waitRound_spared (id : UInt16) (offset : ℕ) (deadline : ℤ) :
    Watched.Mirrors Spared calm Tick.calm (Watch.waitRound settings id offset deadline)
      (waitRound settings id offset deadline ()) := by
  intro d d' ticks rest a h hseen
  obtain ⟨tick, d₁, t₁, hnext, h⟩ := bind_returns h
  obtain ⟨rfl, rfl⟩ := next_returns hnext
  rw [waitRound, bind_run, List.map_cons, await, next_run, deliver_calm]
  simp only [bind_run, get_run, Option.bind_some] at h ⊢
  by_cases hlate : deadline ≤ tick.now
  · rw [if_pos (Or.inl hlate)] at h
    rw [if_pos (Or.inl (by exact hlate))]
    exact Mirrors.pure (P := fun _ => True) _ _ _ _ _ _ h trivial
  · have hdown : (deliver settings tick d).inbox.cancelRequested = false := by
      refine Bool.eq_false_iff.mpr fun hraised => hseen (.polled true) ?_ rfl
      simp [Watch.waitRound, hlate, hraised]
    rw [if_neg (by simp [hlate, hdown])] at h
    rw [if_neg (fun hstop => hstop.elim (fun h => hlate h) fun h => by cases h)]
    refine Mirrors.next_bind (P := fun _ => True) (deliver_calm settings) (fun _ => .get_bind fun d' => ?_)
      _ _ _ _ _ h trivial
    have hqueue : d'.calm.inbox.dataChunks = d'.inbox.dataChunks := rfl
    rw [hqueue]
    cases d'.inbox.dataChunks.find? (isWanted id offset) with
    | none => exact .pure _
    | some chunk => exact .seq (.modify fun _ => rfl) fun _ => .pure _

lemma waitForLogData_spared (id : UInt16) (offset : ℕ) :
    Watched.Mirrors Spared calm Tick.calm (Watch.waitForLogData settings id offset)
      (waitForLogData settings id offset) :=
  .next_bind (deliver_calm settings) fun _ => .iterate (fun _ => waitRound_spared settings id offset _) ()

lemma rereadSamples_spared (entry : LogEntry) (content : List UInt8) (good : Bool) (offsets : List ℕ) :
    Watched.Mirrors Spared calm Tick.calm (Watch.rereadSamples settings entry content good offsets)
      (rereadSamples settings entry content good offsets) := by
  induction offsets generalizing good with
  | nil => exact .mirrored (.seq (note_mirrors rfl) fun _ => .pure _)
  | cons ofs offsets ih =>
    refine .bind (.mirrored (requestLogData_mirrors settings _ _ _)) fun sent => ?_
    refine .ite (fun _ => .mirrored (.pure _)) fun _ => .bind (waitForLogData_spared settings _ _) fun answer => ?_
    cases answer with
    | none => exact .mirrored (.pure _)
    | some chunk => exact .ite (fun _ => .mirrored (.pure _)) fun _ => ih _

lemma verifyFcSampleReread_spared (entry : LogEntry) (path : Path) (sha256 : String) :
    Watched.Mirrors Spared calm Tick.calm (Watch.verifyFcSampleReread settings entry path sha256)
      (verifyFcSampleReread settings entry path sha256) := by
  rw [Watch.verifyFcSampleReread]
  cases hmode : parseFcRereadMode settings.download.verifyFcReread with
  | none =>
    rw [verifyFcSampleReread, hmode]
    exact .mirrored (.pure _)
  | full =>
    rw [verifyFcSampleReread, hmode]
    refine .bind (.mirrored clearDataChunks_mirrors) fun _ => .bind (rereadSession_spared settings entry) fun x => ?_
    exact .bind (.mirrored (note_mirrors rfl)) fun _ => .mirrored (.pure _)
  | sample =>
    have hpolls : Watched.Mirrors Spared calm Tick.calm (Watch.samplePolls settings entry path sha256)
        (verifyFcSampleReread settings entry path sha256) := by
      rw [verifyFcSampleReread, hmode]
      refine .ite (fun _ => .mirrored (.pure _)) fun _ =>
        .bind (.mirrored (readFile_mirrors settings path)) fun content => ?_
      cases content with
      | none => exact .mirrored (.pure _)
      | some content =>
        exact .bind (.mirrored clearDataChunks_mirrors) fun _ => rereadSamples_spared settings entry content _ _
    intro d d' ticks rest a h hseen
    refine hpolls d d' ticks rest a ?_ fun x hx => hseen x (List.mem_append_left _ hx)
    rw [Watch.samplePolls_prog settings hmode]
    exact h

lemma verifyAndStore_spared (entry : LogEntry) (path : Path) (result : StreamDownloadResult) (started : ℤ) :
    Watched.Mirrors Spared calm Tick.calm (Watch.verifyAndStore settings entry path result started)
      (verifyAndStore settings entry path result started) := by
  have hreject : ∀ reason, Mirrors calm Tick.calm (fun _ => True)
      (removePartial settings path >>= fun _ => fail reason) (removePartial settings path >>= fun _ => fail reason) :=
    fun reason => .seq (removePartial_mirrors settings path) fun _ => fail_mirrors reason
  refine .bind (.mirrored (verifyDataFlashFile_mirrors settings path)) fun parsed => ?_
  refine .ite (fun _ => .mirrored (hreject _)) fun _ => ?_
  refine .bind (verifyFcSampleReread_spared settings entry path _) fun reread => ?_
  refine .ite (fun _ => .mirrored (hreject _)) fun _ => ?_
  refine .bind (.mirrored (finalizePartial_mirrors settings path)) fun final => ?_
  cases final with
  | none => exact .mirrored (fail_mirrors _)
  | some final => exact .mirrored (recordArchive_mirrors settings entry result started final)

end

end Archive.LogDownloader

end MavlinkLogService
