import MavlinkLogService.Archive.Interruption
import MavlinkLogService.Archive.Ledger

/-! A cycle that would succeed if it were left alone counts a failure when it is cancelled exactly if one of
its re-reads finds the cancel flag raised. -/

namespace MavlinkLogService.Archive

open Library Session Storage

def Sighting.poll? : Sighting → Option Bool
  | .polled raised => some raised
  | _ => none

namespace LogDownloader

open Prog Watched

/-- What the re-reads of a cycle find at each of their looks at the cancel flag. -/
def rereadPolls (settings : Settings) (logs : List LogEntry) (d : LogDownloader) (ticks : List Tick) : List Bool :=
  ((Watch.archiveLoop settings {} false logs).seen d ticks).filterMap Sighting.poll?

def pollMonitor : Monitor Bool Sighting where
  see raised
    | .polled found => raised || found
    | _ => raised
  permits _ _ := True

variable {settings : Settings} {entry : LogEntry}

lemma pollMonitor_after (raised : Bool) (l : List Sighting) :
    pollMonitor.after raised l = true ↔ raised = true ∨ true ∈ l.filterMap Sighting.poll? := by
  induction l generalizing raised with
  | nil => simp [Monitor.after]
  | cons x l ih =>
    have hcons : pollMonitor.after raised (x :: l) = pollMonitor.after (pollMonitor.see raised x) l := rfl
    rw [hcons, ih]
    cases x with
    | polled found => cases found <;> simp [pollMonitor, Sighting.poll?]
    | _ => rfl

section

variable {raised : Bool}

lemma unpolled {α : Type} {p : WatchedTask α} (h : Only (fun x => x.poll? = none) p) :
    Triple pollMonitor (fun _ _ w => w = raised) p (fun _ _ _ w => w = raised) := by
  intro d ticks w hw
  refine ⟨fun _ _ _ => trivial, fun _ _ _ _ => ?_⟩
  refine (Monitor.keeps (M := pollMonitor) (· = raised) (fun x => x.poll? = none) ?_ (h d ticks) hw).2
  rintro w x rfl hx
  cases x with
  | polled found => cases hx
  | _ => exact ⟨trivial, rfl⟩

lemma quiet_unpolled {α : Type} (p : Task α) :
    Triple pollMonitor (fun _ _ w => w = raised) (quiet p) (fun _ _ _ w => w = raised) :=
  unpolled (.quiet p)

lemma runSession_unpolled (p : Params) (file : OutputFile) :
    Only (fun x => x.poll? = none) (Watch.runSession settings p file) := by
  intro d ticks x hx
  rcases List.mem_append.mp hx with hx | hx
  · obtain ⟨report, _, rfl⟩ := List.mem_map.mp hx
    rfl
  · split_ifs at hx
    · obtain rfl := List.mem_singleton.mp hx
      rfl
    · cases hx

lemma isDuplicate_unpolled : Only (fun x => x.poll? = none) (Watch.isDuplicate settings entry) := by
  refine .bind (.quiet _) fun candidate => ?_
  cases candidate with
  | none => exact .quiet _
  | some candidate =>
    refine .bind (.quiet _) fun _ => .bind (runSession_unpolled _ _) fun _ =>
      .bind (.quiet _) fun _ => .ite ?_ (.quiet _)
    exact .bind (.quiet _) fun _ => .quiet _

lemma downloadLogData_unpolled (path : Path) :
    Only (fun x => x.poll? = none) (Watch.downloadLogData settings entry path) := by
  refine .bind (.quiet _) fun _ => .bind (.quiet _) fun _ => .bind (.quiet _) fun _ => .ite ?_ ?_
  · exact .bind (.showing (by rfl) _) fun _ => .quiet _
  refine .bind (.quiet _) fun _ => .bind (runSession_unpolled _ _) fun _ => .bind (.quiet _) fun _ => ?_
  refine .bind (.quiet _) fun _ => .bind (.quiet _) fun _ => .ite ?_ (.ite ?_ ?_)
  · exact .bind (.showing (by rfl) _) fun _ => .quiet _
  · exact .bind (.showing (by rfl) _) fun _ => .quiet _
  · exact .bind (.quiet _) fun _ => .quiet _

lemma rereadSession_polled : Triple pollMonitor (fun _ _ w => w = raised) (Watch.rereadSession settings entry)
    (fun x _ _ w => x.1.success = true → w = raised) := by
  intro d ticks w hw
  refine ⟨fun _ _ _ => trivial, fun x d' rest hr hs => ?_⟩
  obtain ⟨⟨r, s, t⟩, hrun, heq⟩ := Option.map_eq_some_iff.mp hr
  simp only [Prod.mk.injEq] at heq
  obtain ⟨rfl, _⟩ := heq
  have hdown := StreamDownload.run_polls hrun hs
  have hpolls : pollMonitor.after w ((StreamDownload.flagPolls settings.download (rereadParams entry)
      (.start (rereadParams entry) d.inbox {}) ticks).map .polled) = w := by
    refine (Monitor.keeps (M := pollMonitor) (· = w) (fun x => x = .polled false) ?_ ?_ rfl).2
    · rintro w x rfl rfl
      exact ⟨trivial, Bool.or_false w⟩
    · intro x hx
      obtain ⟨b, hb, rfl⟩ := List.mem_map.mp hx
      rw [hdown b hb]
  rw [Watch.rereadSession, pollMonitor.after_append, hpolls, hw]
  exact (unpolled (runSession_unpolled (rereadParams entry) {}) d ticks raised rfl).2 _ _ _ hr

lemma waitRound_polled (id : UInt16) (offset : ℕ) (deadline : ℤ) :
    Triple pollMonitor (fun _ _ w => w = raised) (Watch.waitRound settings id offset deadline)
      (fun x _ _ w => x.elim (fun _ => w = raised) fun answer => answer.isSome = true → w = raised) := by
  intro d ticks w hw
  refine ⟨fun _ _ _ => trivial, fun x d' rest hr => ?_⟩
  obtain ⟨tick, d₁, t₁, hnext, hr⟩ := bind_returns hr
  obtain ⟨rfl, rfl⟩ := next_returns hnext
  simp only [bind_run, get_run, Option.bind_some] at hr
  split_ifs at hr with hstop
  · simp only [pure_run, Option.some.injEq, Prod.mk.injEq] at hr
    rw [← hr.1]
    exact fun h => by cases h
  · rw [not_or, Bool.not_eq_true] at hstop
    have hsame : pollMonitor.after w ((Watch.waitRound settings id offset deadline).seen d (tick :: t₁)) = raised := by
      simp [Watch.waitRound, hstop, Monitor.after, pollMonitor, hw]
    rw [hsame]
    cases x with
    | inl _ => exact rfl
    | inr answer => exact fun _ => rfl

lemma waitForLogData_polled (id : UInt16) (offset : ℕ) :
    Triple pollMonitor (fun _ _ w => w = raised) (Watch.waitForLogData settings id offset)
      (fun answer _ _ w => answer.isSome = true → w = raised) := by
  refine .bind (quiet_unpolled _) fun _ => .iterate (I := fun _ _ _ w => w = raised) (fun _ => ?_) ()
  exact waitRound_polled id offset _

lemma rereadSamples_polled (content : List UInt8) (good : Bool) (offsets : List ℕ) :
    Triple pollMonitor (fun _ _ w => w = raised) (Watch.rereadSamples settings entry content good offsets)
      (fun accepted _ _ w => accepted = true → w = raised) := by
  induction offsets generalizing good with
  | nil => exact .bind (quiet_unpolled _) fun _ => .pure fun _ _ _ hw _ => hw
  | cons ofs offsets ih =>
    refine .bind (quiet_unpolled _) fun sent => .ite (fun _ => .pure fun _ _ _ _ h => by cases h) fun _ => ?_
    refine .bind (waitForLogData_polled _ _) fun answer => ?_
    cases answer with
    | none => exact .pure fun _ _ _ _ h => by cases h
    | some chunk =>
      refine .ite (fun _ => .pure fun _ _ _ _ h => by cases h) fun _ => ?_
      exact (ih _).weaken (fun _ _ _ hw => hw rfl) fun _ _ _ _ h => h

lemma samplePolls_polled (path : Path) (sha256 : String) :
    Triple pollMonitor (fun _ _ w => w = raised) (Watch.samplePolls settings entry path sha256)
      (fun accepted _ _ w => accepted = true → w = raised) := by
  refine .ite (fun _ => .pure fun _ _ _ hw _ => hw) fun _ => .bind (quiet_unpolled _) fun content => ?_
  cases content with
  | none => exact .pure fun _ _ _ _ h => by cases h
  | some content => exact .bind (quiet_unpolled _) fun _ => rereadSamples_polled content _ _

lemma sampleEnd_unpolled (path : Path) (sha256 : String) (d : LogDownloader) (ticks : List Tick) (w : Bool) :
    pollMonitor.after w (Watch.sampleEnd settings entry path sha256 d ticks) = w := by
  rw [Watch.sampleEnd]
  split
  · rfl
  · split_ifs <;> rfl

lemma verifyFcSampleReread_polled (path : Path) (sha256 : String) :
    Triple pollMonitor (fun _ _ w => w = raised) (Watch.verifyFcSampleReread settings entry path sha256)
      (fun accepted _ _ w => accepted = true → w = raised) := by
  rw [Watch.verifyFcSampleReread]
  cases hmode : parseFcRereadMode settings.download.verifyFcReread with
  | none => exact .pure fun _ _ _ hw _ => hw
  | full =>
    refine .bind (quiet_unpolled _) fun _ => .bind rereadSession_polled fun x => ?_
    refine .bind (R := fun _ _ _ w => x.1.success = true → w = raised) ?_ fun _ => .pure fun _ _ _ hw h => ?_
    · intro d ticks w hw
      refine ⟨fun _ _ _ => trivial, fun _ _ _ _ => ?_⟩
      rw [Watch.endReread]
      split_ifs <;> exact hw
    · exact hw (Bool.and_eq_true_iff.mp h).1
  | sample =>
    intro d ticks w hw
    refine ⟨fun _ _ _ => trivial, fun accepted d' rest hr h => ?_⟩
    rw [Watch.sampleReread, pollMonitor.after_append, sampleEnd_unpolled]
    refine (samplePolls_polled path sha256 d ticks w hw).2 accepted d' rest ?_ h
    rw [Watch.samplePolls_prog settings hmode]
    exact hr

lemma fail_polled (reason : ArchiveFailureReason) :
    Triple pollMonitor (fun _ _ _ => True) (Watch.fail reason) (fun o _ _ w => o ≠ .failed → w = raised) := by
  refine .showing (fun _ _ _ _ => trivial) fun d ticks w o d' rest _ hr ho => ?_
  have hrun : (fail reason).run d ticks = some (.failed, _, ticks) := rfl
  rw [hrun] at hr
  simp only [Option.some.injEq, Prod.mk.injEq] at hr
  exact absurd hr.1.symm ho

lemma verifyAndStore_polled (path : Path) (result : StreamDownloadResult) (started : ℤ) :
    Triple pollMonitor (fun _ _ w => w = raised) (Watch.verifyAndStore settings entry path result started)
      (fun o _ _ w => o ≠ .failed → w = raised) := by
  refine .bind (quiet_unpolled _) fun parsed => .ite (fun _ => ?_) fun _ => ?_
  · exact .bind (R := fun _ _ _ _ => True) (.showing (fun _ _ _ _ => trivial) fun _ _ _ _ _ _ _ _ => trivial)
      fun _ => fail_polled _
  refine .bind (verifyFcSampleReread_polled path result.sha256) fun reread => .ite (fun _ => ?_) fun haccepted => ?_
  · exact .bind (R := fun _ _ _ _ => True) (.quiet fun _ _ _ _ _ _ _ _ => trivial) fun _ => fail_polled _
  have htrue : reread = true := by simpa using haccepted
  refine .bind (R := fun _ _ _ w => w = raised) (.quiet fun _ _ _ _ _ _ hw _ => hw htrue) fun final => ?_
  cases final with
  | none =>
    exact .bind (R := fun _ _ _ _ => True) (.showing (fun _ _ _ _ => trivial) fun _ _ _ _ _ _ _ _ => trivial)
      fun _ => fail_polled _
  | some final => exact .showing (fun _ _ _ _ => trivial) fun _ _ _ _ _ _ hw _ _ => hw

lemma archiveOne_polled : Triple pollMonitor (fun _ _ w => w = raised) (Watch.archiveOne settings entry)
    (fun o _ _ w => o ≠ .failed → w = raised) := by
  refine .bind (unpolled isDuplicate_unpolled) fun duplicate => .ite (fun _ => ?_) fun _ => ?_
  · exact .bind (quiet_unpolled _) fun _ => .pure fun _ _ _ hw _ => hw
  refine .bind (quiet_unpolled _) fun stop => .ite (fun _ => .pure fun _ _ _ hw _ => hw) fun _ => ?_
  refine .bind (quiet_unpolled _) fun tick => .bind (quiet_unpolled _) fun d => .bind (quiet_unpolled _) fun _ => ?_
  refine .bind (R := fun _ _ _ w => w = raised) ?_ fun _ =>
    .bind (unpolled (downloadLogData_unpolled _)) fun result => ?_
  · exact .showing (fun _ _ _ _ => trivial) fun _ _ _ _ _ _ hw _ => hw
  cases result with
  | none => exact .showing (fun _ _ _ _ => trivial) fun _ _ _ _ _ _ hw _ _ => hw
  | some result => exact verifyAndStore_polled _ result _

lemma archiveLoop_polled (acc : ArchiveCycleResult) (anyFailed : Bool) (logs : List LogEntry) :
    Triple pollMonitor (fun _ _ w => w = true → 0 < acc.failed) (Watch.archiveLoop settings acc anyFailed logs)
      (fun x _ _ w => w = true → 0 < x.1.failed) := by
  induction logs generalizing acc anyFailed with
  | nil => exact .pure fun _ _ _ hw => hw
  | cons entry logs ih =>
    intro d ticks w hw
    suffices hlogs : Triple pollMonitor (fun _ _ w' => w' = w)
        (Watch.archiveLoop settings acc anyFailed (entry :: logs))
        (fun x _ _ w => w = true → 0 < x.1.failed) from hlogs d ticks w rfl
    refine .bind (quiet_unpolled _) fun stop => .ite (fun _ => .pure fun _ _ _ h => h ▸ hw) fun _ => ?_
    refine .bind (quiet_unpolled _) fun _ => .bind archiveOne_polled fun o => ?_
    have hlog : ∀ reason w', (o ≠ .failed → w' = w) → w' = true → 0 < (tally acc reason o).failed := by
      intro reason w' hsame hraised
      cases o with
      | failed => exact Nat.succ_pos _
      | _ => exact hw (hsame (by simp) ▸ hraised)
    refine .bind (R := fun _ _ _ w' => o ≠ .failed → w' = w) (.quiet fun _ _ _ _ _ _ h _ => h) fun _ => ?_
    refine .bind (R := fun _ _ _ w' => o ≠ .failed → w' = w) (.quiet fun _ _ _ _ _ _ h _ => h) fun d' => ?_
    refine .ite (fun _ => .pure fun _ _ _ h => hlog _ _ h) fun _ => ?_
    exact (ih _ _).weaken (fun _ _ _ h => hlog _ _ h) fun _ _ _ _ h => h

end

lemma abandonDownload_down {path : Path} {d d' : LogDownloader} {ticks rest : List Tick}
    (h : (abandonDownload settings path).run d ticks = some (.failed, d', rest)) :
    d'.inbox.cancelRequested = false := by
  obtain ⟨_, d₁, t₁, _, h₁⟩ := bind_returns h
  obtain ⟨_, d₂, t₂, _, h₂⟩ := bind_returns h₁
  obtain ⟨stop, d₃, t₃, hstop, h₃⟩ := bind_returns h₂
  obtain ⟨tick, d₄, t₄, _, h₄⟩ := bind_returns hstop
  simp only [bind_run, get_run, pure_run, Option.bind_some, Option.some.injEq, Prod.mk.injEq] at h₄ h₃
  obtain ⟨rfl, rfl, rfl⟩ := h₄
  split_ifs at h₃ with hc
  · obtain ⟨_, d₅, t₅, _, h₅⟩ := bind_returns h₃
    simp at h₅
  · obtain ⟨_, d₅, t₅, hdb, h₅⟩ := bind_returns h₃
    simp only [pure_run, Option.some.injEq, Prod.mk.injEq, true_and] at h₅
    simp only [updateDatabase, modify_run, Option.some.injEq, Prod.mk.injEq, true_and] at hdb
    obtain ⟨rfl, rfl⟩ := h₅
    obtain ⟨rfl, rfl⟩ := hdb
    exact Bool.eq_false_iff.mpr (not_or.mp hc).2

def afterStream (settings : Settings) (entry : LogEntry) (path : Path) (started : ℤ) :
    Option StreamDownloadResult → Task ArchiveResult
  | none => abandonDownload settings path
  | some result => verifyAndStore settings entry path result started

def beginDownload (settings : Settings) (entry : LogEntry) (tick : Tick) (d : LogDownloader) : Path × LogDownloader :=
  let d := deliver settings tick d
  let (path, storage) := d.storage.beginPartialFile settings.storage tick.wall
  (path, { d with storage := storage, progress := ⟨true, entry.id, 0, entry.size.toNat⟩ })

lemma downloadFull_run (tick : Tick) (ticks : List Tick) (d : LogDownloader) :
    (downloadFull settings entry).run d (tick :: ticks) =
      (downloadLogData settings entry (beginDownload settings entry tick d).1 >>=
        afterStream settings entry (beginDownload settings entry tick d).1 tick.now).run
        (beginDownload settings entry tick d).2 ticks := by
  have hk : ∀ path, afterStream settings entry path tick.now = fun x => match x with
      | none => abandonDownload settings path
      | some result => verifyAndStore settings entry path result tick.now := by
    intro path
    funext x
    cases x <;> rfl
  rw [hk]
  rfl

lemma beginDownload_calm (tick : Tick) (d : LogDownloader) : beginDownload settings entry tick.calm d.calm =
    ((beginDownload settings entry tick d).1, (beginDownload settings entry tick d).2.calm) := by
  simp only [beginDownload, deliver_calm]
  rfl

lemma downloadFull_spared {d d' e : LogDownloader} {ticks rest rest' : List Tick} {o : ArchiveResult}
    (hseen : ∀ x ∈ (Watch.downloadFull settings entry).seen d ticks, Spared x)
    (hreal : (downloadFull settings entry).run d ticks = some (.failed, d', rest))
    (hcalm : (downloadFull settings entry).run d.calm (ticks.map Tick.calm) = some (o, e, rest')) : o = .failed := by
  by_cases hdown : d'.inbox.cancelRequested = false
  · have hsame := run_calm (downloadFull_local settings entry) hreal hdown
    exact congrArg Prod.fst (Option.some.inj (hcalm.symm.trans hsame))
  obtain ⟨tick, d₁, t₁, hawait, _⟩ := bind_returns hreal
  obtain ⟨rfl, _⟩ := next_returns hawait
  rw [List.map_cons] at hcalm
  rw [downloadFull_run] at hreal hcalm
  rw [beginDownload_calm] at hcalm
  obtain ⟨streamed, d₂, t₂, hstream, hreal⟩ := bind_returns hreal
  cases streamed with
  | none => exact absurd (abandonDownload_down hreal) hdown
  | some result =>
    have hsame := downloadLogData_mirrors settings entry _ _ _ _ _ _ hstream rfl
    obtain ⟨streamed', e₂, t₂', hstream', hcalm⟩ := bind_returns hcalm
    obtain ⟨rfl, rfl, rfl⟩ : streamed' = some result ∧ e₂ = d₂.calm ∧ t₂' = t₂.map Tick.calm := by
      simpa using hstream'.symm.trans hsame
    have hpart : ∀ x ∈ (Watch.verifyAndStore settings entry (beginDownload settings entry tick d).1 result
        tick.now).seen d₂ t₂, Spared x := by
      rw [← Watch.downloadLogData_prog] at hstream
      intro x hx
      exact hseen x (mem_seen_bind rfl (mem_seen_bind rfl (mem_seen_bind rfl (mem_seen_bind rfl
        (mem_seen_bind hstream hx)))))
    have hkept := verifyAndStore_spared settings entry _ result tick.now d₂ d' t₂ rest .failed
      (by rw [Watch.verifyAndStore_prog]; exact hreal) hpart
    exact congrArg Prod.fst (Option.some.inj (hcalm.symm.trans hkept))

lemma cancelled_returned {d d' : LogDownloader} {ticks rest : List Tick} {stop : Bool}
    (h : (cancelled settings).run d ticks = some (stop, d', rest)) : d'.inbox.cancelRequested = stop := by
  obtain ⟨tick, d₁, t₁, _, h⟩ := bind_returns h
  simp only [bind_run, get_run, pure_run, Option.bind_some, Option.some.injEq, Prod.mk.injEq] at h
  obtain ⟨rfl, rfl, _⟩ := h
  rfl

lemma archiveOne_spared {d d' e : LogDownloader} {ticks rest rest' : List Tick} {o : ArchiveResult}
    (hseen : ∀ x ∈ (Watch.archiveOne settings entry).seen d ticks, Spared x)
    (hreal : (archiveOne settings entry).run d ticks = some (.failed, d', rest))
    (hcalm : (archiveOne settings entry).run d.calm (ticks.map Tick.calm) = some (o, e, rest')) : o = .failed := by
  obtain ⟨duplicate, d₁, t₁, hdup, hreal⟩ := bind_returns hreal
  cases duplicate with
  | true =>
    obtain ⟨_, d₂, t₂, _, hreal⟩ := bind_returns hreal
    simp at hreal
  | false =>
    obtain ⟨stop, d₂, t₂, hstop, hreal⟩ := bind_returns hreal
    have hflag := cancelled_returned hstop
    cases stop with
    | true => simp at hreal
    | false =>
      obtain ⟨_, _, hlaw⟩ := (cancelled settings).lawful hstop
      have hdown := (law_down hlaw hflag).1
      have hdup' := run_calm (isDuplicate_local settings entry) hdup hdown
      have hstop' := run_calm (cancelled_local settings) hstop hflag
      rw [calm_eq hdown] at hstop'
      rw [archiveOne, bind_run, hdup'] at hcalm
      obtain ⟨stop', e₂, t₂', hs, hcalm⟩ := bind_returns hcalm
      obtain ⟨rfl, rfl, rfl⟩ : stop' = false ∧ e₂ = d₂ ∧ t₂' = t₂.map Tick.calm := by
        simpa using hs.symm.trans hstop'
      have hpart : ∀ x ∈ (Watch.downloadFull settings entry).seen e₂ t₂, Spared x := by
        rw [← Watch.isDuplicate_prog] at hdup
        have hasked : (quiet (cancelled settings) : WatchedTask Bool).prog.run d₁ t₁ = some (false, e₂, t₂) := hstop
        exact fun x hx => hseen x (mem_seen_bind hdup (mem_seen_bind hasked hx))
      have hcalm' : (downloadFull settings entry).run e₂.calm (t₂.map Tick.calm) = some (o, e, rest') := by
        rw [calm_eq hflag]
        exact hcalm
      exact downloadFull_spared hpart hreal hcalm'

lemma tally_failed (acc : ArchiveCycleResult) (reason : ArchiveFailureReason) {o : ArchiveResult} (ho : o ≠ .failed) :
    (tally acc reason o).failed = acc.failed := by
  cases o with
  | failed => exact absurd rfl ho
  | _ => rfl

lemma archiveLoop_failed_le (acc : ArchiveCycleResult) (anyFailed : Bool) (logs : List LogEntry) :
    Prog.Triple (fun _ => True) (fun _ => True) (archiveLoop settings acc anyFailed logs)
      (fun x _ => acc.failed ≤ x.1.failed) := by
  induction logs generalizing acc anyFailed with
  | nil => exact .pure fun _ _ => le_rfl
  | cons entry logs ih =>
    refine .bind (.any _) fun _ => .ite (fun _ => .pure fun _ _ => le_rfl) fun _ => .bind (.any _) fun _ => ?_
    refine .bind (.any _) fun o => .bind (.any _) fun _ => .bind (.any _) fun d => ?_
    have hstep : acc.failed ≤ (tally acc d.lastFailureReason o).failed := by
      cases o with
      | failed => exact Nat.le_succ _
      | _ => exact le_rfl
    refine .ite (fun _ => .pure fun _ _ => hstep) fun _ => ?_
    exact (ih (tally acc d.lastFailureReason o) _).weaken (fun _ _ => trivial) fun _ _ h => hstep.trans h

def proceed (settings : Settings) (acc : ArchiveCycleResult) (anyFailed : Bool) (logs : List LogEntry)
    (o : ArchiveResult) (reason : ArchiveFailureReason) : Task (ArchiveCycleResult × Bool) :=
  if o = .cancelled then return (tally acc reason o, true)
  else archiveLoop settings (tally acc reason o) (anyFailed || o == .failed) logs

lemma archiveLoop_log {acc : ArchiveCycleResult} {anyFailed : Bool} {logs : List LogEntry} {d d' : LogDownloader}
    {ticks rest : List Tick} {x : ArchiveCycleResult × Bool}
    (h : (archiveLoop settings acc anyFailed (entry :: logs)).run d ticks = some (x, d', rest)) :
    ∃ stop d₁ t₁, (cancelled settings).run d ticks = some (stop, d₁, t₁) ∧
      (stop = true → x = (tally acc .cancelled .cancelled, true)) ∧
      (stop = false → ∃ o d₂ t₂, (archiveOne settings entry).run { d₁ with trace := d₁.trace ++ [.begin entry] } t₁ =
        some (o, d₂, t₂) ∧ (proceed settings acc anyFailed logs o d₂.lastFailureReason).run
          { d₂ with trace := d₂.trace ++ [.outcome entry o] } t₂ = some (x, d', rest)) := by
  obtain ⟨stop, d₁, t₁, hstop, h⟩ := bind_returns h
  refine ⟨stop, d₁, t₁, hstop, fun hs => ?_, fun hs => ?_⟩
  · subst hs
    simp only [if_true, pure_run, Option.some.injEq, Prod.mk.injEq] at h
    exact h.1.symm
  · subst hs
    obtain ⟨_, d₂, t₂, hnote, h⟩ := bind_returns h
    simp only [note, modify_run, Option.some.injEq, Prod.mk.injEq, true_and] at hnote
    obtain ⟨rfl, rfl⟩ := hnote
    obtain ⟨o, d₃, t₃, hone, h⟩ := bind_returns h
    obtain ⟨_, d₄, t₄, hnote, h⟩ := bind_returns h
    simp only [note, modify_run, Option.some.injEq, Prod.mk.injEq, true_and] at hnote
    obtain ⟨rfl, rfl⟩ := hnote
    exact ⟨o, d₃, t₃, hone, h⟩

lemma archiveLoop_raised {acc : ArchiveCycleResult} {anyFailed : Bool} {logs : List LogEntry} {d d' : LogDownloader}
    {ticks rest : List Tick} {x : ArchiveCycleResult × Bool} (hd : d.inbox.cancelRequested = true)
    (h : (archiveLoop settings acc anyFailed logs).run d ticks = some (x, d', rest)) : x.1.failed = acc.failed := by
  cases logs with
  | nil =>
    simp only [archiveLoop, pure_run, Option.some.injEq, Prod.mk.injEq] at h
    rw [← h.1]
  | cons entry logs =>
    obtain ⟨stop, d₁, t₁, hstop, hcut, _⟩ := archiveLoop_log h
    obtain ⟨used, _, hlaw⟩ := (cancelled settings).lawful hstop
    have hflag := cancelled_returned hstop
    rw [hlaw.2, hd, Bool.true_or] at hflag
    rw [hcut hflag.symm]
    rfl

lemma archiveLoop_spared {acc : ArchiveCycleResult} {anyFailed : Bool} {logs : List LogEntry} {d d' e : LogDownloader}
    {ticks rest rest' : List Tick} {x y : ArchiveCycleResult × Bool}
    (hseen : ∀ x ∈ (Watch.archiveLoop settings acc anyFailed logs).seen d ticks, Spared x)
    (hreal : (archiveLoop settings acc anyFailed logs).run d ticks = some (x, d', rest))
    (hcalm : (archiveLoop settings acc anyFailed logs).run d.calm (ticks.map Tick.calm) = some (y, e, rest'))
    (hy : y.1.failed = acc.failed) : x.1.failed = acc.failed := by
  -- the two runs go together log by log until a cancellation is seen; then the real one stops
  induction logs generalizing acc anyFailed d ticks with
  | nil =>
    simp only [archiveLoop, pure_run, Option.some.injEq, Prod.mk.injEq] at hreal
    rw [← hreal.1]
  | cons entry logs ih =>
    obtain ⟨stop, d₁, t₁, hstop, hcut, hlog⟩ := archiveLoop_log hreal
    obtain ⟨stop', e₁, s₁, hstop', _, hlog'⟩ := archiveLoop_log hcalm
    have hflag := cancelled_returned hstop
    cases stop with
    | true =>
      rw [hcut rfl]
      rfl
    | false =>
      obtain ⟨rfl, rfl, rfl⟩ : stop' = false ∧ e₁ = d₁ ∧ s₁ = t₁.map Tick.calm := by
        simpa using hstop'.symm.trans (run_calm (cancelled_local settings) hstop hflag)
      obtain ⟨o, d₂, t₂, hone, hnext⟩ := hlog rfl
      obtain ⟨o', e₂, s₂, hone', hnext'⟩ := hlog' rfl
      rw [← calm_eq (d := { e₁ with trace := e₁.trace ++ [.begin entry] }) hflag] at hone'
      have hasked : (quiet (cancelled settings) : WatchedTask Bool).prog.run d ticks = some (false, e₁, t₁) := hstop
      have hfirst : ∀ x ∈ (Watch.archiveOne settings entry).seen { e₁ with trace := e₁.trace ++ [.begin entry] } t₁,
          Spared x :=
        fun x hx => hseen x (mem_seen_bind hasked (mem_seen_bind rfl (seen_subset_bind hx)))
      have ho : o ≠ .failed := by
        rintro rfl
        obtain rfl := archiveOne_spared hfirst hone hone'
        have hle := (archiveLoop_failed_le _ _ logs _ _ _ _ _ trivial (fun _ _ => trivial) hnext').1
        simp only [tally] at hle
        omega
      have hsame := tally_failed acc d₂.lastFailureReason ho
      by_cases hc : o = .cancelled
      · rw [proceed, if_pos hc] at hnext
        simp only [pure_run, Option.some.injEq, Prod.mk.injEq] at hnext
        rw [← hnext.1]
        exact hsame
      rw [proceed, if_neg hc] at hnext
      rw [← hsame]
      by_cases hraised : d₂.inbox.cancelRequested = true
      · exact archiveLoop_raised (by exact hraised) hnext
      have hdown := Bool.eq_false_iff.mpr hraised
      obtain ⟨rfl, rfl, rfl⟩ : o' = o ∧ e₂ = d₂ ∧ s₂ = t₂.map Tick.calm := by
        simpa using hone'.symm.trans (run_calm (archiveOne_local settings entry) hone hdown)
      rw [proceed, if_neg hc, ← calm_eq (d := { e₂ with trace := e₂.trace ++ [.outcome entry o'] }) hdown] at hnext'
      refine ih (fun x hx => ?_) hnext hnext' (hy.trans hsame.symm)
      rw [← Watch.archiveOne_prog] at hone
      refine hseen x (mem_seen_bind hasked (mem_seen_bind rfl (mem_seen_bind hone (mem_seen_bind rfl
        (mem_seen_bind rfl ?_)))))
      rw [if_neg hc]
      exact hx

lemma archiveAll_loop {logs : List LogEntry} {d d' : LogDownloader} {ticks rest : List Tick} {x : ArchiveCycleResult}
    (h : (archiveAll settings logs).run d ticks = some (x, d', rest)) : ∃ res anyFailed d₁,
      (archiveLoop settings {} false logs).run d ticks = some ((res, anyFailed), d₁, rest) ∧ x.failed = res.failed := by
  obtain ⟨⟨res, anyFailed⟩, d₁, t₁, hloop, h⟩ := bind_returns h
  obtain ⟨_, d₂, t₂, hclear, h⟩ := bind_returns h
  obtain ⟨_, d₃, t₃, hnote, h⟩ := bind_returns h
  simp only [clearDataChunks, requestLogEnd, note, modify_run, pure_run, Option.some.injEq, Prod.mk.injEq, true_and]
    at hclear hnote h
  obtain ⟨rfl, rfl⟩ := hclear
  obtain ⟨rfl, rfl⟩ := hnote
  obtain ⟨rfl, rfl, rfl⟩ := h
  exact ⟨res, anyFailed, d₁, hloop, rfl⟩

lemma archiveAll_failed_iff {logs : List LogEntry} {d d' e : LogDownloader} {ticks rest rest' : List Tick}
    {x y : ArchiveCycleResult} (hreal : (archiveAll settings logs).run d ticks = some (x, d', rest))
    (hcalm : (archiveAll settings logs).run d.calm (ticks.map Tick.calm) = some (y, e, rest')) (hy : y.failed = 0) :
    x.failed = 0 ↔ true ∉ rereadPolls settings logs d ticks := by
  obtain ⟨res, anyFailed, d₁, hloop, hx⟩ := archiveAll_loop hreal
  obtain ⟨res', anyFailed', e₁, hloop', hy'⟩ := archiveAll_loop hcalm
  constructor
  · intro hnone hraised
    have hprog := hloop
    rw [← Watch.archiveLoop_prog] at hprog
    have hpolled : Triple pollMonitor _ (Watch.archiveLoop settings {} false logs) _ := archiveLoop_polled {} false logs
    have hafter := (hpolled d ticks false (by simp)).2 _ _ _ hprog ((pollMonitor_after false _).mpr (Or.inr hraised))
    rw [← hx, hnone] at hafter
    exact lt_irrefl 0 hafter
  · intro hspared
    rw [hx]
    refine archiveLoop_spared (fun s hs => ?_) hloop hloop' (hy'.symm.trans hy)
    rintro rfl
    exact hspared (List.mem_filterMap.mpr ⟨_, hs, rfl⟩)

lemma archiveAll_unfailed {logs : List LogEntry} {d d' : LogDownloader} {ticks rest : List Tick}
    {x : ArchiveCycleResult} (hticks : ∀ tick ∈ ticks, Fair {} tick)
    (h : (archiveAll settings logs).run d ticks = some (x, d', rest)) (hx : x.failed = 0) :
    d'.database.getStat .archiveFailures = d.database.getStat .archiveFailures ∧
      (x.allArchived = false → 0 < x.cancelled) := by
  obtain ⟨⟨done, hdone, hcount, hall⟩, _⟩ := archiveAll_accounts logs d d ticks x d' rest (refl_of Unbooked d) hticks h
  refine ⟨?_, fun hfalse => ?_⟩
  · have hnone : done.countP (fun y => y.2 = .failed) = 0 := by
      have hfailed := hcount.failed
      rw [hx] at hfailed
      simpa using hfailed.symm
    rw [hdone.booked.exact .archiveFailures trivial]
    have hzero : (done.map (booking · .archiveFailures)).sum = 0 := by
      refine List.sum_eq_zero fun n hn => ?_
      obtain ⟨y, hy, rfl⟩ := List.mem_map.mp hn
      rw [List.countP_eq_zero] at hnone
      simpa [booking] using hnone y hy
    rw [hzero, add_zero]
  · by_contra hcancelled
    rw [hall.mpr ⟨hx, by omega⟩] at hfalse
    cases hfalse

end LogDownloader

end MavlinkLogService.Archive
