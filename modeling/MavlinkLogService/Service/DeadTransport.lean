import MavlinkLogService.Archive.Watching
import MavlinkLogService.Service.CancelledOutcome

/-! What a cycle makes of a transport that closes under it. -/

namespace MavlinkLogService.Service

open Archive Library LogDownloader Session Storage Watched

/-- A log that was given up, with the state of the transport (connected or not) at the look that waited in vain
for its data, if it was given up for that. -/
structure FailedLog where
  failure : Failure
  timeout : Option Bool
  deriving DecidableEq, Repr

def waitsForData : Failure → Bool
  | .stream | .reread => true
  | _ => false

def failureMonitor : Monitor (Option Bool × List FailedLog) Sighting where
  see w
    | .ended timeout => (timeout, w.2)
    | .gaveUp failure => (none, w.2 ++ [⟨failure, if waitsForData failure then w.1 else none⟩])
    | _ => w
  permits _ _ := True

def failures (settings : Settings) (logs : List LogEntry) (d : LogDownloader) (ticks : List Tick) : List FailedLog :=
  (failureMonitor.after (none, []) ((Watch.archiveLoop settings {} false logs).seen d ticks)).2

def StaysClosed (ticks : List Tick) : Prop := ticks.Pairwise fun a b => a.connected = false → b.connected = false

def Lost (w : List FailedLog) : Prop := ∃ f ∈ w, f.timeout = some false

def EndsInTimeout (w : List FailedLog) : Prop := ∃ connected, w.getLast? = some ⟨.stream, some connected⟩

def FailedLog.Leaves (f : FailedLog) (reason : ArchiveFailureReason) : Prop :=
  match f.failure with
  | .opening | .finalize => reason = .storageError
  | .size => reason = .verificationFailed
  | .parse => reason = .parseFailed
  | .reread => reason = .rereadMismatch
  | .stream => ∃ look : Option Tick, f.timeout = look.map (·.connected) ∧ StreamDownload.Explains look reason

lemma classifyTimeout_closed {tick : Tick} : StreamDownload.classifyTimeout tick = .transportClosed ↔
    tick.connected = false := by
  rw [StreamDownload.classifyTimeout]
  cases tick.connected with
  | false => simp
  | true =>
    simp only [Bool.not_true, Bool.false_eq_true, if_false, iff_false, reduceCtorEq]
    split_ifs <;> decide

lemma FailedLog.Leaves.calm {f : FailedLog} {reason : ArchiveFailureReason} (h : f.Leaves reason) :
    reason ≠ .cancelled := by
  obtain ⟨failure, timeout⟩ := f
  cases failure with
  | stream =>
    obtain ⟨look, _, hexplains⟩ := h
    exact hexplains.calm
  | _ =>
    obtain rfl : reason = _ := h
    decide

lemma FailedLog.Leaves.transport {f : FailedLog} {reason : ArchiveFailureReason} (h : f.Leaves reason)
    (ht : f.timeout ≠ some true) : isTransportFailure reason = true ↔ ∃ connected, f = ⟨.stream, some connected⟩ := by
  obtain ⟨failure, timeout⟩ := f
  cases failure with
  | stream =>
    obtain ⟨look, hlook, hexplains⟩ := h
    cases look with
    | none =>
      obtain rfl : timeout = none := hlook
      have hother := hexplains.other rfl
      have hsent := hexplains.sent
      simp only [isTimeout, Bool.or_eq_false_iff, beq_eq_false_iff_ne] at hother
      simp [isTransportFailure, hother, hsent]
    | some tick =>
      obtain rfl : timeout = some tick.connected := hlook
      have hclosed : tick.connected = false := by simpa using ht
      rw [hexplains.timed tick rfl, classifyTimeout_closed.mpr hclosed]
      exact iff_of_true rfl ⟨_, rfl⟩
  | _ =>
    obtain rfl : reason = _ := h
    exact iff_of_false (by decide) (by simp)

lemma lost_snoc {w : List FailedLog} {f : FailedLog} : Lost (w ++ [f]) ↔ Lost w ∨ f.timeout = some false := by
  simp [Lost, or_and_right, exists_or]

/-- Nobody cancels, and the transport is closed for good once a wait was given up while it was closed. -/
structure Silent (d : LogDownloader) (ticks : List Tick) (w : Option Bool × List FailedLog) : Prop where
  calm : d.inbox.cancelRequested = false
  uncancelled : ∀ tick ∈ ticks, tick.cancel = false
  stays : StaysClosed ticks
  closed : Lost w.2 ∨ w.1 = some false → ∀ tick ∈ ticks, tick.connected = false
  waited : Lost w.2 → w.1 ≠ some true
  last : Lost w.2 → ∀ f, w.2.getLast? = some f → f.timeout ≠ some true

section

variable {settings : Settings} {d d' : LogDownloader} {ticks rest : List Tick} {w : Option Bool × List FailedLog}

lemma Silent.after {α : Type} {p : Archive.Task α} {a : α} (h : Silent d ticks w)
    (hr : p.run d ticks = some (a, d', rest)) : Silent d' rest w := by
  obtain ⟨used, rfl, hlaw⟩ := p.lawful hr
  have hused : used.any (·.cancel) = false := by
    rw [List.any_eq_false]
    exact fun tick ht => by simp [h.uncancelled tick (List.mem_append_left rest ht)]
  exact ⟨by rw [hlaw.2, h.calm, hused]; rfl, fun tick ht => h.uncancelled tick (List.mem_append_right used ht),
    (List.pairwise_append.mp h.stays).2.1, fun hlost tick ht => h.closed hlost tick (List.mem_append_right used ht),
    h.waited, h.last⟩

lemma Silent.ended {α : Type} {p : Archive.Task α} {a : α} {used : List Tick} (look : Option Tick)
    (h : Silent d (used ++ rest) w) (hr : p.run d (used ++ rest) = some (a, d', rest))
    (hl : ∀ tick, look = some tick → tick ∈ used) : Silent d' rest (look.map (·.connected), w.2) := by
  have hafter := h.after hr
  refine ⟨hafter.calm, hafter.uncancelled, hafter.stays, ?_, fun hlost => ?_, h.last⟩
  · rintro (hlost | hclosed)
    · exact hafter.closed (Or.inl hlost)
    · obtain ⟨tick, htick, hc⟩ := Option.map_eq_some_iff.mp hclosed
      exact fun later hm => (List.pairwise_append.mp h.stays).2.2 tick (hl tick htick) later hm hc
  · intro hopen
    obtain ⟨tick, htick, hc⟩ := Option.map_eq_some_iff.mp hopen
    rw [h.closed (Or.inl hlost) tick (List.mem_append_left rest (hl tick htick))] at hc
    cases hc

lemma Silent.gaveUp (h : Silent d ticks w) (failure : Failure) :
    Silent d ticks (failureMonitor.see w (.gaveUp failure)) := by
  have hmark : (if waitsForData failure then w.1 else none) = w.1 ∨
      (if waitsForData failure then w.1 else none) = none := by
    split_ifs <;> simp
  have hlost : Lost (failureMonitor.see w (.gaveUp failure)).2 → Lost w.2 ∨ w.1 = some false := by
    intro hl
    refine (lost_snoc.mp hl).imp_right fun hf => ?_
    rcases hmark with hmark | hmark
    · exact hmark.symm.trans hf
    · cases hmark.symm.trans hf
  refine ⟨h.calm, h.uncancelled, h.stays, ?_, fun _ => by simp [failureMonitor], fun hl f hf => ?_⟩
  · rintro (hl | hclosed)
    · exact h.closed (hlost hl)
    · cases hclosed
  · rw [show (failureMonitor.see w (.gaveUp failure)).2 = w.2 ++ [_] from rfl, List.getLast?_concat] at hf
    obtain rfl := Option.some.inj hf
    rcases hmark with hmark | hmark
    · rcases hlost hl with hl | hl
      · exact fun hopen => h.waited hl (hmark.symm.trans hopen)
      · simp [hl]
    · simp [hmark]

variable {w₀ : List FailedLog} {C : Option Bool → Prop}

structure Held (w₀ : List FailedLog) (C : Option Bool → Prop) (d : LogDownloader) (ticks : List Tick)
    (w : Option Bool × List FailedLog) : Prop where
  silent : Silent d ticks w
  seen : w.2 = w₀
  fact : C w.1

structure GivenUp (w₀ : List FailedLog) (f : FailedLog) (d : LogDownloader) (ticks : List Tick)
    (w : Option Bool × List FailedLog) : Prop where
  silent : Silent d ticks w
  seen : w.2 = w₀ ++ [f]

inductive Settled (w₀ : List FailedLog) (outcome : ArchiveResult) (d : LogDownloader) (ticks : List Tick)
    (w : Option Bool × List FailedLog) : Prop
  | fine (silent : Silent d ticks w) (seen : w.2 = w₀) (outcome : outcome = .skippedDuplicate ∨ outcome = .downloaded)
  | failed (f : FailedLog) (gaveUp : GivenUp w₀ f d ticks w) (reason : f.Leaves d.lastFailureReason)
      (outcome : outcome = .failed)

lemma quiet_held {α : Type} (p : Archive.Task α) :
    Triple failureMonitor (Held w₀ C) (quiet p) (fun _ => Held w₀ C) :=
  .quiet fun _ _ _ _ _ _ h hr => ⟨h.silent.after hr, h.seen, h.fact⟩

lemma quiet_givenUp {α : Type} (p : Archive.Task α) (f : FailedLog) :
    Triple failureMonitor (GivenUp w₀ f) (quiet p) (fun _ => GivenUp w₀ f) :=
  .quiet fun _ _ _ _ _ _ h hr => ⟨h.silent.after hr, h.seen⟩

lemma Held.gaveUp (h : Held w₀ C d ticks w) (failure : Failure) :
    GivenUp w₀ ⟨failure, if waitsForData failure then w.1 else none⟩ d ticks (failureMonitor.see w (.gaveUp failure)) :=
  ⟨h.silent.gaveUp failure, congrArg (· ++ [_]) h.seen⟩

lemma showing_givenUp {α : Type} (p : Archive.Task α) {failure : Failure} (hf : waitsForData failure = false) :
    Triple failureMonitor (Held w₀ C) (showing (.gaveUp failure) p) (fun _ => GivenUp w₀ ⟨failure, none⟩) := by
  refine .showing (fun _ _ _ _ => trivial) fun d ticks w a d' rest h hr => ?_
  have hgaveUp := h.gaveUp failure
  rw [hf] at hgaveUp
  exact ⟨hgaveUp.silent.after hr, hgaveUp.seen⟩

lemma after_neutral {l : List Sighting} (hl : ∀ x ∈ l, (∃ u, x = .progress u) ∨ ∃ raised, x = .polled raised) :
    failureMonitor.after w l = w := by
  refine (Monitor.keeps (M := failureMonitor) (· = w) _ ?_ hl rfl).2
  rintro _ _ rfl (⟨u, rfl⟩ | ⟨raised, rfl⟩)
  · exact ⟨trivial, rfl⟩
  · exact ⟨trivial, rfl⟩

def Tells (r : StreamDownloadResult) (timeout : Option Bool) : Prop :=
  r.success = false → ∃ look : Option Tick, timeout = look.map (·.connected) ∧ StreamDownload.Explains look r.failure

lemma session_held {p : Params} {file : OutputFile} {x : StreamDownloadResult × OutputFile} {l : List Sighting}
    (h : Held w₀ C d ticks w) (hr : (runSession settings p file).run d ticks = some (x, d', rest))
    (hl : ∀ x ∈ l, (∃ u, x = .progress u) ∨ ∃ raised, x = .polled raised) :
    Held w₀ (Tells x.1) d' rest (failureMonitor.after w (l ++ (Watch.runSession settings p file).seen d ticks)) := by
  have hreports : ∀ x ∈ (StreamDownload.progressReports settings.download p (.start p d.inbox file) ticks).map
      (fun report => Sighting.progress (.bytes report.1 report.2)),
      (∃ u, x = .progress u) ∨ ∃ raised, x = .polled raised := by
    intro x hx
    obtain ⟨report, _, rfl⟩ := List.mem_map.mp hx
    exact Or.inl ⟨_, rfl⟩
  have hseen : failureMonitor.after w (l ++ (Watch.runSession settings p file).seen d ticks) =
      ((StreamDownload.timeoutLook settings.download p (.start p d.inbox file) ticks).map (·.connected), w.2) := by
    simp only [Watch.runSession, hr, Option.isSome_some, if_true, Monitor.after_append, after_neutral hl,
      after_neutral hreports]
    rfl
  rw [hseen]
  obtain ⟨⟨r, s, rest'⟩, hrun, heq⟩ := Option.map_eq_some_iff.mp hr
  obtain ⟨rfl, _, rfl⟩ : _ = x ∧ _ ∧ rest' = rest := by simpa using heq
  refine ⟨?_, h.seen, fun hs => ⟨_, rfl, StreamDownload.run_explained hrun h.silent.calm h.silent.uncancelled hs⟩⟩
  obtain ⟨used, rfl⟩ := StreamDownload.runFrom_suffix hrun
  exact h.silent.ended _ hr fun tick ht => StreamDownload.timeoutLook_mem hrun ht

lemma runSession_held (p : Params) (file : OutputFile) :
    Triple failureMonitor (Held w₀ C) (Watch.runSession settings p file) (fun x => Held w₀ (Tells x.1)) := by
  intro d ticks w h
  exact ⟨fun _ _ _ => trivial, fun x d' rest hr => session_held (l := []) h hr (by simp)⟩

variable {entry : LogEntry}

lemma rereadSession_held :
    Triple failureMonitor (Held w₀ C) (Watch.rereadSession settings entry) (fun x => Held w₀ (Tells x.1)) := by
  intro d ticks w h
  refine ⟨fun _ _ _ => trivial, fun x d' rest hr => session_held h hr fun x hx => ?_⟩
  obtain ⟨raised, _, rfl⟩ := List.mem_map.mp hx
  exact Or.inr ⟨raised, rfl⟩

lemma Held.forget (h : Held w₀ C d ticks w) : Held w₀ (fun _ => True) d ticks w := ⟨h.silent, h.seen, trivial⟩

lemma isDuplicate_held : Triple failureMonitor (Held w₀ fun _ => True) (Watch.isDuplicate settings entry)
    (fun _ => Held w₀ fun _ => True) := by
  refine .bind (quiet_held _) fun candidate => ?_
  cases candidate with
  | none => exact .pure fun _ _ _ h => h
  | some candidate =>
    refine .bind (quiet_held _) fun _ => .bind (runSession_held _ _) fun x => ?_
    refine .bind (quiet_held _) fun _ => .ite (fun _ => .bind (quiet_held _) fun _ => ?_) fun _ => ?_
    · exact .pure fun _ _ _ h => h.forget
    · exact .pure fun _ _ _ h => h.forget

def Downloading (w₀ : List FailedLog) (d : LogDownloader) (ticks : List Tick) (w : Option Bool × List FailedLog) :
    Option StreamDownloadResult → Prop
  | none => ∃ f, GivenUp w₀ f d ticks w ∧ f.Leaves d.lastFailureReason
  | some _ => Held w₀ (fun _ => True) d ticks w

lemma giveUp_downloading {failure : Failure} {reason : ArchiveFailureReason}
    (hf : ∀ timeout, C timeout →
      FailedLog.Leaves ⟨failure, if waitsForData failure then timeout else none⟩ reason) :
    Triple failureMonitor (Held w₀ C)
      (do showing (.gaveUp failure) (setFailure reason); return (none : Option StreamDownloadResult))
      (fun result d ticks w => Downloading w₀ d ticks w result) := by
  refine .bind (R := fun _ d ticks w => Downloading w₀ d ticks w none) ?_ fun _ => .pure fun _ _ _ h => h
  refine .showing (fun _ _ _ _ => trivial) fun d ticks w a d' rest h hr => ?_
  have hgaveUp := h.gaveUp failure
  have hsilent := hgaveUp.silent.after hr
  obtain ⟨rfl, rfl⟩ : _ = d' ∧ ticks = rest := by simpa [setFailure] using hr
  exact ⟨_, ⟨hsilent, hgaveUp.seen⟩, hf _ h.fact⟩

lemma downloadLogData_held (path : Path) :
    Triple failureMonitor (Held w₀ fun _ => True) (Watch.downloadLogData settings entry path)
      (fun result d ticks w => Downloading w₀ d ticks w result) := by
  refine .bind (quiet_held _) fun _ => .bind (quiet_held _) fun _ => .bind (quiet_held _) fun tick => ?_
  refine .ite (fun _ => giveUp_downloading fun _ _ => rfl) fun _ => ?_
  refine .bind (quiet_held _) fun _ => .bind (runSession_held _ _) fun x => .bind (quiet_held _) fun _ => ?_
  refine .bind (quiet_held _) fun _ => .bind (quiet_held _) fun _ => .ite (fun hs => ?_) fun _ => ?_
  · exact giveUp_downloading fun timeout h => h (by simpa using hs)
  refine .ite (fun _ => giveUp_downloading fun _ _ => rfl) fun _ => ?_
  exact .bind (quiet_held _) fun _ => .pure fun _ _ _ h => h.forget

lemma lastUsed_mem {used : List Tick} {tick : Tick} (h : lastUsed (used ++ rest) rest = some tick) : tick ∈ used := by
  rw [lastUsed, List.length_append, Nat.add_sub_cancel, List.take_left] at h
  exact List.mem_of_getLast? h

def Rereading (w₀ : List FailedLog) (d : LogDownloader) (ticks : List Tick) (w : Option Bool × List FailedLog)
    (accepted : Bool) : Prop :=
  if accepted then Held w₀ (fun _ => True) d ticks w else ∃ timeout, GivenUp w₀ ⟨.reread, timeout⟩ d ticks w

lemma sampleReread_held (hmode : parseFcRereadMode settings.download.verifyFcReread = .sample) (path : Path)
    (sha256 : String) : Triple failureMonitor (Held w₀ fun _ => True) (Watch.sampleReread settings entry path sha256)
      (fun accepted d ticks w => Rereading w₀ d ticks w accepted) := by
  intro d ticks w h
  refine ⟨fun _ _ _ => trivial, fun accepted d' rest hr => ?_⟩
  have hsilent := h.silent.after hr
  obtain ⟨⟨verdict, d₁, rest₁⟩, hverdict, heq⟩ :=
    Option.map_eq_some_iff.mp ((verifyFcSampleReread_verdict settings hmode entry path sha256 d ticks).symm.trans hr)
  obtain ⟨rfl, rfl, rfl⟩ : verdict.accepted = accepted ∧ d₁ = d' ∧ rest₁ = rest := by simpa using heq
  simp only [Watch.sampleReread, Watch.sampleEnd, hverdict, Rereading, Monitor.after_append,
    after_neutral fun x hx => Or.inr (Watch.samplePolls_polls settings entry path sha256 d ticks x hx)]
  split_ifs with haccepted hsilent'
  · exact ⟨hsilent, h.seen, trivial⟩
  · obtain ⟨used, rfl, _⟩ := (sampleVerdict settings entry path sha256).lawful hverdict
    exact ⟨_, Held.gaveUp (C := fun _ => True)
      ⟨h.silent.ended _ hr fun tick ht => lastUsed_mem ht, h.seen, trivial⟩ .reread⟩
  · obtain ⟨used, rfl, _⟩ := (sampleVerdict settings entry path sha256).lawful hverdict
    exact ⟨_, Held.gaveUp (C := fun _ => True)
      ⟨h.silent.ended none hr (by simp), h.seen, trivial⟩ .reread⟩

lemma reread_held (path : Path) (sha256 : String) :
    Triple failureMonitor (Held w₀ fun _ => True) (Watch.verifyFcSampleReread settings entry path sha256)
      (fun accepted d ticks w => Rereading w₀ d ticks w accepted) := by
  rw [Watch.verifyFcSampleReread]
  cases hmode : parseFcRereadMode settings.download.verifyFcReread with
  | none => exact .pure fun _ _ _ h => h
  | sample => exact sampleReread_held hmode path sha256
  | full =>
    refine .bind (quiet_held _) fun _ => .bind rereadSession_held fun x => ?_
    refine .bind (R := fun _ d ticks w => Rereading w₀ d ticks w (x.1.success && x.1.sha256 == sha256)) ?_
      fun _ => .pure fun _ _ _ h => h
    cases haccepted : x.1.success && x.1.sha256 == sha256 with
    | true => exact (quiet_held requestLogEnd).weaken (fun _ _ _ h => h) fun _ _ _ _ h => h.forget
    | false =>
      refine .showing (fun _ _ _ _ => trivial) fun d ticks w _ d' rest h hr => ⟨_, ?_, (h.gaveUp .reread).seen⟩
      exact (h.gaveUp .reread).silent.after hr

lemma fail_settled {f : FailedLog} {reason : ArchiveFailureReason} (hf : f.Leaves reason) :
    Triple failureMonitor (GivenUp w₀ f) (Watch.fail reason) (Settled w₀) := by
  refine .showing (fun _ _ _ _ => trivial) fun d ticks w outcome d' rest h hr => ?_
  have hsilent := h.silent.after hr
  have hrun : (fail reason).run d ticks = some (.failed, _, ticks) := rfl
  rw [hrun] at hr
  simp only [Option.some.injEq, Prod.mk.injEq] at hr
  obtain ⟨rfl, rfl, rfl⟩ := hr
  exact .failed f ⟨hsilent, h.seen⟩ hf rfl

lemma verifyAndStore_settled (path : Path) (result : StreamDownloadResult) (started : ℤ) :
    Triple failureMonitor (Held w₀ fun _ => True) (Watch.verifyAndStore settings entry path result started)
      (Settled w₀) := by
  refine .bind (quiet_held _) fun parsed => .ite (fun _ => ?_) fun _ => ?_
  · exact .bind (showing_givenUp _ rfl) fun _ => fail_settled rfl
  refine .bind (reread_held path result.sha256) fun reread => ?_
  cases reread with
  | false =>
    intro d ticks w ⟨timeout, h⟩
    exact Triple.bind (quiet_givenUp (removePartial settings path) ⟨.reread, timeout⟩) (fun _ => fail_settled rfl)
      d ticks w h
  | true =>
    refine .bind (quiet_held _) fun final => ?_
    cases final with
    | none => exact .bind (showing_givenUp _ rfl) fun _ => fail_settled rfl
    | some final =>
      refine .showing (fun _ _ _ _ => trivial) fun d ticks w outcome d' rest h hr => ?_
      refine .fine (h.silent.after hr) h.seen (Or.inr ?_)
      obtain ⟨_, d₁, t₁, _, hr⟩ := Prog.bind_returns hr
      obtain ⟨_, d₂, t₂, _, hr⟩ := Prog.bind_returns hr
      obtain ⟨_, d₃, t₃, _, hr⟩ := Prog.bind_returns hr
      obtain ⟨_, d₄, t₄, _, hr⟩ := Prog.bind_returns hr
      simp only [Prog.pure_run, Option.some.injEq, Prod.mk.injEq] at hr
      exact hr.1.symm

lemma cancelled_silent {stop : Bool} (h : Silent d ticks w)
    (hr : (cancelled settings).run d ticks = some (stop, d', rest)) :
    stop = false ∧ d'.lastFailureReason = d.lastFailureReason := by
  have hcalm := (h.after hr).calm
  obtain ⟨tick, d₁, t₁, hnext, hr⟩ := Prog.bind_returns hr
  obtain ⟨rfl, rfl⟩ := Prog.next_returns hnext
  simp only [Prog.bind_run, Prog.get_run, Prog.pure_run, Option.bind_some, Option.some.injEq, Prod.mk.injEq] at hr
  obtain ⟨rfl, rfl, rfl⟩ := hr
  exact ⟨hcalm, rfl⟩

lemma removePartial_reason {path : Path} (hr : (removePartial settings path).run d ticks = some ((), d', rest)) :
    d'.lastFailureReason = d.lastFailureReason := by
  obtain ⟨tick, d₁, t₁, hnext, hr⟩ := Prog.bind_returns hr
  obtain ⟨rfl, rfl⟩ := Prog.next_returns hnext
  split_ifs at hr with hio
  · simp only [updateStorage, Prog.modify_run, Option.some.injEq, Prod.mk.injEq, true_and] at hr
    rw [← hr.1]
    rfl
  · simp only [Prog.pure_run, Option.some.injEq, Prod.mk.injEq, true_and] at hr
    rw [← hr.1]
    rfl

lemma abandonDownload_settled (path : Path) :
    Triple failureMonitor (fun d ticks w => Downloading w₀ d ticks w none) (Watch.abandonDownload settings path)
      (Settled w₀) := by
  refine .showing (fun _ _ _ _ => trivial) fun d ticks w outcome d' rest ⟨f, h, hreason⟩ hr => ?_
  have hsilent := h.silent.after hr
  obtain ⟨_, d₁, t₁, hp, hr⟩ := Prog.bind_returns hr
  have hsilent₁ := h.silent.after hp
  simp only [updateProgress, Prog.modify_run, Option.some.injEq, Prod.mk.injEq, true_and] at hp
  obtain ⟨rfl, rfl⟩ := hp
  obtain ⟨_, d₂, t₂, hp, hr⟩ := Prog.bind_returns hr
  have hsilent₂ := hsilent₁.after hp
  have hremoved := removePartial_reason hp
  obtain ⟨stop, d₃, t₃, hstop, hr⟩ := Prog.bind_returns hr
  obtain ⟨rfl, hsame⟩ := cancelled_silent hsilent₂ hstop
  have hkept : f.Leaves d₃.lastFailureReason := by
    rw [hsame, hremoved]
    exact hreason
  obtain ⟨_, d₄, t₄, hget, hr⟩ := Prog.bind_returns hr
  simp only [Prog.get_run, Option.some.injEq, Prod.mk.injEq] at hget
  obtain ⟨rfl, rfl, rfl⟩ := hget
  rw [if_neg (by simpa using hkept.calm)] at hr
  obtain ⟨_, d₅, t₅, hp, hr⟩ := Prog.bind_returns hr
  simp only [updateDatabase, Prog.modify_run, Prog.pure_run, Option.some.injEq, Prod.mk.injEq, true_and] at hp hr
  obtain ⟨rfl, rfl⟩ := hp
  obtain ⟨rfl, rfl, rfl⟩ := hr
  exact .failed f ⟨hsilent, h.seen⟩ hkept rfl

lemma downloadFull_settled :
    Triple failureMonitor (Held w₀ fun _ => True) (Watch.downloadFull settings entry) (Settled w₀) := by
  refine .bind (quiet_held _) fun tick => .bind (quiet_held _) fun d => .bind (quiet_held _) fun _ => ?_
  refine .bind (R := fun _ => Held w₀ fun _ => True) ?_ fun _ => .bind (downloadLogData_held _) fun result => ?_
  · exact .showing (fun _ _ _ _ => trivial) fun _ _ _ _ _ _ h hr => ⟨h.silent.after hr, h.seen, trivial⟩
  · cases result with
    | none => exact abandonDownload_settled _
    | some result => exact verifyAndStore_settled _ result tick.now

lemma archiveOne_settled :
    Triple failureMonitor (Held w₀ fun _ => True) (Watch.archiveOne settings entry) (Settled w₀) := by
  refine .bind isDuplicate_held fun duplicate => .ite (fun _ => ?_) fun _ => ?_
  · exact .bind (quiet_held _) fun _ => .pure fun _ _ _ h => .fine h.silent h.seen (Or.inl rfl)
  refine .bind (R := fun stop => Held w₀ fun _ => stop = false) ?_ fun stop => .ite (fun hstop => ?_) fun _ => ?_
  · exact .quiet fun _ _ _ _ _ _ h hr => ⟨h.silent.after hr, h.seen, (cancelled_silent h.silent hr).1⟩
  · exact .pure fun _ _ _ h => by simp [h.fact] at hstop
  · exact downloadFull_settled.weaken (fun _ _ _ h => h.forget) fun _ _ _ _ h => h

structure Tallied (result : ArchiveCycleResult) (w : List FailedLog) : Prop where
  cancelled : result.cancelled = 0
  failed : result.failed = w.length
  reason : ∀ f, w.getLast? = some f → f.Leaves result.lastFailureReason

lemma Tallied.fine {result : ArchiveCycleResult} {outcome : ArchiveResult} {w : List FailedLog}
    (h : Tallied result w) (ho : outcome = .skippedDuplicate ∨ outcome = .downloaded) (reason : ArchiveFailureReason) :
    Tallied (tally result reason outcome) w := by
  rcases ho with rfl | rfl
  · exact ⟨h.cancelled, h.failed, h.reason⟩
  · exact ⟨h.cancelled, h.failed, h.reason⟩

lemma Tallied.failure {result : ArchiveCycleResult} {w : List FailedLog} {f : FailedLog}
    {reason : ArchiveFailureReason} (h : Tallied result w) (hf : f.Leaves reason) :
    Tallied (tally result reason .failed) (w ++ [f]) := by
  refine ⟨h.cancelled, ?_, fun f' hlast => ?_⟩
  · rw [List.length_append, ← h.failed]
    rfl
  · rw [List.getLast?_concat] at hlast
    rw [← Option.some.inj hlast]
    exact hf

structure Between (result : ArchiveCycleResult) (anyFailed : Bool) (d : LogDownloader) (ticks : List Tick)
    (w : Option Bool × List FailedLog) : Prop where
  silent : Silent d ticks w
  tallied : Tallied result w.2
  any : anyFailed = !w.2.isEmpty

lemma Settled.after {α : Type} {p : Archive.Task α} {a : α} {outcome : ArchiveResult}
    (h : Settled w₀ outcome d ticks w) (hr : p.run d ticks = some (a, d', rest))
    (hsame : d'.lastFailureReason = d.lastFailureReason) : Settled w₀ outcome d' rest w := by
  cases h with
  | fine silent seen ho => exact .fine (silent.after hr) seen ho
  | failed f gaveUp reason ho =>
    exact .failed f ⟨gaveUp.silent.after hr, gaveUp.seen⟩ (hsame ▸ reason) ho

lemma Between.settled {result : ArchiveCycleResult} {anyFailed : Bool} {outcome : ArchiveResult}
    {w' : Option Bool × List FailedLog} (h : Between result anyFailed d ticks w)
    (hs : Settled w.2 outcome d' rest w') :
    Between (tally result d'.lastFailureReason outcome) (anyFailed || outcome == .failed) d' rest w' := by
  cases hs with
  | fine silent seen ho =>
    have hnot : (outcome == .failed) = false := by rcases ho with rfl | rfl <;> rfl
    rw [hnot, Bool.or_false]
    exact ⟨silent, seen ▸ h.tallied.fine ho _, seen ▸ h.any⟩
  | failed f gaveUp reason ho =>
    rw [ho]
    exact ⟨gaveUp.silent, gaveUp.seen ▸ h.tallied.failure reason, by simp [gaveUp.seen]⟩

lemma archiveLoop_between (result : ArchiveCycleResult) (anyFailed : Bool) (logs : List LogEntry) :
    Triple failureMonitor (Between result anyFailed) (Watch.archiveLoop settings result anyFailed logs)
      (fun x => Between x.1 x.2) := by
  induction logs generalizing result anyFailed with
  | nil => exact .pure fun _ _ _ h => h
  | cons entry logs ih =>
    -- one log: its call starts from the failures `w` seen so far
    intro d ticks w h
    have hstart : Held w.2 (fun _ => True) d ticks w := ⟨h.silent, rfl, trivial⟩
    refine Triple.bind (R := fun stop => Held w.2 fun _ => stop = false) ?_ (fun stop => ?_) d ticks w hstart
    · exact .quiet fun _ _ _ _ _ _ h hr => ⟨h.silent.after hr, h.seen, (cancelled_silent h.silent hr).1⟩
    refine .ite (fun hstop => .pure fun _ _ _ h' => by simp [h'.fact] at hstop) fun _ => ?_
    refine .bind (R := fun _ => Held w.2 fun _ => True) ?_ fun _ => .bind archiveOne_settled fun outcome => ?_
    · exact .quiet fun _ _ _ _ _ _ h' hr => ⟨h'.silent.after hr, h'.seen, trivial⟩
    refine .bind (R := fun _ => Settled w.2 outcome) (.quiet fun _ _ _ _ _ _ h' hr => h'.after hr ?_) fun _ => ?_
    · simp only [note, Prog.modify_run, Option.some.injEq, Prod.mk.injEq, true_and] at hr
      rw [← hr.1]
    refine .bind (R := fun d' d ticks' w' => d' = d ∧ Settled w.2 outcome d ticks' w')
      (.quiet fun d₁ ticks₁ w₁ d' d₂ rest h' hr => ?_) fun d' => .ite (fun hcancelled => ?_) fun _ => ?_
    · simp only [Prog.get_run, Option.some.injEq, Prod.mk.injEq] at hr
      obtain ⟨rfl, rfl, rfl⟩ := hr
      exact ⟨rfl, h'⟩
    · refine .pure fun _ _ _ h' => ?_
      cases h'.2 with
      | fine silent seen ho => rcases ho with ho | ho <;> rw [ho] at hcancelled <;> cases hcancelled
      | failed f gaveUp reason ho => rw [ho] at hcancelled; cases hcancelled
    · refine (ih _ _).weaken (fun d₁ ticks₁ w₁ h' => ?_) fun _ _ _ _ h' => h'
      obtain ⟨rfl, hsettled⟩ := h'
      exact h.settled hsettled

lemma archiveAll_tallied {logs : List LogEntry} {result : ArchiveCycleResult}
    (hcalm : d.inbox.cancelRequested = false) (hcancel : ∀ tick ∈ ticks, tick.cancel = false)
    (hstays : StaysClosed ticks) (hr : (archiveAll settings logs).run d ticks = some (result, d', rest)) :
    Tallied result (failures settings logs d ticks) ∧ (Lost (failures settings logs d ticks) →
      ∀ f, (failures settings logs d ticks).getLast? = some f → f.timeout ≠ some true) := by
  obtain ⟨⟨loop, anyFailed⟩, d₁, t₁, hloop, hr⟩ := Prog.bind_returns hr
  obtain ⟨_, d₂, t₂, _, hr⟩ := Prog.bind_returns hr
  obtain ⟨_, d₃, t₃, _, hr⟩ := Prog.bind_returns hr
  simp only [Prog.pure_run, Option.some.injEq, Prod.mk.injEq] at hr
  rw [← Watch.archiveLoop_prog] at hloop
  have hstart : Silent d ticks (none, []) := ⟨hcalm, hcancel, hstays, by simp [Lost], by simp, by simp⟩
  have hbetween := (archiveLoop_between {} false logs d ticks (none, [])
    ⟨hstart, ⟨rfl, rfl, by simp⟩, rfl⟩).2 _ _ _ hloop
  have htallied := hbetween.tallied
  rw [← hr.1]
  exact ⟨⟨htallied.cancelled, htallied.failed, htallied.reason⟩, hbetween.silent.last⟩

theorem dead_transport_classified_iff (settings : Settings) (logs : List LogEntry) (d d' : LogDownloader)
    (ticks rest : List Tick) (result : ArchiveCycleResult) (hcalm : d.inbox.cancelRequested = false)
    (hcancel : ∀ tick ∈ ticks, tick.cancel = false) (hstays : StaysClosed ticks)
    (hrun : (archiveAll settings logs).run d ticks = some (result, d', rest))
    (hlost : Lost (failures settings logs d ticks)) :
    (isTransportFailure result.lastFailureReason = true ∧
        (settings.download.reconnectOnTransportFailure = true → ∀ n connectOk,
          evaluateArchiveOutcome settings.download n result connectOk =
            (if connectOk then 0 else n + 1, [.reconnect]))) ↔
      EndsInTimeout (failures settings logs d ticks) := by
  obtain ⟨htallied, hopen⟩ := archiveAll_tallied hcalm hcancel hstays hrun
  generalize failures settings logs d ticks = w at htallied hopen hlost ⊢
  rcases List.eq_nil_or_concat w with rfl | ⟨w₀, f, rfl⟩
  · obtain ⟨f, hf, _⟩ := hlost
    cases hf
  rw [List.concat_eq_append] at htallied hopen hlost ⊢
  have hleaves : f.Leaves result.lastFailureReason := htallied.reason f List.getLast?_concat
  have hlast : EndsInTimeout (w₀ ++ [f]) ↔ ∃ connected, f = ⟨.stream, some connected⟩ := by
    simp [EndsInTimeout]
  rw [hlast, ← hleaves.transport (hopen hlost f List.getLast?_concat)]
  refine ⟨fun h => h.1, fun h => ⟨h, fun hset n connectOk => ?_⟩⟩
  -- the cycle is neither clean nor only cancelled, so its reason is looked at
  have hfailed : result.failed ≠ 0 := by
    rw [htallied.failed, List.length_append]
    exact Nat.succ_ne_zero _
  have hreconnects : doReconnect settings.download (n + 1) result = true := by
    rw [doReconnect, hset, h]
    rfl
  rw [evaluateArchiveOutcome_faulty connectOk hfailed, if_pos hreconnects]

end

def closedTicks (n : ℕ) : List Tick :=
  (List.range n).map fun i =>
    { now := 5000 * i
      nowIdle := 5000 * (i + 1)
      connected := false
      heartbeatFresh := false
      ioOk := false }

def lostInStream : List Tick :=
  let idle : Tick := {}
  List.replicate 6 idle ++ closedTicks 12

def lostInReread : List Tick :=
  let idle : Tick := {}
  List.replicate 6 idle ++ [{ messages := [.logData 1 0 1 [7]] }, idle] ++ closedTicks 12

theorem dead_transport_classified_iff_stream : ∃ result d' rest,
    (archiveAll fullSettings [oneByteLog]).run {} lostInStream = some (result, d', rest) ∧
      isTransportFailure result.lastFailureReason = true ∧
      ∀ n, evaluateArchiveOutcome fullSettings.download n result true = (0, [.reconnect]) := by
  have hruns : ((archiveAll fullSettings [oneByteLog]).run {} lostInStream).isSome = true := by decide +kernel
  have hfailures : failures fullSettings [oneByteLog] {} lostInStream = [⟨.stream, some false⟩] := by decide +kernel
  obtain ⟨⟨result, d', rest⟩, hrun⟩ := Option.isSome_iff_exists.mp hruns
  obtain ⟨hreason, hreconnects⟩ := (dead_transport_classified_iff fullSettings [oneByteLog] {} d' lostInStream rest
    result rfl (by decide) (by rw [StaysClosed]; decide) hrun ⟨⟨.stream, some false⟩, by simp [hfailures], rfl⟩).mpr
      ⟨false, by rw [hfailures]; rfl⟩
  exact ⟨result, d', rest, hrun, hreason, fun n => hreconnects rfl n true⟩

theorem lost_reread_not_transport :
    StaysClosed lostInReread ∧ failures fullSettings [oneByteLog] {} lostInReread = [⟨.reread, some false⟩] ∧
    ((archiveAll fullSettings [oneByteLog]).run {} lostInReread).any (fun x => decide
      (x.1.failed = 1 ∧ x.1.lastFailureReason = .rereadMismatch ∧
        evaluateArchiveOutcome fullSettings.download 0 x.1 true = (1, []))) = true := by
  refine ⟨by rw [StaysClosed]; decide, by decide +kernel, by decide +kernel⟩

end MavlinkLogService.Service
