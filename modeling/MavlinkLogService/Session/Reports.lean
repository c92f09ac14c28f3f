import MavlinkLogService.Session.SessionHistory
import MavlinkLogService.Session.Termination

/-! What a session tells its owner: the progress while it runs, and the reason when it fails. -/

namespace MavlinkLogService.Session

open Library.Intervals

lemma ReceivedRanges.bytesReceived_lt (r : ReceivedRanges) : r.bytesReceived < 2 ^ 32 :=
  List.foldlRecOn (motive := (· < 2 ^ 32)) r.ranges _ (by norm_num) fun _ _ _ _ => Nat.mod_lt _ (by norm_num)

def isTimeout (reason : ArchiveFailureReason) : Bool :=
  reason == .transportClosed || reason == .linkTimeout || reason == .logDataTimeout

namespace StreamDownload

variable {settings : DownloadSettings} {p : Params} {s s' : StreamDownload} {tick : Tick}

def progressReports (settings : DownloadSettings) (p : Params) (s : StreamDownload) (ticks : List Tick) :
    List (ℕ × ℤ) :=
  (visited settings p s ticks).flatMap fun v =>
    let s' := step settings p v.1 v.2
    if v.1.lastProgressBytes < s'.lastProgressBytes then [(s'.lastProgressBytes, v.2.now)] else []

def Reported (s s' : StreamDownload) : Prop :=
  s'.lastProgressBytes = s.lastProgressBytes ∨
    s.lastProgressBytes < s'.lastProgressBytes ∧ s'.lastProgressBytes = s'.transfer.ranges.bytesReceived

lemma leaveAttempt_progress (settings : DownloadSettings) (p : Params) (s : StreamDownload) :
    (s.leaveAttempt settings p).lastProgressBytes = s.lastProgressBytes := by
  obtain ⟨n, hstall⟩ := countStall_eq s
  rw [leaveAttempt, hstall]
  split_ifs
  · rfl
  · rfl
  · rfl
  · rw [nextAttempt]
    split_ifs <;> rfl

lemma finish_same (p : Params) (s : StreamDownload) (success : Bool) :
    (s.finish p success).lastProgressBytes = s.lastProgressBytes ∧
      (s.finish p success).transfer.ranges = s.transfer.ranges := by
  rw [finish, flushFile]
  split_ifs <;> exact ⟨rfl, rfl⟩

lemma fillGaps_progress (h : s.fillGaps settings p tick = some s') :
    s'.lastProgressBytes = s.lastProgressBytes ∧ s'.attempt = s.attempt := by
  rw [fillGaps] at h
  split_ifs at h
  · obtain ⟨requests, _, hr⟩ := Option.bind_eq_some_iff.mp h
    obtain rfl := Option.some.inj hr
    exact ⟨rfl, rfl⟩
  · obtain rfl := Option.some.inj h
    exact ⟨rfl, rfl⟩

lemma noteProgress_reported (tick : Tick) (s : StreamDownload) : Reported s (s.noteProgress tick) := by
  rw [noteProgress]
  split_ifs with h
  · exact Or.inr ⟨h, rfl⟩
  · exact Or.inl rfl

lemma Reported.then {s'' : StreamDownload} (h : Reported s s') (hp : s''.lastProgressBytes = s'.lastProgressBytes)
    (hr : s''.transfer.ranges = s'.transfer.ranges) : Reported s s'' := by
  rw [Reported, hp, hr]
  exact h

lemma poll_reported (tick : Tick) (s : StreamDownload) : Reported s (s.poll settings p tick) := by
  rw [poll]
  split_ifs
  · exact Or.inl (leaveAttempt_progress settings p s)
  have hsame : (processQueuedChunks settings p s).1.lastProgressBytes = s.lastProgressBytes := rfl
  obtain ⟨⟨s₁, ok⟩, hs₁⟩ : ∃ x, processQueuedChunks settings p s = x := ⟨_, rfl⟩
  simp only [hs₁] at hsame ⊢
  cases ok with
  | false => exact Or.inl hsame
  | true =>
    have hnoted : Reported s (s₁.noteProgress tick) := by
      have h := noteProgress_reported tick s₁
      rwa [Reported, hsame] at h
    simp only
    split_ifs
    · exact hnoted.then (finish_same p _ true).1 (finish_same p _ true).2
    · cases hg : (s₁.noteProgress tick).fillGaps settings p tick with
      | none => exact hnoted.then rfl rfl
      | some s₂ =>
        have hfilled := hnoted.then (fillGaps_progress hg).1 (congrArg Transfer.ranges (fillGaps_same hg).1)
        simp only
        split_ifs
        · refine hfilled.then (leaveAttempt_progress settings p _) ?_
          have haside := (leaveAttempt_aside settings p { s₂ with failure := classifyTimeout tick }).1
          exact congrArg Transfer.ranges haside.transfer
        · exact hfilled

variable (settings p) in
lemma step_reported (tick : Tick) (s : StreamDownload) : Reported s (s.step settings p tick) := by
  rw [step, advance]
  split
  · simp only [startAttempt]
    split_ifs
    · exact Or.inl (finish_same p _ false).1
    · exact Or.inl rfl
    · exact Or.inl rfl
    · exact Or.inl rfl
  · exact poll_reported tick (s.deliver settings tick)
  · exact Or.inl rfl
  · exact Or.inl rfl

lemma visited_running (hp : ∀ r, s.phase ≠ .done r) (tick : Tick) (ticks : List Tick) :
    visited settings p s (tick :: ticks) = (s, tick) :: visited settings p (s.step settings p tick) ticks := by
  have hreturned : s.phase.returned = false := by
    cases hs : s.phase with
    | done r => exact absurd hs (hp r)
    | _ => rfl
  simp [visited, hreturned]

lemma visited_invariant {J : StreamDownload → Prop} (hJ : ∀ s tick, J s → J (s.step settings p tick)) (h : J s)
    (ticks : List Tick) : ∀ v ∈ visited settings p s ticks, J v.1 := by
  induction ticks generalizing s with
  | nil => simp [visited]
  | cons tick ticks ih =>
    intro v hv
    by_cases hp : ∃ r, s.phase = .done r
    · obtain ⟨r, hp⟩ := hp
      rw [visited_done hp] at hv
      cases hv
    · rw [visited_running (not_exists.mp hp)] at hv
      rcases List.mem_cons.mp hv with rfl | hv
      · exact h
      · exact ih (hJ s tick h) v hv

lemma mem_progressReports {ticks : List Tick} {x : ℕ × ℤ} (h : x ∈ progressReports settings p s ticks) :
    ∃ v ∈ visited settings p s ticks, v.1.lastProgressBytes < x.1 ∧
      x.1 = (v.1.step settings p v.2).transfer.ranges.bytesReceived := by
  obtain ⟨v, hv, hx⟩ := List.mem_flatMap.mp h
  refine ⟨v, hv, ?_⟩
  simp only at hx
  split_ifs at hx with hlt
  · obtain rfl := List.mem_singleton.mp hx
    rcases step_reported settings p v.2 v.1 with heq | ⟨_, heq⟩
    · exact absurd heq hlt.ne'
    · exact ⟨hlt, heq⟩
  · cases hx

lemma progressReports_pos {ticks : List Tick} {x : ℕ × ℤ} (h : x ∈ progressReports settings p s ticks) :
    0 < x.1 ∧ x.1 < 2 ^ 32 := by
  obtain ⟨v, _, hlt, heq⟩ := mem_progressReports h
  exact ⟨Nat.zero_lt_of_lt hlt, heq ▸ ReceivedRanges.bytesReceived_lt _⟩

lemma progressReports_le (hw : p.byteOffset + p.byteCount ≤ 2 ^ 32 - 256) {inbox : Inbox} {file : OutputFile}
    {ticks : List Tick} {x : ℕ × ℤ} (h : x ∈ progressReports settings p (start p inbox file) ticks) :
    x.1 ≤ p.byteCount := by
  have hk : Keeps settings p (fun c => c.count < 256)
      (fun t => t.ranges.Bounded p.byteOffset (p.byteOffset + p.byteCount)) :=
    ⟨fun t c _ hc => Transfer.processChunk_bounded hw hc, fun t ht => ht⟩
  obtain ⟨v, hv, _, heq⟩ := mem_progressReports h
  have hz : p.byteCount ≠ 0 := by
    intro hz
    obtain ⟨r, hr, _⟩ := start_empty hz inbox file
    rw [visited_done hr] at hv
    cases hv
  have hstart : Holds p (fun c => c.count < 256)
      (fun t => t.ranges.Bounded p.byteOffset (p.byteOffset + p.byteCount)) (start p inbox file) := by
    rw [start, if_neg hz]
    exact ⟨by simp [Inbox.clearDataChunks], ⟨by simp, List.Pairwise.nil⟩, by simp⟩
  have hvisited := visited_invariant (J := Holds p _ _) (fun s tick hs => step_holds hk hs (receives_small tick))
    hstart ticks v hv
  have hbounded := (step_holds hk hvisited (receives_small v.2)).transfer
  rw [heq]
  exact (ReceivedRanges.bytesReceived_le hbounded (by omega)).trans (by omega)

lemma progressReports_last {ticks rest : List Tick} {r : StreamDownloadResult}
    (h : runFrom settings p ticks s = some (r, s', rest)) :
    (((progressReports settings p s ticks).getLast?).map Prod.fst).getD s.lastProgressBytes = s'.lastProgressBytes := by
  apply runFrom_induct (M := fun ticks s =>
    (((progressReports settings p s ticks).getLast?).map Prod.fst).getD s.lastProgressBytes = s'.lastProgressBytes) h
  · intro hp
    rw [progressReports, visited_done hp]
    rfl
  · intro tick ticks s hp ih
    rw [← ih, progressReports, visited_running hp, List.flatMap_cons, List.getLast?_append]
    change ((((progressReports settings p (s.step settings p tick) ticks).getLast?).or _).map Prod.fst).getD _ = _
    cases (progressReports settings p (s.step settings p tick) ticks).getLast? with
    | some x => rfl
    | none =>
      simp only [Option.none_or, Option.map_none, Option.getD_none]
      split_ifs with hlt
      · rfl
      · rcases step_reported settings p tick s with heq | ⟨hlt', _⟩
        · simp [heq]
        · exact absurd hlt' hlt

def pollsFlag (settings : DownloadSettings) (s : StreamDownload) : Bool := s.phase = .poll || s.beginsAttempt settings

def flagPolls (settings : DownloadSettings) (p : Params) (s : StreamDownload) (ticks : List Tick) : List Bool :=
  ((visited settings p s ticks).filter fun v => v.1.pollsFlag settings).map fun v =>
    (v.1.deliver settings v.2).inbox.cancelRequested

def timesOut (settings : DownloadSettings) (p : Params) (s : StreamDownload) (tick : Tick) : Bool :=
  let s := s.deliver settings tick
  !s.inbox.cancelRequested &&
    match processQueuedChunks settings p s with
    | (_, false) => false
    | (s, true) =>
      let s := s.noteProgress tick
      !(s.transfer.ranges.complete p.byteCount && s.transfer.coverage.allSlotsReceived) &&
        (s.fillGaps settings p tick).any fun s =>
          decide (settings.downloadTimeoutSec * 1000 ≤ tick.nowIdle - s.lastDataTime)

def noteTimeout (settings : DownloadSettings) (p : Params) (timeout : Option Tick) (v : StreamDownload × Tick) :
    Option Tick :=
  if v.1.phase = .poll then if v.1.timesOut settings p v.2 then some v.2 else none else timeout

def timeoutLook (settings : DownloadSettings) (p : Params) (s : StreamDownload) (ticks : List Tick) : Option Tick :=
  (visited settings p s ticks).foldl (noteTimeout settings p) none

structure Explains (timeout : Option Tick) (reason : ArchiveFailureReason) : Prop where
  calm : reason ≠ .cancelled
  sent : reason ≠ .transportSendFailed
  timed : ∀ tick, timeout = some tick → reason = classifyTimeout tick
  other : timeout = none → isTimeout reason = false

structure Explaining (settings : DownloadSettings) (timeout : Option Tick) (s : StreamDownload) : Prop where
  calm : s.inbox.cancelRequested = false
  polling : s.phase = .poll → s.attempt ≤ settings.retryCount
  retried : s.phase = .attempt → settings.retryCount < s.attempt → Explains timeout s.failure
  failed : ∀ r, s.phase = .done r → r.success = false → Explains timeout r.failure

variable {timeout : Option Tick}

lemma Explains.untimed {reason : ArchiveFailureReason}
    (h : (reason == .cancelled || reason == .transportSendFailed || isTimeout reason) = false) :
    Explains none reason := by
  simp only [Bool.or_eq_false_iff, beq_eq_false_iff_ne] at h
  exact ⟨h.1.1, h.1.2, by simp, fun _ => h.2⟩

lemma Explains.classified (tick : Tick) : Explains (some tick) (classifyTimeout tick) := by
  refine ⟨?_, ?_, fun _ ht => congrArg classifyTimeout (Option.some.inj ht), by simp⟩
  · rw [classifyTimeout]
    split_ifs <;> decide
  · rw [classifyTimeout]
    split_ifs <;> decide

lemma classifyTimeout_ne_none (tick : Tick) : classifyTimeout tick ≠ .none := by
  rw [classifyTimeout]
  split_ifs <;> decide

lemma outcome_explained (h : Explains timeout s.failure) : Explains timeout (s.outcome p false).failure := by
  simp only [outcome, Bool.not_false, if_true, failed]
  cases timeout with
  | none =>
    split_ifs
    · exact .untimed rfl
    · exact .untimed rfl
    · exact h
  | some tick =>
    rw [if_neg (h.timed tick rfl ▸ classifyTimeout_ne_none tick)]
    exact h

lemma leaveAttempt_explains (hc : s.inbox.cancelRequested = false) (ha : s.attempt ≤ settings.retryCount)
    (hf : s.failure = classifyTimeout tick) : Explaining settings (some tick) (s.leaveAttempt settings p) := by
  obtain ⟨n, hstall⟩ := countStall_eq s
  have hclass : Explains (some tick) s.failure := hf ▸ .classified tick
  rw [leaveAttempt, hstall]
  split_ifs with hbusy hstalled hnone
  · exact ⟨hc, by simp [waitForFc], fun _ hlt => absurd hlt (not_lt.mpr ha), by simp [waitForFc]⟩
  · exact absurd (hf.symm.trans hnone) (classifyTimeout_ne_none tick)
  · refine ⟨hc, by simp [abort], by simp [abort], fun r hr _ => ?_⟩
    obtain rfl := Phase.done.inj hr
    exact hclass
  · rw [nextAttempt]
    split_ifs <;> exact ⟨hc, by simp, fun _ _ => hclass, by simp⟩

lemma finish_explains (hc : s.inbox.cancelRequested = false) (timeout : Option Tick) (success : Bool)
    (h : ((s.flushFile p).outcome p success).success = false →
      Explains timeout ((s.flushFile p).outcome p success).failure) :
    Explaining settings timeout (s.finish p success) := by
  refine ⟨by simpa only [finish, flushFile_inbox] using hc, by simp [finish], by simp [finish], fun r hr hs => ?_⟩
  obtain rfl := Phase.done.inj hr
  exact h hs

lemma outcome_conflict (h : (s.outcome p true).success = false) : Explains none (s.outcome p true).failure := by
  simp only [outcome, Bool.not_true, Bool.false_eq_true, if_false] at h ⊢
  split_ifs at h ⊢
  exact .untimed rfl

lemma poll_explains (hc : (s.deliver settings tick).inbox.cancelRequested = false) (hp : s.phase = .poll)
    (ha : s.attempt ≤ settings.retryCount) :
    Explaining settings (noteTimeout settings p timeout (s, tick))
      ((s.deliver settings tick).poll settings p tick) := by
  rw [poll, if_neg (by simp [hc]), noteTimeout, if_pos hp, timesOut]
  have hsame : (processQueuedChunks settings p (s.deliver settings tick)).1.inbox.cancelRequested = false ∧
      (processQueuedChunks settings p (s.deliver settings tick)).1.attempt = s.attempt ∧
      (processQueuedChunks settings p (s.deliver settings tick)).1.phase = .poll := ⟨hc, rfl, hp⟩
  obtain ⟨⟨s₁, ok⟩, hs₁⟩ : ∃ x, processQueuedChunks settings p (s.deliver settings tick) = x := ⟨_, rfl⟩
  simp only [hs₁, hc, Bool.not_false, Bool.true_and] at hsame ⊢
  obtain ⟨hinbox, hattempt, hphase⟩ := hsame
  cases ok with
  | false =>
    refine ⟨hinbox, by simp [abort], by simp [abort], fun r hr _ => ?_⟩
    obtain rfl := Phase.done.inj hr
    exact .untimed rfl
  | true =>
    obtain ⟨_, hinbox₂, hphase₂⟩ := noteProgress_same tick s₁
    have hattempt₂ : (s₁.noteProgress tick).attempt = s.attempt := by
      rw [← hattempt, noteProgress]
      split_ifs <;> rfl
    cases hcomplete : (s₁.noteProgress tick).transfer.ranges.complete p.byteCount &&
        (s₁.noteProgress tick).transfer.coverage.allSlotsReceived with
    | true =>
      simp only [hcomplete, Bool.not_true, Bool.false_and, Bool.false_eq_true, if_false, if_true]
      exact finish_explains (hinbox₂ ▸ hinbox) none true outcome_conflict
    | false =>
      simp only [hcomplete, Bool.not_false, Bool.true_and, Bool.false_eq_true, if_false]
      cases hg : (s₁.noteProgress tick).fillGaps settings p tick with
      | none => exact ⟨hinbox₂ ▸ hinbox, by simp, by simp, by simp⟩
      | some s₂ =>
        obtain ⟨_, hinbox₃, hphase₃⟩ := fillGaps_same hg
        have hcalm : s₂.inbox.cancelRequested = false := by rw [hinbox₃, hinbox₂, hinbox]
        have hattempt₃ : s₂.attempt ≤ settings.retryCount := by
          rw [(fillGaps_progress hg).2, hattempt₂]
          exact ha
        simp only [Option.any_some, decide_eq_true_eq]
        split_ifs
        · exact leaveAttempt_explains hcalm hattempt₃ rfl
        · have hpoll : s₂.phase = .poll := by rw [hphase₃, hphase₂, hphase]
          exact ⟨hcalm, fun _ => hattempt₃, by simp [hpoll], by simp [hpoll]⟩

lemma step_explains (h : Explaining settings timeout s) (hc : tick.cancel = false) :
    Explaining settings (noteTimeout settings p timeout (s, tick)) (s.step settings p tick) := by
  have hcalm : (s.deliver settings tick).inbox.cancelRequested = false := by
    simp [deliver, Inbox.deliver_cancel, h.calm, hc]
  rw [step, advance]
  split
  · next hp =>
    have hattempt : s.phase = .attempt := hp
    rw [noteTimeout, if_neg (by simp [hattempt])]
    simp only [startAttempt]
    split_ifs with hlast hcancel
    · refine finish_explains hcalm timeout false fun _ => outcome_explained ?_
      have hsame : ((s.deliver settings tick).flushFile p).failure = s.failure := by
        rw [flushFile]
        split_ifs <;> rfl
      rw [hsame]
      exact h.retried hattempt hlast
    · rw [hcalm] at hcancel
      cases hcancel
    · exact ⟨hcalm, fun _ => not_lt.mp hlast, by simp, by simp⟩
    · exact ⟨hcalm, fun _ => not_lt.mp hlast, by simp, by simp⟩
  · next hp => exact poll_explains hcalm hp (h.polling hp)
  · next hp =>
    have hhung : s.phase = .hung := hp
    exact ⟨hcalm, by simp [hp], by simp [hp], by simp [hp]⟩
  · next r hp =>
    have hdone : s.phase = .done r := hp
    rw [noteTimeout, if_neg (by simp [hdone])]
    exact ⟨hcalm, by simp [hp], by simp [hp], h.failed⟩

lemma runFrom_explained {ticks rest : List Tick} {r : StreamDownloadResult} (h : Explaining settings timeout s)
    (ht : ∀ tick ∈ ticks, tick.cancel = false) (hr : runFrom settings p ticks s = some (r, s', rest))
    (hs : r.success = false) :
    Explains ((visited settings p s ticks).foldl (noteTimeout settings p) timeout) r.failure := by
  revert timeout ht
  apply runFrom_induct (M := fun ticks s => ∀ {timeout}, Explaining settings timeout s →
    (∀ tick ∈ ticks, tick.cancel = false) →
      Explains ((visited settings p s ticks).foldl (noteTimeout settings p) timeout) r.failure) hr
  · intro hp timeout h _
    rw [visited_done hp]
    exact h.failed _ hp hs
  · intro tick ticks s hrunning ih timeout h ht
    rw [visited_running hrunning, List.foldl_cons]
    exact ih (step_explains h (ht tick List.mem_cons_self)) fun t hm => ht t (List.mem_cons_of_mem tick hm)

lemma run_explained {inbox : Inbox} {file : OutputFile} {ticks rest : List Tick} {r : StreamDownloadResult}
    (hr : run settings p inbox file ticks = some (r, s', rest)) (hi : inbox.cancelRequested = false)
    (ht : ∀ tick ∈ ticks, tick.cancel = false) (hs : r.success = false) :
    Explains (timeoutLook settings p (start p inbox file) ticks) r.failure := by
  refine runFrom_explained ?_ ht hr hs
  rw [start]
  split_ifs
  · refine ⟨hi, by simp, by simp, fun r hr hs => ?_⟩
    obtain rfl := Phase.done.inj hr
    cases hs
  · exact ⟨hi, by simp, fun _ _ => .untimed rfl, by simp⟩

lemma foldl_noteTimeout_mem {vs : List (StreamDownload × Tick)}
    (h : vs.foldl (noteTimeout settings p) timeout = some tick) :
    timeout = some tick ∨ ∃ v ∈ vs, v.2 = tick := by
  induction vs generalizing timeout with
  | nil => exact Or.inl h
  | cons v vs ih =>
    rcases ih h with h | ⟨v', hv, rfl⟩
    · rw [noteTimeout] at h
      split_ifs at h
      · exact Or.inr ⟨v, List.mem_cons_self, Option.some.inj h⟩
      · exact Or.inl h
    · exact Or.inr ⟨v', List.mem_cons_of_mem v hv, rfl⟩

lemma mem_visited {used rest : List Tick} {r : StreamDownloadResult} {v : StreamDownload × Tick}
    (hr : runFrom settings p (used ++ rest) s = some (r, s', rest)) (hv : v ∈ visited settings p s (used ++ rest)) :
    v.2 ∈ used := by
  have hrunning : ∀ r, s.phase ≠ .done r := fun r hp => by simp [visited_done hp] at hv
  induction used generalizing s with
  | nil =>
    cases rest with
    | nil => cases hv
    | cons tick rest =>
      -- a look would take one of the inputs left
      rw [List.nil_append, runFrom_running hrunning] at hr
      exact absurd (runFrom_suffix hr).length_le (by simp)
  | cons tick used ih =>
    rw [List.cons_append, runFrom_running hrunning] at hr
    rw [List.cons_append, visited_running hrunning] at hv
    rcases List.mem_cons.mp hv with rfl | hv
    · exact List.mem_cons_self
    · exact List.mem_cons_of_mem tick (ih hr hv fun r hp => by simp [visited_done hp] at hv)

lemma timeoutLook_mem {used rest : List Tick} {r : StreamDownloadResult}
    (hr : runFrom settings p (used ++ rest) s = some (r, s', rest))
    (h : timeoutLook settings p s (used ++ rest) = some tick) : tick ∈ used := by
  rcases foldl_noteTimeout_mem h with h | ⟨v, hv, rfl⟩
  · cases h
  · exact mem_visited hr hv

end StreamDownload

end MavlinkLogService.Session
