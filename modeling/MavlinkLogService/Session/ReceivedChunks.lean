import MavlinkLogService.Session.SlotCoverage

/-! The chunks that a session takes from the queue decide how it ends: it succeeds exactly if they complete
the download and no two of them clash. -/

namespace MavlinkLogService.Session

open StreamDownload

structure Completes (p : Params) (chunks : List LogDataChunk) : Prop where
  ranges : (ReceivedRanges.ofAdds (pieces p chunks)).complete p.byteCount = true
  slots : chunkCountForSize p.byteCount ≠ 0 ∧
    ∀ slot < chunkCountForSize p.byteCount, ∃ c ∈ chunks, Marks p slot c

def Agree (p : Params) (detect : Bool) (chunks : List LogDataChunk) : Prop :=
  detect = true → ∀ slot < chunkCountForSize p.byteCount, ∀ c ∈ chunks, ∀ c' ∈ chunks, Marks p slot c →
    Marks p slot c' → slotPrint p c = slotPrint p c'

section

variable {settings : DownloadSettings} {p : Params} {t : Transfer} {chunks : List LogDataChunk}

lemma Accounted.isComplete_iff (h : Accounted settings p t) (h₀ : p.byteCount ≠ 0) :
    t.isComplete p = true ↔ Completes p t.processed := by
  have hcoverage : t.coverage.allSlotsReceived = true ↔ chunkCountForSize p.byteCount ≠ 0 ∧
      ∀ slot < chunkCountForSize p.byteCount, ∃ c ∈ t.processed, Marks p slot c := by
    by_cases hcount : chunkCountForSize p.byteCount = 0
    · have hzero : t.coverage.slotCount = 0 := h.coverage.slotCount.trans hcount
      rw [ChunkCoverageTracker.allSlotsReceived, if_pos hzero, h.coverage.totalSize]
      simp [hcount, h₀]
    · rw [allSlots_iff h.coverage hcount, and_iff_right hcount]
  rw [Transfer.isComplete, Bool.and_eq_true, hcoverage, h.ranges]
  exact ⟨fun hc => ⟨hc.1, hc.2⟩, fun hc => ⟨hc.ranges, hc.slots⟩⟩

lemma Completes.slot_lt (h : Completes p chunks) (hp : p.byteCount < 2 ^ 32) {slot : ℕ} {c : LogDataChunk}
    (hm : Marks p slot c) : slot < chunkCountForSize p.byteCount := by
  rcases Nat.eq_zero_or_pos p.byteCount with h₀ | h₀
  · exact absurd (by rw [h₀, chunkCountForSize, if_pos rfl]) h.slots.1
  obtain ⟨a, ha, hle, hlt⟩ := ReceivedRanges.received_of_covered (ReceivedRanges.complete_covered h.ranges h₀)
  obtain ⟨c₀, _, rfl⟩ := List.mem_map.mp ha
  have hofs : p.byteOffset ≤ c₀.offset.toNat := writeLen_ge (by simp only at hle hlt; omega)
  have hstop : c.offset.toNat < p.byteCount := by
    by_contra hge
    refine hm.1 (if_pos (Or.inr ?_))
    simp only at hle
    rw [add32_eq (by omega)]
    omega
  have hcount := h.slots.1
  have hgrid := hm.2
  rw [chunkCountForSize, if_neg (by omega), add32, sub32, logChunkSize] at hcount ⊢
  rw [logChunkSize] at hgrid
  omega

lemma Accounted.agree (h : Accounted settings p t) : Agree p settings.detectOverlapConflict t.processed := by
  intro hdetect slot hslot c hc c' hc' hm hm'
  have hprint := h.coverage.prints hdetect slot (by rw [h.coverage.slotCount]; exact hslot)
  rw [← hprint c hc hm, hprint c' hc' hm']

lemma processChunks_accepts_iff (h : Accounted settings p t) :
    (t.processChunks settings p chunks).2 = true ↔
      Agree p settings.detectOverlapConflict (t.processed ++ chunks) := by
  constructor
  · intro hok
    obtain ⟨t', ht'⟩ : ∃ t', t.processChunks settings p chunks = (t', true) := ⟨_, Prod.ext rfl hok⟩
    rw [← Transfer.processChunks_processed ht']
    apply Accounted.agree
    exact Transfer.processChunks_accepted (Q := fun _ => True) (fun t c t' _ h hc => processChunk_accounted h hc)
      (by simp) h ht'
  · intro hagree
    induction chunks generalizing t with
    | nil => rfl
    | cons chunk chunks ih =>
      have hok : (t.processChunk settings p chunk).2 = true := by
        rw [processChunk_accepts h]
        right
        intro hdetect slot hslot hm c hmem hm'
        exact hagree hdetect slot hslot c (List.mem_append_left _ hmem) chunk (by simp) hm' hm
      rw [Transfer.processChunks]
      rcases hchunk : t.processChunk settings p chunk with ⟨t', ok⟩
      rw [hchunk] at hok
      obtain rfl : ok = true := hok
      apply ih (processChunk_accounted h hchunk)
      rw [Transfer.processChunk_processed hchunk, List.append_assoc, List.singleton_append]
      exact hagree

lemma flushed_accounted (h : Accounted settings p t) : Accounted settings p (t.flushed p) := by
  refine ⟨?_, ?_⟩
  · rw [Transfer.flushed_processed, Transfer.flushed_coverage]
    exact h.coverage
  · rw [Transfer.flushed_processed, Transfer.flushed_ranges]
    exact h.ranges

lemma flushed_isComplete (p : Params) (t : Transfer) : (t.flushed p).isComplete p = t.isComplete p := by
  rw [Transfer.isComplete, Transfer.flushed_ranges, Transfer.flushed_coverage, Transfer.isComplete]

end

namespace StreamDownload

def taken (settings : DownloadSettings) (p : Params) (s : StreamDownload) (tick : Tick) : List LogDataChunk :=
  if s.phase = .poll ∧ (s.deliver settings tick).inbox.cancelRequested = false then
    ((s.deliver settings tick).inbox.drainLogDataChunks p.logId).1
  else []

def received (settings : DownloadSettings) (p : Params) : StreamDownload → List Tick → List LogDataChunk
  | _, [] => []
  | s, tick :: ticks => s.taken settings p tick ++ received settings p (s.step settings p tick) ticks

def EndsWell (settings : DownloadSettings) (p : Params) (s : StreamDownload) (ticks : List Tick) : Prop :=
  ∃ r s' rest, runFrom settings p ticks s = some (r, s', rest) ∧ r.success = true

variable {settings : DownloadSettings} {p : Params} {s : StreamDownload} {tick : Tick}

lemma received_done {r : StreamDownloadResult} (hp : s.phase = .done r) (ticks : List Tick) :
    received settings p s ticks = [] := by
  induction ticks generalizing s with
  | nil => rfl
  | cons tick ticks ih =>
    have htaken : s.taken settings p tick = [] := by simp [taken, hp]
    rw [received, htaken, step_done hp, ih (s := s.deliver settings tick) hp]
    rfl

lemma runFrom_nil (h : ∀ r, s.phase ≠ .done r) : runFrom settings p [] s = none := by
  rw [runFrom]
  split
  · next r hr => exact absurd hr (h r)
  · rfl

lemma endsWell_done {r : StreamDownloadResult} (hr : s.phase = .done r) (ticks : List Tick) :
    EndsWell settings p s ticks ↔ r.success = true := by
  rw [EndsWell, runFrom_done ticks hr]
  simp

lemma poll_completes {t : Transfer} (hcancel : s.inbox.cancelRequested = false)
    (hchunks : s.transfer.processChunks settings p (s.inbox.drainLogDataChunks p.logId).1 = (t, true))
    (hcomplete : t.isComplete p = true) (tick : Tick) :
    (s.poll settings p tick).transfer = t.flushed p ∧
      (s.poll settings p tick).phase = .done ((s.poll settings p tick).outcome p true) := by
  obtain ⟨⟨s₁, ok⟩, hs₁⟩ : ∃ x, s.processQueuedChunks settings p = x := ⟨_, rfl⟩
  have hs : s₁.transfer = t ∧ ok = true := by
    simp only [processQueuedChunks, hchunks, Prod.mk.injEq] at hs₁
    rw [← hs₁.1, ← hs₁.2]
    exact ⟨rfl, rfl⟩
  obtain ⟨rfl, rfl⟩ := hs
  have htransfer := (noteProgress_same tick s₁).1
  have hdone : ((s₁.noteProgress tick).transfer.ranges.complete p.byteCount &&
      (s₁.noteProgress tick).transfer.coverage.allSlotsReceived) = true := by
    rw [htransfer]
    exact hcomplete
  have hpoll : s.poll settings p tick = (s₁.noteProgress tick).finish p true := by
    rw [poll, if_neg (by simp [hcancel]), hs₁]
    simp only [hdone, if_true]
  rw [hpoll, finish]
  exact ⟨by rw [← htransfer]; exact flushFile_transfer p _, rfl⟩

lemma startAttempt_transfer (tick : Tick) (s : StreamDownload) :
    (s.startAttempt settings p tick).transfer = s.transfer ∨
      (s.startAttempt settings p tick).transfer = s.transfer.flushed p := by
  simp only [startAttempt]
  split_ifs
  · exact Or.inr (flushFile_transfer p s)
  · exact Or.inl rfl
  · exact Or.inl rfl
  · exact Or.inl rfl

lemma step_takes (hincomplete : s.transfer.isComplete p = false) {t : Transfer}
    (ht : s.transfer.processChunks settings p (s.taken settings p tick) = (t, true)) :
    ((s.step settings p tick).transfer = t ∨ (s.step settings p tick).transfer = t.flushed p) ∧
      (t.isComplete p = true → (s.step settings p tick).phase = .done ((s.step settings p tick).outcome p true)) := by
  by_cases hpolls : s.phase = .poll ∧ (s.deliver settings tick).inbox.cancelRequested = false
  · have hphase : (s.deliver settings tick).phase = .poll := hpolls.1
    have hstep : s.step settings p tick = (s.deliver settings tick).poll settings p tick := by
      rw [step, advance, hphase]
    rw [taken, if_pos hpolls] at ht
    rw [hstep]
    have hsame : ((s.deliver settings tick).transfer.processChunks settings p
        ((s.deliver settings tick).inbox.drainLogDataChunks p.logId).1).1 = t := congrArg Prod.fst ht
    refine ⟨?_, fun hcomplete => (poll_completes hpolls.2 ht hcomplete tick).2⟩
    rw [← hsame]
    exact (poll_processes hphase hpolls.2 tick).2
  · rw [taken, if_neg hpolls] at ht
    obtain rfl : s.transfer = t := (Prod.mk.inj ht).1
    refine ⟨?_, fun hcomplete => by simp [hincomplete] at hcomplete⟩
    rw [step, advance]
    split
    · exact startAttempt_transfer tick _
    · next hp =>
      have hcancel : (s.deliver settings tick).inbox.cancelRequested = true := by
        simpa [hp] using fun h => hpolls ⟨hp, h⟩
      rw [poll_cancelled hcancel]
      exact Or.inl (leaveAttempt_aside settings p _).1.transfer
    · exact Or.inl rfl
    · exact Or.inl rfl

lemma step_conflicts (h : (s.transfer.processChunks settings p (s.taken settings p tick)).2 = false) :
    ∃ r, (s.step settings p tick).phase = .done r ∧ r.success = false := by
  by_cases hpolls : s.phase = .poll ∧ (s.deliver settings tick).inbox.cancelRequested = false
  · have hphase : (s.deliver settings tick).phase = .poll := hpolls.1
    rw [taken, if_pos hpolls] at h
    have hqueued : ((s.deliver settings tick).processQueuedChunks settings p).2 = false := h
    rw [step, advance, hphase]
    simp only
    rw [poll, if_neg (by simp [hpolls.2])]
    obtain ⟨⟨s₁, ok⟩, hs₁⟩ : ∃ x, (s.deliver settings tick).processQueuedChunks settings p = x := ⟨_, rfl⟩
    rw [hs₁] at hqueued ⊢
    obtain rfl : ok = false := hqueued
    exact ⟨_, rfl, rfl⟩
  · rw [taken, if_neg hpolls] at h
    cases h

lemma success_complete {r : StreamDownloadResult} (hs : ∀ r, s.phase ≠ .done r)
    (hdone : (s.step settings p tick).phase = .done r) (hok : r.success = true) :
    (s.step settings p tick).transfer.isComplete p = true := by
  have hstep : Advanced settings p (s.deliver settings tick) (s.step settings p tick) := step_advanced hs tick
  cases hstep.effect with
  | kept _ phase => simp [phase r hdone] at hok
  | flushed _ r' phase result =>
    obtain rfl := Phase.done.inj (phase.symm.trans hdone)
    simp [result] at hok
  | processed _ _ phase => simp [phase r hdone] at hok
  | conflicted _ r' phase result =>
    obtain rfl := Phase.done.inj (phase.symm.trans hdone)
    simp [result] at hok
  | completed t _ complete flush _ => rw [flush, flushed_isComplete, complete]

structure Running (settings : DownloadSettings) (p : Params) (s : StreamDownload) : Prop where
  phase : ∀ r, s.phase ≠ .done r
  accounted : Accounted settings p s.transfer
  incomplete : s.transfer.isComplete p = false

lemma start_running (settings : DownloadSettings) (h₀ : p.byteCount ≠ 0) (inbox : Inbox) (file : OutputFile) :
    Running settings p (start p inbox file) := by
  have hphase : ∀ r, (start p inbox file).phase ≠ .done r := by
    rw [start, if_neg h₀]
    simp
  have hstart : Accepts p (fun _ => True) (Accounted settings p) (start p inbox file) :=
    start_accepts (start_accounted settings p file) h₀
  obtain ⟨haccounted, hincomplete⟩ := hstart.running hphase
  exact ⟨hphase, haccounted, hincomplete⟩

structure Took (settings : DownloadSettings) (p : Params) (tick : Tick) (s : StreamDownload) : Prop where
  processed : (s.step settings p tick).transfer.processed = s.transfer.processed ++ s.taken settings p tick
  completes : Completes p (s.transfer.processed ++ s.taken settings p tick) →
    ∃ r, (s.step settings p tick).phase = .done r ∧ r.success = true
  incomplete : ¬ Completes p (s.transfer.processed ++ s.taken settings p tick) →
    (∃ r, (s.step settings p tick).phase = .done r ∧ r.success = false) ∨ Running settings p (s.step settings p tick)

lemma taken_accepted (h : Running settings p s)
    (hok : (s.transfer.processChunks settings p (s.taken settings p tick)).2 = true) :
    ∃ t, s.transfer.processChunks settings p (s.taken settings p tick) = (t, true) ∧
      t.processed = s.transfer.processed ++ s.taken settings p tick ∧ Accounted settings p t := by
  obtain ⟨t, ht⟩ : ∃ t, s.transfer.processChunks settings p (s.taken settings p tick) = (t, true) :=
    ⟨_, Prod.ext rfl hok⟩
  refine ⟨t, ht, Transfer.processChunks_processed ht, ?_⟩
  exact Transfer.processChunks_accepted (Q := fun _ => True) (fun t c t' _ h hc => processChunk_accounted h hc)
    (by simp) h.accounted ht

lemma step_took (h₀ : p.byteCount ≠ 0) (h : Running settings p s)
    (hok : (s.transfer.processChunks settings p (s.taken settings p tick)).2 = true) : Took settings p tick s := by
  obtain ⟨t, ht, hprocessed, haccounted⟩ := taken_accepted h hok
  obtain ⟨htransfer, hdone⟩ := step_takes h.incomplete ht
  have hsame : (s.step settings p tick).transfer.processed = t.processed ∧
      (s.step settings p tick).transfer.isComplete p = t.isComplete p ∧
      Accounted settings p (s.step settings p tick).transfer := by
    rcases htransfer with htransfer | htransfer
    · rw [htransfer]
      exact ⟨rfl, rfl, haccounted⟩
    · rw [htransfer]
      exact ⟨Transfer.flushed_processed p t, flushed_isComplete p t, flushed_accounted haccounted⟩
  obtain ⟨hprocessed', hcomplete, haccounted'⟩ := hsame
  have hiff : t.isComplete p = true ↔ Completes p (s.transfer.processed ++ s.taken settings p tick) := by
    rw [← hprocessed]
    exact haccounted.isComplete_iff h₀
  refine ⟨hprocessed'.trans hprocessed, fun hc => ?_, fun hc => ?_⟩
  · exact ⟨_, hdone (hiff.mpr hc), by simp [outcome, haccounted'.coverage.conflicts]⟩
  · have hincomplete : t.isComplete p = false := by simpa [← hiff] using hc
    by_cases hended : ∃ r, (s.step settings p tick).phase = .done r
    · obtain ⟨r, hr⟩ := hended
      refine Or.inl ⟨r, hr, ?_⟩
      by_contra hok
      have hfull := success_complete h.phase hr (by simpa using hok)
      simp [hcomplete, hincomplete] at hfull
    · exact Or.inr ⟨not_exists.mp hended, haccounted', hcomplete.trans hincomplete⟩

lemma runFrom_endsWell_iff (h₀ : p.byteCount ≠ 0) (ticks : List Tick) (h : Running settings p s) :
    EndsWell settings p s ticks ↔ Completes p (s.transfer.processed ++ received settings p s ticks) ∧
      Agree p settings.detectOverlapConflict (s.transfer.processed ++ received settings p s ticks) := by
  induction ticks generalizing s with
  | nil =>
    rw [EndsWell, runFrom_nil h.phase, received, List.append_nil, ← h.accounted.isComplete_iff h₀, h.incomplete]
    simp
  | cons tick ticks ih =>
    rw [received, ← List.append_assoc, EndsWell, runFrom_running h.phase, ← EndsWell]
    cases hok : (s.transfer.processChunks settings p (s.taken settings p tick)).2 with
    | false =>
      obtain ⟨r, hr, hbad⟩ := step_conflicts hok
      rw [endsWell_done hr, received_done hr, List.append_nil, ← processChunks_accepts_iff h.accounted, hok]
      simp [hbad]
    | true =>
      have hagree := (processChunks_accepts_iff h.accounted).mp hok
      have htook := step_took h₀ h hok
      rw [← htook.processed]
      by_cases hc : Completes p (s.transfer.processed ++ s.taken settings p tick)
      · obtain ⟨r, hr, hsuccess⟩ := htook.completes hc
        rw [endsWell_done hr, received_done hr, List.append_nil, htook.processed]
        exact iff_of_true hsuccess ⟨hc, hagree⟩
      · rcases htook.incomplete hc with ⟨r, hr, hbad⟩ | hrunning
        · rw [endsWell_done hr, received_done hr, List.append_nil, htook.processed]
          exact iff_of_false (by simp [hbad]) fun hc' => hc hc'.1
        · exact ih hrunning

lemma runFrom_processed (h₀ : p.byteCount ≠ 0) {ticks rest : List Tick} {r : StreamDownloadResult}
    {s' : StreamDownload} (hr : runFrom settings p ticks s = some (r, s', rest)) (hs : r.success = true)
    (h : Running settings p s) : s'.transfer.processed = s.transfer.processed ++ received settings p s ticks := by
  induction ticks generalizing s with
  | nil => rw [runFrom_nil h.phase] at hr; cases hr
  | cons tick ticks ih =>
    rw [runFrom_running h.phase] at hr
    rw [received, ← List.append_assoc]
    cases hok : (s.transfer.processChunks settings p (s.taken settings p tick)).2 with
    | false =>
      obtain ⟨r', hr', hbad⟩ := step_conflicts hok
      rw [runFrom_done ticks hr'] at hr
      obtain ⟨rfl, _⟩ := Prod.mk.inj (Option.some.inj hr)
      simp [hbad] at hs
    | true =>
      have htook := step_took h₀ h hok
      rw [← htook.processed]
      by_cases hended : ∃ r', (s.step settings p tick).phase = .done r'
      · obtain ⟨r', hr'⟩ := hended
        rw [runFrom_done ticks hr'] at hr
        obtain ⟨_, rfl, _⟩ : _ ∧ s.step settings p tick = s' ∧ _ := by simpa using hr
        rw [received_done hr', List.append_nil]
      · have hnot : ¬ Completes p (s.transfer.processed ++ s.taken settings p tick) := fun hc => by
          obtain ⟨r', hr', _⟩ := htook.completes hc
          exact hended ⟨r', hr'⟩
        rcases htook.incomplete hnot with ⟨r', hr', _⟩ | hrunning
        · exact absurd ⟨r', hr'⟩ hended
        · exact ih hr hrunning

lemma start_processed (h₀ : p.byteCount ≠ 0) (inbox : Inbox) (file : OutputFile) :
    (start p inbox file).transfer.processed = [] := by
  rw [start, if_neg h₀]

lemma run_endsWell_iff (h₀ : p.byteCount ≠ 0) (inbox : Inbox) (file : OutputFile) (ticks : List Tick) :
    EndsWell settings p (start p inbox file) ticks ↔ Completes p (received settings p (start p inbox file) ticks) ∧
      Agree p settings.detectOverlapConflict (received settings p (start p inbox file) ticks) := by
  have h := runFrom_endsWell_iff h₀ ticks (start_running settings h₀ inbox file)
  rwa [start_processed h₀, List.nil_append] at h

lemma run_processed (h₀ : p.byteCount ≠ 0) {inbox : Inbox} {file : OutputFile} {ticks rest : List Tick}
    {r : StreamDownloadResult} (hr : run settings p inbox file ticks = some (r, s, rest)) (hs : r.success = true) :
    s.transfer.processed = received settings p (start p inbox file) ticks := by
  have h := runFrom_processed h₀ hr hs (start_running settings h₀ inbox file)
  rwa [start_processed h₀, List.nil_append] at h

end StreamDownload

end MavlinkLogService.Session
