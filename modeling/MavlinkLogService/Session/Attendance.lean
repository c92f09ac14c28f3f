import MavlinkLogService.Session.Delivery
import MavlinkLogService.Session.Timeouts

/-! A session on an honest link: as long as it polls, it has taken every chunk of its log that came, and it stores
the log unless it times out. -/

namespace MavlinkLogService.Session

open Library Library.Intervals

def Tick.chunks (tick : Tick) : List LogDataChunk := tick.messages.filterMap LogMessage.chunk?

def Tick.chunksOf (id : UInt16) (tick : Tick) : List LogDataChunk := tick.chunks.filter fun c => c.id == id

def heard (f : ℕ → Tick) (id : UInt16) (k : ℕ) : List LogDataChunk := (slice f 0 k).flatMap (Tick.chunksOf id)

/-- Nothing but chunks of the log comes under its id, in any order and as often as it likes, not before the first
request, and in batches that the queue can hold. -/
structure Link (settings : DownloadSettings) (id : UInt16) (L : List UInt8) (f : ℕ → Tick) : Prop where
  flows : Flows f
  cancel : ∀ k, (f k).cancel = false
  fits : ∀ k, (f k).chunks.length ≤ queueCap settings
  first : (f 0).chunksOf id = []
  honest : ∀ k, (f k).chunksOf id ⊆ logChunks id L

section Heard

variable {f : ℕ → Tick} {id : UInt16} {k k' : ℕ}

lemma heard_succ (f : ℕ → Tick) (id : UInt16) (k : ℕ) : heard f id (k + 1) = heard f id k ++ (f k).chunksOf id := by
  rw [heard, ← slice_append (Nat.zero_le k) (Nat.le_succ k), List.flatMap_append,
    slice_cons (Nat.lt_succ_self k), slice_self]
  simp [heard]

lemma heard_subset (f : ℕ → Tick) (id : UInt16) (h : k ≤ k') : heard f id k ⊆ heard f id k' := by
  rw [heard, heard, ← slice_append (Nat.zero_le k) h, List.flatMap_append]
  exact List.subset_append_left _ _

lemma chunksOf_subset_heard (f : ℕ → Tick) (id : UInt16) (h : k < k') : (f k).chunksOf id ⊆ heard f id k' :=
  List.Subset.trans (by rw [heard_succ]; exact List.subset_append_right _ _) (heard_subset f id h)

lemma Link.heard_honest {settings : DownloadSettings} {L : List UInt8} (h : Link settings id L f) (k : ℕ) :
    heard f id k ⊆ logChunks id L := by
  intro c hc
  obtain ⟨tick, htick, hc⟩ := List.mem_flatMap.mp hc
  obtain ⟨n, rfl⟩ := mem_slice htick
  exact h.honest n hc

end Heard

section Queue

variable {settings : DownloadSettings} {inbox : Inbox}

lemma trim_keeps_batch {cap : ℕ} (old batch : List LogDataChunk) (h : batch.length ≤ cap) :
    ∃ old' ⊆ old, trimDataChunkQueue cap (old ++ batch) = old' ++ batch := by
  refine ⟨old.drop ((old ++ batch).length - cap), List.drop_subset _ old, List.drop_append_of_le_length ?_⟩
  rw [List.length_append]
  omega

lemma foldl_keeps_batch (inbox : Inbox) {ms : List LogMessage}
    (h : (ms.filterMap LogMessage.chunk?).length ≤ queueCap settings) :
    ∃ old ⊆ inbox.dataChunks,
      (ms.foldl (Inbox.onMessage settings) inbox).dataChunks = old ++ ms.filterMap LogMessage.chunk? := by
  induction ms using List.reverseRecOn with
  | nil => exact ⟨inbox.dataChunks, List.Subset.refl _, by simp⟩
  | append_singleton ms m ih =>
    rw [List.filterMap_append, List.length_append] at h
    obtain ⟨old, hold, hqueue⟩ := ih (by omega)
    rw [List.foldl_append, List.foldl_cons, List.foldl_nil, List.filterMap_append]
    cases hm : m.chunk? with
    | none =>
      refine ⟨old, hold, ?_⟩
      rw [Inbox.onMessage_silent settings _ hm, hqueue]
      simp [hm]
    | some chunk =>
      have hbatch : [m].filterMap LogMessage.chunk? = [chunk] := by simp [hm]
      rw [hbatch] at h ⊢
      rw [← List.length_append] at h
      obtain ⟨old', hold', htrim⟩ := trim_keeps_batch old (ms.filterMap LogMessage.chunk? ++ [chunk]) h
      refine ⟨old', List.Subset.trans hold' hold, ?_⟩
      rw [Inbox.onMessage_chunk settings _ hm, hqueue, ← htrim, List.append_assoc]

lemma deliver_keeps_batch (inbox : Inbox) {tick : Tick} (h : tick.chunks.length ≤ queueCap settings) :
    ∃ old ⊆ inbox.dataChunks, (inbox.deliver settings tick).dataChunks = old ++ tick.chunks := by
  obtain ⟨old, hold, hqueue⟩ := foldl_keeps_batch inbox h
  refine ⟨old, hold, ?_⟩
  rw [Inbox.deliver]
  split_ifs <;> exact hqueue

lemma deliver_cancel {tick : Tick} (ht : tick.cancel = false) (h : inbox.cancelRequested = false) :
    (inbox.deliver settings tick).cancelRequested = false := by
  have hkept : (tick.messages.foldl (Inbox.onMessage settings) inbox).cancelRequested = false := by
    refine List.foldlRecOn (motive := fun inbox : Inbox => inbox.cancelRequested = false) _ _ h fun inbox' h' m _ => ?_
    cases m with
    | logEntry entry => exact h'
    | logData id ofs count bytes =>
      rw [Inbox.onMessage]
      split_ifs <;> exact h'
  rw [Inbox.deliver, if_neg (by simp [ht])]
  exact hkept

end Queue

lemma ReceivedRanges.bytesReceived_strict {r r' : ReceivedRanges} {lo hi x : ℕ} (h : r.Bounded lo hi)
    (h' : r'.Bounded lo hi) (hhi : hi < 2 ^ 32) (hc : ∀ x, Covered r.ranges x → Covered r'.ranges x)
    (hx : Covered r'.ranges x) (hn : ¬ Covered r.ranges x) : r.bytesReceived < r'.bytesReceived := by
  rw [bytesReceived_eq h hhi, bytesReceived_eq h' hhi,
    ← separated_card h.separated fun q hq => (h.bounds q hq).2.1,
    ← separated_card h'.separated fun q hq => (h'.bounds q hq).2.1]
  have hsub : points r.ranges ⊆ points r'.ranges := fun y hy => mem_points.mpr (hc y (mem_points.mp hy))
  exact Finset.card_lt_card ((Finset.ssubset_iff_of_subset hsub).mpr
    ⟨x, mem_points.mpr hx, fun hmem => hn (mem_points.mp hmem)⟩)

section News

variable {settings : DownloadSettings} {p : Params} {L : List UInt8} {chunks more : List LogDataChunk}

lemma pieces_within (hofs : p.byteOffset = 0) (hn : p.byteCount = L.length) (hL : L.length < 2 ^ 31)
    (h : chunks ⊆ logChunks p.logId L) : ∀ a ∈ pieces p chunks, a.2 ≠ 0 → a.1 + a.2 ≤ p.byteCount := by
  intro a ha _
  obtain ⟨c, hc, rfl⟩ := List.mem_map.mp ha
  obtain ⟨k, hk, rfl⟩ := mem_logChunks.mp (h hc)
  simp only
  rw [logChunk_offset p.logId hL hk, writeLen_logChunk hofs (by omega) hL hk]
  omega

lemma received_first_iff (hofs : p.byteOffset = 0) (hn : p.byteCount = L.length) (hL : L.length < 2 ^ 31)
    (h : chunks ⊆ logChunks p.logId L) {k : ℕ} (hk : k < (L.length + 89) / 90) :
    Received (pieces p chunks) (90 * k) ↔ logChunk p.logId L k ∈ chunks := by
  constructor
  · rintro ⟨a, ha, hle, hlt⟩
    obtain ⟨c, hc, rfl⟩ := List.mem_map.mp ha
    obtain ⟨k', hk', rfl⟩ := mem_logChunks.mp (h hc)
    simp only at hle hlt
    rw [logChunk_offset p.logId hL hk'] at hle hlt
    rw [writeLen_logChunk hofs (by omega) hL hk'] at hlt
    obtain rfl : k' = k := by omega
    exact hc
  · intro hc
    refine ⟨_, List.mem_map_of_mem hc, ?_⟩
    simp only
    rw [logChunk_offset p.logId hL hk, writeLen_logChunk hofs (by omega) hL hk]
    omega

lemma bytesReceived_grows (chunks more : List LogDataChunk) (hofs : p.byteOffset = 0) (hn : p.byteCount = L.length)
    (hL : L.length < 2 ^ 31)
    (h : chunks ++ more ⊆ logChunks p.logId L) :
    (ReceivedRanges.ofAdds (pieces p chunks)).bytesReceived ≤
        (ReceivedRanges.ofAdds (pieces p (chunks ++ more))).bytesReceived ∧
      (¬ more ⊆ chunks → (ReceivedRanges.ofAdds (pieces p chunks)).bytesReceived <
        (ReceivedRanges.ofAdds (pieces p (chunks ++ more))).bytesReceived) := by
  have ht : p.byteCount < 2 ^ 32 := by omega
  have h' : chunks ⊆ logChunks p.logId L := fun c hc => h (List.mem_append_left more hc)
  have hin := pieces_within hofs hn hL h
  have hin' := pieces_within hofs hn hL h'
  have hmore : ∀ x, Covered (ReceivedRanges.ofAdds (pieces p chunks)).ranges x →
      Covered (ReceivedRanges.ofAdds (pieces p (chunks ++ more))).ranges x := by
    intro x hx
    rw [ReceivedRanges.ofAdds_covered ht hin'] at hx
    rw [ReceivedRanges.ofAdds_covered ht hin, pieces, List.map_append]
    obtain ⟨a, ha, hx⟩ := hx
    exact ⟨a, List.mem_append_left _ ha, hx⟩
  have hbounded := ReceivedRanges.ofAdds_bounded ht hin
  have hbounded' := ReceivedRanges.ofAdds_bounded ht hin'
  refine ⟨ReceivedRanges.bytesReceived_mono hbounded' hbounded ht hmore, fun hnews => ?_⟩
  obtain ⟨c, hc, hnew⟩ : ∃ c ∈ more, c ∉ chunks := by simpa [List.subset_def] using hnews
  obtain ⟨k, hk, rfl⟩ := mem_logChunks.mp (h (List.mem_append_right chunks hc))
  refine ReceivedRanges.bytesReceived_strict (x := 90 * k) hbounded' hbounded ht hmore ?_ ?_
  · rw [ReceivedRanges.ofAdds_covered ht hin, received_first_iff hofs hn hL h hk]
    exact List.mem_append_right chunks hc
  · rw [ReceivedRanges.ofAdds_covered ht hin', received_first_iff hofs hn hL h' hk]
    exact hnew

end News

namespace StreamDownload

variable {settings : DownloadSettings} {p : Params} {s : StreamDownload} {tick : Tick} {last : ℤ}

def renewed (tick : Tick) (s : StreamDownload) (t : Transfer) : ℤ :=
  if s.lastProgressBytes < t.ranges.bytesReceived then tick.now else s.lastDataTime

inductive Asks (settings : DownloadSettings) (p : Params) (tick : Tick) (s s' : StreamDownload) : Prop
  | requests (requests : List (ℕ × ℕ)) (merged : requestMergedGaps s'.transfer.ranges p.byteCount = some requests)
      (trace : s'.trace = s.trace ++ requests.map fun q => .request (.data p.logId q.1 q.2))
      (time : s'.lastGapRequest = tick.nowIdle)
  | waits (time : s'.lastGapRequest = s.lastGapRequest)
      (early : tick.nowIdle - s'.lastDataTime < settings.gapFillIdleMs ∨
        s.lastGapRequest ≠ 0 ∧ tick.nowIdle - s.lastGapRequest < settings.gapFillIdleMs)

structure Continues (settings : DownloadSettings) (p : Params) (tick : Tick) (s : StreamDownload) (t : Transfer)
    (s' : StreamDownload) : Prop where
  phase : s'.phase = .poll
  transfer : s'.transfer = t
  inbox : s'.inbox = (s.inbox.drainLogDataChunks p.logId).2
  time : s'.lastDataTime = s.renewed tick t
  progress : s'.lastProgressBytes = max s.lastProgressBytes t.ranges.bytesReceived
  asks : Asks settings p tick s s'

lemma noteProgress_eq (tick : Tick) (s : StreamDownload) :
    (s.noteProgress tick).lastDataTime = s.renewed tick s.transfer ∧
      (s.noteProgress tick).lastProgressBytes = max s.lastProgressBytes s.transfer.ranges.bytesReceived ∧
      (s.noteProgress tick).trace = s.trace ∧ (s.noteProgress tick).lastGapRequest = s.lastGapRequest := by
  rw [noteProgress, renewed]
  split_ifs with h
  · exact ⟨rfl, (max_eq_right h.le).symm, rfl, rfl⟩
  · exact ⟨rfl, (max_eq_left (not_lt.mp h)).symm, rfl, rfl⟩

lemma fillGaps_asks (settings : DownloadSettings) (tick : Tick)
    (hr : s.transfer.ranges.Bounded p.byteOffset (p.byteOffset + p.byteCount))
    (hw : p.byteOffset + p.byteCount ≤ 2 ^ 32 - 256) (hincomplete : s.transfer.ranges.complete p.byteCount = false) :
    ∃ trace gap, s.fillGaps settings p tick = some { s with trace := trace, lastGapRequest := gap } ∧
      Asks settings p tick s { s with trace := trace, lastGapRequest := gap } := by
  rw [fillGaps]
  split_ifs with hdue
  · obtain ⟨requests, hreq⟩ := requestMergedGaps_ends hr hw (Nat.le_add_left p.byteCount p.byteOffset)
    rw [hreq]
    exact ⟨_, _, rfl, .requests requests hreq rfl rfl⟩
  · refine ⟨s.trace, s.lastGapRequest, rfl, .waits rfl ?_⟩
    simp only [hincomplete, Bool.not_false, Bool.true_and, Bool.and_eq_true, decide_eq_true_eq, not_and_or,
      Bool.or_eq_true, beq_iff_eq, not_or, not_le] at hdue
    exact hdue

lemma poll_continues (h : Live settings p last s) (hw : p.byteOffset + p.byteCount ≤ 2 ^ 32 - 256)
    (hp : s.phase = .poll) (hc : s.inbox.cancelRequested = false) {t : Transfer}
    (ht : s.transfer.processChunks settings p (s.inbox.drainLogDataChunks p.logId).1 = (t, true))
    (hincomplete : t.ranges.complete p.byteCount = false)
    (hearly : tick.nowIdle - s.renewed tick t < settings.downloadTimeoutSec * 1000) :
    Continues settings p tick s t (s.poll settings p tick) := by
  have hqueued : s.processQueuedChunks settings p =
      ({ s with inbox := (s.inbox.drainLogDataChunks p.logId).2, transfer := t }, true) := by
    simp only [processQueuedChunks, ht]
  have hbounded := processQueuedChunks_bounded h hw
  rw [hqueued] at hbounded
  rw [poll, if_neg (by simp [hc]), hqueued]
  simp only
  generalize hs₁ : { s with inbox := (s.inbox.drainLogDataChunks p.logId).2, transfer := t } = s₁ at hbounded ⊢
  obtain ⟨htransfer, hinbox, hphase⟩ := noteProgress_same tick s₁
  obtain ⟨htime, hprogress, htrace, hgap⟩ := noteProgress_eq tick s₁
  -- what the round has done so far, in terms of the state it began with
  have htransfer' : (s₁.noteProgress tick).transfer = t := by rw [htransfer, ← hs₁]
  have htime' : (s₁.noteProgress tick).lastDataTime = s.renewed tick t := by
    rw [htime, ← hs₁]
    rfl
  have hgap' : (s₁.noteProgress tick).lastGapRequest = s.lastGapRequest := by rw [hgap, ← hs₁]
  obtain ⟨trace, gap, hfill, hasks⟩ := fillGaps_asks settings tick
    (by rw [htransfer]; exact hbounded) hw (by rw [htransfer']; exact hincomplete)
  rw [if_neg (by rw [htransfer', hincomplete]; simp), hfill]
  simp only
  rw [if_neg (by rw [htime']; exact not_le.mpr hearly)]
  refine ⟨hphase.trans ?_, htransfer', hinbox.trans ?_, htime', hprogress.trans ?_, ?_⟩
  · rw [← hs₁]
    exact hp
  · rw [← hs₁]
  · rw [← hs₁]
  · cases hasks with
    | requests requests merged trace' time =>
      refine .requests requests merged (trace'.trans ?_) time
      rw [htrace, ← hs₁]
    | waits time early =>
      rw [hgap'] at time early
      exact .waits time early

variable {L : List UInt8} {f : ℕ → Tick} {k : ℕ}

structure Attends (settings : DownloadSettings) (p : Params) (f : ℕ → Tick) (k : ℕ) (s : StreamDownload) : Prop where
  live : Live settings p (f k).now s
  running : Running settings p s
  phase : s.phase = .poll
  cancel : s.inbox.cancelRequested = false
  queue : ∀ c ∈ s.inbox.dataChunks, c.id ≠ p.logId
  processed : s.transfer.processed = heard f p.logId k
  progress : s.lastProgressBytes = s.transfer.ranges.bytesReceived

lemma Attends.taken (h : Attends settings p f k s) (hf : Link settings p.logId L f) :
    s.taken settings p (f k) = (f k).chunksOf p.logId := by
  obtain ⟨old, hold, hqueue⟩ := deliver_keeps_batch s.inbox (hf.fits k)
  have hnone : old.filter (fun c => c.id == p.logId) = [] := by
    rw [List.filter_eq_nil_iff]
    intro c hc
    simpa using h.queue c (hold hc)
  rw [StreamDownload.taken, if_pos ⟨h.phase, deliver_cancel (hf.cancel k) h.cancel⟩]
  simp only [deliver, Inbox.drainLogDataChunks, hqueue, List.filter_append, hnone, List.nil_append]
  rfl

structure Stays (settings : DownloadSettings) (p : Params) (L : List UInt8) (f : ℕ → Tick) (k : ℕ)
    (s s' : StreamDownload) : Prop where
  attends : Attends settings p f (k + 1) s'
  missing : ¬ logChunks p.logId L ⊆ heard f p.logId (k + 1)
  asks : Asks settings p (f k) (s.deliver settings (f k)) s'
  news : ¬ (f k).chunksOf p.logId ⊆ heard f p.logId k → s'.lastDataTime = (f k).now
  time : s'.lastDataTime = (f k).now ∨ s'.lastDataTime = s.lastDataTime

lemma complete_of_heard {settings : DownloadSettings} (hf : Link settings p.logId L f) (hofs : p.byteOffset = 0)
    (hn : p.byteCount = L.length) (hL : L.length < 2 ^ 31)
    (h : (ReceivedRanges.ofAdds (pieces p (heard f p.logId k))).complete p.byteCount = true) :
    logChunks p.logId L ⊆ heard f p.logId k := by
  have hsub := hf.heard_honest k
  intro c hc
  obtain ⟨n, hlt, rfl⟩ := mem_logChunks.mp hc
  rw [← received_first_iff hofs hn hL hsub hlt]
  refine ReceivedRanges.received_of_covered (ReceivedRanges.complete_covered h ?_)
  omega

lemma Attends.step (h : Attends settings p f k s) (hf : Link settings p.logId L f) (hofs : p.byteOffset = 0)
    (hn : p.byteCount = L.length) (hL : L.length < 2 ^ 31) (h₀ : p.byteCount ≠ 0)
    (hearly : ¬ logChunks p.logId L ⊆ heard f p.logId k →
      (f k).nowIdle - s.lastDataTime < settings.downloadTimeoutSec * 1000) :
    (∃ r, (s.step settings p (f k)).phase = .done r ∧ r.success = true) ∨
      Stays settings p L f k s (s.step settings p (f k)) := by
  have hw : p.byteOffset + p.byteCount ≤ 2 ^ 32 - 256 := by omega
  have hall : s.transfer.processed ++ s.taken settings p (f k) = heard f p.logId (k + 1) := by
    rw [h.processed, h.taken hf, heard_succ]
  have hsub := hf.heard_honest (k + 1)
  have hok : (s.transfer.processChunks settings p (s.taken settings p (f k))).2 = true := by
    rw [processChunks_accepts_iff h.running.accounted, hall]
    exact logChunks_agree hL hsub _
  by_cases hc : Completes p (s.transfer.processed ++ s.taken settings p (f k))
  · exact Or.inl ((step_took h₀ h.running hok).completes hc)
  right
  obtain ⟨t, ht, hprocessed, haccounted⟩ := taken_accepted h.running hok
  rw [hall] at hprocessed hc
  rw [completes_iff hofs hn hL h₀ hsub] at hc
  have hranges : t.ranges.complete p.byteCount = false := by
    rw [Bool.eq_false_iff, haccounted.ranges, hprocessed]
    exact fun hfull => hc (complete_of_heard hf hofs hn hL hfull)
  -- the clock: less than a timeout has passed since the last data
  have hmissing : ¬ logChunks p.logId L ⊆ heard f p.logId k :=
    fun hsub' => hc (List.Subset.trans hsub' (heard_subset f _ (Nat.le_succ k)))
  have hsoon : (f k).nowIdle - (s.deliver settings (f k)).renewed (f k) t < settings.downloadTimeoutSec * 1000 := by
    have hlast := h.live.clock h.phase
    have hlate := hearly hmissing
    rw [renewed]
    split_ifs
    · omega
    · exact hlate
  have hphase : (s.deliver settings (f k)).phase = .poll := h.phase
  have hcancel : (s.deliver settings (f k)).inbox.cancelRequested = false := deliver_cancel (hf.cancel k) h.cancel
  rw [StreamDownload.taken, if_pos ⟨h.phase, hcancel⟩] at ht
  have hgoes := poll_continues (deliver_live h.live (f k)) hw hphase hcancel ht hranges hsoon
  have hstep : s.step settings p (f k) = (s.deliver settings (f k)).poll settings p (f k) := by
    rw [StreamDownload.step, advance, hphase]
  rw [← hstep] at hgoes
  have hrunning : ∀ r, (s.step settings p (f k)).phase ≠ .done r := by simp [hgoes.phase]
  -- the progress: the bytes received have grown if the chunks bring something new
  have hbytes := bytesReceived_grows (heard f p.logId k) ((f k).chunksOf p.logId) hofs hn hL
    (by rwa [← heard_succ])
  rw [← heard_succ, ← hprocessed, ← h.processed, ← h.running.accounted.ranges, ← haccounted.ranges] at hbytes
  have hold : (s.deliver settings (f k)).lastProgressBytes = s.transfer.ranges.bytesReceived := h.progress
  refine ⟨⟨?_, ⟨hrunning, ?_, ?_⟩, hgoes.phase, ?_, ?_, ?_, ?_⟩, hc, hgoes.asks, ?_, ?_⟩
  · rcases step_outlook hf.flows h.live hw with ⟨r, hr⟩ | ⟨hlive, _⟩
    · exact absurd hr (hrunning r)
    · exact hlive
  · rw [hgoes.transfer]
    exact haccounted
  · rw [hgoes.transfer, Transfer.isComplete, hranges, Bool.false_and]
  · rw [hgoes.inbox]
    exact hcancel
  · rw [hgoes.inbox]
    intro c hc
    simpa using (List.mem_filter.mp hc).2
  · rw [hgoes.transfer, hprocessed]
  · rw [hgoes.progress, hgoes.transfer, hold]
    exact max_eq_right hbytes.1
  · intro hnews
    rw [← h.processed] at hnews
    rw [hgoes.time, renewed, hold, if_pos (hbytes.2 hnews)]
  · rw [hgoes.time, renewed]
    exact ite_eq_or_eq _ _ _

lemma start_begins (h₀ : p.byteCount ≠ 0) (hretry : 0 ≤ settings.retryCount) {inbox : Inbox}
    (hc : inbox.cancelRequested = false) (ht : tick.cancel = false) (file : OutputFile) :
    ((start p inbox file).deliver settings tick).inbox.cancelRequested = false ∧
      (start p inbox file).step settings p tick =
        { (start p inbox file).deliver settings tick with
          phase := .poll
          zeroLenBefore := ((start p inbox file).deliver settings tick).inbox.zeroLengthDataCount
          trace := ((start p inbox file).deliver settings tick).trace ++
            [.request (.data p.logId p.byteOffset logStreamRequestCount)]
          lastDataTime := tick.now } := by
  have hcancel : ((start p inbox file).deliver settings tick).inbox.cancelRequested = false := by
    refine deliver_cancel ht ?_
    rw [start, if_neg h₀]
    exact hc
  have hphase : ((start p inbox file).deliver settings tick).phase = .attempt := by
    rw [start, if_neg h₀]
    rfl
  refine ⟨hcancel, ?_⟩
  rw [StreamDownload.step, advance, hphase]
  simp only [startAttempt, hcancel]
  simp [start, h₀, deliver, not_lt.mpr hretry, ReceivedRanges.bytesReceived]

lemma start_attends (hf : Link settings p.logId L f) (h₀ : p.byteCount ≠ 0)
    (hw : p.byteOffset + p.byteCount ≤ 2 ^ 32 - 256)
    (hretry : 0 ≤ settings.retryCount) {inbox : Inbox} (hc : inbox.cancelRequested = false) (file : OutputFile) :
    Attends settings p f 1 ((start p inbox file).step settings p (f 0)) := by
  have hqueue : ∀ c ∈ ((start p inbox file).deliver settings (f 0)).inbox.dataChunks, c.id ≠ p.logId := by
    obtain ⟨old, hold, hqueue⟩ := deliver_keeps_batch (start p inbox file).inbox (hf.fits 0)
    have hnone : old = [] := by
      rw [start, if_neg h₀] at hold
      exact List.subset_nil.mp hold
    intro c hmem
    rw [deliver, hqueue, hnone, List.nil_append] at hmem
    simpa using (List.filter_eq_nil_iff.mp hf.first) c hmem
  have htransfer : (start p inbox file).transfer = { file := file, coverage := .create p.byteCount } := by
    rw [start, if_neg h₀]
  have hrunning := start_running settings h₀ inbox file
  have hlive := step_outlook hf.flows (start_live h₀ settings inbox file (f 0).now) hw
  obtain ⟨hcancel, hbegin⟩ := start_begins h₀ hretry hc (hf.cancel 0) file
  rw [hbegin] at hlive ⊢
  refine ⟨?_, ⟨by simp, hrunning.accounted, hrunning.incomplete⟩, rfl, hcancel, hqueue, ?_, ?_⟩
  · rcases hlive with ⟨r, hr⟩ | ⟨hlive, _⟩
    · cases hr
    · exact hlive
  · simp only [deliver, htransfer]
    rw [heard_succ, hf.first]
    rfl
  · simp only [deliver, start, if_neg h₀]
    rfl

lemma runFrom_invariant_succeeds {J : ℕ → StreamDownload → Prop} (hJ : ∀ k s, J k s → ∀ r, s.phase ≠ .done r)
    (hstep : ∀ k s, J k s → (∃ r, (s.step settings p (f k)).phase = .done r ∧ r.success = true) ∨
      J (k + 1) (s.step settings p (f k)))
    {k k' : ℕ} {s s' : StreamDownload} (h : J k s) {r : StreamDownloadResult} {rest : List Tick}
    (hr : runFrom settings p (slice f k k') s = some (r, s', rest)) : r.success = true := by
  induction hd : k' - k generalizing k s with
  | zero =>
    have hnone : slice f k k' = [] := List.eq_nil_of_length_eq_zero (by rw [length_slice, hd])
    rw [hnone, runFrom_nil (hJ k s h)] at hr
    cases hr
  | succ d ih =>
    rw [slice_cons (by omega), runFrom_running (hJ k s h)] at hr
    rcases hstep k s h with ⟨r', hphase, hok⟩ | hnext
    · rw [runFrom_done _ hphase] at hr
      simp only [Option.some.injEq, Prod.mk.injEq] at hr
      rw [← hr.1]
      exact hok
    · exact ih hnext hr (by omega)

end StreamDownload

open StreamDownload

section

variable {settings : DownloadSettings} {p : Params} {L : List UInt8} {f : ℕ → Tick} {inbox : Inbox} {file : OutputFile}

lemma logChunk_chunkOf (id : UInt16) (hL : L.length < 2 ^ 31) {c : LogDataChunk} (h : c ∈ logChunks id L) :
    ChunkOf L c := by
  obtain ⟨k, hk, rfl⟩ := mem_logChunks.mp h
  refine ⟨rfl, ?_, ?_⟩
  · intro i hi hin
    rw [logChunk_offset id hL hk] at hin ⊢
    rw [logChunk_count] at hi
    simp only [logChunk, logChunkSize]
    rw [List.getElem?_take, if_pos (by omega), List.getElem?_drop]
  · intro hofs
    rw [logChunk_count]
    omega

lemma Link.receives (hf : Link settings p.logId L f) (hL : L.length < 2 ^ 31) (k : ℕ) :
    (f k).Receives fun c => c.id = p.logId → ChunkOf L c := by
  intro m hm c hchunk hid
  refine logChunk_chunkOf p.logId hL (hf.honest k ?_)
  exact List.mem_filter.mpr ⟨List.mem_filterMap.mpr ⟨m, hm, hchunk⟩, by simpa using hid⟩

lemma link_stores {J : ℕ → StreamDownload → Prop} (hf : Link settings p.logId L f) (hp : WholeLog L p)
    (hw : p.writeFile = true) (h₀ : L ≠ []) (hL : L.length < 2 ^ 31) (hfile : file.Reliable) (hnew : file.content = [])
    (hJ : ∀ k s, J k s → ∀ r, s.phase ≠ .done r) (hstart : J 1 ((start p inbox file).step settings p (f 0)))
    (hstep : ∀ k s, J k s → (∃ r, (s.step settings p (f k)).phase = .done r ∧ r.success = true) ∨
      J (k + 1) (s.step settings p (f k))) :
    ∃ n r s, (∀ more, run settings p inbox file (slice f 0 n ++ more) = some (r, s, more)) ∧ r.success = true ∧
      s.transfer.file.content = L := by
  have hne : p.byteCount ≠ 0 := hp.nonempty h₀
  have hphase := (start_running settings hne inbox file).phase
  obtain ⟨r, s, n, _, hrun⟩ := run_ends settings hf.flows (by rw [hp.offset, hp.count]; omega) inbox file 0
  have hreturns := hrun []
  rw [List.append_nil] at hreturns
  have hpos : 0 < n := by
    rcases Nat.eq_zero_or_pos n with rfl | hpos
    · rw [slice_self, run, runFrom_nil hphase] at hreturns
      cases hreturns
    · exact hpos
  have hok : r.success = true := by
    rw [run, slice_cons hpos, runFrom_running hphase] at hreturns
    exact runFrom_invariant_succeeds hJ hstep hstart hreturns
  have hreceives : ∀ tick ∈ slice f 0 n, tick.Receives fun c => c.id = p.logId → ChunkOf L c := by
    intro tick htick
    obtain ⟨k, rfl⟩ := mem_slice htick
    exact hf.receives hL k
  obtain ⟨hstored, hdone⟩ := run_completed (keeps_stored settings hp hw) (stored_start hfile hnew _)
    hreceives hreturns hok
  exact ⟨n, r, s, hrun, hok, stored_complete hstored (hp.count ▸ hdone.complete)⟩

def script (period : ℕ) (messages : List (List LogMessage)) (k : ℕ) : Tick :=
  { messages := messages.getD k [], now := period * k, nowIdle := period * k }

variable {period : ℕ} {messages : List (List LogMessage)} {id : UInt16}

lemma script_late {k : ℕ} (hk : messages.length ≤ k) : (script period messages k).messages = [] := by
  simp [script, hk]

lemma script_link (hperiod : 0 < period)
    (hfits : ∀ k < messages.length, (script period messages k).chunks.length ≤ queueCap settings)
    (hfirst : (script period messages 0).chunksOf id = [])
    (hhonest : ∀ k < messages.length, (script period messages k).chunksOf id ⊆ logChunks id L) :
    Link settings id L (script period messages) := by
  have hlate : ∀ {k}, ¬ k < messages.length → (script period messages k).chunks = [] := fun hk => by
    rw [Tick.chunks, script_late (not_lt.mp hk), List.filterMap_nil]
  refine ⟨⟨fun k => le_rfl, fun k => ?_, fun t => ⟨t.toNat, ?_⟩⟩, fun _ => rfl, fun k => ?_, hfirst, fun k => ?_⟩
  · simp only [script]
    exact mul_le_mul_of_nonneg_left (by push_cast; omega) (by positivity)
  · simp only [script]
    nlinarith [t.self_le_toNat]
  · by_cases hk : k < messages.length
    · exact hfits k hk
    · rw [hlate hk]
      exact Nat.zero_le _
  · by_cases hk : k < messages.length
    · exact hhonest k hk
    · rw [Tick.chunksOf, hlate hk]
      exact List.nil_subset _

end

end MavlinkLogService.Session
