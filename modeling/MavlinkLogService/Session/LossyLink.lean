import MavlinkLogService.Session.Attendance

/-! The session and the flight controller over a link that loses chunks: the stream request and the gap-fill
requests together bring the whole log, if every round of requests gets one of the chunks it asks for through. -/

namespace MavlinkLogService.Session

open Library StreamDownload

namespace StreamDownload

def trail (settings : DownloadSettings) (p : Params) (s : StreamDownload) (f : ℕ → Tick) : ℕ → StreamDownload
  | 0 => s
  | k + 1 => (trail settings p s f k).step settings p (f k)

def requested : Action → Option (ℕ × ℕ)
  | .request (.data _ offset count) => some (offset, count)
  | _ => none

def sent (settings : DownloadSettings) (p : Params) (s : StreamDownload) (tick : Tick) : List (ℕ × ℕ) :=
  ((s.step settings p tick).trace.drop (s.deliver settings tick).trace.length).filterMap requested

end StreamDownload

/-- A link that may lose chunks, at a main loop that looks at it every `slack` milliseconds: of the chunks that a
round of requests asks for, at least one comes within `delay` milliseconds. -/
structure Lossy (settings : DownloadSettings) (p : Params) (L : List UInt8) (s₀ : StreamDownload) (slack delay : ℤ)
    (f : ℕ → Tick) : Prop where
  link : Link settings p.logId L f
  prompt : ∀ k, (f k).nowIdle - (f k).now ≤ slack
  regular : ∀ k, (f (k + 1)).nowIdle - (f k).nowIdle ≤ slack
  answers : ∀ k, sent settings p (trail settings p s₀ f k) (f k) ≠ [] →
    ∃ j > k, (f j).nowIdle - (f k).nowIdle ≤ delay ∧ ∃ c ∈ (f j).chunksOf p.logId,
      ∃ q ∈ sent settings p (trail settings p s₀ f k) (f k), q.1 ≤ c.offset.toNat ∧ c.offset.toNat < q.1 + q.2

section

variable {settings : DownloadSettings} {p : Params} {L : List UInt8} {f : ℕ → Tick} {slack delay : ℤ} {k : ℕ}
  {s s' s₀ : StreamDownload}

lemma sent_eq {tick : Tick} {requests : List (ℕ × ℕ)}
    (h : (s.step settings p tick).trace =
      (s.deliver settings tick).trace ++ requests.map fun q => .request (.data p.logId q.1 q.2)) :
    sent settings p s tick = requests := by
  rw [sent, h, List.drop_left, List.filterMap_map]
  exact List.filterMap_some

lemma sent_done {r : StreamDownloadResult} (h : s.phase = .done r) (tick : Tick) : sent settings p s tick = [] := by
  rw [sent, step_done h, List.drop_length, List.filterMap_nil]

lemma trail_done {r : StreamDownloadResult} {n : ℕ} (h : (trail settings p s₀ f n).phase = .done r) (hk : n ≤ k) :
    (trail settings p s₀ f k).phase = .done r := by
  induction k, hk using Nat.le_induction with
  | base => exact h
  | succ k _ ih =>
    rw [trail, step_done ih]
    exact ih

lemma requests_missing (hf : Link settings p.logId L f) (hp : WholeLog L p) (hL : L.length < 2 ^ 31)
    {requests : List (ℕ × ℕ)}
    (h : requestMergedGaps (ReceivedRanges.ofAdds (pieces p (heard f p.logId k))) p.byteCount = some requests)
    (hmissing : ¬ logChunks p.logId L ⊆ heard f p.logId k) :
    requests ≠ [] ∧ ∀ q ∈ requests, ∀ c ∈ logChunks p.logId L, q.1 ≤ c.offset.toNat → c.offset.toNat < q.1 + q.2 →
      c ∉ heard f p.logId k := by
  have hsub := hf.heard_honest k
  have hin := pieces_within hp.offset hp.count hL hsub
  have ht : p.byteCount ≤ 2 ^ 32 - 256 := by rw [hp.count]; omega
  have hsound : ∀ gap ∈ (ReceivedRanges.ofAdds (pieces p (heard f p.logId k))).gaps p.byteCount,
      gap.1 ≤ gapStart gap ∧ gapStart gap < gap.1 + gap.2 ∧ gap.1 + gap.2 ≤ p.byteCount :=
    fun gap hg => requests_sound ht hin hg
  rw [requestMergedGaps_eq fun gap hg => by have := hsound gap hg; omega] at h
  obtain rfl := Option.some.inj h
  refine ⟨?_, ?_⟩
  · obtain ⟨c, hc, hnew⟩ : ∃ c ∈ logChunks p.logId L, c ∉ heard f p.logId k := by
      simpa [List.subset_def] using hmissing
    obtain ⟨n, hn, rfl⟩ := mem_logChunks.mp hc
    rw [← received_first_iff hp.offset hp.count hL hsub hn] at hnew
    obtain ⟨gap, hg, _⟩ := (gaps_received (by omega) hin (90 * n)).mpr ⟨by rw [hp.count]; omega, hnew⟩
    exact List.ne_nil_of_mem (List.mem_map_of_mem hg)
  · intro q hq c hc h₁ h₂
    obtain ⟨gap, hg, rfl⟩ := List.mem_map.mp hq
    obtain ⟨n, hn, rfl⟩ := mem_logChunks.mp hc
    have hgap := hsound gap hg
    simp only [requestFor, logChunk_offset p.logId hL hn] at h₁ h₂
    rw [← received_first_iff hp.offset hp.count hL hsub hn]
    exact (gap_missing (by omega) hin hg (by omega) (by omega)).2

inductive Waiting (settings : DownloadSettings) (p : Params) (slack delay : ℤ) (f : ℕ → Tick) (k : ℕ)
    (s : StreamDownload) : Prop
  | quiet (soon : ∀ m < k, (f m).nowIdle < s.lastDataTime + slack + settings.gapFillIdleMs)
      (gap : s.lastGapRequest ≠ 0 → s.lastGapRequest ≤ s.lastDataTime + slack)
  | asked (r j : ℕ) (c : LogDataChunk) (before : r < k) (after : r < j)
      (time : (f r).nowIdle < s.lastDataTime + 2 * slack + settings.gapFillIdleMs)
      (answer : (f j).nowIdle - (f r).nowIdle ≤ delay) (comes : c ∈ (f j).chunksOf p.logId)
      (missing : c ∉ heard f p.logId (r + 1)) (nothing : heard f p.logId k ⊆ heard f p.logId (r + 1))

lemma Waiting.in_time (h : Waiting settings p slack delay f k s) (hk : 0 < k) (hf : Lossy settings p L s₀ slack delay f)
    (hdelay : 0 ≤ delay)
    (hroom : 2 * slack + settings.gapFillIdleMs + delay ≤ settings.downloadTimeoutSec * 1000) :
    (f k).nowIdle - s.lastDataTime < settings.downloadTimeoutSec * 1000 := by
  cases h with
  | quiet soon gap =>
    have hprev := soon (k - 1) (by omega)
    have hreg := hf.regular (k - 1)
    rw [Nat.sub_add_cancel hk] at hreg
    omega
  | asked r j c before after time answer comes missing nothing =>
    have hkj : k ≤ j := by
      by_contra hlt
      exact missing (nothing (chunksOf_subset_heard f _ (not_le.mp hlt) comes))
    have hle := hf.link.flows.idle_mono hkj
    simp only at hle
    omega

lemma Waiting.of_requests (hf : Lossy settings p L s₀ slack delay f) (hs : s = trail settings p s₀ f k)
    (requests : List (ℕ × ℕ))
    (htrace : (s.step settings p (f k)).trace =
      (s.deliver settings (f k)).trace ++ requests.map fun q => .request (.data p.logId q.1 q.2))
    (hmissing : requests ≠ [] ∧ ∀ q ∈ requests, ∀ c ∈ logChunks p.logId L, q.1 ≤ c.offset.toNat →
      c.offset.toNat < q.1 + q.2 → c ∉ heard f p.logId (k + 1))
    (htime : (f k).nowIdle < s'.lastDataTime + 2 * slack + settings.gapFillIdleMs) :
    Waiting settings p slack delay f (k + 1) s' := by
  have hsent := sent_eq htrace
  subst hs
  obtain ⟨j, hj, hanswer, c, hc, q, hq, h₁, h₂⟩ := hf.answers k (by rw [hsent]; exact hmissing.1)
  rw [hsent] at hq
  exact .asked k j c (Nat.lt_succ_self k) hj htime hanswer hc
    (hmissing.2 q hq c (hf.link.honest j hc) h₁ h₂) (List.Subset.refl _)

lemma Waiting.of_waits (hf : Lossy settings p L s₀ slack delay f)
    (hgap : s'.lastGapRequest ≠ 0 → s'.lastGapRequest ≤ s'.lastDataTime + slack) (hslack : 0 < slack)
    (hearly : (f k).nowIdle - s'.lastDataTime < settings.gapFillIdleMs ∨
      s'.lastGapRequest ≠ 0 ∧ (f k).nowIdle - s'.lastGapRequest < settings.gapFillIdleMs) :
    Waiting settings p slack delay f (k + 1) s' := by
  refine .quiet (fun m hm => ?_) hgap
  have hle := hf.link.flows.idle_mono (Nat.le_of_lt_succ hm)
  simp only at hle
  rcases hearly with hearly | ⟨hne, hearly⟩
  · omega
  · have := hgap hne
    omega

lemma Waiting.step (h : Waiting settings p slack delay f k s) (hk : 0 < k) (hf : Lossy settings p L s₀ slack delay f)
    (hp : WholeLog L p) (hL : L.length < 2 ^ 31) (hidle : 0 ≤ settings.gapFillIdleMs) (hslack : 0 < slack)
    (hs : s = trail settings p s₀ f k) (hgap : s.lastGapRequest ≠ 0 → s.lastGapRequest ≤ (f k).now)
    (hstays : Stays settings p L f k s (s.step settings p (f k))) :
    Waiting settings p slack delay f (k + 1) (s.step settings p (f k)) := by
  have hmissing : ∀ {requests},
      requestMergedGaps (s.step settings p (f k)).transfer.ranges p.byteCount = some requests →
      requests ≠ [] ∧ ∀ q ∈ requests, ∀ c ∈ logChunks p.logId L, q.1 ≤ c.offset.toNat → c.offset.toNat < q.1 + q.2 →
        c ∉ heard f p.logId (k + 1) := by
    intro requests hmerged
    rw [hstays.attends.running.accounted.ranges, hstays.attends.processed] at hmerged
    exact requests_missing hf.link hp hL hmerged hstays.missing
  have hgap' : (s.deliver settings (f k)).lastGapRequest = s.lastGapRequest := rfl
  have hprompt := hf.prompt k
  by_cases hnew : (s.step settings p (f k)).lastDataTime = (f k).now
  · cases hstays.asks with
    | requests requests merged trace time =>
      exact .of_requests hf hs requests trace (hmissing merged) (by rw [hnew]; omega)
    | waits time early =>
      rw [hgap'] at time early
      refine .of_waits hf ?_ hslack (by rwa [time])
      rw [time, hnew]
      exact fun hne => (hgap hne).trans (by omega)
  · -- nothing new: the reason for which the session was waiting stands, unless it asks now
    have hlast := hstays.time.resolve_left hnew
    have hstale : (f k).chunksOf p.logId ⊆ heard f p.logId k := by
      by_contra hnews
      exact hnew (hstays.news hnews)
    cases h with
    | quiet soon gap =>
      cases hstays.asks with
      | requests requests merged trace time =>
        refine .of_requests hf hs requests trace (hmissing merged) ?_
        have hprev := soon (k - 1) (by omega)
        have hreg := hf.regular (k - 1)
        rw [Nat.sub_add_cancel hk] at hreg
        rw [hlast]
        omega
      | waits time early =>
        rw [hgap'] at time early
        exact .of_waits hf (by rwa [time, hlast]) hslack (by rwa [time])
    | asked r j c before after time answer comes missing nothing =>
      refine .asked r j c (by omega) after (by rwa [hlast]) answer comes missing ?_
      rw [heard_succ]
      exact List.append_subset.mpr ⟨nothing, List.Subset.trans hstale nothing⟩

lemma asks_gap_le (hflows : Flows f) (hgap : s.lastGapRequest ≠ 0 → s.lastGapRequest ≤ (f k).now)
    (h : Asks settings p (f k) s s') (hne : s'.lastGapRequest ≠ 0) : s'.lastGapRequest ≤ (f (k + 1)).now := by
  have hnext := hflows.next k
  have hnow := hflows.idle k
  cases h with
  | requests requests merged trace time => rw [time]; exact hnext
  | waits time early =>
    rw [time] at hne ⊢
    have := hgap hne
    omega

end

structure Recovers (settings : DownloadSettings) (p : Params) (s₀ : StreamDownload) (slack delay : ℤ) (f : ℕ → Tick)
    (k : ℕ) (s : StreamDownload) : Prop where
  begun : 0 < k
  trail : s = trail settings p s₀ f k
  attends : Attends settings p f k s
  gap : s.lastGapRequest ≠ 0 → s.lastGapRequest ≤ (f k).now
  waiting : Waiting settings p slack delay f k s

theorem lossy_link_session_stores_the_log (settings : DownloadSettings) (hretry : 0 ≤ settings.retryCount)
    (hidle : 0 ≤ settings.gapFillIdleMs) (L : List UInt8) (h₀ : L ≠ []) (hL : L.length < 2 ^ 31) (p : Params)
    (hp : WholeLog L p) (hw : p.writeFile = true) (inbox : Inbox) (hc : inbox.cancelRequested = false)
    (file : OutputFile) (hf : file.Reliable) (hnew : file.content = []) (slack delay : ℤ) (hslack : 0 < slack)
    (hdelay : 0 ≤ delay) (hroom : 2 * slack + settings.gapFillIdleMs + delay ≤ settings.downloadTimeoutSec * 1000)
    (f : ℕ → Tick) (hlossy : Lossy settings p L (start p inbox file) slack delay f) :
    ∃ n r s, (∀ more, run settings p inbox file (slice f 0 n ++ more) = some (r, s, more)) ∧ r.success = true ∧
      s.transfer.file.content = L := by
  have hne : p.byteCount ≠ 0 := hp.nonempty h₀
  have hwindow : p.byteOffset + p.byteCount ≤ 2 ^ 32 - 256 := by
    rw [hp.offset, hp.count]
    omega
  have hflows := hlossy.link.flows
  have hbegin := (start_begins hne hretry hc (hlossy.link.cancel 0) file).2
  refine link_stores (J := Recovers settings p (start p inbox file) slack delay f) hlossy.link hp hw h₀ hL hf hnew
    (fun k s h => h.attends.running.phase) ?_ ?_
  · refine ⟨Nat.zero_lt_one, rfl, start_attends hlossy.link hne hwindow hretry hc file, ?_, ?_⟩
    · rw [hbegin]
      simp [start, hne, deliver]
    · -- the stream request asks for everything
      refine .of_requests (s := start p inbox file) hlossy rfl [(p.byteOffset, logStreamRequestCount)]
        (by rw [hbegin]; rfl) ⟨by simp, ?_⟩ ?_
      · intro q _ c _ _ _
        rw [heard_succ, hlossy.link.first]
        simp [heard]
      · have hprompt := hlossy.prompt 0
        rw [hbegin]
        simp only
        omega
  · intro k s h
    refine (h.attends.step hlossy.link hp.offset hp.count hL hne fun _ =>
      h.waiting.in_time h.begun hlossy hdelay hroom).imp_right fun hs => ?_
    refine ⟨Nat.succ_pos k, ?_, hs.attends, asks_gap_le (s := s.deliver settings (f k)) hflows h.gap hs.asks, ?_⟩
    · rw [StreamDownload.trail, ← h.trail]
    · exact h.waiting.step h.begun hlossy hp hL hidle hslack h.trail h.gap hs

def lossy : ℕ → Tick :=
  script 100 [[], [.logData 1 90 1 [1]], [], [], [], [], [], [], [.logData 1 0 90 (List.replicate 90 0)]]

lemma lossy_answers : Lossy {} ⟨1, 0, 91, 90, true⟩ twoChunkLog (start ⟨1, 0, 91, 90, true⟩ {} {}) 100 1000 lossy := by
  refine ⟨script_link (by decide) (by decide) (by decide) (by decide +kernel), fun k => ?_, fun k => ?_, fun k hk => ?_⟩
  · simp [lossy, script]
  · simp only [lossy, script]
    push_cast
    omega
  · have hdone : (trail {} ⟨1, 0, 91, 90, true⟩ (start ⟨1, 0, 91, 90, true⟩ {} {}) lossy 9).phase.returned = true := by
      decide +kernel
    have hlt : k < 9 := by
      by_contra hle
      cases hphase : (trail {} ⟨1, 0, 91, 90, true⟩ (start ⟨1, 0, 91, 90, true⟩ {} {}) lossy 9).phase with
      | done r => exact hk (sent_done (trail_done hphase (not_lt.mp hle)) _)
      | _ =>
        rw [hphase] at hdone
        cases hdone
    have hrounds : ∀ k < 9, sent {} ⟨1, 0, 91, 90, true⟩
        (trail {} ⟨1, 0, 91, 90, true⟩ (start ⟨1, 0, 91, 90, true⟩ {} {}) lossy k) (lossy k) ≠ [] → k = 0 ∨ k = 6 := by
      decide +kernel
    rcases hrounds k hlt hk with rfl | rfl
    · exact ⟨1, by decide, by decide, ⟨1, 90, 1, [1]⟩, by decide +kernel, (0, 4294967295), by decide +kernel, by decide⟩
    · exact ⟨8, by decide, by decide, ⟨1, 0, 90, List.replicate 90 0⟩, by decide +kernel, (0, 90), by decide +kernel,
        by decide⟩

theorem lossy_link_session_stores_the_log_lossy :
    ∃ n r s, (∀ more, run {} ⟨1, 0, 91, 90, true⟩ {} {} (slice lossy 0 n ++ more) = some (r, s, more)) ∧
      r.success = true ∧ s.transfer.file.content = twoChunkLog :=
  lossy_link_session_stores_the_log {} (by decide) (by decide) twoChunkLog (by decide) (by decide) ⟨1, 0, 91, 90, true⟩
    ⟨rfl, rfl, by decide⟩ rfl {} rfl {} ⟨rfl, fun _ => rfl⟩ rfl 100 1000 (by decide) (by decide) (by decide) lossy
    lossy_answers

end MavlinkLogService.Session
