import MavlinkLogService.Session.StreamDownload

/-! Every streaming session ends: how often an attempt begins, how often the inactivity clock is
renewed, and how many looks at the environment the session takes at most. -/

namespace MavlinkLogService.Session

open Library.Intervals

def Stale (p : Params) (r : ReceivedRanges) (chunk : LogDataChunk) : Prop :=
  ∀ x, chunk.offset.toNat ≤ x → x < chunk.offset.toNat + writeLen p chunk → Covered r.ranges x

section

variable {settings : DownloadSettings} {p : Params} {chunk : LogDataChunk}

namespace Transfer

lemma processChunk_ranges (settings : DownloadSettings) (p : Params) (chunk : LogDataChunk) (t : Transfer) :
    (t.processChunk settings p chunk).1.ranges = t.ranges ∨
      writeLen p chunk ≠ 0 ∧
        (t.processChunk settings p chunk).1.ranges = t.ranges.add chunk.offset.toNat (writeLen p chunk) := by
  by_cases hn : writeLen p chunk = 0
  · left
    rw [processChunk, if_pos hn]
  · simp only [processChunk, if_neg hn]
    split_ifs
    · right
      exact ⟨hn, by simp⟩
    · left
      simp

lemma processChunk_bounded {t : Transfer} (hp : p.byteOffset + p.byteCount ≤ 2 ^ 32 - 256)
    (hc : chunk.count < 256) (h : t.ranges.Bounded p.byteOffset (p.byteOffset + p.byteCount)) :
    (t.processChunk settings p chunk).1.ranges.Bounded p.byteOffset (p.byteOffset + p.byteCount) := by
  rcases processChunk_ranges settings p chunk t with hr | ⟨hn, hr⟩
  · rwa [hr]
  · obtain ⟨hlo, hhi⟩ := writeLen_window hp hc hn
    rw [hr]
    exact ReceivedRanges.bounded_add h hlo hhi (by omega)

lemma processChunk_stale {t : Transfer} {r : ReceivedRanges} (hp : p.byteOffset + p.byteCount ≤ 2 ^ 32 - 256)
    (hc : chunk.count < 256) (hs : Stale p r chunk) (h : ∀ x, Covered t.ranges.ranges x → Covered r.ranges x) :
    ∀ x, Covered (t.processChunk settings p chunk).1.ranges.ranges x → Covered r.ranges x := by
  intro x hx
  rcases processChunk_ranges settings p chunk t with hr | ⟨hn, hr⟩
  · rw [hr] at hx
    exact h x hx
  · obtain ⟨hlo, hhi⟩ := writeLen_window hp hc hn
    rw [hr] at hx
    rcases (ReceivedRanges.covered_add (by omega)).mp hx with hx | hx
    · exact h x hx
    · exact hs x hx.1 hx.2

end Transfer

end

def Phase.returned : Phase → Bool
  | .done _ => true
  | _ => false

namespace StreamDownload

def visited (settings : DownloadSettings) (p : Params) :
    StreamDownload → List Tick → List (StreamDownload × Tick)
  | _, [] => []
  | s, tick :: ticks =>
    if s.phase.returned then [] else (s, tick) :: visited settings p (step settings p s tick) ticks

def beginsAttempt (settings : DownloadSettings) (s : StreamDownload) : Bool :=
  s.phase = .attempt && s.attempt ≤ settings.retryCount

def renewsClock (settings : DownloadSettings) (p : Params) (s : StreamDownload) : Bool :=
  match s.phase with
  | .attempt => s.attempt ≤ settings.retryCount && !s.inbox.cancelRequested &&
      (s.transfer.ranges.bytesReceived = 0 || 0 < s.attempt)
  | .poll => !s.inbox.cancelRequested && (processQueuedChunks settings p s).2 &&
      s.lastProgressBytes < (processQueuedChunks settings p s).1.transfer.ranges.bytesReceived
  | _ => false

def nextReading (tick : Tick) (s s' : StreamDownload) : ℤ :=
  if s.phase = .poll then (if s'.phase = .poll then tick.nowIdle + 1 else tick.nowIdle) else tick.now

def Clocked (settings : DownloadSettings) (p : Params) : ℤ → StreamDownload → List Tick → Prop
  | _, _, [] => True
  | last, s, tick :: ticks =>
    s.phase.returned = false → last ≤ tick.now ∧ (s.phase = .poll → tick.now ≤ tick.nowIdle) ∧
      Clocked settings p (nextReading tick s (step settings p s tick)) (step settings p s tick) ticks

instance decidableClocked (settings : DownloadSettings) (p : Params) :
    ∀ (last : ℤ) (s : StreamDownload) (ticks : List Tick), Decidable (Clocked settings p last s ticks)
  | _, _, [] => isTrue trivial
  | last, s, tick :: ticks =>
    have := decidableClocked settings p (nextReading tick s (step settings p s tick)) (step settings p s tick) ticks
    inferInstanceAs (Decidable (s.phase.returned = false → last ≤ tick.now ∧
      (s.phase = .poll → tick.now ≤ tick.nowIdle) ∧
      Clocked settings p (nextReading tick s (step settings p s tick)) (step settings p s tick) ticks))

def room (p : Params) (s : StreamDownload) : ℕ :=
  match s.phase with
  | .done _ => 0
  | _ => p.byteCount - s.lastProgressBytes

def pending (settings : DownloadSettings) (s : StreamDownload) : ℕ :=
  let attempts := (settings.retryCount + 1 - s.attempt).toNat + (settings.fcBusyRetryAttempts - s.fcBusyWaits).toNat
  match s.phase with
  | .attempt => attempts
  | .poll => attempts - 1
  | _ => 0

def timeout (settings : DownloadSettings) : ℕ := (settings.downloadTimeoutSec * 1000).toNat

def remaining (settings : DownloadSettings) (p : Params) (last : ℤ) (s : StreamDownload) : ℕ :=
  match s.phase with
  | .attempt => (room p s + pending settings s) * (timeout settings + 2) + 1
  | .poll => (room p s + pending settings s) * (timeout settings + 2) +
      (timeout settings - (last - s.lastDataTime)).toNat + 2
  | _ => 0

structure Noted (p : Params) (tick : Tick) (b : Bool) (s s' : StreamDownload) : Prop where
  received : s'.transfer.ranges.bytesReceived ≤ s'.lastProgressBytes
  bound : s'.lastProgressBytes ≤ p.byteCount
  renewed : b = true → s.lastProgressBytes < s'.lastProgressBytes ∧ s'.lastDataTime = tick.now
  quiet : b = false → s'.lastProgressBytes = s.lastProgressBytes ∧ s'.lastDataTime = s.lastDataTime

inductive Moved (settings : DownloadSettings) (p : Params) (tick : Tick) (b : Bool)
    (s s' : StreamDownload) : Prop
  | ended (r : StreamDownloadResult) (phase' : s'.phase = .done r)
      (quiet : b = false → s'.lastDataTime = s.lastDataTime)
  | begins (phase : s.phase = .attempt) (phase' : s'.phase = .poll) (within : s.attempt ≤ settings.retryCount)
      (attempt : s'.attempt = s.attempt) (waits : s'.fcBusyWaits = s.fcBusyWaits)
      (progress : s'.lastProgressBytes = s.lastProgressBytes)
      (ranges : s'.transfer.ranges = s.transfer.ranges) (time : s'.lastDataTime = tick.now)
      (renewed : b = true)
  | waits (phase : s.phase = .poll) (phase' : s'.phase = .attempt)
      (within : s.fcBusyWaits < settings.fcBusyRetryAttempts)
      (attempt : s'.attempt = s.attempt) (waits : s'.fcBusyWaits = s.fcBusyWaits + 1)
      (empty : s'.transfer.ranges.bytesReceived = 0) (noted : Noted p tick b s s')
  | retries (phase : s.phase = .poll) (phase' : s'.phase = .attempt) (attempt : s'.attempt = s.attempt + 1)
      (waits : s'.fcBusyWaits = s.fcBusyWaits) (noted : Noted p tick b s s')
  | polls (phase : s.phase = .poll) (phase' : s'.phase = .poll) (attempt : s'.attempt = s.attempt)
      (waits : s'.fcBusyWaits = s.fcBusyWaits) (noted : Noted p tick b s s')
      (early : tick.nowIdle - s'.lastDataTime < settings.downloadTimeoutSec * 1000)

structure Live (settings : DownloadSettings) (p : Params) (last : ℤ) (s : StreamDownload) : Prop where
  phase : s.phase = .attempt ∨ s.phase = .poll
  queue : ∀ c ∈ s.inbox.dataChunks, c.count < 256
  ranges : s.transfer.ranges.Bounded p.byteOffset (p.byteOffset + p.byteCount)
  received : s.transfer.ranges.bytesReceived ≤ s.lastProgressBytes
  bound : s.lastProgressBytes ≤ p.byteCount
  attempt : 0 ≤ s.attempt
  fresh : s.phase = .attempt → s.transfer.ranges.bytesReceived = 0 ∨ 0 < s.attempt
  begun : s.phase = .poll → s.attempt ≤ settings.retryCount
  clock : s.phase = .poll → s.lastDataTime ≤ last

section

variable {settings : DownloadSettings} {p : Params} {tick : Tick} {last : ℤ} {b : Bool} {s s₁ s' : StreamDownload}

structure Kept (s s' : StreamDownload) : Prop where
  transfer : s'.transfer = s.transfer
  progress : s'.lastProgressBytes = s.lastProgressBytes
  time : s'.lastDataTime = s.lastDataTime

lemma Noted.kept (h : Noted p tick b s s₁) (hk : Kept s₁ s') : Noted p tick b s s' := by
  refine ⟨?_, ?_, ?_, ?_⟩
  · rw [hk.transfer, hk.progress]
    exact h.received
  · rw [hk.progress]
    exact h.bound
  · rw [hk.progress, hk.time]
    exact h.renewed
  · rw [hk.progress, hk.time]
    exact h.quiet

lemma countStall_eq (s : StreamDownload) : ∃ n, s.countStall = { s with noProgressAttempts := n } := by
  rw [countStall]
  split_ifs
  · exact ⟨_, rfl⟩
  · exact ⟨s.noProgressAttempts, rfl⟩

lemma leaveAttempt_moved (hn : Noted p tick b s s₁) (hp : s.phase = .poll) (ha : s₁.attempt = s.attempt)
    (hw : s₁.fcBusyWaits = s.fcBusyWaits) : Moved settings p tick b s (s₁.leaveAttempt settings p) := by
  obtain ⟨n, hstall⟩ := countStall_eq s₁
  rw [leaveAttempt, hstall]
  split_ifs with hbusy hdone
  · exact .waits hp rfl (hw ▸ hbusy.2.2) ha (congrArg (· + 1) hw) hbusy.1 (hn.kept ⟨rfl, rfl, rfl⟩)
  · exact .ended _ rfl fun hb => (hn.quiet hb).2
  · exact .ended _ rfl fun hb => (hn.quiet hb).2
  · rw [nextAttempt]
    split_ifs
    · exact .retries hp rfl (congrArg (· + 1) ha) hw (hn.kept ⟨rfl, rfl, rfl⟩)
    · exact .retries hp rfl (congrArg (· + 1) ha) hw (hn.kept ⟨rfl, rfl, rfl⟩)

lemma startAttempt_moved (h : Live settings p last s) (hp : s.phase = .attempt) :
    Moved settings p tick (s.renewsClock settings p) s (s.startAttempt settings p tick) := by
  simp only [startAttempt]
  split_ifs with hlast hcancel hsend
  · refine .ended _ rfl fun _ => ?_
    simp only [finish, flushFile]
    split_ifs <;> rfl
  · exact .ended _ rfl fun _ => rfl
  · refine .begins hp rfl (not_lt.mp hlast) rfl rfl rfl rfl rfl ?_
    simp [renewsClock, hp, not_lt.mp hlast, hcancel, hsend]
  · exact absurd (h.fresh hp) hsend

lemma noteProgress_noted (tick : Tick) (hr : s₁.transfer.ranges.bytesReceived ≤ p.byteCount)
    (hb : s.lastProgressBytes ≤ p.byteCount) (hp : s₁.lastProgressBytes = s.lastProgressBytes)
    (ht : s₁.lastDataTime = s.lastDataTime) :
    Noted p tick (decide (s.lastProgressBytes < s₁.transfer.ranges.bytesReceived)) s (s₁.noteProgress tick) := by
  rw [noteProgress, hp]
  split_ifs with hlt
  · exact ⟨le_rfl, hr, fun _ => ⟨hlt, rfl⟩, fun hf => absurd hlt (of_decide_eq_false hf)⟩
  · exact ⟨hp ▸ not_lt.mp hlt, hp ▸ hb, fun h => absurd (of_decide_eq_true h) hlt, fun _ => ⟨hp, ht⟩⟩

lemma noteProgress_frame (tick : Tick) (s : StreamDownload) : (s.noteProgress tick).phase = s.phase ∧
    (s.noteProgress tick).attempt = s.attempt ∧ (s.noteProgress tick).fcBusyWaits = s.fcBusyWaits ∧
      (s.noteProgress tick).transfer = s.transfer := by
  rw [noteProgress]
  split_ifs <;> exact ⟨rfl, rfl, rfl, rfl⟩

lemma fillGaps_ends (settings : DownloadSettings) (tick : Tick)
    (hr : s.transfer.ranges.Bounded p.byteOffset (p.byteOffset + p.byteCount))
    (hw : p.byteOffset + p.byteCount ≤ 2 ^ 32 - 256) :
    ∃ trace gap, s.fillGaps settings p tick = some { s with trace := trace, lastGapRequest := gap } := by
  rw [fillGaps]
  split_ifs
  · obtain ⟨requests, hreq⟩ := requestMergedGaps_ends hr hw (Nat.le_add_left p.byteCount p.byteOffset)
    rw [hreq]
    exact ⟨_, _, rfl⟩
  · exact ⟨s.trace, s.lastGapRequest, rfl⟩

lemma processQueuedChunks_bounded (h : Live settings p last s) (hw : p.byteOffset + p.byteCount ≤ 2 ^ 32 - 256) :
    (processQueuedChunks settings p s).1.transfer.ranges.Bounded p.byteOffset (p.byteOffset + p.byteCount) := by
  have hd := Inbox.drain_chunks h.queue p.logId
  refine Transfer.processChunks_invariant (I := fun t => t.ranges.Bounded p.byteOffset (p.byteOffset + p.byteCount))
    (fun t c hc => Transfer.processChunk_bounded hw hc.2) hd.1 h.ranges

lemma poll_moved (h : Live settings p last s) (hp : s.phase = .poll)
    (hw : p.byteOffset + p.byteCount ≤ 2 ^ 32 - 256) :
    Moved settings p tick (s.renewsClock settings p) s (s.poll settings p tick) := by
  rw [poll]
  split_ifs with hcancel
  · have hb : s.renewsClock settings p = false := by simp [renewsClock, hp, hcancel]
    rw [hb]
    exact leaveAttempt_moved ⟨h.received, h.bound, by simp, fun _ => ⟨rfl, rfl⟩⟩ hp rfl rfl
  have hbounded := processQueuedChunks_bounded h hw
  have hb : s.renewsClock settings p = ((processQueuedChunks settings p s).2 &&
      decide (s.lastProgressBytes < (processQueuedChunks settings p s).1.transfer.ranges.bytesReceived)) := by
    simp [renewsClock, hp, hcancel]
  have hsame : ((processQueuedChunks settings p s).1.phase = .poll ∧
      (processQueuedChunks settings p s).1.attempt = s.attempt ∧
      (processQueuedChunks settings p s).1.fcBusyWaits = s.fcBusyWaits) ∧
      (processQueuedChunks settings p s).1.lastProgressBytes = s.lastProgressBytes ∧
      (processQueuedChunks settings p s).1.lastDataTime = s.lastDataTime := ⟨⟨hp, rfl, rfl⟩, rfl, rfl⟩
  rw [hb]
  obtain ⟨⟨s₁, ok⟩, hs₁⟩ : ∃ x, processQueuedChunks settings p s = x := ⟨_, rfl⟩
  simp only [hs₁] at hbounded hsame ⊢
  obtain ⟨⟨hphase, hattempt, hwaits⟩, hprogress, htime⟩ := hsame
  cases ok with
  | false => exact .ended _ rfl fun _ => htime
  | true =>
    have hreceived : s₁.transfer.ranges.bytesReceived ≤ p.byteCount :=
      (ReceivedRanges.bytesReceived_le hbounded (by omega)).trans (by omega)
    have hnoted := noteProgress_noted tick hreceived h.bound hprogress htime
    obtain ⟨hphase₂, hattempt₂, hwaits₂, htransfer₂⟩ := noteProgress_frame tick s₁
    simp only [Bool.true_and]
    split_ifs with hdone
    · refine .ended _ rfl fun hf => ?_
      rw [← (hnoted.quiet hf).2]
      simp only [finish, flushFile]
      split_ifs <;> rfl
    · obtain ⟨trace, gap, hfill⟩ := fillGaps_ends settings tick (htransfer₂.symm ▸ hbounded) hw
      rw [hfill]
      simp only
      split_ifs with hlate
      · exact leaveAttempt_moved (hnoted.kept ⟨rfl, rfl, rfl⟩) hp (hattempt₂.trans hattempt) (hwaits₂.trans hwaits)
      · exact .polls hp (hphase₂.trans hphase) (hattempt₂.trans hattempt) (hwaits₂.trans hwaits)
          (hnoted.kept ⟨rfl, rfl, rfl⟩) (not_le.mp hlate)

lemma receives_small (tick : Tick) : tick.Receives (fun c => c.count < 256) := by
  intro m _ chunk hc
  obtain ⟨id, ofs, count, bytes, _, _, rfl⟩ := LogMessage.chunk_eq hc
  exact count.toNat_lt

lemma deliver_live (h : Live settings p last s) (tick : Tick) : Live settings p last (s.deliver settings tick) :=
  ⟨h.phase, Inbox.deliver_chunks settings h.queue (receives_small tick), h.ranges, h.received, h.bound,
    h.attempt, h.fresh, h.begun, h.clock⟩

lemma Noted.of_deliver (h : Noted p tick b (s.deliver settings tick) s') : Noted p tick b s s' :=
  ⟨h.received, h.bound, h.renewed, h.quiet⟩

lemma Moved.of_deliver (h : Moved settings p tick b (s.deliver settings tick) s') : Moved settings p tick b s s' := by
  cases h with
  | ended r phase' quiet => exact .ended r phase' quiet
  | begins phase phase' within attempt waits progress ranges time renewed =>
    exact .begins phase phase' within attempt waits progress ranges time renewed
  | waits phase phase' within attempt waits empty noted =>
    exact .waits phase phase' within attempt waits empty noted.of_deliver
  | retries phase phase' attempt waits noted => exact .retries phase phase' attempt waits noted.of_deliver
  | polls phase phase' attempt waits noted early =>
    exact .polls phase phase' attempt waits noted.of_deliver early

lemma step_moved (h : Live settings p last s) (hw : p.byteOffset + p.byteCount ≤ 2 ^ 32 - 256) (tick : Tick) :
    Moved settings p tick ((s.deliver settings tick).renewsClock settings p) s (s.step settings p tick) := by
  have hd := deliver_live h tick
  apply Moved.of_deliver
  rw [step, advance]
  rcases h.phase with hp | hp
  · have hp' : (s.deliver settings tick).phase = .attempt := hp
    rw [hp']
    exact startAttempt_moved hd hp'
  · have hp' : (s.deliver settings tick).phase = .poll := hp
    rw [hp']
    exact poll_moved hd hp' hw

lemma Moved.quiet (h : Moved settings p tick b s s') (hb : b = false) : s'.lastDataTime = s.lastDataTime := by
  cases h with
  | ended r phase' quiet => exact quiet hb
  | begins phase phase' within attempt waits progress ranges time renewed =>
    rw [hb] at renewed
    cases renewed
  | waits phase phase' within attempt waits empty noted => exact (noted.quiet hb).2
  | retries phase phase' attempt waits noted => exact (noted.quiet hb).2
  | polls phase phase' attempt waits noted early => exact (noted.quiet hb).2

lemma stale_quiet (h : Live settings p last s) (hw : p.byteOffset + p.byteCount ≤ 2 ^ 32 - 256) (hp : s.phase = .poll)
    (hs : ∀ c ∈ s.inbox.dataChunks, c.id = p.logId → Stale p s.transfer.ranges c) :
    s.renewsClock settings p = false := by
  have hd := Inbox.drain_chunks (Q := fun c => c.count < 256 ∧ (c.id = p.logId → Stale p s.transfer.ranges c))
    (fun c hc => ⟨h.queue c hc, hs c hc⟩) p.logId
  have hcovered : ∀ x, Covered (processQueuedChunks settings p s).1.transfer.ranges.ranges x →
      Covered s.transfer.ranges.ranges x :=
    Transfer.processChunks_invariant
      (I := fun t => ∀ x, Covered t.ranges.ranges x → Covered s.transfer.ranges.ranges x)
      (fun t c hc => Transfer.processChunk_stale hw hc.2.1 (hc.2.2 hc.1)) hd.1 fun x hx => hx
  have hle := ReceivedRanges.bytesReceived_mono (processQueuedChunks_bounded h hw) h.ranges (by omega) hcovered
  have hlt : ¬ s.lastProgressBytes < (processQueuedChunks settings p s).1.transfer.ranges.bytesReceived :=
    not_lt.mpr (hle.trans h.received)
  simp [renewsClock, hp, hlt]

lemma step_kept (h : Live settings p last s) (hw : p.byteOffset + p.byteCount ≤ 2 ^ 32 - 256) (tick : Tick) :
    (∀ c ∈ (s.step settings p tick).inbox.dataChunks, c.count < 256) ∧
      (s.step settings p tick).transfer.ranges.Bounded p.byteOffset (p.byteOffset + p.byteCount) := by
  have hk : Keeps settings p (fun c => c.count < 256)
      (fun t => t.ranges.Bounded p.byteOffset (p.byteOffset + p.byteCount)) :=
    ⟨fun t c _ hc => Transfer.processChunk_bounded hw hc, fun t ht => ht⟩
  have hrunning : ∀ r, s.phase ≠ .done r := by
    rintro r hr
    rcases h.phase with hp | hp <;> rw [hp] at hr <;> cases hr
  have hh := step_holds hk ⟨h.queue, h.ranges, fun r hr => absurd hr (hrunning r)⟩ (receives_small tick)
  exact ⟨hh.queue, hh.transfer⟩

lemma Noted.time_le (h : Noted p tick b s s') (hclock : last ≤ tick.now) (hs : s.lastDataTime ≤ last) :
    s'.lastDataTime ≤ tick.now := by
  cases b with
  | false => rw [(h.quiet rfl).2]; exact hs.trans hclock
  | true => rw [(h.renewed rfl).2]

lemma step_live (h : Live settings p last s) (hw : p.byteOffset + p.byteCount ≤ 2 ^ 32 - 256)
    (hclock : last ≤ tick.now) (hidle : s.phase = .poll → tick.now ≤ tick.nowIdle) :
    (∃ r, (s.step settings p tick).phase = .done r) ∨
      Live settings p (nextReading tick s (s.step settings p tick)) (s.step settings p tick) := by
  obtain ⟨hqueue, hranges⟩ := step_kept h hw tick
  have hattempt := h.attempt
  cases step_moved h hw tick with
  | ended r phase' quiet => exact Or.inl ⟨r, phase'⟩
  | begins phase phase' within attempt waits progress ranges time renewed =>
    right
    refine ⟨Or.inr phase', hqueue, hranges, ?_, ?_, ?_, ?_, ?_, ?_⟩
    · rw [ranges, progress]
      exact h.received
    · rw [progress]
      exact h.bound
    · rwa [attempt]
    · rw [phase']
      exact fun hp => by cases hp
    · rwa [attempt, imp_iff_right phase']
    · rw [time, nextReading, if_neg (by rw [phase]; exact fun hp => by cases hp)]
      exact fun _ => le_rfl
  | waits phase phase' within attempt waits empty noted =>
    right
    refine ⟨Or.inl phase', hqueue, hranges, noted.received, noted.bound, by rwa [attempt], fun _ => Or.inl empty,
      ?_, ?_⟩
    all_goals rw [phase']; exact fun hp => by cases hp
  | retries phase phase' attempt waits noted =>
    right
    refine ⟨Or.inl phase', hqueue, hranges, noted.received, noted.bound, by omega, fun _ => Or.inr (by omega), ?_, ?_⟩
    all_goals rw [phase']; exact fun hp => by cases hp
  | polls phase phase' attempt waits noted early =>
    right
    refine ⟨Or.inr phase', hqueue, hranges, noted.received, noted.bound, by rwa [attempt], ?_, ?_, ?_⟩
    · rw [phase']
      exact fun hp => by cases hp
    · rw [attempt]
      exact fun _ => h.begun phase
    · have ht := noted.time_le hclock (h.clock phase)
      have hn := hidle phase
      rw [nextReading, if_pos phase, if_pos phase']
      intro _
      omega

lemma Moved.pending_le (hm : Moved settings p tick b s s') (h : Live settings p last s) :
    (if s.beginsAttempt settings then 1 else 0) + s'.pending settings ≤ s.pending settings := by
  cases hm with
  | ended r phase' quiet =>
    have hp' : s'.pending settings = 0 := by simp only [pending, phase']
    rw [hp']
    split_ifs with hb
    · simp only [beginsAttempt, Bool.and_eq_true, decide_eq_true_eq] at hb
      simp only [pending, hb.1]
      omega
    · exact Nat.zero_le _
  | begins phase phase' within attempt waits progress ranges time renewed =>
    simp only [pending, phase, phase', attempt, waits]
    split_ifs <;> omega
  | waits phase phase' within attempt waits empty noted =>
    have hbegun := h.begun phase
    have hb : s.beginsAttempt settings = false := by simp [beginsAttempt, phase]
    simp only [pending, phase, phase', attempt, waits, hb, Bool.false_eq_true, if_false]
    omega
  | retries phase phase' attempt waits noted =>
    have hbegun := h.begun phase
    have hb : s.beginsAttempt settings = false := by simp [beginsAttempt, phase]
    simp only [pending, phase, phase', attempt, waits, hb, Bool.false_eq_true, if_false]
    omega
  | polls phase phase' attempt waits noted early =>
    have hb : s.beginsAttempt settings = false := by simp [beginsAttempt, phase]
    simp only [pending, phase, phase', attempt, waits, hb, Bool.false_eq_true, if_false]
    omega

lemma renewsClock_room (h : Live settings p last s) (hw : p.byteOffset + p.byteCount ≤ 2 ^ 32 - 256)
    (hb : s.renewsClock settings p = true) : s.beginsAttempt settings = true ∨ s.lastProgressBytes < p.byteCount := by
  rcases h.phase with hp | hp
  · simp only [renewsClock, hp, Bool.and_eq_true, decide_eq_true_eq] at hb
    exact Or.inl (by simp [beginsAttempt, hp, hb.1.1])
  · simp only [renewsClock, hp, Bool.and_eq_true, decide_eq_true_eq] at hb
    have hle := ReceivedRanges.bytesReceived_le (processQueuedChunks_bounded h hw) (by omega)
    exact Or.inr (by omega)

lemma room_eq (h : s.phase = .attempt ∨ s.phase = .poll) : s.room p = p.byteCount - s.lastProgressBytes := by
  rcases h with h | h <;> simp only [room, h]

lemma Noted.room_le (h : Noted p tick b s s') (hp : s.phase = .poll) (hp' : s'.phase = .attempt ∨ s'.phase = .poll) :
    (if b then 1 else 0) + s'.room p ≤ s.room p := by
  have hbound := h.bound
  rw [room_eq hp', room_eq (Or.inr hp)]
  cases b with
  | false => have hq := h.quiet rfl; simp only [Bool.false_eq_true, if_false]; omega
  | true => have hq := h.renewed rfl; simp only [if_true]; omega

lemma step_room (h : Live settings p last s) (hw : p.byteOffset + p.byteCount ≤ 2 ^ 32 - 256) (tick : Tick) :
    (if (s.deliver settings tick).renewsClock settings p then 1 else 0) + (s.step settings p tick).room p ≤
      s.room p + if s.beginsAttempt settings then 1 else 0 := by
  have hroom := renewsClock_room (deliver_live h tick) hw
  have hm := step_moved h hw tick
  generalize (s.deliver settings tick).renewsClock settings p = b at hroom hm ⊢
  cases hm with
  | ended r phase' quiet =>
    have hr : (s.step settings p tick).room p = 0 := by simp only [room, phase']
    rw [hr, room_eq h.phase]
    cases b with
    | false => simp
    | true =>
      rcases hroom rfl with hb | hb
      · have hb' : s.beginsAttempt settings = true := hb
        simp [hb']
      · have hb' : s.lastProgressBytes < p.byteCount := hb
        simp only [if_true]
        omega
  | begins phase phase' within attempt waits progress ranges time renewed =>
    have hb : s.beginsAttempt settings = true := by simp [beginsAttempt, phase, within]
    simp only [room, phase, phase', progress, hb, renewed, if_true]
    omega
  | waits phase phase' within attempt waits empty noted =>
    exact (noted.room_le phase (Or.inl phase')).trans (Nat.le_add_right _ _)
  | retries phase phase' attempt waits noted =>
    exact (noted.room_le phase (Or.inl phase')).trans (Nat.le_add_right _ _)
  | polls phase phase' attempt waits noted early =>
    exact (noted.room_le phase (Or.inr phase')).trans (Nat.le_add_right _ _)

lemma mul_step {m n : ℕ} (h : m < n) (k : ℕ) : m * k + k ≤ n * k := by
  rw [← Nat.succ_mul]
  exact Nat.mul_le_mul_right k h

lemma leave_remaining (hp : s.phase = .poll) (hp' : s'.phase = .attempt) (hroom : s'.room p ≤ s.room p)
    (hpending : s'.pending settings ≤ s.pending settings) {last' : ℤ} :
    s'.remaining settings p last' < s.remaining settings p last := by
  have hle : (s'.room p + s'.pending settings) * (timeout settings + 2) ≤
      (s.room p + s.pending settings) * (timeout settings + 2) := Nat.mul_le_mul_right _ (by omega)
  simp only [remaining, hp, hp']
  omega

lemma Moved.remaining_lt (hm : Moved settings p tick b s s') (h : Live settings p last s)
    (hroom : (if b then 1 else 0) + s'.room p ≤ s.room p + if s.beginsAttempt settings then 1 else 0)
    (hclock : last ≤ tick.now) (hidle : s.phase = .poll → tick.now ≤ tick.nowIdle) :
    s'.remaining settings p (nextReading tick s s') < s.remaining settings p last := by
  have hpending := hm.pending_le h
  cases hm with
  | ended r phase' quiet =>
    rcases h.phase with hp | hp <;> simp only [remaining, phase', hp] <;> omega
  | begins phase phase' within attempt waits progress ranges time renewed =>
    have hb : s.beginsAttempt settings = true := by simp [beginsAttempt, phase, within]
    rw [hb, if_pos rfl] at hpending
    rw [hb, if_pos renewed, if_pos rfl] at hroom
    have hstep := mul_step (m := s'.room p + s'.pending settings) (n := s.room p + s.pending settings)
      (by omega) (timeout settings + 2)
    have hnext : nextReading tick s s' - s'.lastDataTime = 0 := by
      rw [nextReading, if_neg (by rw [phase]; exact fun hp => by cases hp), time, sub_self]
    simp only [remaining, phase, phase', hnext, sub_zero, Int.toNat_natCast]
    omega
  | waits phase phase' within attempt waits empty noted =>
    exact leave_remaining phase phase' (by have := noted.room_le phase (Or.inl phase'); omega) (by omega)
  | retries phase phase' attempt waits noted =>
    exact leave_remaining phase phase' (by have := noted.room_le phase (Or.inl phase'); omega) (by omega)
  | polls phase phase' attempt waits noted early =>
    have hr := noted.room_le phase (Or.inr phase')
    have hn := hidle phase
    have ht := noted.time_le hclock (h.clock phase)
    have hnext : nextReading tick s s' = tick.nowIdle + 1 := by rw [nextReading, if_pos phase, if_pos phase']
    simp only [remaining, phase, phase', hnext]
    cases b with
    | true =>
      rw [if_pos rfl] at hr
      have hstep := mul_step (m := s'.room p + s'.pending settings) (n := s.room p + s.pending settings)
        (by omega) (timeout settings + 2)
      omega
    | false =>
      have htime := (noted.quiet rfl).2
      have hle : (s'.room p + s'.pending settings) * (timeout settings + 2) ≤
          (s.room p + s.pending settings) * (timeout settings + 2) := Nat.mul_le_mul_right _ (by omega)
      have hearly : tick.nowIdle - s.lastDataTime < timeout settings := by
        rw [← htime]
        exact early.trans_le (Int.self_le_toNat _)
      rw [htime]
      omega

lemma Live.running (h : Live settings p last s) : s.phase.returned = false := by
  rcases h.phase with hp | hp <;> rw [hp] <;> rfl

lemma runFrom_live (h : Live settings p last s) (tick : Tick) (ticks : List Tick) :
    runFrom settings p (tick :: ticks) s = runFrom settings p ticks (s.step settings p tick) := by
  rw [runFrom]
  rcases h.phase with hp | hp <;> rw [hp]

lemma visited_live (h : Live settings p last s) (tick : Tick) (ticks : List Tick) :
    visited settings p s (tick :: ticks) = (s, tick) :: visited settings p (s.step settings p tick) ticks := by
  rw [visited, h.running]
  rfl

lemma visited_done {r : StreamDownloadResult} (h : s.phase = .done r) (ticks : List Tick) :
    visited settings p s ticks = [] := by
  cases ticks with
  | nil => rfl
  | cons tick ticks => rw [visited, h]; rfl

lemma remaining_pos (h : Live settings p last s) : 0 < s.remaining settings p last := by
  rcases h.phase with hp | hp <;> simp only [remaining, hp] <;> omega

lemma runFrom_returns {ticks : List Tick} (h : Live settings p last s) (hw : p.byteOffset + p.byteCount ≤ 2 ^ 32 - 256)
    (hc : Clocked settings p last s ticks) (hn : s.remaining settings p last ≤ ticks.length) :
    (runFrom settings p ticks s).isSome = true := by
  induction ticks generalizing last s with
  | nil =>
    have hpos := remaining_pos h
    rw [List.length_nil] at hn
    omega
  | cons tick ticks ih =>
    obtain ⟨hclock, hidle, hrest⟩ := hc h.running
    have hlt := (step_moved h hw tick).remaining_lt h (step_room h hw tick) hclock hidle
    rw [runFrom_live h]
    rcases step_live h hw hclock hidle with ⟨r, hr⟩ | hlive
    · rw [runFrom_done ticks hr]
      rfl
    · rw [List.length_cons] at hn
      exact ih hlive hrest (by omega)

lemma live_visited {ticks : List Tick} (h : Live settings p last s) (hw : p.byteOffset + p.byteCount ≤ 2 ^ 32 - 256)
    (hc : Clocked settings p last s ticks) : ∀ x ∈ visited settings p s ticks, ∃ t, Live settings p t x.1 := by
  induction ticks generalizing last s with
  | nil => intro x hx; cases hx
  | cons tick ticks ih =>
    obtain ⟨hclock, hidle, hrest⟩ := hc h.running
    intro x hx
    rw [visited_live h] at hx
    rcases List.mem_cons.mp hx with rfl | hx
    · exact ⟨last, h⟩
    · rcases step_live h hw hclock hidle with ⟨r, hr⟩ | hlive
      · rw [visited_done hr] at hx
        cases hx
      · exact ih hlive hrest x hx

lemma visited_counts {ticks : List Tick} (h : Live settings p last s) (hw : p.byteOffset + p.byteCount ≤ 2 ^ 32 - 256)
    (hc : Clocked settings p last s ticks) :
    (visited settings p s ticks).countP (fun x => x.1.beginsAttempt settings) ≤ s.pending settings ∧
      (visited settings p s ticks).countP (fun x => (x.1.deliver settings x.2).renewsClock settings p) ≤
        s.room p + (visited settings p s ticks).countP (fun x => x.1.beginsAttempt settings) := by
  induction ticks generalizing last s with
  | nil => exact ⟨Nat.zero_le _, Nat.zero_le _⟩
  | cons tick ticks ih =>
    obtain ⟨hclock, hidle, hrest⟩ := hc h.running
    have hpending := (step_moved h hw tick).pending_le h
    have hroom := step_room h hw tick
    simp only [visited_live h, List.countP_cons]
    rcases step_live h hw hclock hidle with ⟨r, hr⟩ | hlive
    · rw [visited_done hr]
      simp only [List.countP_nil]
      omega
    · have hih := ih hlive hrest
      omega

end

lemma start_live {p : Params} (hz : p.byteCount ≠ 0) (settings : DownloadSettings) (inbox : Inbox) (file : OutputFile)
    (last : ℤ) : Live settings p last (start p inbox file) := by
  rw [start, if_neg hz]
  refine ⟨Or.inl rfl, ?_, ⟨?_, List.Pairwise.nil⟩, le_rfl, Nat.zero_le _, le_rfl, fun _ => Or.inl rfl, ?_, ?_⟩
  · simp [Inbox.clearDataChunks]
  · simp
  · exact fun h => by cases h
  · exact fun h => by cases h

theorem session_ends (settings : DownloadSettings) (p : Params) (inbox : Inbox) (file : OutputFile) (last : ℤ)
    (ticks : List Tick) (hw : p.byteOffset + p.byteCount ≤ 2 ^ 32 - 256)
    (hc : Clocked settings p last (start p inbox file) ticks) :
    let attempts := (settings.retryCount + 1).toNat + settings.fcBusyRetryAttempts.toNat
    let looks := visited settings p (start p inbox file) ticks
    let begun := looks.countP fun x => x.1.beginsAttempt settings
    ((p.byteCount + attempts) * (timeout settings + 2) + 1 ≤ ticks.length →
      (run settings p inbox file ticks).isSome = true) ∧
    begun ≤ attempts ∧
    looks.countP (fun x => (x.1.deliver settings x.2).renewsClock settings p) ≤ p.byteCount + begun ∧
    ∀ x ∈ looks,
      ((x.1.deliver settings x.2).renewsClock settings p = false →
        (x.1.step settings p x.2).lastDataTime = x.1.lastDataTime) ∧
      (x.1.phase = .poll →
        (∀ c ∈ (x.1.deliver settings x.2).inbox.dataChunks, c.id = p.logId → Stale p x.1.transfer.ranges c) →
        (x.1.deliver settings x.2).renewsClock settings p = false) := by
  intro attempts looks begun
  by_cases hz : p.byteCount = 0
  · obtain ⟨r, hr, _⟩ := start_empty hz inbox file
    have hlooks : looks = [] := visited_done hr ticks
    simp only [begun, hlooks, List.countP_nil]
    refine ⟨fun _ => ?_, Nat.zero_le _, Nat.zero_le _, fun x hx => by cases hx⟩
    rw [run, runFrom_done ticks hr]
    rfl
  · have hlive := start_live hz settings inbox file last
    have hroom : (start p inbox file).room p = p.byteCount := by
      rw [room_eq hlive.phase, start, if_neg hz]
      rfl
    have hpending : (start p inbox file).pending settings = attempts := by
      rw [start, if_neg hz]
      simp only [pending, attempts, sub_zero]
    have hcounts := visited_counts hlive hw hc
    rw [hroom, hpending] at hcounts
    refine ⟨fun hn => runFrom_returns hlive hw hc ?_, hcounts.1, hcounts.2, fun x hx => ?_⟩
    · have hphase : (start p inbox file).phase = .attempt := by rw [start, if_neg hz]
      rwa [remaining, hphase, hroom, hpending]
    · obtain ⟨t, ht⟩ := live_visited hlive hw hc x hx
      exact ⟨fun hb => (step_moved ht hw x.2).quiet hb, fun hp hs => stale_quiet (deliver_live ht x.2) hw hp hs⟩

def tinySettings : DownloadSettings := { retryCount := 1, fcBusyRetryAttempts := 1, downloadTimeoutSec := 0 }

def uselessTicks : List Tick :=
  [{ now := 1 }, { now := 1, nowIdle := 1, messages := [.logData 1 0 0 []] },
    { now := 2 }, { now := 2, nowIdle := 3, messages := [.logData 2 0 1 [7]] },
    { now := 4 }, { now := 4, nowIdle := 4, messages := [.logData 1 9 1 [7]] },
    { now := 5 }, { now := 5, nowIdle := 6 }, { now := 7 }]

theorem session_ends_useless :
    (run tinySettings ⟨1, 0, 1, 0, true⟩ {} {} uselessTicks).isSome = true ∧
      (visited tinySettings ⟨1, 0, 1, 0, true⟩ (start ⟨1, 0, 1, 0, true⟩ {} {}) uselessTicks).countP
        (fun x => x.1.beginsAttempt tinySettings) ≤ 3 := by
  have h := session_ends tinySettings ⟨1, 0, 1, 0, true⟩ {} {} 0 uselessTicks (by decide) (by decide +kernel)
  exact ⟨h.1 (by decide), h.2.1⟩

end StreamDownload

end MavlinkLogService.Session
