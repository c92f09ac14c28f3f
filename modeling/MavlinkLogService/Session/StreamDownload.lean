import MavlinkLogService.Session.Transfer

/-! The streaming download session as a machine: one step is the head of an attempt or one round of
its polling loop, between two looks at the environment. -/

namespace MavlinkLogService.Session

structure StreamDownloadResult where
  success : Bool := false
  failure : ArchiveFailureReason := .none
  ranges : ReceivedRanges := {}
  sha256 : String := ""
  probeSha256 : String := ""
  probeBytes : ℤ := 0
  deriving DecidableEq, Repr

inductive Phase
  | attempt
  | poll
  | hung
  | done (result : StreamDownloadResult)
  deriving DecidableEq, Repr

structure StreamDownload where
  phase : Phase := .attempt
  inbox : Inbox
  transfer : Transfer
  noProgressAttempts : ℤ := 0
  lastProgressBytes : ℕ := 0
  lastDataTime : ℤ := 0
  lastGapRequest : ℤ := 0
  fcBusyWaits : ℤ := 0
  attempt : ℤ := 0
  before : ℕ := 0
  zeroLenBefore : ℕ := 0
  failure : ArchiveFailureReason := .none
  trace : List Action := []

def Phase.Unsuccessful (phase : Phase) : Prop := ∀ r, phase = .done r → r.success = false

def Transfer.flushed (p : Params) (t : Transfer) : Transfer :=
  if p.writeFile then { t with file := t.file.flush } else t

lemma Transfer.flushed_ranges (p : Params) (t : Transfer) : (t.flushed p).ranges = t.ranges := by
  rw [flushed]
  split_ifs <;> rfl

lemma Transfer.flushed_coverage (p : Params) (t : Transfer) : (t.flushed p).coverage = t.coverage := by
  rw [flushed]
  split_ifs <;> rfl

lemma Transfer.flushed_processed (p : Params) (t : Transfer) : (t.flushed p).processed = t.processed := by
  rw [flushed]
  split_ifs <;> rfl

def Transfer.isComplete (p : Params) (t : Transfer) : Bool :=
  t.ranges.complete p.byteCount && t.coverage.allSlotsReceived

namespace StreamDownload

def processQueuedChunks (settings : DownloadSettings) (p : Params) (s : StreamDownload) :
    StreamDownload × Bool :=
  let (chunks, inbox) := s.inbox.drainLogDataChunks p.logId
  let (transfer, ok) := s.transfer.processChunks settings p chunks
  ({ s with inbox := inbox, transfer := transfer }, ok)

def classifyTimeout (tick : Tick) : ArchiveFailureReason :=
  if !tick.connected then .transportClosed
  else if !tick.heartbeatFresh then .linkTimeout
  else .logDataTimeout

def flushFile (p : Params) (s : StreamDownload) : StreamDownload :=
  if p.writeFile then { s with transfer.file := s.transfer.file.flush } else s

def failed (p : Params) (s : StreamDownload) (failure : ArchiveFailureReason) : StreamDownloadResult :=
  { failure := failure, probeBytes := toInt32 (probeN p), probeSha256 := s.transfer.probeSha256 }

def outcome (p : Params) (s : StreamDownload) (success : Bool) : StreamDownloadResult :=
  if !success then
    failed p s <|
      if s.failure = .none then
        if s.transfer.ranges.complete p.byteCount then .verificationFailed else .incompleteDownload
      else s.failure
  else if 0 < s.transfer.coverage.overlapConflicts then failed p s .overlapConflict
  else
    { success := true
      failure := s.failure
      ranges := s.transfer.ranges
      sha256 := Sha256.finalizeHex s.transfer.hasher
      probeSha256 := if probeN p = 0 then Sha256.hashHex []
        else if !s.transfer.probeFinalized then Sha256.finalizeHex s.transfer.hasher
        else s.transfer.probeSha256
      probeBytes := toInt32 (probeN p) }

def finish (p : Params) (s : StreamDownload) (success : Bool) : StreamDownload :=
  let s := s.flushFile p
  { s with phase := .done (s.outcome p success) }

def abort (p : Params) (s : StreamDownload) (failure : ArchiveFailureReason) : StreamDownload :=
  { s with phase := .done (s.failed p failure) }

def startAttempt (settings : DownloadSettings) (p : Params) (tick : Tick) (s : StreamDownload) :
    StreamDownload :=
  if settings.retryCount < s.attempt then finish p s false
  else if s.inbox.cancelRequested then abort p s .cancelled
  else
    let before := s.transfer.ranges.bytesReceived
    let s := { s with
      phase := .poll
      before := before
      zeroLenBefore := s.inbox.zeroLengthDataCount }
    if before = 0 ∨ 0 < s.attempt then
      { s with
        trace := s.trace ++ [.request (.data p.logId p.byteOffset logStreamRequestCount)]
        lastDataTime := tick.now }
    else s

def endTransfer (s : StreamDownload) : StreamDownload :=
  { s with inbox := s.inbox.clearDataChunks, trace := s.trace ++ [.request .finish] }

def waitForFc (s : StreamDownload) : StreamDownload :=
  { s.endTransfer with phase := .attempt, fcBusyWaits := s.fcBusyWaits + 1, failure := .none }

def countStall (s : StreamDownload) : StreamDownload :=
  if s.transfer.ranges.bytesReceived ≤ s.before then
    { s with noProgressAttempts := s.noProgressAttempts + 1 }
  else s

def nextAttempt (settings : DownloadSettings) (s : StreamDownload) : StreamDownload :=
  let s' := if s.attempt < settings.retryCount then s.endTransfer else s
  { s' with phase := .attempt, attempt := s.attempt + 1 }

def leaveAttempt (settings : DownloadSettings) (p : Params) (s : StreamDownload) : StreamDownload :=
  if s.transfer.ranges.bytesReceived = 0 ∧ s.zeroLenBefore < s.inbox.zeroLengthDataCount ∧
      s.fcBusyWaits < settings.fcBusyRetryAttempts then
    s.waitForFc
  else if s.transfer.ranges.bytesReceived ≤ s.before ∧
      settings.stallAbortAttempts ≤ s.countStall.noProgressAttempts then
    s.countStall.endTransfer.abort p (if s.failure = .none then .noProgress else s.failure)
  else s.countStall.nextAttempt settings

def noteProgress (tick : Tick) (s : StreamDownload) : StreamDownload :=
  if s.lastProgressBytes < s.transfer.ranges.bytesReceived then
    { s with
      lastDataTime := tick.now
      lastProgressBytes := s.transfer.ranges.bytesReceived
      noProgressAttempts := 0 }
  else s

def fillGaps (settings : DownloadSettings) (p : Params) (tick : Tick) (s : StreamDownload) :
    Option StreamDownload :=
  if !s.transfer.ranges.complete p.byteCount && settings.gapFillIdleMs ≤ tick.nowIdle - s.lastDataTime &&
      (s.lastGapRequest == 0 || settings.gapFillIdleMs ≤ tick.nowIdle - s.lastGapRequest) then do
    let requests ← requestMergedGaps s.transfer.ranges p.byteCount
    return { s with
      trace := s.trace ++ requests.map (fun r => .request (.data p.logId r.1 r.2))
      lastGapRequest := tick.nowIdle }
  else some s

def poll (settings : DownloadSettings) (p : Params) (tick : Tick) (s : StreamDownload) :
    StreamDownload :=
  if s.inbox.cancelRequested then leaveAttempt settings p s
  else
    match processQueuedChunks settings p s with
    | (s, false) => abort p s .overlapConflict
    | (s, true) =>
      let s := noteProgress tick s
      if s.transfer.ranges.complete p.byteCount && s.transfer.coverage.allSlotsReceived then finish p s true
      else
        match fillGaps settings p tick s with
        | none => { s with phase := .hung }
        | some s =>
          if settings.downloadTimeoutSec * 1000 ≤ tick.nowIdle - s.lastDataTime then
            leaveAttempt settings p { s with failure := classifyTimeout tick }
          else s

def deliver (settings : DownloadSettings) (tick : Tick) (s : StreamDownload) : StreamDownload :=
  { s with inbox := s.inbox.deliver settings tick, trace := s.trace ++ tick.marks }

def advance (settings : DownloadSettings) (p : Params) (tick : Tick) (s : StreamDownload) :
    StreamDownload :=
  match s.phase with
  | .attempt => startAttempt settings p tick s
  | .poll => poll settings p tick s
  | .hung => s
  | .done _ => s

def step (settings : DownloadSettings) (p : Params) (s : StreamDownload) (tick : Tick) :
    StreamDownload :=
  (s.deliver settings tick).advance settings p tick

def start (p : Params) (inbox : Inbox) (file : OutputFile) : StreamDownload :=
  if p.byteCount = 0 then
    let result : StreamDownloadResult :=
      { success := true
        probeBytes := p.probeBytes
        probeSha256 := Sha256.hashHex []
        sha256 := Sha256.hashHex [] }
    { phase := .done result
      inbox := inbox
      transfer := { file := file, coverage := .create p.byteCount } }
  else
    { inbox := inbox.clearDataChunks
      transfer := { file := file, coverage := .create p.byteCount } }

def runFrom (settings : DownloadSettings) (p : Params) :
    List Tick → StreamDownload → Option (StreamDownloadResult × StreamDownload × List Tick)
  | [], s =>
    match s.phase with
    | .done result => some (result, s, [])
    | _ => none
  | tick :: ticks, s =>
    match s.phase with
    | .done result => some (result, s, tick :: ticks)
    | _ => runFrom settings p ticks (step settings p s tick)

def run (settings : DownloadSettings) (p : Params) (inbox : Inbox) (file : OutputFile)
    (ticks : List Tick) : Option (StreamDownloadResult × StreamDownload × List Tick) :=
  runFrom settings p ticks (start p inbox file)

inductive Effect (settings : DownloadSettings) (p : Params) (chunks : List LogDataChunk) (t : Transfer)
    (s' : StreamDownload) : Prop
  | kept (transfer : s'.transfer = t) (phase : s'.phase.Unsuccessful)
  | flushed (transfer : s'.transfer = t.flushed p) (r : StreamDownloadResult) (phase : s'.phase = .done r)
      (result : r.success = false)
  | processed (transfer : t.processChunks settings p chunks = (s'.transfer, true))
      (incomplete : s'.transfer.isComplete p = false) (phase : s'.phase.Unsuccessful)
  | conflicted (transfer : t.processChunks settings p chunks = (s'.transfer, false))
      (r : StreamDownloadResult) (phase : s'.phase = .done r) (result : r.success = false)
  | completed (t' : Transfer) (transfer : t.processChunks settings p chunks = (t', true))
      (complete : t'.isComplete p = true) (flush : s'.transfer = t'.flushed p)
      (phase : s'.phase = .done (s'.outcome p true))

structure Advanced (settings : DownloadSettings) (p : Params) (s s' : StreamDownload) : Prop where
  effect : Effect settings p (s.inbox.drainLogDataChunks p.logId).1 s.transfer s'
  queue : ∀ c ∈ s'.inbox.dataChunks, c ∈ s.inbox.dataChunks

section

variable {settings : DownloadSettings} {p : Params} {s s' : StreamDownload}

structure Aside (s s' : StreamDownload) : Prop where
  transfer : s'.transfer = s.transfer
  queue : ∀ c ∈ s'.inbox.dataChunks, c ∈ s.inbox.dataChunks

lemma flushFile_transfer (p : Params) (s : StreamDownload) : (s.flushFile p).transfer = s.transfer.flushed p := by
  rw [flushFile, Transfer.flushed]
  split_ifs <;> rfl

lemma flushFile_inbox (p : Params) (s : StreamDownload) : (s.flushFile p).inbox = s.inbox := by
  rw [flushFile]
  split_ifs <;> rfl

lemma endTransfer_aside (s : StreamDownload) : Aside s s.endTransfer :=
  ⟨rfl, by simp [endTransfer, Inbox.clearDataChunks]⟩

lemma countStall_aside (s : StreamDownload) : Aside s s.countStall := by
  rw [countStall]
  split_ifs <;> exact ⟨rfl, fun c hc => hc⟩

lemma leaveAttempt_aside (settings : DownloadSettings) (p : Params) (s : StreamDownload) :
    Aside s (s.leaveAttempt settings p) ∧ (s.leaveAttempt settings p).phase.Unsuccessful := by
  have hstall := countStall_aside s
  rw [leaveAttempt]
  split_ifs
  · exact ⟨⟨rfl, (endTransfer_aside s).queue⟩, by simp [waitForFc, Phase.Unsuccessful]⟩
  · exact ⟨⟨hstall.transfer, by simp [abort, endTransfer, Inbox.clearDataChunks]⟩,
      by simp [abort, failed, Phase.Unsuccessful]⟩
  · exact ⟨⟨hstall.transfer, by simp [abort, endTransfer, Inbox.clearDataChunks]⟩,
      by simp [abort, failed, Phase.Unsuccessful]⟩
  · rw [nextAttempt]
    split_ifs
    · exact ⟨⟨hstall.transfer, by simp [endTransfer, Inbox.clearDataChunks]⟩, by simp [Phase.Unsuccessful]⟩
    · exact ⟨⟨hstall.transfer, hstall.queue⟩, by simp [Phase.Unsuccessful]⟩

lemma noteProgress_same (tick : Tick) (s : StreamDownload) : (s.noteProgress tick).transfer = s.transfer ∧
    (s.noteProgress tick).inbox = s.inbox ∧ (s.noteProgress tick).phase = s.phase := by
  rw [noteProgress]
  split_ifs <;> exact ⟨rfl, rfl, rfl⟩

lemma fillGaps_same {tick : Tick} (h : s.fillGaps settings p tick = some s') :
    s'.transfer = s.transfer ∧ s'.inbox = s.inbox ∧ s'.phase = s.phase := by
  rw [fillGaps] at h
  split_ifs at h
  · obtain ⟨requests, _, hr⟩ := Option.bind_eq_some_iff.mp h
    obtain rfl := Option.some.inj hr
    exact ⟨rfl, rfl, rfl⟩
  · obtain rfl := Option.some.inj h
    exact ⟨rfl, rfl, rfl⟩

lemma startAttempt_advanced (tick : Tick) (s : StreamDownload) :
    Advanced settings p s (s.startAttempt settings p tick) := by
  simp only [startAttempt]
  split_ifs
  · refine ⟨.flushed (flushFile_transfer p s) _ rfl rfl, ?_⟩
    simp [finish, flushFile_inbox]
  · exact ⟨.kept rfl (by simp [abort, failed, Phase.Unsuccessful]), fun c hc => hc⟩
  · exact ⟨.kept rfl (by simp [Phase.Unsuccessful]), fun c hc => hc⟩
  · exact ⟨.kept rfl (by simp [Phase.Unsuccessful]), fun c hc => hc⟩

lemma poll_processes (hp : s.phase = .poll) (hc : s.inbox.cancelRequested = false) (tick : Tick) :
    let t := (s.transfer.processChunks settings p (s.inbox.drainLogDataChunks p.logId).1).1
    Advanced settings p s (s.poll settings p tick) ∧
      ((s.poll settings p tick).transfer = t ∨ (s.poll settings p tick).transfer = t.flushed p) := by
  rw [poll, if_neg (by simp [hc])]
  obtain ⟨⟨s₁, ok⟩, hs₁⟩ : ∃ x, s.processQueuedChunks settings p = x := ⟨_, rfl⟩
  have htransfer : s.transfer.processChunks settings p (s.inbox.drainLogDataChunks p.logId).1 = (s₁.transfer, ok) := by
    simp only [processQueuedChunks, Prod.mk.injEq] at hs₁
    rw [← hs₁.1, ← hs₁.2]
  have hqueue : ∀ c ∈ s₁.inbox.dataChunks, c ∈ s.inbox.dataChunks := by
    simp only [processQueuedChunks, Prod.mk.injEq] at hs₁
    rw [← hs₁.1]
    exact (Inbox.drain_chunks (fun c hc => hc) p.logId).2
  have hphase : s₁.phase = .poll := by
    simp only [processQueuedChunks, Prod.mk.injEq] at hs₁
    rw [← hs₁.1]
    exact hp
  rw [hs₁, htransfer]
  cases ok with
  | false => exact ⟨⟨.conflicted htransfer _ rfl rfl, hqueue⟩, Or.inl rfl⟩
  | true =>
    obtain ⟨htransfer₂, hinbox₂, hphase₂⟩ := noteProgress_same tick s₁
    simp only
    split_ifs with hdone
    · have hflush : ((s₁.noteProgress tick).finish p true).transfer = s₁.transfer.flushed p := by
        rw [finish, flushFile_transfer, htransfer₂]
      refine ⟨⟨.completed s₁.transfer htransfer ?_ hflush rfl, ?_⟩, Or.inr hflush⟩
      · rwa [Transfer.isComplete, ← htransfer₂]
      · simpa only [finish, flushFile_inbox, hinbox₂] using hqueue
    · have hincomplete : s₁.transfer.isComplete p = false := by
        rw [← htransfer₂, Transfer.isComplete, Bool.eq_false_iff]
        exact hdone
      cases hg : (s₁.noteProgress tick).fillGaps settings p tick with
      | none =>
        refine ⟨⟨.processed (by rw [htransfer₂]; exact htransfer) (by rw [htransfer₂]; exact hincomplete) ?_, ?_⟩,
          Or.inl htransfer₂⟩
        · simp [Phase.Unsuccessful]
        · rwa [hinbox₂]
      | some s₂ =>
        obtain ⟨htransfer₃, hinbox₃, hphase₃⟩ := fillGaps_same hg
        rw [htransfer₂] at htransfer₃
        rw [hinbox₂] at hinbox₃
        simp only
        split_ifs
        · obtain ⟨haside, hphase₄⟩ := leaveAttempt_aside settings p { s₂ with failure := classifyTimeout tick }
          have hsame := haside.transfer.trans htransfer₃
          refine ⟨⟨.processed ?_ ?_ hphase₄, fun c hc => hqueue c ?_⟩, Or.inl hsame⟩
          · rw [hsame]
            exact htransfer
          · rw [hsame]
            exact hincomplete
          · rw [← hinbox₃]
            exact haside.queue c hc
        · refine ⟨⟨.processed (by rw [htransfer₃]; exact htransfer) (by rw [htransfer₃]; exact hincomplete) ?_, ?_⟩,
            Or.inl htransfer₃⟩
          · simp [Phase.Unsuccessful, hphase₃, hphase₂, hphase]
          · rwa [hinbox₃]

lemma poll_cancelled (hc : s.inbox.cancelRequested = true) (tick : Tick) :
    s.poll settings p tick = s.leaveAttempt settings p := by
  rw [poll, if_pos hc]

lemma poll_advanced (hp : s.phase = .poll) (tick : Tick) : Advanced settings p s (s.poll settings p tick) := by
  cases hc : s.inbox.cancelRequested with
  | true =>
    obtain ⟨haside, hphase⟩ := leaveAttempt_aside settings p s
    rw [poll_cancelled hc]
    exact ⟨.kept haside.transfer hphase, haside.queue⟩
  | false => exact (poll_processes hp hc tick).1

lemma step_advanced (hs : ∀ r, s.phase ≠ .done r) (tick : Tick) :
    Advanced settings p (s.deliver settings tick) (s.step settings p tick) := by
  rw [step, advance]
  split
  · exact startAttempt_advanced tick _
  · next hp => exact poll_advanced hp tick
  · next hp => exact ⟨.kept rfl (by simp [Phase.Unsuccessful, hp]), fun c hc => hc⟩
  · next r hp => exact absurd hp (hs r)

end

structure Completed (p : Params) (t : Transfer) (r : StreamDownloadResult) : Prop where
  complete : t.ranges.complete p.byteCount = true
  ranges : r.ranges = t.ranges
  sha256 : r.sha256 = Sha256.finalizeHex t.hasher
  probe : r.probeSha256 = if probeN p = 0 then Sha256.hashHex []
    else if !t.probeFinalized then Sha256.finalizeHex t.hasher else t.probeSha256
  probeBytes : p.byteCount ≠ 0 → r.probeBytes = toInt32 (probeN p)

structure Keeps (settings : DownloadSettings) (p : Params) (Q : LogDataChunk → Prop)
    (I : Transfer → Prop) : Prop where
  chunk : ∀ t c, c.id = p.logId → Q c → I t → I (t.processChunk settings p c).1
  flush : ∀ t, I t → I { t with file := t.file.flush }

structure Holds (p : Params) (Q : LogDataChunk → Prop) (I : Transfer → Prop) (s : StreamDownload) :
    Prop where
  queue : ∀ c ∈ s.inbox.dataChunks, Q c
  transfer : I s.transfer
  result : ∀ r, s.phase = .done r → r.success = true → Completed p s.transfer r

section

variable {settings : DownloadSettings} {p : Params} {Q : LogDataChunk → Prop} {I : Transfer → Prop}
  {s : StreamDownload}

lemma outcome_completed (success : Bool)
    (hc : success = true → s.transfer.ranges.complete p.byteCount = true)
    (hs : (s.outcome p success).success = true) : Completed p s.transfer (s.outcome p success) := by
  cases success with
  | false => simp [outcome, failed] at hs
  | true =>
    simp only [outcome, Bool.not_true, Bool.false_eq_true, if_false] at hs ⊢
    by_cases h : 0 < s.transfer.coverage.overlapConflicts
    · rw [if_pos h] at hs
      simp [failed] at hs
    · rw [if_neg h]
      exact ⟨hc rfl, rfl, rfl, rfl, fun _ => rfl⟩

lemma flushed_keeps (hk : Keeps settings p Q I) {t : Transfer} (h : I t) : I (t.flushed p) := by
  rw [Transfer.flushed]
  split_ifs
  · exact hk.flush t h
  · exact h

lemma step_done {r : StreamDownloadResult} (hp : s.phase = .done r) (tick : Tick) :
    s.step settings p tick = s.deliver settings tick := by
  have hp' : (s.deliver settings tick).phase = .done r := hp
  rw [step, advance, hp']

lemma step_holds (hk : Keeps settings p Q I) (h : Holds p Q I s) {tick : Tick} (ht : tick.Receives Q) :
    Holds p Q I (s.step settings p tick) := by
  have hqueue : ∀ c ∈ (s.deliver settings tick).inbox.dataChunks, Q c := Inbox.deliver_chunks settings h.queue ht
  by_cases hdone : ∃ r, s.phase = .done r
  · obtain ⟨r, hp⟩ := hdone
    rw [step_done hp]
    exact ⟨hqueue, h.transfer, h.result⟩
  have hadvanced : Advanced settings p (s.deliver settings tick) (s.step settings p tick) :=
    step_advanced (not_exists.mp hdone) tick
  obtain ⟨heffect, hsub⟩ := hadvanced
  have hchunks : ∀ {t' ok}, s.transfer.processChunks settings p
      ((s.deliver settings tick).inbox.drainLogDataChunks p.logId).1 = (t', ok) → I t' := by
    intro t' ok ht'
    have hI := Transfer.processChunks_invariant (fun t c hc => hk.chunk t c hc.1 hc.2)
      (Inbox.drain_chunks hqueue p.logId).1 h.transfer
    rwa [ht'] at hI
  have hunsuccessful : ∀ {phase : Phase}, phase.Unsuccessful → ∀ r, phase = .done r → r.success = true →
      Completed p (s.step settings p tick).transfer r := by
    intro phase hphase r hr hs
    rw [hphase r hr] at hs
    cases hs
  refine ⟨fun c hc => hqueue c (hsub c hc), ?_, ?_⟩
  · cases heffect with
    | kept transfer phase => rw [transfer]; exact h.transfer
    | flushed transfer r phase result => rw [transfer]; exact flushed_keeps hk h.transfer
    | processed transfer incomplete phase => exact hchunks transfer
    | conflicted transfer r phase result => exact hchunks transfer
    | completed t' transfer complete flush phase => rw [flush]; exact flushed_keeps hk (hchunks transfer)
  · cases heffect with
    | kept transfer phase => exact hunsuccessful phase
    | flushed transfer r phase result => exact hunsuccessful (by rintro r' hr; cases phase.symm.trans hr; exact result)
    | processed transfer incomplete phase => exact hunsuccessful phase
    | conflicted transfer r phase result =>
      exact hunsuccessful (by rintro r' hr; cases phase.symm.trans hr; exact result)
    | completed t' transfer complete flush phase =>
      intro r hr hs
      obtain rfl := Phase.done.inj (hr.symm.trans phase)
      refine outcome_completed true (fun _ => ?_) hs
      rw [flush, Transfer.flushed_ranges]
      exact (Bool.and_eq_true_iff.mp complete).1

lemma foldl_holds (hk : Keeps settings p Q I) (h : Holds p Q I s) {ticks : List Tick}
    (ht : ∀ tick ∈ ticks, tick.Receives Q) : Holds p Q I (ticks.foldl (step settings p) s) :=
  List.foldlRecOn (motive := Holds p Q I) ticks (step settings p) h fun _ h' tick hm => step_holds hk h' (ht tick hm)

lemma foldl_done (h : ∃ r, s.phase = .done r) (ticks : List Tick) :
    (ticks.foldl (step settings p) s).transfer = s.transfer := by
  obtain ⟨r, hr⟩ := h
  have hkept : (ticks.foldl (step settings p) s).phase = .done r ∧
      (ticks.foldl (step settings p) s).transfer = s.transfer := by
    refine List.foldlRecOn (motive := fun s' : StreamDownload => s'.phase = .done r ∧ s'.transfer = s.transfer)
      ticks (step settings p) ⟨hr, rfl⟩ fun s' h' tick _ => ?_
    rw [step_done h'.1]
    exact h'
  exact hkept.2

lemma start_empty (hz : p.byteCount = 0) (inbox : Inbox) (file : OutputFile) :
    ∃ r, (start p inbox file).phase = .done r ∧ r.success = true ∧
      (start p inbox file).transfer = { file := file, coverage := .create p.byteCount } := by
  rw [start, if_pos hz]
  exact ⟨_, rfl, rfl, rfl⟩

lemma runFrom_done (ticks : List Tick) {r : StreamDownloadResult} (hp : s.phase = .done r) :
    runFrom settings p ticks s = some (r, s, ticks) := by
  cases ticks <;> rw [runFrom, hp]

lemma runFrom_running (hp : ∀ result, s.phase ≠ .done result) (tick : Tick) (ticks : List Tick) :
    runFrom settings p (tick :: ticks) s = runFrom settings p ticks (s.step settings p tick) := by
  rw [runFrom]
  split
  · next result hd => exact absurd hd (hp result)
  · rfl

lemma runFrom_induct {M : List Tick → StreamDownload → Prop} {ticks rest : List Tick} {s s' : StreamDownload}
    {r : StreamDownloadResult} (hr : runFrom settings p ticks s = some (r, s', rest))
    (hdone : s'.phase = .done r → M rest s')
    (hstep : ∀ tick ticks s, (∀ result, s.phase ≠ .done result) → M ticks (s.step settings p tick) →
      M (tick :: ticks) s) :
    M ticks s := by
  have hend : ∀ {ticks s result}, s.phase = .done result →
      runFrom settings p ticks s = some (r, s', rest) → M ticks s := by
    intro ticks s result hp hr
    rw [runFrom_done ticks hp] at hr
    simp only [Option.some.injEq, Prod.mk.injEq] at hr
    obtain ⟨rfl, rfl, rfl⟩ := hr
    exact hdone hp
  induction ticks generalizing s with
  | nil =>
    cases hp : s.phase with
    | done result => exact hend hp hr
    | _ =>
      rw [runFrom, hp] at hr
      cases hr
  | cons tick ticks ih =>
    by_cases hp : ∃ result, s.phase = .done result
    · obtain ⟨result, hp⟩ := hp
      exact hend hp hr
    · rw [runFrom_running (not_exists.mp hp)] at hr
      exact hstep tick ticks s (not_exists.mp hp) (ih hr)

lemma runFrom_invariant {J : StreamDownload → Prop} {P : Tick → Prop}
    (hJ : ∀ s tick, P tick → J s → J (s.step settings p tick)) {ticks rest : List Tick} {s s' : StreamDownload}
    {r : StreamDownloadResult} (ht : ∀ tick ∈ ticks, P tick) (h : J s)
    (hr : runFrom settings p ticks s = some (r, s', rest)) : J s' ∧ s'.phase = .done r := by
  revert ht h
  refine runFrom_induct (M := fun ticks s => (∀ tick ∈ ticks, P tick) → J s → J s' ∧ s'.phase = .done r) hr
    (fun hp _ h => ⟨h, hp⟩) fun tick ticks s _ ih ht h => ?_
  exact ih (fun t hm => ht t (List.mem_cons_of_mem tick hm)) (hJ s tick (ht tick List.mem_cons_self) h)

lemma runFrom_suffix {ticks rest : List Tick} {r : StreamDownloadResult} {s' : StreamDownload}
    (h : runFrom settings p ticks s = some (r, s', rest)) : rest <:+ ticks := by
  apply runFrom_induct (M := fun ticks _ => rest <:+ ticks) h
  · exact fun _ => List.suffix_rfl
  · exact fun tick ticks _ _ ih => ih.trans (List.suffix_cons tick ticks)

lemma run_completed (hk : Keeps settings p Q I) {inbox : Inbox} {file : OutputFile}
    {ticks rest : List Tick} {s' : StreamDownload} {r : StreamDownloadResult}
    (h₀ : I { file := file, coverage := .create p.byteCount })
    (ht : ∀ tick ∈ ticks, tick.Receives Q)
    (hr : run settings p inbox file ticks = some (r, s', rest)) (hs : r.success = true) :
    I s'.transfer ∧ Completed p s'.transfer r := by
  rw [run, start] at hr
  split_ifs at hr with hz
  · rw [runFrom_done ticks rfl] at hr
    simp only [Option.some.injEq, Prod.mk.injEq] at hr
    obtain ⟨rfl, rfl, _⟩ := hr
    refine ⟨h₀, ?_, rfl, rfl, ?_, ?_⟩
    · simp [ReceivedRanges.complete, hz]
    · simp only [Sha256.hashHex, Sha256.update_nil, Bool.not_false, if_true, ite_self]
    · exact fun hne => absurd hz hne
  · have hh := runFrom_invariant (J := Holds p Q I) (fun s tick ht h => step_holds hk h ht) ht
      ⟨by simp [Inbox.clearDataChunks], h₀, by simp⟩ hr
    exact ⟨hh.1.transfer, hh.1.result r hh.2 hs⟩

structure Accepts (p : Params) (Q : LogDataChunk → Prop) (I : Transfer → Prop) (s : StreamDownload) : Prop where
  queue : ∀ c ∈ s.inbox.dataChunks, Q c
  running : (∀ r, s.phase ≠ .done r) → I s.transfer ∧ s.transfer.isComplete p = false
  result : ∀ r, s.phase = .done r → r.success = true →
    ∃ t, I t ∧ t.isComplete p = true ∧ s.transfer = t.flushed p ∧ r = s.outcome p true

lemma step_accepts
    (hI : ∀ t c t', c.id = p.logId ∧ Q c → I t → t.processChunk settings p c = (t', true) → I t')
    (h : Accepts p Q I s) {tick : Tick} (ht : tick.Receives Q) : Accepts p Q I (s.step settings p tick) := by
  have hqueue : ∀ c ∈ (s.deliver settings tick).inbox.dataChunks, Q c := Inbox.deliver_chunks settings h.queue ht
  by_cases hdone : ∃ r, s.phase = .done r
  · obtain ⟨r, hp⟩ := hdone
    rw [step_done hp]
    exact ⟨hqueue, fun hrun => absurd hp (hrun r), h.result⟩
  have hrunning := h.running (not_exists.mp hdone)
  have hadvanced : Advanced settings p (s.deliver settings tick) (s.step settings p tick) :=
    step_advanced (not_exists.mp hdone) tick
  obtain ⟨heffect, hsub⟩ := hadvanced
  have hchunks : ∀ {t'}, s.transfer.processChunks settings p
      ((s.deliver settings tick).inbox.drainLogDataChunks p.logId).1 = (t', true) → I t' := by
    intro t' ht'
    exact Transfer.processChunks_accepted hI (Inbox.drain_chunks hqueue p.logId).1 hrunning.1 ht'
  have hnone : ∀ {r}, (s.step settings p tick).phase.Unsuccessful → (s.step settings p tick).phase = .done r →
      r.success ≠ true := fun hphase hr hs => by simp [hphase _ hr] at hs
  refine ⟨fun c hc => hqueue c (hsub c hc), ?_, ?_⟩
  · intro hrun
    cases heffect with
    | kept transfer phase => rw [transfer]; exact hrunning
    | flushed transfer r phase result => exact absurd phase (hrun r)
    | processed transfer incomplete phase => exact ⟨hchunks transfer, incomplete⟩
    | conflicted transfer r phase result => exact absurd phase (hrun r)
    | completed t' transfer complete flush phase => exact absurd phase (hrun _)
  · intro r hr hs
    cases heffect with
    | kept transfer phase => exact absurd hs (hnone phase hr)
    | flushed transfer r' phase result =>
      obtain rfl := Phase.done.inj (hr.symm.trans phase)
      simp [result] at hs
    | processed transfer incomplete phase => exact absurd hs (hnone phase hr)
    | conflicted transfer r' phase result =>
      obtain rfl := Phase.done.inj (hr.symm.trans phase)
      simp [result] at hs
    | completed t' transfer complete flush phase =>
      exact ⟨t', hchunks transfer, complete, flush, Phase.done.inj (hr.symm.trans phase)⟩

lemma start_accepts {inbox : Inbox} {file : OutputFile} (h₀ : I { file := file, coverage := .create p.byteCount })
    (hz : p.byteCount ≠ 0) : Accepts p Q I (start p inbox file) := by
  rw [start, if_neg hz]
  refine ⟨by simp [Inbox.clearDataChunks], fun _ => ⟨h₀, ?_⟩, by simp⟩
  simp [Transfer.isComplete, ReceivedRanges.complete, hz]

lemma run_accepts
    (hI : ∀ t c t', c.id = p.logId ∧ Q c → I t → t.processChunk settings p c = (t', true) → I t')
    {inbox : Inbox} {file : OutputFile} {ticks rest : List Tick} {s' : StreamDownload} {r : StreamDownloadResult}
    (h₀ : I { file := file, coverage := .create p.byteCount }) (hz : p.byteCount ≠ 0)
    (ht : ∀ tick ∈ ticks, tick.Receives Q) (hr : run settings p inbox file ticks = some (r, s', rest)) :
    Accepts p Q I s' ∧ s'.phase = .done r :=
  runFrom_invariant (J := Accepts p Q I) (fun _ _ ht h => step_accepts hI h ht) ht (start_accepts h₀ hz) hr

end

end StreamDownload

end MavlinkLogService.Session
