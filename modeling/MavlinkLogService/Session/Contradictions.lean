import MavlinkLogService.Session.ReceivedChunks

/-! Which contradictions between the chunks of a download the slot fingerprints show. -/

namespace MavlinkLogService.Session

open StreamDownload

def Carries (p : Params) (chunk : LogDataChunk) (x : ℕ) (b : UInt8) : Prop :=
  chunk.offset.toNat ≤ x ∧ x < chunk.offset.toNat + writeLen p chunk ∧ chunk.data[x - chunk.offset.toNat]? = some b

instance (p : Params) (chunk : LogDataChunk) (x : ℕ) (b : UInt8) : Decidable (Carries p chunk x b) :=
  inferInstanceAs (Decidable (_ ∧ _))

def Contradict (p : Params) (chunks : List LogDataChunk) : Prop :=
  ∃ c ∈ chunks, ∃ c' ∈ chunks, ∃ x < p.byteCount, ∃ b b', b ≠ b' ∧ Carries p c x b ∧ Carries p c' x b'

def SlotClash (p : Params) (chunks : List LogDataChunk) : Prop :=
  ∃ c ∈ chunks, ∃ c' ∈ chunks, ∃ slot, Marks p slot c ∧ Marks p slot c' ∧ slotPayload p c ≠ slotPayload p c'

section

variable {settings : DownloadSettings} {p : Params}

lemma exists_messages {chunks : List LogDataChunk} (h : ∀ c ∈ chunks, ∃ m : LogMessage, m.chunk? = some c) :
    ∃ ms : List LogMessage, ms.map LogMessage.chunk? = chunks.map some := by
  induction chunks with
  | nil => exact ⟨[], rfl⟩
  | cons c chunks ih =>
    obtain ⟨m, hm⟩ := h c List.mem_cons_self
    obtain ⟨ms, hms⟩ := ih fun c' hc => h c' (List.mem_cons_of_mem c hc)
    exact ⟨m :: ms, by rw [List.map_cons, List.map_cons, hm, hms]⟩

namespace Inbox

lemma onMessage_queued {m : LogMessage} {c : LogDataChunk} (hm : m.chunk? = some c) (inbox : Inbox)
    (hcap : inbox.dataChunks.length < queueCap settings) :
    inbox.onMessage settings m = { inbox with dataChunks := inbox.dataChunks ++ [c] } := by
  have hkept : (inbox.dataChunks ++ [c]).length - queueCap settings = 0 := by
    rw [List.length_append, List.length_singleton]
    omega
  rw [onMessage_chunk settings inbox hm, trimDataChunkQueue, hkept, List.drop_zero]

lemma foldl_queued {ms : List LogMessage} {chunks : List LogDataChunk}
    (h : ms.map LogMessage.chunk? = chunks.map some) (inbox : Inbox)
    (hcap : inbox.dataChunks.length + chunks.length ≤ queueCap settings) :
    ms.foldl (onMessage settings) inbox = { inbox with dataChunks := inbox.dataChunks ++ chunks } := by
  induction ms generalizing chunks inbox with
  | nil =>
    cases chunks with
    | nil => simp
    | cons c chunks => cases h
  | cons m ms ih =>
    cases chunks with
    | nil => cases h
    | cons c chunks =>
      rw [List.map_cons, List.map_cons, List.cons.injEq] at h
      rw [List.length_cons] at hcap
      have hcap' : (inbox.dataChunks ++ [c]).length + chunks.length ≤ queueCap settings := by
        rw [List.length_append, List.length_singleton]
        omega
      rw [List.foldl_cons, onMessage_queued h.1 inbox (by omega), ih h.2 _ hcap']
      simp

end Inbox

lemma one_batch_received {chunks : List LogDataChunk} {ms : List LogMessage}
    (hms : ms.map LogMessage.chunk? = chunks.map some) (hid : ∀ c ∈ chunks, c.id = p.logId)
    (hcap : chunks.length ≤ queueCap settings) (hretry : 0 ≤ settings.retryCount) (h₀ : p.byteCount ≠ 0) :
    received settings p (start p {} {}) [{}, { messages := ms }] = chunks := by
  let s₁ := (start p {} {}).step settings p {}
  have hstart : (start p {} {}).phase = .attempt := by rw [start, if_neg h₀]
  have hs₁ : s₁.phase = .poll ∧ s₁.inbox = {} := by
    simp only [s₁, step, advance, start, if_neg h₀, deliver, startAttempt, Inbox.deliver, Inbox.clearDataChunks]
    simp [not_lt.mpr hretry, ReceivedRanges.bytesReceived]
  have hinbox : (s₁.deliver settings { messages := ms }).inbox = { dataChunks := chunks } := by
    simp only [deliver, Inbox.deliver, hs₁.2, Bool.false_eq_true, if_false]
    rw [Inbox.foldl_queued hms _ (by simpa using hcap)]
    simp
  have hfirst : (start p {} {}).taken settings p {} = [] := by simp [taken, hstart]
  have hsecond : s₁.taken settings p { messages := ms } = chunks := by
    rw [taken, if_pos ⟨hs₁.1, by rw [hinbox]⟩, hinbox, Inbox.drainLogDataChunks, List.filter_eq_self]
    intro c hc
    simpa using hid c hc
  rw [received, hfirst, received, received, List.append_nil]
  exact hsecond

end

theorem contradictions_rejected_iff (p : Params) (hp : p.byteCount < 2 ^ 32) (chunks : List LogDataChunk)
    (hchunks : ∀ c ∈ chunks, c.id = p.logId ∧ ∃ m : LogMessage, m.chunk? = some c)
    (hcrc : ∀ c ∈ chunks, ∀ c' ∈ chunks, slotPayload p c ≠ slotPayload p c' → slotPrint p c ≠ slotPrint p c') :
    (∀ (settings : DownloadSettings) (inbox : Inbox) (file : OutputFile) (ticks rest : List Tick)
        (r : StreamDownloadResult) (s : StreamDownload), settings.detectOverlapConflict = true →
        received settings p (start p inbox file) ticks = chunks →
        run settings p inbox file ticks = some (r, s, rest) → Contradict p chunks → r.success = false) ↔
      (Contradict p chunks → SlotClash p chunks ∨ ¬ Completes p chunks) := by
  have hne : Contradict p chunks → p.byteCount ≠ 0 := by
    rintro ⟨_, _, _, _, x, hx, _⟩
    omega
  constructor
  · intro hrun hcontra
    by_contra hnot
    rw [not_or, not_not] at hnot
    obtain ⟨hclash, hcompletes⟩ := hnot
    let settings : DownloadSettings := { maxQueuedLogData := chunks.length + 1 }
    have hcap : chunks.length ≤ queueCap settings := by
      simp only [queueCap, settings]
      split_ifs <;> omega
    -- everything arrives in one batch: no slot clashes, so nothing stops the session from completing
    obtain ⟨ms, hms⟩ := exists_messages fun c hc => (hchunks c hc).2
    have hreceived := one_batch_received hms (fun c hc => (hchunks c hc).1) hcap (by simp [settings]) (hne hcontra)
    have hagree : Agree p settings.detectOverlapConflict chunks := by
      intro _ slot _ c hc c' hc' hm hm'
      apply slotPrint_congr
      by_contra hdiff
      exact hclash ⟨c, hc, c', hc', slot, hm, hm', hdiff⟩
    obtain ⟨r, s, rest, hs, hok⟩ := (run_endsWell_iff (hne hcontra) {} {} [{}, { messages := ms }]).mpr
      (by rw [hreceived]; exact ⟨hcompletes, hagree⟩)
    rw [hrun settings {} {} _ rest r s rfl hreceived hs hcontra] at hok
    cases hok
  · intro hcond settings inbox file ticks rest r s hdetect hreceived hr hcontra
    by_contra hsuccess
    rw [Bool.not_eq_false] at hsuccess
    have hends := (run_endsWell_iff (hne hcontra) inbox file ticks).mp ⟨r, s, rest, hr, hsuccess⟩
    rw [hreceived] at hends
    obtain ⟨hcompletes, hagree⟩ := hends
    rcases hcond hcontra with ⟨c, hc, c', hc', slot, hm, hm', hdiff⟩ | hnot
    · exact hcrc c hc c' hc' hdiff (hagree hdetect slot (hcompletes.slot_lt hp hm) c hc c' hc' hm hm')
    · exact hnot hcompletes

def unalignedPair : List LogDataChunk := [⟨1, 0, 2, [1, 1]⟩, ⟨1, 1, 1, [2]⟩]

def unalignedTicks : List Tick := [{}, { messages := [.logData 1 0 2 [1, 1], .logData 1 1 1 [2]] }]

def clashingPair : List LogDataChunk := [⟨1, 0, 1, [1]⟩, ⟨1, 0, 1, [2]⟩]

def clashingTicks : List Tick := [{}, { messages := [.logData 1 0 1 [1], .logData 1 0 1 [2]] }]

theorem contradictions_rejected_iff_clash :
    ∃ x, run {} ⟨1, 0, 1, 0, false⟩ {} {} clashingTicks = some x ∧
      received {} ⟨1, 0, 1, 0, false⟩ (start ⟨1, 0, 1, 0, false⟩ {} {}) clashingTicks = clashingPair ∧
      SlotClash ⟨1, 0, 1, 0, false⟩ clashingPair ∧ Completes ⟨1, 0, 1, 0, false⟩ clashingPair ∧
      x.1.success = false := by
  have hended : (run {} ⟨1, 0, 1, 0, false⟩ {} {} clashingTicks).isSome = true := by decide +kernel
  obtain ⟨x, hx⟩ := Option.isSome_iff_exists.mp hended
  have hreceived : received {} ⟨1, 0, 1, 0, false⟩ (start ⟨1, 0, 1, 0, false⟩ {} {}) clashingTicks = clashingPair := by
    decide +kernel
  have hclash : SlotClash ⟨1, 0, 1, 0, false⟩ clashingPair :=
    ⟨_, List.mem_cons_self, _, List.mem_cons_of_mem _ List.mem_cons_self, 0, by decide, by decide, by decide⟩
  have hcompletes : Completes ⟨1, 0, 1, 0, false⟩ clashingPair := by
    refine ⟨by decide, by decide, fun slot hslot => ⟨_, List.mem_cons_self, ?_⟩⟩
    have hone : chunkCountForSize 1 = 1 := by decide
    obtain rfl : slot = 0 := by rw [hone] at hslot; omega
    decide
  refine ⟨x, hx, hreceived, hclash, hcompletes, ?_⟩
  refine (contradictions_rejected_iff ⟨1, 0, 1, 0, false⟩ (by norm_num) clashingPair ?_ (by decide +kernel)).mpr
    (fun _ => Or.inl hclash) {} {} {} clashingTicks x.2.2 x.1 x.2.1 rfl hreceived hx ?_
  · intro c hc
    simp only [clashingPair, List.mem_cons, List.not_mem_nil, or_false] at hc
    rcases hc with rfl | rfl
    · exact ⟨rfl, .logData 1 0 1 [1], by decide⟩
    · exact ⟨rfl, .logData 1 0 1 [2], by decide⟩
  · exact ⟨_, List.mem_cons_self, _, List.mem_cons_of_mem _ List.mem_cons_self, 0, by decide, 1, 2, by decide,
      by decide,
      by decide⟩

theorem unaligned_contradiction_accepted :
    (∀ c ∈ unalignedPair, ∀ c' ∈ unalignedPair, slotPayload ⟨1, 0, 2, 0, true⟩ c ≠ slotPayload ⟨1, 0, 2, 0, true⟩ c' →
      slotPrint ⟨1, 0, 2, 0, true⟩ c ≠ slotPrint ⟨1, 0, 2, 0, true⟩ c') ∧
    Contradict ⟨1, 0, 2, 0, true⟩ unalignedPair ∧
      received {} ⟨1, 0, 2, 0, true⟩ (start ⟨1, 0, 2, 0, true⟩ {} {}) unalignedTicks = unalignedPair ∧
      ∃ x, run {} ⟨1, 0, 2, 0, true⟩ {} {} unalignedTicks = some x ∧ x.2.1.transfer.processed = unalignedPair ∧
        x.1.success = true ∧ x.2.1.transfer.file.content = [1, 2] := by
  refine ⟨by decide +kernel, ⟨_, List.mem_cons_self, _, List.mem_cons_of_mem _ List.mem_cons_self, 1, by decide, 1, 2,
    by decide, by decide, by decide⟩, by decide +kernel, ?_⟩
  have h : (run {} ⟨1, 0, 2, 0, true⟩ {} {} unalignedTicks).any (fun x => decide (
      x.2.1.transfer.processed = unalignedPair ∧ x.1.success = true ∧
        x.2.1.transfer.file.content = [1, 2])) = true := by
    decide +kernel
  simpa [Option.any_eq_true] using h

end MavlinkLogService.Session
