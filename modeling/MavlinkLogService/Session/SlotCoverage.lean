import MavlinkLogService.Session.GapRequests
import MavlinkLogService.Session.StreamDownload

/-! What the slot bitmap of a download knows of the chunks it accepted. -/

namespace MavlinkLogService.Session

open Library.Intervals

def pieces (p : Params) (chunks : List LogDataChunk) : List (ℕ × ℕ) :=
  chunks.map fun chunk => (chunk.offset.toNat, writeLen p chunk)

def Marks (p : Params) (slot : ℕ) (chunk : LogDataChunk) : Prop :=
  writeLen p chunk ≠ 0 ∧ chunk.offset.toNat = logChunkSize * slot

instance (p : Params) (slot : ℕ) (chunk : LogDataChunk) : Decidable (Marks p slot chunk) :=
  inferInstanceAs (Decidable (_ ∧ _))

def slotPayload (p : Params) (chunk : LogDataChunk) : List UInt8 :=
  let taken := chunk.data.take (min (writeLen p chunk) logChunkSize)
  taken ++ List.replicate (logChunkSize - taken.length) 0

def slotPrint (p : Params) (chunk : LogDataChunk) : UInt32 := fingerprintForSlot chunk.data (writeLen p chunk)

lemma slotPrint_congr {p : Params} {c c' : LogDataChunk} (h : slotPayload p c = slotPayload p c') :
    slotPrint p c = slotPrint p c' := by
  have hprint : ∀ chunk, slotPrint p chunk =
      if crc32 (slotPayload p chunk) = emptyFingerprint then 1 else crc32 (slotPayload p chunk) := fun _ => rfl
  rw [hprint, hprint, h]

structure Tracks (p : Params) (detect : Bool) (chunks : List LogDataChunk) (t : ChunkCoverageTracker) : Prop where
  shaped : t.Shaped
  totalSize : t.totalSize = p.byteCount
  slotCount : t.slotCount = chunkCountForSize p.byteCount
  conflicts : t.overlapConflicts = 0
  marks : ∀ slot < t.slotCount, bitmapTest t.bitmap slot = true ↔ ∃ c ∈ chunks, Marks p slot c
  prints : detect = true → ∀ slot < t.slotCount, ∀ c ∈ chunks, Marks p slot c →
    t.fingerprints.getD slot 0 = slotPrint p c

def Compatible (p : Params) (detect : Bool) (chunks : List LogDataChunk) (chunk : LogDataChunk) : Prop :=
  detect = true → ∀ slot < chunkCountForSize p.byteCount, Marks p slot chunk →
    ∀ c ∈ chunks, Marks p slot c → slotPrint p c = slotPrint p chunk

section

variable {p : Params} {detect : Bool} {chunks : List LogDataChunk} {t : ChunkCoverageTracker} {chunk : LogDataChunk}

lemma marks_iff {slot : ℕ} (h : writeLen p chunk ≠ 0) :
    Marks p slot chunk ↔ chunk.offset.toNat % logChunkSize = 0 ∧ slot = chunkSlotIndex chunk.offset.toNat := by
  rw [Marks, chunkSlotIndex, logChunkSize]
  omega

lemma create_tracks (p : Params) (detect : Bool) : Tracks p detect [] (.create p.byteCount) := by
  refine ⟨ChunkCoverageTracker.create_shaped _, rfl, rfl, rfl, ?_, by simp⟩
  simp [ChunkCoverageTracker.bitmapTest_create]

lemma Tracks.snoc_unmarked (h : Tracks p detect chunks t) (hn : ∀ slot < t.slotCount, ¬ Marks p slot chunk) :
    Tracks p detect (chunks ++ [chunk]) t := by
  refine ⟨h.shaped, h.totalSize, h.slotCount, h.conflicts, ?_, ?_⟩
  · intro slot hslot
    rw [h.marks slot hslot]
    simp [or_and_right, exists_or, hn slot hslot]
  · intro hd slot hslot c hc hm
    rcases List.mem_append.mp hc with hc | hc
    · exact h.prints hd slot hslot c hc hm
    · obtain rfl := List.mem_singleton.mp hc
      exact absurd hm (hn slot hslot)

lemma Tracks.snoc_repeated (h : Tracks p detect chunks t) {slot : ℕ}
    (honly : ∀ s, Marks p s chunk ↔ s = slot) (hset : bitmapTest t.bitmap slot = true)
    (hprint : detect = true → t.fingerprints.getD slot 0 = slotPrint p chunk) :
    Tracks p detect (chunks ++ [chunk]) t := by
  refine ⟨h.shaped, h.totalSize, h.slotCount, h.conflicts, ?_, ?_⟩
  · intro s hs
    rw [h.marks s hs]
    constructor
    · rintro ⟨c, hc, hm⟩
      exact ⟨c, List.mem_append_left _ hc, hm⟩
    · rintro ⟨c, hc, hm⟩
      rcases List.mem_append.mp hc with hc | hc
      · exact ⟨c, hc, hm⟩
      · obtain rfl := List.mem_singleton.mp hc
        rw [(honly s).mp hm] at hs ⊢
        exact (h.marks slot hs).mp hset
  · intro hd s hs c hc hm
    rcases List.mem_append.mp hc with hc | hc
    · exact h.prints hd s hs c hc hm
    · obtain rfl := List.mem_singleton.mp hc
      rw [(honly s).mp hm]
      exact hprint hd

lemma Tracks.snoc_fresh (h : Tracks p detect chunks t) {slot : ℕ} (hslot : slot < t.slotCount)
    (honly : ∀ s, Marks p s chunk ↔ s = slot) (hunset : bitmapTest t.bitmap slot = false) :
    Tracks p detect (chunks ++ [chunk]) (t.marked slot (slotPrint p chunk)) := by
  have hnone : ∀ c ∈ chunks, ¬ Marks p slot c := by
    intro c hc hm
    rw [(h.marks slot hslot).mpr ⟨c, hc, hm⟩] at hunset
    cases hunset
  refine ⟨ChunkCoverageTracker.marked_shaped h.shaped hslot hunset _, h.totalSize, h.slotCount, h.conflicts, ?_, ?_⟩
  · intro s hs
    rw [ChunkCoverageTracker.bitmapTest_marked h.shaped hslot, h.marks s hs]
    simp [or_and_right, exists_or, honly]
  · intro hd s hs c hc hm
    rw [List.getD_eq_getElem?_getD, ChunkCoverageTracker.fingerprints_marked h.shaped hslot]
    rcases List.mem_append.mp hc with hc | hc
    · have hne : s ≠ slot := by
        rintro rfl
        exact hnone c hc hm
      rw [if_neg hne, ← List.getD_eq_getElem?_getD]
      exact h.prints hd s hs c hc hm
    · obtain rfl := List.mem_singleton.mp hc
      rw [if_pos ((honly s).mp hm)]
      rfl

lemma record_tracks (h : Tracks p detect chunks t) (hn : writeLen p chunk ≠ 0) :
    ((t.record chunk.offset.toNat chunk.data (writeLen p chunk) detect).2 = true ↔ Compatible p detect chunks chunk) ∧
      ((t.record chunk.offset.toNat chunk.data (writeLen p chunk) detect).2 = true →
        Tracks p detect (chunks ++ [chunk]) (t.record chunk.offset.toNat chunk.data (writeLen p chunk) detect).1) := by
  by_cases hhit : chunk.offset.toNat % logChunkSize = 0 ∧ chunkSlotIndex chunk.offset.toNat < t.slotCount
  · obtain ⟨hgrid, hslot⟩ := hhit
    have honly : ∀ s, Marks p s chunk ↔ s = chunkSlotIndex chunk.offset.toNat := by
      intro s
      rw [marks_iff hn, and_iff_right hgrid]
    have hcompatible : Compatible p detect chunks chunk ↔
        (detect = true → ∀ c ∈ chunks, Marks p (chunkSlotIndex chunk.offset.toNat) c →
          slotPrint p c = slotPrint p chunk) := by
      rw [Compatible, ← h.slotCount]
      refine imp_congr_right fun _ => ⟨fun hc => hc _ hslot ((honly _).mpr rfl), fun hc s _ hm => ?_⟩
      rw [(honly s).mp hm]
      exact hc
    have hrecorded := ChunkCoverageTracker.record_recorded hn hgrid hslot chunk.data detect
    generalize t.record chunk.offset.toNat chunk.data (writeLen p chunk) detect = r at hrecorded ⊢
    obtain ⟨t', ok⟩ := r
    simp only at hrecorded ⊢
    rw [hcompatible]
    cases hrecorded with
    | fresh unset =>
      refine ⟨?_, fun _ => h.snoc_fresh hslot honly unset⟩
      simp only [h.conflicts, beq_self_eq_true, Bool.true_or, true_iff]
      intro _ c hc hm
      rw [(h.marks _ hslot).mpr ⟨c, hc, hm⟩] at unset
      cases unset
    | repeated isSet agrees =>
      refine ⟨?_, fun _ => h.snoc_repeated honly isSet agrees⟩
      simp only [h.conflicts, beq_self_eq_true, Bool.true_or, true_iff]
      intro hd c hc hm
      rw [← h.prints hd _ hslot c hc hm]
      exact agrees hd
    | conflict isSet detects differs =>
      have hone : (add32 t.overlapConflicts 1 == 0) = false := by
        rw [h.conflicts]
        rfl
      rw [hone]
      refine ⟨⟨by simp, fun hc => ?_⟩, by simp⟩
      obtain ⟨c, hmem, hm⟩ := (h.marks _ hslot).mp isSet
      exact absurd ((h.prints detects _ hslot c hmem hm).trans (hc detects c hmem hm)) differs
  · have hignored : ∀ s < t.slotCount, ¬ Marks p s chunk := by
      intro s hs hm
      obtain ⟨hgrid, rfl⟩ := (marks_iff hn).mp hm
      exact hhit ⟨hgrid, hs⟩
    rw [ChunkCoverageTracker.record_ignored (by rw [not_and_or, not_lt] at hhit; exact hhit)]
    refine ⟨?_, fun _ => h.snoc_unmarked hignored⟩
    simp only [true_iff]
    intro _ s hs hm
    exact absurd hm (hignored s (by rwa [h.slotCount]))

end

namespace ReceivedRanges

lemma ofAdds_snoc (adds : List (ℕ × ℕ)) (a : ℕ × ℕ) : ofAdds (adds ++ [a]) = (ofAdds adds).add a.1 a.2 := by
  simp [ofAdds]

lemma covered_of_add {r : ReceivedRanges} {a n x : ℕ} (h : Covered (r.add a n).ranges x) :
    Covered r.ranges x ∨ a ≤ x ∧ x < a + n := by
  rw [add] at h
  split_ifs at h
  · exact Or.inl h
  · rw [covered_merge, covered_append] at h
    rcases h with h | ⟨q, hq, h₁, h₂⟩
    · exact Or.inl h
    · obtain rfl := List.mem_singleton.mp hq
      have hwrap : add32 a n ≤ a + n := Nat.mod_le _ _
      exact Or.inr ⟨h₁, by simp only at h₂; omega⟩

lemma received_of_covered {adds : List (ℕ × ℕ)} {x : ℕ} (h : Covered (ofAdds adds).ranges x) : Received adds x := by
  induction adds using List.reverseRecOn with
  | nil => simp [ofAdds] at h
  | append_singleton adds a ih =>
    rw [ofAdds_snoc] at h
    rcases covered_of_add h with h | h
    · obtain ⟨b, hb, hx⟩ := ih h
      exact ⟨b, List.mem_append_left _ hb, hx⟩
    · exact ⟨a, by simp, h⟩

lemma complete_of_covered {r : ReceivedRanges} {total : ℕ} (hb : r.Bounded 0 total)
    (h : ∀ x < total, Covered r.ranges x) : r.complete total = true := by
  rcases Nat.eq_zero_or_pos total with rfl | h₀
  · simp [complete]
  obtain ⟨l⟩ := r
  rcases l with _ | ⟨q, _ | ⟨r, l⟩⟩
  · exact absurd (h 0 h₀) (by simp)
  · have hfirst := h 0 h₀
    have hlast := h (total - 1) (by omega)
    simp only [covered_cons, covered_nil, or_false] at hfirst hlast
    simp only [complete, Bool.or_eq_true, Bool.and_eq_true, beq_iff_eq, decide_eq_true_eq]
    omega
  · -- the byte between the first two ranges is in none of them
    obtain ⟨hq, _⟩ := List.pairwise_cons.mp hb.separated
    have hr := hb.bounds r (by simp)
    have hqr := hq r List.mem_cons_self
    obtain ⟨z, hz, h₁, h₂⟩ := h q.2 (by omega)
    rcases List.mem_cons.mp hz with rfl | hz
    · omega
    · have := hq z hz
      omega

end ReceivedRanges

structure Accounted (settings : DownloadSettings) (p : Params) (t : Transfer) : Prop where
  coverage : Tracks p settings.detectOverlapConflict t.processed t.coverage
  ranges : t.ranges = .ofAdds (pieces p t.processed)

section

variable {settings : DownloadSettings} {p : Params} {t t' : Transfer} {chunk : LogDataChunk}

lemma start_accounted (settings : DownloadSettings) (p : Params) (file : OutputFile) :
    Accounted settings p { file := file, coverage := .create p.byteCount } :=
  ⟨create_tracks p _, rfl⟩

lemma pieces_snoc (p : Params) (chunks : List LogDataChunk) (chunk : LogDataChunk) :
    pieces p (chunks ++ [chunk]) = pieces p chunks ++ [(chunk.offset.toNat, writeLen p chunk)] := by
  simp [pieces]

lemma processChunk_accounted (h : Accounted settings p t) (ht : t.processChunk settings p chunk = (t', true)) :
    Accounted settings p t' := by
  have hprocessed := Transfer.processChunk_processed ht
  by_cases hn : writeLen p chunk = 0
  · rw [Transfer.processChunk, if_pos hn] at ht
    obtain rfl := (Prod.mk.inj ht).1
    refine ⟨h.coverage.snoc_unmarked fun _ _ hm => hm.1 hn, ?_⟩
    rw [h.ranges, pieces_snoc, ReceivedRanges.ofAdds_snoc, ReceivedRanges.add, if_pos hn]
  · obtain ⟨_, htracks⟩ := record_tracks h.coverage hn
    simp only [Transfer.processChunk, if_neg hn] at ht
    split_ifs at ht with hok
    · obtain rfl := (Prod.mk.inj ht).1
      refine ⟨?_, ?_⟩
      · rw [hprocessed]
        simpa using htracks hok
      · rw [hprocessed, pieces_snoc, ReceivedRanges.ofAdds_snoc, ← h.ranges]
        simp
    · cases (Prod.mk.inj ht).2

lemma processChunk_accepts (h : Accounted settings p t) :
    (t.processChunk settings p chunk).2 = true ↔
      writeLen p chunk = 0 ∨ Compatible p settings.detectOverlapConflict t.processed chunk := by
  by_cases hn : writeLen p chunk = 0
  · simp [Transfer.processChunk, hn]
  · rw [or_iff_right hn, ← (record_tracks h.coverage hn).1]
    simp only [Transfer.processChunk, if_neg hn]
    split_ifs with hok
    · simp [hok]
    · simpa using hok

lemma accepted_accounted {file : OutputFile} {chunks : List LogDataChunk}
    (h : Transfer.processChunks settings p { file := file, coverage := .create p.byteCount } chunks = (t, true)) :
    Accounted settings p t ∧ t.processed = chunks := by
  refine ⟨?_, by simpa using Transfer.processChunks_processed h⟩
  exact Transfer.processChunks_accepted (Q := fun _ => True) (fun t c t' _ ht hc => processChunk_accounted ht hc)
    (by simp) (start_accounted settings p file) h

end

lemma complete_iff {p : Params} (hp : p.byteCount ≤ 2 ^ 32 - 256) {chunks : List LogDataChunk}
    (hc : ∀ c ∈ chunks, c.count < 256) :
    (ReceivedRanges.ofAdds (pieces p chunks)).complete p.byteCount = true ↔
      ∀ x < p.byteCount, Received (pieces p chunks) x := by
  constructor
  · intro h x hx
    exact ReceivedRanges.received_of_covered (ReceivedRanges.complete_covered h hx)
  · intro h
    rcases Nat.eq_zero_or_pos p.byteCount with h₀ | h₀
    · simp [ReceivedRanges.complete, h₀]
    -- byte 0 is in an accepted chunk, so the window starts at 0 and no chunk of it wraps
    obtain ⟨a, ha, hle, hlt⟩ := h 0 h₀
    obtain ⟨c, _, rfl⟩ := List.mem_map.mp ha
    have hofs : p.byteOffset ≤ c.offset.toNat := writeLen_ge (by simp only at hle hlt; omega)
    have hwithin : ∀ a ∈ pieces p chunks, a.2 ≠ 0 → a.1 + a.2 ≤ p.byteCount := by
      intro a ha hn
      obtain ⟨c', hc', rfl⟩ := List.mem_map.mp ha
      have hw := writeLen_window (by simp only at hle; omega) (hc c' hc') hn
      simp only at hle ⊢
      omega
    refine ReceivedRanges.complete_of_covered (ReceivedRanges.ofAdds_bounded (by omega) hwithin) ?_
    intro x hx
    rw [ReceivedRanges.ofAdds_covered (by omega) hwithin]
    exact h x hx

lemma allSlots_iff {p : Params} {detect : Bool} {chunks : List LogDataChunk} {t : ChunkCoverageTracker}
    (h : Tracks p detect chunks t) (h₀ : chunkCountForSize p.byteCount ≠ 0) :
    t.allSlotsReceived = true ↔ ∀ slot < chunkCountForSize p.byteCount, ∃ c ∈ chunks, Marks p slot c := by
  rw [ChunkCoverageTracker.allSlotsReceived_iff h.shaped (by rwa [h.slotCount]), ← h.slotCount]
  exact forall₂_congr h.marks

theorem completion_tests_agree_iff (settings : DownloadSettings) (p : Params) (hp : p.byteCount ≤ 2 ^ 32 - 256)
    (file : OutputFile) (chunks : List LogDataChunk) (hchunks : ∀ c ∈ chunks, c.count < 256) (t : Transfer)
    (ht : Transfer.processChunks settings p { file := file, coverage := .create p.byteCount } chunks = (t, true)) :
    (t.ranges.complete p.byteCount = true → t.coverage.allSlotsReceived = true) ↔
      ((∀ x < p.byteCount, Received (pieces p chunks) x) →
        ∀ slot < chunkCountForSize p.byteCount, ∃ c ∈ chunks, Marks p slot c) := by
  obtain ⟨haccounted, hprocessed⟩ := accepted_accounted ht
  have htracks := haccounted.coverage
  rw [haccounted.ranges, hprocessed, complete_iff hp hchunks]
  rw [hprocessed] at htracks
  apply imp_congr_right
  intro _
  rcases Nat.eq_zero_or_pos p.byteCount with h₀ | h₀
  · have hcount : t.coverage.slotCount = 0 := by rw [htracks.slotCount, h₀, chunkCountForSize, if_pos rfl]
    rw [ChunkCoverageTracker.allSlotsReceived, if_pos hcount, htracks.totalSize, h₀]
    simp [chunkCountForSize]
  · apply allSlots_iff htracks
    rw [chunkCountForSize, if_neg (by omega), logChunkSize, add32_eq (by omega), sub32_eq (by omega) (by omega)]
    omega

theorem completion_tests_agree_iff_in_order :
    ∃ t, Transfer.processChunks {} ⟨1, 0, 91, 0, false⟩ { file := {}, coverage := .create 91 }
        [⟨1, 0, 90, List.replicate 90 0⟩, ⟨1, 90, 1, [1]⟩] = (t, true) ∧
      (t.ranges.complete 91 = true → t.coverage.allSlotsReceived = true) := by
  have hok : (Transfer.processChunks {} ⟨1, 0, 91, 0, false⟩ { file := {}, coverage := .create 91 }
      [⟨1, 0, 90, List.replicate 90 0⟩, ⟨1, 90, 1, [1]⟩]).2 = true := by decide +kernel
  refine ⟨_, Prod.ext rfl hok, ?_⟩
  refine (completion_tests_agree_iff {} ⟨1, 0, 91, 0, false⟩ (by norm_num) {} _ (by decide) _ (Prod.ext rfl hok)).mpr ?_
  intro _ slot hslot
  have hcount : chunkCountForSize 91 = 2 := by decide
  rw [hcount] at hslot
  interval_cases slot
  · exact ⟨_, List.mem_cons_self, by decide⟩
  · exact ⟨_, List.mem_cons_of_mem _ List.mem_cons_self, by decide⟩

def straddlingTicks : List Tick :=
  [{}, { messages := [.logData 1 0 45 (List.replicate 90 7), .logData 1 45 90 (List.replicate 90 7)] },
    { now := 4000, nowIdle := 4000 }]

/-- The second chunk crosses from slot 0 into slot 1: all bytes are there, the session polls on, and asks
for nothing although it has been idle for longer than `gap_fill_idle_ms`. -/
theorem straddling_chunk_blocks_completion :
    let s := straddlingTicks.foldl (StreamDownload.step {} ⟨1, 0, 135, 0, false⟩)
      (StreamDownload.start ⟨1, 0, 135, 0, false⟩ {} {})
    s.phase = .poll ∧ s.transfer.ranges.complete 135 = true ∧ s.transfer.coverage.allSlotsReceived = false ∧
      s.trace = [.request (.data 1 0 logStreamRequestCount)] := by
  decide +kernel

end MavlinkLogService.Session
