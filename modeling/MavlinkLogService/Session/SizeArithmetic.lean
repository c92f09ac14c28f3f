import MavlinkLogService.Session.Transfer
import Mathlib.Algebra.Order.Floor.Div

/-! The 32-bit arithmetic of one session, and the sizes for which it is exact. -/

namespace MavlinkLogService.Session

open Library.Intervals

structure ExactFor (p : Params) (chunk : LogDataChunk) : Prop where
  slots : chunkCountForSize p.byteCount = p.byteCount ⌈/⌉ logChunkSize
  inRange : ∀ offset < p.byteCount, chunkSlotIndex offset < (ChunkCoverageTracker.create p.byteCount).slotCount
  clipped : writeLen p chunk = min chunk.count (p.byteCount - chunk.offset.toNat)
  added : ∀ settings t t', Transfer.processChunk settings p t chunk = (t', true) →
    ∃ stop ≤ p.byteCount, stop = chunk.offset.toNat + min chunk.count (p.byteCount - chunk.offset.toNat) ∧
      t'.ranges.ranges = merge (t.ranges.ranges ++ [(chunk.offset.toNat, stop)])

lemma chunkCountForSize_exact {size : ℕ} (h₀ : 0 < size) (h : size ≤ 2 ^ 32 - 90) :
    chunkCountForSize size = size ⌈/⌉ logChunkSize := by
  rw [chunkCountForSize, if_neg h₀.ne', Nat.ceilDiv_eq_add_pred_div, logChunkSize]
  -- the sum with 90 may reach `2 ^ 32`, and then the subtraction of 1 wraps back
  have hsum : sub32 (add32 size 90) 1 = size + 90 - 1 := by
    rw [sub32, add32]
    omega
  rw [hsum]

lemma chunkCountForSize_wrapped {size : ℕ} (hs : size < 2 ^ 32) (h : 2 ^ 32 - 90 < size) :
    chunkCountForSize size = 0 := by
  have hsum : sub32 (add32 size 90) 1 < 90 := by
    rw [sub32, add32]
    omega
  rw [chunkCountForSize, if_neg (by omega), logChunkSize]
  exact Nat.div_eq_of_lt hsum

namespace Transfer

lemma processChunk_added {settings : DownloadSettings} {p : Params} {t t' : Transfer} {chunk : LogDataChunk}
    (h : t.processChunk settings p chunk = (t', true)) (hn : writeLen p chunk ≠ 0) :
    t'.ranges.ranges =
      merge (t.ranges.ranges ++ [(chunk.offset.toNat, add32 chunk.offset.toNat (writeLen p chunk))]) := by
  simp only [processChunk, if_neg hn] at h
  split_ifs at h
  · rw [← (Prod.mk.inj h).1]
    simp [ReceivedRanges.add, hn]
  · cases (Prod.mk.inj h).2

end Transfer

theorem session_arithmetic_exact_iff (p : Params) (hofs : p.byteOffset = 0) (h₀ : 1 ≤ p.byteCount)
    (hn : p.byteCount < 2 ^ 32) (chunk : LogDataChunk) (hc : chunk.offset.toNat < p.byteCount)
    (hpos : 1 ≤ chunk.count) (hlen : chunk.count ≤ 90) :
    ExactFor p chunk ↔ p.byteCount ≤ 2 ^ 32 - 90 := by
  constructor
  · intro h
    by_contra hlarge
    have hslot := h.inRange 0 h₀
    simp only [ChunkCoverageTracker.create, chunkCountForSize_wrapped hn (not_le.mp hlarge)] at hslot
    exact Nat.not_lt_zero _ hslot
  · intro hsmall
    have hslots := chunkCountForSize_exact h₀ hsmall
    have hclip : writeLen p chunk = min chunk.count (p.byteCount - chunk.offset.toNat) := by
      simp only [writeLen, hofs]
      rw [add32_eq (by omega), add32_eq (by omega), if_neg (by omega)]
      split_ifs with h
      · rw [sub32_eq (by omega) (by omega)]
        omega
      · omega
    refine ⟨hslots, fun offset hoffset => ?_, hclip, fun settings t t' h => ?_⟩
    · simp only [ChunkCoverageTracker.create, hslots, chunkSlotIndex, Nat.ceilDiv_eq_add_pred_div, logChunkSize]
      omega
    · refine ⟨_, by omega, rfl, ?_⟩
      rw [Transfer.processChunk_added h (by omega), hclip, add32_eq (by omega)]

theorem session_arithmetic_exact_iff_last_chunk :
    ExactFor { logId := 1, byteOffset := 0, byteCount := 100, probeBytes := 0 } ⟨1, 90, 90, List.replicate 90 7⟩ :=
  (session_arithmetic_exact_iff _ rfl (by norm_num) (by norm_num) _ (by decide) (by norm_num) le_rfl).mpr (by norm_num)

/-- For the largest size there is no slot at all, the last byte's chunk is written in full, 89 bytes past
the end, and the interval recorded for it ends before it starts. -/
theorem largest_size_not_exact :
    let p : Params := { logId := 1, byteOffset := 0, byteCount := 2 ^ 32 - 1, probeBytes := 0 }
    let chunk : LogDataChunk := ⟨1, 4294967294, 90, List.replicate 90 7⟩
    (ChunkCoverageTracker.create p.byteCount).slotCount = 0 ∧ writeLen p chunk = 90 ∧
      (ReceivedRanges.add {} chunk.offset.toNat (writeLen p chunk)).ranges = [(2 ^ 32 - 2, 88)] ∧
      ¬ ExactFor p chunk := by
  have hslots : chunkCountForSize (2 ^ 32 - 1) = 0 := chunkCountForSize_wrapped (by norm_num) (by norm_num)
  refine ⟨hslots, by decide, by decide, fun h => ?_⟩
  have hzero := h.inRange 0 (by norm_num)
  simp only [ChunkCoverageTracker.create, hslots] at hzero
  exact Nat.not_lt_zero _ hzero

end MavlinkLogService.Session
