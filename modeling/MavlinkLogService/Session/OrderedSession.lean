import MavlinkLogService.Session.Correctness
import MavlinkLogService.Session.ReceivedChunks

/-! Sessions that take the chunks of a log from the queue in the order of their offsets. -/

namespace MavlinkLogService.Session

open StreamDownload

def logChunk (id : UInt16) (L : List UInt8) (k : ℕ) : LogDataChunk :=
  let data := (L.drop (logChunkSize * k)).take logChunkSize
  ⟨id, UInt32.ofNat (logChunkSize * k), data.length, data⟩

def logChunks (id : UInt16) (L : List UInt8) : List LogDataChunk :=
  (List.range ((L.length + (logChunkSize - 1)) / logChunkSize)).map (logChunk id L)

section Chunks

variable {p : Params} {id : UInt16} {L : List UInt8}

lemma logChunks_length (id : UInt16) (L : List UInt8) : (logChunks id L).length = (L.length + 89) / 90 := by
  simp [logChunks, logChunkSize]

lemma logChunk_count (id : UInt16) (L : List UInt8) (k : ℕ) : (logChunk id L k).count = min 90 (L.length - 90 * k) := by
  simp [logChunk, logChunkSize]

lemma logChunk_offset (id : UInt16) (hL : L.length < 2 ^ 31) {k : ℕ} (hk : k < (L.length + 89) / 90) :
    (logChunk id L k).offset.toNat = 90 * k := by
  simp only [logChunk, logChunkSize, UInt32.toNat_ofNat']
  omega

lemma logChunks_take {k : ℕ} (hk : k ≤ (L.length + 89) / 90) :
    (logChunks id L).take k = (List.range k).map (logChunk id L) := by
  rw [logChunks, ← List.map_take, List.take_range, logChunkSize]
  congr 2
  omega

lemma mem_initial {chunks : List LogDataChunk} (h : chunks <+: logChunks id L) {c : LogDataChunk} :
    c ∈ chunks ↔ ∃ k < chunks.length, c = logChunk id L k := by
  have hle := h.length_le
  rw [logChunks_length] at hle
  rw [List.prefix_iff_eq_take.mp h, logChunks_take hle, List.length_map, List.length_range]
  simp only [List.mem_map, List.mem_range]
  exact exists_congr fun k => and_congr_right fun _ => eq_comm

lemma writeLen_logChunk (hofs : p.byteOffset = 0) (hn : p.byteCount ≤ L.length) (hL : L.length < 2 ^ 31) {k : ℕ}
    (hk : k < (L.length + 89) / 90) : writeLen p (logChunk id L k) = min 90 (p.byteCount - 90 * k) := by
  have hstop : add32 0 p.byteCount = p.byteCount := by
    rw [add32_eq (by omega), Nat.zero_add]
  have hend : add32 (90 * k) (min 90 (L.length - 90 * k)) = 90 * k + min 90 (L.length - 90 * k) := add32_eq (by omega)
  simp only [writeLen, hofs, hstop, logChunk_offset id hL hk, logChunk_count, hend]
  split_ifs with h₁ h₂
  · omega
  · rw [sub32_eq (by omega) (by omega)]
    omega
  · omega

lemma arrival_ordered (hofs : p.byteOffset = 0) (hn : p.byteCount ≤ L.length) (hL : L.length < 2 ^ 31) {k : ℕ}
    (hk : k ≤ (L.length + 89) / 90) :
    arrival p ((List.range k).map (logChunk id L)) = (L.take p.byteCount).take (90 * k) := by
  induction k with
  | zero => simp [arrival]
  | succ k ih =>
    have hpiece : (logChunk id L k).data.take (min 90 (p.byteCount - 90 * k)) =
      ((L.take p.byteCount).drop (90 * k)).take 90 := by
      rw [List.drop_take, List.take_take]
      exact (List.take_take ..).trans (by rw [logChunkSize]; congr 1; omega)
    rw [List.range_succ, List.map_append, List.map_singleton, arrival_snoc, ih (by omega),
      writeLen_logChunk hofs hn hL (by omega), hpiece, ← List.take_add, Nat.mul_succ]

lemma arrival_prefix (hofs : p.byteOffset = 0) (hn : p.byteCount ≤ L.length) (hL : L.length < 2 ^ 31)
    {chunks : List LogDataChunk} (h : chunks <+: logChunks id L) (hcover : p.byteCount ≤ 90 * chunks.length) :
    arrival p chunks = L.take p.byteCount := by
  have hle := h.length_le
  rw [logChunks_length] at hle
  rw [List.prefix_iff_eq_take.mp h, logChunks_take hle, arrival_ordered hofs hn hL hle, List.take_of_length_le]
  rw [List.length_take]
  omega

lemma mem_logChunks {c : LogDataChunk} : c ∈ logChunks id L ↔ ∃ k < (L.length + 89) / 90, c = logChunk id L k := by
  simp only [logChunks, logChunkSize, List.mem_map, List.mem_range]
  exact exists_congr fun k => and_congr_right fun _ => eq_comm

lemma logChunks_agree (hL : L.length < 2 ^ 31) {chunks : List LogDataChunk} (h : chunks ⊆ logChunks id L)
    (detect : Bool) : Agree p detect chunks := by
  intro _ slot _ c hc c' hc' hm hm'
  obtain ⟨k, hk, rfl⟩ := mem_logChunks.mp (h hc)
  obtain ⟨k', hk', rfl⟩ := mem_logChunks.mp (h hc')
  have hofs := hm.2.trans hm'.2.symm
  rw [logChunk_offset id hL hk, logChunk_offset id hL hk'] at hofs
  obtain rfl : k = k' := by omega
  rfl

lemma slots_logChunks (hL : L.length < 2 ^ 31) (hn : p.byteCount ≤ L.length) (h₀ : p.byteCount ≠ 0) :
    chunkCountForSize p.byteCount = (p.byteCount + 89) / 90 := by
  rw [chunkCountForSize, if_neg h₀, logChunkSize, add32_eq (by omega), sub32_eq (by omega) (by omega)]
  omega

lemma completes_of_slots (hofs : p.byteOffset = 0) (hn : p.byteCount ≤ L.length) (hL : L.length < 2 ^ 31)
    (h₀ : p.byteCount ≠ 0) {chunks : List LogDataChunk} (h : chunks ⊆ logChunks id L)
    (hmem : ∀ k < (p.byteCount + 89) / 90, logChunk id L k ∈ chunks) : Completes p chunks := by
  have hslots := slots_logChunks hL hn h₀
  refine ⟨(complete_iff (by omega) ?_).mpr ?_, by rw [hslots]; omega, ?_⟩
  · intro c hc
    obtain ⟨k, _, rfl⟩ := mem_logChunks.mp (h hc)
    rw [logChunk_count]
    omega
  · intro x hx
    refine ⟨_, List.mem_map_of_mem (hmem (x / 90) (by omega)), ?_⟩
    simp only
    rw [logChunk_offset id hL (by omega), writeLen_logChunk hofs hn hL (by omega)]
    omega
  · intro slot hslot
    rw [hslots] at hslot
    refine ⟨_, hmem slot hslot, ?_, ?_⟩
    · rw [writeLen_logChunk hofs hn hL (by omega)]
      omega
    · rw [logChunk_offset id hL (by omega), logChunkSize]

lemma completes_ordered (hofs : p.byteOffset = 0) (hn : p.byteCount ≤ L.length) (hL : L.length < 2 ^ 31)
    (h₀ : p.byteCount ≠ 0) {chunks : List LogDataChunk} (h : chunks <+: logChunks id L)
    (hcover : p.byteCount ≤ 90 * chunks.length) : Completes p chunks := by
  refine completes_of_slots hofs hn hL h₀ h.subset fun k hk => ?_
  exact (mem_initial h).mpr ⟨k, by omega, rfl⟩

end Chunks

namespace StreamDownload

variable {settings : DownloadSettings} {p : Params} {s : StreamDownload}

lemma run_ordered {L : List UInt8} (hofs : p.byteOffset = 0) (hn : p.byteCount ≤ L.length) (hL : L.length < 2 ^ 31)
    {inbox : Inbox} {file : OutputFile} {ticks : List Tick}
    (hpre : received settings p (start p inbox file) ticks <+: logChunks p.logId L)
    (hcover : p.byteCount ≤ 90 * (received settings p (start p inbox file) ticks).length) :
    ∃ r s rest, run settings p inbox file ticks = some (r, s, rest) ∧ r.success = true ∧
      arrival p s.transfer.processed = L.take p.byteCount := by
  by_cases h₀ : p.byteCount = 0
  · obtain ⟨r, hphase, hok, htransfer⟩ := start_empty h₀ inbox file
    refine ⟨r, _, ticks, runFrom_done ticks hphase, hok, ?_⟩
    rw [htransfer, h₀, List.take_zero]
    rfl
  · obtain ⟨r, s, rest, hrun, hok⟩ := (run_endsWell_iff h₀ inbox file ticks).mpr
      ⟨completes_ordered hofs hn hL h₀ hpre hcover, logChunks_agree hL hpre.subset _⟩
    refine ⟨r, s, rest, hrun, hok, ?_⟩
    rw [run_processed h₀ hrun hok]
    exact arrival_prefix hofs hn hL hpre hcover

lemma run_probe {L : List UInt8} {inbox : Inbox} {file : OutputFile} {ticks rest : List Tick} {r : StreamDownloadResult}
    (hr : run settings p inbox file ticks = some (r, s, rest)) (hs : r.success = true)
    (harrival : arrival p s.transfer.processed = L.take p.byteCount) (hn : p.byteCount ≤ L.length)
    (hL : L.length < 2 ^ 32) :
    r.probeSha256 = Sha256.hashHex (L.take (min (probeN p) p.byteCount)) ∧
      (p.byteCount ≠ 0 → r.probeBytes = toInt32 (probeN p)) := by
  obtain ⟨hhashed, hdone⟩ := run_completed (keeps_hashed settings p fun _ => True)
    (hashedAs_start (probeN p) file _) (fun _ _ _ _ _ _ => trivial) hr hs
  obtain ⟨_, m, _, hprobe, hmin⟩ := completed_hashes hhashed hdone
  have hlen : (L.take p.byteCount).length = p.byteCount := by
    rw [List.length_take]
    omega
  rw [harrival, hlen] at hmin
  rw [harrival, hmin (by omega), List.take_take, min_assoc, min_self] at hprobe
  exact ⟨hprobe, hdone.probeBytes⟩

end StreamDownload

end MavlinkLogService.Session
