import MavlinkLogService.Session.Correctness

/-! Sessions over the first bytes of a log whose flight controller answers with slices of it. -/

namespace MavlinkLogService.Session

open StreamDownload

variable {settings : DownloadSettings} {p : Params} {L : List UInt8}

lemma chunkOf_take (hL : L.length < 2 ^ 32) (n : ℕ) {m : LogMessage} {id : UInt16} (hm : m.SliceOf L id)
    {chunk : LogDataChunk} (hc : m.chunk? = some chunk) (hid : chunk.id = id) :
    ChunkOf (L.take n) chunk := by
  have h := chunkOf_slice hL hm hc hid
  have hlen : (L.take n).length ≤ L.length := by
    rw [List.length_take]
    omega
  refine ⟨h.length, ?_, ?_⟩
  · intro i hi hin
    rw [h.bytes i hi (by omega), List.getElem?_take, if_pos]
    rw [List.length_take] at hin
    omega
  · intro hofs
    exact h.room (by omega)

structure Inside (L : List UInt8) (chunk : LogDataChunk) : Prop where
  stop : chunk.offset.toNat + chunk.count ≤ L.length

lemma inside_slice {m : LogMessage} {id : UInt16} (hm : m.SliceOf L id) {chunk : LogDataChunk}
    (hc : m.chunk? = some chunk) (hid : chunk.id = id) : Inside L chunk := by
  obtain ⟨i, ofs, count, bytes, rfl, _, rfl⟩ := LogMessage.chunk_eq hc
  exact ⟨(hm hid).1⟩

lemma writeLen_inside (hL : L.length < 2 ^ 32) (hofs : p.byteOffset = 0) (hn : p.byteCount < 2 ^ 32)
    {chunk : LogDataChunk} (h : Inside L chunk) :
    chunk.offset.toNat + writeLen p chunk ≤ L.length := by
  have hstop := h.stop
  have hp : add32 p.byteOffset p.byteCount = p.byteCount := by
    rw [hofs, add32_eq (by omega), Nat.zero_add]
  simp only [writeLen, hp]
  rw [add32_eq (by omega)]
  split_ifs with h₁ h₂
  · omega
  · rw [sub32_eq (by omega) hn]
    omega
  · exact hstop

lemma keeps_within (hL : L.length < 2 ^ 32) (hofs : p.byteOffset = 0) (hn : p.byteCount < 2 ^ 32) :
    Keeps settings p (fun chunk => chunk.id = p.logId → Inside L chunk)
      (fun t => t.ranges.Within L.length) := by
  refine ⟨?_, fun t ht => ht⟩
  intro t chunk hid hc ht
  have hw := writeLen_inside hL hofs hn (hc hid)
  by_cases hz : writeLen p chunk = 0
  · rw [Transfer.processChunk, if_pos hz]
    exact ht
  · simp only [Transfer.processChunk, if_neg hz]
    split_ifs
    · simpa using ReceivedRanges.add_within ht hw hL
    · simpa using ht

def positions (p : Params) (chunks : List LogDataChunk) : List ℕ :=
  chunks.flatMap (fun chunk => List.range' chunk.offset.toNat (writeLen p chunk))

lemma positions_snoc (p : Params) (chunks : List LogDataChunk) (chunk : LogDataChunk) :
    positions p (chunks ++ [chunk]) =
      positions p chunks ++ List.range' chunk.offset.toNat (writeLen p chunk) := by
  simp [positions]

structure Spanned (p : Params) (t : Transfer) : Prop where
  covered : ∀ x, Library.Intervals.Covered t.ranges.ranges x → x ∈ positions p t.processed
  length : (positions p t.processed).length = (arrival p t.processed).length

lemma keeps_spanned (hp : WholeLog L p) :
    Keeps settings p (fun chunk => chunk.id = p.logId → ChunkOf L chunk) (Spanned p) := by
  refine ⟨?_, fun t ht => ⟨ht.covered, ht.length⟩⟩
  intro t chunk hid hc ht
  have hlen := piece_length hp (hc hid)
  have hsnoc : (positions p (t.processed ++ [chunk])).length = (arrival p (t.processed ++ [chunk])).length := by
    rw [positions_snoc, arrival_snoc, List.length_append, List.length_append, List.length_range', hlen, ht.length]
  by_cases hz : writeLen p chunk = 0
  · rw [Transfer.processChunk, if_pos hz]
    refine ⟨?_, hsnoc⟩
    intro x hx
    rw [positions_snoc]
    exact List.mem_append_left _ (ht.covered x hx)
  · simp only [Transfer.processChunk, if_neg hz]
    split_ifs
    · refine ⟨?_, by simpa using hsnoc⟩
      intro x hx
      have hend := piece_end hp (hc hid) hz
      have hsmall := hp.small
      simp only [Transfer.hashChunk_ranges, Transfer.writeChunk_ranges] at hx
      simp only [Transfer.hashChunk_processed, Transfer.writeChunk_processed, positions_snoc, List.mem_append]
      rcases (ReceivedRanges.covered_add (by omega)).mp hx with hx | hx
      · exact Or.inl (ht.covered x hx)
      · exact Or.inr (List.mem_range'_1.mpr hx)
    · exact ⟨by simpa using ht.covered, by simpa using ht.length⟩

lemma Spanned.arrival_length {t : Transfer} (h : Spanned p t) {n : ℕ} (hc : t.ranges.complete n = true) :
    n ≤ (arrival p t.processed).length := by
  have hsub : List.range n ⊆ positions p t.processed := by
    intro x hx
    exact h.covered x (ReceivedRanges.complete_covered hc (List.mem_range.mp hx))
  have hle := (List.subperm_of_subset List.nodup_range hsub).length_le
  rwa [List.length_range, h.length] at hle

def ProbeInOrder (L : List UInt8) (p : Params) (processed : List LogDataChunk) : Prop :=
  probeN p ≠ 0 → (arrival p processed).length < 2 ^ 32 ∧ (arrival p processed).take (probeN p) <+: L.take p.byteCount

instance (L : List UInt8) (p : Params) (processed : List LogDataChunk) : Decidable (ProbeInOrder L p processed) := by
  unfold ProbeInOrder
  infer_instance

lemma ProbeInOrder.of_arrival {processed : List LogDataChunk} (hL : L.length < 2 ^ 32)
    (h : arrival p processed <+: L.take p.byteCount) : ProbeInOrder L p processed := by
  refine fun _ => ⟨?_, (List.take_prefix _ _).trans h⟩
  exact (h.trans (List.take_prefix _ _)).length_le.trans_lt hL

lemma take_min_length {S X : List UInt8} {n : ℕ} (h : S.take n <+: X) (hlen : X.length ≤ S.length) :
    S.take (min n S.length) = X.take (min n X.length) := by
  have hle := h.length_le
  rw [List.length_take] at hle
  calc S.take (min n S.length) = S.take n := by rw [← List.take_take, List.take_length]
    _ = X.take (S.take n).length := List.prefix_iff_eq_take.mp h
    _ = X.take (min n X.length) := by
      rw [List.length_take]
      congr 1
      omega

structure HonestOutcome (L : List UInt8) (p : Params) (file file' : OutputFile)
    (processed : List LogDataChunk) (r : StreamDownloadResult) : Prop where
  count : p.byteCount ≤ L.length
  content : p.writeFile = true → file.Reliable → file.content = [] → file'.content = L.take p.byteCount
  probe : ProbeInOrder L p processed → r.probeSha256 = Sha256.hashHex (L.take (min (probeN p) p.byteCount))
  probeBytes : p.byteCount ≠ 0 → r.probeBytes = toInt32 (probeN p)

lemma honest_session {inbox : Inbox} {file : OutputFile} {ticks rest : List Tick}
    {r : StreamDownloadResult} {s : StreamDownload} (hL : L.length < 2 ^ 32) (hofs : p.byteOffset = 0)
    (hn : p.byteCount < 2 ^ 32)
    (hticks : ∀ tick ∈ ticks, ∀ m ∈ tick.messages, m.SliceOf L p.logId)
    (hr : run settings p inbox file ticks = some (r, s, rest)) (hs : r.success = true) :
    HonestOutcome L p file s.transfer.file s.transfer.processed r := by
  have hinside : ∀ tick ∈ ticks, tick.Receives (fun chunk => chunk.id = p.logId → Inside L chunk) := by
    intro tick ht m hm chunk hc hid
    exact inside_slice (hticks tick ht m hm) hc hid
  have hchunks : ∀ tick ∈ ticks,
      tick.Receives (fun chunk => chunk.id = p.logId → ChunkOf (L.take p.byteCount) chunk) := by
    intro tick ht m hm chunk hc hid
    exact chunkOf_take hL p.byteCount (hticks tick ht m hm) hc hid
  obtain ⟨hwithin, hdone⟩ := run_completed (keeps_within hL hofs hn) ⟨by simp⟩ hinside hr hs
  have hcount : p.byteCount ≤ L.length := by
    by_cases hz : p.byteCount = 0
    · omega
    · obtain ⟨e, hranges, he⟩ := ReceivedRanges.complete_single hdone.complete (by omega)
      have hb := hwithin.bounds (0, e) (by simp [hranges])
      exact he.trans hb.2
  have htake : (L.take p.byteCount).length = p.byteCount := by
    rw [List.length_take]
    omega
  have hp : WholeLog (L.take p.byteCount) p := ⟨hofs, htake.symm, by omega⟩
  refine ⟨hcount, ?_, ?_, hdone.probeBytes⟩
  · intro hw hf hnew
    obtain ⟨hstored, _⟩ := run_completed (keeps_stored settings hp hw) (stored_start hf hnew _) hchunks hr hs
    refine stored_complete hstored ?_
    rw [htake]
    exact hdone.complete
  · intro hin
    by_cases hz : probeN p = 0
    · rw [hdone.probe, if_pos hz, hz, Nat.zero_min, List.take_zero]
    obtain ⟨hlt, hprefix⟩ := hin hz
    obtain ⟨hspan, _⟩ := run_completed (keeps_spanned hp) ⟨by simp, by simp [positions, arrival]⟩ hchunks hr hs
    obtain ⟨hhashed, _⟩ := run_completed (keeps_hashed settings p _) (hashedAs_start (probeN p) file _) hchunks hr hs
    obtain ⟨_, m, _, hprobe, hmin⟩ := completed_hashes hhashed hdone
    -- at least the whole log was hashed, so the probe ends at the log's end if not before
    have hlen : (L.take p.byteCount).length ≤ (arrival p s.transfer.processed).length := by
      rw [htake]
      exact hspan.arrival_length hdone.complete
    rw [hprobe, hmin hlt, take_min_length hprefix hlen, htake, List.take_take, min_assoc, min_self]

end MavlinkLogService.Session
