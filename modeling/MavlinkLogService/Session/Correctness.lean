import MavlinkLogService.Session.StreamDownload

/-! A successful session stores the log; its hashes are those of the bytes in their order of arrival. -/

namespace MavlinkLogService.LogMessage

def AgreesWith (L : List UInt8) (id : UInt16) : LogMessage → Prop
  | .logEntry _ => True
  | .logData i ofs count bytes => i = id → count.toNat ≤ bytes.length ∧
      ∀ k < count.toNat, ofs.toNat + k < L.length → bytes[k]? = L[ofs.toNat + k]?

def SliceOf (L : List UInt8) (id : UInt16) : LogMessage → Prop
  | .logEntry _ => True
  | .logData i ofs count bytes => i = id → ofs.toNat + count.toNat ≤ L.length ∧
      bytes.take count.toNat = (L.drop ofs.toNat).take count.toNat

instance (L : List UInt8) (id : UInt16) (m : LogMessage) : Decidable (m.AgreesWith L id) := by
  cases m <;> (unfold AgreesWith; infer_instance)

instance (L : List UInt8) (id : UInt16) (m : LogMessage) : Decidable (m.SliceOf L id) := by
  cases m <;> (unfold SliceOf; infer_instance)

end MavlinkLogService.LogMessage

namespace MavlinkLogService.Session

open StreamDownload Library.Intervals

section

variable {L : List UInt8} {id : UInt16}

lemma chunkOf_agrees (hL : L.length ≤ 2 ^ 32 - 256) {m : LogMessage} (hm : m.AgreesWith L id)
    {chunk : LogDataChunk} (hc : m.chunk? = some chunk) (hid : chunk.id = id) : ChunkOf L chunk := by
  obtain ⟨i, ofs, count, bytes, rfl, _, rfl⟩ := LogMessage.chunk_eq hc
  obtain ⟨hlen, hbytes⟩ := hm hid
  have hcount := count.toNat_lt
  refine ⟨?_, ?_, ?_⟩
  · simp only [List.length_take]
    omega
  · intro k hk hkL
    simp only at hk hkL ⊢
    rw [List.getElem?_take, if_pos hk]
    exact hbytes k hk hkL
  · intro hofs
    simp only at hofs ⊢
    omega

lemma chunkOf_slice (hL : L.length < 2 ^ 32) {m : LogMessage} (hm : m.SliceOf L id)
    {chunk : LogDataChunk} (hc : m.chunk? = some chunk) (hid : chunk.id = id) : ChunkOf L chunk := by
  obtain ⟨i, ofs, count, bytes, rfl, _, rfl⟩ := LogMessage.chunk_eq hc
  obtain ⟨hend, hbytes⟩ := hm hid
  refine ⟨?_, ?_, ?_⟩
  · simp only [hbytes, List.length_take, List.length_drop]
    omega
  · intro k hk hkL
    simp only at hk hkL ⊢
    rw [hbytes, List.getElem?_take, if_pos hk, List.getElem?_drop]
  · intro hofs
    simp only at hofs ⊢
    omega

end

lemma stored_start {L : List UInt8} {file : OutputFile} (hf : file.Reliable) (hnew : file.content = [])
    (coverage : ChunkCoverageTracker) :
    Transfer.Stored L { file := file, coverage := coverage } := by
  refine ⟨hf, ⟨by simp⟩, by simp [hnew], ?_⟩
  intro x hx
  simp at hx

lemma hashedAs_start (N : ℕ) (file : OutputFile) (coverage : ChunkCoverageTracker) :
    Transfer.HashedAs N [] { file := file, coverage := coverage } :=
  ⟨rfl, rfl, by simp, by simp⟩

lemma keeps_stored (settings : DownloadSettings) {L : List UInt8} {p : Params} (hp : WholeLog L p)
    (hw : p.writeFile = true) :
    Keeps settings p (fun chunk => chunk.id = p.logId → ChunkOf L chunk) (Transfer.Stored L) := by
  refine ⟨?_, ?_⟩
  · intro t chunk hid hc ht
    exact Transfer.processChunk_stored settings hp hw (hc hid) ht
  · intro t ht
    have hc := OutputFile.flush_content ht.reliable
    exact ⟨OutputFile.flush_reliable ht.reliable, ht.within, by rw [hc]; exact ht.size, by rw [hc]; exact ht.bytes⟩

lemma keeps_hashed (settings : DownloadSettings) (p : Params) (Q : LogDataChunk → Prop) :
    Keeps settings p Q (fun t => t.HashedAs (probeN p) (arrival p t.processed)) := by
  refine ⟨?_, ?_⟩
  · intro t chunk _ _ ht
    exact Transfer.processChunk_hashedAs settings p chunk ht
  · intro t ht
    exact ht.frame _ _ _ _

lemma stored_complete {L : List UInt8} {t : Transfer} (h : t.Stored L)
    (hc : t.ranges.complete L.length = true) : t.file.content = L := by
  apply List.ext_getElem?
  intro x
  rcases Nat.lt_or_ge x L.length with hx | hx
  · exact h.bytes x (ReceivedRanges.complete_covered hc hx)
  · have hsize := h.size
    rw [List.getElem?_eq_none (by omega), List.getElem?_eq_none hx]

theorem download_is_the_log (settings : DownloadSettings) (id : UInt16) (probeBytes : ℤ) (L : List UInt8)
    (h₁ : 1 ≤ L.length) (h₂ : L.length ≤ 2 ^ 32 - 256) (inbox : Inbox) (file : OutputFile)
    (hf : file.Reliable) (hnew : file.content = []) (ticks : List Tick)
    (hticks : ∀ tick ∈ ticks, ∀ m ∈ tick.messages, m.AgreesWith L id)
    (r : StreamDownloadResult) (s : StreamDownload) (rest : List Tick)
    (hr : run settings ⟨id, 0, L.length, probeBytes, true⟩ inbox file ticks = some (r, s, rest))
    (hs : r.success = true) :
    s.transfer.file.content = L ∧ r.ranges.bytesReceived = L.length := by
  have hp : WholeLog L ⟨id, 0, L.length, probeBytes, true⟩ := ⟨rfl, rfl, by omega⟩
  have hreceives : ∀ tick ∈ ticks, tick.Receives (fun chunk => chunk.id = id → ChunkOf L chunk) := by
    intro tick ht m hm chunk hc hid
    exact chunkOf_agrees h₂ (hticks tick ht m hm) hc hid
  obtain ⟨hstored, hdone⟩ :=
    run_completed (keeps_stored settings hp rfl) (stored_start hf hnew _) hreceives hr hs
  refine ⟨stored_complete hstored hdone.complete, ?_⟩
  rw [hdone.ranges]
  exact ReceivedRanges.complete_bytes hdone.complete hstored.within h₁ (by omega)

def twoChunkLog : List UInt8 := List.replicate 90 0 ++ [1]

def inOrderTicks : List Tick :=
  [{}, { messages := [.logData 1 0 90 (List.replicate 90 0), .logData 1 90 1 [1]] }]

def swappedTicks : List Tick :=
  [{}, { messages := [.logData 1 90 1 [1], .logData 1 0 90 (List.replicate 90 0)] }]

theorem download_is_the_log_swapped :
    ∃ x, run {} ⟨1, 0, 91, 90, true⟩ {} {} swappedTicks = some x ∧ x.1.success = true ∧
      x.2.1.transfer.file.content = twoChunkLog ∧ x.1.ranges.bytesReceived = 91 := by
  have h : (run {} ⟨1, 0, 91, 90, true⟩ {} {} swappedTicks).any (fun x => x.1.success) = true := by
    decide +kernel
  obtain ⟨x, hx, hs⟩ := (Option.any_eq_true _ _).mp h
  exact ⟨x, hx, hs, download_is_the_log {} 1 90 twoChunkLog (by decide) (by decide) {} {}
    ⟨rfl, fun _ => rfl⟩ rfl swappedTicks (by decide) x.1 x.2.1 x.2.2 hx hs⟩

lemma completed_hashes {p : Params} {t : Transfer} {S : List UInt8} {r : StreamDownloadResult}
    (h : t.HashedAs (probeN p) S) (hd : Completed p t r) :
    r.sha256 = Sha256.hashHex S ∧ ∃ m ≤ S.length, r.probeSha256 = Sha256.hashHex (S.take m) ∧
      (S.length < 2 ^ 32 → m = min (probeN p) S.length) := by
  refine ⟨by rw [hd.sha256, h.hasher, Sha256.hashHex], ?_⟩
  rw [hd.probe]
  by_cases hz : probeN p = 0
  · rw [if_pos hz]
    exact ⟨0, Nat.zero_le _, by rw [List.take_zero], by simp [hz]⟩
  rw [if_neg hz]
  cases hf : t.probeFinalized with
  | false =>
    have he := h.early hf
    refine ⟨S.length, le_refl _, ?_, ?_⟩
    · simp only [Bool.not_false, if_true]
      rw [List.take_length, h.hasher, Sha256.hashHex]
    · intro hS
      omega
  | true =>
    obtain ⟨m, hm, hN, hsha⟩ := h.probe hf
    refine ⟨m, hm, ?_, ?_⟩
    · simpa only [Bool.not_true, Bool.false_eq_true, if_false] using hsha
    · intro hS
      omega

def HashCollision (S L : List UInt8) : Prop :=
  ∃ a b, a <+: S ∧ b <+: L ∧ a ≠ b ∧ Sha256.hashHex a = Sha256.hashHex b

lemma eq_of_hashHex {S L a b : List UInt8} (h : ¬ HashCollision S L) (ha : a <+: S) (hb : b <+: L)
    (hh : Sha256.hashHex a = Sha256.hashHex b) : a = b := by
  by_contra hne
  exact h ⟨a, b, ha, hb, hne, hh⟩

lemma probeN_eq_iff {L : List UInt8} {p : Params} (hp : WholeLog L p) (h₀ : 0 ≤ p.probeBytes)
    (h₁ : p.probeBytes < 2 ^ 31) :
    min (probeN p) L.length = min p.probeBytes.toNat L.length ↔ L.length < 2 ^ 31 := by
  have hs := hp.small
  rw [probeN, hp.count]
  rcases Nat.lt_or_ge L.length (2 ^ 31) with hL | hL
  · rw [probeCount_small h₀ hL]
    omega
  · rw [probeCount_large h₀ hL hs]
    omega

theorem recorded_hashes (settings : DownloadSettings) (id : UInt16) (probeBytes : ℤ)
    (h₀ : 0 ≤ probeBytes) (h₁ : probeBytes < 2 ^ 31) (L : List UInt8) (hL : L.length < 2 ^ 32)
    (inbox : Inbox) (file : OutputFile) (hf : file.Reliable) (hnew : file.content = [])
    (ticks : List Tick) (hticks : ∀ tick ∈ ticks, ∀ m ∈ tick.messages, m.SliceOf L id)
    (p : Params) (hp : p = ⟨id, 0, L.length, probeBytes, true⟩)
    (r : StreamDownloadResult) (s : StreamDownload) (rest : List Tick)
    (hr : run settings p inbox file ticks = some (r, s, rest)) (hs : r.success = true) :
    s.transfer.file.content = L ∧
      (arrival p s.transfer.processed = L ∧ L.length < 2 ^ 31 →
        r.sha256 = Sha256.hashHex s.transfer.file.content ∧
          r.probeSha256 = Sha256.hashHex (L.take (min probeBytes.toNat L.length))) ∧
      (¬ HashCollision (arrival p s.transfer.processed) L →
        (r.sha256 = Sha256.hashHex s.transfer.file.content ∧
            r.probeSha256 = Sha256.hashHex (L.take (min probeBytes.toNat L.length)) ↔
          arrival p s.transfer.processed = L ∧ L.length < 2 ^ 31)) := by
  have hw : WholeLog L p := by
    rw [hp]
    exact ⟨rfl, rfl, hL⟩
  have hreceives : ∀ tick ∈ ticks, tick.Receives (fun chunk => chunk.id = p.logId → ChunkOf L chunk) := by
    intro tick ht m hm chunk hc hid
    rw [hp] at hid
    exact chunkOf_slice hL (hticks tick ht m hm) hc hid
  obtain ⟨hstored, hdone⟩ :=
    run_completed (keeps_stored settings hw (by rw [hp])) (stored_start hf hnew _) hreceives hr hs
  obtain ⟨hhashed, _⟩ :=
    run_completed (keeps_hashed settings p _) (hashedAs_start (probeN p) file _) hreceives hr hs
  have hfile : s.transfer.file.content = L := by
    refine stored_complete hstored ?_
    rw [← hw.count]
    exact hdone.complete
  obtain ⟨hsha, m, hm, hprobe, hmin⟩ := completed_hashes hhashed hdone
  have hcut := probeN_eq_iff hw (by rw [hp]; exact h₀) (by rw [hp]; exact h₁)
  have hpb : p.probeBytes = probeBytes := by rw [hp]
  rw [hpb] at hcut
  have hif : arrival p s.transfer.processed = L ∧ L.length < 2 ^ 31 →
      r.sha256 = Sha256.hashHex s.transfer.file.content ∧
        r.probeSha256 = Sha256.hashHex (L.take (min probeBytes.toNat L.length)) := by
    rintro ⟨hS, hlt⟩
    rw [hS] at hsha hprobe hmin
    exact ⟨by rw [hsha, hfile], by rw [hprobe, hmin hL, hcut.mpr hlt]⟩
  refine ⟨hfile, hif, ?_⟩
  intro hcol
  refine ⟨?_, hif⟩
  rintro ⟨h256, hpr⟩
  have hS : arrival p s.transfer.processed = L := by
    apply eq_of_hashHex hcol (List.prefix_refl _) (List.prefix_refl _)
    rw [← hsha, h256, hfile]
  have htake := eq_of_hashHex hcol (List.take_prefix m _) (List.take_prefix _ L) (hprobe.symm.trans hpr)
  refine ⟨hS, hcut.mp ?_⟩
  have hlen := congrArg List.length htake
  rw [hS] at hlen hmin hm
  rw [hmin hL] at hlen
  simp only [List.length_take] at hlen
  omega

theorem recorded_hashes_in_order :
    ∃ x, run {} ⟨1, 0, 91, 90, true⟩ {} {} inOrderTicks = some x ∧ x.1.success = true ∧
      x.1.sha256 = Sha256.hashHex x.2.1.transfer.file.content ∧
      x.1.probeSha256 = Sha256.hashHex (twoChunkLog.take 90) := by
  have h : (run {} ⟨1, 0, 91, 90, true⟩ {} {} inOrderTicks).any (fun x => decide (x.1.success = true ∧
      arrival ⟨1, 0, 91, 90, true⟩ x.2.1.transfer.processed = twoChunkLog)) = true := by
    decide +kernel
  obtain ⟨x, hx, hd⟩ := (Option.any_eq_true _ _).mp h
  obtain ⟨hs, ha⟩ := of_decide_eq_true hd
  have hh := recorded_hashes {} 1 90 (by decide) (by decide) twoChunkLog (by decide) {} {}
    ⟨rfl, fun _ => rfl⟩ rfl inOrderTicks (by decide) ⟨1, 0, 91, 90, true⟩ rfl x.1 x.2.1 x.2.2 hx hs
  exact ⟨x, hx, hs, hh.2.1 ⟨ha, by decide⟩⟩

theorem recorded_hashes_swapped :
    (∀ tick ∈ swappedTicks, ∀ m ∈ tick.messages, m.SliceOf twoChunkLog 1) ∧
      ∃ x, run {} ⟨1, 0, 91, 90, true⟩ {} {} swappedTicks = some x ∧ x.1.success = true ∧
        x.2.1.transfer.file.content = twoChunkLog ∧ x.1.sha256 ≠ Sha256.hashHex twoChunkLog ∧
        x.1.probeSha256 ≠ Sha256.hashHex (twoChunkLog.take 90) := by
  refine ⟨by decide, ?_⟩
  have h : (run {} ⟨1, 0, 91, 90, true⟩ {} {} swappedTicks).any (fun x => decide (x.1.success = true ∧
      x.2.1.transfer.file.content = twoChunkLog ∧ x.1.sha256 ≠ Sha256.hashHex twoChunkLog ∧
      x.1.probeSha256 ≠ Sha256.hashHex (twoChunkLog.take 90))) = true := by decide +kernel
  simpa [Option.any_eq_true] using h

end MavlinkLogService.Session
