import MavlinkLogService.Session.ChunkCoverage
import MavlinkLogService.Session.Inbox
import MavlinkLogService.Session.OutputFile
import MavlinkLogService.Session.Sha256

/-! What the streaming session does with one received chunk: the file, the coverage, the running
hash and the received ranges. -/

namespace MavlinkLogService.Session

/-- The locals of a session that `processQueuedChunks` takes by reference. `processed` keeps the chunks
it went through, in order; nothing reads it. -/
structure Transfer where
  file : OutputFile
  ranges : ReceivedRanges := {}
  coverage : ChunkCoverageTracker
  hasher : Sha256.Context := Sha256.init
  probeFinalized : Bool := false
  hashedBytes : ℕ := 0
  probeSha256 : String := ""
  processed : List LogDataChunk := []

def writeLen (p : Params) (chunk : LogDataChunk) : ℕ :=
  let ofs := chunk.offset.toNat
  let stop := add32 p.byteOffset p.byteCount
  if ofs < p.byteOffset ∨ stop ≤ ofs then 0
  else if stop < add32 ofs chunk.count then sub32 stop ofs
  else chunk.count

def probeN (p : Params) : ℕ := probeCount p.probeBytes p.byteCount

namespace Transfer

def hashChunk (probeN : ℕ) (t : Transfer) (data : List UInt8) : Transfer :=
  let n := data.length
  if !t.probeFinalized && probeN ≤ add32 t.hashedBytes n then
    let probeTake := sub32 probeN t.hashedBytes
    let atProbe := Sha256.update t.hasher (data.take probeTake)
    { t with
      hasher := Sha256.update atProbe (data.drop probeTake)
      probeSha256 := Sha256.finalizeHex atProbe
      probeFinalized := true
      hashedBytes := add32 t.hashedBytes n }
  else
    { t with
      hasher := Sha256.update t.hasher data
      hashedBytes := add32 t.hashedBytes n }

def writeChunk (p : Params) (t : Transfer) (ofs : ℕ) (data : List UInt8) : Transfer :=
  if p.writeFile then { t with file := (t.file.seekp ofs).write data } else t

def processChunk (settings : DownloadSettings) (p : Params) (t : Transfer) (chunk : LogDataChunk) :
    Transfer × Bool :=
  let n := writeLen p chunk
  if n = 0 then ({ t with processed := t.processed ++ [chunk] }, true)
  else
    let ofs := chunk.offset.toNat
    let data := chunk.data.take n
    let (coverage, ok) := t.coverage.record ofs chunk.data n settings.detectOverlapConflict
    let t := { t.writeChunk p ofs data with coverage := coverage }
    if ok then
      let t := t.hashChunk (probeN p) data
      ({ t with ranges := t.ranges.add ofs n, processed := t.processed ++ [chunk] }, true)
    else (t, false)

def processChunks (settings : DownloadSettings) (p : Params) :
    Transfer → List LogDataChunk → Transfer × Bool
  | t, [] => (t, true)
  | t, chunk :: chunks =>
    match t.processChunk settings p chunk with
    | (t', true) => processChunks settings p t' chunks
    | (t', false) => (t', false)

end Transfer

def arrival (p : Params) (chunks : List LogDataChunk) : List UInt8 :=
  chunks.flatMap (fun chunk => chunk.data.take (writeLen p chunk))

structure ChunkOf (L : List UInt8) (chunk : LogDataChunk) : Prop where
  length : chunk.data.length = chunk.count
  bytes : ∀ i < chunk.count, chunk.offset.toNat + i < L.length →
    chunk.data[i]? = L[chunk.offset.toNat + i]?
  room : chunk.offset.toNat < L.length → chunk.offset.toNat + chunk.count < 2 ^ 32

structure WholeLog (L : List UInt8) (p : Params) : Prop where
  offset : p.byteOffset = 0
  count : p.byteCount = L.length
  small : L.length < 2 ^ 32

lemma arrival_snoc (p : Params) (chunks : List LogDataChunk) (chunk : LogDataChunk) :
    arrival p (chunks ++ [chunk]) = arrival p chunks ++ chunk.data.take (writeLen p chunk) := by
  simp [arrival]

section

variable {L : List UInt8} {p : Params} {chunk : LogDataChunk}

lemma writeLen_ge (h : writeLen p chunk ≠ 0) : p.byteOffset ≤ chunk.offset.toNat := by
  by_contra hlt
  exact h (if_pos (Or.inl (not_le.mp hlt)))

lemma writeLen_le (p : Params) (chunk : LogDataChunk) : writeLen p chunk ≤ chunk.count := by
  have hwrap : add32 chunk.offset.toNat chunk.count ≤ chunk.offset.toNat + chunk.count := Nat.mod_le _ _
  have hstop : add32 p.byteOffset p.byteCount < 2 ^ 32 := Nat.mod_lt _ (by norm_num)
  simp only [writeLen]
  split_ifs with h₁ h₂
  · exact Nat.zero_le _
  · rw [sub32_eq (by omega) hstop]
    omega
  · exact le_rfl

lemma writeLen_window (hp : p.byteOffset + p.byteCount ≤ 2 ^ 32 - 256) (hc : chunk.count < 256)
    (h : writeLen p chunk ≠ 0) : p.byteOffset ≤ chunk.offset.toNat ∧
      chunk.offset.toNat + writeLen p chunk ≤ p.byteOffset + p.byteCount := by
  have hstop : add32 p.byteOffset p.byteCount = p.byteOffset + p.byteCount := add32_eq (by omega)
  simp only [writeLen, hstop] at h ⊢
  split_ifs at h ⊢ with h₁ h₂
  · exact absurd rfl h
  · rw [sub32_eq (by omega) (by omega)]
    omega
  · rw [add32_eq (by omega)] at h₂
    omega

lemma writeLen_whole (hp : WholeLog L p) (hc : ChunkOf L chunk) :
    writeLen p chunk = min chunk.count (L.length - chunk.offset.toNat) := by
  have hs := hp.small
  have hstop : add32 p.byteOffset p.byteCount = L.length := by
    rw [hp.offset, hp.count, add32_eq (by omega), Nat.zero_add]
  simp only [writeLen, hp.offset, hp.count] at hstop ⊢
  rw [hstop]
  rcases Nat.lt_or_ge chunk.offset.toNat L.length with hlt | hge
  · have hr := hc.room hlt
    rw [if_neg (by omega), add32_eq hr]
    split_ifs with h
    · rw [sub32_eq hlt.le hs]
      omega
    · omega
  · rw [if_pos (Or.inr hge)]
    omega

lemma piece_length (hp : WholeLog L p) (hc : ChunkOf L chunk) :
    (chunk.data.take (writeLen p chunk)).length = writeLen p chunk := by
  rw [List.length_take, hc.length, writeLen_whole hp hc]
  omega

lemma piece_end (hp : WholeLog L p) (hc : ChunkOf L chunk) (h : writeLen p chunk ≠ 0) :
    chunk.offset.toNat + writeLen p chunk ≤ L.length := by
  rw [writeLen_whole hp hc] at h ⊢
  omega

lemma piece_bytes (hp : WholeLog L p) (hc : ChunkOf L chunk) {i : ℕ} (hi : i < writeLen p chunk) :
    (chunk.data.take (writeLen p chunk))[i]? = L[chunk.offset.toNat + i]? := by
  rw [List.getElem?_take, if_pos hi]
  rw [writeLen_whole hp hc] at hi
  exact hc.bytes i (by omega) (by omega)

end

namespace Transfer

section

variable (N : ℕ) (p : Params) (t : Transfer) (ofs : ℕ) (d : List UInt8)

@[simp] lemma hashChunk_file : (t.hashChunk N d).file = t.file := by
  simp only [hashChunk]
  split_ifs <;> rfl

@[simp] lemma hashChunk_ranges : (t.hashChunk N d).ranges = t.ranges := by
  simp only [hashChunk]
  split_ifs <;> rfl

@[simp] lemma hashChunk_coverage : (t.hashChunk N d).coverage = t.coverage := by
  simp only [hashChunk]
  split_ifs <;> rfl

@[simp] lemma hashChunk_processed : (t.hashChunk N d).processed = t.processed := by
  simp only [hashChunk]
  split_ifs <;> rfl

@[simp] lemma writeChunk_ranges : (t.writeChunk p ofs d).ranges = t.ranges := by
  rw [writeChunk]
  split_ifs <;> rfl

@[simp] lemma writeChunk_processed : (t.writeChunk p ofs d).processed = t.processed := by
  rw [writeChunk]
  split_ifs <;> rfl

end

structure Stored (L : List UInt8) (t : Transfer) : Prop where
  reliable : t.file.Reliable
  within : t.ranges.Within L.length
  size : t.file.content.length ≤ L.length
  bytes : ∀ x, Library.Intervals.Covered t.ranges.ranges x → t.file.content[x]? = L[x]?

structure HashedAs (N : ℕ) (S : List UInt8) (t : Transfer) : Prop where
  hasher : t.hasher = Sha256.update Sha256.init S
  count : t.hashedBytes = S.length % 2 ^ 32
  early : t.probeFinalized = false → S.length % 2 ^ 32 ≤ N
  probe : t.probeFinalized = true →
    ∃ m ≤ S.length, m % 2 ^ 32 = N ∧ t.probeSha256 = Sha256.hashHex (S.take m)

lemma HashedAs.frame {N : ℕ} {S : List UInt8} {t : Transfer} (h : HashedAs N S t) (file : OutputFile)
    (ranges : ReceivedRanges) (coverage : ChunkCoverageTracker) (processed : List LogDataChunk) :
    HashedAs N S { t with file := file, ranges := ranges, coverage := coverage, processed := processed } :=
  ⟨h.hasher, h.count, h.early, h.probe⟩

lemma hashChunk_hashedAs {N : ℕ} {S : List UInt8} {t : Transfer} (h : HashedAs N S t)
    (hN : N < 2 ^ 32) (d : List UInt8) : HashedAs N (S ++ d) (t.hashChunk N d) := by
  have hcount : add32 t.hashedBytes d.length = (S ++ d).length % 2 ^ 32 := by
    rw [add32, h.count, List.length_append, Nat.mod_add_mod]
  have hle : add32 t.hashedBytes d.length ≤ t.hashedBytes + d.length := Nat.mod_le _ _
  simp only [hashChunk]
  split_ifs with hc
  · simp only [Bool.and_eq_true, Bool.not_eq_true', decide_eq_true_eq] at hc
    have he : t.hashedBytes ≤ N := by
      rw [h.count]
      exact h.early hc.1
    have htake : sub32 N t.hashedBytes = N - t.hashedBytes := sub32_eq he hN
    refine ⟨?_, hcount, by simp, ?_⟩
    · rw [← Sha256.update_append, List.take_append_drop, h.hasher, Sha256.update_append]
    · intro _
      have hm := h.count
      refine ⟨S.length + (N - t.hashedBytes), ?_, by omega, ?_⟩
      · rw [List.length_append]
        omega
      · have hcut : (S ++ d).take (S.length + (N - t.hashedBytes)) = S ++ d.take (N - t.hashedBytes) :=
          List.take_length_add_append _
        simp only [htake, h.hasher, hcut, Sha256.hashHex, Sha256.update_append]
  · refine ⟨?_, hcount, ?_, ?_⟩
    · rw [h.hasher, Sha256.update_append]
    · intro hf
      have hf' : t.probeFinalized = false := hf
      simp only [hf', Bool.not_false, Bool.true_and, decide_eq_true_eq, not_le] at hc
      omega
    · intro hf
      obtain ⟨m, hm, hN', hs⟩ := h.probe hf
      refine ⟨m, by rw [List.length_append]; omega, hN', ?_⟩
      rw [hs, List.take_append_of_le_length hm]

lemma writeChunk_stored {L : List UInt8} {t : Transfer} (h : Stored L t) {p : Params}
    (hp : p.writeFile = true) {ofs : ℕ} {d : List UInt8} (hd : ofs + d.length ≤ L.length)
    (hb : ∀ i < d.length, d[i]? = L[ofs + i]?) : Stored L (t.writeChunk p ofs d) := by
  rw [writeChunk, if_pos hp]
  refine ⟨OutputFile.write_reliable h.reliable ofs d, h.within, ?_, ?_⟩
  · rw [OutputFile.write_content h.reliable]
    by_cases hn : d = []
    · rw [Library.overwrite, if_pos hn]
      exact h.size
    · rw [Library.overwrite_length 0 _ _ _ hn]
      exact max_le h.size hd
  · intro x hx
    rw [OutputFile.write_content h.reliable]
    by_cases hin : ofs ≤ x ∧ x < ofs + d.length
    · rw [Library.overwrite_inside 0 _ _ _ _ hin.1 hin.2, hb _ (by omega), Nat.add_sub_cancel' hin.1]
    · have hold := h.bytes x hx
      obtain ⟨q, hq, hx₁, hx₂⟩ := hx
      have hw := (h.within.bounds q hq).2
      have hlen : x < t.file.content.length := by
        by_contra hge
        rw [List.getElem?_eq_none (by omega), eq_comm, List.getElem?_eq_none_iff] at hold
        omega
      rw [Library.overwrite_outside 0 _ _ _ _ hlen (by omega), hold]

lemma writeChunk_written {L : List UInt8} {t : Transfer} (h : Stored L t) {p : Params}
    (hp : p.writeFile = true) {ofs : ℕ} {d : List UInt8} (hb : ∀ i < d.length, d[i]? = L[ofs + i]?)
    {x : ℕ} (h₁ : ofs ≤ x) (h₂ : x < ofs + d.length) :
    (t.writeChunk p ofs d).file.content[x]? = L[x]? := by
  rw [writeChunk, if_pos hp]
  simp only [OutputFile.write_content h.reliable]
  rw [Library.overwrite_inside 0 _ _ _ _ h₁ h₂, hb _ (by omega), Nat.add_sub_cancel' h₁]

lemma processChunk_stored {L : List UInt8} {t : Transfer} (settings : DownloadSettings) {p : Params}
    {chunk : LogDataChunk} (hp : WholeLog L p) (hf : p.writeFile = true) (hc : ChunkOf L chunk)
    (h : Stored L t) : Stored L (t.processChunk settings p chunk).1 := by
  by_cases hn : writeLen p chunk = 0
  · rw [processChunk, if_pos hn]
    exact ⟨h.reliable, h.within, h.size, h.bytes⟩
  have hlen := piece_length hp hc
  have hend := piece_end hp hc hn
  have hbytes : ∀ i < (chunk.data.take (writeLen p chunk)).length,
      (chunk.data.take (writeLen p chunk))[i]? = L[chunk.offset.toNat + i]? := by
    intro i hi
    exact piece_bytes hp hc (by omega)
  have hw := writeChunk_stored h hf (by omega) hbytes
  have hs := hp.small
  simp only [processChunk, if_neg hn]
  split_ifs with hok
  · refine ⟨by simpa using hw.reliable, ?_, by simpa using hw.size, ?_⟩
    · simpa using ReceivedRanges.add_within h.within hend hs
    · intro x hx
      simp only [hashChunk_ranges, writeChunk_ranges] at hx
      simp only [hashChunk_file]
      rcases (ReceivedRanges.covered_add (by omega)).mp hx with hx | hx
      · exact hw.bytes x (by simpa using hx)
      · exact writeChunk_written h hf hbytes hx.1 (by omega)
  · exact ⟨hw.reliable, hw.within, hw.size, hw.bytes⟩

lemma writeChunk_hashedAs {N : ℕ} {S : List UInt8} {t : Transfer} (h : HashedAs N S t) (p : Params)
    (ofs : ℕ) (d : List UInt8) : HashedAs N S (t.writeChunk p ofs d) := by
  rw [writeChunk]
  split_ifs
  · exact h.frame _ _ _ _
  · exact h

lemma processChunk_hashedAs {t : Transfer} (settings : DownloadSettings) (p : Params)
    (chunk : LogDataChunk) (h : HashedAs (probeN p) (arrival p t.processed) t) :
    HashedAs (probeN p) (arrival p (t.processChunk settings p chunk).1.processed)
      (t.processChunk settings p chunk).1 := by
  by_cases hn : writeLen p chunk = 0
  · rw [processChunk, if_pos hn]
    simp only [arrival_snoc, hn, List.take_zero, List.append_nil]
    exact h.frame _ _ _ _
  have hw := (writeChunk_hashedAs h p chunk.offset.toNat (chunk.data.take (writeLen p chunk)))
  simp only [processChunk, if_neg hn]
  split_ifs with hok
  · simp only [hashChunk_processed, writeChunk_processed, arrival_snoc]
    apply HashedAs.frame
    exact hashChunk_hashedAs (hw.frame _ _ _ _) (probeCount_lt _ _) _
  · simp only [writeChunk_processed]
    exact hw.frame _ _ _ _

lemma processChunks_invariant {I : Transfer → Prop} {Q : LogDataChunk → Prop}
    {settings : DownloadSettings} {p : Params}
    (hI : ∀ t chunk, Q chunk → I t → I (t.processChunk settings p chunk).1) {t : Transfer}
    {chunks : List LogDataChunk} (hQ : ∀ chunk ∈ chunks, Q chunk) (ht : I t) :
    I (t.processChunks settings p chunks).1 := by
  induction chunks generalizing t with
  | nil => exact ht
  | cons chunk chunks ih =>
    have hhead := hI t chunk (hQ chunk List.mem_cons_self) ht
    rw [processChunks]
    rcases hc : t.processChunk settings p chunk with ⟨t', ok⟩
    rw [hc] at hhead
    cases ok with
    | false => exact hhead
    | true => exact ih (fun c hm => hQ c (List.mem_cons_of_mem chunk hm)) hhead

lemma processChunks_cons {settings : DownloadSettings} {p : Params} {t t' : Transfer} {chunk : LogDataChunk}
    {chunks : List LogDataChunk} (h : t.processChunks settings p (chunk :: chunks) = (t', true)) :
    ∃ t₁, t.processChunk settings p chunk = (t₁, true) ∧ t₁.processChunks settings p chunks = (t', true) := by
  rw [processChunks] at h
  rcases hc : t.processChunk settings p chunk with ⟨t₁, ok⟩
  rw [hc] at h
  cases ok with
  | false => cases h
  | true => exact ⟨t₁, rfl, h⟩

lemma processChunks_accepted {I : Transfer → Prop} {Q : LogDataChunk → Prop} {settings : DownloadSettings}
    {p : Params} (hI : ∀ t chunk t', Q chunk → I t → t.processChunk settings p chunk = (t', true) → I t')
    {t t' : Transfer} {chunks : List LogDataChunk} (hQ : ∀ chunk ∈ chunks, Q chunk) (ht : I t)
    (h : t.processChunks settings p chunks = (t', true)) : I t' := by
  induction chunks generalizing t with
  | nil =>
    obtain ⟨rfl, _⟩ := Prod.mk.inj h
    exact ht
  | cons chunk chunks ih =>
    obtain ⟨t₁, hc, hrest⟩ := processChunks_cons h
    have ht₁ := hI t chunk t₁ (hQ chunk List.mem_cons_self) ht hc
    exact ih (fun c hm => hQ c (List.mem_cons_of_mem chunk hm)) ht₁ hrest

lemma processChunk_processed {settings : DownloadSettings} {p : Params} {t t' : Transfer} {chunk : LogDataChunk}
    (h : t.processChunk settings p chunk = (t', true)) : t'.processed = t.processed ++ [chunk] := by
  by_cases hn : writeLen p chunk = 0
  · rw [processChunk, if_pos hn] at h
    rw [← (Prod.mk.inj h).1]
  · simp only [processChunk, if_neg hn] at h
    split_ifs at h
    · rw [← (Prod.mk.inj h).1]
      simp
    · cases (Prod.mk.inj h).2

lemma processChunks_processed {settings : DownloadSettings} {p : Params} {t t' : Transfer} {chunks : List LogDataChunk}
    (h : t.processChunks settings p chunks = (t', true)) : t'.processed = t.processed ++ chunks := by
  induction chunks generalizing t with
  | nil =>
    obtain ⟨rfl, _⟩ := Prod.mk.inj h
    simp
  | cons chunk chunks ih =>
    obtain ⟨t₁, hc, hrest⟩ := processChunks_cons h
    rw [ih hrest, processChunk_processed hc, List.append_assoc, List.singleton_append]

end Transfer

end MavlinkLogService.Session
