import MavlinkLogService.Library.Crc
import MavlinkLogService.Session.ReceivedChunks

/-! The slot fingerprint as a linear checksum, and the error bursts it tells apart. -/

namespace MavlinkLogService.Session

open Library Library.Crc

def crcPolynomial : BitVec 32 := 0xEDB88320#32

def paddedChunk (data : List UInt8) (count : ℕ) : List UInt8 :=
  let taken := data.take (min count logChunkSize)
  taken ++ List.replicate (logChunkSize - taken.length) 0

lemma toBitVec_crcBit (crc : UInt32) : (crcBit crc).toBitVec = step crcPolynomial crc.toBitVec := by
  have hlow : crc.toBitVec &&& 1#32 = (BitVec.ofBool (crc.toBitVec.getLsbD 0)).setWidth 32 :=
    BitVec.and_one_eq_setWidth_ofBool_getLsbD
  have hmask : (0 - (crc &&& 1)).toBitVec = if crc.toBitVec.getLsbD 0 then BitVec.allOnes 32 else 0#32 := by
    rw [UInt32.toBitVec_sub, UInt32.toBitVec_and, UInt32.toBitVec_one, hlow]
    cases crc.toBitVec.getLsbD 0 <;> rfl
  simp only [crcBit, step, crcPolynomial, UInt32.toBitVec_xor, UInt32.toBitVec_and, UInt32.toBitVec_shiftRight, hmask]
  cases crc.toBitVec.getLsbD 0 <;> rfl

lemma toBitVec_crcByte (crc : UInt32) (byte : UInt8) :
    (crcByte crc byte).toBitVec = register crcPolynomial crc.toBitVec (byteBits byte) := by
  have hsemiconj : Function.Semiconj UInt32.toBitVec crcBit (step crcPolynomial) := toBitVec_crcBit
  rw [register_byteBits crcPolynomial (by norm_num), crcByte, hsemiconj.iterate_right 8, UInt32.toBitVec_xor]
  rfl

lemma toBitVec_crcBytes (data : List UInt8) (crc : UInt32) :
    (data.foldl crcByte crc).toBitVec = register crcPolynomial crc.toBitVec (bits data) := by
  induction data generalizing crc with
  | nil => rfl
  | cons byte data ih => rw [List.foldl_cons, ih, toBitVec_crcByte, bits_cons, register_append]

lemma crc32_ne {x y : List UInt8} (hlen : x.length = y.length) (h : Burst 32 (bits x) (bits y)) (crc : UInt32) :
    crc32 x crc ≠ crc32 y crc := by
  intro heq
  have hregister := congrArg UInt32.toBitVec (UInt32.not_inj.mp heq)
  rw [toBitVec_crcBytes, toBitVec_crcBytes] at hregister
  exact register_burst (by decide) (by rw [length_bits, length_bits, hlen]) h _ hregister

lemma length_paddedChunk (data : List UInt8) (count : ℕ) : (paddedChunk data count).length = logChunkSize := by
  simp only [paddedChunk, List.length_append, List.length_take, List.length_replicate]
  omega

lemma fingerprint_eq_iff {data data' : List UInt8} {count count' : ℕ}
    (h : Burst 32 (bits (paddedChunk data count)) (bits (paddedChunk data' count'))) :
    fingerprintForSlot data count = fingerprintForSlot data' count' ↔
      crc32 (paddedChunk data count) = 0 ∧ crc32 (paddedChunk data' count') = 1 ∨
        crc32 (paddedChunk data count) = 1 ∧ crc32 (paddedChunk data' count') = 0 := by
  have hne : crc32 (paddedChunk data count) ≠ crc32 (paddedChunk data' count') :=
    crc32_ne (by rw [length_paddedChunk, length_paddedChunk]) h _
  have hprint : ∀ data count, fingerprintForSlot data count =
      if crc32 (paddedChunk data count) = 0 then 1 else crc32 (paddedChunk data count) := fun _ _ => rfl
  rw [hprint, hprint]
  generalize crc32 (paddedChunk data count) = fp at hne ⊢
  generalize crc32 (paddedChunk data' count') = fp' at hne ⊢
  split_ifs with h₁ h₂ h₂
  · exact absurd (h₁.trans h₂.symm) hne
  · simp [h₁, h₂, eq_comm]
  · simp [h₁, h₂]
  · simp [h₁, h₂, hne]

theorem crc32_detects_bursts :
    (∀ x y : List UInt8, x.length = y.length → Burst 32 (bits x) (bits y) → ∀ crc, crc32 x crc ≠ crc32 y crc) ∧
      ∀ (data data' : List UInt8) (count count' : ℕ),
        Burst 32 (bits (paddedChunk data count)) (bits (paddedChunk data' count')) →
          (fingerprintForSlot data count = fingerprintForSlot data' count' ↔
            crc32 (paddedChunk data count) = 0 ∧ crc32 (paddedChunk data' count') = 1 ∨
              crc32 (paddedChunk data count) = 1 ∧ crc32 (paddedChunk data' count') = 0) :=
  ⟨fun _ _ hlen h crc => crc32_ne hlen h crc, fun _ _ _ _ h => fingerprint_eq_iff h⟩

lemma burst_four {x y : List UInt8} (hx : x.length = 4) (hy : y.length = 4) (hne : bits x ≠ bits y)
    (rest : List UInt8) : Burst 32 (bits (x ++ rest)) (bits (y ++ rest)) := by
  rw [bits_append, bits_append]
  exact Burst.of_append (by rw [length_bits, length_bits, hx, hy]) (by rw [length_bits, hx]) hne [] _

theorem crc32_detects_bursts_in_four_bytes :
    crc32 [1, 0, 0, 0] ≠ crc32 [2, 0, 0, 0] ∧
      fingerprintForSlot [1, 0, 0, 0] 4 ≠ fingerprintForSlot [2, 0, 0, 0] 4 ∧
      fingerprintForSlot [233, 35, 3, 118] 4 = fingerprintForSlot [198, 254, 230, 23] 4 := by
  have hzeros : ∀ a b c d : UInt8, paddedChunk [a, b, c, d] 4 = [a, b, c, d] ++ List.replicate 86 0 :=
    fun _ _ _ _ => rfl
  refine ⟨?_, ?_, ?_⟩
  · have hplain := burst_four (x := [1, 0, 0, 0]) (y := [2, 0, 0, 0]) rfl rfl (by decide) []
    exact crc32_detects_bursts.1 [1, 0, 0, 0] [2, 0, 0, 0] rfl hplain _
  · rw [Ne, crc32_detects_bursts.2 _ _ _ _ (by rw [hzeros, hzeros]; exact burst_four rfl rfl (by decide) _)]
    decide +kernel
  · rw [crc32_detects_bursts.2 _ _ _ _ (by rw [hzeros, hzeros]; exact burst_four rfl rfl (by decide) _)]
    decide +kernel

theorem success_excludes_bursts (settings : DownloadSettings) (p : Params) (inbox : Inbox) (file : OutputFile)
    (ticks rest : List Tick) (r : StreamDownloadResult) (s : StreamDownload) (h₀ : p.byteCount ≠ 0)
    (hdetect : settings.detectOverlapConflict = true)
    (hr : StreamDownload.run settings p inbox file ticks = some (r, s, rest)) (hs : r.success = true) (slot : ℕ)
    (hslot : slot < chunkCountForSize p.byteCount) :
    let chunks := StreamDownload.received settings p (StreamDownload.start p inbox file) ticks
    ∀ c ∈ chunks, ∀ c' ∈ chunks, Marks p slot c → Marks p slot c' →
      Burst 32 (bits (slotPayload p c)) (bits (slotPayload p c')) →
        crc32 (slotPayload p c) = 0 ∧ crc32 (slotPayload p c') = 1 ∨
          crc32 (slotPayload p c) = 1 ∧ crc32 (slotPayload p c') = 0 := by
  intro chunks c hc c' hc' hm hm' hburst
  have hagree := ((StreamDownload.run_endsWell_iff h₀ inbox file ticks).mp ⟨r, s, rest, hr, hs⟩).2
  exact (fingerprint_eq_iff hburst).mp (hagree hdetect slot hslot c hc c' hc' hm hm')

theorem success_excludes_bursts_two_copies :
    let p : Params := ⟨1, 0, 4, 0, true⟩
    let first : LogDataChunk := ⟨1, 0, 4, [233, 35, 3, 118]⟩
    let second : LogDataChunk := ⟨1, 0, 4, [198, 254, 230, 23]⟩
    ∃ x, StreamDownload.run {} p {} {} [{}, { messages := [.logData 1 0 4 [233, 35, 3, 118],
        .logData 1 0 4 [198, 254, 230, 23]] }, {}] = some x ∧ x.1.success = true ∧
      (crc32 (slotPayload p first) = 0 ∧ crc32 (slotPayload p second) = 1 ∨
        crc32 (slotPayload p first) = 1 ∧ crc32 (slotPayload p second) = 0) := by
  intro p first second
  have hrun : (StreamDownload.run {} p {} {} [{}, { messages := [.logData 1 0 4 [233, 35, 3, 118],
      .logData 1 0 4 [198, 254, 230, 23]] }, {}]).any (fun x => decide (x.1.success = true)) = true := by decide +kernel
  obtain ⟨⟨r, s, rest⟩, hr, hs⟩ := (Option.any_eq_true _ _).mp hrun
  have hs := of_decide_eq_true hs
  refine ⟨_, hr, hs, ?_⟩
  have hreceived : StreamDownload.received {} p (StreamDownload.start p {} {}) [{}, { messages :=
      [.logData 1 0 4 [233, 35, 3, 118], .logData 1 0 4 [198, 254, 230, 23]] }, {}] = [first, second] := by
    decide +kernel
  refine success_excludes_bursts {} p {} {} _ rest r s (by decide) rfl hr hs 0 (by decide) first (by simp [hreceived])
    second (by simp [hreceived]) (by decide) (by decide) ?_
  exact burst_four (x := [233, 35, 3, 118]) (y := [198, 254, 230, 23]) rfl rfl (by decide) (List.replicate 86 0)

end MavlinkLogService.Session
