import MavlinkLogService.Library.Bytes
import MavlinkLogService.Session.SlotCoverage

/-! What a slot tracker holds after an arbitrary sequence of calls. -/

namespace MavlinkLogService.Session

open Library

/-- The arguments of one call of `record`; `none` is the null pointer. -/
structure RecordCall where
  offset : ℕ
  data : Option (List UInt8)
  count : ℕ
  detectOverlap : Bool
  deriving DecidableEq, Repr

namespace RecordCall

def apply (t : ChunkCoverageTracker) (call : RecordCall) : ChunkCoverageTracker × Bool :=
  match call.data with
  | none => (t, true)
  | some data => t.record call.offset data call.count call.detectOverlap

def NonEmpty (call : RecordCall) : Prop := call.count ≠ 0 ∧ call.data ≠ none

instance (call : RecordCall) : Decidable call.NonEmpty := inferInstanceAs (Decidable (_ ∧ _))

def At (slot : ℕ) (call : RecordCall) : Prop := call.NonEmpty ∧ call.offset = logChunkSize * slot

instance (slot : ℕ) (call : RecordCall) : Decidable (call.At slot) := inferInstanceAs (Decidable (_ ∧ _))

def Lands (slotCount : ℕ) (call : RecordCall) : Prop :=
  call.NonEmpty ∧ call.offset % logChunkSize = 0 ∧ chunkSlotIndex call.offset < slotCount

instance (slotCount : ℕ) (call : RecordCall) : Decidable (call.Lands slotCount) :=
  inferInstanceAs (Decidable (_ ∧ _ ∧ _))

def fingerprint (call : RecordCall) : UInt32 := fingerprintForSlot (call.data.getD []) call.count

end RecordCall

def recordAll (total : ℕ) (calls : List RecordCall) : ChunkCoverageTracker :=
  calls.foldl (fun t call => (call.apply t).1) (.create total)

def firstAt (calls : List RecordCall) (slot : ℕ) : Option RecordCall := calls.find? fun call => decide (call.At slot)

def conflictCount (slotCount : ℕ) (calls : List RecordCall) : ℕ :=
  calls.countP fun call => decide (call.Lands slotCount ∧
    (firstAt calls (chunkSlotIndex call.offset)).map (·.fingerprint) ≠ some call.fingerprint)

section Bitmap

lemma and_slotBit (byte : UInt8) (slot : ℕ) : (byte &&& slotBit slot != 0) = byte.toBitVec.getLsbD (slot % 8) := by
  have hall : ∀ i : Fin 8, (1 <<< i.val.toUInt8 : UInt8).toBitVec = BitVec.twoPow 8 i ∧ BitVec.twoPow 8 i ≠ 0 := by
    decide
  obtain ⟨hbit, hne⟩ := hall ⟨slot % 8, Nat.mod_lt _ (by norm_num)⟩
  rw [Bool.eq_iff_iff, bne_iff_ne, Ne, ← UInt8.toBitVec_inj, UInt8.toBitVec_and, slotBit, hbit, BitVec.and_twoPow]
  cases byte.toBitVec.getLsbD (slot % 8) with
  | false => simp
  | true => simpa using hne

lemma bitmapTest_eq (bitmap : List UInt8) (slot : ℕ) : bitmapTest bitmap slot = ((bits bitmap)[slot]?).getD false := by
  rw [bitmapTest, and_slotBit, getElem?_bits, List.getD_eq_getElem?_getD]
  cases bitmap[slot / 8]? <;> simp

end Bitmap

section

variable {total : ℕ} {calls : List RecordCall} {call : RecordCall} {t : ChunkCoverageTracker} {slot : ℕ}

lemma lands_iff {slotCount : ℕ} : call.Lands slotCount ↔ ∃ slot < slotCount, call.At slot := by
  constructor
  · rintro ⟨hfull, hgrid, hslot⟩
    refine ⟨_, hslot, hfull, ?_⟩
    rw [chunkSlotIndex, logChunkSize] at *
    omega
  · rintro ⟨slot, hslot, hfull, hoffset⟩
    rw [RecordCall.Lands, hoffset, chunkSlotIndex, Nat.mul_mod_right, Nat.mul_div_cancel_left _ (by decide)]
    exact ⟨hfull, rfl, hslot⟩

lemma RecordCall.At.slot_eq (h : call.At slot) : chunkSlotIndex call.offset = slot := by
  rw [chunkSlotIndex, h.2, Nat.mul_div_cancel_left _ (by decide)]

lemma firstAt_snoc (calls : List RecordCall) (call : RecordCall) (slot : ℕ) :
    firstAt (calls ++ [call]) slot = (firstAt calls slot).or (if call.At slot then some call else none) := by
  rw [firstAt, firstAt, List.find?_append, List.find?_singleton]
  simp

lemma firstAt_isSome : (firstAt calls slot).isSome = true ↔ ∃ call ∈ calls, call.At slot := by
  simp [firstAt]

lemma conflictCount_snoc (slotCount : ℕ) (calls : List RecordCall) (call : RecordCall) :
    conflictCount slotCount (calls ++ [call]) = conflictCount slotCount calls +
      if call.Lands slotCount ∧ ∃ first, firstAt calls (chunkSlotIndex call.offset) = some first ∧
        first.fingerprint ≠ call.fingerprint then 1 else 0 := by
  have hkept : ∀ c ∈ calls, c.Lands slotCount →
      firstAt (calls ++ [call]) (chunkSlotIndex c.offset) = firstAt calls (chunkSlotIndex c.offset) := by
    intro c hc hlands
    obtain ⟨slot, _, hat⟩ := lands_iff.mp hlands
    have hsome := firstAt_isSome.mpr ⟨c, hc, hat⟩
    rw [hat.slot_eq, firstAt_snoc, Option.or_of_isSome hsome]
  have hlast : (call.Lands slotCount ∧ (firstAt (calls ++ [call]) (chunkSlotIndex call.offset)).map (·.fingerprint) ≠
      some call.fingerprint) ↔ call.Lands slotCount ∧ ∃ first, firstAt calls (chunkSlotIndex call.offset) = some first ∧
        first.fingerprint ≠ call.fingerprint := by
    apply and_congr_right
    intro hlands
    obtain ⟨slot, _, hat⟩ := lands_iff.mp hlands
    rw [hat.slot_eq, firstAt_snoc, if_pos hat]
    cases firstAt calls slot <;> simp
  rw [conflictCount, List.countP_append, List.countP_singleton, conflictCount]
  simp only [decide_eq_true_eq, hlast]
  congr 1
  apply List.countP_congr
  intro c hc
  rw [decide_eq_true_eq, decide_eq_true_eq]
  apply and_congr_right
  intro hlands
  rw [hkept c hc hlands]

lemma conflictCount_le_snoc (slotCount : ℕ) (calls : List RecordCall) (call : RecordCall) :
    conflictCount slotCount calls ≤ conflictCount slotCount (calls ++ [call]) := by
  rw [conflictCount_snoc]
  exact Nat.le_add_right _ _

structure Follows (total : ℕ) (calls : List RecordCall) (t : ChunkCoverageTracker) : Prop where
  shaped : t.Shaped
  totalSize : t.totalSize = total
  slotCount : t.slotCount = chunkCountForSize total
  inside : ∀ slot, bitmapTest t.bitmap slot = true → slot < t.slotCount
  marks : ∀ slot < t.slotCount, bitmapTest t.bitmap slot = (firstAt calls slot).isSome
  prints : ∀ slot < t.slotCount, ∀ call, firstAt calls slot = some call → t.fingerprints[slot]? = some call.fingerprint
  conflicts : (∀ call ∈ calls, call.detectOverlap = true) →
    t.overlapConflicts = conflictCount t.slotCount calls % 2 ^ 32

lemma apply_ignored (h : ¬ call.Lands t.slotCount) : call.apply t = (t, true) := by
  rw [RecordCall.apply]
  cases hdata : call.data with
  | none => rfl
  | some data =>
    by_cases hcount : call.count = 0
    · simp [ChunkCoverageTracker.record, hcount]
    · apply ChunkCoverageTracker.record_ignored
      by_contra hin
      rw [not_or, not_not, not_le] at hin
      exact h ⟨⟨hcount, by simp [hdata]⟩, hin⟩

lemma apply_recorded (h : call.Lands t.slotCount) :
    ChunkCoverageTracker.Recorded t (chunkSlotIndex call.offset) call.fingerprint call.detectOverlap
      (call.apply t).1 (call.apply t).2 := by
  obtain ⟨⟨hcount, hdata⟩, hgrid, hslot⟩ := h
  obtain ⟨data, hdata⟩ := Option.ne_none_iff_exists'.mp hdata
  rw [RecordCall.apply, RecordCall.fingerprint, hdata]
  exact ChunkCoverageTracker.record_recorded hcount hgrid hslot data call.detectOverlap

lemma apply_answer (h : call.Lands t.slotCount) (hdetect : call.detectOverlap = true) :
    (call.apply t).2 = ((call.apply t).1.overlapConflicts == 0) := by
  have hrecorded := apply_recorded h
  generalize call.apply t = r at hrecorded ⊢
  obtain ⟨t', ok⟩ := r
  simp only at hrecorded ⊢
  cases hrecorded with
  | fresh unset => simp [hdetect, ChunkCoverageTracker.marked]
  | repeated isSet agrees => simp [hdetect]
  | conflict isSet detects differs => rfl

lemma create_follows (total : ℕ) : Follows total [] (.create total) := by
  have hunset := ChunkCoverageTracker.bitmapTest_create total
  refine ⟨ChunkCoverageTracker.create_shaped _, rfl, rfl, ?_, ?_, ?_, ?_⟩
  · simp [hunset]
  · simp [hunset, firstAt]
  · simp [firstAt]
  · simp [ChunkCoverageTracker.create, conflictCount]

namespace Follows

variable (h : Follows total calls t)

include h

lemma snoc_kept (hfirst : ∀ slot < t.slotCount, call.At slot → (firstAt calls slot).isSome = true) {n : ℕ}
    (hcount : (∀ c ∈ calls ++ [call], c.detectOverlap = true) →
      n = conflictCount t.slotCount (calls ++ [call]) % 2 ^ 32) :
    Follows total (calls ++ [call]) { t with overlapConflicts := n } := by
  have hsame : ∀ slot < t.slotCount, firstAt (calls ++ [call]) slot = firstAt calls slot := by
    intro slot hslot
    rw [firstAt_snoc]
    split_ifs with hat
    · exact Option.or_of_isSome (hfirst slot hslot hat)
    · exact Option.or_none
  refine ⟨⟨h.shaped.small, h.shaped.bitmap, h.shaped.fingerprints, h.shaped.count⟩, h.totalSize, h.slotCount, h.inside,
    ?_, ?_, hcount⟩
  · intro slot hslot
    rw [hsame slot hslot]
    exact h.marks slot hslot
  · intro slot hslot
    rw [hsame slot hslot]
    exact h.prints slot hslot

lemma snoc_fresh (hlands : call.Lands t.slotCount) (unset : bitmapTest t.bitmap (chunkSlotIndex call.offset) = false) :
    Follows total (calls ++ [call]) (t.marked (chunkSlotIndex call.offset) call.fingerprint) := by
  obtain ⟨slot, hslot, hat⟩ := lands_iff.mp hlands
  rw [hat.slot_eq] at unset ⊢
  have hnone : firstAt calls slot = none := by
    rw [h.marks slot hslot] at unset
    exact Option.isNone_iff_eq_none.mp (by simpa using unset)
  have hfirst : ∀ s, firstAt (calls ++ [call]) s = if s = slot then some call else firstAt calls s := by
    intro s
    rw [firstAt_snoc]
    by_cases heq : s = slot
    · simp [heq, hnone, hat]
    · have hother : ¬ call.At s := fun hs => heq (hs.slot_eq.symm.trans hat.slot_eq)
      simp [heq, hother]
  refine ⟨ChunkCoverageTracker.marked_shaped h.shaped hslot unset _, h.totalSize, h.slotCount, ?_, ?_, ?_, ?_⟩
  · intro s hs
    rcases (ChunkCoverageTracker.bitmapTest_marked h.shaped hslot _ s).mp hs with hs | rfl
    · exact h.inside s hs
    · exact hslot
  · intro s hs
    rw [Bool.eq_iff_iff, ChunkCoverageTracker.bitmapTest_marked h.shaped hslot, h.marks s hs, hfirst]
    split_ifs with heq
    · simp [heq]
    · simp [heq]
  · intro s hs c hc
    rw [hfirst] at hc
    rw [ChunkCoverageTracker.fingerprints_marked h.shaped hslot]
    split_ifs at hc ⊢ with heq
    · rw [Option.some.inj hc]
    · exact h.prints s hs c hc
  · intro hdetect
    have hsame : ¬ (call.Lands t.slotCount ∧ ∃ first, firstAt calls (chunkSlotIndex call.offset) = some first ∧
        first.fingerprint ≠ call.fingerprint) := by
      simp [hat.slot_eq, hnone]
    have hslots : (t.marked slot call.fingerprint).slotCount = t.slotCount := rfl
    rw [hslots, conflictCount_snoc, if_neg hsame]
    exact h.conflicts fun c hc => hdetect c (List.mem_append_left _ hc)

lemma snoc (call : RecordCall) : Follows total (calls ++ [call]) (call.apply t).1 := by
  have hearlier : (∀ c ∈ calls ++ [call], c.detectOverlap = true) →
      t.overlapConflicts = conflictCount t.slotCount calls % 2 ^ 32 :=
    fun hdetect => h.conflicts fun c hc => hdetect c (List.mem_append_left _ hc)
  by_cases hlands : call.Lands t.slotCount
  swap
  · rw [apply_ignored hlands]
    refine h.snoc_kept (fun slot hslot hat => absurd (lands_iff.mpr ⟨slot, hslot, hat⟩) hlands) fun hdetect => ?_
    rw [conflictCount_snoc, if_neg fun hc => hlands hc.1]
    exact hearlier hdetect
  have hrecorded := apply_recorded hlands
  have hset : bitmapTest t.bitmap (chunkSlotIndex call.offset) = true →
      ∃ first, firstAt calls (chunkSlotIndex call.offset) = some first ∧
        t.fingerprints.getD (chunkSlotIndex call.offset) 0 = first.fingerprint := by
    intro isSet
    rw [h.marks _ hlands.2.2] at isSet
    obtain ⟨first, hfirst⟩ := Option.isSome_iff_exists.mp isSet
    refine ⟨first, hfirst, ?_⟩
    rw [List.getD_eq_getElem?_getD, h.prints _ hlands.2.2 first hfirst, Option.getD_some]
  have hkept : bitmapTest t.bitmap (chunkSlotIndex call.offset) = true →
      ∀ s < t.slotCount, call.At s → (firstAt calls s).isSome = true := by
    intro isSet s hs hat'
    rw [← h.marks s hs, ← hat'.slot_eq]
    exact isSet
  generalize call.apply t = r at hrecorded
  obtain ⟨t', ok⟩ := r
  simp only at hrecorded ⊢
  cases hrecorded with
  | fresh unset => exact h.snoc_fresh hlands unset
  | repeated isSet agrees =>
    refine h.snoc_kept (hkept isSet) fun hdetect => ?_
    obtain ⟨first, hfirst, hprint⟩ := hset isSet
    have hagree : first.fingerprint = call.fingerprint := hprint.symm.trans (agrees (hdetect call (by simp)))
    rw [conflictCount_snoc, if_neg (by simp [hfirst, hagree])]
    exact hearlier hdetect
  | conflict isSet detects differs =>
    refine h.snoc_kept (hkept isSet) fun hdetect => ?_
    obtain ⟨first, hfirst, hprint⟩ := hset isSet
    rw [conflictCount_snoc, if_pos ⟨hlands, first, hfirst, hprint ▸ differs⟩, hearlier hdetect, add32, Nat.mod_add_mod]

end Follows

lemma recordAll_snoc (total : ℕ) (calls : List RecordCall) (call : RecordCall) :
    recordAll total (calls ++ [call]) = (call.apply (recordAll total calls)).1 := by
  rw [recordAll, List.foldl_append]
  rfl

lemma recordAll_follows (total : ℕ) (calls : List RecordCall) : Follows total calls (recordAll total calls) := by
  induction calls using List.reverseRecOn with
  | nil => exact create_follows total
  | append_singleton calls call ih =>
    rw [recordAll_snoc]
    exact ih.snoc call

lemma Follows.count_bits (h : Follows total calls t) : t.slotsReceived = (bits t.bitmap).count true := by
  rw [h.shaped.count, count_true, length_bits]
  congr 1
  ext slot
  have hroom := h.shaped.bitmap
  simp only [Finset.mem_filter, Finset.mem_range, ← bitmapTest_eq]
  constructor
  · rintro ⟨hslot, hset⟩
    exact ⟨by omega, hset⟩
  · rintro ⟨_, hset⟩
    exact ⟨h.inside slot hset, hset⟩

lemma Follows.count_slots (h : Follows total calls t) :
    t.slotsReceived = ((Finset.range t.slotCount).filter fun slot => ∃ call ∈ calls, call.At slot).card := by
  rw [h.shaped.count]
  congr 1
  apply Finset.filter_congr
  intro slot hslot
  rw [h.marks slot (Finset.mem_range.mp hslot), firstAt_isSome]

lemma Follows.allSlotsReceived_iff (h : Follows total calls t) (htotal : total ≤ 2 ^ 32 - 90) :
    t.allSlotsReceived = true ↔ ∀ slot < t.slotCount, ∃ call ∈ calls, call.At slot := by
  by_cases h₀ : t.slotCount = 0
  · have hzero : total = 0 := by
      have hcount := h.slotCount
      rw [h₀, chunkCountForSize] at hcount
      split_ifs at hcount with h₁
      · exact h₁
      · rw [logChunkSize, add32, sub32] at hcount
        omega
    rw [ChunkCoverageTracker.allSlotsReceived, if_pos h₀, h.totalSize, hzero, h₀]
    simp
  · rw [ChunkCoverageTracker.allSlotsReceived_iff h.shaped h₀]
    apply forall₂_congr
    intro slot hslot
    rw [h.marks slot hslot, firstAt_isSome]

lemma Follows.overlapConflicts_eq (h : Follows total calls t) (hcalls : calls.length < 2 ^ 32)
    (hdetect : ∀ call ∈ calls, call.detectOverlap = true) : t.overlapConflicts = conflictCount t.slotCount calls := by
  have hle : conflictCount t.slotCount calls ≤ calls.length := List.countP_le_length
  rw [h.conflicts hdetect, Nat.mod_eq_of_lt (by omega)]

lemma answer_iff {earlier : List RecordCall} (hlen : (earlier ++ [call]).length < 2 ^ 32)
    (hdetect : ∀ c ∈ earlier ++ [call], c.detectOverlap = true) :
    (call.apply (recordAll total earlier)).2 = false ↔ call.Lands (chunkCountForSize total) ∧
      (0 < conflictCount (chunkCountForSize total) earlier ∨
        0 < conflictCount (chunkCountForSize total) (earlier ++ [call])) := by
  have hfollows := recordAll_follows total earlier
  have hmono := conflictCount_le_snoc (chunkCountForSize total) earlier call
  by_cases hlands : call.Lands (chunkCountForSize total)
  · rw [← hfollows.slotCount] at hlands
    have hnext := (hfollows.snoc call).overlapConflicts_eq hlen hdetect
    rw [apply_answer hlands (hdetect call (by simp)), hnext, (hfollows.snoc call).slotCount]
    rw [hfollows.slotCount] at hlands
    simp only [beq_eq_false_iff_ne, hlands, true_and]
    omega
  · rw [apply_ignored (by rwa [hfollows.slotCount])]
    simp [hlands]

end

theorem coverage_counts_records (total : ℕ) (htotal : total ≤ 2 ^ 32 - 90) (calls : List RecordCall)
    (hcalls : calls.length < 2 ^ 32) :
    let t := recordAll total calls
    t.slotsReceived = (bits t.bitmap).count true ∧
      t.slotsReceived = ((Finset.range t.slotCount).filter fun slot => ∃ call ∈ calls, call.At slot).card ∧
      (t.allSlotsReceived = true ↔ ∀ slot < t.slotCount, ∃ call ∈ calls, call.At slot) ∧
      (∀ slot, bitmapTest t.bitmap slot = true →
        ∃ call, firstAt calls slot = some call ∧ t.fingerprints[slot]? = some call.fingerprint) ∧
      ((∀ call ∈ calls, call.detectOverlap = true) →
        t.overlapConflicts = conflictCount t.slotCount calls ∧
          ∀ earlier call later, calls = earlier ++ call :: later →
            ((call.apply (recordAll total earlier)).2 = false ↔ call.Lands t.slotCount ∧
              (0 < conflictCount t.slotCount earlier ∨ 0 < conflictCount t.slotCount (earlier ++ [call])))) := by
  intro t
  have h : Follows total calls t := recordAll_follows total calls
  refine ⟨h.count_bits, h.count_slots, h.allSlotsReceived_iff htotal, ?_, fun hdetect => ⟨?_, ?_⟩⟩
  · intro slot hset
    have hslot := h.inside slot hset
    rw [h.marks slot hslot] at hset
    obtain ⟨call, hcall⟩ := Option.isSome_iff_exists.mp hset
    exact ⟨call, hcall, h.prints slot hslot call hcall⟩
  · exact h.overlapConflicts_eq hcalls hdetect
  · rintro earlier call later rfl
    rw [List.append_cons] at hcalls hdetect
    rw [h.slotCount]
    refine answer_iff ?_ fun c hc => hdetect c (List.mem_append_left _ hc)
    rw [List.length_append] at hcalls
    omega

theorem coverage_counts_records_two_slots :
    let calls : List RecordCall := [⟨0, some [1], 1, true⟩, ⟨0, some [2], 1, true⟩, ⟨90, some [3], 1, true⟩]
    (recordAll 180 calls).slotsReceived = 2 ∧ (recordAll 180 calls).allSlotsReceived = true ∧
      (recordAll 180 calls).overlapConflicts = 1 ∧
      (RecordCall.apply (recordAll 180 [⟨0, some [1], 1, true⟩]) ⟨0, some [2], 1, true⟩).2 = false := by
  intro calls
  obtain ⟨_, hslots, hall, _, hdetected⟩ := coverage_counts_records 180 (by norm_num) calls (by decide)
  obtain ⟨hconflicts, hanswers⟩ := hdetected (by decide)
  refine ⟨hslots.trans (by decide +kernel), hall.mpr (by decide +kernel), hconflicts.trans (by decide +kernel), ?_⟩
  exact (hanswers [⟨0, some [1], 1, true⟩] _ [⟨90, some [3], 1, true⟩] rfl).mpr (by decide +kernel)

end MavlinkLogService.Session
