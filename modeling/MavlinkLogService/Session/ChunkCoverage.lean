import MavlinkLogService.Session.ReceivedRanges

/-! The slot bitmap and the per-slot fingerprints of one download. -/

namespace MavlinkLogService.Session

def crcBit (crc : UInt32) : UInt32 :=
  let mask : UInt32 := 0 - (crc &&& 1)
  (crc >>> 1) ^^^ (0xEDB88320 &&& mask)

def crcByte (crc : UInt32) (byte : UInt8) : UInt32 :=
  Nat.iterate crcBit 8 (crc ^^^ byte.toUInt32)

def crc32 (data : List UInt8) (crc : UInt32 := 0xFFFFFFFF) : UInt32 := ~~~(data.foldl crcByte (~~~crc))

def emptyFingerprint : UInt32 := 0

def fingerprintForSlot (data : List UInt8) (count : ℕ) : UInt32 :=
  let taken := data.take (min count logChunkSize)
  let fp := crc32 (taken ++ List.replicate (logChunkSize - taken.length) 0)
  if fp = emptyFingerprint then 1 else fp

def slotBit (slot : ℕ) : UInt8 := 1 <<< (slot % 8).toUInt8

def bitmapTest (bitmap : List UInt8) (slot : ℕ) : Bool := bitmap.getD (slot / 8) 0 &&& slotBit slot != 0

def bitmapSet (bitmap : List UInt8) (slot : ℕ) : List UInt8 :=
  bitmap.modify (slot / 8) (· ||| slotBit slot)

structure ChunkCoverageTracker where
  totalSize : ℕ
  slotCount : ℕ
  slotsReceived : ℕ
  overlapConflicts : ℕ
  bitmap : List UInt8
  fingerprints : List UInt32
  deriving DecidableEq, Repr

namespace ChunkCoverageTracker

def create (total : ℕ) : ChunkCoverageTracker where
  totalSize := total
  slotCount := chunkCountForSize total
  slotsReceived := 0
  overlapConflicts := 0
  bitmap := List.replicate ((chunkCountForSize total + 7) / 8) 0
  fingerprints := List.replicate (chunkCountForSize total) emptyFingerprint

def markSlot (t : ChunkCoverageTracker) (slot : ℕ) (fingerprint : UInt32) (detectOverlap : Bool) :
    ChunkCoverageTracker :=
  if t.slotCount ≤ slot then t
  else if bitmapTest t.bitmap slot && detectOverlap then
    if t.fingerprints.getD slot 0 ≠ fingerprint then
      { t with overlapConflicts := add32 t.overlapConflicts 1 }
    else t
  else if !bitmapTest t.bitmap slot then
    { t with
      bitmap := bitmapSet t.bitmap slot
      fingerprints := t.fingerprints.set slot fingerprint
      slotsReceived := add32 t.slotsReceived 1 }
  else if t.fingerprints.getD slot 0 ≠ fingerprint && detectOverlap then
    { t with overlapConflicts := add32 t.overlapConflicts 1 }
  else t

def record (t : ChunkCoverageTracker) (offset : ℕ) (data : List UInt8) (count : ℕ)
    (detectOverlap : Bool) : ChunkCoverageTracker × Bool :=
  if count = 0 then (t, true)
  else if offset % logChunkSize ≠ 0 then (t, true)
  else if t.slotCount ≤ chunkSlotIndex offset then (t, true)
  else
    let t' := t.markSlot (chunkSlotIndex offset) (fingerprintForSlot data count) detectOverlap
    (t', t'.overlapConflicts == 0 || !detectOverlap)

def allSlotsReceived (t : ChunkCoverageTracker) : Bool :=
  if t.slotCount = 0 then t.totalSize == 0 else t.slotCount ≤ t.slotsReceived

end ChunkCoverageTracker

lemma slotBit_overlap (a b : ℕ) : slotBit a &&& slotBit b ≠ 0 ↔ a % 8 = b % 8 := by
  have hall : ∀ i j : Fin 8, (1 <<< i.val.toUInt8 : UInt8) &&& (1 <<< j.val.toUInt8) ≠ 0 ↔ i = j := by decide
  have h := hall ⟨a % 8, Nat.mod_lt _ (by norm_num)⟩ ⟨b % 8, Nat.mod_lt _ (by norm_num)⟩
  rw [slotBit, slotBit, h, Fin.mk.injEq]

lemma or_and_ne_zero (x y z : UInt8) : (x ||| y) &&& z ≠ 0 ↔ x &&& z ≠ 0 ∨ y &&& z ≠ 0 := by
  have hdistrib : (x ||| y) &&& z = (x &&& z) ||| (y &&& z) := by
    rw [← UInt8.toBitVec_inj]
    ext i
    simp [Bool.and_or_distrib_right]
  rw [hdistrib, Ne, UInt8.or_eq_zero_iff, not_and_or]

lemma bitmapTest_set {bitmap : List UInt8} {slot : ℕ} (h : slot / 8 < bitmap.length) (slot' : ℕ) :
    bitmapTest (bitmapSet bitmap slot) slot' = (bitmapTest bitmap slot' || slot == slot') := by
  rw [Bool.eq_iff_iff, Bool.or_eq_true, beq_iff_eq, bitmapTest, bitmapTest, bitmapSet, bne_iff_ne, bne_iff_ne,
    List.getD_eq_getElem?_getD, List.getD_eq_getElem?_getD, List.getElem?_modify]
  by_cases hbyte : slot / 8 = slot' / 8
  · simp only [← hbyte, List.getElem?_eq_getElem h, Option.map_eq_map, Option.map_some, Option.getD_some, if_true]
    rw [or_and_ne_zero, slotBit_overlap]
    have hsame : slot % 8 = slot' % 8 ↔ slot = slot' := by omega
    rw [hsame]
  · have hne : slot ≠ slot' := fun heq => hbyte (by rw [heq])
    simp [hbyte, hne]

namespace ChunkCoverageTracker

structure Shaped (t : ChunkCoverageTracker) : Prop where
  small : t.slotCount < 2 ^ 32
  bitmap : t.slotCount ≤ 8 * t.bitmap.length
  fingerprints : t.fingerprints.length = t.slotCount
  count : t.slotsReceived = ((Finset.range t.slotCount).filter fun slot => bitmapTest t.bitmap slot = true).card

def marked (t : ChunkCoverageTracker) (slot : ℕ) (fingerprint : UInt32) : ChunkCoverageTracker :=
  { t with
    bitmap := bitmapSet t.bitmap slot
    fingerprints := t.fingerprints.set slot fingerprint
    slotsReceived := add32 t.slotsReceived 1 }

inductive Recorded (t : ChunkCoverageTracker) (slot : ℕ) (fingerprint : UInt32) (detectOverlap : Bool) :
    ChunkCoverageTracker → Bool → Prop
  | fresh (unset : bitmapTest t.bitmap slot = false) :
    Recorded t slot fingerprint detectOverlap (t.marked slot fingerprint) (t.overlapConflicts == 0 || !detectOverlap)
  | repeated (isSet : bitmapTest t.bitmap slot = true)
    (agrees : detectOverlap = true → t.fingerprints.getD slot 0 = fingerprint) :
    Recorded t slot fingerprint detectOverlap t (t.overlapConflicts == 0 || !detectOverlap)
  | conflict (isSet : bitmapTest t.bitmap slot = true) (detects : detectOverlap = true)
    (differs : t.fingerprints.getD slot 0 ≠ fingerprint) :
    Recorded t slot fingerprint detectOverlap { t with overlapConflicts := add32 t.overlapConflicts 1 }
      (add32 t.overlapConflicts 1 == 0)

variable {t : ChunkCoverageTracker}

lemma record_ignored {offset count : ℕ} (h : offset % logChunkSize ≠ 0 ∨ t.slotCount ≤ chunkSlotIndex offset)
    (data : List UInt8) (detectOverlap : Bool) : t.record offset data count detectOverlap = (t, true) := by
  rw [record]
  split_ifs with _ _ hslot
  · rfl
  · rfl
  · rfl
  · exact absurd h (by tauto)

lemma record_recorded {offset count : ℕ} (hcount : count ≠ 0) (hgrid : offset % logChunkSize = 0)
    (hslot : chunkSlotIndex offset < t.slotCount) (data : List UInt8) (detectOverlap : Bool) :
    Recorded t (chunkSlotIndex offset) (fingerprintForSlot data count) detectOverlap
      (t.record offset data count detectOverlap).1 (t.record offset data count detectOverlap).2 := by
  rw [record, if_neg hcount, if_neg (not_not.mpr hgrid), if_neg (not_le.mpr hslot), markSlot, if_neg (not_le.mpr hslot)]
  cases hset : bitmapTest t.bitmap (chunkSlotIndex offset) with
  | false => exact .fresh hset
  | true =>
    cases detectOverlap with
    | false =>
      simp only [Bool.and_false, Bool.false_eq_true, if_false, Bool.not_true]
      exact .repeated hset fun h => absurd h Bool.false_ne_true
    | true =>
      by_cases hfp : t.fingerprints.getD (chunkSlotIndex offset) 0 = fingerprintForSlot data count
      · simp only [Bool.and_self, if_true, hfp, ne_eq, not_true_eq_false, if_false]
        exact .repeated hset fun _ => hfp
      · simp only [Bool.and_self, if_true, hfp, ne_eq, not_false_eq_true, Bool.not_true, Bool.or_false]
        exact .conflict hset rfl hfp

lemma bitmapTest_create (total slot : ℕ) : bitmapTest (create total).bitmap slot = false := by
  rw [create, bitmapTest, List.getD_eq_getElem?_getD, List.getElem?_replicate]
  split_ifs <;> simp

lemma create_shaped (total : ℕ) : (create total).Shaped := by
  refine ⟨?_, ?_, ?_, ?_⟩
  · simp only [create, chunkCountForSize, logChunkSize, sub32]
    split_ifs <;> omega
  · simp only [create, List.length_replicate]
    omega
  · simp [create]
  · simp only [bitmapTest_create, Bool.false_eq_true, Finset.filter_false, Finset.card_empty]
    rfl

lemma bitmapTest_marked (h : t.Shaped) {slot : ℕ} (hslot : slot < t.slotCount) (fingerprint : UInt32) (s : ℕ) :
    bitmapTest (t.marked slot fingerprint).bitmap s = true ↔ bitmapTest t.bitmap s = true ∨ s = slot := by
  have hbit : slot / 8 < t.bitmap.length := by
    have := h.bitmap
    omega
  rw [marked, bitmapTest_set hbit, Bool.or_eq_true, beq_iff_eq, @eq_comm _ slot s]

lemma fingerprints_marked (h : t.Shaped) {slot : ℕ} (hslot : slot < t.slotCount) (fingerprint : UInt32) (s : ℕ) :
    (t.marked slot fingerprint).fingerprints[s]? = if s = slot then some fingerprint else t.fingerprints[s]? := by
  have hlen : slot < t.fingerprints.length := by
    rw [h.fingerprints]
    exact hslot
  rw [marked, List.getElem?_set, if_pos hlen]
  simp only [eq_comm]

lemma marked_shaped (h : t.Shaped) {slot : ℕ} (hslot : slot < t.slotCount) (hunset : bitmapTest t.bitmap slot = false)
    (fingerprint : UInt32) : (t.marked slot fingerprint).Shaped := by
  have hinsert : (Finset.range t.slotCount).filter
        (fun s => bitmapTest (t.marked slot fingerprint).bitmap s = true) =
      insert slot ((Finset.range t.slotCount).filter fun s => bitmapTest t.bitmap s = true) := by
    ext s
    simp only [Finset.mem_filter, Finset.mem_range, Finset.mem_insert, bitmapTest_marked h hslot]
    constructor
    · rintro ⟨hs, hset | rfl⟩
      · exact Or.inr ⟨hs, hset⟩
      · exact Or.inl rfl
    · rintro (rfl | ⟨hs, hset⟩)
      · exact ⟨hslot, Or.inr rfl⟩
      · exact ⟨hs, Or.inl hset⟩
  have hnew : slot ∉ (Finset.range t.slotCount).filter fun s => bitmapTest t.bitmap s = true := by
    simp [hunset]
  have hroom : t.slotsReceived < t.slotCount := by
    have hssub : (Finset.range t.slotCount).filter (fun s => bitmapTest t.bitmap s = true) ⊂
        Finset.range t.slotCount := by
      rw [Finset.filter_ssubset]
      exact ⟨slot, Finset.mem_range.mpr hslot, by simp [hunset]⟩
    have hcard := Finset.card_lt_card hssub
    rwa [Finset.card_range, ← h.count] at hcard
  refine ⟨h.small, ?_, ?_, ?_⟩
  · simpa [marked, bitmapSet] using h.bitmap
  · simpa [marked] using h.fingerprints
  · have hsmall := h.small
    have hcount : (t.marked slot fingerprint).slotsReceived = t.slotsReceived + 1 := add32_eq (by omega)
    rw [hcount, h.count, ← Finset.card_insert_of_notMem hnew, ← hinsert]
    rfl

lemma allSlotsReceived_iff (h : t.Shaped) (h₀ : t.slotCount ≠ 0) :
    t.allSlotsReceived = true ↔ ∀ slot < t.slotCount, bitmapTest t.bitmap slot = true := by
  rw [allSlotsReceived, if_neg h₀, decide_eq_true_eq, h.count]
  constructor
  · intro hle slot hslot
    have hcard := Finset.card_filter_le (Finset.range t.slotCount) fun s => bitmapTest t.bitmap s = true
    rw [Finset.card_range] at hcard
    have heq := Finset.card_filter_eq_iff.mp ((le_antisymm hcard hle).trans (Finset.card_range _).symm)
    exact heq slot (Finset.mem_range.mpr hslot)
  · intro hall
    rw [Finset.filter_true_of_mem fun slot hs => hall slot (Finset.mem_range.mp hs), Finset.card_range]

end ChunkCoverageTracker

end MavlinkLogService.Session
