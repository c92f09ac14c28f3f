import Mathlib.Data.List.GetD
import MavlinkLogService.Library.Fips180
import MavlinkLogService.Session.Sha256

/-! The hash of `Sha256.cpp` is the one of the standard, whatever the calls that feed it. -/

namespace MavlinkLogService.Session.Sha256

open Library Library.Fips180

def Words.standard (s : Words) : State :=
  ⟨s.a.toBitVec, s.b.toBitVec, s.c.toBitVec, s.d.toBitVec, s.e.toBitVec, s.f.toBitVec, s.g.toBitVec, s.h.toBitVec⟩

def byteBits (b : UInt8) : List Bool := binary 8 b.toNat

def bits (data : List UInt8) : List Bool := data.flatMap byteBits

section Transform

lemma rotr_standard (x n : UInt32) (h₀ : 0 < n.toNat) (h : n.toNat < 32) :
    (rotr x n).toBitVec = x.toBitVec.rotateRight n.toNat := by
  simp only [rotr, UInt32.toBitVec_or, UInt32.toBitVec_shiftRight, UInt32.toBitVec_shiftLeft, BitVec.rotateRight_def,
    Nat.mod_eq_of_lt h, BitVec.shiftLeft_eq', BitVec.ushiftRight_eq']
  congr 2
  · exact Nat.mod_eq_of_lt h
  · have hle : n ≤ 32 := UInt32.le_iff_toNat_le.mpr h.le
    have hback : (32 - n).toNat = 32 - n.toNat := UInt32.toNat_sub_of_le _ _ hle
    rw [BitVec.toNat_umod, UInt32.toNat_toBitVec, hback]
    exact Nat.mod_eq_of_lt (show 32 - n.toNat < 32 by omega)

lemma sig0_standard (x : UInt32) : (sig0 x).toBitVec = bigSigma0 x.toBitVec := by
  simp only [sig0, UInt32.toBitVec_xor, rotr_standard x 2 (by decide) (by decide),
    rotr_standard x 13 (by decide) (by decide), rotr_standard x 22 (by decide) (by decide)]
  rfl

lemma sig1_standard (x : UInt32) : (sig1 x).toBitVec = bigSigma1 x.toBitVec := by
  simp only [sig1, UInt32.toBitVec_xor, rotr_standard x 6 (by decide) (by decide),
    rotr_standard x 11 (by decide) (by decide), rotr_standard x 25 (by decide) (by decide)]
  rfl

lemma ep0_standard (x : UInt32) : (ep0 x).toBitVec = smallSigma0 x.toBitVec := by
  simp only [ep0, UInt32.toBitVec_xor, rotr_standard x 7 (by decide) (by decide),
    rotr_standard x 18 (by decide) (by decide)]
  rfl

lemma ep1_standard (x : UInt32) : (ep1 x).toBitVec = smallSigma1 x.toBitVec := by
  simp only [ep1, UInt32.toBitVec_xor, rotr_standard x 17 (by decide) (by decide),
    rotr_standard x 19 (by decide) (by decide)]
  rfl

def IsRoot (k p : ℕ) (w : UInt32) : Prop :=
  ∃ a < 8, (a * 2 ^ 32 + w.toNat) ^ k ≤ p * (2 ^ 32) ^ k ∧ p * (2 ^ 32) ^ k < (a * 2 ^ 32 + w.toNat + 1) ^ k

instance (k p : ℕ) (w : UInt32) : Decidable (IsRoot k p w) := inferInstanceAs (Decidable (∃ a < 8, _))

lemma IsRoot.standard {k p : ℕ} {w : UInt32} (hk : k ≠ 0) (h : IsRoot k p w) : w.toBitVec = rootFraction k p := by
  obtain ⟨a, _, hlow, hhigh⟩ := h
  rw [rootFraction_eq hk w.toNat_lt hlow hhigh]
  exact (BitVec.ofNat_toNat 32 w.toBitVec).symm.trans (by simp)

lemma roundConstants_standard {t : ℕ} (ht : t < 64) : (roundConstants.getD t 0).toBitVec = constant t := by
  have hroots : ∀ t < 64, IsRoot 3 (primes.getD t 0) (roundConstants.getD t 0) := by
    rw [primes_eq]
    decide +kernel
  exact (hroots t ht).standard (by norm_num)

lemma init_standard : init.state.standard = initial := by
  have hroot : ∀ i, ∀ w : UInt32, IsRoot 2 (primes.getD i 0) w → w.toBitVec = rootFraction 2 (primes.getD i 0) :=
    fun i w h => h.standard (by norm_num)
  rw [primes_eq] at hroot
  simp only [init, Words.standard, initial, primes_eq]
  rw [hroot 0 _ (by decide +kernel), hroot 1 _ (by decide +kernel), hroot 2 _ (by decide +kernel),
    hroot 3 _ (by decide +kernel), hroot 4 _ (by decide +kernel), hroot 5 _ (by decide +kernel),
    hroot 6 _ (by decide +kernel), hroot 7 _ (by decide +kernel)]

lemma byteBits_length (b : UInt8) : (byteBits b).length = 8 := binary_length 8 b.toNat

lemma bits_append (l r : List UInt8) : bits (l ++ r) = bits l ++ bits r := List.flatMap_append

lemma bits_length (data : List UInt8) : (bits data).length = 8 * data.length := length_flatMap byteBits_length data

lemma block_bits (n : ℕ) (data : List UInt8) (i : ℕ) : block (8 * n) (bits data) i = bits (block n data i) :=
  block_flatMap byteBits_length n data i

def bigEndian (b₀ b₁ b₂ b₃ : UInt8) : UInt32 :=
  (b₀.toUInt32 <<< 24) ||| (b₁.toUInt32 <<< 16) ||| (b₂.toUInt32 <<< 8) ||| b₃.toUInt32

lemma or_low {i x y : ℕ} (hy : y < 2 ^ i) : x * 2 ^ i ||| y = x * 2 ^ i + y := by
  rw [Nat.mul_comm, Nat.two_pow_add_eq_or_of_lt hy]

lemma bigEndian_toNat (b₀ b₁ b₂ b₃ : UInt8) :
    (bigEndian b₀ b₁ b₂ b₃).toNat = ((b₀.toNat * 2 ^ 8 + b₁.toNat) * 2 ^ 8 + b₂.toNat) * 2 ^ 8 + b₃.toNat := by
  have h₀ := b₀.toNat_lt
  have h₁ := b₁.toNat_lt
  have h₂ := b₂.toNat_lt
  have h₃ := b₃.toNat_lt
  have hshift : ∀ (b : UInt8) (n : UInt32), n.toNat ≤ 24 → (b.toUInt32 <<< n).toNat = b.toNat * 2 ^ n.toNat := by
    intro b n hn
    have hb := b.toNat_lt
    have hpow : 2 ^ n.toNat ≤ 2 ^ 24 := Nat.pow_le_pow_right (by norm_num) hn
    rw [UInt32.toNat_shiftLeft, Nat.mod_eq_of_lt (by omega : n.toNat < 32), UInt8.toNat_toUInt32, Nat.shiftLeft_eq]
    exact Nat.mod_eq_of_lt (by nlinarith)
  simp only [bigEndian, UInt32.toNat_or, hshift _ 24 (by decide), hshift _ 16 (by decide), hshift _ 8 (by decide),
    UInt8.toNat_toUInt32, show (24 : UInt32).toNat = 24 from rfl, show (16 : UInt32).toNat = 16 from rfl,
    show (8 : UInt32).toNat = 8 from rfl]
  -- each byte lies below everything that is already in place
  rw [or_low (by omega), show b₀.toNat * 2 ^ 24 + b₁.toNat * 2 ^ 16 = (b₀.toNat * 2 ^ 8 + b₁.toNat) * 2 ^ 16 by ring,
    or_low (by omega), show (b₀.toNat * 2 ^ 8 + b₁.toNat) * 2 ^ 16 + b₂.toNat * 2 ^ 8 =
      ((b₀.toNat * 2 ^ 8 + b₁.toNat) * 2 ^ 8 + b₂.toNat) * 2 ^ 8 by ring, or_low (by omega)]

lemma natOfBits_bits (b₀ b₁ b₂ b₃ : UInt8) : natOfBits (bits [b₀, b₁, b₂, b₃]) = (bigEndian b₀ b₁ b₂ b₃).toNat := by
  have hbyte : ∀ b : UInt8, natOfBits (byteBits b) = b.toNat := by
    intro b
    rw [byteBits, natOfBits_binary]
    exact Nat.mod_eq_of_lt b.toNat_lt
  have hsplit : bits [b₀, b₁, b₂, b₃] = ((byteBits b₀ ++ byteBits b₁) ++ byteBits b₂) ++ byteBits b₃ := by
    simp [bits]
  rw [hsplit, bigEndian_toNat]
  simp only [natOfBits_append, byteBits_length, hbyte]

lemma messageWord_bits (l : List UInt8) (t : ℕ) :
    messageWord (bits l) t = BitVec.ofNat 32 (natOfBits (bits (block 4 l t))) := by
  rw [messageWord, ← block_bits 4]

lemma length_lt_four {l : List UInt8} (h : ∀ b₀ b₁ b₂ b₃ bs, l = b₀ :: b₁ :: b₂ :: b₃ :: bs → False) :
    l.length < 4 := by
  rcases l with _ | ⟨b₀, _ | ⟨b₁, _ | ⟨b₂, _ | ⟨b₃, bs⟩⟩⟩⟩
  · simp
  · simp
  · simp
  · simp
  · exact absurd rfl (h b₀ b₁ b₂ b₃ bs)

lemma blockWords_standard {l : List UInt8} {t : ℕ} (h : 4 * (t + 1) ≤ l.length) :
    ((blockWords l).getD t 0).toBitVec = messageWord (bits l) t := by
  induction l using blockWords.induct generalizing t with
  | case1 b₀ b₁ b₂ b₃ bs ih =>
    rw [blockWords]
    cases t with
    | zero =>
      have hfirst : block 4 (b₀ :: b₁ :: b₂ :: b₃ :: bs) 0 = [b₀, b₁, b₂, b₃] := by simp [block]
      rw [messageWord_bits, hfirst, natOfBits_bits, ← UInt32.toNat_toBitVec, BitVec.ofNat_toNat, BitVec.setWidth_eq]
      rfl
    | succ t =>
      have hnext : block 4 (b₀ :: b₁ :: b₂ :: b₃ :: bs) (t + 1) = block 4 bs t := by
        rw [block, block, Nat.mul_succ]
        rfl
      rw [messageWord_bits, hnext, ← messageWord_bits, List.getD_cons_succ]
      exact ih (by simp only [List.length_cons] at h; omega)
  | case2 l hshort =>
    have hlt := length_lt_four hshort
    omega

lemma blockWords_length (l : List UInt8) : (blockWords l).length = l.length / 4 := by
  induction l using blockWords.induct with
  | case1 b₀ b₁ b₂ b₃ bs ih =>
    rw [blockWords, List.length_cons, ih]
    simp only [List.length_cons]
    omega
  | case2 l hshort => rw [blockWords.eq_2 l hshort, Nat.div_eq_of_lt (length_lt_four hshort), List.length_nil]

lemma extend_length (w : List UInt32) (n : ℕ) : (extend w n).length = w.length + n := by
  induction n with
  | zero => rfl
  | succ n ih => rw [extend, List.length_append, ih, List.length_singleton, Nat.add_assoc]

lemma extend_standard {data : List UInt8} (h : data.length = 64) (n : ℕ) {t : ℕ} (ht : t < 16 + n) :
    ((extend (blockWords data) n).getD t 0).toBitVec = Fips180.schedule (bits data) t := by
  have hwords : (blockWords data).length = 16 := by rw [blockWords_length, h]
  induction n generalizing t with
  | zero =>
    rw [extend, blockWords_standard (by omega), Fips180.schedule, if_pos ht]
  | succ n ih =>
    have hlen : (extend (blockWords data) n).length = 16 + n := by rw [extend_length, hwords]
    rw [extend, hlen]
    rcases Nat.lt_succ_iff_lt_or_eq.mp (show t < 16 + n + 1 from ht) with hlt | rfl
    · rw [List.getD_append _ _ _ _ (by omega)]
      exact ih hlt
    · rw [List.getD_append_right _ _ _ _ hlen.le, hlen, Nat.sub_self, List.getD_cons_zero, Fips180.schedule,
        if_neg (by omega)]
      simp only [UInt32.toBitVec_add, ep0_standard, ep1_standard]
      rw [ih (by omega), ih (by omega), ih (by omega), ih (by omega)]

lemma round_standard (s : Words) (k w : UInt32) :
    (round s (k, w)).standard = Fips180.round k.toBitVec w.toBitVec s.standard := by
  simp only [round, Words.standard, Fips180.round, UInt32.toBitVec_add, sig0_standard, sig1_standard]
  rfl

lemma getElem?_zip_getD {ks ws : List UInt32} {n : ℕ} (hk : n < ks.length) (hw : n < ws.length) :
    (ks.zip ws)[n]? = some (ks.getD n 0, ws.getD n 0) := by
  rw [List.getElem?_zip_eq_some, List.getD_eq_getElem _ _ hk, List.getD_eq_getElem _ _ hw]
  exact ⟨List.getElem?_eq_getElem hk, List.getElem?_eq_getElem hw⟩

lemma rounds_standard {data : List UInt8} (h : data.length = 64) (s : Words) {n : ℕ} (hn : n ≤ 64) :
    (((roundConstants.zip (schedule data)).take n).foldl round s).standard = rounds (bits data) s.standard n := by
  induction n with
  | zero => rfl
  | succ n ih =>
    have hlen : (schedule data).length = 64 := by rw [schedule, extend_length, blockWords_length, h]
    have hget := getElem?_zip_getD (show n < roundConstants.length from hn) (show n < (schedule data).length by omega)
    rw [List.take_add_one, hget, Option.toList_some, List.foldl_append, List.foldl_cons, List.foldl_nil, round_standard,
      ih (by omega), rounds, roundConstants_standard (by omega), schedule, extend_standard h 48 (by omega)]

lemma transform_standard {data : List UInt8} (h : data.length = 64) (s : Words) :
    (transform s data).standard = compress s.standard (bits data) := by
  have hlen : (roundConstants.zip (schedule data)).length ≤ 64 := by
    rw [List.length_zip]
    exact min_le_left _ _
  have hrounds := rounds_standard h s le_rfl
  rw [List.take_of_length_le hlen] at hrounds
  rw [compress, ← hrounds]
  simp only [transform, Words.standard, UInt32.toBitVec_add, BitVec.add_comm]

end Transform

section Absorb

lemma update_pushes (ctx : Context) (data : List UInt8) :
    ((update ctx data).state, (update ctx data).buffer) = data.foldl (push 64 transform) (ctx.state, ctx.buffer) := by
  induction data generalizing ctx with
  | nil => rfl
  | cons b data ih =>
    have hpush : push 64 transform (ctx.state, ctx.buffer) b =
        ((updateByte ctx b).state, (updateByte ctx b).buffer) := by
      simp only [push, updateByte]
      split_ifs <;> rfl
    rw [List.foldl_cons, hpush]
    exact ih (updateByte ctx b)

lemma updateByte_total (ctx : Context) (b : UInt8) : (updateByte ctx b).totalBytes = ctx.totalBytes + 1 := by
  rw [updateByte]
  split_ifs <;> rfl

lemma update_total (ctx : Context) (data : List UInt8) :
    (update ctx data).totalBytes = ctx.totalBytes + UInt64.ofNat data.length := by
  induction data generalizing ctx with
  | nil => simp
  | cons b data ih =>
    rw [update, List.foldl_cons, ← update, ih, updateByte_total, List.length_cons, Nat.add_comm, UInt64.ofNat_add,
      UInt64.add_assoc]
    rfl

lemma update_init_state (data : List UInt8) :
    (update init data).state = (blocks 64 data).foldl transform init.state := by
  have h := update_pushes init data
  rw [show init.buffer = [] from rfl, foldl_push (by norm_num)] at h
  exact (Prod.mk.inj h).1

lemma foldl_transform_standard (bs : List (List UInt8)) (h : ∀ b ∈ bs, b.length = 64) (s : Words) :
    (bs.foldl transform s).standard = (bs.map bits).foldl compress s.standard := by
  induction bs generalizing s with
  | nil => rfl
  | cons b bs ih =>
    rw [List.foldl_cons, List.map_cons, List.foldl_cons, ih (fun b' hb => h b' (List.mem_cons_of_mem b hb)),
      transform_standard (h b List.mem_cons_self)]

lemma update_init_standard (data : List UInt8) :
    (update init data).state.standard = (blocks 512 (bits data)).foldl compress initial := by
  have hblocks : blocks 512 (bits data) = (blocks 64 data).map bits :=
    blocks_flatMap byteBits_length (by norm_num) 64 data
  rw [update_init_state, hblocks, foldl_transform_standard _ (fun b hb => length_of_mem_blocks hb), init_standard]

end Absorb

section Padding

lemma updateByte_buffer {ctx : Context} (h : ctx.buffer.length < 64) (b : UInt8) :
    (updateByte ctx b).buffer.length = (ctx.buffer.length + 1) % 64 := by
  simp only [updateByte, List.length_append, List.length_singleton]
  split_ifs with hfull
  · rw [hfull]
    rfl
  · rw [List.length_append, List.length_singleton, Nat.mod_eq_of_lt (by omega)]

lemma update_buffer {ctx : Context} (h : ctx.buffer.length < 64) (data : List UInt8) :
    (update ctx data).buffer.length = (ctx.buffer.length + data.length) % 64 := by
  induction data generalizing ctx with
  | nil => exact (Nat.mod_eq_of_lt h).symm
  | cons b data ih =>
    have hb := updateByte_buffer h b
    rw [update, List.foldl_cons, ← update, ih (by omega), hb, List.length_cons]
    omega

def zeroBytes (ctx : Context) : ℕ := (56 + 64 - ctx.buffer.length) % 64

lemma padZeros_eq {ctx : Context} (h : ctx.buffer.length < 64) {n k : ℕ} (hn : (ctx.buffer.length + n) % 64 = 56)
    (hlt : n < 64) : padZeros (n + k) ctx = update ctx (List.replicate n 0) := by
  induction n generalizing ctx with
  | zero =>
    have hfull : ctx.buffer.length = 56 := by omega
    cases k with
    | zero => rfl
    | succ k => rw [Nat.zero_add, padZeros, if_pos hfull, List.replicate_zero, update_nil]
  | succ n ih =>
    have hb := updateByte_buffer h 0
    rw [Nat.add_right_comm, padZeros, if_neg (by omega), ih (by omega) (by omega) (by omega)]
    rfl

lemma padZeros_zeroBytes {ctx : Context} (h : ctx.buffer.length < 64) :
    padZeros 64 ctx = update ctx (List.replicate (zeroBytes ctx) 0) := by
  have hsplit : 64 = zeroBytes ctx + (64 - zeroBytes ctx) := by
    rw [zeroBytes]
    omega
  rw [hsplit, padZeros_eq h (by rw [zeroBytes]; omega) (by rw [zeroBytes]; omega)]

def PaddingEnds (ctx : Context) : Prop :=
  ∃ n < 64, (∀ m < n, (update (updateByte ctx 0x80) (List.replicate m 0)).buffer.length ≠ 56) ∧
    (update (updateByte ctx 0x80) (List.replicate n 0)).buffer.length = 56 ∧
    padZeros 64 (updateByte ctx 0x80) = update (updateByte ctx 0x80) (List.replicate n 0)

lemma padding_ends {ctx : Context} (h : ctx.buffer.length < 64) : PaddingEnds ctx := by
  have hb := updateByte_buffer h 0x80
  have hlt : (updateByte ctx 0x80).buffer.length < 64 := by omega
  refine ⟨zeroBytes (updateByte ctx 0x80), by rw [zeroBytes]; omega, fun m hm => ?_, ?_, padZeros_zeroBytes hlt⟩
  · rw [update_buffer hlt, List.length_replicate]
    rw [zeroBytes] at hm
    omega
  · rw [update_buffer hlt, List.length_replicate, zeroBytes]
    omega

lemma length_byte (n : UInt64) {i : UInt64} (hi : i.toNat < 64) :
    byteBits ((n >>> i) &&& 0xFF).toUInt8 = binary 8 (n.toNat / 2 ^ i.toNat) := by
  rw [byteBits, UInt64.toNat_toUInt8, UInt64.toNat_and, UInt64.toNat_shiftRight, Nat.mod_eq_of_lt hi,
    Nat.shiftRight_eq_div_pow, binary_mod, show (0xFF : UInt64).toNat = 2 ^ 8 - 1 from rfl,
    Nat.and_two_pow_sub_one_eq_mod, binary_mod]

lemma lengthBytes_bits (n : UInt64) : bits (lengthBytes n) = binary 64 n.toNat := by
  have hbyte : ∀ i ∈ ([7, 6, 5, 4, 3, 2, 1, 0] : List UInt64),
      byteBits ((n >>> (i * 8)) &&& 0xFF).toUInt8 = binary 8 (n.toNat / 2 ^ (i * 8).toNat) := by
    intro i hi
    have hall : ([7, 6, 5, 4, 3, 2, 1, 0] : List UInt64).all (fun i => decide ((i * 8).toNat < 64)) = true := by decide
    exact length_byte n (of_decide_eq_true (List.all_eq_true.mp hall i hi))
  rw [show 64 = 8 + 8 + 8 + 8 + 8 + 8 + 8 + 8 from rfl, bits, lengthBytes, List.flatMap_map,
    List.flatMap_congr hbyte]
  simp only [binary_add, List.append_assoc, Nat.div_div_eq_div_mul, ← pow_add, List.flatMap_cons, List.flatMap_nil,
    List.append_nil]
  simp

def padding (data : List UInt8) : List UInt8 :=
  0x80 :: (List.replicate (zeroBytes (update init (data ++ [0x80]))) 0 ++ lengthBytes (UInt64.ofNat data.length * 8))

def finalContext (ctx : Context) : Context :=
  update (padZeros 64 (updateByte ctx 0x80)) (lengthBytes (ctx.totalBytes * 8))

lemma finalContext_update (data : List UInt8) :
    finalContext (update init data) = update init (data ++ padding data) := by
  have hmark : updateByte (update init data) 0x80 = update init (data ++ [0x80]) :=
    (update_append init data [0x80]).symm
  have hlt : (update init (data ++ [0x80])).buffer.length < 64 := by
    rw [update_buffer (by decide)]
    exact Nat.mod_lt _ (by norm_num)
  have htotal : (update init data).totalBytes = UInt64.ofNat data.length := by
    rw [update_total]
    exact UInt64.zero_add _
  rw [finalContext, hmark, padZeros_zeroBytes hlt, htotal, ← update_append, ← update_append, padding]
  simp only [List.append_assoc, List.singleton_append]

lemma bits_zeros (n : ℕ) : bits (List.replicate n 0) = List.replicate (8 * n) false := by
  have hzero : byteBits 0 = List.replicate 8 false := by decide
  rw [bits, List.flatMap_replicate, hzero, List.flatten_replicate_replicate, Nat.mul_comm]

lemma padding_standard {data : List UInt8} (h : data.length < 2 ^ 61) :
    bits (data ++ padding data) = pad (bits data) := by
  obtain ⟨n, hn⟩ : ∃ n, zeroBytes (update init (data ++ [0x80])) = n := ⟨_, rfl⟩
  have hn' : n = (56 + 64 - (data.length + 1) % 64) % 64 := by
    rw [← hn, zeroBytes, update_buffer (by decide), List.length_append, show init.buffer.length = 0 from rfl,
      Nat.zero_add, List.length_singleton]
  have hzeros : zeros (bits data).length = 7 + 8 * n := by
    rw [bits_length]
    exact zeros_eq (by omega) (by omega)
  have hlength : (UInt64.ofNat data.length * 8).toNat = (bits data).length := by
    rw [bits_length, UInt64.toNat_mul, UInt64.toNat_ofNat]
    show data.length % 2 ^ 64 * 8 % 2 ^ 64 = 8 * data.length
    omega
  rw [padding, hn, bits_append, ← List.singleton_append, bits_append, bits_append, lengthBytes_bits, hlength,
    bits_zeros,
    pad, hzeros, List.replicate_add, List.append_assoc]
  rfl

end Padding

section Digits

lemma hexDigit_eq {n : UInt8} (h : n.toNat < 16) : hexDigit n = Nat.digitChar n.toNat := by
  have htable : ∀ k < 16, "0123456789abcdef".toList.getD k '0' = Nat.digitChar k := by decide
  exact htable n.toNat h

lemma byte_digits (b : UInt8) : [hexDigit (b >>> 4), hexDigit (b &&& 15)] = hexDigits 2 b.toNat := by
  have hb := b.toNat_lt
  have hhigh : (b >>> 4).toNat = b.toNat / 16 := by
    rw [UInt8.toNat_shiftRight]
    exact Nat.shiftRight_eq_div_pow b.toNat 4
  have hlow : (b &&& 15).toNat = b.toNat % 16 := by
    rw [UInt8.toNat_and]
    exact Nat.and_two_pow_sub_one_eq_mod b.toNat 4
  rw [hexDigit_eq (by omega), hexDigit_eq (by omega), hhigh, hlow]
  simp [hexDigits, List.range_succ, Nat.mod_eq_of_lt (show b.toNat / 16 < 16 by omega)]

lemma word_byte (w : UInt32) {i : UInt32} (hi : i.toNat < 32) :
    (((w >>> i) &&& 0xFF).toUInt8).toNat = w.toNat / 2 ^ i.toNat % 256 := by
  rw [UInt32.toNat_toUInt8, UInt32.toNat_and, UInt32.toNat_shiftRight, Nat.mod_eq_of_lt hi, Nat.shiftRight_eq_div_pow]
  rw [show (0xFF : UInt32).toNat = 2 ^ 8 - 1 from rfl, Nat.and_two_pow_sub_one_eq_mod, Nat.mod_mod]

lemma word_digits (w : UInt32) :
    (wordBytes w).flatMap (fun b : UInt8 => [hexDigit (b >>> 4), hexDigit (b &&& 15)]) = hexDigits 8 w.toNat := by
  have hw := w.toNat_lt
  have hsplit : w.toNat = ((w.toNat / 2 ^ 24 % 256 * 16 ^ 2 + w.toNat / 2 ^ 16 % 256) * 16 ^ 2 +
      w.toNat / 2 ^ 8 % 256) * 16 ^ 2 + w.toNat / 2 ^ 0 % 256 := by omega
  have hsnoc : ∀ m x y, hexDigits (m + 2) (x * 16 ^ 2 + y % 256) = hexDigits m x ++ hexDigits 2 (y % 256) :=
    fun m x y => hexDigits_add m 2 x _ (Nat.mod_lt y (by norm_num))
  conv_rhs => rw [hsplit]
  rw [hsnoc 6, hsnoc 4, hsnoc 2]
  simp only [wordBytes, List.map_cons, List.map_nil, List.flatMap_cons, List.flatMap_nil, byte_digits,
    word_byte w (show (24 : UInt32).toNat < 32 by decide), word_byte w (show (16 : UInt32).toNat < 32 by decide),
    word_byte w (show (8 : UInt32).toNat < 32 by decide), word_byte w (show (0 : UInt32).toNat < 32 by decide),
    List.append_assoc, List.append_nil]
  rfl

lemma finalizeHex_eq (ctx : Context) : finalizeHex ctx = hex (finalContext ctx).state.standard.digest := by
  rw [hex_digest, finalizeHex, bytesToHex, padAndFinalize, ← finalContext]
  generalize (finalContext ctx).state = s
  simp only [List.flatMap_assoc, word_digits]
  rfl

end Digits

noncomputable def digestHex (data : List UInt8) : String := hex (sha256 (bits data))

lemma hashHex_standard {data : List UInt8} (h : data.length < 2 ^ 61) : hashHex data = digestHex data := by
  rw [hashHex, finalizeHex_eq, finalContext_update, update_init_standard, padding_standard h, digestHex, sha256]

section Calls

structure Hasher where
  context : Context := init
  finalized : Bool := false

inductive Call
  | update (data : List UInt8)
  | cloneFinalizeHex

namespace Hasher

def update (h : Hasher) (data : List UInt8) : Except String Hasher :=
  if h.finalized then .error "Sha256 context already finalized"
  else .ok { h with context := Sha256.update h.context data }

def clone (h : Hasher) : Hasher := { context := h.context, finalized := h.finalized }

def finalizeHex (h : Hasher) : Except String (String × Hasher) :=
  if h.finalized then .error "Sha256 context already finalized"
  else .ok (Sha256.finalizeHex h.context, { context := finalContext h.context, finalized := true })

def call (h : Hasher) : Call → Except String (List String × Hasher)
  | .update data => do return ([], ← h.update data)
  | .cloneFinalizeHex => do
    let (digest, _) ← h.clone.finalizeHex
    return ([digest], h)

def calls : Hasher → List Call → Except String (List String × Hasher)
  | h, [] => return ([], h)
  | h, c :: cs => do
    let (digests, h') ← h.call c
    let (later, h'') ← h'.calls cs
    return (digests ++ later, h'')

end Hasher

def Call.data : Call → List UInt8
  | .update data => data
  | .cloneFinalizeHex => []

def fed (calls : List Call) : List UInt8 := calls.flatMap Call.data

def prefixes : List UInt8 → List Call → List (List UInt8)
  | _, [] => []
  | before, .update data :: cs => prefixes (before ++ data) cs
  | before, .cloneFinalizeHex :: cs => before :: prefixes before cs

lemma prefixes_length {before p : List UInt8} {calls : List Call} (hp : p ∈ prefixes before calls) :
    p.length ≤ before.length + (fed calls).length := by
  induction calls generalizing before with
  | nil => cases hp
  | cons c cs ih =>
    cases c with
    | update data =>
      have hle := ih hp
      simp only [fed, List.flatMap_cons, Call.data, List.length_append] at hle ⊢
      omega
    | cloneFinalizeHex =>
      rcases List.mem_cons.mp hp with rfl | hp
      · exact Nat.le_add_right _ _
      · exact ih hp

lemma calls_eq (before : List UInt8) (calls : List Call) :
    Hasher.calls { context := update init before } calls =
      .ok ((prefixes before calls).map hashHex, { context := update init (before ++ fed calls) }) := by
  induction calls generalizing before with
  | nil =>
    rw [fed, List.flatMap_nil, List.append_nil]
    rfl
  | cons c cs ih =>
    cases c with
    | update data =>
      have hcall : Hasher.call { context := update init before } (.update data) =
          .ok ([], { context := update init (before ++ data) }) := by
        rw [update_append]
        rfl
      rw [Hasher.calls, hcall]
      simp only [bind, Except.bind, ih, fed, List.flatMap_cons, List.append_assoc]
      rfl
    | cloneFinalizeHex =>
      have hcall : Hasher.call { context := update init before } .cloneFinalizeHex =
          .ok ([hashHex before], { context := update init before }) := rfl
      rw [Hasher.calls, hcall]
      simp only [bind, Except.bind, ih]
      rfl

theorem incremental_sha256_standard (m : List UInt8) (calls : List Call) (hsplit : fed calls = m) :
    (m.length < 2 ^ 61 → ∃ h final, Hasher.calls {} calls = .ok ((prefixes [] calls).map digestHex, h) ∧
      h.finalizeHex = .ok (digestHex m, final)) ∧
    (∀ data, (digestHex data).length = 64 ∧ ∀ c ∈ (digestHex data).toList, c ∈ "0123456789abcdef".toList) ∧
    ∀ earlier, earlier <+: calls → ∃ digests h, Hasher.calls {} earlier = .ok (digests, h) ∧ PaddingEnds h.context := by
  refine ⟨fun hlen => ?_, fun data => hex_lowercase _, fun earlier _ => ?_⟩
  · have hdigests : (prefixes [] calls).map hashHex = (prefixes [] calls).map digestHex := by
      refine List.map_congr_left fun p hp => hashHex_standard ?_
      have hle := prefixes_length hp
      rw [hsplit, List.length_nil, Nat.zero_add] at hle
      omega
    have hcalls := calls_eq [] calls
    rw [hdigests, hsplit, List.nil_append] at hcalls
    refine ⟨_, { context := finalContext (update init m), finalized := true }, hcalls, ?_⟩
    rw [← hashHex_standard hlen]
    rfl
  · refine ⟨_, _, calls_eq [] earlier, padding_ends ?_⟩
    rw [update_buffer (by decide)]
    exact Nat.mod_lt _ (by norm_num)

def abcCalls : List Call := [.update [97, 98], .cloneFinalizeHex, .update [], .update [99]]

theorem incremental_sha256_standard_abc :
    (∃ h final, Hasher.calls {} abcCalls = .ok ([digestHex [97, 98]], h) ∧
      h.finalizeHex = .ok (digestHex [97, 98, 99], final)) ∧
    digestHex [97, 98, 99] = "ba7816bf8f01cfea414140de5dae2223b00361a396177a9cb410ff61f20015ad" := by
  obtain ⟨hdigests, _⟩ := incremental_sha256_standard [97, 98, 99] abcCalls rfl
  refine ⟨hdigests (by decide), ?_⟩
  rw [← hashHex_standard (by decide)]
  decide +kernel

end Calls

end MavlinkLogService.Session.Sha256
