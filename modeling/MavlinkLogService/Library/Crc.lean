import MavlinkLogService.Library.Bytes

/-! Checksums of a bit string by a linear shift register, least significant bit first, and the error bursts
they detect. -/

namespace MavlinkLogService.Library.Crc

variable {w : ℕ}

def step (poly s : BitVec w) : BitVec w := s >>> 1 ^^^ if s.getLsbD 0 then poly else 0

def feed (poly s : BitVec w) (b : Bool) : BitVec w := step poly (s ^^^ (BitVec.ofBool b).setWidth w)

def register (poly s : BitVec w) (bits : List Bool) : BitVec w := bits.foldl (feed poly) s

def word (w : ℕ) (bits : List Bool) : BitVec w := (BitVec.ofBoolListLE bits).setWidth w

/-- The strings differ, and only inside one window of `width` consecutive positions. -/
def Burst (width : ℕ) (x y : List Bool) : Prop :=
  x ≠ y ∧ ∃ k, ∀ i, x[i]? ≠ y[i]? → k ≤ i ∧ i < k + width

section step

variable (poly : BitVec w)

lemma step_xor (s s' : BitVec w) : step poly (s ^^^ s') = step poly s ^^^ step poly s' := by
  simp only [step, BitVec.getLsbD_xor, BitVec.ushiftRight_xor_distrib]
  ext i hi
  cases s.getLsbD 0 <;> cases s'.getLsbD 0 <;> simp <;> grind

lemma step_zero : step poly 0 = 0 := by
  simp [step]

lemma iterate_zero (n : ℕ) : (step poly)^[n] 0 = 0 := Function.iterate_fixed (step_zero poly) n

lemma step_even {s : BitVec w} (h : s.getLsbD 0 = false) : step poly s = s >>> 1 := by
  simp [step, h]

variable {poly}

lemma step_eq_zero (hpoly : poly.msb = true) {s : BitVec w} (h : step poly s = 0) : s = 0 := by
  have hw : 0 < w := by
    rcases Nat.eq_zero_or_pos w with rfl | hw
    · simp [BitVec.msb, BitVec.getMsbD] at hpoly
    · exact hw
  have hlow : s.getLsbD 0 = false := by
    by_contra hone
    have htop := congrArg BitVec.msb h
    simp only [step, Bool.not_eq_false] at htop hone
    rw [if_pos hone, BitVec.msb_xor, hpoly] at htop
    simp [BitVec.msb_ushiftRight] at htop
  rw [step_even poly hlow] at h
  apply BitVec.eq_of_getLsbD_eq
  intro i hi
  cases i with
  | zero => simpa using hlow
  | succ i =>
    have hbit := congrArg (fun v => BitVec.getLsbD v i) h
    simpa [Nat.add_comm] using hbit

lemma iterate_eq_zero (hpoly : poly.msb = true) (n : ℕ) {s : BitVec w} (h : (step poly)^[n] s = 0) : s = 0 := by
  induction n generalizing s with
  | zero => exact h
  | succ n ih =>
    rw [Function.iterate_succ_apply] at h
    exact step_eq_zero hpoly (ih h)

end step

section register

variable (poly : BitVec w)

lemma feed_xor (s s' : BitVec w) (b b' : Bool) :
    feed poly (s ^^^ s') (b ^^ b') = feed poly s b ^^^ feed poly s' b' := by
  rw [feed, feed, feed, ← step_xor]
  congr 1
  cases b <;> cases b' <;> simp <;> grind

lemma register_xor {x y : List Bool} (hlen : x.length = y.length) (s s' : BitVec w) :
    register poly (s ^^^ s') (List.zipWith xor x y) = register poly s x ^^^ register poly s' y := by
  induction x generalizing y s s' with
  | nil =>
    obtain rfl := List.length_eq_zero_iff.mp hlen.symm
    rfl
  | cons b x ih =>
    obtain ⟨b', y, rfl⟩ := List.exists_cons_of_length_eq_add_one hlen.symm
    rw [register, List.zipWith_cons_cons, List.foldl_cons, feed_xor]
    exact ih (Nat.succ.inj hlen) _ _

lemma register_append (s : BitVec w) (x y : List Bool) :
    register poly s (x ++ y) = register poly (register poly s x) y := List.foldl_append

lemma register_clear (n : ℕ) (s : BitVec w) : register poly s (List.replicate n false) = (step poly)^[n] s := by
  induction n generalizing s with
  | zero => rfl
  | succ n ih =>
    have hfeed : feed poly s false = step poly s := by simp [feed]
    rw [List.replicate_succ, register, List.foldl_cons, hfeed]
    exact ih _

lemma getLsbD_word (x : List Bool) (i : ℕ) : (word w x).getLsbD i = (decide (i < w) && x.getD i false) := by
  simp [word, BitVec.getLsbD_setWidth]

lemma word_cons (b : Bool) (x : List Bool) : word w (b :: x) = (BitVec.ofBool b).setWidth w ^^^ word w x <<< 1 := by
  apply BitVec.eq_of_getLsbD_eq
  intro i hi
  rw [BitVec.getLsbD_xor, BitVec.getLsbD_shiftLeft, getLsbD_word, getLsbD_word]
  cases i with
  | zero => simp [hi]
  | succ i => simp [hi, Nat.lt_of_succ_lt hi]

lemma step_shifted {x : List Bool} (h : x.length < w) : step poly (word w x <<< 1) = word w x := by
  rw [step_even poly (by simp)]
  apply BitVec.eq_of_getLsbD_eq
  intro i hi
  rw [BitVec.getLsbD_ushiftRight, BitVec.getLsbD_shiftLeft, getLsbD_word, getLsbD_word]
  rcases Nat.lt_or_ge i x.length with hx | hx
  · simp [hi, show 1 + i < w by omega]
  · simp [hx]

lemma register_word {x : List Bool} (h : x.length ≤ w) (s : BitVec w) :
    register poly s x = (step poly)^[x.length] (s ^^^ word w x) := by
  induction x generalizing s with
  | nil =>
    have hnil : word w [] = 0#w := BitVec.eq_of_getLsbD_eq fun i _ => by simp [getLsbD_word]
    rw [hnil, BitVec.xor_zero]
    rfl
  | cons b x ih =>
    have hlt : x.length < w := h
    calc register poly s (b :: x) = register poly (feed poly s b) x := rfl
      _ = (step poly)^[x.length] (feed poly s b ^^^ word w x) := ih hlt.le _
      _ = (step poly)^[x.length] (step poly (s ^^^ word w (b :: x))) := by
        rw [word_cons, ← BitVec.xor_assoc, step_xor, step_shifted poly hlt, feed]
      _ = (step poly)^[(b :: x).length] (s ^^^ word w (b :: x)) := rfl

lemma register_byteBits (h : 8 ≤ w) (s : BitVec w) (byte : UInt8) :
    register poly s (byteBits byte) = (step poly)^[8] (s ^^^ byte.toBitVec.setWidth w) := by
  have hword : word w (byteBits byte) = byte.toBitVec.setWidth w := by
    apply BitVec.eq_of_getLsbD_eq
    intro i hi
    rw [getLsbD_word, BitVec.getLsbD_setWidth, byteBits, List.getD_eq_getElem?_getD, List.getElem?_ofFn]
    by_cases hi8 : i < 8
    · rw [dif_pos hi8, Option.getD_some]
    · rw [dif_neg hi8, BitVec.getLsbD_of_ge _ _ (Nat.not_lt.mp hi8), Option.getD_none]
  rw [register_word poly (by simpa using h), length_byteBits, hword]

end register

section Burst

variable {poly : BitVec w}

lemma clear_of_word {x : List Bool} (h : x.length ≤ w) (hword : word w x = 0) : ∀ b ∈ x, b = false := by
  intro b hb
  obtain ⟨i, hi, rfl⟩ := List.mem_iff_getElem.mp hb
  have hbit := getLsbD_word (w := w) x i
  rw [hword] at hbit
  simpa [hi, hi.trans_le h] using hbit.symm

lemma differences_clear (hpoly : poly.msb = true) {e : List Bool} {k : ℕ}
    (hwindow : ∀ i, e[i]? = some true → k ≤ i ∧ i < k + w) (h : register poly 0 e = 0) : ∀ b ∈ e, b = false := by
  have hbefore : ∀ b ∈ e.take k, b = false := by
    intro b hb
    obtain ⟨i, hi⟩ := List.mem_iff_getElem?.mp hb
    rw [List.getElem?_take] at hi
    split_ifs at hi with hik
    cases b with
    | false => rfl
    | true => exact absurd (hwindow i hi).1 (by omega)
  have hafter : ∀ b ∈ e.drop (k + w), b = false := by
    intro b hb
    obtain ⟨i, hi⟩ := List.mem_iff_getElem?.mp hb
    rw [List.getElem?_drop] at hi
    cases b with
    | false => rfl
    | true => exact absurd (hwindow _ hi).2 (by omega)
  have hsplit : e = e.take k ++ ((e.drop k).take w ++ e.drop (k + w)) := by
    rw [← List.drop_drop, List.take_append_drop, List.take_append_drop]
  have hinside : ∀ b ∈ (e.drop k).take w, b = false := by
    rw [hsplit, register_append, register_append, List.eq_replicate_of_mem hbefore, List.eq_replicate_of_mem hafter,
      register_clear, register_clear, iterate_zero] at h
    have hfits : ((e.drop k).take w).length ≤ w := List.length_take_le _ _
    have hclear := iterate_eq_zero hpoly _ h
    rw [register_word poly hfits] at hclear
    have hword := iterate_eq_zero hpoly _ hclear
    exact clear_of_word hfits (by simpa using hword)
  intro b hb
  rw [hsplit, List.mem_append, List.mem_append] at hb
  rcases hb with hb | hb | hb
  · exact hbefore b hb
  · exact hinside b hb
  · exact hafter b hb

lemma Burst.of_append {width : ℕ} {x y : List Bool} (hlen : x.length = y.length) (hwidth : x.length ≤ width)
    (hne : x ≠ y) (before after : List Bool) : Burst width (before ++ x ++ after) (before ++ y ++ after) := by
  refine ⟨by simpa using hne, before.length, ?_⟩
  intro i hi
  by_contra hout
  apply hi
  rcases Nat.lt_or_ge i before.length with hb | hb
  · rw [List.append_assoc, List.append_assoc, List.getElem?_append_left hb, List.getElem?_append_left hb]
  · have hx : (before ++ x).length ≤ i := by
      rw [List.length_append]
      omega
    have hy : (before ++ y).length ≤ i := by
      rw [List.length_append] at hx ⊢
      omega
    rw [List.getElem?_append_right hx, List.getElem?_append_right hy, List.length_append, List.length_append, hlen]

theorem register_burst (hpoly : poly.msb = true) {x y : List Bool} (hlen : x.length = y.length)
    (h : Burst w x y) (s : BitVec w) : register poly s x ≠ register poly s y := by
  obtain ⟨hne, k, hwindow⟩ := h
  intro heq
  have hzero : register poly 0 (List.zipWith xor x y) = 0 := by
    have hxor := register_xor poly hlen s s
    rwa [BitVec.xor_self, heq, BitVec.xor_self] at hxor
  have hdiffer : ∀ i, (List.zipWith xor x y)[i]? = some true → k ≤ i ∧ i < k + w := by
    intro i hi
    apply hwindow
    intro hsame
    rw [List.getElem?_zipWith, hsame] at hi
    cases hy : y[i]? <;> simp [hy] at hi
  have hclear := differences_clear hpoly hdiffer hzero
  apply hne
  apply List.ext_getElem hlen
  intro i hi hi'
  have hmem : (x[i] ^^ y[i]) ∈ List.zipWith xor x y :=
    List.mem_iff_getElem.mpr ⟨i, by simp [hi, hi'], by simp⟩
  have hbit := hclear _ hmem
  rwa [bne_eq_false_iff_eq] at hbit

end Burst

end MavlinkLogService.Library.Crc
