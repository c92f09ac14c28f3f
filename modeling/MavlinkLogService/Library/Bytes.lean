import Mathlib.Tactic

/-! The bits of a byte string, and writing a block at a position of a list, as a seek followed by a write
does to a file. -/

namespace MavlinkLogService.Library

def byteBits (byte : UInt8) : List Bool := List.ofFn fun i : Fin 8 => byte.toBitVec.getLsbD i

def bits (data : List UInt8) : List Bool := data.flatMap byteBits

@[simp] lemma length_byteBits (byte : UInt8) : (byteBits byte).length = 8 := List.length_ofFn

lemma bits_cons (byte : UInt8) (data : List UInt8) : bits (byte :: data) = byteBits byte ++ bits data := rfl

lemma bits_append (data data' : List UInt8) : bits (data ++ data') = bits data ++ bits data' := List.flatMap_append

lemma length_bits (data : List UInt8) : (bits data).length = 8 * data.length := by
  induction data with
  | nil => rfl
  | cons byte data ih =>
    rw [bits_cons, List.length_append, ih, length_byteBits, List.length_cons]
    omega

lemma getElem?_bits (data : List UInt8) (i : ℕ) :
    (bits data)[i]? = data[i / 8]?.map fun byte => byte.toBitVec.getLsbD (i % 8) := by
  induction data generalizing i with
  | nil => simp [bits]
  | cons byte data ih =>
    rw [bits_cons]
    rcases Nat.lt_or_ge i 8 with hi | hi
    · rw [List.getElem?_append_left (by simpa using hi), Nat.div_eq_of_lt hi, Nat.mod_eq_of_lt hi, byteBits,
        List.getElem?_ofFn, dif_pos hi]
      rfl
    · have hdiv : i / 8 = (i - 8) / 8 + 1 := by omega
      have hmod : i % 8 = (i - 8) % 8 := by omega
      rw [List.getElem?_append_right (by simpa using hi), length_byteBits, ih, hdiv, hmod, List.getElem?_cons_succ]

lemma count_true (x : List Bool) :
    x.count true = ((Finset.range x.length).filter fun i => x[i]?.getD false = true).card := by
  induction x using List.reverseRecOn with
  | nil => rfl
  | append_singleton x b ih =>
    have hsame : (Finset.range x.length).filter (fun i => (x ++ [b])[i]?.getD false = true) =
        (Finset.range x.length).filter fun i => x[i]?.getD false = true := by
      apply Finset.filter_congr
      intro i hi
      rw [List.getElem?_append_left (Finset.mem_range.mp hi)]
    rw [List.count_append, List.length_append, List.length_singleton, Finset.range_add_one, Finset.filter_insert,
      hsame, ih]
    cases b with
    | false => simp
    | true => simp

variable {α : Type*}

/-- Positions between the old end and the block hold `z`; an empty block changes nothing. -/
def overwrite (z : α) (c : List α) (ofs : ℕ) (d : List α) : List α :=
  if d = [] then c
  else (c ++ List.replicate (ofs - c.length) z).take ofs ++ d ++ c.drop (ofs + d.length)

@[simp] lemma overwrite_nil (z : α) (c : List α) (ofs : ℕ) : overwrite z c ofs [] = c := if_pos rfl

lemma overwrite_length (z : α) (c : List α) (ofs : ℕ) (d : List α) (hd : d ≠ []) :
    (overwrite z c ofs d).length = max c.length (ofs + d.length) := by
  rw [overwrite, if_neg hd]
  simp only [List.length_append, List.length_take, List.length_replicate, List.length_drop]
  omega

lemma overwrite_inside (z : α) (c : List α) (ofs : ℕ) (d : List α) (i : ℕ) (h₁ : ofs ≤ i)
    (h₂ : i < ofs + d.length) : (overwrite z c ofs d)[i]? = d[i - ofs]? := by
  have hd : d ≠ [] := by rintro rfl; simp at h₂; omega
  have hl : ((c ++ List.replicate (ofs - c.length) z).take ofs).length = ofs := by
    simp only [List.length_take, List.length_append, List.length_replicate]
    omega
  rw [overwrite, if_neg hd, List.getElem?_append_left (by simp only [List.length_append, hl]; omega),
    List.getElem?_append_right (by omega), hl]

lemma overwrite_outside (z : α) (c : List α) (ofs : ℕ) (d : List α) (i : ℕ) (hi : i < c.length)
    (h : i < ofs ∨ ofs + d.length ≤ i) : (overwrite z c ofs d)[i]? = (c)[i]? := by
  by_cases hd : d = []
  · rw [overwrite, if_pos hd]
  have hl : ((c ++ List.replicate (ofs - c.length) z).take ofs).length = ofs := by
    simp only [List.length_take, List.length_append, List.length_replicate]
    omega
  rw [overwrite, if_neg hd]
  rcases h with h | h
  · rw [List.append_assoc, List.getElem?_append_left (by omega), List.getElem?_take, if_pos h,
      List.getElem?_append_left hi]
  · rw [List.getElem?_append_right (by simp only [List.length_append, hl]; omega), List.getElem?_drop]
    congr 1
    simp only [List.length_append, hl]
    omega

lemma length_le_overwrite (z : α) (c : List α) (ofs : ℕ) (d : List α) : c.length ≤ (overwrite z c ofs d).length := by
  by_cases hd : d = []
  · rw [overwrite, if_pos hd]
  · rw [overwrite_length z c ofs d hd]
    exact le_max_left _ _

lemma overwrite_origin {z b : α} {l : List α} {ofs : ℕ} {d : List α} {x : ℕ} (h : (overwrite z l ofs d)[x]? = some b) :
    l[x]? = some b ∨ (b = z ∧ l.length ≤ x) ∨ (ofs ≤ x ∧ x < ofs + d.length ∧ d[x - ofs]? = some b) := by
  by_cases hin : ofs ≤ x ∧ x < ofs + d.length
  · rw [overwrite_inside z l ofs d x hin.1 hin.2] at h
    exact Or.inr (Or.inr ⟨hin.1, hin.2, h⟩)
  by_cases hx : x < l.length
  · rw [overwrite_outside z l ofs d x hx (by omega)] at h
    exact Or.inl h
  by_cases hd : d = []
  · rw [overwrite, if_pos hd] at h
    exact Or.inl h
  -- beyond the old content only the filler is left
  have hlen := (List.getElem?_eq_some_iff.mp h).1
  rw [overwrite_length z l ofs d hd] at hlen
  have hhead : x < ((l ++ List.replicate (ofs - l.length) z).take ofs).length := by
    simp only [List.length_take, List.length_append, List.length_replicate]
    omega
  rw [overwrite, if_neg hd, List.append_assoc, List.getElem?_append_left hhead, List.getElem?_take, if_pos (by omega),
    List.getElem?_append_right (by omega), List.getElem?_replicate, if_pos (by omega)] at h
  exact Or.inr (Or.inl ⟨(Option.some.inj h).symm, by omega⟩)

end MavlinkLogService.Library
