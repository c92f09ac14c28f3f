import Mathlib.Tactic

/-! Cutting a list into blocks of a fixed length, and an accumulator that is fed one element at a time
and works on full blocks. -/

namespace MavlinkLogService.Library

variable {α β σ : Type*}

def block (n : ℕ) (l : List α) (i : ℕ) : List α := (l.drop (n * i)).take n

def blocks (n : ℕ) (l : List α) : List (List α) := (List.range (l.length / n)).map (block n l)

def push (n : ℕ) (f : σ → List α → σ) (s : σ × List α) (a : α) : σ × List α :=
  if (s.2 ++ [a]).length = n then (f s.1 (s.2 ++ [a]), []) else (s.1, s.2 ++ [a])

lemma block_length {n i : ℕ} {l : List α} (h : n * (i + 1) ≤ l.length) : (block n l i).length = n := by
  rw [block, List.length_take, List.length_drop]
  rw [Nat.mul_succ] at h
  omega

lemma length_of_mem_blocks {n : ℕ} {l b : List α} (hb : b ∈ blocks n l) : b.length = n := by
  obtain ⟨i, hi, rfl⟩ := List.mem_map.mp hb
  exact block_length ((Nat.mul_le_mul_left n (List.mem_range.mp hi)).trans (Nat.mul_div_le _ _))

lemma block_append {n i : ℕ} {l : List α} (h : n * (i + 1) ≤ l.length) (r : List α) :
    block n (l ++ r) i = block n l i := by
  rw [Nat.mul_succ] at h
  rw [block, block, List.drop_append_of_le_length (by omega), List.take_append_of_le_length]
  rw [List.length_drop]
  omega

lemma map_block_append {n k : ℕ} {l : List α} (h : n * k ≤ l.length) (r : List α) :
    (List.range k).map (block n (l ++ r)) = (List.range k).map (block n l) := by
  refine List.map_congr_left fun i hi => block_append ?_ r
  exact (Nat.mul_le_mul_left n (List.mem_range.mp hi)).trans h

lemma blocks_snoc_inside {n : ℕ} {l : List α} {a : α} (h : (l.length + 1) / n = l.length / n) :
    blocks n (l ++ [a]) = blocks n l := by
  rw [blocks, blocks, List.length_append, List.length_singleton, h]
  exact map_block_append (Nat.mul_div_le _ _) _

lemma blocks_snoc_full {n : ℕ} {l : List α} {a : α} (h : (l.drop (n * (l.length / n)) ++ [a]).length = n) :
    blocks n (l ++ [a]) = blocks n l ++ [l.drop (n * (l.length / n)) ++ [a]] := by
  have hle := Nat.mul_div_le l.length n
  rw [List.length_append, List.length_drop, List.length_singleton] at h
  have hquot : (l.length + 1) / n = l.length / n + 1 := by
    rw [show l.length + 1 = n + n * (l.length / n) by omega, Nat.add_mul_div_left _ _ (by omega),
      Nat.div_self (by omega), Nat.add_comm]
  rw [blocks, List.length_append, List.length_singleton, hquot, List.range_succ, List.map_append,
    map_block_append (Nat.mul_div_le _ _), blocks, List.map_singleton, block, List.drop_append_of_le_length hle,
    List.take_of_length_le]
  simp only [List.length_append, List.length_drop, List.length_singleton]
  omega

lemma foldl_push {n : ℕ} (hn : 0 < n) (f : σ → List α → σ) (s : σ) (l : List α) :
    l.foldl (push n f) (s, []) = ((blocks n l).foldl f s, l.drop (n * (l.length / n))) := by
  -- from the right: the element that arrives last either stays with what is held or fills the block
  induction l using List.reverseRecOn with
  | nil => simp [blocks]
  | append_singleton l a ih =>
    have hle := Nat.mul_div_le l.length n
    have hlt := Nat.lt_mul_div_succ l.length hn
    rw [Nat.mul_succ] at hlt
    rw [List.foldl_append, ih, List.foldl_cons, List.foldl_nil, push]
    split_ifs with hfull
    · have hend : n * ((l ++ [a]).length / n) = (l ++ [a]).length := by
        simp only [List.length_append, List.length_drop, List.length_singleton] at hfull ⊢
        exact Nat.mul_div_cancel' ⟨l.length / n + 1, by rw [Nat.mul_succ]; omega⟩
      rw [blocks_snoc_full hfull, List.foldl_append, List.foldl_cons, List.foldl_nil, hend, List.drop_length]
    · have hquot : (l.length + 1) / n = l.length / n := by
        simp only [List.length_append, List.length_drop, List.length_singleton] at hfull
        exact Nat.div_eq_of_lt_le (by rw [Nat.mul_comm]; omega) (by rw [Nat.mul_comm, Nat.mul_succ]; omega)
      rw [blocks_snoc_inside hquot, List.length_append, List.length_singleton, hquot,
        List.drop_append_of_le_length hle]

section Widen

variable {f : α → List β} {w : ℕ}

lemma drop_flatMap (hf : ∀ a, (f a).length = w) (n : ℕ) (l : List α) :
    (l.flatMap f).drop (w * n) = (l.drop n).flatMap f := by
  induction n generalizing l with
  | zero => simp
  | succ n ih =>
    cases l with
    | nil => simp
    | cons a l =>
      rw [List.flatMap_cons, List.drop_succ_cons, ← ih, Nat.mul_succ, Nat.add_comm, ← List.drop_drop,
        List.drop_left' (hf a)]

lemma take_flatMap (hf : ∀ a, (f a).length = w) (n : ℕ) (l : List α) :
    (l.flatMap f).take (w * n) = (l.take n).flatMap f := by
  induction n generalizing l with
  | zero => simp
  | succ n ih =>
    cases l with
    | nil => simp
    | cons a l =>
      rw [List.flatMap_cons, List.take_succ_cons, List.flatMap_cons, ← ih, Nat.mul_succ, Nat.add_comm, ← hf a,
        List.take_length_add_append]

lemma block_flatMap (hf : ∀ a, (f a).length = w) (n : ℕ) (l : List α) (i : ℕ) :
    block (w * n) (l.flatMap f) i = (block n l i).flatMap f := by
  rw [block, Nat.mul_assoc, drop_flatMap hf, take_flatMap hf, block]

lemma length_flatMap (hf : ∀ a, (f a).length = w) (l : List α) : (l.flatMap f).length = w * l.length := by
  simp [List.length_flatMap, hf, Nat.mul_comm]

lemma blocks_flatMap (hf : ∀ a, (f a).length = w) (hw : 0 < w) (n : ℕ) (l : List α) :
    blocks (w * n) (l.flatMap f) = (blocks n l).map (List.flatMap f) := by
  rw [blocks, blocks, length_flatMap hf, Nat.mul_div_mul_left _ _ hw, List.map_map]
  exact List.map_congr_left fun i _ => block_flatMap hf n l i

end Widen

end MavlinkLogService.Library
