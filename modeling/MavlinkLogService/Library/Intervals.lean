import Mathlib.Tactic
import Mathlib.Data.List.Sort

/-! Finite unions of half-open intervals, given as lists of endpoint pairs. -/

namespace MavlinkLogService.Library.Intervals

variable {α : Type*} [LinearOrder α]

def Covered (l : List (α × α)) (x : α) : Prop := ∃ r ∈ l, r.1 ≤ x ∧ x < r.2

def lexLe (a b : α × α) : Prop := a.1 < b.1 ∨ (a.1 = b.1 ∧ a.2 ≤ b.2)

instance : DecidableRel (lexLe (α := α)) := fun a b =>
  inferInstanceAs (Decidable (a.1 < b.1 ∨ (a.1 = b.1 ∧ a.2 ≤ b.2)))

def coalesce : α × α → List (α × α) → List (α × α)
  | last, [] => [last]
  | last, r :: rs =>
    if r.1 ≤ last.2 then coalesce (last.1, max last.2 r.2) rs else last :: coalesce r rs

def merge (l : List (α × α)) : List (α × α) :=
  match l.insertionSort lexLe with
  | [] => []
  | r :: rs => coalesce r rs

@[simp] lemma covered_nil (x : α) : ¬ Covered [] x := by
  simp [Covered]

@[simp] lemma covered_cons (r : α × α) (l : List (α × α)) (x : α) :
    Covered (r :: l) x ↔ (r.1 ≤ x ∧ x < r.2) ∨ Covered l x := by
  simp [Covered]

lemma covered_perm {l l' : List (α × α)} (h : l.Perm l') (x : α) : Covered l x ↔ Covered l' x := by
  simp only [Covered, h.mem_iff]

lemma covered_append (l l' : List (α × α)) (x : α) :
    Covered (l ++ l') x ↔ Covered l x ∨ Covered l' x := by
  simp only [Covered, List.mem_append, or_and_right, exists_or]

lemma coalesce_covered (r : α × α) (l : List (α × α)) (x : α) (h : Covered (coalesce r l) x) :
    Covered (r :: l) x := by
  induction l generalizing r with
  | nil => exact h
  | cons q l ih =>
    rw [coalesce] at h
    split_ifs at h with hq
    · have hh := ih _ h
      simp only [covered_cons] at hh ⊢
      rcases hh with ⟨h₁, h₂⟩ | hh
      · rcases lt_max_iff.mp h₂ with h₂ | h₂
        · exact Or.inl ⟨h₁, h₂⟩
        · rcases lt_or_ge x r.2 with hx | hx
          · exact Or.inl ⟨h₁, hx⟩
          · exact Or.inr (Or.inl ⟨hq.trans hx, h₂⟩)
      · exact Or.inr (Or.inr hh)
    · rw [covered_cons] at h ⊢
      exact h.imp_right (ih q)

lemma merge_covered (l : List (α × α)) (x : α) (h : Covered (merge l) x) : Covered l x := by
  rw [← covered_perm (List.perm_insertionSort lexLe l)]
  rw [merge] at h
  cases hs : l.insertionSort lexLe with
  | nil => rw [hs] at h; exact h
  | cons r rs => rw [hs] at h; exact coalesce_covered r rs x h

lemma coalesce_bounds (P : α → Prop) (r : α × α) (l : List (α × α))
    (h : ∀ q ∈ r :: l, q.1 < q.2 ∧ P q.2) : ∀ q ∈ coalesce r l, q.1 < q.2 ∧ P q.2 := by
  induction l generalizing r with
  | nil => exact h
  | cons p l ih =>
    rw [coalesce]
    have hr := h r (by simp)
    have hp := h p (by simp)
    have hl : ∀ q ∈ l, q.1 < q.2 ∧ P q.2 := fun q hq => h q (by simp [hq])
    split_ifs with hq
    · apply ih
      intro q hq'
      rcases List.mem_cons.mp hq' with rfl | hq'
      · refine ⟨lt_max_of_lt_left hr.1, ?_⟩
        rcases max_choice r.2 p.2 with hm | hm <;> simp only [hm]
        · exact hr.2
        · exact hp.2
      · exact hl q hq'
    · intro q hq'
      rcases List.mem_cons.mp hq' with rfl | hq'
      · exact hr
      · exact ih p (List.forall_mem_cons.mpr ⟨hp, hl⟩) q hq'

lemma merge_bounds (P : α → Prop) (l : List (α × α)) (h : ∀ q ∈ l, q.1 < q.2 ∧ P q.2) :
    ∀ q ∈ merge l, q.1 < q.2 ∧ P q.2 := by
  have hp := List.perm_insertionSort lexLe l
  rw [merge]
  cases hs : l.insertionSort lexLe with
  | nil => simp
  | cons r rs =>
    rw [hs] at hp
    exact coalesce_bounds P r rs (fun q hq => h q (hp.mem_iff.mp hq))

def Separated (l : List (α × α)) : Prop := l.Pairwise fun a b => a.2 < b.1

lemma coalesce_starts {lo : α} {r : α × α} {l : List (α × α)} (h : ∀ q ∈ r :: l, lo ≤ q.1) :
    ∀ q ∈ coalesce r l, lo ≤ q.1 := by
  induction l generalizing r with
  | nil => exact h
  | cons p l ih =>
    have hr := h r List.mem_cons_self
    have hl : ∀ q ∈ p :: l, lo ≤ q.1 := fun q hq => h q (List.mem_cons_of_mem r hq)
    rw [coalesce]
    split_ifs
    · apply ih
      intro q hq
      rcases List.mem_cons.mp hq with rfl | hq
      · exact hr
      · exact hl q (List.mem_cons_of_mem p hq)
    · exact List.forall_mem_cons.mpr ⟨hr, ih hl⟩

lemma starts_joined {r p : α × α} {l : List (α × α)} (h : (r :: p :: l).Pairwise fun a b => a.1 ≤ b.1) (e : α) :
    ((r.1, e) :: l).Pairwise fun a b => a.1 ≤ b.1 := by
  obtain ⟨hr, hp⟩ := List.pairwise_cons.mp h
  refine List.pairwise_cons.mpr ⟨?_, (List.pairwise_cons.mp hp).2⟩
  exact fun q hq => hr q (List.mem_cons_of_mem p hq)

lemma coalesce_separated {r : α × α} {l : List (α × α)} (h : (r :: l).Pairwise fun a b => a.1 ≤ b.1) :
    Separated (coalesce r l) := by
  induction l generalizing r with
  | nil => exact List.pairwise_singleton _ _
  | cons p l ih =>
    obtain ⟨hr, hp⟩ := List.pairwise_cons.mp h
    rw [coalesce]
    split_ifs with hq
    · exact ih (starts_joined h _)
    · refine List.pairwise_cons.mpr ⟨?_, ih hp⟩
      intro q hmem
      have hstart : ∀ x ∈ p :: l, p.1 ≤ x.1 := List.forall_mem_cons.mpr ⟨le_rfl, (List.pairwise_cons.mp hp).1⟩
      exact (not_le.mp hq).trans_le (coalesce_starts hstart q hmem)

lemma covered_coalesce {r : α × α} {l : List (α × α)} (h : (r :: l).Pairwise fun a b => a.1 ≤ b.1) {x : α}
    (hx : Covered (r :: l) x) : Covered (coalesce r l) x := by
  induction l generalizing r with
  | nil => exact hx
  | cons p l ih =>
    obtain ⟨hr, hp⟩ := List.pairwise_cons.mp h
    rw [coalesce]
    split_ifs with hq
    · apply ih (starts_joined h _)
      simp only [covered_cons] at hx ⊢
      rcases hx with hx | hx | hx
      · exact Or.inl ⟨hx.1, lt_max_of_lt_left hx.2⟩
      · exact Or.inl ⟨(hr p List.mem_cons_self).trans hx.1, lt_max_of_lt_right hx.2⟩
      · exact Or.inr hx
    · rw [covered_cons] at hx ⊢
      exact hx.imp_right (ih hp)

lemma sorted_starts (l : List (α × α)) : (l.insertionSort lexLe).Pairwise fun a b => a.1 ≤ b.1 := by
  have htotal : Std.Total (lexLe (α := α)) := by
    refine ⟨fun a b => ?_⟩
    rcases lt_trichotomy a.1 b.1 with h | h | h
    · exact Or.inl (Or.inl h)
    · rcases le_total a.2 b.2 with h' | h'
      · exact Or.inl (Or.inr ⟨h, h'⟩)
      · exact Or.inr (Or.inr ⟨h.symm, h'⟩)
    · exact Or.inr (Or.inl h)
  have htrans : IsTrans (α × α) lexLe := by
    refine ⟨fun a b c h h' => ?_⟩
    rcases h with h | ⟨h, h₂⟩ <;> rcases h' with h' | ⟨h', h₂'⟩
    · exact Or.inl (h.trans h')
    · exact Or.inl (h' ▸ h)
    · exact Or.inl (h ▸ h')
    · exact Or.inr ⟨h.trans h', h₂.trans h₂'⟩
  exact (List.pairwise_insertionSort lexLe l).imp fun h => h.elim le_of_lt fun h => h.1.le

lemma merge_separated (l : List (α × α)) : Separated (merge l) := by
  have hsorted := sorted_starts l
  rw [merge]
  cases hs : l.insertionSort lexLe with
  | nil => exact List.Pairwise.nil
  | cons r rs =>
    rw [hs] at hsorted
    exact coalesce_separated hsorted

lemma covered_merge {l : List (α × α)} {x : α} : Covered (merge l) x ↔ Covered l x := by
  refine ⟨merge_covered l x, fun h => ?_⟩
  have hsorted := sorted_starts l
  rw [← covered_perm (List.perm_insertionSort lexLe l)] at h
  rw [merge]
  cases hs : l.insertionSort lexLe with
  | nil => rwa [hs] at h
  | cons r rs =>
    rw [hs] at hsorted h
    exact covered_coalesce hsorted h

structure MaximalInterval (S : α → Prop) (q : α × α) : Prop where
  nonempty : q.1 < q.2
  inside : ∀ x, q.1 ≤ x → x < q.2 → S x
  maximal : ∀ r : α × α, r.1 ≤ q.1 → q.2 ≤ r.2 → (∀ x, r.1 ≤ x → x < r.2 → S x) → r = q

structure Canonical (S : α → Prop) (l : List (α × α)) : Prop where
  nonempty : ∀ q ∈ l, q.1 < q.2
  sorted : l.Pairwise fun a b => a.1 ≤ b.1
  apart : l.Pairwise fun a b => a.2 < b.1 ∨ b.2 < a.1
  covers : ∀ x, Covered l x ↔ S x

lemma canonical_of_separated {S : α → Prop} {l : List (α × α)} (hs : Separated l) (hn : ∀ q ∈ l, q.1 < q.2)
    (hc : ∀ x, Covered l x ↔ S x) : Canonical S l :=
  ⟨hn, hs.imp_of_mem fun ha _ hab => ((hn _ ha).trans hab).le, hs.imp Or.inl, hc⟩

namespace Canonical

variable {S : α → Prop} {l : List (α × α)}

lemma separated (h : Canonical S l) : Separated l := by
  refine (h.sorted.and h.apart).imp_of_mem fun {a b} _ hb ⟨hle, hab⟩ => ?_
  exact hab.resolve_right fun hba => ((h.nonempty b hb).trans hba).not_ge hle

lemma eq_of_overlap (h : Canonical S l) {q r : α × α} (hq : q ∈ l) (hr : r ∈ l) (h₁ : q.1 ≤ r.2)
    (h₂ : r.1 ≤ q.2) : q = r := by
  have hsymm : Std.Symm fun a b : α × α => a.2 < b.1 ∨ b.2 < a.1 := ⟨fun _ _ => Or.symm⟩
  by_contra hne
  rcases h.apart.forall hq hr hne with h' | h'
  · exact h'.not_ge h₂
  · exact h'.not_ge h₁

lemma end_missing (h : Canonical S l) {q : α × α} (hq : q ∈ l) : ¬ S q.2 := by
  rw [← h.covers]
  rintro ⟨r, hr, hle, hlt⟩
  obtain rfl := h.eq_of_overlap hq hr ((h.nonempty q hq).trans hlt).le hle
  exact hlt.false

lemma mem_iff (h : Canonical S l) {q : α × α} : q ∈ l ↔ MaximalInterval S q := by
  have hinside : ∀ q ∈ l, ∀ x, q.1 ≤ x → x < q.2 → S x :=
    fun q hq x h₁ h₂ => (h.covers x).mp ⟨q, hq, h₁, h₂⟩
  -- an interval of the set that meets a member of the list lies in it: the member's end is not in the set
  have hwithin : ∀ q ∈ l, ∀ r : α × α, (∀ x, r.1 ≤ x → x < r.2 → S x) → r.1 < q.2 → r.2 ≤ q.2 :=
    fun q hq r hr hlt => not_lt.mp fun hlong => h.end_missing hq (hr q.2 hlt.le hlong)
  constructor
  · intro hq
    refine ⟨h.nonempty q hq, hinside q hq, fun r h₁ h₂ hr => ?_⟩
    have hlt := h.nonempty q hq
    obtain ⟨p, hp, hle, hp'⟩ := (h.covers r.1).mpr (hr r.1 le_rfl ((h₁.trans_lt hlt).trans_le h₂))
    have hend : r.2 ≤ p.2 := hwithin p hp r hr hp'
    obtain rfl := h.eq_of_overlap hq hp (hlt.le.trans (h₂.trans hend)) (hle.trans (h₁.trans hlt.le))
    exact Prod.ext (le_antisymm h₁ hle) (le_antisymm hend h₂)
  · intro hq
    obtain ⟨p, hp, hle, hlt⟩ := (h.covers q.1).mpr (hq.inside q.1 le_rfl hq.nonempty)
    rw [← hq.maximal p hle (hwithin p hp q hq.inside hlt) (hinside p hp)]
    exact hp

lemma unique {l' : List (α × α)} (h : Canonical S l) (h' : Canonical S l') : l = l' := by
  have hantisymm : Std.Antisymm fun a b : α × α => a.1 < b.1 := ⟨fun _ _ hab hba => absurd hab hba.not_gt⟩
  have hirrefl : Std.Irrefl fun a b : α × α => a.1 < b.1 := ⟨fun a => lt_irrefl a.1⟩
  have hstrict : ∀ {l : List (α × α)}, Canonical S l → l.Pairwise fun a b => a.1 < b.1 :=
    fun h => h.separated.imp_of_mem fun ha _ hab => (h.nonempty _ ha).trans hab
  exact (hstrict h).eq_of_mem_iff (hstrict h') fun q => h.mem_iff.trans h'.mem_iff.symm

end Canonical

lemma separated_sum_le {l : List (ℕ × ℕ)} {lo hi : ℕ} (hs : Separated l)
    (hb : ∀ q ∈ l, lo ≤ q.1 ∧ q.1 < q.2 ∧ q.2 ≤ hi) : (l.map fun q => q.2 - q.1).sum ≤ hi - lo := by
  induction l generalizing lo with
  | nil => simp
  | cons q l ih =>
    obtain ⟨hq, hl⟩ := List.pairwise_cons.mp hs
    have hhead := hb q List.mem_cons_self
    have htail : (l.map fun q => q.2 - q.1).sum ≤ hi - q.2 :=
      ih hl fun x hx => ⟨(hq x hx).le, (hb x (List.mem_cons_of_mem q hx)).2⟩
    rw [List.map_cons, List.sum_cons]
    omega

def points (l : List (ℕ × ℕ)) : Finset ℕ := l.foldr (fun q s => Finset.Ico q.1 q.2 ∪ s) ∅

lemma mem_points {l : List (ℕ × ℕ)} {x : ℕ} : x ∈ points l ↔ Covered l x := by
  induction l with
  | nil => simp [points]
  | cons q l ih => simpa [points] using or_congr_right ih

lemma separated_card {l : List (ℕ × ℕ)} (hs : Separated l) (hb : ∀ q ∈ l, q.1 < q.2) :
    (points l).card = (l.map fun q => q.2 - q.1).sum := by
  induction l with
  | nil => rfl
  | cons q l ih =>
    obtain ⟨hq, hl⟩ := List.pairwise_cons.mp hs
    have htail := ih hl fun x hx => hb x (List.mem_cons_of_mem q hx)
    have hdisjoint : Disjoint (Finset.Ico q.1 q.2) (points l) := by
      refine Finset.disjoint_left.mpr fun x hx hx' => ?_
      obtain ⟨r, hr, hle, _⟩ := mem_points.mp hx'
      have hlt := hq r hr
      have hx₂ := (Finset.mem_Ico.mp hx).2
      omega
    have hcard : (points (q :: l)).card = (Finset.Ico q.1 q.2).card + (points l).card :=
      Finset.card_union_of_disjoint hdisjoint
    rw [hcard, Nat.card_Ico, htail, List.map_cons, List.sum_cons]

lemma separated_sum_mono {l l' : List (ℕ × ℕ)} (hs : Separated l) (hb : ∀ q ∈ l, q.1 < q.2)
    (hs' : Separated l') (hb' : ∀ q ∈ l', q.1 < q.2) (h : ∀ x, Covered l x → Covered l' x) :
    (l.map fun q => q.2 - q.1).sum ≤ (l'.map fun q => q.2 - q.1).sum := by
  rw [← separated_card hs hb, ← separated_card hs' hb']
  apply Finset.card_le_card
  intro x hx
  exact mem_points.mpr (h x (mem_points.mp hx))

end MavlinkLogService.Library.Intervals
