import MavlinkLogService.Session.ReceivedRanges

/-! What one gap-fill round asks for, and when it ends. -/

namespace MavlinkLogService.Session

open Library.Intervals

def ReceivedRanges.ofAdds (adds : List (ℕ × ℕ)) : ReceivedRanges :=
  adds.foldl (fun r a => r.add a.1 a.2) {}

def Received (adds : List (ℕ × ℕ)) (x : ℕ) : Prop := ∃ a ∈ adds, a.1 ≤ x ∧ x < a.1 + a.2

structure AsksForMissing (adds : List (ℕ × ℕ)) (total : ℕ) (requests : List (ℕ × ℕ)) : Prop where
  nonempty : ∀ q ∈ requests, 0 < q.2
  disjoint : requests.Pairwise fun a b => a.1 + a.2 ≤ b.1 ∨ b.1 + b.2 ≤ a.1
  missing : ∀ q ∈ requests, ∀ x, q.1 ≤ x → x < q.1 + q.2 → ¬ Received adds x ∧ x < total
  all : ∀ x < total, ¬ Received adds x → Received requests x

/-- A run of missing bytes that begins off the 90-byte grid ends before, or at, the next multiple of 90. -/
def HeadsCovered (adds : List (ℕ × ℕ)) (total : ℕ) : Prop :=
  ∀ x < total, ¬ Received adds x → x % logChunkSize ≠ 0 → Received adds (x - 1) →
    ∃ y, x < y ∧ y ≤ alignDownToChunk x + logChunkSize ∧ (total ≤ y ∨ Received adds y)

namespace ReceivedRanges

lemma foldl_add {adds : List (ℕ × ℕ)} {r : ReceivedRanges} {total : ℕ} (h : r.Bounded 0 total)
    (ht : total < 2 ^ 32) (ha : ∀ a ∈ adds, a.2 ≠ 0 → a.1 + a.2 ≤ total) :
    (adds.foldl (fun r a => r.add a.1 a.2) r).Bounded 0 total ∧
      ∀ x, Covered (adds.foldl (fun r a => r.add a.1 a.2) r).ranges x ↔ Covered r.ranges x ∨ Received adds x := by
  induction adds generalizing r with
  | nil => exact ⟨h, fun x => by simp [Received]⟩
  | cons a adds ih =>
    have htail : ∀ b ∈ adds, b.2 ≠ 0 → b.1 + b.2 ≤ total := fun b hb => ha b (List.mem_cons_of_mem a hb)
    by_cases h₀ : a.2 = 0
    · have hsame : r.add a.1 a.2 = r := by rw [add, if_pos h₀]
      obtain ⟨hb, hc⟩ := ih h htail
      rw [List.foldl_cons, hsame]
      refine ⟨hb, fun x => (hc x).trans (or_congr_right ?_)⟩
      have hnone : ¬ (a.1 ≤ x ∧ x < a.1 + a.2) := by omega
      simp [Received, hnone]
    · have hhead := ha a List.mem_cons_self h₀
      obtain ⟨hb, hc⟩ := ih (bounded_add h (Nat.zero_le _) hhead ht) htail
      refine ⟨hb, fun x => ?_⟩
      rw [List.foldl_cons, hc x, covered_add (by omega), or_assoc]
      simp [Received]

lemma ofAdds_bounded {adds : List (ℕ × ℕ)} {total : ℕ} (ht : total < 2 ^ 32)
    (ha : ∀ a ∈ adds, a.2 ≠ 0 → a.1 + a.2 ≤ total) : (ofAdds adds).Bounded 0 total :=
  (foldl_add ⟨by simp, List.Pairwise.nil⟩ ht ha).1

lemma ofAdds_covered {adds : List (ℕ × ℕ)} {total x : ℕ} (ht : total < 2 ^ 32)
    (ha : ∀ a ∈ adds, a.2 ≠ 0 → a.1 + a.2 ≤ total) : Covered (ofAdds adds).ranges x ↔ Received adds x := by
  have h := (foldl_add (r := {}) ⟨by simp, List.Pairwise.nil⟩ ht ha).2 x
  rw [ofAdds, h]
  simp

section

variable {total cursor : ℕ} {l : List (ℕ × ℕ)}

lemma gapsFrom_covers (hs : Separated l) (hl : ∀ q ∈ l, cursor ≤ q.1 ∧ q.1 < q.2 ∧ q.2 ≤ total) (x : ℕ) :
    Received (gapsFrom total cursor l) x ↔ cursor ≤ x ∧ x < total ∧ ¬ Covered l x := by
  induction l generalizing cursor with
  | nil =>
    rw [gapsFrom]
    split_ifs <;> simp [Received] <;> omega
  | cons q l ih =>
    obtain ⟨hq, hs'⟩ := List.pairwise_cons.mp hs
    have hhead := hl q List.mem_cons_self
    have hmax : max cursor q.2 = q.2 := max_eq_right (by omega)
    have htail : ∀ r ∈ l, q.2 ≤ r.1 ∧ r.1 < r.2 ∧ r.2 ≤ total :=
      fun r hr => ⟨(hq r hr).le, (hl r (List.mem_cons_of_mem q hr)).2⟩
    -- the first gap lies before `q`, the others, and what the rest of the list covers, after it
    have hafter : Covered l x → q.2 < x := by
      rintro ⟨r, hr, hle, _⟩
      exact (hq r hr).trans_le hle
    have hfirst : Received (if cursor < q.1 then [(cursor, q.1 - cursor)] else []) x ↔ cursor ≤ x ∧ x < q.1 := by
      split_ifs <;> simp [Received] <;> omega
    have happend : Received (gapsFrom total cursor (q :: l)) x ↔
        (cursor ≤ x ∧ x < q.1) ∨ Received (gapsFrom total q.2 l) x := by
      rw [gapsFrom, hmax, ← hfirst]
      simp only [Received, List.mem_append, or_and_right, exists_or]
    rw [happend, ih hs' htail, covered_cons]
    constructor
    · rintro (h | ⟨h, ht, hc⟩)
      · refine ⟨h.1, by omega, ?_⟩
        rintro (h' | h')
        · omega
        · have := hafter h'
          omega
      · exact ⟨by omega, ht, by rintro (h' | h') <;> [omega; exact hc h']⟩
    · rintro ⟨h, ht, hc⟩
      rw [not_or] at hc
      rcases Nat.lt_or_ge x q.1 with hx | hx
      · exact Or.inl ⟨h, hx⟩
      · exact Or.inr ⟨by omega, ht, hc.2⟩

lemma gapsFrom_pairwise (hs : Separated l) (hl : ∀ q ∈ l, cursor ≤ q.1 ∧ q.1 < q.2) :
    (gapsFrom total cursor l).Pairwise fun g g' => g.1 + g.2 ≤ g'.1 := by
  induction l generalizing cursor with
  | nil =>
    rw [gapsFrom]
    split_ifs <;> simp
  | cons q l ih =>
    obtain ⟨hq, hs'⟩ := List.pairwise_cons.mp hs
    have hhead := hl q List.mem_cons_self
    have hmax : max cursor q.2 = q.2 := max_eq_right (by omega)
    rw [gapsFrom, hmax]
    refine List.pairwise_append.mpr ⟨by split_ifs <;> simp, ?_, ?_⟩
    · exact ih hs' fun r hr => ⟨(hq r hr).le, (hl r (List.mem_cons_of_mem q hr)).2⟩
    · intro g hg g' hg'
      have hstart := (gapsFrom_ends hg').1
      split_ifs at hg
      · obtain rfl := List.mem_singleton.mp hg
        simp only
        omega
      · cases hg

lemma gapsFrom_starts {gap : ℕ × ℕ} (h : gap ∈ gapsFrom total cursor l) : gap.1 = cursor ∨ ∃ q ∈ l, gap.1 = q.2 := by
  induction l generalizing cursor with
  | nil => exact Or.inl (congrArg Prod.fst (mem_gapsFrom_nil.mp h).2)
  | cons q l ih =>
    rcases mem_gapsFrom_cons.mp h with ⟨_, rfl⟩ | h
    · exact Or.inl rfl
    · rcases ih h with h | ⟨r, hr, h⟩
      · exact (max_choice cursor q.2).imp h.trans fun hm => ⟨q, List.mem_cons_self, h.trans hm⟩
      · exact Or.inr ⟨r, List.mem_cons_of_mem q hr, h⟩

end

end ReceivedRanges

section

variable {adds : List (ℕ × ℕ)} {total : ℕ}

lemma gaps_received (ht : total < 2 ^ 32) (ha : ∀ a ∈ adds, a.2 ≠ 0 → a.1 + a.2 ≤ total) (x : ℕ) :
    Received ((ReceivedRanges.ofAdds adds).gaps total) x ↔ x < total ∧ ¬ Received adds x := by
  have hb := ReceivedRanges.ofAdds_bounded ht ha
  rw [ReceivedRanges.gaps, ReceivedRanges.gapsFrom_covers hb.separated hb.bounds,
    ReceivedRanges.ofAdds_covered ht ha]
  simp

lemma gap_missing (ht : total < 2 ^ 32) (ha : ∀ a ∈ adds, a.2 ≠ 0 → a.1 + a.2 ≤ total) {gap : ℕ × ℕ}
    (hg : gap ∈ (ReceivedRanges.ofAdds adds).gaps total) {x : ℕ} (h₁ : gap.1 ≤ x) (h₂ : x < gap.1 + gap.2) :
    x < total ∧ ¬ Received adds x :=
  (gaps_received ht ha x).mp ⟨gap, hg, h₁, h₂⟩

lemma gap_stops (ht : total < 2 ^ 32) (ha : ∀ a ∈ adds, a.2 ≠ 0 → a.1 + a.2 ≤ total) {gap : ℕ × ℕ}
    (hg : gap ∈ (ReceivedRanges.ofAdds adds).gaps total) :
    gap.1 + gap.2 ≤ total ∧ (gap.1 + gap.2 = total ∨ Received adds (gap.1 + gap.2)) := by
  have hb := ReceivedRanges.ofAdds_bounded ht ha
  obtain ⟨_, _, hend | ⟨q, hq, hend⟩⟩ := ReceivedRanges.gapsFrom_ends hg
  · exact ⟨hend.le, Or.inl hend⟩
  · have hq' := hb.bounds q hq
    refine ⟨by omega, Or.inr ?_⟩
    rw [← ReceivedRanges.ofAdds_covered ht ha]
    exact ⟨q, hq, by omega, by omega⟩

lemma gap_preceded (ht : total < 2 ^ 32) (ha : ∀ a ∈ adds, a.2 ≠ 0 → a.1 + a.2 ≤ total) {gap : ℕ × ℕ}
    (hg : gap ∈ (ReceivedRanges.ofAdds adds).gaps total) (h₀ : gap.1 ≠ 0) : Received adds (gap.1 - 1) := by
  have hb := ReceivedRanges.ofAdds_bounded ht ha
  obtain ⟨q, hq, hstart⟩ := (ReceivedRanges.gapsFrom_starts hg).resolve_left h₀
  have hq' := hb.bounds q hq
  rw [← ReceivedRanges.ofAdds_covered ht ha]
  exact ⟨q, hq, by omega, by omega⟩

lemma gapStart_eq {gap : ℕ × ℕ} (hpos : 0 < gap.2) (h : gap.1 + gap.2 ≤ 2 ^ 32 - 256) :
    gapStart gap = if gap.1 % logChunkSize ≠ 0 ∧ alignDownToChunk gap.1 + logChunkSize < gap.1 + gap.2
      then alignDownToChunk gap.1 + logChunkSize else gap.1 := by
  have hdown : alignDownToChunk gap.1 ≤ gap.1 := Nat.sub_le _ _
  have hroom : alignDownToChunk gap.1 + logChunkSize < 2 ^ 32 := by
    rw [logChunkSize]
    omega
  simp only [gapStart]
  rw [add32_eq (by omega), add32_eq hroom]
  split_ifs <;> simp only [alignDownToChunk, logChunkSize] at * <;> omega

lemma gapStart_ge {gap : ℕ × ℕ} (hpos : 0 < gap.2) (h : gap.1 + gap.2 ≤ 2 ^ 32 - 256) : gap.1 ≤ gapStart gap := by
  rw [gapStart_eq hpos h, alignDownToChunk, logChunkSize]
  split_ifs <;> omega

end

lemma requests_sound {adds : List (ℕ × ℕ)} {total : ℕ} (ht : total ≤ 2 ^ 32 - 256)
    (ha : ∀ a ∈ adds, a.2 ≠ 0 → a.1 + a.2 ≤ total) {gap : ℕ × ℕ} (hg : gap ∈ (ReceivedRanges.ofAdds adds).gaps total) :
    gap.1 ≤ gapStart gap ∧ gapStart gap < gap.1 + gap.2 ∧ gap.1 + gap.2 ≤ total := by
  have hpos := (ReceivedRanges.gapsFrom_ends hg).2.1
  have hstop := (gap_stops (by omega) ha hg).1
  exact ⟨gapStart_ge hpos (by omega), gapStart_lt hpos (by omega), hstop⟩

theorem gap_requests_exact_iff (total : ℕ) (ht : total ≤ 2 ^ 32 - 256) (adds : List (ℕ × ℕ))
    (hadds : ∀ a ∈ adds, a.1 + a.2 ≤ total) :
    ∃ requests, requestMergedGaps (ReceivedRanges.ofAdds adds) total = some requests ∧
      (AsksForMissing adds total requests ↔ HeadsCovered adds total) := by
  have ht' : total < 2 ^ 32 := by omega
  have hadds : ∀ a ∈ adds, a.2 ≠ 0 → a.1 + a.2 ≤ total := fun a ha _ => hadds a ha
  have hsound : ∀ gap ∈ (ReceivedRanges.ofAdds adds).gaps total,
      gap.1 ≤ gapStart gap ∧ gapStart gap < gap.1 + gap.2 ∧ gap.1 + gap.2 ≤ total :=
    fun gap hg => requests_sound ht hadds hg
  refine ⟨_, requestMergedGaps_eq fun gap hg => by have := hsound gap hg; omega, ?_⟩
  constructor
  · intro hasks x hx hmissing hgrid hprev
    obtain ⟨request, hmem, h₁, h₂⟩ := hasks.all x hx hmissing
    obtain ⟨gap, hg, rfl⟩ := List.mem_map.mp hmem
    simp only [requestFor] at h₁ h₂
    obtain ⟨hge, hlt, hstop⟩ := hsound gap hg
    -- a missing byte whose predecessor was received is the first of its gap
    obtain rfl : x = gap.1 := by
      by_contra hne
      exact (gap_missing ht' hadds hg (by omega) (by omega)).2 hprev
    refine ⟨gap.1 + gap.2, by omega, ?_, (gap_stops ht' hadds hg).2.imp_left fun h => h.ge⟩
    by_contra hlong
    rw [gapStart_eq (by omega) (by omega), if_pos ⟨hgrid, by omega⟩, alignDownToChunk, logChunkSize] at h₁
    omega
  · intro hheads
    refine ⟨?_, ?_, ?_, ?_⟩
    · intro request hmem
      obtain ⟨gap, hg, rfl⟩ := List.mem_map.mp hmem
      have hg' := hsound gap hg
      simp only [requestFor]
      omega
    · have hb := ReceivedRanges.ofAdds_bounded ht' hadds
      have hpair : ((ReceivedRanges.ofAdds adds).gaps total).Pairwise fun g g' => g.1 + g.2 ≤ g'.1 :=
        ReceivedRanges.gapsFrom_pairwise hb.separated fun q hq => ⟨(hb.bounds q hq).1, (hb.bounds q hq).2.1⟩
      rw [List.pairwise_map]
      refine hpair.imp_of_mem fun {a b} ha hb' hab => Or.inl ?_
      have ha' := hsound a ha
      have hb'' := hsound b hb'
      simp only [requestFor]
      omega
    · intro request hmem x h₁ h₂
      obtain ⟨gap, hg, rfl⟩ := List.mem_map.mp hmem
      have hg' := hsound gap hg
      simp only [requestFor] at h₁ h₂
      exact (gap_missing ht' hadds hg (by omega) (by omega)).symm
    · intro x hx hmissing
      obtain ⟨gap, hg, h₁, h₂⟩ := (gaps_received ht' hadds x).mpr ⟨hx, hmissing⟩
      obtain ⟨hge, hlt, hstop⟩ := hsound gap hg
      have hstart : gapStart gap = gap.1 := by
        rw [gapStart_eq (by omega) (by omega)]
        apply if_neg
        rintro ⟨hgrid, hlong⟩
        have h₀ : gap.1 ≠ 0 := fun h => hgrid (by rw [h, Nat.zero_mod])
        obtain ⟨y, hy₁, hy₂, hy⟩ := hheads gap.1 (by omega) (gap_missing ht' hadds hg le_rfl (by omega)).2
          hgrid (gap_preceded ht' hadds hg h₀)
        have hy' := gap_missing ht' hadds hg hy₁.le (by omega)
        exact hy.elim (fun h => by omega) hy'.2
      exact ⟨requestFor gap, List.mem_map_of_mem hg, by simp only [requestFor]; omega,
        by simp only [requestFor]; omega⟩

theorem gap_requests_exact_iff_lost_chunk :
    ∃ requests, requestMergedGaps (ReceivedRanges.ofAdds [(0, 360), (360, 360), (810, 90)]) 900 = some requests ∧
      AsksForMissing [(0, 360), (360, 360), (810, 90)] 900 requests := by
  obtain ⟨requests, hr, hiff⟩ := gap_requests_exact_iff 900 (by norm_num) [(0, 360), (360, 360), (810, 90)] (by decide)
  refine ⟨requests, hr, hiff.mpr ?_⟩
  intro x hx hmissing hgrid hprev
  simp only [Received, List.mem_cons, List.not_mem_nil, or_false, exists_eq_or_imp, exists_eq_left,
    logChunkSize] at hmissing hgrid hprev
  omega

theorem short_head_not_requested :
    requestMergedGaps (ReceivedRanges.ofAdds [(0, 10)]) 180 = some [(90, 90)] ∧
      ¬ AsksForMissing [(0, 10)] 180 [(90, 90)] := by
  have hgaps : (ReceivedRanges.ofAdds [(0, 10)]).gaps 180 = [(10, 170)] := by decide
  refine ⟨?_, ?_⟩
  · rw [requestMergedGaps_eq (by rw [hgaps]; decide), hgaps]
    decide
  · intro h
    obtain ⟨q, hq, h₁, h₂⟩ := h.all 10 (by norm_num) (by simp [Received])
    obtain rfl := List.mem_singleton.mp hq
    norm_num at h₁

lemma mapM_each {α β : Type*} {f : α → Option β} {l : List α} {ys : List β} (h : l.mapM f = some ys) :
    ∀ x ∈ l, f x ≠ none := by
  induction l generalizing ys with
  | nil => simp
  | cons x l ih =>
    rw [List.mapM_cons] at h
    obtain ⟨y, hy, h⟩ := Option.bind_eq_some_iff.mp h
    obtain ⟨zs, hzs, _⟩ := Option.bind_eq_some_iff.mp h
    exact List.forall_mem_cons.mpr ⟨by simp [hy], ih hzs⟩

lemma gapStart_even {gap : ℕ × ℕ} (hpos : 0 < gap.2) (h : gap.1 + gap.2 = 2 ^ 32 - 1) : gapStart gap % 2 = 0 := by
  have hdown : alignDownToChunk gap.1 % 2 = 0 ∧ alignDownToChunk gap.1 ≤ gap.1 := by
    rw [alignDownToChunk, logChunkSize]
    omega
  have hup : add32 (alignDownToChunk gap.1) logChunkSize % 2 = 0 := by
    rw [add32, logChunkSize]
    omega
  have hlt := add32_lt (alignDownToChunk gap.1) logChunkSize
  simp only [gapStart]
  rw [add32_eq (by omega), h]
  split_ifs <;> omega

lemma requestGap_diverges {reqStart : ℕ} (hr : reqStart < 2 ^ 32 - 1) (h : reqStart % 2 = 0) (n : ℕ) :
    requestGap (2 ^ 32 - 1) n reqStart = none := by
  cases n with
  | zero => rfl
  | succ n =>
    rw [requestGap, if_pos hr, coalesceRequest_diverges h (by rw [logChunkSize])]
    rfl

lemma requestMergedGaps_diverges {r : ReceivedRanges} {total : ℕ} {gap : ℕ × ℕ} (hg : gap ∈ r.gaps total)
    (hend : gap.1 + gap.2 = 2 ^ 32 - 1) : requestMergedGaps r total = none := by
  have hpos := (ReceivedRanges.gapsFrom_ends hg).2.1
  have hlt := gapStart_lt hpos (by omega)
  rw [Option.eq_none_iff_forall_ne_some]
  intro requests h
  obtain ⟨each, heach, _⟩ := Option.bind_eq_some_iff.mp h
  refine mapM_each heach gap (List.mem_filter.mpr ⟨hg, by simpa using hpos.ne'⟩) ?_
  rw [add32_eq (by omega), hend]
  exact requestGap_diverges (by omega) (gapStart_even hpos hend) _

theorem gap_fill_ends_iff (r : ReceivedRanges) (hr : ∀ q ∈ r.ranges, q.1 < 2 ^ 32) (total : ℕ)
    (ht : total < 2 ^ 32) :
    ((∃ requests, requestMergedGaps r total = some requests) ↔
        ∀ gap ∈ r.gaps total, gap.1 + gap.2 ≠ 2 ^ 32 - 1) ∧
      ∀ gap ∈ r.gaps total, gap.1 + gap.2 = 2 ^ 32 - 1 →
        ∀ rounds, coalesceRequest (gapStart gap) (add32 gap.1 gap.2) rounds logChunkSize = none := by
  have hbound : ∀ gap ∈ r.gaps total, 0 < gap.2 ∧ gap.1 + gap.2 < 2 ^ 32 := by
    intro gap hg
    obtain ⟨_, hpos, hend | ⟨q, hq, hend⟩⟩ := ReceivedRanges.gapsFrom_ends hg
    · exact ⟨hpos, by omega⟩
    · exact ⟨hpos, by rw [hend]; exact hr q hq⟩
  refine ⟨⟨?_, ?_⟩, ?_⟩
  · rintro ⟨requests, h⟩ gap hg hend
    rw [requestMergedGaps_diverges hg hend] at h
    cases h
  · intro h
    refine ⟨_, requestMergedGaps_eq fun gap hg => ?_⟩
    have hlt := (hbound gap hg).2
    have hne := h gap hg
    omega
  · intro gap hg hend rounds
    obtain ⟨hpos, hlt⟩ := hbound gap hg
    rw [add32_eq hlt, hend]
    exact coalesceRequest_diverges (gapStart_even hpos hend) (by rw [logChunkSize]) rounds

theorem gap_fill_ends_iff_two_gaps :
    ReceivedRanges.gaps ⟨[(0, 90), (270, 450)]⟩ 900 = [(90, 180), (450, 450)] ∧
      ∃ requests, requestMergedGaps ⟨[(0, 90), (270, 450)]⟩ 900 = some requests :=
  ⟨by decide, (gap_fill_ends_iff ⟨[(0, 90), (270, 450)]⟩ (by decide) 900 (by norm_num)).1.mpr (by decide)⟩

theorem largest_size_hangs :
    requestMergedGaps {} (2 ^ 32 - 1) = none ∧
      ∀ rounds, coalesceRequest (gapStart (0, 2 ^ 32 - 1)) (2 ^ 32 - 1) rounds logChunkSize = none := by
  have hend : (0, 2 ^ 32 - 1).1 + (0, 2 ^ 32 - 1).2 = 2 ^ 32 - 1 := by norm_num
  have hgap : (0, 2 ^ 32 - 1) ∈ ReceivedRanges.gaps {} (2 ^ 32 - 1) := by
    simp [ReceivedRanges.gaps, ReceivedRanges.gapsFrom]
  refine ⟨requestMergedGaps_diverges hgap hend, ?_⟩
  exact coalesceRequest_diverges (gapStart_even (by norm_num) hend) (by rw [logChunkSize])

end MavlinkLogService.Session
