import MavlinkLogService.Session.GapRequests

/-! The received ranges as the normal form of a set of bytes. -/

namespace MavlinkLogService.Session

open Library.Intervals

def Missing (adds : List (ℕ × ℕ)) (total x : ℕ) : Prop := x < total ∧ ¬ Received adds x

def gapInterval (gap : ℕ × ℕ) : ℕ × ℕ := (gap.1, gap.1 + gap.2)

structure NormalForm (adds : List (ℕ × ℕ)) (total : ℕ) (r : ReceivedRanges) : Prop where
  ranges : ∀ l, Canonical (Received adds) l ↔ l = r.ranges
  bytes : r.bytesReceived = {x | Received adds x}.ncard
  complete : r.complete total = true ↔ ∀ x, Received adds x ↔ x < total
  gapsOrdered : (r.gaps total).Pairwise fun g g' => g.1 + g.2 < g'.1
  gaps : ∀ g, g ∈ r.gaps total ↔ MaximalInterval (Missing adds total) (gapInterval g)
  accounted : r.bytesReceived + ((r.gaps total).map Prod.snd).sum = total

section

variable {adds : List (ℕ × ℕ)} {total : ℕ}

lemma covered_gapInterval (l : List (ℕ × ℕ)) (x : ℕ) : Covered (l.map gapInterval) x ↔ Received l x := by
  simp [Covered, Received, gapInterval]

lemma ofAdds_canonical (ht : total < 2 ^ 32) (ha : ∀ a ∈ adds, a.2 ≠ 0 → a.1 + a.2 ≤ total) :
    Canonical (Received adds) (ReceivedRanges.ofAdds adds).ranges := by
  have hb := ReceivedRanges.ofAdds_bounded ht ha
  exact canonical_of_separated hb.separated (fun q hq => (hb.bounds q hq).2.1)
    fun x => ReceivedRanges.ofAdds_covered ht ha

lemma gaps_canonical (ht : total < 2 ^ 32) (ha : ∀ a ∈ adds, a.2 ≠ 0 → a.1 + a.2 ≤ total) :
    Canonical (Missing adds total) (((ReceivedRanges.ofAdds adds).gaps total).map gapInterval) := by
  have hb := ReceivedRanges.ofAdds_bounded ht ha
  have hpair : ((ReceivedRanges.ofAdds adds).gaps total).Pairwise fun g g' => g.1 + g.2 ≤ g'.1 :=
    ReceivedRanges.gapsFrom_pairwise hb.separated fun q hq => ⟨(hb.bounds q hq).1, (hb.bounds q hq).2.1⟩
  have hpos : ∀ g ∈ (ReceivedRanges.ofAdds adds).gaps total, 0 < g.2 :=
    fun g hg => (ReceivedRanges.gapsFrom_ends hg).2.1
  have hsep : Separated (((ReceivedRanges.ofAdds adds).gaps total).map gapInterval) := by
    rw [Separated, List.pairwise_map]
    refine hpair.imp_of_mem fun {g g'} hg hg' hle => lt_of_le_of_ne hle fun heq => ?_
    -- the byte after a gap is the end of the log or was received, so no gap starts there
    have hpos' := hpos g' hg'
    rcases (gap_stops ht ha hg).2 with hend | hend
    · have hstop := (gap_stops ht ha hg').1
      simp only [gapInterval] at heq
      omega
    · simp only [gapInterval] at heq
      exact (gap_missing ht ha hg' heq.ge (by omega)).2 hend
  refine canonical_of_separated hsep ?_ fun x => (covered_gapInterval _ x).trans (gaps_received ht ha x)
  intro q hq
  obtain ⟨g, hg, rfl⟩ := List.mem_map.mp hq
  exact Nat.lt_add_of_pos_right (hpos g hg)

lemma ofAdds_complete (ht : total < 2 ^ 32) (ha : ∀ a ∈ adds, a.2 ≠ 0 → a.1 + a.2 ≤ total) :
    (ReceivedRanges.ofAdds adds).complete total = true ↔ ∀ x, Received adds x ↔ x < total := by
  have hb := ReceivedRanges.ofAdds_bounded ht ha
  have hcovered : ∀ x, Covered (ReceivedRanges.ofAdds adds).ranges x ↔ Received adds x :=
    fun x => ReceivedRanges.ofAdds_covered ht ha
  constructor
  · intro h x
    rw [← hcovered]
    refine ⟨?_, ReceivedRanges.complete_covered h⟩
    rintro ⟨q, hq, _, hlt⟩
    exact hlt.trans_le (hb.bounds q hq).2.2
  · intro h
    rcases Nat.eq_zero_or_pos total with rfl | hpos
    · rfl
    · have hall : Canonical (Received adds) [(0, total)] := by
        refine canonical_of_separated (List.pairwise_singleton _ _) (by simpa using hpos) fun x => ?_
        rw [h x]
        simp
      have hranges := (ofAdds_canonical ht ha).unique hall
      simp [ReceivedRanges.complete, hranges]

lemma ofAdds_bytes (ht : total < 2 ^ 32) (ha : ∀ a ∈ adds, a.2 ≠ 0 → a.1 + a.2 ≤ total) :
    (ReceivedRanges.ofAdds adds).bytesReceived = (points (ReceivedRanges.ofAdds adds).ranges).card := by
  have hb := ReceivedRanges.ofAdds_bounded ht ha
  rw [ReceivedRanges.bytesReceived_eq hb ht, separated_card hb.separated fun q hq => (hb.bounds q hq).2.1]

lemma gaps_bytes (ht : total < 2 ^ 32) (ha : ∀ a ∈ adds, a.2 ≠ 0 → a.1 + a.2 ≤ total) :
    (((ReceivedRanges.ofAdds adds).gaps total).map Prod.snd).sum =
      (points (((ReceivedRanges.ofAdds adds).gaps total).map gapInterval)).card := by
  have hc := gaps_canonical ht ha
  rw [separated_card hc.separated hc.nonempty, List.map_map]
  congr 2
  funext g
  simp [gapInterval]

lemma ofAdds_normalForm (ht : total < 2 ^ 32) (ha : ∀ a ∈ adds, a.2 ≠ 0 → a.1 + a.2 ≤ total) :
    NormalForm adds total (ReceivedRanges.ofAdds adds) := by
  have hranges := ofAdds_canonical ht ha
  have hgaps := gaps_canonical ht ha
  have hpoints : ∀ x, x ∈ points (ReceivedRanges.ofAdds adds).ranges ↔ Received adds x :=
    fun x => mem_points.trans (hranges.covers x)
  have hmissing : ∀ x, x ∈ points (((ReceivedRanges.ofAdds adds).gaps total).map gapInterval) ↔
      Missing adds total x := fun x => mem_points.trans (hgaps.covers x)
  refine ⟨fun l => ⟨fun h => h.unique hranges, ?_⟩, ?_, ofAdds_complete ht ha, ?_, fun g => ?_, ?_⟩
  · rintro rfl
    exact hranges
  · rw [ofAdds_bytes ht ha, ← Set.ncard_coe_finset]
    congr 1
    ext x
    exact hpoints x
  · exact List.pairwise_map.mp hgaps.separated
  · rw [← hgaps.mem_iff]
    refine ⟨List.mem_map_of_mem, fun h => ?_⟩
    obtain ⟨g', hg', heq⟩ := List.mem_map.mp h
    have hsame : g' = g := by
      simp only [gapInterval, Prod.mk.injEq] at heq
      exact Prod.ext heq.1 (by omega)
    exact hsame ▸ hg'
  · rw [ofAdds_bytes ht ha, gaps_bytes ht ha, ← Finset.card_union_of_disjoint]
    · have hunion : points (ReceivedRanges.ofAdds adds).ranges ∪
          points (((ReceivedRanges.ofAdds adds).gaps total).map gapInterval) = Finset.range total := by
        ext x
        have hb := ReceivedRanges.ofAdds_bounded ht ha
        rw [Finset.mem_union, hpoints, hmissing, Finset.mem_range]
        refine ⟨fun h => h.elim (fun h => ?_) And.left, fun h => ?_⟩
        · obtain ⟨q, hq, _, hlt⟩ := (hranges.covers x).mpr h
          exact hlt.trans_le (hb.bounds q hq).2.2
        · exact (em (Received adds x)).imp_right fun hn => ⟨h, hn⟩
      rw [hunion, Finset.card_range]
    · refine Finset.disjoint_left.mpr fun x hx hx' => ?_
      exact ((hmissing x).mp hx').2 ((hpoints x).mp hx)

end

theorem received_ranges_canonical (total : ℕ) (ht : total < 2 ^ 32) (adds : List (ℕ × ℕ))
    (hadds : ∀ a ∈ adds, a.1 + a.2 ≤ total) :
    NormalForm adds total (ReceivedRanges.ofAdds adds) ∧
      (∀ adds', (∀ a, a ∈ adds' ↔ a ∈ adds) → ReceivedRanges.ofAdds adds' = ReceivedRanges.ofAdds adds) ∧
      ∀ before after, adds = before ++ after →
        (ReceivedRanges.ofAdds before).bytesReceived ≤ (ReceivedRanges.ofAdds adds).bytesReceived := by
  have hall : ∀ a ∈ adds, a.2 ≠ 0 → a.1 + a.2 ≤ total := fun a ha _ => hadds a ha
  refine ⟨ofAdds_normalForm ht hall, ?_, ?_⟩
  · intro adds' hsame
    have hall' : ∀ a ∈ adds', a.2 ≠ 0 → a.1 + a.2 ≤ total := fun a ha => hall a ((hsame a).mp ha)
    have hreceived : Received adds' = Received adds := by
      funext x
      simp only [Received, hsame]
    have hcanonical := ofAdds_canonical ht hall'
    rw [hreceived] at hcanonical
    exact congrArg ReceivedRanges.mk (hcanonical.unique (ofAdds_canonical ht hall))
  · rintro before after rfl
    have hbefore : ∀ a ∈ before, a.2 ≠ 0 → a.1 + a.2 ≤ total :=
      fun a ha => hall a (List.mem_append_left after ha)
    refine ReceivedRanges.bytesReceived_mono (ReceivedRanges.ofAdds_bounded ht hbefore)
      (ReceivedRanges.ofAdds_bounded ht hall) ht fun x hx => ?_
    rw [ReceivedRanges.ofAdds_covered ht hbefore] at hx
    rw [ReceivedRanges.ofAdds_covered ht hall]
    obtain ⟨a, ha, hx⟩ := hx
    exact ⟨a, List.mem_append_left after ha, hx⟩

theorem received_ranges_canonical_bridged :
    NormalForm [(0, 90), (180, 90), (90, 90), (0, 90)] 360
      (ReceivedRanges.ofAdds [(0, 90), (180, 90), (90, 90), (0, 90)]) :=
  (received_ranges_canonical 360 (by norm_num) [(0, 90), (180, 90), (90, 90), (0, 90)] (by decide)).1

end MavlinkLogService.Session
