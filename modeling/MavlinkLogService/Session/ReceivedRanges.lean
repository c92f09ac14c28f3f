import MavlinkLogService.Words
import MavlinkLogService.Library.Intervals

/-! The received byte intervals of one download, and the gap-fill requests they give rise to. -/

namespace MavlinkLogService.Session

open Library.Intervals

def logChunkSize : ℕ := 90

def logStreamRequestCount : ℕ := 0xFFFFFFFF

def alignDownToChunk (offset : ℕ) : ℕ := offset - offset % logChunkSize

def chunkSlotIndex (offset : ℕ) : ℕ := offset / logChunkSize

def chunkCountForSize (size : ℕ) : ℕ :=
  if size = 0 then 0 else sub32 (add32 size logChunkSize) 1 / logChunkSize

structure ReceivedRanges where
  ranges : List (ℕ × ℕ) := []
  deriving DecidableEq, Repr

namespace ReceivedRanges

def add (r : ReceivedRanges) (offset count : ℕ) : ReceivedRanges :=
  if count = 0 then r else ⟨merge (r.ranges ++ [(offset, add32 offset count)])⟩

def complete (r : ReceivedRanges) (total : ℕ) : Bool :=
  total == 0 || match r.ranges with
    | [q] => q.1 == 0 && total ≤ q.2
    | _ => false

def gapsFrom (total : ℕ) : ℕ → List (ℕ × ℕ) → List (ℕ × ℕ)
  | cursor, [] => if cursor < total then [(cursor, total - cursor)] else []
  | cursor, q :: qs =>
    (if cursor < q.1 then [(cursor, q.1 - cursor)] else []) ++ gapsFrom total (max cursor q.2) qs

def gaps (r : ReceivedRanges) (total : ℕ) : List (ℕ × ℕ) := gapsFrom total 0 r.ranges

def bytesReceived (r : ReceivedRanges) : ℕ :=
  r.ranges.foldl (fun total q => add32 total (sub32 q.2 q.1)) 0

end ReceivedRanges

/-- The inner loop of `requestMergedGaps`. Both loops step through at most `2 ^ 32` states, so
running out of that many rounds means that the loop never ends. -/
def coalesceRequest (reqStart stop : ℕ) : ℕ → ℕ → Option ℕ
  | 0, _ => none
  | n + 1, coalesced =>
    if add32 reqStart coalesced < stop then
      coalesceRequest reqStart stop n (add32 coalesced logChunkSize)
    else some coalesced

def requestGap (stop : ℕ) : ℕ → ℕ → Option (List (ℕ × ℕ))
  | 0, _ => none
  | n + 1, reqStart =>
    if reqStart < stop then do
      let coalesced ← coalesceRequest reqStart stop (2 ^ 32) logChunkSize
      let reqCount := min (min (stop - reqStart) coalesced) logStreamRequestCount
      let rest ← requestGap stop n (add32 reqStart reqCount)
      return (reqStart, reqCount) :: rest
    else some []

def gapStart (gap : ℕ × ℕ) : ℕ :=
  let start := alignDownToChunk gap.1
  let start := if start < gap.1 then add32 start logChunkSize else start
  if add32 gap.1 gap.2 ≤ start then gap.1 else start

def requestMergedGaps (r : ReceivedRanges) (total : ℕ) : Option (List (ℕ × ℕ)) := do
  let requests ← ((r.gaps total).filter (fun gap => gap.2 ≠ 0)).mapM
    (fun gap => requestGap (add32 gap.1 gap.2) (2 ^ 32) (gapStart gap))
  return requests.flatten

namespace ReceivedRanges

structure Within (r : ReceivedRanges) (total : ℕ) : Prop where
  bounds : ∀ q ∈ r.ranges, q.1 < q.2 ∧ q.2 ≤ total

lemma covered_add {r : ReceivedRanges} {offset count x : ℕ} (h : offset + count < 2 ^ 32) :
    Covered (r.add offset count).ranges x ↔ Covered r.ranges x ∨ (offset ≤ x ∧ x < offset + count) := by
  rw [add]
  split_ifs with hc
  · rw [hc]
    exact ⟨Or.inl, fun hx => hx.elim id fun hx => absurd hx (by omega)⟩
  · rw [covered_merge, covered_append, add32_eq h]
    simp

lemma add_within {r : ReceivedRanges} {offset count total : ℕ} (h : r.Within total)
    (hc : offset + count ≤ total) (ht : total < 2 ^ 32) : (r.add offset count).Within total := by
  rw [add]
  split_ifs with h₀
  · exact h
  · refine ⟨merge_bounds (· ≤ total) _ (List.forall_mem_append.mpr ⟨h.bounds, List.forall_mem_singleton.mpr ?_⟩)⟩
    rw [add32_eq (by omega)]
    exact ⟨by omega, hc⟩

lemma complete_single {r : ReceivedRanges} {total : ℕ} (h : r.complete total = true)
    (h₀ : 0 < total) : ∃ e, r.ranges = [(0, e)] ∧ total ≤ e := by
  rcases r with ⟨l⟩
  have ht : (total == 0) = false := by simpa using h₀.ne'
  rw [complete, ht, Bool.false_or] at h
  match l, h with
  | [(b, e)], h =>
    simp only [Bool.and_eq_true, beq_iff_eq, decide_eq_true_eq] at h
    exact ⟨e, by rw [h.1], h.2⟩

lemma complete_covered {r : ReceivedRanges} {total x : ℕ} (h : r.complete total = true)
    (hx : x < total) : Covered r.ranges x := by
  obtain ⟨e, hr, he⟩ := complete_single h (by omega)
  simp only [hr, covered_cons, covered_nil, or_false]
  omega

lemma complete_bytes {r : ReceivedRanges} {total : ℕ} (h : r.complete total = true)
    (hw : r.Within total) (h₀ : 0 < total) (ht : total < 2 ^ 32) : r.bytesReceived = total := by
  obtain ⟨e, hr, he⟩ := complete_single h h₀
  have hb := hw.bounds (0, e) (by simp [hr])
  have ht' : e = total := by simp only at hb; omega
  have hs : sub32 total 0 = total := sub32_eq (Nat.zero_le _) ht
  simp only [bytesReceived, hr, ht', hs, List.foldl_cons, List.foldl_nil]
  rw [add32_eq (by omega), Nat.zero_add]

structure Bounded (r : ReceivedRanges) (lo hi : ℕ) : Prop where
  bounds : ∀ q ∈ r.ranges, lo ≤ q.1 ∧ q.1 < q.2 ∧ q.2 ≤ hi
  separated : Separated r.ranges

lemma bounded_add {r : ReceivedRanges} {lo hi offset count : ℕ} (h : r.Bounded lo hi) (hlo : lo ≤ offset)
    (hc : offset + count ≤ hi) (hhi : hi < 2 ^ 32) : (r.add offset count).Bounded lo hi := by
  rw [add]
  split_ifs with h₀
  · exact h
  · have hall : ∀ q ∈ r.ranges ++ [(offset, add32 offset count)], lo ≤ q.1 ∧ q.1 < q.2 ∧ q.2 ≤ hi := by
      refine List.forall_mem_append.mpr ⟨h.bounds, List.forall_mem_singleton.mpr ?_⟩
      rw [add32_eq (by omega)]
      exact ⟨hlo, by omega, hc⟩
    refine ⟨fun q hq => ?_, merge_separated _⟩
    have hq' := merge_bounds (· ≤ hi) _ (fun x hx => (hall x hx).2) q hq
    obtain ⟨x, hx, hle, _⟩ := merge_covered _ q.1 ⟨q, hq, le_rfl, hq'.1⟩
    exact ⟨(hall x hx).1.trans hle, hq'⟩

lemma bytesReceived_eq {r : ReceivedRanges} {lo hi : ℕ} (h : r.Bounded lo hi) (hhi : hi < 2 ^ 32) :
    r.bytesReceived = (r.ranges.map fun q => q.2 - q.1).sum := by
  have hfold : ∀ (l : List (ℕ × ℕ)) (acc : ℕ), (∀ q ∈ l, lo ≤ q.1 ∧ q.1 < q.2 ∧ q.2 ≤ hi) →
      acc + (l.map fun q => q.2 - q.1).sum < 2 ^ 32 →
      l.foldl (fun total q => add32 total (sub32 q.2 q.1)) acc = acc + (l.map fun q => q.2 - q.1).sum := by
    intro l
    induction l with
    | nil => intro acc _ _; rfl
    | cons q l ih =>
      intro acc hl hlt
      have hq := hl q List.mem_cons_self
      rw [List.map_cons, List.sum_cons] at hlt
      rw [List.foldl_cons, sub32_eq hq.2.1.le (by omega), add32_eq (by omega), List.map_cons, List.sum_cons,
        ih _ (fun x hx => hl x (List.mem_cons_of_mem q hx)) (by omega), Nat.add_assoc]
  have hsum := separated_sum_le h.separated h.bounds
  rw [bytesReceived, hfold r.ranges 0 h.bounds (by omega), Nat.zero_add]

lemma bytesReceived_le {r : ReceivedRanges} {lo hi : ℕ} (h : r.Bounded lo hi) (hhi : hi < 2 ^ 32) :
    r.bytesReceived ≤ hi - lo := by
  rw [bytesReceived_eq h hhi]
  exact separated_sum_le h.separated h.bounds

lemma bytesReceived_mono {r r' : ReceivedRanges} {lo hi : ℕ} (h : r.Bounded lo hi) (h' : r'.Bounded lo hi)
    (hhi : hi < 2 ^ 32) (hc : ∀ x, Covered r.ranges x → Covered r'.ranges x) :
    r.bytesReceived ≤ r'.bytesReceived := by
  rw [bytesReceived_eq h hhi, bytesReceived_eq h' hhi]
  exact separated_sum_mono h.separated (fun q hq => (h.bounds q hq).2.1) h'.separated
    (fun q hq => (h'.bounds q hq).2.1) hc

lemma mem_gapsFrom_nil {total cursor : ℕ} {gap : ℕ × ℕ} :
    gap ∈ gapsFrom total cursor [] ↔ cursor < total ∧ gap = (cursor, total - cursor) := by
  rw [gapsFrom]
  split_ifs with h <;> simp [h]

lemma mem_gapsFrom_cons {total cursor : ℕ} {q : ℕ × ℕ} {l : List (ℕ × ℕ)} {gap : ℕ × ℕ} :
    gap ∈ gapsFrom total cursor (q :: l) ↔
      (cursor < q.1 ∧ gap = (cursor, q.1 - cursor)) ∨ gap ∈ gapsFrom total (max cursor q.2) l := by
  rw [gapsFrom, List.mem_append]
  split_ifs with h <;> simp [h]

lemma gapsFrom_ends {total cursor : ℕ} {l : List (ℕ × ℕ)} {gap : ℕ × ℕ} (h : gap ∈ gapsFrom total cursor l) :
    cursor ≤ gap.1 ∧ 0 < gap.2 ∧ (gap.1 + gap.2 = total ∨ ∃ q ∈ l, gap.1 + gap.2 = q.1) := by
  induction l generalizing cursor with
  | nil =>
    obtain ⟨hlt, rfl⟩ := mem_gapsFrom_nil.mp h
    refine ⟨le_rfl, by simp only; omega, Or.inl (by simp only; omega)⟩
  | cons q l ih =>
    rcases mem_gapsFrom_cons.mp h with ⟨hlt, rfl⟩ | h
    · refine ⟨le_rfl, by simp only; omega, Or.inr ⟨q, List.mem_cons_self, by simp only; omega⟩⟩
    · obtain ⟨hc, hpos, hend⟩ := ih h
      refine ⟨(le_max_left _ _).trans hc, hpos, hend.imp_right ?_⟩
      rintro ⟨r, hr, he⟩
      exact ⟨r, List.mem_cons_of_mem q hr, he⟩

end ReceivedRanges

lemma coalesceRequest_found {reqStart stop : ℕ} {n : ℕ} {coalesced : ℕ} (hc : coalesced < 2 ^ 32)
    (h : ∃ k ≤ n, stop ≤ add32 reqStart (add32 coalesced (logChunkSize * k))) :
    ∃ c, coalesceRequest reqStart stop (n + 1) coalesced = some c ∧ c < 2 ^ 32 ∧ stop ≤ add32 reqStart c := by
  induction n generalizing coalesced with
  | zero =>
    obtain ⟨k, hk, hle⟩ := h
    obtain rfl : k = 0 := Nat.le_zero.mp hk
    rw [Nat.mul_zero, add32_eq (by omega : coalesced + 0 < 2 ^ 32), Nat.add_zero] at hle
    refine ⟨coalesced, ?_, hc, hle⟩
    rw [coalesceRequest, if_neg (not_lt.mpr hle)]
  | succ n ih =>
    rw [coalesceRequest]
    split_ifs with hlt
    · apply ih (add32_lt _ _)
      obtain ⟨k, hk, hle⟩ := h
      cases k with
      | zero =>
        rw [Nat.mul_zero, add32_eq (by omega : coalesced + 0 < 2 ^ 32), Nat.add_zero] at hle
        omega
      | succ k =>
        refine ⟨k, by omega, ?_⟩
        have hsum : add32 coalesced (logChunkSize * (k + 1)) =
            add32 (add32 coalesced logChunkSize) (logChunkSize * k) := by
          simp only [add32, logChunkSize]
          omega
        rwa [← hsum]
    · exact ⟨coalesced, rfl, hc, not_lt.mp hlt⟩

lemma exists_rounds {reqStart stop : ℕ} (hr : reqStart < stop) (hs : stop < 2 ^ 32 - 1) :
    ∃ k ≤ 2 ^ 32 - 1, stop ≤ add32 reqStart (add32 logChunkSize (logChunkSize * k)) := by
  obtain ⟨e, he, hle⟩ : ∃ e, 0 < e ∧ 2 ^ 32 - 2 ≤ reqStart + 2 * e ∧ reqStart + 2 * e < 2 ^ 32 :=
    ⟨(2 ^ 32 - 1 - reqStart) / 2, by omega, by omega⟩
  -- 620384165 is the inverse of 45 modulo 2 ^ 31
  refine ⟨(620384165 * e) % 2 ^ 31 - 1, by omega, ?_⟩
  have h45 : 45 * ((620384165 * e) % 2 ^ 31) % 2 ^ 31 = e := by omega
  rw [add32, add32, logChunkSize]
  omega

lemma coalesceRequest_diverges {reqStart coalesced : ℕ} (hr : reqStart % 2 = 0) (hc : coalesced % 2 = 0) (n : ℕ) :
    coalesceRequest reqStart (2 ^ 32 - 1) n coalesced = none := by
  induction n generalizing coalesced with
  | zero => rfl
  | succ n ih =>
    rw [coalesceRequest, if_pos (by rw [add32]; omega)]
    apply ih
    rw [add32, logChunkSize]
    omega

lemma requestGap_once {reqStart stop : ℕ} (hr : reqStart < stop) (hs : stop < 2 ^ 32 - 1) (n : ℕ) :
    requestGap stop (n + 2) reqStart = some [(reqStart, stop - reqStart)] := by
  obtain ⟨c, hc, hlt, hle⟩ := coalesceRequest_found (by norm_num [logChunkSize]) (exists_rounds hr hs)
  have hfuel : (2 : ℕ) ^ 32 = 2 ^ 32 - 1 + 1 := by norm_num
  -- a sum that wraps ends below `reqStart`, so the loop has counted past the whole gap
  have hcount : min (min (stop - reqStart) c) logStreamRequestCount = stop - reqStart := by
    rw [add32] at hle
    rw [logStreamRequestCount]
    omega
  rw [requestGap, if_pos hr, hfuel, hc]
  simp only [Option.bind_eq_bind, Option.bind_some, hcount]
  rw [add32_eq (by omega), requestGap, if_neg (by omega)]
  rfl

lemma gapStart_lt {gap : ℕ × ℕ} (hpos : 0 < gap.2) (h : gap.1 + gap.2 < 2 ^ 32) :
    gapStart gap < gap.1 + gap.2 := by
  simp only [gapStart]
  rw [add32_eq h]
  split_ifs <;> omega

def requestFor (gap : ℕ × ℕ) : ℕ × ℕ := (gapStart gap, gap.1 + gap.2 - gapStart gap)

lemma mapM_some {α β : Type*} {f : α → Option β} {g : α → β} {l : List α} (h : ∀ x ∈ l, f x = some (g x)) :
    l.mapM f = some (l.map g) := by
  induction l with
  | nil => rfl
  | cons x l ih =>
    have hl := ih fun y hy => h y (List.mem_cons_of_mem x hy)
    simp [h x List.mem_cons_self, hl]

lemma requestMergedGaps_eq {r : ReceivedRanges} {total : ℕ} (h : ∀ gap ∈ r.gaps total, gap.1 + gap.2 < 2 ^ 32 - 1) :
    requestMergedGaps r total = some ((r.gaps total).map requestFor) := by
  have hpos : ∀ gap ∈ r.gaps total, 0 < gap.2 := fun gap hg => (ReceivedRanges.gapsFrom_ends hg).2.1
  have hfilter : (r.gaps total).filter (fun gap => gap.2 ≠ 0) = r.gaps total := by
    rw [List.filter_eq_self]
    intro gap hg
    simpa using (hpos gap hg).ne'
  -- each gap takes two rounds: one request for the rest of the gap, and the test that ends the loop
  have hfuel : (2 : ℕ) ^ 32 = 2 ^ 32 - 2 + 2 := by norm_num
  have hgap : ∀ gap ∈ r.gaps total,
      requestGap (add32 gap.1 gap.2) (2 ^ 32) (gapStart gap) = some [requestFor gap] := by
    intro gap hg
    have hend := h gap hg
    have hstart := gapStart_lt (hpos gap hg) (by omega)
    rw [add32_eq (by omega), hfuel, requestGap_once hstart hend]
    rfl
  rw [requestMergedGaps, hfilter, mapM_some hgap]
  simp only [Option.bind_eq_bind, Option.bind_some, ← List.flatMap_def, ← List.map_eq_flatMap]
  rfl

lemma requestMergedGaps_ends {r : ReceivedRanges} {lo hi total : ℕ} (h : r.Bounded lo hi) (hhi : hi ≤ 2 ^ 32 - 256)
    (ht : total ≤ hi) : ∃ requests, requestMergedGaps r total = some requests := by
  refine ⟨_, requestMergedGaps_eq fun gap hg => ?_⟩
  obtain ⟨_, _, hend | ⟨q, hq, hend⟩⟩ := ReceivedRanges.gapsFrom_ends hg
  · omega
  · have hb := h.bounds q hq
    omega

end MavlinkLogService.Session
