import MavlinkLogService.Archive.DataFlash

/-! The grammar of the logs that the DataFlash validator accepts without a complaint. -/

namespace MavlinkLogService.Archive

def validateDataFlashBuffer (data : List UInt8) : DataFlashValidationResult := validateBytes data

def IsFmt (m : List UInt8) : Prop := m.length = 89 ∧ m.take 3 = [0xA3, 0x95, 0x80]

instance (m : List UInt8) : Decidable (IsFmt m) := inferInstanceAs (Decidable (_ ∧ _))

def fmt? (m : List UInt8) : Option (UInt8 × UInt8) := if IsFmt m then some (m.getD 3 0, m.getD 4 0) else none

def lengthFor (type : UInt8) (m : List UInt8) : Option UInt8 :=
  (fmt? m).bind fun d => if d.1 = type then some d.2 else none

def declaredLength (earlier : List (List UInt8)) (type : UInt8) : Option UInt8 :=
  earlier.reverse.findSome? (lengthFor type)

def IsMessage (earlier : List (List UInt8)) (m : List UInt8) : Prop :=
  ∃ type rest, m = 0xA3 :: 0x95 :: type :: rest ∧ type ≠ 0x80 ∧
    ∃ length, declaredLength earlier type = some length ∧ m.length = length.toNat

inductive Continues : List (List UInt8) → List (List UInt8) → Prop
  | nil (earlier : List (List UInt8)) : Continues earlier []
  | cons {earlier : List (List UInt8)} {m : List UInt8} {ms : List (List UInt8)}
    (record : IsFmt m ∨ IsMessage earlier m) (later : Continues (earlier ++ [m]) ms) : Continues earlier (m :: ms)

structure Records (ms : List (List UInt8)) : Prop where
  first : ∃ m ms', ms = m :: ms' ∧ IsFmt m
  continues : Continues [] ms

lemma declaredLength_snoc (earlier : List (List UInt8)) (m : List UInt8) (type : UInt8) :
    declaredLength (earlier ++ [m]) type = (lengthFor type m).or (declaredLength earlier type) := by
  rw [declaredLength, List.reverse_append, List.reverse_singleton, List.singleton_append, List.findSome?_cons]
  cases lengthFor type m <;> rfl

lemma lengthFor_fmt {m : List UInt8} (h : IsFmt m) (type : UInt8) :
    lengthFor type m = if m.getD 3 0 = type then some (m.getD 4 0) else none := by
  rw [lengthFor, fmt?, if_pos h]
  rfl

lemma lengthFor_message {earlier : List (List UInt8)} {m : List UInt8} (h : IsMessage earlier m) (type : UInt8) :
    lengthFor type m = none := by
  obtain ⟨ty, rest, rfl, hne, _⟩ := h
  rw [lengthFor, fmt?, if_neg (by simp [IsFmt, hne])]
  rfl

namespace Scan

structure Follows (earlier : List (List UInt8)) (s : Scan) : Prop where
  formats : ∀ type, s.formats type = declaredLength earlier type
  haveFmt : s.haveFmt = true ↔ earlier ≠ []
  scanned : s.result.bytesScanned = s.pos
  failed : s.result.ok = false
  resyncs : s.result.resyncCount = 0
  bad : s.result.badMessageCount = 0

variable {s s' : Scan} {earlier : List (List UInt8)}

lemma Follows.declared (h : Follows earlier s) {type length : UInt8} (hd : declaredLength earlier type = some length) :
    s.haveFmt = true := by
  rw [h.haveFmt]
  rintro rfl
  cases hd

lemma step_header {b₀ b₁ b₂ : UInt8} {rest : List UInt8} (hr : s.rest = b₀ :: b₁ :: b₂ :: rest) :
    s.step = if b₀ ≠ 0xA3 ∨ b₁ ≠ 0x95 then .inl s.resync else s.message b₂ := by
  rw [step, hr]

lemma fmt_shape {m : List UInt8} (h : IsFmt m) : ∃ rest, m = 0xA3 :: 0x95 :: 0x80 :: rest := by
  refine ⟨m.drop 3, ?_⟩
  have hsplit := List.take_append_drop 3 m
  rw [h.2] at hsplit
  exact hsplit.symm

lemma accept_fmt (h : Follows earlier s) {m rest : List UInt8} (hm : IsFmt m) (hr : s.rest = m ++ rest) :
    s.step = .inl ((s.define (m.getD 3 0) (m.getD 4 0)).accept fmtSize) ∧
      Follows (earlier ++ [m]) ((s.define (m.getD 3 0) (m.getD 4 0)).accept fmtSize) := by
  have hlen : m.length = 89 := hm.1
  have hget : ∀ i < 89, s.rest.getD i 0 = m.getD i 0 := by
    intro i hi
    rw [hr, List.getD_eq_getElem?_getD, List.getElem?_append_left (by omega), List.getD_eq_getElem?_getD]
  have hlong : ¬ s.rest.length < fmtSize := by
    rw [hr, List.length_append, fmtSize]
    omega
  refine ⟨?_, ?_⟩
  · obtain ⟨tail, rfl⟩ := fmt_shape hm
    rw [step_header hr, if_neg (by simp), message, if_pos rfl, if_neg hlong, hget 3 (by norm_num), hget 4 (by norm_num)]
  · refine ⟨?_, by simp [accept, skip, define], rfl, h.failed, h.resyncs, h.bad⟩
    intro type
    have hupdate : ((s.define (m.getD 3 0) (m.getD 4 0)).accept fmtSize).formats type =
        if type = m.getD 3 0 then some (m.getD 4 0) else s.formats type := Function.update_apply ..
    rw [declaredLength_snoc, lengthFor_fmt hm, hupdate, h.formats]
    by_cases htype : type = m.getD 3 0
    · rw [if_pos htype, if_pos htype.symm, Option.some_or]
    · rw [if_neg htype, if_neg (Ne.symm htype), Option.none_or]

lemma accept_message (h : Follows earlier s) {m rest : List UInt8} (hm : IsMessage earlier m)
    (hr : s.rest = m ++ rest) :
    s.step = .inl (s.accept m.length) ∧ Follows (earlier ++ [m]) (s.accept m.length) := by
  have hlater : ∀ type, declaredLength (earlier ++ [m]) type = declaredLength earlier type := by
    intro type
    rw [declaredLength_snoc, lengthFor_message hm]
    rfl
  obtain ⟨type, tail, rfl, hne, length, hd, hlen⟩ := hm
  have hhave := h.declared hd
  refine ⟨?_, ?_⟩
  · have hshort : ¬ length.toNat < 3 := by
      rw [← hlen]
      simp
    have hfits : ¬ s.rest.length < length.toNat := by
      rw [hr, ← hlen, List.length_append]
      omega
    rw [step_header hr, if_neg (by simp), message, if_neg hne, hhave]
    simp only [Bool.not_true, Bool.false_eq_true, if_false, h.formats, hd, if_neg hshort, if_neg hfits, hlen]
  · refine ⟨fun ty => (h.formats ty).trans (hlater ty).symm, ?_, rfl, h.failed, h.resyncs, h.bad⟩
    simpa [accept, skip] using hhave

structure Moved (s s' : Scan) : Prop where
  shorter : s'.rest.length < s.rest.length
  resyncs : s.result.resyncCount ≤ s'.result.resyncCount
  bad : s.result.badMessageCount ≤ s'.result.badMessageCount
  resyncs_le : s'.result.resyncCount + s'.rest.length ≤ s.result.resyncCount + s.rest.length
  bad_le : s'.result.badMessageCount + s'.rest.length ≤ s.result.badMessageCount + s.rest.length

lemma step_moved (hs : s.step = .inl s') : Moved s s' := by
  rw [step] at hs
  split at hs
  · next b₀ b₁ b₂ tail hr =>
    have hlen : 3 ≤ s.rest.length := by
      rw [hr]
      simp
    split_ifs at hs
    · obtain rfl := Sum.inl.inj hs
      constructor <;> simp only [resync, skip, List.length_drop] <;> omega
    · rw [message] at hs
      split_ifs at hs
      · obtain rfl := Sum.inl.inj hs
        constructor <;> simp only [accept, skip, define, fmtSize, List.length_drop] <;> omega
      · obtain rfl := Sum.inl.inj hs
        constructor <;> simp only [resync, skip, List.length_drop] <;> omega
      · split at hs
        · obtain rfl := Sum.inl.inj hs
          constructor <;> simp only [resync, badMessage, skip, List.length_drop] <;> omega
        · split_ifs at hs
          · obtain rfl := Sum.inl.inj hs
            constructor <;> simp only [badMessage, skip, List.length_drop] <;> omega
          · obtain rfl := Sum.inl.inj hs
            constructor <;> simp only [accept, skip, List.length_drop] <;> omega
  · cases hs

lemma step_ended {r : DataFlashValidationResult} (hs : s.step = .inr r) :
    r.resyncCount = s.result.resyncCount ∧ r.badMessageCount = s.result.badMessageCount ∧
      (s.result.ok = false → r.ok = true → s.rest.length ≤ 2 ∧ s.haveFmt = true) := by
  rw [step] at hs
  split at hs
  · split_ifs at hs
    rw [message] at hs
    split_ifs at hs
    · obtain rfl := Sum.inr.inj hs
      exact ⟨rfl, rfl, fun hf ht => absurd (hf.symm.trans ht) Bool.false_ne_true⟩
    · split at hs
      · cases hs
      · split_ifs at hs
        obtain rfl := Sum.inr.inj hs
        exact ⟨rfl, rfl, fun hf ht => absurd (hf.symm.trans ht) Bool.false_ne_true⟩
  · next hshort =>
    have hlen : s.rest.length ≤ 2 := by
      rcases hrest : s.rest with _ | ⟨b₀, _ | ⟨b₁, _ | ⟨b₂, tail⟩⟩⟩
      · simp
      · simp
      · simp
      · exact absurd hrest (hshort b₀ b₁ b₂ tail)
    obtain rfl := Sum.inr.inj hs
    rw [finish]
    split_ifs with hhave
    · exact ⟨rfl, rfl, fun hf ht => absurd (hf.symm.trans ht) Bool.false_ne_true⟩
    · exact ⟨rfl, rfl, fun _ _ => ⟨hlen, by simpa using hhave⟩⟩

lemma step_clean (h : Follows earlier s) (hs : s.step = .inl s') (hr : s'.result.resyncCount = 0)
    (hb : s'.result.badMessageCount = 0) :
    ∃ m rest, s.rest = m ++ rest ∧ (IsFmt m ∨ IsMessage earlier m) := by
  rw [step] at hs
  split at hs
  · next b₀ b₁ b₂ tail hrest =>
    split_ifs at hs with hhead
    · obtain rfl := Sum.inl.inj hs
      simp [resync] at hr
    · rw [not_or, not_not, not_not] at hhead
      obtain ⟨rfl, rfl⟩ := hhead
      rw [message] at hs
      split_ifs at hs with htype hshort hhave
      · refine ⟨s.rest.take 89, s.rest.drop 89, (List.take_append_drop _ _).symm, Or.inl ⟨?_, ?_⟩⟩
        · rw [List.length_take]
          rw [fmtSize] at hshort
          omega
        · rw [List.take_take, hrest, htype]
          rfl
      · obtain rfl := Sum.inl.inj hs
        simp [resync] at hr
      · split at hs
        · obtain rfl := Sum.inl.inj hs
          simp [resync] at hr
        · next length hformat =>
          split_ifs at hs with hsmall hlong
          · obtain rfl := Sum.inl.inj hs
            simp [badMessage, skip] at hb
          · refine ⟨s.rest.take length.toNat, s.rest.drop length.toNat, (List.take_append_drop _ _).symm, Or.inr ?_⟩
            refine ⟨b₂, tail.take (length.toNat - 3), ?_, htype, length, (h.formats b₂).symm.trans hformat, ?_⟩
            · obtain ⟨n, hn⟩ : ∃ n, length.toNat = n + 3 := ⟨length.toNat - 3, by omega⟩
              rw [hrest, hn]
              simp
            · rw [List.length_take]
              omega
  · cases hs

lemma run_induct {R : Scan → DataFlashValidationResult → Prop} (hfinish : ∀ s : Scan, R s s.finish)
    (hmove : ∀ s s' r, s.step = .inl s' → R s' r → R s r) (hend : ∀ s r, s.step = .inr r → R s r) (n : ℕ) (s : Scan) :
    R s (run n s) := by
  induction n generalizing s with
  | zero => exact hfinish s
  | succ n ih =>
    rw [run]
    cases hs : s.step with
    | inl s' => exact hmove s s' _ hs (ih s')
    | inr r => exact hend s r hs

lemma run_counts (n : ℕ) (s : Scan) : s.result.resyncCount ≤ (run n s).resyncCount ∧
    s.result.badMessageCount ≤ (run n s).badMessageCount := by
  refine run_induct (R := fun s r => s.result.resyncCount ≤ r.resyncCount ∧
    s.result.badMessageCount ≤ r.badMessageCount) ?_ ?_ ?_ n s
  · intro s
    rw [finish]
    split_ifs <;> exact ⟨le_rfl, le_rfl⟩
  · intro s s' r hs hr
    have hmoved := step_moved hs
    exact ⟨hmoved.resyncs.trans hr.1, hmoved.bad.trans hr.2⟩
  · intro s r hs
    obtain ⟨hr, hb, _⟩ := step_ended hs
    exact ⟨hr.ge, hb.ge⟩

lemma run_bounds (n : ℕ) (s : Scan) : (run n s).resyncCount ≤ s.result.resyncCount + s.rest.length ∧
    (run n s).badMessageCount ≤ s.result.badMessageCount + s.rest.length := by
  refine run_induct (R := fun s r => r.resyncCount ≤ s.result.resyncCount + s.rest.length ∧
    r.badMessageCount ≤ s.result.badMessageCount + s.rest.length) ?_ ?_ ?_ n s
  · intro s
    rw [finish]
    split_ifs <;> exact ⟨Nat.le_add_right _ _, Nat.le_add_right _ _⟩
  · intro s s' r hs hr
    have hmoved := step_moved hs
    exact ⟨hr.1.trans hmoved.resyncs_le, hr.2.trans hmoved.bad_le⟩
  · intro s r hs
    obtain ⟨hr, hb, _⟩ := step_ended hs
    exact ⟨hr.le.trans (Nat.le_add_right _ _), hb.le.trans (Nat.le_add_right _ _)⟩

lemma accept_record (h : Follows earlier s) {m rest : List UInt8} (hm : IsFmt m ∨ IsMessage earlier m)
    (hr : s.rest = m ++ rest) :
    ∃ s', s.step = .inl s' ∧ Follows (earlier ++ [m]) s' ∧ s'.rest = rest ∧ s'.pos = s.pos + m.length := by
  rcases hm with hm | hm
  · obtain ⟨hstep, hfollows⟩ := accept_fmt h hm hr
    have hlen : fmtSize = m.length := hm.1.symm
    refine ⟨_, hstep, hfollows, ?_, by rw [hlen]; rfl⟩
    simp [accept, skip, define, hr, hlen]
  · obtain ⟨hstep, hfollows⟩ := accept_message h hm hr
    exact ⟨_, hstep, hfollows, by simp [accept, skip, hr], rfl⟩

lemma run_parses (n : ℕ) (h : Follows earlier s) (hn : s.rest.length ≤ n) (hok : (run n s).ok = true)
    (hr : (run n s).resyncCount = 0) (hb : (run n s).badMessageCount = 0) :
    ∃ ms t, s.rest = ms.flatten ++ t ∧ Continues earlier ms ∧ earlier ++ ms ≠ [] ∧ t.length ≤ 2 := by
  induction n generalizing s earlier with
  | zero =>
    have hnil : s.rest = [] := List.length_eq_zero_iff.mp (Nat.le_zero.mp hn)
    refine ⟨[], [], by simp [hnil], .nil _, ?_, by simp⟩
    rw [List.append_nil, ← h.haveFmt]
    by_contra hno
    rw [run, finish, Bool.not_eq_true] at *
    rw [hno] at hok
    simp [h.failed] at hok
  | succ n ih =>
    rw [run] at hok hr hb
    cases hs : s.step with
    | inl s' =>
      rw [hs] at hok hr hb
      simp only at hok hr hb
      have hcounts := run_counts n s'
      obtain ⟨m, rest, hrest, hm⟩ := step_clean h hs (by omega) (by omega)
      obtain ⟨s'', hs'', hfollows, hrest', _⟩ := accept_record h hm hrest
      obtain rfl := Sum.inl.inj (hs.symm.trans hs'')
      have hshorter := (step_moved hs).shorter
      obtain ⟨ms, t, heq, hcontinues, _, ht⟩ := ih hfollows (by omega) hok hr hb
      refine ⟨m :: ms, t, ?_, .cons hm hcontinues, by simp, ht⟩
      rw [hrest, ← hrest', heq, List.flatten_cons, List.append_assoc]
    | inr r =>
      rw [hs] at hok hr hb
      obtain ⟨_, _, hend⟩ := step_ended hs
      obtain ⟨hlen, hhave⟩ := hend h.failed hok
      refine ⟨[], s.rest, rfl, .nil _, ?_, hlen⟩
      rw [List.append_nil, ← h.haveFmt]
      exact hhave

lemma run_reads {ms : List (List UInt8)} {t : List UInt8} (hc : Continues earlier ms) (n : ℕ) (h : Follows earlier s)
    (hn : s.rest.length ≤ n) (hr : s.rest = ms.flatten ++ t) (hne : earlier ++ ms ≠ []) (ht : t.length ≤ 2) :
    (run n s).ok = true ∧ (run n s).resyncCount = 0 ∧ (run n s).badMessageCount = 0 ∧
      (run n s).bytesScanned = s.pos + ms.flatten.length := by
  induction hc generalizing s n with
  | nil earlier =>
    have hfinish : run n s = s.finish := by
      cases n with
      | zero => rfl
      | succ n =>
        have hstep : s.step = .inr s.finish := by
          rw [step]
          split
          · next b₀ b₁ b₂ tail hrest =>
            rw [List.flatten_nil, List.nil_append] at hr
            rw [← hr, hrest] at ht
            simp at ht
          · rfl
        rw [run, hstep]
    have hhave : s.haveFmt = true := by
      rw [h.haveFmt]
      simpa using hne
    rw [hfinish, finish, hhave]
    simp [h.resyncs, h.bad, h.scanned]
  | @cons earlier m ms record later ih =>
    rw [List.flatten_cons, List.append_assoc] at hr
    obtain ⟨s', hs, hfollows, hrest, hpos⟩ := accept_record h record hr
    have hshorter := (step_moved hs).shorter
    cases n with
    | zero => omega
    | succ n =>
      have hrun : run (n + 1) s = run n s' := by rw [run, hs]
      rw [hrun]
      obtain ⟨hok, hresync, hbad, hscanned⟩ := ih n hfollows (by omega) hrest (by simp)
      exact ⟨hok, hresync, hbad, by rw [hscanned, hpos, List.flatten_cons, List.length_append, Nat.add_assoc]⟩

lemma start_follows (data : List UInt8) : Follows [] { rest := data } :=
  ⟨fun _ => rfl, by simp, rfl, rfl, rfl, rfl⟩

end Scan

lemma Continues.first {ms : List (List UInt8)} (h : Continues [] ms) (hne : ms ≠ []) : Records ms := by
  refine ⟨?_, h⟩
  cases h with
  | nil => exact absurd rfl hne
  | @cons _ m ms record later =>
    refine ⟨m, ms, rfl, record.resolve_right ?_⟩
    rintro ⟨_, _, _, _, _, hd, _⟩
    cases hd

lemma Records.ne_nil {ms : List (List UInt8)} (h : Records ms) : ms ≠ [] := by
  obtain ⟨m, ms', rfl, _⟩ := h.first
  simp

lemma validateDataFlashBuffer_eq {data : List UInt8} (h : data ≠ []) :
    validateDataFlashBuffer data = Scan.run data.length { rest := data } := by
  rw [validateDataFlashBuffer, validateBytes, if_neg (by simpa using h)]

lemma buffer_parses {data : List UInt8} (hok : (validateDataFlashBuffer data).ok = true)
    (hr : (validateDataFlashBuffer data).resyncCount = 0) (hb : (validateDataFlashBuffer data).badMessageCount = 0) :
    ∃ ms t, data = ms.flatten ++ t ∧ Records ms ∧ t.length ≤ 2 := by
  have hne : data ≠ [] := by
    rintro rfl
    cases hok
  rw [validateDataFlashBuffer_eq hne] at hok hr hb
  obtain ⟨ms, t, heq, hcontinues, hms, ht⟩ := Scan.run_parses _ (Scan.start_follows data) le_rfl hok hr hb
  exact ⟨ms, t, heq, hcontinues.first hms, ht⟩

lemma buffer_reads {ms : List (List UInt8)} {t : List UInt8} (h : Records ms) (ht : t.length ≤ 2) :
    (validateDataFlashBuffer (ms.flatten ++ t)).ok = true ∧
      (validateDataFlashBuffer (ms.flatten ++ t)).resyncCount = 0 ∧
      (validateDataFlashBuffer (ms.flatten ++ t)).badMessageCount = 0 ∧
      (validateDataFlashBuffer (ms.flatten ++ t)).bytesScanned = ms.flatten.length := by
  have hne : ms.flatten ++ t ≠ [] := by
    obtain ⟨m, ms', rfl, hm⟩ := h.first
    obtain ⟨rest, rfl⟩ := Scan.fmt_shape hm
    simp
  rw [validateDataFlashBuffer_eq hne]
  simpa using Scan.run_reads h.continues _ (Scan.start_follows _) le_rfl rfl h.ne_nil ht

lemma buffer_counts (data : List UInt8) : (validateDataFlashBuffer data).resyncCount ≤ data.length ∧
    (validateDataFlashBuffer data).badMessageCount ≤ data.length := by
  rw [validateDataFlashBuffer, validateBytes]
  split_ifs
  · exact ⟨Nat.zero_le _, Nat.zero_le _⟩
  · simpa using Scan.run_bounds data.length { rest := data }

theorem validator_accepts_grammar (data : List UInt8) (hsize : data.length < 2 ^ 32) :
    ((validateDataFlashBuffer data).ok = true ∧ (validateDataFlashBuffer data).resyncCount % 2 ^ 32 = 0 ∧
        (validateDataFlashBuffer data).badMessageCount % 2 ^ 32 = 0 ↔
      ∃ ms t, data = ms.flatten ++ t ∧ Records ms ∧ t.length ≤ 2) ∧
    ∀ ms t, data = ms.flatten ++ t → Records ms → t.length ≤ 2 →
      (validateDataFlashBuffer data).bytesScanned = data.length - t.length := by
  obtain ⟨hresyncs, hbad⟩ := buffer_counts data
  refine ⟨⟨?_, ?_⟩, ?_⟩
  · rintro ⟨hok, hr, hb⟩
    rw [Nat.mod_eq_of_lt (by omega)] at hr hb
    exact buffer_parses hok hr hb
  · rintro ⟨ms, t, rfl, h, ht⟩
    obtain ⟨hok, hr, hb, _⟩ := buffer_reads h ht
    exact ⟨hok, by rw [hr, Nat.zero_mod], by rw [hb, Nat.zero_mod]⟩
  · rintro ms t rfl h ht
    obtain ⟨_, _, _, hscanned⟩ := buffer_reads h ht
    rw [hscanned, List.length_append, Nat.add_sub_cancel]

def typeSevenFmt : List UInt8 := [0xA3, 0x95, 0x80, 7, 4] ++ List.replicate 84 0

theorem validator_accepts_grammar_short_log :
    let data := typeSevenFmt ++ [0xA3, 0x95, 7, 1, 0xA3, 0x95]
    data.length < 2 ^ 32 ∧ (∃ ms t, data = ms.flatten ++ t ∧ Records ms ∧ t.length ≤ 2) ∧
      (validateDataFlashBuffer data).ok = true ∧ (validateDataFlashBuffer data).bytesScanned = 93 := by
  have hsize : (typeSevenFmt ++ [0xA3, 0x95, 7, 1, 0xA3, 0x95]).length < 2 ^ 32 := by decide
  have hrecords : Records [typeSevenFmt, [0xA3, 0x95, 7, 1]] := by
    refine ⟨⟨_, _, rfl, by decide⟩, .cons (.inl (by decide)) (.cons (.inr ?_) (.nil _))⟩
    exact ⟨7, [1], rfl, by decide, 4, by decide, rfl⟩
  obtain ⟨hiff, hscanned⟩ := validator_accepts_grammar _ hsize
  obtain ⟨hok, _⟩ := hiff.2 ⟨_, [0xA3, 0x95], rfl, hrecords, by decide⟩
  exact ⟨hsize, ⟨_, [0xA3, 0x95], rfl, hrecords, by decide⟩, hok, hscanned _ [0xA3, 0x95] rfl hrecords (by decide)⟩

end MavlinkLogService.Archive
