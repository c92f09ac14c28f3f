import MavlinkLogService.Service.Leftovers

/-! When the service opens the transport anew after faulty cycles. -/

namespace MavlinkLogService.Service

open Archive Archive.LogDownloader Library Session Storage

inductive Verdict
  | cancelled
  | clean
  | faulty
  deriving DecidableEq, Repr

def verdict (result : ArchiveCycleResult) : Verdict :=
  if 0 < result.cancelled ∧ result.failed = 0 then .cancelled
  else if result.allArchived = true ∧ result.failed = 0 then .clean
  else .faulty

lemma evaluateArchiveOutcome_eq (settings : DownloadSettings) (failures : ℤ) (result : ArchiveCycleResult)
    (connectOk : Bool) :
    evaluateArchiveOutcome settings failures result connectOk = match verdict result with
      | .cancelled => (failures, [])
      | .clean => (0, [])
      | .faulty =>
        if doReconnect settings (failures + 1) result then (if connectOk then 0 else failures + 1, [.reconnect])
        else (failures + 1, []) := by
  rw [evaluateArchiveOutcome, verdict]
  by_cases hc : 0 < result.cancelled ∧ result.failed = 0
  · rw [if_pos hc, if_pos hc]
  by_cases ha : result.allArchived = true ∧ result.failed = 0
  · rw [if_neg hc, if_neg hc, if_pos ha, if_pos ha]
  · rw [if_neg hc, if_neg hc, if_neg ha, if_neg ha]

namespace DroneLogService

def judged (t : Transition DroneLogService Event) : Option Verdict :=
  match t.event with
  | .turn _ => if t.pre.control.state = .cleanup then some (verdict t.pre.lastCycleResult) else none
  | _ => none

def faulty (t : Transition DroneLogService Event) : Bool := judged t == some .faulty

def reconnects (t : Transition DroneLogService Event) : Bool := decide (.reconnect ∈ actions t)

def reopened (t : Transition DroneLogService Event) : Bool :=
  reconnects t && match t.event with
    | .turn r => r.connectOk
    | _ => false

def restarts (t : Transition DroneLogService Event) : Bool :=
  match t.event with
  | .restart _ => true
  | _ => false

def breaks (t : Transition DroneLogService Event) : Bool := restarts t || judged t == some .clean || reopened t

variable {s s' s₁ : DroneLogService} {e : Event} {ms : List Moment} {ts : List (Transition DroneLogService Event)}

lemma cleanup_failures (s : DroneLogService) (r : Reading) : (s.cleanup r).consecutiveArchiveFailures =
    (evaluateArchiveOutcome s.config.download s.consecutiveArchiveFailures s.lastCycleResult r.connectOk).1 := by
  simp only [cleanup]
  split_ifs <;> rfl

lemma reconnects_of_trace {t : Transition DroneLogService Event} (ext : List Action)
    (h : t.post.trace = t.pre.trace ++ ext) : reconnects t = decide (.reconnect ∈ ext) := by
  rw [reconnects, actions_eq h]

lemma reconnects_cleanup {t : Transition DroneLogService Event} {r : Reading}
    (h : t.post.trace = (t.pre.cleanup r).trace) : reconnects t =
      decide (verdict t.pre.lastCycleResult = .faulty ∧ doReconnect t.pre.config.download
        (t.pre.consecutiveArchiveFailures + 1) t.pre.lastCycleResult = true) := by
  rw [reconnects_of_trace _ (h.trans (cleanup_trace t.pre r)), evaluateArchiveOutcome_eq]
  cases verdict t.pre.lastCycleResult with
  | cancelled => simp
  | clean => simp
  | faulty =>
    dsimp only
    split_ifs with hr <;> simp [hr]

lemma step_reconnects (h : s.step e = some s') (hj : judged ⟨s, e, s'⟩ = none) : reconnects ⟨s, e, s'⟩ = false := by
  cases step_cases h with
  | arrive a hs =>
    rw [reconnects_of_trace (s.control.receive a).2.marks (by rw [hs]; rfl), decide_eq_false_iff_not]
    exact fun hm => Control.receive_marks s.control a _ hm
  | drain connected hs =>
    obtain ⟨marks, hmarks, htrace, _⟩ := drain_marks s connected
    rw [reconnects_of_trace marks (by rw [hs]; exact htrace), decide_eq_false_iff_not]
    exact fun hm => (hmarks _ hm).2 rfl
  | turn r s₁ ht hs =>
    rw [hs]
    cases ht with
    | stay h => rw [reconnects_of_trace [] (by rw [h]; exact (List.append_nil _).symm)]; rfl
    | move state stale _ _ h => rw [reconnects_of_trace [] (by rw [h]; exact (List.append_nil _).symm)]; rfl
    | beginCycle _ h => rw [reconnects_of_trace [.consume] (by rw [h]; rfl)]; rfl
    | cleanup hst h =>
      rw [judged, if_pos hst] at hj
      cases hj
  | work ms hw =>
    obtain ⟨ext, htrace, hlasting, _⟩ := work_trace hw
    rw [reconnects_of_trace ext htrace, decide_eq_false_iff_not]
    exact fun hm => hlasting _ hm
  | restart config hs =>
    rw [reconnects_of_trace [.restart] (by rw [hs]; rfl)]
    rfl

lemma work_failures (h : s.work ms = some s') : s'.consecutiveArchiveFailures = s.consecutiveArchiveFailures := by
  rw [work] at h
  split at h
  · obtain ⟨⟨⟨logs, result⟩, sm⟩, hp, h⟩ := Option.bind_eq_some_iff.mp h
    dsimp only at h
    split_ifs at h <;> obtain rfl := Option.some.inj h <;> exact (perform_records hp).2
  all_goals first
    | cases h
    | obtain ⟨x, hp, h⟩ := Option.bind_eq_some_iff.mp h
      obtain rfl := Option.some.inj h
      exact (perform_records hp).2

def counted (t : Transition DroneLogService Event) : ℤ :=
  if breaks t then 0 else t.pre.consecutiveArchiveFailures + if faulty t then 1 else 0

lemma counted_other (h : s.step e = some s') (hj : judged ⟨s, e, s'⟩ = none) (hr : restarts ⟨s, e, s'⟩ = false) :
    counted ⟨s, e, s'⟩ = s.consecutiveArchiveFailures := by
  simp [counted, breaks, reopened, step_reconnects h hj, faulty, hj, hr]

lemma counted_unbroken {t : Transition DroneLogService Event} (h : breaks t = false) :
    counted t = t.pre.consecutiveArchiveFailures + if faulty t then 1 else 0 :=
  if_neg (by simp [h])

lemma counted_cleanup {t : Transition DroneLogService Event} {r : Reading} (he : t.event = .turn r)
    (hst : t.pre.control.state = .cleanup) (hp : t.post.trace = (t.pre.cleanup r).trace) :
    counted t = (evaluateArchiveOutcome t.pre.config.download t.pre.consecutiveArchiveFailures t.pre.lastCycleResult
      r.connectOk).1 := by
  have hj : judged t = some (verdict t.pre.lastCycleResult) := by rw [judged, he]; exact if_pos hst
  rw [evaluateArchiveOutcome_eq]
  simp only [counted, breaks, restarts, reopened, reconnects_cleanup hp, faulty, hj, he]
  cases verdict t.pre.lastCycleResult with
  | cancelled => simp
  | clean => simp
  | faulty =>
    cases hr : doReconnect t.pre.config.download (t.pre.consecutiveArchiveFailures + 1) t.pre.lastCycleResult <;> simp

lemma turn_failures {r : Reading} (h : s.step (.turn r) = some s') (ht : s.turn r = some s₁)
    (hs : s' = { s₁ with draining := true }) : s'.consecutiveArchiveFailures = counted ⟨s, .turn r, s'⟩ := by
  by_cases hst : s.control.state = .cleanup
  · simp only [turn, hst, Option.some.injEq] at ht
    rw [counted_cleanup rfl hst (by rw [hs, ← ht]; rfl), hs, ← ht]
    exact cleanup_failures s r
  · rw [counted_other h (if_neg hst) rfl, hs]
    cases turn_cases ht with
    | stay hs => rw [hs]
    | move state stale _ _ hs => rw [hs]
    | beginCycle _ hs => rw [hs]; rfl
    | cleanup h _ => exact absurd h hst

lemma step_failures (h : s.step e = some s') : s'.consecutiveArchiveFailures = counted ⟨s, e, s'⟩ := by
  cases e with
  | arrive a =>
    rw [counted_other h rfl rfl]
    exact Option.some.inj h ▸ rfl
  | drain connected =>
    rw [counted_other h rfl rfl]
    simp only [step] at h
    split_ifs at h
    exact Option.some.inj h ▸ (drain_records s connected).2.2
  | turn r =>
    have hstep := h
    simp only [step] at h
    split_ifs at h
    obtain ⟨s₁, h₁, hs⟩ := Option.map_eq_some_iff.mp h
    exact turn_failures hstep h₁ hs.symm
  | work ms =>
    rw [counted_other h rfl rfl]
    simp only [step] at h
    split_ifs at h
    obtain ⟨s₁, h₁, rfl⟩ := Option.map_eq_some_iff.mp h
    exact (work_failures h₁ :)
  | restart config => exact Option.some.inj h ▸ rfl

lemma step_reconnects_iff (h : s.step e = some s') : reconnects ⟨s, e, s'⟩ = true ↔ faulty ⟨s, e, s'⟩ = true ∧
    doReconnect s.config.download (s.consecutiveArchiveFailures + 1) s.lastCycleResult = true := by
  cases hj : judged ⟨s, e, s'⟩ with
  | none => simp [step_reconnects h hj, faulty, hj]
  | some v =>
    cases e with
    | turn r =>
      have hst : s.control.state = .cleanup := by
        by_contra hst
        rw [judged, if_neg hst] at hj
        cases hj
      simp only [step] at h
      split_ifs at h
      obtain ⟨s₁, h₁, rfl⟩ := Option.map_eq_some_iff.mp h
      simp only [turn, hst, Option.some.injEq] at h₁
      rw [reconnects_cleanup (r := r) (by rw [← h₁]; rfl)]
      simp [faulty, judged, hst]
    | _ => cases hj

lemma failures_nonneg {s₀ : DroneLogService} (h₀ : 0 ≤ s₀.consecutiveArchiveFailures) (h : Run step s₀ ts s) :
    0 ≤ s.consecutiveArchiveFailures := by
  refine Run.invariant (fun _ => True) (fun s => 0 ≤ s.consecutiveArchiveFailures) h₀ ?_ h fun _ _ => trivial
  intro s e s' hs he _
  rw [step_failures he, counted]
  split_ifs <;> simp <;> omega

lemma failures_unbroken {s₀ : DroneLogService} (h : Run step s₀ ts s) (hb : ∀ t ∈ ts, breaks t = false) :
    s.consecutiveArchiveFailures = s₀.consecutiveArchiveFailures + ts.countP faulty := by
  induction h with
  | nil => simp
  | @snoc ts s e s' _ he ih =>
    have hlast := hb ⟨s, e, s'⟩ (by simp)
    have hbefore := ih fun t ht => hb t (List.mem_append_left _ ht)
    rw [step_failures he, counted_unbroken hlast, List.countP_append, List.countP_singleton, hbefore]
    split_ifs <;> simp [add_assoc]

lemma failures_below {s₀ : DroneLogService} {n : ℤ} (hn : 0 < n) (h : Run step s₀ ts s)
    (hb : ∀ t ∈ ts, breaks t = false) (hr : ∀ t ∈ ts, reconnects t = false)
    (hc : ∀ t ∈ ts, t.pre.config.download.reconnectAfterConsecutiveFailures = n) :
    ts.countP faulty = 0 ∨ s.consecutiveArchiveFailures < n := by
  induction h with
  | nil => exact .inl rfl
  | @snoc ts s e s' _ he ih =>
    have hlast : (⟨s, e, s'⟩ : Transition DroneLogService Event) ∈ ts ++ [⟨s, e, s'⟩] := by simp
    have hcount := step_failures he
    rw [counted_unbroken (hb _ hlast)] at hcount
    rw [List.countP_append, List.countP_singleton]
    cases hf : faulty ⟨s, e, s'⟩ with
    | false =>
      have hbefore := ih (fun t ht => hb t (List.mem_append_left _ ht)) (fun t ht => hr t (List.mem_append_left _ ht))
        fun t ht => hc t (List.mem_append_left _ ht)
      simpa [hf, hcount] using hbefore
    | true =>
      have hno : doReconnect s.config.download (s.consecutiveArchiveFailures + 1) s.lastCycleResult = false := by
        by_contra hyes
        have hre := (step_reconnects_iff he).mpr ⟨hf, by simpa using hyes⟩
        rw [hr _ hlast] at hre
        cases hre
      rw [doReconnect, Bool.or_eq_false_iff, decide_eq_false_iff_not, hc _ hlast] at hno
      have hlt : ¬ (0 < n ∧ n ≤ s.consecutiveArchiveFailures + 1) := hno.2
      have hmore : s'.consecutiveArchiveFailures = s.consecutiveArchiveFailures + 1 := by
        rw [hcount, hf]
        rfl
      exact .inr (by omega)

structure Failing (n : ℤ) (seg : List (Transition DroneLogService Event)) : Prop where
  positive : 0 < n
  limit : ∀ t ∈ seg, t.pre.config.download.reconnectAfterConsecutiveFailures = n
  lasting : ∀ t ∈ seg, restarts t = false ∧ judged t ≠ some .clean
  many : n ≤ seg.countP faulty

structure Justified (n : ℤ) (a : List (Transition DroneLogService Event)) : Prop where
  positive : 0 < n
  row : ∃ a' seg, a = a' ++ seg ∧ (∀ t ∈ seg, breaks t = false) ∧ n ≤ seg.countP faulty + 1

lemma Failing.reconnects {s₀ : DroneLogService} {n : ℤ} (hf : Failing n ts) (h₀ : 0 ≤ s₀.consecutiveArchiveFailures)
    (h : Run step s₀ ts s) : ∃ t ∈ ts, reconnects t = true := by
  by_contra hnone
  push Not at hnone
  have hno : ∀ t ∈ ts, DroneLogService.reconnects t = false := fun t ht => by simpa using hnone t ht
  have hb : ∀ t ∈ ts, breaks t = false := fun t ht => by
    simp [breaks, reopened, hno t ht, hf.lasting t ht]
  have hcount := failures_unbroken h hb
  have hmany := hf.many
  have hpos := hf.positive
  rcases failures_below hpos h hb hno hf.limit with hzero | hlt
  · omega
  · omega

lemma failures_row {config : Settings} {storage : StorageManager} {database : Database}
    (h : Run step (start config storage database []) ts s) :
    ∃ a seg, ts = a ++ seg ∧ (∀ t ∈ seg, breaks t = false) ∧ s.consecutiveArchiveFailures = seg.countP faulty := by
  induction h with
  | nil => exact ⟨[], [], rfl, by simp, rfl⟩
  | @snoc ts s e s' _ he ih =>
    obtain ⟨a, seg, rfl, hb, hcount⟩ := ih
    cases hbreak : breaks ⟨s, e, s'⟩ with
    | true =>
      refine ⟨a ++ seg ++ [⟨s, e, s'⟩], [], by simp, by simp, ?_⟩
      rw [step_failures he, counted, if_pos hbreak]
      rfl
    | false =>
      refine ⟨a, seg ++ [⟨s, e, s'⟩], by simp, ?_, ?_⟩
      · intro t ht
        rcases List.mem_append.mp ht with ht | ht
        · exact hb t ht
        · exact List.mem_singleton.mp ht ▸ hbreak
      · rw [step_failures he, counted_unbroken hbreak, List.countP_append, List.countP_singleton, hcount]
        split_ifs <;> simp

theorem reconnect_policy (config : Settings) (storage : StorageManager) (database : Database)
    (ts : List (Transition DroneLogService Event)) (s : DroneLogService)
    (h : Run step (start config storage database []) ts s) :
    (∀ a seg b n, ts = a ++ seg ++ b → Failing n seg → ∃ t ∈ seg, reconnects t = true) ∧
      ∀ a t b, ts = a ++ t :: b → reconnects t = true →
        t.pre.config.download.reconnectOnTransportFailure = true ∧
            isTransportFailure t.pre.lastCycleResult.lastFailureReason = true ∨
          Justified t.pre.config.download.reconnectAfterConsecutiveFailures a := by
  refine ⟨?_, ?_⟩
  · rintro a seg b n rfl hf
    obtain ⟨s₂, hfront, _⟩ := h.of_append
    obtain ⟨s₁, hbefore, hseg⟩ := hfront.of_append
    exact hf.reconnects (failures_nonneg le_rfl hbefore) hseg
  · intro a t b hts hr
    obtain ⟨hbefore, hstep⟩ := h.split hts
    obtain ⟨a', seg, ha, hb, hcount⟩ := failures_row hbefore
    have hdo := ((step_reconnects_iff hstep).mp hr).2
    simp only [doReconnect, Bool.and_eq_true, Bool.or_eq_true, decide_eq_true_eq, hcount] at hdo
    exact hdo.imp id fun hn => ⟨hn.1, a', seg, ha, hb, hn.2⟩

def twoFailures : Settings :=
  { sampleConfig with download := { sampleConfig.download with reconnectAfterConsecutiveFailures := 2 } }

def failedFlights : List Event :=
  let failedDownload : List Moment := listOne ++ List.replicate 5 calm ++
    { arrivals := [.message (.logData 1 0 2 [7, 1]) true] } :: List.replicate 5 calm ++
        [{ reading := { ioOk := false } }]
  toArchive ++ [.drain true, .work failedDownload, .drain true, .turn {}, .arrive (beat true 7000),
    .arrive (beat false 7001), .drain true, .turn { now := 20000 }, .drain true, .turn {}, .drain true,
    .work failedDownload, .drain true, .turn {}]

theorem reconnect_policy_failed_flights :
    ∃ x, Run.exec step (start twoFailures {} {} []) failedFlights = some x ∧ ∃ t ∈ x.1, reconnects t = true := by
  refine exists_of_any (fun x => (∀ t ∈ x.1, t.pre.config.download.reconnectAfterConsecutiveFailures = 2) ∧
    (∀ t ∈ x.1, restarts t = false ∧ judged t ≠ some .clean) ∧ 2 ≤ x.1.countP faulty) (by decide +kernel) ?_
  rintro x hx ⟨hlimit, hlasting, hmany⟩
  refine (reconnect_policy twoFailures {} {} x.1 x.2 (Run.of_exec hx)).1 [] x.1 [] 2 (by simp) ?_
  exact ⟨by decide, hlimit, hlasting, by exact_mod_cast hmany⟩

end DroneLogService

end MavlinkLogService.Service
