import MavlinkLogService.Archive.Deadlines
import MavlinkLogService.Service.EraseGate

/-! Every call of `processState` that runs a task of the downloader returns, while the other threads go on
delivering. -/

namespace MavlinkLogService.Service

open Archive Archive.LogDownloader Library Session Storage

namespace Control

def after (c : Control) (m : ℕ → Moment) : ℕ → Control
  | 0 => c
  | k + 1 => (handleAll receive (after c m k) (m k).arrivals).1

def ticks (c : Control) (m : ℕ → Moment) (k : ℕ) : Tick :=
  (m k).tick (handleAll receive (after c m k) (m k).arrivals).2

lemma observe_slice (c : Control) (m : ℕ → Moment) (k n : ℕ) :
    (after c m k).observe (slice m k (k + n)) = (after c m (k + n), slice (ticks c m) k (k + n)) := by
  induction n generalizing k with
  | zero => simp [observe]
  | succ n ih =>
    have hstep := ih (k + 1)
    rw [show k + 1 + n = k + (n + 1) by omega] at hstep
    rw [slice_cons (by omega : k < k + (n + 1)), slice_cons (by omega : k < k + (n + 1)), observe]
    simp only
    rw [show (handleAll receive (after c m k) (m k).arrivals).1 = after c m (k + 1) from rfl, hstep]
    rfl

lemma ticks_flow (c : Control) {m : ℕ → Moment} (h : Flows fun k => (m k).reading) : Flows (ticks c m) :=
  ⟨h.idle, h.next, h.diverges⟩

lemma after_busy {c : Control} (hb : isArchiveBusy c.state = true) (m : ℕ → Moment) (k : ℕ) :
    (after c m k).state = c.state := by
  induction k with
  | zero => rfl
  | succ k ih =>
    rw [after, (handleAll_steady (after c m k) (m k).arrivals (by rw [ih]; exact hb)).state, ih]

lemma ticks_fair {H : Promise} {c : Control} (hb : isArchiveBusy c.state = true) {m : ℕ → Moment}
    (hH : ∀ k, Honours H [m k]) (k : ℕ) : Fair H (ticks c m k) := by
  refine observe_fair (c := after c m k) (by rw [after_busy hb]; exact hb) (hH k) _ ?_
  have h := observe_slice c m k 1
  rw [slice_cons (Nat.lt_succ_self k), slice_cons (Nat.lt_succ_self k), slice_self, slice_self] at h
  rw [h]
  exact List.mem_singleton_self _

end Control

namespace DroneLogService

variable {s : DroneLogService} {m : ℕ → Moment}

def runsTask (s : DroneLogService) : Bool :=
  match s.control.state with
  | .archive | .eraseAll | .manualRefresh | .manualDownload | .manualErase => true
  | _ => false

def sizesFit : Promise where
  message msg := ∀ entry, msg = .logEntry entry → entry.size.toNat ≤ 2 ^ 32 - 256

lemma perform_ends {α : Type} {task : Archive.Task α}
    (h : Prog.Ends (s.control.ticks m) task s.downloader 0 fun _ _ _ => True) :
    ∃ n x, s.perform (slice m 0 n) task = some x := by
  obtain ⟨a, d, n, _, hrun, _⟩ := h
  have hobserve := Control.observe_slice s.control m 0 n
  rw [Nat.zero_add] at hobserve
  have htask := hrun []
  rw [List.append_nil] at htask
  refine ⟨n, ?_⟩
  rw [perform, show s.control.observe (slice m 0 n) = _ from hobserve]
  simp only [htask]
  exact ⟨_, rfl⟩

lemma settleEntries_mem {order : List ℕ} {received : List LogEntry} {entry : LogEntry}
    (h : entry ∈ settleEntries order received) : entry ∈ received := by
  have hmem := (List.destutter_sublist _ _).subset h
  rw [List.mem_insertionSort, List.mem_append, List.mem_filterMap] at hmem
  rcases hmem with ⟨i, _, hi⟩ | hmem
  · exact List.mem_of_getElem? hi
  · exact hmem

lemma archiveCycle_ends {f : ℕ → Tick} {settings : Settings} (hf : Flows f) (hfair : ∀ k, Fair sizesFit (f k))
    (hprobe : 0 ≤ settings.download.probeBytes) (select : LogEntry → Bool) (d : LogDownloader) (k : ℕ) :
    Prog.Ends f (archiveCycle settings select) d k fun _ _ _ => True := by
  have henum := (enumerateLogs_halts hf d k).and_triple (enumerateLogs_returns (H := sizesFit) settings d) rfl hfair
  refine .bind henum fun logs d' k' _ hlogs => ?_
  obtain ⟨mid, order, _, hpending, rfl, _⟩ := hlogs.2.step
  have hfits : ∀ entry ∈ (settleEntries order mid.inbox.pendingEntries).filter select, Fits settings entry := by
    intro entry he
    exact ⟨hprobe, hpending entry (settleEntries_mem (List.mem_of_mem_filter he)) entry rfl⟩
  exact Prog.Halts.bind (archiveAll_halts hf _ hfits) (fun _ => .pure _) d' k'

lemma work_returns (hb : s.runsTask = true) (hf : Flows fun k => (m k).reading) (hH : ∀ k, Honours sizesFit [m k])
    (hprobe : 0 ≤ s.config.download.probeBytes) : ∃ n s', s.work (slice m 0 n) = some s' := by
  have hflow := Control.ticks_flow s.control hf
  have hcycle : isArchiveBusy s.control.state = true → ∀ select,
      Prog.Ends (s.control.ticks m) (archiveCycle s.config select) s.downloader 0 fun _ _ _ => True :=
    fun hbusy select => archiveCycle_ends hflow (Control.ticks_fair hbusy hH) hprobe select _ _
  cases hst : s.control.state with
  | archive =>
    obtain ⟨n, ⟨⟨logs, result⟩, s'⟩, hp⟩ := perform_ends (hcycle (by rw [hst]; rfl) fun _ => true)
    refine ⟨n, ?_⟩
    rw [work, hst]
    simp only [hp, Option.bind_eq_bind, Option.bind_some]
    split_ifs <;> exact ⟨_, rfl⟩
  | manualDownload =>
    obtain ⟨n, ⟨⟨logs, result⟩, s'⟩, hp⟩ := perform_ends (hcycle (by rw [hst]; rfl) (selected s.control))
    refine ⟨n, ?_⟩
    rw [work, hst]
    simp only [hp, Option.bind_eq_bind, Option.bind_some]
    exact ⟨_, rfl⟩
  | eraseAll =>
    have hends : Prog.Halts (s.control.ticks m) (eraseUnlessCancelled s.config) :=
      .bind cancelled_halts fun _ => .ite (.pure _) (.bind eraseFlightControllerLogs_halts fun _ => .pure _)
    obtain ⟨n, ⟨_, s'⟩, hp⟩ := perform_ends (hends s.downloader 0)
    refine ⟨n, ?_⟩
    rw [work, hst]
    simp only [hp, Option.bind_eq_bind, Option.bind_some]
    exact ⟨_, rfl⟩
  | manualRefresh =>
    have hends : Prog.Halts (s.control.ticks m) (enumerateLogs s.config) := enumerateLogs_halts hflow
    obtain ⟨n, ⟨logs, s'⟩, hp⟩ := perform_ends (hends s.downloader 0)
    refine ⟨n, ?_⟩
    rw [work, hst]
    simp only [hp, Option.bind_eq_bind, Option.bind_some]
    exact ⟨_, rfl⟩
  | manualErase =>
    have hends : Prog.Halts (s.control.ticks m) (eraseFlightControllerLogs s.config) := eraseFlightControllerLogs_halts
    obtain ⟨n, ⟨ok, s'⟩, hp⟩ := perform_ends (s := s.resetCancel) (hends s.resetCancel.downloader 0)
    refine ⟨n, ?_⟩
    rw [work, hst]
    simp only [hp, Option.bind_eq_bind, Option.bind_some]
    exact ⟨_, rfl⟩
  | _ => simp [runsTask, hst] at hb

theorem work_ends (s : DroneLogService) (m : ℕ → Moment) (hd : s.draining = false) (hb : s.runsTask = true)
    (hf : Flows fun k => (m k).reading) (hprobe : 0 ≤ s.config.download.probeBytes)
    (hsizes : ∀ k, ∀ entry fresh, .message (.logEntry entry) fresh ∈ (m k).arrivals → entry.size.toNat ≤ 2 ^ 32 - 256) :
    ∃ n s', s.step (.work (slice m 0 n)) = some s' := by
  have hH : ∀ k, Honours sizesFit [m k] := by
    intro k
    refine ⟨?_, fun h => h.elim⟩
    rintro _ hm a ha msg fresh rfl entry rfl
    obtain rfl := List.mem_singleton.mp hm
    exact hsizes k entry fresh ha
  obtain ⟨n, s', hwork⟩ := work_returns hb hf hH hprobe
  refine ⟨n, ?_⟩
  rw [step, if_neg (by rw [hd]; simp), hwork, Option.map_some]
  exact ⟨_, rfl⟩

def announced (k : ℕ) : Moment where
  arrivals := [.message (.logEntry ⟨1, 1, 1, 0, 2⟩) true, .message (.logData 1 0 2 [7, 1]) true]
  reading := { now := 1000 * k, nowIdle := 1000 * k }

theorem work_ends_announced :
    let s : DroneLogService := { config := sampleConfig, control := { state := .archive }, draining := false }
    (∃ n s', s.step (.work (slice announced 0 n)) = some s') ∧
      (s.step (.work (slice announced 0 31))).any (fun s' =>
        decide (.outcome ⟨1, 1, 1, 0, 2⟩ .downloaded ∈ s'.trace)) = true := by
  intro s
  refine ⟨?_, by decide +kernel⟩
  refine work_ends s announced rfl rfl ⟨fun _ => le_rfl, fun k => ?_, fun t => ⟨t.toNat, ?_⟩⟩ (by decide) ?_
  · simp [announced]
  · have hle := Int.self_le_toNat t
    simp only [announced]
    omega
  · intro k entry fresh hm
    simp only [announced, List.mem_cons, Arrival.message.injEq, LogMessage.logEntry.injEq, reduceCtorEq, false_and,
      List.not_mem_nil, or_false] at hm
    rw [hm.1]
    decide

end DroneLogService

end MavlinkLogService.Service
