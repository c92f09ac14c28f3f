import MavlinkLogService.Library.Simulation
import MavlinkLogService.Recording.Processes

/-! What the recorder reports does not depend on which pids the kernel gives out: the recorder on a kernel that reuses
pids refines the one of which every process has a number of its own. -/

namespace MavlinkLogService.Recording

open Library

namespace VideoRecorder

def numbered (r : VideoRecorder) (n : ℕ) : VideoRecorder := { r with pid := if 0 < r.pid then n + 1 else r.pid }

variable {r : VideoRecorder} {n : ℕ} {wait wait' : ℤ → Waited}

lemma numbered_pos (r : VideoRecorder) (n : ℕ) : 0 < (r.numbered n).pid ↔ 0 < r.pid := by
  rw [numbered]
  split_ifs with h
  · simp only [h, iff_true]
    omega
  · rfl

lemma numbered_of_pos (h : 0 < r.pid) : (r.numbered n).pid = n + 1 := by rw [numbered, if_pos h]

lemma numbered_idle (h : r.pid ≤ 0) : r.numbered n = r := by rw [numbered, if_neg (not_lt.mpr h)]

lemma numbered_clearSync (r : VideoRecorder) (n : ℕ) : (r.numbered n).clearSync = r.clearSync.numbered n := by
  cases h : r.syncActive with
  | none => simp only [clearSync, numbered, h]
  | some i => simp only [clearSync, numbered, h]

lemma numbered_reap (hw : 0 < r.pid → wait' (n + 1) = wait r.pid) (media : Media) :
    (r.numbered n).reapIfExited wait' media = (r.reapIfExited wait media).numbered n := by
  by_cases hpid : 0 < r.pid
  · rw [reapIfExited, reapIfExited, if_neg (not_le.mpr ((numbered_pos r n).mpr hpid)), if_neg (not_le.mpr hpid),
      numbered_of_pos hpid, hw hpid]
    by_cases hgone : wait r.pid = .exited ∨ wait r.pid = .noChild
    · rw [if_pos hgone, if_pos hgone]
      refine (numbered_idle ?_).symm
      rw [clearSync_pid]
      exact neg_one_lt_zero.le
    · rw [if_neg hgone, if_neg hgone]
  · rw [numbered_idle (not_lt.mp hpid), reapIfExited, reapIfExited, if_pos (not_lt.mp hpid),
      if_pos (not_lt.mp hpid), numbered_idle (not_lt.mp hpid)]

lemma numbered_stop (hw : 0 < r.pid → wait' (n + 1) = wait r.pid) (media : Media) :
    (r.numbered n).stop wait' media = ((r.stop wait media).1, (r.stop wait media).2.numbered n) := by
  simp only [stop, numbered_reap hw]
  generalize r.reapIfExited wait media = r'
  by_cases hpid : 0 < r'.pid
  · simp only [not_le.mpr hpid, not_le.mpr ((numbered_pos r' n).mpr hpid), if_false, numbered_clearSync]
    exact congrArg (true, ·) (numbered_idle neg_one_lt_zero.le).symm
  · simp only [not_lt.mp hpid, not_lt.mp (mt (numbered_pos r' n).mp hpid), if_true]

lemma numbered_snapshot (settings : RecordingSettings) (hw : 0 < r.pid → wait' (n + 1) = wait r.pid)
    (env : SnapshotEnv) :
    (r.numbered n).snapshot settings wait' env =
      ((r.snapshot settings wait env).1, (r.snapshot settings wait env).2.numbered n) := by
  simp only [snapshot, numbered_reap hw, numbered_pos]
  rfl

def numberedEnv (env : StartEnv) (m : ℕ) : StartEnv := { env with child := if 0 < env.child then m + 1 else env.child }

lemma numbered_start (settings : RecordingSettings) (hw : 0 < r.pid → wait' (n + 1) = wait r.pid)
    (env : StartEnv) (m : ℕ) :
    (r.numbered n).start settings wait' (numberedEnv env m) =
      ((r.start settings wait env).1,
        (r.start settings wait env).2.numbered (if (r.start settings wait env).1 = .started then m else n)) := by
  have hchild : (numberedEnv env m).child ≤ 0 ↔ env.child ≤ 0 := by
    simp only [numberedEnv]
    split_ifs <;> omega
  have hmedia : (numberedEnv env m).mediaAtReap = env.mediaAtReap ∧ (numberedEnv env m).media = env.media ∧
      (numberedEnv env m).rc = env.rc := ⟨rfl, rfl, rfl⟩
  simp only [start, hchild, hmedia, numbered_reap hw]
  by_cases henabled : settings.enabled = true
  · by_cases hbusy : 0 < (r.reapIfExited wait env.mediaAtReap).pid
    · simp [henabled, hbusy, numbered_pos]
    by_cases hwritable : checkMediaWritable env.media = true
    · by_cases hspawn : env.rc ≠ 0 ∨ env.child ≤ 0
      · simp [henabled, hbusy, numbered_pos, hwritable, hspawn]
      · by_cases hsync : 0 < settings.fsyncIntervalSec
        · simp [henabled, hbusy, hwritable, hspawn, hsync, numbered, numberedEnv]
        · simp [henabled, hbusy, hwritable, hspawn, hsync, numbered, numberedEnv]
    · simp [henabled, hbusy, numbered_pos, hwritable]
  · simp [henabled]

end VideoRecorder

namespace Processes

def observe (settings : RecordingSettings) (s : Processes) : ProcessEvent → List Observation
  | .exit pid => ((findChild s.children pid).map fun c => .exited (c.serial + 1)).toList
  | .start env =>
    if (s.recorder.start settings (waitpid s.children) env).1 = .started then [.started (s.spawned + 1)] else []
  | .stop media => if (s.recorder.stop (waitpid s.children) media).1 then [.stopped] else []
  | .snapshot _ => []
  | .watch _ => []

def observed (settings : RecordingSettings) (ts : List (Transition Processes ProcessEvent)) : List Observation :=
  ts.flatMap fun t => observe settings t.pre t.event

end Processes

structure Numbered (children : List Child) (count : ℕ) (spawned exited : List ℤ) : Prop where
  serials : (children.map Child.serial).Nodup
  old : ∀ c ∈ children, c.serial < count
  numbers : ∀ p, p ∈ spawned ↔ 0 < p ∧ p ≤ count
  gone : ∀ p, p ∈ exited ↔ p ∈ spawned ∧ ∀ c ∈ children, (c.serial + 1 : ℤ) = p → c.zombie = true

structure Named (s : Processes) (t : System) : Prop where
  owned : Owned s
  recorder : t.recorder = s.recorder.numbered s.current
  table : Numbered s.children s.spawned t.spawned t.exited

section Table

variable {children : List Child} {count : ℕ} {spawned exited : List ℤ} {c : Child} {pid : ℤ}

lemma Numbered.mem_spawned (h : Numbered children count spawned exited) (hc : c ∈ children) :
    (c.serial + 1 : ℤ) ∈ spawned := by
  have hold := h.old c hc
  exact (h.numbers _).mpr ⟨by omega, by omega⟩

lemma Numbered.mem_exited (h : Numbered children count spawned exited) (hc : c ∈ children) :
    (c.serial + 1 : ℤ) ∈ exited ↔ c.zombie = true := by
  rw [h.gone]
  refine ⟨fun hz => hz.2 c hc rfl, fun hz => ⟨h.mem_spawned hc, fun d hd heq => ?_⟩⟩
  obtain rfl : d = c := List.inj_on_of_nodup_map h.serials hd hc (by omega)
  exact hz

lemma Numbered.reap (h : Numbered children count spawned exited) (hpids : (children.map Child.pid).Nodup)
    (hw : waitpid children pid = .exited) : Numbered (reap children pid) count spawned exited := by
  have hsub : (Recording.reap children pid).Sublist children := List.filter_sublist
  refine ⟨h.serials.sublist (hsub.map _), fun c hc => h.old c (hsub.subset hc), h.numbers, fun p => ?_⟩
  rw [h.gone]
  refine and_congr_right fun _ => ⟨fun hz c hc => hz c (hsub.subset hc), fun hz c hc heq => ?_⟩
  by_cases hpid : c.pid = pid
  · subst hpid
    rw [waitpid, findChild_mem hpids hc] at hw
    cases hzombie : c.zombie with
    | true => rfl
    | false => simp [hzombie] at hw
  · exact hz c (List.mem_filter.mpr ⟨hc, by simpa using hpid⟩) heq

lemma Numbered.exit (h : Numbered children count spawned exited) (hpids : (children.map Child.pid).Nodup)
    (hc : c ∈ children) :
    Numbered (children.map fun d => if d.pid = c.pid then { d with zombie := true } else d) count spawned
      ((c.serial + 1) :: exited) := by
  have hserial : ∀ d : Child, (if d.pid = c.pid then { d with zombie := true } else d).serial = d.serial := by
    intro d
    split <;> rfl
  refine ⟨?_, ?_, h.numbers, fun p => ?_⟩
  · rw [List.map_map, show Child.serial ∘ _ = Child.serial from funext hserial]
    exact h.serials
  · simpa [hserial] using h.old
  · simp only [List.mem_cons, List.mem_map, forall_exists_index, and_imp, forall_apply_eq_imp_iff₂, hserial]
    rw [h.gone]
    constructor
    · rintro (rfl | ⟨hp, hz⟩)
      · refine ⟨h.mem_spawned hc, fun d hd heq => ?_⟩
        obtain rfl : d = c := List.inj_on_of_nodup_map h.serials hd hc (by omega)
        rw [if_pos rfl]
      · refine ⟨hp, fun d hd heq => ?_⟩
        split
        · rfl
        · exact hz d hd heq
    · rintro ⟨hp, hz⟩
      by_cases heq : p = c.serial + 1
      · exact Or.inl heq
      · refine Or.inr ⟨hp, fun d hd hd' => ?_⟩
        have hne : d.pid ≠ c.pid := by
          rintro hpid
          obtain rfl : d = c := List.inj_on_of_nodup_map hpids hd hc hpid
          exact heq hd'.symm
        have hzd := hz d hd hd'
        rwa [if_neg hne] at hzd

lemma Numbered.cons (h : Numbered children count spawned exited) :
    Numbered (⟨pid, count, false⟩ :: children) (count + 1) ((count + 1) :: spawned) exited := by
  refine ⟨?_, ?_, fun p => ?_, fun p => ?_⟩
  · refine List.nodup_cons.mpr ⟨fun hmem => ?_, h.serials⟩
    obtain ⟨c, hc, heq⟩ := List.mem_map.mp hmem
    exact absurd heq (h.old c hc).ne
  · refine List.forall_mem_cons.mpr ⟨Nat.lt_succ_self _, fun c hc => (h.old c hc).trans (Nat.lt_succ_self _)⟩
  · rw [List.mem_cons, h.numbers]
    push_cast
    omega
  · rw [h.gone, List.forall_mem_cons, List.mem_cons]
    constructor
    · rintro ⟨hp, hz⟩
      have hle := ((h.numbers p).mp hp).2
      exact ⟨Or.inr hp, fun heq => absurd heq (by simp only; omega), hz⟩
    · rintro ⟨hp, hnew, hz⟩
      have hne : p ≠ count + 1 := fun heq => absurd (hnew heq.symm) Bool.false_ne_true
      exact ⟨hp.resolve_left hne, hz⟩

end Table

section Steps

variable {settings : RecordingSettings} {s s' : Processes} {t : System}

lemma Named.waitpid (h : Named s t) (hpid : 0 < s.recorder.pid) :
    t.waitpid (s.current + 1) = waitpid s.children s.recorder.pid := by
  obtain ⟨c, hc, hkey, hfind⟩ := findChild_owned h.owned.owners h.owned.pids (owners_busy hpid ▸ List.mem_cons_self)
  have hserial : c.serial = s.current := congrArg Prod.snd hkey
  have hexited := h.table.mem_exited hc
  rw [hserial] at hexited
  simp only [System.waitpid, Recording.waitpid, hfind, hexited]

lemma Named.waited (h : Named s t) : Numbered s.waited s.spawned t.spawned t.exited := by
  rw [Processes.waited]
  split_ifs with hexited
  · exact h.table.reap h.owned.pids hexited.2
  · exact h.table

def Answers (settings : RecordingSettings) (s : Processes) (t : System) (e : ProcessEvent) (s' : Processes) : Prop :=
  ∃ us t', Run (System.step settings) t us t' ∧ Named s' t' ∧
    us.flatMap (fun u => System.observe settings u.pre u.event) = s.observe settings e

lemma Answers.of_step {e : ProcessEvent} (e' : Event) (t' : System) (hstep : t.step settings e' = some t')
    (hnamed : Named s' t') (hobs : t.observe settings e' = s.observe settings e) : Answers settings s t e s' := by
  refine ⟨[⟨t, e', t'⟩], t', ?_, hnamed, ?_⟩
  · exact Run.snoc .nil hstep
  · rw [List.flatMap_singleton]
    exact hobs

lemma Named.exit {pid : ℤ} (h : Named s t) (hs : s.exit pid = some s') : Answers settings s t (.exit pid) s' := by
  have howned := h.owned.exit hs
  rw [Processes.exit] at hs
  split at hs
  · cases hs
  rename_i c hfind
  split_ifs at hs with hzombie
  obtain rfl := Option.some.inj hs
  have hc : c ∈ s.children := List.mem_of_find?_eq_some hfind
  have hpid : c.pid = pid := by simpa using List.find?_some hfind
  subst hpid
  refine .of_step (.exit (c.serial + 1)) { t with exited := (c.serial + 1) :: t.exited } ?_
    ⟨howned, h.recorder, h.table.exit h.owned.pids hc⟩ ?_
  · rw [System.step, if_pos ⟨h.table.mem_spawned hc, fun hmem => hzombie ((h.table.mem_exited hc).mp hmem)⟩]
  · rw [Processes.observe, hfind]
    rfl

lemma start_enabled {r : VideoRecorder} {wait : ℤ → Waited} {env : StartEnv}
    (h : (r.start settings wait env).1 = .started) : settings.enabled = true ∧ 0 < env.child := by
  cases henabled : settings.enabled with
  | false => simp [VideoRecorder.start, henabled] at h
  | true =>
    rcases start_pid r wait env henabled with ⟨hresult, _⟩ | ⟨_, _, hchild, _⟩
    · exact absurd h hresult
    · exact ⟨rfl, hchild⟩

lemma Named.start {env : StartEnv} (h : Named s t) (hs : s.start settings env = some s') :
    Answers settings s t (.start env) s' := by
  have howned := h.owned.start hs
  have hnumbered := VideoRecorder.numbered_start settings h.waitpid env s.spawned
  rw [← h.recorder] at hnumbered
  have htable : Numbered (if settings.enabled then s.waited else s.children) s.spawned t.spawned t.exited := by
    split
    · exact h.waited
    · exact h.table
  simp only [Processes.start] at hs
  by_cases hresult : (s.recorder.start settings (Recording.waitpid s.children) env).1 = .started
  · rw [if_neg (not_not.mpr hresult)] at hs
    simp only [(start_enabled hresult).1, if_true] at hs htable
    split_ifs at hs with htaken
    obtain rfl := Option.some.inj hs
    rw [hresult, if_pos rfl] at hnumbered
    have hchild : (VideoRecorder.numberedEnv env s.spawned).child = s.spawned + 1 := if_pos (start_enabled hresult).2
    have hfresh : (s.spawned + 1 : ℤ) ∉ t.spawned := fun hmem => by
      have hle := ((h.table.numbers _).mp hmem).2
      omega
    refine .of_step (.start (VideoRecorder.numberedEnv env s.spawned))
      { t with
        recorder := (s.recorder.start settings (Recording.waitpid s.children) env).2.numbered s.spawned
        spawned := (s.spawned + 1) :: t.spawned } ?_ ⟨howned, rfl, htable.cons⟩ ?_
    · simp only [System.step, hnumbered, hchild]
      rw [if_neg (not_not.mpr rfl), if_neg hfresh]
    · rw [System.observe, Processes.observe, hnumbered, hresult, if_pos rfl, if_pos rfl, hchild]
  · rw [if_pos hresult] at hs
    obtain rfl := Option.some.inj hs
    rw [if_neg hresult] at hnumbered
    refine .of_step (.start (VideoRecorder.numberedEnv env s.spawned))
      { t with recorder := (s.recorder.start settings (Recording.waitpid s.children) env).2.numbered s.current } ?_
      ⟨howned, rfl, htable⟩ ?_
    · simp only [System.step, hnumbered]
      rw [if_pos hresult]
    · rw [System.observe, Processes.observe, hnumbered, if_neg hresult, if_neg hresult]

lemma Named.stop {media : Media} (h : Named s t) : Answers settings s t (.stop media) (s.stop media) := by
  have hnumbered := VideoRecorder.numbered_stop h.waitpid media
  rw [← h.recorder] at hnumbered
  refine .of_step (.stop media) _ rfl ⟨h.owned.stop, ?_, ?_⟩ ?_
  · rw [hnumbered]
    simp only [Processes.stop]
    split <;> rfl
  · have hwaited := h.waited
    simp only [Processes.stop]
    split <;> exact hwaited
  · rw [System.observe, Processes.observe, hnumbered]

lemma Named.snapshot {env : SnapshotEnv} (h : Named s t) :
    Answers settings s t (.snapshot env) (s.snapshot settings env) := by
  have hnumbered := VideoRecorder.numbered_snapshot settings h.waitpid env
  rw [← h.recorder] at hnumbered
  refine .of_step (.snapshot env) _ rfl ⟨h.owned.waited rfl, ?_, h.waited⟩ rfl
  rw [hnumbered]
  rfl

lemma Named.watch {i : ℕ} (h : Named s t) (hs : s.watch i = some s') : Answers settings s t (.watch i) s' := by
  have howned := h.owned.watch hs
  refine ⟨[], t, .nil, ?_, rfl⟩
  rw [Processes.watch] at hs
  split at hs
  · cases hs
  rename_i w hw
  split_ifs at hs with hpolls hexited hkilled
  · obtain rfl := Option.some.inj hs
    exact ⟨howned, h.recorder, h.table.reap h.owned.pids hexited⟩
  · obtain rfl := Option.some.inj hs
    exact ⟨howned, h.recorder, h.table⟩
  · obtain rfl := Option.some.inj hs
    exact ⟨howned, h.recorder, h.table⟩
  · split at hs
    · cases hs
    · rename_i hexited
      obtain rfl := Option.some.inj hs
      exact ⟨howned, h.recorder, h.table.reap h.owned.pids hexited⟩
    · obtain rfl := Option.some.inj hs
      exact ⟨howned, h.recorder, h.table⟩

lemma Named.step {e : ProcessEvent} (h : Named s t) (hs : s.step settings e = some s') :
    Answers settings s t e s' := by
  cases e with
  | exit pid => exact h.exit hs
  | start env => exact h.start hs
  | stop media => exact Option.some.inj hs ▸ h.stop
  | snapshot env => exact Option.some.inj hs ▸ h.snapshot
  | watch i => exact h.watch hs

end Steps

theorem reused_pids_invisible (settings : RecordingSettings) (ts : List (Transition Processes ProcessEvent))
    (s : Processes) (h : Run (Processes.step settings) {} ts s) :
    ∃ us t, Run (System.step settings) {} us t ∧
      System.observed settings us = Processes.observed settings ts ∧
      ∀ env, (t.recorder.snapshot settings t.waitpid env).1 =
        (s.recorder.snapshot settings (waitpid s.children) env).1 := by
  have hempty : Named {} {} :=
    ⟨owned_empty, rfl, List.nodup_nil, by simp, fun p => by simp, by simp⟩
  obtain ⟨us, t, hrun, hnamed, hobs⟩ := Run.simulated Named (fun u => Processes.observe settings u.pre u.event)
    (fun u => System.observe settings u.pre u.event) hempty (fun _ _ _ _ hn hs => hn.step hs) h
  refine ⟨us, t, hrun, hobs, fun env => ?_⟩
  rw [hnamed.recorder, VideoRecorder.numbered_snapshot settings hnamed.waitpid env]

theorem reused_pids_invisible_reuse :
    ∃ x, Run.exec (Processes.step { enabled := true }) {} reuse = some x ∧
      Processes.observed { enabled := true } x.1 = [.started 1, .stopped, .exited 1, .started 2, .stopped] ∧
      ∃ us t, Run (System.step { enabled := true }) {} us t ∧
        System.observed { enabled := true } us = Processes.observed { enabled := true } x.1 := by
  refine exists_of_any (fun x => Processes.observed { enabled := true } x.1 =
    [.started 1, .stopped, .exited 1, .started 2, .stopped]) (by decide +kernel) fun x hx hobs => ⟨hobs, ?_⟩
  obtain ⟨us, t, hrun, hsame, _⟩ := reused_pids_invisible { enabled := true } x.1 x.2 (Run.of_exec hx)
  exact ⟨us, t, hrun, hsame⟩

end MavlinkLogService.Recording
