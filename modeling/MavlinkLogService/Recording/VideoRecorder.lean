import MavlinkLogService.Library.Runs

/-! The video recorder and the process it spawns. -/

namespace MavlinkLogService.Recording

open Library

structure RecordingSettings where
  enabled : Bool := false
  fsyncIntervalSec : ℤ := 3
  deriving DecidableEq, Repr

structure Media where
  isDirectory : Bool
  writable : Bool
  statOk : Bool
  otherDevice : Bool
  deriving DecidableEq, Repr

def checkMediaWritable (media : Media) : Bool :=
  media.isDirectory && media.writable && media.statOk && media.otherDevice

inductive Waited
  | exited
  | running
  | noChild
  | error
  deriving DecidableEq, Repr

inductive StartResult
  | started
  | alreadyRecording
  | disabled
  | noMedia
  | failed
  deriving DecidableEq, Repr

structure Snapshot where
  enabled : Bool := false
  active : Bool := false
  durationSec : ℕ := 0
  freeBytes : ℕ := 0
  crashReason : String := ""
  deriving DecidableEq, Repr

/-- The media may change between the two checks of one call. -/
structure StartEnv where
  mediaAtReap : Media
  media : Media
  rc : ℤ
  child : ℤ
  now : ℤ
  deriving DecidableEq, Repr

structure SnapshotEnv where
  media : Media
  now : ℤ
  available : Option (ℕ × ℕ)
  deriving DecidableEq, Repr

/-- `flags` are the flags of all periodic-sync threads started so far, and `syncActive` the one that
`sync_active_` points to. -/
structure VideoRecorder where
  pid : ℤ := -1
  startTime : ℤ := 0
  lastCrashReason : String := ""
  flags : List Bool := []
  syncActive : Option ℕ := none
  deriving DecidableEq, Repr

namespace VideoRecorder

def clearSync (r : VideoRecorder) : VideoRecorder :=
  match r.syncActive with
  | some i => { r with flags := r.flags.set i false, syncActive := none }
  | none => r

def reapIfExited (r : VideoRecorder) (waitpid : ℤ → Waited) (media : Media) : VideoRecorder :=
  if r.pid ≤ 0 then r
  else if waitpid r.pid = .exited ∨ waitpid r.pid = .noChild then
    clearSync { r with
      lastCrashReason := if checkMediaWritable media then "recorder_crashed" else "media_lost"
      pid := -1 }
  else r

def start (settings : RecordingSettings) (r : VideoRecorder) (waitpid : ℤ → Waited) (env : StartEnv) :
    StartResult × VideoRecorder :=
  if !settings.enabled then (.disabled, r)
  else
    let r := r.reapIfExited waitpid env.mediaAtReap
    if 0 < r.pid then (.alreadyRecording, r)
    else if !checkMediaWritable env.media then (.noMedia, r)
    else if env.rc ≠ 0 ∨ env.child ≤ 0 then (.failed, r)
    else
      let r := { r with pid := env.child, startTime := env.now, lastCrashReason := "" }
      if 0 < settings.fsyncIntervalSec then
        (.started, { r with flags := r.flags ++ [true], syncActive := some r.flags.length })
      else (.started, r)

/-- The thread that waits for the stopped process holds nothing of the recorder. -/
def stop (r : VideoRecorder) (waitpid : ℤ → Waited) (media : Media) : Bool × VideoRecorder :=
  let r := r.reapIfExited waitpid media
  if r.pid ≤ 0 then (false, r) else (true, { r.clearSync with pid := -1 })

def snapshot (settings : RecordingSettings) (r : VideoRecorder) (waitpid : ℤ → Waited) (env : SnapshotEnv) :
    Snapshot × VideoRecorder :=
  let r := r.reapIfExited waitpid env.media
  ({ enabled := settings.enabled
     active := decide (0 < r.pid)
     crashReason := r.lastCrashReason
     durationSec := if 0 < r.pid then ((env.now - r.startTime) % 2 ^ 32).toNat else 0
     freeBytes := (env.available.map fun st => st.1 * st.2 % 2 ^ 64).getD 0 }, r)

end VideoRecorder

structure System where
  recorder : VideoRecorder := {}
  spawned : List ℤ := []
  exited : List ℤ := []
  deriving DecidableEq, Repr

/-- Calls hold the recorder's mutex and look at the process once, in `waitpid`: an exit during a call comes
before the call if `waitpid` finds it, and after the call otherwise. -/
inductive Event
  | exit (pid : ℤ)
  | start (env : StartEnv)
  | stop (media : Media)
  | snapshot (env : SnapshotEnv)
  deriving DecidableEq, Repr

inductive Observation
  | started (pid : ℤ)
  | stopped
  | exited (pid : ℤ)
  deriving DecidableEq, Repr

namespace System

def waitpid (s : System) (pid : ℤ) : Waited := if pid ∈ s.exited then .exited else .running

def step (settings : RecordingSettings) (s : System) : Event → Option System
  | .exit pid => if pid ∈ s.spawned ∧ pid ∉ s.exited then some { s with exited := pid :: s.exited } else none
  | .start env =>
    let (result, r) := s.recorder.start settings s.waitpid env
    if result ≠ .started then some { s with recorder := r }
    -- pids are not reused
    else if env.child ∈ s.spawned then none
    else some { s with recorder := r, spawned := env.child :: s.spawned }
  | .stop media => some { s with recorder := (s.recorder.stop s.waitpid media).2 }
  | .snapshot env => some { s with recorder := (s.recorder.snapshot settings s.waitpid env).2 }

def observe (settings : RecordingSettings) (s : System) : Event → List Observation
  | .exit pid => [.exited pid]
  | .start env => if (s.recorder.start settings s.waitpid env).1 = .started then [.started env.child] else []
  | .stop media => if (s.recorder.stop s.waitpid media).1 then [.stopped] else []
  | .snapshot _ => []

def observed (settings : RecordingSettings) (ts : List (Transition System Event)) : List Observation :=
  ts.flatMap fun t => observe settings t.pre t.event

end System

def LastStarted (obs : List Observation) (pid : ℤ) (since : List Observation) : Prop :=
  ∃ before, obs = before ++ .started pid :: since ∧ ∀ p, .started p ∉ since

inductive Status
  | idle
  | recording (pid : ℤ)
  | crashed (pid : ℤ)
  deriving DecidableEq, Repr

def Status.next : Status → Observation → Status
  | _, .started pid => .recording pid
  | _, .stopped => .idle
  | .recording pid, .exited p => if p = pid then .crashed pid else .recording pid
  | st, .exited _ => st

def status (obs : List Observation) : Status := obs.foldl Status.next .idle

lemma status_snoc (obs : List Observation) (o : Observation) : status (obs ++ [o]) = (status obs).next o := by
  simp [status]

lemma lastStarted_started (obs : List Observation) (pid p : ℤ) (since : List Observation) :
    LastStarted (obs ++ [.started pid]) p since ↔ p = pid ∧ since = [] := by
  constructor
  · rintro ⟨before, heq, hnone⟩
    rcases List.eq_nil_or_concat since with rfl | ⟨since', o, rfl⟩
    · have hlast := (List.append_inj' heq rfl).2
      simp only [List.cons.injEq, Observation.started.injEq, and_true] at hlast
      exact ⟨hlast.symm, rfl⟩
    · rw [List.concat_eq_append, ← List.cons_append, ← List.append_assoc] at heq
      have hlast := List.singleton_injective (List.append_inj' heq rfl).2
      exact absurd (by simp [hlast]) (hnone pid)
  · rintro ⟨rfl, rfl⟩
    exact ⟨obs, rfl, by simp⟩

lemma lastStarted_other (obs : List Observation) {o : Observation} (ho : ∀ pid, o ≠ .started pid) (pid : ℤ)
    (since : List Observation) :
    LastStarted (obs ++ [o]) pid since ↔ ∃ since', LastStarted obs pid since' ∧ since = since' ++ [o] := by
  constructor
  · rintro ⟨before, heq, hnone⟩
    rcases List.eq_nil_or_concat since with rfl | ⟨since', o', rfl⟩
    · exact absurd (List.singleton_injective (List.append_inj' heq rfl).2) (ho pid)
    · rw [List.concat_eq_append, ← List.cons_append, ← List.append_assoc] at heq
      obtain ⟨hobs, hlast⟩ := List.append_inj' heq rfl
      refine ⟨since', ⟨before, hobs, fun p hp => hnone p (by simp [hp])⟩, ?_⟩
      rw [List.concat_eq_append, ← List.singleton_injective hlast]
  · rintro ⟨since', ⟨before, rfl, hnone⟩, rfl⟩
    refine ⟨before, by simp, fun p hp => ?_⟩
    rcases List.mem_append.mp hp with hp | hp
    · exact hnone p hp
    · exact ho p (List.mem_singleton.mp hp).symm

lemma next_exited (st : Status) (p pid : ℤ) :
    (st.next (.exited p) = .recording pid ↔ st = .recording pid ∧ p ≠ pid) ∧
      (st.next (.exited p) = .crashed pid ↔ st = .crashed pid ∨ st = .recording pid ∧ p = pid) := by
  cases st with
  | idle => simp [Status.next]
  | recording q =>
    rw [Status.next]
    split_ifs with h
    · simp [h]
    · simp only [Status.recording.injEq, false_or, false_iff, not_and]
      exact ⟨⟨fun hq => ⟨hq, hq ▸ h⟩, And.left⟩, fun hq => hq ▸ h⟩
  | crashed q => simp [Status.next]

lemma status_iff (obs : List Observation) (pid : ℤ) :
    (status obs = .recording pid ↔ ∃ since, LastStarted obs pid since ∧ .stopped ∉ since ∧ .exited pid ∉ since) ∧
      (status obs = .crashed pid ↔ ∃ since, LastStarted obs pid since ∧ .stopped ∉ since ∧ .exited pid ∈ since) := by
  induction obs using List.reverseRecOn with
  | nil => simp [status, LastStarted]
  | append_singleton obs o ih =>
    rw [status_snoc]
    cases o with
    | started p =>
      simp only [lastStarted_started, Status.next]
      constructor
      · simp [eq_comm]
      · simp
    | stopped =>
      simp only [lastStarted_other obs (o := .stopped) (by simp), Status.next]
      constructor <;> simp
    | exited p =>
      have hsince : ∀ P : List Observation → Prop,
          (∃ since, LastStarted (obs ++ [.exited p]) pid since ∧ P since) ↔
            ∃ since, LastStarted obs pid since ∧ P (since ++ [.exited p]) := by
        intro P
        simp only [lastStarted_other obs (o := .exited p) (by simp)]
        exact ⟨fun ⟨_, ⟨since, h, heq⟩, hP⟩ => ⟨since, h, heq ▸ hP⟩, fun ⟨since, h, hP⟩ => ⟨_, ⟨since, h, rfl⟩, hP⟩⟩
      have hmem : ∀ since : List Observation, (.stopped ∈ since ++ [.exited p] ↔ .stopped ∈ since) ∧
          (.exited pid ∈ since ++ [.exited p] ↔ .exited pid ∈ since ∨ p = pid) := by
        intro since
        simp [eq_comm]
      rw [hsince, hsince, (next_exited _ p pid).1, (next_exited _ p pid).2, ih.1, ih.2]
      simp only [(hmem _).1, (hmem _).2]
      by_cases hp : p = pid
      · simp only [hp, ne_eq, not_true_eq_false, and_false, or_true, exists_false, and_true]
        refine ⟨trivial, ?_, ?_⟩
        · rintro (⟨since, h, hs, _⟩ | ⟨since, h, hs, _⟩) <;> exact ⟨since, h, hs⟩
        · rintro ⟨since, h, hs⟩
          by_cases he : .exited pid ∈ since
          · exact Or.inl ⟨since, h, hs, he⟩
          · exact Or.inr ⟨since, h, hs, he⟩
      · simp [hp]

def Agrees : Status → System → Prop
  | .idle, s => s.recorder.pid ≤ 0 ∧ s.recorder.lastCrashReason = ""
  | .recording p, s => 0 < p ∧ s.recorder.pid = p ∧ s.recorder.lastCrashReason = "" ∧ p ∈ s.spawned ∧ p ∉ s.exited
  | .crashed p, s => p ∈ s.exited ∧
    (0 < p ∧ s.recorder.pid = p ∧ s.recorder.lastCrashReason = "" ∨
      s.recorder.pid ≤ 0 ∧ s.recorder.lastCrashReason ≠ "")

def Noticed : Status → VideoRecorder → Prop
  | .idle, r => r.pid ≤ 0 ∧ r.lastCrashReason = ""
  | .recording p, r => 0 < p ∧ r.pid = p ∧ r.lastCrashReason = ""
  | .crashed _, r => r.pid ≤ 0 ∧ r.lastCrashReason ≠ ""

structure Synced (r : VideoRecorder) : Prop where
  current : ∀ i : ℕ, r.flags[i]? = some true → r.syncActive = some i
  tracked : ∀ i : ℕ, r.flags[i]? = some true → 0 < r.pid

structure Follows (obs : List Observation) (s : System) : Prop where
  known : ∀ p ∈ s.exited, p ∈ s.spawned
  agrees : Agrees (status obs) s
  synced : Synced s.recorder

section

variable {settings : RecordingSettings} {r : VideoRecorder} {s s' : System} {st : Status}

@[simp] lemma clearSync_pid (r : VideoRecorder) : r.clearSync.pid = r.pid := by
  rw [VideoRecorder.clearSync]
  split <;> rfl

@[simp] lemma clearSync_reason (r : VideoRecorder) : r.clearSync.lastCrashReason = r.lastCrashReason := by
  rw [VideoRecorder.clearSync]
  split <;> rfl

lemma clearSync_with (r : VideoRecorder) (reason : String) (pid : ℤ) :
    VideoRecorder.clearSync { r with lastCrashReason := reason, pid := pid } =
      { r.clearSync with lastCrashReason := reason, pid := pid } := by
  simp only [VideoRecorder.clearSync]
  split <;> rfl

lemma clearSync_flags (h : ∀ i : ℕ, r.flags[i]? = some true → r.syncActive = some i) (i : ℕ) :
    r.clearSync.flags[i]? ≠ some true := by
  intro hi
  cases hs : r.syncActive with
  | none =>
    simp only [VideoRecorder.clearSync, hs] at hi
    rw [h i hi] at hs
    cases hs
  | some j =>
    simp only [VideoRecorder.clearSync, hs, List.getElem?_set] at hi
    split_ifs at hi with hj hlt
    · cases hi
    · rw [h i hi] at hs
      exact hj (Option.some.inj hs).symm

lemma cleared_synced (h : Synced r) (reason : String) (pid : ℤ) :
    Synced { r.clearSync with lastCrashReason := reason, pid := pid } :=
  ⟨fun i hi => absurd hi (clearSync_flags h.current i), fun i hi => absurd hi (clearSync_flags h.current i)⟩

lemma waitpid_found (s : System) : (s.waitpid s.recorder.pid = .exited ∨ s.waitpid s.recorder.pid = .noChild) ↔
    s.recorder.pid ∈ s.exited := by
  rw [System.waitpid]
  split_ifs with h <;> simp [h]

lemma reap_cases (s : System) (media : Media) :
    (s.recorder.reapIfExited s.waitpid media = s.recorder ∧ (0 < s.recorder.pid → s.recorder.pid ∉ s.exited)) ∨
      (0 < s.recorder.pid ∧ s.recorder.pid ∈ s.exited ∧ ∃ reason ≠ "",
        s.recorder.reapIfExited s.waitpid media =
          { s.recorder.clearSync with lastCrashReason := reason, pid := -1 }) := by
  simp only [VideoRecorder.reapIfExited, waitpid_found]
  split_ifs with hpid hexit hmedia
  · exact Or.inl ⟨rfl, fun h => absurd hpid (not_le.mpr h)⟩
  · exact Or.inr ⟨not_le.mp hpid, hexit, _, by decide, clearSync_with _ _ _⟩
  · exact Or.inr ⟨not_le.mp hpid, hexit, _, by decide, clearSync_with _ _ _⟩
  · exact Or.inl ⟨rfl, fun _ => hexit⟩

lemma reap_noticed (h : Agrees st s) (media : Media) : Noticed st (s.recorder.reapIfExited s.waitpid media) := by
  rcases reap_cases s media with ⟨hsame, hrunning⟩ | ⟨hpos, hexited, reason, hreason, hreaped⟩
  · rw [hsame]
    cases st with
    | idle => exact h
    | recording p => exact ⟨h.1, h.2.1, h.2.2.1⟩
    | crashed p =>
      rcases h.2 with ⟨hp, heq, _⟩ | h'
      · exact absurd (heq ▸ h.1) (hrunning (heq ▸ hp))
      · exact h'
  · rw [hreaped]
    cases st with
    | idle => exact absurd hpos (not_lt.mpr h.1)
    | recording p => exact absurd (h.2.1 ▸ hexited) h.2.2.2.2
    | crashed p => exact ⟨by norm_num, hreason⟩

lemma reap_synced (h : Synced s.recorder) (media : Media) : Synced (s.recorder.reapIfExited s.waitpid media) := by
  rcases reap_cases s media with ⟨hsame, _⟩ | ⟨_, _, reason, _, hreaped⟩
  · rw [hsame]
    exact h
  · rw [hreaped]
    exact cleared_synced h reason (-1)

lemma reap_follows {obs : List Observation} (h : Follows obs s) (media : Media) :
    Follows obs { s with recorder := s.recorder.reapIfExited s.waitpid media } := by
  refine ⟨h.known, ?_, reap_synced h.synced media⟩
  have hnoticed := reap_noticed h.agrees media
  have hagrees := h.agrees
  cases hst : status obs with
  | idle =>
    rw [hst] at hnoticed
    exact hnoticed
  | recording p =>
    rw [hst] at hnoticed hagrees
    exact ⟨hnoticed.1, hnoticed.2.1, hnoticed.2.2, hagrees.2.2.2⟩
  | crashed p =>
    rw [hst] at hnoticed hagrees
    exact ⟨hagrees.1, Or.inr hnoticed⟩

lemma exit_follows {obs : List Observation} (h : Follows obs s) {p : ℤ} (hp : p ∈ s.spawned) :
    Follows (obs ++ [.exited p]) { s with exited := p :: s.exited } := by
  refine ⟨List.forall_mem_cons.mpr ⟨hp, h.known⟩, ?_, h.synced⟩
  have hagrees := h.agrees
  rw [status_snoc]
  cases hst : status obs with
  | idle =>
    rw [hst] at hagrees
    exact hagrees
  | recording q =>
    rw [hst] at hagrees
    obtain ⟨hpos, hpid, hreason, hspawned, hrunning⟩ := hagrees
    rw [Status.next]
    split_ifs with heq
    · exact ⟨by simp [heq], Or.inl ⟨hpos, hpid, hreason⟩⟩
    · exact ⟨hpos, hpid, hreason, hspawned, by simp [hrunning, Ne.symm heq]⟩
  | crashed q =>
    rw [hst] at hagrees
    exact ⟨List.mem_cons_of_mem p hagrees.1, hagrees.2⟩

lemma stop_cases (s : System) (media : Media) :
    (s.recorder.stop s.waitpid media = (false, s.recorder.reapIfExited s.waitpid media)) ∨
      (0 < (s.recorder.reapIfExited s.waitpid media).pid ∧ s.recorder.stop s.waitpid media =
        (true, { (s.recorder.reapIfExited s.waitpid media).clearSync with pid := -1 })) := by
  simp only [VideoRecorder.stop]
  split_ifs with hpid
  · exact Or.inl rfl
  · exact Or.inr ⟨not_le.mp hpid, rfl⟩

lemma stop_follows {obs : List Observation} (h : Follows obs s) (media : Media) :
    Follows (obs ++ s.observe settings (.stop media)) { s with recorder := (s.recorder.stop s.waitpid media).2 } := by
  rw [System.observe]
  rcases stop_cases s media with heq | ⟨hpid, heq⟩
  · rw [heq, if_neg Bool.false_ne_true, List.append_nil]
    exact reap_follows h media
  · rw [heq, if_pos rfl]
    refine ⟨h.known, ?_, cleared_synced (reap_synced h.synced media) _ (-1)⟩
    have hnoticed := reap_noticed h.agrees media
    rw [status_snoc]
    -- only a recording that goes on can be stopped
    cases hst : status obs with
    | idle => exact absurd hpid (not_lt.mpr (hst ▸ hnoticed).1)
    | recording p =>
      rw [hst] at hnoticed
      exact ⟨by norm_num, by simpa using hnoticed.2.2⟩
    | crashed p => exact absurd hpid (not_lt.mpr (hst ▸ hnoticed).1)

def begun (settings : RecordingSettings) (r : VideoRecorder) (env : StartEnv) : VideoRecorder :=
  if 0 < settings.fsyncIntervalSec then
    { r with pid := env.child, startTime := env.now, lastCrashReason := "", flags := r.flags ++ [true],
             syncActive := some r.flags.length }
  else { r with pid := env.child, startTime := env.now, lastCrashReason := "" }

lemma start_cases (henabled : settings.enabled = true) (s : System) (env : StartEnv) :
    (∃ result ≠ .started, s.recorder.start settings s.waitpid env =
        (result, s.recorder.reapIfExited s.waitpid env.mediaAtReap)) ∨
      ((s.recorder.reapIfExited s.waitpid env.mediaAtReap).pid ≤ 0 ∧ 0 < env.child ∧
        s.recorder.start settings s.waitpid env =
          (.started, begun settings (s.recorder.reapIfExited s.waitpid env.mediaAtReap) env)) := by
  simp only [VideoRecorder.start, henabled, Bool.not_true, Bool.false_eq_true, if_false]
  split_ifs with hpid hmedia hspawn hsync
  · exact Or.inl ⟨_, by decide, rfl⟩
  · exact Or.inl ⟨_, by decide, rfl⟩
  · exact Or.inl ⟨_, by decide, rfl⟩
  · rw [not_or, not_le] at hspawn
    exact Or.inr ⟨not_lt.mp hpid, hspawn.2, by rw [begun, if_pos hsync]⟩
  · rw [not_or, not_le] at hspawn
    exact Or.inr ⟨not_lt.mp hpid, hspawn.2, by rw [begun, if_neg hsync]⟩

lemma begun_synced (h : Synced r) (hpid : r.pid ≤ 0) (env : StartEnv) (hchild : 0 < env.child) :
    Synced (begun settings r env) := by
  have hunset : ∀ i : ℕ, r.flags[i]? ≠ some true := fun i hi => absurd (h.tracked i hi) (not_lt.mpr hpid)
  rw [begun]
  split_ifs
  · refine ⟨fun i hi => ?_, fun _ _ => hchild⟩
    simp only [List.getElem?_append] at hi
    split_ifs at hi with hlt
    · exact absurd hi (hunset i)
    · have hi' : i - r.flags.length = 0 := by
        by_contra hne
        rw [List.getElem?_eq_none (by simp; omega)] at hi
        cases hi
      exact congrArg some (by omega)
  · exact ⟨fun i hi => absurd hi (hunset i), fun i hi => absurd hi (hunset i)⟩

@[simp] lemma begun_pid (r : VideoRecorder) (env : StartEnv) : (begun settings r env).pid = env.child := by
  rw [begun]
  split_ifs <;> rfl

@[simp] lemma begun_reason (r : VideoRecorder) (env : StartEnv) : (begun settings r env).lastCrashReason = "" := by
  rw [begun]
  split_ifs <;> rfl

lemma start_follows (henabled : settings.enabled = true) {obs : List Observation} (h : Follows obs s) {env : StartEnv}
    (hstep : s.step settings (.start env) = some s') : Follows (obs ++ s.observe settings (.start env)) s' := by
  simp only [System.step] at hstep
  rw [System.observe]
  rcases start_cases henabled s env with ⟨result, hresult, heq⟩ | ⟨hpid, hchild, heq⟩
  · rw [heq] at hstep ⊢
    rw [if_pos hresult] at hstep
    rw [if_neg hresult, List.append_nil, ← Option.some.inj hstep]
    exact reap_follows h env.mediaAtReap
  · rw [heq] at hstep ⊢
    simp only [ne_eq, not_true_eq_false, if_false, Option.ite_none_left_eq_some, Option.some.injEq] at hstep
    obtain ⟨hfresh, rfl⟩ := hstep
    rw [if_pos rfl]
    refine ⟨fun p hp => List.mem_cons_of_mem _ (h.known p hp), ?_,
      begun_synced (reap_synced h.synced env.mediaAtReap) hpid env hchild⟩
    rw [status_snoc]
    exact ⟨hchild, begun_pid _ _, begun_reason _ _, List.mem_cons_self, fun hp => hfresh (h.known _ hp)⟩

lemma step_follows (henabled : settings.enabled = true) {obs : List Observation} (h : Follows obs s) {e : Event}
    (hstep : s.step settings e = some s') : Follows (obs ++ s.observe settings e) s' := by
  cases e with
  | exit pid =>
    simp only [System.step, Option.ite_none_right_eq_some, Option.some.injEq] at hstep
    obtain ⟨⟨hp, _⟩, rfl⟩ := hstep
    exact exit_follows h hp
  | start env => exact start_follows henabled h hstep
  | stop media =>
    rw [← Option.some.inj hstep]
    exact stop_follows h media
  | snapshot env =>
    rw [← Option.some.inj hstep, System.observe, List.append_nil]
    exact reap_follows h env.media

lemma run_follows (henabled : settings.enabled = true) {ts : List (Transition System Event)}
    (hrun : Run (System.step settings) {} ts s) : Follows (System.observed settings ts) s := by
  induction hrun with
  | nil => exact ⟨by simp, ⟨by norm_num, rfl⟩, ⟨by simp, by simp⟩⟩
  | @snoc ts s e s' _ hstep ih =>
    have hobs : System.observed settings (ts ++ [⟨s, e, s'⟩]) =
        System.observed settings ts ++ s.observe settings e := by
      simp [System.observed]
    rw [hobs]
    exact step_follows henabled ih hstep

end

theorem recorder_status_exact (settings : RecordingSettings) (henabled : settings.enabled = true)
    (ts : List (Transition System Event)) (s : System) (hrun : Run (System.step settings) {} ts s) :
    (∀ env,
      let report := (s.recorder.snapshot settings s.waitpid env).1
      (report.active = true ↔ ∃ pid since, LastStarted (System.observed settings ts) pid since ∧
        .stopped ∉ since ∧ .exited pid ∉ since) ∧
      (report.crashReason ≠ "" ↔ ∃ pid since, LastStarted (System.observed settings ts) pid since ∧
        .stopped ∉ since ∧ .exited pid ∈ since) ∧
      (report.active = true → report.crashReason = "")) ∧
      ∀ i j : ℕ, s.recorder.flags[i]? = some true → s.recorder.flags[j]? = some true →
        i = j ∧ 0 < s.recorder.pid := by
  have h := run_follows henabled hrun
  refine ⟨fun env => ?_, fun i j hi hj => ⟨?_, h.synced.tracked i hi⟩⟩
  · have hnoticed := reap_noticed h.agrees env.media
    simp only [← (status_iff _ _).1, ← (status_iff _ _).2, VideoRecorder.snapshot, decide_eq_true_eq]
    cases hst : status (System.observed settings ts) with
    | idle =>
      rw [hst] at hnoticed
      simp [hnoticed.1.not_gt, hnoticed.2]
    | recording p =>
      rw [hst] at hnoticed
      simp [hnoticed.2.1, hnoticed.1, hnoticed.2.2]
    | crashed p =>
      rw [hst] at hnoticed
      simp [hnoticed.1.not_gt, hnoticed.2]
  · have hij := (h.synced.current i hi).symm.trans (h.synced.current j hj)
    exact Option.some.inj hij

theorem recorder_status_exact_exit_noticed :
    ∃ ts s, Run (System.step { enabled := true }) {} ts s ∧
      System.observed { enabled := true } ts = [.started 7, .exited 7] ∧
      ∀ env, (s.recorder.snapshot { enabled := true } s.waitpid env).1.crashReason ≠ "" := by
  let media : Media := ⟨true, true, true, true⟩
  have hexec : Run.exec (System.step { enabled := true }) {} [.start ⟨media, media, 0, 7, 0⟩, .exit 7] =
      some (_, _) := rfl
  refine ⟨_, _, Run.of_exec hexec, rfl, fun env => ?_⟩
  refine ((recorder_status_exact { enabled := true } rfl _ _ (Run.of_exec hexec)).1 env).2.1.mpr ?_
  exact ⟨7, [.exited 7], ⟨[], rfl, by simp⟩, by simp, by simp⟩

end MavlinkLogService.Recording
