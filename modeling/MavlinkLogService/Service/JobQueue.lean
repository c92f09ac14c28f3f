import MavlinkLogService.Service.PendingDisarm

/-! The gate for companion jobs and the queue behind it: how many accepted jobs can be pending at a time, and
what the main loop finds when it takes one off the queue. -/

namespace MavlinkLogService.Service

open Archive Archive.LogDownloader Library Session Storage

def CompanionCommand.kind? : CompanionCommand → Option CompanionJobKind
  | .startArchive => some .archive
  | .cancelArchive => none
  | .refreshLogs => some .refresh
  | .downloadLogs _ _ => some .download
  | .eraseAllLogs => some .eraseAll

def CompanionCommand.isJob (cmd : CompanionCommand) : Bool := cmd.kind?.isSome

def CompanionJobKind.gated (kind : CompanionJobKind) : Bool := kind != .eraseAll

def CompanionJobKind.unchecked (kind : CompanionJobKind) : Bool := kind == .refresh || kind == .download

def Arrival.kind? : Arrival → Option CompanionJobKind
  | .job kind _ _ _ => some kind
  | _ => none

namespace Control

def jobs (c : Control) : List CompanionCommand := c.commands.filter (·.isJob)

def load (c : Control) : ℕ :=
  c.commands.countP (fun cmd => cmd.kind?.any (·.gated)) + if isArchiveBusy c.state then 1 else 0

def Queued (P : CompanionJobKind → Bool) (c : Control) : Prop := ∃ cmd ∈ c.commands, cmd.kind?.any P = true

instance (P : CompanionJobKind → Bool) (c : Control) : Decidable (c.Queued P) := by
  unfold Queued
  infer_instance

structure Orderly (P : CompanionJobKind → Bool) (c : Control) : Prop where
  first : ∀ cmd ∈ c.jobs.tail, cmd.kind?.any P = false
  idle : isArchiveBusy c.state = true → ¬ c.Queued P

variable {P : CompanionJobKind → Bool} {c : Control} {a : Arrival}

lemma isJob_of_any {cmd : CompanionCommand} (h : cmd.kind?.any P = true) : cmd.isJob = true := by
  obtain ⟨kind, hk, _⟩ := (Option.any_eq_true _ _).mp h
  rw [CompanionCommand.isJob, hk]
  rfl

lemma queued_iff : c.Queued P ↔ ∃ cmd ∈ c.jobs, cmd.kind?.any P = true := by
  constructor
  · rintro ⟨cmd, hmem, hp⟩
    exact ⟨cmd, List.mem_filter.mpr ⟨hmem, isJob_of_any hp⟩, hp⟩
  · rintro ⟨cmd, hmem, hp⟩
    exact ⟨cmd, (List.mem_filter.mp hmem).1, hp⟩

lemma Orderly.of_unqueued (h : ¬ c.Queued P) : Orderly P c := by
  refine ⟨?_, fun _ => h⟩
  intro cmd hcmd
  rw [Bool.eq_false_iff]
  intro hp
  exact h (queued_iff.mpr ⟨cmd, List.mem_of_mem_tail hcmd, hp⟩)

lemma countP_jobs (P : CompanionJobKind → Bool) (c : Control) :
    c.commands.countP (fun cmd => cmd.kind?.any P) = c.jobs.countP (fun cmd => cmd.kind?.any P) := by
  rw [jobs, List.countP_filter]
  apply List.countP_congr
  intro cmd _
  rw [Bool.and_eq_true]
  exact ⟨fun h => ⟨h, isJob_of_any h⟩, fun h => h.1⟩

lemma Orderly.load_le (h : Orderly (·.gated) c) : c.load ≤ 1 := by
  rw [load]
  split_ifs with hb
  · have hzero : c.commands.countP (fun cmd => cmd.kind?.any (·.gated)) = 0 := by
      rw [List.countP_eq_zero]
      exact fun cmd hcmd hp => h.idle hb ⟨cmd, hcmd, hp⟩
    omega
  · rw [countP_jobs]
    cases hj : c.jobs with
    | nil => simp
    | cons j js =>
      have hzero : js.countP (fun cmd => cmd.kind?.any (·.gated)) = 0 := by
        rw [List.countP_eq_zero]
        intro cmd hcmd
        rw [h.first cmd (by rw [hj]; exact hcmd)]
        simp
      rw [List.countP_cons, hzero]
      split_ifs <;> omega

lemma queued_of_load (hb : isArchiveBusy c.state = false) (h : c.load ≠ 0) : c.Queued (·.gated) := by
  by_contra hno
  apply h
  rw [load, hb, List.countP_eq_zero.mpr]
  · rfl
  · exact fun cmd hcmd hp => hno ⟨cmd, hcmd, hp⟩

lemma requestCompanionJob_cases (c : Control) (kind : CompanionJobKind) (ids : List UInt16) (all connected : Bool) :
    ((c.requestCompanionJob kind ids all connected).1.result ≠ .accepted ∧
        (c.requestCompanionJob kind ids all connected).2.1 = c) ∨
      ((c.requestCompanionJob kind ids all connected).1.result = .accepted ∧
        ∃ cmd, cmd.kind? = some kind ∧ (c.requestCompanionJob kind ids all connected).2.1 = c.push cmd ∧
          (kind.gated = true → isArchiveBusy c.state = false ∧ c.monitor.armed = false ∧ connected = true)) := by
  have hrequested := requestCompanionJob_requested c kind ids all connected
  generalize c.requestCompanionJob kind ids all connected = r at hrequested ⊢
  cases hrequested with
  | refused h => exact Or.inl ⟨h, rfl⟩
  | eraseAll cancel => exact Or.inr ⟨rfl, .eraseAllLogs, rfl, rfl, fun h => by cases h⟩
  | archive h => exact Or.inr ⟨rfl, .startArchive, rfl, rfl, fun _ => h⟩
  | refresh h => exact Or.inr ⟨rfl, .refreshLogs, rfl, rfl, fun _ => h⟩
  | download ids all haccepted h => exact Or.inr ⟨haccepted, .downloadLogs ids all, rfl, rfl, fun _ => h⟩

lemma requestCompanionJob_running {kind : CompanionJobKind} (ids : List UInt16) (all connected : Bool)
    (hk : kind.gated = true) (hb : isArchiveBusy c.state = true) :
    (c.requestCompanionJob kind ids all connected).1.result = .alreadyRunning := by
  have hne : kind ≠ .eraseAll := by
    rintro rfl
    cases hk
  simp [requestCompanionJob, hne, hb]

def heard (c : Control) : Arrival → FlightMonitor
  | .message _ fresh => (hear c.monitor none fresh).1
  | .heartbeat h _ fresh => (hear c.monitor (some h) fresh).1
  | _ => c.monitor

lemma receive_monitor (c : Control) (a : Arrival) : (c.receive a).1.monitor = c.heard a := by
  cases a with
  | message m fresh => exact (onMavlinkMessage_framed c none 0 fresh).monitor
  | heartbeat h now fresh => exact (onMavlinkMessage_framed c (some h) now fresh).monitor
  | job kind ids all connected =>
    obtain ⟨cmds, cancel, hq⟩ := requestCompanionJob_queues c kind ids all connected
    rw [receive, hq]
    rfl
  | cancel => rfl

lemma handleAll_state (I : State → Prop) (now : ℤ) (c : Control) (es : List FlightMonitor.Event)
    (h : ∀ c : Control, ∀ e ∈ es, I c.state → I (c.onFlightEvent now e).1.state) (hc : I c.state) :
    I (handleAll (onFlightEvent now) c es).1.state := by
  have hR : Composes (fun (c : Control) (r : Control × Effect) => I c.state → I r.1.state) :=
    ⟨fun _ h => h, fun _ _ _ h h' hc => h' (h hc)⟩
  exact hR.handleAll _ _ _ (fun x hx => h x.1 x.2 (mem_of_handling hx)) hc

lemma onFlightEvent_idle (now : ℤ) {e : FlightMonitor.Event} (hb : isArchiveBusy c.state = false)
    (h : e = .vehicleDisarmed → c.state ≠ .waitDisarm) : isArchiveBusy (c.onFlightEvent now e).1.state = false := by
  cases e with
  | vehicleArmed =>
    simp only [onFlightEvent]
    split_ifs
    · rfl
    · exact hb
    · exact hb
  | vehicleDisarmed => simp [onFlightEvent, h rfl, hb]
  | linkLost =>
    simp only [onFlightEvent, handleConnectionLost]
    split_ifs
    · exact hb
    · exact hb
    · rfl
  | linkRestored =>
    simp only [onFlightEvent]
    split_ifs
    · rfl
    · exact hb
  | vehicleDetected => exact hb

lemma onFlightEvent_landed (now : ℤ) {e : FlightMonitor.Event} (hw : c.state ≠ .waitDisarm) (h : e ≠ .vehicleArmed) :
    (c.onFlightEvent now e).1.state ≠ .waitDisarm := by
  cases e with
  | vehicleArmed => exact absurd rfl h
  | vehicleDisarmed =>
    simp only [onFlightEvent, if_neg hw]
    split_ifs <;> exact hw
  | linkLost =>
    simp only [onFlightEvent, handleConnectionLost]
    split_ifs
    · exact hw
    · exact hw
    · simp
  | linkRestored =>
    simp only [onFlightEvent]
    split_ifs
    · simp
    · exact hw
  | vehicleDetected => exact hw

lemma onMavlinkMessage_begins (heartbeat : Option Heartbeat) (now : ℤ) (fresh : Bool)
    (hb : isArchiveBusy c.state = false)
    (hb' : isArchiveBusy (c.onMavlinkMessage heartbeat now fresh).1.state = true) :
    c.state = .waitDisarm ∧ .vehicleDisarmed ∈ (hear c.monitor heartbeat fresh).2 := by
  -- only a disarm leads from an idle state to a busy one, and a message that has one has no arming before it
  have hd : .vehicleDisarmed ∈ (hear c.monitor heartbeat fresh).2 := by
    by_contra hd
    have hidle := handleAll_state (isArchiveBusy · = false) now
      { c with monitor := (hear c.monitor heartbeat fresh).1 } (hear c.monitor heartbeat fresh).2
      (fun c e he hc => onFlightEvent_idle now hc fun h => absurd (h ▸ he) hd) hb
    exact absurd (hidle.symm.trans hb') (by simp)
  have ha : .vehicleArmed ∉ (hear c.monitor heartbeat fresh).2 := fun ha => hear_one_edge ha hd
  refine ⟨?_, hd⟩
  by_contra hw
  have hidle := handleAll_state (fun st => isArchiveBusy st = false ∧ st ≠ .waitDisarm) now
    { c with monitor := (hear c.monitor heartbeat fresh).1 } (hear c.monitor heartbeat fresh).2
    (fun c e he hc => ⟨onFlightEvent_idle now hc.1 fun _ => hc.2, onFlightEvent_landed now hc.2 fun h => ha (h ▸ he)⟩)
    ⟨hb, hw⟩
  exact absurd (hidle.1.symm.trans hb') (by simp)

/-- A job of a kind in `P` is requested only while no job is queued, and a disarm does not begin a cycle while one
is. -/
structure Courteous (P : CompanionJobKind → Bool) (c : Control) (a : Arrival) : Prop where
  request : a.kind?.any P = true → isArchiveBusy c.state = false → c.jobs = []
  disarm : c.state = .waitDisarm → .vehicleDisarmed ∈ c.emits a → ¬ c.Queued P

lemma Orderly.mavlink (h : Orderly P c) (heartbeat : Option Heartbeat) (now : ℤ) (fresh : Bool)
    (hd : c.state = .waitDisarm → .vehicleDisarmed ∈ (hear c.monitor heartbeat fresh).2 → ¬ c.Queued P) :
    Orderly P (c.onMavlinkMessage heartbeat now fresh).1 := by
  have hcmd := (onMavlinkMessage_framed c heartbeat now fresh).commands
  refine ⟨?_, fun hb => ?_⟩
  · rw [jobs, hcmd]
    exact h.first
  · rw [Queued, hcmd]
    by_cases hc : isArchiveBusy c.state = true
    · exact h.idle hc
    · obtain ⟨hw, hdis⟩ := onMavlinkMessage_begins heartbeat now fresh (by simpa using hc) hb
      exact hd hw hdis

lemma jobs_push (c : Control) (cmd : CompanionCommand) :
    (c.push cmd).jobs = c.jobs ++ if cmd.isJob then [cmd] else [] := by
  rw [jobs, push, List.filter_append, jobs, List.filter_singleton]
  cases cmd.isJob <;> rfl

lemma queued_push (c : Control) (cmd : CompanionCommand) :
    (c.push cmd).Queued P ↔ c.Queued P ∨ cmd.kind?.any P = true := by
  simp only [Queued, push, List.mem_append, List.mem_singleton]
  constructor
  · rintro ⟨x, hx | rfl, hp⟩
    · exact Or.inl ⟨x, hx, hp⟩
    · exact Or.inr hp
  · rintro (⟨x, hx, hp⟩ | hp)
    · exact ⟨x, Or.inl hx, hp⟩
    · exact ⟨cmd, Or.inr rfl, hp⟩

lemma Orderly.push (h : Orderly P c) {cmd : CompanionCommand}
    (hp : cmd.kind?.any P = true → c.jobs = [] ∧ isArchiveBusy c.state = false) : Orderly P (c.push cmd) := by
  by_cases hcmd : cmd.kind?.any P = true
  · obtain ⟨hnil, hidle⟩ := hp hcmd
    refine ⟨?_, fun hb => absurd (hidle.symm.trans hb) (by simp)⟩
    rw [jobs_push, hnil]
    split_ifs <;> simp
  · refine ⟨?_, fun hb hq => ?_⟩
    · intro x hx
      have hmem : x ∈ c.jobs.tail ∨ x = cmd := by
        rw [jobs_push] at hx
        cases hj : c.jobs <;> split_ifs at hx <;> simp_all
      rcases hmem with hmem | rfl
      · exact h.first x hmem
      · simpa using hcmd
    · rcases (queued_push c cmd).mp hq with hq | hq
      · exact h.idle hb hq
      · exact hcmd hq

lemma Orderly.receive (hP : P .eraseAll = false) (h : Orderly P c) (hc : Courteous P c a) :
    Orderly P (c.receive a).1 := by
  cases a with
  | message m fresh => exact h.mavlink none 0 fresh hc.disarm
  | heartbeat b now fresh => exact h.mavlink (some b) now fresh hc.disarm
  | job kind ids all connected =>
    rcases requestCompanionJob_cases c kind ids all connected with ⟨_, hr⟩ | ⟨_, cmd, hkind, hr, hgate⟩
    · rw [Control.receive, hr]
      exact h
    · rw [Control.receive, hr]
      apply h.push
      intro hp
      have hpk : P kind = true := by simpa [hkind] using hp
      have hidle : isArchiveBusy c.state = false := by
        refine (hgate ?_).1
        cases kind with
        | eraseAll => exact absurd (hP.symm.trans hpk) (by simp)
        | _ => rfl
      exact ⟨hc.request hpk hidle, hidle⟩
  | cancel => exact h.push fun hp => by cases hp

end Control

namespace DroneLogService

variable {P : CompanionJobKind → Bool} {s s' : DroneLogService} {e : Event} {t : Transition DroneLogService Event}
  {ts : List (Transition DroneLogService Event)}

lemma drain_orderly (h : s.control.Orderly P) (connected : Bool) : (s.drain connected).control.Orderly P := by
  rw [drain]
  split
  · exact ⟨h.first, h.idle⟩
  · rename_i cmd cmds hq
    by_cases hj : cmd.isJob = true
    · apply Control.Orderly.of_unqueued
      rintro ⟨x, hx, hp⟩
      rw [(drainCommand_kept _ _ _).commands] at hx
      have hjobs : s.control.jobs.tail = cmds.filter (·.isJob) := by simp [Control.jobs, hq, hj]
      have hno := h.first x (by rw [hjobs]; exact List.mem_filter.mpr ⟨hx, Control.isJob_of_any hp⟩)
      exact absurd (hno.symm.trans hp) (by simp)
    · cases cmd with
      | cancelArchive =>
        refine ⟨?_, fun hb => ?_⟩
        · have hjobs := h.first
          rw [Control.jobs, hq] at hjobs
          exact hjobs
        · rintro ⟨x, hx, hp⟩
          exact h.idle hb ⟨x, by rw [hq]; exact List.mem_cons_of_mem _ hx, hp⟩
      | _ => exact absurd rfl hj

lemma work_orderly {ms : List Moment} (hP : P .eraseAll = false) (h : s.control.Orderly P) (hw : Works s ms s')
    (hc : ∀ x ∈ handling Control.receive s.control (ms.flatMap (·.arrivals)), x.1.Courteous P x.2) :
    ¬ s'.control.Queued P := by
  have hR : Composes (fun (c : Control) (r : Control × Effect) => c.Orderly P → r.1.Orderly P) :=
    ⟨fun _ h => h, fun _ _ _ h h' hc => h' (h hc)⟩
  have hend := hR.handleAll Control.receive s.control (ms.flatMap (·.arrivals))
    (fun x hx hx' => hx'.receive hP (hc x hx)) h
  have hidle := hend.idle (by rw [(Control.handleAll_steady s.control _ hw.busy).state]; exact hw.busy)
  cases hw with
  | archive logs result sm _ hp _ hcon =>
    rw [hcon]
    rwa [← hp.control] at hidle
  | eraseAll sm _ hp _ hcon =>
    rw [hcon]
    rwa [← hp.control] at hidle
  | manualRefresh logs sm _ hp _ hcon =>
    rw [hcon]
    rwa [← hp.control] at hidle
  | manualDownload logs result sm _ hp _ hcon =>
    rw [hcon]
    rwa [← hp.control] at hidle
  | manualErase ok sm _ hp _ hcon =>
    rw [hcon]
    have hcontrol : sm.control = _ := hp.control
    rw [resetCancel] at hcontrol
    rwa [← hcontrol] at hidle

def turns : Event → Bool
  | .turn _ => true
  | _ => false

structure Unhurried (P : CompanionJobKind → Bool) (t : Transition DroneLogService Event) : Prop where
  courteous : ∀ x ∈ handled t, x.1.Courteous P x.2
  cleanup : turns t.event = true → t.pre.control.state = .cleanup → t.pre.control.archiveRequested = true →
    ¬ t.pre.control.Queued P

lemma moves_busy {x y : State} (h : Moves x y) (hb : isArchiveBusy y = true) : isArchiveBusy x = true := by
  cases x <;> cases y <;> first | exact h.elim | rfl | cases hb

lemma turn_orderly {r : Reading} (h : s.control.Orderly P) (ht : Turns s r s')
    (hc : s.control.state = .cleanup → s.control.archiveRequested = true → ¬ s.control.Queued P) :
    s'.control.Orderly P := by
  cases ht with
  | stay heq =>
    subst heq
    exact h
  | move state stale hm _ heq =>
    subst heq
    exact ⟨h.first, fun hb => h.idle (moves_busy hm hb)⟩
  | beginCycle hst heq =>
    subst heq
    exact ⟨h.first, fun _ => h.idle (by rw [hst]; rfl)⟩
  | cleanup hst heq =>
    subst heq
    rw [cleanup_control]
    split_ifs with hr
    · exact ⟨h.first, fun _ => hc hst hr⟩
    · refine ⟨h.first, fun hb => ?_⟩
      simp only [Control.returnToIdleState] at hb
      split_ifs at hb <;> cases hb

lemma step_orderly (hP : P .eraseAll = false) (h : s.control.Orderly P) (hs : s.step e = some s')
    (hu : Unhurried P ⟨s, e, s'⟩) : s'.control.Orderly P := by
  cases step_cases hs with
  | arrive a heq =>
    subst heq
    exact h.receive hP (hu.courteous (s.control, a) List.mem_cons_self)
  | drain connected heq =>
    subst heq
    exact drain_orderly h connected
  | turn r s₁ ht heq =>
    subst heq
    have hend := turn_orderly h ht (hu.cleanup rfl)
    exact ⟨hend.first, hend.idle⟩
  | work ms hw => exact .of_unqueued (work_orderly hP h hw hu.courteous)
  | restart config heq =>
    subst heq
    exact .of_unqueued fun ⟨_, hx, _⟩ => by cases hx

lemma handled_orderly (hP : P .eraseAll = false) (h : t.pre.control.Orderly P) (hu : Unhurried P t) :
    ∀ x ∈ handled t, x.1.Orderly P :=
  handling_keeps h fun x hx hx' => hx'.receive hP (hu.courteous x hx)

lemma run_orderly {s₀ : DroneLogService} (hP : P .eraseAll = false) (h₀ : s₀.control.commands = [])
    (hrun : Run step s₀ ts s) (hu : ∀ t ∈ ts, Unhurried P t) : s.control.Orderly P := by
  apply hrun.invariant (Unhurried P) (fun s => s.control.Orderly P)
  · exact .of_unqueued fun ⟨x, hx, _⟩ => by rw [h₀] at hx; cases hx
  · intro s e s' h hs hu
    exact step_orderly hP h hs hu
  · exact hu

def awaiting : State → Bool
  | .enumerate | .archive | .manualRefresh | .manualDownload | .manualErase => true
  | _ => false

/-- No job is requested or begun while another accepted one is queued, and `logs.erase` does not override a job that
waits for its step. -/
structure Patient (t : Transition DroneLogService Event) : Prop where
  unhurried : Unhurried (·.gated) t
  erase : drains t.event = true → t.pre.control.commands.head? = some .eraseAllLogs →
    awaiting t.pre.control.state = false

lemma awaiting_busy {state : State} (h : awaiting state = true) : isArchiveBusy state = true := by
  cases state <;> first | rfl | cases h

lemma drain_awaits {connected : Bool} (h : s.control.Orderly (·.gated))
    (hw : awaiting s.control.state = true) (he : s.control.commands.head? ≠ some .eraseAllLogs) :
    (s.drain connected).control = { s.control with commands := s.control.commands.tail } := by
  have hidle := h.idle (awaiting_busy hw)
  rw [drain]
  split
  · rename_i hq
    simp only [hq, List.tail_nil]
    rw [← hq]
  · rename_i cmd cmds hq
    have hcmd : cmd.kind?.any (·.gated) ≠ true := fun hp => hidle ⟨cmd, by rw [hq]; exact List.mem_cons_self, hp⟩
    cases cmd with
    | cancelArchive =>
      rw [hq]
      rfl
    | eraseAllLogs => exact absurd (by rw [hq]; rfl) he
    -- the commands of gated jobs are not on the queue while a job is in progress
    | _ => exact absurd rfl hcmd

theorem accepted_jobs_wait (config : Settings) (storage : StorageManager) (database : Database)
    (ts : List (Transition DroneLogService Event)) (s : DroneLogService)
    (hrun : Run step (start config storage database []) ts s) (hts : ∀ t ∈ ts, Patient t) :
    s.control.load ≤ 1 ∧ ∀ t ∈ ts,
      (∀ x ∈ handled t, x.1.load ≤ 1 ∧ ∀ kind ids all connected, x.2 = .job kind ids all connected →
        kind.gated = true → x.1.load ≠ 0 →
        (x.1.requestCompanionJob kind ids all connected).1.result = .alreadyRunning) ∧
      (drains t.event = true → awaiting t.pre.control.state = true →
        t.post.control.state = t.pre.control.state ∧
        t.post.control.manualDownloadIds = t.pre.control.manualDownloadIds ∧
        t.post.control.manualDownloadAll = t.pre.control.manualDownloadAll) := by
  refine ⟨(run_orderly rfl rfl hrun fun t ht => (hts t ht).unhurried).load_le, fun t ht => ?_⟩
  have hpatient := hts t ht
  obtain ⟨a, b, hab⟩ := List.append_of_mem ht
  obtain ⟨hbefore, hstep⟩ := hrun.split hab
  have horder : t.pre.control.Orderly (·.gated) :=
    run_orderly rfl rfl hbefore fun u hu => (hts u (by simp [hab, hu])).unhurried
  refine ⟨fun x hx => ?_, fun hd hw => ?_⟩
  · have hxo := handled_orderly rfl horder hpatient.unhurried x hx
    refine ⟨hxo.load_le, ?_⟩
    intro kind ids all connected hreq hgated hload
    by_cases hb : isArchiveBusy x.1.state = true
    · exact Control.requestCompanionJob_running ids all connected hgated hb
    · rw [Bool.not_eq_true] at hb
      have hnil := (hpatient.unhurried.courteous x hx).request (by rw [hreq]; exact hgated) hb
      obtain ⟨cmd, hcmd, _⟩ := Control.queued_iff.mp (Control.queued_of_load hb hload)
      rw [hnil] at hcmd
      cases hcmd
  · obtain ⟨s₁, e₁, s₂⟩ := t
    cases step_cases hstep with
    | drain connected heq =>
      have hhead : s₁.control.commands.head? ≠ some .eraseAllLogs := fun he =>
        absurd ((hpatient.erase rfl he).symm.trans hw) (by simp)
      rw [heq, drain_awaits horder hw hhead]
      exact ⟨rfl, rfl, rfl⟩
    | _ => cases hd

instance (P : CompanionJobKind → Bool) (c : Control) (a : Arrival) : Decidable (c.Courteous P a) :=
  decidable_of_iff
    ((a.kind?.any P = true → isArchiveBusy c.state = false → c.jobs = []) ∧
      (c.state = .waitDisarm → .vehicleDisarmed ∈ c.emits a → ¬ c.Queued P))
    ⟨fun h => ⟨h.1, h.2⟩, fun h => ⟨h.1, h.2⟩⟩

instance (P : CompanionJobKind → Bool) (t : Transition DroneLogService Event) : Decidable (Unhurried P t) :=
  decidable_of_iff
    ((∀ x ∈ handled t, x.1.Courteous P x.2) ∧ (turns t.event = true → t.pre.control.state = .cleanup →
      t.pre.control.archiveRequested = true → ¬ t.pre.control.Queued P))
    ⟨fun h => ⟨h.1, h.2⟩, fun h => ⟨h.1, h.2⟩⟩

instance (t : Transition DroneLogService Event) : Decidable (Patient t) :=
  decidable_of_iff
    (Unhurried (·.gated) t ∧ (drains t.event = true → t.pre.control.commands.head? = some .eraseAllLogs →
      awaiting t.pre.control.state = false))
    ⟨fun h => ⟨h.1, h.2⟩, fun h => ⟨h.1, h.2⟩⟩

def toWaitArm : List Event :=
  [.drain true, .turn {}, .drain true, .turn {}, .arrive (beat false 0), .drain true, .turn {}]

theorem accepted_jobs_wait_refresh :
    ∃ x, Run.exec step (start sampleConfig {} {} [])
        (toWaitArm ++ [.arrive (.job .refresh [] false true), .drain true, .arrive (.job .archive [] false true)]) =
          some x ∧
      x.2.control.state = .manualRefresh ∧ x.2.control.load ≤ 1 ∧
      ∃ t ∈ x.1, ∃ y ∈ handled t, y.2 = .job .archive [] false true ∧
        (y.1.requestCompanionJob .archive [] false true).1.result = .alreadyRunning := by
  refine exists_of_any (fun x => x.2.control.state = .manualRefresh ∧ (∀ t ∈ x.1, Patient t) ∧
    ∃ t ∈ x.1, ∃ y ∈ handled t, y.2 = .job .archive [] false true ∧ y.1.load ≠ 0) (by decide +kernel) ?_
  rintro x hx ⟨hst, hpatient, t, ht, y, hy, hreq, hload⟩
  obtain ⟨hle, hwait⟩ := accepted_jobs_wait sampleConfig {} {} x.1 x.2 (Run.of_exec hx) hpatient
  exact ⟨hst, hle, t, ht, y, hy, hreq, ((hwait t ht).1 y hy).2 .archive [] false true hreq rfl hload⟩

/-- Two requests between two drains: both are accepted, and the drain replaces the first job by the second. -/
theorem second_job_replaces_first :
    ∃ x, Run.exec step (start sampleConfig {} {} [])
        (toWaitArm ++ [.arrive (.job .archive [] false true), .arrive (.job .refresh [] false true),
          .drain true, .drain true]) = some x ∧
      (∃ t ∈ x.1, ∃ y ∈ handled t, y.1.load = 1 ∧ y.2 = .job .refresh [] false true ∧
        (y.1.requestCompanionJob .refresh [] false true).1.result = .accepted ∧ t.post.control.load = 2) ∧
      ∃ t ∈ x.1, drains t.event = true ∧ t.pre.control.state = .enumerate ∧
        t.post.control.state = .manualRefresh := by
  exact exists_of_any (fun x => (∃ t ∈ x.1, ∃ y ∈ handled t, y.1.load = 1 ∧ y.2 = .job .refresh [] false true ∧
      (y.1.requestCompanionJob .refresh [] false true).1.result = .accepted ∧ t.post.control.load = 2) ∧
    ∃ t ∈ x.1, drains t.event = true ∧ t.pre.control.state = .enumerate ∧ t.post.control.state = .manualRefresh)
    (by decide +kernel) fun _ _ h => h

end DroneLogService

end MavlinkLogService.Service
