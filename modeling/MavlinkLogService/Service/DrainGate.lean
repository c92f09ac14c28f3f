import MavlinkLogService.Service.JobQueue

/-! What the drain finds when it begins a job that the gate has accepted: the vehicle may have been armed, the link lost
or another job begun since. -/

namespace MavlinkLogService.Service

open Archive Library Storage

namespace DroneLogService

variable {s s' : DroneLogService} {e : Event} {t : Transition DroneLogService Event}
  {ts : List (Transition DroneLogService Event)}

def Grounded (c : Control) : Prop := c.monitor.armed = true → ¬ c.Queued (·.unchecked)

lemma receive_grounded {c : Control} {a : Arrival}
    (ha : (c.heard a).armed = true → ¬ c.Queued (·.unchecked)) : Grounded (c.receive a).1 := by
  intro harmed
  rw [Control.receive_monitor] at harmed
  have hno := ha harmed
  cases a with
  | message m fresh =>
    rw [Control.Queued, Control.receive, (Control.onMavlinkMessage_framed c none 0 fresh).commands]
    exact hno
  | heartbeat b now fresh =>
    rw [Control.Queued, Control.receive, (Control.onMavlinkMessage_framed c (some b) now fresh).commands]
    exact hno
  | job kind ids all connected =>
    rcases Control.requestCompanionJob_cases c kind ids all connected with ⟨_, hr⟩ | ⟨_, cmd, hkind, hr, hgate⟩
    · rwa [Control.receive, hr]
    · rw [Control.receive, hr, Control.queued_push, hkind]
      rintro (hq | hq)
      · exact hno hq
      · have hgated : kind.gated = true := by
          cases kind with
          | eraseAll => cases hq
          | _ => rfl
        exact absurd ((hgate hgated).2.1.symm.trans harmed) (by simp)
  | cancel =>
    rw [Control.receive, Control.queued_push]
    rintro (hq | hq)
    · exact hno hq
    · cases hq

lemma turn_keeps {r : Reading} (h : Turns s r s') :
    s'.control.monitor = s.control.monitor ∧ s'.control.commands = s.control.commands := by
  cases h with
  | stay heq => exact ⟨by rw [heq], by rw [heq]⟩
  | move state stale _ _ heq => exact ⟨by rw [heq], by rw [heq]⟩
  | beginCycle _ heq => exact ⟨by rw [heq]; rfl, by rw [heq]; rfl⟩
  | cleanup _ heq =>
    subst heq
    rw [cleanup_control]
    split_ifs <;> exact ⟨rfl, rfl⟩

def unlinked : Event → Bool
  | .drain connected => !connected
  | _ => false

/-- From the acceptance of a refresh or a download to its drain, no other job is begun, the vehicle is not armed and
the transport stays connected. -/
structure Awaited (t : Transition DroneLogService Event) : Prop where
  unhurried : Unhurried (·.unchecked) t
  armed : ∀ x ∈ handled t, (x.1.heard x.2).armed = true → ¬ x.1.Queued (·.unchecked)
  link : unlinked t.event = true → (t.pre.control.commands.head?.bind (·.kind?)).any (·.unchecked) = false

lemma step_grounded (ho : s.control.Orderly (·.unchecked)) (h : Grounded s.control) (hs : s.step e = some s')
    (ha : Awaited ⟨s, e, s'⟩) : Grounded s'.control := by
  cases step_cases hs with
  | arrive a heq =>
    subst heq
    exact receive_grounded (ha.armed (s.control, a) List.mem_cons_self)
  | drain connected heq =>
    subst heq
    have hm := (drain_kept s connected).monitor
    have hc := (drain_kept s connected).commands
    intro harmed
    rw [hm] at harmed
    rintro ⟨cmd, hcmd, hp⟩
    rw [hc] at hcmd
    exact h harmed ⟨cmd, List.mem_of_mem_tail hcmd, hp⟩
  | turn r s₁ ht heq =>
    subst heq
    obtain ⟨hm, hc⟩ := turn_keeps ht
    rw [Grounded, Control.Queued]
    rw [hm, hc]
    exact h
  | work ms hw => exact fun _ => work_orderly rfl ho hw ha.unhurried.courteous
  | restart config heq =>
    subst heq
    rintro _ ⟨_, hx, _⟩
    cases hx

lemma run_grounded {s₀ : DroneLogService} (h₀ : s₀.control.commands = []) (hrun : Run step s₀ ts s)
    (ha : ∀ t ∈ ts, Awaited t) : s.control.Orderly (·.unchecked) ∧ Grounded s.control := by
  apply hrun.invariant Awaited (fun s => s.control.Orderly (·.unchecked) ∧ Grounded s.control)
  · have hno : ¬ s₀.control.Queued (·.unchecked) := fun ⟨x, hx, _⟩ => by rw [h₀] at hx; cases hx
    exact ⟨.of_unqueued hno, fun _ => hno⟩
  · rintro s e s' ⟨ho, hg⟩ hs ha
    exact ⟨step_orderly rfl ho hs ha.unhurried, step_grounded ho hg hs ha⟩
  · exact ha

lemma startArchive_enters {connected : Bool} (hs : s.step (.drain connected) = some s')
    (hhead : s.control.commands.head? = some .startArchive) (hpre : s.control.state ≠ .enumerate)
    (hpost : s'.control.state = .enumerate) :
    s.control.monitor.armed = false ∧ connected = true ∧ isArchiveBusy s.control.state = false := by
  cases step_cases hs with
  | drain _ heq =>
    obtain ⟨cmds, hq⟩ := List.head?_eq_some_iff.mp hhead
    subst heq
    rw [drain, hq] at hpost
    simp only [drainCommand] at hpost
    split_ifs at hpost with hrefused
    · exact absurd hpost hpre
    · simp only [Bool.or_eq_true, not_or, Bool.not_eq_true, Bool.not_eq_false'] at hrefused
      exact ⟨hrefused.1.2, hrefused.2, hrefused.1.1⟩

def Enters (t : Transition DroneLogService Event) : Prop :=
  ∃ cmd, t.pre.control.commands.head? = some cmd ∧
    (cmd = .startArchive ∧ t.pre.control.state ≠ .enumerate ∧ t.post.control.state = .enumerate ∨
      cmd = .refreshLogs ∧ t.post.control.state = .manualRefresh ∨
      (∃ ids all, cmd = .downloadLogs ids all) ∧ t.post.control.state = .manualDownload)

theorem drain_meets_gate (config : Settings) (storage : StorageManager) (database : Database)
    (ts : List (Transition DroneLogService Event)) (s : DroneLogService)
    (hrun : Run step (start config storage database []) ts s) (hts : ∀ t ∈ ts, Awaited t) :
    ∀ t ∈ ts, ∀ connected, t.event = .drain connected → Enters t →
      t.pre.control.monitor.armed = false ∧ connected = true ∧ isArchiveBusy t.pre.control.state = false := by
  intro t ht connected hev henters
  obtain ⟨a, b, hab⟩ := List.append_of_mem ht
  obtain ⟨hbefore, hstep⟩ := hrun.split hab
  obtain ⟨ho, hg⟩ := run_grounded rfl hbefore fun u hu => hts u (by simp [hab, hu])
  have hmeets : t.pre.control.Queued (·.unchecked) →
      t.pre.control.monitor.armed = false ∧ isArchiveBusy t.pre.control.state = false := by
    intro hq
    exact ⟨Bool.eq_false_iff.mpr fun h => hg h hq, Bool.eq_false_iff.mpr fun h => ho.idle h hq⟩
  have hlink : ∀ cmd, t.pre.control.commands.head? = some cmd → cmd.kind?.any (·.unchecked) = true →
      connected = true := by
    intro cmd hhead hp
    by_contra hno
    have hlost := (hts t ht).link (by simpa [hev, unlinked] using hno)
    rw [hhead] at hlost
    exact absurd (hlost.symm.trans hp) (by simp)
  obtain ⟨cmd, hhead, ⟨rfl, hpre, hpost⟩ | ⟨rfl, _⟩ | ⟨⟨ids, all, rfl⟩, _⟩⟩ := henters
  · rw [hev] at hstep
    exact startArchive_enters hstep hhead hpre hpost
  · obtain ⟨harmed, hidle⟩ := hmeets ⟨.refreshLogs, List.mem_of_mem_head? hhead, rfl⟩
    exact ⟨harmed, hlink _ hhead rfl, hidle⟩
  · obtain ⟨harmed, hidle⟩ := hmeets ⟨.downloadLogs ids all, List.mem_of_mem_head? hhead, rfl⟩
    exact ⟨harmed, hlink _ hhead rfl, hidle⟩

instance (t : Transition DroneLogService Event) : Decidable (Awaited t) :=
  decidable_of_iff
    (Unhurried (·.unchecked) t ∧
      (∀ x ∈ handled t, (x.1.heard x.2).armed = true → ¬ x.1.Queued (·.unchecked)) ∧
      (unlinked t.event = true → (t.pre.control.commands.head?.bind (·.kind?)).any (·.unchecked) = false))
    ⟨fun h => ⟨h.1, h.2.1, h.2.2⟩, fun h => ⟨h.1, h.2, h.3⟩⟩

theorem drain_meets_gate_refresh :
    ∃ x, Run.exec step (start sampleConfig {} {} [])
        (toWaitArm ++ [.arrive (.job .refresh [] false true), .drain true]) = some x ∧
      ∃ t ∈ x.1, Enters t ∧ t.post.control.state = .manualRefresh ∧
        t.pre.control.monitor.armed = false ∧ isArchiveBusy t.pre.control.state = false := by
  refine exists_of_any (fun x => (∀ t ∈ x.1, Awaited t) ∧ ∃ t ∈ x.1, drains t.event = true ∧
    t.pre.control.commands.head? = some .refreshLogs ∧ t.post.control.state = .manualRefresh) (by decide +kernel) ?_
  rintro x hx ⟨hall, t, ht, hdrain, hhead, hpost⟩
  have henters : Enters t := ⟨.refreshLogs, hhead, Or.inr (Or.inl ⟨rfl, hpost⟩)⟩
  obtain ⟨connected, hev⟩ : ∃ connected, t.event = .drain connected := by
    cases hev : t.event with
    | drain connected => exact ⟨connected, rfl⟩
    | _ =>
      rw [hev] at hdrain
      cases hdrain
  obtain ⟨harmed, _, hidle⟩ := drain_meets_gate sampleConfig {} {} x.1 x.2 (Run.of_exec hx) hall t ht connected hev
    henters
  exact ⟨t, ht, henters, hpost, harmed, hidle⟩

theorem refresh_in_flight :
    ∃ x, Run.exec step (start sampleConfig {} {} [])
        (toWaitArm ++ [.arrive (.job .refresh [] false true), .arrive (beat true 1), .drain false]) = some x ∧
      ∃ t ∈ x.1, Enters t ∧ unlinked t.event = true ∧ t.pre.control.monitor.armed = true := by
  refine exists_of_any (fun x => ∃ t ∈ x.1, (t.pre.control.commands.head? = some .refreshLogs ∧
    t.post.control.state = .manualRefresh) ∧ unlinked t.event = true ∧ t.pre.control.monitor.armed = true)
    (by decide +kernel) ?_
  rintro x _ ⟨t, ht, ⟨hhead, hpost⟩, hlink, harmed⟩
  exact ⟨t, ht, ⟨.refreshLogs, hhead, Or.inr (Or.inl ⟨rfl, hpost⟩)⟩, hlink, harmed⟩

end DroneLogService

end MavlinkLogService.Service
