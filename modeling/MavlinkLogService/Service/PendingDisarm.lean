import MavlinkLogService.Service.EraseGate

/-! A disarm and the cycle it schedules: which states the service can be in while the disarm is unserved. -/

namespace MavlinkLogService.Service

open Archive Archive.LogDownloader Library Session Storage

def unserved (l : List Action) : Bool :=
  l.foldl (fun pending a => match a with
    | .disarmed => true
    | .consume | .restart => false
    | _ => pending) false

lemma unserved_snoc (l : List Action) (a : Action) : unserved (l ++ [a]) = match a with
    | .disarmed => true
    | .consume | .restart => false
    | _ => unserved l := by
  rw [unserved, List.foldl_append]
  rfl

lemma unserved_append (l : List Action) {ext : List Action} (h : ∀ a ∈ ext, a ≠ .consume ∧ a ≠ .restart) :
    unserved (l ++ ext) = (unserved l || decide (.disarmed ∈ ext)) := by
  induction ext generalizing l with
  | nil => simp
  | cons a ext ih =>
    have hrest := ih (l ++ [a]) fun x hx => h x (List.mem_cons_of_mem a hx)
    rw [List.append_assoc, List.singleton_append] at hrest
    rw [hrest, unserved_snoc]
    obtain ⟨h₁, h₂⟩ := h a List.mem_cons_self
    cases a with
    | consume => exact absurd rfl h₁
    | restart => exact absurd rfl h₂
    | _ => simp

namespace Control

def emits (c : Control) : Arrival → List FlightMonitor.Event
  | .message _ fresh => (hear c.monitor none fresh).2
  | .heartbeat h _ fresh => (hear c.monitor (some h) fresh).2
  | _ => []

lemma handleAll_requested (now : ℤ) (c : Control) (es : List FlightMonitor.Event) :
    (handleAll (onFlightEvent now) c es).1.archiveRequested =
        (c.archiveRequested || decide (.vehicleDisarmed ∈ es)) ∧
      (.disarmed ∈ (handleAll (onFlightEvent now) c es).2.marks ↔ .vehicleDisarmed ∈ es) := by
  induction es generalizing c with
  | nil => simp [handleAll]
  | cons e es ih =>
    obtain ⟨h₁, h₂⟩ := ih (c.onFlightEvent now e).1
    rw [handleAll]
    simp only [h₁, effect_add_marks, List.mem_append, h₂]
    cases e with
    | vehicleArmed =>
      simp only [onFlightEvent]
      rcases hits_cases c.state with h | h <;> split_ifs <;> simp [h]
    | vehicleDisarmed =>
      simp only [onFlightEvent]
      split_ifs <;> simp
    | linkLost =>
      simp only [onFlightEvent, handleConnectionLost]
      split_ifs <;> simp
    | linkRestored =>
      simp only [onFlightEvent]
      split_ifs <;> simp
    | vehicleDetected => simp [onFlightEvent]

lemma receive_requested (c : Control) (a : Arrival) :
    (c.receive a).1.archiveRequested = (c.archiveRequested || decide (.vehicleDisarmed ∈ c.emits a)) ∧
      (.disarmed ∈ (c.receive a).2.marks ↔ .vehicleDisarmed ∈ c.emits a) := by
  cases a with
  | message m fresh => exact handleAll_requested 0 _ _
  | heartbeat h now fresh => exact handleAll_requested now _ _
  | job kind ids all connected =>
    obtain ⟨cmds, cancel, hq⟩ := requestCompanionJob_queues c kind ids all connected
    rw [receive, hq]
    simp [emits]
  | cancel => rcases hits_cases c.state with h | h <;> simp [receive, emits, push, h]

lemma handleAll_cleanup (now : ℤ) {c : Control} {es : List FlightMonitor.Event} (hc : c.state = .cleanup)
    (hl : .linkLost ∉ es) : (handleAll (onFlightEvent now) c es).1.state = .cleanup := by
  induction es generalizing c with
  | nil => exact hc
  | cons e es ih =>
    apply ih
    · cases e with
      | linkLost => exact absurd List.mem_cons_self hl
      | _ => simp [onFlightEvent, hc, isArchiveBusy]
    · exact fun h => hl (List.mem_cons_of_mem e h)

lemma handleAll_waitDisarm (now : ℤ) {c : Control} {es : List FlightMonitor.Event} (hc : c.state = .waitDisarm)
    (hd : .vehicleDisarmed ∈ es) (hl : .linkLost ∉ es) :
    (handleAll (onFlightEvent now) c es).1.state = .delay := by
  induction es generalizing c with
  | nil => cases hd
  | cons e es ih =>
    have hl' : .linkLost ∉ es := fun h => hl (List.mem_cons_of_mem e h)
    cases e with
    | linkLost => exact absurd List.mem_cons_self hl
    | vehicleDisarmed =>
      have hstate : (c.onFlightEvent now .vehicleDisarmed).1.state = .delay := by
        simp [onFlightEvent, hc]
      have hs := steady_composes.handleAll (onFlightEvent now) (c.onFlightEvent now .vehicleDisarmed).1 es
        (fun x _ hx => onFlightEvent_steady now x.1 x.2 hx) (by rw [hstate]; rfl)
      exact hs.state.trans hstate
    | _ =>
      refine ih ?_ ((List.mem_cons.mp hd).resolve_left (by simp)) hl'
      simp [onFlightEvent, hc, isArchiveBusy]

lemma onHeartbeat_keeps_link (m : FlightMonitor) (h : Heartbeat) : .linkLost ∉ (m.onHeartbeat h).2 := by
  simp only [FlightMonitor.onHeartbeat, FlightMonitor.detectVehicle, FlightMonitor.restoreLink,
    FlightMonitor.trackArmed]
  split_ifs <;> simp

lemma onLinkTimeout_keeps_armed (m : FlightMonitor) : .vehicleDisarmed ∉ m.onLinkTimeout.2 := by
  simp only [FlightMonitor.onLinkTimeout]
  split_ifs <;> simp

lemma hear_order (m : FlightMonitor) (heartbeat : Option Heartbeat) (fresh : Bool) :
    ∃ front back, (hear m heartbeat fresh).2 = front ++ back ∧ .linkLost ∉ front ∧ .vehicleDisarmed ∉ back := by
  cases heartbeat with
  | none =>
    refine ⟨[], _, rfl, List.not_mem_nil, ?_⟩
    cases fresh with
    | true => exact List.not_mem_nil
    | false => exact onLinkTimeout_keeps_armed m
  | some h =>
    refine ⟨_, _, rfl, onHeartbeat_keeps_link m h, ?_⟩
    cases fresh with
    | true => exact List.not_mem_nil
    | false => exact onLinkTimeout_keeps_armed _

lemma hear_one_edge {m : FlightMonitor} {heartbeat : Option Heartbeat} {fresh : Bool}
    (h : .vehicleArmed ∈ (hear m heartbeat fresh).2) : .vehicleDisarmed ∉ (hear m heartbeat fresh).2 := by
  have htimeout : ∀ m : FlightMonitor, .vehicleArmed ∉ m.onLinkTimeout.2 := by
    intro m
    simp only [FlightMonitor.onLinkTimeout]
    split_ifs <;> simp
  have hbeat : ∀ b, .vehicleArmed ∈ (m.onHeartbeat b).2 → .vehicleDisarmed ∉ (m.onHeartbeat b).2 := by
    intro b
    simp only [FlightMonitor.onHeartbeat, FlightMonitor.detectVehicle, FlightMonitor.restoreLink,
      FlightMonitor.trackArmed]
    split_ifs <;> simp
  cases heartbeat with
  | none => cases fresh <;> simp_all [hear]
  | some b => cases fresh <;> simp_all [hear, onLinkTimeout_keeps_armed]

lemma onMavlinkMessage_waitDisarm {c : Control} (heartbeat : Option Heartbeat) (now : ℤ) (fresh : Bool)
    (hc : c.state = .waitDisarm) (hd : .vehicleDisarmed ∈ (hear c.monitor heartbeat fresh).2) :
    (c.onMavlinkMessage heartbeat now fresh).1.state = .delay := by
  obtain ⟨front, back, heq, hl, hb⟩ := hear_order c.monitor heartbeat fresh
  have hdf : .vehicleDisarmed ∈ front := by
    rw [heq] at hd
    exact (List.mem_append.mp hd).resolve_right hb
  simp only [onMavlinkMessage, heq, handleAll_append]
  have hfront := handleAll_waitDisarm now (c := { c with monitor := (hear c.monitor heartbeat fresh).1 }) hc hdf hl
  have hs := steady_composes.handleAll (onFlightEvent now) _ back
    (fun x _ hx => onFlightEvent_steady now x.1 x.2 hx) (by rw [hfront]; rfl)
  exact hs.state.trans hfront

end Control

def Serving (state : State) : Prop :=
  state = .delay ∨ state = .enumerate ∨ state = .archive ∨ state = .eraseAll ∨ state = .manualDownload ∨
    state = .cleanup

/-- A disarm is emitted where the service can react to it, and a lost link is not noticed in `Cleanup` while
a disarm is pending. -/
structure Timely (c : Control) (a : Arrival) : Prop where
  disarm : .vehicleDisarmed ∈ c.emits a → c.state = .waitDisarm ∨ Serving c.state
  link : c.state = .cleanup → c.archiveRequested = true ∨ .vehicleDisarmed ∈ c.emits a → .linkLost ∉ c.emits a

namespace Control

def Pending (c : Control) : Prop := c.archiveRequested = true → Serving c.state

lemma serving_cases {state : State} (h : Serving state) : isArchiveBusy state = true ∨ state = .cleanup := by
  rcases h with h | h | h | h | h | h
  · exact Or.inl (by rw [h]; rfl)
  · exact Or.inl (by rw [h]; rfl)
  · exact Or.inl (by rw [h]; rfl)
  · exact Or.inl (by rw [h]; rfl)
  · exact Or.inl (by rw [h]; rfl)
  · exact Or.inr h

lemma receive_cleanup {c : Control} {a : Arrival} (hc : c.state = .cleanup) (hl : .linkLost ∉ c.emits a) :
    (c.receive a).1.state = .cleanup := by
  cases a with
  | message m fresh => exact handleAll_cleanup 0 hc hl
  | heartbeat h now fresh => exact handleAll_cleanup now hc hl
  | job kind ids all connected =>
    obtain ⟨cmds, cancel, hq⟩ := requestCompanionJob_queues c kind ids all connected
    rw [receive, hq]
    exact hc
  | cancel => exact hc

lemma receive_waitDisarm {c : Control} {a : Arrival} (hc : c.state = .waitDisarm)
    (hd : .vehicleDisarmed ∈ c.emits a) : (c.receive a).1.state = .delay := by
  cases a with
  | message m fresh => exact onMavlinkMessage_waitDisarm none 0 fresh hc hd
  | heartbeat h now fresh => exact onMavlinkMessage_waitDisarm (some h) now fresh hc hd
  | job kind ids all connected => cases hd
  | cancel => cases hd

lemma receive_pending {c : Control} {a : Arrival} (h : c.Pending) (ht : Timely c a) : (c.receive a).1.Pending := by
  intro hr
  rw [(receive_requested c a).1, Bool.or_eq_true, decide_eq_true_eq] at hr
  by_cases hw : c.state = .waitDisarm ∧ .vehicleDisarmed ∈ c.emits a
  · exact Or.inl (receive_waitDisarm hw.1 hw.2)
  have hs : Serving c.state := by
    rcases hr with hr | hr
    · exact h hr
    · exact (ht.disarm hr).resolve_left fun hc => hw ⟨hc, hr⟩
  have hstate : (c.receive a).1.state = c.state := by
    rcases serving_cases hs with hb | hc
    · exact (receive_steady c a hb).state
    · rw [hc]
      exact receive_cleanup hc (ht.link hc hr)
  rw [hstate]
  exact hs

lemma handleAll_receive_requested (c : Control) (as : List Arrival) :
    (handleAll receive c as).1.archiveRequested =
      (c.archiveRequested || decide (.disarmed ∈ (handleAll receive c as).2.marks)) := by
  induction as generalizing c with
  | nil => simp [handleAll]
  | cons a as ih =>
    rw [handleAll]
    simp only [ih, (receive_requested c a).1, effect_add_marks, List.mem_append, (receive_requested c a).2,
      Bool.decide_or, Bool.or_assoc]

lemma handleAll_pending {c : Control} {as : List Arrival} (h : c.Pending)
    (ht : ∀ x ∈ handling receive c as, Timely x.1 x.2) : (handleAll receive c as).1.Pending := by
  have hR : Composes (fun (c : Control) (r : Control × Effect) => c.Pending → r.1.Pending) :=
    ⟨fun c h => h, fun c r r' h h' hc => h' (h hc)⟩
  exact hR.handleAll receive c as (fun x hx hp => receive_pending hp (ht x hx)) h

end Control

namespace DroneLogService

variable {s s' : DroneLogService} {e : Event} {t : Transition DroneLogService Event}

def arrivals : Event → List Arrival
  | .arrive a => [a]
  | .work moments => moments.flatMap (·.arrivals)
  | _ => []

def handled (t : Transition DroneLogService Event) : List (Control × Arrival) :=
  handling Control.receive t.pre.control (arrivals t.event)

def drains : Event → Bool
  | .drain _ => true
  | _ => false

/-- All arrivals of the step are timely, and it does not take a refresh or an erase off the queue while a
disarm is pending. -/
structure Attended (t : Transition DroneLogService Event) : Prop where
  timely : ∀ x ∈ handled t, Timely x.1 x.2
  command : drains t.event = true → t.pre.control.archiveRequested = true →
    t.pre.control.commands.head? ≠ some .refreshLogs ∧ t.pre.control.commands.head? ≠ some .eraseAllLogs

structure Accounted (s : DroneLogService) : Prop where
  request : s.control.archiveRequested = unserved s.trace
  pending : s.control.Pending

lemma mem_of_events {l l' : List Action} (h : events l = events l') {a : Action} (ha : a.isEvent = true) :
    a ∈ l ↔ a ∈ l' := by
  have hiff : ∀ l : List Action, a ∈ l ↔ a ∈ events l := fun l => by simp [events, ha]
  rw [hiff l, h, ← hiff l']

lemma work_accounted {ms : List Moment} (hI : Accounted s) (h : Works s ms s')
    (ht : ∀ x ∈ handling Control.receive s.control (ms.flatMap (·.arrivals)), Timely x.1 x.2) : Accounted s' := by
  -- a request after the task is due to an older disarm or to one among the arrivals of the task
  obtain ⟨ext, htrace, hlast, hev⟩ := work_trace h
  have hext : ∀ a ∈ ext, a ≠ .consume ∧ a ≠ .restart := by
    intro a ha
    constructor <;> rintro rfl <;> exact hlast _ ha
  have hpend := Control.handleAll_pending hI.pending ht
  have hreq := Control.handleAll_receive_requested s.control (ms.flatMap (·.arrivals))
  have hstate := fun hb => (Control.handleAll_steady s.control (ms.flatMap (·.arrivals)) hb).state
  have hmain : (handleAll Control.receive s.control (ms.flatMap (·.arrivals))).1.archiveRequested =
      unserved s'.trace := by
    rw [hreq, htrace, unserved_append s.trace hext, hI.request, decide_eq_decide.mpr (mem_of_events hev rfl)]
  have hidle : (s.control.state = .manualRefresh ∨ s.control.state = .manualErase) →
      (handleAll Control.receive s.control (ms.flatMap (·.arrivals))).1.archiveRequested = false := by
    intro hst
    rw [Bool.eq_false_iff]
    intro hr
    have hs := hpend hr
    rw [hstate (by rcases hst with h | h <;> rw [h] <;> rfl)] at hs
    rcases hst with h | h <;> simp [Serving, h] at hs
  cases h with
  | archive logs result sm hst hp hd hc =>
    rw [← hp.control] at hmain
    refine ⟨by rw [hc]; exact hmain, fun _ => ?_⟩
    rw [hc]
    simp only [Serving]
    split_ifs <;> simp
  | eraseAll sm hst hp hd hc =>
    rw [← hp.control] at hmain
    refine ⟨by rw [hc]; exact hmain, fun _ => ?_⟩
    simp [hc, Serving]
  | manualDownload logs result sm hst hp hd hc =>
    rw [← hp.control] at hmain
    refine ⟨by rw [hc]; exact hmain, fun _ => ?_⟩
    simp [hc, Serving]
  | manualRefresh logs sm hst hp hd hc =>
    have hno := hidle (Or.inl hst)
    rw [← hp.control] at hmain hno
    refine ⟨by rw [hc]; exact hmain, fun hr => ?_⟩
    rw [hc] at hr
    exact absurd (hno.symm.trans hr) (by simp)
  | manualErase ok sm hst hp hd hc =>
    have hcontrol : sm.control = _ := hp.control
    have hno := hidle (Or.inr hst)
    rw [resetCancel] at hcontrol
    rw [← hcontrol] at hmain hno
    refine ⟨by rw [hc]; exact hmain, fun hr => ?_⟩
    rw [hc] at hr
    exact absurd (hno.symm.trans hr) (by simp)

lemma arrive_accounted (hI : Accounted s) {a : Arrival} (ht : Timely s.control a) : Accounted (s.arrive a) := by
  refine ⟨?_, Control.receive_pending hI.pending ht⟩
  obtain ⟨hr, hm⟩ := Control.receive_requested s.control a
  have htrace : (s.arrive a).trace = s.trace ++ (s.control.receive a).2.marks := rfl
  have hnot : ∀ x ∈ (s.control.receive a).2.marks, x ≠ .consume ∧ x ≠ .restart := by
    intro x hx
    have hi := Control.receive_marks s.control a x hx
    constructor <;> rintro rfl <;> exact hi
  rw [htrace, unserved_append s.trace hnot, ← hI.request, decide_eq_decide.mpr hm]
  exact hr

lemma accounted_mark (marks : List Action) (hI : Accounted s) (hm : ∀ a ∈ marks, a = .hit ∨ a = .job ∨ a = .reconnect)
    (ht : s'.trace = s.trace ++ marks) (hr : s'.control.archiveRequested = s.control.archiveRequested)
    (hp : s'.control.Pending) : Accounted s' := by
  refine ⟨?_, hp⟩
  rw [hr, hI.request, ht, unserved_append]
  · have hno : .disarmed ∉ marks := fun h => by rcases hm _ h with h | h | h <;> cases h
    simp [hno]
  · intro a ha
    rcases hm a ha with rfl | rfl | rfl <;> simp

lemma drain_accounted (hI : Accounted s) (connected : Bool) (hc : s.control.archiveRequested = true →
      s.control.commands.head? ≠ some .refreshLogs ∧ s.control.commands.head? ≠ some .eraseAllLogs) :
    Accounted (s.drain connected) := by
  rw [drain]
  split
  · exact ⟨hI.request, hI.pending⟩
  · rename_i cmd cmds hq
    rw [hq] at hc
    cases cmd with
    | startArchive =>
      rw [drainCommand]
      split_ifs
      · exact ⟨hI.request, hI.pending⟩
      · refine ⟨?_, fun h => by cases h⟩
        have htrace : unserved (s.trace ++ [.consume, .job]) = false := by
          rw [List.append_cons, unserved_snoc, unserved_snoc]
        exact htrace.symm
    | cancelArchive =>
      refine accounted_mark _ hI ?_ rfl rfl hI.pending
      intro a ha
      rcases hits_cases s.control.state with h | h <;> simp [h] at ha
      exact Or.inl ha
    | refreshLogs =>
      refine accounted_mark [.job] hI (by simp) rfl rfl fun hr => ?_
      exact absurd rfl (hc hr).1
    | downloadLogs ids all =>
      refine accounted_mark [.job] hI (by simp) rfl rfl fun hr => ?_
      exact Or.inr (Or.inr (Or.inr (Or.inr (Or.inl rfl))))
    | eraseAllLogs =>
      refine accounted_mark [.job] hI (by simp) rfl rfl fun hr => ?_
      exact absurd rfl (hc hr).2

lemma turn_accounted {r : Reading} (hI : Accounted s) (h : s.turn r = some s') : Accounted s' := by
  cases turn_cases h with
  | stay h =>
    subst h
    exact hI
  | move state stale hm _ h =>
    subst h
    refine ⟨hI.request, fun hr => ?_⟩
    have hs := hI.pending hr
    dsimp only
    rcases hs with h | h | h | h | h | h <;> rw [h] at hm <;> cases state <;> simp_all [Moves, Serving]
  | beginCycle _ h =>
    subst h
    refine ⟨?_, fun h => by cases h⟩
    exact (unserved_snoc s.trace .consume).symm
  | cleanup hst h =>
    subst h
    have hrequest : (s.cleanup r).control.archiveRequested = s.control.archiveRequested := by
      rw [cleanup_control]
      split_ifs <;> rfl
    refine accounted_mark _ hI (fun a ha => ?_) (cleanup_trace s r) hrequest fun hr => ?_
    · exact Or.inr (cleanup_actions (evaluateArchiveOutcome_actions _ _ _ _) ha).symm
    · rw [cleanup_state, ← hrequest, hr]
      exact Or.inl rfl

lemma step_accounted (hI : Accounted s) (h : s.step e = some s') (ht : Attended ⟨s, e, s'⟩) : Accounted s' := by
  cases e with
  | arrive a =>
    obtain rfl := Option.some.inj h
    exact arrive_accounted hI (ht.timely (s.control, a) (by simp [handled, arrivals, handling]))
  | drain connected =>
    simp only [step] at h
    split_ifs at h
    obtain rfl := Option.some.inj h
    exact drain_accounted hI connected (ht.command rfl)
  | turn r =>
    simp only [step] at h
    split_ifs at h
    obtain ⟨s₁, h₁, rfl⟩ := Option.map_eq_some_iff.mp h
    obtain ⟨hr, hp⟩ := turn_accounted hI h₁
    exact ⟨hr, hp⟩
  | work ms => exact work_accounted hI (step_work h).1 ht.timely
  | restart config =>
    obtain rfl := Option.some.inj h
    exact ⟨(unserved_snoc s.trace .restart).symm, fun h => by cases h⟩

theorem disarm_not_lost (config : Settings) (storage : StorageManager) (database : Database)
    (ts : List (Transition DroneLogService Event)) (s : DroneLogService)
    (hrun : Run step (start config storage database []) ts s) (hts : ∀ t ∈ ts, Attended t)
    (hu : unserved s.trace = true) :
    s.control.state = .delay ∨ (s.control.archiveRequested = true ∧
      (s.control.state = .enumerate ∨ s.control.state = .archive ∨ s.control.state = .eraseAll ∨
        s.control.state = .manualDownload ∨ s.control.state = .cleanup)) := by
  have hI : Accounted s := by
    apply hrun.invariant Attended Accounted
    · exact ⟨rfl, fun h => by cases h⟩
    · intro s e s' hI hstep hatt
      exact step_accounted hI hstep hatt
    · exact hts
  have hr : s.control.archiveRequested = true := hI.request.trans hu
  rcases hI.pending hr with h | h
  · exact Or.inl h
  · exact Or.inr ⟨hr, h⟩

instance (c : Control) (a : Arrival) : Decidable (Timely c a) :=
  decidable_of_iff
    ((.vehicleDisarmed ∈ c.emits a → c.state = .waitDisarm ∨ c.state = .delay ∨ c.state = .enumerate ∨
        c.state = .archive ∨ c.state = .eraseAll ∨ c.state = .manualDownload ∨ c.state = .cleanup) ∧
      (c.state = .cleanup → c.archiveRequested = true ∨ .vehicleDisarmed ∈ c.emits a → .linkLost ∉ c.emits a))
    ⟨fun h => ⟨h.1, h.2⟩, fun h => ⟨h.1, h.2⟩⟩

instance (t : Transition DroneLogService Event) : Decidable (Attended t) :=
  decidable_of_iff
    ((∀ x ∈ handled t, Timely x.1 x.2) ∧ (drains t.event = true → t.pre.control.archiveRequested = true →
      t.pre.control.commands.head? ≠ some .refreshLogs ∧ t.pre.control.commands.head? ≠ some .eraseAllLogs))
    ⟨fun h => ⟨h.1, h.2⟩, fun h => ⟨h.1, h.2⟩⟩

def secondFlight : List Event :=
  toArchive ++ [.drain true, .work ({ arrivals := [beat true 7000, beat false 7001] } :: List.replicate 3 calm)]

theorem disarm_not_lost_second_flight :
    ∃ x, Run.exec step (start sampleConfig {} {} []) secondFlight = some x ∧ unserved x.2.trace = true ∧
      x.2.control.state = .cleanup ∧ (x.2.control.state = .delay ∨ x.2.control.archiveRequested = true) := by
  refine exists_of_any (fun x => unserved x.2.trace = true ∧ x.2.control.state = .cleanup ∧ ∀ t ∈ x.1, Attended t)
    (by decide +kernel) ?_
  rintro x hx ⟨hu, hst, hatt⟩
  have hserved := disarm_not_lost sampleConfig {} {} x.1 x.2 (Run.of_exec hx) hatt hu
  exact ⟨hu, hst, hserved.imp id And.left⟩

/-- The service starts in flight: the first heartbeat is taken as the state of things, `WaitHeartbeat` goes to
`WaitArm`, and the landing finds the service there. -/
theorem landing_missed :
    ∃ x, Run.exec step (start sampleConfig {} {} [])
        [.drain true, .turn {}, .drain true, .turn {}, .arrive (beat true 0), .drain true, .turn {},
          .arrive (beat false 1), .drain true, .turn {}] = some x ∧
      unserved x.2.trace = true ∧ x.2.control.state = .waitArm := by
  exact exists_of_any (fun x => unserved x.2.trace = true ∧ x.2.control.state = .waitArm) (by decide +kernel)
    fun _ _ h => h

end DroneLogService

end MavlinkLogService.Service
