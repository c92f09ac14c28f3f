import MavlinkLogService.Service.PendingDisarm

/-! Cancellation: what a job may still send once an arming or an `archive.cancel` has hit it. -/

namespace MavlinkLogService.Service

open Archive Archive.LogDownloader Library Session Storage

/-- What a history says about the job in progress: `hit` if an event has hit it, `cycle` if it is the cycle of
a disarm, `flown` if the vehicle was armed since that disarm. `aloft` is an arming since the last disarm. -/
structure Alarm where
  aloft : Bool := false
  cycle : Bool := false
  flown : Bool := false
  hit : Bool := false
  deriving DecidableEq, Repr

def Alarm.see (w : Alarm) : Action → Alarm
  | .armed => { w with aloft := true, flown := w.flown || w.cycle }
  | .disarmed => { w with aloft := false }
  | .hit => { w with hit := true }
  | .consume => { w with cycle := true, flown := w.aloft }
  | .job => { w with cycle := false, flown := false, hit := false }
  | .restart => {}
  | _ => w

lemma foldl_reconnects (n : ℕ) (w : Alarm) : (List.replicate n Action.reconnect).foldl Alarm.see w = w := by
  induction n with
  | zero => rfl
  | succ n ih => exact ih

structure Watch extends Alarm where
  begun : List UInt16 := []
  deriving DecidableEq, Repr

namespace Watch

def see (w : Watch) (a : Action) : Watch where
  toAlarm := w.toAlarm.see a
  begun := match a with
    | .begin entry => if w.hit then w.begun else entry.id :: w.begun
    | .job | .restart => []
    | _ => w.begun

def permits (w : Watch) : Action → Prop
  | .request .erase => w.hit = false ∧ w.flown = false
  | .request (.data id _ _) => w.hit = true → id ∈ w.begun
  | _ => True

end Watch

def cancellation : Monitor Watch Action := ⟨Watch.see, Watch.permits⟩

def watch (l : List Action) : Watch := cancellation.after {} l

lemma watch_append (l l' : List Action) : watch (l ++ l') = cancellation.after (watch l) l' :=
  cancellation.after_append {} l l'

lemma after_alarm (w : Watch) (l : List Action) : (cancellation.after w l).toAlarm = l.foldl Alarm.see w.toAlarm := by
  induction l generalizing w with
  | nil => rfl
  | cons a l ih => exact ih (w.see a)

lemma alarm_events {l : List Action} (h : ∀ a ∈ l, DroneLogService.Lasting a) (w : Alarm) :
    l.foldl Alarm.see w = (events l).foldl Alarm.see w := by
  induction l generalizing w with
  | nil => rfl
  | cons a l ih =>
    have hrest := ih fun x hx => h x (List.mem_cons_of_mem a hx)
    have ha := h a List.mem_cons_self
    rw [List.foldl_cons, hrest]
    cases a with
    | job => exact ha.elim
    | consume => exact ha.elim
    | restart => exact ha.elim
    | _ => rfl

lemma alarm_silent {l : List Action} {w : Alarm} (hl : ∀ a ∈ l, a = .armed ∨ a = .disarmed ∨ a = .hit)
    (hhit : .hit ∉ l) (harm : w.cycle = false ∨ .armed ∉ l) :
    (l.foldl Alarm.see w).hit = w.hit ∧ (l.foldl Alarm.see w).flown = w.flown := by
  induction l generalizing w with
  | nil => exact ⟨rfl, rfl⟩
  | cons a l ih =>
    have hrest := fun w' h' => ih (w := w') (fun x hx => hl x (List.mem_cons_of_mem a hx))
      (fun h => hhit (List.mem_cons_of_mem a h)) h'
    rcases hl a List.mem_cons_self with rfl | rfl | rfl
    · have hc : w.cycle = false := harm.resolve_right (by simp)
      obtain ⟨h₁, h₂⟩ := hrest (w.see .armed) (Or.inl hc)
      exact ⟨h₁, by rw [List.foldl_cons, h₂]; simp [Alarm.see, hc]⟩
    · exact hrest (w.see .disarmed) (harm.imp id fun h h' => h (List.mem_cons_of_mem _ h'))
    · exact absurd List.mem_cons_self hhit

def running (state : State) : Bool := interruptible state && state != .delay

structure Guarded (c : Control) (w : Alarm) (cancel : Bool) : Prop where
  alarm : w.hit = true ∨ w.flown = true → running c.state = true → cancel = true
  delay : c.state = .delay → c.archiveRequested = true ∧ w.hit = false
  request : c.archiveRequested = true → w.aloft = false
  erase : c.state = .manualErase → w.hit = false ∧ w.cycle = false ∧ w.flown = false

lemma Guarded.of_idle {c : Control} {w : Alarm} {cancel : Bool} (h : isArchiveBusy c.state = false)
    (hr : c.archiveRequested = true → w.aloft = false) : Guarded c w cancel := by
  refine ⟨?_, ?_, hr, ?_⟩
  · intro _ hrun
    simp [running, interruptible, h] at hrun
  · intro hc
    simp [hc, isArchiveBusy] at h
  · intro hc
    simp [hc, isArchiveBusy] at h

lemma Guarded.raise {c : Control} {w : Alarm} {cancel : Bool} (h : Guarded c w cancel) (x : Bool) :
    Guarded c w (cancel || x) :=
  ⟨fun hw hr => by simp [h.alarm hw hr], h.delay, h.request, h.erase⟩

def Guards (c : Control) (r : Control × Effect) : Prop :=
  ∀ w cancel, Guarded c w cancel → Guarded r.1 (r.2.marks.foldl Alarm.see w) (cancel || r.2.cancel)

lemma guards_composes : Composes Guards := by
  refine ⟨fun c w cancel h => h.raise false, ?_⟩
  intro c r r' h h' w cancel hw
  have hr := h' _ _ (h w cancel hw)
  simpa [List.foldl_append, Bool.or_assoc] using hr

namespace Control

lemma onFlightEvent_guards (now : ℤ) (c : Control) (e : FlightMonitor.Event)
    (he : e = .vehicleArmed → c.archiveRequested = false) : Guards c (c.onFlightEvent now e) := by
  intro w cancel h
  cases e with
  | vehicleDetected => exact h.raise false
  | vehicleArmed =>
    have hreq := he rfl
    simp only [onFlightEvent]
    split_ifs with hst hb
    · exact Guarded.of_idle rfl fun hr => by simp [hreq] at hr
    · refine ⟨by simp, ?_, fun hr => by simp [hreq] at hr, ?_⟩
      · intro hc
        exact absurd (h.delay hc).1 (by simp [hreq])
      · intro hc
        have hc' : c.state = .manualErase := hc
        obtain ⟨h₁, h₂, h₃⟩ := h.erase hc'
        simp [hits, interruptible, hc', Alarm.see, h₁, h₂, h₃]
    · exact Guarded.of_idle (by simpa using hb) fun hr => by simp [hreq] at hr
  | vehicleDisarmed =>
    simp only [onFlightEvent]
    split_ifs with hst hb
    · exact ⟨fun _ hr => by simp [running] at hr, fun _ => ⟨rfl, rfl⟩, fun _ => rfl, fun hc => by cases hc⟩
    · exact ⟨by simp, fun hc => ⟨rfl, (h.delay hc).2⟩, fun _ => rfl, h.erase⟩
    · exact Guarded.of_idle (by simpa using hb) fun _ => rfl
  | linkLost =>
    simp only [onFlightEvent, handleConnectionLost]
    split_ifs with hb
    · exact h.raise false
    · exact h.raise false
    · exact Guarded.of_idle rfl h.request
  | linkRestored =>
    simp only [onFlightEvent]
    split_ifs
    · exact Guarded.of_idle rfl h.request
    · exact h.raise false

lemma handling_requested {now : ℤ} {c : Control} {es : List FlightMonitor.Event} (hd : .vehicleDisarmed ∉ es)
    {x : Control × FlightMonitor.Event} (hx : x ∈ handling (onFlightEvent now) c es) :
    x.1.archiveRequested = c.archiveRequested := by
  induction es generalizing c with
  | nil => cases hx
  | cons e es ih =>
    rcases List.mem_cons.mp hx with rfl | hx
    · rfl
    · have hone := (handleAll_requested now c [e]).1
      have hne : .vehicleDisarmed ∉ [e] := fun h => hd (List.mem_cons.mpr (Or.inl (List.mem_singleton.mp h)))
      rw [decide_eq_false hne, Bool.or_false] at hone
      exact (ih (fun h => hd (List.mem_cons_of_mem e h)) hx).trans hone

lemma onMavlinkMessage_guards {c : Control} (heartbeat : Option Heartbeat) (now : ℤ) (fresh : Bool)
    (ha : .vehicleArmed ∈ (hear c.monitor heartbeat fresh).2 → c.archiveRequested = false) :
    Guards c (c.onMavlinkMessage heartbeat now fresh) := by
  intro w cancel h
  refine guards_composes.handleAll (onFlightEvent now) { c with monitor := (hear c.monitor heartbeat fresh).1 }
    (hear c.monitor heartbeat fresh).2 ?_ w cancel ⟨h.alarm, h.delay, h.request, h.erase⟩
  intro x hx
  apply onFlightEvent_guards
  intro hx'
  have harm : .vehicleArmed ∈ (hear c.monitor heartbeat fresh).2 := hx' ▸ mem_of_handling hx
  exact (handling_requested (hear_one_edge harm) hx).trans (ha harm)

lemma receive_guards {c : Control} {a : Arrival} (ha : .vehicleArmed ∈ c.emits a → c.archiveRequested = false)
    (hc : a = .cancel → c.state ≠ .delay) : Guards c (c.receive a) := by
  cases a with
  | message m fresh => exact onMavlinkMessage_guards none 0 fresh ha
  | heartbeat h now fresh => exact onMavlinkMessage_guards (some h) now fresh ha
  | job kind ids all connected =>
    obtain ⟨cmds, cancel, hq⟩ := requestCompanionJob_queues c kind ids all connected
    rw [receive, hq]
    intro w k h
    exact ⟨(h.raise cancel).alarm, h.delay, h.request, h.erase⟩
  | cancel =>
    intro w k h
    refine ⟨by simp [receive], fun hst => absurd hst (hc rfl), ?_, ?_⟩
    · intro hr
      rcases hits_cases c.state with hh | hh
      · simpa [receive, hh] using h.request hr
      · simpa [receive, hh, Alarm.see] using h.request hr
    · intro hst
      have hst' : c.state = .manualErase := hst
      simpa [receive, hits, interruptible, hst'] using h.erase hst'

lemma receive_unhit {c : Control} {a : Arrival} (ha : .vehicleArmed ∉ c.emits a) (hc : a ≠ .cancel) :
    .hit ∉ (c.receive a).2.marks := by
  have hR : Composes (fun (_ : Control) (r : Control × Effect) => .hit ∉ r.2.marks) := by
    refine ⟨fun _ => by simp, ?_⟩
    intro c r r' h h' hm
    exact (List.mem_append.mp hm).elim h h'
  have hevent : ∀ now (x : Control) e, e ≠ .vehicleArmed → .hit ∉ (x.onFlightEvent now e).2.marks := by
    intro now x e he
    cases e with
    | vehicleArmed => exact absurd rfl he
    | vehicleDisarmed =>
      simp only [onFlightEvent]
      split_ifs <;> simp
    | _ => simp [onFlightEvent]
  have hmessage : ∀ heartbeat now fresh, .vehicleArmed ∉ (hear c.monitor heartbeat fresh).2 →
      .hit ∉ (c.onMavlinkMessage heartbeat now fresh).2.marks := by
    intro heartbeat now fresh hn
    refine hR.handleAll _ _ _ fun x hx => hevent now x.1 x.2 ?_
    rintro hx'
    exact hn (hx' ▸ mem_of_handling hx)
  cases a with
  | message m fresh => exact hmessage none 0 fresh ha
  | heartbeat h now fresh => exact hmessage (some h) now fresh ha
  | job kind ids all connected =>
    obtain ⟨cmds, cancel, hq⟩ := requestCompanionJob_queues c kind ids all connected
    rw [receive, hq]
    simp
  | cancel => exact absurd rfl hc

lemma handleAll_unhit {c : Control} {as : List Arrival}
    (h : ∀ x ∈ handling receive c as, .vehicleArmed ∉ x.1.emits x.2 ∧ x.2 ≠ .cancel) :
    .hit ∉ (handleAll receive c as).2.marks := by
  have hR : Composes (fun (_ : Control) (r : Control × Effect) => .hit ∉ r.2.marks) := by
    refine ⟨fun _ => by simp, ?_⟩
    intro c r r' h h' hm
    exact (List.mem_append.mp hm).elim h h'
  exact hR.handleAll _ _ _ fun x hx => receive_unhit (h x hx).1 (h x hx).2

end Control

def Harmless (ids : List UInt16) : Action → Prop
  | .job | .consume | .restart | .request .erase => False
  | .request (.data id _ _) => id ∈ ids
  | _ => True

structure Sound (d : LogDownloader) : Prop where
  accepts : cancellation.Accepts {} d.trace
  flag : (watch d.trace).hit = true → d.inbox.cancelRequested = true

lemma harmless_see {ids : List UInt16} {w : Watch} {a : Action} (hw : ids ⊆ w.begun) (ha : Harmless ids a) :
    w.permits a ∧ ids ⊆ (w.see a).begun ∧ ((w.see a).hit = true → w.hit = true ∨ a = .hit) := by
  cases a with
  | job => exact ha.elim
  | consume => exact ha.elim
  | restart => exact ha.elim
  | hit => exact ⟨trivial, hw, fun _ => Or.inr rfl⟩
  | request r =>
    cases r with
    | erase => exact ha.elim
    | data id offset count => exact ⟨fun _ => hw ha, hw, Or.inl⟩
    | list => exact ⟨trivial, hw, Or.inl⟩
    | finish => exact ⟨trivial, hw, Or.inl⟩
  | begin entry =>
    refine ⟨trivial, ?_, Or.inl⟩
    simp only [Watch.see]
    split_ifs
    · exact hw
    · exact List.subset_cons_of_subset _ hw
  | _ => exact ⟨trivial, hw, Or.inl⟩

lemma Sound.later {H : Promise} {R : Action → Prop} {ids : List UInt16} {d d' : LogDownloader} (h : Sound d)
    (hl : Later H R d d') (hids : ids ⊆ (watch d.trace).begun) (hR : ∀ a, R a → Harmless ids a) :
    Sound d' ∧ ids ⊆ (watch d'.trace).begun := by
  obtain ⟨ext, ht, hext, hhit⟩ := hl.trace
  have hstep : ∀ w a, ids ⊆ w.begun ∧ (w.hit = true → (watch d.trace).hit = true ∨ .hit ∈ ext) →
      Harmless ids a ∧ a ∈ ext → cancellation.permits w a ∧ ids ⊆ (cancellation.see w a).begun ∧
        ((cancellation.see w a).hit = true → (watch d.trace).hit = true ∨ .hit ∈ ext) := by
    rintro w a ⟨hw, hwhit⟩ ⟨ha, hmem⟩
    obtain ⟨hp, hb, hh⟩ := harmless_see hw ha
    refine ⟨hp, hb, fun hs => ?_⟩
    rcases hh hs with hh | rfl
    · exact hwhit hh
    · exact Or.inr hmem
  obtain ⟨hacc, hbegun, hflag⟩ := Monitor.keeps (w := watch d.trace) (l := ext) _ _ hstep
    (fun a ha => ⟨hR a (hext a ha), ha⟩) ⟨hids, Or.inl⟩
  rw [← watch_append, ← ht] at hbegun hflag
  refine ⟨⟨?_, ?_⟩, hbegun⟩
  · rw [ht]
    exact h.accepts.append hacc
  · intro hw
    exact (hflag hw).elim (fun hw => hl.cancel (h.flag hw)) hhit

lemma harmless_of_routine {ids : List UInt16} {P : UInt16 → Prop} (hP : ∀ id, P id → id ∈ ids) {a : Action}
    (h : Routine P a) : Harmless ids a := by
  cases a with
  | request r =>
    cases r with
    | data id offset count => exact hP id h
    | erase => exact h
    | _ => trivial
  | job => exact h
  | consume => exact h
  | restart => exact h
  | _ => trivial

lemma Sound.quiet {H : Promise} {d d' : LogDownloader} (h : Sound d) (hq : Quiet H (fun _ => False) d d') :
    Sound d' :=
  (h.later hq.later (List.nil_subset _) fun _ ha => harmless_of_routine (fun _ hf => hf.elim) ha).1

lemma Sound.noted {a : Action} {d : LogDownloader} (h : Sound d) (ha : Harmless [] a) (he : a.isEvent = false) :
    Sound (noted a d) :=
  (h.later (noted_later (H := {}) (R := (· = a)) rfl he d) (List.nil_subset _) fun _ hx => hx ▸ ha).1

lemma Sound.chain {H : Promise} {settings : Settings} {d d' : LogDownloader}
    {done : List (LogEntry × ArchiveResult)} (h : Sound d) (hc : Chain H settings d done d') : Sound d' := by
  -- the flag is down when the loop turns to a log, so nothing has hit the job before
  induction hc with
  | stop hq => exact h.quiet hq
  | @log d d₁ d₂ d' entry res done hq hflag ho _ ih =>
    have h₁ := h.quiet hq
    have hhit : (watch d₁.trace).hit = false := by
      rw [Bool.eq_false_iff]
      intro hw
      exact absurd (h₁.flag hw) (by simp [hflag])
    have hbegun : [entry.id] ⊆ (watch (LogDownloader.noted (.begin entry) d₁).trace).begun := by
      simp only [LogDownloader.noted, watch_append]
      simp [Monitor.after, cancellation, Watch.see, hhit]
    apply ih
    refine Sound.noted (a := .outcome entry res) ?_ trivial rfl
    refine ((h₁.noted (a := .begin entry) trivial rfl).later ho.later hbegun ?_).1
    rintro a (ha | ⟨path, rfl⟩)
    · exact harmless_of_routine (by simp) ha
    · trivial

lemma Sound.enumerates {H : Promise} {d d' : LogDownloader} {logs : List LogEntry} (h : Sound d)
    (he : Enumerates H d d' logs) : Sound d' := by
  obtain ⟨mid, order, hq, _, _, rfl⟩ := he.step
  have hmid := h.quiet hq
  have hnoted := (hmid.noted (a := .enumerated mid.inbox.pendingEntries logs) trivial rfl).noted
    (a := .request .finish) trivial rfl
  simpa [LogDownloader.noted] using hnoted

namespace DroneLogService

variable {s s' : DroneLogService} {e : Event} {t : Transition DroneLogService Event} {ms : List Moment}

def untested (t : Transition DroneLogService Event) : List (Control × Arrival) :=
  match t.event with
  | .work (m :: ms) =>
    handling Control.receive (handleAll Control.receive t.pre.control m.arrivals).1 (ms.flatMap (·.arrivals))
  | _ => []

/-- The vehicle is armed only while no request is pending, `archive.cancel` is not handled in `Delay`, and
neither happens between the test of the flag in `EraseAll` and the erase. -/
structure Prudent (t : Transition DroneLogService Event) : Prop where
  armed : ∀ x ∈ handled t, .vehicleArmed ∈ x.1.emits x.2 → x.1.archiveRequested = false
  cancel : ∀ x ∈ handled t, x.2 = .cancel → x.1.state ≠ .delay
  command : drains t.event = true → t.pre.control.state = .delay →
    t.pre.control.commands.head? ≠ some .cancelArchive
  erase : t.pre.control.state = .eraseAll → ∀ x ∈ untested t, .vehicleArmed ∉ x.1.emits x.2 ∧ x.2 ≠ .cancel

structure Cautious (s : DroneLogService) : Prop where
  accepts : cancellation.Accepts {} s.trace
  guarded : Guarded s.control (watch s.trace).toAlarm s.downloader.inbox.cancelRequested

lemma steady_events {c : Control} {r : Control × Effect} (h : Steady c r) : events r.2.marks = r.2.marks := by
  apply List.filter_eq_self.mpr
  intro a ha
  rcases h.marks a ha with rfl | rfl | rfl <;> rfl

lemma work_alarm (h : Works s ms s') : (watch s'.trace).toAlarm =
    (handleAll Control.receive s.control (ms.flatMap (·.arrivals))).2.marks.foldl Alarm.see
      (watch s.trace).toAlarm := by
  obtain ⟨ext, ht, hlast, hev⟩ := work_trace h
  rw [ht, watch_append, after_alarm, alarm_events hlast, hev,
    steady_events (Control.handleAll_steady s.control _ h.busy)]

lemma work_guarded (hI : Guarded s.control (watch s.trace).toAlarm s.downloader.inbox.cancelRequested)
    (h : Works s ms s')
    (hts : ∀ x ∈ handling Control.receive s.control (ms.flatMap (·.arrivals)),
      (.vehicleArmed ∈ x.1.emits x.2 → x.1.archiveRequested = false) ∧ (x.2 = .cancel → x.1.state ≠ .delay)) :
    Guarded s'.control (watch s'.trace).toAlarm s'.downloader.inbox.cancelRequested := by
  have hall := guards_composes.handleAll Control.receive s.control (ms.flatMap (·.arrivals))
    (fun x hx => Control.receive_guards (hts x hx).1 (hts x hx).2) _ _ hI
  have hstate := (Control.handleAll_steady s.control (ms.flatMap (·.arrivals)) h.busy).state
  rw [← work_alarm h] at hall
  cases h with
  | archive logs result sm hst hp hd hc =>
    rw [← hp.control] at hall hstate
    have hk := hp.heard.2
    rw [← hk, ← hd] at hall
    rw [hc]
    split_ifs
    · refine ⟨fun hw _ => hall.alarm hw ?_, (fun h => by cases h), hall.request, (fun h => by cases h)⟩
      rw [hstate, hst]
      rfl
    · exact Guarded.of_idle rfl hall.request
  | eraseAll sm hst hp hd hc =>
    rw [← hp.control] at hall
    rw [hc]
    exact Guarded.of_idle rfl hall.request
  | manualRefresh logs sm hst hp hd hc =>
    rw [← hp.control] at hall
    rw [hc]
    refine Guarded.of_idle ?_ hall.request
    simp only [Control.returnToIdleState]
    split_ifs <;> rfl
  | manualDownload logs result sm hst hp hd hc =>
    rw [← hp.control] at hall
    rw [hc]
    exact Guarded.of_idle rfl hall.request
  | manualErase ok sm hst hp hd hc =>
    have hcontrol : sm.control = _ := hp.control
    rw [resetCancel] at hcontrol
    rw [← hcontrol] at hall
    rw [hc]
    refine Guarded.of_idle ?_ hall.request
    simp only [Control.returnToIdleState]
    split_ifs <;> rfl

lemma accepts_signals (w : Watch) {l : List Action} (h : ∀ a ∈ l, Signal a) : cancellation.Accepts w l := by
  refine (Monitor.keeps (fun _ => True) Signal ?_ h trivial).1
  intro w a _ ha
  refine ⟨?_, trivial⟩
  cases a with
  | request r => exact ha.elim
  | _ => trivial

lemma accepts_erase {w : Watch} (h₁ : w.hit = false) (h₂ : w.flown = false) :
    cancellation.Accepts w [.request .erase] := by
  intro n a ha
  cases n with
  | zero =>
    obtain rfl := Option.some.inj ha
    exact ⟨h₁, h₂⟩
  | succ n => cases ha

lemma steady_signals {c : Control} {r : Control × Effect} (h : Steady c r) : ∀ a ∈ r.2.marks, Signal a := by
  intro a ha
  rcases h.marks a ha with rfl | rfl | rfl <;> trivial

lemma eraseAll_accepts (hI : Cautious s) (hst : s.control.state = .eraseAll) {sm : DroneLogService}
    (hp : Performs s ms (eraseUnlessCancelled s.config) () sm)
    (hun : ∀ x ∈ untested ⟨s, .work ms, sm⟩, .vehicleArmed ∉ x.1.emits x.2 ∧ x.2 ≠ .cancel) :
    cancellation.Accepts {} sm.trace := by
  have hb : isArchiveBusy s.control.state = true := by rw [hst]; rfl
  cases eraseAll_history hp with
  | skipped m ms _ ht =>
    rw [ht]
    exact hI.accepts.append (accepts_signals _ (steady_signals (Control.handleAll_steady s.control m.arrivals hb)))
  | sent m m' hflag ht =>
    have h₁ := Control.handleAll_steady s.control m.arrivals hb
    have hb' : isArchiveBusy (handleAll Control.receive s.control m.arrivals).1.state = true := by rwa [h₁.state]
    have h₂ := Control.handleAll_steady _ m'.arrivals hb'
    obtain ⟨hclear, hquiet⟩ : s.downloader.inbox.cancelRequested = false ∧
        (handleAll Control.receive s.control m.arrivals).2.cancel = false := by
      simpa [flagAtTest, deliver, Inbox.deliver_cancel, Moment.tick] using hflag
    have hhit₁ : .hit ∉ (handleAll Control.receive s.control m.arrivals).2.marks := by
      intro hm
      simp [h₁.cancel hm] at hquiet
    have hhit₂ : .hit ∉ (handleAll Control.receive (handleAll Control.receive s.control m.arrivals).1
        m'.arrivals).2.marks := by
      apply Control.handleAll_unhit
      simpa [untested] using hun
    have harm₁ := fun hm => hhit₁ (h₁.armed (by rw [hst]; rfl) hm)
    have harm₂ := fun hm => hhit₂ (h₂.armed (by rw [h₁.state, hst]; rfl) hm)
    obtain ⟨hw, hw'⟩ : (watch s.trace).hit = false ∧ (watch s.trace).flown = false := by
      have halarm := fun hw => hI.guarded.alarm hw (by rw [hst]; rfl)
      rw [hclear] at halarm
      exact ⟨by simpa using fun h => halarm (Or.inl h), by simpa using fun h => halarm (Or.inr h)⟩
    obtain ⟨hs, hs'⟩ := alarm_silent (w := (watch s.trace).toAlarm) h₁.marks hhit₁ (Or.inr harm₁)
    rw [← after_alarm] at hs hs'
    obtain ⟨hq, hq'⟩ := alarm_silent h₂.marks hhit₂ (Or.inr harm₂)
    rw [← after_alarm] at hq hq'
    rw [ht]
    refine hI.accepts.append ((accepts_signals _ (steady_signals h₁)).append
      ((accepts_signals _ (steady_signals h₂)).append (accepts_erase ?_ ?_)))
    · exact hq.trans (hs.trans hw)
    · exact hq'.trans (hs'.trans hw')

lemma manualErase_accepts (hI : Cautious s) (hst : s.control.state = .manualErase) {ok : Bool} {sm : DroneLogService}
    (hp : Performs s.resetCancel ms (eraseFlightControllerLogs s.config) ok sm) :
    cancellation.Accepts {} sm.trace := by
  obtain ⟨m, rfl, ht⟩ := manualErase_history hp
  have hs := Control.handleAll_steady s.control m.arrivals (by rw [hst]; rfl)
  have hhit : .hit ∉ (handleAll Control.receive s.control m.arrivals).2.marks := by
    intro hm
    have hi := hs.hit hm
    rw [hst] at hi
    cases hi
  obtain ⟨hw, hc, hf⟩ := hI.guarded.erase hst
  obtain ⟨hq, hq'⟩ := alarm_silent (w := (watch s.trace).toAlarm) hs.marks hhit (Or.inl hc)
  rw [← after_alarm] at hq hq'
  rw [ht]
  exact hI.accepts.append ((accepts_signals _ (steady_signals hs)).append
    (accepts_erase (hq.trans hw) (hq'.trans hf)))

lemma Cautious.sound (hI : Cautious s) (h : running s.control.state = true) : Sound s.downloader :=
  ⟨hI.accepts, fun hw => hI.guarded.alarm (Or.inl hw) h⟩

lemma work_cautious (hI : Cautious s) (h : Works s ms s') (ht : Prudent ⟨s, .work ms, s'⟩) : Cautious s' := by
  refine ⟨?_, work_guarded hI.guarded h fun x hx => ⟨ht.armed x hx, ht.cancel x hx⟩⟩
  cases h.served (honours_nothing ms) with
  | cycle select logs result done mid hst hc _ =>
    have hrunning : running s.control.state = true := by
      rcases hst with hst | hst <;> rw [hst] <;> rfl
    exact (((hI.sound hrunning).enumerates hc.enumerates).chain hc.chain).accepts
  | listing logs hst he _ => exact ((hI.sound (by rw [hst]; rfl)).enumerates he).accepts
  | eraseAll sm hst hp hd _ =>
    rw [trace, hd]
    exact eraseAll_accepts hI hst hp (ht.erase hst)
  | manualErase ok sm hst hp hd _ =>
    rw [trace, hd]
    exact manualErase_accepts hI hst hp

lemma cautious_mark (hI : Cautious s) (marks : List Action) (hm : ∀ a ∈ marks, Signal a)
    (ht : s'.trace = s.trace ++ marks)
    (hg : Guarded s'.control (marks.foldl Alarm.see (watch s.trace).toAlarm) s'.downloader.inbox.cancelRequested) :
    Cautious s' := by
  refine ⟨?_, ?_⟩
  · rw [ht]
    exact hI.accepts.append (accepts_signals _ hm)
  · rw [ht, watch_append, after_alarm]
    exact hg

lemma arrive_cautious (hI : Cautious s) {a : Arrival}
    (ha : .vehicleArmed ∈ s.control.emits a → s.control.archiveRequested = false)
    (hc : a = .cancel → s.control.state ≠ .delay) : Cautious (s.arrive a) := by
  apply cautious_mark hI (s.control.receive a).2.marks
  · exact fun x hx => (Control.receive_marks s.control a x hx).signal
  · rfl
  · have hg := Control.receive_guards ha hc _ _ hI.guarded
    have hcancel : (s.arrive a).downloader.inbox.cancelRequested =
        (s.downloader.inbox.cancelRequested || (s.control.receive a).2.cancel) := by
      simp [arrive, deliver, Inbox.deliver_cancel, Moment.tick]
    rw [hcancel]
    exact hg

lemma drain_cautious (hI : Cautious s) (connected : Bool)
    (hc : s.control.state = .delay → s.control.commands.head? ≠ some .cancelArchive) :
    Cautious (s.drain connected) := by
  rw [drain]
  split
  · exact ⟨hI.accepts, hI.guarded⟩
  rename_i cmd cmds hq
  rw [hq] at hc
  -- a command that starts a job turns the alarm off
  have hjob : ∀ state, state = .manualRefresh ∨ state = .manualDownload ∨ state = .manualErase →
      ∀ c : Control, c.state = state → c.archiveRequested = s.control.archiveRequested →
      Guarded c ([Action.job].foldl Alarm.see (watch s.trace).toAlarm) false := by
    rintro state hstate c rfl hr
    refine ⟨by simp [Alarm.see], ?_, fun h => hI.guarded.request (hr.symm.trans h), fun _ => ⟨rfl, rfl, rfl⟩⟩
    intro h
    rcases hstate with h' | h' | h' <;> rw [h] at h' <;> cases h'
  cases cmd with
  | startArchive =>
    rw [drainCommand]
    split_ifs
    · exact ⟨hI.accepts, hI.guarded.alarm, hI.guarded.delay, hI.guarded.request, hI.guarded.erase⟩
    · apply cautious_mark hI [.consume, .job] (by simp [Signal]) rfl
      exact ⟨by simp [Alarm.see], (fun h => by cases h), (fun h => by cases h), (fun h => by cases h)⟩
  | cancelArchive =>
    apply cautious_mark hI (hits s.control.state) _ rfl
    · refine ⟨fun _ _ => rfl, fun h => absurd rfl (hc h), ?_, ?_⟩
      · intro hr
        rcases hits_cases s.control.state with hh | hh
        · simpa [hh] using hI.guarded.request hr
        · simpa [hh, Alarm.see] using hI.guarded.request hr
      · intro hst
        have hst' : s.control.state = .manualErase := hst
        simpa [hits, interruptible, hst'] using hI.guarded.erase hst'
    · intro a ha
      rcases hits_cases s.control.state with hh | hh <;> simp [hh] at ha
      rw [ha]
      trivial
  | refreshLogs =>
    exact cautious_mark hI [.job] (by simp [Signal]) rfl (hjob .manualRefresh (Or.inl rfl) _ rfl rfl)
  | downloadLogs ids all =>
    exact cautious_mark hI [.job] (by simp [Signal]) rfl (hjob .manualDownload (Or.inr (Or.inl rfl)) _ rfl rfl)
  | eraseAllLogs =>
    exact cautious_mark hI [.job] (by simp [Signal]) rfl (hjob .manualErase (Or.inr (Or.inr rfl)) _ rfl rfl)

lemma moves_idle {x y : State} (h : Moves x y) : isArchiveBusy y = false ∨ (x = .enumerate ∧ y = .archive) := by
  cases x <;> cases y <;> first | exact h.elim | exact Or.inl rfl | exact Or.inr ⟨rfl, rfl⟩

lemma turn_cautious {r : Reading} (hI : Cautious s) (h : s.turn r = some s') : Cautious s' := by
  cases turn_cases h with
  | stay h =>
    subst h
    exact hI
  | move state stale hm _ h =>
    subst h
    refine ⟨hI.accepts, ?_⟩
    rcases moves_idle hm with hb | ⟨hst, rfl⟩
    · exact Guarded.of_idle hb hI.guarded.request
    · refine ⟨fun hw _ => hI.guarded.alarm hw ?_, (fun h => by cases h), hI.guarded.request, (fun h => by cases h)⟩
      rw [hst]
      rfl
  | beginCycle hst h =>
    subst h
    obtain ⟨hr, hhit⟩ := hI.guarded.delay hst
    apply cautious_mark hI [.consume] (by simp [Signal]) rfl
    refine ⟨?_, (fun h => by cases h), (fun h => by cases h), (fun h => by cases h)⟩
    simp [Alarm.see, hhit, hI.guarded.request hr]
  | cleanup hst h =>
    subst h
    have hidle : isArchiveBusy s.control.returnToIdleState.state = false := by
      simp only [Control.returnToIdleState]
      split_ifs <;> rfl
    refine cautious_mark hI _ (cleanup_signals s r) (cleanup_trace s r) ?_
    rw [cleanup_control, List.foldl_append, List.eq_replicate_of_mem (evaluateArchiveOutcome_actions _ _ _ r.connectOk),
      foldl_reconnects]
    cases hr : s.control.archiveRequested with
    | true =>
      exact ⟨fun _ h => by simp [running, interruptible, isArchiveBusy] at h,
        fun _ => ⟨hr, rfl⟩, fun _ => hI.guarded.request hr, (fun h => by cases h)⟩
    | false => exact Guarded.of_idle hidle hI.guarded.request

lemma step_cautious (hI : Cautious s) (h : s.step e = some s') (ht : Prudent ⟨s, e, s'⟩) : Cautious s' := by
  cases e with
  | arrive a =>
    obtain rfl := Option.some.inj h
    have hmem : (s.control, a) ∈ handled ⟨s, .arrive a, s.arrive a⟩ := by simp [handled, arrivals, handling]
    exact arrive_cautious hI (ht.armed _ hmem) (ht.cancel _ hmem)
  | drain connected =>
    simp only [step] at h
    split_ifs at h
    obtain rfl := Option.some.inj h
    exact drain_cautious hI connected (ht.command rfl)
  | turn r =>
    simp only [step] at h
    split_ifs at h
    obtain ⟨s₁, h₁, rfl⟩ := Option.map_eq_some_iff.mp h
    obtain ⟨ha, hg⟩ := turn_cautious hI h₁
    exact ⟨ha, hg⟩
  | work ms => exact work_cautious hI (step_work h).1 ht
  | restart config =>
    obtain rfl := Option.some.inj h
    exact cautious_mark hI [.restart] (by simp [Signal]) rfl (Guarded.of_idle rfl fun h => by cases h)

theorem cancel_not_forgotten (config : Settings) (storage : StorageManager) (database : Database)
    (ts : List (Transition DroneLogService Event)) (s : DroneLogService)
    (hrun : Run step (start config storage database []) ts s) (hts : ∀ t ∈ ts, Prudent t) :
    (∀ n, s.trace[n]? = some (.request .erase) →
      (watch (s.trace.take n)).hit = false ∧ (watch (s.trace.take n)).flown = false) ∧
    ∀ n id offset count, s.trace[n]? = some (.request (.data id offset count)) →
      (watch (s.trace.take n)).hit = true → id ∈ (watch (s.trace.take n)).begun := by
  have hI : Cautious s := by
    apply hrun.invariant Prudent Cautious
    · exact ⟨(fun n a ha => by cases ha), Guarded.of_idle rfl fun h => by cases h⟩
    · intro s e s' hI hstep ht
      exact step_cautious hI hstep ht
    · exact hts
  exact ⟨fun n hn => hI.accepts n _ hn, fun n id offset count hn => hI.accepts n _ hn⟩

instance (t : Transition DroneLogService Event) : Decidable (Prudent t) :=
  decidable_of_iff
    ((∀ x ∈ handled t, .vehicleArmed ∈ x.1.emits x.2 → x.1.archiveRequested = false) ∧
      (∀ x ∈ handled t, x.2 = .cancel → x.1.state ≠ .delay) ∧
      (drains t.event = true → t.pre.control.state = .delay →
        t.pre.control.commands.head? ≠ some .cancelArchive) ∧
      (t.pre.control.state = .eraseAll → ∀ x ∈ untested t, .vehicleArmed ∉ x.1.emits x.2 ∧ x.2 ≠ .cancel))
    ⟨fun h => ⟨h.1, h.2.1, h.2.2.1, h.2.2.2⟩, fun h => ⟨h.armed, h.cancel, h.command, h.erase⟩⟩

def cancelledThenErased : List Event :=
  toArchive ++ [.drain true,
    .work (listOne ++ List.replicate 5 calm ++ { arrivals := [.cancel] } :: List.replicate 3 calm),
    .drain true, .drain true, .turn {}, .arrive (beat true 7000), .arrive (beat false 7001), .drain true,
    .turn { now := 20000 }, .drain true, .turn {}, .drain true, .work (archivePair 7 1), .drain true,
    .work [calm, calm]]

theorem cancel_not_forgotten_cancelled_then_erased :
    ∃ x n, Run.exec step (start sampleConfig {} {} []) cancelledThenErased = some x ∧ .hit ∈ x.2.trace ∧
      .outcome ⟨1, 1, 1, 0, 2⟩ .cancelled ∈ x.2.trace ∧ x.2.trace[n]? = some (.request .erase) ∧
      (watch (x.2.trace.take n)).hit = false ∧ (watch (x.2.trace.take n)).flown = false := by
  have h : (Run.exec step (start sampleConfig {} {} []) cancelledThenErased).any (fun x => decide (.hit ∈ x.2.trace ∧
      .outcome ⟨1, 1, 1, 0, 2⟩ .cancelled ∈ x.2.trace ∧ .request .erase ∈ x.2.trace ∧
        ∀ t ∈ x.1, Prudent t)) = true := by
    decide +kernel
  obtain ⟨x, hx, hd⟩ := (Option.any_eq_true _ _).mp h
  obtain ⟨hhit, hcancelled, he, hp⟩ := of_decide_eq_true hd
  obtain ⟨n, hn⟩ := List.mem_iff_getElem?.mp he
  have hcancel := (cancel_not_forgotten sampleConfig {} {} x.1 x.2 (Run.of_exec hx) hp).1 n hn
  exact ⟨x, n, hx, hhit, hcancelled, hn, hcancel.1, hcancel.2⟩

/-- The vehicle is armed again in `Delay`: the flag this raises is cleared at the end of `Delay`, and the cycle
downloads the log and erases it in flight. -/
theorem erase_in_flight :
    ∃ x n, Run.exec step (start sampleConfig {} {} [])
        [.drain true, .turn {}, .drain true, .turn {}, .arrive (beat false 0), .drain true, .turn {},
          .arrive (beat true 1), .arrive (beat false 2), .arrive (beat true 3), .drain true, .turn { now := 6000 },
          .drain true, .turn {}, .drain true, .work (archivePair 7 1), .drain true, .work [calm, calm]] = some x ∧
      x.2.control.monitor.armed = true ∧ x.2.trace[n]? = some (.request .erase) ∧
      (watch (x.2.trace.take n)).hit = true ∧ (watch (x.2.trace.take n)).flown = true := by
  have h : (Run.exec step (start sampleConfig {} {} [])
      [.drain true, .turn {}, .drain true, .turn {}, .arrive (beat false 0), .drain true, .turn {},
        .arrive (beat true 1), .arrive (beat false 2), .arrive (beat true 3), .drain true, .turn { now := 6000 },
        .drain true, .turn {}, .drain true, .work (archivePair 7 1), .drain true, .work [calm, calm]]).any (fun x =>
      decide (∃ n < x.2.trace.length, x.2.control.monitor.armed = true ∧
        x.2.trace[n]? = some (.request .erase) ∧
        (watch (x.2.trace.take n)).hit = true ∧ (watch (x.2.trace.take n)).flown = true)) = true := by
    decide +kernel
  obtain ⟨x, hx, hd⟩ := (Option.any_eq_true _ _).mp h
  obtain ⟨n, _, hn⟩ := of_decide_eq_true hd
  exact ⟨x, n, hx, hn⟩

end DroneLogService

end MavlinkLogService.Service
