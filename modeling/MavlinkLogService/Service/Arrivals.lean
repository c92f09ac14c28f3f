import MavlinkLogService.Service.Control
import MavlinkLogService.Session.SessionHistory

/-! What the handlers of the other threads can do, in particular while the main thread is at work. -/

namespace MavlinkLogService.Service

open Library Session

def Signal : Action → Prop
  | .armed | .disarmed | .hit | .job | .consume | .restart | .reconnect => True
  | _ => False

def Interrupt : Action → Prop
  | .armed | .disarmed | .hit | .job => True
  | _ => False

lemma Interrupt.signal {a : Action} (h : Interrupt a) : Signal a := by
  cases a <;> trivial

structure Steady (c : Control) (r : Control × Effect) : Prop where
  state : r.1.state = c.state
  marks : ∀ a ∈ r.2.marks, a = .armed ∨ a = .disarmed ∨ a = .hit
  cancel : .hit ∈ r.2.marks → r.2.cancel = true
  hit : .hit ∈ r.2.marks → interruptible c.state = true
  armed : interruptible c.state = true → .armed ∈ r.2.marks → .hit ∈ r.2.marks

lemma hits_cases (state : State) : hits state = [] ∨ hits state = [.hit] := by
  rw [hits]
  split_ifs
  · exact Or.inr rfl
  · exact Or.inl rfl

lemma steady_composes : Composes (fun c r => isArchiveBusy c.state = true → Steady c r) := by
  refine ⟨fun c _ => ⟨rfl, by simp, by simp, by simp, by simp⟩, ?_⟩
  intro c r r' h h' hb
  have hr := h hb
  have hr' := h' (by rw [hr.state]; exact hb)
  refine ⟨hr'.state.trans hr.state, ?_, ?_, ?_, ?_⟩
  · intro a ha
    rcases List.mem_append.mp ha with ha | ha
    · exact hr.marks a ha
    · exact hr'.marks a ha
  · intro hm
    rcases List.mem_append.mp hm with hm | hm
    · simp [hr.cancel hm]
    · simp [hr'.cancel hm]
  · intro hm
    rcases List.mem_append.mp hm with hm | hm
    · exact hr.hit hm
    · rw [← hr.state]
      exact hr'.hit hm
  · intro hi hm
    rcases List.mem_append.mp hm with hm | hm
    · exact List.mem_append_left _ (hr.armed hi hm)
    · exact List.mem_append_right _ (hr'.armed (by rw [hr.state]; exact hi) hm)

def Drifts (x y : State) : Prop :=
  y = x ∨ (isArchiveBusy x = false ∧ (y = .waitDisarm ∨ y = .delay ∨ y = .connectionLost ∨ y = .connect))

structure Framed (c : Control) (r : Control × Effect) : Prop where
  monitor : r.1.monitor = c.monitor
  commands : r.1.commands = c.commands
  cache : r.1.cachedFcLogs = c.cachedFcLogs
  stale : r.1.fcLogsStale = c.fcLogsStale

lemma framed_composes : Composes Framed := by
  refine ⟨fun c => ⟨rfl, rfl, rfl, rfl⟩, ?_⟩
  intro c r r' h h'
  exact ⟨h'.monitor.trans h.monitor, h'.commands.trans h.commands, h'.cache.trans h.cache, h'.stale.trans h.stale⟩

structure Honours (H : Promise) (ms : List Moment) : Prop where
  messages : ∀ m ∈ ms, ∀ a ∈ m.arrivals, ∀ msg fresh, a = .message msg fresh → H.message msg
  disk : H.disk → ∀ m ∈ ms, ∀ n, m.reading.fileFails n = none

lemma honours_nothing (ms : List Moment) : Honours {} ms :=
  ⟨fun _ _ _ _ _ _ _ => trivial, fun h => h.elim⟩

namespace Control

lemma onFlightEvent_steady (now : ℤ) (c : Control) (e : FlightMonitor.Event) (hb : isArchiveBusy c.state = true) :
    Steady c (c.onFlightEvent now e) := by
  cases e with
  | vehicleDetected => exact ⟨rfl, by simp [onFlightEvent], by simp [onFlightEvent], by simp [onFlightEvent],
      by simp [onFlightEvent]⟩
  | vehicleArmed =>
    have hne : c.state ≠ .waitArm := by
      rintro h
      simp [h, isArchiveBusy] at hb
    simp only [onFlightEvent, if_neg hne, if_pos hb]
    refine ⟨rfl, ?_, fun _ => rfl, ?_, ?_⟩
    · intro a ha
      rcases List.mem_cons.mp ha with rfl | ha
      · exact Or.inl rfl
      · rcases hits_cases c.state with h | h <;> simp [h] at ha
        exact Or.inr (Or.inr ha)
    · intro hm
      simpa [hits] using hm
    · intro hi _
      simp [hits, hi]
  | vehicleDisarmed =>
    have hne : c.state ≠ .waitDisarm := by
      rintro h
      simp [h, isArchiveBusy] at hb
    simp only [onFlightEvent, if_neg hne, if_pos hb]
    exact ⟨rfl, by simp, by simp, by simp, by simp⟩
  | linkLost =>
    simp only [onFlightEvent, handleConnectionLost, if_pos hb]
    exact ⟨rfl, by simp, by simp, by simp, by simp⟩
  | linkRestored =>
    have hne : c.state ≠ .connectionLost := by
      rintro h
      simp [h, isArchiveBusy] at hb
    simp only [onFlightEvent, if_neg hne]
    exact ⟨rfl, by simp, by simp, by simp, by simp⟩

lemma onMavlinkMessage_steady (c : Control) (heartbeat : Option Heartbeat) (now : ℤ) (fresh : Bool)
    (hb : isArchiveBusy c.state = true) : Steady c (c.onMavlinkMessage heartbeat now fresh) := by
  have h := steady_composes.handleAll (onFlightEvent now) { c with monitor := (hear c.monitor heartbeat fresh).1 }
    (hear c.monitor heartbeat fresh).2 fun x _ hx => onFlightEvent_steady now x.1 x.2 hx
  obtain ⟨hs, hm, hc, hh, ha⟩ := h hb
  exact ⟨hs, hm, hc, hh, ha⟩

lemma onFlightEvent_framed (now : ℤ) (c : Control) (e : FlightMonitor.Event) : Framed c (c.onFlightEvent now e) := by
  cases e with
  | vehicleArmed =>
    simp only [onFlightEvent]
    split_ifs <;> exact ⟨rfl, rfl, rfl, rfl⟩
  | vehicleDisarmed =>
    simp only [onFlightEvent]
    split_ifs <;> exact ⟨rfl, rfl, rfl, rfl⟩
  | linkLost =>
    simp only [onFlightEvent, handleConnectionLost]
    split_ifs <;> exact ⟨rfl, rfl, rfl, rfl⟩
  | linkRestored =>
    simp only [onFlightEvent]
    split_ifs <;> exact ⟨rfl, rfl, rfl, rfl⟩
  | vehicleDetected => exact ⟨rfl, rfl, rfl, rfl⟩

lemma onMavlinkMessage_framed (c : Control) (heartbeat : Option Heartbeat) (now : ℤ) (fresh : Bool) :
    Framed { c with monitor := (hear c.monitor heartbeat fresh).1 } (c.onMavlinkMessage heartbeat now fresh) :=
  framed_composes.handleAll (onFlightEvent now) _ _ fun x _ => onFlightEvent_framed now x.1 x.2

inductive Requested (c : Control) (connected : Bool) : CompanionJobKind → JobOutcome × Control × Effect → Prop
  | refused {kind : CompanionJobKind} {outcome : JobOutcome} : outcome.result ≠ .accepted →
      Requested c connected kind (outcome, c, {})
  | eraseAll (cancel : Bool) : Requested c connected .eraseAll ({}, c.push .eraseAllLogs, { cancel := cancel })
  | archive : isArchiveBusy c.state = false ∧ c.monitor.armed = false ∧ connected = true →
      Requested c connected .archive ({}, c.push .startArchive, {})
  | refresh : isArchiveBusy c.state = false ∧ c.monitor.armed = false ∧ connected = true →
      Requested c connected .refresh ({}, c.push .refreshLogs, {})
  | download {outcome : JobOutcome} (ids : List UInt16) (all : Bool) : outcome.result = .accepted →
      isArchiveBusy c.state = false ∧ c.monitor.armed = false ∧ connected = true →
      Requested c connected .download (outcome, c.push (.downloadLogs ids all), {})

lemma requestCompanionJob_requested (c : Control) (kind : CompanionJobKind) (ids : List UInt16) (all connected : Bool) :
    Requested c connected kind (c.requestCompanionJob kind ids all connected) := by
  by_cases hkind : kind = .eraseAll
  · subst hkind
    simp only [requestCompanionJob, if_true]
    split_ifs
    · exact .refused (by simp)
    · exact .eraseAll _
  by_cases hbusy : isArchiveBusy c.state = true
  · simp only [requestCompanionJob, if_neg hkind, if_pos hbusy]
    exact .refused (by simp)
  by_cases harmed : c.monitor.armed = true
  · simp only [requestCompanionJob, if_neg hkind, if_neg hbusy, if_pos harmed]
    exact .refused (by simp)
  by_cases hoff : (!connected) = true
  · simp only [requestCompanionJob, if_neg hkind, if_neg hbusy, if_neg harmed, if_pos hoff]
    exact .refused (by simp)
  have hready : isArchiveBusy c.state = false ∧ c.monitor.armed = false ∧ connected = true := by simp_all
  simp only [requestCompanionJob, if_neg hkind, if_neg hbusy, if_neg harmed, if_neg hoff]
  cases kind with
  | eraseAll => exact absurd rfl hkind
  | archive => exact .archive hready
  | refresh => exact .refresh hready
  | download =>
    simp only
    split_ifs
    · exact .refused (by simp)
    · exact .download _ _ rfl hready
    · exact .refused (by simp)
    · exact .download _ _ rfl hready

lemma requestCompanionJob_queues (c : Control) (kind : CompanionJobKind) (ids : List UInt16) (all connected : Bool) :
    ∃ cmds cancel, (c.requestCompanionJob kind ids all connected).2 =
      ({ c with commands := c.commands ++ cmds }, { cancel := cancel }) := by
  have hrequested := requestCompanionJob_requested c kind ids all connected
  generalize c.requestCompanionJob kind ids all connected = r at hrequested ⊢
  cases hrequested with
  | refused _ => exact ⟨[], false, by simp⟩
  | eraseAll cancel => exact ⟨[.eraseAllLogs], cancel, rfl⟩
  | archive _ => exact ⟨[.startArchive], false, rfl⟩
  | refresh _ => exact ⟨[.refreshLogs], false, rfl⟩
  | download ids all _ _ => exact ⟨[.downloadLogs ids all], false, rfl⟩

lemma receive_steady (c : Control) (a : Arrival) (hb : isArchiveBusy c.state = true) : Steady c (c.receive a) := by
  cases a with
  | message m fresh =>
    obtain ⟨hs, hm, hc, hh, ha⟩ := onMavlinkMessage_steady c none 0 fresh hb
    exact ⟨hs, hm, hc, hh, ha⟩
  | heartbeat h now fresh => exact onMavlinkMessage_steady c (some h) now fresh hb
  | job kind ids all connected =>
    obtain ⟨cmds, cancel, h⟩ := requestCompanionJob_queues c kind ids all connected
    rw [receive, h]
    exact ⟨rfl, by simp, by simp, by simp, by simp⟩
  | cancel =>
    refine ⟨rfl, ?_, fun _ => rfl, ?_, ?_⟩
    · intro a ha
      rcases hits_cases c.state with h | h <;> simp [receive, h] at ha
      exact Or.inr (Or.inr ha)
    · intro hm
      simpa [receive, hits] using hm
    · intro _ hm
      rcases hits_cases c.state with h | h <;> simp [receive, h] at hm

lemma onFlightEvent_marks (now : ℤ) (c : Control) (e : FlightMonitor.Event) :
    ∀ a ∈ (c.onFlightEvent now e).2.marks, Interrupt a := by
  cases e with
  | vehicleArmed =>
    simp only [onFlightEvent]
    split_ifs
    · simp [Interrupt]
    · rcases hits_cases c.state with h | h <;> simp [h, Interrupt]
    · simp [Interrupt]
  | vehicleDisarmed =>
    simp only [onFlightEvent]
    split_ifs <;> simp [Interrupt]
  | _ => simp [onFlightEvent]

lemma receive_marks (c : Control) (a : Arrival) : ∀ x ∈ (c.receive a).2.marks, Interrupt x := by
  have hR : Composes (fun (_ : Control) (r : Control × Effect) => ∀ x ∈ r.2.marks, Interrupt x) := by
    refine ⟨by simp, ?_⟩
    intro c r r' h h' x hx
    exact (List.mem_append.mp hx).elim (h x) (h' x)
  cases a with
  | message m fresh => exact hR.handleAll _ _ _ fun x _ => onFlightEvent_marks 0 x.1 x.2
  | heartbeat h now fresh => exact hR.handleAll _ _ _ fun x _ => onFlightEvent_marks now x.1 x.2
  | job kind ids all connected =>
    obtain ⟨cmds, cancel, hq⟩ := requestCompanionJob_queues c kind ids all connected
    rw [receive, hq]
    simp
  | cancel => rcases hits_cases c.state with h | h <;> simp [receive, h, Interrupt]

lemma drifts_composes : Composes (fun (c : Control) (r : Control × Effect) => Drifts c.state r.1.state) := by
  refine ⟨fun c => Or.inl rfl, ?_⟩
  intro c r r' h h'
  rcases h with h | ⟨hb, h⟩
  · rwa [h] at h'
  · rcases h' with h' | ⟨_, h'⟩
    · exact Or.inr ⟨hb, by rw [h']; exact h⟩
    · exact Or.inr ⟨hb, h'⟩

lemma onFlightEvent_drifts (now : ℤ) (c : Control) (e : FlightMonitor.Event) :
    Drifts c.state (c.onFlightEvent now e).1.state := by
  by_cases hb : isArchiveBusy c.state = true
  · exact Or.inl (onFlightEvent_steady now c e hb).state
  rw [Bool.not_eq_true] at hb
  cases e with
  | vehicleDetected => exact Or.inl rfl
  | vehicleArmed =>
    simp only [onFlightEvent, hb, Bool.false_eq_true, if_false]
    split_ifs
    · exact Or.inr ⟨hb, Or.inl rfl⟩
    · exact Or.inl rfl
  | vehicleDisarmed =>
    simp only [onFlightEvent, hb, Bool.false_eq_true, if_false]
    split_ifs
    · exact Or.inr ⟨hb, Or.inr (Or.inl rfl)⟩
    · exact Or.inl rfl
  | linkLost =>
    simp only [onFlightEvent, handleConnectionLost, hb, Bool.false_eq_true, if_false]
    split_ifs
    · exact Or.inl rfl
    · exact Or.inr ⟨hb, Or.inr (Or.inr (Or.inl rfl))⟩
  | linkRestored =>
    simp only [onFlightEvent]
    split_ifs
    · exact Or.inr ⟨hb, Or.inr (Or.inr (Or.inr rfl))⟩
    · exact Or.inl rfl

lemma receive_drifts (c : Control) (a : Arrival) : Drifts c.state (c.receive a).1.state := by
  cases a with
  | message m fresh =>
    exact drifts_composes.handleAll (onFlightEvent 0) { c with monitor := (hear c.monitor none fresh).1 } _
      fun x _ => onFlightEvent_drifts 0 x.1 x.2
  | heartbeat h now fresh =>
    exact drifts_composes.handleAll (onFlightEvent now) { c with monitor := (hear c.monitor (some h) fresh).1 } _
      fun x _ => onFlightEvent_drifts now x.1 x.2
  | job kind ids all connected =>
    obtain ⟨cmds, cancel, hq⟩ := requestCompanionJob_queues c kind ids all connected
    rw [receive, hq]
    exact Or.inl rfl
  | cancel => exact Or.inl rfl

lemma onMavlinkMessage_messages (c : Control) (heartbeat : Option Heartbeat) (now : ℤ) (fresh : Bool) :
    (c.onMavlinkMessage heartbeat now fresh).2.messages = [] := by
  have hR : Composes (fun (_ : Control) (r : Control × Effect) => r.2.messages = []) := by
    refine ⟨fun _ => rfl, ?_⟩
    intro c r r' h h'
    simp [h, h']
  apply hR.handleAll
  rintro ⟨c, e⟩ _
  cases e with
  | vehicleArmed =>
    simp only [onFlightEvent]
    split_ifs <;> rfl
  | vehicleDisarmed =>
    simp only [onFlightEvent]
    split_ifs <;> rfl
  | _ => rfl

lemma receive_messages (c : Control) (a : Arrival) {m : LogMessage} (h : m ∈ (c.receive a).2.messages) :
    ∃ fresh, a = .message m fresh := by
  cases a with
  | message m' fresh =>
    obtain rfl := List.mem_singleton.mp h
    exact ⟨fresh, rfl⟩
  | heartbeat hb now fresh =>
    rw [receive, onMavlinkMessage_messages] at h
    cases h
  | job kind ids all connected =>
    obtain ⟨cmds, cancel, hq⟩ := requestCompanionJob_queues c kind ids all connected
    rw [receive, hq] at h
    cases h
  | cancel => cases h

lemma observe_handles (c : Control) (ms : List Moment) :
    (c.observe ms).1 = (handleAll receive c (ms.flatMap (·.arrivals))).1 ∧
      (c.observe ms).2.flatMap (·.marks) = (handleAll receive c (ms.flatMap (·.arrivals))).2.marks ∧
      (c.observe ms).2.any (·.cancel) = (handleAll receive c (ms.flatMap (·.arrivals))).2.cancel := by
  induction ms generalizing c with
  | nil => exact ⟨rfl, rfl, rfl⟩
  | cons m ms ih =>
    obtain ⟨h₁, h₂, h₃⟩ := ih (handleAll receive c m.arrivals).1
    rw [List.flatMap_cons, handleAll_append]
    refine ⟨h₁, ?_, ?_⟩
    · simp only [observe, List.flatMap_cons, effect_add_marks, ← h₂]
      rfl
    · simp only [observe, List.any_cons, effect_add_cancel, ← h₃]
      rfl

lemma handleAll_steady (c : Control) (as : List Arrival) (hb : isArchiveBusy c.state = true) :
    Steady c (handleAll receive c as) :=
  steady_composes.handleAll _ _ _ (fun x _ hx => receive_steady x.1 x.2 hx) hb

lemma observe_fair {H : Promise} {c : Control} {ms : List Moment} (hb : isArchiveBusy c.state = true)
    (hH : Honours H ms) : ∀ tick ∈ (c.observe ms).2, Fair H tick := by
  induction ms generalizing c with
  | nil => simp [observe]
  | cons m ms ih =>
    have hs := handleAll_steady c m.arrivals hb
    intro tick ht
    rcases List.mem_cons.mp ht with rfl | ht
    · refine ⟨hs.marks, hs.cancel, ?_, fun h n => hH.disk h m List.mem_cons_self n⟩
      have hR : Composes (fun (_ : Control) (r : Control × Effect) => ∀ x ∈ r.2.messages, H.message x) := by
        refine ⟨by simp, ?_⟩
        intro c r r' h h' x hx
        exact (List.mem_append.mp hx).elim (h x) (h' x)
      refine hR.handleAll _ _ _ ?_
      intro x hx msg hmsg
      obtain ⟨fresh, ha⟩ := receive_messages x.1 x.2 hmsg
      exact hH.messages m List.mem_cons_self x.2 (mem_of_handling hx) msg fresh ha
    · refine ih ?_ ⟨fun m' h' => hH.messages m' (List.mem_cons_of_mem m h'),
        fun h m' h' => hH.disk h m' (List.mem_cons_of_mem m h')⟩ tick ht
      rw [hs.state]
      exact hb

end Control

end MavlinkLogService.Service
