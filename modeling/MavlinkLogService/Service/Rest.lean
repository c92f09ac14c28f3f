import MavlinkLogService.Library.Executions
import MavlinkLogService.Service.PendingDisarm

/-! The service comes to rest: every step of its main loop towards the end of a job is paid for by a request or
a disarm, so without further ones it returns to waiting. -/

namespace MavlinkLogService.Service

open Archive Archive.LogDownloader Library Session Storage

/-- How many steps of the main loop may lie before the service waits again; `requested` tells whether a disarm
is still to be served. -/
def rank (requested : Bool) : State → ℕ
  | .enumerate => if requested then 9 else 4
  | .archive => if requested then 8 else 3
  | .eraseAll | .manualDownload => if requested then 7 else 2
  | .cleanup => if requested then 6 else 1
  | .delay => 5
  | .manualRefresh | .manualErase => 1
  | _ => 0

lemma rank_le (requested : Bool) (state : State) : rank requested state ≤ 9 := by
  cases state <;> cases requested <;> decide

lemma rank_requested (requested : Bool) (state : State) : rank true state ≤ rank requested state + 9 :=
  (rank_le true state).trans (Nat.le_add_left _ _)

def isRequest : Arrival → Bool
  | .job .. | .cancel => true
  | _ => false

namespace Control

def potential (c : Control) : ℕ := rank c.archiveRequested c.state + 9 * c.commands.length

lemma potential_lt {c c' : Control} {x y : State} (hx : c.state = x) (hy : c'.state = y)
    (hr : c'.archiveRequested = c.archiveRequested) (hc : c'.commands = c.commands)
    (hlt : ∀ requested, rank requested y < rank requested x) : 1 + c'.potential ≤ c.potential := by
  have hlt := hlt c.archiveRequested
  rw [potential, potential, hr, hc, hx, hy]
  omega

lemma onFlightEvent_potential (now : ℤ) (c : Control) (e : FlightMonitor.Event) :
    (c.onFlightEvent now e).1.potential ≤ c.potential + 9 * (c.onFlightEvent now e).2.marks.count .disarmed := by
  cases e with
  | vehicleDetected => exact Nat.le_add_right _ _
  | vehicleArmed =>
    simp only [onFlightEvent]
    split_ifs with hw
    · simp [potential, hw, rank]
    · exact Nat.le_add_right _ _
    · exact Nat.le_add_right _ _
  | vehicleDisarmed =>
    have hrank := rank_requested c.archiveRequested c.state
    simp only [onFlightEvent]
    split_ifs with hw
    · simp [potential, rank]
      omega
    · simp [potential]
      omega
    · simp [potential]
      omega
  | linkLost =>
    simp only [onFlightEvent, handleConnectionLost]
    split_ifs
    · exact Nat.le_add_right _ _
    · exact Nat.le_add_right _ _
    · simp [potential, rank]
  | linkRestored =>
    simp only [onFlightEvent]
    split_ifs
    · simp [potential, rank]
    · exact Nat.le_add_right _ _

lemma onMavlinkMessage_potential (c : Control) (heartbeat : Option Heartbeat) (now : ℤ) (fresh : Bool) :
    (c.onMavlinkMessage heartbeat now fresh).1.potential ≤
      c.potential + 9 * (c.onMavlinkMessage heartbeat now fresh).2.marks.count .disarmed := by
  have hR : Composes fun (c : Control) (r : Control × Effect) =>
      r.1.potential ≤ c.potential + 9 * r.2.marks.count .disarmed := by
    refine ⟨fun c => Nat.le_add_right _ _, fun c r r' h h' => ?_⟩
    rw [effect_add_marks, List.count_append]
    dsimp only
    omega
  exact hR.handleAll (onFlightEvent now) { c with monitor := (hear c.monitor heartbeat fresh).1 } _
    fun x _ => onFlightEvent_potential now x.1 x.2

lemma receive_potential (c : Control) (a : Arrival) : (c.receive a).1.potential ≤
    c.potential + 9 * ([a].countP isRequest + (c.receive a).2.marks.count .disarmed) := by
  cases a with
  | message m fresh =>
    have h := onMavlinkMessage_potential c none 0 fresh
    simpa [isRequest, receive] using h
  | heartbeat h now fresh =>
    have h := onMavlinkMessage_potential c (some h) now fresh
    simpa [isRequest, receive] using h
  | job kind ids all connected =>
    have hrequested := requestCompanionJob_requested c kind ids all connected
    rw [receive]
    generalize c.requestCompanionJob kind ids all connected = r at hrequested ⊢
    cases hrequested with
    | refused _ => exact Nat.le_add_right _ _
    | eraseAll cancel => simp [potential, push, isRequest]; omega
    | archive _ => simp [potential, push, isRequest]; omega
    | refresh _ => simp [potential, push, isRequest]; omega
    | download ids all _ _ => simp [potential, push, isRequest]; omega
  | cancel =>
    simp [potential, push, isRequest, receive]
    omega

lemma handleAll_potential (c : Control) (as : List Arrival) : (handleAll receive c as).1.potential ≤
    c.potential + 9 * (as.countP isRequest + (handleAll receive c as).2.marks.count .disarmed) := by
  induction as generalizing c with
  | nil => exact Nat.le_add_right _ _
  | cons a as ih =>
    have hfirst := receive_potential c a
    have hrest := ih (c.receive a).1
    rw [handleAll, effect_add_marks, List.count_append, show a :: as = [a] ++ as from rfl, List.countP_append]
    dsimp only
    omega

structure Undisturbed (c c' : Control) : Prop where
  commands : c'.commands = c.commands
  requested : c'.archiveRequested = c.archiveRequested
  disarmTime : c'.disarmTime = c.disarmTime

lemma onFlightEvent_undisturbed (now : ℤ) (c : Control) (e : FlightMonitor.Event)
    (h : .disarmed ∉ (c.onFlightEvent now e).2.marks) : Undisturbed c (c.onFlightEvent now e).1 := by
  cases e with
  | vehicleDetected => exact ⟨rfl, rfl, rfl⟩
  | vehicleArmed =>
    simp only [onFlightEvent]
    split_ifs <;> exact ⟨rfl, rfl, rfl⟩
  | vehicleDisarmed =>
    simp only [onFlightEvent] at h
    split_ifs at h <;> simp at h
  | linkLost =>
    simp only [onFlightEvent, handleConnectionLost]
    split_ifs <;> exact ⟨rfl, rfl, rfl⟩
  | linkRestored =>
    simp only [onFlightEvent]
    split_ifs <;> exact ⟨rfl, rfl, rfl⟩

lemma receive_undisturbed (c : Control) (a : Arrival) (ha : isRequest a = false)
    (h : .disarmed ∉ (c.receive a).2.marks) : Undisturbed c (c.receive a).1 := by
  have hR : Composes fun (c : Control) (r : Control × Effect) => .disarmed ∉ r.2.marks → Undisturbed c r.1 := by
    refine ⟨fun c _ => ⟨rfl, rfl, rfl⟩, fun c r r' h h' hm => ?_⟩
    simp only [effect_add_marks, List.mem_append, not_or] at hm
    obtain ⟨h₁, h₂, h₃⟩ := h hm.1
    obtain ⟨h₁', h₂', h₃'⟩ := h' hm.2
    exact ⟨h₁'.trans h₁, h₂'.trans h₂, h₃'.trans h₃⟩
  have hhear : ∀ heartbeat now fresh, .disarmed ∉ (c.onMavlinkMessage heartbeat now fresh).2.marks →
      Undisturbed c (c.onMavlinkMessage heartbeat now fresh).1 := by
    intro heartbeat now fresh hm
    obtain ⟨h₁, h₂, h₃⟩ := hR.handleAll (onFlightEvent now) { c with monitor := (hear c.monitor heartbeat fresh).1 }
      (hear c.monitor heartbeat fresh).2 (fun x _ hx => onFlightEvent_undisturbed now x.1 x.2 hx) hm
    exact ⟨h₁, h₂, h₃⟩
  cases a with
  | message m fresh => exact hhear none 0 fresh h
  | heartbeat hb now fresh => exact hhear (some hb) now fresh h
  | job kind ids all connected => cases ha
  | cancel => cases ha

end Control

namespace DroneLogService

variable {s s' : DroneLogService} {e : Event} {ms : List Moment}

def asked (t : Transition DroneLogService Event) : ℕ :=
  (arrivals t.event).countP isRequest + (actions t).count .disarmed

def Waits (s : DroneLogService) (r : Reading) : Prop :=
  s.control.state = .delay ∧ r.now - s.control.disarmTime < s.config.download.delayAfterDisarmSec * 1000

instance (s : DroneLogService) (r : Reading) : Decidable (s.Waits r) := inferInstanceAs (Decidable (_ ∧ _))

def atRest (s : DroneLogService) : Bool := rank s.control.archiveRequested s.control.state == 0

def proceeds (t : Transition DroneLogService Event) : Bool :=
  !t.pre.atRest && match t.event with
    | .turn r => !decide (t.pre.Waits r)
    | .work _ => true
    | _ => false

lemma cleanup_potential (r : Reading) (hst : s.control.state = .cleanup) :
    1 + (s.cleanup r).control.potential ≤ s.control.potential := by
  rw [cleanup_control]
  cases hreq : s.control.archiveRequested with
  | true =>
    simp [Control.potential, rank, hst, hreq]
    omega
  | false =>
    simp only [Bool.false_eq_true, if_false, Control.returnToIdleState, Control.potential, hreq]
    split_ifs <;> simp [rank, hst]

lemma handleConnectionLost_potential (s : DroneLogService) :
    s.handleConnectionLost.control.potential ≤ s.control.potential := by
  simp only [handleConnectionLost, Control.handleConnectionLost]
  split_ifs
  · exact le_rfl
  · exact le_rfl
  · simp [Control.potential, rank]

lemma turn_potential {r : Reading} (h : s.turn r = some s') :
    (if s.atRest = false ∧ ¬ s.Waits r then 1 else 0) + s'.control.potential ≤ s.control.potential := by
  cases hst : s.control.state with
  | boot | connectionLost =>
    have hrest : s.atRest = true := by simp [atRest, hst, rank]
    simp only [turn, hst, Option.some.injEq] at h
    subst h
    simp [hrest, Control.potential, setState, rank]
  | connect =>
    have hrest : s.atRest = true := by simp [atRest, hst, rank]
    simp only [turn, hst, Option.some.injEq] at h
    subst h
    split_ifs <;> simp_all [Control.potential, rank]
  | waitHeartbeat | waitArm | waitDisarm =>
    have hrest : s.atRest = true := by simp [atRest, hst, rank]
    have hlost := s.handleConnectionLost_potential
    simp only [turn, hst, Option.some.injEq] at h
    subst h
    split_ifs <;> simp_all [Control.potential, setState, rank]
  | delay =>
    simp only [turn, hst, Option.some.injEq] at h
    by_cases hw : s.Waits r
    · rw [if_neg (by have := hw.2; omega)] at h
      subst h
      simp [hw]
    · have hend : s.config.download.delayAfterDisarmSec * 1000 ≤ r.now - s.control.disarmTime := by
        by_contra hlt
        exact hw ⟨hst, by omega⟩
      rw [if_pos hend] at h
      subst h
      simp [beginCycle, mark, resetCancel, Control.potential, rank, hst]
      split_ifs <;> omega
  | enumerate =>
    simp only [turn, hst, Option.some.injEq] at h
    subst h
    cases hreq : s.control.archiveRequested <;> simp [setState, Control.potential, rank, hst, hreq] <;>
      split_ifs <;> omega
  | cleanup =>
    simp only [turn, hst, Option.some.injEq] at h
    subst h
    have hclean := cleanup_potential r hst
    split_ifs <;> omega
  | archive | eraseAll | manualRefresh | manualDownload | manualErase => simp [turn, hst] at h

lemma drain_potential (s : DroneLogService) (connected : Bool) :
    (s.drain connected).control.potential ≤ s.control.potential := by
  rw [drain]
  split
  · exact le_rfl
  · rename_i cmd cmds hq
    have hlen : s.control.potential = rank s.control.archiveRequested s.control.state + 9 * cmds.length + 9 := by
      simp [Control.potential, hq]
      omega
    rw [hlen]
    cases cmd with
    | startArchive =>
      rw [drainCommand]
      split_ifs
      · simp [Control.potential]
      · simp [Control.potential, mark, resetCancel, rank]
        omega
    | cancelArchive => simp [drainCommand, Control.potential, mark, requestCancel]
    | refreshLogs => simp [drainCommand, Control.potential, mark, resetCancel, setState, rank]; omega
    | downloadLogs ids all =>
      have hrank := rank_le s.control.archiveRequested .manualDownload
      simp [drainCommand, Control.potential, mark, resetCancel]
      omega
    | eraseAllLogs => simp [drainCommand, Control.potential, mark, resetCancel, setState, rank]; omega

lemma count_disarmed {l l' : List Action} (h : events l = events l') : l.count .disarmed = l'.count .disarmed := by
  have hcount : ∀ l : List Action, (events l).count .disarmed = l.count .disarmed :=
    fun l => List.count_filter rfl
  rw [← hcount l, h, hcount]

lemma work_potential (h : Works s ms s') : 1 + s'.control.potential ≤ s.control.potential +
    9 * ((ms.flatMap (·.arrivals)).countP isRequest +
      (handleAll Control.receive s.control (ms.flatMap (·.arrivals))).2.marks.count .disarmed) := by
  have hheard := Control.handleAll_potential s.control (ms.flatMap (·.arrivals))
  have hstate := (Control.handleAll_steady s.control (ms.flatMap (·.arrivals)) h.busy).state
  -- the state is that before the work, and the end of the work lowers its rank
  suffices hend : 1 + s'.control.potential ≤
      (handleAll Control.receive s.control (ms.flatMap (·.arrivals))).1.potential from hend.trans hheard
  cases h with
  | archive logs result sm hst hp hd hc =>
    rw [← hp.control] at hstate ⊢
    rw [hc]
    split_ifs
    · exact Control.potential_lt (y := .eraseAll) (hstate.trans hst) rfl rfl rfl (by decide)
    · exact Control.potential_lt (y := .cleanup) (hstate.trans hst) rfl rfl rfl (by decide)
  | eraseAll sm hst hp hd hc =>
    rw [← hp.control] at hstate ⊢
    rw [hc]
    exact Control.potential_lt (y := .cleanup) (hstate.trans hst) rfl rfl rfl (by decide)
  | manualRefresh logs sm hst hp hd hc =>
    rw [← hp.control] at hstate ⊢
    rw [hc, Control.returnToIdleState]
    split_ifs
    · exact Control.potential_lt (y := .waitDisarm) (hstate.trans hst) rfl rfl rfl (by decide)
    · exact Control.potential_lt (y := .waitArm) (hstate.trans hst) rfl rfl rfl (by decide)
  | manualDownload logs result sm hst hp hd hc =>
    rw [← hp.control] at hstate ⊢
    rw [hc]
    exact Control.potential_lt (y := .cleanup) (hstate.trans hst) rfl rfl rfl (by decide)
  | manualErase ok sm hst hp hd hc =>
    have hcontrol : sm.control = (handleAll Control.receive s.control (ms.flatMap (·.arrivals))).1 := hp.control
    rw [← hcontrol] at hstate ⊢
    rw [hc, Control.returnToIdleState]
    split_ifs
    · exact Control.potential_lt (y := .waitDisarm) (hstate.trans hst) rfl rfl rfl (by decide)
    · exact Control.potential_lt (y := .waitArm) (hstate.trans hst) rfl rfl rfl (by decide)

lemma work_asked (h : Works s ms s') : asked ⟨s, .work ms, s'⟩ = (ms.flatMap (·.arrivals)).countP isRequest +
    (handleAll Control.receive s.control (ms.flatMap (·.arrivals))).2.marks.count .disarmed := by
  obtain ⟨ext, ht, _, hev⟩ := work_trace h
  rw [asked, actions_eq (t := ⟨s, .work ms, s'⟩) ht, count_disarmed hev]
  rfl

lemma step_pays : Pays step (fun s => s.control.potential) proceeds (fun t => 9 * asked t) := by
  intro s e s' h
  dsimp only
  cases step_cases h with
  | arrive a hs =>
    subst hs
    have hact : actions ⟨s, .arrive a, s.arrive a⟩ = (s.control.receive a).2.marks := actions_eq rfl
    rw [asked, hact]
    simpa [proceeds, arrivals, arrive] using Control.receive_potential s.control a
  | drain connected hs =>
    subst hs
    simpa [proceeds] using (s.drain_potential connected).trans (Nat.le_add_right _ _)
  | turn r s₁ ht hs =>
    simp only [step] at h
    split_ifs at h
    obtain ⟨s₂, h₂, rfl⟩ := Option.map_eq_some_iff.mp h
    refine le_trans ?_ (Nat.le_add_right _ _)
    simpa [proceeds] using turn_potential h₂
  | work ms hw =>
    rw [work_asked hw]
    refine le_trans (Nat.add_le_add_right ?_ _) (work_potential hw)
    split_ifs <;> simp
  | restart config hs =>
    subst hs
    simp [proceeds, start, Control.potential, rank]

structure Holds (s s' : DroneLogService) : Prop where
  config : s'.config = s.config
  state : s'.control.state = s.control.state
  requested : s'.control.archiveRequested = s.control.archiveRequested
  disarmTime : s'.control.disarmTime = s.control.disarmTime

lemma arrive_holds {a : Arrival} (hrest : s.atRest = false) (hasked : asked ⟨s, .arrive a, s.arrive a⟩ = 0)
    (hpot : (s.arrive a).control.potential = s.control.potential) : Holds s (s.arrive a) := by
  have hact : actions ⟨s, .arrive a, s.arrive a⟩ = (s.control.receive a).2.marks := actions_eq rfl
  rw [asked, hact, Nat.add_eq_zero_iff, List.count_eq_zero] at hasked
  have hreq : isRequest a = false := by simpa [arrivals] using hasked.1
  obtain ⟨hcommands, hrequested, htime⟩ := Control.receive_undisturbed s.control a hreq hasked.2
  have hrank : rank s.control.archiveRequested (s.control.receive a).1.state =
      rank s.control.archiveRequested s.control.state := by
    have hpot : (s.control.receive a).1.potential = s.control.potential := hpot
    rw [Control.potential, Control.potential, hcommands, hrequested] at hpot
    omega
  refine ⟨rfl, ?_, hrequested, htime⟩
  -- the handlers leave a busy state alone, and from `Cleanup` they lead to states of another rank
  rcases Control.receive_drifts s.control a with hsame | ⟨hidle, hto⟩
  · exact hsame
  · have hpos : rank s.control.archiveRequested s.control.state ≠ 0 := by simpa [atRest] using hrest
    have hcleanup : s.control.state = .cleanup := by
      revert hidle hpos
      cases s.control.state <;> simp [isArchiveBusy, rank]
    rw [hcleanup] at hrank
    rcases hto with hto | hto | hto | hto <;> rw [hto] at hrank
    · exact ((by decide : ∀ r, rank r .waitDisarm ≠ rank r .cleanup) _ hrank).elim
    · exact ((by decide : ∀ r, rank r .delay ≠ rank r .cleanup) _ hrank).elim
    · exact ((by decide : ∀ r, rank r .connectionLost ≠ rank r .cleanup) _ hrank).elim
    · exact ((by decide : ∀ r, rank r .connect ≠ rank r .cleanup) _ hrank).elim

lemma drain_holds {connected : Bool} (hrest : s.atRest = false)
    (hpot : (s.drain connected).control.potential = s.control.potential) : Holds s (s.drain connected) := by
  have hpos : rank s.control.archiveRequested s.control.state ≠ 0 := by simpa [atRest] using hrest
  cases hq : s.control.commands with
  | nil =>
    rw [drain, hq]
    exact ⟨rfl, rfl, rfl, rfl⟩
  | cons cmd cmds =>
    have hcommands := (drain_kept s connected).commands
    have hle := rank_le (s.drain connected).control.archiveRequested (s.drain connected).control.state
    rw [Control.potential, Control.potential, hcommands, hq] at hpot
    simp only [List.tail_cons, List.length_cons] at hpot
    omega

lemma step_holds (h : s.step e = some s') (hrest : s.atRest = false) (hcost : proceeds ⟨s, e, s'⟩ = false)
    (hpot : s'.control.potential = s.control.potential) (hasked : asked ⟨s, e, s'⟩ = 0) : Holds s s' := by
  cases step_cases h with
  | arrive a hs =>
    subst hs
    exact arrive_holds hrest hasked hpot
  | drain connected hs =>
    subst hs
    exact drain_holds hrest hpot
  | turn r s₁ _ hs =>
    have hwaits : s.Waits r := by simpa [proceeds, hrest] using hcost
    simp only [step] at h
    split_ifs at h
    obtain ⟨s₂, h₂, rfl⟩ := Option.map_eq_some_iff.mp h
    simp only [turn, hwaits.1, Option.some.injEq] at h₂
    rw [if_neg (by have := hwaits.2; omega)] at h₂
    subst h₂
    exact ⟨rfl, rfl, rfl, rfl⟩
  | work ms _ => simp [proceeds, hrest] at hcost
  | restart config hs =>
    have hpos : rank s.control.archiveRequested s.control.state ≠ 0 := by simpa [atRest] using hrest
    have hnone : s'.control.potential = 0 := by rw [hs]; rfl
    rw [hnone, Control.potential] at hpot
    omega

theorem processing_is_asked_for (s₀ : DroneLogService) (ts : List (Transition DroneLogService Event))
    (s : DroneLogService) (h : Run step s₀ ts s) :
    ts.countP proceeds + s.control.potential ≤ s₀.control.potential + 9 * (ts.map asked).sum := by
  have hpays := Run.pays step_pays h
  rwa [List.sum_map_mul_left] at hpays

theorem processing_is_asked_for_one_flight :
    ∃ x, Run.exec step (start sampleConfig {} {} [])
        (toArchive ++ [.drain true, .work (archivePair 7 1), .drain true, .work [calm, calm], .drain true, .turn {}]) =
          some x ∧
      x.1.countP proceeds = 5 ∧ (x.1.map asked).sum = 1 ∧
      x.1.countP proceeds + x.2.control.potential ≤ 9 * (x.1.map asked).sum := by
  refine exists_of_any (fun x => x.1.countP proceeds = 5 ∧ (x.1.map asked).sum = 1) (by decide +kernel) ?_
  rintro x hx ⟨hcount, hasked⟩
  exact ⟨hcount, hasked, (processing_is_asked_for _ x.1 x.2 (Run.of_exec hx)).trans_eq (Nat.zero_add _)⟩

theorem comes_to_rest (x : Execution step) (hfair : ∀ n, ∃ k, n ≤ k ∧ IsProcess (x.event k))
    (hclock : ∀ t : ℤ, ∃ N, ∀ n, N ≤ n → ∀ r, x.event n = .turn r → t ≤ r.now)
    (hquiet : ∃ K, ∀ n, K ≤ n → asked (x.transition n) = 0) : ∃ N, ∀ n, N ≤ n → (x.state n).atRest = true := by
  obtain ⟨K, hK⟩ := hquiet
  obtain ⟨M, hM, hfree⟩ := Execution.costs_nothing (x := x) step_pays (K := K) fun n hn => by rw [hK n hn]
  refine ⟨M, fun n hn => ?_⟩
  by_contra hrest
  rw [Bool.not_eq_true] at hrest
  -- from the step `n` on, nothing moves any more
  have hheld : ∀ k, n ≤ k → Holds (x.state n) (x.state k) ∧ (x.state k).atRest = false := by
    refine Execution.from_now_on (I := fun s => Holds (x.state n) s ∧ s.atRest = false)
      ⟨⟨rfl, rfl, rfl, rfl⟩, hrest⟩ fun k hk ⟨hh, hr⟩ => ?_
    obtain ⟨hcost, hpot⟩ := hfree k (hn.trans hk)
    obtain ⟨h₁, h₂, h₃, h₄⟩ := step_holds (x.steps k) hr hcost hpot (hK k (hM.trans (hn.trans hk)))
    refine ⟨⟨h₁.trans hh.config, h₂.trans hh.state, h₃.trans hh.requested, h₄.trans hh.disarmTime⟩, ?_⟩
    rw [atRest, h₂, h₃]
    exact hr
  obtain ⟨N, hN⟩ := hclock ((x.state n).control.disarmTime + (x.state n).config.download.delayAfterDisarmSec * 1000)
  obtain ⟨k, hk, hprocess⟩ := hfair (max n N)
  obtain ⟨hh, hr⟩ := hheld k (by omega)
  have hcost := (hfree k (by omega)).1
  rw [Execution.transition, proceeds] at hcost
  cases he : x.event k with
  | turn r =>
    have hwaits : (x.state k).Waits r := by simpa [he, hr] using hcost
    have htime := hN k (by omega) r he
    have hearly := hwaits.2
    rw [hh.disarmTime, hh.config] at hearly
    omega
  | work ms => simp [he, hr] at hcost
  | _ =>
    rw [he] at hprocess
    exact hprocess

def cleaning : DroneLogService := { config := sampleConfig, control := { state := .cleanup }, draining := false }

def home (draining : Bool) : DroneLogService := { cleaning.cleanup {} with draining := draining }

lemma home_drain : (home true).step (.drain true) = some (home false) := rfl

lemma home_turn (now : ℤ) : (home false).step (.turn { now := now }) = some (home true) := rfl

def resting : Execution step where
  state
    | 0 => cleaning
    | n + 1 => home (decide (Even n))
  event
    | 0 => .turn {}
    | n + 1 => if Even n then .drain true else .turn { now := n + 1 }
  steps
    | 0 => rfl
    | n + 1 => by
      by_cases h : Even n
      · simp only [h, decide_true, if_true, Nat.even_add_one, not_true, decide_false]
        exact home_drain
      · simp only [h, decide_false, if_false, Nat.even_add_one, not_false_eq_true, decide_true]
        exact home_turn _

lemma resting_asked (n : ℕ) : asked (resting.transition n) = 0 := by
  have htrace : (resting.transition n).post.trace = (resting.transition n).pre.trace ++ [] := by
    cases n <;> rfl
  have harrivals : arrivals (resting.transition n).event = [] := by
    cases n with
    | zero => rfl
    | succ n =>
      simp only [Execution.transition, resting]
      split_ifs <;> rfl
  rw [asked, actions_eq htrace, harrivals]
  rfl

theorem comes_to_rest_resting : ∃ N, ∀ n, N ≤ n → (resting.state n).atRest = true := by
  refine comes_to_rest resting (fun n => ⟨2 * n, by omega, ?_⟩) (fun t => ⟨t.toNat + 1, fun n hn r hr => ?_⟩)
    ⟨0, fun n _ => resting_asked n⟩
  · cases n with
    | zero => trivial
    | succ n => simp [resting, Nat.mul_add, IsProcess]
  · obtain ⟨n, rfl⟩ : ∃ m, n = m + 1 := ⟨n - 1, by omega⟩
    simp only [resting] at hr
    split_ifs at hr
    obtain rfl := Event.turn.inj hr
    push_cast at *
    omega

end DroneLogService

end MavlinkLogService.Service
