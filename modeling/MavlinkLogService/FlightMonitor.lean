import Mathlib.Tactic

/-! The flight monitor: vehicle identity, link state and the arm edge detector. -/

namespace MavlinkLogService

structure Source where
  sysid : UInt8
  compid : UInt8
  vehicleType : UInt8
  autopilot : UInt8
  deriving DecidableEq, Repr

structure Heartbeat where
  source : Source
  armed : Bool
  deriving DecidableEq, Repr

namespace FlightMonitor

inductive Event
  | vehicleDetected
  | vehicleArmed
  | vehicleDisarmed
  | linkLost
  | linkRestored
  deriving DecidableEq, Repr

end FlightMonitor

structure FlightMonitor where
  source : Source := ⟨0, 0, 0, 0⟩
  armed : Bool := false
  vehicleDetected : Bool := false
  linkLost : Bool := false
  firstHeartbeat : Bool := true
  deriving DecidableEq, Repr

namespace FlightMonitor

def detectVehicle (m : FlightMonitor) (source : Source) : FlightMonitor × List Event :=
  if !m.vehicleDetected || m.source != source then
    ({ m with source := source, vehicleDetected := true, firstHeartbeat := true }, [.vehicleDetected])
  else (m, [])

def restoreLink (m : FlightMonitor) : FlightMonitor × List Event :=
  if m.linkLost then ({ m with linkLost := false }, [.linkRestored]) else (m, [])

def trackArmed (m : FlightMonitor) (armed : Bool) : FlightMonitor × List Event :=
  if m.firstHeartbeat then ({ m with armed := armed, firstHeartbeat := false }, [])
  else if armed && !m.armed then ({ m with armed := true }, [.vehicleArmed])
  else if !armed && m.armed then ({ m with armed := false }, [.vehicleDisarmed])
  else (m, [])

def onHeartbeat (m : FlightMonitor) (h : Heartbeat) : FlightMonitor × List Event :=
  let (m, detected) := m.detectVehicle h.source
  let (m, restored) := m.restoreLink
  let (m, edges) := m.trackArmed h.armed
  (m, detected ++ restored ++ edges)

def onLinkTimeout (m : FlightMonitor) : FlightMonitor × List Event :=
  if !m.linkLost then ({ m with linkLost := true }, [.linkLost]) else (m, [])

def onLinkRestored (m : FlightMonitor) : FlightMonitor × List Event := m.restoreLink

def isArmEvent (e : Event) : Bool := e == .vehicleArmed || e == .vehicleDisarmed

structure Observation where
  heartbeat : Heartbeat
  events : List Event
  isArmed : Bool
  deriving DecidableEq, Repr

def observe : FlightMonitor → List Heartbeat → List Observation
  | _, [] => []
  | m, h :: hs =>
    let (m', events) := m.onHeartbeat h
    ⟨h, events.filter isArmEvent, m'.armed⟩ :: observe m' hs

def ofVehicle (V : Source) (o : Observation) : Bool := o.heartbeat.source == V

def edge (before after : Bool) : List Event :=
  if after && !before then [.vehicleArmed] else if !after && before then [.vehicleDisarmed] else []

def tracking (h : Heartbeat) : FlightMonitor := ⟨h.source, h.armed, true, false, false⟩

lemma edge_eq_nil_iff (a b : Bool) : edge a b = [] ↔ b = a := by
  cases a <;> cases b <;> simp [edge]

lemma filter_edge (a b : Bool) : (edge a b).filter isArmEvent = edge a b := by
  cases a <;> cases b <;> rfl

lemma onHeartbeat_same {a h : Heartbeat} (hs : a.source = h.source) :
    (tracking a).onHeartbeat h = (tracking h, edge a.armed h.armed) := by
  rcases a with ⟨V, x⟩
  rcases h with ⟨W, y⟩
  obtain rfl : V = W := hs
  cases x <;> cases y <;> simp [onHeartbeat, tracking, detectVehicle, restoreLink, trackArmed, edge]

lemma onHeartbeat_other {a h : Heartbeat} (hs : a.source ≠ h.source) :
    (tracking a).onHeartbeat h = (tracking h, [.vehicleDetected]) := by
  simp [onHeartbeat, tracking, detectVehicle, restoreLink, trackArmed, hs]

lemma observe_tracking (a h : Heartbeat) (hs : List Heartbeat) :
    observe (tracking a) (h :: hs) =
      ⟨h, if a.source = h.source then edge a.armed h.armed else [], h.armed⟩ ::
        observe (tracking h) hs := by
  rw [observe]
  split_ifs with hsame
  · rw [onHeartbeat_same hsame]
    simp only [filter_edge, tracking]
  · rw [onHeartbeat_other hsame]
    rfl

/-- No other source changes its armed flag between two heartbeats of its own, and `V` returns from an
interruption by other sources with the flag it left with. Here `a` is the previous heartbeat and `v`
the previous one of `V`. -/
def Undisturbed (V : Source) : Heartbeat → Heartbeat → List Heartbeat → Prop
  | _, _, [] => True
  | a, v, h :: hs =>
    if h.source = V then (a.source ≠ V → h.armed = v.armed) ∧ Undisturbed V h h hs
    else (a.source = h.source → h.armed = a.armed) ∧ Undisturbed V h v hs

instance (V : Source) : (a v : Heartbeat) → (hs : List Heartbeat) → Decidable (Undisturbed V a v hs)
  | _, _, [] => .isTrue trivial
  | a, v, h :: hs => by
    unfold Undisturbed
    have := instDecidableUndisturbed V h h hs
    have := instDecidableUndisturbed V h v hs
    infer_instance

lemma observe_filter_isArmed (V : Source) (a v : Heartbeat) (hs : List Heartbeat) :
    ((observe (tracking a) hs).filter (ofVehicle V)).map Observation.isArmed =
      (observe (tracking v) (hs.filter (fun h => h.source == V))).map Observation.isArmed := by
  induction hs generalizing a v with
  | nil => rfl
  | cons h hs ih =>
    rw [observe_tracking]
    by_cases hV : h.source = V
    · rw [List.filter_cons_of_pos (by simp [ofVehicle, hV]), List.filter_cons_of_pos (by simp [hV]),
        observe_tracking, List.map_cons, List.map_cons, ih h h]
    · rw [List.filter_cons_of_neg (by simp [ofVehicle, hV]), List.filter_cons_of_neg (by simp [hV])]
      exact ih h v

def SameAsAlone (V : Source) (m₁ m₂ : FlightMonitor) (hs : List Heartbeat) : Prop :=
  (observe m₁ hs).filter (ofVehicle V) = observe m₂ (hs.filter (fun h => h.source == V)) ∧
    ∀ o ∈ observe m₁ hs, o.heartbeat.source ≠ V → o.events = []

instance (V : Source) (m₁ m₂ : FlightMonitor) (hs : List Heartbeat) :
    Decidable (SameAsAlone V m₁ m₂ hs) := by
  unfold SameAsAlone
  infer_instance

lemma sameAsAlone_vehicle {V : Source} {a v h : Heartbeat} {hs : List Heartbeat} (hh : h.source = V)
    (hv : v.source = V) (ha : a.source = V → a = v) :
    SameAsAlone V (tracking a) (tracking v) (h :: hs) ↔
      (a.source ≠ V → h.armed = v.armed) ∧ SameAsAlone V (tracking h) (tracking h) hs := by
  have hkey : (if a.source = h.source then edge a.armed h.armed else []) = edge v.armed h.armed ↔
      (a.source ≠ V → h.armed = v.armed) := by
    rw [hh]
    split_ifs with hs
    · simp [ha hs, hv]
    · rw [eq_comm, edge_eq_nil_iff]
      simp [hs]
  rw [SameAsAlone, List.filter_cons_of_pos (by simp [hh]), observe_tracking, observe_tracking,
    List.filter_cons_of_pos (by simp [ofVehicle, hh]), if_pos (hv.trans hh.symm), List.cons.injEq,
    Observation.mk.injEq, SameAsAlone, ← hkey]
  simp only [List.forall_mem_cons, hh, ne_eq, not_true_eq_false, false_implies, true_and, and_true,
    and_assoc]

lemma sameAsAlone_other {V : Source} {a v h : Heartbeat} {hs : List Heartbeat} (hh : h.source ≠ V) :
    SameAsAlone V (tracking a) (tracking v) (h :: hs) ↔
      (a.source = h.source → h.armed = a.armed) ∧ SameAsAlone V (tracking h) (tracking v) hs := by
  have hkey : (if a.source = h.source then edge a.armed h.armed else []) = [] ↔
      (a.source = h.source → h.armed = a.armed) := by
    split_ifs with hs
    · rw [edge_eq_nil_iff]
      simp [hs]
    · simp [hs]
  rw [SameAsAlone, List.filter_cons_of_neg (by simp [hh]), observe_tracking,
    List.filter_cons_of_neg (by simp [ofVehicle, hh]), SameAsAlone, ← hkey]
  simp only [List.forall_mem_cons, ne_eq, hh, not_false_eq_true, true_implies]
  tauto

lemma sameAsAlone_tracking {V : Source} {a v : Heartbeat} (hs : List Heartbeat) (hv : v.source = V)
    (ha : a.source = V → a = v) :
    SameAsAlone V (tracking a) (tracking v) hs ↔ Undisturbed V a v hs := by
  induction hs generalizing a v with
  | nil => simp [SameAsAlone, Undisturbed, observe]
  | cons h hs ih =>
    rw [Undisturbed]
    split_ifs with hh
    · rw [sameAsAlone_vehicle hh hv ha, ih hh (fun _ => rfl)]
    · rw [sameAsAlone_other hh, ih hv (fun hV => absurd hV hh)]

theorem arm_tracking_among_other_nodes (V : Source) (v : Heartbeat) (hv : v.source = V)
    (hs : List Heartbeat) :
    ((observe {} (v :: hs)).filter (ofVehicle V)).map Observation.isArmed =
        (observe {} ((v :: hs).filter (fun h => h.source == V))).map Observation.isArmed ∧
      (SameAsAlone V {} {} (v :: hs) ↔ Undisturbed V v v hs) := by
  have hpos : (v :: hs).filter (fun h => h.source == V) = v :: hs.filter (fun h => h.source == V) :=
    List.filter_cons_of_pos (by simp [hv])
  have hstart : ∀ l, observe {} (v :: l) = ⟨v, [], v.armed⟩ :: observe (tracking v) l := fun _ => rfl
  refine ⟨?_, ?_⟩
  · rw [hpos, hstart, hstart, List.filter_cons_of_pos (by simp [ofVehicle, hv]), List.map_cons,
      List.map_cons, observe_filter_isArmed V v v]
  · rw [← sameAsAlone_tracking hs hv (fun _ => rfl), SameAsAlone, SameAsAlone, hpos, hstart, hstart,
      List.filter_cons_of_pos (by simp [ofVehicle, hv]), List.cons.injEq]
    simp

theorem arm_tracking_beside_gimbal :
    SameAsAlone ⟨1, 1, 2, 3⟩ {} {}
      [⟨⟨1, 1, 2, 3⟩, false⟩, ⟨⟨1, 154, 26, 8⟩, false⟩, ⟨⟨1, 1, 2, 3⟩, false⟩, ⟨⟨1, 1, 2, 3⟩, true⟩] :=
  (arm_tracking_among_other_nodes ⟨1, 1, 2, 3⟩ ⟨⟨1, 1, 2, 3⟩, false⟩ rfl _).2.mpr (by decide)

theorem arm_edge_hidden_by_gcs :
    (observe {} [⟨⟨1, 1, 2, 3⟩, false⟩, ⟨⟨255, 190, 6, 8⟩, false⟩, ⟨⟨1, 1, 2, 3⟩, true⟩]).flatMap
        Observation.events = [] ∧
      (observe {} ([⟨⟨1, 1, 2, 3⟩, false⟩, ⟨⟨255, 190, 6, 8⟩, false⟩, ⟨⟨1, 1, 2, 3⟩, true⟩].filter
        (fun h => h.source == ⟨1, 1, 2, 3⟩))).flatMap Observation.events = [.vehicleArmed] := by
  decide

end FlightMonitor

end MavlinkLogService
