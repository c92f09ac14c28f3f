import MavlinkLogService.Service.DroneLogService

/-! The acknowledgement of `logs.download` and the logs its job goes on to archive. -/

namespace MavlinkLogService.Service

open DroneLogService

def Cached (c : Control) (id : UInt16) : Prop := ∃ e ∈ c.cachedFcLogs, e.id = id

instance (c : Control) (id : UInt16) : Decidable (Cached c id) := List.decidableBEx _ _

def selectedLogs (c : Control) (logs : List LogEntry) : List LogEntry := logs.filter (selected c)

def Admitted (c : Control) (connected : Bool) : Prop :=
  isArchiveBusy c.state = false ∧ c.monitor.armed = false ∧ connected = true

structure TruthfulAck (c : Control) (ids : List UInt16) (all connected : Bool) : Prop where
  count : ∀ cmd, (c.requestCompanionJob .download ids all connected).1.result = .accepted →
    (c.requestCompanionJob .download ids all connected).2.1 = c.push cmd →
      ∀ (s : DroneLogService) (link : Bool), (selectedLogs (s.drainCommand link cmd).control c.cachedFcLogs).length =
        (c.requestCompanionJob .download ids all connected).1.queued
  notFound : Admitted c connected → ∀ id,
    id ∈ (c.requestCompanionJob .download ids all connected).1.notFound ↔ all = false ∧ id ∈ ids ∧ ¬ Cached c id
  answer : (c.requestCompanionJob .download ids all connected).1.result = .notFound ↔
    Admitted c connected ∧ all = false ∧ ∀ id ∈ ids, ¬ Cached c id

section

variable {c : Control} {ids : List UInt16} {all connected : Bool}

lemma known_iff (id : UInt16) : c.cachedFcLogs.any (fun e => e.id == id) = decide (Cached c id) := by
  rw [Bool.eq_iff_iff, List.any_eq_true, decide_eq_true_eq]
  simp [Cached]

lemma selectedLogs_length (hids : (c.cachedFcLogs.map (·.id)).Nodup) {c' : Control}
    (hall : c'.manualDownloadAll = false)
    (hvalid : ∀ id ∈ c'.manualDownloadIds, Cached c id) :
    (selectedLogs c' c.cachedFcLogs).length = c'.manualDownloadIds.toFinset.card := by
  have hmap : (selectedLogs c' c.cachedFcLogs).map (·.id) =
      (c.cachedFcLogs.map (·.id)).filter fun id => c'.manualDownloadIds.contains id := by
    rw [List.filter_map]
    congr 1
    exact List.filter_congr fun e _ => by simp [selected, hall]
  have hnodup : ((selectedLogs c' c.cachedFcLogs).map (·.id)).Nodup := by
    rw [hmap]
    exact hids.filter _
  rw [← List.length_map (·.id), ← List.toFinset_card_of_nodup hnodup, hmap]
  congr 1
  ext id
  simp only [List.mem_toFinset, List.mem_filter, List.mem_map, List.contains_iff_mem]
  exact ⟨And.right, fun h => ⟨hvalid id h, h⟩⟩

lemma request_refused (h : ¬ Admitted c connected) :
    (c.requestCompanionJob .download ids all connected).1.result ≠ .accepted ∧
      (c.requestCompanionJob .download ids all connected).1.result ≠ .notFound := by
  simp only [Control.requestCompanionJob, reduceCtorEq, if_false]
  split_ifs with h₁ h₂ h₃
  · exact ⟨by simp, by simp⟩
  · exact ⟨by simp, by simp⟩
  · exact ⟨by simp, by simp⟩
  all_goals exact absurd ⟨by simpa using h₁, by simpa using h₂, by simpa using h₃⟩ h

lemma request_all (h : Admitted c connected) :
    c.requestCompanionJob .download ids true connected =
      ({ queued := c.cachedFcLogs.length }, c.push (.downloadLogs [] true), {}) := by
  obtain ⟨h₁, h₂, h₃⟩ := h
  simp [Control.requestCompanionJob, h₁, h₂, h₃]

lemma request_ids (h : Admitted c connected) :
    c.requestCompanionJob .download ids false connected =
      if ids.filter (fun id => Cached c id) = [] then
        ({ result := .notFound, notFound := ids.filter fun id => ¬ Cached c id }, c, {})
      else
        ({ queued := (ids.filter fun id => Cached c id).length, notFound := ids.filter fun id => ¬ Cached c id },
          c.push (.downloadLogs (ids.filter fun id => Cached c id) false), {}) := by
  obtain ⟨h₁, h₂, h₃⟩ := h
  simp only [Control.requestCompanionJob, h₁, h₂, h₃, known_iff, reduceCtorEq, Bool.false_eq_true, Bool.not_true,
    Bool.not_false, Bool.true_and, if_false, List.isEmpty_iff, decide_not]
  split_ifs with hnone
  · simp [hnone]
  · rfl

lemma ids_answer (h : Admitted c connected) :
    (c.requestCompanionJob .download ids false connected).1.result = .notFound ↔ ∀ id ∈ ids, ¬ Cached c id := by
  rw [request_ids h]
  split_ifs with hnone
  · simpa [List.filter_eq_nil_iff] using hnone
  · simpa [List.filter_eq_nil_iff] using hnone

lemma push_injective {cmd cmd' : CompanionCommand} (h : c.push cmd = c.push cmd') : cmd = cmd' := by
  have hcommands := congrArg Control.commands h
  simpa [Control.push] using hcommands

end

theorem download_ack_truthful_iff (c : Control) (hids : (c.cachedFcLogs.map (·.id)).Nodup) (ids : List UInt16)
    (all connected : Bool) :
    TruthfulAck c ids all connected ↔
      (Admitted c connected → all = true ∨ (ids.filter fun id => Cached c id).Nodup) := by
  by_cases hgate : Admitted c connected
  · cases all with
    | true =>
      refine ⟨fun _ _ => Or.inl rfl, fun _ => ⟨?_, ?_, ?_⟩⟩
      · rw [request_all hgate]
        intro cmd _ hpush s link
        obtain rfl := push_injective hpush
        simp [selectedLogs, selected, drainCommand, resetCancel, mark]
      · rw [request_all hgate]
        simp
      · rw [request_all hgate]
        simp
    | false =>
      have hlength : ∀ (s : DroneLogService) (link : Bool),
          (selectedLogs (s.drainCommand link (.downloadLogs (ids.filter fun id => Cached c id) false)).control
            c.cachedFcLogs).length = (ids.filter fun id => Cached c id).toFinset.card :=
        fun s link => selectedLogs_length hids rfl fun id hid => by simpa using (List.mem_filter.mp hid).2
      constructor
      · intro h _
        refine Or.inr ?_
        by_cases hnone : ids.filter (fun id => Cached c id) = []
        · rw [hnone]
          exact List.nodup_nil
        · have hcount := h.count
          rw [request_ids hgate, if_neg hnone] at hcount
          have hcard := hcount _ rfl rfl (.start { storage := ⟨1, fun _ => ⟨0, 0, 0, 0, 0, 0⟩⟩ } {} {} []) true
          rw [hlength] at hcard
          exact Multiset.toFinset_card_eq_card_iff_nodup.mp hcard
      · intro hcond
        have hnodup := (hcond hgate).resolve_left Bool.false_ne_true
        refine ⟨?_, fun _ id => ?_, ?_⟩
        · rw [request_ids hgate]
          split_ifs with hnone
          · intro cmd haccepted
            cases haccepted
          · intro cmd _ hpush s link
            obtain rfl := push_injective hpush
            rw [hlength, List.toFinset_card_of_nodup hnodup]
        · rw [request_ids hgate]
          split_ifs <;> simp
        · rw [ids_answer hgate]
          simp [hgate]
  · obtain ⟨haccepted, hnotFound⟩ := @request_refused c ids all connected hgate
    refine ⟨fun _ h => absurd h hgate, fun _ => ⟨fun cmd h => absurd h haccepted, fun h => absurd h hgate, ?_⟩⟩
    exact ⟨fun h => absurd h hnotFound, fun h => absurd h.1 hgate⟩

def twoCached : Control := { state := .waitArm, cachedFcLogs := [⟨1, 2, 2, 0, 900⟩, ⟨2, 2, 2, 0, 450⟩] }

theorem download_ack_truthful_iff_one_stale : TruthfulAck twoCached [2, 7, 7] false true :=
  (download_ack_truthful_iff twoCached (by decide) [2, 7, 7] false true).mpr fun _ => Or.inr (by decide)

theorem repeated_id_counted_twice :
    (twoCached.requestCompanionJob .download [1, 1] false true).1 = { queued := 2 } ∧
      (twoCached.requestCompanionJob .download [1, 1] false true).2.1 = twoCached.push (.downloadLogs [1, 1] false) ∧
      (∀ (s : DroneLogService) (link : Bool),
        (selectedLogs (s.drainCommand link (.downloadLogs [1, 1] false)).control twoCached.cachedFcLogs).length = 1) ∧
      ¬ TruthfulAck twoCached [1, 1] false true := by
  have hone : ∀ (s : DroneLogService) (link : Bool),
      (selectedLogs (s.drainCommand link (.downloadLogs [1, 1] false)).control twoCached.cachedFcLogs).length = 1 :=
    fun _ _ => rfl
  refine ⟨by decide, by decide, hone, fun h => ?_⟩
  have hcount := h.count (.downloadLogs [1, 1] false) (by decide) (by decide)
    (.start { storage := ⟨1, fun _ => ⟨0, 0, 0, 0, 0, 0⟩⟩ } {} {} []) true
  rw [hone] at hcount
  revert hcount
  decide

end MavlinkLogService.Service
