import MavlinkLogService.Service.DrainGate

/-! `Cleanup` after a cycle: whether it is executed before the service does anything else. -/

namespace MavlinkLogService.Service

open Archive Library Storage

namespace DroneLogService

variable {s s' : DroneLogService} {e : Event} {t : Transition DroneLogService Event}
  {ts : List (Transition DroneLogService Event)}

def owesAfter (owed : Bool) (t : Transition DroneLogService Event) : Bool :=
  match t.event, t.pre.control.state with
  | .work _, .archive | .work _, .eraseAll | .work _, .manualDownload => true
  | .turn _, .cleanup => false
  | .restart _, _ => false
  | _, _ => owed

def owesCleanup (ts : List (Transition DroneLogService Event)) : Bool := ts.foldl owesAfter false

lemma owesCleanup_snoc (ts : List (Transition DroneLogService Event)) (t : Transition DroneLogService Event) :
    owesCleanup (ts ++ [t]) = owesAfter (owesCleanup ts) t := by
  rw [owesCleanup, List.foldl_append]
  rfl

/-- Between a cycle and its `Cleanup`, the drain begins no job, and `Cleanup` is not left for a lost link. -/
structure Undisturbed (t : Transition DroneLogService Event) : Prop where
  drain : drains t.event = true → t.pre.control.state = .eraseAll ∨ t.pre.control.state = .cleanup →
    (t.pre.control.commands.head?.bind (·.kind?)).all (fun kind => kind == .archive &&
      (isArchiveBusy t.pre.control.state || t.pre.control.monitor.armed || unlinked t.event)) = true
  link : ∀ x ∈ handled t, x.1.state = .cleanup → .linkLost ∉ x.1.emits x.2

lemma drain_undisturbed {connected : Bool} (h : (s.control.commands.head?.bind (·.kind?)).all (fun kind =>
      kind == .archive && (isArchiveBusy s.control.state || s.control.monitor.armed || !connected)) = true) :
    (s.drain connected).control.state = s.control.state := by
  rw [drain]
  split
  · rfl
  · rename_i cmd cmds hq
    rw [hq] at h
    cases cmd with
    | startArchive =>
      rw [drainCommand, if_pos]
      simpa [CompanionCommand.kind?] using h
    | cancelArchive => rfl
    | _ => simp [CompanionCommand.kind?] at h

lemma step_owes {owed : Bool}
    (h : owed = true → s.control.state = .eraseAll ∨ s.control.state = .cleanup) (hs : s.step e = some s')
    (hu : Undisturbed ⟨s, e, s'⟩) :
    owesAfter owed ⟨s, e, s'⟩ = true → s'.control.state = .eraseAll ∨ s'.control.state = .cleanup := by
  intro howed
  cases step_cases hs with
  | arrive a heq =>
    subst heq
    have hstate : (s.control.receive a).1.state = s.control.state := by
      rcases h howed with hst | hst
      · exact (Control.receive_steady s.control a (by rw [hst]; rfl)).state
      · rw [hst]
        exact Control.receive_cleanup hst (hu.link (s.control, a) List.mem_cons_self hst)
    rw [arrive]
    simpa only [hstate] using h howed
  | drain connected heq =>
    subst heq
    rw [drain_undisturbed (hu.drain rfl (h howed))]
    exact h howed
  | turn r s₁ ht heq =>
    subst heq
    have hst : s.control.state = .eraseAll := by
      rcases Bool.eq_false_or_eq_true owed with ho | ho
      · refine (h ho).resolve_right fun hc => ?_
        simp [owesAfter, hc] at howed
      · cases hc : s.control.state <;> simp [owesAfter, hc, ho] at howed
    cases ht with
    | stay h₁ =>
      rw [h₁]
      exact Or.inl hst
    | move state stale hm _ _ =>
      rw [hst] at hm
      cases state <;> exact hm.elim
    | beginCycle hd _ => exact absurd (hst.symm.trans hd) (by simp)
    | cleanup hd _ => exact absurd (hst.symm.trans hd) (by simp)
  | work ms hw =>
    cases hw with
    | archive logs result sm _ _ _ hcon =>
      rw [hcon]
      dsimp only
      split_ifs
      · exact Or.inl rfl
      · exact Or.inr rfl
    | eraseAll sm _ _ _ hcon =>
      rw [hcon]
      exact Or.inr rfl
    | manualDownload logs result sm _ _ _ hcon =>
      rw [hcon]
      exact Or.inr rfl
    | manualRefresh logs sm hst _ _ _ =>
      simp only [owesAfter, hst] at howed
      exact absurd (h howed) (by simp [hst])
    | manualErase ok sm hst _ _ _ =>
      simp only [owesAfter, hst] at howed
      exact absurd (h howed) (by simp [hst])
  | restart config heq => cases howed

lemma run_owes {s₀ : DroneLogService} (hrun : Run step s₀ ts s) (hu : ∀ t ∈ ts, Undisturbed t) :
    owesCleanup ts = true → s.control.state = .eraseAll ∨ s.control.state = .cleanup := by
  induction hrun with
  | nil => exact fun h => by cases h
  | @snoc ts s e s' _ hs ih =>
    rw [owesCleanup_snoc]
    exact step_owes (ih fun t ht => hu t (List.mem_append_left _ ht)) hs (hu _ (by simp))

theorem cleanup_follows_cycle (config : Settings) (storage : StorageManager) (database : Database)
    (ts : List (Transition DroneLogService Event)) (s : DroneLogService)
    (hrun : Run step (start config storage database []) ts s) (hts : ∀ t ∈ ts, Undisturbed t) :
    (owesCleanup ts = true → s.control.state ≠ .waitArm ∧ s.control.state ≠ .waitDisarm ∧
      s.control.state ≠ .delay ∧ s.control.state ≠ .enumerate) ∧
    ∀ a t b, ts = a ++ t :: b → owesCleanup a = true → (∃ ms, t.event = .work ms) →
      t.pre.control.state ≠ .archive ∧ t.pre.control.state ≠ .manualDownload ∧
      t.pre.control.state ≠ .manualRefresh ∧ t.pre.control.state ≠ .manualErase := by
  refine ⟨fun howed => ?_, fun a t b hab howed _ => ?_⟩
  · rcases run_owes hrun hts howed with h | h <;> simp [h]
  · obtain ⟨hbefore, _⟩ := hrun.split hab
    rcases run_owes hbefore (fun u hu => hts u (by simp [hab, hu])) howed with h | h <;> simp [h]

instance (t : Transition DroneLogService Event) : Decidable (Undisturbed t) :=
  decidable_of_iff
    ((drains t.event = true → t.pre.control.state = .eraseAll ∨ t.pre.control.state = .cleanup →
      (t.pre.control.commands.head?.bind (·.kind?)).all (fun kind => kind == .archive &&
        (isArchiveBusy t.pre.control.state || t.pre.control.monitor.armed || unlinked t.event)) = true) ∧
      (∀ x ∈ handled t, x.1.state = .cleanup → .linkLost ∉ x.1.emits x.2))
    ⟨fun h => ⟨h.1, h.2⟩, fun h => ⟨h.1, h.2⟩⟩

theorem cleanup_follows_cycle_one_flight :
    ∃ x, Run.exec step (start sampleConfig {} {} [])
        (toArchive ++ [.drain true, .work (archivePair 7 1), .drain true, .work [calm, calm]]) = some x ∧
      owesCleanup x.1 = true ∧ x.2.control.state ≠ .waitArm ∧ x.2.control.state ≠ .delay := by
  refine exists_of_any (fun x => owesCleanup x.1 = true ∧ ∀ t ∈ x.1, Undisturbed t) (by decide +kernel) ?_
  rintro x hx ⟨howed, hu⟩
  have hidle := (cleanup_follows_cycle sampleConfig {} {} x.1 x.2 (Run.of_exec hx) hu).1 howed
  exact ⟨howed, hidle.1, hidle.2.2.1⟩

theorem refresh_skips_cleanup :
    ∃ x, Run.exec step (start sampleConfig {} {} [])
        (toArchive ++ [.drain true, .work (archivePair 7 1), .drain true, .work [calm, calm],
          .arrive (.job .refresh [] false true), .drain true, .drain true, .work listOne]) = some x ∧
      owesCleanup x.1 = true ∧ x.2.control.state = .waitArm := by
  exact exists_of_any (fun x => owesCleanup x.1 = true ∧ x.2.control.state = .waitArm) (by decide +kernel)
    fun _ _ h => h

end DroneLogService

end MavlinkLogService.Service
