import MavlinkLogService.Archive.Ledger
import MavlinkLogService.Service.EraseGate

/-! The books of the service: the statistics table and the published result of the last cycle, against the
history of outcomes. -/

namespace MavlinkLogService.Service.DroneLogService

open Archive Archive.LogDownloader Library Session Storage

variable {s s' : DroneLogService} {e : Event} {ms : List Moment}

def runsCycle (s : DroneLogService) : Bool :=
  s.control.state == .archive || s.control.state == .manualDownload

def chosen (s : DroneLogService) (entry : LogEntry) : Bool :=
  s.control.state == .archive || selected s.control entry

structure Published (logs : List LogEntry) (done : List (LogEntry × ArchiveResult)) (result : ArchiveCycleResult) :
    Prop where
  tallied : Reckoned logs done {} result
  allArchived : result.allArchived = true ↔ result.failed = 0 ∧ result.cancelled = 0

lemma archiveCycle_published {H : Promise} {settings : Settings} (select : LogEntry → Bool) (d₀ : LogDownloader) :
    Prog.Triple (Fair H) (fun d => d = d₀) (archiveCycle settings select)
      (fun x d => ∃ done, Entered d₀ done d ∧ Published (x.1.filter select) done x.2) := by
  refine .bind (M := fun _ => Unbooked d₀) (enumerateLogs_unbooked d₀) fun logs => ?_
  refine .bind (archiveAll_accounts (logs.filter select) d₀) fun result => .pure ?_
  rintro d ⟨done, hd, ht, hall⟩
  exact ⟨done, hd, ht, hall⟩

lemma eraseUnlessCancelled_entered {H : Promise} {settings : Settings} (d₀ : LogDownloader) :
    Prog.Triple (Fair H) (fun d => d = d₀) (eraseUnlessCancelled settings) (fun _ d => Entered d₀ [] d) := by
  refine .bind (M := fun _ => Unbooked d₀) (unbooked_of_quiet (cancelled_quiet settings) d₀) fun _ =>
    .ite (fun _ => .pure fun d hd => hd.entered) fun _ => ?_
  exact .bind (eraseFlightControllerLogs_entered d₀) fun _ => .pure fun d hd => hd

inductive Posts (s s' : DroneLogService) : Prop
  | cycle (done : List (LogEntry × ArchiveResult)) : s.runsCycle = true → Entered s.downloader done s'.downloader →
      Published (s'.control.cachedFcLogs.filter s.chosen) done s'.lastCycleResult → Posts s s'
  | other : s.runsCycle = false → Entered s.downloader [] s'.downloader → s'.lastCycleResult = s.lastCycleResult →
      Posts s s'

lemma perform_records {α : Type} {task : Archive.Task α} {a : α} (h : s.perform ms task = some (a, s')) :
    s'.lastCycleResult = s.lastCycleResult ∧ s'.consecutiveArchiveFailures = s.consecutiveArchiveFailures := by
  simp only [perform] at h
  split at h
  · simp only [Option.some.injEq, Prod.mk.injEq] at h
    obtain ⟨_, rfl⟩ := h
    exact ⟨rfl, rfl⟩
  · cases h

lemma work_posts (h : s.work ms = some s') : Posts s s' := by
  have hbusy := (work_cases h).1.busy
  have hH := honours_nothing ms
  rw [work] at h
  split at h
  · rename_i hst
    have hall : (fun _ : LogEntry => true) = s.chosen := funext fun e => by simp [chosen, hst]
    obtain ⟨⟨⟨logs, result⟩, sm⟩, hp, h⟩ := Option.bind_eq_some_iff.mp h
    rw [hall] at hp
    obtain ⟨done, hentered, hpub⟩ := (perform_eq hp).returns hbusy hH (archiveCycle_published _ _)
    dsimp only at h
    split_ifs at h <;> obtain rfl := Option.some.inj h <;> exact .cycle done (by simp [runsCycle, hst]) hentered hpub
  · rename_i hst
    obtain ⟨⟨_, sm⟩, hp, h⟩ := Option.bind_eq_some_iff.mp h
    obtain rfl := Option.some.inj h
    have hentered := (perform_eq hp).returns hbusy hH (eraseUnlessCancelled_entered _)
    exact .other (by simp [runsCycle, hst]) hentered (perform_records hp).1
  · rename_i hst
    obtain ⟨⟨logs, sm⟩, hp, h⟩ := Option.bind_eq_some_iff.mp h
    obtain rfl := Option.some.inj h
    have hunbooked := (perform_eq hp).returns hbusy hH (enumerateLogs_unbooked _)
    exact .other (by simp [runsCycle, hst]) hunbooked.entered (perform_records hp).1
  · rename_i hst
    have hsel : selected s.control = s.chosen := funext fun e => by simp [chosen, hst]
    obtain ⟨⟨⟨logs, result⟩, sm⟩, hp, h⟩ := Option.bind_eq_some_iff.mp h
    rw [hsel] at hp
    obtain ⟨done, hentered, hpub⟩ := (perform_eq hp).returns hbusy hH (archiveCycle_published _ _)
    obtain rfl := Option.some.inj h
    exact .cycle done (by simp [runsCycle, hst]) hentered hpub
  · rename_i hst
    obtain ⟨⟨ok, sm⟩, hp, h⟩ := Option.bind_eq_some_iff.mp h
    obtain rfl := Option.some.inj h
    have hentered := (perform_eq hp).returns hbusy hH
      ((eraseFlightControllerLogs_entered _).weaken (fun d hd => by rw [hd]; exact refl_of Unbooked _) fun _ _ hd => hd)
    exact .other (by simp [runsCycle, hst]) ⟨hentered.outcomes, hentered.booked⟩ (perform_records hp).1
  · cases h

lemma step_posts (h : s.step (.work ms) = some s') : Posts s s' := by
  simp only [step] at h
  split_ifs at h
  obtain ⟨s₁, h₁, rfl⟩ := Option.map_eq_some_iff.mp h
  cases work_posts h₁ with
  | cycle done hrun hentered hpub => exact .cycle done hrun hentered hpub
  | other hrun hentered hres => exact .other hrun hentered hres

lemma cleanup_statistics (s : DroneLogService) (r : Reading) {k : Stat} (hk : k ≠ .storageBytes) :
    (s.cleanup r).downloader.database.getStat k = s.downloader.database.getStat k := by
  have hset : (s.cleanup r).downloader.database = s.downloader.database.setStat .storageBytes
      (s.downloader.storage.enforceStorageLimit s.config.storage r.listing).totalVerifiedBytes := by
    simp only [cleanup]
    split_ifs <;> rfl
  rw [hset]
  exact Function.update_of_ne hk _ _

lemma drain_records (s : DroneLogService) (connected : Bool) :
    (s.drain connected).downloader.database = s.downloader.database ∧
      (s.drain connected).lastCycleResult = s.lastCycleResult ∧
      (s.drain connected).consecutiveArchiveFailures = s.consecutiveArchiveFailures := by
  rw [drain]
  split
  · exact ⟨rfl, rfl, rfl⟩
  · rename_i cmd cmds _
    cases cmd with
    | startArchive =>
      rw [drainCommand]
      split_ifs <;> exact ⟨rfl, rfl, rfl⟩
    | _ => exact ⟨rfl, rfl, rfl⟩

lemma step_statistics (h : s.step e = some s') (he : ∀ ms, e ≠ .work ms) {k : Stat} (hk : k ≠ .storageBytes) :
    s'.downloader.database.getStat k = s.downloader.database.getStat k := by
  cases step_cases h with
  | arrive a hs => rw [hs]; rfl
  | drain connected hs => rw [hs, (drain_records s connected).1]
  | turn r s₁ ht hs =>
    subst hs
    cases ht with
    | stay hs => rw [hs]
    | move state stale _ _ hs => rw [hs]
    | beginCycle _ hs => rw [hs]; rfl
    | cleanup _ hs => rw [hs]; exact cleanup_statistics s r hk
  | work ms _ => exact absurd rfl (he ms)
  | restart config hs => rw [hs]; rfl

lemma signal_outcome {a : Action} (h : Signal a) : outcome? a = none := by
  cases a with
  | outcome entry res => exact h.elim
  | _ => rfl

lemma step_enters_nothing (h : s.step e = some s') (he : ∀ ms, e ≠ .work ms) :
    Entered s.downloader [] s'.downloader := by
  obtain ⟨ext, ht, hs⟩ := (step_idles h he).trace
  refine ⟨?_, .nothing fun k hk => step_statistics h he hk⟩
  rw [show s'.downloader.trace = s.downloader.trace ++ ext from ht, outcomes_append,
    outcomes_eq_nil fun a ha => signal_outcome (hs a ha)]

lemma step_entered (h : s.step e = some s') : ∃ done, Entered s.downloader done s'.downloader := by
  by_cases he : ∀ ms, e ≠ .work ms
  · exact ⟨[], step_enters_nothing h he⟩
  · push Not at he
    obtain ⟨ms, rfl⟩ := he
    cases step_posts h with
    | cycle done _ hentered _ => exact ⟨done, hentered⟩
    | other _ hentered _ => exact ⟨[], hentered⟩

theorem statistics_count_outcomes (config : Settings) (storage : StorageManager) (database : Database)
    (ts : List (Transition DroneLogService Event)) (s : DroneLogService)
    (h : Run step (start config storage database []) ts s) :
    Booked (outcomes s.trace) database s.downloader.database := by
  refine Run.invariant (fun _ => True)
    (fun s : DroneLogService => Booked (outcomes s.trace) database s.downloader.database) ?_ ?_ h fun _ _ => trivial
  · exact .refl database
  intro s e s' hs he _
  obtain ⟨done, hentered⟩ := step_entered he
  rw [show outcomes s'.trace = _ from hentered.outcomes]
  exact hs.trans hentered.booked

def twoFlights : List Event :=
  toArchive ++ [.drain true, .work (archivePair 7 1), .drain true, .work [calm, calm], .drain true, .turn {},
    .arrive (beat true 7000), .arrive (beat false 7001), .drain true, .turn { now := 20000 }, .drain true, .turn {},
    .drain true, .work (listOne ++ List.replicate 3 calm ++ [{ arrivals := [.message (.logData 1 0 1 [7]) true] }])]

theorem statistics_count_outcomes_two_flights :
    ∃ x, Run.exec step (start sampleConfig {} {} []) twoFlights = some x ∧
      Booked (outcomes x.2.trace) {} x.2.downloader.database ∧
      (outcomes x.2.trace).map Prod.snd = [.downloaded, .skippedDuplicate] := by
  refine exists_of_any (fun x => (outcomes x.2.trace).map Prod.snd = [.downloaded, .skippedDuplicate])
    (by decide +kernel) fun x hx hout => ⟨?_, hout⟩
  exact statistics_count_outcomes sampleConfig {} {} x.1 x.2 (Run.of_exec hx)

def lastCycle (ts : List (Transition DroneLogService Event)) : Option (Transition DroneLogService Event) :=
  ts.foldl (fun last t =>
    match t.event with
    | .restart _ => none
    | .work _ => if t.pre.runsCycle then some t else last
    | _ => last) none

lemma cleanup_result (s : DroneLogService) (r : Reading) : (s.cleanup r).lastCycleResult = s.lastCycleResult := by
  simp only [cleanup]
  split_ifs <;> rfl

lemma Turns.result {r : Reading} (h : Turns s r s') : s'.lastCycleResult = s.lastCycleResult := by
  cases h with
  | stay h => rw [h]
  | move state stale _ _ h => rw [h]
  | beginCycle _ h => rw [h]; rfl
  | cleanup _ h => rw [h, cleanup_result]

structure Current (last : Option (Transition DroneLogService Event)) (result : ArchiveCycleResult) : Prop where
  none : last = none → result = {}
  some : ∀ t, last = some t →
    Published (t.post.control.cachedFcLogs.filter t.pre.chosen) (outcomes (actions t)) result

lemma step_publishes (h : s.step (.work ms) = some s') (hrun : s.runsCycle = true) :
    Published (s'.control.cachedFcLogs.filter s.chosen) (outcomes (actions ⟨s, .work ms, s'⟩)) s'.lastCycleResult := by
  have hst : s.control.state = .archive ∨ s.control.state = .manualDownload := by simpa [runsCycle] using hrun
  have hlater := work_working (step_work h).1 (by rcases hst with hst | hst <;> simp [hst])
    (by rcases hst with hst | hst <;> simp [hst])
  obtain ⟨ext, ht, _⟩ := hlater.trace
  rw [actions_eq (t := ⟨s, .work ms, s'⟩) ht]
  cases step_posts h with
  | cycle done _ hentered hpub =>
    have hdone := hentered.outcomes
    rw [ht, outcomes_append] at hdone
    rw [List.append_cancel_left hdone]
    exact hpub
  | other hother _ _ => simp [hother] at hrun

theorem published_result_current (config : Settings) (storage : StorageManager) (database : Database)
    (ts : List (Transition DroneLogService Event)) (s : DroneLogService)
    (h : Run step (start config storage database []) ts s) : Current (lastCycle ts) s.lastCycleResult := by
  induction h with
  | nil => exact ⟨fun _ => rfl, fun t ht => by cases ht⟩
  | @snoc ts s e s' _ he ih =>
    rw [lastCycle, List.foldl_append, ← lastCycle]
    cases step_cases he with
    | arrive a hs => rw [hs]; exact ih
    | drain connected hs => rw [hs, (drain_records _ connected).2.1]; exact ih
    | turn r s₁ ht hs => rw [hs]; exact ht.result ▸ ih
    | work ms _ =>
      simp only [List.foldl_cons, List.foldl_nil]
      split_ifs with hrun
      · refine ⟨(nomatch ·), fun t ht => ?_⟩
        obtain rfl := Option.some.inj ht
        exact step_publishes he hrun
      · cases step_posts he with
        | cycle done hcycle _ _ => exact absurd hcycle hrun
        | other _ _ hres => rw [hres]; exact ih
    | restart config hs => rw [hs]; exact ⟨fun _ => rfl, fun t ht => by cases ht⟩

theorem published_result_current_two_flights :
    ∃ x, Run.exec step (start sampleConfig {} {} []) twoFlights = some x ∧ x.2.lastCycleResult.skipped = 1 ∧
      Current (lastCycle x.1) x.2.lastCycleResult := by
  refine exists_of_any (fun x => x.2.lastCycleResult.skipped = 1) (by decide +kernel) fun x hx hskip => ⟨hskip, ?_⟩
  exact published_result_current sampleConfig {} {} x.1 x.2 (Run.of_exec hx)

end MavlinkLogService.Service.DroneLogService
