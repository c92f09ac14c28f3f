import MavlinkLogService.Archive.Cycle
import MavlinkLogService.Service.Arrivals
import MavlinkLogService.Service.DroneLogService

/-! The steps of the service, inverted: what a step can have been, and what its task can have done. -/

namespace MavlinkLogService.Service

open Archive Archive.LogDownloader Library Session Storage

namespace DroneLogService

variable {s s' : DroneLogService} {ms : List Moment}

structure Performs {α : Type} (s : DroneLogService) (ms : List Moment) (task : Archive.Task α) (a : α)
    (s' : DroneLogService) : Prop where
  run : task.run s.downloader (s.control.observe ms).2 = some (a, s'.downloader, [])
  control : s'.control = (handleAll Control.receive s.control (ms.flatMap (·.arrivals))).1
  config : s'.config = s.config

lemma perform_eq {α : Type} {task : Archive.Task α} {a : α} (h : s.perform ms task = some (a, s')) :
    Performs s ms task a s' := by
  simp only [perform] at h
  split at h
  · rename_i b d hr
    simp only [Option.some.injEq, Prod.mk.injEq] at h
    obtain ⟨rfl, rfl⟩ := h
    exact ⟨hr, (Control.observe_handles s.control ms).1, rfl⟩
  · cases h

lemma Performs.heard {α : Type} {task : Archive.Task α} {a : α} (h : Performs s ms task a s') :
    events s'.trace = events s.trace ++
        events (handleAll Control.receive s.control (ms.flatMap (·.arrivals))).2.marks ∧
      s'.downloader.inbox.cancelRequested = (s.downloader.inbox.cancelRequested ||
        (handleAll Control.receive s.control (ms.flatMap (·.arrivals))).2.cancel) := by
  obtain ⟨used, hu, hl⟩ := task.lawful h.run
  rw [List.append_nil] at hu
  obtain ⟨_, hm, hc⟩ := Control.observe_handles s.control ms
  rw [hu] at hm hc
  rw [← hm, ← hc]
  exact ⟨by rw [events_flatMap]; exact hl.1, hl.2⟩

lemma Performs.events_eq {α : Type} {task : Archive.Task α} {a : α} {ext : List Action} (h : Performs s ms task a s')
    (ht : s'.trace = s.trace ++ ext) :
    events ext = events (handleAll Control.receive s.control (ms.flatMap (·.arrivals))).2.marks := by
  have he := h.heard.1
  rw [ht, events_append] at he
  exact List.append_cancel_left he

lemma Performs.returns {α : Type} {task : Archive.Task α} {a : α} {H : Promise} {Q : α → LogDownloader → Prop}
    (h : Performs s ms task a s') (hb : isArchiveBusy s.control.state = true) (hH : Honours H ms)
    (ht : Prog.Triple (Fair H) (fun d => d = s.downloader) task Q) : Q a s'.downloader :=
  (ht s.downloader _ a s'.downloader [] rfl (Control.observe_fair hb hH) h.run).1

inductive Works (s : DroneLogService) (ms : List Moment) (s' : DroneLogService) : Prop
  | archive (logs : List LogEntry) (result : ArchiveCycleResult) (sm : DroneLogService) :
      s.control.state = .archive → Performs s ms (archiveCycle s.config fun _ => true) (logs, result) sm →
      s'.downloader = sm.downloader → s'.control = { sm.control with
        cachedFcLogs := logs
        fcLogsStale := false
        state := if result.cancelled = 0 ∧ result.allArchived = true ∧
          s.config.download.eraseAfterSuccess = true ∧ logs ≠ [] then .eraseAll else .cleanup } →
      Works s ms s'
  | eraseAll (sm : DroneLogService) :
      s.control.state = .eraseAll → Performs s ms (eraseUnlessCancelled s.config) () sm →
      s'.downloader = sm.downloader → s'.control = { sm.control with state := .cleanup } → Works s ms s'
  | manualRefresh (logs : List LogEntry) (sm : DroneLogService) :
      s.control.state = .manualRefresh → Performs s ms (enumerateLogs s.config) logs sm →
      s'.downloader = sm.downloader →
      s'.control = ({ sm.control with cachedFcLogs := logs, fcLogsStale := false }).returnToIdleState → Works s ms s'
  | manualDownload (logs : List LogEntry) (result : ArchiveCycleResult) (sm : DroneLogService) :
      s.control.state = .manualDownload →
      Performs s ms (archiveCycle s.config (selected s.control)) (logs, result) sm →
      s'.downloader = sm.downloader → s'.control = { sm.control with
        cachedFcLogs := logs, fcLogsStale := false, manualDownloadIds := [], manualDownloadAll := false
        state := .cleanup } →
      Works s ms s'
  | manualErase (ok : Bool) (sm : DroneLogService) :
      s.control.state = .manualErase → Performs s.resetCancel ms (eraseFlightControllerLogs s.config) ok sm →
      s'.downloader = sm.downloader →
      s'.control = ({ sm.control with cachedFcLogs := [], fcLogsStale := false }).returnToIdleState → Works s ms s'

lemma Works.busy (h : Works s ms s') : isArchiveBusy s.control.state = true := by
  cases h with
  | archive logs result sm hst _ _ _ => rw [hst]; rfl
  | eraseAll sm hst _ _ _ => rw [hst]; rfl
  | manualRefresh logs sm hst _ _ _ => rw [hst]; rfl
  | manualDownload logs result sm hst _ _ _ => rw [hst]; rfl
  | manualErase ok sm hst _ _ _ => rw [hst]; rfl

lemma work_cases (h : s.work ms = some s') : Works s ms s' ∧ s'.config = s.config := by
  rw [work] at h
  split at h
  · rename_i hst
    obtain ⟨⟨⟨logs, result⟩, sm⟩, hp, h⟩ := Option.bind_eq_some_iff.mp h
    have hp := perform_eq hp
    have hc : (sm.cacheEnumerationResult logs).config = s.config := hp.config
    simp only [hc] at h
    split_ifs at h with hg
    · obtain rfl := Option.some.inj h
      exact ⟨.archive logs result sm hst hp rfl (by simp only [if_pos hg]; rfl), rfl⟩
    · obtain rfl := Option.some.inj h
      exact ⟨.archive logs result sm hst hp rfl (by simp only [if_neg hg]; rfl), rfl⟩
  · rename_i hst
    obtain ⟨⟨_, sm⟩, hp, h⟩ := Option.bind_eq_some_iff.mp h
    obtain rfl := Option.some.inj h
    have hp := perform_eq hp
    exact ⟨.eraseAll sm hst hp rfl rfl, hp.config⟩
  · rename_i hst
    obtain ⟨⟨logs, sm⟩, hp, h⟩ := Option.bind_eq_some_iff.mp h
    obtain rfl := Option.some.inj h
    have hp := perform_eq hp
    exact ⟨.manualRefresh logs sm hst hp rfl rfl, hp.config⟩
  · rename_i hst
    obtain ⟨⟨⟨logs, result⟩, sm⟩, hp, h⟩ := Option.bind_eq_some_iff.mp h
    obtain rfl := Option.some.inj h
    have hp := perform_eq hp
    exact ⟨.manualDownload logs result sm hst hp rfl rfl, hp.config⟩
  · rename_i hst
    obtain ⟨⟨ok, sm⟩, hp, h⟩ := Option.bind_eq_some_iff.mp h
    obtain rfl := Option.some.inj h
    have hp := perform_eq hp
    exact ⟨.manualErase ok sm hst hp rfl rfl, hp.config⟩
  · cases h

lemma step_work (h : s.step (.work ms) = some s') : Works s ms s' ∧ s'.config = s.config := by
  simp only [step] at h
  split_ifs at h
  obtain ⟨s₁, h₁, rfl⟩ := Option.map_eq_some_iff.mp h
  obtain ⟨hw, hc⟩ := work_cases h₁
  refine ⟨?_, hc⟩
  cases hw with
  | archive logs result sm hst hp hd hcon => exact .archive logs result sm hst hp hd hcon
  | eraseAll sm hst hp hd hcon => exact .eraseAll sm hst hp hd hcon
  | manualRefresh logs sm hst hp hd hcon => exact .manualRefresh logs sm hst hp hd hcon
  | manualDownload logs result sm hst hp hd hcon => exact .manualDownload logs result sm hst hp hd hcon
  | manualErase ok sm hst hp hd hcon => exact .manualErase ok sm hst hp hd hcon

section

variable {H : Promise} {settings : Settings}

structure Cycled (H : Promise) (settings : Settings) (select : LogEntry → Bool) (d : LogDownloader)
    (logs : List LogEntry) (result : ArchiveCycleResult) (done : List (LogEntry × ArchiveResult))
    (mid d' : LogDownloader) : Prop where
  enumerates : Enumerates H d mid logs
  chain : Chain H settings mid done d'
  outcome : LoopOutcome (logs.filter select) done (!result.allArchived)

lemma archiveCycle_returns (select : LogEntry → Bool) (d₀ : LogDownloader) :
    Prog.Triple (Fair H) (fun d => d = d₀) (archiveCycle settings select)
      (fun x d => ∃ done mid, Cycled H settings select d₀ x.1 x.2 done mid d) := by
  apply Prog.Triple.bind (enumerateLogs_returns settings d₀)
  intro logs
  apply Prog.Triple.bind (M := fun result d => ∃ done mid, Cycled H settings select d₀ logs result done mid d)
  · intro mid ticks result d' rest hmid hf hr
    obtain ⟨⟨done, hchain, hout⟩, hrest⟩ := archiveAll_returns _ mid mid ticks result d' rest rfl hf hr
    exact ⟨⟨done, mid, hmid, hchain, hout⟩, hrest⟩
  · intro result
    exact .pure fun d hd => hd

inductive Served (H : Promise) (s : DroneLogService) (ms : List Moment) (s' : DroneLogService) : Prop
  | cycle (select : LogEntry → Bool) (logs : List LogEntry) (result : ArchiveCycleResult)
      (done : List (LogEntry × ArchiveResult)) (mid : LogDownloader) :
      (s.control.state = .archive ∨ s.control.state = .manualDownload) →
      Cycled H s.config select s.downloader logs result done mid s'.downloader →
      s'.control.cachedFcLogs = logs → Served H s ms s'
  | listing (logs : List LogEntry) :
      s.control.state = .manualRefresh → Enumerates H s.downloader s'.downloader logs →
      s'.control.cachedFcLogs = logs → Served H s ms s'
  | eraseAll (sm : DroneLogService) :
      s.control.state = .eraseAll → Performs s ms (eraseUnlessCancelled s.config) () sm →
      s'.downloader = sm.downloader → s'.control = { sm.control with state := .cleanup } → Served H s ms s'
  | manualErase (ok : Bool) (sm : DroneLogService) :
      s.control.state = .manualErase → Performs s.resetCancel ms (eraseFlightControllerLogs s.config) ok sm →
      s'.downloader = sm.downloader →
      s'.control = ({ sm.control with cachedFcLogs := [], fcLogsStale := false }).returnToIdleState → Served H s ms s'

lemma Works.served (h : Works s ms s') (hH : Honours H ms) : Served H s ms s' := by
  have hbusy := h.busy
  cases h with
  | archive logs result sm hst hp hd hc =>
    obtain ⟨done, mid, hcycle⟩ := hp.returns hbusy hH (archiveCycle_returns _ _)
    exact .cycle _ logs result done mid (Or.inl hst) (hd ▸ hcycle) (by rw [hc])
  | manualDownload logs result sm hst hp hd hc =>
    obtain ⟨done, mid, hcycle⟩ := hp.returns hbusy hH (archiveCycle_returns _ _)
    exact .cycle _ logs result done mid (Or.inr hst) (hd ▸ hcycle) (by rw [hc])
  | manualRefresh logs sm hst hp hd hc =>
    exact .listing logs hst (hd ▸ hp.returns hbusy hH (enumerateLogs_returns _ _)) (by rw [hc]; rfl)
  | eraseAll sm hst hp hd hc => exact .eraseAll sm hst hp hd hc
  | manualErase ok sm hst hp hd hc => exact .manualErase ok sm hst hp hd hc

lemma Enumerates.working {d d' : LogDownloader} {logs : List LogEntry} (h : Enumerates H d d' logs) :
    Later H Working d d' := by
  obtain ⟨mid, order, hq, _, _, rfl⟩ := h.step
  have hnote : Later H Working mid (noted (.request .finish) (noted (.enumerated mid.inbox.pendingEntries logs) mid)) :=
    (noted_later trivial rfl mid).trans (noted_later trivial rfl _)
  have hmid := (hq.later.mono fun a ha => working_of_routine ha).trans hnote
  simpa [noted] using hmid

lemma Enumerates.recorded {d d' : LogDownloader} {logs : List LogEntry} (h : Enumerates H d d' logs) :
    ∃ received, Recorded (.enumerated received logs) d d' := by
  obtain ⟨mid, order, hq, _, _, rfl⟩ := h.step
  refine ⟨mid.inbox.pendingEntries, Recorded.earlier hq.later ⟨_, rfl, by simp⟩⟩

lemma Cycled.working {select : LogEntry → Bool} {d mid d' : LogDownloader} {logs : List LogEntry}
    {result : ArchiveCycleResult} {done : List (LogEntry × ArchiveResult)}
    (h : Cycled H settings select d logs result done mid d') : Later H Working d d' :=
  (Enumerates.working h.enumerates).trans h.chain.working

lemma Enumerates.enumerated {d d' : LogDownloader} {logs received entries : List LogEntry} (h : Enumerates H d d' logs)
    (hm : Recorded (.enumerated received entries) d d') :
    entries = logs ∧ (∀ e ∈ received, H.message (.logEntry e)) ∧ ∃ order, entries = settleEntries order received := by
  obtain ⟨d₁, order, hq, hpending, rfl, rfl⟩ := h.step
  obtain ⟨x, hx, hxr, _⟩ := hq.later.trace
  obtain ⟨ext, hext, hmem⟩ := hm
  obtain rfl : ext = x ++ [.enumerated d₁.inbox.pendingEntries _, .request .finish] := by
    simp only [hx, List.append_assoc] at hext
    exact (List.append_cancel_left hext).symm
  rcases List.mem_append.mp hmem with hmem | hmem
  · exact (hxr _ hmem).elim
  · simp only [List.mem_cons, List.not_mem_nil, or_false, Action.enumerated.injEq, reduceCtorEq] at hmem
    obtain ⟨rfl, rfl⟩ := hmem
    exact ⟨rfl, hpending, order, rfl⟩

lemma Cycled.enumerated {select : LogEntry → Bool} {d mid d' : LogDownloader} {logs : List LogEntry}
    {result : ArchiveCycleResult} {done : List (LogEntry × ArchiveResult)}
    (h : Cycled H settings select d logs result done mid d') {received entries : List LogEntry}
    (hm : Recorded (.enumerated received entries) d d') :
    entries = logs ∧ (∀ e ∈ received, H.message (.logEntry e)) ∧ ∃ order, entries = settleEntries order received := by
  rcases hm.split (Enumerates.working h.enumerates) h.chain.archiving with hm | ⟨ext, ht, hmem⟩
  · exact Enumerates.enumerated h.enumerates hm
  · obtain ⟨y, hy, hyr, _⟩ := h.chain.archiving.trace
    obtain rfl : ext = y := List.append_cancel_left (ht.symm.trans hy)
    exact (hyr _ hmem).elim

structure Erases (settings : Settings) (tick : Tick) (d d' : LogDownloader) : Prop where
  inbox : d'.inbox = d.inbox.deliver settings.download tick
  storage : d'.storage = d.storage
  rows : d'.database.archivedLogs = d.database.archivedLogs ∨
    d'.database.archivedLogs = d.database.archivedLogs.map (fun r => { r with erased := true })
  trace : d'.trace = d.trace ++ (tick.marks ++ [.request .erase])

lemma eraseFlightControllerLogs_run {d d' : LogDownloader} {ticks rest : List Tick} {ok : Bool}
    (h : (eraseFlightControllerLogs settings).run d ticks = some (ok, d', rest)) :
    ∃ tick, ticks = tick :: rest ∧ Erases settings tick d d' := by
  obtain ⟨tick, d₁, rest₁, h₁, h⟩ := Prog.bind_returns h
  obtain ⟨rfl, rfl⟩ := Prog.next_returns h₁
  obtain ⟨_, d₂, rest₂, h₂, h⟩ := Prog.bind_returns h
  simp only [note, Prog.modify_run, Option.some.injEq, Prod.mk.injEq, true_and] at h₂
  obtain ⟨rfl, rfl⟩ := h₂
  split_ifs at h with hio
  · obtain ⟨_, d₃, rest₃, h₃, h⟩ := Prog.bind_returns h
    simp only [updateDatabase, Prog.modify_run, Option.some.injEq, Prod.mk.injEq, true_and] at h₃
    obtain ⟨rfl, rfl⟩ := h₃
    simp only [Prog.pure_run, Option.some.injEq, Prod.mk.injEq] at h
    obtain ⟨_, rfl, rfl⟩ := h
    exact ⟨tick, rfl, rfl, rfl, Or.inr rfl, by simp [deliver]⟩
  · simp only [Prog.pure_run, Option.some.injEq, Prod.mk.injEq] at h
    obtain ⟨_, rfl, rfl⟩ := h
    exact ⟨tick, rfl, rfl, rfl, Or.inl rfl, by simp [deliver]⟩

lemma eraseUnlessCancelled_run {d d' : LogDownloader} {ticks : List Tick}
    (h : (eraseUnlessCancelled settings).run d ticks = some ((), d', [])) :
    ∃ tick ticks', ticks = tick :: ticks' ∧
      (((deliver settings tick d).inbox.cancelRequested = true ∧ d' = deliver settings tick d) ∨
        ((deliver settings tick d).inbox.cancelRequested = false ∧
          ∃ tick', ticks' = [tick'] ∧ Erases settings tick' (deliver settings tick d) d')) := by
  obtain ⟨stop, d₁, ticks₁, h₁, h⟩ := Prog.bind_returns h
  obtain ⟨tick, d₂, ticks₂, h₂, h₁⟩ := Prog.bind_returns h₁
  obtain ⟨rfl, rfl⟩ := Prog.next_returns h₂
  obtain ⟨d₃, d₄, ticks₄, h₃, h₁⟩ := Prog.bind_returns h₁
  simp only [Prog.get_run, Option.some.injEq, Prod.mk.injEq] at h₃
  obtain ⟨rfl, rfl, rfl⟩ := h₃
  simp only [Prog.pure_run, Option.some.injEq, Prod.mk.injEq] at h₁
  obtain ⟨rfl, rfl, rfl⟩ := h₁
  refine ⟨tick, ticks₂, rfl, ?_⟩
  split_ifs at h with hstop
  · simp only [Prog.pure_run, Option.some.injEq, Prod.mk.injEq, true_and] at h
    exact Or.inl ⟨hstop, h.1.symm⟩
  · obtain ⟨ok, d₅, ticks₅, h₅, h₆⟩ := Prog.bind_returns h
    obtain ⟨tick', rfl, he⟩ := eraseFlightControllerLogs_run h₅
    cases h₆
    exact Or.inr ⟨by simpa using hstop, tick', rfl, he⟩

end

structure Idles (s s' : DroneLogService) : Prop where
  trace : ∃ ext, s'.trace = s.trace ++ ext ∧ ∀ a ∈ ext, Signal a
  rows : s'.rows = s.rows
  archives : ∀ q file, q.isArchive = true → s'.storage.files.lookup q = some file →
    s.storage.files.lookup q = some file

lemma idles_mark {marks : List Action} (hs : s'.downloader.storage = s.downloader.storage)
    (hd : s'.downloader.database = s.downloader.database)
    (ht : s'.downloader.trace = s.downloader.trace ++ marks) (hm : ∀ a ∈ marks, Signal a) : Idles s s' := by
  refine ⟨⟨marks, ht, hm⟩, ?_, ?_⟩
  · rw [rows, hd, rows]
  · intro q file _ h
    rw [storage, hs] at h
    exact h

lemma arrive_idles (s : DroneLogService) (a : Arrival) : Idles s (s.arrive a) :=
  idles_mark rfl rfl rfl fun x hx => (Control.receive_marks s.control a x hx).signal

structure DrainKept (s s' : DroneLogService) : Prop where
  config : s'.config = s.config
  storage : s'.storage = s.storage
  monitor : s'.control.monitor = s.control.monitor
  commands : s'.control.commands = s.control.commands

lemma drainCommand_kept (s : DroneLogService) (connected : Bool) (cmd : CompanionCommand) :
    DrainKept s (s.drainCommand connected cmd) := by
  cases cmd with
  | startArchive =>
    rw [drainCommand]
    split_ifs <;> exact ⟨rfl, rfl, rfl, rfl⟩
  | _ => exact ⟨rfl, rfl, rfl, rfl⟩

lemma drain_kept (s : DroneLogService) (connected : Bool) :
    DrainKept { s with control := { s.control with commands := s.control.commands.tail } } (s.drain connected) := by
  rw [drain]
  split
  · rename_i hq
    exact ⟨rfl, rfl, rfl, by rw [hq]; rfl⟩
  · rename_i cmd cmds hq
    rw [hq]
    exact drainCommand_kept _ connected cmd

lemma drain_marks (s : DroneLogService) (connected : Bool) : ∃ marks, (∀ a ∈ marks, Signal a ∧ a ≠ .reconnect) ∧
    (s.drain connected).downloader.trace = s.downloader.trace ++ marks ∧
    (s.drain connected).downloader.storage = s.downloader.storage ∧
    (s.drain connected).downloader.database = s.downloader.database := by
  rw [drain]
  split
  · exact ⟨[], by simp, (List.append_nil _).symm, rfl, rfl⟩
  · rename_i cmd cmds _
    cases cmd with
    | startArchive =>
      rw [drainCommand]
      split_ifs
      · exact ⟨[], by simp, (List.append_nil _).symm, rfl, rfl⟩
      · exact ⟨_, by simp [Signal], rfl, rfl, rfl⟩
    | cancelArchive =>
      have hm : ∀ a ∈ hits s.control.state, Signal a ∧ a ≠ .reconnect := by
        rcases hits_cases s.control.state with h | h <;> simp [h, Signal]
      exact ⟨_, hm, rfl, rfl, rfl⟩
    | refreshLogs => exact ⟨[.job], by simp [Signal], rfl, rfl, rfl⟩
    | downloadLogs ids all => exact ⟨[.job], by simp [Signal], rfl, rfl, rfl⟩
    | eraseAllLogs => exact ⟨[.job], by simp [Signal], rfl, rfl, rfl⟩

lemma drain_idles (s : DroneLogService) (connected : Bool) : Idles s (s.drain connected) := by
  obtain ⟨marks, hmarks, htrace, hstorage, hdatabase⟩ := drain_marks s connected
  exact idles_mark hstorage hdatabase htrace fun a ha => (hmarks a ha).1

lemma cleanup_trace (s : DroneLogService) (r : Reading) : (s.cleanup r).trace = s.trace ++
    ((evaluateArchiveOutcome s.config.download s.consecutiveArchiveFailures s.lastCycleResult r.connectOk).2 ++
      if s.control.archiveRequested then [.job] else []) := by
  rw [cleanup]
  cases hrequested : s.control.archiveRequested with
  | true =>
    rw [← List.append_assoc]
    exact congrArg trace (if_pos hrequested)
  | false =>
    simp only [Bool.false_eq_true, if_false, List.append_nil]
    exact congrArg trace (if_neg (by simpa [mark] using hrequested))

lemma evaluateArchiveOutcome_actions (settings : DownloadSettings) (failures : ℤ) (result : ArchiveCycleResult)
    (connectOk : Bool) : ∀ a ∈ (evaluateArchiveOutcome settings failures result connectOk).2, a = .reconnect := by
  rw [evaluateArchiveOutcome]
  split_ifs <;> simp

lemma cleanup_actions {actions : List Action} {requested : Bool} {a : Action} (h : ∀ a ∈ actions, a = .reconnect)
    (ha : a ∈ actions ++ (if requested then [Action.job] else [])) : a = .reconnect ∨ a = .job := by
  rcases List.mem_append.mp ha with ha | ha
  · exact Or.inl (h a ha)
  · split_ifs at ha
    · exact Or.inr (List.mem_singleton.mp ha)
    · cases ha

lemma cleanup_signals (s : DroneLogService) (r : Reading) : ∀ a ∈
    (evaluateArchiveOutcome s.config.download s.consecutiveArchiveFailures s.lastCycleResult r.connectOk).2 ++
      (if s.control.archiveRequested then [.job] else []), Signal a := by
  intro a ha
  rcases cleanup_actions (evaluateArchiveOutcome_actions _ _ _ _) ha with rfl | rfl <;> trivial

lemma cleanup_control (s : DroneLogService) (r : Reading) : (s.cleanup r).control =
    if s.control.archiveRequested then { s.control with state := .delay } else s.control.returnToIdleState := by
  simp only [cleanup]
  exact apply_ite control _ _ _

lemma cleanup_storage (s : DroneLogService) (r : Reading) :
    (s.cleanup r).storage = s.storage.enforceStorageLimit s.config.storage r.listing := by
  simp only [cleanup]
  split_ifs <;> rfl

lemma cleanup_idles (s : DroneLogService) (r : Reading) : Idles s (s.cleanup r) := by
  have hrows : (s.cleanup r).rows = s.rows := by
    simp only [cleanup]
    split_ifs <;> rfl
  refine ⟨⟨_, cleanup_trace s r, cleanup_signals s r⟩, hrows, fun q file _ h => ?_⟩
  rw [cleanup_storage] at h
  exact StorageManager.enforceStorageLimit_lookup r.listing h

def Moves : State → State → Prop
  | .boot, .connect | .connect, .waitHeartbeat | .waitHeartbeat, .waitArm | .waitHeartbeat, .connectionLost
  | .waitArm, .connectionLost | .waitDisarm, .connectionLost | .enumerate, .archive
  | .connectionLost, .connect => True
  | _, _ => False

inductive Turns (s : DroneLogService) (r : Reading) (s' : DroneLogService) : Prop
  | stay : s' = s → Turns s r s'
  | move (state : State) (stale : Bool) : Moves s.control.state state →
      (stale = false → s.control.fcLogsStale = false) →
      s' = { s with control := { s.control with state := state, fcLogsStale := stale } } → Turns s r s'
  | beginCycle : s.control.state = .delay → s' = s.beginCycle → Turns s r s'
  | cleanup : s.control.state = .cleanup → s' = s.cleanup r → Turns s r s'

lemma handleConnectionLost_turns {r : Reading} (h : Moves s.control.state .connectionLost) :
    Turns s r s.handleConnectionLost := by
  have hlost : s.handleConnectionLost = s.setState .connectionLost := by
    cases hst : s.control.state with
    | waitHeartbeat => simp [handleConnectionLost, Control.handleConnectionLost, hst, setState, isArchiveBusy]
    | waitArm => simp [handleConnectionLost, Control.handleConnectionLost, hst, setState, isArchiveBusy]
    | waitDisarm => simp [handleConnectionLost, Control.handleConnectionLost, hst, setState, isArchiveBusy]
    | _ =>
      rw [hst] at h
      exact h.elim
  rw [hlost]
  exact .move .connectionLost _ h id rfl

lemma turn_cases {r : Reading} (h : s.turn r = some s') : Turns s r s' := by
  cases hst : s.control.state with
  | boot =>
    simp only [turn, hst, Option.some.injEq] at h
    exact .move .connect _ (by rw [hst]; trivial) id h.symm
  | connect =>
    simp only [turn, hst, Option.some.injEq] at h
    split_ifs at h
    · exact .move .waitHeartbeat true (by rw [hst]; trivial) (fun h => by cases h) h.symm
    · exact .stay h.symm
  | waitHeartbeat =>
    simp only [turn, hst, Option.some.injEq] at h
    split_ifs at h
    · exact .move .waitArm _ (by rw [hst]; trivial) id h.symm
    · exact h ▸ handleConnectionLost_turns (by rw [hst]; trivial)
    · exact .stay h.symm
  | waitArm =>
    simp only [turn, hst, Option.some.injEq] at h
    split_ifs at h
    · exact h ▸ handleConnectionLost_turns (by rw [hst]; trivial)
    · exact .stay h.symm
  | waitDisarm =>
    simp only [turn, hst, Option.some.injEq] at h
    split_ifs at h
    · exact h ▸ handleConnectionLost_turns (by rw [hst]; trivial)
    · exact .stay h.symm
  | delay =>
    simp only [turn, hst, Option.some.injEq] at h
    split_ifs at h
    · exact .beginCycle hst h.symm
    · exact .stay h.symm
  | enumerate =>
    simp only [turn, hst, Option.some.injEq] at h
    exact .move .archive _ (by rw [hst]; trivial) id h.symm
  | cleanup =>
    simp only [turn, hst, Option.some.injEq] at h
    exact .cleanup hst h.symm
  | connectionLost =>
    simp only [turn, hst, Option.some.injEq] at h
    exact .move .connect _ (by rw [hst]; trivial) id h.symm
  | archive => simp [turn, hst] at h
  | eraseAll => simp [turn, hst] at h
  | manualRefresh => simp [turn, hst] at h
  | manualDownload => simp [turn, hst] at h
  | manualErase => simp [turn, hst] at h

lemma cleanup_state (s : DroneLogService) (r : Reading) :
    (s.cleanup r).control.state = if s.control.archiveRequested then .delay
      else if s.control.monitor.armed then .waitDisarm else .waitArm := by
  rw [cleanup_control]
  split_ifs with h₁ h₂
  · rfl
  · simp [Control.returnToIdleState, h₂]
  · simp [Control.returnToIdleState, h₂]

lemma turn_idles {r : Reading} (h : s.turn r = some s') : Idles s s' := by
  cases turn_cases h with
  | stay h =>
    subst h
    exact idles_mark rfl rfl (List.append_nil _).symm (by simp)
  | move state stale _ _ h =>
    subst h
    exact idles_mark rfl rfl (List.append_nil _).symm (by simp)
  | beginCycle _ h =>
    subst h
    exact idles_mark rfl rfl rfl (by simp [Signal])
  | cleanup _ h =>
    subst h
    exact cleanup_idles s r

inductive Steps (s : DroneLogService) (s' : DroneLogService) : Event → Prop
  | arrive (a : Arrival) : s' = s.arrive a → Steps s s' (.arrive a)
  | drain (connected : Bool) : s' = s.drain connected → Steps s s' (.drain connected)
  | turn (r : Reading) (s₁ : DroneLogService) : Turns s r s₁ → s' = { s₁ with draining := true } →
      Steps s s' (.turn r)
  | work (ms : List Moment) : Works s ms s' → Steps s s' (.work ms)
  | restart (config : Settings) :
      s' = start config s.downloader.storage s.downloader.database (s.downloader.trace ++ [.restart]) →
      Steps s s' (.restart config)

lemma step_cases {e : Event} (h : s.step e = some s') : Steps s s' e := by
  cases e with
  | arrive a => exact .arrive a (Option.some.inj h).symm
  | drain connected =>
    simp only [step] at h
    split_ifs at h
    exact .drain connected (Option.some.inj h).symm
  | turn r =>
    simp only [step] at h
    split_ifs at h
    obtain ⟨s₁, h₁, h₂⟩ := Option.map_eq_some_iff.mp h
    exact .turn r s₁ (turn_cases h₁) h₂.symm
  | work ms => exact .work ms (step_work h).1
  | restart config => exact .restart config (Option.some.inj h).symm

lemma step_idles {e : Event} (h : s.step e = some s') (he : ∀ ms, e ≠ .work ms) : Idles s s' := by
  cases e with
  | arrive a =>
    obtain rfl := Option.some.inj h
    exact arrive_idles s a
  | drain connected =>
    simp only [step] at h
    split_ifs at h
    obtain rfl := Option.some.inj h
    exact drain_idles s connected
  | turn r =>
    simp only [step] at h
    split_ifs at h
    obtain ⟨s₁, h₁, rfl⟩ := Option.map_eq_some_iff.mp h
    obtain ⟨ht, hr, ha⟩ := turn_idles h₁
    exact ⟨ht, hr, ha⟩
  | work ms => exact absurd rfl (he ms)
  | restart config =>
    obtain rfl := Option.some.inj h
    refine ⟨⟨[.restart], rfl, by simp [Signal]⟩, rfl, ?_⟩
    intro q file _ hl
    exact StorageManager.initializeStorage_lookup hl

end DroneLogService

end MavlinkLogService.Service
