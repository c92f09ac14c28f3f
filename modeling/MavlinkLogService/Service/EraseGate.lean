import MavlinkLogService.Service.Steps

/-! The control flow that leads to a `LOG_ERASE`. -/

namespace MavlinkLogService.Service

open Archive Archive.LogDownloader Library Session Storage

namespace DroneLogService

variable {s s' : DroneLogService} {e : Event} {t : Transition DroneLogService Event}

def actions (t : Transition DroneLogService Event) : List Action := t.post.trace.drop t.pre.trace.length

lemma actions_eq {ext : List Action} (h : t.post.trace = t.pre.trace ++ ext) : actions t = ext := by
  rw [actions, h, List.drop_left]

def IsProcess : Event → Prop
  | .turn _ | .work _ => True
  | _ => False

lemma drain_state (s : DroneLogService) (connected : Bool) :
    (s.drain connected).control.state = s.control.state ∨
      (s.drain connected).control.state = .enumerate ∨ (s.drain connected).control.state = .manualRefresh ∨
      (s.drain connected).control.state = .manualDownload ∨ (s.drain connected).control.state = .manualErase := by
  rw [drain]
  split
  · exact Or.inl rfl
  · rename_i cmd cmds _
    cases cmd with
    | startArchive =>
      rw [drainCommand]
      split_ifs
      · exact Or.inl rfl
      · exact Or.inr (Or.inl rfl)
    | cancelArchive => exact Or.inl rfl
    | refreshLogs => exact Or.inr (Or.inr (Or.inl rfl))
    | downloadLogs ids all => exact Or.inr (Or.inr (Or.inr (Or.inl rfl)))
    | eraseAllLogs => exact Or.inr (Or.inr (Or.inr (Or.inr rfl)))

lemma not_moves_eraseAll {x : State} : ¬ Moves x .eraseAll := by
  cases x <;> exact fun h => h

lemma turn_not_eraseAll {r : Reading} (h : s.turn r = some s') : s'.control.state ≠ .eraseAll := by
  cases turn_cases h with
  | stay h' =>
    rw [h']
    intro hst
    simp [turn, hst] at h
  | move state stale hm _ h' =>
    subst h'
    rintro rfl
    exact not_moves_eraseAll hm
  | beginCycle _ h' =>
    subst h'
    simp [beginCycle, mark, resetCancel]
  | cleanup _ h' =>
    subst h'
    rw [cleanup_state]
    split_ifs <;> simp

lemma step_into_eraseAll (h : s.step e = some s') (hs' : s'.control.state = .eraseAll) :
    (s.control.state = .eraseAll ∧ ¬ IsProcess e) ∨ (s.control.state = .archive ∧ ∃ ms, e = .work ms) := by
  cases e with
  | arrive a =>
    obtain rfl := Option.some.inj h
    rcases Control.receive_drifts s.control a with hd | ⟨_, hd⟩
    · exact Or.inl ⟨hd.symm.trans hs', fun h => h⟩
    · rcases hd with hd | hd | hd | hd <;> exact absurd (hd.symm.trans hs') (by simp)
  | drain connected =>
    simp only [step] at h
    split_ifs at h
    obtain rfl := Option.some.inj h
    rcases drain_state s connected with hd | hd | hd | hd | hd
    · exact Or.inl ⟨hd.symm.trans hs', fun h => h⟩
    all_goals exact absurd (hd.symm.trans hs') (by simp)
  | turn r =>
    simp only [step] at h
    split_ifs at h
    obtain ⟨s₁, h₁, rfl⟩ := Option.map_eq_some_iff.mp h
    exact (turn_not_eraseAll h₁ hs').elim
  | work ms =>
    cases (step_work h).1 with
    | archive logs result sm hst _ _ _ => exact Or.inr ⟨hst, ms, rfl⟩
    | eraseAll sm _ _ _ hc => exact absurd hs' (by simp [hc])
    | manualRefresh logs sm _ _ _ hc =>
      simp only [hc, Control.returnToIdleState] at hs'
      split_ifs at hs'
    | manualDownload logs result sm _ _ _ hc => exact absurd hs' (by simp [hc])
    | manualErase ok sm _ _ _ hc =>
      simp only [hc, Control.returnToIdleState] at hs'
      split_ifs at hs'
  | restart config =>
    obtain rfl := Option.some.inj h
    exact absurd hs' (by simp [start])

def flagAtTest (s : DroneLogService) (m : Moment) : Bool :=
  (s.downloader.deliver s.config (m.tick (handleAll Control.receive s.control m.arrivals).2)).inbox.cancelRequested

lemma erase_not_working {R : Action → Prop} {H : Promise} {d d' : LogDownloader} (h : Later H R d d')
    (hR : ¬ R (.request .erase)) : .request .erase ∉ d'.trace.drop d.trace.length := by
  obtain ⟨ext, ht, hr, _⟩ := h.trace
  rw [ht, List.drop_left]
  intro hm
  exact hR (hr _ hm)

lemma work_working {ms : List Moment} (h : Works s ms s') (h₁ : s.control.state ≠ .eraseAll)
    (h₂ : s.control.state ≠ .manualErase) : Later {} Working s.downloader s'.downloader := by
  cases h.served (honours_nothing ms) with
  | cycle select logs result done mid _ hc _ => exact hc.working
  | listing logs _ he _ => exact Enumerates.working he
  | eraseAll sm hst _ _ _ => exact absurd hst h₁
  | manualErase ok sm hst _ _ _ => exact absurd hst h₂

lemma count_erase_marks {c : Control} (as : List Arrival) (hb : isArchiveBusy c.state = true) :
    (handleAll Control.receive c as).2.marks.count (.request .erase) = 0 := by
  apply List.count_eq_zero_of_not_mem
  intro hm
  rcases (Control.handleAll_steady c as hb).marks _ hm with h | h | h <;> cases h

inductive EraseHistory (s : DroneLogService) (s' : DroneLogService) : List Moment → Prop
  | skipped (m : Moment) (ms : List Moment) : s.flagAtTest m = true →
      s'.trace = s.trace ++ (handleAll Control.receive s.control m.arrivals).2.marks → EraseHistory s s' (m :: ms)
  | sent (m m' : Moment) : s.flagAtTest m = false →
      s'.trace = s.trace ++ ((handleAll Control.receive s.control m.arrivals).2.marks ++
        ((handleAll Control.receive (handleAll Control.receive s.control m.arrivals).1 m'.arrivals).2.marks ++
          [.request .erase])) → EraseHistory s s' [m, m']

lemma eraseAll_history {ms : List Moment} {sm : DroneLogService}
    (hp : Performs s ms (eraseUnlessCancelled s.config) () sm) : EraseHistory s sm ms := by
  obtain ⟨tick, ticks', hticks, hcase⟩ := eraseUnlessCancelled_run hp.run
  cases ms with
  | nil => simp [Control.observe] at hticks
  | cons m ms =>
    obtain ⟨rfl, hrest⟩ : m.tick (handleAll Control.receive s.control m.arrivals).2 = tick ∧
        ((handleAll Control.receive s.control m.arrivals).1.observe ms).2 = ticks' := by
      simpa [Control.observe] using hticks
    rcases hcase with ⟨hflag, hdel⟩ | ⟨hflag, tick', rfl, herase⟩
    · refine .skipped m ms hflag ?_
      rw [trace, hdel]
      rfl
    · cases ms with
      | nil => simp [Control.observe] at hrest
      | cons m' ms =>
        obtain ⟨rfl, hnil⟩ : m'.tick (handleAll Control.receive (handleAll Control.receive s.control m.arrivals).1
            m'.arrivals).2 = tick' ∧ (Control.observe _ ms).2 = [] := by
          simpa [Control.observe] using hrest
        cases ms with
        | nil =>
          refine .sent m m' hflag ?_
          rw [trace, herase.trace]
          exact List.append_assoc _ _ _
        | cons m'' ms => cases hnil

lemma manualErase_history {ms : List Moment} {ok : Bool} {sm : DroneLogService}
    (hp : Performs s.resetCancel ms (eraseFlightControllerLogs s.config) ok sm) :
    ∃ m, ms = [m] ∧
      sm.trace = s.trace ++ ((handleAll Control.receive s.control m.arrivals).2.marks ++ [.request .erase]) := by
  obtain ⟨tick, hticks, herase⟩ := eraseFlightControllerLogs_run hp.run
  cases ms with
  | nil => cases hticks
  | cons m ms =>
    obtain ⟨rfl, hnil⟩ : m.tick (handleAll Control.receive s.resetCancel.control m.arrivals).2 = tick ∧
        (Control.observe _ ms).2 = [] := by
      simpa [Control.observe] using hticks
    cases ms with
    | nil => exact ⟨m, rfl, herase.trace⟩
    | cons m'' ms => cases hnil

def Lasting : Action → Prop
  | .job | .consume | .restart | .reconnect => False
  | _ => True

lemma Working.lasting {a : Action} (h : Working a) : Lasting a := by
  cases a <;> trivial

lemma work_trace {ms : List Moment} (h : Works s ms s') : ∃ ext, s'.trace = s.trace ++ ext ∧
    (∀ a ∈ ext, Lasting a) ∧
    events ext = events (handleAll Control.receive s.control (ms.flatMap (·.arrivals))).2.marks := by
  have hmarks : ∀ c as, isArchiveBusy c.state = true →
      ∀ a ∈ (handleAll Control.receive c as).2.marks, Lasting a := by
    intro c as hb a ha
    rcases (Control.handleAll_steady c as hb).marks a ha with rfl | rfl | rfl <;> trivial
  have hworking : Later {} Working s.downloader s'.downloader →
      ∃ ext, s'.trace = s.trace ++ ext ∧ ∀ a ∈ ext, Lasting a := by
    intro hl
    obtain ⟨ext, ht, hw, _⟩ := hl.trace
    exact ⟨ext, ht, fun a ha => Working.lasting (hw a ha)⟩
  have hlater := work_working h
  cases h with
  | archive logs result sm hst hp hd _ =>
    obtain ⟨ext, ht, hext⟩ := hworking (hlater (by simp [hst]) (by simp [hst]))
    exact ⟨ext, ht, hext, hp.events_eq (by rw [trace, ← hd]; exact ht)⟩
  | manualRefresh logs sm hst hp hd _ =>
    obtain ⟨ext, ht, hext⟩ := hworking (hlater (by simp [hst]) (by simp [hst]))
    exact ⟨ext, ht, hext, hp.events_eq (by rw [trace, ← hd]; exact ht)⟩
  | manualDownload logs result sm hst hp hd _ =>
    obtain ⟨ext, ht, hext⟩ := hworking (hlater (by simp [hst]) (by simp [hst]))
    exact ⟨ext, ht, hext, hp.events_eq (by rw [trace, ← hd]; exact ht)⟩
  | eraseAll sm hst hp hd _ =>
    have hb : isArchiveBusy s.control.state = true := by rw [hst]; rfl
    cases eraseAll_history hp with
    | skipped m ms _ ht => exact ⟨_, by rw [trace, hd]; exact ht, hmarks _ _ hb, hp.events_eq ht⟩
    | sent m m' _ ht =>
      refine ⟨_, by rw [trace, hd]; exact ht, ?_, hp.events_eq ht⟩
      have hb' : isArchiveBusy (handleAll Control.receive s.control m.arrivals).1.state = true := by
        rw [(Control.handleAll_steady s.control m.arrivals hb).state]
        exact hb
      intro a ha
      rcases List.mem_append.mp ha with ha | ha
      · exact hmarks _ _ hb a ha
      rcases List.mem_append.mp ha with ha | ha
      · exact hmarks _ _ hb' a ha
      · rw [List.mem_singleton.mp ha]
        trivial
  | manualErase ok sm hst hp hd _ =>
    have hb : isArchiveBusy s.control.state = true := by rw [hst]; rfl
    obtain ⟨m, rfl, ht⟩ := manualErase_history hp
    refine ⟨_, by rw [trace, hd]; exact ht, ?_, hp.events_eq ht⟩
    intro a ha
    rcases List.mem_append.mp ha with ha | ha
    · exact hmarks _ _ hb a ha
    · rw [List.mem_singleton.mp ha]
      trivial

lemma step_erases (h : s.step e = some s') (he : .request .erase ∈ actions ⟨s, e, s'⟩) :
    (actions ⟨s, e, s'⟩).count (.request .erase) = 1 ∧ (s.control.state = .manualErase ∨
      (s.control.state = .eraseAll ∧ ∃ m m', e = .work [m, m'] ∧ s.flagAtTest m = false)) := by
  by_cases hw : ∃ ms, e = .work ms
  · obtain ⟨ms, rfl⟩ := hw
    have hwork := (step_work h).1
    by_cases hm : s.control.state = .manualErase
    · refine ⟨?_, Or.inl hm⟩
      cases hwork with
      | manualErase ok sm hst hp hd _ =>
        obtain ⟨m, rfl, ht⟩ := manualErase_history hp
        have hzero := count_erase_marks (c := s.control) m.arrivals (by rw [hst]; rfl)
        rw [actions_eq (t := ⟨s, .work [m], s'⟩) (by rw [trace, hd]; exact ht)]
        simp [hzero]
      | _ => simp_all
    by_cases hea : s.control.state = .eraseAll
    · have hb : isArchiveBusy s.control.state = true := by rw [hea]; rfl
      cases hwork with
      | eraseAll sm hst hp hd _ =>
        cases eraseAll_history hp with
        | skipped m ms hflag ht =>
          have hzero := count_erase_marks m.arrivals hb
          rw [actions_eq (t := ⟨s, .work (m :: ms), s'⟩) (by rw [trace, hd]; exact ht)] at he
          exact absurd (List.count_pos_iff.mpr he) (by omega)
        | sent m m' hflag ht =>
          have hzero := count_erase_marks m.arrivals hb
          have hzero' := count_erase_marks (c := (handleAll Control.receive s.control m.arrivals).1) m'.arrivals
            (by rw [(Control.handleAll_steady s.control m.arrivals hb).state]; exact hb)
          refine ⟨?_, Or.inr ⟨hst, m, m', rfl, hflag⟩⟩
          rw [actions_eq (t := ⟨s, .work [m, m'], s'⟩) (by rw [trace, hd]; exact ht)]
          simp [hzero, hzero']
      | _ => simp_all
    · have hno := erase_not_working (work_working hwork hea hm) (fun h => h)
      exact absurd he hno
  · obtain ⟨ext, ht, hsig⟩ := (step_idles h (fun ms hms => hw ⟨ms, hms⟩)).trace
    rw [actions_eq (t := ⟨s, e, s'⟩) ht] at he
    exact (hsig _ he).elim

structure ArchivedAll (u : Transition DroneLogService Event) : Prop where
  state : u.pre.control.state = .archive
  work : ∃ ms, u.event = .work ms
  logs : ∃ received logs, .enumerated received logs ∈ actions u ∧ logs ≠ [] ∧
    ∀ entry ∈ logs, .outcome entry .downloaded ∈ actions u ∨ .outcome entry .skippedDuplicate ∈ actions u

lemma mem_actions {a : Action} (h : Recorded a t.pre.downloader t.post.downloader) : a ∈ actions t := by
  obtain ⟨ext, ht, ha⟩ := h
  rwa [actions_eq ht]

lemma recorded_of_mem {a : Action} {R : Action → Prop} {H : Promise}
    (h : Later H R t.pre.downloader t.post.downloader) (ha : a ∈ actions t) :
    Recorded a t.pre.downloader t.post.downloader := by
  obtain ⟨ext, ht, _⟩ := h.trace
  exact ⟨ext, ht, by rwa [actions_eq ht] at ha⟩

lemma eraseAll_entered {u : Transition DroneLogService Event} (h : u.pre.step u.event = some u.post)
    (h₁ : u.pre.control.state ≠ .eraseAll) (h₂ : u.post.control.state = .eraseAll) :
    ArchivedAll u ∧ u.post.config.download.eraseAfterSuccess = true := by
  obtain ⟨s, e, s'⟩ := u
  rcases step_into_eraseAll h h₂ with ⟨hst, _⟩ | ⟨hst, ms, rfl⟩
  · exact absurd hst h₁
  obtain ⟨hwork, hconf⟩ := step_work h
  cases hwork with
  | archive logs result sm _ hp hd hc =>
    obtain ⟨done, mid, hcyc⟩ := hp.returns (by rw [hst]; rfl) (honours_nothing ms) (archiveCycle_returns _ _)
    have hgood : result.cancelled = 0 ∧ result.allArchived = true ∧
        s.config.download.eraseAfterSuccess = true ∧ logs ≠ [] := by
      by_contra hno
      change s'.control.state = .eraseAll at h₂
      rw [hc] at h₂
      simp only [if_neg hno, reduceCtorEq] at h₂
    obtain ⟨_, hall, herase, hne⟩ := hgood
    refine ⟨⟨hst, ⟨ms, rfl⟩, ?_⟩, ?_⟩
    · obtain ⟨received, henum⟩ := Enumerates.recorded hcyc.enumerates
      obtain ⟨hmap, hres⟩ := hcyc.outcome.success (by simp [hall])
      refine ⟨received, logs, ?_, hne, ?_⟩
      · apply mem_actions
        rw [← hd] at hcyc
        exact henum.later hcyc.chain.working
      · intro entry hentry
        simp only [List.filter_true] at hmap
        rw [← hmap] at hentry
        obtain ⟨⟨x, res⟩, hx, rfl⟩ := List.mem_map.mp hentry
        have hrec : Recorded (.outcome x res) s.downloader s'.downloader := by
          rw [hd]
          exact Recorded.earlier (Enumerates.working hcyc.enumerates) (hcyc.chain.recorded hx)
        rcases hres _ hx with h | h
        · obtain rfl : res = .downloaded := h
          exact Or.inl (mem_actions hrec)
        · obtain rfl : res = .skippedDuplicate := h
          exact Or.inr (mem_actions hrec)
    · rw [hconf]
      exact herase
  | _ => simp_all

lemma step_config (h : s.step e = some s') (he : ∀ config, e ≠ .restart config) : s'.config = s.config := by
  cases e with
  | arrive a =>
    obtain rfl := Option.some.inj h
    rfl
  | drain connected =>
    simp only [step] at h
    split_ifs at h
    obtain rfl := Option.some.inj h
    exact (drain_kept s connected).config
  | turn r =>
    simp only [step] at h
    split_ifs at h
    obtain ⟨s₁, h₁, rfl⟩ := Option.map_eq_some_iff.mp h
    cases turn_cases h₁ with
    | stay h => rw [h]
    | move state stale _ _ h => rw [h]
    | beginCycle _ h => rw [h]; rfl
    | cleanup _ h =>
      rw [h]
      simp only [cleanup]
      split_ifs <;> rfl
  | work ms => exact (step_work h).2
  | restart config => exact absurd rfl (he config)

lemma eraseAll_setting {s₀ : DroneLogService} {ts : List (Transition DroneLogService Event)}
    (h₀ : s₀.control.state ≠ .eraseAll) (hrun : Run step s₀ ts s) :
    s.control.state = .eraseAll → s.config.download.eraseAfterSuccess = true := by
  -- the setting is tested on the way into `EraseAll`, and a restart, which may change it, leads to `Boot`
  refine hrun.invariant (fun _ => True)
    (fun s => s.control.state = .eraseAll → s.config.download.eraseAfterSuccess = true) (fun h => absurd h h₀) ?_
    (fun _ _ => trivial)
  intro s e s' hI hstep _ hs'
  by_cases hst : s.control.state = .eraseAll
  · rw [step_config hstep ?_]
    · exact hI hst
    · rintro config rfl
      obtain rfl := Option.some.inj hstep
      cases hs'
  · exact (eraseAll_entered (u := ⟨s, e, s'⟩) hstep hst hs').2

structure LeadsTo (a : List (Transition DroneLogService Event)) (u : Transition DroneLogService Event)
    (r : List (Transition DroneLogService Event)) : Prop where
  before : ∃ l, a = l ++ u :: r
  archived : ArchivedAll u
  between : ∀ v ∈ r, v.pre.control.state = .eraseAll ∧ v.post.control.state = .eraseAll ∧
    ((∃ x, v.event = .arrive x) ∨ ∃ connected, v.event = .drain connected)

lemma erase_preceded {s₀ : DroneLogService} {ts a b : List (Transition DroneLogService Event)}
    (h₀ : s₀.control.state ≠ .eraseAll) (hrun : Run step s₀ ts s) (hts : ts = a ++ t :: b)
    (hst : t.pre.control.state = .eraseAll) : ∃ u r, LeadsTo a u r := by
  obtain ⟨hbefore, _⟩ := hrun.split hts
  obtain ⟨l, u, r, rfl, hu, hu', hr⟩ := hbefore.since (fun s => s.control.state = .eraseAll) h₀ hst
  refine ⟨u, r, ⟨l, rfl⟩, (eraseAll_entered (hbefore.split rfl).2 hu hu').1, ?_⟩
  intro v hv
  obtain ⟨hpre, hpost⟩ := hr v hv
  refine ⟨hpre, hpost, ?_⟩
  obtain ⟨r₁, r₂, rfl⟩ := List.append_of_mem hv
  have hstep : v.pre.step v.event = some v.post :=
    (hbefore.split (a := l ++ u :: r₁) (t := v) (b := r₂) (by simp)).2
  have hnot : ¬ IsProcess v.event := by
    rcases step_into_eraseAll hstep hpost with ⟨_, h⟩ | ⟨h, _⟩
    · exact h
    · rw [hpre] at h
      cases h
  cases he : v.event with
  | arrive x => exact Or.inl ⟨x, rfl⟩
  | drain connected => exact Or.inr ⟨connected, rfl⟩
  | turn reading => exact absurd (by rw [he]; trivial) hnot
  | work moments => exact absurd (by rw [he]; trivial) hnot
  | restart config =>
    rw [he] at hstep
    rw [← Option.some.inj hstep] at hpost
    cases hpost

lemma manual_job_exits {ms : List Moment} (h : s.step (.work ms) = some s')
    (hst : s.control.state = .manualDownload ∨ s.control.state = .manualRefresh) :
    .request .erase ∉ actions ⟨s, .work ms, s'⟩ ∧ s'.control.state ≠ .eraseAll ∧
      s'.control.state ≠ .manualErase := by
  refine ⟨?_, ?_⟩
  · intro he
    obtain ⟨_, h | ⟨h, _⟩⟩ := step_erases h he
    · rcases hst with hst | hst <;> rw [hst] at h <;> cases h
    · rcases hst with hst | hst <;> rw [hst] at h <;> cases h
  · cases (step_work h).1 with
    | manualRefresh logs sm _ _ _ hc =>
      simp only [hc, Control.returnToIdleState]
      split_ifs <;> simp
    | manualDownload logs result sm _ _ _ hc => simp [hc]
    | _ => simp_all

theorem automatic_erase_gate (config : Settings) (storage : StorageManager) (database : Database)
    (ts : List (Transition DroneLogService Event)) (s : DroneLogService)
    (hrun : Run step (start config storage database []) ts s) :
    (∀ a t b, ts = a ++ t :: b → .request .erase ∈ actions t → t.pre.control.state ≠ .manualErase →
      t.pre.control.state = .eraseAll ∧ (actions t).count (.request .erase) = 1 ∧
      t.pre.config.download.eraseAfterSuccess = true ∧
      (∃ m m', t.event = .work [m, m'] ∧ t.pre.flagAtTest m = false) ∧
      ∃ u r, LeadsTo a u r ∧ ∀ v ∈ r, .request .erase ∉ actions v) ∧
    ∀ t ∈ ts, t.pre.control.state = .manualDownload ∨ t.pre.control.state = .manualRefresh →
      (∃ ms, t.event = .work ms) →
      .request .erase ∉ actions t ∧ t.post.control.state ≠ .eraseAll ∧ t.post.control.state ≠ .manualErase := by
  have h₀ : (start config storage database []).control.state ≠ .eraseAll := by simp [start]
  refine ⟨?_, ?_⟩
  · intro a t b hts he hman
    obtain ⟨hbefore, hstep⟩ := hrun.split hts
    obtain ⟨hcount, hman' | ⟨hst, hflag⟩⟩ := step_erases hstep he
    · exact absurd hman' hman
    obtain ⟨u, r, hlead⟩ := erase_preceded h₀ hrun hts hst
    refine ⟨hst, hcount, eraseAll_setting h₀ hbefore hst, hflag, u, r, hlead, ?_⟩
    intro v hv hev
    obtain ⟨l, rfl⟩ := hlead.before
    obtain ⟨r₁, r₂, rfl⟩ := List.append_of_mem hv
    have hvstep : v.pre.step v.event = some v.post :=
      (hbefore.split (a := l ++ u :: r₁) (t := v) (b := r₂) (by simp)).2
    obtain ⟨hpre, _, hkind⟩ := hlead.between v hv
    obtain ⟨_, hv' | ⟨_, m, m', hw, _⟩⟩ := step_erases hvstep hev
    · rw [hpre] at hv'
      cases hv'
    · rcases hkind with ⟨x, hx⟩ | ⟨x, hx⟩ <;> rw [hx] at hw <;> cases hw
  · rintro t ht hst ⟨ms, hms⟩
    obtain ⟨a, b, rfl⟩ := List.append_of_mem ht
    obtain ⟨_, hstep⟩ := hrun.split rfl
    obtain ⟨s, e, s'⟩ := t
    obtain rfl : e = .work ms := hms
    exact manual_job_exits hstep hst

def sampleConfig : Settings where
  download := { probeBytes := 1, verifyDataflashParse := false, verifyFcReread := "none" }
  storage := epochSettings

def beat (armed : Bool) (now : ℤ) : Arrival := .heartbeat ⟨⟨1, 1, 2, 3⟩, armed⟩ now true

def calm : Moment := {}

def toArchive : List Event :=
  [.drain true, .turn {}, .drain true, .turn {}, .arrive (beat false 0), .drain true, .turn {},
    .arrive (beat true 1), .arrive (beat false 2), .drain true, .turn { now := 6000 }, .drain true, .turn {}]

def listOne : List Moment :=
  [{ arrivals := [.message (.logEntry ⟨1, 1, 1, 0, 2⟩) true] }, calm, { reading := { now := 1000 } }, calm, calm]

def archivePair (a b : UInt8) : List Moment :=
  listOne ++ List.replicate 5 calm ++ { arrivals := [.message (.logData 1 0 2 [a, b]) true] } :: List.replicate 7 calm

theorem automatic_erase_gate_one_flight :
    ∃ x, Run.exec step (start sampleConfig {} {} [])
        (toArchive ++ [.drain true, .work (archivePair 7 1), .drain true, .work [calm, calm]]) = some x ∧
      ∃ a t b, x.1 = a ++ t :: b ∧ .request .erase ∈ actions t ∧ ∃ u r, LeadsTo a u r := by
  refine exists_of_any (fun x => ∃ t ∈ x.1, .request .erase ∈ actions t ∧ t.pre.control.state ≠ .manualErase)
    (by decide +kernel) ?_
  rintro x hx ⟨t, ht, he, hst⟩
  obtain ⟨a, b, hab⟩ := List.append_of_mem ht
  have hgate := (automatic_erase_gate sampleConfig {} {} x.1 x.2 (Run.of_exec hx)).1 a t b hab he hst
  obtain ⟨_, _, _, _, u, r, hlead, _⟩ := hgate
  exact ⟨a, t, b, hab, he, u, r, hlead⟩

end DroneLogService

end MavlinkLogService.Service
