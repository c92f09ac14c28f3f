import MavlinkLogService.Service.JobQueue

/-! The published list of the flight controller's logs, against the enumerations and erases of the run. -/

namespace MavlinkLogService.Service

open Archive Archive.LogDownloader Library Session Storage

def enumeratedLogs? : Action → Option (List LogEntry)
  | .enumerated _ entries => some entries
  | _ => none

lemma findSome_unique {α β : Type*} {f : α → Option β} {l : List α} {b : β} (h : ∃ a ∈ l, f a = some b)
    (hu : ∀ a ∈ l, ∀ b', f a = some b' → b' = b) : l.findSome? f = some b := by
  obtain ⟨a, ha, hf⟩ := h
  cases hl : l.findSome? f with
  | none => exact absurd (List.findSome?_eq_none_iff.mp hl a ha) (by simp [hf])
  | some b' =>
    obtain ⟨x, hx, hfx⟩ := List.exists_of_findSome?_eq_some hl
    rw [hu x hx b' hfx]

namespace Control

def SameCache (c : Control) (r : Control × Effect) : Prop :=
  r.1.cachedFcLogs = c.cachedFcLogs ∧ r.1.fcLogsStale = c.fcLogsStale

lemma sameCache_composes : Composes SameCache :=
  ⟨fun _ => ⟨rfl, rfl⟩, fun _ _ _ h h' => ⟨h'.1.trans h.1, h'.2.trans h.2⟩⟩

lemma receive_cache (c : Control) (a : Arrival) : SameCache c (c.receive a) := by
  cases a with
  | message m fresh =>
    have h := onMavlinkMessage_framed c none 0 fresh
    exact ⟨h.cache, h.stale⟩
  | heartbeat b now fresh =>
    have h := onMavlinkMessage_framed c (some b) now fresh
    exact ⟨h.cache, h.stale⟩
  | job kind ids all connected =>
    obtain ⟨cmds, cancel, hq⟩ := requestCompanionJob_queues c kind ids all connected
    rw [receive, hq]
    exact ⟨rfl, rfl⟩
  | cancel => exact ⟨rfl, rfl⟩

end Control

namespace DroneLogService

variable {s s' : DroneLogService} {e : Event} {t : Transition DroneLogService Event}
  {ts : List (Transition DroneLogService Event)}

def listed (t : Transition DroneLogService Event) : Option (List LogEntry) :=
  (actions t).reverse.findSome? enumeratedLogs?

def sends : Event → Bool
  | .work ms => ms.getLast?.any (·.reading.ioOk)
  | _ => true

def transmitsErase (t : Transition DroneLogService Event) : Bool :=
  decide (.request .erase ∈ actions t) && sends t.event

/-- The logs of the flight controller as far as the service can know: the result of the last enumeration, and none
once an erase has been transmitted after it. -/
def knownLogs (ts : List (Transition DroneLogService Event)) : Option (List LogEntry) :=
  ts.foldl (fun known t => if transmitsErase t then some [] else (listed t).or known) none

lemma knownLogs_snoc (ts : List (Transition DroneLogService Event)) (t : Transition DroneLogService Event) :
    knownLogs (ts ++ [t]) = if transmitsErase t then some [] else (listed t).or (knownLogs ts) := by
  rw [knownLogs, List.foldl_append]
  rfl

lemma listed_eq {logs : List LogEntry} (h : ∃ received, .enumerated received logs ∈ actions t)
    (hu : ∀ received entries, .enumerated received entries ∈ actions t → entries = logs) : listed t = some logs := by
  apply findSome_unique
  · obtain ⟨received, hmem⟩ := h
    exact ⟨_, List.mem_reverse.mpr hmem, rfl⟩
  · intro a ha b hb
    cases a with
    | enumerated received entries =>
      obtain rfl := Option.some.inj hb
      exact hu received entries (List.mem_reverse.mp ha)
    | _ => cases hb

lemma listed_eq_none (h : ∀ a ∈ actions t, enumeratedLogs? a = none) : listed t = none := by
  rw [listed, List.findSome?_eq_none_iff]
  exact fun a ha => h a (List.mem_reverse.mp ha)

lemma transmits_of_mem (h : .request .erase ∉ actions t) : transmitsErase t = false := by
  simp [transmitsErase, h]

lemma idle_unlisted (hs : s.step e = some s') (he : ∀ ms, e ≠ .work ms) :
    listed ⟨s, e, s'⟩ = none ∧ transmitsErase ⟨s, e, s'⟩ = false := by
  obtain ⟨ext, ht, hsig⟩ := (step_idles hs he).trace
  have hact : actions ⟨s, e, s'⟩ = ext := actions_eq ht
  refine ⟨listed_eq_none fun a h => ?_, transmits_of_mem fun h => ?_⟩
  · rw [hact] at h
    have hs := hsig a h
    cases a <;> first | rfl | exact hs.elim
  · rw [hact] at h
    exact hsig _ h

def erasesNot (s : DroneLogService) : Event → Bool
  | .work [m, m'] => s.flagAtTest m || !m'.reading.ioOk
  | _ => true

structure Heard (t : Transition DroneLogService Event) : Prop where
  automatic : t.pre.control.state = .eraseAll → erasesNot t.pre t.event = true
  manual : t.pre.control.state = .manualErase → sends t.event = true

def Coherent (known : Option (List LogEntry)) (c : Control) : Prop :=
  c.fcLogsStale = false → known = some c.cachedFcLogs

lemma Coherent.same {known : Option (List LogEntry)} {c : Control} {r : Control × Effect} (h : Coherent known c)
    (hr : c.SameCache r) : Coherent known r.1 := by
  intro hfresh
  rw [h (hr.2.symm.trans hfresh), hr.1]

lemma turn_cache {r : Reading} {known : Option (List LogEntry)} (h : Coherent known s.control) (ht : Turns s r s') :
    Coherent known s'.control := by
  cases ht with
  | stay heq =>
    rw [heq]
    exact h
  | move state stale _ hstale heq =>
    subst heq
    exact fun hs => h (hstale hs)
  | beginCycle _ heq =>
    subst heq
    exact h
  | cleanup _ heq =>
    subst heq
    rw [cleanup_control]
    split_ifs <;> exact h

lemma drain_cache {known : Option (List LogEntry)} (h : Coherent known s.control) (connected : Bool) :
    Coherent known (s.drain connected).control := by
  rw [drain]
  split
  · exact h
  · rename_i cmd cmds _
    cases cmd with
    | startArchive =>
      rw [drainCommand]
      split_ifs <;> exact h
    | _ => exact h

lemma cycle_listed (ms : List Moment) {logs : List LogEntry} {select : LogEntry → Bool} {result : ArchiveCycleResult}
    {done : List (LogEntry × ArchiveResult)} {mid : LogDownloader}
    (h : Cycled {} s.config select s.downloader logs result done mid s'.downloader) :
    listed ⟨s, .work ms, s'⟩ = some logs ∧ transmitsErase ⟨s, .work ms, s'⟩ = false := by
  refine ⟨listed_eq ?_ fun received entries hmem => (h.enumerated (recorded_of_mem h.working hmem)).1,
    transmits_of_mem (erase_not_working h.working id)⟩
  obtain ⟨received, hrec⟩ := Enumerates.recorded h.enumerates
  exact ⟨received, mem_actions (hrec.later h.chain.working)⟩

lemma refresh_listed (ms : List Moment) {logs : List LogEntry}
    (h : Enumerates {} s.downloader s'.downloader logs) :
    listed ⟨s, .work ms, s'⟩ = some logs ∧ transmitsErase ⟨s, .work ms, s'⟩ = false := by
  have hw := Enumerates.working h
  refine ⟨listed_eq ?_ fun received entries hmem => (Enumerates.enumerated h (recorded_of_mem hw hmem)).1,
    transmits_of_mem (erase_not_working hw id)⟩
  obtain ⟨received, hrec⟩ := Enumerates.recorded h
  exact ⟨received, mem_actions hrec⟩

lemma marks_unlisted {c : Control} (hb : isArchiveBusy c.state = true) (as : List Arrival) {a : Action}
    (ha : a ∈ (handleAll Control.receive c as).2.marks) : enumeratedLogs? a = none ∧ a ≠ .request .erase := by
  rcases (Control.handleAll_steady c as hb).marks a ha with rfl | rfl | rfl <;> exact ⟨rfl, by simp⟩

lemma eraseAll_unlisted {ms : List Moment} (hst : s.control.state = .eraseAll) (h : EraseHistory s s' ms)
    (hn : erasesNot s (.work ms) = true) :
    listed ⟨s, .work ms, s'⟩ = none ∧ transmitsErase ⟨s, .work ms, s'⟩ = false := by
  have hb : isArchiveBusy s.control.state = true := by rw [hst]; rfl
  cases h with
  | skipped m ms _ ht =>
    have hact : actions ⟨s, .work (m :: ms), s'⟩ = _ := actions_eq ht
    refine ⟨listed_eq_none fun a ha => ?_, transmits_of_mem fun ha => ?_⟩
    · rw [hact] at ha
      exact (marks_unlisted hb _ ha).1
    · rw [hact] at ha
      exact (marks_unlisted hb _ ha).2 rfl
  | sent m m' hflag ht =>
    have hact : actions ⟨s, .work [m, m'], s'⟩ = _ := actions_eq ht
    have hb' : isArchiveBusy (handleAll Control.receive s.control m.arrivals).1.state = true := by
      rw [(Control.handleAll_steady s.control m.arrivals hb).state]
      exact hb
    refine ⟨listed_eq_none fun a ha => ?_, ?_⟩
    · rw [hact] at ha
      rcases List.mem_append.mp ha with ha | ha
      · exact (marks_unlisted hb _ ha).1
      rcases List.mem_append.mp ha with ha | ha
      · exact (marks_unlisted hb' _ ha).1
      · rw [List.mem_singleton.mp ha]
        rfl
    · have hio : m'.reading.ioOk = false := by simpa [erasesNot, hflag] using hn
      simp [transmitsErase, sends, hio]

lemma manualErase_transmits {m : Moment}
    (ht : s'.trace = s.trace ++ ((handleAll Control.receive s.control m.arrivals).2.marks ++ [.request .erase]))
    (hm : m.reading.ioOk = true) : transmitsErase ⟨s, .work [m], s'⟩ = true := by
  have hact : actions ⟨s, .work [m], s'⟩ = _ := actions_eq ht
  simp [transmitsErase, hact, sends, hm]

lemma step_coherent {known : Option (List LogEntry)} (h : Coherent known s.control) (hs : s.step e = some s')
    (hh : Heard ⟨s, e, s'⟩) :
    Coherent (if transmitsErase ⟨s, e, s'⟩ then some [] else (listed ⟨s, e, s'⟩).or known) s'.control := by
  by_cases hw : ∃ ms, e = .work ms
  · obtain ⟨ms, rfl⟩ := hw
    cases (step_work hs).1.served (honours_nothing ms) with
    | cycle select logs result done mid _ hc hcached =>
      obtain ⟨hl, ht⟩ := cycle_listed ms hc
      rw [hl, ht]
      exact fun _ => congrArg some hcached.symm
    | listing logs _ he hcached =>
      obtain ⟨hl, ht⟩ := refresh_listed ms he
      rw [hl, ht]
      exact fun _ => congrArg some hcached.symm
    | eraseAll sm hst hp hd hcon =>
      have hhist : EraseHistory s s' ms := by
        cases eraseAll_history hp with
        | skipped m ms hflag ht => exact .skipped m ms hflag (by rw [trace, hd]; exact ht)
        | sent m m' hflag ht => exact .sent m m' hflag (by rw [trace, hd]; exact ht)
      obtain ⟨hl, ht⟩ := eraseAll_unlisted hst hhist (hh.automatic hst)
      have hcache := Control.sameCache_composes.handleAll Control.receive s.control (ms.flatMap (·.arrivals))
        fun x _ => Control.receive_cache x.1 x.2
      have hend := h.same hcache
      rw [← hp.control] at hend
      rw [hl, ht, hcon]
      exact hend
    | manualErase ok sm hst hp hd hcon =>
      obtain ⟨m, rfl, ht⟩ := manualErase_history hp
      rw [manualErase_transmits (by rw [trace, hd]; exact ht) (by simpa [sends] using hh.manual hst), hcon]
      exact fun _ => rfl
  · obtain ⟨hl, ht⟩ := idle_unlisted hs fun ms h => hw ⟨ms, h⟩
    rw [hl, ht]
    cases step_cases hs with
    | arrive a heq =>
      subst heq
      exact h.same (Control.receive_cache s.control a)
    | drain connected heq =>
      subst heq
      exact drain_cache h connected
    | turn r s₁ hturn heq =>
      subst heq
      have hend := turn_cache h hturn
      exact hend
    | work ms _ => exact absurd ⟨ms, rfl⟩ hw
    | restart config heq =>
      subst heq
      exact fun hfresh => by cases hfresh

theorem published_logs_known (config : Settings) (storage : StorageManager) (database : Database)
    (ts : List (Transition DroneLogService Event)) (s : DroneLogService)
    (hrun : Run step (start config storage database []) ts s) (hts : ∀ t ∈ ts, Heard t)
    (hfresh : s.control.fcLogsStale = false) : knownLogs ts = some s.control.cachedFcLogs := by
  have hcoherent : Coherent (knownLogs ts) s.control := by
    clear hfresh
    induction hrun with
    | nil => exact fun h => by cases h
    | @snoc ts s e s' _ hs ih =>
      rw [knownLogs_snoc]
      exact step_coherent (ih fun t ht => hts t (List.mem_append_left _ ht)) hs (hts _ (by simp))
  exact hcoherent hfresh

instance (t : Transition DroneLogService Event) : Decidable (Heard t) :=
  decidable_of_iff
    ((t.pre.control.state = .eraseAll → erasesNot t.pre t.event = true) ∧
      (t.pre.control.state = .manualErase → sends t.event = true))
    ⟨fun h => ⟨h.1, h.2⟩, fun h => ⟨h.1, h.2⟩⟩

def refreshThenErase : List Event :=
  toWaitArm ++ [.arrive (.job .refresh [] false true), .drain true, .drain true, .work listOne,
    .arrive (.job .eraseAll [] false true), .drain true, .drain true, .work [calm]]

theorem published_logs_known_erased :
    ∃ x, Run.exec step (start sampleConfig {} {} []) refreshThenErase = some x ∧
      x.2.control.fcLogsStale = false ∧ x.2.control.cachedFcLogs = [] ∧ knownLogs x.1 = some [] := by
  refine exists_of_any (fun x => x.2.control.fcLogsStale = false ∧ x.2.control.cachedFcLogs = [] ∧ ∀ t ∈ x.1, Heard t)
    (by decide +kernel) ?_
  rintro x hx ⟨hfresh, hnil, hall⟩
  have hknown := published_logs_known sampleConfig {} {} x.1 x.2 (Run.of_exec hx) hall hfresh
  rw [hnil] at hknown
  exact ⟨hfresh, hnil, hknown⟩

theorem erased_logs_published :
    ∃ x, Run.exec step (start sampleConfig {} {} [])
        (toArchive ++ [.drain true, .work (archivePair 7 1), .drain true, .work [calm, calm]]) = some x ∧
      x.2.control.fcLogsStale = false ∧ knownLogs x.1 = some [] ∧ x.2.control.cachedFcLogs = [⟨1, 1, 1, 0, 2⟩] := by
  exact exists_of_any (fun x => x.2.control.fcLogsStale = false ∧ knownLogs x.1 = some [] ∧
    x.2.control.cachedFcLogs = [⟨1, 1, 1, 0, 2⟩]) (by decide +kernel) fun _ _ h => h

end DroneLogService

end MavlinkLogService.Service
