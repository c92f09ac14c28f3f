import MavlinkLogService.Archive.Provenance
import MavlinkLogService.Archive.Skipping
import MavlinkLogService.Service.PendingDisarm

/-! Erasing and storage: whether the logs that an automatic erase removes from the flight controller are
archived at that moment. -/

namespace MavlinkLogService.Service

open Archive Archive.LogDownloader Library Session Storage

def Truthful (L : UInt16 → List UInt8) : Arrival → Prop
  | .message (.logEntry e) _ => e.size.toNat = (L e.id).length
  | .message (.logData id ofs count bytes) _ => (LogMessage.logData id ofs count bytes).SliceOf (L id) id
  | _ => True

instance (L : UInt16 → List UInt8) (a : Arrival) : Decidable (Truthful L a) := by
  unfold Truthful
  split <;> infer_instance

lemma Truthful.slice {L : UInt16 → List UInt8} {m : LogMessage} {fresh : Bool} (h : Truthful L (.message m fresh))
    (id : UInt16) : m.SliceOf (L id) id := by
  cases m with
  | logEntry e => trivial
  | logData i ofs count bytes =>
    rintro rfl
    exact h rfl

lemma probe_covers {x y : List UInt8} {p : ℤ} (hlen : x.length = y.length) (hlt : y.length < 2 ^ 32)
    (h : x.take (probeCount p y.length) = y.take (probeCount p y.length)) : x.take p.toNat = y.take p.toNat := by
  rcases lt_or_ge p 0 with hp | hp
  · rw [Int.toNat_of_nonpos hp.le, List.take_zero, List.take_zero]
  rcases Nat.lt_or_ge y.length (2 ^ 31) with hs | hs
  · rw [probeCount_small hp hs] at h
    rw [← List.take_length (l := y), List.take_take, ← h, ← List.take_take]
    rw [← hlen, List.take_length]
  · have hneg : toInt32 y.length < 0 := by
      rw [toInt32, if_neg (by omega)]
      omega
    have hcount : probeCount p y.length = y.length := by
      rw [probeCount, min_eq_right (by omega), ofInt32_toInt32 hlt]
    rw [hcount, List.take_length, ← hlen, List.take_length] at h
    rw [h]

namespace DroneLogService

variable {s s' : DroneLogService} {e : Event} {t : Transition DroneLogService Event}
  {ts : List (Transition DroneLogService Event)} {Known : UInt16 → List UInt8 → Prop}
  {Asked Asked' : UInt16 → ℕ → Prop}

section

variable {H : Promise} {settings : Settings} {L : UInt16 → List UInt8} {d mid d' : LogDownloader}
  {logs : List LogEntry}

lemma Enumerates.preserves (h : Enumerates H d d' logs) (hp : Provenance Known Asked d) :
    Preserves Known Asked d d' := by
  obtain ⟨d₁, order, hq, _, _, rfl⟩ := h.step
  refine .of_keeps hp (hq.keeps.trans ⟨?_, fun _ _ _ => rfl⟩) (by rw [← hq.database])
  rw [archivedPaths_append]
  exact List.subset_append_left _ _

lemma Cycled.message {select : LogEntry → Bool} {result : ArchiveCycleResult}
    {done : List (LogEntry × ArchiveResult)} (h : Cycled H settings select d logs result done mid d')
    {x : LogEntry × ArchiveResult} (hx : x ∈ done) : H.message (.logEntry x.1) := by
  obtain ⟨d₁, order, _, hpending, rfl, _⟩ := h.enumerates.step
  have hmem := h.outcome.order.subset (List.mem_map_of_mem hx)
  exact hpending _ (settle_subset (List.mem_filter.mp hmem).1)

lemma Cycled.ids {select : LogEntry → Bool} {result : ArchiveCycleResult} {done : List (LogEntry × ArchiveResult)}
    (h : Cycled H settings select d logs result done mid d') : (done.map (·.1.id)).Nodup := by
  obtain ⟨d₁, order, _, _, rfl, _⟩ := h.enumerates.step
  have hsub : (done.map Prod.fst).Sublist (settleEntries order d₁.inbox.pendingEntries) :=
    h.outcome.order.sublist.trans List.filter_sublist
  have hnodup : ((done.map Prod.fst).map LogEntry.id).Nodup := (settle_nodup _ _).sublist (hsub.map LogEntry.id)
  rwa [List.map_map] at hnodup

lemma Cycled.preserves {select : LogEntry → Bool} {result : ArchiveCycleResult}
    {done : List (LogEntry × ArchiveResult)} (hA : Aboard H settings Known L)
    (h : Cycled H settings select d logs result done mid d')
    (hsize : ∀ e, H.message (.logEntry e) → (L e.id).length = e.size.toNat)
    (ho : Ordered Asked L d d') (hn : (archivedPaths d'.trace).Nodup) (hp : Provenance Known Asked' d) :
    Preserves Known (fun id n => Asked' id n ∧ Asked id n) d d' ∧
      ((∀ e, H.message (.logEntry e) → Asked' e.id e.size.toNat ∧ Kept d e) →
        ∀ x ∈ done, archivedResult x.2 → Backed d' (L x.1.id)) := by
  have hmid := Enumerates.preserves h.enumerates hp
  obtain ⟨hend, hback⟩ := h.chain.preserves hA h.ids (fun x hx => hsize _ (h.message hx))
    (fun p processed hrec => ho p processed (Recorded.earlier (Enumerates.working h.enumerates) hrec)) hn
    hmid.provenance
  refine ⟨hmid.trans hend, fun hkept => hback fun x hx => ?_⟩
  exact (hkept _ (h.message hx)).imp_right (hmid.kept _)

lemma deliver_provenance (tick : Tick) (hp : Provenance Known Asked d) :
    Provenance Known Asked (deliver settings tick d) := by
  refine hp.keeps ⟨?_, fun _ _ _ => rfl⟩ rfl
  rw [deliver, archivedPaths_append]
  exact List.subset_append_left _ _

lemma Erases.provenance {tick : Tick} (h : Erases settings tick d d') (hp : Provenance Known Asked d) :
    Provenance Known Asked d' := by
  refine ⟨fun row hrow => ?_⟩
  have hold : ∃ row₀ ∈ d.database.archivedLogs, row.filename = row₀.filename ∧ row.fcLogId = row₀.fcLogId ∧
      row.fcLogSize = row₀.fcLogSize ∧ ∀ L, Describes row₀ L → Describes row L := by
    rcases h.rows with hr | hr
    · rw [hr] at hrow
      exact ⟨row, hrow, rfl, rfl, rfl, fun L hL => hL⟩
    · rw [hr] at hrow
      obtain ⟨row₀, hrow₀, rfl⟩ := List.mem_map.mp hrow
      exact ⟨row₀, hrow₀, rfl, rfl, rfl, fun L hL => ⟨hL.size, hL.probe⟩⟩
  obtain ⟨row₀, hrow₀, hname, hid, hsize, hdesc⟩ := hold
  obtain ⟨hpath, ha, L, hL, hd, hf⟩ := hp.rows row₀ hrow₀
  rw [hname, hid, hsize, h.storage]
  refine ⟨?_, ha, L, hL, fun hask => hdesc L (hd hask), hf⟩
  rw [h.trace, archivedPaths_append]
  exact List.mem_append_left _ hpath

end

lemma Idles.provenance (h : Idles s s') (hp : Provenance Known Asked s.downloader) :
    Provenance Known Asked s'.downloader := by
  refine ⟨fun row hrow => ?_⟩
  have hrow' : row ∈ s.rows := by
    rw [← h.rows]
    exact hrow
  obtain ⟨hpath, ha, L, hL, hd, hf⟩ := hp.rows row hrow'
  obtain ⟨ext, ht, _⟩ := h.trace
  refine ⟨?_, ha, L, hL, hd, fun file hfile => hf file (h.archives _ file ha hfile)⟩
  change row.filename ∈ archivedPaths s'.trace
  rw [ht, archivedPaths_append]
  exact List.mem_append_left _ hpath

def promise (t : Transition DroneLogService Event) : Promise where
  message m := ∃ fresh, .message m fresh ∈ arrivals t.event
  disk := True

variable (fc : Transition DroneLogService Event → UInt16 → List UInt8)

def Honest (t : Transition DroneLogService Event) : Prop := ∀ a ∈ arrivals t.event, Truthful (fc t) a

def AnnouncedIn (ts : List (Transition DroneLogService Event)) (id : UInt16) (size : ℕ) : Prop :=
  ∃ t ∈ ts, t.pre.control.state = .archive ∧
    ∃ e fresh, .message (.logEntry e) fresh ∈ arrivals t.event ∧ e.id = id ∧ e.size.toNat = size

/-- Every catalogued archive that an announced log could be taken for still exists, writing to the partial file
does not fail, and the first bytes come in order in every probe and in every download of a log of which the id and
the size are announced again in the steps `b` after this one. -/
structure Sheltered (b : List (Transition DroneLogService Event)) (t : Transition DroneLogService Event) : Prop where
  kept : t.pre.control.state = .archive → ∀ e fresh, .message (.logEntry e) fresh ∈ arrivals t.event →
    Kept t.pre.downloader e
  disk : ∀ ms, t.event = .work ms → ∀ m ∈ ms, ∀ n, m.reading.fileFails n = none
  order : ∀ p processed, .session p processed ∈ actions t → (p.writeFile = true → AnnouncedIn b p.logId p.byteCount) →
    ProbeInOrder (fc t p.logId) p processed

def SameLogs (ts : List (Transition DroneLogService Event)) : Prop :=
  ∀ t ∈ ts, ∀ u ∈ ts, ∀ id, (fc t id).length = (fc u id).length →
    (fc t id).take u.pre.config.download.probeBytes.toNat = (fc u id).take u.pre.config.download.probeBytes.toNat →
    fc t id = fc u id

def Distinguished (ts : List (Transition DroneLogService Event)) : Prop :=
  ∀ t ∈ ts, ∀ u ∈ ts, ∀ id n, Sha256.hashHex ((fc t id).take n) = Sha256.hashHex ((fc u id).take n) →
    (fc t id).take n = (fc u id).take n

def known (ts : List (Transition DroneLogService Event)) (id : UInt16) (L : List UInt8) : Prop := ∃ t ∈ ts, L = fc t id

variable {fc}

lemma Honest.message (h : Honest fc t) {m : LogMessage} (hm : (promise t).message m) :
    (∀ id, m.SliceOf (fc t id) id) ∧ ∀ e, m = .logEntry e → (fc t e.id).length = e.size.toNat := by
  obtain ⟨fresh, hmem⟩ := hm
  refine ⟨(h _ hmem).slice, ?_⟩
  rintro e rfl
  exact (h _ hmem).symm

lemma aboard (hin : t ∈ ts) (hH : Honest fc t) (hsame : SameLogs fc ts) (hdist : Distinguished fc ts) :
    Aboard (promise t) t.pre.config (known fc ts) (fc t) := by
  refine ⟨trivial, fun m hm => (hH.message hm).1, fun id => ⟨t, hin, rfl⟩, ?_⟩
  rintro entry hsize _ ⟨u, hu, rfl⟩ hlen hhash
  have hprefix := hdist u hu t hin _ _ hhash
  have hlt : (fc t entry.id).length < 2 ^ 32 := by
    rw [hsize]
    exact entry.size.toNat_lt
  apply hsame u hu t hin entry.id hlen
  apply probe_covers hlen hlt
  rw [hsize]
  exact hprefix

lemma AnnouncedIn.cons {b : List (Transition DroneLogService Event)} {id : UInt16} {n : ℕ} (h : AnnouncedIn b id n) :
    AnnouncedIn (t :: b) id n := by
  obtain ⟨u, hu, h⟩ := h
  exact ⟨u, List.mem_cons_of_mem _ hu, h⟩

variable {b : List (Transition DroneLogService Event)}

lemma honours {ms : List Moment} (hS : Sheltered fc b ⟨s, .work ms, s'⟩) : Honours (promise ⟨s, .work ms, s'⟩) ms := by
  refine ⟨?_, fun _ m hm n => hS.disk ms rfl m hm n⟩
  rintro m hm a ha msg fresh rfl
  exact ⟨fresh, List.mem_flatMap.mpr ⟨m, hm, ha⟩⟩

lemma ordered (hS : Sheltered fc b t) : Ordered (AnnouncedIn b) (fc t) t.pre.downloader t.post.downloader :=
  fun p processed hrec => hS.order p processed (mem_actions hrec)

lemma work_provenance {ms : List Moment} (h : Works s ms s') (hin : ⟨s, .work ms, s'⟩ ∈ ts)
    (hH : Honest fc ⟨s, .work ms, s'⟩) (hS : Sheltered fc b ⟨s, .work ms, s'⟩) (hsame : SameLogs fc ts)
    (hdist : Distinguished fc ts) (hn : (archivedPaths s'.trace).Nodup)
    (hp : Provenance (known fc ts) (AnnouncedIn (⟨s, .work ms, s'⟩ :: b)) s.downloader) :
    Provenance (known fc ts) (AnnouncedIn b) s'.downloader := by
  have hA := aboard hin hH hsame hdist
  have hsize := fun e he => (hH.message he).2 e rfl
  have ho := ordered hS
  simp only at ho
  have hp' : Provenance (known fc ts) (AnnouncedIn b) s.downloader := hp.mono fun _ _ => AnnouncedIn.cons
  cases h.served (honours hS) with
  | cycle select logs result done mid _ hc _ =>
    exact (hc.preserves hA hsize ho hn hp').1.provenance.mono fun _ _ hask => ⟨hask, hask⟩
  | listing logs _ he _ => exact (Enumerates.preserves he hp').provenance
  | eraseAll sm hst hperf hd _ =>
    rw [hd]
    obtain ⟨tick, ticks', _, ⟨_, hdel⟩ | ⟨_, tick', _, her⟩⟩ := eraseUnlessCancelled_run hperf.run
    · rw [hdel]
      exact deliver_provenance tick hp'
    · exact her.provenance (deliver_provenance tick hp')
  | manualErase ok sm hst hperf hd _ =>
    rw [hd]
    obtain ⟨tick, _, her⟩ := eraseFlightControllerLogs_run hperf.run
    exact her.provenance (hp'.keeps ⟨fun _ h => h, fun _ _ _ => rfl⟩ rfl)

lemma step_trace (h : s.step e = some s') : ∃ ext, s'.trace = s.trace ++ ext := by
  by_cases hw : ∃ ms, e = .work ms
  · obtain ⟨ms, rfl⟩ := hw
    obtain ⟨ext, ht, _⟩ := work_trace (step_work h).1
    exact ⟨ext, ht⟩
  · obtain ⟨ext, ht, _⟩ := (step_idles h fun ms hms => hw ⟨ms, hms⟩).trace
    exact ⟨ext, ht⟩

lemma run_trace {s₀ : DroneLogService} (h : Run step s₀ ts s) : ∃ ext, s.trace = s₀.trace ++ ext := by
  induction h with
  | nil => exact ⟨[], by simp⟩
  | snoc _ hstep ih =>
    obtain ⟨x, hx⟩ := ih
    obtain ⟨y, hy⟩ := step_trace hstep
    exact ⟨x ++ y, by rw [hy, hx, List.append_assoc]⟩

lemma run_provenance {us : List (Transition DroneLogService Event)} {config : Settings}
    (hrun : Run step (start config {} {} []) us s) (hts : ts = us ++ b) (hH : ∀ t ∈ ts, Honest fc t)
    (hS : ∀ a t b, ts = a ++ t :: b → Sheltered fc b t) (hsame : SameLogs fc ts) (hdist : Distinguished fc ts)
    (hn : (archivedPaths s.trace).Nodup) : Provenance (known fc ts) (AnnouncedIn b) s.downloader := by
  induction hrun generalizing b with
  | nil => exact ⟨fun row hrow => by cases hrow⟩
  | @snoc us s e s' hrun hstep ih =>
    have hsplit : ts = us ++ ⟨s, e, s'⟩ :: b := by simp [hts]
    have hin : (⟨s, e, s'⟩ : Transition DroneLogService Event) ∈ ts := by simp [hsplit]
    have hp := ih hsplit (by
      obtain ⟨ext, ht⟩ := step_trace hstep
      rw [ht, archivedPaths_append] at hn
      exact hn.of_append_left)
    by_cases hw : ∃ ms, e = .work ms
    · obtain ⟨ms, rfl⟩ := hw
      exact work_provenance (step_work hstep).1 hin (hH _ hin) (hS _ _ _ hsplit) hsame hdist hn hp
    · exact (step_idles hstep fun ms hms => hw ⟨ms, hms⟩).provenance (hp.mono fun _ _ => AnnouncedIn.cons)

lemma eraseAll_storage {ms : List Moment} (h : s.step (.work ms) = some s') (hst : s.control.state = .eraseAll) :
    s'.storage = s.storage := by
  cases (step_work h).1 with
  | eraseAll sm _ hperf hd _ =>
    rw [storage, hd]
    obtain ⟨tick, ticks', _, ⟨_, hdel⟩ | ⟨_, tick', _, her⟩⟩ := eraseUnlessCancelled_run hperf.run
    · rw [hdel]
      rfl
    · exact her.storage
  | _ => simp_all

lemma leadsTo_storage {a r : List (Transition DroneLogService Event)} {u : Transition DroneLogService Event}
    {s₀ : DroneLogService} (hrun : Run step s₀ a s) (hst : s.control.state = .eraseAll) (hlead : LeadsTo a u r) :
    u.post.control.state = .eraseAll ∧ s.storage = u.post.storage := by
  obtain ⟨l, hl⟩ := hlead.before
  have hrest := hrun.rest hl
  refine ⟨?_, ?_⟩
  · cases r with
    | nil =>
      rw [← hrest.eq_start rfl]
      exact hst
    | cons v r =>
      rw [← hrest.first]
      exact (hlead.between v List.mem_cons_self).1
  · apply hrest.invariant (fun v => (∃ x, v.event = .arrive x) ∨ ∃ connected, v.event = .drain connected)
      (fun s => s.storage = u.post.storage) rfl
    · rintro s e s' hs hstep (⟨x, rfl⟩ | ⟨connected, rfl⟩)
      · obtain rfl := Option.some.inj hstep
        exact hs
      · simp only [step] at hstep
        split_ifs at hstep
        obtain rfl := Option.some.inj hstep
        rw [(drain_kept _ _).storage]
        exact hs
    · exact fun v hv => (hlead.between v hv).2.2

lemma archive_backs {ms : List Moment} (h : s.step (.work ms) = some s') (hst : s.control.state = .archive)
    (hst' : s'.control.state = .eraseAll) (hin : ⟨s, .work ms, s'⟩ ∈ ts) (hH : Honest fc ⟨s, .work ms, s'⟩)
    (hS : Sheltered fc b ⟨s, .work ms, s'⟩) (hsame : SameLogs fc ts) (hdist : Distinguished fc ts)
    (hn : (archivedPaths s'.trace).Nodup)
    (hp : Provenance (known fc ts) (AnnouncedIn (⟨s, .work ms, s'⟩ :: b)) s.downloader)
    {received logs : List LogEntry} (henum : .enumerated received logs ∈ actions ⟨s, .work ms, s'⟩)
    {entry : LogEntry} (hentry : entry ∈ logs) : Backed s'.downloader (fc ⟨s, .work ms, s'⟩ entry.id) := by
  have ho := ordered hS
  simp only at ho
  cases (step_work h).1 with
  | archive logs' result sm _ hperf hd hc =>
    obtain ⟨done, mid, hcyc⟩ := hperf.returns (by rw [hst]; rfl) (honours hS) (archiveCycle_returns _ _)
    rw [trace, hd] at hn
    rw [hd] at ho ⊢
    obtain ⟨_, hback⟩ := hcyc.preserves (aboard hin hH hsame hdist) (fun e he => (hH.message he).2 e rfl) ho hn hp
    have hrec : Recorded (.enumerated received logs) s.downloader sm.downloader := by
      rw [← hd]
      exact recorded_of_mem (t := ⟨s, .work ms, s'⟩) (by rw [hd]; exact hcyc.working) henum
    obtain ⟨rfl, _⟩ := hcyc.enumerated hrec
    have hall : result.allArchived = true := by
      by_contra hno
      rw [hc] at hst'
      simp [hno] at hst'
    obtain ⟨hmap, hres⟩ := hcyc.outcome.success (by simp [hall])
    simp only [List.filter_true] at hmap
    rw [← hmap] at hentry
    obtain ⟨x, hx, rfl⟩ := List.mem_map.mp hentry
    refine hback ?_ x hx (hres x hx)
    rintro e ⟨fresh, hmem⟩
    exact ⟨⟨_, List.mem_cons_self, hst, e, fresh, hmem, rfl, rfl⟩, hS.kept hst e fresh hmem⟩
  | _ => simp_all

theorem erase_is_backed_up (fc : Transition DroneLogService Event → UInt16 → List UInt8) (config : Settings)
    (ts : List (Transition DroneLogService Event)) (s : DroneLogService)
    (hrun : Run step (start config {} {} []) ts s) (hH : ∀ t ∈ ts, Honest fc t) (hsame : SameLogs fc ts)
    (hn : (archivedPaths s.trace).Nodup) (hS : ∀ a t b, ts = a ++ t :: b → Sheltered fc b t)
    (hdist : Distinguished fc ts) :
    ∀ a t b, ts = a ++ t :: b → t.pre.control.state = .eraseAll → .request .erase ∈ actions t →
      t.post.storage = t.pre.storage ∧
      ∀ u r, LeadsTo a u r → ∀ received logs, .enumerated received logs ∈ actions u → ∀ entry ∈ logs,
        ∃ q file, q.isArchive = true ∧ t.pre.storage.files.lookup q = some file ∧ file.bytes = fc u entry.id := by
  intro a t b hts hst hsent
  obtain ⟨hbefore, hstep⟩ := hrun.split hts
  have hwork : ∃ ms, t.event = .work ms := by
    obtain ⟨_, hman | ⟨_, m, m', hev, _⟩⟩ := step_erases hstep hsent
    · exact absurd (hst.symm.trans hman) (by simp)
    · exact ⟨_, hev⟩
  obtain ⟨ms, hms⟩ := hwork
  rw [hms] at hstep
  refine ⟨eraseAll_storage hstep hst, ?_⟩
  intro u r hlead received logs henum entry hentry
  obtain ⟨hpost, hstorage⟩ := leadsTo_storage hbefore hst hlead
  obtain ⟨l, rfl⟩ := hlead.before
  have hsplit : ts = l ++ u :: (r ++ t :: b) := by simp [hts]
  obtain ⟨hrunu, hstepu⟩ := hrun.split hsplit
  have hin : u ∈ ts := by simp [hsplit]
  have hnu : (archivedPaths u.post.trace).Nodup := by
    obtain ⟨ext, ht⟩ := run_trace (hrun.rest hsplit)
    rw [ht, archivedPaths_append] at hn
    exact hn.of_append_left
  have hnpre : (archivedPaths u.pre.trace).Nodup := by
    obtain ⟨ext, ht⟩ := step_trace hstepu
    rw [ht, archivedPaths_append] at hnu
    exact hnu.of_append_left
  have hp := run_provenance hrunu hsplit hH hS hsame hdist hnpre
  obtain ⟨ms', hms'⟩ := hlead.archived.work
  have hstu := hlead.archived.state
  obtain ⟨s₁, e₁, s₂⟩ := u
  obtain rfl : e₁ = .work ms' := hms'
  obtain ⟨q, _, ha, file, hl, hbytes⟩ := archive_backs hstepu hstu hpost hin (hH _ hin) (hS _ _ _ hsplit) hsame hdist
    hnu hp henum hentry
  exact ⟨q, file, ha, by rw [hstorage]; exact hl, hbytes⟩

def archiveSwapped : List Moment :=
  listOne ++ List.replicate 5 calm ++
    { arrivals := [.message (.logData 1 1 1 [1]) true, .message (.logData 1 0 1 [7]) true] } :: List.replicate 7 calm

lemma archiveSwapped_disk : ∀ m ∈ archiveSwapped, ∀ n, m.reading.fileFails n = none := by
  simp [archiveSwapped, listOne, calm]

def pairLog : UInt16 → List UInt8 := fun _ => [7, 1]

def isDownload : Action → Bool
  | .session p _ => p.writeFile
  | _ => true

def isSession : Action → Bool
  | .session _ _ => true
  | _ => false

theorem erase_is_backed_up_swapped :
    ∃ x, Run.exec step (start sampleConfig {} {} [])
        (toArchive ++ [.drain true, .work archiveSwapped, .drain true, .work [calm, calm]]) = some x ∧
      ∃ a t b, x.1 = a ++ t :: b ∧ t.pre.control.state = .eraseAll ∧ .request .erase ∈ actions t ∧
        ∀ u r, LeadsTo a u r → ∀ received logs, .enumerated received logs ∈ actions u → ∀ entry ∈ logs,
          ∃ q file, q.isArchive = true ∧ t.pre.storage.files.lookup q = some file ∧ file.bytes = [7, 1] := by
  refine exists_of_any (fun x => (∃ t ∈ x.1, t.pre.control.state = .eraseAll ∧ .request .erase ∈ actions t) ∧
    (archivedPaths x.2.trace).Nodup ∧
    (∀ t ∈ x.1, (∀ a ∈ arrivals t.event, Truthful pairLog a) ∧
      (t.pre.control.state = .archive → t.pre.rows.isEmpty) ∧ (actions t).all isDownload) ∧
    x.1.Pairwise fun t u => (actions t).any isSession → u.pre.control.state ≠ .archive) (by decide +kernel) ?_
  rintro x hx ⟨⟨t, ht, hst, he⟩, hn, hall, hlater⟩
  have hS : ∀ a t b, x.1 = a ++ t :: b → Sheltered (fun _ => pairLog) b t := by
    intro a t b hab
    obtain ⟨_, hrows, hfull⟩ := hall t (by simp [hab])
    refine ⟨fun hst e fresh _ row hrow => ?_, fun ms hms m hm => ?_, fun p processed hp hask => ?_⟩
    · have hnil : t.pre.downloader.database.archivedLogs = [] := List.isEmpty_iff.mp (hrows hst)
      rw [hnil] at hrow
      cases hrow
    · have hmem : Event.work ms ∈ x.1.map (·.event) := hms ▸ List.mem_map_of_mem (by simp [hab])
      rw [Run.exec_events hx] at hmem
      obtain rfl | rfl : ms = archiveSwapped ∨ ms = [calm, calm] := by simpa [toArchive] using hmem
      · exact archiveSwapped_disk m hm
      · obtain rfl : m = calm := by simpa using hm
        exact fun n => rfl
    · obtain ⟨u, hu, hst, _⟩ := hask (List.all_eq_true.mp hfull _ hp)
      rw [hab] at hlater
      have hrel := (List.pairwise_cons.mp (List.pairwise_append.mp hlater).2.1).1 u hu
      exact absurd hst (hrel (List.any_eq_true.mpr ⟨_, hp, rfl⟩))
  obtain ⟨a, b, hab⟩ := List.append_of_mem ht
  have hback := erase_is_backed_up (fun _ => pairLog) sampleConfig x.1 x.2 (Run.of_exec hx) (fun t ht => (hall t ht).1)
    (fun t _ u _ id _ _ => rfl) hn hS (fun t _ u _ id n _ => rfl) a t b hab hst he
  exact ⟨a, t, b, hab, hst, he, hback.2⟩

def tinyConfig : Settings := { sampleConfig with storage := { epochSettings with maxSizeGb := 0 } }

def evicted : List Event :=
  toArchive ++ [.drain true, .work (archivePair 7 1), .arrive .cancel, .drain true, .drain true, .work [calm],
    .drain true, .turn {}, .arrive (beat true 7000), .arrive (beat false 7001), .drain true, .turn { now := 20000 },
    .drain true, .turn {}, .drain true,
    .work (listOne ++ List.replicate 3 calm ++ [{ arrivals := [.message (.logData 1 0 1 [7]) true] }]),
    .drain true, .work [calm, calm]]

theorem evicted_log_erased :
    ∃ x, Run.exec step (start tinyConfig {} {} []) evicted = some x ∧
      (∀ t ∈ x.1, Honest (fun _ => pairLog) t) ∧ (archivedPaths x.2.trace).Nodup ∧
      ∃ a t b, x.1 = a ++ t :: b ∧ t.pre.control.state = .eraseAll ∧ .request .erase ∈ actions t ∧
        t.pre.storage.files.keys = [] ∧
        ∃ u r, LeadsTo a u r ∧ ∃ received logs, .enumerated received logs ∈ actions u ∧ logs ≠ [] := by
  refine exists_of_any (fun x => (∀ t ∈ x.1, ∀ a ∈ arrivals t.event, Truthful pairLog a) ∧
    (archivedPaths x.2.trace).Nodup ∧ ∃ t ∈ x.1, t.pre.control.state = .eraseAll ∧ .request .erase ∈ actions t ∧
      t.pre.storage.files.keys.isEmpty) (by decide +kernel) ?_
  rintro x hx ⟨hH, hn, t, ht, hst, he, hk⟩
  obtain ⟨a, b, hab⟩ := List.append_of_mem ht
  obtain ⟨u, r, hlead⟩ := erase_preceded (by simp [start]) (Run.of_exec hx) hab hst
  obtain ⟨received, logs, henum, hne, _⟩ := hlead.archived.logs
  exact ⟨hH, hn, a, t, b, hab, hst, he, List.isEmpty_iff.mp hk, u, r, hlead, received, logs, henum, hne⟩

end DroneLogService

end MavlinkLogService.Service
