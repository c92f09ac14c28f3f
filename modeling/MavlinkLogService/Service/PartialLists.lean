import MavlinkLogService.Archive.Skipping
import MavlinkLogService.Service.EraseGate

/-! The list of logs an automatic erase relies on, and the number of logs the flight controller announced. -/

namespace MavlinkLogService.Service

open Archive Archive.LogDownloader Library Session Storage

def announced (entries : List LogEntry) : List (UInt16 × UInt16) := entries.map fun e => (e.id, e.numLogs)

lemma announced_ids (entries : List LogEntry) : (announced entries).map Prod.fst = logIds entries := by
  simp [announced, logIds]

namespace DroneLogService

variable {s s' : DroneLogService} {t u : Transition DroneLogService Event}

lemma archive_settles (h : u.pre.step u.event = some u.post) (hu : ArchivedAll u) {received logs : List LogEntry}
    (hm : .enumerated received logs ∈ actions u) : ∃ order, logs = settleEntries order received := by
  obtain ⟨s, e, s'⟩ := u
  obtain ⟨ms, rfl⟩ := hu.work
  have hst := hu.state
  cases (step_work h).1 with
  | archive logs' result sm _ hp hd _ =>
    obtain ⟨done, mid, hc⟩ := hp.returns (by rw [hst]; rfl) (honours_nothing ms) (archiveCycle_returns _ _)
    have hrec : Recorded (.enumerated received logs) s.downloader sm.downloader := by
      obtain ⟨ext, ht, _⟩ := hc.working.trace
      refine ⟨ext, ht, ?_⟩
      rwa [actions_eq (t := ⟨s, .work ms, s'⟩) (by rw [trace, hd]; exact ht)] at hm
    exact (hc.enumerated hrec).2.2
  | _ => simp_all

def skipMoments (entries : List LogEntry) : List Moment :=
  [{ arrivals := entries.map fun e => .message (.logEntry e) true }, calm,
      { reading := { now := 1000 } }, calm, calm] ++
    List.replicate (2 * (settleEntries [] entries).length) calm

lemma receive_entries (c : Control) (entries : List LogEntry) :
    handleAll Control.receive c (entries.map fun e => .message (.logEntry e) true) =
      (c, { messages := entries.map .logEntry }) := by
  induction entries with
  | nil => rfl
  | cons e entries ih =>
    have hone : c.receive (.message (.logEntry e) true) = (c, { messages := [.logEntry e] }) := rfl
    rw [List.map_cons, handleAll, hone, ih]
    rfl

lemma observe_calm (c : Control) (n : ℕ) : c.observe (List.replicate n calm) = (c, idleTicks n) := by
  induction n with
  | zero => rfl
  | succ n ih =>
    rw [List.replicate_succ, Control.observe]
    change ((c.observe (List.replicate n calm)).1, _ :: (c.observe (List.replicate n calm)).2) = _
    rw [ih]
    rfl

lemma observe_skip (c : Control) (entries : List LogEntry) : c.observe (skipMoments entries) =
    (c, listTicks entries ++ idleTicks (2 * (settleEntries [] entries).length)) := by
  have hlist : ∀ ms, c.observe ([{ arrivals := entries.map fun e => .message (.logEntry e) true }, calm,
      { reading := { now := 1000 } }, calm, calm] ++ ms) =
      ((c.observe ms).1, listTicks entries ++ (c.observe ms).2) := by
    intro ms
    simp only [List.cons_append, List.nil_append, Control.observe, receive_entries]
    rfl
  rw [skipMoments, hlist, observe_calm]

lemma settle_ne_nil {entries : List LogEntry} (h : entries ≠ []) : settleEntries [] entries ≠ [] := by
  intro hnil
  obtain ⟨e, he⟩ := List.exists_mem_of_ne_nil entries h
  have hid : e.id ∈ (logIds (settleEntries [] entries)).toFinset := by
    rw [settle_ids, List.mem_toFinset]
    exact List.mem_map_of_mem he
  rw [hnil] at hid
  cases List.mem_toFinset.mp hid

lemma archive_skips {entries : List LogEntry} (he : entries ≠ []) (hsize : ∀ e ∈ entries, e.size.toNat < 2 ^ 31)
    (hst : s.control.state = .archive) (hdr : s.draining = false) (hp : s.config.download.probeBytes = 0)
    (her : s.config.download.eraseAfterSuccess = true) (hc : s.downloader.inbox.cancelRequested = false)
    (hcat : ∀ e ∈ entries, Catalogued s.downloader.database e) :
    ∃ s', s.step (.work (skipMoments entries)) = some s' ∧ s'.control.state = .eraseAll ∧
      s'.draining = true ∧ s'.control.commands = s.control.commands ∧
      s'.downloader.inbox.cancelRequested = false ∧
      Recorded (.enumerated entries (settleEntries [] entries)) s.downloader s'.downloader := by
  obtain ⟨d₁, henum, hc₁, hdb, hrec⟩ := enumerateLogs_run s.config he hc
    (idleTicks (2 * (settleEntries [] entries).length))
  obtain ⟨d₂, result, hall, hc₂, hcan, harch⟩ := archiveCycle_skips hp
    (fun e (h : e ∈ settleEntries [] entries) => hsize e (settle_subset h)) hc₁
    (fun e h => by rw [hdb]; exact hcat e (settle_subset h))
  have hrun : (archiveCycle s.config fun _ => true).run s.downloader (s.control.observe (skipMoments entries)).2 =
      some ((settleEntries [] entries, result), d₂, []) := by
    rw [observe_skip, archiveCycle, Prog.bind_run, henum]
    simp [Prog.bind_run, hall]
  have hperform : s.perform (skipMoments entries) (archiveCycle s.config fun _ => true) =
      some ((settleEntries [] entries, result), { s with downloader := d₂ }) := by
    simp only [perform, hrun]
    rw [observe_skip]
  refine ⟨{ s with
    control := { s.control with cachedFcLogs := settleEntries [] entries, fcLogsStale := false, state := .eraseAll }
    downloader := d₂
    lastCycleResult := result
    draining := true }, ?_, rfl, rfl, rfl, hc₂, ?_⟩
  · simp only [step, hdr, work, hst, hperform]
    simp [cacheEnumerationResult, hcan, harch, her, settle_ne_nil he, setState]
  · obtain ⟨⟨done, hchain, _⟩, _⟩ := archiveAll_returns _ d₁ d₁ _ result d₂ [] rfl (idleTicks_fair _) hall
    exact hrec.later hchain.archiving

lemma eraseAll_sends (hst : s.control.state = .eraseAll) (hdr : s.draining = false)
    (hc : s.downloader.inbox.cancelRequested = false) :
    ∃ s', s.step (.work [calm, calm]) = some s' ∧ .request .erase ∈ actions ⟨s, .work [calm, calm], s'⟩ := by
  have hob : s.control.observe [calm, calm] = (s.control, idleTicks 2) := observe_calm s.control 2
  have hrun : (eraseUnlessCancelled s.config).run s.downloader (s.control.observe [calm, calm]).2 =
      some ((), { noted (.request .erase) s.downloader with
        database := s.downloader.database.markAllErased }, []) := by
    rw [hob]
    simp [eraseUnlessCancelled, cancelled, Prog.bind_run, await, idleTicks, List.replicate, deliver_nothing, hc,
      eraseFlightControllerLogs, note, updateDatabase, noted]
  have hperform : s.perform [calm, calm] (eraseUnlessCancelled s.config) = some ((), { s with
      downloader := { noted (.request .erase) s.downloader with
        database := s.downloader.database.markAllErased } }) := by
    simp only [perform, hrun]
    rw [hob]
  refine ⟨_, by simp only [step, hdr, work, hst, hperform]; rfl, ?_⟩
  rw [actions_eq (t := ⟨s, .work [calm, calm], _⟩) rfl]
  simp

def probelessRow (e : LogEntry) : ArchivedLog where
  sha256 := toString e.id.toNat
  fcLogId := e.id
  fcLogSize := e.size
  fcLogTimeUtc := e.timeUtc
  probeSha256 := Sha256.hashHex []
  probeBytes := 0
  archiveTime := 0
  archiveDurationMs := 0
  filename := ⟨["logs"], toString e.id.toNat, ".bin"⟩

def probelessCatalog (entries : List LogEntry) : Database :=
  { archivedLogs := (entries.map probelessRow).dedup }

lemma probelessCatalog_has {entries : List LogEntry} {e : LogEntry} (he : e ∈ entries) :
    Catalogued (probelessCatalog entries) e := by
  have hmem : probelessRow e ∈ (probelessCatalog entries).candidates e.id e.size := by
    refine List.mem_filter.mpr ⟨List.mem_dedup.mpr (List.mem_map_of_mem he), ?_⟩
    simp [probelessRow]
  obtain ⟨row, hrow⟩ : ∃ row, (probelessCatalog entries).findCandidate e.id e.size 0 = some row := by
    rw [Database.findCandidate, Nat.zero_mod]
    exact ⟨_, List.getElem?_eq_getElem (List.length_pos_of_mem hmem)⟩
  refine ⟨row, hrow, ?_⟩
  obtain ⟨e', _, rfl⟩ := List.mem_map.mp (List.mem_dedup.mp (Database.findCandidate_mem hrow).1)
  exact ⟨rfl, rfl⟩

def skipConfig : Settings where
  download := { probeBytes := 0 }
  storage := epochSettings

def onRequest : List Event :=
  [.arrive (.job .archive [] false true), .drain true, .drain true, .turn {}, .drain true]

lemma onRequest_archives (db : Database) : ∃ x, Run.exec step (start skipConfig {} db []) onRequest = some x ∧
    x.2.control.state = .archive ∧ x.2.draining = false ∧ x.2.control.commands = [] ∧
    x.2.downloader.inbox.cancelRequested = false ∧ x.2.downloader.database = db ∧ x.2.config = skipConfig :=
  ⟨_, rfl, rfl, rfl, rfl, rfl, rfl, rfl⟩

lemma list_erased {entries : List LogEntry} (he : entries ≠ []) (hsize : ∀ e ∈ entries, e.size.toNat < 2 ^ 31) :
    ∃ ts s, Run step (start skipConfig {} (probelessCatalog entries) []) ts s ∧ ∃ a t u r, ts = a ++ [t] ∧
      t.pre.control.state = .eraseAll ∧ .request .erase ∈ actions t ∧ LeadsTo a u r ∧
      .enumerated entries (settleEntries [] entries) ∈ actions u := by
  obtain ⟨⟨ts, s₀⟩, hexec, hst, hdr, hcmd, hc, hdb, hconf⟩ := onRequest_archives (probelessCatalog entries)
  simp only at hst hdr hcmd hc hdb hconf
  obtain ⟨s₁, hwork, hst₁, hdr₁, hcmd₁, hc₁, hrec⟩ := archive_skips he hsize hst hdr (by rw [hconf]; rfl)
    (by rw [hconf]; rfl) hc (fun e h => by rw [hdb]; exact probelessCatalog_has h)
  have hdrain : s₁.step (.drain true) = some { s₁ with draining := false } := by
    simp [step, hdr₁, drain, hcmd₁, hcmd]
  obtain ⟨s₃, herase, hsent⟩ := eraseAll_sends (s := { s₁ with draining := false }) hst₁ rfl hc₁
  -- the run: up to the `Archive` step, that step, an empty drain, the erase
  have hrun := (((Run.of_exec hexec).snoc hwork).snoc hdrain).snoc herase
  refine ⟨_, s₃, hrun, _, _, ⟨s₀, .work (skipMoments entries), s₁⟩,
    [⟨s₁, .drain true, { s₁ with draining := false }⟩], rfl, hst₁, hsent, ⟨⟨ts, ?_⟩, ?_, ?_⟩, mem_actions hrec⟩
  · rw [List.append_assoc]
    rfl
  · exact (eraseAll_entered (u := ⟨s₀, .work (skipMoments entries), s₁⟩) hwork (by rw [hst]; simp) hst₁).1
  · intro v hv
    obtain rfl := List.mem_singleton.mp hv
    exact ⟨hst₁, hst₁, Or.inr ⟨true, rfl⟩⟩

theorem erase_counts_logs (K : List (UInt16 × UInt16)) :
    (∀ config storage database ts s, Run step (start config storage database []) ts s →
      ∀ a t b, ts = a ++ t :: b → t.pre.control.state = .eraseAll → .request .erase ∈ actions t →
      ∀ u r, LeadsTo a u r → ∀ received logs, .enumerated received logs ∈ actions u → announced received = K →
      ∀ x ∈ K, (logIds logs).toFinset.card = x.2.toNat) ↔
    ∀ x ∈ K, (K.map Prod.fst).toFinset.card = x.2.toNat := by
  constructor
  · intro h x hx
    let entries : List LogEntry := K.map fun x => ⟨x.1, x.2, x.2, 0, 1⟩
    have hK : announced entries = K := by
      rw [announced, List.map_map]
      exact List.map_id K
    have hne : entries ≠ [] := by
      intro hnil
      rw [List.map_eq_nil_iff.mp hnil] at hx
      cases hx
    have hsize : ∀ e ∈ entries, e.size.toNat < 2 ^ 31 := by
      intro e he
      obtain ⟨y, _, rfl⟩ := List.mem_map.mp he
      simp
    obtain ⟨ts, s, hrun, a, t, u, r, hts, hst, hsent, hlead, henum⟩ := list_erased hne hsize
    have hcard := h _ _ _ ts s hrun a t [] hts hst hsent u r hlead entries _ henum hK x hx
    rwa [settle_ids, ← announced_ids, hK] at hcard
  · intro h config storage database ts s hrun a t b hts hst hsent u r hlead received logs henum hK x hx
    obtain ⟨l, rfl⟩ := hlead.before
    have hstep : u.pre.step u.event = some u.post :=
      (hrun.split (a := l) (t := u) (b := r ++ t :: b) (by simp [hts])).2
    obtain ⟨order, rfl⟩ := archive_settles hstep hlead.archived henum
    rw [settle_ids, ← announced_ids, hK]
    exact h x hx

/-- The flight controller has two logs; the entry of the second is lost. -/
theorem half_list_erased :
    ∃ x, Run.exec step (start sampleConfig {} {} [])
        (toArchive ++ [.drain true,
          .work ([{ arrivals := [.message (.logEntry ⟨1, 2, 2, 0, 2⟩) true] }, calm,
              { reading := { now := 1000 } }, calm,
              calm] ++ List.replicate 5 calm ++
            { arrivals := [.message (.logData 1 0 2 [7, 1]) true] } :: List.replicate 7 calm),
          .drain true, .work [calm, calm]]) = some x ∧
      ∃ t ∈ x.1, t.pre.control.state = .eraseAll ∧ .request .erase ∈ actions t ∧
        ∃ u ∈ x.1, .enumerated [⟨1, 2, 2, 0, 2⟩] [⟨1, 2, 2, 0, 2⟩] ∈ actions u := by
  exact exists_of_any (fun x => ∃ t ∈ x.1, t.pre.control.state = .eraseAll ∧ .request .erase ∈ actions t ∧
    ∃ u ∈ x.1, .enumerated [⟨1, 2, 2, 0, 2⟩] [⟨1, 2, 2, 0, 2⟩] ∈ actions u) (by decide +kernel) fun _ _ h => h

end DroneLogService

end MavlinkLogService.Service
