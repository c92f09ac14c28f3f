import Mathlib.Data.List.Destutter
import MavlinkLogService.Archive.Cycle

/-! Enumeration and cycles that skip: the ids an enumeration settles on, and the run of a cycle whose logs
are all in the catalog already. -/

namespace MavlinkLogService.Archive.LogDownloader

open Library Session Storage

def logIds (entries : List LogEntry) : List UInt16 := entries.map (·.id)

lemma settle_dedup (order : List ℕ) (received : List LogEntry) :
    ∃ arranged, (∀ e, e ∈ arranged ↔ e ∈ received) ∧
      logIds (settleEntries order received) = (logIds arranged).dedup := by
  refine ⟨(order.filterMap (received[·]?) ++ received).insertionSort (fun a b => a.id ≤ b.id), ?_, ?_⟩
  · intro e
    rw [List.mem_insertionSort, List.mem_append]
    constructor
    · rintro (h | h)
      · obtain ⟨n, _, hn⟩ := List.mem_filterMap.mp h
        exact List.mem_of_getElem? hn
      · exact h
    · exact Or.inr
  · have hsorted : (logIds ((order.filterMap (received[·]?) ++ received).insertionSort
        (fun a b => a.id ≤ b.id))).Pairwise (· ≤ ·) := by
      have : Std.Total (fun a b : LogEntry => a.id ≤ b.id) := ⟨fun a b => UInt16.le_total a.id b.id⟩
      have : IsTrans LogEntry (fun a b => a.id ≤ b.id) := ⟨fun a b c h h' => UInt16.le_trans h h'⟩
      exact List.pairwise_map.mpr (List.pairwise_insertionSort _ _)
    have : Std.Antisymm (fun a b : UInt16 => a ≤ b) := ⟨fun a b => UInt16.le_antisymm⟩
    rw [← hsorted.destutter_eq_dedup]
    exact List.map_destutter fun a _ b _ => Iff.rfl

lemma settle_nodup (order : List ℕ) (received : List LogEntry) : (logIds (settleEntries order received)).Nodup := by
  obtain ⟨arranged, _, h⟩ := settle_dedup order received
  rw [h]
  exact List.nodup_dedup _

lemma settle_ids (order : List ℕ) (received : List LogEntry) :
    (logIds (settleEntries order received)).toFinset = (logIds received).toFinset := by
  obtain ⟨arranged, hmem, h⟩ := settle_dedup order received
  rw [h]
  ext id
  simp [logIds, hmem]

lemma settle_subset {order : List ℕ} {received : List LogEntry} {e : LogEntry}
    (h : e ∈ settleEntries order received) : e ∈ received := by
  have hs := (List.destutter_sublist _ _).subset h
  rw [List.mem_insertionSort, List.mem_append] at hs
  rcases hs with hs | hs
  · obtain ⟨n, _, hn⟩ := List.mem_filterMap.mp hs
    exact List.mem_of_getElem? hn
  · exact hs

variable {settings : Settings}

lemma deliver_nothing {tick : Tick} (h₁ : tick.messages = []) (h₂ : tick.cancel = false) (h₃ : tick.marks = [])
    (d : LogDownloader) : deliver settings tick d = d := by
  simp [deliver, Inbox.deliver, h₁, h₂, h₃]

lemma deliver_entries (entries : List LogEntry) (d : LogDownloader) :
    deliver settings { messages := entries.map .logEntry } d =
      { d with inbox := { d.inbox with pendingEntries := d.inbox.pendingEntries ++ entries } } := by
  have hfold : ∀ inbox : Inbox, (entries.map LogMessage.logEntry).foldl (Inbox.onMessage settings.download) inbox =
      { inbox with pendingEntries := inbox.pendingEntries ++ entries } := by
    induction entries with
    | nil => intro inbox; simp
    | cons e entries ih =>
      intro inbox
      rw [List.map_cons, List.foldl_cons, ih]
      simp [Inbox.onMessage]
  simp [deliver, Inbox.deliver, hfold]

def listTicks (entries : List LogEntry) : List Tick :=
  [{ messages := entries.map .logEntry }, {}, { now := 1000 }, {}, {}]

lemma enumerateLogs_run (settings : Settings) {entries : List LogEntry} (he : entries ≠ []) {d : LogDownloader}
    (hc : d.inbox.cancelRequested = false) (rest : List Tick) :
    ∃ d', (enumerateLogs settings).run d (listTicks entries ++ rest) = some (settleEntries [] entries, d', rest) ∧
      d'.inbox.cancelRequested = false ∧ d'.database = d.database ∧
      Recorded (.enumerated entries (settleEntries [] entries)) d d' := by
  have hpos : 0 < entries.length := List.length_pos_iff.mpr he
  let mid : LogDownloader := { d with
    inbox := { d.inbox with pendingEntries := entries }
    trace := d.trace ++ [.request .list] }
  have hround : (enumerationRound settings 15000 (entries.length, 0)).run mid
      ({} :: { now := 1000 } :: {} :: {} :: rest) =
      some (.inr (), mid, {} :: {} :: rest) := by
    simp [enumerationRound, Prog.bind_run, await, deliver_nothing, pendingCount, mid, hc]
  have hattempt : (enumerationAttempt settings (max 1 settings.download.enumerateAttempts) 1).run
      { d with inbox := { d.inbox with pendingEntries := [] } } (listTicks entries ++ rest) =
      some (.inr (), mid, {} :: rest) := by
    have hinner := Prog.iterate_stops hround
    simp only [enumerationAttempt, listTicks, List.cons_append, List.nil_append, Prog.bind_run, requestLogList, note,
      Prog.modify_run, Option.bind_some, await, Prog.next_run, deliver_entries, pendingCount, Prog.get_run,
      Prog.pure_run, Int.zero_add]
    rw [hinner]
    simp [cancelled, Prog.bind_run, await, deliver_nothing, mid, hpos]
  have houter := Prog.iterate_stops hattempt
  refine ⟨noted (.request .finish) (noted (.enumerated entries (settleEntries [] entries)) mid), ?_, hc, rfl, ?_⟩
  · simp only [enumerateLogs, Prog.bind_run, Prog.modify_run, Option.bind_some]
    rw [houter]
    simp [await, deliver_nothing, note, requestLogEnd, noted, mid]
  · exact ⟨[.request .list, .enumerated entries (settleEntries [] entries), .request .finish],
      by simp [noted, mid], by simp⟩

def Catalogued (db : Database) (entry : LogEntry) : Prop :=
  ∃ row, db.findCandidate entry.id entry.size 0 = some row ∧ row.probeSha256 = Sha256.hashHex [] ∧ row.probeBytes = 0

lemma archiveOne_skips (hs : settings.download.probeBytes = 0) {entry : LogEntry} (hsize : entry.size.toNat < 2 ^ 31)
    {d : LogDownloader} (h : Catalogued d.database entry) (rest : List Tick) :
    ∃ d', (archiveOne settings entry).run d ({} :: rest) = some (.skippedDuplicate, d', rest) ∧
      d'.inbox.cancelRequested = d.inbox.cancelRequested ∧
      d'.database.archivedLogs = d.database.archivedLogs := by
  obtain ⟨row, hrow, hsha, hbytes⟩ := h
  have hprobe : probeParams settings entry = ⟨entry.id, 0, 0, 0, false⟩ := by
    have hcount : probeCount settings.download.probeBytes entry.size.toNat = 0 := by
      rw [hs, probeCount_small le_rfl hsize]
      simp
    simp only [probeParams, hcount]
    rfl
  have hsession : ∀ (d : LogDownloader), ∃ r x d', (runSession settings (probeParams settings entry) {}).run d rest =
      some ((r, x), d', rest) ∧ r.success = true ∧ r.probeSha256 = Sha256.hashHex [] ∧
      d'.inbox.cancelRequested = d.inbox.cancelRequested ∧ d'.database = d.database := by
    intro d
    rw [hprobe]
    cases rest with
    | nil => exact ⟨_, _, _, rfl, rfl, rfl, rfl, rfl⟩
    | cons tick rest => exact ⟨_, _, _, rfl, rfl, rfl, rfl, rfl⟩
  obtain ⟨r, x, d', hrun, hok, hprobe', hcancel, hdb⟩ :=
    hsession { d with inbox := d.inbox.clearDataChunks }
  rw [hprobe] at hrun
  refine ⟨{ noted (.request .finish) d' with database := d'.database.incrementStat .flightsSkipped }, ?_, ?_, ?_⟩
  · simp [archiveOne, isDuplicate, checkDedup, Prog.bind_run, await, deliver_nothing, hrow, downloadProbeAndCompare,
      clearDataChunks, hrun, requestLogEnd, note, hok, hprobe', hsha, hprobe, hbytes, updateDatabase, noted]
  · exact hcancel
  · simp [hdb]

def idleTicks (n : ℕ) : List Tick := List.replicate n {}

lemma idleTicks_fair (n : ℕ) : ∀ tick ∈ idleTicks n, Fair {} tick := by
  intro tick ht
  rw [List.eq_of_mem_replicate ht]
  exact ⟨by simp, by simp, fun _ _ => trivial, fun h => h.elim⟩

lemma archiveLoop_skips (hs : settings.download.probeBytes = 0) {logs : List LogEntry}
    (hsize : ∀ e ∈ logs, e.size.toNat < 2 ^ 31) (result : ArchiveCycleResult) {d : LogDownloader}
    (hc : d.inbox.cancelRequested = false) (hcat : ∀ e ∈ logs, Catalogued d.database e) :
    ∃ d' result', (archiveLoop settings result false logs).run d (idleTicks (2 * logs.length)) =
        some ((result', false), d', []) ∧ d'.inbox.cancelRequested = false ∧
      result'.cancelled = result.cancelled := by
  induction logs generalizing result d with
  | nil => exact ⟨d, result, rfl, hc, rfl⟩
  | cons entry logs ih =>
    have hticks : idleTicks (2 * (entry :: logs).length) = {} :: {} :: idleTicks (2 * logs.length) := rfl
    obtain ⟨d₁, hone, hc₁, hrows⟩ := archiveOne_skips hs (hsize entry List.mem_cons_self)
      (d := noted (.begin entry) d) (hcat entry List.mem_cons_self) (idleTicks (2 * logs.length))
    obtain ⟨d', result', hrest, hc', hcount⟩ := ih (fun e he => hsize e (List.mem_cons_of_mem entry he))
      (tally result d₁.lastFailureReason .skippedDuplicate) (d := noted (.outcome entry .skippedDuplicate) d₁)
      (hc₁.trans hc) fun e he => by
        obtain ⟨row, hrow, hsha⟩ := hcat e (List.mem_cons_of_mem entry he)
        refine ⟨row, ?_, hsha⟩
        rw [← hrow]
        simp only [Database.findCandidate, Database.candidates, noted, hrows]
    refine ⟨d', result', ?_, hc', hcount⟩
    rw [hticks]
    simp only [noted] at hone hrest
    have hfail : (ArchiveResult.skippedDuplicate == ArchiveResult.failed) = false := rfl
    simpa [archiveLoop, cancelled, Prog.bind_run, await, deliver_nothing, hc, note, hone, hfail] using hrest

lemma archiveCycle_skips (hs : settings.download.probeBytes = 0) {logs : List LogEntry}
    (hsize : ∀ e ∈ logs, e.size.toNat < 2 ^ 31) {d : LogDownloader}
    (hc : d.inbox.cancelRequested = false) (hcat : ∀ e ∈ logs, Catalogued d.database e) :
    ∃ d' result, (archiveAll settings logs).run d (idleTicks (2 * logs.length)) = some (result, d', []) ∧
      d'.inbox.cancelRequested = false ∧ result.cancelled = 0 ∧ result.allArchived = true := by
  obtain ⟨d', result, hrun, hc', hcount⟩ := archiveLoop_skips hs hsize {} hc hcat
  refine ⟨noted (.request .finish) { d' with inbox := d'.inbox.clearDataChunks }, { result with allArchived := true },
    ?_, hc', hcount, rfl⟩
  simp [archiveAll, Prog.bind_run, hrun, clearDataChunks, requestLogEnd, note, noted]

end MavlinkLogService.Archive.LogDownloader
