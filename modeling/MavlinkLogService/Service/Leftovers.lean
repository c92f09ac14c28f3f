import MavlinkLogService.Archive.Leftovers
import MavlinkLogService.Service.Statistics

/-! The partial files in the life of a process, from its start on. -/

namespace MavlinkLogService.Service

open Archive Archive.LogDownloader Library Session Storage

def Event.Faultless : Event → Prop
  | .work ms => ∀ m ∈ ms, m.reading.ioOk = true
  | _ => True

lemma Control.observe_io {c : Control} {ms : List Moment} {tick : Tick} (h : tick ∈ (c.observe ms).2) :
    ∃ m ∈ ms, m.reading.ioOk = tick.ioOk := by
  induction ms generalizing c with
  | nil => simp [observe] at h
  | cons m ms ih =>
    rcases List.mem_cons.mp h with rfl | h
    · exact ⟨m, List.mem_cons_self, rfl⟩
    · obtain ⟨m', hm, hio⟩ := ih h
      exact ⟨m', List.mem_cons_of_mem m hm, hio⟩

namespace DroneLogService

variable {s s' : DroneLogService} {e : Event} {ms : List Moment}

lemma Performs.tidies {α : Type} {task : Archive.Task α} {a : α} (h : Performs s ms task a s')
    (hb : isArchiveBusy s.control.state = true)
    (ht : Prog.Moves (Calm (Event.work ms).Faultless) (Tidies (Event.work ms).Faultless) task) :
    Tidies (Event.work ms).Faultless s.downloader s'.downloader := by
  refine (ht s.downloader s.downloader _ a s'.downloader [] rfl (fun tick hmem => ⟨?_, fun hio => ?_⟩) h.run).1
  · exact Control.observe_fair hb (honours_nothing ms) tick hmem
  · obtain ⟨m, hm, heq⟩ := Control.observe_io hmem
    exact heq ▸ hio m hm

lemma archiveCycle_tidies {faultless : Prop} {settings : Settings} (select : LogEntry → Bool) :
    Prog.Moves (Calm faultless) (Tidies faultless) (archiveCycle settings select) :=
  .bind enumerateLogs_tidies fun logs => .bind (archiveAll_tidies (logs.filter select)) fun _ => .pure _

lemma eraseUnlessCancelled_tidies {faultless : Prop} {settings : Settings} :
    Prog.Moves (Calm faultless) (Tidies faultless) (eraseUnlessCancelled settings) :=
  .bind (quiet_tidies (cancelled_quiet settings)) fun _ =>
    .ite (.pure _) (.bind eraseFlightControllerLogs_tidies fun _ => .pure _)

lemma Works.tidies (h : Works s ms s') : Tidies (Event.work ms).Faultless s.downloader s'.downloader := by
  have hb := h.busy
  cases h with
  | archive logs result sm _ hp hd _ => exact hd ▸ hp.tidies hb (archiveCycle_tidies _)
  | eraseAll sm _ hp hd _ => exact hd ▸ hp.tidies hb eraseUnlessCancelled_tidies
  | manualRefresh logs sm _ hp hd _ => exact hd ▸ hp.tidies hb enumerateLogs_tidies
  | manualDownload logs result sm _ hp hd _ => exact hd ▸ hp.tidies hb (archiveCycle_tidies _)
  | manualErase ok sm _ hp hd _ => exact hd ▸ hp.tidies hb eraseFlightControllerLogs_tidies

lemma enforceStorageLimit_partials (settings : StorageSettings) (st : StorageManager) (listing : List Path) :
    partials (st.enforceStorageLimit settings listing) ⊆ partials st := by
  intro q hq
  obtain ⟨hm, hp⟩ := mem_partials.mp hq
  obtain ⟨file, hl⟩ := Option.isSome_iff_exists.mp (AList.lookup_isSome.mpr hm)
  refine mem_partials.mpr ⟨AList.lookup_isSome.mp ?_, hp⟩
  rw [StorageManager.enforceStorageLimit_lookup listing hl]
  rfl

lemma Turns.partials {r : Reading} (h : Turns s r s') :
    partials s'.downloader.storage ⊆ partials s.downloader.storage := by
  cases h with
  | stay h => rw [h]; exact List.Subset.refl _
  | move state stale _ _ h => rw [h]; exact List.Subset.refl _
  | beginCycle _ h => rw [h]; exact List.Subset.refl _
  | cleanup _ h =>
    have hs := cleanup_storage s r
    rw [← h] at hs
    rw [← storage, hs]
    exact enforceStorageLimit_partials _ _ _

lemma step_tidies (h : s.step e = some s') (hlife : ∀ config, e ≠ .restart config) :
    Tidies e.Faultless s.downloader s'.downloader := by
  by_cases he : ∀ ms, e ≠ .work ms
  · refine Leaves.tidies ⟨by simpa using (step_enters_nothing h he).outcomes, ?_⟩
    rw [List.append_nil]
    cases step_cases h with
    | arrive a hs => rw [hs]; exact List.Subset.refl _
    | drain connected hs =>
      have hsame : s'.downloader.storage = s.downloader.storage := by
        rw [hs]
        exact (drain_kept s connected).storage
      rw [hsame]
      exact List.Subset.refl _
    | turn r s₁ ht hs => rw [hs]; exact ht.partials
    | work ms _ => exact absurd rfl (he ms)
    | restart config _ => exact absurd rfl (hlife config)
  · push Not at he
    obtain ⟨ms, rfl⟩ := he
    exact (step_work h).1.tidies

lemma start_partials (config : Settings) (storage : StorageManager) (database : Database) (history : List Action) :
    partials (start config storage database history).storage = [] := by
  refine List.eq_nil_iff_forall_not_mem.mpr fun q hq => ?_
  obtain ⟨hm, hp⟩ := mem_partials.mp hq
  obtain ⟨file, hl⟩ := Option.isSome_iff_exists.mp (AList.lookup_isSome.mpr hm)
  change (StorageManager.removeAll (partials storage) storage.files).lookup q = some file at hl
  rw [StorageManager.removeAll_lookup] at hl
  split_ifs at hl with hmem
  exact hmem (mem_partials.mpr ⟨AList.lookup_isSome.mp (by rw [hl]; rfl), hp⟩)

theorem partial_files_left (config : Settings) (storage : StorageManager) (database : Database)
    (history : List Action) (ts : List (Transition DroneLogService Event)) (s : DroneLogService)
    (h : Run step (start config storage database history) ts s) (hlife : ∀ t ∈ ts, ∀ c, t.event ≠ .restart c) :
    unfinishedLogs history + (partials s.storage).length ≤ unfinishedLogs s.trace ∧
      ((∀ t ∈ ts, t.event.Faultless) → partials s.storage = []) := by
  have htidy : Tidies (∀ t ∈ ts, t.event.Faultless) (start config storage database history).downloader
      s.downloader := by
    induction h with
    | nil => exact refl_of (Tidies _) _
    | @snoc ts s e s' _ he ih =>
      have hbefore := ih fun t ht => hlife t (List.mem_append_left _ ht)
      have hlast := step_tidies he (hlife ⟨s, e, s'⟩ (by simp))
      refine trans_of (Tidies _) (hbefore.mono fun hall t ht => hall t (List.mem_append_left _ ht)) ?_
      exact hlast.mono fun hall => hall ⟨s, e, s'⟩ (by simp)
  obtain ⟨new, hlen, hnone, hfiles⟩ := htidy
  have hnew : partials s.storage ⊆ new := by
    have hempty := start_partials config storage database history
    rw [DroneLogService.storage] at hempty
    rwa [hempty, List.nil_append] at hfiles
  refine ⟨?_, fun hall => ?_⟩
  · have hle := ((nodup_partials s.storage).subperm hnew).length_le
    have htotal : unfinishedLogs history + new.length ≤ unfinishedLogs s.trace := hlen
    omega
  · rw [hnone hall] at hnew
    exact List.subset_nil.mp hnew

def failedRemoval : List Event :=
  let broken : Moment := { reading := { ioOk := false } }
  toArchive ++ [.drain true, .work (listOne ++ List.replicate 5 calm ++ { arrivals := [.cancel] } ::
    List.replicate 3 broken)]

theorem partial_files_left_failed_removal :
    ∃ x, Run.exec step (start sampleConfig {} {} []) failedRemoval = some x ∧
      outcomes x.2.trace = [(⟨1, 1, 1, 0, 2⟩, .cancelled)] ∧ (partials x.2.storage).length = 1 ∧
      unfinishedLogs [] + (partials x.2.storage).length ≤ unfinishedLogs x.2.trace := by
  refine exists_of_any (fun x => outcomes x.2.trace = [(⟨1, 1, 1, 0, 2⟩, .cancelled)] ∧
      (partials x.2.storage).length = 1)
    (by decide +kernel) fun x hx hleft => ⟨hleft.1, hleft.2, ?_⟩
  refine (partial_files_left sampleConfig {} {} [] x.1 x.2 (Run.of_exec hx) fun t ht c hc => ?_).1
  have hmem := List.mem_map_of_mem (f := fun t : Transition DroneLogService Event => t.event) ht
  rw [Run.exec_events hx, hc] at hmem
  simp [failedRemoval, toArchive] at hmem

end DroneLogService

end MavlinkLogService.Service
