import MavlinkLogService.Session.Attendance

/-! A session that gets a chunk it has not had before at least once in every download timeout stores the log. -/

namespace MavlinkLogService.Session

open Library StreamDownload

/-- As long as a chunk of the log is missing, a missing one comes before the download timeout has passed. -/
structure Fed (settings : DownloadSettings) (id : UInt16) (L : List UInt8) (f : ℕ → Tick) : Prop where
  link : Link settings id L f
  news : ∀ i, ¬ logChunks id L ⊆ heard f id (i + 1) →
    ∃ j > i, (f j).nowIdle - (f i).now < settings.downloadTimeoutSec * 1000 ∧ ¬ (f j).chunksOf id ⊆ heard f id j

section

variable {settings : DownloadSettings} {p : Params} {L : List UInt8} {f : ℕ → Tick} {k : ℕ} {s : StreamDownload}

def SinceNews (p : Params) (f : ℕ → Tick) (k : ℕ) (s : StreamDownload) : Prop :=
  ∃ i < k, s.lastDataTime = (f i).now ∧ heard f p.logId k ⊆ heard f p.logId (i + 1)

lemma Fed.in_time (hf : Fed settings p.logId L f) (h : SinceNews p f k s)
    (hmissing : ¬ logChunks p.logId L ⊆ heard f p.logId k) :
    (f k).nowIdle - s.lastDataTime < settings.downloadTimeoutSec * 1000 := by
  obtain ⟨i, hi, htime, hnone⟩ := h
  obtain ⟨j, hj, hsoon, hnews⟩ := hf.news i fun hall => hmissing (List.Subset.trans hall (heard_subset f _ hi))
  have hkj : k ≤ j := by
    by_contra hlt
    refine hnews (List.Subset.trans (chunksOf_subset_heard f _ (not_le.mp hlt)) (List.Subset.trans hnone ?_))
    exact heard_subset f _ hj
  have hle := hf.link.flows.idle_mono hkj
  simp only at hle
  omega

lemma SinceNews.step {s' : StreamDownload} (h : SinceNews p f k s) (hs : Stays settings p L f k s s') :
    SinceNews p f (k + 1) s' := by
  rcases hs.time with htime | htime
  · exact ⟨k, Nat.lt_succ_self k, htime, List.Subset.refl _⟩
  obtain ⟨i, hi, hlast, hnone⟩ := h
  by_cases hnews : (f k).chunksOf p.logId ⊆ heard f p.logId k
  · refine ⟨i, by omega, htime.trans hlast, ?_⟩
    rw [heard_succ]
    exact List.append_subset.mpr ⟨hnone, List.Subset.trans hnews hnone⟩
  · exact ⟨k, Nat.lt_succ_self k, hs.news hnews, List.Subset.refl _⟩

end

theorem fed_session_stores_the_log (settings : DownloadSettings) (hretry : 0 ≤ settings.retryCount) (L : List UInt8)
    (h₀ : L ≠ []) (hL : L.length < 2 ^ 31) (p : Params) (hp : WholeLog L p) (hw : p.writeFile = true) (inbox : Inbox)
    (hc : inbox.cancelRequested = false) (file : OutputFile) (hf : file.Reliable) (hnew : file.content = [])
    (f : ℕ → Tick) (hfed : Fed settings p.logId L f) :
    ∃ n r s, (∀ more, run settings p inbox file (slice f 0 n ++ more) = some (r, s, more)) ∧ r.success = true ∧
      s.transfer.file.content = L := by
  have hne : p.byteCount ≠ 0 := hp.nonempty h₀
  refine link_stores (J := fun k s => Attends settings p f k s ∧ SinceNews p f k s) hfed.link hp hw h₀ hL hf hnew
    (fun k s h => h.1.running.phase) ⟨?_, ?_⟩ ?_
  · exact start_attends hfed.link hne (by rw [hp.offset, hp.count]; omega) hretry hc file
  · refine ⟨0, Nat.zero_lt_one, ?_, List.Subset.refl _⟩
    rw [(start_begins hne hretry hc (hfed.link.cancel 0) file).2]
  · rintro k s ⟨hattends, hsince⟩
    refine (hattends.step hfed.link hp.offset hp.count hL hne (hfed.in_time hsince)).imp_right fun hs => ?_
    exact ⟨hs.attends, hsince.step hs⟩

def drip : ℕ → Tick :=
  script 1000 [[], [.logData 1 90 1 [1]], [.logData 1 90 1 [1]], [], [.logData 1 0 90 (List.replicate 90 0)]]

lemma fed_drip : Fed {} 1 twoChunkLog drip := by
  refine ⟨script_link (by decide) (by decide) (by decide) (by decide +kernel), fun i hmissing => ?_⟩
  have hi : i < 4 := by
    by_contra hle
    refine hmissing (List.Subset.trans ?_ (heard_subset drip 1 (by omega : 5 ≤ i + 1)))
    decide +kernel
  interval_cases i
  · exact ⟨1, by decide, by decide, by decide +kernel⟩
  · exact ⟨4, by decide, by decide, by decide +kernel⟩
  · exact ⟨4, by decide, by decide, by decide +kernel⟩
  · exact ⟨4, by decide, by decide, by decide +kernel⟩

theorem fed_session_stores_the_log_drip :
    ∃ n r s, (∀ more, run {} ⟨1, 0, 91, 90, true⟩ {} {} (slice drip 0 n ++ more) = some (r, s, more)) ∧
      r.success = true ∧ s.transfer.file.content = twoChunkLog :=
  fed_session_stores_the_log {} (by decide) twoChunkLog (by decide) (by decide) ⟨1, 0, 91, 90, true⟩
    ⟨rfl, rfl, by decide⟩ rfl {} rfl {} ⟨rfl, fun _ => rfl⟩ rfl drip fed_drip

end MavlinkLogService.Session
