import MavlinkLogService.Archive.CancelledCycle
import MavlinkLogService.Service.DroneLogService
import MavlinkLogService.Storage.Finalization

/-! What the service makes of a cycle that was cancelled. -/

namespace MavlinkLogService.Service

open Archive Library Session Storage

lemma evaluateArchiveOutcome_faulty {settings : DownloadSettings} {failures : ℤ} {result : ArchiveCycleResult}
    (connectOk : Bool) (hf : result.failed ≠ 0) :
    evaluateArchiveOutcome settings failures result connectOk =
      if doReconnect settings (failures + 1) result then (if connectOk then 0 else failures + 1, [.reconnect])
      else (failures + 1, []) := by
  rw [evaluateArchiveOutcome, if_neg fun h => hf h.2, if_neg fun h => hf h.2]

lemma evaluateArchiveOutcome_harmless {settings : DownloadSettings} {failures : ℤ} {result : ArchiveCycleResult}
    (connectOk : Bool) (hf : result.failed = 0) (ha : result.allArchived = false → 0 < result.cancelled) :
    evaluateArchiveOutcome settings failures result connectOk = (if 0 < result.cancelled then failures else 0, []) := by
  rw [evaluateArchiveOutcome]
  by_cases hc : 0 < result.cancelled
  · rw [if_pos ⟨hc, hf⟩, if_pos hc]
  · have hall : result.allArchived = true := by
      by_contra h
      exact hc (ha (Bool.eq_false_iff.mpr h))
    rw [if_neg fun h => hc h.1, if_pos ⟨hall, hf⟩, if_neg hc]

open LogDownloader in
theorem cancellation_not_failure_iff (settings : Settings) (logs : List LogEntry) (d d' e : LogDownloader)
    (ticks rest rest' : List Tick) (result uninterrupted : ArchiveCycleResult) (hticks : ∀ tick ∈ ticks, Fair {} tick)
    (hrun : (archiveAll settings logs).run d ticks = some (result, d', rest))
    (hcalm : (archiveAll settings logs).run d.calm (ticks.map Tick.calm) = some (uninterrupted, e, rest'))
    (hgood : uninterrupted.failed = 0) :
    (result.failed = 0 ∧ d'.database.getStat .archiveFailures = d.database.getStat .archiveFailures ∧
        ∀ failures connectOk, evaluateArchiveOutcome settings.download failures result connectOk =
          (if 0 < result.cancelled then failures else 0, [])) ↔
      true ∉ rereadPolls settings logs d ticks := by
  rw [← archiveAll_failed_iff hrun hcalm hgood]
  refine ⟨fun h => h.1, fun hfailed => ?_⟩
  obtain ⟨hstat, hall⟩ := archiveAll_unfailed hticks hrun hfailed
  exact ⟨hfailed, hstat, fun _ connectOk => evaluateArchiveOutcome_harmless connectOk hfailed hall⟩

def fullSettings : Settings where
  download := { verifyDataflashParse := false, verifyFcReread := "full", probeBytes := 0 }
  storage := epochSettings

def oneByteLog : LogEntry := ⟨1, 1, 1, 0, 1⟩

def oneByteTicks (n : ℕ) : List Tick :=
  let idle : Tick := {}
  let data : Tick := { messages := [.logData 1 0 1 [7]] }
  (List.replicate 6 idle ++ [data, idle, idle, data] ++ List.replicate 6 idle).mapIdx fun i tick =>
    if i = n then { tick with cancel := true, marks := [.hit] } else tick

lemma fair_of_marks {ticks : List Tick} (h : ∀ tick ∈ ticks,
    (∀ a ∈ tick.marks, a = .armed ∨ a = .disarmed ∨ a = .hit) ∧ (.hit ∈ tick.marks → tick.cancel = true)) :
    ∀ tick ∈ ticks, Fair {} tick :=
  fun tick ht => ⟨(h tick ht).1, (h tick ht).2, fun _ _ => trivial, False.elim⟩

theorem cancellation_not_failure_iff_stream :
    ∃ result d' rest, (LogDownloader.archiveAll fullSettings [oneByteLog]).run {} (oneByteTicks 6) =
        some (result, d', rest) ∧ result.cancelled = 1 ∧ result.failed = 0 ∧
      evaluateArchiveOutcome fullSettings.download 2 result true = (2, []) := by
  have hrun : ((LogDownloader.archiveAll fullSettings [oneByteLog]).run {} (oneByteTicks 6)).any
      (fun x => decide (x.1.cancelled = 1)) = true := by decide +kernel
  have hcalm : ((LogDownloader.archiveAll fullSettings [oneByteLog]).run (LogDownloader.calm {})
      ((oneByteTicks 6).map Tick.calm)).any (fun x => decide (x.1.failed = 0)) = true := by decide +kernel
  have hspared : true ∉ LogDownloader.rereadPolls fullSettings [oneByteLog] {} (oneByteTicks 6) := by decide +kernel
  obtain ⟨⟨result, d', rest⟩, hr, hcount⟩ := (Option.any_eq_true _ _).mp hrun
  obtain ⟨⟨r, e, rest'⟩, hc, hgood⟩ := (Option.any_eq_true _ _).mp hcalm
  have hcancelled : result.cancelled = 1 := of_decide_eq_true hcount
  have h := (cancellation_not_failure_iff fullSettings [oneByteLog] {} d' e (oneByteTicks 6) rest rest' result r
    (fair_of_marks (by decide)) hr hc (of_decide_eq_true hgood)).mpr hspared
  refine ⟨result, d', rest, hr, hcancelled, h.1, ?_⟩
  rw [h.2.2 2 true, hcancelled]
  rfl

theorem cancelled_reread_fails :
    ((LogDownloader.archiveAll fullSettings [oneByteLog]).run (LogDownloader.calm {})
      ((oneByteTicks 8).map Tick.calm)).any (fun x => decide (x.1.failed = 0 ∧ x.1.downloaded = 1)) = true ∧
    LogDownloader.rereadPolls fullSettings [oneByteLog] {} (oneByteTicks 8) = [true] ∧
    ((LogDownloader.archiveAll fullSettings [oneByteLog]).run {} (oneByteTicks 8)).any (fun x => decide
      (x.1.failed = 1 ∧ x.2.1.database.getStat .archiveFailures = 1 ∧
        evaluateArchiveOutcome fullSettings.download 2 x.1 false = (3, [.reconnect]))) = true := by
  refine ⟨?_, ?_, ?_⟩
  · decide +kernel
  · decide +kernel
  · decide +kernel

end MavlinkLogService.Service
