import MavlinkLogService.Session.OrderedSession

/-! When a session succeeds: exactly if it took every chunk of the log from the queue, in whatever order and
however often. -/

namespace MavlinkLogService.Session

open StreamDownload

section

variable {p : Params} {id : UInt16} {L : List UInt8} {chunks : List LogDataChunk}

lemma completes_iff (hofs : p.byteOffset = 0) (hn : p.byteCount = L.length) (hL : L.length < 2 ^ 31)
    (h₀ : p.byteCount ≠ 0) (h : chunks ⊆ logChunks id L) : Completes p chunks ↔ logChunks id L ⊆ chunks := by
  constructor
  · intro hc c hmem
    obtain ⟨k, hk, rfl⟩ := mem_logChunks.mp hmem
    obtain ⟨c', hc', hm⟩ := hc.slots.2 k (by rw [slots_logChunks hL hn.le h₀, hn]; exact hk)
    obtain ⟨k', hk', rfl⟩ := mem_logChunks.mp (h hc')
    have hofs := hm.2
    rw [logChunk_offset id hL hk', logChunkSize] at hofs
    obtain rfl : k' = k := by omega
    exact hc'
  · intro hall
    refine completes_of_slots hofs hn.le hL h₀ h fun k hk => ?_
    exact hall (mem_logChunks.mpr ⟨k, by omega, rfl⟩)

lemma WholeLog.nonempty (hp : WholeLog L p) (h₀ : L ≠ []) : p.byteCount ≠ 0 :=
  fun h => h₀ (List.eq_nil_of_length_eq_zero (hp.count ▸ h))

end

theorem session_succeeds_iff_delivered (settings : DownloadSettings) (L : List UInt8) (h₀ : L ≠ [])
    (hL : L.length < 2 ^ 31) (p : Params) (hp : WholeLog L p) (inbox : Inbox) (file : OutputFile) (ticks : List Tick)
    (hchunks : received settings p (start p inbox file) ticks ⊆ logChunks p.logId L) :
    (∃ r s rest, run settings p inbox file ticks = some (r, s, rest) ∧ r.success = true) ↔
      logChunks p.logId L ⊆ received settings p (start p inbox file) ticks := by
  have hne := hp.nonempty h₀
  rw [← completes_iff hp.offset hp.count hL hne hchunks]
  exact (run_endsWell_iff hne inbox file ticks).trans (and_iff_left (logChunks_agree hL hchunks _))

theorem session_succeeds_iff_delivered_swapped :
    ∃ r s rest, run {} ⟨1, 0, 91, 90, true⟩ {} {} swappedTicks = some (r, s, rest) ∧ r.success = true :=
  (session_succeeds_iff_delivered {} twoChunkLog (by decide) (by decide) ⟨1, 0, 91, 90, true⟩
    ⟨rfl, rfl, by decide⟩ {} {}
    swappedTicks (by decide +kernel)).mpr (by decide +kernel)

end MavlinkLogService.Session
