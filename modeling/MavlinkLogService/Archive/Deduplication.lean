import MavlinkLogService.Archive.Archiving
import MavlinkLogService.Library.Runs

/-! The catalog and the probe: what a row says about the log it was made from, and what a log that is
skipped as a duplicate shares with that log. -/

namespace MavlinkLogService.Archive.LogDownloader

open Library Session Storage

structure Describes (row : ArchivedLog) (L : List UInt8) : Prop where
  size : row.fcLogSize.toNat = L.length
  probe : ∃ n < 2 ^ 32, row.probeSha256 = Sha256.hashHex (L.take n) ∧ (L ≠ [] → row.probeBytes = toInt32 n)

section

variable {H : Promise} {settings : Settings} {entry : LogEntry} {L : List UInt8}

lemma probeN_probeParams : probeN (probeParams settings entry) = (probeParams settings entry).byteCount := by
  have hlt : (probeParams settings entry).byteCount < 2 ^ 32 := probeCount_lt _ _
  have hp : (probeParams settings entry).probeBytes = toInt32 (probeParams settings entry).byteCount := rfl
  rw [probeN, probeCount, hp, min_self, ofInt32_toInt32 hlt]

lemma Stores.describes {final : Path} {row : ArchivedLog} {r : StreamDownloadResult} {d d' : LogDownloader}
    (h : Stores H settings entry final row r d d') (hL : L.length = entry.size.toNat)
    (hH : ∀ m, H.message m → m.SliceOf L entry.id)
    (hin : ∀ processed, Recorded (.session (downloadParams settings entry) processed) d d' →
      ProbeInOrder L (downloadParams settings entry) processed) : Describes row L := by
  obtain ⟨file, processed, _, hrec, hfetched⟩ := h.placed.placed
  obtain ⟨_, hhash, hbytes⟩ := hfetched L hL hH
  have hprobe := hhash (hin processed hrec)
  refine ⟨by rw [h.size, hL], probeN (downloadParams settings entry), probeCount_lt _ _, ?_, ?_⟩
  · rw [h.probe.1, hprobe, ← List.take_take, List.take_length]
  · intro hne
    rw [h.probe.2, hbytes]
    rw [← hL]
    exact fun hz => hne (List.length_eq_zero_iff.mp hz)

lemma Recognised.same_probe {row : ArchivedLog} {processed : List LogDataChunk} {r : StreamDownloadResult}
    {d d' : LogDownloader} (h : Recognised H settings entry d d' row processed r)
    (hL : L.length = entry.size.toNat) (hH : ∀ m, H.message m → m.SliceOf L entry.id)
    (hin : ∀ processed, Recorded (.session (probeParams settings entry) processed) d d' →
      ProbeInOrder L (probeParams settings entry) processed) {L' : List UInt8} (hd : Describes row L') :
    Sha256.hashHex (L'.take (probeParams settings entry).byteCount) =
      Sha256.hashHex (L.take (probeParams settings entry).byteCount) := by
  have hsize : L'.length = L.length := by
    rw [← hd.size, h.size, hL]
  obtain ⟨file', htrust⟩ := h.trusted
  have hlt : L.length < 2 ^ 32 := by
    rw [hL]
    exact entry.size.toNat_lt
  have hp := (htrust L hlt hH).probe (hin processed h.session)
  rw [probeN_probeParams, min_self, h.sha256] at hp
  obtain ⟨n, hn, hsha, hbytes⟩ := hd.probe
  by_cases hne : L' = []
  · subst hne
    obtain rfl : L = [] := List.length_eq_zero_iff.mp hsize.symm
    rfl
  · have hsame : n = (probeParams settings entry).byteCount := by
      have hcast : toInt32 n = toInt32 (probeParams settings entry).byteCount := by
        rw [← hbytes hne, ← h.bytes]
        rfl
      rw [← ofInt32_toInt32 hn, hcast]
      exact ofInt32_toInt32 (probeCount_lt _ _)
    rw [← hsame, ← hsha, hp, hsame]

end

structure Offer where
  settings : Settings
  entry : LogEntry
  content : List UInt8
  ticks : List Tick
  size : content.length = entry.size.toNat
  honest : ∀ tick ∈ ticks, ∀ m ∈ tick.messages, m.SliceOf content entry.id
  silent : ∀ tick ∈ ticks, tick.marks = []

namespace Offer

def promise (o : Offer) : Promise := { message := fun m => m.SliceOf o.content o.entry.id }

lemma fair (o : Offer) : ∀ tick ∈ o.ticks, Fair o.promise tick := by
  intro tick ht
  have hmarks := o.silent tick ht
  refine ⟨?_, ?_, o.honest tick ht, fun h => h.elim⟩
  · simp [hmarks]
  · simp [hmarks]

def archive (d : LogDownloader) (o : Offer) : Option (ArchiveResult × LogDownloader) :=
  ((archiveOne o.settings o.entry).run d o.ticks).map fun x => (x.1, x.2.1)

def step (d : LogDownloader) (o : Offer) : Option LogDownloader := (o.archive d).map (·.2)

lemma archive_outcome {o : Offer} {d d' : LogDownloader} {res : ArchiveResult}
    (h : o.archive d = some (res, d')) : Outcome o.promise o.settings o.entry d d' res := by
  obtain ⟨⟨res', d'', rest⟩, hr, heq⟩ := Option.map_eq_some_iff.mp h
  obtain ⟨rfl, rfl⟩ : res' = res ∧ d'' = d' := by simpa using heq
  exact (archiveOne_returns d d o.ticks res' d'' rest rfl o.fair hr).1

def InOrder (o : Offer) (d d' : LogDownloader) : Prop :=
  ∀ p processed, Recorded (.session p processed) d d' → arrival p processed <+: o.content.take p.byteCount

lemma InOrder.probe {o : Offer} {d d' : LogDownloader} (h : o.InOrder d d') {p : Params}
    {processed : List LogDataChunk} (hrec : Recorded (.session p processed) d d') :
    ProbeInOrder o.content p processed := by
  refine .of_arrival ?_ (h p processed hrec)
  rw [o.size]
  exact o.entry.size.toNat_lt

def arrivesInOrder (o : Offer) : Action → Bool
  | .session p processed => decide (arrival p processed <+: o.content.take p.byteCount)
  | _ => true

lemma inOrder_of_all {o : Offer} {d d' : LogDownloader}
    (h : (d'.trace.drop d.trace.length).all o.arrivesInOrder = true) : o.InOrder d d' := by
  rintro p processed ⟨ext, hext, hmem⟩
  rw [hext, List.drop_left, List.all_eq_true] at h
  exact of_decide_eq_true (h _ hmem)

structure Creates (t : Transition LogDownloader Offer) (row : ArchivedLog) : Prop where
  result : t.event.archive t.pre = some (.downloaded, t.post)
  inserted : t.post.database.archivedLogs.getLast? = some row
  id : t.event.entry.id = row.fcLogId
  describes : Describes row t.event.content

end Offer

lemma catalog_created {d₀ d : LogDownloader} {ts : List (Transition LogDownloader Offer)}
    (h₀ : d₀.database.archivedLogs = []) (hrun : Run Offer.step d₀ ts d)
    (hin : ∀ t ∈ ts, t.event.InOrder t.pre t.post) :
    ∀ row ∈ d.database.archivedLogs, ∃ t ∈ ts, Offer.Creates t row := by
  induction hrun with
  | nil => simp [h₀]
  | @snoc ts d o d' _ hstep ih =>
    obtain ⟨⟨res, d''⟩, harch, heq⟩ := Option.map_eq_some_iff.mp hstep
    obtain rfl : d'' = d' := heq
    have hold : ∀ row ∈ d.database.archivedLogs, ∃ t ∈ ts ++ [⟨d, o, d''⟩], Offer.Creates t row := by
      intro row hrow
      obtain ⟨t, ht, hc⟩ := ih (fun t ht => hin t (List.mem_append_left _ ht)) row hrow
      exact ⟨t, List.mem_append_left _ ht, hc⟩
    have hout := Offer.archive_outcome harch
    have hnow := hin ⟨d, o, d''⟩ (by simp)
    cases res with
    | downloaded =>
      obtain ⟨final, row, r, hs⟩ := hout
      intro row' hrow'
      rw [hs.rows] at hrow'
      rcases List.mem_append.mp hrow' with hrow' | hrow'
      · exact hold row' (List.mem_filter.mp hrow').1
      · obtain rfl := List.mem_singleton.mp hrow'
        refine ⟨⟨d, o, d''⟩, by simp, harch, by simp [hs.rows], hs.id.symm, ?_⟩
        exact hs.describes o.size (fun m hm => hm) fun processed hrec => hnow.probe hrec
    | skippedDuplicate =>
      rw [hout.1.rows]
      exact hold
    | cancelled =>
      rw [Tentative.rows hout]
      exact hold
    | failed =>
      rw [Tentative.rows hout]
      exact hold

theorem skipped_log_shares_probe (d₀ d : LogDownloader) (h₀ : d₀.database.archivedLogs = [])
    (ts : List (Transition LogDownloader Offer)) (hrun : Run Offer.step d₀ ts d)
    (hin : ∀ t ∈ ts, t.event.InOrder t.pre t.post) (o : Offer) (d' : LogDownloader)
    (hskip : o.archive d = some (.skippedDuplicate, d')) (hlast : o.InOrder d d') :
    ∃ row ∈ d.database.archivedLogs, row.fcLogId = o.entry.id ∧ row.fcLogSize = o.entry.size ∧
      ∃ t ∈ ts, Offer.Creates t row ∧ t.event.content.length = o.content.length ∧
        Sha256.hashHex (t.event.content.take (probeCount o.settings.download.probeBytes o.content.length)) =
          Sha256.hashHex (o.content.take (probeCount o.settings.download.probeBytes o.content.length)) := by
  obtain ⟨_, row, processed, r, hrec⟩ := Offer.archive_outcome hskip
  obtain ⟨t, ht, hc⟩ := catalog_created h₀ hrun hin row hrec.mem
  refine ⟨row, hrec.mem, hrec.id, hrec.size, t, ht, hc, ?_, ?_⟩
  · rw [← hc.describes.size, hrec.size, o.size]
  · rw [o.size]
    exact hrec.same_probe o.size (fun m hm => hm) (fun processed h => hlast.probe h) hc.describes

def pairTicks (a b : UInt8) : List Tick :=
  let idle : Tick := {}
  List.replicate 4 idle ++ { messages := [.logData 1 0 2 [a, b]] } :: List.replicate 12 idle

def offerPair (a b : UInt8) : Offer where
  settings :=
    { download := { probeBytes := 1, verifyDataflashParse := false, verifyFcReread := "none" }
      storage := epochSettings }
  entry := ⟨1, 1, 1, 0, 2⟩
  content := [a, b]
  ticks := pairTicks a b
  size := rfl
  honest := by
    simp [pairTicks, LogMessage.SliceOf]
  silent := by
    simp [pairTicks]

theorem skipped_log_shares_probe_pair :
    ∃ d₁ d₂, Offer.step {} (offerPair 7 1) = some d₁ ∧
      (offerPair 7 1).archive d₁ = some (.skippedDuplicate, d₂) ∧
      ∃ row ∈ d₁.database.archivedLogs, row.fcLogId = 1 ∧ row.fcLogSize = 2 ∧
        Offer.Creates ⟨{}, offerPair 7 1, d₁⟩ row := by
  have h : (Offer.step {} (offerPair 7 1)).any (fun d₁ => ((offerPair 7 1).archive d₁).any fun x =>
      decide (x.1 = .skippedDuplicate ∧ d₁.trace.all (offerPair 7 1).arrivesInOrder = true ∧
        (x.2.trace.drop d₁.trace.length).all (offerPair 7 1).arrivesInOrder = true)) = true := by
    decide +kernel
  obtain ⟨d₁, h₁, h⟩ := (Option.any_eq_true _ _).mp h
  obtain ⟨⟨res, d₂⟩, h₂, h⟩ := (Option.any_eq_true _ _).mp h
  obtain ⟨rfl, hin₁, hin₂⟩ := of_decide_eq_true h
  have hrun : Run Offer.step {} [⟨{}, offerPair 7 1, d₁⟩] d₁ := Run.nil.snoc h₁
  obtain ⟨row, hrow, hid, hsize, t, ht, hc, _⟩ := skipped_log_shares_probe {} d₁ rfl _ hrun
    (by simpa using Offer.inOrder_of_all (by simpa using hin₁)) (offerPair 7 1) d₂ h₂ (Offer.inOrder_of_all hin₂)
  obtain rfl := List.mem_singleton.mp ht
  exact ⟨d₁, d₂, h₁, h₂, row, hrow, hid, hsize, hc⟩

theorem different_log_skipped :
    ∃ d₁ d₂, Run Offer.step {} [⟨{}, offerPair 7 1, d₁⟩] d₁ ∧
      (offerPair 7 2).archive d₁ = some (.skippedDuplicate, d₂) ∧
      (offerPair 7 1).content ≠ (offerPair 7 2).content := by
  have h : (Offer.step {} (offerPair 7 1)).any (fun d₁ => ((offerPair 7 2).archive d₁).any fun x =>
      decide (x.1 = .skippedDuplicate)) = true := by
    decide +kernel
  obtain ⟨d₁, h₁, h⟩ := (Option.any_eq_true _ _).mp h
  obtain ⟨⟨res, d₂⟩, h₂, h⟩ := (Option.any_eq_true _ _).mp h
  obtain rfl := of_decide_eq_true h
  exact ⟨d₁, d₂, Run.nil.snoc h₁, h₂, by decide⟩

end MavlinkLogService.Archive.LogDownloader
