import MavlinkLogService.Archive.Cycle
import MavlinkLogService.Archive.Deduplication

/-! Where the archives come from: every row of the catalog leads to a log of the flight controller, and the
archive it names, as long as it exists, holds that log. -/

namespace MavlinkLogService.Archive.LogDownloader

open Library Session Storage

def archivedPath? : Action → Option Path
  | .archived path => some path
  | _ => none

def archivedPaths (l : List Action) : List Path := l.filterMap archivedPath?

@[simp] lemma archivedPaths_append (l l' : List Action) :
    archivedPaths (l ++ l') = archivedPaths l ++ archivedPaths l' :=
  List.filterMap_append

lemma mem_archivedPaths {l : List Action} {path : Path} (h : .archived path ∈ l) : path ∈ archivedPaths l :=
  List.mem_filterMap.mpr ⟨_, h, rfl⟩

structure Keeps (d d' : LogDownloader) : Prop where
  paths : archivedPaths d.trace ⊆ archivedPaths d'.trace
  archives : ∀ q ∈ archivedPaths d.trace, q.isArchive = true →
    d'.storage.files.lookup q = d.storage.files.lookup q

lemma Keeps.trans {d d' d'' : LogDownloader} (h : Keeps d d') (h' : Keeps d' d'') : Keeps d d'' :=
  ⟨fun _ hq => h'.paths (h.paths hq),
    fun q hq ha => (h'.archives q (h.paths hq) ha).trans (h.archives q hq ha)⟩

/-- The archives of `Known` logs: `Known id L` if the flight controller has had the log `L` under this id. The probe
of a row is right if a log of its id and size is `Asked` for, which is when it will be compared with another. -/
structure Provenance (Known : UInt16 → List UInt8 → Prop) (Asked : UInt16 → ℕ → Prop) (d : LogDownloader) :
    Prop where
  rows : ∀ row ∈ d.database.archivedLogs, row.filename ∈ archivedPaths d.trace ∧ row.filename.isArchive = true ∧
    ∃ L, Known row.fcLogId L ∧ (Asked row.fcLogId row.fcLogSize.toNat → Describes row L) ∧
      ∀ file, d.storage.files.lookup row.filename = some file → file.bytes = L

def Kept (d : LogDownloader) (entry : LogEntry) : Prop :=
  ∀ row ∈ d.database.archivedLogs, row.fcLogId = entry.id → row.fcLogSize = entry.size →
    ∃ file, d.storage.files.lookup row.filename = some file

def Backed (d : LogDownloader) (L : List UInt8) : Prop :=
  ∃ q ∈ archivedPaths d.trace, q.isArchive = true ∧ ∃ file, d.storage.files.lookup q = some file ∧ file.bytes = L

lemma Backed.keeps {d d' : LogDownloader} {L : List UInt8} (h : Backed d L) (hk : Keeps d d') : Backed d' L := by
  obtain ⟨q, hq, ha, file, hl, hL⟩ := h
  exact ⟨q, hk.paths hq, ha, file, by rw [hk.archives q hq ha]; exact hl, hL⟩

variable {Known : UInt16 → List UInt8 → Prop} {Asked Asked' : UInt16 → ℕ → Prop}

lemma Provenance.mono {d : LogDownloader} (h : Provenance Known Asked d) (hs : ∀ id n, Asked' id n → Asked id n) :
    Provenance Known Asked' d := by
  refine ⟨fun row hrow => ?_⟩
  obtain ⟨hp, ha, L, hL, hd, hfile⟩ := h.rows row hrow
  exact ⟨hp, ha, L, hL, fun hask => hd (hs _ _ hask), hfile⟩

lemma Provenance.keeps {d d' : LogDownloader} (h : Provenance Known Asked d) (hk : Keeps d d')
    (hr : d'.database.archivedLogs = d.database.archivedLogs) : Provenance Known Asked d' := by
  refine ⟨fun row hrow => ?_⟩
  rw [hr] at hrow
  obtain ⟨hp, ha, L, hL, hd, hfile⟩ := h.rows row hrow
  refine ⟨hk.paths hp, ha, L, hL, hd, ?_⟩
  rw [hk.archives _ hp ha]
  exact hfile

lemma Kept.keeps {d d' : LogDownloader} {entry : LogEntry} (h : Kept d entry) (hp : Provenance Known Asked d)
    (hk : Keeps d d') (hr : d'.database.archivedLogs = d.database.archivedLogs) : Kept d' entry := by
  intro row hrow hid hsize
  rw [hr] at hrow
  obtain ⟨hpath, ha, _⟩ := hp.rows row hrow
  rw [hk.archives _ hpath ha]
  exact h row hrow hid hsize

section

variable {H : Promise} {settings : Settings} {entry : LogEntry} {L : UInt16 → List UInt8} {d d' : LogDownloader}

lemma Tentative.keeps {id : UInt16} (h : Tentative H id d d') : Keeps d d' := by
  obtain ⟨ext, ht, hext, _⟩ := h.later.trace
  refine ⟨?_, fun q _ ha => h.archives q ha⟩
  rw [ht, archivedPaths_append]
  exact List.subset_append_left _ _

lemma Quiet.keeps {ids : UInt16 → Prop} (h : Quiet H ids d d') : Keeps d d' := by
  obtain ⟨ext, ht, hext, _⟩ := h.later.trace
  refine ⟨?_, fun q _ _ => by rw [h.storage]⟩
  rw [ht, archivedPaths_append]
  exact List.subset_append_left _ _

lemma noted_keeps (a : Action) (d : LogDownloader) : Keeps d (noted a d) := by
  refine ⟨?_, fun _ _ _ => rfl⟩
  rw [noted, archivedPaths_append]
  exact List.subset_append_left _ _

lemma Stores.fresh {final : Path} {row : ArchivedLog} {r : StreamDownloadResult}
    (h : Stores H settings entry final row r d d') (hn : (archivedPaths d'.trace).Nodup) :
    final ∉ archivedPaths d.trace := by
  obtain ⟨ext, ht, ha⟩ := h.archived
  rw [ht, archivedPaths_append] at hn
  exact fun hf => List.disjoint_of_nodup_append hn hf (mem_archivedPaths ha)

lemma Stores.keeps {final : Path} {row : ArchivedLog} {r : StreamDownloadResult}
    (h : Stores H settings entry final row r d d') (hn : (archivedPaths d'.trace).Nodup) : Keeps d d' := by
  have hfresh := h.fresh hn
  obtain ⟨ext, ht, _⟩ := h.archived
  refine ⟨?_, fun q hq ha => h.placed.others q ha ?_⟩
  · rw [ht, archivedPaths_append]
    exact List.subset_append_left _ _
  · rintro rfl
    exact hfresh hq

structure Aboard (H : Promise) (settings : Settings) (Known : UInt16 → List UInt8 → Prop)
    (L : UInt16 → List UInt8) : Prop where
  disk : H.disk
  slice : ∀ m, H.message m → ∀ id, m.SliceOf (L id) id
  known : ∀ id, Known id (L id)
  same : ∀ entry : LogEntry, (L entry.id).length = entry.size.toNat → ∀ L', Known entry.id L' →
    L'.length = (L entry.id).length →
    Sha256.hashHex (L'.take (probeParams settings entry).byteCount) =
      Sha256.hashHex ((L entry.id).take (probeParams settings entry).byteCount) → L' = L entry.id

def Ordered (Asked : UInt16 → ℕ → Prop) (L : UInt16 → List UInt8) (d d' : LogDownloader) : Prop :=
  ∀ p processed, Recorded (.session p processed) d d' → (p.writeFile = true → Asked p.logId p.byteCount) →
    ProbeInOrder (L p.logId) p processed

lemma Stores.holds {final : Path} {row : ArchivedLog} {r : StreamDownloadResult} (hA : Aboard H settings Known L)
    (h : Stores H settings entry final row r d d') (hsize : (L entry.id).length = entry.size.toNat)
    (ho : Ordered Asked L d d') :
    (Asked entry.id entry.size.toNat → Describes row (L entry.id)) ∧
      ∃ file, d'.storage.files.lookup final = some file ∧ file.bytes = L entry.id := by
  refine ⟨fun hask => ?_, ?_⟩
  · exact h.describes hsize (fun m hm => hA.slice m hm entry.id) fun processed hrec => ho _ processed hrec fun _ => hask
  · obtain ⟨file, processed, hl, _, hf⟩ := h.placed.placed
    exact ⟨file, hl, (hf _ hsize fun m hm => hA.slice m hm entry.id).1 hA.disk⟩

structure Preserves (Known : UInt16 → List UInt8 → Prop) (Asked : UInt16 → ℕ → Prop) (d d' : LogDownloader) :
    Prop where
  provenance : Provenance Known Asked d'
  keeps : Keeps d d'
  kept : ∀ e, Kept d e → Kept d' e

lemma Preserves.of_keeps (hp : Provenance Known Asked d) (hk : Keeps d d')
    (hr : d'.database.archivedLogs = d.database.archivedLogs) : Preserves Known Asked d d' :=
  ⟨hp.keeps hk hr, hk, fun _ he => he.keeps hp hk hr⟩

lemma Preserves.trans {d'' : LogDownloader} (h : Preserves Known Asked d d') (h' : Preserves Known Asked' d' d'') :
    Preserves Known Asked' d d'' :=
  ⟨h'.provenance, h.keeps.trans h'.keeps, fun e he => h'.kept e (h.kept e he)⟩

lemma Preserves.mono (h : Preserves Known Asked d d') (hs : ∀ id n, Asked' id n → Asked id n) :
    Preserves Known Asked' d d' :=
  ⟨h.provenance.mono hs, h.keeps, h.kept⟩

lemma Stores.preserves {final : Path} {row : ArchivedLog} {r : StreamDownloadResult} (hA : Aboard H settings Known L)
    (h : Stores H settings entry final row r d d') (hsize : (L entry.id).length = entry.size.toNat)
    (ho : Ordered Asked L d d') (hn : (archivedPaths d'.trace).Nodup) (hp : Provenance Known Asked' d) :
    Preserves Known (fun id n => Asked' id n ∧ (id = entry.id → Asked id n)) d d' := by
  have hk := h.keeps hn
  obtain ⟨hdesc, file, hfile, hbytes⟩ := h.holds hA hsize ho
  refine ⟨⟨?_⟩, hk, ?_⟩
  · intro x hx
    rw [h.rows] at hx
    rcases List.mem_append.mp hx with hx | hx
    · obtain ⟨hpath, ha, L', hL', hd, hf⟩ := hp.rows x (List.mem_filter.mp hx).1
      refine ⟨hk.paths hpath, ha, L', hL', fun hask => hd hask.1, ?_⟩
      rw [hk.archives _ hpath ha]
      exact hf
    · obtain rfl := List.mem_singleton.mp hx
      rw [h.filename, h.id, h.size]
      obtain ⟨ext, ht, hrec⟩ := h.archived
      refine ⟨?_, h.placed.archive, L entry.id, hA.known entry.id, fun hask => hdesc (hask.2 rfl), ?_⟩
      · rw [ht, archivedPaths_append]
        exact List.mem_append_right _ (mem_archivedPaths hrec)
      · intro file' hfile'
        rw [← Option.some.inj (hfile.symm.trans hfile')]
        exact hbytes
  · intro e he x hx hid hsz
    rw [h.rows] at hx
    rcases List.mem_append.mp hx with hx | hx
    · obtain ⟨hpath, ha, _⟩ := hp.rows x (List.mem_filter.mp hx).1
      rw [hk.archives _ hpath ha]
      exact he x (List.mem_filter.mp hx).1 hid hsz
    · obtain rfl := List.mem_singleton.mp hx
      rw [h.filename]
      exact ⟨file, hfile⟩

lemma Recognised.backed {row : ArchivedLog} {processed : List LogDataChunk} {r : StreamDownloadResult}
    (hA : Aboard H settings Known L) (h : Recognised H settings entry d d' row processed r)
    (hsize : (L entry.id).length = entry.size.toNat) (ho : Ordered Asked L d d') (hp : Provenance Known Asked' d)
    (hask : Asked' entry.id entry.size.toNat) (hkept : Kept d entry) : Backed d (L entry.id) := by
  obtain ⟨hpath, ha, L', hL', hdesc, hf⟩ := hp.rows row h.mem
  rw [h.id] at hL'
  have hd : Describes row L' := hdesc (by rw [h.id, h.size]; exact hask)
  have hlen : L'.length = (L entry.id).length := by rw [← hd.size, h.size, hsize]
  have hprobe := h.same_probe hsize (fun m hm => hA.slice m hm entry.id) (fun p hrec => ho _ p hrec (by rintro ⟨⟩)) hd
  obtain rfl := hA.same entry hsize L' hL' hlen hprobe
  obtain ⟨file, hfile⟩ := hkept row h.mem h.id h.size
  exact ⟨_, hpath, ha, file, hfile, hf file hfile⟩

lemma Outcome.preserves {res : ArchiveResult} (hA : Aboard H settings Known L)
    (h : Outcome H settings entry d d' res) (hsize : (L entry.id).length = entry.size.toNat)
    (ho : Ordered Asked L d d') (hn : (archivedPaths d'.trace).Nodup) (hp : Provenance Known Asked' d) :
    Preserves Known (fun id n => Asked' id n ∧ (id = entry.id → Asked id n)) d d' ∧
      (archivedResult res → Asked' entry.id entry.size.toNat → Kept d entry → Backed d' (L entry.id)) := by
  have hsame (hk : Keeps d d') (hr : d'.database.archivedLogs = d.database.archivedLogs) :
      Preserves Known (fun id n => Asked' id n ∧ (id = entry.id → Asked id n)) d d' :=
    (Preserves.of_keeps hp hk hr).mono fun _ _ hask => hask.1
  cases res with
  | downloaded =>
    obtain ⟨final, row, r, hs⟩ := h
    refine ⟨hs.preserves hA hsize ho hn hp, fun _ _ _ => ?_⟩
    obtain ⟨_, file, hfile, hbytes⟩ := hs.holds hA hsize ho
    obtain ⟨ext, ht, hrec⟩ := hs.archived
    refine ⟨final, ?_, hs.placed.archive, file, hfile, hbytes⟩
    rw [ht, archivedPaths_append]
    exact List.mem_append_right _ (mem_archivedPaths hrec)
  | skippedDuplicate =>
    obtain ⟨ht, row, processed, r, hr⟩ := h
    exact ⟨hsame ht.keeps ht.rows, fun _ hask hk => (hr.backed hA hsize ho hp hask hk).keeps ht.keeps⟩
  | cancelled => exact ⟨hsame (Tentative.keeps h) (Tentative.rows h), fun hr => by rcases hr with h | h <;> cases h⟩
  | failed => exact ⟨hsame (Tentative.keeps h) (Tentative.rows h), fun hr => by rcases hr with h | h <;> cases h⟩

lemma Later.paths {R : Action → Prop} (h : Later H R d d') (hn : (archivedPaths d'.trace).Nodup) :
    (archivedPaths d.trace).Nodup := by
  obtain ⟨ext, ht, _⟩ := h.trace
  rw [ht, archivedPaths_append] at hn
  exact hn.of_append_left

lemma Chain.preserves {done : List (LogEntry × ArchiveResult)} (hA : Aboard H settings Known L)
    (h : Chain H settings d done d') (hids : (done.map (·.1.id)).Nodup)
    (hsize : ∀ x ∈ done, (L x.1.id).length = x.1.size.toNat) (ho : Ordered Asked L d d')
    (hn : (archivedPaths d'.trace).Nodup) (hp : Provenance Known Asked' d) :
    Preserves Known (fun id n => Asked' id n ∧ Asked id n) d d' ∧
      ((∀ x ∈ done, Asked' x.1.id x.1.size.toNat ∧ Kept d x.1) →
        ∀ x ∈ done, archivedResult x.2 → Backed d' (L x.1.id)) := by
  induction h generalizing Asked' with
  | stop hq =>
    refine ⟨(Preserves.of_keeps hp hq.keeps (by rw [hq.database])).mono fun _ _ hask => hask.1, fun _ x hx => ?_⟩
    cases hx
  | @log d d₁ d₂ d' entry res done hq _ hout hrest ih =>
    rw [List.map_cons, List.nodup_cons] at hids
    have hbefore : Later H Archiving d (noted (.begin entry) d₁) :=
      (hq.later.mono fun a ha => archiving_of_routine ha).trans (noted_later trivial rfl d₁)
    have hafter : Later H Archiving d₂ d' := (noted_later trivial rfl d₂).trans hrest.archiving
    have hp₁ : Preserves Known Asked' d (noted (.begin entry) d₁) :=
      .of_keeps hp (hq.keeps.trans (noted_keeps _ d₁)) (by rw [← hq.database]; rfl)
    obtain ⟨hp₂, hback⟩ := hout.preserves hA (hsize _ List.mem_cons_self)
      (fun p processed hrec => ho p processed (Recorded.earlier hbefore (hrec.later hafter)))
      (hafter.paths hn) hp₁.provenance
    have hp₃ := Preserves.of_keeps hp₂.provenance (noted_keeps (.outcome entry res) d₂) rfl
    have hto := hp₁.trans (hp₂.trans hp₃)
    obtain ⟨hp₄, hrestback⟩ := ih hids.2 (fun x hx => hsize x (List.mem_cons_of_mem _ hx))
      (fun p processed hrec => ho p processed (Recorded.earlier (hbefore.trans (hout.archiving.trans
        (noted_later trivial rfl d₂))) hrec)) hn hp₃.provenance
    refine ⟨(hto.trans hp₄).mono fun _ _ hask => ⟨⟨hask.1, fun _ => hask.2⟩, hask.2⟩, fun hkept x hx hx' => ?_⟩
    rcases List.mem_cons.mp hx with rfl | hx
    · obtain ⟨hask, hk⟩ := hkept _ List.mem_cons_self
      exact (hback hx' hask (hp₁.kept entry hk)).keeps (hp₃.keeps.trans hp₄.keeps)
    · refine hrestback (fun y hy => ?_) x hx hx'
      -- the id of `entry` does not come again, so what is asked for the rest is still described
      obtain ⟨hask, hk⟩ := hkept y (List.mem_cons_of_mem _ hy)
      exact ⟨⟨hask, fun hid => absurd (hid ▸ List.mem_map_of_mem hy) hids.1⟩, hto.kept _ hk⟩

end

end MavlinkLogService.Archive.LogDownloader
