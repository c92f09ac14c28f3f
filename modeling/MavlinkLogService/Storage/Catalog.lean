import MavlinkLogService.Storage.Database

/-! Which archived logs a lookup by id and size still recognises after a history of insertions. -/

namespace MavlinkLogService.Storage

def insertAll (rows : List ArchivedLog) : Database := rows.foldl Database.insertArchivedLog {}

def Lasting (rows : List ArchivedLog) (row : ArchivedLog) : Prop :=
  ∃ earlier later, rows = earlier ++ row :: later ∧ ∀ r ∈ later, r.sha256 ≠ row.sha256

def SameKey (r row : ArchivedLog) : Prop := r.fcLogId = row.fcLogId ∧ r.fcLogSize = row.fcLogSize

def SameProbe (r row : ArchivedLog) : Prop := r.probeSha256 = row.probeSha256 ∧ r.probeBytes = row.probeBytes

def Recognised (db : Database) (row : ArchivedLog) : Prop :=
  ∀ pick, ∃ r, db.findCandidate row.fcLogId row.fcLogSize pick = some r ∧ SameProbe r row

lemma lasting_snoc (rows : List ArchivedLog) (last row : ArchivedLog) :
    Lasting (rows ++ [last]) row ↔ (Lasting rows row ∧ row.sha256 ≠ last.sha256) ∨ row = last := by
  constructor
  · rintro ⟨earlier, later, heq, hlater⟩
    rcases List.eq_nil_or_concat later with rfl | ⟨later', last', rfl⟩
    · right
      exact (List.cons.inj (List.append_inj_right' heq rfl)).1.symm
    · left
      rw [List.concat_eq_append] at heq hlater
      rw [← List.cons_append, ← List.append_assoc] at heq
      obtain ⟨rfl, hlast⟩ := List.append_inj' heq rfl
      obtain rfl := (List.cons.inj hlast).1
      refine ⟨⟨earlier, later', rfl, fun r hr => hlater r (List.mem_append_left _ hr)⟩, ?_⟩
      exact (hlater last (by simp)).symm
  · rintro (⟨⟨earlier, later, rfl, hlater⟩, hne⟩ | rfl)
    · refine ⟨earlier, later ++ [last], by simp, ?_⟩
      intro r hr
      rcases List.mem_append.mp hr with hr | hr
      · exact hlater r hr
      · obtain rfl := List.mem_singleton.mp hr
        exact hne.symm
    · exact ⟨rows, [], rfl, by simp⟩

lemma mem_insertAll {rows : List ArchivedLog} {row : ArchivedLog} :
    row ∈ (insertAll rows).archivedLogs ↔ Lasting rows row := by
  induction rows using List.reverseRecOn with
  | nil => simp [insertAll, Lasting]
  | append_singleton rows last ih =>
    have hinsert : (insertAll (rows ++ [last])).archivedLogs =
        (insertAll rows).archivedLogs.filter (fun r => r.sha256 != last.sha256) ++ [last] := by
      rw [insertAll, List.foldl_append]
      rfl
    rw [hinsert, lasting_snoc, List.mem_append, List.mem_filter, ih, List.mem_singleton, bne_iff_ne]

lemma mem_candidates {db : Database} {row r : ArchivedLog} :
    r ∈ db.candidates row.fcLogId row.fcLogSize ↔ r ∈ db.archivedLogs ∧ SameKey r row := by
  rw [Database.candidates, List.mem_filter, Bool.and_eq_true, beq_iff_eq, beq_iff_eq, SameKey]

lemma recognised_iff {db : Database} {row : ArchivedLog} :
    Recognised db row ↔ (∃ r ∈ db.archivedLogs, SameKey r row) ∧
      ∀ r ∈ db.archivedLogs, SameKey r row → SameProbe r row := by
  constructor
  · intro h
    refine ⟨?_, ?_⟩
    · obtain ⟨r, hr, _⟩ := h 0
      exact ⟨r, mem_candidates.mp (List.mem_of_getElem? hr)⟩
    · intro r hr hkey
      obtain ⟨i, hi⟩ := List.mem_iff_getElem?.mp (mem_candidates.mpr ⟨hr, hkey⟩)
      have hlt := (List.getElem?_eq_some_iff.mp hi).1
      obtain ⟨r', hr', hprobe⟩ := h i
      rw [Database.findCandidate, Nat.mod_eq_of_lt hlt, hi] at hr'
      obtain rfl := Option.some.inj hr'
      exact hprobe
  · rintro ⟨⟨r₀, hr₀⟩, hall⟩ pick
    have hpos := List.length_pos_of_mem (mem_candidates.mpr hr₀)
    have hlt := Nat.mod_lt pick hpos
    refine ⟨_, List.getElem?_eq_getElem hlt, ?_⟩
    obtain ⟨hmem, hkey⟩ := mem_candidates.mp (List.getElem_mem hlt)
    exact hall _ hmem hkey

theorem archived_recognised_iff (rows : List ArchivedLog) (row : ArchivedLog) :
    Recognised (insertAll rows) row ↔
      (∃ r, Lasting rows r ∧ SameKey r row) ∧ ∀ r, Lasting rows r → SameKey r row → SameProbe r row := by
  rw [recognised_iff]
  simp only [mem_insertAll]

def firstFlight : ArchivedLog where
  sha256 := "aa"
  fcLogId := 1
  fcLogSize := 100
  fcLogTimeUtc := 0
  probeSha256 := "a"
  probeBytes := 10
  archiveTime := 0
  archiveDurationMs := 0
  filename := ⟨["logs", "day"], "first", ".bin"⟩

def secondFlight : ArchivedLog :=
  { firstFlight with sha256 := "bb", probeSha256 := "b", filename := ⟨["logs", "day"], "second", ".bin"⟩ }

def firstFlightAgain : ArchivedLog := { firstFlight with fcLogId := 2 }

theorem archived_logs_forgotten :
    ((insertAll [firstFlight, secondFlight]).findCandidate 1 100 1 = some secondFlight ∧
      ¬ Recognised (insertAll [firstFlight, secondFlight]) firstFlight) ∧
    (insertAll [firstFlight, firstFlightAgain]).findCandidate 1 100 0 = none ∧
      ¬ Recognised (insertAll [firstFlight, firstFlightAgain]) firstFlight := by
  have hother : (insertAll [firstFlight, secondFlight]).findCandidate 1 100 1 = some secondFlight := by decide
  have hgone : (insertAll [firstFlight, firstFlightAgain]).findCandidate 1 100 0 = none := by decide
  refine ⟨⟨hother, fun h => ?_⟩, hgone, fun h => ?_⟩
  · obtain ⟨r, hr, hprobe⟩ := h 1
    obtain rfl := Option.some.inj (hother.symm.trans hr)
    exact absurd hprobe.1 (by decide)
  · obtain ⟨r, hr, _⟩ := h 0
    cases hgone.symm.trans hr

end MavlinkLogService.Storage
