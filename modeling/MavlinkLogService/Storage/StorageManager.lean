import Mathlib.Data.List.AList
import Mathlib.Data.List.Sort
import MavlinkLogService.Library.Runs

/-! The storage manager: partial files under `tmp`, archives under `logs`, and the size limit. -/

namespace MavlinkLogService.Storage

structure Tm where
  year : ℕ
  month : ℕ
  day : ℕ
  hour : ℕ
  minute : ℕ
  second : ℕ
  deriving DecidableEq, Repr

/-- `localtime` is the time zone of the platform. -/
structure StorageSettings where
  maxSizeGb : ℤ := 1
  localtime : ℤ → Tm

/-- A path below the storage root, its last component split at the last dot. -/
structure Path where
  parent : List String
  stem : String
  extension : String
  deriving DecidableEq, Repr

structure File where
  bytes : List UInt8
  mtime : ℤ
  deriving DecidableEq, Repr

structure StorageManager where
  files : AList (fun _ : Path => File) := ∅
  partialCounter : ℕ := 0

def pad2 (n : ℕ) : String := if n < 10 then "0" ++ toString n else toString n

def dayDir (tm : Tm) : String := toString tm.year ++ "-" ++ pad2 tm.month ++ "-" ++ pad2 tm.day

def timestampFilename (tm : Tm) : String :=
  dayDir tm ++ "_" ++ pad2 tm.hour ++ "-" ++ pad2 tm.minute ++ "-" ++ pad2 tm.second

def floorDay (t : ℤ) : ℤ := t / 86400 * 86400

def Path.isArchive (q : Path) : Bool := q.parent.head? == some "logs" && q.extension == ".bin"

def Path.isPartial (q : Path) : Bool := q.parent == ["tmp"] && q.extension == ".partial"

structure FinalizeEnv where
  dayClock : ℤ
  nameClock : ℤ
  fsyncOk : Bool := true
  renameOk : Bool := true
  deriving DecidableEq, Repr

def finalPath (settings : StorageSettings) (env : FinalizeEnv) : Path :=
  ⟨["logs", dayDir (settings.localtime (floorDay env.dayClock))],
    timestampFilename (settings.localtime env.nameClock), ".bin"⟩

namespace StorageManager

def removeAll (paths : List Path) (files : AList (fun _ : Path => File)) : AList (fun _ : Path => File) :=
  paths.foldl (fun files q => files.erase q) files

def cleanupPartials (st : StorageManager) : StorageManager :=
  { st with files := removeAll (st.files.keys.filter Path.isPartial) st.files }

/-- A new process counts its partial files from zero again. -/
def initializeStorage (st : StorageManager) : StorageManager := { st.cleanupPartials with partialCounter := 0 }

def beginPartialFile (settings : StorageSettings) (st : StorageManager) (clock : ℤ) :
    Path × StorageManager :=
  let n := st.partialCounter + 1
  (⟨["tmp"], timestampFilename (settings.localtime clock) ++ "_part" ++ toString n ++ ".bin", ".partial"⟩,
    { st with partialCounter := n })

def write (st : StorageManager) (q : Path) (file : File) : StorageManager :=
  { st with files := st.files.insert q file }

def rename (st : StorageManager) (q target : Path) (file : File) : StorageManager :=
  { st with files := (st.files.erase q).insert target file }

def finalizePartial (settings : StorageSettings) (st : StorageManager) (q : Path) (env : FinalizeEnv) :
    Option Path × StorageManager :=
  match st.files.lookup q with
  | none => (none, st)
  | some file =>
    if !env.fsyncOk then (none, st)
    else if !env.renameOk then (none, st)
    else
      let target := finalPath settings env
      let st' := st.rename q target file
      if target ∈ st'.files then (some target, st') else (none, st')

def verified (st : StorageManager) : List (Path × File) :=
  (st.files.entries.map (fun e => (e.1, e.2))).filter (fun e => e.1.isArchive)

def totalVerifiedBytes (st : StorageManager) : ℕ := (st.verified.map (fun e => e.2.bytes.length)).sum

def maxBytes (settings : StorageSettings) : ℕ :=
  ((settings.maxSizeGb % 2 ^ 64).toNat * 2 ^ 30) % 2 ^ 64

/-- `total -= f.size`, where `total` is a `uintmax_t`. -/
def shrink (total : ℕ) (e : Path × File) : ℕ := (total + (2 ^ 64 - e.2.bytes.length % 2 ^ 64)) % 2 ^ 64

def evict (limit : ℕ) : ℕ → List (Path × File) → List Path
  | _, [] => []
  | total, e :: es => if total ≤ limit then [] else e.1 :: evict limit (shrink total e) es

/-- `listing` is the order in which the directory iterator yields the files; it also decides between
files of one modification time. -/
def enforceStorageLimit (settings : StorageSettings) (st : StorageManager) (listing : List Path) :
    StorageManager :=
  let listed := st.verified.insertionSort (fun a b => listing.idxOf a.1 ≤ listing.idxOf b.1)
  let oldest := listed.insertionSort (fun a b => a.2.mtime ≤ b.2.mtime)
  { st with files := removeAll (evict (maxBytes settings) (st.totalVerifiedBytes % 2 ^ 64) oldest) st.files }

variable {settings : StorageSettings} {st st' : StorageManager} {q target : Path} {env : FinalizeEnv}

lemma rename_lookup_target (file : File) : (st.rename q target file).files.lookup target = some file :=
  AList.lookup_insert _

lemma rename_lookup_other (file : File) {x : Path} (ht : x ≠ target) (hq : x ≠ q) :
    (st.rename q target file).files.lookup x = st.files.lookup x := by
  rw [rename, AList.lookup_insert_ne ht, AList.lookup_erase_ne hq]

lemma finalizePartial_some {r : Path} (h : st.finalizePartial settings q env = (some r, st')) :
    ∃ file, st.files.lookup q = some file ∧ r = finalPath settings env ∧ st' = st.rename q r file := by
  rw [finalizePartial] at h
  cases hl : st.files.lookup q with
  | none => simp [hl] at h
  | some file =>
    simp only [hl] at h
    split_ifs at h <;> simp only [Prod.mk.injEq, reduceCtorEq, false_and, Option.some.injEq] at h
    obtain ⟨rfl, rfl⟩ := h
    exact ⟨file, rfl, rfl, rfl⟩

lemma finalizePartial_none (h : st.finalizePartial settings q env = (none, st')) : st' = st := by
  rw [finalizePartial] at h
  cases hl : st.files.lookup q with
  | none =>
    simp only [hl, Prod.mk.injEq, true_and] at h
    exact h.symm
  | some file =>
    simp only [hl] at h
    split_ifs at h with h₁ h₂ h₃ <;> simp only [Prod.mk.injEq, reduceCtorEq, false_and, true_and] at h
    · exact h.symm
    · exact h.symm
    · exact absurd (by simp [rename]) h₃

lemma removeAll_lookup (paths : List Path) (files : AList (fun _ : Path => File)) (x : Path) :
    (removeAll paths files).lookup x = if x ∈ paths then none else files.lookup x := by
  induction paths generalizing files with
  | nil => simp [removeAll]
  | cons p paths ih =>
    have hstep : removeAll (p :: paths) files = removeAll paths (files.erase p) := rfl
    rw [hstep, ih]
    by_cases hx : x = p
    · subst hx
      simp
    · simp [hx, AList.lookup_erase_ne hx]

lemma initializeStorage_lookup {x : Path} {file : File} (h : st.initializeStorage.files.lookup x = some file) :
    st.files.lookup x = some file := by
  simp only [initializeStorage, cleanupPartials, removeAll_lookup] at h
  split_ifs at h
  exact h

lemma enforceStorageLimit_lookup (listing : List Path) {x : Path} {file : File}
    (h : (st.enforceStorageLimit settings listing).files.lookup x = some file) :
    st.files.lookup x = some file := by
  simp only [enforceStorageLimit, removeAll_lookup] at h
  split_ifs at h
  exact h

end StorageManager

end MavlinkLogService.Storage
