import MavlinkLogService.Library.Disk
import MavlinkLogService.Storage.Finalization

/-! The calls with which an archive is put on the disk, and power cuts between any two of them. -/

namespace MavlinkLogService.Storage

open Library

abbrev StorageDisk := Disk (List String) Path (List UInt8)

/-- How far the archiving of a log has come; `down` is the time between a power cut and `initializeStorage`. -/
inductive Stage
  | down
  | idle
  | writing (q : Path)
  | placed (q target : Path)
  | forced (q target : Path)
  | renamed (target : Path)
  | stored (target : Path) (synced : Bool)
  deriving DecidableEq, Repr

structure Store where
  disk : StorageDisk := { made := fun _ => ⟨false, []⟩, names := fun _ => ⟨none, []⟩, contents := fun _ => ⟨[], []⟩ }
  stage : Stage := .down
  partialCounter : ℕ := 0

inductive StoreEvent
  | initializeStorage
  | beginPartialFile (clock : ℤ)
  | write (bytes : List UInt8)
  | removePartial
  | createDirectories (dayClock nameClock : ℤ)
  | fsyncFile (ok : Bool)
  | rename (ok : Bool)
  | fsyncParentDir (ok : Bool)
  | insertArchivedLog
  | evict (q : Path)
  | powerCut (cut : Cut (List String) Path)

namespace Store

def lookup (s : Store) (q : Path) : Option (List UInt8) := s.disk.lookup Path.parent q

/-- `finalizePartial` call by call; the transaction of `insertArchivedLog` is on the disk when it returns. -/
def step (settings : StorageSettings) (s : Store) : StoreEvent → Option Store
  | .initializeStorage =>
    if s.stage = .down then
      some { disk := ((s.disk.mkdir ["logs"]).mkdir ["tmp"]).removeAll Path.isPartial, stage := .idle }
    else none
  | .beginPartialFile clock =>
    if s.stage = .idle then
      let (q, st) := StorageManager.beginPartialFile settings { partialCounter := s.partialCounter } clock
      some { s with stage := .writing q, partialCounter := st.partialCounter }
    else none
  | .write bytes =>
    match s.stage with
    | .writing q => some { s with disk := s.disk.write q bytes }
    | _ => none
  | .removePartial =>
    match s.stage with
    | .writing q => some { s with disk := s.disk.remove q, stage := .idle }
    | _ => none
  | .createDirectories dayClock nameClock =>
    match s.stage with
    | .writing q =>
      if (s.lookup q).isNone then some { s with stage := .idle }
      else
        let target := finalPath settings ⟨dayClock, nameClock, true, true⟩
        some { s with disk := s.disk.mkdir target.parent, stage := .placed q target }
    | _ => none
  | .fsyncFile ok =>
    match s.stage with
    | .placed q target =>
      if ok then some { s with disk := s.disk.fsyncFile q, stage := .forced q target }
      else some { s with stage := .idle }
    | _ => none
  | .rename ok =>
    match s.stage with
    | .forced q target =>
      if ok then some { s with disk := s.disk.rename q target, stage := .renamed target }
      else some { s with stage := .idle }
    | _ => none
  | .fsyncParentDir ok =>
    match s.stage with
    | .renamed target =>
      -- a failure is logged, and the archive counts as stored
      let s' := { s with disk := if ok then s.disk.fsyncDir Path.parent target.parent else s.disk }
      if (s'.lookup target).isSome then some { s' with stage := .stored target ok }
      else some { s' with stage := .idle }
    | _ => none
  | .insertArchivedLog =>
    match s.stage with
    | .stored _ _ => some { s with stage := .idle }
    | _ => none
  | .evict q =>
    if s.stage = .idle ∧ q.isArchive then some { s with disk := s.disk.remove q } else none
  | .powerCut cut => some { s with disk := s.disk.crash Path.parent cut, stage := .down }

inductive Steps (settings : StorageSettings) (s : Store) : StoreEvent → Store → Prop
  | initializeStorage : s.stage = .down → Steps settings s .initializeStorage
      { disk := ((s.disk.mkdir ["logs"]).mkdir ["tmp"]).removeAll Path.isPartial, stage := .idle }
  | beginPartialFile (clock : ℤ) (q : Path) (n : ℕ) : s.stage = .idle → q.isPartial = true →
      Steps settings s (.beginPartialFile clock) { s with stage := .writing q, partialCounter := n }
  | write (bytes : List UInt8) (q : Path) : s.stage = .writing q →
      Steps settings s (.write bytes) { s with disk := s.disk.write q bytes }
  | removePartial (q : Path) : s.stage = .writing q →
      Steps settings s .removePartial { s with disk := s.disk.remove q, stage := .idle }
  | createDirectories (dayClock nameClock : ℤ) (q target : Path) : s.stage = .writing q →
      ¬ (s.lookup q).isNone = true → target = finalPath settings ⟨dayClock, nameClock, true, true⟩ →
      Steps settings s (.createDirectories dayClock nameClock)
        { s with disk := s.disk.mkdir target.parent, stage := .placed q target }
  | fsyncFile (q target : Path) : s.stage = .placed q target →
      Steps settings s (.fsyncFile true) { s with disk := s.disk.fsyncFile q, stage := .forced q target }
  | rename (q target : Path) : s.stage = .forced q target →
      Steps settings s (.rename true) { s with disk := s.disk.rename q target, stage := .renamed target }
  | fsyncParentDir (ok : Bool) (target : Path) (stage : Stage) : s.stage = .renamed target →
      stage = .stored target ok ∨ stage = .idle → Steps settings s (.fsyncParentDir ok)
        { s with disk := if ok then s.disk.fsyncDir Path.parent target.parent else s.disk, stage := stage }
  -- a call of `finalizePartial` that fails on its way, and the row of one that does not
  | ends (e : StoreEvent) : s.stage ≠ .down → Steps settings s e { s with stage := .idle }
  | evict (q : Path) : s.stage = .idle → Steps settings s (.evict q) { s with disk := s.disk.remove q }
  | powerCut (cut : Cut (List String) Path) :
      Steps settings s (.powerCut cut) { s with disk := s.disk.crash Path.parent cut, stage := .down }

lemma step_cases {settings : StorageSettings} {s s' : Store} {e : StoreEvent} (hs : s.step settings e = some s') :
    s.Steps settings e s' := by
  cases e with
  | initializeStorage =>
    simp only [step] at hs
    split_ifs at hs with hdown
    exact Option.some.inj hs ▸ .initializeStorage hdown
  | beginPartialFile clock =>
    simp only [step] at hs
    split_ifs at hs with hidle
    exact Option.some.inj hs ▸ .beginPartialFile clock _ _ hidle (beginPartialFile_isPartial _ _)
  | write bytes =>
    simp only [step] at hs
    split at hs
    · rename_i q hstage
      exact Option.some.inj hs ▸ .write bytes q hstage
    · cases hs
  | removePartial =>
    simp only [step] at hs
    split at hs
    · rename_i q hstage
      exact Option.some.inj hs ▸ .removePartial q hstage
    · cases hs
  | createDirectories dayClock nameClock =>
    simp only [step] at hs
    split at hs
    · rename_i q hstage
      split_ifs at hs with hfile
      · exact Option.some.inj hs ▸ .ends _ (by simp [hstage])
      · exact Option.some.inj hs ▸ .createDirectories dayClock nameClock q _ hstage hfile rfl
    · cases hs
  | fsyncFile ok =>
    simp only [step] at hs
    split at hs
    · rename_i q target hstage
      cases ok with
      | true => exact Option.some.inj hs ▸ .fsyncFile q target hstage
      | false => exact Option.some.inj hs ▸ .ends _ (by simp [hstage])
    · cases hs
  | rename ok =>
    simp only [step] at hs
    split at hs
    · rename_i q target hstage
      cases ok with
      | true => exact Option.some.inj hs ▸ .rename q target hstage
      | false => exact Option.some.inj hs ▸ .ends _ (by simp [hstage])
    · cases hs
  | fsyncParentDir ok =>
    simp only [step] at hs
    split at hs
    · rename_i target hstage
      have hends : ∀ stage, stage = .stored target ok ∨ stage = .idle → s.Steps settings (.fsyncParentDir ok)
          { s with disk := if ok then s.disk.fsyncDir Path.parent target.parent else s.disk, stage := stage } :=
        fun stage => .fsyncParentDir ok target stage hstage
      generalize (if ok = true then s.disk.fsyncDir Path.parent target.parent else s.disk) = disk at hs hends
      split_ifs at hs
      · exact Option.some.inj hs ▸ hends _ (.inl rfl)
      · exact Option.some.inj hs ▸ hends _ (.inr rfl)
    · cases hs
  | insertArchivedLog =>
    simp only [step] at hs
    split at hs
    · rename_i target synced hstage
      exact Option.some.inj hs ▸ .ends _ (by simp [hstage])
    · cases hs
  | evict q =>
    simp only [step] at hs
    split_ifs at hs with hidle
    exact Option.some.inj hs ▸ .evict q hidle.1
  | powerCut cut => exact Option.some.inj hs ▸ .powerCut cut

end Store

def Stage.Fits (V : Path → List UInt8 → Prop) (d : StorageDisk) : Stage → Prop
  | .down => True
  | .idle => True
  | .writing q => q.isPartial = true
  | .placed q target => q.isPartial = true ∧ target.isPartial = false ∧ (d.made target.parent).now = true ∧
      ∃ i, (d.names q).now = some i
  | .forced q target => q.isPartial = true ∧ target.isPartial = false ∧ (d.made target.parent).now = true ∧
      ∃ i b, (d.names q).now = some i ∧ (d.contents i).Settled b ∧ V target b
  | .renamed target => target.isPartial = false ∧ ∃ i b, (d.names target).now = some i ∧ (d.contents i).Settled b
  | .stored target synced => target.isPartial = false ∧
      (synced = true → ∃ i b, (d.names target).Settled (some i) ∧ (d.contents i).Settled b)

structure Kept (V : Path → List UInt8 → Prop) (s : Store) : Prop where
  sound : s.disk.Sound
  housed : s.disk.Housed Path.parent
  whole : s.disk.Whole (fun q => q.isPartial = true) V
  apart : s.stage ≠ .down → s.disk.Apart (fun q => q.isPartial = true) ∧ (s.disk.made ["tmp"]).now = true
  fits : s.stage.Fits V s.disk

section Steps

variable {settings : StorageSettings} {V W : Path → List UInt8 → Prop} {s s' : Store}

lemma Stage.Fits.weaken {d : StorageDisk} {stage : Stage} (h : stage.Fits V d) (hw : ∀ q b, V q b → W q b) :
    stage.Fits W d := by
  cases stage with
  | forced q target =>
    obtain ⟨hq, ht, hmade, i, b, hi, hb, hv⟩ := h
    exact ⟨hq, ht, hmade, i, b, hi, hb, hw target b hv⟩
  | _ => exact h

lemma Kept.weaken (h : Kept V s) (hw : ∀ q b, V q b → W q b) : Kept W s :=
  ⟨h.sound, h.housed, h.whole.weaken hw, h.apart, h.fits.weaken hw⟩

lemma parent_of_isPartial {q : Path} (h : q.isPartial = true) : q.parent = ["tmp"] := by
  simp only [Path.isPartial, Bool.and_eq_true, beq_iff_eq] at h
  exact h.1

lemma Kept.idle (h : Kept V s) (hup : s.stage ≠ .down) : Kept V { s with stage := .idle } :=
  ⟨h.sound, h.housed, h.whole, fun _ => h.apart hup, trivial⟩

lemma Kept.initializeStorage (h : Kept V s) :
    Kept V { disk := ((s.disk.mkdir ["logs"]).mkdir ["tmp"]).removeAll Path.isPartial, stage := .idle } := by
  have hnames : ∀ q i, (((s.disk.mkdir ["logs"]).mkdir ["tmp"]).removeAll Path.isPartial).Names q i →
      s.disk.Names q i := fun q i hi => by simpa [Disk.Names] using Disk.removeAll_names hi
  refine ⟨h.sound.mono hnames (by simp [Disk.removeAll]), h.housed.mono ?_ ?_, h.whole.mono ?_ ?_, fun _ => ⟨?_, ?_⟩,
    trivial⟩
  · intro q i hi
    simpa using Disk.removeAll_now hi
  · exact fun x hx => Disk.mkdir_made_mono (Disk.mkdir_made_mono hx)
  · exact fun q i _ hi => hnames q i hi
  · intro i b hb
    simpa [Disk.removeAll] using hb
  · exact Disk.apart_removeAll
  · exact Disk.mkdir_made_now

lemma Kept.write {q : Path} (h : Kept V s) (hstage : s.stage = .writing q) (bytes : List UInt8) :
    Kept V { s with disk := s.disk.write q bytes } := by
  have hq : q.isPartial = true := by simpa [hstage, Stage.Fits] using h.fits
  obtain ⟨hapart, htmp⟩ := h.apart (by simp [hstage])
  refine ⟨h.sound.write q bytes, h.housed.write ?_ bytes, h.whole.write h.sound hapart hq bytes,
    fun _ => ⟨hapart.write h.sound hq bytes, ?_⟩, ?_⟩
  · rw [parent_of_isPartial hq]
    exact htmp
  · simpa using htmp
  · simpa [hstage, Stage.Fits] using hq

lemma Kept.remove (h : Kept V s) (hup : s.stage ≠ .down) (q : Path) :
    Kept V { s with disk := s.disk.remove q, stage := .idle } := by
  obtain ⟨hapart, htmp⟩ := h.apart hup
  refine ⟨h.sound.mono (fun _ _ => Disk.remove_names) le_rfl, h.housed.mono (fun _ _ => Disk.now_of_remove) ?_,
    h.whole.mono (fun _ _ _ => Disk.remove_names) ?_, fun _ => ⟨?_, htmp⟩, trivial⟩
  · exact fun _ hx => hx
  · exact fun _ _ hb => hb
  · exact hapart.mono (fun _ _ _ => Disk.now_of_remove) fun _ _ _ => Disk.remove_names

lemma Kept.crash (h : Kept V s) (cut : Cut (List String) Path) :
    Kept V { s with disk := s.disk.crash Path.parent cut, stage := .down } :=
  ⟨h.sound.mono (fun _ _ => Disk.crash_names) le_rfl, Disk.housed_crash _ _ _,
    h.whole.mono (fun _ _ _ => Disk.crash_names) fun _ _ hb => hb.pick _, fun hup => absurd rfl hup, trivial⟩

lemma Kept.createDirectories {q target : Path} (h : Kept V s) (hstage : s.stage = .writing q)
    (hfile : ¬ (s.lookup q).isNone = true) (ht : target.isPartial = false) :
    Kept V { s with disk := s.disk.mkdir target.parent, stage := .placed q target } := by
  have hq : q.isPartial = true := by simpa [hstage, Stage.Fits] using h.fits
  obtain ⟨hapart, htmp⟩ := h.apart (by simp [hstage])
  have hnames : ∀ x i, (s.disk.mkdir target.parent).Names x i → s.disk.Names x i := by
    intro x i hi
    simpa [Disk.Names] using hi
  refine ⟨h.sound.mono hnames (by simp), h.housed.mono (by simp) fun _ => Disk.mkdir_made_mono,
    h.whole.mono (fun x i _ => hnames x i) (by simp), fun _ => ⟨?_, Disk.mkdir_made_mono htmp⟩, hq, ht,
    Disk.mkdir_made_now, ?_⟩
  · exact hapart.mono (by simp) fun x i _ => hnames x i
  · rw [Store.lookup, Disk.lookup] at hfile
    simp only [Disk.mkdir_names]
    split_ifs at hfile
    · rw [Option.isNone_iff_eq_none, Option.map_eq_none_iff] at hfile
      exact Option.ne_none_iff_exists'.mp hfile
    · simp at hfile

lemma Kept.fsyncFile {q target : Path} (h : Kept V s) (hstage : s.stage = .placed q target)
    (hv : ∀ b, s.lookup q = some b → V target b) :
    Kept V { s with disk := s.disk.fsyncFile q, stage := .forced q target } := by
  obtain ⟨hq, ht, hmade, i, hi⟩ : (Stage.placed q target).Fits V s.disk := hstage ▸ h.fits
  obtain ⟨hapart, htmp⟩ := h.apart (by simp [hstage])
  have hnames : ∀ x j, (s.disk.fsyncFile q).Names x j → s.disk.Names x j := by
    intro x j hj
    simpa [Disk.Names] using hj
  have hlookup : s.lookup q = some (s.disk.contents i).now := by
    rw [Store.lookup, Disk.lookup, if_pos (h.housed q i hi), hi, Option.map_some]
  refine ⟨h.sound.mono hnames (by simp), h.housed.mono (by simp) (by simp),
    h.whole.mono (fun x j _ => hnames x j) fun _ _ => Disk.settled_fsyncFile, fun _ => ⟨?_, by simpa using htmp⟩,
    hq, ht, by simpa using hmade, i, (s.disk.contents i).now, by simpa using hi, ?_, hv _ hlookup⟩
  · exact hapart.mono (by simp) fun x j _ => hnames x j
  · exact Disk.fsyncFile_settled hi

lemma Kept.rename {q target : Path} (h : Kept V s) (hstage : s.stage = .forced q target) :
    Kept V { s with disk := s.disk.rename q target, stage := .renamed target } := by
  obtain ⟨hq, ht, hmade, i, b, hi, hb, hv⟩ : (Stage.forced q target).Fits V s.disk := hstage ▸ h.fits
  obtain ⟨hapart, htmp⟩ := h.apart (by simp [hstage])
  have hne : target ≠ q := by
    rintro rfl
    rw [hq] at ht
    cases ht
  refine ⟨h.sound.rename q target, h.housed.rename hmade, h.whole.rename ?_, fun _ => ⟨?_, htmp⟩, ht, i, b, ?_, hb⟩
  · intro j hj
    obtain rfl : i = j := Option.some.inj (hi.symm.trans hj)
    exact ⟨b, hv, hb⟩
  · exact hapart.rename hq (by simp [ht])
  · rw [Disk.rename_target hne]
    exact hi

lemma Kept.fsyncDir {target : Path} (h : Kept V s) (hstage : s.stage = .renamed target) :
    Kept V { s with disk := s.disk.fsyncDir Path.parent target.parent, stage := .stored target true } := by
  obtain ⟨ht, i, b, hi, hb⟩ : (Stage.renamed target).Fits V s.disk := hstage ▸ h.fits
  obtain ⟨hapart, htmp⟩ := h.apart (by simp [hstage])
  refine ⟨h.sound.mono (fun _ _ => Disk.fsyncDir_names) le_rfl, h.housed.mono ?_ fun _ hx => hx,
    h.whole.mono (fun _ _ _ => Disk.fsyncDir_names) fun _ _ hc => hc, fun _ => ⟨?_, htmp⟩, ht,
    fun _ => ⟨i, b, ?_, hb⟩⟩
  · intro x j hj
    rwa [Disk.fsyncDir_now] at hj
  · exact hapart.mono (fun x j _ hj => by rwa [Disk.fsyncDir_now] at hj) fun _ _ _ => Disk.fsyncDir_names
  · exact hi ▸ Disk.fsyncDir_settled

def Forces (s : Store) (e : StoreEvent) (target : Path) (bytes : List UInt8) : Prop :=
  e = .fsyncFile true ∧ ∃ q, s.stage = .placed q target ∧ s.lookup q = some bytes

lemma Kept.stored {target : Path} (h : Kept V s) (hstage : s.stage = .renamed target) (ok : Bool) :
    Kept V { s with
      disk := if ok then s.disk.fsyncDir Path.parent target.parent else s.disk
      stage := .stored target ok } := by
  cases ok with
  | true => exact h.fsyncDir hstage
  | false =>
    obtain ⟨ht, _⟩ : (Stage.renamed target).Fits V s.disk := hstage ▸ h.fits
    exact ⟨h.sound, h.housed, h.whole, fun _ => h.apart (by simp [hstage]), ht, fun hsynced => by cases hsynced⟩

lemma Kept.step {e : StoreEvent} (h : Kept V s) (hs : s.step settings e = some s')
    (hv : ∀ target b, Forces s e target b → V target b) : Kept V s' := by
  cases Store.step_cases hs with
  | initializeStorage _ => exact h.initializeStorage
  | beginPartialFile clock q n hstage hq =>
    exact ⟨h.sound, h.housed, h.whole, fun _ => h.apart (by simp [hstage]), hq⟩
  | write bytes q hstage => exact h.write hstage bytes
  | removePartial q hstage => exact h.remove (by simp [hstage]) q
  | createDirectories dayClock nameClock q target hstage hfile htarget =>
    exact h.createDirectories hstage hfile (htarget ▸ finalPath_isPartial _)
  | fsyncFile q target hstage => exact h.fsyncFile hstage fun b hb => hv target b ⟨rfl, q, hstage, hb⟩
  | rename q target hstage => exact h.rename hstage
  | fsyncParentDir ok target stage hstage hstored =>
    rcases hstored with rfl | rfl
    · exact h.stored hstage ok
    · exact (h.stored hstage ok).idle (by simp)
  | ends _ hup => exact h.idle hup
  | evict q hstage =>
    have hremoved := h.remove (by simp [hstage]) q
    rwa [← hstage] at hremoved
  | powerCut cut => exact h.crash cut

end Steps

def Forced (ts : List (Transition Store StoreEvent)) (target : Path) (bytes : List UInt8) : Prop :=
  ∃ t ∈ ts, Forces t.pre t.event target bytes

variable {settings : StorageSettings} {ts : List (Transition Store StoreEvent)} {s : Store}

lemma Kept.run (h : Run (Store.step settings) {} ts s) : Kept (Forced ts) s := by
  induction h with
  | nil =>
    refine ⟨?_, ?_, ?_, fun hup => absurd rfl hup, trivial⟩
    · intro q i hi
      exact absurd (List.mem_singleton.mp hi) (Option.some_ne_none i)
    · intro q i hi
      cases hi
    · intro q i _ hi
      exact absurd (List.mem_singleton.mp hi) (Option.some_ne_none i)
  | @snoc ts s e s' _ hs ih =>
    refine (ih.weaken ?_).step hs ?_
    · rintro q b ⟨t, ht, hforced⟩
      exact ⟨t, List.mem_append_left _ ht, hforced⟩
    · intro target b hforced
      exact ⟨_, List.mem_append_right _ List.mem_cons_self, hforced⟩

theorem archives_never_torn (settings : StorageSettings) (ts : List (Transition Store StoreEvent)) (s : Store)
    (h : Run (Store.step settings) {} ts s) (r : Path) (hr : r.isArchive = true) (bytes : List UInt8)
    (hbytes : s.lookup r = some bytes) :
    ∃ t ∈ ts, t.event = .fsyncFile true ∧ ∃ q, t.pre.stage = .placed q r ∧ t.pre.lookup q = some bytes := by
  have hpartial : ¬ r.isPartial = true := by
    simp only [Path.isArchive, Path.isPartial, Bool.and_eq_true, beq_iff_eq] at hr ⊢
    rintro ⟨hparent, _⟩
    simp [hparent] at hr
  rw [Store.lookup, Disk.lookup] at hbytes
  split_ifs at hbytes
  obtain ⟨i, hi, hcontent⟩ := Option.map_eq_some_iff.mp hbytes
  obtain ⟨b, hforced, hsettled⟩ := (Kept.run h).whole r i hpartial (Disk.now_names hi)
  rw [← hcontent, hsettled.now]
  exact hforced

def archiveAt (clock : ℤ) (bytes : List UInt8) : List StoreEvent :=
  [.initializeStorage, .beginPartialFile clock, .write bytes, .createDirectories clock clock, .fsyncFile true,
    .rename true, .fsyncParentDir true, .insertArchivedLog]

def sparing : Cut (List String) Path := ⟨fun _ => 0, fun _ => 0, fun _ => 0⟩

def losing : Cut (List String) Path := ⟨fun _ => 1, fun _ => 1, fun _ => 1⟩

def twoBoots : List StoreEvent :=
  archiveAt 0 [1] ++ [.powerCut sparing] ++ archiveAt 1 [2] ++ [.powerCut losing, .initializeStorage]

def secondArchive : Path := finalPath epochSettings ⟨1, 1, true, true⟩

theorem archives_never_torn_two_boots :
    ∃ x, Run.exec (Store.step epochSettings) {} twoBoots = some x ∧ x.2.lookup secondArchive = some [2] ∧
      ∃ t ∈ x.1, t.event = .fsyncFile true ∧
        ∃ q, t.pre.stage = .placed q secondArchive ∧ t.pre.lookup q = some [2] := by
  refine exists_of_any (fun x => x.2.lookup secondArchive = some [2]) (by decide +kernel) fun x hx hbytes =>
    ⟨hbytes, ?_⟩
  exact archives_never_torn epochSettings x.1 x.2 (Run.of_exec hx) secondArchive rfl [2] hbytes

def Shows (s : Store) (st : StorageManager) : Prop := ∀ q, s.lookup q = (st.files.lookup q).map File.bytes

lemma shows_rename {V : Path → List UInt8 → Prop} {q target : Path} {st : StorageManager} {file : File}
    (hk : Kept V s) (hshows : Shows s st) (hstage : s.stage = .forced q target)
    (hfile : st.files.lookup q = some file) :
    Shows { s with disk := s.disk.rename q target, stage := .renamed target } (st.rename q target file) := by
  obtain ⟨hq, ht, hmade, _⟩ : (Stage.forced q target).Fits V s.disk := hstage ▸ hk.fits
  have hne : target ≠ q := by
    rintro rfl
    rw [hq] at ht
    cases ht
  intro x
  rw [Store.lookup, Disk.lookup_rename hk.housed hmade hne]
  split_ifs with hx hx'
  · rw [hx, StorageManager.rename_lookup_target, Option.map_some]
    exact (hshows q).trans (by rw [hfile, Option.map_some])
  · rw [hx', StorageManager.rename, AList.lookup_insert_ne hne.symm, AList.lookup_erase]
    rfl
  · rw [StorageManager.rename_lookup_other file hx hx']
    exact hshows x

lemma finalizePartial_refined {V : Path → List UInt8 → Prop} {q : Path} {st : StorageManager} (hk : Kept V s)
    (hshows : Shows s st) (hstage : s.stage = .writing q) (env : FinalizeEnv) (ok : Bool) :
    ∃ us s', Run (Store.step settings) s us s' ∧ Shows s' (st.finalizePartial settings q env).2 ∧
      s'.stage = ((st.finalizePartial settings q env).1.map fun r => .stored r ok).getD .idle := by
  have hk : Kept (fun _ _ => True) s := hk.weaken fun _ _ _ => trivial
  cases hfile : st.files.lookup q with
  | none =>
    rw [show st.finalizePartial settings q env = (none, st) by simp [StorageManager.finalizePartial, hfile]]
    refine ⟨_, { s with stage := .idle }, Run.snoc (e := .createDirectories env.dayClock env.nameClock) .nil ?_, hshows,
      rfl⟩
    simp [Store.step, hstage, hshows q, hfile]
  | some file =>
    have hfound : ¬ (s.lookup q).isNone = true := by simp [hshows q, hfile]
    let target := finalPath settings env
    let placed : Store := { s with disk := s.disk.mkdir target.parent, stage := .placed q target }
    have hstep₁ : s.step settings (.createDirectories env.dayClock env.nameClock) = some placed := by
      simp only [Store.step, hstage, if_neg hfound]
      rfl
    have hk₁ : Kept (fun _ _ => True) placed := hk.step hstep₁ fun _ _ _ => trivial
    have hshows₁ : Shows placed st := fun x => (hk.housed.lookup_mkdir _ x).trans (hshows x)
    have hrun₁ : Run (Store.step settings) s _ placed := Run.snoc .nil hstep₁
    cases hfsync : env.fsyncOk with
    | false =>
      rw [show st.finalizePartial settings q env = (none, st) by simp [StorageManager.finalizePartial, hfile, hfsync]]
      exact ⟨_, { placed with stage := .idle }, hrun₁.snoc (e := .fsyncFile false) rfl, hshows₁, rfl⟩
    | true =>
      let forced : Store := { placed with disk := placed.disk.fsyncFile q, stage := .forced q target }
      have hstep₂ : placed.step settings (.fsyncFile true) = some forced := rfl
      have hk₂ : Kept (fun _ _ => True) forced := hk₁.step hstep₂ fun _ _ _ => trivial
      have hshows₂ : Shows forced st := fun x => (Disk.lookup_fsyncFile _ _ x q).trans (hshows₁ x)
      have hrun₂ := hrun₁.snoc hstep₂
      cases hrename : env.renameOk with
      | false =>
        rw [show st.finalizePartial settings q env = (none, st) by
          simp [StorageManager.finalizePartial, hfile, hfsync, hrename]]
        exact ⟨_, { forced with stage := .idle }, hrun₂.snoc (e := .rename false) rfl, hshows₂, rfl⟩
      | true =>
        let renamed : Store := { forced with disk := forced.disk.rename q target, stage := .renamed target }
        have hstep₃ : forced.step settings (.rename true) = some renamed := rfl
        have hshows₃ : Shows renamed (st.rename q target file) := shows_rename hk₂ hshows₂ rfl hfile
        have hrun₃ := hrun₂.snoc hstep₃
        let disk := if ok then renamed.disk.fsyncDir Path.parent target.parent else renamed.disk
        have hshows₄ : Shows { renamed with disk := disk, stage := .stored target ok } (st.rename q target file) := by
          intro x
          refine Eq.trans ?_ (hshows₃ x)
          cases ok with
          | true => exact Disk.lookup_fsyncDir _ _ _ x
          | false => rfl
        have hresult : st.finalizePartial settings q env = (some target, st.rename q target file) := by
          simp [StorageManager.finalizePartial, hfile, hfsync, hrename, StorageManager.rename, target]
        have hstep₄ : renamed.step settings (.fsyncParentDir ok) =
            some { renamed with disk := disk, stage := .stored target ok } := by
          have hlookup := hshows₄ target
          rw [StorageManager.rename_lookup_target] at hlookup
          exact if_pos (Option.isSome_iff_exists.mpr ⟨_, hlookup⟩)
        rw [hresult]
        exact ⟨_, _, hrun₃.snoc hstep₄, hshows₄, rfl⟩

def Touches (t : Transition Store StoreEvent) (r : Path) : Prop :=
  t.event = .evict r ∨ t.event = .rename true ∧ ∃ q, t.pre.stage = .forced q r

lemma safe_step {V : Path → List UInt8 → Prop} {e : StoreEvent} {s' : Store} {r : Path} {bytes : List UInt8}
    (hk : Kept V s) (h : s.disk.Safe Path.parent r bytes) (hr : r.isPartial = false)
    (hs : s.step settings e = some s') (htouch : ¬ Touches ⟨s, e, s'⟩ r) : s'.disk.Safe Path.parent r bytes := by
  have hne : ∀ q : Path, q.isPartial = true → r ≠ q := by
    rintro q hq rfl
    rw [hq] at hr
    cases hr
  cases Store.step_cases hs with
  | initializeStorage _ => exact ((h.mkdir _).mkdir _).removeAll hr
  | beginPartialFile clock q n _ _ => exact h
  | write content q hstage =>
    have hq : q.isPartial = true := by simpa [hstage, Stage.Fits] using hk.fits
    have hapart := (hk.apart (by simp [hstage])).1
    exact h.write hk.sound (hne q hq) fun i hi => hapart.outside q i hq hi r (by simp [hr])
  | removePartial q hstage =>
    have hq : q.isPartial = true := by simpa [hstage, Stage.Fits] using hk.fits
    exact h.remove (hne q hq)
  | createDirectories dayClock nameClock q target _ _ _ => exact h.mkdir _
  | fsyncFile q target _ => exact h.fsyncFile _
  | rename q target hstage =>
    have hfits : (Stage.forced q target).Fits V s.disk := hstage ▸ hk.fits
    have ht : r ≠ target := by
      rintro rfl
      exact htouch (Or.inr ⟨rfl, q, hstage⟩)
    exact h.rename (hne q hfits.1) ht
  | fsyncParentDir ok target stage _ _ =>
    cases ok with
    | true => exact h.fsyncDir _
    | false => exact h
  | ends _ _ => exact h
  | evict q _ =>
    have hq : r ≠ q := by
      rintro rfl
      exact htouch (Or.inl rfl)
    exact h.remove hq
  | powerCut cut => exact h.crash cut

theorem catalogued_archive_survives (settings : StorageSettings) (ts before after : List (Transition Store StoreEvent))
    (t : Transition Store StoreEvent) (s : Store) (h : Run (Store.step settings) {} ts s)
    (hts : ts = before ++ t :: after) (r : Path) (bytes : List UInt8) (hinsert : t.event = .insertArchivedLog)
    (hstored : t.pre.stage = .stored r true) (hbytes : t.pre.lookup r = some bytes)
    (hmade : (t.pre.disk.made r.parent).Settled true) (hkept : ∀ u ∈ after, ¬ Touches u r) :
    s.lookup r = some bytes := by
  obtain ⟨hbefore, hstep⟩ := h.split hts
  have hpre : Kept (fun _ _ => True) t.pre := (Kept.run hbefore).weaken fun _ _ _ => trivial
  obtain ⟨hr, hforced⟩ : (Stage.stored r true).Fits (fun _ _ => True) t.pre.disk := hstored ▸ hpre.fits
  obtain ⟨i, b, hname, hcontent⟩ := hforced rfl
  have hsafe : t.pre.disk.Safe Path.parent r b := ⟨hmade, i, hname, hcontent⟩
  obtain rfl : b = bytes := Option.some.inj (hsafe.lookup.symm.trans hbytes)
  have hpost : Kept (fun _ _ => True) t.post := hpre.step hstep fun _ _ _ => trivial
  have huntouched : ¬ Touches ⟨t.pre, t.event, t.post⟩ r := by simp [Touches, hinsert]
  have hend := Run.invariant (fun u => ¬ Touches u r)
    (fun s => Kept (fun _ _ => True) s ∧ s.disk.Safe Path.parent r b)
    ⟨hpost, safe_step hpre hsafe hr hstep huntouched⟩
    (fun _ _ _ hi hs hc => ⟨hi.1.step hs fun _ _ _ => trivial, safe_step hi.1 hi.2 hr hs hc⟩) (h.rest hts) hkept
  exact hend.2.lookup

theorem catalogued_archive_survives_two_boots :
    ∃ x, Run.exec (Store.step epochSettings) {} twoBoots = some x ∧ x.2.lookup secondArchive = some [2] := by
  refine exists_of_any (fun x => x.1[16]?.any (fun t => t.pre.stage = .stored secondArchive true ∧
    t.pre.lookup secondArchive = some [2] ∧ (t.pre.disk.made secondArchive.parent).Settled true) = true)
    (by decide +kernel) fun x hx hsixteen => ?_
  obtain ⟨t, ht, hpre⟩ := (Option.any_eq_true _ _).mp hsixteen
  obtain ⟨hstored, hbytes, hmade⟩ := of_decide_eq_true hpre
  obtain ⟨hlt, hget⟩ := List.getElem?_eq_some_iff.mp ht
  have hsplit : x.1 = x.1.take 16 ++ t :: x.1.drop 17 := by
    rw [← hget, ← List.drop_eq_getElem_cons hlt, List.take_append_drop]
  have hevents := Run.exec_events hx
  have hinsert : t.event = .insertArchivedLog := by
    have hevent := congrArg (·[16]?) hevents
    simp only [List.getElem?_map, ht, Option.map_some] at hevent
    exact Option.some.inj hevent
  have hafter : (x.1.drop 17).map (·.event) = [.powerCut losing, .initializeStorage] := by
    rw [List.map_drop, hevents]
    rfl
  refine catalogued_archive_survives epochSettings x.1 _ _ t x.2 (Run.of_exec hx) hsplit secondArchive [2] hinsert
    hstored hbytes hmade fun u hu => ?_
  have hmem : u.event ∈ [.powerCut losing, .initializeStorage] := hafter ▸ List.mem_map_of_mem hu
  rcases List.mem_cons.mp hmem with heq | heq
  · simp [Touches, heq]
  · simp [Touches, List.mem_singleton.mp heq]

-- the first archive of a day is lost with the entry of its directory
example : ∃ x, Run.exec (Store.step epochSettings) {} (archiveAt 0 [1] ++ [.powerCut losing, .initializeStorage]) =
    some x ∧ x.2.lookup (finalPath epochSettings ⟨0, 0, true, true⟩) = none :=
  exists_of_any (fun x => x.2.lookup (finalPath epochSettings ⟨0, 0, true, true⟩) = none) (by decide +kernel)
    fun _ _ hlost => hlost

end MavlinkLogService.Storage
