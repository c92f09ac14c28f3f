import Mathlib.Tactic

/-! A file system on a disk that is written back lazily: a power cut may lose what has not been forced. -/

namespace MavlinkLogService.Library

/-- A value, and the earlier ones that the disk may still hold in its place. -/
structure Cell (α : Type*) where
  now : α
  older : List α := []
  deriving DecidableEq, Repr

namespace Cell

variable {α : Type*} {c : Cell α} {a v : α}

def versions (c : Cell α) : List α := c.now :: c.older

def set (c : Cell α) (a : α) : Cell α := ⟨a, c.versions⟩

def force (c : Cell α) : Cell α := ⟨c.now, []⟩

def pick (c : Cell α) (n : ℕ) : Cell α := ⟨c.versions.getD n c.now, []⟩

def Settled (c : Cell α) (a : α) : Prop := ∀ v ∈ c.versions, v = a

instance [DecidableEq α] (c : Cell α) (a : α) : Decidable (c.Settled a) :=
  inferInstanceAs (Decidable (∀ v ∈ c.versions, v = a))

lemma now_mem (c : Cell α) : c.now ∈ c.versions := List.mem_cons_self

lemma Settled.now (h : c.Settled a) : c.now = a := h _ c.now_mem

lemma mem_set : v ∈ (c.set a).versions ↔ v = a ∨ v ∈ c.versions := List.mem_cons

lemma mem_force : v ∈ c.force.versions ↔ v = c.now := List.mem_singleton

lemma pick_mem (c : Cell α) (n : ℕ) : (c.pick n).now ∈ c.versions := by
  simp only [pick, List.getD_eq_getElem?_getD]
  cases h : c.versions[n]? with
  | none => exact c.now_mem
  | some v => exact List.mem_of_getElem? h

lemma versions_pick {n : ℕ} (h : v ∈ (c.pick n).versions) : v ∈ c.versions :=
  List.mem_singleton.mp h ▸ c.pick_mem n

lemma settled_force (c : Cell α) : c.force.Settled c.now := fun _ hv => mem_force.mp hv

lemma Settled.force (h : c.Settled a) : c.force.Settled a := fun _ hv => mem_force.mp hv ▸ h.now

lemma Settled.pick (h : c.Settled a) (n : ℕ) : (c.pick n).Settled a := fun v hv => h v (versions_pick hv)

end Cell

/-- Directories, names and numbered files; `fresh` is the number of the next file. -/
structure Disk (δ κ β : Type*) where
  made : δ → Cell Bool
  names : κ → Cell (Option ℕ)
  contents : ℕ → Cell β
  fresh : ℕ := 0

structure Cut (δ κ : Type*) where
  made : δ → ℕ
  names : κ → ℕ
  contents : ℕ → ℕ

namespace Disk

variable {δ κ β : Type*} (dir : κ → δ) (d : Disk δ κ β)

def lookup (k : κ) : Option β :=
  if (d.made (dir k)).now then (d.names k).now.map fun i => (d.contents i).now else none

def mkdir [DecidableEq δ] (x : δ) : Disk δ κ β :=
  if (d.made x).now then d else { d with made := Function.update d.made x ((d.made x).set true) }

def write [DecidableEq κ] (k : κ) (b : β) : Disk δ κ β :=
  match (d.names k).now with
  | some i => { d with contents := Function.update d.contents i ((d.contents i).set b) }
  | none =>
    { d with
      names := Function.update d.names k ((d.names k).set (some d.fresh))
      contents := Function.update d.contents d.fresh ((d.contents d.fresh).set b)
      fresh := d.fresh + 1 }

def remove [DecidableEq κ] (k : κ) : Disk δ κ β := { d with names := Function.update d.names k ((d.names k).set none) }

def removeAll (P : κ → Bool) : Disk δ κ β :=
  { d with names := fun k => if P k then (d.names k).set none else d.names k }

def rename [DecidableEq κ] (k target : κ) : Disk δ κ β :=
  let moved := { d with names := Function.update d.names target ((d.names target).set (d.names k).now) }
  moved.remove k

def fsyncFile (k : κ) : Disk δ κ β :=
  match (d.names k).now with
  | some i => { d with contents := Function.update d.contents i (d.contents i).force }
  | none => d

/-- The names in a directory are forced, but not the name of the directory itself. -/
def fsyncDir [DecidableEq δ] (x : δ) : Disk δ κ β :=
  { d with names := fun k => if dir k = x then (d.names k).force else d.names k }

def crash (cut : Cut δ κ) : Disk δ κ β :=
  { d with
    made := fun x => (d.made x).pick (cut.made x)
    names := fun k =>
      if ((d.made (dir k)).pick (cut.made (dir k))).now then (d.names k).pick (cut.names k) else ⟨none, []⟩
    contents := fun i => (d.contents i).pick (cut.contents i) }

def Names (k : κ) (i : ℕ) : Prop := some i ∈ (d.names k).versions

def Sound : Prop := ∀ k i, d.Names k i → i < d.fresh

structure Safe (k : κ) (b : β) : Prop where
  made : (d.made (dir k)).Settled true
  file : ∃ i, (d.names k).Settled (some i) ∧ (d.contents i).Settled b

def Whole (P : κ → Prop) (V : κ → β → Prop) : Prop :=
  ∀ k i, ¬ P k → d.Names k i → ∃ b, V k b ∧ (d.contents i).Settled b

def Housed : Prop := ∀ k i, (d.names k).now = some i → (d.made (dir k)).now = true

structure Apart (P : κ → Prop) : Prop where
  outside : ∀ k i, P k → (d.names k).now = some i → ∀ k', ¬ P k' → ¬ d.Names k' i
  inside : ∀ k i, P k → (d.names k).now = some i → ∀ k', P k' → (d.names k').now = some i → k' = k

section Names

variable {d} {k : κ} {i : ℕ} {b : β} {dir}

lemma now_names (h : (d.names k).now = some i) : d.Names k i := by
  rw [Names, ← h]
  exact (d.names k).now_mem

lemma Safe.lookup (h : d.Safe dir k b) : d.lookup dir k = some b := by
  obtain ⟨i, hname, hcontent⟩ := h.file
  rw [Disk.lookup, h.made.now, if_pos rfl, hname.now, Option.map_some, hcontent.now]

@[simp] lemma fsyncFile_made : (d.fsyncFile k).made = d.made := by
  rw [fsyncFile]
  split <;> rfl

@[simp] lemma fsyncFile_names : (d.fsyncFile k).names = d.names := by
  rw [fsyncFile]
  split <;> rfl

@[simp] lemma fsyncFile_fresh : (d.fsyncFile k).fresh = d.fresh := by
  rw [fsyncFile]
  split <;> rfl

lemma settled_fsyncFile (h : (d.contents i).Settled b) : ((d.fsyncFile k).contents i).Settled b := by
  rw [fsyncFile]
  split
  · rename_i j _
    by_cases hi : i = j
    · subst hi
      simpa only [Function.update_self] using h.force
    · simpa only [Function.update_of_ne hi] using h
  · exact h

lemma fsyncFile_settled (h : (d.names k).now = some i) :
    ((d.fsyncFile k).contents i).Settled (d.contents i).now := by
  simp only [fsyncFile, h, Function.update_self]
  exact Cell.settled_force _

lemma removeAll_now {p : κ → Bool} (h : ((d.removeAll p).names k).now = some i) : (d.names k).now = some i := by
  simp only [removeAll] at h
  split at h
  · cases h
  · exact h

lemma removeAll_names {p : κ → Bool} (h : (d.removeAll p).Names k i) : d.Names k i := by
  simp only [Names, removeAll] at h
  split at h
  · exact (Cell.mem_set.mp h).resolve_left (Option.some_ne_none i)
  · exact h

lemma crash_names {cut : Cut δ κ} (h : (d.crash dir cut).Names k i) : d.Names k i := by
  simp only [Names, crash] at h
  split at h
  · exact Cell.versions_pick h
  · exact absurd (List.mem_singleton.mp h) (Option.some_ne_none i)

lemma Safe.crash (h : d.Safe dir k b) (cut : Cut δ κ) : (d.crash dir cut).Safe dir k b := by
  obtain ⟨i, hname, hcontent⟩ := h.file
  refine ⟨h.made.pick _, i, ?_, hcontent.pick _⟩
  simp only [Disk.crash, (h.made.pick _).now, if_true]
  exact hname.pick _

lemma Safe.fsyncFile (h : d.Safe dir k b) (k' : κ) : (d.fsyncFile k').Safe dir k b := by
  obtain ⟨i, hname, hcontent⟩ := h.file
  exact ⟨by simpa using h.made, i, by simpa using hname, settled_fsyncFile hcontent⟩

lemma Safe.removeAll {p : κ → Bool} (h : d.Safe dir k b) (hk : p k = false) : (d.removeAll p).Safe dir k b := by
  obtain ⟨i, hname, hcontent⟩ := h.file
  refine ⟨h.made, i, ?_, hcontent⟩
  simpa only [Disk.removeAll, hk, Bool.false_eq_true, if_false] using hname

end Names

section Directories

variable [DecidableEq δ] {d} {k : κ} {x : δ} {i : ℕ} {b : β} {dir}

@[simp] lemma mkdir_names : (d.mkdir x).names = d.names := by
  rw [mkdir]
  split <;> rfl

@[simp] lemma mkdir_contents : (d.mkdir x).contents = d.contents := by
  rw [mkdir]
  split <;> rfl

@[simp] lemma mkdir_fresh : (d.mkdir x).fresh = d.fresh := by
  rw [mkdir]
  split <;> rfl

lemma mkdir_made_now : ((d.mkdir x).made x).now = true := by
  rw [mkdir]
  split
  · assumption
  · simp only [Function.update_self]
    rfl

lemma mkdir_made_mono {x' : δ} (h : (d.made x').now = true) : ((d.mkdir x).made x').now = true := by
  by_cases hx : x' = x
  · rw [hx, mkdir_made_now]
  · rw [mkdir]
    split
    · exact h
    · simpa only [Function.update_of_ne hx] using h

lemma mkdir_settled {x' : δ} (h : (d.made x').Settled true) : ((d.mkdir x).made x').Settled true := by
  rw [mkdir]
  split
  · exact h
  · rename_i hx
    have hne : x' ≠ x := fun heq => hx (heq ▸ h.now)
    simpa only [Function.update_of_ne hne] using h

lemma Safe.mkdir (h : d.Safe dir k b) (x : δ) : (d.mkdir x).Safe dir k b := by
  obtain ⟨i, hname, hcontent⟩ := h.file
  exact ⟨mkdir_settled h.made, i, by simpa using hname, by simpa using hcontent⟩

lemma fsyncDir_names (h : (d.fsyncDir dir x).Names k i) : d.Names k i := by
  simp only [Names, fsyncDir] at h
  split at h
  · exact now_names (Cell.mem_force.mp h).symm
  · exact h

lemma fsyncDir_now : ((d.fsyncDir dir x).names k).now = (d.names k).now := by
  simp only [fsyncDir]
  split <;> rfl

lemma fsyncDir_settled : ((d.fsyncDir dir (dir k)).names k).Settled (d.names k).now := by
  simp only [fsyncDir, if_true]
  exact Cell.settled_force _

lemma Safe.fsyncDir (h : d.Safe dir k b) (x : δ) : (d.fsyncDir dir x).Safe dir k b := by
  obtain ⟨i, hname, hcontent⟩ := h.file
  refine ⟨h.made, i, ?_, hcontent⟩
  simp only [Disk.fsyncDir]
  split
  · exact hname.force
  · exact hname

end Directories

section Files

variable [DecidableEq κ] {d} {k k' target : κ} {i : ℕ} {b b' : β} {dir}

@[simp] lemma write_made : (d.write k b).made = d.made := by
  rw [write]
  split <;> rfl

lemma write_contents (hne : (d.names k).now ≠ some i) (hi : i < d.fresh) :
    (d.write k b).contents i = d.contents i := by
  rw [write]
  split
  · rename_i j hj
    have hij : i ≠ j := by
      rintro rfl
      exact hne hj
    exact Function.update_of_ne hij _ _
  · exact Function.update_of_ne hi.ne _ _

lemma write_names_of_ne (h : k' ≠ k) : (d.write k b).names k' = d.names k' := by
  rw [write]
  split
  · rfl
  · exact Function.update_of_ne h _ _

lemma write_names (h : (d.write k b).Names k' i) :
    d.Names k' i ∨ k' = k ∧ i = d.fresh ∧ (d.names k).now = none := by
  by_cases hk : k' = k
  · subst hk
    rw [Names, write] at h
    split at h
    · exact Or.inl h
    · rename_i hnone
      simp only [Function.update_self, Cell.mem_set] at h
      exact h.elim (fun heq => Or.inr ⟨rfl, Option.some.inj heq, hnone⟩) Or.inl
  · rw [Names, write_names_of_ne hk] at h
    exact Or.inl h

lemma write_fresh_le : d.fresh ≤ (d.write k b).fresh := by
  rw [write]
  split
  · exact le_rfl
  · exact Nat.le_succ _

lemma write_now (d : Disk δ κ β) (k : κ) (b : β) :
    (∃ i, (d.names k).now = some i ∧ ((d.write k b).names k).now = some i) ∨
      (d.names k).now = none ∧ ((d.write k b).names k).now = some d.fresh := by
  rw [write]
  split
  · rename_i i hi
    exact Or.inl ⟨i, hi, hi⟩
  · rename_i hnone
    refine Or.inr ⟨hnone, ?_⟩
    simp only [Function.update_self]
    rfl

lemma remove_names_of_ne (h : k' ≠ k) : (d.remove k).names k' = d.names k' := Function.update_of_ne h _ _

lemma remove_now : ((d.remove k).names k).now = none := by
  simp only [remove, Function.update_self]
  rfl

lemma now_of_remove (h : ((d.remove k).names k').now = some i) : (d.names k').now = some i := by
  by_cases hk : k' = k
  · rw [hk, remove_now] at h
    cases h
  · rwa [remove_names_of_ne hk] at h

lemma remove_names (h : (d.remove k).Names k' i) : d.Names k' i := by
  by_cases hk : k' = k
  · subst hk
    simp only [Names, remove, Function.update_self, Cell.mem_set] at h
    exact h.resolve_left (Option.some_ne_none i)
  · rwa [Names, remove_names_of_ne hk] at h

lemma rename_names_of_ne (hk : k' ≠ k) (ht : k' ≠ target) : (d.rename k target).names k' = d.names k' := by
  rw [rename, remove_names_of_ne hk]
  exact Function.update_of_ne ht _ _

lemma rename_target (h : target ≠ k) : (d.rename k target).names target = (d.names target).set (d.names k).now := by
  rw [rename, remove_names_of_ne h]
  exact Function.update_self _ _ _

lemma rename_names (h : (d.rename k target).Names k' i) :
    d.Names k' i ∨ k' = target ∧ (d.names k).now = some i := by
  have h' := remove_names h
  by_cases hk : k' = target
  · subst hk
    simp only [Names, Function.update_self, Cell.mem_set] at h'
    exact h'.elim (fun heq => Or.inr ⟨rfl, heq.symm⟩) Or.inl
  · simp only [Names, Function.update_of_ne hk] at h'
    exact Or.inl h'

lemma Safe.remove (h : d.Safe dir k b) (hk : k ≠ k') : (d.remove k').Safe dir k b := by
  obtain ⟨i, hname, hcontent⟩ := h.file
  exact ⟨h.made, i, by rwa [remove_names_of_ne hk], hcontent⟩

lemma Safe.rename (h : d.Safe dir k b) (hk : k ≠ k') (ht : k ≠ target) : (d.rename k' target).Safe dir k b := by
  obtain ⟨i, hname, hcontent⟩ := h.file
  exact ⟨h.made, i, by rwa [rename_names_of_ne hk ht], hcontent⟩

lemma Safe.write (h : d.Safe dir k b) (hs : d.Sound) (hk : k ≠ k')
    (hfile : ∀ i, (d.names k').now = some i → ¬ d.Names k i) : (d.write k' b').Safe dir k b := by
  obtain ⟨i, hname, hcontent⟩ := h.file
  have hi : d.Names k i := now_names hname.now
  refine ⟨by rw [write_made]; exact h.made, i, by rwa [write_names_of_ne hk], ?_⟩
  rwa [write_contents (fun heq => hfile i heq hi) (hs k i hi)]

end Files

section Invariants

variable {d} {d' : Disk δ κ β} {P : κ → Prop} {V W : κ → β → Prop} {k target : κ} {i : ℕ} {b : β}

lemma Sound.mono (h : d.Sound) (hn : ∀ k i, d'.Names k i → d.Names k i) (hf : d.fresh ≤ d'.fresh) : d'.Sound :=
  fun k i hk => (h k i (hn k i hk)).trans_le hf

lemma Sound.write [DecidableEq κ] (h : d.Sound) (k : κ) (b : β) : (d.write k b).Sound := by
  intro k' i hi
  rcases write_names hi with hi | ⟨rfl, rfl, hnone⟩
  · exact (h k' i hi).trans_le write_fresh_le
  · simp only [Disk.write, hnone]
    exact Nat.lt_succ_self _

lemma Sound.rename [DecidableEq κ] (h : d.Sound) (k target : κ) : (d.rename k target).Sound := by
  intro k' i hi
  rcases rename_names hi with hi | ⟨_, hi⟩
  · exact h k' i hi
  · exact h k i (now_names hi)

lemma Whole.mono (h : d.Whole P V) (hn : ∀ k i, ¬ P k → d'.Names k i → d.Names k i)
    (hc : ∀ i b, (d.contents i).Settled b → (d'.contents i).Settled b) : d'.Whole P V := by
  intro k i hk hi
  obtain ⟨b, hb, hset⟩ := h k i hk (hn k i hk hi)
  exact ⟨b, hb, hc i b hset⟩

lemma Whole.weaken (h : d.Whole P V) (hw : ∀ k b, V k b → W k b) : d.Whole P W := by
  intro k i hk hi
  obtain ⟨b, hb, hset⟩ := h k i hk hi
  exact ⟨b, hw k b hb, hset⟩

lemma Whole.write [DecidableEq κ] (h : d.Whole P V) (hs : d.Sound) (ha : d.Apart P) (hk : P k) (b : β) :
    (d.write k b).Whole P V := by
  intro k' i hk' hi
  have hne : k' ≠ k := by
    rintro rfl
    exact hk' hk
  rw [Names, write_names_of_ne hne] at hi
  rw [write_contents (fun heq => ha.outside k i hk heq k' hk' hi) (hs k' i hi)]
  exact h k' i hk' hi

lemma Whole.rename [DecidableEq κ] (h : d.Whole P V) (hfile : ∀ i, (d.names k).now = some i →
    ∃ b, V target b ∧ (d.contents i).Settled b) : (d.rename k target).Whole P V := by
  intro k' i hk' hi
  rcases rename_names hi with hold | ⟨rfl, hmoved⟩
  · exact h k' i hk' hold
  · exact hfile i hmoved

lemma Apart.mono (h : d.Apart P) (hnow : ∀ k i, P k → (d'.names k).now = some i → (d.names k).now = some i)
    (hn : ∀ k i, ¬ P k → d'.Names k i → d.Names k i) : d'.Apart P :=
  ⟨fun k i hk hi k' hk' hi' => h.outside k i hk (hnow k i hk hi) k' hk' (hn k' i hk' hi'),
    fun k i hk hi k' hk' hi' => h.inside k i hk (hnow k i hk hi) k' hk' (hnow k' i hk' hi')⟩

lemma Apart.write [DecidableEq κ] (h : d.Apart P) (hs : d.Sound) (hk : P k) (b : β) : (d.write k b).Apart P := by
  -- the file of a name in `P` is the one it had, or the new one
  have hnow : ∀ k₁ i, P k₁ → ((d.write k b).names k₁).now = some i →
      (d.names k₁).now = some i ∨ k₁ = k ∧ i = d.fresh := by
    intro k₁ i _ hi
    by_cases hk₁ : k₁ = k
    · subst hk₁
      rcases d.write_now k₁ b with ⟨j, hj, hj'⟩ | ⟨_, hj'⟩
      · exact Or.inl (by rw [hj, ← hj', hi])
      · exact Or.inr ⟨rfl, Option.some.inj (hi.symm.trans hj')⟩
    · rw [write_names_of_ne hk₁] at hi
      exact Or.inl hi
  constructor
  · intro k₁ i hk₁ hi k' hk' hi'
    have hne : k' ≠ k := by
      rintro rfl
      exact hk' hk
    rw [Names, write_names_of_ne hne] at hi'
    rcases hnow k₁ i hk₁ hi with hi | ⟨rfl, rfl⟩
    · exact h.outside k₁ i hk₁ hi k' hk' hi'
    · exact absurd (hs k' _ hi') (lt_irrefl _)
  · intro k₁ i hk₁ hi k₂ hk₂ hi'
    rcases hnow k₁ i hk₁ hi with hi | ⟨rfl, rfl⟩
    · rcases hnow k₂ i hk₂ hi' with hi' | ⟨_, rfl⟩
      · exact h.inside k₁ i hk₁ hi k₂ hk₂ hi'
      · exact absurd (hs k₁ _ (now_names hi)) (lt_irrefl _)
    · rcases hnow k₂ _ hk₂ hi' with hi' | ⟨rfl, _⟩
      · exact absurd (hs k₂ _ (now_names hi')) (lt_irrefl _)
      · rfl

lemma Apart.rename [DecidableEq κ] (h : d.Apart P) (hk : P k) (ht : ¬ P target) : (d.rename k target).Apart P := by
  have hnow : ∀ k₁ i, P k₁ → ((d.rename k target).names k₁).now = some i →
      k₁ ≠ k ∧ (d.names k₁).now = some i := by
    intro k₁ i hk₁ hi
    have hne : k₁ ≠ k := by
      rintro rfl
      rw [Disk.rename, remove_now] at hi
      cases hi
    have hne' : k₁ ≠ target := by
      rintro rfl
      exact ht hk₁
    rw [rename_names_of_ne hne hne'] at hi
    exact ⟨hne, hi⟩
  constructor
  · intro k₁ i hk₁ hi k' hk' hi'
    obtain ⟨hne, hi⟩ := hnow k₁ i hk₁ hi
    rcases rename_names hi' with hi' | ⟨_, hi'⟩
    · exact h.outside k₁ i hk₁ hi k' hk' hi'
    · exact hne (h.inside k i hk hi' k₁ hk₁ hi)
  · intro k₁ i hk₁ hi k₂ hk₂ hi'
    exact h.inside k₁ i hk₁ (hnow k₁ i hk₁ hi).2 k₂ hk₂ (hnow k₂ i hk₂ hi').2

lemma Housed.mono {dir : κ → δ} (h : d.Housed dir)
    (hnow : ∀ k i, (d'.names k).now = some i → (d.names k).now = some i)
    (hmade : ∀ x, (d.made x).now = true → (d'.made x).now = true) : d'.Housed dir :=
  fun k i hi => hmade _ (h k i (hnow k i hi))

lemma Housed.write [DecidableEq κ] {dir : κ → δ} (h : d.Housed dir) (hk : (d.made (dir k)).now = true) (b : β) :
    (d.write k b).Housed dir := by
  intro k' i hi
  rw [write_made]
  by_cases hk' : k' = k
  · rw [hk']
    exact hk
  · rw [write_names_of_ne hk'] at hi
    exact h k' i hi

lemma Housed.rename [DecidableEq κ] {dir : κ → δ} (h : d.Housed dir) (ht : (d.made (dir target)).now = true) :
    (d.rename k target).Housed dir := by
  intro k' i hi
  by_cases ht' : k' = target
  · rw [ht']
    exact ht
  · have hk' : k' ≠ k := by
      rintro rfl
      rw [Disk.rename, remove_now] at hi
      cases hi
    rw [rename_names_of_ne hk' ht'] at hi
    exact h k' i hi

lemma housed_crash (d : Disk δ κ β) (dir : κ → δ) (cut : Cut δ κ) : (d.crash dir cut).Housed dir := by
  intro k i hi
  simp only [Disk.crash] at hi
  split at hi
  · assumption
  · cases hi

lemma apart_removeAll {p : κ → Bool} : (d.removeAll p).Apart (fun k => p k = true) := by
  have hnone : ∀ k i, p k = true → ((d.removeAll p).names k).now ≠ some i := by
    intro k i hk hi
    simp only [removeAll, hk, if_true] at hi
    cases hi
  exact ⟨fun k i hk hi => absurd hi (hnone k i hk), fun k i hk hi => absurd hi (hnone k i hk)⟩

end Invariants

section Lookup

variable {d} {dir : κ → δ} {k k' target : κ} {x : δ}

lemma Housed.lookup (h : d.Housed dir) (k : κ) :
    d.lookup dir k = (d.names k).now.map fun i => (d.contents i).now := by
  rw [Disk.lookup]
  split
  · rfl
  · rename_i hmade
    cases hk : (d.names k).now with
    | none => rfl
    | some i => exact absurd (h k i hk) hmade

lemma Housed.mkdir [DecidableEq δ] (h : d.Housed dir) (x : δ) : (d.mkdir x).Housed dir :=
  h.mono (by simp) fun _ => mkdir_made_mono

lemma Housed.lookup_mkdir [DecidableEq δ] (h : d.Housed dir) (x : δ) (k : κ) :
    (d.mkdir x).lookup dir k = d.lookup dir k := by
  rw [h.lookup, (h.mkdir x).lookup, mkdir_names, mkdir_contents]

lemma fsyncFile_now (d : Disk δ κ β) (k : κ) (i : ℕ) : ((d.fsyncFile k).contents i).now = (d.contents i).now := by
  rw [fsyncFile]
  split
  · rename_i j _
    by_cases hi : i = j
    · subst hi
      simp only [Function.update_self]
      rfl
    · simp only [Function.update_of_ne hi]
  · rfl

lemma lookup_fsyncFile (d : Disk δ κ β) (dir : κ → δ) (k k' : κ) :
    (d.fsyncFile k').lookup dir k = d.lookup dir k := by
  simp only [Disk.lookup, fsyncFile_made, fsyncFile_names, fsyncFile_now]

lemma lookup_fsyncDir [DecidableEq δ] (d : Disk δ κ β) (dir : κ → δ) (x : δ) (k : κ) :
    (d.fsyncDir dir x).lookup dir k = d.lookup dir k := by
  simp only [Disk.lookup, fsyncDir_now]
  rfl

lemma lookup_rename [DecidableEq κ] (h : d.Housed dir) (ht : (d.made (dir target)).now = true) (hne : target ≠ k')
    (k : κ) : (d.rename k' target).lookup dir k =
      if k = target then d.lookup dir k' else if k = k' then none else d.lookup dir k := by
  rw [(h.rename ht).lookup, h.lookup, h.lookup]
  split_ifs with hk hk'
  · rw [hk, rename_target hne]
    rfl
  · rw [hk', Disk.rename, remove_now]
    rfl
  · rw [rename_names_of_ne hk' hk]
    rfl

end Lookup

end Disk

end MavlinkLogService.Library
