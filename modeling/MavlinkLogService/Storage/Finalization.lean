import MavlinkLogService.Storage.StorageManager

/-! Sequences of downloads that are begun, written and finalised over one storage directory. -/

namespace MavlinkLogService.Storage

open Library StorageManager

inductive Operation
  | begin (clock : ℤ)
  | write (q : Path) (file : File)
  | finalize (q : Path) (env : FinalizeEnv)
  deriving DecidableEq

variable {settings : StorageSettings}

def operate (settings : StorageSettings) (st : StorageManager) : Operation → Option StorageManager
  | .begin clock => some (st.beginPartialFile settings clock).2
  | .write q file => if q.isPartial then some (st.write q file) else none
  | .finalize q env => if q.isPartial then some (st.finalizePartial settings q env).2 else none

def Returns (settings : StorageSettings) (t : Transition StorageManager Operation) (q r : Path) : Prop :=
  ∃ env, t.event = .finalize q env ∧ (t.pre.finalizePartial settings q env).1 = some r

structure AddsOne (t : Transition StorageManager Operation) (q r : Path) : Prop where
  archive : r.isArchive = true
  new : t.pre.files.lookup r = none
  bytes : t.post.files.lookup r = t.pre.files.lookup q
  others : ∀ x, x.isArchive = true → x ≠ r → t.post.files.lookup x = t.pre.files.lookup x

/-- No two successful finalisations return one path, and each adds one archive, the bytes of its partial
file, to those that stay as they were. -/
def NothingLost (settings : StorageSettings) (ts : List (Transition StorageManager Operation)) : Prop :=
  (∀ t ∈ ts, ∀ q r, Returns settings t q r → AddsOne t q r) ∧
    ts.Pairwise (fun t u => ∀ q q' r r', Returns settings t q r → Returns settings u q' r' → r ≠ r')

def targetFree (settings : StorageSettings) (t : Transition StorageManager Operation) : Bool :=
  match t.event with
  | .finalize q env => !(env.fsyncOk && env.renameOk && (t.pre.files.lookup q).isSome) ||
      (t.pre.files.lookup (finalPath settings env)).isNone
  | _ => true

lemma beginPartialFile_isPartial (st : StorageManager) (clock : ℤ) :
    (st.beginPartialFile settings clock).1.isPartial = true := by
  simp [StorageManager.beginPartialFile, Path.isPartial]

lemma finalPath_isPartial (env : FinalizeEnv) : (finalPath settings env).isPartial = false := by
  simp [finalPath, Path.isPartial]

lemma archive_ne_partialPath {x q : Path} (hx : x.isArchive = true) (hq : q.isPartial = true) : x ≠ q := by
  rintro rfl
  simp only [Path.isArchive, Path.isPartial, Bool.and_eq_true, beq_iff_eq] at hx hq
  simp [hq.1] at hx

lemma returns_iff {t : Transition StorageManager Operation} {q r : Path} :
    Returns settings t q r ↔ ∃ env file, t.event = .finalize q env ∧ env.fsyncOk = true ∧
      env.renameOk = true ∧ t.pre.files.lookup q = some file ∧ r = finalPath settings env := by
  refine ⟨?_, ?_⟩
  · rintro ⟨env, he, hr⟩
    rw [finalizePartial] at hr
    cases hl : t.pre.files.lookup q with
    | none => simp [hl] at hr
    | some file =>
      simp only [hl] at hr
      split_ifs at hr with h₁ h₂ h₃
      · refine ⟨env, file, he, by simpa using h₁, by simpa using h₂, rfl, ?_⟩
        exact (Option.some.inj hr).symm
  · rintro ⟨env, file, he, h₁, h₂, hl, rfl⟩
    refine ⟨env, he, ?_⟩
    simp [finalizePartial, hl, h₁, h₂, rename]

lemma operate_finalize {t : Transition StorageManager Operation} {q r : Path}
    (hs : operate settings t.pre t.event = some t.post) (hr : Returns settings t q r) :
    q.isPartial = true ∧ ∃ file, t.pre.files.lookup q = some file ∧ r.isArchive = true ∧
      t.post = t.pre.rename q r file := by
  obtain ⟨env, he, hr⟩ := hr
  rw [he, operate] at hs
  split_ifs at hs with hq
  have hpost : t.pre.finalizePartial settings q env = (some r, t.post) := by
    rw [← hr, ← Option.some.inj hs]
  obtain ⟨file, hl, rfl, hp⟩ := finalizePartial_some hpost
  exact ⟨hq, file, hl, rfl, hp⟩

lemma addsOne {t : Transition StorageManager Operation} {q r : Path}
    (hs : operate settings t.pre t.event = some t.post) (hr : Returns settings t q r)
    (hfree : t.pre.files.lookup r = none) : AddsOne t q r := by
  obtain ⟨hq, file, hl, ha, hp⟩ := operate_finalize hs hr
  refine ⟨ha, hfree, ?_, ?_⟩
  · rw [hp, rename_lookup_target, hl]
  · intro x hx hne
    rw [hp, rename_lookup_other file hne (archive_ne_partialPath hx hq)]

lemma operate_keeps_archive {st st' : StorageManager} {op : Operation}
    (hs : operate settings st op = some st') {x : Path} (hx : x.isArchive = true)
    (hin : st.files.lookup x ≠ none) : st'.files.lookup x ≠ none := by
  cases op with
  | begin clock =>
    obtain rfl := Option.some.inj hs
    exact hin
  | write q file =>
    rw [operate] at hs
    split_ifs at hs with hq
    obtain rfl := Option.some.inj hs
    rw [write, AList.lookup_insert_ne (archive_ne_partialPath hx hq)]
    exact hin
  | finalize q env =>
    rw [operate] at hs
    split_ifs at hs with hq
    obtain ⟨⟨res, st₁⟩, hf⟩ : ∃ y, st.finalizePartial settings q env = y := ⟨_, rfl⟩
    rw [hf] at hs
    obtain rfl := Option.some.inj hs
    cases res with
    | none =>
      rw [finalizePartial_none hf]
      exact hin
    | some r =>
      obtain ⟨file, _, _, rfl⟩ := finalizePartial_some hf
      by_cases hxr : x = r
      · rw [hxr, rename_lookup_target]
        simp
      · rw [rename_lookup_other file hxr (archive_ne_partialPath hx hq)]
        exact hin

lemma returned_stays {s₀ st : StorageManager} {ts : List (Transition StorageManager Operation)}
    (h : Run (operate settings) s₀ ts st) {t : Transition StorageManager Operation} (ht : t ∈ ts)
    {q r : Path} (hr : Returns settings t q r) : st.files.lookup r ≠ none := by
  induction h with
  | nil => simp at ht
  | @snoc ts s e s' hrun he ih =>
    rcases List.mem_append.mp ht with ht | ht
    · obtain ⟨a, b, rfl⟩ := List.append_of_mem ht
      have harch := (operate_finalize (hrun.split rfl).2 hr).2
      obtain ⟨file, _, ha, _⟩ := harch
      exact operate_keeps_archive he ha (ih ht)
    · obtain rfl := List.mem_singleton.mp ht
      obtain ⟨_, file, _, _, hp⟩ := operate_finalize (t := ⟨s, e, s'⟩) he hr
      have hp' : s' = s.rename q r file := hp
      rw [hp', rename_lookup_target]
      simp

lemma targetFree_iff {t : Transition StorageManager Operation} :
    targetFree settings t = true ↔ ∀ q r, Returns settings t q r → t.pre.files.lookup r = none := by
  refine ⟨?_, ?_⟩
  · intro h q r hr
    obtain ⟨env, file, he, h₁, h₂, hl, rfl⟩ := returns_iff.mp hr
    simpa [targetFree, he, h₁, h₂, hl] using h
  · intro h
    cases he : t.event with
    | begin clock => simp [targetFree, he]
    | write q file => simp [targetFree, he]
    | finalize q env =>
      simp only [targetFree, he, Bool.or_eq_true, Bool.not_eq_true', Option.isNone_iff_eq_none]
      by_cases hok : (env.fsyncOk && env.renameOk && (t.pre.files.lookup q).isSome) = true
      · simp only [Bool.and_eq_true, Option.isSome_iff_exists] at hok
        obtain ⟨⟨h₁, h₂⟩, file, hl⟩ := hok
        exact Or.inr (h q _ (returns_iff.mpr ⟨env, file, he, h₁, h₂, hl, rfl⟩))
      · exact Or.inl (by simpa using hok)

theorem finalisation_adds_archives (settings : StorageSettings) (s₀ st : StorageManager)
    (ts : List (Transition StorageManager Operation)) (h : Run (operate settings) s₀ ts st) :
    NothingLost settings ts ↔ ∀ t ∈ ts, targetFree settings t = true := by
  refine ⟨?_, ?_⟩
  · intro hn t ht
    exact targetFree_iff.mpr (fun q r hr => (hn.1 t ht q r hr).new)
  · intro hfree
    have hnew : ∀ t ∈ ts, ∀ q r, Returns settings t q r → t.pre.files.lookup r = none :=
      fun t ht => targetFree_iff.mp (hfree t ht)
    refine ⟨?_, ?_⟩
    · intro t ht q r hr
      obtain ⟨a, b, rfl⟩ := List.append_of_mem ht
      exact addsOne (h.split rfl).2 hr (hnew t ht q r hr)
    · induction h with
      | nil => exact List.Pairwise.nil
      | @snoc ts s e s' hrun he ih =>
        rw [List.pairwise_append]
        refine ⟨?_, List.pairwise_singleton _ _, ?_⟩
        · apply ih
          · exact fun t ht => hfree t (List.mem_append_left _ ht)
          · exact fun t ht => hnew t (List.mem_append_left _ ht)
        · intro t ht u hu q q' r r' hr hr' heq
          obtain rfl := List.mem_singleton.mp hu
          apply returned_stays hrun ht hr
          rw [heq]
          exact hnew _ (by simp) q' r' hr'

def epochDay (t : ℤ) : Tm := ⟨1970, 1, 1, (t / 3600).toNat, (t / 60 % 60).toNat, (t % 60).toNat⟩

def epochSettings : StorageSettings := { localtime := epochDay }

def archiveTwo (first second : ℤ) : List Operation :=
  let begun : StorageManager := {}
  let p := (begun.beginPartialFile epochSettings first).1
  let q := ((begun.beginPartialFile epochSettings first).2.beginPartialFile epochSettings second).1
  [.begin first, .write p ⟨[1], 0⟩, .finalize p ⟨first, first, true, true⟩,
    .begin second, .write q ⟨[2], 0⟩, .finalize q ⟨second, second, true, true⟩]

theorem finalisation_adds_archives_two_seconds :
    ∃ x, Run.exec (operate epochSettings) {} (archiveTwo 0 1) = some x ∧
      NothingLost epochSettings x.1 ∧ x.2.verified.length = 2 := by
  refine exists_of_any (fun x => x.2.verified.length = 2 ∧ ∀ t ∈ x.1, targetFree epochSettings t = true)
    (by decide +kernel) ?_
  rintro x hx ⟨hlen, hfree⟩
  exact ⟨(finalisation_adds_archives _ _ _ _ (Run.of_exec hx)).mpr hfree, hlen⟩

theorem same_second_replaces_archive :
    ∃ x, Run.exec (operate epochSettings) {} (archiveTwo 0 0) = some x ∧
      Run (operate epochSettings) {} x.1 x.2 ∧ ¬ NothingLost epochSettings x.1 ∧
      x.2.verified.map (fun e => e.2.bytes) = [[2]] := by
  refine exists_of_any (fun x => x.2.verified.map (fun e => e.2.bytes) = [[2]] ∧
    ∃ t ∈ x.1, targetFree epochSettings t = false) (by decide +kernel) ?_
  rintro x hx ⟨hbytes, t, ht, htaken⟩
  refine ⟨Run.of_exec hx, ?_, hbytes⟩
  intro hn
  have hfree := targetFree_iff.mpr (fun q r hr => (hn.1 t ht q r hr).new)
  rw [htaken] at hfree
  cases hfree

end MavlinkLogService.Storage
