import MavlinkLogService.Storage.StorageManager

/-! Which archives the size limit removes. -/

namespace MavlinkLogService.Storage

open StorageManager

def bytesOf (files : List (Path × File)) : ℕ := (files.map fun e => e.2.bytes.length).sum

def runningTotal (total : ℕ) (removed : List (Path × File)) : ℕ := removed.foldl shrink total

@[simp] lemma bytesOf_nil : bytesOf [] = 0 := rfl

@[simp] lemma bytesOf_cons (e : Path × File) (files : List (Path × File)) :
    bytesOf (e :: files) = e.2.bytes.length + bytesOf files := by
  simp [bytesOf]

lemma bytesOf_perm {files files' : List (Path × File)} (h : files.Perm files') : bytesOf files = bytesOf files' :=
  (h.map _).sum_eq

lemma shrink_eq {e : Path × File} {files : List (Path × File)} (h : bytesOf (e :: files) < 2 ^ 64) :
    shrink (bytesOf (e :: files)) e = bytesOf files := by
  rw [bytesOf_cons] at h ⊢
  rw [shrink]
  omega

lemma runningTotal_eq (removed rest : List (Path × File)) (h : bytesOf (removed ++ rest) < 2 ^ 64) :
    runningTotal (bytesOf (removed ++ rest)) removed = bytesOf rest := by
  induction removed with
  | nil => rfl
  | cons e removed ih =>
    rw [List.cons_append] at h ⊢
    rw [runningTotal, List.foldl_cons, shrink_eq h]
    rw [bytesOf_cons] at h
    exact ih (by omega)

structure ShortestPrefix (limit : ℕ) (removed kept : List (Path × File)) : Prop where
  fits : bytesOf kept ≤ limit
  needed : ∀ before e after, removed = before ++ e :: after → limit < bytesOf (e :: after ++ kept)

lemma evict_shortest (limit : ℕ) {files : List (Path × File)} (h : bytesOf files < 2 ^ 64) :
    ∃ removed kept, files = removed ++ kept ∧ evict limit (bytesOf files) files = removed.map Prod.fst ∧
      ShortestPrefix limit removed kept := by
  induction files with
  | nil => exact ⟨[], [], rfl, rfl, Nat.zero_le _, by simp⟩
  | cons e files ih =>
    rw [evict]
    split_ifs with hfits
    · exact ⟨[], e :: files, rfl, rfl, hfits, by simp⟩
    · have hrest := shrink_eq h
      rw [bytesOf_cons] at h
      obtain ⟨removed, kept, hfiles, hevict, hshort⟩ := ih (by omega)
      refine ⟨e :: removed, kept, by rw [hfiles, List.cons_append], by rw [hrest, hevict, List.map_cons],
        hshort.fits, fun before e' after heq => ?_⟩
      cases before with
      | nil =>
        obtain ⟨rfl, rfl⟩ := List.cons.inj heq
        rw [List.cons_append, ← hfiles]
        exact not_le.mp hfits
      | cons b before => exact hshort.needed before e' after (List.cons.inj heq).2

namespace StorageManager

variable {settings : StorageSettings} {st : StorageManager}

lemma mem_verified {e : Path × File} : e ∈ st.verified ↔ st.files.lookup e.1 = some e.2 ∧ e.1.isArchive = true := by
  rw [verified, List.mem_filter, List.mem_map, ← Option.mem_def, AList.mem_lookup_iff]
  refine and_congr_left fun _ => ⟨?_, fun h => ⟨_, h, rfl⟩⟩
  rintro ⟨x, hx, rfl⟩
  exact hx

lemma verified_paths_nodup (st : StorageManager) : (st.verified.map Prod.fst).Nodup := by
  have hkeys : ((st.files.entries.map fun e => (e.1, e.2)).map Prod.fst).Nodup := by
    rw [List.map_map]
    exact st.files.nodupKeys
  exact hkeys.sublist (List.filter_sublist.map Prod.fst)

lemma removeAll_verified {paths : List Path} {removed kept : List (Path × File)}
    (hperm : (removed ++ kept).Perm st.verified) (hpaths : paths = removed.map Prod.fst) :
    ({ st with files := removeAll paths st.files } : StorageManager).verified.Perm kept := by
  have hnodup : ((removed ++ kept).map Prod.fst).Nodup := (hperm.map _).nodup_iff.mpr st.verified_paths_nodup
  rw [List.map_append] at hnodup
  rw [List.perm_ext_iff_of_nodup (verified_paths_nodup _).of_map hnodup.of_append_right.of_map]
  intro e
  rw [mem_verified, removeAll_lookup, hpaths]
  constructor
  · rintro ⟨hlookup, harchive⟩
    split_ifs at hlookup with hgone
    have hmem := hperm.mem_iff.mpr (mem_verified.mpr ⟨hlookup, harchive⟩)
    exact (List.mem_append.mp hmem).resolve_left fun h => hgone (List.mem_map_of_mem h)
  · intro hkept
    obtain ⟨hlookup, harchive⟩ := mem_verified.mp (hperm.mem_iff.mp (List.mem_append_right removed hkept))
    rw [if_neg fun h => hnodup.disjoint h (List.mem_map_of_mem hkept)]
    exact ⟨hlookup, harchive⟩

lemma oldest_sorted (files : List (Path × File)) :
    (files.insertionSort fun a b => a.2.mtime ≤ b.2.mtime).Pairwise fun a b => a.2.mtime ≤ b.2.mtime := by
  have htotal : Std.Total fun a b : Path × File => a.2.mtime ≤ b.2.mtime := ⟨fun a b => le_total a.2.mtime b.2.mtime⟩
  have htrans : IsTrans (Path × File) fun a b => a.2.mtime ≤ b.2.mtime := ⟨fun _ _ _ => le_trans⟩
  exact List.pairwise_insertionSort _ files

lemma maxBytes_eq (h₀ : 0 ≤ settings.maxSizeGb) (h : settings.maxSizeGb < 2 ^ 31) :
    (maxBytes settings : ℤ) = settings.maxSizeGb * 2 ^ 30 := by
  rw [maxBytes]
  omega

end StorageManager

theorem eviction_shortest_oldest_first (settings : StorageSettings) (h₀ : 0 ≤ settings.maxSizeGb)
    (hint : settings.maxSizeGb < 2 ^ 31) (st : StorageManager) (hsum : st.totalVerifiedBytes < 2 ^ 64)
    (listing : List Path) :
    ((st.enforceStorageLimit settings listing).totalVerifiedBytes : ℤ) ≤ settings.maxSizeGb * 2 ^ 30 ∧
      ∃ removed kept, (removed ++ kept).Perm st.verified ∧
        (∀ q, (st.enforceStorageLimit settings listing).files.lookup q =
          if q ∈ removed.map Prod.fst then none else st.files.lookup q) ∧
        (∀ r ∈ removed, ∀ k ∈ kept, r.2.mtime ≤ k.2.mtime) ∧
        (∀ before e after, removed = before ++ e :: after →
          settings.maxSizeGb * 2 ^ 30 < (bytesOf (e :: after ++ kept) : ℤ) ∧
            runningTotal st.totalVerifiedBytes before = bytesOf (e :: after ++ kept) ∧
            e.2.bytes.length ≤ runningTotal st.totalVerifiedBytes before) ∧
        ((st.totalVerifiedBytes : ℤ) ≤ settings.maxSizeGb * 2 ^ 30 → removed = []) := by
  set oldest := (st.verified.insertionSort fun a b => listing.idxOf a.1 ≤ listing.idxOf b.1).insertionSort
    fun a b => a.2.mtime ≤ b.2.mtime with holdest
  have hperm : oldest.Perm st.verified := (List.perm_insertionSort _ _).trans (List.perm_insertionSort _ _)
  have htotal : st.totalVerifiedBytes = bytesOf oldest := (bytesOf_perm hperm).symm
  obtain ⟨removed, kept, hsplit, hevict, hshort⟩ := evict_shortest (maxBytes settings) (htotal ▸ hsum)
  have hafter : st.enforceStorageLimit settings listing =
      { st with files := removeAll (removed.map Prod.fst) st.files } := by
    rw [← hevict, ← htotal, ← Nat.mod_eq_of_lt hsum]
    rfl
  have hlimit := maxBytes_eq h₀ hint
  have hsorted := oldest_sorted (st.verified.insertionSort fun a b => listing.idxOf a.1 ≤ listing.idxOf b.1)
  rw [← holdest, hsplit, List.pairwise_append] at hsorted
  rw [hsplit] at hperm htotal
  rw [htotal] at hsum ⊢
  refine ⟨?_, removed, kept, hperm, fun q => ?_, hsorted.2.2, fun before e after heq => ?_, fun hfits => ?_⟩
  · have hkept : (st.enforceStorageLimit settings listing).totalVerifiedBytes = bytesOf kept := by
      rw [hafter]
      exact bytesOf_perm (removeAll_verified hperm rfl)
    rw [hkept, ← hlimit]
    exact_mod_cast hshort.fits
  · rw [hafter]
    exact removeAll_lookup _ _ _
  · have hrunning : runningTotal (bytesOf (removed ++ kept)) before = bytesOf (e :: after ++ kept) := by
      rw [heq, List.append_assoc] at hsum ⊢
      exact runningTotal_eq before (e :: after ++ kept) hsum
    refine ⟨?_, hrunning, ?_⟩
    · rw [← hlimit]
      exact_mod_cast hshort.needed before e after heq
    · rw [hrunning, List.cons_append, bytesOf_cons]
      exact Nat.le_add_right _ _
  · -- the first file removed would show that the files do not fit
    by_contra hne
    obtain ⟨e, after, heq⟩ := List.exists_cons_of_ne_nil hne
    have hneeded := hshort.needed [] e after heq
    rw [← heq] at hneeded
    omega

theorem eviction_shortest_oldest_first_two_files :
    let older : Path := ⟨["logs", "2024-05-01"], "2024-05-01_10-00-00", ".bin"⟩
    let newer : Path := ⟨["logs", "2024-05-01"], "2024-05-01_11-00-00", ".bin"⟩
    let st := (({} : StorageManager).write newer ⟨[], 1⟩).write older ⟨[1, 2, 3], 0⟩
    let left := st.enforceStorageLimit ⟨0, fun _ => ⟨2024, 5, 1, 10, 0, 0⟩⟩ [newer, older]
    left.files.lookup older = none ∧ left.files.lookup newer = some ⟨[], 1⟩ ∧
      (left.totalVerifiedBytes : ℤ) ≤ 0 * 2 ^ 30 := by
  intro older newer st left
  refine ⟨by decide +kernel, by decide +kernel, ?_⟩
  exact (eviction_shortest_oldest_first ⟨0, fun _ => ⟨2024, 5, 1, 10, 0, 0⟩⟩ le_rfl (by norm_num) st (by decide +kernel)
    [newer, older]).1

end MavlinkLogService.Storage
