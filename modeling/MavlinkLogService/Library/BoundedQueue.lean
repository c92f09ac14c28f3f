import Mathlib.Tactic

/-! A queue of bounded length whose elements have keys: a new element drives out the oldest ones, and the
elements of one key are taken out together. A run is a list of operations on the empty queue. -/

namespace MavlinkLogService.Library.BoundedQueue

inductive Op (α κ : Type*)
  | push (a : α)
  | take (k : κ)
  | clear
  | idle

variable {α β κ : Type*}

def Op.map (f : α → β) : Op α κ → Op β κ
  | .push a => .push (f a)
  | .take k => .take k
  | .clear => .clear
  | .idle => .idle

def Op.pushed : Op α κ → List α
  | .push a => [a]
  | .take _ => []
  | .clear => []
  | .idle => []

def arrivals (ops : List (Op α κ)) : List α := ops.flatMap Op.pushed

def number (ops : List (Op α κ)) : List (Op (ℕ × α) κ) := ops.mapIdx fun i op => op.map (Prod.mk i)

lemma arrivals_snoc (ops : List (Op α κ)) (op : Op α κ) : arrivals (ops ++ [op]) = arrivals ops ++ op.pushed := by
  simp [arrivals]

lemma number_snoc (ops : List (Op α κ)) (op : Op α κ) :
    number (ops ++ [op]) = number ops ++ [op.map (Prod.mk ops.length)] := List.mapIdx_concat

lemma number_take (ops : List (Op α κ)) (j : ℕ) : (number ops).take j = number (ops.take j) := by
  apply List.ext_getElem?
  intro i
  simp only [number, List.getElem?_take, List.getElem?_mapIdx]
  split_ifs <;> rfl

lemma number_erase (ops : List (Op α κ)) : (number ops).map (Op.map Prod.snd) = ops := by
  induction ops using List.reverseRecOn with
  | nil => rfl
  | append_singleton ops op ih =>
    rw [number_snoc, List.map_append, ih]
    cases op <;> rfl

lemma mem_number {ops : List (Op α κ)} {x : ℕ × α} :
    x ∈ arrivals (number ops) ↔ ops[x.1]? = some (.push x.2) := by
  rw [arrivals, List.mem_flatMap]
  constructor
  · rintro ⟨_, hmem, hx⟩
    obtain ⟨i, hi⟩ := List.mem_iff_getElem?.mp hmem
    rw [number, List.getElem?_mapIdx] at hi
    obtain ⟨op, hop, rfl⟩ := Option.map_eq_some_iff.mp hi
    cases op with
    | push a =>
      obtain rfl := List.mem_singleton.mp hx
      exact hop
    | take k => cases hx
    | clear => cases hx
    | idle => cases hx
  · intro h
    refine ⟨.push x, List.mem_iff_getElem?.mpr ⟨x.1, ?_⟩, List.mem_singleton_self _⟩
    rw [number, List.getElem?_mapIdx, h]
    rfl

lemma lt_of_number {ops : List (Op α κ)} {x : ℕ × α} (h : x ∈ arrivals (number ops)) : x.1 < ops.length :=
  (List.getElem?_eq_some_iff.mp (mem_number.mp h)).1

lemma number_sorted (ops : List (Op α κ)) : ((arrivals (number ops)).map Prod.fst).Pairwise (· < ·) := by
  induction ops using List.reverseRecOn with
  | nil => exact List.Pairwise.nil
  | append_singleton ops op ih =>
    rw [number_snoc, arrivals_snoc, List.map_append, List.pairwise_append]
    refine ⟨ih, by cases op <;> simp [Op.map, Op.pushed], ?_⟩
    intro i hi j hj
    obtain ⟨x, hx, rfl⟩ := List.mem_map.mp hi
    have hlt := lt_of_number hx
    cases op <;> simp [Op.map, Op.pushed] at hj
    omega

variable (cap : ℕ)

def lost (q : List α) : Op α κ → List α
  | .push a => (q ++ [a]).take ((q ++ [a]).length - cap)
  | .take _ => []
  | .clear => q
  | .idle => []

lemma lost_subset {q : List α} {op : Op α κ} {a : α} (h : a ∈ lost cap q op) : a ∈ q ++ op.pushed := by
  cases op with
  | push b => exact List.mem_of_mem_take h
  | take k => cases h
  | clear => exact List.mem_append_left _ h
  | idle => cases h

variable [DecidableEq κ] (key : α → κ)

def step (q : List α) : Op α κ → List α
  | .push a => (q ++ [a]).drop ((q ++ [a]).length - cap)
  | .take k => q.filter fun a => !decide (key a = k)
  | .clear => []
  | .idle => q

def taken (q : List α) : Op α κ → List α
  | .push _ => []
  | .take k => q.filter fun a => decide (key a = k)
  | .clear => []
  | .idle => []

def after (ops : List (Op α κ)) : List α := ops.foldl (step cap key) []

def along (yield : List α → Op α κ → List α) (ops : List (Op α κ)) : List (List α) :=
  ops.mapIdx fun j op => yield (after cap key (ops.take j)) op

section step

lemma step_length {q : List α} (h : q.length ≤ cap) (op : Op α κ) : (step cap key q op).length ≤ cap := by
  cases op with
  | push a =>
    rw [step, List.length_drop]
    omega
  | take k => exact (List.length_filter_le _ _).trans h
  | clear => exact Nat.zero_le _
  | idle => exact h

lemma step_sublist (q : List α) (op : Op α κ) : (step cap key q op).Sublist (q ++ op.pushed) := by
  cases op with
  | push a => exact List.drop_sublist _ _
  | take k =>
    rw [Op.pushed, List.append_nil]
    exact List.filter_sublist
  | clear => exact List.nil_sublist _
  | idle => simp [step, Op.pushed]

lemma step_perm (q : List α) (op : Op α κ) :
    (q ++ op.pushed).Perm (taken key q op ++ (lost cap q op ++ step cap key q op)) := by
  cases op with
  | push a =>
    rw [taken, lost, step, List.take_append_drop]
    rfl
  | take k => simpa [taken, lost, step, Op.pushed] using (List.filter_append_perm (fun a => decide (key a = k)) q).symm
  | clear => simp [taken, lost, step, Op.pushed]
  | idle => simp [taken, lost, step, Op.pushed]

variable (key' : β → κ) {f : α → β} (hf : ∀ a, key' (f a) = key a)

include hf

lemma step_map (q : List α) (op : Op α κ) : step cap key' (q.map f) (op.map f) = (step cap key q op).map f := by
  cases op with
  | push a => simp [step, Op.map, List.map_drop]
  | take k => simp [step, Op.map, List.filter_map, Function.comp_def, hf]
  | clear => rfl
  | idle => rfl

lemma taken_map (q : List α) (op : Op α κ) : taken key' (q.map f) (op.map f) = (taken key q op).map f := by
  cases op with
  | take k => simp [taken, Op.map, List.filter_map, Function.comp_def, hf]
  | push a => rfl
  | clear => rfl
  | idle => rfl

end step

section run

variable (ops : List (Op α κ)) (op : Op α κ)

lemma after_snoc : after cap key (ops ++ [op]) = step cap key (after cap key ops) op := by
  rw [after, List.foldl_append]
  rfl

lemma along_snoc (yield : List α → Op α κ → List α) :
    along cap key yield (ops ++ [op]) = along cap key yield ops ++ [yield (after cap key ops) op] := by
  rw [along, List.mapIdx_concat, List.take_left, along]
  congr 1
  rw [List.mapIdx_eq_mapIdx_iff]
  intro j hj
  rw [List.take_append_of_le_length hj.le]

lemma after_length : (after cap key ops).length ≤ cap := by
  induction ops using List.reverseRecOn with
  | nil => exact Nat.zero_le _
  | append_singleton ops op ih =>
    rw [after_snoc]
    exact step_length cap key ih op

lemma after_sublist : (after cap key ops).Sublist (arrivals ops) := by
  induction ops using List.reverseRecOn with
  | nil => exact List.Sublist.slnil
  | append_singleton ops op ih =>
    rw [after_snoc, arrivals_snoc]
    exact (step_sublist cap key _ op).trans (ih.append (List.Sublist.refl _))

lemma arrivals_perm : (arrivals ops).Perm ((along cap key (taken key) ops).flatten ++
    ((along cap key (lost cap) ops).flatten ++ after cap key ops)) := by
  induction ops using List.reverseRecOn with
  | nil => rfl
  | append_singleton ops op ih =>
    have hstep := step_perm cap key (after cap key ops) op
    rw [arrivals_snoc, along_snoc, along_snoc, after_snoc, List.flatten_append, List.flatten_append]
    generalize after cap key ops = q at ih hstep ⊢
    generalize (along cap key (taken key) ops).flatten = T at ih ⊢
    generalize (along cap key (lost cap) ops).flatten = L at ih ⊢
    calc List.Perm (arrivals ops ++ op.pushed) (T ++ (L ++ q) ++ op.pushed) := ih.append_right _
      _ = T ++ (L ++ (q ++ op.pushed)) := by simp
      List.Perm _ (T ++ (L ++ (taken key q op ++ (lost cap q op ++ step cap key q op)))) :=
        (hstep.append_left L).append_left T
      List.Perm _ (T ++ (taken key q op ++ (L ++ (lost cap q op ++ step cap key q op)))) :=
        (List.perm_append_comm_assoc _ _ _).append_left T
      _ = _ := by simp

lemma mem_along {yield : List α → Op α κ → List α} {a : α} (h : a ∈ (along cap key yield ops).flatten) :
    ∃ j op, ops[j]? = some op ∧ a ∈ yield (after cap key (ops.take j)) op := by
  obtain ⟨l, hl, ha⟩ := List.mem_flatten.mp h
  obtain ⟨j, hj⟩ := List.mem_iff_getElem?.mp hl
  rw [along, List.getElem?_mapIdx] at hj
  obtain ⟨op, hop, rfl⟩ := Option.map_eq_some_iff.mp hj
  exact ⟨j, op, hop, ha⟩

variable (key' : β → κ) {f : α → β} (hf : ∀ a, key' (f a) = key a)

include hf

lemma after_map : after cap key' (ops.map (Op.map f)) = (after cap key ops).map f := by
  induction ops using List.reverseRecOn with
  | nil => rfl
  | append_singleton ops op ih =>
    rw [List.map_append, List.map_singleton, after_snoc, after_snoc, ih, step_map cap key key' hf]

lemma along_taken_map : along cap key' (taken key') (ops.map (Op.map f)) =
    (along cap key (taken key) ops).map (List.map f) := by
  induction ops using List.reverseRecOn with
  | nil => rfl
  | append_singleton ops op ih =>
    rw [List.map_append, List.map_singleton, along_snoc, along_snoc, ih, after_map cap key ops key' hf,
      taken_map key key' hf, List.map_append, List.map_singleton]

end run

section numbered

variable (ops : List (Op α κ))

def queued : List (ℕ × α) := after cap (fun x => key x.2) (number ops)

def drawn : List (List (ℕ × α)) := along cap (fun x => key x.2) (taken fun x => key x.2) (number ops)

lemma queued_erase : (queued cap key ops).map Prod.snd = after cap key ops := by
  have h := after_map cap (fun x => key x.2) (number ops) key (f := Prod.snd) fun _ => rfl
  rw [number_erase] at h
  exact h.symm

lemma drawn_erase : (drawn cap key ops).map (List.map Prod.snd) = along cap key (taken key) ops := by
  have h := along_taken_map cap (fun x => key x.2) (number ops) key (f := Prod.snd) fun _ => rfl
  rw [number_erase] at h
  exact h.symm

lemma queued_sorted : ((queued cap key ops).map Prod.fst).Pairwise (· < ·) :=
  (number_sorted ops).sublist ((after_sublist cap _ _).map Prod.fst)

lemma drawn_nodup : ((drawn cap key ops).flatten.map Prod.fst).Nodup := by
  have hnodup : ((arrivals (number ops)).map Prod.fst).Nodup := (number_sorted ops).imp ne_of_lt
  have hperm := (arrivals_perm cap (fun x => key x.2) (number ops)).map Prod.fst
  rw [List.map_append] at hperm
  exact (hperm.nodup_iff.mp hnodup).of_append_left

lemma mem_run {x : ℕ × α} (h : x ∈ (drawn cap key ops).flatten ∨ x ∈ queued cap key ops) :
    ops[x.1]? = some (.push x.2) := by
  apply mem_number.mp
  rw [(arrivals_perm cap (fun x => key x.2) (number ops)).mem_iff, List.mem_append, List.mem_append]
  rcases h with h | h
  · exact Or.inl h
  · exact Or.inr (Or.inr h)

lemma lost_of_missing {i : ℕ} {a : α} (h : ops[i]? = some (.push a)) (hdrawn : (i, a) ∉ (drawn cap key ops).flatten)
    (hqueued : (i, a) ∉ queued cap key ops) :
    ∃ j op, i ≤ j ∧ ops[j]? = some op ∧ (i, a) ∈ lost cap (queued cap key (ops.take j)) (op.map (Prod.mk j)) := by
  have hsplit := (arrivals_perm cap (fun x => key x.2) (number ops)).mem_iff.mp
    (mem_number (x := (i, a)) |>.mpr h)
  rw [List.mem_append, List.mem_append] at hsplit
  obtain ⟨j, _, hnumber, hlost⟩ := mem_along cap _ _ ((hsplit.resolve_left hdrawn).resolve_right hqueued)
  rw [number, List.getElem?_mapIdx] at hnumber
  obtain ⟨op, hop, rfl⟩ := Option.map_eq_some_iff.mp hnumber
  rw [number_take] at hlost
  refine ⟨j, op, ?_, hop, hlost⟩
  have hj : (ops.take j).length = j := by
    rw [List.length_take, min_eq_left (List.getElem?_eq_some_iff.mp hop).1.le]
  have hbefore : (i, a) ∈ arrivals (number (ops.take j ++ [op])) := by
    rw [number_snoc, arrivals_snoc, hj]
    rcases List.mem_append.mp (lost_subset cap hlost) with hq | hnew
    · exact List.mem_append_left _ ((after_sublist cap _ _).subset hq)
    · exact List.mem_append_right _ hnew
  have hlt := lt_of_number hbefore
  rw [List.length_append, hj] at hlt
  exact Nat.lt_succ_iff.mp hlt

end numbered

end MavlinkLogService.Library.BoundedQueue
