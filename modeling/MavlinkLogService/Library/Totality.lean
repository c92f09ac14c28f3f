import MavlinkLogService.Library.Programs

/-! Total correctness of programs on an endless stream of inputs: a program ends if it returns after finitely
many of them, whatever follows. -/

namespace MavlinkLogService.Library

def slice {ι : Type*} (f : ℕ → ι) (k k' : ℕ) : List ι := (List.range' k (k' - k)).map f

section

variable {ι : Type*} {f : ℕ → ι} {k k' k'' : ℕ}

@[simp] lemma slice_self (f : ℕ → ι) (k : ℕ) : slice f k k = [] := by simp [slice]

@[simp] lemma length_slice (f : ℕ → ι) (k k' : ℕ) : (slice f k k').length = k' - k := by simp [slice]

lemma slice_cons (h : k < k') : slice f k k' = f k :: slice f (k + 1) k' := by
  obtain ⟨n, rfl⟩ : ∃ n, k' = k + 1 + n := ⟨k' - (k + 1), by omega⟩
  have hn : k + 1 + n - k = n + 1 := by omega
  simp [slice, hn, List.range'_succ]

lemma slice_append (h : k ≤ k') (h' : k' ≤ k'') : slice f k k' ++ slice f k' k'' = slice f k k'' := by
  have hk : k' = k + (k' - k) := by omega
  have hn : k'' - k = (k' - k) + (k'' - k') := by omega
  rw [slice, slice, slice, ← List.map_append, hn, ← List.range'_append_1, ← hk]

lemma mem_slice {i : ι} (h : i ∈ slice f k k') : ∃ n, f n = i := by
  obtain ⟨n, _, hn⟩ := List.mem_map.mp h
  exact ⟨n, hn⟩

end

namespace Prog

variable {σ ι : Type} {L : Law σ ι} {α β : Type} {f : ℕ → ι} {s : σ} {k : ℕ}

/-- Started in `s` at position `k` of the stream, `p` returns, and `Q` holds of what it returns, of the state
and of the position it has come to. -/
def Ends (f : ℕ → ι) (p : Prog L α) (s : σ) (k : ℕ) (Q : α → σ → ℕ → Prop) : Prop :=
  ∃ a s' k', k ≤ k' ∧ (∀ more, p.run s (slice f k k' ++ more) = some (a, s', more)) ∧ Q a s' k'

def Halts (f : ℕ → ι) (p : Prog L α) : Prop := ∀ s k, Ends f p s k fun _ _ _ => True

namespace Ends

variable {Q : α → σ → ℕ → Prop}

lemma mono {p : Prog L α} {Q' : α → σ → ℕ → Prop} (h : Ends f p s k Q)
    (hQ : ∀ a s' k', k ≤ k' → Q a s' k' → Q' a s' k') : Ends f p s k Q' := by
  obtain ⟨a, s', k', hk, hr, hq⟩ := h
  exact ⟨a, s', k', hk, hr, hQ a s' k' hk hq⟩

lemma pure {a : α} (h : Q a s k) : Ends f (Pure.pure a : Prog L α) s k Q :=
  ⟨a, s, k, le_rfl, fun more => by simp, h⟩

lemma get {Q : σ → σ → ℕ → Prop} (h : Q s s k) : Ends f (Prog.get : Prog L σ) s k Q :=
  ⟨s, s, k, le_rfl, fun more => by simp, h⟩

lemma modify {g : σ → σ} {hl : ∀ s, L.rel s [] (g s)} {Q : Unit → σ → ℕ → Prop} (h : Q () (g s) k) :
    Ends f (Prog.modify g hl) s k Q :=
  ⟨(), g s, k, le_rfl, fun more => by simp, h⟩

lemma next {deliver : ι → σ → σ} {hl : ∀ i s, L.rel s [i] (deliver i s)} {Q : ι → σ → ℕ → Prop}
    (h : Q (f k) (deliver (f k) s) (k + 1)) : Ends f (Prog.next deliver hl) s k Q :=
  ⟨f k, deliver (f k) s, k + 1, by omega, fun more => by simp [slice_cons], h⟩

lemma bind {p : Prog L β} {g : β → Prog L α} {M : β → σ → ℕ → Prop} (hp : Ends f p s k M)
    (hg : ∀ b s' k', k ≤ k' → M b s' k' → Ends f (g b) s' k' Q) : Ends f (p >>= g) s k Q := by
  obtain ⟨b, s₁, k₁, hk₁, hr₁, hm⟩ := hp
  obtain ⟨a, s₂, k₂, hk₂, hr₂, hq⟩ := hg b s₁ k₁ hk₁ hm
  refine ⟨a, s₂, k₂, hk₁.trans hk₂, fun more => ?_, hq⟩
  rw [← slice_append hk₁ hk₂, List.append_assoc, bind_run, hr₁, Option.bind_some]
  exact hr₂ more

lemma ite {c : Prop} [Decidable c] {p q : Prog L α} (hp : c → Ends f p s k Q) (hq : ¬ c → Ends f q s k Q) :
    Ends f (if c then p else q) s k Q := by
  split_ifs with h
  · exact hp h
  · exact hq h

lemma of_halts {p : Prog L α} (h : Halts f p) (hQ : ∀ a s' k', k ≤ k' → Q a s' k') : Ends f p s k Q :=
  (h s k).mono fun a s' k' hk _ => hQ a s' k' hk

lemma and_triple {p : Prog L α} {ok : ι → Prop} {P : σ → Prop} {R : α → σ → Prop} (h : Ends f p s k Q)
    (ht : Triple ok P p R) (hs : P s) (hok : ∀ n, ok (f n)) : Ends f p s k fun a s' k' => Q a s' k' ∧ R a s' := by
  obtain ⟨a, s', k', hk, hr, hq⟩ := h
  refine ⟨a, s', k', hk, hr, hq, ?_⟩
  have hall : ∀ i ∈ slice f k k', ok i := by
    intro i hi
    obtain ⟨n, rfl⟩ := mem_slice hi
    exact hok n
  exact (ht s _ a s' [] hs hall (by simpa using hr [])).1

def Goes (I : β → σ → ℕ → Prop) (μ : β → σ → ℕ → ℕ) (Q : α → σ → ℕ → Prop) (b : β) (s : σ) (k : ℕ) :
    β ⊕ α → σ → ℕ → Prop
  | .inl b', s', k' => k < k' ∧ I b' s' k' ∧ μ b' s' k' < μ b s k
  | .inr a, s', k' => Q a s' k'

lemma loop {body : β → Prog L (β ⊕ α)} {I : β → σ → ℕ → Prop} (μ : β → σ → ℕ → ℕ)
    (h : ∀ b s k, I b s k → Ends f (body b) s k (Goes I μ Q b s k)) (b : β) (hI : I b s k) :
    ∃ a s' k', k ≤ k' ∧
      (∀ n more, k' - k < n → (Prog.loop body n b).run s (slice f k k' ++ more) = some (a, s', more)) ∧ Q a s' k' := by
  -- strong induction on the measure; the rounds are counted by the inputs they use
  induction hm : μ b s k using Nat.strong_induction_on generalizing b s k with
  | h m ih =>
    obtain ⟨x, s₁, k₁, hk₁, hr₁, hx⟩ := h b s k hI
    cases x with
    | inl b' =>
      obtain ⟨hlt, hI', hμ⟩ := hx
      obtain ⟨a, s₂, k₂, hk₂, hr₂, hq⟩ := ih _ (hm ▸ hμ) b' hI' rfl
      refine ⟨a, s₂, k₂, hk₁.trans hk₂, fun n more hn => ?_, hq⟩
      obtain ⟨n, rfl⟩ : ∃ n', n = n' + 1 := ⟨n - 1, by omega⟩
      rw [← slice_append hk₁ hk₂, List.append_assoc, Prog.loop, bind_run, hr₁, Option.bind_some]
      exact hr₂ n more (by omega)
    | inr a =>
      refine ⟨a, s₁, k₁, hk₁, fun n more hn => ?_, hx⟩
      obtain ⟨n, rfl⟩ : ∃ n', n = n' + 1 := ⟨n - 1, by omega⟩
      rw [Prog.loop, bind_run, hr₁, Option.bind_some]
      rfl

lemma iterate {body : β → Prog L (β ⊕ α)} {I : β → σ → ℕ → Prop} (μ : β → σ → ℕ → ℕ)
    (h : ∀ b s k, I b s k → Ends f (body b) s k (Goes I μ Q b s k)) (b : β) (hI : I b s k) :
    Ends f (Prog.iterate body b) s k Q := by
  obtain ⟨a, s', k', hk, hr, hq⟩ := loop μ h b hI
  refine ⟨a, s', k', hk, fun more => ?_, hq⟩
  have hfuel : k' - k < (slice f k k' ++ more).length + 1 := by
    rw [List.length_append, length_slice]
    omega
  exact hr _ more hfuel

end Ends

namespace Halts

lemma pure (a : α) : Halts f (Pure.pure a : Prog L α) := fun _ _ => .pure trivial

lemma get : Halts f (Prog.get : Prog L σ) := fun _ _ => .get trivial

lemma modify {g : σ → σ} {hl : ∀ s, L.rel s [] (g s)} : Halts f (Prog.modify g hl) := fun _ _ => .modify trivial

lemma next {deliver : ι → σ → σ} {hl : ∀ i s, L.rel s [i] (deliver i s)} : Halts f (Prog.next deliver hl) :=
  fun _ _ => .next trivial

lemma bind {p : Prog L β} {g : β → Prog L α} (hp : Halts f p) (hg : ∀ b, Halts f (g b)) : Halts f (p >>= g) :=
  fun s k => .bind (hp s k) fun b s' k' _ _ => hg b s' k'

lemma ite {c : Prop} [Decidable c] {p q : Prog L α} (hp : Halts f p) (hq : Halts f q) :
    Halts f (if c then p else q) :=
  fun s k => .ite (fun _ => hp s k) fun _ => hq s k

lemma iterate_until (K : ℕ) {body : β → Prog L (β ⊕ α)}
    (h : ∀ b s k, Ends f (body b) s k fun x _ k' => ∀ b', x = .inl b' → k < k' ∧ k < K) (b : β) :
    Halts f (Prog.iterate body b) := by
  intro s k
  refine Ends.iterate (I := fun _ _ _ => True) (fun _ _ k => K - k) (fun b s k _ => ?_) b trivial
  refine (h b s k).mono ?_
  rintro (b' | a) s' k' _ hx
  · obtain ⟨hk', hK⟩ := hx b' rfl
    exact ⟨hk', trivial, Nat.sub_lt_sub_left hK hk'⟩
  · trivial

end Halts

end Prog

end MavlinkLogService.Library
