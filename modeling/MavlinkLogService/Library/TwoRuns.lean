import MavlinkLogService.Library.Watched

/-! Two runs of one program: on inputs that agree as far as the program reads them, and on inputs and
states that differ only in what the program does not look at. -/

namespace MavlinkLogService.Library

namespace Prog

variable {σ ι α β : Type} {L : Law σ ι}

def Local (p : Prog L α) : Prop :=
  ∀ (s s' : σ) (used rest : List ι) (a : α), p.run s (used ++ rest) = some (a, s', rest) →
    ∀ rest', p.run s (used ++ rest') = some (a, s', rest')

def Hungry (p : Prog L α) : Prop :=
  ∀ (s s' : σ) (is is' : List ι) (a : α), p.run s is = some (a, s', is') → is'.length < is.length

lemma bind_split {p : Prog L β} {f : β → Prog L α} {s s' : σ} {used rest : List ι} {a : α}
    (h : (p >>= f).run s (used ++ rest) = some (a, s', rest)) :
    ∃ b s₁ u v, used = u ++ v ∧ p.run s (u ++ (v ++ rest)) = some (b, s₁, v ++ rest) ∧
      (f b).run s₁ (v ++ rest) = some (a, s', rest) := by
  obtain ⟨b, s₁, is₁, hp, hf⟩ := bind_returns h
  obtain ⟨u, hu, _⟩ := p.lawful hp
  obtain ⟨v, rfl, _⟩ := (f b).lawful hf
  rw [← List.append_assoc, List.append_left_inj] at hu
  subst hu
  exact ⟨b, s₁, u, v, rfl, by rwa [List.append_assoc] at hp, hf⟩

namespace Local

lemma pure (a : α) : Local (Pure.pure a : Prog L α) := by
  intro s s' used rest b h rest'
  simp only [pure_run, Option.some.injEq, Prod.mk.injEq] at h
  obtain ⟨rfl, rfl, hu⟩ := h
  obtain rfl : used = [] := by simpa using hu
  rfl

lemma get : Local (Prog.get : Prog L σ) := by
  intro s s' used rest b h rest'
  simp only [get_run, Option.some.injEq, Prod.mk.injEq] at h
  obtain ⟨rfl, rfl, hu⟩ := h
  obtain rfl : used = [] := by simpa using hu
  rfl

lemma modify (f : σ → σ) (hl : ∀ s, L.rel s [] (f s)) : Local (Prog.modify f hl) := by
  intro s s' used rest b h rest'
  simp only [modify_run, Option.some.injEq, Prod.mk.injEq, true_and] at h
  obtain ⟨rfl, hu⟩ := h
  obtain rfl : used = [] := by simpa using hu
  rfl

lemma next (deliver : ι → σ → σ) (hl : ∀ i s, L.rel s [i] (deliver i s)) : Local (Prog.next deliver hl) := by
  intro s s' used rest i h rest'
  obtain ⟨hu, rfl⟩ := next_returns h
  obtain rfl : used = [i] := List.append_cancel_right (hu.trans (List.singleton_append).symm)
  rfl

lemma bind {p : Prog L β} {f : β → Prog L α} (hp : Local p) (hf : ∀ b, Local (f b)) : Local (p >>= f) := by
  intro s s' used rest a h rest'
  obtain ⟨b, s₁, u, v, rfl, hp₁, hf₁⟩ := bind_split h
  rw [bind_run, List.append_assoc, hp _ _ _ _ _ hp₁ (v ++ rest')]
  exact hf b _ _ _ _ _ hf₁ rest'

lemma ite {c : Prop} [Decidable c] {p q : Prog L α} (hp : Local p) (hq : Local q) :
    Local (if c then p else q) := by
  split_ifs
  · exact hp
  · exact hq

lemma loop {body : β → Prog L (β ⊕ α)} (h : ∀ b, Local (body b)) (hh : ∀ b, Hungry (body b)) {n m : ℕ} {b : β}
    {s s' : σ} {used rest : List ι} {a : α} (hr : (Prog.loop body n b).run s (used ++ rest) = some (a, s', rest))
    (hm : used.length < m) (rest' : List ι) : (Prog.loop body m b).run s (used ++ rest') = some (a, s', rest') := by
  induction n generalizing m b s used with
  | zero => simp [Prog.loop] at hr
  | succ n ih =>
    obtain ⟨m, rfl⟩ : ∃ k, m = k + 1 := ⟨m - 1, by omega⟩
    obtain ⟨x, s₁, u, v, rfl, hb, hx⟩ := bind_split hr
    rw [Prog.loop, bind_run, List.append_assoc, h b _ _ _ _ _ hb (v ++ rest')]
    have hlt := hh b _ _ _ _ _ hb
    simp only [List.length_append] at hlt hm
    cases x with
    | inl b' => exact ih hx (by omega)
    | inr a' => exact pure a' _ _ _ _ _ hx rest'

lemma iterate {body : β → Prog L (β ⊕ α)} (h : ∀ b, Local (body b)) (hh : ∀ b, Hungry (body b)) (b : β) :
    Local (Prog.iterate body b) := by
  intro s s' used rest a hr rest'
  have hr' : (Prog.loop body ((used ++ rest).length + 1) b).run s (used ++ rest) = some (a, s', rest) := hr
  change (Prog.loop body ((used ++ rest').length + 1) b).run s (used ++ rest') = some (a, s', rest')
  exact loop h hh hr' (by rw [List.length_append]; omega) rest'

end Local

lemma Hungry.next_bind {deliver : ι → σ → σ} {hl : ∀ i s, L.rel s [i] (deliver i s)} {f : ι → Prog L α} :
    Hungry (Prog.next deliver hl >>= f) := by
  intro s s' is is' a h
  obtain ⟨i, s₁, is₁, hn, hf⟩ := bind_returns h
  obtain ⟨rfl, _⟩ := next_returns hn
  obtain ⟨v, rfl, _⟩ := (f i).lawful hf
  simp only [List.length_cons, List.length_append]
  omega

section

variable (q : σ → σ) (k : ι → ι)

/-- Wherever `p` returns as `P` says, `p'` returns the same from the images of the state and the inputs, and
leaves the images of the new state and of the unused inputs. -/
def Mirrors (P : α → Prop) (p p' : Prog L α) : Prop :=
  ∀ (s s' : σ) (is is' : List ι) (a : α), p.run s is = some (a, s', is') → P a →
    p'.run (q s) (is.map k) = some (a, q s', is'.map k)

end

namespace Mirrors

variable {q : σ → σ} {k : ι → ι} {P : α → Prop}

lemma pure (a : α) : Mirrors q k P (Pure.pure a : Prog L α) (Pure.pure a) := by
  intro s s' is is' b h _
  simp only [pure_run, Option.some.injEq, Prod.mk.injEq] at h
  obtain ⟨rfl, rfl, rfl⟩ := h
  rfl

lemma modify {f : σ → σ} {hl : ∀ s, L.rel s [] (f s)} {P : Unit → Prop} (h : ∀ s, f (q s) = q (f s)) :
    Mirrors q k P (Prog.modify f hl) (Prog.modify f hl) := by
  intro s s' is is' b hr _
  simp only [modify_run, Option.some.injEq, Prod.mk.injEq, true_and] at hr
  obtain ⟨rfl, rfl⟩ := hr
  rw [modify_run, h]

lemma bind {p p' : Prog L β} {f f' : β → Prog L α} {R : β → Prop} (hp : Mirrors q k R p p')
    (hf : ∀ b, R b → Mirrors q k P (f b) (f' b))
    (hskip : ∀ b s is a s' is', (f b).run s is = some (a, s', is') → P a → R b) :
    Mirrors q k P (p >>= f) (p' >>= f') := by
  intro s s' is is' a hr ha
  obtain ⟨b, s₁, is₁, hp₁, hf₁⟩ := bind_returns hr
  have hb := hskip b s₁ is₁ a s' is' hf₁ ha
  rw [bind_run, hp _ _ _ _ _ hp₁ hb]
  exact hf b hb _ _ _ _ _ hf₁ ha

lemma seq {p p' : Prog L β} {f f' : β → Prog L α} (hp : Mirrors q k (fun _ => True) p p')
    (hf : ∀ b, Mirrors q k P (f b) (f' b)) : Mirrors q k P (p >>= f) (p' >>= f') :=
  bind hp (fun b _ => hf b) fun _ _ _ _ _ _ _ _ => trivial

lemma next_bind {deliver : ι → σ → σ} {hl : ∀ i s, L.rel s [i] (deliver i s)}
    (hd : ∀ i s, deliver (k i) (q s) = q (deliver i s)) {f f' : ι → Prog L α}
    (hf : ∀ i, Mirrors q k P (f i) (f' (k i))) :
    Mirrors q k P (Prog.next deliver hl >>= f) (Prog.next deliver hl >>= f') := by
  intro s s' is is' a hr ha
  obtain ⟨i, s₁, is₁, hn, hf₁⟩ := bind_returns hr
  obtain ⟨rfl, rfl⟩ := next_returns hn
  rw [bind_run, List.map_cons, next_run, hd]
  exact hf i _ _ _ _ _ hf₁ ha

lemma get_bind {f f' : σ → Prog L α} (hf : ∀ s, Mirrors q k P (f s) (f' (q s))) :
    Mirrors q k P (Prog.get >>= f) (Prog.get >>= f') := by
  intro s s' is is' a hr ha
  rw [bind_run, get_run] at hr ⊢
  exact hf s _ _ _ _ _ hr ha

lemma ite {c : Prop} [Decidable c] {p p' r r' : Prog L α} (hp : c → Mirrors q k P p p')
    (hr : ¬ c → Mirrors q k P r r') : Mirrors q k P (if c then p else r) (if c then p' else r') := by
  split_ifs with h
  · exact hp h
  · exact hr h

end Mirrors

end Prog

namespace Watched

variable {σ ι ω α β : Type} {L : Law σ ι}

/-- Wherever `p` returns and all that is seen of it satisfies `R`, `p'` returns the same from the images of the
state and the inputs, and leaves the images of the new state and of the unused inputs. -/
def Mirrors (R : ω → Prop) (q : σ → σ) (k : ι → ι) (p : Watched L ω α) (p' : Prog L α) : Prop :=
  ∀ (s s' : σ) (is is' : List ι) (a : α), p.prog.run s is = some (a, s', is') → (∀ x ∈ p.seen s is, R x) →
    p'.run (q s) (is.map k) = some (a, q s', is'.map k)

namespace Mirrors

variable {R : ω → Prop} {q : σ → σ} {k : ι → ι}

lemma mirrored {p : Watched L ω α} {p' : Prog L α} (h : Prog.Mirrors q k (fun _ => True) p.prog p') :
    Mirrors R q k p p' :=
  fun s s' is is' a hr _ => h s s' is is' a hr trivial

lemma bind {p : Watched L ω β} {p' : Prog L β} {f : β → Watched L ω α} {f' : β → Prog L α}
    (hp : Mirrors R q k p p') (hf : ∀ b, Mirrors R q k (f b) (f' b)) : Mirrors R q k (p >>= f) (p' >>= f') := by
  intro s s' is is' a hr hseen
  obtain ⟨b, s₁, is₁, hp₁, hf₁⟩ := Prog.bind_returns hr
  rw [seen_returned hp₁] at hseen
  rw [Prog.bind_run, hp s s₁ is is₁ b hp₁ fun x hx => hseen x (List.mem_append_left _ hx)]
  exact hf b _ _ _ _ _ hf₁ fun x hx => hseen x (List.mem_append_right _ hx)

lemma next_bind {deliver : ι → σ → σ} {hl : ∀ i s, L.rel s [i] (deliver i s)}
    (hd : ∀ i s, deliver (k i) (q s) = q (deliver i s)) {f : ι → Watched L ω α} {f' : ι → Prog L α}
    (hf : ∀ i, Mirrors R q k (f i) (f' (k i))) :
    Mirrors R q k (quiet (Prog.next deliver hl) >>= f) (Prog.next deliver hl >>= f') := by
  intro s s' is is' a hr hseen
  obtain ⟨i, s₁, is₁, hn, hf₁⟩ := Prog.bind_returns hr
  rw [seen_returned hn] at hseen
  have hnext : (Prog.next deliver hl).run s is = some (i, s₁, is₁) := hn
  obtain ⟨rfl, rfl⟩ := Prog.next_returns hnext
  rw [Prog.bind_run, List.map_cons, Prog.next_run, hd]
  exact hf i _ _ _ _ _ hf₁ fun x hx => hseen x (List.mem_append_right _ hx)

lemma ite {c : Prop} [Decidable c] {p r : Watched L ω α} {p' r' : Prog L α} (hp : c → Mirrors R q k p p')
    (hr : ¬ c → Mirrors R q k r r') : Mirrors R q k (if c then p else r) (if c then p' else r') := by
  split_ifs with h
  · exact hp h
  · exact hr h

lemma iterate {body : β → Watched L ω (β ⊕ α)} {body' : β → Prog L (β ⊕ α)}
    (h : ∀ b, Mirrors R q k (body b) (body' b)) (b : β) :
    Mirrors R q k (Watched.iterate body b) (Prog.iterate body' b) := by
  have hloop : ∀ n b, Mirrors R q k (loop body n b) (Prog.loop body' n b) := by
    intro n
    induction n with
    | zero =>
      intro b s s' is is' a hr
      simp [loop, quiet, Prog.loop] at hr
    | succ n ih =>
      refine fun b => bind (h b) fun x => ?_
      cases x with
      | inl b' => exact ih b'
      | inr a => exact .mirrored (.pure a)
  intro s s' is is' a hr hseen
  change (Prog.loop body' ((is.map k).length + 1) b).run (q s) (is.map k) = _
  rw [List.length_map]
  refine hloop _ b s s' is is' a ?_ hseen
  rw [loop_prog]
  exact hr

end Mirrors

end Watched

end MavlinkLogService.Library
