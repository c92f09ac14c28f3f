import Mathlib.Tactic

/-! Sequential programs over a state `σ` that consume one input of type `ι` at every interaction
with their environment. A program that needs more inputs than it was given has no result yet. Every
program obeys a law that relates the states before and after it to the inputs it has used. -/

namespace MavlinkLogService.Library

structure Law (σ ι : Type) where
  rel : σ → List ι → σ → Prop
  refl : ∀ s, rel s [] s
  trans : ∀ {s s' s'' : σ} {u v : List ι}, rel s u s' → rel s' v s'' → rel s (u ++ v) s''

structure Prog {σ ι : Type} (L : Law σ ι) (α : Type) where
  run : σ → List ι → Option (α × σ × List ι)
  lawful : ∀ {s s' : σ} {is is' : List ι} {a : α}, run s is = some (a, s', is') →
    ∃ used, is = used ++ is' ∧ L.rel s used s'

namespace Prog

variable {σ ι α β : Type} {L : Law σ ι}

def ret (a : α) : Prog L α where
  run s is := some (a, s, is)
  lawful h := by
    simp only [Option.some.injEq, Prod.mk.injEq] at h
    obtain ⟨_, rfl, rfl⟩ := h
    exact ⟨[], rfl, L.refl _⟩

def andThen (p : Prog L β) (f : β → Prog L α) : Prog L α where
  run s is := match p.run s is with
    | none => none
    | some (b, s', is') => (f b).run s' is'
  lawful {s s' is is' a} h := by
    cases hp : p.run s is with
    | none => simp [hp] at h
    | some x =>
      simp only [hp] at h
      obtain ⟨u, hu, hr⟩ := p.lawful hp
      obtain ⟨v, hv, hr'⟩ := (f x.1).lawful h
      exact ⟨u ++ v, by rw [hu, hv, List.append_assoc], L.trans hr hr'⟩

instance : Monad (Prog L) where
  pure := ret
  bind := andThen

def get : Prog L σ where
  run s is := some (s, s, is)
  lawful h := by
    simp only [Option.some.injEq, Prod.mk.injEq] at h
    obtain ⟨_, rfl, rfl⟩ := h
    exact ⟨[], rfl, L.refl _⟩

def modify (f : σ → σ) (h : ∀ s, L.rel s [] (f s)) : Prog L Unit where
  run s is := some ((), f s, is)
  lawful hr := by
    simp only [Option.some.injEq, Prod.mk.injEq, true_and] at hr
    obtain ⟨rfl, rfl⟩ := hr
    exact ⟨[], rfl, h _⟩

def next (deliver : ι → σ → σ) (h : ∀ i s, L.rel s [i] (deliver i s)) : Prog L ι where
  run s
    | [] => none
    | i :: is => some (i, deliver i s, is)
  lawful {s s' is is' i} hr := by
    cases is with
    | nil => simp at hr
    | cons j js =>
      simp only [Option.some.injEq, Prod.mk.injEq] at hr
      obtain ⟨rfl, rfl, rfl⟩ := hr
      exact ⟨[j], rfl, h j s⟩

def loop (body : β → Prog L (β ⊕ α)) : ℕ → β → Prog L α
  | 0, _ => ⟨fun _ _ => none, fun h => by cases h⟩
  | n + 1, b => do
    match ← body b with
    | .inl b' => loop body n b'
    | .inr a => pure a

def iterate (body : β → Prog L (β ⊕ α)) (b : β) : Prog L α where
  run s is := (loop body (is.length + 1) b).run s is
  lawful h := (loop body _ b).lawful h

variable {s s' : σ} {is is' : List ι} {a : α} {r : α × σ × List ι}

@[simp] lemma pure_run : (pure a : Prog L α).run s is = some (a, s, is) := rfl

@[simp] lemma get_run : (get : Prog L σ).run s is = some (s, s, is) := rfl

@[simp] lemma modify_run (f : σ → σ) (h : ∀ s, L.rel s [] (f s)) :
    (modify f h).run s is = some ((), f s, is) := rfl

lemma bind_run (p : Prog L β) (f : β → Prog L α) : (p >>= f).run s is =
    (p.run s is).bind (fun x => (f x.1).run x.2.1 x.2.2) := by
  change (match p.run s is with | none => none | some (b, s', is') => (f b).run s' is') = _
  cases p.run s is <;> rfl

@[simp] lemma next_run (deliver : ι → σ → σ) (h : ∀ i s, L.rel s [i] (deliver i s)) (i : ι) :
    (next deliver h).run s (i :: is) = some (i, deliver i s, is) := rfl

lemma iterate_stops {body : β → Prog L (β ⊕ α)} {b : β} (h : (body b).run s is = some (.inr a, s', is')) :
    (iterate body b).run s is = some (a, s', is') := by
  change (loop body (is.length + 1) b).run s is = _
  rw [loop, bind_run, h]
  rfl

lemma bind_returns {p : Prog L β} {f : β → Prog L α} (h : (p >>= f).run s is = some r) :
    ∃ b s₁ is₁, p.run s is = some (b, s₁, is₁) ∧ (f b).run s₁ is₁ = some r := by
  rw [bind_run, Option.bind_eq_some_iff] at h
  obtain ⟨⟨b, s₁, is₁⟩, hp, hf⟩ := h
  exact ⟨b, s₁, is₁, hp, hf⟩

lemma bind_map {γ : Type} {p : Prog L β} {f : β → Prog L α} {g : β → Prog L γ} (h : γ → α)
    (hf : ∀ b s is, (f b).run s is = ((g b).run s is).map fun x => (h x.1, x.2)) (s : σ) (is : List ι) :
    (p >>= f).run s is = ((p >>= g).run s is).map fun x => (h x.1, x.2) := by
  rw [bind_run, bind_run, Option.map_bind]
  exact congrArg _ (funext fun x => hf x.1 x.2.1 x.2.2)

lemma next_returns {deliver : ι → σ → σ} {hd : ∀ i s, L.rel s [i] (deliver i s)} {i : ι}
    (h : (next deliver hd).run s is = some (i, s', is')) : is = i :: is' ∧ s' = deliver i s := by
  cases is with
  | nil => simp [next] at h
  | cons j js =>
    simp only [next, Option.some.injEq, Prod.mk.injEq] at h
    obtain ⟨rfl, rfl, rfl⟩ := h
    exact ⟨rfl, rfl⟩

/-- Partial correctness: whenever `p` returns, started where `P` holds and on inputs that are all
`ok`, then `Q` holds of what it returns and of the state. -/
def Triple (ok : ι → Prop) (P : σ → Prop) (p : Prog L α) (Q : α → σ → Prop) : Prop :=
  ∀ s is a s' is', P s → (∀ i ∈ is, ok i) → p.run s is = some (a, s', is') →
    Q a s' ∧ ∀ i ∈ is', ok i

namespace Triple

variable {ok : ι → Prop} {P : σ → Prop} {Q : α → σ → Prop}

lemma pure (h : ∀ s, P s → Q a s) : Triple ok P (Pure.pure a : Prog L α) Q := by
  intro s is b s' is' hs hok hr
  simp only [pure_run, Option.some.injEq, Prod.mk.injEq] at hr
  obtain ⟨rfl, rfl, rfl⟩ := hr
  exact ⟨h s hs, hok⟩

lemma get {Q : σ → σ → Prop} (h : ∀ s, P s → Q s s) : Triple ok P (Prog.get : Prog L σ) Q := by
  intro s is b s' is' hs hok hr
  simp only [get_run, Option.some.injEq, Prod.mk.injEq] at hr
  obtain ⟨rfl, rfl, rfl⟩ := hr
  exact ⟨h s hs, hok⟩

lemma modify {f : σ → σ} {hl : ∀ s, L.rel s [] (f s)} {Q : Unit → σ → Prop} (h : ∀ s, P s → Q () (f s)) :
    Triple ok P (Prog.modify f hl) Q := by
  intro s is b s' is' hs hok hr
  simp only [modify_run, Option.some.injEq, Prod.mk.injEq] at hr
  obtain ⟨_, rfl, rfl⟩ := hr
  exact ⟨h s hs, hok⟩

lemma next {deliver : ι → σ → σ} {hl : ∀ i s, L.rel s [i] (deliver i s)} {Q : ι → σ → Prop}
    (h : ∀ i s, ok i → P s → Q i (deliver i s)) : Triple ok P (Prog.next deliver hl) Q := by
  intro s is i s' is' hs hok hr
  obtain ⟨rfl, rfl⟩ := next_returns hr
  exact ⟨h i s (hok i List.mem_cons_self) hs, fun j hj => hok j (List.mem_cons_of_mem i hj)⟩

lemma bind {p : Prog L β} {f : β → Prog L α} {M : β → σ → Prop} (hp : Triple ok P p M)
    (hf : ∀ b, Triple ok (M b) (f b) Q) : Triple ok P (p >>= f) Q := by
  intro s is a s' is' hs hok hr
  obtain ⟨b, s₁, is₁, hp₁, hf₁⟩ := bind_returns hr
  obtain ⟨hm, hok₁⟩ := hp s is b s₁ is₁ hs hok hp₁
  exact hf b s₁ is₁ a s' is' hm hok₁ hf₁

lemma any (p : Prog L α) : Triple ok P p (fun _ _ => True) := by
  intro s is a s' is' _ hok hr
  obtain ⟨used, rfl, _⟩ := p.lawful hr
  exact ⟨trivial, fun i hi => hok i (List.mem_append_right used hi)⟩

lemma weaken {p : Prog L α} {P' : σ → Prop} {Q' : α → σ → Prop} (h : Triple ok P' p Q')
    (hP : ∀ s, P s → P' s) (hQ : ∀ a s, Q' a s → Q a s) : Triple ok P p Q := by
  intro s is a s' is' hs hok hr
  obtain ⟨hq, hok'⟩ := h s is a s' is' (hP s hs) hok hr
  exact ⟨hQ a s' hq, hok'⟩

lemma assume {p : Prog L α} {ok' : ι → Prop} (h : Triple ok P p Q) (hi : ∀ i, ok' i → ok i) :
    Triple ok' P p Q := by
  intro s is a s' is' hs hok hr
  obtain ⟨used, rfl, _⟩ := p.lawful hr
  exact ⟨(h s _ a s' is' hs (fun i hm => hi i (hok i hm)) hr).1, fun i hm => hok i (List.mem_append_right used hm)⟩

lemma given {p : Prog L α} {φ : Prop} (h : φ → Triple ok P p Q) : Triple ok (fun s => φ ∧ P s) p Q :=
  fun s is a s' is' hs => h hs.1 s is a s' is' hs.2

lemma ite {c : Prop} [Decidable c] {p q : Prog L α} (hp : c → Triple ok P p Q)
    (hq : ¬ c → Triple ok P q Q) : Triple ok P (if c then p else q) Q := by
  split_ifs with h
  · exact hp h
  · exact hq h

lemma loop {body : β → Prog L (β ⊕ α)} {I : β → σ → Prop}
    (h : ∀ b, Triple ok (I b) (body b) (fun x s => Sum.elim (fun b' => I b' s) (fun a => Q a s) x))
    (n : ℕ) (b : β) : Triple ok (I b) (Prog.loop body n b) Q := by
  induction n generalizing b with
  | zero =>
    intro s is a s' is' _ _ hr
    simp [Prog.loop] at hr
  | succ n ih =>
    refine bind (h b) ?_
    rintro (b' | a)
    · exact ih b'
    · exact pure (fun _ hs => hs)

lemma iterate {body : β → Prog L (β ⊕ α)} {I : β → σ → Prop}
    (h : ∀ b, Triple ok (I b) (body b) (fun x s => Sum.elim (fun b' => I b' s) (fun a => Q a s) x))
    (b : β) : Triple ok (I b) (Prog.iterate body b) Q := by
  intro s is
  exact loop h (is.length + 1) b s is

end Triple

def Moves (ok : ι → Prop) (R : σ → σ → Prop) (p : Prog L α) : Prop :=
  ∀ s₀, Triple ok (fun s => s = s₀) p (fun _ s => R s₀ s)

namespace Moves

variable {ok : ι → Prop} {R : σ → σ → Prop}

lemma triple {p : Prog L α} [IsTrans σ R] (h : Moves ok R p) (s₀ : σ) :
    Triple ok (R s₀) p (fun _ => R s₀) := by
  intro s is a s' is' hs hok hr
  obtain ⟨hm, hok'⟩ := h s s is a s' is' rfl hok hr
  exact ⟨trans_of R hs hm, hok'⟩

lemma keeps {p : Prog L α} {I : σ → Prop} (h : Moves ok R p) (hI : ∀ s s', R s s' → I s → I s') :
    Triple ok I p (fun _ => I) := by
  intro s is a s' is' hs hok hr
  obtain ⟨hm, hok'⟩ := h s s is a s' is' rfl hok hr
  exact ⟨hI s s' hm hs, hok'⟩

lemma mono {p : Prog L α} {R' : σ → σ → Prop} (h : Moves ok R p) (hR : ∀ s s', R s s' → R' s s') :
    Moves ok R' p :=
  fun s₀ => (h s₀).weaken (fun _ hs => hs) (fun _ s hs => hR s₀ s hs)

lemma pure [Std.Refl R] (a : α) : Moves ok R (Pure.pure a : Prog L α) :=
  fun _ => Triple.pure (fun s hs => hs ▸ refl_of R s)

lemma get [Std.Refl R] : Moves ok R (Prog.get : Prog L σ) :=
  fun _ => Triple.get (fun s hs => hs ▸ refl_of R s)

lemma modify {f : σ → σ} {hl : ∀ s, L.rel s [] (f s)} (h : ∀ s, R s (f s)) : Moves ok R (Prog.modify f hl) :=
  fun _ => Triple.modify (fun s hs => hs ▸ h s)

lemma next {deliver : ι → σ → σ} {hl : ∀ i s, L.rel s [i] (deliver i s)}
    (h : ∀ i s, ok i → R s (deliver i s)) : Moves ok R (Prog.next deliver hl) :=
  fun _ => Triple.next (fun i s hi hs => hs ▸ h i s hi)

lemma bind [IsTrans σ R] {p : Prog L β} {f : β → Prog L α} (hp : Moves ok R p)
    (hf : ∀ b, Moves ok R (f b)) : Moves ok R (p >>= f) :=
  fun s₀ => Triple.bind (hp s₀) (fun b => (hf b).triple s₀)

lemma ite {c : Prop} [Decidable c] {p q : Prog L α} (hp : Moves ok R p) (hq : Moves ok R q) :
    Moves ok R (if c then p else q) :=
  fun s₀ => Triple.ite (fun _ => hp s₀) (fun _ => hq s₀)

lemma iterate [Std.Refl R] [IsTrans σ R] {body : β → Prog L (β ⊕ α)} (h : ∀ b, Moves ok R (body b))
    (b : β) : Moves ok R (Prog.iterate body b) := by
  intro s₀
  refine (Triple.iterate (I := fun _ => R s₀) (Q := fun _ => R s₀) ?_ b).weaken
    (fun s hs => hs ▸ refl_of R s) (fun _ _ hs => hs)
  intro b
  refine ((h b).triple s₀).weaken (fun _ hs => hs) ?_
  rintro (b' | a) s hs <;> exact hs

end Moves

end Prog

end MavlinkLogService.Library
