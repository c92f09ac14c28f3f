import MavlinkLogService.Library.Programs
import MavlinkLogService.Library.Runs

/-! Programs that are watched from outside: a program together with what is seen of it while it runs, in a
run that has not returned yet too. -/

namespace MavlinkLogService.Library

structure Watched {σ ι : Type} (L : Law σ ι) (ω α : Type) where
  prog : Prog L α
  seen : σ → List ι → List ω

namespace Watched

variable {σ ι ω α β τ : Type} {L : Law σ ι}

def quiet (p : Prog L α) : Watched L ω α := ⟨p, fun _ _ => []⟩

def showing (x : ω) (p : Prog L α) : Watched L ω α := ⟨p, fun _ _ => [x]⟩

def andThen (p : Watched L ω β) (f : β → Watched L ω α) : Watched L ω α where
  prog := p.prog >>= fun b => (f b).prog
  seen s is := p.seen s is ++ match p.prog.run s is with
    | none => []
    | some (b, s', is') => (f b).seen s' is'

instance : Monad (Watched L ω) where
  pure a := quiet (pure a)
  bind := andThen

lemma bind_prog (p : Watched L ω β) (f : β → Watched L ω α) :
    (p >>= f).prog = p.prog >>= fun b => (f b).prog := rfl

lemma ite_prog {c : Prop} [Decidable c] (p q : Watched L ω α) :
    (if c then p else q).prog = if c then p.prog else q.prog := apply_ite prog c p q

lemma seen_returned {p : Watched L ω β} {f : β → Watched L ω α} {s s' : σ} {is is' : List ι} {b : β}
    (h : p.prog.run s is = some (b, s', is')) : (p >>= f).seen s is = p.seen s is ++ (f b).seen s' is' := by
  change p.seen s is ++ (match p.prog.run s is with | none => [] | some (b, s', is') => (f b).seen s' is') = _
  rw [h]

lemma seen_waiting {p : Watched L ω β} {f : β → Watched L ω α} {s : σ} {is : List ι} (h : p.prog.run s is = none) :
    (p >>= f).seen s is = p.seen s is := by
  change p.seen s is ++ (match p.prog.run s is with | none => [] | some (b, s', is') => (f b).seen s' is') = _
  rw [h, List.append_nil]

lemma seen_subset_bind {p : Watched L ω β} {f : β → Watched L ω α} {s : σ} {is : List ι} :
    p.seen s is ⊆ (p >>= f).seen s is :=
  List.subset_append_left _ _

lemma mem_seen_bind {p : Watched L ω β} {f : β → Watched L ω α} {s s' : σ} {is is' : List ι} {b : β} {x : ω}
    (h : p.prog.run s is = some (b, s', is')) (hx : x ∈ (f b).seen s' is') : x ∈ (p >>= f).seen s is := by
  rw [seen_returned h]
  exact List.mem_append_right _ hx

def loop (body : β → Watched L ω (β ⊕ α)) : ℕ → β → Watched L ω α
  | 0, b => quiet (Prog.loop (fun b => (body b).prog) 0 b)
  | n + 1, b => do
    match ← body b with
    | .inl b' => loop body n b'
    | .inr a => pure a

lemma loop_prog (body : β → Watched L ω (β ⊕ α)) (n : ℕ) (b : β) :
    (loop body n b).prog = Prog.loop (fun b => (body b).prog) n b := by
  induction n generalizing b with
  | zero => rfl
  | succ n ih =>
    refine congrArg (Bind.bind _) (funext fun x => ?_)
    cases x with
    | inl b' => exact ih b'
    | inr a => rfl

def iterate (body : β → Watched L ω (β ⊕ α)) (b : β) : Watched L ω α where
  prog := Prog.iterate (fun b => (body b).prog) b
  seen s is := (loop body (is.length + 1) b).seen s is

def Only (R : ω → Prop) (p : Watched L ω α) : Prop := ∀ s is, ∀ x ∈ p.seen s is, R x

lemma Only.quiet {R : ω → Prop} (p : Prog L α) : Only R (Watched.quiet p) := by
  intro s is x hx
  cases hx

lemma Only.showing {R : ω → Prop} {x : ω} (hx : R x) (p : Prog L α) : Only R (Watched.showing x p) := by
  intro s is y hy
  obtain rfl := List.mem_singleton.mp hy
  exact hx

lemma Only.bind {R : ω → Prop} {p : Watched L ω β} {f : β → Watched L ω α} (hp : Only R p) (hf : ∀ b, Only R (f b)) :
    Only R (p >>= f) := by
  intro s is x hx
  cases hr : p.prog.run s is with
  | none =>
    rw [seen_waiting hr] at hx
    exact hp s is x hx
  | some y =>
    rw [seen_returned hr] at hx
    rcases List.mem_append.mp hx with hx | hx
    · exact hp s is x hx
    · exact hf _ _ _ x hx

lemma Only.ite {R : ω → Prop} {c : Prop} [Decidable c] {p q : Watched L ω α} (hp : Only R p) (hq : Only R q) :
    Only R (if c then p else q) := by
  split_ifs
  · exact hp
  · exact hq

lemma Only.iterate {R : ω → Prop} {body : β → Watched L ω (β ⊕ α)} (h : ∀ b, Only R (body b)) (b : β) :
    Only R (iterate body b) := by
  have hloop : ∀ n b, Only R (loop body n b) := by
    intro n
    induction n with
    | zero => exact fun b => .quiet _
    | succ n ih =>
      refine fun b => .bind (h b) fun x => ?_
      cases x with
      | inl b' => exact ih b'
      | inr a => exact .quiet _
  exact fun s is => hloop (is.length + 1) b s is

/-- Started where `P` holds of the state, of the inputs to come and of the watching monitor, `p` shows only
what the monitor permits, whether it returns or not, and if it returns then `Q` holds. -/
def Triple (M : Monitor τ ω) (P : σ → List ι → τ → Prop) (p : Watched L ω α) (Q : α → σ → List ι → τ → Prop) :
    Prop :=
  ∀ s is w, P s is w → M.Accepts w (p.seen s is) ∧
    ∀ a s' is', p.prog.run s is = some (a, s', is') → Q a s' is' (M.after w (p.seen s is))

namespace Triple

variable {M : Monitor τ ω} {P : σ → List ι → τ → Prop} {Q : α → σ → List ι → τ → Prop}

lemma quiet {p : Prog L α} (h : ∀ s is w a s' is', P s is w → p.run s is = some (a, s', is') → Q a s' is' w) :
    Triple M P (Watched.quiet p) Q := by
  intro s is w hP
  exact ⟨fun n x hx => by simp [Watched.quiet] at hx, fun a s' is' hr => h s is w a s' is' hP hr⟩

lemma pure {a : α} (h : ∀ s is w, P s is w → Q a s is w) : Triple M P (Pure.pure a : Watched L ω α) Q := by
  refine quiet fun s is w b s' is' hP hr => ?_
  simp only [Prog.pure_run, Option.some.injEq, Prod.mk.injEq] at hr
  obtain ⟨rfl, rfl, rfl⟩ := hr
  exact h s is w hP

lemma showing {x : ω} {p : Prog L α} (hx : ∀ s is w, P s is w → M.permits w x)
    (h : ∀ s is w a s' is', P s is w → p.run s is = some (a, s', is') → Q a s' is' (M.see w x)) :
    Triple M P (Watched.showing x p) Q := by
  intro s is w hP
  refine ⟨fun n y hy => ?_, fun a s' is' hr => h s is w a s' is' hP hr⟩
  cases n with
  | zero =>
    obtain rfl := Option.some.inj hy
    exact hx s is w hP
  | succ n => simp [Watched.showing] at hy

lemma bind {p : Watched L ω β} {f : β → Watched L ω α} {R : β → σ → List ι → τ → Prop} (hp : Triple M P p R)
    (hf : ∀ b, Triple M (R b) (f b) Q) : Triple M P (p >>= f) Q := by
  intro s is w hP
  obtain ⟨hseen, hreturn⟩ := hp s is w hP
  cases hr : p.prog.run s is with
  | none =>
    rw [seen_waiting hr]
    refine ⟨hseen, fun a s' is' hret => ?_⟩
    rw [bind_prog, Prog.bind_run, hr] at hret
    cases hret
  | some x =>
    obtain ⟨b, s₁, is₁⟩ := x
    obtain ⟨hseen₁, hreturn₁⟩ := hf b s₁ is₁ _ (hreturn b s₁ is₁ hr)
    rw [seen_returned hr, M.after_append]
    refine ⟨hseen.append hseen₁, fun a s' is' hret => ?_⟩
    rw [bind_prog, Prog.bind_run, hr] at hret
    exact hreturn₁ a s' is' hret

lemma ite {c : Prop} [Decidable c] {p q : Watched L ω α} (hp : c → Triple M P p Q) (hq : ¬ c → Triple M P q Q) :
    Triple M P (if c then p else q) Q := by
  split_ifs with h
  · exact hp h
  · exact hq h

lemma iterate {body : β → Watched L ω (β ⊕ α)} {I : β → σ → List ι → τ → Prop}
    (h : ∀ b, Triple M (I b) (body b) fun x s is w => x.elim (fun b' => I b' s is w) fun a => Q a s is w) (b : β) :
    Triple M (I b) (Watched.iterate body b) Q := by
  have hloop : ∀ n b, Triple M (I b) (loop body n b) Q := by
    intro n
    induction n with
    | zero =>
      exact fun b => quiet fun s is w a s' is' _ hr => by simp [Prog.loop] at hr
    | succ n ih =>
      refine fun b => bind (h b) fun x => ?_
      cases x with
      | inl b' => exact ih b'
      | inr a => exact pure fun _ _ _ hQ => hQ
  intro s is w hP
  obtain ⟨hseen, hreturn⟩ := hloop (is.length + 1) b s is w hP
  refine ⟨hseen, fun a s' is' hr => hreturn a s' is' ?_⟩
  rw [loop_prog]
  exact hr

lemma weaken {p : Watched L ω α} {P' : σ → List ι → τ → Prop} {Q' : α → σ → List ι → τ → Prop}
    (h : Triple M P' p Q') (hP : ∀ s is w, P s is w → P' s is w) (hQ : ∀ a s is w, Q' a s is w → Q a s is w) :
    Triple M P p Q := by
  intro s is w hs
  obtain ⟨hseen, hreturn⟩ := h s is w (hP s is w hs)
  exact ⟨hseen, fun a s' is' hr => hQ a s' is' _ (hreturn a s' is' hr)⟩

end Triple

end Watched

end MavlinkLogService.Library
