import Mathlib.Tactic

/-! Handlers: functions that take a state and an input to a new state and an effect, applied to one input
after the other. -/

namespace MavlinkLogService.Library

variable {σ ε ω : Type*}

def handling (f : σ → ε → σ × ω) : σ → List ε → List (σ × ε)
  | _, [] => []
  | s, e :: es => (s, e) :: handling f (f s e).1 es

lemma mem_of_handling {f : σ → ε → σ × ω} {s : σ} {es : List ε} {x : σ × ε} (h : x ∈ handling f s es) :
    x.2 ∈ es := by
  induction es generalizing s with
  | nil => cases h
  | cons e es ih =>
    rcases List.mem_cons.mp h with rfl | h
    · exact List.mem_cons_self
    · exact List.mem_cons_of_mem e (ih h)

lemma handling_keeps {f : σ → ε → σ × ω} {I : σ → Prop} {s : σ} {es : List ε} (h₀ : I s)
    (h : ∀ x ∈ handling f s es, I x.1 → I (f x.1 x.2).1) : ∀ x ∈ handling f s es, I x.1 := by
  induction es generalizing s with
  | nil => simp [handling]
  | cons e es ih =>
    intro x hx
    rcases List.mem_cons.mp hx with rfl | hx
    · exact h₀
    · exact ih (h (s, e) List.mem_cons_self h₀) (fun y hy => h y (List.mem_cons_of_mem _ hy)) x hx

variable [AddMonoid ω]

structure Composes (R : σ → σ × ω → Prop) : Prop where
  refl : ∀ s, R s (s, 0)
  comp : ∀ s r r', R s r → R r.1 r' → R s (r'.1, r.2 + r'.2)

def handleAll (f : σ → ε → σ × ω) : σ → List ε → σ × ω
  | s, [] => (s, 0)
  | s, e :: es => ((handleAll f (f s e).1 es).1, (f s e).2 + (handleAll f (f s e).1 es).2)

lemma Composes.handleAll {R : σ → σ × ω → Prop} (hR : Composes R) (f : σ → ε → σ × ω)
    (s : σ) (es : List ε) (h : ∀ x ∈ handling f s es, R x.1 (f x.1 x.2)) : R s (handleAll f s es) := by
  induction es generalizing s with
  | nil => exact hR.refl s
  | cons e es ih =>
    apply hR.comp
    · exact h (s, e) List.mem_cons_self
    · exact ih (f s e).1 fun x hx => h x (List.mem_cons_of_mem _ hx)

lemma handleAll_append (f : σ → ε → σ × ω) (s : σ) (as bs : List ε) :
    Library.handleAll f s (as ++ bs) = ((Library.handleAll f (Library.handleAll f s as).1 bs).1,
      (Library.handleAll f s as).2 + (Library.handleAll f (Library.handleAll f s as).1 bs).2) := by
  induction as generalizing s with
  | nil => simp [Library.handleAll]
  | cons a as ih => simp [Library.handleAll, ih, add_assoc]

end MavlinkLogService.Library
