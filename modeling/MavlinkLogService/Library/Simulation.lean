import MavlinkLogService.Library.Runs

/-! Forward simulations between step functions, with the observations of both sides. -/

namespace MavlinkLogService.Library.Run

variable {σ ε τ δ ω : Type*} {step : σ → ε → Option σ} {step' : τ → δ → Option τ} {s₀ s : σ} {t₀ : τ}
  {ts : List (Transition σ ε)}

lemma simulated (R : σ → τ → Prop) (observe : Transition σ ε → List ω) (observe' : Transition τ δ → List ω)
    (h₀ : R s₀ t₀)
    (hs : ∀ s t e s', R s t → step s e = some s' →
      ∃ us t', Run step' t us t' ∧ R s' t' ∧ us.flatMap observe' = observe ⟨s, e, s'⟩)
    (h : Run step s₀ ts s) :
    ∃ us t, Run step' t₀ us t ∧ R s t ∧ us.flatMap observe' = ts.flatMap observe := by
  induction h with
  | nil => exact ⟨[], t₀, .nil, h₀, rfl⟩
  | @snoc ts s e s' _ he ih =>
    obtain ⟨us, t, hrun, hr, hobs⟩ := ih
    obtain ⟨vs, t', hrun', hr', hobs'⟩ := hs s t e s' hr he
    refine ⟨us ++ vs, t', hrun.append hrun', hr', ?_⟩
    rw [List.flatMap_append, List.flatMap_append, hobs, hobs', List.flatMap_singleton]

end MavlinkLogService.Library.Run
