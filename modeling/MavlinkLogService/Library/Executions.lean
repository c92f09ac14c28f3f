import MavlinkLogService.Library.Runs

/-! Potentials: what the steps of a run may cost is bounded by what they start with and what they are given,
and an endless run that is given nothing any more comes to cost nothing. -/

namespace MavlinkLogService.Library

variable {σ ε : Type*} {step : σ → ε → Option σ}

def Pays (step : σ → ε → Option σ) (potential : σ → ℕ) (costs : Transition σ ε → Bool) (gain : Transition σ ε → ℕ) :
    Prop :=
  ∀ s e s', step s e = some s' →
    (if costs ⟨s, e, s'⟩ then 1 else 0) + potential s' ≤ potential s + gain ⟨s, e, s'⟩

lemma Run.pays {potential : σ → ℕ} {costs : Transition σ ε → Bool} {gain : Transition σ ε → ℕ} {s₀ s : σ}
    {ts : List (Transition σ ε)} (hp : Pays step potential costs gain) (h : Run step s₀ ts s) :
    ts.countP costs + potential s ≤ potential s₀ + (ts.map gain).sum := by
  induction h with
  | nil => simp
  | @snoc ts s e s' _ he ih =>
    have hstep := hp s e s' he
    rw [List.countP_append, List.countP_singleton, List.map_append, List.sum_append, List.map_singleton,
      List.sum_singleton]
    omega

structure Execution (step : σ → ε → Option σ) where
  state : ℕ → σ
  event : ℕ → ε
  steps : ∀ n, step (state n) (event n) = some (state (n + 1))

namespace Execution

variable (x : Execution step)

def transition (n : ℕ) : Transition σ ε := ⟨x.state n, x.event n, x.state (n + 1)⟩

variable {x}

lemma from_now_on {I : σ → Prop} {K : ℕ} (h : I (x.state K)) (hs : ∀ n, K ≤ n → I (x.state n) → I (x.state (n + 1))) :
    ∀ n, K ≤ n → I (x.state n) := by
  intro n hn
  induction n, hn using Nat.le_induction with
  | base => exact h
  | succ n hn ih => exact hs n hn ih

lemma settles (x : Execution step) {potential : σ → ℕ} {K : ℕ}
    (h : ∀ n, K ≤ n → potential (x.state (n + 1)) ≤ potential (x.state n)) :
    ∃ M, K ≤ M ∧ ∀ n, M ≤ n → potential (x.state n) = potential (x.state M) := by
  -- the least value taken from `K` on is never left again
  classical
  have hex : ∃ v, ∃ n, K ≤ n ∧ potential (x.state n) = v := ⟨_, K, le_rfl, rfl⟩
  obtain ⟨M, hM, hv⟩ := Nat.find_spec hex
  have hmin : ∀ n, K ≤ n → potential (x.state M) ≤ potential (x.state n) := fun n hn =>
    hv ▸ Nat.find_min' hex ⟨n, hn, rfl⟩
  refine ⟨M, hM, from_now_on (I := fun s => potential s = potential (x.state M)) rfl fun n hn hi => ?_⟩
  exact le_antisymm (hi ▸ h n (hM.trans hn)) (hmin (n + 1) (by omega))

lemma costs_nothing {potential : σ → ℕ} {costs : Transition σ ε → Bool} {gain : Transition σ ε → ℕ} {K : ℕ}
    (hp : Pays step potential costs gain) (h : ∀ n, K ≤ n → gain (x.transition n) = 0) :
    ∃ M, K ≤ M ∧ ∀ n, M ≤ n →
      costs (x.transition n) = false ∧ potential (x.state (n + 1)) = potential (x.state n) := by
  have hstep : ∀ n, K ≤ n → (if costs (x.transition n) then 1 else 0) + potential (x.state (n + 1)) ≤
      potential (x.state n) :=
    fun n hn => (hp _ _ _ (x.steps n)).trans_eq (by rw [← transition, h n hn, Nat.add_zero])
  obtain ⟨M, hM, hconst⟩ := x.settles fun n hn => (Nat.le_add_left _ _).trans (hstep n hn)
  refine ⟨M, hM, fun n hn => ?_⟩
  have hpay := hstep n (hM.trans hn)
  have hsame : potential (x.state (n + 1)) = potential (x.state n) := by rw [hconst n hn, hconst (n + 1) (by omega)]
  refine ⟨?_, hsame⟩
  by_contra hcost
  rw [if_pos (by simpa using hcost)] at hpay
  omega

end Execution

end MavlinkLogService.Library
