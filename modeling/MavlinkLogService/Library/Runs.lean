import Mathlib.Tactic

/-! Finite runs of a guarded step function, recorded as the list of their transitions, and monitors of the
histories that runs leave. -/

namespace MavlinkLogService.Library

lemma exists_of_any {α : Type*} {o : Option α} {Q : α → Prop} (P : α → Prop) [DecidablePred P]
    (h : o.any (fun x => decide (P x)) = true) (hQ : ∀ x, o = some x → P x → Q x) : ∃ x, o = some x ∧ Q x := by
  obtain ⟨x, hx, hP⟩ := (Option.any_eq_true _ _).mp h
  exact ⟨x, hx, hQ x hx (of_decide_eq_true hP)⟩

structure Transition (σ ε : Type*) where
  pre : σ
  event : ε
  post : σ

inductive Run {σ ε : Type*} (step : σ → ε → Option σ) (s₀ : σ) : List (Transition σ ε) → σ → Prop
  | nil : Run step s₀ [] s₀
  | snoc {ts : List (Transition σ ε)} {s : σ} {e : ε} {s' : σ} : Run step s₀ ts s →
      step s e = some s' → Run step s₀ (ts ++ [⟨s, e, s'⟩]) s'

namespace Run

variable {σ ε : Type*} {step : σ → ε → Option σ} {s₀ s : σ} {ts : List (Transition σ ε)}

lemma invariant (C : Transition σ ε → Prop) (I : σ → Prop) (h₀ : I s₀)
    (hs : ∀ s e s', I s → step s e = some s' → C ⟨s, e, s'⟩ → I s')
    (h : Run step s₀ ts s) (hc : ∀ t ∈ ts, C t) : I s := by
  induction h with
  | nil => exact h₀
  | @snoc ts s e s' _ he ih =>
    have hi := ih (fun t ht => hc t (List.mem_append_left _ ht))
    exact hs s e s' hi he (hc _ (by simp))

lemma cut {t : Transition σ ε} {a b : List (Transition σ ε)} (h : Run step s₀ ts s) (ht : ts = a ++ t :: b) :
    Run step s₀ a t.pre ∧ step t.pre t.event = some t.post ∧ Run step t.post b s := by
  induction h generalizing b with
  | nil => simp at ht
  | @snoc ts s e s' hr he ih =>
    rcases List.eq_nil_or_concat b with rfl | ⟨b', u, rfl⟩
    · obtain ⟨rfl, hu⟩ := List.append_inj' ht rfl
      obtain rfl : _ = t := by simpa using hu
      exact ⟨hr, he, .nil⟩
    · rw [List.concat_eq_append, ← List.cons_append, ← List.append_assoc] at ht
      obtain ⟨hh, hu⟩ := List.append_inj' ht rfl
      obtain rfl := List.singleton_injective hu
      obtain ⟨hbefore, hstep, hafter⟩ := ih hh
      rw [List.concat_eq_append]
      exact ⟨hbefore, hstep, hafter.snoc he⟩

lemma split {t : Transition σ ε} {a b : List (Transition σ ε)} (h : Run step s₀ ts s)
    (ht : ts = a ++ t :: b) : Run step s₀ a t.pre ∧ step t.pre t.event = some t.post :=
  ⟨(h.cut ht).1, (h.cut ht).2.1⟩

lemma rest {t : Transition σ ε} {a b : List (Transition σ ε)} (h : Run step s₀ ts s)
    (ht : ts = a ++ t :: b) : Run step t.post b s := (h.cut ht).2.2

lemma append {us : List (Transition σ ε)} {s' : σ} (h : Run step s₀ ts s) (h' : Run step s us s') :
    Run step s₀ (ts ++ us) s' := by
  induction h' with
  | nil => rwa [List.append_nil]
  | snoc _ hs ih =>
    rw [← List.append_assoc]
    exact ih.snoc hs

lemma of_append {us : List (Transition σ ε)} {s' : σ} (h : Run step s₀ (ts ++ us) s') :
    ∃ s, Run step s₀ ts s ∧ Run step s us s' := by
  cases us with
  | nil => exact ⟨s', by simpa using h, .nil⟩
  | cons t us =>
    obtain ⟨hbefore, hstep, hafter⟩ := h.cut rfl
    exact ⟨t.pre, hbefore, (Run.nil.snoc hstep).append hafter⟩

lemma eq_start (h : Run step s₀ ts s) (ht : ts = []) : s = s₀ := by
  cases h with
  | nil => rfl
  | snoc => simp at ht

lemma first {t : Transition σ ε} {b : List (Transition σ ε)} (h : Run step s₀ (t :: b) s) : t.pre = s₀ := by
  exact (h.split (a := []) rfl).1.eq_start rfl

lemma since (Q : σ → Prop) (h₀ : ¬ Q s₀) (h : Run step s₀ ts s) (hq : Q s) :
    ∃ a t b, ts = a ++ t :: b ∧ ¬ Q t.pre ∧ Q t.post ∧ ∀ u ∈ b, Q u.pre ∧ Q u.post := by
  induction h with
  | nil => exact (h₀ hq).elim
  | @snoc ts s e s' hr he ih =>
    by_cases hs : Q s
    · obtain ⟨a, t, b, rfl, ht, ht', hb⟩ := ih hs
      refine ⟨a, t, b ++ [⟨s, e, s'⟩], by simp, ht, ht', ?_⟩
      intro u hu
      rcases List.mem_append.mp hu with hu | hu
      · exact hb u hu
      · obtain rfl := List.mem_singleton.mp hu
        exact ⟨hs, hq⟩
    · exact ⟨ts, ⟨s, e, s'⟩, [], rfl, hs, hq, by simp⟩

def exec (step : σ → ε → Option σ) : σ → List ε → Option (List (Transition σ ε) × σ)
  | s, [] => some ([], s)
  | s, e :: es => (step s e).bind fun s' => (exec step s' es).map fun x => (⟨s, e, s'⟩ :: x.1, x.2)

lemma append_exec {es : List ε} {us : List (Transition σ ε)} {s' : σ} (h : Run step s₀ ts s)
    (he : exec step s es = some (us, s')) : Run step s₀ (ts ++ us) s' := by
  induction es generalizing ts s us with
  | nil =>
    simp only [exec, Option.some.injEq, Prod.mk.injEq] at he
    obtain ⟨rfl, rfl⟩ := he
    rwa [List.append_nil]
  | cons e es ih =>
    rw [exec] at he
    obtain ⟨s₁, hs, he⟩ := Option.bind_eq_some_iff.mp he
    obtain ⟨⟨ts₁, s₂⟩, hx, he⟩ := Option.map_eq_some_iff.mp he
    obtain ⟨rfl, rfl⟩ : ⟨s, e, s₁⟩ :: ts₁ = us ∧ s₂ = s' := by simpa using he
    have hr := ih (h.snoc hs) hx
    rwa [List.append_assoc, List.singleton_append] at hr

lemma exec_events {es : List ε} (he : exec step s₀ es = some (ts, s)) : ts.map (·.event) = es := by
  induction es generalizing s₀ ts with
  | nil =>
    simp only [exec, Option.some.injEq, Prod.mk.injEq] at he
    rw [← he.1]
    rfl
  | cons e es ih =>
    rw [exec] at he
    obtain ⟨s₁, _, he⟩ := Option.bind_eq_some_iff.mp he
    obtain ⟨⟨ts₁, s₂⟩, hx, he⟩ := Option.map_eq_some_iff.mp he
    obtain ⟨rfl, rfl⟩ : ⟨s₀, e, s₁⟩ :: ts₁ = ts ∧ s₂ = s := by simpa using he
    rw [List.map_cons, ih hx]

lemma of_exec {es : List ε} (he : exec step s₀ es = some (ts, s)) : Run step s₀ ts s := by
  simpa using append_exec Run.nil he

end Run

/-- A deterministic observer of a history, with the inputs it permits in each of its states. -/
structure Monitor (σ α : Type*) where
  see : σ → α → σ
  permits : σ → α → Prop

namespace Monitor

variable {σ α : Type*} (M : Monitor σ α)

def after (w : σ) (l : List α) : σ := l.foldl M.see w

def Accepts (w : σ) (l : List α) : Prop := ∀ n a, l[n]? = some a → M.permits (M.after w (l.take n)) a

@[simp] lemma after_append (w : σ) (l l' : List α) : M.after w (l ++ l') = M.after (M.after w l) l' :=
  List.foldl_append

variable {M} {w : σ} {l l' : List α}

lemma Accepts.append (h : M.Accepts w l) (h' : M.Accepts (M.after w l) l') : M.Accepts w (l ++ l') := by
  intro n a ha
  rw [List.getElem?_append] at ha
  split_ifs at ha with hn
  · rw [List.take_append_of_le_length hn.le]
    exact h n a ha
  · have hp := h' _ a ha
    rwa [← M.after_append, ← List.take_length_add_append, Nat.add_sub_cancel' (Nat.le_of_not_lt hn)] at hp

lemma keeps (I : σ → Prop) (R : α → Prop) (hs : ∀ w a, I w → R a → M.permits w a ∧ I (M.see w a))
    (hl : ∀ a ∈ l, R a) (hw : I w) : M.Accepts w l ∧ I (M.after w l) := by
  induction l generalizing w with
  | nil => exact ⟨fun n a ha => by simp at ha, hw⟩
  | cons x l ih =>
    obtain ⟨hp, hi⟩ := hs w x hw (hl x List.mem_cons_self)
    obtain ⟨hacc, hafter⟩ := ih (fun a ha => hl a (List.mem_cons_of_mem x ha)) hi
    refine ⟨?_, hafter⟩
    intro n a ha
    cases n with
    | zero =>
      obtain rfl := Option.some.inj ha
      exact hp
    | succ n => exact hacc n a ha

end Monitor

end MavlinkLogService.Library
