import MavlinkLogService.Library.Totality
import MavlinkLogService.Session.Termination

/-! Every streaming session ends on every clock that keeps going, however many looks at the environment fall
into one millisecond. -/

namespace MavlinkLogService.Session

open Library

/-- The readings of the clock along a stream of ticks never go back and pass every bound. -/
structure Flows (f : ℕ → Tick) : Prop where
  idle : ∀ k, (f k).now ≤ (f k).nowIdle
  next : ∀ k, (f k).nowIdle ≤ (f (k + 1)).now
  diverges : ∀ t, ∃ k, t ≤ (f k).now

namespace Flows

variable {f : ℕ → Tick}

lemma now_mono (h : Flows f) : Monotone fun k => (f k).now :=
  monotone_nat_of_le_succ fun k => (h.idle k).trans (h.next k)

lemma idle_mono (h : Flows f) : Monotone fun k => (f k).nowIdle :=
  monotone_nat_of_le_succ fun k => (h.next k).trans (h.idle (k + 1))

def past (h : Flows f) (t : ℤ) : ℕ := Nat.find (h.diverges t)

lemma past_le (h : Flows f) {t : ℤ} {k : ℕ} : h.past t ≤ k ↔ t ≤ (f k).now :=
  ⟨fun hk => (Nat.find_spec (h.diverges t)).trans (h.now_mono hk), Nat.find_min' (h.diverges t)⟩

end Flows

namespace StreamDownload

variable {settings : DownloadSettings} {p : Params} {f : ℕ → Tick} {s s' : StreamDownload} {k : ℕ} {b : Bool}

lemma Live.at {last last' : ℤ} (h : Live settings p last s) (hc : s.phase = .poll → s.lastDataTime ≤ last') :
    Live settings p last' s :=
  ⟨h.phase, h.queue, h.ranges, h.received, h.bound, h.attempt, h.fresh, h.begun, hc⟩

def timeoutAt (settings : DownloadSettings) (s : StreamDownload) : ℤ :=
  s.lastDataTime + settings.downloadTimeoutSec * 1000

def outlook (settings : DownloadSettings) (p : Params) (h : Flows f) (k : ℕ) (s : StreamDownload) : ℕ ×ₗ ℕ ×ₗ ℕ :=
  toLex (s.room p + s.pending settings,
    toLex (if s.phase = .poll then 1 else 0, h.past (s.timeoutAt settings) - k))

lemma outlook_lt_of_work (h : Flows f) {k' : ℕ}
    (hlt : s'.room p + s'.pending settings < s.room p + s.pending settings) :
    outlook settings p h k' s' < outlook settings p h k s :=
  Prod.Lex.left _ _ hlt

lemma outlook_lt_of_phase (h : Flows f) {k' : ℕ}
    (hle : s'.room p + s'.pending settings ≤ s.room p + s.pending settings) (hp : s.phase = .poll)
    (hp' : s'.phase = .attempt) : outlook settings p h k' s' < outlook settings p h k s := by
  rcases hle.lt_or_eq with hlt | heq
  · exact outlook_lt_of_work h hlt
  · rw [outlook, outlook, heq, hp, hp', if_pos rfl, if_neg (by simp)]
    exact Prod.Lex.right _ (Prod.Lex.left _ _ Nat.zero_lt_one)

lemma outlook_lt_of_time (h : Flows f) (hle : s'.room p + s'.pending settings ≤ s.room p + s.pending settings)
    (hp : s.phase = .poll) (hp' : s'.phase = .poll) (ht : s'.lastDataTime = s.lastDataTime)
    (hearly : (f k).now < s.timeoutAt settings) : outlook settings p h (k + 1) s' < outlook settings p h k s := by
  rcases hle.lt_or_eq with hlt | heq
  · exact outlook_lt_of_work h hlt
  · have hk : k < h.past (s.timeoutAt settings) := by
      rw [← not_le, h.past_le, not_le]
      exact hearly
    rw [outlook, outlook, heq, hp, hp', timeoutAt, ht, ← timeoutAt]
    exact Prod.Lex.right _ (Prod.Lex.right _ (by omega))

lemma Moved.outlook_lt (h : Flows f) (hm : Moved settings p (f k) b s s') (hlive : Live settings p (f k).now s)
    (hroom : (if b then 1 else 0) + s'.room p ≤ s.room p + if s.beginsAttempt settings then 1 else 0) :
    (∃ r, s'.phase = .done r) ∨ outlook settings p h (k + 1) s' < outlook settings p h k s := by
  have hpending := hm.pending_le hlive
  cases hm with
  | ended r phase' quiet => exact Or.inl ⟨r, phase'⟩
  | begins phase phase' within attempt waits progress ranges time renewed =>
    have hb : s.beginsAttempt settings = true := by simp [beginsAttempt, phase, within]
    rw [hb, if_pos rfl] at hpending
    rw [hb, if_pos renewed, if_pos rfl] at hroom
    exact Or.inr (outlook_lt_of_work h (by omega))
  | waits phase phase' within attempt waits empty noted =>
    have hr := noted.room_le phase (Or.inl phase')
    exact Or.inr (outlook_lt_of_phase h (by omega) phase phase')
  | retries phase phase' attempt waits noted =>
    have hr := noted.room_le phase (Or.inl phase')
    exact Or.inr (outlook_lt_of_phase h (by omega) phase phase')
  | polls phase phase' attempt waits noted early =>
    have hr := noted.room_le phase (Or.inr phase')
    cases b with
    | true =>
      rw [if_pos rfl] at hr
      exact Or.inr (outlook_lt_of_work h (by omega))
    | false =>
      have ht := (noted.quiet rfl).2
      have hidle := h.idle k
      rw [ht] at early
      exact Or.inr (outlook_lt_of_time h (by omega) phase phase' ht (by rw [timeoutAt]; omega))

lemma step_outlook (h : Flows f) (hlive : Live settings p (f k).now s)
    (hw : p.byteOffset + p.byteCount ≤ 2 ^ 32 - 256) :
    (∃ r, (s.step settings p (f k)).phase = .done r) ∨
      Live settings p (f (k + 1)).now (s.step settings p (f k)) ∧
        outlook settings p h (k + 1) (s.step settings p (f k)) < outlook settings p h k s := by
  have hidle := h.idle k
  have hnext := h.next k
  rcases (step_moved hlive hw (f k)).outlook_lt h hlive (step_room hlive hw (f k)) with hdone | hlt
  · exact Or.inl hdone
  rcases step_live hlive hw le_rfl fun _ => hidle with hdone | hlive'
  · exact Or.inl hdone
  refine Or.inr ⟨hlive'.at fun hp' => ?_, hlt⟩
  -- the session reads the clock before it looks whether the attempt is idle
  cases step_moved hlive hw (f k) with
  | ended r phase' _ => rw [phase'] at hp'; cases hp'
  | begins _ _ _ _ _ _ _ time _ => omega
  | waits _ phase' _ _ _ _ _ => rw [phase'] at hp'; cases hp'
  | retries _ phase' _ _ _ => rw [phase'] at hp'; cases hp'
  | polls phase _ _ _ noted _ =>
    have ht := noted.time_le le_rfl (hlive.clock phase)
    omega

lemma runFrom_ends (h : Flows f) (hlive : Live settings p (f k).now s)
    (hw : p.byteOffset + p.byteCount ≤ 2 ^ 32 - 256) :
    ∃ r s' k', k ≤ k' ∧ ∀ more, runFrom settings p (slice f k k' ++ more) s = some (r, s', more) := by
  induction ho : outlook settings p h k s using WellFoundedLT.induction generalizing k s with
  | ind o ih =>
    rcases step_outlook h hlive hw with ⟨r, hr⟩ | ⟨hlive', hlt⟩
    · refine ⟨r, s.step settings p (f k), k + 1, by omega, fun more => ?_⟩
      rw [slice_cons (Nat.lt_succ_self k), slice_self, List.singleton_append, runFrom_live hlive, runFrom_done more hr]
    · obtain ⟨r, s', k', hk, hrun⟩ := ih _ (ho ▸ hlt) hlive' rfl
      refine ⟨r, s', k', by omega, fun more => ?_⟩
      rw [slice_cons (by omega : k < k'), List.cons_append, runFrom_live hlive, hrun]

lemma run_ends (settings : DownloadSettings) (h : Flows f) (hw : p.byteOffset + p.byteCount ≤ 2 ^ 32 - 256)
    (inbox : Inbox) (file : OutputFile) (k : ℕ) :
    ∃ r s' k', k ≤ k' ∧ ∀ more, run settings p inbox file (slice f k k' ++ more) = some (r, s', more) := by
  by_cases hz : p.byteCount = 0
  · obtain ⟨r, hr, _⟩ := start_empty hz inbox file
    refine ⟨r, start p inbox file, k, le_rfl, fun more => ?_⟩
    rw [slice_self, List.nil_append, run, runFrom_done more hr]
  · exact runFrom_ends h (start_live hz settings inbox file _) hw

end StreamDownload

end MavlinkLogService.Session
