import MavlinkLogService.Archive.Archiving

/-! A cycle of `archiveAll`: the logs it turns to, one after the other, and what became of each. -/

namespace MavlinkLogService.Archive.LogDownloader

open Library Session Storage

def noted (a : Action) (d : LogDownloader) : LogDownloader := { d with trace := d.trace ++ [a] }

inductive Chain (H : Promise) (settings : Settings) :
    LogDownloader → List (LogEntry × ArchiveResult) → LogDownloader → Prop
  | stop {d d' : LogDownloader} : Quiet H (fun _ => False) d d' → Chain H settings d [] d'
  | log {d d₁ d₂ d' : LogDownloader} {entry : LogEntry} {res : ArchiveResult}
      {done : List (LogEntry × ArchiveResult)} : Quiet H (fun _ => False) d d₁ →
      d₁.inbox.cancelRequested = false → Outcome H settings entry (noted (.begin entry) d₁) d₂ res →
      Chain H settings (noted (.outcome entry res) d₂) done d' → Chain H settings d ((entry, res) :: done) d'

def archivedResult (res : ArchiveResult) : Prop := res = .downloaded ∨ res = .skippedDuplicate

variable {H : Promise} {settings : Settings}

instance {R : Action → Prop} : Trans (Later H R) (Later H R) (Later H R) := ⟨Later.trans⟩

lemma Chain.quiet {d d' d'' : LogDownloader} {done : List (LogEntry × ArchiveResult)}
    (h : Chain H settings d done d') (hq : Quiet H (fun _ => False) d' d'') : Chain H settings d done d'' := by
  induction h with
  | stop h => exact .stop (trans_of (Quiet H fun _ => False) h hq)
  | log h₁ hc ho _ ih => exact .log h₁ hc ho (ih hq)

structure LoopOutcome (logs : List LogEntry) (done : List (LogEntry × ArchiveResult))
    (anyFailed : Bool) : Prop where
  order : done.map Prod.fst <+: logs
  success : anyFailed = false → done.map Prod.fst = logs ∧ ∀ x ∈ done, archivedResult x.2

lemma LoopOutcome.cons {logs : List LogEntry} {done : List (LogEntry × ArchiveResult)} {entry : LogEntry}
    {res : ArchiveResult} {anyFailed : Bool} (h : LoopOutcome logs done anyFailed)
    (hres : anyFailed = false → archivedResult res) :
    LoopOutcome (entry :: logs) ((entry, res) :: done) anyFailed := by
  refine ⟨List.cons_prefix_cons.mpr ⟨rfl, h.order⟩, ?_⟩
  intro hf
  obtain ⟨hmap, hall⟩ := h.success hf
  refine ⟨by rw [List.map_cons, hmap], ?_⟩
  intro x hx
  rcases List.mem_cons.mp hx with rfl | hx
  · exact hres hf
  · exact hall x hx

lemma archiveLoop_returns (result : ArchiveCycleResult) (anyFailed : Bool) (logs : List LogEntry)
    (d₀ : LogDownloader) :
    Prog.Triple (Fair H) (fun d => d = d₀) (archiveLoop settings result anyFailed logs)
      (fun x d => (x.2 = false → anyFailed = false) ∧
        ∃ done, Chain H settings d₀ done d ∧ LoopOutcome logs done x.2) := by
  induction logs generalizing result anyFailed d₀ with
  | nil =>
    apply Prog.Triple.pure
    rintro d rfl
    exact ⟨fun h => h, [], .stop (refl_of (Quiet H fun _ => False) d), by simp, by simp⟩
  | cons entry logs ih =>
    apply Prog.Triple.bind (cancelled_returns settings d₀)
    intro stop
    apply Prog.Triple.ite
    · intro _
      apply Prog.Triple.pure
      rintro d ⟨hq, _⟩
      exact ⟨by simp, [], .stop hq, by simp, by simp⟩
    intro hstop
    apply Prog.Triple.bind (M := fun _ d => ∃ d₁, Quiet H (fun _ => False) d₀ d₁ ∧
      d₁.inbox.cancelRequested = false ∧ d = noted (.begin entry) d₁)
    · apply note_returns
      rintro d ⟨hq, hc⟩
      exact ⟨d, hq, by rw [← hc]; simpa using hstop, rfl⟩
    intro _
    apply Prog.Triple.bind (M := fun res d => ∃ d₁, Quiet H (fun _ => False) d₀ d₁ ∧
      d₁.inbox.cancelRequested = false ∧ Outcome H settings entry (noted (.begin entry) d₁) d res)
    · intro d ticks res d' rest hd hf hr
      obtain ⟨d₁, hq, hc, rfl⟩ := hd
      obtain ⟨ho, hrest⟩ := archiveOne_returns _ _ ticks res d' rest rfl hf hr
      exact ⟨⟨d₁, hq, hc, ho⟩, hrest⟩
    intro res
    apply Prog.Triple.bind (M := fun _ d => ∃ d₁ d₂, Quiet H (fun _ => False) d₀ d₁ ∧
      d₁.inbox.cancelRequested = false ∧ Outcome H settings entry (noted (.begin entry) d₁) d₂ res ∧
      d = noted (.outcome entry res) d₂)
    · apply note_returns
      rintro d ⟨d₁, hq, hc, ho⟩
      exact ⟨d₁, d, hq, hc, ho, rfl⟩
    intro _
    apply Prog.Triple.bind (M := fun _ d => ∃ d₁ d₂, Quiet H (fun _ => False) d₀ d₁ ∧
      d₁.inbox.cancelRequested = false ∧ Outcome H settings entry (noted (.begin entry) d₁) d₂ res ∧
      d = noted (.outcome entry res) d₂) (.get fun d hd => hd)
    intro dnow
    apply Prog.Triple.ite
    · intro _
      apply Prog.Triple.pure
      rintro d ⟨d₁, d₂, hq, hc, ho, rfl⟩
      refine ⟨by simp, [(entry, res)], .log hq hc ho (.stop (refl_of (Quiet H fun _ => False) _)), ?_, by simp⟩
      exact List.cons_prefix_cons.mpr ⟨rfl, List.nil_prefix⟩
    · intro hres d ticks x d' rest hd hf hr
      obtain ⟨d₁, d₂, hq, hc, ho, rfl⟩ := hd
      obtain ⟨⟨hfail, done, hchain, hout⟩, hrest⟩ := ih _ _ _ _ ticks x d' rest rfl hf hr
      refine ⟨⟨?_, (entry, res) :: done, .log hq hc ho hchain, hout.cons ?_⟩, hrest⟩
      · intro hx
        exact (Bool.or_eq_false_iff.mp (hfail hx)).1
      · intro hx
        have hnf : (res == ArchiveResult.failed) = false := (Bool.or_eq_false_iff.mp (hfail hx)).2
        cases res with
        | downloaded => exact Or.inl rfl
        | skippedDuplicate => exact Or.inr rfl
        | cancelled => exact absurd rfl hres
        | failed => simp at hnf

lemma archiveAll_returns (logs : List LogEntry) (d₀ : LogDownloader) :
    Prog.Triple (Fair H) (fun d => d = d₀) (archiveAll settings logs)
      (fun result d => ∃ done, Chain H settings d₀ done d ∧ LoopOutcome logs done (!result.allArchived)) := by
  apply Prog.Triple.bind (M := fun x d => ∃ done, Chain H settings d₀ done d ∧ LoopOutcome logs done x.2)
  · exact (archiveLoop_returns {} false logs d₀).weaken (fun _ hd => hd) fun _ _ h => h.2
  intro x
  have hkeep : ∀ d d', Quiet H (fun _ => False) d d' →
      (∃ done, Chain H settings d₀ done d ∧ LoopOutcome logs done x.2) →
      ∃ done, Chain H settings d₀ done d' ∧ LoopOutcome logs done x.2 := by
    rintro d d' hq ⟨done, hchain, hout⟩
    exact ⟨done, hchain.quiet hq, hout⟩
  apply Prog.Triple.bind (clearDataChunks_quiet.keeps hkeep)
  intro _
  apply Prog.Triple.bind (requestLogEnd_quiet.keeps hkeep)
  intro _
  apply Prog.Triple.pure
  rintro d ⟨done, hchain, hout⟩
  exact ⟨done, hchain, by simpa using hout⟩

def Working : Action → Prop
  | .job | .consume | .restart | .reconnect | .request .erase => False
  | _ => True

def Archiving : Action → Prop
  | .enumerated _ _ => False
  | a => Working a

lemma Archiving.working {a : Action} (h : Archiving a) : Working a := by
  cases a with
  | enumerated received entries => trivial
  | _ => exact h

lemma archiving_of_routine {ids : UInt16 → Prop} {a : Action} (h : Routine ids a) : Archiving a := by
  cases a with
  | request r =>
    cases r with
    | erase => exact h
    | _ => trivial
  | armed => trivial
  | disarmed => trivial
  | hit => trivial
  | session p processed => trivial
  | _ => exact h.elim

lemma working_of_routine {ids : UInt16 → Prop} {a : Action} (h : Routine ids a) : Working a :=
  (archiving_of_routine h).working

lemma Outcome.later {entry : LogEntry} {res : ArchiveResult} {d d' : LogDownloader}
    (h : Outcome H settings entry d d' res) :
    Later H (fun a => Routine (· = entry.id) a ∨ ∃ path, a = .archived path) d d' := by
  cases res with
  | downloaded =>
    obtain ⟨final, row, r, hs⟩ := h
    apply hs.placed.later.mono
    rintro a (ha | rfl)
    · exact Or.inl ha
    · exact Or.inr ⟨final, rfl⟩
  | skippedDuplicate => exact h.1.later.mono fun a ha => Or.inl ha
  | cancelled => exact (Tentative.later h).mono fun a ha => Or.inl ha
  | failed => exact (Tentative.later h).mono fun a ha => Or.inl ha

lemma Outcome.archiving {entry : LogEntry} {res : ArchiveResult} {d d' : LogDownloader}
    (h : Outcome H settings entry d d' res) : Later H Archiving d d' := by
  apply h.later.mono
  rintro a (ha | ⟨path, rfl⟩)
  · exact archiving_of_routine ha
  · trivial

lemma noted_later {R : Action → Prop} {a : Action} (ha : R a) (h : a.isEvent = false) (d : LogDownloader) :
    Later H R d (noted a d) :=
  note_later ha h d

lemma Chain.archiving {d d' : LogDownloader} {done : List (LogEntry × ArchiveResult)}
    (h : Chain H settings d done d') : Later H Archiving d d' := by
  induction h with
  | stop h => exact h.later.mono fun a ha => archiving_of_routine ha
  | @log d d₁ d₂ d' entry res done hq _ ho _ ih =>
    calc Later H Archiving d d₁ := hq.later.mono fun a ha => archiving_of_routine ha
      Later H Archiving _ (noted (.begin entry) d₁) := noted_later trivial rfl d₁
      Later H Archiving _ d₂ := ho.archiving
      Later H Archiving _ (noted (.outcome entry res) d₂) := noted_later trivial rfl d₂
      Later H Archiving _ d' := ih

lemma Chain.working {d d' : LogDownloader} {done : List (LogEntry × ArchiveResult)}
    (h : Chain H settings d done d') : Later H Working d d' :=
  h.archiving.mono fun _ ha => ha.working

lemma Chain.recorded {d d' : LogDownloader} {done : List (LogEntry × ArchiveResult)}
    (h : Chain H settings d done d') {x : LogEntry × ArchiveResult} (hx : x ∈ done) :
    Recorded (.outcome x.1 x.2) d d' := by
  induction h with
  | stop h => cases hx
  | @log d d₁ d₂ d' entry res done hq _ ho hrest ih =>
    have hstart : Later H Archiving d d₂ :=
      (hq.later.mono fun a ha => archiving_of_routine ha).trans ((noted_later trivial rfl d₁).trans ho.archiving)
    rcases List.mem_cons.mp hx with rfl | hx
    · have hnow : Recorded (.outcome entry res) d₂ (noted (.outcome entry res) d₂) :=
        ⟨[.outcome entry res], rfl, by simp⟩
      exact Recorded.earlier hstart (hnow.later hrest.archiving)
    · exact Recorded.earlier (hstart.trans (noted_later trivial rfl d₂)) (ih hx)

end MavlinkLogService.Archive.LogDownloader
