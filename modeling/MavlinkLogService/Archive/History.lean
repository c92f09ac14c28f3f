import MavlinkLogService.Archive.LogDownloader
import MavlinkLogService.Session.SessionHistory

/-! What the tasks of the downloader add to the history of a run, and what they leave alone. -/

namespace MavlinkLogService.Archive.LogDownloader

open Library Session Storage

structure Later (H : Promise) (R : Action → Prop) (d d' : LogDownloader) : Prop where
  cancel : d.inbox.cancelRequested = true → d'.inbox.cancelRequested = true
  pending : (∀ e ∈ d.inbox.pendingEntries, H.message (.logEntry e)) →
    ∀ e ∈ d'.inbox.pendingEntries, H.message (.logEntry e)
  trace : ∃ ext, d'.trace = d.trace ++ ext ∧ (∀ a ∈ ext, R a) ∧
    (.hit ∈ ext → d'.inbox.cancelRequested = true)

structure Quiet (H : Promise) (ids : UInt16 → Prop) (d d' : LogDownloader) : Prop where
  later : Later H (Routine ids) d d'
  storage : d'.storage = d.storage
  database : d'.database = d.database

variable {H : Promise} {R : Action → Prop} {ids : UInt16 → Prop}

lemma Later.refl (d : LogDownloader) : Later H R d d :=
  ⟨fun h => h, fun h => h, [], by simp, by simp, by simp⟩

lemma Later.trans {d d' d'' : LogDownloader} (h : Later H R d d') (h' : Later H R d' d'') :
    Later H R d d'' := by
  obtain ⟨a, ha, hRa, hha⟩ := h.trace
  obtain ⟨b, hb, hRb, hhb⟩ := h'.trace
  refine ⟨fun hc => h'.cancel (h.cancel hc), fun hp => h'.pending (h.pending hp), a ++ b, ?_, ?_, ?_⟩
  · rw [hb, ha, List.append_assoc]
  · intro x hx
    exact (List.mem_append.mp hx).elim (hRa x) (hRb x)
  · intro hx
    exact (List.mem_append.mp hx).elim (fun hx => h'.cancel (hha hx)) hhb

lemma Later.mono {d d' : LogDownloader} {R' : Action → Prop} (h : Later H R d d') (hR : ∀ a, R a → R' a) :
    Later H R' d d' := by
  obtain ⟨a, ha, hRa, hha⟩ := h.trace
  exact ⟨h.cancel, h.pending, a, ha, fun x hx => hR x (hRa x hx), hha⟩

instance : Std.Refl (Later H R) := ⟨Later.refl⟩

instance : IsTrans LogDownloader (Later H R) := ⟨fun _ _ _ => Later.trans⟩

instance : Std.Refl (Quiet H ids) := ⟨fun d => ⟨Later.refl d, rfl, rfl⟩⟩

instance : IsTrans LogDownloader (Quiet H ids) :=
  ⟨fun _ _ _ h h' => ⟨h.later.trans h'.later, h'.storage.trans h.storage, h'.database.trans h.database⟩⟩

lemma deliver_later (settings : Settings) {tick : Tick} (hf : Fair H tick)
    (hR : ∀ a ∈ tick.marks, R a) (d : LogDownloader) : Later H R d (deliver settings tick d) := by
  refine ⟨?_, ?_, tick.marks, rfl, hR, ?_⟩
  · intro hc
    simp [deliver, Inbox.deliver_cancel, hc]
  · intro hp
    exact Inbox.deliver_pending hf.messages hp
  · intro hh
    simp [deliver, Inbox.deliver_cancel, hf.cancel hh]

lemma note_later {a : Action} (ha : R a) (h : a.isEvent = false) (d : LogDownloader) :
    Later H R d { d with trace := d.trace ++ [a] } := by
  refine ⟨fun hc => hc, fun hp => hp, [a], rfl, by simpa using ha, ?_⟩
  intro hm
  obtain rfl := List.mem_singleton.mp hm
  cases h

section

variable (settings : Settings)

lemma await_quiet : Prog.Moves (Fair H) (Quiet H ids) (await settings) :=
  Prog.Moves.next (fun _ d hf => ⟨deliver_later settings hf (hf.routine ids) d, rfl, rfl⟩)

lemma note_quiet {a : Action} (h : a.isEvent = false) (ha : Routine ids a) :
    Prog.Moves (Fair H) (Quiet H ids) (note a h) :=
  Prog.Moves.modify (fun d => ⟨note_later ha h d, rfl, rfl⟩)

lemma note_returns {a : Action} (h : a.isEvent = false) {P : LogDownloader → Prop}
    {Q : Unit → LogDownloader → Prop} (hQ : ∀ d, P d → Q () { d with trace := d.trace ++ [a] }) :
    Prog.Triple (Fair H) P (note a h) Q :=
  .modify hQ

lemma modify_quiet {f : LogDownloader → LogDownloader} {hl : ∀ d, law.rel d [] (f d)}
    (hc : ∀ d, (f d).inbox.cancelRequested = d.inbox.cancelRequested)
    (hp : ∀ d, ∀ e ∈ (f d).inbox.pendingEntries, e ∈ d.inbox.pendingEntries)
    (ht : ∀ d, (f d).trace = d.trace) (hs : ∀ d, (f d).storage = d.storage)
    (hd : ∀ d, (f d).database = d.database) : Prog.Moves (Fair H) (Quiet H ids) (Prog.modify f hl) := by
  refine Prog.Moves.modify (fun d => ⟨⟨?_, ?_, [], ?_, by simp, by simp⟩, hs d, hd d⟩)
  · rw [hc]
    exact fun h => h
  · exact fun h e he => h e (hp d e he)
  · rw [ht, List.append_nil]

lemma cancelled_quiet : Prog.Moves (Fair H) (Quiet H ids) (cancelled settings) :=
  .bind (await_quiet settings) fun _ => .bind .get fun _ => .pure _

lemma clearDataChunks_quiet : Prog.Moves (Fair H) (Quiet H ids) clearDataChunks :=
  modify_quiet (fun _ => rfl) (fun _ _ he => he) (fun _ => rfl) (fun _ => rfl) (fun _ => rfl)

lemma setFailure_quiet (reason : ArchiveFailureReason) : Prog.Moves (Fair H) (Quiet H ids) (setFailure reason) :=
  modify_quiet (fun _ => rfl) (fun _ _ he => he) (fun _ => rfl) (fun _ => rfl) (fun _ => rfl)

lemma updateProgress_quiet (progress : ActiveArchiveProgress) :
    Prog.Moves (Fair H) (Quiet H ids) (updateProgress progress) :=
  modify_quiet (fun _ => rfl) (fun _ _ he => he) (fun _ => rfl) (fun _ => rfl) (fun _ => rfl)

lemma requestLogEnd_quiet : Prog.Moves (Fair H) (Quiet H ids) requestLogEnd :=
  note_quiet rfl trivial

lemma requestLogData_quiet {id : UInt16} (hid : ids id) (offset count : ℕ) :
    Prog.Moves (Fair H) (Quiet H ids) (requestLogData settings id offset count) :=
  .bind (await_quiet settings) fun _ => .bind (note_quiet rfl hid) fun _ => .pure _

lemma pendingCount_quiet : Prog.Moves (Fair H) (Quiet H ids) pendingCount := .bind .get fun _ => .pure _

lemma enumerationRound_quiet (deadline : ℤ) (seen : ℕ × ℤ) :
    Prog.Moves (Fair H) (Quiet H ids) (enumerationRound settings deadline seen) := by
  refine .bind (await_quiet settings) fun _ => .bind .get fun _ => .ite (.pure _) ?_
  refine .bind (await_quiet settings) fun _ => .bind pendingCount_quiet fun _ => ?_
  exact .ite (.pure _) (.ite (.pure _) (.pure _))

lemma enumerationAttempt_quiet (attempts attempt : ℤ) :
    Prog.Moves (Fair H) (Quiet H ids) (enumerationAttempt settings attempts attempt) := by
  refine .bind (note_quiet rfl trivial) fun _ => .bind (await_quiet settings) fun _ => ?_
  refine .bind pendingCount_quiet fun _ => .bind (.iterate (enumerationRound_quiet settings _) _) fun _ => ?_
  refine .bind (cancelled_quiet settings) fun _ => .bind pendingCount_quiet fun _ => .ite (.pure _) ?_
  exact .bind (cancelled_quiet settings) fun _ => .ite (.pure _) (.pure _)

lemma runSession_quiet {p : Params} (hid : ids p.logId) (file : OutputFile) :
    Prog.Moves (Fair H) (Quiet H ids) (runSession settings p file) := by
  intro d₀ d ticks a d' rest hd hf hr
  subst hd
  obtain ⟨⟨r, s, rest'⟩, hrun, heq⟩ := Option.map_eq_some_iff.mp hr
  obtain ⟨_, rfl, rfl⟩ : _ ∧ _ ∧ rest' = rest := by simpa using heq
  obtain ⟨hh, hrest⟩ := StreamDownload.run_history hf hrun
  refine ⟨⟨⟨hh.cancel, hh.pending, s.trace ++ [.session p s.transfer.processed], ?_, ?_, ?_⟩, rfl, rfl⟩, hrest⟩
  · rfl
  · intro a ha
    rcases List.mem_append.mp ha with ha | ha
    · have hr := hh.routine a ha
      exact hr.mono (fun id hid' => hid' ▸ hid)
    · obtain rfl := List.mem_singleton.mp ha
      exact hid
  · intro ha
    exact hh.hit (by simpa using ha)

lemma readFile_quiet (path : Path) : Prog.Moves (Fair H) (Quiet H ids) (readFile settings path) :=
  .bind (await_quiet settings) fun _ => .bind .get fun _ => .pure _

lemma verifyDataFlashFile_quiet (path : Path) :
    Prog.Moves (Fair H) (Quiet H ids) (verifyDataFlashFile settings path) := by
  refine .ite (.pure _) (.bind (readFile_quiet settings path) ?_)
  rintro (_ | bytes)
  · exact .pure _
  · exact .pure _

lemma waitRound_quiet (id : UInt16) (expectedOffset : ℕ) (deadline : ℤ) (u : Unit) :
    Prog.Moves (Fair H) (Quiet H ids) (waitRound settings id expectedOffset deadline u) := by
  refine .bind (await_quiet settings) fun _ => .bind .get fun _ => .ite (.pure _) ?_
  refine .bind (await_quiet settings) fun _ => .bind .get fun d => ?_
  split
  · exact .pure _
  · refine .bind ?_ fun _ => .pure _
    exact modify_quiet (fun _ => rfl) (fun _ _ he => he) (fun _ => rfl) (fun _ => rfl) (fun _ => rfl)

lemma waitForLogData_quiet (id : UInt16) (expectedOffset : ℕ) :
    Prog.Moves (Fair H) (Quiet H ids) (waitForLogData settings id expectedOffset) :=
  .bind (await_quiet settings) fun _ => .iterate (waitRound_quiet settings id expectedOffset _) ()

lemma rereadSamples_quiet {entry : LogEntry} (hid : ids entry.id) (content : List UInt8) (good : Bool)
    (offsets : List ℕ) :
    Prog.Moves (Fair H) (Quiet H ids) (rereadSamples settings entry content good offsets) := by
  induction offsets generalizing good with
  | nil => exact .bind requestLogEnd_quiet fun _ => .pure _
  | cons ofs offsets ih =>
    refine .bind (requestLogData_quiet settings hid _ _) fun _ => .ite (.pure _) ?_
    refine .bind (waitForLogData_quiet settings _ _) ?_
    rintro (_ | chunk)
    · exact .pure _
    · exact .ite (.pure _) (ih _)

lemma verifyFcSampleReread_quiet {entry : LogEntry} (hid : ids entry.id) (path : Path) (sha256 : String) :
    Prog.Moves (Fair H) (Quiet H ids) (verifyFcSampleReread settings entry path sha256) := by
  rw [verifyFcSampleReread]
  cases parseFcRereadMode settings.download.verifyFcReread with
  | none => exact .pure _
  | full =>
    refine .bind clearDataChunks_quiet fun _ => .bind (runSession_quiet settings hid _) fun _ => ?_
    exact .bind requestLogEnd_quiet fun _ => .pure _
  | sample =>
    refine .ite (.pure _) (.bind (readFile_quiet settings path) ?_)
    rintro (_ | content)
    · exact .pure _
    · exact .bind clearDataChunks_quiet fun _ => rereadSamples_quiet settings hid content true _

lemma cancelled_returns (d₀ : LogDownloader) : Prog.Triple (Fair H) (fun d => d = d₀) (cancelled settings)
    (fun stop d => Quiet H ids d₀ d ∧ stop = d.inbox.cancelRequested) := by
  refine .bind (M := fun _ => Quiet H ids d₀) (await_quiet settings d₀) fun _ => ?_
  refine .bind (M := fun d' d => Quiet H ids d₀ d ∧ d' = d) (.get fun d hd => ⟨hd, rfl⟩) fun d' => ?_
  exact .pure fun d hd => ⟨hd.1, by rw [hd.2]⟩

structure Enumerates (H : Promise) (d d' : LogDownloader) (entries : List LogEntry) : Prop where
  step : ∃ mid order, Quiet H (fun _ => False) d mid ∧ (∀ e ∈ mid.inbox.pendingEntries, H.message (.logEntry e)) ∧
    entries = settleEntries order mid.inbox.pendingEntries ∧
    d' = { mid with trace := mid.trace ++ [.enumerated mid.inbox.pendingEntries entries, .request .finish] }

lemma enumerateLogs_returns (d₀ : LogDownloader) :
    Prog.Triple (Fair H) (fun d => d = d₀) (enumerateLogs settings)
      (fun entries d => Enumerates H d₀ d entries) := by
  let mid (d : LogDownloader) : Prop :=
    Quiet H (fun _ => False) d₀ d ∧ ∀ e ∈ d.inbox.pendingEntries, H.message (.logEntry e)
  have hmid : ∀ d d', Quiet H (fun _ => False) d d' → mid d → mid d' := by
    intro d d' hq hm
    exact ⟨trans_of (Quiet H fun _ => False) hm.1 hq, hq.later.pending hm.2⟩
  refine .bind (M := fun _ => mid) ?_ fun _ => ?_
  · refine .modify ?_
    rintro d rfl
    exact ⟨⟨⟨fun h => h, fun _ => by simp, [], by simp, by simp, by simp⟩, rfl, rfl⟩, by simp⟩
  refine .bind ((Prog.Moves.iterate (enumerationAttempt_quiet settings _) 1).keeps hmid) fun _ => ?_
  refine .bind ((await_quiet settings).keeps hmid) fun tick => ?_
  refine .bind (M := fun d' d => mid d ∧ d' = d) (.get fun d hd => ⟨hd, rfl⟩) fun d' => ?_
  refine .bind (M := fun _ d => ∃ m, mid m ∧ d' = m ∧ d = { m with trace := m.trace ++
      [.enumerated m.inbox.pendingEntries (settleEntries tick.order m.inbox.pendingEntries)] }) ?_ fun _ => ?_
  · apply note_returns
    rintro d ⟨hd, rfl⟩
    exact ⟨d', hd, rfl, rfl⟩
  refine .bind (M := fun _ d => Enumerates H d₀ d (settleEntries tick.order d'.inbox.pendingEntries)) ?_
    fun _ => .pure fun _ hd => hd
  apply note_returns
  rintro d ⟨m, hm, rfl, rfl⟩
  exact ⟨d', tick.order, hm.1, hm.2, rfl, by simp⟩

end

end MavlinkLogService.Archive.LogDownloader
