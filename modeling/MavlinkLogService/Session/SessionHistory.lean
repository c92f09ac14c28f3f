import MavlinkLogService.Session.StreamDownload

/-! What a session adds to the history of a run: its own requests and what the environment contributes. -/

namespace MavlinkLogService.Session

def Routine (ids : UInt16 → Prop) : Action → Prop
  | .armed | .disarmed | .hit => True
  | .request .list | .request .finish => True
  | .request (.data id _ _) => ids id
  | .session p _ => ids p.logId
  | _ => False

lemma Routine.mono {ids ids' : UInt16 → Prop} {a : Action} (h : Routine ids a)
    (hi : ∀ id, ids id → ids' id) : Routine ids' a := by
  cases a with
  | request r => cases r <;> first | exact hi _ h | exact h
  | session p processed => exact hi _ h
  | _ => exact h

structure Promise where
  message : LogMessage → Prop := fun _ => True
  disk : Prop := False

/-- The history of a tick holds events only, and an event that hits the job in progress raises the
cancel flag. -/
structure Fair (H : Promise) (tick : Tick) : Prop where
  events : ∀ a ∈ tick.marks, a = .armed ∨ a = .disarmed ∨ a = .hit
  cancel : .hit ∈ tick.marks → tick.cancel = true
  messages : ∀ m ∈ tick.messages, H.message m
  disk : H.disk → ∀ n, tick.fileFails n = none

lemma Fair.routine {H : Promise} {tick : Tick} (h : Fair H tick) (ids : UInt16 → Prop) :
    ∀ a ∈ tick.marks, Routine ids a := by
  intro a ha
  rcases h.events a ha with rfl | rfl | rfl <;> trivial

namespace Inbox

variable {settings : DownloadSettings} {inbox : Inbox} {tick : Tick}

lemma onMessage_cancel (m : LogMessage) :
    (inbox.onMessage settings m).cancelRequested = inbox.cancelRequested := by
  cases m with
  | logEntry entry => rfl
  | logData id ofs count bytes =>
    rw [onMessage]
    split_ifs <;> rfl

lemma deliver_cancel :
    (inbox.deliver settings tick).cancelRequested = (inbox.cancelRequested || tick.cancel) := by
  have hfold : (tick.messages.foldl (onMessage settings) inbox).cancelRequested = inbox.cancelRequested :=
    List.foldlRecOn (motive := fun inbox' : Inbox => inbox'.cancelRequested = inbox.cancelRequested) tick.messages
      (onMessage settings) rfl fun inbox' h m _ => (onMessage_cancel m).trans h
  simp only [deliver]
  split_ifs with h
  · simp [requestCancel, h]
  · simp [hfold, h]

lemma onMessage_pending {H : LogMessage → Prop} {m : LogMessage} (hm : H m)
    (h : ∀ e ∈ inbox.pendingEntries, H (.logEntry e)) :
    ∀ e ∈ (inbox.onMessage settings m).pendingEntries, H (.logEntry e) := by
  intro e he
  cases m with
  | logEntry entry =>
    rcases List.mem_append.mp he with he | he
    · exact h e he
    · obtain rfl := List.mem_singleton.mp he
      exact hm
  | logData id ofs count bytes =>
    rw [onMessage] at he
    split_ifs at he <;> exact h e he

lemma deliver_pending {H : LogMessage → Prop} (ht : ∀ m ∈ tick.messages, H m)
    (h : ∀ e ∈ inbox.pendingEntries, H (.logEntry e)) :
    ∀ e ∈ (inbox.deliver settings tick).pendingEntries, H (.logEntry e) := by
  have hfold : ∀ e ∈ (tick.messages.foldl (onMessage settings) inbox).pendingEntries, H (.logEntry e) :=
    List.foldlRecOn (motive := fun inbox : Inbox => ∀ e ∈ inbox.pendingEntries, H (.logEntry e)) tick.messages
      (onMessage settings) h fun _ h' m hm => onMessage_pending (ht m hm) h'
  simp only [deliver]
  split_ifs
  · exact hfold
  · exact hfold

end Inbox

namespace StreamDownload

structure Sends (p : Params) (s s' : StreamDownload) : Prop where
  cancel : s'.inbox.cancelRequested = s.inbox.cancelRequested
  pending : s'.inbox.pendingEntries = s.inbox.pendingEntries
  trace : ∃ ext, s'.trace = s.trace ++ ext ∧
    ∀ a ∈ ext, ∃ r, a = .request r ∧ (r = .finish ∨ ∃ x n, r = .data p.logId x n)

variable {settings : DownloadSettings} {p : Params} {s s' s'' : StreamDownload} {tick : Tick}

lemma Sends.refl (p : Params) (s : StreamDownload) : Sends p s s := ⟨rfl, rfl, [], by simp, by simp⟩

lemma Sends.trans (h : Sends p s s') (h' : Sends p s' s'') : Sends p s s'' := by
  obtain ⟨a, ha, hra⟩ := h.trace
  obtain ⟨b, hb, hrb⟩ := h'.trace
  refine ⟨h'.cancel.trans h.cancel, h'.pending.trans h.pending, a ++ b, ?_, ?_⟩
  · rw [hb, ha, List.append_assoc]
  · intro x hx
    rcases List.mem_append.mp hx with hx | hx
    · exact hra x hx
    · exact hrb x hx

lemma finish_sends (success : Bool) : Sends p s (s.finish p success) := by
  rw [finish, flushFile]
  split_ifs <;> exact ⟨rfl, rfl, [], by simp, by simp⟩

lemma abort_sends (failure : ArchiveFailureReason) : Sends p s (s.abort p failure) :=
  ⟨rfl, rfl, [], by simp [abort], by simp⟩

lemma startAttempt_sends : Sends p s (s.startAttempt settings p tick) := by
  simp only [startAttempt]
  split_ifs
  · exact finish_sends false
  · exact abort_sends _
  · refine ⟨rfl, rfl, _, rfl, ?_⟩
    simp
  · exact ⟨rfl, rfl, [], by simp, by simp⟩

lemma endTransfer_sends : Sends p s s.endTransfer := by
  refine ⟨rfl, rfl, _, rfl, ?_⟩
  simp

lemma countStall_sends : Sends p s s.countStall := by
  rw [countStall]
  split_ifs <;> exact ⟨rfl, rfl, [], by simp, by simp⟩

lemma nextAttempt_sends : Sends p s (s.nextAttempt settings) := by
  simp only [nextAttempt]
  split_ifs
  · have h := endTransfer_sends (p := p) (s := s)
    exact ⟨h.cancel, h.pending, h.trace⟩
  · exact ⟨rfl, rfl, [], by simp, by simp⟩

lemma leaveAttempt_sends : Sends p s (s.leaveAttempt settings p) := by
  rw [leaveAttempt]
  split_ifs
  · have h := endTransfer_sends (p := p) (s := s)
    exact ⟨h.cancel, h.pending, h.trace⟩
  · exact (countStall_sends.trans endTransfer_sends).trans (abort_sends _)
  · exact (countStall_sends.trans endTransfer_sends).trans (abort_sends _)
  · exact countStall_sends.trans nextAttempt_sends

lemma noteProgress_sends : Sends p s (s.noteProgress tick) := by
  rw [noteProgress]
  split_ifs <;> exact ⟨rfl, rfl, [], by simp, by simp⟩

lemma fillGaps_sends (hs : s.fillGaps settings p tick = some s') : Sends p s s' := by
  rw [fillGaps] at hs
  split_ifs at hs
  · obtain ⟨requests, _, hr⟩ := Option.bind_eq_some_iff.mp hs
    obtain rfl := Option.some.inj hr
    refine ⟨rfl, rfl, _, rfl, ?_⟩
    intro a ha
    obtain ⟨r, _, rfl⟩ := List.mem_map.mp ha
    exact ⟨_, rfl, Or.inr ⟨r.1, r.2, rfl⟩⟩
  · obtain rfl := Option.some.inj hs
    exact Sends.refl p s

lemma processQueuedChunks_sends (settings : DownloadSettings) :
    Sends p s (s.processQueuedChunks settings p).1 :=
  ⟨rfl, rfl, [], by simp [processQueuedChunks], by simp⟩

lemma poll_sends : Sends p s (s.poll settings p tick) := by
  rw [poll]
  split_ifs
  · exact leaveAttempt_sends
  have hq := processQueuedChunks_sends settings (p := p) (s := s)
  obtain ⟨⟨s₁, ok⟩, hs₁⟩ : ∃ x, s.processQueuedChunks settings p = x := ⟨_, rfl⟩
  rw [hs₁] at hq ⊢
  cases ok with
  | false => exact hq.trans (abort_sends _)
  | true =>
    have hn : Sends p s (s₁.noteProgress tick) := hq.trans noteProgress_sends
    simp only
    split_ifs
    · exact hn.trans (finish_sends true)
    · cases hg : (s₁.noteProgress tick).fillGaps settings p tick with
      | none => exact ⟨hn.cancel, hn.pending, hn.trace⟩
      | some s₂ =>
        have hf := hn.trans (fillGaps_sends hg)
        simp only
        split_ifs
        · have hf' : Sends p s { s₂ with failure := classifyTimeout tick } :=
            ⟨hf.cancel, hf.pending, hf.trace⟩
          exact hf'.trans leaveAttempt_sends
        · exact hf

lemma advance_sends : Sends p s (s.advance settings p tick) := by
  rw [advance]
  split
  · exact startAttempt_sends
  · exact poll_sends
  · exact Sends.refl p s
  · exact Sends.refl p s

structure Heard (inbox : Inbox) (ticks : List Tick) (s : StreamDownload) : Prop where
  events : events s.trace = ticks.flatMap (fun t => events t.marks)
  cancel : s.inbox.cancelRequested = (inbox.cancelRequested || ticks.any (·.cancel))

lemma step_heard {inbox : Inbox} {ticks : List Tick} (h : Heard inbox ticks s) :
    Heard inbox (ticks ++ [tick]) (s.step settings p tick) := by
  have hs : Sends p (s.deliver settings tick) (s.step settings p tick) := advance_sends
  obtain ⟨ext, htrace, hext⟩ := hs.trace
  have hnone : MavlinkLogService.events ext = [] := by
    apply events_eq_nil
    intro a ha
    obtain ⟨r, rfl, _⟩ := hext a ha
    rfl
  refine ⟨?_, ?_⟩
  · rw [htrace, events_append, hnone, StreamDownload.deliver, events_append, h.events]
    simp
  · rw [hs.cancel, StreamDownload.deliver, Inbox.deliver_cancel, h.cancel]
    simp [Bool.or_assoc]

lemma runFrom_heard {inbox : Inbox} {before ticks rest : List Tick} {r : StreamDownloadResult}
    (h : Heard inbox before s) (hr : runFrom settings p ticks s = some (r, s', rest)) :
    ∃ used, ticks = used ++ rest ∧ Heard inbox (before ++ used) s' := by
  revert before
  apply runFrom_induct (M := fun ticks s => ∀ {before}, Heard inbox before s →
    ∃ used, ticks = used ++ rest ∧ Heard inbox (before ++ used) s') hr
  · intro _ before h
    exact ⟨[], rfl, by rwa [List.append_nil]⟩
  · intro tick ticks s _ ih before h
    obtain ⟨used, rfl, hu⟩ := ih (step_heard h)
    refine ⟨tick :: used, rfl, ?_⟩
    rwa [List.append_assoc, List.singleton_append] at hu

lemma run_heard {inbox : Inbox} {file : OutputFile} {ticks rest : List Tick} {r : StreamDownloadResult}
    (hr : run settings p inbox file ticks = some (r, s', rest)) :
    ∃ used, ticks = used ++ rest ∧ Heard inbox used s' := by
  have h₀ : Heard inbox [] (start p inbox file) := by
    rw [start]
    split_ifs <;> exact ⟨rfl, by simp [Inbox.clearDataChunks]⟩
  simpa using runFrom_heard h₀ hr

structure History (H : Promise) (p : Params) (inbox : Inbox) (s : StreamDownload) : Prop where
  cancel : inbox.cancelRequested = true → s.inbox.cancelRequested = true
  pending : (∀ e ∈ inbox.pendingEntries, H.message (.logEntry e)) →
    ∀ e ∈ s.inbox.pendingEntries, H.message (.logEntry e)
  routine : ∀ a ∈ s.trace, Routine (· = p.logId) a
  hit : .hit ∈ s.trace → s.inbox.cancelRequested = true

variable {H : Promise} {inbox : Inbox}

lemma history_sends (h : History H p inbox s) (hs : Sends p s s') : History H p inbox s' := by
  obtain ⟨ext, ht, hext⟩ := hs.trace
  refine ⟨by rw [hs.cancel]; exact h.cancel, by rw [hs.pending]; exact h.pending, ?_, ?_⟩
  · intro a ha
    rw [ht] at ha
    rcases List.mem_append.mp ha with ha | ha
    · exact h.routine a ha
    · obtain ⟨r, rfl, rfl | ⟨x, n, rfl⟩⟩ := hext a ha
      · trivial
      · exact rfl
  · intro hh
    rw [ht] at hh
    rw [hs.cancel]
    rcases List.mem_append.mp hh with hh | hh
    · exact h.hit hh
    · obtain ⟨r, hr, _⟩ := hext _ hh
      cases hr

lemma history_deliver (h : History H p inbox s) (hf : Fair H tick) :
    History H p inbox (s.deliver settings tick) := by
  refine ⟨?_, ?_, ?_, ?_⟩
  · intro hc
    simp [StreamDownload.deliver, Inbox.deliver_cancel, h.cancel hc]
  · intro hp
    exact Inbox.deliver_pending hf.messages (h.pending hp)
  · intro a ha
    rcases List.mem_append.mp ha with ha | ha
    · exact h.routine a ha
    · exact hf.routine _ a ha
  · intro hh
    rcases List.mem_append.mp hh with hh | hh
    · simp [StreamDownload.deliver, Inbox.deliver_cancel, h.hit hh]
    · simp [StreamDownload.deliver, Inbox.deliver_cancel, hf.cancel hh]

lemma step_history (h : History H p inbox s) (hf : Fair H tick) :
    History H p inbox (s.step settings p tick) :=
  history_sends (history_deliver h hf) advance_sends

lemma runFrom_history {ticks rest : List Tick} {r : StreamDownloadResult} (h : History H p inbox s)
    (hf : ∀ tick ∈ ticks, Fair H tick) (hr : runFrom settings p ticks s = some (r, s', rest)) :
    History H p inbox s' ∧ ∀ tick ∈ rest, Fair H tick := by
  refine ⟨(runFrom_invariant (fun s tick hf h => step_history h hf) hf h hr).1, fun tick ht => ?_⟩
  exact hf tick ((runFrom_suffix hr).subset ht)

lemma run_history {file : OutputFile} {ticks rest : List Tick} {r : StreamDownloadResult}
    (hf : ∀ tick ∈ ticks, Fair H tick) (hr : run settings p inbox file ticks = some (r, s', rest)) :
    History H p inbox s' ∧ ∀ tick ∈ rest, Fair H tick := by
  refine runFrom_history ?_ hf hr
  rw [start]
  split_ifs <;> exact ⟨fun hc => hc, fun hp => hp, by simp, by simp⟩

end StreamDownload

end MavlinkLogService.Session
