import MavlinkLogService.Library.BoundedQueue
import MavlinkLogService.Session.Inbox

/-! The chunk queue between the receive thread and the main thread under any interleaving of the calls that
change it. -/

namespace MavlinkLogService.Session

open Library Library.BoundedQueue

/-- The loop of `drainLogDataChunks`: its iterator stands between the chunks it has passed and the others. -/
def drainLoop (logId : UInt16) (out passed : List LogDataChunk) :
    List LogDataChunk → List LogDataChunk × List LogDataChunk
  | [] => (out, passed)
  | chunk :: chunks =>
    if chunk.id ≠ logId then drainLoop logId out (passed ++ [chunk]) chunks
    else drainLoop logId (out ++ [chunk]) passed chunks

def trimLoop (cap dropped : ℕ) : List LogDataChunk → ℕ × List LogDataChunk
  | [] => (dropped, [])
  | chunk :: chunks =>
    if cap < (chunk :: chunks).length then trimLoop cap (dropped + 1) chunks else (dropped, chunk :: chunks)

lemma drainLoop_eq (logId : UInt16) (out passed chunks : List LogDataChunk) : drainLoop logId out passed chunks =
    (out ++ chunks.filter (fun c => c.id == logId), passed ++ chunks.filter (fun c => c.id != logId)) := by
  induction chunks generalizing out passed with
  | nil => simp [drainLoop]
  | cons chunk chunks ih =>
    rw [drainLoop]
    split_ifs with h
    · rw [ih, List.filter_cons_of_neg (by simpa using h), List.filter_cons_of_pos (by simpa using h), List.append_assoc]
      rfl
    · rw [not_not] at h
      rw [ih, List.filter_cons_of_pos (by simpa using h), List.filter_cons_of_neg (by simpa using h), List.append_assoc]
      rfl

lemma trimLoop_eq (cap dropped : ℕ) (chunks : List LogDataChunk) :
    trimLoop cap dropped chunks = (dropped + (chunks.length - cap), trimDataChunkQueue cap chunks) := by
  induction chunks generalizing dropped with
  | nil => simp [trimLoop, trimDataChunkQueue]
  | cons chunk chunks ih =>
    rw [trimLoop]
    split_ifs with h
    · -- one more chunk is popped than from the rest of the queue
      have hsub : (chunk :: chunks).length - cap = chunks.length - cap + 1 := by
        rw [List.length_cons] at h ⊢
        omega
      rw [ih, trimDataChunkQueue, trimDataChunkQueue, hsub, List.drop_succ_cons]
      congr 1
      omega
    · rw [trimDataChunkQueue, Nat.sub_eq_zero_of_le (not_lt.mp h)]
      rfl

theorem trimDataChunkQueue_loop (cap : ℕ) (chunks : List LogDataChunk) :
    trimDataChunkQueue cap chunks = (trimLoop cap 0 chunks).2 := by
  rw [trimLoop_eq]

inductive QueueCall
  | onMessage (message : LogMessage)
  | drainLogDataChunks (logId : UInt16)
  | clearDataChunks
  deriving DecidableEq, Repr

namespace QueueCall

def apply (settings : DownloadSettings) (inbox : Inbox) : QueueCall → List LogDataChunk × Inbox
  | .onMessage message => ([], inbox.onMessage settings message)
  | .drainLogDataChunks logId =>
    let (out, chunks) := drainLoop logId [] [] inbox.dataChunks
    (out, { inbox with dataChunks := chunks })
  | .clearDataChunks => ([], inbox.clearDataChunks)

def op : QueueCall → Op LogDataChunk UInt16
  | .onMessage message =>
    match message.chunk? with
    | some chunk => .push chunk
    | none => .idle
  | .drainLogDataChunks logId => .take logId
  | .clearDataChunks => .clear

end QueueCall

def inboxAfter (settings : DownloadSettings) (calls : List QueueCall) : Inbox :=
  calls.foldl (fun inbox call => (call.apply settings inbox).2) {}

def returned (settings : DownloadSettings) (calls : List QueueCall) : List (List LogDataChunk) :=
  calls.mapIdx fun j call => (call.apply settings (inboxAfter settings (calls.take j))).1

def numberedQueue (settings : DownloadSettings) (calls : List QueueCall) : List (ℕ × LogDataChunk) :=
  queued (queueCap settings) LogDataChunk.id (calls.map QueueCall.op)

def numberedReturns (settings : DownloadSettings) (calls : List QueueCall) : List (List (ℕ × LogDataChunk)) :=
  drawn (queueCap settings) LogDataChunk.id (calls.map QueueCall.op)

lemma drain_apply (settings : DownloadSettings) (inbox : Inbox) (logId : UInt16) :
    QueueCall.apply settings inbox (.drainLogDataChunks logId) = inbox.drainLogDataChunks logId := by
  rw [QueueCall.apply, drainLoop_eq]
  rfl

lemma apply_queue (settings : DownloadSettings) (inbox : Inbox) (call : QueueCall) :
    (call.apply settings inbox).2.dataChunks = step (queueCap settings) LogDataChunk.id inbox.dataChunks call.op ∧
      (call.apply settings inbox).1 = taken LogDataChunk.id inbox.dataChunks call.op := by
  cases call with
  | onMessage message =>
    rw [QueueCall.apply, QueueCall.op]
    cases hchunk : message.chunk? with
    | none => exact ⟨Inbox.onMessage_silent settings inbox hchunk, rfl⟩
    | some chunk =>
      rw [Inbox.onMessage_chunk settings inbox hchunk]
      exact ⟨rfl, rfl⟩
  | drainLogDataChunks logId =>
    rw [drain_apply]
    exact ⟨rfl, rfl⟩
  | clearDataChunks => exact ⟨rfl, rfl⟩

section

variable (settings : DownloadSettings) (calls : List QueueCall)

lemma inboxAfter_queue :
    (inboxAfter settings calls).dataChunks = after (queueCap settings) LogDataChunk.id (calls.map QueueCall.op) := by
  induction calls using List.reverseRecOn with
  | nil => rfl
  | append_singleton calls call ih =>
    rw [inboxAfter, List.foldl_append, List.map_append, List.map_singleton, after_snoc, ← ih]
    exact (apply_queue settings (inboxAfter settings calls) call).1

lemma returned_eq : returned settings calls =
    along (queueCap settings) LogDataChunk.id (taken LogDataChunk.id) (calls.map QueueCall.op) := by
  apply List.ext_getElem?
  intro j
  rw [returned, along, List.getElem?_mapIdx, List.getElem?_mapIdx, List.getElem?_map, Option.map_map, ← List.map_take,
    ← inboxAfter_queue]
  cases calls[j]? with
  | none => rfl
  | some call => exact congrArg some (apply_queue settings _ call).2

variable {settings calls}

lemma op_eq_push {call : QueueCall} {chunk : LogDataChunk} :
    call.op = .push chunk ↔ ∃ message, call = .onMessage message ∧ message.chunk? = some chunk := by
  cases call with
  | onMessage message => cases hchunk : message.chunk? <;> simp [QueueCall.op, hchunk]
  | drainLogDataChunks logId => simp [QueueCall.op]
  | clearDataChunks => simp [QueueCall.op]

lemma op_eq_clear {call : QueueCall} : call.op = .clear ↔ call = .clearDataChunks := by
  cases call with
  | onMessage message => cases hchunk : message.chunk? <;> simp [QueueCall.op, hchunk]
  | drainLogDataChunks logId => simp [QueueCall.op]
  | clearDataChunks => simp [QueueCall.op]

lemma push_at {i : ℕ} {chunk : LogDataChunk} : (calls.map QueueCall.op)[i]? = some (.push chunk) ↔
    ∃ message, calls[i]? = some (.onMessage message) ∧ message.chunk? = some chunk := by
  rw [List.getElem?_map, Option.map_eq_some_iff]
  simp only [op_eq_push]
  constructor
  · rintro ⟨_, hcall, message, rfl, hchunk⟩
    exact ⟨message, hcall, hchunk⟩
  · rintro ⟨message, hcall, hchunk⟩
    exact ⟨_, hcall, message, rfl, hchunk⟩

lemma lost_chunk {i : ℕ} {message : LogMessage} {chunk : LogDataChunk} (hcall : calls[i]? = some (.onMessage message))
    (hchunk : message.chunk? = some chunk) (hreturned : (i, chunk) ∉ (numberedReturns settings calls).flatten)
    (hqueued : (i, chunk) ∉ numberedQueue settings calls) :
    ∃ j, i ≤ j ∧ (calls[j]? = some .clearDataChunks ∧ (i, chunk) ∈ numberedQueue settings (calls.take j) ∨
      ∃ m c, calls[j]? = some (.onMessage m) ∧ m.chunk? = some c ∧
        let queue := numberedQueue settings (calls.take j) ++ [(j, c)]
        queueCap settings < queue.length ∧ (i, chunk) ∈ queue.take (queue.length - queueCap settings)) := by
  obtain ⟨j, op, hij, hop, hlost⟩ :=
    lost_of_missing _ _ _ (push_at.mpr ⟨message, hcall, hchunk⟩) hreturned hqueued
  rw [← List.map_take] at hlost
  refine ⟨j, hij, ?_⟩
  cases op with
  | push c =>
    obtain ⟨m, hm, hc⟩ := push_at.mp hop
    refine Or.inr ⟨m, c, hm, hc, ?_, hlost⟩
    by_contra hle
    have hdropped : (i, chunk) ∈ (numberedQueue settings (calls.take j) ++ [(j, c)]).take
        ((numberedQueue settings (calls.take j) ++ [(j, c)]).length - queueCap settings) := hlost
    rw [Nat.sub_eq_zero_of_le (not_lt.mp hle)] at hdropped
    cases hdropped
  | take k => cases hlost
  | clear =>
    rw [List.getElem?_map, Option.map_eq_some_iff] at hop
    obtain ⟨call, hat, hclear⟩ := hop
    exact Or.inl ⟨op_eq_clear.mp hclear ▸ hat, hlost⟩
  | idle => cases hlost

end

theorem chunkQueue_bounded_fifo (settings : DownloadSettings) (calls : List QueueCall) :
    let queue := (inboxAfter settings calls).dataChunks
    let drained := numberedReturns settings calls
    queue.length ≤ queueCap settings ∧
      (∀ logId, (QueueCall.apply settings (inboxAfter settings calls) (.drainLogDataChunks logId)).1 =
          queue.filter (fun c => c.id = logId) ∧
        (QueueCall.apply settings (inboxAfter settings calls) (.drainLogDataChunks logId)).2.dataChunks =
          queue.filter (fun c => c.id ≠ logId)) ∧
      (numberedQueue settings calls).map Prod.snd = queue ∧
      ((numberedQueue settings calls).map Prod.fst).Pairwise (· < ·) ∧
      drained.map (List.map Prod.snd) = returned settings calls ∧
      (∀ x, x ∈ drained.flatten ∨ x ∈ numberedQueue settings calls →
        ∃ message, calls[x.1]? = some (.onMessage message) ∧ message.chunk? = some x.2) ∧
      (drained.flatten.map Prod.fst).Nodup ∧
      ∀ i message chunk, calls[i]? = some (.onMessage message) → message.chunk? = some chunk →
        (i, chunk) ∉ drained.flatten → (i, chunk) ∉ numberedQueue settings calls →
        ∃ j, i ≤ j ∧ (calls[j]? = some .clearDataChunks ∧ (i, chunk) ∈ numberedQueue settings (calls.take j) ∨
          ∃ m c, calls[j]? = some (.onMessage m) ∧ m.chunk? = some c ∧
            let queue := numberedQueue settings (calls.take j) ++ [(j, c)]
            queueCap settings < queue.length ∧ (i, chunk) ∈ queue.take (queue.length - queueCap settings)) := by
  intro queue drained
  refine ⟨?_, fun logId => ?_, ?_, queued_sorted _ _ _, ?_, fun x hx => push_at.mp (mem_run _ _ _ hx),
    drawn_nodup _ _ _, fun i message chunk hcall hchunk hreturned hqueued => lost_chunk hcall hchunk hreturned hqueued⟩
  · simp only [queue, inboxAfter_queue]
    exact after_length _ _ _
  · rw [drain_apply]
    refine ⟨rfl, List.filter_congr fun c _ => ?_⟩
    rw [decide_not]
    rfl
  · simp only [queue, inboxAfter_queue]
    exact queued_erase _ _ _
  · rw [returned_eq]
    exact drawn_erase _ _ _

theorem chunkQueue_bounded_fifo_overflow :
    let settings : DownloadSettings := { maxQueuedLogData := 1 }
    let calls : List QueueCall :=
      [.onMessage (.logData 1 0 1 [7]), .onMessage (.logData 2 0 1 [8]), .drainLogDataChunks 2]
    (inboxAfter settings calls).dataChunks.length ≤ 1 ∧ returned settings calls = [[], [], [⟨2, 0, 1, [8]⟩]] ∧
      ∃ j m c, calls[j]? = some (.onMessage m) ∧ m.chunk? = some c ∧
        (0, ⟨1, 0, 1, [7]⟩) ∈ (numberedQueue settings (calls.take j) ++ [(j, c)]).take
          ((numberedQueue settings (calls.take j) ++ [(j, c)]).length - 1) := by
  intro settings calls
  obtain ⟨hbound, _, _, _, hreturned, _, _, hlost⟩ := chunkQueue_bounded_fifo settings calls
  refine ⟨hbound, hreturned ▸ by decide +kernel, ?_⟩
  obtain ⟨j, _, ⟨hclear, _⟩ | ⟨m, c, hcall, hchunk, _, hdropped⟩⟩ :=
    hlost 0 (.logData 1 0 1 [7]) ⟨1, 0, 1, [7]⟩ rfl (by decide) (by decide +kernel) (by decide +kernel)
  · exact absurd (List.mem_of_getElem? hclear) (by decide)
  · exact ⟨j, m, c, hcall, hchunk, hdropped⟩

end MavlinkLogService.Session
