import MavlinkLogService.Actions

/-! What the receive thread of the log downloader writes and the main thread reads: the pending
log entries, the queued data chunks, the zero-length counter and the cancel flag. -/

namespace MavlinkLogService.Session

structure Inbox where
  pendingEntries : List LogEntry := []
  dataChunks : List LogDataChunk := []
  zeroLengthDataCount : ℕ := 0
  cancelRequested : Bool := false
  deriving DecidableEq, Repr

/-- What the environment contributes to one interaction of the main thread: the messages handled and
the cancellations requested since the previous one, the readings it returns, and the part of the
history that belongs to it. -/
structure Tick where
  messages : List LogMessage := []
  cancel : Bool := false
  now : ℤ := 0
  nowIdle : ℤ := 0
  wall : ℤ := 0
  connected : Bool := true
  heartbeatFresh : Bool := true
  ioOk : Bool := true
  order : List ℕ := []
  fileFails : ℕ → Option ℕ := fun _ => none
  marks : List Action := []

def queueCap (settings : DownloadSettings) : ℕ :=
  if 0 < settings.maxQueuedLogData then settings.maxQueuedLogData.toNat else 2048

def trimDataChunkQueue (cap : ℕ) (chunks : List LogDataChunk) : List LogDataChunk :=
  chunks.drop (chunks.length - cap)

namespace Inbox

def onMessage (settings : DownloadSettings) (inbox : Inbox) : LogMessage → Inbox
  | .logEntry entry => { inbox with pendingEntries := inbox.pendingEntries ++ [entry] }
  | .logData id ofs count bytes =>
    if count = 0 then { inbox with zeroLengthDataCount := inbox.zeroLengthDataCount + 1 }
    else
      let chunk : LogDataChunk := ⟨id, ofs, count.toNat, bytes.take count.toNat⟩
      { inbox with dataChunks := trimDataChunkQueue (queueCap settings) (inbox.dataChunks ++ [chunk]) }

def requestCancel (inbox : Inbox) : Inbox := { inbox with cancelRequested := true }

def resetCancel (inbox : Inbox) : Inbox := { inbox with cancelRequested := false }

def clearDataChunks (inbox : Inbox) : Inbox := { inbox with dataChunks := [] }

def drainLogDataChunks (inbox : Inbox) (logId : UInt16) : List LogDataChunk × Inbox :=
  (inbox.dataChunks.filter (fun c => c.id == logId),
    { inbox with dataChunks := inbox.dataChunks.filter (fun c => c.id != logId) })

def deliver (settings : DownloadSettings) (tick : Tick) (inbox : Inbox) : Inbox :=
  let inbox := tick.messages.foldl (onMessage settings) inbox
  if tick.cancel then inbox.requestCancel else inbox

end Inbox

def Tick.Receives (Q : LogDataChunk → Prop) (tick : Tick) : Prop :=
  ∀ message ∈ tick.messages, ∀ chunk, message.chunk? = some chunk → Q chunk

namespace Inbox

variable {Q : LogDataChunk → Prop} {inbox : Inbox}

lemma onMessage_chunk (settings : DownloadSettings) (inbox : Inbox) {message : LogMessage} {chunk : LogDataChunk}
    (h : message.chunk? = some chunk) : inbox.onMessage settings message =
      { inbox with dataChunks := trimDataChunkQueue (queueCap settings) (inbox.dataChunks ++ [chunk]) } := by
  obtain ⟨id, ofs, count, bytes, rfl, h₀, rfl⟩ := LogMessage.chunk_eq h
  rw [onMessage, if_neg h₀]

lemma onMessage_silent (settings : DownloadSettings) (inbox : Inbox) {message : LogMessage}
    (h : message.chunk? = none) : (inbox.onMessage settings message).dataChunks = inbox.dataChunks := by
  cases message with
  | logEntry entry => rfl
  | logData id ofs count bytes =>
    rw [LogMessage.chunk?] at h
    split_ifs at h with h₀
    rw [onMessage, if_pos h₀]

lemma onMessage_chunks (settings : DownloadSettings) (hq : ∀ c ∈ inbox.dataChunks, Q c)
    {message : LogMessage} (hm : ∀ chunk, message.chunk? = some chunk → Q chunk) :
    ∀ c ∈ (inbox.onMessage settings message).dataChunks, Q c := by
  intro c hc
  cases hchunk : message.chunk? with
  | none =>
    rw [onMessage_silent settings inbox hchunk] at hc
    exact hq c hc
  | some chunk =>
    rw [onMessage_chunk settings inbox hchunk] at hc
    rcases List.mem_append.mp (List.mem_of_mem_drop hc) with hc | hc
    · exact hq c hc
    · obtain rfl := List.mem_singleton.mp hc
      exact hm c hchunk

lemma foldl_chunks (settings : DownloadSettings) {ms : List LogMessage} (hq : ∀ c ∈ inbox.dataChunks, Q c)
    (hms : ∀ m ∈ ms, ∀ chunk, m.chunk? = some chunk → Q chunk) :
    ∀ c ∈ (ms.foldl (onMessage settings) inbox).dataChunks, Q c :=
  List.foldlRecOn (motive := fun inbox : Inbox => ∀ c ∈ inbox.dataChunks, Q c) ms (onMessage settings) hq
    fun _ hq' m hm => onMessage_chunks settings hq' (hms m hm)

lemma deliver_chunks (settings : DownloadSettings) {tick : Tick} (hq : ∀ c ∈ inbox.dataChunks, Q c)
    (ht : tick.Receives Q) : ∀ c ∈ (inbox.deliver settings tick).dataChunks, Q c := by
  simp only [deliver]
  split_ifs
  · exact foldl_chunks settings hq ht
  · exact foldl_chunks settings hq ht

lemma drain_chunks (hq : ∀ c ∈ inbox.dataChunks, Q c) (id : UInt16) :
    (∀ c ∈ (inbox.drainLogDataChunks id).1, c.id = id ∧ Q c) ∧
      ∀ c ∈ (inbox.drainLogDataChunks id).2.dataChunks, Q c := by
  refine ⟨?_, ?_⟩
  · intro c hc
    have hm := List.mem_filter.mp hc
    exact ⟨by simpa using hm.2, hq c hm.1⟩
  · intro c hc
    exact hq c (List.mem_filter.mp hc).1

end Inbox

end MavlinkLogService.Session
