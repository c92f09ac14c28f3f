import MavlinkLogService.Session.SlotCoverage

/-! Where the bytes of a download come from: the payload fields of the `LOG_DATA` messages handled. -/

namespace MavlinkLogService

open Session

namespace LogMessage

def Decoded : LogMessage → Prop
  | .logEntry _ => True
  | .logData _ _ _ bytes => logChunkSize ≤ bytes.length

def WithinPayload : LogMessage → Prop
  | .logEntry _ => True
  | .logData _ _ count _ => count.toNat ≤ logChunkSize

def CarriesAt (id : UInt16) (x : ℕ) (b : UInt8) : LogMessage → Prop
  | .logEntry _ => False
  | .logData i ofs count bytes =>
    i = id ∧ ofs.toNat ≤ x ∧ x < ofs.toNat + count.toNat ∧ (bytes.take logChunkSize)[x - ofs.toNat]? = some b

def CopiedTo (chunk : LogDataChunk) : LogMessage → Prop
  | .logEntry _ => False
  | .logData id ofs count bytes =>
    chunk.id = id ∧ chunk.offset = ofs ∧ chunk.count = count.toNat ∧ chunk.data.length = chunk.count ∧
      chunk.count ≤ logChunkSize ∧ chunk.data <+: bytes.take logChunkSize

instance : DecidablePred Decoded
  | .logEntry _ => inferInstanceAs (Decidable True)
  | .logData _ _ _ _ => inferInstanceAs (Decidable (_ ≤ _))

instance : DecidablePred WithinPayload
  | .logEntry _ => inferInstanceAs (Decidable True)
  | .logData _ _ _ _ => inferInstanceAs (Decidable (_ ≤ _))

variable {m : LogMessage} {chunk : LogDataChunk}

lemma chunk_copied (hd : m.Decoded) (hw : m.WithinPayload) (h : m.chunk? = some chunk) : m.CopiedTo chunk := by
  obtain ⟨id, ofs, count, bytes, rfl, _, rfl⟩ := chunk_eq h
  have hsize : count.toNat ≤ bytes.length := le_trans hw hd
  exact ⟨rfl, rfl, rfl, by rw [List.length_take, min_eq_left hsize], hw, List.take_prefix_take_left hw⟩

lemma CopiedTo.length (h : m.CopiedTo chunk) : chunk.data.length = chunk.count := by
  cases m with
  | logEntry entry => exact h.elim
  | logData id ofs count bytes => exact h.2.2.2.1

lemma CopiedTo.le (h : m.CopiedTo chunk) : chunk.count ≤ logChunkSize := by
  cases m with
  | logEntry entry => exact h.elim
  | logData id ofs count bytes => exact h.2.2.2.2.1

lemma CopiedTo.carries (h : m.CopiedTo chunk) {i : ℕ} {b : UInt8} (hb : chunk.data[i]? = some b) :
    m.CarriesAt chunk.id (chunk.offset.toNat + i) b := by
  cases m with
  | logEntry entry => exact h.elim
  | logData id ofs count bytes =>
    obtain ⟨rfl, rfl, hcount, hlen, _, hpre⟩ := h
    have hi := (List.getElem?_eq_some_iff.mp hb).1
    obtain ⟨rest, hrest⟩ := hpre
    refine ⟨rfl, Nat.le_add_right _ _, by omega, ?_⟩
    rw [Nat.add_sub_cancel_left, ← hrest, List.getElem?_append_left hi, hb]

end LogMessage

namespace Session

open Library.Intervals

def Sent (ms : List LogMessage) (id : UInt16) (x : ℕ) (b : UInt8) : Prop := ∃ m ∈ ms, m.CarriesAt id x b

def Origin (ms : List LogMessage) (p : Params) (file : OutputFile) (x : ℕ) (b : UInt8) : Prop :=
  file.saved[x]? = some b ∨ file.content[x]? = some b ∨ (b = 0 ∧ file.saved.length ≤ x) ∨ Sent ms p.logId x b

structure OnlySent (ms : List LogMessage) (p : Params) (file : OutputFile) (t : Transfer) : Prop where
  covered : ∀ x, Covered t.ranges.ranges x → ∃ b, Sent ms p.logId x b
  size : file.saved.length ≤ t.file.content.length
  bytes : ∀ x b, t.file.content[x]? = some b → Origin ms p file x b
  stored : p.writeFile = true → file.Reliable → t.file.Reliable ∧
    ∀ x, Covered t.ranges.ranges x → ∃ b, t.file.content[x]? = some b ∧ Sent ms p.logId x b

structure Traced (ms : List LogMessage) (p : Params) (file : OutputFile) (t : Transfer) : Prop where
  covered : ∀ x, Covered t.ranges.ranges x → ∃ b, Sent ms p.logId x b
  held : t.file.Holds (Origin ms p file) file.saved.length
  stored : p.writeFile = true → file.Reliable → t.file.Reliable ∧
    ∀ x, Covered t.ranges.ranges x → ∃ b, t.file.content[x]? = some b ∧ Sent ms p.logId x b

section

variable {settings : DownloadSettings} {ms : List LogMessage} {p : Params} {file : OutputFile} {t : Transfer}

lemma origin_filler {x : ℕ} (hx : file.saved.length ≤ x) : Origin ms p file x 0 := Or.inr (Or.inr (Or.inl ⟨rfl, hx⟩))

lemma Traced.onlySent (h : Traced ms p file t) : OnlySent ms p file t := by
  obtain ⟨hsize, hbytes⟩ := h.held.content fun _ => origin_filler
  exact ⟨h.covered, hsize, hbytes, h.stored⟩

lemma start_traced : Traced ms p file { file := file, coverage := .create p.byteCount } := by
  refine ⟨by simp, ⟨le_rfl, fun _ _ h => Or.inl h, fun i b hb => Or.inr (Or.inl ?_)⟩, fun _ h => ⟨h, by simp⟩⟩
  have hi : i < file.buffer.length := (List.getElem?_eq_some_iff.mp hb).1
  rw [OutputFile.content, Library.overwrite_inside 0 _ _ _ _ (Nat.le_add_right _ _) (by omega),
    Nat.add_sub_cancel_left]
  exact hb

lemma Traced.write (h : Traced ms p file t) {ofs : ℕ} {d : List UInt8}
    (hd : ∀ i b, d[i]? = some b → Sent ms p.logId (ofs + i) b) : Traced ms p file (t.writeChunk p ofs d) := by
  rw [Transfer.writeChunk]
  split_ifs with hw
  · refine ⟨h.covered, h.held.write (fun _ => origin_filler) fun i b hb => Or.inr (Or.inr (Or.inr (hd i b hb))), ?_⟩
    intro _ hf
    obtain ⟨hreliable, hstored⟩ := h.stored hw hf
    refine ⟨OutputFile.write_reliable hreliable ofs d, fun x hx => ?_⟩
    obtain ⟨b, hb, hsent⟩ := hstored x hx
    simp only [OutputFile.write_content hreliable]
    -- what was there stays, unless the block replaces it by a byte that was sent as well
    by_cases hin : ofs ≤ x ∧ x < ofs + d.length
    · obtain ⟨b', hb'⟩ : ∃ b', d[x - ofs]? = some b' := ⟨_, List.getElem?_eq_getElem (by omega)⟩
      rw [Library.overwrite_inside 0 _ _ _ _ hin.1 hin.2]
      refine ⟨b', hb', ?_⟩
      simpa only [Nat.add_sub_cancel' hin.1] using hd _ b' hb'
    · have hlen := (List.getElem?_eq_some_iff.mp hb).1
      rw [Library.overwrite_outside 0 _ _ _ _ hlen (by omega)]
      exact ⟨b, hb, hsent⟩
  · exact h

lemma processChunk_traced {chunk : LogDataChunk} (hid : chunk.id = p.logId) (hc : ∃ m ∈ ms, m.CopiedTo chunk)
    (h : Traced ms p file t) : Traced ms p file (t.processChunk settings p chunk).1 := by
  obtain ⟨m, hm, hcopied⟩ := hc
  have hdata : ∀ i b, (chunk.data.take (writeLen p chunk))[i]? = some b →
      Sent ms p.logId (chunk.offset.toNat + i) b := by
    intro i b hb
    rw [List.getElem?_take] at hb
    split_ifs at hb
    rw [← hid]
    exact ⟨m, hm, hcopied.carries hb⟩
  have hlen : (chunk.data.take (writeLen p chunk)).length = writeLen p chunk := by
    rw [List.length_take, hcopied.length]
    exact min_eq_left (writeLen_le p chunk)
  by_cases hn : writeLen p chunk = 0
  · rw [Transfer.processChunk, if_pos hn]
    exact ⟨h.covered, h.held, h.stored⟩
  -- a position the chunk adds is one of its bytes
  have hadded : ∀ x, chunk.offset.toNat ≤ x → x < chunk.offset.toNat + writeLen p chunk →
      ∃ b, (chunk.data.take (writeLen p chunk))[x - chunk.offset.toNat]? = some b ∧ Sent ms p.logId x b := by
    intro x h₁ h₂
    have hb := List.getElem?_eq_getElem (l := chunk.data.take (writeLen p chunk))
      (i := x - chunk.offset.toNat) (by omega)
    refine ⟨_, hb, ?_⟩
    simpa only [Nat.add_sub_cancel' h₁] using hdata _ _ hb
  have hw := h.write hdata
  simp only [Transfer.processChunk, if_neg hn]
  split_ifs with hok
  · refine ⟨?_, by simpa using hw.held, ?_⟩
    · intro x hx
      simp only [Transfer.hashChunk_ranges, Transfer.writeChunk_ranges] at hx
      rcases ReceivedRanges.covered_of_add hx with hx | hx
      · exact h.covered x hx
      · obtain ⟨b, _, hsent⟩ := hadded x hx.1 hx.2
        exact ⟨b, hsent⟩
    · intro hf hr
      obtain ⟨hreliable, hstored⟩ := hw.stored hf hr
      simp only [Transfer.hashChunk_ranges, Transfer.writeChunk_ranges, Transfer.hashChunk_file] at hstored ⊢
      refine ⟨hreliable, fun x hx => ?_⟩
      rcases ReceivedRanges.covered_of_add hx with hx | hx
      · exact hstored x hx
      · obtain ⟨b, hb, hsent⟩ := hadded x hx.1 hx.2
        refine ⟨b, ?_, hsent⟩
        rw [Transfer.writeChunk, if_pos hf]
        simp only [OutputFile.write_content (h.stored hf hr).1]
        rw [Library.overwrite_inside 0 _ _ _ _ hx.1 (by omega), hb]
  · exact ⟨hw.covered, hw.held, hw.stored⟩

lemma traced_keeps : StreamDownload.Keeps settings p (fun c => ∃ m ∈ ms, m.CopiedTo c) (Traced ms p file) := by
  refine ⟨fun t c hid hc h => processChunk_traced hid hc h,
    fun t h => ⟨h.covered, h.held.flush fun _ => origin_filler, ?_⟩⟩
  intro hf hr
  obtain ⟨hreliable, hstored⟩ := h.stored hf hr
  exact ⟨OutputFile.flush_reliable hreliable, by rw [OutputFile.flush_content hreliable]; exact hstored⟩

end

section

variable {settings : DownloadSettings} {ms : List LogMessage}

lemma receives_copied (hd : ∀ m ∈ ms, m.Decoded) (hw : ∀ m ∈ ms, m.WithinPayload) {tick : Tick}
    (ht : ∀ m ∈ tick.messages, m ∈ ms) : tick.Receives fun c => ∃ m ∈ ms, m.CopiedTo c :=
  fun m hm _ hc => ⟨m, ht m hm, LogMessage.chunk_copied (hd m (ht m hm)) (hw m (ht m hm)) hc⟩

lemma foldl_onlySent (hd : ∀ m ∈ ms, m.Decoded) (hw : ∀ m ∈ ms, m.WithinPayload) (p : Params) (inbox : Inbox)
    (file : OutputFile) {ticks : List Tick} (ht : ∀ tick ∈ ticks, ∀ m ∈ tick.messages, m ∈ ms) :
    OnlySent ms p file (ticks.foldl (StreamDownload.step settings p) (StreamDownload.start p inbox file)).transfer := by
  by_cases hz : p.byteCount = 0
  · obtain ⟨r, hdone, _, htransfer⟩ := StreamDownload.start_empty hz inbox file
    rw [StreamDownload.foldl_done ⟨r, hdone⟩, htransfer]
    exact start_traced.onlySent
  · have hholds : StreamDownload.Holds p (fun c => ∃ m ∈ ms, m.CopiedTo c) (Traced ms p file)
        (StreamDownload.start p inbox file) := by
      rw [StreamDownload.start, if_neg hz]
      exact ⟨by simp [Inbox.clearDataChunks], start_traced, by simp⟩
    have hkeeps : StreamDownload.Keeps settings p (fun c => ∃ m ∈ ms, m.CopiedTo c) (Traced ms p file) := traced_keeps
    have hkept := StreamDownload.foldl_holds hkeeps hholds fun tick hm => receives_copied hd hw (ht tick hm)
    exact hkept.transfer.onlySent

lemma queueCap_pos (settings : DownloadSettings) : 0 < queueCap settings := by
  rw [queueCap]
  split_ifs with h
  · omega
  · norm_num

lemma onMessage_queues (settings : DownloadSettings) (inbox : Inbox) {m : LogMessage} {chunk : LogDataChunk}
    (h : m.chunk? = some chunk) : chunk ∈ (inbox.onMessage settings m).dataChunks := by
  have hcap := queueCap_pos settings
  have hkept : (inbox.dataChunks ++ [chunk]).length - queueCap settings ≤ inbox.dataChunks.length := by
    rw [List.length_append, List.length_singleton]
    omega
  simp only [Inbox.onMessage_chunk settings inbox h, trimDataChunkQueue]
  rw [List.drop_append_of_le_length hkept]
  exact List.mem_append_right _ (List.mem_singleton.mpr rfl)

lemma within_of_queued (h : ∀ earlier, earlier <+: ms → ∀ c ∈ (earlier.foldl (Inbox.onMessage settings) {}).dataChunks,
    ∃ m ∈ earlier, m.CopiedTo c) : ∀ m ∈ ms, m.WithinPayload := by
  intro m hm
  obtain ⟨earlier, later, rfl⟩ := List.append_of_mem hm
  cases m with
  | logEntry entry => trivial
  | logData id ofs count bytes =>
    by_cases h₀ : count = 0
    · simp [LogMessage.WithinPayload, h₀]
    · have hqueued := onMessage_queues settings (earlier.foldl (Inbox.onMessage settings) {})
        (m := .logData id ofs count bytes) (if_neg h₀)
      obtain ⟨m, _, hcopied⟩ := h (earlier ++ [.logData id ofs count bytes]) ⟨later, by simp⟩ _
        (by rw [List.foldl_append]; exact hqueued)
      exact hcopied.le

end

theorem only_sent_bytes_iff (settings : DownloadSettings) (ms : List LogMessage) (hms : ∀ m ∈ ms, m.Decoded) :
    ((∀ earlier, earlier <+: ms → ∀ c ∈ (earlier.foldl (Inbox.onMessage settings) {}).dataChunks,
        ∃ m ∈ earlier, m.CopiedTo c) ∧
      ∀ (p : Params) (inbox : Inbox) (file : OutputFile) (ticks : List Tick),
        (∀ tick ∈ ticks, ∀ m ∈ tick.messages, m ∈ ms) →
        OnlySent ms p file
          (ticks.foldl (StreamDownload.step settings p) (StreamDownload.start p inbox file)).transfer) ↔
      ∀ m ∈ ms, m.WithinPayload := by
  constructor
  · rintro ⟨hqueued, _⟩
    exact within_of_queued hqueued
  · intro hw
    refine ⟨fun earlier hp => ?_, fun p inbox file ticks ht => foldl_onlySent hms hw p inbox file ht⟩
    refine Inbox.foldl_chunks settings (by simp) fun m hm chunk hc => ?_
    exact ⟨m, hm, LogMessage.chunk_copied (hms m (hp.subset hm)) (hw m (hp.subset hm)) hc⟩

theorem only_sent_bytes_iff_full_payload :
    (∀ m ∈ [LogMessage.logData 1 0 90 (List.replicate 90 7)], m.Decoded) ∧
      OnlySent [.logData 1 0 90 (List.replicate 90 7)] ⟨1, 0, 90, 0, true⟩ {}
        ([{}, { messages := [.logData 1 0 90 (List.replicate 90 7)] }].foldl
          (StreamDownload.step {} ⟨1, 0, 90, 0, true⟩)
          (StreamDownload.start ⟨1, 0, 90, 0, true⟩ {} {})).transfer := by
  refine ⟨by decide, ?_⟩
  refine ((only_sent_bytes_iff {} [.logData 1 0 90 (List.replicate 90 7)] (by decide)).mpr (by decide)).2 _ _ _ _ ?_
  simp

def overlongCount : LogMessage := .logData 1 0 91 (List.replicate 90 0 ++ List.replicate 165 0xEE)

/-- The count runs one byte past the payload field: the byte behind it in memory is queued, counted as
received and written, although no message carries its position. -/
theorem overlong_count_stores_foreign_byte :
    let inbox := Inbox.onMessage {} {} overlongCount
    let s := [{}, { messages := [overlongCount] }].foldl (StreamDownload.step {} ⟨1, 0, 200, 0, true⟩)
      (StreamDownload.start ⟨1, 0, 200, 0, true⟩ {} {})
    overlongCount.Decoded ∧ (∃ c ∈ inbox.dataChunks, logChunkSize < c.count) ∧
      Covered s.transfer.ranges.ranges 90 ∧ s.transfer.file.content[90]? = some 0xEE ∧
      ∀ b, ¬ Sent [overlongCount] 1 90 b := by
  refine ⟨by decide +kernel, by decide +kernel, by rw [Covered]; decide +kernel, by decide +kernel, ?_⟩
  rintro b ⟨m, hm, hcarries⟩
  obtain rfl := List.mem_singleton.mp hm
  simp [overlongCount, LogMessage.CarriesAt, logChunkSize] at hcarries

end Session

end MavlinkLogService
