import MavlinkLogService.Session.ReceivedChunks

/-! The operations that a download performs on its output stream, and what the first of them that fails leaves
in the file. -/

namespace MavlinkLogService.Session

inductive FileOp
  | seekp (offset : ℕ)
  | write (data : List UInt8)
  | flush

namespace OutputFile

def apply (f : OutputFile) : FileOp → OutputFile
  | .seekp offset => f.seekp offset
  | .write data => f.write data
  | .flush => f.flush

def perform (f : OutputFile) (ops : List FileOp) : OutputFile := ops.foldl apply f

variable {f : OutputFile}

lemma perform_cons (f : OutputFile) (op : FileOp) (ops : List FileOp) :
    f.perform (op :: ops) = (f.apply op).perform ops := rfl

lemma perform_append (f : OutputFile) (ops ops' : List FileOp) :
    f.perform (ops ++ ops') = (f.perform ops).perform ops' :=
  List.foldl_append

lemma apply_state (f : OutputFile) (op : FileOp) : (f.apply op).good = (f.good && (f.fails f.operations).isNone) ∧
    (f.apply op).operations = f.operations + 1 ∧ (f.apply op).fails = f.fails := by
  have hoperate : ∀ waiting done, done.good = f.good → (f.operate waiting done).good =
      (f.good && (f.fails f.operations).isNone) ∧ (f.operate waiting done).operations = f.operations + 1 ∧
      (f.operate waiting done).fails = f.fails := by
    intro waiting done hdone
    simp only [operate, and_true]
    split_ifs with hgood
    · cases f.fails f.operations with
      | none => simp [hdone, hgood]
      | some n => simp
    · simp [hgood]
  cases op with
  | seekp offset => exact hoperate _ _ rfl
  | write data => exact hoperate _ _ rfl
  | flush => exact hoperate _ _ rfl

lemma perform_good (f : OutputFile) (ops : List FileOp) : (f.perform ops).good = true ↔
    f.good = true ∧ ∀ k < ops.length, f.fails (f.operations + k) = none := by
  induction ops generalizing f with
  | nil => simp [perform]
  | cons op ops ih =>
    obtain ⟨hgood, hcount, hfails⟩ := apply_state f op
    have h := ih (f.apply op)
    rw [hgood, hcount, hfails, Bool.and_eq_true, Option.isNone_iff_eq_none] at h
    refine h.trans ⟨?_, ?_⟩
    · rintro ⟨⟨hg, h₀⟩, hrest⟩
      refine ⟨hg, fun k hk => ?_⟩
      cases k with
      | zero => exact h₀
      | succ k =>
        rw [Nat.add_comm k 1, ← Nat.add_assoc]
        exact hrest k (Nat.lt_of_succ_lt_succ hk)
    · rintro ⟨hg, hall⟩
      refine ⟨⟨hg, hall 0 (Nat.succ_pos _)⟩, fun k hk => ?_⟩
      rw [Nat.add_assoc, Nat.add_comm 1 k]
      exact hall (k + 1) (Nat.succ_lt_succ hk)

lemma operate_works (hg : f.good = true) (hn : f.fails f.operations = none) (waiting : List UInt8)
    (done : OutputFile) :
    f.operate waiting done = { done with operations := f.operations + 1, fails := f.fails } := by
  simp [operate, hg, hn]

lemma operate_fails {n : ℕ} (hg : f.good = true) (hn : f.fails f.operations = some n) (waiting : List UInt8)
    (done : OutputFile) : (f.operate waiting done).good = false ∧
      (f.operate waiting done).content = Library.overwrite 0 f.saved f.start (waiting.take n) := by
  simp [operate, hg, hn, content]

lemma apply_bad (hg : f.good = false) (op : FileOp) : (f.apply op).good = false ∧ (f.apply op).content = f.content := by
  have hoperate : ∀ waiting done, (f.operate waiting done).content = f.content := fun waiting done => by
    simp [operate, hg, content]
  refine ⟨by simp [apply_state, hg], ?_⟩
  cases op with
  | seekp offset => exact hoperate _ _
  | write data => exact hoperate _ _
  | flush => exact hoperate _ _

lemma perform_bad (hg : f.good = false) (ops : List FileOp) : (f.perform ops).content = f.content := by
  induction ops generalizing f with
  | nil => rfl
  | cons op ops ih =>
    obtain ⟨hbad, hc⟩ := apply_bad hg op
    rw [perform_cons, ih hbad, hc]

end OutputFile

def OutputFile.buffered (f : OutputFile) (offset : ℕ) (data : List UInt8) : OutputFile :=
  { f with saved := f.content, start := offset, buffer := data, operations := f.operations + 2 }

def place (p : Params) (bytes : List UInt8) (chunk : LogDataChunk) : List UInt8 :=
  Library.overwrite 0 bytes chunk.offset.toNat (chunk.data.take (writeLen p chunk))

def receivedBytes (p : Params) (chunks : List LogDataChunk) : List UInt8 := chunks.foldl (place p) []

def storedChunks (p : Params) (chunks : List LogDataChunk) : List LogDataChunk :=
  chunks.filter fun chunk => writeLen p chunk ≠ 0

def chunkOps (p : Params) (chunk : LogDataChunk) : List FileOp :=
  [.seekp chunk.offset.toNat, .write (chunk.data.take (writeLen p chunk))]

def fileOps (p : Params) (chunks : List LogDataChunk) : List FileOp :=
  (storedChunks p chunks).flatMap (chunkOps p)

def truncate (n : ℕ) (chunk : LogDataChunk) : LogDataChunk := { chunk with data := chunk.data.take n }

/-- What is left of the stored chunks when the operation number `j` fails after `n` bytes: a chunk is lost, but for
these bytes, if its write fails or the seek or flush behind its write. -/
def survivors (chunks : List LogDataChunk) (j n : ℕ) : List LogDataChunk :=
  if j = 0 then []
  else chunks.take ((j - 1) / 2) ++ ((chunks.drop ((j - 1) / 2)).take 1).map (truncate n)

section

variable {p : Params} {f : OutputFile} {chunks : List LogDataChunk}

lemma writeLen_truncate (p : Params) (n : ℕ) (chunk : LogDataChunk) :
    writeLen p (truncate n chunk) = writeLen p chunk :=
  rfl

lemma place_truncate (p : Params) (n : ℕ) (bytes : List UInt8) (chunk : LogDataChunk) :
    place p bytes (truncate n chunk) =
      Library.overwrite 0 bytes chunk.offset.toNat ((chunk.data.take (writeLen p chunk)).take n) := by
  rw [place, writeLen_truncate, truncate, List.take_take, List.take_take, min_comm]

lemma survivors_cons (chunk : LogDataChunk) (chunks : List LogDataChunk) {j : ℕ} (hj : j ≠ 0) (n : ℕ) :
    survivors (chunk :: chunks) (j + 2) n = chunk :: survivors chunks j n := by
  have hdiv : (j + 2 - 1) / 2 = (j - 1) / 2 + 1 := by omega
  rw [survivors, survivors, if_neg (by omega), if_neg hj, hdiv]
  rfl

lemma receivedBytes_stored (p : Params) (chunks : List LogDataChunk) :
    receivedBytes p (storedChunks p chunks) = receivedBytes p chunks := by
  rw [receivedBytes, storedChunks, List.foldl_filter, receivedBytes]
  congr 1
  funext bytes chunk
  by_cases hn : writeLen p chunk = 0
  · simp [hn, place]
  · simp [hn]

lemma length_pairs (p : Params) (chunks : List LogDataChunk) :
    (chunks.flatMap (chunkOps p) ++ [FileOp.flush]).length = 2 * chunks.length + 1 := by
  simp [List.length_flatMap, chunkOps, Nat.mul_comm]

lemma perform_chunkOps (hg : f.good = true) (h₀ : f.fails f.operations = none)
    (h₁ : f.fails (f.operations + 1) = none) (p : Params) (chunk : LogDataChunk) :
    f.perform (chunkOps p chunk) = f.buffered chunk.offset.toNat (chunk.data.take (writeLen p chunk)) := by
  simp [chunkOps, OutputFile.perform, OutputFile.apply, OutputFile.seekp, OutputFile.write, OutputFile.operate, hg, h₀,
    h₁, OutputFile.buffered]

lemma perform_works (hg : f.good = true) (chunks : List LogDataChunk)
    (h : ∀ k < 2 * chunks.length + 1, f.fails (f.operations + k) = none) :
    (f.perform (chunks.flatMap (chunkOps p) ++ [.flush])).content = chunks.foldl (place p) f.content := by
  induction chunks generalizing f with
  | nil =>
    have hflush := OutputFile.operate_works hg (h 0 (by simp)) f.buffer
      { f with saved := f.content, start := f.start + f.buffer.length, buffer := [] }
    simp only [List.flatMap_nil, List.nil_append, OutputFile.perform_cons, OutputFile.apply, OutputFile.flush, hflush]
    simp [OutputFile.perform, OutputFile.content]
  | cons chunk chunks ih =>
    rw [List.length_cons] at h
    rw [List.flatMap_cons, List.append_assoc, OutputFile.perform_append,
      perform_chunkOps hg (h 0 (by omega)) (h 1 (by omega))]
    refine ih hg fun k hk => ?_
    have hfails := h (k + 2) (by omega)
    rwa [Nat.add_comm k 2, ← Nat.add_assoc] at hfails

lemma perform_left (hg : f.good = true) (chunks : List LogDataChunk) {j n : ℕ} (hj : j < 2 * chunks.length + 1)
    (hfails : f.fails (f.operations + j) = some n) (hbefore : ∀ k < j, f.fails (f.operations + k) = none) :
    (f.perform (chunks.flatMap (chunkOps p) ++ [.flush])).content =
      if j = 0 then Library.overwrite 0 f.saved f.start (f.buffer.take n)
      else (survivors chunks j n).foldl (place p) f.content := by
  induction chunks generalizing f j with
  | nil =>
    obtain rfl : j = 0 := by simpa using hj
    exact (OutputFile.operate_fails hg hfails _ _).2
  | cons chunk chunks ih =>
    rw [List.length_cons] at hj
    rw [List.flatMap_cons, List.append_assoc]
    match j with
    | 0 =>
      obtain ⟨hbad, hc⟩ := OutputFile.operate_fails hg hfails f.buffer
        { f with saved := f.content, start := chunk.offset.toNat, buffer := [] }
      exact (OutputFile.perform_bad hbad _).trans hc
    | 1 =>
      have hseek := OutputFile.operate_works hg (hbefore 0 one_pos) f.buffer
        { f with saved := f.content, start := chunk.offset.toNat, buffer := [] }
      obtain ⟨hbad, hc⟩ := OutputFile.operate_fails (f := f.seekp chunk.offset.toNat)
        (by rw [OutputFile.seekp, hseek]; exact hg) (by rw [OutputFile.seekp, hseek]; exact hfails)
        ((f.seekp chunk.offset.toNat).buffer ++ chunk.data.take (writeLen p chunk))
        { f.seekp chunk.offset.toNat with
          buffer := (f.seekp chunk.offset.toNat).buffer ++ chunk.data.take (writeLen p chunk) }
      refine (OutputFile.perform_bad hbad _).trans (hc.trans ?_)
      rw [OutputFile.seekp, hseek, if_neg one_ne_zero]
      exact (place_truncate p n f.content chunk).symm
    | j + 2 =>
      rw [OutputFile.perform_append, perform_chunkOps hg (hbefore 0 (by omega)) (hbefore 1 (by omega)),
        if_neg (Nat.succ_ne_zero _)]
      have hrest := ih (f := f.buffered chunk.offset.toNat (chunk.data.take (writeLen p chunk))) (j := j) hg (by omega)
        (by rw [← hfails, OutputFile.buffered, Nat.add_assoc, Nat.add_comm 2 j]) fun k hk => by
          rw [← hbefore (k + 2) (by omega), OutputFile.buffered, Nat.add_assoc, Nat.add_comm 2 k]
      rw [hrest]
      by_cases h₀ : j = 0
      · rw [if_pos h₀, h₀]
        exact (place_truncate p n f.content chunk).symm
      · rw [if_neg h₀, survivors_cons chunk chunks h₀]
        rfl

end

namespace Transfer

variable {settings : DownloadSettings} {p : Params}

lemma processChunk_fileOps (hw : p.writeFile = true) {file : OutputFile} {t t' : Transfer} {chunk : LogDataChunk}
    (h : t.file = file.perform (fileOps p t.processed)) (ht : t.processChunk settings p chunk = (t', true)) :
    t'.file = file.perform (fileOps p t'.processed) := by
  rw [processChunk_processed ht]
  by_cases hn : writeLen p chunk = 0
  · rw [processChunk, if_pos hn] at ht
    obtain rfl := (Prod.mk.inj ht).1
    simpa [fileOps, storedChunks, hn] using h
  · simp only [processChunk, if_neg hn] at ht
    split_ifs at ht with hok
    · obtain rfl := (Prod.mk.inj ht).1
      have hops : fileOps p (t.processed ++ [chunk]) = fileOps p t.processed ++ chunkOps p chunk := by
        simp [fileOps, storedChunks, hn]
      rw [hops, OutputFile.perform_append, ← h]
      simp [writeChunk, hw, chunkOps, OutputFile.perform, OutputFile.apply]
    · cases (Prod.mk.inj ht).2

end Transfer

namespace StreamDownload

lemma run_file {settings : DownloadSettings} {p : Params} (h₀ : p.byteCount ≠ 0) (hw : p.writeFile = true)
    {inbox : Inbox} {file : OutputFile} {ticks rest : List Tick} {r : StreamDownloadResult} {s : StreamDownload}
    (hr : run settings p inbox file ticks = some (r, s, rest)) (hs : r.success = true) :
    s.transfer.file =
      file.perform (fileOps p (received settings p (start p inbox file) ticks) ++ [.flush]) := by
  have hprocessed := run_processed h₀ hr hs
  obtain ⟨haccepts, hdone⟩ := run_accepts (Q := fun _ => True)
    (I := fun t => t.file = file.perform (fileOps p t.processed))
    (fun t c t' _ h ht => Transfer.processChunk_fileOps hw h ht) rfl h₀ (fun _ _ _ _ _ _ => trivial) hr
  obtain ⟨t, ht, _, hflushed, _⟩ := haccepts.result r hdone hs
  rw [hflushed, Transfer.flushed_processed] at hprocessed
  rw [hflushed, Transfer.flushed, if_pos hw, OutputFile.perform_append, ← hprocessed, ← ht]
  rfl

end StreamDownload

end MavlinkLogService.Session
