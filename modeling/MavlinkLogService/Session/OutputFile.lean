import MavlinkLogService.Library.Bytes

/-! An output stream whose operations may fail; a failed stream stays failed. The bytes of a write wait in
the buffer of the stream until the next seek or flush. -/

namespace MavlinkLogService.Session

/-- An operation `fails` with the number of bytes that it has still moved from the buffer to the file; the
others are lost. -/
structure OutputFile where
  saved : List UInt8 := []
  start : ℕ := 0
  buffer : List UInt8 := []
  good : Bool := true
  operations : ℕ := 0
  fails : ℕ → Option ℕ := fun _ => none

namespace OutputFile

def content (f : OutputFile) : List UInt8 := Library.overwrite 0 f.saved f.start f.buffer

def operate (f : OutputFile) (waiting : List UInt8) (done : OutputFile) : OutputFile :=
  let f' :=
    if f.good then
      match f.fails f.operations with
      | none => done
      | some n =>
        { f with saved := Library.overwrite 0 f.saved f.start (waiting.take n), buffer := [], good := false }
    else f
  { f' with operations := f.operations + 1, fails := f.fails }

def seekp (f : OutputFile) (offset : ℕ) : OutputFile :=
  f.operate f.buffer { f with saved := f.content, start := offset, buffer := [] }

def write (f : OutputFile) (data : List UInt8) : OutputFile :=
  f.operate (f.buffer ++ data) { f with buffer := f.buffer ++ data }

def flush (f : OutputFile) : OutputFile :=
  f.operate f.buffer { f with saved := f.content, start := f.start + f.buffer.length, buffer := [] }

structure Reliable (f : OutputFile) : Prop where
  good : f.good = true
  fails : ∀ n, f.fails n = none

variable {f : OutputFile}

lemma write_content (h : f.Reliable) (offset : ℕ) (data : List UInt8) :
    ((f.seekp offset).write data).content = Library.overwrite 0 f.content offset data := by
  simp [seekp, write, operate, content, h.good, h.fails]

lemma flush_content (h : f.Reliable) : f.flush.content = f.content := by
  simp [flush, operate, content, h.good, h.fails]

lemma write_reliable (h : f.Reliable) (offset : ℕ) (data : List UInt8) :
    ((f.seekp offset).write data).Reliable := by
  refine ⟨?_, ?_⟩ <;> simp [seekp, write, operate, h.good, h.fails]

lemma flush_reliable (h : f.Reliable) : f.flush.Reliable := by
  refine ⟨?_, ?_⟩ <;> simp [flush, operate, h.good, h.fails]

structure Holds (P : ℕ → UInt8 → Prop) (n : ℕ) (f : OutputFile) : Prop where
  size : n ≤ f.saved.length
  saved : ∀ x b, f.saved[x]? = some b → P x b
  buffer : ∀ i b, f.buffer[i]? = some b → P (f.start + i) b

section

variable {P : ℕ → UInt8 → Prop} {n : ℕ}

lemma overwrite_holds (hP : ∀ x, n ≤ x → P x 0) {saved data : List UInt8} {start : ℕ} (hn : n ≤ saved.length)
    (hs : ∀ x b, saved[x]? = some b → P x b) (hd : ∀ i b, data[i]? = some b → P (start + i) b) :
    n ≤ (Library.overwrite 0 saved start data).length ∧
      ∀ x b, (Library.overwrite 0 saved start data)[x]? = some b → P x b := by
  refine ⟨hn.trans (Library.length_le_overwrite _ _ _ _), fun x b hb => ?_⟩
  rcases Library.overwrite_origin hb with hb | ⟨rfl, hx⟩ | ⟨hx, _, hb⟩
  · exact hs x b hb
  · exact hP x (hn.trans hx)
  · simpa only [Nat.add_sub_cancel' hx] using hd _ b hb

lemma Holds.content (hP : ∀ x, n ≤ x → P x 0) (h : f.Holds P n) :
    n ≤ f.content.length ∧ ∀ x b, f.content[x]? = some b → P x b :=
  overwrite_holds hP h.size h.saved h.buffer

lemma Holds.operate (hP : ∀ x, n ≤ x → P x 0) (h : f.Holds P n) {waiting : List UInt8} {done : OutputFile}
    (hw : ∀ i b, waiting[i]? = some b → P (f.start + i) b) (hd : done.Holds P n) :
    (f.operate waiting done).Holds P n := by
  rw [OutputFile.operate]
  split_ifs
  · split
    · exact ⟨hd.size, hd.saved, hd.buffer⟩
    · rename_i k _
      have htaken : ∀ i b, (waiting.take k)[i]? = some b → P (f.start + i) b := by
        intro i b hb
        rw [List.getElem?_take] at hb
        split_ifs at hb
        exact hw i b hb
      obtain ⟨hsize, hsaved⟩ := overwrite_holds hP h.size h.saved htaken
      exact ⟨hsize, hsaved, by simp⟩
  · exact ⟨h.size, h.saved, h.buffer⟩

lemma Holds.seekp (hP : ∀ x, n ≤ x → P x 0) (h : f.Holds P n) (offset : ℕ) : (f.seekp offset).Holds P n := by
  obtain ⟨hsize, hsaved⟩ := h.content hP
  exact h.operate hP h.buffer ⟨hsize, hsaved, by simp⟩

lemma Holds.write (hP : ∀ x, n ≤ x → P x 0) (h : f.Holds P n) {offset : ℕ} {data : List UInt8}
    (hd : ∀ i b, data[i]? = some b → P (offset + i) b) : ((f.seekp offset).write data).Holds P n := by
  have hseek := h.seekp hP offset
  by_cases hgood : (f.seekp offset).good = true
  · have hpos : (f.seekp offset).start = offset ∧ (f.seekp offset).buffer = [] := by
      rw [OutputFile.seekp, OutputFile.operate] at hgood ⊢
      split_ifs at hgood ⊢
      · split at hgood
        · exact ⟨rfl, rfl⟩
        · cases hgood
      · contradiction
    have hwaiting : ∀ i b, ((f.seekp offset).buffer ++ data)[i]? = some b → P ((f.seekp offset).start + i) b := by
      rw [hpos.1, hpos.2]
      exact hd
    exact hseek.operate hP hwaiting ⟨hseek.size, hseek.saved, hwaiting⟩
  · -- a stream that failed to seek writes nothing
    rw [OutputFile.write, OutputFile.operate, if_neg hgood]
    exact ⟨hseek.size, hseek.saved, hseek.buffer⟩

lemma Holds.flush (hP : ∀ x, n ≤ x → P x 0) (h : f.Holds P n) : f.flush.Holds P n := by
  obtain ⟨hsize, hsaved⟩ := h.content hP
  exact h.operate hP h.buffer ⟨hsize, hsaved, by simp⟩

end

end OutputFile

end MavlinkLogService.Session
