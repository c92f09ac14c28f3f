import MavlinkLogService.Archive.LogDownloader

/-! The offsets of the sample re-read, and what the re-read answers for a file that is the log. -/

namespace MavlinkLogService.Archive

open Library Session Storage

structure SlotOffsets (size : ℕ) (out : List ℕ) : Prop where
  increasing : out.Pairwise (· < ·)
  aligned : ∀ o ∈ out, o % logChunkSize = 0
  inside : ∀ o ∈ out, o + logChunkSize ≤ size

lemma mem_insertOffset {x y : ℕ} {out : List ℕ} : y ∈ insertOffset x out ↔ y = x ∨ y ∈ out := by
  rw [insertOffset]
  split_ifs with h
  · exact ⟨Or.inr, fun hy => hy.elim (fun hx => hx ▸ h) id⟩
  · exact List.mem_orderedInsert _

namespace SlotOffsets

variable {size : ℕ} {out : List ℕ}

lemma nil : SlotOffsets size [] := ⟨List.Pairwise.nil, by simp, by simp⟩

lemma insert (h : SlotOffsets size out) {x : ℕ} (hx : x % logChunkSize = 0) (hs : x + logChunkSize ≤ size) :
    SlotOffsets size (insertOffset x out) := by
  have hall : ∀ P : ℕ → Prop, P x → (∀ o ∈ out, P o) → ∀ o ∈ insertOffset x out, P o :=
    fun P hP h o ho => (mem_insertOffset.mp ho).elim (fun heq => heq ▸ hP) (h o)
  refine ⟨?_, hall _ hx h.aligned, hall _ hs h.inside⟩
  rw [insertOffset]
  split_ifs with hmem
  · exact h.increasing
  · -- the insertion keeps the order, and the new offset was not there
    have hsorted : (out.orderedInsert (· ≤ ·) x).Pairwise (· ≤ ·) :=
      (h.increasing.imp le_of_lt).orderedInsert x out
    have hnodup : (out.orderedInsert (· ≤ ·) x).Nodup := by
      rw [(List.perm_orderedInsert (· ≤ ·) x out).nodup_iff, List.nodup_cons]
      exact ⟨hmem, h.increasing.imp ne_of_lt⟩
    exact (hsorted.and hnodup).imp fun hab => lt_of_le_of_ne hab.1 hab.2

lemma addAnchor (h : SlotOffsets size out) (offset : ℕ) : SlotOffsets size (addAnchor size out offset) := by
  rw [Archive.addAnchor]
  split_ifs with hs ho
  · exact h
  · apply h.insert
    · rw [alignDownToChunk, logChunkSize]
      omega
    · rw [alignDownToChunk]
      omega
  · exact h

lemma anchors (size : ℕ) : SlotOffsets size (anchors size) := by
  rw [Archive.anchors]
  exact List.foldlRecOn (motive := SlotOffsets size) _ (Archive.addAnchor size) nil
    fun _ h offset _ => h.addAnchor offset

lemma addRandom (hsize : logChunkSize ≤ size) (h : SlotOffsets size out) (total n : ℕ) (rng : UInt64) :
    SlotOffsets size (addRandom (chunkSlotIndex (size - logChunkSize)) total n rng out) := by
  induction n generalizing rng out with
  | zero => exact h
  | succ n ih =>
    rw [Archive.addRandom]
    split_ifs
    · refine ih (h.insert (Nat.mul_mod_left _ _) ?_) _
      have hslot : (xorshift64 rng).toUInt32.toNat % (chunkSlotIndex (size - logChunkSize) + 1) ≤
          chunkSlotIndex (size - logChunkSize) := Nat.lt_succ_iff.mp (Nat.mod_lt _ (Nat.succ_pos _))
      have hmul := Nat.mul_le_mul_right logChunkSize hslot
      have hdiv : chunkSlotIndex (size - logChunkSize) * logChunkSize ≤ size - logChunkSize := Nat.div_mul_le_self _ _
      omega
    · exact h

lemma take (h : SlotOffsets size out) (n : ℕ) : SlotOffsets size (out.take n) :=
  ⟨h.increasing.sublist (List.take_sublist n out), fun o ho => h.aligned o (List.mem_of_mem_take ho),
    fun o ho => h.inside o (List.mem_of_mem_take ho)⟩

end SlotOffsets

lemma buildFcSampleOffsets_slots (size : UInt32) (totalSamples : ℤ) (fcLogId : UInt16) (fcLogSize : UInt32)
    (sha256Hex : String) :
    SlotOffsets size.toNat (buildFcSampleOffsets size totalSamples fcLogId fcLogSize sha256Hex) ∧
      ((buildFcSampleOffsets size totalSamples fcLogId fcLogSize sha256Hex).length : ℤ) ≤ max 0 totalSamples := by
  simp only [buildFcSampleOffsets]
  split_ifs with h
  · exact ⟨SlotOffsets.nil, by simp⟩
  · rw [not_or, not_lt, not_le] at h
    refine ⟨((SlotOffsets.anchors size.toNat).addRandom h.1 _ _ _).take _, ?_⟩
    refine (Int.ofNat_le.mpr (List.length_take_le _ _)).trans ?_
    omega

inductive SampleVerdict
  | matched
  | unreadable
  | notSent (offset : ℕ)
  | unanswered (offset : ℕ)
  | mismatch (offset : ℕ)
  deriving DecidableEq, Repr

def SampleVerdict.accepted : SampleVerdict → Bool
  | .matched => true
  | _ => false

namespace LogDownloader

variable (settings : Settings)

lemma slotMatches_self {signed : Bool} {slot : List UInt8} :
    slotMatches signed slot slot = true ↔ signed = false ∨ ∀ byte ∈ slot, byte.toNat < 128 := by
  simp only [slotMatches, beq_self_eq_true, Bool.true_and, beq_iff_eq, List.map_inj_left]
  have hbyte : ∀ byte : UInt8, (byte.toNat : ℤ) = charValue signed byte ↔ signed = false ∨ byte.toNat < 128 := by
    intro byte
    rw [charValue]
    cases signed with
    | false => simp
    | true =>
      simp only [true_and, Bool.true_eq_false, false_or]
      split_ifs with h <;> omega
  simp only [hbyte]
  cases signed <;> simp

def sampleVerdicts (entry : LogEntry) (content : List UInt8) : Bool → List ℕ → Task SampleVerdict
  | _, [] => do
    requestLogEnd
    return .matched
  | good, ofs :: offsets => do
    let sent ← requestLogData settings entry.id ofs logChunkSize
    if !sent then return .notSent ofs
    else
      match ← waitForLogData settings entry.id ofs with
      | none => return .unanswered ofs
      | some chunk =>
        let got := if good then (content.drop ofs).take logChunkSize else []
        if !slotMatches settings.signedChar chunk got then return .mismatch ofs
        else sampleVerdicts entry content (good && got.length == logChunkSize) offsets

def sampleVerdict (entry : LogEntry) (path : Path) (sha256 : String) : Task SampleVerdict := do
  let offsets := buildFcSampleOffsets entry.size settings.download.verifyFcRereadSampleCount entry.id entry.size sha256
  if offsets.isEmpty then return .matched
  else
    match ← readFile settings path with
    | none => return .unreadable
    | some content =>
      clearDataChunks
      sampleVerdicts settings entry content true offsets

lemma rereadSamples_verdicts (entry : LogEntry) (content : List UInt8) (good : Bool) (offsets : List ℕ)
    (d : LogDownloader) (ticks : List Tick) :
    (rereadSamples settings entry content good offsets).run d ticks =
      ((sampleVerdicts settings entry content good offsets).run d ticks).map fun x => (x.1.accepted, x.2) := by
  induction offsets generalizing good d ticks with
  | nil => rfl
  | cons ofs offsets ih =>
    rw [rereadSamples, sampleVerdicts]
    refine Prog.bind_map SampleVerdict.accepted (fun sent d ticks => ?_) d ticks
    cases sent with
    | false => rfl
    | true =>
      refine Prog.bind_map SampleVerdict.accepted (fun answer d ticks => ?_) d ticks
      cases answer with
      | none => rfl
      | some chunk =>
        simp only
        generalize (if good = true then (content.drop ofs).take logChunkSize else []) = got
        split_ifs
        · rfl
        · exact ih _ d ticks

lemma verifyFcSampleReread_verdict (hmode : parseFcRereadMode settings.download.verifyFcReread = .sample)
    (entry : LogEntry) (path : Path) (sha256 : String) (d : LogDownloader) (ticks : List Tick) :
    (verifyFcSampleReread settings entry path sha256).run d ticks =
      ((sampleVerdict settings entry path sha256).run d ticks).map fun x => (x.1.accepted, x.2) := by
  simp only [verifyFcSampleReread, sampleVerdict, hmode]
  split_ifs
  · rfl
  · refine Prog.bind_map SampleVerdict.accepted (fun content d ticks => ?_) d ticks
    cases content with
    | none => rfl
    | some content =>
      exact Prog.bind_map SampleVerdict.accepted
        (fun _ d ticks => rereadSamples_verdicts settings entry content true _ d ticks) d ticks

variable {settings} {Q : LogDataChunk → Prop}

def Queued (Q : LogDataChunk → Prop) (d : LogDownloader) : Prop := ∀ c ∈ d.inbox.dataChunks, Q c

lemma await_queued : Prog.Triple (Tick.Receives Q) (Queued Q) (await settings) (fun _ => Queued Q) :=
  Prog.Triple.next fun _ _ ht hd => Inbox.deliver_chunks settings.download hd ht

lemma requestLogData_queued (id : UInt16) (offset count : ℕ) :
    Prog.Triple (Tick.Receives Q) (Queued Q) (requestLogData settings id offset count) (fun _ => Queued Q) := by
  refine Prog.Triple.bind await_queued fun tick => ?_
  exact Prog.Triple.bind (Prog.Triple.modify fun _ hd => hd) fun _ => Prog.Triple.pure fun _ hd => hd

def Answered (Q : LogDataChunk → Prop) (id : UInt16) (offset : ℕ) (answer : Option (List UInt8))
    (d : LogDownloader) : Prop :=
  Queued Q d ∧ ∀ data, answer = some data → ∃ c, Q c ∧ c.id = id ∧ c.offset.toNat = offset ∧ c.data = data

lemma waitRound_answered (id : UInt16) (offset : ℕ) (deadline : ℤ) (u : Unit) :
    Prog.Triple (Tick.Receives Q) (Queued Q) (waitRound settings id offset deadline u)
      (fun x d => Sum.elim (fun _ => Queued Q d) (fun answer => Answered Q id offset answer d) x) := by
  refine Prog.Triple.bind await_queued fun tick => ?_
  refine Prog.Triple.bind (M := fun _ => Queued Q) (Prog.Triple.get fun _ hd => hd) fun d => ?_
  refine Prog.Triple.ite (fun _ => ?_) fun _ => ?_
  · exact Prog.Triple.pure fun _ hd => ⟨hd, by simp⟩
  · refine Prog.Triple.bind await_queued fun _ => ?_
    refine Prog.Triple.bind (M := fun d d' => d' = d ∧ Queued Q d) (Prog.Triple.get fun _ hd => ⟨rfl, hd⟩) fun d => ?_
    cases hfind : d.inbox.dataChunks.find? (isWanted id offset) with
    | none => exact Prog.Triple.pure fun _ hd => hd.1 ▸ hd.2
    | some chunk =>
      have hmem := List.mem_of_find?_eq_some hfind
      have hwanted := List.find?_some hfind
      simp only [isWanted, Bool.and_eq_true, beq_iff_eq] at hwanted
      refine Prog.Triple.bind (M := fun _ d' => Queued Q d' ∧ Q chunk) (Prog.Triple.modify ?_) fun _ => ?_
      · rintro d' ⟨rfl, hd⟩
        exact ⟨fun c hc => hd c (List.mem_of_mem_eraseP hc), hd chunk hmem⟩
      · refine Prog.Triple.pure fun _ hd => ⟨hd.1, fun data hdata => ?_⟩
        exact ⟨chunk, hd.2, hwanted.1, hwanted.2, Option.some.inj hdata⟩

lemma waitForLogData_answered (id : UInt16) (offset : ℕ) :
    Prog.Triple (Tick.Receives Q) (Queued Q) (waitForLogData settings id offset) (Answered Q id offset) :=
  Prog.Triple.bind await_queued fun _ => Prog.Triple.iterate (fun u => waitRound_answered id offset _ u) ()

def FullSlot (content : List UInt8) (id : UInt16) (offsets : List ℕ) (c : LogDataChunk) : Prop :=
  c.id = id → c.offset.toNat ∈ offsets → c.data = (content.drop c.offset.toNat).take logChunkSize

def slotOf (content : List UInt8) (offset : ℕ) : List UInt8 := (content.drop offset).take logChunkSize

lemma slotOf_length {content : List UInt8} {offset : ℕ} (h : offset + logChunkSize ≤ content.length) :
    (slotOf content offset).length = logChunkSize := by
  rw [slotOf, List.length_take, List.length_drop]
  omega

def CharSafe (signed : Bool) (content : List UInt8) (offsets : List ℕ) : Prop :=
  signed = false ∨ ∀ o ∈ offsets, ∀ byte ∈ slotOf content o, byte.toNat < 128

lemma charSafe_iff {signed : Bool} {content : List UInt8} {offsets : List ℕ} :
    CharSafe signed content offsets ↔
      ∀ o ∈ offsets, slotMatches signed (slotOf content o) (slotOf content o) = true := by
  simp only [CharSafe, slotMatches_self]
  cases signed <;> simp

lemma sampleVerdicts_agree {entry : LogEntry} {content : List UInt8} {sampled offsets : List ℕ}
    (hsub : ∀ o ∈ offsets, o ∈ sampled) (hinside : ∀ o ∈ offsets, o + logChunkSize ≤ content.length)
    (hsafe : ∀ o ∈ offsets, slotMatches settings.signedChar (slotOf content o) (slotOf content o) = true) :
    Prog.Triple (Tick.Receives (FullSlot content entry.id sampled)) (Queued (FullSlot content entry.id sampled))
      (sampleVerdicts settings entry content true offsets) (fun v _ => ∀ o, v ≠ .mismatch o) := by
  induction offsets with
  | nil =>
    refine Prog.Triple.bind (Prog.Triple.any _) fun _ => ?_
    exact Prog.Triple.pure fun _ _ o => by simp
  | cons ofs offsets ih =>
    refine Prog.Triple.bind (requestLogData_queued entry.id ofs logChunkSize) fun sent => ?_
    refine Prog.Triple.ite (fun _ => Prog.Triple.pure fun _ _ o => by simp) fun _ => ?_
    refine Prog.Triple.bind (waitForLogData_answered entry.id ofs) fun answer => ?_
    cases answer with
    | none => exact Prog.Triple.pure fun _ _ o => by simp
    | some data =>
      have hfull : ((content.drop ofs).take logChunkSize).length = logChunkSize :=
        slotOf_length (hinside ofs List.mem_cons_self)
      simp only [if_true, hfull, beq_self_eq_true, Bool.and_self]
      refine Prog.Triple.ite (fun hne => ?_) fun _ => ?_
      · -- the answer is the whole slot, and so is what the file holds there
        intro d ticks v d' rest hd
        obtain ⟨c, hc, hid, hofs, hdata⟩ := hd.2 data rfl
        have hslot := hc hid (hofs ▸ hsub ofs List.mem_cons_self)
        rw [hofs, hdata] at hslot
        have hmatches := hsafe ofs List.mem_cons_self
        rw [slotOf, ← hslot] at hmatches
        rw [← hslot, hmatches] at hne
        cases hne
      · refine (ih (fun o ho => hsub o (List.mem_cons_of_mem ofs ho))
          (fun o ho => hinside o (List.mem_cons_of_mem ofs ho)) fun o ho => ?_).weaken (fun _ hd => hd.1) fun _ _ h => h
        exact hsafe o (List.mem_cons_of_mem ofs ho)

lemma readFile_content {path : Path} {file : File} (ok : Tick → Prop) :
    Prog.Triple ok (fun d => d.storage.files.lookup path = some file) (readFile settings path)
      (fun answer _ => ∀ content, answer = some content → content = file.bytes) := by
  refine Prog.Triple.bind (M := fun _ d => d.storage.files.lookup path = some file)
    (Prog.Triple.next fun _ _ _ hd => hd) fun tick => ?_
  refine Prog.Triple.bind (M := fun d d' => d.storage.files.lookup path = some file)
    (Prog.Triple.get fun _ hd => hd) fun d => ?_
  refine Prog.Triple.pure fun d' hd content hcontent => ?_
  split_ifs at hcontent
  rw [hd] at hcontent
  exact (Option.some.inj hcontent).symm

variable (settings) in
def sampledOffsets (entry : LogEntry) (sha256 : String) : List ℕ :=
  buildFcSampleOffsets entry.size settings.download.verifyFcRereadSampleCount entry.id entry.size sha256

lemma sampleVerdict_agrees {entry : LogEntry} {path : Path} {sha256 : String} {file : File}
    (hsize : file.bytes.length = entry.size.toNat)
    (hsafe : CharSafe settings.signedChar file.bytes (sampledOffsets settings entry sha256)) :
    Prog.Triple (Tick.Receives (FullSlot file.bytes entry.id (sampledOffsets settings entry sha256)))
      (fun d => d.storage.files.lookup path = some file) (sampleVerdict settings entry path sha256)
      (fun v _ => ∀ o, v ≠ .mismatch o) := by
  have hslots := (buildFcSampleOffsets_slots entry.size settings.download.verifyFcRereadSampleCount entry.id entry.size
    sha256).1
  refine Prog.Triple.ite (fun _ => Prog.Triple.pure fun _ _ o => by simp) fun _ => ?_
  refine Prog.Triple.bind (readFile_content _) fun answer => ?_
  cases answer with
  | none => exact Prog.Triple.pure fun _ _ o => by simp
  | some content =>
    refine Prog.Triple.bind (M := fun _ d => content = file.bytes ∧ d.inbox.dataChunks = [])
      (Prog.Triple.modify fun _ hd => ⟨hd content rfl, rfl⟩) fun _ => ?_
    intro d ticks v d' rest hd hok hrun
    obtain ⟨rfl, hempty⟩ := hd
    refine sampleVerdicts_agree (fun o ho => ho) (fun o ho => ?_) (charSafe_iff.mp hsafe) d ticks v d' rest ?_ hok hrun
    · rw [hsize]
      exact hslots.inside o ho
    · intro c hc
      rw [hempty] at hc
      cases hc

variable (settings) in
def answerTicks (entry : LogEntry) (content : List UInt8) (offset : ℕ) : List Tick :=
  [{}, {}, { now := settings.download.downloadTimeoutSec * 1000 - 1 },
    { messages := [.logData entry.id offset.toUInt32 90 (slotOf content offset)] }]

structure Fresh (d : LogDownloader) : Prop where
  queue : d.inbox.dataChunks = []
  calm : d.inbox.cancelRequested = false

lemma queueCap_pos (settings : DownloadSettings) : 0 < queueCap settings := by
  rw [queueCap]
  split_ifs <;> omega

lemma trimDataChunkQueue_one (settings : DownloadSettings) (chunk : LogDataChunk) :
    trimDataChunkQueue (queueCap settings) [chunk] = [chunk] := by
  have hcap := queueCap_pos settings
  rw [trimDataChunkQueue, List.length_singleton, Nat.sub_eq_zero_of_le hcap, List.drop_zero]

variable (settings) in
lemma waitForLogData_answers (entry : LogEntry) {content : List UInt8} {offset : ℕ} {d : LogDownloader}
    (h : Fresh d) (hroom : offset + logChunkSize ≤ content.length) (hlen : content.length < 2 ^ 32)
    (rest : List Tick) : ∃ d', Fresh d' ∧
      (waitForLogData settings entry.id offset).run d ((answerTicks settings entry content offset).drop 1 ++ rest) =
        some (some (slotOf content offset), d', rest) := by
  have hofs : offset.toUInt32.toNat = offset := Nat.mod_eq_of_lt (by omega)
  have htake : (slotOf content offset).take 90 = slotOf content offset :=
    List.take_of_length_le (slotOf_length hroom).le
  refine ⟨{ d with inbox := { d.inbox with dataChunks := [], cancelRequested := false } }, ⟨rfl, rfl⟩, ?_⟩
  -- the first round finds the chunk
  have hround : (waitRound settings entry.id offset (0 + settings.download.downloadTimeoutSec * 1000) ()).run
      (deliver settings {} d) ((answerTicks settings entry content offset).drop 2 ++ rest) =
        some (.inr (some (slotOf content offset)),
        { d with inbox := { d.inbox with dataChunks := [], cancelRequested := false } }, rest) := by
    simp [answerTicks, waitRound, await, deliver, Inbox.deliver, Inbox.onMessage, h.queue, h.calm,
      trimDataChunkQueue_one, isWanted, hofs, htake, Prog.bind_run]
  exact Prog.iterate_stops hround

lemma sampleVerdicts_mismatch (entry : LogEntry) {content : List UInt8} {offsets : List ℕ}
    (hinside : ∀ o ∈ offsets, o + logChunkSize ≤ content.length) (hlen : content.length < 2 ^ 32)
    (hclash : ¬ ∀ o ∈ offsets, slotMatches settings.signedChar (slotOf content o) (slotOf content o) = true)
    {d : LogDownloader} (hd : Fresh d) : ∃ o d' rest, (sampleVerdicts settings entry content true offsets).run d
      (offsets.flatMap (answerTicks settings entry content)) = some (.mismatch o, d', rest) := by
  induction offsets generalizing d with
  | nil => exact absurd (by simp) hclash
  | cons ofs offsets ih =>
    have hroom := hinside ofs List.mem_cons_self
    let d₁ : LogDownloader :=
      { deliver settings {} d with
        trace := (deliver settings {} d).trace ++ [.request (.data entry.id ofs logChunkSize)] }
    let ticks := offsets.flatMap (answerTicks settings entry content)
    have hsent : (requestLogData settings entry.id ofs logChunkSize).run d
        ((ofs :: offsets).flatMap (answerTicks settings entry content)) =
          some (true, d₁, (answerTicks settings entry content ofs).drop 1 ++ ticks) := rfl
    obtain ⟨d₂, hd₂, hwait⟩ := waitForLogData_answers settings entry (d := d₁) ⟨hd.queue, hd.calm⟩ hroom
      hlen ticks
    have hfull : ((content.drop ofs).take logChunkSize).length = logChunkSize := slotOf_length hroom
    have hstep : (sampleVerdicts settings entry content true (ofs :: offsets)).run d
        ((ofs :: offsets).flatMap (answerTicks settings entry content)) =
          (if !slotMatches settings.signedChar (slotOf content ofs) (slotOf content ofs) then pure (.mismatch ofs)
            else sampleVerdicts settings entry content true offsets).run d₂ ticks := by
      rw [sampleVerdicts, Prog.bind_run, hsent]
      simp only [Option.bind_some, Bool.not_true, Bool.false_eq_true, if_false, Prog.bind_run, hwait, if_true, hfull,
        beq_self_eq_true, Bool.and_self, slotOf]
      rfl
    rw [hstep]
    cases hmatches : slotMatches settings.signedChar (slotOf content ofs) (slotOf content ofs) with
    | false => exact ⟨ofs, d₂, ticks, rfl⟩
    | true =>
      refine ih (fun o ho => hinside o (List.mem_cons_of_mem ofs ho)) (fun hsafe => hclash fun o ho => ?_) hd₂
      rcases List.mem_cons.mp ho with rfl | ho
      · exact hmatches
      · exact hsafe o ho

lemma answerTicks_full {entry : LogEntry} {content : List UInt8} {offset : ℕ} (sampled : List ℕ)
    (hroom : offset + logChunkSize ≤ content.length) (hlen : content.length < 2 ^ 32) :
    ∀ tick ∈ answerTicks settings entry content offset, tick.Receives (FullSlot content entry.id sampled) := by
  intro tick htick message hmessage chunk hchunk _ _
  simp only [answerTicks, List.mem_cons, List.not_mem_nil, or_false] at htick
  rcases htick with rfl | rfl | rfl | rfl
  · simp at hmessage
  · simp at hmessage
  · simp at hmessage
  · obtain rfl := List.mem_singleton.mp hmessage
    obtain rfl := Option.some.inj hchunk
    have hofs : offset.toUInt32.toNat = offset := Nat.mod_eq_of_lt (by omega)
    have htake : (slotOf content offset).take 90 = slotOf content offset :=
      List.take_of_length_le (slotOf_length hroom).le
    exact htake.trans (by rw [slotOf, hofs])

variable (settings) in
def NeverMismatch (entry : LogEntry) (sha256 : String) (content : List UInt8) : Prop :=
  ∀ path file d ticks result d' rest, d.storage.files.lookup path = some file → file.bytes = content →
    (∀ tick ∈ ticks, Tick.Receives (FullSlot content entry.id (sampledOffsets settings entry sha256)) tick) →
    (verifyFcSampleReread settings entry path sha256).run d ticks = some (result, d', rest) →
    ∃ v, (sampleVerdict settings entry path sha256).run d ticks = some (v, d', rest) ∧ result = v.accepted ∧
      ∀ o, v ≠ .mismatch o

lemma neverMismatch_of_charSafe {entry : LogEntry} {sha256 : String} {content : List UInt8}
    (hmode : parseFcRereadMode settings.download.verifyFcReread = .sample) (hsize : content.length = entry.size.toNat)
    (hsafe : CharSafe settings.signedChar content (sampledOffsets settings entry sha256)) :
    NeverMismatch settings entry sha256 content := by
  rintro path file d ticks result d' rest hfile rfl hticks hrun
  rw [verifyFcSampleReread_verdict settings hmode, Option.map_eq_some_iff] at hrun
  obtain ⟨⟨v, d₁, rest₁⟩, hverdict, heq⟩ := hrun
  simp only [Prod.mk.injEq] at heq
  obtain ⟨rfl, rfl, rfl⟩ := heq
  exact ⟨v, hverdict, rfl, (sampleVerdict_agrees hsize hsafe d ticks v _ _ hfile hticks hverdict).1⟩

lemma sampleVerdict_stored {entry : LogEntry} {path : Path} {sha256 : String} {file : File} {d : LogDownloader}
    (hfile : d.storage.files.lookup path = some file) (hsome : sampledOffsets settings entry sha256 ≠ [])
    (ticks : List Tick) :
    (sampleVerdict settings entry path sha256).run d ({} :: ticks) =
      (sampleVerdicts settings entry file.bytes true (sampledOffsets settings entry sha256)).run
        { deliver settings {} d with inbox := (deliver settings {} d).inbox.clearDataChunks } ticks := by
  have hread : (readFile settings path).run d ({} :: ticks) = some (some file.bytes, deliver settings {} d, ticks) := by
    have hlooked : (readFile settings path).run d ({} :: ticks) =
        some ((d.storage.files.lookup path).map File.bytes, deliver settings {} d, ticks) := rfl
    rw [hlooked, hfile]
    rfl
  rw [sampledOffsets, ← List.isEmpty_eq_false_iff] at hsome
  simp only [sampleVerdict, hsome, Bool.false_eq_true, if_false]
  rw [Prog.bind_run, hread]
  rfl

lemma charSafe_of_neverMismatch {entry : LogEntry} {sha256 : String} {content : List UInt8}
    (hmode : parseFcRereadMode settings.download.verifyFcReread = .sample) (hsize : content.length = entry.size.toNat)
    (hnever : NeverMismatch settings entry sha256 content) :
    CharSafe settings.signedChar content (sampledOffsets settings entry sha256) := by
  rw [charSafe_iff]
  by_contra hclash
  have hlen : content.length < 2 ^ 32 := hsize ▸ entry.size.toNat_lt
  have hinside : ∀ o ∈ sampledOffsets settings entry sha256, o + logChunkSize ≤ content.length := by
    rw [hsize]
    exact (buildFcSampleOffsets_slots _ _ _ _ _).1.inside
  -- the file is on the disk, and the flight controller answers each sample at once
  let path : Path := ⟨["tmp"], "log.bin", ".partial"⟩
  let d : LogDownloader := { storage := ({} : StorageManager).write path ⟨content, 0⟩ }
  let answers := (sampledOffsets settings entry sha256).flatMap (answerTicks settings entry content)
  have hfile : d.storage.files.lookup path = some ⟨content, 0⟩ := AList.lookup_insert _
  obtain ⟨o, d', rest, hmismatch⟩ := sampleVerdicts_mismatch entry hinside hlen hclash
    (d := { d with inbox := d.inbox.clearDataChunks }) ⟨rfl, rfl⟩
  have hsome : sampledOffsets settings entry sha256 ≠ [] := fun hnil => hclash (by simp [hnil])
  have hverdict : (sampleVerdict settings entry path sha256).run d ({} :: answers) = some (.mismatch o, d', rest) :=
    (sampleVerdict_stored hfile hsome answers).trans hmismatch
  have hrun := (verifyFcSampleReread_verdict settings hmode entry path sha256 d ({} :: answers)).trans
    (congrArg (Option.map _) hverdict)
  have hhonest : ∀ tick ∈ ({} : Tick) :: answers,
      tick.Receives (FullSlot content entry.id (sampledOffsets settings entry sha256)) := by
    intro tick htick
    rcases List.mem_cons.mp htick with rfl | htick
    · simp [Tick.Receives]
    · obtain ⟨offset, hofs, hmem⟩ := List.mem_flatMap.mp htick
      exact answerTicks_full _ (hinside offset hofs) hlen tick hmem
  obtain ⟨v, hv, _, hno⟩ := hnever path ⟨content, 0⟩ d ({} :: answers) _ _ _ hfile rfl hhonest hrun
  rw [hverdict] at hv
  exact hno o (congrArg Prod.fst (Option.some.inj hv)).symm

end LogDownloader

open LogDownloader in
theorem sample_offsets_readable_iff (size : UInt32) (totalSamples : ℤ) (fcLogId : UInt16) (fcLogSize : UInt32)
    (sha256Hex : String) :
    SlotOffsets size.toNat (buildFcSampleOffsets size totalSamples fcLogId fcLogSize sha256Hex) ∧
      ((buildFcSampleOffsets size totalSamples fcLogId fcLogSize sha256Hex).length : ℤ) ≤ max 0 totalSamples ∧
      ∀ (settings : Settings) (entry : LogEntry) (content : List UInt8),
        parseFcRereadMode settings.download.verifyFcReread = .sample → content.length = entry.size.toNat →
        (NeverMismatch settings entry sha256Hex content ↔
          CharSafe settings.signedChar content (sampledOffsets settings entry sha256Hex)) := by
  obtain ⟨hslots, hlen⟩ := buildFcSampleOffsets_slots size totalSamples fcLogId fcLogSize sha256Hex
  refine ⟨hslots, hlen, fun settings entry content hmode hsize => ?_⟩
  exact ⟨charSafe_of_neverMismatch hmode hsize, neverMismatch_of_charSafe hmode hsize⟩

def sampleSettings (signedChar : Bool) : Settings where
  download := { verifyFcReread := "sample", verifyFcRereadSampleCount := 1 }
  storage := ⟨1, fun _ => ⟨0, 0, 0, 0, 0, 0⟩⟩
  signedChar := signedChar

def dataFlashLog : List UInt8 := 0xA3 :: 0x95 :: List.replicate 98 7

def dataFlashEntry : LogEntry := ⟨3, 1, 1, 0, 100⟩

def dataFlashFile : LogDownloader :=
  { storage := ({} : StorageManager).write ⟨["tmp"], "log.bin", ".partial"⟩ ⟨dataFlashLog, 0⟩ }

def firstSlotTicks : List Tick :=
  [{}, {}, {}, {}, { messages := [.logData 3 0 90 (dataFlashLog.take 90)] }]

open LogDownloader in
theorem sample_offsets_readable_iff_unsigned :
    ∃ d' rest, (verifyFcSampleReread (sampleSettings false) dataFlashEntry ⟨["tmp"], "log.bin", ".partial"⟩ "5e").run
        dataFlashFile firstSlotTicks = some (true, d', rest) ∧
      NeverMismatch (sampleSettings false) dataFlashEntry "5e" dataFlashLog := by
  have hruns : ((verifyFcSampleReread (sampleSettings false) dataFlashEntry ⟨["tmp"], "log.bin", ".partial"⟩ "5e").run
      dataFlashFile firstSlotTicks).any (fun x => decide (x.1 = true)) = true := by decide +kernel
  obtain ⟨⟨result, d', rest⟩, hrun, hresult⟩ := (Option.any_eq_true _ _).mp hruns
  obtain rfl : result = true := of_decide_eq_true hresult
  refine ⟨d', rest, hrun, ?_⟩
  exact ((sample_offsets_readable_iff 100 1 3 100 "5e").2.2 (sampleSettings false) dataFlashEntry dataFlashLog
    (by decide) (by decide)).mpr (Or.inl rfl)

open LogDownloader in
theorem signed_char_mismatch :
    (∀ tick ∈ firstSlotTicks, tick.Receives
      (FullSlot dataFlashLog 3 (sampledOffsets (sampleSettings true) dataFlashEntry "5e"))) ∧
    ((sampleVerdict (sampleSettings true) dataFlashEntry ⟨["tmp"], "log.bin", ".partial"⟩ "5e").run
      dataFlashFile firstSlotTicks).any (fun x => decide (x.1 = .mismatch 0)) = true ∧
    ((verifyFcSampleReread (sampleSettings true) dataFlashEntry ⟨["tmp"], "log.bin", ".partial"⟩ "5e").run
      dataFlashFile firstSlotTicks).any (fun x => decide (x.1 = false)) = true := by
  refine ⟨fun tick htick message hmessage chunk hchunk _ _ => ?_, by decide +kernel, by decide +kernel⟩
  simp only [firstSlotTicks, List.mem_cons, List.not_mem_nil, or_false] at htick
  rcases htick with rfl | rfl | rfl | rfl | rfl
  all_goals simp at hmessage
  subst hmessage
  obtain rfl := Option.some.inj hchunk
  decide

end MavlinkLogService.Archive
