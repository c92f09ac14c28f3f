import MavlinkLogService.Companion.Requests

/-! A client that fetches the cached log list page by page. -/

namespace MavlinkLogService.Companion

open Library Json Service

section Reading

def field (key : String) : Json Empty → Option (Json Empty)
  | .obj fields => fields.lookup key
  | _ => none

def asInt : Json Empty → Option ℤ
  | .int i => some i
  | _ => none

def asBool : Json Empty → Option Bool
  | .bool b => some b
  | _ => none

def asList : Json Empty → Option (List (Json Empty))
  | .arr items => some items
  | _ => none

def readEntry (j : Json Empty) : Option FcLogEntry := do
  let downloaded ← (field "dl" j).bind asBool
  let id ← (field "id" j).bind asInt
  let size ← (field "size" j).bind asInt
  let timeUtc ← (field "t" j).bind asInt
  some ⟨UInt16.ofNat id.toNat, UInt32.ofNat size.toNat, UInt32.ofNat timeUtc.toNat, downloaded⟩

def readPage (text : List Char) : Option FcLogsPage := do
  let reply ← read text
  let truncated ← (field "truncated" reply).bind asBool
  let data ← field "data" reply
  let count ← (field "count" data).bind asInt
  let offset ← (field "offset" data).bind asInt
  let stale ← (field "stale" data).bind asBool
  let items ← (field "entries" data).bind asList
  let entries ← items.mapM readEntry
  some { count, offset, entries, truncated, stale }

lemma readEntry_entryJson (e : FcLogEntry) : readEntry (entryJson e) = some e := by
  obtain ⟨id, size, timeUtc, downloaded⟩ := e
  simp [readEntry, entryJson, field, asInt, asBool, List.lookup]

lemma mapM_readEntry (entries : List FcLogEntry) : (entries.map entryJson).mapM readEntry = some entries := by
  induction entries with
  | nil => rfl
  | cons e entries ih => simp [readEntry_entryJson, ih]

lemma readPage_pageJson (id : ℤ) (client : String) (page : FcLogsPage) :
    readPage (dump (pageJson id client page)) = some page := by
  have htr : field "truncated" (pageJson id client page) = some (.bool page.truncated) := by
    rw [pageJson, baseResponse, echo]
    split_ifs <;> rfl
  have hdata : field "data" (pageJson id client page) = some (.obj [
      ("count", .int page.count), ("entries", .arr (page.entries.map entryJson)),
      ("offset", .int page.offset), ("stale", .bool page.stale)]) := by
    rw [pageJson, baseResponse, echo]
    split_ifs <;> rfl
  rw [readPage, read_dump]
  simp only [Option.bind_eq_bind, Option.bind_some, htr, hdata, asBool]
  change ((page.entries.map entryJson).mapM readEntry).bind _ = _
  rw [mapM_readEntry, Option.bind_some]

lemma readPage_buildError (id : ℤ) (err client : String) : readPage (buildError id err client).json = none := by
  rw [readPage, buildError, read_dump, echo]
  split_ifs <;> rfl

end Reading

section Ladder

variable {id : ℤ} {client : String} {n : ℕ} {page : FcLogsPage}

lemma degrade_single (page : FcLogsPage) (hlen : 2 ≤ page.entries.length)
    (hfit : bytes (dump (pageJson id client { page with entries := page.entries.take 1 })) ≤ n) :
    ∃ k, 1 ≤ k ∧ k < page.entries.length ∧
      degrade id n client page = some (dump (pageJson id client { page with entries := page.entries.take k })) := by
  induction page using degrade.induct id n client with
  | case1 page he => simp [he] at hlen
  | case2 page he half s hs ih =>
    have hhalf : half.entries.length = page.entries.length / 2 := by
      simp only [half, List.length_take]
      omega
    have htake : ∀ k ≤ page.entries.length / 2, half.entries.take k = page.entries.take k := by
      intro k hk
      simp only [half, List.take_take]
      rw [min_eq_left hk]
    have hlong : 2 ≤ half.entries.length := by
      by_contra hshort
      have hone : page.entries.length / 2 = 1 := by omega
      simp only [s, half, hone] at hs
      exact absurd hfit (not_le.mpr (trySerialize_eq_nil.mp hs))
    obtain ⟨k, hk, hlt, hsome⟩ := ih hlong (by rw [htake 1 (by omega)]; exact hfit)
    rw [htake k (by omega)] at hsome
    refine ⟨k, hk, by omega, ?_⟩
    rw [degrade, if_neg he]
    simp only [s, half] at hs
    simp only [if_pos hs]
    exact hsome
  | case3 page he half s hs =>
    refine ⟨page.entries.length / 2, by omega, by omega, ?_⟩
    rw [degrade, if_neg he]
    simp only [half, s] at hs
    simp only [if_neg hs]
    exact congrArg some (trySerialize_ne_nil hs).1

lemma buildFcLogs_cases (id : ℤ) (page : FcLogsPage) (n : ℕ) (client : String) :
    readPage (buildFcLogs id page n client).json = some page ∨
    (∃ k < page.entries.length, readPage (buildFcLogs id page n client).json =
      some { page with entries := page.entries.take k, truncated := true }) ∨
    readPage (buildFcLogs id page n client).json = none := by
  rw [buildFcLogs]
  by_cases hs : trySerialize (pageJson id client page) n = []
  · rw [if_pos hs]
    cases hd : degrade id n client { page with truncated := true } with
    | none => exact Or.inr (Or.inr (readPage_buildError id "internal" client))
    | some s =>
      obtain ⟨k, hk, rfl, -⟩ := degrade_eq_some hd
      exact Or.inr (Or.inl ⟨k, hk, readPage_pageJson id client _⟩)
  · rw [if_neg hs, (trySerialize_ne_nil hs).1]
    exact Or.inl (readPage_pageJson id client page)

lemma buildFcLogs_progress (page : FcLogsPage) (hne : page.entries ≠ []) (htr : page.truncated = false)
    (hfit : bytes (dump (pageJson id client { page with entries := page.entries.take 1 })) ≤ n) :
    ∃ k truncated, 1 ≤ k ∧ k ≤ page.entries.length ∧
      readPage (buildFcLogs id page n client).json =
        some { page with entries := page.entries.take k, truncated := truncated } := by
  have hpos : 0 < page.entries.length := List.length_pos_of_ne_nil hne
  rw [buildFcLogs]
  by_cases hs : trySerialize (pageJson id client page) n = []
  · have hlen : 2 ≤ page.entries.length := by
      by_contra hshort
      rw [List.take_of_length_le (by omega)] at hfit
      exact absurd hfit (not_le.mpr (trySerialize_eq_nil.mp hs))
    -- the mark makes a page one byte shorter, so the single entry fits on the ladder too
    have hmarked : bytes (dump (pageJson id client
        { page with truncated := true, entries := page.entries.take 1 })) ≤ n := by
      rw [pageJson, baseResponse_bytes] at hfit ⊢
      rw [htr, show boolBytes false = 5 from rfl] at hfit
      rw [show boolBytes true = 4 from rfl]
      dsimp only at hfit ⊢
      omega
    obtain ⟨k, hk, hlt, hsome⟩ := degrade_single { page with truncated := true } hlen hmarked
    rw [if_pos hs, hsome]
    exact ⟨k, true, hk, hlt.le, readPage_pageJson id client _⟩
  · rw [if_neg hs, (trySerialize_ne_nil hs).1]
    refine ⟨page.entries.length, page.truncated, hpos, le_rfl, ?_⟩
    rw [readPage_pageJson, List.take_length]

end Ladder

section Pages

variable {s : DroneLogService} {limit : ℤ}

def FcLogEntry.listed (e : FcLogEntry) : UInt16 × UInt32 × UInt32 := (e.id, e.size, e.timeUtc)

def listed (e : LogEntry) : UInt16 × UInt32 × UInt32 := (e.id, e.size, e.timeUtc)

lemma buildFcLogsPage_entries {o : ℕ} (ho : o ≤ s.control.cachedFcLogs.length) (hlimit : 1 ≤ limit) :
    (buildFcLogsPage s o limit).entries =
      ((s.control.cachedFcLogs.drop o).take limit.toNat).map (fcLogEntry s.downloader.database) := by
  rw [buildFcLogsPage]
  dsimp only
  rw [max_eq_right (by omega), Int.toNat_natCast, List.drop_take]
  congr 1
  apply List.take_eq_take_iff.mpr
  rw [List.length_drop]
  omega

lemma buildFcLogsPage_single {o : ℕ} (ho : o ≤ s.control.cachedFcLogs.length) (hlimit : 1 ≤ limit) :
    buildFcLogsPage s o 1 =
      { buildFcLogsPage s o limit with entries := (buildFcLogsPage s o limit).entries.take 1 } := by
  have h : (buildFcLogsPage s o 1).entries = (buildFcLogsPage s o limit).entries.take 1 := by
    rw [buildFcLogsPage_entries ho le_rfl, buildFcLogsPage_entries ho hlimit, ← List.map_take, List.take_take,
      min_eq_left (by omega)]
    rfl
  rw [← h]
  rfl

lemma buildFcLogsPage_listed {o k : ℕ} (ho : o ≤ s.control.cachedFcLogs.length) (hlimit : 1 ≤ limit)
    (hk : k ≤ (buildFcLogsPage s o limit).entries.length) :
    ((buildFcLogsPage s o limit).entries.take k).map FcLogEntry.listed =
      ((s.control.cachedFcLogs.drop o).take k).map listed := by
  have hlen := hk
  rw [buildFcLogsPage_entries ho hlimit, List.length_map, List.length_take] at hlen
  rw [buildFcLogsPage_entries ho hlimit, ← List.map_take, List.take_take, min_eq_left (by omega), List.map_map]
  rfl

end Pages

section Session

variable {R : Type} (settings : CompanionSettings) (recorder : Recorder R)

def answer (req : CompanionRequest) (w : World R) : List Char :=
  ((dispatch settings (callbacks recorder) req w).1.build settings req.id req.client).json

structure Pager where
  received : List FcLogEntry := []
  done : Bool := false

def Pager.next (req : CompanionRequest) (w : World R) (p : Pager) : Pager :=
  if p.done then p
  else match readPage (answer settings recorder { req with offset := p.received.length } w) with
    | none => { p with done := true }
    | some page =>
      let received := p.received ++ page.entries
      { received := received, done := decide (page.count ≤ received.length) }

def Pager.session (req : ℕ → CompanionRequest) (world : ℕ → World R) : ℕ → Pager
  | 0 => {}
  | n + 1 => (Pager.session req world n).next settings recorder (req n) (world n)

def selected (req : CompanionRequest) (w : World R) : FcLogsPage :=
  buildFcLogsPage w.service req.offset (min req.limit settings.maxFcLogsPerResponse)

variable {settings recorder} {req : CompanionRequest} {w : World R} {logs : List LogEntry} {n : ℕ} {p : Pager}

lemma answer_fcLogs (recorder : Recorder R) (req : CompanionRequest) (hop : req.op = "fc.logs") :
    answer settings recorder req w =
    (buildFcLogs req.id (selected settings req w) settings.maxBytes req.client).json := by
  have hb : badToken settings req = false := by simp [badToken, hop, isMutating]
  have hreply : (dispatch settings (callbacks recorder) req w).1 = .fcLogs (selected settings req w) := by
    rw [dispatch, if_neg (by simp [hb]), if_neg (by simp [hop]), if_pos hop]
    rfl
  rw [answer, hreply, Reply.build]

structure Servable (settings : CompanionSettings) (logs : List LogEntry) (req : CompanionRequest)
    (w : World R) : Prop where
  op : req.op = "fc.logs"
  limit : 1 ≤ req.limit
  unchanged : w.service.control.cachedFcLogs = logs
  fits : ∀ o : ℕ, o < logs.length →
    bytes (dump (pageJson req.id req.client (buildFcLogsPage w.service o 1))) ≤ settings.maxBytes

structure Fetched (logs : List LogEntry) (n : ℕ) (p : Pager) : Prop where
  le : p.received.length ≤ logs.length
  listed : p.received.map FcLogEntry.listed = (logs.take p.received.length).map listed
  finished : p.done = true → p.received.length = logs.length
  progress : p.done = false → n ≤ p.received.length
  short : p.done = false → 0 < n → p.received.length < logs.length

lemma Fetched.zero : Fetched logs 0 {} where
  le := Nat.zero_le _
  listed := rfl
  finished h := by cases h
  progress _ := le_rfl
  short _ h := absurd h (lt_irrefl 0)

lemma Fetched.next_end (h : Fetched logs n p) (hdone : p.done = false) (hlen : p.received.length = logs.length)
    (hs : Servable settings logs req w) (hmax : 1 ≤ settings.maxFcLogsPerResponse) :
    Fetched logs (n + 1) (p.next settings recorder req w) := by
  let here : CompanionRequest := { req with offset := p.received.length }
  have hentries : (selected settings here w).entries = [] := by
    rw [selected, buildFcLogsPage_entries (by rw [hs.unchanged, hlen]) (le_min hs.limit hmax), hs.unchanged,
      hlen, List.drop_length, List.take_nil, List.map_nil]
  have hcount : (selected settings here w).count = logs.length := by
    rw [← hs.unchanged]
    rfl
  have hread : readPage (answer settings recorder here w) = some (selected settings here w) ∨
      readPage (answer settings recorder here w) = none := by
    rw [answer_fcLogs recorder here hs.op]
    rcases buildFcLogs_cases here.id (selected settings here w) settings.maxBytes here.client with
      hp | ⟨k, hk, -⟩ | hp
    · exact Or.inl hp
    · rw [hentries] at hk
      cases hk
    · exact Or.inr hp
  have hnext : p.next settings recorder req w = { p with done := true } := by
    rw [Pager.next, if_neg (by simp [hdone])]
    rcases hread with hp | hp
    · rw [hp]
      simp [hentries, hcount, hlen]
    · rw [hp]
  rw [hnext]
  exact ⟨h.le, h.listed, fun _ => hlen, (fun hd => by cases hd), (fun hd => by cases hd)⟩

lemma Fetched.next_middle (h : Fetched logs n p) (hdone : p.done = false)
    (hlt : p.received.length < logs.length) (hs : Servable settings logs req w)
    (hmax : 1 ≤ settings.maxFcLogsPerResponse) :
    Fetched logs (n + 1) (p.next settings recorder req w) := by
  let here : CompanionRequest := { req with offset := p.received.length }
  have hlimit : 1 ≤ min req.limit settings.maxFcLogsPerResponse := le_min hs.limit hmax
  have ho : p.received.length ≤ w.service.control.cachedFcLogs.length := by
    rw [hs.unchanged]
    exact hlt.le
  have hentries : (selected settings here w).entries.length =
      min (min req.limit settings.maxFcLogsPerResponse).toNat (logs.length - p.received.length) := by
    rw [selected, buildFcLogsPage_entries ho hlimit, List.length_map, List.length_take, List.length_drop,
      hs.unchanged]
  have hfit := hs.fits p.received.length hlt
  rw [buildFcLogsPage_single ho hlimit] at hfit
  obtain ⟨k, truncated, hk, hkle, hread⟩ := buildFcLogs_progress (selected settings here w)
    (List.ne_nil_of_length_pos (by omega)) rfl hfit
  have hcount : (selected settings here w).count = logs.length := by
    rw [← hs.unchanged]
    rfl
  have hlisted := buildFcLogsPage_listed ho hlimit hkle
  rw [← answer_fcLogs recorder here hs.op] at hread
  have hlen : (p.received ++ (selected settings here w).entries.take k).length = p.received.length + k := by
    rw [List.length_append, List.length_take, min_eq_left hkle]
  have hnext : p.next settings recorder req w =
      { received := p.received ++ (selected settings here w).entries.take k
        done := decide ((logs.length : ℤ) ≤ (p.received.length + k : ℕ)) } := by
    rw [Pager.next, if_neg (by simp [hdone]), hread, ← hlen, ← hcount]
  rw [hnext]
  refine ⟨by rw [hlen]; omega, ?_, fun hd => ?_, fun hd => ?_, fun hd _ => ?_⟩
  · rw [hlen, List.map_append, h.listed, List.take_add, List.map_append]
    rw [hs.unchanged] at hlisted
    exact congrArg _ hlisted
  · have := of_decide_eq_true hd
    rw [hlen]
    omega
  · have hp := h.progress hdone
    rw [hlen]
    omega
  · have := of_decide_eq_false hd
    rw [hlen]
    omega

lemma Fetched.next (h : Fetched logs n p) (hs : Servable settings logs req w)
    (hmax : 1 ≤ settings.maxFcLogsPerResponse) : Fetched logs (n + 1) (p.next settings recorder req w) := by
  cases hdone : p.done with
  | false =>
    rcases h.le.lt_or_eq with hlt | hlen
    · exact h.next_middle hdone hlt hs hmax
    · exact h.next_end hdone hlen hs hmax
  | true =>
    rw [Pager.next, if_pos hdone]
    exact ⟨h.le, h.listed, h.finished, (fun hd => by rw [hdone] at hd; cases hd),
      (fun hd => by rw [hdone] at hd; cases hd)⟩

lemma Fetched.session (recorder : Recorder R) {req : ℕ → CompanionRequest} {world : ℕ → World R}
    (hs : ∀ k, Servable settings logs (req k) (world k)) (hmax : 1 ≤ settings.maxFcLogsPerResponse) (n : ℕ) :
    Fetched logs n (Pager.session settings recorder req world n) := by
  induction n with
  | zero => exact Fetched.zero
  | succ n ih => exact ih.next (hs n) hmax

lemma truncated_iff {page : FcLogsPage} (hop : req.op = "fc.logs")
    (h : readPage (answer settings recorder req w) = some page) :
    page.truncated = true ↔ page.entries.length < (selected settings req w).entries.length := by
  rw [answer_fcLogs recorder req hop] at h
  rcases buildFcLogs_cases req.id (selected settings req w) settings.maxBytes req.client with
    hp | ⟨k, hk, hp⟩ | hp
  · rw [hp, Option.some.injEq] at h
    subst h
    exact iff_of_false (by simp [selected, buildFcLogsPage]) (lt_irrefl _)
  · rw [hp, Option.some.injEq] at h
    subst h
    refine iff_of_true rfl ?_
    rw [List.length_take]
    omega
  · rw [hp] at h
    cases h

theorem fc_logs_paging_complete (settings : CompanionSettings) (recorder : Recorder R) (logs : List LogEntry)
    (req : ℕ → CompanionRequest) (world : ℕ → World R) (hmax : 1 ≤ settings.maxFcLogsPerResponse)
    (hs : ∀ k, Servable settings logs (req k) (world k)) :
    (∀ n, max 1 logs.length ≤ n → (Pager.session settings recorder req world n).done = true ∧
      (Pager.session settings recorder req world n).received.map FcLogEntry.listed = logs.map listed) ∧
    ∀ k (offset : ℤ) (page : FcLogsPage),
      readPage (answer settings recorder { req k with offset := offset } (world k)) = some page →
      (page.truncated = true ↔
        page.entries.length < (selected settings { req k with offset := offset } (world k)).entries.length) := by
  refine ⟨fun n hn => ?_, fun k offset page h => truncated_iff (hs k).op h⟩
  have h := Fetched.session recorder hs hmax n
  have hdone : (Pager.session settings recorder req world n).done = true := by
    by_contra hd
    have hfalse := Bool.eq_false_iff.mpr hd
    have hprogress := h.progress hfalse
    have hshort := h.short hfalse (by omega)
    omega
  refine ⟨hdone, ?_⟩
  rw [h.listed, h.finished hdone, List.take_length]

def twoLogs : List LogEntry := [⟨1, 2, 2, 0, 700⟩, ⟨2, 2, 2, 0, 900⟩]

def listing : World Unit :=
  { idle with service := { idle.service with control := { cachedFcLogs := twoLogs, fcLogsStale := false } } }

def tightSettings : CompanionSettings := { maxResponseBytes := 180 }

theorem fc_logs_paging_complete_tight :
    (Pager.session tightSettings noRecorder (fun _ => { op := "fc.logs" }) (fun _ => listing) 2).done = true ∧
    (Pager.session tightSettings noRecorder (fun _ => { op := "fc.logs" }) (fun _ => listing) 2).received.map
      FcLogEntry.listed = twoLogs.map listed := by
  have hs : Servable tightSettings twoLogs { op := "fc.logs" } listing := by
    refine ⟨rfl, by decide, rfl, fun o ho => ?_⟩
    have hcases : o = 0 ∨ o = 1 := by
      rw [twoLogs, List.length_cons, List.length_singleton] at ho
      omega
    rcases hcases with rfl | rfl <;> decide +kernel
  exact (fc_logs_paging_complete tightSettings noRecorder twoLogs (fun _ => { op := "fc.logs" })
    (fun _ => listing) (by decide) fun _ => hs).1 2 (by decide)

end Session

end MavlinkLogService.Companion
