import MavlinkLogService.Companion.UdpServer

/-! What is sent in answer to a request: one datagram, its envelope and its length. -/

namespace MavlinkLogService.Companion

open Library Json Service

section Serialization

variable {j : Json Empty} {n : ℕ}

lemma trySerialize_eq_nil : trySerialize j n = [] ↔ n < bytes (dump j) := by
  rw [trySerialize]
  split_ifs with h
  · exact iff_of_true rfl h
  · exact iff_of_false (dump_ne_nil j) h

lemma trySerialize_ne_nil (h : trySerialize j n ≠ []) : trySerialize j n = dump j ∧ bytes (dump j) ≤ n := by
  rw [Ne, trySerialize_eq_nil] at h
  exact ⟨if_neg h, not_lt.mp h⟩

lemma degrade_eq_some {id : ℤ} {client : String} {page : FcLogsPage} {s : List Char}
    (h : degrade id n client page = some s) :
    ∃ k < page.entries.length, s = dump (pageJson id client { page with entries := page.entries.take k }) ∧
      bytes s ≤ n := by
  induction page using degrade.induct id n client with
  | case1 page he =>
    rw [degrade, if_pos he] at h
    cases h
  | case2 page he half s' hs ih =>
    rw [degrade, if_neg he] at h
    have hpos : 0 < page.entries.length := List.length_pos_of_ne_nil he
    obtain ⟨k, hk, rfl, hfit⟩ := ih (by simpa [half, s', hs] using h)
    simp only [half, List.length_take] at hk
    refine ⟨k, by omega, ?_, hfit⟩
    simp only [half, List.take_take]
    rw [min_eq_left (by omega)]
  | case3 page he half s' hs =>
    rw [degrade, if_neg he] at h
    have hpos : 0 < page.entries.length := List.length_pos_of_ne_nil he
    obtain ⟨hdump, hfit⟩ := trySerialize_ne_nil hs
    simp only [half, s', if_neg hs, Option.some.injEq] at h
    subst h
    exact ⟨page.entries.length / 2, by omega, hdump, hdump ▸ hfit⟩

end Serialization

section Lengths

def digitBytes (i : ℤ) : ℕ := bytes (digits i)

def boolBytes (b : Bool) : ℕ := if b then 4 else 5

def echoBytes (client : String) : ℕ := if client = "" then 0 else 12 + bytes (body client)

def Reply.floor : Reply → ℕ
  | .status snap => 147 + bytes (body snap.state) + boolBytes snap.archiveActive +
      digitBytes snap.archiveProgressBytes.toNat + digitBytes snap.archiveProgressTotalBytes.toNat
  | .fcLogs _ => 59
  | .caps => 59
  | .jobAck alreadyRunning => 96 + boolBytes alreadyRunning
  | .downloadAck queued notFound =>
    101 + digitBytes queued + max 1 (notFound.map fun i => digitBytes i.toNat + 1).sum
  | .recAck active => 71 + boolBytes active
  | .error err => 51 + bytes (body err)

lemma bytes_quoted (s : String) : bytes (quoted s) = bytes (body s) + 2 := by
  rw [quoted, bytes_cons, bytes_append, bytes_cons, bytes_nil]
  have : '"'.utf8Size = 1 := rfl
  omega

lemma bytes_str (s : String) : bytes (dump (.str s)) = bytes (body s) + 2 := bytes_quoted s

lemma bytes_bool (b : Bool) : bytes (dump (.bool b)) = boolBytes b := by
  cases b <;> rfl

lemma bytes_int (i : ℤ) : bytes (dump (.int i)) = digitBytes i := rfl

lemma bytes_fields (f : String × Json Empty) (fs : List (String × Json Empty)) :
    ((f :: fs).map fieldBytes).sum = bytes (quoted f.1) + bytes (dump f.2) + 2 + (fs.map fieldBytes).sum := by
  rw [List.map_cons, List.sum_cons, fieldBytes]

lemma bytes_no_fields : (([] : List (String × Json Empty)).map fieldBytes).sum = 0 := rfl

lemma echo_fieldBytes (client : String) : ((echo client).map fieldBytes).sum = echoBytes client := by
  rw [echo, echoBytes]
  split_ifs
  · rfl
  · rw [bytes_fields, bytes_no_fields, bytes_str, show bytes (quoted "client") = 8 from rfl]
    omega

lemma baseResponse_bytes (id : ℤ) (truncated : Bool) (client : String) (data : Json Empty) :
    bytes (dump (baseResponse id true truncated client data)) =
      55 + boolBytes truncated + bytes (dump data) + digitBytes id + echoBytes client := by
  rw [baseResponse, bytes_obj (by simp), List.map_append, List.sum_append, echo_fieldBytes]
  simp only [if_true, List.singleton_append, bytes_fields, bytes_no_fields, bytes_int, bytes_bool,
    show bytes (quoted "data") = 6 from rfl, show bytes (quoted "err") = 5 from rfl,
    show bytes (quoted "id") = 4 from rfl, show bytes (quoted "ok") = 4 from rfl,
    show bytes (quoted "truncated") = 11 from rfl, show bytes (quoted "v") = 3 from rfl,
    show bytes (dump .null) = 4 from rfl, show boolBytes true = 4 from rfl, show digitBytes 1 = 1 from rfl]
  omega

lemma buildError_bytes (id : ℤ) (err client : String) :
    bytes (buildError id err client).json = 51 + bytes (body err) + digitBytes id + echoBytes client := by
  rw [buildError, bytes_obj (by simp), List.map_append, List.sum_append, echo_fieldBytes]
  simp only [bytes_fields, bytes_no_fields, bytes_int, bytes_bool, bytes_str,
    show bytes (quoted "err") = 5 from rfl, show bytes (quoted "id") = 4 from rfl,
    show bytes (quoted "ok") = 4 from rfl, show bytes (quoted "truncated") = 11 from rfl,
    show bytes (quoted "v") = 3 from rfl, show boolBytes false = 5 from rfl, show digitBytes 1 = 1 from rfl]
  omega

lemma minimalData_bytes (snap : ServiceSnapshot) :
    bytes (dump (minimalData snap)) = 88 + bytes (body snap.state) + boolBytes snap.archiveActive +
      digitBytes snap.archiveProgressBytes.toNat + digitBytes snap.archiveProgressTotalBytes.toNat := by
  rw [minimalData]
  simp (disch := simp) only [bytes_obj, bytes_fields, bytes_no_fields, bytes_int, bytes_bool, bytes_str,
    show bytes (quoted "archive") = 9 from rfl, show bytes (quoted "active") = 8 from rfl,
    show bytes (quoted "progress_bytes") = 16 from rfl,
    show bytes (quoted "progress_total_bytes") = 22 from rfl,
    show bytes (quoted "service") = 9 from rfl, show bytes (quoted "state") = 7 from rfl]
  omega

lemma minimalData_lt_statusData (snap : ServiceSnapshot) :
    bytes (dump (minimalData snap)) < bytes (dump (statusData snap)) := by
  rw [minimalData, statusData]
  simp (disch := simp) only [bytes_obj, bytes_fields, bytes_no_fields]
  omega

lemma bytes_ids (ids : List UInt16) :
    bytes (dump (.arr (ids.map fun i => .int i.toNat))) =
      1 + max 1 (ids.map fun i => digitBytes i.toNat + 1).sum := by
  cases ids with
  | nil => rfl
  | cons i ids =>
    rw [bytes_arr (by simp), List.map_map, List.map_cons, List.map_cons, List.sum_cons, List.sum_cons,
      Function.comp_apply, bytes_int, max_eq_right (by omega)]
    rfl

lemma buildStatus_cases (id : ℤ) (snap : ServiceSnapshot) (n : ℕ) (client : String) :
    ((buildStatus id snap n client).json = [] ∧
      n < (Reply.status snap).floor + digitBytes id + echoBytes client) ∨
    ∃ truncated data, (buildStatus id snap n client).json = dump (baseResponse id true truncated client data) ∧
      bytes (buildStatus id snap n client).json ≤ n ∧
      (Reply.status snap).floor + digitBytes id + echoBytes client ≤ n := by
  have hmin := baseResponse_bytes id true client (minimalData snap)
  have hfull := baseResponse_bytes id false client (statusData snap)
  have hlt := minimalData_lt_statusData snap
  have hdata := minimalData_bytes snap
  rw [show boolBytes true = 4 from rfl] at hmin
  rw [show boolBytes false = 5 from rfl] at hfull
  rw [Reply.floor, buildStatus]
  by_cases hs : trySerialize (baseResponse id true false client (statusData snap)) n = []
  · rw [if_pos hs]
    by_cases hm : trySerialize (baseResponse id true true client (minimalData snap)) n = []
    · rw [hm]
      rw [trySerialize_eq_nil] at hm
      exact Or.inl ⟨rfl, by omega⟩
    · obtain ⟨hd, hle⟩ := trySerialize_ne_nil hm
      exact Or.inr ⟨true, minimalData snap, hd, hd ▸ hle, by omega⟩
  · rw [if_neg hs]
    obtain ⟨hd, hle⟩ := trySerialize_ne_nil hs
    exact Or.inr ⟨false, statusData snap, hd, hd ▸ hle, by omega⟩

lemma buildStatus_fits_iff (id : ℤ) (snap : ServiceSnapshot) (n : ℕ) (client : String) :
    ((buildStatus id snap n client).json ≠ [] ∧ bytes (buildStatus id snap n client).json ≤ n) ↔
      (Reply.status snap).floor + digitBytes id + echoBytes client ≤ n := by
  obtain ⟨hnil, hlt⟩ | ⟨truncated, data, hd, hle, hfloor⟩ := buildStatus_cases id snap n client
  · exact iff_of_false (fun h => h.1 hnil) (not_le.mpr hlt)
  · exact iff_of_true ⟨hd ▸ dump_ne_nil _, hle⟩ hfloor

lemma internal_le_baseResponse (id : ℤ) (truncated : Bool) (client : String) (data : Json Empty) :
    bytes (buildError id "internal" client).json ≤
      bytes (dump (baseResponse id true truncated client data)) := by
  rw [buildError_bytes, baseResponse_bytes, show bytes (body "internal") = 8 from rfl, boolBytes]
  split_ifs <;> omega

lemma buildError_fits_iff (id : ℤ) (err client : String) (n : ℕ) :
    ((buildError id err client).json ≠ [] ∧ bytes (buildError id err client).json ≤ n) ↔
      51 + bytes (body err) + digitBytes id + echoBytes client ≤ n := by
  rw [buildError_bytes]
  exact and_iff_right (dump_ne_nil _)

def OrInternal (id : ℤ) (client : String) (n : ℕ) (s : List Char) : Prop :=
  (∃ truncated data, s = dump (baseResponse id true truncated client data) ∧ bytes s ≤ n) ∨
    s = (buildError id "internal" client).json

lemma OrInternal.fits_iff {id : ℤ} {client : String} {n : ℕ} {s : List Char} (h : OrInternal id client n s) :
    (s ≠ [] ∧ bytes s ≤ n) ↔ 59 + digitBytes id + echoBytes client ≤ n := by
  have herr := buildError_fits_iff id "internal" client n
  rw [show 51 + bytes (body "internal") = 59 from rfl] at herr
  rcases h with ⟨truncated, data, rfl, hle⟩ | rfl
  · have hmin := (internal_le_baseResponse id truncated client data).trans hle
    exact iff_of_true ⟨dump_ne_nil _, hle⟩ (herr.mp ⟨dump_ne_nil _, hmin⟩)
  · exact herr

lemma buildFcLogs_orInternal (id : ℤ) (page : FcLogsPage) (n : ℕ) (client : String) :
    OrInternal id client n (buildFcLogs id page n client).json := by
  rw [buildFcLogs]
  by_cases hs : trySerialize (pageJson id client page) n = []
  · rw [if_pos hs]
    cases hd : degrade id n client { page with truncated := true } with
    | none => exact Or.inr rfl
    | some s =>
      obtain ⟨k, -, rfl, hle⟩ := degrade_eq_some hd
      exact Or.inl ⟨_, _, rfl, hle⟩
  · rw [if_neg hs]
    obtain ⟨hd, hle⟩ := trySerialize_ne_nil hs
    exact Or.inl ⟨_, _, hd, hd ▸ hle⟩

lemma buildCaps_orInternal (id maxRequestBytes maxResponseBytes maxFcLogsPerResponse : ℤ) (n : ℕ)
    (client : String) : OrInternal id client n
      (buildCaps id maxRequestBytes maxResponseBytes maxFcLogsPerResponse n client).json := by
  rw [buildCaps]
  by_cases hs : trySerialize (baseResponse id true false client
      (capsData maxRequestBytes maxResponseBytes maxFcLogsPerResponse)) n = []
  · rw [if_pos hs]
    exact Or.inr rfl
  · rw [if_neg hs]
    obtain ⟨hd, hle⟩ := trySerialize_ne_nil hs
    exact Or.inl ⟨_, _, hd, hd ▸ hle⟩

lemma buildJobAck_bytes (id : ℤ) (alreadyRunning : Bool) (client : String) :
    bytes (buildJobAck id alreadyRunning client).json =
      (Reply.jobAck alreadyRunning).floor + digitBytes id + echoBytes client := by
  rw [buildJobAck, baseResponse_bytes, Reply.floor]
  simp (disch := simp) only [bytes_obj, bytes_fields, bytes_no_fields, bytes_bool,
    show bytes (quoted "accepted") = 10 from rfl, show bytes (quoted "already_running") = 17 from rfl,
    show boolBytes true = 4 from rfl, show boolBytes false = 5 from rfl]
  omega

lemma buildDownloadAck_bytes (id : ℤ) (queued : ℕ) (notFound : List UInt16) (client : String) :
    bytes (buildDownloadAck id queued notFound client).json =
      (Reply.downloadAck queued notFound).floor + digitBytes id + echoBytes client := by
  rw [buildDownloadAck, baseResponse_bytes, Reply.floor]
  simp (disch := simp) only [bytes_obj, bytes_fields, bytes_no_fields, bytes_bool, bytes_ids, bytes_int,
    show bytes (quoted "accepted") = 10 from rfl, show bytes (quoted "not_found") = 11 from rfl,
    show bytes (quoted "queued") = 8 from rfl,
    show boolBytes true = 4 from rfl, show boolBytes false = 5 from rfl]
  omega

lemma buildRecAck_bytes (id : ℤ) (active : Bool) (client : String) :
    bytes (buildRecAck id active client).json =
      (Reply.recAck active).floor + digitBytes id + echoBytes client := by
  rw [buildRecAck, baseResponse_bytes, Reply.floor]
  simp (disch := simp) only [bytes_obj, bytes_fields, bytes_no_fields, bytes_bool,
    show bytes (quoted "active") = 8 from rfl, show boolBytes false = 5 from rfl]
  omega

lemma Reply.fits_iff (settings : CompanionSettings) (id : ℤ) (client : String) (reply : Reply) :
    ((reply.build settings id client).json ≠ [] ∧
        bytes (reply.build settings id client).json ≤ settings.maxBytes) ↔
      reply.floor + digitBytes id + echoBytes client ≤ settings.maxBytes := by
  cases reply with
  | status snap => exact buildStatus_fits_iff id snap _ client
  | fcLogs page => exact (buildFcLogs_orInternal id page _ client).fits_iff
  | caps => exact (buildCaps_orInternal id _ _ _ _ client).fits_iff
  | error err => exact buildError_fits_iff id err client _
  | jobAck alreadyRunning =>
    rw [← buildJobAck_bytes]
    exact and_iff_right (dump_ne_nil _)
  | downloadAck queued notFound =>
    rw [← buildDownloadAck_bytes]
    exact and_iff_right (dump_ne_nil _)
  | recAck active =>
    rw [← buildRecAck_bytes]
    exact and_iff_right (dump_ne_nil _)

end Lengths

section Envelope

def Matches (id : ℤ) (client : String) (s : List Char) : Prop :=
  ∃ fields, s = dump (.obj fields) ∧ fields.lookup "id" = some (.int id) ∧
    fields.lookup "client" = if client = "" then none else some (.str client)

lemma Matches.unique {id id' : ℤ} {client client' : String} {s : List Char} (h : Matches id client s)
    (h' : Matches id' client' s) : id = id' := by
  obtain ⟨fields, rfl, hid, -⟩ := h
  obtain ⟨fields', hs, hid', -⟩ := h'
  obtain rfl : fields = fields' := by simpa using dump_injective hs
  rw [hid] at hid'
  simpa using hid'

lemma Matches.ne_nil {id : ℤ} {client : String} {s : List Char} (h : Matches id client s) : s ≠ [] := by
  obtain ⟨fields, rfl, -⟩ := h
  exact dump_ne_nil _

lemma baseResponse_matches (id : ℤ) (truncated : Bool) (client : String) (data : Json Empty) :
    Matches id client (dump (baseResponse id true truncated client data)) := by
  refine ⟨_, rfl, ?_⟩
  rw [echo]
  split_ifs <;> exact ⟨rfl, rfl⟩

lemma buildError_matches (id : ℤ) (err client : String) :
    Matches id client (buildError id err client).json := by
  refine ⟨_, rfl, ?_⟩
  rw [echo]
  split_ifs <;> exact ⟨rfl, rfl⟩

lemma OrInternal.matches {id : ℤ} {client : String} {n : ℕ} {s : List Char} (h : OrInternal id client n s) :
    Matches id client s := by
  rcases h with ⟨truncated, data, rfl, -⟩ | rfl
  · exact baseResponse_matches id truncated client data
  · exact buildError_matches id "internal" client

lemma Reply.build_matches (settings : CompanionSettings) (id : ℤ) (client : String) (reply : Reply)
    (h : (reply.build settings id client).json ≠ []) :
    Matches id client (reply.build settings id client).json := by
  cases reply with
  | status snap =>
    obtain ⟨hnil, -⟩ | ⟨truncated, data, hd, -⟩ := buildStatus_cases id snap settings.maxBytes client
    · exact absurd hnil h
    · rw [Reply.build, hd]
      exact baseResponse_matches id truncated client data
  | fcLogs page => exact (buildFcLogs_orInternal id page _ client).matches
  | caps => exact (buildCaps_orInternal id _ _ _ _ client).matches
  | jobAck alreadyRunning => exact baseResponse_matches id false client _
  | downloadAck queued notFound => exact baseResponse_matches id false client _
  | recAck active => exact baseResponse_matches id false client _
  | error err => exact buildError_matches id err client

lemma Reply.build_eq_nil_iff (settings : CompanionSettings) (id : ℤ) (client : String) (reply : Reply) :
    (reply.build settings id client).json = [] ↔ ∃ snap, reply = .status snap ∧
      settings.maxBytes < reply.floor + digitBytes id + echoBytes client := by
  cases reply with
  | status snap =>
    obtain ⟨hnil, hlt⟩ | ⟨truncated, data, hd, -, hle⟩ := buildStatus_cases id snap settings.maxBytes client
    · exact iff_of_true hnil ⟨snap, rfl, hlt⟩
    · refine iff_of_false (fun h => dump_ne_nil _ (hd.symm.trans h)) ?_
      rintro ⟨-, -, hlt⟩
      omega
  | fcLogs page => exact iff_of_false (buildFcLogs_orInternal id page _ client).matches.ne_nil (by simp)
  | caps => exact iff_of_false (buildCaps_orInternal id _ _ _ _ client).matches.ne_nil (by simp)
  | jobAck alreadyRunning => exact iff_of_false (dump_ne_nil _) (by simp)
  | downloadAck queued notFound => exact iff_of_false (dump_ne_nil _) (by simp)
  | recAck active => exact iff_of_false (dump_ne_nil _) (by simp)
  | error err => exact iff_of_false (dump_ne_nil _) (by simp)

end Envelope

end MavlinkLogService.Companion
