import MavlinkLogService.Companion.Replies
import MavlinkLogService.Service.CompanionApi
import MavlinkLogService.Storage.Finalization

/-! Every request that is read gets one datagram in answer; when it carries the id of the request, and
when it fits the budget. -/

namespace MavlinkLogService.Companion

open Library Json Service

section Parsing

variable {parse : List UInt8 → Option Inbound} {text : List UInt8}

structure WellTyped (fields : List (String × Inbound)) (id : ℤ) (op client : String) : Prop where
  lookup_id : fields.lookup "id" = some (.int id)
  lookup_op : fields.lookup "op" = some (.str op)
  op_ne : op ≠ ""
  lookup_client : fields.lookup "client" = some (.str client) ∨ fields.lookup "client" = none ∧ client = ""
  ints : ∀ key ∈ ["v", "offset", "limit"], ∀ j, fields.lookup key = some j → ∃ i, j = .int i
  token : ∀ j, fields.lookup "token" = some j → ∃ s, j = .str s
  sel : ∀ sel, fields.lookup "sel" = some (.obj sel) → ∀ j, sel.lookup "all" = some j → ∃ b, j = .bool b

lemma value_of_lookup {α : Type} {get : Inbound → Option α} {key : String} {fallback a : α}
    {fields : List (String × Inbound)} {j : Inbound} (h : fields.lookup key = some j) (hj : get j = some a) :
    value get key fallback (.obj fields) = some a := by
  rw [value, h]
  exact hj

lemma value_isSome {α : Type} (get : Inbound → Option α) (key : String) (fallback : α)
    (fields : List (String × Inbound)) (h : ∀ j, fields.lookup key = some j → (get j).isSome) :
    ∃ a, value get key fallback (.obj fields) = some a := by
  rw [value]
  cases hf : fields.lookup key with
  | none => exact ⟨fallback, rfl⟩
  | some j => exact Option.isSome_iff_exists.mp (h j hf)

lemma selection_isSome {fields : List (String × Inbound)}
    (h : ∀ sel, fields.lookup "sel" = some (.obj sel) → ∀ j, sel.lookup "all" = some j → ∃ b, j = .bool b) :
    ∃ p, selection (.obj fields) = some p := by
  rw [selection]
  split
  · rename_i sel hsel
    obtain ⟨all, hall⟩ := value_isSome getBool "all" false sel (by
      intro j hj
      obtain ⟨b, rfl⟩ := h sel hsel j hj
      rfl)
    rw [hall]
    exact ⟨_, rfl⟩
  · exact ⟨_, rfl⟩

lemma parseRequest_wellTyped {fields : List (String × Inbound)} {id : ℤ} {op client : String}
    (hparse : parse text = some (.obj fields)) (h : WellTyped fields id op client) :
    ∃ req, parseRequest parse text = some req ∧ req.id = toInt32 (ofInt32 id) ∧ req.op = op ∧
      req.client = client := by
  have hints : ∀ key ∈ ["v", "offset", "limit"], ∀ fallback,
      ∃ a, value getInt key fallback (.obj fields) = some a := by
    intro key hkey fallback
    refine value_isSome getInt key fallback fields fun j hj => ?_
    obtain ⟨i, rfl⟩ := h.ints key hkey j hj
    rfl
  obtain ⟨version, hv⟩ := hints "v" (by simp) 0
  obtain ⟨offset, ho⟩ := hints "offset" (by simp) 0
  obtain ⟨limit, hl⟩ := hints "limit" (by simp) 8
  obtain ⟨token, ht⟩ := value_isSome getString "token" "" fields (by
    intro j hj
    obtain ⟨s, rfl⟩ := h.token j hj
    rfl)
  obtain ⟨⟨selAll, selIds⟩, hs⟩ := selection_isSome h.sel
  have hid : value getInt "id" 0 (.obj fields) = some (toInt32 (ofInt32 id)) := value_of_lookup h.lookup_id rfl
  have hop : value getString "op" "" (.obj fields) = some op := value_of_lookup h.lookup_op rfl
  have hc : value getString "client" "" (.obj fields) = some client := by
    rcases h.lookup_client with hc | ⟨hc, rfl⟩
    · exact value_of_lookup hc rfl
    · rw [value, hc]
  refine ⟨⟨version, toInt32 (ofInt32 id), op, token, client, offset, limit, selAll, selIds⟩, ?_, rfl, rfl, rfl⟩
  simp only [parseRequest, hparse, hv, hid, hop, ht, hc, ho, hl, hs, Option.bind_eq_bind, Option.bind_some,
    if_neg h.op_ne]

end Parsing

section Dispatch

variable {W : Type} {settings : CompanionSettings} {calls : Callbacks W} {req : CompanionRequest} {w : W}

lemma respondToJobOutcome_ne_status (op : String) (outcome : JobOutcome) (snap : ServiceSnapshot) :
    respondToJobOutcome op outcome ≠ .status snap := by
  rw [respondToJobOutcome]
  split <;> first | split_ifs <;> simp | simp

lemma respondToRecStart_ne_status (result : RecStartResult) (snap : ServiceSnapshot) :
    respondToRecStart result ≠ .status snap := by
  cases result <;> simp [respondToRecStart]

lemma dispatch_status (h : req.op = "status") :
    dispatch settings calls req w = (.status (calls.snapshotFn w), w) := by
  have hb : badToken settings req = false := by simp [badToken, h, isMutating]
  rw [dispatch, if_neg (by simp [hb]), if_pos h]

lemma dispatch_ne_status (h : req.op ≠ "status") (snap : ServiceSnapshot) :
    (dispatch settings calls req w).1 ≠ .status snap := by
  rw [dispatch, if_neg h]
  repeat' refine iteInduction (motive := fun p : Reply × W => p.1 ≠ .status snap) (fun _ => ?_) fun _ => ?_
  all_goals first
    | exact Reply.noConfusion
    | exact respondToJobOutcome_ne_status _ _ _
    | exact respondToRecStart_ne_status _ _

lemma dispatch_world (h : isMutating req.op = true → badToken settings req = true) :
    (dispatch settings calls req w).2 = w := by
  rw [dispatch]
  by_cases hbad : badToken settings req = true
  · rw [if_pos hbad]
  have hop : isMutating req.op = false := Bool.eq_false_iff.mpr fun hm => hbad (h hm)
  simp only [isMutating, Bool.or_eq_false_iff, beq_eq_false_iff_ne] at hop
  obtain ⟨⟨⟨⟨⟨⟨hstart, hcancel⟩, hrefresh⟩, hdownload⟩, herase⟩, hrec⟩, hstop⟩ := hop
  rw [if_neg hbad, if_neg hstart, if_neg hrefresh, if_neg hdownload, if_neg herase, if_neg hcancel,
    if_neg hrec, if_neg hstop]
  split_ifs <;> rfl

end Dispatch

section Answers

variable {W : Type} {parse : List UInt8 → Option Inbound} {settings : CompanionSettings} {calls : Callbacks W}
  {text : List UInt8} {req : CompanionRequest} {w : W}

lemma handleRequest_answers (hsize : (text.length : ℤ) ≤ settings.maxRequestBytes)
    (hreq : parseRequest parse text = some req) :
    handleRequest parse settings calls text w =
      ([((dispatch settings calls req w).1.build settings req.id req.client).json],
        (dispatch settings calls req w).2) := by
  rw [handleRequest, if_neg (not_lt.mpr hsize), hreq]

def requestFields {ρ : Type} (id : ℤ) (op client : String) : List (String × Json ρ) :=
  [("client", .str client), ("id", .int id), ("op", .str op)]

def wire (id : ℤ) (op client : String) : List UInt8 :=
  (dump (.obj (requestFields id op client))).map fun c => UInt8.ofNat c.toNat

def parseWire (id : ℤ) (op client : String) (text : List UInt8) : Option Inbound :=
  if text = wire id op client then some (.obj (requestFields id op client)) else none

lemma parseWire_wire (id : ℤ) (op client : String) :
    parseWire id op client (wire id op client) = some (.obj (requestFields id op client)) := if_pos rfl

lemma requestFields_wellTyped (id : ℤ) {op : String} (client : String) (hop : op ≠ "") :
    WellTyped (requestFields id op client) id op client where
  lookup_id := rfl
  lookup_op := rfl
  op_ne := hop
  lookup_client := Or.inl rfl
  ints key hkey j hj := by
    fin_cases hkey <;> cases hj
  token j hj := by cases hj
  sel sel hj := by cases hj

def idle : World Unit where
  service := { config := { storage := Storage.epochSettings } }
  recorder := ()

def noRecorder : Recorder Unit where
  start r := (.disabled, r)
  stop r := r
  snapshot _ := {}

theorem reply_fits_datagram_iff (parse : List UInt8 → Option Inbound) (settings : CompanionSettings)
    (calls : Callbacks W) (text : List UInt8) (req : CompanionRequest) (w : W)
    (hmax : settings.maxResponseBytes = 1200) (hsize : (text.length : ℤ) ≤ settings.maxRequestBytes)
    (hreq : parseRequest parse text = some req) :
    ∃ payload, (handleRequest parse settings calls text w).1 = [payload] ∧
      ((payload ≠ [] ∧ (bytes payload : ℤ) ≤ settings.maxResponseBytes) ↔
        (dispatch settings calls req w).1.floor + digitBytes req.id + echoBytes req.client ≤ 1200) := by
  refine ⟨_, by rw [handleRequest_answers hsize hreq], ?_⟩
  have hbudget : settings.maxBytes = 1200 := by
    rw [CompanionSettings.maxBytes, hmax]
    rfl
  have h := Reply.fits_iff settings req.id req.client (dispatch settings calls req w).1
  rw [hbudget] at h
  rw [← h, hmax]
  norm_cast

theorem reply_fits_datagram_iff_status : ∃ payload,
    (handleRequest (parseWire 1 "status" "gs") {} (callbacks noRecorder) (wire 1 "status" "gs") idle).1 =
      [payload] ∧ payload ≠ [] ∧ (bytes payload : ℤ) ≤ 1200 := by
  obtain ⟨req, hreq, hid, hop, hclient⟩ := parseRequest_wellTyped (parseWire_wire 1 "status" "gs")
    (requestFields_wellTyped 1 "gs" (by decide))
  obtain ⟨payload, hsent, hfits⟩ := reply_fits_datagram_iff (parseWire 1 "status" "gs") {}
    (callbacks noRecorder) (wire 1 "status" "gs") req idle rfl (by decide) hreq
  refine ⟨payload, hsent, hfits.mpr ?_⟩
  rw [dispatch_status hop, hid, hclient]
  decide +kernel

def letters (n : ℕ) : String := String.ofList (List.replicate n 'a')

lemma body_letters (n : ℕ) : body (letters n) = List.replicate n 'a' := by
  rw [body, letters, String.toList_ofList]
  induction n with
  | zero => rfl
  | succ n ih =>
    rw [List.replicate_succ, List.flatMap_cons, ih]
    rfl

lemma echoBytes_letters (n : ℕ) : n ≤ echoBytes (letters n) := by
  rw [echoBytes]
  split_ifs with h
  · have hlen := congrArg (fun s => s.toList.length) h
    simp [letters] at hlen
    omega
  · rw [body_letters, bytes, List.map_replicate, List.sum_replicate, show 'a'.utf8Size = 1 from rfl]
    simp

lemma wire_letters_length (n : ℕ) : (wire 1 "caps" (letters n)).length = n + 32 := by
  simp only [wire, List.length_map, requestFields, dump, dumpFields, List.length_cons, List.length_append,
    quoted, body_letters, List.length_replicate, List.length_nil,
    show (body "client").length = 6 from rfl, show (body "id").length = 2 from rfl,
    show (body "op").length = 2 from rfl, show (body "caps").length = 4 from rfl,
    show (digits 1).length = 1 from rfl]
  omega

theorem long_client_overflows : (wire 1 "caps" (letters 1200)).length ≤ 2048 ∧ ∃ payload,
    (handleRequest (parseWire 1 "caps" (letters 1200)) {} (callbacks noRecorder)
      (wire 1 "caps" (letters 1200)) idle).1 = [payload] ∧ 1200 < bytes payload := by
  have hlen := wire_letters_length 1200
  have hecho := echoBytes_letters 1200
  generalize letters 1200 = client at hlen hecho ⊢
  obtain ⟨req, hreq, hid, hop, hclient⟩ := parseRequest_wellTyped (parseWire_wire 1 "caps" client)
    (requestFields_wellTyped 1 client (by decide))
  have hsize : ((wire 1 "caps" client).length : ℤ) ≤ CompanionSettings.maxRequestBytes {} := by
    rw [hlen]
    norm_num
  have hreply : (dispatch {} (callbacks noRecorder) req idle).1 = .caps := by
    simp [dispatch, badToken, isMutating, hop]
  refine ⟨by omega, _, by rw [handleRequest_answers hsize hreq], ?_⟩
  rw [hreply, hclient]
  by_contra h
  have hfits := (buildCaps_orInternal req.id 2048 1200 8 1200 client).fits_iff.mp
    ⟨(buildCaps_orInternal req.id 2048 1200 8 1200 client).matches.ne_nil, not_lt.mp h⟩
  omega

theorem one_matching_reply_iff (parse : List UInt8 → Option Inbound) (settings : CompanionSettings)
    (calls : Callbacks W) (text : List UInt8) (fields : List (String × Inbound)) (id : ℤ) (op client : String)
    (w : W) (hsize : (text.length : ℤ) ≤ settings.maxRequestBytes)
    (hparse : parse text = some (.obj fields)) (htyped : WellTyped fields id op client) :
    ∃ payload, (handleRequest parse settings calls text w).1 = [payload] ∧
      ((payload ≠ [] → Matches id client payload) ↔
        (-2 ^ 31 ≤ id ∧ id < 2 ^ 31) ∨ op = "status" ∧ settings.maxBytes <
          (Reply.status (calls.snapshotFn w)).floor + digitBytes (toInt32 (ofInt32 id)) + echoBytes client) := by
  obtain ⟨req, hreq, hid, rfl, rfl⟩ := parseRequest_wellTyped hparse htyped
  refine ⟨_, by rw [handleRequest_answers hsize hreq], ?_⟩
  rw [← toInt32_ofInt32, ← hid]
  by_cases hnil : ((dispatch settings calls req w).1.build settings req.id req.client).json = []
  · obtain ⟨snap, hstatus, hlt⟩ := (Reply.build_eq_nil_iff _ _ _ _).mp hnil
    have hop : req.op = "status" := by
      by_contra hop
      exact dispatch_ne_status hop snap hstatus
    rw [dispatch_status hop] at hlt
    exact iff_of_true (fun h => absurd hnil h) (Or.inr ⟨hop, hlt⟩)
  · have hm := Reply.build_matches _ _ _ _ hnil
    constructor
    · intro h
      exact Or.inl (hm.unique (h hnil))
    · rintro (hsame | ⟨hop, hlt⟩) -
      · rwa [← hsame]
      · refine absurd ((Reply.build_eq_nil_iff _ _ _ _).mpr ⟨calls.snapshotFn w, ?_⟩) hnil
        rw [dispatch_status hop]
        exact ⟨rfl, hlt⟩

theorem one_matching_reply_iff_caps : ∃ payload,
    (handleRequest (parseWire 7 "caps" "gs") {} (callbacks noRecorder) (wire 7 "caps" "gs") idle).1 =
      [payload] ∧ (payload ≠ [] → Matches 7 "gs" payload) := by
  obtain ⟨payload, hsent, hm⟩ := one_matching_reply_iff (parseWire 7 "caps" "gs") {} (callbacks noRecorder)
    (wire 7 "caps" "gs") (requestFields 7 "caps" "gs") 7 "caps" "gs" idle (by decide)
    (parseWire_wire 7 "caps" "gs") (requestFields_wellTyped 7 "gs" (by decide))
  exact ⟨payload, hsent, hm.mpr (Or.inl (by decide))⟩

theorem wide_id_altered : ∃ payload,
    (handleRequest (parseWire 4294967296 "caps" "gs") {} (callbacks noRecorder)
      (wire 4294967296 "caps" "gs") idle).1 = [payload] ∧
    Matches 0 "gs" payload ∧ ¬ Matches 4294967296 "gs" payload := by
  obtain ⟨req, hreq, hid, hop, hclient⟩ := parseRequest_wellTyped (parseWire_wire 4294967296 "caps" "gs")
    (requestFields_wellTyped 4294967296 "gs" (by decide))
  have hreply : (dispatch {} (callbacks noRecorder) req idle).1 = .caps := by
    simp [dispatch, badToken, isMutating, hop]
  have hm := (buildCaps_orInternal req.id 2048 1200 8 1200 req.client).matches
  rw [hclient, show req.id = 0 from hid] at hm
  refine ⟨_, by rw [handleRequest_answers (by decide) hreq], ?_⟩
  rw [hreply, hclient, show req.id = 0 from hid]
  exact ⟨hm, fun h => absurd (hm.unique h) (by decide)⟩

end Answers

end MavlinkLogService.Companion
