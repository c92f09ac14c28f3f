import MavlinkLogService.Library.Json
import MavlinkLogService.Words

/-! The companion protocol: how a request is read, how each reply is built, and what happens to replies
that exceed the byte budget. An object is written with its fields in the order of their keys. -/

namespace MavlinkLogService.Companion

open Library Json

structure CompanionRequest where
  version : ℤ := 0
  id : ℤ := 0
  op : String := ""
  token : String := ""
  client : String := ""
  offset : ℤ := 0
  limit : ℤ := 8
  selAll : Bool := false
  selIds : List UInt16 := []
  deriving DecidableEq, Repr

structure ServiceSnapshot where
  state : String := ""
  version : String := ""
  jobType : String := ""
  transportConnected : Bool := false
  heartbeatFresh : Bool := false
  vehicleDetected : Bool := false
  vehicleArmed : Bool := false
  fcLogsCount : ℤ := 0
  fcLogsStale : Bool := true
  archiveActive : Bool := false
  archiveCurrentLogId : UInt16 := 0
  archiveProgressBytes : UInt32 := 0
  archiveProgressTotalBytes : UInt32 := 0
  archivePercent : ℤ := 0
  archiveBytesPerSec : UInt32 := 0
  lastCycleDownloaded : ℤ := 0
  lastCycleSkipped : ℤ := 0
  lastCycleFailed : ℤ := 0
  lastCycleCancelled : ℤ := 0
  lastCycleAllArchived : Bool := false
  storageUsedBytes : UInt64 := 0
  storageLimitBytes : UInt64 := 0
  storageArchivedCount : ℤ := 0
  recordingEnabled : Bool := false
  recordingActive : Bool := false
  recordingDurationSec : UInt32 := 0
  recordingFreeBytes : UInt64 := 0
  recordingCrashReason : String := ""
  deriving DecidableEq, Repr

structure FcLogEntry where
  id : UInt16 := 0
  size : UInt32 := 0
  timeUtc : UInt32 := 0
  downloaded : Bool := false
  deriving DecidableEq, Repr

structure FcLogsPage where
  count : ℤ := 0
  offset : ℤ := 0
  entries : List FcLogEntry := []
  truncated : Bool := false
  stale : Bool := true
  deriving DecidableEq, Repr

structure SerializedResponse where
  json : List Char := []
  truncated : Bool := false
  deriving DecidableEq, Repr

def kMaxIdsPerRequest : ℕ := 32

section Parsing

/-- `json::parse` yields such a value. A number that is not an integer is kept as its conversion to an
integer, the only thing that is done with it. -/
abbrev Inbound := Json ℤ

def getInt : Inbound → Option ℤ
  | .int i => some (toInt32 (ofInt32 i))
  | .real x => some (toInt32 (ofInt32 x))
  | .bool b => some (if b then 1 else 0)
  | _ => none

def getString : Inbound → Option String
  | .str s => some s
  | _ => none

def getBool : Inbound → Option Bool
  | .bool b => some b
  | _ => none

/-- `obj.value(key, fallback)`; `none` stands for the exception. -/
def value {α : Type} (get : Inbound → Option α) (key : String) (fallback : α) : Inbound → Option α
  | .obj fields => match fields.lookup key with
    | some j => get j
    | none => some fallback
  | _ => none

def selectedIds : List Inbound → List UInt16
  | [] => []
  | .int raw :: items =>
    if 0 ≤ raw ∧ raw ≤ 0xFFFF then UInt16.ofNat raw.toNat :: selectedIds items else selectedIds items
  | _ :: items => selectedIds items

def selection : Inbound → Option (Bool × List UInt16)
  | .obj fields => match fields.lookup "sel" with
    | some (.obj sel) => do
      let all ← value getBool "all" false (.obj sel)
      some (all, match sel.lookup "ids" with
        | some (.arr items) => selectedIds items
        | _ => [])
    | _ => some (false, [])
  | _ => some (false, [])

def parseRequest (parse : List UInt8 → Option Inbound) (text : List UInt8) : Option CompanionRequest := do
  let obj ← parse text
  let version ← value getInt "v" 0 obj
  let id ← value getInt "id" 0 obj
  let op ← value getString "op" "" obj
  let token ← value getString "token" "" obj
  let client ← value getString "client" "" obj
  let offset ← value getInt "offset" 0 obj
  let limit ← value getInt "limit" 8 obj
  let (selAll, selIds) ← selection obj
  if op = "" then none
  else some { version, id, op, token, client, offset, limit, selAll, selIds }

end Parsing

def echo (client : String) : List (String × Json Empty) :=
  if client = "" then [] else [("client", .str client)]

def baseResponse (id : ℤ) (ok truncated : Bool) (client : String) (data : Json Empty) : Json Empty :=
  .obj (echo client ++ ("data", data) :: ((if ok then [("err", .null)] else []) ++
    [("id", .int id), ("ok", .bool ok), ("truncated", .bool truncated), ("v", .int 1)]))

/-- The empty text stands for a reply over the budget. -/
def trySerialize (obj : Json Empty) (maxBytes : ℕ) : List Char :=
  if maxBytes < bytes (dump obj) then [] else dump obj

def orNull (s : String) : Json Empty := if s = "" then .null else .str s

def statusData (snap : ServiceSnapshot) : Json Empty :=
  .obj [
    ("archive", .obj [
      ("active", .bool snap.archiveActive),
      ("bytes_per_sec", .int snap.archiveBytesPerSec.toNat),
      ("current_log_id", .int snap.archiveCurrentLogId.toNat),
      ("last_cycle", .obj [
        ("all_archived", .bool snap.lastCycleAllArchived),
        ("cancelled", .int snap.lastCycleCancelled),
        ("downloaded", .int snap.lastCycleDownloaded),
        ("failed", .int snap.lastCycleFailed),
        ("skipped", .int snap.lastCycleSkipped)]),
      ("percent", .int snap.archivePercent),
      ("progress_bytes", .int snap.archiveProgressBytes.toNat),
      ("progress_total_bytes", .int snap.archiveProgressTotalBytes.toNat)]),
    ("fc_logs", .obj [("count", .int snap.fcLogsCount), ("stale", .bool snap.fcLogsStale)]),
    ("job", .obj [("active", .bool (snap.jobType != "")), ("type", orNull snap.jobType)]),
    ("link", .obj [
      ("heartbeat_fresh", .bool snap.heartbeatFresh),
      ("transport_connected", .bool snap.transportConnected)]),
    ("recording", .obj [
      ("active", .bool snap.recordingActive),
      ("duration_sec", .int snap.recordingDurationSec.toNat),
      ("enabled", .bool snap.recordingEnabled),
      ("error", orNull snap.recordingCrashReason),
      ("free_bytes", .int snap.recordingFreeBytes.toNat)]),
    ("service", .obj [("state", .str snap.state), ("version", .str snap.version)]),
    ("storage", .obj [
      ("archived_count", .int snap.storageArchivedCount),
      ("limit_bytes", .int snap.storageLimitBytes.toNat),
      ("used_bytes", .int snap.storageUsedBytes.toNat)]),
    ("vehicle", .obj [("armed", .bool snap.vehicleArmed), ("detected", .bool snap.vehicleDetected)])]

def minimalData (snap : ServiceSnapshot) : Json Empty :=
  .obj [
    ("archive", .obj [
      ("active", .bool snap.archiveActive),
      ("progress_bytes", .int snap.archiveProgressBytes.toNat),
      ("progress_total_bytes", .int snap.archiveProgressTotalBytes.toNat)]),
    ("service", .obj [("state", .str snap.state)])]

def buildStatus (id : ℤ) (snap : ServiceSnapshot) (maxBytes : ℕ) (client : String) : SerializedResponse :=
  let s := trySerialize (baseResponse id true false client (statusData snap)) maxBytes
  if s = [] then ⟨trySerialize (baseResponse id true true client (minimalData snap)) maxBytes, true⟩
  else ⟨s, false⟩

def buildError (id : ℤ) (err client : String) : SerializedResponse :=
  ⟨dump (.obj (echo client ++ [("err", .str err), ("id", .int id), ("ok", .bool false),
    ("truncated", .bool false), ("v", .int 1)])), false⟩

def entryJson (e : FcLogEntry) : Json Empty :=
  .obj [("dl", .bool e.downloaded), ("id", .int e.id.toNat), ("size", .int e.size.toNat),
    ("t", .int e.timeUtc.toNat)]

/-- The local function `build` of `buildFcLogs`. -/
def pageJson (id : ℤ) (client : String) (page : FcLogsPage) : Json Empty :=
  baseResponse id true page.truncated client (.obj [
    ("count", .int page.count),
    ("entries", .arr (page.entries.map entryJson)),
    ("offset", .int page.offset),
    ("stale", .bool page.stale)])

def degrade (id : ℤ) (maxBytes : ℕ) (client : String) (reduced : FcLogsPage) : Option (List Char) :=
  if reduced.entries = [] then none
  else
    let half := { reduced with entries := reduced.entries.take (reduced.entries.length / 2) }
    let s := trySerialize (pageJson id client half) maxBytes
    if s = [] then degrade id maxBytes client half else some s
termination_by reduced.entries.length
decreasing_by
  have : 0 < reduced.entries.length := List.length_pos_of_ne_nil ‹_›
  simp only [List.length_take]
  omega

def buildFcLogs (id : ℤ) (page : FcLogsPage) (maxBytes : ℕ) (client : String) : SerializedResponse :=
  let s := trySerialize (pageJson id client page) maxBytes
  if s = [] then
    match degrade id maxBytes client { page with truncated := true } with
    | some s => ⟨s, true⟩
    | none => ⟨(buildError id "internal" client).json, false⟩
  else ⟨s, page.truncated⟩

def buildJobAck (id : ℤ) (alreadyRunning : Bool) (client : String) : SerializedResponse :=
  ⟨dump (baseResponse id true false client
    (.obj [("accepted", .bool true), ("already_running", .bool alreadyRunning)])), false⟩

def buildDownloadAck (id : ℤ) (queued : ℕ) (notFound : List UInt16) (client : String) :
    SerializedResponse :=
  ⟨dump (baseResponse id true false client (.obj [
    ("accepted", .bool true),
    ("not_found", .arr (notFound.map fun i => .int i.toNat)),
    ("queued", .int queued)])), false⟩

def buildRecAck (id : ℤ) (active : Bool) (client : String) : SerializedResponse :=
  ⟨dump (baseResponse id true false client (.obj [("active", .bool active)])), false⟩

def capsData (maxRequestBytes maxResponseBytes maxFcLogsPerResponse : ℤ) : Json Empty :=
  .obj [
    ("limits", .obj [
      ("max_fc_logs_per_response", .int maxFcLogsPerResponse),
      ("max_ids_per_request", .int kMaxIdsPerRequest),
      ("max_request_bytes", .int maxRequestBytes),
      ("max_response_bytes", .int maxResponseBytes)]),
    ("ops", .arr (["status", "fc.logs", "caps", "archive.start", "archive.cancel", "logs.refresh",
      "logs.download", "logs.erase", "rec.start", "rec.stop"].map .str)),
    ("v", .int 1)]

def buildCaps (id maxRequestBytes maxResponseBytes maxFcLogsPerResponse : ℤ) (maxBytes : ℕ)
    (client : String) : SerializedResponse :=
  let s := trySerialize (baseResponse id true false client
    (capsData maxRequestBytes maxResponseBytes maxFcLogsPerResponse)) maxBytes
  if s = [] then ⟨(buildError id "internal" client).json, false⟩ else ⟨s, false⟩

end MavlinkLogService.Companion
