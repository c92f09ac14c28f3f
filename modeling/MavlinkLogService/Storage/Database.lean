import MavlinkLogService.Types
import MavlinkLogService.Storage.StorageManager

/-! The catalog of archived logs and the statistics table. -/

namespace MavlinkLogService.Storage

structure ArchivedLog where
  sha256 : String
  fcLogId : UInt16
  fcLogSize : UInt32
  fcLogTimeUtc : UInt32
  probeSha256 : String
  probeBytes : ℤ
  archiveTime : ℤ
  archiveDurationMs : ℤ
  filename : Path
  erased : Bool := false
  deriving DecidableEq, Repr

inductive Stat
  | flightsArchived
  | flightsSkipped
  | bytesDownloaded
  | archiveFailures
  | archiveCancellations
  | lastArchiveTime
  | storageBytes
  deriving DecidableEq, Repr

structure Database where
  archivedLogs : List ArchivedLog := []
  statistics : Stat → ℤ := fun _ => 0

namespace Database

/-- `INSERT OR REPLACE` on the primary key `sha256`. -/
def insertArchivedLog (db : Database) (row : ArchivedLog) : Database :=
  { db with archivedLogs := db.archivedLogs.filter (fun r => r.sha256 != row.sha256) ++ [row] }

def candidates (db : Database) (id : UInt16) (size : UInt32) : List ArchivedLog :=
  db.archivedLogs.filter (fun r => r.fcLogId == id && r.fcLogSize == size)

/-- `LIMIT 1` without an order: which of the matching rows comes first is left to `pick`. -/
def findCandidate (db : Database) (id : UInt16) (size : UInt32) (pick : ℕ) : Option ArchivedLog :=
  (db.candidates id size)[pick % (db.candidates id size).length]?

def hasArchived (db : Database) (id : UInt16) (size : UInt32) : Bool :=
  (db.findCandidate id size 0).isSome

def markAllErased (db : Database) : Database :=
  { db with archivedLogs := db.archivedLogs.map (fun r => { r with erased := true }) }

def getStat (db : Database) (key : Stat) : ℤ := db.statistics key

def setStat (db : Database) (key : Stat) (value : ℤ) : Database :=
  { db with statistics := Function.update db.statistics key value }

def incrementStat (db : Database) (key : Stat) (delta : ℤ := 1) : Database :=
  db.setStat key (db.getStat key + delta)

variable {db : Database}

@[simp] lemma setStat_archivedLogs (key : Stat) (value : ℤ) :
    (db.setStat key value).archivedLogs = db.archivedLogs := rfl

@[simp] lemma incrementStat_archivedLogs (key : Stat) (delta : ℤ) :
    (db.incrementStat key delta).archivedLogs = db.archivedLogs := rfl

lemma findCandidate_mem {id : UInt16} {size : UInt32} {pick : ℕ} {r : ArchivedLog}
    (h : db.findCandidate id size pick = some r) :
    r ∈ db.archivedLogs ∧ r.fcLogId = id ∧ r.fcLogSize = size := by
  have hm := List.mem_filter.mp (List.mem_of_getElem? h)
  simp only [Bool.and_eq_true, beq_iff_eq] at hm
  exact hm

end Database

end MavlinkLogService.Storage
