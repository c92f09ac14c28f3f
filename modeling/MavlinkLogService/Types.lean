import MavlinkLogService.Words

/-! Log entries, archive outcomes and the download settings shared by all components. -/

namespace MavlinkLogService

structure LogEntry where
  id : UInt16
  numLogs : UInt16
  lastLogNum : UInt16
  timeUtc : UInt32
  size : UInt32
  deriving DecidableEq, Repr

inductive ArchiveResult
  | skippedDuplicate
  | downloaded
  | failed
  | cancelled
  deriving DecidableEq, Repr

inductive ArchiveFailureReason
  | none
  | logDataTimeout
  | emptyPayload
  | noProgress
  | incompleteDownload
  | verificationFailed
  | parseFailed
  | rereadMismatch
  | overlapConflict
  | storageError
  | cancelled
  | transportSendFailed
  | transportClosed
  | linkTimeout
  deriving DecidableEq, Repr

def isTransportFailure (reason : ArchiveFailureReason) : Bool :=
  reason == .transportSendFailed || reason == .transportClosed || reason == .linkTimeout

structure ArchiveCycleResult where
  downloaded : ℕ := 0
  skipped : ℕ := 0
  failed : ℕ := 0
  cancelled : ℕ := 0
  allArchived : Bool := false
  lastFailureReason : ArchiveFailureReason := .none
  deriving DecidableEq, Repr

inductive FcRereadMode
  | none
  | sample
  | full
  deriving DecidableEq, Repr

def parseFcRereadMode (value : String) : FcRereadMode :=
  if value = "none" then .none else if value = "full" then .full else .sample

/-- `Config::DownloadSettings`. The floating-point test of the resync ratio against
`verify_max_bad_header_ratio` enters as the predicate `resyncRatioExceeded` of the resync count
and the file size. -/
structure DownloadSettings where
  delayAfterDisarmSec : ℤ := 5
  enumerateAttempts : ℤ := 6
  enumerateRetryDelaySec : ℤ := 3
  downloadTimeoutSec : ℤ := 5
  retryCount : ℤ := 3
  retryDelaySec : ℤ := 2
  probeBytes : ℤ := 51200
  verifyAfterDownload : Bool := true
  eraseAfterSuccess : Bool := true
  stallAbortAttempts : ℤ := 3
  fcBusyRetryAttempts : ℤ := 8
  fcBusyRetryDelaySec : ℤ := 3
  maxQueuedLogData : ℤ := 2048
  reconnectOnTransportFailure : Bool := true
  reconnectAfterConsecutiveFailures : ℤ := 3
  gapFillIdleMs : ℤ := 500
  verifyDataflashParse : Bool := true
  resyncRatioExceeded : ℕ → ℕ → Bool := fun resyncs size => size < 1000 * resyncs
  detectOverlapConflict : Bool := true
  verifyFcReread : String := "sample"
  verifyFcRereadSampleCount : ℤ := 64

/-- `static_cast<uint32_t>(std::min<int>(probe_bytes, static_cast<int>(total)))`. -/
def probeCount (probeBytes : ℤ) (total : ℕ) : ℕ := ofInt32 (min probeBytes (toInt32 total))

lemma probeCount_lt (p : ℤ) (n : ℕ) : probeCount p n < 2 ^ 32 := ofInt32_lt _

lemma probeCount_small {p : ℤ} {n : ℕ} (hp : 0 ≤ p) (hn : n < 2 ^ 31) :
    probeCount p n = min p.toNat n := by
  rw [probeCount, toInt32, if_pos hn, ofInt32]
  omega

lemma probeCount_large {p : ℤ} {n : ℕ} (hp : 0 ≤ p) (hn : 2 ^ 31 ≤ n) (hn' : n < 2 ^ 32) :
    probeCount p n = n := by
  rw [probeCount, toInt32, if_neg (by omega), ofInt32]
  omega

end MavlinkLogService
