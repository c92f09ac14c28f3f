import MavlinkLogService.Types

/-! The DataFlash validator: a scan over message headers with resynchronisation. -/

namespace MavlinkLogService.Archive

structure DataFlashValidationResult where
  ok : Bool := false
  bytesScanned : ℕ := 0
  resyncCount : ℕ := 0
  badMessageCount : ℕ := 0
  error : String := ""
  deriving DecidableEq, Repr

structure Scan where
  rest : List UInt8
  pos : ℕ := 0
  formats : UInt8 → Option UInt8 := fun _ => none
  haveFmt : Bool := false
  result : DataFlashValidationResult := {}

namespace Scan

def fmtSize : ℕ := 3 + 1 + 1 + 4 + 16 + 64

def skip (s : Scan) (n : ℕ) : Scan := { s with rest := s.rest.drop n, pos := s.pos + n }

def resync (s : Scan) : Scan :=
  { s.skip 1 with result := { s.result with resyncCount := s.result.resyncCount + 1 } }

def badMessage (s : Scan) : Scan :=
  { s with result := { s.result with badMessageCount := s.result.badMessageCount + 1 } }

def accept (s : Scan) (n : ℕ) : Scan :=
  { s.skip n with result := { s.result with bytesScanned := s.pos + n } }

def fail (s : Scan) (error : String) : DataFlashValidationResult :=
  { s.result with error := error, bytesScanned := s.pos }

def define (s : Scan) (typeId length : UInt8) : Scan :=
  { s with formats := Function.update s.formats typeId (some length), haveFmt := true }

def finish (s : Scan) : DataFlashValidationResult :=
  if !s.haveFmt then { s.result with error := "no FMT bootstrap found" } else { s.result with ok := true }

def message (s : Scan) (msgType : UInt8) : Scan ⊕ DataFlashValidationResult :=
  if msgType = 0x80 then
    if s.rest.length < fmtSize then .inr (s.fail "truncated FMT message")
    else .inl ((s.define (s.rest.getD 3 0) (s.rest.getD 4 0)).accept fmtSize)
  else if !s.haveFmt then .inl s.resync
  else
    match s.formats msgType with
    | none => .inl s.badMessage.resync
    | some length =>
      if length.toNat < 3 then .inl (s.badMessage.skip 1)
      else if s.rest.length < length.toNat then .inr (s.fail "message extends past end of file")
      else .inl (s.accept length.toNat)

def step (s : Scan) : Scan ⊕ DataFlashValidationResult :=
  match s.rest with
  | b₀ :: b₁ :: b₂ :: _ => if b₀ ≠ 0xA3 ∨ b₁ ≠ 0x95 then .inl s.resync else s.message b₂
  | _ => .inr s.finish

/-- Every round drops at least one byte, so the number of bytes bounds the number of rounds. -/
def run : ℕ → Scan → DataFlashValidationResult
  | 0, s => s.finish
  | n + 1, s =>
    match s.step with
    | .inl s' => run n s'
    | .inr result => result

end Scan

def validateBytes (data : List UInt8) : DataFlashValidationResult :=
  if data.isEmpty then { error := "empty buffer" } else Scan.run data.length { rest := data }

def dataFlashResyncRatioExceeded (settings : DownloadSettings) (result : DataFlashValidationResult)
    (fileSize : ℕ) : Bool :=
  if fileSize = 0 then false else settings.resyncRatioExceeded result.resyncCount fileSize

end MavlinkLogService.Archive
