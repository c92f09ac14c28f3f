import MavlinkLogService.Session.ReceivedRanges

/-! The offsets of the sample re-read: fixed anchors and pseudo-random chunk slots. -/

namespace MavlinkLogService.Archive

open Session

def nybble (c : Char) : UInt8 :=
  if '0' ≤ c ∧ c ≤ '9' then (c.toNat - '0'.toNat).toUInt8
  else if 'a' ≤ c ∧ c ≤ 'f' then (10 + c.toNat - 'a'.toNat).toUInt8
  else if 'A' ≤ c ∧ c ≤ 'F' then (10 + c.toNat - 'A'.toNat).toUInt8
  else 0

def seedByte (sha256Hex : List Char) (i : ℕ) : UInt64 :=
  ((nybble (sha256Hex.getD i '0')).toUInt64 <<< 4) ||| (nybble (sha256Hex.getD (i + 1) '0')).toUInt64

def seedFromParams (fcLogId : UInt16) (fcLogSize : UInt32) (sha256Hex : String) : UInt64 :=
  let hex := sha256Hex.toList
  let seed := (fcLogId.toUInt64 <<< 32) ^^^ fcLogSize.toUInt64
  let seed := ((List.range 8).map (2 * ·)).foldl
    (fun seed i => if i < hex.length then seed ^^^ (seedByte hex i <<< (2 * i).toUInt64) else seed) seed
  if seed = 0 then 1 else seed

def xorshift64 (state : UInt64) : UInt64 :=
  let state := state ^^^ (state <<< 13)
  let state := state ^^^ (state >>> 7)
  state ^^^ (state <<< 17)

/-- Insertion into a `std::set`. -/
def insertOffset (x : ℕ) (out : List ℕ) : List ℕ := if x ∈ out then out else out.orderedInsert (· ≤ ·) x

def addAnchor (size : ℕ) (out : List ℕ) (offset : ℕ) : List ℕ :=
  if size < logChunkSize then out
  else if offset ≤ size - logChunkSize then insertOffset (alignDownToChunk offset) out
  else out

def anchors (size : ℕ) : List ℕ :=
  let c := logChunkSize
  let first := [0, c, size / 4, size / 2, (3 * size) % 2 ^ 32 / 4]
  let last := if 2 * c ≤ size then [size - 2 * c, size - c] else [size - c]
  (first ++ last).foldl (addAnchor size) []

def addRandom (maxSlot totalSamples : ℕ) : ℕ → UInt64 → List ℕ → List ℕ
  | 0, _, out => out
  | n + 1, rng, out =>
    if out.length < totalSamples then
      let rng := xorshift64 rng
      let slot := rng.toUInt32.toNat % (maxSlot + 1)
      addRandom maxSlot totalSamples n rng (insertOffset (slot * logChunkSize) out)
    else out

def buildFcSampleOffsets (size : UInt32) (totalSamples : ℤ) (fcLogId : UInt16) (fcLogSize : UInt32)
    (sha256Hex : String) : List ℕ :=
  if size.toNat < logChunkSize ∨ totalSamples ≤ 0 then []
  else
    let total := totalSamples.toNat
    let out := anchors size.toNat
    let maxSlot := chunkSlotIndex (size.toNat - logChunkSize)
    let rng := seedFromParams fcLogId fcLogSize sha256Hex
    (addRandom maxSlot total ((total - out.length) * 20) rng out).take total

end MavlinkLogService.Archive
