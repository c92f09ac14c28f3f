import Mathlib.Tactic

/-! The incremental hash context of `Sha256.cpp`. A context is cloned by copying it, so only the
contexts that have not been finalized appear here. -/

namespace MavlinkLogService.Session.Sha256

def roundConstants : List UInt32 :=
  [0x428a2f98, 0x71374491, 0xb5c0fbcf, 0xe9b5dba5, 0x3956c25b, 0x59f111f1, 0x923f82a4, 0xab1c5ed5,
   0xd807aa98, 0x12835b01, 0x243185be, 0x550c7dc3, 0x72be5d74, 0x80deb1fe, 0x9bdc06a7, 0xc19bf174,
   0xe49b69c1, 0xefbe4786, 0x0fc19dc6, 0x240ca1cc, 0x2de92c6f, 0x4a7484aa, 0x5cb0a9dc, 0x76f988da,
   0x983e5152, 0xa831c66d, 0xb00327c8, 0xbf597fc7, 0xc6e00bf3, 0xd5a79147, 0x06ca6351, 0x14292967,
   0x27b70a85, 0x2e1b2138, 0x4d2c6dfc, 0x53380d13, 0x650a7354, 0x766a0abb, 0x81c2c92e, 0x92722c85,
   0xa2bfe8a1, 0xa81a664b, 0xc24b8b70, 0xc76c51a3, 0xd192e819, 0xd6990624, 0xf40e3585, 0x106aa070,
   0x19a4c116, 0x1e376c08, 0x2748774c, 0x34b0bcb5, 0x391c0cb3, 0x4ed8aa4a, 0x5b9cca4f, 0x682e6ff3,
   0x748f82ee, 0x78a5636f, 0x84c87814, 0x8cc70208, 0x90befffa, 0xa4506ceb, 0xbef9a3f7, 0xc67178f2]

def rotr (x n : UInt32) : UInt32 := (x >>> n) ||| (x <<< (32 - n))

def ch (x y z : UInt32) : UInt32 := (x &&& y) ^^^ (~~~x &&& z)

def maj (x y z : UInt32) : UInt32 := (x &&& y) ^^^ (x &&& z) ^^^ (y &&& z)

def sig0 (x : UInt32) : UInt32 := rotr x 2 ^^^ rotr x 13 ^^^ rotr x 22

def sig1 (x : UInt32) : UInt32 := rotr x 6 ^^^ rotr x 11 ^^^ rotr x 25

def ep0 (x : UInt32) : UInt32 := rotr x 7 ^^^ rotr x 18 ^^^ (x >>> 3)

def ep1 (x : UInt32) : UInt32 := rotr x 17 ^^^ rotr x 19 ^^^ (x >>> 10)

structure Words where
  (a b c d e f g h : UInt32)
  deriving DecidableEq, Repr

structure Context where
  state : Words
  buffer : List UInt8
  totalBytes : UInt64
  deriving DecidableEq, Repr

def init : Context where
  state := ⟨0x6a09e667, 0xbb67ae85, 0x3c6ef372, 0xa54ff53a, 0x510e527f, 0x9b05688c, 0x1f83d9ab,
    0x5be0cd19⟩
  buffer := []
  totalBytes := 0

def blockWords : List UInt8 → List UInt32
  | b₀ :: b₁ :: b₂ :: b₃ :: bs =>
    ((b₀.toUInt32 <<< 24) ||| (b₁.toUInt32 <<< 16) ||| (b₂.toUInt32 <<< 8) ||| b₃.toUInt32) ::
      blockWords bs
  | _ => []

def extend (w : List UInt32) : ℕ → List UInt32
  | 0 => w
  | n + 1 =>
    let w' := extend w n
    let i := w'.length
    w' ++ [ep1 (w'.getD (i - 2) 0) + w'.getD (i - 7) 0 + ep0 (w'.getD (i - 15) 0) + w'.getD (i - 16) 0]

def schedule (block : List UInt8) : List UInt32 := extend (blockWords block) 48

def round (s : Words) (kw : UInt32 × UInt32) : Words :=
  let t₁ := s.h + sig1 s.e + ch s.e s.f s.g + kw.1 + kw.2
  let t₂ := sig0 s.a + maj s.a s.b s.c
  ⟨t₁ + t₂, s.a, s.b, s.c, s.d + t₁, s.e, s.f, s.g⟩

def transform (s : Words) (block : List UInt8) : Words :=
  let r := (roundConstants.zip (schedule block)).foldl round s
  ⟨s.a + r.a, s.b + r.b, s.c + r.c, s.d + r.d, s.e + r.e, s.f + r.f, s.g + r.g, s.h + r.h⟩

def updateByte (ctx : Context) (byte : UInt8) : Context :=
  let buffer := ctx.buffer ++ [byte]
  if buffer.length = 64 then ⟨transform ctx.state buffer, [], ctx.totalBytes + 1⟩
  else ⟨ctx.state, buffer, ctx.totalBytes + 1⟩

def update (ctx : Context) (data : List UInt8) : Context := data.foldl updateByte ctx

/-- The padding loop of `padAndFinalize`; the buffer passes through 56 bytes within 64 rounds. -/
def padZeros : ℕ → Context → Context
  | 0, ctx => ctx
  | n + 1, ctx => if ctx.buffer.length = 56 then ctx else padZeros n (updateByte ctx 0)

def lengthBytes (bitLen : UInt64) : List UInt8 :=
  ([7, 6, 5, 4, 3, 2, 1, 0] : List UInt64).map (fun i => ((bitLen >>> (i * 8)) &&& 0xFF).toUInt8)

def wordBytes (w : UInt32) : List UInt8 :=
  ([24, 16, 8, 0] : List UInt32).map (fun i => ((w >>> i) &&& 0xFF).toUInt8)

def padAndFinalize (ctx : Context) : List UInt8 :=
  let padded := padZeros 64 (updateByte ctx 0x80)
  let s := (update padded (lengthBytes (ctx.totalBytes * 8))).state
  [s.a, s.b, s.c, s.d, s.e, s.f, s.g, s.h].flatMap wordBytes

def hexDigit (n : UInt8) : Char := "0123456789abcdef".toList.getD n.toNat '0'

def bytesToHex (bytes : List UInt8) : String :=
  String.ofList (bytes.flatMap (fun b : UInt8 => [hexDigit (b >>> 4), hexDigit (b &&& 15)]))

def finalizeHex (ctx : Context) : String := bytesToHex (padAndFinalize ctx)

def hashHex (data : List UInt8) : String := finalizeHex (update init data)

lemma update_append (ctx : Context) (a b : List UInt8) :
    update ctx (a ++ b) = update (update ctx a) b := by
  simp only [update, List.foldl_append]

@[simp] lemma update_nil (ctx : Context) : update ctx [] = ctx := rfl

end MavlinkLogService.Session.Sha256
