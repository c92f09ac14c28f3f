import Mathlib.Analysis.SpecialFunctions.Pow.Real
import Mathlib.Tactic
import MavlinkLogService.Library.Blocks

/-! SHA-256 as FIPS 180-4 defines it, on strings of bits. -/

namespace MavlinkLogService.Library.Fips180

abbrev Word := BitVec 32

def ch (x y z : Word) : Word := (x &&& y) ^^^ (~~~x &&& z)

def maj (x y z : Word) : Word := (x &&& y) ^^^ (x &&& z) ^^^ (y &&& z)

def bigSigma0 (x : Word) : Word := x.rotateRight 2 ^^^ x.rotateRight 13 ^^^ x.rotateRight 22

def bigSigma1 (x : Word) : Word := x.rotateRight 6 ^^^ x.rotateRight 11 ^^^ x.rotateRight 25

def smallSigma0 (x : Word) : Word := x.rotateRight 7 ^^^ x.rotateRight 18 ^^^ (x >>> 3)

def smallSigma1 (x : Word) : Word := x.rotateRight 17 ^^^ x.rotateRight 19 ^^^ (x >>> 10)

noncomputable def rootFraction (k p : ℕ) : Word :=
  BitVec.ofNat 32 ⌊Int.fract ((p : ℝ) ^ (1 / k : ℝ)) * 2 ^ 32⌋₊

def primes : List ℕ := (List.range 312).filter Nat.Prime

noncomputable def constant (t : ℕ) : Word := rootFraction 3 (primes.getD t 0)

@[ext] structure State where
  (a b c d e f g h : Word)

noncomputable def initial : State where
  a := rootFraction 2 (primes.getD 0 0)
  b := rootFraction 2 (primes.getD 1 0)
  c := rootFraction 2 (primes.getD 2 0)
  d := rootFraction 2 (primes.getD 3 0)
  e := rootFraction 2 (primes.getD 4 0)
  f := rootFraction 2 (primes.getD 5 0)
  g := rootFraction 2 (primes.getD 6 0)
  h := rootFraction 2 (primes.getD 7 0)

def natOfBits (l : List Bool) : ℕ := l.foldl (fun n b => 2 * n + b.toNat) 0

def binary (w n : ℕ) : List Bool := (List.range w).map fun i => n.testBit (w - 1 - i)

lemma exists_zeros (l : ℕ) : ∃ k, (l + 1 + k) % 512 = 448 := ⟨448 + 511 * (l + 1), by omega⟩

def zeros (l : ℕ) : ℕ := Nat.find (exists_zeros l)

def pad (m : List Bool) : List Bool :=
  m ++ true :: (List.replicate (zeros m.length) false ++ binary 64 m.length)

def messageWord (M : List Bool) (t : ℕ) : Word := BitVec.ofNat 32 (natOfBits (block 32 M t))

def schedule (M : List Bool) (t : ℕ) : Word :=
  if t < 16 then messageWord M t
  else smallSigma1 (schedule M (t - 2)) + schedule M (t - 7) + smallSigma0 (schedule M (t - 15)) + schedule M (t - 16)
termination_by t

def round (k w : Word) (s : State) : State :=
  let t₁ := s.h + bigSigma1 s.e + ch s.e s.f s.g + k + w
  let t₂ := bigSigma0 s.a + maj s.a s.b s.c
  ⟨t₁ + t₂, s.a, s.b, s.c, s.d + t₁, s.e, s.f, s.g⟩

noncomputable def rounds (M : List Bool) (s : State) : ℕ → State
  | 0 => s
  | t + 1 => round (constant t) (schedule M t) (rounds M s t)

noncomputable def compress (s : State) (M : List Bool) : State :=
  let r := rounds M s 64
  ⟨r.a + s.a, r.b + s.b, r.c + s.c, r.d + s.d, r.e + s.e, r.f + s.f, r.g + s.g, r.h + s.h⟩

def State.digest (s : State) : BitVec 256 := s.a ++ s.b ++ s.c ++ s.d ++ s.e ++ s.f ++ s.g ++ s.h

noncomputable def sha256 (m : List Bool) : BitVec 256 := ((blocks 512 (pad m)).foldl compress initial).digest

def hexDigits (n x : ℕ) : List Char := (List.range n).map fun i => Nat.digitChar (x / 16 ^ (n - 1 - i) % 16)

def hex (d : BitVec 256) : String := String.ofList (hexDigits 64 d.toNat)

section Constants

lemma rootFraction_eq {k p w : ℕ} (hk : k ≠ 0) (hw : w < 2 ^ 32) {a : ℕ}
    (hlow : (a * 2 ^ 32 + w) ^ k ≤ p * (2 ^ 32) ^ k)
    (hhigh : p * (2 ^ 32) ^ k < (a * 2 ^ 32 + w + 1) ^ k) : rootFraction k p = BitVec.ofNat 32 w := by
  set x : ℝ := (p : ℝ) ^ (1 / k : ℝ) with hx
  have hx₀ : 0 ≤ x := Real.rpow_nonneg (Nat.cast_nonneg p) _
  have hpow : (x * 2 ^ 32) ^ k = (p * (2 ^ 32) ^ k : ℝ) := by
    rw [mul_pow, hx, one_div, Real.rpow_inv_natCast_pow (Nat.cast_nonneg p) hk]
  have hle : (a * 2 ^ 32 + w : ℝ) ≤ x * 2 ^ 32 := by
    refine le_of_pow_le_pow_left₀ hk (by positivity) ?_
    rw [hpow]
    exact_mod_cast hlow
  have hlt : x * 2 ^ 32 < (a * 2 ^ 32 + w + 1 : ℝ) := by
    refine lt_of_pow_lt_pow_left₀ k (by positivity) ?_
    rw [hpow]
    exact_mod_cast hhigh
  have hw' : (w : ℝ) + 1 ≤ 2 ^ 32 := by exact_mod_cast hw
  have hfloor : ⌊x⌋ = a := by
    rw [Int.floor_eq_iff]
    have hw₀ : (0 : ℝ) ≤ w := Nat.cast_nonneg w
    constructor <;> push_cast <;> nlinarith
  have hfract : Int.fract x = x - a := by
    rw [Int.fract, hfloor]
    norm_num
  have hbits : ⌊Int.fract x * 2 ^ 32⌋₊ = w := by
    rw [hfract, Nat.floor_eq_iff]
    · constructor <;> linarith
    · have hw₀ : (0 : ℝ) ≤ w := Nat.cast_nonneg w
      linarith
  rw [rootFraction, ← hx, hbits]

lemma prime_below {n : ℕ} (hn : n < 324) : n.Prime ↔ 2 ≤ n ∧ ∀ m < 18, 2 ≤ m → m ∣ n → m = n := by
  constructor
  · intro h
    exact ⟨h.two_le, fun m _ hm hd => (h.eq_one_or_self_of_dvd m hd).resolve_left (by omega)⟩
  · rintro ⟨h, hd⟩
    rw [Nat.prime_def_le_sqrt]
    refine ⟨h, fun m hm hs hmn => ?_⟩
    have hle : m * m ≤ n := Nat.le_sqrt.mp hs
    have heq := hd m (by nlinarith) hm hmn
    nlinarith

lemma primes_eq : primes =
    [2, 3, 5, 7, 11, 13, 17, 19, 23, 29, 31, 37, 41, 43, 47, 53, 59, 61, 67, 71, 73, 79, 83, 89, 97, 101, 103, 107, 109,
      113, 127, 131, 137, 139, 149, 151, 157, 163, 167, 173, 179, 181, 191, 193, 197, 199, 211, 223, 227, 229, 233, 239,
      241, 251, 257, 263, 269, 271, 277, 281, 283, 293, 307, 311] := by
  -- trial division by the numbers below 18 is cheap for the kernel
  have hfilter : primes = (List.range 312).filter fun n => 2 ≤ n ∧ ∀ m < 18, 2 ≤ m → m ∣ n → m = n := by
    refine List.filter_congr fun n hn => ?_
    have hn := List.mem_range.mp hn
    rw [decide_eq_decide, prime_below (by omega)]
  rw [hfilter]
  decide +kernel

end Constants

section Bits

lemma binary_succ (w n : ℕ) : binary (w + 1) n = n.testBit w :: binary w n := by
  rw [binary, List.range_succ_eq_map, List.map_cons, List.map_map, binary]
  refine List.cons_eq_cons.mpr ⟨by simp, List.map_congr_left fun i _ => ?_⟩
  rw [Function.comp_apply, Nat.succ_eq_add_one]
  congr 1
  omega

@[simp] lemma binary_length (w n : ℕ) : (binary w n).length = w := by simp [binary]

lemma binary_add (v w n : ℕ) : binary (v + w) n = binary v (n / 2 ^ w) ++ binary w n := by
  induction v with
  | zero => simp [binary]
  | succ v ih =>
    rw [show v + 1 + w = v + w + 1 by omega, binary_succ, ih, binary_succ, Nat.testBit_div_two_pow, List.cons_append]

lemma binary_mod (w n : ℕ) : binary w (n % 2 ^ w) = binary w n := by
  refine List.map_congr_left fun i hi => ?_
  have hi := List.mem_range.mp hi
  rw [Nat.testBit_mod_two_pow, decide_eq_true (by omega), Bool.true_and]

lemma foldl_bits (n : ℕ) (l : List Bool) :
    l.foldl (fun n b => 2 * n + b.toNat) n = n * 2 ^ l.length + natOfBits l := by
  induction l generalizing n with
  | nil => simp [natOfBits]
  | cons b l ih =>
    have hcons : natOfBits (b :: l) = (2 * 0 + b.toNat) * 2 ^ l.length + natOfBits l := ih _
    rw [List.foldl_cons, ih, hcons, List.length_cons, pow_succ]
    ring

lemma natOfBits_append (l r : List Bool) : natOfBits (l ++ r) = natOfBits l * 2 ^ r.length + natOfBits r := by
  rw [natOfBits, List.foldl_append]
  exact foldl_bits _ r

lemma natOfBits_binary (w n : ℕ) : natOfBits (binary w n) = n % 2 ^ w := by
  induction w with
  | zero => simp [binary, natOfBits, Nat.mod_one]
  | succ w ih =>
    have htop : natOfBits [n.testBit w] = n / 2 ^ w % 2 := by
      rw [natOfBits, List.foldl_cons, List.foldl_nil, Nat.testBit_eq_decide_div_mod_eq]
      rcases Nat.mod_two_eq_zero_or_one (n / 2 ^ w) with h | h <;> simp [h]
    rw [binary_succ, ← List.singleton_append, natOfBits_append, ih, htop, binary_length, Nat.mod_pow_succ]
    ring

lemma zeros_eq {l k : ℕ} (hk : (l + 1 + k) % 512 = 448) (hlt : k < 512) : zeros l = k := by
  rw [zeros, Nat.find_eq_iff]
  refine ⟨hk, fun j hj => ?_⟩
  omega

end Bits

section Hex

@[simp] lemma hexDigits_length (n x : ℕ) : (hexDigits n x).length = n := by simp [hexDigits]

lemma hexDigits_add (m n x y : ℕ) (hy : y < 16 ^ n) :
    hexDigits (m + n) (x * 16 ^ n + y) = hexDigits m x ++ hexDigits n y := by
  rw [hexDigits, List.range_add, List.map_append, List.map_map, hexDigits, hexDigits]
  congr 1
  · refine List.map_congr_left fun i hi => ?_
    have hi := List.mem_range.mp hi
    rw [show m + n - 1 - i = n + (m - 1 - i) by omega, pow_add, ← Nat.div_div_eq_div_mul, Nat.add_comm,
      Nat.add_mul_div_right _ _ (by positivity), Nat.div_eq_of_lt hy, Nat.zero_add]
  · refine List.map_congr_left fun i hi => ?_
    have hi := List.mem_range.mp hi
    have hexp : 16 ^ n = 16 ^ (n - 1 - i) * (16 * 16 ^ i) := by
      rw [← pow_succ', ← pow_add]
      congr 1
      omega
    rw [Function.comp_apply, show m + n - 1 - (m + i) = n - 1 - i by omega, hexp, Nat.mul_left_comm, Nat.add_comm,
      Nat.add_mul_div_left _ _ (by positivity), Nat.mul_left_comm, Nat.add_mul_mod_self_left]

lemma append_toNat {v w : ℕ} (x : BitVec v) (y : BitVec w) : (x ++ y).toNat = x.toNat * 2 ^ w + y.toNat := by
  rw [BitVec.toNat_append, ← Nat.shiftLeft_add_eq_or_of_lt y.isLt, Nat.shiftLeft_eq]

lemma hex_digest (s : State) :
    hex s.digest = String.ofList ([s.a, s.b, s.c, s.d, s.e, s.f, s.g, s.h].flatMap fun w => hexDigits 8 w.toNat) := by
  have hword : ∀ w : Word, w.toNat < 16 ^ 8 := fun w => w.isLt
  have hsnoc : ∀ m x (w : Word), hexDigits (m + 8) (x * 2 ^ 32 + w.toNat) = hexDigits m x ++ hexDigits 8 w.toNat :=
    fun m x w => hexDigits_add m 8 x w.toNat (hword w)
  rw [hex, State.digest]
  simp only [append_toNat, hsnoc 56, hsnoc 48, hsnoc 40, hsnoc 32, hsnoc 24, hsnoc 16, hsnoc 8, List.flatMap_cons,
    List.flatMap_nil, List.append_assoc, List.append_nil]

lemma hex_lowercase (d : BitVec 256) : (hex d).length = 64 ∧ ∀ c ∈ (hex d).toList, c ∈ "0123456789abcdef".toList := by
  have hdigit : ∀ n < 16, Nat.digitChar n ∈ "0123456789abcdef".toList := by decide
  refine ⟨by simp [hex, String.length_ofList], fun c hc => ?_⟩
  rw [hex, String.toList_ofList, hexDigits, List.mem_map] at hc
  obtain ⟨i, _, rfl⟩ := hc
  exact hdigit _ (Nat.mod_lt _ (by norm_num))

end Hex

end MavlinkLogService.Library.Fips180
