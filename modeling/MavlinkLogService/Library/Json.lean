import Mathlib.Tactic

/-! JSON values, their compact text and its length in bytes. -/

namespace MavlinkLogService.Library

/-- Numbers that are not integers are of a type of their own, which is empty for the values that are
only written. The fields of an object are listed in the order of their keys. -/
inductive Json (ρ : Type)
  | null
  | bool (b : Bool)
  | int (i : ℤ)
  | real (x : ρ)
  | str (s : String)
  | arr (items : List (Json ρ))
  | obj (fields : List (String × Json ρ))

namespace Json

def escape (c : Char) : List Char :=
  if c = '"' then ['\\', '"']
  else if c = '\\' then ['\\', '\\']
  else if c = '\x08' then ['\\', 'b']
  else if c = '\x0c' then ['\\', 'f']
  else if c = '\n' then ['\\', 'n']
  else if c = '\r' then ['\\', 'r']
  else if c = '\t' then ['\\', 't']
  else if c.toNat < 32 then
    ['\\', 'u', '0', '0', Nat.digitChar (c.toNat / 16), Nat.digitChar (c.toNat % 16)]
  else [c]

def body (s : String) : List Char := s.toList.flatMap escape

def quoted (s : String) : List Char := '"' :: (body s ++ ['"'])

def digits (i : ℤ) : List Char :=
  if i < 0 then '-' :: Nat.toDigits 10 i.natAbs else Nat.toDigits 10 i.natAbs

mutual

/-- `dump()` without indentation; what is not ASCII stays as it is. -/
def dump : Json Empty → List Char
  | .null => ['n', 'u', 'l', 'l']
  | .bool true => ['t', 'r', 'u', 'e']
  | .bool false => ['f', 'a', 'l', 's', 'e']
  | .int i => digits i
  | .str s => quoted s
  | .arr [] => ['[', ']']
  | .arr (j :: js) => '[' :: (dump j ++ dumpItems js)
  | .obj [] => ['{', '}']
  | .obj ((k, j) :: fs) => '{' :: (quoted k ++ ':' :: (dump j ++ dumpFields fs))

def dumpItems : List (Json Empty) → List Char
  | [] => [']']
  | j :: js => ',' :: (dump j ++ dumpItems js)

def dumpFields : List (String × Json Empty) → List Char
  | [] => ['}']
  | (k, j) :: fs => ',' :: (quoted k ++ ':' :: (dump j ++ dumpFields fs))

end

def hexVal (c : Char) : ℕ := if c.isDigit then c.toNat - 48 else c.toNat - 87

def unescape (c : Char) : Char :=
  if c = 'b' then '\x08' else if c = 'f' then '\x0c' else if c = 'n' then '\n'
  else if c = 'r' then '\r' else if c = 't' then '\t' else c

def readChar : List Char → Option (Char × List Char)
  | [] => none
  | c :: text =>
    if c = '\\' then
      if text.head? = some 'u' then
        some (Char.ofNat (16 * hexVal (text.getD 3 '0') + hexVal (text.getD 4 '0')), text.drop 5)
      else text.head?.map fun e => (unescape e, text.drop 1)
    else some (c, text)

def readBody : ℕ → List Char → Option (List Char × List Char)
  | 0, _ => none
  | n + 1, text =>
    if text.head? = some '"' then some ([], text.drop 1)
    else (readChar text).bind fun p => (readBody n p.2).map fun q => (p.1 :: q.1, q.2)

def readKey (n : ℕ) (text : List Char) : Option (String × List Char) :=
  (readBody n (text.drop 1)).map fun p => (String.ofList p.1, p.2.drop 1)

def readNat (text : List Char) : ℕ × List Char :=
  (Nat.ofDigitChars 10 (text.takeWhile Char.isDigit) 0, text.dropWhile Char.isDigit)

mutual

def readValue : ℕ → List Char → Option (Json Empty × List Char)
  | 0, _ => none
  | _ + 1, [] => none
  | n + 1, c :: text =>
    if c = 'n' then some (.null, text.drop 3)
    else if c = 't' then some (.bool true, text.drop 3)
    else if c = 'f' then some (.bool false, text.drop 4)
    else if c = '"' then (readBody n text).map fun p => (.str (String.ofList p.1), p.2)
    else if c = '-' then some (.int (-(readNat text).1), (readNat text).2)
    else if c = '[' then
      if text.head? = some ']' then some (.arr [], text.drop 1)
      else (readValue n text).bind fun p => (readItems n p.2).map fun q => (.arr (p.1 :: q.1), q.2)
    else if c = '{' then
      if text.head? = some '}' then some (.obj [], text.drop 1)
      else (readKey n text).bind fun k => (readValue n k.2).bind fun p =>
        (readFields n p.2).map fun q => (.obj ((k.1, p.1) :: q.1), q.2)
    else some (.int (readNat (c :: text)).1, (readNat (c :: text)).2)

def readItems : ℕ → List Char → Option (List (Json Empty) × List Char)
  | 0, _ => none
  | n + 1, text =>
    if text.head? = some ']' then some ([], text.drop 1)
    else (readValue n (text.drop 1)).bind fun p => (readItems n p.2).map fun q => (p.1 :: q.1, q.2)

def readFields : ℕ → List Char → Option (List (String × Json Empty) × List Char)
  | 0, _ => none
  | n + 1, text =>
    if text.head? = some '}' then some ([], text.drop 1)
    else (readKey n (text.drop 1)).bind fun k => (readValue n k.2).bind fun p =>
      (readFields n p.2).map fun q => ((k.1, p.1) :: q.1, q.2)

end

def read (text : List Char) : Option (Json Empty) := (readValue text.length text).map Prod.fst

section Characters

lemma hexVal_digitChar : ∀ d < 16, hexVal (Nat.digitChar d) = d := by decide

lemma readChar_escape (c : Char) (text : List Char) : readChar (escape c ++ text) = some (c, text) := by
  rw [escape]
  by_cases h₁ : c = '"'
  · subst h₁; rfl
  rw [if_neg h₁]
  by_cases h₂ : c = '\\'
  · subst h₂; rfl
  rw [if_neg h₂]
  by_cases h₃ : c = '\x08'
  · subst h₃; rfl
  rw [if_neg h₃]
  by_cases h₄ : c = '\x0c'
  · subst h₄; rfl
  rw [if_neg h₄]
  by_cases h₅ : c = '\n'
  · subst h₅; rfl
  rw [if_neg h₅]
  by_cases h₆ : c = '\r'
  · subst h₆; rfl
  rw [if_neg h₆]
  by_cases h₇ : c = '\t'
  · subst h₇; rfl
  rw [if_neg h₇]
  by_cases hc : c.toNat < 32
  · rw [if_pos hc]
    have hread : Char.ofNat (16 * hexVal (Nat.digitChar (c.toNat / 16)) +
        hexVal (Nat.digitChar (c.toNat % 16))) = c := by
      rw [hexVal_digitChar _ (by omega), hexVal_digitChar _ (by omega), Nat.div_add_mod, Char.ofNat_toNat]
    simp [readChar, hread]
  · rw [if_neg hc, List.singleton_append, readChar, if_neg h₂]

lemma escape_head (c : Char) (text : List Char) : (escape c ++ text).head? ≠ some '"' := by
  rw [escape]
  split_ifs with h <;> simp [h]

lemma escape_length (c : Char) : 1 ≤ (escape c).length := by
  rw [escape]
  split_ifs <;> simp

lemma length_le_flatMap_escape (cs : List Char) : cs.length ≤ (cs.flatMap escape).length := by
  induction cs with
  | nil => exact le_rfl
  | cons c cs ih =>
    rw [List.flatMap_cons, List.length_append, List.length_cons]
    have := escape_length c
    omega

lemma readBody_flatMap (cs text : List Char) {n : ℕ} (hn : cs.length < n) :
    readBody n (cs.flatMap escape ++ '"' :: text) = some (cs, text) := by
  induction cs generalizing n with
  | nil =>
    cases n with
    | zero => cases hn
    | succ n => rfl
  | cons c cs ih =>
    cases n with
    | zero => cases hn
    | succ n =>
      rw [List.flatMap_cons, List.append_assoc, readBody, if_neg (escape_head c _), readChar_escape,
        Option.bind_some, ih (by simpa using hn), Option.map_some]

lemma readBody_body (s : String) (text : List Char) {n : ℕ} (hn : (body s).length < n) :
    readBody n (body s ++ '"' :: text) = some (s.toList, text) :=
  readBody_flatMap s.toList text ((length_le_flatMap_escape _).trans_lt hn)

lemma readKey_quoted (k : String) (text : List Char) {n : ℕ} (hn : (quoted k).length < n + 2) :
    readKey n (quoted k ++ ':' :: text) = some (k, text) := by
  have hlen : (body k).length < n := by
    simp only [quoted, List.length_cons, List.length_append, List.length_nil] at hn
    omega
  rw [readKey, quoted, List.cons_append, List.drop_succ_cons, List.drop_zero, List.append_assoc,
    List.singleton_append, readBody_body k _ hlen]
  simp

end Characters

section Numbers

def Stops (text : List Char) : Prop := text.head?.all fun c => !c.isDigit

lemma readNat_toDigits (n : ℕ) {text : List Char} (ht : Stops text) :
    readNat (Nat.toDigits 10 n ++ text) = (n, text) := by
  have hd : ∀ c ∈ Nat.toDigits 10 n, c.isDigit = true := fun c hc =>
    Nat.isDigit_of_mem_toDigits (by norm_num) (by norm_num) hc
  have hnone : text.takeWhile Char.isDigit = [] ∧ text.dropWhile Char.isDigit = text := by
    cases text with
    | nil => exact ⟨rfl, rfl⟩
    | cons c text =>
      have hc : c.isDigit = false := by simpa [Stops] using ht
      simp [hc]
  rw [readNat, List.takeWhile_append_of_pos hd, List.dropWhile_append_of_pos hd, hnone.1, hnone.2,
    List.append_nil, Nat.ofDigitChars_toDigits (by norm_num) (by norm_num)]

lemma readValue_digit (n : ℕ) {c : Char} (text : List Char) (hc : c.isDigit = true) :
    readValue (n + 1) (c :: text) = some (.int (readNat (c :: text)).1, (readNat (c :: text)).2) := by
  have hne : ∀ d : Char, d.isDigit = false → c ≠ d := by
    rintro d hd rfl
    rw [hc] at hd
    cases hd
  rw [readValue, if_neg (hne _ (by decide)), if_neg (hne _ (by decide)), if_neg (hne _ (by decide)),
    if_neg (hne _ (by decide)), if_neg (hne _ (by decide)), if_neg (hne _ (by decide)),
    if_neg (hne _ (by decide))]

lemma readValue_minus (n : ℕ) (text : List Char) :
    readValue (n + 1) ('-' :: text) = some (.int (-(readNat text).1), (readNat text).2) := by
  simp [readValue]

lemma readValue_digits (n : ℕ) (i : ℤ) {text : List Char} (ht : Stops text) :
    readValue (n + 1) (digits i ++ text) = some (.int i, text) := by
  rw [digits]
  split_ifs with hi
  · have hneg : -((i.natAbs : ℕ) : ℤ) = i := by omega
    rw [List.cons_append, readValue_minus, readNat_toDigits _ ht, hneg]
  · have hnat : ((i.natAbs : ℕ) : ℤ) = i := by omega
    have hread := readNat_toDigits i.natAbs ht
    cases hds : Nat.toDigits 10 i.natAbs with
    | nil => exact absurd hds (List.ne_nil_of_length_pos Nat.length_toDigits_pos)
    | cons d ds =>
      have hd : d.isDigit = true := Nat.isDigit_of_mem_toDigits (by norm_num) (by norm_num)
        (hds ▸ List.mem_cons_self)
      rw [hds] at hread
      rw [List.cons_append, readValue_digit n _ hd, ← List.cons_append, hread, hnat]

end Numbers

section Values

lemma stops_dumpItems (js : List (Json Empty)) (text : List Char) : Stops (dumpItems js ++ text) := by
  cases js <;> simp [dumpItems, Stops]

lemma stops_dumpFields (fs : List (String × Json Empty)) (text : List Char) :
    Stops (dumpFields fs ++ text) := by
  rcases fs with - | ⟨⟨k, j⟩, fs⟩ <;> simp [dumpFields, Stops]

lemma digits_head (i : ℤ) : ∃ c cs, digits i = c :: cs ∧ (c = '-' ∨ c.isDigit = true) := by
  rw [digits]
  split_ifs with hi
  · exact ⟨_, _, rfl, Or.inl rfl⟩
  · cases hds : Nat.toDigits 10 i.natAbs with
    | nil => exact absurd hds (List.ne_nil_of_length_pos Nat.length_toDigits_pos)
    | cons d ds =>
      exact ⟨d, ds, rfl, Or.inr (Nat.isDigit_of_mem_toDigits (by norm_num) (by norm_num)
        (hds ▸ List.mem_cons_self))⟩

lemma dump_head (j : Json Empty) : ∃ c cs, dump j = c :: cs ∧ c ≠ ']' := by
  cases j with
  | null => exact ⟨_, _, rfl, by decide⟩
  | bool b => cases b <;> exact ⟨_, _, rfl, by decide⟩
  | int i =>
    obtain ⟨c, cs, h, hc⟩ := digits_head i
    refine ⟨c, cs, by rw [dump, h], ?_⟩
    rintro rfl
    revert hc
    decide
  | real x => exact x.elim
  | str s => exact ⟨_, _, rfl, by decide⟩
  | arr js => cases js <;> exact ⟨_, _, rfl, by decide⟩
  | obj fs => rcases fs with - | ⟨⟨k, j⟩, fs⟩ <;> exact ⟨_, _, rfl, by decide⟩

lemma dump_ne_close (j : Json Empty) (text : List Char) : (dump j ++ text).head? ≠ some ']' := by
  obtain ⟨c, cs, h, hc⟩ := dump_head j
  simp [h, hc]

lemma dump_ne_nil (j : Json Empty) : dump j ≠ [] := by
  obtain ⟨c, cs, h, -⟩ := dump_head j
  simp [h]

lemma readValue_quote (n : ℕ) (text : List Char) :
    readValue (n + 1) ('"' :: text) = (readBody n text).map fun p => (.str (String.ofList p.1), p.2) := by
  simp [readValue]

lemma readValue_open (n : ℕ) {text : List Char} (h : text.head? ≠ some ']') :
    readValue (n + 1) ('[' :: text) = (readValue n text).bind fun p =>
      (readItems n p.2).map fun q => (.arr (p.1 :: q.1), q.2) := by
  simp [readValue, h]

lemma readValue_brace (n : ℕ) {text : List Char} (h : text.head? ≠ some '}') :
    readValue (n + 1) ('{' :: text) = (readKey n text).bind fun k => (readValue n k.2).bind fun p =>
      (readFields n p.2).map fun q => (.obj ((k.1, p.1) :: q.1), q.2) := by
  simp [readValue, h]

lemma readValue_dump (n : ℕ) :
    (∀ (j : Json Empty) (text : List Char), (dump j).length ≤ n → Stops text →
      readValue n (dump j ++ text) = some (j, text)) ∧
    (∀ (js : List (Json Empty)) (text : List Char), (dumpItems js).length ≤ n →
      readItems n (dumpItems js ++ text) = some (js, text)) ∧
    (∀ (fs : List (String × Json Empty)) (text : List Char), (dumpFields fs).length ≤ n →
      readFields n (dumpFields fs ++ text) = some (fs, text)) := by
  induction n with
  | zero =>
    refine ⟨fun j text h => ?_, fun js text h => ?_, fun fs text h => ?_⟩
    · exact absurd (List.length_eq_zero_iff.mp (Nat.le_zero.mp h)) (dump_ne_nil j)
    · cases js <;> simp [dumpItems] at h
    · rcases fs with - | ⟨⟨k, j⟩, fs⟩ <;> simp [dumpFields] at h
  | succ n ih =>
    obtain ⟨ihv, ihi, ihf⟩ := ih
    refine ⟨fun j text h ht => ?_, fun js text h => ?_, fun fs text h => ?_⟩
    · cases j with
      | null => simp [dump, readValue]
      | bool b => cases b <;> simp [dump, readValue]
      | int i => exact readValue_digits n i ht
      | real x => exact x.elim
      | str s =>
        simp only [dump, quoted, List.length_cons, List.length_append, List.length_nil] at h
        rw [dump, quoted, List.cons_append, List.append_assoc, List.singleton_append, readValue_quote,
          readBody_body s text (by omega), Option.map_some, String.ofList_toList]
      | arr js =>
        cases js with
        | nil => simp [dump, readValue]
        | cons j js =>
          simp only [dump, List.length_cons, List.length_append] at h
          rw [dump, List.cons_append, List.append_assoc, readValue_open n (dump_ne_close j _),
            ihv j _ (by omega) (stops_dumpItems js text), Option.bind_some, ihi js text (by omega)]
          rfl
      | obj fs =>
        rcases fs with - | ⟨⟨k, j⟩, fs⟩
        · simp [dump, readValue]
        · simp only [dump, List.length_cons, List.length_append] at h
          rw [dump, List.cons_append, List.append_assoc, List.cons_append, List.append_assoc,
            readValue_brace n (by simp [quoted]), readKey_quoted k _ (by omega), Option.bind_some,
            ihv j _ (by omega) (stops_dumpFields fs text), Option.bind_some, ihf fs text (by omega)]
          rfl
    · cases js with
      | nil => simp [dumpItems, readItems]
      | cons j js =>
        simp only [dumpItems, List.length_cons, List.length_append] at h
        rw [dumpItems, List.cons_append, List.append_assoc, readItems, if_neg (by simp),
          List.drop_succ_cons, List.drop_zero, ihv j _ (by omega) (stops_dumpItems js text),
          Option.bind_some, ihi js text (by omega)]
        rfl
    · rcases fs with - | ⟨⟨k, j⟩, fs⟩
      · simp [dumpFields, readFields]
      · simp only [dumpFields, List.length_cons, List.length_append] at h
        rw [dumpFields, List.cons_append, List.append_assoc, List.cons_append, List.append_assoc,
          readFields, if_neg (by simp), List.drop_succ_cons, List.drop_zero,
          readKey_quoted k _ (by omega), Option.bind_some,
          ihv j _ (by omega) (stops_dumpFields fs text), Option.bind_some, ihf fs text (by omega)]
        rfl

lemma read_dump (j : Json Empty) : read (dump j) = some j := by
  have h := (readValue_dump (dump j).length).1 j [] le_rfl (by simp [Stops])
  rw [List.append_nil] at h
  rw [read, h, Option.map_some]

lemma dump_injective : Function.Injective dump := by
  intro j k h
  have hread := congrArg read h
  rwa [read_dump, read_dump, Option.some.injEq] at hread

end Values

section Lengths

def bytes (text : List Char) : ℕ := (text.map Char.utf8Size).sum

@[simp] lemma bytes_nil : bytes [] = 0 := rfl

@[simp] lemma bytes_cons (c : Char) (text : List Char) : bytes (c :: text) = c.utf8Size + bytes text := by
  simp [bytes]

@[simp] lemma bytes_append (s t : List Char) : bytes (s ++ t) = bytes s + bytes t := by
  simp [bytes]

def fieldBytes (f : String × Json Empty) : ℕ := bytes (quoted f.1) + bytes (dump f.2) + 2

lemma bytes_dumpItems (js : List (Json Empty)) :
    bytes (dumpItems js) = 1 + (js.map fun j => bytes (dump j) + 1).sum := by
  induction js with
  | nil => rfl
  | cons j js ih =>
    rw [dumpItems, bytes_cons, bytes_append, ih, List.map_cons, List.sum_cons]
    have : ','.utf8Size = 1 := rfl
    omega

lemma bytes_dumpFields (fs : List (String × Json Empty)) :
    bytes (dumpFields fs) = 1 + (fs.map fieldBytes).sum := by
  induction fs with
  | nil => rfl
  | cons f fs ih =>
    obtain ⟨k, j⟩ := f
    rw [dumpFields, bytes_cons, bytes_append, bytes_cons, bytes_append, ih, List.map_cons, List.sum_cons]
    have : ','.utf8Size = 1 := rfl
    have : ':'.utf8Size = 1 := rfl
    have hf : fieldBytes (k, j) = bytes (quoted k) + bytes (dump j) + 2 := rfl
    omega

lemma bytes_arr {js : List (Json Empty)} (h : js ≠ []) :
    bytes (dump (.arr js)) = 1 + (js.map fun j => bytes (dump j) + 1).sum := by
  cases js with
  | nil => exact absurd rfl h
  | cons j js =>
    rw [dump, bytes_cons, bytes_append, bytes_dumpItems, List.map_cons, List.sum_cons]
    have : '['.utf8Size = 1 := rfl
    omega

lemma bytes_obj {fs : List (String × Json Empty)} (h : fs ≠ []) :
    bytes (dump (.obj fs)) = 1 + (fs.map fieldBytes).sum := by
  rcases fs with - | ⟨⟨k, j⟩, fs⟩
  · exact absurd rfl h
  · rw [dump, bytes_cons, bytes_append, bytes_cons, bytes_append, bytes_dumpFields, List.map_cons,
      List.sum_cons]
    have : '{'.utf8Size = 1 := rfl
    have : ':'.utf8Size = 1 := rfl
    have hf : fieldBytes (k, j) = bytes (quoted k) + bytes (dump j) + 2 := rfl
    omega

end Lengths

end Json

end MavlinkLogService.Library
