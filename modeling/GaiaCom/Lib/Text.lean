/-
Text as Go's packages strings, unicode, encoding/hex and encoding/base64 handle it: byte lengths,
case, white space, hex and base64, and `LIKE` of SQL. A Go string that came out of encoding/json or passed
`utf8.ValidString` is valid UTF-8, so it is a Lean string.
-/
import Mathlib.Tactic.IntervalCases
import Mathlib.Data.Char
import Mathlib.Data.List.Infix

namespace Lib

/-- `len(s)`: the number of bytes of the UTF-8 encoding. -/
def len (s : String) : Nat := (s.toList.map Char.utf8Size).sum

def lowerChar (c : Char) : Char := if 'A' ≤ c ∧ c ≤ 'Z' then Char.ofNat (c.toNat + 32) else c

def upperChar (c : Char) : Char := if 'a' ≤ c ∧ c ≤ 'z' then Char.ofNat (c.toNat - 32) else c

/-- `strings.ToUpper` on ASCII text. -/
def toUpper (s : String) : String := String.ofList (s.toList.map upperChar)

/-- `strings.ToLower` on ASCII text. -/
def toLower (s : String) : String := String.ofList (s.toList.map lowerChar)

/-- A lower-case mapping of all of Unicode, as `unicode.ToLower`, of which only the ASCII part matters. -/
structure CaseMap where
  lower : Char → Char
  ascii : ∀ c : Char, c.toNat < 128 → lower c = lowerChar c

def CaseMap.plain : CaseMap := ⟨lowerChar, fun _ _ => rfl⟩

/-- `unicode.IsSpace`. -/
def isSpace (c : Char) : Bool :=
  let n := c.toNat
  (9 ≤ n && n ≤ 13) || n == 0x20 || n == 0x85 || n == 0xA0 || n == 0x1680 || (0x2000 ≤ n && n ≤ 0x200A) ||
    n == 0x2028 || n == 0x2029 || n == 0x202F || n == 0x205F || n == 0x3000

/-- `unicode.IsControl`: the category Cc. -/
def isControl (c : Char) : Bool := c.toNat < 0x20 || (0x7F ≤ c.toNat && c.toNat < 0xA0)

def trim (cs : List Char) : List Char := ((cs.dropWhile isSpace).reverse.dropWhile isSpace).reverse

/-- `strings.TrimSpace`. -/
def trimSpace (s : String) : String := String.ofList (trim s.toList)

/-- A character up to the case folding of Unicode, as far as that reaches ASCII: the long s and the
Kelvin sign fold to letters. -/
def foldChar (c : Char) : Char :=
  if c.toNat = 0x17F then 's' else if c.toNat = 0x212A then 'k' else lowerChar c

/-- `strings.EqualFold` where one of the texts is ASCII. -/
def equalFold (s t : String) : Bool := s.toList.map foldChar == t.toList.map foldChar

/-! ## Patterns of SQL -/

/-- `LIKE` without an escape character: `%` is any text, `_` any character, and letters are of either case. -/
def like : List Char → List Char → Bool
  | [], cs => cs.isEmpty
  | a :: pattern, cs =>
    if a = '%' then cs.tails.any (like pattern)
    else
      match cs with
      | [] => false
      | c :: cs => (a = '_' || lowerChar a = lowerChar c) && like pattern cs

example : like "%a\\_c%".toList "xA\\bcy".toList = true := by decide +kernel

def containsLike (pattern : List Char) (cs : List Char) : Bool := like ('%' :: pattern ++ ['%']) cs

theorem containsLike_nil (cs : List Char) : containsLike [] cs = true := by
  have hall : like ['%'] cs = true := by
    simp only [like, if_true, List.any_eq_true]
    exact ⟨[], (List.mem_tails _ _).2 List.nil_suffix, rfl⟩
  simp only [containsLike, List.nil_append, List.cons_append]
  unfold like
  rw [if_pos rfl, List.any_eq_true]
  grind [List.mem_tails]

/-! ## Hex and base64 -/

def hexDigit (c : Char) : Option Nat :=
  if '0' ≤ c ∧ c ≤ '9' then some (c.toNat - 48)
  else if 'a' ≤ c ∧ c ≤ 'f' then some (c.toNat - 87)
  else if 'A' ≤ c ∧ c ≤ 'F' then some (c.toNat - 55)
  else none

/-- `encoding/hex.EncodeToString`. -/
def hexEncode (bytes : List UInt8) : String :=
  String.ofList (bytes.flatMap fun b => [Nat.digitChar (b.toNat / 16), Nat.digitChar (b.toNat % 16)])

def base64Digit (c : Char) : Option Nat :=
  if 'A' ≤ c ∧ c ≤ 'Z' then some (c.toNat - 65)
  else if 'a' ≤ c ∧ c ≤ 'z' then some (c.toNat - 71)
  else if '0' ≤ c ∧ c ≤ '9' then some (c.toNat + 4)
  else if c = '+' then some 62
  else if c = '/' then some 63
  else none

def base64Groups : List Char → Option (List UInt8)
  | [] => some []
  | [a, b, '=', '='] => do
    let n := 64 * (← base64Digit a) + (← base64Digit b)
    return [UInt8.ofNat (n / 16)]
  | [a, b, c, '='] => do
    let n := 4096 * (← base64Digit a) + 64 * (← base64Digit b) + (← base64Digit c)
    return [UInt8.ofNat (n / 1024), UInt8.ofNat (n / 4)]
  | a :: b :: c :: d :: rest => do
    let n := 262144 * (← base64Digit a) + 4096 * (← base64Digit b) + 64 * (← base64Digit c) + (← base64Digit d)
    return UInt8.ofNat (n / 65536) :: UInt8.ofNat (n / 256) :: UInt8.ofNat n :: (← base64Groups rest)
  | _ => none

/-- `base64.StdEncoding.DecodeString`; line ends are skipped. -/
def base64Decode (s : List Char) : Option (List UInt8) := base64Groups (s.filter fun c => c ≠ '\r' ∧ c ≠ '\n')

def base64Char (d : Nat) : Char :=
  if d < 26 then Char.ofNat (65 + d)
  else if d < 52 then Char.ofNat (71 + d)
  else if d < 62 then Char.ofNat (d - 4)
  else if d = 62 then '+'
  else '/'

/-- `base64.StdEncoding.EncodeToString`. -/
def base64Encode : List UInt8 → List Char
  | [] => []
  | [a] =>
    let n := a.toNat * 16
    [base64Char (n / 64), base64Char (n % 64), '=', '=']
  | [a, b] =>
    let n := (a.toNat * 256 + b.toNat) * 4
    [base64Char (n / 4096), base64Char (n / 64 % 64), base64Char (n % 64), '=']
  | a :: b :: c :: rest =>
    let n := a.toNat * 65536 + b.toNat * 256 + c.toNat
    base64Char (n / 262144) :: base64Char (n / 4096 % 64) :: base64Char (n / 64 % 64) :: base64Char (n % 64) ::
      base64Encode rest

example : base64Decode "R2FpYQ==".toList = some [0x47, 0x61, 0x69, 0x61] := by decide +kernel

@[simp, grind =] theorem toList_toLower (s : String) : (toLower s).toList = s.toList.map lowerChar := by
  simp [toLower]

theorem upper_cases {c : Char} (h : 'A' ≤ c ∧ c ≤ 'Z') : ∃ n, 65 ≤ n ∧ n ≤ 90 ∧ c = Char.ofNat n := by
  refine ⟨c.toNat, ?_, ?_, (Char.ofNat_toNat c).symm⟩
  · exact h.1
  · exact h.2

@[simp, grind =] theorem lowerChar_lowerChar (c : Char) : lowerChar (lowerChar c) = lowerChar c := by
  by_cases h : 'A' ≤ c ∧ c ≤ 'Z'
  · obtain ⟨n, hl, hu, rfl⟩ := upper_cases h
    interval_cases n <;> decide
  · simp [lowerChar, h]

theorem lowerChar_ne {c x : Char} (hx : ¬ ('a' ≤ x ∧ x ≤ 'z')) (h : c ≠ x) : lowerChar c ≠ x := by
  by_cases hc : 'A' ≤ c ∧ c ≤ 'Z'
  · rintro rfl
    obtain ⟨n, hl, hu, rfl⟩ := upper_cases hc
    interval_cases n <;> exact hx (by decide)
  · simpa [lowerChar, hc] using h

theorem foldChar_lowerChar (c : Char) : foldChar (lowerChar c) = foldChar c := by
  by_cases h : 'A' ≤ c ∧ c ≤ 'Z'
  · obtain ⟨n, hl, hu, rfl⟩ := upper_cases h
    interval_cases n <;> decide
  · simp [lowerChar, h]

theorem equalFold_toLower_left (s t : String) : equalFold (toLower s) t = equalFold s t := by
  simp [equalFold, Function.comp_def, foldChar_lowerChar]

theorem equalFold_toLower_right (s t : String) : equalFold s (toLower t) = equalFold s t := by
  simp [equalFold, Function.comp_def, foldChar_lowerChar]

@[simp, grind =] theorem equalFold_self (s : String) : equalFold s s = true := by simp [equalFold]

theorem len_toLower (s : String) : len (toLower s) = len s := by
  have hsize : ∀ c : Char, (lowerChar c).utf8Size = c.utf8Size := by
    intro c
    by_cases h : 'A' ≤ c ∧ c ≤ 'Z'
    · obtain ⟨n, hl, hu, rfl⟩ := upper_cases h
      interval_cases n <;> decide
    · simp [lowerChar, h]
  simp [len, Function.comp_def, hsize]

@[simp, grind =] theorem toLower_toLower (s : String) : toLower (toLower s) = toLower s := by
  simp [toLower, Function.comp_def]

theorem cut_first {α : Type} {x : α} : ∀ {a b r s : List α}, x ∉ a → x ∉ b → a ++ x :: r = b ++ x :: s → a = b ∧ r = s
  | [], [], _, _, _, _, h => ⟨rfl, (List.cons.inj h).2⟩
  | [], y :: b, _, _, _, hb, h => absurd (List.mem_cons_self ..) ((List.cons.inj h).1 ▸ hb)
  | y :: a, [], _, _, ha, _, h => absurd (List.mem_cons_self ..) ((List.cons.inj h).1 ▸ ha)
  | y :: a, z :: b, _, _, ha, hb, h => by
    obtain ⟨rfl, htail⟩ := List.cons.inj h
    obtain ⟨rfl, hr⟩ := cut_first (fun hm => ha (List.mem_cons_of_mem _ hm)) (fun hm => hb (List.mem_cons_of_mem _ hm))
      htail
    exact ⟨rfl, hr⟩

theorem cut_last {α : Type} {x : α} {a b r s : List α} (ha : x ∉ a) (hb : x ∉ b) (h : r ++ x :: a = s ++ x :: b) :
    r = s ∧ a = b := by
  have hrev : a.reverse ++ x :: r.reverse = b.reverse ++ x :: s.reverse := by
    simpa using congrArg List.reverse h
  obtain ⟨hab, hrs⟩ := cut_first (by simpa using ha) (by simpa using hb) hrev
  exact ⟨List.reverse_inj.1 hrs, List.reverse_inj.1 hab⟩

theorem trim_eq_self {cs : List Char} (hhead : ∀ c, cs.head? = some c → isSpace c = false)
    (hlast : ∀ c, cs.getLast? = some c → isSpace c = false) : trim cs = cs := by
  have hdrop : ∀ {l : List Char}, (∀ c, l.head? = some c → isSpace c = false) → l.dropWhile isSpace = l := by
    intro l hl
    cases l with
    | nil => rfl
    | cons c l => rw [List.dropWhile_cons_of_neg]; simp [hl c rfl]
  grind [trim]

theorem hexDigit_lowerChar (c : Char) : hexDigit (lowerChar c) = hexDigit c := by
  by_cases h : 'A' ≤ c ∧ c ≤ 'Z'
  · obtain ⟨n, hl, hu, rfl⟩ := upper_cases h
    interval_cases n <;> decide
  · simp [lowerChar, h]

/-! ## Base64 and hex are read back -/

theorem base64Digit_base64Char : ∀ d < 64, base64Digit (base64Char d) = some d := by decide

theorem base64Char_ne_pad : ∀ d < 64, base64Char d ≠ '=' := by decide

def isBase64 (c : Char) : Bool := (base64Digit c).isSome || c == '='

theorem isBase64_base64Char {d : Nat} (h : d < 64) : isBase64 (base64Char d) = true := by
  simp [isBase64, base64Digit_base64Char d h]

theorem isBase64_base64Encode : ∀ (bytes : List UInt8), ∀ c ∈ base64Encode bytes, isBase64 c = true
  | [], c, h => by simp [base64Encode] at h
  | [a], c, h => by
    have ha := a.toNat_lt
    simp only [base64Encode, List.mem_cons, List.not_mem_nil, or_false] at h
    rcases h with rfl | rfl | rfl | rfl
    · exact isBase64_base64Char (by omega)
    · exact isBase64_base64Char (by omega)
    · decide
    · decide
  | [a, b], c, h => by
    have ha := a.toNat_lt
    have hb := b.toNat_lt
    simp only [base64Encode, List.mem_cons, List.not_mem_nil, or_false] at h
    rcases h with rfl | rfl | rfl | rfl
    · exact isBase64_base64Char (by omega)
    · exact isBase64_base64Char (by omega)
    · exact isBase64_base64Char (by omega)
    · decide
  | a :: b :: d :: rest, c, h => by
    have ha := a.toNat_lt
    have hb := b.toNat_lt
    have hd := d.toNat_lt
    simp only [base64Encode, List.mem_cons] at h
    rcases h with rfl | rfl | rfl | rfl | h
    · exact isBase64_base64Char (by omega)
    · exact isBase64_base64Char (by omega)
    · exact isBase64_base64Char (by omega)
    · exact isBase64_base64Char (by omega)
    · exact isBase64_base64Encode rest c h

theorem ofNat_toNat_of_eq {b : UInt8} {n : Nat} (h : n % 256 = b.toNat) : UInt8.ofNat n = b := by
  apply UInt8.toNat_inj.1
  simpa using h

theorem base64Groups_base64Encode : ∀ bytes : List UInt8, base64Groups (base64Encode bytes) = some bytes
  | [] => rfl
  | [a] => by
    have ha := a.toNat_lt
    simp only [base64Encode, base64Groups, base64Digit_base64Char _ (show a.toNat * 16 / 64 < 64 by omega),
      base64Digit_base64Char _ (show a.toNat * 16 % 64 < 64 by omega), Option.bind_eq_bind, Option.bind_some,
      Option.pure_def]
    rw [ofNat_toNat_of_eq (b := a) (by omega)]
  | [a, b] => by
    have ha := a.toNat_lt
    have hb := b.toNat_lt
    have hpad := base64Char_ne_pad ((a.toNat * 256 + b.toNat) * 4 % 64) (by omega)
    simp only [base64Encode]
    rw [base64Groups]
    · simp only [base64Digit_base64Char _ (show (a.toNat * 256 + b.toNat) * 4 / 4096 < 64 by omega),
        base64Digit_base64Char _ (show (a.toNat * 256 + b.toNat) * 4 / 64 % 64 < 64 by omega),
        base64Digit_base64Char _ (show (a.toNat * 256 + b.toNat) * 4 % 64 < 64 by omega), Option.bind_eq_bind,
        Option.bind_some, Option.pure_def]
      rw [ofNat_toNat_of_eq (b := a) (by omega), ofNat_toNat_of_eq (b := b) (by omega)]
    · exact fun h => hpad h
  | a :: b :: c :: rest => by
    have ha := a.toNat_lt
    have hb := b.toNat_lt
    have hc := c.toNat_lt
    have hpad := base64Char_ne_pad ((a.toNat * 65536 + b.toNat * 256 + c.toNat) % 64) (by omega)
    simp only [base64Encode]
    rw [base64Groups]
    · simp only [base64Digit_base64Char _ (show (a.toNat * 65536 + b.toNat * 256 + c.toNat) / 262144 < 64 by omega),
        base64Digit_base64Char _ (show (a.toNat * 65536 + b.toNat * 256 + c.toNat) / 4096 % 64 < 64 by omega),
        base64Digit_base64Char _ (show (a.toNat * 65536 + b.toNat * 256 + c.toNat) / 64 % 64 < 64 by omega),
        base64Digit_base64Char _ (show (a.toNat * 65536 + b.toNat * 256 + c.toNat) % 64 < 64 by omega),
        base64Groups_base64Encode rest, Option.bind_eq_bind, Option.bind_some, Option.pure_def]
      rw [ofNat_toNat_of_eq (b := a) (by omega), ofNat_toNat_of_eq (b := b) (by omega),
        ofNat_toNat_of_eq (b := c) (by omega)]
    · intro _ h _; exact hpad h
    · intro h _; exact hpad h

theorem base64Decode_base64Encode (bytes : List UInt8) : base64Decode (base64Encode bytes) = some bytes := by
  unfold base64Decode
  rw [List.filter_eq_self.2, base64Groups_base64Encode]
  intro c hc
  have hb := isBase64_base64Encode bytes c hc
  simp only [decide_eq_true_eq]
  constructor <;> rintro rfl <;> exact absurd hb (by decide)

theorem hexDigit_digitChar : ∀ d < 16, hexDigit (Nat.digitChar d) = some d := by decide

theorem not_mem_hexEncode {x : Char} (hx : ∀ d < 16, Nat.digitChar d ≠ x) (bytes : List UInt8) :
    x ∉ (hexEncode bytes).toList := by
  intro h
  simp only [hexEncode, String.toList_ofList, List.mem_flatMap, List.mem_cons, List.not_mem_nil, or_false] at h
  obtain ⟨b, -, hb⟩ := h
  have hlt := b.toNat_lt
  rcases hb with hb | hb
  · exact hx _ (by omega) hb.symm
  · exact hx _ (by omega) hb.symm

end Lib
