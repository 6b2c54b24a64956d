/-
Decimal text of fixed width and its lexicographic order: zero-padded fields compare like the
numbers they print, whole records of such fields like the lists of their values, and fractions
printed without trailing zeros like the numbers unless one is the other cut short.
-/
import Mathlib.Data.List.Lex
import Mathlib.Data.List.DropRight
import Mathlib.Data.Char
import Mathlib.Order.Basic
import Mathlib.Tactic

namespace Lib

/-! ## Lexicographic order of concatenations -/

section Lex

variable {α : Type} [LinearOrder α]

theorem append_lt_append_iff : ∀ {a b x y : List α}, a.length = b.length →
    (a ++ x < b ++ y ↔ a < b ∨ a = b ∧ x < y)
  | [], [], x, y, _ => by simp
  | a :: as, b :: bs, x, y, h => by
    simp only [List.cons_append, List.cons_lt_cons_iff, append_lt_append_iff (Nat.succ.inj h), List.cons.injEq]
    tauto

end Lex

/-! ## Zero-padded numbers -/

def digit (d : Nat) : Char := Char.ofNat (48 + d)

/-- `n` in `w` decimal digits, leading zeros included. -/
def pad : Nat → Nat → List Char
  | 0, _ => []
  | w + 1, n => digit (n / 10 ^ w) :: pad w (n % 10 ^ w)

theorem digit_lt_iff : ∀ d < 10, ∀ e < 10, (digit d < digit e ↔ d < e) := by decide

theorem digit_inj : ∀ d < 10, ∀ e < 10, digit d = digit e → d = e := by decide

@[simp, grind =] theorem length_pad : ∀ w n, (pad w n).length = w
  | 0, _ => rfl
  | w + 1, n => by rw [pad, List.length_cons, length_pad]

variable {n w : Nat}

theorem div_pow_lt_ten (h : n < 10 ^ (w + 1)) : n / 10 ^ w < 10 := by
  rw [Nat.div_lt_iff_lt_mul (by positivity)]; rw [pow_succ] at h; omega

theorem mod_pow_lt (w n : Nat) : n % 10 ^ w < 10 ^ w := Nat.mod_lt _ (by positivity)

theorem lt_iff_split (p a b : Nat) (hp : 0 < p) :
    a < b ↔ a / p < b / p ∨ a / p = b / p ∧ a % p < b % p := by
  grind [Nat.div_add_mod, le_antisymm, Nat.div_le_div_right]

theorem pad_lt_iff : ∀ {w a b : Nat}, a < 10 ^ w → b < 10 ^ w → (pad w a < pad w b ↔ a < b)
  | 0, a, b, ha, hb => by
    have : a = 0 := by simpa using ha
    have : b = 0 := by simpa using hb
    subst_vars; simp
  | w + 1, a, b, ha, hb => by
    have qa := div_pow_lt_ten ha
    have qb := div_pow_lt_ten hb
    rw [pad, pad, List.cons_lt_cons_iff, digit_lt_iff _ qa _ qb, pad_lt_iff (mod_pow_lt w a) (mod_pow_lt w b),
      lt_iff_split (10 ^ w) a b (by positivity)]
    constructor
    · rintro (h | ⟨h, h'⟩); exacts [.inl h, .inr ⟨digit_inj _ qa _ qb h, h'⟩]
    · rintro (h | ⟨h, h'⟩); exacts [.inl h, .inr ⟨by rw [h], h'⟩]

variable {a b : Nat}

theorem pad_inj (ha : a < 10 ^ w) (hb : b < 10 ^ w) : pad w a = pad w b ↔ a = b := by
  refine ⟨fun h => ?_, fun h => by rw [h]⟩
  rcases lt_trichotomy a b with hlt | heq | hgt
  · exact absurd h (ne_of_lt ((pad_lt_iff ha hb).2 hlt))
  · exact heq
  · exact absurd h (ne_of_gt ((pad_lt_iff hb ha).2 hgt))

/-! ## Records of zero-padded fields -/

def fields : List (Nat × List Char) → List Nat → List Char
  | f :: fs, v :: vs => pad f.1 v ++ (f.2 ++ fields fs vs)
  | _, _ => []

/-- Every value fits the width of its field. -/
def Fits : List (Nat × List Char) → List Nat → Prop
  | [], [] => True
  | f :: fs, v :: vs => v < 10 ^ f.1 ∧ Fits fs vs
  | _, _ => False

theorem length_fields : ∀ {fs : List (Nat × List Char)} {vs ws : List Nat}, Fits fs vs → Fits fs ws →
    (fields fs vs).length = (fields fs ws).length
  | [], [], [], _, _ => rfl
  | f :: fs, v :: vs, w :: ws, hv, hw => by
    simp [fields, length_fields hv.2 hw.2]

theorem fields_lt_iff : ∀ {fs : List (Nat × List Char)} {vs ws : List Nat}, Fits fs vs → Fits fs ws →
    (fields fs vs < fields fs ws ↔ vs < ws)
  | [], [], [], _, _ => by simp [fields]
  | f :: fs, v :: vs, w :: ws, hv, hw => by
    simp only [fields]
    rw [append_lt_append_iff (by simp), append_lt_append_iff rfl, fields_lt_iff hv.2 hw.2,
      pad_lt_iff hv.1 hw.1, pad_inj hv.1 hw.1, List.cons_lt_cons_iff]
    simp

/-! ## Fractions without trailing zeros -/

def trimZeros (l : List Char) : List Char := l.rdropWhile (· = '0')

/-- `a` is `b` with some of its last `w` digits replaced by zeros. -/
def CutOf (w a b : Nat) : Prop := ∃ j ≤ w, a = b - b % 10 ^ j

instance (w a b : Nat) : Decidable (CutOf w a b) :=
  decidable_of_iff (∃ j, j < w + 1 ∧ a = b - b % 10 ^ j) (by simp [CutOf])

theorem pad_zeros_iff : ∀ {w n : Nat}, n < 10 ^ w → ((∀ c ∈ pad w n, c = '0') ↔ n = 0)
  | 0, n, h => by
    have : n = 0 := by simpa using h
    simp [pad, this]
  | w + 1, n, h => by
    have q := div_pow_lt_ten h
    have h0 : digit 0 = '0' := rfl
    simp only [pad, List.mem_cons, forall_eq_or_imp, pad_zeros_iff (mod_pow_lt w n)]
    constructor
    · rintro ⟨h1, h2⟩
      have := digit_inj _ q 0 (by norm_num) (h1.trans h0.symm)
      rw [← Nat.div_add_mod n (10 ^ w), this, h2]; simp
    · rintro rfl; simp [h0]

theorem rdropWhile_cons (p : Char → Bool) (a : Char) (l : List Char) :
    (a :: l).rdropWhile p =
      if l.rdropWhile p = [] then (if p a then [] else [a]) else a :: l.rdropWhile p := by
  induction l using List.reverseRecOn with
  | nil => simp [List.rdropWhile_singleton]
  | append_singleton l b ih =>
    rw [← List.cons_append, List.rdropWhile_concat, List.rdropWhile_concat]
    split
    · exact ih
    simp

theorem trimZeros_pad_succ (h : n < 10 ^ (w + 1)) : trimZeros (pad (w + 1) n) =
    if n = 0 then [] else digit (n / 10 ^ w) :: trimZeros (pad w (n % 10 ^ w)) := by
  grind [pad_zeros_iff, trimZeros, List.rdropWhile_eq_nil_iff, pad, rdropWhile_cons]

theorem trimZeros_append {l : List Char} :
    trimZeros l ++ List.replicate (l.length - (trimZeros l).length) '0' = l := by
  have h := List.rdropWhile_append_rtakeWhile (p := (· = '0')) (l := l)
  have hz : l.rtakeWhile (· = '0') = List.replicate (l.length - (trimZeros l).length) '0' := by
    rw [List.eq_replicate_iff]
    grind [List.mem_rtakeWhile_imp, trimZeros]
  rw [← hz]; exact h

theorem trimZeros_pad_inj (ha : a < 10 ^ w) (hb : b < 10 ^ w)
    (h : trimZeros (pad w a) = trimZeros (pad w b)) : a = b := by
  grind [pad_inj, trimZeros_append]

theorem cutOf_succ_iff (ha : a ≠ 0) (hb : b < 10 ^ (w + 1)) :
    CutOf (w + 1) a b ↔ a / 10 ^ w = b / 10 ^ w ∧ CutOf w (a % 10 ^ w) (b % 10 ^ w) := by
  have hp : 0 < 10 ^ w := by positivity
  have hdm := Nat.div_add_mod b (10 ^ w)
  -- for `j ≤ w` the cut only touches the remainder by `10 ^ w`
  have key : ∀ j ≤ w, b - b % 10 ^ j = 10 ^ w * (b / 10 ^ w) + (b % 10 ^ w - b % 10 ^ w % 10 ^ j) := by
    intro j hj
    rw [Nat.mod_mod_of_dvd _ (pow_dvd_pow 10 hj)]
    have h1 : b % 10 ^ j ≤ b % 10 ^ w := by
      rw [← Nat.mod_mod_of_dvd b (pow_dvd_pow 10 hj)]; exact Nat.mod_le _ _
    omega
  have split : ∀ r < 10 ^ w, (10 ^ w * (b / 10 ^ w) + r) / 10 ^ w = b / 10 ^ w ∧
      (10 ^ w * (b / 10 ^ w) + r) % 10 ^ w = r := fun r hr =>
    ⟨by rw [Nat.mul_add_div hp, Nat.div_eq_of_lt hr, Nat.add_zero], by
      rw [Nat.mul_add_mod, Nat.mod_eq_of_lt hr]⟩
  constructor
  · rintro ⟨j, hj, rfl⟩
    rcases Nat.lt_or_ge w j with hw | hw
    · have : j = w + 1 := by omega
      subst this
      rw [Nat.mod_eq_of_lt hb] at ha; omega
    · rw [key j hw]
      obtain ⟨h1, h2⟩ := split (b % 10 ^ w - b % 10 ^ w % 10 ^ j)
        (lt_of_le_of_lt (Nat.sub_le _ _) (mod_pow_lt w b))
      exact ⟨h1, j, hw, h2⟩
  · rintro ⟨hq, j, hj, hr⟩
    refine ⟨j, by omega, ?_⟩
    rw [key j hj, ← hq, ← hr, Nat.div_add_mod]

/-- Two fractions in the same number of places, printed without trailing zeros and closed by a
character above every digit: the text of the smaller comes first unless it is a cut of the
larger, in which case the closing character puts it last. -/
theorem trimZeros_lt_iff {z : Char} (hz : ∀ d < 10, digit d < z) : ∀ {w a b : Nat}, a < b → b < 10 ^ w →
    (trimZeros (pad w a) ++ [z] < trimZeros (pad w b) ++ [z] ↔ ¬ CutOf w a b)
  | 0, a, b, hab, hb => by simp at hb; omega
  | w + 1, a, b, hab, hb => by
    have ha : a < 10 ^ (w + 1) := hab.trans hb
    have qa := div_pow_lt_ten ha
    have qb := div_pow_lt_ten hb
    rw [trimZeros_pad_succ hb, if_neg (by omega : b ≠ 0), trimZeros_pad_succ ha]
    by_cases h0 : a = 0
    · have hc : CutOf (w + 1) a b := ⟨w + 1, le_rfl, by rw [Nat.mod_eq_of_lt hb]; omega⟩
      rw [if_pos h0, List.nil_append, List.cons_append, List.cons_lt_cons_iff]
      have hd := hz _ qb
      simp only [hc, not_true_eq_false, iff_false, not_or, not_and]
      exact ⟨not_lt.2 hd.le, fun h => absurd h (ne_of_gt hd)⟩
    · rw [if_neg h0, List.cons_append, List.cons_append, List.cons_lt_cons_iff, digit_lt_iff _ qa _ qb,
        cutOf_succ_iff h0 hb]
      rcases (lt_iff_split (10 ^ w) a b (by positivity)).1 hab with hq | ⟨hq, hr⟩
      · simp [hq, ne_of_lt hq]
      · have ih := trimZeros_lt_iff hz hr (mod_pow_lt w b)
        rw [hq]; simp [ih]

/-! ## Reading numbers back -/

def isDigit (c : Char) : Bool := '0' ≤ c && c ≤ '9'

/-- Exactly `w` decimal digits, and what follows them. -/
def readDigits : Nat → List Char → Option (Nat × List Char)
  | 0, cs => some (0, cs)
  | _ + 1, [] => none
  | w + 1, c :: cs =>
    if isDigit c then (readDigits w cs).map fun (n, rest) => ((c.toNat - 48) * 10 ^ w + n, rest) else none

def skip : List Char → List Char → Option (List Char)
  | [], cs => some cs
  | a :: as, c :: cs => if a = c then skip as cs else none
  | _ :: _, [] => none

/-- `strconv.ParseInt(s, 10, 64)`: an optional sign and decimal digits, within 64 bits. -/
def parseInt (w : List Char) : Option Int :=
  let digits := match w with
    | '-' :: ds => ds
    | '+' :: ds => ds
    | ds => ds
  let n : Int := ((readDigits digits.length digits).map Prod.fst).getD 0
  let v := if w.head? = some '-' then -n else n
  if digits ≠ [] ∧ digits.all isDigit ∧ -(2 ^ 63) ≤ v ∧ v < 2 ^ 63 then some v else none

def readFields : List (Nat × List Char) → List Char → Option (List Nat × List Char)
  | [], cs => some ([], cs)
  | f :: fs, cs => do
    let (v, cs) ← readDigits f.1 cs
    let cs ← skip f.2 cs
    let (vs, cs) ← readFields fs cs
    return (v :: vs, cs)

theorem isDigit_digit : ∀ d < 10, isDigit (digit d) = true ∧ (digit d).toNat - 48 = d := by decide

theorem isDigit_pad : ∀ {w n : Nat}, n < 10 ^ w → ∀ c ∈ pad w n, isDigit c = true
  | 0, _, _, c, hc => by simp [pad] at hc
  | w + 1, n, h, c, hc => by
    rcases List.mem_cons.1 hc with rfl | hc
    · exact (isDigit_digit _ (div_pow_lt_ten h)).1
    · exact isDigit_pad (mod_pow_lt w n) c hc

theorem readDigits_pad : ∀ {w n : Nat} (rest : List Char), n < 10 ^ w →
    readDigits w (pad w n ++ rest) = some (n, rest)
  | 0, n, rest, h => by
    have : n = 0 := by simpa using h
    simp [pad, readDigits, this]
  | w + 1, n, rest, h => by
    obtain ⟨h1, h2⟩ := isDigit_digit _ (div_pow_lt_ten h)
    simp only [pad, List.cons_append, readDigits, h1, if_true, h2, readDigits_pad rest (mod_pow_lt w n), Option.map_some]
    rw [Nat.mul_comm, Nat.div_add_mod]

theorem skip_append : ∀ a rest : List Char, skip a (a ++ rest) = some rest
  | [], _ => rfl
  | _ :: a, rest => by simp [skip, skip_append a rest]

theorem readFields_fields : ∀ {fs : List (Nat × List Char)} {vs : List Nat} (rest : List Char), Fits fs vs →
    readFields fs (fields fs vs ++ rest) = some (vs, rest)
  | [], [], _, _ => rfl
  | f :: fs, v :: vs, rest, h => by
    simp only [readFields, fields, List.append_assoc, readDigits_pad _ h.1, Option.bind_eq_bind, Option.bind_some,
      skip_append, readFields_fields rest h.2, Option.pure_def]

/-! ## Decimal numbers -/

/-- `strconv.FormatInt(n, 10)`. -/
def formatInt : Int → List Char
  | .ofNat n => Nat.toDigits 10 n
  | .negSucc n => '-' :: Nat.toDigits 10 (n + 1)

theorem formatInt_ne_nil (n : Int) : formatInt n ≠ [] := by
  cases n with
  | ofNat n => exact Nat.toDigits_ne_nil
  | negSucc n => exact List.cons_ne_nil _ _

theorem isDigit_toDigits {c : Char} (h : c ∈ Nat.toDigits 10 n) : isDigit c = true := by
  have hd := Nat.isDigit_of_mem_toDigits (by decide) (by decide) h
  simp only [Char.isDigit, Bool.and_eq_true, decide_eq_true_eq] at hd
  simp only [isDigit, Bool.and_eq_true, decide_eq_true_eq]
  exact hd

theorem readDigits_digits : ∀ {cs : List Char}, (∀ c ∈ cs, isDigit c = true) →
    readDigits cs.length cs = some (Nat.ofDigitChars 10 cs 0, [])
  | [], _ => rfl
  | c :: cs, h => by
    have hc := h c (List.mem_cons_self ..)
    have hcs := readDigits_digits fun x hx => h x (List.mem_cons_of_mem _ hx)
    have hsplit := @Nat.ofDigitChars_eq_ofDigitChars_zero cs (10 * 0 + (c.toNat - '0'.toNat))
    grind [readDigits, Nat.ofDigitChars_cons]

theorem parseInt_digits {ds : List Char} (hne : ds ≠ []) (hds : ∀ c ∈ ds, isDigit c = true)
    (hu : Nat.ofDigitChars 10 ds 0 < 2 ^ 63) : parseInt ds = some (Nat.ofDigitChars 10 ds 0 : Int) := by
  have hall : ds.all isDigit = true := by simpa using hds
  have hread := readDigits_digits hds
  cases ds with
  | nil => exact absurd rfl hne
  | cons d ds =>
    have hminus : d ≠ '-' := by
      rintro rfl
      exact absurd (hds _ (List.mem_cons_self ..)) (by decide)
    have hplus : d ≠ '+' := by
      rintro rfl
      exact absurd (hds _ (List.mem_cons_self ..)) (by decide)
    unfold parseInt
    split
    · rename_i h; exact absurd (List.cons.inj h).1 hminus
    · rename_i h; exact absurd (List.cons.inj h).1 hplus
    grind

theorem parseInt_minus {ds : List Char} (hne : ds ≠ []) (hds : ∀ c ∈ ds, isDigit c = true)
    (hu : Nat.ofDigitChars 10 ds 0 ≤ 2 ^ 63) : parseInt ('-' :: ds) = some (-(Nat.ofDigitChars 10 ds 0 : Int)) := by
  have hall : ds.all isDigit = true := by simpa using hds
  unfold parseInt
  simp only [readDigits_digits hds, Option.map_some, Option.getD_some, List.head?_cons, if_true]
  rw [if_pos ⟨hne, hall, by omega, by omega⟩]

theorem parseInt_formatInt {n : Int} (hl : -(2 ^ 63) ≤ n) (hu : n < 2 ^ 63) : parseInt (formatInt n) = some n := by
  have hdigits : ∀ m, ∀ c ∈ Nat.toDigits 10 m, isDigit c = true := fun m c h => isDigit_toDigits h
  cases n <;> grind [parseInt_digits, Nat.toDigits_ne_nil, Nat.ofDigitChars_ten_toDigits, parseInt_minus, formatInt]

theorem mem_formatInt {n : Int} {c : Char} (h : c ∈ formatInt n) : c = '-' ∨ isDigit c = true := by
  cases n with
  | ofNat n => exact .inr (isDigit_toDigits h)
  | negSucc n =>
    rcases List.mem_cons.1 h with h | h <;> grind [isDigit_toDigits]

end Lib
