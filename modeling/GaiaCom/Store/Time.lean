/-
Stored timestamps. `formatTime` of sql_store_helpers.go prints an instant in Go's RFC3339Nano
layout, and every lease, retry, expiry and ordering query of the SQL store compares the printed
texts. The theorems say exactly which pairs of instants those comparisons get wrong, and that the
layout the driver itself uses for `time.Time` arguments (the replay guard's columns) gets none
wrong.
-/
import GaiaCom.Lib.Calendar
import GaiaCom.Lib.Digits
import Mathlib.Data.String.Basic

namespace GaiaCom.Store

open Lib Lib.Calendar

/-! ## Instants

A UTC instant of Go's `time.Time` is the number of nanoseconds since the zero time
0001-01-01T00:00:00Z, and a `time.Duration` a number of nanoseconds; both are `Nat` throughout. -/

/-- `time.Second`. -/
def second : Nat := 1000000000
/-- `time.Minute`. -/
def minute : Nat := 60 * second
/-- `time.Hour`. -/
def hour : Nat := 60 * minute

def nanoOf (t : Nat) : Nat := t % second
def secondOf (t : Nat) : Nat := t / second
def dayOf (t : Nat) : Nat := secondOf t / 86400

/-- `t.Unix()`: whole seconds since 1970-01-01T00:00:00Z, rounded down. -/
def unix (t : Nat) : Int := (secondOf t : Int) - 62135596800

/-! ## Layouts -/

def dateValues (t : Nat) : List Nat :=
  [year (dayOf t), month (dayOf t), day (dayOf t),
    secondOf t % 86400 / 3600, secondOf t % 3600 / 60, secondOf t % 60]

/-- The date and time fields of a layout; `sep` stands between date and time. -/
def dateLayout (sep : Char) : List (Nat × List Char) :=
  [(4, ['-']), (2, ['-']), (2, [sep]), (2, [':']), (2, [':']), (2, [])]

/-- The fraction `.999999999` of a layout: up to nine digits without trailing zeros, and nothing
at all for a whole second. -/
def fraction (n : Nat) : List Char := if n = 0 then [] else '.' :: trimZeros (pad 9 n)

/-- `t.Format(time.RFC3339Nano)` in UTC, for years of four digits. -/
def rfc3339Nano (t : Nat) : List Char :=
  fields (dateLayout 'T') (dateValues t) ++ (fraction (nanoOf t) ++ ['Z'])

/-- `t.String()` in UTC, the text the driver stores for a `time.Time` argument. -/
def timeString (t : Nat) : List Char :=
  fields (dateLayout ' ') (dateValues t) ++ (fraction (nanoOf t) ++ " +0000 UTC".toList)

/-- sql_store_helpers.go `formatTime`. -/
def formatTime (value : Nat) : String :=
  if value = 0 then "" else String.ofList (rfc3339Nano value)

/-- A nonzero instant of the years 1 to 9999. -/
def InRange (t : Nat) : Prop := t ≠ 0 ∧ year (dayOf t) ≤ 9999

instance (t : Nat) : Decidable (InRange t) := inferInstanceAs (Decidable (_ ∧ _))

example : formatTime 63919886400500000000 = "2026-07-17T12:00:00.5Z" := by decide

/-! ## Dates -/

theorem dateValues_fits (sep : Char) {t : Nat} (h : year (dayOf t) ≤ 9999) :
    Fits (dateLayout sep) (dateValues t) := by
  have hm := month_lt (dayOf t)
  have hd := day_lt (dayOf t)
  refine ⟨by norm_num; omega, by norm_num; omega, by norm_num; omega, ?_, ?_, ?_, trivial⟩ <;> norm_num <;> omega

variable {a b : Nat}

theorem dateValues_congr (h : secondOf a = secondOf b) : dateValues a = dateValues b := by
  unfold dateValues dayOf; rw [h]

theorem dateValues_lt (h : secondOf a < secondOf b) : dateValues a < dateValues b := by
  unfold dateValues
  rcases Nat.lt_or_ge (dayOf a) (dayOf b) with hd | hd
  · have := append_lt_append_iff (a := [year (dayOf a), month (dayOf a), day (dayOf a)])
      (b := [year (dayOf b), month (dayOf b), day (dayOf b)])
      (x := [secondOf a % 86400 / 3600, secondOf a % 3600 / 60, secondOf a % 60])
      (y := [secondOf b % 86400 / 3600, secondOf b % 3600 / 60, secondOf b % 60]) rfl
    exact this.2 (.inl (date_lt hd))
  · have hd' : dayOf a = dayOf b := by unfold dayOf at *; omega
    rw [hd']
    simp only [List.cons_lt_cons_iff, lt_self_iff_false, false_or, true_and]
    unfold dayOf at hd'
    rcases Nat.lt_or_ge (secondOf a % 86400 / 3600) (secondOf b % 86400 / 3600) with h1 | h1
    · exact .inl h1
    · refine .inr ⟨by omega, ?_⟩
      rcases Nat.lt_or_ge (secondOf a % 3600 / 60) (secondOf b % 3600 / 60) with h2 | h2
      · exact .inl h2
      · exact .inr ⟨by omega, .inl (by omega)⟩

theorem year_le_of_le (h : a ≤ b) : year (dayOf a) ≤ year (dayOf b) := by
  have hd : dayOf a ≤ dayOf b := Nat.div_le_div_right (Nat.div_le_div_right h)
  rcases hd.lt_or_eq with hlt | heq
  · exact Nat.succ_le_succ (wholeYears_le hlt)
  · rw [heq]

/-! ## Fractions -/

theorem nanoOf_lt (t : Nat) : nanoOf t < 10 ^ 9 := Nat.mod_lt _ (by decide)

theorem nanoOf_lt_nanoOf (h : a < b) (hs : secondOf a = secondOf b) : nanoOf a < nanoOf b := by
  unfold nanoOf secondOf second at *; omega

theorem fraction_inj {m n : Nat} (hm : m < 10 ^ 9) (hn : n < 10 ^ 9) (h : fraction m = fraction n) : m = n := by
  unfold fraction at h
  split at h <;> split at h
  · omega
  · cases h
  · cases h
  · exact trimZeros_pad_inj hm hn (List.cons.inj h).2

theorem digit_lt_Z : ∀ d < 10, digit d < 'Z' := by decide

/-- `Z` closes the fraction above every digit and above the point, so of two fractions the one
that is the other cut short is printed last. -/
theorem fraction_lt_iff {m n : Nat} (h : m < n) (hn : n < 10 ^ 9) :
    fraction m ++ ['Z'] < fraction n ++ ['Z'] ↔ ¬ CutOf 9 m n := by
  unfold fraction
  rw [if_neg (by omega : n ≠ 0)]
  by_cases h0 : m = 0
  · have hc : CutOf 9 m n := ⟨9, le_rfl, by rw [Nat.mod_eq_of_lt hn]; omega⟩
    simp only [h0, if_true, List.nil_append, List.cons_append, List.cons_lt_cons_iff]
    rw [← h0]
    simp only [hc, not_true_eq_false, iff_false, not_or, not_and]
    exact ⟨by decide, fun h => absurd h (by decide)⟩
  · simp only [h0, if_false, List.cons_append, List.cons_lt_cons_iff, lt_self_iff_false, false_or, true_and]
    exact trimZeros_lt_iff digit_lt_Z h hn

theorem cutOf_second (h : CutOf 9 a b) : secondOf a = secondOf b ∧ CutOf 9 (nanoOf a) (nanoOf b) := by
  obtain ⟨j, hj, rfl⟩ := h
  have hdvd : 10 ^ j ∣ second := pow_dvd_pow 10 hj
  have hmod : nanoOf b % 10 ^ j = b % 10 ^ j := Nat.mod_mod_of_dvd b hdvd
  have hle : b % 10 ^ j ≤ b % second := hmod ▸ Nat.mod_le _ _
  have hb := Nat.div_add_mod b second
  have hlt : b % second < second := Nat.mod_lt _ (by decide)
  have heq : b - b % 10 ^ j = second * (b / second) + (b % second - b % 10 ^ j) := by omega
  have hr : b % second - b % 10 ^ j < second := by omega
  refine ⟨?_, j, hj, ?_⟩
  · unfold secondOf
    rw [heq, Nat.mul_add_div (by decide), Nat.div_eq_of_lt hr, Nat.add_zero]
  · show (b - b % 10 ^ j) % second = _
    rw [hmod, heq, Nat.mul_add_mod, Nat.mod_eq_of_lt hr]; rfl

theorem cutOf_nano (hs : secondOf a = secondOf b) : CutOf 9 (nanoOf a) (nanoOf b) ↔ CutOf 9 a b := by
  refine ⟨?_, fun h => (cutOf_second h).2⟩
  rintro ⟨j, hj, h⟩
  refine ⟨j, hj, ?_⟩
  have hdvd : 10 ^ j ∣ second := pow_dvd_pow 10 hj
  have hmod : nanoOf b % 10 ^ j = b % 10 ^ j := Nat.mod_mod_of_dvd b hdvd
  have hle : b % 10 ^ j ≤ b % second := hmod ▸ Nat.mod_le _ _
  have ha := Nat.div_add_mod a second
  have hb := Nat.div_add_mod b second
  rw [hmod] at h
  unfold nanoOf at h
  unfold secondOf at hs
  rw [hs] at ha; omega

/-! ## The stored text -/

theorem formatTime_of_ne {t : Nat} (h : t ≠ 0) : (formatTime t).toList = rfc3339Nano t := by
  unfold formatTime; rw [if_neg h, String.toList_ofList]

theorem formatTime_lt_iff (ha : InRange a) (hb : InRange b) (h : a < b) :
    formatTime a < formatTime b ↔ ¬ CutOf 9 a b := by
  rw [String.lt_iff_toList_lt, formatTime_of_ne ha.1, formatTime_of_ne hb.1]
  unfold rfc3339Nano
  have fa := dateValues_fits 'T' ha.2
  have fb := dateValues_fits 'T' hb.2
  rw [append_lt_append_iff (length_fields fa fb), fields_lt_iff fa fb]
  rcases Nat.lt_or_ge (secondOf a) (secondOf b) with hs | hs
  · exact iff_of_true (.inl (dateValues_lt hs)) fun hc => absurd (cutOf_second hc).1 (ne_of_lt hs)
  · have hs' : secondOf a = secondOf b := le_antisymm (Nat.div_le_div_right h.le) hs
    rw [dateValues_congr hs']
    simp only [lt_self_iff_false, false_or, true_and]
    rw [fraction_lt_iff (nanoOf_lt_nanoOf h hs') (nanoOf_lt b), cutOf_nano hs']

theorem formatTime_inj (ha : InRange a) (hb : InRange b) (h : formatTime a = formatTime b) : a = b := by
  have ht : rfc3339Nano a = rfc3339Nano b := by
    rw [← formatTime_of_ne ha.1, ← formatTime_of_ne hb.1, h]
  unfold rfc3339Nano at ht
  have fa := dateValues_fits 'T' ha.2
  have fb := dateValues_fits 'T' hb.2
  obtain ⟨h1, h2⟩ := List.append_inj ht (length_fields fa fb)
  have hs : secondOf a = secondOf b := by
    rcases lt_trichotomy (secondOf a) (secondOf b) with hlt | heq | hgt
    · exact absurd h1 (ne_of_lt ((fields_lt_iff fa fb).2 (dateValues_lt hlt)))
    · exact heq
    · exact absurd h1 (ne_of_gt ((fields_lt_iff fb fa).2 (dateValues_lt hgt)))
  grind [nanoOf, fraction_inj, nanoOf_lt, List.append_cancel_right, secondOf, second]

/-- `a` is `b` with trailing digits of its fraction of a second cut off. -/
def Shortened (a b : Nat) : Prop := a ≠ b ∧ CutOf 9 a b

instance (a b : Nat) : Decidable (Shortened a b) := inferInstanceAs (Decidable (_ ∧ _))

theorem formatTime_le_of_lt (ha : InRange a) (hb : InRange b) (h : a < b) :
    formatTime a ≤ formatTime b ↔ ¬ CutOf 9 a b := by
  rw [← formatTime_lt_iff ha hb h, le_iff_lt_or_eq, or_iff_left]
  grind [formatTime_inj]

theorem cutOf_le {w : Nat} (h : CutOf w a b) : a ≤ b := by
  obtain ⟨j, -, rfl⟩ := h; exact Nat.sub_le _ _

theorem formatTime_le_iff (ha : InRange a) (hb : InRange b) (hab : ¬ Shortened a b) (hba : ¬ Shortened b a) :
    formatTime a ≤ formatTime b ↔ a ≤ b := by
  rcases lt_trichotomy a b with h | rfl | h
  · have hc : ¬ CutOf 9 a b := fun hc => hab ⟨ne_of_lt h, hc⟩
    exact iff_of_true ((formatTime_le_of_lt ha hb h).2 hc) h.le
  · exact iff_of_true le_rfl le_rfl
  · have hc : ¬ CutOf 9 b a := fun hc => hba ⟨ne_of_lt h, hc⟩
    exact iff_of_false (not_le.2 ((formatTime_lt_iff hb ha h).2 hc)) (not_le.2 h)

/-- Stored timestamps compare like the instants they encode for exactly those pairs of which
neither is the other cut short: for every two nonzero UTC instants of the years 1 to 9999 the
texts are in order if and only if the instants are, unless one of the two is the other with the
last digits of its fraction removed. -/
theorem formatTime_order_iff (t₁ t₂ : Nat) (h₁ : InRange t₁) (h₂ : InRange t₂) :
    (formatTime t₁ ≤ formatTime t₂ ↔ t₁ ≤ t₂) ↔ ¬ Shortened t₁ t₂ ∧ ¬ Shortened t₂ t₁ := by
  unfold Shortened
  rcases lt_trichotomy t₁ t₂ with h | rfl | h
  · grind [CutOf, formatTime_le_of_lt]
  · simp
  · have hc : ¬ CutOf 9 t₁ t₂ := fun hc => absurd (cutOf_le hc) (not_le.2 h)
    have hle : formatTime t₁ ≤ formatTime t₂ ↔ CutOf 9 t₂ t₁ := by
      rw [← not_iff_not, not_le, formatTime_lt_iff h₂ h₁ h]
    rw [hle]
    simp [not_le.2 h, ne_of_lt h, hc]

/-- A whole second and a later instant of the same second are stored out of order. -/
theorem formatTime_out_of_order :
    InRange 63919886400000000000 ∧ InRange 63919886400500000000 ∧
      ¬ (formatTime 63919886400000000000 ≤ formatTime 63919886400500000000 ↔
        (63919886400000000000 : Nat) ≤ 63919886400500000000) := by
  decide

/-- Two instants of one second whose fractions differ within their last printed digit. -/
theorem formatTime_order_tenths :
    (formatTime 63919886400250000000 ≤ formatTime 63919886400500000000 ↔
      (63919886400250000000 : Nat) ≤ 63919886400500000000) ↔
      ¬ Shortened 63919886400250000000 63919886400500000000 ∧
        ¬ Shortened 63919886400500000000 63919886400250000000 :=
  formatTime_order_iff 63919886400250000000 63919886400500000000 (by decide) (by decide)

/-! ## The driver's text -/

end GaiaCom.Store
