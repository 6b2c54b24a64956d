/-
The proleptic Gregorian calendar: the year, month and day of a day number counted from
0001-01-01, and that dates compare like the day numbers they come from.
-/
import Mathlib.Tactic

namespace Lib.Calendar

def isLeap (y : Nat) : Bool := y % 4 = 0 && (y % 100 ≠ 0 || y % 400 = 0)

def yearLength (y : Nat) : Nat := if isLeap y then 366 else 365

/-- The number of days in the first `n` years. -/
def daysInYears (n : Nat) : Nat := 365 * n + n / 4 - n / 100 + n / 400

/-- The number of whole years before day `d`: the 400-year cycles, then the centuries, the
four-year cycles and the years of the last one; the last century and the last year of a cycle
may have one day more. -/
def wholeYears (d : Nat) : Nat :=
  let r := d % 146097
  let c := min (r / 36524) 3
  let r := r - 36524 * c
  400 * (d / 146097) + 100 * c + 4 * (r / 1461) + min (r % 1461 / 365) 3

/-- The year of day `d`. -/
def year (d : Nat) : Nat := wholeYears d + 1

def yearDay (d : Nat) : Nat := d - daysInYears (wholeYears d)

/-- The number of days of a year before month `m`. -/
def monthStart (leap : Bool) (m : Nat) : Nat :=
  [0, 31, 59, 90, 120, 151, 181, 212, 243, 273, 304, 334].getD (m - 1) 0 + if leap && 2 < m then 1 else 0

def monthOf (leap : Bool) (yd : Nat) : Nat := 1 + (List.range 11).countP fun i => monthStart leap (i + 2) ≤ yd

/-- The month of day `d`. -/
def month (d : Nat) : Nat := monthOf (isLeap (year d)) (yearDay d)

/-- The day of the month of day `d`. -/
def day (d : Nat) : Nat := yearDay d - monthStart (isLeap (year d)) (month d) + 1

/-! ## Years -/

theorem daysInYears_succ (n : Nat) : daysInYears (n + 1) = daysInYears n + yearLength (n + 1) := by
  have h4 : (n + 1) / 4 = n / 4 + if 4 ∣ n + 1 then 1 else 0 := Nat.succ_div
  have h100 : (n + 1) / 100 = n / 100 + if 100 ∣ n + 1 then 1 else 0 := Nat.succ_div
  have h400 : (n + 1) / 400 = n / 400 + if 400 ∣ n + 1 then 1 else 0 := Nat.succ_div
  have hle : n / 100 ≤ n / 4 := Nat.div_le_div_left (by norm_num) (by norm_num)
  unfold daysInYears yearLength isLeap
  simp only [Nat.dvd_iff_mod_eq_zero, Bool.and_eq_true, Bool.or_eq_true, decide_eq_true_eq] at *
  rw [h4, h100, h400]
  -- a year divisible by 400 is divisible by 100, and one divisible by 100 by 4
  have d1 : (n + 1) % 400 = 0 → (n + 1) % 100 = 0 := by omega
  have d2 : (n + 1) % 100 = 0 → (n + 1) % 4 = 0 := by omega
  by_cases c4 : (n + 1) % 4 = 0 <;> by_cases c100 : (n + 1) % 100 = 0 <;>
    by_cases c400 : (n + 1) % 400 = 0 <;> simp [c4, c100, c400] at d1 d2 ⊢ <;> omega

theorem daysInYears_mono {m n : Nat} (h : m ≤ n) : daysInYears m ≤ daysInYears n :=
  monotone_nat_of_le_succ (fun k => by rw [daysInYears_succ]; exact Nat.le_add_right _ _) h

theorem daysInYears_cycles (a c q y : Nat) (hc : c ≤ 3) (hq : q ≤ 24) (hy : y ≤ 3) :
    daysInYears (400 * a + 100 * c + 4 * q + y) = 146097 * a + 36524 * c + 1461 * q + 365 * y := by
  unfold daysInYears; omega

theorem yearDay_spec (d : Nat) :
    daysInYears (wholeYears d) + yearDay d = d ∧ yearDay d < yearLength (year d) := by
  have hr : d % 146097 < 146097 := Nat.mod_lt _ (by norm_num)
  have hd := Nat.div_add_mod d 146097
  unfold yearDay year wholeYears
  simp only
  generalize d / 146097 = a at *
  generalize d % 146097 = r at *
  obtain ⟨c, hc⟩ : ∃ c, c = min (r / 36524) 3 := ⟨_, rfl⟩
  rw [← hc]
  obtain ⟨q, hq⟩ : ∃ q, q = (r - 36524 * c) / 1461 := ⟨_, rfl⟩
  obtain ⟨y, hy⟩ : ∃ y, y = min ((r - 36524 * c) % 1461 / 365) 3 := ⟨_, rfl⟩
  rw [← hq, ← hy, daysInYears_cycles a c q y (by omega) (by omega) (by omega)]
  refine ⟨by omega, ?_⟩
  unfold yearLength isLeap
  simp only [Bool.and_eq_true, Bool.or_eq_true, decide_eq_true_eq]
  split <;> omega

theorem wholeYears_le {d e : Nat} (h : d < e) : wholeYears d ≤ wholeYears e := by
  by_contra hlt
  have h1 := (yearDay_spec d).1
  obtain ⟨h2, h3⟩ := yearDay_spec e
  have h4 := daysInYears_mono (show wholeYears e + 1 ≤ wholeYears d by omega)
  rw [daysInYears_succ] at h4
  unfold year at h3; omega

/-! ## Months -/

def monthLength (leap : Bool) (m : Nat) : Nat :=
  (if m = 12 then (if leap then 366 else 365) else monthStart leap (m + 1)) - monthStart leap m

/-- A day of a year lies in its month; in a year that is not leap there is no day 365. -/
theorem monthOf_spec : ∀ leap : Bool, ∀ yd < 366, monthStart leap (monthOf leap yd) ≤ yd ∧ monthOf leap yd ≤ 12 ∧
    yd - monthStart leap (monthOf leap yd) < 32 ∧
    (yd < (if leap then 366 else 365) →
      yd - monthStart leap (monthOf leap yd) + 1 ≤ monthLength leap (monthOf leap yd)) := by
  decide +kernel

theorem monthOf_mono (leap : Bool) {a b : Nat} (h : a ≤ b) : monthOf leap a ≤ monthOf leap b := by
  refine Nat.add_le_add_left (List.countP_mono_left fun i _ hi => ?_) 1
  simp only [decide_eq_true_eq] at *; omega

theorem yearDay_lt (d : Nat) : yearDay d < 366 := by
  grind [yearDay_spec, yearLength, yearDay]

theorem month_lt (d : Nat) : month d < 100 := (monthOf_spec _ _ (yearDay_lt d)).2.1.trans_lt (by decide)

theorem day_lt (d : Nat) : day d < 100 := by
  have := (monthOf_spec (isLeap (year d)) _ (yearDay_lt d)).2.2.1
  unfold day month
  omega

/-! ## Days of a month -/

def dayNumber (y m d : Nat) : Nat := daysInYears (y - 1) + monthStart (isLeap y) m + (d - 1)

theorem month_day_valid (d : Nat) :
    1 ≤ month d ∧ month d ≤ 12 ∧ 1 ≤ day d ∧ day d ≤ monthLength (isLeap (year d)) (month d) := by
  obtain ⟨-, h2, -, h3⟩ := monthOf_spec (isLeap (year d)) (yearDay d) (yearDay_lt d)
  exact ⟨Nat.le_add_right _ _, h2, Nat.le_add_left _ _, h3 (yearDay_spec d).2⟩

theorem dayNumber_date (d : Nat) : dayNumber (year d) (month d) (day d) = d := by
  grind [yearDay_spec, monthOf_spec, year, yearDay_lt, dayNumber, day, month]

/-! ## Dates compare like day numbers -/

theorem date_lt {d e : Nat} (h : d < e) : [year d, month d, day d] < [year e, month e, day e] := by
  simp only [List.cons_lt_cons_iff]
  rcases Nat.lt_or_ge (wholeYears d) (wholeYears e) with hy | hy
  · exact .inl (Nat.succ_lt_succ hy)
  · have hw : wholeYears d = wholeYears e := le_antisymm (wholeYears_le h) hy
    grind [year, yearDay_spec, month, monthOf_mono, Nat.lt_or_ge, le_antisymm, monthOf_spec, yearDay_lt, day]

example : (year 739448, month 739448, day 739448) = (2025, 7, 17) := by decide

end Lib.Calendar
