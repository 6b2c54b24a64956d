/-
Time columns. `parseTime` of sql_store_helpers.go reads back what `formatTime` wrote, and does so
exactly (`parseTime_formatTime`). A store whose queries compare time columns is modelled over any
`TimeColumn`: over the texts the SQL store really keeps, or over one whose values compare like
the instants they stand for.
-/
import GaiaCom.Store.Time

namespace GaiaCom.Store

open Lib Lib.Calendar

/-! ## Reading a stored text -/

/-- The fraction of a second at the head of a text, in nanoseconds; digits after the ninth are dropped. -/
def readFraction : List Char → Option (Nat × List Char)
  | '.' :: cs =>
    let ds := cs.takeWhile isDigit
    if ds = [] then some (0, '.' :: cs)
    else (readDigits 9 (ds.take 9 ++ List.replicate (9 - ds.length) '0')).map fun (n, _) => (n, cs.dropWhile isDigit)
  | cs => some (0, cs)

def readZone : List Char → Option Int
  | ['Z'] => some 0
  | sign :: cs => do
    let (vs, rest) ← readFields [(2, [':']), (2, [])] cs
    match vs with
    | [hh, mm] =>
      if rest ≠ [] ∨ 23 < hh ∨ 59 < mm then none
      else if sign = '+' then some ((hh * 60 + mm) * 60 : Nat)
      else if sign = '-' then some (-((hh * 60 + mm) * 60 : Nat))
      else none
    | _ => none
  | [] => none

/-- `time.Parse(time.RFC3339Nano, value)`, for instants from the year 1 on. -/
def parseRFC3339 (cs : List Char) : Option Nat := do
  let (vs, cs) ← readFields (dateLayout 'T') cs
  let (ns, cs) ← readFraction cs
  let zone ← readZone cs
  match vs with
  | [y, mo, d, h, mi, s] =>
    if y < 1 ∨ mo < 1 ∨ 12 < mo ∨ d < 1 ∨ monthLength (isLeap y) mo < d ∨ 23 < h ∨ 59 < mi ∨ 59 < s then none
    else
      let seconds : Int := (dayNumber y mo d * 86400 + h * 3600 + mi * 60 + s : Nat) - zone
      if seconds < 0 then none else some (seconds.toNat * second + ns)
  | _ => none

/-- sql_store_helpers.go `parseTime`: the zero time for an empty or unreadable text. -/
def parseTime (value : String) : Nat := if value = "" then 0 else (parseRFC3339 value.toList).getD 0

theorem readFraction_fraction {n : Nat} (h : n < 10 ^ 9) : readFraction (fraction n ++ ['Z']) = some (n, ['Z']) := by
  by_cases h0 : n = 0
  · subst h0; rfl
  · have happ := trimZeros_append (l := pad 9 n)
    have hdig : ∀ c ∈ trimZeros (pad 9 n), isDigit c = true := by
      intro c hc
      refine isDigit_pad h c ?_
      rw [← happ]; exact List.mem_append_left _ hc
    have hlen : (trimZeros (pad 9 n)).length ≤ 9 := by
      grind
    have hne : trimZeros (pad 9 n) ≠ [] := by
      rw [trimZeros_pad_succ h, if_neg h0]; exact List.cons_ne_nil _ _
    have htake : (trimZeros (pad 9 n) ++ ['Z']).takeWhile isDigit = trimZeros (pad 9 n) := by
      rw [List.takeWhile_append_of_pos hdig]; simp [isDigit]
    have hdrop : (trimZeros (pad 9 n) ++ ['Z']).dropWhile isDigit = ['Z'] := by
      rw [List.dropWhile_append_of_pos hdig]; rfl
    have hread : readDigits 9 (trimZeros (pad 9 n) ++ List.replicate (9 - (trimZeros (pad 9 n)).length) '0') =
        some (n, []) := by
      rw [length_pad] at happ
      rw [happ]; simpa using readDigits_pad [] h
    simp only [fraction, if_neg h0, List.cons_append, readFraction, htake, hne, if_false, hdrop,
      List.take_of_length_le hlen, hread, Option.map_some]

theorem parseTime_formatTime {t : Nat} (h : year (dayOf t) ≤ 9999) : parseTime (formatTime t) = t := by
  by_cases h0 : t = 0
  · subst h0; rfl
  · have hne : formatTime t ≠ "" := by
      intro he
      have := congrArg (fun s => s.toList.length) he
      grind [formatTime_of_ne, rfc3339Nano]
    obtain ⟨h1, h2, h3, h4⟩ := month_day_valid (dayOf t)
    have hy : 1 ≤ year (dayOf t) := Nat.le_add_left _ _
    have hfields := readFields_fields (fraction (nanoOf t) ++ ['Z']) (dateValues_fits 'T' h)
    have hs : dayOf t * 86400 + secondOf t % 86400 / 3600 * 3600 + secondOf t % 3600 / 60 * 60 + secondOf t % 60 =
        secondOf t := by
      unfold dayOf; omega
    have hvalid : ¬ (year (dayOf t) < 1 ∨ month (dayOf t) < 1 ∨ 12 < month (dayOf t) ∨ day (dayOf t) < 1 ∨
        monthLength (isLeap (year (dayOf t))) (month (dayOf t)) < day (dayOf t) ∨ 23 < secondOf t % 86400 / 3600 ∨
        59 < secondOf t % 3600 / 60 ∨ 59 < secondOf t % 60) := by
      omega
    unfold parseTime
    rw [if_neg hne, formatTime_of_ne h0]
    simp only [parseRFC3339, rfc3339Nano, hfields, Option.bind_eq_bind, Option.bind_some,
      readFraction_fraction (nanoOf_lt t), readZone]
    simp only [dateValues, hvalid, if_false, dayNumber_date, hs]
    rw [if_neg (by omega), Option.getD_some]
    simp only [Int.sub_zero, Int.toNat_natCast, secondOf, nanoOf, Nat.mul_comm _ second, Nat.div_add_mod]

/-! ## Columns -/

/-- How a time column stores an instant and what is read back from it. -/
structure TimeColumn (τ : Type) where
  format : Nat → τ
  parse : τ → Nat

namespace TimeColumn

def text : TimeColumn String := ⟨formatTime, parseTime⟩

def instant : TimeColumn Nat := ⟨id, id⟩

/-- Stored times compare as times and are read back as they were written. -/
structure Faithful {τ : Type} [LinearOrder τ] (c : TimeColumn τ) : Prop where
  le_iff : ∀ a b, c.format a ≤ c.format b ↔ a ≤ b
  parse_format : ∀ t, c.parse (c.format t) = t

theorem instant_faithful : instant.Faithful := ⟨fun _ _ => Iff.rfl, fun _ => rfl⟩

theorem Faithful.lt_iff {τ : Type} [LinearOrder τ] {c : TimeColumn τ} (hc : c.Faithful) (a b : Nat) :
    c.format a < c.format b ↔ a < b := by
  rw [← not_le, hc.le_iff, not_le]

end TimeColumn

end GaiaCom.Store
