/-
Instants and durations of Go's package time. An instant is the number of nanoseconds since the zero time
0001-01-01T00:00:00Z, before it negative; a duration is 64 bits wide, subtraction of instants saturates and
negation wraps. So the difference without its sign is the distance of two instants but for those too far in the
future, where it is negative (`skew_le_iff`).

`parse` is `time.Parse` with the layout RFC3339Nano on any text: besides the texts of that form it takes hours
of one digit, a comma before the fraction, and offsets of up to 24 hours and 60 minutes.
-/
import GaiaCom.Lib.Calendar
import GaiaCom.Lib.Digits

namespace Lib.GoTime

open Calendar

/-! ## Durations -/

def unixToInternal : Int := 62135596800

/-- `time.Unix`, for nanoseconds within a second. -/
def unix (sec nsec : Int) : Int := (sec + unixToInternal) * 1000000000 + nsec

/-- `t.Sub(u)`. -/
def sub (t u : Int) : Int64 := Int64.ofInt (max (-2 ^ 63) (min (t - u) (2 ^ 63 - 1)))

/-- The distance of two instants as it is usually computed: the difference, negated if it is negative. -/
def skew (t u : Int) : Int64 := if sub t u < 0 then -sub t u else sub t u

theorem toInt_sub (t u : Int) : (sub t u).toInt = max (-2 ^ 63) (min (t - u) (2 ^ 63 - 1)) := by
  rw [sub, Int64.toInt_ofInt_of_le (by omega) (by omega)]

theorem toInt_neg (d : Int64) : (-d).toInt = if d.toInt = -2 ^ 63 then -2 ^ 63 else -d.toInt := by
  have hl := d.le_toInt
  have hu := d.toInt_lt
  rw [Int64.toInt_neg]
  split
  · rename_i h
    rw [h]
    decide
  · rename_i h
    exact Int.bmod_eq_of_le (by omega) (by omega)

/-- The distance is within a limit exactly if the instants are so close, or the second is too late for a duration. -/
theorem skew_le_iff {limit : Int64} (h : 0 ≤ limit.toInt) (hlt : limit.toInt < 2 ^ 63 - 1) (t u : Int) :
    skew t u ≤ limit ↔ (-limit.toInt ≤ t - u ∧ t - u ≤ limit.toInt) ∨ 2 ^ 63 ≤ u - t := by
  have hsub := toInt_sub t u
  have hzero : (0 : Int64).toInt = 0 := rfl
  rw [Int64.le_iff_toInt_le]
  unfold skew
  split
  · rename_i hneg
    rw [Int64.lt_iff_toInt_lt, hzero] at hneg
    rw [toInt_neg]
    split <;> omega
  · rename_i hpos
    rw [Int64.lt_iff_toInt_lt, hzero] at hpos
    omega

/-! ## Reading a time -/

/-- `getnum`: two digits, or one where that is allowed. -/
def readNumber (fixed : Bool) : List Char → Option (Nat × List Char)
  | [] => none
  | [a] => if isDigit a ∧ fixed = false then some (a.toNat - 48, []) else none
  | a :: b :: cs =>
    if isDigit a = false then none
    else if isDigit b then some ((a.toNat - 48) * 10 + (b.toNat - 48), cs)
    else if fixed then none
    else some (a.toNat - 48, b :: cs)

/-- The fraction of a second, if there is one, in nanoseconds; digits after the ninth are dropped. -/
def readFraction (cs : List Char) : Nat × List Char :=
  let ds := cs.tail.takeWhile isDigit
  if (cs.head? = some '.' ∨ cs.head? = some ',') ∧ ds ≠ [] then
    (((readDigits 9 (ds.take 9 ++ List.replicate (9 - ds.length) '0')).map Prod.fst).getD 0, cs.tail.dropWhile isDigit)
  else (0, cs)

def readZone (cs : List Char) : Option (Int × List Char) :=
  if cs.head? = some 'Z' then some (0, cs.tail)
  else do
    let sign ← cs.head?
    let (hr, cs) ← readNumber true cs.tail
    let cs ← skip [':'] cs
    let (mm, cs) ← readNumber true cs
    if 24 < hr ∨ 60 < mm then none
    else if sign = '+' then some (((hr * 60 + mm) * 60 : Nat), cs)
    else if sign = '-' then some (-((hr * 60 + mm) * 60 : Nat), cs)
    else none

def dayOf (y m d : Nat) : Int := if y = 0 then (monthStart true m + (d - 1) : Nat) - 366 else dayNumber y m d

/-- `time.Parse(time.RFC3339Nano, value)`. -/
def parse (value : List Char) : Option Int := do
  let (y, cs) ← readDigits 4 value
  let cs ← skip ['-'] cs
  let (mo, cs) ← readNumber true cs
  let cs ← skip ['-'] cs
  let (d, cs) ← readNumber true cs
  let cs ← skip ['T'] cs
  let (h, cs) ← readNumber false cs
  let cs ← skip [':'] cs
  let (mi, cs) ← readNumber true cs
  let cs ← skip [':'] cs
  let (s, cs) ← readNumber true cs
  let (ns, cs) := readFraction cs
  let (zone, cs) ← readZone cs
  if cs ≠ [] ∨ mo < 1 ∨ 12 < mo ∨ d < 1 ∨ monthLength (isLeap y) mo < d ∨ 23 < h ∨ 59 < mi ∨ 59 < s then none
  else some ((dayOf y mo d * 86400 + (h * 3600 + mi * 60 + s : Nat) - zone) * 1000000000 + ns)

example : parse "2026-07-17T14:00:00.5+02:00".toList = some 63919886400500000000 := by decide +kernel

end Lib.GoTime
