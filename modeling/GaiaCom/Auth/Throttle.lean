/-
Throttling of logins: `Login` of auth_handler.go with `IsAuthBlocked` and `CheckAuth` of auth_guard.go over the table of
rate limits.

The counter of failed logins is read before the password is checked and written after it, in statements of their own.
Requests that are between the two do not see each other, so any number of them is admitted at once. At most five wrong
passwords are checked in a window if no request is admitted while another of the same key is under way, failed logins
are counted, and the reading and the writing agree on whether the window is over (`wrong_passwords_le`).
-/
import GaiaCom.Lib.Pool
import GaiaCom.Security.RateLimit

namespace GaiaCom.Auth.Throttle

open Lib GaiaCom.Store
open Security (LimitRow LimitRows upserted incrementSecurityRateLimit getSecurityRateLimitCount resetSecurityRateLimit
  opaqueRateLimitKey opaqueRateLimitKey_ne)

/-! ## Logins -/

/-- A login: the name in `LoginInput`, and the address of the client. -/
structure Login where
  username : String
  clientIP : String

/-- What comes of the check of a password: it is right, it is wrong or there is no such user, or it is right and no
session could be made. -/
inductive Outcome where
  | ok | wrong | failed
  deriving DecidableEq

/-- How far a login has come. `readAt` is the time at which the counter was read, which the program does not keep. -/
inductive Call where
  | received (l : Login)
  | admitted (l : Login) (readAt : Nat)
  | checked (l : Login) (readAt : Nat) (outcome : Outcome)
  | answered (status : Nat)

/-- The table, and for each key the wrong passwords checked in its window, which the program does not keep. -/
structure Shared where
  rows : LimitRows
  wrong : Table String Nat

/-- What a step of a login finds; `cleaned` is as for the table. -/
structure Tick where
  now : Nat
  fails : Bool
  cleaned : Bool
  outcome : Outcome

structure World where
  hmac : String → String → List UInt8
  cases : CaseMap

section Handler

variable (w : World)

def World.key (l : Login) : String :=
  opaqueRateLimitKey w.hmac "authentication"
    (String.ofList ((trimSpace l.username).toList.map w.cases.lower) ++ ":" ++ l.clientIP)

/-- `5*time.Minute`. -/
def window : Nat := 300 * second

variable (tick : Tick) (s : Shared) (l : Login)

def World.isAuthBlocked : Bool :=
  tick.fails || match getSecurityRateLimitCount tick.now (w.key l) s.rows with
    | .error _ => true
    | .ok count => 5 ≤ count

def World.isOpen : Bool := (s.rows.get? (w.key l)).any fun row => !decide (row.expiresAt ≤ formatTime tick.now)

/-- The wrong passwords in the window after one more login has failed; it opens a window if there is none. -/
def World.tally (outcome : Outcome) : Nat :=
  (if w.isOpen tick s l then (s.wrong.get? (w.key l)).getD 0 else 0) + if outcome = .wrong then 1 else 0

/-- `CheckAuth` after a login that failed; its error is ignored. -/
def World.checkAuthFailed (outcome : Outcome) : Shared :=
  if tick.fails then
    if w.isOpen tick s l then { s with wrong := s.wrong.put (w.key l) (w.tally tick s l outcome) } else s
  else
    { rows := (incrementSecurityRateLimit tick.now window (w.key l) tick.cleaned s.rows).1
      wrong := s.wrong.put (w.key l) (w.tally tick s l outcome) }

/-- `CheckAuth` after a login that succeeded. -/
def World.checkAuthOk : Shared :=
  { rows := (resetSecurityRateLimit (w.key l) s.rows).1
    wrong := s.wrong.deleteWhere fun key _ => key = w.key l }

def World.next : Call → Shared × Call
  | .received l => if w.isAuthBlocked tick s l then (s, .answered 429) else (s, .admitted l tick.now)
  | .admitted l readAt => (s, .checked l readAt tick.outcome)
  | .checked l _ .ok => if tick.fails then (s, .answered 429) else (w.checkAuthOk s l, .answered 200)
  | .checked l _ outcome => (w.checkAuthFailed tick s l outcome, .answered 401)
  | .answered status => (s, .answered status)

end Handler

def World.step (w : World) : Pool Shared Call → Pool.Event Login Tick → Pool Shared Call :=
  Pool.step Call.received w.next

/-- A login that is between the reading and the writing of its counter, and when it has read it. -/
def Call.underWay : Call → Option (Login × Nat)
  | .admitted l readAt => some (l, readAt)
  | .checked l readAt _ => some (l, readAt)
  | _ => none

/-- No login is admitted while another of its key is under way; a login that fails is counted, and the window is
not open for it if it was over when the counter was read. -/
def World.fair (w : World) (p : Pool Shared Call) : Pool.Event Login Tick → Bool
  | .start _ _ => true
  | .advance n tick =>
    match p.calls.get? n with
    | some (.received l) => w.isAuthBlocked tick p.shared l ||
        p.calls.rows.all fun row => row.2.underWay.all fun other => w.key other.1 ≠ w.key l
    | some (.checked l readAt outcome) => outcome = .ok || (!tick.fails &&
        (p.shared.rows.get? (w.key l)).all fun row =>
          !decide (row.expiresAt ≤ formatTime readAt) || row.expiresAt ≤ formatTime tick.now)
    | _ => true

/-! ## One login -/

section Login

variable {w : World} {tick : Tick} {s : Shared} {l : Login}

theorem get?_increment_self (w : World) (l : Login) (now : Nat) (cleaned : Bool) (rows : LimitRows) :
    (incrementSecurityRateLimit now window (w.key l) cleaned rows).1.get? (w.key l) =
      some (upserted now window (rows.get? (w.key l))) := by
  have hvalid : ¬ (w.key l = "" ∨ window = 0) := by
    rintro (hkey | hwindow)
    · exact opaqueRateLimitKey_ne w.hmac _ _ hkey
    · exact absurd hwindow (by decide)
  rw [incrementSecurityRateLimit, if_neg hvalid]
  grind [Table.get?_deleteWhere]

variable {row : LimitRow}

theorem get?_increment_of_ne {now : Nat} {key key' : String} {cleaned : Bool} {rows : LimitRows}
    (hne : key' ≠ key) (h : (incrementSecurityRateLimit now window key cleaned rows).1.get? key' = some row) :
    rows.get? key' = some row := by
  unfold incrementSecurityRateLimit at h
  split at h
  · exact h
  simp only at h
  split at h
  · have hkept := Table.get?_of_deleteWhere h
    rw [Table.get?_put, if_neg hne] at hkept
    exact hkept
  · rw [Table.get?_put, if_neg hne] at h
    exact h

theorem get?_reset {key key' : String} {rows : LimitRows}
    (h : (resetSecurityRateLimit key rows).1.get? key' = some row) : rows.get? key' = some row := by
  grind [resetSecurityRateLimit, Table.get?_of_deleteWhere]

theorem hitCount_lt_of_admitted (h : w.isAuthBlocked tick s l = false)
    (hrow : s.rows.get? (w.key l) = some row) : row.expiresAt ≤ formatTime tick.now ∨ row.hitCount < 5 := by
  by_cases hopen : row.expiresAt ≤ formatTime tick.now
  · exact .inl hopen
  · right
    have hkey : w.key l ≠ "" := opaqueRateLimitKey_ne w.hmac _ _
    have hfilter : (some row).filter (fun r => formatTime tick.now < r.expiresAt) = some row := by
      rw [Option.filter_some, if_pos (by simpa using hopen)]
    grind [World.isAuthBlocked, getSecurityRateLimitCount]

/-- No more wrong passwords are noted than hits are counted, and at most five. -/
structure Bounded (s : Shared) : Prop where
  counted : ∀ key row, s.rows.get? key = some row → (s.wrong.get? key).getD 0 ≤ row.hitCount
  limited : ∀ key, (s.wrong.get? key).getD 0 ≤ 5

/-- What a login that is under way knows about its counter. -/
def Knows (w : World) (s : Shared) (call : Call) : Prop :=
  ∀ l readAt, call.underWay = some (l, readAt) → ∀ row, s.rows.get? (w.key l) = some row →
    row.expiresAt ≤ formatTime readAt ∨ row.hitCount < 5

theorem tally_le (h : Bounded s) {readAt : Nat}
    (hknows : ∀ row, s.rows.get? (w.key l) = some row → row.expiresAt ≤ formatTime readAt ∨ row.hitCount < 5)
    (hagree : ∀ row, s.rows.get? (w.key l) = some row → row.expiresAt ≤ formatTime readAt →
      row.expiresAt ≤ formatTime tick.now) (outcome : Outcome) :
    w.tally tick s l outcome ≤ (upserted tick.now window (s.rows.get? (w.key l))).hitCount ∧
      w.tally tick s l outcome ≤ 5 := by
  have hone : (if outcome = .wrong then 1 else 0) ≤ 1 := by
    split
    · exact le_rfl
    exact Nat.zero_le 1
  unfold World.tally World.isOpen
  cases hrow : s.rows.get? (w.key l) with
  | none =>
    grind [upserted]
  | some row =>
    have hcounted := h.counted (w.key l) row hrow
    by_cases hover : row.expiresAt ≤ formatTime tick.now
    · grind [upserted]
    · have hfew : row.hitCount < 5 := (hknows row hrow).resolve_left fun h => hover (hagree row hrow h)
      grind [upserted]

theorem bounded_checkAuthFailed (h : Bounded s) {readAt : Nat} (hfails : tick.fails = false)
    (hknows : ∀ row, s.rows.get? (w.key l) = some row → row.expiresAt ≤ formatTime readAt ∨ row.hitCount < 5)
    (hagree : ∀ row, s.rows.get? (w.key l) = some row → row.expiresAt ≤ formatTime readAt →
      row.expiresAt ≤ formatTime tick.now) (outcome : Outcome) : Bounded (w.checkAuthFailed tick s l outcome) := by
  obtain ⟨hhits, hlimit⟩ := tally_le h hknows hagree outcome
  rw [World.checkAuthFailed, hfails, if_neg Bool.false_ne_true]
  constructor
  · intro key row hrow
    simp only [Table.get?_put]
    by_cases hkey : key = w.key l
    · grind [get?_increment_self]
    · rw [if_neg hkey]
      exact h.counted key row (get?_increment_of_ne hkey hrow)
  · intro key
    simp only [Table.get?_put]
    split
    · exact hlimit
    exact h.limited key

theorem bounded_checkAuthOk (h : Bounded s) (w : World) (l : Login) : Bounded (w.checkAuthOk s l) := by
  have hless : ∀ key, ((w.checkAuthOk s l).wrong.get? key).getD 0 ≤ (s.wrong.get? key).getD 0 := by
    intro key
    simp only [World.checkAuthOk, Table.get?_deleteWhere]
    cases s.wrong.get? key with
    | none => exact le_rfl
    | some n =>
      rw [Option.filter_some]
      split
      · exact le_rfl
      exact Nat.zero_le n
  exact ⟨fun key row hrow => (hless key).trans (h.counted key row (get?_reset hrow)),
    fun key => (hless key).trans (h.limited key)⟩

end Login

/-! ## Runs -/

section Runs

variable {w : World} {tick : Tick} {s : Shared} {call : Call}

theorem next_cases (w : World) (tick : Tick) (s : Shared) (call : Call) : (w.next tick s call).1 = s ∨
    ∃ l readAt outcome, call = .checked l readAt outcome ∧ (w.next tick s call).2.underWay = none ∧
      (outcome = .ok ∧ (w.next tick s call).1 = w.checkAuthOk s l ∨
        outcome ≠ .ok ∧ (w.next tick s call).1 = w.checkAuthFailed tick s l outcome) := by
  cases call with
  | received l =>
    grind [World.next]
  | admitted l readAt | answered status => exact .inl rfl
  | checked l readAt outcome =>
    cases outcome <;> grind [World.next, Call.underWay]

theorem get?_next {key : String} {row : LimitRow} (h : (w.next tick s call).1.rows.get? key = some row)
    (hkey : ∀ l readAt, call.underWay = some (l, readAt) → w.key l ≠ key) : s.rows.get? key = some row := by
  rcases next_cases w tick s call with hsame | ⟨l, readAt, outcome, rfl, -, ⟨-, hnext⟩ | ⟨-, hnext⟩⟩
  · rw [hsame] at h
    exact h
  · rw [hnext] at h
    exact get?_reset h
  · rw [hnext, World.checkAuthFailed] at h
    split at h
    · split at h
      · exact h
      exact h
    · exact get?_increment_of_ne (fun heq => hkey l readAt rfl heq.symm) h

theorem underWay_next {l : Login} {readAt : Nat} (h : (w.next tick s call).2.underWay = some (l, readAt)) :
    (w.next tick s call).1 = s ∧ (call.underWay = some (l, readAt) ∨
      call = .received l ∧ readAt = tick.now ∧ w.isAuthBlocked tick s l = false) := by
  cases call with
  | received l' =>
    grind [World.next, Call.underWay]
  | admitted l' readAt' => exact ⟨rfl, .inl h⟩
  | checked l' readAt' outcome =>
    cases outcome <;> grind [World.next, Call.underWay]
  | answered status => cases h

/-- The bounds, what the logins under way know, and that no two of them have the same key. -/
structure Inv (w : World) (p : Pool Shared Call) : Prop where
  bounded : Bounded p.shared
  knows : ∀ n call, p.calls.get? n = some call → Knows w p.shared call
  apart : ∀ n m call other key, p.calls.get? n = some call → p.calls.get? m = some other →
    (∃ l readAt, call.underWay = some (l, readAt) ∧ w.key l = key) →
    (∃ l readAt, other.underWay = some (l, readAt) ∧ w.key l = key) → n = m

variable {p : Pool Shared Call} {e : Pool.Event Login Tick}

theorem bounded_next {n : Nat} (h : Inv w p) (hfair : w.fair p (.advance n tick) = true)
    (hcall : p.calls.get? n = some call) : Bounded (w.next tick p.shared call).1 := by
  rcases next_cases w tick p.shared call with hsame | ⟨l, readAt, outcome, rfl, -, ⟨-, hnext⟩ | ⟨hout, hnext⟩⟩
  · rw [hsame]
    exact h.bounded
  · rw [hnext]
    exact bounded_checkAuthOk h.bounded w l
  · rw [hnext]
    simp only [World.fair, hcall, hout, decide_false, Bool.false_or, Bool.and_eq_true, Bool.not_eq_true'] at hfair
    obtain ⟨hfails, hagree⟩ := hfair
    refine bounded_checkAuthFailed h.bounded hfails (h.knows n _ hcall l readAt rfl) ?_ outcome
    grind

theorem alone_of_admitted {n m : Nat} {l : Login} {other : Call} (hfair : w.fair p (.advance n tick) = true)
    (hcall : p.calls.get? n = some (.received l)) (hadmitted : w.isAuthBlocked tick p.shared l = false)
    (hother : p.calls.get? m = some other) : ¬ ∃ l' readAt, other.underWay = some (l', readAt) ∧ w.key l' = w.key l := by
  rintro ⟨l', readAt, hway, hkey⟩
  simp only [World.fair, hcall, hadmitted, Bool.false_or, List.all_eq_true] at hfair
  have hne := hfair (m, other) (Table.get?_eq_some.1 hother)
  rw [hway, Option.all_some] at hne
  exact of_decide_eq_true hne hkey

theorem inv_step (h : Inv w p) (hfair : w.fair p e = true) : Inv w (w.step p e) := by
  obtain ⟨hbounded, hknows⟩ : Bounded (w.step p e).shared ∧
      ∀ n call, (w.step p e).calls.get? n = some call → Knows w (w.step p e).shared call := by
    refine Pool.invariant_step (I := Bounded) (G := fun _ => Knows w) ?_ ?_ h.bounded h.knows
    · intro n l _ _ l' readAt hway
      cases hway
    · rintro n tick call rfl hcall hcallKnows
      refine ⟨bounded_next h hfair hcall, ?_, ?_⟩
      · grind [underWay_next, hitCount_lt_of_admitted, Knows]
      · intro m other hm hother hotherKnows l readAt hway row hrow
        refine hotherKnows l readAt hway row (get?_next hrow fun l' readAt' hway' hkey => ?_)
        exact hm (h.apart m n other call (w.key l) hother hcall ⟨l, readAt, hway, rfl⟩ ⟨l', readAt', hway', hkey⟩)
  refine ⟨hbounded, hknows, Pool.distinct_step ?_ ?_ h.apart⟩
  · rintro n l - key ⟨l', readAt, hway, -⟩
    cases hway
  grind [underWay_next, alone_of_admitted]

end Runs

def fresh (rows : LimitRows) : Pool Shared Call := ⟨⟨rows, Table.empty⟩, Table.empty⟩

/-- Five wrong passwords at most are checked for a name from an address in one window of their counter, in every run in
which no login is admitted while another of the same key is under way, failed logins are counted, and no window is open
for the failure of a login that found it over. -/
theorem wrong_passwords_le (w : World) (rows : LimitRows) (events : List (Pool.Event Login Tick))
    (hfair : Along w.step (fun p e => w.fair p e = true) (fresh rows) events) (username clientIP : String) :
    ((exec w.step (fresh rows) events).shared.wrong.get? (w.key ⟨username, clientIP⟩)).getD 0 ≤ 5 := by
  have hinv : Inv w (fresh rows) := by
    refine ⟨⟨fun _ _ _ => Nat.zero_le _, fun _ => Nat.zero_le _⟩, fun _ _ h => ?_, fun _ _ _ _ _ h => ?_⟩
    · cases h
    · cases h
  exact (hfair.invariant (fun _ _ h he => inv_step h he) hinv).bounded.limited _

def sampleWorld : World := ⟨fun _ _ => [], CaseMap.plain⟩

def sampleTick : Tick := ⟨63919886400 * second, false, true, .wrong⟩

def sampleLogin (n : Nat) : List (Pool.Event Login Tick) :=
  .start n ⟨"alice", "192.0.2.1"⟩ :: List.replicate 3 (.advance n sampleTick)

/-- Six logins one after the other; the sixth is not admitted. -/
theorem wrong_passwords_in_order :
    ((exec sampleWorld.step (fresh Table.empty) ((List.range 6).flatMap sampleLogin)).shared.wrong.get?
      (sampleWorld.key ⟨"alice", "192.0.2.1"⟩)).getD 0 ≤ 5 :=
  wrong_passwords_le sampleWorld Table.empty ((List.range 6).flatMap sampleLogin) (by decide +kernel) "alice" "192.0.2.1"

def sampleBurst : List (Pool.Event Login Tick) :=
  (List.range 20).map (fun n => .start n ⟨"alice", "192.0.2.1"⟩) ++
    (List.replicate 3 (List.range 20)).flatten.map fun n => .advance n sampleTick

/-- Twenty wrong passwords are checked at one instant. -/
theorem burst_admitted :
    ((exec sampleWorld.step (fresh Table.empty) sampleBurst).shared.wrong.get?
      (sampleWorld.key ⟨"alice", "192.0.2.1"⟩)).getD 0 = 20 := by
  decide +kernel

end GaiaCom.Auth.Throttle
