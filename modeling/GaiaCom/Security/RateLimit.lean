/-
The two limiters for critical requests: the map of shield.go and the table of
sql_store_rate_limit.go. Both are meant to count the increments of a key in its current fixed
window. The map does; the table compares printed timestamps, so it agrees as long as no clock
reading and no expiry it is compared with are one the other cut short (`limiters_agree`).
-/
import GaiaCom.Lib.FixedWindow
import GaiaCom.Lib.Run
import GaiaCom.Lib.Text
import GaiaCom.Store.Time

namespace GaiaCom.Security

open Lib Store

/-! ## The map of shield.go -/

def maxRateLimitEntries : Nat := 50000

structure CriticalRateLimitEntry where
  count : Nat
  expiresAt : Nat
  deriving DecidableEq

abbrev Critical := Table String CriticalRateLimitEntry

/-- The end of `incrementCriticalRateLimit`: an overfull map drops its expired entries, and if that
is not enough one other entry, whichever the iteration meets first (`victim`). -/
def evict (now : Nat) (key victim : String) (critical : Critical) : Critical :=
  if critical.size ≤ maxRateLimitEntries then critical
  else
    let critical := critical.deleteWhere fun candidate e => candidate ≠ key && !decide (now < e.expiresAt)
    if critical.size ≤ maxRateLimitEntries then critical
    else critical.deleteWhere fun candidate _ => candidate ≠ key && candidate = victim

def criticalEntry (now window : Nat) (entry : Option CriticalRateLimitEntry) : CriticalRateLimitEntry :=
  let entry := entry.getD ⟨0, 0⟩
  let entry := if entry.expiresAt = 0 ∨ ¬ now < entry.expiresAt then ⟨0, now + window⟩ else entry
  { entry with count := entry.count + 1 }

def incrementCriticalRateLimit (now window : Nat) (key victim : String) (critical : Critical) : Critical × Nat :=
  let entry := criticalEntry now window (critical.get? key)
  (evict now key victim (critical.put key entry), entry.count)

def criticalRateLimitCount (now : Nat) (key : String) (critical : Critical) : Critical × Nat :=
  match critical.get? key with
  | some entry => if now < entry.expiresAt then (critical, entry.count) else (critical.deleteWhere fun k _ => k = key, 0)
  | none => (critical.deleteWhere fun k _ => k = key, 0)

def resetCriticalRateLimit (key : String) (critical : Critical) : Critical := critical.deleteWhere fun k _ => k = key

/-! ## The table of sql_store_rate_limit.go -/

/-- A row of security_rate_limits, under its scope_key. -/
structure LimitRow where
  hitCount : Nat
  expiresAt : String
  deriving DecidableEq

abbrev LimitRows := Table String LimitRow

def upserted (now window : Nat) : Option LimitRow → LimitRow
  | none => ⟨1, formatTime (now + window)⟩
  | some r => if r.expiresAt ≤ formatTime now then ⟨1, formatTime (now + window)⟩ else ⟨r.hitCount + 1, r.expiresAt⟩

/-- `cleaned`: the second statement, whose error is ignored, went through. -/
def incrementSecurityRateLimit (now window : Nat) (key : String) (cleaned : Bool) (rows : LimitRows) :
    LimitRows × Except String Nat :=
  if key = "" ∨ window = 0 then (rows, .error "invalid security rate-limit request")
  else
    let row := upserted now window (rows.get? key)
    let rows := rows.put key row
    (if cleaned then rows.deleteWhere fun k r => r.expiresAt ≤ formatTime now && k ≠ key else rows, .ok row.hitCount)

def getSecurityRateLimitCount (now : Nat) (key : String) (rows : LimitRows) : Except String Nat :=
  if key = "" then .error "invalid security rate-limit request"
  else .ok ((((rows.get? key).filter fun r => formatTime now < r.expiresAt).map LimitRow.hitCount).getD 0)

def resetSecurityRateLimit (key : String) (rows : LimitRows) : LimitRows × Except String Unit :=
  if key = "" then (rows, .error "invalid security rate-limit request")
  else (rows.deleteWhere fun k _ => k = key, .ok ())

/-! ## One sequence of calls for both -/

/-- `opaqueRateLimitKey`, with the HMAC of scope and material under the node's key. -/
def opaqueRateLimitKey (hmac : String → String → List UInt8) (scope material : String) : String :=
  scope ++ ":" ++ hexEncode (hmac scope material)

inductive Call where
  | increment (scope material : String) (window : Nat) (pos : 0 < window) (victim : String) (cleaned : Bool)
  | count (scope material : String)
  | reset (scope material : String)

/-- A call, and the time since the call before it. -/
structure Timed where
  elapsed : Nat
  call : Call

/-- Both limiters, fed with the same calls, and the windows they are meant to count. -/
structure Limiters where
  clock : Nat
  critical : Critical
  rows : LimitRows
  windows : Windows String

def Limiters.init (clock : Nat) : Limiters := ⟨clock, Table.empty, Table.empty, Table.empty⟩

variable (hmac : String → String → List UInt8)

def Call.key : Call → String
  | .increment scope material _ _ _ _ | .count scope material | .reset scope material =>
    opaqueRateLimitKey hmac scope material

def Limiters.now (s : Limiters) (t : Timed) : Nat := s.clock + t.elapsed

def step (s : Limiters) (t : Timed) : Limiters :=
  let now := s.now t
  let key := t.call.key hmac
  match t.call with
  | .increment _ _ window _ victim cleaned =>
    { clock := now
      critical := (incrementCriticalRateLimit now window key victim s.critical).1
      rows := (incrementSecurityRateLimit now window key cleaned s.rows).1
      windows := s.windows.record now window key }
  | .count _ _ => { s with clock := now, critical := (criticalRateLimitCount now key s.critical).1 }
  | .reset _ _ =>
    { clock := now
      critical := resetCriticalRateLimit key s.critical
      rows := (resetSecurityRateLimit key s.rows).1
      windows := s.windows.reset key }

def criticalAnswer (s : Limiters) (t : Timed) : Except String (Option Nat) :=
  match t.call with
  | .increment _ _ window _ victim _ =>
    .ok (some (incrementCriticalRateLimit (s.now t) window (t.call.key hmac) victim s.critical).2)
  | .count _ _ => .ok (some (criticalRateLimitCount (s.now t) (t.call.key hmac) s.critical).2)
  | .reset _ _ => .ok none

def securityAnswer (s : Limiters) (t : Timed) : Except String (Option Nat) :=
  match t.call with
  | .increment _ _ window _ _ cleaned =>
    (incrementSecurityRateLimit (s.now t) window (t.call.key hmac) cleaned s.rows).2.map some
  | .count _ _ => (getSecurityRateLimitCount (s.now t) (t.call.key hmac) s.rows).map some
  | .reset _ _ => (resetSecurityRateLimit (t.call.key hmac) s.rows).2.map fun _ => none

/-- The number of increments in the key's current window, the increment of the call included. -/
def windowAnswer (s : Limiters) (t : Timed) : Option Nat :=
  match t.call with
  | .increment _ _ window _ _ _ =>
    some ((s.windows.record (s.now t) window (t.call.key hmac)).count (s.now t) (t.call.key hmac))
  | .count _ _ => some (s.windows.count (s.now t) (t.call.key hmac))
  | .reset _ _ => none

/-- Neither of the two instants is the other cut short. -/
def Apart (a b : Nat) : Prop := ¬ Shortened a b ∧ ¬ Shortened b a

instance (a b : Nat) : Decidable (Apart a b) := inferInstanceAs (Decidable (_ ∧ _))

/-- The rows a call compares with its clock hold expiries apart from it, and an increment finds
fewer live keys than the map has room for. -/
def Clear (s : Limiters) (t : Timed) : Prop :=
  match t.call with
  | .increment _ _ window _ _ _ =>
    InRange (s.now t) ∧ InRange (s.now t + window) ∧ s.windows.live (s.now t) < maxRateLimitEntries ∧
      ∀ kw ∈ s.windows.rows, (s.rows.get? kw.1).isSome → Apart (s.now t) kw.2.closes
  | .count _ _ =>
    InRange (s.now t) ∧ ∀ w ∈ s.windows.get? (t.call.key hmac), (s.rows.get? (t.call.key hmac)).isSome →
      Apart (s.now t) w.closes
  | .reset _ _ => True

instance (s : Limiters) : (t : Timed) → Decidable (Clear hmac s t)
  | ⟨elapsed, .increment _ _ window _ _ _⟩ =>
    inferInstanceAs (Decidable (InRange (s.clock + elapsed) ∧ InRange (s.clock + elapsed + window) ∧
      s.windows.live (s.clock + elapsed) < maxRateLimitEntries ∧
      ∀ kw ∈ s.windows.rows, (s.rows.get? kw.1).isSome → Apart (s.clock + elapsed) kw.2.closes))
  | ⟨elapsed, .count scope material⟩ =>
    inferInstanceAs (Decidable (InRange (s.clock + elapsed) ∧
      ∀ w ∈ s.windows.get? (opaqueRateLimitKey hmac scope material),
        (s.rows.get? (opaqueRateLimitKey hmac scope material)).isSome → Apart (s.clock + elapsed) w.closes))
  | ⟨_, .reset _ _⟩ => .isTrue trivial

/-! ## The map counts windows -/

/-- An entry of the map represents its window. -/
def CriticalRateLimitEntry.Of (e : CriticalRateLimitEntry) (w : Window) : Prop :=
  e.expiresAt = w.closes ∧ e.count = w.counted.length

variable {critical : Critical} {now : Nat} {ws : Windows String}

theorem criticalEntry_of (h : Tracks CriticalRateLimitEntry.Of now critical ws) (window : Nat) (key : String) :
    (criticalEntry now window (critical.get? key)).Of (ws.next now window key) := by
  unfold criticalEntry Windows.next
  cases he : critical.get? key with
  | none => rw [h.absent key he]; exact ⟨rfl, rfl⟩
  | some e =>
    obtain ⟨w, hw, hexp, hcount⟩ := h.present key e he
    by_cases hlive : now < w.closes
    · have hcur := Windows.current_open hw hlive
      have hnot : ¬ (e.expiresAt = 0 ∨ ¬ now < e.expiresAt) := by omega
      simp only [hcur, Option.getD_some, if_neg hnot]
      exact ⟨hexp, by simp [hcount]⟩
    · have hcur := Windows.current_closed hw (not_lt.1 hlive)
      have hyes : e.expiresAt = 0 ∨ ¬ now < e.expiresAt := by omega
      simp only [hcur, Option.getD_some, if_pos hyes]
      exact ⟨rfl, rfl⟩

variable {key : String}

theorem evict_tracks (h : Tracks CriticalRateLimitEntry.Of now critical ws) (hroom : ws.live now ≤ maxRateLimitEntries)
    (hopen : ∀ e, critical.get? key = some e → now < e.expiresAt) (victim : String) :
    Tracks CriticalRateLimitEntry.Of now (evict now key victim critical) ws := by
  unfold evict
  split
  · exact h
  have hforget : Tracks CriticalRateLimitEntry.Of now
      (critical.deleteWhere fun candidate e => candidate ≠ key && !decide (now < e.expiresAt)) ws := by
    grind [h.forget, CriticalRateLimitEntry.Of]
  -- what is left is live, and so are its windows
  have hsize : (critical.deleteWhere fun candidate e => candidate ≠ key && !decide (now < e.expiresAt)).size ≤
      maxRateLimitEntries := by
    refine le_trans (Table.size_le_of_get? fun k e he => ?_) hroom
    obtain ⟨w, hw, hexp, -⟩ := hforget.present k e he
    rw [Table.get?_deleteWhere, Option.filter_eq_some_iff] at he
    have hlt : now < e.expiresAt := by
      grind
    grind [Table.get?_deleteWhere]
  rw [if_pos hsize]
  exact hforget

variable {window : Nat}

theorem incrementCriticalRateLimit_spec
    (h : Tracks CriticalRateLimitEntry.Of now critical ws) (hroom : ws.live now < maxRateLimitEntries)
    (hpos : 0 < window) (key victim : String) :
    Tracks CriticalRateLimitEntry.Of now (incrementCriticalRateLimit now window key victim critical).1
        (ws.record now window key) ∧
      (incrementCriticalRateLimit now window key victim critical).2 = (ws.record now window key).count now key := by
  have hentry := criticalEntry_of h window key
  have hnext : now < (ws.next now window key).closes := ws.lt_next_closes hpos key
  constructor
  · refine evict_tracks (h.put key hentry) ?_ ?_ victim
    · exact (ws.live_record_le now window key).trans hroom
    grind [criticalEntry]
  · rw [Windows.count_record ws hpos key]
    exact hentry.2

theorem criticalRateLimitCount_spec (h : Tracks CriticalRateLimitEntry.Of now critical ws) (key : String) :
    Tracks CriticalRateLimitEntry.Of now (criticalRateLimitCount now key critical).1 ws ∧
      (criticalRateLimitCount now key critical).2 = ws.count now key := by
  have hdrop : (∀ e, critical.get? key = some e → e.expiresAt ≤ now) →
      Tracks CriticalRateLimitEntry.Of now (critical.deleteWhere fun k _ => k = key) ws := by
    intro hexp
    refine h.forget fun k r w hr _ hrep hp => ?_
    rw [← hrep.1]
    exact hexp r (of_decide_eq_true hp ▸ hr)
  unfold criticalRateLimitCount Windows.count
  split
  · rename_i e he
    obtain ⟨w, hw, hexp, hcount⟩ := h.present key e he
    split
    · rename_i hlive
      rw [Windows.current_open hw (hexp ▸ hlive)]
      exact ⟨h, hcount⟩
    · rename_i hlive
      rw [Windows.current_closed hw (hexp ▸ not_lt.1 hlive)]
      refine ⟨hdrop fun e' he' => ?_, rfl⟩
      rw [he] at he'
      cases he'
      exact not_lt.1 hlive
  · rename_i he
    rw [h.absent key he]
    exact ⟨hdrop fun e' he' => by (rw [he] at he'; cases he'), rfl⟩

/-! ## The table counts windows -/

/-- A row of the table represents its window. -/
def LimitRow.Of (r : LimitRow) (w : Window) : Prop := r.expiresAt = formatTime w.closes ∧ r.hitCount = w.counted.length

theorem LimitRow.Of.expired_iff {r : LimitRow} {w : Window} (h : r.Of w) (hn : InRange now)
    (hw : InRange w.closes) (hap : Apart now w.closes) : r.expiresAt ≤ formatTime now ↔ w.closes ≤ now := by
  rw [h.1, formatTime_le_iff hw hn hap.2 hap.1]

variable {rows : LimitRows}

theorem upserted_of (h : Tracks LimitRow.Of now rows ws)
    (hn : InRange now) (hrange : ∀ k w, ws.get? k = some w → InRange w.closes)
    (hap : ∀ w, ws.get? key = some w → (rows.get? key).isSome → Apart now w.closes) (window : Nat) :
    (upserted now window (rows.get? key)).Of (ws.next now window key) := by
  unfold Windows.next
  cases hr : rows.get? key with
  | none => rw [h.absent key hr]; exact ⟨rfl, rfl⟩
  | some r =>
    obtain ⟨w, hw, hrep⟩ := h.present key r hr
    have hiff := hrep.expired_iff hn (hrange key w hw) (hap w hw (by rw [hr]; rfl))
    unfold upserted
    by_cases hexp : w.closes ≤ now
    · simp only [Windows.current_closed hw hexp, if_pos (hiff.2 hexp)]
      exact ⟨rfl, rfl⟩
    · have hcur := Windows.current_open hw (not_le.1 hexp)
      simp only [hcur, if_neg (mt hiff.1 hexp)]
      exact ⟨hrep.1, by simp [hrep.2]⟩

theorem incrementSecurityRateLimit_spec
    (h : Tracks LimitRow.Of now rows ws) (hn : InRange now) (hrange : ∀ k w, ws.get? k = some w → InRange w.closes)
    (hap : ∀ k w, ws.get? k = some w → (rows.get? k).isSome → Apart now w.closes) (hpos : 0 < window)
    (hkey : key ≠ "") (cleaned : Bool) :
    Tracks LimitRow.Of now (incrementSecurityRateLimit now window key cleaned rows).1 (ws.record now window key) ∧
      (incrementSecurityRateLimit now window key cleaned rows).2 = .ok ((ws.record now window key).count now key) := by
  have hrow := upserted_of h hn hrange (hap key) window
  have hput := h.put key hrow
  unfold incrementSecurityRateLimit
  rw [if_neg (by rintro (hk | hw) <;> [exact hkey hk; exact hpos.ne' hw])]
  constructor
  · simp only
    split
    · refine hput.forget fun k r w hr hw hrep hp => ?_
      grind [hrep.expired_iff]
    · exact hput
  · rw [Windows.count_record ws hpos key, ← hrow.2]

theorem getSecurityRateLimitCount_spec
    (h : Tracks LimitRow.Of now rows ws) (hn : InRange now) (hrange : ∀ k w, ws.get? k = some w → InRange w.closes)
    (hap : ∀ w, ws.get? key = some w → (rows.get? key).isSome → Apart now w.closes) (hkey : key ≠ "") :
    getSecurityRateLimitCount now key rows = .ok (ws.count now key) := by
  unfold getSecurityRateLimitCount Windows.count
  rw [if_neg hkey]
  cases hr : rows.get? key with
  | none => rw [h.absent key hr]; rfl
  | some r =>
    obtain ⟨w, hw, hrep⟩ := h.present key r hr
    have hiff := hrep.expired_iff hn (hrange key w hw) (hap w hw (by rw [hr]; rfl))
    by_cases hexp : w.closes ≤ now
    · have hold : ¬ formatTime now < r.expiresAt := not_lt.2 (hiff.2 hexp)
      grind [Windows.current]
    · have hlive : formatTime now < r.expiresAt := not_le.1 (mt hiff.1 hexp)
      rw [Windows.current_open hw (not_le.1 hexp), Option.filter_some, if_pos (by simpa using hlive)]
      exact congrArg Except.ok hrep.2

/-! ## Agreement over a run -/

theorem opaqueRateLimitKey_ne (scope material : String) : opaqueRateLimitKey hmac scope material ≠ "" := by
  intro h
  have := congrArg (fun s => s.toList.length) h
  simp [opaqueRateLimitKey] at this

/-- Both limiters track the windows, whose ends have years of four digits. -/
structure InStep (s : Limiters) : Prop where
  critical : Tracks CriticalRateLimitEntry.Of s.clock s.critical s.windows
  rows : Tracks LimitRow.Of s.clock s.rows s.windows
  range : ∀ k w, s.windows.get? k = some w → InRange w.closes

theorem inStep_init (clock : Nat) : InStep (.init clock) where
  critical := .empty _ _
  rows := .empty _ _
  range _ _ h := by cases h

theorem range_record (h : ∀ k w, ws.get? k = some w → InRange w.closes) (hnew : InRange (now + window)) (key : String) :
    ∀ k w, (ws.record now window key).get? k = some w → InRange w.closes := by
  grind [Windows.record, Windows.next]

theorem step_spec {s : Limiters} (h : InStep s) {t : Timed} (hclear : Clear hmac s t) :
    InStep (step hmac s t) ∧ criticalAnswer hmac s t = .ok (windowAnswer hmac s t) ∧
      securityAnswer hmac s t = .ok (windowAnswer hmac s t) := by
  have hcrit := h.critical.later (Nat.le_add_right s.clock t.elapsed)
  have hrows := h.rows.later (Nat.le_add_right s.clock t.elapsed)
  obtain ⟨elapsed, call⟩ := t
  cases call with
  | increment scope material window pos victim cleaned =>
    obtain ⟨hn, hnew, hroom, hap⟩ := hclear
    have hap' : ∀ k w, s.windows.get? k = some w → (s.rows.get? k).isSome → Apart (s.clock + elapsed) w.closes :=
      fun k w hw hr => hap (k, w) (Table.get?_eq_some.1 hw) hr
    obtain ⟨hc, hcn⟩ :=
      incrementCriticalRateLimit_spec hcrit hroom pos (opaqueRateLimitKey hmac scope material) victim
    obtain ⟨hr, hrn⟩ :=
      incrementSecurityRateLimit_spec hrows hn h.range hap' pos (opaqueRateLimitKey_ne hmac scope material) cleaned
    refine ⟨⟨hc, hr, range_record h.range hnew _⟩, ?_, ?_⟩
    · exact congrArg (fun n => Except.ok (some n)) hcn
    · exact congrArg (Except.map some) hrn
  | count scope material =>
    obtain ⟨hn, hap⟩ := hclear
    obtain ⟨hc, hcn⟩ := criticalRateLimitCount_spec hcrit (opaqueRateLimitKey hmac scope material)
    have hrn := getSecurityRateLimitCount_spec hrows hn h.range hap (opaqueRateLimitKey_ne hmac scope material)
    refine ⟨⟨hc, hrows, h.range⟩, ?_, ?_⟩
    · exact congrArg (fun n => Except.ok (some n)) hcn
    · exact congrArg (Except.map some) hrn
  | reset scope material =>
    have hkey := opaqueRateLimitKey_ne hmac scope material
    have hreset : ∀ rows, resetSecurityRateLimit (opaqueRateLimitKey hmac scope material) rows =
        (rows.deleteWhere fun k _ => k = opaqueRateLimitKey hmac scope material, .ok ()) := fun rows => if_neg hkey
    refine ⟨⟨hcrit.reset _, ?_, ?_⟩, rfl, ?_⟩
    · simp only [step, Call.key, hreset]
      exact hrows.reset _
    · grind [step, Windows.reset, Table.get?_deleteWhere, Option.filter_eq_some_iff, h.range]
    · simp only [securityAnswer, Call.key, hreset]
      rfl

/-- The limiters agree: in every run of increments, counts and resets on any keys with
non-decreasing clocks and positive windows, in which no clock reading and no expiry the table
compares it with are one the other cut short and fewer than 50000 keys are live, the map and the
table answer every call with the number of increments in the key's current fixed window. -/
theorem limiters_agree (clock : Nat) (calls : List Timed) (t : Timed)
    (h : Along (step hmac) (Clear hmac) (.init clock) (calls ++ [t])) :
    criticalAnswer hmac (exec (step hmac) (.init clock) calls) t =
        .ok (windowAnswer hmac (exec (step hmac) (.init clock) calls) t) ∧
      securityAnswer hmac (exec (step hmac) (.init clock) calls) t =
        .ok (windowAnswer hmac (exec (step hmac) (.init clock) calls) t) := by
  obtain ⟨hcalls, hclear, -⟩ := along_append.1 h
  have hinv : InStep (exec (step hmac) (.init clock) calls) :=
    Along.invariant (P := InStep) (fun _ _ hs hc => (step_spec hmac hs hc).1) (inStep_init clock) hcalls
  exact (step_spec hmac hinv hclear).2

/-- A failed login counted half a second before 2026-07-17T12:00:00Z, in a window of one second. -/
def halfPast : List Timed := [⟨0, .increment "authentication" "alice" second (by decide) "" true⟩]

/-- A quarter of a second later both limiters count the second failure. -/
theorem agree_within_window :
    criticalAnswer (fun _ _ => []) (exec (step fun _ _ => []) (.init (63919886400 * second - second / 2)) halfPast)
        ⟨second / 4, .increment "authentication" "alice" second (by decide) "" true⟩ = .ok (some 2) ∧
      securityAnswer (fun _ _ => []) (exec (step fun _ _ => []) (.init (63919886400 * second - second / 2)) halfPast)
        ⟨second / 4, .increment "authentication" "alice" second (by decide) "" true⟩ = .ok (some 2) :=
  limiters_agree (fun _ _ => []) (63919886400 * second - second / 2) halfPast
    ⟨second / 4, .increment "authentication" "alice" second (by decide) "" true⟩ (by decide +kernel)

/-- At noon sharp the window is open for another half second, but the table compares its end
`12:00:00.5Z` with `12:00:00Z`, takes it for over and starts again at one. -/
theorem window_restarted_early :
    criticalAnswer (fun _ _ => []) (exec (step fun _ _ => []) (.init (63919886400 * second - second / 2)) halfPast)
        ⟨second / 2, .increment "authentication" "alice" second (by decide) "" true⟩ = .ok (some 2) ∧
      securityAnswer (fun _ _ => []) (exec (step fun _ _ => []) (.init (63919886400 * second - second / 2)) halfPast)
        ⟨second / 2, .increment "authentication" "alice" second (by decide) "" true⟩ = .ok (some 1) := by
  decide +kernel

end GaiaCom.Security
