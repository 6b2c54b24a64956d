/-
Fixed-window counting: the first event of a key opens a window of a given length, the events until
it closes are counted, and the next event opens a new one. `Tracks` says when a store that may
forget closed windows, and may keep a window in any representation, still answers like the
windows themselves; the lemmas say that recording, resetting and forgetting keep it so.
-/
import GaiaCom.Lib.Table

namespace Lib

/-- A window with the instants counted in it, the latest first. -/
structure Window where
  closes : Nat
  counted : List Nat
  deriving DecidableEq

/-- The last window of every key. -/
abbrev Windows (κ : Type) := Table κ Window

namespace Windows

variable {κ : Type} [DecidableEq κ]

def current (ws : Windows κ) (now : Nat) (k : κ) : Option Window := (ws.get? k).filter fun w => now < w.closes

def next (ws : Windows κ) (now length : Nat) (k : κ) : Window :=
  match ws.current now k with
  | some w => { w with counted := now :: w.counted }
  | none => ⟨now + length, [now]⟩

def record (ws : Windows κ) (now length : Nat) (k : κ) : Windows κ := ws.put k (ws.next now length k)

def count (ws : Windows κ) (now : Nat) (k : κ) : Nat := ((ws.current now k).map fun w => w.counted.length).getD 0

def reset (ws : Windows κ) (k : κ) : Windows κ := ws.deleteWhere fun k' _ => k' = k

def live (ws : Windows κ) (now : Nat) : Nat := (ws.deleteWhere fun _ w => w.closes ≤ now).size

variable {k : κ} {now : Nat} {w : Window} {ws : Windows κ}

@[grind =]
theorem current_eq_some : ws.current now k = some w ↔ ws.get? k = some w ∧ now < w.closes := by
  unfold current; rw [Option.filter_eq_some_iff]; simp

theorem current_eq_none : ws.current now k = none ↔ ∀ w, ws.get? k = some w → w.closes ≤ now := by
  unfold current; rw [Option.filter_eq_none_iff]; simp

theorem current_open (hw : ws.get? k = some w) (h : now < w.closes) : ws.current now k = some w :=
  current_eq_some.2 ⟨hw, h⟩

theorem current_closed (hw : ws.get? k = some w) (h : w.closes ≤ now) : ws.current now k = none := by
  grind [current]

theorem lt_next_closes (ws : Windows κ) {length : Nat} (hpos : 0 < length) (k : κ) :
    now < (ws.next now length k).closes := by
  unfold next
  split
  · rename_i w hw; exact (current_eq_some.1 hw).2
  exact Nat.lt_add_of_pos_right hpos

theorem count_record (ws : Windows κ) {length : Nat} (hpos : 0 < length) (k : κ) :
    (ws.record now length k).count now k = (ws.next now length k).counted.length := by
  grind [count, current, record, next]

theorem live_record_le (ws : Windows κ) (now length : Nat) (k : κ) :
    (ws.record now length k).live now ≤ ws.live now + 1 := by
  calc (ws.record now length k).live now
      ≤ ((ws.deleteWhere fun _ w => w.closes ≤ now).put k (ws.next now length k)).size := by
        refine Table.size_le_of_get? fun k' w hw => ?_
        rw [Table.get?_deleteWhere, record, Table.get?_put] at hw
        rw [Table.get?_put, Table.get?_deleteWhere]
        split
        · rfl
        rename_i hk; rw [if_neg hk] at hw; rw [hw]; rfl
    _ ≤ ws.live now + 1 := Table.size_put_le _ _ _

end Windows

/-! ## Stores that track windows -/

variable {κ ρ : Type} [DecidableEq κ]

/-- Each stored row represents the window of its key, and a key without a row has no open window. -/
structure Tracks (rep : ρ → Window → Prop) (now : Nat) (store : Table κ ρ) (ws : Windows κ) : Prop where
  present : ∀ k r, store.get? k = some r → ∃ w, ws.get? k = some w ∧ rep r w
  absent : ∀ k, store.get? k = none → ws.current now k = none

namespace Tracks

variable {rep : ρ → Window → Prop} {now : Nat} {store : Table κ ρ} {ws : Windows κ}

theorem empty (rep : ρ → Window → Prop) (now : Nat) : Tracks rep now (Table.empty : Table κ ρ) Table.empty where
  present _ _ h := by cases h
  absent _ _ := rfl

theorem later (h : Tracks rep now store ws) {now' : Nat} (hle : now ≤ now') : Tracks rep now' store ws where
  present := h.present
  absent k hk := Windows.current_eq_none.2 fun w hw => Nat.le_trans (Windows.current_eq_none.1 (h.absent k hk) w hw) hle

theorem put (h : Tracks rep now store ws) (k : κ) {r : ρ} {w : Window} (hr : rep r w) :
    Tracks rep now (store.put k r) (ws.put k w) := by
  grind [Windows.current, Tracks]

theorem reset (h : Tracks rep now store ws) (k : κ) :
    Tracks rep now (store.deleteWhere fun k' _ => k' = k) (ws.reset k) := by
  have hget : ∀ {α : Type} (t : Table κ α) (k' : κ),
      (t.deleteWhere fun k' _ => k' = k).get? k' = if k' = k then none else t.get? k' := by
    intro α t k'
    rw [Table.get?_deleteWhere]
    by_cases hk : k' = k <;> cases t.get? k' <;> simp [hk]
  constructor
  · grind [h.present, Windows.reset]
  · intro k' hk'
    rw [hget] at hk'
    unfold Windows.current
    rw [Windows.reset, hget]
    split
    · rfl
    rename_i hk; rw [if_neg hk] at hk'; exact h.absent k' hk'

theorem forget (h : Tracks rep now store ws) {p : κ → ρ → Bool}
    (hp : ∀ k r w, store.get? k = some r → ws.get? k = some w → rep r w → p k r = true → w.closes ≤ now) :
    Tracks rep now (store.deleteWhere p) ws := by
  constructor
  · grind [Table.get?_deleteWhere, Option.filter_eq_some_iff, h.present]
  · intro k hk
    rw [Table.get?_deleteWhere] at hk
    cases hr : store.get? k with
    | none => exact h.absent k hr
    | some r =>
      grind [h.present, Windows.current]

end Tracks

end Lib
