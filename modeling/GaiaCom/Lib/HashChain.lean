/-
Hash chains: lists of records of which each names the hash of the record before it, the first one
a fixed genesis hash.
-/
import Mathlib.Data.List.Nodup
import Mathlib.Tactic.Basic

namespace Lib

variable {ρ η : Type}

/-- The first record names `genesis`, and every later one the hash of the record right before it. -/
def Linked (prev hash : ρ → η) : η → List ρ → Prop
  | _, [] => True
  | genesis, r :: rs => prev r = genesis ∧ Linked prev hash (hash r) rs

def tip (hash : ρ → η) (genesis : η) (rs : List ρ) : η := (rs.getLast?.map hash).getD genesis

theorem tip_cons (hash : ρ → η) (genesis : η) (r : ρ) (rs : List ρ) :
    tip hash genesis (r :: rs) = tip hash (hash r) rs := by
  unfold tip
  cases rs with
  | nil => rfl
  | cons r' rs => rw [List.getLast?_cons_cons, List.getLast?_cons]; rfl

variable {genesis : η} {hash prev : ρ → η} {rs : List ρ}

theorem linked_concat {r : ρ} (h : Linked prev hash genesis rs)
    (hr : prev r = tip hash genesis rs) : Linked prev hash genesis (rs ++ [r]) := by
  induction rs generalizing genesis with
  | nil => exact ⟨hr, trivial⟩
  | cons x rs ih => exact ⟨h.1, ih h.2 (by rw [hr, tip_cons])⟩

theorem Linked.map_prev (h : Linked prev hash genesis rs) : rs.map prev = (genesis :: rs.map hash).dropLast := by
  induction rs generalizing genesis with
  | nil => rfl
  | cons x rs ih => rw [List.map_cons, h.1, ih h.2, List.map_cons, List.dropLast_cons_cons]

theorem Linked.nodup_prev (h : Linked prev hash genesis rs)
    (hn : (genesis :: rs.map hash).Nodup) : (rs.map prev).Nodup := by
  rw [h.map_prev]
  exact (List.dropLast_sublist _).nodup hn

end Lib
