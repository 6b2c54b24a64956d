/-
Runs of a state machine: a step function folded over a list of events, conditions on every event
of a run in the state it happens in, and the induction rules that turn what one step keeps into
what a whole run keeps.
-/
import Mathlib.Tactic.Basic

namespace Lib

variable {σ ι : Type}

def exec (step : σ → ι → σ) (s : σ) (es : List ι) : σ := es.foldl step s

/-- Every event of the run satisfies `ok` in the state it happens in. -/
def Along (step : σ → ι → σ) (ok : σ → ι → Prop) : σ → List ι → Prop
  | _, [] => True
  | s, e :: es => ok s e ∧ Along step ok (step s e) es

instance Along.decidable (step : σ → ι → σ) (ok : σ → ι → Prop) [∀ s e, Decidable (ok s e)] :
    ∀ (s : σ) (es : List ι), Decidable (Along step ok s es)
  | _, [] => .isTrue trivial
  | s, e :: es => @instDecidableAnd _ _ _ (Along.decidable step ok (step s e) es)

variable {step : σ → ι → σ}

@[simp, grind =] theorem exec_nil (s : σ) : exec step s [] = s := rfl

@[simp, grind =] theorem exec_cons (s : σ) (e : ι) (es : List ι) : exec step s (e :: es) = exec step (step s e) es := rfl

theorem exec_append (s : σ) (es fs : List ι) : exec step s (es ++ fs) = exec step (exec step s es) fs :=
  List.foldl_append

variable {es : List ι} {s : σ}

theorem along_append {ok : σ → ι → Prop} {fs : List ι} :
    Along step ok s (es ++ fs) ↔ Along step ok s es ∧ Along step ok (exec step s es) fs := by
  induction es generalizing s with
  | nil => simp [Along]
  | cons e es ih => simp only [List.cons_append, Along, exec_cons, ih, and_assoc]

theorem Along.imp {ok ok' : σ → ι → Prop} (h : ∀ s e, ok s e → ok' s e)
    (ha : Along step ok s es) : Along step ok' s es := by
  induction es generalizing s with
  | nil => trivial
  | cons e es ih => exact ⟨h s e ha.1, ih ha.2⟩

theorem Along.and {ok ok' : σ → ι → Prop} (h : Along step ok s es) (h' : Along step ok' s es) :
    Along step (fun s e => ok s e ∧ ok' s e) s es := by
  induction es generalizing s with
  | nil => trivial
  | cons e es ih => exact ⟨⟨h.1, h'.1⟩, ih h.2 h'.2⟩

theorem along_of_forall_mem {ok : σ → ι → Prop} (h : ∀ e ∈ es, ∀ s, ok s e) : Along step ok s es := by
  induction es generalizing s with
  | nil => trivial
  | cons e es ih => exact ⟨h e List.mem_cons_self s, ih fun e' he => h e' (List.mem_cons_of_mem _ he)⟩

theorem Along.invariant {ok : σ → ι → Prop} {P : σ → Prop} (hstep : ∀ s e, P s → ok s e → P (step s e)) (hs : P s)
    (ha : Along step ok s es) : P (exec step s es) := by
  induction es generalizing s with
  | nil => exact hs
  | cons e es ih => exact ih (hstep s e hs ha.1) ha.2

/-- What follows for an allowed step from an invariant, follows for every step of a run of allowed steps. -/
theorem Along.imp_of_invariant {ok ok' : σ → ι → Prop} {P : σ → Prop}
    (hstep : ∀ s e, P s → ok s e → P (step s e)) (himp : ∀ s e, P s → ok s e → ok' s e) (hs : P s)
    (ha : Along step ok s es) : Along step ok' s es := by
  induction es generalizing s with
  | nil => trivial
  | cons e es ih => exact ⟨himp s e hs ha.1, ih (hstep s e hs ha.1) ha.2⟩

/-- What a step keeps exactly if it is allowed, a run keeps exactly if all its steps are allowed; `I` is kept by all. -/
theorem exec_iff_along {ok : σ → ι → Prop} {I P : σ → Prop} (hI : ∀ s e, I s → I (step s e))
    (hstep : ∀ s e, I s → (P (step s e) ↔ P s ∧ ok s e)) (hs : I s) (es : List ι) :
    P (exec step s es) ↔ P s ∧ Along step ok s es := by
  induction es generalizing s with
  | nil => exact (and_iff_left trivial).symm
  | cons e es ih => rw [exec_cons, ih (hI s e hs), hstep s e hs, and_assoc, Along]

theorem exec_invariant {P : σ → Prop} (hstep : ∀ s e, P s → P (step s e)) (es : List ι)
    (hs : P s) : P (exec step s es) := by
  induction es generalizing s with
  | nil => exact hs
  | cons e es ih => exact ih (hstep s e hs)

end Lib
