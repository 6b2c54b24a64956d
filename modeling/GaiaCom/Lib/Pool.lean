/-
Calls that run side by side over a shared state. A call is what it has still to do; each of its
steps is atomic and may change the shared state, and the steps of all calls come in any order.
Proofs over all interleavings go through `Pool.invariant`: what a step of one call does to the
shared state, to that call and to every other call.
-/
import GaiaCom.Lib.Run
import GaiaCom.Lib.Table

namespace Lib

/-- A shared state and the calls over it, each under its number. -/
structure Pool (σ κ : Type) where
  shared : σ
  calls : Table Nat κ

namespace Pool

/-- A call begins, or takes a step with what the world provides for it. -/
inductive Event (α τ : Type) where
  | start (n : Nat) (request : α)
  | advance (n : Nat) (tick : τ)

variable {σ κ α τ : Type} (init : α → κ) (next : τ → σ → κ → σ × κ)

def step (p : Pool σ κ) : Event α τ → Pool σ κ
  | .start n request => { p with calls := p.calls.insertOrIgnore n (init request) }
  | .advance n tick =>
    match p.calls.get? n with
    | none => p
    | some call => ⟨(next tick p.shared call).1, p.calls.put n (next tick p.shared call).2⟩

variable {init next}

@[simp, grind =] theorem shared_start (p : Pool σ κ) (n : Nat) (request : α) :
    (step init next p (.start n request : Event α τ)).shared = p.shared := rfl

variable {call : κ} {n : Nat} {p : Pool σ κ}

theorem step_advance {tick : τ} (h : p.calls.get? n = some call) : step init next p (.advance n tick) =
      ⟨(next tick p.shared call).1, p.calls.put n (next tick p.shared call).2⟩ := by
  simp only [step, h]

theorem step_idle (tick : τ) (h : p.calls.get? n = none) : step init next p (.advance n tick : Event α τ) = p := by
  simp only [step, h]

theorem get?_start {m : Nat} {request : α}
    (h : (step init next p (.start n request : Event α τ)).calls.get? m = some call) :
    p.calls.get? m = some call ∨ call = init request := by
  rcases Table.get?_of_insertOrIgnore h with hold | ⟨-, hnew⟩ <;> grind

theorem get?_start_of_some {m : Nat} (request : α) (h : p.calls.get? m = some call) :
    (step init next p (.start n request : Event α τ)).calls.get? m = some call := by
  grind [step, Table.get?_insertOrIgnore]

/-- An event is the start of a call, a step of a call that has begun, or nothing. -/
theorem step_cases {P : Pool σ κ → Prop} {e : Event α τ} (h : P p)
    (hstart : ∀ n request, e = .start n request → P (step init next p (.start n request)))
    (hadvance : ∀ n tick call, e = .advance n tick → p.calls.get? n = some call → P (step init next p (.advance n tick))) :
    P (step init next p e) := by
  cases e with
  | start n request => exact hstart n request rfl
  | advance n tick =>
    cases hcall : p.calls.get? n with
    | none => rwa [step_idle tick hcall]
    | some call => exact hadvance n tick call rfl hcall

theorem shared_step {P : σ → Prop} {e : Event α τ} (h : P p.shared)
    (hnext : ∀ n tick call, e = .advance n tick → p.calls.get? n = some call → P (next tick p.shared call).1) :
    P (step init next p e).shared := by
  refine step_cases (P := fun p => P p.shared) h (fun _ _ _ => h) fun n tick call he hcall => ?_
  rw [step_advance hcall]
  exact hnext n tick call he hcall

/-- A property of the shared state and of every call in it is kept by an event if it holds of new calls, and a
step of one call gives it to the new state and the call and does not take it from the others. -/
theorem invariant_step {I : σ → Prop} {G : Nat → σ → κ → Prop} {e : Event α τ}
    (hstart : ∀ n request, e = .start n request → p.calls.get? n = none → G n p.shared (init request))
    (hnext : ∀ n tick call, e = .advance n tick → p.calls.get? n = some call → G n p.shared call →
      I (next tick p.shared call).1 ∧ G n (next tick p.shared call).1 (next tick p.shared call).2 ∧
        ∀ m other, m ≠ n → p.calls.get? m = some other → G m p.shared other →
          G m (next tick p.shared call).1 other)
    (hI : I p.shared) (hG : ∀ n call, p.calls.get? n = some call → G n p.shared call) : I (step init next p e).shared ∧
      ∀ n call, (step init next p e).calls.get? n = some call → G n (step init next p e).shared call := by
  cases e with
  | start n request =>
    refine ⟨hI, fun m call hm => ?_⟩
    simp only [step, Table.get?_insertOrIgnore] at hm
    split at hm
    · rename_i hmn
      subst hmn
      rw [Option.some.injEq] at hm
      cases hold : p.calls.get? m with
      | none | some old =>
        grind
    · exact hG m call hm
  | advance n tick =>
    cases hcall : p.calls.get? n with
    | none => simpa only [step_idle tick hcall] using ⟨hI, hG⟩
    | some call =>
      obtain ⟨hI', hown, hothers⟩ := hnext n tick call rfl hcall (hG n call hcall)
      rw [step_advance hcall]
      refine ⟨hI', fun m other hm => ?_⟩
      simp only [Table.get?_put] at hm
      split at hm
      · rename_i hmn
        subst hmn
        exact Option.some.inj hm ▸ hown
      · rename_i hmn
        exact hothers m other hmn hm (hG m other hm)

/-- What no two calls have at once, no two calls have after an event if a new call and a step get only what no other
call has. -/
theorem distinct_step {β : Type} {K : κ → β → Prop} {e : Event α τ}
    (hstart : ∀ n request, e = .start n request → ∀ b, K (init request) b →
      ∀ m other, p.calls.get? m = some other → ¬ K other b)
    (hnext : ∀ n tick call, e = .advance n tick → p.calls.get? n = some call → ∀ b, K (next tick p.shared call).2 b →
      K call b ∨ ∀ m other, m ≠ n → p.calls.get? m = some other → ¬ K other b)
    (h : ∀ n m call other b, p.calls.get? n = some call → p.calls.get? m = some other → K call b → K other b → n = m) :
    ∀ n m call other b, (step init next p e).calls.get? n = some call → (step init next p e).calls.get? m = some other →
      K call b → K other b → n = m := by
  intro i j a a' b hi hj hKi hKj
  cases e with
  | start n request =>
    rcases Table.get?_of_insertOrIgnore hi with hi | ⟨hin, rfl⟩
    · rcases Table.get?_of_insertOrIgnore hj with hj | ⟨-, rfl⟩ <;> grind
    · rcases Table.get?_of_insertOrIgnore hj with hj | ⟨hjn, -⟩ <;> grind
  | advance n tick =>
    cases hcall : p.calls.get? n with
    | none =>
      grind [step_idle]
    | some call =>
      rw [step_advance hcall, Table.get?_put] at hi hj
      -- against a call that takes no part in the step
      have hnew : ∀ m other, m ≠ n → p.calls.get? m = some other → K (next tick p.shared call).2 b → ¬ K other b := by
        grind
      split at hi
      · grind
      rename_i hin
      split at hj
      · grind
      exact h i j a a' b hi hj hKi hKj

/-! ## A call that runs alone -/

def alone (next : τ → σ → κ → σ × κ) (s : σ) (call : κ) (ticks : List τ) : σ × κ :=
  ticks.foldl (fun r tick => next tick r.1 r.2) (s, call)

theorem alone_invariant_of_mem {I : σ → κ → Prop} {ticks : List τ}
    (hnext : ∀ tick ∈ ticks, ∀ s call, I s call → I (next tick s call).1 (next tick s call).2) {s : σ}
    (h : I s call) : I (alone next s call ticks).1 (alone next s call ticks).2 := by
  unfold alone
  induction ticks generalizing s call <;> grind

theorem alone_invariant {I : σ → κ → Prop} (hnext : ∀ tick s call, I s call → I (next tick s call).1 (next tick s call).2)
    {s : σ} (h : I s call) (ticks : List τ) : I (alone next s call ticks).1 (alone next s call ticks).2 :=
  alone_invariant_of_mem (fun tick _ => hnext tick) h

theorem exec_advances (h : p.calls.get? n = some call) (ticks : List τ) :
    (exec (step init next) p (ticks.map (.advance n))).shared = (alone next p.shared call ticks).1 ∧
      (exec (step init next) p (ticks.map (.advance n))).calls.get? n = some (alone next p.shared call ticks).2 ∧
      ∀ m, m ≠ n → (exec (step init next) p (ticks.map (.advance n))).calls.get? m = p.calls.get? m := by
  induction ticks generalizing p call with
  | nil => exact ⟨rfl, h, fun _ _ => rfl⟩
  | cons tick ticks ih =>
    rw [List.map_cons, exec_cons, step_advance h]
    have hput : (p.calls.put n (next tick p.shared call).2).get? n = some (next tick p.shared call).2 := by simp
    obtain ⟨hshared, hcall, hothers⟩ :=
      ih (p := ⟨(next tick p.shared call).1, p.calls.put n (next tick p.shared call).2⟩) hput
    refine ⟨hshared, hcall, fun m hm => ?_⟩
    rw [hothers m hm, Table.get?_put, if_neg hm]

theorem exec_alone (h : p.calls.get? n = none) (request : α) (ticks : List τ) :
    (exec (step init next) p (.start n request :: ticks.map (.advance n))).shared =
        (alone next p.shared (init request) ticks).1 ∧
      (exec (step init next) p (.start n request :: ticks.map (.advance n))).calls.get? n =
        some (alone next p.shared (init request) ticks).2 ∧
      ∀ m, m ≠ n → (exec (step init next) p (.start n request :: ticks.map (.advance n))).calls.get? m =
        p.calls.get? m := by
  have hbegun : (step init next p (.start n request)).calls.get? n = some (init request) := by simp [step, h]
  obtain ⟨hshared, hcall, hothers⟩ := @exec_advances _ _ _ _ init next _ _ _ hbegun ticks
  refine ⟨hshared, hcall, fun m hm => ?_⟩
  rw [exec_cons, hothers m hm]
  simp [step, hm]

end Pool

end Lib
