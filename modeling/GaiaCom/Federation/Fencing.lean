/-
Fencing of replay claims. Any number of workers share federation_replay_guard; each claims a key,
and later completes or releases it. The table does not know whose claim a row is, so a worker
whose lease has run out can complete or release the claim of the worker that took over. If every
`Complete` and `Release` happens within the caller's own lease, two workers never hold a key at
once and a claim succeeds only after the claims and records before it have run out
(`fenced_while_leased`).
-/
import GaiaCom.Federation.ReplayGuard
import GaiaCom.Lib.Run

namespace GaiaCom.Federation

open Lib Store

/-! ## Workers on one table -/

/-- The table with what the workers know: the claims they hold and the completions so far. -/
structure Fleet where
  clock : Nat
  guard : Guard
  /-- The end of the lease of each claim a worker made and has not ended itself. -/
  holds : Table (Nat × GuardKey) Nat
  /-- Every completion made, with its `processed_at`. -/
  done : List (GuardKey × Nat)

def Fleet.init (clock : Nat) : Fleet := ⟨clock, Table.empty, Table.empty, []⟩

/-- What may happen; workers call `Complete` and `Release` only for claims they made. -/
inductive FleetEvent where
  | tick (elapsed : Nat)
  | claim (worker : Nat) (key : GuardKey) (leaseUntil : Nat)
  | complete (worker : Nat) (key : GuardKey) (processedAt : Nat)
  | release (worker : Nat) (key : GuardKey)

def fleetStep (s : Fleet) : FleetEvent → Fleet
  | .tick elapsed => { s with clock := s.clock + elapsed }
  | .claim worker key leaseUntil =>
    let (guard, claimed) := claimFederationPDU s.guard key leaseUntil s.clock
    { s with guard, holds := if claimed then s.holds.put (worker, key) leaseUntil else s.holds }
  | .complete worker key processedAt =>
    if (s.holds.get? (worker, key)).isNone then s
    else
      let (guard, completed) := completeFederationPDU s.guard key processedAt
      { s with
        guard
        holds := s.holds.deleteWhere fun k _ => k = (worker, key)
        done := if completed then (key, processedAt) :: s.done else s.done }
  | .release worker key =>
    if (s.holds.get? (worker, key)).isNone then s
    else
      { s with
        guard := releaseFederationPDU s.guard key
        holds := s.holds.deleteWhere fun k _ => k = (worker, key) }

/-- The worker's claim on the key is unexpired. -/
def Fleet.Live (s : Fleet) (worker : Nat) (key : GuardKey) (leaseUntil : Nat) : Prop :=
  s.holds.get? (worker, key) = some leaseUntil ∧ s.clock ≤ leaseUntil

/-- A worker ends its claim only within its own lease. -/
def WithinLease (s : Fleet) : FleetEvent → Prop
  | .complete worker key _ | .release worker key => ∀ u ∈ s.holds.get? (worker, key), s.clock ≤ u
  | _ => True

instance (s : Fleet) : (e : FleetEvent) → Decidable (WithinLease s e)
  | .complete worker key _ | .release worker key =>
    inferInstanceAs (Decidable (∀ u ∈ s.holds.get? (worker, key), s.clock ≤ u))
  | .tick _ | .claim _ _ _ => .isTrue trivial

/-! ## The invariant -/

/-- What the table says about live claims and recent completions. -/
structure Fenced (s : Fleet) : Prop where
  held : ∀ w k u, s.Live w k u → s.guard.get? k = some (.processing u)
  unique : ∀ w w' k u u', s.Live w k u → s.Live w' k u' → w = w'
  recent : ∀ k p, (k, p) ∈ s.done → s.clock ≤ p + 2 * hour → s.guard.get? k = some (.completed p)

theorem fenced_init (clock : Nat) : Fenced (.init clock) where
  held w k u h := by have := h.1; simp [Fleet.init] at this
  unique w w' k u u' h := by have := h.1; simp [Fleet.init] at this
  recent k p h := by cases h

variable {s : Fleet}

theorem fenced_tick (h : Fenced s) (elapsed : Nat) : Fenced (fleetStep s (.tick elapsed)) where
  held w k u hl := h.held w k u ⟨hl.1, Nat.le_of_add_right_le hl.2⟩
  unique w w' k u u' hl hl' :=
    h.unique w w' k u u' ⟨hl.1, Nat.le_of_add_right_le hl.2⟩ ⟨hl'.1, Nat.le_of_add_right_le hl'.2⟩
  recent k p hm hr := h.recent k p hm (Nat.le_of_add_right_le hr)

theorem free_of_claimable (h : Fenced s) {k : GuardKey} (hc : claimable s.clock (s.guard.get? k) = true) :
    (∀ w u, ¬ s.Live w k u) ∧ ∀ p, (k, p) ∈ s.done → p + 2 * hour < s.clock := by
  constructor
  · intro w u hl
    rw [h.held w k u hl] at hc
    have := hl.2
    simp only [claimable, GuardRow.outdated, GuardRow.abandoned, Bool.false_or, decide_eq_true_eq] at hc
    omega
  · intro p hm
    by_contra hlt
    rw [h.recent k p hm (by omega)] at hc
    simp only [claimable, GuardRow.outdated, GuardRow.abandoned, Bool.or_false, decide_eq_true_eq] at hc
    omega

theorem fenced_claim (h : Fenced s) (worker : Nat) (key : GuardKey) (leaseUntil : Nat) :
    Fenced (fleetStep s (.claim worker key leaseUntil)) := by
  have hsnd := claimFederationPDU_snd s.guard key leaseUntil s.clock
  have hget := get?_claimFederationPDU s.guard key leaseUntil s.clock
  have hkeep : ∀ k u, s.guard.get? k = some (.processing u) →
      ((s.guard.get? k).filter fun r => !r.outdated s.clock) = some (.processing u) := by
    intro k u hg; rw [hg]; rfl
  have hkeep' : ∀ k p, s.guard.get? k = some (.completed p) → s.clock ≤ p + 2 * hour →
      ((s.guard.get? k).filter fun r => !r.outdated s.clock) = some (.completed p) := by
    intro k p hg hr; rw [hg]; simp [Option.filter, GuardRow.outdated, hr]
  cases hc : claimable s.clock (s.guard.get? key) with
  | false =>
    refine ⟨fun w k u hl => ?_, fun w w' k u u' hl hl' => ?_, fun k p hm hr => ?_⟩
    all_goals simp only [fleetStep, Fleet.Live, hsnd, hget, hc, Bool.false_eq_true, if_false, and_false] at *
    · exact hkeep k u (h.held w k u hl)
    · exact h.unique w w' k u u' hl hl'
    · exact hkeep' k p (h.recent k p hm hr) hr
  | true =>
    obtain ⟨hfree, hold⟩ := free_of_claimable h hc
    refine ⟨fun w k u hl => ?_, fun w w' k u u' hl hl' => ?_, fun k p hm hr => ?_⟩
    all_goals simp only [fleetStep, Fleet.Live, hsnd, hget, hc, and_true, if_true, Table.get?_put,
      Prod.mk.injEq] at *
    · by_cases hk : k = key
      · subst hk
        by_cases hw : w = worker
        · simp only [hw, and_self, if_true, Option.some.injEq] at hl
          simp [hl.1]
        · simp only [hw, false_and, if_false] at hl
          exact absurd hl (hfree w u)
      · simp only [hk, and_false, if_false] at hl ⊢
        exact hkeep k u (h.held w k u hl)
    · by_cases hk : k = key
      · subst hk
        have hw : w = worker := by
          by_contra hne
          simp only [hne, false_and, if_false] at hl
          exact hfree w u hl
        have hw' : w' = worker := by
          by_contra hne
          simp only [hne, false_and, if_false] at hl'
          exact hfree w' u' hl'
        rw [hw, hw']
      · simp only [hk, and_false, if_false] at hl hl'
        exact h.unique w w' k u u' hl hl'
    · by_cases hk : k = key
      · subst hk
        have := hold p hm
        omega
      · simp only [hk, if_false]
        exact hkeep' k p (h.recent k p hm hr) hr

/-- Ending a claim within its lease: the row is the worker's own, and nobody else's claim is live. -/
theorem ending (h : Fenced s) {worker : Nat} {key : GuardKey}
    (hheld : ¬ (s.holds.get? (worker, key)).isNone = true) (hok : ∀ u ∈ s.holds.get? (worker, key), s.clock ≤ u) :
    (∃ u, s.guard.get? key = some (.processing u)) ∧ (∀ w u, s.Live w key u → w = worker) ∧
      ∀ p, (key, p) ∈ s.done → p + 2 * hour < s.clock := by
  cases hu : s.holds.get? (worker, key) with
  | none => rw [hu] at hheld; exact absurd rfl hheld
  | some u =>
    have hlive : s.Live worker key u := ⟨hu, hok u hu⟩
    have hrow := h.held worker key u hlive
    refine ⟨⟨u, hrow⟩, fun w u' hl => h.unique w worker key u' u hl hlive, fun p hm => ?_⟩
    by_contra hlt
    have := h.recent key p hm (by omega)
    rw [hrow] at this; cases this

theorem live_after_end {worker w : Nat} {key k : GuardKey} {u : Nat}
    (hl : (s.holds.deleteWhere fun x _ => x = (worker, key)).get? (w, k) = some u ∧ s.clock ≤ u) :
    s.Live w k u ∧ ¬ (w = worker ∧ k = key) := by
  obtain ⟨hg, hc⟩ := hl
  rw [Table.get?_deleteWhere, Option.filter_eq_some_iff] at hg
  refine ⟨⟨hg.1, hc⟩, ?_⟩
  rintro ⟨rfl, rfl⟩
  simp at hg

theorem fenced_complete (h : Fenced s) (worker : Nat) (key : GuardKey) (processedAt : Nat)
    (hok : WithinLease s (.complete worker key processedAt)) : Fenced (fleetStep s (.complete worker key processedAt)) := by
  simp only [fleetStep]
  by_cases hheld : (s.holds.get? (worker, key)).isNone = true
  · rw [if_pos hheld]; exact h
  · rw [if_neg hheld]
    obtain ⟨⟨u₀, hrow⟩, hown, hold⟩ := ending h hheld hok
    have hget := get?_completeFederationPDU s.guard key processedAt
    refine ⟨fun w k u hl => ?_, fun w w' k u u' hl hl' => ?_, fun k p hm hr => ?_⟩
    · obtain ⟨hl, hne⟩ := live_after_end hl
      have hk : k ≠ key := fun hk => hne ⟨hown w u (hk ▸ hl), hk⟩
      simp [hget, h.held w k u hl, hk]
    · exact h.unique w w' k u u' (live_after_end hl).1 (live_after_end hl').1
    · have hcomp : (completeFederationPDU s.guard key processedAt).2 = true := by
        rw [completeFederationPDU_snd, hrow]; rfl
      simp only [hcomp, if_true, List.mem_cons, Prod.mk.injEq] at hm
      rcases hm with ⟨rfl, rfl⟩ | hm
      · simp [hget, hrow, GuardRow.isProcessing]
      · have hk : k ≠ key := by
          rintro rfl
          have := hold p hm
          simp only at hr; omega
        simp [hget, h.recent k p hm hr, hk]

theorem fenced_release (h : Fenced s) (worker : Nat) (key : GuardKey)
    (hok : WithinLease s (.release worker key)) : Fenced (fleetStep s (.release worker key)) := by
  simp only [fleetStep]
  by_cases hheld : (s.holds.get? (worker, key)).isNone = true
  · rw [if_pos hheld]; exact h
  · rw [if_neg hheld]
    obtain ⟨-, hown, hold⟩ := ending h hheld hok
    have hget := get?_releaseFederationPDU s.guard key
    refine ⟨fun w k u hl => ?_, fun w w' k u u' hl hl' => ?_, fun k p hm hr => ?_⟩
    · obtain ⟨hl, hne⟩ := live_after_end hl
      have hk : k ≠ key := fun hk => hne ⟨hown w u (hk ▸ hl), hk⟩
      simp [hget, h.held w k u hl, hk, Option.filter]
    · exact h.unique w w' k u u' (live_after_end hl).1 (live_after_end hl').1
    · simp [hget, h.recent k p hm hr, GuardRow.isProcessing, Option.filter]

theorem fenced_step (h : Fenced s) {e : FleetEvent} (hok : WithinLease s e) : Fenced (fleetStep s e) := by
  cases e <;> grind [fenced_tick, fenced_claim, fenced_complete, fenced_release]

/-! ## Runs -/

/-- Fencing: in every run of any number of workers in which each worker ends its claims within
their leases, at every state reached
* no two workers hold an unexpired claim on one key,
* the row of an unexpired claim is that claim, neither deleted nor completed by anyone else,
* a claim that succeeds finds every claim of others expired and every completion of the key more
  than two hours old. -/
theorem fenced_while_leased (clock : Nat) (es : List FleetEvent)
    (h : Along fleetStep WithinLease (.init clock) es) :
    (∀ w w' k u u', (exec fleetStep (.init clock) es).Live w k u → (exec fleetStep (.init clock) es).Live w' k u' →
      w = w') ∧
    (∀ w k u, (exec fleetStep (.init clock) es).Live w k u →
      (exec fleetStep (.init clock) es).guard.get? k = some (.processing u)) ∧
    ∀ k leaseUntil, (claimFederationPDU (exec fleetStep (.init clock) es).guard k leaseUntil
        (exec fleetStep (.init clock) es).clock).2 = true →
      (∀ w u, ¬ (exec fleetStep (.init clock) es).Live w k u) ∧
      ∀ p, (k, p) ∈ (exec fleetStep (.init clock) es).done → p + 2 * hour < (exec fleetStep (.init clock) es).clock := by
  have hf : Fenced (exec fleetStep (.init clock) es) :=
    Along.invariant (P := Fenced) (fun _ _ hs hok => fenced_step hs hok) (fenced_init clock) h
  refine ⟨hf.unique, hf.held, fun k leaseUntil hc => ?_⟩
  rw [claimFederationPDU_snd] at hc
  exact free_of_claimable hf hc

/-- Two workers in turn on one key: the first releases within its lease, the second claims. -/
def politeRun : List FleetEvent :=
  [.claim 0 ("a.example", "id") (5 * minute), .tick second, .release 0 ("a.example", "id"),
    .claim 1 ("a.example", "id") (second + 5 * minute)]

theorem fenced_polite_run :
    (∀ w w' k u u', (exec fleetStep (.init 0) politeRun).Live w k u →
      (exec fleetStep (.init 0) politeRun).Live w' k u' → w = w') ∧
    (∀ w k u, (exec fleetStep (.init 0) politeRun).Live w k u →
      (exec fleetStep (.init 0) politeRun).guard.get? k = some (.processing u)) ∧
    ∀ k leaseUntil, (claimFederationPDU (exec fleetStep (.init 0) politeRun).guard k leaseUntil
        (exec fleetStep (.init 0) politeRun).clock).2 = true →
      (∀ w u, ¬ (exec fleetStep (.init 0) politeRun).Live w k u) ∧
      ∀ p, (k, p) ∈ (exec fleetStep (.init 0) politeRun).done → p + 2 * hour < (exec fleetStep (.init 0) politeRun).clock :=
  fenced_while_leased 0 politeRun (by decide)

/-- The first worker's lease runs out and the second takes over; then the first releases, and the
third claims. -/
def lateReleaseRun : List FleetEvent :=
  [.claim 0 ("a.example", "id") (5 * minute), .tick (5 * minute + second), .claim 1 ("a.example", "id") (11 * minute),
    .release 0 ("a.example", "id"), .claim 2 ("a.example", "id") (11 * minute)]

/-- The second and the third worker hold the key at once, both under leases that still run. -/
theorem two_live_claims :
    (exec fleetStep (.init 0) lateReleaseRun).holds.get? (1, ("a.example", "id")) = some (11 * minute) ∧
      (exec fleetStep (.init 0) lateReleaseRun).holds.get? (2, ("a.example", "id")) = some (11 * minute) ∧
      (exec fleetStep (.init 0) lateReleaseRun).clock < 11 * minute := by
  decide +kernel

end GaiaCom.Federation
