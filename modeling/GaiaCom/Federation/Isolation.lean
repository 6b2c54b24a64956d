/-
Non-interference between origins. The replay guard is keyed by origin and id, but the maps that
are consulted first are keyed by the id alone. So whether a PDU of one origin is accepted does not
depend on what other origins sent, as long as none of their PDUs carries its id and the processed
map does not fill up (`origins_isolated`); a peer that reuses an id makes another peer's PDU be
dropped (`dropped_by_other_origin`).
-/
import GaiaCom.Federation.Receive

namespace GaiaCom.Federation

open Lib Store

/-! ## What `SaveIncomingPDU` decides -/

/-- Whether a PDU goes on to be persisted, is answered `ErrPDUAlreadyProcessed`, or fails otherwise. -/
inductive Verdict where
  | accepted | alreadyProcessed | rejected
  deriving DecidableEq, Repr

/-- `SaveIncomingPDU` up to the claim, run at once and with a working database. -/
def verdict (s : Node) (p : Pdu) : Verdict :=
  match validateIncomingPDUShape s.clock p with
  | .error _ => .rejected
  | .ok () =>
    match (enter s.clock s.memory p.pduID).2 with
    | .duplicate => .alreadyProcessed
    | .full => .rejected
    | .entered =>
      if (claimFederationPDU s.guard p.key (s.clock + 5 * minute) s.clock).2 then .accepted else .alreadyProcessed

/-! ## Runs of other origins -/

def Event.isTick : Event → Bool
  | .tick _ => true
  | _ => false

/-- The event is time passing, or an origin other than `origin` at work. -/
def FromOthers (origin : String) (s : Node) : Event → Prop
  | .tick _ => True
  | .arrive _ pdus => ∀ q ∈ pdus, q.origin ≠ origin
  | .advance i _ => ∀ x ∈ s.current i, x.1.origin ≠ origin
  | .crash => False

/-- The PDU at work, if any, does not have this id. -/
def OtherId (pduID : String) (s : Node) : Event → Prop
  | .advance i _ => ∀ x ∈ s.current i, x.1.pduID ≠ pduID
  | _ => True

instance (origin : String) (s : Node) : (e : Event) → Decidable (FromOthers origin s e)
  | .tick _ => .isTrue trivial
  | .arrive _ pdus => inferInstanceAs (Decidable (∀ q ∈ pdus, q.origin ≠ origin))
  | .advance i _ => inferInstanceAs (Decidable (∀ x ∈ s.current i, x.1.origin ≠ origin))
  | .crash => .isFalse id

instance (pduID : String) (s : Node) : (e : Event) → Decidable (OtherId pduID s e)
  | .advance i _ => inferInstanceAs (Decidable (∀ x ∈ s.current i, x.1.pduID ≠ pduID))
  | .tick _ | .arrive _ _ | .crash => .isTrue trivial

/-- The node `s` where others were at work and the node `s₀` where only time passed agree about `p`. -/
structure Agree (p : Pdu) (s s₀ : Node) : Prop where
  clock : s.clock = s₀.clock
  guard : s.guard.get? p.key = s₀.guard.get? p.key ∨
    s.guard.get? p.key = none ∧ ∃ t, s₀.guard.get? p.key = some (.completed t) ∧ t + 2 * hour < s.clock
  processed : (prune s.clock s.memory.processedPDUs).get? p.pduID = (prune s.clock s₀.memory.processedPDUs).get? p.pduID
  processing : s.memory.processingPDUs.get? p.pduID = s₀.memory.processingPDUs.get? p.pduID
  kept : ∀ k t, s₀.memory.processedPDUs.get? k = some t → s.clock ≤ t + hour →
    ∃ t', s.memory.processedPDUs.get? k = some t' ∧ t ≤ t'
  past : ∀ k t, s₀.memory.processedPDUs.get? k = some t → t ≤ s₀.clock

variable {p : Pdu} {s : Node}

theorem Agree.refl (h : ∀ k t, s.memory.processedPDUs.get? k = some t → t ≤ s.clock) : Agree p s s :=
  ⟨rfl, .inl rfl, rfl, rfl, fun _ t ht _ => ⟨t, ht, le_rfl⟩, h⟩

variable {s₀ : Node}

theorem claimable_of_agree (h : Agree p s s₀) :
    claimable s.clock (s.guard.get? p.key) = claimable s₀.clock (s₀.guard.get? p.key) := by
  rcases h.guard with heq | ⟨hn, t, ht, ho⟩
  · rw [heq, h.clock]
  · rw [hn, ht, ← h.clock]
    simp [claimable, GuardRow.outdated, ho]

theorem verdict_of_agree (h : Agree p s s₀)
    (hcap : (prune s.clock s.memory.processedPDUs).size < capacity) : verdict s p = verdict s₀ p := by
  have hsize : (prune s₀.clock s₀.memory.processedPDUs).size ≤ (prune s.clock s.memory.processedPDUs).size := by
    refine Table.size_le_of_get? fun k t ht => ?_
    rw [get?_prune, Option.filter_eq_some_iff, ← h.clock] at ht
    obtain ⟨ht, hlive⟩ := ht
    rw [Bool.not_eq_true', stale_eq_false] at hlive
    obtain ⟨t', ht', hle⟩ := h.kept k t ht hlive
    have hlive' : stale s.clock t' = false := stale_eq_false.2 (by omega)
    rw [get?_prune, ht', Option.filter_some, hlive']
    rfl
  have henter : (enter s.clock s.memory p.pduID).2 = (enter s₀.clock s₀.memory p.pduID).2 := by
    grind [h.processed, h.clock, enter, h.processing]
  grind [verdict, claimFederationPDU_snd, claimable_of_agree, h.clock]

/-! ## One step -/

theorem stale_mono {a b t : Nat} (hab : a ≤ b) (h : stale a t = true) : stale b t = true := by
  simp only [stale, decide_eq_true_eq] at *; omega

theorem get?_prune_later {a b : Nat} (hab : a ≤ b) {m m' : Table String Nat} {k : String}
    (h : (prune a m).get? k = (prune a m').get? k) : (prune b m).get? k = (prune b m').get? k := by
  have hcomp : ∀ m : Table String Nat, (prune b m).get? k = ((prune a m).get? k).filter fun t => !stale b t := by
    intro m
    rw [get?_prune, get?_prune]
    cases m.get? k with
    | none => rfl
    | some t =>
      cases h1 : stale a t with
      | true => simp only [Option.filter_some, h1, stale_mono hab h1]; rfl
      | false => simp only [Option.filter_some, h1, Bool.not_false, if_true]
  rw [hcomp, hcomp, h]

theorem agree_tick (h : Agree p s s₀) (elapsed : Nat) : Agree p (step s (.tick elapsed)) (step s₀ (.tick elapsed)) where
  clock := by simp [step, h.clock]
  guard := by
    rcases h.guard with heq | ⟨hn, t, ht, ho⟩
    · exact .inl heq
    · exact .inr ⟨hn, t, ht, by simp only [step]; omega⟩
  processed := get?_prune_later (Nat.le_add_right _ _) h.processed
  processing := h.processing
  kept k t ht hlive := h.kept k t ht (by simp only [step] at hlive; omega)
  past k t ht := Nat.le_add_right_of_le (h.past k t ht)

variable {q : Pdu}

/-- The guard's row of `p` after an action on a PDU of another origin: as before, or an outdated
record that was deleted. -/
theorem get?_guard_work_other (ok : Bool) (phase : Phase) (hne : q.origin ≠ p.origin) :
    (work s q ok phase).1.guard.get? p.key = s.guard.get? p.key ∨
      (work s q ok phase).1.guard.get? p.key = none ∧ ∃ t, s.guard.get? p.key = some (.completed t) ∧
        t + 2 * hour < s.clock := by
  have hk : p.key ≠ q.key := fun hk => hne (congrArg Prod.fst hk).symm
  rcases guard_work s q ok phase with heq | ⟨l, -, heq⟩ | heq | ⟨t, -, heq⟩
  · exact .inl (by rw [heq])
  · rw [heq, get?_claimFederationPDU]
    simp only [hk, false_and, if_false]
    cases hr : s.guard.get? p.key with
    | none => exact .inl rfl
    | some r =>
      cases ho : r.outdated s.clock with
      | false => exact .inl (by simp only [Option.filter_some, ho]; rfl)
      | true =>
        refine .inr ⟨by simp only [Option.filter_some, ho]; rfl, ?_⟩
        cases r <;> grind [GuardRow.outdated]
  · rw [heq, get?_releaseFederationPDU]
    cases s.guard.get? p.key <;> simp [hk, Option.filter]
  · rw [heq, get?_completeFederationPDU]
    cases s.guard.get? p.key <;> simp [hk]

theorem memory_work_other (ok : Bool) (phase : Phase) {pduID : String} (hne : q.pduID ≠ pduID) :
    (prune s.clock (work s q ok phase).1.memory.processedPDUs).get? pduID =
        (prune s.clock s.memory.processedPDUs).get? pduID ∧
      (work s q ok phase).1.memory.processingPDUs.get? pduID = s.memory.processingPDUs.get? pduID := by
  rcases memory_work s q ok phase with heq | heq | heq | ⟨stored, -, heq⟩
  · simp [heq]
  · rw [heq, processed_enter, get?_processing_enter _ _ _ _ hne.symm]
    refine ⟨?_, rfl⟩
    rw [get?_prune, get?_prune]
    cases s.memory.processedPDUs.get? pduID with
    | none => rfl
    | some t =>
      cases h : stale s.clock t with
      | true => simp only [Option.filter_some, h]; rfl
      | false => simp only [Option.filter_some, h, Bool.not_false, if_true]
  · rw [heq, get?_processing_unmark, if_neg hne.symm]
    exact ⟨rfl, rfl⟩
  grind [get?_processing_leave, get?_prune, get?_processed_leave]

theorem kept_work (q : Pdu) (ok : Bool) (phase : Phase) {k : String} {t : Nat}
    (ht : s.memory.processedPDUs.get? k = some t) (hlive : s.clock ≤ t + hour) :
    (work s q ok phase).1.memory.processedPDUs.get? k = some t ∨
      (work s q ok phase).1.memory.processedPDUs.get? k = some s.clock := by
  rcases memory_work s q ok phase with heq | heq | heq | ⟨stored, -, heq⟩
  · rw [heq]; exact .inl ht
  · rw [heq, processed_enter, get?_prune, ht]
    exact .inl (by simp only [Option.filter_some, stale_eq_false.2 hlive]; rfl)
  · rw [heq]; exact .inl ht
  grind [get?_processed_leave]

theorem agree_work (h : Agree p s s₀) (ok : Bool) (phase : Phase)
    (horigin : q.origin ≠ p.origin) (hid : q.pduID ≠ p.pduID) : Agree p (work s q ok phase).1 s₀ := by
  obtain ⟨hclock, -, -⟩ := work_frame s q ok phase
  obtain ⟨hprocessed, hprocessing⟩ := memory_work_other (s := s) ok phase hid
  refine ⟨hclock.trans h.clock, ?_, ?_, hprocessing.trans h.processing, fun k t ht hlive => ?_, h.past⟩
  · rw [hclock]
    rcases get?_guard_work_other (s := s) ok phase horigin with heq | ⟨hn, t, ht, ho⟩
    · rw [heq]; exact h.guard
    · rcases h.guard with heq | ⟨hn', -⟩
      · exact .inr ⟨hn, t, heq ▸ ht, ho⟩
      · rw [hn'] at ht; cases ht
  · rw [hclock, hprocessed]; exact h.processed
  · rw [hclock] at hlive
    obtain ⟨t', ht', hle⟩ := h.kept k t ht hlive
    rcases kept_work q ok phase ht' (by omega) with hk | hk
    · exact ⟨t', hk, hle⟩
    · exact ⟨s.clock, hk, h.clock ▸ h.past k t ht⟩

theorem Agree.of_eq {s' : Node} (h : Agree p s s₀) (hc : s'.clock = s.clock) (hm : s'.memory = s.memory)
    (hg : s'.guard = s.guard) : Agree p s' s₀ := by
  refine ⟨?_, ?_, ?_, ?_, ?_, h.past⟩
  · rw [hc]; exact h.clock
  · rw [hc, hg]; exact h.guard
  · rw [hc, hm]; exact h.processed
  · rw [hm]; exact h.processing
  · rw [hc, hm]; exact h.kept

theorem agree_others (h : Agree p s s₀) {e : Event} (he : e.isTick = false)
    (ho : FromOthers p.origin s e) (hid : OtherId p.pduID s e) : Agree p (step s e) s₀ := by
  cases e with
  | tick elapsed => cases he
  | arrive i pdus => exact h.of_eq rfl rfl rfl
  | crash => exact absurd ho id
  | advance i ok =>
    show Agree p (advance s i ok) s₀
    rcases advance_cases s i ok with heq | ⟨r, -, -, heq⟩ | ⟨r, q, rest, hr, ht, heq⟩
    · rw [heq]; exact h
    · rw [heq]; exact h.of_eq rfl rfl rfl
    · rw [heq]
      have hi := current_eq_some.2 ⟨r, rest, hr, ht, rfl⟩
      exact (agree_work h ok r.phase (ho _ hi) (hid _ hi)).of_eq (by simp) (by simp) (by simp)

/-! ## Runs -/

theorem agree_exec {p : Pdu} : ∀ {fs : List Event} {s s₀ : Node}, Agree p s s₀ →
    Along step (FromOthers p.origin) s fs → Along step (OtherId p.pduID) s fs →
    Agree p (exec step s fs) (exec step s₀ (fs.filter Event.isTick))
  | [], _, _, h, _, _ => h
  | e :: fs, s, s₀, h, ho, hid => by
    rw [exec_cons]
    cases he : e.isTick with
    | true =>
      rw [List.filter_cons_of_pos he, exec_cons]
      cases e with
      | tick elapsed => exact agree_exec (agree_tick h elapsed) ho.2 hid.2
      | _ => cases he
    | false =>
      rw [List.filter_cons_of_neg (by simp [he])]
      exact agree_exec (agree_others h he ho.1 hid.1) ho.2 hid.2

theorem processed_past (clock : Nat) (es : List Event) (k : String) (t : Nat)
    (h : (exec step (.init clock) es).memory.processedPDUs.get? k = some t) : t ≤ (exec step (.init clock) es).clock := by
  refine exec_invariant (P := fun s : Node => ∀ k t, s.memory.processedPDUs.get? k = some t → t ≤ s.clock)
    (fun s e hs => ?_) es (fun _ _ h => by cases h) k t h
  cases e with
  | tick elapsed => exact fun k t ht => Nat.le_add_right_of_le (hs k t ht)
  | arrive i pdus => exact hs
  | crash => exact fun _ _ h => by cases h
  | advance i ok =>
    show ∀ k t, (advance s i ok).memory.processedPDUs.get? k = some t → t ≤ (advance s i ok).clock
    rcases advance_cases s i ok with heq | ⟨r, -, -, heq⟩ | ⟨r, q, rest, -, -, heq⟩
    · rw [heq]; exact hs
    · rw [heq]; exact hs
    · rw [heq]
      intro k t ht
      rw [setRequest_memory] at ht
      rw [setRequest_clock, (work_frame s q ok r.phase).1]
      rcases get?_processed_work ht with ht | ⟨-, -, rfl⟩ <;> grind

/-- Origins are isolated: at every reachable node, for every PDU `p` and every run of requests of
other origins (with time passing) in which none of their PDUs has the id of `p` and which leaves
the processed map below its capacity, `p` is decided as it is when only the time passes. -/
theorem origins_isolated (clock : Nat) (es fs : List Event) (p : Pdu)
    (hothers : Along step (FromOthers p.origin) (exec step (.init clock) es) fs)
    (hids : Along step (OtherId p.pduID) (exec step (.init clock) es) fs)
    (hcap : (prune (exec step (.init clock) (es ++ fs)).clock
      (exec step (.init clock) (es ++ fs)).memory.processedPDUs).size < capacity) :
    verdict (exec step (.init clock) (es ++ fs)) p = verdict (exec step (.init clock) (es ++ fs.filter Event.isTick)) p := by
  grind [exec_append, verdict_of_agree, agree_exec, Agree.refl, processed_past]

/-- A PDU of another origin with another id is processed; the sample is admitted as without it. -/
theorem isolated_from_other_id :
    verdict (exec step (.init noon) ([] ++ (.arrive 0 [{ samplePdu "@mallory:b.example" 0 with
      pduID := "018f4d1e-7614-7a3a-8e37-61f0f75a0002" }] :: actions 0 10))) (samplePdu "@alice:a.example" 0) =
    verdict (exec step (.init noon) ([] ++ (.arrive 0 [{ samplePdu "@mallory:b.example" 0 with
      pduID := "018f4d1e-7614-7a3a-8e37-61f0f75a0002" }] :: actions 0 10).filter Event.isTick))
        (samplePdu "@alice:a.example" 0) :=
  origins_isolated noon [] _ (samplePdu "@alice:a.example" 0) (by decide +kernel) (by decide +kernel) (by decide +kernel)

/-- A PDU of another origin with the same id is processed; the sample is then answered as already
processed, though without it it would be accepted. -/
theorem dropped_by_other_origin :
    Along step (FromOthers (samplePdu "@alice:a.example" 0).origin) (.init noon)
        (.arrive 0 [samplePdu "@mallory:b.example" 0] :: actions 0 10) ∧
      verdict (exec step (.init noon) (.arrive 0 [samplePdu "@mallory:b.example" 0] :: actions 0 10))
        (samplePdu "@alice:a.example" 0) = .alreadyProcessed ∧
      verdict (.init noon) (samplePdu "@alice:a.example" 0) = .accepted := by
  decide +kernel

end GaiaCom.Federation
