/-
What an answer 200 means. A transaction is acknowledged when each of its PDUs was saved or found
to be a duplicate. A duplicate in the processed map or under a completed record was persisted
before; one that is only being processed was not, and its claim may still be released or belong
to a process that crashed. So acknowledged PDUs are persisted in every run in which no PDU is
looked up while another request or an earlier process holds it, and no id is shared by two origins
(`accepted_persisted`).
-/
import GaiaCom.Federation.Receive

namespace GaiaCom.Federation

open Lib Store

/-! ## The invariant -/

/-- A PDU under this key has been persisted. -/
def Logged (s : Node) (key : GuardKey) : Prop := ∃ e ∈ s.log, e.key = key

/-- The request relies on the PDU at hand being persisted: it stored it, or its claim was refused. -/
def Phase.relies : Phase → Bool
  | .persisted stored | .left stored => stored
  | .completing _ => true
  | .unclaimed duplicate => duplicate
  | _ => false

def Outcome.relies : Outcome → Bool
  | .goto phase => phase.relies
  | .saved | .duplicate => true
  | .failed => false

/-- What the maps, the guard and the requests say was persisted, was. -/
structure Honest (s : Node) : Prop where
  processed : ∀ pduID t, s.memory.processedPDUs.get? pduID = some t → ∃ origin, Logged s (origin, pduID)
  completed : ∀ key t, s.guard.get? key = some (.completed t) → Logged s key
  done : ∀ i r, s.requests.get? i = some r → ∀ p ∈ r.done, Logged s p.key
  current : ∀ i p phase, s.current i = some (p, phase) → phase.relies = true → Logged s p.key
  accepted : ∀ tx ∈ s.accepted, ∀ p ∈ tx, Logged s p.key

/-- At a lookup of `p` nobody else is processing it: its id is not marked, no other origin has
used the id, and there is no unexpired claim. -/
def Unshared (s : Node) (p : Pdu) (ok : Bool) : Phase → Prop
  | .shaped => s.memory.processingPDUs.get? p.pduID = none ∧ ∀ e ∈ s.log, e.pduID = p.pduID → e.origin = p.origin
  | .claiming _ => ok = true → (s.guard.get? p.key).all (fun r => !r.isProcessing || r.abandoned s.clock) = true
  | _ => True

/-- The condition on one event: the PDU a request looks up is not shared with another. -/
def Undisputed (s : Node) : Event → Prop
  | .advance i ok => ∀ x ∈ s.current i, Unshared s x.1 ok x.2
  | _ => True

instance (s : Node) (p : Pdu) (ok : Bool) (phase : Phase) : Decidable (Unshared s p ok phase) := by
  cases phase <;> unfold Unshared <;> infer_instance

instance (s : Node) : (e : Event) → Decidable (Undisputed s e)
  | .advance i ok => inferInstanceAs (Decidable (∀ x ∈ s.current i, Unshared s x.1 ok x.2))
  | .tick _ | .arrive _ _ | .crash => .isTrue trivial

theorem honest_init (clock : Nat) : Honest (.init clock) where
  processed _ _ h := by cases h
  completed _ _ h := by cases h
  done _ _ h := by cases h
  current _ _ _ h := by cases h
  accepted _ h := by cases h

/-! ## One action -/

variable {ok : Bool} {p : Pdu} {phase : Phase} {s : Node}

theorem processed_work (h : Honest s) (hrel : phase.relies = true → Logged s p.key) (pduID : String) (t : Nat)
    (hg : (work s p ok phase).1.memory.processedPDUs.get? pduID = some t) : ∃ origin, Logged s (origin, pduID) := by
  rcases get?_processed_work hg with hg | ⟨rfl, rfl, -⟩
  · exact h.processed pduID t hg
  · exact ⟨p.origin, hrel rfl⟩

theorem completed_work (h : Honest s) (hrel : phase.relies = true → Logged s p.key) (key : GuardKey) (t : Nat)
    (hg : (work s p ok phase).1.guard.get? key = some (.completed t)) : Logged s key := by
  rcases get?_completed_work hg with hg | ⟨rfl, rfl⟩
  · exact h.completed key t hg
  · exact hrel rfl

theorem logged_of_enter_duplicate (h : Honest s) {m : Memory}
    (hc : Unshared s p ok .shaped) (he : enter s.clock s.memory p.pduID = (m, .duplicate)) : Logged s p.key := by
  obtain ⟨hproc, horigin⟩ := hc
  unfold enter at he
  dsimp only at he
  split at he
  · rename_i hs
    obtain ⟨t, ht⟩ := Option.isSome_iff_exists.1 hs
    rw [get?_prune, Option.filter_eq_some_iff] at ht
    obtain ⟨origin, e, hel, hek⟩ := h.processed _ t ht.1
    refine ⟨e, hel, ?_⟩
    have hid : e.pduID = p.pduID := congrArg Prod.snd hek
    exact Prod.ext (horigin e hel hid) hid
  grind

theorem logged_of_refused (h : Honest s) {l l' : Nat}
    (hc : Unshared s p true (.claiming l)) (hr : (claimFederationPDU s.guard p.key l' s.clock).2 = false) : Logged s p.key := by
  rw [claimFederationPDU_snd] at hr
  cases hg : s.guard.get? p.key with
  | none => rw [hg] at hr; cases hr
  | some r =>
    cases r with
    | processing u => simp_all [claimable, Unshared, GuardRow.outdated, GuardRow.isProcessing]
    | completed t => exact h.completed p.key t hg

theorem outcome_work (h : Honest s) (hrel : phase.relies = true → Logged s p.key) (hc : Unshared s p ok phase)
    (ho : (work s p ok phase).2.relies = true) : Logged (work s p ok phase).1 p.key := by
  cases phase with
  | ready =>
    simp only [work] at ho
    split at ho <;> cases ho
  | shaped =>
    rcases he : enter s.clock s.memory p.pduID with ⟨m, e⟩
    simp only [work, he] at ho ⊢
    cases e with
    | duplicate => exact logged_of_enter_duplicate (s := s) h hc he
    | full | entered => cases ho
  | entered => cases ho
  | claiming l =>
    cases ok with
    | false => cases ho
    | true =>
      cases hcl : (claimFederationPDU s.guard p.key l s.clock).2 with
      | true => simp [work, hcl, Outcome.relies, Phase.relies] at ho
      | false => exact logged_of_refused (s := s) h hc hcl
  | unclaimed dup =>
    cases dup with
    | true => exact hrel rfl
    | false => cases ho
  | claimed =>
    cases ok with
    | true => exact ⟨p.stored, List.mem_cons_self, rfl⟩
    | false => cases ho
  | persisted stored => exact hrel ho
  | left stored =>
    cases stored with
    | true => exact hrel rfl
    | false => cases ho
  | completing t =>
    cases ok with
    | false => cases ho
    | true => exact hrel rfl

/-! ## One step -/

variable {s' : Node}

theorem Logged.mono (hlog : s.log ⊆ s'.log) {key : GuardKey} (h : Logged s key) : Logged s' key := by
  obtain ⟨e, he, hk⟩ := h
  exact ⟨e, hlog he, hk⟩

/-- A request that relies on nothing but persisted PDUs. -/
structure Request.Honest (s : Node) (r : Request) : Prop where
  done : ∀ p ∈ r.done, Logged s p.key
  current : ∀ p rest, r.todo = p :: rest → r.phase.relies = true → Logged s p.key

variable {r : Request}

theorem Honest.request (h : Honest s) {i : Nat} (hr : s.requests.get? i = some r) : r.Honest s :=
  ⟨h.done i r hr, fun p rest ht => h.current i p r.phase (current_eq_some.2 ⟨r, rest, hr, ht, rfl⟩)⟩

theorem honest_of_requests
    (hp : ∀ pduID t, s.memory.processedPDUs.get? pduID = some t → ∃ origin, Logged s (origin, pduID))
    (hc : ∀ key t, s.guard.get? key = some (.completed t) → Logged s key)
    (hr : ∀ i r, s.requests.get? i = some r → r.Honest s)
    (ha : ∀ tx ∈ s.accepted, ∀ p ∈ tx, Logged s p.key) : Honest s := by
  refine ⟨hp, hc, fun i r hg => (hr i r hg).done, fun i p phase hcur hrel => ?_, ha⟩
  obtain ⟨r, rest, hg, ht, rfl⟩ := current_eq_some.1 hcur
  exact (hr i r hg).current p rest ht hrel

theorem Request.Honest.mono (hlog : s.log ⊆ s'.log) (h : r.Honest s) : r.Honest s' :=
  ⟨fun p hp => (h.done p hp).mono hlog, fun p rest ht hrel => (h.current p rest ht hrel).mono hlog⟩

theorem honest_next {rest : List Pdu} {o : Outcome} (ht : r.todo = p :: rest)
    (hdone : ∀ q ∈ r.done, Logged s' q.key) (hout : o.relies = true → Logged s' p.key) :
    ∀ r' ∈ o.next r p rest, r'.Honest s' := by
  have hnext : Logged s' p.key → Request.Honest s' ⟨r.done ++ [p], rest, .ready⟩ := by
    intro hp
    refine ⟨fun q hq => ?_, fun _ _ _ hrel => by cases hrel⟩
    rcases List.mem_append.1 hq with hq | hq
    · exact hdone q hq
    · rw [List.mem_singleton.1 hq]; exact hp
  intro r' hr'
  cases o with
  | goto phase =>
    cases hr'
    refine ⟨hdone, fun q rest' hq hrel => ?_⟩
    rw [ht] at hq; cases hq
    exact hout hrel
  | saved | duplicate => cases hr'; exact hnext (hout rfl)
  | failed => cases hr'

theorem honest_advance (h : Honest s) {i : Nat} (hc : Undisputed s (.advance i ok)) : Honest (advance s i ok) := by
  rcases advance_cases s i ok with heq | ⟨r, hr, ht, heq⟩ | ⟨r, p, rest, hr, ht, heq⟩
  · rw [heq]; exact h
  · rw [heq]
    refine honest_of_requests h.processed h.completed (fun j r' hg => ?_) ?_
    · dsimp only at hg
      rw [setRequest_get?] at hg
      split at hg
      · cases hg
      exact (h.request hg).mono (by simp)
    · intro tx htx p hp
      rcases List.mem_cons.1 htx with rfl | htx
      · exact (h.done i r hr p hp).mono (by simp)
      · exact (h.accepted tx htx p hp).mono (by simp)
  · have hcur := current_eq_some.2 ⟨r, rest, hr, ht, rfl⟩
    have hrel := h.current i p r.phase hcur
    obtain ⟨-, hreq, hacc⟩ := work_frame s p ok r.phase
    have hlog := log_subset_work s p ok r.phase
    rw [heq]
    have hlog' : (work s p ok r.phase).1.log ⊆
        ((work s p ok r.phase).1.setRequest i ((work s p ok r.phase).2.next r p rest)).log := by simp
    refine honest_of_requests (fun pduID t hg => ?_) (fun key t hg => ?_) (fun j r' hg => ?_) fun tx htx q hq => ?_
    · grind [processed_work, Logged]
    · rw [setRequest_guard] at hg
      exact ((completed_work h hrel key t hg).mono hlog).mono hlog'
    · rw [setRequest_get?, hreq] at hg
      split at hg
      · refine (honest_next ht (fun q hq => (h.done i r hr q hq).mono hlog) ?_ r' hg).mono hlog'
        exact outcome_work h hrel (hc _ hcur)
      · exact ((h.request hg).mono hlog).mono hlog'
    · rw [setRequest_accepted, hacc] at htx
      exact ((h.accepted tx htx q hq).mono hlog).mono hlog'

theorem honest_step (h : Honest s) {e : Event} (hc : Undisputed s e) : Honest (step s e) := by
  cases e with
  | tick elapsed => exact ⟨h.processed, h.completed, h.done, h.current, h.accepted⟩
  | arrive i pdus =>
    refine honest_of_requests h.processed h.completed (fun j r hg => ?_) h.accepted
    rcases get?_arrive s i pdus j r hg with hg | rfl
    · exact ⟨(h.request hg).done, (h.request hg).current⟩
    · exact ⟨by simp, by simp [Phase.relies]⟩
  | advance i ok => exact honest_advance h hc
  | crash =>
    exact honest_of_requests (fun _ _ hg => by cases hg) h.completed (fun _ _ hg => by cases hg) h.accepted

/-! ## Runs -/

/-- Acknowledged PDUs are persisted: in every run from an empty node, with any interleaving of
requests, crashes and database failures, in which no lookup of a PDU is disputed, every PDU of
every transaction answered 200 has been persisted under its origin and id. -/
theorem accepted_persisted (clock : Nat) (es : List Event) (h : Along step Undisputed (.init clock) es) :
    ∀ tx ∈ (exec step (.init clock) es).accepted, ∀ p ∈ tx,
      ∃ e ∈ (exec step (.init clock) es).log, e.origin = p.origin ∧ e.pduID = p.pduID := by
  have hh : Honest (exec step (.init clock) es) :=
    Along.invariant (P := Honest) (fun _ _ hs hok => honest_step hs hok) (honest_init clock) h
  intro tx htx p hp
  obtain ⟨e, he, hk⟩ := hh.accepted tx htx p hp
  exact ⟨e, he, congrArg Prod.fst hk, congrArg Prod.snd hk⟩

/-- A sender whose first attempt timed out sends its transaction again after it was processed. -/
theorem accepted_persisted_retry :
    (exec step (.init noon) (.arrive 0 [samplePdu "@alice:a.example" 0] :: actions 0 10 ++
        .arrive 1 [samplePdu "@alice:a.example" 0] :: actions 1 3)).accepted.length = 2 ∧
    ∀ tx ∈ (exec step (.init noon) (.arrive 0 [samplePdu "@alice:a.example" 0] :: actions 0 10 ++
        .arrive 1 [samplePdu "@alice:a.example" 0] :: actions 1 3)).accepted, ∀ p ∈ tx,
      ∃ e ∈ (exec step (.init noon) (.arrive 0 [samplePdu "@alice:a.example" 0] :: actions 0 10 ++
        .arrive 1 [samplePdu "@alice:a.example" 0] :: actions 1 3)).log, e.origin = p.origin ∧ e.pduID = p.pduID :=
  ⟨by decide +kernel, accepted_persisted noon _ (by decide +kernel)⟩

/-- The retry arrives while the first attempt is being processed. It is answered 200; then the first
attempt fails to persist the PDU and releases it. The transaction is acknowledged and nothing of
it is stored. -/
theorem acknowledged_then_lost :
    (exec step (.init noon) (.arrive 0 [samplePdu "@alice:a.example" 0] :: actions 0 4 ++
      .arrive 1 [samplePdu "@alice:a.example" 0] :: actions 1 3 ++ .advance 0 false :: actions 0 2)).accepted =
        [[samplePdu "@alice:a.example" 0]] ∧
    (exec step (.init noon) (.arrive 0 [samplePdu "@alice:a.example" 0] :: actions 0 4 ++
      .arrive 1 [samplePdu "@alice:a.example" 0] :: actions 1 3 ++ .advance 0 false :: actions 0 2)).log = [] := by
  decide +kernel

end GaiaCom.Federation
