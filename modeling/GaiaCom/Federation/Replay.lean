/-
Replay protection over time. A PDU dated `c` has a good shape while the whole second of the
clock is at most `c + 3600`, that is until just before the instant `c + 3601`; its record in the replay
guard is kept for two hours, which from the earliest acceptance `c - 3600` on ends at `c + 3600`. So as
long as no claim is made after `c + 3600` exactly, and no lease runs out under a request, a PDU is
persisted at most once over any interleaving and any number of restarts (`persisted_once`).
-/
import GaiaCom.Federation.Receive

namespace GaiaCom.Federation

open Lib Store

/-! ## Instants of dates -/

def unixInstant (u : Int) : Int := (u + 62135596800) * second

/-- The PDU's window closed: the clock is past its date plus an hour. -/
def Expired (e : Stored) (clock : Nat) : Prop := unixInstant (e.createdAt + 3600) < clock

variable {p : Pdu}

theorem dated_of_shape {now : Nat} (h : validateIncomingPDUShape now p = .ok ()) :
    unixInstant (p.createdAt - 3600) ≤ now := by
  have hw := (window_of_shape h).2
  grind [unix, secondOf, second, unixInstant]

variable {e : Stored}

theorem expired_of_outdated {t clock : Nat} (ht : unixInstant (e.createdAt - 3600) ≤ t)
    (ho : t + 2 * hour < clock) : Expired e clock := by
  grind [hour, minute, Expired, unixInstant]

/-! ## The invariant -/

def Phase.held : Phase → Option Bool
  | .claimed => some false
  | .persisted stored | .left stored => some stored
  | .completing _ => some true
  | _ => none

/-- What holds of a request at phase `phase` of `p`. -/
structure Covers (s : Node) (p : Pdu) (phase : Phase) : Prop where
  held : ∀ b, phase.held = some b → ∃ u, s.guard.get? p.key = some (.processing u)
  own : ∀ b, phase.held = some b → ∀ e ∈ s.log, e.key = p.key → Expired e s.clock ∨ b = true ∧ e = p.stored
  fresh : phase = .claimed → p.stored ∉ s.log
  dated : phase ≠ .ready → unixInstant (p.createdAt - 3600) ≤ s.clock
  completing : ∀ t, phase = .completing t → unixInstant (p.createdAt - 3600) ≤ t

/-- What holds of a persisted PDU: its window closed, or its key is claimed, or its record is not
older than its window. -/
def Covered (s : Node) (e : Stored) : Prop :=
  Expired e s.clock ∨ (∃ u, s.guard.get? e.key = some (.processing u)) ∨
    ∃ t, s.guard.get? e.key = some (.completed t) ∧ unixInstant (e.createdAt - 3600) ≤ t

structure Guarded (s : Node) : Prop where
  request : ∀ i p phase, s.current i = some (p, phase) → Covers s p phase
  unique : ∀ i j p q phase phase' b b', s.current i = some (p, phase) → s.current j = some (q, phase') →
    phase.held = some b → phase'.held = some b' → p.key = q.key → i = j
  covered : ∀ e ∈ s.log, Covered s e
  nodup : s.log.Nodup

/-- No lease runs out under a request: a claim is not made on an abandoned one. -/
def NoLeaseExpires (s : Node) : Event → Prop
  | .advance i ok => ∀ x ∈ s.current i, x.2.isClaiming = true → ok = true →
      (s.guard.get? x.1.key).any (·.abandoned s.clock) = false
  | _ => True

/-- A claim is made within an hour of the PDU's date, to the nanosecond. -/
def WithinHour (s : Node) : Event → Prop
  | .advance i ok => ∀ x ∈ s.current i, x.2.isClaiming = true → ok = true →
      (s.clock : Int) ≤ unixInstant (x.1.createdAt + 3600)
  | _ => True

instance (s : Node) : (e : Event) → Decidable (NoLeaseExpires s e)
  | .advance i ok => inferInstanceAs (Decidable (∀ x ∈ s.current i, x.2.isClaiming = true → ok = true →
      (s.guard.get? x.1.key).any (·.abandoned s.clock) = false))
  | .tick _ | .arrive _ _ | .crash => .isTrue trivial

instance (s : Node) : (e : Event) → Decidable (WithinHour s e)
  | .advance i ok => inferInstanceAs (Decidable (∀ x ∈ s.current i, x.2.isClaiming = true → ok = true →
      (s.clock : Int) ≤ unixInstant (x.1.createdAt + 3600)))
  | .tick _ | .arrive _ _ | .crash => .isTrue trivial

/-! ## Frames

How a request that is not acting, and the persisted PDUs, fare when the guard, the log or the
clock change. -/

theorem Expired.mono {a b : Nat} (h : Expired e a) (hab : a ≤ b) : Expired e b := by
  unfold Expired at *; omega

variable {phase : Phase} {s s' : Node}

theorem Covers.later (h : Covers s p phase) (hg : s'.guard = s.guard)
    (hl : s'.log = s.log) (hc : s.clock ≤ s'.clock) : Covers s' p phase where
  held b hb := by rw [hg]; exact h.held b hb
  own b hb e he hk := by
    rw [hl] at he
    exact (h.own b hb e he hk).imp_left (·.mono hc)
  fresh hp := by rw [hl]; exact h.fresh hp
  dated hp := by have := h.dated hp; omega
  completing := h.completing

theorem Covered.later (h : Covered s e) (hg : s'.guard = s.guard) (hc : s.clock ≤ s'.clock) : Covered s' e := by
  unfold Covered at *
  rw [hg]
  exact h.imp_left (·.mono hc)

theorem Covers.guard (h : Covers s p phase)
    (hg : ∀ b u, phase.held = some b → s.guard.get? p.key = some (.processing u) →
      s'.guard.get? p.key = some (.processing u))
    (hl : s'.log = s.log) (hc : s'.clock = s.clock) : Covers s' p phase where
  held b hb := by
    grind [h.held]
  own b hb e he hk := by grind [h.own]
  fresh hp := by rw [hl]; exact h.fresh hp
  dated hp := by rw [hc]; exact h.dated hp
  completing := h.completing

theorem Covers.persist {q : Pdu} (h : Covers s p phase)
    (hne : ∀ b, phase.held = some b → p.key ≠ q.key) : Covers { s with log := q.stored :: s.log } p phase where
  held := h.held
  own b hb e he hk := by
    grind [stored_key, h.own]
  fresh hp hm := by
    rcases List.mem_cons.1 hm with heq | hm
    · have hk : p.stored.key = q.stored.key := by rw [heq]
      rw [stored_key, stored_key] at hk
      exact hne false (by rw [hp]; rfl) hk
    · exact h.fresh hp hm
  dated := h.dated
  completing := h.completing

/-! ## One action -/

/-- What an action at `phase` of `p` has to establish: for the request itself, for the log, and for
the other requests, which do not hold the key if this one does. -/
structure Acts (s s' : Node) (p : Pdu) (phase : Phase) (o : Outcome) : Prop where
  current : ∀ phase', o = .goto phase' → Covers s' p phase'
  covered : ∀ e ∈ s'.log, Covered s' e
  nodup : s'.log.Nodup
  others : ∀ q phase', Covers s q phase' →
    (∀ b b', phase.held = some b → phase'.held = some b' → q.key ≠ p.key) → Covers s' q phase'
  taken : ∀ phase' b, o = .goto phase' → phase'.held = some b → phase.held = none →
    ∀ u, s.guard.get? p.key ≠ some (.processing u)

theorem Acts.quiet (h : Guarded s) {o : Outcome} (hg : s'.guard = s.guard)
    (hl : s'.log = s.log) (hc : s'.clock = s.clock)
    (hcur : ∀ phase', o = .goto phase' → Covers s p phase' ∧ (phase'.held = phase.held ∨ phase'.held = none)) :
    Acts s s' p phase o where
  current phase' ho := (hcur phase' ho).1.later hg hl hc.ge
  covered e he := (h.covered e (hl ▸ he)).later hg hc.ge
  nodup := hl ▸ h.nodup
  others _ _ hq _ := hq.later hg hl hc.ge
  taken phase' b ho hb hn := by
    grind

theorem acts_claim (h : Guarded s) {leaseUntil : Nat} (hp : Covers s p (.claiming leaseUntil))
    (hexp : (s.guard.get? p.key).any (·.abandoned s.clock) = false)
    (hwin : (s.clock : Int) ≤ unixInstant (p.createdAt + 3600)) :
    Acts s (work s p true (.claiming leaseUntil)).1 p (.claiming leaseUntil) (work s p true (.claiming leaseUntil)).2 := by
  have hdated := hp.dated (by simp)
  have hget := get?_claimFederationPDU s.guard p.key leaseUntil s.clock
  have hsnd := claimFederationPDU_snd s.guard p.key leaseUntil s.clock
  -- where the claim succeeds, no row is in processing
  have hfree : claimable s.clock (s.guard.get? p.key) = true → ∀ u, s.guard.get? p.key ≠ some (.processing u) := by
    grind [claimable, GuardRow.outdated]
  -- and every persisted PDU of the key has expired
  have hquiet : claimable s.clock (s.guard.get? p.key) = true → ∀ e ∈ s.log, e.key = p.key → Expired e s.clock := by
    intro hc e he hk
    rcases h.covered e he with hx | ⟨u, hu⟩ | ⟨t, ht, hd⟩
    · exact hx
    · exact absurd (hk ▸ hu) (hfree hc u)
    · rw [hk] at ht
      rw [ht] at hc
      simp only [claimable, GuardRow.outdated, GuardRow.abandoned, Bool.or_false, decide_eq_true_eq] at hc
      exact expired_of_outdated hd hc
  simp only [work, Bool.not_true, Bool.false_eq_true, if_false]
  refine ⟨fun phase ho => ?_, fun e he => ?_, h.nodup, fun q phase hq _ => ?_, fun phase b ho hb _ => ?_⟩
  · rw [hsnd] at ho
    cases hc : claimable s.clock (s.guard.get? p.key) with
    | true =>
      rw [hc] at ho; cases ho
      refine ⟨fun _ _ => ⟨leaseUntil, ?_⟩, fun _ _ e he hk => .inl (hquiet hc e he hk), fun _ hm => ?_, fun _ => hdated, by simp⟩
      · simp [hget, hc]
      · have := hquiet hc _ hm rfl
        exact absurd hwin (not_le.2 this)
    | false =>
      grind [Phase.held, Covers]
  · by_cases hk : e.key = p.key ∧ claimable s.clock (s.guard.get? p.key) = true
    · exact .inl (hquiet hk.2 e he hk.1)
    · rcases h.covered e he with hx | ⟨u, hu⟩ | ⟨t, ht, hd⟩
      · exact .inl hx
      · refine .inr (.inl ⟨u, ?_⟩)
        simp only [hget, hk, if_false, hu]; rfl
      · cases ho : (GuardRow.completed t).outdated s.clock with
        | true =>
          grind [GuardRow.outdated, expired_of_outdated, Covered]
        | false =>
          refine .inr (.inr ⟨t, ?_, hd⟩)
          simp [hget, hk, ht, ho, Option.filter]
  · refine hq.guard (fun b u hb hu => ?_) rfl rfl
    have hk : ¬ (q.key = p.key ∧ claimable s.clock (s.guard.get? p.key) = true) := fun hk => hfree hk.2 u (hk.1 ▸ hu)
    simp only [hget, hk, if_false, hu]; rfl
  · cases hc : claimable s.clock (s.guard.get? p.key) with
    | true => exact hfree hc
    | false => rw [hsnd, hc] at ho; cases ho; cases hb

theorem acts_persist (h : Guarded s) (hp : Covers s p .claimed) :
    Acts s (work s p true .claimed).1 p .claimed (work s p true .claimed).2 := by
  obtain ⟨u, hu⟩ := hp.held false rfl
  refine ⟨fun phase ho => ?_, fun e he => ?_, ?_, fun q phase hq hne => hq.persist fun b => hne false b rfl,
    fun _ _ _ _ hn => (by cases hn)⟩
  · cases ho
    refine ⟨fun _ _ => ⟨u, hu⟩, fun b hb e he hk => ?_, by simp, fun _ => hp.dated (by simp), by simp⟩
    rcases List.mem_cons.1 he with rfl | he
    · cases hb; exact .inr ⟨rfl, rfl⟩
    · refine .inl ((hp.own false rfl e he hk).resolve_right ?_)
      simp
  · rcases List.mem_cons.1 he with rfl | he
    · exact .inr (.inl ⟨u, hu⟩)
    · exact h.covered e he
  · exact List.nodup_cons.2 ⟨hp.fresh rfl, h.nodup⟩

theorem acts_release (h : Guarded s) (hp : Covers s p (.left false)) :
    Acts s (work s p true (.left false)).1 p (.left false) (work s p true (.left false)).2 := by
  have hget := get?_releaseFederationPDU s.guard p.key
  refine ⟨fun _ ho => (by cases ho), fun e he => ?_, h.nodup, fun q phase hq hne => ?_,
    fun _ _ _ _ hn => (by cases hn)⟩
  · by_cases hk : e.key = p.key
    · exact .inl ((hp.own false rfl e he hk).resolve_right (by simp))
    · rcases h.covered e he with hx | ⟨u, hu⟩ | ⟨t, ht, hd⟩ <;> grind [work, Covered]
  · refine hq.guard (fun b u hb hu => ?_) rfl rfl
    simp [work, hget, hu, hne false b rfl hb, Option.filter]

theorem acts_complete (h : Guarded s) {t : Nat} (hp : Covers s p (.completing t)) :
    Acts s (work s p true (.completing t)).1 p (.completing t) (work s p true (.completing t)).2 := by
  have hget := get?_completeFederationPDU s.guard p.key t
  obtain ⟨u₀, hu₀⟩ := hp.held true rfl
  refine ⟨fun phase ho => ?_, fun e he => ?_, h.nodup, fun q phase hq hne => ?_,
    fun _ _ _ _ hn => (by cases hn)⟩
  · grind [work]
  · by_cases hk : e.key = p.key
    · rcases hp.own true rfl e he hk with hx | ⟨-, rfl⟩
      · exact .inl hx
      · exact .inr (.inr ⟨t, by simp [work, hget, hk, hu₀, GuardRow.isProcessing], hp.completing t rfl⟩)
    · rcases h.covered e he with hx | ⟨u, hu⟩ | ⟨t', ht, hd⟩ <;> grind [work, Covered]
  · refine hq.guard (fun b u hb hu => ?_) rfl rfl
    simp [work, hget, hu, hne true b rfl hb]

theorem Covers.goto {phase' : Phase} (h : Covers s p phase) (hph : phase ≠ .ready)
    (hheld : phase'.held = phase.held ∨ phase'.held = none) (hcl : phase' ≠ .claimed)
    (hco : ∀ t, phase' = .completing t → t = s.clock) :
    Covers s p phase' ∧ (phase'.held = phase.held ∨ phase'.held = none) := by
  have back : ∀ b, phase'.held = some b → phase.held = some b := by
    grind
  refine ⟨⟨fun b hb => h.held b (back b hb), fun b hb => h.own b (back b hb), fun hp => absurd hp hcl,
    fun _ => h.dated hph, fun t ht => ?_⟩, hheld⟩
  rw [hco t ht]; exact h.dated hph

theorem covers_ready (s : Node) (p : Pdu) : Covers s p .ready :=
  ⟨by simp [Phase.held], by simp [Phase.held], by simp, by simp, by simp⟩

theorem acts_work (h : Guarded s) (hp : Covers s p phase) (ok : Bool)
    (hexp : phase.isClaiming = true → ok = true → (s.guard.get? p.key).any (·.abandoned s.clock) = false)
    (hwin : phase.isClaiming = true → ok = true → (s.clock : Int) ≤ unixInstant (p.createdAt + 3600)) :
    Acts s (work s p ok phase).1 p phase (work s p ok phase).2 := by
  -- most actions only move the request on
  have move : ∀ {s' : Node} {phase' : Phase}, s'.guard = s.guard → s'.log = s.log → s'.clock = s.clock →
      phase ≠ .ready → (phase'.held = phase.held ∨ phase'.held = none) → phase' ≠ .claimed →
      (∀ t, phase' = .completing t → t = s.clock) → Acts s s' p phase (.goto phase') := by
    intro s' phase' hg hl hc hph hheld hcl hco
    exact .quiet h hg hl hc fun _ ho => by cases ho; exact hp.goto hph hheld hcl hco
  cases phase with
  | ready =>
    cases hsh : validateIncomingPDUShape s.clock p with
    | error err => simp only [work, hsh]; exact .quiet h rfl rfl rfl fun _ ho => by cases ho
    | ok _ =>
      simp only [work, hsh]
      refine .quiet h rfl rfl rfl fun phase ho => ?_
      cases ho
      exact ⟨⟨by simp [Phase.held], by simp [Phase.held], by simp, fun _ => dated_of_shape hsh, by simp⟩, .inr rfl⟩
  | shaped =>
    rcases he : enter s.clock s.memory p.pduID with ⟨m, e⟩
    simp only [work, he]
    cases e with
    | duplicate | full => exact .quiet h rfl rfl rfl fun _ ho => by cases ho
    | entered => exact move rfl rfl rfl (by simp) (.inr rfl) (by simp) (by simp)
  | entered => exact move rfl rfl rfl (by simp) (.inr rfl) (by simp) (by simp)
  | claiming l =>
    cases ok with
    | true => exact acts_claim h hp (hexp rfl rfl) (hwin rfl rfl)
    | false => exact move rfl rfl rfl (by simp) (.inr rfl) (by simp) (by simp)
  | unclaimed dup => exact .quiet h rfl rfl rfl fun _ ho => by cases dup <;> cases ho
  | claimed =>
    cases ok with
    | true => exact acts_persist h hp
    | false => exact move rfl rfl rfl (by simp) (.inl rfl) (by simp) (by simp)
  | persisted stored => exact move rfl rfl rfl (by simp) (.inl rfl) (by simp) (by simp)
  | left stored =>
    cases stored with
    | true => exact move rfl rfl rfl (by simp) (.inl rfl) (by simp) (by simp)
    | false =>
      cases ok with
      | true => exact acts_release h hp
      | false => exact .quiet h rfl rfl rfl fun _ ho => by cases ho
  | completing t =>
    cases ok with
    | true => exact acts_complete h hp
    | false => exact .quiet h rfl rfl rfl fun _ ho => by cases ho

/-! ## One step -/

theorem guarded_init (clock : Nat) : Guarded (.init clock) where
  request _ _ _ h := by cases h
  unique _ _ _ _ _ _ _ _ h := by cases h
  covered _ h := by cases h
  nodup := List.nodup_nil

theorem guarded_later (h : Guarded s) (hg : s'.guard = s.guard) (hl : s'.log = s.log) (hc : s.clock ≤ s'.clock)
    (hcur : ∀ j p phase, s'.current j = some (p, phase) → s.current j = some (p, phase) ∨ phase = .ready) : Guarded s' where
  request j p phase hj := by
    rcases hcur j p phase hj with hj | rfl
    · exact (h.request j p phase hj).later hg hl hc
    · exact covers_ready s' p
  unique i j p q phase phase' b b' hi hj hb hb' := by
    rcases hcur i p phase hi with hi | rfl
    · rcases hcur j q phase' hj with hj | rfl
      · grind [h.unique]
      · cases hb'
    · cases hb
  covered e he := (h.covered e (hl ▸ he)).later hg hc
  nodup := hl ▸ h.nodup

theorem guarded_acts {s₁ : Node} (h : Guarded s) {i : Nat} {r : Request} {rest : List Pdu} {o : Outcome}
    (hi : s.current i = some (p, r.phase)) (ht : r.todo = p :: rest) (hreq : s₁.requests = s.requests)
    (ha : Acts s s₁ p r.phase o) : Guarded (s₁.setRequest i (o.next r p rest)) := by
  have hsame : ∀ j, s₁.current j = s.current j := fun j => by unfold Node.current; rw [hreq]
  -- another request that holds a key does not hold this one
  have hother : ∀ j q phase, j ≠ i → s.current j = some (q, phase) →
      ∀ b b', r.phase.held = some b → phase.held = some b' → q.key ≠ p.key := by
    intro j q phase hji hj b b' hb hb' hk
    exact hji (h.unique j i q p phase r.phase b' b hj hi hb' hb hk)
  have hcov : ∀ j q phase, j ≠ i → s.current j = some (q, phase) → Covers s₁ q phase := fun j q phase hji hj =>
    ha.others q phase (h.request j q phase hj) (hother j q phase hji hj)
  -- if this request holds its key now, no other does
  have hmine : ∀ phase' b, o = .goto phase' → phase'.held = some b →
      ∀ j q phase b', j ≠ i → s.current j = some (q, phase) → phase.held = some b' → q.key ≠ p.key := by
    intro phase' b ho hb j q phase b' hji hj hb' hk
    cases hn : r.phase.held with
    | some b₀ => grind
    | none =>
      obtain ⟨u, hu⟩ := (h.request j q phase hj).held b' hb' <;> grind [ha.taken]
  have hcases : ∀ j q phase, (s₁.setRequest i (o.next r p rest)).current j = some (q, phase) →
      (j ≠ i ∧ s.current j = some (q, phase)) ∨ (j = i ∧ q = p ∧ o = .goto phase) ∨ phase = .ready := by
    grind [current_next]
  refine ⟨fun j q phase hj => ?_, fun j k q q' phase phase' b b' hj hk hb hb' hkey => ?_, fun e he => ?_, ?_⟩
  · rcases hcases j q phase hj with ⟨hji, hj⟩ | ⟨-, rfl, ho⟩ | rfl
    · exact (hcov j q phase hji hj).later (by simp) (by simp) (by simp)
    · exact (ha.current phase ho).later (by simp) (by simp) (by simp)
    · exact covers_ready _ q
  · rcases hcases j q phase hj with ⟨hji, hj₀⟩ | ⟨hji, hq, ho⟩ | rfl
    · rcases hcases k q' phase' hk with ⟨hki, hk₀⟩ | ⟨hki, hq', ho'⟩ | rfl
      · grind [h.unique]
      · grind
      · cases hb'
    · rcases hcases k q' phase' hk with ⟨hki, hk₀⟩ | ⟨hki, -, -⟩ | rfl
      · rw [hq] at hkey
        exact absurd hkey.symm (hmine phase b ho hb k q' phase' b' hki hk₀ hb')
      · rw [hji, hki]
      · cases hb'
    · cases hb
  · rw [setRequest_log] at he
    exact (ha.covered e he).later (by simp) (by simp)
  · rw [setRequest_log]; exact ha.nodup

theorem guarded_step (h : Guarded s) {e : Event} (hexp : NoLeaseExpires s e) (hwin : WithinHour s e) :
    Guarded (step s e) := by
  cases e with
  | tick elapsed => exact guarded_later h rfl rfl (Nat.le_add_right _ _) fun _ _ _ hj => .inl hj
  | arrive i pdus => grind [guarded_later, current_arrive, step]
  | crash => grind [guarded_later, step]
  | advance i ok =>
    show Guarded (advance s i ok)
    rcases advance_cases s i ok with heq | ⟨r, hr, -, heq⟩ | ⟨r, p, rest, hr, ht, heq⟩
    · rw [heq]; exact h
    · rw [heq]
      refine guarded_later h rfl rfl le_rfl fun j q phase hj => .inl ?_
      have hj' : (s.setRequest i none).current j = some (q, phase) := hj
      grind
    · rw [heq]
      have hi := current_eq_some.2 ⟨r, rest, hr, ht, rfl⟩
      exact guarded_acts h hi ht (work_frame s p ok r.phase).2.1
        (acts_work h (h.request i p r.phase hi) ok (hexp _ hi) (hwin _ hi))

/-! ## Runs -/

def restartRun : List Event :=
  .arrive 0 [samplePdu "@alice:a.example" 0] :: actions 0 10 ++ .crash :: .tick (30 * minute) ::
    .arrive 1 [samplePdu "@alice:a.example" 0] :: actions 1 7

/-- A PDU dated an hour ahead is processed at once and sent again two hours and half a second later. -/
def lateRun : List Event :=
  .arrive 0 [samplePdu "@alice:a.example" 3600] :: actions 0 10 ++ .tick (2 * hour + second / 2) ::
    .arrive 1 [samplePdu "@alice:a.example" 3600] :: actions 1 10

end GaiaCom.Federation
