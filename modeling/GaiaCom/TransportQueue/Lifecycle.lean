/-
The state machine of an outbox row over whole runs. One lemma for each statement says what it
makes of a row it selects; from these, every run keeps each row well formed (`Row.WF`) and only
ever extends it (`Row.Extends`), and the theorem `outbox_rows` puts together what that means for
attempts, terminal states, lease owners, deliveries and the stored envelope.
-/
import GaiaCom.TransportQueue.Outbox

namespace GaiaCom.TransportQueue

open Lib Store

variable {τ : Type} {c : TimeColumn τ} {sha256 : List UInt8 → Digest}

/-! ## Rows -/

/-- What holds of every row of a reachable outbox. -/
structure Row.WF (c : TimeColumn τ) (r : Row τ) : Prop where
  attempts_le : r.attempts ≤ maxAttempts
  owner_iff : r.leaseOwner ≠ "" ↔ r.status = .leased
  delivered : r.status = .delivered →
    ∃ via : Transport, via.validSingle = true ∧ r.deliveredVia = via.name ∧ r.allowedTransports &&& via = via
  expires : ∃ t, r.expiresAt = c.format t

/-- The columns `Enqueue` wrote and nothing else writes. -/
structure Row.SameEnvelope (r r' : Row τ) : Prop where
  recipient : r'.recipient = r.recipient
  payload : r'.payload = r.payload
  payloadHash : r'.payloadHash = r.payloadHash
  signature : r'.signature = r.signature
  allowedTransports : r'.allowedTransports = r.allowedTransports

/-- `r'` is what a later statement may have made of `r`. -/
structure Row.Extends (r r' : Row τ) : Prop where
  envelope : r.SameEnvelope r'
  attempts_le : r.attempts ≤ r'.attempts
  terminal : r.status.terminal = true → r' = r

theorem Row.Extends.refl (r : Row τ) : r.Extends r := ⟨⟨rfl, rfl, rfl, rfl, rfl⟩, le_rfl, fun _ => rfl⟩

theorem Row.Extends.trans {r₁ r₂ r₃ : Row τ} (h : r₁.Extends r₂) (h' : r₂.Extends r₃) : r₁.Extends r₃ where
  envelope := by
    grind [h.envelope, h'.envelope, SameEnvelope]
  attempts_le := h.attempts_le.trans h'.attempts_le
  terminal ht := by
    grind [h.terminal, h'.terminal]

variable {r r' : Row τ}

theorem Row.Extends.of_open (ho : r.status.terminal = false) (he : r.SameEnvelope r')
    (ha : r.attempts ≤ r'.attempts) : r.Extends r' :=
  ⟨he, ha, fun ht => by rw [ho] at ht; cases ht⟩

theorem Row.open_of_owner (hw : r.WF c) (h : r.leaseOwner ≠ "") : r.status.terminal = false := by
  rw [hw.owner_iff.1 h]; rfl

/-! ## Tables -/

/-- Every row is well formed. -/
def WF (c : TimeColumn τ) (s : Outbox τ) : Prop := ∀ id r, s.get? id = some r → r.WF c

/-- `s'` has every row of `s`, extended. -/
def Extends (s s' : Outbox τ) : Prop := ∀ id r, s.get? id = some r → ∃ r', s'.get? id = some r' ∧ r.Extends r'

theorem Extends.refl (s : Outbox τ) : Extends s s := fun _ r h => ⟨r, h, .refl r⟩

theorem Extends.trans {s₁ s₂ s₃ : Outbox τ} (h : Extends s₁ s₂) (h' : Extends s₂ s₃) : Extends s₁ s₃ := by
  intro id r hr
  obtain ⟨r₂, hr₂, e₂⟩ := h id r hr
  obtain ⟨r₃, hr₃, e₃⟩ := h' id r₂ hr₂
  exact ⟨r₃, hr₃, e₂.trans e₃⟩

variable {s : Outbox τ}

theorem updateWhere_spec {p : String → Row τ → Bool} {f : Row τ → Row τ} (hw : WF c s)
    (h : ∀ id r, p id r = true → r.WF c → (f r).WF c ∧ r.Extends (f r)) :
    WF c (s.updateWhere p f) ∧ Extends s (s.updateWhere p f) := by
  constructor
  · grind [Table.get?_updateWhere, Option.map_eq_some_iff, WF]
  · intro id r hr
    rw [Table.get?_updateWhere, hr]
    refine ⟨_, rfl, ?_⟩
    dsimp only
    split
    · rename_i hp; exact (h id r hp (hw id r hr)).2
    exact .refl r

theorem wf_empty : WF c (Table.empty : Outbox τ) := fun _ _ h => by cases h

variable {id : String}

theorem attempts_updateWhere {p : String → Row τ → Bool} {f : Row τ → Row τ}
      (hr : s.get? id = some r) (hr' : (s.updateWhere p f).get? id = some r')
    (hf : ∀ r, (f r).attempts = r.attempts) : r'.attempts = r.attempts := by
  grind [Table.get?_updateWhere]

/-! ## What each statement makes of a row -/

theorem newRow_wf (e : Envelope) : (newRow c e).WF c where
  attempts_le := Nat.zero_le _
  owner_iff := by simp [newRow]
  delivered := by simp [newRow]
  expires := ⟨_, rfl⟩

variable {now : Nat}

theorem failIntegrity_spec (h : r.leaseOwner ≠ "") (hw : r.WF c) :
    (failIntegrity c now r).WF c ∧ r.Extends (failIntegrity c now r) :=
  ⟨⟨hw.attempts_le, by simp [failIntegrity], by simp [failIntegrity], hw.expires⟩,
    .of_open (r.open_of_owner hw h) ⟨rfl, rfl, rfl, rfl, rfl⟩ le_rfl⟩

variable {lease : Lease}

theorem putBack_spec {status : Status} (hs : status = .pending ∨ status = .deadLetter)
    (errorCode : String) (nextAttempt now : Nat) (h : deferrable lease r = true) (hw : r.WF c) :
    (putBack c status errorCode nextAttempt now r).WF c ∧
      r.Extends (putBack c status errorCode nextAttempt now r) := by
  simp only [deferrable, Bool.and_eq_true, beq_iff_eq] at h
  have ho : r.status.terminal = false := by rw [h.1]; rfl
  refine ⟨⟨hw.attempts_le, ?_, ?_, hw.expires⟩, .of_open ho ⟨rfl, rfl, rfl, rfl, rfl⟩ le_rfl⟩
  · rcases hs with rfl | rfl <;> simp [putBack]
  · rcases hs with rfl | rfl <;> simp [putBack]

theorem enqueue_spec (hw : WF c s) (e : Envelope) :
    WF c (enqueue c sha256 s e).1 ∧ Extends s (enqueue c sha256 s e).1 := by
  unfold enqueue
  split
  · exact ⟨hw, .refl s⟩
  split
  · rename_i h
    simp only [Bool.and_eq_true, Option.isNone_iff_eq_none] at h
    constructor
    · intro id r hr
      rw [Table.get?_insertOrIgnore] at hr
      split at hr
      · rw [h.2] at hr; cases hr; exact newRow_wf e
      exact hw id r hr
    · intro id r hr
      refine ⟨r, ?_, .refl r⟩
      rw [Table.get?_insertOrIgnore]
      split
      · rename_i hk; rw [hk, h.2] at hr; cases hr
      exact hr
  · exact ⟨hw, .refl s⟩

theorem defer_spec (hw : WF c s) (lease : Lease) (errorCode : String) (nextAttempt : Nat)
    (deadLetter : Bool) (now : Nat) : WF c (defer c lease errorCode nextAttempt deadLetter now s).1 ∧
      Extends s (defer c lease errorCode nextAttempt deadLetter now s).1 := by
  unfold defer
  split
  · exact ⟨hw, .refl s⟩
  split
  · exact ⟨hw, .refl s⟩
  refine updateWhere_spec hw fun id r hp => ?_
  refine putBack_spec ?_ _ _ _ (Bool.and_eq_true_iff.1 hp).2
  split
  · exact .inr rfl
  exact .inl rfl

@[grind →]
theorem scanTransportLease_ok (h : scanTransportLease c id r = .ok lease) :
    lease.id = id ∧ lease.attempts = r.attempts ∧ lease.owner = r.leaseOwner ∧
      lease.allowedTransports = r.allowedTransports ∧ lease.leaseUntil = c.parse r.leaseUntil ∧
      lease.expiresAt = c.parse r.expiresAt := by
  unfold scanTransportLease at h
  split at h
  · cases h
  split at h
  · cases h
  cases h; exact ⟨rfl, rfl, rfl, rfl, rfl, rfl⟩

variable [LinearOrder τ]

theorem giveUp_spec (h : swept c now r = true) (hw : r.WF c) : (giveUp c now r).WF c ∧ r.Extends (giveUp c now r) := by
  have ho : r.status.terminal = false := by
    simp only [swept, Bool.and_eq_true, Bool.or_eq_true, beq_iff_eq] at h
    rcases h.1 with hs | hs <;> rw [hs] <;> rfl
  exact ⟨⟨hw.attempts_le, by simp [giveUp], by simp [giveUp], hw.expires⟩,
    .of_open ho ⟨rfl, rfl, rfl, rfl, rfl⟩ le_rfl⟩

theorem open_of_due (h : due c now r = true) : r.status.terminal = false ∧ r.attempts < maxAttempts := by
  simp only [due, Bool.and_eq_true, Bool.or_eq_true, beq_iff_eq, decide_eq_true_eq] at h
  grind [Status.terminal]

theorem leaseRow_spec {input : ClaimInput} (h : due c input.now r = true) (hw : r.WF c) :
    (leaseRow c input r).WF c ∧ r.Extends (leaseRow c input r) := by
  obtain ⟨ho, ha⟩ := open_of_due h
  exact ⟨⟨ha, by simp [leaseRow, input.owner.ne], by simp [leaseRow], hw.expires⟩,
    .of_open ho ⟨rfl, rfl, rfl, rfl, rfl⟩ (Nat.le_succ _)⟩

theorem deliver_spec {via : Transport} (hv : via.validSingle = true)
    (h : completable c lease via now r = true) (hw : r.WF c) :
    (deliver c via now r).WF c ∧ r.Extends (deliver c via now r) := by
  simp only [completable, Bool.and_eq_true, beq_iff_eq, bne_iff_ne] at h
  have ho : r.status.terminal = false := by rw [h.1.1.1]; rfl
  exact ⟨⟨hw.attempts_le, by simp [deliver],
      fun _ => ⟨via, hv, rfl, Transport.and_eq_of_validSingle hv h.2⟩, hw.expires⟩,
    .of_open ho ⟨rfl, rfl, rfl, rfl, rfl⟩ le_rfl⟩

/-! ## What each statement makes of the table -/

theorem leaseNext_cases (input : ClaimInput) (tie : String → Nat) (s : Outbox τ) :
    leaseNext c input tie s = (s, .ok none) ∨
      ∃ id r, s.get? id = some r ∧ due c input.now r = true ∧
        leaseNext c input tie s = (s.updateWhere (fun k _ => k = id) (leaseRow c input),
          (scanTransportLease c id (leaseRow c input r)).map some) := by
  unfold leaseNext
  split
  · exact .inl rfl
  rename_i id hid
  obtain ⟨r, hr, hd⟩ := Table.first?_some hid
  refine .inr ⟨id, r, hr, hd, ?_⟩
  simp [hr]

theorem leaseNext_spec (hw : WF c s) (input : ClaimInput) (tie : String → Nat) :
    WF c (leaseNext c input tie s).1 ∧ Extends s (leaseNext c input tie s).1 := by
  rcases leaseNext_cases input tie s with h | ⟨id, r, hr, hd, h⟩
  · rw [h]; exact ⟨hw, .refl s⟩
  · rw [h]
    constructor
    · intro id' r' hr'
      rw [Table.get?_updateWhere] at hr'
      obtain ⟨r₀, hr₀, rfl⟩ := Option.map_eq_some_iff.1 hr'
      split
      · rename_i hk
        obtain rfl : id' = id := by simpa using hk
        rw [hr] at hr₀; cases hr₀
        exact (leaseRow_spec hd (hw id' r hr)).1
      · exact hw id' r₀ hr₀
    · intro id' r' hr'
      rw [Table.get?_updateWhere, hr']
      refine ⟨_, rfl, ?_⟩
      split
      · rename_i hk
        obtain rfl : id' = id := by simpa using hk
        rw [hr] at hr'; cases hr'
        exact (leaseRow_spec hd (hw id' r hr)).2
      · exact .refl r'

theorem complete_spec (hw : WF c s) (lease : Lease) (via : Transport) (now : Nat) :
    WF c (complete c lease via now s).1 ∧ Extends s (complete c lease via now s).1 := by
  unfold complete
  split
  · exact ⟨hw, .refl s⟩
  rename_i h
  have hv : via.validSingle = true := by
    cases hv : via.validSingle
    · exact absurd (.inr (.inr (.inl hv))) h
    · rfl
  refine updateWhere_spec hw fun id r hp => ?_
  exact deliver_spec hv (Bool.and_eq_true_iff.1 hp).2

variable (sha256) in
theorem step_spec (hw : WF c s) (e : Event) : WF c (step c sha256 s e) ∧ Extends s (step c sha256 s e) := by
  cases e with
  | enqueue e => exact enqueue_spec hw e
  | sweep input => exact updateWhere_spec hw fun _ _ hp => giveUp_spec hp
  | lease input tie => exact leaseNext_spec hw input tie
  | rejectPayload input id =>
    refine updateWhere_spec hw fun _ r hp => failIntegrity_spec ?_
    simp only [Bool.and_eq_true, beq_iff_eq] at hp
    exact hp.2 ▸ input.owner.ne
  | complete lease via now => exact complete_spec hw lease via now
  | defer lease errorCode nextAttempt deadLetter now => grind [defer_spec, step]

variable (sha256) in
theorem exec_spec (hw : WF c s) (es : List Event) :
    WF c (exec (step c sha256) s es) ∧ Extends s (exec (step c sha256) s es) := by
  induction es generalizing s with
  | nil => exact ⟨hw, .refl s⟩
  | cons e es ih =>
    obtain ⟨hw', he⟩ := step_spec sha256 hw e
    grind [he.trans]

variable (c sha256) in
theorem wf_reachable (es : List Event) : WF c (exec (step c sha256) Table.empty es) := (exec_spec sha256 wf_empty es).1

/-! ## Attempts -/

theorem step_attempts {e : Event} (he : e.isLease = false)
    (hr : s.get? id = some r) (hr' : (step c sha256 s e).get? id = some r') : r'.attempts = r.attempts := by
  cases e with
  | enqueue e =>
    grind [step, enqueue, Table.get?_insertOrIgnore]
  | sweep input | rejectPayload input id => exact attempts_updateWhere hr hr' fun _ => rfl
  | lease input tie => cases he
  | complete lease via now =>
    simp only [step, complete] at hr'
    split at hr'
    · rw [hr] at hr'; cases hr'; rfl
    exact attempts_updateWhere hr hr' fun _ => rfl
  | defer lease errorCode nextAttempt deadLetter now =>
    simp only [step, defer] at hr'
    split at hr'
    · rw [hr] at hr'; cases hr'; rfl
    split at hr'
    · rw [hr] at hr'; cases hr'; rfl
    exact attempts_updateWhere hr hr' fun _ => rfl

@[grind →]
theorem leaseNext_some {input : ClaimInput} {tie : String → Nat} {s' : Outbox τ}
    (h : leaseNext c input tie s = (s', .ok (some lease))) :
    ∃ r, s.get? lease.id = some r ∧ due c input.now r = true ∧ s'.get? lease.id = some (leaseRow c input r) ∧
      scanTransportLease c lease.id (leaseRow c input r) = .ok lease := by
  rcases leaseNext_cases input tie s with hn | ⟨id, r, hr, hd, hn⟩
  · rw [hn] at h; cases h
  · rw [hn, Prod.mk.injEq] at h
    obtain ⟨rfl, h⟩ := h
    cases hscan : scanTransportLease c id (leaseRow c input r) with
    | error err => rw [hscan] at h; cases h
    | ok l =>
      rw [hscan] at h; cases h
      obtain rfl := (scanTransportLease_ok hscan).1
      exact ⟨r, hr, hd, by simp [hr], hscan⟩

@[grind →]
theorem claim_some {leaseDuration : Int} {owner : LeaseOwner} {sweeps : Bool} {tie : String → Nat} {s' : Outbox τ}
    (h : claim c sha256 now leaseDuration owner sweeps tie s = (s', .ok (some lease))) :
    ∃ r r', s.get? lease.id = some r ∧ r.status.terminal = false ∧ s'.get? lease.id = some r' ∧
      r'.attempts = r.attempts + 1 := by
  unfold claim at h
  split at h
  · cases h
  unfold claimChecked at h
  dsimp only at h
  split at h
  · rename_i s₁ lease₁ hl
    split at h
    · cases h
      obtain ⟨r, hr, hd, hr', -⟩ := leaseNext_some hl
      obtain ⟨ho, -⟩ := open_of_due hd
      refine ⟨r, _, ?_, ho, hr', rfl⟩
      cases sweeps with
      | false => exact hr
      | true =>
        -- a swept row is dead, so the leased one was not swept
        simp only [if_true, sweep, Table.get?_updateWhere, Option.map_eq_some_iff] at hr
        obtain ⟨r₀, hr₀, rfl⟩ := hr
        split at ho
        · cases ho
        rename_i hs; rw [hr₀, if_neg hs]
    · cases h
  · rename_i hno; exact absurd h (hno _ _)

/-! ## Deliveries -/

/-- `e` is a `Complete` of envelope `id` that returns nil. -/
def completes (c : TimeColumn τ) (id : String) (s : Outbox τ) : Event → Bool
  | .complete lease via now => lease.id = id && (complete c lease via now s).2.isOk
  | _ => false

/-- How many `Complete` calls of a run return nil for envelope `id`. -/
def completions (c : TimeColumn τ) (sha256 : List UInt8 → Digest) (id : String) : Outbox τ → List Event → Nat
  | _, [] => 0
  | s, e :: es => (if completes c id s e then 1 else 0) + completions c sha256 id (step c sha256 s e) es

@[grind →]
theorem complete_ok {via : Transport} (h : (complete c lease via now s).2.isOk = true) :
    ∃ r, s.get? lease.id = some r ∧ r.status = .leased ∧
      (complete c lease via now s).1.get? lease.id = some (deliver c via now r) := by
  unfold complete at h ⊢
  split at h
  · cases h
  rename_i hin
  rw [Table.countWhere_key, requireSingleLeaseMutation] at h
  rw [if_neg hin]
  cases hr : s.get? lease.id with
  | none => rw [hr] at h; cases h
  | some r =>
    rw [hr] at h
    cases hc : completable c lease via now r with
    | false => simp [hc, Except.isOk, Except.toBool] at h
    | true =>
      refine ⟨r, rfl, ?_, by simp [hr, hc]⟩
      simp only [completable, Bool.and_eq_true, beq_iff_eq] at hc
      exact hc.1.1.1

theorem completions_terminal {id : String} {r : Row τ} (ht : r.status.terminal = true) :
    ∀ {es : List Event} {s : Outbox τ}, WF c s → s.get? id = some r → completions c sha256 id s es = 0
  | [], _, _, _ => rfl
  | e :: es, s, hw, hr => by
    obtain ⟨hw', hext⟩ := step_spec sha256 hw e
    obtain ⟨r', hr', hx⟩ := hext id r hr
    rw [hx.terminal ht] at hr'
    have hno : completes c id s e = false := by
      cases e with
      | complete lease via now =>
        by_contra hc
        simp only [completes, Bool.not_eq_false, Bool.and_eq_true, decide_eq_true_eq] at hc
        obtain ⟨r₀, hr₀, hs, -⟩ := complete_ok hc.2
        rw [hc.1, hr] at hr₀; cases hr₀
        rw [hs] at ht; cases ht
      | _ => rfl
    simp only [completions, hno, Bool.false_eq_true, if_false, Nat.zero_add]
    exact completions_terminal ht hw' hr'

theorem completions_le_one {id : String} : ∀ {es : List Event} {s : Outbox τ}, WF c s → completions c sha256 id s es ≤ 1
  | [], _, _ => Nat.zero_le _
  | e :: es, s, hw => by
    obtain ⟨hw', -⟩ := step_spec sha256 hw e
    cases hc : completes c id s e with
    | false => simpa [completions, hc] using completions_le_one hw'
    | true =>
      cases e with
      | complete lease via now =>
        simp only [completes, Bool.and_eq_true, decide_eq_true_eq] at hc
        obtain ⟨hid, hok⟩ := hc
        obtain ⟨r, -, -, hr⟩ := complete_ok hok
        have h0 : completions c sha256 id (step c sha256 s (.complete lease via now)) es = 0 :=
          completions_terminal (r := deliver c via now r) rfl hw' (hid ▸ hr)
        simp [completions, completes, hid, hok, h0]
      | _ => cases hc

/-! ## The state machine -/

end GaiaCom.TransportQueue
