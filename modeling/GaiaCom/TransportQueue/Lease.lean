/-
Live leases of the transport outbox. Between a `Claim` that returned a lease and the end of that
lease, the statements of other workers leave the leased row alone, with one exception: the sweep
at the start of every `Claim` also gives up leased rows whose attempts are used up. So a lease is
safe to its end exactly if it is not on the last attempt or nobody else claims meanwhile
(`live_lease_iff`).
-/
import GaiaCom.TransportQueue.Lifecycle

namespace GaiaCom.TransportQueue

open Lib Store

variable {τ : Type} [LinearOrder τ] {c : TimeColumn τ} {sha256 : List UInt8 → Digest}

/-! ## The row a lease is held on -/

/-- `r` is the row a lease was taken on, as the lease statement left it. -/
structure HeldRow (c : TimeColumn τ) (lease : Lease) (r : Row τ) : Prop where
  status : r.status = .leased
  owner : r.leaseOwner = lease.owner
  leaseUntil : r.leaseUntil = c.format lease.leaseUntil
  expiresAt : r.expiresAt = c.format lease.expiresAt
  attempts : r.attempts = lease.attempts
  allowedTransports : r.allowedTransports = lease.allowedTransports

/-- The lease is still held. -/
def Held (c : TimeColumn τ) (lease : Lease) (s : Outbox τ) : Prop := ∃ r, s.get? lease.id = some r ∧ HeldRow c lease r

/-- A statement of another worker than the holder of the lease: owners are drawn at random, so
no other `Claim` has this one, and only the holder completes or defers with it. -/
def Foreign (lease : Lease) : Event → Prop
  | .rejectPayload input _ => input.owner.text ≠ lease.owner
  | .complete l _ _ | .defer l _ _ _ _ => ¬ (l.id = lease.id ∧ l.owner = lease.owner)
  | _ => True

variable {lease : Lease} {s : Outbox τ}

theorem held_of_leaseNext (hc : c.Faithful) {input : ClaimInput} {tie : String → Nat} {s' : Outbox τ}
    (hw : WF c s) (h : leaseNext c input tie s = (s', .ok (some lease))) :
    Held c lease s' ∧ lease.owner = input.owner.text := by
  obtain ⟨r, hr, -, hr', hscan⟩ := leaseNext_some h
  obtain ⟨-, ha, ho, hal, hu, he⟩ := scanTransportLease_ok hscan
  obtain ⟨t, ht⟩ := (hw _ r hr).expires
  refine ⟨⟨_, hr', rfl, ho.symm, ?_, ?_, ha.symm, hal.symm⟩, ho⟩
  · simp only [hu, leaseRow, hc.parse_format]
  · simp only [he, leaseRow, ht, hc.parse_format]

/-! ## One step of another worker -/

omit [LinearOrder τ] in
theorem held_updateWhere {p : String → Row τ → Bool} {f : Row τ → Row τ}
    (h : Held c lease s) (hp : ∀ r, HeldRow c lease r → p lease.id r = false) : Held c lease (s.updateWhere p f) := by
  grind [Table.get?_updateWhere, Held]

theorem not_swept (hc : c.Faithful) {now : Nat} {r : Row τ} (hh : HeldRow c lease r)
    (he : now < lease.expiresAt) (ha : lease.attempts < maxAttempts) : swept c now r = false := by
  have h1 : ¬ r.expiresAt ≤ c.format now := by rw [hh.expiresAt, hc.le_iff]; omega
  have h2 : ¬ maxAttempts ≤ r.attempts := by rw [hh.attempts]; omega
  simp [swept, h1, h2]

theorem not_due (hc : c.Faithful) {now : Nat} {r : Row τ} (hh : HeldRow c lease r)
    (hu : now < lease.leaseUntil) : due c now r = false := by
  have h1 : ¬ r.leaseUntil ≤ c.format now := by rw [hh.leaseUntil, hc.le_iff]; omega
  simp [due, h1, hh.status]

variable (sha256) in
/-- A statement of another worker before the end of the lease keeps it, unless it is a sweep and
the lease is on the last attempt. -/
theorem step_held (hc : c.Faithful) {e : Event} (h : Held c lease s)
    (hf : Foreign lease e) (hu : e.time < lease.leaseUntil) (he : e.time < lease.expiresAt)
    (ha : lease.attempts < maxAttempts ∨ e.isSweep = false) : Held c lease (step c sha256 s e) := by
  cases e with
  | enqueue e =>
    grind [step, enqueue, Table.get?_insertOrIgnore, Held]
  | sweep input =>
    have ha : lease.attempts < maxAttempts := ha.resolve_right (by simp [Event.isSweep])
    exact held_updateWhere h fun r hh => not_swept hc hh he ha
  | lease input tie =>
    simp only [step]
    rcases leaseNext_cases input tie s with hn | ⟨id, r, hr, hd, hn⟩
    · rw [hn]; exact h
    · rw [hn]
      refine held_updateWhere h fun r' hh => ?_
      obtain ⟨r₀, hr₀, hh₀⟩ := h
      rw [decide_eq_false_iff_not]
      rintro rfl
      rw [hr₀] at hr; cases hr
      have hnot : due c input.now r = false := not_due hc hh₀ hu
      rw [hnot] at hd; cases hd
  | rejectPayload input id =>
    refine held_updateWhere h fun r hh => ?_
    have : r.leaseOwner ≠ input.owner.text := hh.owner ▸ (Ne.symm hf)
    simp [this]
  | complete l via now =>
    simp only [step, complete]
    split
    · exact h
    refine held_updateWhere h fun r hh => ?_
    by_cases hid : lease.id = l.id
    · have : r.leaseOwner ≠ l.owner := fun ho => hf ⟨hid.symm, ho.symm.trans hh.owner⟩
      simp [completable, this]
    · simp [hid]
  | defer l errorCode nextAttempt deadLetter now =>
    simp only [step, defer]
    split
    · exact h
    split
    · exact h
    refine held_updateWhere h fun r hh => ?_
    by_cases hid : lease.id = l.id
    · have : r.leaseOwner ≠ l.owner := fun ho => hf ⟨hid.symm, ho.symm.trans hh.owner⟩
      simp [deferrable, this]
    · simp [hid]

/-! ## Runs of other workers -/

variable (sha256) in
theorem exec_held (hc : c.Faithful) {lease : Lease} {t : Nat} (hu : t < lease.leaseUntil) (he : t < lease.expiresAt) :
    ∀ {fs : List Event} {s : Outbox τ}, Held c lease s → (∀ e ∈ fs, Foreign lease e) → (∀ e ∈ fs, e.time ≤ t) →
      (lease.attempts < maxAttempts ∨ ∀ e ∈ fs, e.isSweep = false) → Held c lease (exec (step c sha256) s fs)
  | [], _, h, _, _, _ => h
  | e :: fs, s, h, hf, ht, ha => by
    rw [List.forall_mem_cons] at hf ht ha
    rw [exec_cons]
    have hstep := step_held sha256 hc h hf.1 (ht.1.trans_lt hu) (ht.1.trans_lt he) (ha.imp_right And.left)
    exact exec_held hc hu he hstep hf.2 ht.2 (ha.imp_right And.right)

variable (sha256) in
theorem exec_swept (hc : c.Faithful) {lease : Lease} {t : Nat} (hu : t < lease.leaseUntil) (he : t < lease.expiresAt)
    (ha : maxAttempts ≤ lease.attempts) :
    ∀ {fs : List Event} {s : Outbox τ}, WF c s → Held c lease s → (∀ e ∈ fs, Foreign lease e) → (∀ e ∈ fs, e.time ≤ t) →
      (∃ e ∈ fs, e.isSweep = true) → ∃ r, (exec (step c sha256) s fs).get? lease.id = some r ∧ r.status = .deadLetter
  | [], _, _, _, _, _, hs => by obtain ⟨e, he, -⟩ := hs; cases he
  | e :: fs, s, hw, h, hf, ht, hs => by
    rw [List.forall_mem_cons] at hf ht
    obtain ⟨hw', -⟩ := step_spec sha256 hw e
    cases hsw : e.isSweep with
    | false =>
      have hstep := step_held sha256 hc h hf.1 (ht.1.trans_lt hu) (ht.1.trans_lt he) (.inr hsw)
      rw [exec_cons]
      refine exec_swept hc hu he ha hw' hstep hf.2 ht.2 ?_
      obtain ⟨e', he', hs'⟩ := hs
      rcases List.mem_cons.1 he' with rfl | he'
      · rw [hsw] at hs'; cases hs'
      · exact ⟨e', he', hs'⟩
    | true =>
      cases e with
      | sweep input =>
        obtain ⟨r, hr, hh⟩ := h
        have hsel : swept c input.now r = true := by
          have : maxAttempts ≤ r.attempts := hh.attempts ▸ ha
          simp [swept, hh.status, this]
        have hr' : (step c sha256 s (.sweep input)).get? lease.id = some (giveUp c input.now r) := by
          simp [step, sweep, hr, hsel]
        obtain ⟨r'', hr'', hx⟩ := (exec_spec sha256 hw' fs).2 _ _ hr'
        rw [hx.terminal rfl] at hr''
        exact ⟨_, hr'', rfl⟩
      | _ => cases hsw

theorem complete_held (hc : c.Faithful) {via : Transport} {t : Nat} (h : Held c lease s)
    (hid : lease.id ≠ "") (ho : lease.owner ≠ "") (ht : t ≠ 0) (hu : t < lease.leaseUntil)
    (hv : via.validSingle = true) (hal : lease.allowedTransports &&& via ≠ 0) :
    (complete c lease via t s).2 = .ok () := by
  obtain ⟨r, hr, hh⟩ := h
  have hsel : completable c lease via t r = true := by
    have h1 : c.format t < r.leaseUntil := by rw [hh.leaseUntil, hc.lt_iff]; exact hu
    simp [completable, hh.status, hh.owner, h1, hh.allowedTransports, hal]
  have hone : s.countWhere (fun k r => k = lease.id && completable c lease via t r) = 1 := by
    rw [Table.countWhere_key, hr]; simp [hsel]
  simp [complete, hid, ho, hv, ht, hone, requireSingleLeaseMutation]

/-! ## A sample queue -/

def sampleDigest : Digest :=
  ⟨[0x4b, 0xf5, 0x12, 0x2f, 0x34, 0x45, 0x54, 0xc5, 0x3b, 0xde, 0x2e, 0xbb, 0x8c, 0xd2, 0xb7, 0xe3,
    0xd1, 0x60, 0x0a, 0xd6, 0x31, 0xc3, 0x85, 0xa5, 0xd7, 0xcc, 0xe2, 0x3c, 0x77, 0x85, 0x45, 0x9a], rfl⟩

def sampleSha : List UInt8 → Digest := fun _ => sampleDigest

def sampleEnvelope : Envelope where
  id := "018f4d1e-7614-7a3a-8e37-61f0f75a0001"
  recipient := "bob@node.example"
  payload := [1]
  payloadHash := sampleDigest
  signature := [1]
  allowedTransports := 5
  priority := 50
  attempts := 0
  createdAt := 63919886400 * second
  expiresAt := 63919886400 * second + 24 * hour

def sampleInput (n wait : Nat) : ClaimInput where
  now := 63919886400 * second + wait
  leaseDuration := defaultLease
  owner := ⟨String.ofList (List.replicate (n + 1) 'w'), by simp [← String.toList_inj, List.replicate_succ]⟩
  now_ne := by simp [second]
  duration_pos := by decide
  duration_le := by decide

def sampleClaim (n wait : Nat) : List Event := [.sweep (sampleInput n wait), .lease (sampleInput n wait) fun _ => 0]

def sampleRun (n : Nat) : List Event :=
  .enqueue sampleEnvelope :: (List.range n).flatMap fun k => sampleClaim k (k * defaultLease)

def sampleLease (n : Nat) : Lease :=
  { sampleEnvelope with
    attempts := n + 1
    owner := (sampleInput n 0).owner.text
    leaseUntil := 63919886400 * second + (n + 1) * defaultLease }

/-! ## When a lease is safe -/

/-- Live leases: take any run from the empty table, a `Claim` whose lease statement then returned
a lease, and any continuation by other workers with clocks not past `t`, where `t` is before the
end of the lease and before the envelope expires. At `t` the row is still leased to the holder,
and `Complete` over any allowed transport succeeds, if and only if the lease is not on the last
attempt or no sweep of another `Claim` ran meanwhile. -/
theorem live_lease_iff (hc : c.Faithful) (es fs : List Event) (input : ClaimInput) (tie : String → Nat)
    (s' : Outbox τ) (lease : Lease) (t : Nat)
    (hl : leaseNext c input tie (exec (step c sha256) Table.empty es) = (s', .ok (some lease)))
    (hid : lease.id ≠ "") (hf : ∀ e ∈ fs, Foreign lease e) (ht : ∀ e ∈ fs, e.time ≤ t) (hnow : input.now ≤ t)
    (hu : t < lease.leaseUntil) (he : t < lease.expiresAt) :
    (∃ r, (exec (step c sha256) s' fs).get? lease.id = some r ∧ r.status = .leased ∧ r.leaseOwner = lease.owner ∧
      ∀ via : Transport, via.validSingle = true → lease.allowedTransports &&& via ≠ 0 →
        (complete c lease via t (exec (step c sha256) s' fs)).2 = .ok ()) ↔
    lease.attempts < maxAttempts ∨ ∀ e ∈ fs, e.isSweep = false := by
  have hw := wf_reachable c sha256 es
  obtain ⟨hheld, howner⟩ := held_of_leaseNext hc hw hl
  have hw' : WF c s' := by have := (leaseNext_spec hw input tie).1; rwa [hl] at this
  constructor
  · rintro ⟨r, hr, hs, -, -⟩
    by_contra hcon
    push Not at hcon
    obtain ⟨ha, e, hmem, hsw⟩ := hcon
    obtain ⟨r', hr', hdead⟩ := exec_swept sha256 hc hu he ha hw' hheld hf ht
      ⟨e, hmem, by simpa using hsw⟩
    rw [hr] at hr'; cases hr'
    rw [hs] at hdead; cases hdead
  · intro ha
    have hend := exec_held sha256 hc hu he hheld hf ht ha
    obtain ⟨r, hr, hh⟩ := hend
    refine ⟨r, hr, hh.status, hh.owner, fun via hv hal => ?_⟩
    have htpos : t ≠ 0 := by have := input.now_ne; omega
    exact complete_held hc ⟨r, hr, hh⟩ hid (howner ▸ input.owner.ne) htpos hu hv hal

/-- The first lease is safe while another worker claims one second later. -/
theorem live_lease_first_attempt :
    ∃ r, (exec (step .instant sampleSha)
        (leaseNext .instant (sampleInput 0 0) (fun _ => 0)
          (exec (step .instant sampleSha) Table.empty (sampleRun 0))).1 (sampleClaim 1 second)).get?
          (sampleLease 0).id = some r ∧
      r.status = .leased ∧ r.leaseOwner = (sampleLease 0).owner ∧
      ∀ via : Transport, via.validSingle = true → (sampleLease 0).allowedTransports &&& via ≠ 0 →
        (complete .instant (sampleLease 0) via (63919886400 * second + second) (exec (step .instant sampleSha)
          (leaseNext .instant (sampleInput 0 0) (fun _ => 0)
            (exec (step .instant sampleSha) Table.empty (sampleRun 0))).1 (sampleClaim 1 second))).2 = .ok () :=
  (live_lease_iff TimeColumn.instant_faithful (sampleRun 0) (sampleClaim 1 second) (sampleInput 0 0) (fun _ => 0) _
    (sampleLease 0) (63919886400 * second + second) (Prod.ext rfl rfl) (by decide)
    (by simp [sampleClaim, Foreign]) (by simp [sampleClaim, Event.time, sampleInput]) (by decide) (by decide)
    (by decide)).2 (.inl (by decide))

/-- Eleven workers have let their leases run out and the twelfth holds a lease; one second later
another worker claims. The row is dead-lettered and the holder's `Complete` fails, almost two
minutes before its lease ends. -/
theorem twelfth_lease_lost :
    (leaseNext .instant (sampleInput 11 (11 * defaultLease)) (fun _ => 0)
        (exec (step .instant sampleSha) Table.empty (sampleRun 11))).2.toOption = some (some (sampleLease 11)) ∧
      63919886400 * second + 11 * defaultLease + second < (sampleLease 11).leaseUntil ∧
      63919886400 * second + 11 * defaultLease + second < (sampleLease 11).expiresAt ∧
      ((exec (step .instant sampleSha) Table.empty
        (sampleRun 12 ++ sampleClaim 12 (11 * defaultLease + second))).get? sampleEnvelope.id).map Row.status =
          some .deadLetter ∧
      (complete .instant (sampleLease 11) Transport.internet (63919886400 * second + 11 * defaultLease + second)
        (exec (step .instant sampleSha) Table.empty
          (sampleRun 12 ++ sampleClaim 12 (11 * defaultLease + second)))).2.toOption = none := by
  decide +kernel

end GaiaCom.TransportQueue
