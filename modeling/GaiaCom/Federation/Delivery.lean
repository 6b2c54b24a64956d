/-
The federation queue and its workers: `ClaimNextFederationQueueItem`, `SaveFederationQueueItem`
and `DeleteFederationQueueItem` of sql_store_federation.go under the loop of `StartWorker`. What a
worker does with one claimed item is one lease; any number of workers is any interleaving of
leases, and a lease may end at any point because its worker crashed. The cap of ten attempts is
tested only when a failed send is saved, so it bounds the sends exactly as long as no claim takes
over an expired lease of an item on its tenth attempt (`bounded_delivery`). An item leaves the
table only after a successful send under its current lease, on no such condition.
-/
import GaiaCom.Lib.Run
import GaiaCom.Lib.Table
import GaiaCom.Store.Column

namespace GaiaCom.Federation.Delivery

open Lib Store

/-! ## The table -/

/-- models.QueueStatus. -/
inductive QueueStatus where
  | pending
  | sending
  | failed
  deriving DecidableEq, Repr

/-- A row of federation_queues. `uuid.New` never draws a value twice, so a lease owner is the
number of draws before it; `none` is the empty text. -/
structure Row (τ : Type) where
  pduID : String
  pduPayload : String
  targetURL : String
  status : QueueStatus
  attempts : Nat
  lastError : String
  nextRetry : τ
  leaseOwner : Option Nat
  leaseUntil : τ
  deriving DecidableEq

/-- models.FederationQueue: a row as a worker holds it in memory. -/
structure FederationQueue where
  id : Nat
  pduID : String
  pduPayload : String
  targetURL : String
  status : QueueStatus
  attempts : Nat
  lastError : String
  nextRetry : Nat
  leaseOwner : Option Nat
  leaseUntil : Nat
  deriving DecidableEq

abbrev Queue (τ : Type) := Table Nat (Row τ)

def leaseDuration : Nat := 2 * minute

/-- The attempts after which `rescheduleForRetry` gives up. -/
def maxAttempts : Nat := 10

section Statements

variable {τ : Type} [LinearOrder τ] (c : TimeColumn τ)

/-- The row `AddFederationQueueItem` inserts for `QueueOutgoingPDU`. -/
def newRow (pduID pduPayload targetURL : String) (now : Nat) : Row τ where
  pduID := pduID
  pduPayload := pduPayload
  targetURL := targetURL
  status := .pending
  attempts := 0
  lastError := ""
  nextRetry := c.format now
  leaseOwner := none
  leaseUntil := c.format 0

def due (now : Nat) (r : Row τ) : Bool :=
  (r.status = .pending && r.nextRetry ≤ c.format now) || (r.status = .sending && r.leaseUntil ≤ c.format now)

/-- `ORDER BY CASE WHEN status = 'sending' THEN 0 ELSE 1 END, next_retry ASC`; among equals SQLite
takes whichever row it meets first. -/
def before (tie : Nat → Nat) (a b : Nat × Row τ) : Bool :=
  let rank (r : Row τ) : Nat := if r.status = .sending then 0 else 1
  rank a.2 < rank b.2 || (rank a.2 = rank b.2 &&
    (a.2.nextRetry < b.2.nextRetry || (a.2.nextRetry = b.2.nextRetry && tie a.1 < tie b.1)))

def leaseRow (now owner : Nat) (r : Row τ) : Row τ :=
  { r with
    status := .sending
    attempts := r.attempts + 1
    leaseOwner := some owner
    leaseUntil := c.format (now + leaseDuration) }

/-- `scanFederationQueue` -/
def scanFederationQueue (id : Nat) (r : Row τ) : FederationQueue where
  id := id
  pduID := r.pduID
  pduPayload := r.pduPayload
  targetURL := r.targetURL
  status := r.status
  attempts := r.attempts
  lastError := r.lastError
  nextRetry := c.parse r.nextRetry
  leaseOwner := r.leaseOwner
  leaseUntil := c.parse r.leaseUntil

/-- The item `ClaimNextFederationQueueItem` returns for the row it selected. -/
def leaseItem (now owner id : Nat) (r : Row τ) : FederationQueue :=
  { scanFederationQueue c id r with
    status := .sending
    attempts := r.attempts + 1
    leaseOwner := some owner
    leaseUntil := now + leaseDuration }

def selected (now : Nat) (tie : Nat → Nat) (q : Queue τ) : Option Nat := q.first? (fun _ r => due c now r) (before tie)

def claimNextFederationQueueItem (now owner : Nat) (tie : Nat → Nat) (q : Queue τ) : Queue τ × Option FederationQueue :=
  match selected c now tie q with
  | none => (q, none)
  | some id =>
    (q.updateWhere (fun k r => k = id && due c now r) (leaseRow c now owner), (q.get? id).map (leaseItem c now owner id))

def leasedTo (item : FederationQueue) (id : Nat) (r : Row τ) : Bool :=
  id = item.id && (r.status = .sending && r.leaseOwner = item.leaseOwner)

def deleteFederationQueueItem (item : FederationQueue) (q : Queue τ) : Queue τ × Except String Unit :=
  if item.id = 0 ∨ item.leaseOwner = none then (q, .error "invalid federation queue lease")
  else (q.deleteWhere (leasedTo item),
    if q.countWhere (leasedTo item) = 1 then .ok () else .error "federation queue lease lost")

/-- What `SaveFederationQueueItem` makes of the caller's row. -/
def saveRow (item : FederationQueue) : Row τ where
  pduID := item.pduID
  pduPayload := item.pduPayload
  targetURL := item.targetURL
  status := item.status
  attempts := item.attempts
  lastError := item.lastError
  nextRetry := c.format item.nextRetry
  leaseOwner := none
  leaseUntil := c.format 0

def saveFederationQueueItem (item : FederationQueue) (q : Queue τ) : Queue τ × Except String Unit :=
  if item.id = 0 ∨ item.leaseOwner = none then (q, .error "invalid federation queue lease")
  else (q.updateWhere (leasedTo item) fun _ => saveRow c item,
    if q.countWhere (leasedTo item) = 1 then .ok ()
    else .error ("federation queue lease lost for item " ++ toString item.id))

/-- The item as `rescheduleForRetry` hands it to the store. -/
def rescheduled (now : Nat) (item : FederationQueue) : FederationQueue :=
  if maxAttempts ≤ item.attempts then { item with status := .failed }
  else { item with nextRetry := now + second * (10 * item.attempts * item.attempts), status := .pending }

def rescheduleForRetry (now : Nat) (item : FederationQueue) (q : Queue τ) : Queue τ × Except String Unit :=
  saveFederationQueueItem c (rescheduled now item) q

end Statements

/-! ## Workers -/

/-- How far a worker has come with an item it claimed. -/
inductive Stage where
  | claimed
  | sending
  /-- `sendTransaction` has returned, with `nil` or an error. -/
  | returned (success : Bool)
  /-- The worker has gone on to the next item, or crashed. -/
  | over
  deriving DecidableEq

/-- One claimed item in the hands of a worker. -/
structure Lease where
  item : FederationQueue
  stage : Stage
  /-- The item was handed to `sendTransaction`. -/
  handed : Bool

/-- The table with the leases taken so far, under their owners. -/
structure State (τ : Type) where
  queue : Queue τ
  nextID : Nat
  owners : Nat
  leases : Table Nat Lease

def State.init (τ : Type) : State τ := ⟨Table.empty, 1, 0, Table.empty⟩

inductive Event where
  /-- `QueueOutgoingPDU` -/
  | add (pduID pduPayload targetURL : String) (now : Nat)
  | claim (now : Nat) (tie : Nat → Nat)
  | send (owner : Nat)
  | sendReturns (owner : Nat) (success : Bool)
  /-- The worker deletes or reschedules the item; `reached` is false if the statement failed,
  say because the 40 seconds of the item's context were over. -/
  | settle (owner now : Nat) (reached : Bool)
  | crash (owner : Nat)

variable {τ : Type} [LinearOrder τ] (c : TimeColumn τ)

/-- What the worker does with the table once `sendTransaction` has returned. -/
def settleQueue (now : Nat) (l : Lease) (q : Queue τ) : Queue τ :=
  match l.stage with
  | .returned true => (deleteFederationQueueItem l.item q).1
  | .returned false => (rescheduleForRetry c now l.item q).1
  | _ => q

def step (s : State τ) : Event → State τ
  | .add pduID pduPayload targetURL now =>
    { s with queue := s.queue.insertOrIgnore s.nextID (newRow c pduID pduPayload targetURL now), nextID := s.nextID + 1 }
  | .claim now tie =>
    match claimNextFederationQueueItem c now s.owners tie s.queue with
    | (_, none) => s
    | (queue, some item) =>
      { s with queue, owners := s.owners + 1, leases := s.leases.insertOrIgnore s.owners ⟨item, .claimed, false⟩ }
  | .send owner =>
    { s with
      leases := s.leases.updateWhere (fun o l => o = owner && l.stage = .claimed) fun l =>
        { l with stage := .sending, handed := true } }
  | .sendReturns owner success =>
    { s with
      leases := s.leases.updateWhere (fun o l => o = owner && l.stage = .sending) fun l =>
        { l with stage := .returned success } }
  | .settle owner now reached =>
    match s.leases.get? owner with
    | none => s
    | some l =>
      { s with
        queue := if reached then settleQueue c now l s.queue else s.queue
        leases := s.leases.updateWhere (fun o _ => o = owner) fun l => { l with stage := .over } }
  | .crash owner =>
    { s with leases := s.leases.updateWhere (fun o _ => o = owner) fun l => { l with stage := .over } }

def State.claims (s : State τ) (id : Nat) : Nat := s.leases.countWhere fun _ l => l.item.id = id

/-- How often the item was handed to `sendTransaction`. -/
def State.sends (s : State τ) (id : Nat) : Nat := s.leases.countWhere fun _ l => l.item.id = id && l.handed

/-- A claim takes over no lease of an item on its last attempt. -/
def Spared (s : State τ) : Event → Prop
  | .claim now tie =>
    ∀ r ∈ (selected c now tie s.queue).bind s.queue.get?, r.status = .sending → r.attempts < maxAttempts
  | _ => True

instance (s : State τ) : (e : Event) → Decidable (Spared c s e)
  | .claim now tie =>
    inferInstanceAs (Decidable
      (∀ r ∈ (selected c now tie s.queue).bind s.queue.get?, r.status = .sending → r.attempts < maxAttempts))
  | .add .. | .send _ | .sendReturns .. | .settle .. | .crash _ => .isTrue trivial

/-! ## What a statement does to a row -/

variable {c} in
theorem claim_cases (now owner : Nat) (tie : Nat → Nat) (q : Queue τ) :
    claimNextFederationQueueItem c now owner tie q = (q, none) ∨
    ∃ id r, selected c now tie q = some id ∧ q.get? id = some r ∧ due c now r = true ∧
      claimNextFederationQueueItem c now owner tie q =
        (q.updateWhere (fun k r => k = id && due c now r) (leaseRow c now owner), some (leaseItem c now owner id r)) := by
  unfold claimNextFederationQueueItem
  grind [selected]

variable {r : Row τ}

omit [LinearOrder τ] in
theorem leasedTo_iff {id : Nat} {item : FederationQueue} :
    leasedTo item id r = true ↔ id = item.id ∧ r.status = .sending ∧ r.leaseOwner = item.leaseOwner := by
  simp [leasedTo]

variable {c} in
omit [LinearOrder τ] in
theorem settleQueue_get? {id : Nat} (now : Nat) (l : Lease) (q : Queue τ) (hr : q.get? id = some r) :
    (settleQueue c now l q).get? id = some r ∨ (leasedTo l.item id r = true ∧
      ((l.stage = .returned true ∧ (settleQueue c now l q).get? id = none) ∨
        (l.stage = .returned false ∧ (settleQueue c now l q).get? id = some (saveRow c (rescheduled now l.item))))) := by
  have hsame : ∀ (i : Nat) (r : Row τ), leasedTo (rescheduled now l.item) i r = leasedTo l.item i r := by
    intro i r; unfold rescheduled; split <;> rfl
  unfold settleQueue
  split
  · rename_i hstage
    unfold deleteFederationQueueItem
    split
    · exact .inl hr
    rw [Table.get?_deleteWhere, hr, Option.filter_some]
    cases hl : leasedTo l.item id r with
    | false => exact .inl rfl
    | true => exact .inr ⟨rfl, .inl ⟨hstage, rfl⟩⟩
  · rename_i hstage
    unfold rescheduleForRetry saveFederationQueueItem
    split
    · exact .inl hr
    rw [Table.get?_updateWhere, hr, Option.map_some, hsame]
    cases hl : leasedTo l.item id r with
    | false => exact .inl rfl
    | true => exact .inr ⟨rfl, .inr ⟨hstage, rfl⟩⟩
  · exact .inl hr

variable {c} in
omit [LinearOrder τ] in
theorem settleQueue_none {id : Nat} (now : Nat) (l : Lease) (q : Queue τ) (hr : q.get? id = none) :
    (settleQueue c now l q).get? id = none := by
  unfold settleQueue deleteFederationQueueItem rescheduleForRetry saveFederationQueueItem
  split <;> (try split) <;> simp [hr]

/-! ## Attempts are claims -/

/-- The attempts of a row are its claims, a row that waits for a claim has attempts left, and
a row is leased to an owner that was drawn. -/
structure Row.OK (s : State τ) (id : Nat) (r : Row τ) : Prop where
  id_lt : id < s.nextID
  claims : s.claims id = r.attempts
  left : r.status = .pending → r.attempts < maxAttempts
  owner_lt : ∀ o, r.leaseOwner = some o → o < s.owners

/-- An answer of `sendTransaction` comes only after the item was handed to it. -/
def Lease.Staged (l : Lease) : Prop := l.stage = .sending ∨ (∃ b, l.stage = .returned b) → l.handed = true

structure Lease.OK (s : State τ) (o : Nat) (l : Lease) : Prop where
  owner_lt : o < s.owners
  owner : l.item.leaseOwner = some o
  id_lt : l.item.id < s.nextID
  staged : l.Staged
  /-- While the row is leased to this owner, the item in memory has the row's attempts. -/
  current : ∀ r, s.queue.get? l.item.id = some r → r.leaseOwner = some o → r.attempts = l.item.attempts

structure Inv (s : State τ) : Prop where
  row : ∀ id r, s.queue.get? id = some r → r.OK s id
  lease : ∀ o l, s.leases.get? o = some l → l.OK s o

omit [LinearOrder τ] in
theorem inv_init : Inv (.init τ) where
  row _ _ h := by cases h
  lease _ _ h := by cases h

variable {s : State τ}

omit [LinearOrder τ] in
theorem inv_leases (h : Inv s) {p : Nat → Lease → Bool} {f : Lease → Lease}
    (hitem : ∀ l, (f l).item = l.item) (hf : ∀ o l, p o l = true → l.Staged → (f l).Staged) :
    Inv { s with leases := s.leases.updateWhere p f } := by
  have hsame : ∀ o l, (if p o l then f l else l).item = l.item := by
    intro o l; split
    · exact hitem l
    · rfl
  constructor
  · intro id r hr
    obtain ⟨h1, h2, h3, h4⟩ := h.row id r hr
    refine ⟨h1, ?_, h3, h4⟩
    rw [← h2]
    simp only [State.claims, Table.countWhere_updateWhere, hsame]
  · intro o l hl
    simp only [Table.get?_updateWhere, Option.map_eq_some_iff] at hl
    obtain ⟨l₀, hl₀, rfl⟩ := hl
    obtain ⟨h1, h2, h3, h4, h5⟩ := h.lease o l₀ hl₀
    grind [Lease.OK]

omit [LinearOrder τ] in
theorem claims_of_new {id : Nat} (h : Inv s) (hid : s.nextID ≤ id) : s.claims id = 0 := by
  refine Table.countWhere_eq_zero fun o l hl => ?_
  have := (h.lease o l hl).id_lt
  simp only [decide_eq_false_iff_not]
  omega

variable {c} in
theorem inv_add (h : Inv s) (pduID pduPayload targetURL : String) (now : Nat) :
    Inv (step c s (.add pduID pduPayload targetURL now)) := by
  have hfree : s.queue.get? s.nextID = none := by
    cases hr : s.queue.get? s.nextID with
    | none => rfl
    | some r => exact absurd (h.row _ r hr).id_lt (lt_irrefl _)
  constructor
  · intro id r hr
    simp only [step, Table.get?_insertOrIgnore, hfree, Option.getD_none] at hr
    split at hr
    · rename_i hid
      subst hid
      cases hr
      exact ⟨Nat.lt_succ_self _, claims_of_new (s := s) h le_rfl, fun _ => Nat.zero_lt_succ 9, fun o ho => by cases ho⟩
    · obtain ⟨h1, h2, h3, h4⟩ := h.row id r hr
      exact ⟨Nat.lt_succ_of_lt h1, h2, h3, h4⟩
  · intro o l hl
    obtain ⟨h1, h2, h3, h4, h5⟩ := h.lease o l hl
    grind [step, Table.get?_insertOrIgnore, Lease.OK]

variable {c} in
theorem inv_claim (h : Inv s) (now : Nat) (tie : Nat → Nat) : Inv (step c s (.claim now tie)) := by
  rcases claim_cases (c := c) now s.owners tie s.queue with hn | ⟨id, r, -, hr, hdue, hn⟩
  · simpa only [step, hn] using h
  have hfree : s.leases.get? s.owners = none := by
    cases hl : s.leases.get? s.owners with
    | none => rfl
    | some l => exact absurd (h.lease _ l hl).owner_lt (lt_irrefl _)
  have hrow : ∀ k r', (s.queue.updateWhere (fun k r => k = id && due c now r) (leaseRow c now s.owners)).get? k = some r' →
      (k = id ∧ r' = leaseRow c now s.owners r) ∨ (k ≠ id ∧ s.queue.get? k = some r') := by
    intro k r' hr'
    rw [Table.get?_updateWhere] at hr'
    by_cases hk : k = id
    · grind
    · refine .inr ⟨hk, ?_⟩
      simpa [hk] using hr'
  obtain ⟨h1, h2, h3, h4⟩ := h.row id r hr
  simp only [step, hn]
  constructor
  · intro k r' hr'
    rcases hrow k r' hr' with ⟨rfl, rfl⟩ | ⟨hk, hr'⟩
    · refine ⟨h1, ?_, (by intro hp; cases hp), fun o ho => ?_⟩
      · grind [State.claims, Table.countWhere_insertOrIgnore, leaseItem, scanFederationQueue, leaseRow]
      · cases ho; exact Nat.lt_succ_self _
    · obtain ⟨k1, k2, k3, k4⟩ := h.row k r' hr'
      grind [State.claims, Table.countWhere_insertOrIgnore, leaseItem, scanFederationQueue, Row.OK]
  · intro o l hl
    simp only [Table.get?_insertOrIgnore, hfree, Option.getD_none] at hl
    split at hl
    · -- the new lease
      rename_i ho
      cases hl
      refine ⟨ho ▸ Nat.lt_succ_self _, by rw [ho]; rfl, h1, fun hs => ?_, fun r' hr' _ => ?_⟩
      · rcases hs with hs | ⟨b, hs⟩ <;> cases hs
      · rcases hrow _ r' hr' with ⟨-, rfl⟩ | ⟨hk, -⟩
        · rfl
        · exact absurd rfl hk
    · -- an older lease: the claimed row is not leased to its owner any more
      rename_i ho
      obtain ⟨k1, k2, k3, k4, k5⟩ := h.lease o l hl
      refine ⟨Nat.lt_succ_of_lt k1, k2, k3, k4, fun r' hr' hown => ?_⟩
      rcases hrow _ r' hr' with ⟨-, rfl⟩ | ⟨-, hr'⟩
      · exact absurd (Option.some.inj hown).symm ho
      · exact k5 r' hr' hown

variable {c} in
omit [LinearOrder τ] in
theorem inv_settleQueue (h : Inv s) {o : Nat} {l : Lease} (hl : s.leases.get? o = some l) (now : Nat) :
    Inv { s with queue := settleQueue c now l s.queue } := by
  have hrow : ∀ id r, (settleQueue c now l s.queue).get? id = some r →
      s.queue.get? id = some r ∨ (r.OK s id ∧ r.leaseOwner = none) := by
    intro id r hr
    cases hr₀ : s.queue.get? id with
    | none => rw [settleQueue_none now l s.queue hr₀] at hr; cases hr
    | some r₀ =>
      rcases settleQueue_get? (c := c) now l s.queue hr₀ with hk | ⟨hleased, ⟨-, hk⟩ | ⟨-, hk⟩⟩
      · rw [hk] at hr; exact .inl hr
      · rw [hk] at hr; cases hr
      · rw [hk] at hr
        cases hr
        obtain ⟨rfl, -, hown⟩ := leasedTo_iff.1 hleased
        have hlease := h.lease o l hl
        have hatt := hlease.current r₀ hr₀ (hown.trans hlease.owner)
        refine .inr ⟨⟨hlease.id_lt, ?_, ?_, fun o ho => by cases ho⟩, rfl⟩
        · rw [(h.row _ r₀ hr₀).claims, hatt]
          unfold rescheduled; split <;> rfl
        grind [rescheduled, saveRow]
  constructor
  · intro id r hr
    rcases hrow id r hr with hr | ⟨hok, -⟩
    · obtain ⟨h1, h2, h3, h4⟩ := h.row id r hr
      exact ⟨h1, h2, h3, h4⟩
    · obtain ⟨h1, h2, h3, h4⟩ := hok
      exact ⟨h1, h2, h3, h4⟩
  · intro o' l' hl'
    obtain ⟨h1, h2, h3, h4, h5⟩ := h.lease o' l' hl'
    grind [Lease.OK]

theorem staged_over (l : Lease) : Lease.Staged { l with stage := .over } := by
  rintro (hs | ⟨b, hs⟩) <;> cases hs

theorem inv_step (h : Inv s) (e : Event) : Inv (step c s e) := by
  cases e with
  | add pduID pduPayload targetURL now => exact inv_add h pduID pduPayload targetURL now
  | claim now tie => exact inv_claim h now tie
  | send owner => exact inv_leases h (fun _ => rfl) fun _ _ _ _ _ => rfl
  | sendReturns owner success =>
    refine inv_leases h (fun _ => rfl) fun o l hp hs _ => ?_
    simp only [Bool.and_eq_true, decide_eq_true_eq] at hp
    exact hs (.inl hp.2)
  | settle owner now reached =>
    simp only [step]
    split
    · exact h
    rename_i l hl
    have hq : Inv { s with queue := if reached then settleQueue c now l s.queue else s.queue } := by
      split
      · exact inv_settleQueue h hl now
      exact h
    exact inv_leases hq (fun _ => rfl) fun _ l _ _ => staged_over l
  | crash owner => exact inv_leases h (fun _ => rfl) fun _ l _ _ => staged_over l

theorem inv_reachable (es : List Event) : Inv (exec (step c) (.init τ) es) := 
  exec_invariant (P := Inv) (fun _ e h => inv_step c h e) es inv_init

/-! ## The cap -/

/-- No item was claimed more often than the cap allows. -/
def Capped (s : State τ) : Prop := ∀ id, s.claims id ≤ maxAttempts

omit [LinearOrder τ] in
theorem capped_leases (h : Capped s) {p : Nat → Lease → Bool} {f : Lease → Lease}
    (hitem : ∀ l, (f l).item = l.item) (q : Queue τ) :
    Capped { s with queue := q, leases := s.leases.updateWhere p f } := by
  intro id
  have hid := h id
  simpa only [State.claims, Table.countWhere_updateWhere, apply_ite Lease.item, hitem, ite_self] using hid

theorem capped_step {e : Event} (h : Inv s) (hcap : Capped s) (hok : Spared c s e) : Capped (step c s e) := by
  cases e with
  | add => exact hcap
  | claim now tie =>
    rcases claim_cases (c := c) now s.owners tie s.queue with hn | ⟨id', r, hsel, hr, hdue, hn⟩
    · simpa only [step, hn] using hcap
    have hfree : s.leases.get? s.owners = none := by
      cases hl : s.leases.get? s.owners with
      | none => rfl
      | some l => exact absurd (h.lease _ l hl).owner_lt (lt_irrefl _)
    have hlt : r.attempts < maxAttempts := by
      simp only [due, Bool.or_eq_true, Bool.and_eq_true, decide_eq_true_eq] at hdue
      rcases hdue with ⟨hp, -⟩ | ⟨hs, -⟩
      · exact (h.row id' r hr).left hp
      · exact hok r (by rw [hsel]; exact hr) hs
    intro id
    simp only [step, hn, State.claims, Table.countWhere_insertOrIgnore hfree, leaseItem, scanFederationQueue]
    have hclaims := (h.row id' r hr).claims
    have hle := hcap id
    grind [State.claims]
  | send | sendReturns | crash =>
    refine capped_leases hcap ?_ _
    exact fun _ => rfl
  | settle owner now reached =>
    grind [step, capped_leases]

omit [LinearOrder τ] in
theorem sends_le_claims (s : State τ) (id : Nat) : s.sends id ≤ s.claims id :=
  s.leases.countWhere_mono fun _ _ h => (Bool.and_eq_true _ _ ▸ h).1

/-! ## Deletion -/

theorem deleted_step {id : Nat} (h : Inv s) {e : Event} (hr : s.queue.get? id = some r)
    (hgone : (step c s e).queue.get? id = none) :
    ∃ o l, s.leases.get? o = some l ∧ l.item.id = id ∧ l.handed = true ∧ l.stage = .returned true ∧
      r.status = .sending ∧ r.leaseOwner = some o := by
  cases e with
  | add =>
    grind [step, Table.get?_insertOrIgnore]
  | claim now tie =>
    rcases claim_cases (c := c) now s.owners tie s.queue with hn | ⟨id', r', -, -, -, hn⟩
    · grind [step]
    grind [step, Table.get?_updateWhere]
  | settle owner now reached =>
    simp only [step] at hgone
    split at hgone
    · rw [hr] at hgone; cases hgone
    rename_i l hl
    simp only at hgone
    split at hgone
    · rcases settleQueue_get? (c := c) now l s.queue hr with hk | ⟨hleased, ⟨hstage, -⟩ | ⟨-, hk⟩⟩
      · rw [hk] at hgone; cases hgone
      · have hlease := h.lease owner l hl
        obtain ⟨rfl, hs, hown⟩ := leasedTo_iff.1 hleased
        exact ⟨owner, l, hl, rfl, hlease.staged (.inr ⟨true, hstage⟩), hstage, hs, hown.trans hlease.owner⟩
      · rw [hk] at hgone; cases hgone
    · rw [hr] at hgone; cases hgone
  | send | sendReturns | crash => simp only [step] at hgone; rw [hr] at hgone; cases hgone

/-! ## Bounded delivery -/

/-- Delivery is bounded: in every run in which no claim takes over an expired lease of an item on
its tenth attempt, no item is handed to `sendTransaction` more than ten times; and in every run,
whatever crashes and whichever saves fail, a step that removes an item is the step of a worker whose
`sendTransaction` of that item returned success and to which the row is still leased. -/
theorem bounded_delivery (es : List Event) :
    (Along (step c) (Spared c) (.init τ) es → ∀ id, (exec (step c) (.init τ) es).sends id ≤ maxAttempts) ∧
    ∀ (e : Event) (id : Nat) (r : Row τ), (exec (step c) (.init τ) es).queue.get? id = some r →
      (step c (exec (step c) (.init τ) es) e).queue.get? id = none →
      ∃ o l, (exec (step c) (.init τ) es).leases.get? o = some l ∧ l.item.id = id ∧ l.handed = true ∧
        l.stage = .returned true ∧ r.status = .sending ∧ r.leaseOwner = some o := by
  constructor
  · intro hok id
    have hinv : Inv (exec (step c) (.init τ) es) ∧ Capped (exec (step c) (.init τ) es) := by
      refine Along.invariant (P := fun s => Inv s ∧ Capped s) ?_ ⟨inv_init, fun id => ?_⟩ hok
      · grind [inv_step, capped_step]
      · exact Nat.zero_le _
    exact (sends_le_claims _ id).trans (hinv.2 id)
  grind [deleted_step, inv_reachable]

/-- A PDU is queued at 2026-07-17T12:00:00Z and `n` workers claim it, each when the lease before has
run out. The peer accepts the connection and never answers: `sendTransaction` fails when the
item's context ends, and the save under that context fails with it. -/
def hangingPeer (n : Nat) : List Event :=
  .add "pdu-1" "\x7b\x7d" "peer.example" (63919886400 * second) ::
    (List.range n).flatMap fun k =>
      [.claim (63919886400 * second + k * leaseDuration) id, .send k, .sendReturns k false,
        .settle k (63919886400 * second + k * leaseDuration + 40 * second) false]

def answeringPeer : List Event :=
  hangingPeer 1 ++ [.claim (63919886400 * second + leaseDuration) id, .send 1, .sendReturns 1 true]

/-- The item was sent at most ten times, and when the second worker settles and the row goes, it
is the worker whose send succeeded. -/
theorem delivered_on_second_attempt :
    (exec (step .text) (.init String) answeringPeer).sends 1 ≤ maxAttempts ∧
    ∃ l, (exec (step .text) (.init String) answeringPeer).leases.get? 1 = some l ∧ l.item.id = 1 ∧ l.handed = true ∧
      l.stage = .returned true := by
  obtain ⟨hbound, hdelete⟩ := bounded_delivery .text answeringPeer
  refine ⟨hbound (by decide +kernel) 1, ?_⟩
  obtain ⟨o, l, hl, hid, hhanded, hstage, -, ho⟩ :=
    hdelete (.settle 1 (63919886400 * second + leaseDuration + second) true) 1
      ⟨"pdu-1", "\x7b\x7d", "peer.example", .sending, 2, "", formatTime (63919886400 * second), some 1,
        formatTime (63919886400 * second + 2 * leaseDuration)⟩ (by decide +kernel) (by decide +kernel)
  cases ho
  exact ⟨l, hl, hid, hhanded, hstage⟩

/-- With a peer that never answers, the item is handed over an eleventh time and is still not
`failed`: an expired lease is claimed again whatever its attempts. -/
theorem sent_eleven_times :
    (exec (step .text) (.init String) (hangingPeer 11)).sends 1 = 11 ∧
      ((exec (step .text) (.init String) (hangingPeer 11)).queue.get? 1).map Row.status = some .sending := by
  decide +kernel

end GaiaCom.Federation.Delivery
