/-
Receiving federation transactions: the loop of `HandleS2SForward` over `SaveIncomingPDU`, with
`beginPDUProcessing` and `finishPDUProcessing` of federation_service.go. Requests run
concurrently and a request gives way between any two of its atomic actions: reading the clock,
a section under the mutex, a database transaction or statement. A crash drops the in-memory maps
and all requests; the replay guard and what was persisted stay.
-/
import GaiaCom.Federation.Pdu
import GaiaCom.Federation.ReplayGuard
import GaiaCom.Lib.Run

namespace GaiaCom.Federation

open Lib Store

/-! ## State -/

/-- The in-memory maps of the service, both keyed by the PDU id. -/
structure Memory where
  processedPDUs : Table String Nat
  processingPDUs : Table String Unit

/-- Where `SaveIncomingPDU` is with the first PDU a request has left. -/
inductive Phase where
  /-- Before the shape check. -/
  | ready
  /-- Before the mutex section of `beginPDUProcessing`. -/
  | shaped
  /-- Marked as in processing. -/
  | entered
  /-- Before the claim, with the end of the lease read off the clock. -/
  | claiming (leaseUntil : Nat)
  /-- The claim was not made: because there is one already, or because of an error. -/
  | unclaimed (duplicate : Bool)
  /-- Before `persistIncomingPDU`. -/
  | claimed
  /-- After `persistIncomingPDU`, which returned nil or an error. -/
  | persisted (stored : Bool)
  /-- After the mutex section of `finishPDUProcessing`. -/
  | left (stored : Bool)
  /-- Before the completion, with its time read off the clock. -/
  | completing (processedAt : Nat)
  deriving DecidableEq, Repr

def Phase.isClaiming : Phase → Bool
  | .claiming _ => true
  | _ => false

/-- A transaction in the loop of `HandleS2SForward`. -/
structure Request where
  done : List Pdu
  todo : List Pdu
  phase : Phase

/-- A PDU that was persisted. -/
structure Stored where
  origin : String
  pduID : String
  createdAt : Int
  deriving DecidableEq, Repr

/-- The node. `log` and `accepted` record, for the theorems, what was persisted and which
transactions were answered 200. -/
structure Node where
  clock : Nat
  memory : Memory
  guard : Guard
  requests : Table Nat Request
  log : List Stored
  accepted : List (List Pdu)

/-- Maps as after `NewService`. -/
def Memory.empty : Memory := ⟨Table.empty, Table.empty⟩

def Node.init (clock : Nat) : Node := ⟨clock, .empty, Table.empty, Table.empty, [], []⟩

def Pdu.key (p : Pdu) : GuardKey := (p.origin, p.pduID)

def Pdu.stored (p : Pdu) : Stored := ⟨p.origin, p.pduID, p.createdAt⟩

def Stored.key (e : Stored) : GuardKey := (e.origin, e.pduID)

theorem stored_key (p : Pdu) : p.stored.key = p.key := rfl

/-! ## The mutex sections -/

/-- The result of the mutex section of `beginPDUProcessing`. -/
inductive Entry where
  | duplicate | full | entered
  deriving DecidableEq, Repr

/-- `now.Sub(processedAt) > time.Hour`. -/
def stale (now processedAt : Nat) : Bool := processedAt + hour < now

variable {t : Nat}

theorem stale_eq_false {now : Nat} : stale now t = false ↔ now ≤ t + hour := by simp [stale]

/-- `processedPDUs` without the entries older than an hour. -/
def prune (now : Nat) (processed : Table String Nat) : Table String Nat :=
  processed.deleteWhere fun _ processedAt => stale now processedAt

/-- The number of entries at which `processedPDUs` takes no more. -/
def capacity : Nat := 50000

/-- The mutex section of `beginPDUProcessing`. -/
def enter (now : Nat) (m : Memory) (pduID : String) : Memory × Entry :=
  let m := { m with processedPDUs := prune now m.processedPDUs }
  if (m.processedPDUs.get? pduID).isSome then (m, .duplicate)
  else if (m.processingPDUs.get? pduID).isSome then (m, .duplicate)
  else if capacity ≤ m.processedPDUs.size then (m, .full)
  else ({ m with processingPDUs := m.processingPDUs.put pduID () }, .entered)

def unmark (m : Memory) (pduID : String) : Memory :=
  { m with processingPDUs := m.processingPDUs.deleteWhere fun k _ => k = pduID }

/-- The mutex section of `finishPDUProcessing`. -/
def leave (now : Nat) (m : Memory) (pduID : String) (stored : Bool) : Memory :=
  let m := unmark m pduID
  if stored then { m with processedPDUs := m.processedPDUs.put pduID now } else m

/-! ## One action of a request -/

/-- What becomes of the PDU at hand: the next phase, or `SaveIncomingPDU` returns nil,
`ErrPDUAlreadyProcessed` or another error. -/
inductive Outcome where
  | goto (phase : Phase)
  | saved
  | duplicate
  | failed

/-- The next action of `SaveIncomingPDU` on `p`; `ok` says whether the database, if the action
uses it, succeeds. -/
def work (s : Node) (p : Pdu) (ok : Bool) : Phase → Node × Outcome
  | .ready =>
    match validateIncomingPDUShape s.clock p with
    | .error _ => (s, .failed)
    | .ok () => (s, .goto .shaped)
  | .shaped =>
    match enter s.clock s.memory p.pduID with
    | (m, .duplicate) => ({ s with memory := m }, .duplicate)
    | (m, .full) => ({ s with memory := m }, .failed)
    | (m, .entered) => ({ s with memory := m }, .goto .entered)
  | .entered => (s, .goto (.claiming (s.clock + 5 * minute)))
  | .claiming leaseUntil =>
    if !ok then (s, .goto (.unclaimed false))
    else
      ({ s with guard := (claimFederationPDU s.guard p.key leaseUntil s.clock).1 },
        .goto (if (claimFederationPDU s.guard p.key leaseUntil s.clock).2 then .claimed else .unclaimed true))
  | .unclaimed dup => ({ s with memory := unmark s.memory p.pduID }, if dup then .duplicate else .failed)
  | .claimed => if ok then ({ s with log := p.stored :: s.log }, .goto (.persisted true)) else (s, .goto (.persisted false))
  | .persisted stored => ({ s with memory := leave s.clock s.memory p.pduID stored }, .goto (.left stored))
  | .left true => (s, .goto (.completing s.clock))
  | .left false => (if ok then { s with guard := releaseFederationPDU s.guard p.key } else s, .failed)
  | .completing processedAt =>
    if !ok then (s, .failed)
    else
      ({ s with guard := (completeFederationPDU s.guard p.key processedAt).1 },
        if (completeFederationPDU s.guard p.key processedAt).2 then .saved else .failed)

/-- The request after an action on its PDU `p`; an error ends it with the answer 500. -/
def Outcome.next (r : Request) (p : Pdu) (rest : List Pdu) : Outcome → Option Request
  | .goto phase => some { r with phase := phase }
  | .saved | .duplicate => some ⟨r.done ++ [p], rest, .ready⟩
  | .failed => none

def Node.setRequest (s : Node) (i : Nat) : Option Request → Node
  | some r => { s with requests := s.requests.put i r }
  | none => { s with requests := s.requests.deleteWhere fun k _ => k = i }

def advance (s : Node) (i : Nat) (ok : Bool) : Node :=
  match s.requests.get? i with
  | none => s
  | some r =>
    match r.todo with
    | [] => { s.setRequest i none with accepted := r.done :: s.accepted }
    | p :: rest => (work s p ok r.phase).1.setRequest i ((work s p ok r.phase).2.next r p rest)

/-- What may happen to a node. -/
inductive Event where
  | tick (elapsed : Nat)
  /-- A transaction that passed the checks before the loop. -/
  | arrive (i : Nat) (pdus : List Pdu)
  | advance (i : Nat) (ok : Bool)
  | crash

def step (s : Node) : Event → Node
  | .tick elapsed => { s with clock := s.clock + elapsed }
  | .arrive i pdus => { s with requests := s.requests.insertOrIgnore i ⟨[], pdus, .ready⟩ }
  | .advance i ok => advance s i ok
  | .crash => { s with memory := .empty, requests := Table.empty }

def Request.current (r : Request) : Option (Pdu × Phase) := r.todo.head?.map fun p => (p, r.phase)

/-- The same of the request with number `i`. -/
def Node.current (s : Node) (i : Nat) : Option (Pdu × Phase) := (s.requests.get? i).bind Request.current

variable {p : Pdu} {phase : Phase}

@[grind =]
theorem Request.current_eq_some {r : Request} :
    r.current = some (p, phase) ↔ (∃ rest, r.todo = p :: rest) ∧ r.phase = phase := by
  rw [Request.current, Option.map_eq_some_iff]
  constructor
  · rintro ⟨q, hq, heq⟩
    rw [Prod.mk.injEq] at heq
    exact ⟨heq.1 ▸ List.head?_eq_some_iff.1 hq, heq.2⟩
  · rintro ⟨⟨rest, ht⟩, rfl⟩
    exact ⟨p, by rw [ht]; rfl, rfl⟩

variable {s : Node}

@[grind =]
theorem current_eq_some {i : Nat} :
    s.current i = some (p, phase) ↔ ∃ r rest, s.requests.get? i = some r ∧ r.todo = p :: rest ∧ r.phase = phase := by
  rw [Node.current, Option.bind_eq_some_iff]
  constructor
  · rintro ⟨r, hr, hx⟩
    obtain ⟨⟨rest, ht⟩, hp⟩ := Request.current_eq_some.1 hx
    exact ⟨r, rest, hr, ht, hp⟩
  · rintro ⟨r, rest, hr, ht, hp⟩
    exact ⟨r, hr, Request.current_eq_some.2 ⟨⟨rest, ht⟩, hp⟩⟩

/-! ## Requests -/

@[simp, grind =] theorem setRequest_get? (s : Node) (i : Nat) (x : Option Request) (j : Nat) :
    (s.setRequest i x).requests.get? j = if j = i then x else s.requests.get? j := by
  cases x with
  | some r => simp [Node.setRequest]
  | none =>
    simp only [Node.setRequest, Table.get?_deleteWhere]
    by_cases h : j = i
    · cases s.requests.get? j <;> simp [h, Option.filter]
    · cases s.requests.get? j <;> simp [h, Option.filter]

theorem current_next {r : Request} {q : Pdu} {rest : List Pdu} {o : Outcome} (ht : r.todo = p :: rest)
    (h : (o.next r p rest).bind Request.current = some (q, phase)) : q = p ∧ o = .goto phase ∨ phase = .ready := by
  cases o with
  | goto phase' =>
    obtain ⟨⟨rest', ht'⟩, rfl⟩ := Request.current_eq_some.1 h
    rw [ht] at ht'; cases ht'
    exact .inl ⟨rfl, rfl⟩
  | saved | duplicate => exact .inr (Request.current_eq_some.1 h).2.symm
  | failed => cases h

section

variable (s : Node) (i : Nat) (x : Option Request)

@[simp, grind =] theorem setRequest_clock : (s.setRequest i x).clock = s.clock := by
  cases x <;> rfl

@[simp, grind =] theorem setRequest_memory : (s.setRequest i x).memory = s.memory := by
  cases x <;> rfl

@[simp, grind =] theorem setRequest_guard : (s.setRequest i x).guard = s.guard := by
  cases x <;> rfl

@[simp, grind =] theorem setRequest_log : (s.setRequest i x).log = s.log := by
  cases x <;> rfl

@[simp, grind =] theorem setRequest_accepted : (s.setRequest i x).accepted = s.accepted := by
  cases x <;> rfl

end

theorem advance_cases (s : Node) (i : Nat) (ok : Bool) :
    advance s i ok = s ∨
    (∃ r, s.requests.get? i = some r ∧ r.todo = [] ∧
      advance s i ok = { s.setRequest i none with accepted := r.done :: s.accepted }) ∨
    ∃ r p rest, s.requests.get? i = some r ∧ r.todo = p :: rest ∧
      advance s i ok = (work s p ok r.phase).1.setRequest i ((work s p ok r.phase).2.next r p rest) := by
  grind [advance]

theorem current_arrive {i : Nat} {pdus : List Pdu} {j : Nat}
    (h : (step s (.arrive i pdus)).current j = some (p, phase)) : s.current j = some (p, phase) ∨ phase = .ready := by
  obtain ⟨r, rest, hr, ht, hp⟩ := current_eq_some.1 h
  simp only [step, Table.get?_insertOrIgnore] at hr
  split at hr
  · rename_i hj
    subst hj
    cases hr' : s.requests.get? j with
    | none => rw [hr'] at hr; cases hr; exact .inr hp.symm
    | some r' => grind
  · exact .inl (current_eq_some.2 ⟨r, rest, hr, ht, hp⟩)

theorem get?_arrive (s : Node) (i : Nat) (pdus : List Pdu) (j : Nat) (r : Request)
    (h : (step s (.arrive i pdus)).requests.get? j = some r) :
    s.requests.get? j = some r ∨ r = ⟨[], pdus, .ready⟩ := by
  simp only [step, Table.get?_insertOrIgnore] at h
  split at h
  · rename_i hj
    subst hj
    cases hr : s.requests.get? j with
    | none => rw [hr] at h; cases h; exact .inr rfl
    | some r' => rw [hr] at h; exact .inl h
  · exact .inl h

/-! ## What an action leaves alone -/

theorem work_frame (s : Node) (p : Pdu) (ok : Bool) (phase : Phase) :
    (work s p ok phase).1.clock = s.clock ∧ (work s p ok phase).1.requests = s.requests ∧
      (work s p ok phase).1.accepted = s.accepted := by
  fun_cases work <;> simp
  split <;> simp

theorem log_subset_work (s : Node) (p : Pdu) (ok : Bool) (phase : Phase) : s.log ⊆ (work s p ok phase).1.log := by
  fun_cases work <;> simp
  split <;> simp

theorem memory_work (s : Node) (p : Pdu) (ok : Bool) (phase : Phase) :
    (work s p ok phase).1.memory = s.memory ∨ (work s p ok phase).1.memory = (enter s.clock s.memory p.pduID).1 ∨
      (work s p ok phase).1.memory = unmark s.memory p.pduID ∨
      ∃ stored, phase = .persisted stored ∧ (work s p ok phase).1.memory = leave s.clock s.memory p.pduID stored := by
  cases phase with
  | shaped =>
    rcases he : enter s.clock s.memory p.pduID with ⟨m, e⟩
    refine .inr (.inl ?_)
    cases e <;> simp [work, he]
  | unclaimed dup => exact .inr (.inr (.inl rfl))
  | persisted stored => exact .inr (.inr (.inr ⟨stored, rfl, rfl⟩))
  | ready | claiming l | claimed | completing t => left; simp only [work]; split <;> rfl
  | entered => exact .inl rfl
  | left stored => left; cases stored <;> simp only [work]; split <;> rfl

theorem guard_work (s : Node) (p : Pdu) (ok : Bool) (phase : Phase) :
    (work s p ok phase).1.guard = s.guard ∨
      (∃ l, phase = .claiming l ∧ (work s p ok phase).1.guard = (claimFederationPDU s.guard p.key l s.clock).1) ∨
      (work s p ok phase).1.guard = releaseFederationPDU s.guard p.key ∨
      ∃ t, phase = .completing t ∧ (work s p ok phase).1.guard = (completeFederationPDU s.guard p.key t).1 := by
  cases phase with
  | claiming l =>
    cases ok with
    | true => exact .inr (.inl ⟨l, rfl, rfl⟩)
    | false => exact .inl rfl
  | left stored =>
    cases stored with
    | true => exact .inl rfl
    | false =>
      cases ok with
      | true => exact .inr (.inr (.inl rfl))
      | false => exact .inl rfl
  | completing t =>
    cases ok with
    | true => exact .inr (.inr (.inr ⟨t, rfl, rfl⟩))
    | false => exact .inl rfl
  | ready | shaped | claimed => left; simp only [work]; split <;> rfl
  | entered | unclaimed dup | persisted stored => exact .inl rfl

/-! ## Lookups in the maps -/

theorem get?_prune (now : Nat) (processed : Table String Nat) (pduID : String) :
    (prune now processed).get? pduID = (processed.get? pduID).filter fun t => !stale now t := by
  simp [prune]

theorem processed_enter (now : Nat) (m : Memory) (pduID : String) :
    (enter now m pduID).1.processedPDUs = prune now m.processedPDUs := by
  grind [enter]

theorem get?_processing_enter (now : Nat) (m : Memory) (pduID k : String) (h : k ≠ pduID) :
    (enter now m pduID).1.processingPDUs.get? k = m.processingPDUs.get? k := by
  grind [enter]

theorem get?_processing_unmark (m : Memory) (pduID k : String) :
    (unmark m pduID).processingPDUs.get? k = if k = pduID then none else m.processingPDUs.get? k := by
  simp only [unmark, Table.get?_deleteWhere]
  by_cases h : k = pduID
  · cases m.processingPDUs.get? k <;> simp [h, Option.filter]
  · cases m.processingPDUs.get? k <;> simp [h, Option.filter]

theorem get?_processed_leave (now : Nat) (m : Memory) (pduID : String) (stored : Bool) (k : String) :
    (leave now m pduID stored).processedPDUs.get? k =
      if stored = true ∧ k = pduID then some now else m.processedPDUs.get? k := by
  cases stored <;> simp [leave, unmark]

theorem get?_processing_leave (now : Nat) (m : Memory) (pduID : String) (stored : Bool) (k : String) :
    (leave now m pduID stored).processingPDUs.get? k = if k = pduID then none else m.processingPDUs.get? k := by
  rw [← get?_processing_unmark]
  cases stored <;> rfl

theorem get?_processed_work {ok : Bool} {k : String} (h : (work s p ok phase).1.memory.processedPDUs.get? k = some t) :
    s.memory.processedPDUs.get? k = some t ∨ phase = .persisted true ∧ k = p.pduID ∧ t = s.clock := by
  rcases memory_work s p ok phase with heq | heq | heq | ⟨stored, rfl, heq⟩
  · rw [heq] at h; exact .inl h
  · grind [processed_enter, get?_prune, Option.filter_eq_some_iff]
  · rw [heq] at h; exact .inl h
  grind [get?_processed_leave]

theorem get?_completed_work {ok : Bool} {k : GuardKey} (h : (work s p ok phase).1.guard.get? k = some (.completed t)) :
    s.guard.get? k = some (.completed t) ∨ phase = .completing t ∧ k = p.key := by
  rcases guard_work s p ok phase with heq | ⟨l, -, heq⟩ | heq | ⟨t', rfl, heq⟩
  · rw [heq] at h; exact .inl h
  · rw [heq, get?_claimFederationPDU] at h
    split at h
    · cases h
    rw [Option.filter_eq_some_iff] at h; exact .inl h.1
  · rw [heq, get?_releaseFederationPDU, Option.filter_eq_some_iff] at h; exact .inl h.1
  · rw [heq, get?_completeFederationPDU, Option.map_eq_some_iff] at h
    obtain ⟨r, hr, hc⟩ := h
    split at hc
    · rename_i hk; cases hc; exact .inr ⟨rfl, hk.1⟩
    subst hc; exact .inl hr

/-! ## A sample -/

def noon : Nat := 63919886400 * second

def samplePdu (sender : String) (ahead : Int) : Pdu where
  pduID := "018f4d1e-7614-7a3a-8e37-61f0f75a0001"
  type := "smtp.legacy"
  sender := sender
  destination := "@bob:node.example"
  payload := ""
  algorithmSuite := ""
  createdAt := unix noon + ahead
  signature := ""

/-- A request makes `n` actions, none of them failing. -/
def actions (i n : Nat) : List Event := List.replicate n (.advance i true)

end GaiaCom.Federation
