/-
The transport outbox of sql_store_transport_queue.go: `Enqueue`, `Claim`, `Complete` and `Defer`
on the table transport_outbox. Each SQL statement is atomic, so the machine has one event for each
statement and `Claim` is up to three of them (`claim_eq_exec`); workers interleave between
statements. Two results are about all runs: the state machine of a row (`outbox_rows`), and when
a lease is safe until it ends (`live_lease_iff`).
-/
import GaiaCom.Lib.Run
import GaiaCom.Lib.Table
import GaiaCom.Store.Column
import GaiaCom.TransportQueue.Envelope

namespace GaiaCom.TransportQueue

open Lib Store

/-! ## The table -/

/-- The column `status`. -/
inductive Status where
  | pending | leased | delivered | deadLetter
  deriving DecidableEq, Repr

def Status.terminal : Status → Bool
  | .delivered | .deadLetter => true
  | _ => false

/-- A row of transport_outbox under its `envelope_id`. -/
structure Row (τ : Type) where
  recipient : String
  payload : List UInt8
  payloadHash : Digest
  signature : List UInt8
  allowedTransports : Transport
  priority : UInt8
  status : Status
  attempts : Nat
  nextAttemptAt : τ
  leaseOwner : String
  leaseUntil : τ
  lastErrorCode : String
  createdAt : τ
  updatedAt : τ
  expiresAt : τ
  deliveredAt : τ
  deliveredVia : String
  deriving DecidableEq

/-- The table transport_outbox. -/
abbrev Outbox (τ : Type) := Table String (Row τ)

/-- A lease owner of `NewLeaseOwner`: random hex digits, never the empty text. -/
structure LeaseOwner where
  text : String
  ne : text ≠ ""

/-- The input of a `Claim` call that passed its checks, with the owner it drew. -/
structure ClaimInput where
  now : Nat
  leaseDuration : Nat
  owner : LeaseOwner
  now_ne : now ≠ 0
  duration_pos : 0 < leaseDuration
  duration_le : leaseDuration ≤ 10 * minute

variable {τ : Type} [LinearOrder τ] (c : TimeColumn τ) (sha256 : List UInt8 → Digest)

/-! ## Enqueue -/

def insertable (e : Envelope) : Bool :=
  1 ≤ e.payload.length && e.payload.length ≤ 67108864 && e.payloadHash.bytes.length == 32 &&
    1 ≤ e.signature.length && e.signature.length ≤ 4096 && 1 ≤ e.allowedTransports && e.allowedTransports ≤ 7 &&
    e.priority ≤ 100

/-- The row `Enqueue` inserts. -/
def newRow (e : Envelope) : Row τ where
  recipient := e.recipient
  payload := e.payload
  payloadHash := e.payloadHash
  signature := e.signature
  allowedTransports := e.allowedTransports
  priority := e.priority
  status := .pending
  attempts := 0
  nextAttemptAt := c.format e.createdAt
  leaseOwner := ""
  leaseUntil := c.format 0
  lastErrorCode := ""
  createdAt := c.format e.createdAt
  updatedAt := c.format e.createdAt
  expiresAt := c.format e.expiresAt
  deliveredAt := c.format 0
  deliveredVia := ""

/-- `verifyExistingEnvelope`. -/
def verifyExistingEnvelope (s : Outbox τ) (e : Envelope) : Except QueueError Unit :=
  match s.get? e.id with
  | none => .error .noRows
  | some r =>
    if r.recipient ≠ e.recipient ∨ r.payloadHash ≠ e.payloadHash ∨ r.signature ≠ e.signature ∨
        r.allowedTransports ≠ e.allowedTransports then .error .conflict
    else .ok ()

/-- `Enqueue`; `INSERT OR IGNORE` ignores a taken id and a failed CHECK alike. -/
def enqueue (s : Outbox τ) (e : Envelope) : Outbox τ × Except QueueError Bool :=
  if !verifyPayload sha256 e.payload e.payloadHash then (s, .error .integrity)
  else if insertable e && (s.get? e.id).isNone then (s.insertOrIgnore e.id (newRow c e), .ok true)
  else (s, (verifyExistingEnvelope s e).map fun _ => false)

/-! ## Claim -/

/-- The rows the sweep of `Claim` gives up. -/
def swept (now : Nat) (r : Row τ) : Bool :=
  (r.status == .pending || r.status == .leased) && (r.expiresAt ≤ c.format now || maxAttempts ≤ r.attempts)

def giveUp (now : Nat) (r : Row τ) : Row τ :=
  { r with
    status := .deadLetter
    leaseOwner := ""
    leaseUntil := c.format 0
    updatedAt := c.format now
    lastErrorCode := if r.expiresAt ≤ c.format now then "expired" else "attempt_limit" }

/-- First statement of `Claim`. -/
def sweep (input : ClaimInput) (s : Outbox τ) : Outbox τ :=
  s.updateWhere (fun _ r => swept c input.now r) (giveUp c input.now)

/-- The rows `Claim` may lease. -/
def due (now : Nat) (r : Row τ) : Bool :=
  c.format now < r.expiresAt && r.attempts < maxAttempts &&
    ((r.status == .pending && r.nextAttemptAt ≤ c.format now) || (r.status == .leased && r.leaseUntil ≤ c.format now))

/-- `ORDER BY priority DESC, next_attempt_at ASC, created_at ASC`; SQL leaves the order of equal
rows open, `tie` stands for whatever the engine does. -/
def precedes (tie : String → Nat) (a b : String × Row τ) : Bool :=
  if a.2.priority ≠ b.2.priority then b.2.priority < a.2.priority
  else if a.2.nextAttemptAt ≠ b.2.nextAttemptAt then a.2.nextAttemptAt < b.2.nextAttemptAt
  else if a.2.createdAt ≠ b.2.createdAt then a.2.createdAt < b.2.createdAt
  else tie a.1 < tie b.1

/-- What the lease statement of `Claim` makes of the selected row. -/
def leaseRow (input : ClaimInput) (r : Row τ) : Row τ :=
  { r with
    status := .leased
    attempts := r.attempts + 1
    leaseOwner := input.owner.text
    leaseUntil := c.format (input.now + input.leaseDuration)
    updatedAt := c.format input.now }

/-- `scanTransportLease`. -/
def scanTransportLease (id : String) (r : Row τ) : Except QueueError Lease :=
  if r.payloadHash.bytes.length ≠ 32 ∨ r.allowedTransports < 1 ∨ Transport.all < r.allowedTransports ∨ 100 < r.priority then
    .error .integrity
  else if c.parse r.createdAt = 0 ∨ c.parse r.expiresAt = 0 ∨ c.parse r.leaseUntil = 0 then .error .integrity
  else .ok
    { id, recipient := r.recipient, payload := r.payload, payloadHash := r.payloadHash, signature := r.signature,
      allowedTransports := r.allowedTransports, priority := r.priority, attempts := r.attempts,
      createdAt := c.parse r.createdAt, expiresAt := c.parse r.expiresAt,
      owner := r.leaseOwner, leaseUntil := c.parse r.leaseUntil }

/-- Second statement of `Claim`: lease the first due row and read it back. -/
def leaseNext (input : ClaimInput) (tie : String → Nat) (s : Outbox τ) :
    Outbox τ × Except QueueError (Option Lease) :=
  match s.first? (fun _ r => due c input.now r) (precedes tie) with
  | none => (s, .ok none)
  | some id =>
    let s' := s.updateWhere (fun k _ => k = id) (leaseRow c input)
    match s'.get? id with
    | none => (s', .ok none)
    | some r => (s', (scanTransportLease c id r).map some)

/-- What the third statement of `Claim` makes of a row whose payload does not match its hash. -/
def failIntegrity (now : Nat) (r : Row τ) : Row τ :=
  { r with
    status := .deadLetter
    leaseOwner := ""
    leaseUntil := c.format 0
    lastErrorCode := "integrity_failure"
    updatedAt := c.format now }

/-- Third statement of `Claim`. -/
def rejectPayload (input : ClaimInput) (id : String) (s : Outbox τ) : Outbox τ :=
  s.updateWhere (fun k r => k = id && r.leaseOwner == input.owner.text) (failIntegrity c input.now)

/-- `Claim` after its input checks; an error of the sweep is ignored, `sweeps` says whether it ran. -/
def claimChecked (input : ClaimInput) (sweeps : Bool) (tie : String → Nat) (s : Outbox τ) :
    Outbox τ × Except QueueError (Option Lease) :=
  let s := if sweeps then sweep c input s else s
  match leaseNext c input tie s with
  | (s, .ok (some lease)) =>
    if verifyPayload sha256 lease.payload lease.payloadHash then (s, .ok (some lease))
    else (rejectPayload c input lease.id s, .error .integrity)
  | other => other

/-- `Claim`. -/
def claim (now : Nat) (leaseDuration : Int) (owner : LeaseOwner) (sweeps : Bool) (tie : String → Nat)
    (s : Outbox τ) : Outbox τ × Except QueueError (Option Lease) :=
  if h : now = 0 ∨ leaseDuration ≤ 0 ∨ (10 * minute : Nat) < leaseDuration then (s, .error .invalidInput)
  else claimChecked c sha256
    { now, leaseDuration := leaseDuration.toNat, owner, now_ne := by omega, duration_pos := by omega,
      duration_le := by omega } sweeps tie s

/-! ## Complete and Defer -/

/-- `requireSingleLeaseMutation`. -/
def requireSingleLeaseMutation (affected : Nat) : Except QueueError Unit :=
  if affected ≠ 1 then .error .leaseLost else .ok ()

/-- The rows `Complete` delivers. -/
def completable (lease : Lease) (via : Transport) (now : Nat) (r : Row τ) : Bool :=
  r.status == .leased && r.leaseOwner == lease.owner && c.format now < r.leaseUntil && (r.allowedTransports &&& via) != 0

/-- What `Complete` makes of such a row. -/
def deliver (via : Transport) (now : Nat) (r : Row τ) : Row τ :=
  { r with
    status := .delivered
    deliveredAt := c.format now
    deliveredVia := via.name
    updatedAt := c.format now
    leaseOwner := ""
    leaseUntil := c.format 0
    lastErrorCode := "" }

/-- `Complete`. -/
def complete (lease : Lease) (via : Transport) (now : Nat) (s : Outbox τ) : Outbox τ × Except QueueError Unit :=
  if lease.id = "" ∨ lease.owner = "" ∨ via.validSingle = false ∨ now = 0 then (s, .error .invalidInput)
  else
    (s.updateWhere (fun k r => k = lease.id && completable c lease via now r) (deliver c via now),
      requireSingleLeaseMutation (s.countWhere fun k r => k = lease.id && completable c lease via now r))

/-- What `Defer` makes of the row a lease is held on. -/
def putBack (status : Status) (errorCode : String) (nextAttempt now : Nat) (r : Row τ) : Row τ :=
  { r with
    status := status
    nextAttemptAt := c.format nextAttempt
    lastErrorCode := errorCode
    updatedAt := c.format now
    leaseOwner := ""
    leaseUntil := c.format 0 }

/-- The rows `Defer` changes; the end of the lease is not looked at. -/
def deferrable (lease : Lease) (r : Row τ) : Bool := r.status == .leased && r.leaseOwner == lease.owner

/-- `Defer`. -/
def defer (lease : Lease) (errorCode : String) (nextAttempt : Nat) (deadLetter : Bool) (now : Nat) (s : Outbox τ) :
    Outbox τ × Except QueueError Unit :=
  if lease.id = "" ∨ lease.owner = "" ∨ validErrorCode errorCode = false ∨ now = 0 then (s, .error .invalidInput)
  else if ¬ (deadLetter ∨ maxAttempts ≤ lease.attempts) ∧ (nextAttempt ≤ now ∨ lease.expiresAt < nextAttempt) then
    (s, .error .invalidInput)
  else
    let status := if deadLetter ∨ maxAttempts ≤ lease.attempts then .deadLetter else .pending
    (s.updateWhere (fun k r => k = lease.id && deferrable lease r) (putBack c status errorCode nextAttempt now),
      requireSingleLeaseMutation (s.countWhere fun k r => k = lease.id && deferrable lease r))

/-- embedded_transport_queue.go `ClaimTransport`. -/
def claimTransport (now : Nat) (owner : LeaseOwner) (sweeps : Bool) (tie : String → Nat) (s : Outbox τ) :
    Outbox τ × Except QueueError (Option Lease) :=
  claim c sha256 now defaultLease owner sweeps tie s

/-- embedded_transport_queue.go `DeferTransport`. -/
def deferTransport (lease : Lease) (errorCode : String) (now : Nat) (deadLetter : Bool) (s : Outbox τ) :
    Outbox τ × Except QueueError Unit :=
  defer c lease errorCode (now + retryDelay lease.attempts) deadLetter now s

/-! ## The machine -/

/-- One statement on the table. The leases `Complete` and `Defer` are called with are whatever
the caller passes. -/
inductive Event where
  | enqueue (e : Envelope)
  | sweep (input : ClaimInput)
  | lease (input : ClaimInput) (tie : String → Nat)
  | rejectPayload (input : ClaimInput) (id : String)
  | complete (lease : Lease) (via : Transport) (now : Nat)
  | defer (lease : Lease) (errorCode : String) (nextAttempt : Nat) (deadLetter : Bool) (now : Nat)

def step (s : Outbox τ) : Event → Outbox τ
  | .enqueue e => (enqueue c sha256 s e).1
  | .sweep input => sweep c input s
  | .lease input tie => (leaseNext c input tie s).1
  | .rejectPayload input id => rejectPayload c input id s
  | .complete lease via now => (complete c lease via now s).1
  | .defer lease errorCode nextAttempt deadLetter now => (defer c lease errorCode nextAttempt deadLetter now s).1

/-- The clock reading a statement uses; `Enqueue` reads none. -/
def Event.time : Event → Nat
  | .enqueue _ => 0
  | .sweep input | .lease input _ | .rejectPayload input _ => input.now
  | .complete _ _ now | .defer _ _ _ _ now => now

/-- The lease statement of a `Claim`. -/
def Event.isLease : Event → Bool
  | .lease _ _ => true
  | _ => false

/-- The sweep of a `Claim`. -/
def Event.isSweep : Event → Bool
  | .sweep _ => true
  | _ => false

end GaiaCom.TransportQueue
