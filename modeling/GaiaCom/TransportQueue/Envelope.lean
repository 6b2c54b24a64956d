/-
transportqueue/queue.go: the envelopes of the transport queue, the checks `NewEnvelope` makes on
them and the errors the queue reports. SHA-256 is a parameter of everything that hashes.
-/
import GaiaCom.Core.Uuid
import GaiaCom.Store.Time

namespace GaiaCom.TransportQueue

open Lib Core Store

/-! ## Constants and errors -/

/-- `MaxPayloadBytes`. -/
def maxPayloadBytes : Nat := 64 * 1024 * 1024
/-- `MaxSignatureBytes`. -/
def maxSignatureBytes : Nat := 4096
/-- `MaxAttempts`. -/
def maxAttempts : Nat := 12
/-- `DefaultLease`. -/
def defaultLease : Nat := 2 * minute
/-- `MaxRetention`. -/
def maxRetention : Nat := 30 * 24 * hour

/-- The queue's errors, and the `sql.ErrNoRows` that a failed lookup passes through. -/
inductive QueueError where
  | invalidInput | conflict | leaseLost | integrity | noRows
  deriving DecidableEq, Repr

/-! ## Transports -/

/-- `Transport`: a set of transports as a bit mask, one bit for each transport. -/
abbrev Transport := UInt8

namespace Transport

/-- `TransportInternet`. -/
def internet : Transport := 1
/-- `TransportLocalNetwork`. -/
def localNetwork : Transport := 2
/-- `TransportBluetooth`. -/
def bluetooth : Transport := 4
/-- `TransportAll`. -/
def all : Transport := internet ||| localNetwork ||| bluetooth

/-- `ValidSingle`. -/
def validSingle (t : Transport) : Bool := t == internet || t == localNetwork || t == bluetooth

/-- `Name`. -/
def name (t : Transport) : String :=
  if t = internet then "internet"
  else if t = localNetwork then "local_network"
  else if t = bluetooth then "bluetooth"
  else ""

theorem validSingle_iff {t : Transport} :
    validSingle t = true ↔ t = internet ∨ t = localNetwork ∨ t = bluetooth := by
  simp [validSingle, or_assoc]

theorem and_eq_of_validSingle {t : Transport} (ht : validSingle t = true) {allowed : Transport}
    (h : allowed &&& t ≠ 0) : allowed &&& t = t := by
  have bits : ∀ n : Fin 256, ∀ v ∈ [internet, localNetwork, bluetooth],
      UInt8.ofNat n &&& v ≠ 0 → UInt8.ofNat n &&& v = v := by decide +kernel
  have := bits ⟨allowed.toNat, allowed.toNat_lt⟩ t (by
    rcases validSingle_iff.1 ht with rfl | rfl | rfl <;> simp)
  simpa using this (by simpa using h)

end Transport

/-! ## Envelopes -/

/-- `[sha256.Size]byte`. -/
structure Digest where
  bytes : List UInt8
  length_bytes : bytes.length = 32
  deriving DecidableEq

/-- `Envelope`. -/
structure Envelope where
  id : String
  recipient : String
  payload : List UInt8
  payloadHash : Digest
  signature : List UInt8
  allowedTransports : Transport
  priority : UInt8
  attempts : Nat
  createdAt : Nat
  expiresAt : Nat
  deriving DecidableEq

/-- `Lease`; its `Until` is `leaseUntil`, `until` being a keyword of Lean. -/
structure Lease extends Envelope where
  owner : String
  leaseUntil : Nat
  deriving DecidableEq

/-- `validRecipient`. -/
def validRecipient (value : String) : Bool :=
  value != "" && value == trimSpace value && len value ≤ 255 && value.toList.all fun r => !isControl r

/-- `ValidErrorCode`. -/
def validErrorCode (value : String) : Bool :=
  1 ≤ len value && len value ≤ 64 && value.toList.all fun r =>
    r == '_' || r == '-' || (decide ('a' ≤ r) && decide (r ≤ 'z')) || (decide ('0' ≤ r) && decide (r ≤ '9'))

/-- `RetryDelay`: a second, doubled with each attempt up to the tenth. -/
def retryDelay (attempt : Int) : Nat :=
  let attempt := if attempt < 1 then 1 else attempt
  let attempt := if attempt > 10 then 10 else attempt
  2 ^ (attempt - 1).toNat * second

/-- The checks of `NewEnvelope`, in the order of the source; every one fails with `ErrInvalidInput`. -/
def envelopeOk (id recipient : String) (payload signature : List UInt8) (allowed : Transport) (priority : UInt8)
    (now expiresAt : Nat) : Bool :=
  (parse id).isSome && validRecipient recipient && payload.length != 0 && payload.length ≤ maxPayloadBytes &&
    signature.length != 0 && signature.length ≤ maxSignatureBytes && allowed != 0 &&
    (allowed &&& ~~~Transport.all) == 0 && priority ≤ 100 &&
    now != 0 && now < expiresAt && expiresAt ≤ now + maxRetention

variable (sha256 : List UInt8 → Digest)

/-- `VerifyPayload`. -/
def verifyPayload (payload : List UInt8) (expected : Digest) : Bool := sha256 payload = expected

/-- `NewEnvelope`. -/
def newEnvelope (id recipient : String) (payload signature : List UInt8) (allowed : Transport) (priority : UInt8)
    (now expiresAt : Nat) : Except QueueError Envelope :=
  if envelopeOk id recipient payload signature allowed priority now expiresAt then
    .ok { id, recipient, payload, payloadHash := sha256 payload, signature, allowedTransports := allowed, priority,
          attempts := 0, createdAt := now, expiresAt }
  else .error .invalidInput

end GaiaCom.TransportQueue
