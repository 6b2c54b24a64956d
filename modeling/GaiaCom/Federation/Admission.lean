/-
Which transactions a receiver admits: `ValidateAuthenticatedPayload` of federation_service.go. The peer is the
sender `VerifyReceivedRequest` authenticated; the PDUs are those of the decoded body, so their strings
are UTF-8 and are looked at as texts.
-/
import GaiaCom.Federation.Peers
import GaiaCom.Federation.Wire

namespace GaiaCom.Federation.Wire

open Lib Core Store Utf8
open Peers (AuthenticatedPeer)

def PDU.texts (p : PDU) : Pdu where
  pduID := ofBytes p.pduID
  type := ofBytes p.type
  sender := ofBytes p.sender
  destination := ofBytes p.destination
  payload := ofBytes p.payload
  algorithmSuite := ofBytes p.algorithmSuite
  createdAt := p.createdAt.toInt
  signature := ofBytes p.signature

/-- Why a transaction is rejected. -/
inductive PayloadError where
  | peer | origin | skew | batchSize
  | shape (cause : ShapeError)
  | duplicate | senderDomain | destination
  | signature (cause : SignatureError)
  deriving DecidableEq, Repr

/-- `maxFederationPDUsPerTransaction`. -/
def maxFederationPDUsPerTransaction : Nat := 256

def belongsTo (gaiaID domain : String) : Bool :=
  match gaiaIDDomain gaiaID with
  | .error _ => false
  | .ok d => equalFold d domain

section Validation

variable (c : Primitives) (serverName : String) (now : Nat) (peer : AuthenticatedPeer)

/-- The checks of one PDU, after those with the ids in `seen`. -/
def validatePDU (seen : List Bytes) (p : PDU) : Except PayloadError Unit :=
  match validateIncomingPDUShape now p.texts with
  | .error err => .error (.shape err)
  | .ok () =>
    if p.pduID ∈ seen then .error .duplicate
    else if belongsTo p.texts.sender peer.domain = false then .error .senderDomain
    else if belongsTo p.texts.destination serverName = false then .error .destination
    else
      match verifyPDUSignature c p peer.publicKey with
      | .error err => .error (.signature err)
      | .ok () => .ok ()

def validatePDUs : List Bytes → List PDU → Except PayloadError Unit
  | _, [] => .ok ()
  | seen, p :: ps =>
    match validatePDU c serverName now peer seen p with
    | .error err => .error err
    | .ok () => validatePDUs (p.pduID :: seen) ps

/-- `ValidateAuthenticatedPayload` of the node `serverName` at clock `now`. -/
def validateAuthenticatedPayload (t : FederationPayload) : Option AuthenticatedPeer → Except PayloadError Unit
  | none => .error .peer
  | some peer =>
    if domain peer.domain = false ∨ peer.publicKey.length ≠ publicKeySize then .error .peer
    else if equalFold (trimSpace (ofBytes t.origin)) peer.domain = false then .error .origin
    else if isTimestampValid (unix now) t.originServerTS.toInt = false then .error .skew
    else if t.pdus.length = 0 ∨ maxFederationPDUsPerTransaction < t.pdus.length then .error .batchSize
    else validatePDUs c serverName now peer [] t.pdus

variable {c serverName now peer}

@[grind =]
theorem validatePDU_ok {seen : List Bytes} {p : PDU} : validatePDU c serverName now peer seen p = .ok () ↔
    validateIncomingPDUShape now p.texts = .ok () ∧ p.pduID ∉ seen ∧ belongsTo p.texts.sender peer.domain = true ∧
      belongsTo p.texts.destination serverName = true ∧ verifyPDUSignature c p peer.publicKey = .ok () := by
  unfold validatePDU
  split
  · rename_i h; simp [h]
  rename_i h
  simp only [ite_error_eq_ok, Bool.not_eq_false, h, true_and]
  split
  · rename_i hv; simp [hv]
  rename_i hv; simp [hv]

theorem validateAuthenticatedPayload_single {t : FederationPayload} {p : PDU} (ht : t.pdus = [p]) :
    validateAuthenticatedPayload c serverName now t (some peer) = .ok () ↔
      (domain peer.domain = true ∧ peer.publicKey.length = publicKeySize) ∧
        equalFold (trimSpace (ofBytes t.origin)) peer.domain = true ∧
        isTimestampValid (unix now) t.originServerTS.toInt = true ∧
        validateIncomingPDUShape now p.texts = .ok () ∧ belongsTo p.texts.sender peer.domain = true ∧
        belongsTo p.texts.destination serverName = true ∧ verifyPDUSignature c p peer.publicKey = .ok () := by
  have hone : validatePDUs c serverName now peer [] [p] = .ok () ↔ validatePDU c serverName now peer [] p = .ok () := by
    simp only [validatePDUs]
    split
    · rename_i h; simp [h]
    rename_i h; simp [h]
  have hsize : ¬ ([p].length = 0 ∨ maxFederationPDUsPerTransaction < [p].length) := by simp [maxFederationPDUsPerTransaction]
  simp only [validateAuthenticatedPayload, ht, ite_error_eq_ok, hsize, not_false_eq_true, true_and, hone, validatePDU_ok,
    not_or, Bool.not_eq_false, not_not, List.not_mem_nil]

end Validation

end GaiaCom.Federation.Wire
