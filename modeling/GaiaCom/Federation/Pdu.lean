/-
Federation PDUs: `models.PDU`, the origin of a PDU and `validateIncomingPDUShape` of
federation_service.go.
-/
import GaiaCom.Core.Uuid
import GaiaCom.Core.Validate
import GaiaCom.Lib.Json
import GaiaCom.Store.Time

namespace GaiaCom.Federation

open Lib Core Store

/-- `models.PDU`. -/
structure Pdu where
  pduID : String
  type : String
  sender : String
  destination : String
  payload : String
  algorithmSuite : String
  createdAt : Int
  signature : String
  deriving DecidableEq

/-- The PDU types a node accepts. -/
inductive Kind where
  | encrypted | smtpLegacy | post | comment | reaction | postDelete | commentDelete | profile | follow | unfollow
  deriving DecidableEq, Repr

def kind (type : String) : Option Kind :=
  if type = "gaia.encrypted.v1" then some .encrypted
  else if type = "smtp.legacy" then some .smtpLegacy
  else if type = "gsn.post.v1" then some .post
  else if type = "gsn.comment.v1" then some .comment
  else if type = "gsn.reaction.v1" then some .reaction
  else if type = "gsn.post_delete.v1" then some .postDelete
  else if type = "gsn.comment_delete.v1" then some .commentDelete
  else if type = "gsn.profile.v1" then some .profile
  else if type = "gsn.follow.v1" then some .follow
  else if type = "gsn.unfollow.v1" then some .unfollow
  else none

def domainOf (value : String) : String := toLower (afterColon value)

/-- `gaiaIDDomain`; a valid GaiaID has text after its last colon. -/
def gaiaIDDomain (value : String) : Except GaiaIDError String :=
  match gaiaID value with
  | .error err => .error err
  | .ok () => .ok (domainOf value)

def Pdu.origin (p : Pdu) : String := domainOf p.sender

/-! ## Shape -/

/-- Why a PDU is malformed. -/
inductive ShapeError where
  | sender (cause : GaiaIDError)
  | destination (cause : GaiaIDError)
  | type (type : String)
  | pduID
  | skew
  | payload
  | downgrade
  | signatureBundle
  deriving DecidableEq, Repr

/-- `federationTopSecretAlgorithmSuite`. -/
def topSecretSuite : String :=
  "GaiaCom/v1.0/sovereign-top-secret/X25519+ML-KEM-1024+HQC-256/" ++
    "Serpent-256-CTR-HMAC-SHA3-512+Twofish-256-EAX+XChaCha20-Poly1305+AES-256-GCM-SIV/Ed25519+ML-DSA-87"

/-- The fields of an encrypted payload that `validateFederatedEncryptedSuite` looks at. -/
structure EncryptedEnvelope where
  algorithmSuite : String
  mldsa87 : String
  mldsa87Public : String

def decodeEnvelope (payload : String) : Option EncryptedEnvelope := do
  let ms ← (← Json.parse payload).members
  let bundle ← Json.structField "signature_bundle" ms
  return {
    algorithmSuite := ← Json.stringField "algorithm_suite" ms
    mldsa87 := ← Json.stringField "ml_dsa_87" bundle
    mldsa87Public := ← Json.stringField "ml_dsa_87_public" bundle }

/-- `validateFederatedEncryptedSuite`. -/
def validateFederatedEncryptedSuite (p : Pdu) : Except ShapeError Unit :=
  match decodeEnvelope p.payload with
  | none => .error .payload
  | some envelope =>
    let pduSuite := trimSpace p.algorithmSuite
    let payloadSuite := trimSpace envelope.algorithmSuite
    if payloadSuite = topSecretSuite ∨ pduSuite = topSecretSuite then
      if pduSuite ≠ topSecretSuite ∨ payloadSuite ≠ topSecretSuite then .error .downgrade
      else if trimSpace envelope.mldsa87 = "" ∨ trimSpace envelope.mldsa87Public = "" then .error .signatureBundle
      else .ok ()
    else .ok ()

/-- `validateIncomingPDUShape` at clock `now`. -/
def validateIncomingPDUShape (now : Nat) (p : Pdu) : Except ShapeError Unit :=
  match gaiaID p.sender with
  | .error err => .error (.sender err)
  | .ok () =>
    match gaiaID p.destination with
    | .error err => .error (.destination err)
    | .ok () =>
      if (kind p.type).isNone then .error (.type p.type)
      else if (parse p.pduID).isNone then .error .pduID
      else if p.createdAt < unix now - 3600 ∨ unix now + 3600 < p.createdAt then .error .skew
      else if p.type = "gaia.encrypted.v1" then validateFederatedEncryptedSuite p
      else .ok ()

theorem window_of_shape {now : Nat} {p : Pdu} (h : validateIncomingPDUShape now p = .ok ()) :
    unix now - 3600 ≤ p.createdAt ∧ p.createdAt ≤ unix now + 3600 := by
  unfold validateIncomingPDUShape at h
  split at h
  · cases h
  split at h
  · cases h
  split at h
  · cases h
  split at h
  · cases h
  split at h
  · cases h
  rename_i hw; omega

end GaiaCom.Federation
