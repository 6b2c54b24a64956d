/-
The proof of a report in three languages: `CalculateReportProof`, `calculate_report_proof` of trust_mesh.rs and
`calculateReportProof` of crypto.js.

All three hash the message id, the two keys and the ciphertext hash without separators. `SubmitReport` checks the size of
the hash but not those of the keys, so the bytes say which report it is only if the sender keys have one size
(`report_proofs_agree`).
-/
import GaiaCom.Lib.Buffer
import GaiaCom.Trustmesh.Reports

namespace GaiaCom.Trustmesh

open Lib Core
open Federation.Wire (Bytes)

inductive TrustMeshError where
  | invalidSenderKeyLength | invalidRecipientKeyLength
  deriving DecidableEq

def validateIdentityKey (value : Bytes) (error : TrustMeshError) : Except TrustMeshError Unit :=
  if value.length ≠ 32 then .error error else .ok ()

/-- `calculate_report_proof`; the types give the id 16 bytes and the hash 32. -/
def calculateReportProofRust (d : Digests) (messageID : UUID) (senderPubkey recipientPubkey ciphertextHash : Bytes) :
    Except TrustMeshError Bytes := do
  validateIdentityKey senderPubkey .invalidSenderKeyLength
  validateIdentityKey recipientPubkey .invalidRecipientKeyLength
  return d.sha256 (messageID.bytes ++ senderPubkey ++ recipientPubkey ++ ciphertextHash)

/-- `parseInt(text, 16)` of two characters as a byte. Of characters that are no digits nothing is assumed. -/
structure ParseInt where
  value : Char → Char → UInt8
  digits : ∀ a b x y, hexDigit a = some x → hexDigit b = some y → value a b = UInt8.ofNat (16 * x + y)

def ParseInt.pairs (p : ParseInt) : List Char → Bytes
  | a :: b :: rest => p.value a b :: p.pairs rest
  | _ => []

/-- `hexToBytes` of crypto.js. -/
def ParseInt.hexToBytes (p : ParseInt) (hex : List Char) : Bytes :=
  let cleanHex := if hex.take 2 = ['0', 'x'] then hex.drop 2 else hex
  if cleanHex.length % 2 ≠ 0 then [] else p.pairs cleanHex

def ParseInt.parseUUID (p : ParseInt) (uuidStr : String) : Bytes := p.hexToBytes (uuidStr.toList.filter (· ≠ '-'))

/-- `calculateReportProof` of crypto.js; `none` where a block does not fit and `set` throws. -/
def calculateReportProofJs (p : ParseInt) (d : Digests) (messageIDStr senderPubKeyHex recipientPubKeyHex
    ciphertextHashHex : String) : Option String :=
  let msgUUIDBytes := p.parseUUID messageIDStr
  let senderPubBytes := p.hexToBytes senderPubKeyHex.toList
  let recipientPubBytes := p.hexToBytes recipientPubKeyHex.toList
  let ciphertextHashBytes := p.hexToBytes ciphertextHashHex.toList
  (setAll (List.replicate
      (msgUUIDBytes.length + senderPubBytes.length + recipientPubBytes.length + ciphertextHashBytes.length) 0) 0
    [(msgUUIDBytes, msgUUIDBytes.length), (senderPubBytes, senderPubBytes.length),
      (recipientPubBytes, recipientPubBytes.length), (ciphertextHashBytes, ciphertextHashBytes.length)]).map
    fun input => hexEncode (d.sha256 input)

/-- The checks of `SubmitReport` up to the proof leave the bytes `k`. -/
def Passes (m : Mail) (sub : Submission) (k : Decoded) : Prop :=
  ∃ identityID recipient, findRecipient sub m true = .owned identityID recipient ∧
    findMessage sub m identityID recipient true = .received k

def hashed (sub : Submission) (k : Decoded) : Bytes := sub.messageID.bytes ++ k.sender ++ k.recipient ++ k.hash

theorem pairs_of_hexDecode (p : ParseInt) : ∀ {l : List Char} {b : Bytes}, hexDecode l = some b → p.pairs l = b
  | [], b, h => Option.some.inj h
  | [_], b, h => by cases h
  | c :: c' :: rest, b, h => by
    simp only [hexDecode, Option.bind_eq_bind, Option.bind_eq_some_iff, Option.pure_def, Option.some.injEq] at h
    obtain ⟨x, hx, y, hy, r, hr, rfl⟩ := h
    rw [ParseInt.pairs, p.digits _ _ x y hx hy, pairs_of_hexDecode p hr]

theorem hexToBytes_of_hexDecode (p : ParseInt) {l : List Char} {b : Bytes} (h : hexDecode l = some b) :
    p.hexToBytes l = b := by
  have hx : l.take 2 ≠ ['0', 'x'] := by
    intro hlead
    obtain ⟨rest, rfl⟩ : ∃ rest, l = '0' :: 'x' :: rest := ⟨l.drop 2, by rw [← List.take_append_drop 2 l, hlead]; rfl⟩
    simp [hexDecode, show hexDigit 'x' = none by decide] at h
  have hlen := length_hexDecode h
  rw [ParseInt.hexToBytes, if_neg hx, if_neg (by omega), pairs_of_hexDecode p h]

theorem parseUUID_text (p : ParseInt) (u : UUID) : p.parseUUID u.text = u.bytes := by
  have hbytes := map_bytes_parse u.text
  rw [parse_text, Option.map_some] at hbytes
  obtain ⟨digits, hcompact, hdecode⟩ := Option.bind_eq_some_iff.1 hbytes.symm
  have hdigits : u.text.toList.filter (· ≠ '-') = digits := by grind [compact]
  rw [ParseInt.parseUUID, hdigits, hexToBytes_of_hexDecode p hdecode]

theorem length_hash_of_passes {m : Mail} {sub : Submission} {k : Decoded} (h : Passes m sub k) : k.hash.length = 32 := by
  obtain ⟨identityID, recipient, -, h⟩ := h
  grind [findMessage]

def sampleParse : ParseInt where
  value a b := UInt8.ofNat (16 * (hexDigit a).getD 0 + (hexDigit b).getD 0)
  digits a b x y ha hb := by rw [ha, hb, Option.getD_some, Option.getD_some]

/-- One user has the keys `bb` and `aabb`. -/
def sampleKeys : Mail where
  identities := [⟨sampleUUID 1, sampleUUID 11, "@a:x", sampleRecord "bb"⟩,
    ⟨sampleUUID 2, sampleUUID 11, "@b:x", sampleRecord "aabb"⟩]
  senders := Table.empty
  inboxes := [(sampleUUID 1, sampleUUID 21), (sampleUUID 2, sampleUUID 21)]

def sampleSubmission (senderHex recipientHex : String) : Submission :=
  ⟨sampleUUID 11, sampleUUID 21, senderHex, recipientHex, String.ofList (List.replicate 64 '0'), ""⟩

end GaiaCom.Trustmesh
