/-
How a PDU travels, federation_service.go: `QueueOutgoingPDU` stores it as JSON, `sendTransaction` decodes
it and sends it to the target or to an alternative, `signPDU` signs its canonical JSON, the body of the
transaction carries it as JSON again, and the receiver decodes the body and checks the signature.

The fields of a PDU are Go strings, so any bytes. The first hop makes them UTF-8 and the later ones change
nothing any more, which is why the receiver gets the same canonical JSON as the sender signed.
-/
import GaiaCom.Federation.Pdu
import GaiaCom.Federation.Transcript
import GaiaCom.Lib.Marshal

namespace GaiaCom.Federation.Wire

open Lib Core Utf8 Json

abbrev Bytes := List UInt8

def ofBytes (bytes : Bytes) : String := String.ofList (text bytes)

def bytes (s : String) : Bytes := encode s.toList

@[simp, grind =] theorem ofBytes_bytes (s : String) : ofBytes (bytes s) = s := by
  rw [ofBytes, bytes, text_encode, String.ofList_toList]

/-! ## PDUs as JSON -/

/-- `models.PDU`. -/
structure PDU where
  pduID : Bytes
  type : Bytes
  sender : Bytes
  destination : Bytes
  payload : Bytes
  algorithmSuite : Bytes
  createdAt : Int64
  signature : Bytes
  pduHash : Bytes
  deriving DecidableEq

/-- The fields of `canonicalPDU`. -/
def canonicalFields {d : Nat} (p : PDU) : List (String × Option (Written d)) :=
  [("id", some (.str p.pduID)), ("type", some (.str p.type)), ("sender", some (.str p.sender)),
    ("destination", some (.str p.destination)), ("payload", some (.str p.payload)),
    ("algorithm_suite", omitEmpty p.algorithmSuite), ("created_at", some (.int p.createdAt.toInt))]

/-- The fields of `models.PDU`. -/
def pduFields {d : Nat} (p : PDU) : List (String × Option (Written d)) :=
  canonicalFields p ++ [("signature", omitEmpty p.signature), ("pdu_hash", omitEmpty p.pduHash)]

/-- `canonicalPDUBytes`. -/
def canonicalPDUBytes (p : PDU) : Bytes := encode (Written.struct (d := 0) (canonicalFields p)).text

def PDU.written (p : PDU) : Written 1 := .struct (pduFields p)

/-- A `string` field. -/
def bytesField (name : String) (ms : List (String × Json)) : Option Bytes :=
  (stringField name ms).map fun s => encode s.toList

/-- An `int64` field. -/
def int64Field (name : String) (ms : List (String × Json)) : Option Int64 := (intField name ms).map Int64.ofInt

def decodePDU (ms : List (String × Json)) : Option PDU := do
  return {
    pduID := ← bytesField "id" ms
    type := ← bytesField "type" ms
    sender := ← bytesField "sender" ms
    destination := ← bytesField "destination" ms
    payload := ← bytesField "payload" ms
    algorithmSuite := ← bytesField "algorithm_suite" ms
    createdAt := ← int64Field "created_at" ms
    signature := ← bytesField "signature" ms
    pduHash := ← bytesField "pdu_hash" ms }

/-- `json.Unmarshal` into a PDU. -/
def unmarshalPDU (bytes : Bytes) : Option PDU := do decodePDU (← (← parseChars (text bytes)).members)

/-! ## Signatures -/

/-- Hashing and signing. -/
structure Primitives where
  sha256 : Bytes → Bytes
  sign : (privateKey message : Bytes) → Bytes
  verify : (publicKey message signature : Bytes) → Bool
  sha256_length : ∀ m, (sha256 m).length = 32
  sign_length : ∀ k m, (sign k m).length = 64

/-- A key pair: what the private key signs, the public key verifies. -/
structure KeyPair (c : Primitives) where
  privateKey : Bytes
  publicKey : Bytes
  private_length : privateKey.length = 64
  public_length : publicKey.length = publicKeySize
  correct : ∀ m, c.verify publicKey m (c.sign privateKey m) = true

/-- The errors of `verifyPDUSignature`. -/
inductive SignatureError where
  | publicKey | hash | encoding | signature
  deriving DecidableEq, Repr

/-- `signPDU`; it fails with "federation signing key unavailable". -/
def signPDU (c : Primitives) (privateKey : Bytes) (p : PDU) : Option PDU :=
  if privateKey.length ≠ 64 then none
  else
    some { p with
      pduHash := encode (hexEncode (c.sha256 (canonicalPDUBytes p))).toList
      signature := encode (base64Encode (c.sign privateKey (canonicalPDUBytes p))) }

/-- `verifyPDUSignature`. -/
def verifyPDUSignature (c : Primitives) (p : PDU) (publicKey : Bytes) : Except SignatureError Unit :=
  if publicKey.length ≠ publicKeySize then .error .publicKey
  else if hexDecode (text p.pduHash) ≠ some (c.sha256 (canonicalPDUBytes p)) then .error .hash
  else
    match base64Decode (text p.signature) with
    | none => .error .encoding
    | some signature =>
      if signature.length ≠ 64 then .error .encoding
      else if c.verify publicKey (canonicalPDUBytes p) signature = false then .error .signature
      else .ok ()

/-! ## What a hop does -/

def clean (bytes : Bytes) : Bytes := encode (text bytes)

@[simp, grind =] theorem clean_encode (cs : List Char) : clean (encode cs) = encode cs := by rw [clean, text_encode]

@[simp, grind =] theorem clean_clean (bytes : Bytes) : clean (clean bytes) = clean bytes := clean_encode _

theorem clean_of_valid {bytes : Bytes} (h : Valid bytes) : clean bytes = bytes := encode_text h

def PDU.clean (p : PDU) : PDU where
  pduID := Wire.clean p.pduID
  type := Wire.clean p.type
  sender := Wire.clean p.sender
  destination := Wire.clean p.destination
  payload := Wire.clean p.payload
  algorithmSuite := Wire.clean p.algorithmSuite
  createdAt := p.createdAt
  signature := Wire.clean p.signature
  pduHash := Wire.clean p.pduHash

variable {d : Nat}

theorem distinct_canonicalFields (p : PDU) : Distinct ((canonicalFields (d := d) p).map Prod.fst) := by
  show Distinct ["id", "type", "sender", "destination", "payload", "algorithm_suite", "created_at"]
  decide +kernel

theorem distinct_pduFields (p : PDU) : Distinct ((pduFields (d := d) p).map Prod.fst) := by
  show Distinct ["id", "type", "sender", "destination", "payload", "algorithm_suite", "created_at", "signature",
    "pdu_hash"]
  decide +kernel

section Fields

variable {d : Nat} {fs : List (String × Option (Written d))} (hfs : Distinct (fs.map Prod.fst)) {name : String}
include hfs

theorem bytesField_struct {bytes : Bytes} (hmem : (name, some (.str bytes)) ∈ fs) :
    bytesField name (structMembers fs) = some (clean bytes) := by
  rw [bytesField, stringField_struct hfs hmem, Option.map_some, String.toList_ofList]
  rfl

theorem bytesField_omitEmpty {bytes : Bytes} (hmem : (name, omitEmpty bytes) ∈ fs) :
    bytesField name (structMembers fs) = some (clean bytes) := by
  rw [bytesField, stringField_omitEmpty hfs hmem, Option.map_some, String.toList_ofList]
  rfl

theorem int64Field_struct {n : Int64} (hmem : (name, some (.int n.toInt)) ∈ fs) :
    int64Field name (structMembers fs) = some n := by
  rw [int64Field, intField_struct hfs hmem n.le_toInt n.toInt_lt, Option.map_some, Int64.ofInt_toInt]

end Fields

theorem decodePDU_written (p : PDU) : decodePDU (structMembers (pduFields (d := d) p)) = some p.clean := by
  have hfs := distinct_pduFields (d := d) p
  have hid : ("id", some (.str p.pduID)) ∈ pduFields (d := d) p := by simp [pduFields, canonicalFields]
  have htype : ("type", some (.str p.type)) ∈ pduFields (d := d) p := by simp [pduFields, canonicalFields]
  have hsender : ("sender", some (.str p.sender)) ∈ pduFields (d := d) p := by simp [pduFields, canonicalFields]
  have hdest : ("destination", some (.str p.destination)) ∈ pduFields (d := d) p := by simp [pduFields, canonicalFields]
  have hpayload : ("payload", some (.str p.payload)) ∈ pduFields (d := d) p := by simp [pduFields, canonicalFields]
  have hsuite : ("algorithm_suite", omitEmpty p.algorithmSuite) ∈ pduFields (d := d) p := by
    simp [pduFields, canonicalFields]
  have hcreated : ("created_at", some (.int p.createdAt.toInt)) ∈ pduFields (d := d) p := by
    simp [pduFields, canonicalFields]
  have hsig : ("signature", omitEmpty p.signature) ∈ pduFields (d := d) p := by simp [pduFields, canonicalFields]
  have hhash : ("pdu_hash", omitEmpty p.pduHash) ∈ pduFields (d := d) p := by simp [pduFields, canonicalFields]
  simp only [decodePDU, bytesField_struct hfs hid, bytesField_struct hfs htype, bytesField_struct hfs hsender,
    bytesField_struct hfs hdest, bytesField_struct hfs hpayload, bytesField_omitEmpty hfs hsuite,
    int64Field_struct hfs hcreated, bytesField_omitEmpty hfs hsig, bytesField_omitEmpty hfs hhash, Option.bind_eq_bind,
    Option.bind_some, Option.pure_def]
  rfl

theorem unmarshalPDU_written (p : PDU) : unmarshalPDU (encode p.written.text) = some p.clean := by
  rw [unmarshalPDU, text_encode, parseChars_text p.written (by decide)]
  simp only [Option.bind_eq_bind, Option.bind_some]
  rw [PDU.written, members_struct, Option.bind_some, decodePDU_written]

/-- A PDU of UTF-8 strings arrives as it is. -/
def PDU.Clean (p : PDU) : Prop := p.clean = p

theorem PDU.clean_clean (p : PDU) : p.clean.Clean := by simp [PDU.Clean, PDU.clean]

variable {c : Primitives} {p signed : PDU}

theorem signPDU_clean {privateKey : Bytes} (hp : p.Clean)
    (h : signPDU c privateKey p = some signed) : signed.Clean := by
  grind [signPDU, PDU.Clean, PDU.clean]

theorem canonicalPDUBytes_signPDU {privateKey : Bytes}
    (h : signPDU c privateKey p = some signed) : canonicalPDUBytes signed = canonicalPDUBytes p := by
  unfold signPDU at h
  split at h
  · cases h
  cases h; rfl

theorem verifyPDUSignature_signPDU (keys : KeyPair c)
    (h : signPDU c keys.privateKey p = some signed) : verifyPDUSignature c signed keys.publicKey = .ok () := by
  have hcanonical := canonicalPDUBytes_signPDU h
  have hsigned : hexDecode (text signed.pduHash) = some (c.sha256 (canonicalPDUBytes p)) ∧
      base64Decode (text signed.signature) = some (c.sign keys.privateKey (canonicalPDUBytes p)) := by
    grind [signPDU, hexDecode_hexEncode, base64Decode_base64Encode]
  grind [verifyPDUSignature, keys.public_length, keys.correct, c.sign_length]

theorem signPDU_isSome (keys : KeyPair c) (p : PDU) : ∃ signed, signPDU c keys.privateKey p = some signed := by
  unfold signPDU
  rw [if_neg (not_not.2 keys.private_length)]
  exact ⟨_, rfl⟩

/-! ## Transactions -/

/-- `FederationPayload`. -/
structure FederationPayload where
  origin : Bytes
  originServerTS : Int64
  pdus : List PDU

/-- The fields of `FederationPayload`. -/
def payloadFields (t : FederationPayload) : List (String × Option (Written 2)) :=
  [("origin", some (.str t.origin)), ("origin_server_ts", some (.int t.originServerTS.toInt)),
    ("pdus", some (.array (t.pdus.map PDU.written)))]

def FederationPayload.written (t : FederationPayload) : Written 3 := .struct (payloadFields t)

/-- `json.Unmarshal` into a transaction. -/
def unmarshalPayload (bytes : Bytes) : Option FederationPayload := do
  let ms ← (← parseChars (text bytes)).members
  let pdus ← structsField "pdus" ms
  return {
    origin := ← bytesField "origin" ms
    originServerTS := ← int64Field "origin_server_ts" ms
    pdus := ← pdus.mapM decodePDU }

theorem mapM_members_written (ps : List PDU) :
    (ps.map PDU.written).mapM (fun w => w.value.members) = some (ps.map fun p => structMembers (pduFields (d := 0) p)) := by
  induction ps <;> grind [members_struct, PDU.written]

theorem mapM_decodePDU (ps : List PDU) :
    (ps.map fun p => structMembers (pduFields (d := 0) p)).mapM decodePDU = some (ps.map PDU.clean) := by
  induction ps <;> grind [decodePDU_written]

theorem unmarshalPayload_written (t : FederationPayload) :
    unmarshalPayload (encode t.written.text) = some ⟨clean t.origin, t.originServerTS, t.pdus.map PDU.clean⟩ := by
  have hfs : Distinct ((payloadFields t).map Prod.fst) := by
    show Distinct ["origin", "origin_server_ts", "pdus"]
    decide +kernel
  have horigin : ("origin", some (.str t.origin)) ∈ payloadFields t := by simp [payloadFields]
  have htime : ("origin_server_ts", some (.int t.originServerTS.toInt)) ∈ payloadFields t := by simp [payloadFields]
  have hpdus : ("pdus", some (.array (t.pdus.map PDU.written))) ∈ payloadFields t := by simp [payloadFields]
  have hmembers : t.written.value.members = some (structMembers (payloadFields t)) := members_struct _
  have hstructs := structsField_struct hfs rfl hpdus (mapM_members_written t.pdus)
  rw [unmarshalPayload, text_encode, parseChars_text t.written (by decide)]
  simp only [hmembers, hstructs, bytesField_struct hfs horigin, int64Field_struct hfs htime, mapM_decodePDU,
    Option.bind_eq_bind, Option.bind_some, Option.pure_def]

def transactionBody (serverName : String) (originServerTS : Int64) (p : PDU) : Bytes :=
  encode (FederationPayload.written ⟨encode serverName.toList, originServerTS, [p]⟩).text

/-! ## Sending -/

/-- The columns of a row of federation_queue that say what to send; the others are those of Delivery. -/
structure QueueItem where
  pduID : Bytes
  pduPayload : Bytes
  targetURL : String

/-- `QueueOutgoingPDU`: the row that is stored, if any. -/
def queueOutgoingPDU (serverName : String) (p : PDU) (destinationServer : String) : Option QueueItem :=
  if destinationServer = serverName then none else some ⟨p.pduID, encode p.written.text, destinationServer⟩

/-- Why a send fails. -/
inductive SendError where
  | payload | context | domain | privateAddress | signingKey
  | unreachable | rejected (code : Nat) | document | capability
  | network | remote (code : Nat)
  | endpoints (primary : SendError)
  deriving DecidableEq, Repr

/-- What the sending of one item meets: name resolution, the answers of other nodes, the clock at each
target, the database, and whether the context ends while a sender with a high abuse score waits. -/
structure World where
  casing : Casing
  isPrivate : String → Bool
  isDevelopmentHost : String → Bool
  devMode : Bool
  nodeInfo : String → Option (Nat × Bytes)
  answer : String → Option Nat
  bodyTime : String → Int64
  headerTime : String → Int64
  publicRecord : Bytes → Option Bytes
  isBlocked : String → Bool
  endsWaiting : Bytes → Bool

/-- A request to the forwarding endpoint of a node. -/
structure Outgoing where
  scheme : String
  host : String
  authorization : String
  body : Bytes

/-- `ensureRemoteTopSecretCapability`, by the answer to the request for the node's information. -/
def ensureRemoteTopSecretCapability : Option (Nat × Bytes) → Except SendError Unit
  | none => .error .unreachable
  | some (code, body) =>
    if code ≠ 200 then .error (.rejected code)
    else
      let capabilities := do
        let ms ← structField "capabilities" (← (← parseChars (text (body.take (64 * 1024)))).members)
        return (← boolField "top_secret" ms, ← stringsField "signature_suites" ms)
      match capabilities with
      | none => .error .document
      | some (topSecret, suites) =>
        if topSecret = false ∨ containsProtocol suites topSecretSuite = false then .error .capability else .ok ()

/-- `federationScheme`. -/
def federationScheme (w : World) (target : String) : String :=
  if w.devMode ∧ w.isDevelopmentHost target then "http" else "https"

def forwardPath : Bytes := encode "/.well-known/gaiacom/s2s/v1/forward".toList

section Routing

variable (send : String → Option Outgoing × Except SendError Unit) (isBlocked : String → Bool) (targetURL : String)

/-- The alternatives in turn, up to the first that takes the PDU: the requests sent, and whether one did. -/
def tryAlternatives : List String → List Outgoing × Bool
  | [] => ([], false)
  | altNode :: rest =>
    let altNode := trimSpace altNode
    if altNode = "" ∨ altNode = targetURL ∨ isBlocked altNode then tryAlternatives rest
    else
      match (send altNode).2 with
      | .ok () => ((send altNode).1.toList, true)
      | .error _ => ((send altNode).1.toList ++ (tryAlternatives rest).1, (tryAlternatives rest).2)

def sendToAny (alts : List String) : List Outgoing × Except SendError Unit :=
  match (send targetURL).2 with
  | .ok () => ((send targetURL).1.toList, .ok ())
  | .error err =>
    let (more, delivered) := tryAlternatives send isBlocked targetURL alts
    ((send targetURL).1.toList ++ more, if delivered then .ok () else .error (.endpoints err))

variable {send isBlocked targetURL} {P : Outgoing → Prop} (hsend : ∀ target, ∀ request ∈ (send target).1, P request)
include hsend

theorem tryAlternatives_request : ∀ {alts : List String} {request : Outgoing},
    request ∈ (tryAlternatives send isBlocked targetURL alts).1 → P request
  | [], _, h => by simp [tryAlternatives] at h
  | altNode :: rest, request, h => by
    simp only [tryAlternatives] at h
    split at h
    · exact tryAlternatives_request h
    split at h
    · exact hsend _ request (Option.mem_toList.1 h)
    rcases List.mem_append.1 h with h | h
    · exact hsend _ request (Option.mem_toList.1 h)
    · exact tryAlternatives_request h

theorem sendToAny_request {alts : List String} {request : Outgoing}
    (h : request ∈ (sendToAny send isBlocked targetURL alts).1) : P request := by
  unfold sendToAny at h
  split at h
  · exact hsend _ request (Option.mem_toList.1 h)
  rcases List.mem_append.1 h with h | h
  · exact hsend _ request (Option.mem_toList.1 h)
  · exact tryAlternatives_request hsend h

end Routing

section Sending

variable (c : Primitives) (serverName : String) (privateKey : Bytes) (w : World)

/-- The request with which `sendToTarget` sends a signed PDU. -/
def forwardRequest (signed : PDU) (target : String) : Outgoing :=
  let body := transactionBody serverName (w.bodyTime target) signed
  { scheme := federationScheme w target
    host := target
    authorization := signRequest w.casing c.sha256 (c.sign privateKey) serverName (encode "POST".toList) forwardPath body
      (w.headerTime target)
    body := body }

/-- `sendToTarget`: the request it sends, if any, and its result. -/
def sendToTarget (p : PDU) (targetDomain : String) : Option Outgoing × Except SendError Unit :=
  let target := String.ofList ((trim targetDomain.toList).map w.casing.lower)
  if Core.domain target = false then (none, .error .domain)
  else if w.isPrivate target ∧ w.isDevelopmentHost target = false then (none, .error .privateAddress)
  else
    match signPDU c privateKey p with
    | none => (none, .error .signingKey)
    | some signed =>
      match if signed.algorithmSuite = encode topSecretSuite.toList then
          ensureRemoteTopSecretCapability (w.nodeInfo target) else .ok () with
      | .error err => (none, .error err)
      | .ok () =>
        (some (forwardRequest c serverName privateKey w signed target),
          match w.answer target with
          | none => .error .network
          | some code => if 400 ≤ code then .error (.remote code) else .ok ())

def alternatives (destination : Bytes) : List String :=
  (do
    let ms ← (← parseChars (text (← w.publicRecord destination))).members
    stringsField "alternatives" (← structField "routing" ms)).getD []

/-- `sendTransaction`: the requests it sends and its result. -/
def sendTransaction (item : QueueItem) : List Outgoing × Except SendError Unit :=
  match unmarshalPDU item.pduPayload with
  | none => ([], .error .payload)
  | some p =>
    if w.endsWaiting p.sender then ([], .error .context)
    else
      sendToAny (sendToTarget c serverName privateKey w p) w.isBlocked item.targetURL (alternatives w p.destination)

variable {c serverName privateKey w}

theorem sendToTarget_request {p : PDU} {targetDomain : String} {request : Outgoing}
    (h : (sendToTarget c serverName privateKey w p targetDomain).1 = some request) :
    ∃ signed ts, signPDU c privateKey p = some signed ∧ request.body = transactionBody serverName ts signed := by
  unfold sendToTarget at h
  simp only at h
  split at h
  · cases h
  split at h
  · cases h
  split at h
  · cases h
  rename_i signed hsigned
  split at h
  · cases h
  cases h
  exact ⟨signed, _, hsigned, rfl⟩

/-- Every request of a transaction, to the target or to an alternative, carries the decoded PDU, signed. -/
theorem sendTransaction_request {item : QueueItem} {p : PDU} (hp : unmarshalPDU item.pduPayload = some p)
    {request : Outgoing} (h : request ∈ (sendTransaction c serverName privateKey w item).1) :
    ∃ signed ts, signPDU c privateKey p = some signed ∧ request.body = transactionBody serverName ts signed := by
  unfold sendTransaction at h
  rw [hp] at h
  simp only at h
  split at h
  · simp at h
  exact sendToAny_request (fun _ _ hr => sendToTarget_request hr) h

end Sending

/-! ## From the queue to the receiver -/

theorem unmarshalPayload_transactionBody (hp : p.Clean) (serverName : String) (ts : Int64) :
    unmarshalPayload (transactionBody serverName ts p) = some ⟨encode serverName.toList, ts, [p]⟩ := by
  rw [transactionBody, unmarshalPayload_written, clean_encode, List.map_cons, List.map_nil, hp]

def PDU.signedStrings (p : PDU) : List Bytes :=
  [p.pduID, p.type, p.sender, p.destination, p.payload, p.algorithmSuite]

theorem canonicalPDUBytes_inj {q : PDU} (h : canonicalPDUBytes p = canonicalPDUBytes q) :
    p.signedStrings.map clean = q.signedStrings.map clean ∧ p.createdAt = q.createdAt := by
  unfold canonicalPDUBytes at h
  have hmembers := structMembers_inj (by decide) (encode_inj h)
  -- every field is read from the members it was written to
  have hbytes : ∀ (name : String) (f : PDU → Bytes), (∀ r, (name, some (.str (f r))) ∈ canonicalFields (d := 0) r) →
      clean (f p) = clean (f q) := by
    intro name f hf
    have hread := bytesField_struct (distinct_canonicalFields p) (hf p)
    rw [hmembers, bytesField_struct (distinct_canonicalFields q) (hf q)] at hread
    exact (Option.some.inj hread).symm
  have hsuite : clean p.algorithmSuite = clean q.algorithmSuite := by
    have hmem : ∀ r : PDU, ("algorithm_suite", omitEmpty r.algorithmSuite) ∈ canonicalFields (d := 0) r := by
      intro r; simp [canonicalFields]
    have hread := bytesField_omitEmpty (distinct_canonicalFields p) (hmem p)
    rw [hmembers, bytesField_omitEmpty (distinct_canonicalFields q) (hmem q)] at hread
    exact (Option.some.inj hread).symm
  have hcreated : p.createdAt = q.createdAt := by
    have hmem : ∀ r : PDU, ("created_at", some (.int r.createdAt.toInt)) ∈ canonicalFields (d := 0) r := by
      intro r; simp [canonicalFields]
    have hread := int64Field_struct (distinct_canonicalFields p) (hmem p)
    rw [hmembers, int64Field_struct (distinct_canonicalFields q) (hmem q)] at hread
    exact (Option.some.inj hread).symm
  have hid := hbytes "id" PDU.pduID fun r => by simp [canonicalFields]
  have htype := hbytes "type" PDU.type fun r => by simp [canonicalFields]
  have hsender := hbytes "sender" PDU.sender fun r => by simp [canonicalFields]
  have hdest := hbytes "destination" PDU.destination fun r => by simp [canonicalFields]
  have hpayload := hbytes "payload" PDU.payload fun r => by simp [canonicalFields]
  exact ⟨by simp only [PDU.signedStrings, List.map_cons, List.map_nil, hid, htype, hsender, hdest, hpayload, hsuite],
    hcreated⟩

theorem map_clean_of_valid {strings : List Bytes} (h : ∀ s ∈ strings, Valid s) : strings.map clean = strings := by
  conv_rhs => rw [← List.map_id strings]
  exact List.map_congr_left fun s hs => clean_of_valid (h s hs)

/-- Whatever bytes a PDU has, once queued it is decoded and signed, every request that sends it carries it in
this form, and the receiver's check of the signature passes; and the signed bytes stand for one PDU. -/
theorem pdu_signature_agreement (c : Primitives) :
    (∀ (keys : KeyPair c) (serverName : String) (p : PDU) (destinationServer : String) (item : QueueItem),
      queueOutgoingPDU serverName p destinationServer = some item →
      ∃ stored signed, unmarshalPDU item.pduPayload = some stored ∧ signPDU c keys.privateKey stored = some signed ∧
        (∀ w, ∀ request ∈ (sendTransaction c serverName keys.privateKey w item).1,
          ∃ ts, request.body = transactionBody serverName ts signed) ∧
        ∀ ts, ∃ received, unmarshalPayload (transactionBody serverName ts signed) =
            some ⟨encode serverName.toList, ts, [received]⟩ ∧
          verifyPDUSignature c received keys.publicKey = .ok ()) ∧
    ∀ p q : PDU, (∀ s ∈ p.signedStrings, Valid s) → (∀ s ∈ q.signedStrings, Valid s) →
      canonicalPDUBytes p = canonicalPDUBytes q →
      p.pduID = q.pduID ∧ p.type = q.type ∧ p.sender = q.sender ∧ p.destination = q.destination ∧
        p.payload = q.payload ∧ p.algorithmSuite = q.algorithmSuite ∧ p.createdAt = q.createdAt := by
  constructor
  · intro keys serverName p destinationServer item hitem
    have hstored : unmarshalPDU item.pduPayload = some p.clean := by
      grind [queueOutgoingPDU, unmarshalPDU_written]
    obtain ⟨signed, hsigned⟩ := signPDU_isSome keys p.clean
    refine ⟨p.clean, signed, hstored, hsigned, fun w request hrequest => ?_, fun ts => ⟨signed, ?_, ?_⟩⟩
    · obtain ⟨signed', ts, hsigned', hbody⟩ := sendTransaction_request hstored hrequest
      rw [hsigned] at hsigned'
      cases hsigned'
      exact ⟨ts, hbody⟩
    · exact unmarshalPayload_transactionBody (signPDU_clean p.clean_clean hsigned) serverName ts
    · exact verifyPDUSignature_signPDU keys hsigned
  · intro p q hp hq h
    obtain ⟨hstrings, hcreated⟩ := canonicalPDUBytes_inj h
    rw [map_clean_of_valid hp, map_clean_of_valid hq] at hstrings
    simp only [PDU.signedStrings, List.cons.injEq, and_true] at hstrings
    obtain ⟨hid, htype, hsender, hdest, hpayload, hsuite⟩ := hstrings
    exact ⟨hid, htype, hsender, hdest, hpayload, hsuite, hcreated⟩

def constant : Primitives where
  sha256 _ := List.replicate 32 0
  sign _ _ := List.replicate 64 1
  verify _ _ signature := signature == List.replicate 64 1
  sha256_length _ := by simp
  sign_length _ _ := by simp

def constantKeys : KeyPair constant where
  privateKey := List.replicate 64 0
  publicKey := List.replicate 32 0
  private_length := by simp
  public_length := by decide
  correct _ := beq_self_eq_true _

def samplePDU : PDU where
  pduID := [0x31]
  type := [0x74]
  sender := [0x40, 0x61]
  destination := [0x40, 0x62]
  payload := [0x3C, 0xFF]
  algorithmSuite := []
  createdAt := 1700000000
  signature := []
  pduHash := []

theorem pdu_signature_agreement_sample :
    (∃ stored signed, unmarshalPDU (encode samplePDU.written.text) = some stored ∧
      signPDU constant constantKeys.privateKey stored = some signed ∧
      ∃ received, unmarshalPayload (transactionBody "a.example" 5 signed) =
          some ⟨encode "a.example".toList, 5, [received]⟩ ∧
        verifyPDUSignature constant received constantKeys.publicKey = .ok ()) ∧
    ({ samplePDU with payload := [], pduHash := [0x30] } : PDU).sender = ({ samplePDU with payload := [] } : PDU).sender := by
  obtain ⟨stored, signed, hstored, hsigned, -, hreceived⟩ :=
    (pdu_signature_agreement constant).1 constantKeys "a.example" samplePDU "b.example" _ rfl
  have hvalid : ∀ s ∈ ({ samplePDU with payload := [] } : PDU).signedStrings, Valid s := by
    intro s hs
    simp only [PDU.signedStrings, samplePDU, List.mem_cons, List.not_mem_nil, or_false] at hs
    rcases hs with rfl | rfl | rfl | rfl | rfl | rfl
    · exact ⟨['1'], by decide⟩
    · exact ⟨['t'], by decide⟩
    · exact ⟨['@', 'a'], by decide⟩
    · exact ⟨['@', 'b'], by decide⟩
    · exact ⟨[], rfl⟩
    · exact ⟨[], rfl⟩
  exact ⟨⟨stored, signed, hstored, hsigned, hreceived 5⟩,
    ((pdu_signature_agreement constant).2 { samplePDU with payload := [], pduHash := [0x30] } { samplePDU with payload := [] }
      hvalid hvalid rfl).2.2.1⟩

end GaiaCom.Federation.Wire
