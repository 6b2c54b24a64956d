/-
What the web client sends: `encryptForRecipientDevices` and `deliverDeviceEnvelopes` of deviceFanout.js with
`encryptSovereignPayload` and `attachDeviceEnvelopeProof` of crypto.js, and what the device checks of
`SaveAndDistributeMessage` say to it.

The client encrypts to the identity's keys alone and names no device; the server asks for a device of the recipient
as soon as the recipient has one. So an envelope passes exactly if the recipient has no active device key
(`envelopes_pass_iff`).
-/
import GaiaCom.Messaging.Posting

namespace GaiaCom.Messaging.Fanout

open Lib Core GaiaCom.Store
open Lib.Json (Written structMembers omitEmpty)
open Federation.Wire (Bytes bytes ofBytes)
open Posting (Tables Meta decodeMeta findActiveDeviceKeysForIdentity findActiveDeviceKey checkSenderDevice
  checkRecipientDevice)

/-! ## The client -/

/-- `signature_bundle` of an envelope. -/
structure SignatureBundle where
  ed25519 : String
  mldsa87 : Option String
  mldsa87Public : Option String

/-- An envelope as the client sends it; the last six fields are added after the encryption. -/
structure Envelope where
  algorithmSuite : String
  kemCiphertext : String
  hqcCiphertext : String
  ephemeralPub : String
  payloadCiphertext : String
  iv : String
  signature : String
  signatureBundle : SignatureBundle
  senderMldsa87Public : String
  clientMessageID : String
  timestamp : Nat
  recipientDeviceKeyID : String
  recipientDeviceBoxPublic : String
  sovereignProfile : String
  senderDeviceKeyID : Option String
  deviceSignature : Option String
  recipientGaia : Option String
  roomID : Option String
  channelID : Option String
  readReceiptSourceID : Option String

/-- `recipientPublicKeys` with the proof of the key set. -/
structure PublicKeys where
  pke : String
  box : String
  identity : String
  hqc256 : String
  mldsa87 : String
  keysetProof : Option String

/-- The cryptography of the client: keys in hex, key-set proofs, Ed25519. -/
structure Crypto where
  hexToBytes : String → Bytes
  createSovereignKeysetProof : PublicKeys → (privateKey : String) → String
  verifySovereignKeysetProof : PublicKeys → (proof : String) → Bool
  sign : (privateKey message : Bytes) → Bytes

/-- What encryption and signing give for one target. -/
structure Sealed where
  mlkemCiphertext : Bytes
  hqcCiphertext : Bytes
  ephemeralPublic : Bytes
  payloadCiphertext : Bytes
  iv : Bytes
  signature : Bytes
  mldsaSignature : Bytes
  mldsaPublic : Bytes

inductive SealError where
  | hqcMissing | proof | keyset | hqcCapability | mldsaCapability | mldsaPrivate
  deriving DecidableEq

def acceleratedSuite : String :=
  "GaiaCom/v1.0/sovereign-accelerated/X25519+ML-KEM-1024+HQC-256/Twofish-256-EAX+AES-256-GCM/Ed25519"

/-- The sender's side of an encryption: the signing key, whether it is top secret, and the key for that. -/
structure Sender where
  signPrivate : String
  topSecret : Bool
  mldsa87Private : String

section Client

variable (c : Crypto)

/-- `encryptSovereignPayload` for a target device; an empty id stands for the identity. -/
def encryptSovereignPayload (keys : PublicKeys) (sender : Sender) (messageID : UUID) (sentAt : Nat)
    (recipientDeviceKeyID : String) (s : Sealed) : Except SealError Envelope := do
  let proof := keys.keysetProof.getD (c.createSovereignKeysetProof keys sender.signPrivate)
  ensure .proof (c.verifySovereignKeysetProof keys proof)
  let box := c.hexToBytes keys.box
  ensure .keyset ((c.hexToBytes keys.pke).length = 1568 && box.length = 32 && (c.hexToBytes keys.identity).length = 32)
  ensure .hqcCapability (1024 ≤ keys.hqc256.toList.length)
  ensure .mldsaCapability (!sender.topSecret || (c.hexToBytes keys.mldsa87).length = 2592)
  ensure .mldsaPrivate (!sender.topSecret || (c.hexToBytes sender.mldsa87Private).length = 4896)
  let mldsaPublic := if sender.topSecret then some (hexEncode s.mldsaPublic) else none
  return {
    algorithmSuite := if sender.topSecret then Posting.topSecretSuite else acceleratedSuite
    kemCiphertext := hexEncode s.mlkemCiphertext
    hqcCiphertext := hexEncode s.hqcCiphertext
    ephemeralPub := hexEncode s.ephemeralPublic
    payloadCiphertext := hexEncode s.payloadCiphertext
    iv := hexEncode s.iv
    signature := hexEncode s.signature
    signatureBundle := {
      ed25519 := hexEncode s.signature
      mldsa87 := if sender.topSecret then some (hexEncode s.mldsaSignature) else none
      mldsa87Public := mldsaPublic }
    senderMldsa87Public := mldsaPublic.getD ""
    clientMessageID := messageID.text
    timestamp := sentAt
    recipientDeviceKeyID := recipientDeviceKeyID
    recipientDeviceBoxPublic := hexEncode box
    sovereignProfile := if sender.topSecret then "top-secret" else "accelerated"
    senderDeviceKeyID := none
    deviceSignature := none
    recipientGaia := none
    roomID := none
    channelID := none
    readReceiptSourceID := none }

/-- The local device's key. -/
structure DeviceVault where
  deviceKeyID : String
  signPrivate : String

def deviceProof (deviceKeyID : String) (e : Envelope) : Bytes :=
  bytes ("\n".intercalate ["gaiacom-device-envelope-v1", deviceKeyID, e.clientMessageID, e.signature])

def attachDeviceEnvelopeProof (e : Envelope) : Option DeviceVault → Envelope
  | none => e
  | some vault =>
    if vault.deviceKeyID = "" || vault.signPrivate = "" then e
    else { e with
      senderDeviceKeyID := some vault.deviceKeyID
      deviceSignature := some (hexEncode (c.sign (c.hexToBytes vault.signPrivate) (deviceProof vault.deviceKeyID e))) }

/-- `encryptForRecipientDevices`: the only target is the identity itself. -/
def encryptForRecipientDevices (keys : PublicKeys) (sender : Sender) (vault : Option DeviceVault) (messageID : UUID)
    (sentAt : Nat) (s : Sealed) : Except SealError (List Envelope) := do
  ensure .hqcMissing (keys.hqc256 ≠ "")
  let envelopes ← [""].mapM fun target => encryptSovereignPayload c keys sender messageID sentAt target s
  return envelopes.map fun e => attachDeviceEnvelopeProof c e vault

end Client

/-- What the caller of `encryptForRecipientDevices` adds to an envelope. -/
structure Addition where
  recipientGaia : Option String
  roomID : Option String
  channelID : Option String
  readReceiptSourceID : Option String

def Envelope.with (e : Envelope) (a : Addition) : Envelope :=
  { e with
    recipientGaia := a.recipientGaia
    roomID := a.roomID
    channelID := a.channelID
    readReceiptSourceID := a.readReceiptSourceID }

/-! ## The request -/

def strOpt {d : Nat} (s : Option String) : Option (Written d) := (s.map bytes).map Written.str

def SignatureBundle.fields (b : SignatureBundle) : List (String × Option (Written 0)) :=
  [("ed25519", strOpt (some b.ed25519)), ("ml_dsa_87", strOpt b.mldsa87), ("ml_dsa_87_public", strOpt b.mldsa87Public)]

/-- The members of the envelope in the order of their names, as the handler writes its map; the client gives no
`ciphertext_hash`. -/
def Envelope.fields (e : Envelope) : List (String × Option (Written 1)) :=
  [("algorithm_suite", strOpt (some e.algorithmSuite)),
    ("channel_id", strOpt e.channelID),
    ("ciphertext_hash", none),
    ("client_message_id", strOpt (some e.clientMessageID)),
    ("device_signature", strOpt e.deviceSignature),
    ("ephemeral_pub", strOpt (some e.ephemeralPub)),
    ("hqc_ciphertext", strOpt (some e.hqcCiphertext)),
    ("iv", strOpt (some e.iv)),
    ("kem_ciphertext", strOpt (some e.kemCiphertext)),
    ("payload_ciphertext", strOpt (some e.payloadCiphertext)),
    ("read_receipt_source_id", strOpt e.readReceiptSourceID),
    ("recipient_device_box_public", strOpt (some e.recipientDeviceBoxPublic)),
    ("recipient_device_key_id", strOpt (some e.recipientDeviceKeyID)),
    ("recipient_gaia", strOpt e.recipientGaia),
    ("room_id", strOpt e.roomID),
    ("sender_device_key_id", strOpt e.senderDeviceKeyID),
    ("sender_mldsa87_public", strOpt (some e.senderMldsa87Public)),
    ("signature", strOpt (some e.signature)),
    ("signature_bundle", some (.struct e.signatureBundle.fields)),
    ("sovereign_profile", strOpt (some e.sovereignProfile)),
    ("timestamp", some (.int e.timestamp))]

def Envelope.data (e : Envelope) : Bytes := Utf8.encode (Written.struct e.fields).text

/-- `sendMessage` for an envelope; the rest of the call is the server's. -/
def requestFor (base : Posting.Request) (senderID recipientID : UUID) (e : Envelope) : Posting.Request :=
  { base with senderID := senderID, recipientIDs := [recipientID], envelopeData := e.data }

/-- `deliverDeviceEnvelopes`: one call for each envelope. -/
def deliverDeviceEnvelopes (base : Posting.Request) (senderID recipientID : UUID) (envelopes : List Envelope) : List Posting.Request :=
  envelopes.map (requestFor base senderID recipientID)

theorem distinct_fields (e : Envelope) : Json.Distinct (e.fields.map Prod.fst) := by
  show Json.Distinct ["algorithm_suite", "channel_id", "ciphertext_hash", "client_message_id", "device_signature",
    "ephemeral_pub", "hqc_ciphertext", "iv", "kem_ciphertext", "payload_ciphertext", "read_receipt_source_id",
    "recipient_device_box_public", "recipient_device_key_id", "recipient_gaia", "room_id", "sender_device_key_id",
    "sender_mldsa87_public", "signature", "signature_bundle", "sovereign_profile", "timestamp"]
  decide +kernel

theorem members_data (e : Envelope) :
    ((Json.parseChars (Utf8.text e.data)).map Json.lenientMembers).getD [] = structMembers e.fields := by
  grind [Envelope.data, Json.parseChars_text, Json.lenientMembers_struct]

theorem lenientString_written {d : Nat} {fs : List (String × Option (Written d))} (hfs : Json.Distinct (fs.map Prod.fst))
    {name : String} {s : Option String} (h : (name, strOpt s) ∈ fs) :
    Json.lenientString name (structMembers fs) = s.getD "" := by
  rw [Json.lenientString_struct hfs h]
  cases s with
  | none => rfl
  | some s => exact Federation.Wire.ofBytes_bytes s

def Envelope.info (e : Envelope) : Meta where
  recipientGaia := e.recipientGaia.getD ""
  readReceiptSourceID := e.readReceiptSourceID.getD ""
  roomID := e.roomID.getD ""
  channelID := e.channelID.getD ""
  algorithmSuite := e.algorithmSuite
  recipientDeviceKeyID := e.recipientDeviceKeyID
  recipientDeviceBoxPublic := e.recipientDeviceBoxPublic
  senderDeviceKeyID := e.senderDeviceKeyID.getD ""
  deviceSignature := e.deviceSignature.getD ""
  clientMessageID := e.clientMessageID
  envelopeSignature := e.signature
  mldsa87 := e.signatureBundle.mldsa87.getD ""
  mldsa87Public := e.signatureBundle.mldsa87Public.getD ""

theorem decodeMeta_data (e : Envelope) : decodeMeta e.data = e.info := by
  have hstr : ∀ name s, (name, strOpt s) ∈ e.fields → Json.lenientString name (structMembers e.fields) = s.getD "" :=
    fun name s hmem => lenientString_written (distinct_fields e) hmem
  have hbundle : Json.lenientStruct "signature_bundle" (structMembers e.fields) =
      structMembers e.signatureBundle.fields :=
    Json.lenientStruct_struct (distinct_fields e) (by simp [Envelope.fields]) rfl
  have hdistinct : Json.Distinct (e.signatureBundle.fields.map Prod.fst) := by
    show Json.Distinct ["ed25519", "ml_dsa_87", "ml_dsa_87_public"]
    decide +kernel
  unfold decodeMeta Envelope.info
  simp only [members_data, hbundle, Meta.mk.injEq]
  refine ⟨hstr _ _ ?_, hstr _ _ ?_, hstr _ _ ?_, hstr _ _ ?_, hstr _ (some _) ?_, hstr _ (some _) ?_, hstr _ (some _) ?_,
    hstr _ _ ?_, hstr _ _ ?_, hstr _ (some _) ?_, hstr _ (some _) ?_, lenientString_written hdistinct ?_,
    lenientString_written hdistinct ?_⟩
  all_goals simp [Envelope.fields, SignatureBundle.fields]

theorem saveAndDistributeMessage_data {base : Posting.Request} {senderID recipientID : UUID} {e : Envelope}
    {st : Posting.Store} {r : Except Posting.PostError Unit}
    (hsender : Posting.checkSender (requestFor base senderID recipientID e) st.tables = .ok ())
    (hroom : Posting.checkRoom (requestFor base senderID recipientID e) st.tables e.info st.rooms = r) :
    Posting.saveAndDistributeMessage (requestFor base senderID recipientID e) st =
      match r with
      | .error err => (st, .error err)
      | .ok () => ({ st with tables := (Posting.deliver (requestFor base senderID recipientID e) st.tables e.info).1 },
          (Posting.deliver (requestFor base senderID recipientID e) st.tables e.info).2) := by
  rw [Posting.saveAndDistributeMessage, show decodeMeta (requestFor base senderID recipientID e).envelopeData = e.info from
    decodeMeta_data e]
  dsimp only
  rw [hsender]
  cases r with
  | error err | ok =>
    dsimp only
    rw [hroom]
    rfl

theorem extractMessageProofInput_data (e : Envelope) :
    Posting.extractMessageProofInput e.data = (trimSpace e.signature, trimSpace e.clientMessageID) := by
  have hdistinct := distinct_fields e
  have hstr : ∀ name s, (name, strOpt (some s)) ∈ e.fields →
      Json.stringField name (structMembers e.fields) = some s := by
    intro name s hmem
    rw [Json.stringField_struct hdistinct hmem]
    exact congrArg some (Federation.Wire.ofBytes_bytes s)
  have hhash : Json.stringField "ciphertext_hash" (structMembers e.fields) = some "" := by
    rw [Json.stringField, Json.field_struct hdistinct (o := none) (by simp [Envelope.fields])]
    rfl
  have hsignature := hstr "signature" e.signature (by simp [Envelope.fields])
  have hpayload := hstr "payload_ciphertext" e.payloadCiphertext (by simp [Envelope.fields])
  have hmessage := hstr "client_message_id" e.clientMessageID (by simp [Envelope.fields])
  unfold Posting.extractMessageProofInput
  rw [Envelope.data, Utf8.text_encode, Json.parseChars_text _ (by decide)]
  simp only [Option.bind_eq_bind, Option.bind_some, Json.members_struct, hhash, hsignature, hpayload, hmessage,
    Option.pure_def, Option.getD_some]

/-! ## The device checks -/

section Checks

variable {c : Crypto} {req : Posting.Request} {t : Tables} {senderID recipientID : UUID} {keys : PublicKeys} {sender : Sender}
  {messageID : UUID} {sentAt : Nat} {s : Sealed}

/-- The vault holds an active key of the identity, and what it signs verifies. -/
structure Holds (c : Crypto) (verify : Bytes → Bytes → Bytes → Bool) (t : Tables) (senderID : UUID)
    (vault : DeviceVault) : Prop where
  key : ∃ keyID key publicKey, vault.deviceKeyID = keyID.text ∧ keyID ≠ .nil ∧
    findActiveDeviceKey t senderID keyID = some key ∧ hexDecode key.signPublic.toList = some publicKey ∧
    publicKey.length = 32 ∧ ∀ m, verify publicKey m (c.sign (c.hexToBytes vault.signPrivate) m) = true
  present : vault.signPrivate ≠ ""
  length : ∀ m, (c.sign (c.hexToBytes vault.signPrivate) m).length = 64

/-- The vault is of one of the sender's active keys, or there is none of either. -/
def VaultFor (c : Crypto) (verify : Bytes → Bytes → Bytes → Bool) (t : Tables) (senderID : UUID) :
    Option DeviceVault → Prop
  | none => findActiveDeviceKeysForIdentity t senderID = []
  | some vault => Holds c verify t senderID vault

/-- The queries of the device checks that are made are answered. -/
def Answered (faults : Posting.Faults) (t : Tables) (senderID : UUID) : Prop :=
  faults.senderKeys = false ∧ (findActiveDeviceKeysForIdentity t senderID = [] ∨ faults.senderKey = false) ∧
    faults.recipientKeys = false

theorem findActiveDeviceKeysForIdentity_ne_nil {keyID : UUID} {key : Posting.DeviceKey}
    (h : findActiveDeviceKey t senderID keyID = some key) : findActiveDeviceKeysForIdentity t senderID ≠ [] := by
  unfold findActiveDeviceKey at h
  rw [Option.filter_eq_some_iff, Table.get?_eq_some] at h
  have hmem : key ∈ findActiveDeviceKeysForIdentity t senderID :=
    List.mem_map.2 ⟨(keyID, key), List.mem_filter.2 h, rfl⟩
  exact List.ne_nil_of_mem hmem

@[grind →]
theorem encryptForRecipientDevices_ok {vault : Option DeviceVault} {envelopes : List Envelope}
    (h : encryptForRecipientDevices c keys sender vault messageID sentAt s = .ok envelopes) :
    ∃ e, envelopes = [attachDeviceEnvelopeProof c e vault] ∧ e.recipientDeviceKeyID = "" ∧
      e.senderDeviceKeyID = none ∧ e.deviceSignature = none ∧ e.clientMessageID = messageID.text := by
  obtain ⟨⟨⟩, -, h⟩ := bind_eq_ok.1 h
  obtain ⟨es, hes, h⟩ := bind_eq_ok.1 h
  rw [List.mapM_cons, List.mapM_nil] at hes
  obtain ⟨e, he, hes⟩ := bind_eq_ok.1 hes
  obtain rfl := Except.ok.inj hes
  obtain rfl := Except.ok.inj h
  obtain ⟨⟨⟩, -, he⟩ := bind_eq_ok.1 he
  obtain ⟨⟨⟩, -, he⟩ := bind_eq_ok.1 he
  obtain ⟨⟨⟩, -, he⟩ := bind_eq_ok.1 he
  obtain ⟨⟨⟩, -, he⟩ := bind_eq_ok.1 he
  obtain ⟨⟨⟩, -, he⟩ := bind_eq_ok.1 he
  obtain rfl := Except.ok.inj he
  exact ⟨_, rfl, rfl, rfl, rfl, rfl⟩

theorem recipientDeviceKeyID_attach {e : Envelope} (h : e.recipientDeviceKeyID = "") (vault : Option DeviceVault)
    (a : Addition) : (decodeMeta ((attachDeviceEnvelopeProof c e vault).with a).data).recipientDeviceKeyID = "" := by
  rw [decodeMeta_data]
  cases vault <;> grind [attachDeviceEnvelopeProof, Envelope.info, Envelope.with]

variable {info : Meta}

theorem checkDevices_singleton : Posting.checkDevices req t info [recipientID] = .ok () ↔
    checkSenderDevice req t info = .ok () ∧ checkRecipientDevice req t info recipientID = .ok () := by
  grind [Posting.checkDevices]

theorem checkSenderDevice_unpaired (hkeys : findActiveDeviceKeysForIdentity t req.senderID = [])
    (hid : info.senderDeviceKeyID = "") (hsignature : info.deviceSignature = "") :
    checkSenderDevice req t info = .ok () ↔ req.faults.senderKeys = false := by
  unfold checkSenderDevice
  cases req.faults.senderKeys with
  | true => simp
  | false => simp [hkeys, hid, hsignature, Posting.ensure_eq_ok]

theorem checkSenderDevice_paired {vault : DeviceVault} (hvault : Holds c req.verify t req.senderID vault)
    (hid : info.senderDeviceKeyID = vault.deviceKeyID)
    (hsignature : info.deviceSignature = hexEncode (c.sign (c.hexToBytes vault.signPrivate)
      (bytes ("\n".intercalate ["gaiacom-device-envelope-v1", vault.deviceKeyID, info.clientMessageID,
        info.envelopeSignature])))) :
    checkSenderDevice req t info = .ok () ↔ req.faults.senderKeys = false ∧ req.faults.senderKey = false := by
  obtain ⟨keyID, key, publicKey, hvaultID, hne, hkey, hpublic, hlength, hverify⟩ := hvault.key
  have hkeys := findActiveDeviceKeysForIdentity_ne_nil hkey
  have hkeyID : Posting.keyIDOf info.senderDeviceKeyID = some keyID := by
    grind [Posting.keyIDOf, parse_text]
  have hproof : Posting.verifyDevice req info keyID key = true := by
    grind [Posting.verifyDevice, hexDecode_hexEncode, hvault.length, Posting.deviceProof]
  unfold checkSenderDevice
  cases req.faults.senderKeys with
  | true => simp
  | false =>
    cases req.faults.senderKey with
    | true => simp [hkeys, bind_eq_ok, Posting.required_eq_ok]
    | false => simp [hkeys, hkeyID, hkey, hproof, bind_eq_ok, Posting.required_eq_ok, Posting.ensure_eq_ok]

theorem checkRecipientDevice_identity (hid : info.recipientDeviceKeyID = "") :
    checkRecipientDevice req t info recipientID = .ok () ↔
      req.faults.recipientKeys = false ∧ findActiveDeviceKeysForIdentity t recipientID = [] := by
  have hnone : Posting.keyIDOf info.recipientDeviceKeyID = none := by
    rw [hid]
    decide
  unfold checkRecipientDevice
  cases req.faults.recipientKeys with
  | true => simp
  | false =>
    grind

theorem checkSenderDevice_envelope (req : Posting.Request) {vault : Option DeviceVault} (hvault : VaultFor c req.verify t req.senderID vault)
    {e : Envelope} (hid : e.senderDeviceKeyID = none) (hsignature : e.deviceSignature = none) (a : Addition) :
    checkSenderDevice req t (decodeMeta ((attachDeviceEnvelopeProof c e vault).with a).data) = .ok () ↔
      req.faults.senderKeys = false ∧
        (findActiveDeviceKeysForIdentity t req.senderID = [] ∨ req.faults.senderKey = false) := by
  rw [decodeMeta_data]
  cases vault with
  | none =>
    rw [checkSenderDevice_unpaired hvault]
    · simp [show findActiveDeviceKeysForIdentity t req.senderID = [] from hvault]
    · simp [attachDeviceEnvelopeProof, Envelope.with, Envelope.info, hid]
    · simp [attachDeviceEnvelopeProof, Envelope.with, Envelope.info, hsignature]
  | some vault =>
    obtain ⟨keyID, key, publicKey, hvaultID, -, hkey, -⟩ := hvault.key
    have hattached : attachDeviceEnvelopeProof c e (some vault) = { e with
        senderDeviceKeyID := some vault.deviceKeyID
        deviceSignature := some (hexEncode (c.sign (c.hexToBytes vault.signPrivate) (deviceProof vault.deviceKeyID e))) } := by
      have hne : vault.deviceKeyID ≠ "" := by
        rw [hvaultID]
        exact text_ne_empty keyID
      simp [attachDeviceEnvelopeProof, hne, hvault.present]
    rw [hattached, checkSenderDevice_paired hvault rfl rfl]
    simp [findActiveDeviceKeysForIdentity_ne_nil hkey]

end Checks

/-- Whatever device keys sender and recipient have, what the client encrypts and sends with the device it runs on
passes the device checks exactly if the queries are answered and the recipient has no active device key. -/
theorem envelopes_pass_iff (c : Crypto) (base : Posting.Request) (t : Tables) (senderID recipientID : UUID) (keys : PublicKeys)
    (sender : Sender) (vault : Option DeviceVault) (messageID : UUID) (sentAt : Nat) (s : Sealed) (a : Addition)
    (envelopes : List Envelope) (hvault : VaultFor c base.verify t senderID vault)
    (hencrypted : encryptForRecipientDevices c keys sender vault messageID sentAt s = .ok envelopes) :
    (∀ req ∈ deliverDeviceEnvelopes base senderID recipientID (envelopes.map fun e => e.with a),
        Posting.checkDevices req t (decodeMeta req.envelopeData) req.recipientIDs.eraseDups = .ok ()) ↔
      Answered base.faults t senderID ∧ findActiveDeviceKeysForIdentity t recipientID = [] := by
  obtain ⟨e, rfl, hdevice, hid, hsignature, -⟩ := encryptForRecipientDevices_ok hencrypted
  simp only [deliverDeviceEnvelopes, List.map_cons, List.map_nil, List.mem_singleton, forall_eq]
  have hids : (requestFor base senderID recipientID ((attachDeviceEnvelopeProof c e vault).with a)).recipientIDs.eraseDups =
      [recipientID] := rfl
  have hdata : (requestFor base senderID recipientID ((attachDeviceEnvelopeProof c e vault).with a)).envelopeData =
      ((attachDeviceEnvelopeProof c e vault).with a).data := rfl
  rw [hids, hdata, checkDevices_singleton, checkRecipientDevice_identity (recipientDeviceKeyID_attach hdevice vault a),
    checkSenderDevice_envelope (requestFor base senderID recipientID _) hvault hid hsignature, Answered]
  simp only [requestFor, and_assoc]

def sampleCrypto : Crypto where
  hexToBytes s := if s = "pke" then List.replicate 1568 0 else List.replicate 32 0
  createSovereignKeysetProof _ _ := ""
  verifySovereignKeysetProof _ _ := true
  sign _ _ := List.replicate 64 0

def sampleKeys : PublicKeys := ⟨"pke", "box", "identity", String.ofList (List.replicate 1024 '0'), "", none⟩

def sampleSealed : Sealed := ⟨[], [], [], [], [], [], [], []⟩

def sampleEnvelope (messageID : UUID) : Envelope where
  algorithmSuite := acceleratedSuite
  kemCiphertext := ""
  hqcCiphertext := ""
  ephemeralPub := ""
  payloadCiphertext := ""
  iv := ""
  signature := ""
  signatureBundle := ⟨"", none, none⟩
  senderMldsa87Public := ""
  clientMessageID := messageID.text
  timestamp := 1784289600000
  recipientDeviceKeyID := ""
  recipientDeviceBoxPublic := hexEncode (List.replicate 32 0)
  sovereignProfile := "accelerated"
  senderDeviceKeyID := none
  deviceSignature := none
  recipientGaia := none
  roomID := none
  channelID := none
  readReceiptSourceID := none

theorem sample_encrypted (messageID : UUID) :
    encryptForRecipientDevices sampleCrypto sampleKeys ⟨"", false, ""⟩ none messageID 1784289600000 sampleSealed =
      .ok [sampleEnvelope messageID] := by
  have hcapability : sampleKeys.hqc256.toList.length = 1024 := by
    rw [sampleKeys, String.toList_ofList, List.length_replicate]
  have hpresent : sampleKeys.hqc256 ≠ "" := by
    intro hempty
    rw [hempty] at hcapability
    cases hcapability
  have hkeyset : ((sampleCrypto.hexToBytes sampleKeys.pke).length = 1568 &&
      (sampleCrypto.hexToBytes sampleKeys.box).length = 32 &&
      (sampleCrypto.hexToBytes sampleKeys.identity).length = 32) = true := by decide +kernel
  have hsealed : encryptSovereignPayload sampleCrypto sampleKeys ⟨"", false, ""⟩ messageID 1784289600000 ""
      sampleSealed = .ok (sampleEnvelope messageID) := by
    simp only [encryptSovereignPayload, hkeyset, hcapability]
    rfl
  refine bind_eq_ok.2 ⟨(), by simp [ensure, hpresent], bind_eq_ok.2 ⟨[sampleEnvelope messageID], ?_, rfl⟩⟩
  rw [List.mapM_cons, List.mapM_nil, hsealed]
  rfl

theorem sample_sizes : ∀ messageID ∈ [5, 6],
    ((sampleEnvelope (.ofByte messageID)).with ⟨none, none, none, none⟩).data.length = 531 ∧
      ((sampleEnvelope (.ofByte messageID)).with
        ⟨some "@b:x", none, none, some (UUID.ofByte 21).text⟩).data.length = 619 ∧
      ((sampleEnvelope (.ofByte messageID)).with
        ⟨none, some (UUID.ofByte 7).text, some "c", none⟩).data.length = 597 := by
  simp only [List.mem_cons, List.not_mem_nil, or_false, forall_eq_or_imp, forall_eq, Envelope.with, sampleEnvelope,
    acceleratedSuite, Envelope.data, Envelope.fields, SignatureBundle.fields, strOpt, Option.map_some, Option.map_none,
    Json.Written.struct, Json.Written.object, Json.Written.str, Json.present, List.filterMap, Json.objectText,
    Json.memberText, Json.moreMembers, List.flatMap_cons, List.flatMap_nil, bytes, UUID.text, hexEncode,
    String.toList_ofList]
  -- the characters of a literal are given, not decoded from its bytes
  repeat rw [String.toList_ofList]
  decide +kernel

/-- A recipient without devices is reached. -/
theorem unpaired_reached :
    encryptForRecipientDevices sampleCrypto sampleKeys ⟨"", false, ""⟩ none (.ofByte 5) 1784289600000 sampleSealed =
        .ok [sampleEnvelope (.ofByte 5)] ∧
      ∀ req ∈ deliverDeviceEnvelopes (Posting.sampleRequest "") (.ofByte 2) (.ofByte 1)
        ([sampleEnvelope (.ofByte 5)].map fun e => e.with ⟨none, none, none, none⟩),
      Posting.checkDevices req Posting.sampleStore.tables (decodeMeta req.envelopeData) req.recipientIDs.eraseDups =
        .ok () := by
  have hkeys : ∀ identityID, findActiveDeviceKeysForIdentity Posting.sampleStore.tables identityID = [] := fun _ => rfl
  refine ⟨sample_encrypted _, (envelopes_pass_iff sampleCrypto (Posting.sampleRequest "") Posting.sampleStore.tables
    (.ofByte 2) (.ofByte 1) sampleKeys _ none _ _ _ _ _ (hkeys _) (sample_encrypted _)).2 ⟨?_, hkeys _⟩⟩
  exact ⟨rfl, .inr rfl, rfl⟩

def samplePaired : Tables :=
  { Posting.sampleStore.tables with deviceKeys := Table.empty.insertOrIgnore (.ofByte 31) ⟨.ofByte 1, "", "", true⟩ }

/-- A recipient that has paired a device is not reached. -/
theorem paired_unreachable :
    encryptForRecipientDevices sampleCrypto sampleKeys ⟨"", false, ""⟩ none (.ofByte 5) 1784289600000 sampleSealed =
        .ok [sampleEnvelope (.ofByte 5)] ∧
      VaultFor sampleCrypto (Posting.sampleRequest "").verify samplePaired (.ofByte 2) none ∧
      ¬ ∀ req ∈ deliverDeviceEnvelopes (Posting.sampleRequest "") (.ofByte 2) (.ofByte 1) [sampleEnvelope (.ofByte 5)],
        Posting.checkDevices req samplePaired (decodeMeta req.envelopeData) req.recipientIDs.eraseDups = .ok () := by
  have hkeys : findActiveDeviceKeysForIdentity samplePaired (.ofByte 2) = [] := by decide +kernel
  refine ⟨sample_encrypted _, hkeys, fun hpass => ?_⟩
  have hchecked := (checkDevices_singleton.1 (hpass _ (List.mem_singleton_self _))).2
  have hdevice : (decodeMeta (sampleEnvelope (.ofByte 5)).data).recipientDeviceKeyID = "" := by
    rw [decodeMeta_data]
    rfl
  exact absurd ((checkRecipientDevice_identity hdevice).1 hchecked).2 (by decide +kernel)

end GaiaCom.Messaging.Fanout
