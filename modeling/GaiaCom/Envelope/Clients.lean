/-
The hybrid envelopes of the two clients: `encryptPayload` and `decryptPayload` of crypto.js for the standard and the top-secret
suite, and `encryptMessageWithRuntime` and `DecryptMessage` of the mobile client, over primitives that are assumed correct and
the same on both sides.
-/
import GaiaCom.Core.Uuid
import GaiaCom.Core.Validate
import GaiaCom.Envelope.Transcript

namespace GaiaCom.Envelope

open Lib Core

/-! ## Primitives -/

/-- ML-KEM-1024, X25519, HKDF, AES-256-GCM, Ed25519 and ML-DSA-87, with their sizes and what makes them correct. -/
structure Primitives extends Hashes where
  mlkemPublic : (privateKey : Bytes) → Bytes
  /-- Ciphertext and secret; `none` for what is no public key. -/
  encapsulate : (publicKey seed : Bytes) → Option (Bytes × Bytes)
  decapsulate : (privateKey ciphertext : Bytes) → Option Bytes
  x25519Public : (privateKey : Bytes) → Bytes
  /-- The shared secret; `none` for points of low order. -/
  x25519 : (privateKey publicKey : Bytes) → Option Bytes
  hkdf : (ikm salt info : Bytes) → Bytes
  gcmSeal : (key iv aad plaintext : Bytes) → Bytes
  gcmOpen : (key iv aad ciphertext : Bytes) → Option Bytes
  ed25519Public : (seed : Bytes) → Bytes
  ed25519Sign : (seed message : Bytes) → Bytes
  ed25519Verify : (publicKey message signature : Bytes) → Bool
  mldsaPublic : (privateKey : Bytes) → Bytes
  mldsaSign : (privateKey message randomness : Bytes) → Bytes
  mldsaVerify : (publicKey message signature : Bytes) → Bool
  encapsulate_length : ∀ publicKey seed ct secret, encapsulate publicKey seed = some (ct, secret) →
    ct.length = 1568 ∧ secret.length = 32
  decapsulate_encapsulate : ∀ privateKey seed ct secret, encapsulate (mlkemPublic privateKey) seed = some (ct, secret) →
    decapsulate privateKey ct = some secret
  x25519Public_length : ∀ privateKey, (x25519Public privateKey).length = 32
  x25519_length : ∀ privateKey publicKey secret, x25519 privateKey publicKey = some secret → secret.length = 32
  x25519_comm : ∀ a b, x25519 a (x25519Public b) = x25519 b (x25519Public a)
  gcmSeal_length : ∀ key iv aad plaintext, (gcmSeal key iv aad plaintext).length = plaintext.length + 16
  gcmOpen_gcmSeal : ∀ key iv aad plaintext, gcmOpen key iv aad (gcmSeal key iv aad plaintext) = some plaintext
  ed25519Public_length : ∀ seed, (ed25519Public seed).length = 32
  ed25519Sign_length : ∀ seed message, (ed25519Sign seed message).length = 64
  ed25519_correct : ∀ seed message, ed25519Verify (ed25519Public seed) message (ed25519Sign seed message) = true
  mldsaPublic_length : ∀ privateKey, (mldsaPublic privateKey).length = 2592
  mldsaSign_length : ∀ privateKey message randomness, (mldsaSign privateKey message randomness).length = 4627
  mldsa_correct : ∀ privateKey message randomness,
    mldsaVerify (mldsaPublic privateKey) message (mldsaSign privateKey message randomness) = true

/-- `standardMessageSuite`. -/
def standardMessageSuite : String := "GaiaCom/v0.1/hybrid-kem/X25519+ML-KEM-1024/AES-256-GCM"

/-- `topSecretMessageSuite`. -/
def topSecretMessageSuite : String := "GaiaCom/v0.2/top-secret/X25519+ML-KEM-1024/AES-256-GCM/Ed25519+ML-DSA-87"

/-- The suites of `decryptSovereignPayload`. -/
def sovereignSuites : List String :=
  ["GaiaCom/v1.0/sovereign-accelerated/X25519+ML-KEM-1024+HQC-256/Twofish-256-EAX+AES-256-GCM/Ed25519",
    "GaiaCom/v1.0/sovereign-top-secret/X25519+ML-KEM-1024+HQC-256/Serpent-256-CTR-HMAC-SHA3-512+Twofish-256-EAX" ++
      "+XChaCha20-Poly1305+AES-256-GCM-SIV/Ed25519+ML-DSA-87"]

def suiteOf (topSecret : Bool) : String := if topSecret then topSecretMessageSuite else standardMessageSuite

/-- `combineHybridSecrets` and `combineSecretsLengthPrefixed`. -/
def combineHybridSecrets (x25519Secret mlkemSecret : Bytes) : Bytes :=
  bigEndian 4 x25519Secret.length ++ x25519Secret ++ bigEndian 4 mlkemSecret.length ++ mlkemSecret

section Results

variable {ε α : Type}

def demand (err : ε) (p : Bool) : Except ε Unit := if p then .ok () else .error err

def given (err : ε) : Option α → Except ε α
  | none => .error err
  | some a => .ok a

@[grind =]
theorem demand_eq_ok {err : ε} {p : Bool} {u : Unit} : demand err p = .ok u ↔ p = true := by
  cases p <;> simp [demand]

@[grind =]
theorem given_eq_ok {err : ε} {o : Option α} {a : α} : given err o = .ok a ↔ o = some a := by
  cases o <;> simp [given]

end Results

/-! ## The mobile client -/

/-- The keys of an identity. -/
structure KeyBundle (c : Primitives) where
  ed25519Public : Bytes
  ed25519Seed : Bytes
  x25519Public : Bytes
  x25519Private : Bytes
  mlkem1024Public : Bytes
  mlkem1024Private : Bytes
  mldsa87Public : Bytes
  mldsa87Private : Bytes
  ed25519_pair : ed25519Public = c.ed25519Public ed25519Seed
  x25519_pair : x25519Public = c.x25519Public x25519Private
  mlkem_pair : mlkem1024Public = c.mlkemPublic mlkem1024Private
  mldsa_pair : mldsa87Public = c.mldsaPublic mldsa87Private
  seed_length : ed25519Seed.length = 32
  mldsa87Private_length : mldsa87Private.length = 4896

/-- `validCanonicalUUID`. -/
def validCanonicalUUID (value : String) : Bool := (parse value).any fun u => u ≠ .nil && u.text = value

def validOptionalCanonicalUUID (value : String) : Bool := value = "" || validCanonicalUUID value

/-- `MessageRecipient`, as `NewMessageRecipient` accepts it. -/
structure MessageRecipient where
  identityPublic : Bytes
  x25519Public : Bytes
  mlkem1024Public : Bytes
  mldsa87Public : Bytes
  deviceKeyID : String
  identity_length : identityPublic.length = 32
  x25519_length : x25519Public.length = 32
  mlkem_length : mlkem1024Public.length = 1568
  mldsa_length : mldsa87Public.length = 0 ∨ mldsa87Public.length = 2592
  deviceKeyID_valid : validOptionalCanonicalUUID deviceKeyID = true

/-- `MessageSender`. -/
structure MessageSender where
  ed25519Public : Bytes
  mldsa87Public : Bytes

/-- `MessageEnvelope`. -/
structure MessageEnvelope where
  algorithmSuite : String
  kemCiphertext : Bytes
  ephemeralPublic : Bytes
  payloadCiphertext : Bytes
  iv : Bytes
  ed25519Signature : Bytes
  mldsa87Signature : Bytes
  senderMldsa87Public : Bytes
  clientMessageID : String
  timestampMillis : Int64
  recipientDeviceKeyID : String
  recipientDeviceBoxPublic : Bytes
  deriving DecidableEq

/-- `maximumMessagePlaintext`. -/
def maximumMessagePlaintext : Nat := 8 * 1024 * 1024

/-- `maximumTimestampMillis`. -/
def maximumTimestampMillis : Int := 9007199254740991

/-- `validateEnvelopeFields`. -/
def MessageEnvelope.valid (e : MessageEnvelope) : Bool :=
  let topSecret := decide (e.algorithmSuite = topSecretMessageSuite)
  (decide (e.algorithmSuite = standardMessageSuite) || topSecret) && e.kemCiphertext.length == 1568 &&
    e.ephemeralPublic.length == 32 && decide (16 ≤ e.payloadCiphertext.length) &&
    decide (e.payloadCiphertext.length ≤ maximumMessagePlaintext + 16) && e.iv.length == 12 &&
    e.ed25519Signature.length == 64 && e.recipientDeviceBoxPublic.length == 32 && validCanonicalUUID e.clientMessageID &&
    decide (0 < e.timestampMillis.toInt) && decide (e.timestampMillis.toInt ≤ maximumTimestampMillis) &&
    validOptionalCanonicalUUID e.recipientDeviceKeyID &&
    (if topSecret then e.mldsa87Signature.length == 4627 && e.senderMldsa87Public.length == 2592
      else e.mldsa87Signature.length == 0 && e.senderMldsa87Public.length == 0)

/-- Why the mobile client gives up. -/
inductive MobileError where
  | encryptionRejected | encryptionFailed | decryptionRejected | decryptionFailed
  deriving DecidableEq

/-- `messageCryptoRuntime`: the bytes that the reader will give, the clock in milliseconds, and what ML-DSA draws. -/
structure Runtime where
  random : Bytes
  now : Int64
  mldsaRandom : Bytes

/-- `io.ReadFull`: bytes and what is left of the reader. -/
def readFull (n : Nat) (random : Bytes) : Except MobileError (Bytes × Bytes) :=
  if n ≤ random.length then .ok (random.take n, random.drop n) else .error .encryptionFailed

def uuidBytes (value : Bytes) : Bytes :=
  (value.modify 6 fun b => b &&& 0x0f ||| 0x40).modify 8 fun b => b &&& 0x3f ||| 0x80

/-- `generateMessageUUID`. -/
def generateMessageUUID (random : Bytes) : Except MobileError String := do
  let (value, _) ← readFull 16 random
  return String.ofList (dashed (hexEncode (uuidBytes value)).toList)

def chosenMessageID (random : Bytes) (messageID : String) : Except MobileError String :=
  if messageID = "" then generateMessageUUID random else .ok messageID

section Mobile

variable (c : Primitives)

/-- `deriveSymmetricMessageKey`. -/
def deriveSymmetricMessageKey (x25519Private peerX25519Public ephemeralPublic kemCiphertext kemSecret : Bytes)
    (algorithmSuite : String) : Option Bytes := do
  let x25519Secret ← c.x25519 x25519Private peerX25519Public
  if x25519Secret.length ≠ 32 then none
  return c.hkdf (combineHybridSecrets x25519Secret kemSecret) (ephemeralPublic ++ kemCiphertext) (utf8 algorithmSuite)

/-- `encryptMessageWithRuntime`. -/
def encryptMessageWithRuntime (i : KeyBundle c) (recipient : MessageRecipient) (plaintext : Bytes) (messageID : String)
    (timestampMillis : Int64) (topSecret : Bool) (runtime : Runtime) : Except MobileError MessageEnvelope := do
  demand .encryptionRejected (plaintext.length ≤ maximumMessagePlaintext && (messageID = "" || validCanonicalUUID messageID) &&
    0 ≤ timestampMillis.toInt && timestampMillis.toInt ≤ maximumTimestampMillis)
  demand .encryptionRejected (!topSecret || recipient.mldsa87Public.length == 2592)
  let suite := suiteOf topSecret
  let (kemSeed, random) ← readFull 32 runtime.random
  let (kemCiphertext, kemSecret) ← given .encryptionFailed (c.encapsulate recipient.mlkem1024Public kemSeed)
  let (ephemeralPrivate, random) ← readFull 32 random
  let ephemeralPublic := c.x25519Public ephemeralPrivate
  let symmetricKey ← given .encryptionFailed (deriveSymmetricMessageKey c ephemeralPrivate recipient.x25519Public
    ephemeralPublic kemCiphertext kemSecret suite)
  let (iv, random) ← readFull 12 random
  let messageID ← chosenMessageID random messageID
  let timestampMillis := if timestampMillis = 0 then runtime.now else timestampMillis
  demand .encryptionFailed (validCanonicalUUID messageID && 0 < timestampMillis.toInt &&
    timestampMillis.toInt ≤ maximumTimestampMillis)
  let transcript : MessageTranscript := {
    algorithmSuite := suite
    senderIdentity := i.ed25519Public
    recipientIdentity := recipient.identityPublic
    recipientDevice := recipient.x25519Public
    recipientDeviceKeyID := recipient.deviceKeyID
    ephemeralPublic := ephemeralPublic
    kemCiphertext := kemCiphertext
    messageID := messageID
    timestampMillis := timestampMillis
    iv := iv
    payloadCiphertext := [] }
  let payloadCiphertext := c.gcmSeal symmetricKey iv (buildMessageAAD c.toHashes transcript) plaintext
  let signaturePayload := buildMessageSignaturePayload c.toHashes { transcript with payloadCiphertext := payloadCiphertext }
  demand .encryptionFailed (i.ed25519Seed.length == 32)
  demand .encryptionFailed (!topSecret || i.mldsa87Private.length == 4896)
  let envelope : MessageEnvelope := {
    algorithmSuite := suite
    kemCiphertext := kemCiphertext
    ephemeralPublic := ephemeralPublic
    payloadCiphertext := payloadCiphertext
    iv := iv
    ed25519Signature := c.ed25519Sign i.ed25519Seed signaturePayload
    mldsa87Signature := if topSecret then c.mldsaSign i.mldsa87Private signaturePayload runtime.mldsaRandom else []
    senderMldsa87Public := if topSecret then i.mldsa87Public else []
    clientMessageID := messageID
    timestampMillis := timestampMillis
    recipientDeviceKeyID := recipient.deviceKeyID
    recipientDeviceBoxPublic := recipient.x25519Public }
  demand .encryptionFailed envelope.valid
  return envelope

variable {c}

def MessageEnvelope.transcript (e : MessageEnvelope) (senderIdentity recipientIdentity recipientDevice : Bytes) :
    MessageTranscript where
  algorithmSuite := e.algorithmSuite
  senderIdentity := senderIdentity
  recipientIdentity := recipientIdentity
  recipientDevice := recipientDevice
  recipientDeviceKeyID := e.recipientDeviceKeyID
  ephemeralPublic := e.ephemeralPublic
  kemCiphertext := e.kemCiphertext
  messageID := e.clientMessageID
  timestampMillis := e.timestampMillis
  iv := e.iv
  payloadCiphertext := e.payloadCiphertext

variable (c)

/-- `DecryptMessage`. -/
def decryptMessage (i : KeyBundle c) (sender : MessageSender) (received : MessageEnvelope) : Except MobileError Bytes := do
  demand .decryptionRejected received.valid
  demand .decryptionFailed (received.recipientDeviceBoxPublic = i.x25519Public)
  let transcript := received.transcript sender.ed25519Public i.ed25519Public i.x25519Public
  let signaturePayload := buildMessageSignaturePayload c.toHashes transcript
  demand .decryptionFailed (c.ed25519Verify sender.ed25519Public signaturePayload received.ed25519Signature)
  demand .decryptionFailed (received.algorithmSuite ≠ topSecretMessageSuite ||
    (sender.mldsa87Public.length == 2592 && received.senderMldsa87Public = sender.mldsa87Public &&
      c.mldsaVerify received.senderMldsa87Public signaturePayload received.mldsa87Signature))
  let kemSecret ← given .decryptionFailed (c.decapsulate i.mlkem1024Private received.kemCiphertext)
  let symmetricKey ← given .decryptionFailed (deriveSymmetricMessageKey c i.x25519Private received.ephemeralPublic
    received.ephemeralPublic received.kemCiphertext kemSecret received.algorithmSuite)
  let plaintext ← given .decryptionFailed (c.gcmOpen symmetricKey received.iv (buildMessageAAD c.toHashes transcript)
    received.payloadCiphertext)
  demand .decryptionFailed (plaintext.length ≤ maximumMessagePlaintext)
  return plaintext

end Mobile

/-! ## The web client -/

/-- An envelope as the web client makes and reads it; `signature_bundle` has its two fields for ML-DSA or not. -/
structure WebEnvelope where
  algorithmSuite : JsString
  kemCiphertext : JsString
  ephemeralPub : JsString
  payloadCiphertext : JsString
  iv : JsString
  signature : JsString
  bundleEd25519 : JsString
  bundleMldsa87 : Option JsString
  bundleMldsa87Public : Option JsString
  senderMldsa87Public : JsString
  clientMessageID : JsString
  timestamp : Nat
  recipientDeviceKeyID : JsString
  recipientDeviceBoxPublic : JsString

/-- `recipientPubKeysHex`. -/
structure PublicKeysHex where
  pke : JsString
  box : JsString
  identity : JsString
  mldsa87 : JsString

/-- `recipientPrivKeysHex`. -/
structure PrivateKeysHex where
  pke : JsString
  box : JsString

/-- Why the web client throws. -/
inductive WebError where
  | kemKey | boxKey | identityKey | mldsaCapability | mldsaPrivate | kemCiphertext | ephemeralKey | recipientKemKey
  | recipientBoxKey | metadata | signature | mldsaSignature | mldsaExpected | mldsaPublic | mldsaInvalid | decapsulation | ecdh
  /-- Thrown by a library or the platform. -/
  | library
  deriving DecidableEq

/-- What the browser draws for one envelope, and its clock. -/
structure WebRandom where
  kemSeed : Bytes
  ephemeralSeed : Bytes
  iv : Bytes
  uuid : Bytes
  mldsaRandom : Bytes
  now : Nat
  iv_length : iv.length = 12

/-- `options` of `encryptPayload`, without a sovereign profile. -/
structure EncryptOptions where
  topSecret : Bool
  recipientDeviceKeyID : JsString
  senderMldsa87PrivHex : JsString

/-- `generateUUID`. -/
def generateUUID (random : Bytes) : JsString := js (String.ofList (dashed (hexEncode (uuidBytes random)).toList))

/-- The character that `TextDecoder` takes for a mark of the encoding. -/
def byteOrderMark : Char := Char.ofNat 0xFEFF

/-- `new TextDecoder().decode(bytes)`; `lossy` is what it makes of bytes that are not UTF-8. -/
def textDecode (lossy : Bytes → List Char) (bytes : Bytes) : String :=
  String.ofList
    (if (Utf8.runes bytes).all Option.isSome then
      if (Utf8.text bytes).head? = some byteOrderMark then (Utf8.text bytes).tail else Utf8.text bytes
    else lossy bytes)

section Web

variable (c : Primitives)

/-- `encryptPayload`. -/
def encryptPayload (plaintext : JsString) (recipientPubKeysHex : PublicKeysHex) (senderSignPrivHex messageID : JsString)
    (timestamp : Nat) (options : EncryptOptions) (random : WebRandom) : Except WebError WebEnvelope := do
  let algorithmSuite := suiteOf options.topSecret
  let recipientPkeBytes := hexToBytes recipientPubKeysHex.pke
  let recipientBoxBytes := hexToBytes recipientPubKeysHex.box
  let recipientSignBytes := hexToBytes recipientPubKeysHex.identity
  demand .kemKey (recipientPkeBytes.length == 1568)
  demand .boxKey (recipientBoxBytes.length == 32)
  demand .identityKey (recipientSignBytes.length == 32)
  demand .mldsaCapability (!options.topSecret || (hexToBytes recipientPubKeysHex.mldsa87).length == 2592)
  let (kemCiphertext, kemSecret) ← given .library (c.encapsulate recipientPkeBytes random.kemSeed)
  let ephemeralPub := c.x25519Public random.ephemeralSeed
  let x25519Secret ← given .library (c.x25519 random.ephemeralSeed recipientBoxBytes)
  let combinedSecret := c.hkdf (combineHybridSecrets x25519Secret kemSecret) (ephemeralPub ++ kemCiphertext)
    (textEncode (js algorithmSuite))
  let senderSignPrivBytes := hexToBytes senderSignPrivHex
  demand .library (senderSignPrivBytes.length == 32)
  let senderSignPubBytes := c.ed25519Public senderSignPrivBytes
  let clientMessageID := if messageID = [] then generateUUID random.uuid else messageID
  let ts := if timestamp = 0 then random.now else timestamp
  let aadBytes ← given .library (buildCanonicalAAD c.toHashes {
    protocolVersion := js "v0.1"
    algorithmSuite := js algorithmSuite
    senderIdentityKey := .raw senderSignPubBytes
    recipientIdentityKey := .raw recipientSignBytes
    recipientDeviceKey := .raw recipientBoxBytes
    recipientDeviceKeyID := options.recipientDeviceKeyID
    ephemeralX25519PublicKey := .raw ephemeralPub
    mlkemCiphertext := kemCiphertext
    messageID := clientMessageID
    timestamp := ts
    iv := random.iv })
  let payloadCiphertext := c.gcmSeal combinedSecret random.iv aadBytes (textEncode plaintext)
  let sigPayload ← given .library (buildCanonicalSignaturePayload {
    protocolVersion := js "v0.1"
    algorithmSuite := js algorithmSuite
    sender := .raw senderSignPubBytes
    recipient := .raw recipientSignBytes
    deviceKey := .raw recipientBoxBytes
    recipientDeviceKeyID := options.recipientDeviceKeyID
    ephemeralKey := .raw ephemeralPub
    mlkemCiphertextHash := .raw (c.sha256 kemCiphertext)
    messageID := clientMessageID
    timestamp := ts
    iv := random.iv
    ciphertextHash := .raw (c.sha256 payloadCiphertext) })
  let signature := c.ed25519Sign senderSignPrivBytes sigPayload
  let senderMldsaPrivBytes := hexToBytes options.senderMldsa87PrivHex
  demand .mldsaPrivate (!options.topSecret || senderMldsaPrivBytes.length == 4896)
  let mldsa87Public := if options.topSecret then some (bytesToHex (c.mldsaPublic senderMldsaPrivBytes)) else none
  return {
    algorithmSuite := js algorithmSuite
    kemCiphertext := bytesToHex kemCiphertext
    ephemeralPub := bytesToHex ephemeralPub
    payloadCiphertext := bytesToHex payloadCiphertext
    iv := bytesToHex random.iv
    signature := bytesToHex signature
    bundleEd25519 := bytesToHex signature
    bundleMldsa87 := if options.topSecret then
      some (bytesToHex (c.mldsaSign senderMldsaPrivBytes sigPayload random.mldsaRandom)) else none
    bundleMldsa87Public := mldsa87Public
    senderMldsa87Public := mldsa87Public.getD []
    clientMessageID := clientMessageID
    timestamp := ts
    recipientDeviceKeyID := options.recipientDeviceKeyID
    recipientDeviceBoxPublic := bytesToHex recipientBoxBytes }

/-- The first of two strings that is not empty, as `||` picks it. -/
def orElse (a : Option JsString) (b : JsString) : JsString := if a.getD [] = [] then b else a.getD []

/-- `decryptPayload`; `sovereign` is `decryptSovereignPayload`. -/
def decryptPayload (lossy : Bytes → List Char) (sovereign : WebEnvelope → Except WebError String) (envelope : WebEnvelope)
    (senderSignPubHex : JsString) (recipientPubKeysHex : PublicKeysHex) (recipientPrivKeysHex : PrivateKeysHex)
    (expectedSenderMldsa87PubHex : JsString) : Except WebError String :=
  let algorithmSuite := if envelope.algorithmSuite = [] then js standardMessageSuite else envelope.algorithmSuite
  if algorithmSuite ∈ sovereignSuites.map js then sovereign envelope
  else do
    let topSecret := decide (algorithmSuite = js topSecretMessageSuite)
    let kemCiphertextBytes := hexToBytes envelope.kemCiphertext
    let ephemeralPubBytes := hexToBytes envelope.ephemeralPub
    let payloadCiphertextBytes := hexToBytes envelope.payloadCiphertext
    let senderSignPubBytes := hexToBytes senderSignPubHex
    let senderMldsaPubBytes := hexToBytes (orElse envelope.bundleMldsa87Public envelope.senderMldsa87Public)
    let ivBytes := hexToBytes envelope.iv
    let recipientBoxBytes := hexToBytes recipientPubKeysHex.box
    let recipientSignBytes := hexToBytes recipientPubKeysHex.identity
    demand .kemCiphertext (kemCiphertextBytes.length == 1568)
    demand .ephemeralKey (ephemeralPubBytes.length == 32)
    demand .recipientKemKey ((hexToBytes recipientPubKeysHex.pke).length == 1568)
    demand .recipientBoxKey (recipientBoxBytes.length == 32)
    demand .identityKey (recipientSignBytes.length == 32)
    demand .metadata (envelope.clientMessageID ≠ [] && envelope.timestamp ≠ 0)
    let sigPayload ← given .library (buildCanonicalSignaturePayload {
      protocolVersion := js "v0.1"
      algorithmSuite := algorithmSuite
      sender := .raw senderSignPubBytes
      recipient := .raw recipientSignBytes
      deviceKey := .raw recipientBoxBytes
      recipientDeviceKeyID := envelope.recipientDeviceKeyID
      ephemeralKey := .raw ephemeralPubBytes
      mlkemCiphertextHash := .raw (c.sha256 kemCiphertextBytes)
      messageID := envelope.clientMessageID
      timestamp := envelope.timestamp
      iv := ivBytes
      ciphertextHash := .raw (c.sha256 payloadCiphertextBytes) })
    demand .signature (c.ed25519Verify senderSignPubBytes sigPayload (hexToBytes envelope.signature))
    let mldsaSignature := hexToBytes (envelope.bundleMldsa87.getD [])
    let expectedSenderMldsaPubBytes := hexToBytes expectedSenderMldsa87PubHex
    demand .mldsaSignature (!topSecret || (senderMldsaPubBytes.length == 2592 && mldsaSignature.length == 4627))
    demand .mldsaExpected (!topSecret || expectedSenderMldsaPubBytes.length == 2592)
    demand .mldsaPublic (!topSecret || senderMldsaPubBytes = expectedSenderMldsaPubBytes)
    demand .mldsaInvalid (!topSecret || c.mldsaVerify senderMldsaPubBytes sigPayload mldsaSignature)
    let kemSecret ← given .library (c.decapsulate (hexToBytes recipientPrivKeysHex.pke) kemCiphertextBytes)
    demand .decapsulation (kemSecret.length == 32)
    let x25519Secret ← given .library (c.x25519 (hexToBytes recipientPrivKeysHex.box) ephemeralPubBytes)
    demand .ecdh (x25519Secret.length == 32)
    let combinedSecret := c.hkdf (combineHybridSecrets x25519Secret kemSecret) (ephemeralPubBytes ++ kemCiphertextBytes)
      (textEncode algorithmSuite)
    let aadBytes ← given .library (buildCanonicalAAD c.toHashes {
      protocolVersion := js "v0.1"
      algorithmSuite := algorithmSuite
      senderIdentityKey := .raw senderSignPubBytes
      recipientIdentityKey := .raw recipientSignBytes
      recipientDeviceKey := .raw recipientBoxBytes
      recipientDeviceKeyID := envelope.recipientDeviceKeyID
      ephemeralX25519PublicKey := .raw ephemeralPubBytes
      mlkemCiphertext := kemCiphertextBytes
      messageID := envelope.clientMessageID
      timestamp := envelope.timestamp
      iv := ivBytes })
    let decrypted ← given .library (c.gcmOpen combinedSecret ivBytes aadBytes payloadCiphertextBytes)
    return textDecode lossy decrypted

end Web

end GaiaCom.Envelope
