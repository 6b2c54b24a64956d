/-
What one client seals, the other opens. Between the clients an envelope travels with its bytes in hex (`webEnvelope`,
`mobileEnvelope`). Whichever client makes it, an envelope is `Genuine`, and a genuine envelope is opened by both
(`decryptMessage_of_genuine`, `decryptPayload_of_genuine`). What the web client returns is not always the text that was sealed:
`TextDecoder` drops a byte order mark at its beginning.
-/
import GaiaCom.Envelope.Clients

namespace GaiaCom.Envelope

open Lib Core

/-! ## Hex between the clients -/

def webEnvelope (e : MessageEnvelope) : WebEnvelope :=
  let topSecret := decide (e.algorithmSuite = topSecretMessageSuite)
  { algorithmSuite := js e.algorithmSuite
    kemCiphertext := bytesToHex e.kemCiphertext
    ephemeralPub := bytesToHex e.ephemeralPublic
    payloadCiphertext := bytesToHex e.payloadCiphertext
    iv := bytesToHex e.iv
    signature := bytesToHex e.ed25519Signature
    bundleEd25519 := bytesToHex e.ed25519Signature
    bundleMldsa87 := if topSecret then some (bytesToHex e.mldsa87Signature) else none
    bundleMldsa87Public := if topSecret then some (bytesToHex e.senderMldsa87Public) else none
    senderMldsa87Public := bytesToHex e.senderMldsa87Public
    clientMessageID := js e.clientMessageID
    timestamp := e.timestampMillis.toInt.toNat
    recipientDeviceKeyID := js e.recipientDeviceKeyID
    recipientDeviceBoxPublic := bytesToHex e.recipientDeviceBoxPublic }

/-- `hex.DecodeString` of a text that came as JSON. -/
def decodeString (s : JsString) : Option Bytes := hexDecode (Utf16.decode s)

def jsonText (s : JsString) : String := String.ofList (Utf16.decode s)

/-- The envelope that the mobile client reads: the two copies of a signature and of a key agree, and `NewMessageEnvelope`
accepts the fields. -/
def mobileEnvelope (w : WebEnvelope) : Option MessageEnvelope := do
  if w.bundleEd25519 ≠ w.signature ∨ w.bundleMldsa87Public.getD [] ≠ w.senderMldsa87Public ∨ 2 ^ 63 ≤ w.timestamp then none
  let kemCiphertext ← decodeString w.kemCiphertext
  let ephemeralPublic ← decodeString w.ephemeralPub
  let payloadCiphertext ← decodeString w.payloadCiphertext
  let iv ← decodeString w.iv
  let ed25519Signature ← decodeString w.signature
  let mldsa87Signature ← decodeString (w.bundleMldsa87.getD [])
  let senderMldsa87Public ← decodeString w.senderMldsa87Public
  let recipientDeviceBoxPublic ← decodeString w.recipientDeviceBoxPublic
  let e : MessageEnvelope := {
    algorithmSuite := jsonText w.algorithmSuite
    kemCiphertext := kemCiphertext
    ephemeralPublic := ephemeralPublic
    payloadCiphertext := payloadCiphertext
    iv := iv
    ed25519Signature := ed25519Signature
    mldsa87Signature := mldsa87Signature
    senderMldsa87Public := senderMldsa87Public
    clientMessageID := jsonText w.clientMessageID
    timestampMillis := Int64.ofNat w.timestamp
    recipientDeviceKeyID := jsonText w.recipientDeviceKeyID
    recipientDeviceBoxPublic := recipientDeviceBoxPublic }
  if e.valid then some e else none

theorem encodeChar_digitChar {n : Nat} (h : n < 16) : Utf16.encodeChar (Nat.digitChar n) = [hexUnit n] := by
  have hall : ∀ n < 16, Utf16.encodeChar (Nat.digitChar n) = [hexUnit n] := by decide
  exact hall n h

theorem bytesToHex_eq (bytes : Bytes) : bytesToHex bytes = js (hexEncode bytes) := by
  rw [js, hexEncode, String.toList_ofList, Utf16.encode, List.flatMap_assoc, bytesToHex]
  refine List.flatMap_congr fun b _ => ?_
  grind [b.toNat_lt, encodeChar_digitChar]

@[simp] theorem decodeString_bytesToHex (bytes : Bytes) : decodeString (bytesToHex bytes) = some bytes := by
  rw [bytesToHex_eq, decodeString, js, Utf16.decode_encode, hexDecode_hexEncode]

@[simp] theorem jsonText_js (s : String) : jsonText (js s) = s := by
  rw [jsonText, js, Utf16.decode_encode, String.ofList_toList]

theorem js_inj {s t : String} : js s = js t ↔ s = t := by
  grind [jsonText_js]

/-! ## Suites -/

theorem suiteOf_eq_topSecret {topSecret : Bool} : suiteOf topSecret = topSecretMessageSuite ↔ topSecret = true := by
  cases topSecret <;> simp [suiteOf, standardMessageSuite, topSecretMessageSuite]

theorem suiteOf_ne_empty (topSecret : Bool) : suiteOf topSecret ≠ "" := by
  cases topSecret <;> simp [suiteOf, standardMessageSuite, topSecretMessageSuite]

theorem suiteOf_not_mem_sovereign (topSecret : Bool) : suiteOf topSecret ∉ sovereignSuites := by
  cases topSecret <;> simp [suiteOf, standardMessageSuite, topSecretMessageSuite, sovereignSuites]

theorem MessageEnvelope.valid_iff {e : MessageEnvelope} :
    e.valid = true ↔ ∃ topSecret, e.algorithmSuite = suiteOf topSecret ∧ e.kemCiphertext.length = 1568 ∧
      e.ephemeralPublic.length = 32 ∧ 16 ≤ e.payloadCiphertext.length ∧
      e.payloadCiphertext.length ≤ maximumMessagePlaintext + 16 ∧ e.iv.length = 12 ∧ e.ed25519Signature.length = 64 ∧
      e.recipientDeviceBoxPublic.length = 32 ∧ validCanonicalUUID e.clientMessageID = true ∧ 0 < e.timestampMillis.toInt ∧
      e.timestampMillis.toInt ≤ maximumTimestampMillis ∧ validOptionalCanonicalUUID e.recipientDeviceKeyID = true ∧
      e.mldsa87Signature.length = (if topSecret then 4627 else 0) ∧
      e.senderMldsa87Public.length = (if topSecret then 2592 else 0) := by
  have hne : standardMessageSuite ≠ topSecretMessageSuite := by simp [standardMessageSuite, topSecretMessageSuite]
  by_cases htop : e.algorithmSuite = topSecretMessageSuite
  · simp [MessageEnvelope.valid, suiteOf, htop, hne.symm, and_assoc]
  · simp [MessageEnvelope.valid, suiteOf, htop, and_assoc]

theorem mobileEnvelope_webEnvelope {e : MessageEnvelope} (h : e.valid = true) : mobileEnvelope (webEnvelope e) = some e := by
  obtain ⟨topSecret, hsuite, -, -, -, -, -, -, -, -, hpos, hle, -, hsig, hpublic⟩ := MessageEnvelope.valid_iff.1 h
  have hstamp : Int64.ofNat e.timestampMillis.toInt.toNat = e.timestampMillis := by
    rw [← Int64.toInt_inj, Int64.toInt_ofNat_of_lt (by unfold maximumTimestampMillis at hle; omega)]
    omega
  have hbound : ¬ 2 ^ 63 ≤ e.timestampMillis.toInt.toNat := by
    unfold maximumTimestampMillis at hle
    omega
  have hmldsa : decodeString ((webEnvelope e).bundleMldsa87.getD []) = some e.mldsa87Signature ∧
      (webEnvelope e).bundleMldsa87Public.getD [] = bytesToHex e.senderMldsa87Public := by
    by_cases htop : e.algorithmSuite = topSecretMessageSuite
    · simp [webEnvelope, htop]
    · have hfalse : topSecret = false := by
        rw [hsuite, suiteOf_eq_topSecret] at htop
        exact Bool.eq_false_iff.2 htop
      rw [hfalse] at hsig hpublic
      simp [webEnvelope, htop, List.length_eq_zero_iff.1 hsig, List.length_eq_zero_iff.1 hpublic, bytesToHex, decodeString,
        Utf16.decode, hexDecode]
  unfold mobileEnvelope
  rw [hmldsa.1, hmldsa.2]
  simp only [webEnvelope, decodeString_bytesToHex, jsonText_js, hstamp, hbound, ne_eq, not_true_eq_false, or_self, if_false,
    Option.bind_eq_bind, Option.bind_some, h, if_true]

/-! ## Genuine envelopes -/

/-- Who writes and who reads: what is public of the sender, and the private keys of the recipient. -/
structure Parties where
  senderIdentity : Bytes
  senderMldsa87 : Bytes
  recipientIdentity : Bytes
  x25519Private : Bytes
  mlkem1024Private : Bytes

section Genuine

variable (c : Primitives) (p : Parties)

def Parties.transcript (e : MessageEnvelope) : MessageTranscript :=
  e.transcript p.senderIdentity p.recipientIdentity (c.x25519Public p.x25519Private)

def messageKey (e : MessageEnvelope) (x25519Secret kemSecret : Bytes) : Bytes :=
  c.hkdf (combineHybridSecrets x25519Secret kemSecret) (e.ephemeralPublic ++ e.kemCiphertext) (utf8 e.algorithmSuite)

/-- A well-formed envelope that the sender signed over its transcript, and that seals the plaintext under a key that the
recipient can derive. -/
structure Genuine (plaintext : Bytes) (e : MessageEnvelope) : Prop where
  valid : e.valid = true
  sender : p.senderIdentity.length = 32
  recipient : p.recipientIdentity.length = 32
  box : e.recipientDeviceBoxPublic = c.x25519Public p.x25519Private
  signed :
    c.ed25519Verify p.senderIdentity (buildMessageSignaturePayload c.toHashes (p.transcript c e)) e.ed25519Signature = true
  signedTwice : e.algorithmSuite = topSecretMessageSuite → e.senderMldsa87Public = p.senderMldsa87 ∧
    c.mldsaVerify p.senderMldsa87 (buildMessageSignaturePayload c.toHashes (p.transcript c e)) e.mldsa87Signature = true
  isSealed : ∃ x25519Secret kemSecret, c.x25519 p.x25519Private e.ephemeralPublic = some x25519Secret ∧
    c.decapsulate p.mlkem1024Private e.kemCiphertext = some kemSecret ∧ kemSecret.length = 32 ∧
    e.payloadCiphertext = c.gcmSeal (messageKey c e x25519Secret kemSecret) e.iv
      (buildMessageAAD c.toHashes (p.transcript c e)) plaintext

variable {c p} {plaintext : Bytes} {e : MessageEnvelope}

theorem Genuine.sized (h : Genuine c p plaintext e) : (p.transcript c e).Sized := by
  obtain ⟨-, -, -, hephemeral, -, -, hiv, -, -, -, hpos, -⟩ := MessageEnvelope.valid_iff.1 h.valid
  exact ⟨h.sender, h.recipient, c.x25519Public_length _, hephemeral, hiv, hpos.le⟩

theorem Genuine.lengths_topSecret (h : Genuine c p plaintext e) (htop : e.algorithmSuite = topSecretMessageSuite) :
    e.mldsa87Signature.length = 4627 ∧ e.senderMldsa87Public.length = 2592 := by
  grind [MessageEnvelope.valid_iff, h.valid, suiteOf_eq_topSecret]

theorem Genuine.length_le (h : Genuine c p plaintext e) : plaintext.length ≤ maximumMessagePlaintext := by
  grind [MessageEnvelope.valid_iff, h.valid, h.isSealed, c.gcmSeal_length]

end Genuine

/-! ## Reading -/

section Read

variable {ε α β : Type}

theorem demand_bind_ok {err : ε} {p : Bool} {f : Unit → Except ε β} {b : β} (hp : p = true) (hf : f () = .ok b) :
    (demand err p >>= f) = .ok b := bind_eq_ok.2 ⟨(), demand_eq_ok.2 hp, hf⟩

theorem given_bind_ok {err : ε} {o : Option α} {f : α → Except ε β} {a : α} {b : β} (ho : o = some a) (hf : f a = .ok b) :
    (given err o >>= f) = .ok b := bind_eq_ok.2 ⟨a, given_eq_ok.2 ho, hf⟩

variable {c : Primitives} {p : Parties} {plaintext : Bytes} {e : MessageEnvelope}

theorem deriveSymmetricMessageKey_eq {privateKey publicKey x25519Secret kemSecret : Bytes}
    (h : c.x25519 privateKey publicKey = some x25519Secret) :
    deriveSymmetricMessageKey c privateKey publicKey e.ephemeralPublic e.kemCiphertext kemSecret e.algorithmSuite =
      some (messageKey c e x25519Secret kemSecret) := by
  simp [deriveSymmetricMessageKey, h, c.x25519_length _ _ _ h, messageKey]

/-- The mobile client of the recipient, with what it trusts of the sender. -/
structure MobileReader (p : Parties) (topSecret : Bool) (k : KeyBundle c) (sender : MessageSender) : Prop where
  identity : k.ed25519Public = p.recipientIdentity
  box : k.x25519Private = p.x25519Private
  kem : k.mlkem1024Private = p.mlkem1024Private
  signer : sender.ed25519Public = p.senderIdentity
  mldsa : topSecret = true → sender.mldsa87Public = p.senderMldsa87

theorem decryptMessage_of_genuine (h : Genuine c p plaintext e) {topSecret : Bool}
    (hsuite : e.algorithmSuite = suiteOf topSecret) {k : KeyBundle c} {sender : MessageSender}
    (hr : MobileReader p topSecret k sender) : decryptMessage c k sender e = .ok plaintext := by
  obtain ⟨x25519Secret, kemSecret, hx, hkem, -, hpayload⟩ := h.isSealed
  have hbox : k.x25519Public = c.x25519Public p.x25519Private := by rw [k.x25519_pair, hr.box]
  have htranscript : e.transcript sender.ed25519Public k.ed25519Public k.x25519Public = p.transcript c e := by
    rw [hr.signer, hr.identity, hbox, Parties.transcript]
  unfold decryptMessage
  rw [htranscript]
  refine demand_bind_ok h.valid ?_
  refine demand_bind_ok (decide_eq_true (h.box.trans hbox.symm)) ?_
  refine demand_bind_ok (by rw [hr.signer, h.signed]) ?_
  refine demand_bind_ok ?_ ?_
  · by_cases htop : e.algorithmSuite = topSecretMessageSuite
    · obtain ⟨hpublic, hverify⟩ := h.signedTwice htop
      have htrue : topSecret = true := suiteOf_eq_topSecret.1 (hsuite.symm.trans htop)
      have hlength := (h.lengths_topSecret htop).2
      grind [hr.mldsa]
    · simp [htop]
  refine given_bind_ok (hr.kem ▸ hkem) ?_
  refine given_bind_ok (deriveSymmetricMessageKey_eq (hr.box ▸ hx)) ?_
  refine given_bind_ok (by rw [hpayload, c.gcmOpen_gcmSeal]) ?_
  exact demand_bind_ok (decide_eq_true h.length_le) rfl

/-- The web client of the recipient, with what it trusts of the sender: keys in any hex that it reads. -/
structure WebReader (c : Primitives) (p : Parties) (topSecret : Bool) (senderSignPubHex : JsString)
    (recipientPubKeysHex : PublicKeysHex) (recipientPrivKeysHex : PrivateKeysHex) (expectedSenderMldsa87PubHex : JsString) :
    Prop where
  identity : hexToBytes recipientPubKeysHex.identity = p.recipientIdentity
  box : hexToBytes recipientPubKeysHex.box = c.x25519Public p.x25519Private
  kem : (hexToBytes recipientPubKeysHex.pke).length = 1568
  boxPrivate : hexToBytes recipientPrivKeysHex.box = p.x25519Private
  kemPrivate : hexToBytes recipientPrivKeysHex.pke = p.mlkem1024Private
  signer : hexToBytes senderSignPubHex = p.senderIdentity
  mldsa : topSecret = true → hexToBytes expectedSenderMldsa87PubHex = p.senderMldsa87

theorem orElse_self (a : Bool) (s : JsString) : orElse (if a then some s else none) s = s := by
  grind [orElse]

theorem decryptPayload_of_genuine (h : Genuine c p plaintext e) {topSecret : Bool}
    (hsuite : e.algorithmSuite = suiteOf topSecret) {senderSignPubHex expectedSenderMldsa87PubHex : JsString}
    {recipientPubKeysHex : PublicKeysHex} {recipientPrivKeysHex : PrivateKeysHex}
    (hr : WebReader c p topSecret senderSignPubHex recipientPubKeysHex recipientPrivKeysHex expectedSenderMldsa87PubHex)
    (lossy : Bytes → List Char) (sovereign : WebEnvelope → Except WebError String) :
    decryptPayload c lossy sovereign (webEnvelope e) senderSignPubHex recipientPubKeysHex recipientPrivKeysHex
      expectedSenderMldsa87PubHex = .ok (textDecode lossy plaintext) := by
  obtain ⟨x25519Secret, kemSecret, hx, hkem, hkemLength, hpayload⟩ := h.isSealed
  obtain ⟨-, -, hct, hephemeral, -, -, -, -, -, hid, hpos, -⟩ := MessageEnvelope.valid_iff.1 h.valid
  have hempty : js e.algorithmSuite ≠ [] := by
    rw [hsuite, Ne, js_eq_nil]
    exact suiteOf_ne_empty topSecret
  have hsovereign : js e.algorithmSuite ∉ sovereignSuites.map js := by
    grind [js_inj, suiteOf_not_mem_sovereign]
  have hidNe : js e.clientMessageID ≠ [] := by
    rw [Ne, js_eq_nil]
    intro hnil
    rw [hnil] at hid
    cases hid
  have hts : e.timestampMillis.toInt.toNat ≠ 0 := by omega
  have hsig := buildCanonicalSignaturePayload_eq c.toHashes h.sized (bytes_raw _) (bytes_raw _) (bytes_raw _) (bytes_raw _)
    (bytes_raw _) (bytes_raw _)
  have haad := buildCanonicalAAD_eq c.toHashes h.sized (bytes_raw _) (bytes_raw _) (bytes_raw _) (bytes_raw _)
  have hsigned := h.signed
  have htwice := h.signedTwice
  generalize buildMessageSignaturePayload c.toHashes (p.transcript c e) = sigPayload at hsig hsigned htwice
  generalize buildMessageAAD c.toHashes (p.transcript c e) = aad at haad hpayload
  dsimp only [Parties.transcript, MessageEnvelope.transcript] at hsig haad
  have hmldsa : e.algorithmSuite = topSecretMessageSuite → e.mldsa87Signature.length = 4627 ∧
      e.senderMldsa87Public.length = 2592 ∧ hexToBytes expectedSenderMldsa87PubHex = e.senderMldsa87Public ∧
      c.mldsaVerify e.senderMldsa87Public sigPayload e.mldsa87Signature = true := by
    intro htop
    obtain ⟨hpublic, hverify⟩ := htwice htop
    obtain ⟨hlength, hkey⟩ := h.lengths_topSecret htop
    rw [hr.mldsa (suiteOf_eq_topSecret.1 (hsuite.symm.trans htop)), hpublic]
    grind
  unfold decryptPayload
  simp only [webEnvelope, hempty, if_false, hsovereign, hexToBytes_bytesToHex, hr.identity, hr.box, hr.boxPrivate,
    hr.kemPrivate, hr.signer, orElse_self]
  -- sizes and metadata, then the signatures, then the keys
  refine demand_bind_ok (beq_iff_eq.2 hct) ?_
  refine demand_bind_ok (beq_iff_eq.2 hephemeral) ?_
  refine demand_bind_ok (beq_iff_eq.2 hr.kem) ?_
  refine demand_bind_ok (beq_iff_eq.2 (c.x25519Public_length _)) ?_
  refine demand_bind_ok (beq_iff_eq.2 h.recipient) ?_
  refine demand_bind_ok (by grind) ?_
  refine given_bind_ok hsig ?_
  refine demand_bind_ok hsigned ?_
  have hwhen : ∀ {q : Bool}, (e.algorithmSuite = topSecretMessageSuite → q = true) →
      (!decide (js e.algorithmSuite = js topSecretMessageSuite) || q) = true := by
    intro q hq
    by_cases htop : e.algorithmSuite = topSecretMessageSuite
    · simp [hq htop]
    · simp [js_inj, htop]
  refine demand_bind_ok (hwhen fun htop => by simp [htop, hmldsa htop]) ?_
  refine demand_bind_ok (hwhen fun htop => by simp [hmldsa htop]) ?_
  refine demand_bind_ok (hwhen fun htop => by simp [hmldsa htop]) ?_
  refine demand_bind_ok (hwhen fun htop => by simp [htop, hmldsa htop]) ?_
  refine given_bind_ok hkem ?_
  refine demand_bind_ok (beq_iff_eq.2 hkemLength) ?_
  refine given_bind_ok hx ?_
  refine demand_bind_ok (beq_iff_eq.2 (c.x25519_length _ _ _ hx)) ?_
  refine given_bind_ok haad ?_
  refine given_bind_ok (a := plaintext) ?_ rfl
  rw [hpayload, textEncode_js]
  exact c.gcmOpen_gcmSeal _ _ _ _

end Read

/-! ## Writing -/

section Write

variable {c : Primitives} {p : Parties}

theorem Genuine.of_parts {plaintext : Bytes} {e : MessageEnvelope} (hvalid : e.valid = true)
    (hrecipient : p.recipientIdentity.length = 32) (hbox : e.recipientDeviceBoxPublic = c.x25519Public p.x25519Private)
    {seed : Bytes} (hseed : p.senderIdentity = c.ed25519Public seed)
    (hsigned : e.ed25519Signature = c.ed25519Sign seed (buildMessageSignaturePayload c.toHashes (p.transcript c e)))
    (mldsaPrivate mldsaRandom : Bytes) (hmldsa : e.algorithmSuite = topSecretMessageSuite →
      p.senderMldsa87 = c.mldsaPublic mldsaPrivate ∧ e.senderMldsa87Public = c.mldsaPublic mldsaPrivate ∧
      e.mldsa87Signature =
        c.mldsaSign mldsaPrivate (buildMessageSignaturePayload c.toHashes (p.transcript c e)) mldsaRandom)
    {kemSeed kemSecret : Bytes}
    (hkem : c.encapsulate (c.mlkemPublic p.mlkem1024Private) kemSeed = some (e.kemCiphertext, kemSecret))
    {ephemeralPrivate x25519Secret : Bytes} (hephemeral : e.ephemeralPublic = c.x25519Public ephemeralPrivate)
    (hx : c.x25519 ephemeralPrivate (c.x25519Public p.x25519Private) = some x25519Secret)
    (hsealed : e.payloadCiphertext = c.gcmSeal (messageKey c e x25519Secret kemSecret) e.iv
      (buildMessageAAD c.toHashes (p.transcript c e)) plaintext) : Genuine c p plaintext e where
  valid := hvalid
  sender := by rw [hseed, c.ed25519Public_length]
  recipient := hrecipient
  box := hbox
  signed := by rw [hsigned, hseed, c.ed25519_correct]
  signedTwice := by
    grind [c.mldsa_correct]
  isSealed := by
    refine ⟨x25519Secret, kemSecret, ?_, c.decapsulate_encapsulate _ _ _ _ hkem, (c.encapsulate_length _ _ _ _ hkem).2, hsealed⟩
    rw [hephemeral, c.x25519_comm, hx]

@[grind →]
theorem deriveSymmetricMessageKey_eq_some {privateKey publicKey ephemeralPublic kemCiphertext kemSecret key : Bytes}
    {algorithmSuite : String} (h : deriveSymmetricMessageKey c privateKey publicKey ephemeralPublic kemCiphertext kemSecret
      algorithmSuite = some key) :
    ∃ x25519Secret, c.x25519 privateKey publicKey = some x25519Secret ∧
      key = c.hkdf (combineHybridSecrets x25519Secret kemSecret) (ephemeralPublic ++ kemCiphertext) (utf8 algorithmSuite) := by
  cases hx : c.x25519 privateKey publicKey with
  | none => simp [deriveSymmetricMessageKey, hx] at h
  | some x25519Secret =>
    simp only [deriveSymmetricMessageKey, hx, Option.bind_eq_bind, Option.bind_some, c.x25519_length _ _ _ hx, ne_eq,
      not_true_eq_false, if_false, Option.pure_def, Option.some.injEq] at h
    exact ⟨x25519Secret, rfl, h.symm⟩

/-- The mobile client of the sender, with what it was told of the recipient. -/
structure MobileWriter (p : Parties) (i : KeyBundle c) (recipient : MessageRecipient) : Prop where
  signer : i.ed25519Public = p.senderIdentity
  mldsa : i.mldsa87Public = p.senderMldsa87
  identity : recipient.identityPublic = p.recipientIdentity
  box : recipient.x25519Public = c.x25519Public p.x25519Private
  kem : recipient.mlkem1024Public = c.mlkemPublic p.mlkem1024Private

theorem genuine_of_encryptMessage {i : KeyBundle c} {recipient : MessageRecipient} (hw : MobileWriter p i recipient)
    {plaintext : Bytes} {messageID : String} {timestampMillis : Int64} {topSecret : Bool} {runtime : Runtime}
    {e : MessageEnvelope}
    (h : encryptMessageWithRuntime c i recipient plaintext messageID timestampMillis topSecret runtime = .ok e) :
    Genuine c p plaintext e ∧ e.algorithmSuite = suiteOf topSecret := by
  unfold encryptMessageWithRuntime at h
  rw [hw.signer, hw.mldsa, hw.identity, hw.box, hw.kem] at h
  simp only [bind_eq_ok, demand_eq_ok, given_eq_ok, Prod.exists] at h
  obtain ⟨-, -, -, -, kemSeed, rest, -, kemCiphertext, kemSecret, hkem, ephemeralPrivate, rest', -, key, hkey, iv, rest'', -,
    id, -, -, -, -, -, -, -, -, hvalid, he⟩ := h
  obtain ⟨x25519Secret, hx, rfl⟩ := deriveSymmetricMessageKey_eq_some hkey
  cases he
  refine ⟨Genuine.of_parts hvalid (hw.identity ▸ recipient.identity_length) rfl (hw.signer.symm.trans i.ed25519_pair) rfl
    i.mldsa87Private runtime.mldsaRandom ?_ hkem rfl hx rfl, rfl⟩
  intro htop
  obtain rfl : topSecret = true := suiteOf_eq_topSecret.1 htop
  have hpublic : p.senderMldsa87 = c.mldsaPublic i.mldsa87Private := hw.mldsa.symm.trans i.mldsa_pair
  exact ⟨hpublic, hpublic, rfl⟩

/-- The web client of the sender, with what it was told of the recipient. -/
structure WebWriter (c : Primitives) (p : Parties) (recipientPubKeysHex : PublicKeysHex) (senderSignPrivHex : JsString)
    (options : EncryptOptions) : Prop where
  signer : c.ed25519Public (hexToBytes senderSignPrivHex) = p.senderIdentity
  mldsa : options.topSecret = true → c.mldsaPublic (hexToBytes options.senderMldsa87PrivHex) = p.senderMldsa87
  identity : hexToBytes recipientPubKeysHex.identity = p.recipientIdentity
  box : hexToBytes recipientPubKeysHex.box = c.x25519Public p.x25519Private
  kem : hexToBytes recipientPubKeysHex.pke = c.mlkemPublic p.mlkem1024Private

/-- What makes the metadata of a web envelope acceptable to the mobile client. -/
structure WebEnvelope.Canonical (w : WebEnvelope) : Prop where
  id : ∃ id, w.clientMessageID = js id ∧ validCanonicalUUID id = true
  deviceID : ∃ id, w.recipientDeviceKeyID = js id ∧ validOptionalCanonicalUUID id = true
  pos : 0 < w.timestamp
  le : (w.timestamp : Int) ≤ maximumTimestampMillis

theorem genuine_of_encryptPayload {plaintext : JsString} {recipientPubKeysHex : PublicKeysHex}
    {senderSignPrivHex messageID : JsString} {timestamp : Nat} {options : EncryptOptions} {random : WebRandom} {w : WebEnvelope}
    (hw : WebWriter c p recipientPubKeysHex senderSignPrivHex options)
    (hlength : (textEncode plaintext).length ≤ maximumMessagePlaintext) (hcanonical : w.Canonical)
    (h : encryptPayload c plaintext recipientPubKeysHex senderSignPrivHex messageID timestamp options random = .ok w) :
    ∃ e, w = webEnvelope e ∧ Genuine c p (textEncode plaintext) e ∧ e.algorithmSuite = suiteOf options.topSecret := by
  unfold encryptPayload at h
  simp only [hw.signer, hw.identity, hw.box, hw.kem, textEncode_js, bind_eq_ok, demand_eq_ok, given_eq_ok, Prod.exists] at h
  obtain ⟨-, -, -, -, -, hidentity, -, -, kemCiphertext, kemSecret, hkem, x25519Secret, hx, -, -, aad, haad, sigPayload, hsig,
    -, -, hret⟩ := h
  cases hret
  obtain ⟨⟨id, hid, hidValid⟩, ⟨deviceID, hdevice, hdeviceValid⟩, hpos, hle⟩ := hcanonical
  dsimp only at hid hdevice hpos hle
  rw [hid, hdevice] at haad hsig
  rw [hid, hdevice]
  generalize (if timestamp = 0 then random.now else timestamp) = ts at haad hsig hpos hle ⊢
  obtain ⟨stamp, rfl⟩ : ∃ stamp : Int64, ts = stamp.toInt.toNat := by
    refine ⟨Int64.ofNat ts, ?_⟩
    grind [Int64.toInt_ofNat_of_lt, maximumTimestampMillis]
  have hsender : p.senderIdentity.length = 32 := by rw [← hw.signer, c.ed25519Public_length]
  have hsized : ∀ payload : Bytes, MessageTranscript.Sized ⟨suiteOf options.topSecret, p.senderIdentity, p.recipientIdentity,
      c.x25519Public p.x25519Private, deviceID, c.x25519Public random.ephemeralSeed, kemCiphertext, id, stamp, random.iv,
      payload⟩ := fun payload =>
    ⟨hsender, beq_iff_eq.1 hidentity, c.x25519Public_length _, c.x25519Public_length _, random.iv_length,
      show 0 ≤ stamp.toInt by omega⟩
  have hmobileAad := buildCanonicalAAD_eq c.toHashes (hsized []) (bytes_raw _) (bytes_raw _) (bytes_raw _) (bytes_raw _)
  dsimp only [messageProtocolVersion] at hmobileAad
  rw [haad, Option.some.injEq] at hmobileAad
  generalize hpayload : c.gcmSeal _ random.iv aad (textEncode plaintext) = payload at hsig ⊢
  have hmobileSig := buildCanonicalSignaturePayload_eq c.toHashes (hsized payload) (bytes_raw _) (bytes_raw _) (bytes_raw _)
    (bytes_raw _) (bytes_raw _) (bytes_raw _)
  dsimp only [messageProtocolVersion] at hmobileSig
  rw [hsig, Option.some.injEq] at hmobileSig
  have hpayloadLength : payload.length = (textEncode plaintext).length + 16 := by rw [← hpayload, c.gcmSeal_length]
  refine ⟨{
    algorithmSuite := suiteOf options.topSecret
    kemCiphertext := kemCiphertext
    ephemeralPublic := c.x25519Public random.ephemeralSeed
    payloadCiphertext := payload
    iv := random.iv
    ed25519Signature := c.ed25519Sign (hexToBytes senderSignPrivHex) sigPayload
    mldsa87Signature := if options.topSecret then
      c.mldsaSign (hexToBytes options.senderMldsa87PrivHex) sigPayload random.mldsaRandom else []
    senderMldsa87Public := if options.topSecret then c.mldsaPublic (hexToBytes options.senderMldsa87PrivHex) else []
    clientMessageID := id
    timestampMillis := stamp
    recipientDeviceKeyID := deviceID
    recipientDeviceBoxPublic := c.x25519Public p.x25519Private }, ?_, ?_, rfl⟩
  · cases htop : options.topSecret <;> simp [webEnvelope, suiteOf_eq_topSecret, bytesToHex]
  refine Genuine.of_parts (MessageEnvelope.valid_iff.2 ⟨options.topSecret, rfl, ?_⟩) (beq_iff_eq.1 hidentity) rfl hw.signer.symm
    (congrArg _ hmobileSig) (hexToBytes options.senderMldsa87PrivHex) random.mldsaRandom ?_ hkem rfl hx ?_
  · refine ⟨(c.encapsulate_length _ _ _ _ hkem).1, c.x25519Public_length _, ?_, ?_, random.iv_length, c.ed25519Sign_length _ _,
      c.x25519Public_length _, hidValid, ?_, ?_, hdeviceValid, ?_, ?_⟩
    · show 16 ≤ payload.length
      omega
    · show payload.length ≤ maximumMessagePlaintext + 16
      omega
    · show 0 < stamp.toInt
      omega
    · show stamp.toInt ≤ maximumTimestampMillis
      omega
    · cases options.topSecret with
      | false => rfl
      | true => exact c.mldsaSign_length _ _ _
    · cases options.topSecret with
      | false => rfl
      | true => exact c.mldsaPublic_length _
  · intro htop
    have htrue : options.topSecret = true := suiteOf_eq_topSecret.1 htop
    refine ⟨(hw.mldsa htrue).symm, if_pos htrue, ?_⟩
    rw [hmobileSig]
    exact if_pos htrue
  · rw [hmobileAad] at hpayload
    exact hpayload.symm

end Write

/-! ## From client to client -/

theorem textDecode_utf8 (lossy : Bytes → List Char) (text : String) : textDecode lossy (utf8 text) =
    String.ofList (if text.toList.head? = some byteOrderMark then text.toList.tail else text.toList) := by
  grind [utf8, Utf8.runes_encode, textDecode]

theorem textDecode_utf8_eq_self (lossy : Bytes → List Char) (text : String) :
    textDecode lossy (utf8 text) = text ↔ text.toList.head? ≠ some byteOrderMark := by
  rw [textDecode_utf8, ← String.toList_inj, String.toList_ofList]
  split
  · rename_i hmark
    refine iff_of_false (fun htail => ?_) (not_not.2 hmark)
    cases hlist : text.toList with
    | nil =>
      rw [hlist] at hmark
      cases hmark
    | cons a rest =>
      grind [List.cons_ne_self]
  · rename_i hmark
    exact iff_of_true rfl hmark

namespace Sample

def zeros (n : Nat) : Bytes := List.replicate n 0

def primitives : Primitives where
  sha256 _ := zeros 32
  shake256 _ := zeros 32
  sha256_length _ := rfl
  shake256_length _ := rfl
  mlkemPublic _ := zeros 1568
  encapsulate _ _ := some (zeros 1568, zeros 32)
  decapsulate _ _ := some (zeros 32)
  x25519Public _ := zeros 32
  x25519 _ _ := some (zeros 32)
  hkdf _ _ _ := []
  gcmSeal _ _ _ plaintext := plaintext ++ zeros 16
  gcmOpen _ _ _ ciphertext := some (ciphertext.take (ciphertext.length - 16))
  ed25519Public _ := zeros 32
  ed25519Sign _ _ := zeros 64
  ed25519Verify _ _ _ := true
  mldsaPublic _ := zeros 2592
  mldsaSign _ _ _ := zeros 4627
  mldsaVerify _ _ _ := true
  encapsulate_length := by
    intro _ _ _ _ h
    cases h
    exact ⟨List.length_replicate, List.length_replicate⟩
  decapsulate_encapsulate := by
    intro _ _ _ _ h
    cases h
    rfl
  x25519Public_length _ := List.length_replicate
  x25519_length := by
    intro _ _ _ h
    cases h
    exact List.length_replicate
  x25519_comm _ _ := rfl
  gcmSeal_length _ _ _ _ := by rw [List.length_append, zeros, List.length_replicate]
  gcmOpen_gcmSeal _ _ _ _ := by simp [zeros]
  ed25519Public_length _ := List.length_replicate
  ed25519Sign_length _ _ := List.length_replicate
  ed25519_correct _ _ := rfl
  mldsaPublic_length _ := List.length_replicate
  mldsaSign_length _ _ _ := List.length_replicate
  mldsa_correct _ _ _ := rfl

def keys : KeyBundle primitives where
  ed25519Public := zeros 32
  ed25519Seed := zeros 32
  x25519Public := zeros 32
  x25519Private := zeros 32
  mlkem1024Public := zeros 1568
  mlkem1024Private := []
  mldsa87Public := zeros 2592
  mldsa87Private := zeros 4896
  ed25519_pair := rfl
  x25519_pair := rfl
  mlkem_pair := rfl
  mldsa_pair := rfl
  seed_length := List.length_replicate
  mldsa87Private_length := List.length_replicate

def parties : Parties := ⟨zeros 32, zeros 2592, zeros 32, zeros 32, []⟩

def recipient : MessageRecipient where
  identityPublic := zeros 32
  x25519Public := zeros 32
  mlkem1024Public := zeros 1568
  mldsa87Public := zeros 2592
  deviceKeyID := ""
  identity_length := List.length_replicate
  x25519_length := List.length_replicate
  mlkem_length := List.length_replicate
  mldsa_length := .inr List.length_replicate
  deviceKeyID_valid := rfl

def publicKeys : PublicKeysHex := ⟨bytesToHex (zeros 1568), bytesToHex (zeros 32), bytesToHex (zeros 32), []⟩

def privateKeys : PrivateKeysHex := ⟨[], bytesToHex (zeros 32)⟩

def options : EncryptOptions := ⟨false, [], []⟩

def runtime : Runtime := ⟨zeros 76, 0, []⟩

def random : WebRandom := ⟨[], [], zeros 12, [], [], 0, List.length_replicate⟩

def messageID : String := "018f0000-0000-7000-8000-00000000000a"

theorem messageID_valid : validCanonicalUUID messageID = true := by decide +kernel

def mobileSealed (text : String) : Except MobileError MessageEnvelope :=
  encryptMessageWithRuntime primitives keys recipient (utf8 text) messageID 1 true runtime

def webSealed (text : String) : Except WebError WebEnvelope :=
  encryptPayload primitives (js text) publicKeys (bytesToHex (zeros 32)) (js messageID) 1 options random

theorem mobileWriter : MobileWriter parties keys recipient := ⟨rfl, rfl, rfl, rfl, rfl⟩

theorem webReader :
    WebReader primitives parties true (bytesToHex (zeros 32)) publicKeys privateKeys (bytesToHex (zeros 2592)) where
  identity := hexToBytes_bytesToHex _
  box := hexToBytes_bytesToHex _
  kem := by grind [publicKeys, zeros]
  boxPrivate := hexToBytes_bytesToHex _
  kemPrivate := rfl
  signer := hexToBytes_bytesToHex _
  mldsa _ := hexToBytes_bytesToHex _

theorem webWriter : WebWriter primitives parties publicKeys (bytesToHex (zeros 32)) options where
  signer := rfl
  mldsa h := by cases h
  identity := hexToBytes_bytesToHex _
  box := hexToBytes_bytesToHex _
  kem := hexToBytes_bytesToHex _

theorem mobileReader : MobileReader parties options.topSecret keys ⟨zeros 32, []⟩ :=
  ⟨rfl, rfl, rfl, rfl, fun h => by cases h⟩

theorem exists_of_isOk {ε α : Type} {x : Except ε α} (h : x.isOk = true) : ∃ a, x = .ok a := by
  cases x with
  | error => cases h
  | ok a => exact ⟨a, rfl⟩

theorem webSealed_ok : ∃ w, webSealed "hi" = .ok w ∧ w.Canonical := by
  have hrun : (match webSealed "hi" with
      | .ok w => decide (w.clientMessageID = js messageID ∧ w.recipientDeviceKeyID = [] ∧ w.timestamp = 1)
      | .error _ => false) = true := by decide +kernel
  split at hrun
  · rename_i w hw
    obtain ⟨hid, hdevice, hts⟩ := of_decide_eq_true hrun
    exact ⟨w, hw, ⟨messageID, hid, messageID_valid⟩, ⟨"", hdevice, rfl⟩, by omega, by rw [hts]; decide⟩
  · cases hrun

end Sample

/-- The two clients bind an envelope to the same bytes. What the mobile client seals as text, the web client reads as that text
exactly if it does not begin with a byte order mark; and the mobile client opens what the web client seals. -/
theorem clients_read_each_other (c : Primitives) :
    (∀ t : MessageTranscript, t.Sized → t.timestampMillis.toInt ≤ maximumTimestampMillis →
      ∀ sender recipient device ephemeral kemHash cipherHash : KeyArg,
        sender.bytes = t.senderIdentity → recipient.bytes = t.recipientIdentity → device.bytes = t.recipientDevice →
        ephemeral.bytes = t.ephemeralPublic → kemHash.bytes = c.sha256 t.kemCiphertext →
        cipherHash.bytes = c.sha256 t.payloadCiphertext →
        buildCanonicalAAD c.toHashes ⟨js "v0.1", js t.algorithmSuite, sender, recipient, device, js t.recipientDeviceKeyID,
            ephemeral, t.kemCiphertext, js t.messageID, t.timestampMillis.toInt.toNat, t.iv⟩ =
          some (buildMessageAAD c.toHashes t) ∧
        buildCanonicalSignaturePayload ⟨js "v0.1", js t.algorithmSuite, sender, recipient, device, js t.recipientDeviceKeyID,
            ephemeral, kemHash, js t.messageID, t.timestampMillis.toInt.toNat, t.iv, cipherHash⟩ =
          some (buildMessageSignaturePayload c.toHashes t)) ∧
    (∀ (p : Parties) (i : KeyBundle c) (recipient : MessageRecipient), MobileWriter p i recipient →
      ∀ (text messageID : String) (timestampMillis : Int64) (topSecret : Bool) (runtime : Runtime) (e : MessageEnvelope),
        encryptMessageWithRuntime c i recipient (utf8 text) messageID timestampMillis topSecret runtime = .ok e →
        ∀ senderSignPubHex recipientPubKeysHex recipientPrivKeysHex expectedSenderMldsa87PubHex,
          WebReader c p topSecret senderSignPubHex recipientPubKeysHex recipientPrivKeysHex expectedSenderMldsa87PubHex →
          ∀ lossy sovereign, decryptPayload c lossy sovereign (webEnvelope e) senderSignPubHex recipientPubKeysHex
            recipientPrivKeysHex expectedSenderMldsa87PubHex = .ok text ↔ text.toList.head? ≠ some byteOrderMark) ∧
    ∀ (p : Parties) (recipientPubKeysHex : PublicKeysHex) (senderSignPrivHex : JsString) (options : EncryptOptions),
      WebWriter c p recipientPubKeysHex senderSignPrivHex options →
      ∀ (plaintext messageID : JsString) (timestamp : Nat) (random : WebRandom) (w : WebEnvelope),
        encryptPayload c plaintext recipientPubKeysHex senderSignPrivHex messageID timestamp options random = .ok w →
        w.Canonical → (textEncode plaintext).length ≤ maximumMessagePlaintext →
        ∃ e, mobileEnvelope w = some e ∧ ∀ (k : KeyBundle c) (sender : MessageSender),
          MobileReader p options.topSecret k sender → decryptMessage c k sender e = .ok (textEncode plaintext) := by
  refine ⟨?_, ?_, ?_⟩
  · intro t ht _ sender recipient device ephemeral kemHash cipherHash hs hr hd he hk hc
    exact ⟨buildCanonicalAAD_eq c.toHashes ht hs hr hd he, buildCanonicalSignaturePayload_eq c.toHashes ht hs hr hd he hk hc⟩
  · intro p i recipient hw text messageID timestampMillis topSecret runtime e hsealed s pub priv x hr lossy sovereign
    obtain ⟨hgenuine, hsuite⟩ := genuine_of_encryptMessage hw hsealed
    rw [decryptPayload_of_genuine hgenuine hsuite hr, Except.ok.injEq, textDecode_utf8_eq_self]
  · intro p pub priv options hw plaintext messageID timestamp random w hsealed hcanonical hlength
    obtain ⟨e, rfl, hgenuine, hsuite⟩ := genuine_of_encryptPayload hw hlength hcanonical hsealed
    grind [mobileEnvelope_webEnvelope, hgenuine.valid, decryptMessage_of_genuine]

theorem greeting_read_by_both :
    (∃ e, Sample.mobileSealed "hi" = .ok e ∧ ∀ lossy sovereign, decryptPayload Sample.primitives lossy sovereign (webEnvelope e)
      (bytesToHex (Sample.zeros 32)) Sample.publicKeys Sample.privateKeys (bytesToHex (Sample.zeros 2592)) = .ok "hi") ∧
    ∃ w e, Sample.webSealed "hi" = .ok w ∧ mobileEnvelope w = some e ∧
      decryptMessage Sample.primitives Sample.keys ⟨Sample.zeros 32, []⟩ e = .ok (utf8 "hi") := by
  obtain ⟨-, hmobile, hweb⟩ := clients_read_each_other Sample.primitives
  constructor
  · obtain ⟨e, he⟩ := Sample.exists_of_isOk (show (Sample.mobileSealed "hi").isOk = true by decide +kernel)
    refine ⟨e, he, fun lossy sovereign => ?_⟩
    exact (hmobile _ _ _ Sample.mobileWriter _ _ _ _ _ e he _ _ _ _ Sample.webReader lossy sovereign).2 (by decide)
  · obtain ⟨w, hw, hcanonical⟩ := Sample.webSealed_ok
    have hlength : (textEncode (js "hi")).length ≤ maximumMessagePlaintext := by
      rw [textEncode_js]
      decide
    obtain ⟨e, he,
      hread⟩ := hweb _ _ _ _ Sample.webWriter _ _ _ _ w hw hcanonical hlength <;> grind [Sample.mobileReader]

/-- A text that begins with a byte order mark is read without it. -/
theorem byte_order_mark_lost :
    ∃ e, Sample.mobileSealed (String.ofList [byteOrderMark, 'h', 'i']) = .ok e ∧ ∀ lossy sovereign,
      decryptPayload Sample.primitives lossy sovereign (webEnvelope e) (bytesToHex (Sample.zeros 32)) Sample.publicKeys
        Sample.privateKeys (bytesToHex (Sample.zeros 2592)) = .ok "hi" := by
  obtain ⟨e, he⟩ := Sample.exists_of_isOk
    (show (Sample.mobileSealed (String.ofList [byteOrderMark, 'h', 'i'])).isOk = true by decide +kernel)
  obtain ⟨hgenuine, hsuite⟩ := genuine_of_encryptMessage Sample.mobileWriter he
  refine ⟨e, he, fun lossy sovereign => ?_⟩
  rw [decryptPayload_of_genuine hgenuine hsuite Sample.webReader, textDecode_utf8]
  decide

end GaiaCom.Envelope
