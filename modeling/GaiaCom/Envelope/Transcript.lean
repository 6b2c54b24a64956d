/-
What the two clients bind a message to: `buildCanonicalAAD` and `buildCanonicalSignaturePayload` of crypto.js, which write into
a buffer at offsets computed by hand, and `buildMessageAAD` and `buildMessageSignaturePayload` of message_transcript.go, which
append. For keys of 32 bytes and an iv of 12 they give the same bytes (`buildCanonicalAAD_eq`,
`buildCanonicalSignaturePayload_eq`).

A JavaScript number that is a whole number below 2^53 is a `Nat`: its quotient and remainder by 2^32 are exact.
-/
import GaiaCom.Lib.Buffer
import GaiaCom.Lib.Utf16
import Mathlib.Algebra.GroupWithZero.Nat

namespace GaiaCom.Envelope

open Lib

abbrev Bytes := List UInt8

/-- A JavaScript string: its code units. -/
abbrev JsString := List UInt16

def js (s : String) : JsString := Utf16.encode s.toList

def utf8 (s : String) : Bytes := Utf8.encode s.toList

/-- The two hash functions, with outputs of 32 bytes. -/
structure Hashes where
  sha256 : Bytes → Bytes
  shake256 : Bytes → Bytes
  sha256_length : ∀ m, (sha256 m).length = 32
  shake256_length : ∀ m, (shake256 m).length = 32

/-! ## The web client -/

/-- `new TextEncoder().encode(str)`. -/
def textEncode (s : JsString) : Bytes := Utf8.encode (Utf16.decode s)

@[simp, grind =] theorem textEncode_js (s : String) : textEncode (js s) = utf8 s := by
  rw [textEncode, js, Utf16.decode_encode, utf8]

def hexUnit? (u : UInt16) : Option Nat :=
  let n := u.toNat
  if 48 ≤ n ∧ n ≤ 57 then some (n - 48)
  else if 97 ≤ n ∧ n ≤ 102 then some (n - 87)
  else if 65 ≤ n ∧ n ≤ 70 then some (n - 55)
  else none

/-- The white space of `parseInt`. -/
def isJsSpace (u : UInt16) : Bool :=
  let n := u.toNat
  n ∈ [9, 10, 11, 12, 13, 32, 160, 0x1680, 0x2028, 0x2029, 0x202F, 0x205F, 0x3000, 0xFEFF] || (0x2000 ≤ n && n ≤ 0x200A)

/-- `parseInt` of two code units in base 16, stored as a byte: digits after white space or a sign, up to the first unit that
is none; without digits the byte is 0. -/
def parsePair (a b : UInt16) : UInt8 :=
  match hexUnit? a, hexUnit? b with
  | some x, some y => UInt8.ofNat (16 * x + y)
  | some x, none => UInt8.ofNat x
  | none, some y =>
    if a.toNat = 45 then UInt8.ofNat (256 - y) else if a.toNat = 43 ∨ isJsSpace a then UInt8.ofNat y else 0
  | none, none => 0

def hexPairs : JsString → Bytes
  | a :: b :: rest => parsePair a b :: hexPairs rest
  | _ => []

/-- `hexToBytes` of crypto.js. -/
def hexToBytes (hex : JsString) : Bytes :=
  let cleanHex := if hex.take 2 = [48, 120] then hex.drop 2 else hex
  if cleanHex.length % 2 ≠ 0 then [] else hexPairs cleanHex

/-- The digit of `toString(16)`. -/
def hexUnit (n : Nat) : UInt16 := UInt16.ofNat (if n < 10 then 48 + n else 87 + n)

/-- `bytesToHex` of crypto.js. -/
def bytesToHex (bytes : Bytes) : JsString := bytes.flatMap fun b => [hexUnit (b.toNat / 16), hexUnit (b.toNat % 16)]

/-- A key as it is given to a builder. -/
inductive KeyArg where
  | hex (s : JsString)
  | raw (bytes : Bytes)

def KeyArg.bytes : KeyArg → Bytes
  | .hex s => hexToBytes s
  | .raw bytes => bytes

theorem bytes_raw (b : Bytes) : (KeyArg.raw b).bytes = b := rfl

/-- `encodeStringPrefixed`. -/
def encodeStringPrefixed (s : JsString) : Bytes :=
  let bytes := textEncode s
  [UInt8.ofNat (bytes.length / 256), UInt8.ofNat bytes.length] ++ bytes

def optionalPrefixed (s : JsString) : Bytes := if s = [] then [] else encodeStringPrefixed s

/-- The two halves of a timestamp, written with `setUint32`. -/
def timestampBytes (timestamp : Nat) : Bytes := bigEndian 4 (timestamp / 0x100000000) ++ bigEndian 4 (timestamp % 0x100000000)

/-- The argument of `buildCanonicalAAD`. -/
structure AadInput where
  protocolVersion : JsString
  algorithmSuite : JsString
  senderIdentityKey : KeyArg
  recipientIdentityKey : KeyArg
  recipientDeviceKey : KeyArg
  recipientDeviceKeyID : JsString
  ephemeralX25519PublicKey : KeyArg
  mlkemCiphertext : Bytes
  messageID : JsString
  timestamp : Nat
  iv : Bytes

/-- `buildCanonicalAAD`; `none` where a block does not fit and `set` throws. -/
def buildCanonicalAAD (h : Hashes) (input : AadInput) : Option Bytes :=
  let verBytes := encodeStringPrefixed input.protocolVersion
  let suiteBytes := encodeStringPrefixed input.algorithmSuite
  let kemHash := if input.protocolVersion = js "v1.0" then h.shake256 input.mlkemCiphertext else h.sha256 input.mlkemCiphertext
  let deviceIDBytes := optionalPrefixed input.recipientDeviceKeyID
  let msgIDBytes := encodeStringPrefixed input.messageID
  let totalLength := verBytes.length + suiteBytes.length + 32 + 32 + 32 + deviceIDBytes.length + 32 + 32 + msgIDBytes.length +
    8 + 12
  setAll (List.replicate totalLength 0) 0
    ([(verBytes, verBytes.length), (suiteBytes, suiteBytes.length), (input.senderIdentityKey.bytes, 32),
        (input.recipientIdentityKey.bytes, 32), (input.recipientDeviceKey.bytes, 32)] ++
      (if deviceIDBytes.length ≠ 0 then [(deviceIDBytes, deviceIDBytes.length)] else []) ++
      [(input.ephemeralX25519PublicKey.bytes, 32), (kemHash, 32), (msgIDBytes, msgIDBytes.length),
        (timestampBytes input.timestamp, 8), (input.iv, 12)])

/-- The argument of `buildCanonicalSignaturePayload`. -/
structure SignatureInput where
  protocolVersion : JsString
  algorithmSuite : JsString
  sender : KeyArg
  recipient : KeyArg
  deviceKey : KeyArg
  recipientDeviceKeyID : JsString
  ephemeralKey : KeyArg
  mlkemCiphertextHash : KeyArg
  messageID : JsString
  timestamp : Nat
  iv : Bytes
  ciphertextHash : KeyArg

/-- `buildCanonicalSignaturePayload`. -/
def buildCanonicalSignaturePayload (input : SignatureInput) : Option Bytes :=
  let verBytes := encodeStringPrefixed input.protocolVersion
  let suiteBytes := encodeStringPrefixed input.algorithmSuite
  let deviceIDBytes := optionalPrefixed input.recipientDeviceKeyID
  let msgIDBytes := encodeStringPrefixed input.messageID
  let totalLength := verBytes.length + suiteBytes.length + 32 + 32 + 32 + deviceIDBytes.length + 32 + 32 + msgIDBytes.length +
    8 + 12 + 32
  setAll (List.replicate totalLength 0) 0
    ([(verBytes, verBytes.length), (suiteBytes, suiteBytes.length), (input.sender.bytes, 32), (input.recipient.bytes, 32),
        (input.deviceKey.bytes, 32)] ++
      (if deviceIDBytes.length ≠ 0 then [(deviceIDBytes, deviceIDBytes.length)] else []) ++
      [(input.ephemeralKey.bytes, 32), (input.mlkemCiphertextHash.bytes, 32), (msgIDBytes, msgIDBytes.length),
        (timestampBytes input.timestamp, 8), (input.iv, 12), (input.ciphertextHash.bytes, 32)])

/-! ## The mobile client -/

/-- `messageProtocolVersion`. -/
def messageProtocolVersion : String := "v0.1"

/-- `messageTranscript`. -/
structure MessageTranscript where
  algorithmSuite : String
  senderIdentity : Bytes
  recipientIdentity : Bytes
  recipientDevice : Bytes
  recipientDeviceKeyID : String
  ephemeralPublic : Bytes
  kemCiphertext : Bytes
  messageID : String
  timestampMillis : Int64
  iv : Bytes
  payloadCiphertext : Bytes

/-- `appendPrefixedString`. -/
def appendPrefixedString (destination : Bytes) (value : String) : Bytes :=
  let encoded := utf8 value
  destination ++ bigEndian 2 (encoded.length % 65536) ++ encoded

/-- `appendTimestamp`. -/
def appendTimestamp (destination : Bytes) (timestamp : Int64) : Bytes := destination ++ bigEndian 8 timestamp.toUInt64.toNat

/-- `buildMessageAAD`. -/
def buildMessageAAD (h : Hashes) (input : MessageTranscript) : Bytes :=
  let output := appendPrefixedString [] messageProtocolVersion
  let output := appendPrefixedString output input.algorithmSuite
  let output := output ++ input.senderIdentity ++ input.recipientIdentity ++ input.recipientDevice
  let output := if input.recipientDeviceKeyID ≠ "" then appendPrefixedString output input.recipientDeviceKeyID else output
  let output := output ++ input.ephemeralPublic ++ h.sha256 input.kemCiphertext
  let output := appendPrefixedString output input.messageID
  let output := appendTimestamp output input.timestampMillis
  output ++ input.iv

/-- `buildMessageSignaturePayload`: the steps of `buildMessageAAD` and the hash of the ciphertext. -/
def buildMessageSignaturePayload (h : Hashes) (input : MessageTranscript) : Bytes :=
  let output := appendPrefixedString [] messageProtocolVersion
  let output := appendPrefixedString output input.algorithmSuite
  let output := output ++ input.senderIdentity ++ input.recipientIdentity ++ input.recipientDevice
  let output := if input.recipientDeviceKeyID ≠ "" then appendPrefixedString output input.recipientDeviceKeyID else output
  let output := output ++ input.ephemeralPublic ++ h.sha256 input.kemCiphertext
  let output := appendPrefixedString output input.messageID
  let output := appendTimestamp output input.timestampMillis
  output ++ input.iv ++ h.sha256 input.payloadCiphertext

/-! ## Hex -/

theorem parsePair_hexUnit (b : UInt8) : parsePair (hexUnit (b.toNat / 16)) (hexUnit (b.toNat % 16)) = b := by
  have hall : ∀ n < 256, parsePair (hexUnit (n / 16)) (hexUnit (n % 16)) = UInt8.ofNat n := by decide +kernel
  rw [hall b.toNat b.toNat_lt, UInt8.ofNat_toNat]

theorem hexPairs_bytesToHex (bytes : Bytes) : hexPairs (bytesToHex bytes) = bytes := by
  induction bytes with
  | nil => rfl
  | cons b bytes ih =>
    rw [bytesToHex, List.flatMap_cons]
    show parsePair _ _ :: hexPairs (bytesToHex bytes) = _
    rw [parsePair_hexUnit, ih]

theorem length_bytesToHex (bytes : Bytes) : (bytesToHex bytes).length = 2 * bytes.length := by
  simp [bytesToHex, List.length_flatMap, Nat.mul_comm]

theorem hexUnit_ne_x (b : UInt8) : hexUnit (b.toNat % 16) ≠ 120 := by
  have hall : ∀ n < 16, hexUnit n ≠ 120 := by decide
  exact hall _ (Nat.mod_lt _ (by decide))

@[simp, grind =] theorem hexToBytes_bytesToHex (bytes : Bytes) : hexToBytes (bytesToHex bytes) = bytes := by
  have hclean : (bytesToHex bytes).take 2 ≠ [48, 120] := by
    cases bytes <;> grind [bytesToHex, hexUnit_ne_x]
  rw [hexToBytes, if_neg hclean, if_neg (by rw [length_bytesToHex]; omega), hexPairs_bytesToHex]

/-- The digits that `hexToBytes` reads: what follows an optional 0x. -/
def cleanHex (s : JsString) : JsString := if s.take 2 = [48, 120] then s.drop 2 else s

/-- `toLowerCase` of an ASCII unit. -/
def lowerUnit (u : UInt16) : UInt16 := if 65 ≤ u.toNat ∧ u.toNat ≤ 90 then u + 32 else u

theorem hexUnit_lower {u : UInt16} {n : Nat} (h : hexUnit? u = some n) : n < 16 ∧ hexUnit n = lowerUnit u := by
  have hall : ∀ m < 103, ∀ n ∈ hexUnit? (.ofNat m), n < 16 ∧ hexUnit n = lowerUnit (.ofNat m) := by decide +kernel
  have hlt : u.toNat < 103 := by grind [hexUnit?]
  have := hall u.toNat hlt n
  rw [UInt16.ofNat_toNat] at this
  exact this h

theorem bytesToHex_hexPairs : ∀ {s : JsString}, s.length % 2 = 0 → (∀ u ∈ s, (hexUnit? u).isSome) →
    bytesToHex (hexPairs s) = s.map lowerUnit
  | [], _, _ => rfl
  | [_], h, _ => by cases h
  | a :: b :: s, h, hall => by
    obtain ⟨x, hx⟩ := Option.isSome_iff_exists.1 (hall a (by simp))
    obtain ⟨y, hy⟩ := Option.isSome_iff_exists.1 (hall b (by simp))
    obtain ⟨hxlt, hxlower⟩ := hexUnit_lower hx
    obtain ⟨hylt, hylower⟩ := hexUnit_lower hy
    have ih := bytesToHex_hexPairs (s := s) (by grind) fun u hu => hall u (by simp [hu])
    have hbyte : (parsePair a b).toNat = 16 * x + y := by
      simp only [parsePair, hx, hy]
      exact Nat.mod_eq_of_lt (by omega)
    rw [hexPairs, bytesToHex, List.flatMap_cons, ← bytesToHex, ih, hbyte]
    rw [show (16 * x + y) / 16 = x by omega, show (16 * x + y) % 16 = y by omega, hxlower, hylower]
    rfl

/-- `hexToBytes` decodes hex and nothing else exactly on what it rejects for its odd length and on digits: of a pair
`parseInt` takes the digits before the first other unit, and a pair without any is stored as 0. -/
theorem hexToBytes_strict (s : JsString) :
    (hexToBytes s ≠ [] → ((cleanHex s).length % 2 = 0 ∧ ∀ u ∈ cleanHex s, (hexUnit? u).isSome) ∧
        bytesToHex (hexToBytes s) = (cleanHex s).map lowerUnit) ↔
      (cleanHex s).length % 2 = 1 ∨ ∀ u ∈ cleanHex s, (hexUnit? u).isSome := by
  have hread : hexToBytes s = if (cleanHex s).length % 2 ≠ 0 then [] else hexPairs (cleanHex s) := rfl
  by_cases heven : (cleanHex s).length % 2 = 0
  · rw [hread, if_neg (by omega)]
    constructor
    · intro h
      match hs : cleanHex s with
      | [] => exact .inr (by simp)
      | [u] => exact .inl rfl
      | a :: b :: rest => exact .inr (hs ▸ (h (by simp [hs, hexPairs])).1.2)
    · rintro (h | h) -
      · omega
      · exact ⟨⟨heven, h⟩, bytesToHex_hexPairs heven h⟩
  · rw [hread, if_pos heven]
    exact ⟨fun _ => .inl (by omega), fun _ h => absurd rfl h⟩

theorem lenient_hex : hexToBytes (js "zz1g") = [0, 1] ∧ bytesToHex (hexToBytes (js "zz1g")) = js "0001" ∧
    ¬∀ u ∈ cleanHex (js "zz1g"), (hexUnit? u).isSome := by decide +kernel

/-! ## The same bytes -/

theorem encodeStringPrefixed_js (destination : Bytes) (s : String) :
    destination ++ encodeStringPrefixed (js s) = appendPrefixedString destination s := by
  have hprefix : ∀ n : Nat, bigEndian 2 (n % 65536) = [UInt8.ofNat (n / 256), UInt8.ofNat n] :=
    fun n => bigEndian_mod 2 n
  rw [appendPrefixedString, encodeStringPrefixed, textEncode_js, hprefix, List.append_assoc]

theorem js_eq_nil {s : String} : js s = [] ↔ s = "" := by
  constructor
  · intro h
    have hdecode := Utf16.decode_encode s.toList
    rw [← js, h] at hdecode
    exact String.toList_eq_nil_iff.1 hdecode.symm
  · rintro rfl
    rfl

theorem optionalPrefixed_js (destination : Bytes) (s : String) :
    destination ++ optionalPrefixed (js s) = if s ≠ "" then appendPrefixedString destination s else destination := by
  unfold optionalPrefixed
  grind [js_eq_nil, encodeStringPrefixed_js]

theorem timestampBytes_eq (destination : Bytes) {timestamp : Int64} (h : 0 ≤ timestamp.toInt) :
    destination ++ timestampBytes timestamp.toInt.toNat = appendTimestamp destination timestamp := by
  have hnat : timestamp.toUInt64.toNat = timestamp.toInt.toNat := by
    have hlt := timestamp.toUInt64.toNat_lt
    have hint : timestamp.toInt = (timestamp.toUInt64.toNat : Int).bmod (2 ^ 64) := by
      rw [Int64.toInt, BitVec.toInt_eq_toNat_bmod]
      rfl
    rw [Int.bmod_def] at hint
    split at hint <;> omega
  have hlow : bigEndian 4 (timestamp.toInt.toNat % 0x100000000) = bigEndian 4 timestamp.toInt.toNat :=
    bigEndian_mod 4 timestamp.toInt.toNat
  rw [appendTimestamp, timestampBytes, hnat, hlow]
  exact congrArg (destination ++ ·) (bigEndian_add 4 4 timestamp.toInt.toNat).symm

theorem length_timestampBytes (timestamp : Nat) : (timestampBytes timestamp).length = 8 := by
  grind [timestampBytes]

/-- The keys and the iv of a transcript have their sizes, and its time is not negative. -/
structure MessageTranscript.Sized (t : MessageTranscript) : Prop where
  sender : t.senderIdentity.length = 32
  recipient : t.recipientIdentity.length = 32
  device : t.recipientDevice.length = 32
  ephemeral : t.ephemeralPublic.length = 32
  iv : t.iv.length = 12
  timestamp : 0 ≤ t.timestampMillis.toInt

theorem mem_deviceBlocks {d : Bytes} {b : Bytes × Nat} (h : b ∈ if d.length ≠ 0 then [(d, d.length)] else []) :
    b.1.length = b.2 := by
  split at h
  · rw [List.mem_singleton.1 h]
  cases h

theorem flatten_deviceBlocks (d : Bytes) :
    ((if d.length ≠ 0 then [(d, d.length)] else []).map Prod.fst).flatten = d := by
  split
  · simp
  rename_i h
  rw [List.length_eq_zero_iff.1 (not_not.1 h)]
  rfl

theorem sum_deviceBlocks (d : Bytes) : ((if d.length ≠ 0 then [(d, d.length)] else []).map Prod.snd).sum = d.length := by
  split
  · simp
  rename_i h
  rw [not_not.1 h]
  rfl

/-- Blocks around the optional one. -/
theorem setAll_around {front back : List (Bytes × Nat)} {d : Bytes} {size : Nat} (hfront : ∀ b ∈ front, b.1.length = b.2)
    (hback : ∀ b ∈ back, b.1.length = b.2)
    (hsize : size = (front.map Prod.snd).sum + d.length + (back.map Prod.snd).sum) :
    setAll (List.replicate size 0) 0 (front ++ (if d.length ≠ 0 then [(d, d.length)] else []) ++ back) =
      some ((front.map Prod.fst).flatten ++ d ++ (back.map Prod.fst).flatten) := by
  rw [setAll_replicate]
  · simp only [List.map_append, List.flatten_append, flatten_deviceBlocks]
  · intro b hb
    rcases List.mem_append.1 hb with hb | hb
    · rcases List.mem_append.1 hb with hb | hb
      · exact hfront b hb
      · exact mem_deviceBlocks hb
    · exact hback b hb
  · rw [hsize, List.map_append, List.map_append, List.sum_append, List.sum_append, sum_deviceBlocks]

theorem protocolVersion_ne : js messageProtocolVersion ≠ js "v1.0" := by decide

theorem buildCanonicalAAD_eq (h : Hashes) {t : MessageTranscript} (ht : t.Sized) {sender recipient device ephemeral : KeyArg}
    (hsender : sender.bytes = t.senderIdentity) (hrecipient : recipient.bytes = t.recipientIdentity)
    (hdevice : device.bytes = t.recipientDevice) (hephemeral : ephemeral.bytes = t.ephemeralPublic) :
    buildCanonicalAAD h ⟨js messageProtocolVersion, js t.algorithmSuite, sender, recipient, device,
      js t.recipientDeviceKeyID, ephemeral, t.kemCiphertext, js t.messageID, t.timestampMillis.toInt.toNat, t.iv⟩ =
      some (buildMessageAAD h t) := by
  unfold buildCanonicalAAD
  dsimp only
  rw [if_neg protocolVersion_ne, hsender, hrecipient, hdevice, hephemeral, setAll_around]
  · simp only [List.map_cons, List.map_nil, List.flatten_cons, List.flatten_nil, List.append_nil]
    simp only [buildMessageAAD, ← optionalPrefixed_js]
    simp only [← timestampBytes_eq _ ht.timestamp, ← encodeStringPrefixed_js, List.nil_append, List.append_assoc]
  · simp [ht.sender, ht.recipient, ht.device]
  · simp [ht.ephemeral, h.sha256_length, length_timestampBytes, ht.iv]
  · simp only [List.map_cons, List.map_nil, List.sum_cons, List.sum_nil]
    omega

theorem buildCanonicalSignaturePayload_eq (h : Hashes) {t : MessageTranscript} (ht : t.Sized)
    {sender recipient device ephemeral kemHash cipherHash : KeyArg} (hsender : sender.bytes = t.senderIdentity)
    (hrecipient : recipient.bytes = t.recipientIdentity) (hdevice : device.bytes = t.recipientDevice)
    (hephemeral : ephemeral.bytes = t.ephemeralPublic) (hkemHash : kemHash.bytes = h.sha256 t.kemCiphertext)
    (hcipherHash : cipherHash.bytes = h.sha256 t.payloadCiphertext) :
    buildCanonicalSignaturePayload ⟨js messageProtocolVersion, js t.algorithmSuite, sender, recipient, device,
      js t.recipientDeviceKeyID, ephemeral, kemHash, js t.messageID, t.timestampMillis.toInt.toNat, t.iv, cipherHash⟩ =
      some (buildMessageSignaturePayload h t) := by
  unfold buildCanonicalSignaturePayload
  dsimp only
  rw [hsender, hrecipient, hdevice, hephemeral, hkemHash, hcipherHash, setAll_around]
  · simp only [List.map_cons, List.map_nil, List.flatten_cons, List.flatten_nil, List.append_nil]
    simp only [buildMessageSignaturePayload, ← optionalPrefixed_js]
    simp only [← timestampBytes_eq _ ht.timestamp, ← encodeStringPrefixed_js, List.nil_append, List.append_assoc]
  · simp [ht.sender, ht.recipient, ht.device]
  · simp [ht.ephemeral, h.sha256_length, length_timestampBytes, ht.iv]
  · simp only [List.map_cons, List.map_nil, List.sum_cons, List.sum_nil]
    omega

end GaiaCom.Envelope
