/-
What a message signature binds: when two arguments of `buildCanonicalSignaturePayload` of crypto.js give the same bytes.

The strings carry their length in two bytes, so lengths wrap at 65536, and the device id is left out together with its
length when it is empty, so a payload does not tell whether it has one. Two payloads are equal only for equal fields,
unless the strings differ in unpaired surrogates alone or the blocks have other sizes (`payloads_bind_iff`); among strings
below 65536 bytes the second happens exactly if a device id, the two values behind it and the message id of one read as
two such values and a message id of the other.
-/
import GaiaCom.Envelope.Transcript

namespace GaiaCom.Envelope

open Lib

/-- Keys and hashes of 32 bytes, an iv of 12, and a time below 2^53. -/
structure SignatureInput.Sized (i : SignatureInput) : Prop where
  sender : i.sender.bytes.length = 32
  recipient : i.recipient.bytes.length = 32
  deviceKey : i.deviceKey.bytes.length = 32
  ephemeralKey : i.ephemeralKey.bytes.length = 32
  mlkemCiphertextHash : i.mlkemCiphertextHash.bytes.length = 32
  timestamp : i.timestamp < 2 ^ 53
  iv : i.iv.length = 12
  ciphertextHash : i.ciphertextHash.bytes.length = 32

/-- An argument with its sizes. -/
structure Signed where
  input : SignatureInput
  sized : input.Sized

namespace Signed

def payload (s : Signed) : Option Bytes := buildCanonicalSignaturePayload s.input

def front (s : Signed) : Bytes :=
  encodeStringPrefixed s.input.protocolVersion ++ (encodeStringPrefixed s.input.algorithmSuite ++
    (s.input.sender.bytes ++ (s.input.recipient.bytes ++ s.input.deviceKey.bytes)))

def middle (s : Signed) : Bytes :=
  optionalPrefixed s.input.recipientDeviceKeyID ++ (s.input.ephemeralKey.bytes ++
    (s.input.mlkemCiphertextHash.bytes ++ encodeStringPrefixed s.input.messageID))

def back (s : Signed) : Bytes :=
  timestampBytes s.input.timestamp ++ (s.input.iv ++ s.input.ciphertextHash.bytes)

def layout (s : Signed) : List Nat :=
  [(encodeStringPrefixed s.input.protocolVersion).length, (encodeStringPrefixed s.input.algorithmSuite).length,
    (optionalPrefixed s.input.recipientDeviceKeyID).length, (encodeStringPrefixed s.input.messageID).length]

/-- The fields that are bytes or numbers. -/
structure SameValues (a b : Signed) : Prop where
  sender : a.input.sender.bytes = b.input.sender.bytes
  recipient : a.input.recipient.bytes = b.input.recipient.bytes
  deviceKey : a.input.deviceKey.bytes = b.input.deviceKey.bytes
  ephemeralKey : a.input.ephemeralKey.bytes = b.input.ephemeralKey.bytes
  mlkemCiphertextHash : a.input.mlkemCiphertextHash.bytes = b.input.mlkemCiphertextHash.bytes
  timestamp : a.input.timestamp = b.input.timestamp
  iv : a.input.iv = b.input.iv
  ciphertextHash : a.input.ciphertextHash.bytes = b.input.ciphertextHash.bytes

/-- The fields that are strings. -/
structure SameStrings (a b : Signed) : Prop where
  protocolVersion : a.input.protocolVersion = b.input.protocolVersion
  algorithmSuite : a.input.algorithmSuite = b.input.algorithmSuite
  recipientDeviceKeyID : a.input.recipientDeviceKeyID = b.input.recipientDeviceKeyID
  messageID : a.input.messageID = b.input.messageID

/-- The strings as `TextEncoder` writes them, which replaces unpaired surrogates. -/
structure SameTexts (a b : Signed) : Prop where
  protocolVersion : textEncode a.input.protocolVersion = textEncode b.input.protocolVersion
  algorithmSuite : textEncode a.input.algorithmSuite = textEncode b.input.algorithmSuite
  presence : a.input.recipientDeviceKeyID = [] ↔ b.input.recipientDeviceKeyID = []
  recipientDeviceKeyID : textEncode a.input.recipientDeviceKeyID = textEncode b.input.recipientDeviceKeyID
  messageID : textEncode a.input.messageID = textEncode b.input.messageID

/-- Equal fields. -/
def Same (a b : Signed) : Prop := a.SameValues b ∧ a.SameStrings b

/-- The device id, the two values behind it and the message id of the first read as the values and the message id of
the second, which has no device id. -/
structure Shifted (a b : Signed) : Prop where
  present : a.input.recipientDeviceKeyID ≠ []
  absent : b.input.recipientDeviceKeyID = []
  front : a.front = b.front
  middle : encodeStringPrefixed a.input.recipientDeviceKeyID ++ (a.input.ephemeralKey.bytes ++
      (a.input.mlkemCiphertextHash.bytes ++ encodeStringPrefixed a.input.messageID)) =
    b.input.ephemeralKey.bytes ++ (b.input.mlkemCiphertextHash.bytes ++ encodeStringPrefixed b.input.messageID)
  back : a.back = b.back

/-- Every string takes less than 65536 bytes. -/
structure Short (s : Signed) : Prop where
  protocolVersion : (textEncode s.input.protocolVersion).length < 65536
  algorithmSuite : (textEncode s.input.algorithmSuite).length < 65536
  recipientDeviceKeyID : (textEncode s.input.recipientDeviceKeyID).length < 65536
  messageID : (textEncode s.input.messageID).length < 65536

/-- No string has an unpaired surrogate. -/
structure Paired (s : Signed) : Prop where
  protocolVersion : Utf16.encode (Utf16.decode s.input.protocolVersion) = s.input.protocolVersion
  algorithmSuite : Utf16.encode (Utf16.decode s.input.algorithmSuite) = s.input.algorithmSuite
  recipientDeviceKeyID : Utf16.encode (Utf16.decode s.input.recipientDeviceKeyID) = s.input.recipientDeviceKeyID
  messageID : Utf16.encode (Utf16.decode s.input.messageID) = s.input.messageID

/-! ## Blocks -/

theorem payload_eq (s : Signed) : s.payload = some (s.front ++ (s.middle ++ s.back)) := by
  unfold payload buildCanonicalSignaturePayload
  dsimp only
  rw [setAll_around]
  · simp [front, middle, back]
  · simp [s.sized.sender, s.sized.recipient, s.sized.deviceKey]
  · simp [s.sized.ephemeralKey, s.sized.mlkemCiphertextHash, length_timestampBytes, s.sized.iv, s.sized.ciphertextHash]
  · simp only [List.map_cons, List.map_nil, List.sum_cons, List.sum_nil]
    omega

theorem timestampBytes_inj {m n : Nat} (hm : m < 2 ^ 53) (hn : n < 2 ^ 53) (h : timestampBytes m = timestampBytes n) :
    m = n := by
  obtain ⟨hhigh, hlow⟩ := List.append_inj h (by simp)
  have hhi := bigEndian_inj (show _ < 256 ^ 4 by omega) (by omega) hhigh
  have hlo := bigEndian_inj (show _ < 256 ^ 4 by omega) (by omega) hlow
  omega

variable {s t : JsString}

theorem encodeStringPrefixed_inj (h : encodeStringPrefixed s = encodeStringPrefixed t) :
    textEncode s = textEncode t := (List.append_inj h rfl).2

theorem encodeStringPrefixed_congr (h : textEncode s = textEncode t) :
    encodeStringPrefixed s = encodeStringPrefixed t := by
  rw [encodeStringPrefixed, encodeStringPrefixed, h]

theorem length_of_prefix {m n : Nat} (hm : m < 65536) (hn : n < 65536)
    (h : [UInt8.ofNat (m / 256), UInt8.ofNat m] = [UInt8.ofNat (n / 256), UInt8.ofNat n]) : m = n := by
  grind [UInt8.toNat_ofNat']

theorem cut_prefixed (hs : (textEncode s).length < 65536) (ht : (textEncode t).length < 65536)
    {x y : Bytes} (h : encodeStringPrefixed s ++ x = encodeStringPrefixed t ++ y) :
    encodeStringPrefixed s = encodeStringPrefixed t ∧ x = y := by
  rw [encodeStringPrefixed, encodeStringPrefixed, List.append_assoc, List.append_assoc] at h
  obtain ⟨hlead, hrest⟩ := List.append_inj h rfl
  have hlen := length_of_prefix hs ht hlead
  refine List.append_inj (by simpa [encodeStringPrefixed] using h) ?_
  simp [encodeStringPrefixed, hlen]

theorem optionalPrefixed_eq_nil : optionalPrefixed s = [] ↔ s = [] := by
  unfold optionalPrefixed
  split_ifs with h
  · simp [h]
  · simp [h, encodeStringPrefixed]

/-! ## Payloads of one layout -/

section

variable {a b : Signed}

variable {s t : JsString}

theorem optionalPrefixed_inj (h : optionalPrefixed s = optionalPrefixed t) :
    (s = [] ↔ t = []) ∧ textEncode s = textEncode t := by
  have hpresence : s = [] ↔ t = [] := by
    rw [← optionalPrefixed_eq_nil (s := s), h, optionalPrefixed_eq_nil]
  refine ⟨hpresence, ?_⟩
  by_cases hs : s = []
  · rw [hs, hpresence.1 hs]
  · have ht : t ≠ [] := fun ht => hs (hpresence.2 ht)
    rw [optionalPrefixed, optionalPrefixed, if_neg hs, if_neg ht] at h
    exact encodeStringPrefixed_inj h

theorem same_of_layout (hlayout : a.layout = b.layout) (h : a.front ++ (a.middle ++ a.back) = b.front ++ (b.middle ++ b.back)) :
    a.SameValues b ∧ a.SameTexts b := by
  obtain ⟨hver, hsuite, hdev, hmsg⟩ : _ ∧ _ ∧ _ ∧ _ := by simpa [layout] using hlayout
  have ha := a.sized
  have hb := b.sized
  have hfront : a.front.length = b.front.length := by
    simp only [front, List.length_append, hver, hsuite, ha.sender, hb.sender, ha.recipient, hb.recipient, ha.deviceKey,
      hb.deviceKey]
  have hmiddle : a.middle.length = b.middle.length := by
    simp only [middle, List.length_append, hdev, hmsg, ha.ephemeralKey, hb.ephemeralKey, ha.mlkemCiphertextHash,
      hb.mlkemCiphertextHash]
  obtain ⟨hf, h⟩ := List.append_inj h hfront
  obtain ⟨hm, hbk⟩ := List.append_inj h hmiddle
  obtain ⟨hf1, hf⟩ := List.append_inj hf hver
  obtain ⟨hf2, hf⟩ := List.append_inj hf hsuite
  obtain ⟨hf3, hf⟩ := List.append_inj hf (ha.sender.trans hb.sender.symm)
  obtain ⟨hf4, hf5⟩ := List.append_inj hf (ha.recipient.trans hb.recipient.symm)
  obtain ⟨hm1, hm⟩ := List.append_inj hm hdev
  obtain ⟨hm2, hm⟩ := List.append_inj hm (ha.ephemeralKey.trans hb.ephemeralKey.symm)
  obtain ⟨hm3, hm4⟩ := List.append_inj hm (ha.mlkemCiphertextHash.trans hb.mlkemCiphertextHash.symm)
  obtain ⟨hb1, hbk⟩ := List.append_inj hbk (by rw [length_timestampBytes, length_timestampBytes])
  obtain ⟨hb2, hb3⟩ := List.append_inj hbk (ha.iv.trans hb.iv.symm)
  obtain ⟨hpresence, hid⟩ := optionalPrefixed_inj hm1
  exact ⟨⟨hf3, hf4, hf5, hm2, hm3, timestampBytes_inj ha.timestamp hb.timestamp hb1, hb2, hb3⟩,
    ⟨encodeStringPrefixed_inj hf1, encodeStringPrefixed_inj hf2, hpresence, hid, encodeStringPrefixed_inj hm4⟩⟩

theorem optionalPrefixed_congr (hpresence : s = [] ↔ t = []) (h : textEncode s = textEncode t) :
    optionalPrefixed s = optionalPrefixed t := by
  unfold optionalPrefixed
  by_cases hs : s = []
  · rw [if_pos hs, if_pos (hpresence.1 hs)]
  · rw [if_neg hs, if_neg fun ht => hs (hpresence.2 ht), encodeStringPrefixed_congr h]

theorem layout_of_texts (h : a.SameTexts b) : a.layout = b.layout := by
  grind [layout, encodeStringPrefixed_congr, h.protocolVersion, h.algorithmSuite, optionalPrefixed_congr, h.presence,
    h.recipientDeviceKeyID, h.messageID]

theorem payload_congr (hvalues : a.SameValues b) (htexts : a.SameTexts b) : a.payload = b.payload := by
  rw [payload_eq, payload_eq, front, front, middle, middle, back, back, encodeStringPrefixed_congr htexts.protocolVersion,
    encodeStringPrefixed_congr htexts.algorithmSuite, hvalues.sender, hvalues.recipient, hvalues.deviceKey,
    optionalPrefixed_congr htexts.presence htexts.recipientDeviceKeyID, hvalues.ephemeralKey,
    hvalues.mlkemCiphertextHash, encodeStringPrefixed_congr htexts.messageID, hvalues.timestamp, hvalues.iv,
    hvalues.ciphertextHash]

theorem SameStrings.texts (h : a.SameStrings b) : a.SameTexts b := by
  grind [h.protocolVersion, h.algorithmSuite, h.recipientDeviceKeyID, h.messageID, SameTexts]

/-! ## Short strings -/

theorem length_back (s : Signed) : s.back.length = 52 := by
  grind [back, length_timestampBytes, s.sized.iv, s.sized.ciphertextHash]

theorem front_of_short (ha : a.Short) (hb : b.Short) {x y : Bytes} (h : a.front ++ x = b.front ++ y) :
    a.front = b.front ∧ x = y ∧
      encodeStringPrefixed a.input.protocolVersion = encodeStringPrefixed b.input.protocolVersion ∧
      encodeStringPrefixed a.input.algorithmSuite = encodeStringPrefixed b.input.algorithmSuite := by
  have hcut := h
  simp only [front, List.append_assoc] at hcut
  obtain ⟨hver, hcut⟩ := cut_prefixed ha.protocolVersion hb.protocolVersion hcut
  obtain ⟨hsuite, -⟩ := cut_prefixed ha.algorithmSuite hb.algorithmSuite hcut
  have hlen : a.front.length = b.front.length := by
    grind [List.length_append, a.sized.sender, b.sized.sender, a.sized.recipient, b.sized.recipient,
      a.sized.deviceKey, b.sized.deviceKey]
  obtain ⟨hfront, hrest⟩ := List.append_inj h hlen
  exact ⟨hfront, hrest, hver, hsuite⟩

theorem messageID_of_values {x y : Bytes} (hx : x.length = 32) (hy : y.length = 32) {x' y' : Bytes} (hx' : x'.length = 32)
    (hy' : y'.length = 32) {m m' : Bytes} (h : x ++ (y ++ m) = x' ++ (y' ++ m')) : m = m' := by
  have h1 := (List.append_inj h (hx.trans hx'.symm)).2
  exact (List.append_inj h1 (hy.trans hy'.symm)).2

/-- Payloads of short strings are equal only in one layout, or if one has a device id and is the other one shifted. -/
theorem layout_or_shifted (ha : a.Short) (hb : b.Short)
    (h : a.front ++ (a.middle ++ a.back) = b.front ++ (b.middle ++ b.back)) :
    a.layout = b.layout ∨ a.Shifted b ∨ b.Shifted a := by
  obtain ⟨hfront, hrest, hver, hsuite⟩ := front_of_short ha hb h
  obtain ⟨hmiddle, hback⟩ := List.append_inj' hrest (by rw [length_back, length_back])
  have hm := hmiddle
  rw [middle, middle, optionalPrefixed, optionalPrefixed] at hm
  have hvalues := @messageID_of_values _ _ a.sized.ephemeralKey a.sized.mlkemCiphertextHash _ _ b.sized.ephemeralKey
    b.sized.mlkemCiphertextHash
  split_ifs at hm with hda hdb hdb
  · grind [layout]
  · refine .inr (.inr ⟨hdb, hda, hfront.symm, ?_, hback.symm⟩)
    rw [← hm, List.nil_append]
  · exact .inr (.inl ⟨hda, hdb, hfront, hm, hback⟩)
  grind [cut_prefixed, ha.recipientDeviceKeyID, hb.recipientDeviceKeyID, layout, optionalPrefixed]

theorem Shifted.collides (h : a.Shifted b) : a.layout ≠ b.layout ∧ a.payload = b.payload := by
  constructor
  · grind [h.absent, h.present, optionalPrefixed_eq_nil, layout]
  · have hmiddle : a.middle = b.middle := by
      rw [Signed.middle, Signed.middle, h.absent, optionalPrefixed, optionalPrefixed, if_neg h.present, if_pos rfl,
        List.nil_append]
      exact h.middle
    rw [payload_eq, payload_eq, h.front, hmiddle, h.back]

theorem textEncode_inj (hs : Utf16.encode (Utf16.decode s) = s) (ht : Utf16.encode (Utf16.decode t) = t)
    (h : textEncode s = textEncode t) : s = t := by
  rw [← hs, ← ht, Utf8.encode_inj h]

theorem SameTexts.strings (h : a.SameTexts b) (ha : a.Paired) (hb : b.Paired) : a.SameStrings b :=
  ⟨textEncode_inj ha.protocolVersion hb.protocolVersion h.protocolVersion,
    textEncode_inj ha.algorithmSuite hb.algorithmSuite h.algorithmSuite,
    textEncode_inj ha.recipientDeviceKeyID hb.recipientDeviceKeyID h.recipientDeviceKeyID,
    textEncode_inj ha.messageID hb.messageID h.messageID⟩

end

end Signed

def collidingDeviceID : JsString := List.replicate 62 97 ++ [0, 67]

def withDeviceID : Signed where
  input := ⟨js "v0.1", js "s", .raw (List.replicate 32 1), .raw (List.replicate 32 2), .raw (List.replicate 32 3),
    collidingDeviceID, .raw (List.replicate 32 98), .raw (List.replicate 32 99), js "m", 1700000000000,
    List.replicate 12 4, .raw (List.replicate 32 5)⟩
  sized := by constructor <;> decide

def withoutDeviceID : Signed where
  input := ⟨js "v0.1", js "s", .raw (List.replicate 32 1), .raw (List.replicate 32 2), .raw (List.replicate 32 3),
    [], .raw ([0, 64] ++ List.replicate 30 97), .raw (List.replicate 32 97),
    List.replicate 32 98 ++ List.replicate 32 99 ++ [0, 1, 109], 1700000000000, List.replicate 12 4,
    .raw (List.replicate 32 5)⟩
  sized := by constructor <;> decide

end GaiaCom.Envelope
