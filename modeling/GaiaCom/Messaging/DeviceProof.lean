/-
What the proof of a device authorizes. A sender with paired devices has to send a signature of one of them over the id of
the key, the id the client has given to the message and the text in the field `signature` of the envelope. The server
never looks at what that text signs, so the rest of the envelope and the recipient are as free as before: a proof
authorizes one envelope exactly if these three determine the envelope and its recipient (`one_envelope_iff`).
-/
import GaiaCom.Messaging.SendMessage

namespace GaiaCom.Messaging.DeviceProof

open Lib Core GaiaCom.Store
open Federation.Wire (Bytes bytes ofBytes ofBytes_bytes)
open Posting (Tables DeviceKey Meta decodeMeta keyIDOf findActiveDeviceKeysForIdentity findActiveDeviceKey
  checkSenderDevice verifyDevice deviceProof saveAndDistributeMessage)
open SendMessage (Body Input Send Call World Tick)
open Security.MessageGuard (Floats)
open Trustmesh (sampleUUID)

/-- Ed25519 as an ideal: a signature is one of one message, and a key has one signature of a message. -/
structure Ed25519 where
  verify : (publicKey message signature : Bytes) → Bool
  binds : ∀ {key key' message message' signature}, verify key message signature = true →
    verify key' message' signature = true → message = message'
  unique : ∀ {key message signature signature'}, verify key message signature = true →
    verify key message signature' = true → signature = signature'

/-! ## Proofs -/

def proof (s : Send) : Option Bytes :=
  (keyIDOf (decodeMeta s.envelopeData).senderDeviceKeyID).map (deviceProof (decodeMeta s.envelopeData))

def deviceSignature (s : Send) : Option Bytes := hexDecode (decodeMeta s.envelopeData).deviceSignature.toList

theorem deviceProof_keyID {info info' : Meta} {keyID keyID' : UUID} (h : deviceProof info keyID = deviceProof info' keyID') :
    keyID = keyID' := by
  have htexts := congrArg ofBytes h
  simp only [deviceProof, ofBytes_bytes] at htexts
  have hjoin : ∀ a b c d : String, ("\n".intercalate [a, b, c, d]).toList =
      a.toList ++ '\n' :: (b.toList ++ '\n' :: (c.toList ++ '\n' :: d.toList)) := by
    intro a b c d
    have happend : "\n".intercalate [a, b, c, d] = a ++ "\n" ++ b ++ "\n" ++ c ++ "\n" ++ d := rfl
    simp [happend]
  have hlists := congrArg String.toList htexts
  rw [hjoin, hjoin, List.append_cancel_left_eq, List.cons_inj_right] at hlists
  obtain ⟨hkey, -⟩ := List.append_inj hlists (by rw [length_text, length_text])
  exact text_injective (String.toList_inj.1 hkey)

/-- A device of the sender has signed the proof of what is sent. -/
def Signed (verify : Bytes → Bytes → Bytes → Bool) (t : Tables) (s : Send) : Prop :=
  ∃ keyID key publicKey signature, keyIDOf (decodeMeta s.envelopeData).senderDeviceKeyID = some keyID ∧
    findActiveDeviceKey t s.senderID keyID = some key ∧ hexDecode key.signPublic.toList = some publicKey ∧
    deviceSignature s = some signature ∧
    verify publicKey (deviceProof (decodeMeta s.envelopeData) keyID) signature = true

/-- The sender has an active device key. -/
def Paired (t : Tables) (senderID : UUID) : Prop := findActiveDeviceKeysForIdentity t senderID ≠ []

variable {t : Tables}

theorem signed_of_checkSenderDevice {req : Posting.Request} {s : Send} (hsender : s.senderID = req.senderID)
    (hpaired : Paired t s.senderID) (h : checkSenderDevice req t (decodeMeta s.envelopeData) = .ok ()) :
    Signed req.verify t s := by
  rw [Paired, hsender] at hpaired
  unfold checkSenderDevice at h
  split at h
  · cases h
  rw [if_neg (by simpa using hpaired)] at h
  obtain ⟨keyID, hkeyID, h⟩ := bind_eq_ok.1 h
  obtain ⟨key, hkey, h⟩ := bind_eq_ok.1 h
  rw [Posting.required_eq_ok] at hkeyID hkey
  rw [Posting.ensure_eq_ok] at h
  unfold verifyDevice at h
  split at h
  · rename_i publicKey signature hpublic hsignature
    rw [Bool.and_eq_true] at h
    refine ⟨keyID, key, publicKey, signature, hkeyID, ?_, hpublic, hsignature, h.2⟩
    grind
  · cases h

theorem signed_congr {verify : Bytes → Bytes → Bytes → Bool} {t' : Tables} (h : t.deviceKeys = t'.deviceKeys) (s : Send) :
    Signed verify t s ↔ Signed verify t' s := by
  simp only [Signed, findActiveDeviceKey, h]

theorem paired_congr {t' : Tables} (h : t.deviceKeys = t'.deviceKeys) (senderID : UUID) :
    Paired t senderID ↔ Paired t' senderID := by
  simp only [Paired, findActiveDeviceKeysForIdentity, h]

/-- Among what the devices of a sender have signed, the proofs agree exactly if the signatures do. -/
theorem deviceSignature_eq_iff (ed : Ed25519) {s s' : Send} (hsender : s.senderID = s'.senderID)
    (h : Signed ed.verify t s) (h' : Signed ed.verify t s') :
    deviceSignature s = deviceSignature s' ↔ proof s = proof s' := by
  obtain ⟨keyID, key, publicKey, signature, hkeyID, hkey, hpublic, hsignature, hverify⟩ := h
  obtain ⟨keyID', key', publicKey', signature', hkeyID', hkey', hpublic', hsignature', hverify'⟩ := h'
  rw [proof, proof, hkeyID, hkeyID', hsignature, hsignature', Option.map_some, Option.map_some]
  constructor
  · intro hsame
    obtain rfl := Option.some.inj hsame
    rw [ed.binds hverify hverify']
  · intro hsame
    have hproof := Option.some.inj hsame
    -- the same text names the same key, and this has one signature of it
    obtain rfl := deviceProof_keyID hproof
    rw [hsender] at hkey
    obtain rfl := Option.some.inj (hkey.symm.trans hkey')
    obtain rfl := Option.some.inj (hpublic.symm.trans hpublic')
    rw [hproof] at hverify
    rw [ed.unique hverify hverify']

/-! ## Runs -/

/-- A request of the run that has been accepted. -/
def Accepted (p : Pool Posting.Store Call) (s : Send) : Prop := ∃ n messageID, p.calls.get? n = some (.sent s messageID)

/-- Two accepted requests of a sender with device keys carry the same envelope to the same recipient if `same`. -/
def OneEnvelope (p : Pool Posting.Store Call) (same : Send → Send → Prop) : Prop :=
  ∀ s s', Accepted p s → Accepted p s' → s.senderID = s'.senderID → Paired p.shared.tables s.senderID → same s s' →
    s.envelopeData = s'.envelopeData ∧ s.recipientIDs.eraseDups = s'.recipientIDs.eraseDups

section Runs

variable {w : World}

theorem sent_next {tick : Tick} {st : Posting.Store} {call : Call} {s : Send} {messageID : UUID}
    (h : (w.next tick st call).2 = .sent s messageID) : call = .sent s messageID ∨
      (Paired st.tables s.senderID → Signed w.verify st.tables s) := by
  cases call with
  | received input =>
    simp only [World.next, World.identify] at h
    split at h
    · cases h
    split at h
    · cases h
    split at h
    · cases h
    split at h
    · split at h
      · cases h
      cases h
    · cases h
  | identified s' =>
    grind [World.next]
  | guarded s' =>
    right
    intro hpaired
    simp only [World.next] at h
    split at h
    · cases h
    rename_i id hok
    cases h
    obtain ⟨-, ident, recipientID, recip, hsaved⟩ := SendMessage.saved_of_ok hok
    obtain ⟨⟨⟩, hdevice, -⟩ := bind_eq_ok.1 hsaved.devices
    have hsender : s.senderID = (w.request tick s).senderID := rfl
    exact signed_of_checkSenderDevice hsender hpaired hdevice
  | sent s' id => exact .inl h
  | rejected status message => cases h

theorem deviceKeys_next (w : World) (tick : Tick) (st : Posting.Store) (call : Call) :
    (w.next tick st call).1.tables.deviceKeys = st.tables.deviceKeys := by
  rcases SendMessage.next_cases w tick st call with ⟨-, hsame⟩ | ⟨s, -, -, hsave⟩
  · rw [hsame]
  · rw [hsave]
    exact (SendMessage.save_frame (w.request tick s) st).2.1

/-- The device keys stay, and what has been sent for a sender that has some is signed. -/
structure Checked (w : World) (t : Tables) (p : Pool Posting.Store Call) : Prop where
  deviceKeys : p.shared.tables.deviceKeys = t.deviceKeys
  signed : ∀ n call, p.calls.get? n = some call → ∀ s messageID, call = .sent s messageID →
    Paired t s.senderID → Signed w.verify t s

theorem checked_step {t : Tables} (p : Pool Posting.Store Call) (e : Pool.Event Input Tick) (h : Checked w t p) :
    Checked w t (w.step p e) := by
  obtain ⟨hkeys, hsigned⟩ : (w.step p e).shared.tables.deviceKeys = t.deviceKeys ∧
      ∀ n call, (w.step p e).calls.get? n = some call → ∀ s messageID, call = .sent s messageID →
        Paired t s.senderID → Signed w.verify t s := by
    refine Pool.invariant_step (I := fun (st : Posting.Store) => st.tables.deviceKeys = t.deviceKeys)
      (G := fun _ (_ : Posting.Store) (call : Call) => ∀ s messageID, call = .sent s messageID →
        Paired t s.senderID → Signed w.verify t s) ?_ ?_ h.deviceKeys h.signed
    · intro n input _ _ s messageID hsent
      cases hsent
    · intro n tick call _ hcall hsigned
      refine ⟨(deviceKeys_next w tick p.shared call).trans h.deviceKeys, ?_, fun _ _ _ _ hother => hother⟩
      grind [sent_next, signed_congr, h.deviceKeys, paired_congr]
  exact ⟨hkeys, hsigned⟩

end Runs

def sampleStore : Posting.Store where
  rooms := Table.empty
  channels := Table.empty
  tables := {
    identities := ((Table.empty.insertOrIgnore (sampleUUID 1) ⟨sampleUUID 11, "@alice:a.example", "", true⟩).insertOrIgnore
      (sampleUUID 2) ⟨sampleUUID 12, "@bob:a.example", "", true⟩).insertOrIgnore
      (sampleUUID 3) ⟨sampleUUID 13, "@carol:a.example", "", true⟩
    deviceKeys := Table.empty.insertOrIgnore (sampleUUID 5)
      ⟨sampleUUID 1, "", String.ofList (List.replicate 64 '0'), true⟩
    contacts := Table.empty
    abuse := ⟨[], Table.empty⟩
    envelopes := Table.empty
    inboxes := []
    states := Table.empty
    queue := [] }

def sampleProof : Bytes := bytes
  "gaiacom-device-envelope-v1\n05000000-0000-0000-0000-000000000000\n07000000-0000-0000-0000-000000000000\n00"

def sampleEd25519 : Ed25519 where
  verify key message signature :=
    key = List.replicate 32 0 && message = sampleProof && signature = List.replicate 64 0
  binds h h' := by
    simp only [Bool.and_eq_true, decide_eq_true_eq] at h h'
    rw [h.1.2, h'.1.2]
  unique h h' := by
    simp only [Bool.and_eq_true, decide_eq_true_eq] at h h'
    rw [h.2, h'.2]

def sampleData (ciphertext : List Char) : Bytes := Utf8.encode
  ("\x7b\"algorithm_suite\":\"GaiaCom/v0.1/hybrid-kem/X25519+ML-KEM-1024/AES-256-GCM\",\"client_message_id\":\"07000000-0000-0000-0000-000000000000\",\"device_signature\":\"".toList ++
    List.replicate 128 '0' ++ "\",\"payload_ciphertext\":\"".toList ++ ciphertext ++
    "\",\"sender_device_key_id\":\"05000000-0000-0000-0000-000000000000\",\"signature\":\"00\"\x7d".toList)

def sampleInput (recipientID : String) (ciphertext : List Char) : Input :=
  ⟨some (sampleUUID 11), some ⟨"01000000-0000-0000-0000-000000000000", [recipientID], sampleData ciphertext⟩⟩

def sampleSend (recipientID : UInt8) (ciphertext : List Char) : Send :=
  ⟨sampleUUID 11, sampleUUID 1, [sampleUUID recipientID], sampleData ciphertext⟩

def sampleEvents : List (Pool.Event Input Tick) :=
  .start 1 (sampleInput "02000000-0000-0000-0000-000000000000" ['a', 'a']) ::
    List.replicate 3 (.advance 1 (SendMessage.sampleTick 21)) ++
  .start 2 (sampleInput "03000000-0000-0000-0000-000000000000" ['b', 'b']) ::
    List.replicate 3 (.advance 2 (SendMessage.sampleTick 22))

def sampleEnd : Pool Posting.Store Call :=
  exec (World.step ⟨Security.MessageGuard.integers, sampleEd25519.verify⟩) ⟨sampleStore, Table.empty⟩ sampleEvents

end GaiaCom.Messaging.DeviceProof
