/-
A direct message from end to end: `handleSendChatMessage` of useChat.js stores a copy for the peer and one for the
sender, and `EditDirectMessageForUser` and `DeleteInboxMessageForUser` are called for the sender's copy.

The server finds the peer's copy by the client's message id. The client draws an id with every encryption, so the two
copies have different ids. An edit or a deletion takes the peer's copy away exactly if the ids happen to be the same
(`peer_copy_shown_iff`).
-/
import GaiaCom.Messaging.Deletion
import GaiaCom.Messaging.Editing
import GaiaCom.Messaging.Fanout

namespace GaiaCom.Messaging.Correlation

open Lib Core GaiaCom.Store
open Federation.Wire (bytes)
open Posting (Tables saveAndDistributeMessage)
open Editing (EditRequest Tick threadOf editDirectMessageForUser)
open Fanout (PublicKeys Crypto Sealed Sender DeviceVault Addition encryptForRecipientDevices requestFor
  deliverDeviceEnvelopes saveAndDistributeMessage_data)

/-! ## Sending -/

/-- One copy of a message: the keys it is encrypted to, the id and the time of its encryption, and the server's side of
the call that posts it. -/
structure Copy where
  keys : PublicKeys
  messageID : UUID
  sentAt : Nat
  parts : Sealed
  base : Posting.Request

/-- The client encrypts the copy, adds to it and posts it, and the server stores it. -/
def Sends (c : Crypto) (sender : Sender) (vault : Option DeviceVault) (senderID recipientID : UUID) (copy : Copy)
    (a : Addition) (id : UUID) (row : Posting.Envelope) : Prop :=
  ∃ envelopes req st,
    encryptForRecipientDevices c copy.keys sender vault copy.messageID copy.sentAt copy.parts = .ok envelopes ∧
      req ∈ deliverDeviceEnvelopes copy.base senderID recipientID (envelopes.map fun e => e.with a) ∧
      (saveAndDistributeMessage req st).2 = .ok id ∧
      (saveAndDistributeMessage req st).1.tables.envelopes.get? id = some row

/-- `handleSendChatMessage`: the copy for the peer, then the one for the sender that names the peer and the first
copy. -/
structure Sent (c : Crypto) (sender : Sender) (vault : Option DeviceVault) (senderID peerID : UUID)
    (recipientGaia : String) (peer own : Copy) (peerMessageID selfMessageID : UUID)
    (peerRow selfRow : Posting.Envelope) : Prop where
  toPeer : Sends c sender vault senderID peerID peer ⟨none, none, none, none⟩ peerMessageID peerRow
  toSelf : Sends c sender vault senderID senderID own ⟨some recipientGaia, none, none, some peerMessageID.text⟩
    selfMessageID selfRow

/-- The row is still there; an edit may have replaced it. -/
def Remains (t : Tables) (id : UUID) (row : Posting.Envelope) : Prop :=
  ∃ replacedBy editedAt,
    t.envelopes.get? id = some { row with replacedByMessageID := replacedBy, editedAt := editedAt }

variable {id : UUID}

theorem remains_of_get? {t : Tables} {row : Posting.Envelope} (h : t.envelopes.get? id = some row) :
    Remains t id row := ⟨row.replacedByMessageID, row.editedAt, h⟩

theorem attach_clientMessageID {c : Crypto} (e : Fanout.Envelope) (vault : Option DeviceVault) :
    (Fanout.attachDeviceEnvelopeProof c e vault).clientMessageID = e.clientMessageID := by
  cases vault <;> grind [Fanout.attachDeviceEnvelopeProof]

theorem Sends.columns {c : Crypto} {sender : Sender} {vault : Option DeviceVault} {senderID recipientID : UUID}
    {copy : Copy} {a : Addition} {row : Posting.Envelope}
    (h : Sends c sender vault senderID recipientID copy a id row) :
    row.clientMessageID = copy.messageID.text ∧ row.channelID = a.channelID.getD "" := by
  obtain ⟨envelopes, req, st, hencrypted, hreq, hok, hrow⟩ := h
  obtain ⟨e, rfl, -, -, -, hid⟩ := Fanout.encryptForRecipientDevices_ok hencrypted
  simp only [deliverDeviceEnvelopes, List.map_cons, List.map_nil, List.mem_singleton] at hreq
  have hdata : req.envelopeData = ((Fanout.attachDeviceEnvelopeProof c e vault).with a).data := by rw [hreq]; rfl
  obtain ⟨-, -, hdeliver, htables⟩ := Posting.saveAndDistributeMessage_ok hok
  obtain ⟨row', hrow', -, hchannel, hclient⟩ := Posting.deliver_ok hdeliver
  rw [htables] at hrow
  obtain rfl := Option.some.inj (hrow'.symm.trans hrow)
  rw [hdata] at hchannel hclient
  constructor
  · rw [hclient, Fanout.extractMessageProofInput_data]
    grind [attach_clientMessageID, trimSpace_text, Fanout.Envelope.with]
  · rw [hchannel, Fanout.decodeMeta_data]
    cases vault with
    | none | some vault => rfl

/-! ## The peer's inbox -/

/-- The inbox of the identity shows the message. -/
def Shown (t : Tables) (identityID id : UUID) : Prop :=
  (∃ e, t.envelopes.get? id = some e ∧ e.replacedByMessageID = "") ∧
    ∃ b ∈ t.inboxes, b.identityID = identityID ∧ b.messageID = id

def deletionStore (t : Tables) : Store where
  identities := t.identities.mapRows UUID.text text_injective fun i => ⟨i.userID.text, i.gaiaID, i.isActive⟩
  envelopes := t.envelopes.mapRows UUID.text text_injective fun e =>
    ⟨e.sender, e.recipient, e.clientMessageID, e.channelID⟩
  inboxes := ⟨t.inboxes.zipIdx.map fun r => (r.2, ⟨r.1.identityID.text, r.1.messageID.text⟩), by
    have hkeys : (t.inboxes.zipIdx.map fun r => (r.2, (⟨r.1.identityID.text, r.1.messageID.text⟩ : Inbox))).map Prod.fst =
        List.range' 0 t.inboxes.length := by
      rw [List.map_map, ← List.zipIdx_map_snd 0 t.inboxes]
      rfl
    rw [hkeys]
    exact List.nodup_range'⟩

/-- The inbox of the identity still shows the message after a deletion. -/
def ShownAfter (t : Tables) (s : Store) (identityID id : UUID) : Prop :=
  (∃ e, t.envelopes.get? id = some e ∧ e.replacedByMessageID = "") ∧ (s.envelopes.get? id.text).isSome = true ∧
    ∃ k, s.inboxes.get? k = some ⟨identityID.text, id.text⟩

theorem inboxes_deletionStore {t : Tables} {identityID : UUID} :
    (∃ k, (deletionStore t).inboxes.get? k = some ⟨identityID.text, id.text⟩) ↔
      ∃ b ∈ t.inboxes, b.identityID = identityID ∧ b.messageID = id := by
  simp only [Table.get?_eq_some, deletionStore, List.mem_map, Prod.mk.injEq, Inbox.mk.injEq, text_injective.eq_iff,
    Prod.exists]
  constructor
  · grind
  · rintro ⟨b, hb, hidentity, hid⟩
    obtain ⟨n, hn, rfl⟩ := List.getElem_of_mem hb
    exact ⟨n, _, n, List.mk_mem_zipIdx_iff_getElem?.2 (List.getElem?_eq_getElem hn), rfl, hidentity, hid⟩

/-! ## Edit and deletion -/

section Calls

variable {t : Tables} {peerID peerMessageID selfMessageID : UUID} {pe se : Posting.Envelope}

theorem shown_edit {req : EditRequest} {ticks : List Tick} {new : UUID}
    (hpe : t.envelopes.get? peerMessageID = some pe) (hse : t.envelopes.get? req.originalMessageID = some se)
    (hok : (editDirectMessageForUser req ticks t).2.stage = .finished (.ok new)) :
    Shown (editDirectMessageForUser req ticks t).1 peerID peerMessageID ↔
      Shown t peerID peerMessageID ∧ (threadOf se).has pe = false := by
  obtain ⟨hprogress, -, rows, hrows, hnew⟩ := Editing.editDirectMessageForUser_spec req ticks t
  rw [hok] at hprogress
  obtain ⟨e, he, hkept⟩ := hprogress
  obtain rfl : e = se := by
    rw [Editing.original, Option.filter_eq_some_iff, hse, Option.some.injEq] at he
    exact he.1.symm
  obtain ⟨pe', hpe', hreplaced⟩ := hkept peerMessageID pe hpe
  -- the rows that are added are of new messages
  have hinboxes : (∃ b ∈ (editDirectMessageForUser req ticks t).1.inboxes, b.identityID = peerID ∧
      b.messageID = peerMessageID) ↔ ∃ b ∈ t.inboxes, b.identityID = peerID ∧ b.messageID = peerMessageID := by
    grind
  simp only [Shown, hinboxes, hpe, hpe', Option.some.injEq, exists_eq_left', hreplaced]
  exact and_right_comm

theorem deleteInboxMessageForUser_ok {f : Faults} {userID identityID messageID : String} {s : Store} {selected : Envelope}
    (hselected : s.envelopes.get? messageID = some selected) (hid : trimSpace selected.clientMessageID ≠ "")
    (hok : (deleteInboxMessageForUser f userID identityID messageID true s).2 = .ok ()) :
    (deleteInboxMessageForUser f userID identityID messageID true s).1 =
      s.deleteEnvelopes (sameMessage (trimSpace selected.clientMessageID) selected) := by
  grind [deleteInboxMessageForUser, deleteForEveryone]

theorem shown_deleteEnvelopes (hpe : t.envelopes.get? peerMessageID = some pe) (p : String → Envelope → Bool) :
    ShownAfter t ((deletionStore t).deleteEnvelopes p) peerID peerMessageID ↔
      Shown t peerID peerMessageID ∧
        p peerMessageID.text ⟨pe.sender, pe.recipient, pe.clientMessageID, pe.channelID⟩ = false := by
  have hrow : (deletionStore t).envelopes.get? peerMessageID.text =
      some ⟨pe.sender, pe.recipient, pe.clientMessageID, pe.channelID⟩ := by
    simp [deletionStore, hpe]
  simp only [ShownAfter, Shown, Store.deleteEnvelopes, Table.get?_deleteWhere, hrow, Option.filter_some,
    Option.filter_eq_some_iff, Option.any_some, ← inboxes_deletionStore]
  cases p peerMessageID.text ⟨pe.sender, pe.recipient, pe.clientMessageID, pe.channelID⟩ with
  | true | false => simp

/-- A deletion for everyone that succeeds takes the messages between the same parties with the same id, and no other. -/
theorem shown_delete {f : Faults} {userID identityID : String} (hpe : t.envelopes.get? peerMessageID = some pe)
    (hse : t.envelopes.get? selfMessageID = some se) (hid : trimSpace se.clientMessageID ≠ "")
    (hok : (deleteInboxMessageForUser f userID identityID selfMessageID.text true (deletionStore t)).2 = .ok ()) :
    ShownAfter t (deleteInboxMessageForUser f userID identityID selfMessageID.text true (deletionStore t)).1
        peerID peerMessageID ↔
      Shown t peerID peerMessageID ∧ sameMessage (trimSpace se.clientMessageID)
        ⟨se.sender, se.recipient, se.clientMessageID, se.channelID⟩ peerMessageID.text
        ⟨pe.sender, pe.recipient, pe.clientMessageID, pe.channelID⟩ = false := by
  have hselected : (deletionStore t).envelopes.get? selfMessageID.text =
      some ⟨se.sender, se.recipient, se.clientMessageID, se.channelID⟩ := by
    simp [deletionStore, hse]
  rw [deleteInboxMessageForUser_ok hselected hid hok, shown_deleteEnvelopes hpe]

end Calls

/-- For every direct message that the client sends to a peer, and whatever happens until the sender edits it or deletes
it for everyone in their own inbox: the call that succeeds takes the original out of the peer's inbox exactly if the
client gave both copies the same message id and they name the same parties. -/
theorem peer_copy_shown_iff (c : Crypto) (sender : Sender) (vault : Option DeviceVault) (senderID peerID : UUID)
    (recipientGaia : String) (peer own : Copy) (peerMessageID selfMessageID : UUID) (peerRow selfRow : Posting.Envelope)
    (t : Tables)
    (hsent : Sent c sender vault senderID peerID recipientGaia peer own peerMessageID selfMessageID peerRow selfRow)
    (hpeer : Remains t peerMessageID peerRow) (hself : Remains t selfMessageID selfRow) :
    (∀ req ticks new, req.originalMessageID = selfMessageID →
      (editDirectMessageForUser req ticks t).2.stage = .finished (.ok new) →
      (Shown (editDirectMessageForUser req ticks t).1 peerID peerMessageID ↔
        Shown t peerID peerMessageID ∧ ¬ (peer.messageID = own.messageID ∧
          toLower peerRow.sender = toLower selfRow.sender ∧ toLower peerRow.recipient = toLower selfRow.recipient))) ∧
    ∀ f userID identityID,
      (deleteInboxMessageForUser f userID identityID selfMessageID.text true (deletionStore t)).2 = .ok () →
      (ShownAfter t (deleteInboxMessageForUser f userID identityID selfMessageID.text true (deletionStore t)).1
          peerID peerMessageID ↔
        Shown t peerID peerMessageID ∧ ¬ (peer.messageID = own.messageID ∧
          ((toLower peerRow.sender = toLower selfRow.sender ∧ toLower peerRow.recipient = toLower selfRow.recipient) ∨
            (toLower peerRow.sender = toLower selfRow.recipient ∧
              toLower peerRow.recipient = toLower selfRow.sender)))) := by
  obtain ⟨hpeerID, hpeerChannel⟩ := hsent.toPeer.columns
  obtain ⟨hselfID, hselfChannel⟩ := hsent.toSelf.columns
  obtain ⟨_, _, hpe⟩ := hpeer
  obtain ⟨_, _, hse⟩ := hself
  constructor
  · rintro req ticks new rfl hok
    rw [shown_edit hpe hse hok]
    refine and_congr_right fun _ => ?_
    rw [← Bool.not_eq_true, not_iff_not]
    simp only [Editing.Thread.has, threadOf, Editing.Thread.fold, hpeerID, hselfID, hpeerChannel, Option.getD_none,
      decide_true, Bool.true_and, decide_eq_true_eq, Editing.Thread.mk.injEq, text_injective.eq_iff]
    exact and_rotate.symm
  · intro f userID identityID hok
    rw [shown_delete hpe hse (by simp [hselfID, trimSpace_text, text_ne_empty]) hok]
    refine and_congr_right fun _ => ?_
    rw [← Bool.not_eq_true, not_iff_not]
    simp [sameMessage, hpeerID, hpeerChannel, hselfID, hselfChannel, trimSpace_text, text_injective.eq_iff]

def sampleStore (t : Tables) : Posting.Store := ⟨Table.empty, Table.empty, t⟩

def sampleTables : Tables := { Editing.sampleTables with envelopes := Table.empty, inboxes := [] }

def sampleBase (id : UInt8) : Posting.Request :=
  { Posting.sampleRequest "" with userID := .ofByte 11, senderID := .ofByte 1, envelopeID := .ofByte id }

def sampleCopy (messageID id : UInt8) : Copy where
  keys := Fanout.sampleKeys
  messageID := .ofByte messageID
  sentAt := 1784289600000
  parts := Fanout.sampleSealed
  base := sampleBase id

def samplePeer : Fanout.Envelope := (Fanout.sampleEnvelope (.ofByte 5)).with ⟨none, none, none, none⟩

def sampleSelf (messageID : UInt8) : Fanout.Envelope :=
  (Fanout.sampleEnvelope (.ofByte messageID)).with ⟨some "@b:x", none, none, some (UUID.ofByte 21).text⟩

def sampleMessage (e : Fanout.Envelope) (id : UInt8) : Posting.Message :=
  Posting.envelope (requestFor (sampleBase id) (.ofByte 1) (.ofByte 1) e) e.info "@a:x" "@b:x"

def sampleRow (e : Fanout.Envelope) (id : UInt8) : Posting.Envelope :=
  { (sampleMessage e id).row (63919886400 * second) with
    signature := trimSpace e.signature
    clientMessageID := trimSpace e.clientMessageID }

theorem sample_row (e : Fanout.Envelope) (id : UInt8) :
    (sampleMessage e id).row (63919886400 * second) = sampleRow e id := by
  have hread : Posting.extractMessageProofInput (sampleMessage e id).payload =
      (trimSpace e.signature, trimSpace e.clientMessageID) := Fanout.extractMessageProofInput_data e
  unfold sampleRow
  simp only [Posting.Message.row, hread]

def samplePeerSent : Tables := sampleTables.insertMessage (63919886400 * second) (sampleMessage samplePeer 21) [.ofByte 2]

def sampleSent (messageID : UInt8) : Tables :=
  { samplePeerSent.insertMessage (63919886400 * second) (sampleMessage (sampleSelf messageID) 22) [.ofByte 1] with
    envelopes := (Table.empty.insertOrIgnore (.ofByte 21) (sampleRow samplePeer 21)).insertOrIgnore (.ofByte 22)
      (sampleRow (sampleSelf messageID) 22) }

theorem sampleSent_eq (messageID : UInt8) :
    samplePeerSent.insertMessage (63919886400 * second) (sampleMessage (sampleSelf messageID) 22) [.ofByte 1] =
      sampleSent messageID := by
  unfold sampleSent
  rw [← sample_row, ← sample_row]
  rfl

theorem sample_peer_posted :
    saveAndDistributeMessage (requestFor (sampleBase 21) (.ofByte 1) (.ofByte 2) samplePeer) (sampleStore sampleTables) =
      (sampleStore samplePeerSent, .ok (.ofByte 21)) := by
  refine saveAndDistributeMessage_data (r := .ok ()) ?_ rfl
  have hsize : (requestFor (sampleBase 21) (.ofByte 1) (.ofByte 2) samplePeer).envelopeData.length = 531 :=
    (Fanout.sample_sizes 5 (by decide)).1
  simp only [Posting.checkSender, hsize]
  rfl

theorem sample_self_posted {messageID : UInt8} (h : messageID ∈ [5, 6]) :
    saveAndDistributeMessage (requestFor (sampleBase 22) (.ofByte 1) (.ofByte 1) (sampleSelf messageID))
        (sampleStore samplePeerSent) = (sampleStore (sampleSent messageID), .ok (.ofByte 22)) := by
  rw [← sampleSent_eq]
  refine saveAndDistributeMessage_data (r := .ok ()) ?_ rfl
  have hsize : (requestFor (sampleBase 22) (.ofByte 1) (.ofByte 1) (sampleSelf messageID)).envelopeData.length = 619 :=
    (Fanout.sample_sizes messageID h).2.1
  simp only [Posting.checkSender, hsize]
  rfl

theorem sample_sent {messageID : UInt8} (h : messageID ∈ [5, 6]) :
    Sent Fanout.sampleCrypto ⟨"", false, ""⟩ none (.ofByte 1) (.ofByte 2) "@b:x" (sampleCopy 5 21)
      (sampleCopy messageID 22) (.ofByte 21) (.ofByte 22) (sampleRow samplePeer 21) (sampleRow (sampleSelf messageID) 22) where
  toPeer := by
    refine ⟨[Fanout.sampleEnvelope (.ofByte 5)], requestFor (sampleBase 21) (.ofByte 1) (.ofByte 2) samplePeer,
      sampleStore sampleTables, Fanout.sample_encrypted _, List.mem_singleton_self _, ?_⟩
    rw [sample_peer_posted, ← sample_row]
    exact ⟨rfl, rfl⟩
  toSelf := by
    refine ⟨[Fanout.sampleEnvelope (.ofByte messageID)], requestFor (sampleBase 22) (.ofByte 1) (.ofByte 1)
      (sampleSelf messageID), sampleStore samplePeerSent, Fanout.sample_encrypted _, List.mem_singleton_self _, ?_⟩
    rw [sample_self_posted h]
    exact ⟨rfl, rfl⟩

def sampleEdit (messageID : UInt8) : EditRequest :=
  { Editing.sampleEdit with
    peerEnvelopeData := bytes ("\x7b\"client_message_id\":\"" ++ (UUID.ofByte messageID).text ++ "\"\x7d")
    selfEnvelopeData := bytes ("\x7b\"client_message_id\":\"" ++ (UUID.ofByte messageID).text ++ "\"\x7d") }

def sampleEdited (messageID : UInt8) : Tables × Editing.Call :=
  editDirectMessageForUser (sampleEdit messageID)
    ([0, 0, 0, 0, 31, 32, 0].map fun id => ⟨63919886460 * second, .ofByte id, false⟩) (sampleSent messageID)

def sampleDeleted (messageID : UInt8) : Store × Except DeletionError Unit :=
  deleteInboxMessageForUser noFaults (UUID.ofByte 11).text (UUID.ofByte 1).text (UUID.ofByte 22).text true
    (deletionStore (sampleSent messageID))

theorem sample_succeeds : ∀ messageID ∈ [5, 6],
    (sampleEdited messageID).2.stage = .finished (.ok (.ofByte 32)) ∧ (sampleDeleted messageID).2 = .ok () := by
  decide +kernel

theorem sample_shown (messageID : UInt8) : Shown (sampleSent messageID) (.ofByte 2) (.ofByte 21) :=
  ⟨⟨sampleRow samplePeer 21, rfl, rfl⟩, _, List.mem_cons_self .., rfl, rfl⟩

theorem sample_rows (messageID : UInt8) :
    (sampleSent messageID).envelopes.get? (.ofByte 21) = some (sampleRow samplePeer 21) ∧
      (sampleSent messageID).envelopes.get? (.ofByte 22) = some (sampleRow (sampleSelf messageID) 22) := ⟨rfl, rfl⟩

/-- With one id for both copies the peer's copy goes. -/
theorem peer_copy_goes :
    (sampleEdited 5).2.stage = .finished (.ok (.ofByte 32)) ∧ ¬ Shown (sampleEdited 5).1 (.ofByte 2) (.ofByte 21) ∧
      (sampleDeleted 5).2 = .ok () ∧ ¬ ShownAfter (sampleSent 5) (sampleDeleted 5).1 (.ofByte 2) (.ofByte 21) := by
  obtain ⟨hedited, hdeleted⟩ := sample_succeeds 5 (by decide)
  obtain ⟨hpe, hse⟩ := sample_rows 5
  obtain ⟨hedit, hdelete⟩ := peer_copy_shown_iff _ _ _ _ _ _ _ _ _ _ _ _ _ (sample_sent (by decide))
    (remains_of_get? hpe) (remains_of_get? hse)
  have hparties : toLower (sampleRow samplePeer 21).sender = toLower (sampleRow (sampleSelf 5) 22).sender ∧
      toLower (sampleRow samplePeer 21).recipient = toLower (sampleRow (sampleSelf 5) 22).recipient := by decide +kernel
  refine ⟨hedited, fun hshown => ?_, hdeleted, fun hshown => ?_⟩
  · exact ((hedit (sampleEdit 5) _ _ rfl hedited).1 hshown).2 ⟨rfl, hparties⟩
  · exact ((hdelete _ _ _ hdeleted).1 hshown).2 ⟨rfl, .inl hparties⟩

/-- The client sends a message, and the sender edits or deletes it; the peer's inbox still shows the original. -/
theorem peer_copy_stays :
    Sent Fanout.sampleCrypto ⟨"", false, ""⟩ none (.ofByte 1) (.ofByte 2) "@b:x" (sampleCopy 5 21) (sampleCopy 6 22)
        (.ofByte 21) (.ofByte 22) (sampleRow samplePeer 21) (sampleRow (sampleSelf 6) 22) ∧
      (sampleEdited 6).2.stage = .finished (.ok (.ofByte 32)) ∧ Shown (sampleEdited 6).1 (.ofByte 2) (.ofByte 21) ∧
      (sampleDeleted 6).2 = .ok () ∧ ShownAfter (sampleSent 6) (sampleDeleted 6).1 (.ofByte 2) (.ofByte 21) := by
  obtain ⟨hedited, hdeleted⟩ := sample_succeeds 6 (by decide)
  obtain ⟨hpe, hse⟩ := sample_rows 6
  refine ⟨sample_sent (by decide), hedited, ?_, hdeleted, ?_⟩
  · exact (shown_edit hpe hse hedited).2 ⟨sample_shown 6, by decide +kernel⟩
  · exact (shown_delete hpe hse (by decide +kernel) hdeleted).2 ⟨sample_shown 6, by decide +kernel⟩

end GaiaCom.Messaging.Correlation
