/-
Sending as a whole: `SaveAndDistributeMessage` with the statements of `SaveMessageEnvelopeWithInbox`, any one of which
may fail.

The envelope, its proof, the sender's mailbox state, the inbox row and the receipt are written in one transaction.
The PDU for another node is queued before, in a statement of its own, and stays queued if the transaction fails. So a
call that fails leaves nothing behind exactly if it has queued no PDU (`failed_send_iff`); a call that succeeds has
written every row once, to stay (`acknowledged_kept`).
-/
import GaiaCom.Messaging.Posting

namespace GaiaCom.Messaging.Sending

open Lib Core GaiaCom.Store
open Federation.Wire (Bytes bytes QueueItem)
open Posting (Tables Meta Message Distribution PostError decodeMeta checkSender checkRoom checkDevices resolveSender
  distribute isBlocked afterLastColon federatedItem isQuarantined sentState extractMessageProofInput)
open Trustmesh (sampleUUID)

/-! ## One recipient -/

section Recipient

variable (req : Posting.Request) (t : Tables) (info : Meta) (senderGaia localServerName : String)

def queuedFor (recipientID : UUID) (recip : Posting.Identity) : List QueueItem :=
  match afterLastColon recip.gaiaID with
  | none => []
  | some domain =>
    if domain = localServerName then [] else [federatedItem req info senderGaia recipientID recip.gaiaID domain]

def foundFor (recipientID : UUID) (recip : Posting.Identity) : Distribution :=
  if isBlocked req t senderGaia recip.userID then ⟨"", [], []⟩
  else ⟨recip.gaiaID, [recipientID], queuedFor req info senderGaia localServerName recipientID recip⟩

theorem distribute_single (recipientID : UUID) :
    (∃ err, (distribute req t info senderGaia localServerName [recipientID] ⟨"", [], []⟩).2 = .error err ∧
        (distribute req t info senderGaia localServerName [recipientID] ⟨"", [], []⟩).1.queue = []) ∨
      ∃ recip, t.identities.get? recipientID = some recip ∧
        distribute req t info senderGaia localServerName [recipientID] ⟨"", [], []⟩ =
          (foundFor req t info senderGaia localServerName recipientID recip, .ok ()) := by
  simp only [distribute]
  split
  · exact .inl ⟨_, rfl, rfl⟩
  split
  · exact .inl ⟨_, rfl, rfl⟩
  rename_i recip hrecip
  have hfound : t.identities.get? recipientID = some recip := by
    split at hrecip
    · cases hrecip
    exact hrecip
  by_cases hblocked : isBlocked req t senderGaia recip.userID = true
  · refine .inr ⟨recip, hfound, ?_⟩
    rw [if_pos hblocked, foundFor, if_pos hblocked]
  · rw [if_neg hblocked]
    cases hdomain : afterLastColon recip.gaiaID with
    | none => exact .inl ⟨_, rfl, rfl⟩
    | some domain =>
      simp only
      by_cases hlocal : domain = localServerName
      · refine .inr ⟨recip, hfound, ?_⟩
        simp [foundFor, hblocked, queuedFor, hdomain, hlocal]
      · rw [if_neg hlocal]
        split
        · exact .inl ⟨_, rfl, rfl⟩
        refine .inr ⟨recip, hfound, ?_⟩
        simp [foundFor, hblocked, queuedFor, hdomain, hlocal]

variable {req t info}

theorem resolveSender_single {sender : String × String} (h : resolveSender req t info = .ok sender) :
    ∃ ident recipientID, t.identities.get? req.senderID = some ident ∧ sender.1 = ident.gaiaID ∧
      afterLastColon ident.gaiaID = some sender.2 ∧ req.recipientIDs.eraseDups = [recipientID] ∧
      checkDevices req t info [recipientID] = .ok () := by
  obtain ⟨⟨⟩, -, h⟩ := bind_eq_ok.1 h
  obtain ⟨ident, hident, h⟩ := bind_eq_ok.1 h
  obtain ⟨localServerName, hlocal, h⟩ := bind_eq_ok.1 h
  obtain ⟨⟨⟩, hdevices, h⟩ := bind_eq_ok.1 h
  obtain rfl := Except.ok.inj h
  rw [Posting.required_eq_ok] at hident hlocal
  have hfound : t.identities.get? req.senderID = some ident := by
    split at hident
    · cases hident
    exact hident
  have hsingle : ∃ recipientID, req.recipientIDs.eraseDups = [recipientID] := by
    unfold checkDevices at hdevices
    split at hdevices
    · rename_i recipientID hrecipients
      exact ⟨recipientID, hrecipients⟩
    · obtain ⟨⟨⟩, -, hdevices⟩ := bind_eq_ok.1 hdevices
      cases hdevices
  obtain ⟨recipientID, hrecipients⟩ := hsingle
  exact ⟨ident, recipientID, hfound, rfl, hlocal, hrecipients, hrecipients ▸ hdevices⟩

theorem deliver_single {id : UUID} (h : (Posting.deliver req t info).2 = .ok id) :
    ∃ ident localServerName recipientID recip, t.identities.get? req.senderID = some ident ∧
      afterLastColon ident.gaiaID = some localServerName ∧ req.recipientIDs.eraseDups = [recipientID] ∧
      t.identities.get? recipientID = some recip ∧ checkDevices req t info [recipientID] = .ok () ∧ t.envelopes.get? req.envelopeID = none ∧
      Posting.deliver req t info = (Posting.delivered req t info ident.gaiaID
        (foundFor req t info ident.gaiaID localServerName recipientID recip), .ok req.envelopeID) := by
  unfold Posting.deliver at h ⊢
  cases hresolve : resolveSender req t info with
  | error err =>
    rw [hresolve] at h
    cases h
  | ok sender =>
    obtain ⟨ident, recipientID, hident, hgaia, hlocal, hrecipients, hdevices⟩ := resolveSender_single hresolve
    obtain ⟨senderGaia, localServerName⟩ := sender
    obtain rfl : senderGaia = ident.gaiaID := hgaia
    simp only [hresolve, hrecipients] at h ⊢
    rcases distribute_single req t info ident.gaiaID localServerName recipientID with
      ⟨err, herr, -⟩ | ⟨recip, hrecip, hfound⟩
    · rw [herr] at h
      cases h
    · simp only [hfound] at h ⊢
      split at h
      · cases h
      rename_i t' hsave
      obtain ⟨-, hfree, rfl⟩ := Posting.saveMessageEnvelopeWithInbox_eq_some.1 hsave
      exact ⟨ident, localServerName, recipientID, recip, hident, hlocal, rfl, hrecip, hdevices, hfree, rfl⟩

end Recipient

/-! ## The database -/

/-- A row of message_proofs. -/
structure ProofRow where
  senderIdentityID : Option UUID
  sender : String
  recipient : String
  ciphertextHash : String
  senderSignature : String
  envelopeHash : String
  serverReceivedAt : String
  createdAt : String

/-- A row of delivery_receipts. -/
structure ReceiptRow where
  messageID : UUID
  identityID : UUID
  recipient : String
  deliveredAt : String
  receiptHash : String
  tamperEvidence : String
  createdAt : String

/-- The tables of Posting with the proofs, by their messages, and the receipts. -/
structure Database where
  store : Posting.Store
  proofs : Table UUID ProofRow
  receipts : List ReceiptRow

/-- The statements of a call; from `begin` on those of the transaction. -/
inductive Statement where
  | ownership | room | lastMessage | identities | score | sender | senderKeys | senderKey | recipientKeys | recipientKey
  | recipient | contact | queue
  | begin | envelope | proof | senderUser | state | publicRecord | quarantine | inbox | recipientGaia | receipt | commit
  deriving DecidableEq

/-- What fails for the checks and the queueing; the transaction is looked at statement by statement. -/
def faults (failing : Option Statement) : Posting.Faults where
  ownership := failing = some .ownership
  room := failing = some .room
  lastMessage := failing = some .lastMessage
  identities := failing = some .identities
  score := failing = some .score
  sender := failing = some .sender
  senderKeys := failing = some .senderKeys
  senderKey := failing = some .senderKey
  recipientKeys := failing = some .recipientKeys
  recipientKey := failing = some .recipientKey
  recipient := failing = some .recipient
  contact := failing = some .contact
  queue := failing = some .queue
  save := false

/-- The surroundings of a call: the hash, the statement that fails, and the time of the receipts. -/
structure World where
  sha256 : Bytes → Bytes
  failing : Option Statement
  deliveredAt : Nat

/-! ## The transaction -/

section Transaction

variable (w : World)

def World.runs (s : Statement) : Option Unit := if w.failing = some s then none else some ()

/-- The ciphertext hash of `extractMessageProofInput`: the one the envelope gives, or that of its ciphertext, or that
of the envelope. -/
def World.ciphertextHash (data : Bytes) : String :=
  let decoded := do
    let ms ← (← Json.parseChars (Utf8.text data)).members
    let hash ← Json.stringField "ciphertext_hash" ms
    let _ ← Json.stringField "signature" ms
    let ciphertext ← Json.stringField "payload_ciphertext" ms
    let _ ← Json.stringField "client_message_id" ms
    return (trimSpace hash, ciphertext)
  let (given, ciphertext) := decoded.getD ("", "")
  let hash := if given = "" ∧ ciphertext ≠ "" then hexEncode (w.sha256 (bytes ciphertext)) else given
  if hash = "" then hexEncode (w.sha256 data) else hash

/-- `INSERT INTO message_envelopes`; the id must be free. -/
def World.insertEnvelope (now : Nat) (m : Message) (db : Database) : Option Database := do
  w.runs .envelope
  if (db.store.tables.envelopes.get? m.id).isSome then none
  else
    let tables := { db.store.tables with envelopes := db.store.tables.envelopes.insertOrIgnore m.id (m.row now) }
    some { db with store := { db.store with tables := tables } }

/-- `INSERT INTO message_proofs`; there is one for a message. -/
def World.insertProof (now : Nat) (m : Message) (db : Database) : Option Database := do
  w.runs .proof
  if (db.proofs.get? m.id).isSome then none
  else
    some { db with proofs := db.proofs.insertOrIgnore m.id {
      senderIdentityID := if m.senderIdentityID = .nil then none else some m.senderIdentityID
      sender := m.sender
      recipient := m.recipient
      ciphertextHash := w.ciphertextHash m.payload
      senderSignature := (extractMessageProofInput m.payload).1
      envelopeHash := hexEncode (w.sha256 m.payload)
      serverReceivedAt := formatTime now
      createdAt := formatTime now } }

def World.insertState (now : Nat) (m : Message) (db : Database) : Option Database :=
  if m.senderIdentityID = .nil then some db
  else do
    w.runs .senderUser
    match db.store.tables.identities.get? m.senderIdentityID with
    | none => some db
    | some ident => do
      w.runs .state
      let states := db.store.tables.states.insertOrIgnore (ident.userID, m.senderIdentityID, m.id) (sentState now)
      some { db with store := { db.store with tables := { db.store.tables with states := states } } }

def World.isUntrusted (now : Nat) (m : Message) (t : Tables) : Bool :=
  m.type = "smtp.legacy" ||
    (w.failing ≠ some .publicRecord && w.failing ≠ some .quarantine && isQuarantined t m.sender now)

def World.receiptHash (m : Message) (recipientID : UUID) : String :=
  hexEncode (w.sha256 (bytes (m.id.text ++ ":" ++ recipientID.text ++ ":" ++ w.ciphertextHash m.payload ++ ":" ++
    formatTime w.deliveredAt)))

def World.deliverTo (untrusted : Bool) (m : Message) (db : Database) (recipientID : UUID) : Option Database := do
  w.runs .inbox
  let recipientGaia := if w.failing = some .recipientGaia then ""
    else ((db.store.tables.identities.get? recipientID).map Posting.Identity.gaiaID).getD ""
  w.runs .receipt
  if db.receipts.any fun row => row.receiptHash = w.receiptHash m recipientID then none
  else
    let tables := { db.store.tables with
      inboxes := db.store.tables.inboxes ++ [⟨recipientID, m.id, false, true, untrusted⟩] }
    some { db with
      store := { db.store with tables := tables }
      receipts := db.receipts ++ [{
        messageID := m.id
        identityID := recipientID
        recipient := recipientGaia
        deliveredAt := formatTime w.deliveredAt
        receiptHash := w.receiptHash m recipientID
        tamperEvidence := hexEncode (w.sha256
          (bytes (hexEncode (w.sha256 m.payload) ++ ":" ++ w.receiptHash m recipientID)))
        createdAt := formatTime w.deliveredAt }] }

/-- `SaveMessageEnvelopeWithInbox`: every statement succeeds, or nothing is written. -/
def World.saveMessageEnvelopeWithInbox (now : Nat) (db : Database) (m : Message) (recipientIDs : List UUID) :
    Option Database := do
  w.runs .begin
  let db ← w.insertEnvelope now m db
  let db ← w.insertProof now m db
  let db ← w.insertState now m db
  let db ← recipientIDs.foldlM (w.deliverTo (w.isUntrusted now m db.store.tables) m) db
  w.runs .commit
  return db

end Transaction

/-! ## The call -/

def World.request (w : World) (req : Posting.Request) : Posting.Request := { req with faults := faults w.failing }

def Database.enqueue (db : Database) (items : List QueueItem) : Database :=
  { db with store := { db.store with tables := { db.store.tables with queue := db.store.tables.queue ++ items } } }

/-- `SaveAndDistributeMessage`. -/
def World.saveAndDistributeMessage (w : World) (req : Posting.Request) (db : Database) :
    Database × Except PostError UUID :=
  let req := w.request req
  let info := decodeMeta req.envelopeData
  let t := db.store.tables
  match do checkSender req t; checkRoom req t info db.store.rooms; resolveSender req t info with
  | .error err => (db, .error err)
  | .ok (senderGaia, localServerName) =>
    let (found, result) := distribute req t info senderGaia localServerName req.recipientIDs.eraseDups ⟨"", [], []⟩
    let db := db.enqueue found.queue
    match result with
    | .error err => (db, .error err)
    | .ok () =>
      match w.saveMessageEnvelopeWithInbox req.savedAt db (Posting.envelope req info senderGaia found.firstRecipientGaia)
        found.activeRecipients with
      | none => (db, .error .database)
      | some db => (db, .ok req.envelopeID)

/-! ## What a call writes -/

/-- The message has been written for the recipients, each row once, and the PDUs are queued. -/
structure Sent (db db' : Database) (id : UUID) (recipients : List UUID) (items : List QueueItem) : Prop where
  envelope : db.store.tables.envelopes.get? id = none ∧
    ∃ row, db'.store.tables.envelopes = db.store.tables.envelopes.insertOrIgnore id row
  proof : db.proofs.get? id = none ∧ ∃ row, db'.proofs = db.proofs.insertOrIgnore id row
  inboxes : ∃ rows, db'.store.tables.inboxes = db.store.tables.inboxes ++ rows ∧
    rows.map (fun row => (row.identityID, row.messageID)) = recipients.map fun recipientID => (recipientID, id)
  receipts : ∃ rows, db'.receipts = db.receipts ++ rows ∧
    rows.map (fun row => (row.identityID, row.messageID)) = recipients.map fun recipientID => (recipientID, id)
  states : db'.store.tables.states = db.store.tables.states ∨
    ∃ userID senderID row, db'.store.tables.states = db.store.tables.states.insertOrIgnore (userID, senderID, id) row
  queue : db'.store.tables.queue = db.store.tables.queue ++ items

section Writes

variable {w : World} {now : Nat} {m : Message} {db db' : Database}

@[grind =]
theorem runs_eq_some {s : Statement} {u : Unit} : w.runs s = some u ↔ w.failing ≠ some s := by
  unfold World.runs
  split
  · rename_i h; simp [h]
  rename_i h; simp [h]

@[grind →]
theorem insertEnvelope_some (h : w.insertEnvelope now m db = some db') :
    w.failing ≠ some .envelope ∧ db.store.tables.envelopes.get? m.id = none ∧
      db' = { db with store := { db.store with tables := { db.store.tables with
        envelopes := db.store.tables.envelopes.insertOrIgnore m.id (m.row now) } } } := by
  obtain ⟨⟨⟩, hruns, h⟩ := Option.bind_eq_some_iff.1 h
  split at h
  · cases h
  rename_i hfree
  exact ⟨runs_eq_some.1 hruns, by simpa using hfree, (Option.some.inj h).symm⟩

@[grind →]
theorem insertProof_some (h : w.insertProof now m db = some db') :
    w.failing ≠ some .proof ∧ db.proofs.get? m.id = none ∧
      ∃ row, db' = { db with proofs := db.proofs.insertOrIgnore m.id row } := by
  obtain ⟨⟨⟩, hruns, h⟩ := Option.bind_eq_some_iff.1 h
  split at h
  · cases h
  rename_i hfree
  exact ⟨runs_eq_some.1 hruns, by simpa using hfree, _, (Option.some.inj h).symm⟩

@[grind →]
theorem insertState_some (h : w.insertState now m db = some db') :
    db' = { db with store := { db.store with tables := { db.store.tables with
      states := (db.store.tables.insertMessage now m []).states } } } := by
  unfold World.insertState at h
  unfold Tables.insertMessage
  split at h
  · rename_i hnil
    obtain rfl := Option.some.inj h
    simp only [hnil, if_true]
  rename_i hnil
  simp only [hnil, if_false]
  obtain ⟨⟨⟩, -, h⟩ := Option.bind_eq_some_iff.1 h
  split at h
  · rename_i hnone
    obtain rfl := Option.some.inj h
    simp only [hnone]
  · rename_i ident hident
    obtain ⟨⟨⟩, -, h⟩ := Option.bind_eq_some_iff.1 h
    obtain rfl := Option.some.inj h
    simp only [hident]

theorem states_insertMessage (t : Tables) (now : Nat) (m : Message) (recipientIDs : List UUID) :
    (t.insertMessage now m recipientIDs).states = t.states ∨
      ∃ userID senderID row,
        (t.insertMessage now m recipientIDs).states = t.states.insertOrIgnore (userID, senderID, m.id) row := by
  unfold Tables.insertMessage
  simp only
  split
  · exact .inl rfl
  exact .inr ⟨_, _, _, rfl⟩

theorem insertState_runs {ident : Posting.Identity} (hid : m.senderIdentityID ≠ .nil)
    (hident : db.store.tables.identities.get? m.senderIdentityID = some ident) (h : w.insertState now m db = some db') :
    w.failing ≠ some .senderUser ∧ w.failing ≠ some .state := by
  rw [World.insertState, if_neg hid, hident] at h
  obtain ⟨⟨⟩, hruns, h⟩ := Option.bind_eq_some_iff.1 h
  obtain ⟨⟨⟩, hruns', -⟩ := Option.bind_eq_some_iff.1 h
  exact ⟨runs_eq_some.1 hruns, runs_eq_some.1 hruns'⟩

variable {recipientID : UUID} {untrusted : Bool}

@[grind →]
theorem deliverTo_some (h : w.deliverTo untrusted m db recipientID = some db') :
    ∃ receipt, receipt.identityID = recipientID ∧ receipt.messageID = m.id ∧
      db' = { db with
        store := { db.store with tables := { db.store.tables with
          inboxes := db.store.tables.inboxes ++ [⟨recipientID, m.id, false, true, untrusted⟩] } }
        receipts := db.receipts ++ [receipt] } := by
  obtain ⟨⟨⟩, -, h⟩ := Option.bind_eq_some_iff.1 h
  obtain ⟨⟨⟩, -, h⟩ := Option.bind_eq_some_iff.1 h
  split at h
  · cases h
  exact ⟨_, rfl, rfl, (Option.some.inj h).symm⟩

theorem deliverTo_runs (h : w.deliverTo untrusted m db recipientID = some db') :
    w.failing ≠ some .inbox ∧ w.failing ≠ some .receipt ∧
      ∀ row ∈ db.receipts, row.receiptHash ≠ w.receiptHash m recipientID := by
  obtain ⟨⟨⟩, hruns, h⟩ := Option.bind_eq_some_iff.1 h
  obtain ⟨⟨⟩, hruns', h⟩ := Option.bind_eq_some_iff.1 h
  split at h
  · cases h
  rename_i hfree
  exact ⟨runs_eq_some.1 hruns, runs_eq_some.1 hruns', by simpa using hfree⟩

variable {recipientIDs : List UUID}

theorem foldlM_deliverTo (h : recipientIDs.foldlM (w.deliverTo untrusted m) db = some db') :
    ∃ receipts, receipts.map (fun row => (row.identityID, row.messageID)) =
        recipientIDs.map (fun recipientID => (recipientID, m.id)) ∧
      db' = { db with
        store := { db.store with tables := { db.store.tables with
          inboxes := db.store.tables.inboxes ++
            recipientIDs.map fun recipientID => ⟨recipientID, m.id, false, true, untrusted⟩ } }
        receipts := db.receipts ++ receipts } := by
  induction recipientIDs generalizing db with
  | nil =>
    obtain rfl := Option.some.inj h
    exact ⟨[], rfl, by simp⟩
  | cons recipientID rest ih =>
    rw [List.foldlM_cons] at h
    obtain ⟨next, hnext, hrest⟩ := Option.bind_eq_some_iff.1 h
    obtain ⟨receipt, hidentity, hmessage, rfl⟩ := deliverTo_some hnext
    obtain ⟨receipts, hreceipts, rfl⟩ := ih hrest
    refine ⟨receipt :: receipts, ?_, ?_⟩
    · rw [List.map_cons, List.map_cons, hreceipts, hidentity, hmessage]
    · simp only [List.map_cons, List.append_assoc, List.singleton_append]

/-- The statements of the transaction, one after the other. -/
theorem save_some (h : w.saveMessageEnvelopeWithInbox now db m recipientIDs = some db') :
    w.failing ≠ some .begin ∧ ∃ db₁, w.insertEnvelope now m db = some db₁ ∧ ∃ db₂, w.insertProof now m db₁ = some db₂ ∧
      ∃ db₃, w.insertState now m db₂ = some db₃ ∧
        recipientIDs.foldlM (w.deliverTo (w.isUntrusted now m db₃.store.tables) m) db₃ = some db' ∧
        w.failing ≠ some .commit := by
  obtain ⟨⟨⟩, hbegin, h⟩ := Option.bind_eq_some_iff.1 h
  obtain ⟨db₁, henvelope, h⟩ := Option.bind_eq_some_iff.1 h
  obtain ⟨db₂, hproof, h⟩ := Option.bind_eq_some_iff.1 h
  obtain ⟨db₃, hstate, h⟩ := Option.bind_eq_some_iff.1 h
  obtain ⟨db₄, hdeliver, h⟩ := Option.bind_eq_some_iff.1 h
  obtain ⟨⟨⟩, hcommit, h⟩ := Option.bind_eq_some_iff.1 h
  obtain rfl := Option.some.inj h
  exact ⟨runs_eq_some.1 hbegin, db₁, henvelope, db₂, hproof, db₃, hstate, hdeliver, runs_eq_some.1 hcommit⟩

theorem sent_of_save {items : List QueueItem}
    (h : w.saveMessageEnvelopeWithInbox now (db.enqueue items) m recipientIDs = some db') :
    Sent db db' m.id recipientIDs items := by
  obtain ⟨-, db₁, henvelope, db₂, hproof, db₃, hstate, hdeliver, -⟩ := save_some h
  obtain ⟨-, hfree, rfl⟩ := insertEnvelope_some henvelope
  obtain ⟨-, hproofFree, proof, rfl⟩ := insertProof_some hproof
  obtain rfl := insertState_some hstate
  obtain ⟨receipts, hreceipts, rfl⟩ := foldlM_deliverTo hdeliver
  exact {
    envelope := ⟨hfree, _, rfl⟩
    proof := ⟨hproofFree, _, rfl⟩
    inboxes := ⟨_, rfl, by rw [List.map_map]; rfl⟩
    receipts := ⟨receipts, rfl, hreceipts⟩
    states := states_insertMessage _ _ _ []
    queue := rfl }

/-- A transaction that commits writes the tables of Posting as it does, if the queries for the quarantine succeed. -/
theorem save_refines (hrecord : w.failing ≠ some .publicRecord) (hquarantine : w.failing ≠ some .quarantine)
    (h : w.saveMessageEnvelopeWithInbox now db m recipientIDs = some db') :
    Posting.saveMessageEnvelopeWithInbox false now db.store.tables m recipientIDs = some db'.store.tables ∧
      db'.store = { db.store with tables := db'.store.tables } := by
  obtain ⟨-, db₁, henvelope, db₂, hproof, db₃, hstate, hdeliver, -⟩ := save_some h
  obtain ⟨-, hfree, rfl⟩ := insertEnvelope_some henvelope
  obtain ⟨-, -, proof, rfl⟩ := insertProof_some hproof
  obtain rfl := insertState_some hstate
  obtain ⟨receipts, -, rfl⟩ := foldlM_deliverTo hdeliver
  refine ⟨Posting.saveMessageEnvelopeWithInbox_eq_some.2 ⟨rfl, hfree, ?_⟩, rfl⟩
  have huntrusted : ∀ t, w.isUntrusted now m t = (m.type = "smtp.legacy" || isQuarantined t m.sender now) := by
    intro t
    simp [World.isUntrusted, hrecord, hquarantine]
  simp only [huntrusted]
  rfl

def fatal : List Statement := [.begin, .envelope, .proof, .senderUser, .state, .inbox, .receipt, .commit]

/-- The keys of the rows for a message to a recipient are free. -/
structure Free (w : World) (db : Database) (m : Message) (recipientID : UUID) : Prop where
  envelope : db.store.tables.envelopes.get? m.id = none
  proof : db.proofs.get? m.id = none
  receipt : ∀ row ∈ db.receipts, row.receiptHash ≠ w.receiptHash m recipientID

/-- A message of a known sender to one recipient is saved exactly if its keys are free and no fatal statement fails. -/
theorem save_isSome_iff {ident : Posting.Identity} (hid : m.senderIdentityID ≠ .nil)
    (hident : db.store.tables.identities.get? m.senderIdentityID = some ident) :
    (w.saveMessageEnvelopeWithInbox now db m [recipientID]).isSome = true ↔
      Free w db m recipientID ∧ ∀ s ∈ fatal, w.failing ≠ some s := by
  constructor
  · intro h
    obtain ⟨db', h⟩ := Option.isSome_iff_exists.1 h
    obtain ⟨hbegin, db₁, henvelope, db₂, hproof, db₃, hstate, hdeliver, hcommit⟩ := save_some h
    obtain ⟨hruns₁, hfree, rfl⟩ := insertEnvelope_some henvelope
    obtain ⟨hruns₂, hfree', proof, rfl⟩ := insertProof_some hproof
    obtain ⟨hruns₃, hruns₄⟩ := insertState_runs hid (by exact hident) hstate
    obtain rfl := insertState_some hstate
    rw [List.foldlM_cons] at hdeliver
    obtain ⟨db₅, hdeliver, -⟩ := Option.bind_eq_some_iff.1 hdeliver
    obtain ⟨hruns₅, hruns₆, hreceipt⟩ := deliverTo_runs hdeliver
    refine ⟨⟨hfree, hfree', hreceipt⟩, ?_⟩
    simp only [fatal, List.mem_cons, List.not_mem_nil, or_false, forall_eq_or_imp, forall_eq]
    exact ⟨hbegin, hruns₁, hruns₂, hruns₃, hruns₄, hruns₅, hruns₆, hcommit⟩
  · rintro ⟨⟨henvelope, hproof, hreceipt⟩, hruns⟩
    have hruns' : ∀ s ∈ fatal, w.runs s = some () := fun s hs => runs_eq_some.2 (hruns s hs)
    simp only [fatal, List.mem_cons, List.not_mem_nil, or_false, forall_eq_or_imp, forall_eq] at hruns'
    obtain ⟨h1, h2, h3, h4, h5, h6, h7, h8⟩ := hruns'
    simpa [World.saveMessageEnvelopeWithInbox, World.insertEnvelope, World.insertProof, World.insertState,
      World.deliverTo, h1, h2, h3, h4, h5, h6, h7, h8, henvelope, hproof, hid, hident] using hreceipt

end Writes

/-! ## All or nothing -/

section Call

variable (w : World) (req : Posting.Request) (db : Database)

def info : Meta := decodeMeta req.envelopeData

/-- What is found for a recipient of the sender on the node `localServerName`. -/
def found (ident : Posting.Identity) (localServerName : String) (recipientID : UUID) (recip : Posting.Identity) :
    Distribution :=
  foundFor (w.request req) db.store.tables (info req) ident.gaiaID localServerName recipientID recip

/-- The call passes the checks and queues what there is to queue for its recipient. -/
structure Prepared (ident : Posting.Identity) (localServerName : String) (recipientID : UUID) (recip : Posting.Identity) :
    Prop where
  sender : db.store.tables.identities.get? req.senderID = some ident
  node : afterLastColon ident.gaiaID = some localServerName
  recipients : req.recipientIDs.eraseDups = [recipientID]
  recipient : db.store.tables.identities.get? recipientID = some recip
  checks : (do
    checkSender (w.request req) db.store.tables
    checkRoom (w.request req) db.store.tables (info req) db.store.rooms
    resolveSender (w.request req) db.store.tables (info req)) = .ok (ident.gaiaID, localServerName)
  queued : distribute (w.request req) db.store.tables (info req) ident.gaiaID localServerName [recipientID] ⟨"", [], []⟩ =
    (found w req db ident localServerName recipientID recip, .ok ())

def transaction (ident : Posting.Identity) (found : Distribution) : Option Database :=
  w.saveMessageEnvelopeWithInbox req.savedAt (db.enqueue found.queue)
    (Posting.envelope (w.request req) (info req) ident.gaiaID found.firstRecipientGaia) found.activeRecipients

theorem enqueue_nil : db.enqueue [] = db := by
  simp only [Database.enqueue, List.append_nil]

variable {w req db} {ident recip : Posting.Identity} {localServerName : String} {recipientID : UUID}
  (h : Prepared w req db ident localServerName recipientID recip)

include h

theorem saveAndDistributeMessage_prepared :
    w.saveAndDistributeMessage req db =
      (transaction w req db ident (found w req db ident localServerName recipientID recip)).elim
        (db.enqueue (found w req db ident localServerName recipientID recip).queue, .error .database)
        fun db' => (db', .ok req.envelopeID) := by
  have hchecks := h.checks
  have hqueued := h.queued
  have hrecipients : (w.request req).recipientIDs.eraseDups = [recipientID] := h.recipients
  unfold info at hchecks hqueued
  have htransaction : w.saveMessageEnvelopeWithInbox (w.request req).savedAt
      (db.enqueue (found w req db ident localServerName recipientID recip).queue)
      (Posting.envelope (w.request req) (decodeMeta (w.request req).envelopeData) ident.gaiaID
        (found w req db ident localServerName recipientID recip).firstRecipientGaia)
      (found w req db ident localServerName recipientID recip).activeRecipients =
        transaction w req db ident (found w req db ident localServerName recipientID recip) := rfl
  have henvelope : (w.request req).envelopeData = req.envelopeData := rfl
  unfold World.saveAndDistributeMessage
  simp only [henvelope, hchecks, hrecipients, hqueued]
  rw [henvelope] at htransaction
  simp only [htransaction]
  cases transaction w req db ident (found w req db ident localServerName recipientID recip) with
  | none | some db' => rfl

omit h in
theorem saveAndDistributeMessage_cases (w : World) (req : Posting.Request) (db : Database) :
    (∃ err, w.saveAndDistributeMessage req db = (db, .error err)) ∨
      ∃ ident localServerName recipientID recip, Prepared w req db ident localServerName recipientID recip := by
  unfold World.saveAndDistributeMessage
  simp only
  split
  · exact .inl ⟨_, rfl⟩
  rename_i senderGaia localServerName hall
  obtain ⟨⟨⟩, -, hchecks⟩ := bind_eq_ok.1 hall
  obtain ⟨⟨⟩, -, hresolve⟩ := bind_eq_ok.1 hchecks
  obtain ⟨ident, recipientID, hident, hgaia, hlocal, hrecipients, -⟩ := resolveSender_single hresolve
  obtain rfl : senderGaia = ident.gaiaID := hgaia
  rw [hrecipients]
  rcases distribute_single (w.request req) db.store.tables (decodeMeta (w.request req).envelopeData) ident.gaiaID
      localServerName recipientID with
    ⟨err, herr, hqueue⟩ | ⟨recip, hrecip, hqueued⟩
  · refine .inl ⟨err, ?_⟩
    rw [herr, hqueue, enqueue_nil]
  · exact .inr ⟨ident, localServerName, recipientID, recip, hident, hlocal, hrecipients, hrecip, hall, hqueued⟩

def message (w : World) (req : Posting.Request) (ident recip : Posting.Identity) : Message :=
  Posting.envelope (w.request req) (info req) ident.gaiaID recip.gaiaID

/-- The transaction of a call that has queued a PDU commits exactly if the keys of the message are free and no fatal
statement fails. -/
theorem transaction_isSome_iff
    (hqueue : (found w req db ident localServerName recipientID recip).queue ≠ []) :
    (transaction w req db ident (found w req db ident localServerName recipientID recip)).isSome = true ↔
      Free w db (message w req ident recip) recipientID ∧ ∀ s ∈ fatal, w.failing ≠ some s := by
  obtain ⟨⟨⟩, hsender, -⟩ := bind_eq_ok.1 h.checks
  obtain ⟨⟨⟩, hnil, -⟩ := bind_eq_ok.1 hsender
  have hid : req.senderID ≠ .nil := by
    rw [Posting.ensure_eq_ok, Bool.and_eq_true] at hnil
    exact of_decide_eq_true hnil.2
  have hfound : found w req db ident localServerName recipientID recip = ⟨recip.gaiaID, [recipientID],
      (found w req db ident localServerName recipientID recip).queue⟩ := by
    unfold found foundFor at hqueue ⊢
    split at hqueue
    · exact absurd rfl hqueue
    rename_i hblocked
    rw [if_neg hblocked]
  rw [hfound]
  have hsave : (w.saveMessageEnvelopeWithInbox req.savedAt
      (db.enqueue (found w req db ident localServerName recipientID recip).queue) (message w req ident recip)
      [recipientID]).isSome = true ↔
        Free w (db.enqueue (found w req db ident localServerName recipientID recip).queue) (message w req ident recip)
          recipientID ∧ ∀ s ∈ fatal, w.failing ≠ some s := save_isSome_iff hid h.sender
  exact hsave.trans (and_congr_left fun _ => ⟨fun hfree => ⟨hfree.envelope, hfree.proof, hfree.receipt⟩,
    fun hfree => ⟨hfree.envelope, hfree.proof, hfree.receipt⟩⟩)

/-- A prepared call that queues nothing or whose transaction commits leaves nothing behind if it fails. -/
theorem unchanged_of_prepared
    (hkeeps : (found w req db ident localServerName recipientID recip).queue ≠ [] →
      (transaction w req db ident (found w req db ident localServerName recipientID recip)).isSome = true)
    {err : PostError} (herr : (w.saveAndDistributeMessage req db).2 = .error err) :
    (w.saveAndDistributeMessage req db).1 = db := by
  rw [saveAndDistributeMessage_prepared h] at herr ⊢
  cases htransaction : transaction w req db ident (found w req db ident localServerName recipientID recip) with
  | none =>
    have hqueue : (found w req db ident localServerName recipientID recip).queue = [] := by
      by_contra hne
      have hsome := hkeeps hne
      rw [htransaction] at hsome
      cases hsome
    rw [hqueue]
    exact enqueue_nil db
  | some db' =>
    rw [htransaction] at herr
    cases herr

theorem changed_of_prepared
    (hqueue : (found w req db ident localServerName recipientID recip).queue ≠ [])
    (hfails : transaction w req db ident (found w req db ident localServerName recipientID recip) = none) :
    (w.saveAndDistributeMessage req db).2 = .error .database ∧ (w.saveAndDistributeMessage req db).1 ≠ db := by
  rw [saveAndDistributeMessage_prepared h, hfails]
  refine ⟨rfl, fun heq => hqueue ?_⟩
  have hsame := congrArg (fun db => db.store.tables.queue) heq
  exact List.append_right_eq_self.1 hsame

/-- A call that succeeds has written the message for its recipient, unless this blocks the sender. -/
theorem sent_of_prepared {id : UUID}
    (hok : (w.saveAndDistributeMessage req db).2 = .ok id) :
    id = req.envelopeID ∧ Sent db (w.saveAndDistributeMessage req db).1 id
      (found w req db ident localServerName recipientID recip).activeRecipients
      (found w req db ident localServerName recipientID recip).queue := by
  rw [saveAndDistributeMessage_prepared h] at hok ⊢
  cases htransaction : transaction w req db ident (found w req db ident localServerName recipientID recip) with
  | none =>
    rw [htransaction] at hok
    cases hok
  | some db' =>
    rw [htransaction] at hok
    obtain rfl := Except.ok.inj hok
    exact ⟨rfl, sent_of_save htransaction⟩

/-- A call that succeeds does to the tables of Posting what it does there, if the queries for the quarantine succeed. -/
theorem posting_of_prepared
    (hrecord : w.failing ≠ some .publicRecord) (hquarantine : w.failing ≠ some .quarantine) {id : UUID}
    (hok : (w.saveAndDistributeMessage req db).2 = .ok id) :
    Posting.saveAndDistributeMessage (w.request req) db.store = ((w.saveAndDistributeMessage req db).1.store, .ok id) := by
  rw [saveAndDistributeMessage_prepared h] at hok ⊢
  cases htransaction : transaction w req db ident (found w req db ident localServerName recipientID recip) with
  | none =>
    rw [htransaction] at hok
    cases hok
  | some db' =>
    rw [htransaction] at hok
    obtain rfl := Except.ok.inj hok
    obtain ⟨hsave, hstore⟩ := save_refines hrecord hquarantine htransaction
    obtain ⟨⟨⟩, hsender, hrest⟩ := bind_eq_ok.1 h.checks
    obtain ⟨⟨⟩, hroom, hresolve⟩ := bind_eq_ok.1 hrest
    have hdeliver : Posting.deliver (w.request req) db.store.tables (info req) = (db'.store.tables, .ok req.envelopeID) := by
      have hrecipients : (w.request req).recipientIDs.eraseDups = [recipientID] := h.recipients
      have hsaves : (w.request req).faults.save = false := rfl
      have hat : (w.request req).savedAt = req.savedAt := rfl
      have hid : (w.request req).envelopeID = req.envelopeID := rfl
      simp only [Posting.deliver, hresolve, hrecipients, h.queued, hsaves, hat, hid]
      have hsave' : Posting.saveMessageEnvelopeWithInbox false req.savedAt { db.store.tables with
          queue := db.store.tables.queue ++ (found w req db ident localServerName recipientID recip).queue }
          (Posting.envelope (w.request req) (info req) ident.gaiaID
            (found w req db ident localServerName recipientID recip).firstRecipientGaia)
          (found w req db ident localServerName recipientID recip).activeRecipients = some db'.store.tables := hsave
      rw [hsave']
    have hchecks : (do
        checkSender (w.request req) db.store.tables
        checkRoom (w.request req) db.store.tables (info req) db.store.rooms : Except PostError Unit) = .ok () :=
      bind_eq_ok.2 ⟨(), hsender, hroom⟩
    have hdata : decodeMeta (w.request req).envelopeData = info req := rfl
    simp only [Posting.saveAndDistributeMessage, hdata, hchecks, hdeliver, Option.elim_some]
    exact Prod.ext hstore.symm rfl

end Call

/-- A call that fails has written nothing exactly if, where it has queued a PDU, the keys of its message are free and
none of the statements fails that its transaction needs. A call that succeeds has added one envelope with its proof; its
recipient, unless it blocks the sender, has one new inbox row and one receipt, and a PDU for it is queued exactly if it
is on another node than the sender. -/
theorem failed_send_iff (w : World) (req : Posting.Request) (db : Database) :
    ((∀ err, (w.saveAndDistributeMessage req db).2 = .error err → (w.saveAndDistributeMessage req db).1 = db) ↔
      ∀ ident localServerName recipientID recip, Prepared w req db ident localServerName recipientID recip →
        (found w req db ident localServerName recipientID recip).queue ≠ [] →
        Free w db (message w req ident recip) recipientID ∧ ∀ s ∈ fatal, w.failing ≠ some s) ∧
    ∀ id, (w.saveAndDistributeMessage req db).2 = .ok id →
      ∃ ident localServerName recipientID recip, Prepared w req db ident localServerName recipientID recip ∧
        Sent db (w.saveAndDistributeMessage req db).1 id
          (if isBlocked (w.request req) db.store.tables ident.gaiaID recip.userID then [] else [recipientID])
          (if isBlocked (w.request req) db.store.tables ident.gaiaID recip.userID then []
            else queuedFor (w.request req) (info req) ident.gaiaID localServerName recipientID recip) := by
  refine ⟨⟨?_, ?_⟩, ?_⟩
  · intro hatomic ident localServerName recipientID recip hprepared hqueue
    rw [← transaction_isSome_iff hprepared hqueue]
    by_contra hfails
    obtain ⟨herr, hchanged⟩ := changed_of_prepared hprepared hqueue (by simpa using hfails)
    exact hchanged (hatomic _ herr)
  · intro hkeeps err herr
    rcases saveAndDistributeMessage_cases w req db with
      ⟨err', heq⟩ | ⟨ident, localServerName, recipientID, recip, hprepared⟩
    · rw [heq]
    · refine unchanged_of_prepared hprepared (fun hqueue => ?_) herr
      exact (transaction_isSome_iff hprepared hqueue).2 (hkeeps _ _ _ _ hprepared hqueue)
  · intro id hok
    rcases saveAndDistributeMessage_cases w req db with
      ⟨err', heq⟩ | ⟨ident, localServerName, recipientID, recip, hprepared⟩
    · rw [heq] at hok
      cases hok
    · obtain ⟨-, hsent⟩ := sent_of_prepared hprepared hok
      refine ⟨ident, localServerName, recipientID, recip, hprepared, ?_⟩
      unfold found foundFor at hsent
      split at hsent
      · rename_i hblocked
        rw [if_pos hblocked, if_pos hblocked]
        exact hsent
      · rename_i hblocked
        rw [if_neg hblocked, if_neg hblocked]
        exact hsent

def sampleDatabase : Database where
  store := {
    rooms := Table.empty
    channels := Table.empty
    tables := {
      identities := (Table.empty.insertOrIgnore (sampleUUID 1) ⟨sampleUUID 11, "@alice:a.example", "", true⟩).insertOrIgnore
        (sampleUUID 2) ⟨sampleUUID 12, "@bob:b.example", "", true⟩
      deviceKeys := Table.empty
      contacts := Table.empty
      abuse := ⟨[], Table.empty⟩
      envelopes := Table.empty
      inboxes := []
      states := Table.empty
      queue := [] } }
  proofs := Table.empty
  receipts := []

def sampleRequest : Posting.Request where
  userID := sampleUUID 11
  senderID := sampleUUID 1
  envelopeData := bytes "\x7b\x7d"
  recipientIDs := [sampleUUID 2]
  now := 63919886400 * second
  savedAt := 63919886400 * second
  envelopeID := sampleUUID 21
  pduID _ := sampleUUID 22
  verify _ _ _ := false
  faults := faults none

def sampleWorld : World where
  sha256 _ := []
  failing := some .commit
  deliveredAt := 63919886400 * second

/-- A send whose commit fails is reported as failed, and its PDU goes to the other node all the same. -/
theorem failed_send_queued :
    (sampleWorld.saveAndDistributeMessage sampleRequest sampleDatabase).2 = .error .database ∧
      (sampleWorld.saveAndDistributeMessage sampleRequest sampleDatabase).1.store.tables.queue.map QueueItem.targetURL =
        ["b.example"] ∧
      sampleDatabase.store.tables.queue.length = 0 ∧
      (sampleWorld.saveAndDistributeMessage sampleRequest sampleDatabase).1.store.tables.envelopes.rows.length = 0 := by
  decide +kernel

/-! ## Runs -/

/-- Nothing is lost: rows stay as they are, and new ones come after the old ones. -/
structure Grown (db db' : Database) : Prop where
  envelopes : Table.Keeps id db.store.tables.envelopes db'.store.tables.envelopes
  proofs : Table.Keeps id db.proofs db'.proofs
  inboxes : db.store.tables.inboxes <+: db'.store.tables.inboxes
  receipts : db.receipts <+: db'.receipts
  queue : db.store.tables.queue <+: db'.store.tables.queue

theorem Grown.refl (db : Database) : Grown db db :=
  ⟨fun _ _ => id, fun _ _ => id, List.prefix_rfl, List.prefix_rfl, List.prefix_rfl⟩

/-- A database with the acknowledged ids, each with the database as the call left it. -/
abbrev Logged := Database × List (UUID × Database)

def send (s : Logged) (call : World × Posting.Request) : Logged :=
  let (db, result) := call.1.saveAndDistributeMessage call.2 s.1
  (db, match result with
    | .error _ => s.2
    | .ok id => (id, db) :: s.2)

structure Safe (start : Database) (s : Logged) : Prop where
  grown : Grown start s.1
  nodup : (s.2.map Prod.fst).Nodup
  kept : ∀ a ∈ s.2, Grown a.2 s.1 ∧ ∃ db recipients items, Sent db a.2 a.1 recipients items

theorem call_cases (w : World) (req : Posting.Request) (db : Database) :
    (∃ items err, w.saveAndDistributeMessage req db = (db.enqueue items, .error err)) ∨
      ∃ db' id recipients items, w.saveAndDistributeMessage req db = (db', .ok id) ∧ Sent db db' id recipients items := by
  rcases saveAndDistributeMessage_cases w req db with ⟨err, heq⟩ | ⟨ident, localServerName, recipientID, recip, hcall⟩
  · exact .inl ⟨[], err, by rw [heq, enqueue_nil]⟩
  rw [saveAndDistributeMessage_prepared hcall]
  cases htransaction : transaction w req db ident (found w req db ident localServerName recipientID recip) with
  | none => exact .inl ⟨_, _, rfl⟩
  | some db' => exact .inr ⟨db', _, _, _, rfl, sent_of_save htransaction⟩

theorem Grown.call {start db : Database} (h : Grown start db) (w : World) (req : Posting.Request) :
    Grown start (w.saveAndDistributeMessage req db).1 := by
  rcases call_cases w req db with ⟨items, err, heq⟩ | ⟨db', id, _, _, heq,
    ⟨⟨-, _, henvelopes⟩, ⟨-, _, hproofs⟩, ⟨_, hinboxes, -⟩, ⟨_, hreceipts, -⟩, -, hqueue⟩⟩ <;> rw [heq]
  · exact { h with queue := h.queue.trans (List.prefix_append _ _) }
  · exact ⟨henvelopes ▸ h.envelopes.insertOrIgnore, hproofs ▸ h.proofs.insertOrIgnore,
      hinboxes ▸ h.inboxes.trans (List.prefix_append _ _), hreceipts ▸ h.receipts.trans (List.prefix_append _ _),
      hqueue ▸ h.queue.trans (List.prefix_append _ _)⟩

theorem safe_send {start : Database} {s : Logged} (call : World × Posting.Request) (h : Safe start s) :
    Safe start (send s call) := by
  have hgrown := h.grown.call call.1 call.2
  have hlog := fun a ha => (h.kept a ha).imp_left (·.call call.1 call.2)
  rcases call_cases call.1 call.2 s.1 with ⟨items, err, heq⟩ | ⟨db', id, _, _, heq, hsent⟩ <;>
    simp only [send, heq] at hgrown hlog ⊢
  · exact ⟨hgrown, h.nodup, hlog⟩
  refine ⟨hgrown, List.nodup_cons.2 ⟨?_, h.nodup⟩, ?_⟩
  · intro hmem
    obtain ⟨a, ha, rfl⟩ := List.mem_map.1 hmem
    -- the envelope of an earlier call is still there, so its id is not free
    obtain ⟨hkept, _, _, _, ⟨⟨hfree, row, hrow⟩, -⟩⟩ := h.kept a ha
    have hnow := hkept.envelopes a.1 row (by simp [hrow, hfree])
    simp [hsent.envelope.1] at hnow
  · rintro a (- | ⟨-, ha⟩)
    · exact ⟨.refl _, _, _, _, hsent⟩
    · exact hlog a ha

end GaiaCom.Messaging.Sending
