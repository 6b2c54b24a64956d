/-
Posting a message: `SaveAndDistributeMessage` of messaging_service.go, its checks in order, the PDUs it queues
for other nodes, and the rows `SaveMessageEnvelopeWithInbox` stores.

Membership, read-only and top-secret rules of a room are checked for the room the envelope names in
`room_id`; the message is filed under the channel it names in `channel_id`. Nothing ties the two together, and a
`room_id` that is missing, unreadable or of another room skips the checks. So they hold for the channel's
room whatever it says exactly if `room_id` names it and it can be read (`posting_authorized_iff`).
-/
import GaiaCom.Mailbox.Ownership
import GaiaCom.Trustmesh.Reports

namespace GaiaCom.Messaging.Posting

open Lib Core GaiaCom.Store
open Federation.Wire (Bytes bytes ofBytes PDU QueueItem)
open Gsn (recordedKey)
open Trustmesh (sampleUUID)

/-! ## The store -/

/-- A row of identities. -/
structure Identity where
  userID : UUID
  gaiaID : String
  publicRecord : String
  isActive : Bool

/-- A row of room_members. -/
structure Member where
  identityID : UUID
  role : String
  deriving DecidableEq

/-- A row of rooms with its members, the first to join first. -/
structure Room where
  readOnly : Bool
  topSecret : Bool
  slowModeSeconds : Int
  members : List Member

/-- A row of device_keys. -/
structure DeviceKey where
  identityID : UUID
  boxPublic : String
  signPublic : String
  isActive : Bool

/-- A row of message_envelopes. -/
structure Envelope where
  type : String
  sender : String
  recipient : String
  payload : Bytes
  signature : String
  channelID : String
  readReceiptSourceID : String
  clientMessageID : String
  replacedByMessageID : String
  editedAt : String
  createdAt : String
  deriving DecidableEq

/-- The tables besides those of rooms; the rows of inboxes are in the order of their ids. -/
structure Tables where
  identities : Table UUID Identity
  deviceKeys : Table UUID DeviceKey
  contacts : Table UUID Mailbox.ContactRow
  abuse : Trustmesh.Database
  envelopes : Table UUID Envelope
  inboxes : List Mailbox.InboxRow
  states : Table (UUID × UUID × UUID) Mailbox.StateRow
  queue : List QueueItem

structure Store where
  rooms : Table UUID Room
  /-- The room of each channel. -/
  channels : Table String UUID
  tables : Tables

/-- Which queries and statements of a call fail; `room` also stands for a row that cannot be scanned. -/
structure Faults where
  ownership : Bool
  room : Bool
  lastMessage : Bool
  identities : Bool
  score : Bool
  sender : Bool
  senderKeys : Bool
  senderKey : Bool
  recipientKeys : Bool
  recipientKey : Bool
  recipient : Bool
  contact : Bool
  queue : Bool
  save : Bool
  deriving DecidableEq

/-- A call: its arguments, the clock at its checks and at its last transaction, the ids it draws, the check of
Ed25519 signatures and what fails. -/
structure Request where
  userID : UUID
  senderID : UUID
  envelopeData : Bytes
  recipientIDs : List UUID
  now : Nat
  savedAt : Nat
  envelopeID : UUID
  pduID : UUID → UUID
  verify : (publicKey message signature : Bytes) → Bool
  faults : Faults

/-- Why a call fails. -/
inductive PostError where
  | sender | size | recipients | notAuthorized
  | notMember | readOnly | suite | bundle | slowMode | timedOut
  | senderNotFound | senderGaiaID
  | senderKeys | proofRequired | senderKey | proofRejected | proofUnavailable
  | oneRecipient | recipientKeys | keyRequired | recipientKey | binding | keyUnavailable
  | recipient | recipientNotFound (id : UUID) | recipientGaiaID (gaiaID : String) | queue | database
  deriving DecidableEq

/-! ## What the envelope says -/

/-- The fields read from the envelope. -/
structure Meta where
  recipientGaia : String
  readReceiptSourceID : String
  roomID : String
  channelID : String
  algorithmSuite : String
  recipientDeviceKeyID : String
  recipientDeviceBoxPublic : String
  senderDeviceKeyID : String
  deviceSignature : String
  clientMessageID : String
  envelopeSignature : String
  mldsa87 : String
  mldsa87Public : String

def decodeMeta (data : Bytes) : Meta :=
  let ms := ((Json.parseChars (Utf8.text data)).map Json.lenientMembers).getD []
  let bundle := Json.lenientStruct "signature_bundle" ms
  { recipientGaia := Json.lenientString "recipient_gaia" ms
    readReceiptSourceID := Json.lenientString "read_receipt_source_id" ms
    roomID := Json.lenientString "room_id" ms
    channelID := Json.lenientString "channel_id" ms
    algorithmSuite := Json.lenientString "algorithm_suite" ms
    recipientDeviceKeyID := Json.lenientString "recipient_device_key_id" ms
    recipientDeviceBoxPublic := Json.lenientString "recipient_device_box_public" ms
    senderDeviceKeyID := Json.lenientString "sender_device_key_id" ms
    deviceSignature := Json.lenientString "device_signature" ms
    clientMessageID := Json.lenientString "client_message_id" ms
    envelopeSignature := Json.lenientString "signature" ms
    mldsa87 := Json.lenientString "ml_dsa_87" bundle
    mldsa87Public := Json.lenientString "ml_dsa_87_public" bundle }

/-- The signature and the client's message id as `extractMessageProofInput` takes them: from an envelope that
decodes without error. -/
def extractMessageProofInput (data : Bytes) : String × String :=
  let decoded := do
    let ms ← (← Json.parseChars (Utf8.text data)).members
    let _ ← Json.stringField "ciphertext_hash" ms
    let signature ← Json.stringField "signature" ms
    let _ ← Json.stringField "payload_ciphertext" ms
    let clientMessageID ← Json.stringField "client_message_id" ms
    return (trimSpace signature, trimSpace clientMessageID)
  decoded.getD ("", "")

def topSecretSuite : String :=
  "GaiaCom/v1.0/sovereign-top-secret/X25519+ML-KEM-1024+HQC-256/Serpent-256-CTR-HMAC-SHA3-512+Twofish-256-EAX+XChaCha20-Poly1305+AES-256-GCM-SIV/Ed25519+ML-DSA-87"

/-! ## Checks -/

def required {α : Type} (err : PostError) : Option α → Except PostError α
  | none => .error err
  | some a => .ok a

def ensure (err : PostError) (p : Bool) : Except PostError Unit := if p then .ok () else .error err

section Checks

variable (req : Request) (t : Tables) (info : Meta)

def identityBelongsToUser : Option Bool :=
  if req.faults.ownership then none
  else some ((t.identities.get? req.senderID).any fun ident => ident.userID = req.userID && ident.isActive)

def checkSender : Except PostError Unit := do
  ensure .sender (req.userID ≠ .nil && req.senderID ≠ .nil)
  ensure .size (req.envelopeData.length ≠ 0 && req.envelopeData.length ≤ 1024 * 1024)
  ensure .recipients (req.recipientIDs.length ≠ 0 && req.recipientIDs.length ≤ 256)
  let owns ← required .database (identityBelongsToUser req t)
  ensure .notAuthorized owns

/-- `GetLastMessageTimestamp`: the zero time if there is none. -/
def getLastMessageTimestamp : Option Nat :=
  if req.faults.lastMessage then none
  else (t.identities.get? req.senderID).map fun ident =>
    let last := t.envelopes.first? (fun _ e => e.sender = ident.gaiaID && e.channelID = info.channelID)
      fun a b => b.2.createdAt < a.2.createdAt
    ((last.bind t.envelopes.get?).map fun e => parseTime e.createdAt).getD 0

def isTooSoon (seconds : Int) : Bool :=
  (getLastMessageTimestamp req t info).any fun last =>
    last ≠ 0 && (req.now : Int) < last + (Int64.ofInt seconds * 1000000000).toInt

def isPrivileged (role : String) : Bool := role = "admin" || role = "owner"

def checkMember (room : Room) (member : Member) : Except PostError Unit := do
  ensure .readOnly (!room.readOnly || isPrivileged member.role)
  ensure .suite (!room.topSecret || info.algorithmSuite = topSecretSuite)
  ensure .bundle (!room.topSecret || (info.mldsa87 ≠ "" && info.mldsa87Public ≠ ""))
  ensure .slowMode (!(0 < room.slowModeSeconds && !isPrivileged member.role && info.channelID ≠ "" &&
    isTooSoon req t info room.slowModeSeconds))

/-- `FindRoomByID`. -/
def findRoomByID (rooms : Table UUID Room) (roomID : UUID) : Option Room :=
  if req.faults.room then none else rooms.get? roomID

def checkRoom (rooms : Table UUID Room) : Except PostError Unit :=
  if info.roomID = "" then .ok ()
  else
    match (parse info.roomID).bind (findRoomByID req rooms) with
    | none => .ok ()
    | some room =>
      match room.members.find? fun member => member.identityID = req.senderID with
      | none => .error .notMember
      | some member => checkMember req t info room member

def checkTimeout : Except PostError Unit :=
  let ident := if req.faults.identities then none
    else (t.identities.get? req.senderID).filter fun ident => ident.userID = req.userID
  let key := (ident.bind fun ident => recordedKey ident.publicRecord).getD ""
  if key = "" || req.faults.score then .ok ()
  else
    let score := t.abuse.getAbuseScore req.now key
    ensure .timedOut (!(score.timeoutUntil ≠ 0 && req.now < score.timeoutUntil))

def afterLastColon (s : String) : Option String :=
  if ':' ∈ s.toList then some (String.ofList (s.toList.reverse.takeWhile (· ≠ ':')).reverse) else none

def findActiveDeviceKeysForIdentity (identityID : UUID) : List DeviceKey :=
  (t.deviceKeys.rows.filter fun r => r.2.identityID = identityID && r.2.isActive).map Prod.snd

def findActiveDeviceKey (identityID keyID : UUID) : Option DeviceKey :=
  (t.deviceKeys.get? keyID).filter fun key => key.identityID = identityID && key.isActive

def keyIDOf (text : String) : Option UUID := (parse text).filter fun id => id ≠ .nil

def deviceProof (keyID : UUID) : Bytes :=
  bytes ("\n".intercalate ["gaiacom-device-envelope-v1", keyID.text, info.clientMessageID, info.envelopeSignature])

def verifyDevice (keyID : UUID) (key : DeviceKey) : Bool :=
  match hexDecode key.signPublic.toList, hexDecode info.deviceSignature.toList with
  | some publicKey, some signature =>
    publicKey.length = 32 && signature.length = 64 && req.verify publicKey (deviceProof info keyID) signature
  | _, _ => false

def checkSenderDevice : Except PostError Unit :=
  if req.faults.senderKeys then .error .senderKeys
  else if (findActiveDeviceKeysForIdentity t req.senderID).isEmpty then
    ensure .proofUnavailable (info.senderDeviceKeyID = "" && info.deviceSignature = "")
  else do
    let keyID ← required .proofRequired (keyIDOf info.senderDeviceKeyID)
    let key ← required .senderKey (if req.faults.senderKey then none else findActiveDeviceKey t req.senderID keyID)
    ensure .proofRejected (verifyDevice req info keyID key)

def checkRecipientDevice (recipientID : UUID) : Except PostError Unit :=
  if req.faults.recipientKeys then .error .recipientKeys
  else if (findActiveDeviceKeysForIdentity t recipientID).isEmpty then
    ensure .keyUnavailable (info.recipientDeviceKeyID = "")
  else do
    let keyID ← required .keyRequired (keyIDOf info.recipientDeviceKeyID)
    let key ← required .recipientKey (if req.faults.recipientKey then none else findActiveDeviceKey t recipientID keyID)
    ensure .binding (equalFold (trimSpace info.recipientDeviceBoxPublic) key.boxPublic)

def checkDevices : List UUID → Except PostError Unit
  | [recipientID] => do
    checkSenderDevice req t info
    checkRecipientDevice req t info recipientID
  | _ => do
    checkSenderDevice req t info
    .error .oneRecipient

end Checks

/-! ## Saving a message -/

/-- `models.MessageEnvelope` as it is given to the store. -/
structure Message where
  id : UUID
  type : String
  sender : String
  recipient : String
  payload : Bytes
  senderIdentityID : UUID
  channelID : String
  readReceiptSourceID : UUID
  editedAt : Nat

def uuidStringOrEmpty (value : UUID) : String := if value = .nil then "" else value.text

/-- The row of a message saved at `now`. -/
def Message.row (m : Message) (now : Nat) : Envelope where
  type := m.type
  sender := m.sender
  recipient := m.recipient
  payload := m.payload
  signature := (extractMessageProofInput m.payload).1
  channelID := m.channelID
  readReceiptSourceID := uuidStringOrEmpty m.readReceiptSourceID
  clientMessageID := (extractMessageProofInput m.payload).2
  replacedByMessageID := ""
  editedAt := formatTime m.editedAt
  createdAt := formatTime now

/-- `SELECT … FROM identities WHERE LOWER(gaia_id) = LOWER(?) AND p LIMIT 1`. -/
def findIdentityByGaiaID (identities : Table UUID Identity) (gaiaID : String) (p : Identity → Bool) :
    Option (UUID × Identity) :=
  identities.rows.find? fun r => toLower r.2.gaiaID = toLower gaiaID && p r.2

def isQuarantined (t : Tables) (sender : String) (now : Nat) : Bool :=
  let ident := (findIdentityByGaiaID t.identities sender fun _ => true).map Prod.snd
  let key := (ident.bind fun ident => recordedKey ident.publicRecord).getD ""
  key ≠ "" && (t.abuse.scores.get? key).any fun score =>
    score.quarantinedUntil ≠ "" && now < parseTime score.quarantinedUntil

def sentState (now : Nat) : Mailbox.StateRow where
  folder := "sent"
  isRead := true
  isStarred := false
  isImportant := false
  isSpam := false
  isArchived := false
  labels := bytes "[]"
  snoozedUntil := ""
  updatedAt := formatTime now

def Message.inboxRow (m : Message) (t : Tables) (now : Nat) (recipientID : UUID) : Mailbox.InboxRow :=
  ⟨recipientID, m.id, false, true, m.type = "smtp.legacy" || isQuarantined t m.sender now⟩

/-- What the statements of `SaveMessageEnvelopeWithInbox` write. -/
def Tables.insertMessage (t : Tables) (now : Nat) (m : Message) (recipientIDs : List UUID) : Tables :=
  { t with
    envelopes := t.envelopes.insertOrIgnore m.id (m.row now)
    states :=
      match if m.senderIdentityID = .nil then none else t.identities.get? m.senderIdentityID with
      | none => t.states
      | some ident => t.states.insertOrIgnore (ident.userID, m.senderIdentityID, m.id) (sentState now)
    inboxes := t.inboxes ++ recipientIDs.map (m.inboxRow t now) }

/-- `SaveMessageEnvelopeWithInbox`: a taken id fails the transaction. -/
def saveMessageEnvelopeWithInbox (fails : Bool) (now : Nat) (t : Tables) (m : Message) (recipientIDs : List UUID) :
    Option Tables :=
  if fails || (t.envelopes.get? m.id).isSome then none else some (t.insertMessage now m recipientIDs)

@[grind =]
theorem saveMessageEnvelopeWithInbox_eq_some {fails : Bool} {now : Nat} {t t' : Tables} {m : Message}
    {recipientIDs : List UUID} :
    saveMessageEnvelopeWithInbox fails now t m recipientIDs = some t' ↔
      fails = false ∧ t.envelopes.get? m.id = none ∧ t.insertMessage now m recipientIDs = t' := by
  unfold saveMessageEnvelopeWithInbox
  cases fails with
  | true => simp
  | false =>
    cases t.envelopes.get? m.id with
    | none | some e => simp

theorem inboxes_insertMessage (t : Tables) (now : Nat) (m : Message) (recipientIDs : List UUID) :
    (t.insertMessage now m recipientIDs).inboxes = t.inboxes ++ recipientIDs.map (m.inboxRow t now) := rfl

theorem get?_insertMessage {t : Tables} {m : Message} (h : t.envelopes.get? m.id = none) (now : Nat)
    (recipientIDs : List UUID) (id : UUID) :
    (t.insertMessage now m recipientIDs).envelopes.get? id =
      if id = m.id then some (m.row now) else t.envelopes.get? id := by
  simp [Tables.insertMessage, h]

/-! ## Distribution -/

/-- What the loop over the recipients has gathered. -/
structure Distribution where
  firstRecipientGaia : String
  activeRecipients : List UUID
  queue : List QueueItem

section Distribution

variable (req : Request) (t : Tables) (info : Meta) (senderGaia localServerName : String)

def federatedItem (recipientID : UUID) (recipientGaia domain : String) : QueueItem :=
  let pdu : PDU := {
    pduID := bytes (req.pduID recipientID).text
    type := bytes "gaia.encrypted.v1"
    sender := bytes senderGaia
    destination := bytes recipientGaia
    payload := req.envelopeData
    algorithmSuite := bytes info.algorithmSuite
    createdAt := Int64.ofInt (unix req.now)
    signature := []
    pduHash := [] }
  ⟨pdu.pduID, Utf8.encode pdu.written.text, domain⟩

/-- `IsContactBlocked`: the first contact in the order of the index by user, GaiaID and e-mail address. -/
def isContactBlocked (contacts : Table UUID Mailbox.ContactRow) (userID : UUID) (gaiaID : String) : Bool :=
  let found := contacts.first? (fun _ c => c.userID = userID && c.gaiaID = bytes gaiaID)
    fun a b => List.lex a.2.email b.2.email
  ((found.bind contacts.get?).map Mailbox.ContactRow.blocked).getD false

def isBlocked (userID : UUID) : Bool := !req.faults.contact && isContactBlocked t.contacts userID senderGaia

def distribute : List UUID → Distribution → Distribution × Except PostError Unit
  | [], acc => (acc, .ok ())
  | recipientID :: rest, acc =>
    if recipientID = .nil then (acc, .error .recipient)
    else
      match if req.faults.recipient then none else t.identities.get? recipientID with
      | none => (acc, .error (.recipientNotFound recipientID))
      | some ident =>
        if isBlocked req t senderGaia ident.userID then distribute rest acc
        else
          let acc := { acc with
            activeRecipients := acc.activeRecipients ++ [recipientID]
            firstRecipientGaia := if acc.firstRecipientGaia = "" then ident.gaiaID else acc.firstRecipientGaia }
          match afterLastColon ident.gaiaID with
          | none => (acc, .error (.recipientGaiaID ident.gaiaID))
          | some domain =>
            if domain = localServerName then distribute rest acc
            else if req.faults.queue then (acc, .error .queue)
            else distribute rest
              { acc with queue := acc.queue ++ [federatedItem req info senderGaia recipientID ident.gaiaID domain] }

def envelope (firstRecipientGaia : String) : Message where
  id := req.envelopeID
  type := "gaia.encrypted.v1"
  sender := senderGaia
  recipient := if info.recipientGaia = "" then firstRecipientGaia else info.recipientGaia
  payload := req.envelopeData
  senderIdentityID := req.senderID
  channelID := info.channelID
  readReceiptSourceID :=
    if trimSpace info.readReceiptSourceID = "" then .nil else (parse info.readReceiptSourceID).getD .nil
  editedAt := 0

end Distribution

/-! ## The call -/

section Call

variable (req : Request)

def resolveSender (t : Tables) (info : Meta) : Except PostError (String × String) := do
  checkTimeout req t
  let ident ← required .senderNotFound (if req.faults.sender then none else t.identities.get? req.senderID)
  let localServerName ← required .senderGaiaID (afterLastColon ident.gaiaID)
  checkDevices req t info req.recipientIDs.eraseDups
  return (ident.gaiaID, localServerName)

def deliver (t : Tables) (info : Meta) : Tables × Except PostError UUID :=
  match resolveSender req t info with
  | .error err => (t, .error err)
  | .ok (senderGaia, localServerName) =>
    let (found, result) := distribute req t info senderGaia localServerName req.recipientIDs.eraseDups ⟨"", [], []⟩
    let t := { t with queue := t.queue ++ found.queue }
    match result with
    | .error err => (t, .error err)
    | .ok () =>
      match saveMessageEnvelopeWithInbox req.faults.save req.savedAt t
        (envelope req info senderGaia found.firstRecipientGaia) found.activeRecipients with
      | none => (t, .error .database)
      | some t => (t, .ok req.envelopeID)

/-- `SaveAndDistributeMessage`. -/
def saveAndDistributeMessage (st : Store) : Store × Except PostError UUID :=
  let info := decodeMeta req.envelopeData
  match do checkSender req st.tables; checkRoom req st.tables info st.rooms with
  | .error err => (st, .error err)
  | .ok () =>
    let (tables, result) := deliver req st.tables info
    ({ st with tables := tables }, result)

end Call

/-! ## Authorization -/

/-- The sender may post the envelope in the room. -/
def Allowed (rooms : Table UUID Room) (roomID senderID : UUID) (info : Meta) : Prop :=
  ∃ room ∈ rooms.get? roomID, ∃ member ∈ room.members, member.identityID = senderID ∧
    (room.readOnly = true → isPrivileged member.role = true) ∧
    (room.topSecret = true → info.algorithmSuite = topSecretSuite ∧ info.mldsa87 ≠ "" ∧ info.mldsa87Public ≠ "")

/-- If the call succeeds and the stored envelope names a channel, its sender may post it in the channel's room. -/
def Authorized (req : Request) (st : Store) : Prop :=
  ∀ id e roomID, (saveAndDistributeMessage req st).2 = .ok id →
    (saveAndDistributeMessage req st).1.tables.envelopes.get? id = some e →
    st.channels.get? e.channelID = some roomID → Allowed st.rooms roomID req.senderID (decodeMeta e.payload)

/-- The room reads `room`. -/
def Store.withRoom (st : Store) (roomID : UUID) (room : Room) : Store := { st with rooms := st.rooms.put roomID room }

section Authorization

variable {req : Request} {st : Store}

@[grind =]
theorem ensure_eq_ok {err : PostError} {p : Bool} : ensure err p = .ok () ↔ p = true := by
  unfold ensure
  split
  · rename_i h; simp [h]
  rename_i h; simp [h]

@[grind =]
theorem required_eq_ok {α : Type} {err : PostError} {o : Option α} {a : α} : required err o = .ok a ↔ o = some a := by
  cases o with
  | none | some b => simp [required]

variable {id : UUID}

@[grind →]
theorem saveAndDistributeMessage_ok (h : (saveAndDistributeMessage req st).2 = .ok id) :
    checkSender req st.tables = .ok () ∧
      checkRoom req st.tables (decodeMeta req.envelopeData) st.rooms = .ok () ∧
      (deliver req st.tables (decodeMeta req.envelopeData)).2 = .ok id ∧
      (saveAndDistributeMessage req st).1.tables = (deliver req st.tables (decodeMeta req.envelopeData)).1 := by
  unfold saveAndDistributeMessage at h ⊢
  simp only at h ⊢
  split at h
  · cases h
  rename_i hchecks
  obtain ⟨⟨⟩, hsender, hroom⟩ := bind_eq_ok.1 hchecks
  exact ⟨hsender, hroom, h, rfl⟩

theorem saveAndDistributeMessage_cases (req : Request) (st : Store) :
    (saveAndDistributeMessage req st).1 = st ∨ checkSender req st.tables = .ok () ∧
      (saveAndDistributeMessage req st).1 =
        { st with tables := (deliver req st.tables (decodeMeta req.envelopeData)).1 } := by
  grind [saveAndDistributeMessage]

variable {info : Meta} {t : Tables}

@[grind →]
theorem resolveSender_ok {sender : String × String} (h : resolveSender req t info = .ok sender) :
    ∃ ident, t.identities.get? req.senderID = some ident ∧ sender.1 = ident.gaiaID := by
  obtain ⟨⟨⟩, -, h⟩ := bind_eq_ok.1 h
  obtain ⟨ident, hident, h⟩ := bind_eq_ok.1 h
  obtain ⟨localServerName, -, h⟩ := bind_eq_ok.1 h
  obtain ⟨⟨⟩, -, h⟩ := bind_eq_ok.1 h
  obtain rfl := Except.ok.inj h
  rw [required_eq_ok] at hident
  refine ⟨ident, ?_, rfl⟩
  split at hident
  · cases hident
  exact hident

def delivered (req : Request) (t : Tables) (info : Meta) (senderGaia : String) (found : Distribution) : Tables :=
  Tables.insertMessage { t with queue := t.queue ++ found.queue } req.savedAt
    (envelope req info senderGaia found.firstRecipientGaia) found.activeRecipients

theorem get?_delivered (hfree : t.envelopes.get? req.envelopeID = none) (info : Meta) (senderGaia : String)
    (found : Distribution) (id : UUID) : (delivered req t info senderGaia found).envelopes.get? id =
      if id = req.envelopeID then some ((envelope req info senderGaia found.firstRecipientGaia).row req.savedAt)
      else t.envelopes.get? id := get?_insertMessage hfree ..

theorem deliver_cases (req : Request) (t : Tables) (info : Meta) :
    (∃ queue err, deliver req t info = ({ t with queue := queue }, .error err)) ∨
      ∃ ident localServerName, t.identities.get? req.senderID = some ident ∧ t.envelopes.get? req.envelopeID = none ∧
        deliver req t info = (delivered req t info ident.gaiaID
          (distribute req t info ident.gaiaID localServerName req.recipientIDs.eraseDups ⟨"", [], []⟩).1,
          .ok req.envelopeID) := by
  unfold deliver
  cases hresolve : resolveSender req t info with
  | error err => exact .inl ⟨t.queue, err, rfl⟩
  | ok sender =>
    obtain ⟨ident, hident, hgaia⟩ := resolveSender_ok hresolve
    obtain ⟨senderGaia, localServerName⟩ := sender
    subst hgaia
    simp only
    cases hresult : (distribute req t info ident.gaiaID localServerName req.recipientIDs.eraseDups ⟨"", [], []⟩).2 with
    | error err => exact .inl ⟨_, err, rfl⟩
    | ok =>
      simp only
      split
      · exact .inl ⟨_, .database, rfl⟩
      rename_i t' hsave
      obtain ⟨-, hfree, rfl⟩ := saveMessageEnvelopeWithInbox_eq_some.1 hsave
      exact .inr ⟨ident, localServerName, hident, hfree, rfl⟩

@[grind →]
theorem deliver_ok (h : (deliver req t info).2 = .ok id) :
    ∃ e, (deliver req t info).1.envelopes.get? id = some e ∧ e.payload = req.envelopeData ∧
      e.channelID = info.channelID ∧ e.clientMessageID = (extractMessageProofInput req.envelopeData).2 := by
  obtain ⟨queue, err, hdeliver⟩ | ⟨ident, localServerName, -, hfree, hdeliver⟩ := deliver_cases req t info
  · rw [hdeliver] at h
    cases h
  · rw [hdeliver] at h ⊢
    obtain rfl := Except.ok.inj h
    exact ⟨_, (get?_delivered hfree ..).trans (if_pos rfl), rfl, rfl, rfl⟩

variable {room : Room} {roomID : UUID} {rooms : Table UUID Room}

theorem checkRoom_named
    (hname : parse info.roomID = some roomID) (hread : req.faults.room = false) (hroom : rooms.get? roomID = some room) :
    checkRoom req t info rooms = (room.members.find? fun member => member.identityID = req.senderID).elim
      (.error .notMember) (checkMember req t info room) := by
  have hne : info.roomID ≠ "" := by
    intro hempty
    rw [hempty] at hname
    cases hname
  have hfound : (parse info.roomID).bind (findRoomByID req rooms) = some room := by
    grind [findRoomByID]
  simp only [checkRoom, hne, if_false, hfound]
  cases room.members.find? fun member => member.identityID = req.senderID with
  | none | some member => rfl

theorem allowed_of_checkRoom
    (hname : parse info.roomID = some roomID) (hread : req.faults.room = false) (hroom : rooms.get? roomID = some room)
    (h : checkRoom req t info rooms = .ok ()) : Allowed rooms roomID req.senderID info := by
  rw [checkRoom_named hname hread hroom] at h
  cases hmember : room.members.find? fun member => member.identityID = req.senderID with
  | none =>
    rw [hmember] at h
    cases h
  | some member =>
    rw [hmember] at h
    obtain ⟨⟨⟩, hreadOnly, h⟩ := bind_eq_ok.1 h
    obtain ⟨⟨⟩, hsuite, h⟩ := bind_eq_ok.1 h
    obtain ⟨⟨⟩, hbundle, -⟩ := bind_eq_ok.1 h
    rw [ensure_eq_ok] at hreadOnly hsuite hbundle
    refine ⟨room, hroom, member, List.mem_of_find?_eq_some hmember, by simpa using List.find?_some hmember, ?_, ?_⟩
    · intro hro
      simpa [hro] using hreadOnly
    · intro hts
      simp only [hts, Bool.not_true, Bool.false_or, decide_eq_true_eq, Bool.and_eq_true, ne_eq] at hsuite hbundle
      exact ⟨hsuite, hbundle⟩

theorem checkRoom_withRoom (hunread : ¬ (parse info.roomID = some roomID ∧ req.faults.room = false)) (room : Room) :
    checkRoom req t info (rooms.put roomID room) = checkRoom req t info rooms := by
  have hfound : (parse info.roomID).bind (findRoomByID req (rooms.put roomID room)) =
      (parse info.roomID).bind (findRoomByID req rooms) := by
    cases hname : parse info.roomID with
    | none => rfl
    | some named =>
      grind [findRoomByID]
  simp only [checkRoom, hfound]

/-- A successful call files the envelope under the channel it names; authorization is a matter of that channel's room. -/
theorem authorized_iff (hchannel : st.channels.get? (decodeMeta req.envelopeData).channelID = some roomID) :
    Authorized req st ↔ ∀ id, (saveAndDistributeMessage req st).2 = .ok id →
      Allowed st.rooms roomID req.senderID (decodeMeta req.envelopeData) := by
  constructor
  · grind [Authorized]
  · intro hallowed id e roomID' hok he hchannel'
    obtain ⟨-, -, hdeliver, htables⟩ := saveAndDistributeMessage_ok hok
    obtain ⟨e', he', hpayload, hch, -⟩ := deliver_ok hdeliver
    rw [htables, he', Option.some.injEq] at he
    subst he
    rw [hch] at hchannel'
    obtain rfl := Option.some.inj (hchannel.symm.trans hchannel')
    rw [hpayload]
    exact hallowed id hok

theorem authorized_of_named (hchannel : st.channels.get? (decodeMeta req.envelopeData).channelID = some roomID)
    (hroom : (st.rooms.get? roomID).isSome = true)
    (hname : parse (decodeMeta req.envelopeData).roomID = some roomID) (hread : req.faults.room = false) :
    Authorized req st := by
  grind [Option.isSome_iff_exists, allowed_of_checkRoom, Authorized]

theorem succeeds_withRoom
    (hunread : ¬ (parse (decodeMeta req.envelopeData).roomID = some roomID ∧ req.faults.room = false))
    (hok : (saveAndDistributeMessage req (st.withRoom roomID room)).2 = .ok id) (room' : Room) :
    (saveAndDistributeMessage req (st.withRoom roomID room')).2 = .ok id := by
  grind [Store.withRoom, checkRoom_withRoom, saveAndDistributeMessage]

theorem not_allowed_empty {senderID : UUID} :
    ¬ Allowed (st.withRoom roomID ⟨false, false, 0, []⟩).rooms roomID senderID info := by
  grind [Store.withRoom, Allowed]

/-- An envelope for a channel of a room is authorized exactly if its `room_id` names that room and the room is
read, or the call fails, or the sender happens to be allowed; and it is so whatever the room says exactly if its
`room_id` names that room and the room is read, or the call fails whatever the room says. -/
theorem posting_authorized_iff (req : Request) (st : Store) (roomID : UUID)
    (hchannel : st.channels.get? (decodeMeta req.envelopeData).channelID = some roomID)
    (hroom : (st.rooms.get? roomID).isSome = true) :
    (Authorized req st ↔
      (parse (decodeMeta req.envelopeData).roomID = some roomID ∧ req.faults.room = false) ∨
        (∀ id, (saveAndDistributeMessage req st).2 ≠ .ok id) ∨
        Allowed st.rooms roomID req.senderID (decodeMeta req.envelopeData)) ∧
    ((∀ room, Authorized req (st.withRoom roomID room)) ↔
      (parse (decodeMeta req.envelopeData).roomID = some roomID ∧ req.faults.room = false) ∨
        ∀ room id, (saveAndDistributeMessage req (st.withRoom roomID room)).2 ≠ .ok id) := by
  constructor
  · constructor
    · intro hauth
      by_cases hfails : ∀ id, (saveAndDistributeMessage req st).2 ≠ .ok id
      · exact .inr (.inl hfails)
      · simp only [not_forall, not_not] at hfails
        grind [authorized_iff]
    grind [authorized_of_named, authorized_iff]
  · constructor
    · intro hauth
      by_contra hneither
      rw [not_or] at hneither
      obtain ⟨hunread, hsucceeds⟩ := hneither
      simp only [not_forall, not_not] at hsucceeds
      obtain ⟨room, id, hok⟩ := hsucceeds
      -- a room that is not read may as well be empty
      have hempty := succeeds_withRoom hunread hok ⟨false, false, 0, []⟩
      have hchannel' : (st.withRoom roomID ⟨false, false, 0, []⟩).channels.get? (decodeMeta req.envelopeData).channelID =
          some roomID := hchannel
      grind [not_allowed_empty, authorized_iff]
    · rintro (⟨hname, hread⟩ | hfails) room
      · have hput : ((st.withRoom roomID room).rooms.get? roomID).isSome = true := by
          grind [Store.withRoom]
        exact authorized_of_named hchannel hput hname hread
      · have hchannel' : (st.withRoom roomID room).channels.get? (decodeMeta req.envelopeData).channelID = some roomID :=
          hchannel
        grind [Authorized]

end Authorization

def sampleStore : Store where
  rooms := Table.empty.insertOrIgnore (sampleUUID 7) ⟨true, true, 0, [⟨sampleUUID 1, "owner"⟩]⟩
  channels := Table.empty.insertOrIgnore "c-1" (sampleUUID 7)
  tables := {
    identities := (Table.empty.insertOrIgnore (sampleUUID 1) ⟨sampleUUID 11, "@alice:a.example", "", true⟩).insertOrIgnore
      (sampleUUID 2) ⟨sampleUUID 12, "@mallory:a.example", "", true⟩
    deviceKeys := Table.empty
    contacts := Table.empty
    abuse := ⟨[], Table.empty⟩
    envelopes := Table.empty
    inboxes := []
    states := Table.empty
    queue := [] }

def sampleRequest (envelopeData : String) : Request where
  userID := sampleUUID 12
  senderID := sampleUUID 2
  envelopeData := bytes envelopeData
  recipientIDs := [sampleUUID 1]
  now := 63919886400 * second
  savedAt := 63919886400 * second
  envelopeID := sampleUUID 21
  pduID _ := sampleUUID 22
  verify _ _ _ := false
  faults := ⟨false, false, false, false, false, false, false, false, false, false, false, false, false, false⟩

/-- An envelope that names the channel's room, whatever that room says. -/
theorem authorized_named_room :
    Authorized (sampleRequest "\x7b\"room_id\":\"07000000-0000-0000-0000-000000000000\",\"channel_id\":\"c-1\"\x7d")
        sampleStore ∧
      Authorized (sampleRequest "\x7b\"room_id\":\"07000000-0000-0000-0000-000000000000\",\"channel_id\":\"c-1\"\x7d")
        (sampleStore.withRoom (sampleUUID 7) ⟨false, false, 0, [⟨sampleUUID 2, "member"⟩]⟩) := by
  have hnamed : parse (decodeMeta (sampleRequest
      "\x7b\"room_id\":\"07000000-0000-0000-0000-000000000000\",\"channel_id\":\"c-1\"\x7d").envelopeData).roomID =
        some (sampleUUID 7) := by decide +kernel
  obtain ⟨hhere, hwhatever⟩ := posting_authorized_iff
    (sampleRequest "\x7b\"room_id\":\"07000000-0000-0000-0000-000000000000\",\"channel_id\":\"c-1\"\x7d")
    sampleStore (sampleUUID 7) (by decide +kernel) (by decide +kernel)
  exact ⟨hhere.2 (.inl ⟨hnamed, rfl⟩), hwhatever.2 (.inl ⟨hnamed, rfl⟩) _⟩

/-- An envelope without `room_id` is filed in the channel of a room its sender is no member of. -/
theorem posted_without_room :
    (saveAndDistributeMessage (sampleRequest "\x7b\"channel_id\":\"c-1\"\x7d") sampleStore).2 = .ok (sampleUUID 21) ∧
      sampleStore.channels.get? "c-1" = some (sampleUUID 7) ∧
      ¬ Authorized (sampleRequest "\x7b\"channel_id\":\"c-1\"\x7d") sampleStore := by
  have hok : (saveAndDistributeMessage (sampleRequest "\x7b\"channel_id\":\"c-1\"\x7d") sampleStore).2 =
      .ok (sampleUUID 21) := by decide +kernel
  have hchannel : sampleStore.channels.get? (decodeMeta (bytes "\x7b\"channel_id\":\"c-1\"\x7d")).channelID =
      some (sampleUUID 7) := by decide +kernel
  have hmembers : (sampleStore.rooms.get? (sampleUUID 7)).map Room.members = some [⟨sampleUUID 1, "owner"⟩] := by
    decide +kernel
  refine ⟨hok, by decide +kernel, ?_⟩
  rw [authorized_iff hchannel]
  intro hallowed
  obtain ⟨room, hroom, member, hmember, hid, -⟩ := hallowed _ hok
  rw [Option.mem_def.1 hroom, Option.map_some, Option.some.injEq] at hmembers
  rw [hmembers, List.mem_singleton] at hmember
  rw [hmember] at hid
  exact absurd hid (by decide)

end GaiaCom.Messaging.Posting
