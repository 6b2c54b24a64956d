/-
Read receipts: who writes them (`upsertMessageReadReceipts`), and what the listings of a mailbox
(`FindMailboxMessages`) and of an inbox (`GetInboxForUser`) show of them.

A message that an identity sent is listed as read if there is a receipt for the message it names in
`read_receipt_source_id`. That id is whatever the sender wrote into the envelope. So the listings tell nothing of the
receipts of other people's messages exactly if no listed envelope names such a message (`receipts_undisclosed_iff`).
-/
import GaiaCom.Messaging.Posting
import Mathlib.Data.List.Sort

namespace GaiaCom.Messaging.ReadReceipts

open Lib Core GaiaCom.Store
open Posting (Tables saveAndDistributeMessage decodeMeta)

/-! ## The store -/

/-- A row of message_read_receipts, under message and reader. -/
structure Receipt where
  reader : String
  readAt : String
  createdAt : String

abbrev Receipts := Table (UUID × UUID) Receipt

/-- A row of message_reactions. -/
structure Reaction where
  messageID : UUID
  identityID : UUID
  emoji : String

/-- The messages among `messageIDs` that the identity received from others, with its GaiaID. -/
def receiptInputs (t : Tables) (userID identityID : UUID) (messageIDs : List UUID) : List (UUID × String) :=
  match t.identities.get? identityID with
  | none => []
  | some ident =>
    if ident.userID ≠ userID then []
    else t.envelopes.rows.flatMap fun r =>
      if messageIDs.contains r.1 && toLower r.2.sender ≠ toLower ident.gaiaID then
        (t.inboxes.filter fun b => b.messageID = r.1 && b.identityID = identityID).map fun _ => (r.1, ident.gaiaID)
      else []

/-- `upsertMessageReadReceipts`, of whose INSERTs the first `done` are executed. -/
def upsertMessageReadReceipts (t : Tables) (userID identityID : UUID) (messageIDs : List UUID) (now done : Nat)
    (receipts : Receipts) : Receipts :=
  ((receiptInputs t userID identityID messageIDs).take done).foldl (fun receipts input =>
    receipts.put (input.1, identityID) (match receipts.get? (input.1, identityID) with
      | none => ⟨input.2, formatTime now, formatTime now⟩
      | some receipt => { receipt with readAt := formatTime now })) receipts

/-- The foreign keys of message_read_receipts. -/
def Referential (t : Tables) (receipts : Receipts) : Prop :=
  ∀ messageID identityID receipt, receipts.get? (messageID, identityID) = some receipt →
    (t.envelopes.get? messageID).isSome = true ∧ (t.identities.get? identityID).isSome = true

/-! ## The mailbox -/

structure MailboxQuery where
  folder : String
  text : String
  sender : String
  subject : String
  dateFrom : Nat
  dateTo : Nat
  label : String
  unread : Bool
  starred : Bool
  important : Bool
  limit : Int

def escapeLike (value : List Char) : List Char :=
  value.flatMap fun c => if c = '%' ∨ c = '_' then ['\\', c] else [c]

/-- A row of the join: a message with the GaiaID of the identity, its row in the inbox and its state. -/
structure Joined where
  id : UUID
  envelope : Posting.Envelope
  gaiaID : String
  inbox : Option Mailbox.InboxRow
  state : Option Mailbox.StateRow

def Joined.isSent (j : Joined) : Bool := toLower j.envelope.sender = toLower j.gaiaID

def Joined.folder (j : Joined) : String :=
  (j.state.map Mailbox.StateRow.folder).getD (if j.isSent then "sent" else "inbox")

/-- The identity with all messages; a message that is several times in the inbox is as often in the join. -/
def joined (t : Tables) (userID identityID : UUID) : List Joined :=
  match (t.identities.get? identityID).filter fun ident => ident.userID = userID && ident.isActive with
  | none => []
  | some ident =>
    t.envelopes.rows.flatMap fun r =>
      let inboxes := t.inboxes.filter fun b => b.identityID = identityID && b.messageID = r.1
      (if inboxes = [] then [none] else inboxes.map some).map fun b =>
        ⟨r.1, r.2, ident.gaiaID, b, t.states.get? (userID, identityID, r.1)⟩

def MailboxQuery.searched (k : CaseMap) (q : MailboxQuery) : String :=
  let folder := Mailbox.cleanFolder k q.folder
  if folder = "" then "inbox" else folder

def MailboxQuery.lower (k : CaseMap) (value : String) : List Char := value.toList.map k.lower

def MailboxQuery.accepts (k : CaseMap) (q : MailboxQuery) (j : Joined) : Bool :=
  let folder := q.searched k
  let sender := (toLower j.envelope.sender).toList
  let recipient := (toLower j.envelope.recipient).toList
  let payload := (Utf8.text j.envelope.payload).map lowerChar
  j.envelope.replacedByMessageID = "" && (j.inbox.isSome || j.isSent) &&
    (folder = "all" || j.folder = folder) &&
    (!q.unread || !((j.state.map Mailbox.StateRow.isRead).or (j.inbox.map Mailbox.InboxRow.isRead)).getD false) &&
    (!q.starred || (j.state.map Mailbox.StateRow.isStarred).getD false) &&
    (!q.important || (j.state.map Mailbox.StateRow.isImportant).getD false) &&
    (q.label = "" || containsLike (escapeLike q.label.toList)
      (((j.state.map fun state => Utf8.text state.labels)).getD ['[', ']'])) &&
    (q.sender = "" || containsLike (lower k q.sender) sender) &&
    (q.subject = "" || containsLike (lower k q.subject) payload) &&
    (q.text = "" || containsLike (lower k q.text) sender || containsLike (lower k q.text) recipient ||
      containsLike (lower k q.text) payload) &&
    (q.dateFrom = 0 || formatTime q.dateFrom ≤ j.envelope.createdAt) &&
    (q.dateTo = 0 || j.envelope.createdAt ≤ formatTime q.dateTo)

/-- The newest first. -/
def Newer (a b : Joined) : Prop := b.envelope.createdAt ≤ a.envelope.createdAt

instance : DecidableRel Newer := fun a b => inferInstanceAs (Decidable (b.envelope.createdAt ≤ a.envelope.createdAt))

def selected (k : CaseMap) (t : Tables) (userID identityID : UUID) (q : MailboxQuery) : List Joined :=
  (((joined t userID identityID).filter (q.accepts k)).insertionSort Newer).take
    (if q.limit ≤ 0 ∨ 250 < q.limit then 100 else q.limit.toNat)

/-- Reactions to a message: how many of each kind, and those of the identity. -/
structure ReactionState where
  counts : List (String × Nat)
  mine : List String

/-- `FindMessageReactionsForUser` for one of the messages. -/
def reactionState (reactions : List Reaction) (identityID messageID : UUID) : ReactionState where
  counts :=
    let emojis := (reactions.filter fun r => r.messageID = messageID).map Reaction.emoji
    emojis.eraseDups.map fun emoji => (emoji, emojis.count emoji)
  mine := (reactions.filter fun r => r.messageID = messageID && r.identityID = identityID).map Reaction.emoji

/-- A message of the mailbox, by the columns it is scanned from. -/
structure MailboxMessage where
  id : UUID
  envelope : Posting.Envelope
  folder : String
  isRead : Bool
  delivered : Bool
  isStarred : Bool
  isImportant : Bool
  isSpam : Bool
  isArchived : Bool
  labels : Federation.Wire.Bytes
  snoozedUntil : String
  updatedAt : String
  reactions : ReactionState

def hasReceipt (receipts : Receipts) (sourceID : String) : Bool := receipts.rows.any fun r => r.1.1.text = sourceID

def Joined.isRead (receipts : Receipts) (j : Joined) : Bool :=
  if j.isSent then
    if j.envelope.readReceiptSourceID ≠ "" then hasReceipt receipts j.envelope.readReceiptSourceID
    else (j.state.map Mailbox.StateRow.isRead).getD true
  else ((j.state.map Mailbox.StateRow.isRead).or (j.inbox.map Mailbox.InboxRow.isRead)).getD false

def Joined.message (receipts : Receipts) (reactions : List Reaction) (identityID : UUID) (j : Joined) : MailboxMessage where
  id := j.id
  envelope := j.envelope
  folder := j.folder
  isRead := j.isRead receipts
  delivered := (j.inbox.map Mailbox.InboxRow.delivered).getD j.isSent
  isStarred := (j.state.map Mailbox.StateRow.isStarred).getD false
  isImportant := (j.state.map Mailbox.StateRow.isImportant).getD false
  isSpam := (j.state.map Mailbox.StateRow.isSpam).getD false
  isArchived := (j.state.map Mailbox.StateRow.isArchived).getD false
  labels := (j.state.map Mailbox.StateRow.labels).getD (Federation.Wire.bytes "[]")
  snoozedUntil := (j.state.map Mailbox.StateRow.snoozedUntil).getD ""
  updatedAt := (j.state.map Mailbox.StateRow.updatedAt).getD j.envelope.createdAt
  reactions := reactionState reactions identityID j.id

/-! ## The listings -/

structure State where
  store : Posting.Store
  receipts : Receipts
  reactions : List Reaction

/-- Which queries of a listing fail. -/
structure ListFaults where
  ownership : Bool
  messages : Bool
  envelopes : Bool
  reactions : Bool

inductive ListError where
  | notAuthorized | database
  deriving DecidableEq

section Listings

variable (faults : ListFaults) (userID identityID : UUID) (s : State)

/-- `FindMailboxMessages`. -/
def findMailboxMessages (k : CaseMap) (q : MailboxQuery) : Except ListError (List MailboxMessage) := do
  ensure .database !faults.messages
  let found := selected k s.store.tables userID identityID q
  ensure .database (found.isEmpty || !faults.reactions)
  return found.map (Joined.message s.receipts s.reactions identityID)

/-- A message of the inbox. -/
structure InboxMessage where
  id : UUID
  envelope : Posting.Envelope
  untrusted : Bool
  isRead : Bool
  delivered : Bool
  reactions : ReactionState

/-- `GetInboxForUser`; of several entries for a message the oldest counts. -/
def getInboxForUser : Except ListError (List InboxMessage) := do
  let t := s.store.tables
  ensure .database !faults.ownership
  ensure .notAuthorized ((t.identities.get? identityID).any fun ident => ident.userID = userID && ident.isActive)
  ensure .database !faults.messages
  let entries := t.inboxes.filter fun b => b.identityID = identityID
  if entries = [] then return []
  ensure .database !faults.envelopes
  let envelopes := (t.envelopes.rows.filter fun r =>
    r.2.replacedByMessageID = "" && entries.any fun b => b.messageID = r.1).insertionSort
      fun a b => b.2.createdAt ≤ a.2.createdAt
  ensure .database !faults.reactions
  return envelopes.map fun r =>
    let entry := entries.find? fun b => b.messageID = r.1
    ⟨r.1, r.2, entry.any (·.untrusted), entry.any (·.isRead), entry.any (·.delivered),
      reactionState s.reactions identityID r.1⟩

end Listings

/-! ## What a user may know -/

/-- The envelope is in the name of an identity of the user. -/
def SentBy (t : Tables) (userID : UUID) (e : Posting.Envelope) : Prop :=
  ∃ id ident, t.identities.get? id = some ident ∧ ident.userID = userID ∧ toLower e.sender = toLower ident.gaiaID

/-- The message is in the inbox of an identity of the user. -/
def ReceivedBy (t : Tables) (userID messageID : UUID) : Prop :=
  ∃ b ∈ t.inboxes, b.messageID = messageID ∧ ∃ ident, t.identities.get? b.identityID = some ident ∧ ident.userID = userID

/-- The user sent or received the message. -/
def Concerns (t : Tables) (userID messageID : UUID) : Prop :=
  (∃ e, t.envelopes.get? messageID = some e ∧ SentBy t userID e) ∨ ReceivedBy t userID messageID

/-- If the id is that of a message, then of one of the user's. -/
def NamesOwn (t : Tables) (userID : UUID) (sourceID : String) : Prop :=
  ∀ id, sourceID = id.text → (t.envelopes.get? id).isSome = true → Concerns t userID id

/-- The receipts of the user's messages are the same. -/
def Agree (t : Tables) (userID : UUID) (receipts receipts' : Receipts) : Prop :=
  ∀ messageID identityID, Concerns t userID messageID →
    receipts'.get? (messageID, identityID) = receipts.get? (messageID, identityID)

def post (st : Posting.Store) (req : Posting.Request) : Posting.Store := (saveAndDistributeMessage req st).1

def step (s : State) (req : Posting.Request) : State := { s with store := post s.store req }

/-- After the calls the user's listings are the same, whatever receipts there are of other people's messages. -/
def Undisclosed (k : CaseMap) (userID : UUID) (st : Posting.Store) (reqs : List Posting.Request) : Prop :=
  ∀ reactions receipts receipts', Referential st.tables receipts → Referential st.tables receipts' →
    Agree st.tables userID receipts receipts' → ∀ faults identityID q,
      findMailboxMessages faults userID identityID (exec step ⟨st, receipts', reactions⟩ reqs) k q =
          findMailboxMessages faults userID identityID (exec step ⟨st, receipts, reactions⟩ reqs) k q ∧
        getInboxForUser faults userID identityID (exec step ⟨st, receipts', reactions⟩ reqs) =
          getInboxForUser faults userID identityID (exec step ⟨st, receipts, reactions⟩ reqs)

/-- The call's envelope names no message that is not the user's. -/
def Careful (userID : UUID) (st : Posting.Store) (req : Posting.Request) : Prop :=
  ∀ id, parse (decodeMeta req.envelopeData).readReceiptSourceID = some id →
    (st.tables.envelopes.get? id).isSome = true → Concerns st.tables userID id

/-! ## Writing receipts -/

section Writing

variable {t : Tables} {userID identityID : UUID} {messageIDs : List UUID} {receipts : Receipts}

end Writing

/-! ## The listings and the receipts -/

section Listed

variable {k : CaseMap} {t : Tables} {userID identityID : UUID} {q : MailboxQuery} {j : Joined}
  {receipts receipts' : Receipts}

theorem exec_step (st : Posting.Store) (receipts : Receipts) (reactions : List Reaction) (reqs : List Posting.Request) :
    exec step ⟨st, receipts, reactions⟩ reqs = ⟨exec post st reqs, receipts, reactions⟩ := by
  induction reqs generalizing st <;> grind [step]

theorem findMailboxMessages_answered (s : State) : findMailboxMessages ⟨false, false, false, false⟩ userID identityID s k q =
    .ok ((selected k s.store.tables userID identityID q).map (Joined.message s.receipts s.reactions identityID)) := by
  simp only [findMailboxMessages, ensure, Bool.not_false, Bool.or_true, if_true]
  rfl

theorem isRead_findMailboxMessages (s : State) :
    (findMailboxMessages ⟨false, false, false, false⟩ userID identityID s k q).toOption.map (List.map MailboxMessage.isRead) =
      some ((selected k s.store.tables userID identityID q).map (Joined.isRead s.receipts)) := by
  rw [findMailboxMessages_answered, Except.toOption, Option.map_some, List.map_map]
  simp only [Function.comp_def, Joined.message]

theorem mem_joined (h : j ∈ joined t userID identityID) :
    t.envelopes.get? j.id = some j.envelope ∧
      ∃ ident, t.identities.get? identityID = some ident ∧ ident.userID = userID ∧ j.gaiaID = ident.gaiaID := by
  grind [joined, Option.filter_eq_some_iff]

theorem mem_selected (h : j ∈ selected k t userID identityID q) : j ∈ joined t userID identityID := by
  have hsorted := List.mem_of_mem_take h
  grind [List.mem_insertionSort]

theorem sentBy_of_isSent (h : j ∈ joined t userID identityID) (hsent : j.isSent = true) : SentBy t userID j.envelope := by
  obtain ⟨-, ident, hident, huser, hgaia⟩ := mem_joined h
  refine ⟨identityID, ident, hident, huser, ?_⟩
  rw [← hgaia]
  exact of_decide_eq_true hsent

theorem hasReceipt_iff {sourceID : String} : hasReceipt receipts sourceID = true ↔
    ∃ messageID identityID receipt, receipts.get? (messageID, identityID) = some receipt ∧ messageID.text = sourceID := by
  simp only [hasReceipt, List.any_eq_true, Prod.exists, decide_eq_true_eq, Table.get?_eq_some]

theorem hasReceipt_congr {sourceID : String} (hreceipts : Referential t receipts) (hreceipts' : Referential t receipts')
    (hagree : Agree t userID receipts receipts') (hown : NamesOwn t userID sourceID) :
    hasReceipt receipts' sourceID = hasReceipt receipts sourceID := by
  rw [Bool.eq_iff_iff, hasReceipt_iff, hasReceipt_iff]
  constructor
  · rintro ⟨messageID, identityID, receipt, hget, rfl⟩
    have hconcerns := hown messageID rfl (hreceipts' _ _ _ hget).1
    exact ⟨messageID, identityID, receipt, (hagree messageID identityID hconcerns).symm.trans hget, rfl⟩
  · rintro ⟨messageID, identityID, receipt, hget, rfl⟩
    have hconcerns := hown messageID rfl (hreceipts _ _ _ hget).1
    exact ⟨messageID, identityID, receipt, (hagree messageID identityID hconcerns).trans hget, rfl⟩

theorem message_congr {reactions : List Reaction}
    (h : j.isSent = true → hasReceipt receipts' j.envelope.readReceiptSourceID =
      hasReceipt receipts j.envelope.readReceiptSourceID) :
    j.message receipts' reactions identityID = j.message receipts reactions identityID := by
  have hread : j.isRead receipts' = j.isRead receipts := by
    grind [Joined.isRead]
  unfold Joined.message
  rw [hread]

end Listed

/-! ## Posting -/

section Posting

variable {userID : UUID} {st₀ st : Posting.Store}

/-- The store after posts: the messages of `st₀` are as they were and in no other inbox, and what is in the user's name
names no other message of `st₀` than the user's. -/
structure Inv (userID : UUID) (st₀ st : Posting.Store) : Prop where
  identities : st.tables.identities = st₀.tables.identities
  envelopes : ∀ id e, st₀.tables.envelopes.get? id = some e → st.tables.envelopes.get? id = some e
  inboxes : ∀ id, (st₀.tables.envelopes.get? id).isSome = true → ReceivedBy st.tables userID id →
    ReceivedBy st₀.tables userID id
  own : ∀ id e, st.tables.envelopes.get? id = some e → SentBy st₀.tables userID e →
    NamesOwn st₀.tables userID e.readReceiptSourceID

variable {id : UUID}

theorem Inv.concerns (h : Inv userID st₀ st) (hid : (st₀.tables.envelopes.get? id).isSome = true)
    (hconcerns : Concerns st.tables userID id) : Concerns st₀.tables userID id := by
  obtain ⟨e₀, he₀⟩ := Option.isSome_iff_exists.1 hid
  rcases hconcerns with ⟨e, he, identityID, ident, hident, hsent⟩ | hreceived
  · obtain rfl := Option.some.inj ((h.envelopes id e₀ he₀).symm.trans he)
    exact .inl ⟨e₀, he₀, identityID, ident, by rw [← h.identities]; exact hident, hsent⟩
  · exact .inr (h.inboxes id hid hreceived)

theorem eq_of_uuidStringOrEmpty {value : UUID} (h : Posting.uuidStringOrEmpty value = id.text) :
    value ≠ .nil ∧ value = id := by
  grind [Posting.uuidStringOrEmpty, text_ne_empty, text_injective]

variable {req : Posting.Request}

theorem parse_of_source (info : Posting.Meta) {senderGaia recipientGaia : String} {now : Nat}
    (h : ((Posting.envelope req info senderGaia recipientGaia).row now).readReceiptSourceID = id.text) :
    parse info.readReceiptSourceID = some id := by
  simp only [Posting.Message.row, Posting.envelope] at h
  obtain ⟨hne, hsource⟩ := eq_of_uuidStringOrEmpty h
  split at hsource
  · grind
  rename_i hnamed
  rw [if_neg hnamed] at hne
  cases hparse : parse info.readReceiptSourceID with
  | none => rw [hparse] at hne; exact absurd rfl hne
  | some named => rw [hparse] at hsource; exact congrArg some hsource

theorem inv_delivered {senderGaia : String} {found : Posting.Distribution} (h : Inv userID st₀ st)
    (hcareful : Careful userID st req) (hfree : st.tables.envelopes.get? req.envelopeID = none) :
    Inv userID st₀ { st with
      tables := Posting.delivered req st.tables (decodeMeta req.envelopeData) senderGaia found } := by
  -- the new message is none of the old ones
  have hnew : ∀ id, (st₀.tables.envelopes.get? id).isSome = true → id ≠ req.envelopeID := by
    grind [Option.isSome_iff_exists, h.envelopes]
  constructor
  · exact h.identities
  · grind [Posting.get?_delivered, h.envelopes]
  · rintro id hid ⟨b, hb, hmessage, hreader⟩
    rcases List.mem_append.1 hb with hb | hb
    · exact h.inboxes id hid ⟨b, hb, hmessage, hreader⟩
    · obtain ⟨recipientID, -, rfl⟩ := List.mem_map.1 hb
      exact absurd hmessage.symm (hnew id hid)
  · intro id e he hsent
    rw [Posting.get?_delivered hfree] at he
    split at he
    · obtain rfl := Option.some.inj he
      intro sourceID hsource hexists
      obtain ⟨e₀, he₀⟩ := Option.isSome_iff_exists.1 hexists
      have hconcerns := hcareful sourceID (parse_of_source _ hsource) (by rw [h.envelopes _ e₀ he₀]; rfl)
      exact h.concerns hexists hconcerns
    · exact h.own id e he hsent

theorem inv_post (h : Inv userID st₀ st) (hcareful : Careful userID st req) : Inv userID st₀ (post st req) := by
  unfold post
  rcases Posting.saveAndDistributeMessage_cases req st with hsame | ⟨-, hdeliver⟩
  · rw [hsame]
    exact h
  rw [hdeliver]
  obtain ⟨queue, err, hfailed⟩ | ⟨ident, localServerName, -, hfree, hsaved⟩ :=
    Posting.deliver_cases req st.tables (decodeMeta req.envelopeData)
  · rw [hfailed]
    exact ⟨h.identities, h.envelopes, h.inboxes, h.own⟩
  · rw [hsaved]
    exact inv_delivered h hcareful hfree

theorem identities_post (st : Posting.Store) (req : Posting.Request) :
    (post st req).tables.identities = st.tables.identities := by
  unfold post
  rcases Posting.saveAndDistributeMessage_cases req st with hsame | ⟨-, hdeliver⟩
  · rw [hsame]
  rw [hdeliver]
  obtain ⟨queue, err, hfailed⟩ | ⟨ident, localServerName, -, -, hsaved⟩ :=
    Posting.deliver_cases req st.tables (decodeMeta req.envelopeData)
  · rw [hfailed]
  · rw [hsaved]
    rfl

end Posting

/-! ## Disclosure -/

section Disclosure

variable {k : CaseMap} {userID : UUID} {st : Posting.Store} {reqs : List Posting.Request}

/-- No listed envelope of the user's names another one's message of the store that the calls began with. -/
def ListsOwn (k : CaseMap) (userID : UUID) (st : Posting.Store) (reqs : List Posting.Request) : Prop :=
  ∀ identityID q, ∀ j ∈ selected k (exec post st reqs).tables userID identityID q, j.isSent = true →
    NamesOwn st.tables userID j.envelope.readReceiptSourceID

theorem undisclosed_of_listsOwn (h : ListsOwn k userID st reqs) : Undisclosed k userID st reqs := by
  intro reactions receipts receipts' hreceipts hreceipts' hagree faults identityID q
  rw [exec_step, exec_step]
  refine ⟨?_, rfl⟩
  have hmap : (selected k (exec post st reqs).tables userID identityID q).map
        (Joined.message receipts' reactions identityID) =
      (selected k (exec post st reqs).tables userID identityID q).map
        (Joined.message receipts reactions identityID) := by
    refine List.map_congr_left fun j hj => message_congr fun hsent => ?_
    exact hasReceipt_congr hreceipts hreceipts' hagree (h identityID q j hj hsent)
  simp only [findMailboxMessages, hmap]

theorem listsOwn_of_undisclosed (h : Undisclosed k userID st reqs) : ListsOwn k userID st reqs := by
  intro identityID q j hj hsent id hsource hexists
  by_contra hforeign
  obtain ⟨-, ident, hident, -⟩ := mem_joined (mem_selected hj)
  have hidentities : (exec post st reqs).tables.identities = st.tables.identities :=
    exec_invariant (P := fun st' => st'.tables.identities = st.tables.identities)
      (fun st' req h => (identities_post st' req).trans h) reqs rfl
  rw [hidentities] at hident
  let receipts : Receipts := Table.empty.put (id, identityID) ⟨"", "", ""⟩
  have hempty : Referential st.tables Table.empty := nofun
  have hone : Referential st.tables receipts := by
    grind [Referential]
  have hagree : Agree st.tables userID Table.empty receipts := by
    grind [Agree]
  obtain ⟨hfound, -⟩ := h [] Table.empty receipts hempty hone hagree ⟨false, false, false, false⟩ identityID q
  have hread : j.isRead receipts = j.isRead Table.empty := by
    have hlists := congrArg (fun result => result.toOption.map (List.map MailboxMessage.isRead)) hfound
    grind [exec_step, isRead_findMailboxMessages, List.map_inj_left]
  have hreceipt : hasReceipt receipts id.text = true :=
    hasReceipt_iff.2 ⟨id, identityID, _, (Table.get?_put ..).trans (if_pos rfl), rfl⟩
  grind [hasReceipt, Table.empty, Joined.isRead, text_ne_empty]

theorem listsOwn_of_careful
    (hstored : ∀ id e, st.tables.envelopes.get? id = some e → SentBy st.tables userID e →
      NamesOwn st.tables userID e.readReceiptSourceID) (hcalls : Along post (Careful userID) st reqs) :
    ListsOwn k userID st reqs := by
  intro identityID q j hj hsent
  have hinit : Inv userID st st := ⟨rfl, fun _ _ h => h, fun _ _ h => h, hstored⟩
  have hinv := Along.invariant (P := Inv userID st) (fun st' req h hok => inv_post h hok) hinit hcalls
  have hjoined := mem_selected hj
  obtain ⟨hget, -⟩ := mem_joined hjoined
  have hsentBy := sentBy_of_isSent hjoined hsent
  rw [SentBy, hinv.identities] at hsentBy
  exact hinv.own j.id j.envelope hget hsentBy

end Disclosure

/-- After any calls of `SaveAndDistributeMessage` the listings of a user are the same, whatever receipts there are of
messages that the user neither sent nor received, exactly if no envelope that is listed in the name of one of the user's
identities has such a message for its source; and so it is after calls none of which names one, if no envelope stored
in the user's name did so before. -/
theorem receipts_undisclosed_iff (k : CaseMap) (userID : UUID) (st : Posting.Store) (reqs : List Posting.Request) :
    (Undisclosed k userID st reqs ↔ ListsOwn k userID st reqs) ∧
      ((∀ id e, st.tables.envelopes.get? id = some e → SentBy st.tables userID e →
          NamesOwn st.tables userID e.readReceiptSourceID) →
        Along post (Careful userID) st reqs → Undisclosed k userID st reqs) :=
  ⟨⟨listsOwn_of_undisclosed, undisclosed_of_listsOwn⟩,
    fun hstored hcalls => undisclosed_of_listsOwn (listsOwn_of_careful hstored hcalls)⟩

def sampleStore : Posting.Store where
  rooms := Table.empty
  channels := Table.empty
  tables := {
    identities := (Table.empty.insertOrIgnore (.ofByte 1) ⟨.ofByte 11, "@a:x", "", true⟩).insertOrIgnore
      (.ofByte 2) ⟨.ofByte 12, "@b:x", "", true⟩
    deviceKeys := Table.empty
    contacts := Table.empty
    abuse := ⟨[], Table.empty⟩
    envelopes := Table.empty.insertOrIgnore (.ofByte 21)
      ⟨"gaia.encrypted.v1", "@c:y", "@a:x", [], "", "", "", "", "", "", "2026-07-17T12:00:00Z"⟩
    inboxes := [⟨.ofByte 1, .ofByte 21, false, true, false⟩]
    states := Table.empty
    queue := [] }

def samplePost (envelopeData : String) : Posting.Request :=
  { Posting.sampleRequest envelopeData with
    userID := .ofByte 12
    senderID := .ofByte 2
    recipientIDs := [.ofByte 2]
    envelopeID := .ofByte 22 }

def sampleQuery : MailboxQuery := ⟨"all", "", "", "", 0, 0, "", false, false, false, 0⟩

theorem own_posts_undisclosed : Undisclosed CaseMap.plain (.ofByte 12) sampleStore [samplePost "\x7b\x7d"] := by
  refine (receipts_undisclosed_iff CaseMap.plain (.ofByte 12) sampleStore [samplePost "\x7b\x7d"]).2 ?_ ⟨?_, trivial⟩
  · intro id e he _ sourceID hsource
    have hnone : ∀ r ∈ sampleStore.tables.envelopes.rows, r.2.readReceiptSourceID = "" := by decide +kernel
    rw [hnone (id, e) (Table.get?_eq_some.1 he)] at hsource
    exact absurd hsource.symm (text_ne_empty sourceID)
  · intro id hid
    have hnone : parse (decodeMeta (samplePost "\x7b\x7d").envelopeData).readReceiptSourceID = none := by decide +kernel
    rw [hnone] at hid
    cases hid

def sampleReceipts : Receipts :=
  Table.empty.put (.ofByte 21, .ofByte 1) ⟨"@a:x", "2026-07-17T12:00:00Z", "2026-07-17T12:00:00Z"⟩

theorem sample_foreign : ¬ Concerns sampleStore.tables (.ofByte 12) (.ofByte 21) := by
  have hsender : ∀ e ∈ sampleStore.tables.envelopes.get? (.ofByte 21), ∀ r ∈ sampleStore.tables.identities.rows,
      r.2.userID = .ofByte 12 → toLower e.sender ≠ toLower r.2.gaiaID := by decide +kernel
  have hrecipient : ∀ b ∈ sampleStore.tables.inboxes, ∀ r ∈ sampleStore.tables.identities.rows,
      r.1 = b.identityID → r.2.userID ≠ .ofByte 12 := by decide +kernel
  rintro (⟨e, he, id, ident, hident, huser, hsent⟩ | ⟨b, hb, -, ident, hident, huser⟩)
  · exact hsender e he (id, ident) (Table.get?_eq_some.1 hident) huser hsent
  · exact hrecipient b hb (b.identityID, ident) (Table.get?_eq_some.1 hident) rfl huser

def sampleCalls : List Posting.Request :=
  [samplePost "\x7b\"read_receipt_source_id\":\"15000000-0000-0000-0000-000000000000\"\x7d"]

/-- The second user names the first one's message, and is shown whether it has been read. -/
theorem receipt_disclosed :
    Referential sampleStore.tables sampleReceipts ∧ Agree sampleStore.tables (.ofByte 12) Table.empty sampleReceipts ∧
      (findMailboxMessages ⟨false, false, false, false⟩ (.ofByte 12) (.ofByte 2)
        (exec step ⟨sampleStore, Table.empty, []⟩ sampleCalls) CaseMap.plain sampleQuery).toOption.map
          (List.map MailboxMessage.isRead) = some [false] ∧
      (findMailboxMessages ⟨false, false, false, false⟩ (.ofByte 12) (.ofByte 2)
        (exec step ⟨sampleStore, sampleReceipts, []⟩ sampleCalls) CaseMap.plain sampleQuery).toOption.map
          (List.map MailboxMessage.isRead) = some [true] := by
  have hshown : (selected CaseMap.plain (exec post sampleStore sampleCalls).tables (.ofByte 12) (.ofByte 2) sampleQuery).map
        (Joined.isRead Table.empty) = [false] ∧
      (selected CaseMap.plain (exec post sampleStore sampleCalls).tables (.ofByte 12) (.ofByte 2) sampleQuery).map
        (Joined.isRead sampleReceipts) = [true] := by decide +kernel
  refine ⟨?_, ?_, ?_, ?_⟩
  · intro messageID identityID receipt hget
    rw [sampleReceipts, Table.get?_put] at hget
    split at hget
    · rename_i heq
      obtain ⟨rfl, rfl⟩ := Prod.mk.inj heq
      exact ⟨rfl, rfl⟩
    · cases hget
  · grind [sampleReceipts, sample_foreign, Agree]
  · rw [exec_step, isRead_findMailboxMessages, hshown.1]
  · rw [exec_step, isRead_findMailboxMessages, hshown.2]

end GaiaCom.Messaging.ReadReceipts
