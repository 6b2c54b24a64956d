/-
Blocked senders: the four calls that write contacts or deliver messages, and what a block keeps out of an inbox.

`SaveAndDistributeMessage` looks for a contact of the recipient with the sender's GaiaID as it is spelled, and takes
the first. `EditDirectMessageForUser` and `persistIncomingPDU` do not look at all. So a block keeps its sender out if
posts go to recipients whose contacts for the sender are spelled like the sender and agree, and edits and PDUs come
from senders that are not blocked (`blocked_senders_kept_out`).
-/
import GaiaCom.Messaging.Editing

namespace GaiaCom.Messaging.Blocking

open Lib Core GaiaCom.Store
open Federation.Wire (Bytes bytes ofBytes PDU)
open Posting (Message Tables findIdentityByGaiaID isBlocked isContactBlocked saveMessageEnvelopeWithInbox
  saveMessageEnvelopeWithInbox_eq_some inboxes_insertMessage get?_insertMessage saveAndDistributeMessage)
open Editing (EditRequest editDirectMessageForUser)

/-! ## Federated messages -/

/-- A PDU that has passed the checks, the clock, the id that is drawn, and which statements fail. -/
structure Arrival where
  pdu : PDU
  now : Nat
  id : UUID
  lookupFails : Bool
  saveFails : Bool

inductive PersistError where
  | notFound (destination : Bytes)
  | save
  deriving DecidableEq

def Arrival.message (a : Arrival) : Message where
  id := a.id
  type := ofBytes a.pdu.type
  sender := ofBytes a.pdu.sender
  recipient := ofBytes a.pdu.destination
  payload := a.pdu.payload
  senderIdentityID := .nil
  channelID := ""
  readReceiptSourceID := .nil
  editedAt := 0

/-- `FindIdentityByGaiaID` for the destination. -/
def Arrival.recipient (a : Arrival) (t : Tables) : Option UUID :=
  (findIdentityByGaiaID t.identities (ofBytes a.pdu.destination) fun _ => true).map Prod.fst

/-- `persistIncomingPDU`; a PDU of the social network writes no message. -/
def persistIncomingPDU (a : Arrival) (t : Tables) : Tables × Except PersistError Unit :=
  if (bytes "gsn.").isPrefixOf a.pdu.type then (t, .ok ())
  else
    match if a.lookupFails then none else a.recipient t with
    | none => (t, .error (.notFound a.pdu.destination))
    | some recipientID =>
      match saveMessageEnvelopeWithInbox a.saveFails a.now t a.message [recipientID] with
      | none => (t, .error .save)
      | some t => (t, .ok ())

/-! ## Runs -/

structure State where
  users : List UUID
  store : Posting.Store

def State.tables (s : State) : Tables := s.store.tables

inductive Event where
  | saveContact (c : Mailbox.Call) (contact : Mailbox.MailContact)
  | post (req : Posting.Request)
  | edit (req : EditRequest) (ticks : List Editing.Tick)
  | receive (arrival : Arrival)

def State.withTables (s : State) (t : Tables) : State := { s with store := { s.store with tables := t } }

/-- The contacts after `SaveContact`. -/
def contactsAfter (s : State) (c : Mailbox.Call) (contact : Mailbox.MailContact) : Table UUID Mailbox.ContactRow :=
  match Mailbox.saveContact c s.users s.tables.contacts contact with
  | .error _ => s.tables.contacts
  | .ok contacts => contacts

def step (s : State) : Event → State
  | .saveContact c contact => s.withTables { s.tables with contacts := contactsAfter s c contact }
  | .post req => { s with store := (saveAndDistributeMessage req s.store).1 }
  | .edit req ticks => s.withTables (editDirectMessageForUser req ticks s.tables).1
  | .receive arrival => s.withTables (persistIncomingPDU arrival s.tables).1

def isFor (c : Mailbox.ContactRow) (userID : UUID) (gaiaID : String) : Bool :=
  c.userID = userID && toLower (ofBytes c.gaiaID) = toLower gaiaID

def hasBlocked (t : Tables) (identityID : UUID) (gaiaID : String) : Bool :=
  (t.identities.get? identityID).any fun ident =>
    t.contacts.rows.any fun r => isFor r.2 ident.userID gaiaID && r.2.blocked

/-- The rows of inboxes that the event adds are of senders their identities have not blocked. -/
def KeptOut (s : State) (e : Event) : Prop :=
  ∀ b ∈ (step s e).tables.inboxes.drop s.tables.inboxes.length,
    ∀ env ∈ (step s e).tables.envelopes.get? b.messageID, hasBlocked s.tables b.identityID env.sender = false

instance (s : State) (e : Event) : Decidable (KeptOut s e) :=
  inferInstanceAs (Decidable (∀ b ∈ (step s e).tables.inboxes.drop s.tables.inboxes.length,
    ∀ env ∈ (step s e).tables.envelopes.get? b.messageID, _))

/-- The contacts of the user for the GaiaID are spelled like it and all blocked, or none is blocked. -/
def Uniform (t : Tables) (userID : UUID) (gaiaID : String) : Prop :=
  (∀ r ∈ t.contacts.rows, isFor r.2 userID gaiaID = true → r.2.gaiaID = bytes gaiaID ∧ r.2.blocked = true) ∨
    ∀ r ∈ t.contacts.rows, isFor r.2 userID gaiaID = true → r.2.blocked = false

instance (t : Tables) (userID : UUID) (gaiaID : String) : Decidable (Uniform t userID gaiaID) :=
  inferInstanceAs (Decidable (_ ∨ _))

/-- Posts look the contacts up and find them uniform; edits and PDUs are of senders that are not blocked. -/
def Careful (s : State) : Event → Prop
  | .saveContact _ _ => True
  | .post req => req.faults.contact = false ∧ ∀ sender ∈ s.tables.identities.get? req.senderID,
      ∀ recipientID ∈ req.recipientIDs, ∀ ident ∈ s.tables.identities.get? recipientID,
        Uniform s.tables ident.userID sender.gaiaID
  | .edit req _ => ∀ e ∈ Editing.original req s.tables, hasBlocked s.tables req.identityID e.sender = false ∧
      ∀ r ∈ findIdentityByGaiaID s.tables.identities e.recipient Posting.Identity.isActive,
        hasBlocked s.tables r.1 e.sender = false
  | .receive arrival => ∀ recipientID ∈ arrival.recipient s.tables,
      hasBlocked s.tables recipientID (ofBytes arrival.pdu.sender) = false

instance (s : State) : DecidablePred (Careful s)
  | .saveContact _ _ => .isTrue trivial
  | .post _ => inferInstanceAs (Decidable (_ ∧ _))
  | .edit req _ => inferInstanceAs (Decidable (∀ e ∈ Editing.original req s.tables, _))
  | .receive arrival => inferInstanceAs (Decidable (∀ recipientID ∈ arrival.recipient s.tables, _))

/-! ## What each call delivers -/

section Posts

open Posting

variable {req : Posting.Request} {t : Tables} {info : Meta} {senderGaia localServerName : String} {id : UUID}

/-- The identity is there, and the post's lookup finds no block. -/
def Unblocked (req : Posting.Request) (t : Tables) (senderGaia : String) (id : UUID) : Prop :=
  ∃ ident, t.identities.get? id = some ident ∧ isBlocked req t senderGaia ident.userID = false

theorem distribute_active {recipientIDs : List UUID} {acc : Distribution}
    (h : id ∈ (distribute req t info senderGaia localServerName recipientIDs acc).1.activeRecipients) :
    id ∈ acc.activeRecipients ∨ id ∈ recipientIDs ∧ Unblocked req t senderGaia id := by
  have hlater : ∀ {kept rest : List UUID} {recipientID : UUID},
      id ∈ kept ∨ id ∈ rest ∧ Unblocked req t senderGaia id →
        id ∈ kept ∨ id ∈ recipientID :: rest ∧ Unblocked req t senderGaia id :=
    fun h => h.imp_right fun ⟨hmem, hfree⟩ => ⟨List.mem_cons_of_mem _ hmem, hfree⟩
  have hadded : ∀ {kept rest : List UUID} {recipientID : UUID} {ident : Posting.Identity},
      (if req.faults.recipient then none else t.identities.get? recipientID) = some ident →
      ¬ isBlocked req t senderGaia ident.userID = true →
      id ∈ kept ++ [recipientID] ∨ id ∈ rest ∧ Unblocked req t senderGaia id →
        id ∈ kept ∨ id ∈ recipientID :: rest ∧ Unblocked req t senderGaia id := by
    grind [Unblocked]
  fun_induction distribute with
  | case1 acc => exact .inl h
  | case2 rest acc => exact .inl h
  | case3 recipientID rest acc hid hfound => exact .inl h
  | case4 recipientID rest acc hid ident hfound hblocked ih => exact hlater (ih h)
  | case5 recipientID rest acc hid ident hfound hfree acc' hcolon => exact hadded hfound hfree (.inl h)
  | case6 recipientID rest acc hid ident hfound hfree acc' hlocal ih => exact hadded hfound hfree (ih h)
  | case7 recipientID rest acc hid ident hfound hfree acc' domain hdomain hother hqueue =>
    exact hadded hfound hfree (.inl h)
  | case8 recipientID rest acc hid ident hfound hfree acc' domain hdomain hother hqueue ih =>
    exact hadded hfound hfree (ih h)

/-- A post adds rows for recipients whose lookup finds no block, of a message in the sender's name. -/
theorem deliver_delivers (req : Posting.Request) (t : Tables) (info : Meta) :
    ∃ rows, (deliver req t info).1.inboxes = t.inboxes ++ rows ∧ ∀ b ∈ rows, b.identityID ∈ req.recipientIDs ∧
      ∃ sender env, t.identities.get? req.senderID = some sender ∧
        (deliver req t info).1.envelopes.get? b.messageID = some env ∧ env.sender = sender.gaiaID ∧
        Unblocked req t sender.gaiaID b.identityID := by
  obtain ⟨queue, err, hdeliver⟩ | ⟨ident, localServerName, hident, hfree, hdeliver⟩ := Posting.deliver_cases req t info
  · exact ⟨[], by rw [hdeliver, List.append_nil], nofun⟩
  · rw [hdeliver]
    refine ⟨_, inboxes_insertMessage .., fun b hb => ?_⟩
    obtain ⟨recipientID, hmem, rfl⟩ := List.mem_map.1 hb
    obtain hnil | ⟨hlisted, hunblocked⟩ := distribute_active hmem
    · cases hnil
    · exact ⟨List.mem_eraseDups.1 hlisted, ident, _, hident, (get?_insertMessage hfree ..).trans (if_pos rfl), rfl,
        hunblocked⟩

theorem hasBlocked_of_unblocked {ident : Posting.Identity} (hident : t.identities.get? id = some ident)
    (huniform : Uniform t ident.userID senderGaia)
    (h : isContactBlocked t.contacts ident.userID senderGaia = false) : hasBlocked t id senderGaia = false := by
  rw [hasBlocked, hident, Option.any_some, List.any_eq_false]
  intro r hr hblocked
  rw [Bool.and_eq_true] at hblocked
  rcases huniform with huniform | hnone
  · -- the lookup finds a contact, and that one is blocked too
    obtain ⟨hspelled, -⟩ := huniform r hr hblocked.1
    have huser : r.2.userID = ident.userID := by
      grind [isFor]
    unfold isContactBlocked at h
    generalize hfirst : t.contacts.first? _ _ = found at h
    cases found with
    | none =>
      have hmiss := Table.first?_none hfirst (Table.get?_eq_some.2 hr)
      rw [huser, hspelled] at hmiss
      simp at hmiss
    | some k =>
      obtain ⟨c, hc, hmatch⟩ := Table.first?_some hfirst
      rw [Bool.and_eq_true, decide_eq_true_eq, decide_eq_true_eq] at hmatch
      have hfor : isFor c ident.userID senderGaia = true := by
        grind [isFor]
      have hfound : c.blocked = true := (huniform (k, c) (Table.get?_eq_some.1 hc) hfor).2
      simp [hc, hfound] at h
  grind

end Posts

theorem persistIncomingPDU_delivers (a : Arrival) (t : Tables) :
    ∃ rows, (persistIncomingPDU a t).1.inboxes = t.inboxes ++ rows ∧ ∀ b ∈ rows,
      a.recipient t = some b.identityID ∧ ∃ env, (persistIncomingPDU a t).1.envelopes.get? b.messageID = some env ∧
        env.sender = ofBytes a.pdu.sender := by
  unfold persistIncomingPDU
  split
  · exact ⟨[], by simp, by simp⟩
  split
  · exact ⟨[], by simp, by simp⟩
  rename_i recipientID hfound
  have hrecipient : a.recipient t = some recipientID := by
    grind
  split
  · exact ⟨[], by simp, by simp⟩
  rename_i t' hsave
  obtain ⟨-, hfree, rfl⟩ := saveMessageEnvelopeWithInbox_eq_some.1 hsave
  refine ⟨_, inboxes_insertMessage .., fun b hb => ?_⟩
  obtain rfl := List.mem_singleton.1 hb
  exact ⟨hrecipient, _, (get?_insertMessage hfree ..).trans (if_pos rfl), rfl⟩

/-! ## Blocked senders -/

variable {s : State}

theorem keptOut_of_append {e : Event} {rows : List Mailbox.InboxRow}
    (hrows : (step s e).tables.inboxes = s.tables.inboxes ++ rows)
    (h : ∀ b ∈ rows, ∀ env ∈ (step s e).tables.envelopes.get? b.messageID,
      hasBlocked s.tables b.identityID env.sender = false) : KeptOut s e := by
  grind [KeptOut]

theorem keptOut_post {req : Posting.Request} (h : Careful s (.post req)) : KeptOut s (.post req) := by
  obtain ⟨hlookup, huniform⟩ := h
  rcases Posting.saveAndDistributeMessage_cases req s.store with hsame | ⟨-, hdeliver⟩
  · have hrows : (step s (.post req)).tables.inboxes = s.tables.inboxes ++ [] := by
      simp only [step, State.tables, hsame, List.append_nil]
    exact keptOut_of_append hrows nofun
  · have hstep : (step s (.post req)).tables =
        (Posting.deliver req s.tables (Posting.decodeMeta req.envelopeData)).1 := by
      simp only [step, State.tables, hdeliver]
    obtain ⟨rows, hrows, hnew⟩ := deliver_delivers req s.tables (Posting.decodeMeta req.envelopeData)
    rw [← hstep] at hrows hnew
    refine keptOut_of_append hrows fun b hb env henv => ?_
    obtain ⟨hlisted, sender, env', hsender, henv', hname, ident, hident, hfree⟩ := hnew b hb
    obtain rfl := Option.some.inj (henv'.symm.trans henv)
    grind [hasBlocked_of_unblocked, isBlocked]

theorem keptOut_step {e : Event} (h : Careful s e) : KeptOut s e := by
  cases e with
  | saveContact c contact =>
    have hrows : (step s (.saveContact c contact)).tables.inboxes = s.tables.inboxes ++ [] := by
      simp only [step, State.withTables, State.tables, List.append_nil]
    exact keptOut_of_append hrows nofun
  | post req => exact keptOut_post h
  | edit req ticks =>
    obtain ⟨-, -, rows, hrows, hnew⟩ := Editing.editDirectMessageForUser_spec req ticks s.tables
    refine keptOut_of_append hrows fun b hb env henv => ?_
    obtain ⟨-, e, env', he, henv', hsender, hto⟩ := hnew b hb
    obtain rfl := Option.some.inj (henv'.symm.trans henv)
    obtain ⟨hself, hpeer⟩ := h e he
    rw [hsender]
    rcases hto with hto | hto
    · rw [hto]
      exact hself
    · obtain ⟨r, hr, hid⟩ := Option.map_eq_some_iff.1 hto
      rw [← hid]
      exact hpeer r hr
  | receive a =>
    obtain ⟨rows, hrows, hnew⟩ := persistIncomingPDU_delivers a s.tables
    refine keptOut_of_append hrows fun b hb env henv => ?_
    obtain ⟨hrecipient, env', henv', hsender⟩ := hnew b hb
    obtain rfl := Option.some.inj (henv'.symm.trans henv)
    rw [hsender]
    exact h _ hrecipient

def sampleState : State := ⟨[.ofByte 11, .ofByte 12], ⟨Table.empty, Table.empty, Editing.sampleTables⟩⟩

def sampleBlock (gaiaID : String) : Event :=
  .saveContact ⟨.ofByte 12, 63919886400 * second, .ofByte 41, CaseMap.plain, false, false⟩
    ⟨.nil, gaiaID, "", "", "", "", true, 0⟩

def samplePost : Event :=
  .post { Posting.sampleRequest "\x7b\x7d" with
    userID := .ofByte 11, senderID := .ofByte 1, recipientIDs := [.ofByte 2], envelopeID := .ofByte 51 }

def sampleRevision : Event :=
  .edit Editing.sampleEdit ((List.range 7).map fun n => ⟨63919886460 * second, .ofByte (n + 60).toUInt8, false⟩)

def sampleArrival : Event :=
  .receive ⟨⟨bytes "p-1", bytes "gaia.encrypted.v1", bytes "@e:y", bytes "@b:x", bytes "\x7b\x7d", [],
    0, [], []⟩, 63919886460 * second, .ofByte 71, false, false⟩

end GaiaCom.Messaging.Blocking
