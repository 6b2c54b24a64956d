/-
Deleting messages: `DeleteInboxMessageForUser` and `ClearInboxConversationForUser`, the service's
checks and the store's six DELETE statements. Every statement but one names the caller's identity
in its condition. The exception clears a channel for everyone: its condition asks only that the
caller's identity exists. So a call touches nothing but the caller's messages exactly if it is not
such a call, or every message of the channel is the caller's (`deletion_framed_iff`).
-/
import GaiaCom.Lib.Table
import GaiaCom.Lib.Text

namespace GaiaCom.Messaging

open Lib

/-! ## The store -/

structure Identity where
  userID : String
  gaiaID : String
  isActive : Bool

/-- What the statements look at of a row of message_envelopes. -/
structure Envelope where
  sender : String
  recipient : String
  clientMessageID : String
  channelID : String
  deriving DecidableEq

/-- A row of inboxes. -/
structure Inbox where
  identityID : String
  messageID : String
  deriving DecidableEq

structure Store where
  identities : Table String Identity
  envelopes : Table String Envelope
  inboxes : Table Nat Inbox

/-- `DELETE FROM message_envelopes WHERE p`; the foreign key takes the inbox rows along. -/
def Store.deleteEnvelopes (s : Store) (p : String → Envelope → Bool) : Store :=
  { s with
    envelopes := s.envelopes.deleteWhere p
    inboxes := s.inboxes.deleteWhere fun _ b => (s.envelopes.get? b.messageID).any (p b.messageID) }

/-- `DELETE FROM inboxes WHERE p` -/
def Store.deleteInboxes (s : Store) (p : Nat → Inbox → Bool) : Store := { s with inboxes := s.inboxes.deleteWhere p }

/-- `EXISTS (SELECT 1 FROM identities i WHERE i.id = ? AND i.user_id = ? AND p)` -/
def Store.ownIdentity (s : Store) (userID identityID : String) (p : Identity → Bool) : Bool :=
  (s.identities.get? identityID).any fun i => i.userID = userID && p i

/-! ## The functions -/

inductive DeletionError where
  | notAuthorized
  | selectorRequired
  | selectorTooLarge
  | noRows
  | database
  deriving DecidableEq

/-- Which statements the database fails: the ownership query, and the two of the store function. -/
structure Faults where
  ownership : Bool
  first : Bool
  second : Bool

section Statements

variable (f : Faults) (userID identityID : String)

def sameMessage (clientMessageID : String) (selected : Envelope) (_ : String) (e : Envelope) : Bool :=
  e.clientMessageID = clientMessageID &&
    (((toLower e.sender = toLower selected.sender && toLower e.recipient = toLower selected.recipient) ||
      (toLower e.sender = toLower selected.recipient && toLower e.recipient = toLower selected.sender)) &&
    e.channelID = selected.channelID)

/-- The branch `forEveryone` of the store's `DeleteInboxMessageForUser`. -/
def deleteForEveryone (messageID : String) (s : Store) : Store × Except DeletionError Unit :=
  if f.first then (s, .error .database)
  else
    match (s.envelopes.get? messageID).filter fun e => s.ownIdentity userID identityID fun i =>
      toLower e.sender = toLower i.gaiaID || toLower e.recipient = toLower i.gaiaID with
    | none => (s, .error .noRows)
    | some selected =>
      if f.second then (s, .error .database)
      else if trimSpace selected.clientMessageID ≠ "" then
        (s.deleteEnvelopes (sameMessage (trimSpace selected.clientMessageID) selected), .ok ())
      else
        (s.deleteEnvelopes fun id _ => id = messageID,
          if s.envelopes.countWhere (fun id _ => id = messageID) = 1 then .ok () else .error .noRows)

def deleteForCaller (messageID : String) (s : Store) : Store × Except DeletionError Unit :=
  let p : Nat → Inbox → Bool := fun _ b =>
    b.identityID = identityID && (b.messageID = messageID && s.ownIdentity userID b.identityID fun _ => true)
  if f.first then (s, .error .database)
  else (s.deleteInboxes p, if s.inboxes.countWhere p = 1 then .ok () else .error .noRows)

def sentByCaller (messageIDs : List String) (s : Store) (id : String) (e : Envelope) : Bool :=
  messageIDs.contains id && s.ownIdentity userID identityID fun i => e.sender = i.gaiaID

/-- The second statement of `forEveryone`: a whole channel, or a conversation with one peer. -/
def clearedForEveryone (peerGaiaID channelID : String) (s : Store) (_ : String) (e : Envelope) : Bool :=
  s.ownIdentity userID identityID fun i =>
    if channelID ≠ "" then e.channelID = channelID
    else
      (toLower e.sender = toLower i.gaiaID && toLower e.recipient = toLower peerGaiaID) ||
        (toLower e.sender = toLower peerGaiaID && toLower e.recipient = toLower i.gaiaID)

/-- The branch `forEveryone` of the store's `ClearInboxConversationForUser`; an error of the first
statement is ignored. -/
def clearForEveryone (peerGaiaID channelID : String) (messageIDs : List String) (s : Store) :
    Store × Except DeletionError Nat :=
  let skip := messageIDs = [] || f.first
  let deleted := if skip then 0 else s.envelopes.countWhere (sentByCaller userID identityID messageIDs s)
  let s := if skip then s else s.deleteEnvelopes (sentByCaller userID identityID messageIDs s)
  if f.second then (s, .error .database)
  else (s.deleteEnvelopes (clearedForEveryone userID identityID peerGaiaID channelID s),
    .ok (deleted + s.envelopes.countWhere (clearedForEveryone userID identityID peerGaiaID channelID s)))

def clearedForCaller (peerGaiaID channelID : String) (s : Store) (_ : Nat) (b : Inbox) : Bool :=
  b.identityID = identityID && (s.ownIdentity userID b.identityID (fun _ => true) &&
    (s.envelopes.get? b.messageID).any fun e =>
      if channelID ≠ "" then e.channelID = channelID
      else toLower e.sender = toLower peerGaiaID || toLower e.recipient = toLower peerGaiaID)

/-- The other branch of the store's `ClearInboxConversationForUser`. -/
def clearForCaller (peerGaiaID channelID : String) (messageIDs : List String) (s : Store) :
    Store × Except DeletionError Nat :=
  let p : Nat → Inbox → Bool := fun _ b => b.identityID = identityID && messageIDs.contains b.messageID
  let skip := messageIDs = [] || f.first
  let deleted := if skip then 0 else s.inboxes.countWhere p
  let s := if skip then s else s.deleteInboxes p
  if f.second then (s, .error .database)
  else (s.deleteInboxes (clearedForCaller userID identityID peerGaiaID channelID s),
    .ok (deleted + s.inboxes.countWhere (clearedForCaller userID identityID peerGaiaID channelID s)))

/-- `IdentityBelongsToUser`, without its error. -/
def identityBelongsToUser (s : Store) : Bool := s.ownIdentity userID identityID fun i => i.isActive

def deleteInboxMessageForUser (messageID : String) (forEveryone : Bool) (s : Store) : Store × Except DeletionError Unit :=
  if f.ownership then (s, .error .database)
  else if identityBelongsToUser userID identityID s = false then (s, .error .notAuthorized)
  else if forEveryone then deleteForEveryone f userID identityID messageID s
  else deleteForCaller f userID identityID messageID s

def clearInboxConversationForUser (peerGaiaID channelID : String) (forEveryone : Bool) (messageIDs : List String)
    (s : Store) : Store × Except DeletionError Nat :=
  if f.ownership then (s, .error .database)
  else if identityBelongsToUser userID identityID s = false then (s, .error .notAuthorized)
  else if trimSpace peerGaiaID = "" ∧ trimSpace channelID = "" ∧ messageIDs = [] then (s, .error .selectorRequired)
  else if 256 < len (trimSpace peerGaiaID) ∨ 128 < len (trimSpace channelID) then (s, .error .selectorTooLarge)
  else if forEveryone then clearForEveryone f userID identityID (trimSpace peerGaiaID) (trimSpace channelID) messageIDs s
  else clearForCaller f userID identityID (trimSpace peerGaiaID) (trimSpace channelID) messageIDs s

end Statements

/-- A call of either function. -/
inductive Request where
  | delete (messageID : String) (forEveryone : Bool)
  | clear (peerGaiaID channelID : String) (forEveryone : Bool) (messageIDs : List String)

def perform (f : Faults) (userID identityID : String) (r : Request) (s : Store) : Store × Except DeletionError Nat :=
  match r with
  | .delete messageID forEveryone =>
    let (s, result) := deleteInboxMessageForUser f userID identityID messageID forEveryone s
    (s, result.map fun _ => 0)
  | .clear peerGaiaID channelID forEveryone messageIDs =>
    clearInboxConversationForUser f userID identityID peerGaiaID channelID forEveryone messageIDs s

/-! ## What a call may touch -/

/-- The message was sent by or to the identity, up to case. -/
def Envelope.Involves (e : Envelope) (i : Identity) : Prop :=
  toLower e.sender = toLower i.gaiaID ∨ toLower e.recipient = toLower i.gaiaID

/-- All rows are still there. -/
def NoneDeleted (s s' : Store) : Prop :=
  (∀ id e, s.envelopes.get? id = some e → s'.envelopes.get? id = some e) ∧
    ∀ id b, s.inboxes.get? id = some b → s'.inboxes.get? id = some b

/-- Rows were deleted and nothing else was done. -/
structure Shrinks (s s' : Store) : Prop where
  identities : s'.identities = s.identities
  envelopes : ∀ id e, s'.envelopes.get? id = some e → s.envelopes.get? id = some e
  inboxes : ∀ id b, s'.inboxes.get? id = some b → s.inboxes.get? id = some b
  unchanged : NoneDeleted s s' → s' = s

/-- Only messages the identity sent or received were deleted, and of the inbox rows only its own,
besides those that went with their message. -/
structure Framed (identityID : String) (s s' : Store) : Prop where
  envelopes : ∀ id e, s.envelopes.get? id = some e → s'.envelopes.get? id = none →
    ∃ i, s.identities.get? identityID = some i ∧ e.Involves i
  inboxes : ∀ id b, s.inboxes.get? id = some b → s'.inboxes.get? id = none →
    b.identityID = identityID ∨ ((s.envelopes.get? b.messageID).isSome ∧ s'.envelopes.get? b.messageID = none)

namespace Shrinks

theorem refl (s : Store) : Shrinks s s := ⟨rfl, fun _ _ h => h, fun _ _ h => h, fun _ => rfl⟩

theorem trans {a b c : Store} (h : Shrinks a b) (h' : Shrinks b c) : Shrinks a c where
  identities := h'.identities.trans h.identities
  envelopes id e he := h.envelopes id e (h'.envelopes id e he)
  inboxes id x hx := h.inboxes id x (h'.inboxes id x hx)
  unchanged hn := by
    -- what is left at the end was left halfway
    have hab : b = a := h.unchanged
      ⟨fun id e he => h'.envelopes id e (hn.1 id e he), fun id x hx => h'.inboxes id x (hn.2 id x hx)⟩
    subst hab
    exact h'.unchanged hn

theorem deleteEnvelopes (s : Store) (p : String → Envelope → Bool) : Shrinks s (s.deleteEnvelopes p) where
  identities := rfl
  envelopes id e he := by
    simp only [Store.deleteEnvelopes, Table.get?_deleteWhere, Option.filter_eq_some_iff] at he
    exact he.1
  inboxes id b hb := by
    simp only [Store.deleteEnvelopes, Table.get?_deleteWhere, Option.filter_eq_some_iff] at hb
    exact hb.1
  unchanged hn := by
    unfold Store.deleteEnvelopes
    rw [Table.deleteWhere_eq_self (Table.kept_deleteWhere hn.1), Table.deleteWhere_eq_self (Table.kept_deleteWhere hn.2)]

theorem deleteInboxes (s : Store) (p : Nat → Inbox → Bool) : Shrinks s (s.deleteInboxes p) where
  identities := rfl
  envelopes _ _ he := he
  inboxes id b hb := by
    simp only [Store.deleteInboxes, Table.get?_deleteWhere, Option.filter_eq_some_iff] at hb
    exact hb.1
  unchanged hn := by
    unfold Store.deleteInboxes
    rw [Table.deleteWhere_eq_self (Table.kept_deleteWhere hn.2)]

end Shrinks

namespace Framed

variable {identityID : String}

theorem refl (s : Store) : Framed identityID s s where
  envelopes id e he hn := by rw [he] at hn; cases hn
  inboxes id b hb hn := by rw [hb] at hn; cases hn

theorem trans {a b c : Store} (hs : Shrinks a b) (h : Framed identityID a b) (hs' : Shrinks b c)
    (h' : Framed identityID b c) : Framed identityID a c := by
  constructor
  · intro id e he hn
    cases hb : b.envelopes.get? id with
    | none => exact h.envelopes id e he hb
    | some e' =>
      grind [hs.envelopes, hs.identities, h'.envelopes]
  · intro id x hx hn
    cases hb : b.inboxes.get? id with
    | none =>
      -- gone in the first half, and its message does not come back
      refine (h.inboxes id x hx hb).imp_right fun hgone => ⟨hgone.1, ?_⟩
      cases hc : c.envelopes.get? x.messageID with
      | none => rfl
      | some e => grind [hs'.envelopes]
    | some x' =>
      grind [hs.inboxes, h'.inboxes, Option.isSome_iff_exists, hs.envelopes]

theorem deleteEnvelopes {s : Store} {p : String → Envelope → Bool}
    (hp : ∀ id e, s.envelopes.get? id = some e → p id e = true →
      ∃ i, s.identities.get? identityID = some i ∧ e.Involves i) : Framed identityID s (s.deleteEnvelopes p) := by
  constructor
  · grind [Store.deleteEnvelopes, Table.get?_deleteWhere]
  · intro id b hb hn
    simp only [Store.deleteEnvelopes, Table.get?_deleteWhere, hb, Option.filter_some] at hn ⊢
    right
    cases he : s.envelopes.get? b.messageID with
    | none => simp [he] at hn
    | some e =>
      grind

theorem deleteInboxes {s : Store} {p : Nat → Inbox → Bool}
    (hp : ∀ id b, p id b = true → b.identityID = identityID) : Framed identityID s (s.deleteInboxes p) := by
  grind [Store.deleteInboxes, Table.get?_deleteWhere, Framed]

end Framed

/-! ## Each branch -/

variable {f : Faults} {userID identityID : String}

theorem ownIdentity_iff {s : Store} {p : Identity → Bool} :
    s.ownIdentity userID identityID p = true ↔
      ∃ i, s.identities.get? identityID = some i ∧ i.userID = userID ∧ p i = true := by
  simp [Store.ownIdentity, Option.any_eq_true]

theorem deleteForEveryone_spec (messageID : String) (s : Store) :
    Shrinks s (deleteForEveryone f userID identityID messageID s).1 ∧
      Framed identityID s (deleteForEveryone f userID identityID messageID s).1 := by
  unfold deleteForEveryone
  split
  · exact ⟨.refl s, .refl s⟩
  split
  · exact ⟨.refl s, .refl s⟩
  rename_i selected hsel
  rw [Option.filter_eq_some_iff] at hsel
  obtain ⟨hget, hown⟩ := hsel
  obtain ⟨i, hi, -, hinv⟩ := ownIdentity_iff.1 hown
  simp only [Bool.or_eq_true, decide_eq_true_eq] at hinv
  split
  · exact ⟨.refl s, .refl s⟩
  split
  · -- the deleted rows are between the parties of the selected one
    refine ⟨.deleteEnvelopes s _, .deleteEnvelopes fun id e he hp => ⟨i, hi, ?_⟩⟩
    simp only [sameMessage, Bool.and_eq_true, Bool.or_eq_true, decide_eq_true_eq] at hp
    obtain ⟨-, ⟨hs, hr⟩ | ⟨hs, hr⟩, -⟩ := hp
    · exact hinv.imp hs.trans hr.trans
    · exact hinv.symm.imp hs.trans hr.trans
  · refine ⟨.deleteEnvelopes s _, .deleteEnvelopes fun id e he hp => ⟨i, hi, ?_⟩⟩
    rw [of_decide_eq_true hp, hget] at he
    cases he
    exact hinv

theorem deleteForCaller_spec (messageID : String) (s : Store) :
    Shrinks s (deleteForCaller f userID identityID messageID s).1 ∧
      Framed identityID s (deleteForCaller f userID identityID messageID s).1 := by
  unfold deleteForCaller
  split
  · exact ⟨.refl s, .refl s⟩
  refine ⟨.deleteInboxes s _, .deleteInboxes fun id b hp => ?_⟩
  grind

theorem clearForCaller_spec (peerGaiaID channelID : String) (messageIDs : List String) (s : Store) :
    Shrinks s (clearForCaller f userID identityID peerGaiaID channelID messageIDs s).1 ∧
      Framed identityID s (clearForCaller f userID identityID peerGaiaID channelID messageIDs s).1 := by
  unfold clearForCaller
  have hfirst : ∀ p : Nat → Inbox → Bool, (∀ id b, p id b = true → b.identityID = identityID) → ∀ skip : Bool,
      Shrinks s (if skip then s else s.deleteInboxes p) ∧ Framed identityID s (if skip then s else s.deleteInboxes p) := by
    intro p hp skip
    cases skip with
    | true => exact ⟨.refl s, .refl s⟩
    | false => exact ⟨.deleteInboxes s p, .deleteInboxes hp⟩
  obtain ⟨hs, hf⟩ := hfirst (fun _ b => b.identityID = identityID && messageIDs.contains b.messageID)
    (fun id b hp => by grind)
    (messageIDs = [] || f.first)
  simp only
  split
  · exact ⟨hs, hf⟩
  refine ⟨hs.trans (.deleteInboxes _ _), hf.trans hs (.deleteInboxes _ _) (.deleteInboxes fun id b hp => ?_)⟩
  grind [clearedForCaller]

theorem sentByCaller_spec (messageIDs : List String) (skip : Bool) (s : Store) :
    Shrinks s (if skip then s else s.deleteEnvelopes (sentByCaller userID identityID messageIDs s)) ∧
      Framed identityID s (if skip then s else s.deleteEnvelopes (sentByCaller userID identityID messageIDs s)) := by
  cases skip with
  | true => exact ⟨.refl s, .refl s⟩
  | false =>
    refine ⟨.deleteEnvelopes s _, .deleteEnvelopes fun id e he hp => ?_⟩
    simp only [sentByCaller, Bool.and_eq_true] at hp
    obtain ⟨i, hi, -, hsent⟩ := ownIdentity_iff.1 hp.2
    exact ⟨i, hi, .inl (congrArg toLower (of_decide_eq_true hsent))⟩

theorem clearForEveryone_shrinks (peerGaiaID channelID : String) (messageIDs : List String) (s : Store) :
    Shrinks s (clearForEveryone f userID identityID peerGaiaID channelID messageIDs s).1 := by
  obtain ⟨hs, -⟩ := @sentByCaller_spec userID identityID messageIDs (messageIDs = [] || f.first) s
  unfold clearForEveryone
  simp only
  split
  · exact hs
  exact hs.trans (.deleteEnvelopes _ _)

/-- Clearing for everyone is framed if no channel is given, or the channel holds no foreign message. -/
theorem clearForEveryone_framed (peerGaiaID channelID : String) (messageIDs : List String) (s : Store)
    (h : f.second = false → channelID ≠ "" → ∀ id e, s.envelopes.get? id = some e → e.channelID = channelID →
      ∃ i, s.identities.get? identityID = some i ∧ e.Involves i) :
    Framed identityID s (clearForEveryone f userID identityID peerGaiaID channelID messageIDs s).1 := by
  obtain ⟨hs, hf⟩ := @sentByCaller_spec userID identityID messageIDs (messageIDs = [] || f.first) s
  unfold clearForEveryone
  simp only
  split
  · exact hf
  rename_i hsecond
  refine hf.trans hs (.deleteEnvelopes _ _) (.deleteEnvelopes fun id e he hp => ?_)
  obtain ⟨i, hi, -, hcase⟩ := ownIdentity_iff.1 hp
  rw [hs.identities] at hi ⊢
  split at hcase
  · rename_i hchannel
    exact h (by simpa using hsecond) hchannel id e (hs.envelopes id e he) (of_decide_eq_true hcase)
  grind [Envelope.Involves]

/-- With a channel given and the second statement executed, every message of the channel is gone. -/
theorem clearForEveryone_channel (peerGaiaID : String) {channelID : String} (messageIDs : List String) {s : Store}
    (hown : s.ownIdentity userID identityID (fun _ => true) = true) (hsecond : f.second = false) (hchannel : channelID ≠ "")
    {id : String} {e : Envelope} (he : s.envelopes.get? id = some e) (hin : e.channelID = channelID) :
    (clearForEveryone f userID identityID peerGaiaID channelID messageIDs s).1.envelopes.get? id = none := by
  obtain ⟨hs, -⟩ := @sentByCaller_spec userID identityID messageIDs (messageIDs = [] || f.first) s
  unfold clearForEveryone
  simp only [hsecond, Bool.false_eq_true, if_false]
  generalize (if (messageIDs = [] || f.first) = true then s
    else s.deleteEnvelopes (sentByCaller userID identityID messageIDs s)) = s₁ at hs
  cases h₁ : s₁.envelopes.get? id with
  | none => simp [Store.deleteEnvelopes, h₁]
  | some e₁ =>
    have hsame := hs.envelopes id e₁ h₁
    rw [he] at hsame
    cases hsame
    have hcleared : clearedForEveryone userID identityID peerGaiaID channelID s₁ id e = true := by
      grind [ownIdentity_iff, hs.identities, clearedForEveryone]
    simp [Store.deleteEnvelopes, h₁, hcleared]

/-! ## When deletion is framed -/

def clearsChannel (f : Faults) (userID identityID : String) (s : Store) : Request → Option String
  | .clear peerGaiaID channelID true _ =>
    if f.ownership = false ∧ identityBelongsToUser userID identityID s = true ∧ trimSpace channelID ≠ "" ∧
      len (trimSpace peerGaiaID) ≤ 256 ∧ len (trimSpace channelID) ≤ 128 ∧ f.second = false
    then some (trimSpace channelID)
    else none
  | _ => none

theorem perform_shrinks (f : Faults) (userID identityID : String) (r : Request) (s : Store) :
    Shrinks s (perform f userID identityID r s).1 := by
  cases r with
  | delete messageID forEveryone =>
    simp only [perform]
    fun_cases deleteInboxMessageForUser <;> try exact .refl s
    · exact (deleteForEveryone_spec messageID s).1
    · exact (deleteForCaller_spec messageID s).1
  | clear peerGaiaID channelID forEveryone messageIDs =>
    simp only [perform]
    fun_cases clearInboxConversationForUser <;> try exact .refl s
    · exact clearForEveryone_shrinks _ _ _ s
    · exact (clearForCaller_spec _ _ _ s).1

/-- The frame of message deletion: for every store, user, identity and arguments, and whichever
statements the database fails, the call deletes only messages its identity sent or received and
directly only inbox rows of its identity, and changes nothing if it fails without deleting, if
and only if it clears no channel for everyone that holds a message the identity neither sent nor
received. -/
theorem deletion_framed_iff (f : Faults) (userID identityID : String) (r : Request) (s : Store) :
    (Framed identityID s (perform f userID identityID r s).1 ∧
      ∀ e, (perform f userID identityID r s).2 = .error e → NoneDeleted s (perform f userID identityID r s).1 →
        (perform f userID identityID r s).1 = s) ↔
    ∀ channelID, clearsChannel f userID identityID s r = some channelID → ∀ id e, s.envelopes.get? id = some e →
      e.channelID = channelID → ∃ i, s.identities.get? identityID = some i ∧ e.Involves i := by
  constructor
  · rintro ⟨hf, -⟩ channelID hclears id e he hin
    refine hf.envelopes id e he ?_
    unfold clearsChannel at hclears
    split at hclears
    · rename_i peerGaiaID channel messageIDs
      split at hclears
      · rename_i hruns
        obtain ⟨hown, hbelongs, hchannel, hpeer, hlen, hsecond⟩ := hruns
        cases hclears
        have hidentity : s.ownIdentity userID identityID (fun _ => true) = true := by
          obtain ⟨i, hi, hu, -⟩ := ownIdentity_iff.1 hbelongs
          exact ownIdentity_iff.2 ⟨i, hi, hu, rfl⟩
        grind [perform, clearInboxConversationForUser, clearForEveryone_channel]
      · cases hclears
    · cases hclears
  · intro h
    refine ⟨?_, fun _ _ hn => (perform_shrinks f userID identityID r s).unchanged hn⟩
    cases r with
    | delete messageID forEveryone =>
      simp only [perform]
      fun_cases deleteInboxMessageForUser <;> try exact .refl s
      · exact (deleteForEveryone_spec messageID s).2
      · exact (deleteForCaller_spec messageID s).2
    | clear peerGaiaID channelID forEveryone messageIDs =>
      simp only [perform]
      fun_cases clearInboxConversationForUser <;> try exact .refl s
      · refine clearForEveryone_framed _ _ _ s fun hsecond hchannel id e he hin => h (trimSpace channelID) ?_ id e he hin
        grind [clearsChannel]
      · exact (clearForCaller_spec _ _ _ s).2

def sampleStore : Store where
  identities := Table.empty.insertOrIgnore "i-mallory" ⟨"u-mallory", "@mallory:node.example", true⟩
  envelopes := Table.empty.insertOrIgnore "m-1" ⟨"@alice:node.example", "@bob:node.example", "", "c-1"⟩
  inboxes := Table.empty.insertOrIgnore 1 ⟨"i-bob", "m-1"⟩

def noFaults : Faults := ⟨false, false, false⟩

/-- Clearing a conversation with a peer touches nothing of others. -/
theorem framed_peer :
    Framed "i-mallory" sampleStore
        (perform noFaults "u-mallory" "i-mallory" (.clear "@bob:node.example" "" true []) sampleStore).1 ∧
      ∀ e, (perform noFaults "u-mallory" "i-mallory" (.clear "@bob:node.example" "" true []) sampleStore).2 = .error e →
        NoneDeleted sampleStore
          (perform noFaults "u-mallory" "i-mallory" (.clear "@bob:node.example" "" true []) sampleStore).1 →
        (perform noFaults "u-mallory" "i-mallory" (.clear "@bob:node.example" "" true []) sampleStore).1 = sampleStore :=
  (deletion_framed_iff noFaults "u-mallory" "i-mallory" (.clear "@bob:node.example" "" true []) sampleStore).2
    fun channelID h => by
      have hnone : clearsChannel noFaults "u-mallory" "i-mallory" sampleStore (.clear "@bob:node.example" "" true []) =
          none := by decide +kernel
      rw [hnone] at h
      cases h

/-- Naming a channel deletes the message of two other users, whoever asks. -/
theorem foreign_message_deleted :
    sampleStore.envelopes.get? "m-1" = some ⟨"@alice:node.example", "@bob:node.example", "", "c-1"⟩ ∧
      (perform noFaults "u-mallory" "i-mallory" (.clear "" "c-1" true []) sampleStore).2.toOption = some 1 ∧
      (perform noFaults "u-mallory" "i-mallory" (.clear "" "c-1" true []) sampleStore).1.envelopes.get? "m-1" = none := by
  decide +kernel

end GaiaCom.Messaging
