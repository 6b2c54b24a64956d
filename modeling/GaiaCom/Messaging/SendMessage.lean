/-
Requests to send a message: the handler `SendMessage`, which has the message guard look at the envelope and then has it
saved, as runs of any number of requests side by side over one store.

The guard looks for a message whose id is the one the client has chosen, and the service stores every message under an
id of its own. So the guard finds a repetition only if the two ids are the same, and there is one message for a
sender, a recipient and an id of the client exactly if all repetitions are rejected for other reasons
(`one_row_iff`).
-/
import GaiaCom.Lib.Pool
import GaiaCom.Messaging.Sending
import GaiaCom.Security.MessageGuard

namespace GaiaCom.Messaging.SendMessage

open Lib Core GaiaCom.Store
open Federation.Wire (Bytes bytes)
open Posting (Tables Meta PostError decodeMeta extractMessageProofInput isBlocked saveAndDistributeMessage
  resolveSender)
open Security.MessageGuard (Floats GuardError checkMessageEnvelope checkMessageEnvelope_replay_iff decodeEnvelope)
open Trustmesh (sampleUUID)

/-! ## Requests -/

/-- `SendMessageInput`; the envelope as it is marshalled again. -/
structure Body where
  senderIdentityID : String
  recipientIDs : List String
  envelopeData : Bytes
  deriving DecidableEq

/-- A request: who is logged in, and the body if it can be decoded. -/
structure Input where
  userID : Option UUID
  body : Option Body
  deriving DecidableEq

/-- A request whose ids have been read. -/
structure Send where
  userID : UUID
  senderID : UUID
  recipientIDs : List UUID
  envelopeData : Bytes
  deriving DecidableEq

def Input.send? (input : Input) : Option Send := do
  let userID ← input.userID
  let body ← input.body
  let senderID ← parse body.senderIdentityID
  let recipientIDs ← body.recipientIDs.mapM parse
  return ⟨userID, senderID, recipientIDs, body.envelopeData⟩

/-- How far a request has come. -/
inductive Call where
  | received (input : Input)
  | identified (s : Send)
  | guarded (s : Send)
  | sent (s : Send) (messageID : UUID)
  | rejected (status : Nat) (message : String)
  deriving DecidableEq

/-- What is the same for all requests. -/
structure World where
  floats : Floats
  verify : (publicKey message signature : Bytes) → Bool

/-- What a step of a request finds: the clock, the ids it draws, and what fails. -/
structure Tick where
  now : Nat
  savedAt : Nat
  envelopeID : UUID
  pduID : UUID → UUID
  searchFails : Bool
  faults : Posting.Faults

section Handler

variable (w : World) (tick : Tick) (st : Posting.Store)

/-- The call of `SaveAndDistributeMessage`. -/
def World.request (s : Send) : Posting.Request where
  userID := s.userID
  senderID := s.senderID
  envelopeData := s.envelopeData
  recipientIDs := s.recipientIDs
  now := tick.now
  savedAt := tick.savedAt
  envelopeID := tick.envelopeID
  pduID := tick.pduID
  verify := w.verify
  faults := tick.faults

/-- `CheckAPIAction` for "use_identity". -/
def World.canUseIdentity (s : Send) : Bool :=
  s.userID ≠ .nil && Posting.identityBelongsToUser (w.request tick s) st.tables = some true

/-- `FindMessageEnvelopesByIDs` for one id: there is such a message, and it has not been replaced. -/
def Tick.findMessageEnvelopesByIDs (id : UUID) : Option Bool :=
  if tick.searchFails then none else some ((st.tables.envelopes.get? id).any fun e => e.replacedByMessageID = "")

def World.identify (input : Input) : Call :=
  match input.userID with
  | none => .rejected 401 "Unauthorized"
  | some userID =>
    match input.body with
    | none => .rejected 400 "Invalid message request"
    | some body =>
      match parse body.senderIdentityID with
      | none => .rejected 400 "Invalid sender ID"
      | some senderID =>
        if w.canUseIdentity tick st ⟨userID, senderID, [], body.envelopeData⟩ then
          match body.recipientIDs.mapM parse with
          | none => .rejected 400 "Invalid recipient ID"
          | some recipientIDs => .identified ⟨userID, senderID, recipientIDs, body.envelopeData⟩
        else .rejected 403 "Message rejected"

def World.check (s : Send) : Except GuardError Unit :=
  checkMessageEnvelope w.floats tick.now (tick.findMessageEnvelopesByIDs st) s.envelopeData

def World.next : Call → Posting.Store × Call
  | .received input => (st, w.identify tick st input)
  | .identified s =>
    match w.check tick st s with
    | .error _ => (st, .rejected 400 "Message rejected")
    | .ok () => (st, .guarded s)
  | .guarded s =>
    let (st', result) := saveAndDistributeMessage (w.request tick s) st
    match result with
    | .error _ => (st', .rejected 400 "Message rejected")
    | .ok messageID => (st', .sent s messageID)
  | call => (st, call)

end Handler

def World.step (w : World) : Pool Posting.Store Call → Pool.Event Input Tick → Pool Posting.Store Call :=
  Pool.step Call.received w.next

/-! ## What a save writes -/

section Save

variable {req : Posting.Request} {st : Posting.Store}

/-- What a save that succeeds has found and done. -/
structure Saved (req : Posting.Request) (st : Posting.Store) (ident : Posting.Identity) (recipientID : UUID)
    (recip : Posting.Identity) : Prop where
  sender : st.tables.identities.get? req.senderID = some ident
  recipients : req.recipientIDs.eraseDups = [recipientID]
  recipient : st.tables.identities.get? recipientID = some recip
  devices : Posting.checkDevices req st.tables (decodeMeta req.envelopeData) [recipientID] = .ok ()
  free : st.tables.envelopes.get? req.envelopeID = none
  envelopes : ∃ e, e.sender = ident.gaiaID ∧ e.clientMessageID = (extractMessageProofInput req.envelopeData).2 ∧
    ∀ id, (saveAndDistributeMessage req st).1.tables.envelopes.get? id =
      if id = req.envelopeID then some e else st.tables.envelopes.get? id
  inboxes : ∃ rows, (saveAndDistributeMessage req st).1.tables.inboxes = st.tables.inboxes ++ rows ∧
    rows.map (fun row => (row.identityID, row.messageID)) =
      if isBlocked req st.tables ident.gaiaID recip.userID then [] else [(recipientID, req.envelopeID)]

theorem save_frame (req : Posting.Request) (st : Posting.Store) :
    (saveAndDistributeMessage req st).1.tables.identities = st.tables.identities ∧
      (saveAndDistributeMessage req st).1.tables.deviceKeys = st.tables.deviceKeys ∧
      ((∃ id, (saveAndDistributeMessage req st).2 = .ok id) ∨
        (∃ err, (saveAndDistributeMessage req st).2 = .error err) ∧
          (saveAndDistributeMessage req st).1.tables.envelopes = st.tables.envelopes ∧
          (saveAndDistributeMessage req st).1.tables.inboxes = st.tables.inboxes) := by
  unfold saveAndDistributeMessage
  simp only
  split
  · grind
  obtain ⟨queue, err, hdeliver⟩ | ⟨ident, localServerName, -, -, hdeliver⟩ :=
    Posting.deliver_cases req st.tables (decodeMeta req.envelopeData)
  · grind
  · rw [hdeliver]
    exact ⟨rfl, rfl, .inl ⟨_, rfl⟩⟩

@[grind →]
theorem saved_of_ok {id : UUID} (h : (saveAndDistributeMessage req st).2 = .ok id) :
    id = req.envelopeID ∧ ∃ ident recipientID recip, Saved req st ident recipientID recip := by
  obtain ⟨-, -, hok, htables⟩ := Posting.saveAndDistributeMessage_ok h
  obtain ⟨ident, localServerName, recipientID, recip, hident, -, hrecipients, hrecip, hdevices, hfree, hdeliver⟩ :=
    Sending.deliver_single hok
  rw [hdeliver] at hok htables
  refine ⟨(Except.ok.inj hok).symm, ident, recipientID, recip, ?_⟩
  exact {
    sender := hident
    recipients := hrecipients
    recipient := hrecip
    devices := hdevices
    free := hfree
    envelopes := by
      refine ⟨(Posting.envelope req (decodeMeta req.envelopeData) ident.gaiaID (Sending.foundFor req st.tables
        (decodeMeta req.envelopeData) ident.gaiaID localServerName recipientID recip).firstRecipientGaia).row req.savedAt,
        rfl, rfl, fun id => ?_⟩
      grind [Posting.get?_delivered]
    inboxes := by
      refine ⟨_, by rw [htables]; exact Posting.inboxes_insertMessage .., ?_⟩
      unfold Sending.foundFor
      split
      · rfl
      rfl }

end Save

/-! ## Keys -/

/-- What a client names a message by. -/
structure Key where
  sender : String
  recipient : UUID
  clientMessageID : String

def deliveries (t : Tables) : List (UUID × UUID) := t.inboxes.map fun row => (row.identityID, row.messageID)

/-- A message of the sender to the recipient with the client's id is stored. -/
structure Holds (t : Tables) (key : Key) (id : UUID) : Prop where
  named : key.clientMessageID ≠ ""
  row : ∃ e, t.envelopes.get? id = some e ∧ e.sender = key.sender ∧ e.clientMessageID = key.clientMessageID
  delivered : (key.recipient, id) ∈ deliveries t

/-- There is one message for a key at most. -/
def OneRow (t : Tables) : Prop := ∀ key id id', Holds t key id → Holds t key id' → id = id'

/-- The foreign key of inboxes. -/
def References (t : Tables) : Prop := ∀ x ∈ deliveries t, (t.envelopes.get? x.2).isSome = true

/-- The key of what is sent: the message is to one recipient and the client has given it an id. -/
def Send.key? (identities : Table UUID Posting.Identity) (s : Send) : Option Key :=
  match identities.get? s.senderID, s.recipientIDs.eraseDups with
  | some ident, [recipientID] =>
    if (extractMessageProofInput s.envelopeData).2 = "" then none
    else some ⟨ident.gaiaID, recipientID, (extractMessageProofInput s.envelopeData).2⟩
  | _, _ => none

section Keys

variable {w : World} {tick : Tick} {st : Posting.Store} {s : Send} {ident recip : Posting.Identity} {recipientID : UUID}
  (h : Saved (w.request tick s) st ident recipientID recip)

include h

theorem key?_saved :
    s.key? st.tables.identities = if (extractMessageProofInput s.envelopeData).2 = "" then none
      else some ⟨ident.gaiaID, recipientID, (extractMessageProofInput s.envelopeData).2⟩ := by
  have hident : st.tables.identities.get? s.senderID = some ident := h.sender
  have hrecipients : s.recipientIDs.eraseDups = [recipientID] := h.recipients
  simp only [Send.key?, hident, hrecipients]

theorem mem_deliveries_saved {x : UUID × UUID} :
    x ∈ deliveries (saveAndDistributeMessage (w.request tick s) st).1.tables ↔ x ∈ deliveries st.tables ∨
      x = (recipientID, tick.envelopeID) ∧
        isBlocked (w.request tick s) st.tables ident.gaiaID recip.userID = false := by
  obtain ⟨rows, hinboxes, hrows⟩ := h.inboxes
  rw [deliveries, hinboxes, List.map_append, List.mem_append, hrows]
  cases isBlocked (w.request tick s) st.tables ident.gaiaID recip.userID with
  | true => simp [deliveries]
  | false => simp [deliveries, World.request]

theorem references_saved (href : References st.tables) :
    References (saveAndDistributeMessage (w.request tick s) st).1.tables := by
  obtain ⟨e, -, -, hget⟩ := h.envelopes
  intro x hx
  rw [hget]
  split
  · rfl
  rename_i hne
  rcases (mem_deliveries_saved h).1 hx with hold | ⟨rfl, -⟩
  · exact href x hold
  · exact absurd rfl hne

/-- What is stored under a key after a save: what was, and the new message if the recipient does not block the sender. -/
theorem holds_saved (href : References st.tables) {key : Key}
    {id : UUID} : Holds (saveAndDistributeMessage (w.request tick s) st).1.tables key id ↔ Holds st.tables key id ∨
      id = tick.envelopeID ∧ s.key? st.tables.identities = some key ∧
        isBlocked (w.request tick s) st.tables ident.gaiaID recip.userID = false := by
  obtain ⟨e, hsender, hclient, hget⟩ := h.envelopes
  have hfree : st.tables.envelopes.get? tick.envelopeID = none := h.free
  have hclient' : e.clientMessageID = (extractMessageProofInput s.envelopeData).2 := hclient
  have hget' : ∀ id, (saveAndDistributeMessage (w.request tick s) st).1.tables.envelopes.get? id =
      if id = tick.envelopeID then some e else st.tables.envelopes.get? id := hget
  constructor
  · rintro ⟨hnamed, ⟨e', he', hrow⟩, hdelivered⟩
    rw [hget'] at he'
    split at he'
    · rename_i hid
      obtain rfl := Option.some.inj he'
      rcases (mem_deliveries_saved h).1 hdelivered with hold | ⟨hnew, hblocked⟩
      · -- a message that is new has not been delivered before
        have hsome := href _ hold
        rw [hid, hfree] at hsome
        cases hsome
      · have hrecipient : key.recipient = recipientID := congrArg Prod.fst hnew
        refine .inr ⟨hid, ?_, hblocked⟩
        rw [key?_saved h, ← hclient', hrow.2, if_neg hnamed, ← hsender, hrow.1, ← hrecipient]
    · rename_i hid
      rcases (mem_deliveries_saved h).1 hdelivered with hold | ⟨hnew, -⟩
      · exact .inl ⟨hnamed, ⟨e', he', hrow⟩, hold⟩
      · exact absurd (congrArg Prod.snd hnew) hid
  · rintro (⟨hnamed, ⟨e', he', hrow⟩, hdelivered⟩ | ⟨rfl, hkey, hblocked⟩)
    · refine ⟨hnamed, ⟨e', ?_, hrow⟩, (mem_deliveries_saved h).2 (.inl hdelivered)⟩
      grind
    · rw [key?_saved h] at hkey
      grind [mem_deliveries_saved, Holds]

omit h in
theorem holds_congr {t t' : Tables} (henvelopes : t'.envelopes = t.envelopes) (hinboxes : t'.inboxes = t.inboxes)
    {key : Key} {id : UUID} : Holds t' key id ↔ Holds t key id := by
  have hdeliveries : deliveries t' = deliveries t := by rw [deliveries, deliveries, hinboxes]
  constructor
  · rintro ⟨hnamed, hrow, hdelivered⟩
    grind [Holds]
  · rintro ⟨hnamed, hrow, hdelivered⟩
    grind [Holds]

/-- What is sent is a repetition, and would be delivered. -/
def Repeats (w : World) (tick : Tick) (st : Posting.Store) (s : Send) : Prop :=
  ∃ key recip, s.key? st.tables.identities = some key ∧ st.tables.identities.get? key.recipient = some recip ∧
    isBlocked (w.request tick s) st.tables key.sender recip.userID = false ∧ ∃ id, Holds st.tables key id

theorem oneRow_of_saved (href : References st.tables) (hrepeats : ¬ Repeats w tick st s) (hone : OneRow st.tables) :
    OneRow (saveAndDistributeMessage (w.request tick s) st).1.tables := by
  have hnew : ∀ key id, s.key? st.tables.identities = some key →
      isBlocked (w.request tick s) st.tables ident.gaiaID recip.userID = false → ¬ Holds st.tables key id := by
    intro key id hkey hblocked hholds
    have hkey' := hkey
    rw [key?_saved h] at hkey'
    split at hkey'
    · cases hkey'
    obtain rfl := Option.some.inj hkey'
    exact hrepeats ⟨_, recip, hkey, h.recipient, hblocked, id, hholds⟩
  intro key id id' hid hid'
  rcases (holds_saved h href).1 hid with hold | ⟨rfl, hkey, hblocked⟩
  · rcases (holds_saved h href).1 hid' with hold' | ⟨rfl, hkey, hblocked⟩
    · exact hone key id id' hold hold'
    grind
  grind [holds_saved]

theorem not_oneRow_of_saved (href : References st.tables) (hrepeats : Repeats w tick st s) :
    ¬ OneRow (saveAndDistributeMessage (w.request tick s) st).1.tables := by
  obtain ⟨key, recip', hkey, hrecip, hblocked, id, hholds⟩ := hrepeats
  intro hone
  have hkey' := hkey
  rw [key?_saved h] at hkey'
  split at hkey'
  · cases hkey'
  obtain rfl := Option.some.inj hkey'
  obtain rfl := Option.some.inj (h.recipient.symm.trans hrecip)
  have hsame : id = tick.envelopeID :=
    hone _ id tick.envelopeID ((holds_saved h href).2 (.inl hholds)) ((holds_saved h href).2 (.inr ⟨rfl, hkey, hblocked⟩))
  obtain ⟨e, he, -⟩ := hholds.row
  have hfree : st.tables.envelopes.get? tick.envelopeID = none := h.free
  rw [hsame, hfree] at he
  cases he

omit h

theorem oneRow_save (href : References st.tables) (w : World) (tick : Tick) (s : Send) :
    OneRow (saveAndDistributeMessage (w.request tick s) st).1.tables ↔ OneRow st.tables ∧
      (Repeats w tick st s → ∀ id, (saveAndDistributeMessage (w.request tick s) st).2 ≠ .ok id) := by
  obtain ⟨-, -, ⟨id, hok⟩ | ⟨⟨err, herr⟩, henvelopes, hinboxes⟩⟩ := save_frame (w.request tick s) st
  · obtain ⟨-, ident, recipientID, recip, hsaved⟩ := saved_of_ok hok
    constructor
    · intro hone
      refine ⟨fun key id id' h h' => hone key id id' ((holds_saved hsaved href).2 (.inl h))
        ((holds_saved hsaved href).2 (.inl h')), fun hrepeats => ?_⟩
      grind [not_oneRow_of_saved]
    grind [oneRow_of_saved]
  · have hrejects : ∀ id, (saveAndDistributeMessage (w.request tick s) st).2 ≠ .ok id := by
      grind
    simp only [OneRow, holds_congr henvelopes hinboxes]
    grind

theorem references_save (href : References st.tables) (w : World) (tick : Tick) (s : Send) :
    References (saveAndDistributeMessage (w.request tick s) st).1.tables := by
  obtain ⟨-, -, ⟨id, hok⟩ | ⟨-, henvelopes, hinboxes⟩⟩ := save_frame (w.request tick s) st
  · grind [references_saved]
  grind [References, deliveries]

end Keys

/-! ## Runs -/

/-- Every step that saves a repetition fails. -/
def Rejects (w : World) (p : Pool Posting.Store Call) : Pool.Event Input Tick → Prop
  | .start _ _ => True
  | .advance n tick => ∀ s, p.calls.get? n = some (.guarded s) → Repeats w tick p.shared s →
    ∀ id, (saveAndDistributeMessage (w.request tick s) p.shared).2 ≠ .ok id

def Call.pending : Call → Option Send
  | .received input => input.send?
  | .identified s => some s
  | .guarded s => some s
  | _ => none

/-- A request that comes in has a key under which nothing is stored and that no request under way has. -/
def New (p : Pool Posting.Store Call) : Pool.Event Input Tick → Prop
  | .start _ input => ∀ s key, input.send? = some s → s.key? p.shared.tables.identities = some key →
    (∀ id, ¬ Holds p.shared.tables key id) ∧ ∀ m call s', p.calls.get? m = some call → call.pending = some s' →
      s'.key? p.shared.tables.identities ≠ some key
  | .advance _ _ => True

section Runs

variable {w : World}

theorem next_cases (w : World) (tick : Tick) (st : Posting.Store) (call : Call) :
    ((∀ s, call ≠ .guarded s) ∧ (w.next tick st call).1 = st) ∨ ∃ s, call = .guarded s ∧
      (w.next tick st call).2.pending = none ∧
      (w.next tick st call).1 = (saveAndDistributeMessage (w.request tick s) st).1 := by
  cases call <;> grind [World.next, Call.pending]

variable {st : Posting.Store}

theorem references_next (href : References st.tables) (w : World) (tick : Tick) (call : Call) :
    References (w.next tick st call).1.tables := by
  grind [next_cases, references_save]

theorem references_step (p : Pool Posting.Store Call) (e : Pool.Event Input Tick) (href : References p.shared.tables) :
    References (w.step p e).shared.tables :=
  Pool.shared_step (P := fun st => References (Posting.Store.tables st)) href fun _ tick call _ _ =>
    references_next href w tick call

theorem oneRow_step (p : Pool Posting.Store Call) (e : Pool.Event Input Tick) (href : References p.shared.tables) :
    OneRow (w.step p e).shared.tables ↔ OneRow p.shared.tables ∧ Rejects w p e := by
  cases e with
  | start n input => exact (and_iff_left trivial).symm
  | advance n tick =>
    cases hcall : p.calls.get? n with
    | none =>
      rw [World.step, Pool.step_idle tick hcall, Rejects, hcall]
      exact (and_iff_left fun s h => by cases h).symm
    | some call =>
      rw [World.step, Pool.step_advance hcall, Rejects, hcall]
      rcases next_cases w tick p.shared call with ⟨hne, hsame⟩ | ⟨s, rfl, -, hsave⟩
      · rw [hsame]
        exact (and_iff_left fun s h => absurd (Option.some.inj h) (hne s)).symm
      · rw [hsave, oneRow_save href]
        refine and_congr_right fun _ => ⟨fun h s' hs' => ?_, fun h => h s rfl⟩
        grind

variable {call : Call} {tick : Tick}

/-- What is stored under a key after a step was there before, or the step has saved what was pending. -/
theorem holds_next (href : References st.tables) {key : Key} {id : UUID}
    (h : Holds (w.next tick st call).1.tables key id) : Holds st.tables key id ∨
      (w.next tick st call).2.pending = none ∧ ∃ s, call.pending = some s ∧ s.key? st.tables.identities = some key := by
  rcases next_cases w tick st call with ⟨-, hsame⟩ | ⟨s, rfl, hdone, hsave⟩
  · exact .inl (hsame ▸ h)
  · rw [hsave] at h
    obtain ⟨-, -, ⟨id', hok⟩ | ⟨-, henvelopes, hinboxes⟩⟩ := save_frame (w.request tick s) st
    · obtain ⟨-, ident, recipientID, recip, hsaved⟩ := saved_of_ok hok
      rcases (holds_saved hsaved href).1 h with hold | ⟨-, hkey, -⟩ <;> grind [Call.pending]
    grind [holds_congr]

theorem identities_next (w : World) (tick : Tick) (st : Posting.Store) (call : Call) :
    (w.next tick st call).1.tables.identities = st.tables.identities := by
  rcases next_cases w tick st call with ⟨-, hsame⟩ | ⟨s, -, -, hsave⟩
  · rw [hsame]
  · rw [hsave]
    exact (save_frame (w.request tick s) st).1

variable {s : Send}

theorem send?_of_identify {input : Input} (h : (w.identify tick st input).pending = some s) : input.send? = some s := by
  unfold World.identify at h
  unfold Input.send?
  split at h
  · cases h
  rename_i userID huser
  split at h
  · cases h
  rename_i body hbody
  split at h
  · cases h
  rename_i senderID hsender
  split at h
  · split at h
    · cases h
    rename_i recipientIDs hrecipients
    simp only [huser, hbody, hsender, hrecipients, Option.bind_eq_bind, Option.bind_some]
    exact h
  · cases h

theorem pending_next (h : (w.next tick st call).2.pending = some s) : call.pending = some s := by
  cases call <;> grind [send?_of_identify, World.next, Call.pending]

/-- The requests under way have different keys, and nothing is stored under them. -/
structure Distinct (ids : Table UUID Posting.Identity) (p : Pool Posting.Store Call) : Prop where
  identities : p.shared.tables.identities = ids
  references : References p.shared.tables
  free : ∀ n call, p.calls.get? n = some call → ∀ s key, call.pending = some s → s.key? ids = some key →
    ∀ id, ¬ Holds p.shared.tables key id
  apart : ∀ n m call other key, p.calls.get? n = some call → p.calls.get? m = some other →
    (∃ s, call.pending = some s ∧ s.key? ids = some key) → (∃ s, other.pending = some s ∧ s.key? ids = some key) → n = m

variable {ids : Table UUID Posting.Identity} {p : Pool Posting.Store Call} {e : Pool.Event Input Tick}

theorem free_next (h : Distinct ids p) {n m : Nat} {other after : Call}
    (hcall : p.calls.get? n = some call) (hother : p.calls.get? m = some other)
    (hafter : m = n ∧ after = (w.next tick p.shared call).2 ∨ m ≠ n ∧ after = other) {key : Key}
    (hs : after.pending = some s) (hkey : s.key? ids = some key) (id : UUID) :
    ¬ Holds (w.next tick p.shared call).1.tables key id := by
  intro hholds
  have hpending : other.pending = some s := by
    rcases hafter with ⟨rfl, rfl⟩ | ⟨-, rfl⟩
    · obtain rfl := Option.some.inj (hcall.symm.trans hother)
      exact pending_next hs
    · exact hs
  rcases holds_next h.references hholds with hold | ⟨hdone, s', hs', hkey'⟩
  · grind [h.free]
  · rw [h.identities] at hkey'
    have hsame : m = n := h.apart m n other call key hother hcall ⟨s, hpending, hkey⟩ ⟨s', hs', hkey'⟩
    grind

theorem distinct_step (h : Distinct ids p) (hnew : New p e) : Distinct ids (w.step p e) := by
  have hids := h.identities
  obtain ⟨⟨hidentities, href⟩, hfree⟩ : ((w.step p e).shared.tables.identities = ids ∧
      References (w.step p e).shared.tables) ∧ ∀ n call, (w.step p e).calls.get? n = some call → ∀ s key,
        call.pending = some s → s.key? ids = some key → ∀ id, ¬ Holds (w.step p e).shared.tables key id := by
    refine Pool.invariant_step (I := fun (st : Posting.Store) => st.tables.identities = ids ∧ References st.tables)
      (G := fun _ (st : Posting.Store) (call : Call) => ∀ s key, call.pending = some s → s.key? ids = some key →
        ∀ id, ¬ Holds st.tables key id) ?_ ?_ ⟨h.identities, h.references⟩ h.free
    · rintro n input rfl - s key hs hkey
      rw [← hids] at hkey
      exact (hnew s key hs hkey).1
    · intro n tick call _ hcall _
      refine ⟨⟨(identities_next w tick p.shared call).trans hids, references_next h.references w tick call⟩, ?_, ?_⟩
      · grind [free_next]
      grind [free_next]
  refine ⟨hidentities, href, hfree, Pool.distinct_step ?_ ?_ h.apart⟩
  · rintro n input rfl key ⟨s, hs, hkey⟩ m other hother ⟨s', hs', hkey'⟩
    rw [← hids] at hkey hkey'
    exact (hnew s key hs hkey).2 m other s' hother hs' hkey'
  grind [pending_next]

theorem rejects_of_distinct (h : Distinct ids p) : Rejects w p e := by
  cases e with
  | start n input => trivial
  | advance n tick =>
    rintro s hs ⟨key, recip, hkey, -, -, id, hholds⟩
    rw [h.identities] at hkey
    exact absurd hholds (h.free n (.guarded s) hs s key rfl hkey id)

end Runs

/-! ## Replays -/

/-- A store whose inboxes refer to stored messages and that has one message for a key. -/
structure Database where
  store : Posting.Store
  references : References store.tables
  oneRow : OneRow store.tables

def Database.fresh (db : Database) : Pool Posting.Store Call := ⟨db.store, Table.empty⟩

/-- After a run there is one message for a key exactly if every repetition that got past the guard failed to be saved;
it is so if no request came in for a key that was stored or that a request under way had. The guard itself rejects an
envelope as a replay exactly if the client's id is the id of a stored message. -/
theorem one_row_iff (w : World) (db : Database) (events : List (Pool.Event Input Tick)) :
    (OneRow (exec w.step db.fresh events).shared.tables ↔ Along w.step (Rejects w) db.fresh events) ∧
    (Along w.step New db.fresh events → OneRow (exec w.step db.fresh events).shared.tables) ∧
    ∀ tick st s, w.check tick st s = .error .replay ↔ s.envelopeData.length ≤ 30 * 1024 * 1024 ∧
      ∃ env id, decodeEnvelope w.floats s.envelopeData = some env ∧ env.messageID = some id ∧
        tick.findMessageEnvelopesByIDs st id = some true := by
  have hexact : OneRow (exec w.step db.fresh events).shared.tables ↔ Along w.step (Rejects w) db.fresh events := by
    have hiff := exec_iff_along (I := fun p : Pool Posting.Store Call => References p.shared.tables)
      (P := fun p : Pool Posting.Store Call => OneRow p.shared.tables) references_step (oneRow_step (w := w)) (s := db.fresh)
      db.references events
    rw [hiff]
    exact and_iff_right db.oneRow
  refine ⟨hexact, fun hnew => hexact.2 ?_, fun tick st s => checkMessageEnvelope_replay_iff⟩
  have hdistinct : Distinct db.store.tables.identities db.fresh :=
    ⟨rfl, db.references, fun _ _ h => (by cases h), fun _ _ _ _ _ h => (by cases h)⟩
  exact hnew.imp_of_invariant (fun _ _ h he => distinct_step h he) (fun _ _ h _ => rejects_of_distinct h) hdistinct

def sampleStore : Posting.Store where
  rooms := Table.empty
  channels := Table.empty
  tables := {
    identities := (Table.empty.insertOrIgnore (sampleUUID 1) ⟨sampleUUID 11, "@alice:a.example", "", true⟩).insertOrIgnore
      (sampleUUID 2) ⟨sampleUUID 12, "@bob:a.example", "", true⟩
    deviceKeys := Table.empty
    contacts := Table.empty
    abuse := ⟨[], Table.empty⟩
    envelopes := Table.empty
    inboxes := []
    states := Table.empty
    queue := [] }

def sampleDatabase : Database where
  store := sampleStore
  references _ h := (List.not_mem_nil h).elim
  oneRow _ _ _ h := (List.not_mem_nil h.delivered).elim

def sampleWorld : World where
  floats := Security.MessageGuard.integers
  verify _ _ _ := false

def sampleInput : Input where
  userID := some (sampleUUID 11)
  body := some {
    senderIdentityID := "01000000-0000-0000-0000-000000000000"
    recipientIDs := ["02000000-0000-0000-0000-000000000000"]
    envelopeData := bytes
      "\x7b\"algorithm_suite\":\"GaiaCom/v0.1/hybrid-kem/X25519+ML-KEM-1024/AES-256-GCM\",\"client_message_id\":\"07000000-0000-0000-0000-000000000000\",\"signature\":\"00\"\x7d" }

def sampleTick (id : UInt8) : Tick where
  now := 63919886400 * second
  savedAt := 63919886400 * second
  envelopeID := sampleUUID id
  pduID _ := sampleUUID 30
  searchFails := false
  faults := Sending.faults none

def sampleRun (n : Nat) (id : UInt8) : List (Pool.Event Input Tick) :=
  .start n sampleInput :: List.replicate 3 (.advance n (sampleTick id))

def Call.messageID? : Call → Option UUID
  | .sent _ messageID => some messageID
  | _ => none

/-- The same request sent twice is accepted twice, and there are two messages for its key. -/
theorem replay_accepted :
    ((exec sampleWorld.step sampleDatabase.fresh (sampleRun 1 21 ++ sampleRun 2 22)).calls.rows.map
      fun row => row.2.messageID?) = [some (sampleUUID 21), some (sampleUUID 22)] ∧
      ¬ OneRow (exec sampleWorld.step sampleDatabase.fresh (sampleRun 1 21 ++ sampleRun 2 22)).shared.tables := by
  obtain ⟨hcalls, henvelopes, hdeliveries⟩ :
      ((exec sampleWorld.step sampleDatabase.fresh (sampleRun 1 21 ++ sampleRun 2 22)).calls.rows.map
        fun row => row.2.messageID?) = [some (sampleUUID 21), some (sampleUUID 22)] ∧
      (∀ id ∈ [sampleUUID 21, sampleUUID 22], ((exec sampleWorld.step sampleDatabase.fresh
        (sampleRun 1 21 ++ sampleRun 2 22)).shared.tables.envelopes.get? id).map (fun e => (e.sender, e.clientMessageID)) =
          some ("@alice:a.example", "07000000-0000-0000-0000-000000000000")) ∧
      deliveries (exec sampleWorld.step sampleDatabase.fresh (sampleRun 1 21 ++ sampleRun 2 22)).shared.tables =
        [(sampleUUID 2, sampleUUID 21), (sampleUUID 2, sampleUUID 22)] := by
    simp only [sampleRun, sampleInput, bytes]
    rw [String.toList_ofList]
    decide +kernel
  refine ⟨hcalls, fun hone => ?_⟩
  have hholds : ∀ id ∈ [sampleUUID 21, sampleUUID 22],
      Holds (exec sampleWorld.step sampleDatabase.fresh (sampleRun 1 21 ++ sampleRun 2 22)).shared.tables
        ⟨"@alice:a.example", sampleUUID 2, "07000000-0000-0000-0000-000000000000"⟩ id := by
    intro id hid
    obtain ⟨e, he, hcolumns⟩ := Option.map_eq_some_iff.1 (henvelopes id hid)
    refine ⟨by decide, ⟨e, he, congrArg Prod.fst hcolumns, congrArg Prod.snd hcolumns⟩, ?_⟩
    grind
  have hsame : sampleUUID 21 = sampleUUID 22 :=
    hone _ _ _ (hholds _ List.mem_cons_self) (hholds _ (List.mem_cons_of_mem _ List.mem_cons_self))
  revert hsame
  decide

end GaiaCom.Messaging.SendMessage
