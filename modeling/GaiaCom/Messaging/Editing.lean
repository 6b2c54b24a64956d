/-
Editing a direct message: `EditDirectMessageForUser`, the checks of messaging_service.go and the statements of
sql_store_messaging.go, which other calls may come between.

An edit saves a new copy for the peer, then one for the sender, then hides every other copy of the message, each
in a transaction of its own. Two edits whose transactions overlap hide each other's copies and nothing is left;
one that stops half way leaves two. So an edit keeps one copy in either inbox if, from its first save to its last
statement, no other edit of the message saves and nothing fails (`edits_keep_one`).
-/
import GaiaCom.Lib.Pool
import GaiaCom.Messaging.Posting

namespace GaiaCom.Messaging.Editing

open Lib Core GaiaCom.Store
open Federation.Wire (Bytes bytes)
open Posting (Message Tables extractMessageProofInput findActiveDeviceKeysForIdentity
  findIdentityByGaiaID saveMessageEnvelopeWithInbox saveMessageEnvelopeWithInbox_eq_some inboxes_insertMessage
  get?_insertMessage)

/-! ## The call -/

/-- What the copies of a direct message have in common. -/
structure Thread where
  sender : String
  recipient : String
  clientMessageID : String
  deriving DecidableEq

def Thread.fold (m : Thread) : Thread := ⟨toLower m.sender, toLower m.recipient, m.clientMessageID⟩

def threadOf (e : Posting.Envelope) : Thread := ⟨e.sender, e.recipient, e.clientMessageID⟩

def Thread.has (m : Thread) (e : Posting.Envelope) : Bool := e.channelID = "" && (threadOf e).fold = m.fold

structure EditRequest where
  userID : UUID
  identityID : UUID
  originalMessageID : UUID
  peerEnvelopeData : Bytes
  selfEnvelopeData : Bytes

/-- What the world provides for a step: the clock, an id to draw, and whether the statement fails. -/
structure Tick where
  now : Nat
  id : UUID
  fails : Bool

inductive EditError where
  | request | peerSize | selfSize | notAuthorized | senderKeys | fanout | noRows | database
  deriving DecidableEq

/-- What a call has got so far; the time is that of the edit. -/
inductive Stage where
  | submitted
  | owned
  | unpaired
  | selected (m : Thread)
  | addressed (m : Thread) (peerIdentityID : UUID) (now : Nat)
  | peerSaved (m : Thread) (now : Nat) (peerMessageID : UUID)
  | selfSaved (m : Thread) (now : Nat) (peerMessageID selfMessageID : UUID)
  | finished (result : Except EditError UUID)
  deriving DecidableEq

structure Call where
  request : EditRequest
  stage : Stage

section Call

variable (req : EditRequest) (tick : Tick) (t : Tables)

def stageOf : Except EditError Stage → Stage
  | .ok stage => stage
  | .error err => .finished (.error err)

def authorize : Except EditError Stage := do
  ensure .request (req.userID ≠ .nil && req.identityID ≠ .nil && req.originalMessageID ≠ .nil)
  ensure .peerSize (req.peerEnvelopeData.length ≠ 0 && req.peerEnvelopeData.length ≤ 1024 * 1024)
  ensure .selfSize (req.selfEnvelopeData.length ≠ 0 && req.selfEnvelopeData.length ≤ 1024 * 1024)
  ensure .database !tick.fails
  ensure .notAuthorized ((t.identities.get? req.identityID).any fun i => i.userID = req.userID && i.isActive)
  return .owned

def checkDevices : Except EditError Stage := do
  ensure .senderKeys !tick.fails
  ensure .fanout (findActiveDeviceKeysForIdentity t req.identityID).isEmpty
  return .unpaired

def original : Option Posting.Envelope :=
  (t.envelopes.get? req.originalMessageID).filter fun e =>
    e.replacedByMessageID = "" && (e.channelID = "" &&
      (t.inboxes.any (fun b => b.identityID = req.identityID && b.messageID = req.originalMessageID) &&
        (t.identities.get? req.identityID).any fun i => i.userID = req.userID && toLower e.sender = toLower i.gaiaID))

def findOriginal : Except EditError Stage := do
  ensure .database !tick.fails
  match original req t with
  | none => throw .noRows
  | some e =>
    ensure .noRows (trimSpace e.clientMessageID ≠ "")
    ensure .noRows ((extractMessageProofInput req.peerEnvelopeData).2 = e.clientMessageID &&
      (extractMessageProofInput req.selfEnvelopeData).2 = e.clientMessageID)
    return .selected (threadOf e)

def findPeer (m : Thread) : Except EditError Stage := do
  ensure .database !tick.fails
  match findIdentityByGaiaID t.identities m.recipient Posting.Identity.isActive with
  | none => throw .noRows
  | some (peerIdentityID, _) => return .addressed m peerIdentityID tick.now

def revision (m : Thread) (now : Nat) (data : Bytes) (readReceiptSourceID : UUID) : Message where
  id := tick.id
  type := "gaia.encrypted.v1"
  sender := m.sender
  recipient := m.recipient
  payload := data
  senderIdentityID := req.identityID
  channelID := ""
  readReceiptSourceID := readReceiptSourceID
  editedAt := now

def saveRevision (message : Message) (recipientID : UUID) (stage : Stage) : Tables × Stage :=
  match saveMessageEnvelopeWithInbox tick.fails tick.now t message [recipientID] with
  | none => (t, .finished (.error .database))
  | some t => (t, stage)

/-- The last transaction: the other copies are replaced, and the mailbox state goes over to the new one. -/
def replaceOthers (m : Thread) (now : Nat) (peerMessageID selfMessageID : UUID) : Tables × Stage :=
  if tick.fails then (t, .finished (.error .database))
  else
    ({ t with
      envelopes := t.envelopes.updateWhere (fun id e => m.has e && (id ≠ peerMessageID && id ≠ selfMessageID))
        fun e => { e with replacedByMessageID := selfMessageID.text, editedAt := formatTime now }
      states :=
        match t.states.get? (req.userID, req.identityID, req.originalMessageID) with
        | none => t.states
        | some state => t.states.put (req.userID, req.identityID, selfMessageID)
            { state with updatedAt := formatTime now } },
      .finished (.ok selfMessageID))

def nextStage : Stage → Tables × Stage
  | .submitted => (t, stageOf (authorize req tick t))
  | .owned => (t, stageOf (checkDevices req tick t))
  | .unpaired => (t, stageOf (findOriginal req tick t))
  | .selected m => (t, stageOf (findPeer tick t m))
  | .addressed m peerIdentityID now =>
    saveRevision tick t (revision req tick m now req.peerEnvelopeData .nil) peerIdentityID (.peerSaved m now tick.id)
  | .peerSaved m now peerMessageID =>
    saveRevision tick t (revision req tick m now req.selfEnvelopeData peerMessageID) req.identityID
      (.selfSaved m now peerMessageID tick.id)
  | .selfSaved m now peerMessageID selfMessageID => replaceOthers req tick t m now peerMessageID selfMessageID
  | .finished result => (t, .finished result)

end Call

def next (tick : Tick) (t : Tables) (call : Call) : Tables × Call :=
  ((nextStage call.request tick t call.stage).1, { call with stage := (nextStage call.request tick t call.stage).2 })

def submit (request : EditRequest) : Call := ⟨request, .submitted⟩

abbrev System := Pool Tables Call

abbrev Event := Pool.Event EditRequest Tick

def step : System → Event → System := Pool.step submit next

def fresh (t : Tables) : System := ⟨t, Table.empty⟩

/-! ## What the inboxes show -/

section Shown

variable (m : Thread) (t : Tables) (identityID : UUID)

def shownCopies : List UUID :=
  (t.envelopes.rows.filter fun r => m.has r.2 && (r.2.replacedByMessageID = "" &&
    t.inboxes.any fun b => b.identityID = identityID && b.messageID = r.1)).map Prod.fst

/-- The inbox shows exactly one copy. -/
def OneShown : Prop := ∃! id, id ∈ shownCopies m t identityID

end Shown

/-- The rows of inboxes are of messages that exist, as the foreign key has it. -/
def Referential (t : Tables) : Prop := ∀ b ∈ t.inboxes, (t.envelopes.get? b.messageID).isSome = true

variable {m m' : Thread} {t : Tables} {identityID id : UUID}

theorem mem_shownCopies :
    id ∈ shownCopies m t identityID ↔ ∃ e, t.envelopes.get? id = some e ∧ m.has e = true ∧
      e.replacedByMessageID = "" ∧ ∃ b ∈ t.inboxes, b.identityID = identityID ∧ b.messageID = id := by
  grind [shownCopies, Prod.exists]

theorem has_congr (h : m'.fold = m.fold) (e : Posting.Envelope) : m'.has e = m.has e := by rw [Thread.has, Thread.has, h]

theorem oneShown_of_eq (h : shownCopies m t identityID = [id]) : OneShown m t identityID := by
  simp [OneShown, h]

theorem oneShown_congr {t' : Tables} (h : ∀ id, id ∈ shownCopies m t' identityID ↔ id ∈ shownCopies m t identityID) :
    OneShown m t' identityID ↔ OneShown m t identityID := by
  simp only [OneShown, h]

variable {now : Nat}

theorem mem_shownCopies_insertMessage (message : Message) {recipientID : UUID} (ht : Referential t)
    (hfree : t.envelopes.get? message.id = none) :
    id ∈ shownCopies m (t.insertMessage now message [recipientID]) identityID ↔
      id ∈ shownCopies m t identityID ∨
        id = message.id ∧ m.has (message.row now) = true ∧ identityID = recipientID := by
  have hold : id = message.id → ∀ b ∈ t.inboxes, b.messageID ≠ id := by
    rintro rfl b hb hid
    have hsome := ht b hb
    rw [hid, hfree] at hsome
    cases hsome
  rw [mem_shownCopies, mem_shownCopies, get?_insertMessage hfree, inboxes_insertMessage, List.map_singleton]
  by_cases hid : id = message.id
  · rw [if_pos hid]
    constructor
    · grind [Message.inboxRow]
    · rintro (⟨e, he, -⟩ | ⟨-, hhas, rfl⟩)
      · rw [hid, hfree] at he
        cases he
      · exact ⟨_, rfl, hhas, rfl, _, List.mem_append_right _ (List.mem_singleton_self _), rfl, hid.symm⟩
  grind [Message.inboxRow]

theorem referential_insertMessage {message : Message} {recipientIDs : List UUID} (ht : Referential t)
    (hfree : t.envelopes.get? message.id = none) : Referential (t.insertMessage now message recipientIDs) := by
  intro b hb
  rw [get?_insertMessage hfree]
  split
  · rfl
  rename_i hid
  rcases List.mem_append.1 hb with hb | hb
  · exact ht b hb
  · obtain ⟨recipientID, -, rfl⟩ := List.mem_map.1 hb
    exact absurd rfl hid

/-- The last transaction leaves of its message the two new copies, and other messages as they are. -/
theorem mem_shownCopies_replaceOthers {req : EditRequest} {tick : Tick} {peerMessageID selfMessageID : UUID}
    (hok : tick.fails = false) :
    id ∈ shownCopies m (replaceOthers req tick t m' now peerMessageID selfMessageID).1 identityID ↔
      id ∈ shownCopies m t identityID ∧ (m'.fold = m.fold → id = peerMessageID ∨ id = selfMessageID) := by
  rw [mem_shownCopies, mem_shownCopies]
  simp only [replaceOthers, hok, Bool.false_eq_true, if_false, Table.get?_updateWhere, Option.map_eq_some_iff]
  constructor
  · rintro ⟨e', ⟨e, he, rfl⟩, hhas, hreplaced, hinbox⟩
    by_cases hhit : (m'.has e && (id ≠ peerMessageID && id ≠ selfMessageID)) = true
    · grind [text_ne_empty]
    · simp only [hhit, if_false, Bool.false_eq_true] at hhas hreplaced
      refine ⟨⟨e, he, hhas, hreplaced, hinbox⟩, fun hsame => ?_⟩
      rw [has_congr hsame, hhas] at hhit
      simp only [Bool.true_and, Bool.and_eq_true, decide_eq_true_eq, not_and_or, not_not] at hhit
      exact hhit
  · rintro ⟨⟨e, he, hhas, hreplaced, hinbox⟩, hnew⟩
    have hmiss : ¬ (m'.has e && (id ≠ peerMessageID && id ≠ selfMessageID)) = true := by
      simp only [Bool.and_eq_true, decide_eq_true_eq, not_and, not_not]
      intro hother hpeer
      -- the row is a copy of both messages, so they are one
      have hsame : m'.fold = m.fold := by
        grind [Thread.has]
      exact (hnew hsame).resolve_left hpeer
    grind

/-! ## Edits that do not overlap -/

def Stage.revises (m : Thread) : Stage → Bool
  | .peerSaved m' _ _ => m'.fold = m.fold
  | .selfSaved m' _ _ _ => m'.fold = m.fold
  | _ => false

/-- A step towards a revision of the message: the first save is for the sender's identity and no other call is
revising it then, and after it nothing fails. -/
def Call.Orderly (m : Thread) (senderID : UUID) (p : System) (tick : Tick) (call : Call) : Prop :=
  match call.stage with
  | .addressed m' _ _ => m'.fold = m.fold → call.request.identityID = senderID ∧
      p.calls.countWhere (fun _ other => other.stage.revises m) = 0
  | .peerSaved m' _ _ => m'.fold = m.fold → tick.fails = false ∧ (p.shared.envelopes.get? tick.id).isNone = true
  | .selfSaved m' _ _ _ => m'.fold = m.fold → tick.fails = false
  | _ => True

instance (m : Thread) (senderID : UUID) (p : System) (tick : Tick) : (call : Call) →
    Decidable (call.Orderly m senderID p tick)
  | ⟨_, .addressed _ _ _⟩ => inferInstanceAs (Decidable (_ → _ ∧ _))
  | ⟨_, .peerSaved _ _ _⟩ => inferInstanceAs (Decidable (_ → _ ∧ _))
  | ⟨_, .selfSaved _ _ _ _⟩ => inferInstanceAs (Decidable (_ → _))
  | ⟨_, .submitted⟩ => .isTrue trivial
  | ⟨_, .owned⟩ => .isTrue trivial
  | ⟨_, .unpaired⟩ => .isTrue trivial
  | ⟨_, .selected _⟩ => .isTrue trivial
  | ⟨_, .finished _⟩ => .isTrue trivial

def Orderly (m : Thread) (senderID : UUID) (p : System) : Event → Prop
  | .start _ _ => True
  | .advance n tick => ∀ call ∈ p.calls.get? n, call.Orderly m senderID p tick

instance (m : Thread) (senderID : UUID) (p : System) : DecidablePred (Orderly m senderID p)
  | .start _ _ => .isTrue trivial
  | .advance n tick => inferInstanceAs (Decidable (∀ call ∈ p.calls.get? n, call.Orderly m senderID p tick))

/-- Both new envelopes name the id of the message. -/
def EditRequest.Names (req : EditRequest) (m : Thread) : Prop :=
  (extractMessageProofInput req.peerEnvelopeData).2 = m.clientMessageID ∧
    (extractMessageProofInput req.selfEnvelopeData).2 = m.clientMessageID

/-- What a call knows: the peer is the one the message is for, and while it revises the message, the new copies
are shown to those they are for. -/
def Call.Good (m : Thread) (senderID peerID : UUID) (t : Tables) (call : Call) : Prop :=
  match call.stage with
  | .selected m' => call.request.Names m'
  | .addressed m' peerIdentityID _ => call.request.Names m' ∧ (m'.fold = m.fold → peerIdentityID = peerID)
  | .peerSaved m' _ peerMessageID => call.request.Names m' ∧ (m'.fold = m.fold → call.request.identityID = senderID ∧
      ∀ identityID, peerMessageID ∈ shownCopies m t identityID ↔ identityID = peerID)
  | .selfSaved m' _ peerMessageID selfMessageID => m'.fold = m.fold →
      (∀ identityID, peerMessageID ∈ shownCopies m t identityID ↔ identityID = peerID) ∧
      ∀ identityID, selfMessageID ∈ shownCopies m t identityID ↔ identityID = senderID
  | _ => True

/-- One call at a time revises the message, and if none does, either inbox shows one copy. -/
structure Inv (m : Thread) (senderID peerID : UUID) (p : System) : Prop where
  peer : (findIdentityByGaiaID p.shared.identities m.recipient Posting.Identity.isActive).map Prod.fst = some peerID
  referential : Referential p.shared
  good : ∀ n call, p.calls.get? n = some call → call.Good m senderID peerID p.shared
  alone : ∀ n k call other, p.calls.get? n = some call → p.calls.get? k = some other →
    call.stage.revises m = true → other.stage.revises m = true → n = k
  shown : (∀ n call, p.calls.get? n = some call → call.stage.revises m = false) →
    OneShown m p.shared senderID ∧ OneShown m p.shared peerID

section Steps

variable {senderID peerID : UUID} {p : System} {n : Nat} {call : Call} {tick : Tick} {stage : Stage}

/-- A call that does not revise the message takes a step that leaves what is shown of it as it is. -/
theorem Inv.keep (h : Inv m senderID peerID p) (hcall : p.calls.get? n = some call) {t : Tables}
    (hidentities : t.identities = p.shared.identities) (href : Referential t)
    (hshown : ∀ identityID id, id ∈ shownCopies m t identityID ↔ id ∈ shownCopies m p.shared identityID)
    (hgood : (⟨call.request, stage⟩ : Call).Good m senderID peerID t)
    (hold : call.stage.revises m = false) (hnew : stage.revises m = false) :
    Inv m senderID peerID ⟨t, p.calls.put n ⟨call.request, stage⟩⟩ where
  peer := by rw [hidentities]; exact h.peer
  referential := href
  good k other hother := by
    simp only [Table.get?_put] at hother
    split at hother
    · grind
    have := h.good k other hother
    unfold Call.Good at this ⊢
    simp only [hshown]
    exact this
  alone k l first second hfirst hsecond hk hl := by
    grind [h.alone]
  shown hnone := by
    have hbefore : ∀ k other, p.calls.get? k = some other → other.stage.revises m = false := by
      intro k other hother
      by_cases hk : k = n
      · subst hk
        obtain rfl := Option.some.inj (hcall.symm.trans hother)
        exact hold
      · exact hnone k other (by grind)
    obtain ⟨hsender, hpeer⟩ := h.shown hbefore <;> grind [oneShown_congr]

theorem Inv.revise (h : Inv m senderID peerID p) {t : Tables}
    (hidentities : t.identities = p.shared.identities) (href : Referential t)
    (hgood : (⟨call.request, stage⟩ : Call).Good m senderID peerID t)
    (hothers : ∀ k other, k ≠ n → p.calls.get? k = some other → other.stage.revises m = false)
    (hshown : stage.revises m = false → OneShown m t senderID ∧ OneShown m t peerID) :
    Inv m senderID peerID ⟨t, p.calls.put n ⟨call.request, stage⟩⟩ where
  peer := by rw [hidentities]; exact h.peer
  referential := href
  good k other hother := by
    simp only [Table.get?_put] at hother
    split at hother
    · grind
    rename_i hk
    have hidle := hothers k other hk hother
    have := h.good k other hother
    unfold Call.Good at this ⊢
    unfold Stage.revises at hidle
    -- what a call knows of the store, it knows only while it revises
    cases hstage : other.stage with
    | peerSaved m' | selfSaved m' =>
      grind
    | _ =>
      rw [hstage] at this
      exact this
  alone k l first second hfirst hsecond hk hl := by
    grind
  shown hnone := hshown (hnone n ⟨call.request, stage⟩ (by simp))

theorem Inv.read (h : Inv m senderID peerID p) (hcall : p.calls.get? n = some call)
    (hold : call.stage.revises m = false) {answer : Except EditError Stage}
    (hanswer : ∀ stage, answer = .ok stage → stage.revises m = false ∧
      (⟨call.request, stage⟩ : Call).Good m senderID peerID p.shared) :
    Inv m senderID peerID ⟨p.shared, p.calls.put n ⟨call.request, stageOf answer⟩⟩ := by
  cases answer with
  | error err => exact h.keep hcall rfl h.referential (fun _ _ => Iff.rfl) trivial hold rfl
  | ok stage => grind [h.keep, Inv, stageOf]

variable {req : EditRequest}

@[grind →]
theorem authorize_ok (h : authorize req tick t = .ok stage) : stage = .owned := by
  obtain ⟨-, -, h⟩ := bind_eq_ok.1 h
  obtain ⟨-, -, h⟩ := bind_eq_ok.1 h
  obtain ⟨-, -, h⟩ := bind_eq_ok.1 h
  obtain ⟨-, -, h⟩ := bind_eq_ok.1 h
  obtain ⟨-, -, h⟩ := bind_eq_ok.1 h
  exact (Except.ok.inj h).symm

@[grind →]
theorem checkDevices_ok (h : checkDevices req tick t = .ok stage) : stage = .unpaired := by
  obtain ⟨-, -, h⟩ := bind_eq_ok.1 h
  obtain ⟨-, -, h⟩ := bind_eq_ok.1 h
  exact (Except.ok.inj h).symm

@[grind →]
theorem findOriginal_ok (h : findOriginal req tick t = .ok stage) :
    ∃ e, original req t = some e ∧ trimSpace e.clientMessageID ≠ "" ∧ req.Names (threadOf e) ∧
      stage = .selected (threadOf e) := by
  obtain ⟨-, -, h⟩ := bind_eq_ok.1 h
  split at h
  · cases h
  rename_i e he
  obtain ⟨⟨⟩, hid, h⟩ := bind_eq_ok.1 h
  obtain ⟨⟨⟩, hnames, h⟩ := bind_eq_ok.1 h
  rw [ensure_eq_ok, decide_eq_true_eq] at hid
  rw [ensure_eq_ok, Bool.and_eq_true, decide_eq_true_eq, decide_eq_true_eq] at hnames
  exact ⟨e, he, hid, hnames, (Except.ok.inj h).symm⟩

@[grind →]
theorem findPeer_ok (h : findPeer tick t m = .ok stage) :
    ∃ r, findIdentityByGaiaID t.identities m.recipient Posting.Identity.isActive = some r ∧
      stage = .addressed m r.1 tick.now := by
  obtain ⟨-, -, h⟩ := bind_eq_ok.1 h
  split at h
  · cases h
  rename_i id ident hfound
  exact ⟨(id, ident), hfound, (Except.ok.inj h).symm⟩

theorem findIdentityByGaiaID_congr {identities : Table UUID Posting.Identity} {gaiaID gaiaID' : String}
    (h : toLower gaiaID = toLower gaiaID') (q : Posting.Identity → Bool) :
    findIdentityByGaiaID identities gaiaID q = findIdentityByGaiaID identities gaiaID' q := by
  unfold findIdentityByGaiaID
  rw [h]

variable {data : Bytes} {now savedAt : Nat} {source : UUID}

theorem has_revision (h : (extractMessageProofInput data).2 = m'.clientMessageID) :
    m.has ((revision req tick m' now data source).row savedAt) = true ↔ m'.fold = m.fold := by
  have hthread : threadOf ((revision req tick m' now data source).row savedAt) = m' := by
    simp only [threadOf, Posting.Message.row, revision, h]
  have hchannel : ((revision req tick m' now data source).row savedAt).channelID = "" := rfl
  simp only [Thread.has, hthread, hchannel, decide_true, Bool.true_and, decide_eq_true_eq]

/-- A save for this message shows the new copy to the one it is for, and changes nothing of the other copies. -/
theorem mem_shownCopies_saved {recipientID : UUID} (href : Referential t) (hfree : t.envelopes.get? tick.id = none)
    (hnames : (extractMessageProofInput data).2 = m'.clientMessageID) (identityID id : UUID) :
    id ∈ shownCopies m (t.insertMessage savedAt (revision req tick m' now data source) [recipientID]) identityID ↔
      id ∈ shownCopies m t identityID ∨ m'.fold = m.fold ∧ id = tick.id ∧ identityID = recipientID := by
  grind [mem_shownCopies_insertMessage, revision, has_revision]

theorem not_mem_shownCopies (hfree : t.envelopes.get? id = none) : id ∉ shownCopies m t identityID := by
  grind [mem_shownCopies]

variable {m' : Thread}

theorem inv_addressed {peerIdentityID : UUID} (h : Inv m senderID peerID p)
    (hcall : p.calls.get? n = some call) (hstage : call.stage = .addressed m' peerIdentityID now)
    (hok : call.Orderly m senderID p tick) :
    Inv m senderID peerID ⟨(next tick p.shared call).1, p.calls.put n (next tick p.shared call).2⟩ := by
  have hold : call.stage.revises m = false := by rw [hstage]; rfl
  have hgood := h.good n call hcall
  simp only [Call.Good, hstage] at hgood
  obtain ⟨hnames, hpeer⟩ := hgood
  simp only [Call.Orderly, hstage] at hok
  simp only [next, hstage, nextStage, saveRevision]
  split
  · exact h.keep hcall rfl h.referential (fun _ _ => Iff.rfl) trivial hold rfl
  rename_i t' hsave
  obtain ⟨-, hid, rfl⟩ := saveMessageEnvelopeWithInbox_eq_some.1 hsave
  have hfree : p.shared.envelopes.get? tick.id = none := hid
  by_cases hsame : m'.fold = m.fold
  · obtain ⟨hidentity, hidle⟩ := hok hsame
    refine h.revise rfl (referential_insertMessage h.referential hid) ⟨hnames, fun _ => ⟨hidentity, fun identityID => ?_⟩⟩ ?_ ?_
    · rw [mem_shownCopies_saved h.referential hfree hnames.1, hpeer hsame]
      simp [hsame, not_mem_shownCopies hfree]
    · intro k other _ hother
      have := List.countP_eq_zero.1 hidle (k, other) (Table.get?_eq_some.1 hother)
      simpa using this
    grind [Stage.revises]
  · refine h.keep hcall rfl (referential_insertMessage h.referential hid) ?_ ⟨hnames, fun hsame' => absurd hsame' hsame⟩ hold ?_
    · simp [mem_shownCopies_saved h.referential hfree hnames.1, hsame]
    · simp [Stage.revises, hsame]

theorem inv_peerSaved {peerMessageID : UUID} (h : Inv m senderID peerID p)
    (hcall : p.calls.get? n = some call) (hstage : call.stage = .peerSaved m' now peerMessageID)
    (hok : call.Orderly m senderID p tick) :
    Inv m senderID peerID ⟨(next tick p.shared call).1, p.calls.put n (next tick p.shared call).2⟩ := by
  have hgood := h.good n call hcall
  simp only [Call.Good, hstage] at hgood
  obtain ⟨hnames, hrevises⟩ := hgood
  simp only [Call.Orderly, hstage] at hok
  simp only [next, hstage, nextStage, saveRevision]
  by_cases hsame : m'.fold = m.fold
  · obtain ⟨hruns, hfree⟩ := hok hsame
    rw [Option.isNone_iff_eq_none] at hfree
    obtain ⟨hidentity, hpeer⟩ := hrevises hsame
    have hsaved : ∀ message recipientIDs, p.shared.envelopes.get? message.id = none →
        saveMessageEnvelopeWithInbox tick.fails tick.now p.shared message recipientIDs =
          some (p.shared.insertMessage tick.now message recipientIDs) :=
      fun _ _ hid => saveMessageEnvelopeWithInbox_eq_some.2 ⟨hruns, hid, rfl⟩
    have hne : peerMessageID ≠ tick.id := by
      rintro rfl
      exact not_mem_shownCopies hfree ((hpeer peerID).2 rfl)
    have hrevising : call.stage.revises m = true := by simp [hstage, Stage.revises, hsame]
    rw [hsaved _ _ hfree]
    refine h.revise rfl (referential_insertMessage h.referential hfree) (fun _ => ⟨fun identityID => ?_, fun identityID => ?_⟩)
      ?_ ?_
    · rw [mem_shownCopies_saved h.referential hfree hnames.2, hpeer]
      simp [hne]
    · rw [mem_shownCopies_saved h.referential hfree hnames.2, hidentity]
      simp [hsame, not_mem_shownCopies hfree]
    · grind [h.alone]
    grind [Stage.revises]
  · have hold : call.stage.revises m = false := by simp [hstage, Stage.revises, hsame]
    split
    · exact h.keep hcall rfl h.referential (fun _ _ => Iff.rfl) trivial hold rfl
    rename_i t' hsave
    obtain ⟨-, hfree, rfl⟩ := saveMessageEnvelopeWithInbox_eq_some.1 hsave
    refine h.keep hcall rfl (referential_insertMessage h.referential hfree) ?_ (fun hsame' => absurd hsame' hsame) hold ?_
    · simp [mem_shownCopies_saved h.referential hfree hnames.2, hsame]
    · simp [Stage.revises, hsame]

theorem inv_selfSaved {peerMessageID selfMessageID : UUID} (hne : peerID ≠ senderID)
    (h : Inv m senderID peerID p) (hcall : p.calls.get? n = some call)
    (hstage : call.stage = .selfSaved m' now peerMessageID selfMessageID) (hok : call.Orderly m senderID p tick) :
    Inv m senderID peerID ⟨(next tick p.shared call).1, p.calls.put n (next tick p.shared call).2⟩ := by
  have hgood := h.good n call hcall
  simp only [Call.Good, hstage] at hgood
  simp only [Call.Orderly, hstage] at hok
  by_cases hfails : tick.fails = true
  · have hother : ¬ m'.fold = m.fold := fun hsame => by rw [hok hsame] at hfails; cases hfails
    have hold : call.stage.revises m = false := by simp [hstage, Stage.revises, hother]
    simp only [next, hstage, nextStage, replaceOthers, hfails, if_true]
    exact h.keep hcall rfl h.referential (fun _ _ => Iff.rfl) trivial hold rfl
  · have hruns : tick.fails = false := by simpa using hfails
    have hshown : ∀ identityID id,
        id ∈ shownCopies m (replaceOthers call.request tick p.shared m' now peerMessageID selfMessageID).1 identityID ↔
          id ∈ shownCopies m p.shared identityID ∧ (m'.fold = m.fold → id = peerMessageID ∨ id = selfMessageID) :=
      fun _ _ => mem_shownCopies_replaceOthers hruns
    have href : Referential (replaceOthers call.request tick p.shared m' now peerMessageID selfMessageID).1 := by
      intro b hb
      simp only [replaceOthers, hruns, Bool.false_eq_true, if_false] at hb ⊢
      rw [Table.get?_updateWhere, Option.isSome_map]
      exact h.referential b hb
    have hdone : (replaceOthers call.request tick p.shared m' now peerMessageID selfMessageID).2 =
        .finished (.ok selfMessageID) := by
      simp only [replaceOthers, hruns, Bool.false_eq_true, if_false]
    have hidentities : (replaceOthers call.request tick p.shared m' now peerMessageID selfMessageID).1.identities =
        p.shared.identities := by
      simp only [replaceOthers, hruns, Bool.false_eq_true, if_false]
    simp only [next, hstage, nextStage, hdone]
    by_cases hsame : m'.fold = m.fold
    · obtain ⟨hpeer, hself⟩ := hgood hsame
      have hrevising : call.stage.revises m = true := by simp [hstage, Stage.revises, hsame]
      refine h.revise hidentities href trivial ?_ fun _ => ⟨⟨selfMessageID, ?_, ?_⟩, ⟨peerMessageID, ?_, ?_⟩⟩
      · intro k other hk hother
        by_contra hbusy
        exact hk (h.alone k n other call hother hcall (by simpa using hbusy) hrevising)
      · exact (hshown _ _).2 ⟨(hself _).2 rfl, fun _ => .inr rfl⟩
      · intro id hid
        obtain ⟨hmem, hnew⟩ := (hshown _ _).1 hid
        rcases hnew hsame with rfl | rfl
        · exact absurd ((hpeer _).1 hmem).symm hne
        · rfl
      · exact (hshown _ _).2 ⟨(hpeer _).2 rfl, fun _ => .inl rfl⟩
      · intro id hid
        obtain ⟨hmem, hnew⟩ := (hshown _ _).1 hid
        rcases hnew hsame with rfl | rfl
        · rfl
        · exact absurd ((hself _).1 hmem) hne
    · have hold : call.stage.revises m = false := by simp [hstage, Stage.revises, hsame]
      refine h.keep hcall hidentities href (fun identityID id => ?_) trivial hold rfl
      rw [hshown]
      exact and_iff_left fun hsame' => absurd hsame' hsame

theorem inv_step (hne : peerID ≠ senderID) {e : Event} (h : Inv m senderID peerID p) (hok : Orderly m senderID p e) :
    Inv m senderID peerID (step p e) := by
  refine Pool.step_cases h (fun n req _ => ?_) ?_
  · refine ⟨h.peer, h.referential, fun k call hcall => ?_, fun k l first second hfirst hsecond hk hl => ?_, fun hnone => ?_⟩
    · obtain hbefore | rfl := Pool.get?_start hcall
      · exact h.good k call hbefore
      · trivial
    · obtain hfirst | rfl := Pool.get?_start hfirst
      · obtain hsecond | rfl := Pool.get?_start hsecond
        · grind [h.alone]
        · cases hl
      · cases hk
    · exact h.shown fun k call hcall => hnone k call (Pool.get?_start_of_some req hcall)
  · rintro n tick call rfl hcall
    have hcallok : call.Orderly m senderID p tick := hok call hcall
    have hgood := h.good n call hcall
    rw [Pool.step_advance hcall]
    cases hstage : call.stage with
    | submitted =>
      simp only [next, hstage, nextStage]
      refine h.read hcall (by rw [hstage]; rfl) fun stage hanswer => ?_
      rw [authorize_ok hanswer]
      exact ⟨rfl, trivial⟩
    | owned =>
      simp only [next, hstage, nextStage]
      refine h.read hcall (by rw [hstage]; rfl) fun stage hanswer => ?_
      rw [checkDevices_ok hanswer]
      exact ⟨rfl, trivial⟩
    | unpaired =>
      simp only [next, hstage, nextStage]
      refine h.read hcall (by rw [hstage]; rfl) fun stage hanswer => ?_
      grind [Stage.revises, Call.Good]
    | selected m' =>
      simp only [Call.Good, hstage] at hgood
      simp only [next, hstage, nextStage]
      refine h.read hcall (by rw [hstage]; rfl) fun stage hanswer => ?_
      obtain ⟨r, hfound, rfl⟩ := findPeer_ok hanswer
      refine ⟨rfl, hgood, fun hsame => ?_⟩
      have hfolded : toLower m'.recipient = toLower m.recipient := congrArg Thread.recipient hsame
      grind [h.peer, findIdentityByGaiaID_congr]
    | addressed m' peerIdentityID now => exact inv_addressed h hcall hstage hcallok
    | peerSaved m' now peerMessageID => exact inv_peerSaved h hcall hstage hcallok
    | selfSaved m' now peerMessageID selfMessageID => exact inv_selfSaved hne h hcall hstage hcallok
    | finished result =>
      simp only [next, hstage, nextStage]
      exact h.keep hcall rfl h.referential (fun _ _ => Iff.rfl) trivial (by rw [hstage]; rfl) rfl

end Steps

/-! ## A call that runs alone -/

/-- The identity is the caller's, or the one the original is addressed to. -/
def Addressee (req : EditRequest) (t : Tables) (e : Posting.Envelope) (identityID : UUID) : Prop :=
  identityID = req.identityID ∨
    (findIdentityByGaiaID t.identities e.recipient Posting.Identity.isActive).map Prod.fst = some identityID

/-- No message is lost, and the rows of inboxes that were added are of new messages in the name of the original's
sender. -/
def Delivers (req : EditRequest) (t₀ t : Tables) : Prop :=
  (∀ id, t.envelopes.get? id = none → t₀.envelopes.get? id = none) ∧
    ∃ rows, t.inboxes = t₀.inboxes ++ rows ∧ ∀ b ∈ rows, t₀.envelopes.get? b.messageID = none ∧
      ∃ e env, original req t₀ = some e ∧ t.envelopes.get? b.messageID = some env ∧ env.sender = e.sender ∧
        Addressee req t₀ e b.identityID

/-- The rows that were there are there, under ids that are not new. -/
def Kept (t₀ t : Tables) (new : List UUID) : Prop :=
  ∀ id row, t₀.envelopes.get? id = some row → t.envelopes.get? id = some row ∧ id ∉ new

/-- How far a call has come with no other in between. -/
def Progress (req : EditRequest) (t₀ t : Tables) : Stage → Prop
  | .submitted | .owned | .unpaired => t = t₀
  | .selected m => t = t₀ ∧ ∃ e, original req t₀ = some e ∧ m = threadOf e
  | .addressed m peerIdentityID _ => t = t₀ ∧ ∃ e, original req t₀ = some e ∧ m = threadOf e ∧
      Addressee req t₀ e peerIdentityID
  | .peerSaved m _ peerMessageID => (∃ e, original req t₀ = some e ∧ m = threadOf e) ∧ Kept t₀ t [peerMessageID]
  | .selfSaved m _ peerMessageID selfMessageID => (∃ e, original req t₀ = some e ∧ m = threadOf e) ∧
      Kept t₀ t [peerMessageID, selfMessageID]
  | .finished (.ok _) => ∃ e, original req t₀ = some e ∧ ∀ id row, t₀.envelopes.get? id = some row →
      ∃ row', t.envelopes.get? id = some row' ∧
        (row'.replacedByMessageID = "" ↔ row.replacedByMessageID = "" ∧ (threadOf e).has row = false)
  | .finished (.error _) => True

section Alone

variable {req : EditRequest} {t₀ : Tables} {tick : Tick}

theorem delivers_refl : Delivers req t₀ t₀ := ⟨fun _ h => h, [], by simp, nofun⟩

variable {message : Message}

theorem delivers_save {e : Posting.Envelope} {recipientID : UUID} (h : Delivers req t₀ t)
    (he : original req t₀ = some e) (hfree : t.envelopes.get? message.id = none) (hsender : message.sender = e.sender)
    (hto : Addressee req t₀ e recipientID) (now : Nat) :
    Delivers req t₀ (t.insertMessage now message [recipientID]) := by
  obtain ⟨hkept, rows, hrows, hnew⟩ := h
  refine ⟨fun id hid => ?_, rows ++ [message.inboxRow t now recipientID], ?_, fun b hb => ?_⟩
  · grind [get?_insertMessage]
  · grind [Tables.insertMessage]
  · rcases List.mem_append.1 hb with hb | hb
    · grind [get?_insertMessage]
    · obtain rfl := List.mem_singleton.1 hb
      exact ⟨hkept _ hfree, e, message.row now, he, (get?_insertMessage hfree ..).trans (if_pos rfl), hsender, hto⟩

theorem kept_save {new : List UUID} {recipientIDs : List UUID} (h : Kept t₀ t new)
    (hfree : t.envelopes.get? message.id = none) (now : Nat) :
    Kept t₀ (t.insertMessage now message recipientIDs) (new ++ [message.id]) := by
  intro id row hrow
  obtain ⟨hkept, hold⟩ := h id row hrow
  have hne : id ≠ message.id := by
    grind
  grind [get?_insertMessage]

theorem replaceOthers_delivers {m : Thread} {now : Nat} {peerMessageID selfMessageID : UUID} (h : Delivers req t₀ t) :
    Delivers req t₀ (replaceOthers req tick t m now peerMessageID selfMessageID).1 := by
  unfold replaceOthers
  split
  · exact h
  obtain ⟨hkept, rows, hrows, hnew⟩ := h
  refine ⟨fun id hid => hkept id (by simpa using hid), rows, hrows, fun b hb => ?_⟩
  obtain ⟨hfresh, e, env, he, henv, hsender, hto⟩ := hnew b hb
  refine ⟨hfresh, e, _, he, by rw [Table.get?_updateWhere, henv, Option.map_some], ?_, hto⟩
  split
  · exact hsender
  exact hsender

theorem replaceOthers_progress {e : Posting.Envelope} {now : Nat} {peerMessageID selfMessageID : UUID}
    (he : original req t₀ = some e) (hkept : Kept t₀ t [peerMessageID, selfMessageID]) :
    Progress req t₀ (replaceOthers req tick t (threadOf e) now peerMessageID selfMessageID).1
      (replaceOthers req tick t (threadOf e) now peerMessageID selfMessageID).2 := by
  unfold replaceOthers
  split
  · trivial
  refine ⟨e, he, fun id row hrow => ?_⟩
  obtain ⟨hrow', hold⟩ := hkept id row hrow
  simp only [List.mem_cons, List.not_mem_nil, or_false, not_or] at hold
  simp only [Table.get?_updateWhere, hrow', Option.map_some, Option.some.injEq, exists_eq_left', hold.1, hold.2,
    ne_eq, not_false_eq_true, decide_true, Bool.and_self, Bool.and_true]
  grind [text_ne_empty]

theorem saveRevision_cases {recipientID : UUID} {stage : Stage} :
    saveRevision tick t message recipientID stage = (t, .finished (.error .database)) ∨
      t.envelopes.get? message.id = none ∧
        saveRevision tick t message recipientID stage = (t.insertMessage tick.now message [recipientID], stage) := by
  grind [saveRevision]

theorem stageOf_progress {answer : Except EditError Stage} (h : ∀ stage, answer = .ok stage → Progress req t₀ t stage) :
    Progress req t₀ t (stageOf answer) := by
  cases answer <;> grind [Progress, stageOf]

theorem nextStage_progress {stage : Stage} (h : Progress req t₀ t stage) (hdelivers : Delivers req t₀ t) :
    Progress req t₀ (nextStage req tick t stage).1 (nextStage req tick t stage).2 ∧
      Delivers req t₀ (nextStage req tick t stage).1 := by
  cases stage with
  | submitted =>
    refine ⟨stageOf_progress fun stage hanswer => ?_, hdelivers⟩
    rw [authorize_ok hanswer]
    exact h
  | owned =>
    refine ⟨stageOf_progress fun stage hanswer => ?_, hdelivers⟩
    rw [checkDevices_ok hanswer]
    exact h
  | unpaired =>
    obtain rfl : t = t₀ := h
    refine ⟨stageOf_progress fun stage hanswer => ?_, hdelivers⟩
    grind [Progress, nextStage]
  | selected m =>
    obtain ⟨rfl, e, he, rfl⟩ := h
    refine ⟨stageOf_progress fun stage hanswer => ?_, hdelivers⟩
    obtain ⟨r, hfound, rfl⟩ := findPeer_ok hanswer
    exact ⟨rfl, e, he, rfl, .inr (by rw [show e.recipient = (threadOf e).recipient from rfl, hfound]; rfl)⟩
  | addressed m peerIdentityID now =>
    obtain ⟨rfl, e, he, rfl, hto⟩ := h
    simp only [nextStage]
    rcases saveRevision_cases with hfailed | ⟨hfree, hsaved⟩
    · rw [hfailed]
      exact ⟨trivial, hdelivers⟩
    · rw [hsaved]
      have hkept : Kept t t [] := fun id row hrow => ⟨hrow, by simp⟩
      exact ⟨⟨⟨e, he, rfl⟩, kept_save hkept hfree _⟩, delivers_save hdelivers he hfree rfl hto _⟩
  | peerSaved m now peerMessageID =>
    obtain ⟨⟨e, he, rfl⟩, hkept⟩ := h
    simp only [nextStage]
    rcases saveRevision_cases with hfailed | ⟨hfree, hsaved⟩
    · rw [hfailed]
      exact ⟨trivial, hdelivers⟩
    · rw [hsaved]
      exact ⟨⟨⟨e, he, rfl⟩, kept_save hkept hfree _⟩, delivers_save hdelivers he hfree rfl (.inl rfl) _⟩
  | selfSaved m now peerMessageID selfMessageID =>
    obtain ⟨⟨e, he, rfl⟩, hkept⟩ := h
    exact ⟨replaceOthers_progress he hkept, replaceOthers_delivers hdelivers⟩
  | finished result => exact ⟨h, hdelivers⟩

/-- `EditDirectMessageForUser` with no other call in between. -/
def editDirectMessageForUser (req : EditRequest) (ticks : List Tick) (t : Tables) : Tables × Call :=
  Pool.alone next t (submit req) ticks

theorem editDirectMessageForUser_spec (req : EditRequest) (ticks : List Tick) (t₀ : Tables) :
    Progress req t₀ (editDirectMessageForUser req ticks t₀).1 (editDirectMessageForUser req ticks t₀).2.stage ∧
      Delivers req t₀ (editDirectMessageForUser req ticks t₀).1 := by
  have hnext : ∀ (tick : Tick) (t : Tables) (call : Call),
      call.request = req ∧ Progress req t₀ t call.stage ∧ Delivers req t₀ t →
        (next tick t call).2.request = req ∧ Progress req t₀ (next tick t call).1 (next tick t call).2.stage ∧
          Delivers req t₀ (next tick t call).1 := by
    grind [nextStage_progress, next]
  have hinit : (submit req).request = req ∧ Progress req t₀ t₀ (submit req).stage ∧ Delivers req t₀ t₀ :=
    ⟨rfl, rfl, delivers_refl⟩
  exact (Pool.alone_invariant hnext hinit ticks).2

end Alone

def Call.ended (call : Call) : Bool :=
  match call.stage with
  | .finished _ => true
  | _ => false

def sampleThread : Thread := ⟨"@a:x", "@b:x", "c"⟩

def sampleCopy : Posting.Envelope where
  type := "gaia.encrypted.v1"
  sender := "@a:x"
  recipient := "@b:x"
  payload := bytes "\x7b\"client_message_id\":\"c\"\x7d"
  signature := ""
  channelID := ""
  readReceiptSourceID := ""
  clientMessageID := "c"
  replacedByMessageID := ""
  editedAt := ""
  createdAt := "2026-07-17T12:00:00Z"

def sampleTables : Tables where
  identities := (Table.empty.insertOrIgnore (.ofByte 1) ⟨.ofByte 11, "@a:x", "", true⟩).insertOrIgnore
    (.ofByte 2) ⟨.ofByte 12, "@b:x", "", true⟩
  deviceKeys := Table.empty
  contacts := Table.empty
  abuse := ⟨[], Table.empty⟩
  envelopes := (Table.empty.insertOrIgnore (.ofByte 21) sampleCopy).insertOrIgnore (.ofByte 22) sampleCopy
  inboxes := [⟨.ofByte 2, .ofByte 21, false, true, false⟩, ⟨.ofByte 1, .ofByte 22, false, true, false⟩]
  states := Table.empty
  queue := []

def sampleEdit : EditRequest where
  userID := .ofByte 11
  identityID := .ofByte 1
  originalMessageID := .ofByte 22
  peerEnvelopeData := bytes "\x7b\"client_message_id\":\"c\"\x7d"
  selfEnvelopeData := bytes "\x7b\"client_message_id\":\"c\"\x7d"

def sampleStep (n : Nat) (id : UInt8) : Event := .advance n ⟨63919886460 * second, .ofByte id, false⟩

def sampleStart : List Event :=
  [.start 1 sampleEdit, .start 2 sampleEdit, sampleStep 1 0, sampleStep 1 0, sampleStep 1 0, sampleStep 1 0,
    sampleStep 2 0, sampleStep 2 0, sampleStep 2 0, sampleStep 2 0]

theorem sample_shown : OneShown sampleThread sampleTables (.ofByte 1) ∧ OneShown sampleThread sampleTables (.ofByte 2) :=
  ⟨oneShown_of_eq (show _ = [.ofByte 22] by decide +kernel), oneShown_of_eq (show _ = [.ofByte 21] by decide +kernel)⟩

def sampleOrderly : List Event :=
  sampleStart ++ [sampleStep 1 31, sampleStep 1 32, sampleStep 1 0, sampleStep 2 33, sampleStep 2 34, sampleStep 2 0]

def sampleOverlap : List Event :=
  sampleStart ++ [sampleStep 1 31, sampleStep 1 32, sampleStep 2 33, sampleStep 2 34, sampleStep 1 0, sampleStep 2 0]

end GaiaCom.Messaging.Editing
