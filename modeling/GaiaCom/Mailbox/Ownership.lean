/-
Mailbox objects: the seven writing calls of mailbox/service.go and the statements of sql_store_mailbox.go they run.

The service writes the caller into the object, but drafts, contacts and filter rules are upserted on their id alone,
and the update keeps the row's owner and replaces everything else. So a call touches none but the caller's rows
exactly if the id it names is not that of someone else's row, or it changes nothing (`mailbox_framed_iff`).
-/
import GaiaCom.Core.Validate
import GaiaCom.Federation.Wire
import GaiaCom.Lib.Table

namespace GaiaCom.Mailbox

open Lib Core GaiaCom.Store
open Federation.Wire (Bytes bytes)

/-! ## Rows -/

/-- What the ownership query looks at of a row of identities. -/
structure Identity where
  userID : UUID
  isActive : Bool

/-- A row of mail_drafts. -/
structure DraftRow where
  userID : UUID
  identityID : UUID
  recipientGaia : Bytes
  recipientIDs : Bytes
  subject : Bytes
  body : Bytes
  envelopeDraft : Bytes
  attachments : Bytes
  scheduledFor : String
  securityWarning : Bytes
  createdAt : String
  updatedAt : String
  deriving DecidableEq

/-- A row of mail_labels. -/
structure LabelRow where
  userID : UUID
  name : Bytes
  color : Bytes
  createdAt : String
  updatedAt : String
  deriving DecidableEq

/-- A row of mail_contacts. -/
structure ContactRow where
  userID : UUID
  gaiaID : Bytes
  displayName : Bytes
  email : Bytes
  trustNote : Bytes
  publicKey : Bytes
  blocked : Bool
  createdAt : String
  updatedAt : String
  deriving DecidableEq

/-- A row of mail_filter_rules. -/
structure FilterRuleRow where
  userID : UUID
  senderContains : Bytes
  subjectContains : Bytes
  assignLabel : Bytes
  targetFolder : String
  markImportant : Bool
  enabled : Bool
  createdAt : String
  updatedAt : String
  deriving DecidableEq

/-- A row of mail_settings, under its user. -/
structure SettingsRow where
  signature : Bytes
  locale : Bytes
  theme : Bytes
  keyboardMode : Bytes
  onboardingDone : Bool
  updatedAt : String
  deriving DecidableEq

/-- A row of mailbox_states, under user, identity and message. -/
structure StateRow where
  folder : String
  isRead : Bool
  isStarred : Bool
  isImportant : Bool
  isSpam : Bool
  isArchived : Bool
  labels : Bytes
  snoozedUntil : String
  updatedAt : String
  deriving DecidableEq

/-- A row of inboxes. -/
structure InboxRow where
  identityID : UUID
  messageID : UUID
  isRead : Bool
  delivered : Bool
  untrusted : Bool
  deriving DecidableEq

structure Store where
  users : List UUID
  identities : Table UUID Identity
  messages : List UUID
  drafts : Table UUID DraftRow
  labels : Table UUID LabelRow
  contacts : Table UUID ContactRow
  filterRules : Table UUID FilterRuleRow
  settings : Table UUID SettingsRow
  states : Table (UUID × UUID × UUID) StateRow
  inboxes : Table Nat InboxRow

/-! ## Arguments -/

/-- `models.MailboxState` as the caller sends it. -/
structure MailboxState where
  messageID : UUID
  folder : String
  isRead : Bool
  isStarred : Bool
  isImportant : Bool
  isSpam : Bool
  isArchived : Bool
  labels : Bytes
  snoozedUntil : Nat

/-- `models.MailDraft` as the caller sends it. -/
structure MailDraft where
  id : UUID
  identityID : UUID
  recipientGaia : String
  recipientIDs : Bytes
  subject : String
  body : String
  envelopeDraft : Bytes
  attachments : Bytes
  scheduledFor : Nat
  securityWarning : String
  createdAt : Nat

/-- `models.MailLabel` as the caller sends it. -/
structure MailLabel where
  id : UUID
  name : String
  color : String
  createdAt : Nat

/-- `models.MailContact` as the caller sends it. -/
structure MailContact where
  id : UUID
  gaiaID : String
  displayName : String
  email : String
  trustNote : String
  publicKey : String
  blocked : Bool
  createdAt : Nat

/-- `models.MailFilterRule` as the caller sends it. -/
structure MailFilterRule where
  id : UUID
  senderContains : String
  subjectContains : String
  assignLabel : String
  targetFolder : String
  markImportant : Bool
  enabled : Bool
  createdAt : Nat

/-- `models.MailSettings` as the caller sends it. -/
structure MailSettings where
  signature : String
  locale : String
  theme : String
  keyboardMode : String
  onboardingDone : Bool

/-- Who calls, the clock, the id the call would draw, the lower-case mapping, and which statements fail. -/
structure Call where
  userID : UUID
  now : Nat
  newID : UUID
  casing : CaseMap
  ownershipFails : Bool
  statementFails : Bool

inductive MailboxError where
  | identity | notAuthorized | batch | messageID | labels | attachments | envelope | draftID | labelName
  | contactAddress | filterCondition | filterAction | noRows | database
  deriving DecidableEq

/-! ## Cleaning -/

/-- `trimLimit`: the cut may fall inside a character. -/
def trimLimit (value : String) (limit : Nat) : Bytes := (bytes (trimSpace value)).take limit

/-- `cleanFolder`, and `normalizeFolder` of the store. -/
def cleanFolder (k : CaseMap) (value : String) : String :=
  let folder := String.ofList ((trim value.toList).map k.lower)
  if folder ∈ ["", "all", "inbox", "sent", "drafts", "trash", "archive", "spam", "snoozed"] then folder else "inbox"

/-- `legacyWarning` for a recipient that is already trimmed. -/
def legacyWarning (recipient : Bytes) (provided : String) : Bytes :=
  if trimSpace provided ≠ "" then trimLimit provided 512
  else if 0x40 ∈ recipient ∧ recipient.head? ≠ some 0x40 then
    bytes "SMTP-Legacy: Nachricht verlässt den nativen GaiaCOM-Sicherheitskontext."
  else []

/-- `json.Valid`. -/
def validJSON (data : Bytes) : Bool := (Json.parseChars (Utf8.text data)).isSome

/-- `default` in the place of an empty value. -/
def orDefault (value default : Bytes) : Bytes := if value = [] then default else value

/-! ## Calls -/

section Calls

variable (c : Call)

def rowID (id : UUID) : UUID := if id = .nil then c.newID else id

def createdAt (id : UUID) (given : Nat) : String := formatTime (if id = .nil then c.now else given)

/-- `requireIdentity`. -/
def requireIdentity (identities : Table UUID Identity) (identityID : UUID) : Except MailboxError Unit := do
  ensure .identity (c.userID ≠ .nil && identityID ≠ .nil)
  ensure .database !c.ownershipFails
  ensure .notAuthorized ((identities.get? identityID).any fun i => i.userID = c.userID && i.isActive)

/-- `INSERT … ON CONFLICT(id) DO UPDATE`: only a new row has to refer to a user that exists. -/
def upsertRow {ρ : Type} (users : List UUID) (t : Table UUID ρ) (id : UUID) (new : ρ) (merge : ρ → ρ → ρ) :
    Except MailboxError (Table UUID ρ) :=
  if c.statementFails || ((t.get? id).isNone && !users.contains c.userID) then .error .database
  else .ok (t.upsert id new merge)

/-- The update of `SaveMailDraft`. -/
def DraftRow.merge (old new : DraftRow) : DraftRow :=
  { new with userID := old.userID, identityID := old.identityID, createdAt := old.createdAt }

/-- `SaveDraft` and `SaveMailDraft`. -/
def saveDraft (s : Store) (draft : MailDraft) : Except MailboxError (Table UUID DraftRow) := do
  requireIdentity c s.identities draft.identityID
  let recipientGaia := trimLimit draft.recipientGaia 256
  ensure .attachments (draft.attachments = [] || validJSON draft.attachments)
  ensure .envelope (draft.envelopeDraft = [] || validJSON draft.envelopeDraft)
  let row : DraftRow := {
    userID := c.userID
    identityID := draft.identityID
    recipientGaia := recipientGaia
    recipientIDs := orDefault draft.recipientIDs (bytes "[]")
    subject := trimLimit draft.subject 512
    body := trimLimit draft.body (128 * 1024)
    envelopeDraft := draft.envelopeDraft
    attachments := draft.attachments
    scheduledFor := formatTime draft.scheduledFor
    securityWarning := legacyWarning recipientGaia draft.securityWarning
    createdAt := createdAt c draft.id draft.createdAt
    updatedAt := formatTime c.now }
  upsertRow c s.users s.drafts (rowID c draft.id) row DraftRow.merge

/-- The update of `SaveMailContact`. -/
def ContactRow.merge (old new : ContactRow) : ContactRow :=
  { new with userID := old.userID, createdAt := old.createdAt }

/-- `SaveContact` and `SaveMailContact`. -/
def saveContact (users : List UUID) (contacts : Table UUID ContactRow) (contact : MailContact) :
    Except MailboxError (Table UUID ContactRow) := do
  let row : ContactRow := {
    userID := c.userID
    gaiaID := trimLimit contact.gaiaID 256
    displayName := trimLimit contact.displayName 160
    email := trimLimit contact.email 256
    trustNote := trimLimit contact.trustNote 512
    publicKey := trimLimit contact.publicKey 512
    blocked := contact.blocked
    createdAt := createdAt c contact.id contact.createdAt
    updatedAt := formatTime c.now }
  ensure .contactAddress (row.gaiaID ≠ [] || row.email ≠ [])
  upsertRow c users contacts (rowID c contact.id) row ContactRow.merge

/-- The update of `SaveMailFilterRule`. -/
def FilterRuleRow.merge (old new : FilterRuleRow) : FilterRuleRow :=
  { new with userID := old.userID, createdAt := old.createdAt }

/-- `SaveFilterRule` and `SaveMailFilterRule`. -/
def saveFilterRule (s : Store) (rule : MailFilterRule) : Except MailboxError (Table UUID FilterRuleRow) := do
  let targetFolder := cleanFolder c.casing rule.targetFolder
  let row : FilterRuleRow := {
    userID := c.userID
    senderContains := trimLimit rule.senderContains 256
    subjectContains := trimLimit rule.subjectContains 256
    assignLabel := trimLimit rule.assignLabel 80
    targetFolder := cleanFolder c.casing targetFolder
    markImportant := rule.markImportant
    enabled := rule.enabled
    createdAt := createdAt c rule.id rule.createdAt
    updatedAt := formatTime c.now }
  ensure .filterCondition (row.senderContains ≠ [] || row.subjectContains ≠ [])
  ensure .filterAction (targetFolder ≠ "" || row.assignLabel ≠ [] || rule.markImportant)
  upsertRow c s.users s.filterRules (rowID c rule.id) row FilterRuleRow.merge

/-- `SaveLabel` and `SaveMailLabel`: the conflict is on user and name; a taken id fails the statement otherwise. -/
def saveLabel (s : Store) (label : MailLabel) : Except MailboxError (Table UUID LabelRow) := do
  let row : LabelRow := {
    userID := c.userID
    name := trimLimit label.name 80
    color := trimLimit label.color 32
    createdAt := createdAt c label.id label.createdAt
    updatedAt := formatTime c.now }
  ensure .labelName (row.name ≠ [])
  let same : UUID → LabelRow → Bool := fun _ r => r.userID = row.userID && r.name = row.name
  if c.statementFails then .error .database
  else if 0 < s.labels.countWhere same then
    .ok (s.labels.updateWhere same fun old => { old with color := row.color, updatedAt := row.updatedAt })
  else do
    ensure .database ((s.labels.get? (rowID c label.id)).isNone && s.users.contains c.userID)
    return s.labels.insertOrIgnore (rowID c label.id) row

/-- `SaveSettings` and `SaveMailSettings`. -/
def saveSettings (s : Store) (settings : MailSettings) : Except MailboxError (Table UUID SettingsRow) :=
  let row : SettingsRow := {
    signature := trimLimit settings.signature 4096
    locale := orDefault (trimLimit settings.locale 16) (bytes "de")
    theme := orDefault (trimLimit settings.theme 24) (bytes "dark")
    keyboardMode := orDefault (trimLimit settings.keyboardMode 24) (bytes "default")
    onboardingDone := settings.onboardingDone
    updatedAt := formatTime c.now }
  upsertRow c s.users s.settings c.userID row fun _ new => new

/-- `DeleteDraft` and `DeleteMailDraft`. -/
def deleteDraft (s : Store) (draftID : UUID) : Except MailboxError (Table UUID DraftRow) := do
  ensure .draftID (draftID ≠ .nil)
  ensure .database !c.statementFails
  ensure .noRows (s.drafts.countWhere (fun id r => id = draftID && r.userID = c.userID) = 1)
  return s.drafts.deleteWhere fun id r => id = draftID && r.userID = c.userID

/-- One state as `UpdateStates` cleans it. -/
def cleanState (state : MailboxState) : Except MailboxError MailboxState := do
  ensure .messageID (state.messageID ≠ .nil)
  ensure .labels (state.labels = [] || validJSON state.labels)
  let folder := cleanFolder c.casing state.folder
  return { state with
    folder := if folder = "" then "inbox" else folder
    labels := orDefault state.labels (bytes "[]") }

/-- One turn of the loop of `UpsertMailboxStates`; a message that does not exist rolls everything back. -/
def upsertState (identityID : UUID) (s : Store) (state : MailboxState) : Except MailboxError Store := do
  let folder := cleanFolder c.casing state.folder
  let folder := if folder = "" then "inbox" else folder
  let row : StateRow := {
    folder := folder
    isRead := state.isRead
    isStarred := state.isStarred
    isImportant := state.isImportant
    isSpam := state.isSpam
    isArchived := state.isArchived || folder = "archive"
    labels := orDefault state.labels (bytes "[]")
    snoozedUntil := formatTime state.snoozedUntil
    updatedAt := formatTime c.now }
  let key := (c.userID, identityID, state.messageID)
  ensure .database (!c.statementFails &&
    ((s.states.get? key).isSome || (s.users.contains c.userID && s.messages.contains state.messageID)))
  return { s with
    states := s.states.upsert key row fun _ new => new
    inboxes :=
      if state.isRead then
        s.inboxes.updateWhere (fun _ b => b.identityID = identityID && b.messageID = state.messageID)
          fun b => { b with isRead := true }
      else s.inboxes }

/-- `UpdateStates` and `UpsertMailboxStates`. -/
def updateStates (s : Store) (identityID : UUID) (states : List MailboxState) : Except MailboxError Store := do
  requireIdentity c s.identities identityID
  ensure .batch (states.length ≠ 0 && states.length ≤ 500)
  let clean ← states.mapM (cleanState c)
  clean.foldlM (upsertState c identityID) s

end Calls

/-- A writing call. -/
inductive Operation where
  | updateStates (identityID : UUID) (states : List MailboxState)
  | saveDraft (draft : MailDraft)
  | deleteDraft (draftID : UUID)
  | saveLabel (label : MailLabel)
  | saveContact (contact : MailContact)
  | saveFilterRule (rule : MailFilterRule)
  | saveSettings (settings : MailSettings)

def attempt (c : Call) (s : Store) : Operation → Except MailboxError Store
  | .updateStates identityID states => updateStates c s identityID states
  | .saveDraft draft => (saveDraft c s draft).map fun t => { s with drafts := t }
  | .deleteDraft draftID => (deleteDraft c s draftID).map fun t => { s with drafts := t }
  | .saveLabel label => (saveLabel c s label).map fun t => { s with labels := t }
  | .saveContact contact => (saveContact c s.users s.contacts contact).map fun t => { s with contacts := t }
  | .saveFilterRule rule => (saveFilterRule c s rule).map fun t => { s with filterRules := t }
  | .saveSettings settings => (saveSettings c s settings).map fun t => { s with settings := t }

def perform (c : Call) (op : Operation) (s : Store) : Store :=
  match attempt c s op with
  | .error _ => s
  | .ok s' => s'

/-! ## Whose rows a call touches -/

/-- Only rows of the user differ. -/
structure Framed (userID : UUID) (s s' : Store) : Prop where
  users : s'.users = s.users
  identities : s'.identities = s.identities
  messages : s'.messages = s.messages
  drafts : s.drafts.OnlyMine s'.drafts fun _ r => r.userID = userID
  labels : s.labels.OnlyMine s'.labels fun _ r => r.userID = userID
  contacts : s.contacts.OnlyMine s'.contacts fun _ r => r.userID = userID
  filterRules : s.filterRules.OnlyMine s'.filterRules fun _ r => r.userID = userID
  settings : s.settings.OnlyMine s'.settings fun id _ => id = userID
  states : s.states.OnlyMine s'.states fun key _ => key.1 = userID
  inboxes : s.inboxes.OnlyMine s'.inboxes fun _ b => ∃ i ∈ s.identities.get? b.identityID, i.userID = userID

/-- The row under the id, if there is one, is the user's. -/
def Owned {ρ : Type} (owner : ρ → UUID) (userID : UUID) (t : Table UUID ρ) (id : UUID) : Prop :=
  ∀ row, t.get? id = some row → owner row = userID

/-- The call names none but objects of its caller. -/
def Operation.Own (c : Call) (s : Store) : Operation → Prop
  | .saveDraft draft => Owned DraftRow.userID c.userID s.drafts (rowID c draft.id)
  | .saveContact contact => Owned ContactRow.userID c.userID s.contacts (rowID c contact.id)
  | .saveFilterRule rule => Owned FilterRuleRow.userID c.userID s.filterRules (rowID c rule.id)
  | _ => True

theorem Framed.refl (userID : UUID) (s : Store) : Framed userID s s :=
  ⟨rfl, rfl, rfl, .refl _ _, .refl _ _, .refl _ _, .refl _ _, .refl _ _, .refl _ _, .refl _ _⟩

theorem Framed.trans {userID : UUID} {s s' s'' : Store} (h : Framed userID s s') (h' : Framed userID s' s'') :
    Framed userID s s'' where
  users := h'.users.trans h.users
  identities := h'.identities.trans h.identities
  messages := h'.messages.trans h.messages
  drafts := h.drafts.trans h'.drafts
  labels := h.labels.trans h'.labels
  contacts := h.contacts.trans h'.contacts
  filterRules := h.filterRules.trans h'.filterRules
  settings := h.settings.trans h'.settings
  states := h.states.trans h'.states
  inboxes := h.inboxes.trans (by rw [← h.identities]; exact h'.inboxes)

section Frame

variable {c : Call} {s s' : Store}

@[grind →]
theorem upsertRow_ok {ρ : Type} {users : List UUID} {t t' : Table UUID ρ} {id : UUID} {new : ρ} {merge : ρ → ρ → ρ}
    (h : upsertRow c users t id new merge = .ok t') : t' = t.upsert id new merge := by
  unfold upsertRow at h
  split at h
  · cases h
  exact (Except.ok.inj h).symm

/-- An upsert on the id that keeps the owner touches only the caller's rows if the row is the caller's or stays
as it is, and not otherwise. -/
theorem onlyMine_upsert_iff {ρ : Type} (owner : ρ → UUID) (t : Table UUID ρ) (id : UUID) (merge : ρ → ρ → ρ)
    {userID : UUID} {new : ρ} (hnew : owner new = userID) (hmerge : ∀ old, owner (merge old new) = owner old) :
    t.OnlyMine (t.upsert id new merge) (fun _ r => owner r = userID) ↔
      Owned owner userID t id ∨ t.upsert id new merge = t := by
  constructor
  · intro honly
    by_cases hchanged : (t.upsert id new merge).get? id = t.get? id
    · cases hold : t.get? id with
      | none =>
        grind [Owned]
      | some old => exact .inr (Table.upsert_eq_self hold (hchanged.trans hold))
    · exact .inl (honly id hchanged).1
  · rintro (howned | heq)
    · exact Table.onlyMine_upsert hnew (fun old h => (hmerge old).trans h) howned
    · rw [heq]
      exact .refl _ _

variable {identityID : UUID}

@[grind →]
theorem requireIdentity_ok {identities : Table UUID Identity}
    (h : requireIdentity c identities identityID = .ok ()) : ∃ i ∈ identities.get? identityID, i.userID = c.userID := by
  obtain ⟨⟨⟩, -, h⟩ := bind_eq_ok.1 h
  obtain ⟨⟨⟩, -, h⟩ := bind_eq_ok.1 h
  rw [ensure_eq_ok, Option.any_eq_true] at h
  obtain ⟨i, hi, hown⟩ := h
  exact ⟨i, hi, by simp only [Bool.and_eq_true, decide_eq_true_eq] at hown; exact hown.1⟩

@[grind →]
theorem saveDraft_ok {draft : MailDraft} {t : Table UUID DraftRow} (h : saveDraft c s draft = .ok t) :
    ∃ row, row.userID = c.userID ∧ t = s.drafts.upsert (rowID c draft.id) row DraftRow.merge := by
  obtain ⟨⟨⟩, -, h⟩ := bind_eq_ok.1 h
  obtain ⟨⟨⟩, -, h⟩ := bind_eq_ok.1 h
  obtain ⟨⟨⟩, -, h⟩ := bind_eq_ok.1 h
  exact ⟨_, rfl, upsertRow_ok h⟩

@[grind →]
theorem saveContact_ok {users : List UUID} {contacts t : Table UUID ContactRow} {contact : MailContact}
    (h : saveContact c users contacts contact = .ok t) :
    ∃ row, row.userID = c.userID ∧ t = contacts.upsert (rowID c contact.id) row ContactRow.merge := by
  obtain ⟨⟨⟩, -, h⟩ := bind_eq_ok.1 h
  exact ⟨_, rfl, upsertRow_ok h⟩

@[grind →]
theorem saveFilterRule_ok {rule : MailFilterRule} {t : Table UUID FilterRuleRow} (h : saveFilterRule c s rule = .ok t) :
    ∃ row, row.userID = c.userID ∧ t = s.filterRules.upsert (rowID c rule.id) row FilterRuleRow.merge := by
  obtain ⟨⟨⟩, -, h⟩ := bind_eq_ok.1 h
  obtain ⟨⟨⟩, -, h⟩ := bind_eq_ok.1 h
  exact ⟨_, rfl, upsertRow_ok h⟩

theorem saveLabel_onlyMine {label : MailLabel} {t : Table UUID LabelRow} (h : saveLabel c s label = .ok t) :
    s.labels.OnlyMine t fun _ r => r.userID = c.userID := by
  obtain ⟨⟨⟩, -, h⟩ := bind_eq_ok.1 h
  simp only at h
  split at h
  · cases h
  split at h
  · grind [Table.onlyMine_updateWhere]
  obtain ⟨⟨⟩, -, h⟩ := bind_eq_ok.1 h
  rw [← Except.ok.inj h]
  exact Table.onlyMine_insertOrIgnore rfl

theorem saveSettings_onlyMine {settings : MailSettings} {t : Table UUID SettingsRow}
    (h : saveSettings c s settings = .ok t) : s.settings.OnlyMine t fun id _ => id = c.userID := by
  rw [upsertRow_ok h]
  exact Table.onlyMine_upsert rfl (fun _ _ => rfl) fun _ _ => rfl

theorem deleteDraft_onlyMine {draftID : UUID} {t : Table UUID DraftRow} (h : deleteDraft c s draftID = .ok t) :
    s.drafts.OnlyMine t fun _ r => r.userID = c.userID := by
  obtain ⟨⟨⟩, -, h⟩ := bind_eq_ok.1 h
  obtain ⟨⟨⟩, -, h⟩ := bind_eq_ok.1 h
  obtain ⟨⟨⟩, -, h⟩ := bind_eq_ok.1 h
  rw [← Except.ok.inj h]
  grind [Table.onlyMine_deleteWhere]

theorem upsertState_framed {state : MailboxState}
    (hown : ∃ i ∈ s.identities.get? identityID, i.userID = c.userID) (h : upsertState c identityID s state = .ok s') :
    Framed c.userID s s' := by
  obtain ⟨⟨⟩, -, h⟩ := bind_eq_ok.1 h
  rw [← Except.ok.inj h]
  refine { Framed.refl c.userID s with states := ?_, inboxes := ?_ }
  · exact Table.onlyMine_upsert rfl (fun _ _ => rfl) fun _ _ => rfl
  · simp only
    split
    · grind [Table.onlyMine_updateWhere]
    exact .refl _ _

theorem upsertStates_framed {states : List MailboxState}
    (hown : ∃ i ∈ s.identities.get? identityID, i.userID = c.userID)
    (h : states.foldlM (upsertState c identityID) s = .ok s') : Framed c.userID s s' := by
  induction states generalizing s with
  | nil =>
    rw [← Except.ok.inj h]
    exact .refl _ _
  | cons state states ih =>
    obtain ⟨s₁, hfirst, hrest⟩ := bind_eq_ok.1 h
    have hframed := upsertState_framed hown hfirst
    grind [hframed.trans, hframed.identities]

theorem updateStates_framed {states : List MailboxState}
    (h : updateStates c s identityID states = .ok s') : Framed c.userID s s' := by
  obtain ⟨⟨⟩, howner, h⟩ := bind_eq_ok.1 h
  grind [upsertStates_framed]

/-- A successful call touches only the caller's rows exactly if the objects it names are the caller's, or nothing
changes. -/
theorem attempt_framed_iff {op : Operation} (h : attempt c s op = .ok s') :
    Framed c.userID s s' ↔ op.Own c s ∨ s' = s := by
  cases op with
  | updateStates identityID states => exact ⟨fun _ => .inl trivial, fun _ => updateStates_framed h⟩
  | saveDraft draft =>
    rw [attempt, map_eq_ok] at h
    obtain ⟨t, ht, rfl⟩ := h
    obtain ⟨row, hrow, rfl⟩ := saveDraft_ok ht
    have hiff := onlyMine_upsert_iff DraftRow.userID s.drafts (rowID c draft.id) DraftRow.merge hrow fun _ => rfl
    constructor
    · intro hframed
      exact (hiff.1 hframed.drafts).imp id fun heq => by rw [heq]
    · intro hown
      refine { Framed.refl c.userID s with drafts := hiff.2 (hown.imp id fun heq => ?_) }
      exact congrArg Store.drafts heq
  | deleteDraft draftID =>
    rw [attempt, map_eq_ok] at h
    obtain ⟨t, ht, rfl⟩ := h
    exact ⟨fun _ => .inl trivial, fun _ => { Framed.refl c.userID s with drafts := deleteDraft_onlyMine ht }⟩
  | saveLabel label =>
    rw [attempt, map_eq_ok] at h
    obtain ⟨t, ht, rfl⟩ := h
    exact ⟨fun _ => .inl trivial, fun _ => { Framed.refl c.userID s with labels := saveLabel_onlyMine ht }⟩
  | saveContact contact =>
    rw [attempt, map_eq_ok] at h
    obtain ⟨t, ht, rfl⟩ := h
    obtain ⟨row, hrow, rfl⟩ := saveContact_ok ht
    have hiff := onlyMine_upsert_iff ContactRow.userID s.contacts (rowID c contact.id) ContactRow.merge hrow fun _ => rfl
    constructor
    · intro hframed
      exact (hiff.1 hframed.contacts).imp id fun heq => by rw [heq]
    · intro hown
      refine { Framed.refl c.userID s with contacts := hiff.2 (hown.imp id fun heq => ?_) }
      exact congrArg Store.contacts heq
  | saveFilterRule rule =>
    rw [attempt, map_eq_ok] at h
    obtain ⟨t, ht, rfl⟩ := h
    obtain ⟨row, hrow, rfl⟩ := saveFilterRule_ok ht
    have hiff := onlyMine_upsert_iff FilterRuleRow.userID s.filterRules (rowID c rule.id) FilterRuleRow.merge hrow fun _ => rfl
    constructor
    · intro hframed
      exact (hiff.1 hframed.filterRules).imp id fun heq => by rw [heq]
    · intro hown
      refine { Framed.refl c.userID s with filterRules := hiff.2 (hown.imp id fun heq => ?_) }
      exact congrArg Store.filterRules heq
  | saveSettings settings =>
    rw [attempt, map_eq_ok] at h
    obtain ⟨t, ht, rfl⟩ := h
    exact ⟨fun _ => .inl trivial, fun _ => { Framed.refl c.userID s with settings := saveSettings_onlyMine ht }⟩

end Frame

/-- A call touches only rows of its caller exactly if the draft, contact or rule it names by id is not someone else's,
or the store is left as it is. -/
theorem mailbox_framed_iff (c : Call) (op : Operation) (s : Store) :
    Framed c.userID s (perform c op s) ↔ op.Own c s ∨ perform c op s = s := by
  unfold perform
  cases h : attempt c s op with
  | error err => exact ⟨fun _ => .inr rfl, fun _ => .refl _ _⟩
  | ok s' => exact attempt_framed_iff h

def sampleStore : Store where
  users := [.ofByte 11, .ofByte 12]
  identities := Table.empty
  messages := []
  drafts := Table.empty
  labels := Table.empty
  contacts := Table.empty.insertOrIgnore (.ofByte 3)
    ⟨.ofByte 11, bytes "@mallory:a.example", [], [], [], [], true, "2026-07-17T11:00:00Z", "2026-07-17T11:00:00Z"⟩
  filterRules := Table.empty
  settings := Table.empty
  states := Table.empty
  inboxes := Table.empty

def sampleCall : Call := ⟨.ofByte 12, 63919886400 * second, .ofByte 4, CaseMap.plain, false, false⟩

def sampleContact : MailContact := ⟨.ofByte 3, "@mallory:a.example", "", "", "", "", false, 0⟩

/-- The first user's contact is no longer blocked, and still the first user's. -/
theorem contact_unblocked_by_other :
    (sampleStore.contacts.get? (.ofByte 3)).map (fun r => (r.userID, r.blocked)) = some (.ofByte 11, true) ∧
      ((perform sampleCall (.saveContact sampleContact) sampleStore).contacts.get? (.ofByte 3)).map
        (fun r => (r.userID, r.blocked)) = some (.ofByte 11, false) ∧
      ¬ Framed sampleCall.userID sampleStore (perform sampleCall (.saveContact sampleContact) sampleStore) := by
  rw [← and_assoc]
  refine (and_iff_left_of_imp ?_).2 (by decide +kernel)
  rintro ⟨hbefore, hafter⟩ hframed
  have hchanged : (perform sampleCall (.saveContact sampleContact) sampleStore).contacts.get? (.ofByte 3) ≠
      sampleStore.contacts.get? (.ofByte 3) := by
    grind
  obtain ⟨row, hrow, howner⟩ := Option.map_eq_some_iff.1 hbefore
  have hmine := (hframed.contacts _ hchanged).1 row hrow
  exact absurd ((congrArg Prod.fst howner).symm.trans hmine) (by decide)

end GaiaCom.Mailbox
