/-
Reports of abuse: `SubmitReport` of trustmesh_service.go over the statements of sql_store_reports.go. A call checks
that the reporter owns the recipient key and got the message, that the proof is new and that the
pair of keys is new in this epoch; it stores the report, reads the abuse score, adds one and writes it
back. Other calls and other parts of the node run between any two of these statements.

The duplicate check and the scores compare the hex texts the caller sent, and nothing links the claimed
sender key to the message. So scores and reports agree as long as keys come in one spelling, the message is
from the claimed key, and no two calls for a sender overlap or stop between report and score
(`reports_accounted`).
-/
import GaiaCom.Gsn.Service
import GaiaCom.Lib.Run

namespace GaiaCom.Trustmesh

open Lib Core Store
open Federation.Wire (Bytes bytes)
open Gsn (recordedKey)

/-! ## What a call reads of the rest of the node -/

/-- What `hex.DecodeString` returns whether or not it fails: the bytes before the first bad pair. -/
def hexBytes : List Char → Bytes
  | a :: b :: rest =>
    match hexDigit a, hexDigit b with
    | some x, some y => UInt8.ofNat (16 * x + y) :: hexBytes rest
    | _, _ => []
  | _ => []

/-- The columns of identities that are read. -/
structure Identity where
  id : UUID
  userID : UUID
  gaiaID : String
  publicRecord : String

def Identity.hasKey (ident : Identity) (key : Bytes) : Bool :=
  (recordedKey ident.publicRecord).any fun text => hexBytes text.toList = key

/-- Identities in the order of their creation, the sender of each message, and who has it in the inbox. -/
structure Mail where
  identities : List Identity
  senders : Table UUID String
  inboxes : List (UUID × UUID)

def Mail.findIdentitiesByUserID (m : Mail) (userID : UUID) : List Identity :=
  m.identities.filter fun ident => ident.userID = userID

def Mail.findInboxEntriesByIdentity (m : Mail) (identityID : UUID) : List UUID :=
  (m.inboxes.filter fun entry => entry.1 = identityID).map Prod.snd

def Mail.owns (m : Mail) (identityID : UUID) (key : Bytes) : Bool :=
  m.identities.any fun ident => ident.id = identityID && ident.hasKey key

def Mail.sentBy (m : Mail) (messageID : UUID) (key : Bytes) : Bool :=
  (m.senders.get? messageID).any fun sender =>
    m.identities.any fun ident => toLower ident.gaiaID = toLower sender && ident.hasKey key

/-! ## Reports and scores -/

/-- A row of reports. -/
structure Report where
  messageID : String
  senderPublicKey : String
  recipientPublicKey : String
  ciphertextHash : String
  reportProof : String
  epochHash : String
  createdAt : String
  /-- The epoch whose key made `epochHash`; no column holds it. -/
  epoch : String

def Report.sender (r : Report) : Option Bytes := hexDecode r.senderPublicKey.toList

def Report.recipient (r : Report) : Option Bytes := hexDecode r.recipientPublicKey.toList

/-- The two values of `FrictionLimit`, 1.0 and 0.1. -/
inductive Friction where
  | whole | tenth
  deriving DecidableEq, Repr

/-- `models.AbuseScore`. -/
structure AbuseScore where
  senderPublicKey : String
  score : Nat
  escalationLevel : Nat
  frictionLimit : Friction
  quarantinedUntil : Nat
  timeoutUntil : Nat
  updatedAt : Nat
  deriving DecidableEq

/-- A row of abuse_scores, under its sender_public_key. -/
structure ScoreRow where
  score : Nat
  escalationLevel : Nat
  frictionLimit : Friction
  quarantinedUntil : String
  timeoutUntil : String
  updatedAt : String
  deriving DecidableEq

structure Database where
  reports : List Report
  scores : Table String ScoreRow

/-- `GetReportByProof` finds a row. -/
def Database.hasProof (db : Database) (proof : String) : Bool := db.reports.any fun r => r.reportProof = proof

/-- `CreateReport`; a taken proof violates its uniqueness. -/
def Database.createReport (db : Database) (report : Report) : Option Database :=
  if db.hasProof report.reportProof then none else some { db with reports := db.reports ++ [report] }

def Database.hasReportedInEpoch (db : Database) (senderPubKey recipientPubKey epochHash : String) : Bool :=
  0 < db.reports.countP fun r =>
    r.senderPublicKey = senderPubKey && r.recipientPublicKey = recipientPubKey && r.epochHash = epochHash

def Database.getAbuseScore (db : Database) (now : Nat) (senderPubKey : String) : AbuseScore :=
  match db.scores.get? senderPubKey with
  | none => ⟨senderPubKey, 0, 0, .whole, 0, 0, now⟩
  | some row => ⟨senderPubKey, row.score, row.escalationLevel, row.frictionLimit, parseTime row.quarantinedUntil,
      parseTime row.timeoutUntil, parseTime row.updatedAt⟩

def AbuseScore.row (score : AbuseScore) (now : Nat) : ScoreRow :=
  ⟨score.score, score.escalationLevel, score.frictionLimit, formatTime score.quarantinedUntil,
    formatTime score.timeoutUntil, formatTime now⟩

def Database.saveAbuseScore (db : Database) (now : Nat) (score : AbuseScore) : Database :=
  { db with scores := db.scores.put score.senderPublicKey (score.row now) }

/-! ## Proofs and epochs -/

/-- SHA-256, HMAC-SHA-256 and the secret of the service. -/
structure Digests where
  sha256 : Bytes → Bytes
  hmac : (key message : Bytes) → Bytes
  epochSecret : Bytes

def calculateReportProof (d : Digests) (messageID : UUID) (senderPubKey recipientPubKey ciphertextHash : Bytes) : Bytes :=
  d.sha256 (messageID.bytes ++ senderPubKey ++ recipientPubKey ++ ciphertextHash)

def calculateEpochHash (d : Digests) (epochKey senderPubKey : Bytes) : Bytes := d.hmac epochKey senderPubKey

def getEpochKey (d : Digests) (epochIndex : String) : Bytes := d.hmac d.epochSecret (bytes epochIndex)

/-- The epoch hash as `SubmitReport` stores it. -/
def epochHashHex (d : Digests) (epoch : String) (senderPubKey : Bytes) : String :=
  hexEncode (calculateEpochHash d (getEpochKey d epoch) senderPubKey)

/-- `CurrentEpochIndex`: year and number of the ISO week, that of its Thursday; 0001-01-01 was a Monday. `now` is
the local time of the node. -/
def currentEpochIndex (now : Nat) : String :=
  let thursday := dayOf now - dayOf now % 7 + 3
  toString (Calendar.year thursday) ++ "_w" ++ String.ofList (pad 2 (Calendar.yearDay thursday / 7 + 1))

example : currentEpochIndex (63919886400 * second) = "2026_w29" := by decide +kernel

/-- `applyEscalationRules`. -/
def applyEscalationRules (now : Nat) (score : AbuseScore) : AbuseScore :=
  let raise (level : Nat) (s : AbuseScore) : AbuseScore := { s with escalationLevel := max s.escalationLevel level }
  let score := if 3 ≤ score.score then raise 1 score else score
  let score := if 5 ≤ score.score then { raise 2 score with frictionLimit := .tenth } else score
  let score := if 10 ≤ score.score then { raise 3 score with quarantinedUntil := now + 7 * 24 * hour } else score
  let score := if 20 ≤ score.score then { raise 4 score with timeoutUntil := now + 24 * hour } else score
  if 40 ≤ score.score then { raise 5 score with timeoutUntil := now + 7 * 24 * hour } else score

/-! ## SubmitReport -/

/-- The arguments of a call; the signature is never looked at. -/
structure Submission where
  userID : UUID
  messageID : UUID
  senderPubKeyHex : String
  recipientPubKeyHex : String
  ciphertextHashHex : String
  signatureHex : String

/-- Why a call fails. -/
inductive ReportError where
  | user | identities | recipientFormat | notOwned | notReceived | senderFormat | hashFormat | hashSize
  | reported | reportedInEpoch | database
  deriving DecidableEq, Repr

/-- The keys and the hash of a submission as bytes. -/
structure Decoded where
  sender : Bytes
  recipient : Bytes
  hash : Bytes
  deriving DecidableEq

/-- How far a call is: what the statements so far have told it. -/
inductive Stage where
  | submitted
  | owned (identityID : UUID) (recipient : Bytes)
  | received (k : Decoded)
  | unproven (k : Decoded)
  | cleared (k : Decoded) (epoch : String)
  | stored (k : Decoded)
  | scored (k : Decoded) (score : AbuseScore)
  | finished (result : Except ReportError Unit)

section Call

variable (d : Digests) (sub : Submission)

def findRecipient (m : Mail) (answered : Bool) : Stage :=
  if sub.userID = .nil then .finished (.error .user)
  else if answered = false then .finished (.error .identities)
  else
    match hexDecode sub.recipientPubKeyHex.toList with
    | none => .finished (.error .recipientFormat)
    | some recipient =>
      match (m.findIdentitiesByUserID sub.userID).find? fun ident => ident.hasKey recipient with
      | none => .finished (.error .notOwned)
      | some ident => .owned ident.id recipient

def findMessage (m : Mail) (identityID : UUID) (recipient : Bytes) (answered : Bool) : Stage :=
  if answered = false then .finished (.error .database)
  else if sub.messageID ∉ m.findInboxEntriesByIdentity identityID then .finished (.error .notReceived)
  else
    match hexDecode sub.senderPubKeyHex.toList, hexDecode sub.ciphertextHashHex.toList with
    | none, _ => .finished (.error .senderFormat)
    | some _, none => .finished (.error .hashFormat)
    | some sender, some hash =>
      if hash.length ≠ 32 then .finished (.error .hashSize) else .received ⟨sender, recipient, hash⟩

def proofHex (k : Decoded) : String := hexEncode (calculateReportProof d sub.messageID k.sender k.recipient k.hash)

def findProof (db : Database) (k : Decoded) (answered : Bool) : Stage :=
  if answered && db.hasProof (proofHex d sub k) then .finished (.error .reported) else .unproven k

/-- The check of the epoch, at local time `now`. -/
def checkEpoch (db : Database) (k : Decoded) (answered : Bool) (now : Nat) : Stage :=
  if answered = false then .finished (.error .database)
  else if db.hasReportedInEpoch sub.senderPubKeyHex sub.recipientPubKeyHex
      (epochHashHex d (currentEpochIndex now) k.sender) then .finished (.error .reportedInEpoch)
  else .cleared k (currentEpochIndex now)

def Submission.report (k : Decoded) (epoch : String) (now : Nat) : Report where
  messageID := sub.messageID.text
  senderPublicKey := sub.senderPubKeyHex
  recipientPublicKey := sub.recipientPubKeyHex
  ciphertextHash := sub.ciphertextHashHex
  reportProof := proofHex d sub k
  epochHash := epochHashHex d epoch k.sender
  createdAt := formatTime now
  epoch := epoch

def storeReport (db : Database) (k : Decoded) (epoch : String) (answered : Bool) (now : Nat) : Database × Stage :=
  match if answered then db.createReport (sub.report d k epoch now) else none with
  | none => (db, .finished (.error .database))
  | some db => (db, .stored k)

def readScore (db : Database) (k : Decoded) (answered : Bool) (now : Nat) : Stage :=
  if answered then .scored k (db.getAbuseScore now sub.senderPubKeyHex) else .finished (.error .database)

def saveScore (db : Database) (score : AbuseScore) (answered : Bool) (now : Nat) : Database × Stage :=
  if answered then
    (db.saveAbuseScore now (applyEscalationRules now { score with score := score.score + 1 }), .finished (.ok ()))
  else (db, .finished (.error .database))

/-- The next statement of a call; `answered` is false if the database fails it. -/
def next (m : Mail) (db : Database) (answered : Bool) (now : Nat) : Stage → Database × Stage
  | .submitted => (db, findRecipient sub m answered)
  | .owned identityID recipient => (db, findMessage sub m identityID recipient answered)
  | .received k => (db, findProof d sub db k answered)
  | .unproven k => (db, checkEpoch d sub db k answered now)
  | .cleared k epoch => storeReport d sub db k epoch answered now
  | .stored k => (db, readScore sub db k answered now)
  | .scored _ score => saveScore db score answered now
  | .finished result => (db, .finished result)

end Call

/-! ## Concurrent calls -/

structure Call where
  sub : Submission
  stage : Stage

/-- The node: the tables others write, now and before, reports and scores, and the calls by number. -/
structure State where
  mail : Mail
  past : List Mail
  db : Database
  calls : Table Nat Call

def State.init (m : Mail) : State := ⟨m, [], ⟨[], Table.empty⟩, Table.empty⟩

inductive Event where
  /-- Other parts of the node leave these tables. -/
  | mail (m : Mail)
  | submit (call : Nat) (sub : Submission)
  /-- The next statement of a call. -/
  | advance (call : Nat) (answered : Bool) (now : Nat)

variable (d : Digests)

def step (s : State) : Event → State
  | .mail m => { s with mail := m, past := s.mail :: s.past }
  | .submit call sub => { s with calls := s.calls.insertOrIgnore call ⟨sub, .submitted⟩ }
  | .advance call answered now =>
    match s.calls.get? call with
    | none => s
    | some c =>
      let r := next d c.sub s.mail s.db answered now c.stage
      { s with db := r.1, calls := s.calls.put call ⟨c.sub, r.2⟩ }

/-! ## What the accounts should say -/

def Stage.owes : Stage → Option Bytes
  | .stored k | .scored k _ => some k.sender
  | _ => none

def Stage.claims : Stage → Option Bytes
  | .cleared k _ | .stored k | .scored k _ => some k.sender
  | _ => none

/-- No call is between the report and the score of the sender. -/
def State.Settled (s : State) (sender : Bytes) : Prop :=
  ∀ call c, s.calls.get? call = some c → c.stage.owes ≠ some sender

def Database.scoresOf (db : Database) (sender : Bytes) : List Nat :=
  (db.scores.rows.filter fun r => hexDecode r.1.toList = some sender).map fun r => r.2.score

def Database.reportsOf (db : Database) (sender : Bytes) : Nat := db.reports.countP fun r => r.sender = some sender

/-- An identity with the recipient key had, at some time, a message of the sender key in its inbox. -/
def State.Received (s : State) (recipient sender : Bytes) : Prop :=
  ∃ identityID messageID, (∃ m ∈ s.mail :: s.past, m.owns identityID recipient = true) ∧
    ∃ m ∈ s.mail :: s.past, (identityID, messageID) ∈ m.inboxes ∧ m.sentBy messageID sender = true

/-- Scores count reports, reports are about messages received, and a pair of keys reports once in an epoch. -/
structure Accounted (s : State) : Prop where
  scores : ∀ sender, s.Settled sender →
    s.db.scoresOf sender = if s.db.reportsOf sender = 0 then [] else [s.db.reportsOf sender]
  received : ∀ r ∈ s.db.reports, ∃ sender recipient, r.sender = some sender ∧ r.recipient = some recipient ∧
    s.Received recipient sender
  once : s.db.reports.Pairwise fun a b => ¬ (a.epoch = b.epoch ∧ a.sender = b.sender ∧ a.recipient = b.recipient)

/-- What is asked of the next statement of a call: the message in the inbox is from the claimed key; keys are
spelled as `hex.EncodeToString` does and no other call works on the sender when the last check is made; the
statements after the report do not fail. -/
def Call.Orderly (s : State) (c : Call) (answered : Bool) : Prop :=
  match c.stage with
  | .owned identityID _ => (identityID, c.sub.messageID) ∈ s.mail.inboxes →
      s.mail.sentBy c.sub.messageID (hexBytes c.sub.senderPubKeyHex.toList) = true
  | .unproven k => c.sub.senderPubKeyHex = hexEncode k.sender ∧ c.sub.recipientPubKeyHex = hexEncode k.recipient ∧
      ∀ other ∈ s.calls.rows, other.2.stage.claims ≠ some k.sender
  | .stored _ | .scored .. => answered = true
  | _ => True

instance (s : State) (answered : Bool) : (c : Call) → Decidable (c.Orderly s answered)
  | ⟨sub, .owned identityID _⟩ =>
    inferInstanceAs (Decidable ((identityID, sub.messageID) ∈ s.mail.inboxes →
      s.mail.sentBy sub.messageID (hexBytes sub.senderPubKeyHex.toList) = true))
  | ⟨sub, .unproven k⟩ =>
    inferInstanceAs (Decidable (sub.senderPubKeyHex = hexEncode k.sender ∧ sub.recipientPubKeyHex = hexEncode k.recipient ∧
      ∀ other ∈ s.calls.rows, other.2.stage.claims ≠ some k.sender))
  | ⟨_, .stored _⟩ => inferInstanceAs (Decidable (answered = true))
  | ⟨_, .scored ..⟩ => inferInstanceAs (Decidable (answered = true))
  | ⟨_, .submitted⟩ => .isTrue trivial
  | ⟨_, .received _⟩ => .isTrue trivial
  | ⟨_, .cleared ..⟩ => .isTrue trivial
  | ⟨_, .finished _⟩ => .isTrue trivial

def Orderly (s : State) : Event → Prop
  | .mail _ | .submit .. => True
  | .advance call answered _ => ∀ c ∈ s.calls.get? call, c.Orderly s answered

instance (s : State) : (e : Event) → Decidable (Orderly s e)
  | .mail _ => .isTrue trivial
  | .submit .. => .isTrue trivial
  | .advance call answered _ => inferInstanceAs (Decidable (∀ c ∈ s.calls.get? call, c.Orderly s answered))

/-! ## Keys and their spelling -/

theorem hexBytes_of_hexDecode : ∀ {cs : List Char} {key : Bytes}, hexDecode cs = some key → hexBytes cs = key
  | [], key, h => Option.some.inj h
  | [_], key, h => by cases h
  | a :: b :: rest, key, h => by
    simp only [hexDecode, Option.bind_eq_bind, Option.bind_eq_some_iff, Option.pure_def, Option.some.injEq] at h
    obtain ⟨x, hx, y, hy, r, hr, rfl⟩ := h
    simp only [hexBytes, hx, hy, hexBytes_of_hexDecode hr]

@[simp] theorem applyEscalationRules_score (now : Nat) (score : AbuseScore) :
    (applyEscalationRules now score).score = score.score := by
  unfold applyEscalationRules
  simp only
  repeat' split
  all_goals rfl

@[simp] theorem applyEscalationRules_senderPublicKey (now : Nat) (score : AbuseScore) :
    (applyEscalationRules now score).senderPublicKey = score.senderPublicKey := by
  unfold applyEscalationRules
  simp only
  repeat' split
  all_goals rfl

theorem Stage.claims_of_owes {stage : Stage} {sender : Bytes} (h : stage.owes = some sender) :
    stage.claims = some sender := by
  cases stage <;> first | exact h | cases h

/-! ## The invariant -/

def Database.storedScore (db : Database) (sender : Bytes) : Nat :=
  ((db.scores.get? (hexEncode sender)).map ScoreRow.score).getD 0

/-- What a call knows at its stage. -/
def Call.Good (s : State) (c : Call) : Prop :=
  match c.stage with
  | .owned identityID recipient => ∃ m ∈ s.mail :: s.past, m.owns identityID recipient = true
  | .received k | .unproven k => s.Received k.recipient k.sender
  | .cleared k epoch => s.Received k.recipient k.sender ∧
      c.sub.senderPubKeyHex = hexEncode k.sender ∧ c.sub.recipientPubKeyHex = hexEncode k.recipient ∧
      ∀ r ∈ s.db.reports, ¬ (r.epoch = epoch ∧ r.sender = some k.sender ∧ r.recipient = some k.recipient)
  | .stored k => c.sub.senderPubKeyHex = hexEncode k.sender
  | .scored k score => score.senderPublicKey = hexEncode k.sender ∧ score.score = s.db.storedScore k.sender
  | _ => True

/-- A stored report in the one spelling of its keys. -/
def Report.Good (s : State) (r : Report) : Prop :=
  ∃ sender recipient, r.senderPublicKey = hexEncode sender ∧ r.recipientPublicKey = hexEncode recipient ∧
    r.epochHash = epochHashHex d r.epoch sender ∧ s.Received recipient sender

/-- At most one call works on a sender. -/
def Exclusive (calls : Table Nat Call) : Prop :=
  ∀ call c call' c' sender, calls.get? call = some c → calls.get? call' = some c' →
    c.stage.claims = some sender → c'.stage.claims = some sender → call = call'

structure Inv (s : State) : Prop where
  reports : ∀ r ∈ s.db.reports, r.Good d s
  once : s.db.reports.Pairwise fun a b => ¬ (a.epoch = b.epoch ∧ a.sender = b.sender ∧ a.recipient = b.recipient)
  keys : ∀ text row, s.db.scores.get? text = some row → (∃ sender, text = hexEncode sender) ∧ row.score ≠ 0
  good : ∀ call c, s.calls.get? call = some c → c.Good s
  exclusive : Exclusive s.calls
  settled : ∀ sender, s.Settled sender → s.db.storedScore sender = s.db.reportsOf sender
  owing : ∀ call c sender, s.calls.get? call = some c → c.stage.owes = some sender →
    s.db.storedScore sender + 1 = s.db.reportsOf sender

theorem inv_init (m : Mail) : Inv d (.init m) where
  reports _ hr := by cases hr
  once := .nil
  keys _ _ hrow := by cases hrow
  good _ _ hc := by cases hc
  exclusive _ _ _ _ _ hc := by cases hc
  settled _ _ := rfl
  owing _ _ _ hc := by cases hc

variable {d} {s : State}

theorem State.Received.mono {s' : State} (hmail : ∀ m ∈ s.mail :: s.past, m ∈ s'.mail :: s'.past)
    {recipient sender : Bytes} (h : s.Received recipient sender) : s'.Received recipient sender := by
  grind [Received]

theorem inv_mail (h : Inv d s) (m : Mail) : Inv d { s with mail := m, past := s.mail :: s.past } where
  reports r hr := by
    obtain ⟨sender, recipient, hs, hrec, hhash, hreceived⟩ := h.reports r hr
    grind [hreceived.mono, Report.Good]
  once := h.once
  keys := h.keys
  good call c hc := by
    have hgood := h.good call c hc
    have hreceived : ∀ k : Decoded, s.Received k.recipient k.sender →
        State.Received { s with mail := m, past := s.mail :: s.past } k.recipient k.sender :=
      fun k hk => hk.mono fun _ => List.mem_cons_of_mem _
    unfold Call.Good at hgood ⊢
    split <;> rename_i hstage <;> simp only [hstage] at hgood
    · obtain ⟨m', hm', howns⟩ := hgood
      exact ⟨m', List.mem_cons_of_mem _ hm', howns⟩
    · exact hreceived _ hgood
    · exact hreceived _ hgood
    · exact ⟨hreceived _ hgood.1, hgood.2⟩
    · exact hgood
    · exact hgood
    · trivial
  exclusive := h.exclusive
  settled := h.settled
  owing := h.owing

variable {c : Call} {call : Nat}

theorem Exclusive.set {calls calls' : Table Nat Call} (h : Exclusive calls)
    (hcalls : ∀ n, calls'.get? n = if n = call then some c else calls.get? n)
    (hclaims : ∀ sender, c.stage.claims = some sender → ∀ n other, n ≠ call → calls.get? n = some other →
      other.stage.claims ≠ some sender) : Exclusive calls' := by
  grind [Exclusive]

theorem inv_setStage (h : Inv d s) {calls : Table Nat Call}
    (hcalls : ∀ n, calls.get? n = if n = call then some c else s.calls.get? n) (hgood : c.Good s)
    (howes : c.stage.owes = (s.calls.get? call).bind fun old => old.stage.owes)
    (hclaims : ∀ sender, c.stage.claims = some sender → ∀ n other, n ≠ call → s.calls.get? n = some other →
      other.stage.claims ≠ some sender) : Inv d { s with calls := calls } := by
  refine ⟨h.reports, h.once, h.keys, ?_, h.exclusive.set hcalls hclaims, ?_, ?_⟩
  · intro n other hn
    rw [hcalls] at hn
    split at hn
    · rw [← Option.some.inj hn]
      exact hgood
    · exact h.good n other hn
  · intro sender hsettled
    refine h.settled sender fun n old hold howed => ?_
    by_cases hnc : n = call
    · rw [← hnc, hold, Option.bind_some] at howes
      exact hsettled call c (by rw [hcalls, if_pos rfl]) (howes.trans howed)
    · exact hsettled n old (by rw [hcalls, if_neg hnc, hold]) howed
  grind [Option.bind_eq_some_iff, h.owing]

theorem inv_advance (h : Inv d s) (hc : s.calls.get? call = some c) {stage : Stage}
    (hgood : Call.Good s ⟨c.sub, stage⟩) (howes : stage.owes = c.stage.owes)
    (hclaims : ∀ sender, stage.claims = some sender → c.stage.claims = some sender ∨
      ∀ other ∈ s.calls.rows, other.2.stage.claims ≠ some sender) :
    Inv d { s with calls := s.calls.put call ⟨c.sub, stage⟩ } := by
  refine inv_setStage h (s.calls.get?_put call _) hgood (by rw [hc, Option.bind_some, howes]) ?_
  intro sender hclaim n other hne hother hclaim'
  rcases hclaims sender hclaim with hold | hfree
  · exact hne (h.exclusive n other call c sender hother hc hclaim' hold)
  grind

theorem inv_submit (h : Inv d s) (call : Nat) (sub : Submission) :
    Inv d { s with calls := s.calls.insertOrIgnore call ⟨sub, .submitted⟩ } := by
  have hcalls := s.calls.get?_insertOrIgnore call ⟨sub, .submitted⟩
  cases hold : s.calls.get? call with
  | none =>
    rw [hold] at hcalls
    refine inv_setStage h hcalls trivial (by rw [hold]; rfl) ?_
    intro sender hclaim
    cases hclaim
  | some c =>
    rw [hold] at hcalls
    refine inv_setStage h hcalls (h.good call c hold) (by rw [hold]; rfl) ?_
    intro sender hclaim n other hne hother hclaim'
    exact hne (h.exclusive n other call c sender hother hold hclaim' hclaim)

theorem Database.reportsOf_append (db : Database) (r : Report) (sender : Bytes) :
    Database.reportsOf { db with reports := db.reports ++ [r] } sender =
      db.reportsOf sender + if r.sender = some sender then 1 else 0 := by
  simp [Database.reportsOf, List.countP_append, List.countP_singleton]

variable {k : Decoded}

theorem inv_create (h : Inv d s) (hc : s.calls.get? call = some c)
    {epoch : String} (hstage : c.stage = .cleared k epoch) (now : Nat) : Inv d { s with
      db := { s.db with reports := s.db.reports ++ [c.sub.report d k epoch now] }
      calls := s.calls.put call ⟨c.sub, .stored k⟩ } := by
  have hgood := h.good call c hc
  simp only [Call.Good, hstage] at hgood
  obtain ⟨hreceived, hsender, hrecipient, hnew⟩ := hgood
  have hkey : (c.sub.report d k epoch now).sender = some k.sender := by
    rw [Report.sender, Submission.report, hsender, hexDecode_hexEncode]
  have hkey' : (c.sub.report d k epoch now).recipient = some k.recipient := by
    rw [Report.recipient, Submission.report, hrecipient, hexDecode_hexEncode]
  have hclaim : c.stage.claims = some k.sender := by rw [hstage]; rfl
  -- no other call works on this sender
  have hother : ∀ {n other}, n ≠ call → s.calls.get? n = some other → other.stage.claims ≠ some k.sender :=
    fun hne hn hclaim' => hne (h.exclusive _ _ _ _ _ hn hc hclaim' hclaim)
  have hsettled : s.Settled k.sender := by
    intro n other hn howed
    by_cases hnc : n = call
    · subst hnc
      rw [hc] at hn
      rw [← Option.some.inj hn, hstage] at howed
      cases howed
    · exact hother hnc hn (Stage.claims_of_owes howed)
  refine ⟨?_, ?_, h.keys, ?_, ?_, ?_, ?_⟩
  · intro r hr
    rcases List.mem_append.1 hr with hold | hr
    · exact h.reports r hold
    · rw [List.mem_singleton.1 hr]
      exact ⟨k.sender, k.recipient, hsender, hrecipient, rfl, hreceived⟩
  · refine List.pairwise_append.2 ⟨h.once, List.pairwise_singleton .., ?_⟩
    intro a ha b hb
    rw [List.mem_singleton.1 hb, hkey, hkey']
    exact hnew a ha
  · intro n other hn
    rw [Table.get?_put] at hn
    split at hn
    · grind [Call.Good]
    rename_i hne
    have hold := h.good n other hn
    have hfree := hother hne hn
    obtain ⟨sub, stage⟩ := other
    cases stage with
    | cleared k' epoch' =>
      obtain ⟨hrec, hs, hr, hnone⟩ := hold
      refine ⟨hrec, hs, hr, fun r hmem hsame => ?_⟩
      rcases List.mem_append.1 hmem with hmem | hmem
      · exact hnone r hmem hsame
      · rw [List.mem_singleton.1 hmem, hkey] at hsame
        exact hfree hsame.2.1.symm
    | _ => exact hold
  · refine h.exclusive.set (s.calls.get?_put call _) ?_
    intro sender hclaim' n other hne hn
    rw [← Option.some.inj hclaim']
    exact hother hne hn
  · intro sender hsettled'
    have hne : k.sender ≠ sender := by
      rintro rfl
      exact hsettled' call ⟨c.sub, .stored k⟩ (by rw [Table.get?_put, if_pos rfl]) rfl
    rw [Database.reportsOf_append, hkey, if_neg (by simpa using hne)]
    refine h.settled sender fun n other hn howed => ?_
    by_cases hnc : n = call
    · rw [hnc, hc] at hn
      rw [← Option.some.inj hn, hstage] at howed
      cases howed
    · exact hsettled' n other (by rw [Table.get?_put, if_neg hnc, hn]) howed
  · intro n other sender hn howed
    rw [Database.reportsOf_append, hkey]
    rw [Table.get?_put] at hn
    split at hn
    · rw [← Option.some.inj hn] at howed
      obtain rfl := Option.some.inj howed
      rw [if_pos rfl, ← h.settled _ hsettled]
      rfl
    · rename_i hne
      have hdiff : k.sender ≠ sender := by
        grind [Stage.claims_of_owes]
      rw [if_neg (by simpa using hdiff)]
      exact h.owing n other sender hn howed

theorem Database.storedScore_put (db : Database) (sender other : Bytes) (row : ScoreRow) :
    Database.storedScore { db with scores := db.scores.put (hexEncode sender) row } other =
      if other = sender then row.score else db.storedScore other := by
  grind [Database.storedScore, hexEncode_inj]

theorem inv_save (h : Inv d s) (hc : s.calls.get? call = some c)
    {score : AbuseScore} (hstage : c.stage = .scored k score) {row : ScoreRow} (hrow : row.score = score.score + 1) :
    Inv d { s with
      db := { s.db with scores := s.db.scores.put score.senderPublicKey row }
      calls := s.calls.put call ⟨c.sub, .finished (.ok ())⟩ } := by
  have hgood := h.good call c hc
  simp only [Call.Good, hstage] at hgood
  obtain ⟨hkey, hread⟩ := hgood
  have hclaim : c.stage.claims = some k.sender := by rw [hstage]; rfl
  have hother : ∀ {n other}, n ≠ call → s.calls.get? n = some other → other.stage.claims ≠ some k.sender :=
    fun hne hn hclaim' => hne (h.exclusive _ _ _ _ _ hn hc hclaim' hclaim)
  have howing := h.owing call c k.sender hc (by rw [hstage]; rfl)
  rw [hkey]
  refine ⟨h.reports, h.once, ?_, ?_, ?_, ?_, ?_⟩
  · intro text row' htext
    rw [Table.get?_put] at htext
    split at htext
    · rename_i heq
      rw [← Option.some.inj htext, hrow]
      exact ⟨⟨k.sender, heq⟩, Nat.succ_ne_zero _⟩
    · exact h.keys text row' htext
  · intro n other hn
    rw [Table.get?_put] at hn
    split at hn
    · rw [← Option.some.inj hn]
      trivial
    · rename_i hne
      have hold := h.good n other hn
      have hfree := hother hne hn
      obtain ⟨sub, stage⟩ := other
      cases stage with
      | scored k' score' =>
        refine ⟨hold.1, ?_⟩
        rw [Database.storedScore_put, if_neg fun heq => hfree (congrArg some heq)]
        exact hold.2
      | _ => exact hold
  · refine h.exclusive.set (s.calls.get?_put call _) ?_
    intro sender hclaim'
    cases hclaim'
  · intro sender hsettled
    rw [Database.storedScore_put]
    split
    · grind [Database.reportsOf]
    rename_i hne
    refine h.settled sender fun n other hn howed => ?_
    by_cases hnc : n = call
    · rw [hnc, hc] at hn
      rw [← Option.some.inj hn, hstage] at howed
      exact hne (Option.some.inj howed).symm
    · exact hsettled n other (by rw [Table.get?_put, if_neg hnc, hn]) howed
  · intro n other sender hn howed
    rw [Table.get?_put] at hn
    split at hn
    · rw [← Option.some.inj hn] at howed
      cases howed
    · rename_i hne
      have hdiff : sender ≠ k.sender := by
        grind [Stage.claims_of_owes]
      rw [Database.storedScore_put, if_neg hdiff]
      exact h.owing n other sender hn howed

/-! ## Every step keeps it -/

theorem not_reported (h : Inv d s) {sub : Submission} {epoch : String}
    (hsender : sub.senderPubKeyHex = hexEncode k.sender) (hrecipient : sub.recipientPubKeyHex = hexEncode k.recipient)
    (hnone : s.db.hasReportedInEpoch sub.senderPubKeyHex sub.recipientPubKeyHex (epochHashHex d epoch k.sender) = false) :
    ∀ r ∈ s.db.reports, ¬ (r.epoch = epoch ∧ r.sender = some k.sender ∧ r.recipient = some k.recipient) := by
  rintro r hr ⟨hepoch, hs, hrec⟩
  obtain ⟨sender, recipient, htext, htext', hhash, -⟩ := h.reports r hr
  rw [Report.sender, htext, hexDecode_hexEncode] at hs
  rw [Report.recipient, htext', hexDecode_hexEncode] at hrec
  obtain rfl := Option.some.inj hs
  obtain rfl := Option.some.inj hrec
  have hpos : 0 < s.db.reports.countP fun r => r.senderPublicKey = sub.senderPubKeyHex &&
      r.recipientPublicKey = sub.recipientPubKeyHex && r.epochHash = epochHashHex d epoch k.sender := by
    grind
  simp [Database.hasReportedInEpoch, hpos] at hnone

/-- A stage at which the call claims no sender. -/
theorem inv_unclaimed (h : Inv d s) (hc : s.calls.get? call = some c) (howes : c.stage.owes = none) {stage : Stage}
    (hgood : Call.Good s ⟨c.sub, stage⟩) (howes' : stage.owes = none) (hclaims : stage.claims = none) :
    Inv d { s with calls := s.calls.put call ⟨c.sub, stage⟩ } := by
  refine inv_advance h hc hgood (howes'.trans howes.symm) ?_
  intro sender hclaim
  rw [hclaims] at hclaim
  cases hclaim

theorem inv_next (h : Inv d s) (hc : s.calls.get? call = some c) {answered : Bool}
    (ho : c.Orderly s answered) (now : Nat) : Inv d { s with
      db := (next d c.sub s.mail s.db answered now c.stage).1
      calls := s.calls.put call ⟨c.sub, (next d c.sub s.mail s.db answered now c.stage).2⟩ } := by
  obtain ⟨sub, stage⟩ := c
  have hgood := h.good call _ hc
  dsimp only
  fun_cases next
  · fun_cases findRecipient <;> try exact inv_unclaimed h hc rfl trivial rfl rfl
    rename_i recipient _ ident hfound
    refine inv_unclaimed h hc rfl ⟨s.mail, List.mem_cons_self .., List.any_eq_true.2 ⟨ident, ?_, ?_⟩⟩ rfl rfl
    · exact (List.mem_filter.1 (List.mem_of_find?_eq_some hfound)).1
    · simpa using List.find?_some hfound
  · rename_i identityID recipient
    fun_cases findMessage <;> try exact inv_unclaimed h hc rfl trivial rfl rfl
    rename_i hinbox sender hash _ hkey _
    obtain ⟨⟨id, message⟩, hentry, hmessage⟩ := List.mem_map.1 (not_not.1 hinbox)
    obtain ⟨hmem, hid⟩ := List.mem_filter.1 hentry
    simp only [decide_eq_true_eq] at hid hmessage
    subst hid hmessage
    have hsent := ho hmem
    rw [hexBytes_of_hexDecode hkey] at hsent
    exact inv_unclaimed h hc rfl ⟨id, _, hgood, s.mail, List.mem_cons_self .., hmem, hsent⟩ rfl rfl
  · fun_cases findProof
    · exact inv_unclaimed h hc rfl trivial rfl rfl
    · exact inv_unclaimed h hc rfl hgood rfl rfl
  · rename_i k
    obtain ⟨hsender, hrecipient, hfree⟩ := ho
    fun_cases checkEpoch <;> try exact inv_unclaimed h hc rfl trivial rfl rfl
    rename_i hnone
    refine inv_advance h hc ⟨hgood, hsender, hrecipient, not_reported h hsender hrecipient (by simpa using hnone)⟩ rfl ?_
    intro sender hclaim
    rw [← Option.some.inj hclaim]
    exact .inr hfree
  · fun_cases storeReport
    · exact inv_unclaimed h hc rfl trivial rfl rfl
    · rename_i db hdb
      simp only [Database.createReport] at hdb
      split at hdb
      · obtain rfl := Option.some.inj (Option.ite_none_left_eq_some.1 hdb).2
        exact inv_create h hc rfl now
      · cases hdb
  · rename_i k
    simp only [readScore, show answered = true from ho, if_true]
    refine inv_advance h hc ?_ rfl fun sender hclaim => .inl hclaim
    simp only [Call.Good, Database.getAbuseScore, Database.storedScore, show sub.senderPubKeyHex = _ from hgood]
    cases s.db.scores.get? (hexEncode k.sender) with
    | none | some row => exact ⟨rfl, rfl⟩
  · simp only [saveScore, show answered = true from ho, if_true, Database.saveAbuseScore,
      applyEscalationRules_senderPublicKey]
    exact inv_save h hc rfl (applyEscalationRules_score ..)
  · exact inv_unclaimed h hc rfl trivial rfl rfl

theorem inv_step {e : Event} (h : Inv d s) (ho : Orderly s e) : Inv d (step d s e) := by
  cases e with
  | mail m => exact inv_mail h m
  | submit call sub => exact inv_submit h call sub
  | advance call answered now =>
    unfold step
    simp only
    split
    · exact h
    rename_i c hc
    exact inv_next h hc (ho c hc) now

/-! ## The accounts -/

theorem scoresOf_eq (h : Inv d s) (sender : Bytes) :
    s.db.scoresOf sender = ((s.db.scores.get? (hexEncode sender)).map ScoreRow.score).toList := by
  have hspelling : ∀ r ∈ s.db.scores.rows, (hexDecode r.1.toList = some sender ↔ r.1 = hexEncode sender) := by
    intro r hr
    obtain ⟨⟨key, hkey⟩, -⟩ := h.keys r.1 r.2 (Table.get?_eq_some.2 hr) <;> grind [hexDecode_hexEncode]
  have hfilter : (s.db.scores.rows.filter fun r => hexDecode r.1.toList = some sender) =
      s.db.scores.rows.filter fun r => r.1 = hexEncode sender :=
    List.filter_congr fun r hr => by simp [hspelling r hr]
  have hmap : (fun r : String × ScoreRow => r.2.score) = ScoreRow.score ∘ Prod.snd := rfl
  rw [Database.scoresOf, hfilter, hmap, ← List.map_map, s.db.scores.filter_key]
  cases s.db.scores.get? (hexEncode sender) <;> rfl

theorem accounted_of_inv (h : Inv d s) : Accounted s where
  scores sender hsettled := by
    have hcount := h.settled sender hsettled
    unfold Database.storedScore at hcount
    rw [scoresOf_eq h]
    cases hrow : s.db.scores.get? (hexEncode sender) with
    | none =>
      grind
    | some row =>
      grind [h.keys]
  received r hr := by
    obtain ⟨sender, recipient, hs, hrec, -, hreceived⟩ := h.reports r hr <;> grind [Report.sender,
      hexDecode_hexEncode, Report.recipient]
  once := h.once

/-- In every run whose statements are orderly, the accounts are right in every state reached. -/
theorem reports_accounted (d : Digests) (m : Mail) (es : List Event) (h : Along (step d) Orderly (.init m) es) :
    Accounted (exec (step d) (.init m) es) :=
  accounted_of_inv (Along.invariant (P := Inv d) (fun _ _ hs ho => inv_step hs ho) (inv_init d m) h)

def plainDigests : Digests := ⟨id, fun key message => key ++ message, []⟩

def sampleUUID (n : UInt8) : UUID := .ofByte n

def sampleRecord (key : String) : String := "\x7b\"public_keys\":\x7b\"identity\":\"" ++ key ++ "\"\x7d\x7d"

def sampleMail : Mail where
  identities := [⟨sampleUUID 1, sampleUUID 11, "@mallory:a.example", sampleRecord "ab"⟩,
    ⟨sampleUUID 2, sampleUUID 12, "@alice:a.example", sampleRecord "cd"⟩]
  senders := (Table.empty.insertOrIgnore (sampleUUID 21) "@mallory:a.example").insertOrIgnore (sampleUUID 22)
    "@mallory:a.example"
  inboxes := [(sampleUUID 2, sampleUUID 21), (sampleUUID 2, sampleUUID 22)]

def sampleReport (call : Nat) (messageID : UUID) (senderPubKeyHex : String) : List Event :=
  .submit call ⟨sampleUUID 12, messageID, senderPubKeyHex, "cd", String.ofList (List.replicate 64 '0'), ""⟩ ::
    List.replicate 7 (.advance call true (63919886400 * second))

/-- One report is counted once. -/
theorem report_counted :
    (exec (step plainDigests) (.init sampleMail) (sampleReport 0 (sampleUUID 21) "ab")).db.scoresOf [0xAB] = [1] ∧
      Accounted (exec (step plainDigests) (.init sampleMail) (sampleReport 0 (sampleUUID 21) "ab")) :=
  ⟨by decide +kernel, reports_accounted plainDigests sampleMail (sampleReport 0 (sampleUUID 21) "ab") (by decide +kernel)⟩

/-- The second message is reported with the sender key in capitals, in the same epoch, one call after the other:
two reports of one pair, and two scores of one. -/
theorem reported_in_capitals :
    (exec (step plainDigests) (.init sampleMail)
        (sampleReport 0 (sampleUUID 21) "ab" ++ sampleReport 1 (sampleUUID 22) "AB")).db.scoresOf [0xAB] = [1, 1] ∧
      (exec (step plainDigests) (.init sampleMail)
        (sampleReport 0 (sampleUUID 21) "ab" ++ sampleReport 1 (sampleUUID 22) "AB")).db.reportsOf [0xAB] = 2 ∧
      ¬ Accounted (exec (step plainDigests) (.init sampleMail)
        (sampleReport 0 (sampleUUID 21) "ab" ++ sampleReport 1 (sampleUUID 22) "AB")) := by
  refine ⟨by decide +kernel, by decide +kernel, ?_⟩
  intro h
  exact absurd h.once (by decide +kernel)

end GaiaCom.Trustmesh
