/-
Cases of abuse, their reviews, actions and appeals, and the suspension of public channels: sql_store_governance_abuse.go.
Reviews, actions, appeals and events refer to a case, and a row for a case that is not there is rejected. Only the columns
that a call reads or that differ from row to row are kept; signatures are left out.
-/
import GaiaCom.Core.Uuid
import GaiaCom.Lib.Table
import GaiaCom.Store.Column

namespace GaiaCom.Governance

open Lib Core GaiaCom.Store

/-! ## Tables -/

/-- A row of abuse_cases. -/
structure AbuseCase where
  caseType : String
  category : String
  severity : String
  reportedIdentityHash : String
  disclosure : String
  status : String
  deriving DecidableEq

/-- A row of abuse_reviews. -/
structure AbuseReview where
  caseID : String
  reviewerIdentity : String
  reviewedAt : String
  categoryVote : String
  severityVote : String
  recommendation : String
  visibleReason : String
  deriving DecidableEq

/-- A row of abuse_actions. -/
structure AbuseAction where
  caseID : String
  targetType : String
  targetID : String
  actionType : String
  severity : String
  appliedAt : String
  expiresAt : String
  reason : String
  deriving DecidableEq

/-- A row of abuse_appeals. -/
structure AbuseAppeal where
  caseID : String
  submittedBy : String
  submittedAt : String
  reason : String
  statement : String
  status : String
  decisionReason : String
  decidedAt : String
  decidedBy : String
  deriving DecidableEq

/-- A row of abuse_case_events. -/
structure AbuseCaseEvent where
  caseID : String
  eventType : String
  actorIdentity : String
  details : String
  timestamp : String
  deriving DecidableEq

/-- The columns of public_channels that are written here. -/
structure PublicChannel where
  isSuspended : Bool
  suspensionReason : String
  deriving DecidableEq

/-- The tables, with the mutex of the service. -/
structure Database where
  cases : Table String AbuseCase
  reviews : Table String AbuseReview
  actions : Table String AbuseAction
  appeals : Table String AbuseAppeal
  events : List AbuseCaseEvent
  channels : Table UUID PublicChannel
  mu : Bool

/-! ## Queries -/

section Queries

variable (db : Database)

def getAbuseReviews (caseID : String) : List AbuseReview :=
  (db.reviews.rows.map Prod.snd).filter fun r => r.caseID = caseID

/-- `GetAbuseActions`, of which only the ids are read. -/
def getAbuseActions (targetType targetID : String) : List String :=
  (db.actions.rows.filter fun r => r.2.targetType = targetType && r.2.targetID = targetID).map Prod.fst

/-- `GetAbuseAppeal`: the first row of the case. -/
def getAbuseAppeal (caseID : String) : Option AbuseAppeal :=
  (db.appeals.rows.map Prod.snd).find? fun a => a.caseID = caseID

end Queries

/-! ## Statements

`none` is a constraint that fails. -/

section Statements

variable (db : Database) (now : Nat)

def createAbuseCase (id : String) (c : AbuseCase) : Option Database :=
  if (db.cases.get? id).isSome then none else some { db with cases := db.cases.insertOrIgnore id c }

def updateAbuseCaseStatus (id status : String) : Database :=
  { db with cases := db.cases.updateWhere (fun key _ => key = id) fun c => { c with status := status } }

def createAbuseCaseEvent (e : AbuseCaseEvent) : Option Database :=
  if (db.cases.get? e.caseID).isSome then some { db with events := db.events ++ [e] } else none

def createAbuseReview (id : String) (r : AbuseReview) : Option Database :=
  if (db.cases.get? r.caseID).isSome ∧ (db.reviews.get? id).isNone then
    some { db with reviews := db.reviews.insertOrIgnore id r }
  else none

def createAbuseAction (id : String) (a : AbuseAction) : Option Database :=
  if (db.cases.get? a.caseID).isSome ∧ (db.actions.get? id).isNone then
    some { db with actions := db.actions.insertOrIgnore id a }
  else none

def deleteAbuseAction (id : String) : Database := { db with actions := db.actions.deleteWhere fun key _ => key = id }

def createAbuseAppeal (id : String) (a : AbuseAppeal) : Option Database :=
  if (db.cases.get? a.caseID).isSome ∧ (db.appeals.get? id).isNone then
    some { db with appeals := db.appeals.insertOrIgnore id a }
  else none

/-- `UpdateAbuseAppealStatus`: every row of the case. -/
def updateAbuseAppealStatus (caseID status decisionReason decidedBy : String) : Database :=
  { db with appeals := db.appeals.updateWhere (fun _ a => a.caseID = caseID) fun a =>
    { a with status := status, decisionReason := decisionReason, decidedBy := decidedBy, decidedAt := formatTime now } }

def suspendPublicChannel (channelID : UUID) (suspended : Bool) (reason : String) : Database :=
  { db with channels := db.channels.updateWhere (fun key _ => key = channelID) fun _ => ⟨suspended, reason⟩ }

end Statements

end GaiaCom.Governance
