/-
governance/service.go: `ReviewCase` with the consensus it may reach, `AppealCase`, `ResolveAppeal` and
`NodeOperatorSuspendChannel`. Each call is the sequence of its statements; what stands between two of them is part of the
step of the first one. Errors of most statements are ignored. `ReviewCase` holds the service's mutex until it returns. The
check of a role is one step, over credentials that may be others at every step; so is the number of users.
-/
import GaiaCom.Governance.Cases
import GaiaCom.Governance.Roles
import GaiaCom.Lib.Json
import GaiaCom.Lib.Pool
import Mathlib.Data.List.Dedup
import Mathlib.Data.List.MinMax
import Mathlib.Data.Prod.Lex

namespace GaiaCom.Governance

open Lib Core GaiaCom.Store

/-! ## Consensus -/

section Consensus

variable (cm : CaseMap)

def canonicalReportField (value : String) : String := String.ofList (lowered cm value.toList)

def allowedReportCategories : List String :=
  ["spam", "phishing", "malware", "harassment", "illegal_content", "threat", "other"]

def allowedReportSeverities : List String := ["low", "medium", "high", "critical"]

def allowedReviewRecommendations : List String := ["warn", "timeout", "quarantine", "suspend", "reject"]

def severityWeight (severity : String) : Nat :=
  let field := canonicalReportField cm severity
  if field = "critical" then 4 else if field = "high" then 3 else if field = "medium" then 2 else 1

/-- `reviewerSeatLimit`: two fifths, rounded up. The product with the float 0.4 rounds to the exact one where that is
whole, so the ceiling is that of the exact product. -/
def reviewerSeatLimit (userCount : Nat) : Nat :=
  if userCount = 0 then 0 else min (max ((2 * userCount + 4) / 5) 1) userCount

/-- `actionConsensusThreshold`: the reviewers and the points that are needed. -/
def actionConsensusThreshold (userCount : Nat) : Nat × Nat :=
  let seats := reviewerSeatLimit userCount
  if seats = 0 then (1, 4)
  else
    let half := (seats + 1) / 2
    let minReviewers := if half < 2 ∧ 2 ≤ seats then 2 else half
    (min minReviewers seats, max (seats * 2) 4)

/-- The columns of identities that are counted. -/
structure NodeIdentity where
  userID : UUID
  isActive : Bool

def uniqueNodeUserCount (identities : List NodeIdentity) : Nat :=
  ((identities.filter NodeIdentity.isActive).map NodeIdentity.userID).dedup.length

def targetTypeFromDisclosure (c : AbuseCase) : String :=
  canonicalReportField cm (Json.lenientString "targetType" (((Json.parse c.disclosure).map Json.lenientMembers).getD []))

def actionPriority (action : String) : Nat :=
  if action = "suspend" then 4 else if action = "timeout" then 3 else if action = "quarantine" then 2
  else if action = "warn" then 1 else 0

/-- `consensusActionType`, for votes in any order. -/
def consensusActionType (votes : List (String × Nat)) : String :=
  (votes.foldl (fun best vote =>
    if best.2 < vote.2 ∨ (vote.2 = best.2 ∧ actionPriority best.1 < actionPriority vote.1) then vote else best) ("", 0)).1

def abuseActionExpiry (now : Nat) (actionType severity : String) : Nat :=
  if actionType = "warn" then now + 7 * 24 * hour
  else if actionType = "timeout" then
    let field := canonicalReportField cm severity
    if field = "critical" then now + 14 * 24 * hour else if field = "high" then now + 7 * 24 * hour else now + 48 * hour
  else if actionType = "suspend" then now + 30 * 24 * hour
  else now + 14 * 24 * hour

def actionRecommendations : List String := ["suspend", "quarantine", "timeout", "warn"]

def actionReviews (reviews : List AbuseReview) : List AbuseReview :=
  reviews.filter fun r => r.recommendation ∈ actionRecommendations

/-- What `ReviewCase` counts: reviewers, points and the action. -/
structure Consensus where
  reviewers : Nat
  points : Nat
  actionType : String
  deriving DecidableEq

def consensus (c : AbuseCase) (reviews : List AbuseReview) (nodeUserCount : Nat) : Option Consensus :=
  let votes := actionReviews reviews
  let reviewers := (votes.map AbuseReview.reviewerIdentity).dedup.length
  let points := (votes.map fun r => severityWeight cm r.severityVote).sum
  let threshold := actionConsensusThreshold nodeUserCount
  if threshold.1 ≤ reviewers ∧ threshold.2 ≤ points ∧ c.status = "new" then
    let counts := (actionRecommendations.map fun action => (action, votes.countP fun r => r.recommendation = action)).filter
      fun vote => 0 < vote.2
    let actionType := consensusActionType counts
    some ⟨reviewers, points, if actionType = "" then "quarantine" else actionType⟩
  else none

def actionTargetType (c : AbuseCase) : String :=
  let targetType := targetTypeFromDisclosure cm c
  let targetType := if targetType = "" then "channel" else targetType
  if targetType = "post" then "message" else targetType

def suspendedChannel (c : AbuseCase) (actionType : String) : Option UUID :=
  if actionTargetType cm c = "channel" ∧ (actionType = "suspend" ∨ actionType = "quarantine") then
    parse c.reportedIdentityHash
  else none

end Consensus

/-! ## Thresholds and votes -/

/-- By count, and by priority where counts are equal. -/
def voteRank (vote : String × Nat) : Nat ×ₗ Nat := toLex (vote.2, actionPriority vote.1)

theorem voteRank_lt {v w : String × Nat} :
    voteRank v < voteRank w ↔ v.2 < w.2 ∨ (w.2 = v.2 ∧ actionPriority v.1 < actionPriority w.1) := by
  rw [voteRank, voteRank, Prod.Lex.toLex_lt_toLex, eq_comm (a := w.2)]

theorem voteRank_inj {v w : String × Nat} (hv : v.1 ∈ actionRecommendations) (hw : w.1 ∈ actionRecommendations)
    (h : voteRank v = voteRank w) : v = w := by
  have hactions : ∀ a ∈ actionRecommendations, ∀ b ∈ actionRecommendations, actionPriority a = actionPriority b → a = b := by
    decide
  obtain ⟨hcount, hpriority⟩ := Prod.ext_iff.1 (toLex.injective h)
  exact Prod.ext (hactions _ hv _ hw hpriority) hcount

/-- A vote that is counted beats the start, so the loop keeps the vote of greatest rank. -/
theorem consensusActionType_eq {votes : List (String × Nat)} (hne : votes ≠ []) (hpos : ∀ v ∈ votes, 0 < v.2) :
    ∃ best ∈ votes.argmax voteRank, consensusActionType votes = best.1 := by
  obtain ⟨v, votes, rfl⟩ := List.exists_cons_of_ne_nil hne
  rw [consensusActionType, List.foldl_cons, if_pos (.inl (hpos v List.mem_cons_self))]
  refine ⟨_, List.foldl_hom some fun best vote => ?_, rfl⟩
  simp only [List.argAux, voteRank_lt]
  split <;> rfl

/-- The thresholds for any number of users, and the action that the votes agree on in whatever order the map is read. -/
theorem consensus_thresholds (cm : CaseMap) (n : Nat) (hn : 1 ≤ n) :
    let seats := reviewerSeatLimit n
    let threshold := actionConsensusThreshold n
    (1 ≤ threshold.1 ∧ threshold.1 ≤ seats ∧ seats ≤ n) ∧
    (∀ m, n ≤ m → seats ≤ reviewerSeatLimit m ∧ threshold.1 ≤ (actionConsensusThreshold m).1 ∧
      threshold.2 ≤ (actionConsensusThreshold m).2) ∧
    (∀ severities : List String, severities.length = threshold.1 →
      (∀ v ∈ severities, canonicalReportField cm v = "critical") → threshold.2 ≤ (severities.map (severityWeight cm)).sum) ∧
    (2 ≤ seats → ∀ v, canonicalReportField cm v = "critical" → ¬(threshold.1 ≤ 1 ∧ threshold.2 ≤ severityWeight cm v)) ∧
    ∀ votes : List (String × Nat), votes ≠ [] → (∀ v ∈ votes, v.1 ∈ actionRecommendations ∧ 0 < v.2) →
      ∃ best ∈ votes, (∀ v ∈ votes, v ≠ best → voteRank v < voteRank best) ∧
        ∀ order, order.Perm votes → consensusActionType order = best.1 := by
  have hseats (m : Nat) (hm : 1 ≤ m) : reviewerSeatLimit m = (2 * m + 4) / 5 := by
    rw [reviewerSeatLimit, if_neg (by omega)]
    omega
  have hthreshold (m : Nat) (hm : 1 ≤ m) : actionConsensusThreshold m =
      (if reviewerSeatLimit m = 1 then 1 else max 2 ((reviewerSeatLimit m + 1) / 2), max (reviewerSeatLimit m * 2) 4) := by
    have := hseats m hm
    grind [actionConsensusThreshold]
  have hcritical {v : String} (h : canonicalReportField cm v = "critical") : severityWeight cm v = 4 := if_pos h
  have hlimit := hseats n hn
  simp only [hthreshold n hn]
  refine ⟨by split <;> omega, fun m hm => ?_, fun severities hlength hall => ?_, fun h v hv => ?_,
    fun votes hne hvotes => ?_⟩
  · rw [hthreshold m (hn.trans hm), hseats m (hn.trans hm), hlimit]
    split <;> split <;> omega
  · rw [List.map_congr_left fun v hv => hcritical (hall v hv), List.map_const',
      List.sum_replicate, smul_eq_mul, hlength]
    split <;> omega
  · split <;> omega
  · obtain ⟨best, hbest, -⟩ := consensusActionType_eq hne fun v hv => (hvotes v hv).2
    have hmem := List.argmax_mem hbest
    have hgreatest : ∀ v ∈ votes, v ≠ best → voteRank v < voteRank best := fun v hv hne =>
      (List.le_of_mem_argmax hv hbest).lt_of_ne fun h => hne (voteRank_inj (hvotes v hv).1 (hvotes best hmem).1 h)
    refine ⟨best, hmem, hgreatest, fun order hperm => ?_⟩
    obtain ⟨found, hfound, heq⟩ := consensusActionType_eq (List.ne_nil_of_mem (hperm.mem_iff.2 hmem))
      fun v hv => (hvotes v (hperm.mem_iff.1 hv)).2
    by_contra hother
    have hlt := hgreatest found (hperm.mem_iff.1 (List.argmax_mem hfound)) fun h => hother (h ▸ heq)
    exact hlt.not_ge (List.le_of_mem_argmax (hperm.mem_iff.2 hmem) hfound)

theorem consensus_thresholds_ten : actionConsensusThreshold 10 = (2, 8) ∧
    ∀ order, order.Perm [("warn", 2), ("timeout", 2), ("suspend", 1)] → consensusActionType order = "timeout" := by
  obtain ⟨-, -, -, -, hvotes⟩ := consensus_thresholds .plain 10 (by decide)
  obtain ⟨best, -, -, horder⟩ := hvotes [("warn", 2), ("timeout", 2), ("suspend", 1)] (by decide) (by decide)
  exact ⟨rfl, fun order h => (horder order h).trans (horder _ (.refl _)).symm⟩

/-! ## Calls -/

/-- What the world provides for one step: the clock, an id that is drawn, whether the statement fails, and what the tables
of roles and of identities hold; `none` is a query that failed. -/
structure Tick where
  now : Nat
  id : UUID
  fails : Bool
  credentials : Credentials
  identities : Option (List NodeIdentity)

/-- A call with its arguments. -/
inductive Request where
  | reviewCase (reviewerGaiaID caseID categoryVote severityVote recommendation reason : String)
  | appealCase (senderGaiaID caseID reason statement : String)
  | resolveAppeal (reviewerGaiaID caseID status decisionReason : String)
  | nodeOperatorSuspendChannel (operatorGaiaID channelID : String) (suspended : Bool) (reason : String)
  deriving DecidableEq

inductive GovernanceError where
  | category | severity | recommendation | caseNotFound | reviewer | reviewed | appealed | senior | appealNotFound
  | resolved | conflict | operator | channelID | system
  deriving DecidableEq

/-- How far a call is. -/
inductive Stage where
  | started
  /-- Review: the case is read, the role is next. -/
  | judging (c : AbuseCase)
  /-- Review: the reviewer is one, the reviews there are come next. -/
  | admitted (c : AbuseCase)
  /-- Review: the review is to be inserted. -/
  | voting (c : AbuseCase)
  /-- Review: the review, inserted at a time, is to be logged. -/
  | voted (c : AbuseCase) (reviewedAt : Nat)
  /-- Review: the reviews are to be read again. -/
  | counting (c : AbuseCase)
  /-- Review: the users are to be counted. -/
  | weighing (c : AbuseCase) (reviews : List AbuseReview)
  /-- Review: there is a consensus, the case is to be updated. -/
  | actioning (c : AbuseCase) (consensus : Consensus)
  /-- Review: the consensus is to be logged. -/
  | announcing (c : AbuseCase) (consensus : Consensus)
  /-- Review: the channel is to be suspended. -/
  | suspending (c : AbuseCase) (consensus : Consensus) (channelID : UUID)
  /-- Review: the action is to be inserted. -/
  | sanctioning (c : AbuseCase) (consensus : Consensus)
  /-- Appeal: the case is read, an appeal that is there is next. -/
  | appealing
  /-- Appeal: it is to be inserted. -/
  | submitting
  /-- Appeal: the case is to be updated. -/
  | submitted (submittedAt : Nat)
  /-- Appeal: it is to be logged. -/
  | filed (submittedAt : Nat)
  /-- Resolve: the reviewer is a senior one, the appeal is next. -/
  | senior
  /-- Resolve: the appeal is pending, the reviews are next. -/
  | pending
  /-- Resolve: the reviewer has no part in the case, the appeal is to be updated. -/
  | deciding
  /-- Resolve: the case is to be read. -/
  | decided
  /-- Resolve: the case is to be closed. -/
  | closing (c : AbuseCase)
  /-- Resolve: the channel is to be reinstated. -/
  | lifting (c : AbuseCase) (channelID : UUID)
  /-- Resolve: the actions are to be read. -/
  | collecting (c : AbuseCase)
  /-- Resolve: actions are to be deleted. -/
  | deleting (ids : List String)
  /-- Resolve: the decision is to be logged. -/
  | recording
  /-- Operator: the channel is to be updated. -/
  | operating (channelID : UUID)
  /-- Operator: the case is to be inserted. -/
  | tracking
  /-- Operator: the decision is to be logged. -/
  | overriding (caseID : String)
  | failed (err : GovernanceError)
  | succeeded
  deriving DecidableEq

structure Call where
  request : Request
  stage : Stage
  deriving DecidableEq

def Call.begin (request : Request) : Call := ⟨request, .started⟩

/-! ## Steps -/

section Steps

variable (cm : CaseMap) (config : Bootstrap) (tick : Tick) (db : Database)

def isAuthorized (gaiaID role : String) : Bool := hasRole cm config tick.credentials tick.now gaiaID role = some true

def attempt (statement : Option Database) : Database := if tick.fails then db else statement.getD db

/-- The checks of `ReviewCase` before the first statement. -/
def checkReview (categoryVote severityVote recommendation : String) : Except GovernanceError Unit := do
  ensure .category (decide (canonicalReportField cm categoryVote ∈ allowedReportCategories))
  ensure .severity (decide (canonicalReportField cm severityVote ∈ allowedReportSeverities))
  ensure .recommendation (decide (canonicalReportField cm recommendation ∈ allowedReviewRecommendations))

def unlock : Database := { db with mu := false }

/-- `ReviewCase`. -/
def nextReview (reviewerGaiaID caseID categoryVote severityVote recommendation reason : String) :
    Stage → Database × Stage
  | .started =>
    -- another review holds the mutex
    if db.mu then (db, .started)
    else
      match checkReview cm categoryVote severityVote recommendation with
      | .error err => (db, .failed err)
      | .ok () =>
        match if tick.fails then none else db.cases.get? caseID with
        | none => (db, .failed .caseNotFound)
        | some c => ({ db with mu := true }, .judging c)
  | .judging c =>
    if isAuthorized cm config tick reviewerGaiaID "trusted_reviewer" then (db, .admitted c)
    else (unlock db, .failed .reviewer)
  | .admitted c =>
    if !tick.fails && (getAbuseReviews db caseID).any fun r => r.reviewerIdentity = reviewerGaiaID then
      (unlock db, .failed .reviewed)
    else (db, .voting c)
  | .voting c =>
    match if tick.fails then none else createAbuseReview db ("rev_" ++ tick.id.text)
      ⟨caseID, reviewerGaiaID, formatTime tick.now, canonicalReportField cm categoryVote,
        canonicalReportField cm severityVote, canonicalReportField cm recommendation, trimSpace reason⟩ with
    | none => (unlock db, .failed .system)
    | some db' => (db', .voted c tick.now)
  | .voted c reviewedAt =>
    (attempt tick db (createAbuseCaseEvent db ⟨caseID, "review_signed", reviewerGaiaID,
      "Reviewer voted category: " ++ canonicalReportField cm categoryVote ++ ", recommendation: " ++
        canonicalReportField cm recommendation, formatTime reviewedAt⟩), .counting c)
  | .counting c => if tick.fails then (unlock db, .succeeded) else (db, .weighing c (getAbuseReviews db caseID))
  | .weighing c reviews =>
    match consensus cm c reviews ((tick.identities.map uniqueNodeUserCount).getD 1) with
    | none => (unlock db, .succeeded)
    | some reached => (db, .actioning c reached)
  | .actioning c reached =>
    (attempt tick db (some (updateAbuseCaseStatus db caseID "actioned")), .announcing c reached)
  | .announcing c reached =>
    (attempt tick db (createAbuseCaseEvent db ⟨caseID, "threshold_reached", "system",
      "Abuse consensus reached: " ++ toString reached.reviewers ++ " reviewers, " ++ toString reached.points ++
        " weighted points, action " ++ reached.actionType ++ ".", formatTime tick.now⟩),
      match suspendedChannel cm c reached.actionType with
      | none => .sanctioning c reached
      | some channelID => .suspending c reached channelID)
  | .suspending c reached channelID =>
    (attempt tick db (some (suspendPublicChannel db channelID true
      "Actioned by abuse consensus due to multiple node policy violations.")), .sanctioning c reached)
  | .sanctioning c reached =>
    (unlock (attempt tick db (createAbuseAction db ("act_" ++ tick.id.text)
      ⟨caseID, actionTargetType cm c, c.reportedIdentityHash, reached.actionType, c.severity, formatTime tick.now,
        formatTime (abuseActionExpiry cm tick.now reached.actionType c.severity),
        "Consensus threshold met with " ++ toString reached.points ++ " weighted points."⟩)), .succeeded)
  | stage => (db, stage)

/-- `AppealCase`. -/
def nextAppeal (senderGaiaID caseID reason statement : String) : Stage → Database × Stage
  | .started =>
    match if tick.fails then none else db.cases.get? caseID with
    | none => (db, .failed .caseNotFound)
    | some _ => (db, .appealing)
  | .appealing =>
    if !tick.fails && (getAbuseAppeal db caseID).isSome then (db, .failed .appealed) else (db, .submitting)
  | .submitting =>
    match if tick.fails then none else createAbuseAppeal db ("app_" ++ tick.id.text)
      ⟨caseID, senderGaiaID, formatTime tick.now, reason, statement, "pending", "", "", ""⟩ with
    | none => (db, .failed .system)
    | some db' => (db', .submitted tick.now)
  | .submitted submittedAt => (attempt tick db (some (updateAbuseCaseStatus db caseID "appealed")), .filed submittedAt)
  | .filed submittedAt =>
    (attempt tick db (createAbuseCaseEvent db ⟨caseID, "appeal_submitted", senderGaiaID,
      "Appeal submitted. Reason: " ++ reason, formatTime submittedAt⟩), .succeeded)
  | stage => (db, stage)

def deletingStage : List String → Stage
  | [] => .recording
  | ids => .deleting ids

/-- `ResolveAppeal`. -/
def nextResolve (reviewerGaiaID caseID status decisionReason : String) : Stage → Database × Stage
  | .started =>
    if isAuthorized cm config tick reviewerGaiaID "senior_reviewer" then (db, .senior) else (db, .failed .senior)
  | .senior =>
    match if tick.fails then none else getAbuseAppeal db caseID with
    | none => (db, .failed .appealNotFound)
    | some appeal => if appeal.status = "pending" then (db, .pending) else (db, .failed .resolved)
  | .pending =>
    if !tick.fails && (getAbuseReviews db caseID).any fun r => r.reviewerIdentity = reviewerGaiaID then
      (db, .failed .conflict)
    else (db, .deciding)
  | .deciding =>
    if tick.fails then (db, .failed .system)
    else (updateAbuseAppealStatus db tick.now caseID status decisionReason reviewerGaiaID, .decided)
  | .decided =>
    match if tick.fails then none else db.cases.get? caseID with
    | none => (db, .recording)
    | some c => (db, .closing c)
  | .closing c =>
    (attempt tick db (some (updateAbuseCaseStatus db caseID "closed")),
      if status = "accepted" then
        match parse c.reportedIdentityHash with
        | none => .collecting c
        | some channelID => .lifting c channelID
      else .recording)
  | .lifting c channelID => (attempt tick db (some (suspendPublicChannel db channelID false "")), .collecting c)
  | .collecting c =>
    (db, if tick.fails then .recording else deletingStage (getAbuseActions db "channel" c.reportedIdentityHash))
  | .deleting (id :: ids) => (attempt tick db (some (deleteAbuseAction db id)), deletingStage ids)
  | .recording =>
    (attempt tick db (createAbuseCaseEvent db ⟨caseID, "appeal_decided", reviewerGaiaID,
      "Appeal resolution: " ++ status ++ ". Decision: " ++ decisionReason, formatTime tick.now⟩), .succeeded)
  | stage => (db, stage)

def overrideDetails (channelID : String) (suspended : Bool) (reason : String) : String :=
  "Node Operator manually " ++ (if suspended then "quarantined" else "reinstated") ++ " channel " ++ channelID ++
    ". Reason: " ++ reason

/-- `NodeOperatorSuspendChannel`. -/
def nextSuspend (operatorGaiaID channelID : String) (suspended : Bool) (reason : String) : Stage → Database × Stage
  | .started =>
    if isAuthorized cm config tick operatorGaiaID "node_operator" then
      match parse channelID with
      | none => (db, .failed .channelID)
      | some channelUUID => (db, .operating channelUUID)
    else (db, .failed .operator)
  | .operating channelUUID =>
    if tick.fails then (db, .failed .system) else (suspendPublicChannel db channelUUID suspended reason, .tracking)
  | .tracking =>
    (attempt tick db (createAbuseCase db ("case_override_" ++ tick.id.text)
      ⟨"manual_override", "operator_action", "high", channelID, "", "actioned"⟩),
      .overriding ("case_override_" ++ tick.id.text))
  | .overriding caseID =>
    (attempt tick db (createAbuseCaseEvent db ⟨caseID, "operator_override", operatorGaiaID,
      overrideDetails channelID suspended reason, formatTime tick.now⟩), .succeeded)
  | stage => (db, stage)

def nextStage : Request → Stage → Database × Stage
  | .reviewCase reviewerGaiaID caseID categoryVote severityVote recommendation reason =>
    nextReview cm config tick db reviewerGaiaID caseID categoryVote severityVote recommendation reason
  | .appealCase senderGaiaID caseID reason statement => nextAppeal tick db senderGaiaID caseID reason statement
  | .resolveAppeal reviewerGaiaID caseID status decisionReason =>
    nextResolve cm config tick db reviewerGaiaID caseID status decisionReason
  | .nodeOperatorSuspendChannel operatorGaiaID channelID suspended reason =>
    nextSuspend cm config tick db operatorGaiaID channelID suspended reason

def next (call : Call) : Database × Call :=
  ((nextStage cm config tick db call.request call.stage).1,
    ⟨call.request, (nextStage cm config tick db call.request call.stage).2⟩)

end Steps

/-- The database and the calls over it. -/
abbrev System := Pool Database Call

abbrev Event := Pool.Event Request Tick

def step (cm : CaseMap) (config : Bootstrap) : System → Event → System := Pool.step Call.begin (next cm config)

def fresh (db : Database) : System := ⟨db, Table.empty⟩

end GaiaCom.Governance
