/-
What stands behind an action: the votes of reviewers.

`ReviewCase` counts reviewers by their GaiaID, while the seats are computed from users; a user with two identities counts
twice. If the users cannot be read it goes on as if there were one, and it inserts the action even if the status of the
case could not be written, so that the next review finds the case new once more. If no user votes twice on a case, the
users can be read and the status is written, then every action rests on a consensus of users, and a case has one action
at most (`actions_by_consensus`).
-/
import GaiaCom.Governance.Appeals
import GaiaCom.Governance.Effects

namespace GaiaCom.Governance

open Lib Core GaiaCom.Store

/-! ## What is recorded of a run -/

def created (before after : Table String AbuseAction) : List String :=
  (after.rows.filter fun row => (before.get? row.1).isNone).map fun row => row.2.caseID

/-- The calls and the database, with the checks of a reviewer's role on a case, the counts of users by a call and the cases
of all actions that were created. -/
structure Ledger where
  system : System
  checks : List (String × String × Tick)
  counts : List (Nat × Tick)
  actions : List String

def Call.checked (tick : Tick) : Call → Option (String × String × Tick)
  | ⟨.reviewCase reviewerGaiaID caseID _ _ _ _, .judging _⟩ => some (caseID, reviewerGaiaID, tick)
  | _ => none

def Call.counted (n : Nat) (tick : Tick) : Call → Option (Nat × Tick)
  | ⟨.reviewCase _ _ _ _ _ _, .weighing _ _⟩ => some (n, tick)
  | _ => none

def record (cm : CaseMap) (config : Bootstrap) (s : Ledger) : Event → Ledger
  | .start n request => { s with system := step cm config s.system (.start n request) }
  | .advance n tick =>
    { system := step cm config s.system (.advance n tick)
      checks := s.checks ++ ((s.system.calls.get? n).bind fun call => call.checked tick).toList
      counts := s.counts ++ ((s.system.calls.get? n).bind fun call => call.counted n tick).toList
      actions := s.actions ++ created s.system.shared.actions (step cm config s.system (.advance n tick)).shared.actions }

def Ledger.begin (db : Database) : Ledger := ⟨fresh db, [], [], []⟩

def votes (db : Database) (caseID : String) : List AbuseReview := actionReviews (getAbuseReviews db caseID)

/-- The reviewer has the role at a check on the case. -/
def HeldRole (cm : CaseMap) (config : Bootstrap) (s : Ledger) (caseID reviewerGaiaID : String) : Prop :=
  ∃ tick, (caseID, reviewerGaiaID, tick) ∈ s.checks ∧ isAuthorized cm config tick reviewerGaiaID "trusted_reviewer" = true

/-- With as many users on the node, the votes on the case suffice for an action: they come from enough users, have enough
points, and each is by a reviewer. -/
structure Agreed (cm : CaseMap) (config : Bootstrap) (owner : String → UUID) (s : Ledger) (caseID : String)
    (userCount : Nat) : Prop where
  users : (actionConsensusThreshold userCount).1 ≤
    ((votes s.system.shared caseID).map fun r => owner r.reviewerIdentity).dedup.length
  points : (actionConsensusThreshold userCount).2 ≤
    ((votes s.system.shared caseID).map fun r => severityWeight cm r.severityVote).sum
  roles : ∀ r ∈ votes s.system.shared caseID, HeldRole cm config s caseID r.reviewerIdentity

/-! ## The condition -/

/-- A user votes once on a case, the users can be read, and the status of a case is written. -/
def Call.sound (owner : String → UUID) (db : Database) (tick : Tick) : Call → Bool
  | ⟨.reviewCase reviewerGaiaID caseID _ _ _ _, .voting _⟩ => tick.fails ||
    (getAbuseReviews db caseID).all fun r => owner r.reviewerIdentity ≠ owner reviewerGaiaID
  | ⟨.reviewCase _ _ _ _ _ _, .weighing _ _⟩ => tick.identities.isSome
  | ⟨.reviewCase _ _ _ _ _ _, .actioning _ _⟩ => !tick.fails
  | _ => true

def Sound (owner : String → UUID) (s : Ledger) : Event → Prop
  | .start _ _ => True
  | .advance n tick => ∀ call ∈ s.system.calls.get? n, call.sound owner s.system.shared tick = true

instance (owner : String → UUID) (s : Ledger) : DecidablePred (Sound owner s)
  | .start _ _ => .isTrue trivial
  | .advance n tick =>
    inferInstanceAs (Decidable (∀ call ∈ s.system.calls.get? n, call.sound owner s.system.shared tick = true))

/-! ## The mutex -/

def Stage.isLocked : Stage → Bool
  | .judging _ => true
  | .admitted _ => true
  | .voting _ => true
  | .voted _ _ => true
  | .counting _ => true
  | .weighing _ _ => true
  | .actioning _ _ => true
  | .announcing _ _ => true
  | .suspending _ _ _ => true
  | .sanctioning _ _ => true
  | _ => false

def Call.holds : Call → Bool
  | ⟨.reviewCase _ _ _ _ _ _, stage⟩ => stage.isLocked
  | _ => false

section Mutex

variable {cm : CaseMap} {config : Bootstrap} {tick : Tick} {db : Database}

theorem mu_attempt {statement : Option Database} (h : ∀ db', statement = some db' → db'.mu = db.mu) :
    (attempt tick db statement).mu = db.mu := by
  unfold attempt
  split
  · rfl
  cases hstatement : statement <;> grind

theorem mu_attempt_event (e : AbuseCaseEvent) : (attempt tick db (createAbuseCaseEvent db e)).mu = db.mu := by
  grind [mu_attempt, createAbuseCaseEvent]

/-- What a step does with the mutex: nothing, or it takes it while it is free, or it gives it back. -/
inductive LockStep (mu holds mu' holds' : Bool) : Prop where
  | same (hmu : mu' = mu) (hholds : holds' = holds)
  | take (hfree : mu = false) (hbefore : holds = false) (hmu : mu' = true) (hholds : holds' = true)
  | release (hbefore : holds = true) (hmu : mu' = false) (hholds : holds' = false)

theorem lockStep_next (cm : CaseMap) (config : Bootstrap) (tick : Tick) (db : Database) (call : Call) :
    LockStep db.mu call.holds (next cm config tick db call).1.mu (next cm config tick db call).2.holds := by
  obtain ⟨request, stage⟩ := call
  cases request with
  | reviewCase =>
    simp only [next, nextStage, Call.holds]
    fun_cases nextReview <;>
      grind [LockStep, Stage.isLocked, unlock, attempt, mu_attempt_event, updateAbuseCaseStatus, suspendPublicChannel]
  | appealCase =>
    refine .same ?_ rfl
    simp only [next, nextStage]
    fun_cases nextAppeal <;> grind [attempt, mu_attempt_event, updateAbuseCaseStatus]
  | resolveAppeal =>
    refine .same ?_ rfl
    simp only [next, nextStage]
    fun_cases nextResolve <;> grind [attempt, mu_attempt_event, updateAbuseAppealStatus, updateAbuseCaseStatus,
      suspendPublicChannel, deleteAbuseAction]
  | nodeOperatorSuspendChannel =>
    refine .same ?_ rfl
    simp only [next, nextStage]
    fun_cases nextSuspend <;> grind [mu_attempt, mu_attempt_event, suspendPublicChannel, createAbuseCase]

end Mutex

/-! ## Tables -/

section Tables

variable {cm : CaseMap} {tick : Tick} {db : Database} {call : Call} {t : Tables}

theorem created_eq_nil {before after : Table String AbuseAction}
    (h : ∀ id a, after.get? id = some a → (before.get? id).isSome = true) : created before after = [] := by
  rw [created, List.map_eq_nil_iff, List.filter_eq_nil_iff]
  rintro ⟨id, a⟩ hmem
  have hsome := h id a (Table.get?_eq_some.2 hmem)
  grind [Option.isNone_iff_eq_none]

variable {id : String}

theorem created_insert {before : Table String AbuseAction} (h : before.get? id = none) (a : AbuseAction) :
    created before (before.insertOrIgnore id a) = [a.caseID] := by
  have hold : created before before = [] := created_eq_nil fun id a ha => by rw [ha]; rfl
  grind [created, List.map_eq_nil_iff, Table.rows_insertOrIgnore]

theorem Effect.created (h : Effect cm tick db call t) :
    Governance.created db.actions t.actions = [] ∨
    ∃ reviewerGaiaID caseID categoryVote severityVote recommendation reason c reached,
      call = ⟨.reviewCase reviewerGaiaID caseID categoryVote severityVote recommendation reason, .sanctioning c reached⟩ ∧
      Governance.created db.actions t.actions = [caseID] := by
  have hsame : Governance.created db.actions db.actions = [] := created_eq_nil fun id a ha => by rw [ha]; rfl
  cases h with
  | action hcase hfree =>
    refine .inr ⟨_, _, _, _, _, _, _, _, rfl, ?_⟩
    rw [← hcase]
    exact created_insert hfree _
  | undo =>
    refine .inl (created_eq_nil fun id a ha => ?_)
    simp only [deleteAbuseAction, Database.tables, Table.get?_deleteWhere, Option.filter_eq_some_iff] at ha
    rw [ha.1]
    rfl
  | _ => exact .inl hsame

theorem get?_updateAbuseCaseStatus (db : Database) (caseID status id : String) :
    (updateAbuseCaseStatus db caseID status).cases.get? id =
      (db.cases.get? id).map fun c => if id = caseID then { c with status := status } else c := by
  rw [updateAbuseCaseStatus, Table.get?_updateWhere]
  simp only [decide_eq_true_eq]

variable {c : AbuseCase}

theorem new_updateAbuseCaseStatus {caseID status : String} (hstatus : status ≠ "new")
    (hc : (updateAbuseCaseStatus db caseID status).cases.get? id = some c) (hnew : c.status = "new") :
    db.cases.get? id = some c ∧ id ≠ caseID := by
  grind [get?_updateAbuseCaseStatus, Option.map_eq_some_iff]

theorem Effect.new (h : Effect cm tick db call t) (hc : t.cases.get? id = some c)
    (hnew : c.status = "new") : db.cases.get? id = some c := by
  cases h with
  | actioned hfails | appealed | closed => exact (new_updateAbuseCaseStatus (by decide) hc hnew).1
  | override hstatus hfree =>
    simp only [Table.get?_insertOrIgnore_free hfree] at hc
    split at hc
    · obtain rfl := Option.some.inj hc
      rw [hstatus] at hnew
      exact absurd hnew (by decide)
    · exact hc
  | _ => exact hc

theorem Effect.actioning (h : Effect cm tick db call t) {c' : AbuseCase} (hc : db.cases.get? id = some c)
    (hbefore : c.status ≠ "actioned") (hc' : t.cases.get? id = some c') (hafter : c'.status = "actioned") :
    ∃ reviewerGaiaID categoryVote severityVote recommendation reason read reached,
      call = ⟨.reviewCase reviewerGaiaID id categoryVote severityVote recommendation reason, .actioning read reached⟩ := by
  have hsame : t.cases.get? id ≠ some c := by
    intro hsame
    rw [hsame] at hc'
    exact hbefore (Option.some.inj hc' ▸ hafter)
  -- another status than "actioned" is written
  have hother : ∀ caseID status, status ≠ "actioned" → t.cases ≠ (updateAbuseCaseStatus db caseID status).cases := by
    intro caseID status hstatus hcases
    rw [hcases, get?_updateAbuseCaseStatus, hc, Option.map_some, Option.some.injEq] at hc'
    split at hc'
    · rw [← hc'] at hafter
      exact hstatus hafter
    · rw [← hc'] at hafter
      exact hbefore hafter
  cases h with
  | @actioned reviewerGaiaID caseID categoryVote severityVote recommendation reason read reached hfails =>
    by_cases hid : id = caseID
    · subst hid
      exact ⟨_, _, _, _, _, _, _, rfl⟩
    · refine absurd ?_ hsame
      show (updateAbuseCaseStatus db caseID "actioned").cases.get? id = some c
      rw [get?_updateAbuseCaseStatus, hc, Option.map_some, if_neg hid]
  | appealed => exact absurd rfl (hother _ "appealed" (by decide))
  | closed => exact absurd rfl (hother _ "closed" (by decide))
  | override hstatus hfree =>
    refine absurd ?_ hsame
    have hne : id ≠ "case_override_" ++ tick.id.text := by
      rintro rfl
      rw [hc] at hfree
      cases hfree
    simp only [Table.get?_insertOrIgnore_free hfree, if_neg hne, hc]
  | _ => exact absurd hc hsame

end Tables

/-! ## Runs -/

/-- If the case was read as new, no action has been created for it. -/
def Unsanctioned (s : Ledger) (caseID : String) (c : AbuseCase) : Prop := c.status = "new" → caseID ∉ s.actions

/-- The case has no action, and is not new any more. -/
def Sanctionable (s : Ledger) (caseID : String) : Prop :=
  caseID ∉ s.actions ∧ ∀ c, s.system.shared.cases.get? caseID = some c → c.status ≠ "new"

/-- What a review has made sure of while it has the mutex. -/
def Good (cm : CaseMap) (config : Bootstrap) (s : Ledger) (n : Nat) : Call → Prop
  | ⟨.reviewCase reviewerGaiaID caseID _ _ _ _, stage⟩ =>
    match stage with
    | .judging c => Unsanctioned s caseID c
    | .admitted c => HeldRole cm config s caseID reviewerGaiaID ∧ Unsanctioned s caseID c
    | .voting c => HeldRole cm config s caseID reviewerGaiaID ∧ Unsanctioned s caseID c
    | .voted c _ => Unsanctioned s caseID c
    | .counting c => Unsanctioned s caseID c
    | .weighing c reviews => reviews = getAbuseReviews s.system.shared caseID ∧ Unsanctioned s caseID c
    | .actioning c reached => caseID ∉ s.actions ∧ ∃ tick identities, (n, tick) ∈ s.counts ∧
      tick.identities = some identities ∧
      consensus cm c (getAbuseReviews s.system.shared caseID) (uniqueNodeUserCount identities) = some reached
    | .announcing _ _ => Sanctionable s caseID
    | .suspending _ _ _ => Sanctionable s caseID
    | .sanctioning _ _ => Sanctionable s caseID
    | _ => True
  | _ => True

/-- One review at a time has the mutex, users vote once on a case and as reviewers, and a case with an action is not
new. -/
structure Orderly (cm : CaseMap) (config : Bootstrap) (owner : String → UUID) (s : Ledger) : Prop where
  locked : ∀ n call, s.system.calls.get? n = some call → call.holds = true → s.system.shared.mu = true
  alone : ∀ n m call other (_ : Unit), s.system.calls.get? n = some call → s.system.calls.get? m = some other →
    call.holds = true → other.holds = true → n = m
  owners : ∀ caseID, ((getAbuseReviews s.system.shared caseID).map fun r => owner r.reviewerIdentity).Nodup
  roles : ∀ id r, s.system.shared.reviews.get? id = some r → HeldRole cm config s r.caseID r.reviewerIdentity
  sanctioned : ∀ caseID ∈ s.actions, ∀ c, s.system.shared.cases.get? caseID = some c → c.status ≠ "new"
  nodup : s.actions.Nodup
  good : ∀ n call, s.system.calls.get? n = some call → Good cm config s n call

section Runs

variable {cm : CaseMap} {config : Bootstrap} {owner : String → UUID} {tick : Tick} {s s' : Ledger} {n : Nat} {call : Call}

theorem record_advance (cm : CaseMap) (config : Bootstrap) (tick : Tick) (hcall : s.system.calls.get? n = some call) :
    record cm config s (.advance n tick) =
      { system := ⟨(next cm config tick s.system.shared call).1, s.system.calls.put n (next cm config tick s.system.shared call).2⟩
        checks := s.checks ++ (call.checked tick).toList
        counts := s.counts ++ (call.counted n tick).toList
        actions := s.actions ++ created s.system.shared.actions (next cm config tick s.system.shared call).1.actions } := by
  simp only [record, hcall, Option.bind_some, step, Pool.step_advance hcall]

variable {caseID : String}

theorem HeldRole.mono {reviewerGaiaID : String} (h : HeldRole cm config s caseID reviewerGaiaID)
    (hchecks : s.checks ⊆ s'.checks) : HeldRole cm config s' caseID reviewerGaiaID := by
  grind [HeldRole]

theorem Good.keep (h : Good cm config s n call) (hreviews : s'.system.shared.reviews = s.system.shared.reviews)
    (hactions : s'.actions = s.actions) (hchecks : s.checks ⊆ s'.checks) (hcounts : s.counts ⊆ s'.counts)
    (hnew : ∀ id c, s'.system.shared.cases.get? id = some c → c.status = "new" → s.system.shared.cases.get? id = some c) :
    Good cm config s' n call := by
  have hread : ∀ caseID, getAbuseReviews s'.system.shared caseID = getAbuseReviews s.system.shared caseID := by
    grind [getAbuseReviews]
  have hunsanctioned : ∀ caseID c, Unsanctioned s caseID c → Unsanctioned s' caseID c := by
    grind [Unsanctioned]
  have hsanctionable : ∀ caseID, Sanctionable s caseID → Sanctionable s' caseID := by
    grind [Sanctionable]
  obtain ⟨request, stage⟩ := call
  cases request with
  | reviewCase reviewerGaiaID caseID categoryVote severityVote recommendation reason =>
    cases stage with
    | judging c | voted c reviewedAt | counting c => exact hunsanctioned caseID c h
    | admitted c | voting c => exact ⟨h.1.mono hchecks, hunsanctioned caseID c h.2⟩
    | weighing c reviews => exact ⟨h.1.trans (hread caseID).symm, hunsanctioned caseID c h.2⟩
    | actioning c reached =>
      grind [Good]
    | announcing c reached | suspending c reached channelID | sanctioning c reached => exact hsanctionable caseID h
    | _ => trivial
  | _ => trivial

@[grind →]
theorem consensus_some {c : AbuseCase} {reviews : List AbuseReview} {userCount : Nat} {reached : Consensus}
    (h : consensus cm c reviews userCount = some reached) :
    (actionConsensusThreshold userCount).1 ≤ ((actionReviews reviews).map AbuseReview.reviewerIdentity).dedup.length ∧
      (actionConsensusThreshold userCount).2 ≤ ((actionReviews reviews).map fun r => severityWeight cm r.severityVote).sum ∧
      c.status = "new" := by
  unfold consensus at h
  dsimp only at h
  split at h
  · rename_i hreached
    exact hreached
  · cases h

theorem good_of_not_holds (h : call.holds = false) : Good cm config s n call := by
  obtain ⟨request, stage⟩ := call
  cases request with
  | reviewCase reviewerGaiaID caseID categoryVote severityVote recommendation reason =>
    cases stage with
    | _ => trivial
  | _ => trivial

theorem getAbuseReviews_insert {db db' : Database} {id : String} {r : AbuseReview} (hfree : db.reviews.get? id = none)
    (h : db'.reviews = db.reviews.insertOrIgnore id r) (caseID : String) :
    getAbuseReviews db' caseID = getAbuseReviews db caseID ++ if r.caseID = caseID then [r] else [] := by
  rw [getAbuseReviews, h, Table.rows_insertOrIgnore hfree, List.map_append, List.filter_append, getAbuseReviews]
  by_cases hcase : r.caseID = caseID
  · simp [hcase]
  · simp [hcase]

section Advance

variable (h : Orderly cm config owner s) (hcall : s.system.calls.get? n = some call)
  (hok : call.sound owner s.system.shared tick = true)

include h hok in
theorem owners_next (caseID : String) :
    ((getAbuseReviews (next cm config tick s.system.shared call).1 caseID).map fun r => owner r.reviewerIdentity).Nodup := by
  rcases (next_effect cm config tick s.system.shared call).reviews with
    hsame | ⟨reviewerGaiaID, id, _, _, _, _, _, rfl, hfails, hfree, hinsert⟩
  · rw [getAbuseReviews, show (next cm config tick s.system.shared call).1.reviews = _ from hsame]
    exact h.owners caseID
  · rw [getAbuseReviews_insert hfree hinsert, List.map_append]
    split
    · rename_i hcase
      obtain rfl : id = caseID := hcase
      refine (h.owners id).append (List.nodup_singleton _) ?_
      rw [List.map_singleton, List.disjoint_singleton]
      intro hmem
      obtain ⟨r, hr, howner⟩ := List.mem_map.1 hmem
      rw [Call.sound, hfails, Bool.false_or, List.all_eq_true] at hok
      exact of_decide_eq_true (hok r hr) howner
    grind [h.owners]

include h hcall in
theorem roles_next {id : String} {r : AbuseReview}
    (hr : (next cm config tick s.system.shared call).1.reviews.get? id = some r) :
    HeldRole cm config s r.caseID r.reviewerIdentity := by
  rcases (next_effect cm config tick s.system.shared call).reviews with
    hsame | ⟨reviewerGaiaID, caseID, _, _, _, _, _, rfl, -, hfree, hinsert⟩
  · rw [show (next cm config tick s.system.shared call).1.reviews = _ from hsame] at hr
    exact h.roles id r hr
  · rw [show (next cm config tick s.system.shared _).1.reviews = _ from hinsert, Table.get?_insertOrIgnore_free hfree] at hr
    split at hr
    · obtain rfl := Option.some.inj hr
      exact (h.good n _ hcall).1
    · exact h.roles id r hr

include h hcall in
theorem created_next (tick : Tick) : created s.system.shared.actions (next cm config tick s.system.shared call).1.actions = [] ∨
    ∃ caseID, created s.system.shared.actions (next cm config tick s.system.shared call).1.actions = [caseID] ∧
      Sanctionable s caseID := by
  rcases (next_effect cm config tick s.system.shared call).created with
    hnil | ⟨_, caseID, _, _, _, _, _, _, rfl, hcreated⟩
  · exact .inl hnil
  · exact .inr ⟨caseID, hcreated, h.good n _ hcall⟩

include h hcall in
theorem alone_next : ∀ i j a a' (_ : Unit), (record cm config s (.advance n tick)).system.calls.get? i = some a →
    (record cm config s (.advance n tick)).system.calls.get? j = some a' → a.holds = true → a'.holds = true → i = j := by
  refine Pool.distinct_step (K := fun (call : Call) (_ : Unit) => call.holds = true) (fun _ _ he => by cases he) ?_ h.alone
  rintro m tick' other ⟨⟩ hm - hholds
  obtain rfl := Option.some.inj (hcall.symm.trans hm)
  cases lockStep_next cm config tick s.system.shared call with
  | same hmu hsame => exact .inl (hsame ▸ hholds)
  | take hfree hbefore hmu hafter =>
    grind [h.locked]
  | release hbefore hmu hafter =>
    rw [hafter] at hholds
    cases hholds

include h hcall in
theorem locked_next {m : Nat} {other : Call}
    (hm : (record cm config s (.advance n tick)).system.calls.get? m = some other) (hholds : other.holds = true) :
    (next cm config tick s.system.shared call).1.mu = true := by
  rw [record_advance cm config tick hcall] at hm
  simp only [Table.get?_put] at hm
  cases lockStep_next cm config tick s.system.shared call with
  | same hmu hsame =>
    grind [h.locked]
  | take hfree hbefore hmu hafter => exact hmu
  | release hbefore hmu hafter =>
    split at hm
    · grind
    rename_i hne
    exact absurd (h.alone m n other call () hm hcall hholds hbefore) hne

include h hcall hok in
theorem good_next : Good cm config (record cm config s (.advance n tick)) n (next cm config tick s.system.shared call).2 := by
  have hgood := h.good n _ hcall
  have heffect := next_effect cm config tick s.system.shared call
  have hrecord := record_advance cm config tick hcall
  generalize record cm config s (.advance n tick) = s' at hrecord ⊢
  have hdb : s'.system.shared = (next cm config tick s.system.shared call).1 := by rw [hrecord]
  have hchecks : s'.checks = s.checks ++ (call.checked tick).toList := by rw [hrecord]
  have hcounts : s'.counts = s.counts ++ (call.counted n tick).toList := by rw [hrecord]
  have hactions : s'.actions = s.actions ++ created s.system.shared.actions s'.system.shared.actions := by rw [hrecord]
  rw [← hdb] at heffect
  -- before the last step of a review no action is created
  have hnone : (∀ c reached, call.stage ≠ .sanctioning c reached) → s'.actions = s.actions := by
    intro hstage
    rcases heffect.created with hnil | ⟨_, _, _, _, _, _, c, reached, rfl, -⟩
    · rw [hactions]
      exact (congrArg (s.actions ++ ·) hnil).trans (List.append_nil _)
    · exact absurd rfl (hstage c reached)
  have hkeeps : (∀ c reached, call.stage ≠ .sanctioning c reached) → ∀ caseID c, Unsanctioned s caseID c →
      Unsanctioned s' caseID c := by
    grind [Unsanctioned]
  have hsanctionable : (∀ c reached, call.stage ≠ .sanctioning c reached) → ∀ caseID, Sanctionable s caseID →
      Sanctionable s' caseID := by
    rintro hstage caseID ⟨hfree, hstatus⟩
    refine ⟨by rwa [hnone hstage], fun c hc hnew => ?_⟩
    exact hstatus c (heffect.new hc hnew) hnew
  obtain ⟨request, stage⟩ := call
  cases request with
  | reviewCase reviewerGaiaID caseID categoryVote severityVote recommendation reason =>
    simp only [next, nextStage] at hdb ⊢
    revert hdb
    fun_cases nextReview <;> intro hdb <;> try simp only [Good]
    · rename_i c hread
      intro hstatus
      rw [hnone (by simp)]
      grind [h.sanctioned]
    · rename_i c hrole
      refine ⟨⟨tick, ?_, hrole⟩, hkeeps (by simp) _ c hgood⟩
      rw [hchecks]
      grind [Call.checked]
    · refine ⟨hgood.1.mono ?_, hkeeps (by simp) _ _ hgood.2⟩
      grind
    · exact hkeeps (by simp) _ _ hgood.2
    · exact hkeeps (by simp) _ _ hgood
    · exact ⟨by rw [hdb], hkeeps (by simp) _ _ hgood⟩
    · rename_i c reviews reached hreached
      obtain ⟨rfl, hfree⟩ := hgood
      obtain ⟨identities, hidentities⟩ := Option.isSome_iff_exists.1 hok
      rw [hidentities, Option.map_some, Option.getD_some] at hreached
      refine ⟨?_, tick, identities, ?_, hidentities, ?_⟩
      · rw [hnone (by simp)]
        exact hfree (consensus_some hreached).2.2
      · rw [hcounts]
        exact List.mem_append_right _ (List.mem_singleton.2 rfl)
      · rw [hdb]
        exact hreached
    · refine ⟨?_, fun c' hc' hnew => ?_⟩
      · rw [hnone (by simp)]
        exact hgood.1
      · have hfails : tick.fails = false := Bool.not_eq_true' _ ▸ hok
        rw [hdb, attempt_of_not_fails hfails, Option.getD_some] at hc'
        exact (new_updateAbuseCaseStatus (by decide) hc' hnew).2 rfl
    · rename_i c reached
      cases suspendedChannel cm c reached.actionType <;> exact hsanctionable (by simp) _ hgood
    · exact hsanctionable (by simp) _ hgood
  | _ => trivial

include h hcall in
theorem good_other {m : Nat} {other : Call} (hne : m ≠ n) (hother : s.system.calls.get? m = some other) :
    Good cm config (record cm config s (.advance n tick)) m other := by
  cases hholds : other.holds with
  | false => exact good_of_not_holds hholds
  | true =>
    -- the call of the step does not have the mutex
    have hfree : call.holds = false := by
      by_contra hcall'
      exact hne (h.alone m n other call () hother hcall hholds (Bool.not_eq_false _ ▸ hcall'))
    have heffect := next_effect cm config tick s.system.shared call
    rw [record_advance cm config tick hcall]
    refine (h.good m other hother).keep ?_ ?_ (List.subset_append_left _ _) (List.subset_append_left _ _)
      fun id c hc hnew => heffect.new hc hnew
    · rcases heffect.reviews with hsame | ⟨_, _, _, _, _, _, _, rfl, -⟩
      · exact hsame
      · cases hfree
    · rcases heffect.created with hnil | ⟨_, _, _, _, _, _, _, _, rfl, -⟩
      · exact (congrArg (s.actions ++ ·) hnil).trans (List.append_nil _)
      · cases hfree

include h hcall hok in
theorem orderly_advance : Orderly cm config owner (record cm config s (.advance n tick)) := by
  have hrecord := record_advance cm config tick hcall
  have heffect := next_effect cm config tick s.system.shared call
  refine ⟨?_, alone_next h hcall, ?_, ?_, ?_, ?_, ?_⟩
  · grind [locked_next]
  · grind [owners_next]
  · intro id r hr
    rw [hrecord] at hr ⊢
    exact (roles_next h hcall hr).mono (List.subset_append_left _ _)
  · intro caseID hmem c hc hnew
    rw [hrecord] at hmem hc
    have hbefore := heffect.new hc hnew
    rcases List.mem_append.1 hmem with hmem | hmem
    · exact h.sanctioned caseID hmem c hbefore hnew
    · rcases created_next h hcall tick with hnil | ⟨caseID', hcreated, hsanctionable⟩
      · rw [hnil] at hmem
        cases hmem
      · rw [hcreated, List.mem_singleton] at hmem
        subst hmem
        exact hsanctionable.2 c hbefore hnew
  · rw [hrecord]
    rcases created_next h hcall tick with hnil | ⟨caseID, hcreated, hsanctionable⟩
    · grind [h.nodup]
    · rw [hcreated]
      refine h.nodup.append (List.nodup_singleton _) ?_
      rw [List.disjoint_singleton]
      exact hsanctionable.1
  grind [good_next, good_other]

end Advance

theorem orderly_start (h : Orderly cm config owner s) (request : Request) :
    Orderly cm config owner (record cm config s (.start n request)) := by
  have hbegin : (Call.begin request).holds = false := by cases request <;> rfl
  have hbegun : ∀ m call, (record cm config s (.start n request)).system.calls.get? m = some call →
      s.system.calls.get? m = some call ∨ call = Call.begin request := by
    intro m call hm
    change (step cm config s.system (.start n request)).calls.get? m = some call at hm
    exact Pool.get?_start hm
  refine ⟨?_, ?_, h.owners, h.roles, h.sanctioned, h.nodup, ?_⟩
  · intro m call hm hholds
    rcases hbegun m call hm with hm | rfl
    · exact h.locked m call hm hholds
    · rw [hbegin] at hholds
      cases hholds
  · refine Pool.distinct_step (K := fun (call : Call) (_ : Unit) => call.holds = true) ?_ (fun _ _ _ he => by cases he) h.alone
    grind
  · intro m call hm
    rcases hbegun m call hm with hm | rfl
    · exact (h.good m call hm).keep rfl rfl (List.Subset.refl _) (List.Subset.refl _) fun _ _ hc _ => hc
    · exact good_of_not_holds hbegin

theorem orderly_step {e : Event} (h : Orderly cm config owner s) (hok : Sound owner s e) :
    Orderly cm config owner (record cm config s e) := by
  cases e with
  | start n request => exact orderly_start h request
  | advance n tick =>
    cases hcall : s.system.calls.get? n with
    | none =>
      have hsame : record cm config s (.advance n tick) = s := by
        have hactions : created s.system.shared.actions s.system.shared.actions = [] :=
          created_eq_nil fun id a ha => by rw [ha]; rfl
        simp only [record, hcall, Option.bind_none, Option.toList_none, List.append_nil, step, Pool.step_idle tick hcall,
          hactions]
      rw [hsame]
      exact h
    | some call => exact orderly_advance h hcall (hok call hcall)

theorem orderly_begin {db : Database} (hreviews : db.reviews = Table.empty) :
    Orderly cm config owner (Ledger.begin db) := by
  have hnone : ∀ n call, (Ledger.begin db).system.calls.get? n ≠ some call := by
    grind [Ledger.begin, fresh]
  refine ⟨fun n call hn => absurd hn (hnone n call), fun n _ call _ _ hn => absurd hn (hnone n call), ?_, ?_,
    fun _ hmem => absurd hmem List.not_mem_nil, List.nodup_nil, fun n call hn => absurd hn (hnone n call)⟩
  · intro caseID
    show ((getAbuseReviews db caseID).map _).Nodup
    rw [getAbuseReviews, hreviews]
    exact List.nodup_nil
  · intro id r hr
    change db.reviews.get? id = some r at hr
    rw [hreviews, Table.get?_empty] at hr
    cases hr

theorem dedup_reviewers_le (h : Orderly cm config owner s) (caseID : String) :
    ((votes s.system.shared caseID).map AbuseReview.reviewerIdentity).dedup.length ≤
      ((votes s.system.shared caseID).map fun r => owner r.reviewerIdentity).dedup.length := by
  have hnodup : ((votes s.system.shared caseID).map fun r => owner r.reviewerIdentity).Nodup :=
    (h.owners caseID).sublist (List.filter_sublist.map _)
  calc ((votes s.system.shared caseID).map AbuseReview.reviewerIdentity).dedup.length
      ≤ ((votes s.system.shared caseID).map AbuseReview.reviewerIdentity).length := (List.dedup_sublist _).length_le
    _ = ((votes s.system.shared caseID).map fun r => owner r.reviewerIdentity).length := by
      rw [List.length_map, List.length_map]
    _ = ((votes s.system.shared caseID).map fun r => owner r.reviewerIdentity).dedup.length := by rw [hnodup.dedup]

theorem agreed_step {e : Event} (h : Orderly cm config owner s) {c c' : AbuseCase}
    (hc : s.system.shared.cases.get? caseID = some c) (hbefore : c.status ≠ "actioned")
    (hc' : (record cm config s e).system.shared.cases.get? caseID = some c') (hafter : c'.status = "actioned") :
    ∃ n tick identities, (n, tick) ∈ s.counts ∧ (∃ now, e = .advance n now) ∧ tick.identities = some identities ∧
      Agreed cm config owner (record cm config s e) caseID (uniqueNodeUserCount identities) := by
  cases e with
  | start n request =>
    change s.system.shared.cases.get? caseID = some c' at hc'
    grind
  | advance n now =>
    cases hcall : s.system.calls.get? n with
    | none =>
      simp only [record, step, Pool.step_idle now hcall] at hc'
      grind
    | some call =>
      rw [record_advance cm config now hcall] at hc' ⊢
      have heffect := next_effect cm config now s.system.shared call
      obtain ⟨reviewerGaiaID, categoryVote, severityVote, recommendation, reason, read, reached, rfl⟩ :=
        heffect.actioning hc hbefore hc' hafter
      obtain ⟨-, tick, identities, hcount, hidentities, hconsensus⟩ := h.good n _ hcall
      obtain ⟨hreviewers, hpoints, -⟩ := consensus_some hconsensus
      refine ⟨n, tick, identities, hcount, ⟨now, rfl⟩, hidentities, ?_⟩
      have hreviews : ∀ id, getAbuseReviews (next cm config now s.system.shared
          ⟨.reviewCase reviewerGaiaID caseID categoryVote severityVote recommendation reason, .actioning read reached⟩).1 id =
            getAbuseReviews s.system.shared id := by
        intro id
        rcases heffect.reviews with hsame | ⟨_, _, _, _, _, _, _, hcall', -⟩
        · rw [getAbuseReviews, show (next cm config now s.system.shared _).1.reviews = _ from hsame]
          rfl
        · cases hcall'
      refine ⟨?_, ?_, ?_⟩
      · rw [votes, hreviews]
        exact hreviewers.trans (dedup_reviewers_le h caseID)
      · rw [votes, hreviews]
        exact hpoints
      · intro r hr
        rw [votes, hreviews] at hr
        obtain ⟨id, hrow, rfl⟩ := mem_getAbuseReviews.1 (List.mem_filter.1 hr).1
        exact (h.roles id r hrow).mono (List.subset_append_left _ _)

end Runs

/-- Whatever calls run side by side, if no user votes on a case with two identities, the users can be read when they are
counted and the status of a case is written: when a case becomes actioned, the votes recorded on it come from enough
users, weigh enough and are by reviewers, for the number of users that the call has counted; and no case gets two
actions. -/
theorem actions_by_consensus (cm : CaseMap) (config : Bootstrap) (owner : String → UUID) (db : Database) (es : List Event)
    (e : Event) (hreviews : db.reviews = Table.empty)
    (hrun : Along (record cm config) (Sound owner) (Ledger.begin db) (es ++ [e])) :
    (exec (record cm config) (Ledger.begin db) (es ++ [e])).actions.Nodup ∧
      ∀ caseID c c', (exec (record cm config) (Ledger.begin db) es).system.shared.cases.get? caseID = some c →
        c.status ≠ "actioned" →
        (exec (record cm config) (Ledger.begin db) (es ++ [e])).system.shared.cases.get? caseID = some c' →
        c'.status = "actioned" →
        ∃ n tick identities, (n, tick) ∈ (exec (record cm config) (Ledger.begin db) es).counts ∧
          (∃ now, e = .advance n now) ∧ tick.identities = some identities ∧
          Agreed cm config owner (exec (record cm config) (Ledger.begin db) (es ++ [e])) caseID
            (uniqueNodeUserCount identities) := by
  obtain ⟨hfirst, hlast, -⟩ := along_append.1 hrun
  have horderly : Orderly cm config owner (exec (record cm config) (Ledger.begin db) es) :=
    Along.invariant (P := Orderly cm config owner) (fun s e h hok => orderly_step h hok) (orderly_begin hreviews) hfirst
  rw [exec_append, exec_cons, exec_nil]
  constructor
  · exact (orderly_step horderly hlast).nodup
  grind [agreed_step]

def sampleUsers : List NodeIdentity := [1, 2, 3, 4, 5].map fun user => ⟨.ofByte user, true⟩

def sampleBallot (id : UInt8) : Tick := { sampleTick id with identities := some sampleUsers }

def sampleReviewers : Bootstrap := ⟨"@a:x", ["@b:x"]⟩

def sampleNew : Database :=
  { sampleOwn with
    cases := ⟨[("c", { sampleCase with status := "new" })], by decide⟩
    actions := Table.empty }

def sampleVote (n : Nat) (reviewerGaiaID : String) (id : UInt8) (steps : Nat) : List Event :=
  .start n (.reviewCase reviewerGaiaID "c" "spam" "medium" "warn" "") :: List.replicate steps (.advance n (sampleBallot id))

def sampleElection : Ledger :=
  exec (record .plain sampleReviewers) (.begin sampleNew) (sampleVote 0 "@a:x" 11 7 ++ sampleVote 1 "@b:x" 12 7)

def sampleActioned : Ledger :=
  exec (record .plain sampleReviewers) (.begin sampleNew) ((sampleVote 0 "@a:x" 11 7 ++ sampleVote 1 "@b:x" 12 7) ++
    [.advance 1 (sampleBallot 12)])

def sampleOwner (gaiaID : String) : UUID := if gaiaID = "@a:x" then .ofByte 1 else .ofByte 2

theorem two_users_agree :
    (sampleElection.system.shared.cases.get? "c").map AbuseCase.status = some "new" ∧
      (sampleActioned.system.shared.cases.get? "c").map AbuseCase.status = some "actioned" ∧
      ∃ n tick identities, (n, tick) ∈ sampleElection.counts ∧
        (∃ now, Pool.Event.advance 1 (sampleBallot 12) = (.advance n now : Event)) ∧ tick.identities = some identities ∧
        Agreed .plain sampleReviewers sampleOwner sampleActioned "c" (uniqueNodeUserCount identities) := by
  have hrun : Along (record .plain sampleReviewers) (Sound sampleOwner) (.begin sampleNew)
        ((sampleVote 0 "@a:x" 11 7 ++ sampleVote 1 "@b:x" 12 7) ++ [.advance 1 (sampleBallot 12)]) ∧
      (sampleElection.system.shared.cases.get? "c").map AbuseCase.status = some "new" ∧
      (sampleActioned.system.shared.cases.get? "c").map AbuseCase.status = some "actioned" := by decide +kernel
  obtain ⟨hsound, hbefore, hafter⟩ := hrun
  refine ⟨hbefore, hafter, ?_⟩
  obtain ⟨c, hc, hstatus⟩ := Option.map_eq_some_iff.1 hbefore
  obtain ⟨c', hc', hstatus'⟩ := Option.map_eq_some_iff.1 hafter
  exact (actions_by_consensus .plain sampleReviewers sampleOwner sampleNew _ _ rfl hsound).2 "c" c c' hc
    (by rw [hstatus]; decide) hc' hstatus'

/-- If both identities are one user's, that user decides alone. -/
theorem one_user_decides :
    sampleNew.reviews = Table.empty ∧
      (sampleElection.system.shared.cases.get? "c").map AbuseCase.status = some "new" ∧
      (sampleActioned.system.shared.cases.get? "c").map AbuseCase.status = some "actioned" ∧
      sampleActioned.counts.map (fun count => count.2.identities.map uniqueNodeUserCount) = [some 5, some 5] ∧
      (votes sampleActioned.system.shared "c").map AbuseReview.reviewerIdentity = ["@a:x", "@b:x"] ∧
      ¬ Agreed .plain sampleReviewers (fun _ => .ofByte 1) sampleActioned "c" 5 := by
  refine ⟨rfl, ?_⟩
  simp only [← and_assoc]
  refine (and_iff_left_of_imp ?_).2 (by decide +kernel)
  rintro ⟨-, hvotes⟩ h
  have hone : ((votes sampleActioned.system.shared "c").map fun _ => UUID.ofByte 1).dedup.length = 1 := by
    have hlength := congrArg List.length hvotes
    rw [List.length_map] at hlength
    rw [List.map_const', hlength]
    decide
  have husers := h.users
  rw [hone] at husers
  exact absurd husers (by decide)

end GaiaCom.Governance
