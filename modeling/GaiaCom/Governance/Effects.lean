/-
What a step of a call writes: at most one statement on the tables that decisions are made by. Events, channels and the
mutex are looked at elsewhere.
-/
import GaiaCom.Governance.Service

namespace GaiaCom.Governance

open Lib Core GaiaCom.Store

/-- The tables of cases. -/
structure Tables where
  cases : Table String AbuseCase
  reviews : Table String AbuseReview
  actions : Table String AbuseAction
  appeals : Table String AbuseAppeal

def Database.tables (db : Database) : Tables := ⟨db.cases, db.reviews, db.actions, db.appeals⟩

def newReview (cm : CaseMap) (now : Nat) (reviewerGaiaID caseID categoryVote severityVote recommendation reason : String) :
    AbuseReview :=
  ⟨caseID, reviewerGaiaID, formatTime now, canonicalReportField cm categoryVote, canonicalReportField cm severityVote,
    canonicalReportField cm recommendation, trimSpace reason⟩

def newAppeal (now : Nat) (senderGaiaID caseID reason statement : String) : AbuseAppeal :=
  ⟨caseID, senderGaiaID, formatTime now, reason, statement, "pending", "", "", ""⟩

/-- The tables after the step of a call. -/
inductive Effect (cm : CaseMap) (tick : Tick) (db : Database) : Call → Tables → Prop where
  | quiet (call : Call) : Effect cm tick db call db.tables
  | review {reviewerGaiaID caseID categoryVote severityVote recommendation reason : String} {c : AbuseCase}
      (hfails : tick.fails = false) (hfree : db.reviews.get? ("rev_" ++ tick.id.text) = none) :
      Effect cm tick db ⟨.reviewCase reviewerGaiaID caseID categoryVote severityVote recommendation reason, .voting c⟩
        { db.tables with
          reviews := db.reviews.insertOrIgnore ("rev_" ++ tick.id.text)
            (newReview cm tick.now reviewerGaiaID caseID categoryVote severityVote recommendation reason) }
  | action {reviewerGaiaID caseID categoryVote severityVote recommendation reason : String} {c : AbuseCase}
      {reached : Consensus} {a : AbuseAction} (hcase : a.caseID = caseID)
      (hfree : db.actions.get? ("act_" ++ tick.id.text) = none) :
      Effect cm tick db
        ⟨.reviewCase reviewerGaiaID caseID categoryVote severityVote recommendation reason, .sanctioning c reached⟩
        { db.tables with actions := db.actions.insertOrIgnore ("act_" ++ tick.id.text) a }
  | actioned {reviewerGaiaID caseID categoryVote severityVote recommendation reason : String} {c : AbuseCase}
      {reached : Consensus} (hfails : tick.fails = false) :
      Effect cm tick db
        ⟨.reviewCase reviewerGaiaID caseID categoryVote severityVote recommendation reason, .actioning c reached⟩
        (updateAbuseCaseStatus db caseID "actioned").tables
  | appealed {senderGaiaID caseID reason statement : String} {submittedAt : Nat} :
      Effect cm tick db ⟨.appealCase senderGaiaID caseID reason statement, .submitted submittedAt⟩
        (updateAbuseCaseStatus db caseID "appealed").tables
  | closed {reviewerGaiaID caseID status decisionReason : String} {c : AbuseCase} :
      Effect cm tick db ⟨.resolveAppeal reviewerGaiaID caseID status decisionReason, .closing c⟩
        (updateAbuseCaseStatus db caseID "closed").tables
  | appeal {senderGaiaID caseID reason statement : String} (hfails : tick.fails = false)
      (hfree : db.appeals.get? ("app_" ++ tick.id.text) = none) :
      Effect cm tick db ⟨.appealCase senderGaiaID caseID reason statement, .submitting⟩
        { db.tables with
          appeals := db.appeals.insertOrIgnore ("app_" ++ tick.id.text)
            (newAppeal tick.now senderGaiaID caseID reason statement) }
  | decide {reviewerGaiaID caseID status decisionReason : String} (hfails : tick.fails = false) :
      Effect cm tick db ⟨.resolveAppeal reviewerGaiaID caseID status decisionReason, .deciding⟩
        (updateAbuseAppealStatus db tick.now caseID status decisionReason reviewerGaiaID).tables
  | undo {reviewerGaiaID caseID status decisionReason id : String} {ids : List String} :
      Effect cm tick db ⟨.resolveAppeal reviewerGaiaID caseID status decisionReason, .deleting (id :: ids)⟩
        (deleteAbuseAction db id).tables
  | override {operatorGaiaID channelID reason : String} {suspended : Bool} {c : AbuseCase}
      (hstatus : c.status = "actioned") (hfree : db.cases.get? ("case_override_" ++ tick.id.text) = none) :
      Effect cm tick db ⟨.nodeOperatorSuspendChannel operatorGaiaID channelID suspended reason, .tracking⟩
        { db.tables with cases := db.cases.insertOrIgnore ("case_override_" ++ tick.id.text) c }

section Statements

variable {db db' : Database} {tick : Tick} {id : String}

@[grind →]
theorem createAbuseReview_some {r : AbuseReview} (h : createAbuseReview db id r = some db') :
    db.reviews.get? id = none ∧ db' = { db with reviews := db.reviews.insertOrIgnore id r } := by
  obtain ⟨hfree, h⟩ := Option.ite_none_right_eq_some.1 h
  exact ⟨Option.isNone_iff_eq_none.1 hfree.2, (Option.some.inj h).symm⟩

@[grind →]
theorem createAbuseAction_some {a : AbuseAction} (h : createAbuseAction db id a = some db') :
    db.actions.get? id = none ∧ db' = { db with actions := db.actions.insertOrIgnore id a } := by
  obtain ⟨hfree, h⟩ := Option.ite_none_right_eq_some.1 h
  exact ⟨Option.isNone_iff_eq_none.1 hfree.2, (Option.some.inj h).symm⟩

@[grind →]
theorem createAbuseAppeal_some {a : AbuseAppeal} (h : createAbuseAppeal db id a = some db') :
    db.appeals.get? id = none ∧ db' = { db with appeals := db.appeals.insertOrIgnore id a } := by
  obtain ⟨hfree, h⟩ := Option.ite_none_right_eq_some.1 h
  exact ⟨Option.isNone_iff_eq_none.1 hfree.2, (Option.some.inj h).symm⟩

theorem tables_attempt_event (e : AbuseCaseEvent) : (attempt tick db (createAbuseCaseEvent db e)).tables = db.tables := by
  grind [attempt, createAbuseCaseEvent, Database.tables]

theorem tables_attempt_suspend (channelID : UUID) (suspended : Bool) (reason : String) :
    (attempt tick db (some (suspendPublicChannel db channelID suspended reason))).tables = db.tables := by
  unfold attempt
  split
  · rfl
  rfl

theorem effect_attempt {cm : CaseMap} {call : Call} {statement : Option Database}
    (h : ∀ db', tick.fails = false → statement = some db' → Effect cm tick db call db'.tables) :
    Effect cm tick db call (attempt tick db statement).tables := by
  unfold attempt
  split
  · exact .quiet call
  rename_i hfails
  cases hstatement : statement <;> grind [Effect]

end Statements

theorem next_effect (cm : CaseMap) (config : Bootstrap) (tick : Tick) (db : Database) (call : Call) :
    Effect cm tick db call (next cm config tick db call).1.tables := by
  obtain ⟨request, stage⟩ := call
  cases request with
  | reviewCase reviewerGaiaID caseID categoryVote severityVote recommendation reason =>
    simp only [next, nextStage]
    fun_cases nextReview <;>
      try first | exact .quiet _ | grind [effect_attempt, Effect, tables_attempt_event, tables_attempt_suspend]
    · rename_i db' hdb
      obtain ⟨hfails, hdb⟩ := Option.ite_none_left_eq_some.1 hdb
      obtain ⟨hfree, rfl⟩ := createAbuseReview_some hdb
      exact .review (Bool.not_eq_true _ ▸ hfails) hfree
    · refine effect_attempt fun db' _ hdb => ?_
      obtain ⟨hfree, rfl⟩ := createAbuseAction_some hdb
      exact .action rfl hfree
  | appealCase senderGaiaID caseID reason statement =>
    simp only [next, nextStage]
    fun_cases nextAppeal <;> try first | exact .quiet _ | grind [effect_attempt, Effect, tables_attempt_event]
    rename_i db' hdb
    obtain ⟨hfails, hdb⟩ := Option.ite_none_left_eq_some.1 hdb
    obtain ⟨hfree, rfl⟩ := createAbuseAppeal_some hdb
    exact .appeal (Bool.not_eq_true _ ▸ hfails) hfree
  | resolveAppeal reviewerGaiaID caseID status decisionReason =>
    simp only [next, nextStage]
    fun_cases nextResolve <;>
      first | exact .quiet _ | grind [effect_attempt, Effect, tables_attempt_event, tables_attempt_suspend]
  | nodeOperatorSuspendChannel operatorGaiaID channelID suspended reason =>
    simp only [next, nextStage]
    fun_cases nextSuspend <;> try first | exact .quiet _ | grind [tables_attempt_event, Effect]
    refine effect_attempt fun db' _ hdb => ?_
    obtain ⟨hfree, hdb⟩ := Option.ite_none_left_eq_some.1 hdb
    obtain rfl := Option.some.inj hdb
    exact .override rfl (Option.not_isSome_iff_eq_none.1 hfree)

section Reviews

variable {cm : CaseMap} {tick : Tick} {db : Database} {call : Call} {t : Tables}

theorem Effect.reviews (h : Effect cm tick db call t) :
    t.reviews = db.reviews ∨
    ∃ reviewerGaiaID caseID categoryVote severityVote recommendation reason c,
      call = ⟨.reviewCase reviewerGaiaID caseID categoryVote severityVote recommendation reason, .voting c⟩ ∧
      tick.fails = false ∧ db.reviews.get? ("rev_" ++ tick.id.text) = none ∧ t.reviews =
        db.reviews.insertOrIgnore ("rev_" ++ tick.id.text)
          (newReview cm tick.now reviewerGaiaID caseID categoryVote severityVote recommendation reason) := by
  cases h with
  | review hfails hfree => grind
  | _ => exact .inl rfl

theorem mem_getAbuseReviews {caseID : String} {r : AbuseReview} :
    r ∈ getAbuseReviews db caseID ↔ ∃ id, db.reviews.get? id = some r ∧ r.caseID = caseID := by
  rw [getAbuseReviews, List.mem_filter, decide_eq_true_eq]
  constructor
  · rintro ⟨hmem, hcase⟩
    obtain ⟨⟨id, r'⟩, hrow, rfl⟩ := List.mem_map.1 hmem
    exact ⟨id, Table.get?_eq_some.2 hrow, hcase⟩
  grind

end Reviews

/-! ## The record -/

/-- Cases, reviews and appeals stay on record: of a case only the status changes, of an appeal only the decision. -/
structure Recorded (t t' : Tables) : Prop where
  cases : Table.Keeps (fun c : AbuseCase => { c with status := "" }) t.cases t'.cases
  reviews : Table.Keeps id t.reviews t'.reviews
  appeals : Table.Keeps (fun a : AbuseAppeal => (a.caseID, a.submittedBy, a.submittedAt, a.reason, a.statement))
    t.appeals t'.appeals

theorem Effect.recorded {cm : CaseMap} {tick : Tick} {db : Database} {call : Call} {t t' : Tables}
    (h : Effect cm tick db call t') (ht : Recorded t db.tables) : Recorded t t' := by
  cases h with
  | quiet | action | undo => exact ⟨ht.cases, ht.reviews, ht.appeals⟩
  | review => exact { ht with reviews := ht.reviews.insertOrIgnore }
  | actioned | appealed | closed => exact { ht with cases := ht.cases.updateWhere fun _ => rfl }
  | appeal => exact { ht with appeals := ht.appeals.insertOrIgnore }
  | decide => exact { ht with appeals := ht.appeals.updateWhere fun _ => rfl }
  | override => exact { ht with cases := ht.cases.insertOrIgnore }

/-- Whatever calls run side by side, from any state on: no case, review or appeal is removed, and what was reported, voted
or appealed is never rewritten. -/
theorem records_kept (cm : CaseMap) (config : Bootstrap) (p : System) (es : List Event) :
    Recorded p.shared.tables (exec (step cm config) p es).shared.tables := by
  refine exec_invariant (P := fun q : System => Recorded p.shared.tables q.shared.tables) (fun q e h => ?_) es
    ⟨fun _ _ => id, fun _ _ => id, fun _ _ => id⟩
  exact Pool.shared_step (P := fun db => Recorded p.shared.tables (Database.tables db)) h fun n tick call _ _ =>
    (next_effect cm config tick q.shared call).recorded h

end GaiaCom.Governance
